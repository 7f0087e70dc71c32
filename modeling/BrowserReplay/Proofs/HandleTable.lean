import BrowserReplay.Bridge.Process
import Mathlib.Algebra.Group.Nat.Defs
import Mathlib.Data.List.Nodup

/-!
# Tables of numbers

Giving a number to an element and striking one out keep a table valid: each of its numbers names one
element, and was given before the next one. `BridgedDocument.query_cases` and
`BridgedDocument.act_cases` say what comes of a query and of acting on a number, and
`BridgedDocument.process_cases` that no other request touches the table.
-/

namespace BrowserReplay.Bridge

namespace HandleTable

/-- Each number in a table names one element and was given already. -/
structure Valid (table : HandleTable) : Prop where
  distinct : (table.entries.map Prod.fst).Nodup
  given : ∀ entry ∈ table.entries, entry.1 < table.next

theorem valid_empty : Valid {} := ⟨List.nodup_nil, nofun⟩

theorem Valid.lookup_eq {table : HandleTable} (h : table.Valid) {handle : Nat} {id : ElementId}
    (hmem : (handle, id) ∈ table.entries) : table.entries.lookup handle = some id := by
  obtain ⟨entries, next⟩ := table
  have hdistinct := h.distinct
  clear h
  dsimp only at hmem hdistinct ⊢
  induction entries with
  | nil => cases hmem
  | cons entry rest ih =>
    rw [List.map_cons, List.nodup_cons] at hdistinct
    obtain rfl | hrest := List.mem_cons.1 hmem
    · exact List.lookup_cons_self
    · have hne : (handle == entry.1) = false := by
        rw [beq_eq_false_iff_ne]
        rintro rfl
        exact hdistinct.1 (List.mem_map.2 ⟨_, hrest, rfl⟩)
      rw [List.lookup_cons, hne]
      exact ih hrest hdistinct.2

theorem Valid.next_notMem {table : HandleTable} (h : table.Valid) :
    table.next ∉ table.entries.map Prod.fst := by
  intro hmem
  obtain ⟨entry, hentry, heq⟩ := List.mem_map.1 hmem
  have hlt := h.given entry hentry
  omega

/-- An element that is given a number is named by it then. -/
theorem Valid.remember {table : HandleTable} (h : table.Valid) (id : ElementId) :
    (table.remember id).2.Valid ∧
      (table.remember id).2.entries.lookup (table.remember id).1 = some id := by
  unfold HandleTable.remember
  cases hfind : table.entries.find? (·.2 = id) with
  | some entry =>
    have hid : entry.2 = id := by simpa using List.find?_some hfind
    have hmem : (entry.1, id) ∈ table.entries := hid ▸ List.mem_of_find?_eq_some hfind
    exact ⟨h, h.lookup_eq hmem⟩
  | none =>
    have hvalid : Valid ⟨table.entries ++ [(table.next, id)], table.next + 1⟩ := by
      constructor
      case distinct =>
        rw [List.map_append, List.map_singleton, ← List.concat_eq_append]
        exact h.distinct.concat h.next_notMem
      case given =>
        intro entry hentry
        obtain hold | hnew := List.mem_append.1 hentry
        · exact Nat.lt_succ_of_lt (h.given entry hold)
        · rw [List.mem_singleton.1 hnew]
          exact Nat.lt_succ_self _
    exact ⟨hvalid, hvalid.lookup_eq (List.mem_append_right _ List.mem_cons_self)⟩

theorem Valid.forget {table : HandleTable} (h : table.Valid) (handle : Nat) :
    (table.forget handle).Valid :=
  ⟨h.distinct.sublist (List.filter_sublist.map _),
    fun entry hentry => h.given entry (List.mem_filter.1 hentry).1⟩

theorem lookup_forget (table : HandleTable) (handle other : Nat) :
    (table.forget handle).entries.lookup other =
      if other = handle then none else table.entries.lookup other := by
  obtain ⟨entries, next⟩ := table
  induction entries with
  | nil => simp [HandleTable.forget]
  | cons entry rest ih =>
    obtain ⟨number, id⟩ := entry
    simp only [HandleTable.forget] at ih ⊢
    by_cases hstruck : number = handle
    · rw [List.filter_cons_of_neg (by simpa using hstruck), ih, List.lookup_cons]
      by_cases hother : other = handle
      · simp [hother]
      · have hne : (other == number) = false := by simp [hstruck, hother]
        simp [hother, hne]
    · rw [List.filter_cons_of_pos (by simpa using hstruck), List.lookup_cons, List.lookup_cons, ih]
      by_cases hfound : other = number
      · simp [hfound, hstruck]
      · have hne : (other == number) = false := by simp [hfound]
        simp [hne]

end HandleTable

/-! ### Requests -/

theorem eq_text_of_isText {slot : Slot} {text : String} (h : isText slot text = true) :
    slot = some (.text text) := by
  unfold isText at h
  split at h
  · rw [of_decide_eq_true h]
    rfl
  · cases h

theorem lookup_knownMembers (members : List (Option String × Json)) (name : Option String) :
    (knownMembers members).lookup name = (members.lookup name).map known := by
  induction members with
  | nil => rfl
  | cons entry rest ih =>
    obtain ⟨first, value⟩ := entry
    rw [knownMembers, List.lookup_cons, List.lookup_cons, ih]
    split <;> rfl

/-- The page knows the members of a value as it knows the value. -/
theorem member_known (value : Json) (name : String) :
    member (known value) name = (member value name).map known := by
  cases value with
  | object members => exact lookup_knownMembers members name
  | _ => simp [known, member]

theorem member_op (request : Request) :
    member (known request.toJson) "op" = some (.text request.op) := by
  have hop : member request.toJson "op" = some (.text request.op) := rfl
  rw [member_known, hop]
  rfl

theorem member_handle {request : Request} {handle : Handle}
    (hhandle : request.handle? = some handle) (h : handle < 2 ^ 53) :
    member (known request.toJson) "handle" = some (.nat handle) := by
  have hmember : member request.toJson "handle" = some (.nat handle) := by
    cases request <;> cases hhandle <;> rfl
  rw [member_known, hmember]
  exact congrArg (some ∘ Json.number) (Numeral.onPage_ofNat h)

/-- An element that is in a document. -/
theorem Document.exists_of_isConnected {document : Document} {id : ElementId}
    (h : document.isConnected id = true) :
    ∃ element, document.find? id = some element ∧ element.isConnected = true := by
  unfold Document.isConnected at h
  cases hfind : document.find? id with
  | none => simp [hfind] at h
  | some element => exact ⟨element, rfl, by simpa [hfind] using h⟩

namespace HandleTable

/-- What a number that is looked up in vain does to a table: it may be struck out itself. It is
looked up in vain if its element is not in the document. -/
structure Missed (table : HandleTable) (document : Document) (slot : Slot) (after : HandleTable) :
    Prop where
  struck : after = table ∨ ∃ handle, natural? slot = some handle ∧ after = table.forget handle
  reason : ∀ handle id, natural? slot = some handle → table.entries.lookup handle = some id →
    document.isConnected id = false

/-- A number is looked up with success, and then nothing changes, or in vain. -/
theorem lookup_cases (table : HandleTable) (document : Document) (slot : Slot) :
    (∃ handle id element, natural? slot = some handle ∧
      table.entries.lookup handle = some id ∧ document.find? id = some element ∧
      element.isConnected = true ∧ table.lookup document slot = (some id, table)) ∨
    ∃ after, table.lookup document slot = (none, after) ∧ Missed table document slot after := by
  unfold HandleTable.lookup
  cases hhandle : natural? slot with
  | none => exact .inr ⟨table, rfl, .inl rfl, fun _ _ h => by rw [hhandle] at h; cases h⟩
  | some handle =>
    cases hentry : table.entries.lookup handle with
    | none =>
      refine .inr ⟨table, by simp only [hentry], .inl rfl, fun other id hother hid => ?_⟩
      obtain rfl : handle = other := Option.some.inj (hhandle.symm.trans hother)
      cases hentry.symm.trans hid
    | some id =>
      cases hconnected : document.isConnected id with
      | true =>
        obtain ⟨element, hfind, hthere⟩ := Document.exists_of_isConnected hconnected
        exact .inl ⟨handle, id, element, rfl, hentry, hfind, hthere, by simp [hentry, hconnected]⟩
      | false =>
        refine .inr ⟨table.forget handle, by simp [hentry, hconnected], .inr ⟨handle, hhandle, rfl⟩,
          fun other id' hother hid => ?_⟩
        obtain rfl : handle = other := Option.some.inj (hhandle.symm.trans hother)
        obtain rfl : id = id' := Option.some.inj (hentry.symm.trans hid)
        exact hconnected

end HandleTable

namespace BridgedDocument

def handle? (request : Json) : Option Nat := natural? (member request "handle")

def isQuery (request : Json) : Bool := isText (member request "op") "query"

/-- A query gives a number to the element that it finds, or leaves the bridge alone. -/
theorem query_cases (state : BridgedDocument) (request : Json) :
    (∃ id, (evaluate state.document request).2 = .ok (some id) ∧
      state.query request = ⟨{ state with table := (state.table.remember id).2 },
        (evaluate state.document request).1, .ok (.nat (state.table.remember id).1)⟩) ∨
    (∀ id, (evaluate state.document request).2 ≠ .ok (some id)) ∧
      (state.query request).state = state := by
  unfold query
  obtain ⟨seen, thrown | _ | id⟩ := evaluate state.document request
  · exact .inr ⟨nofun, rfl⟩
  · exact .inr ⟨nofun, rfl⟩
  · exact .inl ⟨id, rfl, rfl⟩

/-- What comes of an action on an element. An action that throws is a failure of the page's code. -/
def Deed.processed (deed : Deed) (table : HandleTable) (handle : Slot) : Processed :=
  ⟨⟨deed.document, table⟩, deed.seen,
    match deed.trouble with
    | some thrown => .telling thrown
    | none => .ok (handle.getD .null)⟩

/-- A deed is answered with the number of its element unless it throws. -/
theorem Deed.answer_processed (deed : Deed) (table : HandleTable) {slot : Slot} {handle : Nat}
    (h : natural? slot = some handle) :
    (∃ thrown, (deed.processed table slot).answer = .telling thrown) ∨
      ∃ value, (deed.processed table slot).answer = .ok value ∧
        natural? (some value) = some handle := by
  unfold Deed.processed
  cases slot with
  | none => cases h
  | some value =>
    cases deed.trouble with
    | some thrown => exact .inl ⟨_, rfl⟩
    | none => exact .inr ⟨value, rfl, h⟩

/-- A request acts on the element that its number names, or is refused and does nothing. -/
theorem act_cases (state : BridgedDocument) (request : Json) (action : Document → Element → Deed) :
    (∃ handle id element, handle? request = some handle ∧
      state.table.entries.lookup handle = some id ∧ state.document.find? id = some element ∧
      element.isConnected = true ∧ state.act request action =
        (action state.document element).processed state.table (member request "handle")) ∨
    ∃ after, state.table.Missed state.document (member request "handle") after ∧
      state.act request action =
        ⟨{ state with table := after }, [], .failed .stale (staleText (member request "handle"))⟩ := by
  obtain ⟨handle, id, element, hhandle, hentry, hfind, hthere, hlookup⟩ | ⟨after, hlookup, hmissed⟩ :=
    state.table.lookup_cases state.document (member request "handle")
  · refine .inl ⟨handle, id, element, hhandle, hentry, hfind, hthere, ?_⟩
    simp only [act, hlookup, Option.bind_some, hfind]
    rfl
  · refine .inr ⟨after, hmissed, ?_⟩
    simp only [act, hlookup, Option.bind_none]

/-- A value that has members is answered for what the page makes of it. -/
theorem process_eq_answer {state : BridgedDocument} {request : Json} {text : String}
    (h : member (known request) "op" = some (.text text)) :
    state.process request = state.answer (known request) := by
  cases request with
  | null => cases h
  | _ => rfl

theorem action?_eq_none {request : Json} (h : isQuery request = true) : action? request = none := by
  simp [action?, eq_text_of_isText h, isText, Json.text]

theorem isQuery_eq_false {request : Json} {action : Document → Element → Deed}
    (h : action? request = some action) : isQuery request = false := by
  cases hquery : isQuery request with
  | true => cases h.symm.trans (action?_eq_none hquery)
  | false => rfl

theorem process_query {request : Json} (h : isQuery (known request) = true)
    (state : BridgedDocument) : state.process request = state.query (known request) := by
  rw [process_eq_answer (eq_text_of_isText h), answer]
  exact if_pos h

/-- A request that asks for no element acts on one or leaves the bridge and its document alone. -/
theorem process_cases {request : Json} (h : isQuery (known request) = false)
    (state : BridgedDocument) :
    (∃ action, action? (known request) = some action ∧
      state.process request = state.act (known request) action) ∨
    action? (known request) = none ∧ (state.process request).state = state := by
  have hquery : ¬ isText (member (known request) "op") "query" = true := by
    simpa [isQuery] using h
  have hanswer : (∃ action, action? (known request) = some action ∧
        state.answer (known request) = state.act (known request) action) ∨
      action? (known request) = none ∧ (state.answer (known request)).state = state := by
    simp only [answer, if_neg hquery]
    cases haction : action? (known request) with
    | some action => exact .inl ⟨action, rfl, rfl⟩
    | none =>
      refine .inr ⟨rfl, ?_⟩
      dsimp only
      split
      · unfold pressKey
        split <;> rfl
      · rfl
  cases request with
  | null => exact .inr ⟨rfl, rfl⟩
  | _ => exact hanswer

theorem process_act {state : BridgedDocument} {request : Json} {action : Document → Element → Deed}
    (h : action? (known request) = some action) :
    state.process request = state.act (known request) action := by
  rcases process_cases (isQuery_eq_false h) state with
    ⟨other, hother, hact⟩ | ⟨hnone, _⟩
  · obtain rfl := Option.some.inj (h.symm.trans hother)
    exact hact
  · cases h.symm.trans hnone

end BridgedDocument

end BrowserReplay.Bridge
