import BrowserReplay.Proofs.HandleTable
import Mathlib.Data.List.Induction

/-!
# Where requests land

A number names an element in one document only, and every document counts from one. So a number that
was given in a document that is gone may be given again, to another element. `Browsing` follows a tab
through any activity of its pages; its log tells of each request which document it found and what
came of it. A request that carries the number which the latest query has answered acts on the element
that this query has found, or on none.

The reason is an invariant of the log and the table (`Browsing.Sound`): since the latest query nothing
was entered into the table, so its number still names the same element, or was struck out, or the
whole table is gone.
-/

namespace BrowserReplay.Bridge

open BridgedDocument

/-! ### Tabs over time -/

inductive Happening where
  /-- The page does something: elements are detached, attached again, made, or changed. -/
  | change (document : Document)
  /-- Another document takes the place of this one. -/
  | leave (document : Document)
  /-- The bridge is installed, unless it is there. -/
  | install
  /-- The bridge is handed a request, and installed first if it is missing. -/
  | request (request : Json)

/-- A request, the document that it found, and what came of it. -/
structure Transaction where
  /-- How many documents the tab had left before. -/
  departures : Nat
  before : Document
  request : Json
  after : Document
  seen : List Sighting
  answer : Answer

/-- A tab and the requests that its bridge has got. -/
structure Browsing where
  tab : Tab
  departures : Nat := 0
  log : List Transaction := []

namespace Browsing

def opening (document : Document) : Browsing := { tab := { document } }

def transact (browsing : Browsing) (request : Json) : Transaction :=
  let (tab, seen, answer) := browsing.tab.process request
  ⟨browsing.departures, browsing.tab.document, request, tab.document, seen, answer⟩

def step (browsing : Browsing) : Happening → Browsing
  | .change document => { browsing with tab := { browsing.tab with document } }
  | .leave document =>
    { browsing with
      tab := browsing.tab.leaveFor document, departures := browsing.departures + 1 }
  | .install => { browsing with tab := browsing.tab.install }
  | .request request =>
    { browsing with
      tab := (browsing.tab.process request).1,
      log := browsing.log ++ [browsing.transact request] }

def run (browsing : Browsing) (happenings : List Happening) : Browsing :=
  happenings.foldl step browsing

end Browsing

/-! ### What a request asks for and what it does -/

/-- An element that a query has found: its document, its identity there, and the number that was
answered. -/
structure Finding where
  departures : Nat
  element : ElementId
  handle : Nat
  deriving DecidableEq, Repr

namespace Transaction

def isQuery (transaction : Transaction) : Bool := BridgedDocument.isQuery (known transaction.request)

def handle? (transaction : Transaction) : Option Nat :=
  BridgedDocument.handle? (known transaction.request)

def action? (transaction : Transaction) : Option (Document → Element → Deed) :=
  BridgedDocument.action? (known transaction.request)

/-- The element to which the page evaluates the request, and the number that it answers. -/
def finding? (transaction : Transaction) : Option Finding :=
  match (evaluate transaction.before (known transaction.request)).2, transaction.answer with
  | .ok (some element), .ok handle => handle.word?.map (⟨transaction.departures, element, ·⟩)
  | _, _ => none

/-- The request was refused as stale, and nothing was done. -/
structure Refused (transaction : Transaction) : Prop where
  answer : ∃ message, transaction.answer = .failed .stale message
  seen : transaction.seen = []
  document : transaction.after = transaction.before

end Transaction

def latestFinding (log : List Transaction) : Option Finding :=
  log.foldl (fun held transaction => if transaction.isQuery then transaction.finding? else held) none

/-- The requests after the latest query of a log, the last one first. -/
def sinceQuery (log : List Transaction) : List Transaction :=
  log.reverse.takeWhile (!·.isQuery)

def Sighting.element? : Sighting → Option ElementId
  | .click id | .focus id | .value id _ | .input id | .scroll id => some id
  | .css _ | .xpath _ | .key _ | .timer _ => none

/-- A deed touches one element only. -/
structure BridgedDocument.Deed.Touches (deed : Deed) (before : Document) (id : ElementId) : Prop where
  seen : ∀ sighting ∈ deed.seen, ∀ other ∈ sighting.element?, other = id
  others : ∀ other, other ≠ id → deed.document.find? other = before.find? other
  timers : ∀ timer ∈ deed.document.timers, timer ∈ before.timers ∨ timer.element = id

/-- A request has acted on an element that was found in the document that is still there. -/
structure Transaction.ActedOn (transaction : Transaction) (finding : Finding) : Prop where
  departures : transaction.departures = finding.departures
  deed : ∃ element action,
    transaction.before.find? finding.element = some element ∧ element.isConnected = true ∧
    transaction.action? = some action ∧
    transaction.after = (action transaction.before element).document ∧
    transaction.seen = (action transaction.before element).seen ∧
    (action transaction.before element).Touches transaction.before finding.element
  /-- The action either throws or is answered with the number. -/
  answer : (∃ thrown, transaction.answer = .telling thrown) ∨
    ∃ handle, transaction.answer = .ok handle ∧ natural? (some handle) = some finding.handle

/-! ### Reading the log -/

theorem latestFinding_concat (log : List Transaction) (transaction : Transaction) :
    latestFinding (log ++ [transaction]) =
      if transaction.isQuery then transaction.finding? else latestFinding log := by
  rw [latestFinding, List.foldl_append]
  rfl

theorem sinceQuery_concat (log : List Transaction) (transaction : Transaction) :
    sinceQuery (log ++ [transaction]) =
      if transaction.isQuery then [] else transaction :: sinceQuery log := by
  rw [sinceQuery, List.reverse_append, List.reverse_singleton, List.singleton_append,
    List.takeWhile_cons]
  cases transaction.isQuery <;> rfl

/-- An entry of a log that has grown is the new one or was there before. -/
theorem split_concat {log earlier later : List Transaction} {new transaction : Transaction}
    (h : log ++ [new] = earlier ++ transaction :: later) :
    later = [] ∧ log = earlier ∧ new = transaction ∨
      ∃ rest, later = rest ++ [new] ∧ log = earlier ++ transaction :: rest := by
  obtain rfl | ⟨rest, last, rfl⟩ := List.eq_nil_or_concat' later
  · obtain ⟨rfl, hlast⟩ := List.append_inj' h rfl
    exact .inl ⟨rfl, rfl, List.singleton_inj.1 hlast⟩
  · rw [← List.cons_append, ← List.append_assoc] at h
    obtain ⟨rfl, hlast⟩ := List.append_inj' h rfl
    exact .inr ⟨rest, by rw [List.singleton_inj.1 hlast], rfl⟩

theorem eq_of_word?_nat {n word : Nat} (h : (Json.nat n).word? = some word) : n = word := by
  simp only [Json.nat, Json.word?, Numeral.toWord?, Numeral.ofNat] at h
  split at h
  · exact Option.some.inj h
  · cases h

theorem Transaction.finding?_eq_some {transaction : Transaction} {finding : Finding}
    (h : transaction.finding? = some finding) :
    (evaluate transaction.before (known transaction.request)).2 = .ok (some finding.element) ∧
      transaction.departures = finding.departures ∧
      ∃ handle, transaction.answer = .ok handle ∧ handle.word? = some finding.handle := by
  unfold Transaction.finding? at h
  split at h
  next element handle hfound hanswer =>
    obtain ⟨word, hword, rfl⟩ := Option.map_eq_some_iff.1 h
    exact ⟨hfound, rfl, handle, hanswer, hword⟩
  next => cases h

/-! ### Deeds -/

theorem Document.find?_update {document : Document} {id other : ElementId}
    {change : Element → Element} (hchange : ∀ element, (change element).id = element.id)
    (hother : other ≠ id) : (document.update id change).find? other = document.find? other := by
  unfold Document.update Document.find?
  induction document.elements with
  | nil => rfl
  | cons element rest ih =>
    rw [List.map_cons, List.find?_cons, List.find?_cons, ih]
    by_cases hid : element.id = id
    · simp [hid, hchange, hother.symm]
    · simp [hid]

namespace BridgedDocument

theorem Deed.touches_unless (document : Document) (trouble : Option Thrown)
    {seen : List Sighting} {id : ElementId}
    (h : ∀ sighting ∈ seen, ∀ other ∈ sighting.element?, other = id) :
    (Deed.unless document trouble seen).Touches document id := by
  cases trouble with
  | some thrown => exact ⟨nofun, fun _ _ => rfl, fun _ h => .inl h⟩
  | none => exact ⟨h, fun _ _ => rfl, fun _ h => .inl h⟩

theorem highlight_touches (color delay : Slot) (document : Document) (element : Element) :
    (highlight color delay document element).Touches document element.id := by
  unfold highlight
  split
  · exact ⟨nofun, fun _ _ => rfl, fun _ h => .inl h⟩
  constructor
  case isFalse.seen =>
    intro sighting hsighting other hother
    obtain hscroll | htimer := List.mem_append.1 hsighting
    · split at hscroll
      · rw [List.mem_singleton.1 hscroll] at hother
        exact (Option.some.inj hother).symm
      · cases hscroll
    · rw [List.mem_singleton.1 htimer] at hother
      cases hother
  case isFalse.others => exact fun other hother => Document.find?_update (fun _ => rfl) hother
  case isFalse.timers =>
    intro timer htimer
    obtain hold | hnew := List.mem_append.1 htimer
    · exact .inl hold
    · rw [List.mem_singleton.1 hnew]
      exact .inr rfl

/-- Whatever a request does to an element, it touches no other. -/
theorem touches_of_action? {request : Json} {action : Document → Element → Deed}
    (h : BridgedDocument.action? request = some action) (document : Document) (element : Element) :
    (action document element).Touches document element.id := by
  simp only [BridgedDocument.action?] at h
  split at h
  · cases h
    exact Deed.touches_unless _ _ (by simp [Sighting.element?])
  split at h
  · cases h
    exact Deed.touches_unless _ _ (by simp [Sighting.element?])
  split at h
  · cases h
    exact Deed.touches_unless _ _ (by simp [Sighting.element?])
  split at h
  · cases h
    exact highlight_touches _ _ document element
  · cases h

end BridgedDocument

/-! ### The invariant -/

namespace Tab

def table (tab : Tab) : HandleTable := tab.bridge.getD {}

end Tab

namespace Browsing

/-- What is known of the element that the latest query has found. In its own document its number
still names it or was struck out by a request that was refused; in a later document no number was
given yet. -/
structure Holds (browsing : Browsing) (finding : Finding) : Prop where
  past : finding.departures ≤ browsing.departures
  gone : finding.departures < browsing.departures → browsing.tab.table.entries = []
  here : finding.departures = browsing.departures →
    browsing.tab.table.entries.lookup finding.handle = some finding.element ∨
      browsing.tab.table.entries.lookup finding.handle = none ∧
        ∃ transaction ∈ sinceQuery browsing.log,
          transaction.handle? = some finding.handle ∧ transaction.Refused

/-- What holds of a tab at any time. -/
structure Sound (browsing : Browsing) : Prop where
  table : browsing.tab.table.Valid
  latest : ∀ finding, latestFinding browsing.log = some finding → browsing.Holds finding

theorem sound_opening (document : Document) : (opening document).Sound :=
  ⟨HandleTable.valid_empty, nofun⟩

def bridged (browsing : Browsing) : BridgedDocument := ⟨browsing.tab.document, browsing.tab.table⟩

/-- A tab goes on as its bridge does. -/
theorem step_request (browsing : Browsing) (request : Json) {done : Processed}
    (hdone : browsing.bridged.process request = done) :
    (browsing.step (.request request)).tab.table = done.state.table ∧
      browsing.transact request =
        ⟨browsing.departures, browsing.tab.document, request, done.state.document, done.seen,
          done.answer⟩ := by
  subst hdone
  exact ⟨rfl, rfl⟩

theorem latestFinding_request (browsing : Browsing) (request : Json) :
    latestFinding (browsing.step (.request request)).log =
      if isQuery (known request) then (browsing.transact request).finding?
      else latestFinding browsing.log :=
  latestFinding_concat browsing.log (browsing.transact request)

theorem sinceQuery_request (browsing : Browsing) (request : Json) :
    sinceQuery (browsing.step (.request request)).log =
      if isQuery (known request) then [] else browsing.transact request :: sinceQuery browsing.log :=
  sinceQuery_concat browsing.log (browsing.transact request)

theorem Sound.query {browsing : Browsing} (h : browsing.Sound) {request : Json}
    (hquery : isQuery (known request) = true) : (browsing.step (.request request)).Sound := by
  have hlatest := latestFinding_request browsing request
  rw [if_pos hquery] at hlatest
  have hprocess := process_query hquery browsing.bridged
  obtain ⟨id, hfound, hdone⟩ | ⟨hfound, hstate⟩ := query_cases browsing.bridged (known request)
  · obtain ⟨htable, htransact⟩ := step_request browsing request (hprocess.trans hdone)
    obtain ⟨hvalid, hlookup⟩ := h.table.remember id
    refine ⟨htable ▸ hvalid, fun finding hfinding => ?_⟩
    obtain ⟨helement, hdepartures, handle, hanswer, hhandle⟩ :=
      Transaction.finding?_eq_some (hlatest.symm.trans hfinding)
    rw [htransact] at helement hdepartures hanswer
    obtain rfl : id = finding.element :=
      Option.some.inj (Except.ok.inj (hfound.symm.trans helement))
    cases hanswer
    refine ⟨Nat.le_of_eq hdepartures.symm, fun hlt => absurd hdepartures.symm (Nat.ne_of_lt hlt),
      fun _ => .inl ?_⟩
    rw [htable, ← eq_of_word?_nat hhandle]
    exact hlookup
  · obtain ⟨htable, htransact⟩ := step_request browsing request hprocess
    rw [hstate] at htable
    refine ⟨htable ▸ h.table, fun finding hfinding => ?_⟩
    obtain ⟨helement, _⟩ := Transaction.finding?_eq_some (hlatest.symm.trans hfinding)
    rw [htransact] at helement
    exact absurd helement (hfound finding.element)

/-- What is known of the latest find stays so while no query is made: a number is struck out only by
a request that is refused. -/
theorem Holds.request {browsing : Browsing} {finding : Finding} (h : browsing.Holds finding)
    {request : Json} (hquery : isQuery (known request) = false)
    (htable : (browsing.step (.request request)).tab.table = browsing.tab.table ∨
      ∃ handle, handle? (known request) = some handle ∧ (browsing.transact request).Refused ∧
        (browsing.step (.request request)).tab.table = browsing.tab.table.forget handle) :
    (browsing.step (.request request)).Holds finding := by
  have hsince := sinceQuery_request browsing request
  rw [if_neg (Bool.eq_false_iff.1 hquery)] at hsince
  constructor
  case past => exact h.past
  case gone =>
    intro hlt
    have hentries := h.gone hlt
    obtain hsame | ⟨handle, _, _, hforget⟩ := htable
    · rw [hsame]
      exact hentries
    · rw [hforget, HandleTable.forget, hentries]
      rfl
  case here =>
    intro heq
    rw [hsince]
    have hlonger : (∃ transaction ∈ sinceQuery browsing.log,
          transaction.handle? = some finding.handle ∧ transaction.Refused) →
        ∃ transaction ∈ browsing.transact request :: sinceQuery browsing.log,
          transaction.handle? = some finding.handle ∧ transaction.Refused := by
      rintro ⟨transaction, hmem, hstruck⟩
      exact ⟨transaction, List.mem_cons_of_mem _ hmem, hstruck⟩
    obtain hsame | ⟨handle, hhandle, hrefused, hforget⟩ := htable
    · rw [hsame]
      exact (h.here heq).imp_right fun hgone => hgone.imp_right hlonger
    · rw [hforget, HandleTable.lookup_forget]
      by_cases hstruck : finding.handle = handle
      · rw [if_pos hstruck, hstruck]
        exact .inr ⟨rfl, _, List.mem_cons_self, hhandle, hrefused⟩
      · rw [if_neg hstruck]
        exact (h.here heq).imp_right fun hgone => hgone.imp_right hlonger

/-- A request that acts on an element has acted on the one that its number names, or was refused
because the number names none in the document. -/
theorem transact_cases (browsing : Browsing) {request : Json}
    {action : Document → Element → Deed} (haction : action? (known request) = some action) :
    (∃ handle id, handle? (known request) = some handle ∧
      browsing.tab.table.entries.lookup handle = some id ∧
      (browsing.transact request).ActedOn ⟨browsing.departures, id, handle⟩ ∧
      (browsing.step (.request request)).tab.table = browsing.tab.table) ∨
    (browsing.transact request).Refused ∧
      browsing.tab.table.Missed browsing.tab.document (member (known request) "handle")
        (browsing.step (.request request)).tab.table := by
  obtain ⟨action', haction', hprocess⟩ | ⟨hnone, _⟩ :=
    process_cases (isQuery_eq_false haction) browsing.bridged
  · obtain rfl : action = action' := Option.some.inj (haction.symm.trans haction')
    obtain ⟨handle, id, element, hhandle, hentry, hfind, hthere, hact⟩ | ⟨after, hmissed, hact⟩ :=
      act_cases browsing.bridged (known request) action
    · obtain ⟨htable, htransact⟩ := step_request browsing request (hprocess.trans hact)
      refine .inl ⟨handle, id, hhandle, hentry, ?_, htable⟩
      have hid : element.id = id := by simpa using List.find?_some hfind
      have htouches := touches_of_action? haction browsing.tab.document element
      rw [hid] at htouches
      rw [htransact]
      exact ⟨rfl, ⟨element, action, hfind, hthere, haction, rfl, rfl, htouches⟩,
        Deed.answer_processed _ browsing.tab.table hhandle⟩
    · obtain ⟨htable, htransact⟩ := step_request browsing request (hprocess.trans hact)
      refine .inr ⟨?_, htable ▸ hmissed⟩
      rw [htransact]
      exact ⟨⟨_, rfl⟩, rfl, rfl⟩
  · cases haction.symm.trans hnone

/-- A request that asks for no element leaves the table as it is or strikes out the number that it
carries, and then it is refused. -/
theorem step_table (browsing : Browsing) {request : Json}
    (hquery : isQuery (known request) = false) :
    (browsing.step (.request request)).tab.table = browsing.tab.table ∨
      ∃ handle, handle? (known request) = some handle ∧ (browsing.transact request).Refused ∧
        (browsing.step (.request request)).tab.table = browsing.tab.table.forget handle := by
  obtain ⟨action, haction, _⟩ | ⟨_, hstate⟩ := process_cases hquery browsing.bridged
  · obtain ⟨_, _, _, _, _, hsame⟩ | ⟨hrefused, hmissed⟩ := transact_cases browsing haction
    · exact .inl hsame
    · refine hmissed.struck.imp_right fun ⟨handle, hhandle, hforget⟩ => ?_
      exact ⟨handle, hhandle, hrefused, hforget⟩
  · refine .inl ((step_request browsing request rfl).1.trans ?_)
    rw [hstate]
    rfl

theorem Sound.request {browsing : Browsing} (h : browsing.Sound) {request : Json}
    (hquery : isQuery (known request) = false) : (browsing.step (.request request)).Sound := by
  have htable := browsing.step_table hquery
  have hlatest := latestFinding_request browsing request
  rw [if_neg (Bool.eq_false_iff.1 hquery)] at hlatest
  refine ⟨?_, fun finding hfinding => ?_⟩
  · obtain hsame | ⟨handle, _, _, hforget⟩ := htable
    · exact hsame ▸ h.table
    · exact hforget ▸ h.table.forget handle
  · exact (h.latest finding (hlatest.symm.trans hfinding)).request hquery htable

/-- Whatever happens in a tab keeps it sound. -/
theorem Sound.step {browsing : Browsing} (h : browsing.Sound) (happening : Happening) :
    (browsing.step happening).Sound := by
  cases happening with
  | change document =>
    refine ⟨h.table, fun finding hfinding => ?_⟩
    obtain ⟨hpast, hgone, hhere⟩ := h.latest finding hfinding
    exact ⟨hpast, hgone, hhere⟩
  | leave document =>
    refine ⟨HandleTable.valid_empty, fun finding hfinding => ?_⟩
    have hpast := (h.latest finding hfinding).past
    exact ⟨Nat.le_succ_of_le hpast, fun _ => rfl,
      fun heq => absurd (Nat.lt_succ_of_le hpast) (heq ▸ Nat.lt_irrefl _)⟩
  | install =>
    refine ⟨h.table, fun finding hfinding => ?_⟩
    obtain ⟨hpast, hgone, hhere⟩ := h.latest finding hfinding
    exact ⟨hpast, hgone, hhere⟩
  | request request =>
    cases hquery : isQuery (known request) with
    | true => exact h.query hquery
    | false => exact h.request hquery

end Browsing

/-! ### Where requests land -/

/-- A request that carries the number which the latest query of the log has answered acts on the
element that this query has found, or on none. It is refused only if the document was left since, or
the element is not in it, or the number was struck out by a refusal since. -/
def Transaction.Lands (log : List Transaction) (transaction : Transaction) : Prop :=
  ∀ finding, latestFinding log = some finding → transaction.action?.isSome = true →
    transaction.handle? = some finding.handle →
    transaction.ActedOn finding ∨
      transaction.Refused ∧
        (transaction.departures ≠ finding.departures ∨
          transaction.before.isConnected finding.element = false ∨
          ∃ earlier ∈ sinceQuery log,
            earlier.handle? = some finding.handle ∧ earlier.Refused)

namespace Browsing

theorem Sound.lands {browsing : Browsing} (h : browsing.Sound) (request : Json) :
    (browsing.transact request).Lands browsing.log := by
  intro finding hfinding haction hhandle
  obtain ⟨action, haction⟩ := Option.isSome_iff_exists.1 haction
  obtain ⟨hpast, hgone, hhere⟩ := h.latest finding hfinding
  obtain ⟨handle, id, hnumber, hentry, hacted, _⟩ | ⟨hrefused, hmissed⟩ :=
    transact_cases browsing haction
  · obtain rfl : finding.handle = handle := Option.some.inj (hhandle.symm.trans hnumber)
    obtain hlt | heq := Nat.lt_or_eq_of_le hpast
    · rw [hgone hlt] at hentry
      cases hentry
    · obtain hsame | ⟨hnone, _⟩ := hhere heq
      · obtain rfl : finding.element = id := Option.some.inj (hsame.symm.trans hentry)
        rw [← heq] at hacted
        exact .inl hacted
      · cases hnone.symm.trans hentry
  · refine .inr ⟨hrefused, ?_⟩
    obtain hlt | heq := Nat.lt_or_eq_of_le hpast
    · exact .inl (Nat.ne_of_gt hlt)
    · obtain hsame | ⟨_, hstruck⟩ := hhere heq
      · exact .inr (.inl (hmissed.reason _ _ hhandle hsame))
      · exact .inr (.inr hstruck)

/-- What holds of a tab at first and is kept by what happens in it holds at all times, and then so does
what it says of the next request. -/
theorem run_induction {Invariant : Browsing → Prop} {Claim : List Transaction → Transaction → Prop}
    (allowed : Happening → Prop) {start : Browsing} (hlog : start.log = [])
    (hstart : Invariant start)
    (hstep : ∀ browsing happening, allowed happening → Invariant browsing →
      Invariant (browsing.step happening))
    (hclaim : ∀ browsing request, Invariant browsing →
      Claim browsing.log (browsing.transact request))
    (happenings : List Happening) (hallowed : ∀ happening ∈ happenings, allowed happening) :
    Invariant (start.run happenings) ∧ ∀ earlier transaction later,
      (start.run happenings).log = earlier ++ transaction :: later → Claim earlier transaction := by
  induction happenings using List.reverseRecOn with
  | nil =>
    refine ⟨hstart, fun earlier transaction later h => ?_⟩
    have hnil : [] = earlier ++ transaction :: later := hlog.symm.trans h
    cases earlier <;> cases hnil
  | append_singleton happenings happening ih =>
    obtain ⟨hinvariant, hclaims⟩ :=
      ih fun earlier hearlier => hallowed earlier (List.mem_append_left _ hearlier)
    have hlast := hallowed happening (List.mem_append_right _ List.mem_cons_self)
    rw [run, List.foldl_append]
    refine ⟨hstep _ _ hlast hinvariant, fun earlier transaction later h => ?_⟩
    cases happening with
    | request request =>
      have hconcat : (start.run happenings).log ++ [(start.run happenings).transact request] =
          earlier ++ transaction :: later := h
      obtain ⟨-, rfl, rfl⟩ | ⟨rest, -, hrest⟩ := split_concat hconcat
      · exact hclaim _ request hinvariant
      · exact hclaims earlier transaction rest hrest
    | _ => exact hclaims earlier transaction later h

/-- A tab stays sound, and each request so far has landed where it should. -/
theorem sound_run (document : Document) (happenings : List Happening) :
    ((opening document).run happenings).Sound ∧
      ∀ earlier transaction later,
        ((opening document).run happenings).log = earlier ++ transaction :: later →
        transaction.Lands earlier :=
  run_induction (fun _ => True) rfl (sound_opening document)
    (fun _ happening _ hsound => hsound.step happening) (fun _ request hsound => hsound.lands request)
    happenings fun _ _ => trivial

end Browsing

def buttonDocument (id : ElementId) : Document where
  elements := [{ id }]
  css _ := .ok (some id)

end BrowserReplay.Bridge
