import BrowserReplay.Proofs.Landing

/-!
# Numbers that are issued

In one document a number belongs to the element for which it was issued, whatever becomes of the
element. Elements may be detached and attached again, and a number that is used meanwhile is struck
out. The element gets a new one when it is found again, and the old one is not given to another.

The reason is an invariant of the table and the log (`Browsing.Lasts`): the entries of the table
were issued by queries of the log, and what was issued is still there or was struck out by a request
that the log tells of.
-/

namespace BrowserReplay.Bridge

open BridgedDocument

/-! ### What is issued -/

namespace Transaction

/-- The request has found an element, and the number of the element was answered. -/
structure Issues (transaction : Transaction) (handle : Nat) (id : ElementId) : Prop where
  query : transaction.isQuery = true
  found : (evaluate transaction.before (known transaction.request)).2 = .ok (some id)
  answer : transaction.answer = .ok (.nat handle)

/-- The request has done nothing to any element. -/
structure TouchesNone (transaction : Transaction) : Prop where
  document : transaction.after = transaction.before
  seen : ∀ sighting ∈ transaction.seen, sighting.element? = none

/-- A request on a number was refused. -/
def Strikes (transaction : Transaction) (handle : Nat) : Prop :=
  transaction.handle? = some handle ∧ transaction.Refused

theorem Issues.unique {transaction : Transaction} {handle other : Nat} {id id' : ElementId}
    (h : transaction.Issues handle id) (h' : transaction.Issues other id') :
    handle = other ∧ id = id' := by
  have hanswer := h.answer.symm.trans h'.answer
  have hfound := h.found.symm.trans h'.found
  cases hanswer
  cases hfound
  exact ⟨rfl, rfl⟩

end Transaction

/-- An element that is given a number has it already, or gets the next one. -/
theorem HandleTable.remember_cases (table : HandleTable) (id : ElementId) :
    (((table.remember id).1, id) ∈ table.entries ∧ (table.remember id).2 = table) ∨
      (∀ entry ∈ table.entries, entry.2 ≠ id) ∧ table.remember id =
        (table.next, ⟨table.entries ++ [(table.next, id)], table.next + 1⟩) := by
  unfold HandleTable.remember
  cases hfind : table.entries.find? (·.2 = id) with
  | some entry =>
    have hid : entry.2 = id := by simpa using List.find?_some hfind
    exact .inl ⟨hid ▸ List.mem_of_find?_eq_some hfind, rfl⟩
  | none =>
    refine .inr ⟨fun entry hentry => ?_, rfl⟩
    simpa using List.find?_eq_none.1 hfind entry hentry

/-- A table in which no element has two numbers stays such a table when an element is remembered,
and has one entry more at most. -/
theorem HandleTable.Valid.remember_grows {table : HandleTable} (h : table.Valid)
    (hnodup : (table.entries.map Prod.snd).Nodup) (id : ElementId) :
    let given := table.remember id
    (given.2.entries.map Prod.snd).Nodup ∧ table.next ≤ given.2.next ∧ given.1 < given.2.next ∧
      ∀ entry, entry ∈ given.2.entries ↔ entry ∈ table.entries ∨ entry = (given.1, id) := by
  intro given
  rcases table.remember_cases id with ⟨hmem, hsame⟩ | ⟨hnew, hnext⟩
  · rw [hsame]
    refine ⟨hnodup, Nat.le_refl _, h.given _ hmem, fun entry => ?_⟩
    exact ⟨.inl, fun hentry => hentry.elim (·) fun heq => heq ▸ hmem⟩
  · rw [show given = _ from hnext]
    have hfresh : id ∉ table.entries.map Prod.snd := by
      rw [List.mem_map]
      rintro ⟨entry, hentry, rfl⟩
      exact hnew entry hentry rfl
    refine ⟨?_, Nat.le_succ _, Nat.lt_succ_self _, fun entry => by simp⟩
    rw [List.map_append, List.map_singleton, ← List.concat_eq_append]
    exact hnodup.concat hfresh

/-- A request that acts on no element touches none. -/
theorem BridgedDocument.process_touches_none (state : BridgedDocument) {request : Json}
    (h : action? (known request) = none) :
    (state.process request).state.document = state.document ∧
      ∀ sighting ∈ (state.process request).seen, sighting.element? = none := by
  have hevaluate : ∀ sighting ∈ (evaluate state.document (known request)).1,
      sighting.element? = none := by
    simp only [evaluate]
    split
    · simp [Sighting.element?]
    split <;> simp [Sighting.element?]
  have hquery : (state.query (known request)).state.document = state.document ∧
      (state.query (known request)).seen = (evaluate state.document (known request)).1 := by
    unfold query
    split
    next seen found hevaluation =>
      rw [hevaluation]
      cases found with
      | error thrown => exact ⟨rfl, rfl⟩
      | ok found => cases found <;> exact ⟨rfl, rfl⟩
  have hanswer : (state.answer (known request)).state.document = state.document ∧
      ∀ sighting ∈ (state.answer (known request)).seen, sighting.element? = none := by
    simp only [answer, h]
    split
    · exact ⟨hquery.1, hquery.2 ▸ hevaluate⟩
    split
    · unfold pressKey
      split <;> simp [reply, Sighting.element?]
    · exact ⟨rfl, List.forall_mem_nil _⟩
  cases request with
  | null => exact ⟨rfl, List.forall_mem_nil _⟩
  | _ => exact hanswer

/-! ### The invariant -/

namespace Browsing

/-- What holds of a tab as long as it stays in its document. -/
structure Lasts (browsing : Browsing) : Prop where
  table : browsing.tab.table.Valid
  /-- No element has two numbers. -/
  elements : (browsing.tab.table.entries.map Prod.snd).Nodup
  origin : ∀ handle id, (handle, id) ∈ browsing.tab.table.entries →
    ∃ transaction ∈ browsing.log, transaction.Issues handle id
  past : ∀ transaction ∈ browsing.log, ∀ handle id, transaction.Issues handle id →
    handle < browsing.tab.table.next
  unique : ∀ first ∈ browsing.log, ∀ second ∈ browsing.log, ∀ handle id other,
    first.Issues handle id → second.Issues handle other → id = other
  /-- An issued number is in the table unless it was struck out. -/
  kept : ∀ earlier transaction later, browsing.log = earlier ++ transaction :: later →
    ∀ handle id, transaction.Issues handle id →
    (handle, id) ∈ browsing.tab.table.entries ∨ ∃ struck ∈ later, struck.Strikes handle

theorem lasts_opening (document : Document) : (opening document).Lasts := by
  constructor
  case table => exact HandleTable.valid_empty
  case elements => exact List.nodup_nil
  case origin => intro handle id hentry; cases hentry
  case past => intro transaction hmem; cases hmem
  case unique => intro first hmem; cases hmem
  case kept =>
    intro earlier transaction later hlog
    have hnil : [] = earlier ++ transaction :: later := hlog
    cases earlier <;> cases hnil

/-- A request issues the number of the element that it finds, or none. Then it leaves the table
alone or strikes out the number that it carries. -/
theorem issues_cases (browsing : Browsing) (request : Json) :
    (∃ id, (browsing.transact request).Issues (browsing.tab.table.remember id).1 id ∧
      (browsing.step (.request request)).tab.table = (browsing.tab.table.remember id).2) ∨
    (∀ handle id, ¬ (browsing.transact request).Issues handle id) ∧
      ((browsing.step (.request request)).tab.table = browsing.tab.table ∨
        ∃ handle, (browsing.transact request).Strikes handle ∧
          (browsing.step (.request request)).tab.table = browsing.tab.table.forget handle) := by
  cases hquery : isQuery (known request) with
  | false =>
    refine .inr ⟨fun handle id hissues => ?_, ?_⟩
    · exact absurd hissues.query (Bool.eq_false_iff.1 hquery)
    · refine (browsing.step_table hquery).imp_right fun ⟨handle, hhandle, hrefused, hforget⟩ => ?_
      exact ⟨handle, ⟨hhandle, hrefused⟩, hforget⟩
  | true =>
    have hprocess := process_query hquery browsing.bridged
    rcases query_cases browsing.bridged (known request) with ⟨id, hfound, hdone⟩ | ⟨hfound, hstate⟩
    · obtain ⟨htable, htransact⟩ := step_request browsing request (hprocess.trans hdone)
      refine .inl ⟨id, ?_, htable⟩
      rw [htransact]
      exact ⟨hquery, hfound, rfl⟩
    · obtain ⟨htable, htransact⟩ := step_request browsing request hprocess
      refine .inr ⟨fun handle id hissues => ?_, .inl ?_⟩
      · have hid := hissues.found
        rw [htransact] at hid
        exact hfound id hid
      · rw [htable, hstate]
        rfl

/-- The number that an element gets was issued for no other: it is in the table already, or it is
beyond all that were issued. -/
theorem Lasts.eq_of_number {browsing : Browsing} (h : browsing.Lasts) {first : Transaction}
    (hfirst : first ∈ browsing.log) {id other : ElementId}
    (hissues : first.Issues (browsing.tab.table.remember id).1 other) : other = id := by
  rcases browsing.tab.table.remember_cases id with ⟨hmem, _⟩ | ⟨_, hnext⟩
  · obtain ⟨origin, horigin, hissued⟩ := h.origin _ _ hmem
    exact h.unique first hfirst origin horigin _ _ _ hissues hissued
  · have hlt := h.past first hfirst _ _ hissues
    rw [hnext] at hlt
    exact absurd hlt (Nat.lt_irrefl _)

theorem Lasts.issue {browsing : Browsing} (h : browsing.Lasts) {request : Json} {id : ElementId}
    (hissues : (browsing.transact request).Issues (browsing.tab.table.remember id).1 id)
    (htable : (browsing.step (.request request)).tab.table = (browsing.tab.table.remember id).2) :
    (browsing.step (.request request)).Lasts := by
  obtain ⟨hnodup, hnext, hlt, hentries⟩ := h.table.remember_grows h.elements id
  have hlog : (browsing.step (.request request)).log =
    browsing.log ++ [browsing.transact request] := rfl
  constructor
  case table => exact htable ▸ (h.table.remember id).1
  case elements => exact htable ▸ hnodup
  case origin =>
    intro handle other hentry
    rw [htable, hentries] at hentry
    rw [hlog]
    rcases hentry with hold | hnew
    · obtain ⟨first, hfirst, horigin⟩ := h.origin handle other hold
      exact ⟨first, List.mem_append_left _ hfirst, horigin⟩
    · cases hnew
      exact ⟨_, List.mem_append_right _ List.mem_cons_self, hissues⟩
  case past =>
    intro transaction hmem handle other hother
    rw [htable]
    rcases List.mem_append.1 hmem with hold | hlast
    · exact Nat.lt_of_lt_of_le (h.past transaction hold handle other hother) hnext
    · rw [List.mem_singleton.1 hlast] at hother
      rw [(hother.unique hissues).1]
      exact hlt
  case unique =>
    intro first hfirst second hsecond handle one other hone hother
    rcases List.mem_append.1 hfirst with hold | hlast <;>
      rcases List.mem_append.1 hsecond with hold' | hlast'
    · exact h.unique first hold second hold' handle one other hone hother
    · rw [List.mem_singleton.1 hlast'] at hother
      obtain ⟨rfl, rfl⟩ := hother.unique hissues
      exact h.eq_of_number hold hone
    · rw [List.mem_singleton.1 hlast] at hone
      obtain ⟨rfl, rfl⟩ := hone.unique hissues
      exact (h.eq_of_number hold' hother).symm
    · rw [List.mem_singleton.1 hlast] at hone
      rw [List.mem_singleton.1 hlast'] at hother
      exact (hone.unique hother).2
  case kept =>
    intro earlier transaction later hsplit handle other hother
    rw [htable, hentries]
    rcases split_concat hsplit with ⟨-, -, rfl⟩ | ⟨rest, rfl, hold⟩
    · obtain ⟨rfl, rfl⟩ := hother.unique hissues
      exact .inl (.inr rfl)
    · refine (h.kept earlier transaction rest hold handle other hother).imp .inl ?_
      rintro ⟨struck, hmem, hstruck⟩
      exact ⟨struck, List.mem_append_left _ hmem, hstruck⟩

/-- A request that issues no number keeps the invariant if it leaves the table alone or strikes out
its own number. -/
theorem Lasts.of_not_issues {browsing : Browsing} (h : browsing.Lasts) {request : Json}
    (hnone : ∀ handle id, ¬ (browsing.transact request).Issues handle id)
    (htable : (browsing.step (.request request)).tab.table = browsing.tab.table ∨
      ∃ handle, (browsing.transact request).Strikes handle ∧
        (browsing.step (.request request)).tab.table = browsing.tab.table.forget handle) :
    (browsing.step (.request request)).Lasts := by
  have hlog : (browsing.step (.request request)).log =
    browsing.log ++ [browsing.transact request] := rfl
  have hold {transaction : Transaction} {handle : Nat} {id : ElementId}
      (hmem : transaction ∈ (browsing.step (.request request)).log)
      (hissues : transaction.Issues handle id) :
      transaction ∈ browsing.log := by
    rcases List.mem_append.1 hmem with hold | hlast
    · exact hold
    · rw [List.mem_singleton.1 hlast] at hissues
      exact absurd hissues (hnone handle id)
  have hsub : (browsing.step (.request request)).tab.table.entries.Sublist
      browsing.tab.table.entries := by
    rcases htable with hsame | ⟨handle, -, hforget⟩
    · rw [hsame]
    · rw [hforget]
      exact List.filter_sublist
  have hnext : (browsing.step (.request request)).tab.table.next = browsing.tab.table.next := by
    rcases htable with hsame | ⟨handle, -, hforget⟩
    · rw [hsame]
    · rw [hforget]
      rfl
  have hkept {entry : Nat × ElementId} (hmem : entry ∈ browsing.tab.table.entries) :
      entry ∈ (browsing.step (.request request)).tab.table.entries ∨
        (browsing.transact request).Strikes entry.1 := by
    rcases htable with hsame | ⟨handle, hstrikes, hforget⟩
    · exact .inl (hsame ▸ hmem)
    · by_cases hstruck : entry.1 = handle
      · exact .inr (hstruck ▸ hstrikes)
      · rw [hforget]
        exact .inl (List.mem_filter.2 ⟨hmem, by simpa using hstruck⟩)
  constructor
  case table =>
    rcases htable with hsame | ⟨handle, -, hforget⟩
    · exact hsame ▸ h.table
    · exact hforget ▸ h.table.forget handle
  case elements => exact h.elements.sublist (hsub.map _)
  case origin =>
    intro handle id hentry
    obtain ⟨first, hfirst, horigin⟩ := h.origin handle id (hsub.subset hentry)
    exact ⟨first, List.mem_append_left _ hfirst, horigin⟩
  case past =>
    intro transaction hmem handle id hissues
    rw [hnext]
    exact h.past transaction (hold hmem hissues) handle id hissues
  case unique =>
    intro first hfirst second hsecond handle id other hid hother
    exact h.unique first (hold hfirst hid) second (hold hsecond hother) handle id other hid hother
  case kept =>
    intro earlier transaction later hsplit handle id hissues
    rcases split_concat hsplit with ⟨-, -, rfl⟩ | ⟨rest, rfl, hrest⟩
    · exact absurd hissues (hnone handle id)
    · rcases h.kept earlier transaction rest hrest handle id hissues with
        hmem | ⟨struck, hmem, hstruck⟩
      · refine (hkept hmem).imp_right fun hstrikes => ?_
        exact ⟨_, List.mem_append_right _ List.mem_cons_self, hstrikes⟩
      · exact .inr ⟨struck, List.mem_append_left _ hmem, hstruck⟩

/-- Whatever happens in a document keeps the invariant. -/
theorem Lasts.step {browsing : Browsing} (h : browsing.Lasts) {happening : Happening}
    (hstays : ∀ document, happening ≠ .leave document) : (browsing.step happening).Lasts := by
  cases happening with
  | leave document => exact absurd rfl (hstays document)
  | change document => exact ⟨h.table, h.elements, h.origin, h.past, h.unique, h.kept⟩
  | install => exact ⟨h.table, h.elements, h.origin, h.past, h.unique, h.kept⟩
  | request request =>
    rcases browsing.issues_cases request with ⟨id, hissues, htable⟩ | ⟨hnone, htable⟩
    · exact h.issue hissues htable
    · exact h.of_not_issues hnone htable

/-! ### What the requests of a document come to -/

end Browsing

/-- What becomes of a request after those of a log. If it finds an element that was found before, it
issues the same number again unless that was struck out since; and it acts on no element but the one
for which its number was issued. -/
structure Transaction.Heeds (transaction : Transaction) (log : List Transaction) : Prop where
  same : ∀ earlier first between, log = earlier ++ first :: between → ∀ id handle other,
    first.Issues handle id → transaction.Issues other id →
    other = handle ∨ ∃ struck ∈ between, struck.Strikes handle
  acts : transaction.TouchesNone ∨ ∃ handle id, transaction.handle? = some handle ∧
    (∃ first ∈ log, first.Issues handle id) ∧
    transaction.ActedOn ⟨transaction.departures, id, handle⟩

namespace Browsing

theorem Lasts.heeds {browsing : Browsing} (h : browsing.Lasts) (request : Json) :
    (browsing.transact request).Heeds browsing.log := by
  constructor
  case same =>
    intro earlier first between hsplit id handle other hfirst hissues
    rcases browsing.issues_cases request with ⟨found, hfound, -⟩ | ⟨hnone, -⟩
    · obtain ⟨rfl, rfl⟩ := hissues.unique hfound
      rcases h.kept earlier first between hsplit handle id hfirst with hmem | hstruck
      · rcases browsing.tab.table.remember_cases id with ⟨hmem', -⟩ | ⟨hnew, -⟩
        · have heq := List.inj_on_of_nodup_map h.elements hmem' hmem rfl
          exact .inl (congrArg Prod.fst heq)
        · exact absurd rfl (hnew _ hmem)
      · exact .inr hstruck
    · exact absurd hissues (hnone other id)
  case acts =>
    cases haction : action? (known request) with
    | none =>
      obtain ⟨hdocument, hseen⟩ := process_touches_none browsing.bridged haction
      exact .inl ⟨hdocument, hseen⟩
    | some action =>
      rcases browsing.transact_cases haction with
        ⟨handle, id, hhandle, hentry, hacted, -⟩ | ⟨hrefused, -⟩
      · have hmem : (handle, id) ∈ browsing.tab.table.entries := by
          obtain ⟨before, after, heq, -⟩ := List.lookup_eq_some_iff.1 hentry
          simp [heq]
        exact .inr ⟨handle, id, hhandle, h.origin handle id hmem, hacted⟩
      · exact .inl ⟨hrefused.document, by simp [hrefused.seen]⟩

/-- Tabs that nothing can tell apart, except that one may have been given its bridge earlier. -/
structure Matches (a b : Browsing) : Prop where
  document : a.tab.document = b.tab.document
  table : a.tab.table = b.tab.table
  departures : a.departures = b.departures
  log : a.log = b.log

theorem Matches.step {a b : Browsing} (h : a.Matches b) (happening : Happening) :
    (a.step happening).Matches (b.step happening) := by
  cases happening with
  | change document => exact ⟨rfl, h.table, h.departures, h.log⟩
  | leave document => exact ⟨rfl, rfl, congrArg (· + 1) h.departures, h.log⟩
  | install => exact ⟨h.document, h.table, h.departures, h.log⟩
  | request request =>
    have hbridged : a.bridged = b.bridged := by rw [bridged, bridged, h.document, h.table]
    obtain ⟨htable, htransact⟩ := a.step_request request rfl
    obtain ⟨htable', htransact'⟩ := b.step_request request rfl
    have hsame : a.transact request = b.transact request := by
      rw [htransact, htransact', hbridged, h.departures, h.document]
    refine ⟨?_, ?_, h.departures, ?_⟩
    · exact congrArg Transaction.after hsame
    · rw [htable, htable', hbridged]
    · show a.log ++ [a.transact request] = b.log ++ [b.transact request]
      rw [h.log, hsame]

end Browsing

def Happening.isInstall : Happening → Bool
  | .install => true
  | _ => false

namespace Browsing

/-- It does not matter how often the bridge is installed, if at all before the first request. -/
theorem run_without_installs {a b : Browsing} (h : a.Matches b) (happenings : List Happening) :
    (a.run (happenings.filter (!·.isInstall))).Matches (b.run happenings) := by
  induction happenings generalizing a b with
  | nil => exact h
  | cons happening happenings ih =>
    cases hinstall : happening.isInstall with
    | true =>
      rw [List.filter_cons_of_neg (by simp [hinstall])]
      refine ih (b := b.step happening) ?_
      cases happening with
      | install => exact ⟨h.document, h.table, h.departures, h.log⟩
      | _ => cases hinstall
    | false =>
      rw [List.filter_cons_of_pos (by simp [hinstall])]
      exact ih (h.step happening)

theorem step_install {browsing : Browsing} (h : browsing.tab.bridge.isSome = true) :
    browsing.step .install = browsing := by
  obtain ⟨⟨document, bridge⟩, departures, log⟩ := browsing
  cases bridge with
  | none => cases h
  | some table => rfl

theorem lasts_run (document : Document) {happenings : List Happening}
    (hstays : ∀ happening ∈ happenings, ∀ next, happening ≠ .leave next) :
    ((opening document).run happenings).Lasts ∧ ∀ earlier transaction later,
      ((opening document).run happenings).log = earlier ++ transaction :: later →
      transaction.Heeds earlier :=
  run_induction (fun happening => ∀ next, happening ≠ .leave next) rfl (lasts_opening document)
    (fun _ _ hstays hlasts => hlasts.step hstays) (fun _ request hlasts => hlasts.heeds request)
    happenings hstays

end Browsing

/-- In one document numbers last. Whatever requests are made, however the page changes meanwhile and
whenever the bridge is installed again: no element has two numbers in the table; a number that was
issued for an element never names another one, and is never issued for another one, even after it
was struck out; an element that is found again has the same number as before unless a request on
that number was refused in between; a request acts on no element but the one for which its number
was issued; and installing the bridge again changes nothing. -/
theorem numbers_last_in_document (document : Document) (happenings : List Happening)
    (hstays : ∀ happening ∈ happenings, ∀ next, happening ≠ .leave next) :
    let browsing := (Browsing.opening document).run happenings
    (browsing.tab.table.entries.map Prod.fst).Nodup ∧
      (browsing.tab.table.entries.map Prod.snd).Nodup ∧
      (∀ first ∈ browsing.log, ∀ handle id, first.Issues handle id →
        (∀ other, (handle, other) ∈ browsing.tab.table.entries → other = id) ∧
          ∀ second ∈ browsing.log, ∀ other, second.Issues handle other → other = id) ∧
      (∀ earlier transaction later, browsing.log = earlier ++ transaction :: later →
        transaction.Heeds earlier) ∧
      (browsing.tab.bridge.isSome = true → browsing.step .install = browsing) ∧
      ((Browsing.opening document).run (happenings.filter (!·.isInstall))).Matches browsing := by
  intro browsing
  obtain ⟨hlasts, hheeds⟩ := Browsing.lasts_run document hstays
  refine ⟨hlasts.table.distinct, hlasts.elements, fun first hfirst handle id hissues => ⟨?_, ?_⟩,
    hheeds, Browsing.step_install,
    Browsing.run_without_installs ⟨rfl, rfl, rfl, rfl⟩ happenings⟩
  · intro other hentry
    obtain ⟨origin, horigin, hissued⟩ := hlasts.origin handle other hentry
    exact hlasts.unique origin horigin first hfirst handle other id hissued hissues
  · intro second hsecond other hother
    exact hlasts.unique second hsecond first hfirst handle other id hother hissues

/-- A button is found, taken out, clicked in vain, put back and found again. -/
def buttonFoundTwice : List Happening :=
  let query : Happening := .request (Request.query "css" "button").toJson
  let gone : Document := (buttonDocument "buy").setConnected "buy" false
  [.install, query, .change gone, .request (Request.click 1).toJson, .change (buttonDocument "buy"),
    .install, query]

/-- The button has another number the second time, so a request on the first one was refused in
between. -/
theorem button_gets_second_number :
    let browsing := (Browsing.opening (buttonDocument "buy")).run buttonFoundTwice
    (∀ happening ∈ buttonFoundTwice, ∀ next, happening ≠ .leave next) ∧
      ∃ first click second, browsing.log = [first, click, second] ∧
        first.Issues 1 "buy" ∧ second.Issues 2 "buy" ∧ click.Strikes 1 := by
  intro browsing
  have hstays : ∀ happening ∈ buttonFoundTwice, ∀ next, happening ≠ .leave next := by
    simp [buttonFoundTwice]
  obtain ⟨-, -, -, hheeds, -⟩ := numbers_last_in_document (buttonDocument "buy") _ hstays
  refine ⟨hstays, _, _, _, rfl, ⟨by decide +kernel, rfl, rfl⟩, ⟨by decide +kernel, rfl, rfl⟩, ?_⟩
  have hsecond := hheeds [_, _] _ [] rfl
  rcases hsecond.same [] _ [_] rfl "buy" 1 2 ⟨by decide +kernel, rfl, rfl⟩
    ⟨by decide +kernel, rfl, rfl⟩ with heq | ⟨struck, hmem, hstrikes⟩
  · cases heq
  · exact List.mem_singleton.1 hmem ▸ hstrikes

end BrowserReplay.Bridge
