import BrowserReplay.Proofs.HandleTable
import BrowserReplay.Proofs.Landing
import Mathlib.Data.List.Sort

/-!
# Highlights over time

A highlight takes note of the outline that its element has and sets a timer that puts it back. When
the highlights of an element overlap, a later one takes note of the mark of an earlier one. `Screen`
follows a page whose timers run when they are due. An element gets its own outline back if each of
its highlights comes when the earlier ones are over or ends before one of them does; otherwise a
mark may stay for good.

What carries the induction along a run (`Screen.Sound`) is not that every timer puts back the own
outline of its element, but that those do which run last.
-/

namespace BrowserReplay.Bridge

open BridgedDocument

/-! ### Outlines -/

namespace Document

theorem find?_setOutline (document : Document) (id other : ElementId) (outline : String) :
    (document.setOutline other outline).find? id =
      (document.find? id).map fun element =>
        if id = other then { element with outline } else element := by
  by_cases hother : id = other
  · subst hother
    unfold setOutline update find?
    induction document.elements with
    | nil => rfl
    | cons element rest ih =>
      rw [List.map_cons, List.find?_cons, List.find?_cons, ih]
      by_cases hid : element.id = id <;> simp [hid]
  · have hfind : (document.setOutline other outline).find? id = document.find? id :=
      find?_update (fun _ => rfl) hother
    simp [hfind, hother]

theorem outline_of_find? {document : Document} {id : ElementId} {element : Element}
    (h : document.find? id = some element) : document.outline id = element.outline := by
  rw [Document.outline, h]
  rfl

theorem outline_setOutline {document : Document} {id : ElementId}
    (h : (document.find? id).isSome = true) (other : ElementId) (outline : String) :
    (document.setOutline other outline).outline id =
      if id = other then outline else document.outline id := by
  obtain ⟨element, hfind⟩ := Option.isSome_iff_exists.1 h
  unfold Document.outline
  rw [find?_setOutline, hfind]
  by_cases hother : id = other <;> simp [hother]

theorem isConnected_setOutline (document : Document) (id other : ElementId) (outline : String) :
    (document.setOutline other outline).isConnected id = document.isConnected id := by
  unfold isConnected
  rw [find?_setOutline]
  cases document.find? id with
  | none => rfl
  | some element => by_cases hother : id = other <;> simp [hother]

/-- Whether an element has a style, so that it can be marked. -/
def hasStyle (document : Document) (id : ElementId) : Bool :=
  (document.find? id).any (·.outlineTrouble.isNone)

theorem hasStyle_setOutline (document : Document) (id other : ElementId) (outline : String) :
    (document.setOutline other outline).hasStyle id = document.hasStyle id := by
  unfold hasStyle
  rw [find?_setOutline]
  cases document.find? id with
  | none => rfl
  | some element => by_cases hother : id = other <;> simp [hother]

theorem timers_runTimers (document : Document) (timers : List Timer) :
    (document.runTimers timers).timers = document.timers := by
  induction timers generalizing document with
  | nil => rfl
  | cons timer rest ih => exact ih _

theorem isConnected_runTimers (document : Document) (timers : List Timer) (id : ElementId) :
    (document.runTimers timers).isConnected id = document.isConnected id := by
  induction timers generalizing document with
  | nil => rfl
  | cons timer rest ih => exact (ih _).trans (document.isConnected_setOutline id _ _)

theorem hasStyle_runTimers (document : Document) (timers : List Timer) (id : ElementId) :
    (document.runTimers timers).hasStyle id = document.hasStyle id := by
  induction timers generalizing document with
  | nil => rfl
  | cons timer rest ih => exact (ih _).trans (document.hasStyle_setOutline id _ _)

end Document

theorem BridgedDocument.unless_document (document : Document) (trouble : Option Thrown)
    (seen : List Sighting) : (Deed.unless document trouble seen).document = document := by
  cases trouble <;> rfl

theorem BridgedDocument.highlight_of_trouble (color delay : Slot) (document : Document)
    {element : Element} (h : element.outlineTrouble.isSome = true) :
    (highlight color delay document element).document = document := by
  rw [highlight, if_pos h]

theorem BridgedDocument.highlight_of_style (color delay : Slot) (document : Document)
    {element : Element} (h : element.outlineTrouble = none) :
    (highlight color delay document element).document =
      { document.setOutline element.id (markOutline color) with
        timers := document.timers ++ [⟨delay, element.id, element.outline⟩] } := by
  rw [highlight, if_neg (by simp [h])]
  rfl

/-- Of the actions on an element only the highlight changes the document. -/
theorem BridgedDocument.action?_document {request : Json} {action : Document → Element → Deed}
    (h : action? request = some action) :
    (∀ document element, (action document element).document = document) ∨
      ∃ color delay, action = highlight color delay := by
  simp only [action?] at h
  split at h
  · cases h
    exact .inl fun _ _ => unless_document _ _ _
  split at h
  · cases h
    exact .inl fun _ _ => unless_document _ _ _
  split at h
  · cases h
    exact .inl fun _ _ => unless_document _ _ _
  split at h
  · cases h
    exact .inr ⟨_, _, rfl⟩
  · cases h

/-- A request leaves the elements alone or marks one of them and sets the timer for it. -/
theorem BridgedDocument.process_document (state : BridgedDocument) (request : Json) :
    (state.process request).state.document = state.document ∨
      ∃ id element color delay, state.document.find? id = some element ∧
        (state.process request).state.document =
          { state.document.setOutline element.id (markOutline color) with
            timers := state.document.timers ++ [⟨delay, element.id, element.outline⟩] } := by
  cases hquery : isQuery (known request) with
  | true =>
    rw [process_query hquery]
    obtain ⟨id, _, hstate⟩ | ⟨_, hstate⟩ := query_cases state (known request) <;>
      exact .inl (by rw [hstate])
  | false =>
    obtain ⟨action, haction, hprocess⟩ | ⟨_, hstate⟩ := process_cases hquery state
    · rw [hprocess]
      obtain ⟨_, id, element, _, _, hfind, _, hact⟩ | ⟨_, _, hact⟩ :=
        act_cases state (known request) action
      · rw [hact]
        obtain hsame | ⟨color, delay, rfl⟩ := action?_document haction
        · exact .inl (hsame state.document element)
        · cases htrouble : element.outlineTrouble with
          | some thrown =>
            exact .inl (highlight_of_trouble color delay _ (by rw [htrouble]; rfl))
          | none =>
            exact .inr ⟨id, element, color, delay, hfind, highlight_of_style color delay _ htrouble⟩
      · exact .inl (by rw [hact])
    · exact .inl (by rw [hstate])

/-! ### Timers that run when they are due -/

/-- A timer that was set, and when it is due. -/
structure Pending where
  due : Nat
  timer : Timer

/-- A highlight: when it came and when its timer is due. -/
structure Shown where
  time : Nat
  due : Nat
  element : ElementId
  deriving DecidableEq, Repr

/-- How long a timer waits that was set with a delay. The page cuts the delay to a word, and one that
is below zero counts as none. -/
def waitFor (delay : Slot) : Nat :=
  match delay with
  | some (.number delay) => delay.int32.toNat
  | _ => 0

/-- A page over time: its document holds no timers, those that have been set are pending. -/
structure Screen where
  bridge : BridgedDocument
  now : Nat := 0
  pending : List Pending := []
  shown : List Shown := []

namespace Screen

def opening (bridge : BridgedDocument) : Screen where
  bridge := { bridge with document := { bridge.document with timers := [] } }

def outline (screen : Screen) (id : ElementId) : String := screen.bridge.document.outline id

/-- Timers in the order in which they are due, those due together in the order in which they were
set. -/
def inOrder (pending : List Pending) : List Pending :=
  pending.insertionSort fun a b => a.due ≤ b.due

/-- Lets time pass until `time`: what is due runs. -/
def expire (screen : Screen) (time : Nat) : Screen :=
  let now := max screen.now time
  let due := inOrder (screen.pending.filter (·.due ≤ now))
  { screen with
    bridge := { screen.bridge with
      document := screen.bridge.document.runTimers (due.map Pending.timer) }
    now
    pending := screen.pending.filter (now < ·.due) }

/-- Hands the bridge a request. The timers that it sets begin to wait. -/
def request (screen : Screen) (request : Json) : Screen :=
  let after := (screen.bridge.process request).state
  let timers := after.document.timers
  { bridge := { after with document := { after.document with timers := [] } }
    now := screen.now
    pending := screen.pending ++ timers.map fun timer => ⟨screen.now + waitFor timer.delay, timer⟩
    shown := screen.shown ++ timers.map fun timer =>
      ⟨screen.now, screen.now + waitFor timer.delay, timer.element⟩ }

/-- Hands the bridge requests, each at its time but none before the one before it. -/
def run (screen : Screen) (requests : List (Nat × Json)) : Screen :=
  requests.foldl (fun screen request => (screen.expire request.1).request request.2) screen

end Screen

/-- Each highlight of an element comes when the earlier ones are over, or ends before one of them
does. -/
def Undisturbed (shown : List Shown) (id : ElementId) : Prop :=
  ∀ early this late, shown = early ++ this :: late → this.element = id →
    (∀ other ∈ early, other.element = id → other.due ≤ this.time) ∨
      ∃ other ∈ early, other.element = id ∧ this.due < other.due

/-- The highlights of some elements alone disturb no more than all together. -/
theorem Undisturbed.filter {shown : List Shown} {id : ElementId} (h : Undisturbed shown id)
    (keep : ElementId → Bool) : Undisturbed (shown.filter (keep ·.element)) id := by
  intro early this late hsplit hid
  obtain ⟨before, rest, rfl, rfl, hrest⟩ := List.filter_eq_append_iff.1 hsplit
  obtain ⟨skipped, after, rfl, hskipped, hkeep, -⟩ := List.filter_eq_cons_iff.1 hrest
  have hkept {other : Shown} (hother : other.element = id) : keep other.element = true := by
    rw [hother, ← hid]
    exact hkeep
  rcases h (before ++ skipped) this after (by simp) hid with
    hover | ⟨other, hmem, helement, hends⟩
  · exact .inl fun other hmem => hover other (List.mem_append_left _ (List.mem_filter.1 hmem).1)
  · refine .inr ⟨other, ?_, helement, hends⟩
    rcases List.mem_append.1 hmem with hmem | hmem
    · exact List.mem_filter.2 ⟨hmem, hkept helement⟩
    · exact absurd (hkept helement) (hskipped other hmem)

theorem Undisturbed.of_append {a b : List Shown} {id : ElementId} (h : Undisturbed (a ++ b) id) :
    Undisturbed a id := fun early this late heq =>
  h early this (late ++ b) (by rw [heq, List.append_assoc, List.cons_append])

namespace Screen

/-- What is known of an element at any time, if its outline was `original` at first. -/
structure Sound (id : ElementId) (original : String) (screen : Screen) : Prop where
  there : (screen.bridge.document.find? id).isSome = true
  timers : screen.bridge.document.timers = []
  clean : (∀ pending ∈ screen.pending, pending.timer.element ≠ id) → screen.outline id = original
  /-- The timers that run last put back its own outline. -/
  kept : ∀ pending ∈ screen.pending, pending.timer.element = id →
    pending.timer.outline = original ∨
      ∃ other ∈ screen.pending, other.timer.element = id ∧ pending.due < other.due
  recorded : ∀ pending ∈ screen.pending, ∃ shown ∈ screen.shown,
    shown.element = pending.timer.element ∧ shown.due = pending.due
  running : ∀ shown ∈ screen.shown, screen.now < shown.due → ∃ pending ∈ screen.pending,
    pending.timer.element = shown.element ∧ pending.due = shown.due

theorem sound_opening {bridge : BridgedDocument} {id : ElementId}
    (h : (bridge.document.find? id).isSome = true) :
    Sound id (bridge.document.outline id) (opening bridge) :=
  ⟨h, rfl, fun _ => rfl, nofun, nofun, nofun⟩

/-- After some timers have run in order, an element has the outline from the one that ran last. -/
theorem outline_runTimers {document : Document} {id : ElementId}
    (h : (document.find? id).isSome = true) {due : List Pending}
    (hsorted : due.Pairwise fun a b => a.due ≤ b.due) :
    ((∀ pending ∈ due, pending.timer.element ≠ id) ∧
        (document.runTimers (due.map Pending.timer)).outline id = document.outline id) ∨
      ∃ last ∈ due, last.timer.element = id ∧
        (∀ pending ∈ due, pending.timer.element = id → pending.due ≤ last.due) ∧
        (document.runTimers (due.map Pending.timer)).outline id = last.timer.outline := by
  induction due generalizing document with
  | nil => exact .inl ⟨nofun, rfl⟩
  | cons first rest ih =>
    obtain ⟨hfirst, hrest⟩ := List.pairwise_cons.1 hsorted
    have hthere : ((document.setOutline first.timer.element first.timer.outline).find? id).isSome =
        true := by
      rw [Document.find?_setOutline, Option.isSome_map]
      exact h
    have hnow := Document.outline_setOutline h first.timer.element first.timer.outline
    obtain ⟨hothers, houtline⟩ | ⟨last, hlast, helement, hlatest, houtline⟩ := ih hthere hrest
    · by_cases helement : first.timer.element = id
      · refine .inr ⟨first, List.mem_cons_self, helement, ?_, ?_⟩
        · rintro pending hpending hid
          rcases List.mem_cons.1 hpending with rfl | hpending
          · exact Nat.le_refl _
          · exact absurd hid (hothers pending hpending)
        · rw [if_pos helement.symm] at hnow
          exact houtline.trans hnow
      · refine .inl ⟨List.forall_mem_cons.2 ⟨helement, hothers⟩, ?_⟩
        rw [if_neg (Ne.symm helement)] at hnow
        exact houtline.trans hnow
    · refine .inr ⟨last, List.mem_cons_of_mem _ hlast, helement, ?_, houtline⟩
      rintro pending hpending hid
      rcases List.mem_cons.1 hpending with rfl | hpending
      · exact hfirst last hlast
      · exact hlatest pending hpending hid

theorem runTimers_there {document : Document} {id : ElementId}
    (h : (document.find? id).isSome = true) (timers : List Timer) :
    ((document.runTimers timers).find? id).isSome = true := by
  induction timers generalizing document with
  | nil => exact h
  | cons timer rest ih =>
    refine ih ?_
    rw [Document.find?_setOutline, Option.isSome_map]
    exact h

theorem mem_inOrder {pending : List Pending} {timer : Pending} :
    timer ∈ inOrder pending ↔ timer ∈ pending := List.mem_insertionSort _

theorem pairwise_inOrder (pending : List Pending) :
    (inOrder pending).Pairwise fun a b => a.due ≤ b.due := by
  have : Std.Total fun a b : Pending => a.due ≤ b.due := ⟨fun a b => Nat.le_total a.due b.due⟩
  have : IsTrans Pending fun a b => a.due ≤ b.due := ⟨fun _ _ _ => Nat.le_trans⟩
  exact List.pairwise_insertionSort _ _

section

variable {screen : Screen} {id : ElementId} {original : String}

/-- What is pending after some time is what was pending before and is not yet due. -/
theorem mem_pending_expire {time : Nat} {pending : Pending} :
    pending ∈ (screen.expire time).pending ↔
      pending ∈ screen.pending ∧ max screen.now time < pending.due := by
  simp [expire]

theorem Sound.expire (h : Sound id original screen) (time : Nat) :
    Sound id original (screen.expire time) := by
  have hdue (pending : Pending) :
      pending ∈ inOrder (screen.pending.filter (·.due ≤ max screen.now time)) ↔
        pending ∈ screen.pending ∧ pending.due ≤ max screen.now time := by
    simp [mem_inOrder]
  refine ⟨runTimers_there h.there _, (Document.timers_runTimers _ _).trans h.timers,
    fun hnone => ?_, ?_, ?_, ?_⟩
  case refine_1 =>
    obtain ⟨hothers, houtline⟩ | ⟨last, hlast, helement, hlatest, houtline⟩ :=
      outline_runTimers h.there
        (pairwise_inOrder (screen.pending.filter (·.due ≤ max screen.now time)))
    · -- No timer of the element was due, so there was none.
      refine houtline.trans (h.clean fun pending hpending hid => ?_)
      rcases Nat.lt_or_ge (max screen.now time) pending.due with hlater | hle
      · exact hnone pending (mem_pending_expire.2 ⟨hpending, hlater⟩) hid
      · exact hothers pending ((hdue pending).2 ⟨hpending, hle⟩) hid
    · obtain ⟨hpending, _⟩ := (hdue last).1 hlast
      obtain hown | ⟨other, hother, hid, hlater⟩ := h.kept last hpending helement
      · exact houtline.trans hown
      · -- A timer that is due after the last one is still pending.
        refine absurd hid (hnone other (mem_pending_expire.2 ⟨hother, ?_⟩))
        refine Nat.lt_of_not_le fun hle => ?_
        have := hlatest other ((hdue other).2 ⟨hother, hle⟩) hid
        omega
  case refine_2 =>
    intro pending hpending hid
    obtain ⟨hbefore, hlater⟩ := mem_pending_expire.1 hpending
    obtain hown | ⟨other, hother, hid', hlast⟩ := h.kept pending hbefore hid
    · exact .inl hown
    · exact .inr ⟨other, mem_pending_expire.2 ⟨hother, by omega⟩, hid', hlast⟩
  case refine_3 =>
    exact fun pending hpending => h.recorded pending (mem_pending_expire.1 hpending).1
  case refine_4 =>
    intro shown hshown hlater
    have hlater : max screen.now time < shown.due := hlater
    obtain ⟨pending, hpending, hid, hdue⟩ := h.running shown hshown (by omega)
    exact ⟨pending, mem_pending_expire.2 ⟨hpending, by omega⟩, hid, hdue⟩

/-- What a request does over time: nothing, or it marks an element, whose outline it notes, and sets
a timer. -/
theorem request_cases (screen : Screen) (htimers : screen.bridge.document.timers = [])
    (request : Json) :
    ((screen.request request).bridge.document = screen.bridge.document ∧
        (screen.request request).pending = screen.pending ∧
        (screen.request request).shown = screen.shown) ∨
      ∃ other mark delay due, screen.now ≤ due ∧
        (screen.request request).bridge.document = screen.bridge.document.setOutline other mark ∧
        (screen.request request).pending =
          screen.pending ++ [⟨due, ⟨delay, other, screen.outline other⟩⟩] ∧
        (screen.request request).shown = screen.shown ++ [⟨screen.now, due, other⟩] := by
  have hcleared {document : Document} (h : document.timers = []) :
      { document with timers := [] } = document := by
    obtain ⟨elements, css, xpath, trouble, timers⟩ := document
    cases h
    rfl
  obtain hsame | ⟨id, element, color, delay, hfind, hdocument⟩ :=
    process_document screen.bridge request
  · refine .inl ?_
    simp only [Screen.request, hsame, htimers, List.map_nil, List.append_nil, and_self, and_true]
    exact hcleared htimers
  · have hid : element.id = id := by simpa using List.find?_some hfind
    have hown : screen.outline id = element.outline := Document.outline_of_find? hfind
    have hmarked : (screen.bridge.document.setOutline id (markOutline color)).timers = [] := htimers
    rw [htimers, List.nil_append] at hdocument
    subst hid
    refine .inr ⟨element.id, markOutline color, delay,
      screen.now + waitFor delay, Nat.le_add_right _ _, ?_⟩
    simp only [Screen.request, hdocument, List.map_singleton, hown, and_true]
    exact hcleared hmarked

/-- A request keeps what is known of an element if the highlight that it may begin disturbs none.
-/
theorem Sound.request (h : Sound id original screen)
    (hlater : ∀ pending ∈ screen.pending, screen.now < pending.due) (request : Json)
    (hundisturbed : Undisturbed (screen.request request).shown id) :
    Sound id original (screen.request request) := by
  obtain ⟨hdocument, hpending, hshown⟩ |
    ⟨other, mark, delay, due, hdue, hdocument, hpending, hshown⟩ :=
      request_cases screen h.timers request
  · refine ⟨hdocument ▸ h.there, rfl, ?_, ?_, ?_, ?_⟩
    · rw [hpending, outline, hdocument]
      exact h.clean
    · rw [hpending]
      exact h.kept
    · rw [hpending, hshown]
      exact h.recorded
    · rw [hpending, hshown]
      exact h.running
  · have houtline := Document.outline_setOutline h.there other mark
    rw [← hdocument] at houtline
    refine ⟨?_, rfl, ?_, ?_, ?_, ?_⟩
    · rw [hdocument, Document.find?_setOutline, Option.isSome_map]
      exact h.there
    · rw [hpending, List.forall_mem_append]
      rintro ⟨hbefore, hnew⟩
      have hother : id ≠ other := (List.forall_mem_singleton.1 hnew).symm
      rw [if_neg hother] at houtline
      exact houtline.trans (h.clean hbefore)
    · -- The timers from before are kept as they are; the new one is last or notes the own outline.
      rw [hpending, List.forall_mem_append, List.forall_mem_singleton]
      constructor
      · intro pending hmem hid
        obtain hown | ⟨last, hlast, hrest⟩ := h.kept pending hmem hid
        · exact .inl hown
        · exact .inr ⟨last, List.mem_append_left _ hlast, hrest⟩
      · rintro rfl
        obtain hover | ⟨last, hmem, helement, hends⟩ := hundisturbed screen.shown _ [] hshown rfl
        · -- Nothing of the element is pending, so the outline that is noted is its own.
          refine .inl (h.clean fun pending hmem helement => ?_)
          obtain ⟨shown, hshown, hid, hsame⟩ := h.recorded pending hmem
          have hpast := hover shown hshown (hid.trans helement)
          have hfuture := hlater pending hmem
          dsimp only at hpast
          omega
        · have hfuture : screen.now < last.due := Nat.lt_of_le_of_lt hdue hends
          obtain ⟨pending, hpending, hid, hsame⟩ := h.running last hmem hfuture
          have hafter : due < pending.due := hsame ▸ hends
          exact .inr ⟨pending, List.mem_append_left _ hpending, hid.trans helement, hafter⟩
    · rw [hpending, hshown, List.forall_mem_append, List.forall_mem_singleton]
      refine ⟨fun pending hmem => ?_, ⟨screen.now, due, other⟩, by simp, rfl, rfl⟩
      obtain ⟨shown, hmem, hsame⟩ := h.recorded pending hmem
      exact ⟨shown, List.mem_append_left _ hmem, hsame⟩
    · rw [hpending, hshown, List.forall_mem_append, List.forall_mem_singleton]
      refine ⟨fun shown hmem hdue => ?_, fun _ =>
        ⟨⟨due, ⟨delay, other, screen.outline other⟩⟩, by simp, rfl, rfl⟩⟩
      obtain ⟨pending, hmem, hsame⟩ := h.running shown hmem hdue
      exact ⟨pending, List.mem_append_left _ hmem, hsame⟩

/-- What is known of an element holds at all times as long as its highlights disturb none. -/
theorem sound_run {bridge : BridgedDocument} (hthere : (bridge.document.find? id).isSome = true)
    (requests : List (Nat × Json))
    (hundisturbed : Undisturbed ((opening bridge).run requests).shown id) :
    Sound id (bridge.document.outline id) ((opening bridge).run requests) := by
  -- From the end, because the last request meets the page that all the others have left.
  induction requests using List.reverseRecOn with
  | nil => exact sound_opening hthere
  | append_singleton requests request ih =>
    rw [run, List.foldl_concat, ← run] at hundisturbed ⊢
    refine (ih hundisturbed.of_append).expire request.1 |>.request ?_ request.2 hundisturbed
    exact fun pending hpending => (mem_pending_expire.1 hpending).2

end

/-- The requests of a run leave an element its own outline: it has it again when its highlights are
over, if they disturb none. -/
theorem outline_restored {bridge : BridgedDocument} {id : ElementId} {element : Element}
    (hfind : bridge.document.find? id = some element) {requests : List (Nat × Json)} {time : Nat}
    (hundisturbed : Undisturbed ((opening bridge).run requests).shown id)
    (hover : ∀ shown ∈ ((opening bridge).run requests).shown,
      shown.element = id → shown.due ≤ time) :
    (((opening bridge).run requests).expire time).outline id = element.outline := by
  have hsound := (sound_run (by rw [hfind]; rfl) requests hundisturbed).expire time
  refine (hsound.clean fun pending hpending hid => ?_).trans (Document.outline_of_find? hfind)
  obtain ⟨shown, hshown, helement, hdue⟩ := hsound.recorded pending hpending
  have hpast := hover shown hshown (helement.trans hid)
  have hfuture := (mem_pending_expire.1 hpending).2
  omega

end Screen

/-! ### Highlights that are asked for -/

/-- A request for a highlight, and when it comes. -/
structure Mark where
  time : Nat
  handle : Nat
  color : String
  duration : Nat

namespace Mark

def request (mark : Mark) : Request := .highlight mark.handle mark.color mark.duration

def element (table : HandleTable) (mark : Mark) : ElementId :=
  (table.entries.lookup mark.handle).getD ""

def lasts (mark : Mark) : Nat := waitFor (some (known (.nat mark.duration)))

/-- When the highlight begins and ends, and of which element it is. -/
def shown (table : HandleTable) (mark : Mark) : Shown :=
  ⟨mark.time, mark.time + mark.lasts, mark.element table⟩

/-- The number is that of an element that is connected, and the page knows it exactly. -/
structure Lands (bridge : BridgedDocument) (mark : Mark) : Prop where
  entry : bridge.table.entries.lookup mark.handle = some (mark.element bridge.table)
  connected : bridge.document.isConnected (mark.element bridge.table) = true
  handle_lt : mark.handle < Double.mantissaBound

/-- A highlight lasts as long as is asked unless that is more than a word of 32 bits holds. -/
theorem lasts_eq_duration {mark : Mark} (h : mark.duration < 2 ^ 31) :
    mark.lasts = mark.duration := by
  have hexact : mark.duration < Double.mantissaBound := Nat.lt_trans h (by decide)
  rw [lasts, Json.nat, known, Numeral.onPage_ofNat hexact, waitFor, Numeral.int32_ofNat h,
    Int.toNat_natCast]

/-- The bridge marks the element and sets a timer, unless the element has no style. -/
theorem Lands.process {bridge : BridgedDocument} {mark : Mark} (h : mark.Lands bridge) :
    ∃ element, bridge.document.find? (mark.element bridge.table) = some element ∧
      element.id = mark.element bridge.table ∧
      (bridge.process mark.request.toJson).state =
        ⟨(highlight (some (.text mark.color)) (some (known (.nat mark.duration))) bridge.document
          element).document, bridge.table⟩ := by
  obtain ⟨element, hfind, _⟩ := Document.exists_of_isConnected h.connected
  refine ⟨element, hfind, by simpa using List.find?_some hfind, ?_⟩
  have haction : action? (known mark.request.toJson) =
      some (highlight (some (.text mark.color)) (some (known (.nat mark.duration)))) := by
    rw [action?, member_op, member_known, member_known]
    rfl
  have hlookup : bridge.table.lookup bridge.document (some (.nat mark.handle)) =
      (some (mark.element bridge.table), bridge.table) := by
    simp [HandleTable.lookup, natural?_nat h.handle_lt, h.entry, h.connected]
  rw [process_act haction, act, member_handle rfl h.handle_lt, hlookup]
  simp [hfind]

end Mark

namespace Screen

variable {screen : Screen} {bridge : BridgedDocument} {mark : Mark}

/-- What a page is like after requests for highlights, each of an element that is connected. Those
of elements without a style have thrown. -/
structure Marked (bridge : BridgedDocument) (marks : List Mark) (screen : Screen) : Prop where
  shown : screen.shown =
    (marks.map (Mark.shown bridge.table)).filter (bridge.document.hasStyle ·.element)
  table : screen.bridge.table = bridge.table
  connected : ∀ id, screen.bridge.document.isConnected id = bridge.document.isConnected id
  styled : ∀ id, screen.bridge.document.hasStyle id = bridge.document.hasStyle id
  timers : screen.bridge.document.timers = []
  now : ∀ time, (∀ mark ∈ marks, mark.time ≤ time) → screen.now ≤ time

/-- A highlight begins when it is asked for, unless its element has no style. -/
theorem request_mark (h : mark.Lands screen.bridge) (htimers : screen.bridge.document.timers = []) :
    let after := screen.request mark.request.toJson
    let id := mark.element screen.bridge.table
    after.shown = screen.shown ++ (if screen.bridge.document.hasStyle id then
        [⟨screen.now, screen.now + mark.lasts, id⟩] else []) ∧
      after.bridge.table = screen.bridge.table ∧
      ∀ other,
        after.bridge.document.isConnected other = screen.bridge.document.isConnected other ∧
        after.bridge.document.hasStyle other = screen.bridge.document.hasStyle other := by
  intro after id
  obtain ⟨element, hfind, hid, hprocess⟩ := h.process
  have hstyle : screen.bridge.document.hasStyle id = element.outlineTrouble.isNone := by
    rw [Document.hasStyle, hfind]
    rfl
  cases htrouble : element.outlineTrouble with
  | some thrown =>
    rw [highlight_of_trouble _ _ _ (by rw [htrouble]; rfl)] at hprocess
    refine ⟨?_, by simp only [after, Screen.request, hprocess], fun other => ?_⟩
    · simp [after, Screen.request, hprocess, htimers, hstyle, htrouble]
    · simp only [after, Screen.request, hprocess]
      exact ⟨rfl, rfl⟩
  | none =>
    rw [highlight_of_style _ _ _ htrouble, htimers, List.nil_append] at hprocess
    refine ⟨?_, by simp only [after, Screen.request, hprocess], fun other => ?_⟩
    · simp [after, Screen.request, hprocess, hstyle, htrouble, Mark.lasts, hid, id]
    · simp only [after, Screen.request, hprocess]
      exact ⟨Document.isConnected_setOutline _ other _ _, Document.hasStyle_setOutline _ other _ _⟩

theorem marked_run {marks : List Mark} (htimes : marks.Pairwise fun a b => a.time ≤ b.time)
    (hmarks : ∀ mark ∈ marks, mark.Lands bridge) :
    Marked bridge marks
      ((opening bridge).run (marks.map fun mark => (mark.time, mark.request.toJson))) := by
  induction marks using List.reverseRecOn with
  | nil => exact ⟨rfl, rfl, fun _ => rfl, fun _ => rfl, rfl, fun _ _ => Nat.zero_le _⟩
  | append_singleton marks mark ih =>
    obtain ⟨hbefore, _, hlast⟩ := List.pairwise_append.1 htimes
    obtain ⟨hlands, hmark⟩ := List.forall_mem_append.1 hmarks
    obtain ⟨hshown, htable, hconnected, hstyled, htimers, hnow⟩ := ih hbefore hlands
    rw [List.map_append, List.map_singleton, run, List.foldl_concat, ← run]
    generalize (opening bridge).run (marks.map fun mark => (mark.time, mark.request.toJson)) =
      screen at hshown htable hconnected hstyled htimers hnow ⊢
    obtain ⟨hentry, hthere, hhandle⟩ := List.forall_mem_singleton.1 hmark
    have hconnected (id : ElementId) :
        (screen.expire mark.time).bridge.document.isConnected id = bridge.document.isConnected id :=
      (Document.isConnected_runTimers _ _ id).trans (hconnected id)
    have hstyled (id : ElementId) :
        (screen.expire mark.time).bridge.document.hasStyle id = bridge.document.hasStyle id :=
      (Document.hasStyle_runTimers _ _ id).trans (hstyled id)
    have htable : (screen.expire mark.time).bridge.table = bridge.table := htable
    have hlands : mark.Lands (screen.expire mark.time).bridge := by
      constructor
      · rw [htable]
        exact hentry
      · rw [hconnected, htable]
        exact hthere
      · exact hhandle
    have htime : (screen.expire mark.time).now = mark.time :=
      Nat.max_eq_right (hnow mark.time fun other hother => hlast other hother mark (by simp))
    obtain ⟨hshown', htable', hsame⟩ :=
      request_mark hlands ((Document.timers_runTimers _ _).trans htimers)
    refine ⟨?_, htable'.trans htable, fun id => (hsame id).1.trans (hconnected id),
      fun id => (hsame id).2.trans (hstyled id), rfl, fun time htimes => ?_⟩
    · rw [hshown', htime, htable, hstyled, List.map_append, List.filter_append, ← hshown,
        List.map_singleton, List.filter_singleton, Bool.cond_eq_ite]
      rfl
    · exact Nat.le_trans (Nat.le_of_eq htime) (htimes mark (by simp))

end Screen

/-- Highlights are temporary if they do not cross. Whatever highlights are asked for, of elements
that are connected: if each highlight of an element comes when the earlier ones are over, or ends
before one of them does, then the element has its own outline again when all of them are over. -/
theorem highlights_are_temporary {bridge : BridgedDocument} {marks : List Mark}
    (htimes : marks.Pairwise fun a b => a.time ≤ b.time)
    (hmarks : ∀ mark ∈ marks, mark.Lands bridge) {id : ElementId} {element : Element}
    (hfind : bridge.document.find? id = some element)
    (hundisturbed : Undisturbed (marks.map (Mark.shown bridge.table)) id) {time : Nat}
    (hover : ∀ mark ∈ marks, mark.time + mark.lasts ≤ time) :
    let screen := (Screen.opening bridge).run
      (marks.map fun mark => (mark.time, mark.request.toJson))
    (screen.expire time).pending = [] ∧ (screen.expire time).outline id = element.outline := by
  intro screen
  have hmarked : Screen.Marked bridge marks screen := Screen.marked_run htimes hmarks
  have hdue : ∀ shown ∈ screen.shown, shown.due ≤ time := by
    intro shown hshown
    rw [hmarked.shown, List.mem_filter, List.mem_map] at hshown
    obtain ⟨⟨mark, hmark, rfl⟩, -⟩ := hshown
    exact hover mark hmark
  replace hundisturbed := hundisturbed.filter bridge.document.hasStyle
  rw [← hmarked.shown] at hundisturbed
  constructor
  · have hsound := Screen.sound_run (by rw [hfind]; rfl) _ hundisturbed
    refine List.eq_nil_iff_forall_not_mem.2 fun pending hpending => ?_
    obtain ⟨hbefore, hlater⟩ := Screen.mem_pending_expire.1 hpending
    obtain ⟨shown, hshown, _, hsame⟩ := hsound.recorded pending hbefore
    have hpast := hdue shown hshown
    omega
  · exact Screen.outline_restored hfind hundisturbed fun shown hshown _ => hdue shown hshown

def loneElement : BridgedDocument where
  document := { elements := [{ id := "x" }] }
  table := { entries := [(1, "x")], next := 2 }

/-- Highlights one within the other, and a third one after them. -/
theorem nested_highlights_are_temporary :
    let marks : List Mark :=
      [⟨0, 1, "yellow", 1500⟩, ⟨200, 1, "blue", 500⟩, ⟨1600, 1, "yellow", 1500⟩]
    let screen := (Screen.opening loneElement).run
      (marks.map fun mark => (mark.time, mark.request.toJson))
    (∀ mark ∈ marks, mark.Lands loneElement) ∧
      Undisturbed (marks.map (Mark.shown loneElement.table)) "x" ∧
      (screen.expire 3100).pending = [] ∧ (screen.expire 3100).outline "x" = "" := by
  intro marks screen
  have hlands : ∀ mark ∈ marks, mark.Lands loneElement := by
    intro mark hmark
    simp only [marks, List.mem_cons, List.not_mem_nil, or_false] at hmark
    rcases hmark with rfl | rfl | rfl <;> exact ⟨rfl, rfl, by decide⟩
  have hundisturbed : Undisturbed (marks.map (Mark.shown loneElement.table)) "x" := by
    intro early this late h hid
    rcases early with _ | ⟨first, _ | ⟨second, _ | ⟨third, early⟩⟩⟩
    · exact .inl nofun
    · cases h
      exact .inr ⟨_, List.mem_cons_self, rfl, by decide⟩
    · cases h
      exact .inl (by decide)
    · simp [marks] at h
  exact ⟨hlands, hundisturbed, highlights_are_temporary (by decide) hlands rfl hundisturbed
    (by decide)⟩

/-- Two commands on one element, with the settings that are there by default: the second highlight
comes before the first one is over, and the mark stays when both are. -/
theorem overlapping_highlights_leave_mark :
    let config : Config := {}
    let mark (time : Nat) : Mark :=
      ⟨time, 1, config.highlight.style.color, config.highlight.style.duration⟩
    let marks := [mark 0, mark config.timing.commandDelay]
    let screen := (Screen.opening loneElement).run
      (marks.map fun mark => (mark.time, mark.request.toJson))
    (∀ mark ∈ marks, mark.Lands loneElement ∧ mark.time + mark.duration ≤ 3000) ∧
      (screen.expire 3000).pending = [] ∧ loneElement.document.outline "x" = "" ∧
      (screen.expire 3000).outline "x" = "3px dashed yellow" := by
  intro config mark marks screen
  have hempty : (screen.expire 3000).pending.isEmpty = true := by decide +kernel
  refine ⟨fun mark hmark => ?_, List.isEmpty_iff.1 hempty, rfl, by decide +kernel⟩
  simp only [marks, List.mem_cons, List.not_mem_nil, or_false] at hmark
  rcases hmark with rfl | rfl <;> exact ⟨⟨rfl, rfl, by decide⟩, by decide⟩

end BrowserReplay.Bridge
