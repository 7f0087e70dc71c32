import BrowserReplay.Proofs.Paired
import BrowserReplay.Proofs.Textless
import BrowserReplay.Proofs.Timetable

/-!
# Marking elements

An element is marked as soon as it is found, once, and before anything is done to it
(`Performance.marksOnce`). The mark is for the eye only. If a page answers the other calls as if it
had not been asked to mark anything, then a run that marks elements differs from one that does not
in the marks alone (`marks_change_nothing`).
-/

namespace BrowserReplay

open Visit

def PageCall.isMark : PageCall → Bool
  | .highlight .. => true
  | _ => false

/-! ### Pages that ignore marks -/

/-- The second page answers to other calls as the first one does with marks in between, and the
marks take no time there. -/
def SameUnmarked (model : PageModel σ) (page other : σ) : Prop :=
  ∀ calls : List PageCall,
    (model.answers page calls).filter (!·.1.1.isMark) =
        model.answers other (calls.filter (!·.isMark)) ∧
      ∀ answer ∈ model.answers page calls, answer.1.1.isMark = true → answer.2 = 0

/-- What a page answers to other calls, and when, does not depend on the marks before them. -/
def IgnoresMarks (model : PageModel σ) (page : σ) : Prop := SameUnmarked model page page

namespace SameUnmarked

variable {model : PageModel σ} {page other : σ} (h : SameUnmarked model page other)

include h

theorem other_call {call : PageCall} (hcall : call.isMark = false) :
    (model other call).reply = (model page call).reply ∧
      (model other call).elapsed = (model page call).elapsed ∧
      SameUnmarked model (model page call).page (model other call).page := by
  have hcons (calls : List PageCall) :
      (⟨call, (model page call).reply⟩, (model page call).elapsed) ::
          (model.answers (model page call).page calls).filter (!·.1.1.isMark) =
        (⟨call, (model other call).reply⟩, (model other call).elapsed) ::
          model.answers (model other call).page (calls.filter (!·.isMark)) := by
    have hcalls := (h (call :: calls)).1
    rwa [PageModel.answers, List.filter_cons_of_pos (by simp [hcall]),
      List.filter_cons_of_pos (by simp [hcall]), PageModel.answers] at hcalls
  obtain ⟨hrecord, helapsed⟩ := Prod.mk.inj (List.cons.inj (hcons [])).1
  exact ⟨(eq_of_heq (Sigma.mk.inj hrecord).2).symm, helapsed.symm, fun calls =>
    ⟨(List.cons.inj (hcons calls)).2, fun answer hmem =>
      (h (call :: calls)).2 answer (List.mem_cons_of_mem _ hmem)⟩⟩

theorem mark (handle : Handle) (style : HighlightStyle) :
    (model page (.highlight handle style)).elapsed = 0 ∧
      SameUnmarked model (model page (.highlight handle style)).page other :=
  ⟨(h [.highlight handle style]).2 _ List.mem_cons_self rfl, fun calls =>
    ⟨(h (.highlight handle style :: calls)).1, fun answer hmem =>
      (h (.highlight handle style :: calls)).2 answer (List.mem_cons_of_mem _ hmem)⟩⟩

end SameUnmarked

/-- A page ignores marks if they change nothing on which other calls depend. -/
theorem ignoresMarks_of_view {model : PageModel σ} {view : σ → τ}
    (hmark : ∀ page handle style, view (model page (.highlight handle style)).page = view page ∧
      (model page (.highlight handle style)).elapsed = 0)
    (hother : ∀ page other call, call.isMark = false → view page = view other →
      (model page call).reply = (model other call).reply ∧
        (model page call).elapsed = (model other call).elapsed ∧
        view (model page call).page = view (model other call).page)
    (page : σ) : IgnoresMarks model page := by
  suffices h : ∀ calls (page other : σ), view page = view other →
      (model.answers page calls).filter (!·.1.1.isMark) =
          model.answers other (calls.filter (!·.isMark)) ∧
        ∀ answer ∈ model.answers page calls, answer.1.1.isMark = true → answer.2 = 0 from
    fun calls => h calls page page rfl
  intro calls
  induction calls with
  | nil => exact fun _ _ _ => ⟨rfl, List.forall_mem_nil _⟩
  | cons call calls ih =>
    intro page other hview
    cases hcall : call.isMark with
    | true =>
      cases call with
      | highlight handle style =>
        obtain ⟨hsame, helapsed⟩ := hmark page handle style
        obtain ⟨hanswers, hmarks⟩ := ih _ other (hsame.trans hview)
        exact ⟨hanswers, List.forall_mem_cons.2 ⟨fun _ => helapsed, hmarks⟩⟩
      | _ => cases hcall
    | false =>
      obtain ⟨hreply, helapsed, hnext⟩ := hother page other call hcall hview
      obtain ⟨hanswers, hmarks⟩ := ih _ _ hnext
      rw [PageModel.answers, List.filter_cons_of_pos (by simp [hcall]),
        List.filter_cons_of_pos (by simp [hcall]), PageModel.answers, hanswers, hreply, helapsed]
      refine ⟨rfl, List.forall_mem_cons.2 ⟨fun h => ?_, hmarks⟩⟩
      rw [hcall] at h
      cases h

/-! ### Marking and not marking -/

/-- Pages that answer other calls alike, and traces with the same events and other calls. -/
def Pairing.unmarked (model : PageModel σ) : Pairing model model where
  same := SameUnmarked model
  duration := 0
  shows first second := first.events = second.events ∧
    first.calls.filter (!·.2.1.isMark) = second.calls.filter (!·.2.1.isMark)
  nil := ⟨rfl, rfl⟩
  append h h' := by
    refine ⟨?_, ?_⟩
    · rw [Trace.events_append, Trace.events_append, h.1, h'.1]
    · rw [Trace.calls_append, Trace.calls_append, List.filter_append, List.filter_append, h.2, h'.2]
  entry _ _ := ⟨rfl, rfl⟩

section Pairing

variable (model : PageModel σ)

theorem Pairing.unmarked_answers {call : PageCall} (hcall : call.isMark = false) :
    (unmarked model).Answers call where
  reply h := (h.other_call hcall).1
  elapsed h := (h.other_call hcall).2.1
  next h := (h.other_call hcall).2.2

/-- Marking an element counts as doing nothing. -/
theorem Perform.mark_unmarked {config config' : Config} (hoff : config'.highlight.enabled = false)
    (handle : Handle) :
    Paired (Pairing.unmarked model) Eq (mark model config handle) (mark model config' handle) := by
  intro page other time hpage
  unfold mark
  rw [hoff, if_neg Bool.false_ne_true]
  obtain ⟨helapsed, hnext⟩ := SameUnmarked.mark hpage handle config.highlight.style
  split
  · rw [bind_apply]
    dsimp only [Visit.call]
    rw [helapsed]
    revert hnext
    generalize model page (.highlight handle config.highlight.style) = response
    obtain ⟨after, (error : PageError) | _, elapsed⟩ := response
    · exact fun hnext => ⟨hnext, rfl, ⟨rfl, rfl⟩, rfl⟩
    · exact fun hnext => ⟨hnext, rfl, ⟨rfl, rfl⟩, rfl⟩
  · exact ⟨hpage, rfl, ⟨rfl, rfl⟩, rfl⟩

/-- A command does the same whether the settings ask for marks or not. -/
theorem perform_unmarked (config : Config) (on : Config.Highlight) {off : Config.Highlight}
    (hoff : off.enabled = false) (command : Command) (vars : Variables) (index : Nat)
    (goesOn : Outcome × Variables → Prop) :
    SameStep (Pairing.unmarked model) goesOn
      (perform model { config with highlight := on } vars index command)
      (perform model { config with highlight := off } vars index command) := by
  have hself := (Pairing.unmarked model).shows_self rfl
  have hcarries : (Pairing.unmarked model).Carries { config with highlight := on }
      { config with highlight := off } command := {
    timing := rfl
    keys := rfl
    answers := fun call hplain =>
      Pairing.unmarked_answers model (by cases call <;> first | rfl | cases hplain)
    stored := fun _ _ _ => hself _
    marks := Perform.mark_unmarked model hoff
    opens := fun _ _ target => Perform.openPage_paired (Pairing.unmarked_answers model rfl)
      (fun _ => Pairing.unmarked_answers model rfl) target }
  have hperform : Paired (Pairing.unmarked model) (SameStored vars vars)
      (perform model { config with highlight := on } vars index command)
      (perform model { config with highlight := off } vars index command) :=
    perform_paired hcarries (.refl _ _) fun _ => hself _
  exact (hperform.mono fun _ _ => SameStored.eq).sameStep goesOn

end Pairing

/-! ### The mark of a command -/

def Config.marks (config : Config) (located? : Option Handle) : List PageCall :=
  if config.highlight.enabled then
    located?.toList.map (.highlight · config.highlight.style)
  else []

@[simp] theorem Config.marks_none (config : Config) : config.marks none = [] := by
  rw [marks]
  split <;> rfl

/-- A visit that may locate an element, and marks what it locates once, before any other call on an
element. -/
structure Visited.MarksOnce (config : Config) (located? : Option Handle) (visited : Visited σ α)
    (early marks late : List CallRecord) : Prop where
  records : visited.trace.records = early ++ (marks ++ late)
  early : ∀ record ∈ early, record.1.handle? = none
  marks : marks.map Sigma.fst = config.marks located?
  late : ∀ record ∈ late, record.1.isMark = false

theorem PageCall.isMark_of_handle? {call : PageCall} (h : call.handle? = none) :
    call.isMark = false := by
  cases call with
  | highlight handle style => cases h
  | _ => rfl

def Trace.marks (trace : Trace) : List PageCall :=
  (trace.records.map Sigma.fst).filter PageCall.isMark

theorem Config.marks_filter (config : Config) (located? : Option Handle) :
    (config.marks located?).filter PageCall.isMark = config.marks located? := by
  refine List.filter_eq_self.2 fun call hmem => ?_
  rw [marks] at hmem
  split at hmem
  · obtain ⟨handle, _, rfl⟩ := List.mem_map.1 hmem
    rfl
  · cases hmem

theorem Visited.MarksOnce.marks_eq {config : Config} {located? : Option Handle}
    {visited : Visited σ α} {early marks late : List CallRecord}
    (h : visited.MarksOnce config located? early marks late) :
    visited.trace.marks = config.marks located? := by
  have hnone {records : List CallRecord} (h : ∀ record ∈ records, record.1.isMark = false) :
      (records.map Sigma.fst).filter PageCall.isMark = [] :=
    List.filter_eq_nil_iff.2 (List.forall_mem_map.2 fun record hmem => by simp [h record hmem])
  rw [Trace.marks, h.records, List.map_append, List.map_append, List.filter_append,
    List.filter_append, h.marks, config.marks_filter, hnone h.late,
    hnone fun record hmem => PageCall.isMark_of_handle? (h.early record hmem), List.append_nil,
    List.nil_append]

def Visit.Unmarked (visit : Visit σ α) : Prop :=
  visit.Ensures fun _ trace => ∀ record ∈ trace.records, record.1.isMark = false

theorem Visit.Unmarked.pure (result : α) : Unmarked (pure result : Visit σ α) :=
  Ensures.pure (List.forall_mem_nil _)

theorem Visit.Unmarked.bind {first : Visit σ α} {next : α → Visit σ β} (hfirst : first.Unmarked)
    (hnext : ∀ result, (next result).Unmarked) : (first >>= next).Unmarked :=
  Ensures.bind hfirst fun result early hearly => (hnext result).mono fun _ late hlate => by
    rw [Trace.records_append]
    exact List.forall_mem_append.2 ⟨hearly, hlate⟩

/-- A visit that marks an element first, if the settings ask for it. -/
def Visit.MarksFirst (config : Config) (handle : Handle) (visit : Visit σ α) : Prop :=
  visit.Ensures fun _ trace => ∃ marks late, trace.records = marks ++ late ∧
    marks.map Sigma.fst = config.marks (some handle) ∧ ∀ record ∈ late, record.1.isMark = false

theorem Table.Marked.map_fst {config : Config} {handle : Handle} {records : List CallRecord}
    (h : Table.Marked config handle records) :
    records.map Sigma.fst = config.marks (some handle) := by
  cases h with
  | off h => simp [Config.marks, h]
  | on h reply => simp [Config.marks, h]

theorem Table.Sought.handle?_eq_none {candidates : List Selector} {records : List CallRecord}
    {found : Option Handle} (h : Table.Sought candidates records found) :
    ∀ record ∈ records, record.1.handle? = none := by
  induction h with
  | exhausted => exact List.forall_mem_nil _
  | hit h => exact fun record hmem => by rw [h.asks record hmem]; rfl
  | miss h hlater ih =>
    exact List.forall_mem_append.2 ⟨fun record hmem => by rw [h.asks record hmem]; rfl, ih⟩

section Commands

variable (model : PageModel σ) (config : Config)

theorem Perform.mark_first {next : Visit σ α} (handle : Handle) (hnext : next.Unmarked) :
    (mark model config handle >>= fun _ => next).MarksFirst config handle :=
  (mark_marked model config handle).bind fun _ early hmarks => hnext.mono fun _ late hlate =>
    ⟨early.records, late.records, Trace.records_append early late, hmarks.1.map_fst, hlate⟩

/-- After a search the element that it has found is marked. -/
theorem Perform.search_marksOnce (vars : Variables) (index : Nat) (target : Target)
    {next : Search → Visit σ α}
    (hfound : ∀ search located, search.found = some located →
      (next search).MarksFirst config located.handle)
    (hmissed : ∀ search, search.found = none → (next search).Unmarked) (page : σ) (time : Nat) :
    ∃ early marks late,
      ((search model config vars index target >>= next) page time).MarksOnce config
        ((locate model config.timing.waitOptions vars target page time).result.found.map
          Located.handle) early marks late := by
  obtain ⟨hcalls, -⟩ := search_searched model config vars index target page time
  rw [← (search_stored model config vars index target page time).2, Visit.bind_apply]
  generalize search model config vars index target page time = search at hcalls ⊢
  cases hlocated : search.result.found with
  | none =>
    exact ⟨_, [], _, Trace.records_append _ _, hcalls.handle?_eq_none, config.marks_none.symm,
      hmissed _ hlocated search.page search.time⟩
  | some located =>
    obtain ⟨marks, late, hrecords, hmarks, hlate⟩ :=
      hfound _ _ hlocated search.page search.time
    refine ⟨_, marks, late, ?_, hcalls.handle?_eq_none, hmarks, hlate⟩
    dsimp only
    rw [Trace.records_append, hrecords]

/-- What is done after that marks nothing more. -/
theorem Visited.MarksOnce.bind {first : Visit σ α} {next : α → Visit σ β} {page : σ} {time : Nat}
    {config : Config} {located? : Option Handle} {early marks late : List CallRecord}
    (h : (first page time).MarksOnce config located? early marks late)
    (hnext : ∀ result, (next result).Unmarked) :
    ∃ later, ((first >>= next) page time).MarksOnce config located? early marks
      (late ++ later) := by
  refine ⟨_, ?_, h.early, h.marks, List.forall_mem_append.2 ⟨h.late,
    hnext (first page time).result (first page time).page (first page time).time⟩⟩
  rw [bind_apply]
  dsimp only
  rw [Trace.records_append, h.records, List.append_assoc, List.append_assoc]

theorem Perform.onElement_marksOnce (vars : Variables) (index : Nat) (target : Target)
    {act : Handle → Visit σ Outcome} (hact : ∀ handle, (act handle).Unmarked) (page : σ)
    (time : Nat) :
    ∃ early marks late, (onElement model config vars index target act page time).MarksOnce config
      ((locate model config.timing.waitOptions vars target page time).result.found.map
        Located.handle) early marks late := by
  refine search_marksOnce model config vars index target (fun search located hfound => ?_)
    (fun search hmissed => ?_) page time
  · rw [hfound]
    exact mark_first model config located.handle (hact located.handle)
  · rw [hmissed]
    exact .pure _

theorem Perform.store_unmarked (vars : Variables) (name : String) (value : VarValue) :
    (store config vars name value : Visit σ Variables).Unmarked :=
  (store_sets config vars name value).mono fun _ _ ⟨_, hcalls, _⟩ => by
    rw [hcalls]
    exact List.forall_mem_nil _

end Commands

namespace Table

theorem Clicked.unmarked {handle : Handle} {records : List CallRecord}
    (h : Clicked handle records) : ∀ record ∈ records, record.1.isMark = false := by
  cases h
  simp [PageCall.isMark]

theorem Written.unmarked {text : String} {handle : Handle} {records : List CallRecord}
    (h : Written text handle records) : ∀ record ∈ records, record.1.isMark = false := by
  cases h <;> simp [PageCall.isMark]

/-- A command that acts on no element marks none. -/
theorem Row.unmarked {config : Config} {vars after : Variables} {command : Command}
    {records : List CallRecord} (h : Row config vars command records after)
    (helement : command.element? = none) : ∀ record ∈ records, record.1.isMark = false := by
  cases h with
  | openPage h => cases h <;> simp [PageCall.isMark]
  | keyPress h => cases h <;> simp [PageCall.isMark]
  | store value name => exact List.forall_mem_nil _
  | finish => exact List.forall_mem_nil _
  | unrecognized name => exact List.forall_mem_nil _
  | _ => cases helement

end Table

namespace Performance

variable (model : PageModel σ) (config : Config)

def located? (performance : Performance σ) : Option Handle :=
  performance.command.element?.bind fun target =>
    (locate model config.timing.waitOptions performance.vars target performance.page
      performance.time).result.found.map Located.handle

/-- A command marks the element that it locates, once and before any other call on an element. -/
theorem marksOnce (performance : Performance σ) : ∃ early marks late,
    (performance.visit model config).MarksOnce config (performance.located? model config) early
      marks late := by
  obtain ⟨command, vars, index, page, time⟩ := performance
  -- The announcement is no call, so what is left to do makes the same calls.
  suffices hact : ∃ early marks late,
      (Perform.act model config vars index command page time).MarksOnce config
        (located? model config ⟨command, vars, index, page, time⟩) early marks late by
    obtain ⟨early, marks, late, h⟩ := hact
    exact ⟨early, marks, late, h.records, h.early, h.marks, h.late⟩
  have hplain (helement : command.element? = none) : ∃ early marks late,
      (Perform.act model config vars index command page time).MarksOnce config
        (located? model config ⟨command, vars, index, page, time⟩) early marks late := by
    obtain ⟨hrow, -, -⟩ := Perform.act_finished model config vars index command page time
    refine ⟨[], [], _, rfl, List.forall_mem_nil _, ?_, hrow.unmarked helement⟩
    rw [located?, helement]
    exact config.marks_none.symm
  have hon {target : Target} {act : Handle → Visit σ Outcome}
      (hact : ∀ handle, (act handle).Unmarked) : ∃ early marks late,
      ((Perform.onElement model config vars index target act >>= fun outcome =>
          pure (outcome, vars)) page time).MarksOnce config
        ((locate model config.timing.waitOptions vars target page time).result.found.map
          Located.handle) early marks late := by
    obtain ⟨early, marks, late, h⟩ :=
      Perform.onElement_marksOnce model config vars index target hact page time
    obtain ⟨later, h⟩ := h.bind fun outcome => .pure (outcome, vars)
    exact ⟨early, marks, _, h⟩
  cases command with
  | click target =>
    exact hon fun handle =>
      (Perform.clickOn_acted model handle).mono fun _ _ h => h.calls.unmarked
  | type target text =>
    exact hon fun handle =>
      (Perform.writeInto_acted model _ handle).mono fun _ _ h => h.calls.unmarked
  | verifyElementPresent target name =>
    have hstore (present : Bool) : Visit.Unmarked (σ := σ) (do
        pure (Outcome.completed, ← Perform.store config vars (Template.substitute vars name)
          (.bool present))) :=
      (Perform.store_unmarked config vars _ _).bind fun _ => .pure _
    refine Perform.search_marksOnce model config vars index target (fun search located hfound => ?_)
      (fun search hmissed => ?_) page time
    · rw [hfound]
      exact Perform.mark_first model config located.handle (hstore _)
    · rw [hmissed]
      exact hstore _
  | _ => exact hplain rfl

end Performance

/-! ### Runs -/

/-- The marks of a run are those of the commands that it performs. -/
theorem Run.marks_eq (model : PageModel σ) (config : Config) {performances : List (Performance σ)}
    {trace : Trace} (h : trace.records =
      performances.flatMap fun performance => (performance.visit model config).trace.records) :
    trace.marks =
      performances.flatMap fun performance => config.marks (performance.located? model config) := by
  rw [Trace.marks, h, List.map_flatMap, List.filter_flatMap]
  refine List.flatMap_congr fun performance _ => ?_
  obtain ⟨early, marks, late, hmarks⟩ := performance.marksOnce model config
  exact hmarks.marks_eq

theorem Run.marks_of_on (model : PageModel σ) {config : Config}
    (hon : config.highlight.enabled = true) (performances : List (Performance σ)) :
    (performances.flatMap fun performance => config.marks (performance.located? model config)) =
      (performances.filterMap (Performance.located? model config)).map
        (.highlight · config.highlight.style) := by
  rw [List.filterMap_eq_flatMap_toList, List.map_flatMap]
  simp only [Config.marks, hon, if_true]

theorem Trace.calls_of_marks {trace : Trace} (h : trace.marks = []) :
    trace.calls.filter (!·.2.1.isMark) = trace.calls := by
  refine List.filter_eq_self.2 fun call hmem => ?_
  have hmark := List.filter_eq_nil_iff.1 h call.2.1
    (List.mem_map_of_mem (List.mem_map_of_mem hmem))
  simpa using hmark

/-- Marking is for the eye only. On a page whose answers to other calls, and their times, do not
depend on marks, a run that marks elements, in whatever colour and however the page replies to that,
has the same report and the same events at the same times as one that does not, and without the
marks the calls are the same. On any page, each command that locates an element marks it once, under
its handle and before any other call on an element, and there are no other marks; a run whose
settings do not ask for marks makes none. -/
theorem marks_change_nothing (model : PageModel σ) (config : Config) (on off : Config.Highlight)
    (hon : on.enabled = true) (hoff : off.enabled = false) (script : Script) (steering : Steering)
    (page : σ) (time : Nat) :
    let marking := { config with highlight := on }
    let marked := run model marking script steering page time
    let plain := run model { config with highlight := off } script steering page time
    (IgnoresMarks model page →
      plain.report = marked.report ∧ plain.time = marked.time ∧
        plain.trace.events = marked.trace.events ∧
        plain.trace.calls = marked.trace.calls.filter (!·.2.1.isMark)) ∧
    (∃ performances last,
      performances.map Performance.command =
        (Command.ofScript config.keys script).take
          (EventWord.number .commandStarted marked.trace.told) ∧
      Chain model marking .empty 0 page performances last marked.page ∧
      marked.trace.records =
        performances.flatMap (fun performance => (performance.visit model marking).trace.records) ∧
      (∀ performance ∈ performances, ∃ early marks late,
        (performance.visit model marking).MarksOnce marking
          (performance.located? model marking) early marks late) ∧
      marked.trace.marks =
        (performances.filterMap (Performance.located? model marking)).map
          (.highlight · on.style)) ∧
    plain.trace.marks = [] := by
  intro marking marked plain
  obtain ⟨performances, last, hcommands, hstarted, hchain, -, -, hrecords⟩ :=
    Run.drain_performs model marking (Command.ofScript config.keys script) {} steering page time
  have hstarted : EventWord.number .commandStarted marked.trace.told = performances.length :=
    hstarted
  have hmarks : marked.trace.marks = _ := Run.marks_eq model marking hrecords
  obtain ⟨others, -, -, -, -, -, -, hothers⟩ := Run.drain_performs model
    { config with highlight := off } (Command.ofScript config.keys script) {} steering page time
  have hnone : plain.trace.marks = [] := by
    have hplain : plain.trace.marks = _ :=
      Run.marks_eq model { config with highlight := off } hothers
    rw [hplain]
    simp [Config.marks, hoff]
  refine ⟨fun hignores => ?_, ⟨performances, last, ?_, hchain, hrecords,
    fun performance _ => performance.marksOnce model marking, ?_⟩, hnone⟩
  · obtain ⟨htime, hreport, hevents, hcalls⟩ : Run.Same (Pairing.unmarked model) marked plain :=
      run_paired (by rfl) (by rfl) (by rfl) (by rfl)
        (fun command vars index => perform_unmarked model config on hoff command vars index _)
        script steering hignores time
    exact ⟨hreport, htime, hevents.symm, (Trace.calls_of_marks hnone).symm.trans hcalls.symm⟩
  · rw [hstarted]
    exact hcommands
  · rw [hmarks]
    exact Run.marks_of_on model hon performances

/-! ### Rehearsal pages -/

namespace Rehearsal

def Page.unmarkable (page : Page) : Page :=
  { page with faults := page.faults.filter fun fault => fault.kind ≠ .highlight }

theorem Page.fault?_unmarkable (page : Page) {kind : CallKind} (hkind : kind ≠ .highlight) :
    page.unmarkable.fault? kind =
      (page.fault? kind).map fun found => (found.1, found.2.unmarkable) := by
  have hfind : (page.faults.filter fun fault => fault.kind ≠ .highlight).find?
      (fun fault => fault.kind = kind && fault.isActive) =
        page.faults.find? fun fault => fault.kind = kind && fault.isActive := by
    rw [List.find?_filter]
    refine congrArg (List.find? · page.faults) (funext fun fault => ?_)
    by_cases hfault : fault.kind = kind
    · simp [hfault, hkind]
    · simp [hfault]
  have hspent : (page.faults.map fun fault =>
      if fault.kind = kind then fault.spent else fault).filter (fun fault =>
        fault.kind ≠ .highlight) =
      (page.faults.filter fun fault => fault.kind ≠ .highlight).map fun fault =>
        if fault.kind = kind then fault.spent else fault := by
    rw [List.filter_map]
    refine congrArg (List.map _) (congrArg (List.filter · page.faults) (funext fun fault => ?_))
    dsimp only [Function.comp]
    split <;> rfl
  rw [Page.fault?, Page.fault?, unmarkable, hfind, Option.map_map]
  refine congrArg (Option.map · _) (funext fun found => Prod.ext rfl ?_)
  dsimp only [Function.comp, unmarkable]
  rw [hspent]

theorem Page.look_unmarkable (page : Page) (selector : Selector) :
    page.unmarkable.look selector =
      ((page.look selector).1, (page.look selector).2.unmarkable) := by
  unfold look unmarkable
  dsimp only
  cases page.elements.find? (·.selector = selector) <;> rfl

/-- What is answered to other calls does not depend on the faults of marks. -/
theorem respond_unmarkable (page : Page) {call : PageCall} (hcall : call.isMark = false) :
    (respond page.unmarkable call).reply = (respond page call).reply ∧
      (respond page.unmarkable call).page = (respond page call).page.unmarkable := by
  have hkind : CallKind.of call ≠ .highlight := by
    cases call with
    | highlight handle style => cases hcall
    | _ => exact nofun
  have hfault := page.fault?_unmarkable hkind
  cases call with
  | highlight handle style => cases hcall
  | query selector =>
    have hlook := page.look_unmarkable selector
    have hrefused : page.unmarkable.refused = page.refused := rfl
    dsimp only [respond, CallKind.of] at hfault ⊢
    rw [hfault, hlook, hrefused]
    cases page.refused.lookup selector <;> cases page.fault? .query <;> exact ⟨rfl, rfl⟩
  | currentUrl =>
    dsimp only [respond, CallKind.of] at hfault ⊢
    rw [hfault]
    cases page.fault? .currentUrl with
    | none =>
      obtain ⟨url, frozen, elements, refused, faults⟩ := page
      cases url <;> exact ⟨rfl, rfl⟩
    | some fault => exact ⟨rfl, rfl⟩
  | navigate url =>
    dsimp only [respond, CallKind.of] at hfault ⊢
    rw [hfault]
    cases page.fault? .navigate with
    | none =>
      obtain ⟨url, frozen, elements, refused, faults⟩ := page
      cases frozen <;> exact ⟨rfl, rfl⟩
    | some fault => exact ⟨rfl, rfl⟩
  | _ =>
    dsimp only [respond, CallKind.of] at hfault ⊢
    rw [hfault]
    cases page.fault? _ <;> exact ⟨rfl, rfl⟩

theorem unmarkable_mark (page : Page) (handle : Handle) (style : HighlightStyle) :
    (respond page (.highlight handle style)).page.unmarkable = page.unmarkable := by
  have hspent : (page.faults.map fun fault =>
      if fault.kind = .highlight then fault.spent else fault).filter (fun fault =>
        fault.kind ≠ .highlight) = page.faults.filter fun fault => fault.kind ≠ .highlight := by
    induction page.faults with
    | nil => rfl
    | cons fault rest ih =>
      by_cases hfault : fault.kind = .highlight
      · have hkind : fault.spent.kind = .highlight := hfault
        simpa [hfault, hkind] using ih
      · simpa [hfault] using ih
  dsimp only [respond, CallKind.of, Page.fault?]
  cases page.faults.find? _ with
  | none => rfl
  | some fault => simp only [Option.map_some, Page.unmarkable, hspent]

/-- Rehearsal pages ignore marks, even if some of them fail. -/
theorem respond_ignoresMarks (page : Page) : IgnoresMarks respond page := by
  refine ignoresMarks_of_view (fun page handle style => ⟨unmarkable_mark page handle style,
    respond_instant _ _⟩) (fun page other call hcall hview => ?_) page
  obtain ⟨hreply, hnext⟩ := respond_unmarkable page hcall
  obtain ⟨hreply', hnext'⟩ := respond_unmarkable other hcall
  rw [hview] at hreply hnext
  exact ⟨hreply.symm.trans hreply', (respond_instant _ _).trans (respond_instant _ _).symm,
    hnext.symm.trans hnext'⟩

end Rehearsal

/-- Here the mark fails once. The run still waits for the element, clicks on it and ends at the same
time as without marks. -/
theorem failed_mark_changes_nothing :
    let page : Rehearsal.Page :=
      { elements := [{ selector := .parse "css=#late", handle := 1, misses := 1 }]
        faults := [{ kind := .highlight, error := .script "no outline", times := some 1 }] }
    let script : Script :=
      { commands := [{ command := "click", target := some "css=#late" }, { command := "end" }] }
    let off : Config.Highlight := { enabled := false }
    let marked := run Rehearsal.respond {} script .standalone page 0
    let plain := run Rehearsal.respond { highlight := off } script .standalone page 0
    plain.report = marked.report ∧ plain.time = marked.time ∧
      marked.trace.marks = [.highlight 1 {}] ∧ plain.trace.marks = [] := by
  intro page script off marked plain
  obtain ⟨hsame, -, hnone⟩ := marks_change_nothing Rehearsal.respond {} {} off rfl rfl script
    .standalone page 0
  obtain ⟨hreport, htime, -, -⟩ := hsame (Rehearsal.respond_ignoresMarks page)
  exact ⟨hreport, htime, by decide +kernel, hnone⟩

end BrowserReplay
