import BrowserReplay.Proofs.Drain

/-!
# What a visit is composed of

The commands are composed of a few basic steps (`perform_composed`), so that what the steps have in
common holds of every command. Here these are the order of time (`Visit.Composed.spans`), which a
whole run keeps too, and that nothing is said to the user (`Visit.Composed.silent`).
-/

namespace BrowserReplay

namespace Visit

/-- A visit that is composed of basic steps. -/
inductive Composed (model : PageModel σ) : {α : Type} → Visit σ α → Prop
  | pure {α : Type} (result : α) : Composed model (pure result)
  | tell (event : RunEvent) : Composed model (tell event)
  | tellAll (events : List RunEvent) : Composed model (tellAll events)
  | remark (level : LogLevel) (message : String) : Composed model (remark level message)
  | rest (duration : Nat) : Composed model (rest duration)
  | clock : Composed model clock
  | call (call : PageCall) : Composed model (Visit.call model call)
  | bind {α β : Type} {first : Visit σ α} {next : α → Visit σ β} (hfirst : Composed model first)
      (hnext : ∀ result, Composed model (next result)) : Composed model (first >>= next)

end Visit

/-! ### Commands -/

section Commands

variable (model : PageModel σ) (config : Config)

theorem Wait.poll_composed (options : WaitOptions) (raw : String) (start budget : Nat) :
    (poll model options raw start budget).Composed model := by
  induction budget with
  | zero => exact .bind .clock fun _ => .pure _
  | succ budget ih =>
    refine .bind .clock fun now => ?_
    split
    · exact .pure _
    · refine .bind (.call _) fun reply => ?_
      obtain (cause : PageError) | (_ | (handle : Handle)) := reply
      · exact .pure _
      · exact .bind (.remark _ _) fun _ => .bind (.rest _) fun _ => ih
      · exact .pure _

theorem tryCandidates_composed (options : WaitOptions) (position : Nat) (candidates : List String) :
    (tryCandidates model options position candidates).Composed model := by
  induction candidates generalizing position with
  | nil => exact .pure _
  | cons selector rest ih =>
    have hwait : (waitFor model options selector).Composed model :=
      .bind .clock fun start => Wait.poll_composed model options selector start _
    refine .bind hwait fun found => ?_
    cases found with
    | ok handle => exact .pure _
    | error failure => exact .bind (ih (position + 1)) fun _ => .pure _

namespace Perform

theorem search_composed (vars : Variables) (index : Nat) (target : Target) :
    (search model config vars index target).Composed model :=
  .bind (tryCandidates_composed model _ 0 _) fun _ => .bind (.tellAll _) fun _ => .pure _

theorem mark_composed (handle : Handle) : (mark model config handle).Composed model := by
  unfold mark
  split
  · refine .bind (.call _) fun reply => ?_
    obtain (error : PageError) | _ := reply
    · exact .remark _ _
    · exact .pure _
  · exact .pure _

theorem onElement_composed (vars : Variables) (index : Nat) (target : Target)
    {act : Handle → Visit σ Outcome} (hact : ∀ handle, (act handle).Composed model) :
    (onElement model config vars index target act).Composed model := by
  refine .bind (search_composed model config vars index target) fun search => ?_
  split
  · exact .bind (mark_composed model config _) fun _ => hact _
  · exact .pure _

theorem clickOn_composed (handle : Handle) : (clickOn model handle).Composed model :=
  .bind (.call _) fun _ => .pure _

theorem writeInto_composed (text : String) (handle : Handle) :
    (writeInto model text handle).Composed model := by
  refine .bind (.call _) fun reply => ?_
  obtain (error : PageError) | _ := reply
  · exact .pure _
  · exact .bind (.call _) fun _ => .pure _

theorem goTo_composed (failure destination : String) :
    (goTo model failure destination).Composed model := by
  refine .bind (.call _) fun reply => ?_
  obtain (error : PageError) | (arrival : Arrival) := reply
  · exact .bind (.remark _ _) fun _ => .pure _
  · exact .pure _

theorem openPage_composed (target : String) : (openPage model target).Composed model := by
  refine .bind (.call _) fun location => ?_
  obtain (error : PageError) | (current : String) := location
  · refine .bind (.remark _ _) fun _ => ?_
    dsimp only
    split
    · exact .bind (.remark _ _) fun _ => .pure _
    · exact goTo_composed model _ _
  · dsimp only
    split
    · exact goTo_composed model _ _
    · split
      · exact .bind (.remark _ _) fun _ => .pure _
      · exact goTo_composed model _ _

theorem pressKey_composed (value : Option String) : (pressKey model config value).Composed model := by
  unfold pressKey
  split
  · exact .bind (.call _) fun _ => .pure _
  · exact .pure _

theorem store_composed (vars : Variables) (name : String) (value : VarValue) :
    (store config vars name value).Composed model :=
  .bind (.tell _) fun _ => .pure _

theorem act_composed (vars : Variables) (index : Nat) (command : Command) :
    (act model config vars index command).Composed model := by
  cases command with
  | store value name => exact .bind (store_composed model config vars _ _) fun _ => .pure _
  | openPage url => exact .bind (openPage_composed model _) fun _ => .pure _
  | click target =>
    exact .bind (onElement_composed model config vars index target (clickOn_composed model))
      fun _ => .pure _
  | type target text =>
    exact .bind (onElement_composed model config vars index target (writeInto_composed model _))
      fun _ => .pure _
  | verifyElementPresent target name =>
    refine .bind (search_composed model config vars index target) fun search => ?_
    obtain ⟨_ | located, failed⟩ := search
    · exact .bind (store_composed model config vars _ _) fun _ => .pure _
    · exact .bind (mark_composed model config _) fun _ =>
        .bind (store_composed model config vars _ _) fun _ => .pure _
  | finish => exact .pure _
  | keyPress value => exact .bind (pressKey_composed model config value) fun _ => .pure _
  | unrecognized name => exact .bind (.remark _ _) fun _ => .pure _

end Perform

theorem perform_composed (vars : Variables) (index : Nat) (command : Command) :
    (perform model config vars index command).Composed model :=
  .bind (.tell _) fun _ => Perform.act_composed model config vars index command

end Commands

/-! ### The order of time -/

namespace Trace

/-- Everything happens in the order of its time, nothing before `early` or after `late`. -/
def Spans (late : Nat) : (early : Nat) → Trace → Prop
  | early, [] => early ≤ late
  | early, entry :: rest => early ≤ entry.time ∧ Spans late entry.time rest

namespace Spans

variable {early middle late : Nat} {a b : Trace}

theorem le (h : Spans late early a) : early ≤ late := by
  induction a generalizing early with
  | nil => exact h
  | cons entry rest ih => exact Nat.le_trans h.1 (ih h.2)

theorem earlier {first : Nat} (h : Spans late early a) (hfirst : first ≤ early) :
    Spans late first a := by
  cases a with
  | nil => exact Nat.le_trans hfirst h
  | cons entry rest => exact ⟨Nat.le_trans hfirst h.1, h.2⟩

theorem append (ha : Spans middle early a) (hb : Spans late middle b) : Spans late early (a ++ b) := by
  induction a generalizing early with
  | nil => exact hb.earlier ha
  | cons entry rest ih => exact ⟨ha.1, ih ha.2⟩

theorem entry_le (h : Spans late early a) : ∀ entry ∈ a, entry.time ≤ late := by
  induction a generalizing early with
  | nil => exact nofun
  | cons entry rest ih => exact List.forall_mem_cons.2 ⟨h.2.le, ih h.2⟩

theorem single (time : Nat) (what : Occurrence) : Spans time time [⟨time, what⟩] :=
  ⟨Nat.le_refl time, Nat.le_refl time⟩

theorem events (time : Nat) (events : List RunEvent) :
    Spans time time (events.map (⟨time, .event ·⟩)) := by
  induction events with
  | nil => exact Nat.le_refl time
  | cons event events ih => exact ⟨Nat.le_refl time, ih⟩

end Spans

end Trace

/-- What a visit does happens while it lasts, in the order of time. -/
theorem Visit.Composed.spans {model : PageModel σ} {α : Type} {visit : Visit σ α}
    (h : visit.Composed model) (page : σ) (time : Nat) :
    Trace.Spans (visit page time).time time (visit page time).trace := by
  induction h generalizing page time with
  | pure result => exact Nat.le_refl time
  | tell event => exact .single time _
  | tellAll events => exact .events time events
  | remark level message => exact .single time _
  | rest duration => exact Nat.le_add_right time duration
  | clock => exact Nat.le_refl time
  | call call => exact ⟨Nat.le_refl time, Nat.le_add_right time _⟩
  | bind _ _ ihfirst ihnext => exact (ihfirst page time).append (ihnext _ _ _)

theorem Look.spans {index now later : Nat} {clearance : Clearance} {looked : Trace}
    (h : Look index now clearance later looked) : Trace.Spans later now looked := by
  cases h with
  | clear => exact Nat.le_refl now
  | cancelled => exact Nat.le_refl now
  | resumed later h => exact ⟨Nat.le_refl now, h, Nat.le_refl later⟩
  | cancelledPaused later h => exact ⟨Nat.le_refl now, h⟩
  | stuck later h => exact ⟨Nat.le_refl now, h⟩

section Runs

variable (model : PageModel σ) (config : Config)

/-- What a run does happens while it lasts, in the order of time. -/
theorem Run.drain_spans (queue : List Command) (progress : Progress) (steering : Steering)
    (page : σ) (time : Nat) :
    let run := drain model config queue progress steering page time
    Trace.Spans run.time time run.trace := by
  refine drain_induction model config
    (motive := fun _ _ _ time run => Trace.Spans run.time time run.trace)
    ?completed ?stuck ?cancelled ?left ?next queue progress steering page time
  case completed => exact fun _ _ _ time => .single time _
  case stuck => exact fun _ _ _ _ _ _ _ _ hlook => hlook.spans
  case cancelled => exact fun _ _ _ _ _ _ later _ hlook => hlook.spans.append (.single later _)
  case left =>
    rintro command rest progress steering page time later looked visit url hlook rfl _
    have hvisit := (perform_composed model config progress.vars progress.index command).spans page
      later
    exact (((hlook.spans.append hvisit).append (.single _ _))).append (.single _ _)
  case next =>
    rintro command rest progress page time later looked visit run hlook rfl _ hrun
    have hvisit := (perform_composed model config progress.vars progress.index command).spans page
      later
    exact (((hlook.spans.append hvisit).append (.single _ _))).append
      (hrun.earlier (Nat.le_add_right _ _))

/-! ### Silence -/

/-- A visit says nothing to the user. -/
theorem Visit.Composed.silent {model : PageModel σ} {α : Type} {visit : Visit σ α}
    (h : visit.Composed model) (page : σ) (time : Nat) : (visit page time).trace.notices = [] := by
  induction h generalizing page time with
  | tellAll events =>
    show Trace.notices (events.map (⟨time, .event ·⟩)) = []
    induction events with
    | nil => rfl
    | cons event events ih => exact ih
  | bind _ _ ihfirst ihnext =>
    rw [Visit.bind_apply, Trace.notices_append, ihfirst, ihnext]
    rfl
  | _ => rfl

theorem Look.notices_eq_nil {index now later : Nat} {clearance : Clearance} {looked : Trace}
    (h : Look index now clearance later looked) : looked.notices = [] := by
  cases h <;> rfl

theorem Run.drain_notices (queue : List Command) (progress : Progress) (steering : Steering)
    (page : σ) (time : Nat) :
    (drain model config queue progress steering page time).trace.notices = [] := by
  refine drain_induction model config (motive := fun _ _ _ _ run => run.trace.notices = [])
    ?completed ?stuck ?cancelled ?left ?next queue progress steering page time
  case completed => exact fun _ _ _ _ => rfl
  case stuck => exact fun _ _ _ _ _ _ _ _ hlook => hlook.notices_eq_nil
  case cancelled =>
    intro command rest progress steering page time later looked hlook
    rw [trace_after, Trace.notices_append, hlook.notices_eq_nil]
    rfl
  case left =>
    rintro command rest progress steering page time later looked _ url hlook rfl _
    have hperform := (perform_composed model config progress.vars progress.index command).silent page
      later
    simp only [trace_after, Trace.notices_append, hlook.notices_eq_nil, hperform]
    rfl
  case next =>
    rintro command rest progress page time later looked _ run hlook rfl _ hrun
    have hperform := (perform_composed model config progress.vars progress.index command).silent page
      later
    have hconclusion (outcome : Outcome) (time : Nat) :
        Trace.notices [⟨time, conclusion progress.index command outcome⟩] = [] := by
      cases outcome <;> rfl
    simp only [trace_after, Trace.notices_append, hlook.notices_eq_nil, hperform, hconclusion, hrun]
    rfl

/-- A run says nothing to the user. -/
theorem run_notices (script : Script) (steering : Steering) (page : σ) (time : Nat) :
    (run model config script steering page time).trace.notices = [] :=
  Run.drain_notices model config _ {} steering page time

end Runs

end BrowserReplay
