import BrowserReplay.Proofs.Alike
import BrowserReplay.Proofs.Drain
import BrowserReplay.Proofs.Performed
import Mathlib.Data.List.Basic

/-!
# Steered runs

Signals only delay a run or cut it short. Apart from pauses and its end, a steered run does what the
same run does that nobody steers, up to a boundary between two commands; and apart from the time it
was paused, it takes as long. The two runs are compared from one boundary to the next: they are at
the same command of the queue with the same page and progress, at different times.
-/

namespace BrowserReplay

/-! ### What is compared -/

namespace RunEvent

def isPause : RunEvent → Bool
  | .paused _ | .resumed _ => true
  | _ => false

def isFinish : RunEvent → Bool
  | .runFinished .. => true
  | _ => false

end RunEvent

namespace Occurrence

def tells (sort : RunEvent → Bool) : Occurrence → Bool
  | .event told => sort told
  | _ => false

def record? : Occurrence → Option CallRecord
  | .call made reply => some ⟨made, reply⟩
  | _ => none

def event? : Occurrence → Option RunEvent
  | .event told => some told
  | _ => none

end Occurrence

namespace Trace

def untimed (trace : Trace) : List Occurrence := trace.map Entry.what

def unpaused (trace : Trace) : List Occurrence := trace.untimed.filter (!·.tells RunEvent.isPause)

def work (trace : Trace) : List Occurrence := trace.unpaused.filter (!·.tells RunEvent.isFinish)

/-- How long a run was paused: a pause lasts until the next thing that happens. -/
def suspended : Trace → Nat
  | [] => 0
  | entry :: rest =>
    (match entry.what, rest with
      | .event (.paused _), next :: _ => next.time - entry.time
      | _, _ => 0) + suspended rest

@[simp] theorem untimed_cons (entry : Entry) (trace : Trace) :
    untimed (entry :: trace) = entry.what :: untimed trace := rfl

@[simp] theorem untimed_append (a b : Trace) : untimed (a ++ b) = untimed a ++ untimed b :=
  List.map_append

@[simp] theorem untimed_delay (duration : Nat) (trace : Trace) :
    untimed (trace.delay duration) = untimed trace :=
  map_what_delay duration trace

@[simp] theorem unpaused_append (a b : Trace) : unpaused (a ++ b) = unpaused a ++ unpaused b := by
  rw [unpaused, untimed_append, List.filter_append]
  rfl

@[simp] theorem work_append (a b : Trace) : work (a ++ b) = work a ++ work b := by
  rw [work, unpaused_append, List.filter_append]
  rfl

theorem records_eq_untimed (trace : Trace) :
    trace.records = trace.untimed.filterMap Occurrence.record? := by
  rw [records, calls, untimed, List.map_filterMap, List.filterMap_map]
  refine List.filterMap_congr fun entry _ => ?_
  obtain ⟨time, made | told | line | notice⟩ := entry <;> rfl

theorem told_eq_untimed (trace : Trace) :
    trace.told = trace.untimed.filterMap Occurrence.event? := by
  rw [told, events, untimed, List.map_filterMap, List.filterMap_map]
  refine List.filterMap_congr fun entry _ => ?_
  obtain ⟨time, made | told | line | notice⟩ := entry <;> rfl

/-- Events are no calls. -/
theorem filterMap_record?_filter (sort : RunEvent → Bool) (happened : List Occurrence) :
    (happened.filter (!·.tells sort)).filterMap Occurrence.record? =
      happened.filterMap Occurrence.record? := by
  rw [List.filterMap_filter]
  refine List.filterMap_congr fun what _ => ?_
  cases what with
  | event told => exact ite_self none
  | _ => rfl

theorem filterMap_event?_filter (sort : RunEvent → Bool) (happened : List Occurrence) :
    (happened.filter (!·.tells sort)).filterMap Occurrence.event? =
      (happened.filterMap Occurrence.event?).filter (!sort ·) := by
  rw [List.filterMap_filter, List.filter_filterMap]
  refine List.filterMap_congr fun what _ => ?_
  cases what with
  | event told =>
    cases h : sort told <;> simp [Occurrence.tells, Occurrence.event?, Option.filter, h]
  | _ => rfl

theorem records_eq_unpaused (trace : Trace) :
    trace.records = trace.unpaused.filterMap Occurrence.record? := by
  rw [records_eq_untimed, unpaused, filterMap_record?_filter]

theorem records_eq_work (trace : Trace) :
    trace.records = trace.work.filterMap Occurrence.record? := by
  rw [records_eq_unpaused, work, filterMap_record?_filter]

theorem told_unpaused (trace : Trace) :
    trace.told.filter (!·.isPause) = trace.unpaused.filterMap Occurrence.event? := by
  rw [told_eq_untimed, unpaused, filterMap_event?_filter]

theorem told_work (trace : Trace) :
    (trace.told.filter (!·.isPause)).filter (!·.isFinish) =
      trace.work.filterMap Occurrence.event? := by
  rw [told_unpaused, work, filterMap_event?_filter]

/-- Nothing that happens is a pause or the end of a run. -/
def IsPlain (trace : Trace) : Prop :=
  ∀ what ∈ trace.untimed, what.tells RunEvent.isPause = false ∧ what.tells RunEvent.isFinish = false

theorem IsPlain.unpaused {trace : Trace} (h : trace.IsPlain) : trace.unpaused = trace.untimed :=
  List.filter_eq_self.2 fun what hmem => by rw [(h what hmem).1]; rfl

theorem IsPlain.work {trace : Trace} (h : trace.IsPlain) : trace.work = trace.untimed := by
  rw [Trace.work, h.unpaused]
  exact List.filter_eq_self.2 fun what hmem => by rw [(h what hmem).2]; rfl

@[simp] theorem suspended_paused (index now : Nat) (entry : Entry) (trace : Trace) :
    suspended (⟨now, .event (.paused index)⟩ :: entry :: trace) =
      entry.time - now + suspended (entry :: trace) := rfl

@[simp] theorem suspended_resumed (index time : Nat) (trace : Trace) :
    suspended (⟨time, .event (.resumed index)⟩ :: trace) = suspended trace :=
  Nat.zero_add _

theorem IsPlain.concat {trace : Trace} (h : trace.IsPlain) {entry : Entry}
    (hentry : entry.what.tells RunEvent.isPause = false ∧
      entry.what.tells RunEvent.isFinish = false) :
    IsPlain (trace ++ [entry]) := by
  intro what hmem
  rw [untimed_append, List.mem_append] at hmem
  obtain hmem | hmem := hmem
  · exact h what hmem
  · rw [List.mem_singleton.1 hmem]
    exact hentry

/-- Only pauses suspend a run. -/
theorem suspended_cons {entry : Entry} (h : entry.what.tells RunEvent.isPause = false)
    (trace : Trace) :
    suspended (entry :: trace) = suspended trace := by
  obtain ⟨time, made | told | line | notice⟩ := entry
  · exact Nat.zero_add _
  · cases told with
    | paused index => cases h
    | _ => exact Nat.zero_add _
  · exact Nat.zero_add _
  · exact Nat.zero_add _

theorem IsPlain.suspended_append {early : Trace} (h : early.IsPlain) (late : Trace) :
    suspended (early ++ late) = suspended late := by
  induction early with
  | nil => rfl
  | cons entry early ih =>
    rw [List.cons_append, suspended_cons (h entry.what List.mem_cons_self).1,
      ih fun what hmem => h what (List.mem_cons_of_mem _ hmem)]

end Trace

/-- What can be left of a run at a boundary at which `dispatched` commands have been performed: its
end, or the next command. -/
inductive CutAt (dispatched : Nat) : List Occurrence → Prop
  | finish (state : RunState) : CutAt dispatched [.event (.runFinished state dispatched)]
  | command (name target value : String) (later : List Occurrence) :
      CutAt dispatched (.event (.commandStarted dispatched name target value) :: later)

/-! ### One command -/

section Perform

variable (model : PageModel σ) (config : Config) (vars : Variables) (index : Nat)
  (command : Command) (page : σ) (time : Nat)

theorem perform_begins :
    ∃ target value later, (perform model config vars index command page time).trace =
      ⟨time, .event (.commandStarted index command.name target value)⟩ :: later := by
  cases command <;> exact ⟨_, _, _, rfl⟩

theorem perform_isPlain : (perform model config vars index command page time).trace.IsPlain := by
  obtain ⟨_, ⟨target, value, body, hbody, htold⟩, _⟩ :=
    perform_performed model config vars index command page time
  intro what hmem
  cases what with
  | event told =>
    have htold' : told ∈ (perform model config vars index command page time).trace.told := by
      rw [Trace.told_eq_untimed]
      exact List.mem_filterMap.2 ⟨_, hmem, rfl⟩
    rw [htold] at htold'
    obtain rfl | hin := List.mem_cons.1 htold'
    · exact ⟨rfl, rfl⟩
    obtain ⟨failures, stored, _, _⟩ := hbody
    obtain hin | hin := List.mem_append.1 hin
    · obtain ⟨failure, _, rfl⟩ := List.mem_map.1 hin
      exact ⟨rfl, rfl⟩
    · obtain ⟨entry, _, rfl⟩ := List.mem_map.1 hin
      exact ⟨rfl, rfl⟩
  | _ => exact ⟨rfl, rfl⟩

/-- The same command at two times. -/
theorem perform_twice (other : Nat) :
    ∃ visit : Visited σ (Outcome × Variables),
      perform model config vars index command page time = visit.delay time ∧
      perform model config vars index command page other = visit.delay other := by
  refine ⟨perform model config vars index command page 0, ?_, ?_⟩
  · rw [← perform_delay, Nat.zero_add]
  · rw [← perform_delay, Nat.zero_add]

end Perform

/-! ### The loop -/

/-- A look takes as long as the pause that it tells of. -/
theorem Look.suspended {index now later : Nat} {clearance : Clearance} {looked : Trace}
    (h : Look index now clearance later looked) (hends : clearance ≠ .never) (what : Occurrence)
    (hwhat : what.tells RunEvent.isPause = false) (rest : Trace) :
    Trace.suspended (looked ++ ⟨later, what⟩ :: rest) + now = Trace.suspended rest + later := by
  have hnext := @Trace.suspended_cons ⟨later, what⟩ hwhat rest
  cases h with
  | clear => rw [List.nil_append, hnext]
  | cancelled => rw [List.nil_append, hnext]
  | resumed later h =>
    rw [List.cons_append, List.cons_append, List.nil_append, Trace.suspended_paused,
      Trace.suspended_resumed, hnext]
    dsimp only
    omega
  | cancelledPaused later h =>
    rw [List.cons_append, List.nil_append, Trace.suspended_paused, hnext]
    dsimp only
    omega
  | stuck later h => exact absurd rfl hends

/-- With a command after the look, only the look suspends. -/
theorem Look.suspended_perform {progress : Progress} {now later : Nat} {looked : Trace}
    (h : Look progress.index now .proceed later looked) {model : PageModel σ} {config : Config}
    {command : Command} {page : σ} {visit : Visited σ (Outcome × Variables)}
    (hvisit : visit = perform model config progress.vars progress.index command page later)
    (rest : Trace) :
    Trace.suspended (looked ++ visit.trace ++ rest) + now = Trace.suspended rest + later := by
  obtain ⟨target, value, tail, hbegins⟩ :=
    perform_begins model config progress.vars progress.index command page later
  have hplain := perform_isPlain model config progress.vars progress.index command page later
  rw [← hvisit] at hbegins hplain
  rw [hbegins] at hplain
  have htail : Trace.IsPlain tail := fun what hmem => hplain what (List.mem_cons_of_mem _ hmem)
  rw [hbegins, List.append_assoc, List.cons_append, h.suspended nofun _ rfl,
    htail.suspended_append]

theorem Look.unpaused {index now later : Nat} {clearance : Clearance} {looked : Trace}
    (h : Look index now clearance later looked) : looked.unpaused = [] := by
  cases h <;> rfl

namespace Run

section Standalone

variable (model : PageModel σ) (config : Config) {command : Command} (rest : List Command)
  {progress : Progress} {page : σ} {time : Nat} {visit : Visited σ (Outcome × Variables)}
  (hvisit : perform model config progress.vars progress.index command page time = visit)

include hvisit

/-- A run that nobody steers performs its next command at once, and goes on or leaves the page. -/
theorem drain_standalone_next (h : departure? config visit.result.1 = none) :
    drain model config (command :: rest) progress .standalone page time =
      (drain model config rest (advance progress visit) .standalone visit.page
          (visit.time + config.timing.commandDelay)).after
        (visit.trace ++ [⟨visit.time, conclusion progress.index command visit.result.1⟩]) := by
  subst hvisit
  simp only [drain, checkpoint, Steering.standalone, Steering.catchUp, Outlook.catchUp, h]
  rfl

theorem drain_standalone_left {url : String} (h : departure? config visit.result.1 = some url) :
    drain model config (command :: rest) progress .standalone page time =
      (finish (.navigating url) (advance progress visit) rest.length .standalone visit.page
          visit.time).after
        (visit.trace ++ [⟨visit.time, .event (.navigating url rest.length)⟩]) := by
  subst hvisit
  simp only [drain, checkpoint, Steering.standalone, Steering.catchUp, Outlook.catchUp, h]
  rfl

theorem drain_standalone_begins : ∃ target value later,
    (drain model config (command :: rest) progress .standalone page time).trace.untimed =
      .event (.commandStarted progress.index command.name target value) :: later := by
  obtain ⟨target, value, later, hbegins⟩ :=
    perform_begins model config progress.vars progress.index command page time
  rw [hvisit] at hbegins
  cases h : departure? config visit.result.1 with
  | none =>
    rw [drain_standalone_next model config rest hvisit h, trace_after, hbegins]
    exact ⟨target, value, _, rfl⟩
  | some url =>
    rw [drain_standalone_left model config rest hvisit h, trace_after, hbegins]
    exact ⟨target, value, _, rfl⟩

end Standalone

/-- What a run with a report has in common with the run from the same boundary on that nobody
steers. -/
structure Cut (run alone : Run σ) (report : Report) : Prop where
  /-- It does the same up to a boundary between two commands. -/
  work : ∃ rest, alone.trace.untimed = run.trace.work ++ rest ∧ CutAt report.dispatched rest
  /-- It does all of it unless it is cancelled. -/
  whole : report.state ≠ .cancelled →
    alone.report = some report ∧ alone.trace.untimed = run.trace.unpaused

/-- A look and what then happens in both runs come before a cut. -/
theorem Cut.after {run alone : Run σ} {report : Report} (h : Cut run alone report)
    {looked early late : Trace} (hlooked : looked.unpaused = []) (hearly : early.IsPlain)
    (hlate : late.untimed = early.untimed) :
    Cut (run.after (looked ++ early)) (alone.after late) report := by
  obtain ⟨⟨rest, hrest, hcut⟩, hwhole⟩ := h
  have hunpaused : (looked ++ early).unpaused = late.untimed := by
    rw [Trace.unpaused_append, hlooked, hearly.unpaused, hlate, List.nil_append]
  have hwork : (looked ++ early).work = late.untimed := by
    rw [Trace.work_append, hearly.work, hlate, Trace.work, hlooked]
    rfl
  refine ⟨⟨rest, ?_, hcut⟩, fun hstate => ⟨(hwhole hstate).1, ?_⟩⟩
  · rw [trace_after, trace_after, Trace.untimed_append, Trace.work_append, hwork, hrest,
      List.append_assoc]
  · rw [trace_after, trace_after, Trace.untimed_append, Trace.unpaused_append, hunpaused,
      (hwhole hstate).2]

theorem conclusion_isPlain (index : Nat) (command : Command) (outcome : Outcome) :
    (conclusion index command outcome).tells RunEvent.isPause = false ∧
      (conclusion index command outcome).tells RunEvent.isFinish = false := by
  cases outcome <;> exact ⟨rfl, rfl⟩

theorem advance_delay (progress : Progress) (visit : Visited σ (Outcome × Variables))
    (duration : Nat) : advance progress (visit.delay duration) = advance progress visit := rfl

/-- From any boundary on, a run that ends is a cut of the run that nobody steers, begun at any time;
and it takes as long as the commands that it dispatches take then, and the pauses. -/
theorem drain_cut (model : PageModel σ) (config : Config) (queue : List Command)
    (progress : Progress) (steering : Steering) (page : σ) (time : Nat) :
    let run := drain model config queue progress steering page time
    ∀ start, ∀ report ∈ run.report,
      Cut run (drain model config queue progress .standalone page start) report ∧
        ∃ performed, report.dispatched = progress.index + performed ∧
          run.time + start = (drain model config (queue.take performed) progress .standalone page
            start).time + run.trace.suspended + time := by
  refine drain_induction model config
    (motive := fun queue progress page time run => ∀ start, ∀ report ∈ run.report,
      Cut run (drain model config queue progress .standalone page start) report ∧
        ∃ performed, report.dispatched = progress.index + performed ∧
          run.time + start = (drain model config (queue.take performed) progress .standalone page
            start).time + run.trace.suspended + time)
    ?completed ?stuck ?cancelled ?left ?next queue progress steering page time
  case completed =>
    rintro progress steering page time start _ ⟨⟩
    refine ⟨⟨⟨_, rfl, .finish .completed⟩, fun _ => ⟨rfl, rfl⟩⟩, 0, rfl, ?_⟩
    exact Nat.add_comm time start
  case stuck => exact fun _ _ _ _ _ _ _ _ _ _ _ => nofun
  case cancelled =>
    rintro command rest progress steering page time later looked hlook start _ ⟨⟩
    obtain ⟨target, value, after, hbegins⟩ :=
      @drain_standalone_begins _ model config command rest progress page start _ rfl
    refine ⟨⟨⟨_, ?_, .command command.name target value after⟩, fun h => absurd rfl h⟩, 0, rfl, ?_⟩
    · rw [hbegins, trace_after, Trace.work_append, Trace.work, hlook.unpaused]
      rfl
    · have hsuspended := hlook.suspended nofun (.event (.runFinished .cancelled progress.index))
        rfl []
      show later + start = start + Trace.suspended (looked ++ [_]) + time
      rw [Nat.add_assoc, hsuspended, Nat.add_comm start, Trace.suspended, Nat.zero_add]
  case left =>
    rintro command rest progress steering page time later looked visit url hlook hvisit hleft start
      _ ⟨⟩
    have hsuspended : Trace.suspended (looked ++ visit.trace ++
        [⟨visit.time, .event (.navigating url rest.length)⟩] ++
        [⟨visit.time, .event (.runFinished (.navigating url) (progress.index + 1))⟩]) + time =
          later := by
      rw [List.append_assoc _ [_] [_]]
      exact (hlook.suspended_perform hvisit _).trans (Nat.zero_add later)
    have hplain := perform_isPlain model config progress.vars progress.index command page later
    obtain ⟨base, hthis, hother⟩ :=
      perform_twice model config progress.vars progress.index command page later start
    obtain rfl : visit = base.delay later := hvisit.trans hthis
    rw [← hvisit] at hplain
    refine ⟨?_, 1, rfl, ?_⟩
    · rw [drain_standalone_left model config rest hother hleft, List.append_assoc]
      refine Cut.after ⟨⟨_, rfl, .finish _⟩, fun _ => ⟨rfl, rfl⟩⟩ hlook.unpaused
        (hplain.concat ⟨rfl, rfl⟩) ?_
      simp [Visited.delay]
    · rw [List.take_succ_cons, List.take_zero, drain_standalone_left model config [] hother hleft]
      show base.time + later + start = base.time + start + Trace.suspended (_ ++ [_]) + time
      rw [Nat.add_assoc _ _ time]
      exact (Nat.add_right_comm _ _ _).trans (congrArg _ hsuspended.symm)
  case next =>
    intro command rest progress page time later looked visit run hlook hvisit hgoes hrun start
      report hreport
    have hplain := perform_isPlain model config progress.vars progress.index command page later
    -- Both runs perform the command on the same page, so it is one visit at two times.
    obtain ⟨base, hthis, hother⟩ :=
      perform_twice model config progress.vars progress.index command page later start
    have hconclusion := conclusion_isPlain progress.index command visit.result.1
    have hsuspended : Trace.suspended (looked ++ visit.trace ++
        [⟨visit.time, conclusion progress.index command visit.result.1⟩] ++ run.trace) + time =
          run.trace.suspended + later := by
      rw [List.append_assoc _ [_], hlook.suspended_perform hvisit]
      exact congrArg (· + later) (Trace.suspended_cons hconclusion.1 run.trace)
    obtain rfl : visit = base.delay later := hvisit.trans hthis
    rw [← hvisit] at hplain
    obtain ⟨hcut, performed, hdispatched, htime⟩ :=
      hrun ((base.delay start).time + config.timing.commandDelay) report hreport
    refine ⟨?_, performed + 1, ?_, ?_⟩
    · rw [drain_standalone_next model config rest hother hgoes, List.append_assoc]
      refine Cut.after hcut hlook.unpaused (hplain.concat hconclusion) ?_
      simp [Visited.delay]
    · rw [hdispatched]
      exact Nat.add_right_comm _ _ _
    · rw [List.take_succ_cons, drain_standalone_next model config _ hother hgoes, time_after,
        time_after, trace_after, Nat.add_assoc _ _ time, hsuspended]
      rw [advance_delay] at htime ⊢
      dsimp only [Visited.delay] at htime ⊢
      omega

/-! ### Runs that end -/

theorem awaitEnd_ne_never (now : Nat) (signal : Signal) (turns : List Turn) :
    (Outlook.awaitEnd false now signal turns).clearance ≠ .never := by
  induction turns generalizing now signal with
  | nil => cases signal <;> exact nofun
  | cons turn rest ih =>
    cases signal with
    | proceed => exact nofun
    | cancel => exact nofun
    | pause => exact ih _ _

theorem checkpoint_attended (steering : Steering) (index now : Nat) :
    (checkpoint steering index now).2.2.1.attended = steering.attended := by
  unfold checkpoint
  simp only
  cases (steering.catchUp now).signal <;> rfl

theorem checkpoint_ne_never {steering : Steering} (h : steering.attended = false)
    (index now : Nat) : (checkpoint steering index now).1 ≠ .never := by
  unfold checkpoint
  simp only
  cases (steering.catchUp now).signal with
  | proceed => exact nofun
  | cancel => exact nofun
  | pause =>
    have hattended : (steering.catchUp now).attended = false := h
    rw [hattended]
    exact awaitEnd_ne_never _ _ _

/-- When no control is left at last, no pause lasts for ever. -/
theorem drain_report (model : PageModel σ) (config : Config) (queue : List Command)
    (progress : Progress) (steering : Steering) (h : steering.attended = false) (page : σ)
    (time : Nat) :
    ∃ report, (drain model config queue progress steering page time).report = some report := by
  induction queue generalizing progress steering page time with
  | nil => exact ⟨_, rfl⟩
  | cons command rest ih =>
    have hends := checkpoint_ne_never h progress.index time
    have hattended := (checkpoint_attended steering progress.index time).trans h
    rw [drain]
    revert hends hattended
    obtain ⟨clearance, later, steering, looked⟩ := checkpoint steering progress.index time
    intro hends hattended
    cases clearance with
    | never => exact absurd rfl hends
    | cancel => exact ⟨_, rfl⟩
    | proceed =>
      simp only
      split
      · exact ⟨_, rfl⟩
      · exact ih _ steering hattended _ _

end Run

/-- The first commands of a script. -/
def Script.take (script : Script) (count : Nat) : Script :=
  { script with commands := script.commands.take count }

/-- Signals only delay a run or cut it short. Whatever is done to the signal, and when, until the
last control is dropped: the run ends; what it does, pauses apart, is what the run does that nobody
steers, up to a boundary between two commands, and all of it unless the run is cancelled; and it
takes as long as the dispatched commands take when nobody steers, and the time it was paused. -/
theorem steered_run_is_cut (model : PageModel σ) (config : Config) (script : Script)
    (signal : Signal) (turns : List Turn) (page : σ) (time : Nat) :
    let steered := run model config script ⟨signal, turns, false⟩ page time
    let alone := run model config script .standalone page time
    ∃ report, steered.report = some report ∧
      (∃ rest, alone.trace.untimed = steered.trace.work ++ rest ∧ CutAt report.dispatched rest) ∧
      steered.trace.records <+: alone.trace.records ∧
      (steered.trace.told.filter (!·.isPause)).filter (!·.isFinish) <+: alone.trace.told ∧
      (report.state ≠ .cancelled →
        alone.report = some report ∧
        steered.trace.records = alone.trace.records ∧
        steered.trace.told.filter (!·.isPause) = alone.trace.told) ∧
      steered.time =
        (run model config (script.take report.dispatched) .standalone page time).time +
          steered.trace.suspended := by
  intro steered alone
  obtain ⟨report, hreport⟩ := Run.drain_report model config (Command.ofScript config.keys script) {}
    ⟨signal, turns, false⟩ rfl page time
  obtain ⟨hdrain, performed, hdispatched, htime⟩ := Run.drain_cut model config
    (Command.ofScript config.keys script) {} ⟨signal, turns, false⟩ page time time report hreport
  have hstart : Trace.IsPlain
      [⟨time, .event (.runStarted (Command.ofScript config.keys script).length)⟩] := by
    intro what hmem
    rw [List.mem_singleton.1 hmem]
    exact ⟨rfl, rfl⟩
  have hcut : Run.Cut steered alone report := @Run.Cut.after _ _ _ _ hdrain [] _ _ rfl hstart rfl
  obtain ⟨⟨rest, hrest, hboundary⟩, hwhole⟩ := hcut
  refine ⟨report, hreport, ⟨rest, hrest, hboundary⟩, ?_, ?_, fun hstate => ?_, ?_⟩
  · rw [Trace.records_eq_work, Trace.records_eq_untimed, hrest, List.filterMap_append]
    exact List.prefix_append _ _
  · rw [Trace.told_work, Trace.told_eq_untimed, hrest, List.filterMap_append]
    exact List.prefix_append _ _
  · obtain ⟨halone, huntimed⟩ := hwhole hstate
    refine ⟨halone, ?_, ?_⟩
    · rw [Trace.records_eq_unpaused, Trace.records_eq_untimed, huntimed]
    · rw [Trace.told_unpaused, Trace.told_eq_untimed, huntimed]
  · have htake : Command.ofScript config.keys (script.take report.dispatched) =
        (Command.ofScript config.keys script).take performed := by
      rw [hdispatched, Command.ofScript, Script.take, List.map_take]
      exact congrArg (List.take · _) (Nat.zero_add performed)
    have hsuspended : steered.trace.suspended =
        (Run.drain model config (Command.ofScript config.keys script) {} ⟨signal, turns, false⟩
          page time).trace.suspended :=
      Trace.suspended_cons rfl _
    rw [hsuspended, run, htake]
    exact Nat.add_right_cancel htime

end BrowserReplay
