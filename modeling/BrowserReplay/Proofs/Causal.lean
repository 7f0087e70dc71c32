import BrowserReplay.Proofs.EventRun
import BrowserReplay.Proofs.Steered

/-!
# What comes later in a script

A run converts its whole script before it begins, and announces how many commands there are. Nothing
else in it depends on the commands that are still to come: the run of a longer script does what the
run of its first commands does, at the same times, and then goes on where that one ended.
-/

namespace BrowserReplay

def Script.append (first second : Script) : Script :=
  { first with commands := first.commands ++ second.commands }

@[simp] theorem Trace.calls_event (time : Nat) (event : RunEvent) (trace : Trace) :
    Trace.calls (⟨time, .event event⟩ :: trace) = trace.calls := rfl

def RunEvent.index? : RunEvent → Option Nat
  | .commandStarted index .. | .selectorFailed index .. | .commandCompleted index _
  | .commandAbandoned index .. | .paused index | .resumed index => some index
  | .runStarted _ | .variableStored .. | .navigating .. | .runFinished .. => none

/-- The events are about commands from `low` on, and before `high`. -/
def Trace.Within (low high : Nat) (trace : Trace) : Prop :=
  ∀ told ∈ trace.told, ∀ index ∈ told.index?, low ≤ index ∧ index < high

theorem Trace.Within.append {low high : Nat} {a b : Trace} (ha : Trace.Within low high a)
    (hb : Trace.Within low high b) : Trace.Within low high (a ++ b) := by
  intro told hmem index hindex
  rw [Trace.told_append, List.mem_append] at hmem
  rcases hmem with hmem | hmem
  · exact ha told hmem index hindex
  · exact hb told hmem index hindex

theorem Trace.Within.mono {low high low' high' : Nat} {trace : Trace}
    (h : Trace.Within low high trace) (hlow : low' ≤ low) (hhigh : high ≤ high') :
    Trace.Within low' high' trace := by
  intro told hmem index hindex
  have hbetween := h told hmem index hindex
  omega

/-- A command tells only of itself. -/
theorem perform_within (model : PageModel σ) (config : Config) (vars : Variables) (index : Nat)
    (command : Command) (page : σ) (time : Nat) :
    (perform model config vars index command page time).trace.Within index (index + 1) := by
  obtain ⟨_, ⟨target, value, body, hbody, htold⟩, _⟩ :=
    perform_performed model config vars index command page time
  intro told hmem
  rw [htold] at hmem
  obtain ⟨failures, stored, _, _⟩ := hbody
  simp only [List.mem_cons, List.mem_append, List.mem_map] at hmem
  rcases hmem with rfl | ⟨failure, _, rfl⟩ | ⟨entry, _, rfl⟩ <;> simp [RunEvent.index?]

namespace Run

variable (model : PageModel σ) (config : Config)

theorem conclusion_within (index : Nat) (command : Command) (outcome : Outcome) (time : Nat) :
    Trace.Within index (index + 1) [⟨time, conclusion index command outcome⟩] := by
  intro told hmem
  rw [told_conclusion] at hmem
  cases outcome <;> simp [ending] at hmem <;> simp_all [RunEvent.index?]

def outcomes : List Command → Progress → (page : σ) → (time : Nat) → List Outcome
  | [], _, _, _ => []
  | command :: rest, progress, page, time =>
    let visit := perform model config progress.vars progress.index command page time
    visit.result.1 ::
      match departure? config visit.result.1 with
      | some _ => []
      | none =>
        outcomes rest (advance progress visit) visit.page (visit.time + config.timing.commandDelay)

/-- The counters of a run are those at its beginning and the outcomes of what it dispatches. -/
theorem drain_outcomes (queue : List Command) (progress : Progress) (page : σ) (time : Nat) :
    ∃ report, (drain model config queue progress .standalone page time).report = some report ∧
      report.dispatched = progress.index + (outcomes model config queue progress page time).length ∧
      report.tally = (outcomes model config queue progress page time).foldl count progress.tally ∧
      report.remaining + (outcomes model config queue progress page time).length =
        queue.length := by
  induction queue generalizing progress page time with
  | nil => exact ⟨_, rfl, rfl, rfl, rfl⟩
  | cons command rest ih =>
    obtain ⟨visit, hvisit⟩ : ∃ visit,
      perform model config progress.vars progress.index command page time = visit := ⟨_, rfl⟩
    rw [outcomes, hvisit]
    cases hdeparture : departure? config visit.result.1 with
    | some url =>
      rw [drain_standalone_left model config rest hvisit hdeparture]
      exact ⟨_, rfl, rfl, rfl, rfl⟩
    | none =>
      obtain ⟨report, hreport, hdispatched, htally, hremaining⟩ := ih (advance progress visit)
        visit.page (visit.time + config.timing.commandDelay)
      rw [drain_standalone_next model config rest hvisit hdeparture]
      refine ⟨report, hreport, ?_, htally, ?_⟩
      · simp only [List.length_cons, advance] at hdispatched ⊢
        omega
      · simp only [List.length_cons]
        omega

def departed (url : String) (progress : Progress) (remaining : Nat) (page : σ) (time : Nat) :
    Run σ :=
  (finish (.navigating url) progress remaining .standalone page time).after
    [⟨time, .event (.navigating url remaining)⟩]

/-- From a boundary on, a run with more commands behind its own does the same work. Where the run
with its own commands completes the other goes on; where it leaves the page the other does. -/
theorem drain_append (first second : List Command) (progress : Progress) (page : σ) (time : Nat) :
    ∃ work progress' page' time',
      Trace.Within progress.index (progress.index + first.length) work ∧
      ((progress'.index = progress.index + first.length ∧
          drain model config first progress .standalone page time =
            (finish .completed progress' 0 .standalone page' time').after work ∧
          drain model config (first ++ second) progress .standalone page time =
            (drain model config second progress' .standalone page' time').after work) ∨
        ∃ url remaining,
          drain model config first progress .standalone page time =
            (departed url progress' remaining page' time').after work ∧
          drain model config (first ++ second) progress .standalone page time =
            (departed url progress' (remaining + second.length) page' time').after work) := by
  induction first generalizing progress page time with
  | nil => exact ⟨[], progress, page, time, nofun, .inl ⟨rfl, rfl, rfl⟩⟩
  | cons command rest ih =>
    obtain ⟨visit, hvisit⟩ : ∃ visit,
      perform model config progress.vars progress.index command page time = visit := ⟨_, rfl⟩
    have hwithin := perform_within model config progress.vars progress.index command page time
    rw [hvisit] at hwithin
    rw [List.cons_append, List.length_cons]
    cases hdeparture : departure? config visit.result.1 with
    | some url =>
      refine ⟨visit.trace, advance progress visit, visit.page, visit.time,
        hwithin.mono (Nat.le_refl _) (by omega), .inr ⟨url, rest.length, ?_, ?_⟩⟩
      · rw [drain_standalone_left model config rest hvisit hdeparture]
        simp [departed, after]
      · rw [drain_standalone_left model config (rest ++ second) hvisit hdeparture,
          List.length_append]
        simp [departed, after]
    | none =>
      obtain ⟨work, progress', page', time', hwork, hends⟩ := ih (advance progress visit) visit.page
        (visit.time + config.timing.commandDelay)
      have hindex : (advance progress visit).index = progress.index + 1 := rfl
      rw [hindex] at hwork hends
      rw [drain_standalone_next model config rest hvisit hdeparture,
        drain_standalone_next model config (rest ++ second) hvisit hdeparture]
      have hcommand : Trace.Within progress.index (progress.index + (rest.length + 1))
          (visit.trace ++ [⟨visit.time, conclusion progress.index command visit.result.1⟩]) := by
        have hconclusion :=
          conclusion_within progress.index command visit.result.1 visit.time
        exact (hwithin.append hconclusion).mono (Nat.le_refl _) (by omega)
      refine ⟨visit.trace ++ [⟨visit.time, conclusion progress.index command visit.result.1⟩] ++
        work, progress', page', time', hcommand.append (hwork.mono (by omega) (by omega)), ?_⟩
      rcases hends with ⟨hend, hfirst, hboth⟩ | ⟨url, remaining, hfirst, hboth⟩
      · rw [hfirst, hboth]
        exact .inl ⟨by omega, by simp [after], by simp [after]⟩
      · rw [hfirst, hboth]
        exact .inr ⟨url, remaining, by simp [after], by simp [after]⟩

/-- From a boundary on, a run that nobody steers tells only of the commands that are left. -/
theorem index_le_of_drain (queue : List Command) (progress : Progress) (page : σ) (time : Nat) :
    ∀ told ∈ (drain model config queue progress .standalone page time).trace.told,
      ∀ index ∈ told.index?, progress.index ≤ index := by
  obtain ⟨work, progress', page', time', hwork, ⟨-, hrun, -⟩ | ⟨url, remaining, hrun, -⟩⟩ :=
    drain_append model config queue [] progress page time
  all_goals
    rw [hrun]
    intro told hmem index hindex
    rw [trace_after, Trace.told_append, List.mem_append] at hmem
    rcases hmem with hmem | hmem
    · exact (hwork told hmem index hindex).1
    -- Neither leaving the page nor the end of the run is about a command.
    · simp only [departed, finish, after, List.cons_append, List.nil_append, Trace.told_event,
        Trace.told_nil, List.mem_cons, List.not_mem_nil, or_false] at hmem
      rcases hmem with rfl | rfl <;> cases hindex

end Run

/-- A run is causal in its script. Behind the same first commands, whatever comes later in a script
changes neither a call to the page nor what is told of those commands, nor the times (`work`). If the
run of the first commands completes, then the run of both scripts goes on from the page, the
variables, the counters and the time which that one left, and adds the outcomes of the commands that
it dispatches from there. If the run of the first commands leaves its page, the run of both scripts
ends with it, and only drops the commands of the second script as well. -/
theorem runs_are_causal (model : PageModel σ) (config : Config) (first second : Script) (page : σ)
    (time : Nat) :
    let alone := run model config first .standalone page time
    let whole := run model config (first.append second) .standalone page time
    ∃ report work, alone.report = some report ∧
      alone.trace.calls <+: whole.trace.calls ∧
      (∀ told ∈ Trace.told work, ∀ index ∈ told.index?, index < first.length) ∧
      ((report.state = .completed ∧ report.dispatched = first.length ∧
          alone.trace = ⟨time, .event (.runStarted first.length)⟩ :: (work ++
            [⟨alone.time, .event (.runFinished .completed first.length)⟩]) ∧
          let queue := Command.ofScript config.keys second
          let left : Progress := ⟨report.vars, report.dispatched, report.tally⟩
          let later := Run.drain model config queue left .standalone alone.page alone.time
          let outcomes := Run.outcomes model config queue left alone.page alone.time
          whole = later.after
            (⟨time, .event (.runStarted (first.length + second.length))⟩ :: work) ∧
          (∀ told ∈ later.trace.told, ∀ index ∈ told.index?, first.length ≤ index) ∧
          ∃ last, whole.report = some last ∧
            last.dispatched = report.dispatched + outcomes.length ∧
            last.tally = outcomes.foldl Run.count report.tally ∧
            last.remaining + outcomes.length = second.length) ∨
        ∃ url, report.state = .navigating url ∧
          alone.trace = ⟨time, .event (.runStarted first.length)⟩ :: (work ++
            [⟨alone.time, .event (.navigating url report.remaining)⟩,
              ⟨alone.time, .event (.runFinished (.navigating url) report.dispatched)⟩]) ∧
          whole.trace = ⟨time, .event (.runStarted (first.length + second.length))⟩ :: (work ++
            [⟨alone.time, .event (.navigating url (report.remaining + second.length))⟩,
              ⟨alone.time, .event (.runFinished (.navigating url) report.dispatched)⟩]) ∧
          whole.trace.calls = alone.trace.calls ∧
          whole.report = some { report with remaining := report.remaining + second.length } ∧
          whole.page = alone.page ∧ whole.time = alone.time) := by
  intro alone whole
  have hfirst : (Command.ofScript config.keys first).length = first.length := List.length_map _
  have hsecond : (Command.ofScript config.keys second).length = second.length := List.length_map _
  have hqueue : Command.ofScript config.keys (first.append second) =
      Command.ofScript config.keys first ++ Command.ofScript config.keys second :=
    List.map_append
  obtain ⟨work, progress, page', time', hwork, hends⟩ := Run.drain_append model config
    (Command.ofScript config.keys first) (Command.ofScript config.keys second) {} page time
  have hzero : ({} : Progress).index = 0 := rfl
  rw [hzero, hfirst, Nat.zero_add, ← hqueue] at hends
  rw [hzero, hfirst, Nat.zero_add] at hwork
  have halone : alone = (Run.drain model config (Command.ofScript config.keys first) {} .standalone
      page time).after [⟨time, .event (.runStarted first.length)⟩] := by
    rw [← hfirst]
    rfl
  have hwhole : whole = (Run.drain model config (Command.ofScript config.keys (first.append second))
      {} .standalone page time).after
        [⟨time, .event (.runStarted (first.length + second.length))⟩] := by
    rw [← hfirst, ← hsecond, ← List.length_append, ← hqueue]
    rfl
  have hbound : ∀ told ∈ Trace.told work, ∀ index ∈ told.index?, index < first.length :=
    fun told hmem index hindex => (hwork told hmem index hindex).2
  rcases hends with ⟨hindex, hrun, hboth⟩ | ⟨url, remaining, hrun, hboth⟩
  · rw [hrun] at halone
    rw [hboth] at hwhole
    have hlater := Run.index_le_of_drain model config (Command.ofScript config.keys second)
      progress page' time'
    have houtcomes := Run.drain_outcomes model config (Command.ofScript config.keys second)
      progress page' time'
    rw [hindex] at hlater
    rw [hsecond] at houtcomes
    have hcalls : alone.trace.calls = Trace.calls work := by
      simp [halone, Run.finish]
      rfl
    have hmore : whole.trace.calls = Trace.calls work ++ (Run.drain model config
        (Command.ofScript config.keys second) progress .standalone page' time').trace.calls := by
      simp [hwhole]
    refine ⟨_, work, congrArg Run.report halone, hcalls ▸ hmore ▸ List.prefix_append _ _, hbound,
      .inl ⟨rfl, hindex, ?_, ?_⟩⟩
    · rw [halone, ← hindex]
      rfl
    · rw [halone]
      exact ⟨hwhole, hlater, hwhole ▸ houtcomes⟩
  · rw [hrun] at halone
    rw [hboth, hsecond] at hwhole
    have hcalls : whole.trace.calls = alone.trace.calls := by
      simp [halone, hwhole, Run.departed, Run.finish]
    refine ⟨_, work, congrArg Run.report halone, hcalls ▸ List.prefix_rfl, hbound,
      .inr ⟨url, rfl, ?_, ?_, hcalls, ?_, ?_, ?_⟩⟩
    all_goals simp only [halone, hwhole]; rfl

end BrowserReplay
