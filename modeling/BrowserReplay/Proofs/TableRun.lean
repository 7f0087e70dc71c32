import BrowserReplay.Proofs.EventRun
import BrowserReplay.Proofs.Table

/-!
# Runs follow the table

Each command makes the calls that its row of the table allows, so the calls of a run are those of
its dispatched commands, one after the other (`Run.drain_chronicle`). What the table says about
effects and handles then holds of runs.
-/

namespace BrowserReplay

open Table

/-- What a run does from a boundary on is what the deeds say: they are those of the first commands
of the queue, they follow the table from the variables known at the boundary to those reported, and
the calls of the run are theirs. -/
structure Chronicle (config : Config) (vars : Variables) (queue : List Command) (run : Run σ)
    (deeds : List Deed) : Prop where
  commands : deeds.map Deed.command = queue.take deeds.length
  started : EventWord.number .commandStarted run.trace.told = deeds.length
  follows : ∃ last, Follows config vars deeds last ∧ ∀ report ∈ run.report, report.vars = last
  records : run.trace.records = deeds.flatMap Deed.records

theorem Chronicle.stopped {config : Config} {vars : Variables} {queue : List Command}
    {run : Run σ} (hrecords : run.trace.records = [])
    (hstarted : EventWord.number .commandStarted run.trace.told = 0)
    (hreport : ∀ report ∈ run.report, report.vars = vars) :
    Chronicle config vars queue run [] :=
  ⟨rfl, hstarted, ⟨vars, .nil vars, hreport⟩, hrecords⟩

theorem Look.number_started {index now later : Nat} {clearance : Clearance} {looked : Trace}
    (h : Look index now clearance later looked) :
    EventWord.number .commandStarted looked.told = 0 := by
  cases h <;> rfl

/-- The calls and the announcements of a command that was performed, and what its row is. -/
theorem perform_chronicle (model : PageModel σ) (config : Config) (progress : Progress)
    (command : Command) (page : σ) (time : Nat) {visit : Visited σ (Outcome × Variables)}
    (hvisit : visit = perform model config progress.vars progress.index command page time) :
    Row config progress.vars command visit.trace.records visit.result.2 ∧
      EventWord.number .commandStarted visit.trace.told = 1 := by
  obtain ⟨hrow, ⟨target, value, body, hbody, htold⟩, _⟩ := Performed.of_eq model config hvisit
  refine ⟨hrow, ?_⟩
  rw [htold, EventWord.number_cons,
    EventWord.number_eq_zero_of_isAside (fun _ => hbody.isAside) rfl]
  rfl

theorem Run.number_started_ending (index : Nat) (command : Command) (outcome : Outcome) :
    EventWord.number .commandStarted (ending index command outcome) = 0 := by
  cases outcome <;> rfl

theorem Run.records_conclusion (index : Nat) (command : Command) (outcome : Outcome) (time : Nat)
    (later : Trace) :
    Trace.records (⟨time, conclusion index command outcome⟩ :: later) = later.records := by
  cases outcome <;> rfl

theorem Run.drain_chronicle (model : PageModel σ) (config : Config) (queue : List Command)
    (progress : Progress) (steering : Steering) (page : σ) (time : Nat) :
    ∃ deeds, Chronicle config progress.vars queue
      (drain model config queue progress steering page time) deeds := by
  refine drain_induction model config
    (motive := fun queue progress _ _ run =>
      ∃ deeds, Chronicle config progress.vars queue run deeds)
    ?completed ?stuck ?cancelled ?left ?next queue progress steering page time
  case completed =>
    intro progress steering page time
    exact ⟨[], .stopped rfl rfl (by rintro _ ⟨⟩; rfl)⟩
  case stuck =>
    intro command rest progress steering page time later looked hlook
    exact ⟨[], .stopped hlook.records_eq_nil hlook.number_started nofun⟩
  case cancelled =>
    intro command rest progress steering page time later looked hlook
    refine ⟨[], .stopped ?_ ?_ (by rintro _ ⟨⟩; rfl)⟩
    · rw [trace_after, Trace.records_append, hlook.records_eq_nil]
      rfl
    · rw [trace_after, Trace.told_append, EventWord.number_append, hlook.number_started]
      rfl
  case left =>
    intro command rest progress steering page time later looked visit url hlook hvisit _
    obtain ⟨hrow, hstarted⟩ := perform_chronicle model config progress command page later hvisit
    refine ⟨[⟨command, progress.vars, visit.trace.records⟩], rfl, ?_,
      ⟨visit.result.2, .cons hrow (.nil _), by rintro _ ⟨⟩; rfl⟩, ?_⟩
    · simp [hlook.number_started, hstarted, finish, RunEvent.kind]
    · simp [hlook.records_eq_nil, finish]
  case next =>
    intro command rest progress page time later looked visit run hlook hvisit _ hrun
    obtain ⟨hrow, hstarted⟩ := perform_chronicle model config progress command page later hvisit
    obtain ⟨deeds, hcommands, hnumber, ⟨last, hfollows, hlast⟩, hrecords⟩ := hrun
    refine ⟨⟨command, progress.vars, visit.trace.records⟩ :: deeds, ?_, ?_,
      ⟨last, .cons hrow hfollows, hlast⟩, ?_⟩
    · simp [hcommands]
    · have hending := number_started_ending progress.index command visit.result.1
      simp [told_conclusion, hlook.number_started, hstarted, hending, hnumber, Nat.add_comm]
    · simp [records_conclusion, hlook.records_eq_nil, hrecords]

/-- What a run does to its page is what the table of commands says. There is one deed for each
command that was dispatched, in the order of the script; each follows its row of the table with the
variables that the earlier ones have left; and the changes that the run makes are, one deed after
the other, those that are due. Every element is acted on under the handle that the latest query has
returned, and that query belongs to the same command. -/
theorem run_effects_follow_table (model : PageModel σ) (config : Config) (script : Script)
    (steering : Steering) (page : σ) (time : Nat) :
    let done := run model config script steering page time
    ∃ deeds last,
      deeds.map Deed.command =
        (Command.ofScript config.keys script).take
          (EventWord.number .commandStarted done.trace.told) ∧
      Follows config .empty deeds last ∧
      (∀ report ∈ done.report, report.dispatched = deeds.length ∧ report.vars = last) ∧
      done.trace.records = deeds.flatMap Deed.records ∧
      effects done.trace.records = deeds.flatMap (due config) ∧
      HoldsLatest none done.trace.records ∧
      ∀ deed ∈ deeds, HoldsLatest none deed.records := by
  intro done
  obtain ⟨deeds, hcommands, hstarted, ⟨last, hfollows, hlast⟩, hrecords⟩ :=
    Run.drain_chronicle model config (Command.ofScript config.keys script) {} steering page time
  have htold : EventWord.number .commandStarted done.trace.told = deeds.length := hstarted
  have hdone : done.trace.records = deeds.flatMap Deed.records := hrecords
  refine ⟨deeds, last, ?_, hfollows, fun report hreport => ⟨?_, hlast report hreport⟩, hdone, ?_,
    ?_, hfollows.holdsLatest_of_mem⟩
  · rw [htold]
    exact hcommands
  · have haccounts := Run.drain_accounts model config (Command.ofScript config.keys script) {}
      steering page time report hreport
    rw [haccounts.dispatched, hstarted]
    exact Nat.zero_add _
  · rw [hdone]
    exact hfollows.effects_eq
  · rw [hdone]
    exact hfollows.holdsLatest

end BrowserReplay
