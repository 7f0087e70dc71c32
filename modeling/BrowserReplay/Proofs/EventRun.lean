import BrowserReplay.Proofs.Drain
import BrowserReplay.Proofs.Performed

/-!
# The events of a run

A command tells what the grammar lets it tell, so the events of a run form a word (`drain_word`),
and the counters of the report agree with them (`drain_accounts`).
-/

namespace BrowserReplay

open EventWord

/-! ### The loop -/

theorem Look.pause {index now later : Nat} {looked : Trace}
    (h : Look index now .proceed later looked) : Pause index looked.told := by
  cases h with
  | clear => exact .none
  | resumed later h => exact .resumed

namespace Run

theorem departure?_eq_some {config : Config} {outcome : Outcome} {url : String}
    (h : departure? config outcome = some url) :
    outcome = .navigated url ∧ config.navigation.continueAfterOpen = false := by
  cases outcome with
  | navigated destination =>
    rw [departure?] at h
    split at h
    · cases h
    next hleaves => exact ⟨congrArg _ (Option.some.inj h), Bool.eq_false_iff.2 hleaves⟩
  | completed => cases h
  | noOp => cases h
  | abandoned reason => cases h

def ending (index : Nat) (command : Command) : Outcome → List RunEvent
  | .completed | .navigated _ => [.commandCompleted index command.name]
  | .noOp => []
  | .abandoned reason => [.commandAbandoned index command.name reason]

theorem told_conclusion (index : Nat) (command : Command) (outcome : Outcome) (time : Nat)
    (later : Trace) :
    Trace.told (⟨time, conclusion index command outcome⟩ :: later) =
      ending index command outcome ++ later.told := by
  cases outcome <;> rfl

theorem ending_ending (index : Nat) {command : Command} {outcome : Outcome}
    (h : command.admits outcome = true) : Ending index command (ending index command outcome) := by
  cases outcome with
  | completed => exact .completed h
  | noOp => exact .noOp h
  | abandoned reason => exact .abandoned reason h
  | navigated url =>
    -- Only opening goes to another page, and with the run going on that is a success.
    cases command with
    | openPage url => exact .completed rfl
    | _ => cases h

/-- From any boundary on, the events of a run form a word. -/
theorem drain_word (model : PageModel σ) (config : Config) (queue : List Command)
    (progress : Progress) (steering : Steering) (page : σ) (time : Nat) :
    Word config progress.index queue
      ((drain model config queue progress steering page time).report.map Report.state)
      (drain model config queue progress steering page time).trace.told := by
  refine drain_induction model config
    (motive := fun queue progress _ _ run =>
      Word config progress.index queue (run.report.map Report.state) run.trace.told)
    ?completed ?stuck ?cancelled ?left ?next queue progress steering page time
  case completed => exact fun progress _ _ _ => .completed progress.index
  case stuck =>
    intro command rest progress steering page time later looked hlook
    cases hlook with
    | stuck later h => exact .stuck progress.index command rest
  case cancelled =>
    intro command rest progress steering page time later looked hlook
    cases hlook with
    | cancelled => exact .cancelled progress.index command rest
    | cancelledPaused later h => exact .cancelledPaused progress.index command rest
  case left =>
    intro command rest progress steering page time later looked visit url hlook hvisit hleft
    obtain ⟨houtcome, hleaves⟩ := departure?_eq_some hleft
    obtain ⟨_, ⟨target, value, body, hbody, htold⟩, hadmits⟩ := Performed.of_eq model config hvisit
    rw [houtcome] at hadmits
    have hword := Word.left hlook.pause target value hbody rest url hadmits hleaves
    simpa [finish, htold, advance] using hword
  case next =>
    intro command rest progress page time later looked visit run hlook hvisit _ hrun
    obtain ⟨_, ⟨target, value, body, hbody, htold⟩, hadmits⟩ := Performed.of_eq model config hvisit
    have hword := Word.next hlook.pause target value hbody
      (ending_ending progress.index hadmits) hrun
    simpa [htold, told_conclusion] using hword

/-! ### The counters -/

/-- A command that was performed counts for one. -/
theorem count_eq (tally : Tally) (index : Nat) (command : Command) (outcome : Outcome) :
    (count tally outcome).succeeded =
        tally.succeeded + number .commandCompleted (ending index command outcome) ∧
      (count tally outcome).abandoned =
        tally.abandoned + number .commandAbandoned (ending index command outcome) := by
  cases outcome <;> exact ⟨rfl, rfl⟩

/-- The account goes on over a command that was performed. -/
theorem accounts_next {progress : Progress} {command : Command} {pause body later : List RunEvent}
    {outcome : Outcome} {vars : Variables} {report : Report} (target value : String)
    (hpause : Pause progress.index pause) (hbody : Body progress.index command body)
    (hadmits : command.admits outcome = true)
    (hlater : Accounts ⟨vars, progress.index + 1, count progress.tally outcome⟩ later report) :
    Accounts progress
      (pause ++ .commandStarted progress.index command.name target value ::
        (body ++ (ending progress.index command outcome ++ later))) report := by
  obtain ⟨⟨earlier, hlast⟩, hfinished, hdispatched, hsucceeded, habandoned, hnavigated,
    hdropped⟩ := hlater
  obtain ⟨hcompleted, hgaveUp⟩ := count_eq progress.tally progress.index command outcome
  have hending := ending_ending progress.index hadmits
  have hnumber (kind : EventKind) (hkind : kind.isAside = false) :=
    number_performed hpause hbody target value (ending progress.index command outcome) later hkind
  have hquiet (kind : EventKind) (hkind : kind.isEnding = false) :
      number kind (ending progress.index command outcome) = 0 := by
    refine number_eq_zero fun event hevent heq => ?_
    have hboth := hending.isEnding hevent
    rw [heq, hkind] at hboth
    cases hboth
  constructor
  case last =>
    exact ⟨pause ++ .commandStarted progress.index command.name target value ::
      (body ++ (ending progress.index command outcome ++ earlier)), by simp [hlast]⟩
  case finished =>
    rw [hnumber .runFinished rfl, hquiet .runFinished rfl, hfinished]
    rfl
  case dispatched =>
    rw [hnumber .commandStarted rfl, hquiet .commandStarted rfl, hdispatched, Nat.zero_add,
      Nat.add_assoc]
    rfl
  case succeeded =>
    rw [hnumber .commandCompleted rfl, hnumber .navigating rfl, hquiet .navigating rfl, hsucceeded,
      hcompleted]
    simp only [number_cons, number_nil, RunEvent.kind, reduceCtorEq, if_false]
    omega
  case abandoned =>
    rw [hnumber .commandAbandoned rfl, habandoned, hgaveUp]
    simp only [number_cons, number_nil, RunEvent.kind, reduceCtorEq, if_false]
    omega
  case navigated =>
    rw [hnumber .navigating rfl, hquiet .navigating rfl, Nat.zero_add]
    exact Nat.le_trans (Nat.le_of_eq (Nat.zero_add _)) hnavigated
  case dropped =>
    intro url count hmem
    exact hdropped url count
      (mem_later hpause hbody target value _ (fun _ => hending.isEnding) hmem ⟨rfl, rfl, nofun⟩)

/-- The account of a run that ends because its last command left the page. -/
theorem accounts_left {progress : Progress} {command : Command} {pause body : List RunEvent}
    (vars : Variables) (target value url : String) (remaining : Nat)
    (hpause : Pause progress.index pause) (hbody : Body progress.index command body) :
    Accounts progress
      (pause ++ .commandStarted progress.index command.name target value ::
        (body ++ [.navigating url remaining, .runFinished (.navigating url) (progress.index + 1)]))
      ⟨.navigating url, progress.index + 1, count progress.tally (.navigated url), remaining,
        vars⟩ := by
  have hnumber (kind : EventKind) (hkind : kind.isAside = false) :=
    number_performed hpause hbody target value []
      [.navigating url remaining, .runFinished (.navigating url) (progress.index + 1)] hkind
  simp only [List.nil_append, number_nil, Nat.zero_add] at hnumber
  constructor
  case last =>
    exact ⟨pause ++ .commandStarted progress.index command.name target value ::
      (body ++ [.navigating url remaining]), by simp⟩
  case finished => exact hnumber .runFinished rfl
  case dispatched =>
    rw [hnumber .commandStarted rfl]
    rfl
  case succeeded =>
    rw [hnumber .commandCompleted rfl, hnumber .navigating rfl]
    rfl
  case abandoned =>
    rw [hnumber .commandAbandoned rfl]
    rfl
  case navigated => exact Nat.le_of_eq (hnumber .navigating rfl)
  case dropped =>
    intro url' count hmem
    have hlater := mem_later hpause hbody target value [] nofun hmem ⟨rfl, rfl, nofun⟩
    simp only [List.mem_cons, RunEvent.navigating.injEq, reduceCtorEq, List.not_mem_nil,
      or_false] at hlater
    exact hlater.2

/-- From any boundary on, the report agrees with the events. -/
theorem drain_accounts (model : PageModel σ) (config : Config) (queue : List Command)
    (progress : Progress) (steering : Steering) (page : σ) (time : Nat) :
    ∀ report ∈ (drain model config queue progress steering page time).report,
      Accounts progress (drain model config queue progress steering page time).trace.told
        report := by
  refine drain_induction model config
    (motive := fun _ progress _ _ run =>
      ∀ report ∈ run.report, Accounts progress run.trace.told report)
    ?completed ?stuck ?cancelled ?left ?next queue progress steering page time
  case completed =>
    rintro progress steering page time _ ⟨⟩
    exact ⟨⟨[], rfl⟩, rfl, rfl, rfl, rfl, Nat.zero_le 1, by simp [finish]⟩
  case stuck => exact fun _ _ _ _ _ _ _ _ _ => nofun
  case cancelled =>
    rintro command rest progress steering page time later looked hlook _ ⟨⟩
    cases hlook with
    | cancelled => exact ⟨⟨[], rfl⟩, rfl, rfl, rfl, rfl, Nat.zero_le 1, by simp [finish]⟩
    | cancelledPaused later h =>
      exact ⟨⟨[.paused progress.index], rfl⟩, rfl, rfl, rfl, rfl, Nat.zero_le 1, by simp [finish]⟩
  case left =>
    rintro command rest progress steering page time later looked visit url hlook hvisit hleft _ ⟨⟩
    obtain ⟨houtcome, _⟩ := departure?_eq_some hleft
    obtain ⟨_, ⟨target, value, body, hbody, htold⟩, _⟩ := Performed.of_eq model config hvisit
    have haccounts := accounts_left visit.result.2 target value url rest.length
      hlook.pause hbody
    simpa [finish, htold, advance, houtcome] using haccounts
  case next =>
    intro command rest progress page time later looked visit run hlook hvisit _ hrun report hreport
    obtain ⟨_, ⟨target, value, body, hbody, htold⟩, hadmits⟩ := Performed.of_eq model config hvisit
    have haccounts := accounts_next target value hlook.pause hbody hadmits (hrun report hreport)
    simpa [htold, told_conclusion] using haccounts

end Run

/-! ### The events of a whole run -/

/-- The events of a run are the announcement of the run and a word of the grammar, and the report
can be counted off them. A run that stays paused for ever leaves a word that is not ended and no
report. -/
theorem run_events_form_word (model : PageModel σ) (config : Config) (script : Script)
    (steering : Steering) (page : σ) (time : Nat) :
    let done := run model config script steering page time
    ∃ word, done.trace.told = .runStarted script.length :: word ∧
      Word config 0 (Command.ofScript config.keys script) (done.report.map Report.state) word ∧
      ∀ report ∈ done.report, Accounts {} word report := by
  intro done
  refine ⟨_, ?_, Run.drain_word model config _ {} steering page time,
    Run.drain_accounts model config _ {} steering page time⟩
  have hlength : (Command.ofScript config.keys script).length = script.length :=
    List.length_map _
  rw [← hlength]
  rfl

end BrowserReplay
