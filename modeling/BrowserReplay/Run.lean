import BrowserReplay.Perform
import BrowserReplay.Report
import BrowserReplay.Timeline

/-!
# Runs

A run works through the commands of a script, one at a time: it looks at its signal, performs the
command and rests. Failed commands are abandoned and the run goes on; it ends early only when it is
cancelled or leaves the page.
-/

namespace BrowserReplay

/-- What a run leaves. There is no report if it stays paused for ever. -/
structure Run (σ : Type) where
  page : σ
  time : Nat
  trace : Trace
  report : Option Report
  steering : Steering

/-- What a run knows between two commands. -/
structure Progress where
  vars : Variables := .empty
  index : Nat := 0
  tally : Tally := {}
  deriving DecidableEq, Repr, Inhabited

namespace Run

def after (earlier : Trace) (run : Run σ) : Run σ := { run with trace := earlier ++ run.trace }

def finish (state : RunState) (progress : Progress) (remaining : Nat) (steering : Steering)
    (page : σ) (time : Nat) : Run σ :=
  { page, time, steering,
    trace := [⟨time, .event (.runFinished state progress.index)⟩],
    report := some ⟨state, progress.index, progress.tally, remaining, progress.vars⟩ }

/-- What comes of looking at the signal before a command: the decision, its time, the steering from
then on, and what is told. -/
def checkpoint (steering : Steering) (index now : Nat) :
    Clearance × Nat × Steering × Trace :=
  let steering := steering.catchUp now
  match steering.signal with
  | .proceed => (.proceed, now, steering, [])
  | .cancel => (.cancel, now, steering, [])
  | .pause =>
    let ended := Outlook.awaitEnd steering.attended now .pause steering.upcoming
    let paused : Entry := ⟨now, .event (.paused index)⟩
    (ended.clearance, ended.time,
      { steering with signal := ended.signal, upcoming := ended.upcoming },
      match ended.clearance with
      | .proceed => [paused, ⟨ended.time, .event (.resumed index)⟩]
      | .cancel | .never => [paused])

def count (tally : Tally) : Outcome → Tally
  | .completed | .navigated _ => { tally with succeeded := tally.succeeded + 1 }
  | .noOp => { tally with skipped := tally.skipped + 1 }
  | .abandoned _ => { tally with abandoned := tally.abandoned + 1 }

/-- What is told about a command that has been performed and does not end the run. -/
def conclusion (index : Nat) (command : Command) : Outcome → Occurrence
  | .completed | .navigated _ => .event (.commandCompleted index command.name)
  | .noOp =>
    .remark ⟨.debug, RunEvent.position index ++ " " ++ command.name ++ " had nothing to do"⟩
  | .abandoned reason => .event (.commandAbandoned index command.name reason)

/-- The place a command has left for, if that ends the run. -/
def departure? (config : Config) : Outcome → Option String
  | .navigated url => if config.navigation.continueAfterOpen then none else some url
  | _ => none

def drain (model : PageModel σ) (config : Config) :
    List Command → Progress → Steering → (page : σ) → (time : Nat) → Run σ
  | [], progress, steering, page, time => finish .completed progress 0 steering page time
  | command :: rest, progress, steering, page, time =>
    let (clearance, time, steering, looked) := checkpoint steering progress.index time
    match clearance with
    | .never => ⟨page, time, looked, none, steering⟩
    | .cancel =>
      (finish .cancelled progress (rest.length + 1) steering page time).after looked
    | .proceed =>
      let visit := perform model config progress.vars progress.index command page time
      let (outcome, vars) := visit.result
      let next : Progress := ⟨vars, progress.index + 1, count progress.tally outcome⟩
      match departure? config outcome with
      | some url =>
        (finish (.navigating url) next rest.length steering visit.page visit.time).after
          (looked ++ visit.trace ++ [⟨visit.time, .event (.navigating url rest.length)⟩])
      | none =>
        (drain model config rest next steering visit.page
            (visit.time + config.timing.commandDelay)).after
          (looked ++ visit.trace ++
            [⟨visit.time, conclusion progress.index command outcome⟩])

end Run

def run (model : PageModel σ) (config : Config) (script : Script) (steering : Steering) (page : σ)
    (time : Nat) : Run σ :=
  let queue := Command.ofScript config.keys script
  (Run.drain model config queue {} steering page time).after
    [⟨time, .event (.runStarted queue.length)⟩]

end BrowserReplay
