import BrowserReplay.Run

/-!
# The controller

A controller owns one signal and lets one run at a time use it. It serves requests in the order of
their moments: actions on the signal, questions about it, and starts. A start sets the running flag;
if it was set before, the start is refused. Otherwise the flag stays set until the run ends, the
signal is reset and the start callback is called. Whoever asks for a start may wait for the run to
end, which puts off all later requests, or go on at once.

Requests can be made at one time with or without giving the run in flight a chance in between, so a
moment is a time and a round within it. A run sees all that is done in a round at once.
-/

namespace BrowserReplay

/-- A time, and a round of what is done then. Round 0 comes before what a run is ready to do at that
time; after it, and after every later round, the run goes on as far as it can. -/
structure Moment where
  time : Nat
  round : Nat := 1
  deriving DecidableEq, Repr, Inhabited

namespace Moment

def isBefore (a b : Moment) : Bool := a.time < b.time || (a.time == b.time && a.round < b.round)

def later (a b : Moment) : Moment := if a.isBefore b then b else a

end Moment

inductive Demand where
  | act (action : SignalAction)
  | isRunning
  | signal
  /-- Runs a script on one of the pages, and waits for its end or not. -/
  | start (page : Nat) (script : Script) (awaited : Bool)
  deriving DecidableEq, Repr, Inhabited

structure Request where
  moment : Moment
  demand : Demand
  deriving DecidableEq, Repr, Inhabited

structure Controller (σ : Type) where
  config : Config
  pages : List σ
  signal : Signal := .proceed
  running : Bool := false
  /-- The first moment at which the guard of the run in flight has cleared the running flag; never if
  the run stays paused. -/
  release : Option Moment := none
  started : List Script := []

inductive ControllerAnswer (σ : Type) where
  | nothing
  | flag (value : Bool)
  | signal (signal : Signal)
  /-- A run from `start` on; `freed` is the first moment after it. -/
  | ran (page : Nat) (script : Script) (start : Nat) (run : Run σ) (freed : Option Moment)
  | refused (time : Nat)
  | noPage

structure Served (σ : Type) where
  moment : Moment
  demand : Demand
  answer : ControllerAnswer σ

structure Handled (σ : Type) where
  controller : Controller σ
  /-- From when on the next demand can be made; never if the one before awaits a run that stays
  paused. -/
  next : Option Moment
  answer : ControllerAnswer σ

structure Service (σ : Type) where
  controller : Controller σ
  /-- The end of the last request. -/
  moment : Option Moment
  log : List (Served σ)

/-- The end of a run, unless it stays paused for ever. -/
def Run.ended? (run : Run σ) : Option Nat := run.report.map fun _ => run.time

structure Round where
  moment : Moment
  actions : List SignalAction
  deriving DecidableEq, Repr, Inhabited

namespace Round

/-- Does an action before what is done in other rounds, or in the first of them if it is of the same
moment. -/
def join (moment : Moment) (action : SignalAction) : List Round → List Round
  | [] => [⟨moment, [action]⟩]
  | first :: rest =>
    if first.moment = moment then ⟨moment, action :: first.actions⟩ :: rest
    else ⟨moment, [action]⟩ :: first :: rest

/-- What a round means for a run. At the time of its start the run has gone first. -/
def turn (start : Nat) (round : Round) : Turn where
  time := round.moment.time
  ahead := round.moment.round = 0 && start < round.moment.time
  actions := round.actions

end Round

/-- The first moment after a run that began at a moment and met rounds of actions. A run that goes on
until it ends leaves the rounds to come for later; one that a round wakes up ends after that. -/
def Run.over? (began : Moment) (rounds : List Round) (run : Run σ) : Option Moment :=
  run.ended?.map fun time =>
    if time = began.time then began
    else
      let met := rounds.take (rounds.length - run.steering.upcoming.length)
      let waking := (met.getLast?.filter (·.moment.time = time)).map (·.moment.round)
      ⟨time, waking.getD 0 + 1⟩

namespace Controller

def refusal : String := "A run is already in progress"

def isRunning (controller : Controller σ) (now : Moment) : Bool :=
  controller.running && controller.release.all (now.isBefore ·)

/-- Sets the running flag, and says whether it was set before. If it was not, no guard will clear it
yet. -/
def claim (controller : Controller σ) (now : Moment) : Bool × Controller σ :=
  let before := controller.isRunning now
  (before,
    { controller with running := true, release := if before then controller.release else none })

/-- What later requests do to the signal, none of them before `now`. -/
def rounds (now : Moment) : List Request → List Round
  | [] => []
  | request :: rest =>
    let moment := now.later request.moment
    match request.demand with
    | .act action => Round.join moment action (rounds moment rest)
    | _ => rounds moment rest

def turns (now : Moment) (later : List Request) : List Turn :=
  (rounds now later).map (Round.turn now.time)

def handle (model : PageModel σ) (controller : Controller σ) (now : Moment) (later : List Request) :
    Demand → Handled σ
  | .act action =>
    ⟨{ controller with signal := controller.signal.after action }, some now,
      match controller.signal.answer action with
      | some did => .flag did
      | none => .nothing⟩
  | .isRunning => ⟨controller, some now, .flag (controller.isRunning now)⟩
  | .signal => ⟨controller, some now, .signal controller.signal⟩
  | .start page script awaited =>
    let (before, claimed) := controller.claim now
    if before then ⟨claimed, some now, .refused now.time⟩
    else
      match controller.pages[page]? with
      | none => ⟨controller, some now, .noPage⟩
      | some state =>
        let later := if awaited then [] else later
        let steering : Steering := { upcoming := turns now later, attended := true }
        let done := run model controller.config script steering state now.time
        let freed := done.over? now (rounds now later)
        ⟨{ claimed with
            signal := .proceed, release := freed, started := controller.started ++ [script],
            pages := controller.pages.set page done.page },
          if awaited then freed else some now, .ran page script now.time done freed⟩

def serve (model : PageModel σ) (controller : Controller σ) (now : Moment) :
    List Request → Service σ
  | [] => ⟨controller, some now, []⟩
  | request :: rest =>
    let moment := now.later request.moment
    let handled := handle model controller moment rest request.demand
    let entry : Served σ := ⟨moment, request.demand, handled.answer⟩
    match handled.next with
    | none => ⟨handled.controller, none, [entry]⟩
    | some next =>
      let service := serve model handled.controller next rest
      { service with log := entry :: service.log }

end Controller

namespace Service

def answers (service : Service σ) : List (ControllerAnswer σ) := service.log.map Served.answer

/-- The time at which the requests are served and no run is in progress any more; never if a run
stays paused. -/
def finished (service : Service σ) : Option Nat := do
  let moment ← service.moment
  if service.controller.running then service.controller.release.map (max moment.time ·.time)
  else some moment.time

end Service

namespace Controller

/-- Serves groups of requests one after the other. The times in a group count from its beginning, and
a group begins when all that the one before has asked for is over. -/
def serveGroups (model : PageModel σ) (controller : Controller σ) (now : Nat) :
    List (List Request) → Option (List (List (ControllerAnswer σ)))
  | [] => some []
  | group :: groups => do
    let shifted := group.map fun request =>
      { request with moment := { request.moment with time := now + request.moment.time } }
    let service := serve model controller ⟨now, 0⟩ shifted
    let finished ← service.finished
    let later ← serveGroups model service.controller finished groups
    pure (service.answers :: later)

end Controller

end BrowserReplay
