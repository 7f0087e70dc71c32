import BrowserReplay.Signal

/-!
# Signals over time

A run is steered by actions on its signal at known times. Actions that are done together, without
giving the run a chance in between, form one turn. A run sees the turns that came before the moment
at which it looks; of turns at that very moment it sees those that are ahead of it. When no turn is
left the signal may still be attended, by a control that somebody holds, or not.
-/

namespace BrowserReplay

/-- Actions done together at one time. -/
structure Turn where
  time : Nat
  /-- Done before what the run does at the same time. -/
  ahead : Bool := false
  actions : List SignalAction
  deriving DecidableEq, Repr, Inhabited

def Signal.afterAll (signal : Signal) (actions : List SignalAction) : Signal :=
  actions.foldl Signal.after signal

/-- The signal of a run, and what will be done to it. -/
structure Steering where
  signal : Signal := .proceed
  upcoming : List Turn := []
  /-- Whether a control is left when the turns are used up. -/
  attended : Bool := false
  deriving DecidableEq, Repr, Inhabited

/-- What comes of looking at the signal before a command. -/
inductive Clearance where
  | proceed
  | cancel
  /-- The run stays paused for ever. -/
  | never
  deriving DecidableEq, Repr, Inhabited

namespace Turn

def isBefore (turn : Turn) (now : Nat) : Bool :=
  turn.time < now || (turn.ahead && turn.time == now)

end Turn

abbrev Outlook := Signal × List Turn

namespace Outlook

/-- Lets the turns pass that come before what the run does at a time. -/
def catchUp (now : Nat) (signal : Signal) : List Turn → Outlook
  | [] => (signal, [])
  | turn :: rest =>
    if turn.isBefore now then catchUp now (signal.afterAll turn.actions) rest
    else (signal, turn :: rest)

/-- How a pause ends: what was decided, when, and the outlook then. -/
structure PauseEnd where
  clearance : Clearance
  time : Nat
  signal : Signal
  upcoming : List Turn
  deriving DecidableEq, Repr

/-- Waits, from a time on, for the turn that ends a pause. When none does, the run stays paused as
long as somebody holds a control; otherwise that counts as a cancel. -/
def awaitEnd (attended : Bool) (now : Nat) : Signal → List Turn → PauseEnd
  | .proceed, turns => ⟨.proceed, now, .proceed, turns⟩
  | .cancel, turns => ⟨.cancel, now, .cancel, turns⟩
  | .pause, [] => ⟨if attended then .never else .cancel, now, .pause, []⟩
  | .pause, turn :: rest =>
    awaitEnd attended (max now turn.time) (Signal.pause.afterAll turn.actions) rest

end Outlook

namespace Steering

def standalone : Steering := {}

/-- Actions in the order of a timeline, each no earlier than the one before. Those at one time make
one turn. -/
def turnsOf (now : Nat) : List (Nat × SignalAction) → List Turn
  | [] => []
  | (time, action) :: rest =>
    let time := max now time
    match turnsOf time rest with
    | turn :: turns =>
      if turn.time = time then { turn with actions := action :: turn.actions } :: turns
      else { time, actions := [action] } :: turn :: turns
    | [] => [{ time, actions := [action] }]

/-- The steering by the actions of a timeline. Nobody holds a control after the last of them. -/
def ofTimeline (actions : List (Nat × SignalAction)) : Steering :=
  { upcoming := turnsOf 0 actions }

/-- The steering with the turns past that come before what the run does at a time. -/
def catchUp (steering : Steering) (now : Nat) : Steering :=
  let (signal, upcoming) := Outlook.catchUp now steering.signal steering.upcoming
  { steering with signal, upcoming }

end Steering

end BrowserReplay
