import BrowserReplay.Panel.Line
import BrowserReplay.Run

/-!
# The control panel

The panel reads lines from the user. While a run is in progress it goes on reading, and each line
acts on the signal of that run; between runs it starts one or says why not. An exit command, the end
of the input or an interrupt cancels the run in progress, and the session ends with it. When a line
is there and the run can go on at the same moment, either may come first.
-/

namespace BrowserReplay

/-- Something that reaches a session from outside. -/
inductive Input where
  | line (bytes : List Nat)
  | interrupt
  | close
  deriving DecidableEq, Repr, Inhabited

structure TimedInput where
  time : Nat
  input : Input
  deriving DecidableEq, Repr, Inhabited

structure Panel where
  banner : List String := []
  prompt : String := "replay> "
  exits : List String := ["exit", "quit"]
  defaultScript : Option String := none
  heedsInterrupts : Bool := false
  farewell : Option String := none
  /-- Run by run, which of the inputs are served before what the run is ready to do at the same
  moment. Those that are served before the run has begun miss their aim: the signal is reset when it
  begins. -/
  order : List (List Bool) := []
  deriving DecidableEq, Repr, Inhabited

namespace Panel

inductive Meaning where
  | nothing
  | leave
  | interrupt
  | command (command : PanelCommand)
  | unreadable (error : Text.Utf8Error)
  deriving DecidableEq, Repr

def Meaning.ofLine : PanelLine → Meaning
  | .nothing => .nothing
  | .leave => .leave
  | .command wanted => .command wanted

def meaning (panel : Panel) : Input → Meaning
  | .line bytes =>
    match Text.ofUtf8 bytes with
    | .ok line => .ofLine (.read panel.exits line)
    | .error error => .unreadable error
  | .interrupt => .interrupt
  | .close => .leave

def heeds (panel : Panel) (timed : TimedInput) : Bool :=
  timed.input ≠ .interrupt || panel.heedsInterrupts

/-! ### While a run is in progress -/

/-- What the panel knows during a run. -/
structure Watch where
  signal : Signal := .proceed
  /-- Whether the session ends with the run. -/
  leaving : Bool := false
  /-- Whether lines are still read. -/
  listening : Bool := true
  deriving DecidableEq, Repr, Inhabited

/-- What the panel does about an input during a run. -/
structure Response where
  watch : Watch
  actions : List SignalAction := []
  notices : List Notice := []
  failure : Option Text.Utf8Error := none
  deriving DecidableEq, Repr

def Watch.act (watch : Watch) (action : SignalAction) (notices : List Notice) : Response :=
  { watch := { watch with signal := watch.signal.after action }, actions := [action], notices }

def Watch.actIfUseful (watch : Watch) (action : SignalAction) (notice : Notice) : Response :=
  if watch.signal.answer action = some true then watch.act action [notice] else { watch }

def unknownCommand (line : String) : Notice := .complaint ("Unknown command: " ++ line)

def farewells (panel : Panel) : List Notice := panel.farewell.toList.map .message

def Watch.obey (watch : Watch) : PanelCommand → Response
  | .pause => watch.actIfUseful .pause (.message "Pausing after the current command.")
  | .resume => watch.actIfUseful .resume (.message "Resuming.")
  | .stop => watch.act .cancel [.message "Stopping after the current command."]
  | .play _ => { watch, notices := [.complaint "A run is already in progress."] }
  | .unknown line => { watch, notices := [unknownCommand line] }

def respond (panel : Panel) (watch : Watch) : Meaning → Response
  | .interrupt =>
    if watch.leaving then { watch }
    else { watch with leaving := true : Watch }.act .cancel panel.farewells
  | .nothing => { watch }
  | .leave =>
    if watch.listening then
      { watch with leaving := true, listening := false : Watch }.act .cancel []
    else { watch }
  | .command command => if watch.listening then watch.obey command else { watch }
  | .unreadable error =>
    if watch.listening then { watch, failure := some error } else { watch }

/-- An input that is served during a run. -/
structure Reaction where
  time : Nat
  input : Input
  /-- Whether it is served before what the run is ready to do at the same time. -/
  ahead : Bool
  response : Response
  deriving DecidableEq, Repr

/-- Responds to inputs in order, none of them before `now`, up to the first failure. -/
def respondAll (panel : Panel) (watch : Watch) (now : Nat) (order : List Bool) :
    List TimedInput → List Reaction
  | [] => []
  | timed :: rest =>
    let time := max now timed.time
    let response := panel.respond watch (panel.meaning timed.input)
    ⟨time, timed.input, order.headD false, response⟩ ::
      if response.failure.isSome then []
      else respondAll panel response.watch time order.tail rest

/-- The turns that reactions make for a run. One that comes at the same time as the one before, and
ahead of the run, gives the run no chance in between: they act together. -/
def turns : List Reaction → List Turn
  | [] => []
  | reaction :: rest =>
    let turn : Turn := ⟨reaction.time, reaction.ahead, reaction.response.actions⟩
    match turns rest with
    | [] => [turn]
    | next :: later =>
      if next.ahead && next.time == turn.time then
        { turn with actions := turn.actions ++ next.actions } :: { next with actions := [] } :: later
      else turn :: next :: later

def notices (reactions : List Reaction) : Trace :=
  reactions.flatMap fun reaction =>
    reaction.response.notices.map fun notice => ⟨reaction.time, .notice notice⟩

def lastWatch (watch : Watch) (reactions : List Reaction) : Watch :=
  (reactions.getLast?.map (·.response.watch)).getD watch

def failure? (reactions : List Reaction) : Option (Nat × Text.Utf8Error) :=
  reactions.getLast?.bind fun reaction => reaction.response.failure.map (reaction.time, ·)

end Panel

end BrowserReplay
