/-!
# Run signals

A run looks at one shared signal before each command. Controls set it and receivers read it. Pausing
and resuming only move between `proceed` and `pause`; a cancelled signal stays so until it is reset.

Each time the signal is set it gets a new version, also when it is set to what it was. A receiver
that waits for the end of a pause remembers the version that it has seen, and looks at the signal
again when there is another one.
-/

namespace BrowserReplay

inductive Signal where
  | proceed
  | pause
  | cancel
  deriving DecidableEq, Repr, Inhabited

inductive SignalAction where
  | pause
  | resume
  | cancel
  | reset
  deriving DecidableEq, Repr, Inhabited

namespace Signal

def name : Signal → String
  | .proceed => "proceed"
  | .pause => "pause"
  | .cancel => "cancel"

def after : Signal → SignalAction → Signal
  | .proceed, .pause => .pause
  | .pause, .resume => .proceed
  | _, .cancel => .cancel
  | _, .reset => .proceed
  | signal, _ => signal

/-- What an action reports: a pause or resume says whether it changed the signal. -/
def answer (signal : Signal) : SignalAction → Option Bool
  | .pause => some (signal = .proceed)
  | .resume => some (signal = .pause)
  | .cancel | .reset => none

def answers (signal : Signal) : List SignalAction → List (Option Bool)
  | [] => []
  | action :: actions => signal.answer action :: (signal.after action).answers actions

/-- What one look at the signal by a waiting receiver gives: the signal that ends the wait, or
nothing while the run is to stay paused. A pause that no control is left to end counts as a
cancel. -/
def poll (attended : Bool) : Signal → Option Signal
  | .pause => if attended then none else some .cancel
  | signal => some signal

@[simp] theorem after_cancel (signal : Signal) : signal.after .cancel = .cancel := by
  cases signal <;> rfl

@[simp] theorem after_reset (signal : Signal) : signal.after .reset = .proceed := by
  cases signal <;> rfl

end Signal

/-! ### Many controls and receivers on one signal -/

structure SignalReceiver where
  /-- The version of the signal that it has seen last. -/
  seen : Nat := 0
  isSuspended : Bool := false
  deriving DecidableEq, Repr, Inhabited

/-- A signal with the controls and receivers that share it. A control is alive until it is dropped,
and a receiver that is dropped leaves its place empty. -/
structure SignalChannel where
  signal : Signal := .proceed
  /-- How often the signal was set. -/
  version : Nat := 0
  controls : List Bool := [true]
  receivers : List (Option SignalReceiver) := [some {}]
  deriving DecidableEq, Repr, Inhabited

inductive ChannelAction where
  | act (control : Nat) (action : SignalAction)
  | signal (control : Nat)
  | subscribe (control : Nat)
  | clone (control : Nat)
  | drop (control : Nat)
  | current (receiver : Nat)
  /-- Polls the wait of a receiver once, which begins with it unless it is suspended. -/
  | poll (receiver : Nat)
  | giveUp (receiver : Nat)
  /-- Polls the wait of a receiver once and then gives it up. -/
  | wait (receiver : Nat)
  | dropReceiver (receiver : Nat)
  deriving DecidableEq, Repr, Inhabited

inductive ChannelAnswer where
  | nothing
  | changed (did : Bool)
  | signal (signal : Signal)
  | index (index : Nat)
  | pending
  | dropped
  deriving DecidableEq, Repr, Inhabited

def ChannelAnswer.ofPoll : Option Signal → ChannelAnswer
  | some ended => .signal ended
  | none => .pending

namespace SignalChannel

def unheard : SignalChannel := { receivers := [] }

/-! #### Setting the signal -/

def isAlive (channel : SignalChannel) (control : Nat) : Bool :=
  channel.controls.getD control false

def isAttended (channel : SignalChannel) : Bool := channel.controls.any id

def set (channel : SignalChannel) (signal : Signal) : SignalChannel :=
  { channel with signal, version := channel.version + 1 }

/-- Acts on the signal. A pause or resume that does not change the signal does not set it. -/
def act (channel : SignalChannel) (action : SignalAction) : SignalChannel × ChannelAnswer :=
  match channel.signal.answer action with
  | some false => (channel, .changed false)
  | some true => (channel.set (channel.signal.after action), .changed true)
  | none => (channel.set (channel.signal.after action), .nothing)

def withControl (channel : SignalChannel) (control : Nat) (done : SignalChannel × ChannelAnswer) :
    SignalChannel × ChannelAnswer :=
  if channel.isAlive control then done else (channel, .dropped)

/-! #### Waiting -/

/-- A wait that has seen the newest version is suspended. If no control is left, nobody can end the
pause, and that counts as a cancel. -/
def rest (channel : SignalChannel) : SignalReceiver × Option Signal :=
  if channel.isAttended then (⟨channel.version, true⟩, none)
  else (⟨channel.version, false⟩, some .cancel)

def look (channel : SignalChannel) : SignalReceiver × Option Signal :=
  match channel.signal with
  | .pause => channel.rest
  | signal => (⟨channel.version, false⟩, some signal)

/-- One poll of a wait. A suspended wait looks again only if there is a version that it has not
seen. -/
def poll (channel : SignalChannel) (receiver : SignalReceiver) : SignalReceiver × Option Signal :=
  if receiver.isSuspended ∧ receiver.seen = channel.version then channel.rest else channel.look

def receiver? (channel : SignalChannel) (receiver : Nat) : Option SignalReceiver :=
  channel.receivers[receiver]?.join

/-- Does something with a receiver that was not dropped; `deed` says what is left of it. -/
def withReceiver (channel : SignalChannel) (receiver : Nat)
    (deed : SignalReceiver → Option SignalReceiver × ChannelAnswer) :
    SignalChannel × ChannelAnswer :=
  match channel.receiver? receiver with
  | some held =>
    let (left, answer) := deed held
    ({ channel with receivers := channel.receivers.set receiver left }, answer)
  | none => (channel, .dropped)

/-! #### Actions -/

/-- One action on a channel, and its answer. A receiver has seen the version at which it is made. -/
def step (channel : SignalChannel) : ChannelAction → SignalChannel × ChannelAnswer
  | .act control action => channel.withControl control (channel.act action)
  | .signal control => channel.withControl control (channel, .signal channel.signal)
  | .subscribe control =>
    channel.withControl control
      ({ channel with receivers := channel.receivers ++ [some { seen := channel.version }] },
        .index channel.receivers.length)
  | .clone control =>
    channel.withControl control
      ({ channel with controls := channel.controls ++ [true] }, .index channel.controls.length)
  | .drop control =>
    channel.withControl control
      ({ channel with controls := channel.controls.set control false }, .nothing)
  | .current receiver =>
    channel.withReceiver receiver fun held => (some held, .signal channel.signal)
  | .poll receiver =>
    channel.withReceiver receiver fun held =>
      let (held, ended) := channel.poll held
      (some held, .ofPoll ended)
  | .giveUp receiver =>
    channel.withReceiver receiver fun held => (some { held with isSuspended := false }, .nothing)
  | .wait receiver =>
    channel.withReceiver receiver fun held =>
      let (held, ended) := channel.poll held
      (some { held with isSuspended := false }, .ofPoll ended)
  | .dropReceiver receiver => channel.withReceiver receiver fun _ => (none, .nothing)

def answers (channel : SignalChannel) : List ChannelAction → List ChannelAnswer
  | [] => []
  | action :: actions =>
    let (next, answer) := channel.step action
    answer :: next.answers actions

end SignalChannel

end BrowserReplay
