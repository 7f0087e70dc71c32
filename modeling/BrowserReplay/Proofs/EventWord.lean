import BrowserReplay.Run

/-!
# The grammar of events

The events of a run form a word. After the announcement of the run comes, for each command in order,
perhaps a pause that was ended, the announcement of the command, what it tells meanwhile, and its
end; and after the commands comes the end of the run. `Word` is that grammar from a command on, and
`Accounts` says how the report of a run can be counted off its events.
-/

namespace BrowserReplay

namespace Command

/-- How many selectors a command can fail to find its element with. -/
def attempts (command : Command) : Nat :=
  match command.element? with
  | some target => target.fallbacks.length + 1
  | none => 0

def stores : Command → Bool
  | .store .. | .verifyElementPresent .. => true
  | _ => false

/-- Whether a command can end in some way: storing never fails, only opening leaves the page, and
only some commands may have nothing to do. -/
def admits : Command → Outcome → Bool
  | .store .., .completed | .verifyElementPresent .., .completed => true
  | .openPage _, .completed | .openPage _, .noOp | .openPage _, .navigated _ => true
  | .click _, .completed | .click _, .abandoned _ => true
  | .type .., .completed | .type .., .abandoned _ => true
  | .finish, .noOp | .unrecognized _, .noOp => true
  | .keyPress _, .completed | .keyPress _, .abandoned _ | .keyPress _, .noOp => true
  | _, _ => false

end Command

inductive EventKind where
  | runStarted
  | commandStarted
  | selectorFailed
  | commandCompleted
  | commandAbandoned
  | variableStored
  | paused
  | resumed
  | navigating
  | runFinished
  deriving DecidableEq, Repr

/-- Whether events of a kind only stand between the others. -/
def EventKind.isAside : EventKind → Bool
  | .selectorFailed | .variableStored | .paused | .resumed => true
  | _ => false

/-- Whether an event of a kind says how a command ended after which the run goes on. -/
def EventKind.isEnding : EventKind → Bool
  | .commandCompleted | .commandAbandoned => true
  | _ => false

def RunEvent.kind : RunEvent → EventKind
  | .runStarted _ => .runStarted
  | .commandStarted .. => .commandStarted
  | .selectorFailed .. => .selectorFailed
  | .commandCompleted .. => .commandCompleted
  | .commandAbandoned .. => .commandAbandoned
  | .variableStored .. => .variableStored
  | .paused _ => .paused
  | .resumed _ => .resumed
  | .navigating .. => .navigating
  | .runFinished .. => .runFinished

namespace EventWord

def number (kind : EventKind) (events : List RunEvent) : Nat :=
  (events.map RunEvent.kind).count kind

/-- A pause before a command that was ended so that the run went on. -/
inductive Pause (index : Nat) : List RunEvent → Prop
  | none : Pause index []
  | resumed : Pause index [.paused index, .resumed index]

/-- What a command tells between its announcement and its end: the selectors that failed, and the
variable that it stored. -/
inductive Body (index : Nat) (command : Command) : List RunEvent → Prop
  | intro (failures : List (String × String)) (stored : Option (String × String))
      (hfailures : failures.length ≤ command.attempts)
      (hstored : stored.isSome = command.stores) :
      Body index command
        (failures.map (fun failure => .selectorFailed index failure.1 failure.2) ++
          stored.toList.map fun entry => .variableStored entry.1 entry.2)

/-- How a command ends after which the run goes on: each ending is one that the command can have,
and a command that had nothing to do tells nothing. -/
inductive Ending (index : Nat) (command : Command) : List RunEvent → Prop
  | completed (h : command.admits .completed = true) :
      Ending index command [.commandCompleted index command.name]
  | abandoned (reason : String) (h : command.admits (.abandoned reason) = true) :
      Ending index command [.commandAbandoned index command.name reason]
  | noOp (h : command.admits .noOp = true) : Ending index command []

/-- The words from the boundary before the command number `index` on, when `queue` are the commands
that are left; `ended` is the state in which the run ends, if it does. -/
inductive Word (config : Config) :
    (index : Nat) → (queue : List Command) → (ended : Option RunState) → List RunEvent → Prop
  | completed (index : Nat) :
      Word config index [] (some .completed) [.runFinished .completed index]
  | cancelled (index : Nat) (command : Command) (rest : List Command) :
      Word config index (command :: rest) (some .cancelled) [.runFinished .cancelled index]
  | cancelledPaused (index : Nat) (command : Command) (rest : List Command) :
      Word config index (command :: rest) (some .cancelled)
        [.paused index, .runFinished .cancelled index]
  | stuck (index : Nat) (command : Command) (rest : List Command) :
      Word config index (command :: rest) none [.paused index]
  | left {index : Nat} {command : Command} {pause body : List RunEvent}
      (hpause : Pause index pause) (target value : String) (hbody : Body index command body)
      (rest : List Command) (url : String) (hadmits : command.admits (.navigated url) = true)
      (hleaves : config.navigation.continueAfterOpen = false) :
      Word config index (command :: rest) (some (.navigating url))
        (pause ++ .commandStarted index command.name target value ::
          (body ++ [.navigating url rest.length, .runFinished (.navigating url) (index + 1)]))
  | next {index : Nat} {command : Command} {pause body ending later : List RunEvent}
      {rest : List Command} {ended : Option RunState}
      (hpause : Pause index pause) (target value : String) (hbody : Body index command body)
      (hending : Ending index command ending) (hlater : Word config (index + 1) rest ended later) :
      Word config index (command :: rest) ended
        (pause ++ .commandStarted index command.name target value :: (body ++ (ending ++ later)))

/-- A report and the events of a run tell the same: the events are those after a boundary at which
the run had got as far as `progress`. -/
structure Accounts (progress : Progress) (events : List RunEvent) (report : Report) : Prop where
  /-- The run ends at last, in the reported state. -/
  last : ∃ earlier, events = earlier ++ [.runFinished report.state report.dispatched]
  /-- It ends once. -/
  finished : number .runFinished events = 1
  dispatched : report.dispatched = progress.index + number .commandStarted events
  succeeded : report.tally.succeeded = progress.tally.succeeded +
    (number .commandCompleted events + number .navigating events)
  abandoned : report.tally.abandoned =
    progress.tally.abandoned + number .commandAbandoned events
  /-- A run leaves its page at most once. -/
  navigated : number .navigating events ≤ 1
  dropped : ∀ url count, .navigating url count ∈ events → count = report.remaining

/-! ### Counting -/

@[simp] theorem number_nil (kind : EventKind) : number kind [] = 0 := rfl

@[simp] theorem number_cons (kind : EventKind) (event : RunEvent) (events : List RunEvent) :
    number kind (event :: events) =
      number kind events + if event.kind = kind then 1 else 0 := by
  simp only [number, List.map_cons, List.count_cons, beq_iff_eq]

@[simp] theorem number_append (kind : EventKind) (a b : List RunEvent) :
    number kind (a ++ b) = number kind a + number kind b := by
  rw [number, List.map_append, List.count_append]
  rfl

theorem number_eq_zero {kind : EventKind} {events : List RunEvent}
    (h : ∀ event ∈ events, event.kind ≠ kind) : number kind events = 0 := by
  refine List.count_eq_zero.2 fun hmem => ?_
  obtain ⟨event, hevent, hkind⟩ := List.mem_map.1 hmem
  exact h event hevent hkind

theorem number_eq_zero_of_isAside {kind : EventKind} {events : List RunEvent}
    (h : ∀ event ∈ events, event.kind.isAside = true) (hkind : kind.isAside = false) :
    number kind events = 0 := by
  refine number_eq_zero fun event hevent heq => ?_
  have hboth := h event hevent
  rw [heq, hkind] at hboth
  cases hboth

theorem Body.isAside {index : Nat} {command : Command} {body : List RunEvent}
    (h : Body index command body) {event : RunEvent} (hevent : event ∈ body) :
    event.kind.isAside = true := by
  obtain ⟨failures, stored, _, _⟩ := h
  obtain hevent | hevent := List.mem_append.1 hevent
  · obtain ⟨failure, _, rfl⟩ := List.mem_map.1 hevent
    rfl
  · obtain ⟨entry, _, rfl⟩ := List.mem_map.1 hevent
    rfl

theorem Pause.isAside {index : Nat} {pause : List RunEvent} (h : Pause index pause)
    {event : RunEvent} (hevent : event ∈ pause) : event.kind.isAside = true := by
  cases h with
  | none => cases hevent
  | resumed =>
    obtain rfl | hevent := List.mem_cons.1 hevent
    · rfl
    · rw [List.mem_singleton.1 hevent]
      rfl

theorem Ending.isEnding {index : Nat} {command : Command} {ending : List RunEvent}
    (h : Ending index command ending) {event : RunEvent} (hevent : event ∈ ending) :
    event.kind.isEnding = true := by
  cases h with
  | completed h =>
    rw [List.mem_singleton.1 hevent]
    rfl
  | abandoned reason h =>
    rw [List.mem_singleton.1 hevent]
    rfl
  | noOp h => cases hevent

section Performed

variable {index : Nat} {command : Command} {pause body : List RunEvent}
  (hpause : Pause index pause) (hbody : Body index command body) (target value : String)

include hpause hbody in
/-- Over a command that was performed, only its announcement, its end and what follows count. -/
theorem number_performed (ending later : List RunEvent) {kind : EventKind}
    (hkind : kind.isAside = false) :
    number kind (pause ++ .commandStarted index command.name target value ::
        (body ++ (ending ++ later))) =
      number kind [.commandStarted index command.name target value] +
        (number kind ending + number kind later) := by
  have hbefore := number_eq_zero_of_isAside (fun _ => hpause.isAside) hkind
  have hwithin := number_eq_zero_of_isAside (fun _ => hbody.isAside) hkind
  rw [number_append, hbefore, Nat.zero_add, ← List.singleton_append, number_append, number_append,
    hwithin, Nat.zero_add, number_append]

include hpause hbody in
/-- What stands neither between the others nor for an end comes later. -/
theorem mem_later (ending : List RunEvent) {later : List RunEvent} {event : RunEvent}
    (hending : ∀ event ∈ ending, event.kind.isEnding = true)
    (hmem : event ∈ pause ++ .commandStarted index command.name target value ::
      (body ++ (ending ++ later)))
    (hkind : event.kind.isAside = false ∧ event.kind.isEnding = false ∧
      event.kind ≠ .commandStarted) : event ∈ later := by
  obtain ⟨haside, hend, hstart⟩ := hkind
  obtain h | h := List.mem_append.1 hmem
  · rw [hpause.isAside h] at haside
    cases haside
  obtain rfl | h := List.mem_cons.1 h
  · exact absurd rfl hstart
  obtain h | h := List.mem_append.1 h
  · rw [hbody.isAside h] at haside
    cases haside
  obtain h | h := List.mem_append.1 h
  · rw [hending event h] at hend
    cases hend
  · exact h

end Performed

end EventWord

end BrowserReplay
