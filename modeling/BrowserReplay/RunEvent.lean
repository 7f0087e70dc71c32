import BrowserReplay.Json.Printer
import BrowserReplay.RunState

/-!
# Events of a run

A run tells what it does as a sequence of events. Each has a line of text, a JSON form whose first
field names the kind, and an entry in the log.
-/

namespace BrowserReplay

/-- One thing that a run did. Commands are counted from zero. -/
inductive RunEvent where
  | runStarted (commands : Nat)
  | commandStarted (index : Nat) (command target value : String)
  | selectorFailed (index : Nat) (selector reason : String)
  | commandCompleted (index : Nat) (command : String)
  | commandAbandoned (index : Nat) (command reason : String)
  | variableStored (name value : String)
  | paused (index : Nat)
  | resumed (index : Nat)
  | navigating (url : String) (dropped : Nat)
  | runFinished (state : RunState) (dispatched : Nat)
  deriving DecidableEq, Repr, Inhabited

inductive LogLevel where
  | debug
  | info
  | warn
  | error
  deriving DecidableEq, Repr, Inhabited

namespace LogLevel

def name : LogLevel → String
  | .debug => "DEBUG"
  | .info => "INFO"
  | .warn => "WARN"
  | .error => "ERROR"

def rank : LogLevel → Nat
  | .debug => 0
  | .info => 1
  | .warn => 2
  | .error => 3

end LogLevel

structure LogLine where
  level : LogLevel
  message : String
  deriving DecidableEq, Repr, Inhabited

namespace RunEvent

def position (index : Nat) : String := "[" ++ toString index ++ "]"

def text : RunEvent → String
  | .runStarted commands => "Running " ++ toString commands ++ " command(s)"
  | .commandStarted index command target value =>
    position index ++ " " ++ command ++ " " ++ target ++
      (if value = "" then "" else " | " ++ value)
  | .selectorFailed index selector _ => position index ++ "   selector failed: " ++ selector
  | .commandCompleted index command => position index ++ "   " ++ command ++ " ok"
  | .commandAbandoned index command reason =>
    position index ++ "   " ++ command ++ " abandoned: " ++ reason
  | .variableStored name value => "    $\x7b" ++ name ++ "\x7d = " ++ value
  | .paused index => "Paused before command " ++ toString index
  | .resumed index => "Resumed at command " ++ toString index
  | .navigating url dropped =>
    "Navigating to " ++ url ++ " (" ++ toString dropped ++ " command(s) dropped)"
  | .runFinished state dispatched =>
    "Run " ++ state.display ++ " after " ++ toString dispatched ++ " command(s)"

def toJson : RunEvent → Json
  | .runStarted commands =>
    .ofFields [("event", .text "run_started"), ("commands", .nat commands)]
  | .commandStarted index command target value =>
    .ofFields [("event", .text "command_started"), ("index", .nat index),
      ("command", .text command), ("target", .text target), ("value", .text value)]
  | .selectorFailed index selector reason =>
    .ofFields [("event", .text "selector_failed"), ("index", .nat index),
      ("selector", .text selector), ("reason", .text reason)]
  | .commandCompleted index command =>
    .ofFields [("event", .text "command_completed"), ("index", .nat index),
      ("command", .text command)]
  | .commandAbandoned index command reason =>
    .ofFields [("event", .text "command_abandoned"), ("index", .nat index),
      ("command", .text command), ("reason", .text reason)]
  | .variableStored name value =>
    .ofFields [("event", .text "variable_stored"), ("name", .text name), ("value", .text value)]
  | .paused index => .ofFields [("event", .text "paused"), ("index", .nat index)]
  | .resumed index => .ofFields [("event", .text "resumed"), ("index", .nat index)]
  | .navigating url dropped =>
    .ofFields [("event", .text "navigating"), ("url", .text url), ("dropped", .nat dropped)]
  | .runFinished state dispatched =>
    .ofFields [("event", .text "run_finished"), ("state", state.toJson),
      ("dispatched", .nat dispatched)]

def render (event : RunEvent) : String := event.toJson.render

def logLine : RunEvent → LogLine
  | .runStarted commands => ⟨.info, "Run started with " ++ toString commands ++ " commands"⟩
  | .commandStarted index command target value =>
    ⟨.info, position index ++ " Executing: " ++ command ++ " → " ++ target ++ " | " ++ value⟩
  | .selectorFailed index selector reason =>
    ⟨.warn, position index ++ " Selector failed: " ++ selector ++ " (" ++ reason ++ ")"⟩
  | .commandCompleted index command => ⟨.debug, position index ++ " " ++ command ++ " done"⟩
  | .commandAbandoned index command reason =>
    ⟨.error, position index ++ " " ++ command ++ " failed: " ++ reason⟩
  | .variableStored name value => ⟨.debug, "Stored " ++ name ++ " = " ++ value⟩
  | .paused index => ⟨.info, "Paused before command " ++ toString index⟩
  | .resumed index => ⟨.info, "Resumed at command " ++ toString index⟩
  | .navigating url dropped =>
    ⟨.info, "Navigating to " ++ url ++ "; " ++ toString dropped ++
      " remaining command(s) end with this page"⟩
  | .runFinished state dispatched =>
    ⟨.info, "Run finished (" ++ state.display ++ ") after " ++ toString dispatched ++
      " command(s)"⟩

end RunEvent

end BrowserReplay
