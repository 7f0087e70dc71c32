import BrowserReplay.Json.Basic

/-!
# States of a run
-/

namespace BrowserReplay

/-- Where a run stands. A run that is over has completed, was cancelled, or has left its page. -/
inductive RunState where
  | idle
  | running
  | paused
  /-- The run opened another page; the commands after that were dropped. -/
  | navigating (url : String)
  | cancelled
  | completed
  deriving DecidableEq, Repr, Inhabited

namespace RunState

def display : RunState → String
  | .idle => "idle"
  | .running => "running"
  | .paused => "paused"
  | .navigating url => "navigating to " ++ url
  | .cancelled => "cancelled"
  | .completed => "completed"

def isTerminal : RunState → Bool
  | .navigating _ | .cancelled | .completed => true
  | .idle | .running | .paused => false

def toJson : RunState → Json
  | .navigating url => .ofFields [("state", .text "navigating"), ("url", .text url)]
  | state => .ofFields [("state", .text state.display)]

end RunState

end BrowserReplay
