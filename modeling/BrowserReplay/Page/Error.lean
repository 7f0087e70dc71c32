/-!
# What can go wrong on a page
-/

namespace BrowserReplay

/-- A handle is a number that a page gives to an element it has found. It is worth nothing on
another page. -/
abbrev Handle := Nat

namespace Handle

def display (handle : Handle) : String := "#" ++ toString handle

end Handle

inductive PageError where
  | notReady
  | navigation (message : String)
  /-- The page cannot make sense of a selector. -/
  | invalidSelector (message : String)
  | staleElement (handle : Handle)
  /-- The page's own code failed. -/
  | script (message : String)
  | bridge (message : String)
  | notSupported (message : String)
  /-- The page gave an answer that makes no sense. -/
  | serialization (message : String)
  | other (message : String)
  deriving DecidableEq, Repr, Inhabited

def PageError.message : PageError → String
  | .notReady => "Backend not ready"
  | .navigation message => "Navigation failed: " ++ message
  | .invalidSelector message => "Invalid selector: " ++ message
  | .staleElement handle => "Stale element reference: " ++ handle.display
  | .script message => "Script error: " ++ message
  | .bridge message => "Bridge error: " ++ message
  | .notSupported message => "Not supported: " ++ message
  | .serialization message => "Serialization error: " ++ message
  | .other message => message

end BrowserReplay
