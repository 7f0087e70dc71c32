import BrowserReplay.Bridge.Message
import BrowserReplay.Page.Basic

/-!
# The bridge in the page

A browser is asked to run three scripts in the page: one that looks whether the bridge is there, one
that installs it, and one that hands it a request.
-/

namespace BrowserReplay.Bridge

def checkExpression : String := "typeof window.__replayBridge !== 'undefined'"

def installer : String := "BRIDGE_JS"

/-- Whether an answer to the check says that the bridge is there. -/
def isInstalled : Json → Bool
  | .bool there => there
  | _ => false

theorem isInstalled_iff (value : Json) : isInstalled value = true ↔ value = .bool true := by
  cases value with
  | bool there => simp [isInstalled]
  | _ => simp [isInstalled]

/-- How the JSON library words what is wrong with a value. -/
class Wording where
  unreadable : Json → String

def outcome [Wording] (request : Request) (value : Json) : Except PageError (Option Handle) :=
  match Response.ofJson? value with
  | some response => response.result request
  | none => .error (.serialization (Wording.unreadable value))

/-- How calls to a page are carried out by requests to its bridge. The location is read, and the
page left, in another way. -/
def serve {m : Type → Type} [Monad m] (send : Request → m (Except PageError (Option Handle)))
    (currentUrl : m (Except PageError String))
    (navigate : String → m (Except PageError Arrival)) : (call : PageCall) → m call.Reply
  | .query selector => send (.ofSelector selector)
  | .currentUrl => currentUrl
  | .navigate url => navigate url
  | .click handle => do return (← send (.click handle)).map fun _ => ()
  | .focus handle => do return (← send (.focus handle)).map fun _ => ()
  | .setValue handle value => do return (← send (.setValue handle value)).map fun _ => ()
  | .dispatchKey key => do return (← send (.dispatchKey key)).map fun _ => ()
  | .highlight handle style => do return (← send (.ofStyle handle style)).map fun _ => ()

end BrowserReplay.Bridge
