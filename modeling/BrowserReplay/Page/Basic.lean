import BrowserReplay.Config
import BrowserReplay.Page.Error
import BrowserReplay.Selector

/-!
# Pages

A run acts on a page through a few calls and knows nothing else about it. A page is modelled by its
states and by how each state responds to each call: the next state, the reply, and the time the call
takes. Any sequence of replies is the behaviour of some page.
-/

namespace BrowserReplay

structure Arrival where
  url : String
  title : String
  status : Nat := 200
  deriving DecidableEq, Repr, Inhabited

inductive PageCall where
  /-- Evaluates a selector once. -/
  | query (selector : Selector)
  | currentUrl
  | navigate (url : String)
  | click (handle : Handle)
  | focus (handle : Handle)
  /-- Sets a value and tells the page's listeners about it. -/
  | setValue (handle : Handle) (value : String)
  | dispatchKey (key : String)
  | highlight (handle : Handle) (style : HighlightStyle)
  deriving DecidableEq, Repr

namespace PageCall

abbrev Result : PageCall → Type
  | query _ => Option Handle
  | currentUrl => String
  | navigate _ => Arrival
  | click _ | focus _ | setValue _ _ | dispatchKey _ | highlight _ _ => Unit

abbrev Reply (call : PageCall) : Type := Except PageError call.Result

def isEffectful : PageCall → Bool
  | navigate _ | click _ | focus _ | setValue _ _ | dispatchKey _ => true
  | query _ | currentUrl | highlight _ _ => false

end PageCall

structure PageResponse (σ : Type) (call : PageCall) where
  page : σ
  reply : call.Reply
  elapsed : Nat := 0

/-- How pages with states in `σ` respond. -/
abbrev PageModel (σ : Type) := σ → (call : PageCall) → PageResponse σ call

end BrowserReplay
