import BrowserReplay.Command
import BrowserReplay.Template
import BrowserReplay.Wait

/-!
# Locating an element

A command names an element by a selector and fallbacks. They are tried in that order, each with a
whole wait of its own, until one is found.
-/

namespace BrowserReplay

/-- An element that was found: which of the candidates matched, and its place among them. -/
structure Located where
  handle : Handle
  selector : String
  position : Nat
  deriving DecidableEq, Repr, Inhabited

/-- The outcome of a search: the element, if there is one, the candidates that were tried, and what
was wrong with those that were not found. -/
structure Search where
  found : Option Located
  attempted : List String
  failures : List WaitError
  deriving DecidableEq, Repr, Inhabited

/-- The candidates of a target: the selector (the empty one if there is none) and the fallbacks, with
their placeholders replaced. -/
def Target.candidates (vars : Variables) (target : Target) : List String :=
  (target.primary :: target.fallbacks.map some).map (Template.substitute vars)

def noValidTarget (attempted : List String) : String :=
  "No valid target found among selectors: [" ++ String.intercalate ", " attempted ++ "]"

/-- Tries candidates in order; `position` is the place of the first one. -/
def tryCandidates (model : PageModel σ) (options : WaitOptions) :
    (position : Nat) → List String → Visit σ Search
  | _, [] => pure ⟨none, [], []⟩
  | position, selector :: rest => do
    match ← waitFor model options selector with
    | .ok handle => pure ⟨some ⟨handle, selector, position⟩, [selector], []⟩
    | .error failure =>
      let later ← tryCandidates model options (position + 1) rest
      pure ⟨later.found, selector :: later.attempted, failure :: later.failures⟩

def locate (model : PageModel σ) (options : WaitOptions) (vars : Variables) (target : Target) :
    Visit σ Search :=
  tryCandidates model options 0 (target.candidates vars)

end BrowserReplay
