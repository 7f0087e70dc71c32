import BrowserReplay.Text.Duration
import BrowserReplay.Visit

/-!
# Waiting for an element

A wait looks for an element at once and then, as long as its time is not up, once per interval. It
ends as soon as the element is found, or when the page cannot evaluate the selector at all. Without
pauses between its looks it takes as many in a millisecond as the machine manages.
-/

namespace BrowserReplay

inductive WaitError where
  | notFound (selector : String) (elapsed : Nat)
  | unresolved (selector : String) (cause : PageError)
  deriving DecidableEq, Repr, Inhabited

namespace WaitError

def selector : WaitError → String
  | .notFound selector _ | .unresolved selector _ => selector

def message : WaitError → String
  | .notFound selector elapsed =>
    "Timeout: element not found: " ++ selector ++ " (waited " ++ Text.duration elapsed ++ ")"
  | .unresolved selector cause =>
    "Selector '" ++ selector ++ "' could not be evaluated: " ++ cause.message

end WaitError

namespace Wait

def pace (options : WaitOptions) : Nat := max 1 options.pace

/-- How often a wait looks at most until the time is up. -/
def looks (options : WaitOptions) : Nat :=
  if options.interval = 0 then options.timeout * pace options
  else (options.timeout + options.interval - 1) / options.interval

/-- How long a wait rests between two looks if `left` looks are still to come. Without pauses a
millisecond goes by after every `pace` looks. -/
def pause (options : WaitOptions) (left : Nat) : Nat :=
  if options.interval = 0 then if left % pace options = 0 then 1 else 0 else options.interval

/-- Looks at most `budget` times for an element that has been waited for since `start`. -/
def poll (model : PageModel σ) (options : WaitOptions) (raw : String) (start : Nat) :
    (budget : Nat) → Visit σ (Except WaitError Handle)
  | 0 => do
    let now ← Visit.clock
    pure (.error (.notFound raw (now - start)))
  | budget + 1 => do
    let now ← Visit.clock
    if options.timeout ≤ now - start then
      pure (.error (.notFound raw (now - start)))
    else
      match ← Visit.call model (.query (.parse raw)) with
      | .ok (some handle) => pure (.ok handle)
      | .error cause => pure (.error (.unresolved raw cause))
      | .ok none =>
        Visit.remark .debug ("Selector " ++ raw ++ " not found yet, polling again")
        Visit.rest (pause options budget)
        poll model options raw start budget

end Wait

def waitFor (model : PageModel σ) (options : WaitOptions) (raw : String) :
    Visit σ (Except WaitError Handle) := do
  let start ← Visit.clock
  Wait.poll model options raw start (Wait.looks options)

end BrowserReplay
