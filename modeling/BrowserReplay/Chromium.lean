import BrowserReplay.Bridge.Script
import BrowserReplay.Remote.Browser
import BrowserReplay.Text.Search

/-!
# Chromium

Chromium is started with a profile directory, spoken to about one page, and asked to evaluate
expressions there. An evaluation can fail because the page is just leaving its document, which
passes, or hang behind a dialog, which is given up after a while. Dialogs are accepted as they open.
-/

namespace BrowserReplay.Chromium

inductive Expression where
  | check
  | install
  | process (request : Bridge.Request)
  deriving DecidableEq, Repr, Inhabited

def Expression.text : Expression → String
  | .check => Bridge.checkExpression
  | .install => Bridge.installer
  | .process request => "window.__replayBridge.process(" ++ request.render ++ ")"

/-- A choice made before the browser starts. -/
inductive StartOption where
  | noSandbox
  /-- Keeps the profile in a directory, which is there already or not. -/
  | profile (isThere : Bool)
  | withWindow
  | executable (path : String)
  deriving DecidableEq, Repr, Inhabited

inductive Call where
  | configure (options : List StartOption)
  | start
  | newPage (url : String)
  | listenToConsole
  | listenToDialogs
  | acceptDialog (message : String)
  | evaluate (expression : Expression)
  | url
  | title
  | goto (url : String)
  | close
  deriving DecidableEq, Repr, Inhabited

/-- What the answers to calls hold. An evaluation need not have a value. -/
abbrev Call.Result : Call → Type
  | .evaluate _ => Option Json
  | .url | .title => Option String
  | .listenToDialogs => List String
  | .configure _ | .start | .newPage _ | .listenToConsole | .acceptDialog _ | .goto _ | .close => Unit

abbrev interface : Interface := ⟨Call, Call.Result⟩

structure Settings where
  visible : Bool := false
  executable : Option String := none
  /-- Whether one profile directory is kept for all starts. -/
  keepsProfile : Bool := false
  deriving DecidableEq, Repr, Inhabited

variable [Bridge.Wording] {γ : Type}

/-! ### Evaluations -/

def evaluationLimit : Nat := 10000

def maxAttempts : Nat := 10

/-- How long to wait after the page was found between documents. -/
def retryDelay : Nat := 100

/-- What Chromium says when the page is between documents. -/
def contextMarks : List String :=
  ["Cannot find context", "Execution context was destroyed", "-32000"]

/-- Whether a failure means that the page is between documents. -/
def isContextFailure (message : String) : Bool := contextMarks.any (Text.contains message)

inductive EvaluationError where
  | timeout
  | context (message : String)
  | other (message : String)
  deriving DecidableEq, Repr, Inhabited

def judge : Answer (Option Json) → Except EvaluationError Json
  | .silence => .error .timeout
  | .failure message =>
    if isContextFailure message then .error (.context message) else .error (.other message)
  | .value (some value) => .ok value
  | .value none => .error (.other "Failed to get result: No value found")

def evaluate (model : PartyModel interface γ) (expression : Expression) :
    Exchange interface γ (Except EvaluationError Json) := do
  return judge (← Exchange.askWithin model evaluationLimit (.evaluate expression))

def ensure (model : PartyModel interface γ) :
    Exchange interface γ (Except EvaluationError Unit) := do
  match ← evaluate model .check with
  | .error error => pure (.error error)
  | .ok value =>
    if Bridge.isInstalled value then pure (.ok ())
    else return (← evaluate model .install).map fun _ => ()

def attempt (model : PartyModel interface γ) (request : Bridge.Request) :
    Exchange interface γ (Except EvaluationError Json) := do
  match ← ensure model with
  | .error error => pure (.error error)
  | .ok () => evaluate model (.process request)

/-- Tries a request up to so many times; `last` is the failure if there is no try left. -/
def sendWithin (model : PartyModel interface γ) (request : Bridge.Request) (last : String) :
    Nat → Exchange interface γ (Except PageError (Option Handle))
  | 0 => pure (.error (.bridge last))
  | more + 1 => do
    match ← attempt model request with
    | .ok value => pure (Bridge.outcome request value)
    | .error .timeout =>
      pure (.error (.bridge (request.op ++ " timed out - possibly blocked by a dialog")))
    | .error (.other message) =>
      pure (.error (.script (request.op ++ " evaluation failed: " ++ message)))
    | .error (.context message) => do
      Exchange.rest retryDelay
      sendWithin model request message more

def send (model : PartyModel interface γ) (request : Bridge.Request) :
    Exchange interface γ (Except PageError (Option Handle)) :=
  sendWithin model request (request.op ++ " failed after retries") maxAttempts

/-! ### The page -/

def currentUrl (model : PartyModel interface γ) : Exchange interface γ (Except PageError String) := do
  match ← Exchange.ask model .url with
  | .ok (some url) => pure (.ok url)
  | .ok none => pure (.error (.other "Page has no location"))
  | .error message => pure (.error (.other ("Failed to read location: " ++ message)))

/-- Goes to a location. A title that cannot be read is left empty. -/
def navigate (model : PartyModel interface γ) (url : String) :
    Exchange interface γ (Except PageError Arrival) := do
  match ← Exchange.ask model (.goto url) with
  | .error message => pure (.error (.navigation message))
  | .ok () =>
    let title ← Exchange.ask model .title
    match ← Exchange.ask model .url with
    | .error message => pure (.error (.navigation message))
    | .ok url => pure (.ok { url := url.getD "", title := (title.toOption.bind id).getD "" })

/-! ### Starting and closing -/

/-- Chromium and the profile directories of its starts. -/
structure State (γ : Type) where
  browser : Browser interface γ
  /-- Directories that were made for one start and not removed. -/
  strayProfiles : Nat := 0
  hasKeptProfile : Bool := false

def State.profiles (state : State γ) : Nat :=
  state.strayProfiles + if state.hasKeptProfile then 1 else 0

def Settings.options (settings : Settings) : List StartOption :=
  [.noSandbox, .profile true] ++ (if settings.visible then [.withWindow] else []) ++
    settings.executable.toList.map .executable

def step (model : PartyModel interface γ) (what : String) (call : Call) :
    Exchange interface γ (Except PageError call.Result) := do
  match ← Exchange.ask model call with
  | .ok result => pure (.ok result)
  | .error message => pure (.error (.other (what ++ message)))

/-- Accepts dialogs. It does not matter whether that fails. -/
def acceptAll (model : PartyModel interface γ) : List String → Exchange interface γ Unit
  | [] => pure ()
  | message :: rest => do
    let _ ← Exchange.ask model (.acceptDialog message)
    acceptAll model rest

def start (model : PartyModel interface γ) (settings : Settings) :
    Exchange interface γ (Except PageError Unit) := ExceptT.run do
  ExceptT.mk (step model "Failed to build browser config: " (.configure settings.options))
  ExceptT.mk (step model "Failed to launch browser: " .start)
  ExceptT.mk (step model "Failed to create page: " (.newPage "about:blank"))
  ExceptT.mk (step model "Failed to subscribe to console events: " .listenToConsole)
  let dialogs ← ExceptT.mk (step model "Failed to subscribe to dialog events: " .listenToDialogs)
  ExceptT.lift (acceptAll model dialogs)

def State.withProfile (state : State γ) (settings : Settings) : State γ :=
  if settings.keepsProfile then { state with hasKeptProfile := true }
  else { state with strayProfiles := state.strayProfiles + 1 }

/-- Starts Chromium. The profile directory stays even if that fails. -/
def launch (model : PartyModel interface γ) (settings : Settings) (state : State γ) :
    BackendResponse (State γ) :=
  let state := state.withProfile settings
  let done := state.browser.connect (start model settings)
  ⟨{ state with browser := done.browser }, done.result, done.elapsed⟩

/-- Closes Chromium, if it runs, and then removes its profile directory unless that is kept. -/
def close (model : PartyModel interface γ) (settings : Settings) (state : State γ) :
    BackendResponse (State γ) :=
  let done := state.browser.disconnect (step model "Error closing browser: " .close)
  let removes := state.browser.isOpen && done.result.isOk && !settings.keepsProfile
  ⟨{ state with
      browser := done.browser,
      strayProfiles := if removes then state.strayProfiles - 1 else state.strayProfiles },
    done.result, done.elapsed⟩

def asPage (model : PartyModel interface γ) : PageModel (State γ) := fun state call =>
  let serve := Bridge.serve (send model) (currentUrl model) (navigate model)
  let response := Browser.asPage serve state.browser call
  ⟨{ state with browser := response.page }, response.reply, response.elapsed⟩

def backend (model : PartyModel interface γ) (settings : Settings) : Backend (State γ) where
  launch := launch model settings
  close := close model settings
  page := asPage model
  waits state := state.browser.isStalled
  release state := { state with browser := state.browser.release }

end BrowserReplay.Chromium
