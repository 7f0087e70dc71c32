import BrowserReplay.Bridge.Script
import BrowserReplay.Remote.Browser
import BrowserReplay.Text.Search

/-!
# Browsers behind a WebDriver server

A WebDriver session runs scripts as function bodies. The page may lose its bridge at any moment, by
going to another document: a request that finds none is tried again a little later, after another
look whether the bridge has to be installed. A request that got a decisive answer is never sent
again.
-/

namespace BrowserReplay.WebDriver

inductive PageScript where
  | check
  | install
  /-- Hands the bridge the request in the first argument. -/
  | process
  deriving DecidableEq, Repr, Inhabited

def PageScript.text : PageScript → String
  | .check => "return " ++ Bridge.checkExpression ++ ";"
  | .install => Bridge.installer
  | .process => "return window.__replayBridge.process(arguments[0]);"

inductive Call where
  | connect (url : String) (capabilities : Json)
  | execute (script : PageScript) (arguments : List Json)
  | title
  | currentUrl
  | goto (url : String)
  | close

abbrev Call.Result : Call → Type
  | .execute .. => Json
  | .title | .currentUrl => String
  | .connect .. | .goto _ | .close => Unit

abbrev interface : Interface := ⟨Call, Call.Result⟩

structure Settings where
  url : String
  capabilities : Json := .object []

variable [Bridge.Wording] {γ : Type}

/-! ### Requests to the bridge -/

def maxAttempts : Nat := 3

/-- How long to wait before another try. -/
def retryDelay : Nat := 200

/-- What a browser says when a script meets a page without the bridge. -/
def missingBridgeMarks : List String :=
  ["undefined is not an object", "__replayBridge is undefined",
    "Cannot read properties of undefined"]

def isMissingBridge (message : String) : Bool := missingBridgeMarks.any (Text.contains message)

inductive Attempt where
  | decisive (result : Except PageError (Option Handle))
  | indecisive (error : PageError)

/-- What the answer to a request means. A click may lead away before the bridge answers. -/
def judge (request : Bridge.Request) : Except String Json → Attempt
  | .ok .null =>
    match request with
    | .click _ => .decisive (.ok none)
    | _ => .indecisive (.bridge (request.op ++ " returned null"))
  | .ok value => .decisive (Bridge.outcome request value)
  | .error message =>
    if isMissingBridge message then .indecisive (.bridge message)
    else .decisive (.error (.script (request.op ++ " failed: " ++ message)))

/-- Looks whether the bridge is there. A failure counts as no. -/
def check (model : PartyModel interface γ) : Exchange interface γ Bool := do
  match ← Exchange.ask model (.execute .check []) with
  | .ok value => pure (Bridge.isInstalled value)
  | .error _ => pure false

def ensure (model : PartyModel interface γ) : Exchange interface γ (Except String Unit) := do
  if ← check model then pure (.ok ())
  else return (← Exchange.ask model (.execute .install [])).map fun _ => ()

def attempt (model : PartyModel interface γ) (request : Bridge.Request) :
    Exchange interface γ Attempt := do
  match ← ensure model with
  | .error message => pure (.indecisive (.bridge ("Failed to inject bridge: " ++ message)))
  | .ok () => return judge request (← Exchange.ask model (.execute .process [request.toJson]))

def sendWithin (model : PartyModel interface γ) (request : Bridge.Request) :
    Nat → Exchange interface γ (Except PageError (Option Handle))
  | 0 => pure (.error (.bridge (request.op ++ " failed after maximum retries")))
  | more + 1 => do
    match ← attempt model request with
    | .decisive result => pure result
    | .indecisive error =>
      if more = 0 then pure (.error error)
      else do
        Exchange.rest retryDelay
        sendWithin model request more

def send (model : PartyModel interface γ) (request : Bridge.Request) :
    Exchange interface γ (Except PageError (Option Handle)) :=
  sendWithin model request maxAttempts

/-! ### The browser -/

def currentUrl (model : PartyModel interface γ) : Exchange interface γ (Except PageError String) := do
  match ← Exchange.ask model .currentUrl with
  | .ok url => pure (.ok url)
  | .error message => pure (.error (.other ("Failed to read location: " ++ message)))

/-- Goes to a location. What cannot be read of the page there is left empty. -/
def navigate (model : PartyModel interface γ) (url : String) :
    Exchange interface γ (Except PageError Arrival) := do
  match ← Exchange.ask model (.goto url) with
  | .error message => pure (.error (.navigation message))
  | .ok () =>
    let title ← Exchange.ask model .title
    let url ← Exchange.ask model .currentUrl
    pure (.ok { url := url.toOption.getD "", title := title.toOption.getD "" })

def asPage (model : PartyModel interface γ) : PageModel (Browser interface γ) :=
  Browser.asPage (Bridge.serve (send model) (currentUrl model) (navigate model))

def opening (model : PartyModel interface γ) (settings : Settings) :
    Exchange interface γ (Except PageError Unit) := do
  match ← Exchange.ask model (.connect settings.url settings.capabilities) with
  | .ok () => pure (.ok ())
  | .error message =>
    pure (.error (.other
      ("Failed to connect to WebDriver at " ++ settings.url ++ ": " ++ message)))

def closing (model : PartyModel interface γ) : Exchange interface γ (Except PageError Unit) := do
  match ← Exchange.ask model .close with
  | .ok () => pure (.ok ())
  | .error message => pure (.error (.other ("Failed to close session: " ++ message)))

def backend (model : PartyModel interface γ) (settings : Settings) :
    Backend (Browser interface γ) where
  launch browser := (browser.connect (opening model settings)).response
  close browser := (browser.disconnect (closing model)).response
  page := asPage model
  waits := Browser.isStalled
  release := Browser.release

end BrowserReplay.WebDriver
