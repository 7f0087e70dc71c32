import BrowserReplay.Locate
import BrowserReplay.Location
import BrowserReplay.Sensitive

/-!
# Performing a command

What each command does to the page and to the variables, and the events it tells.
-/

namespace BrowserReplay

inductive Outcome where
  | completed
  | noOp
  | abandoned (reason : String)
  /-- The command went to another page. -/
  | navigated (url : String)
  deriving DecidableEq, Repr, Inhabited

namespace Perform

def escapeKey : String := "Escape"

/-- The event that announces a command. In a `store` the target is the value that may be secret and
the name is the hint; elsewhere it is the other way round. -/
def started (config : Config) (vars : Variables) (index : Nat) (command : Command) :
    RunEvent :=
  let target := Template.substitute vars command.authoredTarget
  let value := Template.substitute vars command.authoredValue
  let hide := maskIf config.logging.maskSensitive
  match command with
  | .store .. => .commandStarted index command.name (hide value target) value
  | _ => .commandStarted index command.name target (hide target value)

def store (config : Config) (vars : Variables) (name : String) (value : VarValue) :
    Visit σ Variables := do
  Visit.tell (.variableStored name (maskIf config.logging.maskSensitive name value.display))
  pure (vars.set name value)

/-- Looks for an element and tells which selectors failed. -/
def search (model : PageModel σ) (config : Config) (vars : Variables) (index : Nat)
    (target : Target) : Visit σ Search := do
  let search ← locate model config.timing.waitOptions vars target
  Visit.tellAll (search.failures.map fun failure =>
    .selectorFailed index failure.selector failure.message)
  pure search

/-- Marks an element if the settings ask for it. A failure is only remarked on. -/
def mark (model : PageModel σ) (config : Config) (handle : Handle) : Visit σ Unit :=
  if config.highlight.enabled then do
    match ← Visit.call model (.highlight handle config.highlight.style) with
    | .ok () => pure ()
    | .error error =>
      Visit.remark .debug ("Highlight of " ++ handle.display ++ " failed: " ++ error.message)
  else pure ()

def outcome (activity : String) : Except PageError Unit → Outcome
  | .ok () => .completed
  | .error error => .abandoned (activity ++ " failed: " ++ error.message)

def onElement (model : PageModel σ) (config : Config) (vars : Variables) (index : Nat)
    (target : Target) (act : Handle → Visit σ Outcome) : Visit σ Outcome := do
  let search ← search model config vars index target
  match search.found with
  | some located =>
    mark model config located.handle
    act located.handle
  | none => pure (.abandoned (noValidTarget search.attempted))

def clickOn (model : PageModel σ) (handle : Handle) : Visit σ Outcome := do
  pure (outcome "click" (← Visit.call model (.click handle)))

def writeInto (model : PageModel σ) (text : String) (handle : Handle) : Visit σ Outcome := do
  match ← Visit.call model (.focus handle) with
  | .error error => pure (outcome "focus" (.error error))
  | .ok () => pure (outcome "setting value" (← Visit.call model (.setValue handle text)))

/-- Goes to a place. Whether the page agrees does not change the outcome. -/
def goTo (model : PageModel σ) (failure destination : String) : Visit σ Outcome := do
  match ← Visit.call model (.navigate destination) with
  | .ok _ => pure (.navigated destination)
  | .error error =>
    Visit.remark .warn (failure ++ " failed: " ++ error.message)
    pure (.navigated destination)

/-- Opens a page. An empty target means the current one again; a target that is the current page
needs no navigation. -/
def openPage (model : PageModel σ) (target : String) : Visit σ Outcome := do
  match ← Visit.call model .currentUrl with
  | .ok current =>
    if target = "" then goTo model ("Reload of " ++ current) current
    else
      let destination := resolveLocation (some current) target
      if sameLocation current destination then
        Visit.remark .debug ("Already at " ++ destination)
        pure .completed
      else goTo model ("Navigation to " ++ destination) destination
  | .error error =>
    Visit.remark .warn ("Could not read current location: " ++ error.message)
    if target = "" then
      Visit.remark .warn "open without a target and no current location to reload"
      pure .noOp
    else
      let destination := resolveLocation none target
      goTo model ("Navigation to " ++ destination) destination

/-- Presses the escape key if the recorded value, before any replacement, is the agreed one. -/
def pressKey (model : PageModel σ) (config : Config) (value : Option String) : Visit σ Outcome :=
  if value = some config.keys.escapeToken then do
    pure (outcome "key dispatch" (← Visit.call model (.dispatchKey escapeKey)))
  else pure .noOp

def act (model : PageModel σ) (config : Config) (vars : Variables) (index : Nat) :
    Command → Visit σ (Outcome × Variables)
  | .store value name => do
    let vars ← store config vars (Template.substitute vars name)
      (.text (Template.substitute vars value))
    pure (.completed, vars)
  | .openPage url => do
    pure (← openPage model (Template.substitute vars url), vars)
  | .click target => do
    pure (← onElement model config vars index target (clickOn model), vars)
  | .type target text => do
    let text := Template.substitute vars text
    pure (← onElement model config vars index target (writeInto model text), vars)
  | .verifyElementPresent target name => do
    let search ← search model config vars index target
    if let some located := search.found then mark model config located.handle
    let vars ← store config vars (Template.substitute vars name)
      (.bool search.found.isSome)
    pure (.completed, vars)
  | .finish => pure (.noOp, vars)
  | .keyPress value => do pure (← pressKey model config value, vars)
  | .unrecognized name => do
    Visit.remark .debug ("Ignoring unrecognized command '" ++ name ++ "'")
    pure (.noOp, vars)

end Perform

def perform (model : PageModel σ) (config : Config) (vars : Variables) (index : Nat)
    (command : Command) : Visit σ (Outcome × Variables) := do
  Visit.tell (Perform.started config vars index command)
  Perform.act model config vars index command

end BrowserReplay
