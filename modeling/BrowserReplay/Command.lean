import BrowserReplay.Config
import BrowserReplay.Script

/-!
# Commands

A recorded command is lifted into one case per supported action. Texts stay as recorded:
placeholders are replaced when the command runs.
-/

namespace BrowserReplay

/-- Where a command finds its element: the recorded selector, then the fallbacks in order. -/
structure Target where
  primary : Option String
  fallbacks : List String
  deriving DecidableEq, Repr, Inhabited

inductive Command where
  /-- Keeps the text `value` under the name `name`. -/
  | store (value name : Option String)
  | openPage (url : Option String)
  | click (target : Target)
  | type (target : Target) (text : Option String)
  /-- Keeps whether an element is there under the name `name`. -/
  | verifyElementPresent (target : Target) (name : Option String)
  /-- Marks the end of a recording and does nothing. -/
  | finish
  /-- Presses the escape key if the value is the one agreed on for it. -/
  | keyPress (value : Option String)
  /-- Any other command, which is passed over. -/
  | unrecognized (name : String)
  deriving DecidableEq, Repr, Inhabited

namespace Command

def ofRecord (keys : Config.Keys) (record : CommandRecord) : Command :=
  let target : Target := ⟨record.target, record.targets⟩
  if record.command = "store" then .store record.target record.value
  else if record.command = "open" then .openPage record.target
  else if record.command = "click" then .click target
  else if record.command = "type" then .type target record.value
  else if record.command = "verifyElementPresent" then .verifyElementPresent target record.value
  else if record.command = "end" then .finish
  else if record.command = keys.command then .keyPress record.value
  else .unrecognized record.command

def ofScript (keys : Config.Keys) (script : Script) : List Command :=
  script.commands.map (ofRecord keys)

def name : Command → String
  | .store .. => "store"
  | .openPage .. => "open"
  | .click .. => "click"
  | .type .. => "type"
  | .verifyElementPresent .. => "verifyElementPresent"
  | .finish => "end"
  | .keyPress .. => "keyPress"
  | .unrecognized name => name

def authoredTarget : Command → Option String
  | .store value _ => value
  | .openPage url => url
  | .click target => target.primary
  | .type target _ => target.primary
  | .verifyElementPresent target _ => target.primary
  | .finish | .keyPress _ | .unrecognized _ => none

def authoredValue : Command → Option String
  | .store _ name => name
  | .type _ text => text
  | .verifyElementPresent _ name => name
  | .keyPress value => value
  | .openPage _ | .click _ | .finish | .unrecognized _ => none

def element? : Command → Option Target
  | .click target | .type target _ | .verifyElementPresent target _ => some target
  | _ => none

end Command

end BrowserReplay
