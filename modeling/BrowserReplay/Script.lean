import BrowserReplay.Json.Record
import BrowserReplay.Json.Printer
import BrowserReplay.Json.Reader

/-!
# Recorded scripts

A script is a list of recorded commands with an optional name and date. It is read from a JSON
document; placeholders in it are left as they are.
-/

namespace BrowserReplay

structure CommandRecord where
  command : String
  target : Option String := none
  value : Option String := none
  targets : List String := []
  description : Option String := none
  deriving DecidableEq, Repr, Inhabited

structure Script where
  name : Option String := none
  creationDate : Option String := none
  commands : List CommandRecord
  deriving DecidableEq, Repr, Inhabited

namespace CommandRecord

/-- The arrays and objects that stand around an entry of `Targets`: the script, its commands, the
command, and the list. -/
def depthOfTargets : Nat := 4

/-- An entry of `Targets`: a selector, or a selector and a label of any form. -/
def targetOfJson? (entry : Json) : Option String :=
  if entry.isReadable depthOfTargets then
    match entry with
    | .string selector => selector
    | .array [.string selector, _] => selector
    | _ => none
  else none

def targetsOfJson? : Json → Option (List String)
  | .null => some []
  | .array entries => entries.mapM targetOfJson?
  | _ => none

def ofJson? (document : Json) : Option CommandRecord :=
  match document.slots? ["Command", "Target", "Value", "Targets", "Description"] with
  | some [command, target, value, targets, description] => do
    let command ← Json.required Json.text? command
    let target ← Json.defaulted none Json.optionalText? target
    let value ← Json.defaulted none Json.optionalText? value
    let targets ← Json.defaulted [] targetsOfJson? targets
    let description ← Json.defaulted none Json.optionalText? description
    pure ⟨command, target, value, targets, description⟩
  | _ => none

/-- The JSON form of a command. An empty list of targets and a missing description are left out; a
missing target or value is written as `null`. -/
def toJson (record : CommandRecord) : Json :=
  .ofFields <|
    [("Command", .text record.command), ("Target", .ofText? record.target),
      ("Value", .ofText? record.value)] ++
    (if record.targets.isEmpty then [] else [("Targets", .array (record.targets.map .text))]) ++
    (record.description.map fun text => ("Description", Json.text text)).toList

end CommandRecord

namespace Script

def commandsOfJson? : Json → Option (List CommandRecord)
  | .array records => records.mapM CommandRecord.ofJson?
  | _ => none

def ofJson? (document : Json) : Option Script :=
  match document.slots? ["Name", "CreationDate", "Commands"] with
  | some [name, creationDate, commands] => do
    let name ← Json.defaulted none Json.optionalText? name
    let creationDate ← Json.defaulted none Json.optionalText? creationDate
    let commands ← Json.required commandsOfJson? commands
    pure ⟨name, creationDate, commands⟩
  | _ => none

/-- The JSON form of a script. A missing name and a missing date are left out. -/
def toJson (script : Script) : Json :=
  .ofFields <|
    (script.name.map fun text => ("Name", Json.text text)).toList ++
    (script.creationDate.map fun text => ("CreationDate", Json.text text)).toList ++
    [("Commands", .array (script.commands.map CommandRecord.toJson))]

def parse? (text : String) : Option Script := (Json.parse? text).bind ofJson?

def render (script : Script) : String := script.toJson.render

def length (script : Script) : Nat := script.commands.length

end Script

end BrowserReplay
