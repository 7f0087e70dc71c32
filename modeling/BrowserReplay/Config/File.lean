import BrowserReplay.Config
import BrowserReplay.Json.Basic
import BrowserReplay.Text.Blank
import BrowserReplay.Yaml.Node

/-!
# Settings files

Settings are written as a YAML mapping of sections, each a mapping of fields. A field or a section
that is left out has its default; an unknown one is passed over; a known one must not stand twice. An
empty scalar counts as an empty mapping, and a text without contents as the default settings.
-/

namespace BrowserReplay

namespace Yaml

/-! ### Reading values -/

def follow? (document : Document) : Node → Option Node
  | .alias anchor => document.resolve? anchor
  | node => some node

def text? (document : Document) (node : Node) : Option String :=
  match follow? document node with
  | some (.scalar _ _ text) => some text
  | _ => none

/-- The text of a scalar that may be a number or a truth value: a plain one, or a literal block with
the right tag. -/
def typedText? (document : Document) (tag : String) (node : Node) : Option String :=
  match follow? document node with
  | some (.scalar _ .plain text) => some text
  | some (.scalar (some given) .literal text) => if given = tag then some text else none
  | _ => none

def bool? (document : Document) (node : Node) : Option Bool :=
  match typedText? document "tag:yaml.org,2002:bool" node with
  | some "true" | some "True" | some "TRUE" => some true
  | some "false" | some "False" | some "FALSE" => some false
  | _ => none

def digits? (base : Nat) (cs : List Char) : Option Nat :=
  if cs.isEmpty then none
  else cs.foldlM (fun acc c => ((hexValue? c).filter (· < base)).map (acc * base + ·)) 0

/-- An unsigned number: decimal without superfluous zeros, or after `0x`, `0o` or `0b`; a plus sign
may stand in front. -/
def readWord? (cs : List Char) : Option Nat :=
  let unsigned := match cs with
    | '+' :: rest => rest
    | _ => cs
  let value := match unsigned with
    | '0' :: 'x' :: rest => digits? 16 rest
    | '0' :: 'o' :: rest => digits? 8 rest
    | '0' :: 'b' :: rest => digits? 2 rest
    | ['0'] => some 0
    | '0' :: _ => none
    | _ => digits? 10 unsigned
  value.filter (· < Numeral.wordBound)

def word? (document : Document) (node : Node) : Option Nat :=
  (typedText? document "tag:yaml.org,2002:int" node).bind fun text => readWord? text.toList

/-- The fields of a mapping, by name. An empty plain scalar has none. -/
def fields? (document : Document) (node : Node) : Option (List (String × Node)) :=
  match follow? document node with
  | some (.mapping entries) =>
    entries.mapM fun (key, value) => (text? document key).map (·, value)
  | some (.scalar _ .plain "") => some []
  | _ => none

/-- Reads a field, which has a default and must not stand twice. -/
def field? (fields : List (String × Node)) (name : String) (read : Node → Option α) (fallback : α) :
    Option α :=
  match fields.filterMap fun (key, value) => if key = name then some value else none with
  | [] => some fallback
  | [value] => read value
  | _ => none

end Yaml

namespace Config

def Timing.ofNode? (document : Yaml.Document) (node : Yaml.Node) : Option Timing := do
  let fields ← Yaml.fields? document node
  let word := Yaml.word? document
  let d : Timing := {}
  pure {
    commandDelay := ← Yaml.field? fields "command_delay_ms" word d.commandDelay,
    waitTimeout := ← Yaml.field? fields "wait_timeout_ms" word d.waitTimeout,
    pollInterval := ← Yaml.field? fields "poll_interval_ms" word d.pollInterval }

def Highlight.ofNode? (document : Yaml.Document) (node : Yaml.Node) : Option Highlight := do
  let fields ← Yaml.fields? document node
  let d : Highlight := {}
  pure {
    enabled := ← Yaml.field? fields "enabled" (Yaml.bool? document) d.enabled,
    color := ← Yaml.field? fields "color" (Yaml.text? document) d.color,
    duration := ← Yaml.field? fields "duration_ms" (Yaml.word? document) d.duration }

def Keys.ofNode? (document : Yaml.Document) (node : Yaml.Node) : Option Keys := do
  let fields ← Yaml.fields? document node
  let d : Keys := {}
  pure {
    command := ← Yaml.field? fields "command" (Yaml.text? document) d.command,
    escapeToken := ← Yaml.field? fields "escape_token" (Yaml.text? document) d.escapeToken }

def Navigation.ofNode? (document : Yaml.Document) (node : Yaml.Node) : Option Navigation := do
  let fields ← Yaml.fields? document node
  let d : Navigation := {}
  pure {
    continueAfterOpen :=
      ← Yaml.field? fields "continue_after_open" (Yaml.bool? document) d.continueAfterOpen }

def Logging.ofNode? (document : Yaml.Document) (node : Yaml.Node) : Option Logging := do
  let fields ← Yaml.fields? document node
  let d : Logging := {}
  pure {
    maskSensitive := ← Yaml.field? fields "mask_sensitive" (Yaml.bool? document) d.maskSensitive }

def ofNode? (document : Yaml.Document) (node : Yaml.Node) : Option Config := do
  let fields ← Yaml.fields? document node
  pure {
    timing := ← Yaml.field? fields "timing" (Timing.ofNode? document) {},
    highlight := ← Yaml.field? fields "highlight" (Highlight.ofNode? document) {},
    keys := ← Yaml.field? fields "keys" (Keys.ofNode? document) {},
    navigation := ← Yaml.field? fields "navigation" (Navigation.ofNode? document) {},
    logging := ← Yaml.field? fields "logging" (Logging.ofNode? document) {} }

def ofDocument? (document : Yaml.Document) : Option Config :=
  match document.root with
  | some root => ofNode? document root
  | none => some {}

def parse? (text : String) : Option Config :=
  if Text.isAllBlank text then some {} else (Yaml.parse? text).bind ofDocument?

end Config

end BrowserReplay
