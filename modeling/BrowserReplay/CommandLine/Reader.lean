import BrowserReplay.CommandLine.Form
import BrowserReplay.EventFormat

/-!
# Reading command lines

Arguments are read from left to right, first those of the main command and, from a subcommand on,
those of the subcommand. A long option takes its value from behind an equals sign or from the next
argument, unless that is an option itself; short options may stand together, and one that takes a
value takes the rest. No option may be given twice at the same level. A request for the help text or
the version ends the reading at once, so that only mistakes before it count. A value that stands in
an argument of its own is looked at when the next option comes.
-/

namespace BrowserReplay.CommandLine

/-- Why reading ends without settings. -/
inductive Stop where
  | help (text : String)
  | version
  | misuse
  deriving DecidableEq, Repr, Inhabited

abbrev Given := List (Setting × String)

structure Scan where
  given : Given := []
  /-- The latest option whose value is to come, or stands in an argument of its own. -/
  pending : Option (OptionForm × Option String) := none
  /-- Whether no option can come any more. -/
  isTrailing : Bool := false
  deriving DecidableEq, Repr, Inhabited

def isAllowed (setting : Setting) (value : String) : Bool :=
  match setting with
  | .events => (EventFormat.parse value).isOk
  | .config => value ≠ ""
  | _ => true

namespace Scan

def add (scan : Scan) (option : OptionForm) (value : String) : Except Stop Scan :=
  if scan.given.any (·.1 = option.setting) || !isAllowed option.setting value then .error .misuse
  else .ok { scan with given := (option.setting, value) :: scan.given }

def settle (scan : Scan) : Except Stop Scan :=
  match scan.pending with
  | none => .ok scan
  | some (_, none) => .error .misuse
  | some (option, some value) => { scan with pending := none }.add option value

def isAwaiting (scan : Scan) : Bool :=
  match scan.pending with
  | some (_, none) => true
  | _ => false

def addFlag (scan : Scan) (help : String) (option : OptionForm) : Except Stop Scan := do
  let scan ← scan.settle
  match option.setting with
  | .help => .error (.help help)
  | .version => .error .version
  | _ => scan.add option ""

def addValued (scan : Scan) (option : OptionForm) (attached : Option String) : Except Stop Scan := do
  let scan ← scan.settle
  match attached with
  | some value => scan.add option value
  | none => .ok { scan with pending := some (option, none) }

def long (scan : Scan) (command : CommandForm) (help : String) (text : List Char) :
    Except Stop Scan :=
  let name := String.ofList (text.takeWhile (· ≠ '='))
  let attached : Option String :=
    match text.dropWhile (· ≠ '=') with
    | _ :: value => some (String.ofList value)
    | [] => none
  match command.options.find? (·.long = name) with
  | none => .error .misuse
  | some option =>
    if option.value.isSome then scan.addValued option attached
    else if attached.isSome then .error .misuse
    else scan.addFlag help option

def shorts (scan : Scan) (command : CommandForm) (help : String) : List Char → Except Stop Scan
  | [] => .ok scan
  | c :: rest =>
    match command.options.find? (·.short = some c) with
    | none => .error .misuse
    | some option =>
      if option.value.isSome then
        scan.addValued option <|
          match rest with
          | [] => none
          | '=' :: value => some (String.ofList value)
          | value => some (String.ofList value)
      else do shorts (← scan.addFlag help option) command help rest

def argument (scan : Scan) (command : CommandForm) (help : String) (text : String) :
    Except Stop Scan :=
  if scan.isTrailing then .error .misuse
  else
    match text.toList with
    | ['-', '-'] => .ok { scan with isTrailing := true }
    | '-' :: '-' :: rest => scan.long command help rest
    | '-' :: c :: rest => scan.shorts command help (c :: rest)
    | _ =>
      match scan.pending with
      | some (option, none) => .ok { scan with pending := some (option, some text) }
      | _ => .error .misuse

/-- Reads arguments up to one that satisfies a test; that one and those after it are left. -/
def arguments (command : CommandForm) (help : String) (isSubcommand : String → Bool) :
    Scan → List String → Except Stop (Scan × List String)
  | scan, [] => .ok (scan, [])
  | scan, text :: rest =>
    if isSubcommand text && !scan.isAwaiting && !scan.isTrailing then .ok (scan, text :: rest)
    else
      match scan.argument command help text with
      | .error stop => .error stop
      | .ok scan => arguments command help isSubcommand scan rest

def finish (scan : Scan) (command : CommandForm) : Except Stop Given := do
  let scan ← scan.settle
  let isMissing (option : OptionForm) : Bool :=
    option.isRequired && scan.given.all (·.1 ≠ option.setting)
  if command.options.any isMissing then .error .misuse else .ok scan.given

end Scan

namespace ToolForm

def helpFor (tool : ToolForm) : List String → Stop
  | [] => .help tool.help
  | [name] =>
    if name = helpName then .help tool.helpHelp
    else
      match tool.subcommands.lookup name with
      | some command => .help command.help
      | none => .misuse
  | _ => .misuse

/-- Reads the arguments of a tool: the subcommand, if the tool has any, and what is given. What
stands behind the subcommand comes first. -/
def read (tool : ToolForm) (arguments : List String) : Except Stop (Option String × Given) := do
  let names := tool.subcommands.map (·.1) ++ if tool.subcommands.isEmpty then [] else [helpName]
  let (scan, rest) ← Scan.arguments tool.main tool.help names.contains {} arguments
  match rest with
  | [] =>
    if tool.subcommands.isEmpty then return (none, ← scan.finish tool.main) else .error .misuse
  | name :: rest =>
    match tool.subcommands.lookup name with
    | none => .error (tool.helpFor rest)
    | some command =>
      let (inner, _) ← Scan.arguments command command.help (fun _ => false) {} rest
      let given ← inner.finish command
      return (some name, given ++ (← scan.finish tool.main))

end ToolForm

end BrowserReplay.CommandLine
