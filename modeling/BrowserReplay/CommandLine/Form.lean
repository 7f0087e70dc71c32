/-!
# Forms of command lines

A command has options, and a tool may have subcommands with options of their own. The help text of a
command is laid out from its form: what it does, how it is called, and its subcommands and options
in two columns.
-/

namespace BrowserReplay.CommandLine

inductive Setting where
  | script
  | config
  | startUrl
  | events
  | verbose
  | visible
  | server
  | help
  | version
  deriving DecidableEq, Repr, Inhabited

structure OptionForm where
  setting : Setting
  long : String
  short : Option Char := none
  value : Option String := none
  about : String
  fallback : Option String := none
  isRequired : Bool := false
  deriving DecidableEq, Repr, Inhabited

structure CommandForm where
  title : String
  about : String
  options : List OptionForm
  deriving DecidableEq, Repr, Inhabited

/-- A tool: its main command and its subcommands by name. If there are any, one must be given. -/
structure ToolForm where
  main : CommandForm
  subcommands : List (String × CommandForm) := []
  deriving DecidableEq, Repr, Inhabited

/-! ### Help -/

/-- Two columns, the first as wide as its widest entry. -/
def columns (rows : List (String × String)) : String :=
  let width := rows.foldl (fun width row => max width row.1.length) 0
  String.join <| rows.map fun (left, right) =>
    left ++ String.ofList (List.replicate (width + 2 - left.length) ' ') ++ right ++ "\n"

def OptionForm.call (option : OptionForm) : String :=
  "--" ++ option.long ++ ((option.value.map fun name => " <" ++ name ++ ">").getD "")

def OptionForm.row (option : OptionForm) : String × String :=
  ((match option.short with
      | some short => "  -" ++ short.toString ++ ", "
      | none => "      ") ++ option.call,
    option.about ++ ((option.fallback.map fun value => " [default: " ++ value ++ "]").getD ""))

def CommandForm.usage (command : CommandForm) (hasSubcommands : Bool) : String :=
  let required := command.options.filter (·.isRequired)
  "Usage: " ++ command.title ++ " [OPTIONS]" ++
    String.join (required.map fun option => " " ++ option.call) ++
    (if hasSubcommands then " <COMMAND>" else "")

def CommandForm.optionRows (command : CommandForm) : String :=
  "Options:\n" ++ columns (command.options.map OptionForm.row)

def CommandForm.help (command : CommandForm) : String :=
  command.about ++ "\n\n" ++ command.usage false ++ "\n\n" ++ command.optionRows

def helpName : String := "help"

def helpAbout : String := "Print this message or the help of the given subcommand(s)"

def ToolForm.helpHelp (tool : ToolForm) : String :=
  helpAbout ++ "\n\nUsage: " ++ tool.main.title ++ " help [COMMAND]...\n\nArguments:\n" ++
    columns [("  [COMMAND]...", "Print help for the subcommand(s)")]

def ToolForm.help (tool : ToolForm) : String :=
  if tool.subcommands.isEmpty then tool.main.help
  else
    let rows := tool.subcommands.map fun (name, command) => ("  " ++ name, command.about)
    tool.main.about ++ "\n\n" ++ tool.main.usage true ++ "\n\nCommands:\n" ++
      columns (rows ++ [("  " ++ helpName, helpAbout)]) ++ "\n" ++ tool.main.optionRows

/-! ### Common options -/

def helpOption : OptionForm :=
  { setting := .help, long := "help", short := some 'h', about := "Print help" }

def versionOption : OptionForm :=
  { setting := .version, long := "version", short := some 'V', about := "Print version" }

end BrowserReplay.CommandLine
