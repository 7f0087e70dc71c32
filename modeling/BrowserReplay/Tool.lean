import BrowserReplay.CommandLine.Reader
import BrowserReplay.Program

/-!
# Tools

There are three tools: one for any browser, chosen by a subcommand, one for browsers behind a
WebDriver server and one for Chromium. They differ in their options and in what they say.
-/

namespace BrowserReplay

open CommandLine

inductive Tool where
  | general
  | webDriver
  | chromium
  deriving DecidableEq, Repr, Inhabited

inductive Peer where
  | webDriver (url : String)
  | chromium (visible : Bool)
  deriving DecidableEq, Repr, Inhabited

namespace Tool

def name : Tool → String
  | .general => "replay"
  | .webDriver => "replay-e"
  | .chromium => "replay-h"

def ofName? (name : String) : Option Tool :=
  [Tool.general, .webDriver, .chromium].find? (·.name = name)

def version : String := "0.1.0"

/-! ### Options -/

def scriptOption (short : Option Char) : OptionForm :=
  { setting := .script, long := "script", short, value := some "SCRIPT",
    about := "Recorded script (JSON) to replay. Without it an interactive panel opens" }

def configOption (short : Option Char) : OptionForm :=
  { setting := .config, long := "config", short, value := some "CONFIG",
    about := "Config file (defaults to ./replay.yaml, then ~/.replay/config.yaml)" }

def laterOptions : List OptionForm :=
  [{ setting := .startUrl, long := "start-url", value := some "START_URL",
      about := "Page to open before replaying" },
    { setting := .events, long := "events", value := some "EVENTS",
      about := "Run event output: text or json", fallback := some "text" },
    { setting := .verbose, long := "verbose", short := some 'v', about := "Verbose logging" }]

def visibleOption : OptionForm :=
  { setting := .visible, long := "visible",
    about := "Launch browser in visible mode (not headless)" }

def sharedOptions : List OptionForm := scriptOption none :: configOption none :: laterOptions

def closingOptions : List OptionForm := [helpOption, versionOption]

def form : Tool → ToolForm
  | .general =>
    { main :=
        { title := "replay", about := "Replay recorded browser form-filling scripts",
          options := sharedOptions ++ closingOptions },
      subcommands :=
        [("headless",
            { title := "replay headless", about := "Use headless browser (Chromium) via CDP",
              options := visibleOption :: sharedOptions ++ [helpOption] }),
          ("webdriver",
            { title := "replay webdriver", about := "Use any W3C WebDriver server",
              options :=
                { setting := .server, long := "url", value := some "URL", isRequired := true,
                  about := "WebDriver server URL (e.g. http://localhost:4444)" } ::
                sharedOptions ++ [helpOption] })] }
  | .webDriver =>
    { main :=
        { title := "replay-e", about := "Replay recorded browser scripts over WebDriver",
          options :=
            { setting := .server, long := "webdriver-url", short := some 'u',
              value := some "WEBDRIVER_URL", isRequired := true,
              about := "URL of the WebDriver server (e.g. http://localhost:4444)" } ::
            scriptOption (some 's') :: configOption (some 'c') :: laterOptions ++
            closingOptions } }
  | .chromium =>
    { main :=
        { title := "replay-h", about := "Replay recorded browser scripts in Chromium",
          options :=
            scriptOption (some 's') :: visibleOption :: configOption (some 'c') :: laterOptions ++
            closingOptions } }

/-! ### The panel -/

def banner : Tool → List String
  | .general =>
    ["Backend launched. Commands: play <script.json>, pause, resume, stop.",
      "Type 'exit' or 'quit' to close."]
  | .webDriver =>
    ["Session ready. Commands: play <script.json>, pause, resume, stop. " ++
      "Type 'exit' to quit or Ctrl+C to shutdown."]
  | .chromium =>
    ["Chromium ready. Commands: play <script.json>, pause, resume, stop.",
      "Type 'exit' or 'quit' to close."]

def farewell : Tool → String
  | .general => "\nStopping."
  | .webDriver | .chromium => "\nShutdown signal received."

def panel (tool : Tool) : Panel :=
  { banner := tool.banner, heedsInterrupts := true, farewell := some tool.farewell }

/-! ### Calls -/

structure Job where
  peer : Peer
  options : SessionOptions
  events : EventFormat
  deriving DecidableEq, Repr, Inhabited

def peer (tool : Tool) (subcommand : Option String) (given : Given) : Peer :=
  let chromium : Peer := .chromium (given.any (·.1 = .visible))
  let webDriver : Peer := .webDriver ((given.lookup .server).getD "")
  match tool with
  | .webDriver => webDriver
  | .chromium => chromium
  | .general => if subcommand = some "webdriver" then webDriver else chromium

def eventFormat (given : Given) : EventFormat :=
  ((given.lookup .events).bind fun name => (EventFormat.parse name).toOption).getD .text

def job (tool : Tool) (arguments : List String) : Except Stop Job := do
  let (subcommand, given) ← tool.form.read arguments
  return {
    peer := tool.peer subcommand given, events := eventFormat given,
    options :=
      { script := given.lookup .script, settings := given.lookup .config,
        startUrl := given.lookup .startUrl, panel := tool.panel } }

/-- What is printed for a call that ends at once. -/
def answer (tool : Tool) : Stop → String
  | .help text => text
  | .version => tool.name ++ " " ++ version ++ "\n"
  | .misuse => ""

end Tool

/-- How a call ends that ends at once. -/
def CommandLine.Stop.status : Stop → ExitStatus
  | .help _ | .version => .success
  | .misuse => .misuse

end BrowserReplay
