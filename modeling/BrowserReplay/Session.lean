import BrowserReplay.Controller
import BrowserReplay.Loading
import BrowserReplay.Panel.Basic

/-!
# Sessions

A session loads the settings, opens the start page if there is one, and then either replays one
script or hands control to the panel. It is over when that is.
-/

namespace BrowserReplay

inductive SessionError where
  | settings (cause : LoadError)
  | script (cause : LoadError)
  | page (cause : PageError)
  | input (cause : Text.Utf8Error)
  deriving DecidableEq, Repr

def SessionError.message : SessionError → String
  | .settings cause => cause.message Config.loadedAs
  | .script cause => cause.message Script.loadedAs
  | .page cause => cause.message
  | .input cause => cause.message

structure SessionOptions where
  /-- The path of the script to replay once; without it the panel opens. -/
  script : Option String := none
  settings : Option String := none
  /-- Opened before anything runs. -/
  startUrl : Option String := none
  panel : Panel := {}
  deriving DecidableEq, Repr, Inhabited

/-- What a session leaves. There is no result if a run stays paused for ever. -/
structure Session (σ : Type) where
  page : σ
  time : Nat
  trace : Trace
  result : Option (Except SessionError Unit)

namespace Trace

/-- The page after the calls of a trace have been made again. -/
def replay (model : PageModel σ) (page : σ) (trace : Trace) : σ :=
  trace.calls.foldl (fun page entry => (model page entry.2.1).page) page

def upTo (time : Nat) (trace : Trace) : Trace := trace.filter (·.time ≤ time)

/-- Puts what is said during a run into its trace: after what the run does at once, and otherwise
before what it does at the same time. -/
def weave (start : Nat) (run notices : Trace) : Trace :=
  run.merge notices fun entry notice => entry.time ≤ start || entry.time < notice.time

end Trace

namespace Session

def after (earlier : Trace) (session : Session σ) : Session σ :=
  { session with trace := earlier ++ session.trace }

def ending (result : Except SessionError Unit) (page : σ) (time : Nat) (trace : Trace) :
    Session σ :=
  { page, time, trace, result := some result }

def startRemark (script : Script) : LogLine :=
  ⟨.info, "Starting " ++ script.name.getD "unnamed script" ++ " (" ++ toString script.length ++
    " command(s))"⟩

def reportNotice (config : Config) (report : Report) : Notice :=
  .message (report.text config.logging.maskSensitive)

/-! ### Replaying one script -/

def firstInterrupt? (panel : Panel) (inputs : List TimedInput) : Option Nat :=
  ((inputs.filter panel.heeds).find? (·.input = .interrupt)).map (·.time)

def replayScript (model : PageModel σ) (config : Config) (script : Script)
    (interrupt : Option Nat) (page : σ) (now : Nat) : Session σ :=
  let steering : Steering :=
    { upcoming := interrupt.toList.map fun time => { time := max now time, actions := [.cancel] },
      attended := true }
  let done := run model config script steering page now
  let notices : Trace :=
    if (done.steering.catchUp done.time).upcoming.isEmpty then
      interrupt.toList.map fun time =>
        ⟨max now time, .notice (.message "Stopping after the current command...")⟩
    else []
  let trace := ⟨now, .remark (startRemark script)⟩ :: Trace.weave now done.trace notices
  match done.report with
  | some report =>
    .ending (.ok ()) done.page done.time
      (trace ++ [⟨done.time, .notice (reportNotice config report)⟩])
  | none => { page := done.page, time := done.time, trace, result := none }

def replayFile (model : PageModel σ) (config : Config) (files : FileTree) (path : String)
    (interrupt : Option Nat) (page : σ) (now : Nat) : Session σ :=
  match Script.load files path with
  | .error cause => .ending (.error (.script cause)) page now []
  | .ok script => replayScript model config script interrupt page now

/-! ### The panel -/

/-- How a session goes on after a run. -/
inductive Sequel where
  | goesOn
  | ends (result : Except SessionError Unit)
  /-- The run stays paused for ever. -/
  | never

/-- What a run under the panel leaves. -/
structure Played (σ : Type) where
  page : σ
  time : Nat
  trace : Trace
  signal : Signal
  /-- How many inputs have been served meanwhile. -/
  served : Nat
  sequel : Sequel

/-- What is served before a run begins: the inputs that are there already and come first. -/
def early (panel : Panel) (order : List Bool) (signal : Signal) (inputs : List TimedInput)
    (now : Nat) : List Panel.Reaction :=
  panel.respondAll { signal } now order
    ((inputs.takeWhile (·.time ≤ now)).take (order.takeWhile id).length)

/-- A run under the panel, and what is served until it ends. -/
structure Attended (σ : Type) where
  run : Run σ
  given : List Panel.Reaction

def attend (model : PageModel σ) (config : Config) (panel : Panel) (order : List Bool)
    (watch : Panel.Watch) (script : Script) (inputs : List TimedInput) (page : σ) (now : Nat) :
    Attended σ :=
  let reactions := panel.respondAll watch now order inputs
  let done := run model config script
    { upcoming := Panel.turns reactions, attended := true } page now
  let left := (done.steering.catchUp done.time).upcoming.length
  ⟨done, reactions.take (reactions.length - left)⟩

/-- Plays a script while the panel responds to inputs. `signal` is what earlier runs have left. -/
def play (model : PageModel σ) (config : Config) (panel : Panel) (order : List Bool)
    (signal : Signal) (script : Script) (inputs : List TimedInput) (page : σ) (now : Nat) :
    Played σ :=
  let early := early panel order signal inputs now
  let earlyNotices := Panel.notices early
  match Panel.failure? early with
  | some (time, error) =>
    { page, time, trace := earlyNotices, signal, served := early.length,
      sequel := .ends (.error (.input error)) }
  | none =>
    let watch : Panel.Watch := { Panel.lastWatch { signal } early with signal := .proceed }
    let ⟨done, given⟩ := attend model config panel (order.drop early.length) watch script
      (inputs.drop early.length) page now
    let weave (trace : Trace) : Trace :=
      earlyNotices ++ ⟨now, .remark (startRemark script)⟩ ::
        Trace.weave now trace (Panel.notices given)
    let watch := Panel.lastWatch watch given
    let served := early.length + given.length
    match Panel.failure? given, done.report with
    | some (time, error), _ =>
      let trace := done.trace.upTo time
      { page := trace.replay model page, time, trace := weave trace, signal := watch.signal, served,
        sequel := .ends (.error (.input error)) }
    | none, some report =>
      { page := done.page, time := done.time, signal := watch.signal, served,
        trace := weave done.trace ++ [⟨done.time, .notice (reportNotice config report)⟩],
        sequel := if watch.leaving then .ends (.ok ()) else .goesOn }
    | none, none =>
      { page := done.page, time := done.time, trace := weave done.trace, signal := watch.signal,
        served, sequel := .never }

/-- What the panel says about a command between two runs, unless it starts one. -/
def idleNotice (panel : Panel) (files : FileTree) : PanelCommand → Except Notice Script
  | .play path =>
    match path <|> panel.defaultScript with
    | none => .error (.complaint "Usage: play <script.json>")
    | some path =>
      match Script.load files path with
      | .ok script => .ok script
      | .error cause => .error (.complaint ("Error: " ++ cause.message Script.loadedAs))
  | .pause | .resume | .stop => .error (.message "No run in progress.")
  | .unknown line => .error (Panel.unknownCommand line)

def refusedNotice : Notice := .complaint ("Error: " ++ Controller.refusal)

/-- What is left of a start that is refused because a run is in progress. The signal is not reset. -/
def refuse (panel : Panel) (order : List Bool) (signal : Signal) (inputs : List TimedInput)
    (page : σ) (now : Nat) : Played σ :=
  let early := early panel order signal inputs now
  let earlyNotices := Panel.notices early
  let served := early.length
  match Panel.failure? early with
  | some (time, error) =>
    { page, time, trace := earlyNotices, signal, served, sequel := .ends (.error (.input error)) }
  | none =>
    let watch := Panel.lastWatch { signal } early
    { page, time := now, trace := earlyNotices ++ [⟨now, .notice refusedNotice⟩],
      signal := watch.signal, served,
      sequel := if watch.leaving then .ends (.ok ()) else .goesOn }

/-- Has the controller start a script while the panel responds to inputs. The running flag is set
until the run ends. -/
def start (model : PageModel σ) (panel : Panel) (order : List Bool) (controller : Controller σ)
    (script : Script) (inputs : List TimedInput) (page : σ) (now : Nat) : Played σ × Controller σ :=
  let (before, claimed) := controller.claim { time := now }
  if before then
    let played := refuse panel order controller.signal inputs page now
    (played, { claimed with signal := played.signal })
  else
    let played :=
      play model controller.config panel order controller.signal script inputs page now
    let release :=
      match played.sequel with
      | .never => none
      | .goesOn | .ends _ => some { time := played.time }
    (played,
      { claimed with
        signal := played.signal, release, started := controller.started ++ [script] })

def serve (model : PageModel σ) (files : FileTree) (panel : Panel) (order : List (List Bool))
    (controller : Controller σ) (inputs : List TimedInput) (page : σ) (now : Nat) : Session σ :=
  let prompt : Entry := ⟨now, .notice (.prompt panel.prompt)⟩
  match inputs with
  | [] => .ending (.ok ()) page now [prompt]
  | timed :: rest =>
    let now := max now timed.time
    match panel.meaning timed.input with
    | .nothing => (serve model files panel order controller rest page now).after [prompt]
    | .leave => .ending (.ok ()) page now [prompt]
    | .interrupt =>
      .ending (.ok ()) page now (prompt :: panel.farewells.map fun notice => ⟨now, .notice notice⟩)
    | .unreadable error => .ending (.error (.input error)) page now [prompt]
    | .command command =>
      match idleNotice panel files command with
      | .error notice =>
        (serve model files panel order controller rest page now).after
          [prompt, ⟨now, .notice notice⟩]
      | .ok script =>
        let (played, controller) :=
          start model panel (order.headD []) controller script rest page now
        match played.sequel with
        | .ends result => .ending result played.page played.time (prompt :: played.trace)
        | .never =>
          { page := played.page, time := played.time, trace := prompt :: played.trace,
            result := none }
        | .goesOn =>
          (serve model files panel order.tail controller (rest.drop played.served) played.page
            played.time).after (prompt :: played.trace)
termination_by inputs.length
decreasing_by
  all_goals simp only [List.length_cons, List.length_drop]; omega

/-- Opens the panel. The session hands its own page to each run. -/
def openPanel (model : PageModel σ) (config : Config) (files : FileTree) (panel : Panel)
    (inputs : List TimedInput) (page : σ) (now : Nat) : Session σ :=
  (serve model files panel panel.order { config, pages := [] } (inputs.filter panel.heeds) page
      now).after
    (panel.banner.map fun line => ⟨now, .notice (.message line)⟩)

/-! ### The whole session -/

def openStart (model : PageModel σ) : Option String → Visit σ (Except PageError Unit)
  | none => pure (.ok ())
  | some url => do
    match ← Visit.call model (.navigate url) with
    | .error error => pure (.error error)
    | .ok arrival =>
      Visit.remark .info ("Opened " ++ arrival.url ++ " (" ++ arrival.title ++ ")")
      pure (.ok ())

def hold (model : PageModel σ) (storage : Storage) (options : SessionOptions)
    (inputs : List TimedInput) (page : σ) (now : Nat) : Session σ :=
  match Config.load storage options.settings with
  | .error cause => .ending (.error (.settings cause)) page now []
  | .ok config =>
    let opened := openStart model options.startUrl page now
    match opened.result with
    | .error cause => .ending (.error (.page cause)) opened.page opened.time opened.trace
    | .ok () =>
      (match options.script with
        | some path =>
          replayFile model config storage.files path (firstInterrupt? options.panel inputs)
            opened.page opened.time
        | none =>
          openPanel model config storage.files options.panel inputs opened.page
            opened.time).after opened.trace

end Session

end BrowserReplay
