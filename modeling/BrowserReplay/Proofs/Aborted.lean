import BrowserReplay.Program
import BrowserReplay.Proofs.Succession

/-!
# Failures before a run

Before a run begins, the settings are loaded, the start page is opened and the script is loaded. When
one of these fails, a session is over, and all that can be seen of it is the navigation to the start
page, if it came to that (`Session.Aborted`). When they succeed, the replay of a script ends with the
report of a run and never fails (`failures_come_before_the_run`).
-/

namespace BrowserReplay

/-! ### Loading -/

/-- Why a text is not loaded: it cannot be read, or no sense can be made of it. -/
def LoadError.Explains (parse? : String → Option α) (text : Except FileError String) :
    LoadError → Prop
  | .unreadable cause => text = .error cause
  | .malformed => ∃ content, text = .ok content ∧ parse? content = none

theorem loadText_eq_error_iff {parse? : String → Option α} {text : Except FileError String}
    {cause : LoadError} : loadText parse? text = .error cause ↔ cause.Explains parse? text := by
  cases text with
  | error unread => cases cause <;> simp [loadText, LoadError.Explains, eq_comm]
  | ok content =>
    cases hparse : parse? content <;> cases cause <;> simp [loadText, LoadError.Explains, hparse]

theorem exists_of_not_explained {parse? : String → Option α} {text : Except FileError String}
    (h : ∀ cause : LoadError, ¬cause.Explains parse? text) :
    ∃ value, loadText parse? text = .ok value := by
  cases hload : loadText parse? text with
  | error cause => exact absurd (loadText_eq_error_iff.1 hload) (h cause)
  | ok value => exact ⟨value, rfl⟩

/-- The settings as they are written at the first place that has some. -/
def Config.text? (storage : Storage) : Option String → Option (Except FileError String)
  | some path => some (storage.files.readText path)
  | none =>
    if storage.files.holds localPath then some (storage.files.readText localPath)
    else storage.ownSettings.map FileTree.asText

theorem Config.load_eq (storage : Storage) (settings : Option String) :
    load storage settings = ((text? storage settings).map (loadText parse?)).getD (.ok {}) := by
  cases settings with
  | some path => rfl
  | none =>
    rw [load, text?]
    split
    · rfl
    · cases storage.ownSettings <;> rfl

theorem Config.load_of_explained {storage : Storage} {settings : Option String}
    {text : Except FileError String} (htext : text ∈ text? storage settings) {cause : LoadError}
    (h : cause.Explains parse? text) : load storage settings = .error cause := by
  rw [load_eq, Option.mem_def.1 htext]
  exact loadText_eq_error_iff.2 h

theorem Config.exists_load {storage : Storage} {settings : Option String}
    (h : ∀ text ∈ text? storage settings, ∀ cause : LoadError, ¬cause.Explains parse? text) :
    ∃ config, load storage settings = .ok config := by
  rw [load_eq]
  cases htext : text? storage settings with
  | none => exact ⟨{}, rfl⟩
  | some text => exact exists_of_not_explained (h text htext)

/-! ### Before a run -/

def Session.startCalls (model : PageModel σ) (startUrl : Option String) (page : σ) (now : Nat) :
    List (Nat × CallRecord) :=
  startUrl.toList.map fun url => (now, ⟨.navigate url, (model page (.navigate url)).reply⟩)

/-- A session before its run: nothing can be seen but calls to the page. -/
structure Session.Preliminary (model : PageModel σ) (page : σ) (calls : List (Nat × CallRecord))
    (trace : Trace) (later : σ) : Prop where
  calls : trace.calls = calls
  events : trace.events = []
  notices : trace.notices = []
  unstarted : ∀ script, startRemark script ∉ trace.log
  page : later = trace.replay model page

/-- A session that is over before a run begins. Nothing is printed either. -/
structure Session.Aborted (model : PageModel σ) (page : σ) (calls : List (Nat × CallRecord))
    (error : SessionError) (session : Session σ) : Prop where
  preliminary : Preliminary model page calls session.trace session.page
  printed : ∀ format, session.trace.printed format = ""
  result : session.result = some (.error error)

/-- A replay that ends with the report of a run, whatever is reported. Apart from what is said to the
user, all that happens after the start page has been opened is the run. -/
structure Session.Reported (model : PageModel σ) (config : Config) (script : Script)
    (opened : Visited σ (Except PageError Unit)) (session : Session σ) : Prop where
  reported : ∃ steering report,
    let held := run model config script steering opened.page opened.time
    held.report = some report ∧ session.page = held.page ∧ session.time = held.time ∧
      session.trace.unsaid =
        opened.trace ++ ⟨opened.time, .remark (startRemark script)⟩ :: held.trace ∧
      session.trace.getLast? = some ⟨held.time, .notice (reportNotice config report)⟩
  result : session.result = some (.ok ())
  /-- With pauses between its looks, no wait of the run was cut short. -/
  waits : 0 < config.timing.pollInterval → ∀ (raw : String) (page : σ) (start budget : Nat),
    Wait.looks config.timing.waitOptions ≤ budget →
    waitFor model config.timing.waitOptions raw page start =
      Wait.poll model config.timing.waitOptions raw start budget page start

theorem Trace.printedFrom_eq_empty (format : EventFormat) {trace : Trace}
    (hevents : trace.events = []) (hnotices : trace.notices = []) (time : Nat) :
    trace.printedFrom format time "" = "" := by
  induction trace generalizing time with
  | nil => rfl
  | cons entry rest ih =>
    obtain ⟨later, what⟩ := entry
    cases what with
    | event event => cases hevents
    | notice notice => cases hnotices
    | call call reply => simp [printedFrom, ih hevents hnotices later]
    | remark line => simp [printedFrom, ih hevents hnotices later]

namespace Session

variable {model : PageModel σ}

theorem Preliminary.aborted {page later : σ} {calls : List (Nat × CallRecord)} {trace : Trace}
    (h : Preliminary model page calls trace later) (error : SessionError) (time : Nat) :
    Aborted model page calls error (ending (.error error) later time trace) :=
  ⟨h, fun format => trace.printedFrom_eq_empty format h.events h.notices 0, rfl⟩

theorem preliminary_nil (page : σ) : Preliminary model page [] [] page :=
  ⟨rfl, rfl, rfl, fun _ => nofun, rfl⟩

theorem openStart_of_error {url : String} {page : σ} {now : Nat} {cause : PageError}
    (h : (model page (.navigate url)).reply = .error cause) :
    openStart model (some url) page now =
      ⟨(model page (.navigate url)).page, now + (model page (.navigate url)).elapsed,
        [⟨now, .call (.navigate url) (.error cause)⟩], .error cause⟩ := by
  rw [openStart, Visit.bind_apply]
  dsimp only [Visit.call]
  rw [h]
  rfl

theorem openStart_of_ok {url : String} {page : σ} {now : Nat} {arrival : Arrival}
    (h : (model page (.navigate url)).reply = .ok arrival) :
    openStart model (some url) page now =
      ⟨(model page (.navigate url)).page, now + (model page (.navigate url)).elapsed,
        [⟨now, .call (.navigate url) (.ok arrival)⟩,
          ⟨now + (model page (.navigate url)).elapsed,
            .remark ⟨.info, "Opened " ++ arrival.url ++ " (" ++ arrival.title ++ ")"⟩⟩],
        .ok ()⟩ := by
  rw [openStart, Visit.bind_apply]
  dsimp only [Visit.call]
  rw [h]
  rfl

variable (model) in
theorem openStart_preliminary (startUrl : Option String) (page : σ) (now : Nat) :
    let opened := openStart model startUrl page now
    Preliminary model page (startCalls model startUrl page now) opened.trace opened.page := by
  cases startUrl with
  | none => exact preliminary_nil page
  | some url =>
    rw [startCalls, Option.toList_some, List.map_singleton]
    cases hreply : (model page (.navigate url)).reply with
    | error cause =>
      rw [openStart_of_error hreply]
      exact ⟨rfl, rfl, rfl, fun _ => nofun, rfl⟩
    | ok arrival =>
      rw [openStart_of_ok hreply]
      refine ⟨rfl, rfl, rfl, fun script hstart => ?_, rfl⟩
      -- What is remarked on the start page begins with another letter.
      have hletter := congrArg (·.message.toList.head?) (List.mem_singleton.1 hstart)
      simp [startRemark] at hletter

theorem openStart_result_of_ok {startUrl : Option String} {page : σ}
    (h : ∀ url ∈ startUrl, ∃ arrival, (model page (.navigate url)).reply = .ok arrival)
    (now : Nat) : (openStart model startUrl page now).result = .ok () := by
  cases startUrl with
  | none => rfl
  | some url =>
    obtain ⟨arrival, harrival⟩ := h url rfl
    rw [openStart_of_ok harrival]

def replaySteering (interrupt : Option Nat) (now : Nat) : Steering where
  upcoming := interrupt.toList.map fun time => { time := max now time, actions := [.cancel] }
  attended := true

theorem exists_report (config : Config) (script : Script) (interrupt : Option Nat) (page : σ)
    (now : Nat) : ∃ report,
      (run model config script (replaySteering interrupt now) page now).report = some report := by
  -- Only a run that its turns leave paused has no report, and here the only turn cancels it.
  refine Option.ne_none_iff_exists'.1 fun hnone => ?_
  obtain ⟨-, hpause⟩ := Boundary.run_stuck model config
    (.first config script (replaySteering interrupt now) page now) hnone
  cases interrupt with
  | none => cases hpause
  | some time => cases hpause

theorem replayScript_of_report {config : Config} {script : Script} {interrupt : Option Nat}
    {page : σ} {now : Nat} {held : Run σ} {report : Report}
    (hheld : run model config script (replaySteering interrupt now) page now = held)
    (hreport : held.report = some report) :
    ∃ notices : Trace, notices.unsaid = [] ∧
      replayScript model config script interrupt page now =
        ending (.ok ()) held.page held.time
          (⟨now, .remark (startRemark script)⟩ :: Trace.weave now held.trace notices ++
            [⟨held.time, .notice (reportNotice config report)⟩]) := by
  rw [replaySteering] at hheld
  simp only [replayScript, hheld, hreport]
  refine ⟨_, ?_, rfl⟩
  -- The interrupt is only acknowledged if the run has not ended before it.
  split
  · cases interrupt <;> rfl
  · rfl

theorem replayScript_reported (config : Config) (script : Script) (interrupt : Option Nat)
    {opened : Visited σ (Except PageError Unit)} (hopened : opened.trace.notices = []) :
    Reported model config script opened
      ((replayScript model config script interrupt opened.page opened.time).after
        opened.trace) := by
  let steering := replaySteering interrupt opened.time
  let held := run model config script steering opened.page opened.time
  obtain ⟨report, hreport⟩ : ∃ report, held.report = some report :=
    exists_report config script interrupt opened.page opened.time
  have hsilent : held.trace.notices = [] :=
    run_notices model config script steering opened.page opened.time
  obtain ⟨notices, hnotices, hreplay⟩ := replayScript_of_report rfl hreport
  rw [hreplay]
  refine ⟨⟨steering, report, hreport, rfl, rfl, ?_, ?_⟩, rfl, ?_⟩
  · have hrest (last : Notice) : Trace.unsaid (Trace.weave opened.time held.trace notices ++
        [⟨held.time, .notice last⟩]) = held.trace := by
      rw [Trace.unsaid_append, Trace.unsaid_weave hsilent hnotices]
      exact List.append_nil held.trace
    rw [after, ending]
    dsimp only
    rw [Trace.unsaid_append, Trace.unsaid_of_silent hopened]
    exact congrArg (opened.trace ++ _ :: ·) (hrest _)
  · rw [after, ending, ← List.append_assoc, List.getLast?_concat]
  · exact fun hinterval raw page start budget hbudget =>
      waitFor_eq_poll model hinterval hbudget raw page start

section

variable {storage : Storage} {options : SessionOptions} {inputs : List TimedInput} {page : σ}
  {now : Nat} {config : Config}

theorem hold_of_unopened {cause : PageError}
    (hconfig : Config.load storage options.settings = .ok config)
    (hopened : (openStart model options.startUrl page now).result = .error cause) :
    let opened := openStart model options.startUrl page now
    hold model storage options inputs page now =
      ending (.error (.page cause)) opened.page opened.time opened.trace := by
  simp only [hold, hconfig, hopened]

theorem hold_of_opened {path : String}
    (hconfig : Config.load storage options.settings = .ok config)
    (hopened : (openStart model options.startUrl page now).result = .ok ())
    (hpath : path ∈ options.script) :
    let opened := openStart model options.startUrl page now
    hold model storage options inputs page now =
      (replayFile model config storage.files path (firstInterrupt? options.panel inputs)
        opened.page opened.time).after opened.trace := by
  simp only [hold, hconfig, hopened, Option.mem_def.1 hpath]

end

end Session

/-- A session that fails before its run has said and printed nothing, told no event and started no
script; its page was asked for the start page at most. A session that replays a script does not fail
later: once the settings are loaded, the start page is open and the script is loaded, it ends well,
whatever the run reports. -/
theorem failures_come_before_the_run (model : PageModel σ) (storage : Storage)
    (options : SessionOptions) (inputs : List TimedInput) (page : σ) (now : Nat) :
    let session := Session.hold model storage options inputs page now
    let settings := Config.text? storage options.settings
    let opened := Session.openStart model options.startUrl page now
    let calls := Session.startCalls model options.startUrl page now
    (∀ text ∈ settings, ∀ cause : LoadError, cause.Explains Config.parse? text →
      session.Aborted model page [] (.settings cause)) ∧
    ((∀ text ∈ settings, ∀ cause : LoadError, ¬cause.Explains Config.parse? text) →
      (∀ url ∈ options.startUrl, ∀ cause, (model page (.navigate url)).reply = .error cause →
        session.Aborted model page calls (.page cause)) ∧
      ((∀ url ∈ options.startUrl, ∃ arrival, (model page (.navigate url)).reply = .ok arrival) →
        ∀ path ∈ options.script,
          let text := storage.files.readText path
          (∀ cause : LoadError, cause.Explains Script.parse? text →
            session.Aborted model page calls (.script cause)) ∧
          ((∀ cause : LoadError, ¬cause.Explains Script.parse? text) →
            ∃ config script, Config.load storage options.settings = .ok config ∧
              Script.load storage.files path = .ok script ∧
              session.Reported model config script opened))) := by
  intro session settings opened calls
  have hearly := Session.openStart_preliminary model options.startUrl page now
  refine ⟨fun text htext cause hcause => ?_, fun hsettings => ?_⟩
  · have hsession : session = .ending (.error (.settings cause)) page now [] := by
      simp only [session, Session.hold, Config.load_of_explained htext hcause]
    rw [hsession]
    exact (Session.preliminary_nil page).aborted _ now
  obtain ⟨config, hconfig⟩ := Config.exists_load hsettings
  refine ⟨fun url hurl cause hcause => ?_, fun harrived path hpath => ?_⟩
  · have hopened : opened.result = .error cause := by
      simp only [opened, Option.mem_def.1 hurl, Session.openStart_of_error hcause]
    have hsession : session = _ := Session.hold_of_unopened hconfig hopened
    rw [hsession]
    exact hearly.aborted _ opened.time
  · have hopened : opened.result = .ok () := Session.openStart_result_of_ok harrived now
    have hsession : session = _ := Session.hold_of_opened hconfig hopened hpath
    rw [hsession, Session.replayFile]
    refine ⟨fun cause hcause => ?_, fun hread => ?_⟩
    · have hscript : Script.load storage.files path = .error cause :=
        loadText_eq_error_iff.2 hcause
      rw [hscript]
      have hended := hearly.aborted (.script cause) opened.time
      rw [← List.append_nil opened.trace] at hended
      exact hended
    · obtain ⟨script, hscript⟩ : ∃ script, Script.load storage.files path = .ok script :=
        exists_of_not_explained hread
      rw [hscript]
      exact ⟨config, script, hconfig, rfl,
        Session.replayScript_reported config script _ hearly.notices⟩

end BrowserReplay
