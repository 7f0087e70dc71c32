import BrowserReplay.Proofs.Listening
import BrowserReplay.Proofs.Composed
import BrowserReplay.Proofs.Waiting
import BrowserReplay.Rehearsal.Page

/-!
# The runs of a session

A panel session holds its runs one after another. Each begins on the page and not before the time
that the one before has left, and each is reported before the session goes on; only when a line
cannot be read is a run given up. When the input has ended, the session comes to an end
(`panel_sessions_end`).
-/

namespace BrowserReplay

namespace Boundary

/-- When a run stays paused for ever, all turns have passed and have left the signal paused. -/
theorem run_stuck (model : PageModel σ) (config : Config) (boundary : Boundary σ)
    (h : (boundary.run model config).report = none) :
    (boundary.run model config).steering.upcoming = [] ∧
      boundary.steering.signal.afterTurns boundary.steering.upcoming = .pause := by
  obtain ⟨trace, last, past, stopped, hreaches, hpasses, hrun, hstops⟩ :=
    exists_stop model config boundary
  rw [hrun] at h ⊢
  cases hstops with
  | completed => cases h
  | cancelled => cases h
  | left => cases h
  | @stuck _ _ progress steering after _ time _ _ hlook =>
    have hheeds := Run.checkpoint_heeds steering progress.index time
    rw [hlook] at hheeds
    obtain ⟨⟨more, hmore, -⟩, -, hdecides⟩ := hheeds
    have hall := hpasses.trans hmore
    have hupcoming := hall.upcoming
    have hsignal := hall.signal
    dsimp only at hupcoming hsignal hdecides
    show after.upcoming = [] ∧ _
    generalize after.signal = signal at hsignal hdecides
    generalize after.upcoming = upcoming at hupcoming hdecides
    cases hdecides with
    | never => exact ⟨rfl, by rw [hupcoming, List.append_nil, ← hsignal]⟩

end Boundary

namespace Trace

def unsaid (trace : Trace) : Trace := trace.filter (·.notice?.isNone)

@[simp] theorem unsaid_append (a b : Trace) :
    Trace.unsaid (a ++ b) = Trace.unsaid a ++ Trace.unsaid b :=
  List.filter_append a b

theorem unsaid_of_silent {trace : Trace} (h : trace.notices = []) : trace.unsaid = trace := by
  rw [unsaid, List.filter_eq_self]
  intro entry hentry
  rw [List.filterMap_eq_nil_iff.1 h entry hentry]
  rfl

theorem unsaid_notices (reactions : List Panel.Reaction) :
    Trace.unsaid (Panel.notices reactions) = [] := by
  rw [unsaid, List.filter_eq_nil_iff]
  intro entry hentry
  obtain ⟨reaction, -, hentry⟩ := List.mem_flatMap.1 hentry
  obtain ⟨notice, -, rfl⟩ := List.mem_map.1 hentry
  nofun

theorem unsaid_merge {run notices : Trace} (h : notices.unsaid = []) (le : Entry → Entry → Bool) :
    unsaid (run.merge notices le) = run.unsaid := by
  rw [unsaid, List.filter_eq_nil_iff] at h
  rw [unsaid, unsaid, ← List.filterMap_eq_filter]
  refine filterMap_merge (fun notice hnotice => ?_) le
  exact if_neg (h notice hnotice)

theorem unsaid_weave {run notices : Trace} (hrun : run.notices = []) (h : notices.unsaid = [])
    (start : Nat) : unsaid (weave start run notices) = run := by
  rw [weave, unsaid_merge h, unsaid_of_silent hrun]

/-- Around a run, and during it, the panel does nothing but say something, and remark at the start
that the run starts. -/
theorem unsaid_said (lost given : List Panel.Reaction) (line : LogLine) {run : Trace} (now : Nat)
    (hrun : run.notices = []) :
    Trace.unsaid (Panel.notices lost ++ ⟨now, .remark line⟩ ::
      weave now run (Panel.notices given)) = ⟨now, .remark line⟩ :: run := by
  rw [unsaid_append, unsaid_notices, List.nil_append]
  exact congrArg (_ :: ·) (unsaid_weave hrun (unsaid_notices given) now)

/-- All that is said around a run, and during it, is said by the panel. -/
theorem mem_notices_said {lost given : List Panel.Reaction} {line : LogLine} {run : Trace}
    {now : Nat} (hrun : run.notices = []) {notice : Notice}
    (h : notice ∈ Trace.notices (Panel.notices lost ++ ⟨now, .remark line⟩ ::
      weave now run (Panel.notices given))) :
    notice ∈ Trace.notices (Panel.notices lost) ∨
      notice ∈ Trace.notices (Panel.notices given) := by
  rw [notices_append] at h
  refine (List.mem_append.1 h).imp_right fun hlater => ?_
  obtain ⟨entry, hentry, hnotice⟩ := List.mem_filterMap.1 hlater
  rcases List.mem_cons.1 hentry with rfl | hwoven
  · cases hnotice
  · rcases List.mem_merge.1 hwoven with hran | hgiven
    · rw [List.filterMap_eq_nil_iff.1 hrun entry hran] at hnotice
      cases hnotice
    · exact List.mem_filterMap.2 ⟨entry, hgiven, hnotice⟩

theorem upTo_notices {trace : Trace} (h : trace.notices = []) (time : Nat) :
    (trace.upTo time).notices = [] := by
  have hsub : (upTo time trace).notices.Sublist trace.notices := List.filter_sublist.filterMap _
  rw [h] at hsub
  exact List.sublist_nil.1 hsub

end Trace

/-! ### What is never said -/

/-- A complaint that begins otherwise is not the one about a refused start. -/
theorem Session.complaint_ne_refused (first rest : String)
    (h : ¬ first.toList <+: ("Error: " ++ Controller.refusal).toList) :
    Notice.complaint (first ++ rest) ≠ refusedNotice := by
  intro hrefused
  apply h
  rw [← Notice.complaint.inj hrefused, String.toList_append]
  exact List.prefix_append _ _

namespace Panel

variable {panel : Panel} {watch : Watch}

/-- During a run the panel never says that a start is refused. -/
theorem refused_notMem_respond (panel : Panel) (watch : Watch) (meaning : Meaning) :
    Session.refusedNotice ∉ (panel.respond watch meaning).notices := by
  have hresponds := panel.responds_respond watch meaning
  generalize panel.respond watch meaning = response at hresponds ⊢
  cases hresponds with
  | refused path =>
    show Session.refusedNotice ∉ [Notice.complaint "A run is already in progress."]
    decide
  | unknown line =>
    have hunknown : unknownCommand line ≠ Session.refusedNotice :=
      Session.complaint_ne_refused _ line (by decide)
    exact mt List.mem_singleton.1 hunknown.symm
  | _ => simp [Watch.act, farewells, Session.refusedNotice]

theorem Follows.refused_notMem {reactions : List Reaction} (h : panel.Follows watch reactions) :
    Session.refusedNotice ∉ Trace.notices (notices reactions) := by
  induction reactions generalizing watch with
  | nil => exact List.not_mem_nil
  | cons reaction rest ih =>
    obtain ⟨hresponse, hrest⟩ := h
    have hsaid : Trace.notices (notices (reaction :: rest)) =
        reaction.response.notices ++ Trace.notices (notices rest) := by
      rw [notices, List.flatMap_cons, Trace.notices_append, Trace.notices, List.filterMap_map]
      congr 1
      exact List.filterMap_some
    rw [hsaid, List.mem_append, not_or, hresponse]
    exact ⟨panel.refused_notMem_respond watch _, ih hrest⟩

end Panel

namespace Session

theorem idleNotice_ne_refused {panel : Panel} {files : FileTree} {command : PanelCommand}
    {notice : Notice} (h : idleNotice panel files command = .error notice) :
    notice ≠ refusedNotice := by
  cases command with
  | play path =>
    rw [idleNotice] at h
    split at h
    next => cases h; decide
    next path _ =>
      cases hload : Script.load files path with
      | ok script =>
        rw [hload] at h
        cases h
      | error cause =>
        rw [hload] at h
        cases h
        -- Both complaints begin alike; only what comes next tells them apart.
        cases cause with
        | unreadable cause =>
          let first := "Failed to read " ++ Script.loadedAs ++ ": "
          have hassoc : "Error: " ++ first ++ cause.message =
              "Error: " ++ (first ++ cause.message) := String.append_assoc
          exact hassoc ▸ complaint_ne_refused _ cause.message (by decide)
        | malformed => decide
  | unknown line =>
    cases h
    exact complaint_ne_refused _ line (by decide)
  | _ =>
    cases h
    nofun

/-- Something is said, but not that a start is refused. -/
def Quiet (trace : Trace) : Prop :=
  ∀ entry ∈ trace, ∃ notice, entry.what = .notice notice ∧ notice ≠ refusedNotice

theorem Quiet.unsaid {trace : Trace} (h : Quiet trace) : trace.unsaid = [] := by
  refine List.filter_eq_nil_iff.2 fun entry hentry => ?_
  obtain ⟨notice, hnotice, -⟩ := h entry hentry
  rw [Entry.notice?, hnotice]
  nofun

theorem Quiet.unrefused {trace : Trace} (h : Quiet trace) : refusedNotice ∉ trace.notices := by
  intro hmem
  obtain ⟨entry, hentry, hsaid⟩ := List.mem_filterMap.1 hmem
  obtain ⟨notice, hnotice, hne⟩ := h entry hentry
  rw [Entry.notice?, hnotice] at hsaid
  exact hne (Option.some.inj hsaid)

theorem quiet_nil : Quiet [] := nofun

theorem quiet_prompt (panel : Panel) (now : Nat) :
    Quiet [⟨now, .notice (.prompt panel.prompt)⟩] :=
  List.forall_mem_singleton.2 ⟨_, rfl, nofun⟩

theorem quiet_messages (now : Nat) (texts : List String) :
    Quiet (texts.map fun text => ⟨now, .notice (.message text)⟩) :=
  List.forall_mem_map.2 fun _ _ => ⟨_, rfl, nofun⟩

/-! ### Sessions that come to an end -/

variable (model : PageModel σ) (config : Config)

/-- How a session goes from a page and a time on: its runs follow one after another, and besides
them it only says something and remarks that a run starts. -/
inductive Succession : σ → Nat → Trace → Except SessionError Unit → σ → Nat → Prop
  /-- No run is held any more. -/
  | ended {page : σ} {now later : Nat} {quiet : Trace} (hquiet : quiet.unsaid = [])
      (hlater : now ≤ later) (result : Except SessionError Unit) :
      Succession page now quiet result page later
  /-- A run is held to its end, and reported before anything else is done. -/
  | ran {page page' : σ} {now start later : Nat} {during rest : Trace} {script : Script}
      {steering : Steering} {held : Run σ} {report : Report} {result : Except SessionError Unit}
      (hstart : now ≤ start) (hheld : run model config script steering page start = held)
      (hreport : held.report = some report)
      (hduring : during.unsaid = ⟨start, .remark (startRemark script)⟩ :: held.trace)
      (h : Succession held.page held.time rest result page' later) :
      Succession page now
        (during ++ ⟨held.time, .notice (reportNotice config report)⟩ :: rest) result page' later
  /-- A line that cannot be read ends the session during a run. -/
  | gaveUp {page : σ} {now start later : Nat} {during : Trace} {script : Script}
      {steering : Steering} {held : Run σ} {error : Text.Utf8Error} (hstart : now ≤ start)
      (hheld : run model config script steering page start = held) (hlater : start ≤ later)
      (hduring : during.unsaid =
        ⟨start, .remark (startRemark script)⟩ :: held.trace.upTo later) :
      Succession page now during (.error (.input error))
        ((held.trace.upTo later).replay model page) later

variable {model config}

/-- Something may be said a while before the next run. -/
theorem Succession.prepend {page page' : σ} {earlier now later : Nat} {quiet trace : Trace}
    {result : Except SessionError Unit} (hquiet : quiet.unsaid = []) (hle : earlier ≤ now)
    (h : Succession model config page now trace result page' later) :
    Succession model config page earlier (quiet ++ trace) result page' later := by
  have hunsaid (more : Trace) : Trace.unsaid (quiet ++ more) = more.unsaid := by
    rw [Trace.unsaid_append, hquiet, List.nil_append]
  cases h with
  | ended hnone hlater => exact .ended ((hunsaid _).trans hnone) (Nat.le_trans hle hlater) result
  | ran hstart hheld hreport hduring h =>
    rw [← List.append_assoc]
    exact .ran (Nat.le_trans hle hstart) hheld hreport ((hunsaid _).trans hduring) h
  | gaveUp hstart hheld hlater hduring =>
    exact .gaveUp (Nat.le_trans hle hstart) hheld hlater ((hunsaid _).trans hduring)

/-- A session comes to an end, with its runs one after another and no start refused. -/
structure Concludes (model : PageModel σ) (config : Config) (page : σ) (now : Nat)
    (session : Session σ) : Prop where
  ends : ∃ result, session.result = some result ∧
    Succession model config page now session.trace result session.page session.time
  unrefused : refusedNotice ∉ session.trace.notices

namespace Concludes

variable {page : σ} {earlier now later : Nat} {quiet : Trace} {session : Session σ}

theorem ending (hquiet : Quiet quiet) (hle : now ≤ later) (result : Except SessionError Unit) :
    Concludes model config page now (.ending result page later quiet) where
  ends := ⟨result, rfl, .ended hquiet.unsaid hle result⟩
  unrefused := hquiet.unrefused

theorem unrefused_after (h : Concludes model config page now session) {trace : Trace}
    (hsaid : refusedNotice ∉ trace.notices) :
    refusedNotice ∉ (session.after trace).trace.notices := by
  show refusedNotice ∉ Trace.notices (trace ++ session.trace)
  rw [Trace.notices_append, List.mem_append, not_or]
  exact ⟨hsaid, h.unrefused⟩

theorem after (h : Concludes model config page now session) (hquiet : Quiet quiet)
    (hle : earlier ≤ now) : Concludes model config page earlier (session.after quiet) where
  ends := by
    obtain ⟨result, hresult, hsuccession⟩ := h.ends
    exact ⟨result, hresult, hsuccession.prepend hquiet.unsaid hle⟩
  unrefused := h.unrefused_after hquiet.unrefused

theorem ran {script : Script} {steering : Steering} {held : Run σ} {report : Report}
    {during : Trace} (h : Concludes model config held.page held.time session)
    (hheld : run model config script steering page now = held) (hreport : held.report = some report)
    (hduring : during.unsaid = ⟨now, .remark (startRemark script)⟩ :: held.trace)
    (hsaid : refusedNotice ∉ during.notices) :
    Concludes model config page now
      (session.after (during ++ [⟨held.time, .notice (reportNotice config report)⟩])) where
  ends := by
    obtain ⟨result, hresult, hsuccession⟩ := h.ends
    refine ⟨result, hresult, ?_⟩
    have hran := Succession.ran (Nat.le_refl now) hheld hreport hduring hsuccession
    rw [← List.singleton_append, ← List.append_assoc] at hran
    exact hran
  unrefused := by
    refine h.unrefused_after ?_
    rw [Trace.notices_append, List.mem_append, not_or]
    exact ⟨hsaid, by simp [Trace.notices, Entry.notice?, reportNotice, refusedNotice]⟩

end Concludes

/-! ### A run under the panel -/

/-- A run under the panel does not stay paused for ever if somebody leaves. -/
theorem attend_ends (model : PageModel σ) (config : Config) {panel : Panel} {watch : Panel.Watch}
    {inputs : List TimedInput} (order : List Bool) (script : Script) (page : σ) (now : Nat)
    (hsettled : watch.Settled)
    (hleaves : watch.listening = false ∨ panel.Leaves (inputs.map TimedInput.input)) :
    let attended := attend model config panel order watch script inputs page now
    Panel.failure? attended.given = none → ∃ report, attended.run.report = some report := by
  intro attended hserved
  by_contra! hnone
  obtain ⟨hpassed, hpaused⟩ := Boundary.run_stuck model config
    (boundary config script (panel.respondAll watch now order inputs) page now)
    (Option.eq_none_iff_forall_ne_some.2 hnone)
  -- No turn is left, so the panel has responded to all that comes in.
  have hgiven : attended.given = panel.respondAll watch now order inputs := by
    have hleft : (attended.run.steering.catchUp attended.run.time).upcoming = [] := by
      have hupcoming : attended.run.steering.upcoming = [] := hpassed
      simp [Steering.catchUp, hupcoming, Outlook.catchUp]
    show List.take (_ - (attended.run.steering.catchUp attended.run.time).upcoming.length) _ = _
    rw [hleft, List.length_nil, Nat.sub_zero, List.take_length]
  rw [hgiven] at hserved
  have hinputs := (panel.input_respondAll watch now order inputs).2 hserved
  rw [← hinputs] at hleaves
  have hfollows := panel.follows_respondAll watch now order inputs
  apply hfollows.afterAll_ne_pause hsettled hleaves
  rw [← Panel.flatMap_turns]
  exact hpaused

theorem early_serves (panel : Panel) (order : List Bool) (signal : Signal)
    (inputs : List TimedInput) (now : Nat) :
    panel.Serves { signal } now inputs (early panel order signal inputs now) := by
  let there := inputs.takeWhile (·.time ≤ now)
  have hthere : there.take (order.takeWhile id).length <+: inputs :=
    (List.take_prefix _ there).trans (List.takeWhile_prefix _)
  have h := panel.serves_respondAll { signal } now order (there.take (order.takeWhile id).length)
  exact { h with first := h.first.trans (hthere.map TimedInput.input) }

structure Attends (model : PageModel σ) (config : Config) (panel : Panel) (watch : Panel.Watch)
    (script : Script) (inputs : List TimedInput) (page : σ) (now : Nat) (attended : Attended σ) :
    Prop where
  serves : panel.Serves watch now inputs attended.given
  held : ∃ steering, run model config script steering page now = attended.run
  ends : watch.listening = false ∨ panel.Leaves (inputs.map TimedInput.input) →
    Panel.failure? attended.given = none → ∃ report, attended.run.report = some report

theorem attends_attend (model : PageModel σ) (config : Config) (panel : Panel) (order : List Bool)
    {watch : Panel.Watch} (hsettled : watch.Settled) (script : Script) (inputs : List TimedInput)
    (page : σ) (now : Nat) :
    Attends model config panel watch script inputs page now
      (attend model config panel order watch script inputs page now) where
  serves := (panel.serves_respondAll watch now order inputs).take _
  held := ⟨_, rfl⟩
  ends hleaves := attend_ends model config order script page now hsettled hleaves

/-- How a session goes on after a run under the panel: it ends, or somebody has yet to leave. -/
inductive Goes (model : PageModel σ) (config : Config) (panel : Panel) (inputs : List TimedInput)
    (page : σ) (now : Nat) (played : Played σ) : Prop
  | ends {result : Except SessionError Unit} (hsequel : played.sequel = .ends result)
      (h : Concludes model config page now (.ending result played.page played.time played.trace))
  | on (hsequel : played.sequel = .goesOn)
      (hleaves : panel.Leaves ((inputs.drop played.served).map TimedInput.input))
      (h : ∀ {session}, Concludes model config played.page played.time session →
        Concludes model config page now (session.after played.trace))

/-- A run under the panel comes to an end, with the session or before somebody leaves. -/
theorem play_goes (model : PageModel σ) (config : Config) (panel : Panel) (order : List Bool)
    (signal : Signal) (script : Script) (inputs : List TimedInput) (page : σ) (now : Nat)
    (hleaves : panel.Leaves (inputs.map TimedInput.input)) :
    Goes model config panel inputs page now
      (play model config panel order signal script inputs page now) := by
  have hearly := early_serves panel order signal inputs now
  generalize hlost : early panel order signal inputs now = lost at hearly
  have hbefore := hearly.follows.refused_notMem
  cases hbegins : Panel.failure? lost with
  | some failure =>
    -- A line that comes before the run cannot be read, so the run does not even begin.
    simp only [play, hlost, hbegins]
    have hended := Trace.unsaid_notices lost
    exact .ends rfl ⟨⟨_, rfl, .ended hended (hearly.le_of_failure? hbegins) _⟩, hbefore⟩
  | none =>
    let watch : Panel.Watch := { Panel.lastWatch { signal } lost with signal := .proceed }
    have hfresh : ({ signal } : Panel.Watch).Settled := fun hdeaf => Bool.noConfusion hdeaf
    have hsettled : watch.Settled := hearly.follows.settled hfresh
    have hafter : watch.listening = false ∨
        panel.Leaves ((inputs.drop lost.length).map TimedInput.input) :=
      hearly.leaves_or (.inr hleaves)
    have hattends := attends_attend model config panel (order.drop lost.length) hsettled script
      (inputs.drop lost.length) page now
    simp only [play, hlost, hbegins]
    -- What `Attends` says of the run and of the reactions is all that matters from here on.
    generalize attend model config panel (order.drop lost.length) watch script
      (inputs.drop lost.length) page now = attended at hattends
    obtain ⟨done, given⟩ := attended
    obtain ⟨hserves, ⟨steering, hheld⟩, hends⟩ := hattends
    dsimp only at hserves hheld hends
    have hsilent := run_notices model config script steering page now
    rw [hheld] at hsilent
    have hunsaid {run : Trace} (hrun : run.notices = []) :=
      Trace.unsaid_said lost given (startRemark script) now hrun
    have hsaid {run : Trace} (hrun : run.notices = []) : refusedNotice ∉ Trace.notices
        (Panel.notices lost ++ ⟨now, .remark (startRemark script)⟩ ::
          Trace.weave now run (Panel.notices given)) :=
      fun hmem => (Trace.mem_notices_said hrun hmem).elim hbefore hserves.follows.refused_notMem
    cases hfailure : Panel.failure? given with
    | some failure =>
      have huntil := Trace.upTo_notices hsilent failure.1
      refine .ends rfl ⟨⟨_, rfl, ?_⟩, hsaid huntil⟩
      exact .gaveUp (Nat.le_refl now) hheld (hserves.le_of_failure? hfailure) (hunsaid huntil)
    | none =>
      obtain ⟨report, hreport⟩ := hends hafter hfailure
      simp only [hreport]
      have hran {session : Session σ} (h : Concludes model config done.page done.time session) :=
        h.ran hheld hreport (hunsaid hsilent) (hsaid hsilent)
      cases hleaving : (Panel.lastWatch watch given).leaving with
      | true =>
        have hended := hran (.ending quiet_nil (Nat.le_refl done.time) (.ok ()))
        rw [Session.after, ending, List.append_nil] at hended
        exact .ends rfl hended
      | false =>
        -- Had somebody left, no line would be read any more, and the session would be leaving.
        refine .on rfl ?_ hran
        rcases hserves.leaves_or hafter with hdeaf | hlater
        · cases hleaving.symm.trans (hserves.follows.settled hsettled hdeaf)
        · rw [List.drop_drop] at hlater
          exact hlater

/-! ### The running flag -/

/-- The running flag is not set from a time on. -/
def Free (controller : Controller σ) (now : Nat) : Prop :=
  ∀ later, now ≤ later → controller.isRunning { time := later } = false

theorem Free.later {controller : Controller σ} {now later : Nat} (h : Free controller now)
    (hle : now ≤ later) : Free controller later :=
  fun time htime => h time (Nat.le_trans hle htime)

/-- A start is not refused if the flag is not set, and the flag is not set after the run. -/
theorem start_goes {model : PageModel σ} {panel : Panel} {order : List Bool}
    {controller after : Controller σ} {script : Script} {inputs : List TimedInput} {page : σ}
    {now : Nat} {played : Played σ} (hfree : Free controller now)
    (hleaves : panel.Leaves (inputs.map TimedInput.input))
    (hstart : start model panel order controller script inputs page now = (played, after)) :
    Goes model controller.config panel inputs page now played ∧ after.config = controller.config ∧
      (played.sequel = .goesOn → Free after played.time) := by
  have hclaim : (controller.claim { time := now }).1 = false := hfree now (Nat.le_refl now)
  simp only [start, hclaim, Bool.false_eq_true, if_false, Prod.mk.injEq] at hstart
  obtain ⟨rfl, rfl⟩ := hstart
  refine ⟨play_goes model _ panel order _ script inputs page now hleaves, rfl, ?_⟩
  intro hsequel later hlater
  simp [hsequel, Controller.isRunning, Controller.claim, Moment.isBefore, hlater]

/-! ### The whole session -/

/-- Serving inputs comes to an end if somebody leaves. -/
theorem serve_concludes (model : PageModel σ) (files : FileTree) (panel : Panel)
    (order : List (List Bool)) (controller : Controller σ) (inputs : List TimedInput) (page : σ)
    (now : Nat) (hfree : Free controller now)
    (hleaves : panel.Leaves (inputs.map TimedInput.input)) :
    Concludes model controller.config page now
      (serve model files panel order controller inputs page now) := by
  have hlater {timed : TimedInput} {rest : List TimedInput}
      (h : panel.Leaves ((timed :: rest).map TimedInput.input))
      (hstays : panel.meaning timed.input ≠ .leave) :
      panel.Leaves (rest.map TimedInput.input) := by
    obtain ⟨input, hmem, hmeaning⟩ := h
    rcases List.mem_cons.1 hmem with rfl | hmem
    · exact absurd hmeaning hstays
    · exact ⟨input, hmem, hmeaning⟩
  fun_induction serve
  case case1 page now prompt => exact .ending (quiet_prompt panel now) (Nat.le_refl now) _
  case case2 controller page before prompt timed rest now hmeaning ih =>
    have hle : before ≤ now := Nat.le_max_left before timed.time
    have h := ih (hfree.later hle) (hlater hleaves (by rw [hmeaning]; nofun))
    exact h.after (quiet_prompt panel before) hle
  case case3 page before prompt timed rest now hmeaning =>
    exact .ending (quiet_prompt panel before) (Nat.le_max_left before timed.time) _
  case case4 page before prompt timed rest now hmeaning =>
    have hfarewells : Quiet (panel.farewells.map fun notice => ⟨now, .notice notice⟩) := by
      rw [Panel.farewells, List.map_map]
      exact quiet_messages now panel.farewell.toList
    exact (Concludes.ending hfarewells (Nat.le_refl now) _).after (quiet_prompt panel before)
      (Nat.le_max_left before timed.time)
  case case5 page before prompt timed rest now error hmeaning =>
    exact .ending (quiet_prompt panel before) (Nat.le_max_left before timed.time) _
  case case6 controller page before prompt timed rest now command hmeaning notice hidle ih =>
    have hle : before ≤ now := Nat.le_max_left before timed.time
    have hsaid : Quiet [⟨now, .notice notice⟩] :=
      List.forall_mem_singleton.2 ⟨notice, rfl, idleNotice_ne_refused hidle⟩
    have h := ih (hfree.later hle) (hlater hleaves (by rw [hmeaning]; nofun))
    exact (h.after hsaid (Nat.le_refl now)).after (quiet_prompt panel before) hle
  case case7 controller page before prompt timed rest now command hmeaning script hidle played
      after hstart result hsequel =>
    have hle : before ≤ now := Nat.le_max_left before timed.time
    have hrest := hlater hleaves (by rw [hmeaning]; nofun)
    obtain ⟨hgoes, -⟩ := start_goes (hfree.later hle) hrest hstart
    cases hgoes with
    | ends h hends =>
      cases hsequel.symm.trans h
      exact hends.after (quiet_prompt panel before) hle
    | on h => cases hsequel.symm.trans h
  case case8 controller page before prompt timed rest now command hmeaning script hidle played
      after hstart hsequel =>
    have hle : before ≤ now := Nat.le_max_left before timed.time
    have hrest := hlater hleaves (by rw [hmeaning]; nofun)
    obtain ⟨hgoes, -⟩ := start_goes (hfree.later hle) hrest hstart
    cases hgoes with
    | ends h => cases hsequel.symm.trans h
    | on h => cases hsequel.symm.trans h
  case case9 controller page before prompt timed rest now command hmeaning script hidle played
      after hstart hsequel ih =>
    have hle : before ≤ now := Nat.le_max_left before timed.time
    have hrest := hlater hleaves (by rw [hmeaning]; nofun)
    obtain ⟨hgoes, hconfig, hafter⟩ := start_goes (hfree.later hle) hrest hstart
    cases hgoes with
    | ends h => cases hsequel.symm.trans h
    | on _ hleaves hon =>
      -- The run has ended, so the flag is not set when the next line is served.
      have hnext := ih (hafter hsequel) hleaves
      rw [hconfig] at hnext
      exact (hon hnext).after (quiet_prompt panel before) hle

end Session

/-- A panel session comes to an end when its input does, whatever is read before, and whatever the
run in progress does then. Its runs are held one after another, each is reported unless a line
cannot be read, and no start is refused. Nor does a run wait for ever: with pauses between its looks
a wait is over before the bound on them counts. -/
theorem panel_sessions_end (model : PageModel σ) (config : Config) (files : FileTree)
    (panel : Panel) (lines : List TimedInput) (closing : Nat) (page : σ) (now : Nat)
    (hinterval : 0 < config.timing.pollInterval) :
    Session.Concludes model config page now
        (Session.openPanel model config files panel (lines ++ [⟨closing, .close⟩]) page now) ∧
      ∀ (raw : String) (page : σ) (start budget : Nat),
        Wait.looks config.timing.waitOptions ≤ budget →
        waitFor model config.timing.waitOptions raw page start =
          Wait.poll model config.timing.waitOptions raw start budget page start := by
  constructor
  · let inputs := List.filter panel.heeds (lines ++ [⟨closing, .close⟩])
    let controller : Controller σ := { config, pages := [] }
    have hleaves : panel.Leaves (inputs.map TimedInput.input) := by
      have hclose : (⟨closing, .close⟩ : TimedInput) ∈ inputs :=
        List.mem_filter.2 ⟨List.mem_append_right lines List.mem_cons_self, rfl⟩
      exact ⟨.close, List.mem_map_of_mem hclose, rfl⟩
    have hfree : Session.Free controller now := fun _ _ => rfl
    have h := Session.serve_concludes model files panel panel.order controller inputs page now hfree
      hleaves
    exact h.after (Session.quiet_messages now panel.banner) (Nat.le_refl now)
  · exact fun raw page start budget hbudget =>
      waitFor_eq_poll model hinterval hbudget raw page start

/-- Here the input ends while the run is paused. -/
theorem paused_session_ends :
    let text := "\x7b\"Commands\":[\x7b\"Command\":\"end\"\x7d,\x7b\"Command\":\"end\"\x7d]\x7d"
    let files : FileTree := ⟨[(["a"], Text.toUtf8 text)]⟩
    let lines : List TimedInput :=
      [⟨0, .line (Text.toUtf8 "play a")⟩, ⟨100, .line (Text.toUtf8 "pause")⟩]
    let session := Session.openPanel Rehearsal.respond {} files {} (lines ++ [⟨5000, .close⟩]) {} 0
    Session.Concludes Rehearsal.respond {} {} 0 session ∧ session.result = some (.ok ()) ∧
      session.time = 5000 := by
  intro text files lines session
  let script : Script := ⟨none, none, List.replicate 2 ⟨"end", none, none, [], none⟩⟩
  have hidle : Session.idleNotice {} files (.play (some "a")) = .ok script := by
    have hfind (contents : List Nat) :
        (⟨[(["a"], contents)]⟩ : FileTree).find "a" = .ok (.file contents) := rfl
    have hread : files.readText "a" = .ok text := by
      rw [FileTree.readText, hfind]
      decide +kernel
    have hparse : Script.parse? text = some script := by decide +kernel
    have hload : Script.load files "a" = .ok script := by
      rw [Script.load, hread, loadText, hparse]
    simp [Session.idleNotice, hload]
  have hplay : ({} : Panel).meaning (.line (Text.toUtf8 "play a")) =
      .command (.play (some "a")) := by
    decide +kernel
  have hsession : session = Session.after [] (Session.serve Rehearsal.respond files {} []
      { config := {}, pages := [] } (lines ++ [⟨5000, .close⟩]) {} 0) := rfl
  -- The run takes all the input, so the panel serves no more than its first line.
  rw [Session.serve.eq_def] at hsession
  simp only [lines, List.cons_append, hplay, hidle] at hsession
  have h := panel_sessions_end Rehearsal.respond {} files {} lines 5000 {} 0 (by decide)
  refine ⟨h.1, ?_⟩
  show session.result = some (.ok ()) ∧ session.time = 5000
  rw [hsession]
  decide +kernel

end BrowserReplay
