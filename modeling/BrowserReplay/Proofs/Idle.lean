import BrowserReplay.Proofs.Succession
import BrowserReplay.Proofs.Unserved

/-!
# Lines between runs

Between two runs the panel answers a line that asks for no run by saying something, if that. The
signal, the controller and the page stay as they are, and the next line is served no earlier than
before. So a session in which some of these lines are left out holds the same runs
(`idle_lines_are_inert`). Whatever is read while a run is in progress is kept: there the same words
act on its signal.
-/

namespace BrowserReplay

/-- What a line can mean that starts no run: it is blank, asks for what only a run can do, is not
understood, or names no script that can be used. -/
inductive Panel.Idle (panel : Panel) (files : FileTree) : Panel.Meaning → Prop
  | blank : Idle panel files .nothing
  | pause : Idle panel files (.command .pause)
  | resume : Idle panel files (.command .resume)
  | stop : Idle panel files (.command .stop)
  | unknown (line : String) : Idle panel files (.command (.unknown line))
  | unnamed (h : panel.defaultScript = none) : Idle panel files (.command (.play none))
  | unusable {path : Option String} {name : String} {cause : LoadError}
      (hname : (path <|> panel.defaultScript) = some name)
      (hload : Script.load files name = .error cause) : Idle panel files (.command (.play path))

/-- Whether a notice can come of such a line, or of waiting for one. -/
def Notice.isIdle : Notice → Bool
  | .prompt _ | .complaint _ => true
  | .message text => text = "No run in progress."

def Trace.substance (trace : Trace) : Trace := trace.filter (!·.notice?.any Notice.isIdle)

namespace Trace

@[simp] theorem substance_append (a b : Trace) :
    substance (a ++ b) = substance a ++ substance b :=
  List.filter_append a b

@[simp] theorem substance_idle {notice : Notice} (h : notice.isIdle = true) (time : Nat)
    (trace : Trace) : substance (⟨time, .notice notice⟩ :: trace) = substance trace :=
  List.filter_cons_of_neg (by simp [Entry.notice?, h])

/-- Calls are no notices. -/
theorem calls_substance (trace : Trace) : trace.substance.calls = trace.calls := by
  rw [substance, calls, calls, List.filterMap_filter]
  refine List.filterMap_congr fun entry _ => ?_
  obtain ⟨time, made | told | line | notice⟩ := entry
  · rfl
  · rfl
  · rfl
  · exact ite_self none

/-- Events are no notices. -/
theorem events_substance (trace : Trace) : trace.substance.events = trace.events := by
  rw [substance, events, events, List.filterMap_filter]
  refine List.filterMap_congr fun entry _ => ?_
  obtain ⟨time, made | told | line | notice⟩ := entry
  · rfl
  · rfl
  · rfl
  · exact ite_self none

end Trace

/-- The text of a report begins with a word of its own. -/
theorem Report.exists_text (masked : Bool) (report : Report) :
    ∃ rest, report.text masked = "Run " ++ rest := by
  unfold text
  repeat rw [String.append_assoc]
  exact ⟨_, rfl⟩

namespace Session

/-- A report is not mistaken for such a notice. -/
theorem isIdle_reportNotice (config : Config) (report : Report) :
    (reportNotice config report).isIdle = false := by
  obtain ⟨rest, htext⟩ := report.exists_text config.logging.maskSensitive
  rw [reportNotice, htext, Notice.isIdle, decide_eq_false_iff_not]
  intro hsame
  have hletters := congrArg String.toList hsame
  simp [String.toList_append] at hletters

/-- Nothing comes of a line between two runs that starts none but a notice. -/
theorem idleNotice_of_idle {panel : Panel} {files : FileTree} {meaning : Panel.Meaning}
    (h : panel.Idle files meaning) :
    meaning = .nothing ∨ ∃ command notice, meaning = .command command ∧
      idleNotice panel files command = .error notice ∧ notice.isIdle = true := by
  cases h with
  | blank => exact .inl rfl
  | pause => exact .inr ⟨_, _, rfl, rfl, rfl⟩
  | resume => exact .inr ⟨_, _, rfl, rfl, rfl⟩
  | stop => exact .inr ⟨_, _, rfl, rfl, rfl⟩
  | unknown line => exact .inr ⟨_, _, rfl, rfl, rfl⟩
  | unnamed hnone =>
    refine .inr ⟨.play none, .complaint "Usage: play <script.json>", rfl, ?_, rfl⟩
    rw [idleNotice, hnone]
    rfl
  | @unusable path name cause hname hload =>
    refine .inr ⟨.play path, .complaint ("Error: " ++ cause.message Script.loadedAs), rfl, ?_, rfl⟩
    simp only [idleNotice, hname, hload]

/-! ### Sessions that hold the same runs -/

/-- Two sessions leave the same page with the same result, and all that happens in them is the same,
at the same times, apart from what is said between runs. -/
structure SameRuns (session other : Session σ) : Prop where
  page : other.page = session.page
  result : other.result = session.result
  trace : other.trace.substance = session.trace.substance

namespace SameRuns

theorem refl (session : Session σ) : SameRuns session session := ⟨rfl, rfl, rfl⟩

theorem symm {session other : Session σ} (h : SameRuns session other) : SameRuns other session :=
  ⟨h.page.symm, h.result.symm, h.trace.symm⟩

theorem trans {first second third : Session σ} (h : SameRuns first second)
    (h' : SameRuns second third) : SameRuns first third :=
  ⟨h'.page.trans h.page, h'.result.trans h.result, h'.trace.trans h.trace⟩

theorem after {session other : Session σ} (h : SameRuns session other) {early early' : Trace}
    (hearly : early'.substance = early.substance) :
    SameRuns (session.after early) (other.after early') where
  page := h.page
  result := h.result
  trace := by
    show Trace.substance (early' ++ other.trace) = Trace.substance (early ++ session.trace)
    rw [Trace.substance_append, Trace.substance_append, hearly, h.trace]

end SameRuns

variable (model : PageModel σ) (files : FileTree) (panel : Panel)

/-- A list of inputs and a shorter one, in which some idle lines are left out that are served
between two runs. -/
inductive Spares : List (List Bool) → Controller σ → List TimedInput → σ → Nat →
    List TimedInput → Prop
  /-- Nothing more is left out. -/
  | rest (order : List (List Bool)) (controller : Controller σ) (inputs : List TimedInput)
      (page : σ) (now : Nat) : Spares order controller inputs page now inputs
  | leftOut {order : List (List Bool)} {controller : Controller σ} {timed : TimedInput}
      {rest shorter : List TimedInput} {page : σ} {now : Nat}
      (hidle : panel.Idle files (panel.meaning timed.input))
      (h : Spares order controller rest page (max now timed.time) shorter) :
      Spares order controller (timed :: rest) page now shorter
  | kept {order : List (List Bool)} {controller : Controller σ} {timed : TimedInput}
      {rest shorter : List TimedInput} {page : σ} {now : Nat}
      (hidle : panel.Idle files (panel.meaning timed.input))
      (h : Spares order controller rest page (max now timed.time) shorter) :
      Spares order controller (timed :: rest) page now (timed :: shorter)
  /-- Whatever is served during a run is kept. -/
  | ran {order : List (List Bool)} {controller after : Controller σ} {timed : TimedInput}
      {command : PanelCommand} {script : Script} {served left shorter : List TimedInput} {page : σ}
      {now : Nat} {played : Played σ} (hmeaning : panel.meaning timed.input = .command command)
      (hscript : idleNotice panel files command = .ok script)
      (hstart : start model panel (order.headD []) controller script (served ++ left) page
        (max now timed.time) = (played, after))
      (hserved : played.served = served.length) (hgoes : played.sequel = .goesOn)
      (h : Spares order.tail after left played.page played.time shorter) :
      Spares order controller (timed :: (served ++ left)) page now (timed :: (served ++ shorter))

variable {model files panel}

/-- Only inputs are left out. -/
theorem Spares.sublist {order : List (List Bool)} {controller : Controller σ}
    {inputs shorter : List TimedInput} {page : σ} {now : Nat}
    (h : Spares model files panel order controller inputs page now shorter) :
    shorter.Sublist inputs := by
  induction h with
  | rest => exact List.Sublist.refl _
  | leftOut _ _ ih => exact ih.cons _
  | kept _ _ ih => exact ih.cons_cons _
  | ran _ _ _ _ _ _ ih => exact ((List.Sublist.refl _).append ih).cons_cons _

/-- What is left of ordered inputs comes no earlier. -/
theorem noEarlier_of_sublist {inputs shorter : List TimedInput} (h : shorter.Sublist inputs)
    (hordered : inputs.Pairwise (·.time ≤ ·.time)) : Panel.NoEarlier inputs shorter := by
  intro other hother
  have hmem := h.subset (List.mem_of_mem_head? hother)
  cases inputs with
  | nil => cases hmem
  | cons timed rest =>
    refine ⟨timed, rfl, ?_⟩
    rcases List.mem_cons.1 hmem with rfl | hlater
    · exact Nat.le_refl _
    · exact (List.pairwise_cons.1 hordered).1 other hlater

/-- A session is the same whether it begins to wait for its next line earlier or later. -/
theorem serve_waits (order : List (List Bool)) (controller : Controller σ)
    (inputs : List TimedInput) (page : σ) {now earlier : Nat}
    (hsame : ∀ timed ∈ inputs, max earlier timed.time = max now timed.time) :
    SameRuns (serve model files panel order controller inputs page now)
      (serve model files panel order controller inputs page earlier) := by
  cases inputs with
  | nil =>
    rw [serve, serve]
    exact ⟨rfl, rfl, rfl⟩
  | cons timed rest =>
    rw [serve.eq_def, serve.eq_def]
    simp only [hsame timed List.mem_cons_self]
    cases panel.meaning timed.input with
    | nothing => exact (SameRuns.refl _).after rfl
    | leave => exact ⟨rfl, rfl, rfl⟩
    | interrupt => exact ⟨rfl, rfl, rfl⟩
    | unreadable error => exact ⟨rfl, rfl, rfl⟩
    | command command =>
      simp only
      cases idleNotice panel files command with
      | error notice => exact (SameRuns.refl _).after rfl
      | ok script =>
        simp only
        generalize start model panel (order.headD []) controller script rest page
          (max now timed.time) = started
        obtain ⟨played, after⟩ := started
        dsimp only
        cases played.sequel with
        | ends result => exact ⟨rfl, rfl, rfl⟩
        | never => exact ⟨rfl, rfl, rfl⟩
        | goesOn => exact (SameRuns.refl _).after rfl

/-- Nothing comes of an idle line but the notice that answers it. -/
theorem serve_idle (model : PageModel σ) {timed : TimedInput}
    (h : panel.Idle files (panel.meaning timed.input)) (order : List (List Bool))
    (controller : Controller σ) (rest : List TimedInput) (page : σ) (now : Nat) :
    SameRuns (serve model files panel order controller rest page (max now timed.time))
      (serve model files panel order controller (timed :: rest) page now) := by
  obtain ⟨said, hsaid, hserve⟩ : ∃ said : Trace, said.substance = [] ∧
      serve model files panel order controller (timed :: rest) page now =
        (serve model files panel order controller rest page (max now timed.time)).after said := by
    rcases idleNotice_of_idle h with hblank | ⟨command, notice, hmeaning, hnotice, hidle⟩
    · refine ⟨[⟨now, .notice (.prompt panel.prompt)⟩], rfl, ?_⟩
      rw [serve.eq_def]
      simp only [hblank]
    · refine ⟨[⟨now, .notice (.prompt panel.prompt)⟩, ⟨max now timed.time, .notice notice⟩], ?_, ?_⟩
      · exact (Trace.substance_idle rfl now _).trans (Trace.substance_idle hidle _ [])
      · rw [serve.eq_def]
        simp only [hmeaning, hnotice]
  rw [hserve]
  exact ⟨rfl, rfl, by rw [after, Trace.substance_append, hsaid, List.nil_append]⟩

/-- A run is held, and then the session goes on. -/
theorem serve_ran {timed : TimedInput} {command : PanelCommand} {script : Script}
    (hmeaning : panel.meaning timed.input = .command command)
    (hscript : idleNotice panel files command = .ok script) {order : List (List Bool)}
    {controller after : Controller σ} {served left : List TimedInput} {page : σ} {now : Nat}
    {played : Played σ}
    (hstart : start model panel (order.headD []) controller script (served ++ left) page
      (max now timed.time) = (played, after))
    (hserved : played.served = served.length) (hgoes : played.sequel = .goesOn) :
    serve model files panel order controller (timed :: (served ++ left)) page now =
      (serve model files panel order.tail after left played.page played.time).after
        (⟨now, .notice (.prompt panel.prompt)⟩ :: played.trace) := by
  rw [serve.eq_def]
  simp only [hmeaning, hscript, hstart, hgoes, hserved, List.drop_left]

/-- A session in which idle lines are left out holds the same runs. -/
theorem Spares.sameRuns {order : List (List Bool)} {controller : Controller σ}
    {inputs shorter : List TimedInput} {page : σ} {now : Nat}
    (h : Spares model files panel order controller inputs page now shorter)
    (hordered : inputs.Pairwise (·.time ≤ ·.time)) (earlier : Nat)
    (hsame : ∀ timed ∈ inputs, max earlier timed.time = max now timed.time) :
    SameRuns (serve model files panel order controller inputs page now)
      (serve model files panel order controller shorter page earlier) := by
  induction h generalizing earlier with
  | rest => exact serve_waits _ _ _ _ hsame
  | @leftOut order controller timed rest shorter page now hidle h ih =>
    obtain ⟨hfirst, hrest⟩ := List.pairwise_cons.1 hordered
    have hlater : ∀ other ∈ rest, max earlier other.time = max (max now timed.time) other.time := by
      intro other hother
      have hboth := hsame other (List.mem_cons_of_mem _ hother)
      have hle := hfirst other hother
      omega
    have hthis := serve_idle model hidle order controller rest page now
    exact hthis.symm.trans (ih hrest earlier hlater)
  | @kept order controller timed rest shorter page now hidle h ih =>
    obtain ⟨hfirst, hrest⟩ := List.pairwise_cons.1 hordered
    have hnow := hsame timed List.mem_cons_self
    have hthis := serve_idle model hidle order controller rest page now
    have hother := serve_idle model hidle order controller shorter page earlier
    rw [hnow] at hother
    exact (hthis.symm.trans (ih hrest _ fun _ _ => rfl)).trans hother
  | @ran order controller after timed command script served left shorter page now played hmeaning
      hscript hstart hserved hgoes h ih =>
    obtain ⟨hfirst, hrest⟩ := List.pairwise_cons.1 hordered
    have hleft := (List.pairwise_append.1 hrest).2.1
    have hnow := hsame timed List.mem_cons_self
    -- The run does not depend on the lines that it leaves, so it does not matter which they are.
    have hother := start_unserved model panel (order.headD []) controller script
      (noEarlier_of_sublist h.sublist hleft) page (max now timed.time) hstart hserved hgoes
    rw [serve_ran hmeaning hscript hstart hserved hgoes,
      serve_ran hmeaning hscript (hnow ▸ hother) hserved hgoes]
    exact (ih hleft _ fun _ _ => rfl).after rfl

end Session

/-- Idle lines are inert. Leave out, from what a panel session reads, any lines that are served
between two runs and are blank, unknown, ask to pause, resume or stop, or name no usable script.
Then the session goes the same way to the same end: apart from prompts, complaints and the answer
that no run is in progress, all that happens in it is the same at the same times. So it makes the
same calls and tells the same events, and the reports, which are none of these notices, are the
same. The inputs are read in the order in which they arrive. -/
theorem idle_lines_are_inert (model : PageModel σ) (config : Config) (files : FileTree)
    (panel : Panel) {inputs shorter : List TimedInput} (page : σ) (now : Nat)
    (hordered : inputs.Pairwise (·.time ≤ ·.time))
    (hspares : Session.Spares model files panel panel.order { config, pages := [] }
      (inputs.filter panel.heeds) page now (shorter.filter panel.heeds)) :
    let session := Session.openPanel model config files panel inputs page now
    let spared := Session.openPanel model config files panel shorter page now
    spared.page = session.page ∧ spared.result = session.result ∧
    spared.trace.substance = session.trace.substance ∧
    spared.trace.calls = session.trace.calls ∧ spared.trace.events = session.trace.events ∧
    ∀ report, (Session.reportNotice config report).isIdle = false := by
  intro session spared
  have hsame : Session.SameRuns session spared :=
    (hspares.sameRuns (hordered.sublist List.filter_sublist) now fun _ _ => rfl).after rfl
  refine ⟨hsame.page, hsame.result, hsame.trace, ?_, ?_, Session.isIdle_reportNotice config⟩
  · rw [← Trace.calls_substance, hsame.trace, Trace.calls_substance]
  · rw [← Trace.events_substance, hsame.trace, Trace.events_substance]

/-- Here a line between two runs asks to stop, and the second run is the same without it. -/
theorem stop_between_runs_is_inert :
    let text := "\x7b\"Commands\":[\x7b\"Command\":\"end\"\x7d]\x7d"
    let files : FileTree := ⟨[(["a"], Text.toUtf8 text)]⟩
    let first : TimedInput := ⟨0, .line (Text.toUtf8 "play a")⟩
    let stop : TimedInput := ⟨2000, .line (Text.toUtf8 "stop")⟩
    let rest : List TimedInput := [⟨3000, .line (Text.toUtf8 "play a")⟩, ⟨9000, .close⟩]
    let session := Session.openPanel Rehearsal.respond {} files {} (first :: stop :: rest) {} 0
    let spared := Session.openPanel Rehearsal.respond {} files {} (first :: rest) {} 0
    spared.trace.events = session.trace.events := by
  intro text files first stop rest session spared
  let script : Script := ⟨none, none, [⟨"end", none, none, [], none⟩]⟩
  have hscript : Session.idleNotice {} files (.play (some "a")) = .ok script := by
    have hfind (contents : List Nat) :
        (⟨[(["a"], contents)]⟩ : FileTree).find "a" = .ok (.file contents) := rfl
    have hread : files.readText "a" = .ok text := by
      rw [FileTree.readText, hfind]
      decide +kernel
    have hparse : Script.parse? text = some script := by decide +kernel
    have hload : Script.load files "a" = .ok script := by
      rw [Script.load, hread, loadText, hparse]
    simp [Session.idleNotice, hload]
  have hplay : ({} : Panel).meaning first.input = .command (.play (some "a")) := by decide +kernel
  have hstop : ({} : Panel).meaning stop.input = .command .stop := by decide +kernel
  let started := Session.start Rehearsal.respond {} [] { config := {}, pages := [] } script
    ([] ++ stop :: rest) {} 0
  have hgoes : started.1.sequel = .goesOn := by
    have hon : started.1.sequel.ctorIdx = Session.Sequel.goesOn.ctorIdx := by decide +kernel
    generalize started.1.sequel = sequel at hon ⊢
    cases sequel with
    | goesOn => rfl
    | ends | never => cases hon
  have hspares : Session.Spares Rehearsal.respond files {} [] { config := {}, pages := [] }
      (first :: ([] ++ stop :: rest)) {} 0 (first :: ([] ++ rest)) := by
    have hserved : started.1.served = ([] : List TimedInput).length := by decide +kernel
    exact .ran hplay hscript (Prod.eta _).symm hserved hgoes
      (.leftOut (hstop ▸ .stop) (.rest _ _ _ _ _))
  have hheeds : (first :: stop :: rest).filter ({} : Panel).heeds = first :: stop :: rest := rfl
  have hheeds' : (first :: rest).filter ({} : Panel).heeds = first :: rest := rfl
  have hordered : (first :: stop :: rest).Pairwise (·.time ≤ ·.time) := by decide
  exact (idle_lines_are_inert Rehearsal.respond {} files {} {} 0 hordered
    (hheeds.symm ▸ hheeds'.symm ▸ hspares)).2.2.2.2.1

end BrowserReplay
