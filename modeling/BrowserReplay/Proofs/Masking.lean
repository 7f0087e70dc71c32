import BrowserReplay.Proofs.Secrets
import BrowserReplay.Proofs.Textless

/-!
# Masking hides secrets

Two runs of scripts that differ only in secrets go on side by side: at every boundary between two
commands they are at the same command and the same time, with stores that are the same but for
hidden values and pages that cannot tell them apart. What they show is then the same.
-/

namespace BrowserReplay

open Visit

/-! ### One command -/

variable {model : PageModel σ} {hidden : List String}

/-- Two commands have ended alike with stores that are the same but for hidden values. -/
def SameVeiled (hidden : List String) (done done' : Outcome × Variables) : Prop :=
  done.1 = done'.1 ∧ done.2.Veiled hidden done'.2

section Secret

variable {config : Config} (hmask : config.logging.maskSensitive = true) (duration index : Nat)
  {vars vars' : Variables} (hvars : vars.Veiled hidden vars')

include hmask hvars

theorem Perform.store_veiled {name text text' : String} (hsecret : isSensitive name = true)
    (htext : text ≠ "") (htext' : text' ≠ "") (hmem : name ∈ hidden) :
    Alike (Likeness.textless model) duration (Variables.Veiled hidden)
      (store config vars name (.text text)) (store config vars' name (.text text')) := by
  unfold store
  rw [hmask, VarValue.display, VarValue.display, maskIf_eq_mask htext hsecret,
    maskIf_eq_mask htext' hsecret]
  exact .bind_eq (.tell _) fun _ => .pure (hvars.set ⟨rfl, .inr ⟨hmem, hsecret, htext, htext'⟩⟩)

/-- A secret that is stored shows in neither event, and the stores stay the same but for it. -/
theorem perform_store_veiled {value value' name : Option String}
    (hsecret : isSensitive (Template.substitute vars name) = true)
    (hname : Template.substitute vars name = Template.substitute vars' name)
    (hvalue : Template.substitute vars value ≠ "") (hvalue' : Template.substitute vars' value' ≠ "")
    (hmem : Template.substitute vars name ∈ hidden) :
    Alike (Likeness.textless model) duration (SameVeiled hidden)
      (perform model config vars index (.store value name))
      (perform model config vars' index (.store value' name)) := by
  have hstarted : Perform.started config vars index (.store value name) =
      Perform.started config vars' index (.store value' name) := by
    simp only [Perform.started, Command.authoredTarget, Command.authoredValue, Command.name, hmask,
      ← hname, maskIf_eq_mask hvalue hsecret, maskIf_eq_mask hvalue' hsecret]
  unfold perform
  rw [hstarted]
  refine .bind_eq (.tell _) fun _ => ?_
  rw [Perform.act, Perform.act, ← hname]
  exact (Perform.store_veiled hmask duration hvars hsecret hvalue hvalue' hmem).bind
    fun _ _ hafter => .pure ⟨rfl, hafter⟩

/-- A secret that is written shows in no event. -/
theorem perform_type_veiled {target : Target} {text text' : Option String}
    (hsecret : isSensitive (Template.substitute vars target.primary) = true)
    (htarget : vars.AgreeOn vars' target.templates)
    (htext : Template.substitute vars text ≠ "") (htext' : Template.substitute vars' text' ≠ "") :
    Alike (Likeness.textless model) duration (SameVeiled hidden)
      (perform model config vars index (.type target text))
      (perform model config vars' index (.type target text')) := by
  have hprimary := htarget target.primary List.mem_cons_self
  have hstarted : Perform.started config vars index (.type target text) =
      Perform.started config vars' index (.type target text') := by
    simp only [Perform.started, Command.authoredTarget, Command.authoredValue, Command.name, hmask,
      ← hprimary, maskIf_eq_mask htext hsecret, maskIf_eq_mask htext' hsecret]
  unfold perform
  rw [hstarted]
  refine .bind_eq (.tell _) fun _ => ?_
  rw [Perform.act, Perform.act]
  exact .bind_eq (Perform.onElement_alike config _ duration index (Target.candidates_eq htarget)
    (Perform.writeInto_textless duration _ _)) fun _ => .pure ⟨rfl, hvars⟩

/-- Two commands that are dispatched together do the same but for hidden values and written texts.
-/
theorem perform_veiled {command command' : Command}
    (h : Dispatch.Discreet hidden ⟨command, vars⟩ ⟨command', vars'⟩) :
    Alike (Likeness.textless model) duration (SameVeiled hidden)
      (perform model config vars index command) (perform model config vars' index command') := by
  obtain ⟨heq, havoid⟩ | ⟨hsecret, hsecret', hshown, havoid⟩ := h.same_or_secret hvars
  · obtain rfl : command = command' := heq
    refine (perform_alike config _ duration index (havoid.agreeOn hvars)).mono ?_
    rintro ⟨outcome, after⟩ ⟨outcome', after'⟩ ⟨houtcome, entries, rfl, rfl⟩
    exact ⟨houtcome, hvars.setAll entries⟩
  · have hagree := havoid.agreeOn hvars
    have htext := h.nonempty hsecret
    have htext' := h.nonempty' hsecret'
    cases command with
    | store value name =>
      cases command' with
      | store value' name' =>
        obtain rfl : name = name' := (Command.store.inj hshown).2
        refine perform_store_veiled hmask duration index hvars hsecret ?_ htext htext' ?_
        · exact hagree name (List.mem_cons_of_mem _ List.mem_cons_self)
        · exact h.hides _ (if_pos hsecret)
      | _ => cases hshown
    | type target text =>
      cases command' with
      | type target' text' =>
        obtain rfl : target = target' := (Command.type.inj hshown).1
        refine perform_type_veiled hmask duration index hvars hsecret ?_ htext htext'
        exact fun template hmem => hagree template (List.mem_cons_of_mem _ hmem)
      | _ => cases hshown
    | _ => cases hsecret

end Secret

/-! ### The loop -/

namespace Run

/-- Two runs have shown the same, and written what differs at most in the texts. -/
structure SameShown (run run' : Run σ) : Prop where
  time : run'.time = run.time
  trace : run'.trace.map Entry.withoutText = run.trace.map Entry.withoutText
  report : run'.report.map (Report.text true) = run.report.map (Report.text true)

theorem SameShown.after {run run' : Run σ} (h : SameShown run run') {early early' : Trace}
    (hearly : early'.map Entry.withoutText = early.map Entry.withoutText) :
    SameShown (run.after early) (run'.after early') := by
  refine ⟨h.time, ?_, h.report⟩
  rw [trace_after, trace_after, List.map_append, List.map_append, hearly, h.trace]

theorem SameShown.step {run run' : Run σ} (h : SameShown run run') {trace trace' : Trace}
    (htrace : trace'.map Entry.withoutText = trace.map Entry.withoutText) (looked : Trace)
    (entry : Entry) :
    SameShown (run.after (looked ++ trace ++ [entry]))
      (run'.after (looked ++ trace' ++ [entry])) := by
  refine h.after ?_
  rw [List.map_append, List.map_append, List.map_append, List.map_append, htrace]

theorem conclusion_eq {command command' : Command} (h : command.name = command'.name)
    {index : Nat} {outcome : Outcome} :
    conclusion index command outcome = conclusion index command' outcome := by
  cases outcome <;> simp only [conclusion, h]

theorem finish_veiled {vars vars' : Variables} (hvars : vars.Veiled hidden vars') (state : RunState)
    (index : Nat) (tally : Tally) (remaining : Nat) (steering : Steering) (page page' : σ)
    (time : Nat) :
    SameShown (finish state ⟨vars, index, tally⟩ remaining steering page time)
      (finish state ⟨vars', index, tally⟩ remaining steering page' time) :=
  ⟨rfl, rfl, congrArg some (Report.text_eq state index remaining tally hvars).symm⟩

/-- From any boundary on, two runs show the same that are at the same place with pages that cannot
tell them apart and stores that are the same but for hidden values. -/
theorem drain_veiled {config : Config} (hmask : config.logging.maskSensitive = true)
    (queue queue' : List Command) (hlength : queue.length = queue'.length) {vars vars' : Variables}
    (hvars : vars.Veiled hidden vars') (index : Nat) (tally : Tally) (steering : Steering)
    {page page' : σ} (hpage : Indistinct model page page') (time : Nat)
    (hdiscreet : ∀ pair ∈
      (dispatches model config queue ⟨vars, index, tally⟩ steering page time).zip
        (dispatches model config queue' ⟨vars', index, tally⟩ steering page' time),
      pair.1.Discreet hidden pair.2) :
    SameShown (drain model config queue ⟨vars, index, tally⟩ steering page time)
      (drain model config queue' ⟨vars', index, tally⟩ steering page' time) := by
  induction queue generalizing queue' vars vars' index tally steering page page' time with
  | nil =>
    obtain rfl := List.length_eq_zero_iff.1 hlength.symm
    exact finish_veiled hvars _ _ _ _ _ _ _ _
  | cons command rest ih =>
    obtain ⟨command', rest', rfl⟩ := List.exists_cons_of_length_eq_add_one hlength.symm
    have hlength := Nat.succ.inj hlength
    rw [dispatches, dispatches] at hdiscreet
    rw [drain, drain]
    revert hdiscreet
    dsimp only
    -- Both runs look at the same signal at the same time.
    obtain ⟨clearance, later, steering, looked⟩ := checkpoint steering index time
    cases clearance with
    | never => exact fun _ => ⟨rfl, rfl, rfl⟩
    | cancel =>
      intro _
      rw [← hlength]
      exact (finish_veiled hvars _ _ _ _ _ _ _ _).after rfl
    | proceed =>
      intro hdiscreet
      have hfirst : Dispatch.Discreet hidden ⟨command, vars⟩ ⟨command', vars'⟩ :=
        hdiscreet (_, _) List.mem_cons_self
      have hvisit : Visited.Alike (Likeness.textless model) 0 (SameVeiled hidden)
          (perform model config vars index command page later)
          (perform model config vars' index command' page' later) :=
        perform_veiled hmask 0 index hvars hfirst page page' later hpage
      have hrest := fun pair hpair => hdiscreet pair (List.mem_cons_of_mem _ hpair)
      have hname := hfirst.name_eq
      clear hdiscreet hfirst
      -- From here on only what the two visits have left matters.
      revert hvisit hrest
      dsimp only
      generalize perform model config vars index command page later = visit
      generalize perform model config vars' index command' page' later = visit'
      obtain ⟨page, time, trace, outcome, vars⟩ := visit
      obtain ⟨page', time', trace', outcome', vars'⟩ := visit'
      rintro ⟨hpage, htime, htrace, houtcome, hvars⟩ hrest
      obtain rfl : outcome = outcome' := houtcome
      obtain rfl : time' = time := htime
      rw [Trace.delay_zero] at htrace
      dsimp only at hpage htrace hvars hrest ⊢
      rw [← conclusion_eq hname]
      cases hdeparture : departure? config outcome with
      | some url =>
        dsimp only
        rw [← hlength]
        exact (finish_veiled hvars _ _ _ _ _ _ _ _).step htrace looked _
      | none =>
        rw [hdeparture] at hrest
        exact (ih rest' hlength hvars _ _ steering hpage _ hrest).step htrace looked _

end Run

/-! ### What is shown -/

namespace Trace

/-- Events are told without the texts that are written. -/
theorem events_map_withoutText (trace : Trace) :
    Trace.events (trace.map Entry.withoutText) = trace.events := by
  rw [events, List.filterMap_map]
  refine List.filterMap_congr fun entry _ => ?_
  obtain ⟨time, made | told | line | notice⟩ := entry <;> rfl

theorem log_map_withoutText (trace : Trace) :
    Trace.log (trace.map Entry.withoutText) = trace.log := by
  rw [log, List.filterMap_map]
  refine List.filterMap_congr fun entry _ => ?_
  obtain ⟨time, made | told | line | notice⟩ := entry <;> rfl

theorem calls_map_withoutText (trace : Trace) :
    Trace.calls (trace.map Entry.withoutText) =
      trace.calls.map (Prod.map id CallRecord.withoutText) := by
  rw [calls, calls, List.filterMap_map, List.map_filterMap]
  refine List.filterMap_congr fun entry _ => ?_
  obtain ⟨time, made | told | line | notice⟩ := entry <;> rfl

end Trace

def dispatched (model : PageModel σ) (config : Config) (script : Script) (steering : Steering)
    (page : σ) (time : Nat) : List Dispatch :=
  Run.dispatches model config (Command.ofScript config.keys script) {} steering page time

/-- Masking hides secrets. Two scripts that differ only in secrets, run on a page that ignores the
texts written into it and under the same signals, tell the same events at the same times, write the
same log, end with the same masked report, and make the same calls but for the texts written. -/
theorem masked_runs_show_same (model : PageModel σ) (config : Config)
    (hmask : config.logging.maskSensitive = true) (script script' : Script)
    (hlength : script.length = script'.length) (steering : Steering) (page : σ)
    (hpage : IgnoresText model page) (time : Nat)
    (hsecrets : DifferInSecrets (dispatched model config script steering page time)
      (dispatched model config script' steering page time)) :
    let done := run model config script steering page time
    let done' := run model config script' steering page time
    done'.trace.events = done.trace.events ∧
      done'.trace.log = done.trace.log ∧
      done'.report.map (Report.text true) = done.report.map (Report.text true) ∧
      done'.trace.calls.map (Prod.map id CallRecord.withoutText) =
        done.trace.calls.map (Prod.map id CallRecord.withoutText) := by
  intro done done'
  have hqueue : (Command.ofScript config.keys script).length =
      (Command.ofScript config.keys script').length := by
    rw [Command.ofScript, Command.ofScript, List.length_map, List.length_map]
    exact hlength
  have hempty (hidden : List String) : Variables.empty.Veiled hidden .empty := .nil
  have hdrain := Run.drain_veiled hmask _ _ hqueue (hempty _) 0 {} steering hpage time
    fun pair hpair => hsecrets.discreet hpair
  have hdone : Run.SameShown done done' := by
    refine hdrain.after ?_
    rw [hqueue]
  refine ⟨?_, ?_, hdone.report, ?_⟩
  · rw [← Trace.events_map_withoutText, hdone.trace, Trace.events_map_withoutText]
  · rw [← Trace.log_map_withoutText, hdone.trace, Trace.log_map_withoutText]
  · rw [← Trace.calls_map_withoutText, hdone.trace, Trace.calls_map_withoutText]

def loginScript (password : String) : Script where
  commands :=
    [{ command := "store", target := some password, value := some "password" },
      { command := "type", target := some "css=#password", value := some "$\x7bpassword\x7d" }]

def loginPage : Rehearsal.Page where
  elements := [{ selector := ⟨.css, "#password"⟩, handle := 1 }]

theorem masked_logins_show_same :
    let done := run Rehearsal.respond {} (loginScript "swordfish") .standalone loginPage 0
    let done' := run Rehearsal.respond {} (loginScript "xyzzy") .standalone loginPage 0
    done'.trace.events = done.trace.events ∧
      done'.trace.log = done.trace.log ∧
      done'.report.map (Report.text true) = done.report.map (Report.text true) ∧
      done'.trace.calls.map (Prod.map id CallRecord.withoutText) =
        done.trace.calls.map (Prod.map id CallRecord.withoutText) := by
  refine masked_runs_show_same Rehearsal.respond {} rfl (loginScript "swordfish")
    (loginScript "xyzzy") rfl .standalone loginPage (Rehearsal.respond_ignoresText loginPage) 0
    ⟨?_, ?_, ?_⟩
  · decide +kernel
  · decide +kernel
  · unfold Avoid
    decide +kernel

end BrowserReplay
