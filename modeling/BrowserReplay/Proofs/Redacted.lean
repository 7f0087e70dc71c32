import BrowserReplay.Proofs.Paired
import BrowserReplay.Proofs.Stored
import Mathlib.Data.List.Forall2

/-!
# Hiding credentials

The settings say whether values that look like credentials are hidden. Hiding touches three fields
of what is told, each beside a hint (`RunEvent.Redacts`), and goes no further: what is stored,
looked for and written is the value itself. So a run does the same whether it hides values or not
(`hiding_changes_what_is_told`), and its report keeps the values that it would have told.
-/

namespace BrowserReplay

open Visit

/-! ### Values that may be hidden -/

/-- A value as it is told beside a hint, first by a run that hides nothing and then by one that
hides credentials: the same, or a value that is hidden. -/
inductive Hides (hint : String) : String → String → Prop
  | shown (value : String) : Hides hint value value
  | hidden {value : String} (hvalue : value ≠ "") (hsensitive : isSensitive hint = true) :
      Hides hint value "********"

/-- An event of a run that hides nothing, and the one that a run tells in its place that hides
credentials. They differ in a value at most: the one that a command writes or names, or the one that
is stored. -/
inductive RunEvent.Redacts : RunEvent → RunEvent → Prop
  | same (event : RunEvent) : Redacts event event
  | started (index : Nat) {command target value value' : String} (hcommand : command ≠ "store")
      (h : Hides target value value') :
      Redacts (.commandStarted index command target value)
        (.commandStarted index command target value')
  | storing (index : Nat) {target target' name : String} (h : Hides name target target') :
      Redacts (.commandStarted index "store" target name)
        (.commandStarted index "store" target' name)
  | stored {name value value' : String} (h : Hides name value value') :
      Redacts (.variableStored name value) (.variableStored name value')

/-- An entry in which at most an event is told otherwise. -/
inductive Entry.Redacts : Entry → Entry → Prop
  | same (entry : Entry) : Redacts entry entry
  | event (time : Nat) {told told' : RunEvent} (h : told.Redacts told') :
      Redacts ⟨time, .event told⟩ ⟨time, .event told'⟩

theorem Hides.maskIf (hint value : String) :
    Hides hint (maskIf false hint value) (maskIf true hint value) := by
  have hplain : BrowserReplay.maskIf false hint value = value := rfl
  have hmasked : BrowserReplay.maskIf true hint value = maskSensitive hint value := rfl
  rw [hplain, hmasked, maskSensitive]
  split
  next h => exact .hidden h.1 h.2
  · exact .shown value

def Config.masking (config : Config) (masked : Bool) : Config :=
  { config with logging := { maskSensitive := masked } }

/-- A command is announced alike but for the value beside its hint. -/
theorem Perform.started_redacts (config : Config) (vars : Variables) (index : Nat)
    (command : Command) :
    (started (config.masking false) vars index command).Redacts
      (started (config.masking true) vars index command) := by
  have hother (hcommand : command.name ≠ "store") (target value : String) :
      (RunEvent.commandStarted index command.name target (maskIf false target value)).Redacts
        (.commandStarted index command.name target (maskIf true target value)) :=
    .started index hcommand (.maskIf target value)
  cases command with
  | store value name => exact .storing index (.maskIf _ _)
  -- Whatever it is called, such a command has no value that could be hidden.
  | unrecognized name => exact .same _
  | _ => exact hother (by simp [Command.name]) _ _

/-! ### Hiding and showing -/

namespace Entry.Redacts

variable {entry entry' : Entry}

theorem call?_eq (h : entry.Redacts entry') : entry'.call? = entry.call? := by
  cases h <;> rfl

theorem event? (h : entry.Redacts entry') :
    Option.Rel (fun told told' => told'.1 = told.1 ∧ told.2.Redacts told'.2) entry.event?
      entry'.event? := by
  cases h with
  | same =>
    cases entry.event? with
    | none => exact .none
    | some told => exact .some ⟨rfl, .same told.2⟩
  | event time h => exact .some ⟨rfl, h⟩

end Entry.Redacts

theorem Trace.calls_of_redacts {trace trace' : Trace}
    (h : List.Forall₂ Entry.Redacts trace trace') : trace'.calls = trace.calls := by
  induction h with
  | nil => rfl
  | cons hentry _ ih =>
    rw [calls, calls, List.filterMap_cons, List.filterMap_cons, hentry.call?_eq, ← calls, ← calls,
      ih]

theorem Trace.events_of_redacts {trace trace' : Trace}
    (h : List.Forall₂ Entry.Redacts trace trace') :
    List.Forall₂ (fun told told' => told'.1 = told.1 ∧ told.2.Redacts told'.2) trace.events
      trace'.events :=
  List.rel_filterMap (R := Entry.Redacts) (fun _ _ hentry => hentry.event?) h

/-- A page belongs to itself, and of two traces the second one may hide what the first one tells. -/
def Pairing.redacting (model : PageModel σ) : Pairing model model where
  same := Eq
  duration := 0
  shows := List.Forall₂ Entry.Redacts
  nil := .nil
  append h h' := List.rel_append h h'
  entry time what := .cons (.same ⟨time, what⟩) .nil

theorem Pairing.redacting_answers (model : PageModel σ) (call : PageCall) :
    (redacting model).Answers call where
  reply h := congrArg (fun page => (model page call).reply) h.symm
  elapsed h := congrArg (fun page => (model page call).elapsed) h.symm
  next h := congrArg (fun page => (model page call).page) h

/-- A command does the same whether credentials are hidden or not. -/
theorem perform_redacting (model : PageModel σ) (config : Config) (vars : Variables) (index : Nat)
    (command : Command) :
    Paired (Pairing.redacting model) Eq
      (perform model (config.masking false) vars index command)
      (perform model (config.masking true) vars index command) := by
  have hanswers := Pairing.redacting_answers model
  have htold {told told' : RunEvent} (h : told.Redacts told') (time : Nat) :
      (Pairing.redacting model).shows [⟨time, .event told⟩] [⟨time, .event told'⟩] :=
    List.Forall₂.cons (.event time h) .nil
  have hcarries : (Pairing.redacting model).Carries (config.masking false) (config.masking true)
      command := {
    timing := rfl
    keys := rfl
    answers := fun call _ => hanswers call
    stored := fun time name text => htold (.stored (.maskIf name text)) time
    marks := fun _ => Perform.mark_paired (by rfl) (hanswers _)
    opens := fun _ _ target =>
      Perform.openPage_paired (hanswers _) (fun _ => hanswers _) target }
  have hperform := perform_paired hcarries (.refl vars _)
    (htold (Perform.started_redacts config vars index command))
  exact hperform.mono fun _ _ => SameStored.eq

/-- A run that hides nothing tells the values that its report holds. -/
theorem Run.stored_of_shown (model : PageModel σ) (config : Config)
    (hshown : config.logging.maskSensitive = false) (script : Script) (steering : Steering)
    (page : σ) (time : Nat) :
    let done := run model config script steering page time
    ∀ report ∈ done.report, (Variables.ofList done.trace.stored).entries =
      report.vars.entries.map fun entry => (entry.1, .text entry.2.display) := by
  intro done report hmem
  obtain ⟨performances, last, -, -, hchain, hreport, hstored, -⟩ :=
    Run.drain_performs model config (Command.ofScript config.keys script) {} steering page time
  have hstored : done.trace.stored = performances.flatMap fun performance =>
      (performance.visit model config).trace.stored := hstored
  have hrebuilt : Variables.ofList done.trace.stored = last.shown config.logging.maskSensitive := by
    rw [← hchain.shown_setAll, ← hstored]
    rfl
  rw [hrebuilt, hreport report hmem, hshown]
  rfl

/-- Hiding credentials changes what is told of them and nothing else. Whatever steers the run and
whatever the page replies, a run that hides credentials makes the same calls at the same times as
one that does not, ends at the same time and has the same report. The variables in it have the
values that the run which hides nothing tells of them. The two runs tell as many events, of the same
kinds and at the same times, and of two of these one is like the other but for the value beside a
hint, which is the same, or not empty and told as a mask. -/
theorem hiding_changes_what_is_told (model : PageModel σ) (config : Config) (script : Script)
    (steering : Steering) (page : σ) (time : Nat) :
    let plain := run model (config.masking false) script steering page time
    let masked := run model (config.masking true) script steering page time
    masked.trace.calls = plain.trace.calls ∧ masked.time = plain.time ∧
    masked.report = plain.report ∧
    (∀ report ∈ plain.report, (Variables.ofList plain.trace.stored).entries =
      report.vars.entries.map fun entry => (entry.1, .text entry.2.display)) ∧
    List.Forall₂ (fun told told' => told'.1 = told.1 ∧ told.2.Redacts told'.2)
      plain.trace.events masked.trace.events := by
  intro plain masked
  obtain ⟨htime, hreport, htrace⟩ : Run.Same (Pairing.redacting model) plain masked :=
    run_paired (by rfl) (by rfl) (by rfl) (by rfl)
      (fun command vars index => (perform_redacting model config vars index command).sameStep _)
      script steering rfl time
  exact ⟨Trace.calls_of_redacts htrace, htime, hreport,
    Run.stored_of_shown model _ rfl script steering page time, Trace.events_of_redacts htrace⟩

end BrowserReplay
