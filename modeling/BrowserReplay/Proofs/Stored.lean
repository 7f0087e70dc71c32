import BrowserReplay.Proofs.Composed
import BrowserReplay.Proofs.TableRun

/-!
# The variables that a run has told

Of each variable that is stored an event tells the text, hidden if the settings ask for it. Storing
these texts in their order, beginning with nothing, gives the variables as the report shows them
(`stored_events_rebuild_variables`): each command stores what `Performance.write?` says and tells
just that, and a run performs its commands one after the other (`Chain`).
-/

namespace BrowserReplay

open Table

/-! ### Variables as they are shown -/

namespace Variables

def shown (hidden : Bool) (vars : Variables) : Variables where
  entries := vars.entries.map fun entry => (entry.1, .text (maskIf hidden entry.1 entry.2.display))
  increasing := by
    rw [NamesIncrease, List.pairwise_map]
    exact vars.increasing

theorem insertEntry_map (f : String → VarValue → VarValue) (name : String) (value : VarValue)
    (entries : List (String × VarValue)) :
    insertEntry name (f name value) (entries.map fun entry => (entry.1, f entry.1 entry.2)) =
      (insertEntry name value entries).map fun entry => (entry.1, f entry.1 entry.2) := by
  induction entries with
  | nil => rfl
  | cons entry rest ih =>
    simp only [List.map_cons, insertEntry]
    split
    · rfl
    · split
      · rfl
      · simp only [ih, List.map_cons]

theorem shown_set (hidden : Bool) (vars : Variables) (name : String) (value : VarValue) :
    (vars.set name value).shown hidden =
      (vars.shown hidden).set name (.text (maskIf hidden name value.display)) := by
  have hentries := insertEntry_map (fun name value => .text (maskIf hidden name value.display)) name
    value vars.entries
  simp only [shown, set, hentries]

theorem setAll_append (vars : Variables) (a b : List (String × VarValue)) :
    vars.setAll (a ++ b) = (vars.setAll a).setAll b :=
  List.foldl_append

end Variables

/-! ### What one command stores -/

def RunEvent.stored? : RunEvent → Option (String × VarValue)
  | .variableStored name text => some (name, .text text)
  | _ => none

def Trace.stored (trace : Trace) : List (String × VarValue) := trace.told.filterMap RunEvent.stored?

@[simp] theorem Trace.stored_append (a b : Trace) :
    Trace.stored (a ++ b) = Trace.stored a ++ Trace.stored b := by
  rw [stored, told_append, List.filterMap_append]
  rfl

@[simp] theorem Trace.stored_nil : Trace.stored [] = [] := rfl

@[simp] theorem Trace.stored_event (time : Nat) (event : RunEvent) (trace : Trace) :
    Trace.stored (⟨time, .event event⟩ :: trace) = event.stored?.toList ++ Trace.stored trace := by
  rw [stored, told_event, List.filterMap_cons]
  cases event.stored? <;> rfl

/-- A command that is performed: the variables that it finds, its number, and where and when. -/
structure Performance (σ : Type) where
  command : Command
  vars : Variables
  index : Nat
  page : σ
  time : Nat

namespace Performance

variable (model : PageModel σ) (config : Config)

def visit (performance : Performance σ) : Visited σ (Outcome × Variables) :=
  perform model config performance.vars performance.index performance.command performance.page
    performance.time

/-- Whether the element of a target is found when the command is performed. -/
def finds (performance : Performance σ) (target : Target) : Bool :=
  (locate model config.timing.waitOptions performance.vars target performance.page
    performance.time).result.found.isSome

def write? (performance : Performance σ) : Option (String × VarValue) :=
  let substitute := Template.substitute performance.vars
  match performance.command with
  | .store value name => some (substitute name, .text (substitute value))
  | .verifyElementPresent target name =>
    some (substitute name, .bool (performance.finds model config target))
  | _ => none

/-- What a command does to the variables, and what it tells of them. -/
structure Stores (performance : Performance σ) : Prop where
  after : (performance.visit model config).result.2 =
    performance.vars.setAll (performance.write? model config).toList
  told : (performance.visit model config).trace.stored =
    (performance.write? model config).toList.map fun entry =>
      (entry.1, .text (maskIf config.logging.maskSensitive entry.1 entry.2.display))
  /-- A command that stores tells so once, and no other command tells it. -/
  once : (performance.visit model config).trace.stored.length =
    if performance.command.stores then 1 else 0
  others : performance.command.stores = false →
    (performance.visit model config).result.2 = performance.vars
  /-- A command that stores is never abandoned. -/
  completes : performance.command.stores = true →
    (performance.visit model config).result.1 = .completed
  /-- A command that was abandoned, had nothing to do or went to another page has stored nothing. -/
  untouched : (performance.visit model config).result.1 ≠ .completed →
    (performance.visit model config).result.2 = performance.vars ∧
      (performance.visit model config).trace.stored = []

end Performance

theorem Trace.stored_of_body {index : Nat} {command : Command} {trace : Trace}
    (h : EventWord.Body index command trace.told) (hstores : command.stores = false) :
    trace.stored = [] := by
  rw [stored]
  generalize trace.told = told at h
  obtain ⟨failures, stored, _, hstored⟩ := h
  rw [hstores, Option.isSome_eq_false_iff, Option.isNone_iff_eq_none] at hstored
  subst hstored
  simp [RunEvent.stored?]

/-- A search tells of no variable, and finds what it locates. -/
theorem Perform.search_stored (model : PageModel σ) (config : Config) (vars : Variables)
    (index : Nat) (target : Target) (page : σ) (time : Nat) :
    (search model config vars index target page time).trace.stored = [] ∧
      (search model config vars index target page time).result =
        (locate model config.timing.waitOptions vars target page time).result := by
  obtain ⟨_, failures, _, htold⟩ := search_searched model config vars index target page time
  refine ⟨?_, rfl⟩
  rw [Trace.stored, htold]
  simp [RunEvent.stored?]

theorem Perform.mark_stored (model : PageModel σ) (config : Config) (handle : Handle) (page : σ)
    (time : Nat) : (mark model config handle page time).trace.stored = [] := by
  rw [Trace.stored, (mark_marked model config handle page time).2]
  rfl

/-- Whether an element is there is stored, and told, after the search and the mark. -/
theorem Perform.verify_stored (model : PageModel σ) (config : Config) (vars : Variables)
    (index : Nat) (target : Target) (name : Option String) (page : σ) (time : Nat) :
    let visit := act model config vars index (.verifyElementPresent target name) page time
    let name := Template.substitute vars name
    let value : VarValue :=
      .bool (locate model config.timing.waitOptions vars target page time).result.found.isSome
    visit.result = (.completed, vars.set name value) ∧
      visit.trace.stored =
        [(name, .text (maskIf config.logging.maskSensitive name value.display))] := by
  obtain ⟨hquiet, hfound⟩ := search_stored model config vars index target page time
  rw [act, Visit.bind_apply, ← hfound]
  generalize search model config vars index target page time = search at hquiet ⊢
  obtain ⟨page, time, trace, found, failures⟩ := search
  cases found with
  | none =>
    refine ⟨rfl, ?_⟩
    rw [Trace.stored_append, hquiet]
    rfl
  | some located =>
    have hmark := mark_stored model config located.handle page time
    refine ⟨rfl, ?_⟩
    dsimp only
    rw [Visit.bind_apply, Trace.stored_append, Trace.stored_append, hquiet, hmark]
    rfl

/-- A command that does not store leaves the variables as they are. -/
theorem Table.Row.vars_eq {config : Config} {vars after : Variables} {command : Command}
    {records : List CallRecord} (h : Row config vars command records after)
    (hstores : command.stores = false) : after = vars := by
  cases h with
  | store value name => cases hstores
  | present h hmarks => cases hstores
  | absent h => cases hstores
  | _ => rfl

namespace Performance

variable (model : PageModel σ) (config : Config)

theorem isSome_write? (performance : Performance σ) :
    (performance.write? model config).isSome = performance.command.stores := by
  unfold write?
  cases performance.command <;> rfl

theorem write?_eq_none {performance : Performance σ} (h : performance.command.stores = false) :
    performance.write? model config = none := by
  have hwrite := performance.isSome_write? model config
  rw [h] at hwrite
  simpa using hwrite

/-- What a command does to the variables follows from what it stores and tells, and from how it can
end. -/
theorem Stores.of_write {performance : Performance σ}
    (hafter : (performance.visit model config).result.2 =
      performance.vars.setAll (performance.write? model config).toList)
    (htold : (performance.visit model config).trace.stored =
      (performance.write? model config).toList.map fun entry =>
        (entry.1, .text (maskIf config.logging.maskSensitive entry.1 entry.2.display)))
    (hcompletes : performance.command.stores = true →
      (performance.visit model config).result.1 = .completed) :
    performance.Stores model config := by
  cases hstores : performance.command.stores with
  | false =>
    have hwrite := write?_eq_none model config hstores
    have hsame : (performance.visit model config).result.2 = performance.vars := by
      rw [hafter, hwrite]
      rfl
    have hquiet : (performance.visit model config).trace.stored = [] := by
      rw [htold, hwrite]
      rfl
    refine ⟨hafter, htold, ?_, fun _ => hsame, hcompletes, fun _ => ⟨hsame, hquiet⟩⟩
    simp [hquiet, hstores]
  | true =>
    have hwrite : (performance.write? model config).isSome = true :=
      (performance.isSome_write? model config).trans hstores
    refine ⟨hafter, htold, ?_, fun h => ?_, hcompletes, fun h => absurd (hcompletes hstores) h⟩
    · rw [htold, List.length_map, Option.length_toList, if_pos hwrite, if_pos hstores]
    · rw [hstores] at h
      cases h

theorem stores (performance : Performance σ) : performance.Stores model config := by
  obtain ⟨command, vars, index, page, time⟩ := performance
  -- A command that does not store may end in any way, but its row of calls leaves the variables and
  -- the shape of its events has no room for a stored one. The two others are looked at one by one.
  cases hstores : command.stores with
  | false =>
    obtain ⟨hrow, htold, _⟩ := Perform.act_finished model config vars index command page time
    have hwrite : write? model config ⟨command, vars, index, page, time⟩ = none :=
      write?_eq_none model config hstores
    refine .of_write model config ?_ ?_ fun h => ?_
    · rw [hwrite]
      exact hrow.vars_eq hstores
    · rw [hwrite]
      have hquiet := Trace.stored_of_body htold hstores
      unfold visit perform Perform.started
      cases command <;> exact hquiet
    · rw [hstores] at h
      cases h
  | true =>
    cases command with
    | store value name => exact .of_write model config rfl rfl fun _ => rfl
    | verifyElementPresent target name =>
      obtain ⟨hresult, htold⟩ :=
        Perform.verify_stored model config vars index target name page time
      exact .of_write model config (congrArg Prod.snd hresult) htold fun _ =>
        congrArg Prod.fst hresult
    | _ => cases hstores

end Performance

/-! ### Runs -/

/-- Commands that are performed one after the other, each with the variables and on the page that
the one before has left, and with the next number. -/
inductive Chain (model : PageModel σ) (config : Config) :
    Variables → Nat → σ → List (Performance σ) → Variables → σ → Prop
  | nil (vars : Variables) (index : Nat) (page : σ) :
      Chain model config vars index page [] vars page
  | cons {command : Command} {vars last : Variables} {index time : Nat} {page left : σ}
      {rest : List (Performance σ)} {visit : Visited σ (Outcome × Variables)}
      (hvisit : visit = perform model config vars index command page time)
      (h : Chain model config visit.result.2 (index + 1) visit.page rest last left) :
      Chain model config vars index page (⟨command, vars, index, page, time⟩ :: rest) last left

/-- What the commands of a chain tell, added to the variables before it as they are shown, gives the
variables after it as they are shown. -/
theorem Chain.shown_setAll {model : PageModel σ} {config : Config} {vars last : Variables}
    {index : Nat} {page left : σ} {performances : List (Performance σ)}
    (h : Chain model config vars index page performances last left) :
    (vars.shown config.logging.maskSensitive).setAll
        (performances.flatMap fun performance => (performance.visit model config).trace.stored) =
      last.shown config.logging.maskSensitive := by
  induction h with
  | nil vars index page => rfl
  | @cons command vars last index time page left rest visit hvisit h ih =>
    obtain ⟨hafter, htold, _⟩ :=
      Performance.stores model config ⟨command, vars, index, page, time⟩
    rw [List.flatMap_cons, Variables.setAll_append, htold, ← ih, hvisit]
    refine congrArg (Variables.setAll · _) ?_
    rw [Performance.visit] at hafter
    rw [hafter]
    cases Performance.write? model config ⟨command, vars, index, page, time⟩ with
    | none => rfl
    | some entry => exact (Variables.shown_set _ vars entry.1 entry.2).symm

namespace Entry

def isActive (entry : Entry) : Bool :=
  match entry.what with
  | .call _ _ => true
  | .event event => event.kind = .commandStarted
  | .remark _ | .notice _ => false

end Entry

namespace Trace

def active (trace : Trace) : Trace := trace.filter Entry.isActive

@[simp] theorem active_append (a b : Trace) : active (a ++ b) = active a ++ active b :=
  List.filter_append a b

end Trace

/-- A run performs the commands of a chain one after the other, from a boundary on, and announces,
calls and tells of variables what they do. -/
structure Performs (model : PageModel σ) (config : Config) (queue : List Command)
    (progress : Progress) (page : σ) (time : Nat) (run : Run σ)
    (performances : List (Performance σ)) (last : Variables) : Prop where
  commands : performances.map Performance.command = queue.take performances.length
  started : EventWord.number .commandStarted run.trace.told = performances.length
  chain : Chain model config progress.vars progress.index page performances last run.page
  report : ∀ report ∈ run.report, report.vars = last
  stored : run.trace.stored =
    performances.flatMap fun performance => (performance.visit model config).trace.stored
  records : run.trace.records =
    performances.flatMap fun performance => (performance.visit model config).trace.records
  active : run.trace.active =
    performances.flatMap fun performance => (performance.visit model config).trace.active
  begun : ∀ performance ∈ performances, time ≤ performance.time
  apart : performances.Pairwise fun early late => (early.visit model config).time ≤ late.time

theorem Look.active_eq_nil {index now later : Nat} {clearance : Clearance} {looked : Trace}
    (h : Look index now clearance later looked) : looked.active = [] := by
  cases h <;> rfl

theorem Run.active_conclusion (index : Nat) (command : Command) (outcome : Outcome) (time : Nat)
    (later : Trace) :
    Trace.active (⟨time, conclusion index command outcome⟩ :: later) = later.active := by
  cases outcome <;> rfl

theorem Look.stored_eq_nil {index now later : Nat} {clearance : Clearance} {looked : Trace}
    (h : Look index now clearance later looked) : looked.stored = [] := by
  cases h <;> rfl

theorem Run.stored_conclusion (index : Nat) (command : Command) (outcome : Outcome) (time : Nat)
    (later : Trace) :
    Trace.stored (⟨time, conclusion index command outcome⟩ :: later) = later.stored := by
  cases outcome <;> rfl

theorem Run.drain_performs (model : PageModel σ) (config : Config) (queue : List Command)
    (progress : Progress) (steering : Steering) (page : σ) (time : Nat) :
    ∃ performances last, Performs model config queue progress page time
      (drain model config queue progress steering page time) performances last := by
  refine drain_induction model config
    (motive := fun queue progress page time run =>
      ∃ performances last, Performs model config queue progress page time run performances last)
    ?completed ?stuck ?cancelled ?left ?next queue progress steering page time
  case completed =>
    intro progress steering page time
    exact ⟨[], progress.vars, rfl, rfl, .nil .., by rintro _ ⟨⟩; rfl, rfl, rfl, rfl, nofun, .nil⟩
  case stuck =>
    intro command rest progress steering page time later looked hlook
    exact ⟨[], progress.vars, rfl, hlook.number_started, .nil .., nofun, hlook.stored_eq_nil,
      hlook.records_eq_nil, hlook.active_eq_nil, nofun, .nil⟩
  case cancelled =>
    intro command rest progress steering page time later looked hlook
    refine ⟨[], progress.vars, rfl, ?_, .nil .., by rintro _ ⟨⟩; rfl, ?_, ?_, ?_, nofun, .nil⟩
    · simp [hlook.number_started, finish, RunEvent.kind]
    · simp [hlook.stored_eq_nil, finish, RunEvent.stored?]
    · simp [hlook.records_eq_nil, finish]
    · rw [trace_after, Trace.active_append, hlook.active_eq_nil]
      rfl
  case left =>
    intro command rest progress steering page time later looked visit url hlook hvisit _
    obtain ⟨_, hstarted⟩ := perform_chronicle model config progress command page later hvisit
    refine ⟨[⟨command, progress.vars, progress.index, page, later⟩], visit.result.2, rfl, ?_,
      .cons hvisit (.nil ..), by rintro _ ⟨⟩; rfl, ?_, ?_, ?_,
      List.forall_mem_singleton.2 hlook.spans.le, List.pairwise_singleton _ _⟩
    · simp [hlook.number_started, hstarted, finish, RunEvent.kind]
    · simp [hlook.stored_eq_nil, finish, RunEvent.stored?, Performance.visit, hvisit]
    · simp [hlook.records_eq_nil, finish, Performance.visit, hvisit]
    · rw [trace_after, Trace.active_append, Trace.active_append, Trace.active_append,
        hlook.active_eq_nil, hvisit]
      exact List.append_assoc _ _ _
  case next =>
    intro command rest progress page time later looked visit run hlook hvisit _ hrun
    obtain ⟨_, hstarted⟩ := perform_chronicle model config progress command page later hvisit
    obtain ⟨performances, last, hcommands, hnumber, hchain, hreport, hstored, hrecords, hactive,
      hbegun, hapart⟩ := hrun
    have hlasts := ((perform_composed model config progress.vars progress.index command).spans page
      later).le
    have hlater := hlook.spans.le
    rw [← hvisit] at hlasts
    refine ⟨⟨command, progress.vars, progress.index, page, later⟩ :: performances, last, ?_, ?_,
      .cons hvisit hchain, hreport, ?_, ?_, ?_, ?_, ?_⟩
    · simp [hcommands]
    · have hending := number_started_ending progress.index command visit.result.1
      simp [told_conclusion, hlook.number_started, hstarted, hending, hnumber, Nat.add_comm]
    · simp [stored_conclusion, hlook.stored_eq_nil, hstored, Performance.visit, hvisit]
    · simp [records_conclusion, hlook.records_eq_nil, hrecords, Performance.visit, hvisit]
    · simp [active_conclusion, hlook.active_eq_nil, hactive, Performance.visit, hvisit]
    · refine List.forall_mem_cons.2 ⟨hlater, fun other hother => ?_⟩
      have hbegins := hbegun other hother
      omega
    · refine List.pairwise_cons.2 ⟨fun other hother => ?_, hapart⟩
      have hbegins := hbegun other hother
      rw [Performance.visit, ← hvisit]
      omega

/-- The events of stored variables rebuild the variables of a run. Storing the texts that these
events tell, one after the other and beginning with nothing, leaves exactly the variables of the
report, each as its text or, if the settings hide credentials, as its name lets it be shown. The run
performs the first commands of its script, one after the other, and of these each `store` and each
`verifyElementPresent` tells one such event and completes; the latter tells whether it has found its
element. Nothing else stores anything, no matter how it ends. -/
theorem stored_events_rebuild_variables (model : PageModel σ) (config : Config) (script : Script)
    (steering : Steering) (page : σ) (time : Nat) :
    let done := run model config script steering page time
    let rebuilt := Variables.ofList done.trace.stored
    ∃ performances last,
      performances.map Performance.command =
        (Command.ofScript config.keys script).take
          (EventWord.number .commandStarted done.trace.told) ∧
      Chain model config .empty 0 page performances last done.page ∧
      done.trace.records =
        performances.flatMap (fun performance => (performance.visit model config).trace.records) ∧
      done.trace.stored =
        performances.flatMap (fun performance => (performance.visit model config).trace.stored) ∧
      (∀ performance ∈ performances, performance.Stores model config) ∧
      rebuilt = last.shown config.logging.maskSensitive ∧
      ∀ report ∈ done.report, report.vars = last ∧
        (config.logging.maskSensitive = false → rebuilt.entries =
          report.vars.entries.map fun entry => (entry.1, .text entry.2.display)) ∧
        (config.logging.maskSensitive = true → rebuilt.entries =
          report.vars.entries.map fun entry =>
            (entry.1, .text (maskSensitive entry.1 entry.2.display))) := by
  intro done rebuilt
  obtain ⟨performances, last, hcommands, hstarted, hchain, hreport, hstored, hrecords, -⟩ :=
    Run.drain_performs model config (Command.ofScript config.keys script) {} steering page time
  have hstarted : EventWord.number .commandStarted done.trace.told = performances.length := hstarted
  have hstored : done.trace.stored = performances.flatMap fun performance =>
      (performance.visit model config).trace.stored := hstored
  have hrebuilt : rebuilt = last.shown config.logging.maskSensitive := by
    rw [← hchain.shown_setAll, ← hstored]
    rfl
  refine ⟨performances, last, ?_, hchain, hrecords, hstored, fun performance _ =>
    performance.stores model config, hrebuilt, fun report hmem => ⟨hreport report hmem, ?_⟩⟩
  · rw [hstarted]
    exact hcommands
  · have hvars : report.vars = last := hreport report hmem
    rw [hrebuilt, hvars]
    constructor <;> intro hmask <;> rw [hmask] <;> rfl

end BrowserReplay
