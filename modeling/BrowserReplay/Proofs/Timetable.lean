import BrowserReplay.Proofs.Causal
import BrowserReplay.Proofs.Polling
import BrowserReplay.Proofs.ReportAccount
import BrowserReplay.Proofs.Stored
import BrowserReplay.Proofs.Trials
import Mathlib.Data.List.Chain

/-!
# How long a run lasts

On a page that answers at once only two things take time: looking again for an element, and the rest
after a command. A wait lasts one interval for each look that finds nothing (`waitFor_time`), a
command lasts as long as the waits that it makes (`Performance.timed`), and a run as long as its
commands and the rests after them (`run_lasts_waits_and_rests`).
-/

namespace BrowserReplay

/-- Calls to a page take no time. -/
def PageModel.Instant (model : PageModel σ) : Prop := ∀ page call, (model page call).elapsed = 0

def PageCall.isQuery : PageCall → Bool
  | .query _ => true
  | _ => false

def CallRecord.isMiss : CallRecord → Bool
  | ⟨.query _, .ok none⟩ => true
  | _ => false

namespace Trace

def queries (trace : Trace) : List (Nat × CallRecord) := trace.calls.filter (·.2.1.isQuery)

def misses (trace : Trace) : Nat := trace.records.countP CallRecord.isMiss

@[simp] theorem queries_nil : queries [] = [] := rfl

@[simp] theorem queries_append (a b : Trace) :
    Trace.queries (a ++ b) = Trace.queries a ++ Trace.queries b := by
  rw [queries, calls_append, List.filter_append]
  rfl

theorem misses_looked (time : Nat) (selector : Selector) (line : LogLine) (trace : Trace) :
    misses (⟨time, .call (.query selector) (.ok none)⟩ :: ⟨time, .remark line⟩ :: trace) =
      trace.misses + 1 :=
  List.countP_cons_of_pos rfl

theorem queries_map_event (time : Nat) (events : List RunEvent) :
    queries (events.map (⟨time, .event ·⟩)) = [] := by
  induction events with
  | nil => rfl
  | cons event events ih => exact ih

end Trace

variable {model : PageModel σ} {config : Config} {options : WaitOptions}

/-! ### Waits -/

/-- A wait rests after each look that finds nothing, and takes no other time. -/
theorem Wait.poll_time (hinstant : model.Instant) (raw : String) (start budget : Nat) (page : σ)
    (now : Nat) :
    let wait := poll model options raw start budget page now
    wait.trace.misses ≤ budget ∧
      wait.time + reach options (budget - wait.trace.misses) = now + reach options budget := by
  induction budget generalizing page now with
  | zero => exact ⟨Nat.le_refl 0, rfl⟩
  | succ budget ih =>
    by_cases hexpired : options.timeout ≤ now - start
    · rw [poll_of_expired model hexpired]
      exact ⟨Nat.zero_le _, rfl⟩
    have hdue : now - start < options.timeout := Nat.lt_of_not_le hexpired
    cases hsettled : settle? raw (model page (.query (.parse raw))).reply with
    | some result =>
      rw [poll_of_settled hdue (hinstant _ _) hsettled]
      generalize (model page (.query (.parse raw))).reply = reply at hsettled ⊢
      obtain (cause : PageError) | (_ | (handle : Handle)) := reply
      · exact ⟨Nat.zero_le _, rfl⟩
      · cases hsettled
      · exact ⟨Nat.zero_le _, rfl⟩
    | none =>
      have hmiss : (model page (.query (.parse raw))).reply = .ok none := by
        generalize (model page (.query (.parse raw))).reply = reply at hsettled ⊢
        obtain (cause : PageError) | (_ | (handle : Handle)) := reply
        · cases hsettled
        · rfl
        · cases hsettled
      have hrest := ih (model page (.query (.parse raw))).page (now + pause options budget)
      rw [poll_of_miss hdue (hinstant _ _) hmiss]
      revert hrest
      generalize poll model options raw start budget _ _ = wait
      intro hrest
      show Trace.misses (_ :: _ :: wait.trace) ≤ _ ∧
        wait.time + reach options (_ - Trace.misses (_ :: _ :: wait.trace)) = _
      rw [Trace.misses_looked, Nat.add_sub_add_right, reach_succ]
      exact ⟨Nat.succ_le_succ hrest.1, by omega⟩

theorem waitFor_time (hinstant : model.Instant) (raw : String) (page : σ) (start : Nat) :
    let wait := waitFor model options raw page start
    wait.time = start + Wait.rests options wait.trace.misses := by
  have hwait : waitFor model options raw page start =
    Wait.poll model options raw start (Wait.looks options) page start := rfl
  obtain ⟨hle, htime⟩ :=
    @Wait.poll_time _ model options hinstant raw start (Wait.looks options) page start
  have hreach := Wait.reach_looks hle
  dsimp only
  rw [hwait]
  omega

/-! ### Commands -/

def Visit.Brief (visit : Visit σ α) : Prop :=
  ∀ page time, (visit page time).time = time ∧ (visit page time).trace.queries = []

namespace Visit.Brief

theorem pure (result : α) : Brief (pure result : Visit σ α) := fun _ _ => ⟨rfl, rfl⟩

theorem bind {first : Visit σ α} {next : α → Visit σ β} (hfirst : first.Brief)
    (hnext : ∀ result, (next result).Brief) : (first >>= next).Brief := by
  intro page time
  obtain ⟨htime, hquiet⟩ := hfirst page time
  obtain ⟨htime', hquiet'⟩ := hnext (first page time).result (first page time).page
    (first page time).time
  rw [bind_apply]
  refine ⟨htime'.trans htime, ?_⟩
  rw [Trace.queries_append, hquiet, hquiet']
  rfl

theorem tell (event : RunEvent) : Brief (tell event : Visit σ Unit) := fun _ _ => ⟨rfl, rfl⟩

theorem tellAll (events : List RunEvent) : Brief (tellAll events : Visit σ Unit) :=
  fun _ time => ⟨rfl, Trace.queries_map_event time events⟩

theorem remark (level : LogLevel) (message : String) :
    Brief (remark level message : Visit σ Unit) :=
  fun _ _ => ⟨rfl, rfl⟩

theorem call (hinstant : model.Instant) {call : PageCall} (h : call.isQuery = false) :
    Brief (Visit.call model call) := by
  refine fun page time => ⟨congrArg (time + ·) (hinstant page call), ?_⟩
  exact List.filter_eq_nil_iff.2 (List.forall_mem_singleton.2 (Bool.eq_false_iff.1 h))

end Visit.Brief

/-- A visit that began at some time has lasted as long as some waits, and has looked for nothing but
what they look for. -/
structure Visited.Takes (model : PageModel σ) (options : WaitOptions) (start : Nat)
    (waits : List (Trial σ)) (visited : Visited σ α) : Prop where
  time : visited.time = start + (waits.map (Trial.elapsed model options)).sum
  queries : visited.trace.queries =
    waits.flatMap fun trial => (trial.visit model options).trace.queries

theorem Visit.Brief.takes {visit : Visit σ α} (h : visit.Brief) (page : σ) (time : Nat) :
    (visit page time).Takes model options time [] :=
  ⟨(h page time).1, (h page time).2⟩

theorem Visited.Takes.bind {first : Visit σ α} {next : α → Visit σ β} {page : σ} {time : Nat}
    {waits : List (Trial σ)} (h : (first page time).Takes model options time waits)
    (hnext : ∀ result, (next result).Brief) :
    ((first >>= next) page time).Takes model options time waits := by
  obtain ⟨htime, hquiet⟩ := hnext (first page time).result (first page time).page
    (first page time).time
  rw [Visit.bind_apply]
  refine ⟨htime.trans h.time, ?_⟩
  rw [Trace.queries_append, hquiet, List.append_nil]
  exact h.queries

namespace Trial

/-- The waits for candidates up to the first that succeeds, or all of them if none does. -/
def untilFound (model : PageModel σ) (options : WaitOptions) :
    List String → (page : σ) → (start : Nat) → List (Trial σ)
  | [], _, _ => []
  | raw :: rest, page, start =>
    let trial : Trial σ := ⟨raw, page, start⟩
    let wait := trial.visit model options
    trial ::
      match wait.result with
      | .ok _ => []
      | .error _ => untilFound model options rest wait.page wait.time

theorem untilFound_prefix (candidates : List String) (page : σ) (start : Nat) :
    (untilFound model options candidates page start).map raw <+: candidates := by
  induction candidates generalizing page start with
  | nil => exact List.nil_prefix
  | cons selector rest ih =>
    rw [untilFound, List.map_cons]
    refine List.cons_prefix_cons.2 ⟨rfl, ?_⟩
    split
    · exact List.nil_prefix
    · exact ih _ _

theorem untilFound_of_found {trial : Trial σ} {handle : Handle}
    (h : (trial.visit model options).result = .ok handle) (rest : List String) :
    untilFound model options (trial.raw :: rest) trial.page trial.start = [trial] := by
  simp only [untilFound, h]

theorem untilFound_of_failed {trial : Trial σ} {failure : WaitError}
    (h : (trial.visit model options).result = .error failure) (rest : List String) :
    untilFound model options (trial.raw :: rest) trial.page trial.start =
      trial :: untilFound model options rest (trial.visit model options).page
        (trial.visit model options).time := by
  simp only [untilFound, h]

/-- These are the waits that a search makes. -/
theorem made_untilFound (candidates : List String) (position : Nat) (page : σ) (start : Nat) :
    Made model options page start (untilFound model options candidates page start)
      (tryCandidates model options position candidates page start) := by
  induction candidates generalizing position page start with
  | nil => exact .nil
  | cons selector rest ih =>
    let trial : Trial σ := ⟨selector, page, start⟩
    have hnothing : Made model options (trial.visit model options).page
        (trial.visit model options).time [] ⟨_, _, _, _⟩ := .nil
    cases hresult : (trial.visit model options).result with
    | ok handle =>
      exact untilFound_of_found hresult rest ▸ tryCandidates_of_found hresult position rest ▸
        hnothing.cons _ _
    | error failure =>
      have hlater := ih (position + 1) (trial.visit model options).page
        (trial.visit model options).time
      exact untilFound_of_failed hresult rest ▸ tryCandidates_of_failed hresult position rest ▸
        hlater.cons _ _

end Trial

theorem Trace.queries_flatMap (list : List α) (f : α → Trace) :
    Trace.queries (list.flatMap f) = list.flatMap fun a => (f a).queries := by
  induction list with
  | nil => rfl
  | cons a rest ih => rw [List.flatMap_cons, List.flatMap_cons, queries_append, ih]

namespace Perform

variable (hinstant : model.Instant)

theorem search_takes (vars : Variables) (index : Nat) (target : Target) (page : σ) (time : Nat) :
    (search model config vars index target page time).Takes model config.timing.waitOptions time
      (Trial.untilFound model config.timing.waitOptions (target.candidates vars) page time) := by
  have hmade : Trial.Made model config.timing.waitOptions page time
      (Trial.untilFound model config.timing.waitOptions (target.candidates vars) page time)
      (tryCandidates model config.timing.waitOptions 0 (target.candidates vars) page time) :=
    Trial.made_untilFound _ 0 page time
  refine Visited.Takes.bind ⟨hmade.time, ?_⟩ fun search =>
    (Visit.Brief.tellAll _).bind fun _ => .pure _
  rw [← Trace.queries_flatMap, ← hmade.trace]
  rfl

include hinstant

theorem mark_brief (handle : Handle) : (mark model config handle).Brief := by
  unfold mark
  split
  · refine (Visit.Brief.call hinstant rfl).bind fun reply => ?_
    obtain (error : PageError) | _ := reply
    · exact .remark _ _
    · exact .pure _
  · exact .pure _

theorem clickOn_brief (handle : Handle) : (clickOn model handle).Brief :=
  (Visit.Brief.call hinstant rfl).bind fun _ => .pure _

theorem writeInto_brief (text : String) (handle : Handle) :
    (writeInto model text handle).Brief := by
  refine (Visit.Brief.call hinstant rfl).bind fun reply => ?_
  obtain (error : PageError) | _ := reply
  · exact .pure _
  · exact (Visit.Brief.call hinstant rfl).bind fun _ => .pure _

theorem goTo_brief (failure url : String) : (goTo model failure url).Brief := by
  refine (Visit.Brief.call hinstant rfl).bind fun reply => ?_
  obtain (error : PageError) | (arrival : Arrival) := reply
  · exact (Visit.Brief.remark _ _).bind fun _ => .pure _
  · exact .pure _

theorem openPage_brief (target : String) : (openPage model target).Brief := by
  refine (Visit.Brief.call hinstant rfl).bind fun location => ?_
  obtain (error : PageError) | (current : String) := location
  · refine (Visit.Brief.remark _ _).bind fun _ => ?_
    split
    · exact (Visit.Brief.remark _ _).bind fun _ => .pure _
    · exact goTo_brief hinstant _ _
  · dsimp only
    split
    · exact goTo_brief hinstant _ _
    · split
      · exact (Visit.Brief.remark _ _).bind fun _ => .pure _
      · exact goTo_brief hinstant _ _

theorem pressKey_brief (value : Option String) : (pressKey model config value).Brief := by
  unfold pressKey
  split
  · exact (Visit.Brief.call hinstant rfl).bind fun _ => .pure _
  · exact .pure _

omit hinstant in
theorem store_brief (vars : Variables) (name : String) (value : VarValue) :
    (store config vars name value : Visit σ Variables).Brief :=
  (Visit.Brief.tell _).bind fun _ => .pure _

theorem onElement_takes (vars : Variables) (index : Nat) (target : Target)
    {act : Handle → Visit σ Outcome} (hact : ∀ handle, (act handle).Brief) (page : σ) (time : Nat) :
    (onElement model config vars index target act page time).Takes model config.timing.waitOptions
      time (Trial.untilFound model config.timing.waitOptions (target.candidates vars) page
        time) := by
  refine (search_takes vars index target page time).bind fun search => ?_
  split
  · exact (mark_brief hinstant _).bind fun _ => hact _
  · exact .pure _

end Perform

namespace Performance

variable (model) (config)

/-- The candidates for the element of a command. Only some commands act on an element. -/
def candidates (performance : Performance σ) : List String :=
  match performance.command.element? with
  | some target => target.candidates performance.vars
  | none => []

def waits (performance : Performance σ) : List (Trial σ) :=
  Trial.untilFound model config.timing.waitOptions performance.candidates performance.page
    performance.time

/-- How long the waits of a command last together. -/
def waited (performance : Performance σ) : Nat :=
  ((performance.waits model config).map (Trial.elapsed model config.timing.waitOptions)).sum

/-- What takes time in a command. -/
structure Timed (performance : Performance σ) : Prop where
  /-- A command waits for its candidates in order, and leaves out the last ones if one before them
  is found. -/
  raws : (performance.waits model config).map Trial.raw <+: performance.candidates
  queries : (performance.visit model config).trace.queries =
    (performance.waits model config).flatMap fun trial =>
      (trial.visit model config.timing.waitOptions).trace.queries
  time : (performance.visit model config).time =
    performance.time + performance.waited model config
  each : ∀ trial ∈ performance.waits model config,
    trial.elapsed model config.timing.waitOptions =
      Wait.rests config.timing.waitOptions
        (trial.visit model config.timing.waitOptions).trace.misses
  /-- With pauses between its looks no wait is cut short. -/
  whole : 0 < config.timing.pollInterval → ∀ trial ∈ performance.waits model config,
    ∀ budget, Wait.looks config.timing.waitOptions ≤ budget →
      Wait.poll model config.timing.waitOptions trial.raw trial.start budget trial.page
        trial.start = trial.visit model config.timing.waitOptions

/-- The next command of a run begins where one has left off, after its waits and one rest. -/
structure Before (performance next : Performance σ) : Prop where
  vars : next.vars = (performance.visit model config).result.2
  index : next.index = performance.index + 1
  page : next.page = (performance.visit model config).page
  time : next.time =
    performance.time + performance.waited model config + config.timing.commandDelay

end Performance

theorem Performance.takes (hinstant : model.Instant) (performance : Performance σ) :
    (performance.visit model config).Takes model config.timing.waitOptions performance.time
      (performance.waits model config) := by
  obtain ⟨command, vars, index, page, time⟩ := performance
  -- The announcement takes no time, so what is left to do begins on the same page at the same time.
  suffices hact : (Perform.act model config vars index command page time).Takes model
      config.timing.waitOptions time (waits model config ⟨command, vars, index, page, time⟩) from
    ⟨hact.time, hact.queries⟩
  cases command with
  | store value name =>
    exact ((Perform.store_brief vars _ _).bind fun _ => .pure _).takes page time
  | openPage url =>
    exact ((Perform.openPage_brief hinstant _).bind fun _ => .pure _).takes page time
  | click target =>
    exact (Perform.onElement_takes hinstant vars index target
      (Perform.clickOn_brief hinstant) page time).bind fun _ => .pure _
  | type target text =>
    exact (Perform.onElement_takes hinstant vars index target
      (Perform.writeInto_brief hinstant _) page time).bind fun _ => .pure _
  | verifyElementPresent target name =>
    refine (Perform.search_takes vars index target page time).bind fun search => ?_
    have hstore : Visit.Brief (σ := σ) (do
        pure (Outcome.completed, ← Perform.store config vars (Template.substitute vars name)
          (.bool search.found.isSome))) :=
      (Perform.store_brief vars _ _).bind fun _ => .pure _
    split
    · exact (Perform.mark_brief hinstant _).bind fun _ => hstore
    · exact hstore
  | finish => exact (Visit.Brief.pure _).takes page time
  | keyPress value =>
    exact ((Perform.pressKey_brief hinstant value).bind fun _ => .pure _).takes page time
  | unrecognized name => exact ((Visit.Brief.remark _ _).bind fun _ => .pure _).takes page time

theorem Performance.timed (hinstant : model.Instant) (performance : Performance σ) :
    performance.Timed model config where
  raws := Trial.untilFound_prefix _ _ _
  queries := (performance.takes hinstant).queries
  time := (performance.takes hinstant).time
  each trial _ := by
    have hwait : (trial.visit model config.timing.waitOptions).time = trial.start +
        Wait.rests config.timing.waitOptions
          (trial.visit model config.timing.waitOptions).trace.misses :=
      waitFor_time hinstant trial.raw trial.page trial.start
    rw [Trial.elapsed, hwait, Nat.add_sub_cancel_left]
  whole hinterval trial _ _ hbudget :=
    (waitFor_eq_poll model hinterval hbudget trial.raw trial.page trial.start).symm

/-! ### Runs -/

namespace Run

variable (model) (config)

def performances : List Command → Progress → (page : σ) → (time : Nat) → List (Performance σ)
  | [], _, _, _ => []
  | command :: rest, progress, page, time =>
    let performance : Performance σ :=
      ⟨command, progress.vars, progress.index, page, time⟩
    let visit := performance.visit model config
    performance ::
      match departure? config visit.result.1 with
      | some _ => []
      | none =>
        performances rest (advance progress visit) visit.page
          (visit.time + config.timing.commandDelay)

section Step

variable {model} {config} {command : Command} (rest : List Command) {progress : Progress} {page : σ}
  {time : Nat} {visit : Visited σ (Outcome × Variables)}
  (hvisit : perform model config progress.vars progress.index command page time = visit)

include hvisit

theorem performances_next (h : departure? config visit.result.1 = none) :
    performances model config (command :: rest) progress page time =
      ⟨command, progress.vars, progress.index, page, time⟩ ::
        performances model config rest (advance progress visit) visit.page
          (visit.time + config.timing.commandDelay) := by
  subst hvisit
  simp only [performances, Performance.visit, h]

theorem performances_left {url : String} (h : departure? config visit.result.1 = some url) :
    performances model config (command :: rest) progress page time =
      [⟨command, progress.vars, progress.index, page, time⟩] := by
  subst hvisit
  simp only [performances, Performance.visit, h]

end Step

/-- The rest that a run has left out because it has left its page. -/
def restLeftOut (report : Report) : Nat :=
  if report.state.destination?.isSome then config.timing.commandDelay else 0

/-- How the commands that a run performs stand to the run, from a boundary on. -/
structure Timetable (queue : List Command) (progress : Progress) (page : σ) (time : Nat)
    (run : Run σ) (performances : List (Performance σ)) : Prop where
  commands : performances.map Performance.command = queue.take performances.length
  announcements : run.trace.announcements = performances.map fun performance =>
    (performance.time, Perform.started config performance.vars performance.index
      performance.command)
  queries : run.trace.queries = performances.flatMap fun performance =>
    (performance.visit model config).trace.queries
  first : ∀ performance ∈ performances.head?, performance.vars = progress.vars ∧
    performance.index = progress.index ∧ performance.page = page ∧ performance.time = time
  follows : performances.IsChain (Performance.Before model config)
  lasts : ∃ report, run.report = some report ∧
    report.dispatched = progress.index + performances.length ∧
    run.time + restLeftOut config report =
      time + (performances.map (Performance.waited model config)).sum +
        config.timing.commandDelay * performances.length

end Run

theorem Trace.queries_conclusion (index : Nat) (command : Command) (outcome : Outcome)
    (time : Nat) : Trace.queries [⟨time, Run.conclusion index command outcome⟩] = [] := by
  cases outcome <;> rfl

theorem Trace.announcements_conclusion (index : Nat) (command : Command) (outcome : Outcome)
    (time : Nat) : Trace.announcements [⟨time, Run.conclusion index command outcome⟩] = [] := by
  cases outcome <;> rfl

theorem Run.drain_timetable (hinstant : model.Instant) (queue : List Command) (progress : Progress)
    (page : σ) (time : Nat) :
    Timetable model config queue progress page time
      (drain model config queue progress .standalone page time)
      (performances model config queue progress page time) := by
  induction queue generalizing progress page time with
  | nil => exact ⟨rfl, rfl, rfl, nofun, .nil, _, rfl, rfl, rfl⟩
  | cons command rest ih =>
    obtain ⟨visit, hvisit⟩ : ∃ visit,
      perform model config progress.vars progress.index command page time = visit := ⟨_, rfl⟩
    have hannounced :=
      announcements_perform model config progress.vars progress.index command page time
    obtain ⟨-, -, htime, -, -⟩ : Performance.Timed model config
      ⟨command, progress.vars, progress.index, page, time⟩ := Performance.timed hinstant _
    rw [Performance.visit, hvisit] at htime
    dsimp only at htime
    rw [hvisit] at hannounced
    cases hdeparture : departure? config visit.result.1 with
    | some url =>
      rw [drain_standalone_left model config rest hvisit hdeparture,
        performances_left rest hvisit hdeparture]
      refine ⟨rfl, ?_, ?_, ?_, .singleton _, _, rfl, rfl, ?_⟩
      · rw [trace_after, Trace.announcements_append, Trace.announcements_append, hannounced]
        rfl
      · rw [trace_after, Trace.queries_append, Trace.queries_append, ← hvisit]
        exact List.append_nil _
      · rintro _ ⟨⟩
        exact ⟨rfl, rfl, rfl, rfl⟩
      · show visit.time + config.timing.commandDelay = _
        rw [htime, List.map_singleton, List.sum_singleton, List.length_singleton, Nat.mul_one]
    | none =>
      obtain ⟨hcommands, hannounces, hqueries, hfirst, hfollows, report, hreport, hdispatched,
        hlasts⟩ := ih (advance progress visit) visit.page
          (visit.time + config.timing.commandDelay)
      rw [drain_standalone_next model config rest hvisit hdeparture,
        performances_next rest hvisit hdeparture]
      refine ⟨?_, ?_, ?_, ?_, List.isChain_cons.2 ⟨?_, hfollows⟩, report, hreport, ?_, ?_⟩
      · rw [List.map_cons, hcommands]
        rfl
      · rw [trace_after, Trace.announcements_append, Trace.announcements_append, hannounced,
          Trace.announcements_conclusion, hannounces]
        rfl
      · rw [trace_after, Trace.queries_append, Trace.queries_append, Trace.queries_conclusion,
          hqueries, ← hvisit, List.append_nil]
        rfl
      · rintro _ ⟨⟩
        exact ⟨rfl, rfl, rfl, rfl⟩
      · intro next hnext
        obtain ⟨hvars, hindex, hpage, hstart⟩ := hfirst next hnext
        refine ⟨?_, hindex, ?_, ?_⟩
        · rw [hvars, ← hvisit]
          rfl
        · rw [hpage, ← hvisit]
          rfl
        · rw [hstart, htime]
      · rw [hdispatched, List.length_cons, advance, Nat.add_assoc, Nat.add_comm 1]
      · rw [time_after, hlasts, List.map_cons, List.sum_cons, List.length_cons, Nat.mul_succ]
        omega

/-- A run that nobody steers, on a page whose calls take no time, lasts as long as the waits of the
commands that it dispatches and one rest for each of them, less the last one if it has left its
page. Of two commands that follow each other the second is announced after exactly the waits of the
first and one rest, however the first one has ended. Each wait lasts one interval for each look that
finds nothing (or as long as the machine takes, without pauses between looks), and the run looks for
nothing else than these waits do; with pauses no wait is cut short by the bound on its looks. -/
theorem run_lasts_waits_and_rests (model : PageModel σ) (config : Config) (script : Script)
    (page : σ) (time : Nat) (hinstant : model.Instant) :
    let done := run model config script .standalone page time
    let queue := Command.ofScript config.keys script
    let performances := Run.performances model config queue {} page time
    ∃ report, done.report = some report ∧
      report.dispatched = performances.length ∧
      performances.map Performance.command = queue.take report.dispatched ∧
      done.trace.announcements = performances.map (fun performance =>
        (performance.time, Perform.started config performance.vars performance.index
          performance.command)) ∧
      (∀ performance ∈ performances.head?, performance.vars = .empty ∧ performance.index = 0 ∧
        performance.page = page ∧ performance.time = time) ∧
      performances.IsChain (Performance.Before model config) ∧
      (∀ performance ∈ performances, performance.Timed model config) ∧
      done.trace.queries = (performances.flatMap (Performance.waits model config)).flatMap
        (fun trial => (trial.visit model config.timing.waitOptions).trace.queries) ∧
      done.time + (if report.state.destination?.isSome then config.timing.commandDelay else 0) =
        time + (performances.map (Performance.waited model config)).sum +
          config.timing.commandDelay * report.dispatched := by
  intro done queue performances
  obtain ⟨hcommands, hannounces, hqueries, hfirst, hfollows, report, hreport, hdispatched,
      hlasts⟩ :=
    (Run.drain_timetable hinstant queue {} page time :
      Run.Timetable model config queue {} page time _ performances)
  have hdispatched : report.dispatched = performances.length :=
    hdispatched.trans (Nat.zero_add _)
  refine ⟨report, hreport, hdispatched, hdispatched ▸ hcommands, hannounces, hfirst, hfollows,
    fun performance _ => performance.timed hinstant, ?_, hdispatched ▸ hlasts⟩
  rw [List.flatMap_assoc]
  refine hqueries.trans (List.flatMap_congr fun performance _ => ?_)
  exact (performance.timed hinstant).queries

theorem Rehearsal.respond_instant : PageModel.Instant respond := by
  intro page call
  cases call with
  | query selector => exact query_elapsed page selector
  | currentUrl =>
    dsimp only [respond, CallKind.of]
    cases page.fault? .currentUrl
    · cases page.url <;> rfl
    · rfl
  | _ =>
    dsimp only [respond, CallKind.of]
    cases page.fault? _ <;> rfl

/-- Here the first candidate is waited for in vain, and the second one appears after two looks. The
key press and the end of the recording have nothing to do and still are followed by a rest. -/
theorem late_fallback_takes_two_waits :
    let page : Rehearsal.Page :=
      { elements := [{ selector := .parse "css=#late", handle := 1, misses := 2 }] }
    let config : Config := { timing := { waitTimeout := 1000 } }
    let script : Script := { commands := [
      { command := "click", target := some "css=#gone", targets := ["css=#late"] },
      { command := "XType" }, { command := "end" }] }
    let done := run Rehearsal.respond config script .standalone page 100
    done.trace.announcements.map Prod.fst = [100, 2700, 3500] ∧ done.time = 4300 := by
  intro page config script done
  obtain ⟨report, hreport, hdispatched, -, hannounced, -, -, -, -, hlasts⟩ :=
    run_lasts_waits_and_rests Rehearsal.respond config script page 100 Rehearsal.respond_instant
  have hstate : done.report.map Report.state = some .completed := by decide +kernel
  rw [hreport] at hstate
  have hstate : report.state = .completed := Option.some.inj hstate
  have htimes : (Run.performances Rehearsal.respond config (Command.ofScript config.keys script) {}
      page 100).map Performance.time = [100, 2700, 3500] := by decide +kernel
  have hwaited : (Run.performances Rehearsal.respond config (Command.ofScript config.keys script) {}
      page 100).map (Performance.waited Rehearsal.respond config) = [1800, 0, 0] := by
    decide +kernel
  have hlength := congrArg List.length htimes
  rw [List.length_map, ← hdispatched] at hlength
  refine ⟨?_, ?_⟩
  · rw [hannounced, List.map_map]
    exact htimes
  · rw [hstate, hlength, hwaited, if_neg (by decide)] at hlasts
    exact hlasts.trans (by decide)

end BrowserReplay
