import BrowserReplay.Proofs.Causal
import BrowserReplay.Rehearsal.Page
import Mathlib.Data.Nat.Count

/-!
# Idle commands

The command that marks the end of a recording and the commands that are not recognized do nothing:
each is announced, has nothing to do, and rests like any other. A script from which some of them are
deleted is compared with the whole script. Its run is the same but for the numbers of the commands,
the announcements of those that are deleted, and their rests (`idle_commands_are_transparent`).

Both runs are compared from one boundary to the next (`Run.drain_thinned`). The one with the whole
script has come further by the deleted commands that it has dispatched, both in its script and in
time; a command that both have performs the same there, and only tells another number of itself
(`perform_retell`).
-/

namespace BrowserReplay

def Command.isIdle : Command → Bool
  | .finish | .unrecognized _ => true
  | _ => false

/-! ### Deletions -/

/-- The elements of a list that are not deleted. The first one has the given position. -/
def without (deleted : Nat → Bool) : (position : Nat) → List α → List α
  | _, [] => []
  | position, a :: rest =>
    if deleted position then without deleted (position + 1) rest
    else a :: without deleted (position + 1) rest

def Script.without (deleted : Nat → Bool) (script : Script) : Script :=
  { script with commands := BrowserReplay.without deleted 0 script.commands }

def deletions (deleted : Nat → Bool) (bound : Nat) : Nat := Nat.count (deleted · = true) bound

section Deletions

variable {deleted : Nat → Bool}

theorem deletions_succ_of_deleted {position : Nat} (h : deleted position = true) :
    deletions deleted (position + 1) = deletions deleted position + 1 := by
  rw [deletions, Nat.count_succ, if_pos h]
  rfl

theorem deletions_succ_of_kept {position : Nat} (h : deleted position = false) :
    deletions deleted (position + 1) = deletions deleted position := by
  rw [deletions, Nat.count_succ, if_neg (by rw [h]; exact Bool.false_ne_true)]
  rfl

variable (deleted) in
theorem deletions_mono {low high : Nat} (h : low ≤ high) :
    deletions deleted low ≤ deletions deleted high :=
  Nat.count_monotone _ h

theorem map_without (f : α → β) (position : Nat) (list : List α) :
    (without deleted position list).map f = without deleted position (list.map f) := by
  induction list generalizing position with
  | nil => rfl
  | cons a rest ih =>
    rw [without, List.map_cons, without, ← ih]
    split <;> rfl

theorem Command.ofScript_without (keys : Config.Keys) (script : Script) :
    ofScript keys (script.without deleted) = without deleted 0 (ofScript keys script) :=
  map_without (ofRecord keys) 0 script.commands

variable (deleted) in
/-- What is left and what is deleted make up the list. -/
theorem length_without (position : Nat) (list : List α) :
    (without deleted position list).length + deletions deleted (position + list.length) =
      list.length + deletions deleted position := by
  induction list generalizing position with
  | nil => rfl
  | cons a rest ih =>
    have hrest := ih (position + 1)
    rw [without, List.length_cons, ← Nat.add_assoc, Nat.add_right_comm position]
    cases h : deleted position with
    | true =>
      rw [deletions_succ_of_deleted h] at hrest
      rw [if_pos rfl]
      omega
    | false =>
      rw [deletions_succ_of_kept h] at hrest
      rw [if_neg Bool.false_ne_true, List.length_cons]
      omega

end Deletions

/-! ### The same events of a longer script -/

/-- An event as it is told of a longer script, which has `before` commands more before it and
`later` commands more after it. -/
def RunEvent.among (before later : Nat) : RunEvent → RunEvent
  | .runStarted commands => .runStarted (commands + before + later)
  | .commandStarted index command target value =>
    .commandStarted (index + before) command target value
  | .selectorFailed index selector reason => .selectorFailed (index + before) selector reason
  | .commandCompleted index command => .commandCompleted (index + before) command
  | .commandAbandoned index command reason => .commandAbandoned (index + before) command reason
  | .variableStored name value => .variableStored name value
  | .paused index => .paused (index + before)
  | .resumed index => .resumed (index + before)
  | .navigating url dropped => .navigating url (dropped + later)
  | .runFinished state dispatched => .runFinished state (dispatched + before)

/-- The events of a script and those of it without its deleted commands, of which `before` have been
passed and `later` are still to come. A deleted command is announced, nothing else is told of it,
and it rests for `pause`. Everything else is told by both runs, and later by the rests so far. -/
inductive Thinned (deleted : Nat → Bool) (pause : Nat) :
    (before later : Nat) → List (Nat × RunEvent) → List (Nat × RunEvent) → Prop
  | nil (before later : Nat) : Thinned deleted pause before later [] []
  | deleted {before later index : Nat} {whole rest : List (Nat × RunEvent)} (time : Nat)
      (command target value : String) (hdeleted : deleted index = true)
      (h : Thinned deleted pause (before + 1) later whole rest) :
      Thinned deleted pause before (later + 1)
        ((time, .commandStarted index command target value) :: whole) rest
  | kept {before later : Nat} {whole rest : List (Nat × RunEvent)} (time : Nat) (event : RunEvent)
      (hkept : ∀ index ∈ event.index?, deleted (index + before) = false)
      (h : Thinned deleted pause before later whole rest) :
      Thinned deleted pause before later
        ((time + before * pause, event.among before later) :: whole) ((time, event) :: rest)

/-! ### Telling otherwise -/

def Occurrence.retell (f : RunEvent → RunEvent) : Occurrence → Occurrence
  | .event told => .event (f told)
  | what => what

/-- A trace with its events told otherwise. -/
def Trace.retell (f : RunEvent → RunEvent) (trace : Trace) : Trace :=
  trace.map fun entry => { entry with what := entry.what.retell f }

namespace Trace

variable (f : RunEvent → RunEvent)

@[simp] theorem retell_append (a b : Trace) : retell f (a ++ b) = retell f a ++ retell f b :=
  List.map_append

@[simp] theorem retell_tells (time : Nat) (events : List RunEvent) :
    retell f (events.map (⟨time, .event ·⟩)) = (events.map f).map (⟨time, .event ·⟩) := by
  rw [retell, List.map_map, List.map_map]
  rfl

/-- Where nothing is told, nothing can be told otherwise. -/
theorem retell_of_silent {trace : Trace} (h : trace.told = []) : trace.retell f = trace := by
  induction trace with
  | nil => rfl
  | cons entry rest ih =>
    obtain ⟨time, made | told | line | notice⟩ := entry
    · exact congrArg _ (ih h)
    · cases h
    · exact congrArg _ (ih h)
    · exact congrArg _ (ih h)

theorem records_retell (trace : Trace) : (trace.retell f).records = trace.records := by
  induction trace with
  | nil => rfl
  | cons entry rest ih =>
    obtain ⟨time, made | told | line | notice⟩ := entry
    · exact congrArg (List.cons _) ih
    · exact ih
    · exact ih
    · exact ih

theorem events_retell (trace : Trace) :
    (trace.retell f).events = trace.events.map fun told => (told.1, f told.2) := by
  induction trace with
  | nil => rfl
  | cons entry rest ih =>
    obtain ⟨time, made | told | line | notice⟩ := entry
    · exact ih
    · exact congrArg _ ih
    · exact ih
    · exact ih

theorem events_delay (duration : Nat) (trace : Trace) :
    (trace.delay duration).events = trace.events.map fun told => (told.1 + duration, told.2) := by
  induction trace with
  | nil => rfl
  | cons entry rest ih =>
    obtain ⟨time, made | told | line | notice⟩ := entry
    · exact ih
    · exact congrArg _ ih
    · exact ih
    · exact ih

end Trace

/-- The same visit, with its events told otherwise. -/
def Visited.retell (f : RunEvent → RunEvent) (visited : Visited σ α) : Visited σ α :=
  { visited with trace := visited.trace.retell f }

namespace Visit

variable (f : RunEvent → RunEvent)

/-- The same visit, with its events told otherwise. -/
def retell (visit : Visit σ α) : Visit σ α := fun page time => (visit page time).retell f

theorem retell_bind (first : Visit σ α) (next : α → Visit σ β) :
    (first >>= next).retell f = first.retell f >>= fun result => (next result).retell f := by
  funext page time
  rw [retell, bind_apply, bind_apply]
  dsimp only [retell, Visited.retell]
  rw [Trace.retell_append]

theorem retell_pure (result : α) : (pure result : Visit σ α).retell f = pure result := rfl

theorem retell_tell (event : RunEvent) : (tell (σ := σ) event).retell f = tell (f event) := rfl

theorem retell_tellAll (events : List RunEvent) :
    (tellAll (σ := σ) events).retell f = tellAll (events.map f) := by
  funext page time
  dsimp only [retell, Visited.retell, tellAll]
  rw [Trace.retell_tells]

variable {f} in
/-- Where nothing is told, nothing can be told otherwise. -/
theorem retell_of_silent {visit : Visit σ α} (h : visit.Ensures fun _ trace => trace.told = []) :
    visit.retell f = visit := by
  funext page time
  dsimp only [retell, Visited.retell]
  rw [Trace.retell_of_silent f (h page time)]

end Visit

/-! ### One command -/

section Perform

variable (model : PageModel σ) (config : Config) (vars : Variables) (index : Nat)
  (before later : Nat)

namespace Perform

theorem started_among (command : Command) :
    (started config vars index command).among before later =
      started config vars (index + before) command := by
  cases command <;> rfl

theorem search_retell (target : Target) :
    (search model config vars index target).retell (.among before later) =
      search model config vars (index + before) target := by
  have hlocate := Visit.retell_of_silent (f := RunEvent.among before later)
    ((tryCandidates_sought model config.timing.waitOptions 0 (target.candidates vars)).mono
      fun _ _ h => h.2.1)
  unfold search locate
  simp only [Visit.retell_bind, hlocate, Visit.retell_tellAll, List.map_map, Visit.retell_pure]
  rfl

theorem mark_retell (handle : Handle) (f : RunEvent → RunEvent) :
    (mark model config handle).retell f = mark model config handle :=
  Visit.retell_of_silent ((mark_marked model config handle).mono fun _ _ h => h.2)

theorem onElement_retell (target : Target) {act : Handle → Visit σ Outcome}
    (hact : ∀ handle, (act handle).Ensures fun _ trace => trace.told = []) :
    (onElement model config vars index target act).retell (.among before later) =
      onElement model config vars (index + before) target act := by
  unfold onElement
  rw [Visit.retell_bind, search_retell]
  refine congrArg _ (funext fun search => ?_)
  split
  · rw [Visit.retell_bind, mark_retell]
    exact congrArg _ (funext fun _ => Visit.retell_of_silent (hact _))
  · rfl

/-- After it has been announced, a command depends on its number only in what it tells. -/
theorem act_retell (command : Command) :
    (act model config vars index command).retell (.among before later) =
      act model config vars (index + before) command := by
  cases command with
  | store value name => rfl
  | openPage url =>
    rw [act, act, Visit.retell_bind, Visit.retell_of_silent
      ((openPage_acted model url _).mono fun _ _ h => h.told)]
    rfl
  | click target =>
    rw [act, act, Visit.retell_bind, onElement_retell model config vars index before later target
      fun handle => (clickOn_acted model handle).mono fun _ _ h => h.told]
    rfl
  | type target text =>
    rw [act, act, Visit.retell_bind, onElement_retell model config vars index before later target
      fun handle => (writeInto_acted model _ handle).mono fun _ _ h => h.told]
    rfl
  | verifyElementPresent target name =>
    rw [act, act, Visit.retell_bind, search_retell]
    refine congrArg _ (funext fun search => ?_)
    obtain ⟨_ | located, attempted, failures⟩ := search
    · rfl
    · rw [Visit.retell_bind]
      exact congrArg (· >>= _) (mark_retell model config located.handle _)
  | finish => rfl
  | keyPress value =>
    rw [act, act, Visit.retell_bind, Visit.retell_of_silent
      ((pressKey_acted model config value).mono fun _ _ h => h.told)]
    rfl
  | unrecognized name => rfl

end Perform

/-- A command does the same wherever it stands in a script, and tells its number there. -/
theorem perform_retell (command : Command) :
    (perform model config vars index command).retell (.among before later) =
      perform model config vars (index + before) command := by
  unfold perform
  rw [Visit.retell_bind, Visit.retell_tell, Perform.started_among]
  exact congrArg _ (funext fun _ => Perform.act_retell model config vars index before later command)

/-- A command that is performed later, behind more commands, does the same later. -/
theorem perform_among (command : Command) (page : σ) (time duration : Nat) :
    perform model config vars (index + before) command page (time + duration) =
      ((perform model config vars index command page time).delay duration).retell
        (.among before later) := by
  rw [← perform_retell model config vars index before later, ← perform_delay]
  rfl

/-- An idle command is announced and does nothing. -/
theorem perform_idle {command : Command} (h : command.isIdle = true) (page : σ) (time : Nat) :
    let visit := perform model config vars index command page time
    visit.page = page ∧ visit.time = time ∧ visit.result = (.noOp, vars) ∧
      visit.trace.records = [] ∧
      ∃ target value, visit.trace.events =
        [(time, .commandStarted index command.name target value)] := by
  cases command with
  | finish => exact ⟨rfl, rfl, rfl, rfl, _, _, rfl⟩
  | unrecognized name => exact ⟨rfl, rfl, rfl, rfl, _, _, rfl⟩
  | _ => cases h

end Perform

/-- What both runs do: the same calls, and the same events of commands that are not deleted. -/
structure Trace.Renumbered (deleted : Nat → Bool) (pause before later : Nat)
    (whole thinned : Trace) : Prop where
  records : whole.records = thinned.records
  events : whole.events =
    thinned.events.map fun told => (told.1 + before * pause, told.2.among before later)
  kept : ∀ told ∈ thinned.told, ∀ index ∈ told.index?, deleted (index + before) = false

namespace Trace.Renumbered

variable {deleted : Nat → Bool} {pause before later : Nat}

theorem append {a b a' b' : Trace} (h : Renumbered deleted pause before later a a')
    (h' : Renumbered deleted pause before later b b') :
    Renumbered deleted pause before later (a ++ b) (a' ++ b') where
  records := by rw [records_append, records_append, h.records, h'.records]
  events := by rw [events_append, events_append, h.events, h'.events, List.map_append]
  kept told hmem := by
    rw [told_append, List.mem_append] at hmem
    exact hmem.elim (h.kept told) (h'.kept told)

variable (pause later) in
/-- A command tells only of itself. -/
theorem perform (model : PageModel σ) (config : Config) (vars : Variables) {index : Nat}
    (command : Command) (page : σ) (time : Nat) (hkept : deleted (index + before) = false) :
    Renumbered deleted pause before later
      (((BrowserReplay.perform model config vars index command page time).trace.delay
        (before * pause)).retell (.among before later))
      (BrowserReplay.perform model config vars index command page time).trace where
  records := by
    rw [records_retell, records_eq_untimed, untimed_delay, ← records_eq_untimed]
  events := by rw [events_retell, events_delay, List.map_map]; rfl
  kept told hmem other hother := by
    have hwithin :=
      perform_within model config vars index command page time told hmem other hother
    obtain rfl : other = index := by omega
    exact hkept

theorem conclusion {index : Nat} (command : Command) (outcome : Outcome) (time : Nat)
    (hkept : deleted (index + before) = false) :
    Renumbered deleted pause before later
      [⟨time + before * pause, Run.conclusion (index + before) command outcome⟩]
      [⟨time, Run.conclusion index command outcome⟩] where
  records := by cases outcome <;> rfl
  events := by cases outcome <;> rfl
  kept told hmem other hother := by
    have hwithin := Run.conclusion_within index command outcome time told hmem other hother
    obtain rfl : other = index := by omega
    exact hkept

theorem navigating (url : String) (dropped time : Nat) :
    Renumbered deleted pause before later
      [⟨time + before * pause, .event (.navigating url (dropped + later))⟩]
      [⟨time, .event (.navigating url dropped)⟩] where
  records := rfl
  events := rfl
  kept told hmem other hother := by
    rw [List.mem_singleton.1 hmem] at hother
    cases hother

end Trace.Renumbered

/-- What both runs do goes in front of what is told after it. -/
theorem Thinned.prepend {deleted : Nat → Bool} {pause before later : Nat}
    {whole rest : List (Nat × RunEvent)} (h : Thinned deleted pause before later whole rest)
    {early early' : Trace} (hearly : Trace.Renumbered deleted pause before later early early') :
    Thinned deleted pause before later (early.events ++ whole) (early'.events ++ rest) := by
  obtain ⟨-, hevents, hkept⟩ := hearly
  rw [hevents]
  rw [Trace.told] at hkept
  generalize early'.events = events at hkept
  induction events with
  | nil => exact h
  | cons told events ih =>
    rw [List.map_cons, List.forall_mem_cons] at hkept
    exact .kept told.1 told.2 hkept.1 (ih hkept.2)

/-- The progress of a run that has dispatched `before` idle commands more. -/
def Progress.among (before : Nat) (progress : Progress) : Progress :=
  { progress with
    index := progress.index + before
    tally := { progress.tally with skipped := progress.tally.skipped + before } }

/-- The report of a run that has dispatched `before` idle commands more and had `later` more of them
to come. -/
def Report.among (before later : Nat) (report : Report) : Report :=
  { report with
    dispatched := report.dispatched + before
    tally := { report.tally with skipped := report.tally.skipped + before }
    remaining := report.remaining + later }

namespace Run

/-- The run of a script, and the run of what is left of it. At their beginning `before` deleted
commands have been dispatched and `later` are still to come; at their end it is `more` and `others`.
-/
structure IsThinned (deleted : Nat → Bool) (pause before later : Nat) (whole thinned : Run σ) :
    Prop where
  page : whole.page = thinned.page
  records : whole.trace.records = thinned.trace.records
  events : Thinned deleted pause before later whole.trace.events thinned.trace.events
  ends : ∃ report more others, thinned.report = some report ∧
    whole.report = some (report.among more others) ∧
    deletions deleted (report.dispatched + more) = more ∧ more + others = before + later ∧
    whole.time = thinned.time + more * pause

/-- What both runs do goes in front of what they do after it. -/
theorem IsThinned.after {deleted : Nat → Bool} {pause before later : Nat} {whole thinned : Run σ}
    (h : IsThinned deleted pause before later whole thinned) {early early' : Trace}
    (hearly : Trace.Renumbered deleted pause before later early early') :
    IsThinned deleted pause before later (whole.after early) (thinned.after early') where
  page := h.page
  records := by
    rw [trace_after, trace_after, Trace.records_append, Trace.records_append, hearly.records,
      h.records]
  events := by
    rw [trace_after, trace_after, Trace.events_append, Trace.events_append]
    exact h.events.prepend hearly
  ends := h.ends

variable (model : PageModel σ) (config : Config) {deleted : Nat → Bool}

/-- A deleted command is performed by one of the runs, which then goes on where the other one
stands. -/
theorem drain_deleted {command : Command} (h : command.isIdle = true) (rest : List Command)
    (progress : Progress) {before later : Nat} (hdeleted : deleted (progress.index + before) = true)
    (page : σ) (time : Nat) {thinned : Run σ}
    (hrest : IsThinned deleted config.timing.commandDelay (before + 1) later
      (drain model config rest (progress.among (before + 1)) .standalone page
        (time + config.timing.commandDelay)) thinned) :
    IsThinned deleted config.timing.commandDelay before (later + 1)
      (drain model config (command :: rest) (progress.among before) .standalone page time)
      thinned := by
  obtain ⟨hpage, htime, hresult, hrecords, target, value, hevents⟩ :=
    perform_idle model config progress.vars (progress.index + before) h page time
  obtain ⟨visit, hvisit⟩ : ∃ visit, perform model config progress.vars (progress.index + before)
    command page time = visit := ⟨_, rfl⟩
  rw [hvisit] at hpage htime hresult hrecords hevents
  have hadvance : advance (progress.among before) visit = progress.among (before + 1) := by
    rw [advance, hresult]
    rfl
  rw [drain_standalone_next model config rest hvisit (by rw [hresult]; rfl), hadvance, hpage, htime,
    hresult]
  refine ⟨hrest.page, ?_, ?_, ?_⟩
  · rw [trace_after, Trace.records_append, Trace.records_append, hrecords, hrest.records]
    rfl
  · rw [trace_after, Trace.events_append, Trace.events_append, hevents]
    exact .deleted time command.name target value hdeleted hrest.events
  · obtain ⟨report, more, others, hreport, hwhole, hmore, htotal, hends⟩ := hrest.ends
    exact ⟨report, more, others, hreport, hwhole, hmore, by omega, hends⟩

theorem advance_among (progress : Progress) (before : Nat) (visit : Visited σ (Outcome × Variables))
    (f : RunEvent → RunEvent) (duration : Nat) :
    advance (progress.among before) ((visit.delay duration).retell f) =
      (advance progress visit).among before := by
  obtain ⟨page, time, trace, outcome, vars⟩ := visit
  have hindex := Nat.add_right_comm progress.index before 1
  have hskipped := Nat.add_right_comm progress.tally.skipped before 1
  cases outcome <;>
    simp [advance, count, Progress.among, Visited.retell, Visited.delay, hindex, hskipped]

/-- A command that is not deleted is performed by both runs, which then leave their page or go on
alike. -/
theorem drain_kept (command : Command) {rest rest' : List Command} (progress : Progress)
    {before later : Nat} (hkept : deleted (progress.index + before) = false)
    (hbefore : deletions deleted (progress.index + before) = before)
    (hlength : rest.length = rest'.length + later) (page : σ) (time : Nat)
    (hrest : ∀ next page time, next.index = progress.index + 1 →
      IsThinned deleted config.timing.commandDelay before later
        (drain model config rest (next.among before) .standalone page
          (time + before * config.timing.commandDelay))
        (drain model config rest' next .standalone page time)) :
    IsThinned deleted config.timing.commandDelay before later
      (drain model config (command :: rest) (progress.among before) .standalone page
        (time + before * config.timing.commandDelay))
      (drain model config (command :: rest') progress .standalone page time) := by
  obtain ⟨visit, hvisit⟩ : ∃ visit,
    perform model config progress.vars progress.index command page time = visit := ⟨_, rfl⟩
  have hwhole := perform_among model config progress.vars progress.index before later command page
    time (before * config.timing.commandDelay)
  have hshown := Trace.Renumbered.perform config.timing.commandDelay later model config
    progress.vars command page time hkept
  rw [hvisit] at hwhole hshown
  cases hdeparture : departure? config visit.result.1 with
  | some url =>
    have hpassed : deletions deleted (progress.index + 1 + before) = before := by
      rw [Nat.add_right_comm, deletions_succ_of_kept hkept, hbefore]
    rw [drain_standalone_left model config rest hwhole (by exact hdeparture),
      drain_standalone_left model config rest' hvisit hdeparture, hlength, advance_among]
    refine IsThinned.after ?_ (hshown.append (.navigating url _ _))
    exact ⟨rfl, rfl, .kept visit.time (.runFinished (.navigating url) (progress.index + 1)) nofun
      (.nil _ _), _, before, later, rfl, rfl, hpassed, rfl, rfl⟩
  | none =>
    have hboundary := hrest (advance progress visit) visit.page
      (visit.time + config.timing.commandDelay) rfl
    rw [Nat.add_right_comm] at hboundary
    rw [drain_standalone_next model config rest hwhole (by exact hdeparture),
      drain_standalone_next model config rest' hvisit hdeparture, advance_among]
    exact hboundary.after (hshown.append (.conclusion command _ _ hkept))

/-- From any boundary on, the run of a queue and the run of what is left of it do the same. -/
theorem drain_thinned (queue : List Command) (progress : Progress) (before later : Nat)
    (hbefore : deletions deleted (progress.index + before) = before)
    (hlater : deletions deleted (progress.index + before + queue.length) = before + later)
    (hidle : ∀ offset command, queue[offset]? = some command →
      deleted (progress.index + before + offset) = true → command.isIdle = true)
    (page : σ) (time : Nat) :
    IsThinned deleted config.timing.commandDelay before later
      (drain model config queue (progress.among before) .standalone page
        (time + before * config.timing.commandDelay))
      (drain model config (without deleted (progress.index + before) queue) progress .standalone
        page time) := by
  induction queue generalizing progress before later page time with
  | nil =>
    obtain rfl : later = 0 := by
      rw [List.length_nil, Nat.add_zero, hbefore] at hlater
      omega
    exact ⟨rfl, rfl, .kept time (.runFinished .completed progress.index) nofun (.nil _ _), _,
      before, 0, rfl, rfl, hbefore, rfl, rfl⟩
  | cons command rest ih =>
    have hrest : ∀ offset command, rest[offset]? = some command →
        deleted (progress.index + before + 1 + offset) = true → command.isIdle = true := by
      intro offset other hother hdeleted
      refine hidle (offset + 1) other hother ?_
      rwa [← Nat.add_assoc, Nat.add_right_comm]
    rw [List.length_cons, ← Nat.add_assoc, Nat.add_right_comm _ _ 1] at hlater
    rw [without]
    cases hdeleted : deleted (progress.index + before) with
    | true =>
      have hnext := deletions_succ_of_deleted hdeleted
      obtain ⟨later, rfl⟩ : ∃ others, later = others + 1 := by
        have hmono := deletions_mono deleted
          (Nat.le_add_right (progress.index + before + 1) rest.length)
        exact ⟨later - 1, by omega⟩
      have hboundary := ih progress (before + 1) later (by rw [← Nat.add_assoc]; omega)
        (by rw [← Nat.add_assoc]; omega) hrest page time
      rw [Nat.succ_mul, ← Nat.add_assoc, ← Nat.add_assoc] at hboundary
      rw [if_pos rfl]
      exact drain_deleted model config (hidle 0 command rfl hdeleted) rest progress hdeleted page _
        hboundary
    | false =>
      have hnext := deletions_succ_of_kept hdeleted
      have hlength := length_without deleted (progress.index + before + 1) rest
      rw [if_neg Bool.false_ne_true]
      refine drain_kept model config command progress hdeleted hbefore (by omega) page time ?_
      intro next page time hindex
      have hboundary : next.index + before = progress.index + before + 1 := by omega
      rw [← hboundary] at hnext hlater hrest ⊢
      exact ih next before later (hnext.trans hbefore) hlater hrest page time

theorem run_thinned (script : Script)
    (hidle : ∀ position record, script.commands[position]? = some record →
      deleted position = true → (Command.ofRecord config.keys record).isIdle = true)
    (page : σ) (time : Nat) :
    IsThinned deleted config.timing.commandDelay 0 (deletions deleted script.length)
      (run model config script .standalone page time)
      (run model config (script.without deleted) .standalone page time) := by
  obtain ⟨queue, hqueue⟩ : ∃ queue, Command.ofScript config.keys script = queue := ⟨_, rfl⟩
  have hlength : queue.length = script.length := hqueue ▸ List.length_map _
  have hleft := length_without deleted 0 queue
  rw [Nat.zero_add, hlength] at hleft
  have hdeleted : ∀ offset command, queue[offset]? = some command →
      deleted (0 + offset) = true → command.isIdle = true := by
    rintro offset command hcommand hdeleted
    rw [← hqueue, Command.ofScript, List.getElem?_map] at hcommand
    obtain ⟨record, hrecord, rfl⟩ := Option.map_eq_some_iff.1 hcommand
    exact hidle offset record hrecord (by rwa [Nat.zero_add] at hdeleted)
  have hstart : Trace.Renumbered deleted config.timing.commandDelay 0
      (deletions deleted script.length) [⟨time, .event (.runStarted queue.length)⟩]
      [⟨time, .event (.runStarted (without deleted 0 queue).length)⟩] := by
    refine ⟨rfl, ?_, fun told hmem index hindex => ?_⟩
    · show [(time, RunEvent.runStarted _)] = [(time + 0 * _, RunEvent.runStarted (_ + 0 + _))]
      rw [Nat.zero_mul, Nat.add_zero, Nat.add_zero, hleft, hlength]
      rfl
    · rw [List.mem_singleton.1 hmem] at hindex
      cases hindex
  have hdrain := drain_thinned model config queue {} 0 (deletions deleted script.length) rfl
    (by rw [hlength, Nat.zero_add]; exact (Nat.zero_add _).symm) hdeleted page time
  rw [Nat.zero_mul, Nat.add_zero] at hdrain
  rw [run, run, Command.ofScript_without, hqueue]
  exact hdrain.after hstart

end Run

/-- Idle commands are transparent. Delete any commands of a script that are idle, wherever they
stand, and run both scripts. The runs make the same calls and leave the same page, variables and
state, with as many commands succeeded and abandoned. The whole script dispatches and skips one
command more for each deleted one that it comes to, and rests after it; the other deleted ones are
among those that it does not execute. Apart from the announcements of deleted commands both runs
tell the same, up to the numbers of the commands and the rests so far. -/
theorem idle_commands_are_transparent (model : PageModel σ) (config : Config) (script : Script)
    (deleted : Nat → Bool)
    (hidle : ∀ position record, script.commands[position]? = some record →
      deleted position = true → (Command.ofRecord config.keys record).isIdle = true)
    (page : σ) (time : Nat) :
    let whole := run model config script .standalone page time
    let thinned := run model config (script.without deleted) .standalone page time
    whole.trace.records = thinned.trace.records ∧ whole.page = thinned.page ∧
    Thinned deleted config.timing.commandDelay 0 (deletions deleted script.length)
      whole.trace.events thinned.trace.events ∧
    ∃ report report' others, whole.report = some report ∧ thinned.report = some report' ∧
      let dispatched := deletions deleted report.dispatched
      dispatched + others = deletions deleted script.length ∧
      report = report'.among dispatched others ∧
      whole.time = thinned.time + dispatched * config.timing.commandDelay := by
  intro whole thinned
  obtain ⟨hpage, hrecords, hevents, report, more, others, hreport, hwhole, hmore, htotal, htime⟩ :=
    Run.run_thinned model config script hidle page time
  have hdispatched : deletions deleted (report.among more others).dispatched = more := hmore
  refine ⟨hrecords, hpage, hevents, _, report, others, hwhole, hreport, ?_⟩
  rw [hdispatched]
  exact ⟨htotal.trans (Nat.zero_add _), rfl, htime⟩

/-- Here the run leaves the page behind the first two of three idle commands, so it rests twice more
than without them. -/
theorem idle_commands_rest :
    let script : Script :=
      { commands := [{ command := "end" }, { command := "store", target := some "a" },
          { command := "comment" }, { command := "open", target := some "/b" },
          { command := "end" }] }
    let deleted (position : Nat) : Bool := position % 2 = 0
    let whole := run Rehearsal.respond {} script .standalone {} 0
    let thinned := run Rehearsal.respond {} (script.without deleted) .standalone {} 0
    whole.trace.records = thinned.trace.records ∧ whole.time = thinned.time + 2 * 800 ∧
      whole.report.map Report.remaining = some 1 ∧
      thinned.report.map Report.remaining = some 0 := by
  intro script deleted whole thinned
  have hidle : ∀ position record, script.commands[position]? = some record →
      deleted position = true → (Command.ofRecord ({} : Config).keys record).isIdle = true := by
    intro position record hrecord hdeleted
    match position, hrecord with
    | 0, rfl | 2, rfl | 4, rfl => rfl
    | 1, rfl | 3, rfl => cases hdeleted
    | position + 5, hrecord => cases hrecord
  obtain ⟨hrecords, -, -, report, report', others, hreport, hreport', hends⟩ :=
    idle_commands_are_transparent Rehearsal.respond {} script deleted hidle {} 0
  have hdispatched : whole.report.map Report.dispatched = some 4 := by decide +kernel
  rw [show whole.report = some report from hreport] at hdispatched
  have hdispatched : report.dispatched = 4 := Option.some.inj hdispatched
  rw [hdispatched] at hends
  exact ⟨hrecords, hends.2.2, by decide +kernel, by decide +kernel⟩

end BrowserReplay
