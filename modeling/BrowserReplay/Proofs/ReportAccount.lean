import BrowserReplay.Proofs.Boundary

/-!
# The report as an account

The report of a run accounts for every command of the script once: each was dispatched, and then it
succeeded, was abandoned or had nothing to do, or it remains. How the run ended follows from what its
commands did: it leaves the page exactly when a command has navigated and the settings do not let the
run go on (`perform_destinations`).
-/

namespace BrowserReplay

open Table

/-! ### Where a run goes -/

def PageCall.destination? : PageCall → Option String
  | .navigate url => some url
  | _ => none

def Outcome.destination? : Outcome → Option String
  | .navigated url => some url
  | _ => none

def RunState.destination? : RunState → Option String
  | .navigating url => some url
  | _ => none

namespace Trace

def destinations (trace : Trace) : List String :=
  (effects trace.records).filterMap PageCall.destination?

@[simp] theorem destinations_append (a b : Trace) :
    destinations (a ++ b) = destinations a ++ destinations b := by
  simp [destinations]

theorem destinations_eq_nil {trace : Trace} (h : trace.records = []) : trace.destinations = [] := by
  rw [destinations, h]
  rfl

end Trace

section Perform

variable (model : PageModel σ)

theorem Perform.openPage_destinations (target : String) :
    (openPage model target).Ensures fun outcome trace =>
      trace.destinations = outcome.destination?.toList := by
  have hwent (failure destination : String) (earlier : Trace)
      (hearlier : earlier.destinations = []) :
      (goTo model failure destination).Ensures fun outcome trace =>
        Trace.destinations (earlier ++ trace) = outcome.destination?.toList := by
    refine (goTo_acted model failure destination).mono ?_
    rintro outcome trace ⟨⟨reply, hcalls⟩, _, rfl⟩
    rw [Trace.destinations_append, hearlier, Trace.destinations, hcalls]
    rfl
  refine .call_bind fun time location => ?_
  obtain (error : PageError) | (current : String) := location
  · refine .remark_bind fun _ => ?_
    dsimp only
    split
    · exact .remark_bind fun _ => .pure rfl
    · exact hwent _ _ [_, _] rfl
  · dsimp only
    split
    · exact hwent _ _ [_] rfl
    · split
      · exact .remark_bind fun _ => .pure rfl
      · exact hwent _ _ [_] rfl

/-- Only opening navigates. -/
theorem due_destinations (config : Config) {deed : Deed}
    (h : ∀ url, deed.command ≠ .openPage url) :
    (due config deed).filterMap PageCall.destination? = [] := by
  obtain ⟨command, vars, records⟩ := deed
  cases command with
  | openPage url => exact absurd rfl (h url)
  | click target =>
    simp only [due]
    cases latest records <;> rfl
  | type target text =>
    simp only [due]
    cases latest records with
    | none => rfl
    | some handle =>
      dsimp only
      split <;> rfl
  | keyPress value =>
    simp only [due]
    split <;> rfl
  | _ => rfl

theorem destination?_of_admits {command : Command} {outcome : Outcome}
    (hadmits : command.admits outcome = true) (h : ∀ url, command ≠ .openPage url) :
    outcome.destination? = none := by
  cases outcome with
  | navigated url =>
    cases command with
    | openPage url => exact absurd rfl (h url)
    | _ => cases hadmits
  | _ => rfl

/-- A command sends the page to the place that its outcome names, and nowhere else. -/
theorem perform_destinations (config : Config) (vars : Variables) (index : Nat)
    (command : Command) :
    (perform model config vars index command).Ensures fun done trace =>
      trace.destinations = done.1.destination?.toList := by
  by_cases hopens : ∃ url, command = .openPage url
  · obtain ⟨url, rfl⟩ := hopens
    refine .tell_bind fun time => ?_
    refine (Perform.openPage_destinations model _).bind fun outcome early hearly => .pure ?_
    rw [List.append_nil]
    exact hearly
  · have hother : ∀ url, command ≠ .openPage url := fun url h => hopens ⟨url, h⟩
    refine (perform_performed model config vars index command).mono fun done trace h => ?_
    rw [Trace.destinations, h.row.effects_eq_due, due_destinations config hother,
      destination?_of_admits h.admits hother]
    rfl

end Perform

/-- The same of all that a run does about a command: it looks at the signal, performs the command
and says how that has ended. -/
theorem Run.step_destinations {config : Config} {vars : Variables} {index now later : Nat}
    {command : Command} {page : σ} {visit : Visited σ (Outcome × Variables)}
    (hvisit : perform model config vars index command page later = visit) {clearance : Clearance}
    {looked : Trace} (hlook : Look index now clearance later looked) {said : Entry}
    (hsaid : Trace.records [said] = []) :
    Trace.destinations (looked ++ visit.trace ++ [said]) = visit.result.1.destination?.toList := by
  rw [Trace.destinations_append, Trace.destinations_append,
    Trace.destinations_eq_nil hlook.records_eq_nil, Trace.destinations_eq_nil hsaid,
    List.nil_append, List.append_nil]
  exact hvisit ▸ perform_destinations model config vars index command page later

/-- The page is sent to one place only, and that after the last announcement of a command. -/
def Trace.LeavesFor (url : String) (trace : Trace) : Prop :=
  ∃ early entry late, trace = early ++ entry :: late ∧ Trace.starts [entry] ≠ [] ∧
    Trace.starts late = [] ∧ Trace.destinations early = [] ∧ Trace.destinations late = [url]

namespace Trace.LeavesFor

variable {url : String} {trace : Trace}

theorem prepend (h : trace.LeavesFor url) {earlier : Trace} (hearlier : earlier.destinations = []) :
    LeavesFor url (earlier ++ trace) := by
  obtain ⟨early, entry, late, rfl, hentry, hstarts, hearly, hlate⟩ := h
  refine ⟨earlier ++ early, entry, late, (List.append_assoc _ _ _).symm, hentry, hstarts, ?_, hlate⟩
  rw [destinations_append, hearlier, hearly]
  rfl

theorem append (h : trace.LeavesFor url) {later : Trace} (hstarts : later.starts = [])
    (hlater : later.destinations = []) : LeavesFor url (trace ++ later) := by
  obtain ⟨early, entry, late, rfl, hentry, hnone, hearly, hlate⟩ := h
  refine ⟨early, entry, late ++ later, List.append_assoc _ _ _, hentry, ?_, hearly, ?_⟩
  · rw [starts_append, hnone, hstarts]
    rfl
  · rw [destinations_append, hlate, hlater]
    rfl

/-- A command that has gone to another place was announced before. -/
theorem of_perform {model : PageModel σ} {config : Config} {vars : Variables} {index : Nat}
    {command : Command} {page : σ} {time : Nat} {visit : Visited σ (Outcome × Variables)}
    (hvisit : perform model config vars index command page time = visit)
    (houtcome : visit.result.1 = .navigated url) : visit.trace.LeavesFor url := by
  have hdestinations : visit.trace.destinations = visit.result.1.destination?.toList :=
    hvisit ▸ perform_destinations model config vars index command page time
  have hstarts := starts_perform model config vars index command page time
  obtain ⟨target, value, body, hbegins⟩ :=
    perform_begins model config vars index command page time
  rw [hvisit] at hstarts hbegins
  rw [hbegins, ← List.singleton_append, starts_append] at hstarts
  rw [hbegins, ← List.singleton_append, destinations_append, houtcome] at hdestinations
  exact ⟨[], _, body, hbegins, List.cons_ne_nil time [], (List.cons.inj hstarts).2, rfl,
    hdestinations⟩

end Trace.LeavesFor

/-! ### Counting -/

def Tally.total (tally : Tally) : Nat := tally.succeeded + tally.abandoned + tally.skipped

theorem Run.total_count (tally : Tally) (outcome : Outcome) :
    (count tally outcome).total = tally.total + 1 := by
  cases outcome <;> simp only [count, Tally.total] <;> omega

theorem EventWord.length_announced (events : List RunEvent) :
    (announced events).length = number .commandStarted events := by
  rw [announced, number, List.count, List.countP_map, List.countP_eq_length_filter]
  rfl

namespace Run

variable (model : PageModel σ) (config : Config)

theorem dispatches_prefix (queue : List Command) (progress : Progress) (steering : Steering)
    (page : σ) (time : Nat) :
    (dispatches model config queue progress steering page time).map Dispatch.command <+: queue := by
  induction queue generalizing progress steering page time with
  | nil => exact List.nil_prefix
  | cons command rest ih =>
    rw [dispatches]
    obtain ⟨clearance, later, after, looked⟩ := checkpoint steering progress.index time
    cases clearance with
    | never => exact List.nil_prefix
    | cancel => exact List.nil_prefix
    | proceed =>
      refine List.cons_prefix_cons.2 ⟨rfl, ?_⟩
      split
      · exact List.nil_prefix
      · exact ih _ _ _ _

theorem length_announcements (index : Nat) (done : List Dispatch) :
    (announcements config index done).length = done.length := by
  induction done generalizing index with
  | nil => rfl
  | cons dispatch rest ih => exact congrArg (· + 1) (ih (index + 1))

/-- The commands that a run reports as dispatched are the first ones of its queue, and those that it
announces. -/
theorem drain_dispatched (queue : List Command) (progress : Progress) (steering : Steering)
    (page : σ) (time : Nat) :
    ∀ report ∈ (drain model config queue progress steering page time).report,
      ∃ done : List Dispatch, report.dispatched = progress.index + done.length ∧
        done.map Dispatch.command = queue.take done.length ∧
        EventWord.announced (drain model config queue progress steering page time).trace.told =
          announcements config progress.index done := by
  intro report hreport
  have hannounced := drain_announced model config queue progress steering page time
  have hprefix := dispatches_prefix model config queue progress steering page time
  have hdispatched :=
    (drain_accounts model config queue progress steering page time report hreport).dispatched
  refine ⟨dispatches model config queue progress steering page time, ?_, ?_, hannounced⟩
  · rw [hdispatched, ← length_announcements config progress.index, ← hannounced,
      EventWord.length_announced]
  · rw [List.prefix_iff_eq_take.1 hprefix, List.length_map]

end Run

/-- A command that does not end the run has gone nowhere, unless the settings let the run go on. -/
theorem Run.destination?_of_stays {config : Config} {outcome : Outcome}
    (hends : config.navigation.continueAfterOpen = false)
    (h : departure? config outcome = none) : outcome.destination? = none := by
  cases outcome with
  | navigated url => simp [departure?, hends] at h
  | _ => rfl

namespace Boundary

variable {model : PageModel σ} {config : Config} {boundary last : Boundary σ} {trace : Trace}

/-- On the way from one boundary to another, the first commands of the queue go into the tally. -/
theorem Reaches.counts (h : Reaches model config boundary trace last) :
    ∃ done, boundary.queue = done ++ last.queue ∧
      last.progress.index = boundary.progress.index + done.length ∧
      last.progress.tally.total = boundary.progress.tally.total + done.length := by
  induction h with
  | here boundary => exact ⟨[], rfl, rfl, rfl⟩
  | @next command _ progress _ _ _ _ _ _ _ visit _ _ _ _ _ ih =>
    obtain ⟨done, hqueue, hindex, htally⟩ := ih
    have htotal := Run.total_count progress.tally visit.result.1
    refine ⟨command :: done, congrArg (command :: ·) hqueue, ?_, ?_⟩ <;>
      simp only [Run.advance, List.length_cons] at hindex htally ⊢ <;> omega

/-- Between two boundaries a run goes nowhere, unless the settings let it go on after that. -/
theorem Reaches.destinations (h : Reaches model config boundary trace last)
    (hends : config.navigation.continueAfterOpen = false) : trace.destinations = [] := by
  induction h with
  | here boundary => rfl
  | @next command rest progress steering _ _ time _ looked _ visit _ hlook hvisit hgoes _ ih =>
    rw [Trace.destinations_append, ih, List.append_nil,
      Run.step_destinations hvisit (Run.look_of_checkpoint hlook)
        (Run.records_conclusion progress.index command visit.result.1 visit.time []),
      Run.destination?_of_stays hends hgoes]
    rfl

/-- What the report of a run says, given what is left at the boundary where the run begins. -/
structure Accounts (boundary : Boundary σ) (report : Report) : Prop where
  tally : report.tally.total + boundary.progress.index =
    boundary.progress.tally.total + report.dispatched
  queue : report.dispatched + report.remaining = boundary.progress.index + boundary.queue.length
  terminal : report.state.isTerminal = true
  completed : report.state = .completed → report.remaining = 0
  cancelled : report.state = .cancelled → 1 ≤ report.remaining

theorem Stops.accounts {run : Run σ} (h : Stops model config boundary run) :
    ∀ report ∈ run.report, boundary.Accounts report := by
  cases h with
  | completed progress steering page time =>
    rintro _ ⟨⟩
    exact ⟨Nat.add_comm _ _ ▸ rfl, rfl, rfl, fun _ => rfl, nofun⟩
  | stuck hlook => exact nofun
  | cancelled hlook =>
    rintro _ ⟨⟩
    exact ⟨Nat.add_comm _ _ ▸ rfl, rfl, rfl, nofun, fun _ => Nat.succ_pos _⟩
  | @left command rest progress _ _ _ _ _ _ visit url hlook hvisit hleaves =>
    rintro _ ⟨⟩
    have htotal := Run.total_count progress.tally visit.result.1
    refine ⟨?_, ?_, rfl, nofun, nofun⟩ <;>
      simp only [Run.advance, List.length_cons] at htotal ⊢ <;> omega

theorem run_accounts (model : PageModel σ) (config : Config) (boundary : Boundary σ) :
    ∀ report ∈ (boundary.run model config).report, boundary.Accounts report := by
  obtain ⟨trace, last, past, stopped, hreaches, _, hrun, hstops⟩ :=
    exists_stop model config boundary
  obtain ⟨done, hdone, hindex, htally⟩ := hreaches.counts
  have hlength := congrArg List.length hdone
  rw [List.length_append] at hlength
  rw [hrun]
  intro report hreport
  obtain ⟨hlast, hqueue, hterminal, hcompleted, hcancelled⟩ := hstops.accounts report hreport
  exact ⟨by omega, by omega, hterminal, hcompleted, hcancelled⟩

/-! ### How a run ends -/

/-- A run leaves its page only after a command, the last one, has gone to another place. -/
theorem run_leaves (model : PageModel σ) (config : Config) (boundary : Boundary σ) {report : Report}
    (hreport : (boundary.run model config).report = some report) {url : String}
    (hstate : report.state = .navigating url) :
    config.navigation.continueAfterOpen = false ∧
      (∃ count target, report.dispatched = boundary.progress.index + count ∧
        (boundary.queue.take count).getLast? = some (.openPage target)) ∧
      (boundary.run model config).trace.LeavesFor url := by
  obtain ⟨trace, last, past, stopped, hreaches, _, hrun, hstops⟩ :=
    exists_stop model config boundary
  obtain ⟨done, hdone, hindex, _⟩ := hreaches.counts
  rw [hrun] at hreport ⊢
  cases hstops with
  | completed progress steering page time =>
    cases hreport
    cases hstate
  | stuck hlook => cases hreport
  | cancelled hlook =>
    cases hreport
    cases hstate
  | @left command rest progress steering _ page time later looked visit _ hlook hvisit hleaves =>
    cases hreport
    cases hstate
    obtain ⟨houtcome, hends⟩ := Run.departure?_eq_some hleaves
    have hlooked := (Run.look_of_checkpoint hlook).records_eq_nil
    refine ⟨hends, ?_, ?_⟩
    · have hadmits := (Performed.of_eq model config hvisit.symm).admits
      rw [houtcome] at hadmits
      have htake : boundary.queue.take (done.length + 1) = done ++ [command] := by
        rw [hdone, List.take_length_add_append]
        rfl
      cases command with
      | openPage target =>
        refine ⟨done.length + 1, target, congrArg (· + 1) hindex, ?_⟩
        rw [htake, List.getLast?_concat]
      | _ => cases hadmits
    · have hvisited := Trace.LeavesFor.of_perform hvisit houtcome
      rw [Run.trace_after, Run.trace_after, List.append_assoc, List.append_assoc]
      refine Trace.LeavesFor.prepend ?_ (hreaches.destinations hends)
      exact (hvisited.append rfl rfl).prepend (Trace.destinations_eq_nil hlooked)

/-- A run ends unless it stays paused while somebody holds a control. -/
theorem run_ends (model : PageModel σ) (config : Config) (boundary : Boundary σ)
    (hdropped : ∀ trace last, Reaches model config boundary trace last → last.StaysPaused →
      boundary.steering.attended = false) :
    ∃ report, (boundary.run model config).report = some report := by
  obtain ⟨trace, last, past, stopped, hreaches, hpasses, hrun, hstops⟩ :=
    exists_stop model config boundary
  have hlast := hdropped trace last hreaches
  rw [← hpasses.attended] at hlast
  rw [hrun]
  cases hstops with
  | @stuck _ _ progress steering _ _ time _ _ hlook =>
    have hclearance := congrArg Prod.fst hlook
    by_cases hpaused : (steering.catchUp time).signal.StaysPaused (steering.catchUp time).upcoming
    · rw [Run.checkpoint_of_staysPaused _ _ hpaused, hlast ⟨nofun, hpaused⟩] at hclearance
      cases hclearance
    · exact absurd hclearance (Run.checkpoint_resumes progress.index time hpaused).1
  | _ => exact ⟨_, rfl⟩

/-- A run that nobody cancels and that goes on after opening another page completes, if it ends other
than by a pause that nobody is left to end. -/
theorem run_completes (model : PageModel σ) (config : Config)
    (hgoes : config.navigation.continueAfterOpen = true) (boundary : Boundary σ)
    (huncancelled : boundary.steering.Uncancelled)
    (hheld : ∀ trace last, Reaches model config boundary trace last → last.StaysPaused →
      boundary.steering.attended = true) :
    ∀ report ∈ (boundary.run model config).report, report.state = .completed := by
  obtain ⟨trace, last, past, stopped, hreaches, hpasses, hrun, hstops⟩ :=
    exists_stop model config boundary
  have hlast := hheld trace last hreaches
  rw [← hpasses.attended] at hlast
  rw [hrun]
  cases hstops with
  | completed progress steering page time =>
    rintro _ ⟨⟩
    rfl
  | stuck hlook => exact nofun
  | @cancelled _ _ progress steering _ _ time _ _ hlook =>
    have hclearance := congrArg Prod.fst hlook
    by_cases hpaused : (steering.catchUp time).signal.StaysPaused (steering.catchUp time).upcoming
    · rw [Run.checkpoint_of_staysPaused _ _ hpaused, hlast ⟨nofun, hpaused⟩] at hclearance
      cases hclearance
    · have hsignal := (Run.checkpoint_resumes progress.index time hpaused).2 hclearance
      obtain ⟨more, hmore, _⟩ := (Run.checkpoint_heeds steering progress.index time).passes
      exact absurd hsignal (hmore.uncancelled (hpasses.uncancelled huncancelled)).signal
  | left hlook hvisit hleaves =>
    have hends := (Run.departure?_eq_some hleaves).2
    rw [hgoes] at hends
    cases hends

end Boundary

/-! ### Whole runs -/

/-- The report of a run is a correct account. Each command is either among the first ones, which are
the ones announced and make up the tally, or remains; the state is final and agrees with what
remains; and the run has left its page exactly for the place to which its last command, an `open`,
has gone. A run without a report stays paused while somebody holds a control. If the settings let a
run go on after opening another page, and nobody cancels it or lets go of it while it is paused, then
it completes. -/
theorem report_is_account (model : PageModel σ) (config : Config) (script : Script)
    (steering : Steering) (page : σ) (time : Nat) :
    let done := run model config script steering page time
    let queue := Command.ofScript config.keys script
    let first := Boundary.first config script steering page time
    (∀ report ∈ done.report,
      report.dispatched = report.tally.succeeded + report.tally.abandoned + report.tally.skipped ∧
      report.dispatched + report.remaining = script.length ∧
      (∃ dispatched : List Dispatch,
        dispatched.map Dispatch.command = queue.take report.dispatched ∧
        EventWord.announced done.trace.told = Run.announcements config 0 dispatched) ∧
      report.state.isTerminal = true ∧
      (report.state = .completed → report.remaining = 0) ∧
      (report.state = .cancelled → 1 ≤ report.remaining) ∧
      ∀ url, report.state = .navigating url →
        config.navigation.continueAfterOpen = false ∧
        (∃ target, (queue.take report.dispatched).getLast? = some (.openPage target)) ∧
        done.trace.LeavesFor url) ∧
    ((∀ trace last, Boundary.Reaches model config first trace last → last.StaysPaused →
        steering.attended = false) →
      ∃ report, done.report = some report) ∧
    (config.navigation.continueAfterOpen = true →
      (∀ report ∈ done.report, ∀ url, report.state ≠ .navigating url) ∧
      (steering.Uncancelled →
        (∀ trace last, Boundary.Reaches model config first trace last → last.StaysPaused →
          steering.attended = true) →
        ∀ report ∈ done.report, report.state = .completed ∧ report.dispatched = script.length)) := by
  intro done queue first
  have hlength : queue.length = script.length := List.length_map _
  have hdone : done.report = (first.run model config).report := rfl
  have haccounts := Boundary.run_accounts model config first
  rw [hdone]
  refine ⟨fun report hreport => ?_, ?_, fun hgoes => ⟨fun report hreport url hstate => ?_, ?_⟩⟩
  · obtain ⟨htally, hqueue, hterminal, hcompleted, hcancelled⟩ := haccounts report hreport
    obtain ⟨dispatched, hcount, hcommands, hannounced⟩ :=
      Run.drain_dispatched model config queue {} steering page time report hreport
    have hfirst : report.dispatched = dispatched.length := by simpa using hcount
    refine ⟨?_, ?_, ⟨dispatched, ?_, hannounced⟩, hterminal, hcompleted, hcancelled,
      fun url hstate => ?_⟩
    · exact (htally.trans (Nat.zero_add _)).symm
    · rw [← hlength]
      exact hqueue.trans (Nat.zero_add _)
    · rw [hfirst]
      exact hcommands
    · obtain ⟨hends, ⟨count, target, hlast, htarget⟩, hleaves⟩ :=
        Boundary.run_leaves model config first hreport hstate
      have hcount : report.dispatched = count := hlast.trans (Nat.zero_add count)
      refine ⟨hends, ⟨target, ?_⟩, hleaves.prepend rfl⟩
      rw [hcount]
      exact htarget
  · exact Boundary.run_ends model config first
  · have hends := (Boundary.run_leaves model config first hreport hstate).1
    rw [hgoes] at hends
    cases hends
  · intro huncancelled hheld report hreport
    have hstate := Boundary.run_completes model config hgoes first huncancelled hheld report hreport
    obtain ⟨_, hqueue, _, hcompleted, _⟩ := haccounts report hreport
    refine ⟨hstate, ?_⟩
    rw [hcompleted hstate] at hqueue
    rw [← hlength]
    exact hqueue.trans (Nat.zero_add _)

end BrowserReplay
