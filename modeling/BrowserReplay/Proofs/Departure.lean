import BrowserReplay.Proofs.Paired
import BrowserReplay.Proofs.ReportAccount
import BrowserReplay.Proofs.Stored
import BrowserReplay.Rehearsal.Page

/-!
# Leaving the page

To open a target a command asks its page for the location and then navigates at most once. Unless
the settings let the run go on, a navigation is the last call of a run. What comes of it is not seen
any more (`perform_departs`), so runs on pages that differ in nothing else count as the same
(`arrivals_change_nothing`).
-/

namespace BrowserReplay

open Table

/-! ### Opening a target -/

namespace Perform

variable (model : PageModel σ) (target : String) (page : σ) (time : Nat)

/-- Going to a place, whatever the page replies. -/
theorem goTo_went (failure url : String) :
    let went := model page (.navigate url)
    let visit := goTo model failure url page time
    visit.result = .navigated url ∧ visit.page = went.page ∧
      visit.trace.records = [⟨.navigate url, went.reply⟩] := by
  rw [goTo, Visit.bind_apply]
  dsimp only [Visit.call]
  obtain ⟨after, (error : PageError) | (arrival : Arrival), elapsed⟩ := model page (.navigate url)
  · exact ⟨rfl, rfl, rfl⟩
  · exact ⟨rfl, rfl, rfl⟩

variable {model} {target} {page}

/-- A target that leads nowhere: the page is only asked for its location. -/
theorem openPage_stays (h : destination? target (model page .currentUrl).reply = none) :
    let asked := model page .currentUrl
    let visit := openPage model target page time
    visit.result = (if target = "" then .noOp else .completed) ∧ visit.page = asked.page ∧
      visit.trace.records = [⟨.currentUrl, asked.reply⟩] := by
  rw [openPage, Visit.bind_apply]
  dsimp only [Visit.call]
  revert h
  obtain ⟨after, (error : PageError) | (current : String), elapsed⟩ := model page .currentUrl
  all_goals
    intro h
    by_cases hempty : target = ""
  · rw [if_pos hempty]
    simp only [if_pos hempty]
    exact ⟨rfl, rfl, rfl⟩
  · simp [destination?, hempty] at h
  · simp [destination?, hempty] at h
  · have hsame : sameLocation current (resolveLocation (some current) target) = true := by
      simpa [destination?, hempty] using h
    simp only [if_neg hempty, if_pos hsame]
    exact ⟨rfl, rfl, rfl⟩

/-- A target that leads somewhere: the page is sent there, and the outcome says so whatever the page
replies. -/
theorem openPage_goes {url : String}
    (h : destination? target (model page .currentUrl).reply = some url) :
    let asked := model page .currentUrl
    let went := model asked.page (.navigate url)
    let visit := openPage model target page time
    visit.result = .navigated url ∧ visit.page = went.page ∧
      visit.trace.records = [⟨.currentUrl, asked.reply⟩, ⟨.navigate url, went.reply⟩] := by
  have hwent (failure : String) (after : σ) (later : Nat) := goTo_went model after later failure url
  rw [openPage, Visit.bind_apply]
  dsimp only [Visit.call]
  revert h
  obtain ⟨after, (error : PageError) | (current : String), elapsed⟩ := model page .currentUrl
  all_goals
    intro h
    by_cases hempty : target = ""
  · simp [destination?, hempty] at h
  · obtain rfl : resolveLocation none target = url := by simpa [destination?, hempty] using h
    obtain ⟨hresult, hpage, hrecords⟩ :=
      hwent ("Navigation to " ++ resolveLocation none target) after (time + elapsed)
    simp only [if_neg hempty]
    exact ⟨hresult, hpage, congrArg (_ :: ·) hrecords⟩
  · obtain rfl : current = url := by simpa [destination?, hempty] using h
    obtain ⟨hresult, hpage, hrecords⟩ := hwent ("Reload of " ++ current) after (time + elapsed)
    simp only [if_pos hempty]
    exact ⟨hresult, hpage, congrArg (_ :: ·) hrecords⟩
  · have hother : ¬sameLocation current (resolveLocation (some current) target) = true := by
      intro hsame
      simp [destination?, hempty, hsame] at h
    obtain rfl : resolveLocation (some current) target = url := by
      simpa [destination?, hempty, hother] using h
    obtain ⟨hresult, hpage, hrecords⟩ :=
      hwent ("Navigation to " ++ resolveLocation (some current) target) after (time + elapsed)
    simp only [if_neg hempty, if_neg hother]
    exact ⟨hresult, hpage, congrArg (_ :: ·) hrecords⟩

end Perform

/-! ### Pages that differ in what navigations come to -/

/-- A page on which navigations come to something else. They take the same time. -/
def PageModel.arriving (model : PageModel σ)
    (arrive : σ → String → σ × Except PageError Arrival) : PageModel σ
  | page, .navigate url =>
    ⟨(arrive page url).1, (arrive page url).2, (model page (.navigate url)).elapsed⟩
  | page, call => model page call

/-- A call and its reply, but for what a navigation comes to. -/
def CallRecord.withoutArrival : CallRecord → CallRecord
  | ⟨.navigate url, _⟩ => ⟨.navigate url, .error .notReady⟩
  | record => record

/-- Two traces have the same events and calls, but for what navigations come to. -/
def Trace.SameUpToArrivals (first second : Trace) : Prop :=
  first.events = second.events ∧
    first.calls.map (Prod.map id CallRecord.withoutArrival) =
      second.calls.map (Prod.map id CallRecord.withoutArrival)

variable (model : PageModel σ) (arrive other : σ → String → σ × Except PageError Arrival)

/-- Equal pages belong together, and traces count as the same that are so up to arrivals. -/
def Pairing.arrivals : Pairing (model.arriving arrive) (model.arriving other) where
  same := Eq
  duration := 0
  shows := Trace.SameUpToArrivals
  nil := ⟨rfl, rfl⟩
  append h h' := by
    refine ⟨?_, ?_⟩
    · rw [Trace.events_append, Trace.events_append, h.1, h'.1]
    · rw [Trace.calls_append, Trace.calls_append, List.map_append, List.map_append, h.2, h'.2]
  entry _ _ := ⟨rfl, rfl⟩

/-- Only a navigation makes a difference. -/
theorem Pairing.arrivals_answers {call : PageCall} (h : ∀ url, call ≠ .navigate url) :
    (arrivals model arrive other).Answers call where
  reply := by
    rintro page _ rfl
    cases call with
    | navigate url => exact absurd rfl (h url)
    | _ => rfl
  elapsed := by
    rintro page _ rfl
    cases call <;> rfl
  next := by
    rintro page _ rfl
    cases call with
    | navigate url => exact absurd rfl (h url)
    | _ => rfl

open Visit

/-- What a navigation comes to shows in the page, and in nothing that counts. -/
theorem Perform.goTo_departs (failure url : String) :
    SameStep (Pairing.arrivals model arrive other) (·.destination? = none)
      (goTo (model.arriving arrive) failure url) (goTo (model.arriving other) failure url) := by
  rintro page _ time rfl
  rw [goTo, goTo, bind_apply, bind_apply]
  dsimp only [Visit.call, PageModel.arriving]
  obtain ⟨after, (error : PageError) | (arrival : Arrival)⟩ := arrive page url <;>
    obtain ⟨after', (error' : PageError) | (arrival' : Arrival)⟩ := other page url <;>
      exact ⟨rfl, ⟨rfl, rfl⟩, rfl, nofun⟩

theorem Perform.openPage_departs (target : String) :
    SameStep (Pairing.arrivals model arrive other) (·.destination? = none)
      (openPage (model.arriving arrive) target) (openPage (model.arriving other) target) := by
  have hremark (level : LogLevel) (message : String) :
      Paired (Pairing.arrivals model arrive other) Eq (remark level message)
        (remark level message) := .remark level message
  refine Paired.bind_sameStep (.call (Pairing.arrivals_answers model arrive other nofun))
    fun location => ?_
  obtain (error : PageError) | (current : String) := location
  · refine (hremark _ _).bind_sameStep fun _ => ?_
    split
    · exact (hremark _ _).bind_sameStep fun _ => (Paired.pure rfl).sameStep _
    · exact goTo_departs model arrive other _ _
  · dsimp only
    split
    · exact goTo_departs model arrive other _ _
    · split
      · exact (hremark _ _).bind_sameStep fun _ => (Paired.pure rfl).sameStep _
      · exact goTo_departs model arrive other _ _

/-- A command that does not end the run does the same on both pages. -/
theorem perform_departs {config : Config} (hends : config.navigation.continueAfterOpen = false)
    (command : Command) (vars : Variables) (index : Nat) :
    SameStep (Pairing.arrivals model arrive other) (Run.departure? config ·.1 = none)
      (perform (model.arriving arrive) config vars index command)
      (perform (model.arriving other) config vars index command) := by
  have hself := (Pairing.arrivals model arrive other).shows_self rfl
  by_cases hopens : ∃ url, command = .openPage url
  · obtain ⟨url, rfl⟩ := hopens
    refine Paired.bind_sameStep (.tell fun time => hself _) fun _ => ?_
    exact (Perform.openPage_departs model arrive other _).pass (·, vars) fun outcome =>
      Run.destination?_of_stays hends
  · have hcarries : (Pairing.arrivals model arrive other).Carries config config command := {
      timing := rfl
      keys := rfl
      answers := fun call hplain =>
        Pairing.arrivals_answers model arrive other fun url h => by rw [h] at hplain; cases hplain
      stored := fun _ _ _ => hself _
      marks := fun _ =>
        Perform.mark_paired rfl (Pairing.arrivals_answers model arrive other nofun)
      opens := fun url h => absurd ⟨url, h⟩ hopens }
    have hperform : Paired (Pairing.arrivals model arrive other) (SameStored vars vars)
        (perform (model.arriving arrive) config vars index command)
        (perform (model.arriving other) config vars index command) :=
      perform_paired hcarries (.refl _ _) fun _ => hself _
    exact (hperform.mono fun _ _ => SameStored.eq).sameStep _

/-! ### Commands that open -/

namespace Performance

variable {model}

structure Opens (model : PageModel σ) (config : Config) (performance : Performance σ)
    (target : String) (navigations : List CallRecord) : Prop where
  /-- The page is asked once for its location, before anything else. -/
  asks : (performance.visit model config).trace.records =
    ⟨.currentUrl, (model performance.page .currentUrl).reply⟩ :: navigations
  /-- If there is nowhere to go the page is not sent anywhere. -/
  nowhere : navigations = [] ↔
    (target = "" ∧ ∃ error, (model performance.page .currentUrl).reply = .error error) ∨
      (target ≠ "" ∧ ∃ current, (model performance.page .currentUrl).reply = .ok current ∧
        sameLocation current (resolveLocation (some current) target) = true)
  /-- Otherwise it is sent once, to the place that the outcome names. -/
  somewhere : navigations ≠ [] → ∃ url reply, navigations = [⟨.navigate url, reply⟩] ∧
    (performance.visit model config).result.1 = .navigated url
  noOp : navigations = [] → target = "" → (performance.visit model config).result.1 = .noOp
  completed : navigations = [] → target ≠ "" →
    (performance.visit model config).result.1 = .completed

end Performance

theorem Table.destination?_eq_none (target : String) (location : Except PageError String) :
    destination? target location = none ↔ (target = "" ∧ ∃ error, location = .error error) ∨
      (target ≠ "" ∧ ∃ current, location = .ok current ∧
        sameLocation current (resolveLocation (some current) target) = true) := by
  cases location <;> by_cases hempty : target = "" <;> simp [destination?, hempty]

/-- A command that opens leaves what opening its target leaves. -/
theorem Performance.visit_openPage (model : PageModel σ) (config : Config)
    {performance : Performance σ} {url : Option String} (h : performance.command = .openPage url) :
    let visit := performance.visit model config
    let opened := Perform.openPage model (Template.substitute performance.vars url)
      performance.page performance.time
    visit.result = (opened.result, performance.vars) ∧ visit.page = opened.page ∧
      visit.trace.records = opened.trace.records := by
  obtain ⟨command, vars, index, page, time⟩ := performance
  obtain rfl : command = .openPage url := h
  refine ⟨rfl, rfl, ?_⟩
  show Trace.records (_ ++ (_ ++ [])) = _
  rw [List.append_nil, Trace.records_append]
  rfl

theorem Performance.opens (model : PageModel σ) (config : Config) {performance : Performance σ}
    {url : Option String} (h : performance.command = .openPage url) :
    ∃ navigations, performance.Opens model config (Template.substitute performance.vars url)
      navigations := by
  obtain ⟨hresult, -, hrecords⟩ := performance.visit_openPage model config h
  have hnowhere := destination?_eq_none (Template.substitute performance.vars url)
    (model performance.page .currentUrl).reply
  generalize Template.substitute performance.vars url = target at hresult hrecords hnowhere ⊢
  cases hleads : destination? target (model performance.page .currentUrl).reply with
  | none =>
    obtain ⟨hstays, -, hasked⟩ := Perform.openPage_stays performance.time hleads
    refine ⟨[], hrecords.trans hasked, ?_, fun h => absurd rfl h, fun _ hempty => ?_,
      fun _ hne => ?_⟩
    · simpa using hnowhere.1 hleads
    · rw [hresult, hstays, if_pos hempty]
    · rw [hresult, hstays, if_neg hne]
  | some url =>
    obtain ⟨hgoes, -, hasked⟩ := Perform.openPage_goes performance.time hleads
    have hsomewhere : ¬destination? target (model performance.page .currentUrl).reply = none := by
      rw [hleads]
      exact Option.some_ne_none url
    refine ⟨_, hrecords.trans hasked, ⟨nofun, fun h => absurd (hnowhere.2 h) hsomewhere⟩,
      fun _ => ⟨url, _, rfl, ?_⟩, nofun, nofun⟩
    rw [hresult, hgoes]

/-! ### Runs -/

/-- Unless the settings let it go on, a run sends its page to the place for which it leaves it, and
to no other. -/
theorem Run.drain_destinations (model : PageModel σ) {config : Config}
    (hends : config.navigation.continueAfterOpen = false) (boundary : Boundary σ) :
    (boundary.run model config).trace.destinations =
      ((boundary.run model config).report.bind (·.state.destination?)).toList := by
  obtain ⟨trace, last, past, stopped, hreaches, -, hrun, hstops⟩ :=
    boundary.exists_stop model config
  rw [hrun, Run.trace_after, Run.report_after, Trace.destinations_append,
    hreaches.destinations hends, List.nil_append]
  cases hstops with
  | completed progress steering page time => rfl
  | stuck hlook =>
    exact Trace.destinations_eq_nil (Run.look_of_checkpoint hlook).records_eq_nil
  | cancelled hlook =>
    rw [Run.trace_after, Trace.destinations_append,
      Trace.destinations_eq_nil (Run.look_of_checkpoint hlook).records_eq_nil]
    rfl
  | left hlook hvisit hleaves =>
    rw [Run.trace_after, Trace.destinations_append,
      Run.step_destinations hvisit (Run.look_of_checkpoint hlook) rfl,
      (departure?_eq_some hleaves).1]
    rfl

/-- What navigations come to changes nothing else in a run that the settings do not let go on after
them. With the same page otherwise, the reports, the events and the calls to the page are the same,
at the same times, no matter where navigations lead, whether they succeed and how they fail.
Whatever the settings, each command that opens asks the page once for its location and then sends it
at most once, to the place that the outcome names. It does not send it at all exactly if the target
is empty and the location cannot be read, which leaves nothing to do, or if the target is not empty
and means the location that was read, which completes the command. -/
theorem arrivals_change_nothing (model : PageModel σ) (config : Config) (script : Script)
    (steering : Steering) (page : σ) (time : Nat) :
    let done := run model config script steering page time
    (config.navigation.continueAfterOpen = false →
      (∀ arrive other,
        let first := run (model.arriving arrive) config script steering page time
        let second := run (model.arriving other) config script steering page time
        second.report = first.report ∧ second.time = first.time ∧
          second.trace.events = first.trace.events ∧
          second.trace.calls.map (Prod.map id CallRecord.withoutArrival) =
            first.trace.calls.map (Prod.map id CallRecord.withoutArrival)) ∧
      done.trace.destinations = (done.report.bind (·.state.destination?)).toList) ∧
    ∃ performances last,
      performances.map Performance.command =
        (Command.ofScript config.keys script).take
          (EventWord.number .commandStarted done.trace.told) ∧
      Chain model config .empty 0 page performances last done.page ∧
      done.trace.records =
        performances.flatMap (fun performance => (performance.visit model config).trace.records) ∧
      ∀ performance ∈ performances, ∀ url, performance.command = .openPage url →
        ∃ navigations, performance.Opens model config (Template.substitute performance.vars url)
          navigations := by
  intro done
  obtain ⟨performances, last, hcommands, hstarted, hchain, -, -, hrecords⟩ :=
    Run.drain_performs model config (Command.ofScript config.keys script) {} steering page time
  have hstarted : EventWord.number .commandStarted done.trace.told = performances.length := hstarted
  refine ⟨fun hends => ⟨fun arrive other => ?_, ?_⟩, performances, last, ?_, hchain, hrecords,
    fun performance _ url hopens => performance.opens model config hopens⟩
  · obtain ⟨htime, hreport, hevents, hcalls⟩ := run_paired rfl rfl rfl rfl
      (perform_departs model arrive other hends) script steering rfl time
    exact ⟨hreport, htime, hevents.symm, hcalls.symm⟩
  · exact Run.drain_destinations model hends (Boundary.first config script steering page time)
  · rw [hstarted]
    exact hcommands

/-- Here one page arrives where it is sent and the other one fails. Both runs end with the first
command. -/
theorem failed_arrival_changes_nothing :
    let page : Rehearsal.Page := { url := some "app://shop/list" }
    let script : Script :=
      { commands := [{ command := "open", target := some "cart" }, { command := "end" }] }
    let arrives (page : Rehearsal.Page) (url : String) :
        Rehearsal.Page × Except PageError Arrival :=
      ({ page with url := some url }, .ok ⟨url, "Cart", 200⟩)
    let fails (page : Rehearsal.Page) (_ : String) : Rehearsal.Page × Except PageError Arrival :=
      (page, .error (.navigation "no network"))
    let first := run (PageModel.arriving Rehearsal.respond arrives) {} script .standalone page 0
    let second := run (PageModel.arriving Rehearsal.respond fails) {} script .standalone page 0
    second.report = first.report ∧ second.trace.events = first.trace.events ∧
      first.report.map Report.state = some (.navigating "app://shop/cart") := by
  intro page script arrives fails first second
  obtain ⟨hends, -⟩ :=
    arrivals_change_nothing Rehearsal.respond {} script .standalone page 0
  obtain ⟨hsame, -⟩ := hends rfl
  obtain ⟨hreport, -, hevents, -⟩ := hsame arrives fails
  exact ⟨hreport, hevents, by decide +kernel⟩

end BrowserReplay
