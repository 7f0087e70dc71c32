import BrowserReplay.Controller
import BrowserReplay.Proofs.Boundary
import BrowserReplay.Rehearsal.Page
import Mathlib.Data.Prod.Lex
import Mathlib.Order.MinMax

/-!
# Refused starts

The running flag of a controller is set exactly while a run that was accepted is in flight
(`Controller.Tracks`), so no two runs are in flight together, and a start is refused exactly while one
is. A refused start can be left out: everything else is answered, runs and ends as before
(`Controller.serve_without`).
-/

namespace BrowserReplay

/-! ### Moments -/

namespace Moment

instance : LinearOrder Moment :=
  LinearOrder.lift' (fun moment => toLex (moment.time, moment.round)) (by
    rintro ⟨time, round⟩ ⟨time', round'⟩ h
    obtain ⟨rfl, rfl⟩ := Prod.mk.inj (toLex_inj.1 h)
    rfl)

theorem lt_iff {a b : Moment} : a < b ↔ a.time < b.time ∨ a.time = b.time ∧ a.round < b.round :=
  Prod.Lex.toLex_lt_toLex

theorem isBefore_iff {a b : Moment} : a.isBefore b = true ↔ a < b := by
  simp [isBefore, lt_iff]

@[simp] theorem later_eq (a b : Moment) : a.later b = max a b := by
  rw [later]
  split
  next h => exact (max_eq_right (isBefore_iff.1 h).le).symm
  next h => exact (max_eq_left (not_lt.1 (mt isBefore_iff.2 h))).symm

theorem time_mono {a b : Moment} (h : a ≤ b) : a.time ≤ b.time := by
  rcases h.eq_or_lt with rfl | h
  · exact Nat.le_refl _
  · rcases lt_iff.1 h with h | ⟨h, -⟩ <;> omega

/-- Putting off to a moment before that of a request makes no difference. -/
theorem max_max {now a b : Moment} (h : a ≤ b) : max (max now a) b = max now b := by
  rw [max_assoc, max_eq_right h]

end Moment

def Demand.IsStart (demand : Demand) : Prop :=
  ∃ page script awaited, demand = .start page script awaited

namespace ControllerAnswer

def IsRefusal (answer : ControllerAnswer σ) : Prop := ∃ time, answer = .refused time

/-- The script that was accepted, and the first moment after its run. -/
def accepted? : ControllerAnswer σ → Option (Script × Option Moment)
  | .ran _ script _ _ freed => some (script, freed)
  | _ => none

end ControllerAnswer

namespace Served

/-- The entry is about an accepted run that has begun and is not over at the moment. -/
def InFlight (entry : Served σ) (moment : Moment) : Prop :=
  ∃ script freed, entry.answer.accepted? = some (script, freed) ∧ entry.moment ≤ moment ∧
    ∀ last ∈ freed, moment < last

theorem InFlight.earlier {entry : Served σ} {early late : Moment} (h : entry.InFlight late)
    (hbegun : entry.moment ≤ early) (hle : early ≤ late) : entry.InFlight early := by
  obtain ⟨script, freed, haccepted, _, hlast⟩ := h
  exact ⟨script, freed, haccepted, hbegun, fun last hmem => hle.trans_lt (hlast last hmem)⟩

def script? (entry : Served σ) : Option Script := entry.answer.accepted?.map Prod.fst

/-- What is answered after some other requests, as far as it depends on the runs in flight. -/
structure Fits (past : List (Served σ)) (entry : Served σ) : Prop where
  refused : entry.demand.IsStart →
    (entry.answer.IsRefusal ↔ ∃ other ∈ past, other.InFlight entry.moment)
  flag : entry.demand = .isRunning → ∃ flag, entry.answer = .flag flag ∧
    (flag = true ↔ ∃ other ∈ past, other.InFlight entry.moment)
  /-- An accepted run is over when it has ended, and never if it stays paused. -/
  freed : ∀ page script start run freed, entry.answer = .ran page script start run freed →
    freed.map Moment.time = run.ended?

end Served

/-- What the accepted runs do to which pages: their calls and events. -/
def Service.traces (service : Service σ) : List (Nat × Trace) :=
  service.log.filterMap fun entry =>
    match entry.answer with
    | .ran page _ _ run _ => some (page, run.trace)
    | _ => none

/-- Of two services the first has one entry more, and all else is the same. -/
structure Service.Without (index : Nat) (service without : Service σ) : Prop where
  log : without.log = service.log.eraseIdx index
  controller : without.controller = service.controller
  finished : without.finished = service.finished

theorem filterMap_eraseIdx {f : α → Option β} {list : List α} {index : Nat} {entry : α}
    (hentry : list[index]? = some entry) (h : f entry = none) :
    (list.eraseIdx index).filterMap f = list.filterMap f := by
  induction list generalizing index with
  | nil => rfl
  | cons first rest ih =>
    cases index with
    | zero =>
      obtain rfl := Option.some.inj hentry
      exact (List.filterMap_cons_none h).symm
    | succ index =>
      rw [List.eraseIdx_cons_succ, List.filterMap_cons, List.filterMap_cons, ih hentry]

theorem Service.Without.traces_eq {index : Nat} {service without : Service σ}
    (h : Without index service without) {entry : Served σ}
    (hentry : service.log[index]? = some entry) (hrefused : entry.answer.IsRefusal) :
    without.traces = service.traces := by
  obtain ⟨time, hanswer⟩ := hrefused
  rw [traces, h.log]
  exact filterMap_eraseIdx hentry (by rw [hanswer])

theorem le_run_time (model : PageModel σ) (config : Config) (script : Script) (steering : Steering)
    (page : σ) (time : Nat) : time ≤ (run model config script steering page time).time :=
  Run.le_drain_time model config _ {} steering page time

namespace Run

theorem over?_time (began : Moment) (rounds : List Round) (run : Run σ) :
    (run.over? began rounds).map Moment.time = run.ended? := by
  rw [over?, Option.map_map]
  refine (Option.map_congr fun time _ => ?_).trans Option.map_id'
  dsimp only [Function.comp]
  split
  next h => exact h.symm
  next => rfl

/-- A run is not over before it begins. -/
theorem le_over? {began : Moment} {rounds : List Round} {run : Run σ} (h : began.time ≤ run.time) :
    ∀ last ∈ run.over? began rounds, began ≤ last := by
  intro last hlast
  obtain ⟨time, hended, rfl⟩ := Option.map_eq_some_iff.1 hlast
  obtain ⟨_, _, rfl⟩ := Option.map_eq_some_iff.1 hended
  split
  next => exact le_rfl
  next hne => exact (Moment.lt_iff.2 (.inl (by dsimp only; omega))).le

end Run

namespace Controller

variable {model : PageModel σ} {controller : Controller σ} {past : List (Served σ)} {now : Moment}

/-! ### The running flag -/

theorem isRunning_iff : controller.isRunning now = true ↔
    controller.running = true ∧ ∀ last ∈ controller.release, now < last := by
  simp [isRunning, Option.all_eq_true, Moment.isBefore_iff]

/-- A flag that is set stays as it is when it is set again. -/
theorem claim_of_isRunning (h : controller.isRunning now = true) :
    controller.claim now = (true, controller) := by
  have hrunning := (isRunning_iff.1 h).1
  rw [claim, h, if_pos rfl, ← hrunning]

/-- The ways in which a demand can be answered, as far as the running flag goes. -/
inductive Answered (controller : Controller σ) (moment : Moment) (demand : Demand) :
    Handled σ → Prop
  | refused (h : controller.isRunning moment = true) (hstart : demand.IsStart) :
      Answered controller moment demand ⟨controller, some moment, .refused moment.time⟩
  | ran (h : controller.isRunning moment = false) {after : Controller σ} {page : Nat}
      {script : Script} {awaited : Bool} {run : Run σ} {freed : Option Moment}
      (hstart : demand = .start page script awaited) (hrunning : after.running = true)
      (hrelease : after.release = freed) (hstarted : after.started = controller.started ++ [script])
      (hle : ∀ last ∈ freed, moment ≤ last) (hfreed : freed.map Moment.time = run.ended?) :
      Answered controller moment demand
        ⟨after, if awaited then freed else some moment, .ran page script moment.time run freed⟩
  | other {after : Controller σ} {answer : ControllerAnswer σ}
      (hrunning : after.running = controller.running) (hrelease : after.release = controller.release)
      (hstarted : after.started = controller.started) (haccepted : answer.accepted? = none)
      (hrefusal : ¬ answer.IsRefusal)
      (hflag : demand = .isRunning → answer = .flag (controller.isRunning moment))
      (hstart : demand.IsStart → controller.isRunning moment = false) :
      Answered controller moment demand ⟨after, some moment, answer⟩

theorem handle_answered (model : PageModel σ) (controller : Controller σ) (moment : Moment)
    (later : List Request) (demand : Demand) :
    Answered controller moment demand (handle model controller moment later demand) := by
  cases demand with
  | act action =>
    rw [handle]
    cases controller.signal.answer action <;> exact .other rfl rfl rfl rfl nofun nofun nofun
  | isRunning => exact .other rfl rfl rfl rfl nofun (fun _ => rfl) nofun
  | signal => exact .other rfl rfl rfl rfl nofun nofun nofun
  | start page script awaited =>
    cases h : controller.isRunning moment with
    | true =>
      rw [handle, claim_of_isRunning h]
      exact .refused h ⟨page, script, awaited, rfl⟩
    | false =>
      rw [handle, claim, h]
      cases controller.pages[page]? with
      | none => exact .other rfl rfl rfl rfl nofun nofun (fun _ => h)
      | some state =>
        have hle := le_run_time model controller.config script
          { upcoming := turns moment (if awaited then [] else later), attended := true } state
          moment.time
        exact .ran h rfl rfl rfl rfl (Run.le_over? hle) (Run.over?_time _ _ _)

/-- The controller knows of the runs that were accepted so far: the flag is set while one of them is in
flight, and no two are in flight together. -/
structure Tracks (controller : Controller σ) (past : List (Served σ)) (now : Moment) : Prop where
  begun : ∀ entry ∈ past, entry.moment ≤ now
  running : ∀ moment, now ≤ moment →
    (controller.isRunning moment = true ↔ ∃ entry ∈ past, entry.InFlight moment)
  apart : past.Pairwise fun a b => ∀ moment, a.InFlight moment → ¬ b.InFlight moment

namespace Tracks

theorem fresh (config : Config) (pages : List σ) (now : Moment) :
    Tracks { config, pages } [] now where
  begun entry hentry := absurd hentry List.not_mem_nil
  running moment _ := by simp [isRunning]
  apart := .nil

theorem later (h : Tracks controller past now) {moment : Moment} (hle : now ≤ moment) :
    Tracks controller past moment where
  begun entry hentry := (h.begun entry hentry).trans hle
  running last hlast := h.running last (hle.trans hlast)
  apart := h.apart

/-- An answered demand that starts no run changes nothing. -/
theorem other (h : Tracks controller past now) {after : Controller σ} {entry : Served σ}
    (hmoment : entry.moment = now) (hrunning : after.running = controller.running)
    (hrelease : after.release = controller.release) (haccepted : entry.answer.accepted? = none) :
    Tracks after (past ++ [entry]) now := by
  have hquiet (moment : Moment) : ¬ entry.InFlight moment := by
    rintro ⟨script, freed, hrun, _⟩
    rw [haccepted] at hrun
    cases hrun
  refine ⟨?_, fun moment hle => ?_, ?_⟩
  · rw [List.forall_mem_append]
    exact ⟨h.begun, List.forall_mem_singleton.2 hmoment.le⟩
  · rw [isRunning, hrunning, hrelease, ← isRunning, h.running moment hle]
    simp [or_and_right, exists_or, hquiet]
  · rw [List.pairwise_append]
    refine ⟨h.apart, List.pairwise_singleton _ _, fun a _ b hb moment _ => ?_⟩
    rw [List.mem_singleton.1 hb]
    exact hquiet moment

/-- A run is accepted when no other is in flight. -/
theorem ran (h : Tracks controller past now) (hfree : controller.isRunning now = false)
    {after : Controller σ} {entry : Served σ} {script : Script} {freed : Option Moment}
    (hmoment : entry.moment = now) (hrunning : after.running = true) (hrelease : after.release = freed)
    (haccepted : entry.answer.accepted? = some (script, freed)) :
    Tracks after (past ++ [entry]) now := by
  have hfreed (moment : Moment) (hle : now ≤ moment) :
      ∀ other ∈ past, ¬ other.InFlight moment := by
    intro other hother hflight
    have hnow := hflight.earlier (h.begun other hother) hle
    have hbusy := (h.running now le_rfl).2 ⟨other, hother, hnow⟩
    rw [hfree] at hbusy
    cases hbusy
  have hentry (moment : Moment) (hle : now ≤ moment) :
      entry.InFlight moment ↔ after.isRunning moment = true := by
    simp [Served.InFlight, haccepted, hmoment, hle, isRunning_iff, hrunning, hrelease]
  refine ⟨?_, fun moment hle => ?_, ?_⟩
  · rw [List.forall_mem_append]
    exact ⟨h.begun, List.forall_mem_singleton.2 hmoment.le⟩
  · rw [← hentry moment hle]
    constructor
    · exact fun hflight => ⟨entry, by simp, hflight⟩
    · rintro ⟨other, hother, hflight⟩
      obtain hother | hother := List.mem_append.1 hother
      · exact absurd hflight (hfreed moment hle other hother)
      · exact List.mem_singleton.1 hother ▸ hflight
  · rw [List.pairwise_append]
    refine ⟨h.apart, List.pairwise_singleton _ _, fun a ha b hb moment hflight hboth => ?_⟩
    obtain rfl := List.mem_singleton.1 hb
    obtain ⟨_, _, _, hbegun, _⟩ := hboth
    exact hfreed moment (hmoment ▸ hbegun) a ha hflight

/-- One more demand. -/
theorem answered (h : Tracks controller past now) {demand : Demand} {handled : Handled σ}
    (hanswered : Answered controller now demand handled) :
    Tracks handled.controller (past ++ [⟨now, demand, handled.answer⟩]) now ∧
      Served.Fits past ⟨now, demand, handled.answer⟩ ∧ ∀ next ∈ handled.next, now ≤ next := by
  have hflight := h.running now le_rfl
  cases hanswered with
  | refused hbusy hstart =>
    refine ⟨h.other rfl rfl rfl rfl, ⟨fun _ => ?_, ?_, nofun⟩, ?_⟩
    · exact ⟨fun _ => hflight.1 hbusy, fun _ => ⟨now.time, rfl⟩⟩
    · obtain ⟨page, script, awaited, rfl⟩ := hstart
      exact nofun
    · rintro _ ⟨⟩
      exact le_rfl
  | @ran hfree after page script awaited run freed hstart hrunning hrelease hstarted hle hfreed =>
    subst hstart
    refine ⟨h.ran hfree rfl hrunning hrelease rfl, ⟨fun _ => ?_, nofun, ?_⟩, ?_⟩
    · refine ⟨nofun, fun hflights => ?_⟩
      rw [hflight.2 hflights] at hfree
      cases hfree
    · rintro _ _ _ _ _ ⟨⟩
      exact hfreed
    · cases awaited with
      | false =>
        rintro _ ⟨⟩
        exact le_rfl
      | true => exact hle
  | other hrunning hrelease _ haccepted hrefusal hflag hstart =>
    refine ⟨h.other rfl hrunning hrelease haccepted, ⟨fun hstarts => ?_, fun hasks => ?_, ?_⟩, ?_⟩
    · refine ⟨fun hrefused => absurd hrefused hrefusal, fun hflights => ?_⟩
      have hfree := hstart hstarts
      rw [hflight.2 hflights] at hfree
      cases hfree
    · exact ⟨_, hflag hasks, hflight⟩
    · rintro _ _ _ _ _ rfl
      cases haccepted
    · rintro _ ⟨⟩
      exact le_rfl

end Tracks

/-! ### Serving -/

theorem fits_cons {first : Served σ} {log : List (Served σ)} (hfirst : first.Fits past)
    (hlog : ∀ early entry late, log = early ++ entry :: late →
      entry.Fits (past ++ [first] ++ early)) :
    ∀ early entry late, first :: log = early ++ entry :: late → entry.Fits (past ++ early) := by
  intro early entry late h
  cases early with
  | nil =>
    obtain ⟨rfl, _⟩ := List.cons.inj h
    rw [List.append_nil]
    exact hfirst
  | cons other early =>
    obtain ⟨rfl, hrest⟩ := List.cons.inj h
    have hentry := hlog early entry late hrest
    rwa [List.append_assoc, List.singleton_append] at hentry

/-- Whatever is asked, the controller knows of the runs that it has accepted and answers by them. The
next request may come later than what is known of, if a run is awaited. -/
theorem serve_tracks {known : Moment} (h : Tracks controller past known) (hknown : known ≤ now)
    (requests : List Request) :
    (∀ early entry late, (serve model controller now requests).log = early ++ entry :: late →
      entry.Fits (past ++ early)) ∧
      ∀ moment, known ≤ moment →
        (∀ entry ∈ (serve model controller now requests).log, entry.moment ≤ moment) →
        Tracks (serve model controller now requests).controller
          (past ++ (serve model controller now requests).log) moment := by
  induction requests generalizing controller past now known with
  | nil =>
    refine ⟨fun early entry late hlog => ?_, fun moment hle _ => ?_⟩
    · cases early <;> cases hlog
    · rw [serve, List.append_nil]
      exact h.later hle
  | cons request rest ih =>
    have hbefore := h.later (hknown.trans (le_max_left now request.moment))
    obtain ⟨hthis, hfits, hnext⟩ := hbefore.answered
      (handle_answered model controller (max now request.moment) rest request.demand)
    rw [serve, Moment.later_eq]
    generalize handle model controller (max now request.moment) rest request.demand = handled
      at hthis hfits hnext
    obtain ⟨after, next, answer⟩ := handled
    cases next with
    | none =>
      refine ⟨fits_cons hfits fun early entry late hlog => ?_, fun moment _ hmoments => ?_⟩
      · cases early <;> cases hlog
      · exact hthis.later (hmoments _ (List.mem_singleton.2 rfl))
    | some next =>
      obtain ⟨hlater, htracks⟩ := ih hthis (hnext next rfl)
      refine ⟨fits_cons hfits hlater, fun moment _ hmoments => ?_⟩
      obtain ⟨hmoment, hmoments⟩ := List.forall_mem_cons.1 hmoments
      have hall := htracks moment hmoment hmoments
      rwa [List.append_assoc, List.singleton_append] at hall

/-- The start callback is called for the runs that are accepted. -/
theorem serve_started (model : PageModel σ) (controller : Controller σ) (now : Moment)
    (requests : List Request) :
    (serve model controller now requests).controller.started = controller.started ++
      (serve model controller now requests).log.filterMap Served.script? := by
  induction requests generalizing controller now with
  | nil => exact (List.append_nil _).symm
  | cons request rest ih =>
    have hanswered := handle_answered model controller (max now request.moment) rest request.demand
    rw [serve, Moment.later_eq]
    generalize handle model controller (max now request.moment) rest request.demand = handled
      at hanswered
    have hstarted : handled.controller.started =
        controller.started ++ (handled.answer.accepted?.map Prod.fst).toList := by
      cases hanswered with
      | refused => exact (List.append_nil _).symm
      | ran _ _ _ _ hstarted _ _ => exact hstarted
      | other _ _ hstarted haccepted =>
        rw [hstarted, haccepted]
        exact (List.append_nil _).symm
    obtain ⟨after, next, answer⟩ := handled
    have hcons (log : List (Served σ)) : after.started ++ log.filterMap Served.script? =
        controller.started ++ List.filterMap Served.script?
          (⟨max now request.moment, request.demand, answer⟩ :: log) := by
      rw [hstarted, List.append_assoc, List.filterMap_cons, Served.script?]
      cases answer.accepted? <;> rfl
    cases next with
    | none => exact (List.append_nil _).symm.trans (hcons [])
    | some next => exact (ih after next).trans (hcons _)

/-! ### Leaving out a refused start -/

theorem rounds_of_le {request : Request} (hstart : request.demand.IsStart) (late : List Request)
    (hlate : ∀ other ∈ late, request.moment ≤ other.moment) :
    rounds now (request :: late) = rounds now late := by
  obtain ⟨page, script, awaited, hdemand⟩ := hstart
  rw [rounds, hdemand, Moment.later_eq]
  cases late with
  | nil => rfl
  | cons other rest =>
    have hmoment := hlate other List.mem_cons_self
    rw [rounds, rounds, Moment.later_eq, Moment.later_eq, Moment.max_max hmoment]

/-- A start does nothing to the signal of the run in flight. -/
theorem rounds_without (now : Moment) {request : Request} (hstart : request.demand.IsStart)
    (early late : List Request) (hlate : ∀ other ∈ late, request.moment ≤ other.moment) :
    rounds now (early ++ request :: late) = rounds now (early ++ late) := by
  induction early generalizing now with
  | nil => exact rounds_of_le hstart late hlate
  | cons other rest ih => rw [List.cons_append, List.cons_append, rounds, rounds, ih]

theorem handle_without (model : PageModel σ) (controller : Controller σ) (moment : Moment)
    {request : Request} (hstart : request.demand.IsStart) (early late : List Request)
    (hlate : ∀ other ∈ late, request.moment ≤ other.moment) (demand : Demand) :
    handle model controller moment (early ++ request :: late) demand =
      handle model controller moment (early ++ late) demand := by
  cases demand with
  | start page script awaited =>
    have hrounds := rounds_without moment hstart early late hlate
    cases awaited with
    | true => rfl
    | false =>
      simp only [handle, turns, Bool.false_eq_true, if_false, hrounds]
  | _ => rfl

theorem serve_without_first (model : PageModel σ) (controller : Controller σ) (now : Moment)
    {request : Request} (late : List Request)
    (hlate : ∀ other ∈ late, request.moment ≤ other.moment) {entry : Served σ}
    (hentry : (serve model controller now (request :: late)).log[0]? = some entry)
    (hrefused : entry.answer.IsRefusal) :
    Service.Without 0 (serve model controller now (request :: late))
      (serve model controller now late) := by
  have hanswered := handle_answered model controller (max now request.moment) late request.demand
  rw [serve, Moment.later_eq] at hentry ⊢
  generalize handle model controller (max now request.moment) late request.demand = handled
    at hanswered hentry ⊢
  have hanswer : handled.answer = entry.answer := by
    obtain ⟨after, _ | next, answer⟩ := handled <;> cases hentry <;> rfl
  rw [← hanswer] at hrefused
  cases hanswered with
  | ran => exact absurd hrefused nofun
  | other _ _ _ _ hrefusal _ _ => exact absurd hrefused hrefusal
  | refused hbusy hstart =>
    cases late with
    | cons other rest =>
      have hsame : serve model controller (max now request.moment) (other :: rest) =
          serve model controller now (other :: rest) := by
        rw [serve, serve, Moment.later_eq, Moment.later_eq,
          Moment.max_max (hlate other List.mem_cons_self)]
      dsimp only
      rw [hsame]
      exact ⟨rfl, rfl, rfl⟩
    | nil =>
      refine ⟨rfl, rfl, ?_⟩
      obtain ⟨hrunning, hrelease⟩ := isRunning_iff.1 hbusy
      simp only [serve, Service.finished, hrunning, if_true, Option.bind_eq_bind, Option.bind_some]
      cases hlast : controller.release with
      | none => rfl
      | some last =>
        -- The run in flight ends after the refused start, so that does not put off the end.
        have hbefore := Moment.time_mono (hrelease last hlast).le
        have hnow := Moment.time_mono (le_max_left now request.moment)
        simp only [Option.map_some, Option.some.injEq]
        omega

/-- A refused start can be left out. -/
theorem serve_without (model : PageModel σ) (controller : Controller σ) (now : Moment)
    {request : Request} (hstart : request.demand.IsStart) (early late : List Request)
    (hlate : ∀ other ∈ late, request.moment ≤ other.moment) {entry : Served σ}
    (hentry : (serve model controller now (early ++ request :: late)).log[early.length]? = some entry)
    (hrefused : entry.answer.IsRefusal) :
    Service.Without early.length (serve model controller now (early ++ request :: late))
      (serve model controller now (early ++ late)) := by
  induction early generalizing controller now with
  | nil => exact serve_without_first model controller now late hlate hentry hrefused
  | cons first early ih =>
    have hhandle := handle_without model controller (max now first.moment) hstart early late hlate
      first.demand
    rw [List.cons_append, serve, Moment.later_eq, hhandle] at hentry ⊢
    rw [List.cons_append, serve, Moment.later_eq]
    generalize handle model controller (max now first.moment) (early ++ late) first.demand = handled
      at hentry ⊢
    obtain ⟨after, _ | next, answer⟩ := handled
    · cases hentry
    · obtain ⟨hlog, hcontroller, hfinished⟩ := ih after next hentry
      exact ⟨congrArg (List.cons _) hlog, hcontroller, hfinished⟩

end Controller

/-! ### Refusals -/

theorem exists_late_moment (now : Moment) (log : List (Served σ)) :
    ∃ late, now ≤ late ∧ ∀ entry ∈ log, entry.moment ≤ late := by
  induction log with
  | nil => exact ⟨now, le_rfl, fun _ hentry => absurd hentry List.not_mem_nil⟩
  | cons entry rest ih =>
    obtain ⟨late, hnow, hrest⟩ := ih
    refine ⟨max entry.moment late, le_max_of_le_right hnow, List.forall_mem_cons.2 ⟨?_, ?_⟩⟩
    · exact le_max_left _ _
    · exact fun other hother => le_max_of_le_right (hrest other hother)

/-- A refused start is inert. Whatever is asked of a fresh controller, with or without giving the run
in flight a chance in between: a start is refused exactly while another run that was accepted is in
flight, of which there is at most one; the running flag is set exactly then; and the start callback
is called for the accepted runs. Without a start that was refused, all other requests are answered
the same at the same moments, with the same runs, and the controller and its pages are left the
same. -/
theorem refused_start_is_inert (model : PageModel σ) (config : Config) (pages : List σ)
    (now : Moment) (requests : List Request) :
    let fresh : Controller σ := { config, pages }
    let service := fresh.serve model now requests
    (∀ early entry late, service.log = early ++ entry :: late →
      (entry.demand.IsStart →
        (entry.answer.IsRefusal ↔ ∃ other ∈ early, other.InFlight entry.moment)) ∧
      (entry.demand = .isRunning → ∃ flag, entry.answer = .flag flag ∧
        (flag = true ↔ ∃ other ∈ early, other.InFlight entry.moment)) ∧
      ∀ page script start run freed, entry.answer = .ran page script start run freed →
        freed.map Moment.time = run.ended?) ∧
    (service.log.Pairwise fun a b => ∀ moment, a.InFlight moment → ¬ b.InFlight moment) ∧
    (∀ moment, now ≤ moment → (∀ entry ∈ service.log, entry.moment ≤ moment) →
      (service.controller.isRunning moment = true ↔
        ∃ entry ∈ service.log, entry.InFlight moment)) ∧
    service.controller.started = service.log.filterMap Served.script? ∧
    ∀ early request late, requests = early ++ request :: late → request.demand.IsStart →
      (∀ other ∈ late, request.moment ≤ other.moment) →
      (∃ entry, service.log[early.length]? = some entry ∧ entry.answer.IsRefusal) →
      let without := fresh.serve model now (early ++ late)
      Service.Without early.length service without ∧ without.traces = service.traces := by
  intro fresh service
  have hfresh : fresh.Tracks [] now := .fresh config pages now
  obtain ⟨hfits, htracks⟩ := Controller.serve_tracks hfresh le_rfl requests
  simp only [List.nil_append] at hfits htracks
  refine ⟨fun early entry late hlog => ?_, ?_, fun moment hle hmoments => ?_, ?_, ?_⟩
  · obtain ⟨hrefused, hflag, hfreed⟩ := hfits early entry late hlog
    exact ⟨hrefused, hflag, hfreed⟩
  · obtain ⟨late, hle, hmoments⟩ := exists_late_moment now service.log
    exact (htracks late hle hmoments).apart
  · exact (htracks moment hle hmoments).running moment le_rfl
  · exact Controller.serve_started model fresh now requests
  · rintro early request late rfl hstart hlate ⟨entry, hentry, hrefused⟩
    have hwithout := Controller.serve_without model fresh now hstart early late hlate hentry hrefused
    exact ⟨hwithout, hwithout.traces_eq hentry hrefused⟩

/-- A start on the other page, while the first run is at work, can be left out. -/
theorem second_start_can_be_left_out :
    let fresh : Controller Rehearsal.Page := { config := {}, pages := [{}, {}] }
    let script : Script := ⟨none, none, List.replicate 2 ⟨"store", some "x", some "name", [], none⟩⟩
    let first : Request := ⟨{ time := 0 }, .start 0 script false⟩
    let second : Request := ⟨{ time := 10 }, .start 1 script false⟩
    let question : Request := ⟨{ time := 20 }, .isRunning⟩
    let service := fresh.serve Rehearsal.respond { time := 0 } [first, second, question]
    let without := fresh.serve Rehearsal.respond { time := 0 } [first, question]
    (∃ entry, service.log[1]? = some entry ∧ entry.answer.IsRefusal) ∧
      Service.Without 1 service without ∧ without.traces = service.traces := by
  intro fresh script first second question service without
  have hrefused : ∃ entry, service.log[1]? = some entry ∧ entry.answer.IsRefusal := by
    have htime : service.log[1]?.map (fun entry =>
        match entry.answer with
        | .refused time => some time
        | _ => none) = some (some 10) := by
      decide +kernel
    obtain ⟨⟨time, demand, answer⟩, hentry, hanswer⟩ := Option.map_eq_some_iff.1 htime
    refine ⟨_, hentry, 10, ?_⟩
    cases answer <;> simp_all
  obtain ⟨_, _, _, _, hwithout⟩ := refused_start_is_inert Rehearsal.respond {} [{}, {}]
    { time := 0 } [first, second, question]
  exact ⟨hrefused, hwithout [first] second [question] rfl ⟨1, script, false, rfl⟩
    (by decide) hrefused⟩

end BrowserReplay
