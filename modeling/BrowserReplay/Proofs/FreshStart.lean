import BrowserReplay.Proofs.Delay
import BrowserReplay.Proofs.Refusal

/-!
# Accepted starts

A start is accepted at a moment that depends on what the controller was asked before, and nothing
else of that history reaches the run: it is the run of the script alone on the page, on a fresh
signal with the turns that follow, put off to the time of that moment (`StartScene.Accepts.run_eq`).
Before it says anything the start callback is called (`StartScene.Accepts.announces`).
-/

namespace BrowserReplay

/-! ### Traces put off -/

def sinceStart (start : Nat) (records : List (Nat × α)) : List (Nat × α) :=
  records.map fun record => (record.1 - start, record.2)

/-- Counted from the start, what is read off a trace does not tell that it was put off. -/
theorem Trace.sinceStart_delay {start : Nat} {read? : Entry → Option (Nat × α)}
    (h : ∀ time what, read? ⟨time + start, what⟩ =
      (read? ⟨time, what⟩).map fun record => (record.1 + start, record.2)) (trace : Trace) :
    sinceStart start ((trace.delay start).filterMap read?) = trace.filterMap read? := by
  induction trace with
  | nil => rfl
  | cons entry rest ih =>
    have hentry : read? { entry with time := entry.time + start } =
        (read? entry).map fun record => (record.1 + start, record.2) := h entry.time entry.what
    rw [delay, List.map_cons, List.filterMap_cons, List.filterMap_cons, hentry, ← delay]
    cases read? entry with
    | none => exact ih
    | some record =>
      have hback : record.1 + start - start = record.1 := Nat.add_sub_cancel ..
      simp only [Option.map_some, sinceStart, List.map_cons, hback] at ih ⊢
      rw [ih]

theorem Trace.sinceStart_events_delay (start : Nat) (trace : Trace) :
    sinceStart start (Trace.events (trace.delay start)) = trace.events :=
  sinceStart_delay (fun _ what => by cases what <;> rfl) trace

theorem Trace.sinceStart_calls_delay (start : Nat) (trace : Trace) :
    sinceStart start (Trace.calls (trace.delay start)) = trace.calls :=
  sinceStart_delay (fun _ what => by cases what <;> rfl) trace

def Turn.since (start : Nat) (turn : Turn) : Turn := { turn with time := turn.time - start }

/-! ### Rounds -/

namespace Round

variable {moment : Moment} {action : SignalAction} {rounds : List Round}

theorem forall_mem_join {now : Moment} (hmoment : now ≤ moment)
    (hrounds : ∀ round ∈ rounds, now ≤ round.moment) :
    ∀ round ∈ join moment action rounds, now ≤ round.moment := by
  cases rounds with
  | nil => exact List.forall_mem_singleton.2 hmoment
  | cons first rest =>
    rw [join]
    split
    next => exact List.forall_mem_cons.2 ⟨hmoment, (List.forall_mem_cons.1 hrounds).2⟩
    next => exact List.forall_mem_cons.2 ⟨hmoment, hrounds⟩

theorem pairwise_join (h : rounds.Pairwise fun a b => a.moment < b.moment)
    (hrounds : ∀ round ∈ rounds, moment ≤ round.moment) :
    (join moment action rounds).Pairwise fun a b => a.moment < b.moment := by
  cases rounds with
  | nil => exact List.pairwise_singleton _ _
  | cons first rest =>
    obtain ⟨hfirst, hrest⟩ := List.pairwise_cons.1 h
    rw [join]
    split
    next hsame => exact List.pairwise_cons.2 ⟨hsame ▸ hfirst, hrest⟩
    next hother =>
      have hlt : moment < first.moment :=
        lt_of_le_of_ne (hrounds first List.mem_cons_self) (Ne.symm hother)
      refine List.pairwise_cons.2 ⟨List.forall_mem_cons.2 ⟨hlt, fun round hround => ?_⟩, h⟩
      exact hlt.trans (hfirst round hround)

end Round

/-! ### The steps of a start -/

inductive Sighting where
  | callback (script : Script)
  | entry (entry : Entry)

/-- A controller in the middle of a start, and what has been seen of the start so far. -/
structure Underway (σ : Type) where
  controller : Controller σ
  seen : List Sighting := []

namespace Underway

def reset (underway : Underway σ) : Underway σ :=
  { underway with controller := { underway.controller with signal := .proceed } }

def callBack (script : Script) (underway : Underway σ) : Underway σ where
  controller :=
    { underway.controller with started := underway.controller.started ++ [script] }
  seen := underway.seen ++ [.callback script]

/-- Runs a script on a page whose state is `state`, under the signal as it is and the rounds to
come. -/
def runOn (model : PageModel σ) (script : Script) (page : Nat) (state : σ) (rounds : List Round)
    (moment : Moment) (underway : Underway σ) : Underway σ :=
  let controller := underway.controller
  let steering : Steering :=
    { signal := controller.signal, upcoming := rounds.map (Round.turn moment.time), attended := true }
  let done := run model controller.config script steering state moment.time
  { controller :=
      { controller with
        release := done.over? moment rounds, pages := controller.pages.set page done.page }
    seen := underway.seen ++ done.trace.map .entry }

end Underway

namespace Controller

variable {model : PageModel σ} {controller : Controller σ} {now : Moment}

def begin (model : PageModel σ) (controller : Controller σ) (script : Script) (page : Nat)
    (state : σ) (rounds : List Round) (moment : Moment) : Underway σ :=
  let claimed : Underway σ := { controller := (controller.claim moment).2 }
  claimed.reset |>.callBack script |>.runOn model script page state rounds moment

/-- A start is accepted if no run is in flight and its page is there; it goes through its steps. -/
theorem handle_start (hfree : controller.isRunning now = false) {page : Nat} {state : σ}
    (hpage : controller.pages[page]? = some state) (later : List Request) (script : Script)
    (awaited : Bool) :
    let rounds := rounds now (if awaited then [] else later)
    let upcoming := rounds.map (Round.turn now.time)
    let run := run model controller.config script { upcoming, attended := true } state now.time
    let freed := run.over? now rounds
    handle model controller now later (.start page script awaited) =
      ⟨(begin model controller script page state rounds now).controller,
        if awaited then freed else some now, .ran page script now.time run freed⟩ := by
  rw [handle, claim, hfree, hpage]
  simp only [begin, claim, hfree, Bool.false_eq_true, if_false]
  rfl

/-- Only such a start is answered with a run. -/
theorem of_handle_ran {later : List Request} {page : Nat} {script : Script} {awaited : Bool}
    {start : Nat} {run : Run σ} {freed : Option Moment}
    (h : (handle model controller now later (.start page script awaited)).answer =
      .ran page script start run freed) :
    controller.isRunning now = false ∧ ∃ state, controller.pages[page]? = some state := by
  rw [handle, claim] at h
  -- While a run is in flight and without the page, the answer is a refusal.
  cases hbusy : controller.isRunning now with
  | true =>
    rw [hbusy] at h
    cases h
  | false =>
    rw [hbusy] at h
    cases hpage : controller.pages[page]? with
    | none =>
      rw [hpage] at h
      cases h
    | some state => exact ⟨rfl, state, rfl⟩

theorem handle_config (model : PageModel σ) (controller : Controller σ) (moment : Moment)
    (later : List Request) (demand : Demand) :
    (handle model controller moment later demand).controller.config = controller.config := by
  cases demand with
  | start page script awaited =>
    rw [handle, claim]
    cases controller.isRunning moment with
    | true => rfl
    | false => cases controller.pages[page]? <;> rfl
  | _ => rfl

/-! ### What a history leaves -/

/-- The controller when a history of requests is served, and from when on the next one can be made;
nothing if that moment never comes. The requests after the history are `later`. -/
def standing (model : PageModel σ) (controller : Controller σ) (now : Moment)
    (later : List Request) : List Request → Option (Controller σ × Moment)
  | [] => some (controller, now)
  | request :: rest =>
    let handled := handle model controller (max now request.moment) (rest ++ later) request.demand
    handled.next.bind fun next => standing model handled.controller next later rest

theorem config_standing {after : Controller σ} {next : Moment} {history later : List Request}
    (h : standing model controller now later history = some (after, next)) :
    after.config = controller.config := by
  induction history generalizing controller now with
  | nil =>
    obtain ⟨rfl, rfl⟩ := h
    rfl
  | cons request rest ih =>
    obtain ⟨middle, _, hrest⟩ := Option.bind_eq_some_iff.1 h
    rw [ih hrest, handle_config]

/-- The log of a service goes on from what a history leaves as if the service began there. -/
theorem serve_log_append {after : Controller σ} {next : Moment} {history later : List Request}
    (h : standing model controller now later history = some (after, next)) :
    ∃ log, log.length = history.length ∧
      (serve model controller now (history ++ later)).log =
        log ++ (serve model after next later).log := by
  induction history generalizing controller now with
  | nil =>
    obtain ⟨rfl, rfl⟩ := h
    exact ⟨[], rfl, rfl⟩
  | cons request rest ih =>
    obtain ⟨middle, hnext, hrest⟩ := Option.bind_eq_some_iff.1 h
    obtain ⟨log, hlength, hlog⟩ := ih hrest
    rw [List.cons_append, serve, Moment.later_eq]
    simp only [hnext, hlog]
    exact ⟨_ :: log, congrArg (· + 1) hlength, rfl⟩

theorem serve_log_head (model : PageModel σ) (controller : Controller σ) (now : Moment)
    (request : Request) (later : List Request) :
    (serve model controller now (request :: later)).log[0]? =
      some ⟨max now request.moment, request.demand,
        (handle model controller (max now request.moment) later request.demand).answer⟩ := by
  rw [serve, Moment.later_eq]
  generalize handle model controller (max now request.moment) later request.demand = handled
  obtain ⟨after, _ | next, answer⟩ := handled <;> rfl

theorem le_rounds {requests : List Request} :
    ∀ round ∈ rounds now requests, now ≤ round.moment := by
  induction requests generalizing now with
  | nil => exact nofun
  | cons request rest ih =>
    have hrest : ∀ round ∈ rounds (max now request.moment) rest, now ≤ round.moment :=
      fun round hround => (le_max_left now request.moment).trans (ih round hround)
    rw [rounds, Moment.later_eq]
    cases request.demand with
    | act action => exact Round.forall_mem_join (le_max_left _ _) hrest
    | _ => exact hrest

/-- What is done at one moment is one round, also when other things are asked in between: a run sees
the actions of a moment together. -/
theorem rounds_pairwise (now : Moment) (requests : List Request) :
    (rounds now requests).Pairwise fun a b => a.moment < b.moment := by
  induction requests generalizing now with
  | nil => exact .nil
  | cons request rest ih =>
    rw [rounds, Moment.later_eq]
    cases request.demand with
    | act action => exact Round.pairwise_join (ih _) le_rounds
    | _ => exact ih _

theorem le_turns_time {requests : List Request} :
    ∀ turn ∈ turns now requests, now.time ≤ turn.time := by
  intro turn hturn
  obtain ⟨round, hround, rfl⟩ := List.mem_map.1 hturn
  exact Moment.time_mono (le_rounds round hround)

end Controller

/-! ### A start among other requests -/

/-- A start at a controller, the requests made of it before and those that follow. -/
structure StartScene (σ : Type) where
  controller : Controller σ
  now : Moment
  history : List Request
  /-- From when on the start is made. -/
  due : Moment
  page : Nat
  script : Script
  awaited : Bool
  later : List Request

namespace StartScene

variable {model : PageModel σ} {scene : StartScene σ} {state : σ} {moment : Moment}
  {done : Run σ}

def demand (scene : StartScene σ) : Demand := .start scene.page scene.script scene.awaited

def requests (scene : StartScene σ) : List Request := ⟨scene.due, scene.demand⟩ :: scene.later

def service (model : PageModel σ) (scene : StartScene σ) : Service σ :=
  scene.controller.serve model scene.now (scene.history ++ scene.requests)

/-- The controller when the start is made, and from when on it could have been made. -/
def standing (model : PageModel σ) (scene : StartScene σ) : Option (Controller σ × Moment) :=
  scene.controller.standing model scene.now scene.requests scene.history

/-- What is done to the signal of a run that begins at a moment: nothing if its end is awaited. -/
def rounds (scene : StartScene σ) (moment : Moment) : List Round :=
  Controller.rounds moment (if scene.awaited then [] else scene.later)

def upcoming (scene : StartScene σ) (moment : Moment) : List Turn :=
  (scene.rounds moment).map (Round.turn moment.time)

def timeline (scene : StartScene σ) (moment : Moment) : List Turn :=
  (scene.upcoming moment).map (Turn.since moment.time)

/-- The start is accepted at a moment, on a page that is in the given state then, and answered with a
run. -/
structure Accepts (scene : StartScene σ) (model : PageModel σ) (state : σ) (moment : Moment)
    (done : Run σ) : Prop where
  page : (scene.standing model).bind (fun before => before.1.pages[scene.page]?) = some state
  answered : (scene.service model).log[scene.history.length]? =
    some ⟨moment, scene.demand,
      .ran scene.page scene.script moment.time done (done.over? moment (scene.rounds moment))⟩

/-- The start is made step by step, and what is seen of it begins with the call of the start
callback. -/
structure Announces (scene : StartScene σ) (model : PageModel σ) (state : σ) (moment : Moment)
    (done : Run σ) (before : Controller σ) : Prop where
  steps : (before.handle model moment scene.later scene.demand).controller =
    (before.begin model scene.script scene.page state (scene.rounds moment) moment).controller
  seen : (before.begin model scene.script scene.page state (scene.rounds moment) moment).seen =
    .callback scene.script :: done.trace.map .entry
  started : (before.handle model moment scene.later scene.demand).controller.started =
    before.started ++ [scene.script]
  first : done.trace.head? =
    some ⟨moment.time, .event (.runStarted scene.script.commands.length)⟩

/-- The turns of a run come after its start. -/
theorem delay_timeline (scene : StartScene σ) (moment : Moment) :
    (scene.timeline moment).map (Turn.delay moment.time) = scene.upcoming moment := by
  have hle : ∀ turn ∈ scene.upcoming moment, moment.time ≤ turn.time := Controller.le_turns_time
  rw [timeline, List.map_map]
  refine (List.map_congr_left fun turn hturn => ?_).trans (List.map_id _)
  simp [Turn.since, Turn.delay, Nat.sub_add_cancel (hle turn hturn)]

/-- A start is accepted if the history leaves no run in flight and the page is there. -/
theorem accepts_of_free {before : Controller σ} {free : Moment}
    (hbefore : scene.standing model = some (before, free))
    (hfree : before.isRunning (max free scene.due) = false)
    (hpage : before.pages[scene.page]? = some state) :
    ∃ done, scene.Accepts model state (max free scene.due) done := by
  obtain ⟨log, hlength, hlog⟩ := Controller.serve_log_append hbefore
  have hhead : (scene.service model).log[scene.history.length]? =
      (before.serve model free scene.requests).log[0]? := by
    rw [service, hlog, List.getElem?_append_right (Nat.le_of_eq hlength), hlength, Nat.sub_self]
  rw [requests, Controller.serve_log_head, demand, Controller.handle_start hfree hpage] at hhead
  refine ⟨run model before.config scene.script
    { upcoming := scene.upcoming (max free scene.due), attended := true } state _, ?_, hhead⟩
  rw [hbefore]
  exact hpage

namespace Accepts

theorem begins (h : scene.Accepts model state moment done) :
    ∃ before free, scene.standing model = some (before, free) ∧
      before.config = scene.controller.config ∧ before.isRunning moment = false ∧
      before.pages[scene.page]? = some state ∧
      done = run model scene.controller.config scene.script
        { upcoming := scene.upcoming moment, attended := true } state moment.time := by
  obtain ⟨⟨before, free⟩, hbefore, hpage⟩ := Option.bind_eq_some_iff.1 h.page
  obtain ⟨log, hlength, hlog⟩ := Controller.serve_log_append hbefore
  have hanswered := h.answered
  rw [service, hlog, List.getElem?_append_right (Nat.le_of_eq hlength), hlength, Nat.sub_self,
    requests, Controller.serve_log_head] at hanswered
  obtain ⟨hmoment, _, hanswer⟩ := Served.mk.inj (Option.some.inj hanswered)
  dsimp only at hmoment hanswer
  rw [hmoment] at hanswer
  -- Of the controller the run reads the signal, which is reset, and the settings, which stay.
  obtain ⟨hfree, _⟩ := Controller.of_handle_ran hanswer
  have hconfig := Controller.config_standing hbefore
  refine ⟨before, free, hbefore, hconfig, hfree, hpage, ?_⟩
  rw [demand, Controller.handle_start hfree hpage, hconfig] at hanswer
  exact (ControllerAnswer.ran.inj hanswer).2.2.2.1.symm

/-- An accepted run is the run alone, put off. -/
theorem run_eq (h : scene.Accepts model state moment done) :
    done = (run model scene.controller.config scene.script
      { upcoming := scene.timeline moment, attended := true } state 0).delay moment.time := by
  obtain ⟨_, _, _, _, _, _, hdone⟩ := h.begins
  rw [← run_delay, Steering.delay, delay_timeline, Nat.zero_add]
  exact hdone

/-- The start callback is called before anything else is seen of the run. -/
theorem announces (h : scene.Accepts model state moment done) :
    ∃ before free, scene.standing model = some (before, free) ∧
      scene.Announces model state moment done before := by
  obtain ⟨before, free, hbefore, hconfig, hfree, hpage, hdone⟩ := h.begins
  have hsteps : (before.handle model moment scene.later scene.demand).controller =
      (before.begin model scene.script scene.page state (scene.rounds moment) moment).controller := by
    rw [demand, Controller.handle_start hfree hpage]
    rfl
  have hlength : (Command.ofScript scene.controller.config.keys scene.script).length =
      scene.script.commands.length := List.length_map ..
  refine ⟨before, free, hbefore, hsteps, ?_, hsteps ▸ rfl, ?_⟩
  · rw [hdone, ← hconfig]
    rfl
  · rw [hdone, ← hlength]
    rfl

end Accepts

end StartScene

/-! ### Accepted runs -/

/-- Accepted runs do not depend on what the controller was asked before. Two controllers with the
same settings accept the same script, each after some requests and on a page in the same state, and
the turns that follow are the same, counted from the start. Both runs are the run of the script
alone, on a signal that nobody has touched and without variables, put off to the start: they leave
the same report, events and calls. The start callback is called first, once, with the script. -/
theorem accepted_runs_start_afresh {model : PageModel σ} {scene other : StartScene σ} {state : σ}
    {moment moment' : Moment} {done done' : Run σ} (h : scene.Accepts model state moment done)
    (h' : other.Accepts model state moment' done')
    (hconfig : other.controller.config = scene.controller.config)
    (hscript : other.script = scene.script)
    (htimeline : other.timeline moment' = scene.timeline moment) :
    let alone := run model scene.controller.config scene.script
      { signal := .proceed, upcoming := scene.timeline moment, attended := true } state 0
    (done = alone.delay moment.time ∧ done' = alone.delay moment'.time) ∧
    done'.report = done.report ∧
    sinceStart moment'.time done'.trace.events = sinceStart moment.time done.trace.events ∧
    sinceStart moment'.time done'.trace.calls = sinceStart moment.time done.trace.calls ∧
    ∃ before free, scene.standing model = some (before, free) ∧
      scene.Announces model state moment done before := by
  intro alone
  have hdone : done = alone.delay moment.time := h.run_eq
  have hdone' : done' = alone.delay moment'.time := by
    rw [h'.run_eq, hconfig, hscript, htimeline]
  refine ⟨⟨hdone, hdone'⟩, ?_, ?_, ?_, h.announces⟩
  · rw [hdone, hdone']
    rfl
  · rw [hdone, hdone', Run.delay, Run.delay, Trace.sinceStart_events_delay,
      Trace.sinceStart_events_delay]
  · rw [hdone, hdone', Run.delay, Run.delay, Trace.sinceStart_calls_delay,
      Trace.sinceStart_calls_delay]

/-- A start at once, and one after a run that was paused and then stopped, each with a pause. In both
the pause is first ended and begun again in one round, which the run does not see. -/
theorem start_after_stopped_run :
    let config : Config := {}
    let script : Script := ⟨none, none, [⟨"store", some "x", some "name", [], none⟩,
      ⟨"keyPress", none, some "other", [], none⟩]⟩
    let timeline (start : Nat) : List Request :=
      [⟨{ time := start + 100 }, .act .pause⟩, ⟨{ time := start + 2000 }, .act .resume⟩,
        ⟨{ time := start + 2000 }, .act .pause⟩, ⟨{ time := start + 3000 }, .act .resume⟩]
    let scene : StartScene Rehearsal.Page :=
      ⟨{ config, pages := [{}] }, { time := 0 }, [], { time := 0 }, 0, script, false, timeline 0⟩
    let history : List Request := [⟨{ time := 0 }, .start 0 script false⟩,
      ⟨{ time := 10 }, .act .pause⟩, ⟨{ time := 3000 }, .act .cancel⟩, ⟨{ time := 4000 }, .isRunning⟩]
    let other : StartScene Rehearsal.Page :=
      ⟨{ config, pages := [{}] }, { time := 0 }, history, { time := 5000 }, 0, script, false,
        timeline 5000⟩
    ∃ done done', scene.Accepts Rehearsal.respond {} { time := 0 } done ∧
      other.Accepts Rehearsal.respond {} { time := 5000 } done' ∧ done'.report = done.report := by
  intro config script timeline scene history other
  have haccepts (scene : StartScene Rehearsal.Page)
      (hleft : (scene.standing Rehearsal.respond).map (fun before =>
        (before.1.isRunning (max before.2 scene.due), max before.2 scene.due,
          before.1.pages[scene.page]?)) = some (false, scene.due, some {})) :
      ∃ done, scene.Accepts Rehearsal.respond {} scene.due done := by
    obtain ⟨⟨before, free⟩, hbefore, hrest⟩ := Option.map_eq_some_iff.1 hleft
    simp only [Prod.mk.injEq] at hrest
    obtain ⟨hfree, hdue, hpage⟩ := hrest
    rw [← hdue]
    exact StartScene.accepts_of_free hbefore hfree hpage
  obtain ⟨done, h⟩ := haccepts scene (by decide +kernel)
  obtain ⟨done', h'⟩ := haccepts other (by decide +kernel)
  exact ⟨done, done', h, h', (accepted_runs_start_afresh h h' rfl rfl (by decide +kernel)).2.1⟩

end BrowserReplay
