import BrowserReplay.Proofs.Composed
import BrowserReplay.Proofs.Dispatched
import BrowserReplay.Proofs.Outlook
import BrowserReplay.Proofs.Steered

/-!
# Boundaries between commands

A run heeds its signal at the boundaries between two commands. `Boundary.Reaches` says which
boundaries a run comes to; from each of them on it is the run that begins there
(`Boundary.Reaches.run_eq`). There is a last one (`Boundary.exists_last`), and how the run ends is
decided there (`Boundary.Stops`). A command is announced only where a look at one of them lets it
start (`Boundary.exists_look`).
-/

namespace BrowserReplay

def Trace.announcements (trace : Trace) : List (Nat × RunEvent) :=
  trace.events.filter (·.2.kind = .commandStarted)

@[simp] theorem Trace.announcements_append (a b : Trace) :
    Trace.announcements (a ++ b) = Trace.announcements a ++ Trace.announcements b := by
  rw [announcements, events_append, List.filter_append]
  rfl

def Trace.starts (trace : Trace) : List Nat :=
  (trace.events.filter (·.2.kind = .commandStarted)).map Prod.fst

@[simp] theorem Trace.starts_append (a b : Trace) :
    Trace.starts (a ++ b) = Trace.starts a ++ Trace.starts b := by
  simp [starts]

theorem Trace.announcements_eq_nil {trace : Trace}
    (h : EventWord.number .commandStarted trace.told = 0) : trace.announcements = [] := by
  have hnone := EventWord.announced_eq_nil h
  rwa [EventWord.announced, told, List.filter_map, List.map_eq_nil_iff] at hnone

theorem Trace.starts_eq_nil {trace : Trace}
    (h : EventWord.number .commandStarted trace.told = 0) : trace.starts = [] :=
  List.map_eq_nil_iff.2 (announcements_eq_nil h)

/-! ### Starts -/

section Perform

variable (model : PageModel σ) (config : Config) (vars : Variables) (index : Nat)
  (command : Command) (page : σ) (time : Nat)

/-- A command is announced as it starts, and once. -/
theorem announcements_perform :
    (perform model config vars index command page time).trace.announcements =
      [(time, Perform.started config vars index command)] := by
  have hbody := (Perform.act_finished model config vars index command page time).told
  have hnone := Trace.announcements_eq_nil
    (EventWord.number_eq_zero_of_isAside (fun _ => hbody.isAside) rfl)
  have htrace : (perform model config vars index command page time).trace =
      [⟨time, .event (Perform.started config vars index command)⟩] ++
        (Perform.act model config vars index command page time).trace := rfl
  rw [htrace, Trace.announcements_append, hnone]
  cases command <;> rfl

theorem starts_perform : (perform model config vars index command page time).trace.starts =
    [time] :=
  congrArg (List.map Prod.fst) (announcements_perform model config vars index command page time)

theorem le_perform_time : time ≤ (perform model config vars index command page time).time :=
  ((perform_composed model config vars index command).spans page time).le

end Perform

theorem Look.starts_eq_nil {index now later : Nat} {clearance : Clearance} {looked : Trace}
    (h : Look index now clearance later looked) : looked.starts = [] :=
  Trace.starts_eq_nil h.number_started

theorem Look.le {index now later : Nat} {clearance : Clearance} {looked : Trace}
    (h : Look index now clearance later looked) : now ≤ later :=
  h.spans.le

namespace Run

theorem starts_conclusion (index : Nat) (command : Command) (outcome : Outcome) (time : Nat) :
    Trace.starts [⟨time, conclusion index command outcome⟩] = [] := by
  cases outcome <;> rfl

/-- Time goes on in a run. -/
theorem le_drain_time (model : PageModel σ) (config : Config) (queue : List Command)
    (progress : Progress) (steering : Steering) (page : σ) (time : Nat) :
    time ≤ (drain model config queue progress steering page time).time :=
  (drain_spans model config queue progress steering page time).le

end Run

/-! ### Boundaries -/

/-- Where a run stands between two commands. -/
structure Boundary (σ : Type) where
  queue : List Command
  progress : Progress
  steering : Steering
  page : σ
  time : Nat

namespace Boundary

variable (model : PageModel σ) (config : Config)

def run (boundary : Boundary σ) : Run σ :=
  Run.drain model config boundary.queue boundary.progress boundary.steering boundary.page
    boundary.time

def first (script : Script) (steering : Steering) (page : σ) (time : Nat) : Boundary σ :=
  ⟨Command.ofScript config.keys script, {}, steering, page, time⟩

/-- A run is paused at the boundary, with commands left, and no turn ends the pause. -/
def StaysPaused (boundary : Boundary σ) : Prop :=
  boundary.queue ≠ [] ∧ (boundary.steering.catchUp boundary.time).signal.StaysPaused
    (boundary.steering.catchUp boundary.time).upcoming

/-- The boundaries that a run comes to, and what happens on the way: each command is let start by a
look and does not end the run. -/
inductive Reaches : Boundary σ → Trace → Boundary σ → Prop
  | here (boundary : Boundary σ) : Reaches boundary [] boundary
  | next {command : Command} {rest : List Command} {progress : Progress}
      {steering after : Steering} {page : σ} {time later : Nat} {looked trace : Trace}
      {visit : Visited σ (Outcome × Variables)} {last : Boundary σ}
      (hlook : Run.checkpoint steering progress.index time = (.proceed, later, after, looked))
      (hvisit : perform model config progress.vars progress.index command page later = visit)
      (hgoes : Run.departure? config visit.result.1 = none)
      (h : Reaches ⟨rest, Run.advance progress visit, after, visit.page,
        visit.time + config.timing.commandDelay⟩ trace last) :
      Reaches ⟨command :: rest, progress, steering, page, time⟩
        (looked ++ visit.trace ++
          [⟨visit.time, Run.conclusion progress.index command visit.result.1⟩] ++ trace) last

variable {model config}

/-- From a boundary that it comes to, a run is the run that begins there. -/
theorem Reaches.run_eq {boundary last : Boundary σ} {trace : Trace}
    (h : Reaches model config boundary trace last) :
    boundary.run model config = (last.run model config).after trace := by
  induction h with
  | here boundary => rfl
  | next hlook hvisit hgoes h ih =>
    subst hvisit
    rw [run, Run.drain, hlook]
    dsimp only
    rw [hgoes]
    exact (congrArg (Run.after _) ih).trans (by simp [Run.after])

theorem Reaches.le {boundary last : Boundary σ} {trace : Trace}
    (h : Reaches model config boundary trace last) : boundary.time ≤ last.time := by
  induction h with
  | here boundary => exact Nat.le_refl boundary.time
  | @next command _ progress steering _ page time later _ _ _ _ hlook hvisit _ _ ih =>
    have hlater := (Run.look_of_checkpoint hlook).le
    have hlasts := le_perform_time model config progress.vars progress.index command page later
    rw [hvisit] at hlasts
    dsimp only at ih ⊢
    omega

/-- The signal at a boundary is what the turns on the way have left. -/
theorem Reaches.passes {boundary last : Boundary σ} {trace : Trace}
    (h : Reaches model config boundary trace last) :
    ∃ past, boundary.steering.Passes past last.steering ∧ ∀ turn ∈ past, turn.time ≤ last.time := by
  induction h with
  | here boundary => exact ⟨[], ⟨rfl, rfl, rfl⟩, nofun⟩
  | @next command _ progress steering _ page time later _ _ _ _ hlook hvisit _ hreaches ih =>
    obtain ⟨past, hpasses, hpast⟩ := (Run.checkpoint_heeds steering progress.index time).passes
    obtain ⟨more, hmore, hlate⟩ := ih
    have hlasts := le_perform_time model config progress.vars progress.index command page later
    have hle := hreaches.le
    rw [hlook] at hpasses hpast
    rw [hvisit] at hlasts
    refine ⟨past ++ more, hpasses.trans hmore, fun turn hturn => ?_⟩
    rcases List.mem_append.1 hturn with hfirst | hlater
    · have hturned := hpast turn hfirst
      dsimp only at hturned hle
      omega
    · exact hlate turn hlater

/-- How a run goes that comes to no other boundary. -/
inductive Stops (model : PageModel σ) (config : Config) : Boundary σ → Run σ → Prop
  | completed (progress : Progress) (steering : Steering) (page : σ) (time : Nat) :
      Stops model config ⟨[], progress, steering, page, time⟩
        (Run.finish .completed progress 0 steering page time)
  | stuck {command : Command} {rest : List Command} {progress : Progress}
      {steering after : Steering} {page : σ} {time later : Nat} {looked : Trace}
      (hlook : Run.checkpoint steering progress.index time = (.never, later, after, looked)) :
      Stops model config ⟨command :: rest, progress, steering, page, time⟩
        ⟨page, later, looked, none, after⟩
  | cancelled {command : Command} {rest : List Command} {progress : Progress}
      {steering after : Steering} {page : σ} {time later : Nat} {looked : Trace}
      (hlook : Run.checkpoint steering progress.index time = (.cancel, later, after, looked)) :
      Stops model config ⟨command :: rest, progress, steering, page, time⟩
        ((Run.finish .cancelled progress (rest.length + 1) after page later).after looked)
  | left {command : Command} {rest : List Command} {progress : Progress}
      {steering after : Steering} {page : σ} {time later : Nat} {looked : Trace}
      {visit : Visited σ (Outcome × Variables)} {url : String}
      (hlook : Run.checkpoint steering progress.index time = (.proceed, later, after, looked))
      (hvisit : perform model config progress.vars progress.index command page later = visit)
      (hleaves : Run.departure? config visit.result.1 = some url) :
      Stops model config ⟨command :: rest, progress, steering, page, time⟩
        ((Run.finish (.navigating url) (Run.advance progress visit) rest.length after visit.page
            visit.time).after
          (looked ++ visit.trace ++ [⟨visit.time, .event (.navigating url rest.length)⟩]))

/-- Every run comes to a last boundary. -/
theorem exists_last (model : PageModel σ) (config : Config) (boundary : Boundary σ) :
    ∃ trace last, Reaches model config boundary trace last ∧
      Stops model config last (last.run model config) := by
  obtain ⟨queue, progress, steering, page, time⟩ := boundary
  induction queue generalizing progress steering page time with
  | nil => exact ⟨[], _, .here _, .completed progress steering page time⟩
  | cons command rest ih =>
    rcases hlook : Run.checkpoint steering progress.index time with
      ⟨clearance, later, after, looked⟩
    cases clearance with
    | never =>
      refine ⟨[], _, .here _, ?_⟩
      simp only [run, Run.drain, hlook]
      exact .stuck hlook
    | cancel =>
      refine ⟨[], _, .here _, ?_⟩
      simp only [run, Run.drain, hlook]
      exact .cancelled hlook
    | proceed =>
      obtain ⟨visit, hvisit⟩ : ∃ visit,
        perform model config progress.vars progress.index command page later = visit := ⟨_, rfl⟩
      cases hdeparture : Run.departure? config visit.result.1 with
      | some url =>
        refine ⟨[], _, .here _, ?_⟩
        simp only [run, Run.drain, hlook, hvisit, hdeparture]
        exact .left hlook hvisit hdeparture
      | none =>
        obtain ⟨trace, last, hreaches, hstops⟩ := ih (Run.advance progress visit) after visit.page
          (visit.time + config.timing.commandDelay)
        exact ⟨_, last, .next hlook hvisit hdeparture hreaches, hstops⟩

/-- A run does what happens until its last boundary and then stops. -/
theorem exists_stop (model : PageModel σ) (config : Config) (boundary : Boundary σ) :
    ∃ trace last past stopped, Reaches model config boundary trace last ∧
      boundary.steering.Passes past last.steering ∧
      boundary.run model config = stopped.after trace ∧ Stops model config last stopped := by
  obtain ⟨trace, last, hreaches, hstops⟩ := exists_last model config boundary
  obtain ⟨past, hpasses, -⟩ := hreaches.passes
  exact ⟨trace, last, past, _, hreaches, hpasses, hreaches.run_eq, hstops⟩

/-- A run announces a command where a look at some boundary lets it start. -/
theorem exists_look (model : PageModel σ) (config : Config) (boundary : Boundary σ) :
    ∀ start ∈ (boundary.run model config).trace.starts, ∃ trace last after looked,
      Reaches model config boundary trace last ∧ last.queue ≠ [] ∧
      Run.checkpoint last.steering last.progress.index last.time =
        (.proceed, start, after, looked) := by
  obtain ⟨queue, progress, steering, page, time⟩ := boundary
  induction queue generalizing progress steering page time with
  | nil => exact nofun
  | cons command rest ih =>
    rcases hcheckpoint : Run.checkpoint steering progress.index time with
      ⟨clearance, later, after, looked⟩
    have hlooked := (Run.look_of_checkpoint hcheckpoint).starts_eq_nil
    intro start hstart
    simp only [run, Run.drain, hcheckpoint] at hstart
    cases clearance with
    | never =>
      rw [hlooked] at hstart
      cases hstart
    | cancel =>
      rw [Run.trace_after, Trace.starts_append, hlooked] at hstart
      cases hstart
    | proceed =>
      obtain ⟨visit, hvisit⟩ : ∃ visit,
        perform model config progress.vars progress.index command page later = visit := ⟨_, rfl⟩
      have hvisited := starts_perform model config progress.vars progress.index command page later
      rw [hvisit] at hvisited
      simp only [hvisit] at hstart
      cases hdeparture : Run.departure? config visit.result.1 with
      | some url =>
        simp only [hdeparture] at hstart
        rw [Run.trace_after, Trace.starts_append, Trace.starts_append, Trace.starts_append, hlooked,
          hvisited] at hstart
        obtain rfl := List.mem_singleton.1 hstart
        exact ⟨[], _, after, looked, .here _, List.cons_ne_nil command rest, hcheckpoint⟩
      | none =>
        simp only [hdeparture] at hstart
        rw [Run.trace_after, Trace.starts_append, Trace.starts_append, Trace.starts_append, hlooked,
          hvisited, Run.starts_conclusion, List.nil_append, List.append_nil, List.singleton_append,
          List.mem_cons] at hstart
        rcases hstart with rfl | hstart
        · exact ⟨[], _, after, looked, .here _, List.cons_ne_nil command rest, hcheckpoint⟩
        -- A later command is let start from the next boundary on.
        · obtain ⟨trace, last, end', looked', hreaches, hlast⟩ := ih _ _ _ _ start hstart
          exact ⟨_, last, end', looked', .next hcheckpoint hvisit hdeparture hreaches, hlast⟩

/-- From any boundary on, commands start only while the signal says to proceed. -/
theorem stands_of_mem_starts (model : PageModel σ) (config : Config) {boundary : Boundary σ}
    (hordered : boundary.steering.Ordered) {start : Nat}
    (hstart : start ∈ (boundary.run model config).trace.starts) :
    boundary.steering.Stands start .proceed := by
  obtain ⟨trace, last, after, looked, hreaches, -, hlook⟩ :=
    exists_look model config boundary start hstart
  obtain ⟨past, hpasses, hpast⟩ := hreaches.passes
  have hheeds := Run.checkpoint_heeds last.steering last.progress.index last.time
  rw [hlook] at hheeds
  refine hpasses.stands (fun turn hturn => ?_) (hheeds.stands (hpasses.ordered hordered))
  exact Nat.le_trans (hpast turn hturn) (Run.look_of_checkpoint hlook).le

end Boundary

end BrowserReplay
