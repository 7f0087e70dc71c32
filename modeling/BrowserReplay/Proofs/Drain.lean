import BrowserReplay.Proofs.Visit
import BrowserReplay.Run

/-!
# The loop of a run

Before each command a run looks at its signal, which can go five ways (`Look`), and then it ends or
performs the command. `Run.drain_induction` is the induction over that loop: a property of runs
holds of every run if it holds of the four ways in which a run stops and is kept by a command after
which the run goes on.
-/

namespace BrowserReplay

/-! ### Looking at the signal -/

/-- The ways in which a look at the signal before a command can go: what is decided, when, and what
is told. -/
inductive Look (index now : Nat) : Clearance → Nat → Trace → Prop
  /-- Nothing stands in the way. -/
  | clear : Look index now .proceed now []
  | cancelled : Look index now .cancel now []
  /-- The run paused until it was resumed. -/
  | resumed (later : Nat) (h : now ≤ later) :
      Look index now .proceed later
        [⟨now, .event (.paused index)⟩, ⟨later, .event (.resumed index)⟩]
  /-- The run paused until it was cancelled. -/
  | cancelledPaused (later : Nat) (h : now ≤ later) :
      Look index now .cancel later [⟨now, .event (.paused index)⟩]
  /-- The run stays paused. -/
  | stuck (later : Nat) (h : now ≤ later) :
      Look index now .never later [⟨now, .event (.paused index)⟩]

theorem Outlook.le_awaitEnd_time (attended : Bool) (now : Nat) (signal : Signal)
    (turns : List Turn) : now ≤ (awaitEnd attended now signal turns).time := by
  induction turns generalizing now signal with
  | nil => cases signal <;> exact Nat.le_refl now
  | cons turn rest ih =>
    cases signal with
    | proceed => exact Nat.le_refl now
    | cancel => exact Nat.le_refl now
    | pause => exact Nat.le_trans (Nat.le_max_left now turn.time) (ih _ _)

theorem Run.look_checkpoint (steering : Steering) (index now : Nat) :
    Look index now (checkpoint steering index now).1 (checkpoint steering index now).2.1
      (checkpoint steering index now).2.2.2 := by
  unfold checkpoint
  simp only
  cases (steering.catchUp now).signal with
  | proceed => exact .clear
  | cancel => exact .cancelled
  | pause =>
    have hlater := Outlook.le_awaitEnd_time (steering.catchUp now).attended now .pause
      (steering.catchUp now).upcoming
    simp only
    cases (Outlook.awaitEnd (steering.catchUp now).attended now .pause
      (steering.catchUp now).upcoming).clearance with
    | proceed => exact .resumed _ hlater
    | cancel => exact .cancelledPaused _ hlater
    | never => exact .stuck _ hlater

theorem Run.look_of_checkpoint {steering after : Steering} {index now later : Nat}
    {clearance : Clearance} {looked : Trace}
    (h : checkpoint steering index now = (clearance, later, after, looked)) :
    Look index now clearance later looked := by
  have hlook := look_checkpoint steering index now
  rwa [h] at hlook

theorem Look.records_eq_nil {index now later : Nat} {clearance : Clearance} {looked : Trace}
    (h : Look index now clearance later looked) : looked.records = [] := by
  cases h <;> rfl

/-! ### The loop -/

namespace Run

@[simp] theorem trace_after (earlier : Trace) (run : Run σ) :
    (run.after earlier).trace = earlier ++ run.trace := rfl

@[simp] theorem report_after (earlier : Trace) (run : Run σ) :
    (run.after earlier).report = run.report := rfl

@[simp] theorem time_after (earlier : Trace) (run : Run σ) :
    (run.after earlier).time = run.time := rfl

/-- What is known between two commands after one more has been performed. -/
def advance (progress : Progress) (visit : Visited σ (Outcome × Variables)) : Progress :=
  ⟨visit.result.2, progress.index + 1, count progress.tally visit.result.1⟩

/-- Induction over the commands of a run. The queue, the progress, the page and the time are those
at the boundary before the run that is spoken of. -/
theorem drain_induction (model : PageModel σ) (config : Config)
    {motive : List Command → Progress → σ → Nat → Run σ → Prop}
    (completed : ∀ progress steering page time,
      motive [] progress page time (finish .completed progress 0 steering page time))
    (stuck : ∀ command rest progress steering page time later looked,
      Look progress.index time .never later looked →
      motive (command :: rest) progress page time ⟨page, later, looked, none, steering⟩)
    (cancelled : ∀ command rest progress steering page time later looked,
      Look progress.index time .cancel later looked →
      motive (command :: rest) progress page time
        ((finish .cancelled progress (rest.length + 1) steering page later).after looked))
    (left : ∀ command rest progress steering page time later looked visit url,
      Look progress.index time .proceed later looked →
      visit = perform model config progress.vars progress.index command page later →
      departure? config visit.result.1 = some url →
      motive (command :: rest) progress page time
        ((finish (.navigating url) (advance progress visit) rest.length steering visit.page
            visit.time).after
          (looked ++ visit.trace ++ [⟨visit.time, .event (.navigating url rest.length)⟩])))
    (next : ∀ command rest progress page time later looked visit run,
      Look progress.index time .proceed later looked →
      visit = perform model config progress.vars progress.index command page later →
      departure? config visit.result.1 = none →
      motive rest (advance progress visit) visit.page
        (visit.time + config.timing.commandDelay) run →
      motive (command :: rest) progress page time
        (run.after (looked ++ visit.trace ++
          [⟨visit.time, conclusion progress.index command visit.result.1⟩])))
    (queue : List Command) (progress : Progress) (steering : Steering) (page : σ) (time : Nat) :
    motive queue progress page time (drain model config queue progress steering page time) := by
  induction queue generalizing progress steering page time with
  | nil => exact completed progress steering page time
  | cons command rest ih =>
    have hlook := look_checkpoint steering progress.index time
    rw [drain]
    revert hlook
    obtain ⟨clearance, later, steering, looked⟩ := checkpoint steering progress.index time
    intro hlook
    cases clearance with
    | never => exact stuck command rest progress steering page time later looked hlook
    | cancel => exact cancelled command rest progress steering page time later looked hlook
    | proceed =>
      obtain ⟨visit, hvisit⟩ : ∃ visit, visit =
        perform model config progress.vars progress.index command page later := ⟨_, rfl⟩
      simp only [← hvisit]
      cases hdeparture : departure? config visit.result.1 with
      | some url =>
        exact left command rest progress steering page time later looked visit url hlook hvisit
          hdeparture
      | none =>
        exact next command rest progress page time later looked visit _ hlook hvisit hdeparture
          (ih (advance progress visit) steering visit.page
            (visit.time + config.timing.commandDelay))

end Run

end BrowserReplay
