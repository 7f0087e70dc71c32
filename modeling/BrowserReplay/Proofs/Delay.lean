import BrowserReplay.Controller
import BrowserReplay.Proofs.Alike

/-!
# Runs that begin later

A run reads the clock to wait and to compare it with the turns of its steering, and in no other way.
Put off together with these turns, it does the same later (`run_delay`).
-/

namespace BrowserReplay

variable {duration : Nat}

/-! ### Turns and signals -/

def Turn.delay (duration : Nat) (turn : Turn) : Turn := { turn with time := turn.time + duration }

@[simp] theorem Turn.isBefore_delay (turn : Turn) (now : Nat) :
    (turn.delay duration).isBefore (now + duration) = turn.isBefore now := by
  rw [Bool.eq_iff_iff]
  simp [isBefore, delay]

def Steering.delay (duration : Nat) (steering : Steering) : Steering :=
  { steering with upcoming := steering.upcoming.map (Turn.delay duration) }

namespace Outlook

def PauseEnd.delay (duration : Nat) (ended : PauseEnd) : PauseEnd :=
  { ended with
    time := ended.time + duration, upcoming := ended.upcoming.map (Turn.delay duration) }

theorem catchUp_delay (now : Nat) (signal : Signal) (turns : List Turn) :
    catchUp (now + duration) signal (turns.map (Turn.delay duration)) =
      ((catchUp now signal turns).1, (catchUp now signal turns).2.map (Turn.delay duration)) := by
  induction turns generalizing signal with
  | nil => rfl
  | cons turn rest ih =>
    rw [List.map_cons, catchUp, catchUp, Turn.isBefore_delay]
    split
    · exact ih _
    · rfl

theorem awaitEnd_delay (attended : Bool) (now : Nat) (signal : Signal) (turns : List Turn) :
    awaitEnd attended (now + duration) signal (turns.map (Turn.delay duration)) =
      (awaitEnd attended now signal turns).delay duration := by
  induction turns generalizing now signal with
  | nil => cases signal <;> rfl
  | cons turn rest ih =>
    cases signal with
    | proceed => rfl
    | cancel => rfl
    | pause =>
      have hmax : max (now + duration) (turn.time + duration) = max now turn.time + duration := by
        omega
      have hrest := ih (max now turn.time) (Signal.pause.afterAll turn.actions)
      rw [← hmax] at hrest
      exact hrest

end Outlook

theorem Steering.catchUp_delay (steering : Steering) (now : Nat) :
    (steering.delay duration).catchUp (now + duration) = (steering.catchUp now).delay duration := by
  simp only [catchUp, delay, Outlook.catchUp_delay]

/-! ### The loop -/

namespace Run

def delay (duration : Nat) (run : Run σ) : Run σ :=
  { run with
    time := run.time + duration, trace := run.trace.delay duration,
    steering := run.steering.delay duration }

theorem delay_after (earlier : Trace) (run : Run σ) :
    (run.after earlier).delay duration = (run.delay duration).after (earlier.delay duration) := by
  simp only [after, delay, Trace.delay_append]

theorem delay_finish (state : RunState) (progress : Progress) (remaining : Nat)
    (steering : Steering) (page : σ) (time : Nat) :
    (finish state progress remaining steering page time).delay duration =
      finish state progress remaining (steering.delay duration) page (time + duration) := rfl

theorem checkpoint_delay (steering : Steering) (index now : Nat) :
    checkpoint (steering.delay duration) index (now + duration) =
      let (clearance, later, after, looked) := checkpoint steering index now
      (clearance, later + duration, after.delay duration, looked.delay duration) := by
  have hended (attended : Bool) (upcoming : List Turn) :
      Outlook.awaitEnd attended (now + duration) .pause (upcoming.map (Turn.delay duration)) =
        (Outlook.awaitEnd attended now .pause upcoming).delay duration :=
    Outlook.awaitEnd_delay attended now .pause upcoming
  unfold checkpoint
  simp only [Steering.catchUp_delay]
  obtain ⟨signal, upcoming, attended⟩ := steering.catchUp now
  cases signal with
  | proceed => rfl
  | cancel => rfl
  | pause =>
    simp only [Steering.delay, hended]
    generalize Outlook.awaitEnd attended now .pause upcoming = ended
    obtain ⟨clearance, later, signal, left⟩ := ended
    cases clearance <;> rfl

theorem drain_delay (model : PageModel σ) (config : Config) (queue : List Command)
    (progress : Progress) (steering : Steering) (page : σ) (time : Nat) :
    drain model config queue progress (steering.delay duration) page (time + duration) =
      (drain model config queue progress steering page time).delay duration := by
  induction queue generalizing progress steering page time with
  | nil => rfl
  | cons command rest ih =>
    rw [drain, drain, checkpoint_delay]
    obtain ⟨clearance, later, steering, looked⟩ := checkpoint steering progress.index time
    -- Past its boundary a command sees the time only through the page visit, which is put off too.
    cases clearance with
    | never => rfl
    | cancel => simp only [delay_after, delay_finish]
    | proceed =>
      simp only [perform_delay]
      generalize perform model config progress.vars progress.index command page later = visit
      obtain ⟨page, ended, told, outcome, vars⟩ := visit
      simp only [Visited.delay]
      cases departure? config outcome with
      | some url =>
        simp only [delay_after, delay_finish, Trace.delay_append]
        rfl
      | none =>
        simp only [Nat.add_right_comm ended duration, ih, delay_after, Trace.delay_append]
        rfl

end Run

/-- A run that begins later, with its turns as much later, does the same later. -/
theorem run_delay (model : PageModel σ) (config : Config) (script : Script) (steering : Steering)
    (page : σ) (time : Nat) :
    run model config script (steering.delay duration) page (time + duration) =
      (run model config script steering page time).delay duration := by
  simp only [run, Run.drain_delay, Run.delay_after]
  rfl

end BrowserReplay
