import BrowserReplay.Proofs.TableRun

/-!
# The commands that a run dispatches

A run dispatches the first commands of its queue, each with the variables that the earlier ones have
left. These are the commands that it announces (`Run.drain_announced`).
-/

namespace BrowserReplay

/-- A command that is dispatched, and the variables known then. -/
structure Dispatch where
  command : Command
  vars : Variables

def EventWord.announced (events : List RunEvent) : List RunEvent :=
  events.filter (·.kind = .commandStarted)

theorem EventWord.announced_append (a b : List RunEvent) :
    announced (a ++ b) = announced a ++ announced b :=
  List.filter_append a b

theorem EventWord.announced_eq_nil {events : List RunEvent}
    (h : number .commandStarted events = 0) : announced events = [] := by
  refine List.filter_eq_nil_iff.2 fun event hmem hkind => ?_
  refine List.count_eq_zero.1 h (List.mem_map.2 ⟨event, hmem, ?_⟩)
  exact of_decide_eq_true hkind

namespace Run

def dispatches (model : PageModel σ) (config : Config) :
    List Command → Progress → Steering → (page : σ) → (time : Nat) → List Dispatch
  | [], _, _, _, _ => []
  | command :: rest, progress, steering, page, time =>
    let (clearance, time, steering, _) := checkpoint steering progress.index time
    match clearance with
    | .never | .cancel => []
    | .proceed =>
      let visit := perform model config progress.vars progress.index command page time
      ⟨command, progress.vars⟩ ::
        match departure? config visit.result.1 with
        | some _ => []
        | none =>
          dispatches model config rest (advance progress visit) steering visit.page
            (visit.time + config.timing.commandDelay)

/-- The events that announce commands, the first of which has the given number. -/
def announcements (config : Config) (index : Nat) : List Dispatch → List RunEvent
  | [] => []
  | dispatch :: rest =>
    Perform.started config dispatch.vars index dispatch.command ::
      announcements config (index + 1) rest

theorem announced_perform (model : PageModel σ) (config : Config) (vars : Variables) (index : Nat)
    (command : Command) (page : σ) (time : Nat) :
    EventWord.announced (perform model config vars index command page time).trace.told =
      [Perform.started config vars index command] := by
  have hbody := (Perform.act_finished model config vars index command page time).told
  have hstarted : (Perform.started config vars index command).kind = .commandStarted := by
    unfold Perform.started
    cases command <;> rfl
  have hrest : EventWord.announced
      (Perform.act model config vars index command page time).trace.told = [] :=
    EventWord.announced_eq_nil (EventWord.number_eq_zero_of_isAside (fun _ => hbody.isAside) rfl)
  have htold : (perform model config vars index command page time).trace.told =
      [Perform.started config vars index command] ++
        (Perform.act model config vars index command page time).trace.told := rfl
  rw [htold, EventWord.announced_append, hrest, List.append_nil]
  exact List.filter_eq_self.2 (by simpa using hstarted)

/-- The commands that are dispatched are those that a run announces. -/
theorem drain_announced (model : PageModel σ) (config : Config) (queue : List Command)
    (progress : Progress) (steering : Steering) (page : σ) (time : Nat) :
    EventWord.announced (drain model config queue progress steering page time).trace.told =
      announcements config progress.index
        (dispatches model config queue progress steering page time) := by
  induction queue generalizing progress steering page time with
  | nil => rfl
  | cons command rest ih =>
    have hlook := look_checkpoint steering progress.index time
    rw [drain, dispatches]
    revert hlook
    obtain ⟨clearance, later, steering, looked⟩ := checkpoint steering progress.index time
    intro hlook
    have hlooked := EventWord.announced_eq_nil hlook.number_started
    cases clearance with
    | never => exact hlooked
    | cancel =>
      dsimp only
      rw [trace_after, Trace.told_append, EventWord.announced_append, hlooked]
      rfl
    | proceed =>
      have hvisit := announced_perform model config progress.vars progress.index command page later
      dsimp only at hlooked hvisit ⊢
      revert hvisit
      generalize perform model config progress.vars progress.index command page later = visit
      intro hvisit
      cases hdeparture : departure? config visit.result.1 with
      | some url =>
        dsimp only
        rw [trace_after, Trace.told_append, Trace.told_append, Trace.told_append,
          EventWord.announced_append, EventWord.announced_append, EventWord.announced_append,
          hlooked, hvisit]
        rfl
      | none =>
        have hending := EventWord.announced_eq_nil
          (number_started_ending progress.index command visit.result.1)
        have hrest := ih (advance progress visit) steering visit.page
          (visit.time + config.timing.commandDelay)
        dsimp only
        rw [trace_after, List.append_assoc _ [_], Trace.told_append, Trace.told_append,
          List.singleton_append, told_conclusion, EventWord.announced_append,
          EventWord.announced_append, EventWord.announced_append, hlooked, hvisit, hending]
        exact congrArg (_ :: ·) hrest

end Run

end BrowserReplay
