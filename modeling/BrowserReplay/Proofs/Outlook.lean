import BrowserReplay.Proofs.Drain

/-!
# What a look at the signal heeds

Turns pass in their order, and a signal is what the turns so far have left of it
(`Signal.afterTurns`). `Run.checkpoint_heeds` says which turns have passed at the end of a look and
what the decision has to do with the signal then. Two outlooks settle what later looks decide: one in
which a cancel comes that is never taken back (`Signal.Doomed`), and one in which no turn ends a pause
(`Signal.StaysPaused`).
-/

namespace BrowserReplay

/-! ### Turns that pass -/

namespace Signal

def afterTurns (signal : Signal) (turns : List Turn) : Signal :=
  signal.afterAll (turns.flatMap Turn.actions)

theorem afterAll_append (signal : Signal) (a b : List SignalAction) :
    signal.afterAll (a ++ b) = (signal.afterAll a).afterAll b :=
  List.foldl_append

@[simp] theorem afterTurns_cons (signal : Signal) (turn : Turn) (turns : List Turn) :
    signal.afterTurns (turn :: turns) = (signal.afterAll turn.actions).afterTurns turns := by
  rw [afterTurns, List.flatMap_cons, afterAll_append]
  rfl

@[simp] theorem afterTurns_append (signal : Signal) (a b : List Turn) :
    signal.afterTurns (a ++ b) = (signal.afterTurns a).afterTurns b := by
  rw [afterTurns, List.flatMap_append, afterAll_append]
  rfl

/-- A cancelled signal stays so until it is reset. -/
theorem afterAll_cancel {actions : List SignalAction} (h : .reset ∉ actions) :
    Signal.cancel.afterAll actions = .cancel := by
  induction actions with
  | nil => rfl
  | cons action rest ih =>
    rw [List.mem_cons, not_or] at h
    have hfirst : Signal.cancel.after action = .cancel := by
      cases action <;> first | rfl | exact absurd rfl h.1
    rw [afterAll, List.foldl_cons, hfirst]
    exact ih h.2

end Signal

namespace Steering

/-- The turns to come are in the order of their times. -/
def Ordered (steering : Steering) : Prop := steering.upcoming.Pairwise (·.time ≤ ·.time)

/-- Timelines are put in order. -/
theorem ordered_ofTimeline (actions : List (Nat × SignalAction)) : (ofTimeline actions).Ordered := by
  have hturns (now : Nat) : (turnsOf now actions).Pairwise (·.time ≤ ·.time) ∧
      ∀ turn ∈ turnsOf now actions, now ≤ turn.time := by
    induction actions generalizing now with
    | nil => exact ⟨.nil, nofun⟩
    | cons first rest ih =>
      obtain ⟨time, action⟩ := first
      obtain ⟨hrest, hlater⟩ := ih (max now time)
      rw [turnsOf]
      cases hturns : turnsOf (max now time) rest with
      | nil =>
        exact ⟨List.pairwise_singleton _ _,
          List.forall_mem_singleton.2 (Nat.le_max_left now time)⟩
      | cons turn turns =>
        rw [hturns] at hrest hlater
        have hnow : ∀ other ∈ turn :: turns, now ≤ other.time := fun other hother =>
          Nat.le_trans (Nat.le_max_left now time) (hlater other hother)
        dsimp only
        split
        -- The action joins the first turn of the others, whose time stays as it is.
        · exact ⟨List.pairwise_cons.2 (List.pairwise_cons.1 hrest),
            List.forall_mem_cons.2 (List.forall_mem_cons.1 hnow)⟩
        · exact ⟨List.pairwise_cons.2 ⟨hlater, hrest⟩,
            List.forall_mem_cons.2 ⟨Nat.le_max_left now time, hnow⟩⟩
  exact (hturns 0).1

structure Passes (before : Steering) (past : List Turn) (after : Steering) : Prop where
  upcoming : before.upcoming = past ++ after.upcoming
  signal : after.signal = before.signal.afterTurns past
  attended : after.attended = before.attended

theorem Passes.trans {a b c : Steering} {early late : List Turn} (h : a.Passes early b)
    (h' : b.Passes late c) : a.Passes (early ++ late) c where
  upcoming := by rw [h.upcoming, h'.upcoming, List.append_assoc]
  signal := by rw [h'.signal, h.signal, Signal.afterTurns_append]
  attended := h'.attended.trans h.attended

theorem Passes.ordered {before after : Steering} {past : List Turn} (h : before.Passes past after)
    (hordered : before.Ordered) : after.Ordered := by
  rw [Ordered, h.upcoming, List.pairwise_append] at hordered
  exact hordered.2.1

/-- The signal at a time, as the latest turn until then has left it. A turn at that very moment may
have come or not. -/
def Stands (steering : Steering) (time : Nat) (signal : Signal) : Prop :=
  ∃ past left, steering.upcoming = past ++ left ∧ (∀ turn ∈ past, turn.time ≤ time) ∧
    (∀ turn ∈ left, time ≤ turn.time) ∧ steering.signal.afterTurns past = signal

/-- Turns that have passed before do not count twice. -/
theorem Passes.stands {before after : Steering} {past : List Turn} (h : before.Passes past after)
    {time : Nat} (hpast : ∀ turn ∈ past, turn.time ≤ time) {signal : Signal}
    (hstands : after.Stands time signal) : before.Stands time signal := by
  obtain ⟨more, left, hupcoming, hmore, hleft, hsignal⟩ := hstands
  refine ⟨past ++ more, left, ?_, ?_, hleft, ?_⟩
  · rw [h.upcoming, hupcoming, List.append_assoc]
  · intro turn hturn
    exact (List.mem_append.1 hturn).elim (hpast turn) (hmore turn)
  · rw [Signal.afterTurns_append, ← h.signal, hsignal]

theorem passes_catchUp (steering : Steering) (now : Nat) :
    ∃ past, steering.Passes past (steering.catchUp now) ∧ (∀ turn ∈ past, turn.time ≤ now) ∧
      (steering.Ordered → ∀ turn ∈ (steering.catchUp now).upcoming, now ≤ turn.time) := by
  obtain ⟨signal, turns, attended⟩ := steering
  induction turns generalizing signal with
  | nil => exact ⟨[], ⟨rfl, rfl, rfl⟩, nofun, fun _ => nofun⟩
  | cons turn rest ih =>
    rw [catchUp, Outlook.catchUp]
    cases hbefore : turn.isBefore now with
    | true =>
      obtain ⟨past, hpasses, hpast, hleft⟩ := ih (signal.afterAll turn.actions)
      have htime : turn.time ≤ now := by
        simp [Turn.isBefore] at hbefore
        omega
      refine ⟨turn :: past, ⟨congrArg (turn :: ·) hpasses.upcoming, ?_, rfl⟩, ?_, fun hordered => ?_⟩
      · rw [Signal.afterTurns_cons]
        exact hpasses.signal
      · exact List.forall_mem_cons.2 ⟨htime, hpast⟩
      · exact hleft (List.pairwise_cons.1 hordered).2
    | false =>
      refine ⟨[], ⟨rfl, rfl, rfl⟩, nofun, fun hordered => ?_⟩
      have htime : now ≤ turn.time := by
        simp [Turn.isBefore] at hbefore
        omega
      refine List.forall_mem_cons.2 ⟨htime, fun other hother => ?_⟩
      exact Nat.le_trans htime ((List.pairwise_cons.1 hordered).1 other hother)

end Steering

/-! ### Looks -/

/-- What a decision has to do with the signal and the turns that are left then: a pause is ended
otherwise than by a turn only when there are none. -/
inductive Decides (attended : Bool) : Clearance → Signal → List Turn → Prop
  | proceed (left : List Turn) : Decides attended .proceed .proceed left
  | cancel (left : List Turn) : Decides attended .cancel .cancel left
  | dropped (h : attended = false) : Decides attended .cancel .pause []
  | never (h : attended = true) : Decides attended .never .pause []

theorem Outlook.awaitEnd_passes (attended : Bool) (now : Nat) (signal : Signal)
    (turns : List Turn) :
    let ended := awaitEnd attended now signal turns
    Decides attended ended.clearance ended.signal ended.upcoming ∧
      ∃ past, turns = past ++ ended.upcoming ∧ ended.signal = signal.afterTurns past ∧
        (∀ turn ∈ past, turn.time ≤ ended.time) ∧
        ((∀ turn ∈ turns, now ≤ turn.time) → turns.Pairwise (·.time ≤ ·.time) →
          ∀ turn ∈ ended.upcoming, ended.time ≤ turn.time) := by
  induction turns generalizing now signal with
  | nil =>
    cases signal with
    | proceed => exact ⟨.proceed [], [], rfl, rfl, nofun, fun _ _ => nofun⟩
    | cancel => exact ⟨.cancel [], [], rfl, rfl, nofun, fun _ _ => nofun⟩
    | pause =>
      refine ⟨?_, [], rfl, rfl, nofun, fun _ _ => nofun⟩
      cases attended with
      | true => exact .never rfl
      | false => exact .dropped rfl
  | cons turn rest ih =>
    cases signal with
    | proceed => exact ⟨.proceed _, [], rfl, rfl, nofun, fun h _ => h⟩
    | cancel => exact ⟨.cancel _, [], rfl, rfl, nofun, fun h _ => h⟩
    | pause =>
      obtain ⟨hdecides, past, hrest, hsignal, hpast, hleft⟩ :=
        ih (max now turn.time) (Signal.pause.afterAll turn.actions)
      refine ⟨hdecides, turn :: past, congrArg (turn :: ·) hrest, ?_, ?_, fun hnow hordered => ?_⟩
      · rw [Signal.afterTurns_cons]
        exact hsignal
      · refine List.forall_mem_cons.2 ⟨?_, hpast⟩
        exact Nat.le_trans (Nat.le_max_right now turn.time) (le_awaitEnd_time _ _ _ _)
      · obtain ⟨hturn, hrest⟩ := List.pairwise_cons.1 hordered
        refine hleft (fun other hother => Nat.max_le.2 ⟨?_, hturn other hother⟩) hrest
        exact hnow other (List.mem_cons_of_mem _ hother)

/-- What a look heeds. The turns that have passed at its end came until then, the others come no
earlier, and the decision goes by the signal that they leave. -/
structure Heeds (steering : Steering) (clearance : Clearance) (later : Nat) (after : Steering) :
    Prop where
  passes : ∃ past, steering.Passes past after ∧ ∀ turn ∈ past, turn.time ≤ later
  ahead : steering.Ordered → ∀ turn ∈ after.upcoming, later ≤ turn.time
  decides : Decides steering.attended clearance after.signal after.upcoming

/-- A look lets the turns pass that have come before and awaits the end of a pause; without a pause
there is nothing to await. -/
theorem Run.checkpoint_eq (steering : Steering) (index now : Nat) :
    let caught := steering.catchUp now
    let ended := Outlook.awaitEnd steering.attended now caught.signal caught.upcoming
    (checkpoint steering index now).1 = ended.clearance ∧
      (checkpoint steering index now).2.1 = ended.time ∧
      (checkpoint steering index now).2.2.1 =
        ⟨ended.signal, ended.upcoming, steering.attended⟩ := by
  have hattended : (steering.catchUp now).attended = steering.attended := rfl
  unfold checkpoint
  rw [← hattended]
  generalize steering.catchUp now = caught
  obtain ⟨_ | _ | _, turns, attended⟩ := caught
  · cases turns <;> exact ⟨rfl, rfl, rfl⟩
  · exact ⟨rfl, rfl, rfl⟩
  · cases turns <;> exact ⟨rfl, rfl, rfl⟩

theorem Run.checkpoint_heeds (steering : Steering) (index now : Nat) :
    Heeds steering (checkpoint steering index now).1 (checkpoint steering index now).2.1
      (checkpoint steering index now).2.2.1 := by
  obtain ⟨past, hpasses, hpast, hleft⟩ := steering.passes_catchUp now
  obtain ⟨hdecides, more, hupcoming, hsignal, hmore, hahead⟩ :=
    Outlook.awaitEnd_passes steering.attended now (steering.catchUp now).signal
      (steering.catchUp now).upcoming
  have htime := Outlook.le_awaitEnd_time steering.attended now (steering.catchUp now).signal
    (steering.catchUp now).upcoming
  obtain ⟨hclearance, hlater, hafter⟩ := checkpoint_eq steering index now
  rw [hclearance, hlater, hafter]
  refine ⟨⟨past ++ more, hpasses.trans ⟨hupcoming, hsignal, rfl⟩, fun turn hturn => ?_⟩,
    fun hordered => hahead (hleft hordered) (hpasses.ordered hordered), hdecides⟩
  obtain hturn | hturn := List.mem_append.1 hturn
  · exact Nat.le_trans (hpast turn hturn) htime
  · exact hmore turn hturn

/-- When a look lets a command start, the signal says to proceed. -/
theorem Heeds.stands {later : Nat} {steering after : Steering}
    (h : Heeds steering .proceed later after) (hordered : steering.Ordered) :
    steering.Stands later .proceed := by
  obtain ⟨⟨past, hpasses, hpast⟩, hahead, hdecides⟩ := h
  refine ⟨past, after.upcoming, hpasses.upcoming, hpast, hahead hordered, ?_⟩
  rw [← hpasses.signal]
  generalize after.signal = signal at hdecides
  cases hdecides with
  | proceed => rfl

/-! ### A cancel that is not taken back -/

/-- The signal is cancelled for good, or will be by a turn no later than `bound`. -/
inductive Signal.Doomed (bound : Nat) : Signal → List Turn → Prop
  | cancelled {turns : List Turn} (h : ∀ turn ∈ turns, .reset ∉ turn.actions) :
      Doomed bound .cancel turns
  | pass {signal : Signal} {turn : Turn} {rest : List Turn} (htime : turn.time ≤ bound)
      (h : Doomed bound (signal.afterAll turn.actions) rest) : Doomed bound signal (turn :: rest)

/-- The signal is cancelled at a time, and not reset after that. -/
def Steering.CancelledAt (steering : Steering) (time : Nat) : Prop :=
  ∃ early turn late, steering.upcoming = early ++ turn :: late ∧ turn.time = time ∧
    (∃ before after, turn.actions = before ++ .cancel :: after ∧ .reset ∉ after) ∧
    ∀ later ∈ late, .reset ∉ later.actions

theorem Steering.CancelledAt.doomed {steering : Steering} {time : Nat}
    (h : steering.CancelledAt time) (hordered : steering.Ordered) :
    Signal.Doomed time steering.signal steering.upcoming := by
  obtain ⟨early, turn, late, hupcoming, rfl, ⟨before, after, hactions, hafter⟩, hlate⟩ := h
  rw [Ordered, hupcoming, List.pairwise_append] at hordered
  have hearly : ∀ other ∈ early, other.time ≤ turn.time := fun other hother =>
    hordered.2.2 other hother turn List.mem_cons_self
  rw [hupcoming]
  clear hupcoming hordered
  generalize steering.signal = signal
  induction early generalizing signal with
  | nil =>
    refine .pass (Nat.le_refl _) ?_
    have hcancel : signal.afterAll turn.actions = .cancel := by
      have hreach := Signal.afterAll_append (signal.afterAll before) [.cancel] after
      rw [hactions, Signal.afterAll_append, ← List.singleton_append, hreach]
      exact (congrArg (Signal.afterAll · after) (Signal.after_cancel _)).trans
        (Signal.afterAll_cancel hafter)
    rw [hcancel]
    exact .cancelled hlate
  | cons other rest ih =>
    obtain ⟨hother, hrest⟩ := List.forall_mem_cons.1 hearly
    exact .pass hother (ih hrest _)

namespace Signal.Doomed

variable {bound : Nat} {signal : Signal}

theorem passed {turn : Turn} {rest : List Turn} (h : Doomed bound signal (turn :: rest)) :
    Doomed bound (signal.afterAll turn.actions) rest := by
  cases h with
  | cancelled h =>
    obtain ⟨hturn, hrest⟩ := List.forall_mem_cons.1 h
    rw [afterAll_cancel hturn]
    exact .cancelled hrest
  | pass htime h => exact h

theorem afterTurns {past left : List Turn} (h : Doomed bound signal (past ++ left)) :
    Doomed bound (signal.afterTurns past) left := by
  induction past generalizing signal with
  | nil => exact h
  | cons turn past ih =>
    rw [afterTurns_cons]
    exact ih h.passed

theorem awaitEnd_time_le {turns : List Turn} (h : Doomed bound signal turns) (attended : Bool)
    (now : Nat) : (Outlook.awaitEnd attended now signal turns).time ≤ max now bound := by
  induction turns generalizing now signal with
  | nil => cases signal <;> exact Nat.le_max_left now bound
  | cons turn rest ih =>
    cases signal with
    | proceed => exact Nat.le_max_left now bound
    | cancel => exact Nat.le_max_left now bound
    | pause =>
      cases h with
      | pass htime h =>
        refine Nat.le_trans (ih h (max now turn.time)) ?_
        omega

end Signal.Doomed

theorem Steering.Passes.doomed {bound : Nat} {before after : Steering} {past : List Turn}
    (h : before.Passes past after)
    (hdoomed : Signal.Doomed bound before.signal before.upcoming) :
    Signal.Doomed bound after.signal after.upcoming := by
  rw [h.upcoming] at hdoomed
  rw [h.signal]
  exact hdoomed.afterTurns

/-- While the signal still says to proceed, the cancel has not come. -/
theorem Steering.Stands.le_of_doomed {bound time : Nat} {steering : Steering}
    (h : steering.Stands time .proceed)
    (hdoomed : Signal.Doomed bound steering.signal steering.upcoming) : time ≤ bound := by
  obtain ⟨past, left, hupcoming, _, hleft, hsignal⟩ := h
  rw [hupcoming] at hdoomed
  have hlater := hdoomed.afterTurns
  rw [hsignal] at hlater
  cases hlater with
  | pass htime _ => exact Nat.le_trans (hleft _ List.mem_cons_self) htime

/-- A look takes no longer than until the cancel. -/
theorem Run.checkpoint_time_le {bound : Nat} {steering : Steering}
    (h : Signal.Doomed bound steering.signal steering.upcoming) (index now : Nat) :
    (checkpoint steering index now).2.1 ≤ max now bound := by
  obtain ⟨past, hpasses, _⟩ := steering.passes_catchUp now
  rw [(checkpoint_eq steering index now).2.1]
  exact (hpasses.doomed h).awaitEnd_time_le _ now

/-- A run does not stay paused when a cancel comes. -/
theorem Heeds.ne_never {bound later : Nat} {steering after : Steering}
    (h : Heeds steering .never later after)
    (hdoomed : Signal.Doomed bound steering.signal steering.upcoming) : False := by
  obtain ⟨⟨past, hpasses, _⟩, _, hdecides⟩ := h
  have hlater := hpasses.doomed hdoomed
  generalize after.signal = signal, after.upcoming = turns at hdecides hlater
  cases hdecides with
  | never => cases hlater

/-! ### Pauses that no turn ends -/

/-- The signal is a pause and stays one after every turn. -/
def Signal.StaysPaused : Signal → List Turn → Prop
  | signal, [] => signal = .pause
  | signal, turn :: rest => signal = .pause ∧ StaysPaused (signal.afterAll turn.actions) rest

theorem Signal.StaysPaused.eq_pause {signal : Signal} {turns : List Turn}
    (h : signal.StaysPaused turns) : signal = .pause := by
  cases turns with
  | nil => exact h
  | cons turn rest => exact h.1

theorem Signal.StaysPaused.awaitEnd_clearance {signal : Signal} {turns : List Turn}
    (h : signal.StaysPaused turns) (attended : Bool) (now : Nat) :
    (Outlook.awaitEnd attended now signal turns).clearance =
      if attended then .never else .cancel := by
  induction turns generalizing now signal with
  | nil =>
    obtain rfl := h.eq_pause
    rfl
  | cons turn rest ih =>
    obtain ⟨rfl, hrest⟩ := h
    exact ih hrest _

/-- A pause that a turn ends lets the run go on, unless it has been cancelled. -/
theorem Outlook.awaitEnd_resumes {signal : Signal} {turns : List Turn}
    (h : ¬ signal.StaysPaused turns) (attended : Bool) (now : Nat) :
    let ended := awaitEnd attended now signal turns
    ended.clearance ≠ .never ∧ (ended.clearance = .cancel → ended.signal = .cancel) := by
  induction turns generalizing now signal with
  | nil =>
    cases signal with
    | proceed => exact ⟨nofun, nofun⟩
    | cancel => exact ⟨nofun, fun _ => rfl⟩
    | pause => exact absurd rfl h
  | cons turn rest ih =>
    cases signal with
    | proceed => exact ⟨nofun, nofun⟩
    | cancel => exact ⟨nofun, fun _ => rfl⟩
    | pause => exact ih (fun hrest => h ⟨rfl, hrest⟩) _

namespace Run

/-- A run that stays paused is cancelled once nobody holds a control. -/
theorem checkpoint_of_staysPaused {steering : Steering} (index now : Nat)
    (h : (steering.catchUp now).signal.StaysPaused (steering.catchUp now).upcoming) :
    (checkpoint steering index now).1 = if steering.attended then .never else .cancel := by
  rw [(checkpoint_eq steering index now).1]
  exact h.awaitEnd_clearance _ now

theorem checkpoint_resumes {steering : Steering} (index now : Nat)
    (h : ¬ (steering.catchUp now).signal.StaysPaused (steering.catchUp now).upcoming) :
    (checkpoint steering index now).1 ≠ .never ∧
      ((checkpoint steering index now).1 = .cancel →
        (checkpoint steering index now).2.2.1.signal = .cancel) := by
  obtain ⟨hclearance, _, hafter⟩ := checkpoint_eq steering index now
  rw [hclearance, hafter]
  exact Outlook.awaitEnd_resumes h _ now

end Run

/-! ### Runs that nobody cancels -/

/-- Nobody has cancelled or will. -/
structure Steering.Uncancelled (steering : Steering) : Prop where
  signal : steering.signal ≠ .cancel
  upcoming : ∀ turn ∈ steering.upcoming, .cancel ∉ turn.actions

theorem Signal.afterAll_ne_cancel {signal : Signal} {actions : List SignalAction}
    (h : signal ≠ .cancel) (hactions : .cancel ∉ actions) : signal.afterAll actions ≠ .cancel := by
  induction actions generalizing signal with
  | nil => exact h
  | cons action rest ih =>
    rw [List.mem_cons, not_or] at hactions
    refine ih ?_ hactions.2
    cases action with
    | cancel => exact absurd rfl hactions.1
    | _ => cases signal <;> simp_all [Signal.after]

theorem Steering.Passes.uncancelled {before after : Steering} {past : List Turn}
    (h : before.Passes past after) (huncancelled : before.Uncancelled) : after.Uncancelled := by
  obtain ⟨hsignal, hupcoming⟩ := huncancelled
  rw [h.upcoming, List.forall_mem_append] at hupcoming
  refine ⟨?_, hupcoming.2⟩
  rw [h.signal]
  refine Signal.afterAll_ne_cancel hsignal fun hmem => ?_
  obtain ⟨turn, hturn, hcancel⟩ := List.mem_flatMap.1 hmem
  exact hupcoming.1 turn hturn hcancel

end BrowserReplay
