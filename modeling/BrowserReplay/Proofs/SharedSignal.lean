import BrowserReplay.Signal
import Mathlib.Data.List.Induction

/-!
# Handles on one signal

Whatever is done with the controls and receivers of a channel, they share one signal: it is what the
actions that were performed make of `proceed`, whichever controls performed them. A pause or resume
reports whether it changed the signal, a cancelled signal stays cancelled without a reset, and a
poll of a wait depends on nothing but the signal and whether a control is left.

The last is not clear from the way in which receivers wait, because a suspended wait does not look
at the signal before there is a version that it has not seen. The reason is an invariant
(`SignalChannel.Sound`): the version at which a wait was suspended is a pause.
-/

namespace BrowserReplay

namespace Signal

/-- What is reported is whether the signal has changed. -/
theorem answer_eq_some {signal : Signal} {action : SignalAction} {did : Bool}
    (h : signal.answer action = some did) : did = true ↔ signal.after action ≠ signal := by
  cases signal <;> cases action <;> cases h <;> decide

theorem after_eq_self {signal : Signal} {action : SignalAction}
    (h : signal.answer action = some false) : signal.after action = signal := by
  by_contra hne
  exact Bool.false_ne_true ((answer_eq_some h).2 hne)

theorem cancel_after {action : SignalAction} (h : action ≠ .reset) :
    Signal.cancel.after action = .cancel := by
  cases action with
  | reset => exact absurd rfl h
  | pause | resume | cancel => rfl

end Signal

namespace SignalChannel

/-! ### What is done with a channel -/

abbrev Answered := ChannelAction × ChannelAnswer

def opened (heard : Bool) : SignalChannel := if heard then {} else unheard

def run (channel : SignalChannel) (actions : List ChannelAction) : SignalChannel :=
  actions.foldl (fun channel action => (channel.step action).1) channel

def history (channel : SignalChannel) (actions : List ChannelAction) : List Answered :=
  actions.zip (channel.answers actions)

/-- What was done to the signal. A control that was dropped does nothing. -/
def performed? : Answered → Option SignalAction
  | (.act _ _, .dropped) => none
  | (.act _ action, _) => some action
  | _ => none

/-- A kind of handles on a channel: how many it begins with, and which one is made or dropped by an
action that is answered. -/
structure HandleKind where
  first : Nat
  made? : Answered → Option Nat
  dropped? : Answered → Option Nat

def controlKind : HandleKind where
  first := 1
  made?
    | (.clone _, .index control) => some control
    | _ => none
  dropped?
    | (.drop control, .nothing) => some control
    | _ => none

def receiverKind (heard : Bool) : HandleKind where
  first := if heard then 1 else 0
  made?
    | (.subscribe _, .index receiver) => some receiver
    | _ => none
  dropped?
    | (.dropReceiver receiver, .nothing) => some receiver
    | _ => none

/-- A handle that was made and was not dropped. -/
def HandleKind.Alive (kind : HandleKind) (history : List Answered) (handle : Nat) : Prop :=
  (handle < kind.first ∨ ∃ done ∈ history, kind.made? done = some handle) ∧
    ∀ done ∈ history, kind.dropped? done ≠ some handle

theorem run_concat (channel : SignalChannel) (actions : List ChannelAction)
    (action : ChannelAction) :
    channel.run (actions ++ [action]) = ((channel.run actions).step action).1 := by
  simp [run]

theorem history_concat (channel : SignalChannel) (actions : List ChannelAction)
    (action : ChannelAction) : channel.history (actions ++ [action]) =
      channel.history actions ++ [(action, ((channel.run actions).step action).2)] := by
  induction actions generalizing channel with
  | nil => rfl
  | cons first actions ih => exact congrArg (_ :: ·) (ih (channel.step first).1)

/-! ### What one action does -/

variable {channel : SignalChannel}

theorem isAttended_iff : channel.isAttended = true ↔ ∃ control, channel.isAlive control = true := by
  simp only [isAttended, isAlive, List.any_eq_true, id_eq, exists_eq_right, List.mem_iff_getElem?,
    List.getD_eq_getElem?_getD]
  refine exists_congr fun control => ?_
  cases channel.controls[control]? <;> simp

theorem lt_of_receiver? {receiver : Nat} {held : SignalReceiver}
    (h : channel.receiver? receiver = some held) : receiver < channel.receivers.length := by
  by_contra hge
  simp [receiver?, List.getElem?_eq_none (Nat.le_of_not_lt hge)] at h

theorem receiver?_set {receiver : Nat} {held : SignalReceiver}
    (h : channel.receiver? receiver = some held) (left : Option SignalReceiver) (other : Nat) :
    { channel with receivers := channel.receivers.set receiver left }.receiver? other =
      if other = receiver then left else channel.receiver? other := by
  have hlt := lt_of_receiver? h
  by_cases hother : other = receiver
  · subst hother
    simp [receiver?, hlt]
  · simp [receiver?, hother, List.getElem?_set_ne (Ne.symm hother)]

theorem receiver?_append (new : SignalReceiver) (other : Nat) :
    { channel with receivers := channel.receivers ++ [some new] }.receiver? other =
      if other = channel.receivers.length then some new else channel.receiver? other := by
  rcases Nat.lt_trichotomy other channel.receivers.length with hlt | rfl | hgt
  · simp [receiver?, List.getElem?_append_left hlt, Nat.ne_of_lt hlt]
  · simp [receiver?]
  · have hnone : (channel.receivers ++ [some new])[other]? = none := by simp; omega
    simp [receiver?, hnone, Nat.ne_of_gt hgt, List.getElem?_eq_none (Nat.le_of_lt hgt)]

/-- The signal becomes what the action makes of it, also where the action does not set it. -/
theorem signal_act (action : SignalAction) :
    (channel.act action).1.signal = channel.signal.after action := by
  unfold act
  split
  next hanswer => exact (Signal.after_eq_self hanswer).symm
  · rfl
  · rfl

theorem controls_act (action : SignalAction) :
    (channel.act action).1.controls = channel.controls := by
  unfold act
  split <;> rfl

theorem receivers_act (action : SignalAction) :
    (channel.act action).1.receivers = channel.receivers := by
  unfold act
  split <;> rfl

end SignalChannel

/-! ### Waits -/

/-- What holds of a receiver at any time. The version that it has seen is not of the future, and a
wait of it was suspended only at a pause. -/
structure SignalReceiver.Sound (held : SignalReceiver) (signal : Signal) (version : Nat) :
    Prop where
  seen : held.seen ≤ version
  suspended : held.isSuspended = true → held.seen = version → signal = .pause

namespace SignalChannel

def Sound (channel : SignalChannel) : Prop :=
  ∀ receiver held, channel.receiver? receiver = some held →
    held.Sound channel.signal channel.version

variable {channel : SignalChannel} {held : SignalReceiver}

theorem rest_eq (h : channel.signal = .pause) :
    channel.rest.2 = channel.signal.poll channel.isAttended ∧
      channel.rest.1.Sound channel.signal channel.version := by
  unfold rest
  rw [h, Signal.poll]
  split
  · exact ⟨rfl, Nat.le_refl _, fun _ _ => rfl⟩
  · exact ⟨rfl, Nat.le_refl _, fun _ _ => rfl⟩

/-- A poll of a wait gives what the signal asks for, whatever versions were seen, and leaves a sound
receiver. -/
theorem poll_eq (h : held.Sound channel.signal channel.version) :
    (channel.poll held).2 = channel.signal.poll channel.isAttended ∧
      (channel.poll held).1.Sound channel.signal channel.version := by
  unfold poll
  split
  next hsuspended => exact rest_eq (h.suspended hsuspended.1 hsuspended.2)
  · unfold look
    split
    next hpause => exact rest_eq hpause
    next hother =>
      refine ⟨?_, Nat.le_refl _, nofun⟩
      rw [Signal.poll]
      exact fun hpause => hother hpause

/-- A version that is set is beyond all that were seen. -/
theorem Sound.set (h : channel.Sound) (signal : Signal) : (channel.set signal).Sound := by
  intro receiver held hheld
  have hseen := (h receiver held hheld).seen
  refine ⟨Nat.le_succ_of_le hseen, fun _ hnew => ?_⟩
  exact absurd hnew (Nat.ne_of_lt (Nat.lt_succ_of_le hseen))

theorem Sound.act (h : channel.Sound) (action : SignalAction) : (channel.act action).1.Sound := by
  unfold SignalChannel.act
  split
  · exact h
  · exact h.set _
  · exact h.set _

theorem Sound.withReceiver (h : channel.Sound) (receiver : Nat)
    {deed : SignalReceiver → Option SignalReceiver × ChannelAnswer}
    (hdeed : ∀ held : SignalReceiver, held.Sound channel.signal channel.version →
      ∀ left, (deed held).1 = some left → left.Sound channel.signal channel.version) :
    (channel.withReceiver receiver deed).1.Sound := by
  unfold SignalChannel.withReceiver
  split
  next held hheld =>
    intro other left hleft
    rw [receiver?_set hheld] at hleft
    split at hleft
    · exact hdeed held (h receiver held hheld) left hleft
    · exact h other left hleft
  · exact h

theorem Sound.withControl (h : channel.Sound) (control : Nat)
    {done : SignalChannel × ChannelAnswer} (hdone : done.1.Sound) :
    (channel.withControl control done).1.Sound := by
  unfold SignalChannel.withControl
  split
  · exact hdone
  · exact h

/-- A new receiver has seen the version at which it is made. -/
theorem Sound.subscribe (h : channel.Sound) :
    Sound { channel with
      receivers := channel.receivers ++ [some { seen := channel.version }] } := by
  intro receiver held hheld
  rw [receiver?_append] at hheld
  split at hheld
  · cases hheld
    exact ⟨Nat.le_refl _, nofun⟩
  · exact h receiver held hheld

/-- Every action keeps the invariant. -/
theorem Sound.step (h : channel.Sound) (action : ChannelAction) :
    (channel.step action).1.Sound := by
  cases action with
  | act control action => exact h.withControl control (h.act action)
  | signal control | clone control | drop control => exact h.withControl control h
  | subscribe control => exact h.withControl control h.subscribe
  | current receiver =>
    refine h.withReceiver receiver fun held hheld => ?_
    rintro left ⟨⟩
    exact hheld
  | poll receiver =>
    refine h.withReceiver receiver fun held hheld => ?_
    rintro left ⟨⟩
    exact (poll_eq hheld).2
  | giveUp receiver =>
    refine h.withReceiver receiver fun held hheld => ?_
    rintro left ⟨⟩
    exact ⟨hheld.seen, nofun⟩
  | wait receiver =>
    refine h.withReceiver receiver fun held hheld => ?_
    rintro left ⟨⟩
    exact ⟨(poll_eq hheld).2.seen, nofun⟩
  | dropReceiver receiver => exact h.withReceiver receiver fun held hheld => nofun

theorem sound_run {start : SignalChannel} (h : start.Sound) (actions : List ChannelAction) :
    (start.run actions).Sound := by
  induction actions using List.reverseRecOn with
  | nil => exact h
  | append_singleton actions action ih =>
    rw [run_concat]
    exact ih.step action

theorem sound_opened (heard : Bool) : (opened heard).Sound := by
  intro receiver held hheld
  cases heard with
  | false => cases hheld
  | true =>
    cases receiver with
    | zero =>
      cases hheld
      exact ⟨Nat.le_refl _, nofun⟩
    | succ receiver => cases hheld

/-! ### What was done to the signal -/

theorem performed?_act (control : Nat) (action : SignalAction) :
    performed? (.act control action, (channel.act action).2) = some action := by
  unfold act
  split <;> rfl

theorem eq_act_of_performed? {action : ChannelAction} {answer : ChannelAnswer}
    {performed : SignalAction} (h : performed? (action, answer) = some performed) :
    ∃ control, action = .act control performed := by
  cases action with
  | act control action => cases answer <;> cases h <;> exact ⟨control, rfl⟩
  | _ => cases h

theorem signal_step (channel : SignalChannel) (action : ChannelAction) :
    (channel.step action).1.signal =
      (performed? (action, (channel.step action).2)).elim channel.signal channel.signal.after := by
  cases action with
  | act control action =>
    simp only [step, withControl]
    split
    · rw [performed?_act, signal_act]
      rfl
    · rfl
  | signal control | subscribe control | clone control | drop control =>
    simp only [step, withControl]
    split <;> rfl
  | current receiver | poll receiver | giveUp receiver | wait receiver | dropReceiver receiver =>
    simp only [step, withReceiver]
    split <;> rfl

/-- The signal is what the actions that were performed make of the one at the beginning. -/
theorem signal_run (start : SignalChannel) (actions : List ChannelAction) :
    (start.run actions).signal =
      ((start.history actions).filterMap performed?).foldl Signal.after start.signal := by
  induction actions using List.reverseRecOn with
  | nil => rfl
  | append_singleton actions action ih =>
    rw [run_concat, history_concat, signal_step, List.filterMap_append, List.foldl_append, ← ih]
    cases hperformed : performed? (action, ((start.run actions).step action).2) <;>
      simp [hperformed]

/-- Without a reset a cancelled signal stays so. -/
theorem run_of_cancel (actions : List ChannelAction) (h : channel.signal = .cancel)
    (hreset : ∀ control, .act control .reset ∉ actions) :
    (channel.run actions).signal = .cancel := by
  induction actions generalizing channel with
  | nil => exact h
  | cons action actions ih =>
    have hstep : (channel.step action).1.signal = .cancel := by
      rw [signal_step, h]
      cases hperformed : performed? (action, (channel.step action).2) with
      | none => rfl
      | some performed =>
        obtain ⟨control, rfl⟩ := eq_act_of_performed? hperformed
        apply Signal.cancel_after
        rintro rfl
        exact hreset control List.mem_cons_self
    exact ih hstep fun control hmem => hreset control (List.mem_cons_of_mem _ hmem)

/-! ### Handles that are alive -/

/-- What an action does to the places of the handles of a kind. The next handle gets a new place at
the end, and one that is dropped keeps its place. -/
inductive HandleKind.Step (kind : HandleKind) (places : List Bool) : Answered → List Bool → Prop
  | made {done : Answered} (hmade : kind.made? done = some places.length)
      (hdropped : kind.dropped? done = none) : Step kind places done (places ++ [true])
  | dropped {done : Answered} {handle : Nat} (hmade : kind.made? done = none)
      (hdropped : kind.dropped? done = some handle) (h : places.getD handle false = true) :
      Step kind places done (places.set handle false)
  | kept {done : Answered} (hmade : kind.made? done = none) (hdropped : kind.dropped? done = none) :
      Step kind places done places

theorem lt_length_of_getD {places : List Bool} {handle : Nat}
    (h : places.getD handle false = true) : handle < places.length := by
  by_contra hge
  simp [List.getElem?_eq_none (Nat.le_of_not_lt hge)] at h

theorem getD_append_true (places : List Bool) (handle : Nat) :
    (places ++ [true]).getD handle false = true ↔
      places.getD handle false = true ∨ handle = places.length := by
  rcases Nat.lt_trichotomy handle places.length with hlt | rfl | hgt
  · simp [List.getElem?_append_left hlt, Nat.ne_of_lt hlt]
  · simp
  · have hnone : (places ++ [true])[handle]? = none := by simp; omega
    simp [hnone, Nat.ne_of_gt hgt, List.getElem?_eq_none (Nat.le_of_lt hgt)]

theorem getD_set_false (places : List Bool) (dropped handle : Nat) :
    (places.set dropped false).getD handle false = true ↔
      places.getD handle false = true ∧ dropped ≠ handle := by
  simp only [List.getD_eq_getElem?_getD, List.getElem?_set]
  split
  · split <;> simp_all
  · simp_all

/-- A history tells which handles have a place, and of no others that they were dropped. -/
structure HandleKind.Tells (kind : HandleKind) (history : List Answered) (places : List Bool) :
    Prop where
  alive : ∀ handle, places.getD handle false = true ↔ kind.Alive history handle
  known : ∀ done ∈ history, ∀ handle, kind.dropped? done = some handle → handle < places.length

theorem HandleKind.alive_concat (kind : HandleKind) (history : List Answered) (done : Answered)
    (handle : Nat) : kind.Alive (history ++ [done]) handle ↔
      ((handle < kind.first ∨ ∃ done ∈ history, kind.made? done = some handle) ∨
        kind.made? done = some handle) ∧
      (∀ done ∈ history, kind.dropped? done ≠ some handle) ∧ kind.dropped? done ≠ some handle := by
  simp only [HandleKind.Alive, List.mem_append, List.mem_singleton, or_imp, forall_and, forall_eq,
    or_and_right, exists_or, exists_eq_left, or_assoc]

theorem HandleKind.Tells.step {kind : HandleKind} {history : List Answered}
    {before after : List Bool} {done : Answered} (h : kind.Tells history before)
    (hstep : kind.Step before done after) : kind.Tells (history ++ [done]) after := by
  have hknown {places : List Bool} (hle : before.length ≤ places.length)
      (hlast : ∀ handle, kind.dropped? done = some handle → handle < places.length) :
      ∀ other ∈ history ++ [done], ∀ handle, kind.dropped? other = some handle →
        handle < places.length := by
    intro other hother handle hdropped
    rcases List.mem_append.1 hother with hold | hnew
    · exact Nat.lt_of_lt_of_le (h.known other hold handle hdropped) hle
    · obtain rfl := List.mem_singleton.1 hnew
      exact hlast handle hdropped
  cases hstep with
  | kept hmade hdropped =>
    refine ⟨fun handle => ?_, hknown (Nat.le_refl _) (by simp [hdropped])⟩
    rw [h.alive, kind.alive_concat, hmade, hdropped]
    simp [HandleKind.Alive]
  | made hmade hdropped =>
    refine ⟨fun handle => ?_, hknown (by simp) (by simp [hdropped])⟩
    rw [getD_append_true, h.alive, kind.alive_concat, hmade, hdropped]
    -- The new number is not known yet, so no handle with it was dropped.
    have hnew (heq : handle = before.length) :
        ∀ other ∈ history, kind.dropped? other ≠ some handle := by
      intro other hother hgone
      have hlt := h.known other hother handle hgone
      omega
    simp only [HandleKind.Alive, Option.some.injEq, ne_eq, reduceCtorEq, not_false_eq_true,
      and_true, @eq_comm _ before.length]
    constructor
    · rintro (⟨hmade, hkept⟩ | heq)
      · exact ⟨.inl hmade, hkept⟩
      · exact ⟨.inr heq, hnew heq⟩
    · rintro ⟨hmade | heq, hkept⟩
      · exact .inl ⟨hmade, hkept⟩
      · exact .inr heq
  | dropped hmade hdropped hthere =>
    refine ⟨fun handle => ?_, hknown (by simp) ?_⟩
    · rw [getD_set_false, h.alive, kind.alive_concat, hmade, hdropped]
      simp [HandleKind.Alive, and_assoc]
    · intro handle heq
      obtain rfl := Option.some.inj (hdropped.symm.trans heq)
      simpa using lt_length_of_getD hthere

/-- The handles that are alive after a sequence of actions are those of which its history tells. -/
theorem HandleKind.tells_run (kind : HandleKind) (places : SignalChannel → List Bool)
    (hstep : ∀ channel action, kind.Step (places channel) (action, (channel.step action).2)
      (places (channel.step action).1))
    {start : SignalChannel} (hstart : places start = List.replicate kind.first true)
    (actions : List ChannelAction) :
    kind.Tells (start.history actions) (places (start.run actions)) := by
  induction actions using List.reverseRecOn with
  | nil =>
    refine ⟨fun handle => ?_, nofun⟩
    rw [show start.run [] = start from rfl, hstart]
    by_cases hfirst : handle < kind.first
    · simp [HandleKind.Alive, history, hfirst]
    · simp [HandleKind.Alive, history, hfirst]
  | append_singleton actions action ih =>
    rw [run_concat, history_concat]
    exact ih.step (hstep _ _)

/-! ### Controls and receivers -/

theorem controls_step (channel : SignalChannel) (action : ChannelAction) :
    controlKind.Step channel.controls (action, (channel.step action).2)
      (channel.step action).1.controls := by
  cases action with
  | clone other =>
    simp only [step, withControl]
    split
    · exact .made rfl rfl
    · exact .kept rfl rfl
  | drop control =>
    simp only [step, withControl]
    split
    next halive => exact .dropped rfl rfl halive
    · exact .kept rfl rfl
  | act control action =>
    simp only [step, withControl]
    split
    · rw [controls_act]
      exact .kept rfl rfl
    · exact .kept rfl rfl
  | signal control | subscribe control =>
    simp only [step, withControl]
    split <;> exact .kept rfl rfl
  | current receiver | poll receiver | giveUp receiver | wait receiver | dropReceiver receiver =>
    simp only [step, withReceiver]
    split <;> exact .kept rfl rfl

def receiverPlaces (channel : SignalChannel) : List Bool := channel.receivers.map Option.isSome

theorem getD_receiverPlaces (receiver : Nat) :
    channel.receiverPlaces.getD receiver false = (channel.receiver? receiver).isSome := by
  simp [receiverPlaces, receiver?]
  cases channel.receivers[receiver]? <;> rfl

theorem receiverPlaces_set {receiver : Nat} {held : SignalReceiver}
    (h : channel.receiver? receiver = some held) (left : SignalReceiver) :
    receiverPlaces { channel with receivers := channel.receivers.set receiver (some left) } =
      channel.receiverPlaces := by
  have hplace : channel.receiverPlaces[receiver]? = some true := by
    rw [receiverPlaces, List.getElem?_map]
    cases hplace : channel.receivers[receiver]? with
    | none => simp [receiver?, hplace] at h
    | some place =>
      obtain rfl : place = some held := by simpa [receiver?, hplace] using h
      rfl
  obtain ⟨hlt, htrue⟩ := List.getElem?_eq_some_iff.1 hplace
  have hself := List.set_getElem_self hlt
  rw [htrue] at hself
  simpa [receiverPlaces, List.map_set] using hself

theorem receivers_step (heard : Bool) (channel : SignalChannel) (action : ChannelAction) :
    (receiverKind heard).Step channel.receiverPlaces (action, (channel.step action).2)
      (channel.step action).1.receiverPlaces := by
  cases action with
  | subscribe control =>
    simp only [step, withControl]
    split
    · have hplaces : receiverPlaces
          { channel with receivers := channel.receivers ++ [some { seen := channel.version }] } =
            channel.receiverPlaces ++ [true] := by simp [receiverPlaces]
      rw [hplaces]
      exact .made (by simp [receiverKind, receiverPlaces]) rfl
    · exact .kept rfl rfl
  | act control action =>
    simp only [step, withControl]
    split
    · have hplaces : (channel.act action).1.receiverPlaces = channel.receiverPlaces := by
        rw [receiverPlaces, receivers_act, receiverPlaces]
      rw [hplaces]
      exact .kept rfl rfl
    · exact .kept rfl rfl
  | signal control | clone control | drop control =>
    simp only [step, withControl]
    split <;> exact .kept rfl rfl
  | current receiver | poll receiver | giveUp receiver | wait receiver =>
    simp only [step, withReceiver]
    split
    next held hheld =>
      rw [receiverPlaces_set hheld]
      exact .kept rfl rfl
    · exact .kept rfl rfl
  | dropReceiver receiver =>
    simp only [step, withReceiver]
    split
    next held hheld =>
      have hplaces : receiverPlaces
          { channel with receivers := channel.receivers.set receiver none } =
            channel.receiverPlaces.set receiver false := by simp [receiverPlaces, List.map_set]
      rw [hplaces]
      exact .dropped rfl rfl (by rw [getD_receiverPlaces, hheld]; rfl)
    · exact .kept rfl rfl

theorem withControl_of_alive {control : Nat} (h : channel.isAlive control = true)
    (done : SignalChannel × ChannelAnswer) : channel.withControl control done = done :=
  if_pos h

theorem answer_act {control : Nat} (h : channel.isAlive control = true)
    {action : SignalAction} {did : Bool} (hanswer : channel.signal.answer action = some did) :
    (channel.step (.act control action)).2 = .changed did := by
  rw [step, withControl_of_alive h, act, hanswer]
  cases did <;> rfl

/-- What a pause or resume reports is whether the signal has changed. -/
theorem changed_of_answer {control : Nat} {action : SignalAction} {did : Bool}
    (h : (channel.step (.act control action)).2 = .changed did) :
    did = true ↔ (channel.step (.act control action)).1.signal ≠ channel.signal := by
  cases halive : channel.isAlive control with
  | false => simp [step, withControl, halive] at h
  | true =>
    rw [step, withControl_of_alive halive] at h ⊢
    rw [signal_act]
    unfold act at h
    split at h
    next hanswer => cases h; exact Signal.answer_eq_some hanswer
    next hanswer => cases h; exact Signal.answer_eq_some hanswer
    · cases h

/-- A poll of a wait, whether the wait is then given up or not, answers what the signal asks for. -/
theorem answer_poll (h : channel.Sound) {receiver : Nat} {action : ChannelAction}
    (hreceiver : (channel.receiver? receiver).isSome = true)
    (haction : action = .poll receiver ∨ action = .wait receiver) :
    (channel.step action).2 = .ofPoll (channel.signal.poll channel.isAttended) := by
  obtain ⟨held, hheld⟩ := Option.isSome_iff_exists.1 hreceiver
  rw [← (poll_eq (h receiver held hheld)).1]
  rcases haction with rfl | rfl
  · simp only [step, withReceiver, hheld]
  · simp only [step, withReceiver, hheld]

/-- The handles of a channel share one signal. Whatever was done with any number of controls and
receivers, all controls and receivers that are alive read the same signal, which is what the actions
that were performed make of `proceed`. A pause succeeds if the signal is `proceed`, a resume if it
is a pause, and what they report is whether they have changed it. Once cancelled, the signal stays
so whatever is done without a reset. A poll of any wait, one that begins with it or one that was
suspended, is pending if the signal is a pause and a control is alive; otherwise it gives the
signal, and a cancel for a pause that no control is left to end. -/
theorem handles_share_signal (heard : Bool) (actions : List ChannelAction) :
    let channel := (opened heard).run actions
    let history := (opened heard).history actions
    let signal := (history.filterMap performed?).foldl Signal.after .proceed
    (∀ control, controlKind.Alive history control →
        (channel.step (.signal control)).2 = .signal signal) ∧
      (∀ receiver, (receiverKind heard).Alive history receiver →
        (channel.step (.current receiver)).2 = .signal signal) ∧
      (∀ control, controlKind.Alive history control →
        (channel.step (.act control .pause)).2 = .changed (decide (signal = .proceed)) ∧
          (channel.step (.act control .resume)).2 = .changed (decide (signal = .pause))) ∧
      (∀ control action did, (channel.step (.act control action)).2 = .changed did →
        (did = true ↔ (channel.step (.act control action)).1.signal ≠ signal)) ∧
      (signal = .cancel → ∀ more, (∀ control, .act control .reset ∉ more) →
        (channel.run more).signal = .cancel) ∧
      ∀ receiver, (receiverKind heard).Alive history receiver → ∀ action,
        action = .poll receiver ∨ action = .wait receiver →
        ((channel.step action).2 = .pending ↔
          signal = .pause ∧ ∃ control, controlKind.Alive history control) ∧
        ((channel.step action).2 ≠ .pending →
          (channel.step action).2 = .signal (if signal = .pause then .cancel else signal)) := by
  intro channel history signal
  have hproceed : (opened heard).signal = .proceed := by cases heard <;> rfl
  have hsignal : channel.signal = signal := by rw [signal_run (opened heard) actions, hproceed]
  have hcontrols : ∀ control, channel.isAlive control = true ↔ controlKind.Alive history control :=
    (controlKind.tells_run (·.controls) controls_step (by cases heard <;> rfl) actions).alive
  have hreceivers (receiver : Nat) : (channel.receiver? receiver).isSome = true ↔
      (receiverKind heard).Alive history receiver := by
    rw [← getD_receiverPlaces]
    exact ((receiverKind heard).tells_run receiverPlaces (receivers_step heard)
      (by cases heard <;> rfl) actions).alive receiver
  have hattended : channel.isAttended = true ↔ ∃ control, controlKind.Alive history control := by
    simp only [isAttended_iff, hcontrols]
  have hsound : channel.Sound := sound_run (sound_opened heard) actions
  clear_value channel history signal
  subst hsignal
  refine ⟨fun control hcontrol => ?_, fun receiver hreceiver => ?_, fun control hcontrol => ?_,
    fun control action did => changed_of_answer, fun hcancel more => run_of_cancel more hcancel,
    fun receiver hreceiver action haction => ?_⟩
  · rw [step, withControl_of_alive ((hcontrols control).2 hcontrol)]
  · obtain ⟨held, hheld⟩ := Option.isSome_iff_exists.1 ((hreceivers receiver).2 hreceiver)
    simp only [step, withReceiver, hheld]
  · have halive := (hcontrols control).2 hcontrol
    exact ⟨answer_act halive rfl, answer_act halive rfl⟩
  · rw [answer_poll hsound ((hreceivers receiver).2 hreceiver) haction, ← hattended]
    cases channel.signal <;> cases channel.isAttended <;> simp [Signal.poll, ChannelAnswer.ofPoll]

/-- A receiver that was subscribed during a pause waits until the last control is dropped. -/
example :
    unheard.answers
        [.act 0 .pause, .subscribe 0, .poll 0, .clone 0, .drop 0, .poll 0, .drop 1, .poll 0] =
      [.changed true, .index 0, .pending, .index 1, .nothing, .pending, .nothing,
        .signal .cancel] := by
  decide

end SignalChannel

end BrowserReplay
