import BrowserReplay.Wait
import Mathlib.Algebra.GroupWithZero.Nat

/-!
# Waits come to an end

A wait carries a bound on how often it looks, which covers its time (`Wait.le_reach_looks`): no wait
gives up before its time is up (`waitFor_notFound`). With pauses between its looks any larger bound
makes the same wait (`waitFor_eq_poll`).
-/

namespace BrowserReplay

/-- Visits that begin alike agree if they go on alike from there. -/
theorem Visit.bind_congr {first : Visit σ α} {next other : α → Visit σ β} {page : σ} {time : Nat}
    (h : let early := first page time
      next early.result early.page early.time = other early.result early.page early.time) :
    (first >>= next) page time = (first >>= other) page time := by
  rw [bind_apply, bind_apply]
  dsimp only at h ⊢
  rw [h]

namespace Wait

variable (model : PageModel σ) {options : WaitOptions} {start now : Nat}

/-- When the time is up, no look is taken, however many are left. -/
theorem poll_of_expired (hexpired : options.timeout ≤ now - start) (raw : String) (budget : Nat)
    (page : σ) :
    poll model options raw start budget page now =
      ⟨page, now, [], .error (.notFound raw (now - start))⟩ := by
  cases budget with
  | zero => rfl
  | succ budget =>
    rw [poll, Visit.bind_apply]
    simp [Visit.clock, hexpired]

/-! ### How far a bound goes -/

theorem pause_of_pos (hinterval : 0 < options.interval) (left : Nat) :
    pause options left = options.interval := by
  rw [pause, if_neg (Nat.ne_of_gt hinterval)]

theorem pace_pos (options : WaitOptions) : 0 < pace options := by
  rw [pace]
  omega

/-- How long a wait rests altogether if it takes so many looks. -/
def reach (options : WaitOptions) (budget : Nat) : Nat :=
  ((List.range budget).map (pause options)).sum

theorem reach_succ (options : WaitOptions) (budget : Nat) :
    reach options (budget + 1) = reach options budget + pause options budget := by
  simp [reach, List.range_succ]

theorem reach_of_pos (hinterval : 0 < options.interval) (budget : Nat) :
    reach options budget = budget * options.interval := by
  induction budget with
  | zero => exact (Nat.zero_mul _).symm
  | succ budget ih => rw [reach_succ, ih, pause_of_pos hinterval, Nat.succ_mul]

/-- Without pauses a millisecond goes by for every `pace` looks, the last of which may be missing. -/
theorem reach_of_zero (hinterval : options.interval = 0) (budget : Nat) :
    reach options budget = (budget + (pace options - 1)) / pace options := by
  have hpace := pace_pos options
  induction budget with
  | zero => exact (Nat.div_eq_of_lt (by omega)).symm
  | succ budget ih =>
    have hshift : budget + 1 + (pace options - 1) = budget + (pace options - 1) + 1 := by omega
    rw [reach_succ, ih, pause, if_pos hinterval, hshift, Nat.succ_div]
    have hdvd : pace options ∣ budget + (pace options - 1) + 1 ↔ budget % pace options = 0 := by
      rw [← hshift, Nat.add_assoc, Nat.add_sub_cancel' hpace, Nat.dvd_iff_mod_eq_zero,
        Nat.add_mod_right]
    simp only [hdvd]

/-- Two bounds that cover the time that is left make the same wait, if it pauses between its looks. -/
theorem poll_eq_poll (hinterval : 0 < options.interval) (hstart : start ≤ now) {budget other : Nat}
    (hbudget : options.timeout ≤ now - start + budget * options.interval)
    (hother : options.timeout ≤ now - start + other * options.interval) (raw : String) (page : σ) :
    poll model options raw start budget page now = poll model options raw start other page now := by
  induction budget generalizing other page now with
  | zero =>
    have hexpired : options.timeout ≤ now - start := by omega
    rw [poll_of_expired model hexpired, poll_of_expired model hexpired]
  | succ budget ih =>
    by_cases hexpired : options.timeout ≤ now - start
    · rw [poll_of_expired model hexpired, poll_of_expired model hexpired]
    · cases other with
      | zero => omega
      | succ other =>
        rw [poll, poll]
        refine Visit.bind_congr ?_
        dsimp only [Visit.clock]
        rw [if_neg hexpired, if_neg hexpired]
        refine Visit.bind_congr ?_
        have hlater : now ≤ (Visit.call model (.query (.parse raw)) page now).time :=
          Nat.le_add_right now _
        dsimp only
        rw [pause_of_pos hinterval, pause_of_pos hinterval]
        generalize (Visit.call model (.query (.parse raw)) page now).result = reply
        generalize (Visit.call model (.query (.parse raw)) page now).time = time at hlater ⊢
        obtain (cause : PageError) | (_ | (handle : Handle)) := reply
        · rfl
        -- A look that finds nothing takes one interval off what both bounds have to cover.
        · refine Visit.bind_congr ?_
          refine Visit.bind_congr ?_
          rw [Nat.add_mul] at hbudget hother
          show poll model options raw start budget _ (time + options.interval) =
            poll model options raw start other _ (time + options.interval)
          exact ih (by omega) (by omega) (by omega) _
        · rfl

/-- The bound on the looks of a wait covers its whole time. -/
theorem le_reach_looks (options : WaitOptions) : options.timeout ≤ reach options (looks options) := by
  rcases Nat.eq_zero_or_pos options.interval with hzero | hpos
  · rw [reach_of_zero hzero, looks, if_pos hzero, Nat.le_div_iff_mul_le (pace_pos options)]
    exact Nat.le_add_right _ _
  · rw [reach_of_pos hpos, looks, if_neg (Nat.ne_of_gt hpos), Nat.mul_comm]
    have hdivides := Nat.div_add_mod (options.timeout + options.interval - 1) options.interval
    have hrest := Nat.mod_lt (options.timeout + options.interval - 1) hpos
    omega

/-- How long a wait rests after so many looks that found nothing: an interval for each, or without
pauses a millisecond for every `pace` of them. -/
def rests (options : WaitOptions) (misses : Nat) : Nat :=
  if options.interval = 0 then misses / pace options else options.interval * misses

/-- What the first looks rest is what the others leave of the reach of the bound. -/
theorem reach_looks {misses : Nat} (h : misses ≤ looks options) :
    reach options (looks options) = reach options (looks options - misses) + rests options misses := by
  rcases Nat.eq_zero_or_pos options.interval with hzero | hpos
  · have hpace := pace_pos options
    rw [looks, if_pos hzero] at h
    rw [reach_of_zero hzero, reach_of_zero hzero, rests, if_pos hzero, looks, if_pos hzero]
    generalize pace options = pace at hpace h ⊢
    have hall : (options.timeout * pace + (pace - 1)) / pace = options.timeout :=
      Nat.div_eq_of_lt_le (by omega) (by rw [Nat.succ_mul]; omega)
    have hmisses := Nat.div_add_mod misses pace
    have hlast := Nat.mod_lt misses hpace
    have hrest : (options.timeout * pace - misses + (pace - 1)) / pace =
        options.timeout - misses / pace := by
      refine Nat.div_eq_of_lt_le ?_ ?_
      · rw [Nat.sub_mul, Nat.mul_comm (misses / pace)]
        omega
      · rw [Nat.succ_mul, Nat.sub_mul, Nat.mul_comm (misses / pace)]
        omega
    have hle : misses / pace ≤ options.timeout := Nat.div_le_of_le_mul (Nat.mul_comm _ pace ▸ h)
    omega
  · rw [reach_of_pos hpos, reach_of_pos hpos, rests, if_neg (Nat.ne_of_gt hpos), Nat.sub_mul,
      Nat.mul_comm options.interval]
    have hmore := Nat.mul_le_mul_right options.interval h
    omega

/-- When a wait is given up its time is up, also without pauses between its looks. -/
theorem poll_notFound {raw selector : String} {elapsed budget : Nat} {page : σ}
    (hstart : start ≤ now) (hbudget : options.timeout ≤ now - start + reach options budget)
    (h : (poll model options raw start budget page now).result =
      .error (.notFound selector elapsed)) :
    selector = raw ∧ elapsed = (poll model options raw start budget page now).time - start ∧
      options.timeout ≤ elapsed := by
  induction budget generalizing page now with
  | zero =>
    cases h
    exact ⟨rfl, rfl, hbudget⟩
  | succ budget ih =>
    by_cases hexpired : options.timeout ≤ now - start
    · rw [poll_of_expired model hexpired] at h ⊢
      cases h
      exact ⟨rfl, rfl, hexpired⟩
    · rw [poll, Visit.bind_apply] at h ⊢
      dsimp only [Visit.clock] at h ⊢
      rw [if_neg hexpired, Visit.bind_apply] at h ⊢
      have hlater : now ≤ (Visit.call model (.query (.parse raw)) page now).time :=
        Nat.le_add_right now _
      dsimp only at h ⊢
      generalize (Visit.call model (.query (.parse raw)) page now).result = reply at h ⊢
      generalize (Visit.call model (.query (.parse raw)) page now).time = time at hlater h ⊢
      obtain (cause : PageError) | (_ | (handle : Handle)) := reply
      · cases h
      -- The pause after a miss is what the bound now covers less.
      · rw [reach_succ] at hbudget
        have hlate : start ≤ time + pause options budget := by omega
        have hleft :
            options.timeout ≤ time + pause options budget - start + reach options budget := by
          omega
        exact ih hlate hleft h
      · cases h

end Wait

/-- A wait that gives up has lasted at least as long as it may. -/
theorem waitFor_notFound {model : PageModel σ} {options : WaitOptions} {raw selector : String}
    {page : σ} {start elapsed : Nat}
    (h : (waitFor model options raw page start).result = .error (.notFound selector elapsed)) :
    selector = raw ∧ elapsed = (waitFor model options raw page start).time - start ∧
      options.timeout ≤ elapsed :=
  Wait.poll_notFound model (Nat.le_refl start)
    (Nat.le_trans (Wait.le_reach_looks options) (Nat.le_add_left _ _)) h

/-- A wait with pauses between its looks is over before its bound ends it. -/
theorem waitFor_eq_poll (model : PageModel σ) {options : WaitOptions}
    (hinterval : 0 < options.interval) {budget : Nat} (hbudget : Wait.looks options ≤ budget)
    (raw : String) (page : σ) (start : Nat) :
    waitFor model options raw page start = Wait.poll model options raw start budget page start := by
  have hlooks := Wait.le_reach_looks options
  rw [Wait.reach_of_pos hinterval] at hlooks
  have hmore := Nat.mul_le_mul_right options.interval hbudget
  rw [waitFor, Visit.bind_apply]
  exact Wait.poll_eq_poll model hinterval (Nat.le_refl start) (by omega) (by omega) raw page

end BrowserReplay
