import BrowserReplay.Proofs.Visit
import BrowserReplay.Proofs.Waiting
import BrowserReplay.Rehearsal.Page
import Mathlib.Algebra.Order.Floor.Div

/-!
# When a wait looks

A wait looks at its page at once and then once per interval, for as long as the page has not been
asked longer than the time allows. Here the page answers at once, so the looks of a wait stand at the
multiples of the interval: the first answer that is not a miss ends it, and if there is none, it ends
at the first multiple that is no less than the time (`waits_look_once_per_interval`).
-/

namespace BrowserReplay

namespace Wait

section

variable (model : PageModel σ) (raw : String) (page : σ)

def pageAfter : Nat → σ
  | 0 => page
  | k + 1 => (model (pageAfter k) (.query (.parse raw))).page

def answer (k : Nat) : Except PageError (Option Handle) :=
  (model (pageAfter model raw page k) (.query (.parse raw))).reply

/-- The first looks, one per interval, with their answers. -/
def firstLooks (interval start count : Nat) : List (Nat × CallRecord) :=
  (List.range count).map fun k =>
    (start + k * interval, ⟨.query (.parse raw), answer model raw page k⟩)

/-- A wait that has looked so often, once per interval, and came to a result at some time. -/
structure Polled (interval start count : Nat) (wait : Visited σ (Except WaitError Handle))
    (time : Nat) (result : Except WaitError Handle) : Prop where
  calls : wait.trace.calls = firstLooks model raw page interval start count
  page : wait.page = pageAfter model raw page count
  time : wait.time = time
  result : wait.result = result

end

variable {model : PageModel σ} {options : WaitOptions} {raw : String} {page : σ} {start now : Nat}

/-- What an answer makes of a wait. After a miss it goes on. -/
def settle? (raw : String) : Except PageError (Option Handle) → Option (Except WaitError Handle)
  | .ok none => none
  | .ok (some handle) => some (.ok handle)
  | .error cause => some (.error (.unresolved raw cause))

theorem poll_of_miss (hdue : now - start < options.timeout)
    (hinstant : (model page (.query (.parse raw))).elapsed = 0)
    (hmiss : (model page (.query (.parse raw))).reply = .ok none) (budget : Nat) :
    poll model options raw start (budget + 1) page now =
      (poll model options raw start budget (model page (.query (.parse raw))).page
        (now + pause options budget)).after
        [⟨now, .call (.query (.parse raw)) (.ok none)⟩,
          ⟨now, .remark ⟨.debug, "Selector " ++ raw ++ " not found yet, polling again"⟩⟩] := by
  rw [poll, Visit.bind_apply]
  dsimp only [Visit.clock]
  rw [if_neg (Nat.not_le.2 hdue), Visit.bind_apply]
  dsimp only [Visit.call]
  rw [hmiss, hinstant]
  rfl

theorem poll_of_settled (hdue : now - start < options.timeout)
    (hinstant : (model page (.query (.parse raw))).elapsed = 0) {result : Except WaitError Handle}
    (hsettled : settle? raw (model page (.query (.parse raw))).reply = some result)
    (budget : Nat) :
    poll model options raw start (budget + 1) page now =
      ⟨(model page (.query (.parse raw))).page, now,
        [⟨now, .call (.query (.parse raw)) (model page (.query (.parse raw))).reply⟩], result⟩ := by
  rw [poll, Visit.bind_apply]
  dsimp only [Visit.clock]
  rw [if_neg (Nat.not_le.2 hdue), Visit.bind_apply]
  dsimp only [Visit.call]
  rw [hinstant]
  generalize model page (.query (.parse raw)) = response at hsettled ⊢
  obtain ⟨after, (cause : PageError) | (_ | (handle : Handle)), elapsed⟩ := response
  all_goals cases hsettled
  all_goals rfl

section

variable (hinstant : ∀ k, (model (pageAfter model raw page k) (.query (.parse raw))).elapsed = 0)
include hinstant

/-- The rounds in which nothing is found. -/
theorem poll_after_misses (hinterval : 0 < options.interval) (start : Nat) {count : Nat}
    (hdue : ∀ k < count, k * options.interval < options.timeout)
    (hmiss : ∀ k < count, answer model raw page k = .ok none) (budget : Nat) :
    ∃ early : Trace, early.calls = firstLooks model raw page options.interval start count ∧
      poll model options raw start (count + budget) page start =
        (poll model options raw start budget (pageAfter model raw page count)
          (start + count * options.interval)).after early := by
  -- The last round is taken off, so that all rounds count from the one start of the wait.
  induction count generalizing budget with
  | zero =>
    rw [Nat.zero_add, Nat.zero_mul, Nat.add_zero]
    exact ⟨[], rfl, rfl⟩
  | succ count ih =>
    obtain ⟨early, hearly, hrounds⟩ := ih (fun k hk => hdue k (Nat.lt_succ_of_lt hk))
      (fun k hk => hmiss k (Nat.lt_succ_of_lt hk)) (budget + 1)
    have hcount := Nat.lt_succ_self count
    have hnow : start + count * options.interval - start < options.timeout := by
      rw [Nat.add_sub_cancel_left]
      exact hdue count hcount
    rw [poll_of_miss hnow (hinstant count) (hmiss count hcount), pause_of_pos hinterval,
      Nat.add_assoc start, ← Nat.succ_mul, Visited.after_after, ← Nat.add_assoc,
      Nat.add_right_comm] at hrounds
    refine ⟨_, ?_, hrounds⟩
    rw [Trace.calls_append, hearly, firstLooks, firstLooks, List.range_succ, List.map_append,
      List.map_singleton, hmiss count hcount]
    rfl

end

theorem looks_eq_ceilDiv (hinterval : 0 < options.interval) :
    looks options = options.timeout ⌈/⌉ options.interval := by
  rw [looks, if_neg hinterval.ne', Nat.ceilDiv_eq_add_pred_div]

theorem lt_looks_iff (hinterval : 0 < options.interval) {k : Nat} :
    k < options.timeout ⌈/⌉ options.interval ↔ k * options.interval < options.timeout := by
  rw [← not_le, ceilDiv_le_iff_le_mul hinterval, not_le, Nat.mul_comm]

end Wait

/-- A wait looks once per interval until an answer is not a miss, or until its time is up: then it
has looked as often as the interval goes into the time, rounded up. The bound on its looks has no part
in that. -/
theorem waits_look_once_per_interval (model : PageModel σ) (options : WaitOptions) (raw : String)
    (page : σ) (start : Nat) (hinterval : 0 < options.interval)
    (hinstant : ∀ k, (model (Wait.pageAfter model raw page k) (.query (.parse raw))).elapsed = 0) :
    let looks := options.timeout ⌈/⌉ options.interval
    let wait := waitFor model options raw page start
    let polled := Wait.Polled model raw page options.interval start
    (∀ k < looks, (∀ j < k, Wait.answer model raw page j = .ok none) →
      ∀ result, Wait.settle? raw (Wait.answer model raw page k) = some result →
        polled (k + 1) wait (start + k * options.interval) result) ∧
    ((∀ k < looks, Wait.answer model raw page k = .ok none) →
      polled looks wait (start + looks * options.interval)
        (.error (.notFound raw (looks * options.interval)))) ∧
    (0 < options.timeout → options.timeout ≤ looks * options.interval ∧
      looks * options.interval < options.timeout + options.interval) ∧
    (options.timeout = 0 → wait.trace.calls = []) ∧
    ∀ budget, looks ≤ budget → Wait.poll model options raw start budget page start = wait := by
  intro looks wait polled
  have hlooks : Wait.looks options = looks := Wait.looks_eq_ceilDiv hinterval
  have hwait : wait = Wait.poll model options raw start looks page start := by
    rw [← hlooks]
    rfl
  have hdue {k : Nat} (hk : k < looks) : k * options.interval < options.timeout :=
    (Wait.lt_looks_iff hinterval).1 hk
  have hcovers : options.timeout ≤ looks * options.interval := by
    rw [← hlooks, ← Wait.reach_of_pos hinterval]
    exact Wait.le_reach_looks options
  refine ⟨fun k hk hmiss result hresult => ?_, fun hmiss => ?_, fun hpos => ⟨hcovers, ?_⟩,
    fun hzero => ?_, fun budget hbudget => ?_⟩
  · -- After `k` misses the bound allows one more look, and the time is not yet up.
    obtain ⟨budget, hbudget⟩ := Nat.exists_eq_add_of_lt hk
    have hnow : start + k * options.interval - start < options.timeout := by
      rw [Nat.add_sub_cancel_left]
      exact hdue hk
    obtain ⟨early, hearly, hrounds⟩ := Wait.poll_after_misses hinstant hinterval start
      (fun j hj => hdue (hj.trans hk)) hmiss (budget + 1)
    rw [Wait.poll_of_settled hnow (hinstant k) hresult budget, ← Nat.add_assoc, ← hbudget, ← hwait]
      at hrounds
    rw [hrounds]
    refine ⟨?_, rfl, rfl, rfl⟩
    rw [Visited.after, Trace.calls_append, hearly, Wait.firstLooks, Wait.firstLooks,
      List.range_succ, List.map_append]
    rfl
  · obtain ⟨early, hearly, hrounds⟩ :=
      Wait.poll_after_misses hinstant hinterval start (fun k => hdue) hmiss 0
    rw [Nat.add_zero, ← hwait, Wait.poll_of_expired model (by omega), Nat.add_sub_cancel_left]
      at hrounds
    rw [hrounds]
    refine ⟨?_, rfl, rfl, rfl⟩
    rw [Visited.after, List.append_nil]
    exact hearly
  · -- One interval before the end the time was not yet up.
    have hfirst : 0 < looks := (Wait.lt_looks_iff hinterval).2 (by omega)
    obtain ⟨last, hlast⟩ := Nat.exists_eq_succ_of_ne_zero hfirst.ne'
    have hlate := hdue (hlast ▸ Nat.lt_succ_self last)
    rw [hlast, Nat.succ_mul]
    omega
  · rw [hwait, Wait.poll_of_expired model (hzero.trans_le (Nat.zero_le _))]
    rfl
  · exact (waitFor_eq_poll model hinterval (hlooks.trans_le hbudget) raw page start).symm

theorem Rehearsal.query_elapsed (page : Page) (selector : Selector) :
    (respond page (.query selector)).elapsed = 0 := by
  simp only [respond]
  rcases page.refused.lookup selector with _ | error
  · rcases page.fault? (.of (.query selector)) with _ | fault <;> rfl
  · rfl

/-- Here the element appears after three looks. -/
theorem late_element_is_found :
    let page : Rehearsal.Page :=
      { elements := [{ selector := .parse "css=#late", handle := 1, misses := 3 }] }
    let wait := waitFor Rehearsal.respond {} "css=#late" page 200
    wait.time = 1100 ∧ wait.trace.calls.map Prod.fst = [200, 500, 800, 1100] ∧
      wait.result = .ok 1 := by
  intro page wait
  obtain ⟨hfound, -⟩ := waits_look_once_per_interval Rehearsal.respond {} "css=#late" page 200
    (by decide) fun k => Rehearsal.query_elapsed _ _
  obtain ⟨hcalls, -, htime, hresult⟩ := hfound 3 (by decide) (by decide) (.ok 1) (by decide)
  refine ⟨htime, ?_, hresult⟩
  rw [hcalls]
  rfl

end BrowserReplay
