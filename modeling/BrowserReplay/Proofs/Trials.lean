import BrowserReplay.Proofs.Alike
import BrowserReplay.Proofs.Performed
import BrowserReplay.Proofs.Waiting

/-!
# Candidates are tried in order

A search waits for its candidates one after the other, each on the page that the wait before has left.
`Trial.series` lists the waits that there would be for all candidates. What a search makes of them is
told by those up to the first that succeeds, or by all of them if none does
(`candidates_are_tried_in_order`).
-/

namespace BrowserReplay

theorem Table.Waited.asks {selector : Selector} {records : List CallRecord} {found : Option Handle}
    (h : Waited selector records found) : ∀ record ∈ records, record.1 = .query selector := by
  induction h with
  | timedOut => exact List.forall_mem_nil _
  | found handle => exact List.forall_mem_singleton.2 rfl
  | failed error => exact List.forall_mem_singleton.2 rfl
  | again h ih => exact List.forall_mem_cons.2 ⟨rfl, ih⟩

/-- A wait for a candidate, with the page and the time at which it begins. -/
structure Trial (σ : Type) where
  raw : String
  page : σ
  start : Nat

namespace Trial

variable (model : PageModel σ) (options : WaitOptions)

def visit (trial : Trial σ) : Visited σ (Except WaitError Handle) :=
  waitFor model options trial.raw trial.page trial.start

def elapsed (trial : Trial σ) : Nat := (trial.visit model options).time - trial.start

/-- The waits for candidates, each from where the one before has left off. -/
def series : List String → (page : σ) → (start : Nat) → List (Trial σ)
  | [], _, _ => []
  | raw :: rest, page, start =>
    let trial : Trial σ := ⟨raw, page, start⟩
    let wait := trial.visit model options
    trial :: series rest wait.page wait.time

/-- What is left of the waits that were made, begun on some page at some time. -/
structure Made (page : σ) (start : Nat) (made : List (Trial σ)) (search : Visited σ Search) :
    Prop where
  trace : search.trace = made.flatMap fun trial => (trial.visit model options).trace
  /-- Nothing else is asked for than the candidates of these waits. -/
  asks : ∀ call ∈ search.trace.calls, ∃ trial ∈ made, call.2.1 = .query (.parse trial.raw)
  page : search.page =
    (made.getLast?.map fun trial => (trial.visit model options).page).getD page
  time : search.time = start + (made.map (elapsed model options)).sum
  attempted : search.result.attempted = made.map raw

theorem map_raw_series (candidates : List String) (page : σ) (start : Nat) :
    (series model options candidates page start).map raw = candidates := by
  induction candidates generalizing page start with
  | nil => rfl
  | cons selector rest ih => rw [series, List.map_cons, ih]

theorem start_le (trial : Trial σ) : trial.start ≤ (trial.visit model options).time := by
  have hwait := waitFor_alike (.identity model) trial.start options trial.raw trial.page trial.page 0
    rfl
  rw [Nat.zero_add] at hwait
  rw [visit, hwait.time]
  exact Nat.le_add_left _ _

variable {model options}

/-- A wait asks for nothing but its candidate. -/
theorem asks_visit (trial : Trial σ) :
    ∀ call ∈ (trial.visit model options).trace.calls, call.2.1 = .query (.parse trial.raw) :=
  fun _ hcall => (Wait.poll_waited model options trial.raw trial.start _ trial.page
    trial.start).1.asks _ (List.mem_map_of_mem hcall)

namespace Made

variable {page : σ} {start : Nat}

theorem nil : Made model options page start [] ⟨page, start, [], ⟨none, [], []⟩⟩ :=
  ⟨rfl, nofun, rfl, rfl, rfl⟩

/-- One wait more in front, whatever is said to be found and to have failed. -/
theorem cons {trial : Trial σ} {made : List (Trial σ)} {later : Visited σ Search}
    (h : Made model options (trial.visit model options).page (trial.visit model options).time made
      later) (found : Option Located) (failures : List WaitError) :
    Made model options trial.page trial.start (trial :: made)
      ⟨later.page, later.time, (trial.visit model options).trace ++ later.trace,
        ⟨found, trial.raw :: later.result.attempted, failures⟩⟩ where
  trace := by rw [h.trace, List.flatMap_cons]
  asks := by
    intro call hcall
    rw [Trace.calls_append, List.mem_append] at hcall
    rcases hcall with hcall | hcall
    · exact ⟨trial, List.mem_cons_self, trial.asks_visit call hcall⟩
    · obtain ⟨other, hother, hasks⟩ := h.asks call hcall
      exact ⟨other, List.mem_cons_of_mem trial hother, hasks⟩
  page := by
    rw [h.page, List.getLast?_cons]
    cases made.getLast? <;> rfl
  time := by
    have hle := trial.start_le model options
    rw [h.time, List.map_cons, List.sum_cons, elapsed]
    omega
  attempted := by rw [h.attempted, List.map_cons]

end Made

end Trial

variable {model : PageModel σ} {options : WaitOptions} {trial : Trial σ}

theorem tryCandidates_of_found {handle : Handle}
    (h : (trial.visit model options).result = .ok handle) (position : Nat) (rest : List String) :
    let wait := trial.visit model options
    tryCandidates model options position (trial.raw :: rest) trial.page trial.start =
      ⟨wait.page, wait.time, wait.trace ++ [],
        ⟨some ⟨handle, trial.raw, position⟩, [trial.raw], []⟩⟩ := by
  rw [Trial.visit] at h
  rw [tryCandidates, Visit.bind_apply]
  dsimp only
  rw [h]
  rfl

theorem tryCandidates_of_failed {failure : WaitError}
    (h : (trial.visit model options).result = .error failure) (position : Nat)
    (rest : List String) :
    let wait := trial.visit model options
    let later := tryCandidates model options (position + 1) rest wait.page wait.time
    tryCandidates model options position (trial.raw :: rest) trial.page trial.start =
      ⟨later.page, later.time, wait.trace ++ later.trace,
        ⟨later.result.found, trial.raw :: later.result.attempted,
          failure :: later.result.failures⟩⟩ := by
  rw [Trial.visit] at h
  rw [tryCandidates, Visit.bind_apply]
  dsimp only
  rw [h]
  simp only [Visit.bind_apply, Visit.pure_apply, List.append_nil]
  rfl

/-- A search makes the waits up to the first that succeeds, or all of them if none does. -/
theorem tryCandidates_made (model : PageModel σ) (options : WaitOptions)
    (candidates : List String) (position : Nat) (page : σ) (start : Nat) :
    let search := tryCandidates model options position candidates page start
    ∃ failed left, Trial.series model options candidates page start = failed ++ left ∧
      failed.map (fun trial => (trial.visit model options).result) =
        search.result.failures.map .error ∧
      match left with
      | [] => search.result.found = none ∧ Trial.Made model options page start failed search
      | trial :: _ => ∃ handle, (trial.visit model options).result = .ok handle ∧
          search.result.found = some ⟨handle, trial.raw, position + failed.length⟩ ∧
          Trial.Made model options page start (failed ++ [trial]) search := by
  -- The rest is searched from where the first wait has left off, one position further.
  induction candidates generalizing position page start with
  | nil => exact ⟨[], [], rfl, rfl, rfl, .nil⟩
  | cons raw rest ih =>
    let trial : Trial σ := ⟨raw, page, start⟩
    let wait := trial.visit model options
    cases hresult : (trial.visit model options).result with
    | ok handle =>
      have hnothing : Trial.Made model options wait.page wait.time [] ⟨_, _, _, _⟩ := .nil
      have hsearch := tryCandidates_of_found hresult position rest
      dsimp only [trial] at hsearch ⊢
      rw [hsearch]
      exact ⟨[], trial :: Trial.series model options rest wait.page wait.time, rfl, rfl, handle,
        hresult, rfl, hnothing.cons _ _⟩
    | error failure =>
      obtain ⟨failed, left, hseries, hfailures, hleft⟩ := ih (position + 1) wait.page wait.time
      have hsearch := tryCandidates_of_failed hresult position rest
      dsimp only [trial] at hsearch ⊢
      rw [hsearch]
      refine ⟨trial :: failed, left, ?_, ?_, ?_⟩
      · exact congrArg (trial :: ·) hseries
      · rw [List.map_cons, List.map_cons, hfailures]
        exact congrArg (· :: _) hresult
      · cases left with
        | nil => exact ⟨hleft.1, hleft.2.cons _ _⟩
        | cons found left =>
          obtain ⟨handle, hhandle, hfound, hmade⟩ := hleft
          refine ⟨handle, hhandle, hfound.trans ?_, hmade.cons _ _⟩
          rw [List.length_cons, Nat.add_assoc, Nat.add_comm 1]

/-- A search waits for the selector and then the fallbacks of its target, as recorded and with their
placeholders replaced. The first whose wait succeeds is found, and none is asked for after that; what
was wrong with those before it is kept in order. If no wait succeeds, all have been tried. Each of the
waits is a whole one: with pauses between its looks the bound on them does not cut it short. -/
theorem candidates_are_tried_in_order (model : PageModel σ) (options : WaitOptions)
    (vars : Variables) (target : Target) (page : σ) (start : Nat) :
    let candidates := target.candidates vars
    let trials := Trial.series model options candidates page start
    let search := locate model options vars target page start
    let result (trial : Trial σ) := (trial.visit model options).result
    candidates = (target.primary.map fun raw => Template.substitute vars (some raw)).getD "" ::
      target.fallbacks.map (fun raw => Template.substitute vars (some raw)) ∧
    trials.map Trial.raw = candidates ∧
    (∀ (p : Nat) trial handle, trials[p]? = some trial → result trial = .ok handle →
      (∀ earlier ∈ trials.take p, ∃ failure, result earlier = .error failure) →
      search.result.found = some ⟨handle, trial.raw, p⟩ ∧
      search.result.failures.map .error = (trials.take p).map result ∧
      Trial.Made model options page start (trials.take (p + 1)) search) ∧
    ((∀ trial ∈ trials, ∃ failure, result trial = .error failure) →
      search.result.found = none ∧ search.result.attempted = candidates ∧
      search.result.failures.map .error = trials.map result ∧
      Trial.Made model options page start trials search) ∧
    (0 < options.interval → ∀ trial ∈ trials, ∀ budget, Wait.looks options ≤ budget →
      Wait.poll model options trial.raw trial.start budget trial.page trial.start =
        trial.visit model options) := by
  intro candidates trials search result
  have hraw : trials.map Trial.raw = candidates := Trial.map_raw_series model options _ page start
  obtain ⟨failed, left, hseries, hfailures, hleft⟩ :=
    tryCandidates_made model options candidates 0 page start
  have htrials : trials = failed ++ left := hseries
  have hfailed : ∀ trial ∈ failed, ∃ failure, result trial = .error failure := by
    intro trial hmem
    have hresult : result trial ∈ search.result.failures.map .error :=
      hfailures ▸ List.mem_map_of_mem hmem
    obtain ⟨failure, -, hfailure⟩ := List.mem_map.1 hresult
    exact ⟨failure, hfailure.symm⟩
  refine ⟨?_, hraw, fun p trial handle hp hok hearlier => ?_, fun hall => ?_,
    fun hinterval trial _ budget hbudget => ?_⟩
  · show List.map _ _ = _
    rw [List.map_cons, List.map_map]
    cases target.primary <;> rfl
  · cases left with
    | nil =>
      rw [htrials, List.append_nil] at hp
      obtain ⟨failure, hfailure⟩ := hfailed trial (List.mem_of_getElem? hp)
      cases hfailure.symm.trans hok
    | cons found rest =>
      obtain ⟨handle', hok', hfound, hmade⟩ := hleft
      -- The first success stands neither before nor after the place that is asked about.
      rcases Nat.lt_trichotomy p failed.length with hlt | rfl | hgt
      · rw [htrials, List.getElem?_append_left hlt] at hp
        obtain ⟨failure, hfailure⟩ := hfailed trial (List.mem_of_getElem? hp)
        cases hfailure.symm.trans hok
      · rw [htrials, List.getElem?_append_right (Nat.le_refl _), Nat.sub_self] at hp
        cases hp
        cases hok.symm.trans hok'
        rw [Nat.zero_add] at hfound
        refine ⟨hfound, ?_, ?_⟩
        · rw [htrials, List.take_left]
          exact hfailures.symm
        · rw [htrials, List.take_length_add_append]
          exact hmade
      · have hplace : (trials.take p)[failed.length]? = some found := by
          rw [List.getElem?_take_of_lt hgt, htrials, List.getElem?_append_right (Nat.le_refl _),
            Nat.sub_self]
          rfl
        obtain ⟨failure, hfailure⟩ := hearlier found (List.mem_of_getElem? hplace)
        cases hfailure.symm.trans hok'
  · cases left with
    | nil =>
      obtain rfl : trials = failed := htrials.trans (List.append_nil failed)
      exact ⟨hleft.1, hleft.2.attempted.trans hraw, hfailures.symm, hleft.2⟩
    | cons found rest =>
      obtain ⟨handle, hok, -⟩ := hleft
      obtain ⟨failure, hfailure⟩ := hall found (by rw [htrials]; simp)
      cases hfailure.symm.trans hok
  · exact (waitFor_eq_poll model hinterval hbudget trial.raw trial.page trial.start).symm

end BrowserReplay
