import BrowserReplay.Proofs.Acknowledged

/-!
# How long the panel listens

During a run the panel reads lines until one of them leaves, or until one cannot be read. Whoever
leaves cancels the run, and nothing takes that back; afterwards no line acts on the signal any more.
So a signal never ends up paused once the input has ended (`Panel.afterAll_ne_pause`), and a run
under the panel comes to an end.
-/

namespace BrowserReplay

namespace Panel

variable {panel : Panel} {watch : Watch}

/-- When no line is read any more, the session ends with the run. -/
def Watch.Settled (watch : Watch) : Prop := watch.listening = false → watch.leaving = true

/-- Whoever ends the reading of lines cancels the run, and then the session ends with it. -/
theorem respond_watch (panel : Panel) (watch : Watch) (meaning : Meaning) :
    let response := panel.respond watch meaning
    (watch.Settled → response.watch.Settled) ∧
      (response.watch.listening = watch.listening ∨
        response.watch.listening = false ∧ .cancel ∈ response.actions) ∧
      (meaning = .leave → response.watch.listening = false) := by
  dsimp only
  have hresponds := panel.responds_respond watch meaning
  generalize panel.respond watch meaning = response at hresponds ⊢
  cases hresponds with
  | ignored h => exact ⟨id, .inl rfl, h⟩
  | interrupted => exact ⟨fun _ _ => rfl, .inl rfl, nofun⟩
  | left => exact ⟨fun _ _ => rfl, .inr ⟨rfl, List.mem_cons_self⟩, fun _ => rfl⟩
  | _ => exact ⟨id, .inl rfl, nofun⟩

/-- Where no line is read any more, nothing acts on the signal. -/
theorem respond_deaf (hsettled : watch.Settled) (hdeaf : watch.listening = false)
    (meaning : Meaning) : panel.respond watch meaning = { watch } := by
  have hleaving := hsettled hdeaf
  cases meaning <;> simp [respond, hdeaf, hleaving]

/-! ### Reactions in a row -/

theorem Follows.take {reactions : List Reaction} (h : panel.Follows watch reactions) (count : Nat) :
    panel.Follows watch (reactions.take count) := by
  induction reactions generalizing watch count with
  | nil => rw [List.take_nil]; exact trivial
  | cons reaction rest ih =>
    cases count with
    | zero => exact trivial
    | succ count => exact ⟨h.1, ih h.2 count⟩

theorem failure?_cons {reaction : Reaction} (h : reaction.response.failure = none)
    (rest : List Reaction) : failure? (reaction :: rest) = failure? rest := by
  cases rest with
  | nil => simp [failure?, h]
  | cons next rest => rw [failure?, List.getLast?_cons_cons, failure?]

/-- The inputs of reactions are the first ones, and all of them unless a line could not be read. -/
theorem input_respondAll (panel : Panel) (watch : Watch) (now : Nat) (order : List Bool)
    (inputs : List TimedInput) :
    (panel.respondAll watch now order inputs).map Reaction.input <+: inputs.map TimedInput.input ∧
      (failure? (panel.respondAll watch now order inputs) = none →
        (panel.respondAll watch now order inputs).map Reaction.input =
          inputs.map TimedInput.input) := by
  induction inputs generalizing watch now order with
  | nil => exact ⟨List.prefix_rfl, fun _ => rfl⟩
  | cons timed rest ih =>
    rw [respondAll]
    split
    next hfailed =>
      refine ⟨List.cons_prefix_cons.2 ⟨rfl, List.nil_prefix⟩, fun hnone => ?_⟩
      obtain ⟨error, herror⟩ := Option.isSome_iff_exists.1 hfailed
      simp [failure?, herror] at hnone
    next hserved =>
      obtain ⟨hfirst, hall⟩ := ih (panel.respond watch (panel.meaning timed.input)).watch
        (max now timed.time) order.tail
      refine ⟨List.cons_prefix_cons.2 ⟨rfl, hfirst⟩, fun hnone => ?_⟩
      have hfailure : (panel.respond watch (panel.meaning timed.input)).failure = none := by
        simpa using hserved
      rw [failure?_cons hfailure] at hnone
      rw [List.map_cons, List.map_cons, hall hnone]

/-- Somebody leaves: the input ends or an exit command is typed. -/
def Leaves (panel : Panel) (inputs : List Input) : Prop :=
  ∃ input ∈ inputs, panel.meaning input = .leave

theorem Follows.settled {reactions : List Reaction} (h : panel.Follows watch reactions)
    (hsettled : watch.Settled) : (lastWatch watch reactions).Settled := by
  induction reactions generalizing watch with
  | nil => exact hsettled
  | cons reaction rest ih =>
    obtain ⟨hresponse, hrest⟩ := h
    rw [lastWatch_cons]
    refine ih hrest ?_
    rw [hresponse]
    exact (respond_watch panel watch _).1 hsettled

/-- Once somebody has left, no line is read any more. -/
theorem Follows.deaf {reactions : List Reaction} (h : panel.Follows watch reactions)
    (hleaves : watch.listening = false ∨ panel.Leaves (reactions.map Reaction.input)) :
    (lastWatch watch reactions).listening = false := by
  induction reactions generalizing watch with
  | nil =>
    rcases hleaves with hdeaf | ⟨_, hmem, _⟩
    · exact hdeaf
    · cases hmem
  | cons reaction rest ih =>
    obtain ⟨hresponse, hrest⟩ := h
    obtain ⟨-, hkeeps, hleave⟩ := respond_watch panel watch (panel.meaning reaction.input)
    rw [← hresponse] at hkeeps hleave
    rw [lastWatch_cons]
    apply ih hrest
    rcases hleaves with hdeaf | ⟨input, hmem, hmeaning⟩
    · rw [hdeaf] at hkeeps
      exact .inl (hkeeps.elim id And.left)
    · rcases List.mem_cons.1 hmem with rfl | hmem
      · exact .inl (hleave hmeaning)
      · exact .inr ⟨input, hmem, hmeaning⟩

theorem Follows.actions_eq_nil {reactions : List Reaction} (h : panel.Follows watch reactions)
    (hsettled : watch.Settled) (hdeaf : watch.listening = false) :
    reactions.flatMap (·.response.actions) = [] := by
  induction reactions generalizing watch with
  | nil => rfl
  | cons reaction rest ih =>
    obtain ⟨hresponse, hrest⟩ := h
    rw [respond_deaf hsettled hdeaf] at hresponse
    rw [hresponse] at hrest
    rw [List.flatMap_cons, ih hrest hsettled hdeaf, hresponse]
    rfl

/-- Whoever leaves while lines are read cancels the run. -/
theorem Follows.cancel_mem {reactions : List Reaction} (h : panel.Follows watch reactions)
    (hlistening : watch.listening = true)
    (hleaves : panel.Leaves (reactions.map Reaction.input)) :
    .cancel ∈ reactions.flatMap (·.response.actions) := by
  induction reactions generalizing watch with
  | nil =>
    obtain ⟨_, hmem, _⟩ := hleaves
    cases hmem
  | cons reaction rest ih =>
    obtain ⟨hresponse, hrest⟩ := h
    obtain ⟨input, hmem, hmeaning⟩ := hleaves
    obtain ⟨-, hkeeps, hleave⟩ := respond_watch panel watch (panel.meaning reaction.input)
    rw [← hresponse, hlistening] at hkeeps
    rw [← hresponse] at hleave
    rw [List.flatMap_cons, List.mem_append]
    rcases hkeeps with hlistens | ⟨-, hcancel⟩
    · -- The reading goes on, so it is somebody later who leaves.
      rcases List.mem_cons.1 hmem with rfl | hmem
      · rw [hleave hmeaning] at hlistens
        cases hlistens
      · exact .inr (ih hrest hlistens ⟨input, hmem, hmeaning⟩)
    · exact .inl hcancel

/-- When somebody leaves, the signal of the run does not end up paused. -/
theorem Follows.afterAll_ne_pause {reactions : List Reaction} (h : panel.Follows watch reactions)
    (hsettled : watch.Settled)
    (hleaves : watch.listening = false ∨ panel.Leaves (reactions.map Reaction.input)) :
    Signal.proceed.afterAll (reactions.flatMap (·.response.actions)) ≠ .pause := by
  cases hlistening : watch.listening with
  | false =>
    rw [h.actions_eq_nil hsettled hlistening]
    exact nofun
  | true =>
    rw [hlistening] at hleaves
    have hcancel := h.cancel_mem hlistening (hleaves.resolve_left nofun)
    rw [Signal.afterAll_of_cancel_mem _ hcancel h.reset_notMem]
    exact nofun

/-! ### Serving the first of the inputs -/

/-- Reactions to the first of some inputs, from a time on. -/
structure Serves (panel : Panel) (watch : Watch) (now : Nat) (inputs : List TimedInput)
    (reactions : List Reaction) : Prop where
  follows : panel.Follows watch reactions
  first : reactions.map Reaction.input <+: inputs.map TimedInput.input
  later : ∀ reaction ∈ reactions, now ≤ reaction.time

theorem serves_respondAll (panel : Panel) (watch : Watch) (now : Nat) (order : List Bool)
    (inputs : List TimedInput) :
    panel.Serves watch now inputs (panel.respondAll watch now order inputs) where
  follows := panel.follows_respondAll watch now order inputs
  first := (panel.input_respondAll watch now order inputs).1
  later := (panel.pairwise_respondAll watch now order inputs).2

namespace Serves

variable {now : Nat} {inputs : List TimedInput} {reactions : List Reaction}

theorem take (h : panel.Serves watch now inputs reactions) (count : Nat) :
    panel.Serves watch now inputs (reactions.take count) where
  follows := h.follows.take count
  first := ((List.take_prefix count reactions).map Reaction.input).trans h.first
  later reaction hmem := h.later reaction (List.mem_of_mem_take hmem)

theorem le_of_failure? (h : panel.Serves watch now inputs reactions) {time : Nat}
    {error : Text.Utf8Error} (hfailure : failure? reactions = some (time, error)) : now ≤ time := by
  obtain ⟨reaction, hlast, hfailed⟩ := Option.bind_eq_some_iff.1 hfailure
  obtain ⟨_, -, heq⟩ := Option.map_eq_some_iff.1 hfailed
  cases heq
  exact h.later reaction (List.mem_of_getLast? hlast)

/-- Whoever leaves does so among the inputs that are served, or among those after them. -/
theorem leaves_or (h : panel.Serves watch now inputs reactions)
    (hleaves : watch.listening = false ∨ panel.Leaves (inputs.map TimedInput.input)) :
    (lastWatch watch reactions).listening = false ∨
      panel.Leaves ((inputs.drop reactions.length).map TimedInput.input) := by
  obtain ⟨rest, hrest⟩ := h.first
  have hdrop : (inputs.drop reactions.length).map TimedInput.input = rest := by
    rw [List.map_drop, ← hrest, List.drop_left' (List.length_map _)]
  rcases hleaves with hdeaf | ⟨input, hmem, hmeaning⟩
  · exact .inl (h.follows.deaf (.inl hdeaf))
  · rw [← hrest] at hmem
    rcases List.mem_append.1 hmem with hserved | hlater
    · exact .inl (h.follows.deaf (.inr ⟨input, hserved, hmeaning⟩))
    · exact .inr ⟨input, hdrop ▸ hlater, hmeaning⟩

end Serves

end Panel

end BrowserReplay
