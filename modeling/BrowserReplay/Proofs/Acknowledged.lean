import BrowserReplay.Proofs.Starting
import BrowserReplay.Rehearsal.Page
import BrowserReplay.Session

/-!
# Stops that are acknowledged

While a run is under the panel, lines and the run take their turns in any order (`Panel.order`). A
line that stops the run is heeded once the run has begun: no command is let start after that line,
and the run ends at the next boundary. What is served before the run has begun is lost, although the
panel says otherwise, and so is the end of a run when a line cannot be read.
-/

namespace BrowserReplay

/-! ### What the panel does about an input -/

namespace Panel

/-- The panel answers an input by stopping the run: a line that says so, an exit command or the end
of the input as long as lines are read, or an interrupt unless the session is about to end. -/
def Stops (panel : Panel) (watch : Watch) (input : Input) : Prop :=
  (watch.listening = true ∧
      (panel.meaning input = .command .stop ∨ panel.meaning input = .leave)) ∨
    (watch.leaving = false ∧ panel.meaning input = .interrupt)

theorem Stops.cancels {panel : Panel} {watch : Watch} {input : Input}
    (h : panel.Stops watch input) :
    .cancel ∈ (panel.respond watch (panel.meaning input)).actions ∧
      (panel.respond watch (panel.meaning input)).failure = none := by
  rcases h with ⟨hlistening, hmeaning | hmeaning⟩ | ⟨hleaving, hmeaning⟩
  · simp [hmeaning, respond, hlistening, Watch.obey, Watch.act]
  · simp [hmeaning, respond, hlistening, Watch.act]
  · simp [hmeaning, respond, hleaving, Watch.act]

/-- The ways in which the panel responds to an input during a run. -/
inductive Responds (panel : Panel) (watch : Watch) : Meaning → Response → Prop
  | ignored {meaning : Meaning} (h : meaning = .leave → watch.listening = false) :
      Responds panel watch meaning { watch }
  | unreadable (error : Text.Utf8Error) :
      Responds panel watch (.unreadable error) { watch, failure := some error }
  | refused (path : Option String) : Responds panel watch (.command (.play path))
      { watch, notices := [.complaint "A run is already in progress."] }
  | unknown (line : String) : Responds panel watch (.command (.unknown line))
      { watch, notices := [unknownCommand line] }
  | steered (command : PanelCommand) {action : SignalAction} (text : String)
      (h : action ≠ .reset) :
      Responds panel watch (.command command) (watch.act action [.message text])
  | interrupted : Responds panel watch .interrupt
      ({ watch with leaving := true : Watch }.act .cancel panel.farewells)
  | left : Responds panel watch .leave
      ({ watch with leaving := true, listening := false : Watch }.act .cancel [])

theorem responds_obey (panel : Panel) (watch : Watch) (command : PanelCommand) :
    panel.Responds watch (.command command) (watch.obey command) := by
  have huseful {action : SignalAction} (text : String) (h : action ≠ .reset) :
      panel.Responds watch (.command command) (watch.actIfUseful action (.message text)) := by
    unfold Watch.actIfUseful
    split
    · exact .steered command text h
    · exact .ignored nofun
  cases command with
  | play path => exact .refused path
  | pause => exact huseful _ nofun
  | resume => exact huseful _ nofun
  | stop => exact .steered .stop _ nofun
  | unknown line => exact .unknown line

theorem responds_respond (panel : Panel) (watch : Watch) (meaning : Meaning) :
    panel.Responds watch meaning (panel.respond watch meaning) := by
  cases meaning with
  | nothing => exact .ignored nofun
  | interrupt =>
    rw [respond]
    split
    · exact .ignored nofun
    · exact .interrupted
  | leave =>
    rw [respond]
    split
    · exact .left
    next hdeaf => exact .ignored fun _ => by simpa using hdeaf
  | command command =>
    rw [respond]
    split
    · exact responds_obey panel watch command
    · exact .ignored nofun
  | unreadable error =>
    rw [respond]
    split
    · exact .unreadable error
    · exact .ignored nofun

theorem reset_notMem_respond (panel : Panel) (watch : Watch) (meaning : Meaning) :
    .reset ∉ (panel.respond watch meaning).actions := by
  have hresponds := panel.responds_respond watch meaning
  generalize panel.respond watch meaning = response at hresponds ⊢
  cases hresponds with
  | steered command text h => simpa [Watch.act] using h.symm
  | _ => simp [Watch.act]

/-! ### Reactions -/

theorem lastWatch_cons (watch : Watch) (reaction : Reaction) (rest : List Reaction) :
    lastWatch watch (reaction :: rest) = lastWatch reaction.response.watch rest := by
  rw [lastWatch, lastWatch, List.getLast?_cons]
  cases rest.getLast? <;> rfl

/-- Each reaction is the response to its input after those before. -/
def Follows (panel : Panel) : Watch → List Reaction → Prop
  | _, [] => True
  | watch, reaction :: rest =>
    reaction.response = panel.respond watch (panel.meaning reaction.input) ∧
      Follows panel reaction.response.watch rest

theorem follows_respondAll (panel : Panel) (watch : Watch) (now : Nat) (order : List Bool)
    (inputs : List TimedInput) : panel.Follows watch (panel.respondAll watch now order inputs) := by
  induction inputs generalizing watch now order with
  | nil => exact trivial
  | cons timed rest ih =>
    rw [respondAll]
    refine ⟨rfl, ?_⟩
    split
    · exact trivial
    · exact ih _ _ _

theorem Follows.response_eq {panel : Panel} {watch : Watch} {before later : List Reaction}
    {reaction : Reaction} (h : panel.Follows watch (before ++ reaction :: later)) :
    reaction.response =
      panel.respond (lastWatch watch before) (panel.meaning reaction.input) := by
  induction before generalizing watch with
  | nil => exact h.1
  | cons first before ih =>
    rw [lastWatch_cons]
    exact ih h.2

theorem Follows.reset_notMem {panel : Panel} {watch : Watch} {reactions : List Reaction}
    (h : panel.Follows watch reactions) :
    .reset ∉ reactions.flatMap (·.response.actions) := by
  induction reactions generalizing watch with
  | nil => exact nofun
  | cons reaction rest ih =>
    obtain ⟨hresponse, hrest⟩ := h
    rw [List.flatMap_cons, List.mem_append, not_or]
    refine ⟨?_, ih hrest⟩
    rw [hresponse]
    exact panel.reset_notMem_respond watch _

theorem respondAll_response {panel : Panel} {watch : Watch} {now : Nat} {order : List Bool}
    {inputs : List TimedInput} {before later : List Reaction} {reaction : Reaction}
    (h : panel.respondAll watch now order inputs = before ++ reaction :: later) :
    reaction.response =
      panel.respond (lastWatch watch before) (panel.meaning reaction.input) := by
  have hfollows := panel.follows_respondAll watch now order inputs
  rw [h] at hfollows
  exact hfollows.response_eq

theorem pairwise_respondAll (panel : Panel) (watch : Watch) (now : Nat) (order : List Bool)
    (inputs : List TimedInput) :
    (panel.respondAll watch now order inputs).Pairwise (·.time ≤ ·.time) ∧
      ∀ reaction ∈ panel.respondAll watch now order inputs, now ≤ reaction.time := by
  induction inputs generalizing watch now order with
  | nil => exact ⟨.nil, nofun⟩
  | cons timed rest ih =>
    rw [respondAll]
    have hfirst : now ≤ max now timed.time := Nat.le_max_left now timed.time
    split
    · exact ⟨List.pairwise_singleton _ _, List.forall_mem_singleton.2 hfirst⟩
    · obtain ⟨hpairwise, hlater⟩ := ih
        (panel.respond watch (panel.meaning timed.input)).watch (max now timed.time) order.tail
      refine ⟨List.pairwise_cons.2 ⟨hlater, hpairwise⟩, List.forall_mem_cons.2 ⟨hfirst, ?_⟩⟩
      exact fun reaction hmem => Nat.le_trans hfirst (hlater reaction hmem)

/-- After a reaction that is no failure, reactions fail by a later one. -/
theorem exists_of_failure? {before after : List Reaction} {reaction : Reaction} {time : Nat}
    {error : Text.Utf8Error} (h : failure? (before ++ reaction :: after) = some (time, error))
    (hserved : reaction.response.failure = none) :
    ∃ later ∈ after, later.response.failure = some error := by
  rw [failure?, List.getLast?_append_of_ne_nil _ (List.cons_ne_nil _ _), List.getLast?_cons] at h
  cases hlast : after.getLast? with
  | none => simp [hlast, hserved] at h
  | some last =>
    refine ⟨last, List.mem_of_getLast? hlast, ?_⟩
    simp only [hlast, Option.getD_some, Option.bind_some, Option.map_eq_some_iff] at h
    obtain ⟨_, hfailed, ⟨⟩⟩ := h
    exact hfailed

/-! ### Turns -/

/-- The turn of a reaction takes over what the next one does, or is a turn of its own. -/
theorem turns_cons (reaction : Reaction) (rest : List Reaction) :
    turns (reaction :: rest) =
        ⟨reaction.time, reaction.ahead, reaction.response.actions⟩ :: turns rest ∨
      ∃ next later, turns rest = next :: later ∧ turns (reaction :: rest) =
        ⟨reaction.time, reaction.ahead, reaction.response.actions ++ next.actions⟩ ::
          { next with actions := [] } :: later := by
  rw [turns]
  cases turns rest with
  | nil => exact .inl rfl
  | cons next later =>
    dsimp only
    split
    · exact .inr ⟨next, later, rfl, rfl⟩
    · exact .inl rfl

theorem map_time_turns (reactions : List Reaction) :
    (turns reactions).map Turn.time = reactions.map Reaction.time := by
  induction reactions with
  | nil => rfl
  | cons reaction rest ih =>
    rcases turns_cons reaction rest with hown | ⟨next, later, hrest, hjoined⟩
    · simp [hown, ih]
    · rw [hrest] at ih
      simpa [hjoined] using ih

/-- All in all, the turns do what the reactions do. -/
theorem flatMap_turns (reactions : List Reaction) :
    (turns reactions).flatMap Turn.actions = reactions.flatMap (·.response.actions) := by
  induction reactions with
  | nil => rfl
  | cons reaction rest ih =>
    rcases turns_cons reaction rest with hown | ⟨next, later, hrest, hjoined⟩
    · simp [hown, ih]
    · rw [hrest] at ih
      simp [hjoined, ← ih]

/-- A reaction acts in its own turn or before. -/
theorem prefix_turns (reactions : List Reaction) (count : Nat) :
    (reactions.take count).flatMap (·.response.actions) <+:
      ((turns reactions).take count).flatMap Turn.actions := by
  induction reactions generalizing count with
  | nil => simp [turns]
  | cons reaction rest ih =>
    cases count with
    | zero => simp
    | succ count =>
      have hlater := ih count
      rcases turns_cons reaction rest with hown | ⟨next, later, hrest, hjoined⟩
      · simpa [hown] using hlater
      · rw [hrest] at hlater
        -- The next reaction acts in this turn already: a cut between the two leaves more, not less.
        cases count with
        | zero => simp [hjoined]
        | succ count => simpa [hjoined] using hlater

/-- Up to the reaction that stops the run, no turn is later than it, and one of them cancels. -/
theorem take_turns {before later : List Reaction} {reaction : Reaction}
    (hpairwise : (before ++ reaction :: later).Pairwise (·.time ≤ ·.time))
    (hcancels : .cancel ∈ reaction.response.actions) :
    let first := (turns (before ++ reaction :: later)).take (before.length + 1)
    .cancel ∈ first.flatMap Turn.actions ∧ ∀ turn ∈ first, turn.time ≤ reaction.time := by
  intro first
  have htaken : (before ++ reaction :: later).take (before.length + 1) = before ++ [reaction] := by
    rw [List.append_cons, List.take_left' (by simp)]
  constructor
  · have hprefix := prefix_turns (before ++ reaction :: later) (before.length + 1)
    rw [htaken] at hprefix
    exact hprefix.subset (by simp [hcancels])
  · intro turn hturn
    have htime : turn.time ∈ first.map Turn.time := List.mem_map_of_mem hturn
    rw [List.map_take, map_time_turns, ← List.map_take, htaken, List.mem_map] at htime
    obtain ⟨other, hother, heq⟩ := htime
    have hle : other.time ≤ reaction.time := by
      rcases List.mem_append.1 hother with hbefore | hlast
      · exact (List.pairwise_append.1 hpairwise).2.2 other hbefore reaction List.mem_cons_self
      · exact Nat.le_of_eq (congrArg Reaction.time (List.mem_singleton.1 hlast))
    exact heq ▸ hle

theorem reset_notMem_turns (panel : Panel) (watch : Watch) (now : Nat) (order : List Bool)
    (inputs : List TimedInput) :
    ∀ turn ∈ turns (panel.respondAll watch now order inputs), .reset ∉ turn.actions := by
  intro turn hturn hreset
  have hdone : .reset ∈ (turns (panel.respondAll watch now order inputs)).flatMap Turn.actions :=
    List.mem_flatMap.2 ⟨turn, hturn, hreset⟩
  rw [flatMap_turns] at hdone
  exact (panel.follows_respondAll watch now order inputs).reset_notMem hdone

end Panel

/-! ### A cancel among turns -/

theorem Signal.afterAll_of_cancel_mem (signal : Signal) {actions : List SignalAction}
    (h : .cancel ∈ actions) (hreset : .reset ∉ actions) : signal.afterAll actions = .cancel := by
  obtain ⟨before, after, rfl⟩ := List.append_of_mem h
  have hafter : .reset ∉ after := fun hmem => hreset (by simp [hmem])
  rw [afterAll_append, ← List.singleton_append, afterAll_append]
  exact (congrArg (Signal.afterAll · after) (after_cancel _)).trans (afterAll_cancel hafter)

/-- A cancel in one of the first turns dooms the signal. -/
theorem Signal.doomed_of_take {bound : Nat} {signal : Signal} {turns : List Turn} {count : Nat}
    (hreset : ∀ turn ∈ turns, .reset ∉ turn.actions)
    (hcancel : .cancel ∈ (turns.take count).flatMap Turn.actions)
    (hbound : ∀ turn ∈ turns.take count, turn.time ≤ bound) : Doomed bound signal turns := by
  induction turns generalizing signal count with
  | nil => simp at hcancel
  | cons turn rest ih =>
    cases count with
    | zero => simp at hcancel
    | succ count =>
      rw [List.take_succ_cons, List.flatMap_cons, List.mem_append] at hcancel
      rw [List.take_succ_cons, List.forall_mem_cons] at hbound
      rw [List.forall_mem_cons] at hreset
      rcases hcancel with hnow | hlater
      -- Nothing resets the signal, so it stays cancelled from the first such turn on.
      · refine .pass hbound.1 ?_
        rw [signal.afterAll_of_cancel_mem hnow hreset.1]
        exact .cancelled hreset.2
      · exact .pass hbound.1 (ih hreset.2 hlater hbound.2)

/-! ### Commands that start -/

namespace Boundary

variable {model : PageModel σ} {config : Config} {first : Boundary σ}

/-- In the run from a boundary on, a command is let start at a time, when so many turns have
passed. -/
def Starts (model : PageModel σ) (config : Config) (first : Boundary σ) (time passed : Nat) :
    Prop :=
  ∃ trace last after looked, Reaches model config first trace last ∧ last.queue ≠ [] ∧
    Run.checkpoint last.steering last.progress.index last.time = (.proceed, time, after, looked) ∧
    first.steering.upcoming.length = passed + after.upcoming.length

/-- When a command is let start, the turns that have passed leave the signal to proceed. -/
theorem Starts.passes {time passed : Nat} (h : Starts model config first time passed) :
    first.steering.signal.afterTurns (first.steering.upcoming.take passed) = .proceed := by
  obtain ⟨trace, last, after, looked, hreaches, -, hlook, hlength⟩ := h
  obtain ⟨past, hpasses, -⟩ := hreaches.passes
  have hheeds := Run.checkpoint_heeds last.steering last.progress.index last.time
  rw [hlook] at hheeds
  obtain ⟨⟨more, hmore, -⟩, -, hdecides⟩ := hheeds
  dsimp only at hmore hdecides
  have hall := hpasses.trans hmore
  have htaken : first.steering.upcoming.take passed = past ++ more := by
    rw [hall.upcoming, List.length_append] at hlength
    rw [hall.upcoming, List.take_left' (by omega)]
  rw [htaken, ← hall.signal]
  generalize after.signal = signal at hdecides
  cases hdecides with
  | proceed => rfl

/-- When a command is let start, no turn that has passed cancels. -/
theorem Starts.cancel_notMem {time passed : Nat} (h : Starts model config first time passed)
    (hreset : ∀ turn ∈ first.steering.upcoming, .reset ∉ turn.actions) :
    .cancel ∉ (first.steering.upcoming.take passed).flatMap Turn.actions := by
  intro hcancel
  have hnone : .reset ∉ (first.steering.upcoming.take passed).flatMap Turn.actions := by
    intro hmem
    obtain ⟨turn, hturn, haction⟩ := List.mem_flatMap.1 hmem
    exact hreset turn (List.mem_of_mem_take hturn) haction
  have hproceed := h.passes
  rw [Signal.afterTurns, Signal.afterAll_of_cancel_mem _ hcancel hnone] at hproceed
  cases hproceed

theorem Starts.le_of_doomed {time passed bound : Nat} (h : Starts model config first time passed)
    (hordered : first.steering.Ordered)
    (hdoomed : Signal.Doomed bound first.steering.signal first.steering.upcoming) :
    time ≤ bound := by
  obtain ⟨trace, last, after, looked, hreaches, -, hlook, -⟩ := h
  obtain ⟨past, hpasses, -⟩ := hreaches.passes
  have hheeds := Run.checkpoint_heeds last.steering last.progress.index last.time
  rw [hlook] at hheeds
  exact (hheeds.stands (hpasses.ordered hordered)).le_of_doomed (hpasses.doomed hdoomed)

/-- Every announcement of a command comes from one that was let start. -/
theorem exists_starts (model : PageModel σ) (config : Config) (first : Boundary σ) :
    ∀ start ∈ (first.run model config).trace.starts,
      ∃ passed, Starts model config first start passed := by
  intro start hstart
  obtain ⟨trace, last, after, looked, hreaches, hqueue, hlook⟩ :=
    exists_look model config first start hstart
  obtain ⟨past, hpasses, -⟩ := hreaches.passes
  have hheeds := Run.checkpoint_heeds last.steering last.progress.index last.time
  rw [hlook] at hheeds
  obtain ⟨⟨more, hmore, -⟩, -, -⟩ := hheeds
  refine ⟨past.length + more.length, trace, last, after, looked, hreaches, hqueue, hlook, ?_⟩
  rw [(hpasses.trans hmore).upcoming, List.length_append, List.length_append]

end Boundary

/-! ### Events in the trace of a session -/

namespace Trace

theorem events_cons (entry : Entry) (rest : Trace) :
    events (entry :: rest) = events [entry] ++ events rest := by
  rw [← events_append, List.singleton_append]

/-- What the notices do not show up in, they leave as it is in a run. -/
theorem filterMap_merge {shown : Entry → Option α} {run notices : Trace}
    (h : ∀ notice ∈ notices, shown notice = none) (le : Entry → Entry → Bool) :
    (run.merge notices le).filterMap shown = run.filterMap shown := by
  induction run generalizing notices with
  | nil => rw [List.nil_merge, List.filterMap_nil, List.filterMap_eq_nil_iff.2 h]
  | cons entry rest ihrun =>
    induction notices with
    | nil => rw [List.merge_right]
    | cons notice later ihnotices =>
      obtain ⟨hnotice, hlater⟩ := List.forall_mem_cons.1 h
      rw [List.cons_merge_cons]
      split
      · rw [List.filterMap_cons, ihrun h, ← List.filterMap_cons]
      · rw [List.filterMap_cons_none hnotice, ihnotices hlater]

theorem events_merge {run notices : Trace} (h : notices.events = []) (le : Entry → Entry → Bool) :
    events (run.merge notices le) = run.events :=
  filterMap_merge (List.filterMap_eq_nil_iff.1 h) le

theorem events_notices (reactions : List Panel.Reaction) :
    Trace.events (Panel.notices reactions) = [] := by
  rw [events, List.filterMap_eq_nil_iff]
  intro entry hentry
  obtain ⟨reaction, -, hentry⟩ := List.mem_flatMap.1 hentry
  obtain ⟨notice, -, rfl⟩ := List.mem_map.1 hentry
  rfl

/-- Around a run, and during it, the panel tells no event. -/
theorem events_said (lost given : List Panel.Reaction) (line : LogLine) (run : Trace) (now : Nat) :
    Trace.events (Panel.notices lost ++ ⟨now, .remark line⟩ ::
      weave now run (Panel.notices given)) = run.events := by
  rw [events_append, events_notices, List.nil_append, events_cons, weave,
    events_merge (events_notices given)]
  rfl

theorem notices_subset_said (lost given : List Panel.Reaction) (line : LogLine) (run : Trace)
    (now : Nat) : Panel.notices (lost ++ given) ⊆
      Panel.notices lost ++ ⟨now, .remark line⟩ :: weave now run (Panel.notices given) := by
  intro entry hentry
  rw [Panel.notices, List.flatMap_append] at hentry
  rcases List.mem_append.1 hentry with hbefore | hduring
  · exact List.mem_append_left _ hbefore
  · exact List.mem_append_right _ (List.mem_cons_of_mem _ (List.mem_merge.2 (.inr hduring)))

theorem starts_upTo_subset (time : Nat) (trace : Trace) :
    (upTo time trace).starts ⊆ trace.starts :=
  ((List.filter_sublist.filterMap Entry.event?).filter _ |>.map Prod.fst).subset

end Trace

/-! ### Runs under the panel -/

namespace Session

def boundary (config : Config) (script : Script) (reactions : List Panel.Reaction) (page : σ)
    (now : Nat) : Boundary σ :=
  Boundary.first config script { upcoming := Panel.turns reactions, attended := true } page now

/-- A run whose panel stops it lets no command start after that, and it comes to an end. -/
theorem run_stopped (model : PageModel σ) (config : Config) (panel : Panel) (order : List Bool)
    (watch : Panel.Watch) (script : Script) (inputs : List TimedInput) (page : σ) (now : Nat)
    {before later : List Panel.Reaction} {reaction : Panel.Reaction}
    (hreactions : panel.respondAll watch now order inputs = before ++ reaction :: later)
    (hstops : panel.Stops (Panel.lastWatch watch before) reaction.input) :
    let first := boundary config script (panel.respondAll watch now order inputs) page now
    (∀ time passed, Boundary.Starts model config first time passed →
        time ≤ reaction.time ∧ passed ≤ before.length) ∧
      ∃ report, (first.run model config).report = some report ∧
        ((∃ url, report.state = .navigating url) ∨
          (report.state = .completed ∧ report.remaining = 0) ∨
          (report.state = .cancelled ∧ 0 < report.remaining)) := by
  intro first
  have hcancels : .cancel ∈ reaction.response.actions := by
    rw [Panel.respondAll_response hreactions]
    exact hstops.cancels.1
  have hreset := panel.reset_notMem_turns watch now order inputs
  have hpairwise := (panel.pairwise_respondAll watch now order inputs).1
  have hordered : first.steering.Ordered := by
    have htimes := List.pairwise_map.2 hpairwise
    rw [← Panel.map_time_turns] at htimes
    exact List.pairwise_map.1 htimes
  have htake := Panel.take_turns (hreactions ▸ hpairwise) hcancels
  rw [← hreactions] at htake
  obtain ⟨hcancel, hbound⟩ := htake
  have hdoomed : Signal.Doomed reaction.time first.steering.signal first.steering.upcoming :=
    Signal.doomed_of_take hreset hcancel hbound
  refine ⟨fun time passed hstarts => ⟨hstarts.le_of_doomed hordered hdoomed, ?_⟩, ?_⟩
  -- Were the turn of the reaction past, its cancel would be among what has passed.
  · by_contra hlate
    have hsub : first.steering.upcoming.take (before.length + 1) <+:
        first.steering.upcoming.take passed := List.take_prefix_take_left (by omega)
    obtain ⟨turn, hturn, hmem⟩ := List.mem_flatMap.1 hcancel
    exact hstarts.cancel_notMem hreset (List.mem_flatMap.2 ⟨turn, hsub.subset hturn, hmem⟩)
  · obtain ⟨report, hreport, hends⟩ := Boundary.run_cancelled model config first hdoomed
    refine ⟨report, hreport, ?_⟩
    rcases hends with hleft | hcompleted | ⟨hcancelled, hremaining, -⟩
    · exact .inl hleft
    · exact .inr (.inl hcompleted)
    · exact .inr (.inr ⟨hcancelled, hremaining⟩)

/-- What the panel makes of a run that has begun, and of what was served until it ended. -/
inductive Leaves (config : Config) (attended : Attended σ) (played : Played σ) : Prop
  | failed {time : Nat} {error : Text.Utf8Error}
      (h : Panel.failure? attended.given = some (time, error))
      (hevents : played.trace.events = (attended.run.trace.upTo time).events)
      (hsequel : played.sequel = .ends (.error (.input error)))
  | reported {report : Report} (h : Panel.failure? attended.given = none)
      (hreport : attended.run.report = some report)
      (hevents : played.trace.events = attended.run.trace.events)
      (hnotice : ⟨played.time, .notice (reportNotice config report)⟩ ∈ played.trace)
  | stuck (h : Panel.failure? attended.given = none) (hreport : attended.run.report = none)
      (hevents : played.trace.events = attended.run.trace.events)

theorem Leaves.starts_subset {config : Config} {attended : Attended σ} {played : Played σ}
    (h : Leaves config attended played) : played.trace.starts ⊆ attended.run.trace.starts := by
  cases h with
  | @failed time _ _ hevents _ =>
    rw [Trace.starts, hevents]
    exact Trace.starts_upTo_subset time attended.run.trace
  | reported _ _ hevents _ =>
    rw [Trace.starts, hevents]
    exact List.Subset.refl _
  | stuck _ _ hevents =>
    rw [Trace.starts, hevents]
    exact List.Subset.refl _

/-- A run that begins leaves something, and all that is said about the inputs is told. -/
theorem play_leaves (model : PageModel σ) (config : Config) (panel : Panel) (order : List Bool)
    (signal : Signal) (script : Script) (inputs : List TimedInput) (page : σ) (now : Nat)
    {lost : List Panel.Reaction} {attended : Attended σ}
    (hlost : early panel order signal inputs now = lost) (hbegins : Panel.failure? lost = none)
    (hattended : attend model config panel (order.drop lost.length)
      { Panel.lastWatch { signal } lost with signal := .proceed } script
      (inputs.drop lost.length) page now = attended) :
    let played := play model config panel order signal script inputs page now
    Leaves config attended played ∧ Panel.notices (lost ++ attended.given) ⊆ played.trace := by
  obtain ⟨done, given⟩ := attended
  have hevents := Trace.events_said lost given (startRemark script)
  have hsaid := Trace.notices_subset_said lost given (startRemark script)
  simp only [play, hlost, hbegins, hattended]
  cases hfailure : Panel.failure? given with
  | some failure => exact ⟨.failed hfailure (hevents _ now) rfl, hsaid _ now⟩
  | none =>
    cases hreport : done.report with
    | none => exact ⟨.stuck hfailure hreport (hevents _ now), hsaid _ now⟩
    | some report =>
      refine ⟨.reported hfailure hreport ?_ (by simp), fun entry hentry => ?_⟩
      · rw [Trace.events_append, hevents]
        exact List.append_nil _
      · exact List.mem_append_left _ (hsaid _ now hentry)

end Session

/-- From the moment at which a run under the panel has begun, stops are heeded: once the panel has
answered an input by stopping the run, no command is let start, and in the end the panel tells that
the run is cancelled, or completed if no command was left, unless the command in flight leaves the
page. The end of the run is missed only if a line that cannot be read comes first. What is served
before the run has begun bears on how the session goes on, but not on the signal of the run. -/
theorem acknowledged_stops_are_heeded (model : PageModel σ) (config : Config) (panel : Panel)
    (order : List Bool) (signal : Signal) (script : Script) (inputs : List TimedInput) (page : σ)
    (now : Nat) :
    let lost := Session.early panel order signal inputs now
    let watch : Panel.Watch := { Panel.lastWatch { signal } lost with signal := .proceed }
    let reactions := panel.respondAll watch now (order.drop lost.length) (inputs.drop lost.length)
    let first := Session.boundary config script reactions page now
    let attended := Session.attend model config panel (order.drop lost.length) watch script
      (inputs.drop lost.length) page now
    let played := Session.play model config panel order signal script inputs page now
    Panel.failure? lost = none →
      (∀ start ∈ played.trace.starts, ∃ passed, first.Starts model config start passed) ∧
      ∀ before reaction after, attended.given = before ++ reaction :: after →
        panel.Stops (Panel.lastWatch watch before) reaction.input →
        (∀ time passed, first.Starts model config time passed →
          time ≤ reaction.time ∧ passed ≤ before.length) ∧
        (∀ start ∈ played.trace.starts, start ≤ reaction.time) ∧
        ((∃ later ∈ after, ∃ error, later.response.failure = some error ∧
            played.sequel = .ends (.error (.input error))) ∨
          ∃ report, attended.run.report = some report ∧
            ((∃ url, report.state = .navigating url) ∨
              (report.state = .completed ∧ report.remaining = 0) ∨
              (report.state = .cancelled ∧ 0 < report.remaining)) ∧
            ⟨played.time, .notice (Session.reportNotice config report)⟩ ∈ played.trace) := by
  intro lost watch reactions first attended played hbegins
  obtain ⟨hleaves, -⟩ := Session.play_leaves model config panel order signal script inputs
    page now rfl hbegins rfl
  have hstarts (start : Nat) (hstart : start ∈ played.trace.starts) :
      ∃ passed, first.Starts model config start passed :=
    Boundary.exists_starts model config first start (hleaves.starts_subset hstart)
  refine ⟨hstarts, fun before reaction after hgiven hstops => ?_⟩
  obtain ⟨rest, hrest⟩ : attended.given <+: reactions := List.take_prefix _ _
  have hreactions : reactions = before ++ reaction :: (after ++ rest) := by
    rw [← hrest, hgiven, List.append_assoc, List.cons_append]
  obtain ⟨hlate, report, hreport, hends⟩ := Session.run_stopped model config panel _ watch script _
    page now hreactions hstops
  refine ⟨hlate, fun start hstart => ?_, ?_⟩
  · obtain ⟨passed, hstarted⟩ := hstarts start hstart
    exact (hlate start passed hstarted).1
  · cases hleaves with
    | @failed time error hfailure _ hsequel =>
      rw [hgiven] at hfailure
      have hserved : reaction.response.failure = none := by
        rw [Panel.respondAll_response hreactions]
        exact hstops.cancels.2
      obtain ⟨later, hlater, herror⟩ := Panel.exists_of_failure? hfailure hserved
      exact .inl ⟨later, hlater, error, herror, hsequel⟩
    | @reported report' _ hreported _ hnotice =>
      obtain rfl : report = report' := Option.some.inj (hreport.symm.trans hreported)
      exact .inr ⟨report, hreported, hends, hnotice⟩
    | stuck _ hnone _ => cases hreport.symm.trans hnone

/-- Of two stops around three stores, the one before the run is lost and the other is heeded. -/
theorem second_stop_is_heeded :
    let script : Script := ⟨none, none, List.replicate 3 ⟨"store", some "x", some "name", [], none⟩⟩
    let stop : Input := .line [115, 116, 111, 112]
    let played := Session.play Rehearsal.respond {} {} [true] .proceed script
      [⟨0, stop⟩, ⟨900, stop⟩] {} 0
    (∀ start ∈ played.trace.starts, start ≤ 900) ∧
      ∃ report, report.state = .cancelled ∧ report.remaining = 1 ∧
        ⟨played.time, .notice (Session.reportNotice {} report)⟩ ∈ played.trace := by
  intro script stop played
  have hgiven : (Session.attend Rehearsal.respond {} {} [] {} script [⟨900, stop⟩] {} 0).given =
      [] ++ ⟨900, stop, false, ({} : Panel.Watch).obey .stop⟩ :: [] := by
    decide +kernel
  have hstops : ({} : Panel).Stops {} stop := .inl ⟨rfl, .inl (by decide +kernel)⟩
  obtain ⟨-, hheeds⟩ := acknowledged_stops_are_heeded Rehearsal.respond {} {} [true] .proceed script
    [⟨0, stop⟩, ⟨900, stop⟩] {} 0 (by decide +kernel)
  obtain ⟨-, hstarts, ⟨later, hlater, -⟩ | ⟨report, hreport, -, hnotice⟩⟩ :=
    hheeds [] ⟨900, stop, false, ({} : Panel.Watch).obey .stop⟩ [] hgiven hstops
  · cases hlater
  · have hdone : (Session.attend Rehearsal.respond {} {} [] {} script [⟨900, stop⟩] {}
        0).run.report.map (fun report => (report.state, report.remaining)) =
          some (.cancelled, 1) := by
      decide +kernel
    have hended := (congrArg (Option.map _) hreport).symm.trans hdone
    obtain ⟨hstate, hremaining⟩ := Prod.ext_iff.1 (Option.some.inj hended)
    exact ⟨hstarts, report, hstate, hremaining, hnotice⟩

/-- A stop that comes before the run is acknowledged, and the run does all its work. A stop that
comes during the run is acknowledged, and the run does not come to its end, because the next line
cannot be read. -/
theorem acknowledged_stops_are_lost :
    let script : Script := ⟨none, none, List.replicate 3 ⟨"store", some "x", some "name", [], none⟩⟩
    let stop : Input := .line [115, 116, 111, 112]
    let said : Occurrence := .notice (.message "Stopping after the current command.")
    let missed := Session.play Rehearsal.respond {} {} [true] .proceed script [⟨0, stop⟩] {} 0
    let dropped := Session.play Rehearsal.respond {} {} [] .proceed script
      [⟨900, stop⟩, ⟨910, .line [255]⟩] {} 0
    (⟨0, said⟩ ∈ missed.trace ∧ missed.trace.starts = [0, 800, 1600] ∧
        ∃ report, report.state = .completed ∧
          ⟨missed.time, .notice (Session.reportNotice {} report)⟩ ∈ missed.trace) ∧
      ⟨900, said⟩ ∈ dropped.trace ∧ dropped.trace.told.filter RunEvent.isFinish = [] ∧
        dropped.sequel = .ends (.error (.input (.invalid 0 1))) := by
  intro script stop said missed dropped
  let stopped : Panel.Response := ({} : Panel.Watch).obey .stop
  constructor
  · let attended := Session.attend Rehearsal.respond {} {} [] {} script [] {} 0
    have hlost : Session.early {} [true] .proceed [⟨0, stop⟩] 0 = [⟨0, stop, true, stopped⟩] := by
      decide +kernel
    have hattended : attended = Session.attend Rehearsal.respond {} {} [] {} script [] {} 0 := rfl
    obtain ⟨hleaves, hsaid⟩ := Session.play_leaves Rehearsal.respond {} {} [true] .proceed script
      [⟨0, stop⟩] {} 0 hlost rfl hattended.symm
    have hdone : attended.run.report.map Report.state = some .completed := by decide +kernel
    have hstarts : attended.run.trace.starts = [0, 800, 1600] := by decide +kernel
    refine ⟨hsaid List.mem_cons_self, ?_⟩
    cases hleaves with
    | failed h => cases h
    | @reported report _ hreport hevents hnotice =>
      rw [hreport] at hdone
      rw [Trace.starts, hevents]
      exact ⟨hstarts, report, Option.some.inj hdone, hnotice⟩
    | stuck _ hnone => cases hdone.symm.trans (congrArg _ hnone)
  · let given : List Panel.Reaction :=
      [⟨900, stop, false, stopped⟩,
        ⟨910, .line [255], false, { watch := stopped.watch, failure := some (.invalid 0 1) }⟩]
    let attended := Session.attend Rehearsal.respond {} {} [] {} script
      [⟨900, stop⟩, ⟨910, .line [255]⟩] {} 0
    have hgiven : attended.given = given := by decide +kernel
    have hattended : attended = Session.attend Rehearsal.respond {} {} [] {} script
      [⟨900, stop⟩, ⟨910, .line [255]⟩] {} 0 := rfl
    obtain ⟨hleaves, hsaid⟩ := Session.play_leaves Rehearsal.respond {} {} [] .proceed script
      [⟨900, stop⟩, ⟨910, .line [255]⟩] {} 0 rfl rfl hattended.symm
    rw [hgiven] at hsaid
    refine ⟨hsaid List.mem_cons_self, ?_⟩
    cases hleaves with
    | failed h hevents hsequel =>
      rw [hgiven] at h
      cases h
      rw [Trace.told, hevents]
      exact ⟨by decide +kernel, hsequel⟩
    | reported h => cases h.symm.trans (congrArg _ hgiven)
    | stuck h => cases h.symm.trans (congrArg _ hgiven)

end BrowserReplay
