import BrowserReplay.Proofs.Listening

/-!
# Inputs that a run leaves

A run under the panel reads some of the inputs and leaves the others for later. What it does depends
on those that it reads and on their order, and on nothing else: with other inputs behind them, which
come no earlier than the ones that it has left, it does the same, and leaves the other ones instead
(`Session.start_unserved`).

The comparison is made for turns first. A look lets turns pass from the front, so turns behind the
ones that have passed matter only through the time at which the first of them comes
(`Run.drain_followedBy`).
-/

namespace BrowserReplay

/-! ### Turns that do not pass -/

theorem Turn.isBefore_mono {turn : Turn} {now later : Nat} (h : turn.isBefore now = true)
    (hle : now ≤ later) : turn.isBefore later = true := by
  simp only [isBefore, Bool.or_eq_true, Bool.and_eq_true, decide_eq_true_eq, beq_iff_eq] at h ⊢
  rcases h with hearlier | ⟨hahead, hnow⟩
  · exact .inl (Nat.lt_of_lt_of_le hearlier hle)
  · exact (Nat.lt_or_eq_of_le hle).imp (hnow ▸ ·) fun hsame => ⟨hahead, hnow.trans hsame⟩

/-- The first of some turns does not come before what a run does at a time. -/
def Outlook.Await (now : Nat) (turns : List Turn) : Prop :=
  ∀ turn ∈ turns.head?, turn.isBefore now = false

theorem Outlook.Await.mono {now later : Nat} {turns : List Turn} (h : Await later turns)
    (hle : now ≤ later) : Await now turns := by
  intro turn hturn
  by_contra hbefore
  rw [Bool.not_eq_false] at hbefore
  have hlater := Turn.isBefore_mono hbefore hle
  rw [h turn hturn] at hlater
  cases hlater

def Steering.followedBy (more : List Turn) (steering : Steering) : Steering :=
  { steering with upcoming := steering.upcoming ++ more }

def Outlook.PauseEnd.followedBy (more : List Turn) (ended : PauseEnd) : PauseEnd :=
  { ended with upcoming := ended.upcoming ++ more }

namespace Outlook

theorem catchUp_append {now : Nat} {more : List Turn} (h : Await now more) (signal : Signal)
    (turns : List Turn) :
    catchUp now signal (turns ++ more) =
      ((catchUp now signal turns).1, (catchUp now signal turns).2 ++ more) := by
  induction turns generalizing signal with
  | nil =>
    cases more with
    | nil => rfl
    | cons turn rest =>
      simp [catchUp, h turn rfl]
  | cons turn rest ih =>
    rw [List.cons_append, catchUp, catchUp]
    split
    · exact ih _
    · rfl

theorem Await.of_catchUp (now : Nat) (signal : Signal) (turns : List Turn) :
    Await now (catchUp now signal turns).2 := by
  induction turns generalizing signal with
  | nil => exact nofun
  | cons turn rest ih =>
    rw [catchUp]
    split
    · exact ih _
    next hbefore =>
      rintro _ ⟨⟩
      exact Bool.eq_false_iff.2 hbefore

/-- Turns that are still to come at the end of a pause have nothing to do with it. -/
theorem awaitEnd_append {late : List Turn} (hlate : late ≠ []) (late' : List Turn) (attended : Bool)
    (now : Nat) (signal : Signal) (turns : List Turn)
    (h : late.length ≤ (awaitEnd attended now signal (turns ++ late)).upcoming.length) :
    ∃ ended : PauseEnd, awaitEnd attended now signal (turns ++ late) = ended.followedBy late ∧
      awaitEnd attended now signal (turns ++ late') = ended.followedBy late' := by
  induction turns generalizing now signal with
  | nil =>
    cases signal with
    | proceed =>
      exact ⟨⟨.proceed, now, .proceed, []⟩, by cases late <;> rfl, by cases late' <;> rfl⟩
    | cancel =>
      exact ⟨⟨.cancel, now, .cancel, []⟩, by cases late <;> rfl, by cases late' <;> rfl⟩
    | pause =>
      obtain ⟨turn, rest, rfl⟩ := List.exists_cons_of_ne_nil hlate
      -- A pause lets the first of the turns pass.
      obtain ⟨-, past, hpast, -⟩ := awaitEnd_passes attended (max now turn.time)
        (Signal.pause.afterAll turn.actions) rest
      have hlength := congrArg List.length hpast
      rw [List.length_append] at hlength
      rw [List.nil_append, awaitEnd, List.length_cons] at h
      omega
  | cons turn rest ih =>
    cases signal with
    | proceed => exact ⟨⟨.proceed, now, .proceed, turn :: rest⟩, rfl, rfl⟩
    | cancel => exact ⟨⟨.cancel, now, .cancel, turn :: rest⟩, rfl, rfl⟩
    | pause => exact ih _ _ h

end Outlook

theorem Steering.catchUp_followedBy {now : Nat} {more : List Turn} (h : Outlook.Await now more)
    (steering : Steering) :
    (steering.followedBy more).catchUp now = (steering.catchUp now).followedBy more := by
  simp only [catchUp, followedBy, Outlook.catchUp_append h]

namespace Run

/-- Turns that are still to come after a look have nothing to do with it. -/
theorem checkpoint_followedBy {late late' : List Turn} (hlate : late ≠ []) {steering : Steering}
    {now : Nat} (hawait : Outlook.Await now late) (hawait' : Outlook.Await now late') (index : Nat)
    (h : late.length ≤
      (checkpoint (steering.followedBy late) index now).2.2.1.upcoming.length) :
    ∃ clearance later after looked,
      checkpoint (steering.followedBy late) index now =
        (clearance, later, Steering.followedBy late after, looked) ∧
      checkpoint (steering.followedBy late') index now =
        (clearance, later, Steering.followedBy late' after, looked) := by
  unfold checkpoint at h ⊢
  rw [Steering.catchUp_followedBy hawait] at h ⊢
  rw [Steering.catchUp_followedBy hawait']
  generalize steering.catchUp now = caught at h ⊢
  obtain ⟨signal, turns, attended⟩ := caught
  cases signal with
  | proceed => exact ⟨_, _, ⟨.proceed, turns, attended⟩, _, rfl, rfl⟩
  | cancel => exact ⟨_, _, ⟨.cancel, turns, attended⟩, _, rfl, rfl⟩
  | pause =>
    obtain ⟨ended, hended, hended'⟩ :=
      Outlook.awaitEnd_append hlate late' attended now .pause turns h
    simp only [Steering.followedBy, hended, hended']
    exact ⟨_, _, ⟨ended.signal, ended.upcoming, attended⟩, _, rfl, rfl⟩

variable (model : PageModel σ) (config : Config)

/-- The turns that pass in a run come until its end. -/
theorem drain_passes (queue : List Command) (progress : Progress) (steering : Steering) (page : σ)
    (time : Nat) :
    let done := drain model config queue progress steering page time
    ∃ past, steering.Passes past done.steering ∧ ∀ turn ∈ past, turn.time ≤ done.time := by
  induction queue generalizing progress steering page time with
  | nil => exact ⟨[], ⟨rfl, rfl, rfl⟩, nofun⟩
  | cons command rest ih =>
    rcases hlook : checkpoint steering progress.index time with ⟨clearance, later, after, looked⟩
    obtain ⟨past, hpasses, hpast⟩ := (checkpoint_heeds steering progress.index time).passes
    rw [hlook] at hpasses hpast
    rw [drain, hlook]
    cases clearance with
    | never => exact ⟨past, hpasses, hpast⟩
    | cancel => exact ⟨past, hpasses, hpast⟩
    | proceed =>
      have hvisit := le_perform_time model config progress.vars progress.index command page later
      dsimp only at hpasses hpast ⊢
      generalize perform model config progress.vars progress.index command page later = visit at *
      have hpast : ∀ turn ∈ past, turn.time ≤ visit.time := fun turn hturn =>
        Nat.le_trans (hpast turn hturn) hvisit
      cases hdeparture : departure? config visit.result.1 with
      | some url => exact ⟨past, hpasses, hpast⟩
      | none =>
        obtain ⟨more, hmore, hlate⟩ := ih (advance progress visit) after visit.page
          (visit.time + config.timing.commandDelay)
        have hle := le_drain_time model config rest (advance progress visit) after visit.page
          (visit.time + config.timing.commandDelay)
        refine ⟨past ++ more, hpasses.trans hmore, fun turn hturn => ?_⟩
        rcases List.mem_append.1 hturn with hfirst | hthen
        · exact Nat.le_trans (hpast turn hfirst) (Nat.le_trans (Nat.le_add_right _ _) hle)
        · exact hlate turn hthen

theorem length_drain_upcoming (queue : List Command) (progress : Progress) (steering : Steering)
    (page : σ) (time : Nat) :
    (drain model config queue progress steering page time).steering.upcoming.length ≤
      steering.upcoming.length := by
  obtain ⟨past, hpasses, -⟩ := drain_passes model config queue progress steering page time
  rw [hpasses.upcoming, List.length_append]
  exact Nat.le_add_left _ _

/-- A run does not depend on turns that are still to come at its end. -/
theorem drain_followedBy {late late' : List Turn} (hlate : late ≠ []) (queue : List Command)
    (progress : Progress) (steering : Steering) (page : σ) (time : Nat)
    (hleft : late.length ≤ (drain model config queue progress (steering.followedBy late) page
      time).steering.upcoming.length)
    (hawait : Outlook.Await
      (drain model config queue progress (steering.followedBy late) page time).time late)
    (hawait' : Outlook.Await
      (drain model config queue progress (steering.followedBy late) page time).time late') :
    ∃ last : Steering,
      (drain model config queue progress (steering.followedBy late) page time).steering =
        last.followedBy late ∧
      drain model config queue progress (steering.followedBy late') page time =
        { drain model config queue progress (steering.followedBy late) page time with
          steering := last.followedBy late' } := by
  induction queue generalizing progress steering page time with
  | nil => exact ⟨steering, rfl, rfl⟩
  | cons command rest ih =>
    have hnow := le_drain_time model config (command :: rest) progress (steering.followedBy late)
      page time
    rcases hlook : checkpoint (steering.followedBy late) progress.index time with
      ⟨clearance, later, after, looked⟩
    have hafter : late.length ≤ after.upcoming.length := by
      refine Nat.le_trans hleft ?_
      rw [drain, hlook]
      cases clearance with
      | never => exact Nat.le_refl _
      | cancel => exact Nat.le_refl _
      | proceed =>
        dsimp only
        split
        · exact Nat.le_refl _
        · exact length_drain_upcoming model config rest _ after _ _
    obtain ⟨_, _, last, _, hthis, hother⟩ := checkpoint_followedBy hlate (hawait.mono hnow)
      (hawait'.mono hnow) progress.index (by rw [hlook]; exact hafter)
    obtain ⟨⟩ := hlook.symm.trans hthis
    rw [drain, hlook] at hleft hawait hawait' ⊢
    rw [drain, hother]
    cases clearance with
    | never => exact ⟨last, rfl, rfl⟩
    | cancel => exact ⟨last, rfl, rfl⟩
    | proceed =>
      dsimp only at hleft hawait hawait' ⊢
      generalize perform model config progress.vars progress.index command page later = visit at *
      cases hdeparture : departure? config visit.result.1 with
      | some url => exact ⟨last, rfl, rfl⟩
      | none =>
        rw [hdeparture] at hleft hawait hawait'
        obtain ⟨final, hfinal, hrun⟩ := ih ⟨visit.result.2, progress.index + 1,
          count progress.tally visit.result.1⟩ last visit.page
          (visit.time + config.timing.commandDelay) hleft hawait hawait'
        dsimp only
        rw [hrun]
        exact ⟨final, hfinal, rfl⟩

end Run

/-! ### Reactions -/

namespace Panel

/-- The first reactions are those to the first inputs. -/
theorem take_respondAll (panel : Panel) (watch : Watch) (now : Nat) (order : List Bool)
    (first rest : List TimedInput) :
    (panel.respondAll watch now order (first ++ rest)).take first.length =
      panel.respondAll watch now order first := by
  induction first generalizing watch now order with
  | nil => rfl
  | cons timed first ih =>
    rw [List.cons_append, respondAll, respondAll, List.length_cons, List.take_succ_cons]
    split
    · rw [List.take_nil]
    · rw [ih]

/-- As long as every line can be read, what comes next is served from where the others have left. -/
theorem respondAll_append (panel : Panel) (watch : Watch) (now : Nat) (order : List Bool)
    (first : List TimedInput) (h : failure? (panel.respondAll watch now order first) = none) :
    ∃ watch' now', now ≤ now' ∧
      (∀ reaction ∈ panel.respondAll watch now order first, reaction.time ≤ now') ∧
      ∀ rest, panel.respondAll watch now order (first ++ rest) =
        panel.respondAll watch now order first ++
          panel.respondAll watch' now' (order.drop first.length) rest := by
  induction first generalizing watch now order with
  | nil => exact ⟨watch, now, Nat.le_refl now, nofun, fun rest => rfl⟩
  | cons timed first ih =>
    rw [respondAll] at h ⊢
    have hserved : (panel.respond watch (panel.meaning timed.input)).failure = none := by
      by_contra hfailed
      obtain ⟨error, herror⟩ := Option.ne_none_iff_exists'.1 hfailed
      simp [failure?, herror] at h
    rw [hserved, Option.isSome_none, if_neg Bool.false_ne_true] at h ⊢
    rw [failure?_cons hserved] at h
    obtain ⟨watch', now', hnow, hpast, hrest⟩ := ih _ _ _ h
    refine ⟨watch', now', Nat.le_trans (Nat.le_max_left _ _) hnow,
      List.forall_mem_cons.2 ⟨hnow, hpast⟩, fun rest => ?_⟩
    rw [List.cons_append, respondAll, hserved, Option.isSome_none, if_neg Bool.false_ne_true,
      hrest rest, List.drop_tail]
    rfl

/-- A turn comes when its reaction does. -/
theorem map_turns (reactions : List Reaction) :
    (turns reactions).map (fun turn => (turn.time, turn.ahead)) =
      reactions.map fun reaction => (reaction.time, reaction.ahead) := by
  induction reactions with
  | nil => rfl
  | cons reaction rest ih =>
    rcases turns_cons reaction rest with hown | ⟨next, later, hrest, hjoined⟩
    · simp [hown, ih]
    · rw [hrest] at ih
      simpa [hjoined] using ih

@[simp] theorem length_turns (reactions : List Reaction) :
    (turns reactions).length = reactions.length := by
  simpa using congrArg List.length (map_turns reactions)

/-- The first turn comes when the first reaction does. -/
theorem head?_turns (reactions : List Reaction) :
    (turns reactions).head?.map (fun turn => (turn.time, turn.ahead)) =
      reactions.head?.map fun reaction => (reaction.time, reaction.ahead) := by
  rw [← List.head?_map, ← List.head?_map, map_turns]

/-- A reaction that does not act together with the next one makes a turn of its own. -/
theorem turns_cons_of_apart {reaction : Reaction} {rest : List Reaction}
    (h : ∀ next ∈ rest.head?, next.ahead = true → next.time ≠ reaction.time) :
    turns (reaction :: rest) =
      ⟨reaction.time, reaction.ahead, reaction.response.actions⟩ :: turns rest := by
  have hkey := head?_turns rest
  rw [turns]
  cases hturns : turns rest with
  | nil => rfl
  | cons turn later =>
    rw [hturns] at hkey
    obtain ⟨next, hnext, hnexts⟩ := Option.map_eq_some_iff.1 hkey.symm
    have hapart : (turn.ahead && turn.time == reaction.time) = false := by
      obtain ⟨htime, hahead⟩ := Prod.mk.inj hnexts
      rw [← htime, ← hahead, Bool.and_eq_false_imp, beq_eq_false_iff_ne]
      exact h next hnext
    dsimp only
    rw [hapart, if_neg Bool.false_ne_true]

/-- Later reactions make turns of their own if the first of them does not act together with the one
before. -/
theorem turns_append (reactions later : List Reaction)
    (h : ∀ last ∈ reactions.getLast?, ∀ next ∈ later.head?, next.ahead = true →
      next.time ≠ last.time) :
    turns (reactions ++ later) = turns reactions ++ turns later := by
  induction reactions with
  | nil => rfl
  | cons reaction rest ih =>
    cases rest with
    | nil => exact turns_cons_of_apart (h reaction rfl)
    | cons second rest =>
      have hrest := ih (by rwa [List.getLast?_cons_cons] at h)
      have hsome : turns (second :: rest) ≠ [] := by
        intro hnone
        have hlength := length_turns (second :: rest)
        rw [hnone] at hlength
        cases hlength
      rw [List.cons_append, turns, turns, hrest]
      obtain ⟨next, others, hturns⟩ := List.exists_cons_of_ne_nil hsome
      rw [hturns, List.cons_append]
      dsimp only
      split <;> rfl

/-- Where some turns have passed until a time and the others await it, no turn that has passed takes
over what the first of the others does. -/
theorem apart_of_passed {reactions later : List Reaction} {past left : List Turn} {time : Nat}
    (hturns : turns (reactions ++ later) = past ++ left) (hlength : left.length = later.length)
    (hpast : ∀ turn ∈ past, turn.time ≤ time) (hleft : Outlook.Await time left) :
    ∀ last ∈ reactions.getLast?, ∀ next ∈ later.head?, next.ahead = true →
      next.time ≠ last.time := by
  have hkeys := map_turns (reactions ++ later)
  rw [hturns, List.map_append, List.map_append] at hkeys
  obtain ⟨hpassed, hawaits⟩ := List.append_inj' hkeys (by simpa using hlength)
  intro last hlast next hnext hahead hsame
  obtain ⟨turn, hturn, hlasts⟩ : ∃ turn ∈ past, turn.time = last.time := by
    have hmem := List.mem_map_of_mem (f := fun reaction : Reaction =>
      (reaction.time, reaction.ahead)) (List.mem_of_getLast? hlast)
    rw [← hpassed] at hmem
    obtain ⟨turn, hturn, hkey⟩ := List.mem_map.1 hmem
    exact ⟨turn, hturn, congrArg Prod.fst hkey⟩
  have hhead := congrArg List.head? hawaits
  rw [List.head?_map, List.head?_map, hnext] at hhead
  obtain ⟨first, hfirst, hkey⟩ := Option.map_eq_some_iff.1 hhead
  obtain ⟨htime, hfirsts⟩ := Prod.mk.inj hkey
  -- The first of the others would have passed as well.
  have hawait := hleft first hfirst
  have hpassed := hpast turn hturn
  simp only [Turn.isBefore, hfirsts, hahead, Bool.true_and, Bool.or_eq_false_iff,
    decide_eq_false_iff_not, beq_eq_false_iff_ne] at hawait
  omega

def steering (reactions : List Reaction) : Steering :=
  { upcoming := turns reactions, attended := true }

/-- Of two lists of reactions the second one begins like the first one, but no earlier. -/
def Follow (reactions others : List Reaction) : Prop :=
  ∀ other ∈ others.head?, ∃ reaction ∈ reactions.head?,
    reaction.ahead = other.ahead ∧ reaction.time ≤ other.time

theorem Follow.await {reactions others : List Reaction} (h : Follow reactions others) {now : Nat}
    (hawait : Outlook.Await now (turns reactions)) : Outlook.Await now (turns others) := by
  intro turn hturn
  have hkey := head?_turns others
  rw [hturn] at hkey
  obtain ⟨other, hother, hothers⟩ := Option.map_eq_some_iff.1 hkey.symm
  obtain ⟨reaction, hreaction, hahead, hle⟩ := h other hother
  have hfirst := head?_turns reactions
  rw [hreaction] at hfirst
  obtain ⟨first, hmem, hfirsts⟩ := Option.map_eq_some_iff.1 hfirst
  obtain ⟨htime, hturns⟩ := Prod.mk.inj hothers
  obtain ⟨htime', hturns'⟩ := Prod.mk.inj hfirsts
  have hbefore := hawait first hmem
  simp only [Turn.isBefore, Bool.or_eq_false_iff, decide_eq_false_iff_not, Bool.and_eq_false_imp,
    beq_eq_false_iff_ne] at hbefore ⊢
  refine ⟨by omega, fun hturn' => ?_⟩
  have hapart := hbefore.2 (by rw [hturns', hahead, hturns, hturn'])
  omega

/-- A run does not depend on the reactions that it leaves. -/
theorem run_unserved (model : PageModel σ) (config : Config) (script : Script) (page : σ)
    (now : Nat) {given left left' : List Reaction} (hfollow : Follow left left')
    (hordered : ∀ reaction ∈ given, ∀ next ∈ left.head?, reaction.time ≤ next.time)
    (hleft : let done := run model config script (steering (given ++ left)) page now
      (done.steering.catchUp done.time).upcoming.length = left.length) :
    let done := run model config script (steering (given ++ left)) page now
    ∃ other, run model config script (steering (given ++ left')) page now =
        { done with steering := other } ∧
      (other.catchUp done.time).upcoming.length = left'.length := by
  by_cases hnone : left = []
  · subst hnone
    have hnone' : left' = [] := List.head?_eq_none_iff.1 (Option.eq_none_iff_forall_not_mem.2
      fun other hother => by obtain ⟨_, hmem, _⟩ := hfollow other hother; cases hmem)
    rw [hnone']
    exact ⟨_, rfl, hleft⟩
  obtain ⟨queue, hqueue⟩ : ∃ queue, Command.ofScript config.keys script = queue := ⟨_, rfl⟩
  simp only [run, hqueue] at hleft ⊢
  obtain ⟨done, hdone⟩ : ∃ done, Run.drain model config queue {} (steering (given ++ left)) page
    now = done := ⟨_, rfl⟩
  rw [hdone] at hleft ⊢
  dsimp only [Run.after] at hleft ⊢
  -- Some turns have passed at the end of the run, and the others await it.
  obtain ⟨past, hpasses, hpast⟩ :=
    Run.drain_passes model config queue {} (steering (given ++ left)) page now
  rw [hdone] at hpasses hpast
  obtain ⟨more, hmore, hlate, -⟩ := done.steering.passes_catchUp done.time
  have hall := (hpasses.trans hmore).upcoming
  have hawait : Outlook.Await done.time (done.steering.catchUp done.time).upcoming :=
    .of_catchUp done.time done.steering.signal done.steering.upcoming
  have hapart := apart_of_passed hall hleft
    (fun turn hturn => (List.mem_append.1 hturn).elim (hpast turn) (hlate turn)) hawait
  have hturns := turns_append given left hapart
  have hturns' : turns (given ++ left') = turns given ++ turns left' := by
    refine turns_append given left' fun last hlast other hother hahead hsame => ?_
    obtain ⟨next, hnext, haheads, hle⟩ := hfollow other hother
    have hbehind := hordered last (List.mem_of_getLast? hlast) next hnext
    exact hapart last hlast next hnext (haheads.trans hahead) (by omega)
  obtain ⟨-, hcaught⟩ := List.append_inj' (hall.symm.trans hturns)
    (hleft.trans (length_turns left).symm)
  rw [hcaught] at hawait
  have hsome : turns left ≠ [] := by
    rwa [← List.length_pos_iff, length_turns, List.length_pos_iff]
  have hdone' : Run.drain model config queue {} ((steering given).followedBy (turns left)) page
      now = done := by
    rw [← hdone, steering, steering, hturns]
    rfl
  have hlength : (turns left).length ≤ done.steering.upcoming.length := by
    rw [← hcaught, hmore.upcoming, List.length_append]
    exact Nat.le_add_left _ _
  have hawait' : Outlook.Await done.time (turns left') := hfollow.await hawait
  obtain ⟨last, hlast, hrun⟩ := Run.drain_followedBy model config hsome queue {} (steering given)
    page now (hdone'.symm ▸ hlength) (hdone'.symm ▸ hawait) (hdone'.symm ▸ hawait')
  rw [hdone'] at hlast hrun
  have hother : steering (given ++ left') = (steering given).followedBy (turns left') := by
    rw [steering, steering, hturns']
    rfl
  have hpassed : (last.catchUp done.time).upcoming = [] := by
    rw [hlast, Steering.catchUp_followedBy hawait] at hcaught
    exact List.append_left_eq_self.1 hcaught
  refine ⟨last.followedBy (turns left'), by rw [hother, hrun], ?_⟩
  rw [Steering.catchUp_followedBy (hfollow.await hawait), Steering.followedBy, hpassed,
    List.nil_append, length_turns]

/-- Of two lists of inputs the second one begins no earlier than the first one. -/
def NoEarlier (inputs others : List TimedInput) : Prop :=
  ∀ other ∈ others.head?, ∃ timed ∈ inputs.head?, timed.time ≤ other.time

theorem NoEarlier.follow {inputs others : List TimedInput} (h : NoEarlier inputs others)
    (panel : Panel) (watch : Watch) (now : Nat) (order : List Bool) :
    Follow (panel.respondAll watch now order inputs) (panel.respondAll watch now order others) := by
  intro reaction hreaction
  cases others with
  | nil => cases hreaction
  | cons other others =>
    cases inputs with
    | nil => obtain ⟨_, hmem, _⟩ := h other rfl; cases hmem
    | cons timed rest =>
      obtain ⟨_, ⟨⟩, hle⟩ := h other rfl
      cases hreaction
      refine ⟨_, rfl, rfl, Nat.max_le.2 ⟨Nat.le_max_left _ _, ?_⟩⟩
      exact Nat.le_trans hle (Nat.le_max_right _ _)

end Panel

namespace Session

open Panel

section Attend

variable (model : PageModel σ) (config : Config) (panel : Panel) (order : List Bool)
  (watch : Panel.Watch) (script : Script) (page : σ) (now : Nat)

/-- What the panel serves during a run are the inputs that the run does not leave. -/
theorem attend_given (inputs : List TimedInput) :
    let attended := attend model config panel order watch script inputs page now
    let reactions := panel.respondAll watch now order inputs
    attended.given = reactions.take attended.given.length ∧
      attended.given.length + (attended.run.steering.catchUp attended.run.time).upcoming.length =
        reactions.length := by
  intro attended reactions
  obtain ⟨more, hmore, -⟩ := attended.run.steering.passes_catchUp attended.run.time
  have hupcoming := Run.length_drain_upcoming model config (Command.ofScript config.keys script) {}
    (steering reactions) page now
  have hrun : attended.run.steering.upcoming.length ≤ reactions.length :=
    Nat.le_trans hupcoming (Nat.le_of_eq (length_turns reactions))
  rw [hmore.upcoming, List.length_append] at hrun
  have hgiven : attended.given = reactions.take (reactions.length -
      (attended.run.steering.catchUp attended.run.time).upcoming.length) := rfl
  rw [hgiven, List.length_take]
  exact ⟨List.take_eq_take_min, by omega⟩

/-- A run does not depend on the inputs that it leaves. -/
theorem attend_unserved {served left left' : List TimedInput} (hleft : NoEarlier left left')
    (hserved : (attend model config panel order watch script (served ++ left) page now).given.length
      = served.length)
    (hread : failure?
      (attend model config panel order watch script (served ++ left) page now).given = none) :
    ∃ other, attend model config panel order watch script (served ++ left') page now =
      let attended := attend model config panel order watch script (served ++ left) page now
      ⟨{ attended.run with steering := other }, attended.given⟩ := by
  obtain ⟨hgiven, hlength⟩ :=
    attend_given model config panel order watch script page now (served ++ left)
  rw [hserved, take_respondAll] at hgiven
  rw [hgiven] at hread hserved
  obtain ⟨watch', now', -, hpast, hmore⟩ := panel.respondAll_append watch now order served hread
  have hfollow := hleft.follow panel watch' now' (order.drop served.length)
  rw [hmore, List.length_append, hgiven, Nat.add_right_inj] at hlength
  have hordered : ∀ reaction ∈ panel.respondAll watch now order served,
      ∀ next ∈ (panel.respondAll watch' now' (order.drop served.length) left).head?,
        reaction.time ≤ next.time := fun reaction hreaction next hnext =>
    Nat.le_trans (hpast reaction hreaction)
      ((panel.pairwise_respondAll watch' now' _ left).2 next (List.mem_of_mem_head? hnext))
  have hheld (rest : List TimedInput) :
      (attend model config panel order watch script (served ++ rest) page now).run =
        run model config script (steering (panel.respondAll watch now order served ++
          panel.respondAll watch' now' (order.drop served.length) rest)) page now := by
    rw [← hmore]
    rfl
  rw [hheld] at hlength
  obtain ⟨other, hrun, hother⟩ := run_unserved model config script page now hfollow hordered hlength
  refine ⟨other, ?_⟩
  obtain ⟨htaken, htotal⟩ :=
    attend_given model config panel order watch script page now (served ++ left')
  rw [hheld, hrun, hother, hmore, List.length_append] at htotal
  rw [hmore, Nat.add_right_cancel htotal, List.take_left] at htaken
  dsimp only
  rw [hheld left, hgiven, ← hrun, ← hheld, ← htaken]

end Attend

/-! ### Plays and starts -/

/-- The first inputs that are there by a time do not depend on what comes behind them. -/
theorem take_takeWhile_unserved {now : Nat} {served left left' : List TimedInput}
    (hleft : NoEarlier left left') (count : Nat)
    (h : (((served ++ left).takeWhile (·.time ≤ now)).take count).length ≤ served.length) :
    ((served ++ left').takeWhile (·.time ≤ now)).take count =
      ((served ++ left).takeWhile (·.time ≤ now)).take count := by
  induction served generalizing count with
  | nil =>
    have hnone := List.length_eq_zero_iff.1 (Nat.le_zero.1 h)
    rw [hnone]
    cases left' with
    | nil => exact List.take_nil
    | cons other others =>
      obtain ⟨timed, htimed, hle⟩ := hleft other rfl
      obtain ⟨rest, rfl⟩ := List.head?_eq_some_iff.1 htimed
      rcases List.take_eq_nil_iff.1 hnone with hzero | hlate
      · rw [hzero, List.take_zero]
      · have htimed : ¬timed.time ≤ now := fun hthere => by simp [hthere] at hlate
        have hother : ¬other.time ≤ now := by omega
        simp [hother]
  | cons timed served ih =>
    rw [List.cons_append, List.takeWhile_cons] at h ⊢
    rw [List.cons_append, List.takeWhile_cons]
    split
    next hthere =>
      rw [if_pos hthere] at h
      cases count with
      | zero => rfl
      | succ count =>
        rw [List.take_succ_cons, List.take_succ_cons, ih count (by simpa using h)]
    · rfl

/-- What is served before a run begins does not depend on the inputs that are left. -/
theorem early_unserved {panel : Panel} {order : List Bool} {signal : Signal} {now : Nat}
    {served left left' : List TimedInput} (hleft : NoEarlier left left')
    (hread : failure? (early panel order signal (served ++ left) now) = none)
    (hserved : (early panel order signal (served ++ left) now).length ≤ served.length) :
    early panel order signal (served ++ left') now =
      early panel order signal (served ++ left) now := by
  have hinputs := congrArg List.length ((panel.input_respondAll { signal } now order _).2 hread)
  rw [List.length_map, List.length_map] at hinputs
  rw [early, hinputs] at hserved
  rw [early, early, take_takeWhile_unserved hleft _ hserved]

/-- A run under the panel does not depend on the inputs that it leaves, if the session goes on after
it. -/
theorem play_unserved (model : PageModel σ) (config : Config) (panel : Panel) (order : List Bool)
    (signal : Signal) (script : Script) {served left left' : List TimedInput}
    (hleft : NoEarlier left left') (page : σ) (now : Nat)
    (hserved : (play model config panel order signal script (served ++ left) page now).served =
      served.length)
    (hgoes : (play model config panel order signal script (served ++ left) page now).sequel =
      .goesOn) :
    play model config panel order signal script (served ++ left') page now =
      play model config panel order signal script (served ++ left) page now := by
  obtain ⟨lost, hlost⟩ : ∃ lost, early panel order signal (served ++ left) now = lost := ⟨_, rfl⟩
  cases hbegins : failure? lost with
  | some failure =>
    simp only [play, hlost, hbegins] at hgoes
    cases hgoes
  | none =>
    let watch : Watch := { lastWatch { signal } lost with signal := .proceed }
    obtain ⟨attended, hattended⟩ : ∃ attended, attend model config panel (order.drop lost.length)
      watch script ((served ++ left).drop lost.length) page now = attended := ⟨_, rfl⟩
    obtain ⟨hread, hlength⟩ : failure? attended.given = none ∧
        lost.length + attended.given.length = served.length := by
      simp only [play, hlost, hbegins] at hserved hgoes
      rw [hattended] at hserved hgoes
      cases hfailure : failure? attended.given with
      | some failure =>
        rw [hfailure] at hgoes
        cases hgoes
      | none =>
        rw [hfailure] at hserved
        refine ⟨rfl, ?_⟩
        cases hreport : attended.run.report with
        | some report =>
          rw [hreport] at hserved
          exact hserved
        | none =>
          rw [hreport] at hserved
          exact hserved
    have hfirst : lost.length ≤ served.length := by omega
    have hlost' : early panel order signal (served ++ left') now = lost := by
      rw [← hlost]
      exact early_unserved hleft (by rw [hlost]; exact hbegins) (by rw [hlost]; exact hfirst)
    rw [List.drop_append_of_le_length hfirst] at hattended
    have hlater : attended.given.length = (served.drop lost.length).length := by
      rw [List.length_drop]
      omega
    rw [← hattended] at hread hlater
    obtain ⟨other, hattended'⟩ := attend_unserved model config panel (order.drop lost.length) watch
      script page now hleft hlater hread
    rw [hattended] at hattended'
    simp only [play, hlost, hlost', hbegins, List.drop_append_of_le_length hfirst]
    rw [hattended, hattended']

theorem refuse_unserved {panel : Panel} {order : List Bool} {signal : Signal}
    {served left left' : List TimedInput} (hleft : NoEarlier left left') (page : σ) (now : Nat)
    (hserved : (refuse panel order signal (served ++ left) page now).served = served.length)
    (hgoes : (refuse panel order signal (served ++ left) page now).sequel = .goesOn) :
    refuse panel order signal (served ++ left') page now =
      refuse panel order signal (served ++ left) page now := by
  obtain ⟨lost, hlost⟩ : ∃ lost, early panel order signal (served ++ left) now = lost := ⟨_, rfl⟩
  cases hbegins : failure? lost with
  | some failure =>
    simp only [refuse, hlost, hbegins] at hgoes
    cases hgoes
  | none =>
    simp only [refuse, hlost, hbegins] at hserved
    have hlost' : early panel order signal (served ++ left') now = lost := by
      rw [← hlost]
      exact early_unserved hleft (by rw [hlost]; exact hbegins)
        (by rw [hlost]; exact Nat.le_of_eq hserved)
    rw [refuse, refuse, hlost, hlost']

/-- A start does not depend on the inputs that the run leaves, if the session goes on after it. -/
theorem start_unserved (model : PageModel σ) (panel : Panel) (order : List Bool)
    (controller : Controller σ) (script : Script) {served left left' : List TimedInput}
    (hleft : NoEarlier left left') (page : σ) (now : Nat) {played : Played σ}
    {after : Controller σ}
    (hstart : start model panel order controller script (served ++ left) page now = (played, after))
    (hserved : played.served = served.length) (hgoes : played.sequel = .goesOn) :
    start model panel order controller script (served ++ left') page now = (played, after) := by
  rw [start] at hstart ⊢
  cases hclaim : (controller.claim { time := now }).1 with
  | true =>
    simp only [hclaim, if_true, Prod.mk.injEq] at hstart ⊢
    obtain ⟨rfl, rfl⟩ := hstart
    rw [refuse_unserved hleft page now hserved hgoes]
    exact ⟨rfl, rfl⟩
  | false =>
    simp only [hclaim, Bool.false_eq_true, if_false, Prod.mk.injEq] at hstart ⊢
    obtain ⟨rfl, rfl⟩ := hstart
    rw [play_unserved model controller.config panel order controller.signal script hleft page now
      hserved hgoes]
    exact ⟨rfl, rfl⟩

end Session

end BrowserReplay
