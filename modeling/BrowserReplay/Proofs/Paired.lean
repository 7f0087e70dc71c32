import BrowserReplay.Proofs.Drain

/-!
# Visits side by side

Two visits are compared that begin on two pages, perhaps of different models and at different times.
A `Pairing` says which pages belong together and which traces count as the same. Two visits are
paired if, begun on pages that belong together, they leave such pages, traces that count as the
same, and related results. The rules follow the ways in which visits are composed.

A command asks its page for elements, acts on them and presses keys. If pages that belong together
answer these calls alike, then a command is paired with itself as soon as its marks and its openings
are (`perform_paired`). The variables enter only through its texts, so the two sides may have two
stores in which these read the same. Runs whose commands are paired are paired
(`Run.drain_paired`), for as long as neither has left its page.
-/

namespace BrowserReplay

variable {model : PageModel σ} {model' : PageModel τ}

/-- Which pages of two models belong together, and which traces count as the same when the second
one begins `duration` later. -/
structure Pairing (model : PageModel σ) (model' : PageModel τ) where
  same : σ → τ → Prop
  duration : Nat
  shows : Trace → Trace → Prop
  nil : shows [] []
  append : ∀ {early early' late late'}, shows early early' → shows late late' →
    shows (early ++ late) (early' ++ late')
  entry : ∀ time what, shows [⟨time, what⟩] [⟨time + duration, what⟩]

/-- Pages that belong together answer a call alike, and still belong together after that. -/
structure Pairing.Answers (pairing : Pairing model model') (call : PageCall) : Prop where
  reply : ∀ {page page'}, pairing.same page page' →
    (model' page' call).reply = (model page call).reply
  elapsed : ∀ {page page'}, pairing.same page page' →
    (model' page' call).elapsed = (model page call).elapsed
  next : ∀ {page page'}, pairing.same page page' →
    pairing.same (model page call).page (model' page' call).page

/-- What two visits have left counts as the same, with results that are related. -/
structure Visited.Paired (pairing : Pairing model model') (related : α → β → Prop)
    (first : Visited σ α) (second : Visited τ β) : Prop where
  page : pairing.same first.page second.page
  time : second.time = first.time + pairing.duration
  trace : pairing.shows first.trace second.trace
  result : related first.result second.result

namespace Visit

/-- On pages that belong together the second visit, begun later, does the same as the first one. -/
def Paired (pairing : Pairing model model') (related : α → β → Prop) (first : Visit σ α)
    (second : Visit τ β) : Prop :=
  ∀ page page' time, pairing.same page page' →
    (first page time).Paired pairing related (second page' (time + pairing.duration))

namespace Paired

variable {pairing : Pairing model model'}

theorem pure {related : α → β → Prop} {a : α} {b : β} (h : related a b) :
    Paired pairing related (pure a) (pure b) :=
  fun _ _ _ hpage => ⟨hpage, rfl, pairing.nil, h⟩

theorem mono {related weaker : α → β → Prop} {first : Visit σ α} {second : Visit τ β}
    (h : Paired pairing related first second)
    (hweaker : ∀ a b, related a b → weaker a b) : Paired pairing weaker first second :=
  fun page page' time hpage =>
    have hvisit := h page page' time hpage
    ⟨hvisit.page, hvisit.time, hvisit.trace, hweaker _ _ hvisit.result⟩

theorem bind {related : α → β → Prop} {related' : γ → δ → Prop} {first : Visit σ α}
    {second : Visit τ β} {next : α → Visit σ γ} {later : β → Visit τ δ}
    (h : Paired pairing related first second)
    (hnext : ∀ a b, related a b → Paired pairing related' (next a) (later b)) :
    Paired pairing related' (first >>= next) (second >>= later) := by
  intro page page' time hpage
  obtain ⟨hmiddle, htime, htrace, hresult⟩ := h page page' time hpage
  have hrest := hnext _ _ hresult _ _ (first page time).time hmiddle
  rw [← htime] at hrest
  exact ⟨hrest.page, hrest.time, pairing.append htrace hrest.trace, hrest.result⟩

/-- The case in which both visits first come to the same result. -/
theorem bind_eq {related : β → γ → Prop} {first : Visit σ α} {second : Visit τ α}
    {next : α → Visit σ β} {later : α → Visit τ γ} (h : Paired pairing Eq first second)
    (hnext : ∀ a, Paired pairing related (next a) (later a)) :
    Paired pairing related (first >>= next) (second >>= later) :=
  h.bind fun a _ heq => heq ▸ hnext a

theorem tell {event event' : RunEvent}
    (h : ∀ time, pairing.shows [⟨time, .event event⟩] [⟨time + pairing.duration, .event event'⟩]) :
    Paired pairing Eq (tell event) (tell event') :=
  fun _ _ time hpage => ⟨hpage, rfl, h time, rfl⟩

theorem tellAll (events : List RunEvent) :
    Paired pairing Eq (tellAll events) (tellAll events) := by
  have hshows (time : Nat) : pairing.shows (events.map (⟨time, .event ·⟩))
      (events.map (⟨time + pairing.duration, .event ·⟩)) := by
    induction events with
    | nil => exact pairing.nil
    | cons event events ih => exact pairing.append (pairing.entry time (.event event)) ih
  exact fun _ _ time hpage => ⟨hpage, rfl, hshows time, rfl⟩

theorem remark (level : LogLevel) (message : String) :
    Paired pairing Eq (remark level message) (remark level message) :=
  fun _ _ time hpage => ⟨hpage, rfl, pairing.entry time _, rfl⟩

theorem rest (pause : Nat) : Paired pairing Eq (rest pause) (rest pause) :=
  fun _ _ _ hpage => ⟨hpage, Nat.add_right_comm _ _ _, pairing.nil, rfl⟩

theorem call {call : PageCall} (h : pairing.Answers call) :
    Paired pairing Eq (Visit.call model call) (Visit.call model' call) := by
  intro page page' time hpage
  refine ⟨h.next hpage, ?_, ?_, (h.reply hpage).symm⟩
  · simp only [Visit.call, h.elapsed hpage, Nat.add_right_comm]
  · simp only [Visit.call, h.reply hpage]
    exact pairing.entry time _

theorem clock_bind {related : α → β → Prop} {next : Nat → Visit σ α} {later : Nat → Visit τ β}
    (h : ∀ time, Paired pairing related (next time) (later (time + pairing.duration))) :
    Paired pairing related (clock >>= next) (clock >>= later) :=
  fun page page' time hpage => h time page page' time hpage

end Paired

end Visit

/-! ### What commands are made of -/

def Target.templates (target : Target) : List (Option String) :=
  target.primary :: target.fallbacks.map some

def Command.templates : Command → List (Option String)
  | .store value name => [value, name]
  | .openPage url => [url]
  | .click target => target.templates
  | .type target text => text :: target.templates
  | .verifyElementPresent target name => name :: target.templates
  | .keyPress value => [value]
  | .finish | .unrecognized _ => []

/-- Some texts read the same with either store. -/
def Variables.AgreeOn (vars vars' : Variables) (templates : List (Option String)) : Prop :=
  ∀ template ∈ templates, Template.substitute vars template = Template.substitute vars' template

theorem Variables.AgreeOn.refl (vars : Variables) (templates : List (Option String)) :
    vars.AgreeOn vars templates :=
  fun _ _ => rfl

theorem Target.candidates_eq {vars vars' : Variables} {target : Target}
    (h : vars.AgreeOn vars' target.templates) :
    target.candidates vars = target.candidates vars' :=
  List.map_congr_left h

/-- An absent text reads the same with any store. -/
theorem Variables.AgreeOn.substitute_eq {vars vars' : Variables} {templates : List (Option String)}
    (h : vars.AgreeOn vars' templates) {template : Option String}
    (htemplate : template = none ∨ template ∈ templates) :
    Template.substitute vars template = Template.substitute vars' template := by
  obtain rfl | hmem := htemplate
  · rfl
  · exact h template hmem

/-- What is reported of a command are texts of it. -/
theorem Command.authored_mem_templates (command : Command) :
    (command.authoredTarget = none ∨ command.authoredTarget ∈ command.templates) ∧
      (command.authoredValue = none ∨ command.authoredValue ∈ command.templates) := by
  cases command <;> simp [authoredTarget, authoredValue, templates, Target.templates]

/-- Two commands have ended alike and stored the same. -/
structure SameStored (vars vars' : Variables) (done done' : Outcome × Variables) : Prop where
  outcome : done.1 = done'.1
  stored : ∃ entries, done.2 = vars.setAll entries ∧ done'.2 = vars'.setAll entries

theorem SameStored.eq {vars : Variables} {done done' : Outcome × Variables}
    (h : SameStored vars vars done done') : done = done' := by
  obtain ⟨entries, hstored, hstored'⟩ := h.stored
  exact Prod.ext h.outcome (hstored.trans hstored'.symm)

/-- Whether a call neither marks an element nor has to do with the location. -/
def PageCall.isPlain : PageCall → Bool
  | .query _ | .click _ | .focus _ | .setValue .. | .dispatchKey _ => true
  | .currentUrl | .navigate _ | .highlight .. => false

/-- What makes a command do the same on both sides, with these settings. -/
structure Pairing.Carries (pairing : Pairing model model') (config config' : Config)
    (command : Command) : Prop where
  timing : config'.timing = config.timing
  keys : config'.keys = config.keys
  answers : ∀ call, call.isPlain = true → pairing.Answers call
  stored : ∀ time name text, pairing.shows
    [⟨time, .event (.variableStored name (maskIf config.logging.maskSensitive name text))⟩]
    [⟨time + pairing.duration,
      .event (.variableStored name (maskIf config'.logging.maskSensitive name text))⟩]
  marks : ∀ handle, Visit.Paired pairing Eq (Perform.mark model config handle)
    (Perform.mark model' config' handle)
  opens : ∀ url, command = .openPage url → ∀ target, Visit.Paired pairing Eq
    (Perform.openPage model target) (Perform.openPage model' target)

section Commands

open Visit

variable {pairing : Pairing model model'}

section Waiting

variable (hquery : ∀ selector, pairing.Answers (.query selector))

include hquery

theorem Wait.poll_paired (options : WaitOptions) (raw : String) (start budget : Nat) :
    Paired pairing Eq (poll model options raw start budget)
      (poll model' options raw (start + pairing.duration) budget) := by
  induction budget with
  | zero =>
    refine .clock_bind fun time => ?_
    rw [Nat.add_sub_add_right]
    exact .pure rfl
  | succ budget ih =>
    refine .clock_bind fun time => ?_
    rw [Nat.add_sub_add_right]
    split
    · exact .pure rfl
    · refine .bind_eq (.call (hquery _)) fun reply => ?_
      obtain (cause : PageError) | (_ | (handle : Handle)) := reply
      · exact .pure rfl
      · exact .bind_eq (.remark _ _) fun _ => .bind_eq (.rest _) fun _ => ih
      · exact .pure rfl

theorem waitFor_paired (options : WaitOptions) (raw : String) :
    Paired pairing Eq (waitFor model options raw) (waitFor model' options raw) :=
  .clock_bind fun start => Wait.poll_paired hquery options raw start _

theorem tryCandidates_paired (options : WaitOptions) (position : Nat) (candidates : List String) :
    Paired pairing Eq (tryCandidates model options position candidates)
      (tryCandidates model' options position candidates) := by
  induction candidates generalizing position with
  | nil => exact .pure rfl
  | cons selector rest ih =>
    refine .bind_eq (waitFor_paired hquery options selector) fun found => ?_
    cases found with
    | ok handle => exact .pure rfl
    | error failure => exact .bind_eq (ih (position + 1)) fun _ => .pure rfl

end Waiting

namespace Perform

theorem mark_paired {config config' : Config} (hhighlight : config'.highlight = config.highlight)
    {handle : Handle} (h : pairing.Answers (.highlight handle config.highlight.style)) :
    Paired pairing Eq (mark model config handle) (mark model' config' handle) := by
  unfold mark
  rw [hhighlight]
  split
  · refine .bind_eq (.call h) fun reply => ?_
    obtain (error : PageError) | _ := reply
    · exact .remark _ _
    · exact .pure rfl
  · exact .pure rfl

theorem goTo_paired (failure : String) {url : String} (h : pairing.Answers (.navigate url)) :
    Paired pairing Eq (goTo model failure url) (goTo model' failure url) := by
  refine .bind_eq (.call h) fun reply => ?_
  obtain (error : PageError) | (arrival : Arrival) := reply
  · exact .bind_eq (.remark _ _) fun _ => .pure rfl
  · exact .pure rfl

theorem openPage_paired (hlocation : pairing.Answers .currentUrl)
    (hnavigate : ∀ url, pairing.Answers (.navigate url)) (target : String) :
    Paired pairing Eq (openPage model target) (openPage model' target) := by
  refine .bind_eq (.call hlocation) fun location => ?_
  obtain (error : PageError) | (current : String) := location
  · refine .bind_eq (.remark _ _) fun _ => ?_
    split
    · exact .bind_eq (.remark _ _) fun _ => .pure rfl
    · exact goTo_paired _ (hnavigate _)
  · dsimp only
    split
    · exact goTo_paired _ (hnavigate _)
    · split
      · exact .bind_eq (.remark _ _) fun _ => .pure rfl
      · exact goTo_paired _ (hnavigate _)

theorem clickOn_paired {handle : Handle} (h : pairing.Answers (.click handle)) :
    Paired pairing Eq (clickOn model handle) (clickOn model' handle) :=
  .bind_eq (.call h) fun _ => .pure rfl

theorem writeInto_paired {text : String} {handle : Handle}
    (hfocus : pairing.Answers (.focus handle))
    (hset : Paired pairing Eq (Visit.call model (.setValue handle text))
      (Visit.call model' (.setValue handle text))) :
    Paired pairing Eq (writeInto model text handle) (writeInto model' text handle) := by
  refine .bind_eq (.call hfocus) fun reply => ?_
  obtain (error : PageError) | _ := reply
  · exact .pure rfl
  · exact .bind_eq hset fun _ => .pure rfl

section Carried

variable {config config' : Config} {command : Command}
  (h : pairing.Carries config config' command)

include h

/-- A search depends on the variables only through its candidates. -/
theorem search_paired {vars vars' : Variables} (index : Nat) {target : Target}
    (hcandidates : target.candidates vars = target.candidates vars') :
    Paired pairing Eq (search model config vars index target)
      (search model' config' vars' index target) := by
  unfold search locate
  rw [hcandidates, h.timing]
  exact .bind_eq (tryCandidates_paired (fun _ => h.answers _ rfl) _ 0 _) fun _ =>
    .bind_eq (.tellAll _) fun _ => .pure rfl

theorem onElement_paired {vars vars' : Variables} (index : Nat) {target : Target}
    (hcandidates : target.candidates vars = target.candidates vars')
    {act : Handle → Visit σ Outcome} {act' : Handle → Visit τ Outcome}
    (hact : ∀ handle, Paired pairing Eq (act handle) (act' handle)) :
    Paired pairing Eq (onElement model config vars index target act)
      (onElement model' config' vars' index target act') := by
  refine .bind_eq (search_paired h index hcandidates) fun search => ?_
  split
  · exact .bind_eq (h.marks _) fun _ => hact _
  · exact .pure rfl

theorem pressKey_paired (value : Option String) :
    Paired pairing Eq (pressKey model config value) (pressKey model' config' value) := by
  unfold pressKey
  rw [h.keys]
  split
  · exact .bind_eq (.call (h.answers _ rfl)) fun _ => .pure rfl
  · exact .pure rfl

theorem store_paired (vars vars' : Variables) (name : String) (value : VarValue) :
    Paired pairing
      (fun after after' => after = vars.set name value ∧ after' = vars'.set name value)
      (store config vars name value) (store config' vars' name value) :=
  .bind_eq (.tell fun time => h.stored time name value.display) fun _ => .pure ⟨rfl, rfl⟩

theorem act_paired {vars vars' : Variables} (index : Nat)
    (hagree : vars.AgreeOn vars' command.templates) :
    Paired pairing (SameStored vars vars') (act model config vars index command)
      (act model' config' vars' index command) := by
  have hplain (outcome : Outcome) :
      SameStored vars vars' (outcome, vars) (outcome, vars') := ⟨rfl, [], rfl, rfl⟩
  have hstore (name : String) (value : VarValue) :
      Paired pairing (SameStored vars vars')
        (do pure (Outcome.completed, ← store config vars name value))
        (do pure (Outcome.completed, ← store config' vars' name value)) := by
    refine (store_paired h vars vars' name value).bind ?_
    rintro _ _ ⟨rfl, rfl⟩
    exact .pure ⟨rfl, [(name, value)], rfl, rfl⟩
  cases command with
  | store value name =>
    obtain ⟨hvalue, hname⟩ := List.forall_mem_cons.1 hagree
    rw [act, act, hvalue, hname name List.mem_cons_self]
    exact hstore _ _
  | openPage url =>
    rw [act, act, hagree url List.mem_cons_self]
    exact .bind_eq (h.opens url rfl _) fun _ => .pure (hplain _)
  | click target =>
    exact .bind_eq (onElement_paired h index (Target.candidates_eq hagree) fun _ =>
      clickOn_paired (h.answers _ rfl)) fun _ => .pure (hplain _)
  | type target text =>
    obtain ⟨htext, htarget⟩ := List.forall_mem_cons.1 hagree
    rw [act, act, htext]
    exact .bind_eq (onElement_paired h index (Target.candidates_eq htarget) fun _ =>
      writeInto_paired (h.answers _ rfl) (.call (h.answers _ rfl))) fun _ => .pure (hplain _)
  | verifyElementPresent target name =>
    obtain ⟨hname, htarget⟩ := List.forall_mem_cons.1 hagree
    rw [act, act, hname]
    refine .bind_eq (search_paired h index (Target.candidates_eq htarget)) fun search => ?_
    obtain ⟨_ | located, failed⟩ := search
    · exact hstore _ _
    · exact .bind_eq (h.marks _) fun _ => hstore _ _
  | finish => exact .pure (hplain _)
  | keyPress value => exact .bind_eq (pressKey_paired h value) fun _ => .pure (hplain _)
  | unrecognized name => exact .bind_eq (.remark _ _) fun _ => .pure (hplain _)

end Carried

theorem started_eq {config config' : Config} (hlogging : config'.logging = config.logging)
    {vars vars' : Variables} (index : Nat) {command : Command}
    (h : vars.AgreeOn vars' command.templates) :
    started config vars index command = started config' vars' index command := by
  obtain ⟨htarget, hvalue⟩ := command.authored_mem_templates
  unfold started
  rw [h.substitute_eq htarget, h.substitute_eq hvalue, hlogging]

end Perform

/-- A command does the same on both sides if it is announced alike and what it is made of is paired.
-/
theorem perform_paired {config config' : Config} {vars vars' : Variables} {index : Nat}
    {command : Command} (h : pairing.Carries config config' command)
    (hagree : vars.AgreeOn vars' command.templates)
    (hstarted : ∀ time, pairing.shows
      [⟨time, .event (Perform.started config vars index command)⟩]
      [⟨time + pairing.duration, .event (Perform.started config' vars' index command)⟩]) :
    Paired pairing (SameStored vars vars') (perform model config vars index command)
      (perform model' config' vars' index command) :=
  .bind_eq (.tell hstarted) fun _ => Perform.act_paired h index hagree

end Commands

/-! ### Runs -/

/-- Two visits count as the same, with one result. Their pages have to belong together after them
only if the result lets what was begun go on there. -/
structure Visited.SameStep (pairing : Pairing model model') (goesOn : α → Prop)
    (first : Visited σ α) (second : Visited τ α) : Prop where
  time : second.time = first.time + pairing.duration
  trace : pairing.shows first.trace second.trace
  result : second.result = first.result
  page : goesOn first.result → pairing.same first.page second.page

namespace Visit

/-- Begun on pages that belong together, two visits count as the same. -/
def SameStep (pairing : Pairing model model') (goesOn : α → Prop) (first : Visit σ α)
    (second : Visit τ α) : Prop :=
  ∀ page page' time, pairing.same page page' →
    (first page time).SameStep pairing goesOn (second page' (time + pairing.duration))

variable {pairing : Pairing model model'}

theorem Paired.sameStep {first : Visit σ α} {second : Visit τ α}
    (h : Paired pairing Eq first second) (goesOn : α → Prop) :
    SameStep pairing goesOn first second := by
  intro page page' time hpage
  have hvisit := h page page' time hpage
  exact ⟨hvisit.time, hvisit.trace, hvisit.result.symm, fun _ => hvisit.page⟩

theorem Paired.bind_sameStep {first : Visit σ α} {second : Visit τ α} {next : α → Visit σ β}
    {later : α → Visit τ β} {goesOn : β → Prop} (h : Paired pairing Eq first second)
    (hnext : ∀ a, SameStep pairing goesOn (next a) (later a)) :
    SameStep pairing goesOn (first >>= next) (second >>= later) := by
  intro page page' time hpage
  obtain ⟨hmiddle, htime, htrace, hresult⟩ := h page page' time hpage
  have hboth : ∀ a b, a = b → SameStep pairing goesOn (next a) (later b) :=
    fun a _ heq => heq ▸ hnext a
  have hrest := hboth _ _ hresult _ _ (first page time).time hmiddle
  rw [← htime] at hrest
  exact ⟨hrest.time, pairing.append htrace hrest.trace, hrest.result, hrest.page⟩

/-- What comes of a visit is passed on. -/
theorem SameStep.pass {first : Visit σ α} {second : Visit τ α} {goesOn : α → Prop}
    {goesOn' : β → Prop} (h : SameStep pairing goesOn first second) (f : α → β)
    (hf : ∀ a, goesOn' (f a) → goesOn a) :
    SameStep pairing goesOn' (first >>= fun a => pure (f a)) (second >>= fun a => pure (f a)) := by
  intro page page' time hpage
  have hvisit := h page page' time hpage
  exact ⟨hvisit.time, pairing.append hvisit.trace pairing.nil, congrArg f hvisit.result,
    fun hgoes => hvisit.page (hf _ hgoes)⟩

end Visit

variable {pairing : Pairing model model'}

/-- What happens at the same times counts as the same. -/
theorem Pairing.shows_self (hduration : pairing.duration = 0) (trace : Trace) :
    pairing.shows trace trace := by
  induction trace with
  | nil => exact pairing.nil
  | cons entry rest ih =>
    have hentry := pairing.entry entry.time entry.what
    rw [hduration] at hentry
    exact pairing.append hentry ih

namespace Run

structure Same (pairing : Pairing model model') (run : Run σ) (run' : Run τ) : Prop where
  time : run'.time = run.time
  report : run'.report = run.report
  trace : pairing.shows run.trace run'.trace

theorem Same.after {run : Run σ} {run' : Run τ} (h : Same pairing run run')
    {early early' : Trace} (hearly : pairing.shows early early') :
    Same pairing (run.after early) (run'.after early') :=
  ⟨h.time, h.report, pairing.append hearly h.trace⟩

/-- From any boundary on, two runs count as the same that are at the same place with pages that
belong together, if every command counts as the same. -/
theorem drain_paired (hduration : pairing.duration = 0) {config config' : Config}
    (htiming : config'.timing = config.timing)
    (hnavigation : config'.navigation = config.navigation)
    (hstep : ∀ command vars index, Visit.SameStep pairing (Run.departure? config ·.1 = none)
      (perform model config vars index command) (perform model' config' vars index command))
    (queue : List Command) (progress : Progress) (steering : Steering) {page : σ} {page' : τ}
    (hpage : pairing.same page page') (time : Nat) :
    Same pairing (drain model config queue progress steering page time)
      (drain model' config' queue progress steering page' time) := by
  have hself := pairing.shows_self hduration
  have hfinish (state : RunState) (progress : Progress) (remaining : Nat) (steering : Steering)
      (page : σ) (page' : τ) (time : Nat) :
      Same pairing (finish state progress remaining steering page time)
        (finish state progress remaining steering page' time) := ⟨rfl, rfl, hself _⟩
  have hdeparture (outcome : Outcome) : departure? config' outcome = departure? config outcome := by
    simp only [departure?, hnavigation]
  induction queue generalizing progress steering page page' time with
  | nil => exact hfinish _ _ _ _ _ _ _
  | cons command rest ih =>
    rw [drain, drain]
    -- Both runs look at the same signal at the same time.
    obtain ⟨clearance, later, steering, looked⟩ := checkpoint steering progress.index time
    cases clearance with
    | never => exact ⟨rfl, rfl, hself looked⟩
    | cancel => exact (hfinish _ _ _ _ _ _ _).after (hself looked)
    | proceed =>
      have hvisit := hstep command progress.vars progress.index page page' later hpage
      rw [hduration, Nat.add_zero] at hvisit
      revert hvisit
      dsimp only
      generalize perform model config progress.vars progress.index command page later = visit
      generalize perform model' config' progress.vars progress.index command page' later = visit'
      obtain ⟨page, time, trace, outcome, vars⟩ := visit
      obtain ⟨page', time', trace', result'⟩ := visit'
      rintro ⟨htime, htrace, hresult, hpage⟩
      obtain rfl : time' = time := htime.trans (by rw [hduration, Nat.add_zero])
      obtain rfl : result' = (outcome, vars) := hresult
      dsimp only at htrace hpage ⊢
      have hearly (entry : Entry) :
          pairing.shows (looked ++ trace ++ [entry]) (looked ++ trace' ++ [entry]) :=
        pairing.append (pairing.append (hself looked) htrace) (hself [entry])
      rw [hdeparture, htiming]
      cases hgoes : departure? config outcome with
      | some url => exact (hfinish _ _ _ _ _ _ _).after (hearly _)
      | none => exact (ih _ _ (hpage hgoes) _).after (hearly _)

end Run

/-- Runs of a script are paired as far as their commands are. -/
theorem run_paired (hduration : pairing.duration = 0) {config config' : Config}
    (htiming : config'.timing = config.timing) (hkeys : config'.keys = config.keys)
    (hnavigation : config'.navigation = config.navigation)
    (hstep : ∀ command vars index, Visit.SameStep pairing (Run.departure? config ·.1 = none)
      (perform model config vars index command) (perform model' config' vars index command))
    (script : Script) (steering : Steering) {page : σ} {page' : τ}
    (hpage : pairing.same page page') (time : Nat) :
    Run.Same pairing (run model config script steering page time)
      (run model' config' script steering page' time) := by
  unfold run
  rw [hkeys]
  exact (Run.drain_paired hduration htiming hnavigation hstep _ _ _ hpage _).after
    (pairing.shows_self hduration _)

end BrowserReplay
