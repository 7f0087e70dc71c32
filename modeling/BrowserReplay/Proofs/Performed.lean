import BrowserReplay.Proofs.EventWord
import BrowserReplay.Proofs.Table
import BrowserReplay.Proofs.Visit

/-!
# What performing a command leaves

One lemma for each part of a command says which calls it makes, which events it tells and how it can
end. The calls are those of the table, the events those of the grammar; `perform_performed` puts the
parts together.
-/

namespace BrowserReplay

open EventWord Table

def Attempted (outcome : Outcome) : Prop :=
  outcome = .completed ∨ ∃ reason, outcome = .abandoned reason

/-- What is left after acting on something: the calls, no events, and how it went. -/
structure Acted (calls : List CallRecord → Prop) (ends : Outcome → Prop) (outcome : Outcome)
    (trace : Trace) : Prop where
  calls : calls trace.records
  told : trace.told = []
  ends : ends outcome

structure Searched (candidates : List Selector) (index : Nat) (limit : Nat)
    (found : Option Handle) (trace : Trace) : Prop where
  calls : Sought candidates trace.records found
  told : ∃ failures : List (String × String), failures.length ≤ limit ∧
    trace.told = failures.map fun failure => .selectorFailed index failure.1 failure.2

/-- What a command leaves after it has been announced. -/
structure Finished (config : Config) (vars : Variables) (index : Nat) (command : Command)
    (done : Outcome × Variables) (trace : Trace) : Prop where
  row : Row config vars command trace.records done.2
  told : Body index command trace.told
  admits : command.admits done.1 = true

structure Performed (config : Config) (vars : Variables) (index : Nat) (command : Command)
    (done : Outcome × Variables) (trace : Trace) : Prop where
  row : Row config vars command trace.records done.2
  told : ∃ target value body, Body index command body ∧
    trace.told = .commandStarted index command.name target value :: body
  admits : command.admits done.1 = true

variable (model : PageModel σ) (config : Config)

/-! ### Searching and marking -/

theorem Wait.poll_waited (options : WaitOptions) (raw : String) (start budget : Nat) :
    (poll model options raw start budget).Ensures fun found trace =>
      Waited (.parse raw) trace.records found.toOption ∧ trace.told = [] := by
  induction budget with
  | zero => exact .clock_bind fun _ => .pure ⟨.timedOut, rfl⟩
  | succ budget ih =>
    refine .clock_bind fun now => ?_
    split
    · exact .pure ⟨.timedOut, rfl⟩
    · refine .call_bind fun time reply => ?_
      obtain (cause : PageError) | (_ | (handle : Handle)) := reply
      · exact .pure ⟨.failed cause, rfl⟩
      · refine .remark_bind fun _ => .rest_bind ?_
        exact ih.mono fun found late hlate => ⟨.again hlate.1, hlate.2⟩
      · exact .pure ⟨.found handle, rfl⟩

theorem tryCandidates_sought (options : WaitOptions) (position : Nat) (candidates : List String) :
    (tryCandidates model options position candidates).Ensures fun search trace =>
      Sought (candidates.map .parse) trace.records (search.found.map Located.handle) ∧
        trace.told = [] ∧ search.failures.length ≤ candidates.length := by
  induction candidates generalizing position with
  | nil => exact .pure ⟨.exhausted, rfl, Nat.le_refl 0⟩
  | cons selector rest ih =>
    have hwait : (waitFor model options selector).Ensures fun found trace =>
        Waited (.parse selector) trace.records found.toOption ∧ trace.told = [] :=
      .clock_bind fun _ => Wait.poll_waited model options selector _ _
    refine hwait.bind ?_
    rintro (failure | handle) early ⟨hcalls, htold⟩
    · refine (ih (position + 1)).bind fun later late ⟨hlater, htold', hlength⟩ => .pure ?_
      rw [List.append_nil, Trace.records_append, Trace.told_append, htold, htold']
      exact ⟨.miss hcalls hlater, rfl, Nat.succ_le_succ hlength⟩
    · refine .pure ?_
      rw [List.append_nil]
      exact ⟨.hit hcalls, htold, Nat.zero_le _⟩

namespace Perform

theorem search_searched (vars : Variables) (index : Nat) (target : Target) :
    (search model config vars index target).Ensures fun search trace =>
      Searched (selectors vars target) index (target.fallbacks.length + 1)
        (search.found.map Located.handle) trace := by
  refine (tryCandidates_sought model config.timing.waitOptions 0 (target.candidates vars)).bind ?_
  rintro search early ⟨hcalls, htold, hlength⟩
  refine .tellAll_bind fun time => .pure ⟨?_, ?_⟩
  · rw [List.append_nil, Trace.records_append, Trace.records_map_event, List.append_nil]
    exact hcalls
  · refine ⟨search.failures.map fun failure => (failure.selector, failure.message), ?_, ?_⟩
    · have hcandidates : (target.candidates vars).length = target.fallbacks.length + 1 := by
        simp [Target.candidates]
      rw [List.length_map, ← hcandidates]
      exact hlength
    · rw [List.append_nil, Trace.told_append, Trace.told_map_event, htold, List.map_map]
      rfl

theorem mark_marked (handle : Handle) :
    (mark model config handle).Ensures fun _ trace =>
      Marked config handle trace.records ∧ trace.told = [] := by
  unfold mark
  split
  next hon =>
    refine .call_bind fun time reply => ?_
    obtain (error : PageError) | _ := reply
    · exact .remark_bind fun _ => .pure ⟨.on hon _, rfl⟩
    · exact .pure ⟨.on hon _, rfl⟩
  next hoff => exact .pure ⟨.off (Bool.eq_false_iff.2 hoff), rfl⟩

/-! ### Acting -/

theorem attempted_outcome (activity : String) (reply : Except PageError Unit) :
    Attempted (outcome activity reply) := by
  cases reply with
  | ok _ => exact .inl rfl
  | error error => exact .inr ⟨_, rfl⟩

theorem onElement_acted (vars : Variables) (index : Nat) (target : Target)
    {act : Handle → Visit σ Outcome} {action : Handle → List CallRecord → Prop}
    (hact : ∀ handle, (act handle).Ensures (Acted (action handle) Attempted)) :
    (onElement model config vars index target act).Ensures fun outcome trace =>
      OnElement config (selectors vars target) action trace.records ∧
        (∃ failures : List (String × String), failures.length ≤ target.fallbacks.length + 1 ∧
          trace.told = failures.map fun failure => .selectorFailed index failure.1 failure.2) ∧
        Attempted outcome := by
  refine (search_searched model config vars index target).bind ?_
  rintro search early ⟨hcalls, failures, hlength, htold⟩
  split
  next located hfound =>
    rw [hfound] at hcalls
    refine (mark_marked model config located.handle).bind fun _ marks hmarks => ?_
    refine (hact located.handle).mono fun outcome late hlate => ⟨?_, ⟨failures, hlength, ?_⟩,
      hlate.ends⟩
    · rw [Trace.records_append, Trace.records_append]
      exact .acted hcalls hmarks.1 hlate.calls
    · rw [Trace.told_append, Trace.told_append, htold, hmarks.2, hlate.told, List.append_nil,
        List.append_nil]
  next hfound =>
    rw [hfound] at hcalls
    refine .pure ?_
    rw [List.append_nil]
    exact ⟨.missed hcalls, ⟨failures, hlength, htold⟩, .inr ⟨_, rfl⟩⟩

theorem clickOn_acted (handle : Handle) :
    (clickOn model handle).Ensures (Acted (Clicked handle) Attempted) :=
  .call_bind fun _ reply => .pure ⟨.intro reply, rfl, attempted_outcome _ reply⟩

theorem writeInto_acted (text : String) (handle : Handle) :
    (writeInto model text handle).Ensures (Acted (Written text handle) Attempted) := by
  refine .call_bind fun time reply => ?_
  obtain (error : PageError) | _ := reply
  · exact .pure ⟨.unfocused error, rfl, attempted_outcome _ _⟩
  · exact .call_bind fun _ reply => .pure ⟨.focused reply, rfl, attempted_outcome _ reply⟩

theorem goTo_acted (failure url : String) :
    (goTo model failure url).Ensures
      (Acted (fun records => ∃ reply, records = [⟨.navigate url, reply⟩])
        (· = .navigated url)) := by
  refine .call_bind fun time reply => ?_
  obtain (error : PageError) | (arrival : Arrival) := reply
  · exact .remark_bind fun _ => .pure ⟨⟨.error error, rfl⟩, rfl, rfl⟩
  · exact .pure ⟨⟨.ok arrival, rfl⟩, rfl, rfl⟩

theorem openPage_acted (url : Option String) (target : String) :
    (openPage model target).Ensures
      (Acted (Opened target) ((Command.openPage url).admits · = true)) := by
  have hwent (location : Except PageError String) (failure destination : String) (time : Nat)
      (remarks : Trace) (hremarks : remarks.records = [] ∧ remarks.told = [])
      (h : destination? target location = some destination) :
      (goTo model failure destination).Ensures fun outcome trace =>
        Acted (Opened target) ((Command.openPage url).admits · = true) outcome
          (⟨time, .call .currentUrl location⟩ :: (remarks ++ trace)) := by
    refine (goTo_acted model failure destination).mono ?_
    rintro outcome trace ⟨⟨reply, hcalls⟩, htold, rfl⟩
    refine ⟨?_, ?_, rfl⟩
    · rw [Trace.records_call, Trace.records_append, hremarks.1, hcalls]
      exact .went location destination h reply
    · rw [Trace.told_call, Trace.told_append, hremarks.2, htold]
      rfl
  refine .call_bind fun time location => ?_
  obtain (error : PageError) | (current : String) := location
  · refine .remark_bind fun _ => ?_
    dsimp only
    split
    next hempty =>
      exact .remark_bind fun _ =>
        .pure ⟨.stayed (.error error) (by simp [destination?, hempty]), rfl, rfl⟩
    next hne => exact hwent (.error error) _ _ _ [_] ⟨rfl, rfl⟩ (by simp [destination?, hne])
  · dsimp only
    split
    next hempty => exact hwent (.ok current) _ _ _ [] ⟨rfl, rfl⟩ (by simp [destination?, hempty])
    next hne =>
      split
      next hsame =>
        exact .remark_bind fun _ =>
          .pure ⟨.stayed (.ok current) (by simp [destination?, hne, hsame]), rfl, rfl⟩
      next hother =>
        exact hwent (.ok current) _ _ _ [] ⟨rfl, rfl⟩ (by simp [destination?, hne, hother])

theorem pressKey_acted (value : Option String) :
    (pressKey model config value).Ensures
      (Acted (Pressed config.keys.escapeToken value)
        ((Command.keyPress value).admits · = true)) := by
  unfold pressKey
  split
  next htoken =>
    refine .call_bind fun _ reply => .pure ⟨.escape htoken reply, rfl, ?_⟩
    obtain h | ⟨reason, h⟩ := attempted_outcome "key dispatch" reply <;> rw [h] <;> rfl
  next hother => exact .pure ⟨.other hother, rfl, rfl⟩

theorem store_sets (vars : Variables) (name : String) (value : VarValue) :
    (store (σ := σ) config vars name value).Ensures fun after trace =>
      after = vars.set name value ∧ trace.records = [] ∧
        ∃ entry : String × String, trace.told = [.variableStored entry.1 entry.2] :=
  .tell_bind fun _ => .pure ⟨rfl, rfl, (name, _), rfl⟩

/-! ### Commands -/

theorem act_finished (vars : Variables) (index : Nat) (command : Command) :
    (act model config vars index command).Ensures (Finished config vars index command) := by
  have hplain {visit : Visit σ Outcome} {calls : List CallRecord → Prop}
      (h : visit.Ensures (Acted calls (command.admits · = true)))
      (hrow : ∀ records, calls records → Row config vars command records vars)
      (hstores : command.stores = false) :
      (do pure (← visit, vars)).Ensures (Finished config vars index command) := by
    refine h.bind fun outcome early hearly => .pure ?_
    rw [List.append_nil]
    refine ⟨hrow _ hearly.calls, ?_, hearly.ends⟩
    rw [hearly.told]
    exact .intro [] none (Nat.zero_le _) hstores.symm
  have helement {target : Target} {act : Handle → Visit σ Outcome}
      {action : Handle → List CallRecord → Prop}
      (hact : ∀ handle, (act handle).Ensures (Acted (action handle) Attempted))
      (hrow : ∀ records, OnElement config (selectors vars target) action records →
        Row config vars command records vars)
      (hattempts : command.attempts = target.fallbacks.length + 1)
      (hstores : command.stores = false)
      (hadmits : ∀ outcome, Attempted outcome → command.admits outcome = true) :
      (do pure (← onElement model config vars index target act, vars)).Ensures
        (Finished config vars index command) := by
    refine (onElement_acted model config vars index target hact).bind ?_
    rintro outcome early ⟨hcalls, ⟨failures, hlength, htold⟩, hends⟩
    refine .pure ?_
    have hbody := @Body.intro index command failures none (hattempts.symm ▸ hlength) hstores.symm
    rw [Option.toList_none, List.map_nil, List.append_nil, ← htold] at hbody
    rw [List.append_nil]
    exact ⟨hrow _ hcalls, hbody, hadmits _ hends⟩
  have hstore (name : String) (value : VarValue) (earlier : Trace)
      (failures : List (String × String)) (hlength : failures.length ≤ command.attempts)
      (htold : earlier.told = failures.map fun failure =>
        .selectorFailed index failure.1 failure.2)
      (hrow : Row config vars command earlier.records (vars.set name value))
      (hstores : command.stores = true) (hadmits : command.admits .completed = true) :
      (do pure (Outcome.completed, ← store (σ := σ) config vars name value)).Ensures
        fun done trace => Finished config vars index command done (earlier ++ trace) := by
    refine (store_sets config vars name value).bind ?_
    rintro after late ⟨rfl, hlate, entry, hentry⟩
    refine .pure ⟨?_, ?_, hadmits⟩
    · rw [List.append_nil, Trace.records_append, hlate, List.append_nil]
      exact hrow
    · rw [List.append_nil, Trace.told_append, htold, hentry]
      exact .intro failures (some entry) hlength hstores.symm
  cases command with
  | store value name =>
    exact hstore _ _ [] [] (Nat.zero_le _) rfl (.store value name) rfl rfl
  | openPage url => exact hplain (openPage_acted model url _) (fun _ => .openPage) rfl
  | click target =>
    refine helement (clickOn_acted model) (fun _ => .click) rfl rfl ?_
    rintro _ (rfl | ⟨reason, rfl⟩) <;> rfl
  | type target text =>
    refine helement (writeInto_acted model (Template.substitute vars text)) (fun _ => .type) rfl
      rfl ?_
    rintro _ (rfl | ⟨reason, rfl⟩) <;> rfl
  | verifyElementPresent target name =>
    refine (search_searched model config vars index target).bind ?_
    rintro search early ⟨hcalls, failures, hlength, htold⟩
    obtain ⟨_ | located, failed⟩ := search
    · exact hstore _ _ early failures hlength htold (.absent hcalls) rfl rfl
    · refine (mark_marked model config located.handle).bind fun _ marks hmarks => ?_
      have hboth : (early ++ marks).told = early.told := by
        rw [Trace.told_append, hmarks.2, List.append_nil]
      have hrow : Row config vars (.verifyElementPresent target name)
          (early.records ++ marks.records) _ := .present hcalls hmarks.1
      rw [← Trace.records_append] at hrow
      exact (hstore _ _ (early ++ marks) failures hlength (hboth.trans htold) hrow rfl rfl).mono
        fun _ _ h => by rwa [List.append_assoc] at h
  | finish => exact .pure ⟨.finish, .intro [] none (Nat.zero_le _) rfl, rfl⟩
  | keyPress value => exact hplain (pressKey_acted model config value) (fun _ => .keyPress) rfl
  | unrecognized name =>
    exact .remark_bind fun _ =>
      .pure ⟨.unrecognized name, .intro [] none (Nat.zero_le _) rfl, rfl⟩

end Perform

/-- A command is announced before anything else. -/
theorem perform_performed (vars : Variables) (index : Nat) (command : Command) :
    (perform model config vars index command).Ensures (Performed config vars index command) := by
  refine .tell_bind fun time => ?_
  refine (Perform.act_finished model config vars index command).mono fun done late hlate => ?_
  refine ⟨hlate.row, ?_, hlate.admits⟩
  unfold Perform.started
  cases command <;> exact ⟨_, _, _, hlate.told, rfl⟩

/-- The same, said of what one command has left. -/
theorem Performed.of_eq {vars : Variables} {index : Nat} {command : Command} {page : σ} {time : Nat}
    {visit : Visited σ (Outcome × Variables)}
    (hvisit : visit = perform model config vars index command page time) :
    Performed config vars index command visit.result visit.trace :=
  hvisit ▸ perform_performed model config vars index command page time

end BrowserReplay
