import BrowserReplay.Chromium

/-!
# Requests that meet a page between documents

What Chromium makes of a request to the bridge is told from what was evaluated for it and what was
answered. `Means` says how one answer is read, `Ensured` and `Attempted` what one attempt evaluates
and comes to, and `Decides` which attempts are the last. Only a page between documents is tried
again, so the run of a request is a list of attempts that met one and a last attempt (`Course`).
-/

namespace BrowserReplay

/-! ### Conversations -/

structure Said (I : Interface) where
  call : I.Call
  answer : Answer (I.Result call)

/-- A party is asked one thing after the other, and answers so. -/
inductive Conversation {I : Interface} {γ : Type} (model : PartyModel I γ) :
    γ → List (Said I) → γ → Prop
  | nil (party : γ) : Conversation model party [] party
  | cons {party after : γ} {said : Said I} {rest : List (Said I)}
      (h : (model party said.call).answer = said.answer)
      (hrest : Conversation model (model party said.call).party rest after) :
      Conversation model party (said :: rest) after

theorem Conversation.append {I : Interface} {γ : Type} {model : PartyModel I γ}
    {party middle after : γ} {a b : List (Said I)} (ha : Conversation model party a middle)
    (hb : Conversation model middle b after) : Conversation model party (a ++ b) after := by
  induction ha with
  | nil party => exact hb
  | cons h hrest ih => exact .cons h (ih hb)

namespace Chromium

variable {γ : Type} {model : PartyModel interface γ} {request : Bridge.Request}

def evaluated (expression : Expression) (answer : Answer (Option Json)) : Said interface :=
  ⟨.evaluate expression, answer⟩

/-! ### One evaluation -/

inductive Means : Answer (Option Json) → Except EvaluationError Json → Prop
  | value (value : Json) : Means (.value (some value)) (.ok value)
  | nothing : Means (.value none) (.error (.other "Failed to get result: No value found"))
  | hung : Means .silence (.error .timeout)
  | between {message : String} (h : ∃ mark ∈ contextMarks, Text.contains message mark = true) :
      Means (.failure message) (.error (.context message))
  | broken {message : String} (h : ∀ mark ∈ contextMarks, Text.contains message mark = false) :
      Means (.failure message) (.error (.other message))

theorem judge_means (answer : Answer (Option Json)) : Means answer (judge answer) := by
  cases answer with
  | silence => exact .hung
  | value value =>
    cases value with
    | none => exact .nothing
    | some value => exact .value value
  | failure message =>
    rw [judge]
    cases h : isContextFailure message with
    | true => exact .between (List.any_eq_true.1 h)
    | false => exact .broken fun mark hmark => by simpa using List.any_eq_false.1 h mark hmark

/-- How long an evaluation has been waited for. Only one that hangs takes time. -/
def lasted {α : Type} : Except EvaluationError α → Nat
  | .error .timeout => 10000
  | _ => 0

theorem evaluate_evaluated (model : PartyModel interface γ) (expression : Expression) (party : γ) :
    ∃ (answer : Answer (Option Json)) (came : Except EvaluationError Json) (after : γ),
      Means answer came ∧ Conversation model party [evaluated expression answer] after ∧
      ∀ time, evaluate model expression party time =
        ⟨after, time + lasted came, [.evaluate expression], some came⟩ := by
  have hsaid : Conversation model party
      [evaluated expression (model party (.evaluate expression)).answer]
      (model party (.evaluate expression)).party :=
    .cons rfl (.nil _)
  refine ⟨_, _, _, judge_means _, hsaid, fun time => ?_⟩
  have hask : Exchange.askWithin model evaluationLimit (.evaluate expression) party time =
      ⟨(model party (.evaluate expression)).party,
        time + lasted (judge (model party (.evaluate expression)).answer), [.evaluate expression],
        some (model party (.evaluate expression)).answer⟩ := by
    simp only [Exchange.askWithin]
    cases (model party (.evaluate expression)).answer with
    | silence => rfl
    | value value => cases value <;> rfl
    | failure message =>
      simp only [judge]
      cases isContextFailure message <;> rfl
  rw [evaluate, Exchange.bind_of_eq hask]
  rfl

/-! ### One attempt -/

/-- Making sure that the bridge is there: it is looked for, and installed unless the answer is yes.
A failing evaluation ends this. -/
inductive Ensured : List (Said interface) → Except EvaluationError Unit → Prop
  | there {answer : Answer (Option Json)} (hcheck : Means answer (.ok (.bool true))) :
      Ensured [evaluated .check answer] (.ok ())
  | unchecked {answer : Answer (Option Json)} {error : EvaluationError}
      (hcheck : Means answer (.error error)) : Ensured [evaluated .check answer] (.error error)
  | installed {checked answer : Answer (Option Json)} {value done : Json}
      (hcheck : Means checked (.ok value)) (hmissing : value ≠ .bool true)
      (hinstall : Means answer (.ok done)) :
      Ensured [evaluated .check checked, evaluated .install answer] (.ok ())
  | uninstalled {checked answer : Answer (Option Json)} {value : Json} {error : EvaluationError}
      (hcheck : Means checked (.ok value)) (hmissing : value ≠ .bool true)
      (hinstall : Means answer (.error error)) :
      Ensured [evaluated .check checked, evaluated .install answer] (.error error)

inductive Attempted (request : Bridge.Request) :
    List (Said interface) → Except EvaluationError Json → Prop
  | sent {said : List (Said interface)} (hensured : Ensured said (.ok ()))
      {answer : Answer (Option Json)} {came : Except EvaluationError Json}
      (hanswer : Means answer came) :
      Attempted request (said ++ [evaluated (.process request) answer]) came
  | unsent {said : List (Said interface)} {error : EvaluationError}
      (hensured : Ensured said (.error error)) : Attempted request said (.error error)

theorem ensure_ensured (model : PartyModel interface γ) (party : γ) :
    ∃ (said : List (Said interface)) (done : Except EvaluationError Unit) (after : γ),
      Ensured said done ∧ Conversation model party said after ∧
      ∀ time, ensure model party time =
        ⟨after, time + lasted done, said.map Said.call, some done⟩ := by
  obtain ⟨checked, came, middle, hmeans, hsaid, hcheck⟩ := evaluate_evaluated model .check party
  cases came with
  | error error =>
    refine ⟨_, .error error, middle, .unchecked hmeans, hsaid, fun time => ?_⟩
    rw [ensure, Exchange.bind_of_eq (hcheck time)]
    cases error <;> rfl
  | ok value =>
    by_cases hthere : value = .bool true
    · subst hthere
      refine ⟨_, .ok (), middle, .there hmeans, hsaid, fun time => ?_⟩
      rw [ensure, Exchange.bind_of_eq (hcheck time)]
      rfl
    · obtain ⟨answer, came, after, hanswer, hlater, hinstall⟩ :=
        evaluate_evaluated model .install middle
      have hmissing : Bridge.isInstalled value = false := by
        simpa using mt (Bridge.isInstalled_iff value).1 hthere
      have hensure (time : Nat) : ensure model party time = ⟨after, time + lasted came,
          [.evaluate .check, .evaluate .install], some (came.map fun _ => ())⟩ := by
        rw [ensure, Exchange.bind_of_eq (hcheck time)]
        simp only [hmissing, Bool.false_eq_true, if_false]
        rw [Exchange.bind_of_eq (hinstall _)]
        rfl
      cases came with
      | ok done =>
        exact ⟨_, _, after, .installed hmeans hthere hanswer, hsaid.append hlater, hensure⟩
      | error error =>
        refine ⟨_, _, after, .uninstalled hmeans hthere hanswer, hsaid.append hlater, ?_⟩
        intro time
        rw [hensure]
        cases error <;> rfl

theorem attempt_attempted (model : PartyModel interface γ) (request : Bridge.Request) (party : γ) :
    ∃ (said : List (Said interface)) (came : Except EvaluationError Json) (after : γ),
      Attempted request said came ∧ Conversation model party said after ∧
      ∀ time, attempt model request party time =
        ⟨after, time + lasted came, said.map Said.call, some came⟩ := by
  obtain ⟨said, done, middle, hensured, hsaid, hensure⟩ := ensure_ensured model party
  cases done with
  | error error =>
    refine ⟨said, .error error, middle, .unsent hensured, hsaid, fun time => ?_⟩
    rw [attempt, Exchange.bind_of_eq (hensure time)]
    cases error <;> simp [lasted]
  | ok done =>
    obtain ⟨answer, came, after, hanswer, hlater, hprocess⟩ :=
      evaluate_evaluated model (.process request) middle
    refine ⟨_, came, after, .sent hensured hanswer, hsaid.append hlater, fun time => ?_⟩
    rw [attempt, Exchange.bind_of_eq (hensure time)]
    simp only
    rw [hprocess]
    simp [lasted, evaluated]

theorem Ensured.call_ne {said : List (Said interface)} {done : Except EvaluationError Unit}
    (h : Ensured said done) : ∀ one ∈ said, one.call ≠ .evaluate (.process request) := by
  cases h <;> simp [evaluated]

/-- A request whose evaluation has a value is the last thing in its attempt, which comes to that
value. -/
theorem Attempted.of_value {said early late : List (Said interface)}
    {came : Except EvaluationError Json} {value : Json} (h : Attempted request said came)
    (hsaid : said = early ++ evaluated (.process request) (.value (some value)) :: late) :
    late = [] ∧ came = .ok value := by
  cases h with
  | @sent before hensured answer came hanswer =>
    rcases List.eq_nil_or_concat late with rfl | ⟨late, last, rfl⟩
    · obtain ⟨rfl, hlast⟩ := List.append_inj' hsaid rfl
      simp only [evaluated, List.cons.injEq, Said.mk.injEq, heq_eq_eq, true_and, and_true] at hlast
      subst hlast
      cases hanswer
      exact ⟨rfl, rfl⟩
    · have hbefore : before =
          early ++ evaluated (.process request) (.value (some value)) :: late := by
        rw [List.concat_eq_append, ← List.cons_append, ← List.append_assoc] at hsaid
        exact (List.append_inj' hsaid rfl).1
      exact absurd rfl (hensured.call_ne (evaluated (.process request) (.value (some value)))
        (by simp [hbefore]))
  | unsent hensured =>
    exact absurd rfl (hensured.call_ne (evaluated (.process request) (.value (some value)))
      (by simp [hsaid]))

/-! ### Attempts that follow one another -/

variable [Bridge.Wording]

/-- What a request comes to by an attempt that met no page between documents. -/
inductive Decides (request : Bridge.Request) :
    Except EvaluationError Json → Except PageError (Option Handle) → Prop
  | decoded {value : Json} {response : Bridge.Response}
      (h : Bridge.Response.ofJson? value = some response) :
      Decides request (.ok value) (response.result request)
  | garbled {value : Json} (h : Bridge.Response.ofJson? value = none) :
      Decides request (.ok value)
        (.error (.serialization (Bridge.Wording.unreadable value)))
  | hung : Decides request (.error .timeout)
      (.error (.bridge (request.op ++ " timed out - possibly blocked by a dialog")))
  | failed (message : String) : Decides request (.error (.other message))
      (.error (.script (request.op ++ " evaluation failed: " ++ message)))

theorem decides_or_between (request : Bridge.Request) (came : Except EvaluationError Json) :
    (∃ result, Decides request came result) ∨ ∃ message, came = .error (.context message) := by
  cases came with
  | ok value =>
    cases h : Bridge.Response.ofJson? value with
    | none => exact .inl ⟨_, .garbled h⟩
    | some response => exact .inl ⟨_, .decoded h⟩
  | error error =>
    cases error with
    | timeout => exact .inl ⟨_, .hung⟩
    | other message => exact .inl ⟨_, .failed message⟩
    | context message => exact .inr ⟨message, rfl⟩

theorem sendWithin_of_decides {came : Except EvaluationError Json}
    {result : Except PageError (Option Handle)} {fallback : String} {more time later : Nat}
    {party after : γ} {sent : List Call} (h : Decides request came result)
    (hattempt : attempt model request party time = ⟨after, later, sent, some came⟩) :
    sendWithin model request fallback (more + 1) party time =
      ⟨after, later, sent, some result⟩ := by
  rw [sendWithin, Exchange.bind_of_eq hattempt]
  cases h with
  | decoded h => simp [Bridge.outcome, h]
  | garbled h => simp [Bridge.outcome, h]
  | hung => simp
  | failed message => simp

theorem sendWithin_of_between {message fallback : String} {more time later : Nat}
    {party after : γ} {sent : List Call}
    (hattempt : attempt model request party time =
      ⟨after, later, sent, some (.error (.context message))⟩) :
    let rest := sendWithin model request message more after (later + 100)
    sendWithin model request fallback (more + 1) party time =
      { rest with sent := sent ++ rest.sent } := by
  have hrested : Exchange.rest (I := interface) retryDelay after later =
    ⟨after, later + 100, [], some ()⟩ := rfl
  rw [sendWithin, Exchange.bind_of_eq hattempt]
  simp only
  rw [Exchange.bind_of_eq hrested]
  rfl

/-- The end of up to so many attempts, after so many that met a page between documents: the last
attempt decides, or it was the last one allowed and met such a page, too. It also says how long all
of them took. -/
inductive Ends (request : Bridge.Request) (budget met : Nat) :
    Except EvaluationError Json → Except PageError (Option Handle) → Nat → Prop
  | decided {came : Except EvaluationError Json} {result : Except PageError (Option Handle)}
      (h : Decides request came result) :
      Ends request budget met came result (100 * met + lasted came)
  | exhausted (message : String) (h : met + 1 = budget) :
      Ends request budget met (.error (.context message)) (.error (.bridge message))
        (100 * (met + 1))

/-- The course of up to so many attempts of a request: some that met a page between documents, and
the last one. -/
structure Course (model : PartyModel interface γ) (request : Bridge.Request) (budget : Nat)
    (party : γ) (met : List (List (Said interface))) (last : List (Said interface))
    (result : Except PageError (Option Handle)) (after : γ) (duration : Nat) : Prop where
  between : ∀ said ∈ met, ∃ message, Attempted request said (.error (.context message))
  ends : ∃ came, Attempted request last came ∧ Ends request budget met.length came result duration
  within : met.length < budget
  conversation : Conversation model party (met.flatten ++ last) after

theorem Ends.succ {budget met duration : Nat} {came : Except EvaluationError Json}
    {result : Except PageError (Option Handle)} (h : Ends request budget met came result duration) :
    Ends request (budget + 1) (met + 1) came result (100 + duration) := by
  cases h with
  | @decided came _ h =>
    have hduration : 100 + (100 * met + lasted came) = 100 * (met + 1) + lasted came := by omega
    rw [hduration]
    exact .decided h
  | exhausted message h =>
    have hduration : 100 + 100 * (met + 1) = 100 * (met + 1 + 1) := by omega
    rw [hduration]
    exact .exhausted message (by omega)

theorem Course.single {budget duration : Nat} {party after : γ} {said : List (Said interface)}
    {came : Except EvaluationError Json} {result : Except PageError (Option Handle)}
    (h : Attempted request said came) (hsaid : Conversation model party said after)
    (hends : Ends request (budget + 1) 0 came result duration) :
    Course model request (budget + 1) party [] said result after duration :=
  ⟨by simp, ⟨came, h, hends⟩, by simp, hsaid⟩

theorem Course.cons {budget duration : Nat} {party middle after : γ}
    {said last : List (Said interface)} {met : List (List (Said interface))} {message : String}
    {result : Except PageError (Option Handle)}
    (h : Attempted request said (.error (.context message)))
    (hsaid : Conversation model party said middle)
    (hrest : Course model request budget middle met last result after duration) :
    Course model request (budget + 1) party (said :: met) last result after (100 + duration) := by
  obtain ⟨hbetween, ⟨came, hlast, hends⟩, hwithin, hlater⟩ := hrest
  refine ⟨?_, ⟨came, hlast, hends.succ⟩, ?_, ?_⟩
  · rw [List.forall_mem_cons]
    exact ⟨⟨message, h⟩, hbetween⟩
  · simpa using hwithin
  · rw [List.flatten_cons, List.append_assoc]
    exact hsaid.append hlater

theorem sendWithin_course (model : PartyModel interface γ) (request : Bridge.Request)
    (fallback : String) (budget : Nat) (party : γ) (time : Nat) :
    ∃ met last result after duration,
      Course model request (budget + 1) party met last result after duration ∧
      sendWithin model request fallback (budget + 1) party time =
        ⟨after, time + duration, (met.flatten ++ last).map Said.call, some result⟩ := by
  -- On the attempts that are left after the one at hand: the budget is never zero.
  induction budget generalizing party time fallback with
  | zero =>
    obtain ⟨said, came, after, hattempted, hsaid, hattempt⟩ := attempt_attempted model request party
    rcases decides_or_between request came with ⟨result, hdecides⟩ | ⟨message, rfl⟩
    · refine ⟨[], said, result, after, _, .single hattempted hsaid (.decided hdecides), ?_⟩
      simp [sendWithin_of_decides hdecides (hattempt time)]
    · refine ⟨[], said, _, after, _, .single hattempted hsaid (.exhausted message rfl), ?_⟩
      rw [sendWithin_of_between (hattempt time)]
      simp [sendWithin, lasted]
  | succ budget ih =>
    obtain ⟨said, came, middle, hattempted, hsaid, hattempt⟩ :=
      attempt_attempted model request party
    rcases decides_or_between request came with ⟨result, hdecides⟩ | ⟨message, rfl⟩
    · refine ⟨[], said, result, middle, _, .single hattempted hsaid (.decided hdecides), ?_⟩
      simp [sendWithin_of_decides hdecides (hattempt time)]
    · obtain ⟨met, last, result, after, duration, hcourse, hsend⟩ := ih message middle (time + 100)
      refine ⟨said :: met, last, result, after, _, hcourse.cons hattempted hsaid, ?_⟩
      simp [sendWithin_of_between (hattempt time), hsend, lasted, Nat.add_assoc]

/-- Once the evaluation of a request has had a value, nothing more is evaluated. -/
theorem Course.value_last {budget duration : Nat} {party after : γ} {last : List (Said interface)}
    {met : List (List (Said interface))} {result : Except PageError (Option Handle)}
    (h : Course model request budget party met last result after duration)
    {early late : List (Said interface)} {value : Json}
    (hsaid : met.flatten ++ last =
      early ++ evaluated (.process request) (.value (some value)) :: late) :
    late = [] := by
  obtain ⟨hbetween, ⟨came, hlast, -⟩, -, -⟩ := h
  induction met generalizing early with
  | nil => exact (hlast.of_value hsaid).1
  | cons said met ih =>
    rw [List.forall_mem_cons] at hbetween
    obtain ⟨⟨message, hattempted⟩, hbetween⟩ := hbetween
    rw [List.flatten_cons, List.append_assoc, List.append_eq_append_iff] at hsaid
    rcases hsaid with ⟨middle, -, hrest⟩ | ⟨middle, hfirst, hmiddle⟩
    · exact ih hrest hbetween
    · cases middle with
      | nil =>
        have hrest : met.flatten ++ last =
            [] ++ evaluated (.process request) (.value (some value)) :: late := hmiddle.symm
        exact ih hrest hbetween
      | cons one middle =>
        obtain ⟨rfl, -⟩ := List.cons.inj hmiddle
        have hvalue := (hattempted.of_value hfirst).2
        cases hvalue

/-- A request is attempted at most ten times. An attempt looks for the bridge, installs it if need
be and then evaluates the request, up to the first evaluation that fails. The first attempt that
does not meet a page between documents decides; if there is none, the tenth failure is passed on.
There is one delay for each attempt that met such a page, and a request that has had a value is not
evaluated again. -/
theorem request_decided_by_first_settled_attempt (model : PartyModel interface γ)
    (request : Bridge.Request) (party : γ) (time : Nat) :
    let done := send model request party time
    ∃ (met : List (List (Said interface))) (last : List (Said interface))
      (came : Except EvaluationError Json) (result : Except PageError (Option Handle)),
      done.result = some result ∧
      done.sent = (met.flatten ++ last).map Said.call ∧
      Conversation model party (met.flatten ++ last) done.party ∧
      (∀ said ∈ met, ∃ message, Attempted request said (.error (.context message))) ∧
      Attempted request last came ∧ met.length < 10 ∧
      (Decides request came result ∧ done.time = time + 100 * met.length + lasted came ∨
        ∃ message, came = .error (.context message) ∧ met.length + 1 = 10 ∧
          result = .error (.bridge message) ∧ done.time = time + 100 * 10) ∧
      ∀ early value late,
        met.flatten ++ last = early ++ evaluated (.process request) (.value (some value)) :: late →
        late = [] := by
  intro done
  obtain ⟨met, last, result, after, duration, hcourse, hsend⟩ :=
    sendWithin_course model request (request.op ++ " failed after retries") 9 party time
  have hdone : done = ⟨after, time + duration, (met.flatten ++ last).map Said.call, some result⟩ :=
    hsend
  obtain ⟨came, hlast, hends⟩ := hcourse.ends
  rw [hdone]
  refine ⟨met, last, came, result, rfl, rfl, hcourse.conversation, hcourse.between, hlast,
    hcourse.within, ?_, fun early value late => hcourse.value_last⟩
  cases hends with
  | decided h => exact .inl ⟨h, by simp only; omega⟩
  | exhausted message h => exact .inr ⟨message, rfl, h, rfl, by simp only; omega⟩

end Chromium

end BrowserReplay
