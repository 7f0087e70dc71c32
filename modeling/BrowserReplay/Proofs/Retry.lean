import BrowserReplay.Rehearsal.Client
import BrowserReplay.WebDriver

/-!
# Requests that are tried again

What a request to the bridge comes to is told from the scripts that were run for it and what the
client answered to each. `Verdict` says what an answer to the request itself means, `Tried` which
scripts one try runs and what comes of it, and `Sends` how tries follow one another. The functions
that talk to the client are shown to do what these say (`send_sends`).
-/

namespace BrowserReplay

/-! ### Conversations -/

def Answer.ofExcept : Except String α → Answer α
  | .ok given => .value given
  | .error message => .failure message

namespace Exchange

variable {I : Interface} {γ : Type}

theorem ask_of_answer {model : PartyModel I γ} {call : I.Call} {party : γ}
    {answer : Except String (I.Result call)}
    (h : (model party call).answer = .ofExcept answer) (time : Nat) :
    ask model call party time = ⟨(model party call).party, time, [call], some answer⟩ := by
  simp only [ask, h]
  cases answer <;> rfl

end Exchange

theorem Answer.exists_ofExcept {answer : Answer α} (h : answer ≠ .silence) :
    ∃ given, answer = .ofExcept given := by
  cases answer with
  | value value => exact ⟨.ok value, rfl⟩
  | failure message => exact ⟨.error message, rfl⟩
  | silence => exact absurd rfl h

namespace WebDriver

variable {γ : Type} {model : PartyModel interface γ} {request : Bridge.Request}

/-- A script that a client was told to run, and its answer. -/
structure Told where
  script : PageScript
  arguments : List Json
  answer : Except String Json

def Told.call (told : Told) : Call := .execute told.script told.arguments

/-- A client is told to run these scripts, one after the other, and answers so. -/
inductive Answers (model : PartyModel interface γ) : γ → List Told → γ → Prop
  | nil (party : γ) : Answers model party [] party
  | cons {party after : γ} {told : Told} {rest : List Told}
      (h : (model party told.call).answer = .ofExcept told.answer)
      (hrest : Answers model (model party told.call).party rest after) :
      Answers model party (told :: rest) after

theorem Answers.append {party middle after : γ} {a b : List Told}
    (ha : Answers model party a middle) (hb : Answers model middle b after) :
    Answers model party (a ++ b) after := by
  induction ha with
  | nil party => exact hb
  | cons h hrest ih => exact .cons h (ih hb)

/-! ### Making sure of the bridge -/

/-- Making sure that the bridge is there: it is looked for, and installed unless the answer is yes.
-/
inductive Ensured : List Told → Except String Unit → Prop
  | there : Ensured [⟨.check, [], .ok (.bool true)⟩] (.ok ())
  | installed {checked : Except String Json} (h : checked ≠ .ok (.bool true)) (value : Json) :
      Ensured [⟨.check, [], checked⟩, ⟨.install, [], .ok value⟩] (.ok ())
  | failed {checked : Except String Json} (h : checked ≠ .ok (.bool true)) (message : String) :
      Ensured [⟨.check, [], checked⟩, ⟨.install, [], .error message⟩] (.error message)

theorem Ensured.script_ne {told : List Told} {done : Except String Unit} (h : Ensured told done) :
    ∀ said ∈ told, said.script ≠ .process := by
  cases h <;> simp

theorem Ensured.length_le {told : List Told} {done : Except String Unit} (h : Ensured told done) :
    told.length ≤ 2 := by
  cases h <;> simp

/-- A client that answers every script, be it with a failure, whatever scripts it has answered
before. -/
def Responsive (model : PartyModel interface γ) (party : γ) : Prop :=
  ∀ told after, Answers model party told after →
    ∀ script arguments, (model after (.execute script arguments)).answer ≠ .silence

theorem Responsive.after {party after : γ} {told : List Told} (h : Responsive model party)
    (hanswers : Answers model party told after) : Responsive model after :=
  fun _ _ hlater => h _ _ (hanswers.append hlater)

theorem Responsive.ask {party : γ} (h : Responsive model party) (script : PageScript)
    (arguments : List Json) : ∃ answer : Except String Json,
      Answers model party [⟨script, arguments, answer⟩]
        (model party (.execute script arguments)).party ∧
      ∀ time, Exchange.ask model (.execute script arguments) party time =
        ⟨(model party (.execute script arguments)).party, time, [.execute script arguments],
          some answer⟩ := by
  obtain ⟨answer, hanswer⟩ := Answer.exists_ofExcept (h [] party (.nil party) script arguments)
  exact ⟨answer, .cons hanswer (.nil _), Exchange.ask_of_answer hanswer⟩

variable {party : γ}

theorem check_told (h : Responsive model party) :
    ∃ (checked : Except String Json) (there : Bool) (after : γ),
      (there = true ↔ checked = .ok (.bool true)) ∧
      Answers model party [⟨.check, [], checked⟩] after ∧
      ∀ time, check model party time = ⟨after, time, [.execute .check []], some there⟩ := by
  obtain ⟨checked, hanswers, hask⟩ := h.ask .check []
  cases checked with
  | ok value =>
    refine ⟨.ok value, Bridge.isInstalled value, _, ?_, hanswers, fun time => ?_⟩
    · rw [Bridge.isInstalled_iff, Except.ok.injEq]
    · rw [check, Exchange.bind_of_eq (hask time)]
      rfl
  | error message =>
    refine ⟨.error message, false, _, by simp, hanswers, fun time => ?_⟩
    rw [check, Exchange.bind_of_eq (hask time)]
    rfl

theorem ensure_ensured (h : Responsive model party) :
    ∃ (told : List Told) (done : Except String Unit) (after : γ), Ensured told done ∧
      Answers model party told after ∧
      ∀ time, ensure model party time = ⟨after, time, told.map Told.call, some done⟩ := by
  obtain ⟨checked, there, middle, hthere, hchecked, hcheck⟩ := check_told h
  cases there with
  | true =>
    obtain rfl := hthere.1 rfl
    refine ⟨_, _, middle, .there, hchecked, fun time => ?_⟩
    rw [ensure, Exchange.bind_of_eq (hcheck time)]
    rfl
  | false =>
    have hmissing : checked ≠ .ok (.bool true) := fun hchecked => by simpa using hthere.2 hchecked
    obtain ⟨answer, hanswers, hask⟩ := (h.after hchecked).ask .install []
    have hinstall (time : Nat) : ensure model party time =
        ⟨(model middle (.execute .install [])).party, time,
          [.execute .check [], .execute .install []], some (answer.map fun _ => ())⟩ := by
      rw [ensure, Exchange.bind_of_eq (hcheck time)]
      simp only [Bool.false_eq_true, if_false]
      rw [Exchange.bind_of_eq (hask time)]
      rfl
    cases answer with
    | ok value => exact ⟨_, _, _, .installed hmissing value, hchecked.append hanswers, hinstall⟩
    | error message =>
      exact ⟨_, _, _, .failed hmissing message, hchecked.append hanswers, hinstall⟩

/-! ### What answers mean -/

/-- An answer is passed on as a failure of the bridge only if it names a stale element where the
request has none, and then in its own words. -/
theorem result_eq_bridge {response : Bridge.Response} {message : String}
    (h : response.result request = .error (.bridge message)) :
    response = .error .stale message := by
  cases response with
  | ok handle => cases h
  | error kind text =>
    cases kind with
    | invalidSelector => cases h
    | script => cases h
    | stale =>
      rw [Bridge.Response.result] at h
      cases hhandle : request.handle? with
      | some handle =>
        rw [hhandle] at h
        cases h
      | none =>
        rw [hhandle] at h
        cases h
        rfl

def ops : List String := ["query", "click", "focus", "set_value", "dispatch_key", "highlight"]

theorem op_mem_ops (request : Bridge.Request) : request.op ∈ ops := by
  cases request <;> simp [Bridge.Request.op, ops]

section

variable [Bridge.Wording]

inductive Verdict (request : Bridge.Request) : Except String Json → Attempt → Prop
  | decoded {value : Json} {response : Bridge.Response} (hvalue : value ≠ .null)
      (h : Bridge.Response.ofJson? value = some response) :
      Verdict request (.ok value) (.decisive (response.result request))
  | garbled {value : Json} (hvalue : value ≠ .null) (h : Bridge.Response.ofJson? value = none) :
      Verdict request (.ok value)
        (.decisive (.error (.serialization (Bridge.Wording.unreadable value))))
  | left (handle : Handle) (h : request = .click handle) :
      Verdict request (.ok .null) (.decisive (.ok none))
  | null (h : ∀ handle, request ≠ .click handle) :
      Verdict request (.ok .null) (.indecisive (.bridge (request.op ++ " returned null")))
  | missing {message : String}
      (h : ∃ mark ∈ missingBridgeMarks, Text.contains message mark = true) :
      Verdict request (.error message) (.indecisive (.bridge message))
  | failed {message : String}
      (h : ∀ mark ∈ missingBridgeMarks, Text.contains message mark = false) :
      Verdict request (.error message)
        (.decisive (.error (.script (request.op ++ " failed: " ++ message))))

theorem judge_verdict (request : Bridge.Request) (answer : Except String Json) :
    Verdict request answer (judge request answer) := by
  cases answer with
  | error message =>
    rw [judge]
    cases h : isMissingBridge message with
    | true => exact .missing (List.any_eq_true.1 h)
    | false => exact .failed fun mark hmark => by simpa using List.any_eq_false.1 h mark hmark
  | ok value =>
    have hvalue (hnull : value ≠ .null) : Verdict request (.ok value)
        (.decisive (Bridge.outcome request value)) := by
      unfold Bridge.outcome
      cases hresponse : Bridge.Response.ofJson? value with
      | none => exact .garbled hnull hresponse
      | some response => exact .decoded hnull hresponse
    cases value with
    | null =>
      cases request with
      | click handle => exact .left handle rfl
      | _ => exact .null nofun
    | _ => exact hvalue nofun

theorem Verdict.eq_judge {answer : Except String Json} {came : Attempt}
    (h : Verdict request answer came) : came = judge request answer := by
  have hvalue {value : Json} (hvalue : value ≠ .null) :
      judge request (.ok value) = .decisive (Bridge.outcome request value) := by
    cases value with
    | null => exact absurd rfl hvalue
    | _ => rfl
  cases h with
  | decoded hnull h => rw [hvalue hnull, Bridge.outcome, h]
  | garbled hnull h => rw [hvalue hnull, Bridge.outcome, h]
  | left handle h =>
    subst h
    rfl
  | null h =>
    cases request with
    | click handle => exact absurd rfl (h handle)
    | _ => rfl
  | missing h =>
    have hsome : isMissingBridge _ = true := List.any_eq_true.2 h
    rw [judge, hsome]
    rfl
  | failed h =>
    have hnone : isMissingBridge _ = false := List.any_eq_false.2 fun mark hmark => by
      rw [h mark hmark]
      exact Bool.false_ne_true
    rw [judge, hnone]
    rfl

/-! ### One try -/

/-- One try: the request is sent unless the bridge could not be installed. -/
inductive Tried (request : Bridge.Request) : List Told → Attempt → Prop
  | sent {told : List Told} (h : Ensured told (.ok ())) {answer : Except String Json}
      {attempt : Attempt} (hverdict : Verdict request answer attempt) :
      Tried request (told ++ [⟨.process, [request.toJson], answer⟩]) attempt
  | unsent {told : List Told} {message : String} (h : Ensured told (.error message)) :
      Tried request told (.indecisive (.bridge ("Failed to inject bridge: " ++ message)))

theorem attempt_tried (h : Responsive model party) (request : Bridge.Request) :
    ∃ (told : List Told) (came : Attempt) (after : γ), Tried request told came ∧
      Answers model party told after ∧
      ∀ time, attempt model request party time = ⟨after, time, told.map Told.call, some came⟩ := by
  obtain ⟨told, done, middle, hensured, htold, hensure⟩ := ensure_ensured h
  cases done with
  | error message =>
    refine ⟨told, _, middle, .unsent hensured, htold, fun time => ?_⟩
    rw [attempt, Exchange.bind_of_eq (hensure time)]
    simp
  | ok done =>
    obtain ⟨answer, hanswers, hask⟩ := (h.after htold).ask .process [request.toJson]
    refine ⟨_, _, _, .sent hensured (judge_verdict request answer), htold.append hanswers,
      fun time => ?_⟩
    rw [attempt, Exchange.bind_of_eq (hensure time)]
    simp only
    rw [Exchange.bind_of_eq (hask time)]
    simp [Told.call]

/-! ### Tries that follow one another -/

/-- Up to so many tries of a request, from a party and a time on, and what comes of them. After a
try that decides nothing there is a delay and then another one, if that was not the last. -/
inductive Sends (model : PartyModel interface γ) (request : Bridge.Request) :
    Nat → γ → Nat → List (List Told) → Except PageError (Option Handle) → γ → Nat → Prop
  | decisive {budget : Nat} {party after : γ} {time : Nat} {told : List Told}
      {result : Except PageError (Option Handle)} (h : Tried request told (.decisive result))
      (hanswers : Answers model party told after) :
      Sends model request (budget + 1) party time [told] result after time
  | last {party after : γ} {time : Nat} {told : List Told} {error : PageError}
      (h : Tried request told (.indecisive error)) (hanswers : Answers model party told after) :
      Sends model request 1 party time [told] (.error error) after time
  | again {budget : Nat} {party middle after : γ} {time later : Nat} {told : List Told}
      {tries : List (List Told)} {error : PageError} {result : Except PageError (Option Handle)}
      (h : Tried request told (.indecisive error)) (hanswers : Answers model party told middle)
      (hrest : Sends model request (budget + 1) middle (time + 200) tries result after later) :
      Sends model request (budget + 2) party time (told :: tries) result after later

theorem sendWithin_sends (h : Responsive model party) (request : Bridge.Request)
    (budget time : Nat) : ∃ tries result after later,
      Sends model request (budget + 1) party time tries result after later ∧
      sendWithin model request (budget + 1) party time =
        ⟨after, later, tries.flatten.map Told.call, some result⟩ := by
  -- On the tries that are left after the one at hand: the budget of `sendWithin` is never zero.
  induction budget generalizing party time with
  | zero =>
    obtain ⟨told, came, after, htried, hanswers, hattempt⟩ := attempt_tried h request
    rw [sendWithin, Exchange.bind_of_eq (hattempt time)]
    cases came with
    | decisive result => exact ⟨[told], result, after, time, .decisive htried hanswers, by simp⟩
    | indecisive error =>
      exact ⟨[told], .error error, after, time, .last htried hanswers, by simp⟩
  | succ budget ih =>
    obtain ⟨told, came, middle, htried, hanswers, hattempt⟩ := attempt_tried h request
    rw [sendWithin, Exchange.bind_of_eq (hattempt time)]
    cases came with
    | decisive result => exact ⟨[told], result, middle, time, .decisive htried hanswers, by simp⟩
    | indecisive error =>
      obtain ⟨tries, result, after, later, hrest, hsend⟩ := ih (h.after hanswers) (time + 200)
      refine ⟨told :: tries, result, after, later, .again htried hanswers hrest, ?_⟩
      have hrested : Exchange.rest (I := interface) retryDelay middle time =
        ⟨middle, time + 200, [], some ()⟩ := rfl
      simp only [Nat.add_eq_zero_iff, Nat.succ_ne_self, if_false, and_false]
      rw [Exchange.bind_of_eq hrested, hsend]
      simp

/-! ### What tries come to -/

theorem Tried.length_le {told : List Told} {came : Attempt} (h : Tried request told came) :
    told.length ≤ 3 := by
  cases h with
  | sent h hverdict =>
    have hlength := h.length_le
    rw [List.length_append, List.length_singleton]
    omega
  | unsent h => exact Nat.le_succ_of_le h.length_le

/-- The request is the last that is sent in a try, and decides what comes of it. -/
theorem Tried.of_process {told early late : List Told} {said : Told} {came : Attempt}
    (h : Tried request told came) (htold : told = early ++ said :: late)
    (hscript : said.script = .process) : late = [] ∧ Verdict request said.answer came := by
  cases h with
  | @sent before h answer attempt hverdict =>
    rcases List.eq_nil_or_concat late with rfl | ⟨late, last, rfl⟩
    · obtain ⟨rfl, hsaid⟩ := List.append_inj' htold rfl
      obtain rfl := List.singleton_inj.1 hsaid
      exact ⟨rfl, hverdict⟩
    · have hbefore : before = early ++ said :: late := by
        rw [List.concat_eq_append, ← List.cons_append, ← List.append_assoc] at htold
        exact (List.append_inj' htold rfl).1
      exact absurd hscript (h.script_ne said (by simp [hbefore]))
  | unsent h => exact absurd hscript (h.script_ne said (by simp [htold]))

/-- What stands in the way of a decision is a failure of the bridge. -/
theorem Tried.error_eq {told : List Told} {error : PageError}
    (h : Tried request told (.indecisive error)) : ∃ message, error = .bridge message := by
  cases h with
  | sent h hverdict => cases hverdict <;> exact ⟨_, rfl⟩
  | unsent h => exact ⟨_, rfl⟩

/-- What tries of a request come to: the first ones decide nothing, and the last one decides or uses
up the budget. -/
structure Ends (request : Bridge.Request) (budget : Nat) (tries : List (List Told))
    (result : Except PageError (Option Handle)) : Prop where
  early : ∀ tried ∈ tries.dropLast, ∃ message, Tried request tried (.indecisive (.bridge message))
  last : ∃ tried, tries.getLast? = some tried ∧
    (Tried request tried (.decisive result) ∨ tries.length = budget ∧
      ∃ message, Tried request tried (.indecisive (.bridge message)) ∧
        result = .error (.bridge message))

theorem Sends.ends {budget : Nat} {after : γ} {time later : Nat} {tries : List (List Told)}
    {result : Except PageError (Option Handle)}
    (h : Sends model request budget party time tries result after later) :
    Ends request budget tries result := by
  induction h with
  | @decisive _ _ _ _ told result h hanswers =>
    exact ⟨by simp, told, rfl, .inl h⟩
  | @last _ _ _ told error h hanswers =>
    obtain ⟨message, rfl⟩ := h.error_eq
    exact ⟨by simp, told, rfl, .inr ⟨rfl, message, h, rfl⟩⟩
  | @again _ _ _ _ _ _ told tries error result h hanswers hrest ih =>
    obtain ⟨message, rfl⟩ := h.error_eq
    obtain ⟨hearly, tried, hlast, hend⟩ := ih
    have hne : tries ≠ [] := by
      rintro rfl
      cases hlast
    refine ⟨?_, tried, ?_, ?_⟩
    · rw [List.dropLast_cons_of_ne_nil hne, List.forall_mem_cons]
      exact ⟨⟨message, h⟩, hearly⟩
    · rw [List.getLast?_cons, hlast]
      rfl
    · rw [List.length_cons, Nat.add_right_cancel_iff (n := 1)]
      exact hend

/-- The answers, the number and the time of tries. -/
theorem Sends.counts {budget : Nat} {after : γ} {time later : Nat} {tries : List (List Told)}
    {result : Except PageError (Option Handle)}
    (h : Sends model request budget party time tries result after later) :
    Answers model party tries.flatten after ∧ 1 ≤ tries.length ∧ tries.length ≤ budget ∧
      tries.flatten.length ≤ 3 * tries.length ∧ later = time + 200 * (tries.length - 1) := by
  induction h with
  | @decisive _ _ _ _ told result h hanswers =>
    have hlength := h.length_le
    simp [hanswers, hlength]
  | @last _ _ _ told error h hanswers =>
    have hlength := h.length_le
    simp [hanswers, hlength]
  | @again _ _ _ _ _ _ told tries error result h hanswers hrest ih =>
    have hlength := h.length_le
    obtain ⟨hlater, hpos, hle, hcalls, htime⟩ := ih
    refine ⟨hanswers.append hlater, ?_, ?_, ?_, ?_⟩ <;>
      simp only [List.length_cons, List.flatten_cons, List.length_append] <;> omega

/-- A request that has been answered decisively is the last thing that is sent. -/
theorem Sends.once {budget : Nat} {after : γ} {time later : Nat} {tries : List (List Told)}
    {result : Except PageError (Option Handle)}
    (h : Sends model request budget party time tries result after later) {early late : List Told}
    {said : Told} (htries : tries.flatten = early ++ said :: late)
    (hscript : said.script = .process) {decided : Except PageError (Option Handle)}
    (hverdict : Verdict request said.answer (.decisive decided)) : late = [] := by
  induction h generalizing early with
  | @decisive _ _ _ _ told result h hanswers =>
    rw [List.flatten_singleton] at htries
    exact (h.of_process htries hscript).1
  | @last _ _ _ told error h hanswers =>
    rw [List.flatten_singleton] at htries
    exact (h.of_process htries hscript).1
  | @again _ _ _ _ _ _ told tries error result h hanswers hrest ih =>
    rw [List.flatten_cons, List.append_eq_append_iff] at htries
    rcases htries with ⟨middle, -, hrest⟩ | ⟨middle, htold, hmiddle⟩
    · exact ih hrest
    · cases middle with
      | nil =>
        have hnone : tries.flatten = [] ++ said :: late := hmiddle.symm
        exact ih hnone
      | cons first middle =>
        -- The request is in the first try, and its answer has decided nothing there.
        obtain ⟨rfl, -⟩ := List.cons.inj hmiddle
        have hundecided := (h.of_process htold hscript).2.eq_judge
        rw [← hverdict.eq_judge] at hundecided
        cases hundecided

/-! ### The last word -/

theorem Tried.of_bridge {told : List Told} {message : String}
    (h : Tried request told (.decisive (.error (.bridge message)))) :
    ∃ earlier value, told = earlier ++ [⟨.process, [request.toJson], .ok value⟩] ∧
      Bridge.Response.ofJson? value = some (.error .stale message) := by
  generalize hcame : Attempt.decisive (.error (.bridge message)) = came at h
  cases h with
  | unsent h => cases hcame
  | @sent earlier _ answer _ hverdict =>
    cases hverdict with
    | @decoded value response _ hresponse =>
      have hresult := result_eq_bridge (Attempt.decisive.inj hcame).symm
      exact ⟨earlier, value, rfl, hresult ▸ hresponse⟩
    | _ => cases hcame

theorem Tried.ne_fallback {told : List Told} {error : PageError}
    (h : Tried request told (.indecisive error)) :
    error ≠ .bridge (request.op ++ " failed after maximum retries") := by
  intro hfallback
  cases h with
  | unsent h =>
    -- No tag begins like the words about the failed injection.
    have hops : ∀ op ∈ ops, op.toList.head? ≠ some 'F' := by decide
    have htext := congrArg String.toList (PageError.bridge.inj hfallback)
    rw [String.toList_append, String.toList_append] at htext
    have hhead := congrArg List.head? htext
    have hop := op_mem_ops request
    cases htag : request.op.toList with
    | nil =>
      have hnonempty : ∀ op ∈ ops, op.toList ≠ [] := by decide
      exact hnonempty _ hop htag
    | cons first rest =>
      rw [htag] at hhead
      refine hops _ hop ?_
      rw [htag]
      exact hhead.symm
  | sent h hverdict =>
    cases hverdict with
    | null h =>
      have hops : ∀ op ∈ ops, op ++ " returned null" ≠ op ++ " failed after maximum retries" := by
        decide
      exact hops _ (op_mem_ops request) (PageError.bridge.inj hfallback)
    | missing h =>
      have hops : ∀ op ∈ ops,
          isMissingBridge (op ++ " failed after maximum retries") = false := by
        decide +kernel
      have hmissing : isMissingBridge _ = true := List.any_eq_true.2 h
      rw [PageError.bridge.inj hfallback, hops _ (op_mem_ops request)] at hmissing
      cases hmissing

/-- A request is tried up to three times, 200 ms apart, as long as nothing decides it. Each try
makes sure that the bridge is there and then sends the request, unless the bridge could not be
installed. The result is that of the first decisive answer or, without one, the failure of the third
try. So a request that was answered decisively is not sent again, and the words for having made no
try never come up, unless the page itself says them. -/
theorem request_tried_until_decided (h : Responsive model party) (request : Bridge.Request)
    (time : Nat) :
    let done := send model request party time
    ∃ tries result, done.result = some result ∧
      Sends model request 3 party time tries result done.party done.time ∧
      Ends request 3 tries result ∧
      done.sent = tries.flatten.map Told.call ∧
      Answers model party tries.flatten done.party ∧
      (∀ early said late, tries.flatten = early ++ said :: late → said.script = .process →
        ∀ decided, Verdict request said.answer (.decisive decided) → late = []) ∧
      1 ≤ tries.length ∧ tries.length ≤ 3 ∧ done.sent.length ≤ 9 ∧
      done.time = time + 200 * (tries.length - 1) ∧
      (result = .error (.bridge (request.op ++ " failed after maximum retries")) → ∃ told value,
        tries.getLast? = some (told ++ [⟨.process, [request.toJson], .ok value⟩]) ∧
        Bridge.Response.ofJson? value =
          some (.error .stale (request.op ++ " failed after maximum retries"))) := by
  intro done
  obtain ⟨tries, result, after, later, hsends, hsend⟩ := sendWithin_sends h request 2 time
  have hdone : done = ⟨after, later, tries.flatten.map Told.call, some result⟩ := hsend
  obtain ⟨hanswers, hpos, hle, hcalls, htime⟩ := hsends.counts
  have hends := hsends.ends
  rw [hdone]
  refine ⟨tries, result, rfl, hsends, hends, rfl, hanswers,
    fun early said late htries hscript decided => hsends.once htries hscript, hpos, hle, ?_, htime,
    ?_⟩
  · rw [List.length_map]
    omega
  · -- A failure of the bridge is the page's own or that of a try, and no try fails in these words.
    rintro rfl
    obtain ⟨tried, hlast, hdecisive | ⟨_, message, htried, hmessage⟩⟩ := hends.last
    · obtain ⟨told, value, rfl, hresponse⟩ := hdecisive.of_bridge
      exact ⟨told, value, hlast, hresponse⟩
    · exact absurd (Except.error.inj hmessage).symm htried.ne_fallback

end

/-- A client that answers from a list is responsive if the list holds an answer to everything. -/
theorem responsive_respondWebDriver {client : Rehearsal.WebDriverClient}
    (h : ∀ reply ∈ client.replies, reply ≠ .silence) :
    Responsive Rehearsal.respondWebDriver client := by
  intro told after hanswers
  induction hanswers with
  | nil client =>
    intro script arguments
    obtain ⟨replies, refusal⟩ := client
    cases replies with
    | nil => exact nofun
    | cons reply rest =>
      have hreply := h reply List.mem_cons_self
      cases reply with
      | silence => exact absurd rfl hreply
      | _ => exact nofun
  | @cons client _ said rest hsaid hrest ih =>
    refine ih fun reply hreply => h reply ?_
    obtain ⟨replies, refusal⟩ := client
    cases replies with
    | nil => cases hreply
    | cons first later => exact List.mem_cons_of_mem first hreply

/-- A query that meets a page without its bridge, although it was there before, and is answered when
the bridge has been installed. -/
theorem query_answered_at_second_try :
    let found : Bridge.Response := .ok (some 7)
    let client : Rehearsal.WebDriverClient := { replies := [.value (.bool true),
      .failure "Cannot read properties of undefined (reading process)", .value (.bool false),
      .value .null, .value found.toJson] }
    let request : Bridge.Request := .query "css" "#go"
    let done := send Rehearsal.respondWebDriver request client 0
    Responsive Rehearsal.respondWebDriver client ∧ done.time = 200 ∧
      done.result = some (.ok (some 7)) ∧
      ∃ tries result, tries.length = 2 ∧ done.result = some result ∧
        Ends request 3 tries result := by
  intro found client request done
  have hclient : Responsive Rehearsal.respondWebDriver client :=
    responsive_respondWebDriver (by simp [client])
  obtain ⟨tries, result, hresult, _, hends, _, _, _, hpos, _, _, htime, _⟩ :=
    request_tried_until_decided hclient request 0
  have hlater : done.time = 200 := by decide +kernel
  refine ⟨hclient, hlater, by rfl, tries, result, ?_, hresult, hends⟩
  have hboth : 200 = 0 + 200 * (tries.length - 1) := hlater.symm.trans htime
  omega

end WebDriver

end BrowserReplay
