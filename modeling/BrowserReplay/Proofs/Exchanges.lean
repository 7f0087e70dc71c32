import BrowserReplay.Chromium
import BrowserReplay.WebDriver

/-!
# What exchanges send

A browser is driven by exchanges with a client, and each call to a client has a purpose: it launches
the browser, serves its page or closes it. An exchange is confined to calls of one purpose, and it
comes to an end if the client answers (`Exchange.Confined`). The rules follow the ways in which
exchanges are composed.
-/

namespace BrowserReplay

/-! ### What calls are for -/

inductive Purpose where
  | launch
  | serve
  | close
  deriving DecidableEq, Repr

def WebDriver.Call.purpose : Call → Purpose
  | .connect .. => .launch
  | .execute .. | .title | .currentUrl | .goto _ => .serve
  | .close => .close

def Chromium.Call.purpose : Call → Purpose
  | .configure _ | .start | .newPage _ | .listenToConsole | .listenToDialogs | .acceptDialog _ =>
    .launch
  | .evaluate _ | .url | .title | .goto _ => .serve
  | .close => .close

/-! ### Exchanges -/

variable {I : Interface} {γ : Type}

/-- From now on, whatever it is asked, a party answers every call that is waited for without end. -/
def Answering (model : PartyModel I γ) (awaited : I.Call → Prop) (party : γ) : Prop :=
  ∀ (earlier : List I.Call) (call : I.Call), awaited call →
    let later := earlier.foldl (fun party call => (model party call).party) party
    (model later call).answer ≠ .silence

theorem Answering.next {model : PartyModel I γ} {awaited : I.Call → Prop} {party : γ}
    (h : Answering model awaited party) (call : I.Call) :
    Answering model awaited (model party call).party :=
  fun earlier => h (call :: earlier)

/-- An exchange makes only such calls. If the party answers, the exchange comes to an end, and the
party goes on to answer. -/
structure Exchange.Confined (model : PartyModel I γ) (awaited allowed : I.Call → Prop)
    (exchange : Exchange I γ α) : Prop where
  sent : ∀ party time, ∀ call ∈ (exchange party time).sent, allowed call
  ends : ∀ party time, Answering model awaited party →
    (∃ result, (exchange party time).result = some result) ∧
      Answering model awaited (exchange party time).party

namespace Exchange

/-- An exchange of one call makes that call. -/
theorem sent_ask_bind (model : PartyModel I γ) (call : I.Call)
    {next : Except String (I.Result call) → Exchange I γ α}
    (hnext : ∀ result party time, (next result party time).sent = []) (party : γ) (time : Nat) :
    ((ask model call >>= next) party time).sent = [call] := by
  simp only [bind, Exchange.bind, ask]
  cases (model party call).answer with
  | value value => simp only [hnext, List.append_nil]
  | failure message => simp only [hnext, List.append_nil]
  | silence => rfl

namespace Confined

variable {model : PartyModel I γ} {awaited allowed : I.Call → Prop}

theorem pure (result : α) :
    Confined model awaited allowed (pure result : Exchange I γ α) where
  sent _ _ := nofun
  ends _ _ hanswering := ⟨⟨result, rfl⟩, hanswering⟩

theorem bind {first : Exchange I γ α} {next : α → Exchange I γ β}
    (hfirst : Confined model awaited allowed first)
    (hnext : ∀ result, Confined model awaited allowed (next result)) :
    Confined model awaited allowed (first >>= next) where
  sent party time call hcall := by
    have hearly := hfirst.sent party time
    simp only [Bind.bind, Exchange.bind] at hcall
    generalize first party time = before at hearly hcall
    obtain ⟨after, later, sent, result⟩ := before
    cases result with
    | none => exact hearly call hcall
    | some result =>
      exact (List.mem_append.1 hcall).elim (hearly call) ((hnext result).sent after later call)
  ends party time hanswering := by
    obtain ⟨⟨result, hresult⟩, hafter⟩ := hfirst.ends party time hanswering
    simp only [Bind.bind, Exchange.bind, hresult]
    exact (hnext result).ends _ _ hafter

theorem rest (duration : Nat) :
    Confined model awaited allowed (rest duration : Exchange I γ Unit) where
  sent _ _ := nofun
  ends _ _ hanswering := ⟨⟨(), rfl⟩, hanswering⟩

theorem ask {call : I.Call} (hcall : allowed call) (hawaited : awaited call) :
    Confined model awaited allowed (ask model call) where
  sent party time other hother := by
    have hsent : (Exchange.ask model call party time).sent = [call] := by
      simp only [Exchange.ask]
      cases (model party call).answer <;> rfl
    rw [hsent, List.mem_singleton] at hother
    exact hother ▸ hcall
  ends party time hanswering := by
    have hanswer := hanswering [] call hawaited
    have hafter := hanswering.next call
    simp only [Exchange.ask]
    cases h : (model party call).answer with
    | value value => exact ⟨⟨_, rfl⟩, hafter⟩
    | failure message => exact ⟨⟨_, rfl⟩, hafter⟩
    | silence => exact absurd h hanswer

/-- A call that is not waited for without end need not be answered. -/
theorem askWithin {call : I.Call} (hcall : allowed call) (limit : Nat) :
    Confined model awaited allowed (askWithin model limit call) where
  sent party time other hother := by
    have hsent : (Exchange.askWithin model limit call party time).sent = [call] := by
      simp only [Exchange.askWithin]
      cases (model party call).answer <;> rfl
    rw [hsent, List.mem_singleton] at hother
    exact hother ▸ hcall
  ends party time hanswering := by
    have hafter := hanswering.next call
    simp only [Exchange.askWithin]
    cases (model party call).answer <;> exact ⟨⟨_, rfl⟩, hafter⟩

/-- An exchange without an end has met a party that does not answer. -/
theorem not_answering {exchange : Exchange I γ α} (h : Confined model awaited allowed exchange)
    {party after : γ} {time later : Nat} {sent : List I.Call}
    (hdone : exchange party time = ⟨after, later, sent, none⟩) :
    ¬Answering model awaited party := by
  intro hanswering
  obtain ⟨⟨result, hends⟩, -⟩ := h.ends party time hanswering
  rw [hdone] at hends
  cases hends

/-- An exchange goes on after a step that succeeds. -/
theorem bind_step {first : Exchange I γ (Except ε α)} {next : α → ExceptT ε (Exchange I γ) β}
    (hfirst : first.Confined model awaited allowed)
    (hnext : ∀ result, Exchange.Confined model awaited allowed (next result).run) :
    Exchange.Confined model awaited allowed (ExceptT.mk first >>= next).run := by
  refine hfirst.bind fun done => ?_
  cases done with
  | error error => exact .pure _
  | ok result => exact hnext result

end Confined

end Exchange

/-- The calls of a page are confined if its requests are, and what else serves it. -/
theorem Bridge.serve_confined {model : PartyModel I γ} {awaited allowed : I.Call → Prop}
    {send : Request → Exchange I γ (Except PageError (Option Handle))}
    {currentUrl : Exchange I γ (Except PageError String)}
    {navigate : String → Exchange I γ (Except PageError Arrival)}
    (hsend : ∀ request, (send request).Confined model awaited allowed)
    (hcurrent : currentUrl.Confined model awaited allowed)
    (hnavigate : ∀ url, (navigate url).Confined model awaited allowed) (call : PageCall) :
    (serve send currentUrl navigate call).Confined model awaited allowed := by
  cases call with
  | query selector => exact hsend _
  | currentUrl => exact hcurrent
  | navigate url => exact hnavigate url
  | click handle => exact (hsend _).bind fun _ => .pure _
  | focus handle => exact (hsend _).bind fun _ => .pure _
  | setValue handle value => exact (hsend _).bind fun _ => .pure _
  | dispatchKey key => exact (hsend _).bind fun _ => .pure _
  | highlight handle style => exact (hsend _).bind fun _ => .pure _

namespace WebDriver

variable {model : PartyModel interface γ}

/-- A WebDriver client is waited for at every call. -/
abbrev Serves (model : PartyModel interface γ) (exchange : Exchange interface γ α) : Prop :=
  exchange.Confined model (fun _ => True) (Call.purpose · = .serve)

theorem ensure_serves : Serves model (ensure model) := by
  have hcheck : Serves model (check model) := by
    refine .bind (.ask rfl trivial) fun answer => ?_
    cases answer <;> exact .pure _
  refine hcheck.bind fun isThere => ?_
  split
  · exact .pure _
  · exact .bind (.ask rfl trivial) fun _ => .pure _

variable [Bridge.Wording]

theorem attempt_serves (request : Bridge.Request) : Serves model (attempt model request) := by
  refine ensure_serves.bind fun ensured => ?_
  cases ensured with
  | error message => exact .pure _
  | ok => exact .bind (.ask rfl trivial) fun _ => .pure _

theorem sendWithin_serves (request : Bridge.Request) (budget : Nat) :
    Serves model (sendWithin model request budget) := by
  induction budget with
  | zero => exact .pure _
  | succ more ih =>
    refine (attempt_serves request).bind fun came => ?_
    cases came with
    | decisive result => exact .pure _
    | indecisive error =>
      dsimp only
      split
      · exact .pure _
      · exact .bind (.rest _) fun _ => ih

theorem serve_serves (call : PageCall) :
    Serves model (Bridge.serve (send model) (currentUrl model) (navigate model) call) := by
  refine Bridge.serve_confined (sendWithin_serves · _) ?_ (fun url => ?_) call
  · refine .bind (.ask rfl trivial) fun answer => ?_
    cases answer <;> exact .pure _
  · refine .bind (.ask rfl trivial) fun answer => ?_
    cases answer with
    | error message => exact .pure _
    | ok =>
      exact .bind (.ask rfl trivial) fun _ => .bind (.ask rfl trivial) fun _ => .pure _

end WebDriver

namespace Chromium

variable {model : PartyModel interface γ}

/-- Chromium is waited for without end at every call but evaluations. -/
def Call.isAwaited (call : Call) : Prop := ∀ expression, call ≠ .evaluate expression

abbrev Serves (model : PartyModel interface γ) (exchange : Exchange interface γ α) : Prop :=
  exchange.Confined model Call.isAwaited (Call.purpose · = .serve)

theorem evaluate_serves (expression : Expression) : Serves model (evaluate model expression) :=
  .bind (.askWithin (by rfl) _) fun _ => .pure _

theorem ensure_serves : Serves model (ensure model) := by
  refine (evaluate_serves _).bind fun value => ?_
  cases value with
  | error error => exact .pure _
  | ok value =>
    dsimp only
    split
    · exact .pure _
    · exact (evaluate_serves _).bind fun _ => .pure _

theorem attempt_serves (request : Bridge.Request) : Serves model (attempt model request) := by
  refine ensure_serves.bind fun ensured => ?_
  cases ensured with
  | error error => exact .pure _
  | ok => exact evaluate_serves _

section

variable [Bridge.Wording]

theorem sendWithin_serves (request : Bridge.Request) (last : String) (budget : Nat) :
    Serves model (sendWithin model request last budget) := by
  induction budget generalizing last with
  | zero => exact .pure _
  | succ more ih =>
    refine (attempt_serves request).bind fun came => ?_
    obtain (_ | message | message) | value := came
    · exact .pure _
    · exact .bind (.rest _) fun _ => ih message
    · exact .pure _
    · exact .pure _

theorem serve_serves (call : PageCall) :
    Serves model (Bridge.serve (send model) (currentUrl model) (navigate model) call) := by
  refine Bridge.serve_confined (sendWithin_serves · _ _) ?_ (fun url => ?_) call
  · refine .bind (.ask rfl nofun) fun answer => ?_
    obtain message | (_ | url) := answer <;> exact .pure _
  · refine .bind (.ask rfl nofun) fun answer => ?_
    cases answer with
    | error message => exact .pure _
    | ok =>
      refine .bind (.ask rfl nofun) fun _ => .bind (.ask rfl nofun) fun answer => ?_
      cases answer <;> exact .pure _

end

theorem step_confined {allowed : Call → Prop} (what : String) {call : Call} (hcall : allowed call)
    (hawaited : call.isAwaited) :
    (step model what call).Confined model Call.isAwaited allowed := by
  refine .bind (.ask hcall hawaited) fun answer => ?_
  cases answer <;> exact .pure _

theorem acceptAll_confined (messages : List String) :
    (acceptAll model messages).Confined model Call.isAwaited (Call.purpose · = .launch) := by
  induction messages with
  | nil => exact .pure _
  | cons message rest ih => exact .bind (.ask rfl nofun) fun _ => ih

variable (model) in
theorem start_confined (settings : Settings) :
    (start model settings).Confined model Call.isAwaited (Call.purpose · = .launch) := by
  refine Exchange.Confined.bind_step (step_confined _ rfl nofun) fun _ => ?_
  refine Exchange.Confined.bind_step (step_confined _ rfl nofun) fun _ => ?_
  refine Exchange.Confined.bind_step (step_confined _ rfl nofun) fun _ => ?_
  refine Exchange.Confined.bind_step (step_confined _ rfl nofun) fun _ => ?_
  refine Exchange.Confined.bind_step (step_confined _ rfl nofun) fun dialogs => ?_
  exact (acceptAll_confined dialogs).bind fun _ => .pure _

theorem sent_step (what : String) (call : Call) (party : γ) (time : Nat) :
    (step model what call party time).sent = [call] := by
  refine Exchange.sent_ask_bind model call (fun answer _ _ => ?_) party time
  cases answer <;> rfl

end Chromium

end BrowserReplay
