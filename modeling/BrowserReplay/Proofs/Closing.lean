import BrowserReplay.Proofs.Aborted
import BrowserReplay.Proofs.Exchanges
import BrowserReplay.Proofs.Kept
import BrowserReplay.Rehearsal.Client
import BrowserReplay.Tool

/-!
# Closing a browser

A program makes the calls of a launch first. If the launch fails, no other calls follow; if it
succeeds, there are the calls that serve the page of the session, and at last one that closes the
browser (`Conduct`). That is so however the session ends, and for every browser that is reached by
exchanges of their own purposes (`Backend.Link.run_conduct`), since the session knows the browser as
a page only, and each call to the page leaves it as it serves the page (`Browser.Attached`).
-/

namespace BrowserReplay

variable {I : Interface} {γ : Type}

/-! ### Browsers behind a connection -/

namespace Browser

def calls (browser : Browser I γ) : List I.Call := browser.sent.reverse

inductive Carried (browser : Browser I γ) (exchange : Exchange I γ (Except PageError α)) :
    Done I γ α → Prop
  | ended {party : γ} {time : Nat} {sent : List I.Call} {result : Except PageError α}
      (h : exchange browser.party 0 = ⟨party, time, sent, some result⟩) :
      Carried browser exchange
        ⟨{ browser with party, sent := sent.reverse ++ browser.sent }, time, result⟩
  | waiting {party : γ} {time : Nat} {sent : List I.Call}
      (h : exchange browser.party 0 = ⟨party, time, sent, none⟩) :
      Carried browser exchange
        ⟨{ browser with party, sent := sent.reverse ++ browser.sent, isStalled := true }, time,
          .error .notReady⟩

theorem carryOut_carried (browser : Browser I γ) (h : browser.isStalled = false)
    (exchange : Exchange I γ (Except PageError α)) :
    browser.Carried exchange (browser.carryOut exchange) := by
  obtain ⟨party, isOpen, before, isStalled⟩ := browser
  obtain rfl : isStalled = false := h
  obtain ⟨⟨after, time, sent, result⟩, hdone⟩ : ∃ done, exchange party 0 = done := ⟨_, rfl⟩
  rw [carryOut, if_neg Bool.false_ne_true, hdone]
  cases result with
  | none => exact .waiting hdone
  | some result => exact .ended hdone

/-- A browser as it serves a page: it has a connection and was sent calls for the page after those
of the launch. If its party answered from the start, nothing waits for it, and the party still
answers. -/
structure Attached (model : PartyModel I γ) (awaited : I.Call → Prop) (purpose : I.Call → Purpose)
    (party : γ) (opening : List I.Call) (browser : Browser I γ) : Prop where
  isOpen : browser.isOpen = true
  calls : ∃ during, browser.calls = opening ++ during ∧ ∀ call ∈ during, purpose call = .serve
  free : Answering model awaited party →
    browser.isStalled = false ∧ Answering model awaited browser.party

variable {model : PartyModel I γ} {awaited : I.Call → Prop} {purpose : I.Call → Purpose}

/-- A call to the page leaves the browser as it serves the page. -/
theorem Attached.asPage {party : γ} {opening : List I.Call} {browser : Browser I γ}
    (h : Attached model awaited purpose party opening browser)
    {serve : (call : PageCall) → Exchange I γ call.Reply}
    (hserve : ∀ call, (serve call).Confined model awaited (purpose · = .serve)) (call : PageCall) :
    Attached model awaited purpose party opening (Browser.asPage serve browser call).page := by
  unfold Browser.asPage
  rw [if_pos h.isOpen]
  cases hstalled : browser.isStalled with
  | true =>
    rw [carryOut, hstalled, if_pos rfl]
    exact h
  | false =>
    obtain ⟨during, hcalls, hduring⟩ := h.calls
    have hmore (sent : List I.Call) (hsent : ∀ call ∈ sent, purpose call = .serve) :
        ∃ during, (sent.reverse ++ browser.sent).reverse = opening ++ during ∧
          ∀ call ∈ during, purpose call = .serve := by
      refine ⟨during ++ sent, ?_, List.forall_mem_append.2 ⟨hduring, hsent⟩⟩
      rw [List.reverse_append, List.reverse_reverse, ← List.append_assoc, ← hcalls, Browser.calls]
    have hsent := (hserve call).sent browser.party 0
    have hends := (hserve call).ends browser.party 0
    have hcarried := carryOut_carried browser hstalled (serve call)
    generalize browser.carryOut (serve call) = done at hcarried
    cases hcarried with
    | ended hdone =>
      rw [hdone] at hsent hends
      exact ⟨h.isOpen, hmore _ hsent, fun hanswers => ⟨hstalled, (hends (h.free hanswers).2).2⟩⟩
    | waiting hdone =>
      rw [hdone] at hsent
      exact ⟨h.isOpen, hmore _ hsent, fun hanswers =>
        absurd (h.free hanswers).2 ((hserve call).not_answering hdone)⟩

end Browser

/-! ### Programs -/

namespace Backend

/-- A backend reaches its browser by exchanges with a party. The calls of each have its purpose. -/
structure Link (backend : Backend σ) (model : PartyModel I γ) where
  browser : σ → Browser I γ
  awaited : I.Call → Prop
  purpose : I.Call → Purpose
  opening : Exchange I γ (Except PageError Unit)
  serve : (call : PageCall) → Exchange I γ call.Reply
  closing : Exchange I γ (Except PageError Unit)
  opens : opening.Confined model awaited (purpose · = .launch)
  serves : ∀ call, (serve call).Confined model awaited (purpose · = .serve)
  closes : closing.Confined model awaited (purpose · = .close)
  closesOnce : ∀ party time, ∃ call, (closing party time).sent = [call]
  launch : ∀ state,
    browser (backend.launch state).state = ((browser state).connect opening).browser ∧
      (backend.launch state).result = ((browser state).connect opening).result
  page : ∀ state call, browser (backend.page state call).page =
    (Browser.asPage serve (browser state) call).page
  close : ∀ state,
    browser (backend.close state).state = ((browser state).disconnect closing).browser
  waits : ∀ state, backend.waits state = (browser state).isStalled
  release : ∀ state, browser (backend.release state) = (browser state).release

namespace Link

variable {backend : Backend σ} {model : PartyModel I γ} (link : backend.Link model)
  {party : γ} {opening : List I.Call} {state : σ}

def Attached (party : γ) (opening : List I.Call) (state : σ) : Prop :=
  (link.browser state).Attached model link.awaited link.purpose party opening

end Link

end Backend

/-! ### The tools -/

section

variable [Bridge.Wording]

/-- A WebDriver session is opened by one call and closed by one. -/
def WebDriver.link (model : PartyModel interface γ) (settings : Settings) :
    (backend model settings).Link model where
  browser := id
  awaited _ := True
  purpose := Call.purpose
  opening := opening model settings
  serve := Bridge.serve (send model) (currentUrl model) (navigate model)
  closing := closing model
  opens := by
    refine .bind (.ask rfl trivial) fun answer => ?_
    cases answer <;> exact .pure _
  serves := serve_serves
  closes := by
    refine .bind (.ask rfl trivial) fun answer => ?_
    cases answer <;> exact .pure _
  closesOnce party time := by
    refine ⟨_, Exchange.sent_ask_bind model .close (fun answer _ _ => ?_) party time⟩
    cases answer <;> rfl
  launch _ := ⟨rfl, rfl⟩
  page _ _ := rfl
  close _ := rfl
  waits _ := rfl
  release _ := rfl

/-- Chromium is started in several steps and closed by one call. -/
def Chromium.link (model : PartyModel interface γ) (settings : Settings) :
    (backend model settings).Link model where
  browser := State.browser
  awaited := Call.isAwaited
  purpose := Call.purpose
  opening := start model settings
  serve := Bridge.serve (send model) (currentUrl model) (navigate model)
  closing := step model "Error closing browser: " .close
  opens := start_confined model settings
  serves := serve_serves
  closes := step_confined _ rfl nofun
  closesOnce party time := ⟨_, sent_step _ _ party time⟩
  launch state := by
    have hprofile : (state.withProfile settings).browser = state.browser := by
      unfold State.withProfile
      split <;> rfl
    rw [← hprofile]
    exact ⟨rfl, rfl⟩
  page _ _ := rfl
  close _ := rfl
  waits _ := rfl
  release _ := rfl

end

end BrowserReplay
