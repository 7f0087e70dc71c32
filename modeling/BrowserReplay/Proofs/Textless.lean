import BrowserReplay.Proofs.Alike
import BrowserReplay.Rehearsal.Page

/-!
# Pages that ignore texts

A page can answer alike whatever texts are written into its elements. Two such pages that have seen
the same calls but for the texts cannot be told apart, so a visit that writes another text is alike
to the first one (`Likeness.textless`).
-/

namespace BrowserReplay

open Visit

def PageCall.withoutText : PageCall → PageCall
  | .setValue handle _ => .setValue handle ""
  | call => call

def CallRecord.withoutText : CallRecord → CallRecord
  | ⟨.setValue handle _, reply⟩ => ⟨.setValue handle "", reply⟩
  | record => record

def Entry.withoutText (entry : Entry) : Entry :=
  match entry.what with
  | .call call reply =>
    { entry with
      what := .call (CallRecord.withoutText ⟨call, reply⟩).1
        (CallRecord.withoutText ⟨call, reply⟩).2 }
  | _ => entry

/-- What a page answers to a sequence of calls, and how long it takes each time. -/
def PageModel.answers (model : PageModel σ) : σ → List PageCall → List (CallRecord × Nat)
  | _, [] => []
  | page, call :: calls =>
    (⟨call, (model page call).reply⟩, (model page call).elapsed) ::
      answers model (model page call).page calls

/-- Two pages answer alike to calls that differ only in the texts that they write. -/
def Indistinct (model : PageModel σ) (page other : σ) : Prop :=
  ∀ calls calls' : List PageCall, calls.map PageCall.withoutText = calls'.map PageCall.withoutText →
    (PageModel.answers model page calls).map (Prod.map CallRecord.withoutText id) =
      (PageModel.answers model other calls').map (Prod.map CallRecord.withoutText id)

/-- The answers of a page do not depend on the texts written into it. -/
def IgnoresText (model : PageModel σ) (page : σ) : Prop := Indistinct model page page

theorem Indistinct.answer {model : PageModel σ} {page other : σ} (h : Indistinct model page other)
    (call call' : PageCall) (hcall : call.withoutText = call'.withoutText) :
    CallRecord.withoutText ⟨call, (model page call).reply⟩ =
        CallRecord.withoutText ⟨call', (model other call').reply⟩ ∧
      (model page call).elapsed = (model other call').elapsed ∧
      Indistinct model (model page call).page (model other call').page := by
  have hfirst := (List.cons.inj (h [call] [call'] (congrArg (· :: []) hcall))).1
  obtain ⟨hreply, helapsed⟩ := Prod.mk.inj hfirst
  refine ⟨hreply, helapsed, fun calls calls' hcalls => ?_⟩
  have hboth : (call :: calls).map PageCall.withoutText =
      (call' :: calls').map PageCall.withoutText := by
    rw [List.map_cons, List.map_cons, hcall, hcalls]
  exact (List.cons.inj (h (call :: calls) (call' :: calls') hboth)).2

theorem CallRecord.reply_eq {call : PageCall} {reply reply' : call.Reply}
    (h : withoutText ⟨call, reply⟩ = withoutText ⟨call, reply'⟩) : reply = reply' := by
  cases call <;> exact eq_of_heq (Sigma.mk.inj h).2

/-! ### Pages that respond the same to every text -/

theorem PageCall.eq_or_setValue {call call' : PageCall} (h : call.withoutText = call'.withoutText) :
    call = call' ∨
      ∃ handle text text', call = .setValue handle text ∧ call' = .setValue handle text' := by
  cases call with
  | setValue handle text =>
    cases call' with
    | setValue handle' text' =>
      obtain rfl : handle = handle' := (PageCall.setValue.inj h).1
      exact .inr ⟨handle, text, text', rfl, rfl⟩
    | _ => cases h
  | _ =>
    cases call' with
    | setValue handle' text' => cases h
    | _ => exact .inl h

/-- A page ignores texts if it responds the same whatever text is written. -/
theorem ignoresText_of_setValue {model : PageModel σ}
    (h : ∀ page handle text text',
      (model page (.setValue handle text)).page = (model page (.setValue handle text')).page ∧
        (model page (.setValue handle text)).reply = (model page (.setValue handle text')).reply ∧
          (model page (.setValue handle text)).elapsed =
            (model page (.setValue handle text')).elapsed)
    (page : σ) : IgnoresText model page := by
  intro calls
  induction calls generalizing page with
  | nil =>
    intro calls' hcalls
    obtain rfl := List.map_eq_nil_iff.1 hcalls.symm
    rfl
  | cons call calls ih =>
    intro calls' hcalls
    obtain ⟨call', rest', rfl, hcall, hrest⟩ := List.map_eq_cons_iff.1 hcalls.symm
    rw [PageModel.answers, PageModel.answers, List.map_cons, List.map_cons]
    obtain rfl | ⟨handle, text, text', rfl, rfl⟩ := PageCall.eq_or_setValue hcall.symm
    · exact congrArg (_ :: ·) (ih _ rest' hrest.symm)
    · obtain ⟨hpage, hreply, helapsed⟩ := h page handle text text'
      rw [← hpage, ih _ rest' hrest.symm]
      refine congrArg (· :: _) (Prod.ext ?_ helapsed)
      exact congrArg (Sigma.mk (PageCall.setValue handle "")) hreply

theorem Rehearsal.respond_ignoresText (page : Page) : IgnoresText respond page := by
  refine ignoresText_of_setValue (fun page handle text text' => ?_) page
  unfold respond
  dsimp only [CallKind.of]
  cases page.fault? .setValue <;> exact ⟨rfl, rfl, rfl⟩

/-! ### Writing another text -/

/-- Pages that answer alike, and traces without the texts that are written. -/
def Likeness.textless (model : PageModel σ) : Likeness model where
  same := Indistinct model
  view := Entry.withoutText
  reply h _ := (CallRecord.reply_eq (h.answer _ _ rfl).1).symm
  elapsed h _ := (h.answer _ _ rfl).2.1.symm
  next h _ := (h.answer _ _ rfl).2.2

namespace Visit.Alike

variable {model : PageModel σ} {likeness : Likeness model} {duration : Nat}

/-- A page that ignores texts answers alike to writing one text and another. -/
theorem setValue_textless (handle : Handle) (text text' : String) :
    Alike (Likeness.textless model) duration (@Eq (Except PageError Unit))
      (Visit.call model (.setValue handle text)) (Visit.call model (.setValue handle text')) := by
  intro page other time hpage
  obtain ⟨hrecord, helapsed, hnext⟩ :=
    hpage.answer (.setValue handle text) (.setValue handle text') rfl
  have hreply := eq_of_heq (Sigma.mk.inj hrecord).2
  refine ⟨hnext, ?_, ?_, hreply⟩
  · simp only [Visit.call, ← helapsed, Nat.add_right_comm]
  · simp only [Visit.call, ← hreply]
    rfl

end Visit.Alike

theorem Perform.writeInto_textless {model : PageModel σ} (duration : Nat) (text text' : String)
    (handle : Handle) :
    Alike (Likeness.textless model) duration Eq (writeInto model text handle)
      (writeInto model text' handle) := by
  refine .bind_eq (.call _) fun reply => ?_
  obtain (error : PageError) | _ := reply
  · exact .pure rfl
  · exact (Alike.setValue_textless handle text text').bind fun _ _ h => h ▸ .pure rfl

end BrowserReplay
