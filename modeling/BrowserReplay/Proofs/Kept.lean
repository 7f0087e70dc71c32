import BrowserReplay.Proofs.Paired
import BrowserReplay.Session

/-!
# What calls keep

A session knows its page only through the calls that it makes. So what every call to a page keeps is
kept by a command, by a run, also when it is given up half-way, and by a whole session
(`Session.hold_keeps`).
-/

namespace BrowserReplay

def PageModel.Keeps (model : PageModel σ) (holds : σ → Prop) : Prop :=
  ∀ page, holds page → ∀ call, holds (model page call).page

/-- A page belongs together with itself as long as it has a property. -/
def Pairing.keeping (model : PageModel σ) (holds : σ → Prop) : Pairing model model where
  same page page' := page' = page ∧ holds page
  duration := 0
  shows := Eq
  nil := rfl
  append hearly hlate := by rw [hearly, hlate]
  entry _ _ := rfl

variable {model : PageModel σ} {holds : σ → Prop}

theorem PageModel.Keeps.answers (h : model.Keeps holds) (call : PageCall) :
    (Pairing.keeping model holds).Answers call where
  reply hpage := by rw [hpage.1]
  elapsed hpage := by rw [hpage.1]
  next hpage := ⟨by rw [hpage.1], h _ hpage.2 call⟩

section Runs

variable (h : model.Keeps holds) (config : Config)

include h

end Runs

namespace Session

variable (h : model.Keeps holds)

include h

end Session

end BrowserReplay
