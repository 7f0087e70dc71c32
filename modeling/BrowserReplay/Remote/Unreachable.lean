import BrowserReplay.Remote.Exchange

/-!
# Parties that cannot be reached
-/

namespace BrowserReplay

/-- A party that answers nothing, for a reason that is given to whoever calls. -/
def unreachable (I : Interface) (reason : String) : PartyModel I Unit :=
  fun party _ => ⟨party, .failure reason⟩

end BrowserReplay
