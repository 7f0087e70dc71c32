import BrowserReplay.Page.Basic

/-!
# Backends

A backend is a browser that is launched, serves as a page for a while, and is closed again.
-/

namespace BrowserReplay

/-- What launching or closing a browser leaves. -/
structure BackendResponse (σ : Type) where
  state : σ
  result : Except PageError Unit
  elapsed : Nat := 0

/-- A browser with states in `σ`. -/
structure Backend (σ : Type) where
  launch : σ → BackendResponse σ
  close : σ → BackendResponse σ
  page : PageModel σ
  /-- Whether something waits for the browser without end. -/
  waits : σ → Bool
  release : σ → σ

end BrowserReplay
