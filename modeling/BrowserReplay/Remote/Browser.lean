import BrowserReplay.Page.Backend
import BrowserReplay.Remote.Exchange

/-!
# Browsers behind a connection

A browser that can be reached over a connection serves as a page: each call to the page is one
exchange with the browser. Without a connection no call succeeds.
-/

namespace BrowserReplay

structure Browser (I : Interface) (γ : Type) where
  party : γ
  isOpen : Bool := false
  /-- The calls sent to the browser, the latest first. -/
  sent : List I.Call := []
  /-- Whether something waits for the browser without end. -/
  isStalled : Bool := false

namespace Browser

variable {I : Interface} {γ : Type}

/-- What is left of a browser after something was done with it. -/
structure Done (I : Interface) (γ α : Type) where
  browser : Browser I γ
  elapsed : Nat := 0
  result : Except PageError α

/-- Carries out an exchange. Once something waits without end, nothing else ever happens. -/
def carryOut {α : Type} (browser : Browser I γ) (exchange : Exchange I γ (Except PageError α)) :
    Done I γ α :=
  if browser.isStalled then { browser, result := .error .notReady }
  else
    let done := exchange browser.party 0
    let next := { browser with party := done.party, sent := done.sent.reverse ++ browser.sent }
    match done.result with
    | some result => { browser := next, elapsed := done.time, result }
    | none =>
      { browser := { next with isStalled := true }, elapsed := done.time, result := .error .notReady }

def connect (browser : Browser I γ) (exchange : Exchange I γ (Except PageError Unit)) :
    Done I γ Unit :=
  let done := browser.carryOut exchange
  match done.result with
  | .ok () => { done with browser.isOpen := true }
  | .error _ => done

/-- Carries out an exchange that ends the connection, if there is one. It counts as ended even if
the exchange fails. -/
def disconnect (browser : Browser I γ) (exchange : Exchange I γ (Except PageError Unit)) :
    Done I γ Unit :=
  if browser.isOpen then { browser with isOpen := false }.carryOut exchange
  else { browser, result := .ok () }

def release (browser : Browser I γ) : Browser I γ := { browser with isStalled := false }

def Done.response (done : Done I γ Unit) : BackendResponse (Browser I γ) :=
  ⟨done.browser, done.result, done.elapsed⟩

/-- Browsers as pages. `serve` says how a call is carried out when there is a connection. -/
def asPage (serve : (call : PageCall) → Exchange I γ call.Reply) : PageModel (Browser I γ) :=
  fun browser call =>
    if browser.isOpen then
      let done := browser.carryOut (serve call)
      ⟨done.browser, done.result, done.elapsed⟩
    else ⟨browser, .error .notReady, 0⟩

end Browser

end BrowserReplay
