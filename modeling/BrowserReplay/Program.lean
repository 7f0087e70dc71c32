import BrowserReplay.EventFormat
import BrowserReplay.Page.Backend
import BrowserReplay.Session

/-!
# Programs

A program launches a browser, holds a session with it, and closes it. It prints the notices of the
session and its events; complaints go elsewhere. An event is printed when the program next waits for
something, and so after the notices of the same moment.
-/

namespace BrowserReplay

/-! ### Output -/

def Notice.printed : Notice → String
  | .prompt text => text
  | .message text => text ++ "\n"
  | .complaint _ => ""

def EventFormat.line (format : EventFormat) (event : RunEvent) : String :=
  match format with
  | .text => event.text
  | .json => event.render

namespace Trace

/-- What is printed from a time on, with lines that were held back until the next wait. -/
def printedFrom (format : EventFormat) (time : Nat) (held : String) : Trace → String
  | [] => held
  | entry :: rest =>
    let (due, held) := if entry.time = time then ("", held) else (held, "")
    due ++
      match entry.what with
      | .notice notice => notice.printed ++ printedFrom format entry.time held rest
      | .event event => printedFrom format entry.time (held ++ format.line event ++ "\n") rest
      | .call .. | .remark _ => printedFrom format entry.time held rest

def printed (format : EventFormat) (trace : Trace) : String := trace.printedFrom format 0 ""

end Trace

/-! ### Running -/

inductive ExitStatus where
  | success
  | failure
  /-- The command line makes no sense. -/
  | misuse
  deriving DecidableEq, Repr, Inhabited

def ExitStatus.code : ExitStatus → Nat
  | .success => 0
  | .failure => 1
  | .misuse => 2

/-- What a program leaves. It has no status if it never ends. -/
structure Ended (σ : Type) where
  state : σ
  time : Nat
  trace : Trace
  status : Option ExitStatus
  complaint : Option String := none

/-- Whether a session has ended over a line that is not text. That ends it also while its page is
waited for. -/
def Session.isCutOff : Except SessionError Unit → Bool
  | .error (.input _) => true
  | .ok () | .error (.settings _) | .error (.script _) | .error (.page _) => false

def afterInputs (inputs : List TimedInput) : Nat := (inputs.map (·.time)).foldr max 0 + 1

def Ended.never (state : σ) (time : Nat) (trace : Trace) : Ended σ :=
  { state, time, trace, status := none }

namespace Backend

/-- The page of a session that gets these inputs. A call that is never answered outlasts them: they
are served while it is waited for. -/
def patientPage (backend : Backend σ) (inputs : List TimedInput) : PageModel σ :=
  fun state call =>
    let response := backend.page state call
    if backend.waits response.page then { response with elapsed := afterInputs inputs }
    else response

/-- The session that is held with a browser once it has been launched. -/
def session (backend : Backend σ) (storage : Storage) (options : SessionOptions)
    (inputs : List TimedInput) (launched : BackendResponse σ) : Session σ :=
  Session.hold (backend.patientPage inputs) storage options inputs launched.state launched.elapsed

/-- Closes the browser after a session. A session that waits for it without end goes on for ever,
unless it is cut off; then what waits is given up first. -/
def conclude (backend : Backend σ) (session : Session σ) : Ended σ :=
  match session.result with
  | none => .never session.page session.time session.trace
  | some result =>
    if backend.waits session.page && !Session.isCutOff result then
      .never session.page session.time session.trace
    else
      let closed := backend.close (backend.release session.page)
      let time := session.time + closed.elapsed
      if backend.waits closed.state then .never closed.state time session.trace
      else
        let complaint := match closed.result, result with
          | .error error, _ => some error.message
          | .ok (), .error error => some error.message
          | .ok (), .ok () => none
        { state := closed.state, time, trace := session.trace,
          status := some (if complaint.isSome then .failure else .success), complaint }

/-- Holds a session with a browser, which is launched before and closed afterwards, however the
session has ended. Without a launch there is neither a session nor a close. -/
def run (backend : Backend σ) (storage : Storage) (options : SessionOptions)
    (inputs : List TimedInput) (state : σ) : Ended σ :=
  let launched := backend.launch state
  match launched.result with
  | .error error =>
    if backend.waits launched.state then .never launched.state launched.elapsed []
    else
      { state := launched.state, time := launched.elapsed, trace := [], status := some .failure,
        complaint := some error.message }
  | .ok () => backend.conclude (backend.session storage options inputs launched)

end Backend

end BrowserReplay
