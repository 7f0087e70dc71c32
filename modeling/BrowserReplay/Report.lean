import BrowserReplay.RunState
import BrowserReplay.Sensitive
import BrowserReplay.Variables

/-!
# Reports

The summary of a run: how it ended, how its commands fared, and the variables it left.
-/

namespace BrowserReplay

/-- How the dispatched commands of a run fared. -/
structure Tally where
  succeeded : Nat := 0
  abandoned : Nat := 0
  skipped : Nat := 0
  deriving DecidableEq, Repr, Inhabited

structure Report where
  state : RunState
  dispatched : Nat
  tally : Tally
  /-- Commands never dispatched because the run ended first. -/
  remaining : Nat
  vars : Variables
  deriving DecidableEq, Repr, Inhabited

namespace Report

def variableLine (masked : Bool) (entry : String × VarValue) : String :=
  "\n- " ++ entry.1 ++ " = " ++ maskIf masked entry.1 entry.2.display

def text (masked : Bool) (report : Report) : String :=
  "Run " ++ report.state.display ++ ".\nDispatched: " ++ toString report.dispatched ++
    " (ok: " ++ toString report.tally.succeeded ++
    ", abandoned: " ++ toString report.tally.abandoned ++
    ", no-op: " ++ toString report.tally.skipped ++ ")" ++
    (if report.remaining = 0 then "" else "\nNot executed: " ++ toString report.remaining) ++
    (if report.vars.isEmpty then ""
      else "\n\nVariables:" ++
        String.join (report.vars.entries.map (variableLine masked)))

end Report

end BrowserReplay
