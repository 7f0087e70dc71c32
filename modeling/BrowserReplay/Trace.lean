import BrowserReplay.Page.Basic
import BrowserReplay.RunEvent

/-!
# Traces

All that can be seen of a run is one sequence of timed entries: the calls it makes to its page, the
events it tells, and remarks that only go to the log. A session adds its notices to the user. Each
output is a view of that sequence.
-/

namespace BrowserReplay

inductive Notice where
  /-- A prompt, after which the user types on the same line. -/
  | prompt (text : String)
  | message (text : String)
  | complaint (text : String)
  deriving DecidableEq, Repr, Inhabited

inductive Occurrence where
  | call (call : PageCall) (reply : call.Reply)
  | event (event : RunEvent)
  | remark (line : LogLine)
  | notice (notice : Notice)

structure Entry where
  time : Nat
  what : Occurrence

abbrev Trace := List Entry

abbrev CallRecord := (call : PageCall) × call.Reply

namespace Entry

def call? (entry : Entry) : Option (Nat × CallRecord) :=
  match entry.what with
  | .call call reply => some (entry.time, ⟨call, reply⟩)
  | _ => none

def event? (entry : Entry) : Option (Nat × RunEvent) :=
  match entry.what with
  | .event event => some (entry.time, event)
  | _ => none

def logLine? (entry : Entry) : Option LogLine :=
  match entry.what with
  | .event event => some event.logLine
  | .remark line => some line
  | .call _ _ | .notice _ => none

def notice? (entry : Entry) : Option Notice :=
  match entry.what with
  | .notice notice => some notice
  | _ => none

end Entry

namespace Trace

def calls (trace : Trace) : List (Nat × CallRecord) := trace.filterMap Entry.call?

def events (trace : Trace) : List (Nat × RunEvent) := trace.filterMap Entry.event?

def log (trace : Trace) : List LogLine := trace.filterMap Entry.logLine?

def notices (trace : Trace) : List Notice := trace.filterMap Entry.notice?

@[simp] theorem calls_append (a b : Trace) : Trace.calls (a ++ b) = Trace.calls a ++ Trace.calls b :=
  List.filterMap_append

@[simp] theorem events_append (a b : Trace) :
    Trace.events (a ++ b) = Trace.events a ++ Trace.events b :=
  List.filterMap_append

@[simp] theorem log_append (a b : Trace) : Trace.log (a ++ b) = Trace.log a ++ Trace.log b :=
  List.filterMap_append

@[simp] theorem notices_append (a b : Trace) :
    Trace.notices (a ++ b) = Trace.notices a ++ Trace.notices b :=
  List.filterMap_append

end Trace

end BrowserReplay
