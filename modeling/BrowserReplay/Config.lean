/-!
# Settings

The settings of a replay, each with the value it has when nobody sets it. Times are milliseconds.
-/

namespace BrowserReplay

/-- How long a wait lasts at most, and how long it rests between two looks at the page. -/
structure WaitOptions where
  timeout : Nat := 5000
  interval : Nat := 300
  /-- How many looks the machine takes in a millisecond if there are no rests in between. -/
  pace : Nat := 100000
  deriving DecidableEq, Repr, Inhabited

/-- How an element is marked before it is acted on. -/
structure HighlightStyle where
  color : String := "yellow"
  duration : Nat := 1500
  deriving DecidableEq, Repr, Inhabited

namespace Config

structure Timing where
  commandDelay : Nat := 800
  waitTimeout : Nat := 5000
  pollInterval : Nat := 300
  /-- As in `WaitOptions`. It is up to the machine, and no setting. -/
  pace : Nat := 100000
  deriving DecidableEq, Repr, Inhabited

/-- Whether elements are marked, and how. -/
structure Highlight where
  enabled : Bool := true
  color : String := "yellow"
  duration : Nat := 1500
  deriving DecidableEq, Repr, Inhabited

/-- The command that carries key presses and the value that means the escape key. -/
structure Keys where
  command : String := "XType"
  escapeToken : String := "$\x7bKEY_ESC\x7d"
  deriving DecidableEq, Repr, Inhabited

/-- Whether a run goes on after it has opened another page. -/
structure Navigation where
  continueAfterOpen : Bool := false
  deriving DecidableEq, Repr, Inhabited

/-- Whether values that look like credentials are hidden. -/
structure Logging where
  maskSensitive : Bool := true
  deriving DecidableEq, Repr, Inhabited

def Timing.waitOptions (timing : Timing) : WaitOptions :=
  ⟨timing.waitTimeout, timing.pollInterval, timing.pace⟩

def Highlight.style (highlight : Highlight) : HighlightStyle := ⟨highlight.color, highlight.duration⟩

end Config

structure Config where
  timing : Config.Timing := {}
  highlight : Config.Highlight := {}
  keys : Config.Keys := {}
  navigation : Config.Navigation := {}
  logging : Config.Logging := {}
  deriving DecidableEq, Repr, Inhabited

end BrowserReplay
