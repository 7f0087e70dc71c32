import BrowserReplay.Bridge.Value
import BrowserReplay.Text.Blank

/-!
# Documents

What the bridge finds in a page: elements in document order, two evaluators of expressions, and a
clock that runs timers. Elements can be taken out of the document and put back at any time; those
that are out of it stay known. A document also sees what is done to it.
-/

namespace BrowserReplay.Bridge

abbrev ElementId := String

structure Element where
  id : ElementId
  tag : String := "a"
  text : Option String := none
  outline : String := ""
  isConnected : Bool := true
  /-- What is thrown when its outline is looked at: it may have no style. -/
  outlineTrouble : Option Thrown := none
  scrolls : Bool := true
  clickTrouble : Option Thrown := none
  focusTrouble : Option Thrown := none
  valueTrouble : Option Thrown := none

/-- A timer that will put back the outline of an element. -/
structure Timer where
  delay : Slot
  element : ElementId
  outline : String

abbrev Evaluator := Json.Literal → Except Thrown (Option ElementId)

structure Document where
  elements : List Element := []
  css : Evaluator := fun _ => .ok none
  xpath : Evaluator := fun _ => .ok none
  keyTrouble : Option Thrown := none
  timers : List Timer := []

inductive Sighting where
  | css (expression : Slot)
  | xpath (expression : Slot)
  | click (element : ElementId)
  | focus (element : ElementId)
  | value (element : ElementId) (value : Slot)
  /-- The event that tells of a new value. -/
  | input (element : ElementId)
  | key (key : Slot)
  /-- An element is brought smoothly to the middle of the view. -/
  | scroll (element : ElementId)
  | timer (delay : Slot)

namespace Document

def find? (document : Document) (id : ElementId) : Option Element :=
  document.elements.find? (·.id = id)

def update (document : Document) (id : ElementId) (change : Element → Element) : Document :=
  { document with
    elements := document.elements.map fun element =>
      if element.id = id then change element else element }

def isConnected (document : Document) (id : ElementId) : Bool :=
  (document.find? id).any (·.isConnected)

def setConnected (document : Document) (id : ElementId) (isConnected : Bool) : Document :=
  document.update id ({ · with isConnected })

def setOutline (document : Document) (id : ElementId) (outline : String) : Document :=
  document.update id ({ · with outline })

def outline (document : Document) (id : ElementId) : String :=
  ((document.find? id).map (·.outline)).getD ""

def runTimers (document : Document) (timers : List Timer) : Document :=
  timers.foldl (fun document timer => document.setOutline timer.element timer.outline) document

def fire (document : Document) : Document :=
  { document.runTimers document.timers with timers := [] }

def linkText (element : Element) : String :=
  String.ofList (Text.trimBy Text.isPageBlank (element.text.getD "").toList)

def byLinkText (document : Document) (text : Slot) : Option ElementId :=
  (document.elements.find? fun element =>
    element.isConnected && element.tag = "a" && isText text (linkText element)).map (·.id)

end Document

end BrowserReplay.Bridge
