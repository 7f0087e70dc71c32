import BrowserReplay.Page.Basic

/-!
# Rehearsal pages

A page made up for trying out scripts without a browser. It holds elements, each found by one
selector, some of them only after a few looks or only for a few; selectors that it refuses; and
faults, which make calls of one kind fail for a number of times or for ever. Calls take no time.
-/

namespace BrowserReplay.Rehearsal

inductive CallKind where
  | query
  | currentUrl
  | navigate
  | click
  | focus
  | setValue
  | dispatchKey
  | highlight
  deriving DecidableEq, Repr, Inhabited

def CallKind.of : PageCall → CallKind
  | .query _ => .query
  | .currentUrl => .currentUrl
  | .navigate _ => .navigate
  | .click _ => .click
  | .focus _ => .focus
  | .setValue .. => .setValue
  | .dispatchKey _ => .dispatchKey
  | .highlight .. => .highlight

structure Element where
  selector : Selector
  handle : Handle
  /-- How many more looks do not find it. -/
  misses : Nat := 0
  /-- How many looks find it after that; all if nothing is said. -/
  hits : Option Nat := none
  /-- Whether it is found but cannot be acted on. -/
  stale : Bool := false
  deriving DecidableEq, Repr, Inhabited

/-- A reason why calls of one kind fail, and how often it still does; for ever if nothing is said. -/
structure Fault where
  kind : CallKind
  error : PageError
  times : Option Nat := none
  deriving DecidableEq, Repr, Inhabited

structure Page where
  url : Option String := none
  /-- Whether the location stays the same when the page is navigated. -/
  frozen : Bool := false
  elements : List Element := []
  refused : List (Selector × PageError) := []
  faults : List Fault := []
  deriving DecidableEq, Repr, Inhabited

def Page.addElement (page : Page) (element : Element) : Page :=
  { page with elements := page.elements.filter (·.selector ≠ element.selector) ++ [element] }

def Page.refuse (page : Page) (selector : Selector) (error : PageError) : Page :=
  { page with refused := (selector, error) :: page.refused }

def Fault.isActive (fault : Fault) : Bool := fault.times ≠ some 0

def Fault.spent (fault : Fault) : Fault := { fault with times := fault.times.map (· - 1) }

def Page.fault? (page : Page) (kind : CallKind) : Option (PageError × Page) :=
  (page.faults.find? fun fault => fault.kind = kind && fault.isActive).map fun found =>
    (found.error,
      { page with faults := page.faults.map fun fault =>
          if fault.kind = kind then fault.spent else fault })

def Element.look (element : Element) : Bool × Element :=
  if element.misses > 0 then (false, { element with misses := element.misses - 1 })
  else
    match element.hits with
    | none => (true, element)
    | some 0 => (false, element)
    | some (n + 1) => (true, { element with hits := some n })

def Page.look (page : Page) (selector : Selector) : Option Handle × Page :=
  match page.elements.find? (·.selector = selector) with
  | none => (none, page)
  | some element =>
    let (found, looked) := element.look
    (if found then some element.handle else none,
      { page with elements := page.elements.map fun other =>
          if other.selector = selector then looked else other })

/-- The element of a handle is there but cannot be acted on. -/
def Page.isStale (page : Page) (handle : Handle) : Bool :=
  page.elements.any fun element => element.handle = handle && element.stale

def Page.actOn (page : Page) (handle : Handle) : Except PageError Unit :=
  if page.isStale handle then .error (.staleElement handle) else .ok ()

/-- How a rehearsal page responds. A refused selector comes before a fault, and a fault before
anything else. -/
def respond : PageModel Page := fun page call =>
  match page.fault? (.of call), call with
  | fault, .query selector =>
    match page.refused.lookup selector, fault with
    | some error, _ => ⟨page, .error error, 0⟩
    | none, some (error, page) => ⟨page, .error error, 0⟩
    | none, none =>
      let (found, page) := page.look selector
      ⟨page, .ok found, 0⟩
  | some (error, page), _ => ⟨page, .error error, 0⟩
  | none, .currentUrl =>
    match page.url with
    | some url => ⟨page, .ok url, 0⟩
    | none => ⟨page, .error (.other "Page has no location"), 0⟩
  | none, .navigate url =>
    let page := if page.frozen then page else { page with url := some url }
    ⟨page, .ok { url, title := "" }, 0⟩
  | none, .dispatchKey _ => ⟨page, .ok (), 0⟩
  | none, .click handle => ⟨page, page.actOn handle, 0⟩
  | none, .focus handle => ⟨page, page.actOn handle, 0⟩
  | none, .setValue handle _ => ⟨page, page.actOn handle, 0⟩
  | none, .highlight handle _ => ⟨page, page.actOn handle, 0⟩

end BrowserReplay.Rehearsal
