import BrowserReplay.Bridge.Document
import BrowserReplay.Bridge.Message

/-!
# The bridge

The bridge gives numbers to the elements that it finds and acts on elements by their numbers. Its
table holds each element once. A number whose element is no longer in the document is struck out
when it is used, and numbers are never given again in the same document.
-/

namespace BrowserReplay.Bridge

structure HandleTable where
  entries : List (Nat × ElementId) := []
  next : Nat := 1
  deriving DecidableEq, Repr, Inhabited

namespace HandleTable

/-- The number of an element. A new element gets the next number. -/
def remember (table : HandleTable) (id : ElementId) : Nat × HandleTable :=
  match table.entries.find? (·.2 = id) with
  | some (handle, _) => (handle, table)
  | none => (table.next, ⟨table.entries ++ [(table.next, id)], table.next + 1⟩)

def forget (table : HandleTable) (handle : Nat) : HandleTable :=
  { table with entries := table.entries.filter (·.1 ≠ handle) }

/-- The element with a number, if it is still in the document; otherwise the number is struck
out. -/
def lookup (table : HandleTable) (document : Document) (handle : Slot) :
    Option ElementId × HandleTable :=
  match natural? handle with
  | none => (none, table)
  | some handle =>
    match table.entries.lookup handle with
    | some id => if document.isConnected id then (some id, table) else (none, table.forget handle)
    | none => (none, table)

end HandleTable

inductive Answer where
  | ok (handle : Json)
  | failed (kind : ErrorKind) (message : Json.Literal)
  /-- No answer: to tell what was thrown has thrown again. -/
  | broken

def Answer.toJson? : Answer → Option Json
  | .ok handle => some (.ofFields [("status", .text "ok"), ("handle", handle)])
  | .failed kind message =>
    some (.ofFields
      [("status", .text "error"), ("kind", .text kind.name), ("message", .string message)])
  | .broken => none

def Answer.telling (thrown : Thrown) : Answer :=
  match thrown.text? with
  | some text => .failed .script text
  | none => .broken

structure BridgedDocument where
  document : Document
  table : HandleTable := {}

structure Processed where
  state : BridgedDocument
  seen : List Sighting
  answer : Answer

namespace BridgedDocument

def reply (state : BridgedDocument) (seen : List Sighting) (answer : Answer) : Processed :=
  ⟨state, seen, answer⟩

/-! ### Finding elements -/

def evaluate (document : Document) (request : Json) :
    List Sighting × Except Thrown (Option ElementId) :=
  let kind := member request "kind"
  let expression := member request "value"
  if isText kind "css" then ([.css expression], document.css (slotText expression))
  else if isText kind "link_text" then ([], .ok (document.byLinkText expression))
  else ([.xpath expression], document.xpath (slotText expression))

def query (state : BridgedDocument) (request : Json) : Processed :=
  let (seen, found) := evaluate state.document request
  match found with
  | .ok (some id) =>
    let (handle, table) := state.table.remember id
    ⟨{ state with table }, seen, .ok (.nat handle)⟩
  | .ok none => state.reply seen (.ok .null)
  | .error thrown =>
    state.reply seen <|
      if thrown.isSyntaxError then .failed .invalidSelector thrown.messageText
      else .telling thrown

/-! ### Acting on elements -/

/-- What an action does: the document it leaves, what is seen, and what is thrown, if anything. -/
structure Deed where
  document : Document
  seen : List Sighting := []
  trouble : Option Thrown := none

def Deed.unless (document : Document) (trouble : Option Thrown) (seen : List Sighting) : Deed :=
  match trouble with
  | some _ => { document, trouble }
  | none => { document, seen }

def click (document : Document) (element : Element) : Deed :=
  .unless document element.clickTrouble [.click element.id]

def focus (document : Document) (element : Element) : Deed :=
  .unless document element.focusTrouble [.focus element.id]

def setValue (value : Slot) (document : Document) (element : Element) : Deed :=
  .unless document element.valueTrouble [.value element.id value, .input element.id]

/-- The outline of an element that is marked with a color. In an unsound color the page puts another
character for half of a surrogate pair. -/
def markOutline (color : Slot) : String := "3px dashed " ++ (slotText color).getD "\ufffd"

/-- Marks an element and sets a timer that puts back the outline it had. -/
def highlight (color delay : Slot) (document : Document) (element : Element) : Deed :=
  if element.outlineTrouble.isSome then { document, trouble := element.outlineTrouble }
  else
    let marked := document.setOutline element.id (markOutline color)
    { document :=
        { marked with timers := marked.timers ++ [⟨delay, element.id, element.outline⟩] },
      seen := (if element.scrolls then [.scroll element.id] else []) ++ [.timer delay] }

def staleText (handle : Slot) : Json.Literal :=
  (slotText handle).map fun text => "element " ++ text ++ " is no longer attached"

def act (state : BridgedDocument) (request : Json) (action : Document → Element → Deed) :
    Processed :=
  let handle := member request "handle"
  let (found, table) := state.table.lookup state.document handle
  match found.bind state.document.find? with
  | none => ⟨{ state with table }, [], .failed .stale (staleText handle)⟩
  | some element =>
    let deed := action state.document element
    ⟨⟨deed.document, table⟩, deed.seen,
      match deed.trouble with
      | some thrown => .telling thrown
      | none => .ok (handle.getD .null)⟩

def pressKey (state : BridgedDocument) (key : Slot) : Processed :=
  match state.document.keyTrouble with
  | some thrown => state.reply [] (.telling thrown)
  | none => state.reply [.key key] (.ok .null)

/-! ### Requests -/

def action? (request : Json) : Option (Document → Element → Deed) :=
  let op := member request "op"
  if isText op "click" then some click
  else if isText op "focus" then some focus
  else if isText op "set_value" then some (setValue (member request "value"))
  else if isText op "highlight" then
    some (highlight (member request "color") (member request "duration_ms"))
  else none

def answer (state : BridgedDocument) (request : Json) : Processed :=
  let op := member request "op"
  if isText op "query" then state.query request
  else
    match action? request with
    | some action => state.act request action
    | none =>
      if isText op "dispatch_key" then state.pressKey (member request "key")
      else state.reply [] (.failed .script ((slotText op).map ("unknown op: " ++ ·)))

/-- What the page throws when it looks into `null`. -/
def nullText : String := "Cannot read properties of null (reading 'op')"

def process (state : BridgedDocument) (request : Json) : Processed :=
  match request with
  | .null => state.reply [] (.failed .script (some nullText))
  | request => state.answer (known request)

end BridgedDocument

/-- What a browser shows: a document, perhaps with a bridge in it. -/
structure Tab where
  document : Document
  bridge : Option HandleTable := none

namespace Tab

def install (tab : Tab) : Tab := { tab with bridge := some (tab.bridge.getD {}) }

def leaveFor (tab : Tab) (document : Document) : Tab := { tab with document, bridge := none }

/-- Hands a request to the bridge, which is installed first if it is missing. -/
def process (tab : Tab) (request : Json) : Tab × List Sighting × Answer :=
  let done := (⟨tab.document, tab.bridge.getD {}⟩ : BridgedDocument).process request
  (⟨done.state.document, some done.state.table⟩, done.seen, done.answer)

end Tab

end BrowserReplay.Bridge
