import BrowserReplay.Config
import BrowserReplay.Json.Printer
import BrowserReplay.Json.Reader
import BrowserReplay.Json.Record
import BrowserReplay.Page.Error
import BrowserReplay.Selector

/-!
# Messages to and from the page

A page that holds the bridge answers requests: find an element, act on one, or press a key. Requests
and responses travel as JSON objects, told apart by their tags `op` and `status`, which may stand
anywhere among the fields; fields that are not known are passed over.
-/

namespace BrowserReplay.Bridge

inductive Request where
  /-- Finds an element; `kind` names the language of the selector `value`. -/
  | query (kind value : String)
  | click (handle : Handle)
  | focus (handle : Handle)
  | setValue (handle : Handle) (value : String)
  | dispatchKey (key : String)
  | highlight (handle : Handle) (color : String) (duration : Nat)
  deriving DecidableEq, Repr, Inhabited

namespace Request

def ofSelector (selector : Selector) : Request := .query selector.kind.name selector.value

def ofStyle (handle : Handle) (style : HighlightStyle) : Request :=
  .highlight handle style.color style.duration

def op : Request → String
  | .query .. => "query"
  | .click .. => "click"
  | .focus .. => "focus"
  | .setValue .. => "set_value"
  | .dispatchKey .. => "dispatch_key"
  | .highlight .. => "highlight"

def handle? : Request → Option Handle
  | .click handle | .focus handle | .setValue handle _ | .highlight handle .. => some handle
  | .query .. | .dispatchKey _ => none

def fields : Request → List (String × Json)
  | .query kind value => [("kind", .text kind), ("value", .text value)]
  | .click handle | .focus handle => [("handle", .nat handle)]
  | .setValue handle value => [("handle", .nat handle), ("value", .text value)]
  | .dispatchKey key => [("key", .text key)]
  | .highlight handle color duration =>
    [("handle", .nat handle), ("color", .text color), ("duration_ms", .nat duration)]

def toJson (request : Request) : Json := .ofFields (("op", .text request.op) :: request.fields)

def render (request : Request) : String := request.toJson.render

def ofTagged? : String → Json → Option Request
  | "query", contents =>
    match contents.slots? ["kind", "value"] with
    | some [kind, value] => do
      pure (.query (← Json.required Json.text? kind) (← Json.required Json.text? value))
    | _ => none
  | "click", contents =>
    match contents.slots? ["handle"] with
    | some [handle] => do pure (.click (← Json.required Json.word? handle))
    | _ => none
  | "focus", contents =>
    match contents.slots? ["handle"] with
    | some [handle] => do pure (.focus (← Json.required Json.word? handle))
    | _ => none
  | "set_value", contents =>
    match contents.slots? ["handle", "value"] with
    | some [handle, value] => do
      pure (.setValue (← Json.required Json.word? handle) (← Json.required Json.text? value))
    | _ => none
  | "dispatch_key", contents =>
    match contents.slots? ["key"] with
    | some [key] => do pure (.dispatchKey (← Json.required Json.text? key))
    | _ => none
  | "highlight", contents =>
    match contents.slots? ["handle", "color", "duration_ms"] with
    | some [handle, color, duration] => do
      pure (.highlight (← Json.required Json.word? handle) (← Json.required Json.text? color)
        (← Json.required Json.word? duration))
    | _ => none
  | _, _ => none

def ofJson? (document : Json) : Option Request :=
  if document.isReadable 0 then (document.tagged? "op").bind fun (op, contents) => ofTagged? op contents
  else none

def parse? (text : String) : Option Request := (Json.parse? text).bind ofJson?

end Request

/-- Why the page could not do what it was asked. -/
inductive ErrorKind where
  | invalidSelector
  | stale
  /-- Anything else that the page's code threw. -/
  | script
  deriving DecidableEq, Repr, Inhabited

namespace ErrorKind

def name : ErrorKind → String
  | .invalidSelector => "invalid_selector"
  | .stale => "stale"
  | .script => "script"

def ofName? : String → Option ErrorKind
  | "invalid_selector" => some .invalidSelector
  | "stale" => some .stale
  | "script" => some .script
  | _ => none

@[simp] theorem ofName?_name (kind : ErrorKind) : ofName? kind.name = some kind := by
  cases kind <;> rfl

end ErrorKind

/-- The page's answer to a request. -/
inductive Response where
  | ok (handle : Option Handle)
  | error (kind : ErrorKind) (message : String)
  deriving DecidableEq, Repr, Inhabited

namespace Response

def toJson : Response → Json
  | .ok none => .ofFields [("status", .text "ok"), ("handle", .null)]
  | .ok (some handle) => .ofFields [("status", .text "ok"), ("handle", .nat handle)]
  | .error kind message =>
    .ofFields [("status", .text "error"), ("kind", .text kind.name), ("message", .text message)]

def render (response : Response) : String := response.toJson.render

/-- The answer with a given tag and the given other contents. A missing handle counts as none, a
missing message as the empty one. -/
def ofTagged? : String → Json → Option Response
  | "ok", contents =>
    match contents.slots? ["handle"] with
    | some [handle] => do pure (.ok (← Json.defaulted none Json.optionalWord? handle))
    | _ => none
  | "error", contents =>
    match contents.slots? ["kind", "message"] with
    | some [kind, message] => do
      let kind ← Json.required (fun kind => kind.bufferedChoice?.bind ErrorKind.ofName?) kind
      pure (.error kind (← Json.defaulted "" Json.text? message))
    | _ => none
  | _, _ => none

def ofJson? (document : Json) : Option Response :=
  (document.tagged? "status").bind fun (status, contents) => ofTagged? status contents

def result (request : Request) : Response → Except PageError (Option Handle)
  | .ok handle => .ok handle
  | .error .invalidSelector message => .error (.invalidSelector message)
  | .error .stale message =>
    match request.handle? with
    | some handle => .error (.staleElement handle)
    | none => .error (.bridge message)
  | .error .script message => .error (.script (request.op ++ " failed: " ++ message))

end Response

/-- The script value that a text describes, if it can be read in full. Repeated members of an object
count once, with their last value. -/
def readValue? (text : String) : Option Json :=
  ((Json.parse? text).filter (Json.isReadable 0)).map Json.merged

end BrowserReplay.Bridge
