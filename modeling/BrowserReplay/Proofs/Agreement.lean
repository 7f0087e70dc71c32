import BrowserReplay.Bridge.Script
import BrowserReplay.Proofs.HandleTable

/-!
# Requests and their answers

A request is made on one side and carried out on the other, and its answer comes back the same way.
`Answered` says what a request comes to in terms of the document and the table of numbers alone:
what a query finds, which element a number names, and what is thrown. The answer that the page gives
is understood, and it is understood as just that, unless something is thrown that cannot be put into
sound words.
-/

namespace BrowserReplay.Bridge

/-! ### What a request comes to -/

def Document.search (document : Document) (kind value : String) :
    Except Thrown (Option ElementId) :=
  if kind = "css" then document.css (some value)
  else if kind = "link_text" then .ok (document.byLinkText (some (.text value)))
  else document.xpath (some value)

def Request.trouble? (element : Element) : Request → Option Thrown
  | .click _ => element.clickTrouble
  | .focus _ => element.focusTrouble
  | .setValue .. => element.valueTrouble
  | .highlight .. => element.outlineTrouble
  | .query .. | .dispatchKey _ => none

/-- A number names an element that is in the document. -/
def BridgedDocument.Names (state : BridgedDocument) (handle : Handle) (element : Element) : Prop :=
  ∃ id, state.table.entries.lookup handle = some id ∧ state.document.find? id = some element ∧
    element.isConnected = true

/-- A request makes the page throw something. -/
def BridgedDocument.Throws (state : BridgedDocument) (thrown : Thrown) : Request → Prop
  | .query kind value => state.document.search kind value = .error thrown
  | .dispatchKey _ => state.document.keyTrouble = some thrown
  | request => ∃ handle element, request.handle? = some handle ∧ state.Names handle element ∧
      request.trouble? element = some thrown

namespace Thrown

def IsSyntax (thrown : Thrown) : Prop :=
  thrown.member "name" = some (.text "SyntaxError") ∨
    natural? (thrown.member "code") = some 12 ∨ natural? (thrown.member "code") = some 51

/-- The error as which something thrown is passed on. There is none if its words are unsound or if
it has none. -/
inductive Told (thrown : Thrown) : Request → PageError → Prop
  | malformed {kind value text : String} (h : thrown.IsSyntax)
      (htext : thrown.messageText = some text) :
      Told thrown (.query kind value) (.invalidSelector text)
  | failed {request : Request} {text : String}
      (h : ∀ kind value, request = .query kind value → ¬ thrown.IsSyntax)
      (htext : thrown.text? = some (some text)) :
      Told thrown request (.script (request.op ++ " failed: " ++ text))

end Thrown

/-- What a request comes to, and the table that it leaves. -/
inductive Answered (state : BridgedDocument) :
    Request → Except PageError (Option Handle) → HandleTable → Prop
  | found {kind value : String} {id : ElementId} {handle : Handle} {after : HandleTable}
      (h : state.document.search kind value = .ok (some id))
      (hnumber : state.table.remember id = (handle, after)) :
      Answered state (.query kind value) (.ok (some handle)) after
  | missing {kind value : String} (h : state.document.search kind value = .ok none) :
      Answered state (.query kind value) (.ok none) state.table
  | acted {request : Request} {handle : Handle} {element : Element}
      (hhandle : request.handle? = some handle) (hnames : state.Names handle element)
      (h : request.trouble? element = none) :
      Answered state request (.ok (some handle)) state.table
  | stale {request : Request} {handle : Handle} (hhandle : request.handle? = some handle)
      (h : ∀ element, ¬ state.Names handle element) :
      Answered state request (.error (.staleElement handle)) (state.table.forget handle)
  | pressed {key : String} (h : state.document.keyTrouble = none) :
      Answered state (.dispatchKey key) (.ok none) state.table
  | threw {request : Request} {thrown : Thrown} {error : PageError}
      (h : state.Throws thrown request) (htold : thrown.Told request error) :
      Answered state request (.error error) state.table

theorem BridgedDocument.Names.unique {state : BridgedDocument} {handle : Handle}
    {element other : Element} (h : state.Names handle element) (hother : state.Names handle other) :
    other = element := by
  obtain ⟨id, hentry, hfind, -⟩ := h
  obtain ⟨id', hentry', hfind', -⟩ := hother
  obtain rfl : id = id' := Option.some.inj (hentry.symm.trans hentry')
  exact Option.some.inj (hfind'.symm.trans hfind)

theorem Response.ofJson?_toJson {response : Response}
    (h : ∀ handle, response = .ok (some handle) → handle < 2 ^ 64) :
    Response.ofJson? response.toJson = some response := by
  cases response with
  | error kind message => cases kind <;> rfl
  | ok handle =>
    cases handle with
    | none => rfl
    | some handle =>
      have hword : (Json.nat handle).word? = some handle := Numeral.toWord?_ofNat (h handle rfl)
      have hread : (Json.nat handle).optionalWord? = some (some handle) := by
        rw [show (Json.nat handle).optionalWord? = (Json.nat handle).word?.map some from rfl, hword]
        rfl
      show (Json.defaulted none Json.optionalWord? (some (.nat handle))).bind _ = _
      simp [Json.defaulted, hread]

namespace BridgedDocument

/-- What comes of a request: an answer that is understood, or, if what is thrown cannot be told, no
such answer. -/
inductive Settled (state : BridgedDocument) (request : Request) (done : Processed) : Prop
  | understood (response : Response) (form : done.answer.toJson? = some response.toJson)
      (fits : ∀ handle, response = .ok (some handle) → handle < 2 ^ 64)
      (answered : Answered state request (response.result request) done.state.table)
      (told : ∀ thrown, state.Throws thrown request → ∃ error, thrown.Told request error)
  | garbled (table : done.state.table = state.table)
      (unread : ∀ json, done.answer.toJson? = some json → Response.ofJson? json = none)
      (thrown : Thrown) (throws : state.Throws thrown request)
      (untold : ∀ error, ¬ thrown.Told request error)

variable {state : BridgedDocument} {request : Request}

end BridgedDocument

end BrowserReplay.Bridge
