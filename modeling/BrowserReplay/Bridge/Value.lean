import BrowserReplay.Json.Double

/-!
# Values in the page

The bridge gets its requests as values that may have any shape, and what the page's code throws may
be anything too. A member that is missing is no value at all, which is not the same as `null`.
-/

namespace BrowserReplay.Bridge

abbrev Slot := Option Json

def member (value : Json) (name : String) : Slot :=
  match value with
  | .object members => members.lookup (some name)
  | _ => none

def isTruthy : Json → Bool
  | .null => false
  | .bool value => value
  | .number value => value.onPage.digits != 0
  | .string value => value != some ""
  | .array _ | .object _ => true

mutual
/-- A value as a text, which is unsound if one in it is. An array is the texts of its items with
commas between them. -/
def asText : Json → Json.Literal
  | .null => some "null"
  | .bool true => some "true"
  | .bool false => some "false"
  | .number value => some value.pageText
  | .string value => value
  | .array items => (itemTexts items).map (",".intercalate ·)
  | .object _ => some "[object Object]"

def itemTexts : List Json → Option (List String)
  | [] => some []
  | item :: items => do
    let text ← if item matches .null then some "" else asText item
    pure (text :: (← itemTexts items))
end

def slotText : Slot → Json.Literal
  | some value => asText value
  | none => some "undefined"

def isText (slot : Slot) (text : String) : Bool :=
  match slot with
  | some (.string (some value)) => value = text
  | _ => false

def natural? : Slot → Option Nat
  | some (.number value) =>
    match value.onPage with
    | ⟨false, n, none⟩ => some n
    | _ => none
  | _ => none

theorem natural?_nat {n : Nat} (h : n < Double.mantissaBound) :
    natural? (some (.nat n)) = some n := by
  simp only [natural?, Json.nat, Numeral.onPage_ofNat h]
  rfl

mutual
def known : Json → Json
  | .number value => .number value.onPage
  | .array items => .array (knownItems items)
  | .object members => .object (knownMembers members)
  | value => value

def knownItems : List Json → List Json
  | [] => []
  | item :: items => known item :: knownItems items

def knownMembers : List (Option String × Json) → List (Option String × Json)
  | [] => []
  | (name, value) :: members => (name, known value) :: knownMembers members
end

inductive Thrown where
  /-- An object that turns into a text as errors do. -/
  | error (name code message : Slot)
  /-- A plain value or object, or `undefined`. -/
  | value (value : Slot)
  /-- An object without members that cannot be turned into a text: trying throws again. -/
  | mute
  deriving Repr, Inhabited

namespace Thrown

def member : Thrown → String → Slot
  | .error name code message, which =>
    match which with
    | "name" => name
    | "code" => code
    | "message" => message
    | _ => none
  | .value plain, which => plain.bind (Bridge.member · which)
  | .mute, _ => none

/-- The codes of errors about an expression that makes no sense. -/
def syntaxCodes : List Nat := [12, 51]

/-- Whether something thrown says that an expression makes no sense. -/
def isSyntaxError (thrown : Thrown) : Bool :=
  isText (thrown.member "name") "SyntaxError" ||
    (natural? (thrown.member "code")).any syntaxCodes.contains

def messageText (thrown : Thrown) : Json.Literal := slotText (thrown.member "message")

def errorText (name message : Slot) : Json.Literal := do
  let name ← if name.isNone then some "Error" else slotText name
  let message ← if message.isNone then some "" else slotText message
  pure (if name = "" then message else if message = "" then name else name ++ ": " ++ message)

def ownText? : Thrown → Option Json.Literal
  | .error name _ message => some (errorText name message)
  | .value plain => some (slotText plain)
  | .mute => none

/-- Something thrown, in words: its message, or else itself. -/
def text? (thrown : Thrown) : Option Json.Literal :=
  match thrown.member "message" with
  | some message => if isTruthy message then some (asText message) else thrown.ownText?
  | none => thrown.ownText?

end Thrown

end BrowserReplay.Bridge
