/-!
# JSON documents

Scripts, bridge messages, event lines and stored variables are JSON. A document is kept as written:
the members of an object stay in order and may repeat, a number keeps its digits, and a string
literal may be unsound, because its escapes can spell half of a surrogate pair. What a reader may
assume of a document is stated here as small questions about it: how deep it is nested, whether all
of its literals are sound, whether its numbers are within the range of a double.
-/

namespace BrowserReplay

/-- A number as written: `digits` (those of the fraction included) times a power of ten. There is no
exponent exactly when the number was written with neither fraction nor exponent. -/
structure Numeral where
  negative : Bool
  digits : Nat
  exponent : Option Int
  deriving DecidableEq, Repr, Inhabited

/-- What a string literal denotes: a text, or nothing when its escapes spell half of a surrogate
pair. -/
abbrev Json.Literal := Option String

inductive Json where
  | null
  | bool (value : Bool)
  | number (value : Numeral)
  | string (value : Option String)
  | array (items : List Json)
  | object (members : List (Option String × Json))
  deriving Repr, Inhabited

namespace Numeral

def ofNat (n : Nat) : Numeral := ⟨false, n, none⟩

/-- The least number that is too large for a double: half a step above the greatest one. -/
def doubleBound : Nat := Nat.pow 2 1024 - Nat.pow 2 970

/-- Whether the number is within the range of a double. Zero is, whatever its exponent. -/
def isFinite (n : Numeral) : Bool :=
  let shift := n.exponent.getD 0
  if n.digits = 0 then true
  else if shift < 0 then
    -- Fewer than `2 ^ 1024` fits already; the quotient is formed only for longer numbers.
    n.digits < doubleBound || n.digits / Nat.pow 10 (-shift).toNat < doubleBound
  else shift ≤ 308 && n.digits * Nat.pow 10 shift.toNat < doubleBound

def wordBound : Nat := Nat.pow 2 64

/-- The number as an unsigned 64-bit word. A fraction, an exponent or a sign rules it out, even
where its value would fit. -/
def toWord? (n : Numeral) : Option Nat :=
  if n.negative = false ∧ n.exponent = none ∧ n.digits < wordBound then some n.digits else none

@[simp] theorem toWord?_ofNat {n : Nat} (h : n < wordBound) : (ofNat n).toWord? = some n :=
  if_pos ⟨rfl, rfl, h⟩

end Numeral

namespace Json

def text (s : String) : Json := .string (some s)

def nat (n : Nat) : Json := .number (.ofNat n)

def ofFields (fields : List (String × Json)) : Json :=
  .object (fields.map fun field => (some field.1, field.2))

def ofText? : Option String → Json
  | some s => text s
  | none => null

mutual
/-- The number of arrays and objects around the innermost part, itself included. -/
def depth : Json → Nat
  | .array items => depthOfItems items + 1
  | .object members => depthOfMembers members + 1
  | _ => 0

def depthOfItems : List Json → Nat
  | [] => 0
  | item :: items => max (depth item) (depthOfItems items)

def depthOfMembers : List (Option String × Json) → Nat
  | [] => 0
  | (_, value) :: members => max (depth value) (depthOfMembers members)
end

mutual
/-- Whether every literal in the document denotes a text and every number is in range. -/
def isSound : Json → Bool
  | .string value => value.isSome
  | .number value => value.isFinite
  | .array items => areSoundItems items
  | .object members => areSoundMembers members
  | _ => true

def areSoundItems : List Json → Bool
  | [] => true
  | item :: items => isSound item && areSoundItems items

def areSoundMembers : List (Option String × Json) → Bool
  | [] => true
  | (name, value) :: members => name.isSome && isSound value && areSoundMembers members
end

def depthLimit : Nat := 127

/-- Whether a part that stands inside `outer` arrays and objects can be read in full: it is sound,
and not nested too deep. A part whose value is of no interest is skipped and need not be. -/
def isReadable (outer : Nat) (part : Json) : Bool :=
  part.isSound && outer + part.depth ≤ depthLimit

def text? : Json → Option String
  | .string value => value
  | _ => none

def word? : Json → Option Nat
  | .number value => value.toWord?
  | _ => none

def optionalText? : Json → Option (Option String)
  | .null => some none
  | .string (some s) => some (some s)
  | _ => none

def optionalWord? : Json → Option (Option Nat)
  | .null => some none
  | value => value.word?.map some

@[simp] theorem text?_text (s : String) : (text s).text? = some s := rfl

@[simp] theorem optionalText?_ofText? (s : Option String) :
    (ofText? s).optionalText? = some s := by
  cases s <;> rfl

end Json

end BrowserReplay
