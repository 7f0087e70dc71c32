import BrowserReplay.Json.Basic

/-!
# Writing JSON

Documents are written on one line, without spaces. In a string only the quote, the backslash and the
control characters below the space are escaped: the common ones by a letter, the others by four
lowercase hexadecimal digits. So a written document never holds a line break.
-/

namespace BrowserReplay.Json

def hexDigit (n : Nat) : Char :=
  if n < 10 then Char.ofNat (48 + n) else Char.ofNat (87 + n)

def escape (c : Char) : List Char :=
  if c = '"' then ['\\', '"']
  else if c = '\\' then ['\\', '\\']
  else if c = '\n' then ['\\', 'n']
  else if c = '\r' then ['\\', 'r']
  else if c = '\t' then ['\\', 't']
  else if c = '\x08' then ['\\', 'b']
  else if c = '\x0c' then ['\\', 'f']
  else if c.toNat < 0x20 then
    ['\\', 'u', '0', '0', hexDigit (c.toNat / 16), hexDigit (c.toNat % 16)]
  else [c]

def quote (cs : List Char) : List Char :=
  '"' :: (cs.flatMap escape ++ ['"'])

/-- A literal; one that denotes no text is written as half of a surrogate pair. -/
def writeLiteral : Option String → List Char
  | some s => quote s.toList
  | none => "\"\\ud800\"".toList

def writeNat (n : Nat) : List Char := Nat.toDigits 10 n

/-- A number: sign, digits, and an exponent when it has one. -/
def writeNumeral (n : Numeral) : List Char :=
  (if n.negative then ['-'] else []) ++ writeNat n.digits ++
    match n.exponent with
    | none => []
    | some (.ofNat e) => 'e' :: writeNat e
    | some (.negSucc e) => 'e' :: '-' :: writeNat (e + 1)

mutual
def write : Json → List Char
  | .null => "null".toList
  | .bool true => "true".toList
  | .bool false => "false".toList
  | .number value => writeNumeral value
  | .string value => writeLiteral value
  | .array [] => "[]".toList
  | .array (item :: items) => '[' :: (write item ++ writeItems items)
  | .object [] => ['\x7b', '\x7d']
  | .object ((name, value) :: members) =>
    '\x7b' :: (writeLiteral name ++ ':' :: (write value ++ writeMembers members))

/-- The items after the first one, and the bracket that closes the array. -/
def writeItems : List Json → List Char
  | [] => [']']
  | item :: items => ',' :: (write item ++ writeItems items)

/-- The members after the first one, and the brace that closes the object. -/
def writeMembers : List (Option String × Json) → List Char
  | [] => ['\x7d']
  | (name, value) :: members =>
    ',' :: (writeLiteral name ++ ':' :: (write value ++ writeMembers members))
end

def render (document : Json) : String :=
  String.ofList document.write

end BrowserReplay.Json
