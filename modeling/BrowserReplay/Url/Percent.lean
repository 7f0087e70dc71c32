import BrowserReplay.Text.Utf8

/-!
# Percent encoding

A part of a URL keeps the characters it may hold and writes the bytes of all others as `%XX`. Which
ASCII characters are written that way depends on the part; control characters and everything beyond
ASCII always are.
-/

namespace BrowserReplay.Url

/-- A part of a URL with an alphabet of its own. -/
inductive Component where
  | rootless
  | path
  | query
  /-- The query of a URL with one of the well-known schemes. -/
  | specialQuery
  | fragment
  | userinfo
  deriving DecidableEq, Repr

def Component.reserved : Component → List Char
  | .rootless => []
  | .fragment => [' ', '"', '<', '>', '\x60']
  | .path => [' ', '"', '<', '>', '\x60', '#', '?', '\x7b', '\x7d']
  | .query => [' ', '"', '#', '<', '>']
  | .specialQuery => [' ', '"', '#', '<', '>', '\'']
  | .userinfo =>
    [' ', '"', '<', '>', '\x60', '#', '?', '\x7b', '\x7d', '/', ':', ';', '=', '@', '[', '\\', ']',
      '^', '|']

def Component.holds (component : Component) (c : Char) : Bool :=
  0x20 ≤ c.toNat && c.toNat < 0x7F && !component.reserved.contains c

def hexDigit (n : Nat) : Char :=
  if n < 10 then Char.ofNat (48 + n) else Char.ofNat (55 + n)

def percentByte (b : Nat) : List Char := ['%', hexDigit (b / 16), hexDigit (b % 16)]

def encodeChar (component : Component) (c : Char) : List Char :=
  if component.holds c then [c] else (Text.Utf8.encodeChar c).flatMap percentByte

def encode (component : Component) (cs : List Char) : List Char :=
  cs.flatMap (encodeChar component)

def hexValue? (c : Char) : Option Nat :=
  let n := c.toNat
  if 48 ≤ n ∧ n ≤ 57 then some (n - 48)
  else if 97 ≤ n ∧ n ≤ 102 then some (n - 87)
  else if 65 ≤ n ∧ n ≤ 70 then some (n - 55)
  else none

/-- The bytes of a text whose percent notation is undone. A percent sign without two digits stands
for itself. -/
def decodeBytes : List Char → List Nat
  | '%' :: a :: b :: rest =>
    match hexValue? a, hexValue? b with
    | some high, some low => (high * 16 + low) :: decodeBytes rest
    | _, _ => 0x25 :: decodeBytes (a :: b :: rest)
  | c :: rest => Text.Utf8.encodeChar c ++ decodeBytes rest
  | [] => []

end BrowserReplay.Url
