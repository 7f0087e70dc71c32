/-!
# Places in a YAML text

A cursor is a place in a text: what follows it, its line and column, and how many characters stand
before it. Five characters end a line, and a carriage return with a line feed counts as one of them.
-/

namespace BrowserReplay.Yaml

def isAllowed (c : Char) : Bool :=
  let n := c.toNat
  n == 0x9 || n == 0xA || n == 0xD || (0x20 ≤ n && n ≤ 0x7E) || n == 0x85 ||
    (0xA0 ≤ n && n ≤ 0xFFFD) || 0x10000 ≤ n

def isBreak (c : Char) : Bool :=
  c == '\r' || c == '\n' || c.toNat == 0x85 || c.toNat == 0x2028 || c.toNat == 0x2029

def isBlank (c : Char) : Bool := c == ' ' || c == '\t'

/-- The characters of names: ASCII letters, digits, the dash and the underscore. -/
def isNameChar (c : Char) : Bool := c.isAlphanum || c == '_' || c == '-'

structure Cursor where
  rest : List Char
  line : Nat := 0
  column : Nat := 0
  index : Nat := 0
  deriving DecidableEq, Repr, Inhabited

namespace Cursor

def peek? (cursor : Cursor) : Option Char := cursor.rest.head?

def peekAt? (cursor : Cursor) (n : Nat) : Option Char := cursor.rest[n]?

def sees (cursor : Cursor) (c : Char) : Bool := cursor.peek? == some c

/-- Whether the character some places further on satisfies a test; the end of the text does not. -/
def holdsAt (cursor : Cursor) (n : Nat) (test : Char → Bool) : Bool := (cursor.peekAt? n).any test

/-- Whether a blank, the end of a line or the end of the text stands some places further on. -/
def isOpenAt (cursor : Cursor) (n : Nat) : Bool :=
  (cursor.peekAt? n).all fun c => isBlank c || isBreak c

def atEnd (cursor : Cursor) : Bool := cursor.rest.isEmpty

def skip (cursor : Cursor) : Cursor :=
  { cursor with rest := cursor.rest.drop 1, column := cursor.column + 1, index := cursor.index + 1 }

def skipMany (cursor : Cursor) (n : Nat) : Cursor :=
  { cursor with rest := cursor.rest.drop n, column := cursor.column + n, index := cursor.index + n }

/-- Past the characters that satisfy a test; the test holds of no line end. -/
def skipWhile (cursor : Cursor) (test : Char → Bool) : Cursor :=
  cursor.skipMany (cursor.rest.takeWhile test).length

/-- The characters in front that satisfy a test, and the place after them. -/
def span (cursor : Cursor) (test : Char → Bool) : List Char × Cursor :=
  (cursor.rest.takeWhile test, cursor.skipWhile test)

/-- What the line end at the place counts as, and the beginning of the next line. -/
def lineBreak (cursor : Cursor) : Option Char × Cursor :=
  let next (length : Nat) : Cursor :=
    { cursor with
      rest := cursor.rest.drop length, line := cursor.line + 1, column := 0,
      index := cursor.index + length }
  match cursor.rest with
  | '\r' :: '\n' :: _ => (some '\n', next 2)
  | c :: _ =>
    if isBreak c then
      (some (if c.toNat == 0x2028 || c.toNat == 0x2029 then c else '\n'), next 1)
    else (none, cursor)
  | [] => (none, cursor)

def skipLine (cursor : Cursor) : Cursor := cursor.lineBreak.2

def skipToLineEnd (cursor : Cursor) : Cursor := cursor.skipWhile fun c => !isBreak c

/-- Whether the line begins with three given characters that stand alone. -/
def atMarker (cursor : Cursor) (c : Char) : Bool :=
  cursor.column == 0 && cursor.holdsAt 0 (· == c) && cursor.holdsAt 1 (· == c) &&
    cursor.holdsAt 2 (· == c) && cursor.isOpenAt 3

def atDocumentMarker (cursor : Cursor) : Bool := cursor.atMarker '-' || cursor.atMarker '.'

/-- Past blanks and a comment, up to the end of the line; nothing else may stand there. -/
def endOfLine? (cursor : Cursor) : Option Cursor :=
  let cursor := cursor.skipWhile isBlank
  let cursor := if cursor.sees '#' then cursor.skipToLineEnd else cursor
  if cursor.atEnd || cursor.holdsAt 0 isBreak then some cursor.skipLine else none

end Cursor

end BrowserReplay.Yaml
