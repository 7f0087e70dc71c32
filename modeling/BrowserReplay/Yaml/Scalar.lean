import BrowserReplay.Yaml.Cursor

/-!
# Scalars

The texts that stand in a YAML document: plain, between single or double quotes, or as a block of
lines after `|` or `>`. A line end inside a plain or quoted text counts as a space; when empty lines
follow, they count as they are instead. In a folded block this holds only between lines that do not
begin with a blank.
-/

namespace BrowserReplay.Yaml

/-! ### Gaps between the words of a text -/

/-- What stands between two words: blanks, or line ends. -/
structure Gap where
  blanks : List Char := []
  /-- The line end that closes the line of the first word. -/
  first : Option Char := none
  further : List Char := []
  crossed : Bool := false
  deriving DecidableEq, Repr, Inhabited

namespace Gap

def text (gap : Gap) : List Char :=
  if gap.crossed then
    match gap.first with
    | some '\n' => if gap.further.isEmpty then [' '] else gap.further
    | some c => c :: gap.further
    | none => gap.further
  else gap.blanks

def addBreak (gap : Gap) (c : Option Char) : Gap :=
  if gap.crossed then { gap with further := gap.further ++ c.toList }
  else { gap with blanks := [], first := c, crossed := true }

/-- Reads a gap. In a plain text a tab must not stand where a line is to be indented. -/
def read (indent : Option Nat) (cursor : Cursor) (gap : Gap) : (fuel : Nat) → Option (Gap × Cursor)
  | 0 => some (gap, cursor)
  | fuel + 1 =>
    match cursor.peek? with
    | none => some (gap, cursor)
    | some c =>
      if isBlank c then
        if gap.crossed then
          if c = '\t' && indent.any (cursor.column < ·) then none
          else read indent cursor.skip gap fuel
        else read indent cursor.skip { gap with blanks := gap.blanks ++ [c] } fuel
      else if isBreak c then
        let (c, cursor) := cursor.lineBreak
        read indent cursor (gap.addBreak c) fuel
      else some (gap, cursor)

end Gap

/-! ### Quoted texts -/

def hexValue? (c : Char) : Option Nat :=
  let n := c.toNat
  if 48 ≤ n ∧ n ≤ 57 then some (n - 48)
  else if 97 ≤ n ∧ n ≤ 102 then some (n - 87)
  else if 65 ≤ n ∧ n ≤ 70 then some (n - 55)
  else none

def hexChar? (digits : List Char) : Option Char := do
  let code ← digits.foldlM (fun acc c => (hexValue? c).map (acc * 16 + ·)) 0
  if code < 0xD800 ∨ (0xDFFF < code ∧ code ≤ 0x10FFFF) then some (Char.ofNat code) else none

def escape? : Char → Option Char
  | '0' => some '\x00'
  | 'a' => some '\x07'
  | 'b' => some '\x08'
  | 't' => some '\t'
  | '\t' => some '\t'
  | 'n' => some '\n'
  | 'v' => some '\x0b'
  | 'f' => some '\x0c'
  | 'r' => some '\r'
  | 'e' => some '\x1b'
  | ' ' => some ' '
  | '"' => some '"'
  | '/' => some '/'
  | '\\' => some '\\'
  | '\'' => some '\''
  | 'N' => some '\u0085'
  | '_' => some '\u00a0'
  | 'L' => some '\u2028'
  | 'P' => some '\u2029'
  | _ => none

/-- How many hexadecimal digits follow a letter after a backslash. -/
def hexLength? : Char → Option Nat
  | 'x' => some 2
  | 'u' => some 4
  | 'U' => some 8
  | _ => none

def readEscape? (cursor : Cursor) : Option (Char × Cursor) := do
  let letter ← cursor.peekAt? 1
  match hexLength? letter with
  | some length =>
    let digits := (cursor.rest.drop 2).take length
    if digits.length = length then
      let c ← hexChar? digits
      pure (c, cursor.skipMany (2 + length))
    else none
  | none =>
    let c ← escape? letter
    pure (c, cursor.skipMany 2)

def readQuoted (double : Bool) (text : List Char) (cursor : Cursor) :
    (fuel : Nat) → Option (List Char × Cursor)
  | 0 => none
  | fuel + 1 =>
    match cursor.peek? with
    | none => none
    | some c =>
      if cursor.atDocumentMarker then none
      else if isBlank c || isBreak c then do
        let (gap, cursor) ← Gap.read none cursor {} cursor.rest.length
        readQuoted double (text ++ gap.text) cursor fuel
      else if !double && c == '\'' && cursor.peekAt? 1 == some '\'' then
        readQuoted double (text ++ ['\'']) (cursor.skipMany 2) fuel
      else if c == (if double then '"' else '\'') then some (text, cursor.skip)
      else if double && c == '\\' then
        if cursor.holdsAt 1 isBreak then do
          let cursor := cursor.skip.skipLine
          let (gap, cursor) ← Gap.read none cursor { crossed := true } cursor.rest.length
          readQuoted double (text ++ gap.text) cursor fuel
        else do
          let (c, cursor) ← readEscape? cursor
          readQuoted double (text ++ [c]) cursor fuel
      else readQuoted double (text ++ [c]) cursor.skip fuel

def quoted? (double : Bool) (cursor : Cursor) : Option (List Char × Cursor) :=
  readQuoted double [] cursor.skip (cursor.rest.length + 1)

/-! ### Plain texts -/

def isFlowMark (c : Char) : Bool :=
  c == ',' || c == '?' || c == '[' || c == ']' || c == '\x7b' || c == '\x7d'

def plainEnds (flow : Bool) (cursor : Cursor) : Bool :=
  (cursor.sees ':' && cursor.isOpenAt 1) || (flow && cursor.holdsAt 0 fun c => c != '?' && isFlowMark c)

/-- A word of a plain text. Inside a flow collection a colon must not stand before a character that
structures it. -/
def plainWord? (flow : Bool) (cursor : Cursor) : (fuel : Nat) → Option (List Char × Cursor)
  | 0 => some ([], cursor)
  | fuel + 1 =>
    match cursor.peek? with
    | none => some ([], cursor)
    | some c =>
      if isBlank c || isBreak c then some ([], cursor)
      else if flow && c == ':' && cursor.holdsAt 1 isFlowMark then none
      else if plainEnds flow cursor then some ([], cursor)
      else (plainWord? flow cursor.skip fuel).map fun (word, cursor) => (c :: word, cursor)

/-- A plain text, the place after it and the blanks behind it, and whether a line ended there. -/
structure PlainText where
  text : List Char
  cursor : Cursor
  crossed : Bool
  deriving DecidableEq, Repr

def readPlain (flow : Bool) (indent : Nat) (text : List Char) (gap : Gap) (cursor : Cursor) :
    (fuel : Nat) → Option PlainText
  | 0 => none
  | fuel + 1 =>
    if cursor.atDocumentMarker || cursor.sees '#' then some ⟨text, cursor, gap.crossed⟩
    else do
      let (word, cursor) ← plainWord? flow cursor cursor.rest.length
      let text := if word.isEmpty then text else text ++ gap.text ++ word
      let gap := if word.isEmpty then gap else {}
      if cursor.holdsAt 0 fun c => isBlank c || isBreak c then
        let (gap, cursor) ← Gap.read (some indent) cursor gap cursor.rest.length
        if !flow && cursor.column < indent then some ⟨text, cursor, gap.crossed⟩
        else readPlain flow indent text gap cursor fuel
      else some ⟨text, cursor, gap.crossed⟩

/-- The plain text at a place. Its lines are indented by at least `indent`. -/
def plain? (flow : Bool) (indent : Nat) (cursor : Cursor) : Option PlainText :=
  readPlain flow indent [] {} cursor (cursor.rest.length + 1)

/-! ### Blocks -/

/-- What becomes of the line ends at the end of a block. -/
inductive Chomping where
  | strip
  | clip
  | keep
  deriving DecidableEq, Repr

def chomping? : Option Char → Option Chomping
  | some '+' => some .keep
  | some '-' => some .strip
  | _ => none

def blockDigit? (c : Option Char) : Option Nat :=
  (c.filter Char.isDigit).map fun c => c.toNat - 48

/-- The sign and the digit after the mark of a block, in either order, and the place after them. -/
def blockHeader? (cursor : Cursor) : Option (Chomping × Option Nat × Cursor) :=
  let (chomping, digit, length) :=
    match chomping? cursor.peek?, blockDigit? cursor.peek? with
    | some chomping, _ =>
      match blockDigit? (cursor.peekAt? 1) with
      | some digit => (chomping, some digit, 2)
      | none => (chomping, none, 1)
    | none, some digit =>
      match chomping? (cursor.peekAt? 1) with
      | some chomping => (chomping, some digit, 2)
      | none => (.clip, some digit, 1)
    | none, none => (.clip, none, 0)
  if digit = some 0 then none else some (chomping, digit, cursor.skipMany length)

/-- Past the empty lines of a block, up to a line with contents. When the indentation is not known,
it is found out from the widest of these lines; a tab must not stand in its place. -/
def emptyLines (outer : Nat) (indent : Option Nat) (widest : Nat) (breaks : List Char)
    (cursor : Cursor) : (fuel : Nat) → Option (Nat × List Char × Cursor)
  | 0 => none
  | fuel + 1 =>
    let spaces := (cursor.rest.takeWhile (· == ' ')).length
    let cursor :=
      match indent with
      | some indent => cursor.skipMany (min spaces (indent - cursor.column))
      | none => cursor.skipMany spaces
    let widest := max widest cursor.column
    if cursor.sees '\t' && indent.all (cursor.column < ·) then none
    else if cursor.holdsAt 0 isBreak then
      let (c, cursor) := cursor.lineBreak
      emptyLines outer indent widest (breaks ++ c.toList) cursor fuel
    else some (indent.getD (max (max widest outer) 1), breaks, cursor)

/-- Reads the lines of a block. `first` is the end of the line before and `breaks` are those of the
empty lines after that. -/
def readBlock (literal : Bool) (chomping : Chomping) (indent : Nat) (text first breaks : List Char)
    (afterBlank : Bool) (cursor : Cursor) : (fuel : Nat) → Option (List Char × Cursor)
  | 0 => none
  | fuel + 1 =>
    if cursor.column = indent && !cursor.atEnd then do
      let blank := cursor.holdsAt 0 isBlank
      let folded := !literal && first == ['\n'] && !afterBlank && !blank
      let joint := if folded then (if breaks.isEmpty then [' '] else breaks) else first ++ breaks
      let (line, cursor) := cursor.span fun c => !isBreak c
      let (c, cursor) := cursor.lineBreak
      let (_, breaks, cursor) ← emptyLines 0 (some indent) 0 [] cursor (cursor.rest.length + 1)
      readBlock literal chomping indent (text ++ joint ++ line) c.toList breaks blank cursor fuel
    else
      some (text ++
        match chomping with
        | .strip => []
        | .clip => first
        | .keep => first ++ breaks, cursor)

/-- The text of a block, from its mark on. `outer` is the least indentation that is deeper than that
of the collection around it. -/
def block? (literal : Bool) (outer : Nat) (cursor : Cursor) : Option (List Char × Cursor) := do
  let (chomping, digit, cursor) ← blockHeader? cursor.skip
  let cursor ← cursor.endOfLine?
  let indent := digit.map fun digit => (outer - 1) + digit
  let (indent, breaks, cursor) ← emptyLines outer indent 0 [] cursor (cursor.rest.length + 1)
  readBlock literal chomping indent [] [] breaks false cursor (cursor.rest.length + 1)

end BrowserReplay.Yaml
