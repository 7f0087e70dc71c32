import BrowserReplay.Text.Utf8
import BrowserReplay.Yaml.Scalar

/-!
# Tokens of a YAML text

The words of a YAML text: its marks and scalars, and the beginnings and ends of the block collections
that its indentation stands for. A mapping key needs no mark of its own; where a colon follows a
token on the same line, the mark is put in front of that token afterwards.
-/

namespace BrowserReplay.Yaml

/-- A tag as written: the part that stands for an agreed beginning, and the rest. -/
structure TagName where
  handle : List Char
  suffix : List Char
  deriving DecidableEq, Repr, Inhabited

inductive ScalarStyle where
  | plain
  | quoted
  | literal
  | folded
  deriving DecidableEq, Repr, Inhabited

inductive Token where
  | version (major minor : Nat)
  | tagPrefix (handle replacement : List Char)
  | documentStart
  | documentEnd
  | blockSequenceStart
  | blockMappingStart
  | blockEnd
  | flowSequenceStart
  | flowSequenceEnd
  | flowMappingStart
  | flowMappingEnd
  | blockEntry
  | flowEntry
  | key
  | value
  | alias (name : List Char)
  | anchor (name : List Char)
  | tag (name : TagName)
  | scalar (text : List Char) (style : ScalarStyle)
  deriving DecidableEq, Repr, Inhabited

structure KeyCandidate where
  required : Bool
  /-- How many tokens come before it. -/
  position : Nat
  line : Nat
  column : Nat
  index : Nat
  deriving DecidableEq, Repr, Inhabited

/-- A text that is being cut into tokens. -/
structure Lexer where
  cursor : Cursor
  tokens : Array Token := #[]
  /-- The columns of the block collections around the place, the innermost first. -/
  indents : List Nat := []
  /-- The key candidates, one for each flow collection around the place and one for the block. -/
  candidates : List (Option KeyCandidate) := [none]
  keyAllowed : Bool := true

namespace Lexer

def inFlow (lexer : Lexer) : Bool := lexer.candidates.length > 1

/-- The least column that is deeper than the innermost block collection. -/
def outer (lexer : Lexer) : Nat :=
  match lexer.indents with
  | indent :: _ => indent + 1
  | [] => 0

def emit (lexer : Lexer) (token : Token) : Lexer :=
  { lexer with tokens := lexer.tokens.push token }

/-- Adds a token before the last ones. -/
def emitAt (lexer : Lexer) (position : Nat) (token : Token) : Lexer :=
  { lexer with
    tokens := lexer.tokens.extract 0 position ++ #[token] ++
      lexer.tokens.extract position lexer.tokens.size }

/-- Gives up the innermost key candidate, unless it has to be a key. -/
def dropCandidate? (lexer : Lexer) : Option Lexer :=
  match lexer.candidates with
  | some candidate :: rest =>
    if candidate.required then none else some { lexer with candidates := none :: rest }
  | _ => some lexer

/-- Makes the next token a key candidate, where keys are allowed. -/
def addCandidate? (lexer : Lexer) : Option Lexer :=
  if lexer.keyAllowed then do
    let lexer ← lexer.dropCandidate?
    let cursor := lexer.cursor
    let candidate : KeyCandidate := {
      required := !lexer.inFlow && lexer.indents.head? == some cursor.column,
      position := lexer.tokens.size, line := cursor.line, column := cursor.column,
      index := cursor.index }
    pure { lexer with candidates := some candidate :: lexer.candidates.drop 1 }
  else some lexer

/-- The greatest distance between the beginning of a key and its colon. -/
def keyReach : Nat := 1024

/-- Gives up the candidates that are too far away: a key stands on one line and is not too long. -/
def dropStale? (lexer : Lexer) : Option Lexer := do
  let candidates ← lexer.candidates.mapM fun
    | some candidate =>
      if candidate.line < lexer.cursor.line || candidate.index + keyReach < lexer.cursor.index then
        if candidate.required then none else some none
      else some (some candidate)
    | none => some none
  pure { lexer with candidates }

/-- Begins a block collection if the column is deeper than the one around it. -/
def indent (lexer : Lexer) (column position : Nat) (token : Token) : Lexer :=
  if !lexer.inFlow && lexer.indents.head?.all (· < column) then
    { lexer.emitAt position token with indents := column :: lexer.indents }
  else lexer

/-- Ends the block collections that are deeper than a column; all of them if there is none. -/
def dedent (lexer : Lexer) (column : Option Nat) : Lexer :=
  if lexer.inFlow then lexer
  else
    let ended := lexer.indents.takeWhile fun indent => column.all (· < indent)
    { lexer with
      indents := lexer.indents.drop ended.length,
      tokens := lexer.tokens ++ (ended.map fun _ => Token.blockEnd).toArray }

def moveTo (lexer : Lexer) (cursor : Cursor) : Lexer := { lexer with cursor }

def allowKey (lexer : Lexer) (allowed : Bool) : Lexer := { lexer with keyAllowed := allowed }

/-! ### Blanks and comments -/

/-- Past blanks, comments and line ends. Where a key may come in a block, tabs do not count as
blanks. -/
def skipBlanks (lexer : Lexer) : (fuel : Nat) → Lexer
  | 0 => lexer
  | fuel + 1 =>
    let cursor := lexer.cursor
    let cursor := if cursor.column == 0 && cursor.sees '\ufeff' then cursor.skip else cursor
    let tabs := lexer.inFlow || !lexer.keyAllowed
    let cursor := cursor.skipWhile fun c => c == ' ' || (tabs && c == '\t')
    let cursor := if cursor.sees '#' then cursor.skipToLineEnd else cursor
    if cursor.holdsAt 0 isBreak then
      let lexer := lexer.moveTo cursor.skipLine
      (if lexer.inFlow then lexer else lexer.allowKey true).skipBlanks fuel
    else lexer.moveTo cursor

/-! ### Anchors, tags and directives -/

def nameEnds (cursor : Cursor) : Bool :=
  cursor.isOpenAt 0 || cursor.holdsAt 0 fun c =>
    c == '?' || c == ':' || c == ',' || c == ']' || c == '\x7d' || c == '%' || c == '@' ||
      c.toNat == 0x60

def anchorName? (cursor : Cursor) : Option (List Char × Cursor) :=
  let (name, cursor) := cursor.skip.span isNameChar
  if name.isEmpty || !nameEnds cursor then none else some (name, cursor)

def tagHandle? (directive : Bool) (cursor : Cursor) : Option (List Char × Cursor) :=
  if cursor.sees '!' then
    let (name, cursor) := cursor.skip.span isNameChar
    if cursor.sees '!' then some ('!' :: (name ++ ['!']), cursor.skip)
    else if directive && !name.isEmpty then none
    else some ('!' :: name, cursor)
  else none

/-- The characters of the rest of a tag; some more are allowed between angle brackets. -/
def isTagChar (verbatim : Bool) (c : Char) : Bool :=
  isNameChar c || ";/?:@&=+$.!~*'()".toList.contains c || (verbatim && ",[]".toList.contains c)

def escapedBytes? (cursor : Cursor) : (count : Nat) → Option (List Nat × Cursor)
  | 0 => some ([], cursor)
  | count + 1 =>
    if cursor.sees '%' then do
      let high ← (cursor.peekAt? 1).bind hexValue?
      let low ← (cursor.peekAt? 2).bind hexValue?
      let (bytes, cursor) ← escapedBytes? (cursor.skipMany 3) count
      pure ((high * 16 + low) :: bytes, cursor)
    else none

/-- How many bytes a character has whose first byte is given. -/
def byteCount (first : Nat) : Nat :=
  if first < 0x80 then 1 else if first < 0xC0 then 0 else if first < 0xE0 then 2
  else if first < 0xF0 then 3 else if first < 0xF8 then 4 else 0

def escapedChar? (cursor : Cursor) : Option (Char × Cursor) := do
  let ([first], _) ← escapedBytes? cursor 1 | none
  let count := byteCount first
  if count = 0 then none
  else
    let (bytes, cursor) ← escapedBytes? cursor count
    match Text.Utf8.decodeFrom 0 bytes with
    | .ok [c] => pure (c, cursor)
    | _ => none

def tagRest? (verbatim : Bool) (cursor : Cursor) : (fuel : Nat) → Option (List Char × Cursor)
  | 0 => none
  | fuel + 1 =>
    match cursor.peek? with
    | none => some ([], cursor)
    | some c =>
      if c = '%' then do
        let (c, cursor) ← escapedChar? cursor
        let (rest, cursor) ← tagRest? verbatim cursor fuel
        pure (c :: rest, cursor)
      else if isTagChar verbatim c then
        (tagRest? verbatim cursor.skip fuel).map fun (rest, cursor) => (c :: rest, cursor)
      else some ([], cursor)

/-- A tag between angle brackets, whole or abbreviated. In a flow collection a comma may follow. -/
def tagName? (flow : Bool) (cursor : Cursor) : Option (TagName × Cursor) := do
  let fuel := cursor.rest.length + 1
  let (name, cursor) ←
    if cursor.peekAt? 1 == some '<' then do
      let (suffix, cursor) ← tagRest? true (cursor.skipMany 2) fuel
      if suffix.isEmpty || !cursor.sees '>' then none
      else pure ((⟨[], suffix⟩ : TagName), cursor.skip)
    else do
      let (handle, cursor) ← tagHandle? false cursor
      let (rest, cursor) ← tagRest? false cursor fuel
      if handle.length > 1 && handle.getLast? == some '!' then
        if rest.isEmpty then none else pure (⟨handle, rest⟩, cursor)
      else
        let suffix := handle.drop 1 ++ rest
        pure (if suffix.isEmpty then ⟨[], ['!']⟩ else ⟨['!'], suffix⟩, cursor)
  if cursor.isOpenAt 0 || (flow && cursor.sees ',') then some (name, cursor) else none

def versionNumber? (cursor : Cursor) : Option (Nat × Cursor) :=
  let (digits, cursor) := cursor.span Char.isDigit
  if digits.isEmpty || digits.length > 9 then none
  else some (Nat.ofDigitChars 10 digits 0, cursor)

def directive? (cursor : Cursor) : Option (Token × Cursor) := do
  let (name, cursor) := cursor.skip.span isNameChar
  if name.isEmpty || !cursor.isOpenAt 0 then none
  else
    let cursor := cursor.skipWhile isBlank
    if String.ofList name = "YAML" then
      let (major, cursor) ← versionNumber? cursor
      if !cursor.sees '.' then none
      else
        let (minor, cursor) ← versionNumber? cursor.skip
        pure (.version major minor, ← cursor.endOfLine?)
    else if String.ofList name = "TAG" then
      let (handle, cursor) ← tagHandle? true cursor
      if !cursor.holdsAt 0 isBlank then none
      else
        let (replacement, cursor) ←
          tagRest? true (cursor.skipWhile isBlank) (cursor.rest.length + 1)
        if replacement.isEmpty || !cursor.isOpenAt 0 then none
        else pure (.tagPrefix handle replacement, ← cursor.endOfLine?)
    else none

/-! ### One token -/

/-- A mark that ends all block collections: a directive or the mark of a document. -/
def atMargin? (lexer : Lexer) : Option Lexer :=
  ((lexer.dedent none).dropCandidate?).map (·.allowKey false)

def openFlow? (lexer : Lexer) (token : Token) : Option Lexer := do
  let lexer ← lexer.addCandidate?
  pure (({ lexer with candidates := none :: lexer.candidates }.allowKey true).emit token
    |>.moveTo lexer.cursor.skip)

def closeFlow? (lexer : Lexer) (token : Token) : Option Lexer := do
  let lexer ← lexer.dropCandidate?
  let candidates := if lexer.inFlow then lexer.candidates.drop 1 else lexer.candidates
  pure (({ lexer with candidates }.allowKey false).emit token |>.moveTo lexer.cursor.skip)

def flowEntry? (lexer : Lexer) : Option Lexer := do
  let lexer ← lexer.dropCandidate?
  pure ((lexer.allowKey true).emit .flowEntry |>.moveTo lexer.cursor.skip)

def blockEntry? (lexer : Lexer) : Option Lexer :=
  if !lexer.inFlow && !lexer.keyAllowed then none
  else do
    let lexer := lexer.indent lexer.cursor.column lexer.tokens.size .blockSequenceStart
    let lexer ← lexer.dropCandidate?
    pure ((lexer.allowKey true).emit .blockEntry |>.moveTo lexer.cursor.skip)

def keyMark? (lexer : Lexer) : Option Lexer :=
  if !lexer.inFlow && !lexer.keyAllowed then none
  else do
    let lexer := lexer.indent lexer.cursor.column lexer.tokens.size .blockMappingStart
    let lexer ← lexer.dropCandidate?
    pure ((lexer.allowKey (!lexer.inFlow)).emit .key |>.moveTo lexer.cursor.skip)

/-- The colon before a value. A key candidate before it becomes a key. -/
def valueMark? (lexer : Lexer) : Option Lexer :=
  match lexer.candidates with
  | some candidate :: rest =>
    let lexer := lexer.emitAt candidate.position .key
    let lexer := lexer.indent candidate.column candidate.position .blockMappingStart
    let lexer := { lexer with candidates := none :: rest }
    some ((lexer.allowKey false).emit .value |>.moveTo lexer.cursor.skip)
  | _ =>
    if !lexer.inFlow && !lexer.keyAllowed then none
    else
      let lexer := lexer.indent lexer.cursor.column lexer.tokens.size .blockMappingStart
      some ((lexer.allowKey (!lexer.inFlow)).emit .value |>.moveTo lexer.cursor.skip)

def keyLike? (lexer : Lexer) (read : Cursor → Option (Token × Cursor)) : Option Lexer := do
  let lexer ← lexer.addCandidate?
  let (token, cursor) ← read lexer.cursor
  pure ((lexer.allowKey false).emit token |>.moveTo cursor)

def quotedToken? (double : Bool) (lexer : Lexer) : Option Lexer :=
  lexer.keyLike? fun cursor =>
    (quoted? double cursor).map fun (text, cursor) => (.scalar text .quoted, cursor)

def blockToken? (literal : Bool) (lexer : Lexer) : Option Lexer := do
  let lexer ← lexer.dropCandidate?
  let (text, cursor) ← block? literal lexer.outer lexer.cursor
  let style := if literal then ScalarStyle.literal else .folded
  pure ((lexer.allowKey true).emit (.scalar text style) |>.moveTo cursor)

/-- A plain text. A key may follow it when a line has ended after it. -/
def plainToken? (lexer : Lexer) : Option Lexer := do
  let lexer ← lexer.addCandidate?
  let plain ← plain? lexer.inFlow lexer.outer lexer.cursor
  pure ((lexer.allowKey plain.crossed).emit (.scalar plain.text .plain) |>.moveTo plain.cursor)

def isIndicator (c : Char) : Bool :=
  "-?:,[]\x7b\x7d#&*!|>'\"%@".toList.contains c || c.toNat == 0x60

/-- Whether a plain text begins at a place. A tab that does not count as a blank begins nothing. -/
def plainBegins (flow : Bool) (cursor : Cursor) : Bool :=
  cursor.holdsAt 0 fun c =>
    if isIndicator c then
      (c == '-' && !cursor.holdsAt 1 isBlank) ||
        (!flow && (c == '?' || c == ':') && !cursor.isOpenAt 1)
    else !isBlank c

/-- Cuts off the token at the place, with blanks and line ends before it already passed. -/
def next? (lexer : Lexer) : Option Lexer :=
  let cursor := lexer.cursor
  let loose := lexer.inFlow || cursor.isOpenAt 1
  if cursor.column == 0 && cursor.sees '%' then do
    let lexer ← lexer.atMargin?
    let (token, cursor) ← directive? cursor
    pure (lexer.emit token |>.moveTo cursor)
  else if cursor.atMarker '-' then do
    let lexer ← lexer.atMargin?
    pure (lexer.emit .documentStart |>.moveTo (cursor.skipMany 3))
  else if cursor.atMarker '.' then do
    let lexer ← lexer.atMargin?
    pure (lexer.emit .documentEnd |>.moveTo (cursor.skipMany 3))
  else if cursor.sees '[' then lexer.openFlow? .flowSequenceStart
  else if cursor.sees '\x7b' then lexer.openFlow? .flowMappingStart
  else if cursor.sees ']' then lexer.closeFlow? .flowSequenceEnd
  else if cursor.sees '\x7d' then lexer.closeFlow? .flowMappingEnd
  else if cursor.sees ',' then lexer.flowEntry?
  else if cursor.sees '-' && cursor.isOpenAt 1 then lexer.blockEntry?
  else if cursor.sees '?' && loose then lexer.keyMark?
  else if cursor.sees ':' && loose then lexer.valueMark?
  else if cursor.sees '*' then
    lexer.keyLike? fun cursor => (anchorName? cursor).map fun (name, cursor) => (.alias name, cursor)
  else if cursor.sees '&' then
    lexer.keyLike? fun cursor =>
      (anchorName? cursor).map fun (name, cursor) => (.anchor name, cursor)
  else if cursor.sees '!' then
    lexer.keyLike? fun cursor =>
      (tagName? lexer.inFlow cursor).map fun (name, cursor) => (.tag name, cursor)
  else if cursor.sees '|' && !lexer.inFlow then lexer.blockToken? true
  else if cursor.sees '>' && !lexer.inFlow then lexer.blockToken? false
  else if cursor.sees '\'' then lexer.quotedToken? false
  else if cursor.sees '"' then lexer.quotedToken? true
  else if plainBegins lexer.inFlow cursor then lexer.plainToken?
  else none

def all? (lexer : Lexer) : (fuel : Nat) → Option (List Token)
  | 0 => none
  | fuel + 1 => do
    let lexer := lexer.skipBlanks (lexer.cursor.rest.length + 1)
    let lexer ← lexer.dropStale?
    if lexer.cursor.atEnd then
      let lexer ← (lexer.dedent none).dropCandidate?
      pure lexer.tokens.toList
    else
      let lexer ← (lexer.dedent (some lexer.cursor.column)).next?
      lexer.all? fuel

end Lexer

def tokens? (text : List Char) : Option (List Token) :=
  if text.all isAllowed then { cursor := { rest := text } : Lexer }.all? (text.length + 2) else none

end BrowserReplay.Yaml
