import BrowserReplay.Url.Percent

/-!
# Paths

A path is read from left to right onto a text that it continues: the empty text, a slash, or what is
kept of the path of the URL that it is relative to. A segment ends at a slash, and at a backslash
where the scheme is well known. The segment `.` vanishes and `..` takes the segment before it away,
except that a drive letter, such as `C:`, is never taken away. At the root of a file path a drive
letter may be written with a bar.
-/

namespace BrowserReplay.Url

/-- How a scheme's URLs are read: files, the other well-known schemes, and the rest. -/
inductive SchemeKind where
  | file
  | special
  | plain
  deriving DecidableEq, Repr

def SchemeKind.of (scheme : List Char) : SchemeKind :=
  if String.ofList scheme = "file" then .file
  else if ["http", "https", "ws", "wss", "ftp"].contains (String.ofList scheme) then .special
  else .plain

def SchemeKind.isSpecial : SchemeKind → Bool
  | .file | .special => true
  | .plain => false

/-! ### Drive letters -/

def isDrive : List Char → Bool
  | [letter, mark] => letter.isAlpha && (mark == ':' || mark == '|')
  | _ => false

def isNormalDrive : List Char → Bool
  | [letter, ':'] => letter.isAlpha
  | _ => false

def beginsWithDrive : List Char → Bool
  | [letter, mark] => isDrive [letter, mark]
  | letter :: mark :: next :: _ =>
    isDrive [letter, mark] && (next == '/' || next == '\\' || next == '?' || next == '#')
  | _ => false

/-! ### Taking segments away -/

/-- A path without its last segment; the slash before the segment stays. The slash itself is not
taken away, nor is a drive letter of a file. -/
def popSegment (kind : SchemeKind) (path : List Char) : List Char :=
  let last := (path.reverse.takeWhile (· ≠ '/')).reverse
  if kind = .file && isNormalDrive last then path
  else (path.reverse.dropWhile (· ≠ '/')).reverse

/-- Whether the slash at the end of a path closes a segment that may be taken away. -/
def closesSegment (path : List Char) : Bool :=
  let before := path.dropLast
  if before.contains '/' then
    let segment := (before.reverse.takeWhile (· ≠ '/')).reverse
    !beginsWithDrive (segment ++ ['/'])
  else false

def shorten (kind : SchemeKind) (path : List Char) : List Char :=
  let path := if path.getLast? = some '/' && closesSegment path then path.dropLast else path
  if kind = .file && isNormalDrive path then path else popSegment kind path

/-! ### Reading -/

/-- A path while it is read: its text so far, where the segment that is being read begins in it, and
whether a drive letter has been met at its root. -/
structure PathReading where
  text : List Char
  start : Nat
  atDrive : Bool := false
  deriving DecidableEq, Repr

/-- A dot, plain or in percent notation, at the front of a text. -/
def dropDot? : List Char → Option (List Char)
  | '.' :: rest => some rest
  | '%' :: '2' :: 'e' :: rest => some rest
  | '%' :: '2' :: 'E' :: rest => some rest
  | _ => none

def isSingleDot (segment : List Char) : Bool := dropDot? segment == some []

def isDoubleDot (segment : List Char) : Bool := (dropDot? segment).bind dropDot? == some []

namespace PathReading

/-- Adds a character to the segment. After a drive letter a file path goes on with a slash. -/
def push (kind : SchemeKind) (c : Char) (reading : PathReading) : PathReading :=
  let reading :=
    if kind = .file && isNormalDrive (reading.text.drop 1) then
      { reading with text := reading.text ++ ['/'], start := reading.start + 1 }
    else reading
  { reading with text := reading.text ++ encodeChar .path c }

def close (kind : SchemeKind) (slash : Bool) (reading : PathReading) : PathReading :=
  let segment := reading.text.drop reading.start
  let before := reading.text.take reading.start
  let withSlash (path : List Char) : List Char :=
    if path.getLast? = some '/' then path else path ++ ['/']
  let text :=
    if isDoubleDot segment then
      let shorter := shorten kind before
      if slash then withSlash shorter else shorter
    else if isSingleDot segment then withSlash before
    else if kind = .file && reading.start == 1 && isDrive segment then
      before ++ segment.take 1 ++ [':'] ++ (if slash then ['/'] else [])
    else reading.text ++ (if slash then ['/'] else [])
  let atDrive := kind = .file && reading.start == 1 && isDrive segment
  { text, start := text.length, atDrive := reading.atDrive || atDrive }

/-- Reads up to the query, the fragment or the end, and gives what follows. -/
def read (kind : SchemeKind) : List Char → PathReading → PathReading × List Char
  | [], reading => (reading.close kind false, [])
  | c :: rest, reading =>
    if c = '/' || (c = '\\' && kind.isSpecial) then read kind rest (reading.close kind true)
    else if c = '?' || c = '#' then (reading.close kind false, c :: rest)
    else read kind rest (reading.push kind c)

end PathReading

/-- Continues the path `onto`. A file path keeps one slash in front. Also says whether a drive letter
was met at the root, and what follows the path. -/
def continuePath (kind : SchemeKind) (onto input : List Char) : List Char × Bool × List Char :=
  let (reading, rest) := PathReading.read kind input ⟨onto, onto.length, false⟩
  let path :=
    if kind = .file then '/' :: reading.text.dropWhile (· = '/') else reading.text
  (path, reading.atDrive, rest)

end BrowserReplay.Url
