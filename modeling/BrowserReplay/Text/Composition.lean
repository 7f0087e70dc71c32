import BrowserReplay.Text.CombiningClass

/-!
# Composed text

The same text can be written with a letter that has a mark or with the letter and the mark apart.
The composed form takes all letters apart, puts the marks in order, and joins what can be joined.
-/

namespace BrowserReplay.Text

/-! ### Parts of characters -/

structure Composite where
  first : Char
  second : Char
  whole : Char
  deriving DecidableEq, Repr

/-- The characters made of two, syllables of the Korean script apart. -/
def composites : List Composite :=
  compositionRuns.flatMap fun (mark, pairs) =>
    (pairs.splitOn " ").filterMap fun pair =>
      match pair.toList with
      | [first, whole] => some ⟨first, Char.ofNat mark, whole⟩
      | _ => none

/-- The first Korean syllable. Syllables are numbered by their leading consonant, of which there are
19, then by their vowel, of which there are 21, and then by their trailing consonant, for which there
are 28 choices, the first of them being none. -/
def syllableBase : Nat := 0xAC00

def leadBase : Nat := 0x1100

def vowelBase : Nat := 0x1161

/-- The code point before the first trailing consonant. -/
def trailBase : Nat := 0x11A7

/-- The place of a code point among `count` ones from `base` on. -/
def offset? (base count n : Nat) : Option Nat :=
  if base ≤ n && n < base + count then some (n - base) else none

def syllableParts? (c : Char) : Option (Char × Char) :=
  (offset? syllableBase (19 * 21 * 28) c.toNat).map fun number =>
    if number % 28 = 0 then
      (Char.ofNat (leadBase + number / 28 / 21), Char.ofNat (vowelBase + number / 28 % 21))
    else
      (Char.ofNat (syllableBase + number / 28 * 28), Char.ofNat (trailBase + number % 28))

def syllable? (first second : Char) : Option Char :=
  match offset? leadBase 19 first.toNat, offset? vowelBase 21 second.toNat with
  | some lead, some vowel => some (Char.ofNat (syllableBase + (lead * 21 + vowel) * 28))
  | _, _ =>
    match offset? syllableBase (19 * 21 * 28) first.toNat, offset? (trailBase + 1) 27 second.toNat with
    | some number, some trail =>
      if number % 28 = 0 then some (Char.ofNat (syllableBase + number + trail + 1)) else none
    | _, _ => none

def parts? (c : Char) : Option (Char × Char) :=
  (syllableParts? c).or
    ((composites.find? (·.whole = c)).map fun composite => (composite.first, composite.second))

def composite? (first second : Char) : Option Char :=
  (syllable? first second).or
    ((composites.find? fun composite => composite.first = first && composite.second = second).map
      (·.whole))

/-! ### The composed form -/

/-- Takes a character apart, and its first part again, up to so many times. -/
def takeApart : Nat → Char → List Char
  | 0, c => [c]
  | times + 1, c =>
    match parts? c with
    | some (first, second) => takeApart times first ++ [second]
    | none => [c]

/-- How many times a character can be taken apart. -/
def maxParts : Nat := 3

/-- Puts a character before a text, or further back, behind marks that stand closer to the letter
than it does. -/
def insertMark (c : Char) : List Char → List Char
  | [] => [c]
  | d :: rest =>
    if 0 < combiningClass d && combiningClass d < combiningClass c then d :: insertMark c rest
    else c :: d :: rest

def decompose (cs : List Char) : List Char := (cs.flatMap (takeApart maxParts)).foldr insertMark []

/-- Whether a character cannot reach its letter because of the marks between, the latest first. -/
def isBlocked (between : List Char) (c : Char) : Bool :=
  match between with
  | [] => false
  | d :: _ => combiningClass c ≤ combiningClass d

/-- Joins a text to a letter. `between` are marks that the letter does not join with, the latest
first. -/
def joinOnto (letter : Char) (between : List Char) : List Char → List Char
  | [] => letter :: between.reverse
  | c :: rest =>
    match if isBlocked between c then none else composite? letter c with
    | some whole => joinOnto whole between rest
    | none =>
      if combiningClass c = 0 then letter :: (between.reverse ++ joinOnto c [] rest)
      else joinOnto letter (c :: between) rest

def joinParts : List Char → List Char
  | [] => []
  | c :: rest => if combiningClass c = 0 then joinOnto c [] rest else c :: joinParts rest

def compose (cs : List Char) : List Char := joinParts (decompose cs)

end BrowserReplay.Text
