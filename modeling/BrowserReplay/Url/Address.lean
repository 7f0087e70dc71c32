/-!
# Numeric addresses

Hosts may be given as numbers. An address of the short kind is one to four numbers between dots, each
decimal, octal after `0` or hexadecimal after `0x`; the last number fills all the bytes that are
left. An address of the long kind is eight groups of hexadecimal digits between colons; one run of
zero groups may be left out, and the last two groups may be written as four decimal numbers.
-/

namespace BrowserReplay.Url

/-- The parts of a text between the occurrences of a character. -/
def splitAt (mark : Char) : List Char → List (List Char)
  | [] => [[]]
  | c :: cs =>
    if c = mark then [] :: splitAt mark cs
    else
      match splitAt mark cs with
      | part :: parts => (c :: part) :: parts
      | [] => [[c]]

def digit? (base : Nat) (c : Char) : Option Nat :=
  let n := c.toNat
  let value := if 48 ≤ n ∧ n ≤ 57 then n - 48
    else if 97 ≤ n ∧ n ≤ 102 then n - 87
    else if 65 ≤ n ∧ n ≤ 70 then n - 55
    else 16
  if value < base then some value else none

def ofDigits? (base : Nat) (cs : List Char) : Option Nat :=
  cs.foldlM (fun acc c => (digit? base c).map (acc * base + ·)) 0

/-! ### The short kind -/

/-- One number of a short address. A mere `0x` counts as zero. -/
def shortNumber? : List Char → Option Nat
  | [] => none
  | '0' :: 'x' :: digits => ofDigits? 16 digits
  | '0' :: 'X' :: digits => ofDigits? 16 digits
  | '0' :: d :: digits => ofDigits? 8 (d :: digits)
  | digits => ofDigits? 10 digits

/-- The parts of a name between its dots, without an empty one at the end. -/
def dottedParts (cs : List Char) : List (List Char) :=
  match (splitAt '.' cs).reverse with
  | [] :: rest => rest.reverse
  | parts => parts.reverse

/-- Whether a name must be read as a short address: its last part is a number. -/
def endsInNumber (cs : List Char) : Bool :=
  match (splitAt '.' cs).reverse with
  | [] :: last :: _ => isNumber last
  | [[]] => false
  | last :: _ => isNumber last
  | [] => false
where
  isNumber (part : List Char) : Bool :=
    (!part.isEmpty && part.all Char.isDigit) || (shortNumber? part).isSome

/-- The value of a short address from its numbers: all but the last one are bytes, and the last one
fits into the bytes that are left. -/
def shortValue? (numbers : List Nat) : Option Nat :=
  match numbers.reverse with
  | [] => none
  | last :: earlier =>
    let room := Nat.pow 256 (4 - earlier.length)
    if earlier.length < 4 ∧ earlier.all (· < 256) ∧ last < room then
      some (earlier.reverse.foldl (fun acc n => acc * 256 + n) 0 * room + last)
    else none

def shortAddress? (cs : List Char) : Option Nat :=
  ((dottedParts cs).mapM shortNumber?).bind shortValue?

def writeShort (value : Nat) : List Char :=
  let byte (place : Nat) : List Char := Nat.toDigits 10 (value / Nat.pow 256 place % 256)
  byte 3 ++ '.' :: byte 2 ++ '.' :: byte 1 ++ '.' :: byte 0

/-! ### The long kind -/

def group? (cs : List Char) : Option Nat :=
  if cs.length ≤ 4 && !cs.isEmpty then ofDigits? 16 cs else none

def plainByte? (cs : List Char) : Option Nat :=
  match cs with
  | [] => none
  | ['0'] => some 0
  | '0' :: _ => none
  | _ => (ofDigits? 10 cs).filter (· < 256)

def shortGroups? (cs : List Char) : Option (List Nat) :=
  match (splitAt '.' cs).mapM plainByte? with
  | some [a, b, c, d] => some [a * 256 + b, c * 256 + d]
  | _ => none

/-- The groups of a text between colons; only the last one may be in decimal numbers. -/
def groups? : List (List Char) → Option (List Nat)
  | [] => some []
  | [last] => if last.contains '.' then shortGroups? last else (group? last).map ([·])
  | part :: parts => do
    let first ← group? part
    let rest ← groups? parts
    pure (first :: rest)

/-- Groups between colons, none for the empty text. -/
def side? (cs : List Char) : Option (List Nat) :=
  if cs.isEmpty then some [] else groups? (splitAt ':' cs)

/-- Cuts a text at its first pair of colons. -/
def cutAtGap : List Char → Option (List Char × List Char)
  | ':' :: ':' :: rest => some ([], rest)
  | c :: rest => (cutAtGap rest).map fun (before, after) => (c :: before, after)
  | [] => none

def longAddress? (cs : List Char) : Option (List Nat) :=
  match cutAtGap cs with
  | some (before, after) => do
    let front ← if before.contains '.' then none else side? before
    let back ← side? after
    if front.length + back.length ≤ 7 then
      pure (front ++ List.replicate (8 - front.length - back.length) 0 ++ back)
    else none
  | none => (side? cs).filter (·.length = 8)

/-- The first of the longest runs of zeros, from a position on, as its start and length. -/
def longestGap (position : Nat) : List Nat → Nat × Nat
  | [] => (position, 0)
  | group :: groups =>
    let run := ((group :: groups).takeWhile (· = 0)).length
    let later := longestGap (position + 1) groups
    if later.2 ≤ run then (position, run) else later

def writeGroups (groups : List Nat) : List Char :=
  List.intercalate [':'] (groups.map (Nat.toDigits 16))

/-- A long address in its usual form, with the first of the longest runs of at least two zero groups
left out. -/
def writeLong (groups : List Nat) : List Char :=
  let (start, length) := longestGap 0 groups
  if length < 2 then writeGroups groups
  else writeGroups (groups.take start) ++ [':', ':'] ++ writeGroups (groups.drop (start + length))

end BrowserReplay.Url
