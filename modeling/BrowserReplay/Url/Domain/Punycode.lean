/-!
# Punycode

Punycode writes a text in ASCII. The ASCII characters come first, up to a hyphen if there are any.
After them stands, for each other character from the smallest to the largest, a number that says
where it goes in: as many steps as it takes to reach its place, where a step goes to the next place
of the text so far and, behind the last one, to the first place for the next character. The numbers
are written in digits from `a` to `z` and `0` to `9`, the lowest first; which digits end a number
depends on the size of the numbers before it.
-/

namespace BrowserReplay.Url.Punycode

/-! ### Digits -/

def digitChar (digit : Nat) : Char :=
  if digit < 26 then Char.ofNat ('a'.toNat + digit) else Char.ofNat ('0'.toNat + (digit - 26))

def digit? (c : Char) : Option Nat :=
  if c.isLower then some (c.toNat - 'a'.toNat)
  else if c.isUpper then some (c.toNat - 'A'.toNat)
  else if c.isDigit then some (c.toNat - '0'.toNat + 26)
  else none

/-- The least digit that does not end a number. Digits stand at the places 36, 72, 108 and so on. -/
def threshold (bias place : Nat) : Nat := min 26 (max 1 (place - bias))

theorem threshold_pos (bias place : Nat) : 1 ≤ threshold bias place := by
  unfold threshold; omega

def firstPlace : Nat := 36

def writeNumber (bias place n : Nat) : List Char :=
  let t := threshold bias place
  if n < t then [digitChar n]
  else digitChar (t + (n - t) % (36 - t)) :: writeNumber bias (place + 36) ((n - t) / (36 - t))
termination_by n
decreasing_by
  have := threshold_pos bias place
  have := Nat.div_le_self (n - threshold bias place) (36 - threshold bias place)
  omega

/-- Reads a number from a place on; gives it, as so many times `weight`, and the rest. -/
def readNumber? (bias place weight : Nat) : List Char → Option (Nat × List Char)
  | [] => none
  | c :: rest => do
    let digit ← digit? c
    let t := threshold bias place
    if digit < t then some (digit * weight, rest)
    else
      let (higher, rest) ← readNumber? bias (place + 36) (weight * (36 - t)) rest
      some (digit * weight + higher, rest)

theorem length_of_readNumber? {cs : List Char} {bias place weight : Nat} {r : Nat × List Char}
    (h : readNumber? bias place weight cs = some r) : r.2.length < cs.length := by
  induction cs generalizing place weight r with
  | nil => simp [readNumber?] at h
  | cons c rest ih =>
    simp only [readNumber?, Option.bind_eq_bind, Option.bind_eq_some_iff] at h
    obtain ⟨digit, -, h⟩ := h
    split at h
    · cases h; simp
    · simp only [Option.bind_eq_some_iff] at h
      obtain ⟨q, hq, h⟩ := h
      cases h
      have := ih hq
      simp only [List.length_cons]
      omega

/-! ### The bias -/

def shrink (n places : Nat) : Nat × Nat :=
  if n > 455 then shrink (n / 35) (places + 36) else (n, places)
termination_by n
decreasing_by omega

/-- The bias after a number, when the text has grown to `size` characters. -/
def biasAfter (n size : Nat) (isFirst : Bool) : Nat :=
  let n := n / if isFirst then 700 else 2
  let (n, places) := shrink (n + n / size) 0
  places + 36 * n / (n + 38)

/-! ### Writing -/

/-- How far the writing of a text is. -/
structure Progress where
  /-- What is written so far, the latest first. -/
  written : List Char := []
  bias : Nat := 72
  /-- How many characters have their place. -/
  size : Nat
  /-- Steps since the last character. -/
  steps : Nat := 0
  isFirst : Bool := true

/-- Passes a character of the text when it is the turn of the code point `turn`. -/
def Progress.pass (turn : Nat) (progress : Progress) (c : Char) : Progress :=
  if c.toNat < turn then { progress with steps := progress.steps + 1 }
  else if c.toNat = turn then
    { written := (writeNumber progress.bias firstPlace progress.steps).reverse ++ progress.written,
      bias := biasAfter progress.steps (progress.size + 1) progress.isFirst,
      size := progress.size + 1, isFirst := false }
  else progress

/-- Gives each of some code points its turn. The one after the last turn is `next`. -/
def writeTurns (text : List Char) (next : Nat) (progress : Progress) : List Nat → Progress
  | [] => progress
  | turn :: later =>
    let reached := { progress with steps := progress.steps + (turn - next) * (progress.size + 1) }
    let passed := text.foldl (Progress.pass turn) reached
    writeTurns text (turn + 1) { passed with steps := passed.steps + 1 } later

def isBasic (c : Char) : Bool := c.toNat < 0x80

def encode (text : List Char) : List Char :=
  let basic := text.filter isBasic
  let turns := ((text.filter (!isBasic ·)).map Char.toNat).mergeSort.eraseReps
  let done := writeTurns text 0x80 { size := basic.length } turns
  basic ++ (if basic.isEmpty then [] else ['-']) ++ done.written.reverse

/-! ### Reading -/

/-- Puts in the characters that numbers stand for. `turn` is the code point whose turn it is, and
`place` where the steps begin. -/
def readTurns? (text : List Char) (bias turn place : Nat) (isFirst : Bool) (cs : List Char) :
    Option (List Char) :=
  if cs = [] then some text
  else
    match h : readNumber? bias firstPlace 1 cs with
    | none => none
    | some (steps, rest) =>
      let size := text.length + 1
      let turn := turn + (place + steps) / size
      let place := (place + steps) % size
      if turn.isValidChar then
        have : rest.length < cs.length := length_of_readNumber? h
        readTurns? (text.insertIdx place (Char.ofNat turn)) (biasAfter steps size isFirst) turn
          (place + 1) false rest
      else none
termination_by cs.length

def decode? (cs : List Char) : Option (List Char) :=
  let back := cs.reverse
  let (basic, numbers) :=
    match back.dropWhile (· ≠ '-') with
    | '-' :: basic =>
      if basic = [] then ([], cs) else (basic.reverse, (back.takeWhile (· ≠ '-')).reverse)
    | _ => ([], cs)
  if basic.all isBasic then readTurns? basic 72 0x80 0 true numbers else none

end BrowserReplay.Url.Punycode
