import BrowserReplay.Text.LetterCase

/-!
# Lower case

The lower case of a text, letter by letter. Two letters are special: a dotted capital I becomes an i
and a combining dot, and a capital sigma becomes the final form at the end of a word.
-/

namespace BrowserReplay.Text

def lowerCode (n : Nat) : Nat :=
  match caseRuns.find? fun run =>
      run.first ≤ n && n ≤ run.last && (n - run.first) % run.step == 0 with
  | some run => (n + run.offset).toNat
  | none => n

def lowerChar (c : Char) : List Char :=
  if c.toNat < 0x80 then [c.toLower]
  else if c = 'İ' then ['i', '\u0307']
  else [Char.ofNat (lowerCode c.toNat)]

/-- Whether the first character that counts has a case. -/
def meetsCased (cs : List Char) : Bool :=
  match cs.dropWhile fun c => inRanges caseIgnorableRanges c.toNat with
  | c :: _ => inRanges casedRanges c.toNat
  | [] => false

/-- The lower case of a capital sigma: final if a letter stands before it and none after it. -/
def lowerSigma (before after : List Char) : Char :=
  if meetsCased before && !meetsCased after then 'ς' else 'σ'

/-- The lower case of a text whose earlier characters, nearest first, are `before`. -/
def lowercaseAfter (before : List Char) : List Char → List Char
  | [] => []
  | c :: after =>
    (if c = 'Σ' then [lowerSigma before after] else lowerChar c) ++
      lowercaseAfter (c :: before) after

def lowercase (cs : List Char) : List Char := lowercaseAfter [] cs

end BrowserReplay.Text
