import BrowserReplay.Json.Basic

/-!
# Numbers that pages know

A page keeps every number as a double: the nearest of the numbers `m * 2 ^ e` with `m < 2 ^ 53`, the
one with even `m` when two are as near. It writes a double with the fewest digits that still denote
it and, of those, the ones nearest to it, the even one if two are as near. Whole numbers below
`2 ^ 53` are doubles and stay as they are.
-/

namespace BrowserReplay

/-- A double without its sign: a multiple of a power of two. -/
structure Double where
  mantissa : Nat
  exponent : Int
  deriving DecidableEq, Repr, Inhabited

namespace Double

def mantissaBound : Nat := Nat.pow 2 53

def minExponent : Int := -1074

def power (base : Nat) : Int → Nat × Nat
  | .ofNat e => (Nat.pow base e, 1)
  | .negSucc e => (1, Nat.pow base (e + 1))

/-- A quotient rounded to the nearest whole number, a half to the even one. -/
def roundDiv (num den : Nat) : Nat :=
  let quotient := num / den
  let twice := 2 * (num % den)
  if twice > den || (twice = den && quotient % 2 = 1) then quotient + 1 else quotient

def nearest (num den : Nat) : Double :=
  let scaled (e : Int) : Nat × Nat :=
    let (up, down) := power 2 e
    (num * down, den * up)
  let guess : Int := max minExponent (Nat.log2 num - Nat.log2 den - 53)
  let (n, d) := scaled guess
  let exponent := if n / d < mantissaBound then guess else guess + 1
  let (n, d) := scaled exponent
  let mantissa := roundDiv n d
  if mantissa = mantissaBound then ⟨mantissaBound / 2, exponent + 1⟩ else ⟨mantissa, exponent⟩

/-- Whether `a * 10 ^ p` is below `b * 2 ^ q`. -/
def isBelow (a : Nat) (p : Int) (b : Nat) (q : Int) : Bool :=
  let (tens, tenths) := power 10 p
  let (twos, halves) := power 2 q
  a * tens * halves < b * twos * tenths

/-- Whether `a * 10 ^ p` is `b * 2 ^ q`. -/
def isEqual (a : Nat) (p : Int) (b : Nat) (q : Int) : Bool :=
  let (tens, tenths) := power 10 p
  let (twos, halves) := power 2 q
  a * tens * halves == b * twos * tenths

/-- Whether a decimal denotes a double: it lies between the middles to its neighbours, or on one of
them if the mantissa is even. -/
def isDenotedBy (x : Double) (digits : Nat) (p : Int) : Bool :=
  let isLowest := x.mantissa = mantissaBound / 2 && x.exponent > minExponent
  let low := if isLowest then 4 * x.mantissa - 1 else 4 * x.mantissa - 2
  let high := 4 * x.mantissa + 2
  let q := x.exponent - 2
  let isEven := x.mantissa % 2 == 0
  let atLeast := !isBelow digits p low q && (isEven || !isEqual digits p low q)
  let atMost := isBelow digits p high q || (isEven && isEqual digits p high q)
  atLeast && atMost

/-- The place of the first digit of a fraction: `10 ^ place` is at most the fraction and
`10 ^ (place + 1)` is above it. -/
def leadingPlace (num den : Nat) : Int :=
  if den ≤ num then ((Nat.toDigits 10 (num / den)).length : Int) - 1
  else -((Nat.toDigits 10 ((den + num - 1) / num - 1)).length : Int)

/-- The digits and the power of ten that denote a double, on the first grid from `count` digits on
that has such a decimal. -/
def shortestFrom (x : Double) (num den : Nat) (place : Int) : (more count : Nat) → Nat × Int
  | 0, _ => (0, 0)
  | more + 1, count =>
    let p := place - count + 1
    let (tens, tenths) := power 10 p
    let below := num * tenths / (den * tens)
    let above := below + 1
    match isDenotedBy x below p, isDenotedBy x above p with
    | true, true =>
      let twice := 2 * num * tenths
      let middle := (below + above) * (den * tens)
      if twice > middle || (twice = middle && below % 2 = 1) then (above, p) else (below, p)
    | true, false => (below, p)
    | false, true => (above, p)
    | false, false => shortestFrom x num den place more (count + 1)

/-- Digits without a zero at the end. Rounding up can leave one. -/
def withoutZero : Nat × Int → Nat × Int
  | (digits, p) => if digits % 10 = 0 then (digits / 10, p + 1) else (digits, p)

/-- The fewest digits that denote a double, and their power of ten. Seventeen always do. -/
def shortest (x : Double) : Nat × Int :=
  if x.mantissa = 0 then (0, 0)
  else
    let (up, down) := power 2 x.exponent
    let num := x.mantissa * up
    withoutZero (shortestFrom x num down (leadingPlace num down) 17 1)

def whole (x : Double) : Nat :=
  let (up, down) := power 2 x.exponent
  x.mantissa * up / down

end Double

namespace Numeral

/-- Numbers with digits this far behind the point are zero for a page. -/
def vanishing : Int := -400

def fraction (n : Numeral) : Nat × Nat :=
  let shift := n.exponent.getD 0
  if shift + (Nat.toDigits 10 n.digits).length < vanishing then (0, 1)
  else
    let (tens, tenths) := Double.power 10 shift
    (n.digits * tens, tenths)

/-- The power of ten from which on whole numbers are written with an exponent. -/
def longestWhole : Int := 21

/-- The number with given digits and power of ten, written as a whole number if it is one below the
limit. -/
def ofDigits (negative : Bool) (digits : Nat) (p : Int) : Numeral :=
  match p with
  | .ofNat e =>
    if (Nat.toDigits 10 digits).length + (e : Int) ≤ longestWhole then
      ⟨negative, digits * Nat.pow 10 e, none⟩
    else ⟨negative, digits, some p⟩
  | .negSucc _ => ⟨negative, digits, some p⟩

def onPage (n : Numeral) : Numeral :=
  if n.exponent = none ∧ n.digits < Double.mantissaBound then
    ⟨n.negative && n.digits != 0, n.digits, none⟩
  else
    let (num, den) := n.fraction
    if num = 0 then ⟨false, 0, none⟩
    else
      let (digits, p) := (Double.nearest num den).shortest
      ofDigits n.negative digits p

/-- A number as a page cuts it to a signed word of 32 bits. -/
def int32 (n : Numeral) : Int :=
  let whole :=
    if n.exponent = none ∧ n.digits < Double.mantissaBound then n.digits
    else (Double.nearest n.fraction.1 n.fraction.2).whole
  (if n.negative then -(whole : Int) else whole).bmod (Nat.pow 2 32)

def zeros (count : Nat) : List Char := List.replicate count '0'

/-- The digits of a number and the power of ten in front of which its point stands: without a point
if there is no fraction, with zeros in front of small ones, and otherwise behind the first digit,
followed by the exponent. -/
def place (digits : List Char) (p : Int) : List Char :=
  let point := digits.length + p
  if 0 ≤ p && point ≤ longestWhole then digits ++ zeros p.toNat
  else if 0 < point && point ≤ longestWhole then
    digits.take point.toNat ++ '.' :: digits.drop point.toNat
  else if -6 < point && point ≤ 0 then ['0', '.'] ++ zeros (-point).toNat ++ digits
  else
    let exponent := point - 1
    digits.take 1 ++ (if digits.length = 1 then [] else '.' :: digits.drop 1) ++
      ['e', if exponent < 0 then '-' else '+'] ++ Nat.toDigits 10 exponent.natAbs

def pageText (n : Numeral) : String :=
  let known := n.onPage
  let sign := if known.negative then ['-'] else []
  String.ofList (sign ++ place (Nat.toDigits 10 known.digits) (known.exponent.getD 0))

theorem onPage_ofNat {n : Nat} (h : n < Double.mantissaBound) : (ofNat n).onPage = ofNat n :=
  if_pos ⟨rfl, h⟩

theorem int32_ofNat {n : Nat} (h : n < Nat.pow 2 31) : (ofNat n).int32 = n := by
  have hexact : n < Double.mantissaBound := Nat.lt_trans h (by decide)
  simp only [int32, ofNat, hexact, and_self, if_true, Bool.false_eq_true, if_false]
  have hhalf : n * 2 < Nat.pow 2 32 := Nat.mul_lt_mul_of_pos_right h (by decide)
  exact Int.bmod_eq_of_le_mul_two (by omega) (by omega)

end Numeral

end BrowserReplay
