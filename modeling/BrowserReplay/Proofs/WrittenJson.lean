import BrowserReplay.Json.Printer
import BrowserReplay.Json.Reader
import Mathlib.Data.List.Forall2

/-!
# Documents that are written and read

What is written for a document is read back as that document (`parse?_render`). Nothing is asked of
the document: unsound literals are written as something that is no text either, and numbers keep
their digits and exponent. The reader is given fuel for as many nested steps as the text has
characters, and what is written for a part is at least as long as the steps that it takes to read it.
-/

namespace BrowserReplay.Json

/-! ### String literals -/

/-- A piece of a literal that spells a character, whatever pieces come next. -/
inductive Piece.Spells : Piece → Char → Prop
  | char (c : Char) : Spells (.char c) c
  | unit (c : Char) (h : c.toNat < 0x20) : Spells (.unit c.toNat) c

theorem hexValue?_hexDigit : ∀ n < 16, hexValue? (hexDigit n) = some n := by
  decide

theorem pieces?_control {c : Char} (h : c.toNat < 0x20) (rest : List Char) :
    pieces? ('\\' :: 'u' :: '0' :: '0' :: hexDigit (c.toNat / 16) :: hexDigit (c.toNat % 16) ::
      rest) = (pieces? rest).map fun (pieces, rest) => (.unit c.toNat :: pieces, rest) := by
  have hzero : hexValue? '0' = some 0 := rfl
  have hhigh := hexValue?_hexDigit (c.toNat / 16) (by omega)
  have hlow := hexValue?_hexDigit (c.toNat % 16) (by omega)
  have hunit : hexUnit? '0' '0' (hexDigit (c.toNat / 16)) (hexDigit (c.toNat % 16)) =
      some c.toNat := by
    simp [hexUnit?, hzero, hhigh, hlow]
    omega
  rw [pieces?, hunit]
  cases pieces? rest <;> rfl

theorem pieces?_plain {c : Char} (hquote : c ≠ '"') (hbackslash : c ≠ '\\')
    (hcontrol : ¬ c.toNat < 0x20) (rest : List Char) :
    pieces? (c :: rest) = (pieces? rest).map fun (pieces, rest) => (.char c :: pieces, rest) := by
  rw [pieces?]
  · rw [if_neg (by simp [hbackslash, hcontrol])]
    cases pieces? rest <;> rfl
  · exact fun h => hquote h
  · exact fun _ _ _ _ _ h => absurd h hbackslash
  · exact fun _ _ h => absurd h hbackslash

/-- A character is escaped as one piece that spells it. -/
theorem pieces?_escape (c : Char) (rest : List Char) :
    ∃ piece : Piece, piece.Spells c ∧
      pieces? (escape c ++ rest) =
        (pieces? rest).map fun (pieces, rest) => (piece :: pieces, rest) := by
  have hletter (letter c : Char) (h : letterEscape? letter = some c) (hletter : letter ≠ 'u') :
      ∃ piece : Piece, piece.Spells c ∧
        pieces? ('\\' :: letter :: rest) =
          (pieces? rest).map fun (pieces, rest) => (piece :: pieces, rest) := by
    refine ⟨.char c, .char c, ?_⟩
    rw [pieces?]
    · rw [h]
      cases pieces? rest <;> rfl
    · exact fun _ _ _ _ _ heq _ => hletter heq
  unfold escape
  split
  next h => exact h ▸ hletter '"' '"' rfl (by decide)
  next hquote =>
  split
  next h => exact h ▸ hletter '\\' '\\' rfl (by decide)
  next hbackslash =>
  split
  next h => exact h ▸ hletter 'n' '\n' rfl (by decide)
  split
  next h => exact h ▸ hletter 'r' '\r' rfl (by decide)
  split
  next h => exact h ▸ hletter 't' '\t' rfl (by decide)
  split
  next h => exact h ▸ hletter 'b' '\x08' rfl (by decide)
  split
  next h => exact h ▸ hletter 'f' '\x0c' rfl (by decide)
  split
  next h => exact ⟨_, .unit c h, pieces?_control h rest⟩
  next h => exact ⟨_, .char c, pieces?_plain hquote hbackslash h rest⟩

/-- A unit below the surrogates is taken alone, also when another unit follows. -/
theorem join?_unit {n : Nat} (h : n < 0x20) (rest : List Piece) :
    join? (.unit n :: rest) = (join? rest).map (Char.ofNat n :: ·) := by
  have hhigh : isHighSurrogate n = false := by simp [isHighSurrogate]; omega
  have hlow : isLowSurrogate n = false := by simp [isLowSurrogate]; omega
  rcases rest with _ | ⟨_ | _, _⟩ <;> simp [join?, hhigh, hlow]

/-- Pieces that spell one character each are joined to these characters. -/
theorem join?_spells {pieces : List Piece} {cs : List Char}
    (h : List.Forall₂ Piece.Spells pieces cs) : join? pieces = some cs := by
  induction h with
  | nil => rfl
  | cons hpiece _ ih =>
    cases hpiece with
    | char c => rw [join?, ih, Option.map_some]
    | unit c hcontrol => rw [join?_unit hcontrol, ih, Option.map_some, Char.ofNat_toNat]

/-- A literal is read up to the quote that ends it. -/
theorem literal?_quoted (cs rest : List Char) :
    literal? (cs.flatMap escape ++ '"' :: rest) = some (some (String.ofList cs), rest) := by
  have hpieces : ∃ pieces, List.Forall₂ Piece.Spells pieces cs ∧
      pieces? (cs.flatMap escape ++ '"' :: rest) = some (pieces, rest) := by
    induction cs with
    | nil => exact ⟨[], .nil, rfl⟩
    | cons c cs ih =>
      obtain ⟨pieces, hspells, hread⟩ := ih
      obtain ⟨piece, hpiece, hescape⟩ := pieces?_escape c (cs.flatMap escape ++ '"' :: rest)
      refine ⟨piece :: pieces, .cons hpiece hspells, ?_⟩
      rw [List.flatMap_cons, List.append_assoc, hescape, hread]
      rfl
  obtain ⟨pieces, hspells, hread⟩ := hpieces
  simp [literal?, hread, join?_spells hspells]

/-- A literal is read back, also one that denotes no text. -/
theorem literal?_writeLiteral (value : Option String) :
    ∃ body, writeLiteral value = '"' :: body ∧
      ∀ rest, literal? (body ++ rest) = some (value, rest) := by
  cases value with
  | none => exact ⟨_, rfl, fun _ => rfl⟩
  | some s =>
    refine ⟨s.toList.flatMap escape ++ ['"'], rfl, fun rest => ?_⟩
    rw [List.append_assoc, List.singleton_append, literal?_quoted, String.ofList_toList]

/-! ### Numbers -/

/-- A text with which no number goes on. -/
def EndsNumber (rest : List Char) : Prop :=
  ∀ c ∈ rest.head?, c.isDigit = false ∧ c ≠ '.' ∧ c ≠ 'e' ∧ c ≠ 'E'

theorem isDigit_of_mem_writeNat {n : Nat} {c : Char} (h : c ∈ writeNat n) : c.isDigit = true :=
  @Nat.isDigit_of_mem_toDigits 10 n c (by decide) (by decide) h

theorem exists_writeNat (n : Nat) :
    ∃ digit digits, writeNat n = digit :: digits ∧ digit.isDigit = true := by
  obtain ⟨digit, digits, hdigits⟩ :=
    List.exists_cons_of_ne_nil (Nat.toDigits_ne_nil : writeNat n ≠ [])
  exact ⟨digit, digits, hdigits, isDigit_of_mem_writeNat (hdigits ▸ List.mem_cons_self)⟩

/-- Digits are taken up to the first character that is none. -/
theorem spanDigits_writeNat (n : Nat) {rest : List Char}
    (h : ∀ c ∈ rest.head?, c.isDigit = false) :
    spanDigits (writeNat n ++ rest) = (writeNat n, rest) := by
  have hdigits : ∀ c ∈ writeNat n, c.isDigit = true := fun c => isDigit_of_mem_writeNat
  have hrest : rest.takeWhile Char.isDigit = [] ∧ rest.dropWhile Char.isDigit = rest := by
    cases rest with
    | nil => exact ⟨rfl, rfl⟩
    | cons c rest =>
      have hc : c.isDigit = false := h c rfl
      simp [hc]
  rw [spanDigits, List.takeWhile_append_of_pos hdigits, List.dropWhile_append_of_pos hdigits,
    hrest.1, hrest.2, List.append_nil]

/-- Only zero is written with a zero in front. -/
theorem writeNat_head (n : Nat) :
    writeNat n = ['0'] ∨ ∃ digit digits, writeNat n = digit :: digits ∧ digit ≠ '0' := by
  induction n using Nat.strongRecOn with
  | ind n ih =>
    rw [writeNat, Nat.toDigits_eq_if (by decide)]
    split
    next hsmall =>
      rcases Nat.eq_zero_or_pos n with rfl | hpos
      · exact .inl rfl
      · refine .inr ⟨_, _, rfl, ?_⟩
        rw [ne_eq, Nat.digitChar_eq_zero]
        omega
    next hlarge =>
      have hdiv : n / 10 < n := by omega
      obtain hzero | ⟨digit, digits, hdigits, hne⟩ := ih (n / 10) hdiv
      · have hvalue : Nat.ofDigitChars 10 (Nat.toDigits 10 (n / 10)) 0 = n / 10 :=
          Nat.ofDigitChars_toDigits (by decide) (by decide)
        rw [writeNat] at hzero
        rw [hzero] at hvalue
        have hnone : n / 10 = 0 := hvalue.symm
        omega
      · rw [writeNat] at hdigits
        exact .inr ⟨digit, _, by rw [hdigits, List.cons_append], hne⟩

theorem ofDigitChars_writeNat (n : Nat) : Nat.ofDigitChars 10 (writeNat n) 0 = n :=
  Nat.ofDigitChars_toDigits (by decide) (by decide)

theorem whole?_writeNat (n : Nat) {rest : List Char} (h : ∀ c ∈ rest.head?, c.isDigit = false) :
    whole? (writeNat n ++ rest) = some (writeNat n, rest) := by
  rw [whole?, spanDigits_writeNat n h]
  rcases writeNat_head n with hzero | ⟨digit, digits, hdigits, hne⟩
  · simp [hzero]
  · simp [hdigits, hne]

theorem fraction?_none {cs : List Char} (h : cs.head? ≠ some '.') :
    fraction? cs = some (none, cs) := by
  unfold fraction?
  split
  · exact absurd rfl h
  · rfl

theorem exponent?_none {rest : List Char} (h : EndsNumber rest) :
    exponent? rest = some (none, rest) := by
  cases rest with
  | nil => rfl
  | cons c rest =>
    obtain ⟨-, -, hlower, hupper⟩ := h c rfl
    unfold exponent?
    split <;> simp_all

theorem exponentDigits?_writeNat (negative : Bool) (n : Nat) {rest : List Char}
    (h : ∀ c ∈ rest.head?, c.isDigit = false) :
    exponentDigits? negative (writeNat n ++ rest) =
      some (some (if negative then -(n : Int) else n), rest) := by
  rw [exponentDigits?, spanDigits_writeNat n h]
  have hvalue := ofDigitChars_writeNat n
  rcases writeNat_head n with hzero | ⟨digit, digits, hdigits, -⟩
  · rw [hzero] at hvalue
    simp [hzero, hvalue]
  · rw [hdigits] at hvalue
    simp [hdigits, hvalue]

def writeExponent : Option Int → List Char
  | none => []
  | some (.ofNat e) => 'e' :: writeNat e
  | some (.negSucc e) => 'e' :: '-' :: writeNat (e + 1)

theorem writeNumeral_eq (n : Numeral) : writeNumeral n =
    (if n.negative then ['-'] else []) ++ (writeNat n.digits ++ writeExponent n.exponent) := by
  rw [writeNumeral, List.append_assoc]
  rfl

theorem exponent?_writeExponent (exponent : Option Int) {rest : List Char} (h : EndsNumber rest) :
    exponent? (writeExponent exponent ++ rest) = some (exponent, rest) := by
  have hdigit : ∀ c ∈ rest.head?, c.isDigit = false := fun c hc => (h c hc).1
  cases exponent with
  | none => exact exponent?_none h
  | some e =>
    cases e with
    | negSucc e =>
      have hread := exponentDigits?_writeNat true (e + 1) hdigit
      simpa [writeExponent, exponent?, Int.negSucc_eq] using hread
    | ofNat e =>
      have hread := exponentDigits?_writeNat false e hdigit
      obtain ⟨digit, digits, hdigits, hfirst⟩ := exists_writeNat e
      rw [writeExponent, List.cons_append, hdigits, List.cons_append]
      rw [hdigits, List.cons_append] at hread
      rw [exponent?, if_pos (.inl rfl), hread]
      · rfl
      all_goals
        rintro _ heq
        obtain ⟨rfl, -⟩ := List.cons.inj heq
        cases hfirst

/-- What follows the whole part of a number that is written is no part of it. -/
theorem head?_writeExponent (exponent : Option Int) {rest : List Char} (h : EndsNumber rest) :
    ∀ c ∈ (writeExponent exponent ++ rest).head?, c.isDigit = false ∧ c ≠ '.' := by
  rcases exponent with _ | _ | _
  · exact fun c hc => ⟨(h c hc).1, (h c hc).2.1⟩
  · rintro _ ⟨⟩
    decide
  · rintro _ ⟨⟩
    decide

theorem unsigned?_written (negative : Bool) (digits : Nat) (exponent : Option Int)
    {rest : List Char} (h : EndsNumber rest) :
    unsigned? negative (writeNat digits ++ (writeExponent exponent ++ rest)) =
      some (⟨negative, digits, exponent⟩, rest) := by
  have hhead := head?_writeExponent exponent h
  have hwhole := whole?_writeNat digits fun c hc => (hhead c hc).1
  have hfraction : fraction? (writeExponent exponent ++ rest) =
      some (none, writeExponent exponent ++ rest) :=
    fraction?_none fun hpoint => (hhead '.' hpoint).2 rfl
  have hexponent := exponent?_writeExponent exponent h
  have hdigits := ofDigitChars_writeNat digits
  simp only [unsigned?, hwhole, hfraction, hexponent, Option.bind_eq_bind, Option.bind_some]
  cases exponent <;> simp [hdigits]

/-- A number is read back with its digits and its exponent. -/
theorem numeral?_writeNumeral (n : Numeral) {rest : List Char} (h : EndsNumber rest) :
    numeral? (writeNumeral n ++ rest) = some (n, rest) := by
  obtain ⟨negative, digits, exponent⟩ := n
  have hread := unsigned?_written negative digits exponent h
  rw [writeNumeral_eq, List.append_assoc, List.append_assoc]
  cases negative with
  | true => exact hread
  | false =>
    show numeral? (writeNat digits ++ (writeExponent exponent ++ rest)) = _
    obtain ⟨digit, more, hdigits, hfirst⟩ := exists_writeNat digits
    unfold numeral?
    split
    next heq =>
      rw [hdigits] at heq
      obtain ⟨rfl, -⟩ := List.cons.inj heq
      cases hfirst
    · exact hread

/-! ### Documents -/

theorem skipSpace_cons {c : Char} (h : isSpace c = false) (cs : List Char) :
    skipSpace (c :: cs) = c :: cs := by
  simp [skipSpace, h]

/-- The sign of a number or its first digit. -/
def OpensNumber (c : Char) : Prop := c = '-' ∨ c.isDigit = true

theorem OpensNumber.ne {c : Char} (h : OpensNumber c) {letter : Char} (hminus : letter ≠ '-')
    (hdigit : letter.isDigit = false) : c ≠ letter := by
  rintro rfl
  rcases h with h | h
  · exact hminus h
  · simp [hdigit] at h

theorem OpensNumber.isSpace_eq {c : Char} (h : OpensNumber c) : isSpace c = false := by
  simp [isSpace, h.ne]

theorem writeNumeral_head (n : Numeral) :
    ∃ c cs, writeNumeral n = c :: cs ∧ OpensNumber c := by
  rw [writeNumeral_eq]
  obtain ⟨digit, digits, hdigits, hfirst⟩ := exists_writeNat n.digits
  cases n.negative with
  | true => exact ⟨'-', _, rfl, .inl rfl⟩
  | false => exact ⟨digit, _, by rw [hdigits]; rfl, .inr hfirst⟩

/-- What starts with a sign or a digit is a number, if anything. -/
theorem value?_numeral {c : Char} (h : OpensNumber c) (fuel : Nat) (cs : List Char) :
    value? (fuel + 1) (c :: cs) = (numeral? (c :: cs)).map fun (n, rest) => (.number n, rest) := by
  rw [value?, skipSpace_cons h.isSpace_eq]
  split
  all_goals first
    | rfl
    | next heq => exact absurd (List.cons.inj heq).1 (h.ne (by decide) (by decide))

/-- What is written for a document starts neither with a blank nor with a closing bracket. -/
theorem write_head (document : Json) :
    ∃ c cs, write document = c :: cs ∧ isSpace c = false ∧ c ≠ ']' := by
  cases document with
  | null => exact ⟨_, _, rfl, by decide, by decide⟩
  | bool value => cases value <;> exact ⟨_, _, rfl, by decide, by decide⟩
  | number n =>
    obtain ⟨c, cs, hwrite, hfirst⟩ := writeNumeral_head n
    exact ⟨c, cs, hwrite, hfirst.isSpace_eq, hfirst.ne (by decide) (by decide)⟩
  | string value => cases value <;> exact ⟨_, _, rfl, by decide, by decide⟩
  | array items => cases items <;> exact ⟨_, _, rfl, by decide, by decide⟩
  | object members => cases members <;> exact ⟨_, _, rfl, by decide, by decide⟩

/-- No number goes on into what is written after an item. -/
theorem endsNumber_writeItems (items : List Json) (rest : List Char) :
    EndsNumber (writeItems items ++ rest) := by
  cases items <;> rintro _ ⟨⟩ <;> decide

theorem endsNumber_writeMembers (members : List (Option String × Json)) (rest : List Char) :
    EndsNumber (writeMembers members ++ rest) := by
  rcases members with _ | ⟨⟨name, value⟩, members⟩ <;> rintro _ ⟨⟩ <;> decide

/-- After an opening bracket come the items, unless it is closed at once. -/
theorem value?_bracket {c : Char} (hspace : isSpace c = false) (hbracket : c ≠ ']') (fuel : Nat)
    (cs : List Char) : value? (fuel + 1) ('[' :: c :: cs) =
      (items? fuel (c :: cs)).map fun (items, rest) => (.array items, rest) := by
  rw [value?]
  simp only [skipSpace_cons (show isSpace '[' = false by decide), skipSpace_cons hspace]
  split
  next heq => exact absurd (List.cons.inj heq).1 hbracket
  · rfl

theorem value?_brace (fuel : Nat) (cs : List Char) : value? (fuel + 1) ('\x7b' :: '"' :: cs) =
    (members? fuel ('"' :: cs)).map fun (members, rest) => (.object members, rest) := rfl

theorem value?_string (fuel : Nat) (value : Option String) (rest : List Char) :
    value? (fuel + 1) (writeLiteral value ++ rest) = some (.string value, rest) := by
  obtain ⟨body, hwrite, hread⟩ := literal?_writeLiteral value
  rw [hwrite, List.cons_append, value?, skipSpace_cons (by decide)]
  simp [hread]

theorem exists_fuel {document : Json} {fuel : Nat} (h : (write document).length ≤ fuel) :
    ∃ less, fuel = less + 1 := by
  obtain ⟨c, cs, hwrite, -⟩ := write_head document
  rw [hwrite, List.length_cons] at h
  exact ⟨fuel - 1, by omega⟩

theorem length_writeItems_pos (items : List Json) : 0 < (writeItems items).length := by
  cases items <;> exact Nat.succ_pos _

theorem length_writeMembers_pos (members : List (Option String × Json)) :
    0 < (writeMembers members).length := by
  rcases members with _ | ⟨⟨name, value⟩, members⟩ <;> exact Nat.succ_pos _

mutual
/-- A document is read back, and what follows it is left. -/
theorem value?_write (document : Json) (fuel : Nat) (hfuel : (write document).length ≤ fuel)
    (rest : List Char) (hrest : EndsNumber rest) :
    value? fuel (write document ++ rest) = some (document, rest) := by
  obtain ⟨fuel, rfl⟩ := exists_fuel hfuel
  match document with
  | .null => rfl
  | .bool true => rfl
  | .bool false => rfl
  | .number n =>
    have hread := numeral?_writeNumeral n hrest
    obtain ⟨c, cs, hwrite, hfirst⟩ := writeNumeral_head n
    rw [write, hwrite, List.cons_append, value?_numeral hfirst, ← List.cons_append, ← hwrite, hread]
    rfl
  | .string value => exact value?_string fuel value rest
  | .array [] => rfl
  | .array (item :: items) =>
    have hread := items?_write item items fuel (by simpa [write] using hfuel) rest
    obtain ⟨c, cs, hwrite, hspace, hbracket⟩ := write_head item
    rw [hwrite, List.cons_append] at hread
    rw [write, List.cons_append, List.append_assoc, hwrite, List.cons_append,
      value?_bracket hspace hbracket, hread]
    rfl
  | .object [] => rfl
  | .object ((name, value) :: members) =>
    have hread := members?_write name value members fuel (by simpa [write] using hfuel) rest
    obtain ⟨body, hwrite, -⟩ := literal?_writeLiteral name
    rw [hwrite, List.cons_append] at hread
    rw [write, List.cons_append, List.append_assoc, List.cons_append, List.append_assoc, hwrite,
      List.cons_append, value?_brace, hread]
    rfl
termination_by fuel

/-- The items of an array are read back. -/
theorem items?_write (item : Json) (items : List Json) (fuel : Nat)
    (hfuel : (write item ++ writeItems items).length ≤ fuel) (rest : List Char) :
    items? fuel (write item ++ (writeItems items ++ rest)) = some (item :: items, rest) := by
  have hpos := length_writeItems_pos items
  rw [List.length_append] at hfuel
  obtain ⟨fuel, rfl⟩ : ∃ less, fuel = less + 1 := ⟨fuel - 1, by omega⟩
  have hitem := value?_write item fuel (by omega) _ (endsNumber_writeItems items rest)
  simp only [items?, hitem, Option.bind_eq_bind, Option.bind_some]
  match items with
  | [] => rfl
  | next :: items =>
    have hread := items?_write next items fuel (by simp [writeItems] at hfuel ⊢; omega) rest
    rw [writeItems, List.cons_append, List.append_assoc, skipSpace_cons (by decide)]
    simp [hread]
termination_by fuel

/-- The members of an object are read back. -/
theorem members?_write (name : Option String) (value : Json)
    (members : List (Option String × Json)) (fuel : Nat)
    (hfuel : (writeLiteral name ++ ':' :: (write value ++ writeMembers members)).length ≤ fuel)
    (rest : List Char) :
    members? fuel (writeLiteral name ++ ':' :: (write value ++ (writeMembers members ++ rest))) =
      some ((name, value) :: members, rest) := by
  have hpos := length_writeMembers_pos members
  rw [List.length_append, List.length_cons, List.length_append] at hfuel
  obtain ⟨fuel, rfl⟩ : ∃ less, fuel = less + 1 := ⟨fuel - 1, by omega⟩
  obtain ⟨body, hwrite, hliteral⟩ := literal?_writeLiteral name
  have hvalue := value?_write value fuel (by omega) _ (endsNumber_writeMembers members rest)
  rw [hwrite, List.cons_append, members?, skipSpace_cons (by decide)]
  simp only [hliteral, Option.bind_eq_bind, Option.bind_some]
  rw [skipSpace_cons (by decide)]
  simp only [hvalue, Option.bind_some]
  match members with
  | [] => rfl
  | (next, later) :: members =>
    have hread := members?_write next later members fuel
      (by simp [writeMembers] at hfuel ⊢; omega) rest
    rw [writeMembers, List.cons_append, List.append_assoc, List.cons_append, List.append_assoc,
      skipSpace_cons (by decide)]
    simp [hread]
termination_by fuel
end

/-- What is written for a document is read back as that document. -/
theorem parse?_render (document : Json) : parse? document.render = some document := by
  have hread := value?_write document (document.write.length + 1) (Nat.le_succ _) [] nofun
  rw [List.append_nil] at hread
  simp [parse?, parseChars?, render, hread, skipSpace]

end BrowserReplay.Json
