import BrowserReplay.Proofs.Trimming
import BrowserReplay.Text.Lowercase
import BrowserReplay.Text.Search

/-!
# Lower case in context

The lower case of a text is put together from those of its letters, each where it stands
(`lowered_lowercase`). Only a sigma depends on what stands around it, and only in its form. So up to
that form the lower case of a text is the same in every context, and a word in which no sigma stands
is found in it in every context or in none (`infix_lowercase_iff`).
-/

namespace BrowserReplay.Text

/-! ### Letters where they stand -/

/-- A character that does not count when the neighbours of a letter are looked at. -/
def isPassedOver (c : Char) : Bool := inRanges caseIgnorableRanges c.toNat

/-- The first character that counts has a case. -/
inductive CasedFirst : List Char → Prop
  | intro {passed rest : List Char} {c : Char} (hpassed : ∀ other ∈ passed, isPassedOver other = true)
      (hcounts : isPassedOver c = false) (hcased : inRanges casedRanges c.toNat = true) :
      CasedFirst (passed ++ c :: rest)

/-- A letter between two texts is the last of its word. -/
def EndsWord (before after : List Char) : Prop := CasedFirst before.reverse ∧ ¬ CasedFirst after

/-- What becomes of a letter between the text before it and the text after it. -/
inductive Lowers (before after : List Char) : Char → List Char → Prop
  | letter {c : Char} (h : c ≠ 'Σ') : Lowers before after c (lowerChar c)
  | final (h : EndsWord before after) : Lowers before after 'Σ' ['ς']
  | inner (h : ¬ EndsWord before after) : Lowers before after 'Σ' ['σ']

/-- A text is made of what becomes of the letters of another, each where it stands. -/
inductive Lowered (cs : List Char) : List Char → Prop
  | intro {parts : List (List Char)} (hlength : parts.length = cs.length)
      (hparts : ∀ before c after, cs = before ++ c :: after →
        ∃ part, parts[before.length]? = some part ∧ Lowers before after c part) :
      Lowered cs parts.flatten

variable {cs word : List Char}

theorem meetsCased_eq (cs : List Char) : meetsCased cs =
    match cs.dropWhile isPassedOver with
    | c :: _ => inRanges casedRanges c.toNat
    | [] => false := rfl

theorem meetsCased_iff : meetsCased cs = true ↔ CasedFirst cs := by
  rw [meetsCased_eq]
  constructor
  · intro h
    obtain ⟨passed, hsplit, hpassed, hcounts⟩ := exists_dropWhile isPassedOver cs
    cases hdrop : cs.dropWhile isPassedOver with
    | nil => simp [hdrop] at h
    | cons c rest =>
      rw [hdrop] at h hsplit hcounts
      rw [hsplit]
      exact .intro hpassed (hcounts c rfl) h
  · rintro ⟨hpassed, hcounts, hcased⟩
    rename_i passed rest c
    have hfirst : ∀ other ∈ (c :: rest).head?, isPassedOver other = false := by simpa using hcounts
    rw [dropWhile_append_of_head hpassed hfirst]
    exact hcased

theorem lowers_sigma (before after : List Char) :
    Lowers before.reverse after 'Σ' [lowerSigma before after] := by
  have hends : (meetsCased before && !meetsCased after) = true ↔ EndsWord before.reverse after := by
    rw [EndsWord, List.reverse_reverse, Bool.and_eq_true, Bool.not_eq_true', ← meetsCased_iff,
      ← meetsCased_iff, Bool.not_eq_true]
  unfold lowerSigma
  split
  next h => exact .final (hends.1 h)
  next h => exact .inner (mt hends.2 h)

/-- What follows a text that has been lowered is lowered letter by letter. -/
theorem exists_parts (before cs : List Char) : ∃ parts : List (List Char),
    lowercaseAfter before cs = parts.flatten ∧ parts.length = cs.length ∧
      ∀ early c after, cs = early ++ c :: after → ∃ part,
        parts[early.length]? = some part ∧ Lowers (before.reverse ++ early) after c part := by
  -- The induction passes each letter on to what has been read, which is kept backwards.
  induction cs generalizing before with
  | nil => exact ⟨[], rfl, rfl, by simp⟩
  | cons c after ih =>
    obtain ⟨parts, hlower, hlength, hparts⟩ := ih (c :: before)
    have hfirst : ∃ part, (if c = 'Σ' then [lowerSigma before after] else lowerChar c) = part ∧
        Lowers before.reverse after c part := by
      refine ⟨_, rfl, ?_⟩
      split
      next hsigma => exact hsigma ▸ lowers_sigma before after
      next hother => exact .letter hother
    obtain ⟨part, hpart, hlowers⟩ := hfirst
    refine ⟨part :: parts, ?_, by simp [hlength], ?_⟩
    · rw [lowercaseAfter, hpart, hlower, List.flatten_cons]
    · rintro (_ | ⟨first, early⟩) other later hsplit
      · obtain ⟨rfl, rfl⟩ := List.cons.inj hsplit
        exact ⟨part, rfl, by simpa using hlowers⟩
      · obtain ⟨rfl, hrest⟩ := List.cons.inj hsplit
        obtain ⟨found, hfound, hlater⟩ := hparts early other later hrest
        exact ⟨found, by simpa using hfound, by simpa using hlater⟩

/-- The lower case of a text is that of its letters, each where it stands. -/
theorem lowered_lowercase (cs : List Char) : Lowered cs (lowercase cs) := by
  obtain ⟨parts, hlower, hlength, hparts⟩ := exists_parts [] cs
  rw [lowercase, hlower]
  exact .intro hlength hparts

/-! ### Without the form of a sigma -/

/-- A character, with the usual form of a small sigma in place of the final one. -/
def plainSigma (c : Char) : Char := if c = 'ς' then 'σ' else c

/-- The lower case of a letter, with the usual form of a small sigma. -/
def plainLower (c : Char) : List Char := (lowerChar c).map plainSigma

/-- Up to the form of its sigmas, a text is lowered letter by letter. -/
theorem map_plainSigma_lowercaseAfter (before cs : List Char) :
    (lowercaseAfter before cs).map plainSigma = cs.flatMap plainLower := by
  induction cs generalizing before with
  | nil => rfl
  | cons c after ih =>
    rw [lowercaseAfter, List.map_append, ih, List.flatMap_cons]
    congr 1
    split
    next hsigma =>
      -- What stands around a sigma only chooses between its two forms.
      subst hsigma
      have hform : plainSigma (lowerSigma before after) = 'σ' := by
        unfold lowerSigma
        split <;> rfl
      rw [List.map_singleton, hform]
      decide +kernel
    next => rfl

def LacksSigma (word : List Char) : Prop := ∀ c ∈ word, c ≠ 'σ' ∧ c ≠ 'ς'

theorem eq_of_map_plainSigma (h : LacksSigma word) (hmap : cs.map plainSigma = word) :
    cs = word := by
  -- A final sigma in the text would leave a usual one in the word.
  have hplain : ∀ c ∈ cs, plainSigma c = c := by
    intro c hc
    have hmem : plainSigma c ∈ word := hmap ▸ List.mem_map_of_mem hc
    have hne := (h _ hmem).1
    unfold plainSigma at hne ⊢
    split at hne
    · exact absurd rfl hne
    · next hother => exact if_neg hother
  rw [← hmap, List.map_congr_left hplain, List.map_id']

theorem map_plainSigma_of_lacks (h : LacksSigma word) : word.map plainSigma = word := by
  have hplain : ∀ c ∈ word, plainSigma c = c := fun c hc => if_neg (h c hc).2
  rw [List.map_congr_left hplain, List.map_id']

/-- A word without a sigma does not see the form of the sigmas around it. -/
theorem infix_map_plainSigma_iff (h : LacksSigma word) :
    word <:+: cs.map plainSigma ↔ word <:+: cs := by
  constructor
  · rintro ⟨front, back, hmap⟩
    -- The text is cut where its image is, and what has the word as its image is the word.
    obtain ⟨upTo, beyond, rfl, hupTo, -⟩ := List.map_eq_append_iff.1 hmap.symm
    obtain ⟨start, found, rfl, -, hfound⟩ := List.map_eq_append_iff.1 hupTo
    rw [eq_of_map_plainSigma h hfound]
    exact List.infix_append start word beyond
  · intro hinfix
    rw [← map_plainSigma_of_lacks h]
    exact hinfix.map plainSigma

/-- A word without a sigma stands in the lower case of a text if it stands in those of its letters,
taken one by one. -/
theorem infix_lowercase_iff (h : LacksSigma word) :
    word <:+: lowercase cs ↔ word <:+: cs.flatMap plainLower := by
  rw [lowercase, ← map_plainSigma_lowercaseAfter [] cs, infix_map_plainSigma_iff h]

/-- Looking for a word finds it wherever it stands. -/
theorem occursIn_iff : occursIn word cs = true ↔ word <:+: cs := by
  induction cs with
  | nil => simp [occursIn]
  | cons c cs ih =>
    rw [occursIn, Bool.or_eq_true, ih, List.infix_cons_iff, List.isPrefixOf_iff_prefix]

/-! ### ASCII letters -/

/-- The case of an ASCII letter is lost in its lower case, and other letters have no such case. -/
theorem plainLower_toLower (c : Char) : plainLower c.toLower = plainLower c := by
  by_cases hascii : c.toNat < 0x80
  · have hcodes : ∀ n < 0x80, plainLower (Char.ofNat n).toLower = plainLower (Char.ofNat n) := by
      decide +kernel
    rw [← Char.ofNat_toNat c]
    exact hcodes c.toNat hascii
  · have hnoLetter : ¬ (c.val ≥ 'A'.val ∧ c.val ≤ 'Z'.val) := by
      rintro ⟨-, hle⟩
      have hbound : c.toNat ≤ 90 := hle
      omega
    have hself : c.toLower = c := dif_neg hnoLetter
    rw [hself]

end BrowserReplay.Text
