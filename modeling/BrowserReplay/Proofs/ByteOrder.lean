import BrowserReplay.Text.Utf8
import Mathlib.Data.String.Basic

/-!
# The order of texts and of their bytes

Texts are compared character by character, and their UTF-8 forms byte by byte. Both comparisons come
out the same (`toUtf8_lt_iff`): where two texts first differ, the character with the greater code has
the greater bytes, whether or not the two characters have as many bytes.
-/

namespace BrowserReplay.Text

namespace Utf8

/-- The bytes of a lesser character are less, whatever bytes follow on either side. -/
theorem encodeChar_lt {c d : Char} (h : c < d) (after behind : List Nat) :
    encodeChar c ++ after < encodeChar d ++ behind := by
  have hcode : c.toNat < d.toNat := h
  simp only [encodeChar]
  -- One to four bytes on either side; where the two are as many, the codes differ in some byte.
  split_ifs <;> simp [List.cons_lt_cons_iff] <;> omega

theorem encodeChar_ne_nil (c : Char) : encodeChar c ≠ [] := by
  simp only [encodeChar]
  split_ifs <;> exact List.cons_ne_nil _ _

end Utf8

theorem flatMap_encodeChar_lt {a b : List Char} (h : a < b) :
    a.flatMap Utf8.encodeChar < b.flatMap Utf8.encodeChar := by
  induction h with
  | nil =>
    rename_i c cs
    obtain ⟨byte, bytes, hbytes⟩ := List.exists_cons_of_ne_nil (Utf8.encodeChar_ne_nil c)
    rw [List.flatMap_nil, List.flatMap_cons, hbytes]
    exact .nil
  | cons _ ih =>
    rw [List.flatMap_cons, List.flatMap_cons]
    exact List.append_left_lt ih
  | rel h => exact Utf8.encodeChar_lt h _ _

/-- A text comes before another one exactly when its bytes come before those of the other. -/
theorem toUtf8_lt_iff (a b : String) : toUtf8 a < toUtf8 b ↔ a < b := by
  rw [String.lt_iff_toList_lt]
  constructor
  · intro h
    rcases lt_trichotomy a.toList b.toList with hlt | heq | hgt
    · exact hlt
    · rw [toUtf8, toUtf8, heq] at h
      exact absurd h (List.lt_irrefl _)
    · exact absurd (flatMap_encodeChar_lt hgt) (List.lt_asymm h)
  · exact flatMap_encodeChar_lt

end BrowserReplay.Text
