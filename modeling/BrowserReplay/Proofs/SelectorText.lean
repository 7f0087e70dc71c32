import BrowserReplay.Proofs.SelectorMeaning

/-!
# Selectors as texts

What is kept of a recorded selector is its language and its value, and what is shown of it is a text
again. Only one beginning is ever taken off, and it is put back, so a selector is read back from
what is shown of it, even when its value looks like a selector of another language. In the other
direction a text without a beginning gets one, and that is all that two texts of one selector can
differ in (`parse_eq_parse_iff`).
-/

namespace BrowserReplay

open Json

namespace Selector

/-- The texts that begin as one of the languages asks. -/
inductive Begun : String → Prop
  | xpath (rest : String) : Begun ("xpath=" ++ rest)
  | css (rest : String) : Begun ("css=" ++ rest)
  | linkText (rest : String) : Begun ("linkText=" ++ rest)

variable {raw other : String}

theorem begun_marker (kind : SelectorKind) (rest : String) : Begun (kind.marker ++ rest) := by
  cases kind with
  | xpath => exact .xpath rest
  | css => exact .css rest
  | linkText => exact .linkText rest

theorem begun_iff : Begun raw ↔ ∃ kind rest, raw = SelectorKind.marker kind ++ rest := by
  constructor
  · rintro (rest | rest | rest)
    exacts [⟨.xpath, rest, rfl⟩, ⟨.css, rest, rfl⟩, ⟨.linkText, rest, rfl⟩]
  · rintro ⟨kind, rest, rfl⟩
    exact begun_marker kind rest

/-- A text begins as a language asks if classifying it in that language gives a selector. -/
theorem begun_iff_stripped? :
    Begun raw ↔ ∃ kind ∈ [SelectorKind.xpath, .css, .linkText], (stripped? raw kind).isSome := by
  rw [begun_iff]
  constructor
  · rintro ⟨kind, rest, rfl⟩
    have hstripped : stripped? (kind.marker ++ rest) kind = some ⟨kind, rest⟩ :=
      stripped?_eq_some.2 ⟨rfl, rfl⟩
    exact ⟨kind, by cases kind <;> simp, by rw [hstripped]; rfl⟩
  · rintro ⟨kind, -, hsome⟩
    obtain ⟨selector, hselector⟩ := Option.isSome_iff_exists.1 hsome
    exact ⟨kind, selector.value, (stripped?_eq_some.1 hselector).1⟩

instance (raw : String) : Decidable (Begun raw) := decidable_of_iff' _ begun_iff_stripped?

/-! ### Showing and classifying -/

/-- A selector is read back from what is shown of it. -/
theorem parse_display (selector : Selector) : parse selector.display = selector :=
  parse_marked selector.kind selector.value

/-- A text without a beginning is a selector of the usual language. -/
theorem parse_of_not_begun (h : ¬ Begun raw) : parse raw = ⟨.xpath, raw⟩ :=
  parse_plain fun kind rest hraw => h (begun_iff.2 ⟨kind, rest, hraw⟩)

theorem display_parse (raw : String) :
    (parse raw).display = if Begun raw then raw else "xpath=" ++ raw := by
  split
  next h =>
    obtain ⟨kind, rest, rfl⟩ := begun_iff.1 h
    rw [parse_marked]
    rfl
  next h =>
    rw [parse_of_not_begun h]
    rfl

/-- The usual beginning makes no difference where there is none. -/
theorem parse_begun (h : ¬ Begun raw) : parse ("xpath=" ++ raw) = parse raw := by
  rw [parse_of_not_begun h]
  exact parse_marked .xpath raw

/-- Two texts give one selector when they are the same but for the usual beginning. -/
theorem parse_eq_parse_iff : parse raw = parse other ↔
    raw = other ∨ (raw = "xpath=" ++ other ∧ ¬ Begun other) ∨
      (other = "xpath=" ++ raw ∧ ¬ Begun raw) := by
  constructor
  · intro h
    have hshown : (if Begun raw then raw else "xpath=" ++ raw) =
        if Begun other then other else "xpath=" ++ other := by
      rw [← display_parse, ← display_parse, h]
    -- A beginning is put before one of the texts, before both or before neither.
    by_cases hraw : Begun raw <;> by_cases hother : Begun other <;>
      simp only [hraw, hother, if_true, if_false] at hshown
    · exact .inl hshown
    · exact .inr (.inl ⟨hshown, hother⟩)
    · exact .inr (.inr ⟨hshown.symm, hraw⟩)
    · exact .inl ((String.append_right_inj "xpath=").1 hshown)
  · rintro (rfl | ⟨rfl, hother⟩ | ⟨rfl, hraw⟩)
    · rfl
    · exact parse_begun hother
    · exact (parse_begun hraw).symm

/-- A selector is read back from its JSON form. -/
theorem ofJson?_toJson (selector : Selector) : ofJson? selector.toJson = some selector := by
  obtain ⟨kind, value⟩ := selector
  cases kind <;> rfl

/-- Classifying and showing are inverse up to the usual beginning. A selector of any value is read
back from what is shown of it and from its JSON text. What is shown of a text is the text itself if
it begins as a language asks, and the text after the usual beginning if not, so showing it once more
changes nothing; and two texts give one selector just when they are the same, or one is the other
after the usual beginning and the other has none. -/
theorem selectors_are_read_back :
    (∀ selector : Selector, parse selector.display = selector) ∧
      (∀ raw, (parse raw).display = if Begun raw then raw else "xpath=" ++ raw) ∧
      (∀ raw, (parse (parse raw).display).display = (parse raw).display) ∧
      (∀ raw other, parse raw = parse other ↔
        raw = other ∨ (raw = "xpath=" ++ other ∧ ¬ Begun other) ∨
          (other = "xpath=" ++ raw ∧ ¬ Begun raw)) ∧
      ∀ selector : Selector,
        (Json.parse? selector.toJson.render).bind ofJson? = some selector := by
  refine ⟨parse_display, display_parse, fun raw => ?_, fun raw other => parse_eq_parse_iff,
    fun selector => ?_⟩
  · rw [parse_display]
  · rw [parse?_render, Option.bind_some, ofJson?_toJson]

end Selector

end BrowserReplay
