import BrowserReplay.Proofs.Reopening
import BrowserReplay.Proofs.ReadUrl

/-!
# Ways to write a location

Two texts are the same location when they stand for the same thing (`sameLocation_iff_standing`), so
being the same location sorts all texts into classes. Nothing but the class of the current location
counts for where a target leads, and it does not count at all for a target that is a URL
(`resolveLocation_respects_sameLocation`).
-/

namespace BrowserReplay

def standing (text : String) : Url ⊕ String :=
  match Url.parse text with
  | .ok url => .inl url
  | .error _ => .inr text

variable {text a b : String} {url x y : Url}

theorem standing_of_parse (h : Url.parse text = .ok url) : standing text = .inl url := by
  rw [standing, h]

theorem standing_eq_inl : standing text = .inl url ↔ Url.parse text = .ok url := by
  rw [standing]
  split <;> simp_all

theorem sameLocation_iff_standing (a b : String) :
    sameLocation a b = true ↔ standing a = standing b := by
  cases hb : Url.parse b with
  | ok url => rw [sameLocation_iff hb, standing_of_parse hb, standing_eq_inl]
  | error error =>
    rw [sameLocation, standing, standing, hb]
    cases ha : Url.parse a with
    | ok url =>
      have hne : a ≠ b := by
        rintro rfl
        rw [ha] at hb
        cases hb
      simp [hne]
    | error error => simp

/-- The current location counts by what it stands for. -/
theorem resolveLocation_some (current target : String) :
    resolveLocation (some current) target =
      match Url.parse target, standing current with
      | .ok url, _ => url.href
      | .error _, .inl base => ((base.join target).toOption.map Url.href).getD target
      | .error _, .inr _ => target := by
  rw [resolveLocation, standing, Option.map_some]
  cases Url.parse target with
  | ok url => rfl
  | error error =>
    cases Url.parse current with
    | ok base => cases hjoin : base.join target <;> simp [hjoin, Except.toOption]
    | error error => rfl

/-- URLs are the same location if they have the same text in normal form. -/
theorem sameLocation_iff_href (ha : Url.parse a = .ok x) (hb : Url.parse b = .ok y) :
    sameLocation a b = true ↔ x.href = y.href := by
  rw [sameLocation_iff_standing, standing_of_parse ha, standing_of_parse hb, Sum.inl.injEq]
  exact ⟨congrArg Url.href, Url.href_inj (Url.formed_of_parse ha) (Url.formed_of_parse hb)⟩

/-- Being the same location is an equivalence, and where a target leads depends on the current
location up to that equivalence. A target that is a URL leads to the same place from everywhere, and
two of them lead to one place exactly if they are the same location. -/
theorem resolveLocation_respects_sameLocation :
    Equivalence (fun a b => sameLocation a b = true) ∧
      (∀ c d, sameLocation c d = true →
        ∀ target, resolveLocation (some c) target = resolveLocation (some d) target) ∧
      (∀ target url, Url.parse target = .ok url →
        ∀ c d, resolveLocation c target = resolveLocation d target) ∧
      ∀ a b x y, Url.parse a = .ok x → Url.parse b = .ok y →
        ∀ c d, sameLocation a b = true ↔ resolveLocation c a = resolveLocation d b := by
  refine ⟨⟨fun a => ?_, fun {a b} h => ?_, fun {a b c} hab hbc => ?_⟩, fun c d h target => ?_,
    fun target url h c d => ?_, fun a b x y ha hb c d => ?_⟩
  · exact (sameLocation_iff_standing a a).2 rfl
  · exact (sameLocation_iff_standing b a).2 ((sameLocation_iff_standing a b).1 h).symm
  · exact (sameLocation_iff_standing a c).2
      (((sameLocation_iff_standing a b).1 hab).trans ((sameLocation_iff_standing b c).1 hbc))
  · rw [resolveLocation_some, resolveLocation_some, (sameLocation_iff_standing c d).1 h]
  · rw [resolveLocation_of_parse h, resolveLocation_of_parse h]
  · rw [sameLocation_iff_href ha hb, resolveLocation_of_parse ha, resolveLocation_of_parse hb]

/-- Here two texts stand for one URL, and a relative target leads from both to the same place. -/
theorem same_location_from_two_texts :
    sameLocation "APP://shop/forms/x/../start" "app://shop/forms/start" = true ∧
      resolveLocation (some "APP://shop/forms/x/../start") "step2" = "app://shop/forms/step2" ∧
      resolveLocation (some "app://shop/forms/start") "step2" = "app://shop/forms/step2" := by
  have hsame : sameLocation "APP://shop/forms/x/../start" "app://shop/forms/start" = true := by
    decide +kernel
  have hplace : resolveLocation (some "app://shop/forms/start") "step2" =
      "app://shop/forms/step2" := by decide +kernel
  obtain ⟨-, hrespects, -⟩ := resolveLocation_respects_sameLocation
  exact ⟨hsame, (hrespects _ _ hsame "step2").trans hplace, hplace⟩

end BrowserReplay
