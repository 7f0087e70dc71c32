import BrowserReplay.Text.Blank
import Mathlib.Data.List.Basic

/-!
# Trimming

Trimming takes the characters of a class off the two ends of a text and nothing else, so it is told
by what it leaves: a text that stands between characters of the class and has none of them at its
own ends (`trimBy_eq_iff`).
-/

namespace BrowserReplay.Text

structure Trimmed (blank : Char → Bool) (cs : List Char) : Prop where
  head : ∀ c ∈ cs.head?, blank c = false
  last : ∀ c ∈ cs.getLast?, blank c = false

theorem trimmed_iff {blank : Char → Bool} {cs : List Char} : Trimmed blank cs ↔
    cs.head?.all (fun c => !blank c) = true ∧ cs.getLast?.all (fun c => !blank c) = true := by
  simp only [Option.all_eq_true, Bool.not_eq_true']
  exact ⟨fun h => ⟨h.head, h.last⟩, fun h => ⟨h.1, h.2⟩⟩

instance (blank : Char → Bool) (cs : List Char) : Decidable (Trimmed blank cs) :=
  decidable_of_iff' _ trimmed_iff

/-- A text, and what stands in it between the blanks at its ends. -/
inductive Trims (blank : Char → Bool) : List Char → List Char → Prop
  | intro {lead core trail : List Char} (hlead : ∀ c ∈ lead, blank c = true)
      (hcore : Trimmed blank core) (htrail : ∀ c ∈ trail, blank c = true) :
      Trims blank (lead ++ core ++ trail) core

variable {blank : Char → Bool} {cs core lead rest : List Char}

/-! ### Dropping -/

/-- What is dropped is blank, and what is left does not begin with a blank. -/
theorem exists_dropWhile (blank : Char → Bool) (cs : List Char) :
    ∃ lead, cs = lead ++ cs.dropWhile blank ∧ (∀ c ∈ lead, blank c = true) ∧
      ∀ c ∈ (cs.dropWhile blank).head?, blank c = false := by
  refine ⟨cs.takeWhile blank, List.takeWhile_append_dropWhile.symm,
    List.all_eq_true.1 List.all_takeWhile, fun c hc => ?_⟩
  have hhead := List.head?_dropWhile_not blank cs
  rw [Option.mem_def.1 hc] at hhead
  exact hhead

theorem dropWhile_append_of_head (hlead : ∀ c ∈ lead, blank c = true)
    (hrest : ∀ c ∈ rest.head?, blank c = false) : (lead ++ rest).dropWhile blank = rest := by
  rw [List.dropWhile_append_of_pos hlead]
  cases rest with
  | nil => rfl
  | cons c rest => exact List.dropWhile_cons_of_neg (ne_true_of_eq_false (hrest c rfl))

/-- What is dropped from the end is blank, and what is left does not end with a blank. -/
theorem exists_trimEnd (blank : Char → Bool) (cs : List Char) :
    ∃ trail, cs = trimEnd blank cs ++ trail ∧ (∀ c ∈ trail, blank c = true) ∧
      ∀ c ∈ (trimEnd blank cs).getLast?, blank c = false := by
  obtain ⟨trail, htrail, htrails, hlast⟩ := exists_dropWhile blank cs.reverse
  refine ⟨trail.reverse, ?_, fun c hc => htrails c (List.mem_reverse.1 hc), ?_⟩
  · rw [trimEnd, ← List.reverse_append, ← htrail, List.reverse_reverse]
  · rwa [trimEnd, List.getLast?_reverse]

/-! ### Both ends -/

theorem Trims.trimmed (h : Trims blank cs core) : Trimmed blank core := by
  obtain ⟨-, hcore, -⟩ := h
  exact hcore

/-- More blanks at the ends of a text leave the same. -/
theorem Trims.append {front back : List Char} (h : Trims blank cs core)
    (hfront : ∀ c ∈ front, blank c = true) (hback : ∀ c ∈ back, blank c = true) :
    Trims blank (front ++ cs ++ back) core := by
  obtain ⟨hlead, hcore, htrail⟩ := h
  rename_i lead trail
  have hleads : ∀ c ∈ front ++ lead, blank c = true :=
    List.forall_mem_append.2 ⟨hfront, hlead⟩
  have htrails : ∀ c ∈ trail ++ back, blank c = true :=
    List.forall_mem_append.2 ⟨htrail, hback⟩
  have h := Trims.intro hleads hcore htrails
  simpa only [List.append_assoc] using h

theorem trims_trimBy (blank : Char → Bool) (cs : List Char) : Trims blank cs (trimBy blank cs) := by
  obtain ⟨lead, hlead, hleads, hhead⟩ := exists_dropWhile blank cs
  obtain ⟨trail, htrail, htrails, hlast⟩ := exists_trimEnd blank (trimStart blank cs)
  have htrimmed : Trimmed blank (trimBy blank cs) := by
    refine ⟨fun c hc => hhead c ?_, hlast⟩
    show c ∈ (trimStart blank cs).head?
    rw [htrail, List.head?_append, ← trimBy, Option.mem_def.1 hc]
    rfl
  have hsplit : cs = lead ++ trimBy blank cs ++ trail := by
    rw [List.append_assoc, trimBy, ← htrail]
    exact hlead
  have h := Trims.intro hleads htrimmed htrails
  rwa [← hsplit] at h

theorem trimEnd_append {trail : List Char} (hcore : ∀ c ∈ core.getLast?, blank c = false)
    (htrail : ∀ c ∈ trail, blank c = true) : trimEnd blank (core ++ trail) = core := by
  have hreversed : (trail.reverse ++ core.reverse).dropWhile blank = core.reverse := by
    apply dropWhile_append_of_head
    · exact fun c hc => htrail c (List.mem_reverse.1 hc)
    · rwa [List.head?_reverse]
  rw [trimEnd, List.reverse_append, hreversed, List.reverse_reverse]

theorem trimBy_of_trims (h : Trims blank cs core) : trimBy blank cs = core := by
  obtain ⟨hlead, hcore, htrail⟩ := h
  rename_i lead trail
  rw [trimBy, trimStart, List.append_assoc]
  cases core with
  | nil =>
    -- The blanks behind nothing are dropped from the front.
    have hall : (lead ++ ([] ++ trail)).dropWhile blank = [] := by
      rw [List.dropWhile_append_of_pos hlead, ← List.append_nil ([] ++ trail)]
      exact dropWhile_append_of_head htrail nofun
    rw [hall]
    rfl
  | cons c core =>
    have hhead : ∀ other ∈ (c :: core ++ trail).head?, blank other = false := hcore.head
    rw [dropWhile_append_of_head hlead hhead, trimEnd_append hcore.last htrail]

/-- Trimming is told by what it leaves. -/
theorem trimBy_eq_iff : trimBy blank cs = core ↔ Trims blank cs core :=
  ⟨fun h => h ▸ trims_trimBy blank cs, trimBy_of_trims⟩

/-! ### Texts -/

variable {s : String}

theorem isAllBlank_iff : isAllBlank s = true ↔ ∀ c ∈ s.toList, isBlank c = true :=
  List.all_eq_true

@[simp] theorem isAllBlank_empty : isAllBlank "" = true := rfl

theorem trim_eq_iff {core : String} : trim s = core ↔ Trims isBlank s.toList core.toList := by
  rw [← trimBy_eq_iff, ← String.toList_inj, trim, String.toList_ofList]

theorem trims_trim (s : String) : Trims isBlank s.toList (trim s).toList := trim_eq_iff.1 rfl

/-- Blanks around a text make no difference. -/
theorem trim_append {lead trail : String} (hlead : isAllBlank lead = true)
    (htrail : isAllBlank trail = true) (s : String) : trim (lead ++ s ++ trail) = trim s := by
  rw [trim_eq_iff, String.toList_append, String.toList_append]
  exact (trims_trim s).append (isAllBlank_iff.1 hlead) (isAllBlank_iff.1 htrail)

/-- What stands in a text between its blanks is what trimming leaves of it. -/
theorem trim_of_trimmed {lead core trail : String} (hlead : isAllBlank lead = true)
    (hcore : Trimmed isBlank core.toList) (htrail : isAllBlank trail = true) :
    trim (lead ++ core ++ trail) = core := by
  rw [trim_eq_iff, String.toList_append, String.toList_append]
  exact .intro (isAllBlank_iff.1 hlead) hcore (isAllBlank_iff.1 htrail)

@[simp] theorem trim_trim (s : String) : trim (trim s) = trim s := by
  have h := trim_of_trimmed isAllBlank_empty (trims_trim s).trimmed isAllBlank_empty
  rwa [String.empty_append, String.append_empty] at h

/-- Nothing is left of blanks. -/
theorem trim_eq_empty (h : isAllBlank s = true) : trim s = "" := by
  have htrim := trim_append h isAllBlank_empty ""
  rwa [String.append_empty, String.append_empty] at htrim

end BrowserReplay.Text
