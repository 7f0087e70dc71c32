import BrowserReplay.Template
import Mathlib.Logic.ExistsUnique

/-!
# Placeholders stand for variables

A substitution scans its template from left to right. Here the placeholders of a template are told by
their form alone: `Placeholder.Occurs` says where one stands, without a scan. They never overlap,
because a dollar sign stands only at their beginning. So there is one way to cut a template around all
of them (`Cut.Around`), and that is the cut which the scan makes.
-/

namespace BrowserReplay.Template

/-- The characters of names: the letters and digits of ASCII, and the underscore. -/
def IsWordChar (c : Char) : Prop :=
  'A' ≤ c ∧ c ≤ 'Z' ∨ 'a' ≤ c ∧ c ≤ 'z' ∨ '0' ≤ c ∧ c ≤ '9' ∨ c = '_'

instance (c : Char) : Decidable (IsWordChar c) := inferInstanceAs (Decidable (_ ∨ _))

theorem isNameChar_iff {c : Char} : isNameChar c = true ↔ IsWordChar c := by
  have hranges : isNameChar c = ((decide ('A' ≤ c ∧ c ≤ 'Z') || ('a' ≤ c && c ≤ 'z') ||
      ('0' ≤ c && c ≤ '9')) || c == '_') := rfl
  simp only [hranges, IsWordChar, Bool.or_eq_true, Bool.and_eq_true, decide_eq_true_eq, beq_iff_eq,
    or_assoc]

/-- A placeholder: a name, and whether the truth of that variable is negated. -/
@[ext]
structure Placeholder where
  negated : Bool
  name : List Char
  name_ne_nil : name ≠ []
  isWordChar : ∀ c ∈ name, IsWordChar c

namespace Placeholder

def body (p : Placeholder) : List Char :=
  '\x7b' :: ((if p.negated then ['!'] else []) ++ (p.name ++ ['\x7d']))

def text (p : Placeholder) : List Char := '$' :: p.body

/-- What a placeholder stands for: the text of the variable, which is empty when it is unset, or the
negation of its truth. -/
def value (vars : Variables) (p : Placeholder) : String :=
  let stored := vars.get? (String.ofList p.name)
  if p.negated then
    if stored ∈ [none, some (.text ""), some (.bool false)] then "true" else "false"
  else (stored.map VarValue.display).getD ""

/-- The placeholder stands in a text, after so many characters. -/
def Occurs (p : Placeholder) (cs : List Char) (start : Nat) : Prop := p.text <+: cs.drop start

theorem text_length_pos (p : Placeholder) : 0 < p.text.length := Nat.succ_pos _

theorem dollar_notMem_body (p : Placeholder) : '$' ∉ p.body := by
  have hname : '$' ∉ p.name := fun h => absurd (p.isWordChar _ h) (by decide)
  cases hnegated : p.negated <;> simp [body, hnegated, hname]

end Placeholder

/-! ### The scan -/

theorem nameAndBrace?_eq_some {cs name rest : List Char} :
    nameAndBrace? cs = some (name, rest) ↔
      name ≠ [] ∧ (∀ c ∈ name, IsWordChar c) ∧ cs = name ++ '\x7d' :: rest := by
  constructor
  · intro h
    have hsplit := List.takeWhile_append_dropWhile (p := isNameChar) (l := cs)
    have hword (c : Char) (hc : c ∈ cs.takeWhile isNameChar) : IsWordChar c :=
      isNameChar_iff.1 (List.all_eq_true.1 List.all_takeWhile c hc)
    rw [nameAndBrace?] at h
    split at h
    · cases h
    next hdrop hne =>
      cases h
      rw [hdrop] at hsplit
      exact ⟨hne, hword, hsplit.symm⟩
    · cases h
  · rintro ⟨hne, hword, rfl⟩
    have hname (c : Char) (hc : c ∈ name) : isNameChar c = true := isNameChar_iff.2 (hword c hc)
    have hbrace : ¬isNameChar '\x7d' = true := by decide
    rw [nameAndBrace?, List.takeWhile_append_of_pos hname, List.dropWhile_append_of_pos hname,
      List.takeWhile_cons_of_neg hbrace, List.dropWhile_cons_of_neg hbrace, List.append_nil]
    cases name with
    | nil => exact absurd rfl hne
    | cons c name => rfl

/-- The scan finds a placeholder at the front of a text where there is one. -/
theorem placeholder?_eq_some {cs name rest : List Char} {negated : Bool} :
    placeholder? cs = some ((negated, name), rest) ↔
      ∃ p : Placeholder, p.negated = negated ∧ p.name = name ∧ cs = p.text ++ rest := by
  constructor
  · intro h
    rw [placeholder?.eq_def] at h
    split at h
    · obtain ⟨⟨name, rest⟩, hname, heq⟩ := Option.map_eq_some_iff.1 h
      cases heq
      obtain ⟨hne, hword, rfl⟩ := nameAndBrace?_eq_some.1 hname
      exact ⟨⟨true, name, hne, hword⟩, rfl, rfl, by simp [Placeholder.text, Placeholder.body]⟩
    · obtain ⟨⟨name, rest⟩, hname, heq⟩ := Option.map_eq_some_iff.1 h
      cases heq
      obtain ⟨hne, hword, rfl⟩ := nameAndBrace?_eq_some.1 hname
      exact ⟨⟨false, name, hne, hword⟩, rfl, rfl, by simp [Placeholder.text, Placeholder.body]⟩
    · cases h
  · rintro ⟨⟨negated, name, hne, hword⟩, rfl, rfl, rfl⟩
    have hscan : nameAndBrace? (name ++ '\x7d' :: rest) = some (name, rest) :=
      nameAndBrace?_eq_some.2 ⟨hne, hword, rfl⟩
    cases negated with
    | true =>
      show placeholder? ('$' :: '\x7b' :: '!' :: ((name ++ ['\x7d']) ++ rest)) = _
      rw [placeholder?, List.append_assoc, List.singleton_append, hscan]
      rfl
    | false =>
      -- A name does not begin with an exclamation mark, so the scan does not take it for a negation.
      have hmark (tail : List Char) : name ++ '\x7d' :: rest ≠ '!' :: tail := by
        intro heq
        cases name with
        | nil => exact hne rfl
        | cons c name =>
          obtain ⟨rfl, -⟩ := List.cons.inj heq
          exact absurd (hword _ List.mem_cons_self) (by decide)
      show placeholder? ('$' :: '\x7b' :: ((name ++ ['\x7d']) ++ rest)) = _
      rw [List.append_assoc, List.singleton_append, placeholder?, hscan]
      · rfl
      · exact hmark

namespace Placeholder

theorem placeholder?_text (p : Placeholder) (rest : List Char) :
    placeholder? (p.text ++ rest) = some ((p.negated, p.name), rest) :=
  placeholder?_eq_some.2 ⟨p, rfl, rfl, rfl⟩

theorem occurs_zero_iff {p : Placeholder} {cs : List Char} :
    p.Occurs cs 0 ↔ ∃ rest, placeholder? cs = some ((p.negated, p.name), rest) := by
  constructor
  · rintro ⟨rest, hrest⟩
    rw [List.drop_zero] at hrest
    exact ⟨rest, hrest ▸ p.placeholder?_text rest⟩
  · rintro ⟨rest, h⟩
    obtain ⟨q, hnegated, hname, rfl⟩ := placeholder?_eq_some.1 h
    obtain rfl := Placeholder.ext hnegated hname
    exact ⟨rest, rfl⟩

theorem occurs_add_iff {p : Placeholder} {cs : List Char} {skip start : Nat} :
    p.Occurs cs (skip + start) ↔ p.Occurs (cs.drop skip) start := by
  rw [Occurs, Occurs, List.drop_drop]

/-- Where one placeholder stands, no other does. -/
theorem Occurs.eq {p q : Placeholder} {cs : List Char} {start : Nat} (hp : p.Occurs cs start)
    (hq : q.Occurs cs start) : p = q := by
  obtain ⟨_, hp⟩ := occurs_zero_iff.1 (occurs_add_iff.1 hp)
  obtain ⟨_, hq⟩ := occurs_zero_iff.1 (occurs_add_iff.1 hq)
  simp only [hp, Option.some.injEq, Prod.mk.injEq] at hq
  exact Placeholder.ext hq.1.1 hq.1.2

/-- Of two placeholders in a text, one ends before the other begins. -/
theorem Occurs.disjoint {p q : Placeholder} {cs : List Char} {start later : Nat}
    (hp : p.Occurs cs start) (hq : q.Occurs cs later) (hle : start ≤ later) :
    start = later ∧ p = q ∨ start + p.text.length ≤ later := by
  obtain ⟨skip, rfl⟩ := Nat.exists_eq_add_of_le hle
  cases skip with
  | zero => exact .inl ⟨rfl, hp.eq hq⟩
  | succ skip =>
    -- The second begins with a dollar sign, and past its first character the first has none.
    refine .inr (Nat.le_of_not_lt fun hlt => p.dollar_notMem_body ?_)
    obtain ⟨rest, hrest⟩ := hp
    obtain ⟨rest', hrest'⟩ := occurs_add_iff.1 hq
    have hlt : skip < p.body.length := by
      rw [text, List.length_cons] at hlt
      omega
    have hdrop : p.body.drop skip ++ rest = q.text ++ rest' := by
      rw [hrest', ← hrest, text, List.cons_append, List.drop_succ_cons,
        List.drop_append_of_le_length (Nat.le_of_lt hlt)]
    rw [List.drop_eq_getElem_cons hlt] at hdrop
    obtain ⟨hdollar, -⟩ := List.cons.inj hdrop
    exact hdollar ▸ List.getElem_mem hlt

end Placeholder

/-! ### Cuts -/

/-- A text that is cut into placeholders and what stands before, between and after them. -/
structure Cut where
  blocks : List (List Char × Placeholder)
  last : List Char

namespace Cut

def text (cut : Cut) : List Char :=
  cut.blocks.flatMap (fun block => block.1 ++ block.2.text) ++ cut.last

/-- Where placeholders stand that have the given texts before them. -/
def placesIn : List (List Char × Placeholder) → List (Nat × Placeholder)
  | [] => []
  | (literal, p) :: rest =>
    (literal.length, p) ::
      (placesIn rest).map fun place => (literal.length + p.text.length + place.1, place.2)

def places (cut : Cut) : List (Nat × Placeholder) := placesIn cut.blocks

/-- The text with each placeholder replaced by what it stands for, and all else as it is. -/
def filled (vars : Variables) (cut : Cut) : List Char :=
  cut.blocks.flatMap (fun block => block.1 ++ (block.2.value vars).toList) ++ cut.last

/-- A cut of a text around all placeholders that occur in it, and around nothing else. -/
structure Around (cut : Cut) (cs : List Char) : Prop where
  text : cut.text = cs
  occurs : ∀ (start : Nat) (p : Placeholder), p.Occurs cs start ↔ (start, p) ∈ cut.places

def push (c : Char) : Cut → Cut
  | ⟨[], last⟩ => ⟨[], c :: last⟩
  | ⟨(literal, p) :: rest, last⟩ => ⟨(c :: literal, p) :: rest, last⟩

def mark (p : Placeholder) (cut : Cut) : Cut := ⟨([], p) :: cut.blocks, cut.last⟩

variable (c : Char) (p q : Placeholder) (cut : Cut) (vars : Variables)

theorem text_push : (cut.push c).text = c :: cut.text := by
  obtain ⟨_ | ⟨block, rest⟩, last⟩ := cut <;> rfl

theorem text_mark : (cut.mark p).text = p.text ++ cut.text := List.append_assoc ..

theorem filled_push : (cut.push c).filled vars = c :: cut.filled vars := by
  obtain ⟨_ | ⟨block, rest⟩, last⟩ := cut <;> rfl

theorem filled_mark : (cut.mark p).filled vars = (p.value vars).toList ++ cut.filled vars :=
  List.append_assoc ..

theorem mem_places_push {start : Nat} :
    (start, q) ∈ (cut.push c).places ↔
      ∃ before, (before, q) ∈ cut.places ∧ start = before + 1 := by
  obtain ⟨_ | ⟨⟨literal, p⟩, rest⟩, last⟩ := cut
  · simp [push, places, placesIn]
  · simp only [push, places, placesIn, List.length_cons, List.mem_cons, List.mem_map, Prod.mk.injEq]
    grind

theorem mem_places_cons {literal : List Char} {rest : List (List Char × Placeholder)}
    {last : List Char} {start : Nat} :
    (start, q) ∈ places ⟨(literal, p) :: rest, last⟩ ↔
      start = literal.length ∧ q = p ∨
        ∃ after, (after, q) ∈ places ⟨rest, last⟩ ∧
          start = literal.length + p.text.length + after := by
  simp only [places, placesIn, List.mem_cons, List.mem_map, Prod.mk.injEq]
  grind

theorem exists_place {literal : List Char} (h : (literal, p) ∈ cut.blocks) :
    ∃ start, (start, p) ∈ cut.places := by
  obtain ⟨blocks, last⟩ := cut
  induction blocks with
  | nil => cases h
  | cons block rest ih =>
    rcases List.mem_cons.1 h with rfl | h
    · exact ⟨_, List.mem_cons_self⟩
    · obtain ⟨after, hafter⟩ := ih h
      exact ⟨_, (mem_places_cons _ p).2 (.inr ⟨after, hafter, rfl⟩)⟩

namespace Around

variable {c p q cut} {cs : List Char}

theorem nil : Around ⟨[], []⟩ [] := by
  refine ⟨rfl, fun start p => ⟨fun h => ?_, nofun⟩⟩
  rw [Placeholder.Occurs, List.drop_nil, List.prefix_nil] at h
  cases h

theorem push (h : cut.Around cs) (hnone : placeholder? (c :: cs) = none) :
    (cut.push c).Around (c :: cs) := by
  refine ⟨by rw [text_push, h.text], fun start q => ?_⟩
  rw [mem_places_push]
  cases start with
  | zero =>
    rw [Placeholder.occurs_zero_iff, hnone]
    simp
  | succ start =>
    have hoccurs : q.Occurs (c :: cs) (start + 1) ↔ q.Occurs cs start := Iff.rfl
    rw [hoccurs, h.occurs]
    simp

theorem mark (h : cut.Around cs) : (cut.mark p).Around (p.text ++ cs) := by
  refine ⟨by rw [text_mark, h.text], fun start q => ?_⟩
  have hfront : p.Occurs (p.text ++ cs) 0 := List.prefix_append ..
  have hlater (after : Nat) :
      q.Occurs (p.text ++ cs) (p.text.length + after) ↔ (after, q) ∈ cut.places := by
    rw [Placeholder.occurs_add_iff, List.drop_left, h.occurs]
  rw [Cut.mark, mem_places_cons, List.length_nil, Nat.zero_add]
  constructor
  · intro hq
    rcases hfront.disjoint hq (Nat.zero_le start) with ⟨rfl, rfl⟩ | hle
    · exact .inl ⟨rfl, rfl⟩
    · obtain ⟨after, rfl⟩ := Nat.exists_eq_add_of_le hle
      rw [Nat.zero_add] at hq ⊢
      exact .inr ⟨after, (hlater after).1 hq, rfl⟩
  · rintro (⟨rfl, rfl⟩ | ⟨after, hafter, rfl⟩)
    · exact hfront
    · exact (hlater after).2 hafter

theorem tail {literal : List Char} {rest : List (List Char × Placeholder)} {last : List Char}
    (h : Around ⟨(literal, p) :: rest, last⟩ cs) :
    ∃ after, cs = literal ++ p.text ++ after ∧ Around ⟨rest, last⟩ after := by
  let after := Cut.text ⟨rest, last⟩
  have hcs : cs = literal ++ p.text ++ after := h.text.symm.trans (List.append_assoc ..)
  have hdrop : cs.drop (literal ++ p.text).length = after := hcs ▸ List.drop_left
  refine ⟨after, hcs, rfl, fun start q => ?_⟩
  have hpos := p.text_length_pos
  rw [← hdrop, ← Placeholder.occurs_add_iff, h.occurs, mem_places_cons, List.length_append]
  constructor
  · rintro (⟨hstart, -⟩ | ⟨place, hplace, heq⟩)
    · omega
    · obtain rfl : start = place := by omega
      exact hplace
  · exact fun hstart => .inr ⟨start, hstart, rfl⟩

/-- The first placeholder of a text stands no later than any other. -/
theorem first_le {literal : List Char} {rest : List (List Char × Placeholder)} {last : List Char}
    (h : Around ⟨(literal, p) :: rest, last⟩ cs) {start : Nat} (hq : q.Occurs cs start) :
    literal.length ≤ start := by
  rcases (mem_places_cons p q).1 ((h.occurs start q).1 hq) with ⟨rfl, -⟩ | ⟨after, -, rfl⟩
  · exact Nat.le_refl _
  · omega

theorem first_occurs {literal : List Char} {rest : List (List Char × Placeholder)} {last : List Char}
    (h : Around ⟨(literal, p) :: rest, last⟩ cs) : p.Occurs cs literal.length :=
  (h.occurs _ p).2 ((mem_places_cons p p).2 (.inl ⟨rfl, rfl⟩))

/-- There is only one cut around all placeholders. -/
theorem unique {cut other : Cut} (h : cut.Around cs) (h' : other.Around cs) : cut = other := by
  obtain ⟨blocks, last⟩ := cut
  obtain ⟨blocks', last'⟩ := other
  induction blocks generalizing blocks' cs with
  | nil =>
    cases blocks' with
    | nil =>
      obtain rfl : last = last' := h.text.trans h'.text.symm
      rfl
    | cons block' rest' => cases (h.occurs _ _).1 h'.first_occurs
  | cons block rest ih =>
    obtain ⟨literal, p⟩ := block
    cases blocks' with
    | nil => cases (h'.occurs _ _).1 h.first_occurs
    | cons block' rest' =>
      obtain ⟨literal', p'⟩ := block'
      -- Each cut has the first placeholder of the other among its own, and no sooner than its first.
      have hlength : literal.length = literal'.length :=
        Nat.le_antisymm (h.first_le h'.first_occurs) (h'.first_le h.first_occurs)
      have hfirst := h.first_occurs
      rw [hlength] at hfirst
      obtain rfl := hfirst.eq h'.first_occurs
      obtain ⟨after, hcs, htail⟩ := h.tail
      obtain ⟨after', hcs', htail'⟩ := h'.tail
      rw [hcs, List.append_assoc, List.append_assoc] at hcs'
      obtain ⟨rfl, hrest⟩ := List.append_inj hcs' hlength
      obtain rfl := List.append_cancel_left hrest
      cases ih htail rest' htail'
      rfl

end Around

end Cut

/-! ### Substitution -/

/-- What the scan makes of a placeholder is what it stands for. -/
theorem expand_placeholder (vars : Variables) (p : Placeholder) :
    (Part.placeholder p.negated p.name).expand vars = p.value vars := by
  rw [Placeholder.value]
  cases p.negated with
  | false =>
    rw [Part.expand]
    cases vars.get? (String.ofList p.name) <;> rfl
  | true =>
    rw [Part.expand]
    rcases vars.get? (String.ofList p.name) with _ | ⟨_ | _⟩ | text
    · rfl
    · rfl
    · rfl
    · by_cases htext : text = "" <;> simp [VarValue.isTruthy, VarValue.display, htext]

/-- The scan cuts a text around all its placeholders. -/
theorem exists_around (cs : List Char) :
    ∃ cut : Cut, cut.Around cs ∧
      ∀ vars, (String.join ((parts cs).map (Part.expand vars))).toList = cut.filled vars := by
  -- A step of the scan takes a placeholder or one character off the front.
  fun_induction parts cs with
  | case1 cs negated name rest h ih =>
    obtain ⟨cut, hcut, hfilled⟩ := ih
    obtain ⟨p, rfl, rfl, rfl⟩ := placeholder?_eq_some.1 h
    refine ⟨cut.mark p, hcut.mark, fun vars => ?_⟩
    rw [Cut.filled_mark, ← hfilled, List.map_cons, String.join_cons, String.toList_append,
      expand_placeholder]
  | case2 h => exact ⟨⟨[], []⟩, .nil, fun vars => rfl⟩
  | case3 c rest h ih =>
    obtain ⟨cut, hcut, hfilled⟩ := ih
    refine ⟨cut.push c, hcut.push h, fun vars => ?_⟩
    rw [Cut.filled_push, ← hfilled, List.map_cons, String.join_cons, String.toList_append,
      Part.expand, String.toList_singleton, List.singleton_append]

theorem substitute_some {template : String} {cut : Cut} (h : cut.Around template.toList)
    (vars : Variables) : (substitute vars (some template)).toList = cut.filled vars := by
  obtain ⟨scanned, hscanned, hfilled⟩ := exists_around template.toList
  rw [h.unique hscanned]
  exact hfilled vars

/-- A substitution replaces the placeholders of a template, all of them and nothing else, by what they
stand for. They do not overlap, and there is one way to cut the template around them; other texts,
those that replace placeholders included, are copied. Only variables that are named matter. -/
theorem substitution_fills_placeholders (template : String) :
    (∀ (p q : Placeholder) (start later : Nat),
      p.Occurs template.toList start → q.Occurs template.toList later →
      start = later ∧ p = q ∨ start + p.text.length ≤ later ∨ later + q.text.length ≤ start) ∧
    (∃! cut : Cut, cut.Around template.toList) ∧
    (∀ cut : Cut, cut.Around template.toList →
      ∀ vars, (substitute vars (some template)).toList = cut.filled vars) ∧
    (∀ vars other : Variables,
      (∀ (p : Placeholder) (start : Nat), p.Occurs template.toList start →
        vars.get? (String.ofList p.name) = other.get? (String.ofList p.name)) →
      substitute vars (some template) = substitute other (some template)) ∧
    ∀ vars, substitute vars none = "" := by
  obtain ⟨cut, hcut, -⟩ := exists_around template.toList
  refine ⟨fun p q start later hp hq => ?_, ⟨cut, hcut, fun other hother => hother.unique hcut⟩,
    fun cut hcut => substitute_some hcut, fun vars other hagree => ?_, fun _ => rfl⟩
  · rcases Nat.le_total start later with hle | hle
    · exact (hp.disjoint hq hle).imp_right .inl
    · rcases hq.disjoint hp hle with ⟨rfl, rfl⟩ | hends
      · exact .inl ⟨rfl, rfl⟩
      · exact .inr (.inr hends)
  · apply String.toList_injective
    rw [substitute_some hcut, substitute_some hcut, Cut.filled, Cut.filled, List.flatMap_def,
      List.flatMap_def]
    have hblocks : ∀ block ∈ cut.blocks, block.2.value vars = block.2.value other := by
      intro block hblock
      obtain ⟨start, hstart⟩ := cut.exists_place block.2 hblock
      have hstored := hagree block.2 start ((hcut.occurs start block.2).2 hstart)
      rw [Placeholder.value, Placeholder.value, hstored]
    rw [List.map_congr_left fun block hblock => by rw [hblocks block hblock]]

/-- Near misses stay as they are, and what replaces a placeholder is not scanned again. -/
example :
    substitute ⟨[("a", .text "$\x7bb\x7d")], by decide⟩
        (some "$$\x7ba\x7d $\x7b$\x7b!a\x7d\x7d $\x7b!!a\x7d $\x7ba") =
      "$$\x7bb\x7d $\x7bfalse\x7d $\x7b!!a\x7d $\x7ba" := by
  cbv

end BrowserReplay.Template
