import BrowserReplay.Config.File
import BrowserReplay.Proofs.WrittenJson
import Mathlib.Data.List.Basic

/-!
# Fields of YAML mappings

What it means that a node writes a value (`Kind.Writes`), that it lists fields (`Lists`), and that
one name among them holds a value or is left out (`Holds`): whatever stands under other names,
before or after, makes no difference. What is written so is what is read (`Kind.read?_of_writes`,
`fields?_of_lists`, `field?_of_holds`).
-/

namespace BrowserReplay.Yaml

variable {document : Document} {node : Node}

/-! ### Scalars -/

/-- The node is a scalar with this text, or an alias of one. -/
def IsText (document : Document) (node : Node) (text : String) : Prop :=
  ∃ tag style, follow? document node = some (.scalar tag style text)

/-- The node is a scalar with this text and without quotes, or an alias of one. -/
def IsPlain (document : Document) (node : Node) (text : String) : Prop :=
  ∃ tag, follow? document node = some (.scalar tag .plain text)

theorem text?_of_isText {text : String} (h : IsText document node text) :
    text? document node = some text := by
  obtain ⟨tag, style, hfollow⟩ := h
  rw [text?, hfollow]

theorem typedText?_of_isPlain {text : String} (tag : String) (h : IsPlain document node text) :
    typedText? document tag node = some text := by
  obtain ⟨given, hfollow⟩ := h
  rw [typedText?, hfollow]

/-! ### Numbers and truth values -/

/-- The digits spell the number. -/
inductive Spells (n : Nat) : List Char → Prop
  | decimal : Spells n (Nat.toDigits 10 n)
  | hexadecimal : Spells n ('0' :: 'x' :: Nat.toDigits 16 n)
  | octal : Spells n ('0' :: 'o' :: Nat.toDigits 8 n)
  | binary : Spells n ('0' :: 'b' :: Nat.toDigits 2 n)

def truthWords : Bool → List String
  | true => ["true", "True", "TRUE"]
  | false => ["false", "False", "FALSE"]

theorem hexValue?_digitChar : ∀ d < 16, hexValue? (Nat.digitChar d) = some d := by decide

theorem digits?_toDigits {base : Nat} (hone : 1 < base) (hsixteen : base ≤ 16) (n : Nat) :
    digits? base (Nat.toDigits base n) = some n := by
  have hdigit (acc d : Nat) (hd : d < base) :
      ((hexValue? (Nat.digitChar d)).filter (· < base)).map (acc * base + ·) =
        some (acc * base + d) := by
    rw [hexValue?_digitChar d (by omega), Option.filter_some_pos (by simpa using hd),
      Option.map_some]
  have hfold : (Nat.toDigits base n).foldlM (fun acc c =>
      ((hexValue? c).filter (· < base)).map (acc * base + ·)) 0 = some n := by
    induction n using Nat.strongRecOn with
    | ind n ih =>
      rw [Nat.toDigits_eq_if hone]
      split
      next hsmall => simpa using hdigit 0 n hsmall
      next hlarge =>
        have hlast : n % base < base := Nat.mod_lt n (by omega)
        rw [List.foldlM_append, ih (n / base) (Nat.div_lt_self (by omega) hone)]
        simp [hdigit _ _ hlast, Nat.div_add_mod']
  have hne : Nat.toDigits base n ≠ [] := Nat.toDigits_ne_nil
  simpa [digits?, hne] using hfold

/-- A decimal number has no sign, and no zero in front. -/
theorem readWord?_decimal {n : Nat} (hn : n < Numeral.wordBound) :
    readWord? (Nat.toDigits 10 n) = some n := by
  have hread : digits? 10 (Nat.toDigits 10 n) = some n := digits?_toDigits (by decide) (by decide) n
  rcases Json.writeNat_head n with hzero | ⟨c, cs, hdigits, hne⟩
  · rw [Json.writeNat] at hzero
    rw [hzero] at hread ⊢
    cases hread
    rfl
  · have hdigit : c.isDigit = true := Json.isDigit_of_mem_writeNat (hdigits ▸ List.mem_cons_self)
    have hplus : c ≠ '+' := by
      rintro rfl
      cases hdigit
    rw [Json.writeNat] at hdigits
    rw [hdigits] at hread ⊢
    simp [readWord?, hne, hplus, hread, hn]

theorem readWord?_of_spells {n : Nat} {cs : List Char} (hn : n < Numeral.wordBound)
    (h : Spells n cs) : readWord? cs = some n := by
  cases h with
  | decimal => exact readWord?_decimal hn
  | hexadecimal => simp [readWord?, digits?_toDigits, hn]
  | octal => simp [readWord?, digits?_toDigits, hn]
  | binary => simp [readWord?, digits?_toDigits, hn]

/-! ### Values of some kind -/

/-- The kinds of values: numbers of 64 bits, truth values and texts. -/
inductive Kind where
  | word
  | truth
  | text
  deriving DecidableEq, Repr

namespace Kind

abbrev Value : Kind → Type
  | .word => Nat
  | .truth => Bool
  | .text => String

/-- The node writes the value: a number or a truth value as a plain scalar, a text as any scalar. -/
def Writes (document : Document) : (kind : Kind) → kind.Value → Node → Prop
  | .word, n, node =>
    ∃ digits, Spells n digits ∧ n < Numeral.wordBound ∧
      IsPlain document node (String.ofList digits)
  | .truth, b, node => ∃ word ∈ truthWords b, IsPlain document node word
  | .text, s, node => IsText document node s

def read? (document : Document) : (kind : Kind) → Node → Option kind.Value
  | .word => word? document
  | .truth => bool? document
  | .text => text? document

theorem read?_of_writes {kind : Kind} {value : kind.Value} (h : kind.Writes document value node) :
    kind.read? document node = some value := by
  cases kind with
  | word =>
    obtain ⟨digits, hspells, hbound, hplain⟩ := h
    change (typedText? document _ node).bind _ = _
    rw [typedText?_of_isPlain _ hplain, Option.bind_some, String.toList_ofList]
    exact readWord?_of_spells hbound hspells
  | truth =>
    obtain ⟨word, hword, hplain⟩ := h
    change bool? document node = _
    rw [bool?, typedText?_of_isPlain _ hplain]
    cases value <;> simp [truthWords] at hword <;> rcases hword with rfl | rfl | rfl <;> rfl
  | text => exact text?_of_isText h

end Kind

/-! ### Fields -/

/-- The node is a mapping of these fields, in this order, or it is empty and lists none. -/
inductive Lists (document : Document) (node : Node) : List (String × Node) → Prop
  | mapping {entries : List (Node × Node)} {fields : List (String × Node)}
      (hfollow : follow? document node = some (.mapping entries))
      (hentries : List.Forall₂ (fun entry field => IsText document entry.1 field.1 ∧
        entry.2 = field.2) entries fields) :
      Lists document node fields
  | empty (hplain : IsPlain document node "") : Lists document node []

/-- Among the fields, a name stands once, in front of what writes the value, or it does not stand
there. -/
inductive Holds {α β : Type} (writes : α → β → Prop) (name : String) :
    List (String × β) → Option α → Prop
  | absent {fields : List (String × β)} (h : ∀ field ∈ fields, field.1 ≠ name) :
      Holds writes name fields none
  | once {before after : List (String × β)} {written : β} {value : α}
      (hbefore : ∀ field ∈ before, field.1 ≠ name) (hafter : ∀ field ∈ after, field.1 ≠ name)
      (hwrites : writes value written) :
      Holds writes name (before ++ (name, written) :: after) (some value)

theorem fields?_of_lists {fields : List (String × Node)} (h : Lists document node fields) :
    fields? document node = some fields := by
  cases h with
  | mapping hfollow hentries =>
    rw [fields?, hfollow]
    dsimp only
    clear hfollow
    induction hentries with
    | nil => rfl
    | cons hentry _ ih =>
      obtain ⟨htext, hvalue⟩ := hentry
      simp [text?_of_isText htext, hvalue, ih]
  | empty hplain =>
    obtain ⟨tag, hfollow⟩ := hplain
    rw [fields?, hfollow]
    rfl

section Holds

variable {α β γ δ : Type} {writes : α → β → Prop} {name : String} {value : Option α}

/-- What stands under the names may be replaced, and the values with it. -/
theorem Holds.map {fields : List (String × β)} {writesLater : γ → δ → Prop} {f : β → δ}
    (g : α → γ) (h : Holds writes name fields value)
    (hwrites : ∀ a written, writes a written → writesLater (g a) (f written)) :
    Holds writesLater name (fields.map (Prod.map id f)) (value.map g) := by
  have hother {others : List (String × β)} (h : ∀ field ∈ others, field.1 ≠ name) :
      ∀ field ∈ others.map (Prod.map id f), field.1 ≠ name := by
    rw [List.forall_mem_map]
    exact h
  cases h with
  | absent habsent => exact .absent (hother habsent)
  | once hbefore hafter hvalue =>
    rw [List.map_append, List.map_cons]
    exact .once (hother hbefore) (hother hafter) (hwrites _ _ hvalue)

theorem eq_none_of_holds_nil (h : Holds writes name [] value) : value = none := by
  generalize hfields : ([] : List (String × β)) = fields at h
  cases h with
  | absent => rfl
  | once => simp at hfields

variable {fields : List (String × Node)} {writes : α → Node → Prop}

/-- The nodes under a name are found wherever they stand. -/
theorem under_name_eq_nil (h : ∀ field ∈ fields, field.1 ≠ name) :
    fields.filterMap (fun (key, node) => if key = name then some node else none) = [] := by
  rw [List.filterMap_eq_nil_iff]
  intro field hfield
  exact if_neg (h field hfield)

/-- What a name holds is read, whatever stands under other names. -/
theorem field?_of_holds {read : Node → Option β} {fallback : β} {result : α → β}
    (h : Holds writes name fields value)
    (hread : ∀ a ∈ value, ∀ node, writes a node → read node = some (result a)) :
    field? fields name read fallback = some (value.elim fallback result) := by
  cases h with
  | absent habsent => rw [field?, under_name_eq_nil habsent, Option.elim_none]
  | once hbefore hafter hwrites =>
    rw [field?, List.filterMap_append, List.filterMap_cons, under_name_eq_nil hbefore,
      under_name_eq_nil hafter]
    simpa using hread _ rfl _ hwrites

end Holds

end BrowserReplay.Yaml
