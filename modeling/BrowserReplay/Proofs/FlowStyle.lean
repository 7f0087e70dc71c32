import BrowserReplay.Proofs.YamlFields
import Mathlib.Algebra.Group.Nat.Defs

/-!
# YAML in flow style

A tree of mappings, texts and words is written between braces, with names and texts in quotes and a
comma after each entry (`Tree.write`). The scalars in it are read back whatever characters they have
(`quoted?_written`, `plain?_written`).
-/

namespace BrowserReplay.Yaml

/-! ### Writing -/

/-- What is written: a word without quotes, a text, or names with what stands under them. -/
inductive Tree where
  | word (cs : List Char)
  | text (s : String)
  | mapping (entries : List (String × Tree))

def hexDigits (c : Char) : List Char :=
  (List.range 8).reverse.map fun place => Nat.digitChar (c.toNat / 16 ^ place % 16)

def escape (c : Char) : List Char :=
  if isNameChar c then [c] else '\\' :: 'U' :: hexDigits c

def quote (s : String) : List Char := '"' :: (s.toList.flatMap escape ++ ['"'])

/-- A name in quotes. One that is too long to be a key by its colon alone has a mark. -/
def writeName (name : String) : List Char :=
  if (quote name).length ≤ Lexer.keyReach then quote name else '?' :: ' ' :: quote name

namespace Tree

mutual
def write : Tree → List Char
  | word cs => cs
  | text s => quote s
  | mapping entries => '\x7b' :: (writeEntries entries ++ ['\x7d'])

def writeEntries : List (String × Tree) → List Char
  | [] => []
  | (name, value) :: entries =>
    writeName name ++ ':' :: (write value ++ ',' :: writeEntries entries)
end

mutual
def tokens : Tree → List Token
  | word cs => [.scalar cs .plain]
  | text s => [.scalar s.toList .quoted]
  | mapping entries => .flowMappingStart :: (entryTokens entries ++ [.flowMappingEnd])

def entryTokens : List (String × Tree) → List Token
  | [] => []
  | (name, value) :: entries =>
    .key :: .scalar name.toList .quoted :: .value ::
      (tokens value ++ .flowEntry :: entryTokens entries)
end

mutual
def node : Tree → Node
  | word cs => .scalar none .plain (String.ofList cs)
  | text s => .scalar none .quoted s
  | mapping entries => .mapping (entryNodes entries)

def entryNodes : List (String × Tree) → List (Node × Node)
  | [] => []
  | (name, value) :: entries => (.scalar none .quoted name, node value) :: entryNodes entries
end

mutual
/-- The words are made of letters and digits. -/
def Fits : Tree → Prop
  | word cs => cs ≠ [] ∧ ∀ c ∈ cs, c.isAlphanum = true
  | text _ => True
  | mapping entries => EntriesFit entries

def EntriesFit : List (String × Tree) → Prop
  | [] => True
  | (_, value) :: entries => Fits value ∧ EntriesFit entries
end

end Tree

/-- The tree writes the value: a number or a truth value as a word, a text as itself. -/
def Kind.WritesTree : (kind : Kind) → kind.Value → Tree → Prop
  | .word, n, tree => n < Numeral.wordBound ∧ ∃ digits, Spells n digits ∧ tree = .word digits
  | .truth, b, tree => ∃ word ∈ truthWords b, tree = .word word.toList
  | .text, s, tree => tree = .text s

theorem Kind.writes_node {document : Document} {kind : Kind} {value : kind.Value} {tree : Tree}
    (h : kind.WritesTree value tree) : kind.Writes document value tree.node := by
  cases kind with
  | word =>
    obtain ⟨hbound, digits, hspells, rfl⟩ := h
    exact ⟨digits, hspells, hbound, none, rfl⟩
  | truth =>
    obtain ⟨word, hword, rfl⟩ := h
    refine ⟨word, hword, none, ?_⟩
    rw [Tree.node, String.ofList_toList]
    rfl
  | text =>
    cases h
    exact ⟨none, .quoted, rfl⟩

/-- The node of a mapping lists the nodes of its entries. -/
theorem Tree.lists_node {document : Document} (entries : List (String × Tree)) :
    Lists document (mapping entries).node (entries.map (Prod.map id node)) := by
  refine .mapping rfl ?_
  induction entries with
  | nil => exact .nil
  | cons entry entries ih => exact .cons ⟨⟨none, .quoted, rfl⟩, rfl⟩ ih

/-! ### Characters -/

theorem toNat_lt_of_isNameChar {c : Char} (h : isNameChar c = true) : c.toNat < 128 := by
  have hranges : isNameChar c = ((decide ('A' ≤ c ∧ c ≤ 'Z') || ('a' ≤ c && c ≤ 'z') ||
      ('0' ≤ c && c ≤ '9')) || c == '_' || c == '-') := rfl
  have hbelow {last : Char} (hle : c ≤ last) (hlast : last.toNat < 128) : c.toNat < 128 :=
    Nat.lt_of_le_of_lt (UInt32.le_iff_toNat_le.1 hle) hlast
  simp only [hranges, Bool.or_eq_true, Bool.and_eq_true, decide_eq_true_eq, beq_iff_eq] at h
  rcases h with (((h | h) | h) | rfl) | rfl
  · exact hbelow h.2 (by decide)
  · exact hbelow h.2 (by decide)
  · exact hbelow h.2 (by decide)
  · decide
  · decide

/-- What holds of each letter, digit, dash and underscore is checked one by one. -/
theorem of_isNameChar {p : Char → Bool}
    (hp : (List.range 128).all (fun n => !isNameChar (Char.ofNat n) || p (Char.ofNat n)) = true)
    {c : Char} (h : isNameChar c = true) : p c = true := by
  have hc := List.all_eq_true.1 hp c.toNat (List.mem_range.2 (toNat_lt_of_isNameChar h))
  simpa [Char.ofNat_toNat, h] using hc

/-- Each digit is read onto the number that the digits in front of it make. -/
theorem foldlM_digitChar (n count : Nat) :
    ((List.range count).reverse.map fun place => Nat.digitChar (n / 16 ^ place % 16)).foldlM
      (fun acc c => (hexValue? c).map (acc * 16 + ·)) (n / 16 ^ count) = some n := by
  induction count with
  | zero => simp
  | succ count ih =>
    have hdigit : hexValue? (Nat.digitChar (n / 16 ^ count % 16)) = some (n / 16 ^ count % 16) :=
      hexValue?_digitChar _ (Nat.mod_lt _ (by decide))
    have hvalue : n / 16 ^ (count + 1) * 16 + n / 16 ^ count % 16 = n / 16 ^ count := by
      rw [Nat.pow_succ, ← Nat.div_div_eq_div_mul, Nat.div_add_mod']
    rw [List.range_succ, List.reverse_concat, List.map_cons, List.foldlM_cons, hdigit,
      Option.map_some, hvalue, Option.bind_eq_bind, Option.bind_some, ih]

theorem hexChar?_hexDigits (c : Char) : hexChar? (hexDigits c) = some c := by
  have hvalid : c.toNat < 0xD800 ∨ (0xDFFF < c.toNat ∧ c.toNat < 0x110000) := c.valid
  have hrange : c.toNat < 0xD800 ∨ (0xDFFF < c.toNat ∧ c.toNat ≤ 0x10FFFF) := by omega
  have htop : c.toNat / 16 ^ 8 = 0 := Nat.div_eq_of_lt (by omega)
  have hcode := foldlM_digitChar c.toNat 8
  rw [htop] at hcode
  rw [hexChar?, hexDigits, hcode]
  simp [hrange]

/-- A character that no YAML text gives a meaning of its own. -/
structure IsMere (c : Char) : Prop where
  blank : isBlank c = false
  line : isBreak c = false
  quote : c ≠ '"'
  slash : c ≠ '\\'
  colon : c ≠ ':'
  number : c ≠ '#'
  flow : isFlowMark c = false

theorem isMere_of_isNameChar {c : Char} (h : isNameChar c = true) : IsMere c := by
  have hchecked := of_isNameChar (p := fun c => !isBlank c && !isBreak c && c != '"' &&
    c != '\\' && c != ':' && c != '#' && !isFlowMark c) (by decide +kernel) h
  obtain ⟨⟨⟨⟨⟨⟨hblank, hline⟩, hquote⟩, hslash⟩, hcolon⟩, hnumber⟩, hflow⟩ := by
    simpa using hchecked
  exact ⟨hblank, hline, hquote, hslash, hcolon, hnumber, hflow⟩

theorem isNameChar_of_isAlphanum {c : Char} (h : c.isAlphanum = true) : isNameChar c = true := by
  rw [isNameChar, h, Bool.true_or, Bool.true_or]

/-! ### Places -/

namespace Cursor

variable {cursor : Cursor}

theorem skip_eq (cursor : Cursor) : cursor.skip = cursor.skipMany 1 := rfl

theorem skipMany_skipMany (cursor : Cursor) (m n : Nat) :
    (cursor.skipMany m).skipMany n = cursor.skipMany (m + n) := by
  simp [skipMany, Nat.add_assoc]

theorem rest_skipMany {cs rest : List Char} (h : cursor.rest = cs ++ rest) :
    (cursor.skipMany cs.length).rest = rest := by
  simp [skipMany, h]

/-- Marks of documents stand at the beginning of a line. -/
theorem atMarker_eq_false (h : 0 < cursor.column) (c : Char) : cursor.atMarker c = false := by
  have hcolumn : (cursor.column == 0) = false := by simpa using Nat.ne_of_gt h
  rw [atMarker, hcolumn, Bool.false_and, Bool.false_and, Bool.false_and, Bool.false_and]

theorem atDocumentMarker_eq_false (h : 0 < cursor.column) : cursor.atDocumentMarker = false := by
  rw [atDocumentMarker, atMarker_eq_false h, atMarker_eq_false h, Bool.false_or]

end Cursor

/-! ### Scalars -/

variable {cursor : Cursor} {rest : List Char}

theorem readEscape?_written {c : Char} (h : cursor.rest = '\\' :: 'U' :: (hexDigits c ++ rest)) :
    readEscape? cursor = some (c, cursor.skipMany 10) := by
  have hletter : cursor.peekAt? 1 = some 'U' := by rw [Cursor.peekAt?, h]; rfl
  have hlength : hexLength? 'U' = some 8 := rfl
  have hdigits : (cursor.rest.drop 2).take 8 = hexDigits c := by rw [h]; rfl
  have height : (hexDigits c).length = 8 := rfl
  rw [readEscape?, hletter]
  dsimp only [Option.bind_eq_bind, Option.bind_some]
  rw [hlength]
  dsimp only
  rw [hdigits, if_pos height, hexChar?_hexDigits]
  rfl

/-- A written text is read up to the quote behind it. -/
theorem readQuoted_written (cs text : List Char) (cursor : Cursor) (hcolumn : 0 < cursor.column)
    (hrest : cursor.rest = cs.flatMap escape ++ '"' :: rest) (fuel : Nat)
    (hfuel : cs.length < fuel) :
    readQuoted true text cursor fuel =
      some (text ++ cs, cursor.skipMany ((cs.flatMap escape).length + 1)) := by
  induction cs generalizing text cursor fuel with
  | nil =>
    obtain ⟨fuel, rfl⟩ := Nat.exists_eq_add_of_lt hfuel
    have hpeek : cursor.peek? = some '"' := by rw [Cursor.peek?, hrest]; rfl
    have hnext : cursor.peekAt? 1 = rest[0]? := by rw [Cursor.peekAt?, hrest]; rfl
    simp [readQuoted, hpeek, Cursor.atDocumentMarker_eq_false hcolumn, isBlank, isBreak,
      Cursor.skip_eq]
  | cons c cs ih =>
    obtain ⟨fuel, rfl⟩ := Nat.exists_eq_add_of_lt hfuel
    rw [List.flatMap_cons, List.append_assoc] at hrest
    have hmarker := Cursor.atDocumentMarker_eq_false hcolumn
    have hlater : (cursor.skipMany (escape c).length).rest = cs.flatMap escape ++ '"' :: rest :=
      Cursor.rest_skipMany hrest
    have hread := ih (text ++ [c]) (cursor.skipMany (escape c).length)
      (Nat.lt_add_right _ hcolumn) hlater ((c :: cs).length + fuel) (by simp; omega)
    -- Either way, `c` is what is read first, and the induction goes on behind it.
    have hgoal : readQuoted true (text ++ [c]) (cursor.skipMany (escape c).length)
        ((c :: cs).length + fuel) =
          some (text ++ c :: cs, cursor.skipMany (((c :: cs).flatMap escape).length + 1)) := by
      rw [hread, Cursor.skipMany_skipMany]
      simp [Nat.add_assoc]
    rw [← hgoal]
    by_cases hc : isNameChar c = true
    · have hmere := isMere_of_isNameChar hc
      have hescape : escape c = [c] := if_pos hc
      rw [hescape] at hrest ⊢
      have hpeek : cursor.peek? = some c := by rw [Cursor.peek?, hrest]; rfl
      simp [readQuoted, hpeek, hmarker, hmere.blank, hmere.line, hmere.quote, hmere.slash,
        Cursor.skip_eq]
    · have hescape : escape c = '\\' :: 'U' :: hexDigits c := if_neg hc
      rw [hescape] at hrest ⊢
      have hpeek : cursor.peek? = some '\\' := by rw [Cursor.peek?, hrest]; rfl
      have hbreak : cursor.holdsAt 1 isBreak = false := by
        rw [Cursor.holdsAt, Cursor.peekAt?, hrest]; rfl
      have hlength : ('\\' :: 'U' :: hexDigits c).length = 10 := rfl
      rw [hlength]
      simp [readQuoted, hpeek, hmarker, isBlank, isBreak, hbreak, readEscape?_written hrest]

theorem length_le_flatMap_escape (cs : List Char) : cs.length ≤ (cs.flatMap escape).length := by
  induction cs with
  | nil => exact Nat.le_refl 0
  | cons c cs ih =>
    have hpos : 0 < (escape c).length := by
      rw [escape]
      split <;> exact Nat.succ_pos _
    rw [List.flatMap_cons, List.length_append, List.length_cons]
    omega

theorem quoted?_written (s : String) {cursor : Cursor} {more : List Char}
    (hrest : cursor.rest = quote s ++ more) :
    quoted? true cursor = some (s.toList, cursor.skipMany (quote s).length) := by
  have hskip : cursor.skip.rest = s.toList.flatMap escape ++ '"' :: more := by
    simp [Cursor.skip, hrest, quote]
  have hfuel : s.toList.length < cursor.rest.length + 1 := by
    have hlength := length_le_flatMap_escape s.toList
    simp [hrest, quote] at hlength ⊢
    omega
  rw [quoted?, readQuoted_written _ _ _ (Nat.succ_pos _) hskip _ hfuel, Cursor.skip_eq,
    Cursor.skipMany_skipMany, List.nil_append]
  simp [quote, Nat.add_comm]

/-- A word is read up to the comma behind it. -/
theorem plainWord?_written (cs : List Char) (hword : ∀ c ∈ cs, c.isAlphanum = true)
    (cursor : Cursor) (hrest : cursor.rest = cs ++ ',' :: rest) (fuel : Nat)
    (hfuel : cs.length ≤ fuel) :
    plainWord? true cursor fuel = some (cs, cursor.skipMany cs.length) := by
  induction cs generalizing cursor fuel with
  | nil =>
    cases fuel with
    | zero => rfl
    | succ fuel =>
      have hpeek : cursor.peek? = some ',' := by rw [Cursor.peek?, hrest]; rfl
      have hends : plainEnds true cursor = true := by
        simp [plainEnds, Cursor.holdsAt, Cursor.peekAt?, hrest, isFlowMark]
      simp [plainWord?, hpeek, hends, isBlank, isBreak, Cursor.skipMany]
  | cons c cs ih =>
    obtain ⟨fuel, rfl⟩ := Nat.exists_eq_add_of_le' (Nat.one_le_of_lt hfuel)
    have hmere := isMere_of_isNameChar (isNameChar_of_isAlphanum (hword c List.mem_cons_self))
    have hpeek : cursor.peek? = some c := by rw [Cursor.peek?, hrest]; rfl
    have hends : plainEnds true cursor = false := by
      simp [plainEnds, Cursor.sees, hpeek, Cursor.holdsAt, Cursor.peekAt?, hrest, hmere.colon,
        hmere.flow]
    have hread := ih (fun d hd => hword d (List.mem_cons_of_mem _ hd)) cursor.skip
      (by simp [Cursor.skip, hrest]) fuel (by simpa using hfuel)
    rw [Cursor.skip_eq, Cursor.skipMany_skipMany] at hread
    simp [plainWord?, hpeek, hends, hmere.blank, hmere.line, hmere.colon, Cursor.skip_eq, hread,
      Nat.add_comm]

theorem plain?_written {cs : List Char} (hne : cs ≠ []) (hword : ∀ c ∈ cs, c.isAlphanum = true)
    (hcolumn : 0 < cursor.column) (hrest : cursor.rest = cs ++ ',' :: rest) (indent : Nat) :
    plain? true indent cursor = some ⟨cs, cursor.skipMany cs.length, false⟩ := by
  have hnumber : cursor.sees '#' = false := by
    obtain ⟨c, cs, rfl⟩ := List.exists_cons_of_ne_nil hne
    have hmere := isMere_of_isNameChar (isNameChar_of_isAlphanum (hword c List.mem_cons_self))
    simp [Cursor.sees, Cursor.peek?, hrest, hmere.number]
  have hread := plainWord?_written cs hword cursor hrest cursor.rest.length (by simp [hrest])
  have hnext : ((cursor.skipMany cs.length).holdsAt 0 fun c => isBlank c || isBreak c) = false := by
    rw [Cursor.holdsAt, Cursor.peekAt?, Cursor.rest_skipMany hrest]
    rfl
  simp [plain?, readPlain, Cursor.atDocumentMarker_eq_false hcolumn, hnumber, hread, hnext, hne,
    Gap.text]

/-! ### Characters of a text -/

theorem isAllowed_of_isNameChar {c : Char} (h : isNameChar c = true) : isAllowed c = true :=
  of_isNameChar (p := isAllowed) (by decide +kernel) h

theorem isAllowed_quote (s : String) : ∀ c ∈ quote s, isAllowed c = true := by
  have hdigit : ∀ d < 16, isAllowed (Nat.digitChar d) = true := by decide
  have hescape (c : Char) : ∀ d ∈ escape c, isAllowed d = true := by
    rw [escape]
    split
    next hc => exact List.forall_mem_singleton.2 (isAllowed_of_isNameChar hc)
    next =>
      refine List.forall_mem_cons.2 ⟨rfl, List.forall_mem_cons.2 ⟨rfl, fun d hd => ?_⟩⟩
      obtain ⟨place, -, rfl⟩ := List.mem_map.1 hd
      exact hdigit _ (Nat.mod_lt _ (by decide))
  rw [quote, List.forall_mem_cons, List.forall_mem_append, List.forall_mem_singleton]
  refine ⟨rfl, fun d hd => ?_, rfl⟩
  obtain ⟨c, -, hc⟩ := List.mem_flatMap.1 hd
  exact hescape c d hc

theorem isAllowed_writeName (name : String) : ∀ c ∈ writeName name, isAllowed c = true := by
  have hquote := isAllowed_quote name
  rw [writeName]
  split
  · exact hquote
  · exact List.forall_mem_cons.2 ⟨rfl, List.forall_mem_cons.2 ⟨rfl, hquote⟩⟩

mutual
/-- A tree is written in characters that may stand in a text. -/
theorem Tree.isAllowed_write (tree : Tree) (hfits : tree.Fits) :
    ∀ c ∈ tree.write, isAllowed c = true := by
  match tree with
  | .word cs =>
    exact fun c hc => isAllowed_of_isNameChar (isNameChar_of_isAlphanum (hfits.2 c hc))
  | .text s => exact isAllowed_quote s
  | .mapping entries =>
    rw [write, List.forall_mem_cons, List.forall_mem_append, List.forall_mem_singleton]
    exact ⟨rfl, isAllowed_writeEntries entries hfits, rfl⟩

theorem Tree.isAllowed_writeEntries (entries : List (String × Tree)) (hfits : EntriesFit entries) :
    ∀ c ∈ writeEntries entries, isAllowed c = true := by
  match entries with
  | [] => exact List.forall_mem_nil _
  | (name, value) :: entries =>
    obtain ⟨hvalue, hentries⟩ := hfits
    rw [writeEntries, List.forall_mem_append, List.forall_mem_cons, List.forall_mem_append,
      List.forall_mem_cons]
    exact ⟨isAllowed_writeName name, rfl, isAllowed_write value hvalue, rfl,
      isAllowed_writeEntries entries hentries⟩
end

end BrowserReplay.Yaml
