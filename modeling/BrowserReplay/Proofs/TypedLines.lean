import BrowserReplay.Panel.Line
import BrowserReplay.Proofs.Trimming

/-!
# What is typed at the panel

A line is read by what trimming leaves of it, and there the first word ends at the first blank. This
may be any of several characters and have others after it, so what follows the word is trimmed as
well; the argument of a line is then found as it was typed, with the blanks inside it.
-/

namespace BrowserReplay

open Text

/-- The code points with the Unicode property `White_Space`. -/
def whiteSpace : List Nat :=
  [0x9, 0xA, 0xB, 0xC, 0xD, 0x20, 0x85, 0xA0, 0x1680, 0x2000, 0x2001, 0x2002, 0x2003, 0x2004,
    0x2005, 0x2006, 0x2007, 0x2008, 0x2009, 0x200A, 0x2028, 0x2029, 0x202F, 0x205F, 0x3000]

theorem isBlank_iff (c : Char) : isBlank c = true ↔ c.toNat ∈ whiteSpace := by
  simp only [isBlank, whiteSpace, List.mem_cons, List.not_mem_nil, or_false, Bool.or_eq_true,
    Bool.and_eq_true, decide_eq_true_eq, beq_iff_eq]
  omega

/-- A text that ends the word before it: it is empty, or begins with a blank. -/
def EndsFirstWord (tail : String) : Prop := ∀ c ∈ tail.toList.head?, isBlank c = true

/-- A text without blanks. -/
def IsWord (word : String) : Prop := ∀ c ∈ word.toList, isBlank c = false

theorem endsFirstWord_of_blank {gap : String} (h : isAllBlank gap = true) : EndsFirstWord gap :=
  fun c hc => isAllBlank_iff.1 h c (List.mem_of_mem_head? hc)

theorem EndsFirstWord.append {gap : String} (h : EndsFirstWord gap) (hsome : gap ≠ "")
    (rest : String) : EndsFirstWord (gap ++ rest) := by
  intro c hc
  rw [String.toList_append, List.head?_append_of_ne_nil _ (by simpa using hsome)] at hc
  exact h c hc

theorem IsWord.append {word more : String} (hword : IsWord word) (hmore : IsWord more) :
    IsWord (word ++ more) := by
  unfold IsWord
  rw [String.toList_append]
  exact List.forall_mem_append.2 ⟨hword, hmore⟩

namespace PanelCommand

def verbs : List String := ["play", "start", "pause", "resume", "stop"]

theorem isWord_verbs : ∀ verb ∈ verbs, IsWord verb := by
  have hall : verbs.all (fun verb => verb.toList.all fun c => !isBlank c) = true := by decide
  simpa [IsWord] using hall

theorem ne_empty_of_mem_verbs : ∀ verb ∈ verbs, verb ≠ "" := by
  decide

/-- A line is split where its first word ends. -/
theorem parse_append {word tail : String} (hword : IsWord word) (htail : EndsFirstWord tail) :
    parse (word ++ tail) = ofWord (word ++ tail) word (trim tail) := by
  have hinWord : ∀ c ∈ word.toList, (!isBlank c) = true := by simpa [IsWord] using hword
  have hends : ∀ c ∈ tail.toList.head?, (!isBlank c) = false := by simpa [EndsFirstWord] using htail
  have hrest : (word.toList ++ tail.toList).dropWhile (fun c => !isBlank c) = tail.toList :=
    dropWhile_append_of_head hinWord hends
  have hfirst : (word.toList ++ tail.toList).takeWhile (fun c => !isBlank c) = word.toList := by
    have hsplit := List.takeWhile_append_dropWhile (p := fun c => !isBlank c)
      (l := word.toList ++ tail.toList)
    rw [hrest] at hsplit
    exact List.append_cancel_right hsplit
  simp only [parse, String.toList_append, hrest, hfirst, String.ofList_toList]
  rfl

theorem ofWord_unknown {line word argument : String} (h : word ∉ verbs) :
    ofWord line word argument = .unknown line := by
  unfold ofWord
  split <;> first
    | rfl
    | exact absurd (by decide) h

end PanelCommand

namespace PanelLine

variable {exits : List String} {line core lead trail : String}

theorem read_of_trim (hcore : trim line = core) (hsome : core ≠ "") : read exits line =
    if core ∈ exits then .leave else .command (.parse core) := by
  subst hcore
  simp only [read, if_neg hsome, List.contains_iff_mem]

theorem trimmed_word_append {word kept : List Char} (hword : ∀ c ∈ word, isBlank c = false)
    (hsome : word ≠ []) (hlast : ∀ c ∈ kept.getLast?, isBlank c = false) :
    Trimmed isBlank (word ++ kept) := by
  constructor
  · intro c hc
    rw [List.head?_append_of_ne_nil _ hsome] at hc
    exact hword c (List.mem_of_mem_head? hc)
  · intro c hc
    rw [List.getLast?_append] at hc
    rcases Option.or_eq_some_iff.1 hc with hkept | ⟨-, hc⟩
    · exact hlast c hkept
    · exact hword c (List.mem_of_mem_getLast? hc)

/-- Trimming a line takes nothing off its first word, and leaves what follows it as it is but for
blanks. -/
theorem trim_word {word tail : String} (hword : IsWord word) (hsome : word ≠ "")
    (htail : EndsFirstWord tail) : ∃ kept : String,
      trim (word ++ tail) = word ++ kept ∧ EndsFirstWord kept ∧ trim kept = trim tail := by
  -- Only the end of what follows the word is an end of the line.
  obtain ⟨trail, htrail, htrails, hlast⟩ := exists_trimEnd isBlank tail.toList
  generalize hkept : trimEnd isBlank tail.toList = kept at htrail hlast
  have hsplit : tail = String.ofList kept ++ String.ofList trail := by
    rw [← String.ofList_append, ← htrail, String.ofList_toList]
  have hblank : isAllBlank (String.ofList trail) = true := by
    rwa [isAllBlank_iff, String.toList_ofList]
  refine ⟨String.ofList kept, ?_, ?_, ?_⟩
  · have htrimmed : Trimmed isBlank (word ++ String.ofList kept).toList := by
      rw [String.toList_append, String.toList_ofList]
      exact trimmed_word_append hword (by simpa using hsome) hlast
    have h := trim_of_trimmed isAllBlank_empty htrimmed hblank
    rwa [String.empty_append, String.append_assoc, ← hsplit] at h
  · intro c hc
    rw [String.toList_ofList] at hc
    apply htail c
    rw [htrail, List.head?_append, Option.mem_def.1 hc]
    rfl
  · have h := trim_append isAllBlank_empty hblank (String.ofList kept)
    rw [String.empty_append, ← hsplit] at h
    exact h.symm

/-- A line that begins with a word, apart from blanks, is read by that word and what follows it. -/
theorem read_word (exits : List String) {word : String} (hword : IsWord word) (hsome : word ≠ "")
    (hlead : isAllBlank lead = true) {tail : String} (htail : EndsFirstWord tail) :
    read exits (lead ++ word ++ tail) =
      if trim (word ++ tail) ∈ exits then .leave
      else .command (.ofWord (trim (word ++ tail)) word (trim tail)) := by
  obtain ⟨kept, hkept, hends, hargument⟩ := trim_word hword hsome htail
  have htrim : trim (lead ++ word ++ tail) = trim (word ++ tail) := by
    have h := trim_append hlead isAllBlank_empty (word ++ tail)
    rwa [String.append_empty, ← String.append_assoc] at h
  have hne : word ++ kept ≠ "" := fun hempty => hsome (String.append_eq_empty_iff.1 hempty).1
  rw [read_of_trim (htrim.trans hkept) hne, PanelCommand.parse_append hword hends, hkept, hargument]

/-! ### Verbs -/

section Verbs

variable {verb more gap path tail : String}

/-- A verb is found behind blanks, and ends at a blank. -/
theorem read_verb (exits : List String) (hverb : verb ∈ PanelCommand.verbs)
    (hlead : isAllBlank lead = true) (htail : EndsFirstWord tail) :
    read exits (lead ++ verb ++ tail) =
      if trim (verb ++ tail) ∈ exits then .leave
      else .command (.ofWord (trim (verb ++ tail)) verb (trim tail)) :=
  read_word exits (PanelCommand.isWord_verbs verb hverb)
    (PanelCommand.ne_empty_of_mem_verbs verb hverb) hlead htail

/-- A verb for playing alone plays what is usual. -/
theorem read_play_none (exits : List String) (hverb : verb ∈ ["play", "start"])
    (hlead : isAllBlank lead = true) (htrail : isAllBlank trail = true) :
    read exits (lead ++ verb ++ trail) =
      if verb ∈ exits then .leave else .command (.play none) := by
  have hmem : verb ∈ PanelCommand.verbs := List.mem_append_left ["pause", "resume", "stop"] hverb
  have hline : trim (verb ++ trail) = verb := by
    have h := trim_append isAllBlank_empty htrail verb
    rw [String.empty_append] at h
    rw [h]
    rcases List.mem_pair.1 hverb with rfl | rfl <;> decide
  rw [read_verb exits hmem hlead (endsFirstWord_of_blank htrail), hline, trim_eq_empty htrail]
  rcases List.mem_pair.1 hverb with rfl | rfl <;> rfl

/-- A verb for playing takes what follows it, without the blanks around that. -/
theorem read_play_some (exits : List String) (hverb : verb ∈ ["play", "start"])
    (hlead : isAllBlank lead = true) (hgap : isAllBlank gap = true) (hgapSome : gap ≠ "")
    (hpath : Trimmed isBlank path.toList) (hpathSome : path ≠ "")
    (htrail : isAllBlank trail = true) :
    read exits (lead ++ verb ++ gap ++ path ++ trail) =
      if verb ++ gap ++ path ∈ exits then .leave else .command (.play (some path)) := by
  have hmem : verb ∈ PanelCommand.verbs := List.mem_append_left ["pause", "resume", "stop"] hverb
  have hargument : trim (gap ++ path ++ trail) = path := trim_of_trimmed hgap hpath htrail
  have htail : EndsFirstWord (gap ++ path ++ trail) := by
    rw [String.append_assoc]
    exact (endsFirstWord_of_blank hgap).append hgapSome (path ++ trail)
  have htrimmed : Trimmed isBlank (verb ++ gap ++ path).toList := by
    rw [String.append_assoc, String.toList_append, String.toList_append]
    refine trimmed_word_append (PanelCommand.isWord_verbs verb hmem)
      (by simpa using PanelCommand.ne_empty_of_mem_verbs verb hmem) ?_
    rw [List.getLast?_append_of_ne_nil _ (by simpa using hpathSome)]
    exact hpath.last
  have hline : trim (verb ++ (gap ++ path ++ trail)) = verb ++ gap ++ path := by
    have h := trim_of_trimmed isAllBlank_empty htrimmed htrail
    simpa only [String.empty_append, String.append_assoc] using h
  have hread := read_verb exits hmem hlead htail
  rw [hline, hargument] at hread
  simp only [← String.append_assoc] at hread
  rw [hread]
  rcases List.mem_pair.1 hverb with rfl | rfl <;> simp [PanelCommand.ofWord, hpathSome]

/-- A verb with something behind it and no blank in between is no verb. -/
theorem append_not_mem_verbs (hverb : verb ∈ PanelCommand.verbs) (hmore : more ≠ "") :
    verb ++ more ∉ PanelCommand.verbs := by
  -- No verb begins another.
  have hapart : ∀ verb ∈ PanelCommand.verbs, ∀ other ∈ PanelCommand.verbs,
      verb.toList <+: other.toList → verb = other := by decide
  intro hmem
  have hprefix : verb.toList <+: (verb ++ more).toList := by
    rw [String.toList_append]
    exact List.prefix_append _ _
  have hsame := (hapart verb hverb _ hmem hprefix).symm
  exact hmore (by simpa using hsame)

/-- A word that merely begins with a verb is unknown. -/
theorem read_unknown (exits : List String) (hverb : verb ∈ PanelCommand.verbs)
    (hlead : isAllBlank lead = true) (hmore : IsWord more) (hmoreSome : more ≠ "")
    (htail : EndsFirstWord tail) :
    read exits (lead ++ verb ++ more ++ tail) =
      if trim (verb ++ more ++ tail) ∈ exits then .leave
      else .command (.unknown (trim (verb ++ more ++ tail))) := by
  have hword : IsWord (verb ++ more) := (PanelCommand.isWord_verbs verb hverb).append hmore
  have hsome : verb ++ more ≠ "" := fun h => hmoreSome (String.append_eq_empty_iff.1 h).2
  have hread := read_word exits hword hsome hlead htail
  rw [PanelCommand.ofWord_unknown (append_not_mem_verbs hverb hmoreSome)] at hread
  simpa only [← String.append_assoc] using hread

end Verbs

/-- What is typed is read as it was typed. Blanks are the characters with the property `White_Space`,
and a line is read by what stands in it between the blanks at its ends. If that is an exit command,
the session ends. If not, a verb for playing takes what follows it, without the blanks in between,
and nothing if only blanks follow; the other verbs are recognised whatever follows them after a
blank; and a word that merely begins with a verb is unknown. -/
theorem typed_lines_keep_their_argument (exits : List String) :
    (∀ c, isBlank c = true ↔ c.toNat ∈ whiteSpace) ∧
      (∀ line core, (trim line = core ↔ Trims isBlank line.toList core.toList) ∧
        (trim line = core → read exits line = read exits core)) ∧
      (∀ verb ∈ ["play", "start"], ∀ lead trail, isAllBlank lead = true → isAllBlank trail = true →
        (read exits (lead ++ verb ++ trail) =
          if verb ∈ exits then .leave else .command (.play none)) ∧
        ∀ gap path, isAllBlank gap = true → gap ≠ "" → Trimmed isBlank path.toList → path ≠ "" →
          read exits (lead ++ verb ++ gap ++ path ++ trail) =
            if verb ++ gap ++ path ∈ exits then .leave else .command (.play (some path))) ∧
      (∀ request ∈ [("pause", PanelCommand.pause), ("resume", .resume), ("stop", .stop)],
        ∀ lead tail, isAllBlank lead = true → EndsFirstWord tail →
          read exits (lead ++ request.1 ++ tail) =
            if trim (request.1 ++ tail) ∈ exits then .leave else .command request.2) ∧
      ∀ verb ∈ PanelCommand.verbs, ∀ lead more tail, isAllBlank lead = true → IsWord more →
        more ≠ "" → EndsFirstWord tail →
          let line := trim (verb ++ more ++ tail)
          read exits (lead ++ verb ++ more ++ tail) =
            if line ∈ exits then .leave else .command (.unknown line) := by
  refine ⟨isBlank_iff, fun line core => ⟨trim_eq_iff, ?_⟩, ?plays, ?acts, ?unknown⟩
  · rintro rfl
    rw [read, read, trim_trim]
  case plays =>
    intro verb hverb lead trail hlead htrail
    exact ⟨read_play_none exits hverb hlead htrail,
      fun gap path hgap hgapSome hpath hpathSome =>
        read_play_some exits hverb hlead hgap hgapSome hpath hpathSome htrail⟩
  case acts =>
    intro request hrequest lead tail hlead htail
    have hverb : request.1 ∈ PanelCommand.verbs := by
      have hall : ∀ request ∈ [("pause", PanelCommand.pause), ("resume", .resume), ("stop", .stop)],
          request.1 ∈ PanelCommand.verbs := by decide
      exact hall request hrequest
    rw [read_verb exits hverb hlead htail]
    simp only [List.mem_cons, List.not_mem_nil, or_false] at hrequest
    rcases hrequest with rfl | rfl | rfl <;> rfl
  case unknown =>
    intro verb hverb lead more tail hlead hmore hmoreSome htail
    exact read_unknown exits hverb hlead hmore hmoreSome htail

/-- A path with blanks inside is typed among blanks of several kinds. With blanks of the same kind in
between, the same words would be an exit command. -/
theorem path_with_blanks_is_typed :
    let path := "my forms/eta\t2.json"
    let exits := ["quit", "play my forms/eta\t2.json"]
    isAllBlank "\u00a0 " = true ∧ isAllBlank "\t\u3000" = true ∧ isAllBlank "\u2028" = true ∧
      Trimmed isBlank path.toList ∧
      read exits ("\u00a0 " ++ "play" ++ "\t\u3000" ++ path ++ "\u2028") =
        .command (.play (some path)) ∧
      read exits ("\u00a0 " ++ "play" ++ " " ++ path ++ "\u2028") = .leave := by
  intro path exits
  have hpath : Trimmed isBlank path.toList := by decide
  obtain ⟨-, -, hplays, -⟩ := typed_lines_keep_their_argument exits
  have hread := (hplays "play" (by decide) "\u00a0 " "\u2028" (by decide) (by decide)).2
  refine ⟨by decide, by decide, by decide, hpath, ?_, ?_⟩
  · rw [hread "\t\u3000" path (by decide) (by decide) hpath (by decide)]
    decide
  · rw [hread " " path (by decide) (by decide) hpath (by decide)]
    decide

end PanelLine

end BrowserReplay
