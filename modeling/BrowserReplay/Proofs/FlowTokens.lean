import BrowserReplay.Proofs.FlowStyle

/-!
# Flow style is read back

The tokens of a tree in flow style are cut off one by one (`Lexer.Flowing.tree`): between them, the
lexer is inside as many flow collections as there are open braces, and a text in front of a colon is
still near enough to become a key. From its tokens the tree is read as it was (`readNode_tokens`),
and so it is from the whole text (`parse?_write`).
-/

namespace BrowserReplay.Yaml

variable {rest : List Char}

/-! ### Steps -/

namespace Lexer

variable {lexer middle later : Lexer} {c : Char} {depth m n : Nat} {keys : Bool}
  {tokens : List Token}

/-- The lexer gets to a later place in some steps, whatever comes then. -/
def Reaches (lexer : Lexer) (n : Nat) (later : Lexer) : Prop :=
  ∀ fuel, lexer.all? (fuel + n) = later.all? fuel

theorem Reaches.trans (h : lexer.Reaches m middle) (h' : middle.Reaches n later) :
    lexer.Reaches (n + m) later := by
  intro fuel
  rw [← Nat.add_assoc, h, h']

/-- A character at which a token begins. -/
structure Opens (c : Char) : Prop where
  blank : isBlank c = false
  line : isBreak c = false
  number : c ≠ '#'
  order : c ≠ '\ufeff'

/-- The blanks in front of a token, as far as they count as blanks. -/
theorem skipBlanks_of_skipWhile {cursor : Cursor} (horder : lexer.cursor.sees '\ufeff' = false)
    (hcursor : (lexer.cursor.skipWhile fun c =>
      c == ' ' || ((lexer.inFlow || !lexer.keyAllowed) && c == '\t')) = cursor)
    (hrest : cursor.rest = c :: rest) (hc : Opens c) (fuel : Nat) :
    lexer.skipBlanks (fuel + 1) = lexer.moveTo cursor := by
  have hnumber : cursor.sees '#' = false := by simp [Cursor.sees, Cursor.peek?, hrest, hc.number]
  have hline : cursor.holdsAt 0 isBreak = false := by
    simp [Cursor.holdsAt, Cursor.peekAt?, hrest, hc.line]
  simp [skipBlanks, horder, hcursor, hnumber, hline]

theorem Opens.not_blank (hc : Opens c) (tabs : Bool) :
    (c == ' ' || (tabs && c == '\t')) = false := by
  have hblank := hc.blank
  rw [isBlank, Bool.or_eq_false_iff] at hblank
  rw [hblank.1, hblank.2, Bool.and_false, Bool.or_false]

theorem skipBlanks_eq (hrest : lexer.cursor.rest = c :: rest) (hc : Opens c) (fuel : Nat) :
    lexer.skipBlanks (fuel + 1) = lexer := by
  have horder : lexer.cursor.sees '\ufeff' = false := by
    simp [Cursor.sees, Cursor.peek?, hrest, hc.order]
  refine skipBlanks_of_skipWhile horder ?_ hrest hc fuel
  rw [Cursor.skipWhile, hrest, List.takeWhile_cons, hc.not_blank, if_neg Bool.false_ne_true]
  rfl

theorem reaches_next (hrest : lexer.cursor.rest = c :: rest) (hc : Opens c)
    (hstale : lexer.dropStale? = some middle)
    (hcursor : middle.cursor = lexer.cursor)
    (hdedent : middle.dedent (some middle.cursor.column) = middle)
    (hnext : middle.next? = some later) : lexer.Reaches 1 later := by
  intro fuel
  have hend : middle.cursor.atEnd = false := by rw [hcursor, Cursor.atEnd, hrest]; rfl
  simp [all?, skipBlanks_eq hrest hc, hstale, hend, hdedent, hnext]

/-- The lexer is inside flow collections, with `depth` others around the innermost one. Nothing in
the innermost one may still turn out to be a key, and nothing around it has to be one. -/
structure Flowing (lexer : Lexer) (depth : Nat) (keys : Bool) (tokens : List Token)
    (rest : List Char) : Prop where
  rest : lexer.cursor.rest = rest
  tokens : lexer.tokens.toList = tokens
  column : 0 < lexer.cursor.column
  candidates : ∃ last : Option KeyCandidate,
    lexer.candidates = none :: (List.replicate depth none ++ [last]) ∧
      ∀ key ∈ last, key.required = false
  indents : lexer.indents = []
  keys : lexer.keyAllowed = keys

theorem inFlow_of_candidates {pending last : Option KeyCandidate}
    (h : lexer.candidates = pending :: (List.replicate depth none ++ [last])) :
    lexer.inFlow = true := by
  simp [inFlow, h]

theorem Flowing.inFlow (h : Flowing lexer depth keys tokens rest) : lexer.inFlow = true := by
  obtain ⟨last, hlast, -⟩ := h.candidates
  exact inFlow_of_candidates hlast

def still? (cursor : Cursor) : Option KeyCandidate → Option (Option KeyCandidate)
  | some key =>
    if key.line < cursor.line || key.index + keyReach < cursor.index then
      if key.required then none else some none
    else some (some key)
  | none => some none

theorem dropStale?_eq (lexer : Lexer) :
    lexer.dropStale? = (lexer.candidates.mapM (still? lexer.cursor)).map fun candidates =>
      { lexer with candidates } := by
  rw [dropStale?, Option.map_eq_bind]
  rfl

theorem mapM_replicate_none (cursor : Cursor) (n : Nat) :
    (List.replicate n none).mapM (still? cursor) = some (List.replicate n none) := by
  induction n with
  | zero => rfl
  | succ n ih => rw [List.replicate_succ, List.mapM_cons, ih]; rfl

theorem still?_of_free {last : Option KeyCandidate} (cursor : Cursor)
    (hlast : ∀ key ∈ last, key.required = false) : ∃ still : Option KeyCandidate,
      (∀ key ∈ still, key.required = false) ∧ still? cursor last = some still := by
  cases last with
  | none => exact ⟨none, nofun, rfl⟩
  | some key =>
    have hfree := hlast key rfl
    by_cases hfar : key.line < cursor.line ∨ key.index + keyReach < cursor.index
    · exact ⟨none, nofun, by simp [still?, hfar, hfree]⟩
    · exact ⟨some key, hlast, by simp [still?, hfar]⟩

/-- A candidate that is near enough is kept. Those of the collections around it are given up where
they are too far away. -/
theorem dropStale?_of_candidates {pending last : Option KeyCandidate}
    (h : lexer.candidates = pending :: (List.replicate depth none ++ [last]))
    (hlast : ∀ key ∈ last, key.required = false)
    (hpending : ∀ key ∈ pending, key.line = lexer.cursor.line ∧
      lexer.cursor.index ≤ key.index + keyReach) :
    ∃ still : Option KeyCandidate, (∀ key ∈ still, key.required = false) ∧
      lexer.dropStale? = some
        { lexer with candidates := pending :: (List.replicate depth none ++ [still]) } := by
  have hkept : still? lexer.cursor pending = some pending := by
    cases pending with
    | none => rfl
    | some key =>
      obtain ⟨hline, hindex⟩ := hpending key rfl
      simp [still?, hline, Nat.not_lt.2 hindex]
  obtain ⟨still, hstill, hlater⟩ := still?_of_free lexer.cursor hlast
  refine ⟨still, hstill, ?_⟩
  rw [dropStale?_eq, h, List.mapM_cons, hkept, List.mapM_append, mapM_replicate_none,
    List.mapM_cons, hlater]
  rfl

theorem Flowing.dropStale? (h : Flowing lexer depth keys tokens rest) : ∃ middle,
    lexer.dropStale? = some middle ∧ middle.cursor = lexer.cursor ∧
      Flowing middle depth keys tokens rest := by
  obtain ⟨last, hcandidates, hlast⟩ := h.candidates
  obtain ⟨still, hstill, hdrop⟩ := dropStale?_of_candidates hcandidates hlast nofun
  exact ⟨_, hdrop, rfl, h.rest, h.tokens, h.column, ⟨still, rfl, hstill⟩, h.indents, h.keys⟩

/-- A step inside flow collections is the token at the place. -/
theorem Flowing.reaches {P : Lexer → Prop} (h : Flowing lexer depth keys tokens (c :: rest))
    (hc : Opens c) (hnext : ∀ middle, Flowing middle depth keys tokens (c :: rest) →
      ∃ later, middle.next? = some later ∧ P later) :
    ∃ later, lexer.Reaches 1 later ∧ P later := by
  obtain ⟨middle, hstale, hcursor, hmiddle⟩ := h.dropStale?
  obtain ⟨later, hlater, hresult⟩ := hnext middle hmiddle
  have hdedent : middle.dedent (some middle.cursor.column) = middle := by
    rw [dedent, if_pos hmiddle.inFlow]
  exact ⟨later, reaches_next h.rest hc hstale hcursor hdedent hlater, hresult⟩

/-- There is nothing to give up inside flow collections. -/
theorem Flowing.dropCandidate? (h : Flowing lexer depth keys tokens rest) :
    lexer.dropCandidate? = some lexer := by
  obtain ⟨last, hcandidates, -⟩ := h.candidates
  rw [Lexer.dropCandidate?, hcandidates]

/-- Where no key may come, what comes is no candidate. -/
theorem Flowing.addCandidate? (h : Flowing lexer depth false tokens rest) :
    lexer.addCandidate? = some lexer := by
  rw [Lexer.addCandidate?, h.keys, if_neg Bool.false_ne_true]

/-- A token is added, and the lexer goes on behind it. -/
theorem Flowing.emits {cursor : Cursor} {behind : List Char}
    (h : Flowing lexer depth keys tokens rest) (token : Token) (allowed : Bool)
    (hrest : cursor.rest = behind) (hcolumn : 0 < cursor.column) :
    Flowing (((lexer.allowKey allowed).emit token).moveTo cursor) depth allowed
      (tokens ++ [token]) behind :=
  ⟨hrest, by simp [emit, moveTo, allowKey, h.tokens], hcolumn, h.candidates, h.indents, rfl⟩

/-- Past one character. -/
theorem Flowing.rest_skip (h : Flowing lexer depth keys tokens (c :: rest)) :
    lexer.cursor.skip.rest = rest := by
  rw [Cursor.skip, h.rest]
  rfl

theorem Flowing.opens (h : Flowing lexer depth false tokens ('\x7b' :: rest)) : ∃ later,
    lexer.Reaches 1 later ∧
      Flowing later (depth + 1) true (tokens ++ [.flowMappingStart]) rest := by
  refine h.reaches ⟨rfl, rfl, by decide, by decide⟩ fun middle hmiddle => ?_
  have hnext : middle.next? = middle.openFlow? .flowMappingStart := by
    simp [next?, Cursor.sees, Cursor.peek?, Cursor.atMarker, Cursor.holdsAt, Cursor.peekAt?,
      hmiddle.rest]
  obtain ⟨last, hcandidates, hlast⟩ := hmiddle.candidates
  let inside : Lexer := { middle with candidates := none :: middle.candidates }
  have hinside : Flowing inside (depth + 1) false tokens ('\x7b' :: rest) :=
    ⟨hmiddle.rest, hmiddle.tokens, hmiddle.column,
      ⟨last, by simp [inside, hcandidates, List.replicate_succ], hlast⟩, hmiddle.indents,
      hmiddle.keys⟩
  refine ⟨_, ?_, hinside.emits .flowMappingStart true hinside.rest_skip (Nat.succ_pos _)⟩
  rw [hnext, openFlow?, hmiddle.addCandidate?]
  rfl

/-- Giving up a candidate that need not be a key. -/
theorem dropCandidate?_of_free {candidate : Option KeyCandidate}
    {others : List (Option KeyCandidate)} (h : lexer.candidates = candidate :: others)
    (hfree : ∀ key ∈ candidate, key.required = false) :
    lexer.dropCandidate? = some { lexer with candidates := none :: others } := by
  obtain ⟨cursor, tokens, indents, candidates, keys⟩ := lexer
  cases h
  cases candidate with
  | none => rfl
  | some key => simp [Lexer.dropCandidate?, hfree key rfl]

theorem next?_close (h : lexer.cursor.rest = '\x7d' :: rest) :
    lexer.next? = lexer.closeFlow? .flowMappingEnd := by
  simp [next?, Cursor.sees, Cursor.peek?, Cursor.atMarker, Cursor.holdsAt, Cursor.peekAt?, h]

theorem Flowing.closes (h : Flowing lexer (depth + 1) keys tokens ('\x7d' :: rest)) :
    ∃ later, lexer.Reaches 1 later ∧
      Flowing later depth false (tokens ++ [.flowMappingEnd]) rest := by
  refine h.reaches ⟨rfl, rfl, by decide, by decide⟩ fun middle hmiddle => ?_
  obtain ⟨last, hcandidates, hlast⟩ := hmiddle.candidates
  let outside : Lexer := { middle with candidates := middle.candidates.drop 1 }
  have houtside : Flowing outside depth keys tokens ('\x7d' :: rest) :=
    ⟨hmiddle.rest, hmiddle.tokens, hmiddle.column,
      ⟨last, by simp [outside, hcandidates, List.replicate_succ], hlast⟩, hmiddle.indents,
      hmiddle.keys⟩
  refine ⟨_, ?_, houtside.emits .flowMappingEnd false houtside.rest_skip (Nat.succ_pos _)⟩
  rw [next?_close hmiddle.rest, closeFlow?, hmiddle.dropCandidate?, Option.bind_eq_bind,
    Option.bind_some, hmiddle.inFlow]
  rfl

theorem Flowing.comma (h : Flowing lexer depth keys tokens (',' :: rest)) : ∃ later,
    lexer.Reaches 1 later ∧ Flowing later depth true (tokens ++ [.flowEntry]) rest := by
  refine h.reaches ⟨rfl, rfl, by decide, by decide⟩ fun middle hmiddle => ?_
  have hnext : middle.next? = middle.flowEntry? := by
    simp [next?, Cursor.sees, Cursor.peek?, Cursor.atMarker, Cursor.holdsAt, Cursor.peekAt?,
      hmiddle.rest]
  refine ⟨_, ?_, hmiddle.emits .flowEntry true hmiddle.rest_skip (Nat.succ_pos _)⟩
  rw [hnext, flowEntry?, hmiddle.dropCandidate?]
  rfl

theorem next?_quote (h : lexer.cursor.rest = '"' :: rest) :
    lexer.next? = lexer.quotedToken? true := by
  simp [next?, Cursor.sees, Cursor.peek?, Cursor.atMarker, Cursor.holdsAt, Cursor.peekAt?, h]

theorem Flowing.text (s : String) (h : Flowing lexer depth false tokens (quote s ++ rest)) :
    ∃ later, lexer.Reaches 1 later ∧
      Flowing later depth false (tokens ++ [.scalar s.toList .quoted]) rest := by
  refine h.reaches ⟨rfl, rfl, by decide, by decide⟩ fun middle hmiddle => ?_
  have hrest : middle.cursor.rest = quote s ++ rest := hmiddle.rest
  refine ⟨_, ?_, hmiddle.emits (.scalar s.toList .quoted) false (Cursor.rest_skipMany hrest)
    (Nat.add_pos_left hmiddle.column _)⟩
  rw [next?_quote hmiddle.rest, quotedToken?, keyLike?, hmiddle.addCandidate?,
    Option.bind_eq_bind, Option.bind_some, quoted?_written s hmiddle.rest]
  rfl

theorem isIndicator_of_isAlphanum {c : Char} (h : c.isAlphanum = true) : isIndicator c = false := by
  have hchecked := of_isNameChar (p := fun c => !c.isAlphanum || !isIndicator c) (by decide +kernel)
    (isNameChar_of_isAlphanum h)
  simpa [h] using hchecked

/-- No token but a plain text begins with a letter or a digit. -/
theorem next?_word (h : lexer.cursor.rest = c :: rest) (hc : c.isAlphanum = true) :
    lexer.next? = lexer.plainToken? := by
  have hindicator := isIndicator_of_isAlphanum hc
  have hmere := isMere_of_isNameChar (isNameChar_of_isAlphanum hc)
  have hdot : c ≠ '.' := by
    rintro rfl
    cases hc
  have hbegins : plainBegins lexer.inFlow lexer.cursor = true := by
    simp [plainBegins, Cursor.holdsAt, Cursor.peekAt?, h, hindicator, hmere.blank]
  simp only [isIndicator, Bool.or_eq_false_iff] at hindicator
  simp at hindicator
  simp [next?, Cursor.sees, Cursor.peek?, Cursor.atMarker, Cursor.holdsAt, Cursor.peekAt?, h,
    hbegins, hindicator, hdot]

theorem Flowing.word {cs : List Char} (hne : cs ≠ []) (hword : ∀ c ∈ cs, c.isAlphanum = true)
    (h : Flowing lexer depth false tokens (cs ++ ',' :: rest)) : ∃ later,
    lexer.Reaches 1 later ∧
      Flowing later depth false (tokens ++ [.scalar cs .plain]) (',' :: rest) := by
  obtain ⟨c, cs, rfl⟩ := List.exists_cons_of_ne_nil hne
  have hc := hword c List.mem_cons_self
  have hmere := isMere_of_isNameChar (isNameChar_of_isAlphanum hc)
  have horder : c ≠ '\ufeff' := by
    rintro rfl
    cases hc
  refine h.reaches ⟨hmere.blank, hmere.line, hmere.number, horder⟩ fun middle hmiddle => ?_
  have hplain := plain?_written hne hword hmiddle.column hmiddle.rest middle.outer
  have hrest : middle.cursor.rest = (c :: cs) ++ ',' :: rest := hmiddle.rest
  refine ⟨_, ?_, hmiddle.emits (.scalar (c :: cs) .plain) false (Cursor.rest_skipMany hrest)
    (Nat.add_pos_left hmiddle.column _)⟩
  rw [next?_word hmiddle.rest hc, plainToken?, hmiddle.addCandidate?, Option.bind_eq_bind,
    Option.bind_some, hmiddle.inFlow, hplain]
  rfl

/-- The lexer is behind a text that becomes a key if a colon follows. -/
structure Named (lexer : Lexer) (depth : Nat) (before : List Token) (name : Token)
    (rest : List Char) : Prop where
  rest : lexer.cursor.rest = rest
  tokens : lexer.tokens.toList = before ++ [name]
  column : 0 < lexer.cursor.column
  candidates : ∃ (key : KeyCandidate) (last : Option KeyCandidate),
    lexer.candidates = some key :: (List.replicate depth none ++ [last]) ∧
      (∀ key ∈ last, key.required = false) ∧ key.position = before.length ∧
      key.line = lexer.cursor.line ∧ lexer.cursor.index ≤ key.index + keyReach
  indents : lexer.indents = []

theorem Flowing.names (s : String) (h : Flowing lexer depth true tokens (quote s ++ rest))
    (hshort : (quote s).length ≤ keyReach) : ∃ later,
    lexer.Reaches 1 later ∧ Named later depth tokens (.scalar s.toList .quoted) rest := by
  refine h.reaches ⟨rfl, rfl, by decide, by decide⟩ fun middle hmiddle => ?_
  obtain ⟨last, hcandidates, hlast⟩ := hmiddle.candidates
  have hrest : middle.cursor.rest = quote s ++ rest := hmiddle.rest
  have hposition : middle.tokens.size = tokens.length := by
    rw [← hmiddle.tokens, Array.length_toList]
  let key : KeyCandidate :=
    { required := !middle.inFlow && middle.indents.head? == some middle.cursor.column
      position := middle.tokens.size
      line := middle.cursor.line
      column := middle.cursor.column
      index := middle.cursor.index }
  let candidates := some key :: middle.candidates.drop 1
  have hadd : middle.addCandidate? = some { middle with candidates } := by
    rw [Lexer.addCandidate?, if_pos hmiddle.keys, hmiddle.dropCandidate?]
    rfl
  have hnext : middle.next? =
      some ((({ middle with candidates }.allowKey false).emit (.scalar s.toList .quoted)).moveTo
        (middle.cursor.skipMany (quote s).length)) := by
    rw [next?_quote hmiddle.rest, quotedToken?, keyLike?, hadd, Option.bind_eq_bind,
      Option.bind_some, quoted?_written s hmiddle.rest]
    rfl
  refine ⟨_, hnext, ⟨Cursor.rest_skipMany hrest, ?_, Nat.add_pos_left hmiddle.column _, ?_,
    hmiddle.indents⟩⟩
  · simp [emit, moveTo, allowKey, hmiddle.tokens]
  · refine ⟨key, last, ?_, hlast, hposition, rfl, Nat.add_le_add_left hshort _⟩
    simp [emit, moveTo, allowKey, candidates, hcandidates]

theorem next?_colon (h : lexer.cursor.rest = ':' :: rest) (hflow : lexer.inFlow = true) :
    lexer.next? = lexer.valueMark? := by
  simp [next?, Cursor.sees, Cursor.peek?, Cursor.atMarker, Cursor.holdsAt, Cursor.peekAt?, hflow, h]

theorem Named.colon {before : List Token} {name : Token}
    (h : Named lexer depth before name (':' :: rest)) : ∃ later, lexer.Reaches 1 later ∧
      Flowing later depth false (before ++ [.key, name, .value]) rest := by
  obtain ⟨key, last, hcandidates, hlast, hposition, hline, hindex⟩ := h.candidates
  obtain ⟨still, hstill, hdrop⟩ := dropStale?_of_candidates hcandidates hlast (by
    rintro _ ⟨⟩
    exact ⟨hline, hindex⟩)
  let middle : Lexer :=
    { lexer with candidates := some key :: (List.replicate depth none ++ [still]) }
  have hflow : middle.inFlow = true := inFlow_of_candidates rfl
  have hnext : middle.next? = middle.valueMark? := next?_colon h.rest hflow
  have hdedent : middle.dedent (some middle.cursor.column) = middle := by rw [dedent, if_pos hflow]
  let marked : Lexer := middle.emitAt key.position .key
  have hindent : marked.indent key.column key.position .blockMappingStart = marked := by
    have hmarked : marked.inFlow = true := hflow
    rw [indent, hmarked]
    rfl
  have htokens : marked.tokens.toList = before ++ [.key, name] := by
    have hsize : lexer.tokens.size = before.length + 1 := by
      rw [← Array.length_toList, h.tokens, List.length_append, List.length_singleton]
    simp [marked, emitAt, middle, hposition, h.tokens, hsize]
  have hvalue : middle.valueMark? = some
      ((({ marked with candidates := none :: (List.replicate depth none ++ [still]) }.allowKey
        false).emit .value).moveTo marked.cursor.skip) := by
    rw [valueMark?]
    change some ((({ marked.indent key.column key.position .blockMappingStart with
      candidates := none :: (List.replicate depth none ++ [still]) }.allowKey false).emit
        .value).moveTo (marked.indent key.column key.position .blockMappingStart).cursor.skip) = _
    rw [hindent]
  refine ⟨_, reaches_next h.rest ⟨rfl, rfl, by decide, by decide⟩ hdrop rfl hdedent
    (hnext.trans hvalue), ?_⟩
  exact ⟨by simp [emit, moveTo, allowKey, marked, emitAt, middle, Cursor.skip, h.rest],
    by simp [emit, moveTo, allowKey, htokens], Nat.succ_pos _, ⟨still, rfl, hstill⟩, h.indents, rfl⟩

/-- Collections have no indentation inside flow collections. -/
theorem Flowing.indent (h : Flowing lexer depth keys tokens rest) (column position : Nat)
    (token : Token) : lexer.indent column position token = lexer := by
  rw [Lexer.indent, h.inFlow]
  rfl

/-- A mark makes a key of what follows it. -/
theorem Flowing.mark (h : Flowing lexer depth true tokens ('?' :: rest)) : ∃ later,
    lexer.Reaches 1 later ∧ Flowing later depth false (tokens ++ [.key]) rest := by
  refine h.reaches ⟨rfl, rfl, by decide, by decide⟩ fun middle hmiddle => ?_
  have hnext : middle.next? = middle.keyMark? := by
    simp [next?, Cursor.sees, Cursor.peek?, Cursor.atMarker, Cursor.holdsAt, Cursor.peekAt?,
      hmiddle.inFlow, hmiddle.rest]
  have hkey : middle.keyMark? =
      some (((middle.allowKey false).emit .key).moveTo middle.cursor.skip) := by
    simp [keyMark?, hmiddle.inFlow, hmiddle.indent, hmiddle.dropCandidate?]
  exact ⟨_, hnext.trans hkey, hmiddle.emits .key false hmiddle.rest_skip (Nat.succ_pos _)⟩

/-- After a key with a mark, a colon makes a key of nothing. -/
theorem Flowing.colon (h : Flowing lexer depth false tokens (':' :: rest)) : ∃ later,
    lexer.Reaches 1 later ∧ Flowing later depth false (tokens ++ [.value]) rest := by
  refine h.reaches ⟨rfl, rfl, by decide, by decide⟩ fun middle hmiddle => ?_
  obtain ⟨last, hcandidates, -⟩ := hmiddle.candidates
  have hvalue : middle.valueMark? =
      some (((middle.allowKey false).emit .value).moveTo middle.cursor.skip) := by
    rw [valueMark?, hcandidates]
    simp [hmiddle.inFlow, hmiddle.indent]
  exact ⟨_, (next?_colon hmiddle.rest hmiddle.inFlow).trans hvalue,
    hmiddle.emits .value false hmiddle.rest_skip (Nat.succ_pos _)⟩

/-- A space in front of a token makes no difference. -/
theorem Flowing.space (h : Flowing lexer depth keys tokens (' ' :: c :: rest)) (hc : Opens c) :
    ∃ moved, Flowing moved depth keys tokens (c :: rest) ∧
      ∀ n later, moved.Reaches (n + 1) later → lexer.Reaches (n + 1) later := by
  have hskip : lexer.cursor.skip.rest = c :: rest := by rw [Cursor.skip, h.rest]; rfl
  have horder : lexer.cursor.sees '\ufeff' = false := by
    simp [Cursor.sees, Cursor.peek?, h.rest]
  have hcursor : (lexer.cursor.skipWhile fun c =>
      c == ' ' || ((lexer.inFlow || !lexer.keyAllowed) && c == '\t')) = lexer.cursor.skip := by
    rw [Cursor.skipWhile, h.rest, List.takeWhile_cons, List.takeWhile_cons, hc.not_blank,
      if_neg Bool.false_ne_true]
    rfl
  let moved : Lexer := lexer.moveTo lexer.cursor.skip
  have hblanks (fuel : Nat) : lexer.skipBlanks (fuel + 1) = moved :=
    skipBlanks_of_skipWhile horder hcursor hskip hc fuel
  have hmoved (fuel : Nat) : moved.skipBlanks (fuel + 1) = moved := skipBlanks_eq hskip hc fuel
  refine ⟨moved, ⟨hskip, h.tokens, Nat.succ_pos _, h.candidates, h.indents, h.keys⟩,
    fun n later hlater fuel => ?_⟩
  rw [← hlater fuel, ← Nat.add_assoc, all?, all?, hblanks, hmoved]

theorem Flowing.name (s : String)
    (h : Flowing lexer depth true tokens (writeName s ++ ':' :: rest)) :
    ∃ later n, n ≤ (writeName s).length + 1 ∧ lexer.Reaches n later ∧
      Flowing later depth false (tokens ++ [.key, .scalar s.toList .quoted, .value]) rest := by
  by_cases hshort : (quote s).length ≤ keyReach
  · have hname : writeName s = quote s := if_pos hshort
    rw [hname] at h ⊢
    obtain ⟨named, hnames, hnamed⟩ := h.names s hshort
    obtain ⟨later, hcolon, hlater⟩ := hnamed.colon
    exact ⟨later, _, by simp [quote], hnames.trans hcolon, hlater⟩
  · have hname : writeName s = '?' :: ' ' :: quote s := if_neg hshort
    rw [hname] at h ⊢
    obtain ⟨marked, hmark, hmarked⟩ := h.mark
    obtain ⟨moved, hmoved, hspace⟩ := hmarked.space ⟨rfl, rfl, by decide, by decide⟩
    obtain ⟨named, htext, hnamed⟩ := hmoved.text s
    obtain ⟨later, hcolon, hlater⟩ := hnamed.colon
    exact ⟨later, _, by simp [quote], (hmark.trans (hspace 0 _ htext)).trans hcolon,
      by simpa using hlater⟩

mutual
/-- The tokens of a tree are cut off, whatever comes after it, in no more steps than it has
characters. -/
theorem Flowing.tree (tree : Tree) (hfits : tree.Fits) {lexer : Lexer} {depth : Nat}
    {tokens : List Token} {rest : List Char}
    (h : Flowing lexer depth false tokens (tree.write ++ ',' :: rest)) :
    ∃ later n, n ≤ tree.write.length ∧ lexer.Reaches n later ∧
      Flowing later depth false (tokens ++ tree.tokens) (',' :: rest) := by
  match tree with
  | .word cs =>
    obtain ⟨hne, hword⟩ := hfits
    obtain ⟨later, hlater, hflow⟩ := h.word hne hword
    exact ⟨later, 1, List.length_pos_iff.2 hne, hlater, hflow⟩
  | .text s =>
    obtain ⟨later, hlater, hflow⟩ := h.text s
    exact ⟨later, 1, Nat.succ_pos _, hlater, hflow⟩
  | .mapping entries =>
    simp only [Tree.write, List.cons_append, List.append_assoc] at h
    obtain ⟨inside, hopens, hinside⟩ := h.opens
    obtain ⟨ending, n, hn, hentries, hending⟩ := hinside.entries entries hfits
    obtain ⟨later, hcloses, hlater⟩ := hending.closes
    refine ⟨later, _, ?_, (hopens.trans hentries).trans hcloses, ?_⟩
    · simp [Tree.write]
      omega
    · simpa [Tree.tokens] using hlater

theorem Flowing.entries (entries : List (String × Tree)) (hfits : Tree.EntriesFit entries)
    {lexer : Lexer} {depth : Nat} {tokens : List Token} {rest : List Char}
    (h : Flowing lexer depth true tokens (Tree.writeEntries entries ++ '\x7d' :: rest)) :
    ∃ later n, n ≤ (Tree.writeEntries entries).length ∧ lexer.Reaches n later ∧
      Flowing later depth true (tokens ++ Tree.entryTokens entries) ('\x7d' :: rest) := by
  match entries with
  | [] =>
    exact ⟨lexer, 0, Nat.le_refl 0, fun _ => rfl,
      by simpa [Tree.entryTokens, Tree.writeEntries] using h⟩
  | (name, value) :: entries =>
    obtain ⟨hvalue, hentries⟩ := hfits
    simp only [Tree.writeEntries, List.append_assoc, List.cons_append] at h
    obtain ⟨behind, k, hk, hname, hbehind⟩ := h.name name
    obtain ⟨valued, m, hm, hvalues, hvalued⟩ := hbehind.tree value hvalue
    obtain ⟨next, hcomma, hnext⟩ := hvalued.comma
    obtain ⟨later, n, hn, hrest, hlater⟩ := hnext.entries entries hentries
    refine ⟨later, _, ?_, ((hname.trans hvalues).trans hcomma).trans hrest, ?_⟩
    · simp [Tree.writeEntries]
      omega
    · simpa [Tree.entryTokens] using hlater
end

/-- The outermost collection is a key candidate, which no colon follows. -/
theorem reaches_inside (more : List Char) :
    ∃ inside, Reaches { cursor := { rest := '\x7b' :: more } } 1 inside ∧
      Flowing inside 0 true [.flowMappingStart] more := by
  let lexer : Lexer := { cursor := { rest := '\x7b' :: more } }
  have hnext : lexer.next? = lexer.openFlow? .flowMappingStart := by
    simp [next?, Cursor.sees, Cursor.peek?, Cursor.atMarker, Cursor.holdsAt, Cursor.peekAt?, lexer]
  have hreaches (later : Lexer) (h : lexer.openFlow? .flowMappingStart = some later) :
      lexer.Reaches 1 later :=
    reaches_next rfl ⟨rfl, rfl, by decide, by decide⟩ rfl rfl rfl (hnext.trans h)
  refine ⟨_, hreaches _ rfl, rfl, rfl, Nat.succ_pos _, ⟨_, rfl, ?_⟩, rfl, rfl⟩
  rintro _ ⟨⟩
  rfl

theorem all?_of_atEnd {last : Option KeyCandidate} (hrest : lexer.cursor.rest = [])
    (hcandidates : lexer.candidates = [last]) (hlast : ∀ key ∈ last, key.required = false)
    (hindents : lexer.indents = []) (fuel : Nat) :
    lexer.all? (fuel + 1) = some lexer.tokens.toList := by
  obtain ⟨still, hstill, hlater⟩ := still?_of_free lexer.cursor hlast
  have hskip (test : Char → Bool) : lexer.cursor.skipWhile test = lexer.cursor := by
    rw [Cursor.skipWhile, hrest]
    rfl
  have hblanks : lexer.skipBlanks (lexer.cursor.rest.length + 1) = lexer := by
    simp [skipBlanks, Cursor.sees, Cursor.peek?, Cursor.holdsAt, Cursor.peekAt?, hskip, hrest,
      moveTo]
  have hstale : lexer.dropStale? = some { lexer with candidates := [still] } := by
    rw [dropStale?_eq, hcandidates, List.mapM_cons, hlater]
    rfl
  have hend : lexer.cursor.atEnd = true := by rw [Cursor.atEnd, hrest]; rfl
  have hdedent : dedent { lexer with candidates := [still] } none =
      { lexer with candidates := [still] } := by
    simp [dedent, inFlow, hindents]
  have hdrop : Lexer.dropCandidate? { lexer with candidates := [still] } =
      some { lexer with candidates := [none] } := dropCandidate?_of_free rfl hstill
  simp [all?, hblanks, hstale, hend, hdedent, hdrop]

theorem Flowing.ends (h : Flowing lexer 0 keys tokens ['\x7d']) (fuel : Nat) :
    lexer.all? (fuel + 2) = some (tokens ++ [.flowMappingEnd]) := by
  obtain ⟨later, hreaches, hrest, htokens, hindents, last, hcandidates, hlast⟩ : ∃ later,
      lexer.Reaches 1 later ∧ later.cursor.rest = [] ∧
        later.tokens.toList = tokens ++ [.flowMappingEnd] ∧ later.indents = [] ∧
        ∃ last : Option KeyCandidate, later.candidates = [last] ∧
          ∀ key ∈ last, key.required = false := by
    refine h.reaches ⟨rfl, rfl, by decide, by decide⟩ fun middle hmiddle => ?_
    obtain ⟨last, hcandidates, hlast⟩ := hmiddle.candidates
    refine ⟨_, by rw [next?_close hmiddle.rest, closeFlow?, hmiddle.dropCandidate?]; rfl, ?_⟩
    exact ⟨by simp [emit, moveTo, allowKey, Cursor.skip, hmiddle.rest],
      by simp [emit, moveTo, allowKey, hmiddle.tokens], hmiddle.indents, last,
      by simp [emit, moveTo, allowKey, hmiddle.inFlow, hcandidates], hlast⟩
  rw [show fuel + 2 = fuel + 1 + 1 from rfl, hreaches,
    all?_of_atEnd hrest hcandidates hlast hindents, htokens]

end Lexer

/-! ### Whole texts -/

theorem tokens?_write {entries : List (String × Tree)} (hfits : Tree.EntriesFit entries) :
    tokens? (Tree.mapping entries).write = some (Tree.mapping entries).tokens := by
  have hallowed : (Tree.mapping entries).write.all isAllowed = true :=
    List.all_eq_true.2 (Tree.isAllowed_write (.mapping entries) hfits)
  obtain ⟨inside, hopens, hinside⟩ := Lexer.reaches_inside (Tree.writeEntries entries ++ ['\x7d'])
  obtain ⟨ending, n, hn, hentries, hending⟩ := hinside.entries entries hfits
  have hfuel : (Tree.mapping entries).write.length + 2 =
      (Tree.writeEntries entries).length - n + 1 + 2 + (n + 1) := by
    simp [Tree.write]
    omega
  rw [tokens?, if_pos hallowed, hfuel, Tree.write, hopens.trans hentries, hending.ends, Tree.tokens]
  rfl

/-! ### Reading again -/

section Reading

variable {agreed : TagPrefixes} {place : Place} {anchors : Anchors} {more : List Token} {fuel : Nat}

theorem readNode_scalar (cs : List Char) (style : ScalarStyle) :
    readNode agreed place anchors (.scalar cs style :: more) (fuel + 2) =
      some (.scalar none style (String.ofList cs), anchors, more) := by
  simp [readNode, readContent, properties]

theorem readNode_mapping : readNode agreed place anchors (.flowMappingStart :: more) (fuel + 2) =
    readFlowEntries agreed true [] anchors more fuel := by
  cases hread : readFlowEntries agreed true [] anchors more fuel <;>
    simp [readNode, readContent, properties, hread]

theorem readFlowEntry_written {name : String} {value : List Token} {node : Node}
    (entries : List (Node × Node))
    (hvalue : readNode agreed .flow anchors (value ++ .flowEntry :: more) fuel =
      some (node, anchors, .flowEntry :: more))
    (hfuel : 2 ≤ fuel) (hhead : lacksFlowValue (value ++ .flowEntry :: more) = false) :
    readFlowEntry agreed entries anchors
      (.key :: .scalar name.toList .quoted :: .value :: (value ++ .flowEntry :: more)) (fuel + 1) =
    readFlowEntries agreed false (entries ++ [(.scalar none .quoted name, node)]) anchors
      (.flowEntry :: more) fuel := by
  obtain ⟨fuel, rfl⟩ := Nat.exists_eq_add_of_le' hfuel
  simp [readFlowEntry, lacksFlowKey, readNode_scalar, hhead, hvalue]

/-- The first entry is read as one that comes after a comma. -/
theorem readFlowEntries_first (entries : List (String × Tree)) (read : List (Node × Node)) :
    readFlowEntries agreed true read anchors
        (Tree.entryTokens entries ++ .flowMappingEnd :: more) (fuel + 1) =
      readFlowEntries agreed false read anchors
        (.flowEntry :: (Tree.entryTokens entries ++ .flowMappingEnd :: more)) (fuel + 1) := by
  cases entries with
  | nil => simp [readFlowEntries, Tree.entryTokens]
  | cons entry entries => simp [readFlowEntries, Tree.entryTokens]

theorem lacksFlowValue_tokens (tree : Tree) : lacksFlowValue (tree.tokens ++ more) = false := by
  cases tree <;> rfl

end Reading

mutual
/-- The tokens of a tree are read as the tree, whatever comes after them. -/
theorem readNode_tokens (tree : Tree) {agreed : TagPrefixes} {place : Place} {anchors : Anchors}
    {more : List Token} {fuel : Nat} (hfuel : 2 * tree.tokens.length ≤ fuel) :
    readNode agreed place anchors (tree.tokens ++ more) fuel = some (tree.node, anchors, more) := by
  match tree with
  | .word cs =>
    obtain ⟨fuel, rfl⟩ := Nat.exists_eq_add_of_le' hfuel
    exact readNode_scalar cs .plain
  | .text s =>
    obtain ⟨fuel, rfl⟩ := Nat.exists_eq_add_of_le' hfuel
    have hread : readNode agreed place anchors (.scalar s.toList .quoted :: more) (fuel + 2) =
        some (.scalar none .quoted (String.ofList s.toList), anchors, more) := readNode_scalar ..
    rwa [String.ofList_toList] at hread
  | .mapping entries =>
    rw [Tree.tokens, List.length_cons, List.length_append, List.length_singleton] at hfuel
    obtain ⟨fuel, rfl⟩ := Nat.exists_eq_add_of_le' (by omega : 3 ≤ fuel)
    rw [Tree.tokens, List.cons_append, List.append_assoc, List.singleton_append, readNode_mapping,
      readFlowEntries_first, readFlowEntries_tokens entries [] (by omega)]
    rfl

theorem readFlowEntries_tokens (entries : List (String × Tree)) (read : List (Node × Node))
    {agreed : TagPrefixes} {anchors : Anchors} {more : List Token} {fuel : Nat}
    (hfuel : 2 * (Tree.entryTokens entries).length < fuel) :
    readFlowEntries agreed false read anchors
        (.flowEntry :: (Tree.entryTokens entries ++ .flowMappingEnd :: more)) fuel =
      some (.mapping (read ++ Tree.entryNodes entries), anchors, more) := by
  match entries with
  | [] =>
    obtain ⟨fuel, rfl⟩ := Nat.exists_eq_add_of_lt hfuel
    simp [readFlowEntries, Tree.entryTokens, Tree.entryNodes]
  | (name, value) :: entries =>
    simp only [Tree.entryTokens, List.length_cons, List.length_append] at hfuel
    obtain ⟨fuel, rfl⟩ := Nat.exists_eq_add_of_le' (by omega : 2 ≤ fuel)
    have hvalue (behind : List Token) : readNode agreed .flow anchors
        (value.tokens ++ behind) fuel = some (value.node, anchors, behind) :=
      readNode_tokens value (by omega)
    simp only [Tree.entryTokens, List.cons_append, List.append_assoc]
    rw [readFlowEntries,
      readFlowEntry_written read (hvalue _) (by omega) (lacksFlowValue_tokens value),
      readFlowEntries_tokens entries _ (by omega)]
    · simp [Tree.entryNodes]
    · exact nofun
end

/-- What is written in flow style is read as it was. -/
theorem parse?_write {entries : List (String × Tree)} (hfits : Tree.EntriesFit entries) :
    parse? (String.ofList (Tree.mapping entries).write) =
      some { root := some (Tree.mapping entries).node } := by
  have hread : readNode defaultPrefixes .block {} ((Tree.mapping entries).tokens ++ [])
      (4 * (Tree.mapping entries).tokens.length + 4) =
        some ((Tree.mapping entries).node, {}, []) := readNode_tokens _ (by omega)
  rw [List.append_nil] at hread
  rw [parse?, String.toList_ofList, tokens?_write hfits]
  simp [Tree.tokens] at hread ⊢
  simp [hread, isOver]

end BrowserReplay.Yaml
