import BrowserReplay.Url.Parser
import BrowserReplay.Proofs.ByteOrder
import BrowserReplay.Proofs.UrlText
import Mathlib.Data.List.TakeWhile

/-!
# The URLs that are read

Whatever text is read as a URL on its own, the parts of that URL hold no character that would end
them (`formed_of_parse`).
-/

namespace BrowserReplay.Url

/-! ### Percent notation -/

def percentAlphabet : List Char := "%0123456789ABCDEF".toList

theorem hexDigit_mem : ∀ n < 16, hexDigit n ∈ percentAlphabet := by decide

theorem encodeChar_lt_256 (c : Char) : ∀ b ∈ Text.Utf8.encodeChar c, b < 256 := by
  have hbound : c.toNat < 0x110000 := by
    rcases c.valid with h | ⟨-, h⟩
    · exact Nat.lt_trans h (by decide)
    · exact h
  simp only [Text.Utf8.encodeChar]
  split_ifs <;> simp <;> omega

/-- A character in a component is one that the component holds, or one of percent notation. -/
theorem mem_encode {component : Component} {cs : List Char} {c : Char}
    (h : c ∈ encode component cs) :
    (c ∈ cs ∧ component.holds c = true) ∨ c ∈ percentAlphabet := by
  obtain ⟨d, hd, hc⟩ := List.mem_flatMap.1 h
  rw [encodeChar] at hc
  split at hc
  next hholds =>
    obtain rfl := List.mem_singleton.1 hc
    exact .inl ⟨hd, hholds⟩
  next =>
    obtain ⟨b, hb, hbyte⟩ := List.mem_flatMap.1 hc
    have hsmall := encodeChar_lt_256 d b hb
    have hpercent : '%' ∈ percentAlphabet := by decide
    have hhigh := hexDigit_mem (b / 16) (by omega)
    have hlow := hexDigit_mem (b % 16) (by omega)
    simp only [percentByte, List.mem_cons, List.not_mem_nil, or_false] at hbyte
    rcases hbyte with rfl | rfl | rfl
    · exact .inr hpercent
    · exact .inr hhigh
    · exact .inr hlow

variable {component : Component} {marks cs : List Char}

/-- Marks that are no part of percent notation stand in a component only as they stood before. -/
theorem lacks_encode (hmarks : Lacks percentAlphabet marks) (h : Lacks marks cs) :
    Lacks marks (encode component cs) := by
  intro c hc hmark
  rcases mem_encode hc with ⟨hcs, -⟩ | hpercent
  · exact h c hcs hmark
  · exact hmarks c hmark hpercent

/-- Characters that a component does not hold as they are do not stand in it. -/
theorem lacks_reserved (hmarks : Lacks percentAlphabet marks)
    (hreserved : marks ⊆ component.reserved) : Lacks marks (encode component cs) := by
  intro c hc hmark
  rcases mem_encode hc with ⟨-, hholds⟩ | hpercent
  · simp [Component.holds, hreserved hmark] at hholds
  · exact hmarks c hmark hpercent

/-! ### Paths -/

/-- A slash ends no path. -/
theorem lacks_slash : Lacks ['?', '#'] ['/'] := by decide

/-- A path that a slash closes: it begins and ends with a slash, and its first segment is not a
single dot. -/
structure IsClosed (path : List Char) : Prop where
  starts : path.head? = some '/'
  ends : path.getLast? = some '/'
  undotted : ¬ ['/', '.', '/'] <+: path

/-- The part of a closed path up to one of its slashes is closed. -/
theorem IsClosed.of_prefix {path before : List Char} (h : IsClosed path) (hfront : before <+: path)
    (hends : before.getLast? = some '/') : IsClosed before := by
  refine ⟨?_, hends, fun hdot => h.undotted (hdot.trans hfront)⟩
  obtain ⟨rest, rfl⟩ := hfront
  have hstarts := h.starts
  cases before with
  | nil => cases hends
  | cons c before => exact hstarts

theorem IsClosed.head?_append {path : List Char} (h : IsClosed path) (rest : List Char) :
    (path ++ rest).head? = some '/' := by
  rw [List.head?_append, h.starts, Option.some_or]

theorem prefix_popSegment (kind : SchemeKind) (path : List Char) :
    popSegment kind path <+: path := by
  rw [popSegment]
  split
  · exact List.prefix_rfl
  · have hsuffix : path.reverse.dropWhile (· ≠ '/') <:+ path.reverse := List.dropWhile_suffix _
    simpa using List.reverse_prefix.2 hsuffix

theorem prefix_shorten (kind : SchemeKind) (path : List Char) : shorten kind path <+: path := by
  have hpath : (if path.getLast? = some '/' && closesSegment path then path.dropLast else path) <+:
      path := by
    split
    · exact List.dropLast_prefix path
    · exact List.prefix_rfl
  simp only [shorten]
  generalize (if path.getLast? = some '/' && closesSegment path then path.dropLast else path) =
    shorter at hpath ⊢
  split
  · exact hpath
  · exact (prefix_popSegment kind shorter).trans hpath

/-- Where no drive letters count, a path is cut after a slash. -/
theorem getLast?_popSegment {kind : SchemeKind} (hkind : kind ≠ .file) {path : List Char}
    (h : '/' ∈ path) : (popSegment kind path).getLast? = some '/' := by
  have hfile : (decide (kind = .file)) = false := decide_eq_false hkind
  rw [popSegment]
  simp only [hfile, Bool.false_and, Bool.false_eq_true, if_false, List.getLast?_reverse]
  have hslash := List.head?_dropWhile_not (fun c => decide (c ≠ '/')) path.reverse
  cases hhead : (path.reverse.dropWhile fun c => decide (c ≠ '/')).head? with
  | none =>
    rw [List.head?_eq_none_iff, List.dropWhile_eq_nil_iff] at hhead
    simpa using hhead '/' (List.mem_reverse.2 h)
  | some c =>
    rw [hhead] at hslash
    simpa using hslash

theorem getLast?_shorten {kind : SchemeKind} (hkind : kind ≠ .file) {path : List Char}
    (h : '/' ∈ path) : (shorten kind path).getLast? = some '/' := by
  have hfile : (decide (kind = .file)) = false := decide_eq_false hkind
  rw [shorten]
  simp only [hfile, Bool.false_and, Bool.false_eq_true, if_false]
  refine getLast?_popSegment hkind ?_
  split
  next hcloses =>
    -- The slash at the end is taken away only if another one stands before it.
    rw [Bool.and_eq_true, closesSegment] at hcloses
    by_contra hnone
    simp [hnone] at hcloses
  next => exact h

namespace PathReading

/-- A path of a scheme without drive letters while it is read: a closed path, and a segment. -/
structure Rooted (reading : PathReading) (closed segment : List Char) : Prop where
  text : reading.text = closed ++ segment
  start : reading.start = closed.length
  closed : IsClosed closed
  segment : '/' ∉ segment

variable {kind : SchemeKind} {reading : PathReading} {closed segment : List Char}

/-- A segment that is no single dot makes none after the first slash, whether or not it is
closed. -/
theorem Rooted.undotted_append (h : Rooted reading closed segment)
    (hsingle : ¬ isSingleDot segment = true) {mark : List Char} (hmark : mark = [] ∨ mark = ['/']) :
    ¬ ['/', '.', '/'] <+: closed ++ (segment ++ mark) := by
  have hstarts := h.closed.starts
  have hends := h.closed.ends
  have hundotted := h.closed.undotted
  intro hdot
  -- The first three characters are those of the closed path, unless that is a mere slash.
  rcases closed with _ | ⟨first, _ | ⟨second, _ | ⟨third, rest⟩⟩⟩
  · cases hstarts
  · cases hstarts
    have hsegment : ['.', '/'] <+: segment ++ mark := (List.cons_prefix_cons.1 hdot).2
    rcases segment with _ | ⟨c, _ | ⟨d, segment⟩⟩
    · rcases hmark with rfl | rfl <;> simp at hsegment
    · obtain ⟨rfl, -⟩ := List.cons_prefix_cons.1 hsegment
      exact hsingle rfl
    · obtain ⟨rfl, hslash⟩ := List.cons_prefix_cons.1 hsegment
      obtain ⟨rfl, -⟩ := List.cons_prefix_cons.1 hslash
      exact h.segment (List.mem_cons_of_mem _ List.mem_cons_self)
  · have hsecond : second = '/' := Option.some.inj hends
    obtain ⟨hdotted, -⟩ := List.cons_prefix_cons.1 (List.cons_prefix_cons.1 hdot).2
    rw [hsecond] at hdotted
    exact absurd hdotted (by decide)
  · refine hundotted ?_
    simpa using hdot

/-- The slash in front of a segment belongs to the path that is closed already. -/
theorem Rooted.text_close (hkind : kind ≠ .file) (h : Rooted reading closed segment)
    (slash : Bool) :
    (reading.close kind slash).text =
      if isDoubleDot segment then shorten kind closed
      else if isSingleDot segment then closed
      else closed ++ segment ++ if slash then ['/'] else [] := by
  have hfile : decide (kind = .file) = false := decide_eq_false hkind
  have hslash : '/' ∈ closed := List.mem_of_getLast? h.closed.ends
  simp only [PathReading.close, h.text, h.start, List.take_left, List.drop_left, h.closed.ends,
    getLast?_shorten hkind hslash, hfile, Bool.false_and, Bool.false_eq_true, if_false, if_true,
    ite_self]

/-- A segment is closed by a slash, or left open at the end of the path. Either way the path begins
with a slash, and with no single dot after it. -/
theorem Rooted.close (hkind : kind ≠ .file) (h : Rooted reading closed segment) (slash : Bool) :
    let text := (reading.close kind slash).text
    text.head? = some '/' ∧ ¬ ['/', '.', '/'] <+: text ∧
      (slash = true → text.getLast? = some '/') := by
  intro text
  have hslash : '/' ∈ closed := List.mem_of_getLast? h.closed.ends
  have htext : text = _ := h.text_close hkind slash
  split_ifs at htext with hdouble hsingle hends
  · have hshort := h.closed.of_prefix (prefix_shorten kind closed) (getLast?_shorten hkind hslash)
    rw [htext]
    exact ⟨hshort.starts, hshort.undotted, fun _ => hshort.ends⟩
  · rw [htext]
    exact ⟨h.closed.starts, h.closed.undotted, fun _ => h.closed.ends⟩
  · rw [htext, List.append_assoc]
    exact ⟨h.closed.head?_append _, h.undotted_append hsingle (.inr rfl), fun _ => by simp⟩
  · rw [htext, List.append_assoc]
    exact ⟨h.closed.head?_append _, h.undotted_append hsingle (.inl rfl), fun h => absurd h hends⟩

theorem Rooted.next (hkind : kind ≠ .file) (h : Rooted reading closed segment) :
    Rooted (reading.close kind true) (reading.close kind true).text [] := by
  obtain ⟨hstarts, hundotted, hends⟩ := h.close hkind true
  exact ⟨(List.append_nil _).symm, rfl, ⟨hstarts, hends rfl, hundotted⟩, List.not_mem_nil⟩

theorem Rooted.push (hkind : kind ≠ .file) (h : Rooted reading closed segment) {c : Char}
    (hc : c ≠ '/') : Rooted (reading.push kind c) closed (segment ++ encodeChar .path c) := by
  have hfile : decide (kind = .file) = false := decide_eq_false hkind
  refine ⟨?_, ?_, h.closed, ?_⟩
  · simp [PathReading.push, hfile, h.text]
  · simp [PathReading.push, hfile, h.start]
  · rw [List.mem_append]
    rintro (hmem | hmem)
    · exact h.segment hmem
    · have hlacks : Lacks ['/'] (encode .path [c]) :=
        lacks_encode (by decide) (by simpa [Lacks] using hc)
      rw [encode, List.flatMap_singleton] at hlacks
      exact hlacks '/' hmem (List.mem_singleton_self _)

/-- A path of a scheme without drive letters begins with a slash, and with no single dot after
it. -/
theorem Rooted.read (hkind : kind ≠ .file) (h : Rooted reading closed segment) (input : List Char) :
    let text := (read kind input reading).1.text
    text.head? = some '/' ∧ ¬ ['/', '.', '/'] <+: text := by
  induction input generalizing reading closed segment with
  | nil =>
    obtain ⟨hstarts, hundotted, -⟩ := h.close hkind false
    exact ⟨hstarts, hundotted⟩
  | cons c rest ih =>
    obtain ⟨hstarts, hundotted, -⟩ := h.close hkind false
    simp only [PathReading.read]
    split_ifs with hslash hends
    · exact ih (h.next hkind)
    · exact ⟨hstarts, hundotted⟩
    · have hc : c ≠ '/' := by
        rintro rfl
        simp at hslash
      exact ih (h.push hkind hc)

/-- No character that ends a path comes into it. -/
theorem lacks_push (h : Lacks ['?', '#'] reading.text) (c : Char) :
    Lacks ['?', '#'] (reading.push kind c).text := by
  have hchar : Lacks ['?', '#'] (encodeChar .path c) := by
    have hlacks : Lacks ['?', '#'] (encode .path [c]) := lacks_reserved (by decide) (by decide)
    rwa [encode, List.flatMap_singleton] at hlacks
  simp only [PathReading.push]
  split
  · exact lacks_append.2 ⟨lacks_append.2 ⟨h, lacks_slash⟩, hchar⟩
  · exact lacks_append.2 ⟨h, hchar⟩

theorem lacks_close (h : Lacks ['?', '#'] reading.text) (slash : Bool) :
    Lacks ['?', '#'] (reading.close kind slash).text := by
  have hcolon : Lacks ['?', '#'] [':'] := by decide
  have hdrive : Lacks ['?', '#'] [':', '/'] := by decide
  have hbefore : Lacks ['?', '#'] (reading.text.take reading.start) :=
    fun c hc => h c (List.mem_of_mem_take hc)
  have hshorter : Lacks ['?', '#'] (shorten kind (reading.text.take reading.start)) :=
    fun c hc => hbefore c ((prefix_shorten kind _).mem hc)
  have hletter : Lacks ['?', '#'] ((reading.text.drop reading.start).take 1) :=
    fun c hc => h c (List.mem_of_mem_drop (List.mem_of_mem_take hc))
  simp only [PathReading.close]
  split_ifs <;> simp [lacks_append, h, lacks_slash, hcolon, hdrive, hbefore, hshorter, hletter]

theorem lacks_read (h : Lacks ['?', '#'] reading.text) (input : List Char) :
    Lacks ['?', '#'] (read kind input reading).1.text := by
  induction input generalizing reading with
  | nil => exact lacks_close h false
  | cons c rest ih =>
    simp only [PathReading.read]
    split_ifs
    · exact ih (lacks_close h true)
    · exact lacks_close h false
    · exact ih (lacks_push h c)

end PathReading

variable {kind : SchemeKind} {onto : List Char}

theorem lacks_continuePath (h : Lacks ['?', '#'] onto) (input : List Char) :
    Lacks ['?', '#'] (continuePath kind onto input).1 := by
  have hread : Lacks ['?', '#'] (PathReading.read kind input ⟨onto, onto.length, false⟩).1.text :=
    PathReading.lacks_read h input
  rw [continuePath]
  dsimp only
  split
  · exact List.forall_mem_cons.2 ⟨by decide, fun c hc =>
      hread c ((List.dropWhile_sublist _).mem hc)⟩
  · exact hread

theorem isClosed_root : IsClosed ['/'] := ⟨rfl, rfl, by decide⟩

/-- A path that continues the root begins with a slash; a single dot comes after it at most where
drive letters count. -/
theorem continuePath_root (kind : SchemeKind) (input : List Char) :
    let path := (continuePath kind ['/'] input).1
    path.head? = some '/' ∧ (kind ≠ .file → ¬ ['/', '.', '/'] <+: path) := by
  intro path
  have hpath : path = if kind = .file then
      '/' :: (PathReading.read kind input ⟨['/'], 1, false⟩).1.text.dropWhile (· = '/')
    else (PathReading.read kind input ⟨['/'], 1, false⟩).1.text := rfl
  by_cases hkind : kind = .file
  · rw [hpath, if_pos hkind]
    exact ⟨rfl, fun hother => absurd hkind hother⟩
  · have hrooted : PathReading.Rooted ⟨['/'], 1, false⟩ ['/'] [] :=
      ⟨rfl, rfl, isClosed_root, List.not_mem_nil⟩
    obtain ⟨hstarts, hundotted⟩ := hrooted.read hkind input
    rw [hpath, if_neg hkind]
    exact ⟨hstarts, fun _ => hundotted⟩

/-- The first slash of a path is its root. -/
theorem continuePath_slash (rest : List Char) :
    continuePath .plain [] ('/' :: rest) = continuePath .plain ['/'] rest := rfl

/-- The path after an authority is empty or begins with a slash. -/
theorem authorityPath_fits (kind : SchemeKind) (input : List Char) :
    Lacks ['?', '#'] (authorityPath kind input).1 ∧
      StartsAt ['/'] (authorityPath kind input).1 := by
  have hstarts {path : List Char} (h : path.head? = some '/') : StartsAt ['/'] path := by
    intro c hc
    rw [h] at hc
    cases hc
    exact List.mem_singleton_self _
  have hroot (kind : SchemeKind) (input : List Char) :
      Lacks ['?', '#'] (continuePath kind ['/'] input).1 ∧
        StartsAt ['/'] (continuePath kind ['/'] input).1 :=
    ⟨lacks_continuePath lacks_slash input, hstarts (continuePath_root kind input).1⟩
  unfold authorityPath
  split
  next c rest =>
    split
    next => exact hroot _ _
    next hplain =>
      split
      next => exact ⟨nofun, startsAt_nil⟩
      next =>
        split
        next hc =>
          obtain rfl : kind = .plain := by
            cases kind <;> simp [SchemeKind.isSpecial] at hplain ⊢
          rw [hc, continuePath_slash]
          exact hroot _ _
        next => exact hroot _ _
  next =>
    split
    next => exact hroot _ _
    next => exact ⟨nofun, startsAt_nil⟩

/-! ### Hosts -/

def digits : List Char := "0123456789abcdef".toList

theorem digitChar_mem : ∀ n < 16, Nat.digitChar n ∈ digits := by decide

theorem toDigits_subset {base : Nat} (hone : 1 < base) (hsixteen : base ≤ 16) (n : Nat) :
    Nat.toDigits base n ⊆ digits := by
  induction n using Nat.strongRecOn with
  | ind n ih =>
    rw [Nat.toDigits_eq_if hone]
    split
    next hsmall => exact List.cons_subset.2 ⟨digitChar_mem n (by omega), List.nil_subset _⟩
    next hlarge =>
      have hlast : n % base < base := Nat.mod_lt n (by omega)
      exact List.append_subset.2 ⟨ih (n / base) (Nat.div_lt_self (by omega) hone),
        List.cons_subset.2 ⟨digitChar_mem _ (by omega), List.nil_subset _⟩⟩

theorem writeGroups_subset (groups : List Nat) : writeGroups groups ⊆ ':' :: digits := by
  have hgroup (n : Nat) : Nat.toDigits 16 n ⊆ ':' :: digits :=
    List.subset_cons_of_subset _ (toDigits_subset (by decide) (by decide) n)
  rw [writeGroups]
  induction groups with
  | nil => exact List.nil_subset _
  | cons n groups ih =>
    cases groups with
    | nil => simpa [List.intercalate] using hgroup n
    | cons m groups =>
      rw [List.map_cons, List.map_cons, List.intercalate_cons_cons, ← List.map_cons]
      exact List.append_subset.2 ⟨List.append_subset.2 ⟨hgroup n, by decide⟩, ih⟩

theorem writeLong_subset (groups : List Nat) : writeLong groups ⊆ ':' :: digits := by
  simp only [writeLong]
  split
  · exact writeGroups_subset groups
  · exact List.append_subset.2 ⟨List.append_subset.2 ⟨writeGroups_subset _, by decide⟩,
      writeGroups_subset _⟩

theorem writeShort_subset (value : Nat) : writeShort value ⊆ '.' :: digits := by
  have hbyte (n : Nat) : Nat.toDigits 10 n ⊆ '.' :: digits :=
    List.subset_cons_of_subset _ (toDigits_subset (by decide) (by decide) n)
  simp only [writeShort, List.append_subset, List.cons_subset, hbyte, List.mem_cons_self, and_self]

theorem isHost_bracketedHost {cs host : List Char} (h : bracketedHost cs = .ok host) :
    IsHost host := by
  unfold bracketedHost at h
  split at h
  next =>
    split at h
    next groups _ =>
      cases h
      refine .bracketed fun c hc hmark => ?_
      have hmarks : Lacks (':' :: digits) [']', '@', '/', '?', '#'] := by decide
      exact hmarks c hmark (writeLong_subset groups hc)
    next => cases h
  next => cases h

theorem lacks_domain {name domain : List Char} (h : domainToAscii? name = some domain) :
    Lacks [':', '[', '@', '/', '?', '#'] domain := by
  simp only [domainToAscii?, Option.bind_eq_bind, Option.bind_eq_some_iff] at h
  obtain ⟨read, -, h⟩ := h
  split_ifs at h with hbound hforbidden
  cases h
  intro c hc hmark
  have hmarks : [':', '[', '@', '/', '?', '#'].all isForbiddenInDomain = true := by decide
  exact hforbidden (List.any_eq_true.2 ⟨c, hc, List.all_eq_true.1 hmarks c hmark⟩)

theorem isHost_namedHost {cs host : List Char} (h : namedHost cs = .ok host) : IsHost host := by
  unfold namedHost at h
  split at h
  next => cases h
  next =>
    split at h
    next => cases h
    next => cases h
    next domain _ hdomain =>
      split at h
      next =>
        split at h
        next value _ =>
          cases h
          refine .named fun c hc hmark => ?_
          have hmarks : Lacks ('.' :: digits) [':', '[', '@', '/', '?', '#'] := by decide
          exact hmarks c hmark (writeShort_subset value hc)
        next => cases h
      next =>
        cases h
        exact .named (lacks_domain hdomain)

theorem isHost_specialHost {cs host : List Char} (h : specialHost cs = .ok host) : IsHost host := by
  unfold specialHost at h
  split at h
  · exact isHost_bracketedHost h
  · exact isHost_namedHost h

theorem isHost_plainHost {cs host : List Char} (h : plainHost cs = .ok host) : IsHost host := by
  unfold plainHost at h
  split at h
  next => exact isHost_bracketedHost h
  next =>
    split at h
    next => cases h
    next hallowed =>
      cases h
      refine .named (lacks_encode (by decide) fun c hc hmark => hallowed ?_)
      have hmarks : [':', '[', '@', '/', '?', '#'].all isForbiddenInHost = true := by decide
      exact List.any_eq_true.2 ⟨c, hc, List.all_eq_true.1 hmarks c hmark⟩

/-! ### Authorities -/

/-- A query holds no number sign, and nothing ends a fragment. -/
theorem formed_withTail {url : Url} (hscheme : Lacks [':'] url.scheme.toList)
    (hauthority : ∀ authority ∈ url.authority, authority.Formed)
    (hpath : Lacks ['?', '#'] url.path.toList) (hfits : PathFits url.authority url.path.toList)
    (kind : SchemeKind) (rest : List Char) : (withTail kind url rest).Formed := by
  refine ⟨hscheme, hauthority, hpath, hfits, fun query hquery => ?_⟩
  have hencoded (component : Component) (cs : List Char) (h : '#' ∈ component.reserved) :
      Lacks ['#'] (encode component cs) := lacks_reserved (by decide) (by simpa using h)
  have hcomponent : '#' ∈ (if kind.isSpecial then Component.specialQuery else .query).reserved := by
    split <;> decide
  change query ∈ (tail kind rest).1 at hquery
  unfold tail at hquery
  split at hquery
  next =>
    dsimp only at hquery
    split at hquery <;> cases hquery <;> rw [String.toList_ofList] <;> exact hencoded _ _ hcomponent
  next => cases hquery
  next => cases hquery

theorem lacks_userinfo (name : List Char) :
    Lacks [':', '@', '/', '?', '#'] (userinfo name).1.toList ∧
      ∀ password ∈ (userinfo name).2, Lacks ['@', '/', '?', '#'] password.toList := by
  have hencoded (cs : List Char) : Lacks [':', '@', '/', '?', '#'] (encode .userinfo cs) :=
    lacks_reserved (by decide) (by decide)
  unfold userinfo
  dsimp only
  split
  next =>
    refine ⟨by simpa using hencoded _, ?_⟩
    rintro _ ⟨⟩
    simpa using (hencoded _).mono (by decide)
  next => exact ⟨by simpa using hencoded _, nofun⟩

/-- A reading that succeeds has succeeded so far. -/
theorem exists_of_bind_eq_ok {ε α β : Type} {x : Except ε α} {f : α → Except ε β} {r : β}
    (h : x >>= f = .ok r) : ∃ a, x = .ok a ∧ f a = .ok r := by
  cases x with
  | error e => cases h
  | ok a => exact ⟨a, rfl, h⟩

theorem of_guard_eq_ok {ε α β : Type} {p : Prop} [Decidable p] {e : ε} {f : α → Except ε β}
    {x : Except ε β} {r : β} (h : (if p then throw e >>= f else x) = .ok r) : x = .ok r := by
  split at h
  · cases h
  · exact h

/-- What stands before an at sign is a name and a password; without an at sign both are missing. -/
theorem credentials_eq_ok {kind : SchemeKind} {cs rest : List Char}
    {username : String} {password : Option String}
    (h : credentials kind cs = .ok ((username, password), rest)) :
    (username = "" ∧ password = none) ∨ ∃ name, (username, password) = userinfo name := by
  simp only [credentials] at h
  split at h
  next =>
    cases h
    exact .inl ⟨rfl, rfl⟩
  next =>
    split at h
    next =>
      cases h
      exact .inl ⟨rfl, rfl⟩
    next => cases h
  next name _ _ _ =>
    simp only [Except.ok.injEq, Prod.mk.injEq] at h
    exact .inr ⟨name, h.1.symm⟩

theorem exists_host {α : Type} {kind : SchemeKind} {cs : List Char} {f : List Char → Except Error α}
    {r : α} (h : (if kind = .special then specialHost cs >>= f else plainHost cs >>= f) = .ok r) :
    ∃ host, IsHost host ∧ f host = .ok r := by
  split at h
  · obtain ⟨host, hhost, h⟩ := exists_of_bind_eq_ok h
    exact ⟨host, isHost_specialHost hhost, h⟩
  · obtain ⟨host, hhost, h⟩ := exists_of_bind_eq_ok h
    exact ⟨host, isHost_plainHost hhost, h⟩

theorem formed_ofAuthority {kind : SchemeKind} {scheme : String} {cs : List Char} {url : Url}
    (hscheme : Lacks [':'] scheme.toList) (h : ofAuthority kind scheme cs = .ok url) :
    url.Formed := by
  unfold ofAuthority at h
  obtain ⟨⟨⟨username, password⟩, rest⟩, hcredentials, h⟩ := exists_of_bind_eq_ok h
  dsimp only at h
  obtain ⟨host, hhost, h⟩ := exists_host (of_guard_eq_ok h)
  have hname : Lacks [':', '@', '/', '?', '#'] username.toList ∧
      ∀ part ∈ password, Lacks ['@', '/', '?', '#'] part.toList := by
    obtain ⟨rfl, rfl⟩ | ⟨name, hname⟩ := credentials_eq_ok hcredentials
    · exact ⟨nofun, nofun⟩
    · have hparts := lacks_userinfo name
      rwa [← hname] at hparts
  have hformed (port : Option Nat) (rest : List Char) :
      (withTail kind
        { scheme, path := String.ofList (authorityPath kind rest).1,
          authority := some { username, password, host := String.ofList host, port } }
        (authorityPath kind rest).2.2).Formed := by
    obtain ⟨hpath, hfits⟩ := authorityPath_fits kind rest
    refine formed_withTail hscheme ?_ (by simpa using hpath) (by simpa [PathFits] using hfits) ..
    rintro _ ⟨⟩
    exact ⟨hname.1, hname.2, by simpa using hhost⟩
  split at h
  next =>
    split at h
    next => cases h
    next =>
      obtain ⟨⟨port, rest⟩, -, h⟩ := exists_of_bind_eq_ok h
      cases of_guard_eq_ok h
      exact hformed port rest
  next =>
    obtain ⟨⟨port, rest⟩, -, h⟩ := exists_of_bind_eq_ok h
    cases of_guard_eq_ok h
    exact hformed port rest
/-! ### Files -/

theorem lacks_colon_file : Lacks [':'] "file".toList := by decide

theorem formed_fileUrl {host : String} (hhost : IsHost host.toList) {onto : List Char}
    (honto : Lacks ['?', '#'] onto) (input : List Char) : (fileUrl host onto input).Formed := by
  have hpath : Lacks ['?', '#'] (continuePath .file onto input).1 := lacks_continuePath honto input
  refine formed_withTail lacks_colon_file ?_ ?_ ?_ ..
  · rintro _ ⟨⟩
    exact ⟨List.forall_mem_nil _, nofun, hhost⟩
  · rw [String.toList_ofList]
    exact hpath
  · rw [String.toList_ofList]
    exact startsAt_cons (List.mem_singleton_self '/')

theorem isHost_empty : IsHost "".toList := .named (List.forall_mem_nil _)

theorem formed_ofFileHost {cs : List Char} {url : Url} (h : ofFileHost cs = .ok url) :
    url.Formed := by
  unfold ofFileHost at h
  dsimp only at h
  split at h
  next =>
    cases h
    exact formed_fileUrl isHost_empty lacks_slash _
  next =>
    split at h
    next =>
      cases h
      exact formed_fileUrl isHost_empty lacks_slash _
    next =>
      obtain ⟨host, hhost, h⟩ := exists_of_bind_eq_ok h
      split at h
      next =>
        cases h
        exact formed_fileUrl isHost_empty lacks_slash _
      next =>
        generalize List.dropWhile _ cs = rest at h
        cases h
        obtain ⟨hpath, hfits⟩ := authorityPath_fits .file rest
        refine formed_withTail lacks_colon_file ?_ (by simpa using hpath)
          (by simpa [PathFits] using hfits) ..
        rintro _ ⟨⟩
        refine ⟨List.forall_mem_nil _, nofun, ?_⟩
        split
        · exact isHost_empty
        · simpa using isHost_specialHost hhost

theorem formed_ofFile {cs : List Char} {url : Url} (h : ofFile none cs = .ok url) : url.Formed := by
  unfold ofFile at h
  split at h
  next =>
    split at h
    next =>
      split at h
      next =>
        split at h
        next => exact formed_ofFileHost h
        next =>
          cases h
          exact formed_fileUrl isHost_empty (List.forall_mem_nil _) _
      next =>
        cases h
        exact formed_fileUrl isHost_empty (List.forall_mem_nil _) _
    next =>
      cases h
      exact formed_fileUrl isHost_empty lacks_slash _
  next =>
    cases h
    exact formed_fileUrl isHost_empty lacks_slash _

/-! ### Schemes -/

theorem encodeChar_ne_nil (component : Component) (c : Char) : encodeChar component c ≠ [] := by
  rw [encodeChar]
  split
  · exact List.cons_ne_nil _ _
  · obtain ⟨b, bytes, hbytes⟩ := List.exists_cons_of_ne_nil (Text.Utf8.encodeChar_ne_nil c)
    rw [hbytes, List.flatMap_cons, percentByte]
    exact List.cons_ne_nil _ _

/-- A component begins with a slash only if it did before. -/
theorem not_slash_encode {component : Component} {cs : List Char} (h : ¬ ['/'] <+: cs) :
    ¬ ['/'] <+: encode component cs := by
  cases cs with
  | nil => exact h
  | cons c cs =>
    have hlacks : Lacks ['/'] (encode component [c]) := by
      refine lacks_encode (by decide) (List.forall_mem_singleton.2 fun hslash => h ?_)
      rw [List.mem_singleton.1 hslash]
      exact List.prefix_append ['/'] cs
    rw [encode, List.flatMap_singleton] at hlacks
    rw [encode, List.flatMap_cons]
    intro hrooted
    cases hencoded : encodeChar component c with
    | nil => exact encodeChar_ne_nil component c hencoded
    | cons d rest =>
      rw [hencoded] at hlacks hrooted
      obtain ⟨rfl, -⟩ := List.cons_prefix_cons.1 hrooted
      exact hlacks '/' List.mem_cons_self (List.mem_singleton_self _)

theorem formed_ofPlainScheme {scheme : String} {cs : List Char} {url : Url}
    (hscheme : Lacks [':'] scheme.toList) (h : ofPlainScheme scheme cs = .ok url) : url.Formed := by
  have hnone : ∀ authority ∈ (none : Option Authority), authority.Formed := nofun
  unfold ofPlainScheme at h
  split at h
  next => exact formed_ofAuthority hscheme h
  next rest _ =>
    cases h
    obtain ⟨-, hundotted⟩ := continuePath_root .plain rest
    have hpath : Lacks ['?', '#'] (continuePath .plain ['/'] rest).1 :=
      lacks_continuePath lacks_slash rest
    refine formed_withTail hscheme hnone ?_ ?_ ..
    · rw [String.toList_ofList]
      exact hpath
    · rw [String.toList_ofList]
      exact hundotted (by decide)
  next hone htwo =>
    cases h
    refine formed_withTail hscheme hnone ?_ ?_ ..
    · rw [String.toList_ofList]
      refine lacks_encode (by decide) fun c hc hmark => ?_
      have hplain := List.mem_takeWhile_imp hc
      have hmarks : ['?', '#'].all (fun mark => mark == '?' || mark == '#') = true := by decide
      have hends : (c == '?' || c == '#') = true := List.all_eq_true.1 hmarks c hmark
      dsimp only at hplain
      rw [hends] at hplain
      cases hplain
    · rw [String.toList_ofList]
      intro hdot
      refine not_slash_encode ?_ ((List.prefix_append ['/'] ['.', '/']).trans hdot)
      intro hrooted
      obtain ⟨rest, rfl⟩ := hrooted.trans (List.takeWhile_prefix _)
      exact htwo rest rfl

/-- No character of a scheme is a colon in lower case. -/
theorem toLower_ne_colon {c : Char} (h : isSchemeChar c = true) : c.toLower ≠ ':' := by
  intro heq
  unfold Char.toLower at heq
  split at heq
  next hupper =>
    have hval : c.val + ('a'.val - 'A'.val) = ':'.val := congrArg Char.val heq
    have hcode := congrArg UInt32.toNat hval
    simp [UInt32.le_iff_toNat_le] at hupper hcode
    omega
  next =>
    subst heq
    revert h
    decide

theorem lacks_scheme {cs scheme rest : List Char} (h : scheme? cs = some (scheme, rest)) :
    Lacks [':'] scheme := by
  unfold scheme? at h
  split at h
  next first _ =>
    split at h
    next =>
      split at h
      next =>
        cases h
        intro c hc hmark
        obtain ⟨d, hd, rfl⟩ := List.mem_map.1 hc
        exact toLower_ne_colon (List.mem_takeWhile_imp hd) (List.mem_singleton.1 hmark)
      next => cases h
    next => cases h
  next => cases h

/-- The parts of a URL that is read hold no character that would end them. -/
theorem formed_of_parse {text : String} {url : Url} (h : parse text = .ok url) : url.Formed := by
  rw [parse, read] at h
  split at h
  next scheme rest hscheme =>
    have hlacks : Lacks [':'] (String.ofList scheme).toList := by
      rw [String.toList_ofList]
      exact lacks_scheme hscheme
    rw [ofScheme] at h
    split at h
    next => exact formed_ofFile h
    next => exact formed_ofPlainScheme hlacks h
    next => exact formed_ofAuthority hlacks h
  next => cases h

end BrowserReplay.Url
