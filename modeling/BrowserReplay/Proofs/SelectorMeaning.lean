import BrowserReplay.Proofs.Agreement
import BrowserReplay.Proofs.Landing
import BrowserReplay.Proofs.WrittenJson

/-!
# What selectors mean

A raw selector is classified on one side of the bridge and looked for on the other. What travels in
between is the name of its language, and a name that the page does not know would not be an error
there: it counts as XPath. `Document.Finds` says what a raw selector is looked for with, by its
beginning alone, and that is what the page does.
-/

namespace BrowserReplay

/-! ### Raw selectors -/

namespace Selector

/-- A text gives a selector of a language when it begins as the language asks. -/
theorem stripped?_eq_some {raw : String} {kind : SelectorKind} {selector : Selector} :
    stripped? raw kind = some selector ↔
      raw = kind.marker ++ selector.value ∧ selector.kind = kind := by
  obtain ⟨language, value⟩ := selector
  rw [stripped?, Option.map_eq_some_iff]
  constructor
  · rintro ⟨rest, hrest, hselector⟩
    cases hselector
    have happend := List.isPrefixOf?_eq_some_iff_append_eq.1 hrest
    refine ⟨?_, rfl⟩
    rw [← String.toList_inj, String.toList_append, String.toList_ofList, happend]
  · rintro ⟨rfl, rfl⟩
    refine ⟨value.toList, ?_, by rw [String.ofList_toList]⟩
    rw [List.isPrefixOf?_eq_some_iff_append_eq, String.toList_append]

theorem stripped?_eq_none {raw : String} {kind : SelectorKind} :
    stripped? raw kind = none ↔ ∀ rest, raw ≠ kind.marker ++ rest := by
  rw [Option.eq_none_iff_forall_ne_some]
  constructor
  · intro h rest hraw
    exact h ⟨kind, rest⟩ (stripped?_eq_some.2 ⟨hraw, rfl⟩)
  · intro h selector hselector
    exact h selector.value (stripped?_eq_some.1 hselector).1

/-- No text begins as two languages ask. -/
theorem eq_of_marker {kind other : SelectorKind} {rest otherRest : String}
    (h : kind.marker ++ rest = other.marker ++ otherRest) : kind = other := by
  have hfirst := congrArg (fun text => text.toList.head?) h
  cases kind <;> cases other <;> first
    | rfl
    | simp [SelectorKind.marker] at hfirst

theorem parse_marked (kind : SelectorKind) (rest : String) :
    parse (kind.marker ++ rest) = ⟨kind, rest⟩ := by
  have hown : stripped? (kind.marker ++ rest) kind = some ⟨kind, rest⟩ :=
    stripped?_eq_some.2 ⟨rfl, rfl⟩
  have hother (other : SelectorKind) (hne : kind ≠ other) :
      stripped? (kind.marker ++ rest) other = none :=
    stripped?_eq_none.2 fun _ h => hne (eq_of_marker h)
  rw [parse]
  cases kind with
  | xpath =>
    rw [hown]
    rfl
  | css =>
    rw [hother .xpath nofun, hown]
    rfl
  | linkText =>
    rw [hother .xpath nofun, hother .css nofun, hown]
    rfl

/-- Only one beginning is taken off. -/
example : parse "xpath=css=a" = ⟨.xpath, "css=a"⟩ := by
  decide +kernel

theorem parse_plain {raw : String} (h : ∀ kind rest, raw ≠ SelectorKind.marker kind ++ rest) :
    parse raw = ⟨.xpath, raw⟩ := by
  have hnone (kind : SelectorKind) : stripped? raw kind = none := stripped?_eq_none.2 (h kind)
  rw [parse, hnone, hnone, hnone]
  rfl

end Selector

namespace Bridge

/-! ### What is looked for -/

structure Element.IsLink (element : Element) (text : String) : Prop where
  connected : element.isConnected = true
  tag : element.tag = "a"
  text : Document.linkText element = text

namespace Document

/-- The first link with a text in document order, if there is one. -/
inductive FirstLink (document : Document) (text : String) : Option ElementId → Prop
  | found {before after : List Element} {element : Element}
      (h : document.elements = before ++ element :: after) (hlink : element.IsLink text)
      (hfirst : ∀ other ∈ before, ¬ other.IsLink text) : FirstLink document text (some element.id)
  | missing (h : ∀ element ∈ document.elements, ¬ element.IsLink text) :
      FirstLink document text none

/-- What a document sees when a raw selector is looked for in it, and what is found. -/
inductive Finds (document : Document) :
    String → List Sighting → Except Thrown (Option ElementId) → Prop
  | css (rest : String) :
      Finds document ("css=" ++ rest) [.css (some (.text rest))] (document.css (some rest))
  | linkText (rest : String) {found : Option ElementId} (h : FirstLink document rest found) :
      Finds document ("linkText=" ++ rest) [] (.ok found)
  | xpath (rest : String) :
      Finds document ("xpath=" ++ rest) [.xpath (some (.text rest))] (document.xpath (some rest))
  | plain {raw : String} (hcss : ∀ rest, raw ≠ "css=" ++ rest)
      (hlink : ∀ rest, raw ≠ "linkText=" ++ rest) (hxpath : ∀ rest, raw ≠ "xpath=" ++ rest) :
      Finds document raw [.xpath (some (.text raw))] (document.xpath (some raw))

variable {document : Document}

theorem isLink_iff {element : Element} {text : String} :
    (element.isConnected && element.tag = "a" && isText (some (.text text)) (linkText element)) =
      true ↔ element.IsLink text := by
  have htext : isText (some (.text text)) (linkText element) = decide (text = linkText element) :=
    rfl
  rw [htext, Bool.and_eq_true, Bool.and_eq_true, decide_eq_true_iff, decide_eq_true_iff]
  exact ⟨fun ⟨⟨hconnected, htag⟩, htext⟩ => ⟨hconnected, htag, htext.symm⟩,
    fun h => ⟨⟨h.connected, h.tag⟩, h.text.symm⟩⟩

theorem byLinkText_eq {text : String} {found : Option ElementId} :
    document.byLinkText (some (.text text)) = found ↔ document.FirstLink text found := by
  rw [byLinkText]
  constructor
  · rintro rfl
    cases hfind : document.elements.find? fun element =>
        element.isConnected && element.tag = "a" && isText (some (.text text)) (linkText element) with
    | none =>
      refine .missing fun element hmem hlink => ?_
      exact List.find?_eq_none.1 hfind element hmem (isLink_iff.2 hlink)
    | some element =>
      obtain ⟨hfound, before, after, hsplit, hbefore⟩ := List.find?_eq_some_iff_append.1 hfind
      refine .found hsplit (isLink_iff.1 hfound) fun other hmem hlink => ?_
      have hother := hbefore other hmem
      rw [isLink_iff.2 hlink] at hother
      cases hother
  · rintro (⟨hsplit, hfound, hfirst⟩ | hmissing)
    · rw [Option.map_eq_some_iff]
      refine ⟨_, List.find?_eq_some_iff_append.2 ⟨isLink_iff.2 hfound, _, _, hsplit, ?_⟩, rfl⟩
      intro other hmem
      rw [Bool.not_eq_true', ← Bool.not_eq_true]
      exact fun hlink => hfirst other hmem (isLink_iff.1 hlink)
    · rw [Option.map_eq_none_iff, List.find?_eq_none]
      exact fun element hmem hlink => hmissing element hmem (isLink_iff.1 hlink)

theorem exists_finds (document : Document) (raw : String) :
    ∃ seen found, document.Finds raw seen found := by
  by_cases hcss : ∃ rest, raw = "css=" ++ rest
  · obtain ⟨rest, rfl⟩ := hcss
    exact ⟨_, _, .css rest⟩
  by_cases hlink : ∃ rest, raw = "linkText=" ++ rest
  · obtain ⟨rest, rfl⟩ := hlink
    exact ⟨_, _, .linkText rest (byLinkText_eq.1 rfl)⟩
  by_cases hxpath : ∃ rest, raw = "xpath=" ++ rest
  · obtain ⟨rest, rfl⟩ := hxpath
    exact ⟨_, _, .xpath rest⟩
  exact ⟨_, _, .plain (not_exists.1 hcss) (not_exists.1 hlink) (not_exists.1 hxpath)⟩

end Document

/-! ### What the page does -/

namespace BridgedDocument

/-- The page looks for a selector in the language of that selector. -/
theorem evaluate_ofSelector (document : Document) (selector : Selector) :
    evaluate document (known (Request.ofSelector selector).toJson) =
      match selector.kind with
      | .css => ([.css (some (.text selector.value))], document.css (some selector.value))
      | .linkText => ([], .ok (document.byLinkText (some (.text selector.value))))
      | .xpath => ([.xpath (some (.text selector.value))], document.xpath (some selector.value)) := by
  have hkind : member (known (Request.ofSelector selector).toJson) "kind" =
      some (.text selector.kind.name) := by
    rw [member_known]
    rfl
  have hvalue : member (known (Request.ofSelector selector).toJson) "value" =
      some (.text selector.value) := by
    rw [member_known]
    rfl
  rw [evaluate, hkind, hvalue]
  -- The page asks for two of the three names, and takes all others for the third.
  cases selector.kind <;> rfl

/-- The page does what a raw selector asks for. -/
theorem evaluate_of_finds {document : Document} {raw : String} {seen : List Sighting}
    {found : Except Thrown (Option ElementId)} (h : document.Finds raw seen found) :
    evaluate document (known (Request.ofSelector (Selector.parse raw)).toJson) = (seen, found) := by
  rw [evaluate_ofSelector]
  cases h with
  | css rest => rw [show "css=" = SelectorKind.css.marker from rfl, Selector.parse_marked]
  | linkText rest hfirst =>
    rw [show "linkText=" = SelectorKind.linkText.marker from rfl, Selector.parse_marked,
      ← Document.byLinkText_eq.2 hfirst]
  | xpath rest => rw [show "xpath=" = SelectorKind.xpath.marker from rfl, Selector.parse_marked]
  | plain hcss hlink hxpath =>
    have hplain : ∀ kind rest, raw ≠ SelectorKind.marker kind ++ rest := by
      rintro (_ | _ | _)
      exacts [hxpath, hcss, hlink]
    rw [Selector.parse_plain hplain]

/-- An answer tells what was found: an element by a number that the table has for it. -/
inductive Reports (table : HandleTable) : Except Thrown (Option ElementId) → Answer → Prop
  | found {id : ElementId} {handle : Nat} (h : table.entries.lookup handle = some id) :
      Reports table (.ok (some id)) (.ok (.nat handle))
  | missing : Reports table (.ok none) (.ok .null)
  | malformed (thrown : Thrown) :
      Reports table (.error thrown) (.failed .invalidSelector thrown.messageText)
  | threw (thrown : Thrown) : Reports table (.error thrown) (.telling thrown)

/-- A query leaves the document alone and reports what it has found. -/
theorem query_reports {state : BridgedDocument} (hvalid : state.table.Valid) (request : Json) :
    (state.query request).state.document = state.document ∧
      (state.query request).seen = (evaluate state.document request).1 ∧
      Reports (state.query request).state.table (evaluate state.document request).2
        (state.query request).answer := by
  rw [query]
  generalize evaluate state.document request = evaluation
  obtain ⟨seen, thrown | _ | id⟩ := evaluation
  · refine ⟨rfl, rfl, ?_⟩
    dsimp only [reply]
    split
    · exact .malformed thrown
    · exact .threw thrown
  · exact ⟨rfl, rfl, .missing⟩
  · exact ⟨rfl, rfl, .found (hvalid.remember id).2⟩

end BridgedDocument

open BridgedDocument

/-- Selectors mean the same on both sides. Whatever has happened in a tab: the request for a raw
selector is written as a text, and the page that is handed the value of this text looks for just
what the selector asks for, with no other evaluator and no other expression. It answers with a
number that its table has for the element found, or with none, and leaves the document alone. -/
theorem selectors_mean_the_same (document : Document) (happenings : List Happening)
    (raw : String) :
    let browsing := (Browsing.opening document).run happenings
    let request := Request.ofSelector (Selector.parse raw)
    ∃ value, Json.parse? request.render = some value ∧
      (∃ seen found, browsing.tab.document.Finds raw seen found) ∧
      ∀ seen found, browsing.tab.document.Finds raw seen found →
        (browsing.transact value).seen = seen ∧
          (browsing.transact value).after = browsing.tab.document ∧
          Reports (browsing.step (.request value)).tab.table found
            (browsing.transact value).answer := by
  intro browsing request
  have hvalid : browsing.bridged.table.Valid :=
    (Browsing.sound_run document happenings).1.table
  refine ⟨request.toJson, Json.parse?_render request.toJson, Document.exists_finds _ raw,
    fun seen found hfinds => ?_⟩
  have hevaluate := evaluate_of_finds hfinds
  have hquery : isQuery (known request.toJson) = true := by
    rw [isQuery, member_op]
    rfl
  obtain ⟨htable, htransact⟩ :=
    browsing.step_request request.toJson (process_query hquery browsing.bridged)
  obtain ⟨hdocument, hseen, hreports⟩ := query_reports hvalid (known request.toJson)
  rw [show browsing.bridged.document = browsing.tab.document from rfl, hevaluate] at hseen hreports
  rw [htransact, htable]
  exact ⟨hseen, hdocument, hreports⟩

end Bridge

end BrowserReplay
