import BrowserReplay.Proofs.ScriptText
import BrowserReplay.Proofs.SortedStore

/-!
# Variables that are written and loaded

The text of a store is one object of truth values and texts, and these are told apart by their form
alone. What a text describes is a sequence of values, stored one after the other in an empty store
(`ofJson?_eq_some`), so nothing of an earlier store is left when a text is loaded, and nothing of it
is touched when the text describes no store.
-/

namespace BrowserReplay

open Json

theorem VarValue.ofJson?_eq_some {document : Json} {value : VarValue} :
    ofJson? document = some value ↔ document = value.toJson := by
  constructor
  · intro h
    rcases document with _ | _ | _ | (_ | _) | _ | _ <;> cases h <;> rfl
  · rintro rfl
    exact ofJson?_toJson value

namespace Variables

/-- The members of an object that holds values under their names. -/
def members (entries : List (String × VarValue)) : List (Option String × Json) :=
  entries.map fun entry => (some entry.1, entry.2.toJson)

/-- A document lists values, in their order: under the name `values`, in an object that may have
other members, or as the only item of an array. -/
inductive Lists : Json → List (String × VarValue) → Prop
  | object {fields : List (Option String × Json)} {entries : List (String × VarValue)}
      (named : Named fields) (values : Holds fields "values" (some (.object (members entries)))) :
      Lists (.object fields) entries
  | array (entries : List (String × VarValue)) : Lists (.array [.object (members entries)]) entries

theorem entryOfMember?_eq_some {member : Option String × Json} {entry : String × VarValue} :
    entryOfMember? member = some entry ↔ member = (some entry.1, entry.2.toJson) := by
  obtain ⟨_ | name, document⟩ := member
  · simp [entryOfMember?]
  · simp only [entryOfMember?, Option.map_eq_some_iff, VarValue.ofJson?_eq_some]
    constructor
    · rintro ⟨value, rfl, rfl⟩
      rfl
    · rintro ⟨⟩
      exact ⟨_, rfl, rfl⟩

theorem ofMembers?_eq_some {document : Json} {vars : Variables} :
    ofMembers? document = some vars ↔
      ∃ entries, document = .object (members entries) ∧ vars = ofList entries := by
  have hread (fields : List (Option String × Json)) (entries : List (String × VarValue)) :
      fields.mapM entryOfMember? = some entries ↔ fields = members entries := by
    rw [mapM_eq_some, members]
    simp only [entryOfMember?_eq_some]
    constructor
    · intro h
      induction h with
      | nil => rfl
      | cons hfirst _ ih => rw [hfirst, ih, List.map_cons]
    · rintro rfl
      rw [List.forall₂_map_left_iff, List.forall₂_same]
      exact fun _ _ => rfl
  unfold ofMembers?
  split
  next fields => simp [hread, eq_comm]
  next hother =>
    constructor
    · rintro ⟨⟩
    · rintro ⟨entries, rfl, -⟩
      exact absurd rfl (hother _)

/-- A document is read as what comes of storing the values that it lists. -/
theorem ofJson?_eq_some {document : Json} {vars : Variables} :
    ofJson? document = some vars ↔ ∃ entries, Lists document entries ∧ vars = ofList entries := by
  constructor
  · intro h
    unfold ofJson? at h
    split at h
    next slot hslots =>
      cases slot with
      | none => cases h
      | some values =>
        obtain ⟨entries, rfl, rfl⟩ := ofMembers?_eq_some.1 h
        refine ⟨entries, ?_, rfl⟩
        cases document with
        | object fields =>
          obtain ⟨hnamed, hslots⟩ := slots?_eq_some.1 hslots
          exact .object hnamed (List.forall₂_cons.1 hslots).1
        | array items =>
          rcases items with _ | ⟨item, _ | ⟨second, items⟩⟩
          · cases hslots
          · cases hslots
            exact .array entries
          · simp [slots?] at hslots
        | _ => cases hslots
    next => cases h
  · rintro ⟨entries, hlists, rfl⟩
    have hvalues : ofMembers? (.object (members entries)) = some (ofList entries) :=
      ofMembers?_eq_some.2 ⟨entries, rfl, rfl⟩
    cases hlists with
    | object hnamed hholds =>
      have hslots := slots?_eq_some.2 ⟨hnamed, .cons hholds .nil⟩
      rw [ofJson?, hslots]
      exact hvalues
    | array => exact hvalues

theorem lists_toJson (vars : Variables) : Lists vars.toJson vars.entries := by
  refine .object (named_ofFields _) ?_
  have hmembers : members vars.entries =
      (vars.entries.map fun entry => (entry.1, entry.2.toJson)).map fun field =>
        (some field.1, field.2) := by
    rw [members, List.map_map]
    rfl
  rw [hmembers]
  rfl

theorem ofJson?_toJson (vars : Variables) : ofJson? vars.toJson = some vars :=
  ofJson?_eq_some.2 ⟨vars.entries, lists_toJson vars, (ofList_entries vars).symm⟩

theorem parse?_rendered (vars : Variables) : parse? vars.render = some vars := by
  rw [parse?, render, parse?_render, Option.bind_some, ofJson?_toJson]

theorem load_of_parse {text : String} {loaded : Variables} (h : parse? text = some loaded)
    (vars : Variables) : load text vars = (.ok loaded.size, loaded) := by
  rw [load, h]

theorem load_of_no_parse {text : String} (h : parse? text = none) (vars : Variables) :
    load text vars = (.error .parse, vars) := by
  rw [load, h]

/-- Stores are read back and loaded whole. The text of a store is read as an equal store, so no two
stores have one text, and a truth value is never taken for a text. Loading a text either replaces
all variables by those that the text lists, of several values of one name the last, and tells how
many names they have, or it fails, where the text lists none, and leaves all variables as they were. -/
theorem stores_are_loaded_whole :
    (∀ vars : Variables, parse? vars.render = some vars) ∧
      Function.Injective render ∧
      (∀ vars old : Variables, load vars.render old = (.ok vars.size, vars)) ∧
      ∀ (text : String) (vars : Variables),
        (∃ document entries, Json.parse? text = some document ∧ Lists document entries ∧
          load text vars = (.ok (ofList entries).size, ofList entries) ∧
          ∀ name value, (ofList entries).get? name = some value ↔ LastSet entries name value) ∨
        ((∀ document, Json.parse? text = some document → ∀ entries, ¬ Lists document entries) ∧
          load text vars = (.error .parse, vars)) := by
  refine ⟨parse?_rendered, fun vars other h => ?_, fun vars => load_of_parse (parse?_rendered vars),
    fun text vars => ?_⟩
  · have hread := parse?_rendered vars
    rw [h, parse?_rendered] at hread
    exact (Option.some.inj hread).symm
  · cases hread : parse? text with
    | some loaded =>
      obtain ⟨document, hdocument, hof⟩ := Option.bind_eq_some_iff.1 hread
      obtain ⟨entries, hlists, rfl⟩ := ofJson?_eq_some.1 hof
      exact .inl ⟨document, entries, hdocument, hlists, load_of_parse hread vars,
        fun _ _ => get?_ofList_eq_some⟩
    | none =>
      refine .inr ⟨fun document hdocument entries hlists => ?_, load_of_no_parse hread vars⟩
      rw [parse?, hdocument, Option.bind_some,
        ofJson?_eq_some.2 ⟨entries, hlists, rfl⟩] at hread
      cases hread

end Variables

end BrowserReplay
