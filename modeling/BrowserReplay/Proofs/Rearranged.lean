import BrowserReplay.Proofs.Recorded
import BrowserReplay.Proofs.WrittenJson
import Mathlib.Data.List.Perm.Basic
import Mathlib.Logic.Relation

/-!
# Documents that are read alike

The order of the members of an object, members that say nothing, and labels make no difference to a
script. A record is read field by field (`ofJson?_eq_fields`), so a change leaves it as it is when
every field is read as before: each kind of change has one lemma about a field, and a command or a
script goes through its own fields with them.
-/

namespace BrowserReplay

theorem mapM_replaced {α β : Type} {f : α → Option β} {item item' : α} (h : f item = f item')
    (before after : List α) :
    (before ++ item :: after).mapM f = (before ++ item' :: after).mapM f := by
  rw [List.mapM_append, List.mapM_append, List.mapM_cons, List.mapM_cons, h]

namespace Json

/-- The members of one object stand in another order, anywhere in the document. -/
inductive Rearranged : Json → Json → Prop
  | here {members members' : List (Option String × Json)} (h : members.Perm members') :
      Rearranged (.object members) (.object members')
  | item (before after : List Json) {value value' : Json} (h : Rearranged value value') :
      Rearranged (.array (before ++ value :: after)) (.array (before ++ value' :: after))
  | member (before after : List (Option String × Json)) (key : Option String) {value value' : Json}
      (h : Rearranged value value') :
      Rearranged (.object (before ++ (key, value) :: after))
        (.object (before ++ (key, value') :: after))

/-- An object is given one more member, which says nothing: a member that no field is named after,
or `null` for an optional field that is missing. -/
inductive Filled (known optional : List String) : Json → Json → Prop
  | unknown (before after : List (Option String × Json)) {key : String} (h : key ∉ known)
      (value : Json) :
      Filled known optional (.object (before ++ after))
        (.object (before ++ (some key, value) :: after))
  | null (before after : List (Option String × Json)) {key : String} (h : key ∈ optional)
      (hmissing : Holds (before ++ after) key none) :
      Filled known optional (.object (before ++ after))
        (.object (before ++ (some key, .null) :: after))

def slotIn? (names : List String) (name : String) : Json → Option (Option Json)
  | .object members => if members.all (·.1.isSome) then slot? members name else none
  | .array items => if items.length ≤ names.length then some items[names.idxOf name]? else none
  | _ => none

def readField {α : Type} (names : List String) (name : String) (read : Option Json → Option α)
    (document : Json) : Option α :=
  (slotIn? names name document).bind read

variable {α : Type} {names : List String} {name : String} {read : Option Json → Option α}

theorem valuesOf_append (name : String) (members others : List (Option String × Json)) :
    valuesOf name (members ++ others) = valuesOf name members ++ valuesOf name others :=
  List.filterMap_append

theorem valuesOf_cons (name : String) (key : Option String) (value : Json)
    (members : List (Option String × Json)) :
    valuesOf name ((key, value) :: members) =
      if key = some name then value :: valuesOf name members else valuesOf name members := by
  unfold valuesOf
  split <;> simp_all

theorem slot?_perm {members members' : List (Option String × Json)} (h : members.Perm members') :
    slot? members name = slot? members' name := by
  have hvalues : (valuesOf name members).Perm (valuesOf name members') := h.filterMap _
  unfold slot?
  generalize valuesOf name members = values at hvalues
  generalize valuesOf name members' = values' at hvalues
  have hlength := hvalues.length_eq
  rcases values with _ | ⟨value, _ | ⟨second, values⟩⟩
  · rw [hvalues.nil_eq]
  · rw [List.singleton_perm.1 hvalues]
  · rcases values' with _ | ⟨value', _ | ⟨second', values'⟩⟩
    · cases hlength
    · cases hlength
    · rfl

theorem readField_object {members members' : List (Option String × Json)}
    (hnamed : members.all (·.1.isSome) = members'.all (·.1.isSome))
    (hslot : (slot? members name).bind read = (slot? members' name).bind read) :
    readField names name read (.object members) = readField names name read (.object members') := by
  simp only [readField, slotIn?, hnamed]
  split
  · exact hslot
  · rfl

/-- A field is read as before when the value of a member is replaced by one that is read alike. -/
theorem readField_replaced (before after : List (Option String × Json)) {key : Option String}
    {value value' : Json} (h : key = some name → read (some value) = read (some value')) :
    readField names name read (.object (before ++ (key, value) :: after)) =
      readField names name read (.object (before ++ (key, value') :: after)) := by
  apply readField_object
  · simp
  by_cases hkey : key = some name
  · simp only [slot?, valuesOf_append, valuesOf_cons, if_pos hkey]
    rcases valuesOf name before with _ | ⟨_, _ | _⟩ <;> rcases valuesOf name after with _ | _ <;>
      simp [h hkey]
  · simp only [slot?, valuesOf_append, valuesOf_cons, if_neg hkey]

theorem readField_rearranged {document document' : Json} (h : Rearranged document document')
    (hread : ∀ value value', Rearranged value value' → read (some value) = read (some value')) :
    readField names name read document = readField names name read document' := by
  cases h with
  | here hperm =>
    apply readField_object
    · rw [Bool.eq_iff_iff, List.all_eq_true, List.all_eq_true]
      simp only [hperm.mem_iff]
    · rw [slot?_perm hperm]
  | item before after hitem =>
    simp only [readField, slotIn?, List.length_append, List.length_cons]
    split
    · simp only [Option.bind_some]
      rcases Nat.lt_trichotomy (names.idxOf name) before.length with hlt | heq | hgt
      · rw [List.getElem?_append_left hlt, List.getElem?_append_left hlt]
      · simp [heq, hread _ _ hitem]
      · obtain ⟨later, hlater⟩ : ∃ later, names.idxOf name - before.length = later + 1 :=
          ⟨names.idxOf name - before.length - 1, by omega⟩
        rw [List.getElem?_append_right (by omega), List.getElem?_append_right (by omega), hlater]
        rfl
    · rfl
  | member before after key hvalue =>
    exact readField_replaced before after fun _ => hread _ _ hvalue

theorem readField_filled {known optional : List String} {document document' : Json}
    (h : Filled known optional document document') (hknown : name ∈ known)
    (hread : name ∈ optional → read none = read (some .null)) :
    readField names name read document = readField names name read document' := by
  cases h with
  | @unknown before after key hkey value =>
    apply readField_object
    · simp
    have hne : some key ≠ some name := by
      rintro ⟨⟩
      exact hkey hknown
    simp only [slot?, valuesOf_append, valuesOf_cons, if_neg hne]
  | @null before after key hkey hmissing =>
    apply readField_object
    · simp
    by_cases hname : key = name
    · subst hname
      have hempty : valuesOf key before ++ valuesOf key after = [] := by
        rw [← valuesOf_append]
        exact hmissing
      obtain ⟨hbefore, hafter⟩ := List.append_eq_nil_iff.1 hempty
      simp [slot?, valuesOf_append, valuesOf_cons, hbefore, hafter, hread hkey]
    · have hne : some key ≠ some name := by simpa using hname
      simp only [slot?, valuesOf_append, valuesOf_cons, if_neg hne]

end Json

open Json

namespace CommandRecord

def fieldNames : List String := ["Command", "Target", "Value", "Targets", "Description"]

theorem ofJson?_eq_fields (document : Json) : ofJson? document = (do
    let command ← readField fieldNames "Command" (required text?) document
    let target ← readField fieldNames "Target" (defaulted none optionalText?) document
    let value ← readField fieldNames "Value" (defaulted none optionalText?) document
    let targets ← readField fieldNames "Targets" (defaulted [] targetsOfJson?) document
    let description ← readField fieldNames "Description" (defaulted none optionalText?) document
    pure ⟨command, target, value, targets, description⟩) := by
  cases document with
  | object members =>
    simp only [readField, slotIn?]
    unfold ofJson?
    simp only [slots?, List.mapM_cons, List.mapM_nil]
    cases members.all (·.1.isSome)
    · rfl
    cases slot? members "Command"
    · rfl
    cases slot? members "Target"
    · simp
    cases slot? members "Value"
    · simp
    cases slot? members "Targets"
    · simp
    cases slot? members "Description"
    · simp
    rfl
  | array items =>
    rcases items with _ | ⟨_, _ | ⟨_, _ | ⟨_, _ | ⟨_, _ | ⟨_, _ | ⟨_, items⟩⟩⟩⟩⟩⟩
    all_goals rfl
  | _ => rfl

/-- A command is read alike from documents whose fields are. -/
theorem ofJson?_congr {document document' : Json}
    (hcommand : readField fieldNames "Command" (required text?) document =
      readField fieldNames "Command" (required text?) document')
    (htext : ∀ name ∈ ["Target", "Value", "Description"],
      readField fieldNames name (defaulted none optionalText?) document =
        readField fieldNames name (defaulted none optionalText?) document')
    (htargets : readField fieldNames "Targets" (defaulted [] targetsOfJson?) document =
      readField fieldNames "Targets" (defaulted [] targetsOfJson?) document') :
    ofJson? document = ofJson? document' := by
  rw [ofJson?_eq_fields, ofJson?_eq_fields, hcommand, htext "Target" (by decide),
    htext "Value" (by decide), htargets, htext "Description" (by decide)]

def optionalNames : List String := ["Target", "Value", "Targets", "Description"]

end CommandRecord

/-! ### Readers -/

namespace Json

theorem depthOfItems_eq (items : List Json) :
    depthOfItems items = (items.map depth).foldr max 0 := by
  induction items with
  | nil => rfl
  | cons item items ih => rw [depthOfItems, ih, List.map_cons, List.foldr_cons]

theorem depthOfMembers_eq (members : List (Option String × Json)) :
    depthOfMembers members = (members.map (·.2.depth)).foldr max 0 := by
  induction members with
  | nil => rfl
  | cons member members ih => rw [depthOfMembers, ih, List.map_cons, List.foldr_cons]

theorem depth_rearranged {document document' : Json} (h : Rearranged document document') :
    document.depth = document'.depth := by
  induction h with
  | here hperm => simp only [depth, depthOfMembers_eq, (hperm.map _).foldr_eq]
  | item before after _ ih => simp [depth, depthOfItems_eq, ih]
  | member before after key _ ih => simp [depth, depthOfMembers_eq, ih]

theorem isSound_rearranged {document document' : Json} (h : Rearranged document document') :
    document.isSound = document'.isSound := by
  induction h with
  | here hperm =>
    simp only [isSound, areSoundMembers_eq]
    rw [Bool.eq_iff_iff, List.all_eq_true, List.all_eq_true]
    simp only [hperm.mem_iff]
  | item before after _ ih => simp [isSound, areSoundItems_eq, ih]
  | member before after key _ ih => simp [isSound, areSoundMembers_eq, ih]

theorem isReadable_rearranged {document document' : Json} (h : Rearranged document document')
    (outer : Nat) : document.isReadable outer = document'.isReadable outer := by
  rw [isReadable, isReadable, isSound_rearranged h, depth_rearranged h]

theorem text?_rearranged {document document' : Json} (h : Rearranged document document') :
    text? document = text? document' := by
  cases h <;> rfl

theorem optionalText?_rearranged {document document' : Json} (h : Rearranged document document') :
    optionalText? document = optionalText? document' := by
  cases h <;> rfl

end Json

namespace CommandRecord

theorem targetOfJson?_rearranged {document document' : Json} (h : Rearranged document document') :
    targetOfJson? document = targetOfJson? document' := by
  have hreadable := isReadable_rearranged h depthOfTargets
  unfold targetOfJson?
  rw [hreadable]
  split
  · cases h with
    | here | member => rfl
    | item before after hitem =>
      rcases before with _ | ⟨first, _ | ⟨second, before⟩⟩
      · -- What was rearranged is no text.
        cases hitem <;> rfl
      · rcases first with _ | _ | _ | (_ | _) | _ | _ <;> rcases after with _ | _ <;> rfl
      · rcases first with _ | _ | _ | (_ | _) | _ | _ <;> rcases before with _ | _ <;> rfl
  · rfl

theorem targetsOfJson?_rearranged {document document' : Json} (h : Rearranged document document') :
    targetsOfJson? document = targetsOfJson? document' := by
  cases h with
  | here | member => rfl
  | item before after hitem => exact mapM_replaced (targetOfJson?_rearranged hitem) before after

theorem ofJson?_rearranged {document document' : Json} (h : Rearranged document document') :
    ofJson? document = ofJson? document' := by
  apply ofJson?_congr
  · exact readField_rearranged h fun _ _ => text?_rearranged
  · exact fun name _ => readField_rearranged h fun _ _ => optionalText?_rearranged
  · exact readField_rearranged h fun _ _ => targetsOfJson?_rearranged

/-- One change in the object of a command that leaves the command as it is: a member that says
nothing, or another label. -/
inductive Alike : Json → Json → Prop
  | filled {document document' : Json} (h : Filled fieldNames optionalNames document document') :
      Alike document document'
  | relabelled (before after : List (Option String × Json)) (earlier later : List Json)
      (selector : String) {label label' : Json} (h : Legible label) (h' : Legible label') :
      Alike
        (.object (before ++
          (some "Targets", .array (earlier ++ .array [.text selector, label] :: later)) :: after))
        (.object (before ++
          (some "Targets", .array (earlier ++ .array [.text selector, label'] :: later)) :: after))

theorem ofJson?_alike {document document' : Json} (h : Alike document document') :
    ofJson? document = ofJson? document' := by
  cases h with
  | filled h =>
    apply ofJson?_congr
    · exact readField_filled h (by decide) fun hoptional => absurd hoptional (by decide)
    · intro name hname
      have hknown : name ∈ fieldNames := by revert name; decide
      exact readField_filled h hknown fun _ => rfl
    · exact readField_filled h (by decide) fun _ => rfl
  | relabelled before after earlier later selector hlabel hlabel' =>
    have htarget := (targetOfJson?_eq_some.2 (.labelled selector hlabel)).trans
      (targetOfJson?_eq_some.2 (.labelled selector hlabel')).symm
    apply ofJson?_congr
    · exact readField_replaced before after fun hkey => absurd hkey (by decide)
    · intro name hname
      have hne : "Targets" ≠ name := by revert name; decide
      exact readField_replaced before after fun hkey => absurd (Option.some.inj hkey) hne
    · exact readField_replaced before after fun _ => mapM_replaced htarget earlier later

end CommandRecord

namespace Script

def fieldNames : List String := ["Name", "CreationDate", "Commands"]

def optionalNames : List String := ["Name", "CreationDate"]

/-- One change in a document that leaves the script as it is. -/
inductive Alike : Json → Json → Prop
  | rearranged {document document' : Json} (h : Rearranged document document') :
      Alike document document'
  | filled {document document' : Json} (h : Filled fieldNames optionalNames document document') :
      Alike document document'
  | command (before after : List (Option String × Json)) (earlier later : List Json)
      {command command' : Json} (h : CommandRecord.Alike command command') :
      Alike
        (.object (before ++ (some "Commands", .array (earlier ++ command :: later)) :: after))
        (.object (before ++ (some "Commands", .array (earlier ++ command' :: later)) :: after))

theorem ofJson?_eq_fields (document : Json) : ofJson? document = (do
    let name ← readField fieldNames "Name" (defaulted none optionalText?) document
    let creationDate ← readField fieldNames "CreationDate" (defaulted none optionalText?) document
    let commands ← readField fieldNames "Commands" (required commandsOfJson?) document
    pure ⟨name, creationDate, commands⟩) := by
  cases document with
  | object members =>
    simp only [readField, slotIn?]
    unfold ofJson?
    simp only [slots?, List.mapM_cons, List.mapM_nil]
    cases members.all (·.1.isSome)
    · rfl
    cases slot? members "Name"
    · rfl
    cases slot? members "CreationDate"
    · simp
    cases slot? members "Commands"
    · simp
    rfl
  | array items =>
    rcases items with _ | ⟨_, _ | ⟨_, _ | ⟨_, _ | ⟨_, items⟩⟩⟩⟩
    all_goals rfl
  | _ => rfl

/-- A script is read alike from documents whose fields are. -/
theorem ofJson?_congr {document document' : Json}
    (htext : ∀ name ∈ ["Name", "CreationDate"],
      readField fieldNames name (defaulted none optionalText?) document =
        readField fieldNames name (defaulted none optionalText?) document')
    (hcommands : readField fieldNames "Commands" (required commandsOfJson?) document =
      readField fieldNames "Commands" (required commandsOfJson?) document') :
    ofJson? document = ofJson? document' := by
  rw [ofJson?_eq_fields, ofJson?_eq_fields, htext "Name" (by decide),
    htext "CreationDate" (by decide), hcommands]

theorem commandsOfJson?_rearranged {document document' : Json} (h : Rearranged document document') :
    commandsOfJson? document = commandsOfJson? document' := by
  cases h with
  | here | member => rfl
  | item before after hitem =>
    exact mapM_replaced (CommandRecord.ofJson?_rearranged hitem) before after

theorem ofJson?_alike {document document' : Json} (h : Alike document document') :
    ofJson? document = ofJson? document' := by
  cases h with
  | rearranged h =>
    apply ofJson?_congr
    · exact fun name _ => readField_rearranged h fun _ _ => optionalText?_rearranged
    · exact readField_rearranged h fun _ _ => commandsOfJson?_rearranged
  | filled h =>
    apply ofJson?_congr
    · intro name hname
      have hknown : name ∈ fieldNames := by revert name; decide
      exact readField_filled h hknown fun _ => rfl
    · exact readField_filled h (by decide) fun hoptional => absurd hoptional (by decide)
  | command before after earlier later hcommand =>
    have hread := CommandRecord.ofJson?_alike hcommand
    apply ofJson?_congr
    · intro name hname
      have hne : "Commands" ≠ name := by revert name; decide
      exact readField_replaced before after fun hkey => absurd (Option.some.inj hkey) hne
    · exact readField_replaced before after fun _ => mapM_replaced hread earlier later

/-- Any number of such changes, in either direction, leave the script as it is. -/
theorem ofJson?_eqvGen {document document' : Json}
    (h : Relation.EqvGen Alike document document') : ofJson? document = ofJson? document' := by
  induction h with
  | rel _ _ h => exact ofJson?_alike h
  | refl => rfl
  | symm _ _ _ ih => exact ih.symm
  | trans _ _ _ _ _ ih ih' => exact ih.trans ih'

/-- A text in object form is a script exactly when it has the recorded shape, and then it is the
script of that shape; in a readable text the labels ask for nothing. Texts that differ only in the
order of members, in members that say nothing and in labels are read alike. -/
theorem scripts_are_read_by_shape {text : String} {document : Json}
    (htext : Json.parse? text = some document) (hform : InObjectForm document) :
    (∀ script, parse? text = some script ↔
        ∃ members, document = .object members ∧ script.Recorded CommandRecord.Legible members) ∧
      (document.isReadable 0 = true → ∀ script, parse? text = some script ↔
        ∃ members, document = .object members ∧ script.Recorded (fun _ => True) members) ∧
      ∀ text' document', Json.parse? text' = some document' →
        Relation.EqvGen Alike document document' → parse? text' = parse? text := by
  have hparse : parse? text = ofJson? document := by rw [parse?, htext, Option.bind_some]
  refine ⟨fun script => ?_, fun hreadable script => ?_, fun text' document' htext' halike => ?_⟩
  · rw [hparse]
    exact ofJson?_eq_some hform
  · rw [hparse, ofJson?_eq_some hform]
    constructor
    · rintro ⟨members, rfl, hrecorded⟩
      exact ⟨members, rfl, (recorded_iff_of_isReadable hreadable).1 hrecorded⟩
    · rintro ⟨members, rfl, hrecorded⟩
      exact ⟨members, rfl, (recorded_iff_of_isReadable hreadable).2 hrecorded⟩
  · rw [hparse, parse?, htext', Option.bind_some, ofJson?_eqvGen halike]

/-- A recording with a label and a field without a name is read, also with its fields reversed. -/
theorem labelled_recording_is_read :
    let targets := Json.array [.array [.text "css=a", .null], .text "id=a"]
    let command := Json.ofFields [("Command", .text "click"), ("Targets", targets)]
    let members := [(some "Commands", .array [command]), (some "Note", .bool true)]
    parse? (Json.object members).render =
        some ⟨none, none, [⟨"click", none, none, ["css=a", "id=a"], none⟩]⟩ ∧
      parse? (Json.object members.reverse).render = parse? (Json.object members).render := by
  intro targets command members
  have hform : InObjectForm (.object members) := by
    rintro documents hmem items hitems
    obtain rfl : documents = [command] := by simpa [members] using hmem
    simp [command, ofFields] at hitems
  obtain ⟨-, hshape, halike⟩ := scripts_are_read_by_shape (parse?_render _) hform
  refine ⟨(hshape (by decide) _).2 ⟨members, rfl, ?_⟩, ?_⟩
  · have hcommand : CommandRecord.Recorded (fun _ => True)
        [(some "Command", .text "click"), (some "Targets", targets)]
        ⟨"click", none, none, ["css=a", "id=a"], none⟩ :=
      ⟨by simp [Named], rfl, ⟨none, rfl, .missing⟩, ⟨none, rfl, .missing⟩, ⟨some targets, rfl, .listed
        (.cons (.labelled _ trivial) (.cons (.plain _) .nil))⟩, ⟨none, rfl, .missing⟩⟩
    exact ⟨by simp [Named, members], ⟨none, rfl, .missing⟩, ⟨none, rfl, .missing⟩, [command], rfl,
      .cons ⟨_, rfl, hcommand⟩ .nil⟩
  · have hperm : members.Perm members.reverse := members.reverse_perm.symm
    exact halike _ _ (parse?_render _) (.rel _ _ (.rearranged (.here hperm)))

end Script

end BrowserReplay
