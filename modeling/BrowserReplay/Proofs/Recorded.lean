import BrowserReplay.Script
import Mathlib.Data.List.Forall2

/-!
# The shape of a recorded script

A document is a script exactly when its fields have the recorded shape: no known field stands twice,
the optional ones are missing, `null` or a text, and a target is a selector or a pair that starts
with one. The label in such a pair may be any document, but it is read along with the selector, so
it must be readable where it stands (`legible`); in a readable script every label is.
-/

namespace BrowserReplay

/-- A list is read item by item, and fails when one of its items does. -/
theorem mapM_eq_some {α β : Type} {f : α → Option β} {items : List α} {results : List β} :
    items.mapM f = some results ↔ List.Forall₂ (f · = some ·) items results := by
  induction items generalizing results with
  | nil => simp [eq_comm]
  | cons item items ih =>
    rw [List.mapM_cons, List.forall₂_cons_left_iff]
    constructor
    · intro h
      obtain ⟨result, hitem, h⟩ := Option.bind_eq_some_iff.1 h
      obtain ⟨results, hitems, h⟩ := Option.bind_eq_some_iff.1 h
      exact ⟨result, results, hitem, ih.1 hitems, (Option.some.inj h).symm⟩
    · rintro ⟨result, results, hitem, hitems, rfl⟩
      simp [hitem, ih.2 hitems]

/-- Items are compared one by one, each as an item of its list. -/
theorem forall₂_imp_of_mem {α β : Type} {R S : α → β → Prop} {items : List α} {results : List β}
    (h : List.Forall₂ R items results) (himp : ∀ item ∈ items, ∀ result, R item result →
      S item result) : List.Forall₂ S items results := by
  have hmem : List.Forall₂ (fun item result => item ∈ items ∧ R item result) items results :=
    (List.forall₂_and_left _ _).2 ⟨fun _ hitem => hitem, h⟩
  exact hmem.imp fun item result ⟨hitem, hr⟩ => himp item hitem result hr

namespace Json

/-- The one value of a field, or none when the field is missing. -/
def Holds (members : List (Option String × Json)) (name : String) (slot : Option Json) : Prop :=
  valuesOf name members = slot.toList

def Field (members : List (Option String × Json)) (name : String)
    (described : Option Json → Prop) : Prop :=
  ∃ slot, Holds members name slot ∧ described slot

inductive OptionalText : Option Json → Option String → Prop
  | missing : OptionalText none none
  | null : OptionalText (some .null) none
  | text (s : String) : OptionalText (some (.text s)) (some s)

def Named (members : List (Option String × Json)) : Prop :=
  ∀ member ∈ members, member.1.isSome = true

variable {members : List (Option String × Json)} {name : String} {slot : Option Json}

theorem areSoundItems_eq {items : List Json} : areSoundItems items = items.all isSound := by
  induction items with
  | nil => rfl
  | cons item items ih => rw [areSoundItems, ih, List.all_cons]

theorem areSoundMembers_eq : areSoundMembers members =
    members.all fun member => member.1.isSome && member.2.isSound := by
  induction members with
  | nil => rfl
  | cons member members ih => rw [areSoundMembers, ih, List.all_cons]

theorem depth_le_depthOfItems {items : List Json} {item : Json} (h : item ∈ items) :
    item.depth ≤ depthOfItems items := by
  induction h with
  | head => exact Nat.le_max_left _ _
  | tail _ _ ih => exact Nat.le_trans ih (Nat.le_max_right _ _)

theorem depth_le_depthOfMembers {member : Option String × Json} (h : member ∈ members) :
    member.2.depth ≤ depthOfMembers members := by
  induction h with
  | head => exact Nat.le_max_left _ _
  | tail _ _ ih => exact Nat.le_trans ih (Nat.le_max_right _ _)

theorem isReadable_iff {outer : Nat} {part : Json} :
    part.isReadable outer = true ↔ part.isSound = true ∧ outer + part.depth ≤ depthLimit := by
  simp [isReadable]

/-- The items of a readable array are readable one step further inside. -/
theorem isReadable_item {outer : Nat} {items : List Json} {item : Json}
    (h : (array items).isReadable outer = true) (hmem : item ∈ items) :
    item.isReadable (outer + 1) = true := by
  have hdepth := depth_le_depthOfItems hmem
  simp only [isReadable_iff, isSound, areSoundItems_eq, depth, List.all_eq_true] at h ⊢
  obtain ⟨hsound, hlimit⟩ := h
  exact ⟨hsound item hmem, by omega⟩

theorem isReadable_member {outer : Nat} {value : Json}
    (h : (object members).isReadable outer = true) (hmem : (some name, value) ∈ members) :
    value.isReadable (outer + 1) = true := by
  have hdepth : value.depth ≤ depthOfMembers members := depth_le_depthOfMembers hmem
  simp only [isReadable_iff, isSound, areSoundMembers_eq, depth, List.all_eq_true,
    Bool.and_eq_true] at h ⊢
  obtain ⟨hsound, hlimit⟩ := h
  have hvalue := hsound _ hmem
  exact ⟨hvalue.2, by omega⟩

theorem slot?_eq_some : slot? members name = some slot ↔ Holds members name slot := by
  unfold slot? Holds
  rcases valuesOf name members with _ | ⟨value, _ | ⟨other, values⟩⟩ <;> cases slot <;> simp

theorem Holds.mem {value : Json} (h : Holds members name (some value)) :
    (some name, value) ∈ members := by
  have hvalue : value ∈ valuesOf name members := by rw [h]; exact List.mem_singleton_self value
  obtain ⟨⟨key, other⟩, hmem, hkey⟩ := List.mem_filterMap.1 hvalue
  simp at hkey
  obtain ⟨rfl, rfl⟩ := hkey
  exact hmem

theorem slots?_eq_some {names : List String} {slots : List (Option Json)} :
    (object members).slots? names = some slots ↔
      Named members ∧ List.Forall₂ (Holds members) names slots := by
  have hslots : List.Forall₂ (slot? members · = some ·) names slots ↔
      List.Forall₂ (Holds members) names slots := by simp only [slot?_eq_some]
  rw [slots?]
  split
  next hnamed => simpa [Named, mapM_eq_some, hslots] using fun _ => by simpa using hnamed
  next hnamed =>
    have hunnamed : ¬ Named members := by simpa [Named] using hnamed
    simp [hunnamed]

theorem required_text? {s : String} : required text? slot = some s ↔ slot = some (.text s) := by
  rcases slot with _ | _ | _ | _ | _ | _ | _ <;> simp [required, text?, text]

theorem defaulted_optionalText? {s : Option String} :
    defaulted none optionalText? slot = some s ↔ OptionalText slot s := by
  constructor
  · rcases slot with _ | _ | _ | _ | (_ | _) | _ | _ <;> rintro ⟨⟩ <;> constructor
  · rintro ⟨⟩ <;> rfl

end Json

namespace CommandRecord

open Json

/-- An entry of `Targets`, and the selector that is kept of it. -/
inductive Selects (legible : Json → Prop) : Json → String → Prop
  | plain (selector : String) : Selects legible (.text selector) selector
  | labelled (selector : String) {label : Json} (h : legible label) :
      Selects legible (.array [.text selector, label]) selector

/-- The slot of `Targets`: one selector for each entry. -/
inductive ListsTargets (legible : Json → Prop) : Option Json → List String → Prop
  | missing : ListsTargets legible none []
  | null : ListsTargets legible (some .null) []
  | listed {entries : List Json} {targets : List String}
      (h : List.Forall₂ (Selects legible) entries targets) :
      ListsTargets legible (some (.array entries)) targets

/-- The members of an object that records a command. -/
structure Recorded (legible : Json → Prop) (members : List (Option String × Json))
    (record : CommandRecord) : Prop where
  named : Named members
  command : Holds members "Command" (some (.text record.command))
  target : Field members "Target" (OptionalText · record.target)
  value : Field members "Value" (OptionalText · record.value)
  targets : Field members "Targets" (ListsTargets legible · record.targets)
  description : Field members "Description" (OptionalText · record.description)

def ListsEntry (members : List (Option String × Json)) (entry : Json) : Prop :=
  ∃ entries, (some "Targets", .array entries) ∈ members ∧ entry ∈ entries

theorem Recorded.imp {p q : Json → Prop} {members : List (Option String × Json)}
    {record : CommandRecord} (h : record.Recorded p members)
    (himp : ∀ entry, ListsEntry members entry → ∀ selector, Selects p entry selector →
      Selects q entry selector) : record.Recorded q members := by
  have htargets {slot : Option Json} {targets : List String} (hslot : Holds members "Targets" slot)
      (hlists : ListsTargets p slot targets) : ListsTargets q slot targets := by
    cases hlists with
    | missing => exact .missing
    | null => exact .null
    | listed hentries =>
      exact .listed (forall₂_imp_of_mem hentries fun entry hmem =>
        himp entry ⟨_, hslot.mem, hmem⟩)
  obtain ⟨slot, hslot, hlists⟩ := h.targets
  exact { h with targets := ⟨slot, hslot, htargets hslot hlists⟩ }

/-- A label can be read inside the arrays and objects around it, its pair included. -/
def Legible (label : Json) : Prop := label.isReadable (depthOfTargets + 1) = true

theorem isReadable_entry {selector : String} {label : Json} :
    (Json.array [.text selector, label]).isReadable depthOfTargets = true ↔ Legible label := by
  simp [Legible, isReadable, isSound, areSoundItems, Json.text, depth, depthOfItems]
  omega

theorem targetOfJson?_eq_some {entry : Json} {selector : String} :
    targetOfJson? entry = some selector ↔ Selects Legible entry selector := by
  constructor
  · intro h
    unfold targetOfJson? at h
    split at h
    next hreadable =>
      split at h
      · subst h
        exact .plain selector
      · subst h
        exact .labelled selector (isReadable_entry.1 hreadable)
      · cases h
    · cases h
  · intro h
    cases h with
    | plain => rfl
    | labelled _ hlabel => exact if_pos (isReadable_entry.2 hlabel)

theorem defaulted_targetsOfJson? {slot : Option Json} {targets : List String} :
    defaulted [] targetsOfJson? slot = some targets ↔ ListsTargets Legible slot targets := by
  have hentries (entries : List Json) :
      entries.mapM targetOfJson? = some targets ↔
        List.Forall₂ (Selects Legible) entries targets := by
    simp only [mapM_eq_some, targetOfJson?_eq_some]
  constructor
  · rcases slot with _ | _ | _ | _ | _ | entries | _
    case some.array => exact fun h => .listed ((hentries entries).1 h)
    all_goals rintro ⟨⟩ <;> constructor
  · rintro (_ | _ | h)
    · rfl
    · rfl
    · exact (hentries _).2 h

/-- An object is a command exactly when its members have the recorded shape. -/
theorem ofJson?_object {members : List (Option String × Json)} {record : CommandRecord} :
    ofJson? (.object members) = some record ↔ record.Recorded Legible members := by
  constructor
  · intro h
    unfold ofJson? at h
    split at h
    next command target value targets description hslots =>
      obtain ⟨hnamed, hslots⟩ := slots?_eq_some.1 hslots
      simp only [List.forall₂_cons, List.forall₂_nil_left_iff, and_true] at hslots
      simp only [Option.bind_eq_bind, Option.bind_eq_some_iff, Option.pure_def, Option.some.injEq,
        required_text?, defaulted_optionalText?, defaulted_targetsOfJson?] at h
      obtain ⟨hcommand, htarget, hvalue, htargets, hdescription⟩ := hslots
      obtain ⟨_, rfl, _, ht, _, hv, _, hts, _, hd, rfl⟩ := h
      exact ⟨hnamed, hcommand, ⟨target, htarget, ht⟩, ⟨value, hvalue, hv⟩,
        ⟨targets, htargets, hts⟩, ⟨description, hdescription, hd⟩⟩
    · cases h
  · rintro ⟨hnamed, hcommand, ⟨target, htarget, ht⟩, ⟨value, hvalue, hv⟩,
      ⟨targets, htargets, hts⟩, ⟨description, hdescription, hd⟩⟩
    have hslots := slots?_eq_some.2 ⟨hnamed, .cons hcommand <| .cons htarget <| .cons hvalue <|
      .cons htargets <| .cons hdescription .nil⟩
    simp [ofJson?, hslots, required_text?.2 rfl, defaulted_optionalText?.2 ht,
      defaulted_optionalText?.2 hv, defaulted_targetsOfJson?.2 hts, defaulted_optionalText?.2 hd]

end CommandRecord

namespace Script

open Json

/-- The members of an object that records a script, with its commands in order. -/
structure Recorded (legible : Json → Prop) (members : List (Option String × Json))
    (script : Script) : Prop where
  named : Named members
  name : Field members "Name" (OptionalText · script.name)
  creationDate : Field members "CreationDate" (OptionalText · script.creationDate)
  commands : ∃ documents, Holds members "Commands" (some (.array documents)) ∧
    List.Forall₂ (fun document record => ∃ members, document = .object members ∧
      record.Recorded legible members) documents script.commands

/-- Neither the document nor one of its commands is an array: scripts and commands can also be given
as arrays of their fields. -/
def InObjectForm : Json → Prop
  | .array _ => False
  | .object members => ∀ documents, (some "Commands", .array documents) ∈ members →
      ∀ items, .array items ∉ documents
  | _ => True

theorem commandsOfJson?_eq_some {documents : List Json} {commands : List CommandRecord}
    (h : ∀ items, .array items ∉ documents) :
    commandsOfJson? (.array documents) = some commands ↔
      List.Forall₂ (fun document record => ∃ members, document = .object members ∧
        record.Recorded CommandRecord.Legible members) documents commands := by
  have hcommand : ∀ document ∈ documents, ∀ record, CommandRecord.ofJson? document = some record ↔
      ∃ members, document = .object members ∧ record.Recorded CommandRecord.Legible members := by
    intro document hmem record
    cases document with
    | object members => simp [CommandRecord.ofJson?_object]
    | array items => exact absurd hmem (h items)
    | _ => simp [CommandRecord.ofJson?, slots?]
  rw [commandsOfJson?, mapM_eq_some]
  exact ⟨fun hread => forall₂_imp_of_mem hread fun document hmem record =>
      (hcommand document hmem record).1,
    fun hshape => forall₂_imp_of_mem hshape fun document hmem record =>
      (hcommand document hmem record).2⟩

theorem required_commandsOfJson? {slot : Option Json} {commands : List CommandRecord}
    (h : ∀ documents, slot = some (.array documents) → ∀ items, .array items ∉ documents) :
    required commandsOfJson? slot = some commands ↔
      ∃ documents, slot = some (.array documents) ∧
        List.Forall₂ (fun document record => ∃ members, document = .object members ∧
          record.Recorded CommandRecord.Legible members) documents commands := by
  rcases slot with _ | _ | _ | _ | _ | documents | _
  case some.array => simpa [required] using commandsOfJson?_eq_some (h documents rfl)
  all_goals simp [required, commandsOfJson?]

/-- A document in object form is a script exactly when it has the recorded shape. -/
theorem ofJson?_eq_some {document : Json} {script : Script} (h : InObjectForm document) :
    ofJson? document = some script ↔
      ∃ members, document = .object members ∧ script.Recorded CommandRecord.Legible members := by
  cases document with
  | array items => exact h.elim
  | object members =>
    have hcommands {slot : Option Json} (hslot : Holds members "Commands" slot) :
        ∀ documents, slot = some (.array documents) → ∀ items, .array items ∉ documents := by
      rintro documents rfl
      exact h documents hslot.mem
    constructor
    · intro hread
      refine ⟨members, rfl, ?_⟩
      unfold ofJson? at hread
      split at hread
      next name creationDate commands hslots =>
        obtain ⟨hnamed, hslots⟩ := slots?_eq_some.1 hslots
        simp only [List.forall₂_cons, List.forall₂_nil_left_iff, and_true] at hslots
        obtain ⟨hname, hdate, hslot⟩ := hslots
        simp only [Option.bind_eq_bind, Option.bind_eq_some_iff, Option.pure_def,
          Option.some.injEq, defaulted_optionalText?,
          required_commandsOfJson? (hcommands hslot)] at hread
        obtain ⟨_, hn, _, hd, _, ⟨documents, rfl, hshape⟩, rfl⟩ := hread
        exact ⟨hnamed, ⟨name, hname, hn⟩, ⟨creationDate, hdate, hd⟩, documents, hslot, hshape⟩
      · cases hread
    · rintro ⟨_, ⟨⟩, hnamed, ⟨name, hname, hn⟩, ⟨creationDate, hdate, hd⟩, documents, hslot, hshape⟩
      have hslots := slots?_eq_some.2 ⟨hnamed, .cons hname <| .cons hdate <| .cons hslot .nil⟩
      have hread := (required_commandsOfJson? (hcommands hslot)).2 ⟨documents, rfl, hshape⟩
      simp [ofJson?, hslots, hread, defaulted_optionalText?.2 hn, defaulted_optionalText?.2 hd]
  | _ => simp [ofJson?, slots?]

/-! ### Labels of readable scripts -/

def ListsEntry (members : List (Option String × Json)) (entry : Json) : Prop :=
  ∃ documents command, (some "Commands", .array documents) ∈ members ∧
    .object command ∈ documents ∧ CommandRecord.ListsEntry command entry

theorem Recorded.imp {p q : Json → Prop} {members : List (Option String × Json)} {script : Script}
    (h : script.Recorded p members) (himp : ∀ entry, ListsEntry members entry → ∀ selector,
      CommandRecord.Selects p entry selector → CommandRecord.Selects q entry selector) :
    script.Recorded q members := by
  obtain ⟨documents, hslot, hshape⟩ := h.commands
  refine ⟨h.named, h.name, h.creationDate, documents, hslot, forall₂_imp_of_mem hshape ?_⟩
  rintro _ hmem record ⟨command, rfl, hrecord⟩
  exact ⟨command, rfl, hrecord.imp fun entry hentry => himp entry
    ⟨documents, command, hslot.mem, hmem, hentry⟩⟩

theorem isReadable_entry {members : List (Option String × Json)} {entry : Json}
    (h : (object members).isReadable 0 = true) (hentry : ListsEntry members entry) :
    entry.isReadable CommandRecord.depthOfTargets = true := by
  obtain ⟨documents, command, hcommands, hcommand, entries, htargets, hmem⟩ := hentry
  exact isReadable_item (isReadable_member (isReadable_item (isReadable_member h hcommands)
    hcommand) htargets) hmem

/-- In a readable script the labels ask for nothing. -/
theorem recorded_iff_of_isReadable {members : List (Option String × Json)} {script : Script}
    (h : (object members).isReadable 0 = true) :
    script.Recorded CommandRecord.Legible members ↔ script.Recorded (fun _ => True) members := by
  refine ⟨fun hrecorded => hrecorded.imp fun entry _ selector hselects => ?_,
    fun hrecorded => hrecorded.imp fun entry hentry selector hselects => ?_⟩
  · cases hselects with
    | plain => exact .plain selector
    | labelled => exact .labelled selector trivial
  · have hreadable := isReadable_entry h hentry
    cases hselects with
    | plain => exact .plain selector
    | labelled => exact .labelled selector (CommandRecord.isReadable_entry.1 hreadable)

end Script

end BrowserReplay
