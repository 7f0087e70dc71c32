import BrowserReplay.Proofs.Recorded
import BrowserReplay.Proofs.WrittenJson

/-!
# Scripts that are written and read

A script is written with some of its absent fields left out and others as `null`, and a list of
targets is written plainly. Either way the fields have the recorded shape, so the script is read
back as it was, and to write what was read from any text gives a text that stays as it is.
-/

namespace BrowserReplay

open Json

theorem Json.named_ofFields (fields : List (String × Json)) :
    Named (fields.map fun field => (some field.1, field.2)) := by
  intro member hmem
  obtain ⟨field, -, rfl⟩ := List.mem_map.1 hmem
  rfl

theorem Json.optionalText_ofText? (s : Option String) : OptionalText (some (ofText? s)) s := by
  cases s <;> constructor

theorem Json.optionalText_text (s : Option String) : OptionalText (s.map .text) s := by
  cases s <;> constructor

namespace CommandRecord

theorem selects_texts (legible : Json → Prop) (selectors : List String) :
    List.Forall₂ (Selects legible) (selectors.map .text) selectors := by
  rw [List.forall₂_map_left_iff, List.forall₂_same]
  exact fun selector _ => .plain selector

/-- What is written for a command has the recorded shape, with no label in it. -/
theorem recorded_toJson (record : CommandRecord) : ∃ members, record.toJson = .object members ∧
    record.Recorded Legible members := by
  obtain ⟨command, target, value, targets, description⟩ := record
  refine ⟨_, rfl, named_ofFields _, ?_, ⟨some (ofText? target), ?_, optionalText_ofText? target⟩,
    ⟨some (ofText? value), ?_, optionalText_ofText? value⟩, ?_,
    ⟨description.map .text, ?_, optionalText_text description⟩⟩
  case refine_4 =>
    -- An empty list is left out.
    cases targets with
    | nil => exact ⟨none, by cases description <;> rfl, .missing⟩
    | cons selector selectors =>
      exact ⟨some (.array ((selector :: selectors).map .text)), by cases description <;> rfl,
        .listed (selects_texts Legible _)⟩
  all_goals cases targets <;> cases description <;> rfl

theorem ofJson?_toJson (record : CommandRecord) : ofJson? record.toJson = some record := by
  obtain ⟨members, hmembers, hrecorded⟩ := recorded_toJson record
  rw [hmembers]
  exact ofJson?_object.2 hrecorded

end CommandRecord

namespace Script

/-- What is written for a script has the recorded shape, in object form. -/
theorem recorded_toJson (script : Script) : InObjectForm script.toJson ∧
    ∃ members, script.toJson = .object members ∧
      script.Recorded CommandRecord.Legible members := by
  obtain ⟨name, creationDate, commands⟩ := script
  constructor
  · intro documents hmem items hitems
    obtain ⟨⟨key, value⟩, hmem, hkey⟩ := List.mem_map.1 hmem
    obtain ⟨rfl, rfl⟩ : key = "Commands" ∧ value = .array documents := by simpa using hkey
    obtain rfl : documents = commands.map CommandRecord.toJson := by simpa using hmem
    obtain ⟨record, -, hrecord⟩ := List.mem_map.1 hitems
    cases hrecord
  · refine ⟨_, rfl, named_ofFields _, ⟨name.map .text, ?_, optionalText_text name⟩,
      ⟨creationDate.map .text, ?_, optionalText_text creationDate⟩,
      commands.map CommandRecord.toJson, ?_, ?_⟩
    case refine_4 =>
      rw [List.forall₂_map_left_iff, List.forall₂_same]
      exact fun record _ => record.recorded_toJson
    all_goals cases name <;> cases creationDate <;> rfl

/-- A script is read back from its JSON form. -/
theorem ofJson?_toJson (script : Script) : ofJson? script.toJson = some script := by
  obtain ⟨hform, hrecorded⟩ := recorded_toJson script
  exact (ofJson?_eq_some hform).2 hrecorded

theorem parse?_written (script : Script) : parse? script.render = some script := by
  rw [parse?, render, parse?_render, Option.bind_some, ofJson?_toJson]

/-- Every script is read back from its text. So a text that is read is put into a normal form by
writing what was read: the text written is read as the same script, and written the same again. -/
theorem written_scripts_are_read_back :
    (∀ script : Script, parse? script.render = some script) ∧
      ∀ text : String, ∀ script ∈ parse? text,
        parse? script.render = some script ∧
          (parse? script.render).map render = some script.render := by
  refine ⟨parse?_written, fun text script _ => ?_⟩
  have hread := parse?_written script
  exact ⟨hread, by rw [hread]; rfl⟩

/-- A text with a label in it is not what is written for its script. -/
theorem labelled_script_is_written_plainly :
    let text := "\x7b\"Commands\":[\x7b\"Command\":\"click\",\"Targets\":[[\"css=a\",1]]\x7d]\x7d"
    let script : Script := ⟨none, none, [⟨"click", none, none, ["css=a"], none⟩]⟩
    parse? text = some script ∧ script.render ≠ text ∧
      (parse? script.render).map render = some script.render := by
  intro text script
  have hread : parse? text = some script := by decide +kernel
  exact ⟨hread, by decide +kernel, (written_scripts_are_read_back.2 text script hread).2⟩

end Script

end BrowserReplay
