import BrowserReplay.Proofs.Alike
import BrowserReplay.Proofs.Dispatched
import Mathlib.Data.List.Forall2

/-!
# Secrets of a script

Some commands hold a text that is to stay secret: what is stored under a name that suggests a
credential, and what is written into an element whose selector suggests one. Two scripts differ only
in secrets if their commands are the same without these texts and no other text reads what the
secrets have left (`DifferInSecrets`). The stores of two such runs are the same but for values that
are shown as a mask (`Variables.Veiled`), so every other text reads the same in both
(`Avoid.agreeOn`).
-/

namespace BrowserReplay

/-! ### Stores with hidden values -/

/-- An entry is the same in two stores, but for a value under one of the hidden names, which is
shown as a mask. -/
def VeiledEntry (hidden : List String) (entry entry' : String × VarValue) : Prop :=
  entry.1 = entry'.1 ∧
    (entry.2 = entry'.2 ∨
      entry.1 ∈ hidden ∧ isSensitive entry.1 = true ∧ entry.2.display ≠ "" ∧
        entry'.2.display ≠ "")

/-- Two stores have the same entries, but for values under hidden names. -/
def Variables.Veiled (hidden : List String) (vars vars' : Variables) : Prop :=
  List.Forall₂ (VeiledEntry hidden) vars.entries vars'.entries

namespace Variables

variable {hidden : List String}

theorem insertEntry_veiled {name : String} {value value' : VarValue}
    (hentry : VeiledEntry hidden (name, value) (name, value'))
    {entries entries' : List (String × VarValue)}
    (h : List.Forall₂ (VeiledEntry hidden) entries entries') :
    List.Forall₂ (VeiledEntry hidden) (insertEntry name value entries)
      (insertEntry name value' entries') := by
  induction h with
  | nil => exact .cons hentry .nil
  | @cons first first' rest rest' hfirst hrest ih =>
    obtain ⟨other, kept⟩ := first
    obtain ⟨other', kept'⟩ := first'
    obtain rfl : other = other' := hfirst.1
    rw [insertEntry, insertEntry]
    split
    · exact .cons hentry (.cons hfirst hrest)
    · split
      · exact .cons hentry hrest
      · exact .cons hfirst ih

theorem Veiled.set {vars vars' : Variables} (h : Veiled hidden vars vars') {name : String}
    {value value' : VarValue} (hentry : VeiledEntry hidden (name, value) (name, value')) :
    Veiled hidden (vars.set name value) (vars'.set name value') :=
  insertEntry_veiled hentry h

theorem Veiled.setAll {vars vars' : Variables} (h : Veiled hidden vars vars')
    (entries : List (String × VarValue)) :
    Veiled hidden (vars.setAll entries) (vars'.setAll entries) := by
  induction entries generalizing vars vars' with
  | nil => exact h
  | cons entry entries ih => exact ih (h.set ⟨rfl, .inl rfl⟩)

theorem lookup_veiled {entries entries' : List (String × VarValue)}
    (h : List.Forall₂ (VeiledEntry hidden) entries entries') {name : String}
    (hname : name ∉ hidden) : entries.lookup name = entries'.lookup name := by
  induction h with
  | nil => rfl
  | @cons first first' rest rest' hfirst hrest ih =>
    obtain ⟨other, kept⟩ := first
    obtain ⟨other', kept'⟩ := first'
    obtain ⟨rfl, hvalue⟩ : other = other' ∧ _ := hfirst
    rw [List.lookup_cons, List.lookup_cons]
    cases heq : name == other with
    | false => exact ih
    | true =>
      obtain rfl | ⟨hmem, _⟩ := hvalue
      · rfl
      · exact absurd (eq_of_beq heq ▸ hmem) hname

end Variables

/-! ### Texts that name no hidden variable -/

def Template.Part.name? : Part → Option String
  | .literal _ => none
  | .placeholder _ name => some (String.ofList name)

def Template.names : Option String → List String
  | none => []
  | some template => (parts template.toList).filterMap Part.name?

def Avoid (hidden : List String) (templates : List (Option String)) : Prop :=
  ∀ template ∈ templates, ∀ name ∈ Template.names template, name ∉ hidden

theorem Template.Part.expand_veiled {hidden : List String} {vars vars' : Variables}
    (h : vars.Veiled hidden vars') {part : Part}
    (hname : ∀ name, part.name? = some name → name ∉ hidden) :
    part.expand vars = part.expand vars' := by
  cases part with
  | literal c => rfl
  | placeholder negated name =>
    have hget : vars.get? (String.ofList name) = vars'.get? (String.ofList name) :=
      Variables.lookup_veiled h (hname _ rfl)
    cases negated <;> rw [expand, expand, hget]

/-- Such texts read the same in both runs. -/
theorem Avoid.agreeOn {hidden : List String} {templates : List (Option String)}
    (h : Avoid hidden templates) {vars vars' : Variables} (hvars : vars.Veiled hidden vars') :
    vars.AgreeOn vars' templates := by
  intro template hmem
  cases template with
  | none => rfl
  | some template =>
    refine congrArg String.join (List.map_congr_left fun part hpart => ?_)
    refine Template.Part.expand_veiled hvars fun name hname => ?_
    exact h _ hmem name (List.mem_filterMap.2 ⟨part, hpart, hname⟩)

/-! ### Commands with a secret -/

namespace Command

/-- Whether the text of a command is to stay secret: what is stored under a sensitive name, or
written into an element with a sensitive selector. -/
def isSecret (vars : Variables) : Command → Bool
  | .store _ name => isSensitive (Template.substitute vars name)
  | .type target _ => isSensitive (Template.substitute vars target.primary)
  | _ => false

def text : Command → Option String
  | .store value _ => value
  | .type _ text => text
  | _ => none

def withoutText : Command → Command
  | .store _ name => .store none name
  | .type target _ => .type target none
  | command => command

theorem isSecret_withoutText (vars : Variables) (command : Command) :
    command.withoutText.isSecret vars = command.isSecret vars := by
  cases command <;> rfl

theorem name_withoutText (command : Command) : command.withoutText.name = command.name := by
  cases command <;> rfl

/-- Whether a command has a secret depends on some of its texts. -/
theorem isSecret_eq {vars vars' : Variables} {command : Command}
    (h : vars.AgreeOn vars' command.templates) :
    command.isSecret vars = command.isSecret vars' := by
  cases command with
  | store value name =>
    rw [isSecret, isSecret, h name (List.mem_cons_of_mem _ List.mem_cons_self)]
  | type target text =>
    rw [isSecret, isSecret, h target.primary (List.mem_cons_of_mem _ List.mem_cons_self)]
  | _ => rfl

end Command

namespace Dispatch

def isSecret (dispatch : Dispatch) : Bool := dispatch.command.isSecret dispatch.vars

def shown (dispatch : Dispatch) : Command :=
  if dispatch.isSecret then dispatch.command.withoutText else dispatch.command

def text (dispatch : Dispatch) : String :=
  Template.substitute dispatch.vars dispatch.command.text

def hides? (dispatch : Dispatch) : Option String :=
  match dispatch.command with
  | .store _ name =>
    if dispatch.isSecret then some (Template.substitute dispatch.vars name) else none
  | _ => none

end Dispatch

/-- What two scripts dispatch is the same but for secrets, and no secret can be read elsewhere. -/
structure DifferInSecrets (first second : List Dispatch) : Prop where
  shown : ∀ pair ∈ first.zip second, pair.1.shown = pair.2.shown
  /-- An empty secret would not be masked. -/
  nonempty : ∀ dispatch ∈ first ++ second, dispatch.isSecret = true → dispatch.text ≠ ""
  /-- Only secrets name the variables in which secrets are stored. -/
  avoid : ∀ dispatch ∈ first ++ second,
    Avoid ((first ++ second).filterMap Dispatch.hides?) dispatch.shown.templates

/-- What is known of two commands that are dispatched together. -/
structure Dispatch.Discreet (hidden : List String) (first second : Dispatch) : Prop where
  shown : first.shown = second.shown
  nonempty : first.isSecret = true → first.text ≠ ""
  nonempty' : second.isSecret = true → second.text ≠ ""
  avoid : Avoid hidden first.shown.templates
  hides : ∀ name, first.hides? = some name → name ∈ hidden

theorem DifferInSecrets.discreet {first second : List Dispatch} (h : DifferInSecrets first second)
    {pair : Dispatch × Dispatch} (hpair : pair ∈ first.zip second) :
    pair.1.Discreet ((first ++ second).filterMap Dispatch.hides?) pair.2 := by
  have hfirst : pair.1 ∈ first ++ second := List.mem_append_left _ (List.of_mem_zip hpair).1
  have hsecond : pair.2 ∈ first ++ second := List.mem_append_right _ (List.of_mem_zip hpair).2
  exact ⟨h.shown pair hpair, h.nonempty _ hfirst, h.nonempty _ hsecond, h.avoid _ hfirst,
    fun name hname => List.mem_filterMap.2 ⟨_, hfirst, hname⟩⟩

namespace Dispatch.Discreet

variable {hidden : List String} {first second : Dispatch}

theorem isSecret_eq (h : first.Discreet hidden second)
    (hvars : first.vars.Veiled hidden second.vars) : first.isSecret = second.isSecret := by
  have hsecret (dispatch : Dispatch) :
      dispatch.isSecret = dispatch.shown.isSecret dispatch.vars := by
    unfold Dispatch.shown
    split
    · exact (Command.isSecret_withoutText _ _).symm
    · rfl
  rw [hsecret first, hsecret second, ← h.shown]
  exact Command.isSecret_eq (h.avoid.agreeOn hvars)

theorem name_eq (h : first.Discreet hidden second) : first.command.name = second.command.name := by
  have hname (dispatch : Dispatch) : dispatch.shown.name = dispatch.command.name := by
    unfold Dispatch.shown
    split
    · exact Command.name_withoutText _
    · rfl
  rw [← hname first, ← hname second, h.shown]

/-- Two commands that are dispatched together are the same, or both have a secret. -/
theorem same_or_secret (h : first.Discreet hidden second)
    (hvars : first.vars.Veiled hidden second.vars) :
    first.command = second.command ∧ Avoid hidden first.command.templates ∨
      first.isSecret = true ∧ second.isSecret = true ∧
        first.command.withoutText = second.command.withoutText ∧
          Avoid hidden first.command.withoutText.templates := by
  have hsecret := h.isSecret_eq hvars
  have hshown := h.shown
  have havoid := h.avoid
  unfold Dispatch.shown at hshown havoid
  rw [← hsecret] at hshown ⊢
  cases hfirst : first.isSecret with
  | false =>
    rw [hfirst] at hshown havoid
    exact .inl ⟨hshown, havoid⟩
  | true =>
    rw [hfirst] at hshown havoid
    exact .inr ⟨rfl, rfl, hshown, havoid⟩

end Dispatch.Discreet

/-! ### What is shown -/

theorem maskIf_eq_mask {hint value : String} (hvalue : value ≠ "")
    (hhint : isSensitive hint = true) : maskIf true hint value = mask := by
  rw [maskIf, if_pos rfl, maskSensitive, if_pos ⟨hvalue, hhint⟩]

/-- The line of a variable shows nothing of a hidden value. -/
theorem Report.variableLine_eq {hidden : List String} {entry entry' : String × VarValue}
    (h : VeiledEntry hidden entry entry') : variableLine true entry = variableLine true entry' := by
  obtain ⟨name, value⟩ := entry
  obtain ⟨name', value'⟩ := entry'
  obtain ⟨rfl, rfl | ⟨_, hsensitive, hvalue, hvalue'⟩⟩ : name = name' ∧ _ := h
  · rfl
  · rw [variableLine, variableLine, maskIf_eq_mask hvalue hsensitive,
      maskIf_eq_mask hvalue' hsensitive]

theorem Report.map_variableLine_eq {hidden : List String}
    {entries entries' : List (String × VarValue)}
    (h : List.Forall₂ (VeiledEntry hidden) entries entries') :
    entries.map (variableLine true) = entries'.map (variableLine true) := by
  induction h with
  | nil => rfl
  | cons hentry _ ih => rw [List.map_cons, List.map_cons, variableLine_eq hentry, ih]

theorem Report.text_eq {hidden : List String} (state : RunState) (dispatched remaining : Nat)
    (tally : Tally) {vars vars' : Variables} (h : vars.Veiled hidden vars') :
    text true ⟨state, dispatched, tally, remaining, vars⟩ =
      text true ⟨state, dispatched, tally, remaining, vars'⟩ := by
  have hlines := map_variableLine_eq h
  have hempty : vars.isEmpty = vars'.isEmpty := by
    rw [Bool.eq_iff_iff, Variables.isEmpty, Variables.isEmpty, List.isEmpty_iff_length_eq_zero,
      List.isEmpty_iff_length_eq_zero, h.length_eq]
  unfold text
  dsimp only
  rw [hlines, hempty]

end BrowserReplay
