import BrowserReplay.Json.Record
import BrowserReplay.Json.Printer
import BrowserReplay.Json.Reader

/-!
# Variables of a run

A run keeps named values, each a text or a truth value. The store is a finite map whose entries are
kept in increasing order of their names (code point by code point, which is also the byte order of
UTF-8); the order is part of the type, so two stores with the same contents are equal.
-/

namespace BrowserReplay

inductive VarValue where
  | bool (value : Bool)
  | text (value : String)
  deriving DecidableEq, Repr, Inhabited

namespace VarValue

/-- The empty text and `false` are falsy, everything else is truthy. -/
def isTruthy : VarValue → Bool
  | .bool value => value
  | .text value => value ≠ ""

def display : VarValue → String
  | .bool true => "true"
  | .bool false => "false"
  | .text value => value

def toJson : VarValue → Json
  | .bool value => .bool value
  | .text value => .text value

def ofJson? : Json → Option VarValue
  | .bool value => some (.bool value)
  | .string (some value) => some (.text value)
  | _ => none

@[simp] theorem ofJson?_toJson (value : VarValue) : ofJson? value.toJson = some value := by
  cases value <;> rfl

end VarValue

def NamesIncrease (entries : List (String × VarValue)) : Prop :=
  entries.Pairwise (·.1 < ·.1)

instance (entries : List (String × VarValue)) : Decidable (NamesIncrease entries) :=
  inferInstanceAs (Decidable (entries.Pairwise _))

structure Variables where
  entries : List (String × VarValue)
  increasing : NamesIncrease entries := by decide
  deriving DecidableEq, Repr

namespace Variables

def empty : Variables := ⟨[], .nil⟩

instance : Inhabited Variables := ⟨empty⟩

def insertEntry (name : String) (value : VarValue) :
    List (String × VarValue) → List (String × VarValue)
  | [] => [(name, value)]
  | (other, kept) :: rest =>
    if name < other then (name, value) :: (other, kept) :: rest
    else if name = other then (name, value) :: rest
    else (other, kept) :: insertEntry name value rest

theorem mem_insertEntry {name : String} {value : VarValue}
    {entries : List (String × VarValue)} {entry : String × VarValue}
    (h : entry ∈ insertEntry name value entries) : entry = (name, value) ∨ entry ∈ entries := by
  induction entries with
  | nil => simpa [insertEntry] using h
  | cons head rest ih =>
    rw [insertEntry] at h
    split at h
    · simpa using h
    · split at h
      · rcases List.mem_cons.1 h with rfl | h
        · exact .inl rfl
        · exact .inr (List.mem_cons_of_mem _ h)
      · rcases List.mem_cons.1 h with rfl | h
        · exact .inr List.mem_cons_self
        · exact (ih h).imp id (List.mem_cons_of_mem _)

theorem namesIncrease_insertEntry (name : String) (value : VarValue)
    {entries : List (String × VarValue)} (h : NamesIncrease entries) :
    NamesIncrease (insertEntry name value entries) := by
  induction entries with
  | nil => exact .cons (by simp) .nil
  | cons head rest ih =>
    obtain ⟨hhead, hrest⟩ := List.pairwise_cons.1 h
    rw [insertEntry]
    split
    · next hlt =>
      refine .cons (fun entry hmem => ?_) h
      rcases List.mem_cons.1 hmem with rfl | hmem
      · exact hlt
      · exact String.lt_trans hlt (hhead entry hmem)
    · next hge =>
      split
      · next heq => exact .cons (fun entry hmem => heq ▸ hhead entry hmem) hrest
      · next hne =>
        refine .cons (fun entry hmem => ?_) (ih hrest)
        rcases mem_insertEntry hmem with rfl | hmem
        · rcases Decidable.em (head.1 < name) with hlt | hnlt
          · exact hlt
          · exact absurd (String.le_antisymm (String.not_lt.1 hnlt) (String.not_lt.1 hge)) hne
        · exact hhead entry hmem

def set (vars : Variables) (name : String) (value : VarValue) : Variables :=
  ⟨insertEntry name value vars.entries, namesIncrease_insertEntry name value vars.increasing⟩

def get? (vars : Variables) (name : String) : Option VarValue :=
  vars.entries.lookup name

def size (vars : Variables) : Nat := vars.entries.length

def isEmpty (vars : Variables) : Bool := vars.entries.isEmpty

def setAll (vars : Variables) (entries : List (String × VarValue)) : Variables :=
  entries.foldl (fun store entry => store.set entry.1 entry.2) vars

def ofList (entries : List (String × VarValue)) : Variables := empty.setAll entries

/-- The JSON form of a store: one object, under the field `values`. -/
def toJson (vars : Variables) : Json :=
  .ofFields [("values", .ofFields (vars.entries.map fun (name, value) => (name, value.toJson)))]

def entryOfMember? : Option String × Json → Option (String × VarValue)
  | (some name, value) => (VarValue.ofJson? value).map (name, ·)
  | (none, _) => none

/-- The values in an object; of several with one name the last is kept. -/
def ofMembers? : Json → Option Variables
  | .object members => (members.mapM entryOfMember?).map ofList
  | _ => none

def ofJson? (document : Json) : Option Variables :=
  match document.slots? ["values"] with
  | some [values] => Json.required ofMembers? values
  | _ => none

def render (vars : Variables) : String := vars.toJson.render

def parse? (text : String) : Option Variables := (Json.parse? text).bind ofJson?

/-- Why a text is not loaded: it describes no variables. -/
inductive LoadError where
  | parse
  deriving DecidableEq, Repr

/-- Replaces the variables by those that a text describes, and tells how many these are. -/
def load (text : String) (vars : Variables) : Except LoadError Nat × Variables :=
  match parse? text with
  | some loaded => (.ok loaded.size, loaded)
  | none => (.error .parse, vars)

@[simp] theorem entries_empty : empty.entries = [] := rfl

@[simp] theorem entries_set (vars : Variables) (name : String) (value : VarValue) :
    (vars.set name value).entries = insertEntry name value vars.entries := rfl

@[simp] theorem setAll_nil (vars : Variables) : vars.setAll [] = vars := rfl

@[simp] theorem setAll_cons (vars : Variables) (entry : String × VarValue)
    (entries : List (String × VarValue)) :
    vars.setAll (entry :: entries) = (vars.set entry.1 entry.2).setAll entries := rfl

end Variables

end BrowserReplay
