import BrowserReplay.Json.Basic

/-!
# Records in JSON

A record with a fixed list of field names is written as an object, or as an array that gives the
values in the order of the fields. In an object a known field may stand once and unknown members are
skipped; an array may leave out fields at its end but has no items beyond the last field. Either way
the reader sees one slot per field, empty where the field is missing.
-/

namespace BrowserReplay.Json

def valuesOf (name : String) (members : List (Option String × Json)) : List Json :=
  members.filterMap fun (key, value) => if key = some name then some value else none

/-- The slot of one field of an object: a repeated field is refused. -/
def slot? (members : List (Option String × Json)) (name : String) : Option (Option Json) :=
  match valuesOf name members with
  | [] => some none
  | [value] => some (some value)
  | _ => none

def slots? (names : List String) : Json → Option (List (Option Json))
  | .object members =>
    if members.all (·.1.isSome) then names.mapM (slot? members) else none
  | .array items =>
    if items.length ≤ names.length then
      some (items.map some ++ List.replicate (names.length - items.length) none)
    else none
  | _ => none

def required (read : Json → Option α) : Option Json → Option α
  | some value => read value
  | none => none

/-- Reads a field that stands for `fallback` when it is missing. -/
def defaulted (fallback : α) (read : Json → Option α) : Option Json → Option α
  | some value => read value
  | none => some fallback

/-- A choice among names is a string, or an object whose only member is the name with `null`. -/
def choice? : Json → Option String
  | .string value => value
  | .object [(some name, .null)] => some name
  | _ => none

/-- In a document that was read in full before, the member of a choice may also be an empty
object. -/
def bufferedChoice? : Json → Option String
  | .object [(some name, .object [])] => some name
  | value => value.choice?

/-- The case of a tagged record and its other contents. The tag is a member of an object, anywhere
in it and once, or the first item of an array. -/
def tagged? (tag : String) : Json → Option (String × Json)
  | .object members =>
    match valuesOf tag members with
    | [.string (some name)] =>
      some (name, .object (members.filter (·.1 ≠ some tag)))
    | _ => none
  | .array (.string (some name) :: items) => some (name, .array items)
  | _ => none

/-- Puts a member at the end, or in the place of an earlier one of the same name. -/
def putMember (member : Option String × Json) :
    List (Option String × Json) → List (Option String × Json)
  | [] => [member]
  | other :: rest =>
    if other.1 = member.1 then member :: rest else other :: putMember member rest

mutual
/-- The document in which every name stands once in an object, with the last of its values. -/
def merged : Json → Json
  | .array items => .array (mergedItems items)
  | .object members => .object (mergedMembers [] members)
  | document => document

def mergedItems : List Json → List Json
  | [] => []
  | item :: items => merged item :: mergedItems items

def mergedMembers (kept : List (Option String × Json)) :
    List (Option String × Json) → List (Option String × Json)
  | [] => kept
  | (name, value) :: members => mergedMembers (putMember (name, merged value) kept) members
end

end BrowserReplay.Json
