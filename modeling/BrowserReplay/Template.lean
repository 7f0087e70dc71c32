import BrowserReplay.Variables

/-!
# Placeholders

Recorded fields may hold the placeholders `${name}` and `${!name}`. A template is cut once, from left
to right, into literal characters and placeholders; a placeholder stands for the text of a variable,
or with the exclamation mark for the negation of its truth. Substituted text is not cut again.
-/

namespace BrowserReplay.Template

def isNameChar (c : Char) : Bool := c.isAlphanum || c == '_'

inductive Part where
  | literal (c : Char)
  | placeholder (negated : Bool) (name : List Char)
  deriving DecidableEq, Repr

def nameAndBrace? (cs : List Char) : Option (List Char × List Char) :=
  match cs.takeWhile isNameChar, cs.dropWhile isNameChar with
  | [], _ => none
  | name, '\x7d' :: rest => some (name, rest)
  | _, _ => none

def placeholder? : List Char → Option ((Bool × List Char) × List Char)
  | '$' :: '\x7b' :: '!' :: rest =>
    (nameAndBrace? rest).map fun (name, rest) => ((true, name), rest)
  | '$' :: '\x7b' :: rest =>
    (nameAndBrace? rest).map fun (name, rest) => ((false, name), rest)
  | _ => none

theorem length_lt_of_nameAndBrace? {cs name rest : List Char}
    (h : nameAndBrace? cs = some (name, rest)) : rest.length < cs.length := by
  have hlen := congrArg List.length (List.takeWhile_append_dropWhile (p := isNameChar) (l := cs))
  rw [List.length_append] at hlen
  rw [nameAndBrace?] at h
  split at h
  · simp at h
  · next _ _ hdrop _ =>
    obtain ⟨_, rfl⟩ := Prod.mk.inj (Option.some.inj h)
    rw [hdrop, List.length_cons] at hlen
    omega
  · simp at h

theorem length_lt_of_placeholder? {cs rest : List Char} {found : Bool × List Char}
    (h : placeholder? cs = some (found, rest)) : rest.length < cs.length := by
  rw [placeholder?.eq_def] at h
  split at h
  · obtain ⟨⟨name, tail⟩, hname, heq⟩ := Option.map_eq_some_iff.1 h
    obtain ⟨_, rfl⟩ := Prod.mk.inj heq
    have := length_lt_of_nameAndBrace? hname
    simp only [List.length_cons]
    omega
  · obtain ⟨⟨name, tail⟩, hname, heq⟩ := Option.map_eq_some_iff.1 h
    obtain ⟨_, rfl⟩ := Prod.mk.inj heq
    have := length_lt_of_nameAndBrace? hname
    simp only [List.length_cons]
    omega
  · simp at h

def parts (cs : List Char) : List Part :=
  match _h : placeholder? cs with
  | some ((negated, name), rest) => .placeholder negated name :: parts rest
  | none =>
    match cs with
    | [] => []
    | c :: rest => .literal c :: parts rest
termination_by cs.length
decreasing_by
  · exact length_lt_of_placeholder? _h
  · simp

def Part.expand (vars : Variables) : Part → String
  | .literal c => String.singleton c
  | .placeholder false name =>
    match vars.get? (String.ofList name) with
    | some value => value.display
    | none => ""
  | .placeholder true name =>
    match vars.get? (String.ofList name) with
    | some value => (VarValue.bool !value.isTruthy).display
    | none => "true"

/-- A template with its placeholders replaced; an absent template gives the empty text. -/
def substitute (vars : Variables) : Option String → String
  | none => ""
  | some template => String.join ((parts template.toList).map (Part.expand vars))

end BrowserReplay.Template
