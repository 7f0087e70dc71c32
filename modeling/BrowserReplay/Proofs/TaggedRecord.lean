import BrowserReplay.Proofs.Rearranged
import BrowserReplay.Proofs.ScriptText

/-!
# Tagged records

A tagged record is an object whose members are its tag and its fields. What is read of it depends on
the values of the names that are looked for, and on nothing else (`Shows`): not on the order of the
members, nor on members of other names (`Spread`). A reader that puts aside all members before it
knows the tag reads these others too, so they must be readable; when each name is to stand once in
an object, the last of its values is kept.
-/

namespace BrowserReplay.Json

/-- Of the names that are looked for, those among the fields stand once in an object, with the value
that they have there, and the others do not stand in it. -/
def Shows (known : List String) (fields : List (String × Json))
    (members : List (Option String × Json)) : Prop :=
  ∀ name ∈ known, Holds members name (fields.lookup name)

/-- The fields stand in an object in any order, among other members; none of these has a name that
is looked for. -/
structure Spread (known : List String) (fields : List (String × Json))
    (others members : List (Option String × Json)) : Prop where
  perm : members.Perm (fields.map (fun field => (some field.1, field.2)) ++ others)
  unknown : ∀ member ∈ others, ∀ name ∈ known, member.1 ≠ some name

/-- A part that is neither an array nor an object, and is readable. -/
def IsPlain (value : Json) : Prop := value.isSound = true ∧ value.depth = 0

variable {known names : List String} {fields : List (String × Json)} {name tag case : String}
  {others members kept : List (Option String × Json)}

/-! ### The values of a name -/

theorem valuesOf_fields (h : (fields.map Prod.fst).Nodup) :
    valuesOf name (fields.map fun field => (some field.1, field.2)) =
      (fields.lookup name).toList := by
  induction fields with
  | nil => rfl
  | cons field fields ih =>
    obtain ⟨key, value⟩ := field
    obtain ⟨hkey, hdistinct⟩ := List.nodup_cons.1 h
    rw [List.map_cons, valuesOf_cons, ih hdistinct, List.lookup_cons]
    by_cases hname : name = key
    · subst hname
      have habsent : fields.lookup name = none := by
        rw [List.lookup_eq_none_iff]
        rintro ⟨other, _⟩ hfield
        have hne : name ≠ other := by
          rintro rfl
          exact hkey (List.mem_map.2 ⟨_, hfield, rfl⟩)
        simpa using hne
      simp [habsent]
    · have hne : ¬ some key = some name := fun heq => hname (Option.some.inj heq).symm
      have hother : (name == key) = false := beq_false_of_ne hname
      rw [if_neg hne, hother]

theorem valuesOf_eq_nil (h : ∀ member ∈ members, member.1 ≠ some name) :
    valuesOf name members = [] := by
  rw [valuesOf, List.filterMap_eq_nil_iff]
  intro member hmem
  exact if_neg (h member hmem)

theorem valuesOf_filter (h : name ≠ tag) :
    valuesOf name (members.filter (·.1 ≠ some tag)) = valuesOf name members := by
  induction members with
  | nil => rfl
  | cons member members ih =>
    obtain ⟨key, value⟩ := member
    by_cases hkey : key = some tag
    · have hne : ¬ key = some name := by
        rw [hkey]
        exact fun heq => h (Option.some.inj heq).symm
      rw [List.filter_cons_of_neg (by simpa using hkey), ih, valuesOf_cons, if_neg hne]
    · rw [List.filter_cons_of_pos (by simpa using hkey), valuesOf_cons, valuesOf_cons, ih]

/-- Fields are shown whatever order they stand in and whatever stands among them. -/
theorem Spread.shows (h : Spread known fields others members)
    (hfields : (fields.map Prod.fst).Nodup) : Shows known fields members := by
  intro name hname
  have hothers : valuesOf name others = [] :=
    valuesOf_eq_nil fun member hmem => h.unknown member hmem name hname
  have hperm : (valuesOf name members).Perm (fields.lookup name).toList := by
    have hvalues := h.perm.filterMap (fun member : Option String × Json =>
      if member.1 = some name then some member.2 else none)
    rw [List.filterMap_append] at hvalues
    rw [← valuesOf_fields hfields, ← List.append_nil (valuesOf name (fields.map _)), ← hothers]
    exact hvalues
  rw [Holds]
  cases hvalue : fields.lookup name with
  | none =>
    rw [hvalue] at hperm
    exact hperm.eq_nil
  | some value =>
    rw [hvalue] at hperm
    exact List.perm_singleton.1 hperm

/-- An object with no other members. -/
theorem Spread.plain (known : List String) (fields : List (String × Json)) :
    Spread known fields [] (fields.map fun field => (some field.1, field.2)) :=
  ⟨by rw [List.append_nil], nofun⟩

theorem Spread.named (h : Spread known fields others members) (hothers : Named others) :
    Named members := by
  intro member hmem
  rcases List.mem_append.1 (h.perm.mem_iff.1 hmem) with hfield | hother
  · exact named_ofFields fields member hfield
  · exact hothers member hother

/-! ### Reading by a tag -/

/-- The tag is found, and what is left is all but the tag. -/
theorem tagged?_of_shows (h : Shows known fields members) (hknown : tag ∈ known)
    (htag : fields.lookup tag = some (.text case)) :
    (object members).tagged? tag = some (case, .object (members.filter (·.1 ≠ some tag))) := by
  have hvalues : valuesOf tag members = [.string (some case)] := by
    have hholds := h tag hknown
    rw [htag] at hholds
    exact hholds
  rw [tagged?, hvalues]

/-- The fields that are looked for are found in what is left. -/
theorem slots?_of_shows (tag : String) (h : Shows known fields members) (hnamed : Named members)
    (hknown : names ⊆ known) (htag : tag ∉ names) :
    (object (members.filter (·.1 ≠ some tag))).slots? names =
      some (names.map fun name => fields.lookup name) := by
  rw [slots?_eq_some, List.forall₂_map_right_iff, List.forall₂_same]
  refine ⟨fun member hmem => hnamed member (List.mem_of_mem_filter hmem), fun name hname => ?_⟩
  have hne : name ≠ tag := by
    rintro rfl
    exact htag hname
  rw [Holds, valuesOf_filter hne]
  exact h name (hknown hname)

/-! ### Readable objects -/

theorem isPlain_text (s : String) : IsPlain (.text s) := ⟨rfl, rfl⟩

theorem isPlain_null : IsPlain .null := ⟨rfl, rfl⟩

theorem isPlain_nat {n : Nat} (h : n < Numeral.wordBound) : IsPlain (.nat n) := by
  have hbound : Numeral.wordBound ≤ Numeral.doubleBound := by decide +kernel
  have hlt : n < Numeral.doubleBound := Nat.lt_of_lt_of_le h hbound
  refine ⟨?_, rfl⟩
  rw [nat, isSound, Numeral.isFinite]
  simpa [Numeral.ofNat] using Or.inr hlt

theorem areSoundMembers_fields (h : ∀ field ∈ fields, IsPlain field.2) :
    areSoundMembers (fields.map fun field => (some field.1, field.2)) = true := by
  rw [areSoundMembers_eq, List.all_map, List.all_eq_true]
  intro field hfield
  exact (h field hfield).1

theorem depthOfMembers_fields (h : ∀ field ∈ fields, IsPlain field.2) :
    depthOfMembers (fields.map fun field => (some field.1, field.2)) = 0 := by
  induction fields with
  | nil => rfl
  | cons field fields ih =>
    rw [List.map_cons, depthOfMembers, (h field List.mem_cons_self).2,
      ih fun other hother => h other (List.mem_cons_of_mem _ hother)]
    rfl

theorem depthOfMembers_append : depthOfMembers (members ++ others) =
    max (depthOfMembers members) (depthOfMembers others) := by
  induction members with
  | nil => rw [List.nil_append, depthOfMembers, Nat.zero_max]
  | cons member members ih =>
    rw [List.cons_append, depthOfMembers, depthOfMembers, ih, Nat.max_assoc]

/-- An object can be read if its other members can be. -/
theorem isReadable_of_spread (h : Spread known fields others members)
    (hplain : ∀ field ∈ fields, IsPlain field.2) :
    (object members).isReadable 0 = (object others).isReadable 0 := by
  have hsound : areSoundMembers (fields.map (fun field => (some field.1, field.2)) ++ others) =
      areSoundMembers others := by
    have hfields := areSoundMembers_fields hplain
    rw [areSoundMembers_eq] at hfields ⊢
    rw [List.all_append, hfields, Bool.true_and, areSoundMembers_eq]
  have hdepth : depthOfMembers (fields.map (fun field => (some field.1, field.2)) ++ others) =
      depthOfMembers others := by
    rw [depthOfMembers_append, depthOfMembers_fields hplain, Nat.zero_max]
  rw [isReadable_rearranged (.here h.perm) 0, isReadable, isReadable, isSound, isSound, depth,
    depth, hsound, hdepth]

/-- In a readable object each name is a text. -/
theorem named_of_isReadable (h : (object members).isReadable 0 = true) : Named members := by
  intro member hmem
  rw [isReadable_iff, isSound, areSoundMembers_eq, List.all_eq_true] at h
  exact (Bool.and_eq_true_iff.1 (h.1 member hmem)).1

/-! ### Names that stand once -/

theorem valuesOf_putMember {key : Option String} {value : Json} (h : key ≠ some name) :
    valuesOf name (putMember (key, value) kept) = valuesOf name kept := by
  induction kept with
  | nil => rw [putMember, valuesOf_cons, if_neg h]
  | cons other kept ih =>
    obtain ⟨otherKey, otherValue⟩ := other
    rw [putMember]
    split
    next hkey =>
      obtain rfl : otherKey = key := hkey
      rw [valuesOf_cons, valuesOf_cons, if_neg h, if_neg h]
    next => rw [valuesOf_cons, valuesOf_cons, ih]

theorem valuesOf_putMember_self {value : Json} (h : (valuesOf name kept).length ≤ 1) :
    valuesOf name (putMember (some name, value) kept) = [value] := by
  induction kept with
  | nil => rw [putMember, valuesOf_cons, if_pos rfl, valuesOf, List.filterMap_nil]
  | cons other kept ih =>
    obtain ⟨otherKey, otherValue⟩ := other
    rw [valuesOf_cons] at h
    rw [putMember]
    split
    next hkey =>
      rw [if_pos hkey, List.length_cons] at h
      have hrest : valuesOf name kept = [] := List.length_eq_zero_iff.1 (by omega)
      rw [valuesOf_cons, if_pos rfl, hrest]
    next hkey =>
      rw [if_neg hkey] at h
      rw [valuesOf_cons, if_neg hkey, ih h]

/-- The last of the values of a name is kept. -/
theorem valuesOf_mergedMembers (h : (valuesOf name kept).length ≤ 1) :
    valuesOf name (mergedMembers kept members) =
      (valuesOf name kept ++ (valuesOf name members).map merged).getLast?.toList := by
  induction members generalizing kept with
  | nil =>
    rw [mergedMembers]
    rcases hvalues : valuesOf name kept with _ | ⟨value, _ | ⟨second, values⟩⟩
    · rfl
    · rfl
    · simp [hvalues] at h
  | cons member members ih =>
    obtain ⟨key, value⟩ := member
    rw [mergedMembers, valuesOf_cons]
    -- What is kept has the name at most once, so this value takes the place of an earlier one.
    by_cases hkey : key = some name
    · subst hkey
      have hput : valuesOf name (putMember (some name, merged value) kept) = [merged value] :=
        valuesOf_putMember_self h
      rw [ih (by rw [hput]; exact Nat.le_refl 1), hput, if_pos rfl, List.map_cons,
        List.singleton_append, List.getLast?_append_of_ne_nil _ (List.cons_ne_nil _ _)]
    · rw [ih (by rw [valuesOf_putMember hkey]; exact h), valuesOf_putMember hkey, if_neg hkey]

theorem merged_of_isPlain {value : Json} (h : IsPlain value) : merged value = value := by
  cases value with
  | array items => cases h.2
  | object members => cases h.2
  | null | bool | number | string => rfl

/-- What is shown is still shown when each name is made to stand once. -/
theorem Shows.merged (h : Shows known fields members)
    (hfields : ∀ field ∈ fields, IsPlain field.2) :
    Shows known fields (mergedMembers [] members) := by
  intro name hname
  have hnone : (valuesOf name []).length ≤ 1 := Nat.zero_le 1
  rw [Holds, valuesOf_mergedMembers hnone, h name hname]
  cases hvalue : fields.lookup name with
  | none => rfl
  | some value =>
    have hmem : (name, value) ∈ fields := by
      obtain ⟨before, after, rfl, -⟩ := List.lookup_eq_some_iff.1 hvalue
      exact List.mem_append_right before List.mem_cons_self
    show [value.merged].getLast?.toList = [value]
    rw [merged_of_isPlain (hfields _ hmem)]
    rfl

theorem named_putMember {member : Option String × Json} (hmember : member.1.isSome = true)
    (hkept : Named kept) : Named (putMember member kept) := by
  induction kept with
  | nil => simpa [putMember, Named] using hmember
  | cons other kept ih =>
    obtain ⟨hother, hrest⟩ := List.forall_mem_cons.1 hkept
    rw [putMember]
    split
    next => exact List.forall_mem_cons.2 ⟨hmember, hrest⟩
    next => exact List.forall_mem_cons.2 ⟨hother, ih hrest⟩

theorem named_mergedMembers (hkept : Named kept) (h : Named members) :
    Named (mergedMembers kept members) := by
  induction members generalizing kept with
  | nil => exact hkept
  | cons member members ih =>
    obtain ⟨hmember, hrest⟩ := List.forall_mem_cons.1 h
    exact ih (named_putMember hmember hkept) hrest

end BrowserReplay.Json
