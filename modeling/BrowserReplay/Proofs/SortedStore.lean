import BrowserReplay.Report
import BrowserReplay.Proofs.ByteOrder
import Mathlib.Data.Finset.Card

/-!
# The variables as a sorted map

A store holds what was stored under each name last, and nothing else (`get?_ofList_eq_some`), so the
order in which other names were stored leaves no trace: stores that hold the same are equal
(`eq_of_get?_eq`). Their entries come in the order of the bytes of the names, each name once.
-/

namespace BrowserReplay

namespace Variables

variable {name other : String} {value : VarValue} {entries sets : List (String × VarValue)}
  {vars : Variables}

/-! ### What is found after storing -/

theorem lookup_entry (name other : String) (value : VarValue) (rest : List (String × VarValue)) :
    List.lookup other ((name, value) :: rest) =
      if other = name then some value else rest.lookup other := by
  rw [List.lookup_cons]
  by_cases h : other = name
  · simp [h]
  · simp [h, beq_false_of_ne h]

theorem lookup_insertEntry (entries : List (String × VarValue)) :
    (insertEntry name value entries).lookup other =
      if other = name then some value else entries.lookup other := by
  induction entries with
  | nil => exact lookup_entry name other value []
  | cons head rest ih =>
    obtain ⟨kept, old⟩ := head
    rw [insertEntry]
    split
    next => exact lookup_entry name other value _
    next =>
      rw [lookup_entry kept other]
      split
      next hsame =>
        subst hsame
        rw [lookup_entry]
        split <;> rfl
      next hdiffers =>
        rw [lookup_entry, ih]
        -- The name of the head is not the one that is stored.
        split_ifs with hkept hname
        · exact absurd (hname.symm.trans hkept) hdiffers
        all_goals rfl

@[simp] theorem get?_set : (vars.set name value).get? other =
    if other = name then some value else vars.get? other :=
  lookup_insertEntry vars.entries

@[simp] theorem get?_empty : empty.get? name = none := rfl

theorem get?_setAll :
    (vars.setAll sets).get? name = (sets.reverse.lookup name).or (vars.get? name) := by
  induction sets generalizing vars with
  | nil => rfl
  | cons entry rest ih =>
    rw [setAll_cons, ih, List.reverse_cons, List.lookup_append, Option.or_assoc, get?_set,
      lookup_entry]
    split <;> rfl

/-- The value is the last one that is stored under the name. -/
def LastSet (sets : List (String × VarValue)) (name : String) (value : VarValue) : Prop :=
  ∃ before after, sets = before ++ (name, value) :: after ∧ ∀ entry ∈ after, entry.1 ≠ name

theorem get?_ofList_eq_some : (ofList sets).get? name = some value ↔ LastSet sets name value := by
  rw [ofList, get?_setAll, get?_empty, Option.or_none, List.lookup_eq_some_iff]
  constructor
  · rintro ⟨after, before, hsets, hafter⟩
    refine ⟨before.reverse, after.reverse, ?_, fun entry hmem => ?_⟩
    · rw [← List.reverse_reverse sets, hsets]
      simp
    · have hne := hafter entry (List.mem_reverse.1 hmem)
      exact Ne.symm (by simpa using hne)
  · rintro ⟨before, after, rfl, hafter⟩
    refine ⟨after.reverse, before.reverse, by simp, fun entry hmem => ?_⟩
    have hne := hafter entry (List.mem_reverse.1 hmem)
    simpa using hne.symm

theorem get?_ofList_eq_none : (ofList sets).get? name = none ↔ name ∉ sets.map Prod.fst := by
  rw [ofList, get?_setAll, get?_empty, Option.or_none, List.lookup_eq_none_iff, List.mem_map]
  constructor
  · rintro h ⟨entry, hmem, rfl⟩
    have hne := h entry (List.mem_reverse.2 hmem)
    simp at hne
  · intro h entry hmem
    have hne : name ≠ entry.1 := by
      rintro rfl
      exact h ⟨entry, List.mem_reverse.1 hmem, rfl⟩
    simpa using hne

/-! ### Entries -/

theorem nodup_names (vars : Variables) : (vars.entries.map Prod.fst).Nodup := by
  rw [List.Nodup, List.pairwise_map]
  exact vars.increasing.imp ne_of_lt

/-- The entries of a store are what is found in it. -/
theorem mem_entries_iff : (name, value) ∈ vars.entries ↔ vars.get? name = some value := by
  have hnames := vars.nodup_names
  rw [get?]
  revert hnames
  induction vars.entries with
  | nil => simp
  | cons head rest ih =>
    obtain ⟨kept, old⟩ := head
    intro hnames
    obtain ⟨hkept, hdistinct⟩ := List.nodup_cons.1 hnames
    have hrest : (name, value) ∈ rest ↔ rest.lookup name = some value := ih hdistinct
    rw [List.mem_cons, Prod.mk.injEq, lookup_entry]
    split
    next h =>
      subst h
      have hlater : (name, value) ∉ rest := fun hmem => hkept (List.mem_map.2 ⟨_, hmem, rfl⟩)
      simp [hlater, eq_comm]
    next h => simp [h, hrest]

theorem mem_names_iff : name ∈ vars.entries.map Prod.fst ↔ vars.get? name ≠ none := by
  rw [List.mem_map, Option.ne_none_iff_exists']
  simp [mem_entries_iff]

/-- Stores that hold the same values under the same names are equal. -/
theorem eq_of_get?_eq {a b : Variables} (h : ∀ name, a.get? name = b.get? name) : a = b := by
  have hperm : a.entries.Perm b.entries := by
    refine (List.perm_ext_iff_of_nodup a.nodup_names.of_map b.nodup_names.of_map).2 ?_
    rintro ⟨name, value⟩
    rw [mem_entries_iff, mem_entries_iff, h]
  have hentries : a.entries = b.entries :=
    hperm.eq_of_pairwise (fun _ _ _ _ hlt hgt => absurd hgt (String.lt_asymm hlt)) a.increasing
      b.increasing
  cases a
  cases b
  cases hentries
  rfl

theorem size_ofList : (ofList sets).size = (sets.map Prod.fst).toFinset.card := by
  have hnames : ((ofList sets).entries.map Prod.fst).toFinset = (sets.map Prod.fst).toFinset := by
    ext name
    rw [List.mem_toFinset, List.mem_toFinset, mem_names_iff, ne_eq, get?_ofList_eq_none, not_not]
  rw [← hnames, List.toFinset_card_of_nodup (nodup_names _), List.length_map, size]

/-- A store is what storing its entries one after the other gives. -/
theorem ofList_entries (vars : Variables) : ofList vars.entries = vars := by
  refine eq_of_get?_eq fun name => Option.ext fun value => ?_
  rw [get?_ofList_eq_some, ← mem_entries_iff]
  constructor
  · rintro ⟨before, after, hentries, -⟩
    rw [hentries]
    exact List.mem_append_right before List.mem_cons_self
  · intro hmem
    obtain ⟨before, after, hentries⟩ := List.append_of_mem hmem
    have hnames := vars.nodup_names
    rw [hentries, List.map_append, List.map_cons, List.nodup_append] at hnames
    refine ⟨before, after, hentries, fun entry hafter heq => ?_⟩
    exact (List.nodup_cons.1 hnames.2.1).1 (List.mem_map.2 ⟨entry, hafter, heq⟩)

/-- The names come in the order of their bytes. -/
theorem increasing_bytes (vars : Variables) : vars.entries.Pairwise fun entry later =>
    Text.toUtf8 entry.1 < Text.toUtf8 later.1 :=
  vars.increasing.imp fun hlt => (Text.toUtf8_lt_iff _ _).2 hlt

end Variables

namespace Report

def variablesText (masked : Bool) (vars : Variables) : String :=
  if vars.isEmpty then ""
  else "\n\nVariables:" ++ String.join (vars.entries.map (variableLine masked))

/-- The variables are listed at the end of a report. -/
theorem text_eq_append (masked : Bool) (report : Report) :
    report.text masked =
      ({ report with vars := .empty } : Report).text masked ++ variablesText masked report.vars := by
  have hempty : Variables.empty.isEmpty = true := rfl
  unfold text variablesText
  rw [if_pos hempty, String.append_empty]

end Report

open Variables in
/-- The variables are a sorted map. After any sequence of values stored in an empty store, a name has
the last value that was stored under it, and none if nothing was; the size of the store is the number
of distinct names. The entries are these names with these values, each once, in the order of their
bytes. Two sequences leave equal stores exactly when they store the same values last; then the
entries are the same, and so are the text of the store and the list of variables that a report ends
with. -/
theorem store_is_sorted_map (sets : List (String × VarValue)) :
    let store := ofList sets
    (∀ name value, store.get? name = some value ↔ LastSet sets name value) ∧
      (∀ name, store.get? name = none ↔ name ∉ sets.map Prod.fst) ∧
      store.size = (sets.map Prod.fst).toFinset.card ∧
      (store.isEmpty = true ↔ store.size = 0) ∧
      (∀ name value, (name, value) ∈ store.entries ↔ LastSet sets name value) ∧
      (store.entries.map Prod.fst).Nodup ∧
      (store.entries.Pairwise fun entry later => Text.toUtf8 entry.1 < Text.toUtf8 later.1) ∧
      ∀ others,
        (ofList others = store ↔
          ∀ name value, LastSet others name value ↔ LastSet sets name value) ∧
        ((∀ name value, LastSet others name value ↔ LastSet sets name value) →
          (ofList others).entries = store.entries ∧ (ofList others).render = store.render ∧
          ∀ masked (report : Report),
            Report.text masked { report with vars := ofList others } =
              Report.text masked { report with vars := .empty } ++
                Report.variablesText masked store) := by
  intro store
  have hsame (others : List (String × VarValue)) : ofList others = store ↔
      ∀ name value, LastSet others name value ↔ LastSet sets name value := by
    constructor
    · intro h name value
      rw [← get?_ofList_eq_some, ← get?_ofList_eq_some, h]
    · refine fun h => eq_of_get?_eq fun name => Option.ext fun value => ?_
      rw [get?_ofList_eq_some, get?_ofList_eq_some]
      exact h name value
  refine ⟨fun name value => get?_ofList_eq_some, fun name => get?_ofList_eq_none, size_ofList,
    by rw [isEmpty, size, List.isEmpty_iff, List.length_eq_zero_iff],
    fun name value => mem_entries_iff.trans get?_ofList_eq_some, store.nodup_names,
    store.increasing_bytes, fun others => ⟨hsame others, fun h => ?_⟩⟩
  rw [(hsame others).2 h]
  exact ⟨rfl, rfl, fun masked report => Report.text_eq_append masked _⟩

open Variables in
/-- Here one sequence stores a value that it replaces. The names come by their bytes, not as they were
stored. -/
theorem replaced_value_leaves_no_trace :
    let sets : List (String × VarValue) :=
      [("é", .text "1"), ("z", .text "true"), ("é", .bool true)]
    let others : List (String × VarValue) := [("z", .text "true"), ("é", .bool true)]
    (∀ name value, LastSet others name value ↔ LastSet sets name value) ∧
      (ofList others).entries = (ofList sets).entries ∧
      (ofList sets).size = 2 ∧ (ofList sets).entries.map Prod.fst = ["z", "é"] := by
  intro sets others
  obtain ⟨-, -, -, -, -, -, -, hothers⟩ := store_is_sorted_map sets
  obtain ⟨hequal, hagree⟩ := hothers others
  have hsame := hequal.1 (by decide +kernel)
  exact ⟨hsame, (hagree hsame).1, by decide +kernel, by decide +kernel⟩

end BrowserReplay
