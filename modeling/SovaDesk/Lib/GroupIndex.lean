/-
This file is a small library of tables with a second index.

Values are stored under their keys, and an index lists the values of each group. The index is exact
if each group's list has the stored values of that group, each of them once, and no list is empty.
Adding a value, removing one and building the index anew from the values in any order keep it exact.
-/

import SovaDesk.Lib.Table

namespace GroupIndex

variable {Key Value Group : Type} [DecidableEq Key] [DecidableEq Group]

/-- The values that the index lists for a group. -/
def listed (index : Table Group (List Value)) (group : Group) : List Value :=
  (index.lookup group).getD []

/-- Append a value to the list of its group. -/
def append (group : Value → Group) (index : Table Group (List Value)) (value : Value) :
    Table Group (List Value) :=
  index.insert (group value) (listed index (group value) ++ [value])

/-- Take the first value with a key out of the list of a group, and the group out of the index if
its list is empty then. -/
def remove (key : Value → Key) (index : Table Group (List Value)) (group : Group) (removed : Key) :
    Table Group (List Value) :=
  let rest := (listed index group).eraseP fun value => key value = removed
  if rest = [] then index.erase group else index.insert group rest

/-- The index is exact for a table. -/
structure Exact (key : Value → Key) (group : Value → Group) (table : Table Key Value)
    (index : Table Group (List Value)) : Prop where
  keyed : ∀ stored value, table.lookup stored = some value → key value = stored
  once : ∀ name, ((listed index name).map key).Nodup
  mem_iff : ∀ name value, value ∈ listed index name ↔
    table.lookup (key value) = some value ∧ group value = name
  nonempty : ∀ name, index.lookup name ≠ some []

theorem listed_insert (index : Table Group (List Value)) (group other : Group)
    (values : List Value) :
    listed (index.insert group values) other = if other = group then values
      else listed index other := by
  unfold listed
  rw [Table.lookup_insert_if]
  split <;> rfl

theorem listed_erase (index : Table Group (List Value)) (group other : Group) :
    listed (index.erase group) other = if other = group then [] else listed index other := by
  unfold listed
  rw [Table.lookup_erase_if]
  split <;> rfl

theorem listed_remove (key : Value → Key) (index : Table Group (List Value)) (group other : Group)
    (removed : Key) : listed (remove key index group removed) other =
      if other = group then (listed index group).eraseP fun value => key value = removed
      else listed index other := by
  unfold remove
  dsimp only
  split
  · next empty => rw [listed_erase, empty]
  · rw [listed_insert]

/-- Where keys are distinct, the first value with a key is the only one. -/
theorem mem_eraseP_iff {key : Value → Key} {removed : Key} {values : List Value}
    (once : (values.map key).Nodup) (value : Value) :
    value ∈ values.eraseP (fun other => key other = removed) ↔
      value ∈ values ∧ key value ≠ removed := by
  induction values with
  | nil => simp
  | cons head tail inductionHypothesis =>
    rw [List.map_cons, List.nodup_cons] at once
    by_cases same : key head = removed
    · have others : ∀ other ∈ tail, key other ≠ removed := fun other member equal =>
        once.1 (same.trans equal.symm ▸ List.mem_map_of_mem member)
      rw [List.eraseP_cons_of_pos (by simpa using same), List.mem_cons]
      constructor
      · exact fun member => ⟨Or.inr member, others value member⟩
      · rintro ⟨rfl | member, different⟩
        · exact absurd same different
        · exact member
    · rw [List.eraseP_cons_of_neg (by simpa using same), List.mem_cons, List.mem_cons,
        inductionHypothesis once.2]
      constructor
      · rintro (rfl | ⟨member, different⟩)
        · exact ⟨Or.inl rfl, same⟩
        · exact ⟨Or.inr member, different⟩
      · rintro ⟨rfl | member, different⟩
        · exact Or.inl rfl
        · exact Or.inr ⟨member, different⟩

section exact

variable {key : Value → Key} {group : Value → Group} {table : Table Key Value}
  {index : Table Group (List Value)}

theorem exact_empty : Exact key group (∅ : Table Key Value) ∅ where
  keyed _ value found := absurd found (Option.some_ne_none value).symm
  once _ := List.nodup_nil
  mem_iff _ value := ⟨fun member => absurd member List.not_mem_nil,
    fun ⟨found, _⟩ => absurd found (Option.some_ne_none value).symm⟩
  nonempty _ found := absurd found (Option.some_ne_none _).symm

/-- A value with a new key is added. -/
theorem Exact.add (exact_ : Exact key group table index) {value : Value}
    (fresh : table.lookup (key value) = none) :
    Exact key group (table.insert (key value) value) (append group index value) where
  keyed stored found lookup := by
    rcases Table.lookup_insert_iff.mp lookup with ⟨rfl, rfl⟩ | ⟨-, old⟩
    · rfl
    · exact exact_.keyed stored found old
  once name := by
    unfold append
    rw [listed_insert]
    split
    · rw [List.map_append, List.map_singleton]
      refine (exact_.once _).append (List.nodup_singleton _) fun old member last => ?_
      obtain ⟨other, listed, rfl⟩ := List.mem_map.mp member
      rw [List.mem_singleton] at last
      have stored := ((exact_.mem_iff _ other).mp listed).1
      rw [last, fresh] at stored
      exact Option.some_ne_none other stored.symm
    · exact exact_.once name
  mem_iff name other := by
    have new : table.lookup (key value) ≠ some value := by
      rw [fresh]
      exact (Option.some_ne_none value).symm
    unfold append
    rw [listed_insert, Table.lookup_insert_iff]
    by_cases own : name = group value
    · subst own
      rw [if_pos rfl, List.mem_append, List.mem_singleton, exact_.mem_iff]
      constructor
      · rintro (⟨stored, inGroup⟩ | rfl)
        · refine ⟨Or.inr ⟨fun same => ?_, stored⟩, inGroup⟩
          rw [same, fresh] at stored
          exact Option.some_ne_none other stored.symm
        · exact ⟨Or.inl ⟨rfl, rfl⟩, rfl⟩
      · rintro ⟨⟨-, rfl⟩ | ⟨-, stored⟩, inGroup⟩
        · exact Or.inr rfl
        · exact Or.inl ⟨stored, inGroup⟩
    · rw [if_neg own, exact_.mem_iff]
      constructor
      · rintro ⟨stored, inGroup⟩
        refine ⟨Or.inr ⟨fun same => ?_, stored⟩, inGroup⟩
        rw [same, fresh] at stored
        exact Option.some_ne_none other stored.symm
      · rintro ⟨⟨-, rfl⟩ | ⟨-, stored⟩, inGroup⟩
        · exact absurd inGroup.symm own
        · exact ⟨stored, inGroup⟩
  nonempty name := by
    unfold append
    rw [Table.lookup_insert_if]
    split
    · simp
    · exact exact_.nonempty name

/-- A stored value is removed. -/
theorem Exact.remove (exact_ : Exact key group table index) {value : Value} {removed : Key}
    (stored : table.lookup removed = some value) :
    Exact key group (table.erase removed) (remove key index (group value) removed) where
  keyed other found lookup := exact_.keyed other found (Table.lookup_erase_iff.mp lookup).2
  once name := by
    rw [listed_remove]
    split
    · exact (exact_.once _).sublist (List.eraseP_sublist.map key)
    · exact exact_.once name
  mem_iff name other := by
    rw [listed_remove, Table.lookup_erase_iff]
    by_cases own : name = group value
    · subst own
      rw [if_pos rfl, mem_eraseP_iff (exact_.once _), exact_.mem_iff]
      tauto
    · rw [if_neg own, exact_.mem_iff]
      constructor
      · rintro ⟨found, inGroup⟩
        refine ⟨⟨fun same => own ?_, found⟩, inGroup⟩
        rw [same, stored, Option.some_inj] at found
        exact inGroup.symm.trans (congrArg group found.symm)
      · exact fun ⟨⟨_, found⟩, inGroup⟩ => ⟨found, inGroup⟩
  nonempty name := by
    unfold GroupIndex.remove
    dsimp only
    split
    · rw [Table.lookup_erase_if]
      split
      · exact (Option.some_ne_none _).symm
      · exact exact_.nonempty name
    · next rest =>
      rw [Table.lookup_insert_if]
      split
      · exact fun same => rest (Option.some.inj same)
      · exact exact_.nonempty name

/-- What an index lists after some values were appended. -/
theorem listed_foldl_append (values : List Value) (index : Table Group (List Value))
    (name : Group) : listed (values.foldl (append group) index) name =
      listed index name ++ values.filter fun value => group value = name := by
  induction values generalizing index with
  | nil => simp
  | cons value rest inductionHypothesis =>
    rw [List.foldl_cons, inductionHypothesis, append, listed_insert]
    by_cases own : group value = name
    · simp [own]
    · simp [own, Ne.symm own]

/-- Appending leaves no list empty. -/
theorem lookup_foldl_append_ne (values : List Value) {index : Table Group (List Value)}
    (nonempty : ∀ name, index.lookup name ≠ some []) (name : Group) :
    (values.foldl (append group) index).lookup name ≠ some [] := by
  induction values generalizing index with
  | nil => exact nonempty name
  | cons value rest inductionHypothesis =>
    refine inductionHypothesis fun other => ?_
    unfold append
    rw [Table.lookup_insert_if]
    split
    · simp
    · exact nonempty other

/-- The index is built anew from the values of a table, in whichever order. -/
theorem exact_build (keyed : ∀ stored value, table.lookup stored = some value → key value = stored)
    {values : List Value} (all : values.Perm (table.entries.map (·.2))) :
    Exact key group table (values.foldl (append group) ∅) where
  keyed := keyed
  once name := by
    have keys : (values.map key).Nodup := by
      have same : (table.entries.map (·.2)).map key = table.keys := by
        rw [List.map_map]
        exact List.map_congr_left fun entry member =>
          keyed entry.1 entry.2 (Table.mem_entries_iff.mp member)
      rw [(all.map key).nodup_iff, same]
      exact table.keys_nodup
    rw [listed_foldl_append]
    exact keys.sublist (List.filter_sublist.map key)
  mem_iff name value := by
    rw [listed_foldl_append]
    show value ∈ values.filter _ ↔ _
    rw [List.mem_filter, decide_eq_true_eq, all.mem_iff]
    refine and_congr_left fun _ => ?_
    constructor
    · intro member
      obtain ⟨entry, listed, rfl⟩ := List.mem_map.mp member
      have found := Table.mem_entries_iff.mp listed
      rw [keyed entry.1 entry.2 found]
      exact found
    · exact fun found => List.mem_map.mpr ⟨⟨key value, value⟩, Table.mem_entries_iff.mpr found, rfl⟩
  nonempty := lookup_foldl_append_ne values fun _ => (Option.some_ne_none _).symm

end exact

end GroupIndex
