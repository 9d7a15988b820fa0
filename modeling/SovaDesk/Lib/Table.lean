/-
This file is a small library of finite tables with a key.

A table is Mathlib's association list without duplicate keys, at a constant value
type: a concurrent map, a hash map or a database table with a primary key. The order
of its entries is one order a traversal may take. Mathlib gives the lookup after an
insertion or an erasure as two lemmas, one for the key and one for the others; the
proofs about programs want the one equation that a case split can follow, and two
operations that Mathlib leaves out, updating the value at a key and keeping the
entries that pass a test.
-/

import Mathlib.Algebra.Order.BigOperators.Group.List
import Mathlib.Algebra.Order.Group.Int
import Mathlib.Algebra.Ring.Int.Defs
import Mathlib.Data.Fintype.EquivFin
import Mathlib.Data.List.AList

/-- A finite table from keys to values. -/
abbrev Table (Key Value : Type) := AList fun _ : Key => Value

namespace Table

variable {Key Value : Type} [DecidableEq Key]

/-! ### Lookup after an insertion or an erasure -/

theorem lookup_insert_if (table : Table Key Value) (key other : Key) (value : Value) :
    (AList.insert key value table).lookup other =
      if other = key then some value else table.lookup other := by
  split
  · next same => rw [same, AList.lookup_insert]
  · next different => rw [AList.lookup_insert_ne different]

theorem lookup_erase_if (table : Table Key Value) (key other : Key) :
    (AList.erase key table).lookup other = if other = key then none else table.lookup other := by
  split
  · next same => rw [same, AList.lookup_erase]
  · next different => rw [AList.lookup_erase_ne different]

variable {table : Table Key Value} {key : Key} {value : Value}

theorem lookup_insert_iff {other : Key} {found : Value} :
    (AList.insert key value table).lookup other = some found ↔
      (other = key ∧ found = value) ∨ (other ≠ key ∧ table.lookup other = some found) := by
  rw [lookup_insert_if]
  by_cases same : other = key
  · simp [same, eq_comm]
  · simp [same]

/-- What holds of a new entry and of those of a table holds of all after the insertion. -/
theorem forall_insert {property : Key → Value → Prop} (new : property key value)
    (old : ∀ other found, table.lookup other = some found → property other found) :
    ∀ other found, (AList.insert key value table).lookup other = some found →
      property other found := by
  intro other found lookup
  rcases lookup_insert_iff.mp lookup with ⟨rfl, rfl⟩ | ⟨-, older⟩
  · exact new
  · exact old other found older

/-- What is found under the key of an insertion is what was inserted. -/
theorem eq_of_lookup_insert {found : Value}
    (lookup : (AList.insert key value table).lookup key = some found) : value = found := by
  rw [AList.lookup_insert] at lookup
  exact Option.some.inj lookup

theorem lookup_erase_iff {other : Key} {found : Value} :
    (AList.erase key table).lookup other = some found ↔
      other ≠ key ∧ table.lookup other = some found := by
  rw [lookup_erase_if]
  by_cases same : other = key
  · simp [same]
  · simp [same]

/-- An entry of the list is what the lookup of its key finds. -/
theorem mem_entries_iff :
    (⟨key, value⟩ : Sigma fun _ : Key => Value) ∈ table.entries ↔
      table.lookup key = some value := by
  rw [← AList.mem_lookup_iff, Option.mem_def]

/-- Inserting a list with distinct keys adds the list's values to the table's. -/
theorem lookup_foldl_insert_iff : ∀ {entries : List (Key × Value)},
    (entries.map Prod.fst).Nodup → ∀ {table : Table Key Value} {key : Key} {value : Value},
      (entries.foldl (fun filled e => filled.insert e.1 e.2) table).lookup key = some value ↔
        (key, value) ∈ entries ∨ (key ∉ entries.map Prod.fst ∧ table.lookup key = some value)
  | [], _, table, key, value => by simp
  | (first, held) :: entries, nodup, table, key, value => by
    obtain ⟨fresh, nodup⟩ := List.nodup_cons.mp nodup
    rw [List.foldl_cons, lookup_foldl_insert_iff nodup, lookup_insert_iff]
    by_cases same : key = first
    · subst same
      have absent : (key, value) ∉ entries := fun member =>
        fresh (List.mem_map.mpr ⟨(key, value), member, rfl⟩)
      simp [absent, fresh, eq_comm]
    · simp [same]

/-- A table's entries, in whichever order they are listed, fill an empty table alike. -/
theorem lookup_foldl_insert {entries : List (Key × Value)}
    (listed : entries.Perm (table.entries.map fun e => (e.1, e.2))) (key : Key) :
    (entries.foldl (fun filled e => filled.insert e.1 e.2) (∅ : Table Key Value)).lookup key =
      table.lookup key := by
  have nodup : (entries.map Prod.fst).Nodup := by
    rw [(listed.map Prod.fst).nodup_iff, List.map_map]
    exact table.keys_nodup
  refine Option.ext fun value => ?_
  rw [lookup_foldl_insert_iff nodup, listed.mem_iff]
  simp [← mem_entries_iff]

/-- A finite table has a free key. -/
theorem exists_lookup_eq_none [Infinite Key] (table : Table Key Value) :
    ∃ key, table.lookup key = none := by
  obtain ⟨key, absent⟩ := Infinite.exists_notMem_finset table.keys.toFinset
  exact ⟨key, AList.lookup_eq_none.mpr fun present => absent (List.mem_toFinset.mpr present)⟩

/-- A property of all entries can be tested. -/
def decidableForall (table : Table Key Value) (property : Key → Value → Prop)
    [∀ key value, Decidable (property key value)] :
    Decidable (∀ key value, table.lookup key = some value → property key value) :=
  decidable_of_iff (∀ entry ∈ table.entries, property entry.1 entry.2)
    ⟨fun all key value found => all ⟨key, value⟩ (mem_entries_iff.mpr found),
      fun all entry member => all entry.1 entry.2 (mem_entries_iff.mp member)⟩

/-! ### Updating and filtering -/

/-- Apply a function to the value at a key, if there is one. -/
def update (key : Key) (change : Value → Value) (table : Table Key Value) : Table Key Value :=
  match table.lookup key with
  | some value => AList.insert key (change value) table
  | none => table

theorem lookup_update (table : Table Key Value) (key other : Key) (change : Value → Value) :
    (table.update key change).lookup other =
      if other = key then (table.lookup key).map change else table.lookup other := by
  unfold update
  split
  · next value found => rw [lookup_insert_if, found, Option.map_some]
  · next missing =>
    rw [missing, Option.map_none]
    split
    · next same => rw [same, missing]
    · rfl

theorem isSome_lookup_update (table : Table Key Value) (key other : Key) (change : Value → Value) :
    ((table.update key change).lookup other).isSome = (table.lookup other).isSome := by
  rw [lookup_update]
  split
  · next same => rw [same, Option.isSome_map]
  · rfl

/-- Keep the entries that pass a test. -/
def filter (keep : Key → Value → Bool) (table : Table Key Value) : Table Key Value :=
  ⟨table.entries.filter fun entry => keep entry.1 entry.2,
    table.nodupKeys.sublist List.filter_sublist⟩

theorem lookup_filter_iff {keep : Key → Value → Bool}
    :
    (table.filter keep).lookup key = some value ↔
      table.lookup key = some value ∧ keep key value = true := by
  rw [← mem_entries_iff, ← mem_entries_iff]
  exact List.mem_filter

/-- Apply a function to every value. -/
def mapValues (change : Key → Value → Value) (table : Table Key Value) : Table Key Value :=
  ⟨table.entries.map fun entry => ⟨entry.1, change entry.1 entry.2⟩,
    List.NodupKeys.map₂ change table.entries table.nodupKeys⟩

theorem lookup_mapValues (table : Table Key Value) (change : Key → Value → Value) (key : Key) :
    (table.mapValues change).lookup key = (table.lookup key).map (change key) :=
  List.dlookup_map₂ key

/-! ### Inserting where nothing is -/

/-- Insert a value under a key that is free: a key that is taken refuses the insertion. -/
def insertNew (key : Key) (value : Value) (table : Table Key Value) : Table Key Value :=
  if (table.lookup key).isSome then table else AList.insert key value table

theorem insertNew_of_none (value : Value) (free : table.lookup key = none) :
    table.insertNew key value = AList.insert key value table := by
  unfold insertNew
  rw [free]
  rfl

/-- Inserting distinct keys, all of them free, adds the values to the table's. -/
theorem lookup_foldl_insertNew_iff : ∀ {entries : List (Key × Value)},
    (entries.map Prod.fst).Nodup → ∀ {table : Table Key Value},
      (∀ entry ∈ entries, table.lookup entry.1 = none) → ∀ {key : Key} {value : Value},
        (entries.foldl (fun filled e => filled.insertNew e.1 e.2) table).lookup key = some value ↔
          (key, value) ∈ entries ∨ table.lookup key = some value
  | [], _, table, _, key, value => by simp
  | (first, held) :: entries, nodup, table, free, key, value => by
    obtain ⟨fresh, nodup⟩ := List.nodup_cons.mp nodup
    have firstFree : table.lookup first = none := free (first, held) List.mem_cons_self
    have restFree : ∀ entry ∈ entries, (AList.insert first held table).lookup entry.1 = none := by
      intro entry member
      have different : entry.1 ≠ first := fun same =>
        fresh (List.mem_map.mpr ⟨entry, member, same⟩)
      rw [lookup_insert_if, if_neg different]
      exact free entry (List.mem_cons_of_mem _ member)
    rw [List.foldl_cons, insertNew_of_none held firstFree,
      lookup_foldl_insertNew_iff nodup restFree, lookup_insert_iff]
    by_cases same : key = first
    · subst same
      simp [firstFree, or_comm]
    · simp [same]

/-- The entries of a table, changed and in whichever order, fill an empty table as the change of
its values does. -/
theorem lookup_foldl_insertNew {Item Other : Type} (key : Item → Key) (value : Item → Value)
    (change : Key → Other → Value) {items : List Item} {table : Table Key Other}
    (listed : (items.map fun item => (key item, value item)).Perm
      (table.entries.map fun entry => (entry.1, change entry.1 entry.2))) (found : Key) :
    (items.foldl (fun filled item => filled.insertNew (key item) (value item))
      (∅ : Table Key Value)).lookup found = (table.lookup found).map (change found) := by
  have copied : (items.map fun item => (key item, value item)).foldl
      (fun filled e => filled.insertNew e.1 e.2) (∅ : Table Key Value) =
        items.foldl (fun filled item => filled.insertNew (key item) (value item)) ∅ :=
    List.foldl_map
  have nodup : ((items.map fun item => (key item, value item)).map Prod.fst).Nodup := by
    rw [(listed.map Prod.fst).nodup_iff, List.map_map]
    exact table.keys_nodup
  rw [← copied]
  refine Option.ext fun held => ?_
  rw [lookup_foldl_insertNew_iff nodup fun entry _ => rfl, listed.mem_iff, Option.map_eq_some_iff]
  constructor
  · rintro (member | absent)
    · obtain ⟨entry, entryMember, same⟩ := List.mem_map.mp member
      obtain ⟨rfl, rfl⟩ := Prod.mk.inj same
      exact ⟨entry.2, mem_entries_iff.mp entryMember, rfl⟩
    · exact absurd absent (Option.some_ne_none held).symm
  · rintro ⟨old, stored, rfl⟩
    exact Or.inl (List.mem_map.mpr ⟨⟨found, old⟩, mem_entries_iff.mpr stored, rfl⟩)

/-! ### Sums over a table -/

/-- The sum of a measure over the entries. -/
def sum (measure : Key → Value → Int) (table : Table Key Value) : Int :=
  (table.entries.map fun entry => measure entry.1 entry.2).sum

theorem sum_erase (measure : Key → Value → Int) (found : table.lookup key = some value) :
    Table.sum measure (AList.erase key table) = table.sum measure - measure key value := by
  have present : key ∈ table.entries.keys :=
    List.mem_keys_of_mem (mem_entries_iff.mpr found)
  obtain ⟨other, before, rest, absent, split, erased⟩ := List.exists_of_kerase present
  have same : other = value := by
    have member : (⟨key, other⟩ : Sigma fun _ : Key => Value) ∈ table.entries := by
      rw [split]
      exact List.mem_append_right _ List.mem_cons_self
    exact Option.some.inj ((mem_entries_iff.mp member).symm.trans found)
  have entries : (AList.erase key table).entries = before ++ rest := erased
  simp only [sum, entries, split, List.map_append, List.sum_append, List.map_cons, List.sum_cons,
    same]
  omega

/-- Erasing an absent key changes no sum. -/
theorem sum_erase_of_none (measure : Key → Value → Int) (missing : table.lookup key = none) :
    Table.sum measure (AList.erase key table) = table.sum measure := by
  have absent : key ∉ table.entries.keys := AList.lookup_eq_none.mp missing
  have entries : (AList.erase key table).entries = table.entries :=
    List.kerase_of_notMem_keys absent
  simp only [sum, entries]

/-- An insertion adds the new entry's measure and takes away that of the entry it replaces. -/
theorem sum_insert (table : Table Key Value) (measure : Key → Value → Int) (key : Key)
    (value : Value) :
    Table.sum measure (AList.insert key value table) =
      table.sum measure - ((table.lookup key).map (measure key)).getD 0 + measure key value := by
  have entries : (AList.insert key value table).entries =
      ⟨key, value⟩ :: (AList.erase key table).entries := rfl
  have rest : Table.sum measure (AList.erase key table) =
      table.sum measure - ((table.lookup key).map (measure key)).getD 0 := by
    cases found : table.lookup key with
    | some old => exact sum_erase measure found
    | none => rw [sum_erase_of_none measure found, Option.map_none, Option.getD_none, sub_zero]
  rw [← rest]
  simp only [sum, entries, List.map_cons, List.sum_cons]
  omega

theorem sum_update (measure : Key → Value → Int) (change : Value → Value)
    (found : table.lookup key = some value) :
    (table.update key change).sum measure =
      table.sum measure - measure key value + measure key (change value) := by
  have inserted : table.update key change = AList.insert key (change value) table := by
    rw [update, found]
  rw [inserted, sum_insert, found, Option.map_some, Option.getD_some]

/-- A measure that is nowhere negative sums to at least each of its values. -/
theorem le_sum (measure : Key → Value → Int)
    (nonneg : ∀ other found, table.lookup other = some found → 0 ≤ measure other found)
    (found : table.lookup key = some value) : measure key value ≤ table.sum measure := by
  have member : measure key value ∈ table.entries.map fun entry => measure entry.1 entry.2 :=
    List.mem_map.mpr ⟨⟨key, value⟩, mem_entries_iff.mpr found, rfl⟩
  refine List.single_le_sum (fun amount listed => ?_) _ member
  obtain ⟨entry, entryMember, rfl⟩ := List.mem_map.mp listed
  exact nonneg entry.1 entry.2 (mem_entries_iff.mp entryMember)

/-- A measure that is nowhere above another sums to at most the other's sum. -/
theorem sum_le_sum {measure larger : Key → Value → Int}
    (below : ∀ key value, table.lookup key = some value → measure key value ≤ larger key value) :
    table.sum measure ≤ table.sum larger :=
  List.sum_le_sum fun entry member => below entry.1 entry.2 (mem_entries_iff.mp member)

/-- Measures that agree on every entry have the same sum. -/
theorem sum_congr {measure other : Key → Value → Int}
    (same : ∀ key value, table.lookup key = some value → measure key value = other key value) :
    table.sum measure = table.sum other :=
  le_antisymm (sum_le_sum fun key value found => (same key value found).le)
    (sum_le_sum fun key value found => (same key value found).ge)

/-- A measure that vanishes on every entry sums to zero. -/
theorem sum_eq_zero {measure : Key → Value → Int}
    (zero : ∀ key value, table.lookup key = some value → measure key value = 0) :
    table.sum measure = 0 := by
  refine List.sum_eq_zero fun amount listed => ?_
  obtain ⟨entry, member, rfl⟩ := List.mem_map.mp listed
  exact zero entry.1 entry.2 (mem_entries_iff.mp member)

end Table
