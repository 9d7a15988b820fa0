/-
This file is a small library of finite tables that keep the order in which their keys came.

A value is written in the place of the old one, so writing what is there changes nothing and two
writes under a key are the later one. A list of entries makes a table, in which the last entry of a
key counts, and the entries of a table make that table again.
-/

import Mathlib.Data.List.Nodup

/-- Entries with no key twice. -/
@[ext]
structure OrderedTable (Key Value : Type) where
  entries : List (Key × Value)
  distinct : (entries.map Prod.fst).Nodup

namespace OrderedTable

variable {Key Value : Type} [DecidableEq Key]

/-! ### Entries -/

/-- Write a value in the place of the old one, or at the end. -/
def setEntry (key : Key) (value : Value) : List (Key × Value) → List (Key × Value)
  | [] => [(key, value)]
  | entry :: rest =>
    if entry.1 = key then (key, value) :: rest else entry :: setEntry key value rest

theorem lookup_cons_if (entry : Key × Value) (rest : List (Key × Value)) (key : Key) :
    (entry :: rest).lookup key = if key = entry.1 then some entry.2 else rest.lookup key := by
  rw [List.lookup_cons]
  by_cases same : key = entry.1
  · rw [if_pos same, beq_iff_eq.mpr same]
  · rw [if_neg same, beq_false_of_ne same]

theorem mem_keys_setEntry (key other : Key) (value : Value) (entries : List (Key × Value)) :
    other ∈ (setEntry key value entries).map Prod.fst ↔
      other = key ∨ other ∈ entries.map Prod.fst := by
  induction entries with
  | nil => exact List.mem_cons
  | cons entry rest inductionHypothesis =>
    rw [setEntry]
    by_cases here : entry.1 = key
    · rw [if_pos here, List.map_cons, List.map_cons, List.mem_cons, List.mem_cons, here]
      exact or_self_left.symm
    · rw [if_neg here, List.map_cons, List.map_cons, List.mem_cons, List.mem_cons,
        inductionHypothesis]
      exact or_left_comm

theorem nodup_setEntry (key : Key) (value : Value) {entries : List (Key × Value)}
    (distinct : (entries.map Prod.fst).Nodup) :
    ((setEntry key value entries).map Prod.fst).Nodup := by
  induction entries with
  | nil => exact List.nodup_singleton key
  | cons entry rest inductionHypothesis =>
    obtain ⟨fresh, distinctRest⟩ := List.nodup_cons.mp distinct
    rw [setEntry]
    by_cases here : entry.1 = key
    · rw [if_pos here]
      exact List.nodup_cons.mpr ⟨here ▸ fresh, distinctRest⟩
    · rw [if_neg here]
      refine List.nodup_cons.mpr ⟨fun listed => ?_, inductionHypothesis distinctRest⟩
      exact ((mem_keys_setEntry key _ value rest).mp listed).elim here fresh

theorem setEntry_of_notMem {key : Key} (value : Value) {entries : List (Key × Value)}
    (fresh : key ∉ entries.map Prod.fst) :
    setEntry key value entries = entries ++ [(key, value)] := by
  induction entries with
  | nil => rfl
  | cons entry rest inductionHypothesis =>
    rw [List.map_cons, List.mem_cons, not_or] at fresh
    rw [setEntry, if_neg (Ne.symm fresh.1), inductionHypothesis fresh.2]
    rfl

/-! ### Tables -/

def empty : OrderedTable Key Value := ⟨[], List.nodup_nil⟩

def get? (table : OrderedTable Key Value) (key : Key) : Option Value := table.entries.lookup key

def set (table : OrderedTable Key Value) (key : Key) (value : Value) : OrderedTable Key Value :=
  ⟨setEntry key value table.entries, nodup_setEntry key value table.distinct⟩

/-- Of several values under a key, the last one counts. -/
def ofEntries (entries : List (Key × Value)) : OrderedTable Key Value :=
  entries.foldl (fun table entry => table.set entry.1 entry.2) empty

theorem get?_set (table : OrderedTable Key Value) (key other : Key) (value : Value) :
    (table.set key value).get? other = if other = key then some value else table.get? other := by
  have each : ∀ entries : List (Key × Value), (setEntry key value entries).lookup other =
      if other = key then some value else entries.lookup other := by
    intro entries
    induction entries with
    | nil => rw [setEntry, lookup_cons_if]
    | cons entry rest inductionHypothesis =>
      rw [setEntry, lookup_cons_if entry rest]
      by_cases here : entry.1 = key
      · rw [if_pos here, lookup_cons_if, here]
        by_cases same : other = key
        · rw [if_pos same, if_pos same]
        · rw [if_neg same, if_neg same, if_neg same]
      · rw [if_neg here, lookup_cons_if, inductionHypothesis]
        by_cases same : other = entry.1
        · rw [if_pos same, if_neg fun equal => here (same.symm.trans equal), if_pos same]
        · rw [if_neg same, if_neg same]
  exact each table.entries

/-- Writing what is there changes nothing. -/
theorem set_eq_self {table : OrderedTable Key Value} {key : Key} {value : Value}
    (there : table.get? key = some value) : table.set key value = table := by
  have each : ∀ entries : List (Key × Value), entries.lookup key = some value →
      setEntry key value entries = entries := by
    intro entries
    induction entries with
    | nil => exact fun there => absurd there (Option.some_ne_none value).symm
    | cons entry rest inductionHypothesis =>
      intro there
      rw [setEntry]
      rw [lookup_cons_if] at there
      by_cases here : entry.1 = key
      · rw [if_pos here.symm] at there
        rw [if_pos here, ← here, ← Option.some.inj there]
      · rw [if_neg (Ne.symm here)] at there
        rw [if_neg here, inductionHypothesis there]
  exact OrderedTable.ext (each table.entries there)

/-- The entries of a table make the table. -/
theorem ofEntries_entries (table : OrderedTable Key Value) : ofEntries table.entries = table := by
  have append : ∀ (entries : List (Key × Value)) (before : OrderedTable Key Value),
      ((before.entries ++ entries).map Prod.fst).Nodup →
        (entries.foldl (fun table entry => table.set entry.1 entry.2) before).entries =
          before.entries ++ entries := by
    intro entries
    induction entries with
    | nil => exact fun before _ => (List.append_nil _).symm
    | cons entry rest inductionHypothesis =>
      intro before distinct
      have fresh : entry.1 ∉ before.entries.map Prod.fst := by
        rw [List.map_append] at distinct
        exact fun listed => List.disjoint_of_nodup_append distinct listed List.mem_cons_self
      have written : (before.set entry.1 entry.2).entries = before.entries ++ [entry] :=
        setEntry_of_notMem entry.2 fresh
      rw [List.foldl_cons, inductionHypothesis, written, List.append_assoc]
      · rfl
      · rw [written, List.append_assoc]
        exact distinct
  exact OrderedTable.ext (append table.entries empty table.distinct)

end OrderedTable
