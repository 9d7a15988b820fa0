/-
This file settles what the Annex-B reader makes of a stream of NAL units.

A unit of the stream goes from its start code up to the next one. The reader takes a unit off its
buffer when it sees the start code behind it, so it never takes the last unit of the stream. What
it takes it groups: a slice, a parameter set or an SEI behind a slice ends an access unit. At the
end of the stream it gives out the group it has, if there is a slice in it. That is the stream up
to its last slice exactly when the last slice is not the last unit and nothing else is behind it in
its group.
-/

import Mathlib.Data.List.DropRight
import SovaDesk.Agent.CodecFraming

namespace SovaDesk.Agent.AnnexB

open Chunks

/-! ### The units of a stream -/

/-- Divide a stream that begins with a start code, into so many units at most. -/
def unitsWithin : Nat → Bytes → List Bytes
  | 0, _ => []
  | bound + 1, buf =>
    match indexWhere startsCode (buf.drop (startCodeLen buf)) with
    | none => [buf]
    | some next =>
      buf.take (startCodeLen buf + next) ::
        unitsWithin bound (buf.drop (startCodeLen buf + next))

/-- The NAL units of a stream, each from its start code up to the next. -/
def nalUnits (stream : Bytes) : List Bytes :=
  match indexWhere startsCode stream with
  | none => []
  | some start => unitsWithin (stream.length + 1) (stream.drop start)

def nalType (nal : Bytes) : UInt8 :=
  if startCodeLen nal < nal.length then (nal.drop (startCodeLen nal)).headD 0 &&& 0x1F else 0

def isSlice (nal : Bytes) : Bool := nalType nal = 1 || nalType nal = 5

/-- A parameter set or an SEI. -/
def isParameter (nal : Bytes) : Bool := nalType nal = 7 || nalType nal = 8 || nalType nal = 6

/-- An IDR slice or an SPS. -/
def marksKey (nal : Bytes) : Bool := nalType nal = 5 || nalType nal = 7

/-- The access unit of a group of units, with its keyframe flag. -/
def frame (group : List Bytes) : Bytes × Bool := (group.flatten, group.any marksKey)

/-- One slice, and what belongs to a later slice is not behind it. -/
def OneSlice (group : List Bytes) : Prop :=
  ∃ before slice after, group = before ++ slice :: after ∧ isSlice slice = true ∧
    (∀ nal ∈ before, isSlice nal = false) ∧
    ∀ nal ∈ after, isSlice nal = false ∧ isParameter nal = false

/-- The access units are the stream up to its last slice, in groups with one slice each. -/
def Splits (nals : List Bytes) (out : List (Bytes × Bool)) : Prop :=
  ∃ groups : List (List Bytes), out = groups.map frame ∧
    groups.flatten = nals.rdropWhile (! isSlice ·) ∧ ∀ group ∈ groups, OneSlice group

/-- There is no slice, or there is something behind the last one: the last unit of the stream, or
before it a parameter set or an SEI. -/
def EndsWell (nals : List Bytes) : Prop :=
  (∀ nal ∈ nals, isSlice nal = false) ∨
    ∃ first rest, nals.rtakeWhile (! isSlice ·) = first :: rest ∧
      (rest = [] ∨ isParameter first = true)

/-! ### The reader takes all units but the last -/

/-- The reader's accumulation over complete units. -/
def run (unit : AccessUnit) : List Bytes → List (Bytes × Bool) × AccessUnit
  | [] => ([], unit)
  | nal :: rest =>
    let added := unit.add (nalType nal) nal
    let later := run added.2 rest
    (added.1 ++ later.1, later.2)

variable {buf : Bytes}

theorem indexWhere_zero (starts : startsCode buf = true) :
    indexWhere startsCode buf = some 0 :=
  (indexWhere_eq_some_iff ..).mpr
    ⟨Nat.zero_le _, starts, fun _ early => absurd early (Nat.not_lt_zero _)⟩

/-- A start code is as long in what is cut off behind it. -/
theorem startCodeLen_take {length : Nat} (behind : startCodeLen buf ≤ length) :
    startCodeLen (buf.take length) = startCodeLen buf := by
  unfold startCodeLen at behind ⊢
  by_cases four : [0, 1].isPrefixOf (buf.drop 2) = true
  · rw [if_pos four] at behind ⊢
    refine if_pos (List.isPrefixOf_iff_prefix.mpr ?_)
    rw [List.drop_take, List.prefix_take_iff]
    exact ⟨List.isPrefixOf_iff_prefix.mp four, by
      simp only [List.length_cons, List.length_nil]; omega⟩
  · rw [if_neg four]
    refine if_neg fun cut => four (List.isPrefixOf_iff_prefix.mpr ?_)
    have within := List.isPrefixOf_iff_prefix.mp cut
    rw [List.drop_take, List.prefix_take_iff] at within
    exact within.1

/-- A complete unit has its start code and its type. -/
theorem nalType_take {next : Nat}
    (found : indexWhere startsCode (buf.drop (startCodeLen buf)) = some next) :
    nalType (buf.take (startCodeLen buf + next)) =
      if 0 < next then ((buf.take (startCodeLen buf + next)).drop (startCodeLen buf)).headD 0 &&&
        0x1F else 0 := by
  have bound := annexBTake_bound buf next found
  unfold nalType
  rw [startCodeLen_take (Nat.le_add_right _ _), List.length_take, Nat.min_eq_left (by omega)]
  exact if_congr (by omega) rfl rfl

theorem next_of_starts (starts : startsCode buf = true) (unit : AccessUnit) :
    annexBSplitter.next unit buf = annexBTake unit buf := by
  show (indexWhere startsCode buf).bind _ = _
  rw [indexWhere_zero starts]
  rfl

/-- The reader takes the units of a stream one after the other and is left with the last. -/
theorem drainWithin_of_starts (starts : startsCode buf = true) {bound : Nat}
    (covers : buf.length ≤ bound) :
    ∃ front last, unitsWithin (bound + 1) buf = front ++ [last] ∧ (front ++ [last]).flatten = buf ∧
      (∀ nal ∈ front ++ [last], nal ≠ []) ∧
      ∀ unit, annexBSplitter.drainWithin bound unit buf =
        ((run unit front).1, (run unit front).2, last) := by
  induction bound generalizing buf with
  | zero =>
    have long := local_startsCode.needs buf starts
    omega
  | succ bound inductionHypothesis =>
    have long := local_startsCode.needs buf starts
    rw [unitsWithin]
    cases found : indexWhere startsCode (buf.drop (startCodeLen buf)) with
    | none =>
      refine ⟨[], buf, rfl, ?_, ?_, fun unit => ?_⟩
      · rw [List.nil_append, List.flatten_singleton]
      · intro nal member
        rw [List.nil_append, List.mem_singleton] at member
        exact member ▸ List.ne_nil_of_length_pos (by omega)
      · refine annexBSplitter.drainWithin_of_stuck _ _ _ ?_
        rw [next_of_starts starts, annexBTake, found, Option.map_none]
    | some next =>
      have room := annexBTake_bound buf next found
      have code := three_le_startCodeLen buf
      have begins : startsCode (buf.drop (startCodeLen buf + next)) = true := by
        rw [← List.drop_drop]
        exact ((indexWhere_eq_some_iff ..).mp found).2.1
      obtain ⟨front, last, divided, whole, nonempty, drained⟩ :=
        inductionHypothesis begins (by rw [List.length_drop]; omega)
      refine ⟨buf.take (startCodeLen buf + next) :: front, last, ?_, ?_, ?_, fun unit => ?_⟩
      · dsimp only
        rw [divided, List.cons_append]
      · rw [List.cons_append, List.flatten_cons, whole, List.take_append_drop]
      · intro nal member
        rcases List.mem_cons.mp member with rfl | member
        · exact List.ne_nil_of_length_pos (by rw [List.length_take]; omega)
        · exact nonempty nal member
      · rw [Splitter.drainWithin, next_of_starts starts, annexBTake, found, Option.map_some]
        dsimp only
        rw [drained, run, nalType_take found]

/-! ### The reader groups the units -/

/-- Whether a unit ends the group before it. -/
def closes (group : List Bytes) (nal : Bytes) : Bool :=
  group.any isSlice && (isSlice nal || isParameter nal)

/-- The groups that end, and the one that is left. -/
def groupsFrom (group : List Bytes) : List Bytes → List (List Bytes) × List Bytes
  | [] => ([], group)
  | nal :: rest =>
    if closes group nal then
      let later := groupsFrom [nal] rest
      (group :: later.1, later.2)
    else groupsFrom (group ++ [nal]) rest

/-- The access unit that the reader has for a group. -/
def unitOf (group : List Bytes) : AccessUnit :=
  ⟨group.flatten, group.any isSlice, group.any marksKey⟩

theorem flushed_unitOf (group : List Bytes) :
    (unitOf group).flushed = if group.any isSlice then [frame group] else [] := by
  refine if_congr ⟨And.right, fun any => ⟨?_, any⟩⟩ rfl rfl
  obtain ⟨nal, member, slice⟩ := List.any_eq_true.mp any
  have nonempty : nal ≠ [] := fun empty => absurd (empty ▸ slice) (by decide)
  refine List.length_pos_of_ne_nil fun empty => nonempty ?_
  exact List.flatten_eq_nil_iff.mp empty nal member

/-- One more unit ends the group, or joins it. -/
theorem add_unitOf (group : List Bytes) (nal : Bytes) :
    (unitOf group).add (nalType nal) nal =
      if closes group nal then ([frame group], unitOf [nal])
      else ([], unitOf (group ++ [nal])) := by
  have alone : unitOf [nal] = ⟨nal, isSlice nal, marksKey nal⟩ := by
    simp only [unitOf, List.flatten_singleton, List.any_cons, List.any_nil, Bool.or_false]
  have joined : unitOf (group ++ [nal]) = ⟨group.flatten ++ nal, group.any isSlice || isSlice nal,
      group.any marksKey || marksKey nal⟩ := by
    simp only [unitOf, List.flatten_append, List.flatten_singleton, List.any_append, List.any_cons,
      List.any_nil, Bool.or_false]
  rw [AccessUnit.add, flushed_unitOf, alone, joined]
  unfold closes
  cases slice : group.any isSlice with
  | true =>
    simp only [isSlice, isParameter, marksKey, unitOf, slice, if_true, Bool.true_and,
      AccessUnit.empty, List.nil_append]
    split_ifs <;> simp_all
  | false =>
    simp only [isSlice, isParameter, marksKey, unitOf, slice, Bool.false_eq_true, if_false,
      Bool.false_and, Bool.false_or]
    split_ifs <;> simp_all

theorem run_unitOf (group nals : List Bytes) :
    run (unitOf group) nals =
      ((groupsFrom group nals).1.map frame, unitOf (groupsFrom group nals).2) := by
  induction nals generalizing group with
  | nil => rfl
  | cons nal rest inductionHypothesis =>
    rw [run, groupsFrom, add_unitOf]
    split
    · dsimp only
      rw [inductionHypothesis]
      rfl
    · dsimp only
      rw [inductionHypothesis, List.nil_append]

/-- Groups without a slice. -/
def NoSlice (group : List Bytes) : Prop := ∀ nal ∈ group, isSlice nal = false

theorem noSlice_nil : NoSlice [] := fun _ member => absurd member List.not_mem_nil

variable {group : List Bytes}

theorem NoSlice.any (none : NoSlice group) : group.any isSlice = false :=
  List.any_eq_false.mpr fun nal member => Bool.eq_false_iff.mp (none nal member)

theorem OneSlice.any (one : OneSlice group) : group.any isSlice = true := by
  obtain ⟨before, slice, after, rfl, is, -, -⟩ := one
  exact List.any_eq_true.mpr ⟨slice, List.mem_append_right _ List.mem_cons_self, is⟩

/-- A group that is not ended by a unit has one slice with it, or none. -/
theorem grow {nal : Bytes} (group_is : OneSlice group ∨ NoSlice group)
    (stays : closes group nal = false) :
    OneSlice (group ++ [nal]) ∨ NoSlice (group ++ [nal]) := by
  rcases group_is with one | none
  · have any := one.any
    obtain ⟨before, slice, after, rfl, is, first, behind⟩ := one
    rw [closes, any, Bool.true_and, Bool.or_eq_false_iff] at stays
    refine Or.inl ⟨before, slice, after ++ [nal], ?_, is, first, fun other member => ?_⟩
    · rw [List.append_assoc, List.cons_append]
    · rcases List.mem_append.mp member with member | member
      · exact behind other member
      · exact List.mem_singleton.mp member ▸ stays
  · cases slice : isSlice nal with
    | true =>
      exact Or.inl ⟨group, nal, [], rfl, slice, none, fun _ member => nomatch member⟩
    | false =>
      refine Or.inr fun other member => ?_
      rcases List.mem_append.mp member with member | member
      · exact none other member
      · exact List.mem_singleton.mp member ▸ slice

/-- What the groups that end and the group that is left are. -/
theorem groupsFrom_spec (group_is : OneSlice group ∨ NoSlice group) (nals : List Bytes) :
    (groupsFrom group nals).1.flatten ++ (groupsFrom group nals).2 = group ++ nals ∧
      (∀ ended ∈ (groupsFrom group nals).1, OneSlice ended) ∧
      (OneSlice (groupsFrom group nals).2 ∨ NoSlice (groupsFrom group nals).2 ∧
        ((groupsFrom group nals).1 = [] ∨ ∃ first others,
          (groupsFrom group nals).2 = first :: others ∧ isParameter first = true)) := by
  induction nals generalizing group with
  | nil =>
    refine ⟨?_, fun _ member => absurd member List.not_mem_nil, ?_⟩
    · rw [groupsFrom, List.flatten_nil, List.nil_append, List.append_nil]
    · exact group_is.imp_right fun none => ⟨none, Or.inl rfl⟩
  | cons nal rest inductionHypothesis =>
    rw [groupsFrom]
    cases closing : closes group nal with
    | false =>
      obtain ⟨whole, ended, left⟩ := inductionHypothesis (grow group_is closing)
      rw [List.append_assoc, List.singleton_append] at whole
      exact ⟨whole, ended, left⟩
    | true =>
      obtain ⟨any, ends⟩ := (Bool.and_eq_true _ _).mp closing
      have one : OneSlice group := group_is.resolve_right fun none =>
        Bool.false_ne_true (none.any.symm.trans any)
      have alone : OneSlice [nal] ∨ NoSlice [nal] :=
        @grow [] nal (Or.inr noSlice_nil) (by rw [closes, List.any_nil, Bool.false_and])
      obtain ⟨whole, ended, left⟩ := inductionHypothesis alone
      refine ⟨?_, ?_, left.imp_right fun ⟨free, starts⟩ => ⟨free, Or.inr ?_⟩⟩
      · rw [if_pos rfl, List.flatten_cons, List.append_assoc, whole, List.singleton_append]
      · intro other member
        rcases List.mem_cons.mp member with rfl | member
        · exact one
        · exact ended other member
      · rcases starts with empty | starts
        · rw [empty, List.flatten_nil, List.nil_append, List.singleton_append] at whole
          refine ⟨nal, rest, whole, ?_⟩
          rw [free nal (whole ▸ List.mem_cons_self), Bool.false_or] at ends
          exact ends
        · exact starts

/-- The groups that the reader gives out: those that end, and at the end of the stream the one that
is left if it has a slice. -/
def groups (nals : List Bytes) : List (List Bytes) :=
  (groupsFrom [] nals).1 ++
    if (groupsFrom [] nals).2.any isSlice then [(groupsFrom [] nals).2] else []

variable {nals : List Bytes}

theorem oneSlice_of_mem_groups (member : group ∈ groups nals) :
    OneSlice group := by
  obtain ⟨-, ended, left⟩ := groupsFrom_spec (Or.inr noSlice_nil) nals
  rcases List.mem_append.mp member with member | member
  · exact ended group member
  · rcases left with one | ⟨none, -⟩
    · rw [if_pos one.any, List.mem_singleton] at member
      exact member ▸ one
    · rw [none.any] at member
      exact nomatch member

/-- The groups end with the last slice of the units and what stays with it. Behind that there is
nothing, or a unit that belongs to a later slice. -/
theorem exists_last_slice (some_slice : ¬NoSlice nals) :
    ∃ before slice after rest, nals = before ++ slice :: (after ++ rest) ∧
      isSlice slice = true ∧ (∀ nal ∈ after, isSlice nal = false ∧ isParameter nal = false) ∧
      NoSlice rest ∧ (rest = [] ∨ ∃ first others, rest = first :: others ∧
        isParameter first = true) ∧ (groups nals).flatten = before ++ slice :: after := by
  obtain ⟨whole, ended, left⟩ := groupsFrom_spec (Or.inr noSlice_nil) nals
  rw [List.nil_append] at whole
  unfold groups
  rcases left with one | ⟨none, starts⟩
  · rw [if_pos one.any, List.flatten_append, List.flatten_singleton, whole]
    obtain ⟨before, slice, after, same, is, -, behind⟩ := one
    rw [same, ← List.append_assoc] at whole
    exact ⟨_, slice, after, [], by rw [List.append_nil, whole], is, behind,
      noSlice_nil, Or.inl rfl, whole.symm⟩
  · rw [none.any, if_neg Bool.false_ne_true, List.append_nil]
    rcases List.eq_nil_or_concat (groupsFrom [] nals).1 with empty | ⟨front, group, same⟩
    · rw [empty, List.flatten_nil, List.nil_append] at whole
      exact absurd (whole ▸ none) some_slice
    · rw [List.concat_eq_append] at same
      have member : group ∈ (groupsFrom [] nals).1 :=
        same ▸ List.mem_append_right _ List.mem_cons_self
      obtain ⟨before, slice, after, rfl, is, -, behind⟩ := ended group member
      have all : (groupsFrom [] nals).1.flatten = front.flatten ++ before ++ slice :: after := by
        rw [same, List.flatten_append, List.flatten_singleton, List.append_assoc]
      refine ⟨_, slice, after, _, ?_, is, behind, none, starts.imp_left fun empty => ?_, all⟩
      · exact whole.symm.trans (by rw [all, List.append_assoc, List.cons_append])
      · exact absurd (empty ▸ member) List.not_mem_nil

theorem groups_of_noSlice (free : NoSlice nals) : groups nals = [] := by
  obtain ⟨whole, ended, left⟩ := groupsFrom_spec (Or.inr noSlice_nil) nals
  rw [List.nil_append] at whole
  refine List.eq_nil_iff_forall_not_mem.mpr fun group member => ?_
  obtain ⟨nal, inside, slice⟩ := List.any_eq_true.mp (oneSlice_of_mem_groups member).any
  refine Bool.false_ne_true ((free nal ?_).symm.trans slice)
  rw [← whole]
  rcases List.mem_append.mp member with member | member
  · exact List.mem_append_left _ (List.mem_flatten.mpr ⟨group, member, inside⟩)
  · obtain ⟨-, same⟩ := List.mem_ite_nil_right.mp member
    exact List.mem_append_right _ (List.mem_singleton.mp same ▸ inside)

/-! ### When they are the stream up to its last slice -/

/-- Equal access units have equal bytes. -/
theorem flatten_eq_of_map_frame {some_groups others : List (List Bytes)}
    (same : some_groups.map frame = others.map frame) :
    some_groups.flatten.flatten = others.flatten.flatten := by
  have bytes := congrArg (fun out => (out.map Prod.fst).flatten) same
  simp only [List.map_map] at bytes
  rw [List.flatten_flatten, List.flatten_flatten]
  exact bytes

theorem rdropWhile_behind {behind : List Bytes} {slice : Bytes} (is : isSlice slice = true)
    (free : NoSlice behind) :
    (nals ++ slice :: behind).rdropWhile (! isSlice ·) = nals ++ [slice] ∧
      (nals ++ slice :: behind).rtakeWhile (! isSlice ·) = behind := by
  have all : ∀ nal ∈ behind.reverse, (! isSlice nal) = true := fun nal member => by
    rw [free nal (List.mem_reverse.mp member)]
    rfl
  have last : ¬(! isSlice slice) = true := by rw [is]; decide
  unfold List.rdropWhile List.rtakeWhile
  rw [List.reverse_append, List.reverse_cons, List.append_assoc, List.singleton_append,
    List.dropWhile_append_of_pos all, List.takeWhile_append_of_pos all,
    @List.dropWhile_cons_of_neg _ (! isSlice ·) slice _ last,
    @List.takeWhile_cons_of_neg _ (! isSlice ·) slice _ last, List.append_nil, List.reverse_cons,
    List.reverse_reverse, List.reverse_reverse]
  exact ⟨rfl, rfl⟩

section last

variable {front : List Bytes} {last : Bytes} (nonempty : ∀ nal ∈ front ++ [last], nal ≠ [])

theorem splits_iff_of_noSlice (free : NoSlice front) :
    Splits (front ++ [last]) ((groups front).map frame) ↔ EndsWell (front ++ [last]) := by
  have all : NoSlice (front ++ [last]) ↔ isSlice last = false := by
    refine ⟨fun free => free last (List.mem_append_right _ List.mem_cons_self), fun plain => ?_⟩
    intro nal member
    rcases List.mem_append.mp member with member | member
    · exact free nal member
    · exact List.mem_singleton.mp member ▸ plain
  rw [groups_of_noSlice free, List.map_nil]
  constructor
  · rintro ⟨some_groups, same, whole, -⟩
    rw [List.map_eq_nil_iff.mp same.symm, List.flatten_nil] at whole
    refine Or.inl fun nal member => ?_
    exact (Bool.not_eq_true' _).mp (List.rdropWhile_eq_nil_iff.mp whole.symm nal member)
  · intro well
    have plain : isSlice last = false := by
      rcases well with free | ⟨first, rest, tail, -⟩
      · exact all.mp free
      · cases slice : isSlice last with
        | false => rfl
        | true =>
          rw [(rdropWhile_behind slice noSlice_nil).2] at tail
          exact nomatch tail
    refine ⟨[], rfl, (List.rdropWhile_eq_nil_iff.mpr fun nal member => ?_).symm,
      fun _ member => absurd member List.not_mem_nil⟩
    rw [all.mpr plain nal member]
    rfl

/-- A slice at the end of the stream is lost. -/
theorem splits_iff_of_slice (final : isSlice last = true) (given : (groups front).flatten <+: front)
    (long : last ≠ []) :
    Splits (front ++ [last]) ((groups front).map frame) ↔ EndsWell (front ++ [last]) := by
  have ends := @rdropWhile_behind front [] last final noSlice_nil
  refine iff_of_false ?_ ?_
  · rintro ⟨some_groups, same, whole, -⟩
    have equal := flatten_eq_of_map_frame same
    obtain ⟨more, all⟩ := given
    rw [whole, ends.1, List.flatten_append, List.flatten_singleton] at equal
    have lengths := congrArg List.length equal
    have bound := congrArg (fun nals => nals.flatten.length) all
    have pos := List.length_pos_of_ne_nil long
    simp only [List.flatten_append, List.length_append] at lengths bound
    omega
  · rintro (none | ⟨first, others, tail, -⟩)
    · have plain := none last (List.mem_append_right _ List.mem_cons_self)
      exact Bool.false_ne_true (plain.symm.trans final)
    · rw [ends.2] at tail
      exact nomatch tail

/-- Behind a slice that is not at the end, exactly what stays with it is too much. -/
theorem splits_iff_of_behind {before after rest : List Bytes} {slice : Bytes}
    (is : isSlice slice = true) (behind : ∀ nal ∈ after, isSlice nal = false ∧
      isParameter nal = false) (free : NoSlice (after ++ rest ++ [last]))
    (starts : rest = [] ∨ ∃ first others, rest = first :: others ∧ isParameter first = true)
    (given : (groups front).flatten = before ++ slice :: after)
    (nonempty : ∀ nal ∈ after, nal ≠ []) :
    Splits (before ++ slice :: (after ++ rest ++ [last])) ((groups front).map frame) ↔
      EndsWell (before ++ slice :: (after ++ rest ++ [last])) := by
  have ends := @rdropWhile_behind before _ slice is free
  have splits : Splits (before ++ slice :: (after ++ rest ++ [last])) ((groups front).map frame) ↔
      after = [] := by
    constructor
    · rintro ⟨some_groups, same, whole, -⟩
      have equal := flatten_eq_of_map_frame same
      have apart : before ++ slice :: after = before ++ [slice] ++ after := by
        rw [List.append_assoc, List.singleton_append]
      rw [whole, ends.1, given, apart, List.flatten_append, List.append_right_eq_self,
        List.flatten_eq_nil_iff] at equal
      exact List.eq_nil_iff_forall_not_mem.mpr fun nal member =>
        nonempty nal member (equal nal member)
    · rintro rfl
      exact ⟨_, rfl, given.trans ends.1.symm, fun group => oneSlice_of_mem_groups⟩
  rw [splits]
  constructor
  · rintro rfl
    refine Or.inr ?_
    rw [ends.2]
    rcases starts with rfl | ⟨first, others, rfl, parameter⟩
    · exact ⟨last, [], rfl, Or.inl rfl⟩
    · exact ⟨first, others ++ [last], rfl, Or.inr parameter⟩
  · rintro (none | ⟨first, others, tail, alone⟩)
    · have plain := none slice (List.mem_append_right _ List.mem_cons_self)
      exact absurd (plain.symm.trans is) Bool.false_ne_true
    · rw [ends.2] at tail
      cases after with
      | nil => rfl
      | cons nal after =>
        obtain ⟨rfl, rfl⟩ := List.cons.inj tail
        rcases alone with empty | parameter
        · exact absurd empty (List.append_ne_nil_of_right_ne_nil _ (List.cons_ne_nil _ _))
        · have other := (behind nal List.mem_cons_self).2
          exact absurd (other.symm.trans parameter) Bool.false_ne_true

include nonempty

/-- The reader gives out the stream up to its last slice exactly when the stream ends well. -/
theorem splits_groups_iff :
    Splits (front ++ [last]) ((groups front).map frame) ↔ EndsWell (front ++ [last]) := by
  by_cases free : NoSlice front
  · exact splits_iff_of_noSlice free
  · obtain ⟨before, slice, after, rest, same, is, behind, free', starts, given⟩ :=
      exists_last_slice free
    have long : ∀ nal ∈ front, nal ≠ [] := fun nal member =>
      nonempty nal (List.mem_append_left _ member)
    cases final : isSlice last with
    | true =>
      have regroup : front = before ++ slice :: after ++ rest := by
        rw [same, List.append_assoc, List.cons_append]
      exact splits_iff_of_slice final (given ▸ regroup ▸ List.prefix_append _ _)
        (nonempty last (List.mem_append_right _ List.mem_cons_self))
    | false =>
      have tail : NoSlice (after ++ rest ++ [last]) := by
        intro nal member
        rcases List.mem_append.mp member with member | member
        · rcases List.mem_append.mp member with member | member
          · exact (behind nal member).1
          · exact free' nal member
        · exact List.mem_singleton.mp member ▸ final
      have regroup : front ++ [last] = before ++ slice :: (after ++ rest ++ [last]) := by
        rw [same, List.append_assoc, List.cons_append]
      rw [regroup]
      refine splits_iff_of_behind is behind tail starts given fun nal member => long nal ?_
      rw [same]
      exact List.mem_append_right _ (List.mem_cons_of_mem _ (List.mem_append_left _ member))

end last

/-! ### The reader -/

/-- What the reader gives out, for the units of the stream. -/
theorem readAnnexBFrames_eq {reads : List Bytes} (fits : annexBSplitter.Fits .empty [] reads) :
    nalUnits reads.flatten = [] ∧ indexWhere startsCode reads.flatten = none ∧
      readAnnexBFrames reads = [] ∨
    ∃ start front last, indexWhere startsCode reads.flatten = some start ∧
      nalUnits reads.flatten = front ++ [last] ∧
      (front ++ [last]).flatten = reads.flatten.drop start ∧
      (∀ nal ∈ front ++ [last], nal ≠ []) ∧
      readAnnexBFrames reads = (groups front).map frame := by
  rw [readAnnexBFrames, annexBSplitter.readFrom_eq_of_fits annexBSplitter_stable
    annexBSplitter_keeping .empty [] reads fits, List.nil_append]
  generalize reads.flatten = stream
  unfold nalUnits
  cases found : indexWhere startsCode stream with
  | none =>
    refine Or.inl ⟨rfl, rfl, ?_⟩
    have stuck : annexBSplitter.next .empty stream = none := by
      show (indexWhere startsCode stream).bind _ = none
      rw [found, Option.bind_none]
    rw [Splitter.output, annexBSplitter.drain_of_stuck _ _ stuck]
    rfl
  | some start =>
    obtain ⟨bound, stands, -⟩ := (indexWhere_eq_some_iff ..).mp found
    have covers : (stream.drop start).length ≤ stream.length := by
      rw [List.length_drop]
      exact Nat.sub_le _ _
    obtain ⟨front, last, divided, whole, nonempty, drained⟩ := drainWithin_of_starts stands covers
    refine Or.inr ⟨start, front, last, rfl, divided, whole, nonempty, ?_⟩
    have first : annexBSplitter.next .empty stream =
        annexBSplitter.next .empty (stream.drop start) := by
      rw [next_of_starts stands]
      show (indexWhere startsCode stream).bind _ = _
      rw [found]
      rfl
    rw [annexBSplitter.output_congr _ _ _ first, Splitter.output,
      ← annexBSplitter.drainWithin_eq_drain _ _ _ covers, drained]
    have grouped := run_unitOf [] front
    have empty : unitOf [] = AccessUnit.empty := rfl
    rw [empty] at grouped
    rw [grouped, groups, List.map_append]
    refine congrArg _ ((flushed_unitOf _).trans ?_)
    split
    · rfl
    · rfl

/-- The units are the stream from its first start code on, and the reader splits it into access
units as it should exactly when it ends well. -/
theorem splits_iff {reads : List Bytes} (fits : annexBSplitter.Fits .empty [] reads) :
    (∀ start, indexWhere startsCode reads.flatten = some start →
      (nalUnits reads.flatten).flatten = reads.flatten.drop start) ∧
    (Splits (nalUnits reads.flatten) (readAnnexBFrames reads) ↔
      EndsWell (nalUnits reads.flatten)) := by
  rcases readAnnexBFrames_eq fits with ⟨units, absent, out⟩ |
      ⟨start, front, last, found, units, whole, nonempty, out⟩
  · rw [units, out, absent]
    refine ⟨fun _ same => (Option.some_ne_none _ same.symm).elim, iff_of_true ?_ (Or.inl ?_)⟩
    · exact ⟨[], rfl, rfl, fun _ member => absurd member List.not_mem_nil⟩
    · exact fun _ member => absurd member List.not_mem_nil
  · rw [units, out, found]
    refine ⟨fun _ same => ?_, splits_groups_iff nonempty⟩
    rw [whole, Option.some.inj same]

/-- An SPS, a key frame and a delta frame, in two reads. -/
def sampleReads : List Bytes := [[0, 0, 1, 0x67, 0, 0], [1, 0x65, 7, 0, 0, 0, 1, 0x41]]

theorem fits_sampleReads : annexBSplitter.Fits .empty [] sampleReads :=
  annexBSplitter.fits_of_roomy _ _ _ fun limit known => by
    obtain rfl := Option.some.inj known
    decide

theorem splits_iff_sample :
    Splits (nalUnits sampleReads.flatten) (readAnnexBFrames sampleReads) ↔
      EndsWell (nalUnits sampleReads.flatten) :=
  (splits_iff fits_sampleReads).2

/-- The slice at the end of the stream is in no access unit. -/
theorem loses_last_slice :
    ¬∀ reads : List Bytes, annexBSplitter.Fits .empty [] reads →
      ((readAnnexBFrames reads).map Prod.fst).flatten =
        ((nalUnits reads.flatten).rdropWhile (! isSlice ·)).flatten := by
  intro lossless
  have lost := lossless sampleReads fits_sampleReads
  revert lost
  decide +kernel

end SovaDesk.Agent.AnnexB
