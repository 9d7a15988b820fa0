/-
This file proves that the printed form of an IPv6 address is read back as the address,
and reads off an accepted text how its first group is written.

The printed form has lower-case hexadecimal groups without leading zeros, and leaves the
first longest run of at least two zero groups out. What an ellipsis stands for is found
again by counting: the groups before and after it, and as many zeros as are missing.
-/

import SovaDesk.Security.Addresses

namespace SovaDesk.Security

open Signal

/-! ### Groups -/

theorem digitValue_digitChar : ∀ digit < 16, digitValue digit.digitChar = digit := by
  decide

theorem number_append (base : Nat) (digits : List Char) (last : Char) :
    number base (digits ++ [last]) = base * number base digits + digitValue last := by
  rw [number, List.foldl_append]
  rfl

theorem number_toDigits (n : Nat) : number 16 (Nat.toDigits 16 n) = n := by
  induction n using Nat.strong_induction_on with
  | _ n inductionHypothesis =>
    by_cases small : n < 16
    · rw [Nat.toDigits_of_lt_base small]
      show 16 * 0 + digitValue n.digitChar = n
      rw [digitValue_digitChar n small]
      omega
    · have large : 16 ≤ n := Nat.le_of_not_lt small
      rw [Nat.toDigits_of_base_le (by decide) large, number_append,
        inductionHypothesis (n / 16) (by omega),
        digitValue_digitChar (n % 16) (Nat.mod_lt n (by decide))]
      omega

theorem isHexDigit_digitChar : ∀ digit < 16, isHexDigit digit.digitChar = true := by
  decide

/-- A property of the sixteen digits is one of every printed number. -/
theorem of_mem_toDigits {p : Char → Bool} (digits : ∀ digit < 16, p digit.digitChar = true)
    (n : Nat) : ∀ c ∈ Nat.toDigits 16 n, p c = true := by
  induction n using Nat.strong_induction_on with
  | _ n inductionHypothesis =>
    intro c member
    by_cases small : n < 16
    · rw [Nat.toDigits_of_lt_base small, List.mem_singleton] at member
      exact member ▸ digits n small
    · have large : 16 ≤ n := Nat.le_of_not_lt small
      rw [Nat.toDigits_of_base_le (by decide) large] at member
      rcases List.mem_append.mp member with member | member
      · exact inductionHypothesis (n / 16) (by omega) c member
      · rw [List.mem_singleton.mp member]
        exact digits (n % 16) (Nat.mod_lt n (by decide))

/-- A group that is printed is read as a group. -/
theorem isGroup_toDigits (group : Nat) (small : group < 2 ^ 16) :
    isGroup (Nat.toDigits 16 group) = true := by
  simp only [isGroup, Bool.and_eq_true, bne_iff_ne, ne_eq, decide_eq_true_eq]
  exact ⟨⟨Nat.toDigits_ne_nil, (Nat.length_toDigits_le_iff (by decide) (by decide)).mpr small⟩,
    List.all_eq_true.mpr (of_mem_toDigits isHexDigit_digitChar group)⟩

variable {part : List Char}

theorem colon_notMem_of_isGroup (group : isGroup part = true) : ':' ∉ part := by
  intro colon
  simp only [isGroup, Bool.and_eq_true] at group
  exact absurd (List.all_eq_true.mp group.2 ':' colon) (by decide)

theorem ne_nil_of_isGroup (group : isGroup part = true) : part ≠ [] := by
  rintro rfl
  exact absurd group (by decide)

/-! ### Joined groups -/

/-- Groups joined by colons. -/
def joined (parts : List (List Char)) : List Char := [':'].intercalate parts

theorem fields_joined (parts : List (List Char)) (groups : ∀ part ∈ parts, isGroup part = true) :
    fields (joined parts) = parts := by
  cases parts with
  | nil => rfl
  | cons part rest =>
    have first := groups part List.mem_cons_self
    have nonempty : joined (part :: rest) ≠ [] := by
      intro empty
      cases rest with
      | nil => exact ne_nil_of_isGroup first (by simpa [joined] using empty)
      | cons next rest => simp [joined, List.intercalate_cons_cons] at empty
    rw [fields, if_neg nonempty]
    exact List.splitOn_intercalate ':' (fun part member =>
      colon_notMem_of_isGroup (groups part member)) (List.cons_ne_nil part rest)

variable (groups : List Nat)

theorem parseGroups_map (small : ∀ group ∈ groups, group < 2 ^ 16) :
    parseGroups (groups.map (Nat.toDigits 16)) = some groups := by
  induction groups with
  | nil => rfl
  | cons group rest inductionHypothesis =>
    have isGroup := isGroup_toDigits group (small group List.mem_cons_self)
    have later := inductionHypothesis fun other member =>
      small other (List.mem_cons_of_mem _ member)
    cases rest with
    | nil =>
      rw [List.map_singleton, parseGroups, if_pos isGroup, number_toDigits]
    | cons next rest =>
      rw [List.map_cons, List.map_cons, parseGroups, if_pos isGroup, ← List.map_cons, later,
        Option.map_some, number_toDigits]
      exact fun empty => List.cons_ne_nil _ _ empty

theorem plainGroups_map (small : ∀ group ∈ groups, group < 2 ^ 16) :
    plainGroups (groups.map (Nat.toDigits 16)) = some groups := by
  rw [plainGroups, if_pos, List.map_map]
  · refine congrArg some ?_
    conv_rhs => rw [← List.map_id groups]
    exact List.map_congr_left fun group _ => number_toDigits group
  · rw [List.all_map, List.all_eq_true]
    exact fun group member => isGroup_toDigits group (small group member)

/-! ### The ellipsis -/

/-- A part without colons is passed over. -/
theorem cutEllipsis_append (fresh : ':' ∉ part) (rest : List Char) :
    cutEllipsis (part ++ rest) =
      (cutEllipsis rest).map fun halves => (part ++ halves.1, halves.2) := by
  induction part with
  | nil => exact (congrFun Option.map_id _).symm
  | cons c part inductionHypothesis =>
    have different : c ≠ ':' := fun same => fresh (same ▸ List.mem_cons_self)
    have later := inductionHypothesis fun colon => fresh (List.mem_cons_of_mem c colon)
    rw [List.cons_append, cutEllipsis, if_neg (fun both => different both.1), later,
      Option.map_map]
    rfl

/-- A single colon is passed over. -/
theorem cutEllipsis_colon {rest : List Char} (single : rest.head? ≠ some ':') :
    cutEllipsis (':' :: rest) =
      (cutEllipsis rest).map fun halves => (':' :: halves.1, halves.2) := by
  rw [cutEllipsis, if_neg fun both => single both.2]

theorem head?_ne_colon (group : isGroup part = true) (rest : List Char) :
    (part ++ rest).head? ≠ some ':' := by
  cases part with
  | nil => exact absurd group (by decide)
  | cons c part =>
    intro colon
    have same : c = ':' := Option.some.inj colon
    exact colon_notMem_of_isGroup group (same ▸ List.mem_cons_self)

/-- Joined groups are passed over. -/
theorem cutEllipsis_joined (parts : List (List Char)) (groups : ∀ part ∈ parts, isGroup part = true)
    (rest : List Char) :
    cutEllipsis (joined parts ++ rest) =
      (cutEllipsis rest).map fun halves => (joined parts ++ halves.1, halves.2) := by
  induction parts with
  | nil => exact (congrFun Option.map_id _).symm
  | cons part parts inductionHypothesis =>
    have first := groups part List.mem_cons_self
    have later := inductionHypothesis fun other member =>
      groups other (List.mem_cons_of_mem _ member)
    cases parts with
    | nil =>
      rw [joined, List.intercalate_singleton]
      exact cutEllipsis_append (colon_notMem_of_isGroup first) rest
    | cons next parts =>
      have unfolded : joined (part :: next :: parts) = part ++ ':' :: joined (next :: parts) := by
        rw [joined, List.intercalate_cons_cons, List.append_assoc]
        rfl
      have single : (joined (next :: parts) ++ rest).head? ≠ some ':' := by
        have isGroup := groups next (List.mem_cons_of_mem _ List.mem_cons_self)
        cases parts with
        | nil =>
          rw [joined, List.intercalate_singleton]
          exact head?_ne_colon isGroup rest
        | cons after parts =>
          rw [joined, List.intercalate_cons_cons, List.append_assoc, List.append_assoc]
          exact head?_ne_colon isGroup _
      rw [unfolded, List.append_assoc, cutEllipsis_append (colon_notMem_of_isGroup first),
        List.cons_append, cutEllipsis_colon single, later, Option.map_map, Option.map_map]
      simp only [Function.comp_def, List.append_assoc, List.cons_append]

/-! ### The printed form -/

/-- A run of zeros in a list: its start and its length. -/
def ZeroRun (groups : List Nat) (run : Nat × Nat) : Prop :=
  groups = groups.take run.1 ++ List.replicate run.2 0 ++ groups.drop (run.1 + run.2)

theorem zeroRun_takeWhile (start : Nat) :
    ZeroRun groups (start, ((groups.drop start).takeWhile (· == 0)).length) := by
  have front : groups = groups.take start ++ groups.drop start :=
    (List.take_append_drop start groups).symm
  unfold ZeroRun
  simp only [← List.drop_drop]
  generalize groups.drop start = tail at front ⊢
  have zeros : tail.takeWhile (· == 0) = List.replicate (tail.takeWhile (· == 0)).length 0 :=
    List.eq_replicate_iff.mpr ⟨rfl, fun group member => by
      simpa using List.mem_takeWhile_imp member⟩
  have rest : tail.drop (tail.takeWhile (· == 0)).length = tail.dropWhile (· == 0) := by
    calc tail.drop (tail.takeWhile (· == 0)).length
        = (tail.takeWhile (· == 0) ++ tail.dropWhile (· == 0)).drop
            (tail.takeWhile (· == 0)).length := by rw [List.takeWhile_append_dropWhile]
      _ = tail.dropWhile (· == 0) := List.drop_left
  rw [rest, ← zeros, List.append_assoc, List.takeWhile_append_dropWhile]
  exact front

theorem zeroRun_longest : ZeroRun groups (IP.longestZeroRun groups) := by
  unfold IP.longestZeroRun
  have kept : ∀ (starts : List Nat) (best : Nat × Nat), ZeroRun groups best →
      ZeroRun groups (starts.foldl (fun best start =>
        let length := ((groups.drop start).takeWhile (· == 0)).length
        if length > best.2 then (start, length) else best) best) := by
    intro starts
    induction starts with
    | nil => exact fun _ run => run
    | cons start starts inductionHypothesis =>
      intro best run
      refine inductionHypothesis _ ?_
      simp only
      split
      · exact zeroRun_takeWhile groups start
      · exact run
  exact kept _ (0, 0) rfl

variable (address : BitVec 128)

theorem groups_eq : IP.parts 8 16 address.toNat =
    [address.toNat / 2 ^ 112 % 2 ^ 16, address.toNat / 2 ^ 96 % 2 ^ 16,
      address.toNat / 2 ^ 80 % 2 ^ 16, address.toNat / 2 ^ 64 % 2 ^ 16,
      address.toNat / 2 ^ 48 % 2 ^ 16, address.toNat / 2 ^ 32 % 2 ^ 16,
      address.toNat / 2 ^ 16 % 2 ^ 16, address.toNat / 2 ^ 0 % 2 ^ 16] := rfl

theorem ofGroups_parts :
    ofGroups (IP.parts 8 16 address.toNat) = address := by
  refine BitVec.eq_of_toNat_eq ?_
  have bound := address.isLt
  rw [groups_eq, ofGroups]
  simp only [List.foldl_cons, List.foldl_nil, BitVec.toNat_ofNat]
  omega

theorem mem_groups_lt {address : BitVec 128} {group : Nat}
    (member : group ∈ IP.parts 8 16 address.toNat) : group < 2 ^ 16 := by
  obtain ⟨i, _, rfl⟩ := List.mem_map.mp member
  exact Nat.mod_lt _ (by decide)

theorem toList_joined :
    (":".intercalate (groups.map IP.hexGroup)).toList = joined (groups.map (Nat.toDigits 16)) := by
  rw [String.toList_intercalate, List.map_map]
  refine congrArg joined (List.map_congr_left fun group _ => ?_)
  rw [Function.comp_apply, IP.hexGroup, String.toList_ofList]

theorem isGroup_of_mem_map (small : ∀ group ∈ groups, group < 2 ^ 16) :
    ∀ part ∈ groups.map (Nat.toDigits 16), isGroup part = true := by
  intro part member
  obtain ⟨group, inGroups, rfl⟩ := List.mem_map.mp member
  exact isGroup_toDigits group (small group inGroups)

/-- The printed form of an IPv6 address is read back. -/
theorem parseIPv6_text :
    parseIPv6 (IP.v6 address).text.toList = some address := by
  have small : ∀ group ∈ IP.parts 8 16 address.toNat, group < 2 ^ 16 :=
    fun _ member => mem_groups_lt member
  have run := zeroRun_longest (IP.parts 8 16 address.toNat)
  have value := ofGroups_parts address
  have length : (IP.parts 8 16 address.toNat).length = 8 := rfl
  simp only [IP.text]
  generalize IP.parts 8 16 address.toNat = groups at small run value length ⊢
  generalize IP.longestZeroRun groups = zeros at run ⊢
  split
  · have whole := cutEllipsis_joined _ (isGroup_of_mem_map groups small) []
    rw [List.append_nil] at whole
    rw [toList_joined, parseIPv6, whole, cutEllipsis, Option.map_none]
    simp only
    rw [fields_joined _ (isGroup_of_mem_map groups small), parseGroups_map groups small,
      Option.bind_some, if_pos length, value]
  · next long =>
    have smallFront : ∀ group ∈ groups.take zeros.1, group < 2 ^ 16 :=
      fun group member => small group (List.mem_of_mem_take member)
    have smallBack : ∀ group ∈ groups.drop (zeros.1 + zeros.2), group < 2 ^ 16 :=
      fun group member => small group (List.mem_of_mem_drop member)
    rw [String.toList_append, String.toList_append, toList_joined, toList_joined,
      List.append_assoc, parseIPv6, cutEllipsis_joined _ (isGroup_of_mem_map _ smallFront)]
    have ellipsis : cutEllipsis ("::".toList ++
        joined ((groups.drop (zeros.1 + zeros.2)).map (Nat.toDigits 16))) =
          some ([], joined ((groups.drop (zeros.1 + zeros.2)).map (Nat.toDigits 16))) := rfl
    rw [ellipsis, Option.map_some, List.append_nil]
    simp only
    rw [fields_joined _ (isGroup_of_mem_map _ smallFront), plainGroups_map _ smallFront,
      Option.bind_some, fields_joined _ (isGroup_of_mem_map _ smallBack),
      parseGroups_map _ smallBack, Option.bind_some]
    have lengths := congrArg List.length run
    rw [List.length_append, List.length_append, List.length_replicate, length] at lengths
    have missing : 8 - (groups.take zeros.1).length - (groups.drop (zeros.1 + zeros.2)).length =
        zeros.2 := by omega
    rw [if_pos (by omega), missing, ← run, value]

/-- The characters of printed addresses. -/
def isPrintedChar (c : Char) : Bool := "0123456789abcdef:".toList.contains c

theorem isPrintedChar_digitChar : ∀ digit < 16, isPrintedChar digit.digitChar = true := by
  decide

theorem isPrintedChar_of_mem_joined :
    ∀ c ∈ joined (groups.map (Nat.toDigits 16)), isPrintedChar c = true := by
  refine of_intercalate (by decide) _ fun part listed => ?_
  obtain ⟨group, _, rfl⟩ := List.mem_map.mp listed
  exact of_mem_toDigits isPrintedChar_digitChar group

/-- An IPv6 address is printed with lower-case digits and colons. -/
theorem isPrintedChar_of_mem_text :
    ∀ c ∈ (IP.v6 address).text.toList, isPrintedChar c = true := by
  intro c member
  simp only [IP.text] at member
  split at member
  · rw [toList_joined] at member
    exact isPrintedChar_of_mem_joined _ c member
  · rw [String.toList_append, String.toList_append, toList_joined, toList_joined] at member
    rcases List.mem_append.mp member with member | member
    · rcases List.mem_append.mp member with member | member
      · exact isPrintedChar_of_mem_joined _ c member
      · have ellipsis : "::".toList.all isPrintedChar = true := by decide +kernel
        exact List.all_eq_true.mp ellipsis c member
    · exact isPrintedChar_of_mem_joined _ c member

/-! ### The first group of a text -/

theorem digitValue_lt {c : Char} (digit : isHexDigit c = true) : digitValue c < 16 := by
  simp only [isHexDigit, Bool.or_eq_true, Bool.and_eq_true, decide_eq_true_eq, Char.le_def,
    Char.isDigit, UInt32.le_iff_toNat_le, ge_iff_le] at digit
  simp only [digitValue, Char.isDigit, Bool.and_eq_true, decide_eq_true_eq, Char.le_def,
    UInt32.le_iff_toNat_le, ge_iff_le, Char.toNat]
  have nine : ('9' : Char).val.toNat = 57 := rfl
  have zero : ('0' : Char).val.toNat = 48 := rfl
  have lowerA : ('a' : Char).val.toNat = 97 := rfl
  have lowerF : ('f' : Char).val.toNat = 102 := rfl
  have upperA : ('A' : Char).val.toNat = 65 := rfl
  have upperF : ('F' : Char).val.toNat = 70 := rfl
  rw [zero, nine, lowerA, lowerF, upperA, upperF] at digit
  rw [zero, nine, lowerA]
  split <;> [skip; split] <;> omega

theorem number_lt (digits : part.all isHexDigit = true) :
    number 16 part < 16 ^ part.length := by
  induction part using List.reverseRecOn with
  | nil => exact Nat.one_pos
  | append_singleton part last inductionHypothesis =>
    rw [List.all_append, Bool.and_eq_true, List.all_cons, Bool.and_eq_true] at digits
    have front := inductionHypothesis digits.1
    have back := digitValue_lt digits.2.1
    rw [number_append, List.length_append, List.length_singleton, pow_succ]
    omega

theorem number_lt_of_isGroup (group : isGroup part = true) :
    number 16 part < 2 ^ 16 := by
  simp only [isGroup, Bool.and_eq_true, decide_eq_true_eq] at group
  calc number 16 part < 16 ^ part.length := number_lt group.2
    _ ≤ 16 ^ 4 := Nat.pow_le_pow_right (by decide) group.1.2

theorem lt_of_plainGroups {parts : List (List Char)} {groups : List Nat}
    (parsed : plainGroups parts = some groups) : ∀ group ∈ groups, group < 2 ^ 16 := by
  rw [plainGroups] at parsed
  split at parsed
  · next plain =>
    obtain rfl := Option.some.inj parsed
    intro group member
    obtain ⟨part, listed, rfl⟩ := List.mem_map.mp member
    exact number_lt_of_isGroup (List.all_eq_true.mp plain part listed)
  · cases parsed

theorem lt_of_parseGroups : ∀ {parts : List (List Char)} {groups : List Nat},
    parseGroups parts = some groups → ∀ group ∈ groups, group < 2 ^ 16
  | [], _, parsed, group, member => by
    obtain rfl := Option.some.inj parsed
    exact absurd member List.not_mem_nil
  | [last], _, parsed, group, member => by
    by_cases isGroup : isGroup last = true
    · rw [parseGroups, if_pos isGroup] at parsed
      obtain rfl := Option.some.inj parsed
      rw [List.mem_singleton.mp member]
      exact number_lt_of_isGroup isGroup
    · rw [parseGroups, if_neg isGroup] at parsed
      obtain ⟨address, _, rfl⟩ := Option.map_eq_some_iff.mp parsed
      have bound := address.isLt
      simp only [List.mem_cons, List.not_mem_nil, or_false] at member
      rcases member with rfl | rfl <;> omega
  | first :: next :: rest, _, parsed, group, member => by
    rw [parseGroups] at parsed
    · split at parsed
      · next isGroup =>
        obtain ⟨later, read, rfl⟩ := Option.map_eq_some_iff.mp parsed
        rcases List.mem_cons.mp member with rfl | member
        · exact number_lt_of_isGroup isGroup
        · exact lt_of_parseGroups read group member
      · cases parsed
    · exact fun empty => List.cons_ne_nil _ _ empty

theorem foldl_groups (start : Nat) :
    groups.foldl (fun value group => 2 ^ 16 * value + group) start =
      start * 2 ^ (16 * groups.length) +
        groups.foldl (fun value group => 2 ^ 16 * value + group) 0 := by
  induction groups generalizing start with
  | nil => simp
  | cons group rest inductionHypothesis =>
    rw [List.foldl_cons, List.foldl_cons, inductionHypothesis,
      inductionHypothesis (2 ^ 16 * 0 + group), List.length_cons, Nat.mul_succ, Nat.pow_add,
      Nat.mul_zero, Nat.zero_add, Nat.add_mul, Nat.add_assoc, Nat.mul_comm (2 ^ 16) start,
      Nat.mul_assoc, Nat.mul_comm (2 ^ 16)]

theorem foldl_groups_lt (small : ∀ group ∈ groups, group < 2 ^ 16) :
    groups.foldl (fun value group => 2 ^ 16 * value + group) 0 < 2 ^ (16 * groups.length) := by
  induction groups with
  | nil => exact Nat.one_pos
  | cons group rest inductionHypothesis =>
    have later := inductionHypothesis fun other member =>
      small other (List.mem_cons_of_mem _ member)
    have first := small group List.mem_cons_self
    rw [List.foldl_cons, foldl_groups, List.length_cons, Nat.mul_succ, Nat.pow_add]
    calc (2 ^ 16 * 0 + group) * 2 ^ (16 * rest.length) +
          rest.foldl (fun value group => 2 ^ 16 * value + group) 0
        < (group + 1) * 2 ^ (16 * rest.length) := by
          rw [Nat.mul_zero, Nat.zero_add, Nat.add_mul, Nat.one_mul]
          exact Nat.add_lt_add_left later _
      _ ≤ 2 ^ (16 * rest.length) * 2 ^ 16 := by
          rw [Nat.mul_comm]
          exact Nat.mul_le_mul_left _ first

/-- The first of eight groups is the high end of the address. -/
theorem ofGroups_div {first : Nat} {rest : List Nat} (length : rest.length = 7)
    (small : ∀ group ∈ first :: rest, group < 2 ^ 16) :
    (ofGroups (first :: rest)).toNat / 2 ^ 112 = first := by
  have later := foldl_groups_lt rest fun group member => small group (List.mem_cons_of_mem _ member)
  have bound := small first List.mem_cons_self
  rw [ofGroups, List.foldl_cons, foldl_groups, length, BitVec.toNat_ofNat]
  rw [length] at later
  omega

/-- A text begins with its first field, which is all of it or ends before a colon. -/
theorem first_of_fields {text : List Char} {rest : List (List Char)}
    (split : fields text = part :: rest) :
    text = part ∧ rest = [] ∨ ∃ more, text = part ++ ':' :: more := by
  rw [fields] at split
  split at split
  · cases split
  · have whole : [':'].intercalate (text.splitOn ':') = text := List.intercalate_splitOn ':'
    rw [split] at whole
    cases rest with
    | nil => exact Or.inl ⟨by rw [← whole, List.intercalate_singleton], rfl⟩
    | cons next rest =>
      refine Or.inr ⟨[':'].intercalate (next :: rest), ?_⟩
      rw [← whole, List.intercalate_cons_cons, List.append_assoc]
      rfl

/-- An accepted text begins with its first group and a colon, or with the ellipsis. -/
theorem first_of_parseIPv6 {text : List Char} {address : BitVec 128}
    (parsed : parseIPv6 text = some address) :
    (∃ part rest, text = part ++ ':' :: rest ∧ isGroup part = true ∧
      number 16 part = address.toNat / 2 ^ 112) ∨
    text.head? = some ':' ∧ address.toNat / 2 ^ 112 = 0 := by
  rw [parseIPv6] at parsed
  split at parsed
  · obtain ⟨groups, read, parsed⟩ := Option.bind_eq_some_iff.mp parsed
    split at parsed
    · next length =>
      obtain rfl := Option.some.inj parsed
      have small := lt_of_parseGroups read
      left
      cases parts : fields text with
      | nil =>
        rw [parts] at read
        obtain rfl := Option.some.inj read
        exact absurd length (by decide)
      | cons part rest =>
        rw [parts] at read
        cases rest with
        | nil =>
          rw [parseGroups] at read
          split at read
          · obtain rfl := Option.some.inj read
            exact absurd length (show (1 : Nat) ≠ 8 by decide)
          · obtain ⟨dotted, _, rfl⟩ := Option.map_eq_some_iff.mp read
            exact absurd length (show (2 : Nat) ≠ 8 by decide)
        | cons next rest =>
          rw [parseGroups] at read
          · split at read
            · next isGroup =>
              obtain ⟨later, _, rfl⟩ := Option.map_eq_some_iff.mp read
              rcases first_of_fields parts with ⟨_, alone⟩ | ⟨more, rfl⟩
              · exact absurd alone (List.cons_ne_nil _ _)
              · exact ⟨part, more, rfl, isGroup,
                  (ofGroups_div (Nat.succ.inj length) small).symm⟩
            · cases read
          · exact fun empty => List.cons_ne_nil _ _ empty
    · cases parsed
  · next before after found =>
    obtain ⟨front, readFront, parsed⟩ := Option.bind_eq_some_iff.mp parsed
    obtain ⟨back, readBack, parsed⟩ := Option.bind_eq_some_iff.mp parsed
    split at parsed
    · next short =>
      obtain rfl := Option.some.inj parsed
      have smallFront := lt_of_plainGroups readFront
      have smallBack := lt_of_parseGroups readBack
      have text := append_of_cutEllipsis found
      cases parts : fields before with
      | nil =>
        right
        have empty : before = [] := by
          rw [fields] at parts
          split at parts
          · assumption
          · exact absurd parts (List.splitOn_ne_nil _ _)
        rw [parts] at readFront
        obtain rfl : [] = front := Option.some.inj readFront
        refine ⟨by rw [text, empty]; rfl, ?_⟩
        obtain ⟨zeros, count⟩ : ∃ zeros, 8 - ([] : List Nat).length - back.length = zeros + 1 :=
          ⟨7 - back.length, by rw [List.length_nil] at short ⊢; omega⟩
        rw [count, List.nil_append, List.replicate_succ, List.cons_append]
        refine ofGroups_div ?_ ?_
        · rw [List.length_append, List.length_replicate]
          rw [List.length_nil] at count short
          omega
        · intro group member
          simp only [List.mem_cons, List.mem_append, List.mem_replicate] at member
          rcases member with rfl | ⟨_, rfl⟩ | member
          · decide
          · decide
          · exact smallBack group member
      | cons part rest =>
        left
        rw [parts, plainGroups] at readFront
        split at readFront
        · next plain =>
          obtain rfl := Option.some.inj readFront
          have isGroup := List.all_eq_true.mp plain part List.mem_cons_self
          have value : (ofGroups ((part :: rest).map (number 16) ++ List.replicate
              (8 - ((part :: rest).map (number 16)).length - back.length) 0 ++ back)).toNat /
                2 ^ 112 = number 16 part := by
            rw [List.map_cons, List.cons_append, List.cons_append]
            refine ofGroups_div ?_ ?_
            · simp only [List.length_append, List.length_replicate, List.length_map,
                List.length_cons] at short ⊢
              omega
            · intro group member
              simp only [List.mem_cons, List.mem_append, List.mem_replicate] at member
              rcases member with rfl | (member | ⟨_, rfl⟩) | member
              · exact smallFront _ List.mem_cons_self
              · exact smallFront group (List.mem_cons_of_mem _ member)
              · decide
              · exact smallBack group member
          rcases first_of_fields parts with ⟨rfl, _⟩ | ⟨more, rfl⟩
          · exact ⟨before, ':' :: after, text, isGroup, value.symm⟩
          · exact ⟨part, more ++ ':' :: ':' :: after, by rw [text, List.append_assoc]; rfl, isGroup,
              value.symm⟩
        · cases readFront
    · cases parsed

theorem colon_mem_of_parseIPv6 {text : List Char} {address : BitVec 128}
    (parsed : parseIPv6 text = some address) : ':' ∈ text := by
  rcases first_of_parseIPv6 parsed with ⟨part, rest, rfl, _⟩ | ⟨colon, _⟩
  · exact List.mem_append_right part List.mem_cons_self
  · exact List.mem_of_head? colon

end SovaDesk.Security
