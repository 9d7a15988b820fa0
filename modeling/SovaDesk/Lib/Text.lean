/-
This file is a small library of text in lines and fields: lists that are trimmed at both
ends, cut at a separator, or written and read line by line.

Trimming takes away the elements at both ends that satisfy a predicate, and gives back
exactly the lists that neither begin nor end with one. A text of lines is read back as the
lines that were written when no line holds the newline itself; a reader of lines also has a
limit on the bytes of one, stops at the first line beyond it and drops a carriage return at
the end of a line.
-/

import Mathlib.Algebra.Ring.Nat
import Mathlib.Data.List.DropRight
import Mathlib.Data.List.TakeWhile

namespace Text

/-! ### Trimming -/

section trim

variable {α : Type} {p : α → Bool} {l : List α}

/-- A list without the elements at its two ends that satisfy a predicate. -/
def trim (p : α → Bool) (l : List α) : List α := (l.dropWhile p).rdropWhile p

/-- The first element, if there is one, does not satisfy the predicate. -/
def Starts (p : α → Bool) (l : List α) : Prop := ∀ a ∈ l.head?, p a = false

/-- The last element, if there is one, does not satisfy the predicate. -/
def Ends (p : α → Bool) (l : List α) : Prop := ∀ a ∈ l.getLast?, p a = false

instance (p : α → Bool) (l : List α) : Decidable (Starts p l) :=
  match l with
  | [] => .isTrue fun _ member => (Option.not_mem_none _ member).elim
  | a :: _ => decidable_of_iff (p a = false) (by simp [Starts])

instance (p : α → Bool) (l : List α) : Decidable (Ends p l) :=
  decidable_of_iff (Starts p l.reverse) (by simp [Starts, Ends])

theorem dropWhile_eq_self_iff_starts : l.dropWhile p = l ↔ Starts p l := by
  cases l with
  | nil => simp [Starts]
  | cons a rest => simp [Starts, List.dropWhile_eq_self_iff]

theorem rdropWhile_eq_self_iff_ends : l.rdropWhile p = l ↔ Ends p l := by
  rw [List.rdropWhile, List.reverse_eq_iff, dropWhile_eq_self_iff_starts]
  simp [Starts, Ends]

theorem trim_eq_self (starts : Starts p l) (ends : Ends p l) : trim p l = l := by
  rw [trim, dropWhile_eq_self_iff_starts.mpr starts, rdropWhile_eq_self_iff_ends.mpr ends]

theorem Starts.of_initial {before : List α} (starts : Starts p l) (initial : before <+: l) :
    Starts p before := by
  cases before with
  | nil => simp [Starts]
  | cons a rest =>
    obtain ⟨after, rfl⟩ := initial
    exact starts

theorem starts_trim (p : α → Bool) (l : List α) : Starts p (trim p l) :=
  (dropWhile_eq_self_iff_starts.mp (List.dropWhile_idempotent p l)).of_initial
    (List.rdropWhile_prefix p _)

theorem ends_trim (p : α → Bool) (l : List α) : Ends p (trim p l) :=
  rdropWhile_eq_self_iff_ends.mp (List.rdropWhile_idempotent p _)

theorem trim_trim (p : α → Bool) (l : List α) : trim p (trim p l) = trim p l :=
  trim_eq_self (starts_trim p l) (ends_trim p l)

theorem trim_sublist (p : α → Bool) (l : List α) : (trim p l).Sublist l :=
  (List.rdropWhile_prefix p _).sublist.trans (List.dropWhile_sublist p)

/-- A list that begins outside the predicate is trimmed at its end only. -/
theorem trim_prefix (starts : Starts p l) : trim p l <+: l := by
  rw [trim, dropWhile_eq_self_iff_starts.mpr starts]
  exact List.rdropWhile_prefix p l

theorem Ends.append {before after : List α} (ends : Ends p after)
    (empty : after = [] → Ends p before) : Ends p (before ++ after) := by
  by_cases none : after = []
  · rw [none, List.append_nil]
    exact empty none
  · intro a last
    rw [List.getLast?_append_of_ne_nil before none] at last
    exact ends a last

theorem Ends.of_append {before after : List α} (ends : Ends p (before ++ after)) :
    Ends p after := by
  by_cases none : after = []
  · simp [Ends, none]
  · rwa [Ends, List.getLast?_append_of_ne_nil before none] at ends

end trim

/-! ### Cutting -/

section cut

variable {α : Type} [DecidableEq α] {separator : α}

/-- What stands before and after the first separator, if there is one. -/
def cut (separator : α) (l : List α) : Option (List α × List α) :=
  match l.dropWhile (· != separator) with
  | [] => none
  | _ :: after => some (l.takeWhile (· != separator), after)

theorem cut_append {before : List α} (fresh : separator ∉ before) (after : List α) :
    cut separator (before ++ separator :: after) = some (before, after) := by
  have passes : ∀ a ∈ before, (a != separator) = true := fun a member =>
    bne_iff_ne.mpr fun same => fresh (same ▸ member)
  simp [cut, List.dropWhile_append_of_pos passes, List.takeWhile_append_of_pos passes]

theorem cut_of_notMem {l : List α} (fresh : separator ∉ l) : cut separator l = none := by
  have passes : l.dropWhile (· != separator) = [] :=
    List.dropWhile_eq_nil_iff.mpr fun a member => bne_iff_ne.mpr fun same => fresh (same ▸ member)
  rw [cut, passes]

theorem append_of_cut {l before after : List α} (found : cut separator l = some (before, after)) :
    l = before ++ separator :: after ∧ separator ∉ before := by
  rw [cut] at found
  split at found
  · cases found
  · next first rest dropped =>
    obtain ⟨rfl, rfl⟩ := Prod.mk.inj (Option.some.inj found)
    have stops := List.head_dropWhile_not (· != separator) (l := l) (by simp [dropped])
    have first_eq : first = separator := by simpa [dropped] using stops
    constructor
    · rw [← congrArg (· :: rest) first_eq, ← dropped, List.takeWhile_append_dropWhile]
    · intro member
      simpa using List.mem_takeWhile_imp member

theorem notMem_of_cut {l : List α} (uncut : cut separator l = none) : separator ∉ l := by
  intro member
  obtain ⟨before, after, rfl, fresh⟩ := List.eq_append_cons_of_mem member
  rw [cut_append fresh] at uncut
  cases uncut

theorem notMem_of_mem_splitOn {l part : List α} (member : part ∈ l.splitOn separator) :
    separator ∉ part := by
  induction l generalizing part with
  | nil =>
    rw [List.splitOn_nil, List.mem_singleton] at member
    exact member ▸ List.not_mem_nil
  | cons a l inductionHypothesis =>
    rw [List.splitOn_cons_eq_if_modifyHead] at member
    split at member
    · rcases List.mem_cons.mp member with rfl | member
      · exact List.not_mem_nil
      · exact inductionHypothesis member
    · next other =>
      obtain ⟨first, others, parts⟩ := List.exists_cons_of_ne_nil (List.splitOn_ne_nil separator l)
      rw [parts] at inductionHypothesis member
      rcases List.mem_cons.mp member with rfl | member
      · rw [List.mem_cons, not_or]
        exact ⟨fun same => other (beq_iff_eq.mpr same.symm),
          inductionHypothesis List.mem_cons_self⟩
      · exact inductionHypothesis (List.mem_cons_of_mem _ member)

end cut

/-! ### Lines -/

/-- Each line with a newline after it. -/
def joinLines (lines : List (List Char)) : List Char := lines.flatMap (· ++ ['\n'])

/-- The lines of a text, the last one perhaps without its newline. -/
def splitLines : List Char → List (List Char)
  | [] => []
  | c :: rest =>
    if c = '\n' then [] :: splitLines rest
    else
      match splitLines rest with
      | [] => [[c]]
      | line :: lines => (c :: line) :: lines

theorem splitLines_append : ∀ {line : List Char}, '\n' ∉ line → ∀ rest : List Char,
    splitLines (line ++ '\n' :: rest) = line :: splitLines rest
  | [], _, rest => by simp [splitLines]
  | c :: line, fresh, rest => by
    have other : c ≠ '\n' := fun same => fresh (same ▸ List.mem_cons_self)
    rw [List.cons_append, splitLines, if_neg other,
      splitLines_append (fun member => fresh (List.mem_cons_of_mem c member)) rest]

/-- Lines without newlines of their own are read back as they were written. -/
theorem splitLines_joinLines : ∀ {lines : List (List Char)}, (∀ line ∈ lines, '\n' ∉ line) →
    splitLines (joinLines lines) = lines
  | [], _ => rfl
  | line :: lines, fresh => by
    have here := fresh line List.mem_cons_self
    have later := splitLines_joinLines fun other member =>
      fresh other (List.mem_cons_of_mem line member)
    rw [joinLines, List.flatMap_cons, List.append_assoc, List.singleton_append,
      splitLines_append here, ← joinLines, later]

theorem newline_notMem_of_mem_splitLines : ∀ {text line : List Char},
    line ∈ splitLines text → '\n' ∉ line
  | [], _, listed => by simp [splitLines] at listed
  | c :: rest, line, listed => by
    rw [splitLines] at listed
    split at listed
    · rcases List.mem_cons.mp listed with rfl | listed
      · exact List.not_mem_nil
      · exact newline_notMem_of_mem_splitLines listed
    · next other =>
      split at listed
      · rw [List.mem_singleton.mp listed, List.mem_singleton]
        exact fun same => other same.symm
      · next first lines split_eq =>
        rcases List.mem_cons.mp listed with rfl | listed
        · have fresh : '\n' ∉ first :=
            newline_notMem_of_mem_splitLines (by rw [split_eq]; exact List.mem_cons_self)
          exact fun member => (List.mem_cons.mp member).elim (fun same => other same.symm) fresh
        · exact newline_notMem_of_mem_splitLines
            (by rw [split_eq]; exact List.mem_cons_of_mem first listed)

/-! ### Reading lines up to a limit -/

/-- The bytes of a text in UTF-8. -/
def byteLength (text : List Char) : Nat := (text.map Char.utf8Size).sum

theorem byteLength_le_of_sublist {short long : List Char} (sublist : short.Sublist long) :
    byteLength short ≤ byteLength long := by
  induction sublist with
  | slnil => exact Nat.le_refl _
  | cons c _ inductionHypothesis => simp only [byteLength, List.map_cons, List.sum_cons] at *; omega
  | cons_cons c _ inductionHypothesis =>
    simp only [byteLength, List.map_cons, List.sum_cons] at *
    omega

def dropCarriageReturn (line : List Char) : List Char :=
  if line.getLast? = some '\r' then line.dropLast else line

/-- The lines a scanner gives: up to the first that has as many bytes as the limit, each without a
carriage return at its end. -/
def scanLines (limit : Nat) (text : List Char) : List (List Char) :=
  ((splitLines text).takeWhile fun line => byteLength line < limit).map dropCarriageReturn

theorem dropCarriageReturn_sublist (line : List Char) : (dropCarriageReturn line).Sublist line := by
  rw [dropCarriageReturn]
  split
  · exact List.dropLast_sublist line
  · exact List.Sublist.refl line

/-- What a scanner gives holds no newline and stays below the limit. -/
theorem of_mem_scanLines {limit : Nat} {text line : List Char}
    (given : line ∈ scanLines limit text) :
    '\n' ∉ line ∧ byteLength line < limit := by
  obtain ⟨whole, taken, rfl⟩ := List.mem_map.mp given
  have sublist := dropCarriageReturn_sublist whole
  have fresh := newline_notMem_of_mem_splitLines ((List.takeWhile_sublist _).subset taken)
  have short : byteLength whole < limit := by simpa using List.mem_takeWhile_imp taken
  exact ⟨fun member => fresh (sublist.subset member),
    (byteLength_le_of_sublist sublist).trans_lt short⟩

/-- A scanner gives the written lines back when each of them is on one line, below the limit and
without a carriage return at its end. -/
theorem scanLines_joinLines {limit : Nat} {lines : List (List Char)}
    (clean : ∀ line ∈ lines, '\n' ∉ line ∧ byteLength line < limit ∧ line.getLast? ≠ some '\r') :
    scanLines limit (joinLines lines) = lines := by
  rw [scanLines, splitLines_joinLines fun line member => (clean line member).1,
    List.takeWhile_eq_self_iff.mpr fun line member => decide_eq_true (clean line member).2.1]
  exact (List.map_congr_left fun line member => if_neg (clean line member).2.2).trans
    (List.map_id lines)

end Text
