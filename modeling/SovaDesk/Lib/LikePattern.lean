/-
This file is a small library of wildcard patterns, as the LIKE operator of a database
reads them.

One mark of a pattern stands for any text, another for any single character, and a
character after the escape mark, where there is one, stands for itself; a pattern that
ends in the escape mark matches nothing. What fits a pattern is defined inductively over
its tokens, up to a fold of the characters, and decided by a structural recursion. The
lemmas say what fits a concatenation, a text without wildcards, and a text between two
wildcards.
-/

import Mathlib.Data.List.Basic
import Mathlib.Data.List.Infix

namespace LikePattern

variable {Character Folded : Type}

/-! ### Tokens -/

/-- A token of a pattern: a character that stands for itself, any one character, or any text. -/
inductive Token (Character : Type) where
  | literal (character : Character)
  | one
  | any
  deriving DecidableEq

/-- The characters with a meaning of their own in a pattern. -/
structure Marks (Character : Type) where
  any : Character
  one : Character
  escape : Option Character

section Reading

variable [DecidableEq Character] (marks : Marks Character)

/-- The token of a character that no escape mark precedes. -/
def token (character : Character) : Token Character :=
  if character = marks.any then .any
  else if character = marks.one then .one
  else .literal character

/-- The tokens of a pattern; none, if it ends in an escape mark. -/
def tokens : List Character → Option (List (Token Character))
  | [] => some []
  | [character] => if some character = marks.escape then none else some [token marks character]
  | character :: next :: rest =>
    if some character = marks.escape then (tokens rest).map (.literal next :: ·)
    else (tokens (next :: rest)).map (token marks character :: ·)

variable {marks} {character : Character}

theorem tokens_cons (plain : some character ≠ marks.escape) :
    ∀ rest : List Character,
      tokens marks (character :: rest) = (tokens marks rest).map (token marks character :: ·)
  | [] => if_neg plain
  | _ :: _ => if_neg plain

theorem tokens_escaped (escape : some character = marks.escape)
    (next : Character) (rest : List Character) :
    tokens marks (character :: next :: rest) = (tokens marks rest).map (.literal next :: ·) :=
  if_pos escape

theorem tokens_of_no_escape (none_ : marks.escape = none) :
    ∀ pattern : List Character, tokens marks pattern = some (pattern.map (token marks))
  | [] => rfl
  | character :: rest => by
    have plain : some character ≠ marks.escape := by
      rw [none_]
      exact Option.some_ne_none character
    rw [tokens_cons plain, tokens_of_no_escape none_ rest]
    rfl

/-- A character without a meaning of its own stands for itself. -/
theorem token_of_ne (notAny : character ≠ marks.any)
    (notOne : character ≠ marks.one) : token marks character = .literal character := by
  rw [token, if_neg notAny, if_neg notOne]

end Reading

/-! ### What fits -/

section Fitting

variable (fold : Character → Folded)

/-- The texts that fit the tokens of a pattern, up to the fold of their characters. -/
inductive Fits : List (Token Character) → List Character → Prop
  | nil : Fits [] []
  | literal {character held : Character} {rest : List (Token Character)} {text : List Character} :
    fold held = fold character → Fits rest text → Fits (.literal character :: rest) (held :: text)
  | one (held : Character) {rest : List (Token Character)} {text : List Character} :
    Fits rest text → Fits (.one :: rest) (held :: text)
  | any (skipped : List Character) {rest : List (Token Character)} {text : List Character} :
    Fits rest text → Fits (.any :: rest) (skipped ++ text)

/-- Whether a text fits the tokens of a pattern. -/
def fits [DecidableEq Folded] : List (Token Character) → List Character → Bool
  | [], text => text.isEmpty
  | .literal _ :: _, [] => false
  | .literal character :: rest, held :: text => fold held = fold character && fits rest text
  | .one :: _, [] => false
  | .one :: rest, _ :: text => fits rest text
  | .any :: rest, text => text.tails.any (fits rest)

theorem fits_iff [DecidableEq Folded] : ∀ (pattern : List (Token Character))
    (text : List Character), fits fold pattern text = true ↔ Fits fold pattern text
  | [], [] => ⟨fun _ => .nil, fun _ => rfl⟩
  | [], _ :: _ => ⟨fun holds => absurd holds Bool.false_ne_true, fun holds => by cases holds⟩
  | .literal _ :: _, [] | .one :: _, [] =>
    ⟨fun holds => absurd holds Bool.false_ne_true, fun holds => by cases holds⟩
  | .literal character :: rest, held :: text => by
    rw [fits, Bool.and_eq_true, decide_eq_true_iff, fits_iff rest text]
    constructor
    · rintro ⟨same, others⟩
      exact .literal same others
    · intro holds
      cases holds with
      | literal same others => exact ⟨same, others⟩
  | .one :: rest, held :: text => by
    rw [fits, fits_iff rest text]
    constructor
    · exact .one held
    · intro holds
      cases holds with
      | one _ others => exact others
  | .any :: rest, text => by
    rw [fits, List.any_eq_true]
    constructor
    · rintro ⟨suffix, member, holds⟩
      obtain ⟨skipped, rfl⟩ := (List.mem_tails suffix text).mp member
      exact .any skipped ((fits_iff rest suffix).mp holds)
    · intro holds
      cases holds with
      | any skipped others =>
        exact ⟨_, (List.mem_tails _ _).mpr (List.suffix_append skipped _),
          (fits_iff rest _).mpr others⟩

variable {fold}

/-- A text fits a concatenation if it is a text that fits the first part and one that fits the
second. -/
theorem fits_append {text : List Character} : ∀ {first second : List (Token Character)},
    Fits fold (first ++ second) text ↔
      ∃ left right, text = left ++ right ∧ Fits fold first left ∧ Fits fold second right
  | [], second => by
    constructor
    · intro holds
      exact ⟨[], text, rfl, .nil, holds⟩
    · rintro ⟨left, right, rfl, holds, others⟩
      cases holds
      exact others
  | _ :: first, second => by
    constructor
    · intro holds
      cases holds with
      | literal same others =>
        obtain ⟨left, right, rfl, begins, ends⟩ := fits_append.mp others
        exact ⟨_ :: left, right, rfl, .literal same begins, ends⟩
      | one held others =>
        obtain ⟨left, right, rfl, begins, ends⟩ := fits_append.mp others
        exact ⟨held :: left, right, rfl, .one held begins, ends⟩
      | any skipped others =>
        obtain ⟨left, right, rfl, begins, ends⟩ := fits_append.mp others
        exact ⟨skipped ++ left, right, (List.append_assoc ..).symm, .any skipped begins, ends⟩
    · rintro ⟨left, right, rfl, holds, ends⟩
      cases holds with
      | literal same begins => exact .literal same (fits_append.mpr ⟨_, right, rfl, begins, ends⟩)
      | one held begins => exact .one held (fits_append.mpr ⟨_, right, rfl, begins, ends⟩)
      | any skipped begins =>
        rw [List.append_assoc]
        exact .any skipped (fits_append.mpr ⟨_, right, rfl, begins, ends⟩)

/-- The mark for any text at the end of a pattern leaves what follows open. -/
theorem fits_any (text : List Character) : Fits fold [.any] text := by
  have whole : Fits fold [.any] (text ++ []) := .any text .nil
  rwa [List.append_nil] at whole

/-- A pattern before the mark for any text says how the text starts. -/
theorem fits_append_any {pattern : List (Token Character)} {text : List Character} :
    Fits fold (pattern ++ [.any]) text ↔
      ∃ start rest, text = start ++ rest ∧ Fits fold pattern start := by
  rw [fits_append]
  constructor
  · rintro ⟨start, rest, rfl, holds, -⟩
    exact ⟨start, rest, rfl, holds⟩
  · rintro ⟨start, rest, rfl, holds⟩
    exact ⟨start, rest, rfl, holds, fits_any rest⟩

/-- A text without wildcards is fit by the texts with the same fold. -/
theorem fits_literals : ∀ {characters text : List Character},
    Fits fold (characters.map .literal) text ↔ text.map fold = characters.map fold
  | [], text => by
    constructor
    · intro holds
      cases holds
      rfl
    · intro same
      obtain rfl := List.map_eq_nil_iff.mp same
      exact .nil
  | character :: characters, [] => by
    constructor
    · intro holds
      cases holds
    · intro same
      cases same
  | character :: characters, held :: text => by
    rw [List.map_cons, List.map_cons, List.map_cons, List.cons.injEq, ← fits_literals]
    constructor
    · intro holds
      cases holds with
      | literal same others => exact ⟨same, others⟩
    · rintro ⟨same, others⟩
      exact .literal same others

/-- A text without wildcards between two marks for any text is fit by the texts that contain one
with the same fold. -/
theorem fits_contains {characters text : List Character} :
    Fits fold (.any :: characters.map .literal ++ [.any]) text ↔
      ∃ before part after, text = before ++ part ++ after ∧
        part.map fold = characters.map fold := by
  constructor
  · intro holds
    cases holds with
    | any before others =>
      obtain ⟨part, after, rfl, same⟩ := fits_append_any.mp others
      exact ⟨before, part, after, (List.append_assoc ..).symm, fits_literals.mp same⟩
  · rintro ⟨before, part, after, rfl, same⟩
    rw [List.append_assoc]
    exact .any before (fits_append_any.mpr ⟨part, after, rfl, fits_literals.mpr same⟩)

/-- Every text fits itself read as a pattern without an escape mark. -/
theorem fits_self [DecidableEq Character] (marks : Marks Character) :
    ∀ text : List Character, Fits fold (text.map (token marks)) text
  | [] => .nil
  | character :: text => by
    have others := fits_self marks text
    rw [List.map_cons, token]
    split
    · exact .any [character] others
    · split
      · exact .one character others
      · exact .literal rfl others

end Fitting

/-! ### The operator -/

/-- Whether a text is like a pattern. -/
def like [DecidableEq Character] [DecidableEq Folded] (marks : Marks Character)
    (fold : Character → Folded) (pattern text : List Character) : Bool :=
  match tokens marks pattern with
  | none => false
  | some pattern => fits fold pattern text

theorem like_iff [DecidableEq Character] [DecidableEq Folded] {marks : Marks Character}
    {fold : Character → Folded} {pattern text : List Character}
    {read : List (Token Character)} (reads : tokens marks pattern = some read) :
    like marks fold pattern text = true ↔ Fits fold read text := by
  rw [like, reads, fits_iff]

end LikePattern
