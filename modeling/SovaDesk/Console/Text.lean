/-
This file models what the console's code relies on of its language's texts: which
values count as present, what trimming cuts off, and where a text is split.

A text is a list of characters here as elsewhere; a text that arrives with a request
holds no half of a surrogate pair, so nothing is lost by that.
-/

import SovaDesk.Lib.Text

namespace SovaDesk.Console

open Text

/-- The characters that trimming cuts off: the white space and the line terminators of the
language. -/
def isWhiteSpace (c : Char) : Bool :=
  [0x09, 0x0A, 0x0B, 0x0C, 0x0D, 0x20, 0xA0, 0x1680, 0x2028, 0x2029, 0x202F, 0x205F, 0x3000,
    0xFEFF].contains c.toNat || (0x2000 ≤ c.toNat && c.toNat ≤ 0x200A)

/-- A text without the white space at its ends. -/
def trim (text : String) : String :=
  String.ofList (Text.trim isWhiteSpace text.toList)

/-- A text that counts as true: one that is there and not empty. -/
def truthy (text : Option String) : Option String :=
  text.filter (· ≠ "")

theorem truthy_eq_some (text : Option String) (found : String) :
    truthy text = some found ↔ text = some found ∧ found ≠ "" := by
  unfold truthy
  rw [Option.filter_eq_some_iff, decide_eq_true_iff]

end SovaDesk.Console
