/-
This file models what the accounts keep beside a role: the password hash and the store
of two-factor recovery codes.

The key derivations (PBKDF2 and bcrypt) and the JSON encoding of a list of strings are
parameters. A recovery code is kept as a salted hash of its own; consuming one takes
the first hash that matches out of the stored list and hands the new list to the
caller, who has to write it back.
-/

import Mathlib.Algebra.Ring.Int.Defs
import SovaDesk.Auth.Token

namespace SovaDesk.Auth

/-! ### Password hashes -/

/-- The cost of newly created hashes. -/
def currentIterations : Int := 600000

/-- The prefix of the current, self-describing hash format. -/
def hashScheme : String := "pbkdf2-sha256"

/-- `strings.HasPrefix`. -/
def hasPrefix (text start : String) : Bool := start.toList.isPrefixOf text.toList

/-- The value of a text of decimal digits. -/
def digitsValue (digits : List Char) : Option Int :=
  if digits.isEmpty || !digits.all Char.isDigit then none
  else some (digits.foldl (fun value digit => 10 * value + (digit.toNat - '0'.toNat)) 0)

/-- `strconv.Atoi`: an optional sign and decimal digits, within 64 bits. -/
def atoi (text : List Char) : Option Int := do
  let value ← match text with
    | '-' :: digits => (digitsValue digits).map (- ·)
    | '+' :: digits => digitsValue digits
    | digits => digitsValue digits
  if -2 ^ 63 ≤ value ∧ value < 2 ^ 63 then some value else none

/-- Whether a stored hash was made with outdated parameters. -/
def needsRehash (stored : String) : Bool :=
  if hasPrefix stored "$2a$" || hasPrefix stored "$2b$" || hasPrefix stored "$2y$" then true
  else if !hasPrefix stored (hashScheme ++ "$") then true
  else
    match splitN '$' 4 stored.toList with
    | [_, iterations, _, _] =>
      match atoi iterations with
      | none => true
      | some count => count < currentIterations
    | _ => true

example : needsRehash "pbkdf2-sha256$600000$00$00" = false := by decide

/-! ### Recovery codes -/

/-- The comparison of a code with a salted hash, and the JSON encoding of a list of hashes: an
encoded list is not blank, has no space around it, and decodes to itself. -/
structure RecoveryCrypto where
  compareHash : String → String → Bool
  marshal : List String → String
  unmarshal : String → Option (List String)
  trimSpace_marshal (hashes : List String) : trimSpace (marshal hashes) = marshal hashes
  marshal_ne_empty (hashes : List String) : marshal hashes ≠ ""
  unmarshal_marshal (hashes : List String) : unmarshal (marshal hashes) = some hashes

/-- Upper case without dashes and white space. -/
def normalizeRecoveryCode (code : String) : String :=
  String.ofList ((code.toList.filter fun c => !(['-', ' ', '\t', '\n', '\r'].contains c)).map
    fun c => if 'a' ≤ c ∧ c ≤ 'z' then Char.ofNat (c.toNat - ('a'.toNat - 'A'.toNat)) else c)

example : normalizeRecoveryCode "abcd-EF2 x" = "ABCDEF2X" := by decide

namespace RecoveryCrypto

variable (crypto : RecoveryCrypto)

/-- The outcome of presenting a code: the store to write back, whether a hash matched, and the
error. -/
def consumeRecoveryCode (stored code : String) : String × Bool × Option String :=
  let stored := trimSpace stored
  if stored = "" then (stored, false, none)
  else
    match crypto.unmarshal stored with
    | none => (stored, false, some "auth: malformed recovery code store")
    | some hashes =>
      let normalized := normalizeRecoveryCode code
      if normalized = "" then (stored, false, none)
      else
        match hashes.findIdx? fun hash => crypto.compareHash hash normalized with
        | some index => (crypto.marshal (hashes.eraseIdx index), true, none)
        | none => (stored, false, none)

/-- The hashes in a store. -/
def hashesOf (stored : String) : List String :=
  if trimSpace stored = "" then [] else (crypto.unmarshal (trimSpace stored)).getD []

/-- The hash a code is matched with. -/
def matchedHash (stored code : String) : Option String :=
  (crypto.hashesOf stored).find? fun hash => crypto.compareHash hash (normalizeRecoveryCode code)

theorem hashesOf_empty : crypto.hashesOf "" = [] := if_pos rfl

theorem hashesOf_marshal (hashes : List String) :
    crypto.hashesOf (crypto.marshal hashes) = hashes := by
  rw [hashesOf, crypto.trimSpace_marshal, if_neg (crypto.marshal_ne_empty hashes),
    crypto.unmarshal_marshal, Option.getD_some]

/-- Erasing at the first match erases the entry found there. -/
theorem eraseIdx_eq_erase {hashes : List String} {matching : String → Bool} {index : Nat}
    (first : hashes.findIdx? matching = some index) :
    ∃ hash, hashes.find? matching = some hash ∧ hashes.eraseIdx index = hashes.erase hash := by
  obtain ⟨inside, passes, earlier⟩ := List.findIdx?_eq_some_iff_getElem.mp first
  refine ⟨hashes[index], List.find?_eq_some_iff_getElem.mpr
    ⟨passes, index, inside, rfl, fun j before => ?_⟩, ?_⟩
  · simpa using earlier j before
  · refine (List.erase_eq_eraseIdx_of_idxOf ?_).symm
    rw [List.idxOf, List.findIdx_eq inside]
    refine ⟨beq_self_eq_true _, fun j before => Bool.eq_false_iff.mpr fun same => ?_⟩
    have passesEarlier : matching hashes[j] = true := by rwa [eq_of_beq same]
    exact earlier j before passesEarlier

/-- A code that matches takes the first hash it matches out of the store. -/
theorem consumeRecoveryCode_matched {stored code newStore : String} {failure : Option String}
    (consumed : crypto.consumeRecoveryCode stored code = (newStore, true, failure)) :
    ∃ hash, crypto.matchedHash stored code = some hash ∧
      crypto.hashesOf newStore = (crypto.hashesOf stored).erase hash := by
  unfold consumeRecoveryCode at consumed
  dsimp only at consumed
  split_ifs at consumed with blank nothing
  · simp at consumed
  · cases decoded : crypto.unmarshal (trimSpace stored) <;> simp [decoded] at consumed
  · cases decoded : crypto.unmarshal (trimSpace stored) with
    | none => simp [decoded] at consumed
    | some hashes =>
      have holds : crypto.hashesOf stored = hashes := by
        rw [hashesOf, if_neg blank, decoded, Option.getD_some]
      rw [decoded] at consumed
      dsimp only at consumed
      cases first : hashes.findIdx? fun hash =>
          crypto.compareHash hash (normalizeRecoveryCode code) with
      | none => simp [first] at consumed
      | some index =>
        rw [first] at consumed
        obtain ⟨hash, found, erased⟩ := eraseIdx_eq_erase first
        refine ⟨hash, by rw [matchedHash, holds, found], ?_⟩
        rw [holds, ← erased, ← (Prod.mk.inj consumed).1, hashesOf_marshal]

end RecoveryCrypto

/-! ### An instance

Lists of strings in JSON, with the two characters escaped that end or escape a string, and codes
that are their own hashes. -/

def escapeChar (c : Char) : List Char := if c = '"' ∨ c = '\\' then ['\\', c] else [c]

def quote (text : String) : List Char := '"' :: (text.toList.flatMap escapeChar ++ ['"'])

def encodeStrings (texts : List String) : List Char :=
  '[' :: (((texts.map quote).intersperse [',']).flatten ++ [']'])

/-- Read the strings of an array, inside or outside a string, after those already read. -/
def readStrings : List Char → Option (List Char) → List String → Option (List String)
  | [']'], none, texts => some texts.reverse
  | ',' :: rest, none, texts => readStrings rest none texts
  | '"' :: rest, none, texts => readStrings rest (some []) texts
  | '\\' :: c :: rest, some current, texts => readStrings rest (some (c :: current)) texts
  | '"' :: rest, some current, texts =>
    readStrings rest none (String.ofList current.reverse :: texts)
  | c :: rest, some current, texts => readStrings rest (some (c :: current)) texts
  | _, _, _ => none

def decodeStrings : List Char → Option (List String)
  | '[' :: rest => readStrings rest none []
  | _ => none

theorem readStrings_backslash (c : Char) (rest current : List Char) (texts : List String) :
    readStrings ('\\' :: c :: rest) (some current) texts =
      readStrings rest (some (c :: current)) texts := by
  rw [readStrings]

theorem readStrings_plain {c : Char} (plain : ¬ (c = '"' ∨ c = '\\')) (rest current : List Char)
    (texts : List String) :
    readStrings (c :: rest) (some current) texts =
      readStrings rest (some (c :: current)) texts := by
  rw [not_or] at plain
  cases rest <;> simp [readStrings, plain]

theorem readStrings_escaped (characters rest current : List Char) (texts : List String) :
    readStrings (characters.flatMap escapeChar ++ rest) (some current) texts =
      readStrings rest (some (characters.reverse ++ current)) texts := by
  induction characters generalizing current with
  | nil => rfl
  | cons c characters inductionHypothesis =>
    rw [List.flatMap_cons, List.append_assoc, List.reverse_cons, List.append_assoc]
    have read : readStrings (escapeChar c ++ (characters.flatMap escapeChar ++ rest)) (some current)
        texts =
      readStrings (characters.flatMap escapeChar ++ rest) (some (c :: current)) texts := by
      unfold escapeChar
      split
      · exact readStrings_backslash _ _ _ _
      · next plain => exact readStrings_plain plain _ _ _
    rw [read, inductionHypothesis]
    rfl

theorem readStrings_quote (text : String) (rest : List Char) (texts : List String) :
    readStrings (quote text ++ rest) none texts = readStrings rest none (text :: texts) := by
  have opened : readStrings (quote text ++ rest) none texts =
      readStrings (text.toList.flatMap escapeChar ++ '"' :: rest) (some []) texts := by
    rw [quote, List.cons_append, List.append_assoc, readStrings]
    rfl
  have closed : readStrings ('"' :: rest) (some text.toList.reverse) texts =
      readStrings rest none (text :: texts) := by
    rw [readStrings, List.reverse_reverse, String.ofList_toList]
  rw [opened, readStrings_escaped, List.append_nil, closed]

theorem readStrings_list (texts before : List String) :
    readStrings (((texts.map quote).intersperse [',']).flatten ++ [']']) none before =
      some (before.reverse ++ texts) := by
  induction texts generalizing before with
  | nil => rw [List.append_nil]; rfl
  | cons text texts inductionHypothesis =>
    cases texts with
    | nil =>
      rw [List.map_cons, List.map_nil, List.intersperse_singleton, List.flatten_singleton,
        readStrings_quote]
      simp [readStrings]
    | cons second others =>
      have rest := inductionHypothesis (text :: before)
      rw [List.map_cons, List.map_cons, List.intersperse_cons_cons, List.flatten_cons,
        List.flatten_cons, List.append_assoc, readStrings_quote]
      rw [List.map_cons] at rest
      simpa [readStrings] using rest

theorem decodeStrings_encodeStrings (texts : List String) :
    decodeStrings (encodeStrings texts) = some texts :=
  readStrings_list texts []

/-- Text between two characters that are no space is not trimmed. -/
theorem trimSpace_between {first last : Char} (inner : List Char)
    (firstSolid : isSpace first = false)
    (lastSolid : isSpace last = false) :
    trimSpace (String.ofList (first :: (inner ++ [last]))) =
      String.ofList (first :: (inner ++ [last])) := by
  have front : (first :: (inner ++ [last])).dropWhile isSpace = first :: (inner ++ [last]) :=
    List.dropWhile_cons_of_neg (by rw [firstSolid]; exact Bool.false_ne_true)
  have reversed : (first :: (inner ++ [last])).reverse = last :: (first :: inner).reverse := by
    simp
  have back : (last :: (first :: inner).reverse).dropWhile isSpace =
      last :: (first :: inner).reverse :=
    List.dropWhile_cons_of_neg (by rw [lastSolid]; exact Bool.false_ne_true)
  rw [trimSpace, String.toList_ofList, front, reversed, back, ← reversed, List.reverse_reverse]

/-- Recovery codes that are stored as they are. -/
def plainRecovery : RecoveryCrypto where
  compareHash hash code := hash == code
  marshal texts := String.ofList (encodeStrings texts)
  unmarshal text := decodeStrings text.toList
  trimSpace_marshal texts := trimSpace_between _ (by decide) (by decide)
  marshal_ne_empty texts := fun empty => by
    have nothing := congrArg String.toList empty
    rw [String.toList_ofList] at nothing
    exact (nomatch nothing)
  unmarshal_marshal texts := by
    rw [String.toList_ofList]
    exact decodeStrings_encodeStrings texts

example : plainRecovery.consumeRecoveryCode (plainRecovery.marshal ["AB", "CD"]) "c-d" =
    (plainRecovery.marshal ["AB"], true, none) := by decide

end SovaDesk.Auth
