/-
This file models how an update merges the template of the settings into the settings of an operator,
and how a single setting is written, and settles what that keeps.

A file is split at its newlines, and a carriage return in front of one is dropped with it. So a line
that ends in a carriage return without a newline behind it, as the last line can, or in two of them,
loses one when it is written back with a newline. Where no value ends so the settings are kept, and
what is missing is added, once for every time the template has it.
-/

import SovaDesk.Console.Text

namespace SovaDesk.Console.EnvMerge

open Text (cut dropCarriageReturn joinLines)

abbrev Line := List Char

/-! ### `parseEnvLines` -/

/-- `split(/\r?\n/)`. -/
def splitLines (text : List Char) : List Line :=
  (text.splitOn '\n').dropLast.map dropCarriageReturn ++ [(text.splitOn '\n').getLastD []]

inductive Kind where
  | blank
  | comment

inductive Entry where
  | other (kind : Kind) (raw : Line)
  | pair (key value raw : Line)

def parseLine (raw : Line) : Entry :=
  let trimmed := Text.trim isWhiteSpace raw
  if trimmed = [] then .other .blank raw
  else if trimmed.head? = some '#' then .other .comment raw
  else
    match cut '=' raw with
    | none => .other .comment raw
    | some (before, value) =>
      let key := Text.trim isWhiteSpace before
      if key = [] then .other .comment raw else .pair key value raw

/-- The key and the value of a line that has them. -/
def Entry.pair? : Entry → Option (Line × Line)
  | .pair key value _ => some (key, value)
  | _ => none

/-- What a map has for a key when these are set in turn. -/
def get (pairs : List (Line × Line)) (key : Line) : Option Line :=
  ((pairs.filter (·.1 = key)).getLast?).map Prod.snd

/-- The entries of a text, and its map. -/
structure Parsed where
  entries : List Entry
  map : Line → Option Line

def parseEnvLines (content : List Char) : Parsed :=
  let entries := (splitLines content).map parseLine
  ⟨entries, get (entries.filterMap Entry.pair?)⟩

/-! ### `mergeEnv` -/

def endsWithNewline (text : List Char) : Bool := text.getLast? = some '\n'

def settingLine (key value : Line) : Line := key ++ '=' :: value

/-- The loop over the template's entries. -/
def mergeLoop (has : Line → Bool) : List Entry → List Char → List Char × List Line →
    List Char × List Line
  | [], _, merged => merged
  | .other _ raw :: rest, pendingComment, merged =>
    mergeLoop has rest (pendingComment ++ (raw ++ ['\n'])) merged
  | .pair key value _ :: rest, pendingComment, (content, added) =>
    if has key then mergeLoop has rest pendingComment (content, added)
    else mergeLoop has rest []
      (content ++ pendingComment ++ (settingLine key value ++ ['\n']), added ++ [key])

/-- A text with a newline behind it, unless it is empty or has one. -/
def base (text : List Char) : List Char :=
  if ! endsWithNewline text && text ≠ [] then text ++ ['\n'] else text

def mergeEnv (existingContent templateContent : List Char) : List Char × List Line :=
  mergeLoop (fun key => ((parseEnvLines existingContent).map key).isSome)
    (parseEnvLines templateContent).entries [] (base existingContent, [])

/-! ### `upsertEnvKey` -/

/-- Whether a line is one of those that are replaced. -/
def isLineOf (key line : Line) : Bool :=
  let trimmed := Text.trim isWhiteSpace line
  if trimmed = [] || trimmed.head? = some '#' then false
  else
    match cut '=' line with
    | none => false
    | some (before, _) => before ≠ [] && Text.trim isWhiteSpace before = key

def upsertEnvKey (existingContent key value : List Char) : List Char :=
  let lines := splitLines existingContent
  let out := lines.map fun line => if isLineOf key line then settingLine key value else line
  let content := ['\n'].intercalate out
  if ! lines.any (isLineOf key) then base content ++ (settingLine key value ++ ['\n'])
  else if ! endsWithNewline content then content ++ ['\n'] else content

/-! ### Lines -/

def pairOf (line : Line) : Option (Line × Line) := (parseLine line).pair?

/-- The pairs of a text. -/
def pairs (text : List Char) : List (Line × Line) := (splitLines text).filterMap pairOf

theorem map_parseEnvLines (content : List Char) :
    (parseEnvLines content).map = get (pairs content) := by
  rw [parseEnvLines, pairs, List.filterMap_map]
  rfl

theorem trim_append_whiteSpace (line : Line) {c : Char} (white : isWhiteSpace c = true) :
    Text.trim isWhiteSpace (line ++ [c]) = Text.trim isWhiteSpace line := by
  unfold Text.trim
  rw [List.dropWhile_append]
  split
  · next all =>
    rw [List.isEmpty_iff.mp all, List.dropWhile_cons_of_pos white, List.dropWhile_nil]
  · rw [List.rdropWhile_concat_pos _ _ _ white]

theorem dropCarriageReturn_concat (line : Line) : dropCarriageReturn (line ++ ['\r']) = line := by
  rw [dropCarriageReturn, List.getLast?_concat, if_pos rfl, List.dropLast_concat]

variable {line : Line}

theorem dropCarriageReturn_eq_self (other : line.getLast? ≠ some '\r') :
    dropCarriageReturn line = line := if_neg other

theorem dropCarriageReturn_ne_self (ends : line.getLast? = some '\r') :
    dropCarriageReturn line ≠ line := by
  obtain ⟨before, rfl⟩ := List.getLast?_eq_some_iff.mp ends
  rw [dropCarriageReturn_concat]
  exact fun same => List.cons_ne_nil _ _ (List.self_eq_append_right.mp same)

variable {key : Line}

theorem pairOf_eq_some_iff {value : Line} :
    pairOf line = some (key, value) ↔ Text.trim isWhiteSpace line ≠ [] ∧
      (Text.trim isWhiteSpace line).head? ≠ some '#' ∧ key ≠ [] ∧
      ∃ before, cut '=' line = some (before, value) ∧ Text.trim isWhiteSpace before = key := by
  unfold pairOf parseLine
  dsimp only
  by_cases blank : Text.trim isWhiteSpace line = []
  · rw [if_pos blank]
    exact iff_of_false (fun same => nomatch same) fun holds => holds.1 blank
  rw [if_neg blank]
  by_cases hash : (Text.trim isWhiteSpace line).head? = some '#'
  · rw [if_pos hash]
    exact iff_of_false (fun same => nomatch same) fun holds => holds.2.1 hash
  rw [if_neg hash]
  cases found : cut '=' line with
  | none => exact iff_of_false (fun same => nomatch same) fun ⟨_, _, _, _, same, _⟩ => nomatch same
  | some parts =>
    obtain ⟨before, after⟩ := parts
    dsimp only
    by_cases empty : Text.trim isWhiteSpace before = []
    · rw [if_pos empty]
      refine iff_of_false (fun same => nomatch same) fun ⟨_, _, nonempty, other, same, is⟩ => ?_
      obtain ⟨rfl, rfl⟩ := Prod.mk.inj (Option.some.inj same)
      exact nonempty (is ▸ empty)
    · rw [if_neg empty]
      constructor
      · intro same
        obtain ⟨rfl, rfl⟩ := Prod.mk.inj (Option.some.inj same)
        exact ⟨blank, hash, empty, before, rfl, rfl⟩
      · rintro ⟨-, -, -, other, same, rfl⟩
        obtain ⟨rfl, rfl⟩ := Prod.mk.inj (Option.some.inj same)
        rfl

/-- A carriage return at the end of a line is at the end of its value. -/
theorem pairOf_dropCarriageReturn (line : Line) :
    pairOf (dropCarriageReturn line) = (pairOf line).map (Prod.map id dropCarriageReturn) := by
  by_cases ends : line.getLast? = some '\r'
  · obtain ⟨before, rfl⟩ := List.getLast?_eq_some_iff.mp ends
    rw [dropCarriageReturn_concat]
    have trimmed := trim_append_whiteSpace before (show isWhiteSpace '\r' = true by decide)
    unfold pairOf parseLine
    dsimp only
    rw [trimmed]
    split
    · rfl
    · split
      · rfl
      · cases found : cut '=' before with
        | none =>
          have fresh : '=' ∉ before ++ ['\r'] := fun member =>
            (List.mem_append.mp member).elim (Text.notMem_of_cut found) (by decide)
          rw [Text.cut_of_notMem fresh]
          rfl
        | some parts =>
          obtain ⟨same, fresh⟩ := Text.append_of_cut found
          rw [same, List.append_assoc, List.cons_append, Text.cut_append fresh]
          dsimp only
          split
          · rfl
          · exact congrArg (fun value => some (Text.trim isWhiteSpace parts.1, value))
              (dropCarriageReturn_concat parts.2).symm
  · rw [dropCarriageReturn_eq_self ends]
    cases found : pairOf line with
    | none => rfl
    | some pair =>
      obtain ⟨-, -, -, before, cuts, -⟩ := pairOf_eq_some_iff.mp found
      obtain ⟨rfl, -⟩ := Text.append_of_cut cuts
      have same : dropCarriageReturn pair.2 = pair.2 := by
        refine dropCarriageReturn_eq_self fun last => ends ?_
        rw [List.getLast?_append_of_ne_nil _ (List.cons_ne_nil _ _), List.getLast?_cons, last]
        rfl
      rw [Option.map_some, Prod.map, same]
      rfl

/-- A key that a line can have. -/
def ProperKey (key : Line) : Prop :=
  key ≠ [] ∧ Text.trim isWhiteSpace key = key ∧ '=' ∉ key ∧ '\n' ∉ key ∧ key.head? ≠ some '#'

theorem head?_rdropWhile {p : Char → Bool} {c : Char} {rest : List Char} (stays : p c = false) :
    ((c :: rest).rdropWhile p).head? = some c := by
  have nonempty : (c :: rest).rdropWhile p ≠ [] := fun empty => Bool.false_ne_true
    (stays.symm.trans (List.rdropWhile_eq_nil_iff.mp empty c List.mem_cons_self))
  obtain ⟨first, others, same⟩ := List.exists_cons_of_ne_nil nonempty
  have initial := List.rdropWhile_prefix p (c :: rest)
  rw [same, List.cons_prefix_cons] at initial
  rw [same, initial.1, List.head?_cons]

/-- A line is trimmed to the first character of its key. -/
theorem head?_trim {before : Line} (nonempty : Text.trim isWhiteSpace before ≠ [])
    (after : Line) : ∃ c, (Text.trim isWhiteSpace before).head? = some c ∧
      (Text.trim isWhiteSpace (before ++ after)).head? = some c := by
  unfold Text.trim at nonempty ⊢
  have left : before.dropWhile isWhiteSpace ≠ [] := fun empty =>
    nonempty (by rw [empty, List.rdropWhile_nil])
  obtain ⟨c, rest, same⟩ := List.exists_cons_of_ne_nil left
  have stays : isWhiteSpace c = false := by
    have first := List.head_dropWhile_not isWhiteSpace left
    simpa only [same, List.head_cons] using first
  rw [List.dropWhile_append, if_neg fun all => left (List.isEmpty_iff.mp all), same,
    List.cons_append]
  exact ⟨c, head?_rdropWhile stays, head?_rdropWhile stays⟩

/-- The line that is written for a key has it. -/
theorem pairOf_settingLine (proper : ProperKey key) (value : Line) :
    pairOf (settingLine key value) = some (key, value) := by
  obtain ⟨nonempty, trimmed, equals, -, hash⟩ := proper
  obtain ⟨c, head, first⟩ := @head?_trim key (trimmed.symm ▸ nonempty) ('=' :: value)
  refine pairOf_eq_some_iff.mpr ⟨fun blank => ?_, ?_, nonempty, key, Text.cut_append equals value,
    trimmed⟩
  · rw [settingLine] at blank
    rw [blank] at first
    cases first
  · rw [settingLine, first, ← head, trimmed]
    exact hash

theorem notMem_settingLine {value : Line} (proper : ProperKey key) (single : '\n' ∉ value) :
    '\n' ∉ settingLine key value := by
  rw [settingLine, List.mem_append, List.mem_cons]
  rintro (newline | equals | newline)
  · exact proper.2.2.2.1 newline
  · exact absurd equals (by decide)
  · exact single newline

/-- The key of a line is one that a line can have. -/
theorem properKey_of_pairOf {value : Line} (found : pairOf line = some (key, value))
    (single : '\n' ∉ line) : ProperKey key ∧ '\n' ∉ value := by
  obtain ⟨-, hash, nonempty, before, cuts, rfl⟩ := pairOf_eq_some_iff.mp found
  obtain ⟨rfl, fresh⟩ := Text.append_of_cut cuts
  have within := Text.trim_sublist isWhiteSpace before
  obtain ⟨c, head, first⟩ := head?_trim nonempty ('=' :: value)
  rw [List.mem_append, not_or] at single
  refine ⟨⟨nonempty, Text.trim_trim _ _, fun member => fresh (within.subset member),
    fun member => single.1 (within.subset member), ?_⟩, fun member =>
    single.2 (List.mem_cons_of_mem _ member)⟩
  rw [head, ← first]
  exact hash

/-! ### Texts -/

/-- The pairs of lines that all have a newline behind them. -/
def written (lines : List Line) : List (Line × Line) :=
  (lines.filterMap pairOf).map (Prod.map id dropCarriageReturn)

theorem filterMap_dropCarriageReturn (lines : List Line) :
    (lines.map dropCarriageReturn).filterMap pairOf = written lines := by
  rw [List.filterMap_map, written, List.map_filterMap]
  exact List.filterMap_congr fun line _ => pairOf_dropCarriageReturn line

/-- Behind a newline the pairs are those of the rest. -/
theorem pairs_append (before after : List Char) :
    pairs (before ++ '\n' :: after) = written (before.splitOn '\n') ++ pairs after := by
  obtain ⟨front, last, same⟩ : ∃ front last, after.splitOn '\n' = front ++ [last] :=
    ⟨_, _, (List.dropLast_append_getLast (List.splitOn_ne_nil '\n' after)).symm⟩
  unfold pairs splitLines
  rw [List.splitOn_append_cons_self, same, ← List.append_assoc, List.dropLast_concat,
    List.dropLast_concat, List.map_append, List.append_assoc, List.filterMap_append,
    filterMap_dropCarriageReturn]
  simp only [List.getLastD_concat]

theorem pairs_nil : pairs [] = [] := by decide +kernel

theorem written_nil : written [[]] = [] := by decide +kernel

theorem written_singleton (line : Line) :
    written [line] = (pairOf line).toList.map (Prod.map id dropCarriageReturn) := by
  rw [written, List.filterMap_cons]
  cases pairOf line with
  | none => rfl
  | some pair => rfl

theorem written_append (lines more : List Line) :
    written (lines ++ more) = written lines ++ written more := by
  rw [written, List.filterMap_append, List.map_append, written, written]

/-- The pairs of a text with a newline behind it, unless it is empty or has one. -/
theorem pairs_base_append (text after : List Char) :
    pairs (base text ++ after) = written (text.splitOn '\n') ++ pairs after := by
  unfold base endsWithNewline
  rcases List.eq_nil_or_concat text with rfl | ⟨front, c, rfl⟩
  · rw [List.splitOn_nil, written_nil]
    rfl
  · rw [List.concat_eq_append, List.getLast?_concat]
    by_cases newline : c = '\n'
    · rw [newline, decide_eq_true rfl, Bool.not_true, Bool.false_and, if_neg Bool.false_ne_true,
        List.splitOn_append_cons_self, written_append, List.splitOn_nil, written_nil,
        List.append_nil, List.append_assoc, List.singleton_append, pairs_append]
    · rw [if_pos, List.append_assoc, List.singleton_append, pairs_append]
      have other : ¬some c = some '\n' := fun same => newline (Option.some.inj same)
      rw [decide_eq_false other, Bool.not_false, Bool.true_and]
      exact decide_eq_true (List.append_ne_nil_of_right_ne_nil _ (List.cons_ne_nil _ _))

theorem base_of_endsWithNewline {text : List Char} (ends : endsWithNewline text = true) :
    base text = text := by
  rw [base, ends, Bool.not_true, Bool.false_and, if_neg Bool.false_ne_true]

/-- The pairs of a text with a newline behind it. -/
theorem pairs_closed (text : List Char) :
    pairs (if ! endsWithNewline text then text ++ ['\n'] else text) =
      written (text.splitOn '\n') := by
  cases ends : endsWithNewline text with
  | true =>
    have listed := pairs_base_append text []
    rw [base_of_endsWithNewline ends, List.append_nil, pairs_nil, List.append_nil] at listed
    exact listed
  | false => exact (pairs_append text []).trans (by rw [pairs_nil, List.append_nil])

/-- The pairs of lines that are written with newlines. -/
theorem pairs_joinLines {lines : List Line} (single : ∀ line ∈ lines, '\n' ∉ line) :
    pairs (joinLines lines) = written lines := by
  induction lines with
  | nil => exact pairs_nil
  | cons line lines inductionHypothesis =>
    have here := single line List.mem_cons_self
    have joined : joinLines (line :: lines) = line ++ '\n' :: joinLines lines := by
      rw [joinLines, List.flatMap_cons, List.append_assoc]
      rfl
    rw [joined, pairs_append, List.splitOn_eq_singleton here, inductionHypothesis
      fun other member => single other (List.mem_cons_of_mem _ member), ← written_append,
      List.singleton_append]

/-- The last line of a text. -/
def lastLine (text : List Char) : Line := (text.splitOn '\n').getLastD []

/-- Only the last line of a text has no newline behind it. -/
theorem pairs_eq (text : List Char) :
    ∃ front, pairs text = written front ++ (pairOf (lastLine text)).toList ∧
      text.splitOn '\n' = front ++ [lastLine text] := by
  have divided : text.splitOn '\n' = (text.splitOn '\n').dropLast ++ [lastLine text] := by
    rw [lastLine, List.getLastD_eq_getLast?, List.getLast?_eq_some_getLast
      (List.splitOn_ne_nil '\n' text), Option.getD_some, List.dropLast_append_getLast]
  refine ⟨(text.splitOn '\n').dropLast, ?_, divided⟩
  rw [pairs, splitLines, List.filterMap_append, filterMap_dropCarriageReturn, lastLine]
  refine congrArg _ ?_
  rw [List.filterMap_cons]
  cases pairOf ((text.splitOn '\n').getLastD []) with
  | none => rfl
  | some pair => rfl

/-! ### Maps -/

theorem get_append (first second : List (Line × Line)) (key : Line) :
    get (first ++ second) key = (get second key).or (get first key) := by
  rw [get, List.filter_append, List.getLast?_append, get, get]
  cases (second.filter (·.1 = key)).getLast? with
  | none => rfl
  | some pair => rfl

theorem get_map (change : Line → Line) (listed : List (Line × Line)) (key : Line) :
    get (listed.map (Prod.map id change)) key = (get listed key).map change := by
  rw [get, List.filter_map, List.getLast?_map, get, Option.map_map, Option.map_map]
  rfl

theorem get_eq_none_iff {listed : List (Line × Line)} :
    get listed key = none ↔ listed.filter (·.1 = key) = [] := by
  rw [get, Option.map_eq_none_iff, List.getLast?_eq_none_iff]

/-- The pairs of a key that is not left out are all there. -/
theorem filter_missing {has : Line → Bool} (missing : has key = false)
    (listed : List (Line × Line)) :
    (listed.filter fun pair => ! has pair.1).filter (·.1 = key) = listed.filter (·.1 = key) := by
  rw [List.filter_filter]
  refine List.filter_congr fun pair _ => ?_
  by_cases same : pair.1 = key
  · rw [same, missing, Bool.not_false, Bool.and_true]
  · rw [decide_eq_false same, Bool.false_and]

theorem get_filter_of_has {has : Line → Bool} (there : has key = true)
    (listed : List (Line × Line)) : get (listed.filter fun pair => ! has pair.1) key = none := by
  rw [get_eq_none_iff, List.filter_filter, List.filter_eq_nil_iff]
  intro pair _ both
  obtain ⟨same, missing⟩ := (Bool.and_eq_true _ _).mp both
  rw [of_decide_eq_true same, there] at missing
  exact Bool.false_ne_true missing

/-! ### What a merge adds -/

/-- The line that an entry is written as. -/
def Entry.text : Entry → Line
  | .other _ raw => raw
  | .pair key value _ => settingLine key value

theorem joinLines_concat (lines : List Line) (line : Line) :
    joinLines (lines ++ [line]) = joinLines lines ++ (line ++ ['\n']) := by
  rw [joinLines, List.flatMap_append, List.flatMap_singleton, joinLines]

/-- The loop appends entries of the template, of which the pairs are those that are missing, and
nothing if there are none. It notes their keys. -/
theorem exists_mergeLoop (has : Line → Bool) (entries : List Entry) {pending : List Entry}
    (idle : pending.filterMap Entry.pair? = []) (merged : List Char × List Line) :
    ∃ added : List Entry, added.Sublist (pending ++ entries) ∧
      added.filterMap Entry.pair? =
        (entries.filterMap Entry.pair?).filter (fun pair => ! has pair.1) ∧
      (added.filterMap Entry.pair? = [] → added = []) ∧
      mergeLoop has entries (joinLines (pending.map Entry.text)) merged =
        (merged.1 ++ joinLines (added.map Entry.text),
          merged.2 ++ (added.filterMap Entry.pair?).map Prod.fst) := by
  induction entries generalizing pending merged with
  | nil => exact ⟨[], List.nil_sublist _, rfl, fun _ => rfl,
      Prod.ext (List.append_nil _).symm (List.append_nil _).symm⟩
  | cons entry rest inductionHypothesis =>
    cases entry with
    | other kind raw =>
      obtain ⟨added, within, same, empty, result⟩ := inductionHypothesis
        (show (pending ++ [Entry.other kind raw]).filterMap Entry.pair? = [] by
          rw [List.filterMap_append, idle]; rfl) merged
      rw [List.map_append, List.map_singleton, joinLines_concat] at result
      rw [List.append_assoc] at within
      exact ⟨added, within, same, empty, result⟩
    | pair key value raw =>
      obtain ⟨content, keys⟩ := merged
      rw [mergeLoop, List.filterMap_cons]
      dsimp only [Entry.pair?]
      cases there : has key with
      | true =>
        obtain ⟨added, within, same, empty, result⟩ := inductionHypothesis idle (content, keys)
        refine ⟨added, within.trans ((List.sublist_cons_self _ _).append_left _), ?_, empty, result⟩
        rw [same, List.filter_cons_of_neg (by rw [there]; decide)]
      | false =>
        obtain ⟨added, within, same, -, result⟩ := @inductionHypothesis [] rfl
          (content ++ joinLines (pending.map Entry.text) ++ (settingLine key value ++ ['\n']),
            keys ++ [key])
        have pairs : (pending ++ .pair key value raw :: added).filterMap Entry.pair? =
            (key, value) :: added.filterMap Entry.pair? := by
          rw [List.filterMap_append, idle]
          rfl
        refine ⟨pending ++ .pair key value raw :: added,
          (List.Sublist.refl pending).append (within.cons_cons _), ?_, ?_, ?_⟩
        · rw [pairs, same, List.filter_cons_of_pos (by rw [there]; rfl)]
        · rw [pairs]
          exact fun none => absurd none (List.cons_ne_nil _ _)
        · rw [if_neg Bool.false_ne_true, pairs]
          refine result.trans (Prod.ext ?_ (List.append_assoc _ _ _))
          simp only [joinLines, List.map_append, List.map_cons, List.flatMap_append,
            List.flatMap_cons, List.append_assoc, Entry.text]

/-- What is known of the entries of a text. -/
def Entry.Sound : Entry → Prop
  | .other _ raw => pairOf raw = none ∧ '\n' ∉ raw
  | .pair key value _ => ProperKey key ∧ '\n' ∉ value

theorem raw_of_parseLine {raw : Line} {kind : Kind}
    (parsed : parseLine line = .other kind raw) : raw = line := by
  unfold parseLine at parsed
  dsimp only at parsed
  split at parsed
  · exact (Entry.other.inj parsed).2.symm
  · split at parsed
    · exact (Entry.other.inj parsed).2.symm
    · split at parsed
      · exact (Entry.other.inj parsed).2.symm
      · split at parsed
        · exact (Entry.other.inj parsed).2.symm
        · cases parsed

theorem notMem_of_mem_splitLines {text : List Char}
    (listed : line ∈ splitLines text) : '\n' ∉ line := by
  obtain ⟨front, -, divided⟩ := pairs_eq text
  have rows : ∀ row ∈ text.splitOn '\n', '\n' ∉ row := fun row => Text.notMem_of_mem_splitOn
  rw [splitLines, divided, List.dropLast_concat, List.getLastD_concat] at listed
  rw [divided] at rows
  rcases List.mem_append.mp listed with listed | listed
  · obtain ⟨row, inside, rfl⟩ := List.mem_map.mp listed
    exact fun newline => rows row (List.mem_append_left _ inside)
      ((Text.dropCarriageReturn_sublist row).subset newline)
  · exact rows line (List.mem_append_right _ listed)

theorem sound_of_mem_entries {text : List Char} {entry : Entry}
    (member : entry ∈ (parseEnvLines text).entries) : entry.Sound := by
  obtain ⟨line, listed, rfl⟩ := List.mem_map.mp member
  have single := notMem_of_mem_splitLines listed
  cases parsed : parseLine line with
  | other kind raw =>
    obtain rfl := raw_of_parseLine parsed
    exact ⟨by rw [pairOf, parsed]; rfl, single⟩
  | pair key value raw => exact properKey_of_pairOf (by rw [pairOf, parsed]; rfl) single

/-- The pairs of the lines that are written for entries. -/
theorem filterMap_text {entries : List Entry} (sound : ∀ entry ∈ entries, entry.Sound) :
    (entries.map Entry.text).filterMap pairOf = entries.filterMap Entry.pair? := by
  rw [List.filterMap_map]
  refine List.filterMap_congr fun entry member => ?_
  cases entry with
  | other kind raw => exact (sound _ member).1
  | pair key value raw => exact pairOf_settingLine (sound _ member).1 value

/-! ### `mergeEnv` keeps the settings -/

/-- What a merge should do: nothing goes, every setting stays, what is missing is added once with
the template's last value, along with comments and blank lines of the template only, and merging
again adds nothing. -/
structure KeepsSettings (existing template : List Char) : Prop where
  starts : ∃ newline more, (newline = [] ∨ newline = ['\n']) ∧
    (mergeEnv existing template).1 = existing ++ newline ++ more
  kept : ∀ key value, (parseEnvLines existing).map key = some value →
    (parseEnvLines (mergeEnv existing template).1).map key = some value
  adds : ∀ key value, (parseEnvLines existing).map key = none →
    (parseEnvLines template).map key = some value →
      ((pairs (mergeEnv existing template).1).filter (·.1 = key)).length = 1 ∧
        (parseEnvLines (mergeEnv existing template).1).map key = some value
  nothingElse : ∃ added : List Entry, added.Sublist (parseEnvLines template).entries ∧
    (∀ pair ∈ added.filterMap Entry.pair?, (parseEnvLines existing).map pair.1 = none) ∧
    (mergeEnv existing template).1 = base existing ++ joinLines (added.map Entry.text)
  idempotent : mergeEnv (mergeEnv existing template).1 template =
    ((mergeEnv existing template).1, [])

/-- No value that matters ends in a carriage return, neither that of a last line without a newline
nor that of a missing key, and no missing key is there twice. -/
def Plain (existing template : List Char) : Prop :=
  (∀ key value, pairOf (lastLine existing) = some (key, value) → value.getLast? ≠ some '\r') ∧
    ∀ key, (parseEnvLines existing).map key = none →
      ((pairs template).filter (·.1 = key)).length ≤ 1 ∧
        ∀ value, (parseEnvLines template).map key = some value → value.getLast? ≠ some '\r'

section merge

variable (existing template : List Char)

/-- Whether an existing text has a key. -/
def has (key : Line) : Bool := (get (pairs existing) key).isSome

/-- The pairs that a merge adds. -/
def missing : List (Line × Line) := (pairs template).filter fun pair => ! has existing pair.1

theorem pairs_entries :
    (parseEnvLines template).entries.filterMap Entry.pair? = pairs template := by
  rw [parseEnvLines, pairs, List.filterMap_map]
  rfl

theorem exists_mergeEnv : ∃ added : List Entry,
    added.Sublist (parseEnvLines template).entries ∧
      added.filterMap Entry.pair? = missing existing template ∧
      (missing existing template = [] → added = []) ∧
      mergeEnv existing template = (base existing ++ joinLines (added.map Entry.text),
        (missing existing template).map Prod.fst) := by
  obtain ⟨added, within, same, empty, result⟩ := @exists_mergeLoop
    (fun key => ((parseEnvLines existing).map key).isSome) (parseEnvLines template).entries [] rfl
    (base existing, [])
  rw [pairs_entries, map_parseEnvLines] at same
  rw [same] at empty result
  exact ⟨added, within, same, empty, result⟩

theorem pairs_mergeEnv : pairs (mergeEnv existing template).1 =
    written (existing.splitOn '\n') ++
      (missing existing template).map (Prod.map id dropCarriageReturn) := by
  obtain ⟨added, within, same, -, result⟩ := exists_mergeEnv existing template
  have sound : ∀ entry ∈ added, entry.Sound := fun entry member =>
    sound_of_mem_entries (within.subset member)
  rw [result, pairs_base_append, pairs_joinLines]
  · exact congrArg (fun listed => written _ ++ List.map _ listed)
      ((filterMap_text sound).trans same)
  · intro line member
    obtain ⟨entry, listed, rfl⟩ := List.mem_map.mp member
    cases entry with
    | other kind raw => exact (sound _ listed).2
    | pair key value raw => exact notMem_settingLine (sound _ listed).1 (sound _ listed).2

/-- With a newline behind its last line a text has the same pairs, except that this line may lose a
carriage return. -/
theorem written_splitOn : (pairOf (lastLine existing) = none ∧
      written (existing.splitOn '\n') = pairs existing) ∨
    ∃ front key value, pairOf (lastLine existing) = some (key, value) ∧
      pairs existing = front ++ [(key, value)] ∧
      written (existing.splitOn '\n') = front ++ [(key, dropCarriageReturn value)] := by
  obtain ⟨front, listed, divided⟩ := pairs_eq existing
  rw [divided, written_append, listed, written_singleton]
  cases last : pairOf (lastLine existing) with
  | none => exact Or.inl ⟨rfl, rfl⟩
  | some pair => exact Or.inr ⟨_, pair.1, pair.2, rfl, rfl, rfl⟩

theorem get_singleton (pair : Line × Line) (key : Line) :
    get [pair] key = if pair.1 = key then some pair.2 else none := by
  rw [get, List.filter_cons]
  by_cases same : pair.1 = key
  · rw [if_pos (decide_eq_true same), if_pos same]
    rfl
  · rw [if_neg fun is => same (of_decide_eq_true is), if_neg same]
    rfl

theorem isSome_get_written (key : Line) :
    (get (written (existing.splitOn '\n')) key).isSome = has existing key := by
  rw [has]
  rcases written_splitOn existing with ⟨-, same⟩ | ⟨front, last, value, -, before, after⟩
  · rw [same]
  · rw [before, after, get_append, get_append, get_singleton, get_singleton]
    by_cases same : last = key
    · rw [if_pos same, if_pos same]
      rfl
    · rw [if_neg same, if_neg same]

theorem get_mergeEnv (key : Line) : get (pairs (mergeEnv existing template).1) key =
    if has existing key then get (written (existing.splitOn '\n')) key
    else (get (pairs template) key).map dropCarriageReturn := by
  rw [pairs_mergeEnv, get_append, get_map, missing]
  have there := isSome_get_written existing key
  cases present : has existing key with
  | true => rw [if_pos rfl, get_filter_of_has present, Option.map_none, Option.none_or]
  | false =>
    rw [present, Option.isSome_eq_false_iff, Option.isNone_iff_eq_none] at there
    rw [if_neg Bool.false_ne_true, there, Option.or_none, get, filter_missing present, get]

/-- Every setting stays exactly when the last line does not end in a carriage return. -/
theorem kept_iff :
    (∀ key value, get (pairs existing) key = some value →
      get (pairs (mergeEnv existing template).1) key = some value) ↔
    ∀ key value, pairOf (lastLine existing) = some (key, value) → value.getLast? ≠ some '\r' := by
  have stays : ∀ {key value}, get (pairs existing) key = some value →
      get (pairs (mergeEnv existing template).1) key =
        get (written (existing.splitOn '\n')) key := fun found => by
    rw [get_mergeEnv, has, found]
    rfl
  rcases written_splitOn existing with ⟨none, same⟩ | ⟨front, last, ending, is, before, after⟩
  · refine iff_of_true (fun key value found => ?_) fun key value found => ?_
    · rw [stays found, same, found]
    · exact (Option.some_ne_none _ (found.symm.trans none)).elim
  · rw [is]
    constructor
    · rintro kept key value same ends
      obtain ⟨rfl, rfl⟩ := Prod.mk.inj (Option.some.inj same)
      have found : get (pairs existing) last = some ending := by
        rw [before, get_append, get_singleton, if_pos rfl, Option.some_or]
      have cut := kept last ending found
      rw [stays found, after, get_append, get_singleton, if_pos rfl, Option.some_or] at cut
      exact dropCarriageReturn_ne_self ends (Option.some.inj cut)
    · intro plain key value found
      rw [stays found, after, dropCarriageReturn_eq_self (plain last ending rfl), ← before, found]

/-- A missing key is added as it should be exactly when it is there once and its value does not end
in a carriage return. -/
theorem adds_iff {value : Line} (absent : get (pairs existing) key = none)
    (found : get (pairs template) key = some value) :
    ((pairs (mergeEnv existing template).1).filter (·.1 = key)).length = 1 ∧
      get (pairs (mergeEnv existing template).1) key = some value ↔
    ((pairs template).filter (·.1 = key)).length ≤ 1 ∧ value.getLast? ≠ some '\r' := by
  have not_there : has existing key = false := by rw [has, absent]; rfl
  have rows : (written (existing.splitOn '\n')).filter (·.1 = key) = [] := by
    have there := isSome_get_written existing key
    rw [not_there, Option.isSome_eq_false_iff, Option.isNone_iff_eq_none] at there
    exact get_eq_none_iff.mp there
  have count : ((pairs (mergeEnv existing template).1).filter (·.1 = key)).length =
      ((pairs template).filter (·.1 = key)).length := by
    rw [pairs_mergeEnv, List.filter_append, rows, List.nil_append, List.filter_map,
      List.length_map]
    exact congrArg List.length (filter_missing not_there (pairs template))
  have some_pair : 0 < ((pairs template).filter (·.1 = key)).length :=
    List.length_pos_of_ne_nil fun empty =>
      Option.some_ne_none _ (found.symm.trans (get_eq_none_iff.mpr empty))
  rw [count, get_mergeEnv, not_there, if_neg Bool.false_ne_true, found, Option.map_some,
    Option.some_inj]
  refine and_congr ⟨fun one => one.le, fun le => Nat.le_antisymm le some_pair⟩ ⟨fun same ends =>
    dropCarriageReturn_ne_self ends same, dropCarriageReturn_eq_self⟩

/-- Every key of the template is there after a merge. -/
theorem has_mergeEnv {pair : Line × Line} (member : pair ∈ pairs template) :
    has (mergeEnv existing template).1 pair.1 = true := by
  have there := isSome_get_written existing pair.1
  rw [has, get_mergeEnv]
  cases present : has existing pair.1 with
  | true => rw [if_pos rfl, there, present]
  | false =>
    rw [if_neg Bool.false_ne_true, Option.isSome_map, Option.isSome_iff_ne_none]
    intro none
    have listed : pair ∈ (pairs template).filter (·.1 = pair.1) :=
      List.mem_filter.mpr ⟨member, decide_eq_true rfl⟩
    rw [get_eq_none_iff.mp none] at listed
    exact List.not_mem_nil listed

theorem endsWithNewline_append (text : List Char) : endsWithNewline (text ++ ['\n']) = true := by
  rw [endsWithNewline, List.getLast?_concat]
  rfl

theorem base_base_append (text : List Char) (lines : List Line) :
    base (base text ++ joinLines lines) = base text ++ joinLines lines := by
  rcases List.eq_nil_or_concat lines with rfl | ⟨front, line, rfl⟩
  · rw [joinLines, List.flatMap_nil, List.append_nil]
    by_cases open' : (! endsWithNewline text && text ≠ []) = true
    · rw [base, base, if_pos open']
      exact base_of_endsWithNewline (endsWithNewline_append text)
    · have same : base text = text := if_neg open'
      rw [same, same]
  · rw [List.concat_eq_append, joinLines_concat, ← List.append_assoc, ← List.append_assoc]
    exact base_of_endsWithNewline (endsWithNewline_append _)

/-- Merging again adds nothing. -/
theorem mergeEnv_mergeEnv : mergeEnv (mergeEnv existing template).1 template =
    ((mergeEnv existing template).1, []) := by
  have nothing : missing (mergeEnv existing template).1 template = [] := by
    refine List.filter_eq_nil_iff.mpr fun pair member => ?_
    rw [has_mergeEnv existing template member]
    decide
  obtain ⟨again, -, -, empty, second⟩ := exists_mergeEnv (mergeEnv existing template).1 template
  obtain ⟨added, -, -, -, first⟩ := exists_mergeEnv existing template
  rw [second, empty nothing, nothing, first, base_base_append]
  exact Prod.ext (List.append_nil _) rfl

/-- A merge keeps the settings exactly when no value that matters ends in a carriage return and no
missing key is in the template twice. -/
theorem keepsSettings_iff : KeepsSettings existing template ↔ Plain existing template := by
  unfold Plain
  constructor
  · intro keeps
    have kept := keeps.kept
    have adds := keeps.adds
    simp only [map_parseEnvLines] at kept adds
    refine ⟨(kept_iff existing template).mp kept, fun key absent => ?_⟩
    rw [map_parseEnvLines] at absent ⊢
    cases found : get (pairs template) key with
    | none =>
      rw [get_eq_none_iff.mp found]
      exact ⟨Nat.zero_le _, fun value same => (Option.some_ne_none _ same.symm).elim⟩
    | some value =>
      have once := (adds_iff existing template absent found).mp (adds key value absent found)
      exact ⟨once.1, fun other same => Option.some.inj same ▸ once.2⟩
  · rintro ⟨last, once⟩
    obtain ⟨added, within, same, -, result⟩ := exists_mergeEnv existing template
    simp only [map_parseEnvLines] at once
    refine ⟨?_, ?_, ?_, ?_, mergeEnv_mergeEnv existing template⟩
    · rw [result, base]
      dsimp only
      split
      · exact ⟨['\n'], _, Or.inr rfl, rfl⟩
      · exact ⟨[], _, Or.inl rfl, by rw [List.append_nil existing]⟩
    · rw [map_parseEnvLines, map_parseEnvLines]
      exact (kept_iff existing template).mpr last
    · rw [map_parseEnvLines, map_parseEnvLines, map_parseEnvLines]
      intro key value absent found
      exact (adds_iff existing template absent found).mpr
        ⟨(once key absent).1, (once key absent).2 value found⟩
    · refine ⟨added, within, fun pair member => ?_, by rw [result]⟩
      rw [same] at member
      rw [map_parseEnvLines]
      exact Option.isNone_iff_eq_none.mp
        (Option.isSome_eq_false_iff.mp (Bool.not_eq_true' _ ▸ (List.mem_filter.mp member).2))

end merge

/-! ### `upsertEnvKey` changes one setting -/

theorem isLineOf_iff (nonempty : key ≠ []) :
    isLineOf key line = true ↔ ∃ value, pairOf line = some (key, value) := by
  unfold isLineOf
  dsimp only
  simp only [pairOf_eq_some_iff]
  split
  · next other =>
    refine iff_of_false Bool.false_ne_true fun ⟨_, nonblank, hash, _⟩ => ?_
    rcases (Bool.or_eq_true _ _).mp other with blank | is
    · exact nonblank (of_decide_eq_true blank)
    · exact hash (of_decide_eq_true is)
  · next other =>
    rw [Bool.or_eq_true, not_or, decide_eq_true_eq, decide_eq_true_eq] at other
    cases found : cut '=' line with
    | none => exact iff_of_false Bool.false_ne_true fun ⟨_, _, _, _, _, same, _⟩ => nomatch same
    | some parts =>
      dsimp only
      rw [Bool.and_eq_true, decide_eq_true_eq, decide_eq_true_eq]
      constructor
      · rintro ⟨-, same⟩
        exact ⟨parts.2, other.1, other.2, nonempty, parts.1, rfl, same⟩
      · rintro ⟨value, -, -, -, before, same, trimmed⟩
        obtain rfl := Option.some.inj same
        refine ⟨fun empty => nonempty ?_, trimmed⟩
        rw [← trimmed, show before = [] from empty]
        rfl

section upsert

variable {key value : Line} (proper : ProperKey key) (single : '\n' ∉ value)

/-- The lines with the key's replaced. -/
def replaced (key value : Line) (lines : List Line) : List Line :=
  lines.map fun line => if isLineOf key line then settingLine key value else line

theorem get_replaced (listed : List (Line × Line)) (other : Line) :
    get (listed.map fun pair => if pair.1 = key then (key, value) else pair) other =
      (get listed other).map fun old => if other = key then value else old := by
  have first : ∀ pair : Line × Line, (if pair.1 = key then (key, value) else pair).1 = pair.1 := by
    intro pair
    split
    · next same => exact same.symm
    · rfl
  have rows : (listed.filter ((fun pair => decide (pair.1 = other)) ∘
      fun pair => if pair.1 = key then (key, value) else pair)) = listed.filter (·.1 = other) :=
    List.filter_congr fun pair _ => by rw [Function.comp_apply, first]
  rw [get, List.filter_map, rows, List.getLast?_map, get, Option.map_map, Option.map_map]
  refine Option.map_congr fun pair member => ?_
  have is := of_decide_eq_true (List.mem_filter.mp (List.mem_of_getLast? member)).2
  rw [Function.comp_apply, Function.comp_apply, is]
  split
  · rfl
  · rfl

include proper

theorem filterMap_replaced (lines : List Line) :
    (replaced key value lines).filterMap pairOf =
      (lines.filterMap pairOf).map fun pair => if pair.1 = key then (key, value) else pair := by
  rw [replaced, List.filterMap_map, List.map_filterMap]
  refine List.filterMap_congr fun line _ => ?_
  rw [Function.comp_apply]
  split
  · next is =>
    obtain ⟨old, found⟩ := (isLineOf_iff proper.1).mp is
    rw [pairOf_settingLine proper, found, Option.map_some, if_pos rfl]
  · next other =>
    cases found : pairOf line with
    | none => rfl
    | some pair =>
      have different : ¬pair.1 = key := fun same =>
        other ((isLineOf_iff proper.1).mpr ⟨pair.2, by rw [found, ← same]⟩)
      rw [Option.map_some, if_neg different]

theorem any_isLineOf (content : List Char) :
    (splitLines content).any (isLineOf key) = (get (pairs content) key).isSome := by
  rw [Bool.eq_iff_iff, List.any_eq_true, Option.isSome_iff_ne_none]
  constructor
  · rintro ⟨line, member, is⟩ none
    obtain ⟨old, found⟩ := (isLineOf_iff proper.1).mp is
    exact List.filter_eq_nil_iff.mp (get_eq_none_iff.mp none) (key, old)
      (List.mem_filterMap.mpr ⟨line, member, found⟩) (decide_eq_true rfl)
  · intro there
    obtain ⟨pair, listed⟩ := List.exists_mem_of_ne_nil _ (mt get_eq_none_iff.mpr there)
    obtain ⟨member, same⟩ := List.mem_filter.mp listed
    obtain ⟨line, inside, found⟩ := List.mem_filterMap.mp member
    exact ⟨line, inside, (isLineOf_iff proper.1).mpr
      ⟨pair.2, by rw [found, ← of_decide_eq_true same]⟩⟩

include single

/-- Afterwards every line has a newline behind it. -/
theorem pairs_upsertEnvKey (content : List Char) :
    pairs (upsertEnvKey content key value) =
      written (replaced key value (splitLines content)) ++
        if ! (splitLines content).any (isLineOf key) then [(key, dropCarriageReturn value)]
        else [] := by
  have setting : '\n' ∉ settingLine key value := notMem_settingLine proper single
  have rows : (['\n'].intercalate (replaced key value (splitLines content))).splitOn '\n' =
      replaced key value (splitLines content) := by
    refine List.splitOn_intercalate _ (fun line member => ?_) fun empty => ?_
    · obtain ⟨old, inside, rfl⟩ := List.mem_map.mp member
      split
      · exact setting
      · exact notMem_of_mem_splitLines inside
    · exact List.append_ne_nil_of_right_ne_nil _ (List.cons_ne_nil _ _)
        (List.map_eq_nil_iff.mp empty)
  rw [upsertEnvKey, ← replaced]
  split
  · rw [pairs_base_append, rows, pairs_append, List.splitOn_eq_singleton setting, pairs_nil,
      List.append_nil, written_singleton, pairOf_settingLine proper]
    rfl
  · rw [pairs_closed, rows, List.append_nil]

/-- What the map has afterwards. -/
theorem get_upsertEnvKey (content : List Char) (other : Line) :
    get (pairs (upsertEnvKey content key value)) other =
      if other = key then some (dropCarriageReturn value)
      else (get (pairs content) other).map dropCarriageReturn := by
  rw [pairs_upsertEnvKey proper single, get_append, written, get_map, filterMap_replaced proper,
    get_replaced, any_isLineOf proper]
  change (get _ other).or (((get (pairs content) other).map _).map dropCarriageReturn) = _
  by_cases same : other = key
  · rw [if_pos same, ← same]
    cases get (pairs content) other with
    | none =>
      change (get [_] other).or _ = _
      rw [get_singleton, if_pos rfl, Option.some_or]
    | some old => exact congrArg some (congrArg dropCarriageReturn (if_pos rfl))
  · simp only [if_neg same, Option.map_id']
    cases get (pairs content) key with
    | none =>
      change (get [_] other).or _ = _
      rw [get_singleton, if_neg (Ne.symm same), Option.none_or]
    | some old => rfl

end upsert

/-- A merge keeps the settings exactly when no value that matters ends in a carriage return and no
missing key is in the template twice, and writing a single one, which sets it up to a carriage
return at its end, leaves the others as they are exactly when none of theirs ends in one. -/
theorem keeps_every_setting_iff (existing template key value : List Char) :
    (KeepsSettings existing template ↔ Plain existing template) ∧
      (ProperKey key → '\n' ∉ value →
        (parseEnvLines (upsertEnvKey existing key value)).map key =
          some (dropCarriageReturn value) ∧
        ((∀ other ≠ key, (parseEnvLines (upsertEnvKey existing key value)).map other =
            (parseEnvLines existing).map other) ↔
          ∀ other ≠ key, ∀ old, (parseEnvLines existing).map other = some old →
            old.getLast? ≠ some '\r')) := by
  refine ⟨keepsSettings_iff existing template, fun proper single => ?_⟩
  rw [map_parseEnvLines, map_parseEnvLines]
  refine ⟨by rw [get_upsertEnvKey proper single, if_pos rfl],
    forall₂_congr fun other different => ?_⟩
  rw [get_upsertEnvKey proper single, if_neg different]
  cases get (pairs existing) other with
  | none => exact iff_of_true rfl fun old same => (Option.some_ne_none _ same.symm).elim
  | some old =>
    rw [Option.map_some, Option.some_inj]
    exact ⟨fun same _ is ends => dropCarriageReturn_ne_self (Option.some.inj is ▸ ends) same,
      fun plain => dropCarriageReturn_eq_self (plain old rfl)⟩

theorem keeps_every_setting_iff_sample :
    (parseEnvLines (upsertEnvKey ['A', '='] ['B'] ['1'])).map ['B'] = some ['1'] ∧
      ((∀ other ≠ ['B'], (parseEnvLines (upsertEnvKey ['A', '='] ['B'] ['1'])).map other =
          (parseEnvLines ['A', '=']).map other) ↔
        ∀ other ≠ ['B'], ∀ old, (parseEnvLines ['A', '=']).map other = some old →
          old.getLast? ≠ some '\r') :=
  (keeps_every_setting_iff ['A', '='] [] ['B'] ['1']).2
    ⟨by decide, by decide +kernel, by decide, by decide, by decide⟩ (by decide)

/-- A value at the end of the settings loses a carriage return. -/
theorem not_keeps_every_setting : ¬∀ existing template, KeepsSettings existing template := by
  intro keeps
  have kept := (keeps ['A', '=', '1', '\r'] []).kept ['A'] ['1', '\r'] (by decide +kernel)
  exact absurd kept (by decide +kernel)

end SovaDesk.Console.EnvMerge
