/-
This file settles what the two lookups by a text pattern find: the devices with a tag,
and the configuration entries under a prefix.

The tags of a device are one text, and its elements are between commas; the pattern
asks for the tag anywhere in that text and in either case. The wildcards of a tag are
escaped, the escape character is not, so a backslash in a tag takes the character after
it along. The prefix of a configuration key is not escaped at all. So either lookup can
find too much, and with a backslash in the tag also too little; it is exact where none of
the stored rows is one that its pattern mistakes.
-/

import SovaDesk.Db.Peers
import SovaDesk.Lib.LikePattern

namespace SovaDesk.Db.Patterns

open LikePattern

/-! ### The lookups -/

/-- The marks of a pattern without an ESCAPE clause. -/
def likeMarks : Marks Char where
  any := '%'
  one := '_'
  escape := none

/-- The marks of a pattern under the clause that makes the backslash its escape character. -/
def backslashMarks : Marks Char := { likeMarks with escape := some '\\' }

/-- The replacer of the tag lookup. -/
def escapeWildcards (tag : List Char) : List Char :=
  tag.flatMap fun character =>
    if character = '%' ∨ character = '_' then ['\\', character] else [character]

/-- The columns that the tag lookup selects: all but the GUID. -/
def selected (row : Peer) : Peer := { row with guid := "" }

/-- The tables that the lookups read: the devices, and the configuration. -/
structure Tables where
  peers : Table String Peer
  serverConfig : Table String String

/-- `ListPeersByTag`. -/
def Tables.listPeersByTag (s : Tables) (tag : String) : List (String × Peer) :=
  let escaped := escapeWildcards tag.toList
  let pattern := '%' :: escaped ++ ['%']
  let rows := s.peers.entries.filter fun row =>
    row.2.softDeleted = some false ∧
      like backslashMarks Char.toLower pattern row.2.tags.toList = true
  (rows.map fun row => (row.1, selected row.2)).mergeSort fun first second => first.1 ≤ second.1

/-- `ListConfigByPrefix`. -/
def Tables.listConfigByPrefix (s : Tables) (keyPrefix : String) : List (String × String) :=
  let rows := s.serverConfig.entries.filter fun row =>
    like likeMarks Char.toLower (keyPrefix.toList ++ ['%']) row.1.toList
  rows.map fun row => (row.1, row.2)

/-! ### What they name -/

/-- The tag is one element of the comma-separated tags of the device. -/
def HasTag (tag : String) (row : Peer) : Prop := tag.toList ∈ row.tags.toList.splitOn ','

instance (tag : String) (row : Peer) : Decidable (HasTag tag row) :=
  inferInstanceAs (Decidable (_ ∈ _))

/-- The tag lookup returns the devices that are not deleted and have the tag, each once. -/
def TagExact (s : Tables) (tag : String) : Prop :=
  (s.listPeersByTag tag).Perm
    ((s.peers.entries.filter fun row => row.2.softDeleted ≠ some true ∧ HasTag tag row.2).map
      fun row => (row.1, selected row.2))

/-- The prefix lookup returns the entries whose key starts with the prefix, each once. -/
def PrefixExact (s : Tables) (keyPrefix : String) : Prop :=
  (s.listConfigByPrefix keyPrefix).Perm
    ((s.serverConfig.entries.filter fun row => keyPrefix.toList <+: row.1.toList).map
      fun row => (row.1, row.2))

/-! ### What the pattern of a tag says -/

/-- The tag as its pattern is read: a backslash hides itself and names the character after it,
unless that is a wildcard, which comes with a backslash of its own and is left to act as one; a
backslash at the end names the mark that closes the pattern. -/
def spelled : List Char → List (Token Char)
  | [] => [.any]
  | [character] =>
    if character = '\\' then [.literal '%'] else [.literal character, .any]
  | character :: next :: rest =>
    if character = '\\' then
      if next = '%' then .literal '\\' :: .any :: spelled rest
      else if next = '_' then .literal '\\' :: .one :: spelled rest
      else .literal next :: spelled rest
    else .literal character :: spelled (next :: rest)

theorem escapeWildcards_cons (character : Char) (rest : List Char) :
    escapeWildcards (character :: rest) =
      (if character = '%' ∨ character = '_' then ['\\', character] else [character]) ++
        escapeWildcards rest :=
  List.flatMap_cons

/-- A character other than the backslash stands for itself once it is escaped. -/
theorem tokens_escapeWildcards_cons {character : Char} (plain : character ≠ '\\')
    (rest : List Char) :
    tokens backslashMarks (escapeWildcards (character :: rest) ++ ['%']) =
      (tokens backslashMarks (escapeWildcards rest ++ ['%'])).map (.literal character :: ·) := by
  rw [escapeWildcards_cons]
  by_cases wildcard : character = '%' ∨ character = '_'
  · rw [if_pos wildcard]
    exact tokens_escaped rfl character _
  · rw [if_neg wildcard]
    rw [not_or] at wildcard
    have notEscape : some character ≠ backslashMarks.escape := fun same =>
      plain (Option.some.inj same)
    rw [List.singleton_append, List.cons_append, tokens_cons notEscape,
      token_of_ne wildcard.1 wildcard.2]

theorem tokens_escapeWildcards (tag : List Char) :
    tokens backslashMarks (escapeWildcards tag ++ ['%']) = some (spelled tag) := by
  induction tag using spelled.induct with
  | case1 => decide
  | case2 => decide
  | case3 character plain =>
    rw [tokens_escapeWildcards_cons plain, spelled, if_neg plain]
    rfl
  | case4 rest inductionHypothesis =>
    rw [spelled, if_pos rfl, if_pos rfl, escapeWildcards_cons, escapeWildcards_cons]
    show tokens backslashMarks ('\\' :: '\\' :: '%' :: (escapeWildcards rest ++ ['%'])) = _
    rw [tokens_escaped rfl, tokens_cons (by decide), inductionHypothesis]
    rfl
  | case5 rest notAny inductionHypothesis =>
    rw [spelled, if_pos rfl, if_neg notAny, if_pos rfl, escapeWildcards_cons,
      escapeWildcards_cons]
    show tokens backslashMarks ('\\' :: '\\' :: '_' :: (escapeWildcards rest ++ ['%'])) = _
    rw [tokens_escaped rfl, tokens_cons (by decide), inductionHypothesis]
    rfl
  | case6 next rest notAny notOne inductionHypothesis =>
    rw [spelled, if_pos rfl, if_neg notAny, if_neg notOne, escapeWildcards_cons,
      escapeWildcards_cons, if_neg (not_or.mpr ⟨notAny, notOne⟩)]
    show tokens backslashMarks ('\\' :: next :: (escapeWildcards rest ++ ['%'])) = _
    rw [tokens_escaped rfl, inductionHypothesis]
    rfl
  | case7 character next rest plain inductionHypothesis =>
    rw [tokens_escapeWildcards_cons plain, inductionHypothesis, spelled, if_neg plain]
    rfl

/-- A tag without a backslash stands for itself. -/
theorem spelled_of_notMem (tag : List Char) (clean : '\\' ∉ tag) :
    spelled tag = tag.map .literal ++ [.any] := by
  induction tag using spelled.induct with
  | case1 => rfl
  | case2 => exact absurd List.mem_cons_self clean
  | case3 character plain => exact if_neg plain
  | case4 | case5 | case6 => exact absurd List.mem_cons_self clean
  | case7 character next rest plain inductionHypothesis =>
    rw [spelled, if_neg plain, inductionHypothesis fun member =>
      clean (List.mem_cons_of_mem character member)]
    rfl

/-- A text has the tag in it, up to the case of ASCII letters. -/
def ContainsFolded (tag text : List Char) : Prop :=
  ∃ before part after, text = before ++ part ++ after ∧
    part.map Char.toLower = tag.map Char.toLower

/-- The pattern of the tag lookup matches what is spelled like the tag. -/
theorem like_tag_iff (tag text : List Char) :
    like backslashMarks Char.toLower ('%' :: escapeWildcards tag ++ ['%']) text = true ↔
      Fits Char.toLower (.any :: spelled tag) text := by
  have reads : tokens backslashMarks ('%' :: escapeWildcards tag ++ ['%']) =
      some (.any :: spelled tag) := by
    rw [List.cons_append, tokens_cons (by decide), tokens_escapeWildcards]
    rfl
  exact like_iff reads

example : like backslashMarks Char.toLower ('%' :: escapeWildcards ['a', '\\', 'b'] ++ ['%'])
    ['a', '\\', 'b'] = false := by decide

/-- Without a backslash in the tag the pattern asks for the tag in the text. -/
theorem fits_spelled_iff {tag : List Char} (clean : '\\' ∉ tag) (text : List Char) :
    Fits Char.toLower (.any :: spelled tag) text ↔ ContainsFolded tag text := by
  rw [spelled_of_notMem tag clean]
  exact fits_contains

theorem infix_intercalate {part separator : List Char} : ∀ {parts : List (List Char)},
    part ∈ parts → part <:+: separator.intercalate parts
  | [only], member => by
    obtain rfl := List.mem_singleton.mp member
    rw [List.intercalate_singleton]
  | first :: second :: rest, member => by
    rw [List.intercalate_cons_cons, List.append_assoc]
    rcases List.mem_cons.mp member with rfl | later
    · exact (List.prefix_append part _).isInfix
    · have inside : part <:+: separator ++ separator.intercalate (second :: rest) :=
        (infix_intercalate later).trans (List.suffix_append separator _).isInfix
      exact inside.trans (List.suffix_append first _).isInfix

/-- An element of a comma-separated text is part of the text. -/
theorem containsFolded_of_mem_splitOn {tag text : List Char} (member : tag ∈ text.splitOn ',') :
    ContainsFolded tag text := by
  have inside : tag <:+: [','].intercalate (text.splitOn ',') := infix_intercalate member
  rw [List.intercalate_splitOn] at inside
  obtain ⟨before, after, rfl⟩ := inside
  exact ⟨before, tag, after, rfl, rfl⟩

/-! ### Exactness, row by row -/

/-- Two selections from rows that are read apart are the same rows if they agree on every row. -/
theorem perm_map_filter_iff {Row Result : Type} {rows : List Row} {read : Row → Result}
    (distinct : (rows.map read).Nodup) {found wanted : Row → Bool} :
    ((rows.filter found).map read).Perm ((rows.filter wanted).map read) ↔
      ∀ row ∈ rows, found row = wanted row := by
  have member : ∀ (keep : Row → Bool) (row : Row), row ∈ rows →
      (read row ∈ (rows.filter keep).map read ↔ keep row = true) := by
    intro keep row stored
    rw [List.mem_map]
    constructor
    · rintro ⟨other, kept, same⟩
      obtain ⟨listed, passes⟩ := List.mem_filter.mp kept
      rwa [← List.inj_on_of_nodup_map distinct listed stored same]
    · intro passes
      exact ⟨row, List.mem_filter.mpr ⟨stored, passes⟩, rfl⟩
  constructor
  · intro same row stored
    rw [Bool.eq_iff_iff, ← member found row stored, ← member wanted row stored]
    exact same.mem_iff
  · intro agree
    rw [List.filter_congr agree]

/-- The rows of a table are read apart when their keys are read. -/
theorem nodup_map_entries {Value Result : Type} (table : Table String Value)
    (read : (Sigma fun _ : String => Value) → String × Result)
    (keyed : ∀ row, (read row).1 = row.1) : (table.entries.map read).Nodup := by
  refine List.Nodup.of_map Prod.fst ?_
  rw [List.map_map]
  have keys : table.entries.map (Prod.fst ∘ read) = table.keys :=
    List.map_congr_left fun row _ => keyed row
  rw [keys]
  exact table.keys_nodup

/-- The pattern of a tag is right about a stored text. Without a backslash in the tag it says that
the text has the tag in it, in either case, only where the tag is an element. -/
def PatternRight (tag text : List Char) : Prop :=
  if '\\' ∈ tag then Fits Char.toLower (.any :: spelled tag) text ↔ tag ∈ text.splitOn ','
  else ContainsFolded tag text → tag ∈ text.splitOn ','

theorem patternRight_iff (tag text : List Char) :
    PatternRight tag text ↔
      (Fits Char.toLower (.any :: spelled tag) text ↔ tag ∈ text.splitOn ',') := by
  unfold PatternRight
  by_cases backslash : '\\' ∈ tag
  · rw [if_pos backslash]
  · rw [if_neg backslash, fits_spelled_iff backslash]
    exact ⟨fun right => ⟨right, containsFolded_of_mem_splitOn⟩, fun both => both.mp⟩

/-- The tag lookup is exact where no device with the tag has a deletion flag left unset and the
pattern is right about every device with the flag cleared. -/
theorem tagExact_iff (s : Tables) (tag : String) :
    TagExact s tag ↔
      ∀ id row, s.peers.lookup id = some row →
        (row.softDeleted = none → ¬ HasTag tag row) ∧
        (row.softDeleted = some false → PatternRight tag.toList row.tags.toList) := by
  have distinct := nodup_map_entries s.peers (fun row => (row.1, selected row.2)) fun _ => rfl
  rw [TagExact, Tables.listPeersByTag, (List.mergeSort_perm _ _).congr_left,
    perm_map_filter_iff distinct]
  constructor
  · intro agree id row stored
    have same := decide_eq_decide.mp (agree ⟨id, row⟩ (Table.mem_entries_iff.mpr stored))
    rw [like_tag_iff] at same
    constructor
    · intro unset has
      have notDeleted : row.softDeleted ≠ some true := by
        rw [unset]
        exact (Option.some_ne_none true).symm
      have cleared := (same.mpr ⟨notDeleted, has⟩).1
      rw [unset] at cleared
      exact Option.some_ne_none false cleared.symm
    · intro live
      rw [patternRight_iff]
      have notDeleted : row.softDeleted ≠ some true := by
        rw [live]
        decide
      exact ⟨fun fit => (same.mp ⟨live, fit⟩).2, fun has => (same.mpr ⟨notDeleted, has⟩).2⟩
  · intro right row stored
    obtain ⟨unset, live⟩ := right row.1 row.2 (Table.mem_entries_iff.mp stored)
    rw [decide_eq_decide, like_tag_iff]
    cases flag : row.2.softDeleted with
    | none =>
      exact iff_of_false (fun found => Option.some_ne_none false found.1.symm)
        fun wanted => unset flag wanted.2
    | some deleted =>
      cases deleted with
      | true =>
        exact iff_of_false (fun found => Bool.noConfusion (Option.some.inj found.1))
          fun wanted => wanted.1 rfl
      | false =>
        have agree := (patternRight_iff _ _).mp (live flag)
        exact and_congr (iff_of_true rfl (by decide)) agree

/-- A key starts like the prefix: with characters that fit the prefix, in which an underscore is any
character, a percent sign any text and a letter of the ASCII alphabet either case of it. -/
def StartsLike (keyPrefix key : List Char) : Prop :=
  ∃ start rest, key = start ++ rest ∧
    Fits Char.toLower (keyPrefix.map (token likeMarks)) start

theorem like_prefix_iff (keyPrefix key : List Char) :
    like likeMarks Char.toLower (keyPrefix ++ ['%']) key = true ↔ StartsLike keyPrefix key := by
  rw [like_iff (tokens_of_no_escape rfl _), List.map_append]
  exact fits_append_any

theorem startsLike_of_prefix {keyPrefix key : List Char} (starts : keyPrefix <+: key) :
    StartsLike keyPrefix key := by
  obtain ⟨rest, rfl⟩ := starts
  exact ⟨keyPrefix, rest, rfl, fits_self likeMarks keyPrefix⟩

/-- The prefix lookup is exact where every key that starts like the prefix starts with it. -/
theorem prefixExact_iff (s : Tables) (keyPrefix : String) :
    PrefixExact s keyPrefix ↔
      ∀ key value, s.serverConfig.lookup key = some value →
        StartsLike keyPrefix.toList key.toList → keyPrefix.toList <+: key.toList := by
  have distinct := nodup_map_entries s.serverConfig (fun row => (row.1, row.2)) fun _ => rfl
  rw [PrefixExact, Tables.listConfigByPrefix, perm_map_filter_iff distinct]
  constructor
  · intro agree key value stored like_
    have same := agree ⟨key, value⟩ (Table.mem_entries_iff.mpr stored)
    rw [(like_prefix_iff _ _).mpr like_] at same
    exact of_decide_eq_true same.symm
  · intro starts row stored
    rw [Bool.eq_iff_iff, like_prefix_iff, decide_eq_true_iff]
    exact ⟨starts row.1 row.2 (Table.mem_entries_iff.mp stored), startsLike_of_prefix⟩

/-! ### The lookups together -/

/-- Each lookup returns exactly what its text names if and only if no stored row is one of those
that its pattern takes for another. -/
theorem lookups_exact_iff (s : Tables) (tag keyPrefix : String) :
    (TagExact s tag ∧ PrefixExact s keyPrefix) ↔
      (∀ id row, s.peers.lookup id = some row →
        (row.softDeleted = none → ¬ HasTag tag row) ∧
        (row.softDeleted = some false → PatternRight tag.toList row.tags.toList)) ∧
      ∀ key value, s.serverConfig.lookup key = some value →
        StartsLike keyPrefix.toList key.toList → keyPrefix.toList <+: key.toList :=
  and_congr (tagExact_iff s tag) (prefixExact_iff s keyPrefix)

/-- One device whose only tag contains another tag, and one key in the other case of a prefix. -/
def mistaken : Tables where
  peers := ⟨[⟨"100", { tags := "server2" }⟩], by simp⟩
  serverConfig := ⟨[⟨"PENDING-DEVICE-7", ""⟩], by simp⟩

/-- The device is listed under the other tag, and the entry under the prefix. -/
theorem lookups_not_exact :
    ¬ TagExact mistaken "server" ∧ ¬ PrefixExact mistaken "pending_device_" := by
  constructor
  · intro tagExact
    have right := ((tagExact_iff _ _).mp tagExact "100" { tags := "server2" } rfl).2 rfl
    have contains : ContainsFolded "server".toList "server2".toList :=
      ⟨[], "server".toList, ['2'], by decide, rfl⟩
    rw [PatternRight, if_neg (by decide)] at right
    exact absurd (right contains) (by decide)
  · intro prefixExact
    have found : StartsLike "pending_device_".toList "PENDING-DEVICE-7".toList := by
      rw [← like_prefix_iff]
      decide +kernel
    have starts := (prefixExact_iff _ _).mp prefixExact "PENDING-DEVICE-7" "" rfl found
    exact absurd starts (by decide)

end SovaDesk.Db.Patterns
