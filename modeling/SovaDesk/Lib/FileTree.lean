/-
This file is a small library of file trees with symbolic links.

A path can be read in two ways. As a text it is normalised: a dot stands for nothing and two
dots for the name before them. The operating system walks it instead, from directory to
directory, and goes on from a link's target where the path names a link, up to a number of
links. The two agree on a path without links; where a walk ends is always such a path.
-/

import Mathlib.Data.List.Basic
import Mathlib.Data.List.Infix
import SovaDesk.Lib.Text

namespace FileTree

/-- A name in a directory. -/
abbrev Name := List Char

/-- The names from the root of the tree down to a place in it. -/
abbrev Location := List Name

/-! ### Paths as texts -/

/-- The parts between the slashes of a path. -/
def components : List Char → List Name
  | [] => [[]]
  | c :: rest =>
    if c = '/' then [] :: components rest
    else match components rest with
      | [] => [[c]]
      | first :: others => (c :: first) :: others

def isAbsolute (path : List Char) : Bool := path.head? == some '/'

/-- Whether a name stands for the place itself. -/
def isDot (name : Name) : Bool := name == [] || name == ['.']

def isDotDot (name : Name) : Bool := name == ['.', '.']

/-- Whether a name is the name of an entry. -/
def isEntry (name : Name) : Bool := ! isDot name && ! isDotDot name

def descend (location : Location) (name : Name) : Location :=
  if isDot name then location else if isDotDot name then location.dropLast else location ++ [name]

/-- The place a path stands for as a text, from a directory on if it is relative. -/
def resolve (directory : Location) (path : List Char) : Location :=
  (components path).foldl descend (if isAbsolute path then [] else directory)

/-- The path from one place to another. -/
def relative : Location → Location → List Name
  | [], to' => to'
  | origin, [] => List.replicate origin.length ['.', '.']
  | name :: origin, other :: to' =>
    if name = other then relative origin to'
    else List.replicate (origin.length + 1) ['.', '.'] ++ other :: to'

/-- A path that does not begin by going up leads further down. -/
theorem isPrefix_of_relative {origin destination : Location}
    (down : (relative origin destination).head? ≠ some ['.', '.']) : origin <+: destination := by
  induction origin generalizing destination with
  | nil => exact List.nil_prefix
  | cons name origin inductionHypothesis =>
    cases destination with
    | nil => exact absurd rfl down
    | cons other destination =>
      rw [relative] at down
      split at down
      · next same => exact List.cons_prefix_cons.mpr ⟨same, inductionHypothesis down⟩
      · exact absurd rfl down

/-! ### Trees -/

inductive Node where
  | directory
  | file
  | link (target : List Char)

/-- What is where. Everything but the root is in a directory. -/
structure Tree where
  node : Location → Option Node
  root : node [] = some .directory
  parent (location : Location) (name : Name) :
    node (location ++ [name]) ≠ none → node location = some .directory

/-- Walk a path's parts from a place on. What to do at a link is given. -/
def Tree.walkWith (tree : Tree) (follow : Location → List Name → Option Location) :
    Location → List Name → Option Location
  | current, [] => some current
  | current, name :: rest =>
    if isDot name then tree.walkWith follow current rest
    else if isDotDot name then tree.walkWith follow current.dropLast rest
    else match tree.node (current ++ [name]) with
      | none => none
      | some .directory => tree.walkWith follow (current ++ [name]) rest
      | some .file => if rest = [] then some (current ++ [name]) else none
      | some (.link target) =>
        follow (if isAbsolute target then [] else current) (components target ++ rest)

/-- Walk a path's parts from a place on, through a number of links at most. -/
def Tree.walk (tree : Tree) : Nat → Location → List Name → Option Location
  | 0 => tree.walkWith fun _ _ => none
  | links + 1 => tree.walkWith (tree.walk links)

/-! ### Places without links -/

/-- A place all of whose names are directories. -/
def Tree.Directories (tree : Tree) (location : Location) : Prop :=
  ∀ before name after, location = before ++ name :: after →
    isEntry name = true ∧ tree.node (before ++ [name]) = some .directory

/-- A place in a directory, or the root. Neither it nor any directory above it is a link. -/
def Tree.Real (tree : Tree) (location : Location) : Prop :=
  tree.Directories location ∨
    ∃ directory name, location = directory ++ [name] ∧ tree.Directories directory ∧
      isEntry name = true ∧ tree.node (directory ++ [name]) = some .file

section real

variable {tree : Tree} {location : Location}

theorem Tree.directories_nil : tree.Directories [] :=
  fun _ _ _ same => absurd same.symm (List.append_ne_nil_of_right_ne_nil _ (List.cons_ne_nil _ _))

theorem Tree.Directories.concat (directories : tree.Directories location) {name : Name}
    (entry : isEntry name = true) (is : tree.node (location ++ [name]) = some .directory) :
    tree.Directories (location ++ [name]) := by
  intro before other after same
  rcases List.eq_nil_or_concat after with rfl | ⟨front, last, rfl⟩
  · obtain ⟨rfl, rest⟩ := List.append_inj' same rfl
    obtain rfl := List.singleton_inj.mp rest
    exact ⟨entry, is⟩
  · rw [List.concat_eq_append, ← List.cons_append, ← List.append_assoc] at same
    exact directories before other front (List.append_inj' same rfl).1

theorem Tree.Directories.dropLast (directories : tree.Directories location) :
    tree.Directories location.dropLast := by
  intro before name after same
  rcases List.eq_nil_or_concat location with rfl | ⟨front, last, rfl⟩
  · exact tree.directories_nil before name after same
  · rw [List.concat_eq_append, List.dropLast_concat] at same
    refine directories before name (after ++ [last]) ?_
    rw [List.concat_eq_append, same, List.append_assoc, List.cons_append]

theorem Tree.Real.dropLast (real : tree.Real location) : tree.Directories location.dropLast := by
  rcases real with directories | ⟨directory, name, rfl, directories, -, -⟩
  · exact directories.dropLast
  · rwa [List.dropLast_concat]

theorem not_isDot_of_isEntry {name : Name} (entry : isEntry name = true) :
    ¬ isDot name = true ∧ ¬ isDotDot name = true := by
  obtain ⟨dot, dots⟩ := (Bool.and_eq_true _ _).mp entry
  exact ⟨Bool.not_eq_true _ ▸ (Bool.not_eq_true' _).mp dot,
    Bool.not_eq_true _ ▸ (Bool.not_eq_true' _).mp dots⟩

/-- A walk down directories goes where its names say. -/
theorem Tree.walkWith_append {follow : Location → List Name → Option Location} {current : Location}
    {names rest : List Name} (directories : tree.Directories (current ++ names)) :
    tree.walkWith follow current (names ++ rest) =
      tree.walkWith follow (current ++ names) rest := by
  induction names generalizing current with
  | nil => rw [List.nil_append, List.append_nil]
  | cons name names inductionHypothesis =>
    obtain ⟨entry, is⟩ := directories current name names rfl
    obtain ⟨dot, dots⟩ := not_isDot_of_isEntry entry
    have further : tree.Directories (current ++ [name] ++ names) := by
      rwa [List.append_assoc, List.singleton_append]
    rw [List.cons_append, walkWith, if_neg dot, if_neg dots, is]
    exact (inductionHypothesis further).trans (by rw [List.append_assoc, List.singleton_append])

theorem Tree.walk_eq_walkWith (tree : Tree) (links : Nat) :
    ∃ follow, tree.walk links = tree.walkWith follow := by
  cases links with
  | zero => exact ⟨_, rfl⟩
  | succ links => exact ⟨_, rfl⟩

/-- A place without links is where its path leads. -/
theorem Tree.Real.walk (real : tree.Real location) (links : Nat) :
    tree.walk links [] location = some location := by
  obtain ⟨follow, same⟩ := tree.walk_eq_walkWith links
  rw [same]
  rcases real with directories | ⟨directory, name, rfl, directories, entry, is⟩
  · have walked := @walkWith_append tree follow [] location [] directories
    rwa [List.append_nil, List.nil_append] at walked
  · obtain ⟨dot, dots⟩ := not_isDot_of_isEntry entry
    rw [walkWith_append (by exact directories), List.nil_append, walkWith, if_neg dot, if_neg dots,
      is]
    exact if_pos rfl

/-- Where a walk ends there are no links. -/
theorem Tree.real_of_walkWith {follow : Location → List Name → Option Location}
    (followed : ∀ base names found, tree.Directories base → follow base names = some found →
      tree.Real found)
    {current found : Location} {names : List Name} (directories : tree.Directories current)
    (walked : tree.walkWith follow current names = some found) : tree.Real found := by
  induction names generalizing current with
  | nil => exact Or.inl (Option.some.inj walked ▸ directories)
  | cons name rest inductionHypothesis =>
    rw [walkWith] at walked
    split at walked
    · exact inductionHypothesis directories walked
    · next dot =>
      split at walked
      · exact inductionHypothesis directories.dropLast walked
      · next dots =>
        have entry : isEntry name = true := by
          rw [isEntry, eq_false_of_ne_true dot, eq_false_of_ne_true dots]
          rfl
        split at walked
        · exact (Option.some_ne_none _ walked.symm).elim
        · next is => exact inductionHypothesis (directories.concat entry is) walked
        · next is =>
          obtain ⟨-, same⟩ := Option.ite_none_right_eq_some.mp walked
          exact Or.inr ⟨current, name, (Option.some.inj same).symm, directories, entry, is⟩
        · refine followed _ _ found ?_ walked
          split
          · exact tree.directories_nil
          · exact directories

theorem Tree.real_of_walk {links : Nat} {current found : Location} {names : List Name}
    (directories : tree.Directories current) (walked : tree.walk links current names = some found) :
    tree.Real found := by
  induction links generalizing current names found with
  | zero =>
    exact tree.real_of_walkWith (fun _ _ _ _ none => (Option.some_ne_none _ none.symm).elim)
      directories walked
  | succ links inductionHypothesis =>
    refine tree.real_of_walkWith (fun base names found further walk => ?_) directories walked
    exact inductionHypothesis further walk

end real

/-! ### Texts of places -/

/-- Names with slashes between them. -/
def slashed (names : List Name) : List Char := ['/'].intercalate names

/-- The names of a place: none of them is a dot or two, and none has a slash. -/
def Entries (names : List Name) : Prop := ∀ name ∈ names, isEntry name = true ∧ '/' ∉ name

theorem components_eq_splitOn (path : List Char) : components path = path.splitOn '/' := by
  induction path with
  | nil => rfl
  | cons c rest inductionHypothesis =>
    rw [components, List.splitOn_cons_eq_if_modifyHead, inductionHypothesis]
    refine if_congr beq_iff_eq.symm rfl ?_
    cases same : rest.splitOn '/' with
    | nil => exact absurd same (List.splitOn_ne_nil _ _)
    | cons first others => rfl

theorem components_append (path rest : List Char) :
    components (path ++ '/' :: rest) = components path ++ components rest := by
  rw [components_eq_splitOn, components_eq_splitOn, components_eq_splitOn,
    List.splitOn_append_cons_self]

theorem components_slashed {names : List Name} (nonempty : names ≠ []) (entries : Entries names) :
    components (slashed names) = names := by
  rw [components_eq_splitOn, slashed,
    List.splitOn_intercalate _ (fun name member => (entries name member).2) nonempty]

theorem slashed_singleton (name : Name) : slashed [name] = name := List.intercalate_singleton

theorem slashed_append {names more : List Name} (first : names ≠ []) (second : more ≠ []) :
    slashed (names ++ more) = slashed names ++ '/' :: slashed more := by
  unfold slashed
  induction names with
  | nil => exact absurd rfl first
  | cons name names inductionHypothesis =>
    by_cases last : names = []
    · rw [last, List.singleton_append, List.intercalate_singleton,
        List.intercalate_cons_of_ne_nil second, List.append_assoc, List.singleton_append]
    · have longer := List.append_ne_nil_of_left_ne_nil last more
      rw [List.cons_append, List.intercalate_cons_of_ne_nil longer, inductionHypothesis last,
        List.intercalate_cons_of_ne_nil last, List.append_assoc (name ++ _)]

theorem foldl_descend_of_entries {names : List Name} (entries : Entries names)
    (location : Location) : names.foldl descend location = location ++ names := by
  induction names generalizing location with
  | nil => exact (List.append_nil _).symm
  | cons name names inductionHypothesis =>
    obtain ⟨dot, dots⟩ := not_isDot_of_isEntry (entries name List.mem_cons_self).1
    rw [List.foldl_cons, inductionHypothesis fun other member =>
      entries other (List.mem_cons_of_mem _ member), descend, if_neg dot, if_neg dots,
      List.append_assoc, List.singleton_append]

/-- Going down a place's text from another place leads to the place behind it. -/
theorem foldl_descend_slashed {names : List Name} (entries : Entries names) (location : Location) :
    (components ('/' :: slashed names)).foldl descend location = location ++ names := by
  rw [components, if_pos rfl, List.foldl_cons]
  by_cases empty : names = []
  · rw [empty]
    exact (List.append_nil _).symm
  · rw [components_slashed empty entries]
    exact foldl_descend_of_entries entries location

theorem resolve_slashed {names : List Name} (entries : Entries names) (directory : Location) :
    resolve directory ('/' :: slashed names) = names := by
  rw [resolve, if_pos (by rfl), foldl_descend_slashed entries, List.nil_append]

theorem Entries.foldl_descend {location : Location} (entries : Entries location)
    {names : List Name} (plain : ∀ name ∈ names, '/' ∉ name) :
    Entries (names.foldl descend location) := by
  induction names generalizing location with
  | nil => exact entries
  | cons name names inductionHypothesis =>
    refine inductionHypothesis ?_ fun other member => plain other (List.mem_cons_of_mem _ member)
    rw [descend]
    split
    · exact entries
    · next dot =>
      split
      · exact fun other member => entries other (List.mem_of_mem_dropLast member)
      · next dots =>
        intro other member
        rcases List.mem_append.mp member with member | member
        · exact entries other member
        · obtain rfl := List.mem_singleton.mp member
          refine ⟨?_, plain other List.mem_cons_self⟩
          rw [isEntry, eq_false_of_ne_true dot, eq_false_of_ne_true dots]
          rfl

theorem entries_resolve {path : List Char} (absolute : isAbsolute path = true)
    (directory : Location) : Entries (resolve directory path) := by
  rw [resolve, if_pos absolute]
  exact Entries.foldl_descend (fun _ member => absurd member List.not_mem_nil)
    fun _ member => Text.notMem_of_mem_splitOn (components_eq_splitOn path ▸ member)

theorem relative_append (origin below : Location) : relative origin (origin ++ below) = below := by
  induction origin with
  | nil => rw [relative, List.nil_append]
  | cons name origin inductionHypothesis =>
    rw [List.cons_append, relative, if_pos rfl, inductionHypothesis]

end FileTree
