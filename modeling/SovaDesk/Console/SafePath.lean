/-
This file models the paths that the console's file manager is confined to and says when a
confined path stays where it was checked.

A path is checked as a text, and where something is there already, its real path is checked
as well and returned. Where nothing is there the text is returned, though a directory above
may be a link that leads elsewhere: the real path of the parent is never asked for.

Paths are those of a POSIX system. What the process may not read counts as missing.
-/

import SovaDesk.Lib.FileTree

namespace SovaDesk.Console.SafePath

open FileTree

/-- The number of links the system follows in one path. -/
abbrev maxLinks : Nat := 40

def realpath (tree : Tree) (location : Location) : Option Location :=
  tree.walk maxLinks [] location

def existsSync (tree : Tree) (location : Location) : Bool := (realpath tree location).isSome

/-! ### Confined paths -/

/-- Whether the path from the root to a place is empty or does not begin with two dots. -/
def isPathInsideRoot (target root : Location) : Bool :=
  match relative root target with
  | [] => true
  | first :: _ => ! ['.', '.'].isPrefixOf first

section resolving

variable (tree : Tree) (cwd : Location)

def resolvePathWithinRoot (userPath rootDir : List Char) : Except String Location :=
  if userPath = [] then .error "Path is required"
  else if '\x00' ∈ userPath then .error "Invalid path"
  else
    let root := resolve cwd rootDir
    let abs := resolve cwd userPath
    if isPathInsideRoot abs root = false then .error "Path outside allowed directory"
    else match realpath tree abs with
      | some real =>
        if isPathInsideRoot real root then .ok real
        else .error "Path resolves outside allowed directory"
      | none => .ok abs

def resolvePathWithinAnyRoot (userPath : List Char) (roots : List (List Char)) :
    Except String Location :=
  if userPath = [] then .error "Path is required"
  else if '\x00' ∈ userPath then .error "Invalid path"
  else
    let abs := resolve cwd userPath
    let normalizedRoots := roots.map (resolve cwd)
    if normalizedRoots.any (isPathInsideRoot abs) = false then
      .error "Path outside allowed directory roots"
    else match realpath tree abs with
      | some real =>
        if normalizedRoots.any (isPathInsideRoot real) then .ok real
        else .error "Path resolves outside allowed directory roots"
      | none => .ok abs

def finalizedConfinedPath (userPath : List Char) (roots : List (List Char)) :
    Except String Location := do
  let abs ← resolvePathWithinAnyRoot tree cwd userPath roots
  let resolvedRoots := roots.map (resolve cwd)
  match realpath tree abs with
  | some real =>
    if resolvedRoots.any (isPathInsideRoot real) then .ok real
    else .error "Path resolves outside allowed directory roots"
  | none => .ok abs

def finalizedConfinedPathWithinRoot (userPath rootDir : List Char) : Except String Location := do
  let abs ← resolvePathWithinRoot tree cwd userPath rootDir
  let root := resolve cwd rootDir
  match realpath tree abs with
  | some real =>
    if isPathInsideRoot real root then .ok real
    else .error "Path resolves outside allowed directory"
  | none => .ok abs

/-! ### Changes -/

/-- The entry that the system reaches by a path: the last name, in the directory that the names
before it lead to. -/
def entry (location : Location) : Option Location :=
  location.getLast?.bind fun name => (realpath tree location.dropLast).map (· ++ [name])

/-- The entries that moving a path to another can change. -/
def renameConfinedWithinRoots (oldPath newPath : List Char) (roots : List (List Char)) :
    Except String (List Location) := do
  let a ← finalizedConfinedPath tree cwd oldPath roots
  let b ← finalizedConfinedPath tree cwd newPath roots
  return (entry tree a).toList ++ (entry tree b).toList

/-- The entry that removing a file can change. -/
def unlinkConfinedWithinRoots (userPath : List Char) (roots : List (List Char)) :
    Except String (List Location) := do
  let abs ← finalizedConfinedPath tree cwd userPath roots
  return (entry tree abs).toList

/-- The entry that making a directory can change. -/
def mkdirConfinedWithinRoots (userPath : List Char) (roots : List (List Char)) :
    Except String (List Location) := do
  let abs ← finalizedConfinedPath tree cwd userPath roots
  return (entry tree abs).toList

/-- The entry that removing a directory with everything below can change. -/
def rmDirConfinedWithinRoots (userPath : List Char) (roots : List (List Char)) :
    Except String (List Location) := do
  let abs ← finalizedConfinedPath tree cwd userPath roots
  return (entry tree abs).toList

/-! ### What is promised -/

/-- Where the system gets by following a path: the place itself, or else its parent directory. -/
def reached (location : Location) : Option Location :=
  if existsSync tree location then realpath tree location else realpath tree location.dropLast

/-- A place at or below one of the roots. -/
def Within (roots : List (List Char)) (location : Location) : Prop :=
  ∃ root ∈ roots, resolve cwd root <+: location

/-- What the path leads to lies in a root. -/
def Confined (roots : List (List Char)) (result : Except String Location) : Prop :=
  ∀ path, result = .ok path → ∀ location, reached tree path = some location →
    Within cwd roots location

/-- What can change lies in a root. -/
def ChangesWithin (roots : List (List Char)) (result : Except String (List Location)) : Prop :=
  ∀ changed, result = .ok changed → ∀ location ∈ changed, Within cwd roots location

/-- A path that is not refused as a text. -/
def Accepted (userPath : List Char) (roots : List (List Char)) : Prop :=
  userPath ≠ [] ∧ '\x00' ∉ userPath ∧
    (roots.map (resolve cwd)).any (isPathInsideRoot (resolve cwd userPath)) = true

/-- If nothing is at a path that is accepted, the real path of its parent lies in a root, or there
is none. -/
def ParentWithin (userPath : List Char) (roots : List (List Char)) : Prop :=
  Accepted cwd userPath roots → existsSync tree (resolve cwd userPath) = false →
    ∀ parent, realpath tree (resolve cwd userPath).dropLast = some parent → Within cwd roots parent

/-! ### Checked paths -/

theorem exists_of_bind_eq_ok {Value Result : Type} {result : Except String Value}
    {rest : Value → Except String Result} {last : Result} (done : result >>= rest = .ok last) :
    ∃ value, result = .ok value ∧ rest value = .ok last := by
  cases result with
  | error message => cases done
  | ok value => exact ⟨value, rfl, done⟩

variable {tree cwd}

theorem isPrefix_of_isPathInsideRoot {target root : Location}
    (inside : isPathInsideRoot target root = true) : root <+: target := by
  refine isPrefix_of_relative fun up => ?_
  rw [isPathInsideRoot] at inside
  split at inside
  · next same =>
    rw [same] at up
    exact (Option.some_ne_none _ up.symm).elim
  · next first others same =>
    rw [same] at up
    obtain rfl := Option.some.inj up
    exact absurd inside (by decide)

variable {location : Location}

theorem within_of_any {roots : List (List Char)}
    (inside : (roots.map (resolve cwd)).any (isPathInsideRoot location) = true) :
    Within cwd roots location := by
  obtain ⟨root, member, inside⟩ := List.any_eq_true.mp inside
  obtain ⟨text, listed, rfl⟩ := List.mem_map.mp member
  exact ⟨text, listed, isPrefix_of_isPathInsideRoot inside⟩

/-- Real paths have no links. -/
theorem real_of_realpath {real : Location} (walked : realpath tree location = some real) :
    tree.Real real :=
  tree.real_of_walk tree.directories_nil walked

theorem realpath_realpath {real : Location}
    (walked : realpath tree location = some real) : realpath tree real = some real :=
  (real_of_realpath walked).walk maxLinks

theorem existsSync_eq_false :
    existsSync tree location = false ↔ realpath tree location = none :=
  Option.isSome_eq_false_iff.trans Option.isNone_iff_eq_none

section checked

variable {userPath : List Char} {roots : List (List Char)} {path : Location}

/-- A checked path was accepted as a text, and it is either a real path in a root or the text
itself, with nothing there. -/
theorem resolvePathWithinAnyRoot_ok :
    resolvePathWithinAnyRoot tree cwd userPath roots = .ok path ↔
      Accepted cwd userPath roots ∧
        (realpath tree (resolve cwd userPath) = some path ∧
            (roots.map (resolve cwd)).any (isPathInsideRoot path) = true ∨
          realpath tree (resolve cwd userPath) = none ∧ resolve cwd userPath = path) := by
  constructor
  · intro checked
    rw [resolvePathWithinAnyRoot] at checked
    split at checked
    · cases checked
    · next named =>
      split at checked
      · cases checked
      · next text =>
        dsimp only at checked
        split at checked
        · cases checked
        · next inside =>
          refine ⟨⟨named, text, Bool.of_not_eq_false inside⟩, ?_⟩
          split at checked
          · next real found =>
            split at checked
            · next within =>
              obtain rfl := Except.ok.inj checked
              exact Or.inl ⟨found, within⟩
            · cases checked
          · next missing => exact Or.inr ⟨missing, Except.ok.inj checked⟩
  · rintro ⟨⟨named, text, inside⟩, ⟨found, within⟩ | ⟨missing, rfl⟩⟩
    · rw [resolvePathWithinAnyRoot, if_neg named, if_neg text]
      dsimp only
      rw [inside, found]
      exact if_pos within
    · rw [resolvePathWithinAnyRoot, if_neg named, if_neg text]
      dsimp only
      rw [inside, missing]
      rfl

/-- The second check finds what the first one found. -/
theorem finalizedConfinedPath_ok :
    finalizedConfinedPath tree cwd userPath roots = .ok path ↔
      resolvePathWithinAnyRoot tree cwd userPath roots = .ok path := by
  rw [finalizedConfinedPath]
  cases checked : resolvePathWithinAnyRoot tree cwd userPath roots with
  | error message => exact Iff.rfl
  | ok abs =>
    rw [show (Except.ok abs : Except String Location) = pure abs from rfl, pure_bind]
    obtain ⟨-, ⟨found, within⟩ | ⟨missing, rfl⟩⟩ := resolvePathWithinAnyRoot_ok.mp checked
    · rw [realpath_realpath found]
      exact iff_of_eq (congrArg (· = Except.ok path) (if_pos within))
    · rw [missing]
      exact Iff.rfl

variable {root : List Char}

theorem any_singleton_resolve :
    ([root].map (resolve cwd)).any (isPathInsideRoot location) =
      isPathInsideRoot location (resolve cwd root) :=
  Bool.or_false _

/-- One root is checked as a list of one. -/
theorem resolvePathWithinRoot_ok :
    resolvePathWithinRoot tree cwd userPath root = .ok path ↔
      resolvePathWithinAnyRoot tree cwd userPath [root] = .ok path := by
  rw [resolvePathWithinRoot, resolvePathWithinAnyRoot]
  simp only [any_singleton_resolve]
  split
  · exact ⟨nofun, nofun⟩
  · split
    · exact ⟨nofun, nofun⟩
    · split
      · exact ⟨nofun, nofun⟩
      · split
        · split
          · exact Iff.rfl
          · exact ⟨nofun, nofun⟩
        · exact Iff.rfl

theorem finalizedConfinedPathWithinRoot_ok :
    finalizedConfinedPathWithinRoot tree cwd userPath root = .ok path ↔
      resolvePathWithinAnyRoot tree cwd userPath [root] = .ok path := by
  rw [← resolvePathWithinRoot_ok, finalizedConfinedPathWithinRoot]
  cases checked : resolvePathWithinRoot tree cwd userPath root with
  | error message => exact Iff.rfl
  | ok abs =>
    rw [show (Except.ok abs : Except String Location) = pure abs from rfl, pure_bind]
    obtain ⟨-, ⟨found, within⟩ | ⟨missing, rfl⟩⟩ :=
      resolvePathWithinAnyRoot_ok.mp (resolvePathWithinRoot_ok.mp checked)
    · rw [realpath_realpath found]
      exact iff_of_eq (congrArg (· = Except.ok path) (if_pos (any_singleton_resolve ▸ within)))
    · rw [missing]
      exact Iff.rfl

end checked

/-! ### Where checked paths lead -/

section leading

variable {userPath : List Char} {roots : List (List Char)} {path location : Location}

theorem Within.append (within : Within cwd roots location) (below : Location) :
    Within cwd roots (location ++ below) := by
  obtain ⟨root, member, inside⟩ := within
  exact ⟨root, member, inside.trans (List.prefix_append location below)⟩

theorem reached_of_realpath {real : Location} (found : realpath tree location = some real) :
    reached tree location = some real := by
  rw [reached, existsSync, found]
  rfl

theorem reached_of_missing (missing : realpath tree location = none) :
    reached tree location = realpath tree location.dropLast := by
  rw [reached, existsSync, missing]
  rfl

/-- The entry of a real path is that path. -/
theorem eq_of_mem_entry (real : tree.Real path) (member : location ∈ entry tree path) :
    location = path := by
  obtain ⟨name, last, same⟩ := Option.bind_eq_some_iff.mp member
  have walked : realpath tree path.dropLast = some path.dropLast :=
    Tree.Real.walk (Or.inl real.dropLast) maxLinks
  rw [walked] at same
  rw [← Option.some.inj same]
  exact List.dropLast_append_getLast? name last

/-- What is made in a missing place is made in the real path of its parent. -/
theorem exists_parent_of_mem_entry (member : location ∈ entry tree path) :
    ∃ parent name, realpath tree path.dropLast = some parent ∧ location = parent ++ [name] := by
  obtain ⟨name, -, same⟩ := Option.bind_eq_some_iff.mp member
  obtain ⟨parent, walked, same⟩ := Option.map_eq_some_iff.mp same
  exact ⟨parent, name, walked, same.symm⟩

theorem confined_iff_parentWithin {result : Except String Location}
    (checked : ∀ path, result = .ok path ↔
      resolvePathWithinAnyRoot tree cwd userPath roots = .ok path) :
    Confined tree cwd roots result ↔ ParentWithin tree cwd userPath roots := by
  constructor
  · intro confined accepted missing parent walked
    have none := existsSync_eq_false.mp missing
    have returned := (checked _).mpr (resolvePathWithinAnyRoot_ok.mpr
      ⟨accepted, Or.inr ⟨none, rfl⟩⟩)
    exact confined _ returned parent ((reached_of_missing none).trans walked)
  · intro within path returned location leads
    obtain ⟨accepted, ⟨found, inside⟩ | ⟨missing, rfl⟩⟩ :=
      resolvePathWithinAnyRoot_ok.mp ((checked path).mp returned)
    · rw [reached_of_realpath (realpath_realpath found)] at leads
      obtain rfl := Option.some.inj leads
      exact within_of_any inside
    · rw [reached_of_missing missing] at leads
      exact within accepted (existsSync_eq_false.mpr missing) location leads

/-- An entry that is changed by a checked path lies in a root where the parent does. -/
theorem within_of_mem_entry (parentWithin : ParentWithin tree cwd userPath roots)
    (checked : finalizedConfinedPath tree cwd userPath roots = .ok path)
    (member : location ∈ entry tree path) : Within cwd roots location := by
  obtain ⟨accepted, ⟨found, inside⟩ | ⟨missing, rfl⟩⟩ :=
    resolvePathWithinAnyRoot_ok.mp (finalizedConfinedPath_ok.mp checked)
  · rw [eq_of_mem_entry (real_of_realpath found) member]
    exact within_of_any inside
  · obtain ⟨parent, name, walked, rfl⟩ := exists_parent_of_mem_entry member
    exact (parentWithin accepted (existsSync_eq_false.mpr missing) parent walked).append [name]

/-- A helper that changes the entry of its path changes nothing outside the roots. -/
theorem changesWithin_of_entry (parentWithin : ParentWithin tree cwd userPath roots) :
    ChangesWithin cwd roots (do
      let abs ← finalizedConfinedPath tree cwd userPath roots
      return (entry tree abs).toList) := by
  intro changed done location member
  obtain ⟨path, checked, same⟩ := exists_of_bind_eq_ok done
  obtain rfl := Except.ok.inj same
  exact within_of_mem_entry parentWithin checked (Option.mem_toList.mp member)

theorem changesWithin_rename {oldPath newPath : List Char}
    (old : ParentWithin tree cwd oldPath roots) (new : ParentWithin tree cwd newPath roots) :
    ChangesWithin cwd roots (renameConfinedWithinRoots tree cwd oldPath newPath roots) := by
  intro changed done location member
  obtain ⟨a, checkedOld, done⟩ := exists_of_bind_eq_ok done
  obtain ⟨b, checkedNew, same⟩ := exists_of_bind_eq_ok done
  obtain rfl := Except.ok.inj same
  rcases List.mem_append.mp member with member | member
  · exact within_of_mem_entry old checkedOld (Option.mem_toList.mp member)
  · exact within_of_mem_entry new checkedNew (Option.mem_toList.mp member)

end leading

end resolving

/-- Checked paths lead into the roots, and the helpers change nothing outside, precisely if the
real path of the parent lies in a root wherever nothing is at the path. -/
theorem confined_iff (tree : Tree) (cwd : Location) (oldPath newPath rootDir : List Char)
    (roots : List (List Char)) :
    (Confined tree cwd roots (finalizedConfinedPath tree cwd oldPath roots) ∧
        Confined tree cwd roots (finalizedConfinedPath tree cwd newPath roots) ∧
        ChangesWithin cwd roots (renameConfinedWithinRoots tree cwd oldPath newPath roots) ∧
        ChangesWithin cwd roots (unlinkConfinedWithinRoots tree cwd oldPath roots) ∧
        ChangesWithin cwd roots (mkdirConfinedWithinRoots tree cwd oldPath roots) ∧
        ChangesWithin cwd roots (rmDirConfinedWithinRoots tree cwd oldPath roots) ↔
      ParentWithin tree cwd oldPath roots ∧ ParentWithin tree cwd newPath roots) ∧
    (Confined tree cwd [rootDir] (finalizedConfinedPathWithinRoot tree cwd oldPath rootDir) ↔
      ParentWithin tree cwd oldPath [rootDir]) := by
  refine ⟨⟨?_, ?_⟩, confined_iff_parentWithin fun path => finalizedConfinedPathWithinRoot_ok⟩
  · rintro ⟨old, new, -⟩
    exact ⟨(confined_iff_parentWithin fun path => finalizedConfinedPath_ok).mp old,
      (confined_iff_parentWithin fun path => finalizedConfinedPath_ok).mp new⟩
  · rintro ⟨old, new⟩
    exact ⟨(confined_iff_parentWithin fun path => finalizedConfinedPath_ok).mpr old,
      (confined_iff_parentWithin fun path => finalizedConfinedPath_ok).mpr new,
      changesWithin_rename old new, changesWithin_of_entry old, changesWithin_of_entry old,
      changesWithin_of_entry old⟩

/-! ### A link in a root -/

def srv : Name := ['s', 'r', 'v']

def etc : Name := ['e', 't', 'c']

def out : Name := ['o', 'u', 't']

def new : Name := ['n', 'e', 'w']

/-- A path below the link. -/
def belowLink : List Char := '/' :: srv ++ '/' :: out ++ '/' :: new

/-- Two directories. In one of them there is a link to the other. -/
def linkedNode : Location → Option Node
  | [] => some .directory
  | [name] => if name = srv ∨ name = etc then some .directory else none
  | [name, below] => if name = srv ∧ below = out then some (.link ('/' :: etc)) else none
  | _ => none

def linked : Tree where
  node := linkedNode
  root := rfl
  parent := by
    intro location name present
    rcases location with _ | ⟨first, _ | ⟨second, rest⟩⟩
    · rfl
    · obtain ⟨⟨rfl, -⟩, -⟩ := ite_ne_right_iff.mp present
      rfl
    · cases rest with
      | nil => exact absurd rfl present
      | cons third rest => exact absurd rfl present

/-- A new path below a link is returned unchecked, and the directory made by it is outside of the
only root. -/
theorem linked_unconfined :
    linked.Real (resolve [] ('/' :: srv)) ∧
      finalizedConfinedPath linked [] belowLink ['/' :: srv] = .ok [srv, out, new] ∧
      mkdirConfinedWithinRoots linked [] belowLink ['/' :: srv] = .ok [[etc, new]] ∧
      ¬ Confined linked [] ['/' :: srv] (finalizedConfinedPath linked [] belowLink ['/' :: srv]) ∧
      ¬ ChangesWithin [] ['/' :: srv]
        (mkdirConfinedWithinRoots linked [] belowLink ['/' :: srv]) := by
  have checked : finalizedConfinedPath linked [] belowLink ['/' :: srv] =
      .ok [srv, out, new] := by rfl
  have made : mkdirConfinedWithinRoots linked [] belowLink ['/' :: srv] = .ok [[etc, new]] := by rfl
  have outside : ∀ location, etc ∈ location.head? → ¬ Within [] ['/' :: srv] location := by
    rintro location first ⟨root, member, below, rfl⟩
    obtain rfl := List.mem_singleton.mp member
    have same : srv = etc := Option.some.inj first
    exact absurd same (by decide)
  refine ⟨Or.inl (linked.directories_nil.concat rfl rfl), checked, made, ?_, ?_⟩
  · intro confined
    exact outside _ rfl (confined _ checked [etc] rfl)
  · intro within
    exact outside _ rfl (within _ made _ (List.mem_singleton_self _))

end SovaDesk.Console.SafePath
