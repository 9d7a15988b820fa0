/-
This file models the agent's file browser on a file system without symbolic links, and proves what
it can touch.

A path of the user is cleaned as an absolute path, so no two dots are left in it, and joined behind
the root. For an absolute root the result therefore always is the root or below it, whatever the
path, and the test of the prefix that follows never fails. Reading, writing and deleting stay there,
with one exception: a file that is written gets its missing directories, and for a root that does
not exist these begin above it.
-/

import Mathlib.Data.Char
import Mathlib.Data.List.Lex
import SovaDesk.Lib.FileTree
import SovaDesk.Lib.Table

namespace SovaDesk.Agent.FileBrowser

open FileTree (Name Location Entries components resolve isAbsolute isDot isDotDot descend slashed)

/-! ### `path/filepath` -/

abbrev Text := List Char

/-- What `Clean` does with one more name. -/
def push (rooted : Bool) (out : List Name) (name : Name) : List Name :=
  if isDot name then out
  else if isDotDot name then
    if rooted || out.getLast?.any (! isDotDot ·) then out.dropLast else out ++ [name]
  else out ++ [name]

def clean (path : Text) : Text :=
  let out := (components path).foldl (push (isAbsolute path)) []
  if isAbsolute path then '/' :: slashed out else if out = [] then ['.'] else slashed out

/-- `Join`, of two paths. -/
def join (path more : Text) : Text :=
  if path ≠ [] then clean (path ++ '/' :: more) else if more ≠ [] then clean more else []

/-- What `Getwd` returns. -/
structure WorkingDirectory where
  text : Text
  absolute : isAbsolute text = true

section paths

variable (workingDirectory : Except String WorkingDirectory)

def abs (path : Text) : Except String Text :=
  if isAbsolute path then .ok (clean path)
  else workingDirectory.map fun directory => join directory.text path

/-- `Dir`: the path up to its last slash. -/
def dir (path : Text) : Text := clean (path.reverse.dropWhile (· ≠ '/')).reverse

/-- `Rel`, from a path to one below it. -/
def rel (base target : Text) : Text :=
  match FileTree.relative (resolve [] base) (resolve [] target) with
  | [] => ['.']
  | names => slashed names

/-! ### `safePath` -/

def safePath (root userPath : Text) : Except String Text := do
  let cleaned := clean ('/' :: userPath)
  let path := join root cleaned
  let absRoot ← (abs workingDirectory root).mapError ("invalid root: " ++ ·)
  let absPath ← (abs workingDirectory path).mapError ("invalid path: " ++ ·)
  if absRoot.isPrefixOf absPath then .ok absPath else .error "path traversal denied"

end paths

/-! ### The file system -/

inductive Node where
  | directory
  | file (content : List UInt8)
  deriving DecidableEq

/-- What is where. Everything but the root is in a directory. -/
structure Disk where
  nodes : Table Location Node
  root : nodes.lookup [] = some .directory
  parent (place : Location) :
    place ≠ [] → nodes.lookup place ≠ none → nodes.lookup place.dropLast = some .directory

/-- The calls that the system can refuse, for a reason that is none of the file browser's. -/
inductive Call where
  | openAt | stat | readDir | read | mkdir | write | remove
  deriving DecidableEq

abbrev Refusals := Call → Location → Option String

/-- What the system tells of an entry. -/
structure FileInfo where
  size : Int
  modified : Int
  mode : String

namespace Disk

def node (disk : Disk) (place : Location) : Option Node := disk.nodes.lookup place

/-- The names in a directory. -/
def children (disk : Disk) (place : Location) : List Name :=
  disk.nodes.keys.filterMap fun child =>
    if child.dropLast = place then child.getLast? else none

def IsFile (disk : Disk) (place : Location) : Bool :=
  match disk.node place with
  | some (.file _) => true
  | _ => false

theorem dropLast_ne {place : Location} (nonempty : place ≠ []) : place.dropLast ≠ place := by
  intro same
  have shorter := congrArg List.length same
  rw [List.length_dropLast] at shorter
  exact absurd shorter (Nat.ne_of_lt (Nat.pred_lt (mt List.length_eq_zero_iff.mp nonempty)))

theorem children_ne_nil {disk : Disk} {place : Location} (nonempty : place ≠ [])
    (present : disk.nodes.lookup place ≠ none) : disk.children place.dropLast ≠ [] := by
  have key : place ∈ disk.nodes.keys :=
    AList.mem_keys.mpr (AList.lookup_isSome.mp (Option.isSome_iff_ne_none.mpr present))
  exact List.ne_nil_of_mem (List.mem_filterMap.mpr
    ⟨place, key, (if_pos rfl).trans (List.getLast?_eq_some_getLast nonempty)⟩)

/-- Why there is nothing at a place. -/
def absent (disk : Disk) (place : Location) : String :=
  if place.inits.any disk.IsFile then "not a directory" else "no such file or directory"

/-- Put a file where there is no directory, or a directory where there is nothing. -/
def put (disk : Disk) (place : Location) (node : Node) : Disk :=
  if fits : place ≠ [] ∧ disk.node place.dropLast = some .directory ∧
      disk.node place ≠ some .directory then
    { nodes := disk.nodes.insert place node
      root := by
        rw [Table.lookup_insert_if, if_neg (Ne.symm fits.1)]
        exact disk.root
      parent := fun other nonempty present => by
        rw [Table.lookup_insert_if] at present ⊢
        by_cases same : other = place
        · rw [same, if_neg fun shorter => dropLast_ne fits.1 shorter]
          exact fits.2.1
        · rw [if_neg same] at present
          have above := disk.parent other nonempty present
          rwa [if_neg fun moved : other.dropLast = place => fits.2.2 (moved ▸ above)] }
  else disk

/-- Remove a file or an empty directory. -/
def erase (disk : Disk) (place : Location) : Disk :=
  if fits : place ≠ [] ∧ disk.children place = [] then
    { nodes := AList.erase place disk.nodes
      root := by
        rw [Table.lookup_erase_if, if_neg (Ne.symm fits.1)]
        exact disk.root
      parent := fun other nonempty present => by
        rw [Table.lookup_erase_if] at present ⊢
        by_cases same : other = place
        · exact absurd (if_pos same) present
        · rw [if_neg same] at present
          have inhabited := children_ne_nil nonempty present
          rw [if_neg fun moved : other.dropLast = place => inhabited (moved ▸ fits.2)]
          exact disk.parent other nonempty present }
  else disk

variable (refuse : Refusals)

/-- What a call that needs something at a place finds there. -/
def find (disk : Disk) (call : Call) (place : Location) : Except String Node :=
  match refuse call place, disk.node place with
  | some reason, _ => .error reason
  | none, some node => .ok node
  | none, none => .error (disk.absent place)

/-- `MkdirAll`, of what is left below a place. The first error ends it. -/
def mkdirAll (disk : Disk) (place : Location) : List Name → Disk × Option String
  | [] => (disk, none)
  | name :: rest =>
    let below := place ++ [name]
    match disk.node below with
    | some .directory => mkdirAll disk below rest
    | some (.file _) => (disk, some "not a directory")
    | none =>
      match refuse .mkdir below with
      | some reason => (disk, some reason)
      | none => mkdirAll (disk.put below .directory) below rest

/-- `OpenFile` for writing, which creates the file if there is none. -/
def openFile (disk : Disk) (place : Location) : Disk × Option String :=
  match refuse .openAt place, disk.node place with
  | some reason, _ => (disk, some reason)
  | none, some .directory => (disk, some "is a directory")
  | none, some (.file _) => (disk, none)
  | none, none =>
    if disk.node place.dropLast = some .directory then (disk.put place (.file []), none)
    else (disk, some (disk.absent place))

/-- `Remove`, of a file or of an empty directory. -/
def remove (disk : Disk) (place : Location) : Disk × Option String :=
  match refuse .remove place, disk.node place with
  | some reason, _ => (disk, some reason)
  | none, none => (disk, some (disk.absent place))
  | none, some .directory =>
    if disk.children place = [] then (disk.erase place, none)
    else (disk, some "directory not empty")
  | none, some (.file _) => (disk.erase place, none)

/-- Write bytes into a file's content. Up to where they begin it is filled with zeros. -/
def written (content : List UInt8) (offset : Nat) (data : List UInt8) : List UInt8 :=
  if data = [] then content
  else content.take offset ++ List.replicate (offset - content.length) 0 ++ data ++
    content.drop (offset + data.length)

def contentAt (disk : Disk) (place : Location) : List UInt8 :=
  match disk.node place with
  | some (.file content) => content
  | _ => []

end Disk

/-! ### The operations -/

structure FileEntry where
  name : Name
  isDir : Bool
  size : Int
  modified : Int
  mode : String

/-- What `ReadFileChunk` returns. -/
structure Chunk where
  data : List UInt8
  totalSize : Int
  done : Bool
  error : Option String

section operations

variable (workingDirectory : Except String WorkingDirectory) (refuse : Refusals)

/-- The place a path names. -/
def placeOf (path : Text) : Location := resolve [] path

/-- `ListDirectory`. An entry that is gone when the system is asked about it is left out. -/
def listDirectory (info : Location → Option FileInfo) (disk : Disk) (root path : Text) :
    Except String (List FileEntry) := do
  let place := placeOf (← safePath workingDirectory root path)
  match disk.find refuse .readDir place with
  | .error reason => .error ("read dir: " ++ reason)
  | .ok (.file _) => .error "read dir: not a directory"
  | .ok .directory =>
    let entries := (disk.children place).mergeSort (fun first second => decide (first ≤ second))
    .ok (entries.filterMap fun name => (info (place ++ [name])).map fun told =>
      { name := name
        isDir := decide (disk.node (place ++ [name]) = some .directory)
        size := told.size
        modified := told.modified
        mode := told.mode })

/-- What `ReadFileChunk` does with a file that is open. The system gives at least one byte of those
asked for where there is one, and `given` is how many it would give otherwise. -/
def readContent (refused : Option String) (content : List UInt8) (offset length : Int)
    (given : Nat) : Chunk :=
  let totalSize : Int := content.length
  let length := if length ≤ 0 ∨ 1024 * 1024 < length then 64 * 1024 else length
  if totalSize ≤ offset then ⟨[], totalSize, true, none⟩
  else if offset < 0 then ⟨[], totalSize, false, some "invalid argument"⟩
  else
    match refused with
    | some reason => ⟨[], totalSize, false, some reason⟩
    | none =>
      let data := (content.drop offset.toNat).take (max 1 (min given length.toNat))
      ⟨data, totalSize, decide (totalSize ≤ offset + data.length), none⟩

def readFileChunk (disk : Disk) (root path : Text) (offset length : Int) (given : Nat) : Chunk :=
  match safePath workingDirectory root path with
  | .error reason => ⟨[], 0, false, some reason⟩
  | .ok fp =>
    match disk.find refuse .openAt (placeOf fp), refuse .stat (placeOf fp) with
    | .error reason, _ => ⟨[], 0, false, some ("open: " ++ reason)⟩
    | .ok _, some reason => ⟨[], 0, false, some reason⟩
    | .ok .directory, none => ⟨[], 0, false, some "cannot read directory"⟩
    | .ok (.file content), none =>
      readContent (refuse .read (placeOf fp)) content offset length given

/-- `WriteFileChunk`, with the file system behind it. -/
def writeFileChunk (disk : Disk) (root path : Text) (offset : Int) (data : List UInt8) :
    Disk × Int × Option String :=
  match safePath workingDirectory root path with
  | .error reason => (disk, 0, some reason)
  | .ok fp =>
    match disk.mkdirAll refuse [] (placeOf (dir fp)) with
    | (disk, some reason) => (disk, 0, some reason)
    | (disk, none) =>
      match disk.openFile refuse (placeOf fp) with
      | (disk, some reason) => (disk, 0, some reason)
      | (disk, none) =>
        if offset < 0 then (disk, 0, some "invalid argument")
        else
          match refuse .write (placeOf fp) with
          | some reason => (disk, 0, some reason)
          | none =>
            let content := Disk.written (disk.contentAt (placeOf fp)) offset.toNat data
            (disk.put (placeOf fp) (.file content), data.length, none)

/-- `DeletePath`, with the file system behind it. -/
def deletePath (disk : Disk) (root path : Text) : Disk × Option String :=
  match safePath workingDirectory root path with
  | .error reason => (disk, some reason)
  | .ok fp =>
    if abs workingDirectory root = .ok fp then (disk, some "cannot delete root directory")
    else disk.remove refuse (placeOf fp)

end operations

/-! ### Cleaned paths -/

theorem push_rooted : push true = descend := by
  funext out name
  rw [push, descend, Bool.true_or, if_pos rfl]

variable {path : Text}

/-- An absolute path is cleaned to the text of its place. -/
theorem clean_of_absolute (absolute : isAbsolute path = true) :
    clean path = '/' :: slashed (resolve [] path) := by
  unfold clean resolve
  dsimp only
  rw [absolute, if_pos rfl, if_pos rfl, push_rooted]

theorem isAbsolute_append (absolute : isAbsolute path = true) (more : Text) :
    isAbsolute (path ++ more) = true := by
  cases path with
  | nil => exact absurd absolute (by decide)
  | cons c path => exact absolute

theorem ne_nil_of_isAbsolute (absolute : isAbsolute path = true) : path ≠ [] :=
  fun empty => absurd (empty ▸ absolute) (by decide)

variable {names : List Name}

/-- Joined behind an absolute path, the text of a place leads to the place behind it. -/
theorem join_slashed (absolute : isAbsolute path = true) (entries : Entries names) :
    join path ('/' :: slashed names) = '/' :: slashed (resolve [] path ++ names) := by
  rw [join, if_pos (ne_nil_of_isAbsolute absolute),
    clean_of_absolute (isAbsolute_append absolute _), resolve,
    if_pos (isAbsolute_append absolute _), FileTree.components_append, List.foldl_append,
    FileTree.foldl_descend_slashed entries, resolve, if_pos absolute]

/-- The text of a place begins with that of the places above it. -/
theorem isPrefix_slashed (above below : List Name) :
    '/' :: slashed above <+: '/' :: slashed (above ++ below) := by
  refine List.cons_prefix_cons.mpr ⟨rfl, ?_⟩
  by_cases first : above = []
  · exact first ▸ List.nil_prefix
  · by_cases second : below = []
    · rw [second, List.append_nil]
    · rw [FileTree.slashed_append first second]
      exact List.prefix_append _ _

/-- The place that a root and a user's path stand for: the names of the root, then those of the
path cleaned as an absolute one. -/
def resolved (root userPath : Text) : Location := placeOf root ++ placeOf ('/' :: userPath)

theorem entries_userPath (userPath : Text) : Entries (placeOf ('/' :: userPath)) :=
  FileTree.entries_resolve rfl []

theorem entries_resolved {root : Text} (absolute : isAbsolute root = true) (userPath : Text) :
    Entries (resolved root userPath) := fun name member =>
  (List.mem_append.mp member).elim (FileTree.entries_resolve absolute [] name)
    (entries_userPath userPath name)

section safePath

variable {workingDirectory : Except String WorkingDirectory} {root : Text}
  (absolute : isAbsolute root = true) (userPath : Text)

include absolute

/-- For an absolute root every path is accepted, and leads to the root or below it. -/
theorem safePath_eq :
    safePath workingDirectory root userPath = .ok ('/' :: slashed (resolved root userPath)) := by
  have joined : join root (clean ('/' :: userPath)) = '/' :: slashed (resolved root userPath) := by
    rw [clean_of_absolute rfl]
    exact join_slashed absolute (entries_userPath userPath)
  have absRoot : abs workingDirectory root = .ok ('/' :: slashed (placeOf root)) := by
    rw [abs, if_pos absolute, clean_of_absolute absolute, placeOf]
  have absPath : abs workingDirectory ('/' :: slashed (resolved root userPath)) =
      .ok ('/' :: slashed (resolved root userPath)) := by
    rw [abs, if_pos (by rfl), clean_of_absolute (by rfl),
      FileTree.resolve_slashed (entries_resolved absolute userPath)]
  unfold safePath
  dsimp only
  rw [joined, absRoot, absPath]
  exact if_pos (List.isPrefixOf_iff_prefix.mpr (isPrefix_slashed _ _))

theorem placeOf_safePath : placeOf ('/' :: slashed (resolved root userPath)) =
    resolved root userPath :=
  FileTree.resolve_slashed (entries_resolved absolute userPath) []

/-- The relative form of the path that is returned stands for it again. -/
theorem safePath_rel :
    safePath workingDirectory root (rel root ('/' :: slashed (resolved root userPath))) =
      .ok ('/' :: slashed (resolved root userPath)) := by
  have again : placeOf ('/' :: rel root ('/' :: slashed (resolved root userPath))) =
      placeOf ('/' :: userPath) := by
    have below : FileTree.relative (resolve [] root)
        (resolve [] ('/' :: slashed (resolved root userPath))) = placeOf ('/' :: userPath) :=
      (congrArg _ (placeOf_safePath absolute userPath)).trans (FileTree.relative_append _ _)
    rw [rel, below]
    split
    · next empty => exact empty.symm
    · exact FileTree.resolve_slashed (entries_userPath userPath) []
  rw [safePath_eq absolute, resolved, again, resolved]

end safePath

theorem placeOf_clean (absolute : isAbsolute path = true) :
    placeOf (clean path) = placeOf path := by
  rw [clean_of_absolute absolute]
  exact FileTree.resolve_slashed (FileTree.entries_resolve absolute []) []

theorem dir_append {front name : Text} (plain : '/' ∉ name) :
    dir (front ++ '/' :: name) = clean (front ++ ['/']) := by
  have dropped : (front ++ '/' :: name).reverse.dropWhile (· ≠ '/') = '/' :: front.reverse := by
    rw [List.reverse_append, List.reverse_cons, List.append_assoc, List.singleton_append,
      List.dropWhile_append_of_pos, List.dropWhile_cons_of_neg (by decide)]
    intro c member
    exact decide_eq_true fun slash : c = '/' => plain (slash ▸ List.mem_reverse.mp member)
  rw [dir, dropped, List.reverse_cons, List.reverse_reverse]

/-- The directory of a place's text is the text of the place above. -/
theorem placeOf_dir (entries : Entries names) :
    placeOf (dir ('/' :: slashed names)) = names.dropLast := by
  rcases List.eq_nil_or_concat names with rfl | ⟨above, name, rfl⟩
  · decide +kernel
  · rw [List.concat_eq_append] at entries ⊢
    have plain := (entries name (List.mem_append_right _ List.mem_cons_self)).2
    rw [List.dropLast_concat]
    by_cases empty : above = []
    · rw [empty, List.nil_append, FileTree.slashed_singleton]
      exact (congrArg placeOf (@dir_append [] name plain)).trans (by decide +kernel)
    · have above' : Entries above := fun other member =>
        entries other (List.mem_append_left _ member)
      rw [FileTree.slashed_append empty (List.cons_ne_nil _ _), ← List.cons_append,
        FileTree.slashed_singleton, dir_append plain, placeOf_clean (by rfl), placeOf, resolve,
        if_pos (by rfl), FileTree.components_append, List.foldl_append,
        FileTree.foldl_descend_slashed above']
      rfl

/-! ### What the calls change -/

section disk

variable {refuse : Refusals} {disk : Disk} {place other : Location} {node : Node}

theorem Disk.node_put_of_ne (apart : other ≠ place) :
    (disk.put place node).node other = disk.node other := by
  unfold Disk.put
  split
  · exact (Table.lookup_insert_if ..).trans (if_neg apart)
  · rfl

theorem Disk.node_put (nonempty : place ≠ []) (inside : disk.node place.dropLast = some .directory)
    (fits : disk.node place ≠ some .directory) : (disk.put place node).node place = some node := by
  rw [Disk.put, dif_pos ⟨nonempty, inside, fits⟩]
  exact AList.lookup_insert _

theorem Disk.node_erase_of_ne (apart : other ≠ place) :
    (disk.erase place).node other = disk.node other := by
  unfold Disk.erase
  split
  · exact (Table.lookup_erase_if ..).trans (if_neg apart)
  · rfl

/-- The places above one where something is are directories. -/
theorem Disk.directory_of_isPrefix (present : disk.node place ≠ none) (above : other <+: place)
    (apart : other ≠ place) : disk.node other = some .directory := by
  obtain ⟨below, rfl⟩ := above
  induction below using List.reverseRecOn with
  | nil => exact absurd (List.append_nil _).symm apart
  | append_singleton below name inductionHypothesis =>
    rw [← List.append_assoc] at present
    have inside := disk.parent _ (List.append_ne_nil_of_right_ne_nil _ (List.cons_ne_nil _ _))
      present
    rw [List.dropLast_concat] at inside
    by_cases none : below = []
    · rwa [none, List.append_nil] at inside
    · refine inductionHypothesis (fun absent => ?_) fun same => none ?_
      · exact Option.some_ne_none _ (inside.symm.trans absent)
      · exact List.append_right_eq_self.mp same.symm

/-- `MkdirAll` makes directories where there was nothing, of the path's names only. -/
theorem Disk.mkdirAll_made (inside : disk.node place = some .directory)
    (changed : (disk.mkdirAll refuse place names).1.node other ≠ disk.node other) :
    disk.node other = none ∧ other <+: place ++ names ∧
      (disk.mkdirAll refuse place names).1.node other = some .directory := by
  induction names generalizing disk place with
  | nil => exact absurd rfl changed
  | cons name rest inductionHypothesis =>
    have next : place ++ name :: rest = place ++ [name] ++ rest := by
      rw [List.append_assoc, List.singleton_append]
    rw [mkdirAll] at changed ⊢
    rw [next]
    split
    · next is =>
      rw [is] at changed
      exact inductionHypothesis is changed
    · next is =>
      rw [is] at changed
      exact absurd rfl changed
    · next nothing =>
      rw [nothing] at changed
      dsimp only at changed
      split
      · next refused =>
        rw [refused] at changed
        exact absurd rfl changed
      · next allowed =>
        rw [allowed] at changed
        dsimp only at changed
        have made : (disk.put (place ++ [name]) .directory).node (place ++ [name]) =
            some .directory := by
          refine node_put (List.append_ne_nil_of_right_ne_nil _ (List.cons_ne_nil _ _)) ?_ ?_
          · rwa [List.dropLast_concat]
          · exact fun is => Option.some_ne_none _ (is.symm.trans nothing)
        by_cases same : other = place ++ [name]
        · subst same
          refine ⟨nothing, List.prefix_append _ _, ?_⟩
          by_contra kept
          have further := inductionHypothesis made (made ▸ kept)
          exact Option.some_ne_none _ (made.symm.trans further.1)
        · have kept : (disk.put (place ++ [name]) .directory).node other = disk.node other :=
            node_put_of_ne same
          rw [← kept] at changed ⊢
          exact inductionHypothesis made changed

theorem Disk.mkdirAll_of_directory (is : disk.node (place ++ names) = some .directory) :
    disk.mkdirAll refuse place names = (disk, none) := by
  induction names generalizing place with
  | nil => rfl
  | cons name rest inductionHypothesis =>
    have next : place ++ name :: rest = place ++ [name] ++ rest := by
      rw [List.append_assoc, List.singleton_append]
    rw [next] at is
    have first : disk.node (place ++ [name]) = some .directory := by
      by_cases last : rest = []
      · rwa [last, List.append_nil] at is
      · exact directory_of_isPrefix (is ▸ Option.some_ne_none _) (List.prefix_append _ _)
          fun same => last (List.append_right_eq_self.mp same.symm)
    rw [mkdirAll, first]
    exact inductionHypothesis is

theorem Disk.node_of_find {call : Call}
    (found : disk.find refuse call place = .ok node) : disk.node place = some node := by
  unfold find at found
  split at found
  · cases found
  · next is => exact is.trans (congrArg some (Except.ok.inj found))
  · cases found

theorem Disk.node_openFile_of_ne (apart : other ≠ place) :
    (disk.openFile refuse place).1.node other = disk.node other := by
  unfold openFile
  split
  · rfl
  · rfl
  · rfl
  · split
    · exact node_put_of_ne apart
    · rfl

theorem Disk.node_remove_of_ne (apart : other ≠ place) :
    (disk.remove refuse place).1.node other = disk.node other := by
  unfold remove
  split
  · rfl
  · rfl
  · split
    · exact node_erase_of_ne apart
    · rfl
  · exact node_erase_of_ne apart

end disk

/-! ### What the operations touch -/

section operations

variable {workingDirectory : Except String WorkingDirectory} {refuse : Refusals} {disk : Disk}
  {root userPath fp : Text} {place : Location}

/-- What is listed is in the directory that the path names. -/
theorem mem_of_listDirectory {info : Location → Option FileInfo} {entries : List FileEntry}
    (safe : safePath workingDirectory root userPath = .ok fp)
    (listed : listDirectory workingDirectory refuse info disk root userPath = .ok entries) :
    ∀ entry ∈ entries, disk.node (placeOf fp ++ [entry.name]) ≠ none := by
  unfold listDirectory at listed
  rw [safe] at listed
  dsimp only [bind, Except.bind] at listed
  split at listed
  · cases listed
  · cases listed
  · obtain rfl := Except.ok.inj listed
    intro entry member
    obtain ⟨name, child, told⟩ := List.mem_filterMap.mp member
    obtain ⟨-, -, rfl⟩ := Option.map_eq_some_iff.mp told
    obtain ⟨key, present, at'⟩ := List.mem_filterMap.mp (List.mem_mergeSort.mp child)
    obtain ⟨above, last⟩ := Option.ite_none_right_eq_some.mp at'
    have same : key = placeOf fp ++ [name] := by
      rw [← above]
      exact (List.dropLast_append_getLast? name last).symm
    exact Option.isSome_iff_ne_none.mp
      (AList.lookup_isSome.mpr (same ▸ AList.mem_keys.mpr present))

theorem isInfix_readContent {refused : Option String} {content : List UInt8} {offset length : Int}
    {given : Nat} : (readContent refused content offset length given).data <:+: content := by
  unfold readContent
  dsimp only
  split
  · exact List.nil_infix
  · split
    · exact List.nil_infix
    · split
      · exact List.nil_infix
      · exact (List.take_prefix _ _).isInfix.trans (List.drop_suffix _ _).isInfix

theorem content_of_readFileChunk {offset length : Int} {given : Nat}
    (safe : safePath workingDirectory root userPath = .ok fp)
    (read : (readFileChunk workingDirectory refuse disk root userPath offset length given).data ≠
      []) :
    ∃ content, disk.node (placeOf fp) = some (.file content) ∧
      (readFileChunk workingDirectory refuse disk root userPath offset length given).data <:+:
        content := by
  unfold readFileChunk at read ⊢
  rw [safe] at read ⊢
  dsimp only at read ⊢
  split at read
  · exact absurd rfl read
  · exact absurd rfl read
  · exact absurd rfl read
  · next content found statted =>
    exact ⟨content, Disk.node_of_find found, isInfix_readContent⟩

theorem node_writeFileChunk_of_ne {offset : Int} {data : List UInt8}
    (safe : safePath workingDirectory root userPath = .ok fp) (apart : place ≠ placeOf fp) :
    (writeFileChunk workingDirectory refuse disk root userPath offset data).1.node place =
      (disk.mkdirAll refuse [] (placeOf (dir fp))).1.node place := by
  unfold writeFileChunk
  rw [safe]
  dsimp only
  rcases disk.mkdirAll refuse [] (placeOf (dir fp)) with ⟨made, _ | reason⟩
  · have kept := @Disk.node_openFile_of_ne refuse made (placeOf fp) place apart
    rcases opening : made.openFile refuse (placeOf fp) with ⟨opened, _ | reason⟩
    · rw [opening] at kept
      dsimp only
      rw [opening]
      dsimp only
      split
      · exact kept
      · split
        · exact kept
        · exact (Disk.node_put_of_ne apart).trans kept
    · rw [opening] at kept
      dsimp only
      rw [opening]
      exact kept
  · rfl

/-- What a deletion changes is the place that the path names, and not the root. -/
theorem of_deletePath (safe : safePath workingDirectory root userPath = .ok fp)
    (changed : (deletePath workingDirectory refuse disk root userPath).1.node place ≠
      disk.node place) :
    place = placeOf fp ∧ abs workingDirectory root ≠ .ok fp := by
  unfold deletePath at changed
  rw [safe] at changed
  dsimp only at changed
  split at changed
  · exact absurd rfl changed
  · next other =>
    refine ⟨?_, other⟩
    by_contra apart
    exact changed (Disk.node_remove_of_ne apart)

end operations

/-- For an absolute root every path of the user is accepted and leads to the root or below it, to
the names of the path cleaned, as does its relative form again. What is listed or read is there,
what is deleted is below the root, and what is written is there too, except for the directories
above a root that does not exist: these are made. -/
theorem touches_inside {workingDirectory : Except String WorkingDirectory} {root : Text}
    (absolute : isAbsolute root = true) (userPath : Text) :
    ∃ fp, safePath workingDirectory root userPath = .ok fp ∧
      placeOf fp = placeOf root ++ placeOf (clean ('/' :: userPath)) ∧
      fp = '/' :: slashed (placeOf fp) ∧
      safePath workingDirectory root (rel root fp) = .ok fp ∧
      ∀ (refuse : Refusals) (disk : Disk),
        (∀ info entries, listDirectory workingDirectory refuse info disk root userPath =
          .ok entries → ∀ entry ∈ entries, disk.node (placeOf fp ++ [entry.name]) ≠ none) ∧
        (∀ offset length given,
          let read := readFileChunk workingDirectory refuse disk root userPath offset length given
          read.data ≠ [] →
            ∃ content, disk.node (placeOf fp) = some (.file content) ∧ read.data <:+: content) ∧
        (∀ offset data place,
          let after := (writeFileChunk workingDirectory refuse disk root userPath offset data).1
          after.node place ≠ disk.node place →
            placeOf root <+: place ∨
              disk.node (placeOf root) = none ∧ place <+: placeOf root ∧
                disk.node place = none ∧ after.node place = some .directory) ∧
        ∀ place, (deletePath workingDirectory refuse disk root userPath).1.node place ≠
          disk.node place → placeOf root <+: place ∧ place ≠ placeOf root := by
  have safe := @safePath_eq workingDirectory root absolute userPath
  have named := placeOf_safePath absolute userPath
  refine ⟨'/' :: slashed (resolved root userPath), safe, ?_, by rw [named],
    safePath_rel absolute userPath, fun refuse disk => ⟨fun info entries listed =>
      mem_of_listDirectory safe listed, fun offset length given read =>
      content_of_readFileChunk safe read, ?_, ?_⟩⟩
  · rw [named, resolved, placeOf_clean rfl]
  · intro offset data place after changed
    by_cases same : place = resolved root userPath
    · exact Or.inl (same ▸ List.prefix_append _ _)
    · have only := @node_writeFileChunk_of_ne workingDirectory refuse disk root userPath _ place
        offset data safe (named.symm ▸ same)
      rw [placeOf_dir (entries_resolved absolute userPath)] at only
      obtain ⟨nothing, above, made⟩ := Disk.mkdirAll_made disk.root (only ▸ changed)
      have upTo : place <+: resolved root userPath :=
        List.IsPrefix.trans above (List.dropLast_prefix _)
      rcases List.prefix_or_prefix_of_prefix (List.prefix_append _ _) upTo with inside | outside
      · exact Or.inl inside
      · by_cases root' : place = placeOf root
        · exact Or.inl (root' ▸ List.prefix_rfl)
        · refine Or.inr ⟨?_, outside, nothing, only.trans made⟩
          by_contra present
          have directory := Disk.directory_of_isPrefix present outside root'
          exact Option.some_ne_none _ (directory.symm.trans nothing)
  · intro place changed
    obtain ⟨rfl, other⟩ := of_deletePath safe changed
    rw [named]
    refine ⟨List.prefix_append _ _, fun same => other ?_⟩
    rw [same, abs, if_pos absolute, clean_of_absolute absolute, placeOf]

/-- A file system with nothing but its root. -/
def Disk.empty : Disk where
  nodes := AList.insert [] .directory ∅
  root := AList.lookup_insert _
  parent place nonempty present := by
    rw [Table.lookup_insert_if, if_neg nonempty] at present
    exact absurd (AList.lookup_empty place) present

def srv : Text := "/srv".toList

/-- It with a file that the agent has written. -/
def Disk.sample : Disk :=
  (writeFileChunk (.error "no directory") (fun _ _ => none) .empty srv "../a".toList 0 [1, 2]).1

theorem touches_inside_dots :
    ∃ fp, safePath (.error "no directory") srv "./b/../../a".toList = .ok fp ∧
      placeOf fp = ["srv".toList, "a".toList] ∧
      ∃ content, Disk.sample.node (placeOf fp) = some (.file content) ∧ [1] <:+: content := by
  obtain ⟨fp, safe, named, -, -, inside⟩ :=
    @touches_inside (.error "no directory") srv (by decide +kernel) "./b/../../a".toList
  have read := (inside (fun _ _ => none) .sample).2.1 0 1 1 (by decide +kernel)
  exact ⟨fp, safe, named.trans (by decide +kernel), read⟩

/-- The first file written below a root that does not exist makes directories above the root. -/
theorem makes_above :
    ¬∀ (root userPath : Text) (disk : Disk) (place : Location), isAbsolute root = true →
      (writeFileChunk (.error "no directory") (fun _ _ => none) disk root userPath 0 [1]).1.node
        place ≠ disk.node place → placeOf root <+: place := by
  intro inside
  have made := inside "/srv/files".toList "a".toList .empty ["srv".toList] (by decide +kernel)
    (by decide +kernel)
  revert made
  decide +kernel

end SovaDesk.Agent.FileBrowser
