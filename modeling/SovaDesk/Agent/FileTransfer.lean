/-
This file settles whether a file that is moved in chunks arrives.

Read chunk after chunk, a file arrives whole, whatever lengths are asked for and however little the
system gives at a time. Written chunk after chunk, the bytes arrive too, but the file is not cut
behind them: what a longer file had there stays.
-/

import SovaDesk.Agent.FileBrowser

namespace SovaDesk.Agent.FileTransfer

open FileTree (Entries isAbsolute slashed)
open FileBrowser

/-- A system that refuses nothing. -/
def noRefusals : Refusals := fun _ _ => none

/-- A client that reads from an offset on, advances by what it has received and stops when it is
told that it is done. -/
def download (read : Nat → Int → Chunk) : Nat → Nat → Int → Option (List UInt8)
  | 0, _, _ => none
  | fuel + 1, turn, offset =>
    let chunk := read turn offset
    if chunk.error.isSome then none
    else if chunk.done then some chunk.data
    else (download read fuel (turn + 1) (offset + chunk.data.length)).map (chunk.data ++ ·)

/-- A client that writes chunks one behind the other. -/
def upload (write : Disk → Int → List UInt8 → Disk × Int × Option String) :
    Disk → Int → List (List UInt8) → Disk
  | disk, _, [] => disk
  | disk, offset, data :: rest =>
    upload write (write disk offset data).1 (offset + data.length) rest

/-! ### Reading -/

section reading

variable {content sent rest : List UInt8} (whole : content = sent ++ rest)

include whole

/-- A read before the end gives at least one byte, and is the last one if it gives them all. -/
theorem readContent_of_ne_nil (left : rest ≠ []) (length : Int) (given : Nat) :
    ∃ n, 0 < n ∧ readContent none content sent.length length given =
      ⟨rest.take n, content.length, decide (rest.length ≤ n), none⟩ := by
  have more := List.length_pos_of_ne_nil left
  have total : content.length = sent.length + rest.length := by rw [whole, List.length_append]
  unfold readContent
  dsimp only
  generalize asked : max 1 (min given _) = n
  rw [if_neg (by omega), if_neg (by omega), Int.toNat_natCast, whole, List.drop_left, ← whole]
  refine ⟨n, by omega, ?_⟩
  congr 1
  rw [decide_eq_decide, List.length_take]
  omega

/-- From every offset on the rest of the content arrives. -/
theorem download_readContent (ask : Nat → Int) (given : Nat → Nat) {fuel : Nat} (turn : Nat)
    (enough : rest.length < fuel) :
    download (fun turn offset => readContent none content offset (ask turn) (given turn))
      fuel turn sent.length = some rest := by
  induction fuel generalizing turn sent rest with
  | zero => exact absurd enough (Nat.not_lt_zero _)
  | succ fuel inductionHypothesis =>
    rw [download]
    by_cases left : rest = []
    · rw [left, List.append_nil] at whole
      rw [left, ← whole, readContent, if_pos (Int.le_refl _)]
      rfl
    · obtain ⟨n, pos, read⟩ := readContent_of_ne_nil whole left (ask turn) (given turn)
      rw [read]
      dsimp only
      rw [if_neg (by decide)]
      by_cases last : rest.length ≤ n
      · rw [if_pos (decide_eq_true last), List.take_of_length_le last]
      · have next : content = (sent ++ rest.take n) ++ rest.drop n := by
          rw [List.append_assoc, List.take_append_drop, whole]
        have shorter : (rest.drop n).length < fuel := by
          rw [List.length_drop]
          omega
        have further := inductionHypothesis next (turn + 1) shorter
        rw [List.length_append, Int.natCast_add] at further
        rw [if_neg fun all => last (of_decide_eq_true all), further, Option.map_some,
          List.take_append_drop]

end reading

/-! ### Writing -/

section writing

variable {workingDirectory : Except String WorkingDirectory} {root path fp : Text} {disk : Disk}
  {content : List UInt8}

theorem of_ite_ok {Value : Type} {test : Prop} [Decidable test] {value found : Value}
    {reason : String} (done : (if test then .ok value else .error reason : Except String Value) =
      .ok found) : test ∧ value = found := by
  split at done
  · next holds => exact ⟨holds, Except.ok.inj done⟩
  · cases done

/-- A path that is accepted is the text of its place. -/
theorem exists_of_safePath (safe : safePath workingDirectory root path = .ok fp) :
    ∃ names, Entries names ∧ fp = '/' :: slashed names := by
  have rooted : ∀ {text cleaned : Text}, isAbsolute text = true → clean text = cleaned →
      ∃ names, Entries names ∧ cleaned = '/' :: slashed names := fun absolute same =>
    ⟨_, FileTree.entries_resolve absolute [], same.symm.trans (clean_of_absolute absolute)⟩
  have ofAbs : ∀ {text}, FileBrowser.abs workingDirectory text = .ok fp →
      ∃ names, Entries names ∧ fp = '/' :: slashed names := by
    intro text found
    unfold FileBrowser.abs at found
    split at found
    · next absolute => exact rooted absolute (Except.ok.inj found)
    · cases workingDirectory with
      | error reason => cases found
      | ok directory =>
        have joined : join directory.text text = fp := Except.ok.inj found
        rw [join, if_pos (ne_nil_of_isAbsolute directory.absolute)] at joined
        exact rooted (isAbsolute_append directory.absolute _) joined
  unfold safePath at safe
  dsimp only at safe
  cases base : FileBrowser.abs workingDirectory root with
  | error reason =>
    rw [base] at safe
    cases safe
  | ok absRoot =>
    rw [base] at safe
    cases found : FileBrowser.abs workingDirectory (join root (clean ('/' :: path))) with
    | error reason =>
      rw [found] at safe
      cases safe
    | ok absPath =>
      rw [found] at safe
      obtain ⟨-, same⟩ := of_ite_ok safe
      exact ofAbs (same ▸ found)

/-- Writing into a file that is there changes its content. -/
theorem node_writeFileChunk (safe : safePath workingDirectory root path = .ok fp)
    (is : disk.node (placeOf fp) = some (.file content)) (offset : Nat) (data : List UInt8) :
    (writeFileChunk workingDirectory noRefusals disk root path offset data).1.node (placeOf fp) =
      some (.file (Disk.written content offset data)) := by
  obtain ⟨names, entries, rfl⟩ := exists_of_safePath safe
  have place : placeOf ('/' :: slashed names) = names := FileTree.resolve_slashed entries []
  rw [place] at is ⊢
  have nonempty : names ≠ [] := by
    intro empty
    rw [empty] at is
    cases disk.root.symm.trans is
  have inside : disk.node names.dropLast = some .directory :=
    disk.parent names nonempty fun absent => Option.some_ne_none _ (is.symm.trans absent)
  have made : disk.mkdirAll noRefusals [] names.dropLast = (disk, none) :=
    Disk.mkdirAll_of_directory inside
  have opened : disk.openFile noRefusals names = (disk, none) := by
    rw [Disk.openFile, is]
    rfl
  unfold writeFileChunk
  rw [safe]
  dsimp only
  rw [placeOf_dir entries, made]
  dsimp only
  rw [place, opened]
  dsimp only
  rw [if_neg (by omega), Int.toNat_natCast, Disk.contentAt, is]
  exact Disk.node_put nonempty inside fun directory => nomatch is.symm.trans directory

end writing

theorem written_behind (front behind data : List UInt8) :
    Disk.written (front ++ behind) front.length data =
      front ++ data ++ behind.drop data.length := by
  unfold Disk.written
  split
  · next empty => rw [empty, List.append_nil, List.length_nil, List.drop_zero]
  · rw [List.take_left, List.length_append, Nat.sub_eq_zero_of_le (Nat.le_add_right _ _),
      List.replicate_zero, List.append_nil, List.drop_append, List.drop_eq_nil_of_le
      (Nat.le_add_right _ _), List.nil_append, Nat.add_sub_cancel_left]

/-- The chunks replace as many bytes as they have. -/
theorem node_upload {workingDirectory : Except String WorkingDirectory} {root path fp : Text}
    (safe : safePath workingDirectory root path = .ok fp) {disk : Disk} (front : List UInt8)
    {behind : List UInt8} (chunks : List (List UInt8))
    (is : disk.node (placeOf fp) = some (.file (front ++ behind))) :
    (upload (fun disk => writeFileChunk workingDirectory noRefusals disk root path) disk
      front.length chunks).node (placeOf fp) =
        some (.file (front ++ chunks.flatten ++ behind.drop chunks.flatten.length)) := by
  induction chunks generalizing disk front behind with
  | nil => rw [List.flatten_nil, List.append_nil]; exact is
  | cons data rest inductionHypothesis =>
    have after := node_writeFileChunk safe is front.length data
    rw [written_behind] at after
    have further := inductionHypothesis (front ++ data) after
    rw [List.length_append, Int.natCast_add] at further
    rw [upload, further, List.flatten_cons, List.append_assoc front, List.drop_drop,
      List.length_append]

/-- A file that is read in chunks arrives whole, whatever lengths are asked for and however many
bytes the system gives at a time. A file that is written in chunks has the bytes that were sent
exactly when it was not longer before. -/
theorem transfers_iff {workingDirectory : Except String WorkingDirectory} {root path fp : Text}
    (safe : safePath workingDirectory root path = .ok fp) {disk : Disk} {content : List UInt8}
    (is : disk.node (placeOf fp) = some (.file content)) :
    (∀ (ask : Nat → Int) (given : Nat → Nat) (fuel : Nat), content.length < fuel →
      download (fun turn offset => readFileChunk workingDirectory noRefusals disk root path offset
        (ask turn) (given turn)) fuel 0 0 = some content) ∧
    ∀ chunks, (upload (fun disk => writeFileChunk workingDirectory noRefusals disk root path) disk
        0 chunks).node (placeOf fp) = some (.file chunks.flatten) ↔
      content.length ≤ chunks.flatten.length := by
  constructor
  · intro ask given fuel enough
    have read : (fun turn offset => readFileChunk workingDirectory noRefusals disk root path
        offset (ask turn) (given turn)) =
        fun turn offset => readContent none content offset (ask turn) (given turn) := by
      funext turn offset
      rw [readFileChunk, safe]
      dsimp only
      rw [Disk.find, is]
      rfl
    rw [read]
    exact download_readContent (List.nil_append content).symm ask given 0 enough
  · intro chunks
    have sent := node_upload safe [] chunks is
    rw [List.nil_append] at sent
    rw [show (0 : Int) = (([] : List UInt8).length : Int) from rfl, sent, Option.some_inj,
      Node.file.injEq, List.append_right_eq_self, List.drop_eq_nil_iff]

theorem transfers_iff_sample :
    download (fun turn offset => readFileChunk (.error "no directory") noRefusals .sample srv
      ['a'] offset (if turn = 0 then 1 else 0) 5) 3 0 0 = some [1, 2] ∧
    ((upload (fun disk => writeFileChunk (.error "no directory") noRefusals disk srv ['a']) .sample
      0 [[7], [8]]).node (placeOf "/srv/a".toList) = some (.file [7, 8]) ↔ 2 ≤ 2) := by
  have safe : safePath (.error "no directory") srv ['a'] = .ok "/srv/a".toList := by
    rw [safePath_eq (by decide +kernel)]
    exact congrArg Except.ok (by decide +kernel)
  have is : Disk.sample.node (placeOf "/srv/a".toList) = some (.file [1, 2]) := by decide +kernel
  exact ⟨(transfers_iff safe is).1 (fun turn => if turn = 0 then 1 else 0) (fun _ => 5) 3
    (by decide), (transfers_iff safe is).2 [[7], [8]]⟩

/-- One byte written over a file of two leaves the second. -/
theorem keeps_tail :
    ¬∀ (disk : Disk) (content : List UInt8) (chunks : List (List UInt8)),
      disk.node ["srv".toList, ['a']] = some (.file content) →
      (upload (fun disk => writeFileChunk (.error "no directory") noRefusals disk srv ['a']) disk 0
        chunks).node ["srv".toList, ['a']] = some (.file chunks.flatten) := by
  intro whole
  have tail := whole .sample [1, 2] [[7]] (by decide +kernel)
  revert tail
  decide +kernel

end SovaDesk.Agent.FileTransfer
