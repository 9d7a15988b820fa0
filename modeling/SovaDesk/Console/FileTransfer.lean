/-
This file models the console's file transfers: the record of each transfer, the temporary
files that chunks are written to, and the sweep that ends stale transfers.

A chunk is appended wherever the file ends, and only the chunk with the number zero starts
the file anew; whether a transfer is complete is judged by a count of bytes that also counts
repeats. So a file is what was announced if its chunks arrive once each and in order. A
message names a transfer by its id, and nobody asks whether the transfer is the sender's.

Every transfer has an announced file, which the code never sees: what its sender means to
send. The ids are drawn at random and taken to be new. Files are written and removed without
failures.
-/

import SovaDesk.Lib.System
import SovaDesk.Lib.Table
import Mathlib.Algebra.Ring.Nat

namespace SovaDesk.Console.FileTransfer

open Transition

abbrev Bytes := List UInt8

abbrev maxChunkSize : Nat := 262144
abbrev maxFileSize : Nat := 4294967296
abbrev transferTimeout : Nat := 1800000

/-! ### Transfers -/

inductive Status where
  | pending
  | active
  | completed
  | failed
  | cancelled
  deriving DecidableEq

/-- A transfer that was given up. -/
def Status.Ended (status : Status) : Prop := status = .cancelled ∨ status = .failed

instance (status : Status) : Decidable status.Ended := inferInstanceAs (Decidable (_ ∨ _))

def Status.text : Status → String
  | .pending => "pending"
  | .active => "active"
  | .completed => "completed"
  | .failed => "failed"
  | .cancelled => "cancelled"

/-- The name of a temporary file. The id has a fixed length, so the name tells both of its parts. -/
structure TempPath where
  id : String
  safeName : String
  deriving DecidableEq

structure TransferRecord where
  id : String
  direction : String
  deviceId : String
  filename : String
  size : Nat
  mimeType : String
  status : Status
  bytesTransferred : Nat
  totalChunks : Nat
  chunksReceived : Nat
  tempPath : TempPath
  createdBy : String
  createdAt : Nat
  updatedAt : Nat

/-- What a transfer is asked for with. -/
structure Request where
  direction : String
  deviceId : String
  filename : String
  size : Nat
  mimeType : String
  createdBy : String

/-- A text, or another one in the place of none. -/
def orElse (text fallback : String) : String := if text = "" then fallback else text

/-- What follows the last slash of a path, up to the slashes it ends in. -/
def basename (path : List Char) : List Char :=
  ((path.reverse.dropWhile (· = '/')).takeWhile (· ≠ '/')).reverse

def isSafe (c : Char) : Bool :=
  ('a' ≤ c && c ≤ 'z') || ('A' ≤ c && c ≤ 'Z') || ('0' ≤ c && c ≤ '9') || c == '.' || c == '_' ||
    c == '-'

/-- A file name with an underscore for each code unit that is not safe. -/
def safeName (filename : String) : String :=
  orElse (String.ofList ((basename (orElse filename "file").toList).flatMap fun c =>
    if isSafe c then [c] else if c.toNat < 0x10000 then ['_'] else ['_', '_'])) "file"

structure State where
  transfers : Table String TransferRecord
  files : Table TempPath Bytes
  issued : List String
  announced : String → Bytes

def createTransfer (s : State) (request : Request) (id : String) (now : Nat) :
    Except String TransferRecord × State :=
  if maxFileSize < request.size then
    (.error
      ("File too large: " ++ request.size.repr ++ " bytes (max " ++ maxFileSize.repr ++ ")"), s)
  else
    let name := safeName request.filename
    let record : TransferRecord :=
      { id := id
        direction := orElse request.direction "download"
        deviceId := request.deviceId
        filename := name
        size := request.size
        mimeType := orElse request.mimeType "application/octet-stream"
        status := .pending
        bytesTransferred := 0
        totalChunks := max ((request.size + maxChunkSize - 1) / maxChunkSize) 1
        chunksReceived := 0
        tempPath := ⟨id, name⟩
        createdBy := orElse request.createdBy "system"
        createdAt := now
        updatedAt := now }
    (.ok record, { s with transfers := s.transfers.insert id record })

structure Progress where
  transferId : String
  chunksReceived : Nat
  totalChunks : Nat
  bytesTransferred : Nat
  totalBytes : Nat
  status : Status

/-- Write a chunk: over the file if its number is zero, and behind it otherwise. -/
def writeChunk (files : Table TempPath Bytes) (path : TempPath) (chunkIndex : Nat) (data : Bytes) :
    Table TempPath Bytes :=
  files.insert path (if chunkIndex = 0 then data else (files.lookup path).getD [] ++ data)

/-- The record after a chunk. -/
def TransferRecord.receive (t : TransferRecord) (data : Bytes) (now : Nat) : TransferRecord :=
  let running := if t.status = .pending then .active else t.status
  let bytesTransferred := t.bytesTransferred + data.length
  { t with
    bytesTransferred := bytesTransferred
    chunksReceived := t.chunksReceived + 1
    updatedAt := now
    status := if t.size ≤ bytesTransferred then .completed else running }

def receiveChunk (s : State) (transferId : String) (chunkIndex : Nat) (data : Bytes) (now : Nat) :
    Except String Progress × State :=
  match s.transfers.lookup transferId with
  | none => (.error "Transfer not found", s)
  | some t =>
    if t.status.Ended then (.error ("Transfer is " ++ t.status.text), s)
    else
      let received := t.receive data now
      (.ok ⟨transferId, received.chunksReceived, received.totalChunks, received.bytesTransferred,
          received.size, received.status⟩,
        { s with
          transfers := s.transfers.insert transferId received
          files := writeChunk s.files t.tempPath chunkIndex data })

def cancelTransfer (s : State) (transferId : String) (now : Nat) : Bool × State :=
  match s.transfers.lookup transferId with
  | none => (false, s)
  | some t =>
    (true, { s with
      transfers := s.transfers.insert transferId { t with status := .cancelled, updatedAt := now }
      files := s.files.erase t.tempPath })

/-- The messages of a device. -/
inductive Message where
  | init (filename : String) (size : Nat) (mimeType : String)
  | chunk (transferId : String) (chunkIndex : Option Nat) (data : Bytes)
  | cancel (transferId : String)
  | browse (path : String)
  | other (action : String)

inductive Reply where
  | initAck (transferId : String)
  | chunkAck (progress : Progress)
  | cancelAck (transferId : String)
  | browseForward (deviceId path : String)
  | error (text : String)

def handleWsMessage (s : State) (deviceId : String) (message : Message) (id : String) (now : Nat) :
    Reply × State :=
  match message with
  | .init filename size mimeType =>
    match createTransfer s ⟨"download", deviceId, orElse filename "unknown", size,
        orElse mimeType "application/octet-stream", "agent:" ++ deviceId⟩ id now with
    | (.error text, after) => (.error text, after)
    | (.ok t, after) => (.initAck t.id, after)
  | .chunk transferId chunkIndex data =>
    match receiveChunk s transferId (chunkIndex.getD 0) data now with
    | (.error text, after) => (.error text, after)
    | (.ok progress, after) => (.chunkAck progress, after)
  | .cancel transferId => (.cancelAck transferId, (cancelTransfer s transferId now).2)
  | .browse path => (.browseForward deviceId path, s)
  | .other action => (.error ("Unknown action: " ++ action), s)

/-! ### The sweep -/

/-- A transfer whose last chunk is long ago. -/
def TransferRecord.stale (t : TransferRecord) (now : Nat) : Bool :=
  t.status = .active && transferTimeout < now - t.updatedAt

def TransferRecord.sweep (t : TransferRecord) (now : Nat) : TransferRecord :=
  if t.stale now then { t with status := .failed } else t

/-- Whether a transfer is kept. One that is over is kept for an hour. -/
def TransferRecord.keeps (t : TransferRecord) (now : Nat) : Bool :=
  ! ((t.status = .completed || t.status = .failed || t.status = .cancelled) &&
    3600000 < now - t.updatedAt)

def sweep (s : State) (now : Nat) : State :=
  { s with
    transfers := (s.transfers.mapValues fun _ t => t.sweep now).filter fun _ t => t.keeps now
    files := s.files.filter fun path _ =>
      (s.transfers.entries.all fun entry => ! (entry.2.tempPath == path && entry.2.stale now)) }

/-! ### The system -/

/-- What is drawn for a transfer that may be created: its id, and the file its sender means to
send. -/
structure Draw where
  id : String
  file : Bytes

inductive Label where
  | createTransfer (request : Request) (draw : Draw) (now : Nat)
  | receiveChunk (transferId : String) (chunkIndex : Nat) (data : Bytes) (now : Nat)
  | cancelTransfer (transferId : String) (now : Nat)
  | handleWsMessage (deviceId : String) (message : Message) (draw : Draw) (now : Nat)
  | sweep (now : Nat)

/-- Record what was drawn, if it is new and of the announced size. -/
def State.draw (s : State) (draw : Draw) (size : Nat) : Option State :=
  if draw.id ∈ s.issued ∨ draw.file.length ≠ size then none
  else some { s with
    issued := draw.id :: s.issued
    announced := Function.update s.announced draw.id draw.file }

def State.step (s : State) : Label → Option State
  | .createTransfer request draw now =>
    (s.draw draw request.size).map fun drawn => (createTransfer drawn request draw.id now).2
  | .receiveChunk transferId chunkIndex data now =>
    some (FileTransfer.receiveChunk s transferId chunkIndex data now).2
  | .cancelTransfer transferId now => some (FileTransfer.cancelTransfer s transferId now).2
  | .handleWsMessage deviceId (.init filename size mimeType) draw now =>
    (s.draw draw size).map fun drawn =>
      (FileTransfer.handleWsMessage drawn deviceId (.init filename size mimeType) draw.id now).2
  | .handleWsMessage deviceId message draw now =>
    some (FileTransfer.handleWsMessage s deviceId message draw.id now).2
  | .sweep now => some (FileTransfer.sweep s now)

def system : System State Label where
  start s := s.transfers = ∅ ∧ s.files = ∅ ∧ s.issued = []
  step := State.step

/-! ### What is promised -/

/-- The part of a file that a chunk holds. -/
def piece (file : Bytes) (chunkIndex : Nat) : Bytes :=
  (file.drop (chunkIndex * maxChunkSize)).take maxChunkSize

/-- A completed transfer's file is the announced one, and no file exceeds the maximum size. -/
def Exact (s : State) : Prop :=
  ∀ id t, s.transfers.lookup id = some t →
    (t.status = .completed → s.files.lookup t.tempPath = some (s.announced id)) ∧
      ((s.files.lookup t.tempPath).getD []).length ≤ maxFileSize

/-- A message of a device leaves the transfers of others as they are. -/
def Owned (before : State) (label : Label) (after : State) : Prop :=
  ∀ deviceId message draw now, label = .handleWsMessage deviceId message draw now →
    ∀ id t, before.transfers.lookup id = some t → t.deviceId ≠ deviceId →
      after.transfers.lookup id = some t ∧
        after.files.lookup t.tempPath = before.files.lookup t.tempPath

/-- A transfer that was given up remains so. -/
def GivenUp (before after : State) : Prop :=
  ∀ id t later, before.transfers.lookup id = some t → t.status.Ended →
    after.transfers.lookup id = some later → later.status.Ended

/-- The transfer a label brings a chunk for, with the chunk's number and data. -/
def Label.chunk : Label → Option (String × Nat × Bytes)
  | .receiveChunk transferId chunkIndex data _ => some (transferId, chunkIndex, data)
  | .handleWsMessage _ (.chunk transferId chunkIndex data) _ _ =>
    some (transferId, chunkIndex.getD 0, data)
  | _ => none

/-- The transfer a device names, in a chunk or to cancel it. -/
def Label.named : Label → Option (String × String)
  | .handleWsMessage deviceId (.chunk transferId _ _) _ _ => some (deviceId, transferId)
  | .handleWsMessage deviceId (.cancel transferId) _ _ => some (deviceId, transferId)
  | _ => none

/-- Each chunk holds the part of the announced file that its number says. -/
def Pieces (s : State) (label : Label) : Prop :=
  ∀ transferId chunkIndex data, label.chunk = some (transferId, chunkIndex, data) →
    data = piece (s.announced transferId) chunkIndex

/-- A chunk for a transfer that is under way has the number that is next, and there is none for one
that is complete. -/
def InTurn (s : State) (label : Label) : Prop :=
  ∀ transferId chunkIndex data, label.chunk = some (transferId, chunkIndex, data) →
    ∀ t, s.transfers.lookup transferId = some t → ¬ t.status.Ended →
      t.status ≠ .completed ∧ chunkIndex = t.chunksReceived

/-- A device names its own transfers only. -/
def Own (s : State) (label : Label) : Prop :=
  ∀ deviceId transferId, label.named = some (deviceId, transferId) →
    ∀ t, s.transfers.lookup transferId = some t → t.deviceId = deviceId

/-! ### One transfer -/

/-- What is stored for a transfer, by its status. -/
structure Stored (file : Bytes) (t : TransferRecord) (content : Option Bytes) : Prop where
  pending : t.status = .pending → t.bytesTransferred = 0 ∧ t.chunksReceived = 0 ∧ content = none
  active : t.status = .active → 0 < t.chunksReceived ∧
    t.bytesTransferred = t.chunksReceived * maxChunkSize ∧
      content = some (file.take t.bytesTransferred)
  completed : t.status = .completed → content = some file
  ended : t.status.Ended → content = none

variable {t : TransferRecord} {file : Bytes}

theorem Stored.of_completed (is : t.status = .completed) :
    Stored file t (some file) where
  pending other := Status.noConfusion (is.symm.trans other)
  active other := Status.noConfusion (is.symm.trans other)
  completed _ := rfl
  ended other := other.elim (fun other => Status.noConfusion (is.symm.trans other))
    fun other => Status.noConfusion (is.symm.trans other)

theorem Stored.of_ended (is : t.status.Ended) :
    Stored file t none where
  pending other := by rw [other] at is; exact absurd is (by decide)
  active other := by rw [other] at is; exact absurd is (by decide)
  completed other := by rw [other] at is; exact absurd is (by decide)
  ended _ := rfl

/-- The next chunk of a file goes where it belongs. -/
theorem Stored.receive {content : Option Bytes}
    (stored : Stored file t content) (size : t.size = file.length) (running : ¬ t.status.Ended)
    (incomplete : t.status ≠ .completed) (now : Nat) :
    Stored file (t.receive (piece file t.chunksReceived) now)
      (some (if t.chunksReceived = 0 then piece file t.chunksReceived
        else content.getD [] ++ piece file t.chunksReceived)) := by
  have state : t.status = .pending ∨ t.status = .active := by
    cases is : t.status with
    | pending => exact Or.inl rfl
    | active => exact Or.inr rfl
    | completed => exact absurd is incomplete
    | failed => exact absurd (Or.inr is) running
    | cancelled => exact absurd (Or.inl is) running
  have counted : t.bytesTransferred = t.chunksReceived * maxChunkSize := by
    rcases state with pending | active
    · obtain ⟨bytes, chunks, -⟩ := stored.pending pending
      rw [bytes, chunks, Nat.zero_mul]
    · exact (stored.active active).2.1
  have written : (if t.chunksReceived = 0 then piece file t.chunksReceived
      else content.getD [] ++ piece file t.chunksReceived) =
        file.take (t.bytesTransferred + maxChunkSize) := by
    rw [List.take_add, counted]
    rcases state with pending | active
    · obtain ⟨-, chunks, -⟩ := stored.pending pending
      rw [if_pos chunks, chunks, piece, Nat.zero_mul, List.take_zero, List.nil_append]
    · obtain ⟨some, bytes, held⟩ := stored.active active
      rw [if_neg some.ne', held, bytes, Option.getD_some, piece]
  have length : (piece file t.chunksReceived).length =
      min maxChunkSize (file.length - t.bytesTransferred) := by
    rw [piece, List.length_take, List.length_drop, counted]
  rw [written]
  by_cases whole : t.size ≤ t.bytesTransferred + (piece file t.chunksReceived).length
  · have all : file.take (t.bytesTransferred + maxChunkSize) = file :=
      List.take_of_length_le (by omega)
    rw [all]
    exact Stored.of_completed (if_pos whole)
  · have full : (piece file t.chunksReceived).length = maxChunkSize := by omega
    have active : (t.receive (piece file t.chunksReceived) now).status = .active := by
      refine (if_neg whole).trans ?_
      rcases state with pending | active
      · rw [if_pos pending]
      · rw [if_neg (by rw [active]; decide), active]
    refine ⟨fun other => ?_, fun _ => ⟨Nat.succ_pos _, ?_, ?_⟩, fun other => ?_, fun other => ?_⟩
    · exact Status.noConfusion (active.symm.trans other)
    · show t.bytesTransferred + (piece file t.chunksReceived).length =
        (t.chunksReceived + 1) * maxChunkSize
      rw [full, counted, Nat.succ_mul]
    · show some (file.take (t.bytesTransferred + maxChunkSize)) =
        some (file.take (t.bytesTransferred + (piece file t.chunksReceived).length))
      rw [full]
    · exact Status.noConfusion (active.symm.trans other)
    · rw [active] at other
      exact absurd other (by decide)

/-! ### All transfers -/

/-- The ids and sizes of the transfers are those that were drawn, files belong to transfers that
were, and each holds what its transfer's status says. -/
structure Consistent (s : State) : Prop where
  path (id : String) (t : TransferRecord) (found : s.transfers.lookup id = some t) :
    t.tempPath.id = id
  issued (id : String) (t : TransferRecord) (found : s.transfers.lookup id = some t) : id ∈ s.issued
  size (id : String) (t : TransferRecord) (found : s.transfers.lookup id = some t) :
    t.size = (s.announced id).length ∧ t.size ≤ maxFileSize
  files (path : TempPath) (content : Bytes) (found : s.files.lookup path = some content) :
    path.id ∈ s.issued
  stored (id : String) (t : TransferRecord) (found : s.transfers.lookup id = some t) :
    Stored (s.announced id) t (s.files.lookup t.tempPath)

/-- A transfer is replaced by one that has its path and size, and its file along with it. -/
structure Replaced (s : State) (id : String) (t later : TransferRecord) (after : State) : Prop where
  transfers : after.transfers = s.transfers.insert id later
  files : ∀ path, path ≠ t.tempPath → after.files.lookup path = s.files.lookup path
  issued : after.issued = s.issued
  announced : after.announced = s.announced
  path : later.tempPath = t.tempPath
  size : later.size = t.size

section replaced

variable {s after : State} {id : String} {t later : TransferRecord}

theorem Replaced.other (replaced : Replaced s id t later after) (consistent : Consistent s)
    (found : s.transfers.lookup id = some t) {other : String} {held : TransferRecord}
    (different : other ≠ id) (present : s.transfers.lookup other = some held) :
    after.transfers.lookup other = some held ∧
      after.files.lookup held.tempPath = s.files.lookup held.tempPath := by
  refine ⟨?_, replaced.files _ fun same => different ?_⟩
  · rw [replaced.transfers, AList.lookup_insert_ne different, present]
  · rw [← consistent.path other held present, ← consistent.path id t found, same]

theorem Replaced.consistent (replaced : Replaced s id t later after) (consistent : Consistent s)
    (found : s.transfers.lookup id = some t)
    (stored : Stored (s.announced id) later (after.files.lookup t.tempPath)) :
    Consistent after := by
  have present {other : String} {held : TransferRecord}
      (lookup : after.transfers.lookup other = some held) :
      (other = id ∧ held = later) ∨ (other ≠ id ∧ s.transfers.lookup other = some held) := by
    rw [replaced.transfers] at lookup
    exact Table.lookup_insert_iff.mp lookup
  refine ⟨fun other held lookup => ?_, fun other held lookup => ?_, fun other held lookup => ?_,
    fun path content lookup => ?_, fun other held lookup => ?_⟩
  · rcases present lookup with ⟨rfl, rfl⟩ | ⟨-, lookup⟩
    · rw [replaced.path, consistent.path _ t found]
    · exact consistent.path other held lookup
  · rw [replaced.issued]
    rcases present lookup with ⟨rfl, rfl⟩ | ⟨-, lookup⟩
    · exact consistent.issued _ t found
    · exact consistent.issued other held lookup
  · rw [replaced.announced]
    rcases present lookup with ⟨rfl, rfl⟩ | ⟨-, lookup⟩
    · rw [replaced.size]
      exact consistent.size _ t found
    · exact consistent.size other held lookup
  · rw [replaced.issued]
    by_cases same : path = t.tempPath
    · rw [same, consistent.path id t found]
      exact consistent.issued id t found
    · rw [replaced.files path same] at lookup
      exact consistent.files path content lookup
  · rw [replaced.announced]
    rcases present lookup with ⟨rfl, rfl⟩ | ⟨different, lookup⟩
    · rwa [replaced.path]
    · rw [(replaced.other consistent found different lookup).2]
      exact consistent.stored other held lookup

end replaced

variable {label : Label}

section steps

variable {s : State} {transferId : String}

theorem receiveChunk_of_closed
    (closed : ∀ t, s.transfers.lookup transferId = some t → t.status.Ended) (chunkIndex : Nat)
    (data : Bytes) (now : Nat) : (receiveChunk s transferId chunkIndex data now).2 = s := by
  unfold receiveChunk
  split
  · rfl
  · next t found => rw [if_pos (closed t found)]

theorem receiveChunk_of_open
    (found : s.transfers.lookup transferId = some t) (running : ¬ t.status.Ended) (chunkIndex : Nat)
    (data : Bytes) (now : Nat) :
    Replaced s transferId t (t.receive data now) (receiveChunk s transferId chunkIndex data now).2 ∧
      (receiveChunk s transferId chunkIndex data now).2.files.lookup t.tempPath =
        some (if chunkIndex = 0 then data else (s.files.lookup t.tempPath).getD [] ++ data) := by
  unfold receiveChunk
  rw [found]
  dsimp only
  rw [if_neg running]
  exact ⟨⟨rfl, fun path different => AList.lookup_insert_ne different, rfl, rfl, rfl, rfl⟩,
    AList.lookup_insert _⟩

theorem cancelTransfer_of_none (missing : s.transfers.lookup transferId = none)
    (now : Nat) : (cancelTransfer s transferId now).2 = s := by
  rw [cancelTransfer, missing]

theorem cancelTransfer_of_some (found : s.transfers.lookup transferId = some t) (now : Nat) :
    Replaced s transferId t { t with status := .cancelled, updatedAt := now }
        (cancelTransfer s transferId now).2 ∧
      (cancelTransfer s transferId now).2.files.lookup t.tempPath = none := by
  rw [cancelTransfer, found]
  exact ⟨⟨rfl, fun path different => AList.lookup_erase_ne different, rfl, rfl, rfl, rfl⟩,
    AList.lookup_erase _ _⟩

theorem Consistent.receiveChunk (consistent : Consistent s) {chunkIndex : Nat}
    {data : Bytes} (piece : data = piece (s.announced transferId) chunkIndex)
    (inTurn : ∀ t, s.transfers.lookup transferId = some t → ¬ t.status.Ended →
      t.status ≠ .completed ∧ chunkIndex = t.chunksReceived) (now : Nat) :
    Consistent (receiveChunk s transferId chunkIndex data now).2 := by
  by_cases closed : ∀ t, s.transfers.lookup transferId = some t → t.status.Ended
  · rwa [receiveChunk_of_closed closed]
  · obtain ⟨t, opened⟩ := not_forall.mp closed
    obtain ⟨found, running⟩ := Classical.not_imp.mp opened
    obtain ⟨replaced, written⟩ := receiveChunk_of_open found running chunkIndex data now
    obtain ⟨incomplete, next⟩ := inTurn t found running
    refine replaced.consistent consistent found ?_
    have received := (consistent.stored transferId t found).receive
      (consistent.size transferId t found).1 running incomplete now
    rwa [← next, ← piece, ← written] at received

theorem Consistent.cancelTransfer (consistent : Consistent s) (transferId : String) (now : Nat) :
    Consistent (cancelTransfer s transferId now).2 := by
  cases found : s.transfers.lookup transferId with
  | none => rwa [cancelTransfer_of_none found]
  | some t =>
    obtain ⟨replaced, removed⟩ := cancelTransfer_of_some found now
    refine replaced.consistent consistent found ?_
    rw [removed]
    exact Stored.of_ended (Or.inl rfl)

variable {drawn : State}

theorem of_draw {draw : Draw} {size : Nat} (drew : s.draw draw size = some drawn) :
    draw.id ∉ s.issued ∧ draw.file.length = size ∧
      drawn = { s with
        issued := draw.id :: s.issued
        announced := Function.update s.announced draw.id draw.file } := by
  obtain ⟨fresh, same⟩ := Option.ite_none_left_eq_some.mp drew
  obtain ⟨fresh, length⟩ := not_or.mp fresh
  exact ⟨fresh, not_not.mp length, (Option.some.inj same).symm⟩

theorem Consistent.draw (consistent : Consistent s) {draw : Draw} {size : Nat}
    (drew : s.draw draw size = some drawn) : Consistent drawn := by
  obtain ⟨fresh, -, rfl⟩ := of_draw drew
  have announced {id : String} (issued : id ∈ s.issued) :
      Function.update s.announced draw.id draw.file id = s.announced id :=
    Function.update_of_ne (fun same : id = draw.id => fresh (same ▸ issued)) _ _
  refine ⟨consistent.path, fun id t found => List.mem_cons_of_mem _ (consistent.issued id t found),
    fun id t found => ?_,
    fun path content found => List.mem_cons_of_mem _ (consistent.files path content found),
    fun id t found => ?_⟩
  · dsimp only
    rw [announced (consistent.issued id t found)]
    exact consistent.size id t found
  · dsimp only
    rw [announced (consistent.issued id t found)]
    exact consistent.stored id t found

/-- A transfer that is created has an id of its own, and nothing is stored for it. -/
theorem Consistent.createTransfer (consistent : Consistent s) {draw : Draw} {request : Request}
    (drew : s.draw draw request.size = some drawn) (now : Nat) :
    Consistent (createTransfer drawn request draw.id now).2 := by
  have after := consistent.draw drew
  obtain ⟨fresh, length, rfl⟩ := of_draw drew
  rw [FileTransfer.createTransfer]
  split
  · exact after
  · next fits =>
    have nothing (path : TempPath) (same : path.id = draw.id) : s.files.lookup path = none :=
      Option.eq_none_iff_forall_ne_some.mpr fun content found =>
        fresh (same ▸ consistent.files path content found)
    refine ⟨fun id t found => ?_, fun id t found => ?_, fun id t found => ?_, after.files,
      fun id t found => ?_⟩
    · rcases Table.lookup_insert_iff.mp found with ⟨rfl, rfl⟩ | ⟨-, found⟩
      · rfl
      · exact after.path id t found
    · rcases Table.lookup_insert_iff.mp found with ⟨rfl, rfl⟩ | ⟨-, found⟩
      · exact List.mem_cons_self
      · exact after.issued id t found
    · rcases Table.lookup_insert_iff.mp found with ⟨rfl, rfl⟩ | ⟨-, found⟩
      · dsimp only
        rw [Function.update_self]
        exact ⟨length.symm, Nat.not_lt.mp fits⟩
      · exact after.size id t found
    · rcases Table.lookup_insert_iff.mp found with ⟨rfl, rfl⟩ | ⟨-, found⟩
      · dsimp only
        rw [nothing _ rfl]
        exact ⟨fun _ => ⟨rfl, rfl, rfl⟩, fun other => Status.noConfusion other,
          fun other => Status.noConfusion other, fun _ => rfl⟩
      · exact after.stored id t found

theorem createTransfer_other {draw : Draw} {request : Request}
    (drew : s.draw draw request.size = some drawn) (now : Nat) :
    (∀ id, id ∈ s.issued → (createTransfer drawn request draw.id now).2.transfers.lookup id =
      s.transfers.lookup id) ∧ (createTransfer drawn request draw.id now).2.files = s.files := by
  obtain ⟨fresh, -, rfl⟩ := of_draw drew
  rw [createTransfer]
  split
  · exact ⟨fun _ _ => rfl, rfl⟩
  · exact ⟨fun id issued => AList.lookup_insert_ne fun same => fresh (same ▸ issued), rfl⟩

/-! ### The sweep -/

theorem lookup_sweep {now : Nat} {id : String}
    (found : (sweep s now).transfers.lookup id = some t) :
    ∃ held, s.transfers.lookup id = some held ∧ t = held.sweep now := by
  obtain ⟨found, -⟩ := Table.lookup_filter_iff.mp found
  rw [Table.lookup_mapValues] at found
  obtain ⟨held, present, same⟩ := Option.map_eq_some_iff.mp found
  exact ⟨held, present, same.symm⟩

theorem lookup_files_sweep {now : Nat} {path : TempPath} {content : Bytes} :
    (sweep s now).files.lookup path = some content ↔ s.files.lookup path = some content ∧
      ∀ id t, s.transfers.lookup id = some t → t.tempPath = path → t.stale now = false := by
  rw [sweep, Table.lookup_filter_iff, List.all_eq_true]
  refine and_congr_right fun _ => ⟨fun all id t found same => ?_, fun fresh entry member => ?_⟩
  · have kept := all ⟨id, t⟩ (Table.mem_entries_iff.mpr found)
    rw [same, beq_self_eq_true, Bool.true_and] at kept
    exact Bool.eq_false_of_not_eq_true' kept
  · rw [Bool.not_eq_true']
    by_cases same : entry.2.tempPath = path
    · rw [fresh entry.1 entry.2 (Table.mem_entries_iff.mp member) same, Bool.and_false]
    · rw [beq_eq_false_iff_ne.mpr same, Bool.false_and]

theorem Consistent.sweep (consistent : Consistent s) (now : Nat) : Consistent (sweep s now) := by
  have path (held : TransferRecord) : (held.sweep now).tempPath = held.tempPath := by
    unfold TransferRecord.sweep
    split <;> rfl
  have size (held : TransferRecord) : (held.sweep now).size = held.size := by
    unfold TransferRecord.sweep
    split <;> rfl
  refine ⟨fun id t found => ?_, fun id t found => ?_, fun id t found => ?_,
    fun some content found => consistent.files some content (lookup_files_sweep.mp found).1,
    fun id t found => ?_⟩
  · obtain ⟨held, present, rfl⟩ := lookup_sweep found
    rw [path]
    exact consistent.path id held present
  · obtain ⟨held, present, rfl⟩ := lookup_sweep found
    exact consistent.issued id held present
  · obtain ⟨held, present, rfl⟩ := lookup_sweep found
    rw [size]
    exact consistent.size id held present
  · obtain ⟨held, present, rfl⟩ := lookup_sweep found
    rw [path]
    cases stale : held.stale now with
    | true =>
      have gone : (FileTransfer.sweep s now).files.lookup held.tempPath = none :=
        Option.eq_none_iff_forall_ne_some.mpr fun content kept =>
          Bool.false_ne_true (((lookup_files_sweep.mp kept).2 id held present rfl).symm.trans stale)
      have failed : (held.sweep now).status = .failed := by
        rw [TransferRecord.sweep, if_pos stale]
      rw [gone]
      exact Stored.of_ended (Or.inr failed)
    | false =>
      have same : held.sweep now = held := by
        rw [TransferRecord.sweep, stale, if_neg Bool.false_ne_true]
      have kept : (FileTransfer.sweep s now).files.lookup held.tempPath =
          s.files.lookup held.tempPath := by
        refine Option.ext fun content => lookup_files_sweep.trans (and_iff_left ?_)
        intro other t found same
        have id' : other = id := by
          rw [← consistent.path other t found, same, consistent.path id held present]
        rw [id', present] at found
        rw [← Option.some.inj found, stale]
      rw [same, kept]
      exact consistent.stored id held present

/-! ### Runs -/

theorem handleWsMessage_chunk (s : State) (deviceId transferId : String) (chunkIndex : Option Nat)
    (data : Bytes) (id : String) (now : Nat) :
    (handleWsMessage s deviceId (.chunk transferId chunkIndex data) id now).2 =
      (receiveChunk s transferId (chunkIndex.getD 0) data now).2 := by
  rw [handleWsMessage]
  split
  · next held => rw [held]
  · next held => rw [held]

theorem handleWsMessage_init (s : State) (deviceId filename : String) (size : Nat)
    (mimeType : String)
    (id : String) (now : Nat) :
    (handleWsMessage s deviceId (.init filename size mimeType) id now).2 =
      (createTransfer s ⟨"download", deviceId, orElse filename "unknown", size,
        orElse mimeType "application/octet-stream", "agent:" ++ deviceId⟩ id now).2 := by
  rw [handleWsMessage]
  split
  · next held => rw [held]
  · next held => rw [held]

variable {after : State}

theorem step_cases (taken : s.step label = some after) :
    (∃ draw request drawn now, s.draw draw (Request.size request) = some drawn ∧
      after = (createTransfer drawn request draw.id now).2 ∧ label.chunk = none ∧
      label.named = none) ∨
    (∃ transferId chunkIndex data now, label.chunk = some (transferId, chunkIndex, data) ∧
      after = (receiveChunk s transferId chunkIndex data now).2 ∧
      ∀ deviceId message draw now, label = .handleWsMessage deviceId message draw now →
        label.named = some (deviceId, transferId)) ∨
    (∃ transferId now, label.chunk = none ∧ after = (cancelTransfer s transferId now).2 ∧
      ∀ deviceId message draw now, label = .handleWsMessage deviceId message draw now →
        label.named = some (deviceId, transferId)) ∨
    (∃ now, after = sweep s now ∧ label = .sweep now) ∨ after = s := by
  cases label with
  | createTransfer request draw now =>
    obtain ⟨drawn, drew, same⟩ := Option.map_eq_some_iff.mp taken
    exact Or.inl ⟨draw, request, drawn, now, drew, same.symm, rfl, rfl⟩
  | receiveChunk transferId chunkIndex data now =>
    exact Or.inr (Or.inl ⟨transferId, chunkIndex, data, now, rfl, (Option.some.inj taken).symm,
      fun _ _ _ _ same => Label.noConfusion same⟩)
  | cancelTransfer transferId now =>
    exact Or.inr (Or.inr (Or.inl ⟨transferId, now, rfl, (Option.some.inj taken).symm,
      fun _ _ _ _ same => Label.noConfusion same⟩))
  | sweep now =>
    exact Or.inr (Or.inr (Or.inr (Or.inl ⟨now, (Option.some.inj taken).symm, rfl⟩)))
  | handleWsMessage deviceId message draw now =>
    cases message with
    | init filename size mimeType =>
      obtain ⟨drawn, drew, same⟩ := Option.map_eq_some_iff.mp taken
      rw [handleWsMessage_init] at same
      exact Or.inl ⟨draw, _, drawn, now, drew, same.symm, rfl, rfl⟩
    | chunk transferId chunkIndex data =>
      have same := (Option.some.inj taken).symm
      rw [handleWsMessage_chunk] at same
      refine Or.inr (Or.inl ⟨transferId, chunkIndex.getD 0, data, now, rfl, same, ?_⟩)
      rintro _ _ _ _ ⟨⟩
      rfl
    | cancel transferId =>
      refine Or.inr (Or.inr (Or.inl ⟨transferId, now, rfl, (Option.some.inj taken).symm, ?_⟩))
      rintro _ _ _ _ ⟨⟩
      rfl
    | browse path => exact Or.inr (Or.inr (Or.inr (Or.inr (Option.some.inj taken).symm)))
    | other action => exact Or.inr (Or.inr (Or.inr (Or.inr (Option.some.inj taken).symm)))

theorem Consistent.step (consistent : Consistent s)
    (pieces : Pieces s label) (inTurn : InTurn s label) (taken : s.step label = some after) :
    Consistent after := by
  rcases step_cases taken with ⟨draw, request, drawn, now, drew, rfl, -⟩ |
    ⟨transferId, chunkIndex, data, now, chunk, rfl, -⟩ | ⟨transferId, now, -, rfl, -⟩ |
    ⟨now, rfl, -⟩ | rfl
  · exact consistent.createTransfer drew now
  · exact consistent.receiveChunk (pieces _ _ _ chunk) (inTurn _ _ _ chunk) now
  · exact consistent.cancelTransfer transferId now
  · exact consistent.sweep now
  · exact consistent

theorem Consistent.exact (consistent : Consistent s) : Exact s := by
  intro id t found
  have stored := consistent.stored id t found
  obtain ⟨size, bounded⟩ := consistent.size id t found
  refine ⟨stored.completed, ?_⟩
  cases is : t.status with
  | pending =>
    rw [(stored.pending is).2.2]
    exact Nat.zero_le _
  | active =>
    rw [(stored.active is).2.2, Option.getD_some, List.length_take]
    omega
  | completed =>
    rw [stored.completed is, Option.getD_some]
    omega
  | failed =>
    rw [stored.ended (Or.inr is)]
    exact Nat.zero_le _
  | cancelled =>
    rw [stored.ended (Or.inl is)]
    exact Nat.zero_le _

/-- A step that replaces a transfer of the device that asked for it leaves the others. -/
theorem Replaced.owned {later : TransferRecord}
    (replaced : Replaced s transferId t later after) (consistent : Consistent s)
    (found : s.transfers.lookup transferId = some t) (own : Own s label)
    (named : ∀ deviceId message draw now, label = .handleWsMessage deviceId message draw now →
      label.named = some (deviceId, transferId)) : Owned s label after := by
  intro deviceId message draw now same id held present different
  refine replaced.other consistent found (fun equal => different ?_) present
  rw [equal, found] at present
  rw [← Option.some.inj present]
  exact own _ _ (named _ _ _ _ same) t found

theorem owned_of_own (consistent : Consistent s) (own : Own s label)
    (taken : s.step label = some after) : Owned s label after := by
  rcases step_cases taken with ⟨draw, request, drawn, now, drew, rfl, -⟩ |
    ⟨transferId, chunkIndex, data, now, -, rfl, named⟩ | ⟨transferId, now, -, rfl, named⟩ |
    ⟨now, rfl, rfl⟩ | rfl
  · obtain ⟨others, files⟩ := createTransfer_other drew now
    intro _ _ _ _ _ id t found _
    rw [others id (consistent.issued id t found), files]
    exact ⟨found, rfl⟩
  · by_cases closed : ∀ t, s.transfers.lookup transferId = some t → t.status.Ended
    · rw [receiveChunk_of_closed closed]
      exact fun _ _ _ _ _ _ _ found _ => ⟨found, rfl⟩
    · obtain ⟨t, opened⟩ := not_forall.mp closed
      obtain ⟨found, running⟩ := Classical.not_imp.mp opened
      exact (receiveChunk_of_open found running chunkIndex data now).1.owned consistent found
        own named
  · cases found : s.transfers.lookup transferId with
    | none =>
      rw [cancelTransfer_of_none found]
      exact fun _ _ _ _ _ _ _ found _ => ⟨found, rfl⟩
    | some t => exact (cancelTransfer_of_some found now).1.owned consistent found own named
  · exact fun _ _ _ _ same => Label.noConfusion same
  · exact fun _ _ _ _ _ _ _ found _ => ⟨found, rfl⟩

theorem givenUp_of_step (consistent : Consistent s)
    (taken : s.step label = some after) : GivenUp s after := by
  intro id t later found ended lookup
  rcases step_cases taken with ⟨draw, request, drawn, now, drew, rfl, -⟩ |
    ⟨transferId, chunkIndex, data, now, -, rfl, -⟩ | ⟨transferId, now, -, rfl, -⟩ |
    ⟨now, rfl, -⟩ | rfl
  · rw [(createTransfer_other drew now).1 id (consistent.issued id t found), found] at lookup
    exact Option.some.inj lookup ▸ ended
  · by_cases closed : ∀ t, s.transfers.lookup transferId = some t → t.status.Ended
    · rw [receiveChunk_of_closed closed, found] at lookup
      exact Option.some.inj lookup ▸ ended
    · obtain ⟨held, opened⟩ := not_forall.mp closed
      obtain ⟨present, running⟩ := Classical.not_imp.mp opened
      obtain ⟨replaced, -⟩ := receiveChunk_of_open present running chunkIndex data now
      by_cases same : id = transferId
      · rw [same, present] at found
        exact absurd (Option.some.inj found ▸ ended) running
      · rw [(replaced.other consistent present same found).1] at lookup
        exact Option.some.inj lookup ▸ ended
  · cases present : s.transfers.lookup transferId with
    | none =>
      rw [cancelTransfer_of_none present, found] at lookup
      exact Option.some.inj lookup ▸ ended
    | some held =>
      obtain ⟨replaced, -⟩ := cancelTransfer_of_some present now
      by_cases same : id = transferId
      · rw [replaced.transfers, same, AList.lookup_insert] at lookup
        exact Option.some.inj lookup ▸ Or.inl rfl
      · rw [(replaced.other consistent present same found).1] at lookup
        exact Option.some.inj lookup ▸ ended
  · obtain ⟨held, present, rfl⟩ := lookup_sweep lookup
    obtain rfl := Option.some.inj (found.symm.trans present)
    unfold TransferRecord.sweep
    split
    · exact Or.inr rfl
    · exact ended
  · exact Option.some.inj (found.symm.trans lookup) ▸ ended

end steps

theorem consistent_start {s : State} (start : system.start s) : Consistent s := by
  obtain ⟨transfers, files, -⟩ := start
  refine ⟨fun id t found => ?_, fun id t found => ?_, fun id t found => ?_,
    fun path content found => ?_, fun id t found => ?_⟩
  · rw [transfers] at found
    exact (Option.some_ne_none _ found.symm).elim
  · rw [transfers] at found
    exact (Option.some_ne_none _ found.symm).elim
  · rw [transfers] at found
    exact (Option.some_ne_none _ found.symm).elim
  · rw [files] at found
    exact (Option.some_ne_none _ found.symm).elim
  · rw [transfers] at found
    exact (Option.some_ne_none _ found.symm).elim

/-- In every run in which each transfer's chunks arrive once each, in order and from its own device,
and a device cancels its own transfers only, a completed transfer's file is the announced one, no
file exceeds the maximum size, no message changes another device's transfer, and no transfer that
was given up is completed. -/
theorem exact_of_inTurn {s : State} (reached : ReachableWhen system
      (fun s label => Pieces s label ∧ InTurn s label ∧ Own s label) s) :
    Exact s ∧ ∀ label after, system.step s label = some after →
      GivenUp s after ∧ (Own s label → Owned s label after) := by
  have consistent : Consistent s := by
    refine reached.invariant Consistent (fun _ start => consistent_start start) ?_
    rintro before label after kept ⟨pieces, inTurn, -⟩ taken
    exact kept.step pieces inTurn taken
  exact ⟨consistent.exact, fun label after taken =>
    ⟨givenUp_of_step consistent taken, fun own => owned_of_own consistent own taken⟩⟩

/-! ### A repeated chunk -/

def empty : State := ⟨∅, ∅, [], fun _ => []⟩

theorem start_empty : system.start empty := ⟨rfl, rfl, rfl⟩

def upload (size : Nat) : Request := ⟨"download", "a", "report", size, "", "agent:a"⟩

theorem createTransfer_of_fits {s : State} {request : Request} (fits : request.size ≤ maxFileSize)
    (id : String) (now : Nat) :
    ∃ t, (createTransfer s request id now).2 = { s with transfers := s.transfers.insert id t } ∧
      t.status = .pending ∧ t.size = request.size ∧ t.bytesTransferred = 0 ∧ t.chunksReceived = 0 ∧
        t.deviceId = request.deviceId := by
  rw [createTransfer, if_neg (Nat.not_lt.mpr fits)]
  exact ⟨_, rfl, rfl, rfl, rfl, rfl, rfl⟩

/-- The state after a device has announced a file. -/
theorem exists_announced (file : Bytes) (fits : file.length ≤ maxFileSize) :
    ∃ s t, system.step empty (.createTransfer (upload file.length) ⟨"t", file⟩ 0) = some s ∧
      s.announced "t" = file ∧ s.transfers.lookup "t" = some t ∧ t.status = .pending ∧
      t.size = file.length ∧ t.bytesTransferred = 0 ∧ t.chunksReceived = 0 ∧ t.deviceId = "a" := by
  have drew : empty.draw ⟨"t", file⟩ (upload file.length).size = some { empty with
      issued := ["t"], announced := Function.update (fun _ => []) "t" file } :=
    if_neg fun refused => refused.elim List.not_mem_nil fun other => other rfl
  obtain ⟨t, created, record⟩ := @createTransfer_of_fits { empty with
    issued := ["t"], announced := Function.update (fun _ => []) "t" file } (upload file.length) fits
    "t" 0
  have stepped := congrArg (Option.map fun drawn : State =>
    (createTransfer drawn (upload file.length) "t" 0).2) drew
  rw [Option.map_some, created] at stepped
  refine ⟨_, t, stepped, ?_, AList.lookup_insert _, record⟩
  dsimp only
  rw [Function.update_self]

theorem pieces_of_not_chunk {s : State} (none : label.chunk = none) :
    Pieces s label := by
  intro _ _ _ chunk
  rw [none] at chunk
  exact (Option.some_ne_none _ chunk.symm).elim

/-- A file of one byte more than a chunk. -/
def large : Bytes := List.replicate maxChunkSize 0 ++ [1]

theorem length_large : large.length = maxChunkSize + 1 := by
  rw [large, List.length_append, List.length_replicate, List.length_singleton]

/-- The first of two chunks, sent twice, completes the transfer without the second. And a device
cancels the transfer of another. -/
theorem repeated_chunk :
    (∃ s, ReachableWhen system Pieces s ∧ ¬ Exact s) ∧
    ∃ s label after, ReachableWhen system Pieces s ∧ system.step s label = some after ∧
      ¬ Owned s label after := by
  obtain ⟨s, t, created, announced, found, pending, size, bytes, -, device⟩ :=
    exists_announced large (by rw [length_large]; decide)
  have reached : ReachableWhen system Pieces s :=
    .step (.start start_empty) (pieces_of_not_chunk rfl) created
  have running : ¬ t.status.Ended := by
    rw [pending]
    decide
  have full : (piece large 0).length = maxChunkSize := by
    rw [piece, List.length_take, List.length_drop, length_large]
    rfl
  constructor
  · have first := (receiveChunk_of_open found running 0 (piece large 0) 1).1
    have taken : system.step s (.receiveChunk "t" 0 (piece large 0) 1) =
        some (receiveChunk s "t" 0 (piece large 0) 1).2 := rfl
    have once : ReachableWhen system Pieces (receiveChunk s "t" 0 (piece large 0) 1).2 := by
      refine .step reached ?_ taken
      rintro _ _ _ ⟨⟩
      rw [announced]
    have active : (t.receive (piece large 0) 1).status = .active := by
      refine (if_neg ?_).trans (if_pos pending)
      rw [size, bytes, full, length_large]
      decide
    have again : (receiveChunk s "t" 0 (piece large 0) 1).2.transfers.lookup "t" =
        some (t.receive (piece large 0) 1) := by
      rw [first.transfers, AList.lookup_insert]
    obtain ⟨second, written⟩ := receiveChunk_of_open again (by rw [active]; decide) 0
      (piece large 0) 2
    have takenAgain : system.step (receiveChunk s "t" 0 (piece large 0) 1).2
        (.receiveChunk "t" 0 (piece large 0) 2) =
          some (receiveChunk (receiveChunk s "t" 0 (piece large 0) 1).2 "t" 0
            (piece large 0) 2).2 :=
      rfl
    refine ⟨_, .step once ?_ takenAgain, fun exact => ?_⟩
    · rintro _ _ _ ⟨⟩
      rw [first.announced, announced]
    · have completed :
          ((t.receive (piece large 0) 1).receive (piece large 0) 2).status = .completed := by
        refine if_pos ?_
        show t.size ≤ t.bytesTransferred + (piece large 0).length + (piece large 0).length
        rw [size, bytes, full, length_large]
        decide
      have held := (exact "t" _ (by rw [second.transfers, AList.lookup_insert])).1 completed
      rw [second.path, written, second.announced, first.announced, announced] at held
      have lengths := congrArg List.length (Option.some.inj held)
      rw [if_pos rfl, full, length_large] at lengths
      exact absurd lengths (by decide)
  · refine ⟨s, .handleWsMessage "b" (.cancel "t") ⟨"u", []⟩ 1, _, reached, rfl, fun owned => ?_⟩
    have kept := (owned "b" (.cancel "t") ⟨"u", []⟩ 1 rfl "t" t found (by rw [device]; decide)).1
    have replaced := (cancelTransfer_of_some found 1).1
    rw [show (handleWsMessage s "b" (.cancel "t") "u" 1).2 = (cancelTransfer s "t" 1).2 from rfl,
      replaced.transfers, AList.lookup_insert] at kept
    have same := congrArg TransferRecord.status (Option.some.inj kept)
    exact Status.noConfusion (same.trans pending)

/-- A file of one chunk that arrives. -/
theorem exact_of_inTurn_arrived :
    ∃ s, (∃ t, s.transfers.lookup "t" = some t ∧ t.status = .completed) ∧
      Exact s ∧ ∀ label after, system.step s label = some after →
        GivenUp s after ∧ (Own s label → Owned s label after) := by
  obtain ⟨s, t, created, announced, found, pending, size, bytes, chunks, device⟩ :=
    exists_announced [7] (by decide)
  have running : ¬ t.status.Ended := by
    rw [pending]
    decide
  have reached : ReachableWhen system (fun s label => Pieces s label ∧ InTurn s label ∧ Own s label)
      s := by
    refine .step (.start start_empty) ⟨pieces_of_not_chunk rfl, ?_, ?_⟩ created
    · intro _ _ _ chunk
      exact (Option.some_ne_none _ chunk.symm).elim
    · intro _ _ named
      exact (Option.some_ne_none _ named.symm).elim
  have arrived : ReachableWhen system
      (fun s label => Pieces s label ∧ InTurn s label ∧ Own s label)
      (receiveChunk s "t" 0 [7] 1).2 := by
    have taken : system.step s (.receiveChunk "t" 0 [7] 1) = some (receiveChunk s "t" 0 [7] 1).2 :=
      rfl
    refine .step reached ⟨?_, ?_, ?_⟩ taken
    · rintro _ _ _ ⟨⟩
      rw [announced]
      rfl
    · rintro _ _ _ ⟨⟩ held present _
      obtain rfl := Option.some.inj (found.symm.trans present)
      exact ⟨by rw [pending]; decide, chunks.symm⟩
    · intro _ _ named
      exact (Option.some_ne_none _ named.symm).elim
  refine ⟨_, ⟨t.receive [7] 1, ?_, ?_⟩, exact_of_inTurn arrived⟩
  · rw [(receiveChunk_of_open found running 0 [7] 1).1.transfers, AList.lookup_insert]
  · refine if_pos ?_
    rw [size, bytes]
    decide

end SovaDesk.Console.FileTransfer
