/-
This file models the encrypted control channel and says when its two ends stay in step.

A writer takes the next counter under the send lock, seals its data under the nonce of
that counter outside the lock, and then writes the frame; a frame that is refused or
fails does not give its counter back. The reader counts the frames it reads. So a frame
is decrypted exactly when the counter it was sealed under is its place on the wire, and
the writers together decide that: each call is a lock acquisition and a later write, in
any interleaving. The cipher is a parameter: what is sealed under a counter opens under
that counter and under no other. A connection carries one symmetric key, so the key is
part of the cipher. The write of a frame may fail after some of its bytes went out.
-/

import SovaDesk.Lib.System
import SovaDesk.Lib.Table
import SovaDesk.Codec.Framing

namespace SovaDesk.Crypto

open Wire Codec Transition

/-! ### The cipher -/

/-- The nonce of a counter: eight bytes of counter, sixteen of zero. -/
def makeNonce (counter : UInt64) : List UInt8 :=
  littleEndian 8 counter.toNat ++ List.replicate 16 0

theorem makeNonce_injective : Function.Injective makeNonce := by
  intro counter other same
  have bytes : littleEndian 8 counter.toNat = littleEndian 8 other.toNat :=
    List.append_cancel_right same
  have numbers := congrArg ofLittleEndian bytes
  rw [ofLittleEndian_littleEndian counter.toNat_lt, ofLittleEndian_littleEndian other.toNat_lt]
    at numbers
  exact UInt64.toNat_inj.mp numbers

/-- An authenticated cipher under one key, ideal on the nonces of counters: a box opens under the
nonce it was sealed with and under no other, and is sixteen bytes longer than its content. -/
structure SecretBox where
  sealBox : List UInt8 → List UInt8 → List UInt8
  openBox : List UInt8 → List UInt8 → Option (List UInt8)
  length_sealBox (nonce data : List UInt8) : (sealBox nonce data).length = data.length + 16
  openBox_sealBox (counter : UInt64) (data : List UInt8) :
    openBox (makeNonce counter) (sealBox (makeNonce counter) data) = some data
  openBox_other {counter other : UInt64} (data : List UInt8) (different : counter ≠ other) :
    openBox (makeNonce counter) (sealBox (makeNonce other) data) = none

/-- The encoding of messages: what was marshalled is unmarshalled again. -/
structure MessageCodec (Message : Type) where
  marshal : Message → Except String (List UInt8)
  unmarshal : List UInt8 → Except String Message
  unmarshal_marshal {message : Message} {data : List UInt8}
    (marshalled : marshal message = .ok data) :
    unmarshal data = .ok message

/-! ### The reading end -/

/-- The errors of the readers. -/
inductive ReceiveError
  | framing (cause : ReadError)
  | text (text : String)
  deriving DecidableEq, Repr

/-- The reading end: its counter and the bytes that are still to be read. -/
structure Receiver where
  recvNonce : UInt64
  stream : List UInt8
  deriving DecidableEq, Repr

/-- Read a frame and decrypt it. -/
def Receiver.readRawDecrypted (box : SecretBox) (receiver : Receiver) :
    Except ReceiveError (List UInt8) × Receiver :=
  match readRawBytes receiver.stream with
  | .error cause => (.error (.framing cause), receiver)
  | .ok (ciphertext, rest) =>
    let recvNonce := receiver.recvNonce + 1
    match box.openBox (makeNonce recvNonce) ciphertext with
    | none =>
      (.error (.text s!"secure: decryption failed (nonce={recvNonce.toNat})"), ⟨recvNonce, rest⟩)
    | some plaintext => (.ok plaintext, ⟨recvNonce, rest⟩)

section messages

variable {Message : Type}

/-- The message in a decrypted frame. -/
def MessageCodec.decode (codec : MessageCodec Message) (plaintext : List UInt8) :
    Except ReceiveError Message :=
  (codec.unmarshal plaintext).mapError fun cause => .text ("secure: unmarshal: " ++ cause)

/-- Read a frame, decrypt it and unmarshal the message. -/
def Receiver.readMessage (box : SecretBox) (codec : MessageCodec Message) (receiver : Receiver) :
    Except ReceiveError Message × Receiver :=
  let (plaintext, receiver) := receiver.readRawDecrypted box
  (plaintext.bind codec.decode, receiver)

/-- The results of reading a number of messages one after the other. -/
def Receiver.readMessages (box : SecretBox) (codec : MessageCodec Message) :
    Nat → Receiver → List (Except ReceiveError Message)
  | 0, _ => []
  | count + 1, receiver =>
    let (message, receiver) := receiver.readMessage box codec
    message :: receiver.readMessages box codec count

end messages

/-! ### The writing end -/

/-- A call between its lock acquisition and its write: the data, the counter it took, and how many
calls had taken the lock when it had. -/
structure Sealing where
  data : List UInt8
  counter : UInt64
  turn : Nat
  deriving DecidableEq, Repr

/-- The writing end: its counter, the calls under way, and the bytes on the wire. The rest is a
record of the run: the nonces frames were sealed under, the data and turns of the frames that were
written, and whether a write failed after a part of its frame. -/
structure Sender where
  sendNonce : UInt64
  calls : Table Nat Sealing
  wire : List UInt8
  nonces : List (List UInt8)
  sent : List (List UInt8)
  written : List Nat
  torn : Bool

/-- A new connection. -/
def Sender.new : Sender := ⟨0, ∅, [], [], [], [], false⟩

/-- How the write of a frame ends: with the whole frame on the wire, or with an error after some of
its bytes. -/
inductive WriteOutcome
  | complete
  | failed (bytes : Nat)
  deriving DecidableEq, Repr

/-- The steps of the callers: a call of one of the two writers runs up to the end of its lock, and
later writes its frame. -/
inductive Label (Message : Type)
  | writeMessage (call : Nat) (message : Message)
  | writeRawEncrypted (call : Nat) (data : List UInt8)
  | write (call : Nat) (outcome : WriteOutcome)

/-- Take the next counter under the lock. -/
def Sender.takeNonce (sender : Sender) (call : Nat) (data : List UInt8) : Sender :=
  let sendNonce := sender.sendNonce + 1
  { sender with
    sendNonce := sendNonce
    calls := sender.calls.insert call ⟨data, sendNonce, sender.nonces.length + 1⟩
    nonces := sender.nonces ++ [makeNonce sendNonce] }

/-- The frame of a call, or the refusal of the codec. -/
def Sealing.frame (box : SecretBox) (sealing : Sealing) : Except String (List UInt8) :=
  writeRawBytes (box.sealBox (makeNonce sealing.counter) sealing.data)

/-- Write a frame to the connection. -/
def Sender.put (sender : Sender) (sealing : Sealing) (frame : List UInt8) :
    WriteOutcome → Sender
  | .complete =>
    { sender with
      wire := sender.wire ++ frame
      sent := sender.sent ++ [sealing.data]
      written := sender.written ++ [sealing.turn] }
  | .failed bytes =>
    { sender with
      wire := sender.wire ++ frame.take bytes
      torn := sender.torn || !(frame.take bytes).isEmpty }

/-- End a call with its write. -/
def Sender.finish (box : SecretBox) (sender : Sender) (call : Nat) (sealing : Sealing)
    (outcome : WriteOutcome) : Sender :=
  let ended := { sender with calls := sender.calls.erase call }
  match sealing.frame box with
  | .error _ => ended
  | .ok frame => ended.put sealing frame outcome

/-- One step of a caller; a call number is used by one call at a time. -/
def Sender.step {Message : Type} (box : SecretBox) (codec : MessageCodec Message)
    (sender : Sender) : Label Message → Option Sender
  | .writeMessage call message =>
    if (sender.calls.lookup call).isSome then none
    else
      match codec.marshal message with
      | .error _ => some sender
      | .ok data => some (sender.takeNonce call data)
  | .writeRawEncrypted call data =>
    if (sender.calls.lookup call).isSome then none else some (sender.takeNonce call data)
  | .write call outcome =>
    (sender.calls.lookup call).map fun sealing => sender.finish box call sealing outcome

/-- The runs of the writers of one connection. -/
def channel {Message : Type} (box : SecretBox) (codec : MessageCodec Message) :
    System Sender (Label Message) where
  start := (· = Sender.new)
  step := Sender.step box codec

/-! ### The two ends in step -/

/-- The reader that reads as many messages as frames were written gets the content of each, and no
nonce was used twice. -/
structure InStep {Message : Type} (box : SecretBox) (codec : MessageCodec Message)
    (sender : Sender) : Prop where
  decrypted : Receiver.readMessages box codec sender.sent.length ⟨0, sender.wire⟩ =
    sender.sent.map codec.decode
  freshNonces : sender.nonces.Nodup

/-- The writes that come in turn: a call takes one of the first `2 ^ 64` counters, and a frame is
put on the wire when every call that took the lock earlier has written its frame and no torn frame
lies on the wire. -/
def InTurn {Message : Type} (box : SecretBox) (sender : Sender) : Label Message → Prop
  | .writeMessage _ _ | .writeRawEncrypted _ _ => sender.nonces.length < 2 ^ 64
  | .write call .complete => ∀ sealing frame, sender.calls.lookup call = some sealing →
      sealing.frame box = .ok frame →
      sender.torn = false ∧ ∀ turn, 1 ≤ turn → turn < sealing.turn → turn ∈ sender.written
  | .write _ (.failed _) => True

/-- The frames of a list of data, sealed under the counters after a number. -/
def framesAfter (box : SecretBox) : Nat → List (List UInt8) → List UInt8
  | _, [] => []
  | count, data :: others =>
    frame (box.sealBox (makeNonce (UInt64.ofNat (count + 1))) data) ++
      framesAfter box (count + 1) others

theorem framesAfter_concat (box : SecretBox) (count : Nat) (sent : List (List UInt8))
    (data : List UInt8) :
    framesAfter box count (sent ++ [data]) = framesAfter box count sent ++
      frame (box.sealBox (makeNonce (UInt64.ofNat (count + sent.length + 1))) data) := by
  induction sent generalizing count with
  | nil => rw [List.nil_append, framesAfter, framesAfter, framesAfter, List.append_nil,
      List.nil_append, List.length_nil, Nat.add_zero]
  | cons first others inductionHypothesis =>
    rw [List.cons_append, framesAfter, framesAfter, inductionHypothesis, List.append_assoc,
      List.length_cons, Nat.add_right_comm count 1, Nat.add_assoc count]

theorem framed_sealBox (box : SecretBox) (nonce : List UInt8) {data : List UInt8}
    (fits : data.length + 16 ≤ maxFrameSize) : Framed (box.sealBox nonce data) := by
  rw [Framed, box.length_sealBox]
  exact ⟨by omega, fits⟩

/-- A frame sealed under the reader's next counter is decrypted. -/
theorem readRawDecrypted_frame (box : SecretBox) (count : Nat) {data : List UInt8}
    (fits : data.length + 16 ≤ maxFrameSize) (rest : List UInt8) :
    Receiver.readRawDecrypted box
      ⟨UInt64.ofNat count,
        frame (box.sealBox (makeNonce (UInt64.ofNat (count + 1))) data) ++ rest⟩ =
      (.ok data, ⟨UInt64.ofNat (count + 1), rest⟩) := by
  have next : UInt64.ofNat count + 1 = UInt64.ofNat (count + 1) := (UInt64.ofNat_add count 1).symm
  have read := delimits_frame (framed_sealBox box (makeNonce (UInt64.ofNat (count + 1))) fits) rest
  simp only [Receiver.readRawDecrypted, read, next, box.openBox_sealBox]

variable {Message : Type}

/-- Frames sealed under consecutive counters are all decrypted. -/
theorem readMessages_frames (box : SecretBox) (codec : MessageCodec Message)
    (sent : List (List UInt8)) (fit : ∀ data ∈ sent, data.length + 16 ≤ maxFrameSize)
    (count : Nat) (rest : List UInt8) :
    Receiver.readMessages box codec sent.length
      ⟨UInt64.ofNat count, framesAfter box count sent ++ rest⟩ = sent.map codec.decode := by
  induction sent generalizing count with
  | nil => rfl
  | cons data others inductionHypothesis =>
    have first := readRawDecrypted_frame box count (fit data List.mem_cons_self)
      (framesAfter box (count + 1) others ++ rest)
    have remaining := inductionHypothesis
      (fun other member => fit other (List.mem_cons_of_mem _ member)) (count + 1)
    rw [framesAfter, List.append_assoc, List.length_cons, Receiver.readMessages,
      Receiver.readMessage, first]
    simp only [remaining, List.map_cons]
    rfl

/-! ### The invariant -/

/-- What holds as long as every write comes in turn: the counters taken are the first ones in
order, each call under way holds a turn of its own that is not on the wire, and the wire begins
with the written frames, in the order of the turns from the first. -/
structure Paced (box : SecretBox) (sender : Sender) : Prop where
  counter : sender.sendNonce = UInt64.ofNat sender.nonces.length
  nonces : sender.nonces =
    (List.range sender.nonces.length).map fun taken => makeNonce (UInt64.ofNat (taken + 1))
  bounded : sender.nonces.length ≤ 2 ^ 64
  underWay : ∀ call sealing, sender.calls.lookup call = some sealing →
    sealing.counter = UInt64.ofNat sealing.turn ∧ 1 ≤ sealing.turn ∧
      sealing.turn ≤ sender.nonces.length ∧ sealing.turn ∉ sender.written
  distinct : ∀ call other sealing another, sender.calls.lookup call = some sealing →
    sender.calls.lookup other = some another → sealing.turn = another.turn → call = other
  written : sender.written = List.range' 1 sender.sent.length
  behind : sender.sent.length ≤ sender.nonces.length
  fit : ∀ data ∈ sender.sent, data.length + 16 ≤ maxFrameSize
  wire : ∃ rest, sender.wire = framesAfter box 0 sender.sent ++ rest ∧
    (sender.torn = false → rest = [])

theorem paced_new (box : SecretBox) : Paced box Sender.new where
  counter := rfl
  nonces := rfl
  bounded := Nat.zero_le _
  underWay := fun _ _ found => (nomatch found)
  distinct := fun _ _ _ _ found => (nomatch found)
  written := rfl
  behind := Nat.le_refl _
  fit := fun _ member => absurd member List.not_mem_nil
  wire := ⟨[], rfl, fun _ => rfl⟩

variable {box : SecretBox} {sender : Sender}

/-- Taking a counter keeps the pace while there are counters left. -/
theorem Paced.takeNonce (paced : Paced box sender)
    (left : sender.nonces.length < 2 ^ 64) (call : Nat) (data : List UInt8) :
    Paced box (sender.takeNonce call data) := by
  have length : (sender.takeNonce call data).nonces.length = sender.nonces.length + 1 :=
    List.length_append
  have next : sender.sendNonce + 1 = UInt64.ofNat (sender.nonces.length + 1) := by
    rw [paced.counter]
    exact (UInt64.ofNat_add _ 1).symm
  have ahead : ∀ turn ∈ sender.written, turn ≤ sender.nonces.length := by
    intro turn member
    rw [paced.written, List.mem_range'_1] at member
    have behind := paced.behind
    omega
  constructor
  · rw [length]
    exact next
  · rw [length, List.range_succ, List.map_append, ← paced.nonces, List.map_singleton, ← next]
    rfl
  · rw [length]
    exact left
  · intro other sealing found
    rw [length]
    rcases Table.lookup_insert_iff.mp found with ⟨_, rfl⟩ | ⟨_, older⟩
    · refine ⟨next, Nat.le_add_left _ _, Nat.le_refl _, fun member => ?_⟩
      exact absurd (ahead _ member) (Nat.not_le.mpr (Nat.lt_succ_self _))
    · obtain ⟨counter, positive, taken, absent⟩ := paced.underWay other sealing older
      exact ⟨counter, positive, Nat.le_succ_of_le taken, absent⟩
  · intro one other sealing another foundOne foundOther same
    rcases Table.lookup_insert_iff.mp foundOne with ⟨rfl, rfl⟩ | ⟨_, olderOne⟩ <;>
      rcases Table.lookup_insert_iff.mp foundOther with ⟨rfl, rfl⟩ | ⟨_, olderOther⟩
    · rfl
    · have taken := (paced.underWay _ _ olderOther).2.2.1
      exact absurd same (by simp only; omega)
    · have taken := (paced.underWay _ _ olderOne).2.2.1
      exact absurd same (by simp only; omega)
    · exact paced.distinct _ _ _ _ olderOne olderOther same
  · exact paced.written
  · rw [length]
    exact Nat.le_succ_of_le paced.behind
  · exact paced.fit
  · exact paced.wire

/-- Ending a call without a whole frame on the wire keeps the pace. -/
theorem Paced.abandon (paced : Paced box sender) (call : Nat) (bytes : List UInt8) :
    Paced box
      { sender with
        calls := sender.calls.erase call
        wire := sender.wire ++ bytes
        torn := sender.torn || !bytes.isEmpty } where
  counter := paced.counter
  nonces := paced.nonces
  bounded := paced.bounded
  underWay := fun other sealing found =>
    paced.underWay other sealing (Table.lookup_erase_iff.mp found).2
  distinct := fun one other sealing another foundOne foundOther =>
    paced.distinct one other sealing another (Table.lookup_erase_iff.mp foundOne).2
      (Table.lookup_erase_iff.mp foundOther).2
  written := paced.written
  behind := paced.behind
  fit := paced.fit
  wire := by
    obtain ⟨rest, wire, whole⟩ := paced.wire
    refine ⟨rest ++ bytes, by rw [wire, List.append_assoc], fun untorn => ?_⟩
    obtain ⟨notTorn, nothing⟩ := Bool.or_eq_false_iff.mp untorn
    rw [whole notTorn, List.nil_append]
    exact List.isEmpty_iff.mp (by simpa using nothing)

variable {call : Nat} {sealing : Sealing}

/-- Under the pace a frame whose earlier turns are all on the wire is the next one. -/
theorem Paced.turn_eq (paced : Paced box sender) (found : sender.calls.lookup call = some sealing)
    (earlier : ∀ turn, 1 ≤ turn → turn < sealing.turn → turn ∈ sender.written) :
    sealing.turn = sender.sent.length + 1 := by
  obtain ⟨_, positive, _, absent⟩ := paced.underWay call sealing found
  rw [paced.written, List.mem_range'_1] at absent
  have notAfter : ¬ sender.sent.length + 1 < sealing.turn := fun after => by
    have member := earlier (sender.sent.length + 1) (Nat.le_add_left _ _) after
    rw [paced.written, List.mem_range'_1] at member
    omega
  omega

/-- A whole frame in turn keeps the pace. -/
theorem Paced.complete (paced : Paced box sender) (found : sender.calls.lookup call = some sealing)
    (fits : sealing.data.length + 16 ≤ maxFrameSize) (whole : sender.torn = false)
    (earlier : ∀ turn, 1 ≤ turn → turn < sealing.turn → turn ∈ sender.written) :
    Paced box
      { sender with
        calls := sender.calls.erase call
        wire := sender.wire ++ frame (box.sealBox (makeNonce sealing.counter) sealing.data)
        sent := sender.sent ++ [sealing.data]
        written := sender.written ++ [sealing.turn] } := by
  have turn := paced.turn_eq found earlier
  obtain ⟨counter, _, taken, _⟩ := paced.underWay call sealing found
  have length : (sender.sent ++ [sealing.data]).length = sender.sent.length + 1 :=
    List.length_append
  constructor
  · exact paced.counter
  · exact paced.nonces
  · exact paced.bounded
  · intro other another foundOther
    obtain ⟨different, older⟩ := Table.lookup_erase_iff.mp foundOther
    obtain ⟨otherCounter, positive, otherTaken, absent⟩ := paced.underWay other another older
    refine ⟨otherCounter, positive, otherTaken, fun member => ?_⟩
    rcases List.mem_append.mp member with old | new
    · exact absent old
    · exact different (paced.distinct _ _ _ _ older found (List.mem_singleton.mp new))
  · intro one other first second foundOne foundOther
    exact paced.distinct one other first second (Table.lookup_erase_iff.mp foundOne).2
      (Table.lookup_erase_iff.mp foundOther).2
  · rw [length, List.range'_concat, paced.written, turn, Nat.one_mul, Nat.add_comm]
  · rw [length, ← turn]
    exact taken
  · intro data member
    rcases List.mem_append.mp member with old | new
    · exact paced.fit data old
    · rw [List.mem_singleton.mp new]
      exact fits
  · obtain ⟨rest, wire, untorn⟩ := paced.wire
    refine ⟨[], ?_, fun _ => rfl⟩
    rw [untorn whole, List.append_nil] at wire
    rw [framesAfter_concat, Nat.zero_add, ← turn, ← counter, ← wire, List.append_nil]

variable {codec : MessageCodec Message}

/-- Each step in turn keeps the pace. -/
theorem Paced.step {before after : Sender} {label : Label Message} (paced : Paced box before)
    (inTurn : InTurn box before label) (stepped : Sender.step box codec before label = some after) :
    Paced box after := by
  cases label with
  | writeMessage call message =>
    rw [Sender.step] at stepped
    split_ifs at stepped
    cases marshalled : codec.marshal message with
    | error cause =>
      rw [marshalled] at stepped
      exact Option.some.inj stepped ▸ paced
    | ok data =>
      rw [marshalled] at stepped
      exact Option.some.inj stepped ▸ paced.takeNonce inTurn call data
  | writeRawEncrypted call data =>
    rw [Sender.step] at stepped
    split_ifs at stepped
    exact Option.some.inj stepped ▸ paced.takeNonce inTurn call data
  | write call outcome =>
    obtain ⟨sealing, found, rfl⟩ := Option.map_eq_some_iff.mp stepped
    by_cases fits : sealing.data.length + 16 ≤ maxFrameSize
    · have written : sealing.frame box =
          .ok (frame (box.sealBox (makeNonce sealing.counter) sealing.data)) :=
        writeRawBytes_of_framed (framed_sealBox box _ fits)
      rw [Sender.finish, written]
      cases outcome with
      | complete =>
        obtain ⟨whole, earlier⟩ := inTurn sealing _ found written
        exact paced.complete found fits whole earlier
      | failed bytes => exact paced.abandon call _
    · have refused : ∃ text, sealing.frame box = .error text :=
        ⟨_, if_pos (by rw [box.length_sealBox]; omega)⟩
      obtain ⟨text, refused⟩ := refused
      rw [Sender.finish, refused]
      have kept := paced.abandon call []
      rwa [List.append_nil, List.isEmpty_nil, Bool.not_true, Bool.or_false] at kept

/-- In a run whose writes all come in turn, the reader decrypts every frame that was written and
no nonce is used twice. -/
theorem inStep_of_inTurn {Message : Type} (box : SecretBox) (codec : MessageCodec Message)
    {sender : Sender} (reached : ReachableWhen (channel box codec) (InTurn box) sender) :
    InStep box codec sender := by
  have paced : Paced box sender := reached.invariant (Paced box)
    (fun state (initial : state = Sender.new) => initial ▸ paced_new box)
    (fun before label after holds allowed taken => holds.step allowed taken)
  obtain ⟨rest, wire, _⟩ := paced.wire
  constructor
  · rw [wire]
    exact readMessages_frames box codec sender.sent paced.fit 0 rest
  · rw [paced.nonces]
    refine List.Nodup.map_on (fun first firstMember second secondMember same => ?_)
      List.nodup_range
    have numbers := congrArg UInt64.toNat (makeNonce_injective same)
    rw [UInt64.toNat_ofNat', UInt64.toNat_ofNat'] at numbers
    have firstBound := List.mem_range.mp firstMember
    have secondBound := List.mem_range.mp secondMember
    have bounded := paced.bounded
    omega

/-! ### Out of turn -/

/-- The first sixteen bytes of a nonce, which hold its counter. -/
def nonceTag (nonce : List UInt8) : List UInt8 := (nonce ++ List.replicate 16 0).take 16

theorem length_nonceTag (nonce : List UInt8) : (nonceTag nonce).length = 16 := by
  rw [nonceTag, List.length_take, List.length_append, List.length_replicate]
  omega

theorem nonceTag_injective {counter other : UInt64}
    (same : nonceTag (makeNonce counter) = nonceTag (makeNonce other)) : counter = other := by
  have restored (some : UInt64) :
      nonceTag (makeNonce some) ++ List.replicate 8 0 = makeNonce some := rfl
  exact makeNonce_injective ((restored counter).symm.trans (same ▸ restored other))

/-- A box that writes the counter's bytes in front of the data. -/
def taggedBox : SecretBox where
  sealBox nonce data := nonceTag nonce ++ data
  openBox nonce ciphertext :=
    if ciphertext.take 16 = nonceTag nonce then some (ciphertext.drop 16) else none
  length_sealBox nonce data := by
    rw [List.length_append, length_nonceTag, Nat.add_comm]
  openBox_sealBox counter data := by
    rw [if_pos (List.take_left' (length_nonceTag _)), List.drop_left' (length_nonceTag _)]
  openBox_other {counter other} data different := by
    rw [List.take_left' (length_nonceTag _), if_neg]
    exact fun same => different (nonceTag_injective same).symm

/-- Messages that are their own encoding. -/
def plainCodec : MessageCodec (List UInt8) where
  marshal := .ok
  unmarshal := .ok
  unmarshal_marshal := fun marshalled => (Except.ok.inj marshalled).symm ▸ rfl

/-- The content of a frame that is one byte too long. -/
def oversized : List UInt8 := List.replicate 65521 0

/-- A connection on which the frame of the first call was refused and that of the second was
written. -/
def afterRefusal : Sender :=
  let refused := { Sender.new.takeNonce 0 oversized with calls := ∅ }
  (refused.takeNonce 1 [7]).finish taggedBox 1 ⟨[7], 2, 2⟩ .complete

/-- The frame of a call whose box is over the frame size is refused. -/
theorem step_write_oversized (outcome : WriteOutcome)
    (found : sender.calls.lookup call = some sealing)
    (tooLong : maxFrameSize < sealing.data.length + 16) :
    (channel box codec).step sender (.write call outcome) =
      some { sender with calls := sender.calls.erase call } := by
  have refused : ∃ text, sealing.frame box = .error text :=
    ⟨_, if_pos (by rw [box.length_sealBox]; exact tooLong)⟩
  obtain ⟨text, refused⟩ := refused
  show (sender.calls.lookup call).map _ = _
  rw [found, Option.map_some, Sender.finish, refused]

/-- A frame that was refused leaves a gap in the counters, whatever was in it. -/
theorem reachable_of_refused (data : List UInt8) (tooLong : maxFrameSize < data.length + 16) :
    Reachable (channel taggedBox plainCodec)
      (({ Sender.new.takeNonce 0 data with calls := ∅ }.takeNonce 1 [7]).finish taggedBox 1
        ⟨[7], 2, 2⟩ .complete) := by
  have taken : Reachable (channel taggedBox plainCodec) (Sender.new.takeNonce 0 data) :=
    .step (.start rfl) trivial
      (show (channel taggedBox plainCodec).step Sender.new (.writeRawEncrypted 0 data) = _
        from rfl)
  have underWay : (Sender.new.takeNonce 0 data).calls.lookup 0 = some ⟨data, 1, 1⟩ := rfl
  have refused := ReachableWhen.step taken trivial (step_write_oversized .complete underWay tooLong)
  have second := ReachableWhen.step refused trivial
    (show (channel taggedBox plainCodec).step _ (.writeRawEncrypted 1 [7]) = some _ from rfl)
  exact .step second trivial
    (show (channel taggedBox plainCodec).step _ (.write 1 .complete) = _ from rfl)

theorem reachable_afterRefusal : Reachable (channel taggedBox plainCodec) afterRefusal := by
  refine reachable_of_refused oversized ?_
  rw [oversized, List.length_replicate]
  decide

/-- A run in which the frame of the second call goes out before that of the first. -/
def overtaking : List (Label (List UInt8)) :=
  [.writeMessage 0 [1], .writeMessage 1 [2], .write 1 .complete, .write 0 .complete]

/-- Two connections out of step: one whose first frame was refused, and one whose second frame
overtook the first. -/
theorem refusedFrame_outOfStep :
    (∃ sender, Reachable (channel taggedBox plainCodec) sender ∧
      ¬ InStep taggedBox plainCodec sender) ∧
    ∃ sender, Reachable (channel taggedBox plainCodec) sender ∧
      ¬ InStep taggedBox plainCodec sender ∧ sender.sent = [[2], [1]] := by
  constructor
  · refine ⟨afterRefusal, reachable_afterRefusal, fun inStep => ?_⟩
    have decrypted : Receiver.readMessages taggedBox plainCodec 1
        ⟨0, frame (taggedBox.sealBox (makeNonce 2) [7])⟩ = [.ok [7]] := inStep.decrypted
    exact absurd decrypted (by decide)
  · have ran : ((channel taggedBox plainCodec).run Sender.new overtaking).any (fun sender =>
        decide (sender.sent = [[2], [1]]) &&
          decide (Receiver.readMessages taggedBox plainCodec sender.sent.length ⟨0, sender.wire⟩ ≠
            sender.sent.map plainCodec.decode)) = true := by decide
    obtain ⟨sender, reached, passed⟩ := exists_reachable_of_run rfl ran
    obtain ⟨sent, garbled⟩ := Bool.and_eq_true_iff.mp passed
    exact ⟨sender, reached, fun inStep => of_decide_eq_true garbled inStep.decrypted,
      of_decide_eq_true sent⟩

theorem inStep_oneFrame :
    InStep taggedBox plainCodec
      ((Sender.new.takeNonce 0 [1]).finish taggedBox 0 ⟨[1], 1, 1⟩ .complete) := by
  have inTurn : InTurn taggedBox (Sender.new.takeNonce 0 [1])
      (.write 0 .complete : Label (List UInt8)) := by
    intro sealing _ found _
    have same : ⟨[1], 1, 1⟩ = sealing := Option.some.inj found
    subst same
    exact ⟨rfl, fun turn positive earlier => absurd positive (Nat.not_le.mpr earlier)⟩
  have taken : ReachableWhen (channel taggedBox plainCodec) (InTurn taggedBox)
      (Sender.new.takeNonce 0 [1]) :=
    .step (.start rfl)
      (show InTurn taggedBox Sender.new (.writeMessage 0 [1] : Label (List UInt8)) from
        Nat.two_pow_pos 64)
      (show (channel taggedBox plainCodec).step Sender.new (.writeMessage 0 [1]) = _ from rfl)
  exact inStep_of_inTurn taggedBox plainCodec (.step taken inTurn rfl)

/-! ### Nonces -/

/-- The counters taken so far are the first ones, in order. -/
def Sender.Counted (sender : Sender) : Prop :=
  sender.sendNonce = UInt64.ofNat sender.nonces.length ∧
    sender.nonces =
      (List.range sender.nonces.length).map fun taken => makeNonce (UInt64.ofNat (taken + 1))

theorem Sender.Counted.takeNonce (counted : sender.Counted) (call : Nat) (data : List UInt8) :
    (sender.takeNonce call data).Counted := by
  have next : sender.sendNonce + 1 = UInt64.ofNat (sender.nonces.length + 1) := by
    rw [counted.1]
    exact (UInt64.ofNat_add _ 1).symm
  show _ = UInt64.ofNat (sender.nonces ++ [_]).length ∧
    _ = List.map _ (List.range (sender.nonces ++ [_]).length)
  rw [List.length_append, List.length_singleton, List.range_succ, List.map_append, ← counted.2,
    List.map_singleton, ← next]
  exact ⟨rfl, rfl⟩

theorem Sender.Counted.step {label : Label Message} {after : Sender} (counted : sender.Counted)
    (stepped : Sender.step box codec sender label = some after) : after.Counted := by
  cases label with
  | writeMessage call message =>
    rw [Sender.step] at stepped
    split_ifs at stepped
    cases marshalled : codec.marshal message with
    | error cause =>
      rw [marshalled] at stepped
      exact Option.some.inj stepped ▸ counted
    | ok data =>
      rw [marshalled] at stepped
      exact Option.some.inj stepped ▸ counted.takeNonce call data
  | writeRawEncrypted call data =>
    exact (of_guard_not stepped).2 ▸ counted.takeNonce call data
  | write call outcome =>
    obtain ⟨sealing, -, rfl⟩ := Option.map_eq_some_iff.mp stepped
    unfold Sender.finish
    cases sealing.frame box with
    | error _ => exact counted
    | ok frame => cases outcome <;> exact counted

/-- In every run, whatever frames are refused, fail or overtake others, no nonce is used twice as
long as at most `2 ^ 64` calls have taken a counter, and from then on one is. -/
theorem nodup_nonces_iff (box : SecretBox) (codec : MessageCodec Message)
    {sender : Sender} (reached : Reachable (channel box codec) sender) :
    sender.nonces.Nodup ↔ sender.nonces.length ≤ 2 ^ 64 := by
  have nonces := (reached.invariant Sender.Counted
    (fun state (initial : state = Sender.new) => initial ▸ ⟨rfl, rfl⟩)
    fun _ _ _ counted _ stepped => counted.step stepped).2
  have counter : ∀ taken < sender.nonces.length,
      sender.nonces[taken]? = some (makeNonce (UInt64.ofNat (taken + 1))) := fun taken inside => by
    rw [nonces, List.getElem?_map, List.getElem?_range inside]
    rfl
  constructor
  · intro distinct
    by_contra more
    -- The counters start again, so the first nonce is there twice.
    have again : sender.nonces[0]? = sender.nonces[2 ^ 64]? := by
      rw [counter 0 (by omega), counter (2 ^ 64) (by omega), UInt64.ofNat_add (2 ^ 64) 1]
      rfl
    exact absurd ((List.getElem?_inj (by omega) distinct).mp again) (by decide)
  · intro bounded
    refine List.nodup_iff_getElem?_ne_getElem?.mpr fun first second before inside same => ?_
    rw [counter first (by omega), counter second inside, Option.some_inj] at same
    have numbers := congrArg UInt64.toNat (makeNonce_injective same)
    rw [UInt64.toNat_ofNat', UInt64.toNat_ofNat'] at numbers
    omega

theorem nodup_nonces_afterRefusal :
    afterRefusal.nonces.Nodup ↔ afterRefusal.nonces.length ≤ 2 ^ 64 :=
  nodup_nonces_iff taggedBox plainCodec reachable_afterRefusal

end SovaDesk.Crypto
