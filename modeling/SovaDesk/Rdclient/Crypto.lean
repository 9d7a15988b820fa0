/-
This file models the browser's end of an encrypted session and says when its two ends stay in
step.

An end counts the frames it has sealed and the frames it has received, and no counter travels
with a frame. One way of receiving advances the counter whatever becomes of the frame; the
other tries the next counter first and commits it only if the frame opens. A peer may still
send in the clear when encryption is already on, so the second way is the one the client's
connections use. Frames arrive in order, among any number of frames that do not open, and
frames that were accepted before may arrive again.

Counters are numbers of the language, which are exact up to `2^53` and stay there.
-/

import SovaDesk.Crypto.Secure
import SovaDesk.Lib.System

namespace SovaDesk.Rdclient

open Crypto Transition Wire

/-! ### One end -/

def increment (counter : Nat) : Nat := if counter < 2 ^ 53 then counter + 1 else counter

def counterNonce (counter : Nat) : List UInt8 := littleEndian 8 counter ++ List.replicate 16 0

structure RDCrypto (Key : Type) where
  secretKey : Option Key
  enabled : Bool
  sendSeq : Nat
  recvSeq : Nat

/-- The ways to receive a frame. -/
inductive Way where
  | decrypt
  | processIncoming
  | tryDecrypt
  deriving DecidableEq

namespace RDCrypto

variable {Key : Type} (box : Key → SecretBox)

def encrypt (crypto : RDCrypto Key) (plaintext : List UInt8) :
    Except String (List UInt8) × RDCrypto Key :=
  match crypto.secretKey with
  | none => (.error "No symmetric key set", crypto)
  | some key =>
    let sendSeq := increment crypto.sendSeq
    (.ok ((box key).sealBox (counterNonce sendSeq) plaintext), { crypto with sendSeq := sendSeq })

def decrypt (crypto : RDCrypto Key) (data : List UInt8) :
    Except String (Option (List UInt8)) × RDCrypto Key :=
  match crypto.secretKey with
  | none => (.error "No symmetric key set", crypto)
  | some key =>
    let recvSeq := increment crypto.recvSeq
    (.ok ((box key).openBox (counterNonce recvSeq) data), { crypto with recvSeq := recvSeq })

def enable (crypto : RDCrypto Key) : RDCrypto Key :=
  { crypto with enabled := true, sendSeq := 0, recvSeq := 0 }

def tryDecrypt (crypto : RDCrypto Key) (data : List UInt8) : Option (List UInt8 × Nat) :=
  crypto.secretKey.bind fun key =>
    let nextSeq := increment crypto.recvSeq
    ((box key).openBox (counterNonce nextSeq) data).map fun result => (result, nextSeq)

def commitDecrypt (crypto : RDCrypto Key) (seq : Nat) : RDCrypto Key :=
  { crypto with recvSeq := seq }

def processIncoming (crypto : RDCrypto Key) (data : List UInt8) :
    Except String (Option (List UInt8)) × RDCrypto Key :=
  if crypto.enabled then crypto.decrypt box data else (.ok (some data), crypto)

/-- Receive a frame: what it is decrypted to, if it is, and the end afterwards. -/
def receive (crypto : RDCrypto Key) (data : List UInt8) : Way → Option (List UInt8) × RDCrypto Key
  | .decrypt => ((crypto.decrypt box data).1.toOption.join, (crypto.decrypt box data).2)
  | .processIncoming =>
    ((crypto.processIncoming box data).1.toOption.join, (crypto.processIncoming box data).2)
  | .tryDecrypt =>
    match crypto.tryDecrypt box data with
    | some (plaintext, seq) => (some plaintext, crypto.commitDecrypt seq)
    | none => (none, crypto)

theorem encrypt_eq {crypto : RDCrypto Key} {key : Key} (has : crypto.secretKey = some key)
    (plaintext : List UInt8) :
    crypto.encrypt box plaintext =
      (.ok ((box key).sealBox (counterNonce (increment crypto.sendSeq)) plaintext),
        { crypto with sendSeq := increment crypto.sendSeq }) := by
  rw [encrypt, has]

/-- All ways try the next counter. They differ in the counter after a frame that does not open. -/
theorem receive_eq {crypto : RDCrypto Key} {key : Key} (has : crypto.secretKey = some key)
    (on : crypto.enabled = true) (data : List UInt8) (way : Way) :
    crypto.receive box data way =
      ((box key).openBox (counterNonce (increment crypto.recvSeq)) data,
        if (box key).openBox (counterNonce (increment crypto.recvSeq)) data = none ∧
            way = .tryDecrypt then crypto
        else { crypto with recvSeq := increment crypto.recvSeq }) := by
  have decrypted : crypto.decrypt box data =
      (.ok ((box key).openBox (counterNonce (increment crypto.recvSeq)) data),
        { crypto with recvSeq := increment crypto.recvSeq }) := by
    rw [decrypt, has]
  cases way with
  | decrypt =>
    rw [receive, decrypted, if_neg fun both => Way.noConfusion both.2]
    rfl
  | processIncoming =>
    rw [receive, processIncoming, if_pos on, decrypted, if_neg fun both => Way.noConfusion both.2]
    rfl
  | tryDecrypt =>
    have tried : crypto.tryDecrypt box data =
        ((box key).openBox (counterNonce (increment crypto.recvSeq)) data).map
          fun result => (result, increment crypto.recvSeq) := by
      rw [tryDecrypt, has]
      rfl
    rw [receive, tried]
    cases opened : (box key).openBox (counterNonce (increment crypto.recvSeq)) data with
    | none => rw [if_pos ⟨rfl, rfl⟩]; rfl
    | some plaintext => rw [if_neg fun both => Option.some_ne_none _ both.1]; rfl

end RDCrypto

/-! ### A session -/

inductive Side where
  | left
  | right
  deriving DecidableEq

def Side.other : Side → Side
  | .left => .right
  | .right => .left

/-- A frame on its way, with the plaintext that was sealed in it. -/
structure Sent where
  plaintext : List UInt8
  frame : List UInt8

/-- A frame that was received, with the plaintext that was sealed in it if the peer sent it, and
what it was decrypted to. -/
structure Receipt where
  frame : List UInt8
  sent : Option (List UInt8)
  way : Way
  result : Option (List UInt8)

/-- The two ends and the frames on their way to each. The rest is a record of the run: the nonces
each end has sealed under, and the frames each has received, the latest first. -/
structure Session (Key : Type) where
  ends : Side → RDCrypto Key
  wire : Side → List Sent
  nonces : Side → List (List UInt8)
  receipts : Side → List Receipt

inductive Label where
  | send (side : Side) (plaintext : List UInt8)
  | deliver (side : Side) (way : Way)
  | inject (side : Side) (frame : List UInt8) (way : Way)

section session

variable {Key : Type} (box : Key → SecretBox)

/-- Both ends have one key, and encryption was just enabled. -/
def Session.Starts (session : Session Key) : Prop :=
  (∃ key, ∀ side, ∃ before : RDCrypto Key,
    before.secretKey = some key ∧ session.ends side = before.enable) ∧
  (∀ side, session.wire side = []) ∧ (∀ side, session.nonces side = []) ∧
  ∀ side, session.receipts side = []

def Session.take (session : Session Key) (side : Side) (frame : List UInt8)
    (sent : Option (List UInt8)) (way : Way) : Session Key :=
  let received := (session.ends side).receive box frame way
  { session with
    ends := Function.update session.ends side received.2
    receipts := Function.update session.receipts side
      (⟨frame, sent, way, received.1⟩ :: session.receipts side) }

/-- A frame that may be put in among the peer's: one that does not open, or one that was accepted
before. -/
def Session.Injected (session : Session Key) (side : Side) (frame : List UInt8) : Prop :=
  (session.ends side).tryDecrypt box frame = none ∨
    ∃ receipt ∈ session.receipts side, receipt.frame = frame ∧ receipt.result.isSome

instance (session : Session Key) (side : Side) (frame : List UInt8) :
    Decidable (session.Injected box side frame) :=
  inferInstanceAs (Decidable (_ ∨ _))

def Session.step (session : Session Key) : Label → Option (Session Key)
  | .send side plaintext =>
    match (session.ends side).encrypt box plaintext with
    | (.error _, _) => none
    | (.ok frame, crypto) =>
      some { session with
        ends := Function.update session.ends side crypto
        wire := Function.update session.wire side.other
          (session.wire side.other ++ [⟨plaintext, frame⟩])
        nonces := Function.update session.nonces side
          (counterNonce crypto.sendSeq :: session.nonces side) }
  | .deliver side way =>
    match session.wire side with
    | [] => none
    | sent :: rest =>
      some { session.take box side sent.frame (some sent.plaintext) way with
        wire := Function.update session.wire side rest }
  | .inject side frame way =>
    if session.Injected box side frame then some (session.take box side frame none way) else none

def system : System (Session Key) Label where
  start := Session.Starts
  step := Session.step box

end session

/-! ### What is promised -/

/-- Every frame of the peer was decrypted to its plaintext. -/
def Session.Decrypted {Key : Type} (session : Session Key) : Prop :=
  ∀ side, ∀ receipt ∈ session.receipts side, ∀ plaintext, receipt.sent = some plaintext →
    receipt.result = some plaintext

/-- The frames that were not the peer's were all received with the counter committed only after. -/
def Unspoiled (receipts : List Receipt) : Prop :=
  ∀ receipt ∈ receipts, receipt.sent = none → receipt.way = .tryDecrypt

/-- Every frame of the peer was decrypted to its plaintext if no frame before it spoiled the
counter. -/
def InStep (receipts : List Receipt) : Prop :=
  ∀ receipt earlier, (receipt :: earlier) <:+ receipts → Unspoiled earlier →
    ∀ plaintext, receipt.sent = some plaintext → receipt.result = some plaintext

def acceptedFrames (receipts : List Receipt) : List (List UInt8) :=
  (receipts.filter (·.result.isSome)).map Receipt.frame

/-- The number of the peer's frames among those received. -/
def delivered (receipts : List Receipt) : Nat := receipts.countP (·.sent.isSome)

theorem delivered_cons_some (frame plaintext : List UInt8) (way : Way)
    (result : Option (List UInt8)) (receipts : List Receipt) :
    delivered (⟨frame, some plaintext, way, result⟩ :: receipts) = delivered receipts + 1 :=
  List.countP_cons_of_pos rfl

theorem delivered_cons_none (frame : List UInt8) (way : Way) (result : Option (List UInt8))
    (receipts : List Receipt) :
    delivered (⟨frame, none, way, result⟩ :: receipts) = delivered receipts :=
  List.countP_cons_of_neg Bool.false_ne_true

/-! ### Counters and nonces -/

/-- A count as a counter holds it. -/
def capped (count : Nat) : Nat := min count (2 ^ 53)

theorem increment_capped (count : Nat) : increment (capped count) = capped (count + 1) := by
  unfold increment capped
  split <;> omega

variable {counter : Nat}

theorem increment_le (bound : counter ≤ 2 ^ 53) : increment counter ≤ 2 ^ 53 := by
  unfold increment
  split <;> omega

theorem counterNonce_eq (bound : counter ≤ 2 ^ 53) :
    counterNonce counter = makeNonce (UInt64.ofNat counter) := by
  rw [counterNonce, makeNonce, UInt64.toNat_ofNat', Nat.mod_eq_of_lt (by omega)]

theorem ofNat_ne {other : Nat} (bound : counter ≤ 2 ^ 53) (otherBound : other ≤ 2 ^ 53)
    (different : counter ≠ other) : UInt64.ofNat counter ≠ UInt64.ofNat other := by
  intro same
  have numbers := congrArg UInt64.toNat same
  rw [UInt64.toNat_ofNat', UInt64.toNat_ofNat', Nat.mod_eq_of_lt (by omega),
    Nat.mod_eq_of_lt (by omega)] at numbers
  exact different numbers

theorem counterNonce_injective {other : Nat} (bound : counter ≤ 2 ^ 53)
    (otherBound : other ≤ 2 ^ 53) (same : counterNonce counter = counterNonce other) :
    counter = other := by
  by_contra different
  rw [counterNonce_eq bound, counterNonce_eq otherBound] at same
  exact ofNat_ne bound otherBound different (makeNonce_injective same)

theorem openBox_sealBox (box : SecretBox) (bound : counter ≤ 2 ^ 53) (plaintext : List UInt8) :
    box.openBox (counterNonce counter) (box.sealBox (counterNonce counter) plaintext) =
      some plaintext := by
  rw [counterNonce_eq bound, box.openBox_sealBox]

/-- What opens under a counter was sealed under no other. -/
theorem eq_of_openBox (box : SecretBox) {other : Nat} (bound : counter ≤ 2 ^ 53)
    (otherBound : other ≤ 2 ^ 53) {plaintext found : List UInt8}
    (opened : box.openBox (counterNonce counter)
      (box.sealBox (counterNonce other) plaintext) = some found) : counter = other := by
  by_contra different
  rw [counterNonce_eq bound, counterNonce_eq otherBound,
    box.openBox_other plaintext (ofNat_ne bound otherBound different)] at opened
  exact Option.some_ne_none _ opened.symm

/-! ### One direction -/

/-- Frames sealed under the counters that follow a count. -/
def Sealed (box : SecretBox) : Nat → List Sent → Prop
  | _, [] => True
  | count, sent :: rest =>
    sent.frame = box.sealBox (counterNonce (capped (count + 1))) sent.plaintext ∧
      Sealed box (count + 1) rest

variable {wire : List Sent}

theorem Sealed.concat {box : SecretBox} {count : Nat}
    (sealed : Sealed box count wire) (plaintext : List UInt8) :
    Sealed box count (wire ++ [⟨plaintext,
      box.sealBox (counterNonce (capped (count + wire.length + 1))) plaintext⟩]) := by
  induction wire generalizing count with
  | nil => exact ⟨rfl, trivial⟩
  | cons sent rest inductionHypothesis =>
    obtain ⟨first, rest⟩ := sealed
    have later := inductionHypothesis rest
    rw [Nat.add_right_comm count 1] at later
    exact ⟨first, later⟩

/-- What holds of the frames from one end to the other: the counters of the two ends, the frames on
their way, the nonces they were sealed under and the frames that were received. -/
structure Paced (box : SecretBox) (sendSeq recvSeq : Nat) (wire : List Sent)
    (nonces : List (List UInt8)) (receipts : List Receipt) : Prop where
  sent : sendSeq = capped (delivered receipts + wire.length)
  sealed : Sealed box (delivered receipts) wire
  fresh : sendSeq < 2 ^ 53 → nonces.Nodup ∧ ∀ nonce ∈ nonces, ∃ counter, counter ≤ sendSeq ∧
    nonce = counterNonce counter
  bound : recvSeq ≤ 2 ^ 53
  accepted : recvSeq < 2 ^ 53 → (acceptedFrames receipts).Nodup
  opened : ∀ frame ∈ acceptedFrames receipts, ∃ counter, counter ≤ recvSeq ∧
    ∃ plaintext, frame = box.sealBox (counterNonce counter) plaintext
  pace : Unspoiled receipts → recvSeq = capped (delivered receipts)
  inStep : InStep receipts

theorem paced_start (box : SecretBox) : Paced box 0 0 [] [] [] where
  sent := rfl
  sealed := trivial
  fresh _ := ⟨List.nodup_nil, fun _ member => absurd member List.not_mem_nil⟩
  bound := Nat.zero_le _
  accepted _ := List.nodup_nil
  opened _ member := absurd member List.not_mem_nil
  pace _ := rfl
  inStep _ _ suffix := absurd (List.suffix_nil.mp suffix) (List.cons_ne_nil _ _)

theorem Paced.send {box : SecretBox} {sendSeq recvSeq : Nat}
    {nonces : List (List UInt8)} {receipts : List Receipt}
    (paced : Paced box sendSeq recvSeq wire nonces receipts) (plaintext : List UInt8) :
    Paced box (increment sendSeq) recvSeq
      (wire ++ [⟨plaintext, box.sealBox (counterNonce (increment sendSeq)) plaintext⟩])
      (counterNonce (increment sendSeq) :: nonces) receipts where
  sent := by rw [paced.sent, increment_capped, List.length_append, List.length_singleton]; rfl
  sealed := by
    rw [paced.sent, increment_capped]
    exact paced.sealed.concat plaintext
  fresh small := by
    have next : sendSeq < 2 ^ 53 ∧ increment sendSeq = sendSeq + 1 := by
      unfold increment at small ⊢
      split at small
      · next below => exact ⟨below, if_pos below⟩
      · next above => exact absurd small above
    obtain ⟨nodup, counters⟩ := paced.fresh next.1
    refine ⟨List.nodup_cons.mpr ⟨fun member => ?_, nodup⟩, List.forall_mem_cons.mpr
      ⟨⟨_, le_refl _, rfl⟩, fun nonce member => ?_⟩⟩
    · obtain ⟨counter, below, same⟩ := counters _ member
      have equal := counterNonce_injective small.le (by omega) same
      omega
    · obtain ⟨counter, below, same⟩ := counters nonce member
      exact ⟨counter, by omega, same⟩
  bound := paced.bound
  accepted := paced.accepted
  opened := paced.opened
  pace := paced.pace
  inStep := paced.inStep

/-- The counter of the receiving end after a frame. -/
def afterFrame (recvSeq : Nat) (opened : Option (List UInt8)) (way : Way) : Nat :=
  if opened = none ∧ way = .tryDecrypt then recvSeq else increment recvSeq

theorem le_increment (counter : Nat) : counter ≤ increment counter := by
  unfold increment
  split <;> omega

theorem le_afterFrame (recvSeq : Nat) (opened : Option (List UInt8)) (way : Way) :
    recvSeq ≤ afterFrame recvSeq opened way := by
  unfold afterFrame
  split
  · exact le_refl recvSeq
  · exact le_increment recvSeq

theorem afterFrame_le {recvSeq : Nat} (bound : recvSeq ≤ 2 ^ 53) (opened : Option (List UInt8))
    (way : Way) : afterFrame recvSeq opened way ≤ 2 ^ 53 := by
  unfold afterFrame
  split
  · exact bound
  · exact increment_le bound

theorem afterFrame_some (recvSeq : Nat) (plaintext : List UInt8) (way : Way) :
    afterFrame recvSeq (some plaintext) way = increment recvSeq :=
  if_neg fun both => Option.some_ne_none plaintext both.1

section receiving

variable {box : SecretBox} {sendSeq recvSeq : Nat} {wire rest : List Sent}
  {nonces : List (List UInt8)} {receipts : List Receipt}

/-- A frame that is accepted was sealed under the next counter, and the frames accepted before it
under earlier ones. -/
theorem Paced.accept (paced : Paced box sendSeq recvSeq wire nonces receipts) {frame : List UInt8}
    {sent opened : Option (List UInt8)} {way : Way}
    (same : box.openBox (counterNonce (increment recvSeq)) frame = opened)
    (source : opened ≠ none → ∃ counter, counter ≤ 2 ^ 53 ∧
      ∃ plaintext, frame = box.sealBox (counterNonce counter) plaintext) :
    (afterFrame recvSeq opened way < 2 ^ 53 →
      (acceptedFrames (⟨frame, sent, way, opened⟩ :: receipts)).Nodup) ∧
    ∀ held ∈ acceptedFrames (⟨frame, sent, way, opened⟩ :: receipts), ∃ counter,
      counter ≤ afterFrame recvSeq opened way ∧
        ∃ plaintext, held = box.sealBox (counterNonce counter) plaintext := by
  have below := le_afterFrame recvSeq opened way
  have older (held : List UInt8) (member : held ∈ acceptedFrames receipts) : ∃ counter,
      counter ≤ afterFrame recvSeq opened way ∧
        ∃ plaintext, held = box.sealBox (counterNonce counter) plaintext := by
    obtain ⟨counter, earlier, found⟩ := paced.opened held member
    exact ⟨counter, earlier.trans below, found⟩
  cases opened with
  | none => exact ⟨fun small => paced.accepted (below.trans_lt small), older⟩
  | some found =>
    have frames : acceptedFrames (⟨frame, sent, way, some found⟩ :: receipts) =
        frame :: acceptedFrames receipts := rfl
    have bound := increment_le paced.bound
    rw [frames, afterFrame_some]
    rw [afterFrame_some] at older
    obtain ⟨counter, small, plaintext, rfl⟩ := source (Option.some_ne_none found)
    obtain rfl := eq_of_openBox box bound small same
    refine ⟨fun room => List.nodup_cons.mpr ⟨fun member => ?_, paced.accepted ?_⟩,
      List.forall_mem_cons.mpr ⟨⟨_, le_refl _, plaintext, rfl⟩, older⟩⟩
    · obtain ⟨earlier, before, other, again⟩ := paced.opened _ member
      rw [again] at same
      have equal := eq_of_openBox box bound (before.trans paced.bound) same
      unfold increment at equal room
      split at equal
      · omega
      · next above =>
        rw [if_neg above] at room
        exact above room
    · exact (le_increment recvSeq).trans_lt room

theorem Paced.deliver {first : Sent}
    (paced : Paced box sendSeq recvSeq (first :: rest) nonces receipts) (way : Way) :
    Paced box sendSeq
      (afterFrame recvSeq (box.openBox (counterNonce (increment recvSeq)) first.frame) way)
        rest nonces
      (⟨first.frame, some first.plaintext, way,
        box.openBox (counterNonce (increment recvSeq)) first.frame⟩ :: receipts) := by
  obtain ⟨frame, sealed⟩ := paced.sealed
  have capped_le (count : Nat) : capped count ≤ 2 ^ 53 := Nat.min_le_right count _
  have decrypted (unspoiled : Unspoiled receipts) :
      box.openBox (counterNonce (increment recvSeq)) first.frame = some first.plaintext := by
    rw [paced.pace unspoiled, increment_capped, frame, openBox_sealBox box (capped_le _)]
  obtain ⟨accepted, opened⟩ := @Paced.accept _ _ _ _ _ _ paced first.frame (some first.plaintext)
    _ way rfl fun _ => ⟨_, capped_le _, first.plaintext, frame⟩
  refine ⟨?_, ?_, paced.fresh, afterFrame_le paced.bound _ _, accepted, opened,
    fun unspoiled => ?_, fun receipt earlier suffix unspoiled => ?_⟩
  · rw [paced.sent, delivered_cons_some, List.length_cons, Nat.add_right_comm, Nat.add_assoc]
  · rwa [delivered_cons_some]
  · have before : Unspoiled receipts :=
      fun receipt member => unspoiled receipt (List.mem_cons_of_mem _ member)
    rw [decrypted before, afterFrame_some, paced.pace before, increment_capped,
      delivered_cons_some]
  · rcases List.suffix_cons_iff.mp suffix with latest | older
    · obtain ⟨rfl, rfl⟩ := List.cons_eq_cons.mp latest
      exact fun plaintext sent => (decrypted unspoiled).trans sent
    · exact paced.inStep receipt earlier older unspoiled

theorem Paced.inject (paced : Paced box sendSeq recvSeq wire nonces receipts) {frame : List UInt8}
    (injected : box.openBox (counterNonce (increment recvSeq)) frame = none ∨
      frame ∈ acceptedFrames receipts) (way : Way) :
    Paced box sendSeq
      (afterFrame recvSeq (box.openBox (counterNonce (increment recvSeq)) frame) way) wire nonces
      (⟨frame, none, way, box.openBox (counterNonce (increment recvSeq)) frame⟩ :: receipts) := by
  have source (opens : box.openBox (counterNonce (increment recvSeq)) frame ≠ none) :
      ∃ counter, counter ≤ recvSeq ∧
        ∃ plaintext, frame = box.sealBox (counterNonce counter) plaintext :=
    injected.elim (fun closed => absurd closed opens) (paced.opened frame)
  obtain ⟨accepted, opened⟩ := @Paced.accept _ _ _ _ _ _ paced frame none _ way rfl (by
    intro opens
    obtain ⟨counter, earlier, found⟩ := source opens
    exact ⟨counter, earlier.trans paced.bound, found⟩)
  refine ⟨?_, ?_, paced.fresh, afterFrame_le paced.bound _ _, accepted, opened,
    fun unspoiled => ?_, fun receipt earlier suffix unspoiled => ?_⟩
  · rw [paced.sent, delivered_cons_none]
  · rw [delivered_cons_none]
    exact paced.sealed
  · have before : Unspoiled receipts :=
      fun receipt member => unspoiled receipt (List.mem_cons_of_mem _ member)
    have tried : way = .tryDecrypt := unspoiled _ List.mem_cons_self rfl
    rw [delivered_cons_none, ← paced.pace before]
    cases opens : box.openBox (counterNonce (increment recvSeq)) frame with
    | none => exact if_pos ⟨rfl, tried⟩
    | some found =>
      -- Only a counter that has stopped accepts a frame again.
      obtain ⟨counter, earlier, plaintext, rfl⟩ := source (opens ▸ Option.some_ne_none found)
      have same := eq_of_openBox box (increment_le paced.bound) (earlier.trans paced.bound) opens
      rw [afterFrame_some]
      exact le_antisymm (same ▸ earlier) (le_increment recvSeq)
  · rcases List.suffix_cons_iff.mp suffix with latest | older
    · obtain ⟨rfl, rfl⟩ := List.cons_eq_cons.mp latest
      exact fun plaintext sent => (Option.some_ne_none plaintext sent.symm).elim
    · exact paced.inStep receipt earlier older unspoiled

end receiving

/-! ### Both directions -/

section directions

variable {Key : Type} {box : Key → SecretBox} {session : Session Key}

/-- Both ends have the key, and both directions are in order. -/
structure Kept (box : Key → SecretBox) (key : Key) (session : Session Key) : Prop where
  has (side : Side) : (session.ends side).secretKey = some key
  enabled (side : Side) : (session.ends side).enabled = true
  paced (side : Side) : Paced (box key) (session.ends side.other).sendSeq
    (session.ends side).recvSeq
    (session.wire side) (session.nonces side.other) (session.receipts side)

theorem Side.other_other (side : Side) : side.other.other = side := by
  cases side <;> rfl

theorem Side.other_ne (side : Side) : side.other ≠ side := by
  cases side <;> exact Side.noConfusion

theorem Side.eq_or_eq_other (side some : Side) : some = side ∨ some = side.other := by
  cases side <;> cases some <;> decide

theorem Session.Starts.kept (starts : session.Starts) : ∃ key, Kept box key session := by
  obtain ⟨⟨key, ends⟩, wire, nonces, receipts⟩ := starts
  refine ⟨key, fun side => ?_, fun side => ?_, fun side => ?_⟩
  · obtain ⟨before, has, same⟩ := ends side
    rw [same]
    exact has
  · obtain ⟨before, -, same⟩ := ends side
    rw [same]
    rfl
  · obtain ⟨before, -, same⟩ := ends side
    obtain ⟨otherBefore, -, otherSame⟩ := ends side.other
    rw [same, otherSame, wire, nonces, receipts]
    exact paced_start (box key)

/-- What an end receives moves its counter and adds to its record. -/
theorem Kept.take_eq {key : Key} (kept : Kept box key session) (side : Side) (frame : List UInt8)
    (sent : Option (List UInt8)) (way : Way) :
    session.take box side frame sent way =
      let opened := (box key).openBox (counterNonce (increment (session.ends side).recvSeq)) frame
      { session with
        ends := Function.update session.ends side { session.ends side with
          recvSeq := afterFrame (session.ends side).recvSeq opened way }
        receipts := Function.update session.receipts side
          (⟨frame, sent, way, opened⟩ :: session.receipts side) } := by
  unfold Session.take afterFrame
  dsimp only
  rw [RDCrypto.receive_eq box (kept.has side) (kept.enabled side)]
  split <;> rfl

theorem Kept.injected {key : Key} (kept : Kept box key session) {side : Side} {frame : List UInt8}
    (injected : session.Injected box side frame) :
    (box key).openBox (counterNonce (increment (session.ends side).recvSeq)) frame = none ∨
      frame ∈ acceptedFrames (session.receipts side) := by
  rcases injected with closed | ⟨receipt, member, rfl, accepted⟩
  · rw [RDCrypto.tryDecrypt, kept.has] at closed
    exact Or.inl (Option.map_eq_none_iff.mp closed)
  · exact Or.inr (List.mem_map.mpr ⟨receipt, List.mem_filter.mpr ⟨member, accepted⟩, rfl⟩)

/-- The ends keep the key when the counters of one of them change. -/
theorem Kept.keyed {key : Key} (kept : Kept box key session) (side other : Side)
    (sendSeq recvSeq : Nat) :
    let now := Function.update session.ends side { session.ends side with sendSeq, recvSeq } other
    now.secretKey = some key ∧ now.enabled = true := by
  rcases eq_or_ne other side with rfl | different
  · rw [Function.update_self]
    exact ⟨kept.has other, kept.enabled other⟩
  · rw [Function.update_of_ne different]
    exact ⟨kept.has other, kept.enabled other⟩

theorem Kept.send {key : Key} (kept : Kept box key session) (side : Side) (plaintext : List UInt8) :
    ∃ after, session.step box (.send side plaintext) = some after ∧ Kept box key after := by
  rw [Session.step, RDCrypto.encrypt_eq box (kept.has side)]
  refine ⟨_, rfl, fun some => ?_, fun some => ?_, fun some => ?_⟩
  · exact (kept.keyed side some _ _).1
  · exact (kept.keyed side some _ _).2
  · have pace := kept.paced some
    dsimp only
    rcases Side.eq_or_eq_other side some with rfl | rfl
    · rw [Function.update_of_ne (Side.other_ne some), Function.update_self,
        Function.update_of_ne (Side.other_ne some).symm, Function.update_of_ne (Side.other_ne some)]
      exact pace
    · rw [Side.other_other, Function.update_self, Function.update_of_ne (Side.other_ne side),
        Function.update_self, Function.update_self]
      rw [Side.other_other] at pace
      exact pace.send plaintext

/-- Receiving a frame concerns the direction towards the end that receives it. -/
theorem Kept.take {key : Key} (kept : Kept box key session) {side : Side} {frame : List UInt8}
    {sent : Option (List UInt8)} {way : Way}
    (paced : let opened :=
        (box key).openBox (counterNonce (increment (session.ends side).recvSeq)) frame
      Paced (box key) (session.ends side.other).sendSeq
        (afterFrame (session.ends side).recvSeq opened way) wire (session.nonces side.other)
        (⟨frame, sent, way, opened⟩ :: session.receipts side)) :
    Kept box key { session.take box side frame sent way with
      wire := Function.update session.wire side wire } := by
  rw [kept.take_eq]
  refine ⟨fun some => ?_, fun some => ?_, fun some => ?_⟩
  · exact (kept.keyed side some _ _).1
  · exact (kept.keyed side some _ _).2
  · dsimp only
    rcases Side.eq_or_eq_other side some with rfl | rfl
    · rw [Function.update_of_ne (Side.other_ne some), Function.update_self, Function.update_self,
        Function.update_self]
      exact paced
    · have pace := kept.paced side.other
      rw [Side.other_other] at pace ⊢
      rw [Function.update_self, Function.update_of_ne (Side.other_ne side),
        Function.update_of_ne (Side.other_ne side), Function.update_of_ne (Side.other_ne side)]
      exact pace

theorem Kept.step {key : Key} (kept : Kept box key session) {label : Label} {after : Session Key}
    (taken : session.step box label = some after) : Kept box key after := by
  cases label with
  | send side plaintext =>
    obtain ⟨sent, stepped, keptAfter⟩ := kept.send side plaintext
    obtain rfl := Option.some.inj (stepped.symm.trans taken)
    exact keptAfter
  | deliver side way =>
    have paced := kept.paced side
    rw [Session.step] at taken
    cases onWire : session.wire side with
    | nil =>
      rw [onWire] at taken
      exact (Option.some_ne_none _ taken.symm).elim
    | cons first rest =>
      rw [onWire] at taken paced
      obtain rfl := Option.some.inj taken
      exact kept.take (paced.deliver way)
  | inject side frame way =>
    obtain ⟨injected, rfl⟩ := Transition.of_guard taken
    have keptAfter := kept.take ((kept.paced side).inject (kept.injected injected) way)
    rwa [Function.update_eq_self] at keptAfter

/-- In every run each end decrypts the peer's frames to their plaintexts, as long as it receives
other frames without committing the counter; and below `2^53` it never accepts a frame twice and
never seals two frames under one nonce. -/
theorem session_inStep (box : Key → SecretBox) (reached : Reachable (system box) session)
    (side : Side) :
    InStep (session.receipts side) ∧
      ((session.ends side).recvSeq < 2 ^ 53 → (acceptedFrames (session.receipts side)).Nodup) ∧
      ((session.ends side).sendSeq < 2 ^ 53 → (session.nonces side).Nodup) := by
  obtain ⟨key, kept⟩ : ∃ key, Kept box key session := by
    refine reached.invariant (fun session => ∃ key, Kept box key session)
      (fun _ starts => Session.Starts.kept starts) ?_
    rintro before label after ⟨key, kept⟩ - taken
    exact ⟨key, kept.step taken⟩
  have inward := kept.paced side
  have outward := kept.paced side.other
  rw [Side.other_other] at outward
  exact ⟨inward.inStep, inward.accepted, fun small => (outward.fresh small).1⟩

end directions

/-! ### What is not promised -/

/-- Two ends that have just enabled encryption. -/
def enabledSession : Session Unit where
  ends _ := RDCrypto.enable ⟨some (), false, 0, 0⟩
  wire _ := []
  nonces _ := []
  receipts _ := []

theorem starts_enabledSession : enabledSession.Starts :=
  ⟨⟨(), fun _ => ⟨⟨some (), false, 0, 0⟩, rfl, rfl⟩⟩, fun _ => rfl, fun _ => rfl, fun _ => rfl⟩

/-- A frame in the clear that is received by decrypting makes the peer's first frame unreadable. And
the two ends' first frames have one nonce. -/
theorem spoiled_session :
    (∃ session, Reachable (system fun _ : Unit => taggedBox) session ∧ ¬ session.Decrypted) ∧
    ∃ session, Reachable (system fun _ : Unit => taggedBox) session ∧
      ¬ (session.nonces .left ++ session.nonces .right).Nodup := by
  constructor
  · have ran : ((system fun _ : Unit => taggedBox).run enabledSession
        [.inject .right [1] .decrypt, .send .left [7], .deliver .right .tryDecrypt]).any
        (fun session => (session.receipts .right).any fun receipt =>
          decide (receipt.sent = some [7] ∧ receipt.result = none)) = true := by
      decide +kernel
    obtain ⟨session, reached, passed⟩ := exists_reachable_of_run starts_enabledSession ran
    obtain ⟨receipt, member, both⟩ := List.any_eq_true.mp passed
    obtain ⟨sent, lost⟩ := of_decide_eq_true both
    exact ⟨session, reached, fun decrypted => Option.some_ne_none _
      ((decrypted .right receipt member [7] sent).symm.trans lost)⟩
  · have ran : ((system fun _ : Unit => taggedBox).run enabledSession
        [.send .left [7], .send .right [8]]).any
        (fun session => decide ¬ (session.nonces .left ++ session.nonces .right).Nodup) = true := by
      decide +kernel
    obtain ⟨session, reached, passed⟩ := exists_reachable_of_run starts_enabledSession ran
    exact ⟨session, reached, of_decide_eq_true passed⟩

/-- Frames in the clear that are tried first leave the session in step. -/
theorem session_inStep_mixed :
    ∃ session, (Reachable (system fun _ : Unit => taggedBox) session ∧
      (session.receipts .right).length = 2) ∧ InStep (session.receipts .right) ∧
      ((session.ends .right).recvSeq < 2 ^ 53 →
        (acceptedFrames (session.receipts .right)).Nodup) ∧
      ((session.ends .right).sendSeq < 2 ^ 53 → (session.nonces .right).Nodup) := by
  have ran : ((system fun _ : Unit => taggedBox).run enabledSession
      [.inject .right [1] .tryDecrypt, .send .left [7], .deliver .right .tryDecrypt]).any
      (fun session => decide ((session.receipts .right).length = 2)) = true := by
    decide +kernel
  obtain ⟨session, reached, passed⟩ := exists_reachable_of_run starts_enabledSession ran
  exact ⟨session, ⟨reached, of_decide_eq_true passed⟩,
    session_inStep (fun _ : Unit => taggedBox) reached .right⟩

end SovaDesk.Rdclient
