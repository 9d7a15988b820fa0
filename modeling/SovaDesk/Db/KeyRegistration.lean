/-
This file settles which columns of a device's row a key registration leaves as they are.

The handler passes a record with an ID, a UUID, a key and a status to a general upsert, and
the upsert decides column by column: most columns keep their old value when the new one is
empty, but the address, the NAT type, the disabled flag, the heartbeat sequence and the
time of the last contact are overwritten with the record's empty ones. Both backends do so;
the three columns that only one of them lists are kept by the other one anyway. The row is
taken here with all its columns, and its view in the signal server's tables is the one the
handler works on.
-/

import SovaDesk.Db.Peers
import SovaDesk.Signal.Identity

namespace SovaDesk.Db

open Signal

/-! ### The upsert -/

inductive Backend
  | sqlite
  | postgres
  deriving DecidableEq

/-- The update of `UpsertPeer` on a row of the same ID. It names no other column. -/
def upsertPeer (backend : Backend) (old new : Peer) : Peer :=
  let listed : Peer :=
    { old with
      uuid := PeerDB.keepIfEmpty new.uuid old.uuid
      pk := new.pk.or old.pk
      ip := new.ip
      user := PeerDB.keepIfEmpty new.user old.user
      hostname := PeerDB.keepIfEmpty new.hostname old.hostname
      os := PeerDB.keepIfEmpty new.os old.os
      version := PeerDB.keepIfEmpty new.version old.version
      status := new.status
      natType := new.natType
      lastOnline := new.lastOnline
      disabled := new.disabled
      note := PeerDB.keepIfEmpty new.note old.note
      tags := PeerDB.keepIfEmpty new.tags old.tags
      heartbeatSeq := new.heartbeatSeq }
  match backend with
  | .postgres => listed
  | .sqlite =>
    { listed with
      deviceType := PeerDB.keepIfEmpty new.deviceType old.deviceType
      linkedPeerID := PeerDB.keepIfEmpty new.linkedPeerID old.linkedPeerID
      displayName := PeerDB.keepIfEmpty new.displayName old.displayName }

/-- The record of a key registration. -/
def keyRecord (msg : RegisterPk) : Peer where
  uuid := hexText msg.uuid
  pk := if msg.pk = [] then none else some msg.pk
  status := "ONLINE"

/-- A row as the signal server's tables show it. -/
def Peer.row (id : String) (peer : Peer) : PeerRow where
  id := id
  uuid := peer.uuid
  pk := peer.pk.getD []
  ip := peer.ip
  user := peer.user
  hostname := peer.hostname
  os := peer.os
  version := peer.version
  status := peer.status
  natType := peer.natType
  disabled := peer.disabled
  banned := peer.banned
  softDeleted := peer.softDeleted.getD false
  note := peer.note
  tags := peer.tags
  heartbeatSeq := peer.heartbeatSeq
  deviceType := peer.deviceType
  linkedPeerID := peer.linkedPeerID
  displayName := peer.displayName

/-- What either backend writes is what the signal server's tables show of it. -/
theorem row_upsertPeer (backend : Backend) (id : String) (old : Peer) (msg : RegisterPk) :
    (upsertPeer backend old (keyRecord msg)).row id =
      PeerDB.mergeRow (old.row id) (registeredRow id msg.uuid msg.pk) := by
  have key : ((if msg.pk = [] then none else some msg.pk).or old.pk).getD [] =
      if msg.pk = [] then old.pk.getD [] else msg.pk := by
    split
    · rfl
    · rfl
  cases backend <;>
    simp only [upsertPeer, keyRecord, Peer.row, PeerDB.mergeRow, registeredRow, emptyRow,
      PeerDB.keepIfEmpty, if_true, key] <;>
    congr

/-! ### The property -/

/-- The row differs in nothing but its key, its UUID, its status, the time of the last contact and
its owner. -/
def OnlyIdentity (before after : Peer) : Prop :=
  after = { before with
    pk := after.pk, uuid := after.uuid, status := after.status, lastOnline := after.lastOnline,
    user := after.user }

/-- The condition: the columns that are overwritten hold what they are overwritten with. -/
structure Blank (peer : Peer) : Prop where
  ip : peer.ip = ""
  natType : peer.natType = 0
  disabled : peer.disabled = false
  heartbeatSeq : peer.heartbeatSeq = 0

/-- An upsert of a key record changes only the identity of a row exactly when the other columns it
overwrites are blank. -/
theorem onlyIdentity_upsertPeer_iff (backend : Backend) (old : Peer) (msg : RegisterPk)
    (user : String) :
    OnlyIdentity old { upsertPeer backend old (keyRecord msg) with user } ↔ Blank old := by
  constructor
  · intro same
    have ip := congrArg Peer.ip same
    have natType := congrArg Peer.natType same
    have disabled := congrArg Peer.disabled same
    have heartbeatSeq := congrArg Peer.heartbeatSeq same
    cases backend with
    | sqlite => exact ⟨ip.symm, natType.symm, disabled.symm, heartbeatSeq.symm⟩
    | postgres => exact ⟨ip.symm, natType.symm, disabled.symm, heartbeatSeq.symm⟩
  · rintro ⟨ip, natType, disabled, heartbeatSeq⟩
    cases backend <;>
      simp only [OnlyIdentity, upsertPeer, keyRecord, PeerDB.keepIfEmpty, if_true, ip, natType,
        disabled, heartbeatSeq]

/-! ### The handler -/

section handler

variable {config : Config} {s : Server} {env : Env} {msg : RegisterPk} {addr : Addr} {id : String}
  {peer : Peer}

/-- The ID whose row a message is about: the one it changes to, or the one its own stands for. -/
def aimedAt (s : Server) (msg : RegisterPk) (addr : Addr) : Option String :=
  if msg.oldID ≠ "" then some msg.id
  else resolveRegistrationPeerID s.db msg.id addr.ip.text msg.uuid msg.pk

/-- An ID change to an ID that has a row is not answered with OK. -/
theorem processIDChange_ne_ok (stored : s.db.peers.lookup msg.id = some (peer.row msg.id)) :
    (processIDChange s msg).2 ≠ .ok := by
  have present : s.db.getPeerIDState msg.id ≠ .missing := by
    rw [PeerDB.getPeerIDState, stored]
    dsimp only
    split <;> exact nofun
  unfold processIDChange
  grind

/-- A key that is stored leaves what the upsert writes, but for the owner. -/
theorem lookup_storeKey (backend : Backend)
    (stored : s.db.peers.lookup id = some (peer.row id)) :
    ∃ user, (storeKey config s env id msg.uuid msg.pk addr).db.peers.lookup id =
      some (Peer.row id { upsertPeer backend peer (keyRecord msg) with user }) := by
  have written : (storeKey config s env id msg.uuid msg.pk addr).db =
      applyActiveSessionOwner config (s.db.upsertPeer (registeredRow id msg.uuid msg.pk)) id
        (hexText msg.uuid) := by
    unfold storeKey bindTCPSessionPeer
    split <;> rfl
  have upserted : (s.db.upsertPeer (registeredRow id msg.uuid msg.pk)).peers.lookup id =
      some ((upsertPeer backend peer (keyRecord msg)).row id) := by
    have named : (registeredRow id msg.uuid msg.pk).id = id := rfl
    rw [PeerDB.lookup_upsertPeer, named, if_pos rfl, stored, row_upsertPeer]
  have owned := lookup_applyActiveSessionOwner (fun row => { row with user := "" })
    (fun _ _ => rfl) config (s.db.upsertPeer (registeredRow id msg.uuid msg.pk)) id
    (hexText msg.uuid) id
  rw [upserted, Option.map_some, Option.map_eq_some_iff] at owned
  obtain ⟨row, found, same⟩ := owned
  refine ⟨row.user, ?_⟩
  rw [written, found]
  refine congrArg some ?_
  calc row = { ({ row with user := "" } : PeerRow) with user := row.user } := rfl
    _ = { ({ (upsertPeer backend peer (keyRecord msg)).row id with user := "" } : PeerRow) with
          user := row.user } := by rw [same]

/-- What a message that is answered with OK makes of the row it is about: nothing if the device is
not to be registered, and else what the upsert makes of it, with the owner bound after. -/
theorem lookup_processRegisterPk (backend : Backend)
    (stored : s.db.peers.lookup id = some (peer.row id))
    (aimed : aimedAt s msg addr = some id)
    (answered : (processRegisterPk config s env msg addr).2 = .ok) :
    ∃ after : Peer, (processRegisterPk config s env msg addr).1.db.peers.lookup id =
        some (after.row id) ∧
      if msg.noRegisterDevice = true then after = peer
      else ∃ user, after = { upsertPeer backend peer (keyRecord msg) with user } := by
  unfold aimedAt at aimed
  unfold processRegisterPk at answered ⊢
  split at aimed
  · next change =>
    obtain rfl := Option.some.inj aimed
    rw [if_pos change] at answered
    split at answered
    · cases answered
    · split at answered
      · cases answered
      · split at answered
        · cases answered
        · exact absurd answered (processIDChange_ne_ok stored)
  · next noChange =>
    rw [if_neg noChange, aimed] at answered ⊢
    split at answered
    · cases answered
    · next named =>
      rw [if_neg named]
      split at answered
      · cases answered
      · next valid =>
        rw [if_neg valid]
        split at answered
        · cases answered
        · next unblocked =>
          rw [if_neg unblocked]
          dsimp only at answered ⊢
          split at answered
          · next keyOnly =>
            rw [if_pos keyOnly]
            exact ⟨peer, stored, by rw [if_pos keyOnly]⟩
          · next registers =>
            rw [if_neg registers]
            have stores : storesKey config s env id msg.uuid = true := by
              by_contra refused
              rw [Bool.not_eq_true] at refused
              exact (registerKey_of_not_stores addr msg.pk refused).2.2.2 answered
            obtain ⟨user, found⟩ := lookup_storeKey backend stored
            rw [registerKey_of_stores stores]
            exact ⟨_, found, by rw [if_neg registers]; exact ⟨user, rfl⟩⟩

/-- A message that is answered with OK changes nothing but the identity of the row it is about
exactly when it asks not to be registered, or the row is blank in the columns that the upsert
overwrites. -/
theorem onlyIdentity_iff (backend : Backend) (stored : s.db.peers.lookup id = some (peer.row id))
    (aimed : aimedAt s msg addr = some id)
    (answered : (processRegisterPk config s env msg addr).2 = .ok) :
    ∃ after : Peer, (processRegisterPk config s env msg addr).1.db.peers.lookup id =
        some (after.row id) ∧
      (if msg.noRegisterDevice = true then after = peer
        else ∃ user, after = { upsertPeer backend peer (keyRecord msg) with user }) ∧
      (OnlyIdentity peer after ↔ msg.noRegisterDevice = true ∨ Blank peer) := by
  obtain ⟨after, found, written⟩ := lookup_processRegisterPk backend stored aimed answered
  refine ⟨after, found, written, ?_⟩
  split at written
  · next keyOnly =>
    subst written
    exact iff_of_true rfl (Or.inl keyOnly)
  · next registers =>
    obtain ⟨user, rfl⟩ := written
    rw [onlyIdentity_upsertPeer_iff]
    exact (or_iff_right registers).symm

end handler

/-! ### A disabled device -/

/-- A device that an operator has disabled. -/
def disabledPeer : Peer where
  uuid := "00"
  pk := some [7]
  ip := "203.0.113.7"
  status := "ONLINE"
  natType := 2
  disabled := true
  heartbeatSeq := 9

/-- A server that knows the device from its table only. -/
def disabledServer : Server where
  db := ⟨(∅ : Table String PeerRow).insert "DEVICE1" (disabledPeer.row "DEVICE1"), [], [], [], ∅⟩
  peers := ∅
  tcpSessions := ∅
  blocklist := none

/-- The device sends its key again. -/
def keyAgain : RegisterPk := ⟨"DEVICE1", "", [0], [7], false⟩

/-- The address it sends it from. -/
def keySender : Addr := ⟨.ofOctets 203 0 113 7, 40000⟩

/-- The server's answer. -/
def keyAnswer : Server × RegisterPkResult :=
  processRegisterPk ⟨enrollmentModeOpen, fun _ _ => none⟩ disabledServer ⟨0, "", true⟩ keyAgain
    keySender

theorem onlyIdentity_iff_disabled :
    ∃ after : Peer, keyAnswer.1.db.peers.lookup "DEVICE1" = some (after.row "DEVICE1") ∧
      (if keyAgain.noRegisterDevice = true then after = disabledPeer
        else ∃ user, after = { upsertPeer .postgres disabledPeer (keyRecord keyAgain) with user }) ∧
      (OnlyIdentity disabledPeer after ↔
        keyAgain.noRegisterDevice = true ∨ Blank disabledPeer) := by
  have answered : keyAnswer.2 = .ok := by decide
  exact onlyIdentity_iff .postgres (AList.lookup_insert _) (by decide) answered

/-- A disabled device that sends its key again is enabled by that, and its address is forgotten. -/
theorem disabled_device_enabled : keyAnswer.2 = .ok ∧
    ∀ after : Peer, keyAnswer.1.db.peers.lookup "DEVICE1" = some (after.row "DEVICE1") →
      after.disabled = false ∧ after.ip = "" ∧ ¬OnlyIdentity disabledPeer after := by
  have answered : keyAnswer.2 = .ok := by decide
  have row : (keyAnswer.1.db.peers.lookup "DEVICE1").map (fun row => (row.disabled, row.ip)) =
    some (false, "") := by decide
  refine ⟨answered, fun after found => ?_⟩
  rw [found] at row
  obtain ⟨disabled, ip⟩ := Prod.mk.inj (Option.some.inj row)
  have enabled : after.disabled = false := disabled
  refine ⟨enabled, ip, fun same => ?_⟩
  have kept := congrArg Peer.disabled same
  rw [enabled] at kept
  cases kept

end SovaDesk.Db
