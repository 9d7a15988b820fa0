/-
This file settles whether a deleted device comes back through signalling.

Every entry point refuses an ID whose row is soft-deleted. A renamed device that is
deleted afterwards still knows its former ID, and there the resolver finds a rename to a
row that is not live, takes the device for removed and hands the former ID back as free:
where the enrollment policy lets an unknown device in, the device is in the map and in
the database again. A registration brings something back exactly when its effective ID
passes the checks and is not yet connected or, for a key, not yet in the database.
-/

import SovaDesk.Signal.Identity

namespace SovaDesk.Signal

open Transition

/-! ### Devices and their IDs -/

/-- The server, and for each device, by its current ID, the IDs it has held before. -/
structure Tracked where
  server : Server
  formerIDs : Table String (List String)

/-- The IDs a device holds or has held. -/
def Tracked.idsOf (t : Tracked) (current : String) : List String :=
  current :: (t.formerIDs.lookup current).getD []

/-- The former IDs after a step: a rename that was recorded moves them, and an ID without a row
belongs to no device. -/
def trackIDs (before after : Server) (ids : Table String (List String)) :
    Table String (List String) :=
  let moved : Table String (List String) :=
    match (after.db.history.drop before.db.history.length).head? with
    | none => ids
    | some change =>
      (ids.erase change.oldID).insert change.newID
        (change.oldID :: (ids.lookup change.oldID).getD [])
  moved.filter fun id _ => (after.db.peers.lookup id).isSome

/-- The signal server with the IDs of its devices. -/
def tracked (config : Config) : System Tracked Label where
  start t := (signal config).start t.server ∧ t.formerIDs = ∅
  step t label :=
    (step config t.server label).map fun after =>
      { server := after, formerIDs := trackIDs t.server after t.formerIDs }

/-- The IDs under which a registration comes. -/
def presentedIDs : Label → List String
  | .registerPeer _ msg _ => [msg.id]
  | .registerPeerWS _ msg _ _ => [msg.id]
  | .registerPk _ msg _ _ => if msg.oldID = "" then [msg.id] else [msg.id, msg.oldID]
  | _ => []

/-- The step is a registration under an ID of a device whose row is soft-deleted. -/
def FromDeleted (t : Tracked) (label : Label) : Prop :=
  ∃ current row, t.server.db.peers.lookup current = some row ∧ row.softDeleted = true ∧
    ∃ id ∈ presentedIDs label, id ∈ t.idsOf current

/-! ### The property and the condition -/

/-- A step makes no entry in the map and no live row. -/
def NothingNew (before after : Server) : Prop :=
  (∀ id, (after.peers.lookup id).isSome → (before.peers.lookup id).isSome) ∧
    ∀ id, (after.db.getPeer id).isSome → (before.db.getPeer id).isSome

/-- A registration from a deleted device makes nothing. -/
def StaysAway (taken : Taken Tracked Label) : Prop :=
  FromDeleted taken.before taken.label → NothingNew taken.before.server taken.after.server

/-- The effective ID of a heartbeat, if it gets that far. -/
def heartbeatAt (s : Server) (msg : RegisterPeer) (addr : Addr) : Option String :=
  if msg.id = "" ∨ !isValidPeerID msg.id ∨ s.blocks addr.ip msg.id then none
  else resolveRegistrationPeerID s.db msg.id addr.ip.text [] []

/-- The checks of a heartbeat from a peer that is not in the map: the rate limiter, deletion,
enrollment and the ban. -/
def admits (config : Config) (s : Server) (env : Env) (id : String) : Bool :=
  ((s.db.getPeer id).isSome || env.limiterAllows) && !s.db.isPeerSoftDeleted id &&
    enrollmentPermits config s.db id && !s.db.isPeerBanned id

/-- The checks of an ID change. -/
def changesID (s : Server) (msg : RegisterPk) (addr : Addr) : Bool :=
  msg.id != "" && isValidPeerID msg.id && !s.blocks addr.ip msg.id && msg.oldID != "" &&
    isValidPeerID msg.oldID &&
    (s.db.getPeer msg.oldID).any (fun oldPeer =>
      (idChangeKey oldPeer msg.pk).isSome && !idChangeUUIDMismatch oldPeer msg.uuid) &&
    (s.peers.lookup msg.id).isNone && (s.db.peers.lookup msg.id).isNone

/-- A heartbeat lets in a peer that passes the checks and is not connected. -/
def HeartbeatLetsIn (config : Config) (s : Server) (env : Env) (msg : RegisterPeer) (addr : Addr) :
    Prop :=
  ∃ id, heartbeatAt s msg addr = some id ∧ s.peers.lookup id = none ∧ admits config s env id = true

/-- A key registration lets in a peer that passes the checks and is not connected or has no live
row; an ID change that is accepted makes a row under the new ID. -/
def KeyLetsIn (config : Config) (s : Server) (env : Env) (msg : RegisterPk) (addr : Addr) : Prop :=
  (∃ id, registersAt s msg addr = some id ∧ storesKey config s env id msg.uuid = true ∧
    (s.peers.lookup id = none ∨ s.db.getPeer id = none)) ∨ changesID s msg addr = true

/-- A registration lets something in that was not there. -/
def LetsIn (config : Config) (s : Server) : Label → Prop
  | .registerPeer env msg raddr => HeartbeatLetsIn config s env msg raddr
  | .registerPeerWS env msg remoteAddr _ => HeartbeatLetsIn config s env msg remoteAddr
  | .registerPk env msg addr _ => KeyLetsIn config s env msg addr
  | _ => False

/-- A registration from a deleted device is not let in. -/
def Barred (config : Config) (taken : Taken Tracked Label) : Prop :=
  FromDeleted taken.before taken.label → ¬ LetsIn config taken.before.server taken.label

/-! ### Live rows -/

section live

variable {config : Config} {s after : Server} {db db' : PeerDB} {env : Env} {addr : Addr}
  {id other : String} {uuid pk : Bytes}

theorem isSome_getPeer :
    (db.getPeer id).isSome ↔ (db.peers.lookup id).map PeerRow.softDeleted = some false := by
  rw [Option.isSome_iff_exists, Option.map_eq_some_iff]
  exact exists_congr fun row => PeerDB.getPeer_eq_some

theorem getPeer_congr (same : db'.peers = db.peers) (id : String) :
    db'.getPeer id = db.getPeer id := by
  rw [PeerDB.getPeer, PeerDB.getPeer, same]

theorem isSome_getPeer_updatePeerStatus (db : PeerDB) (id status ip other : String) :
    ((db.updatePeerStatus id status ip).getPeer other).isSome = (db.getPeer other).isSome := by
  rw [Bool.eq_iff_iff, isSome_getPeer, isSome_getPeer, PeerDB.updatePeerStatus,
    Table.lookup_update]
  split
  · next same =>
    subst same
    rw [Option.map_map]
    cases db.peers.lookup other with
    | none => rfl
    | some row =>
      simp only [Option.map_some, Function.comp_apply]
      split
      · rfl
      · rfl
  · rfl

theorem isSome_getPeer_storeKey (config : Config) (s : Server) (env : Env) (id : String)
    (uuid pk : Bytes) (addr : Addr) (live : s.db.isPeerSoftDeleted id = false) (other : String) :
    ((storeKey config s env id uuid pk addr).db.getPeer other).isSome =
      (other == id || (s.db.getPeer other).isSome) := by
  have written : (storeKey config s env id uuid pk addr).db =
      applyActiveSessionOwner config (s.db.upsertPeer (registeredRow id uuid pk)) id
        (hexText uuid) := by
    unfold storeKey bindTCPSessionPeer
    split
    · rfl
    · rfl
  rw [Bool.eq_iff_iff, written, isSome_getPeer,
    lookup_applyActiveSessionOwner PeerRow.softDeleted (fun _ _ => rfl), PeerDB.lookup_upsertPeer,
    Bool.or_eq_true, beq_iff_eq, isSome_getPeer]
  have same : (registeredRow id uuid pk).id = id := rfl
  rw [same]
  by_cases here : other = id
  · subst here
    simp only [if_true, true_or, iff_true]
    cases found : s.db.peers.lookup other with
    | none => rfl
    | some old =>
      rw [PeerDB.isPeerSoftDeleted, found, Option.any_some] at live
      exact congrArg some live
  · simp only [here, if_false, false_or]

theorem isSome_lookup_storeKey (config : Config) (s : Server) (env : Env) (id : String)
    (uuid pk : Bytes) (addr : Addr) (other : String) :
    ((storeKey config s env id uuid pk addr).peers.lookup other).isSome =
      (other == id || (s.peers.lookup other).isSome) := by
  have written : ∃ entry, (storeKey config s env id uuid pk addr).peers =
      s.peers.insert id entry := by
    unfold storeKey bindTCPSessionPeer
    split
    · exact ⟨_, rfl⟩
    · exact ⟨_, rfl⟩
  obtain ⟨entry, same⟩ := written
  rw [same, Table.lookup_insert_if]
  split
  · next here => simp [here]
  · next away => simp [away]

theorem nothingNew_refl (s : Server) : NothingNew s s := ⟨fun _ some => some, fun _ some => some⟩

/-- A step that keeps the IDs of the map and the live rows makes nothing. -/
theorem nothingNew_of_same
    (peers : ∀ id, (after.peers.lookup id).isSome = (s.peers.lookup id).isSome)
    (rows : ∀ id, (after.db.getPeer id).isSome = (s.db.getPeer id).isSome) : NothingNew s after :=
  ⟨fun id => (peers id).le, fun id => (rows id).le⟩

end live

/-! ### Heartbeats -/

section heartbeats

variable {config : Config} {s after : Server} {env : Env} {msg : RegisterPeer} {addr : Addr}
  {id clientHost : String}

theorem admitNewPeer_fst (config : Config) (s : Server) (env : Env) (id clientHost : String) :
    (admitNewPeer config s env id clientHost).1 = admits config s env id := by
  have verdict := checkEnrollmentPermission_fst config s.db env id clientHost
  have tables := (checkEnrollmentPermission_tables config s.db env id clientHost).1
  have ban : (checkEnrollmentPermission config s.db env id clientHost).2.isPeerBanned id =
      s.db.isPeerBanned id := by rw [PeerDB.isPeerBanned, tables, PeerDB.isPeerBanned]
  unfold admitNewPeer admits
  grind

theorem admitNewPeer_tables (config : Config) (s : Server) (env : Env) (id clientHost : String) :
    (admitNewPeer config s env id clientHost).2.peers = s.db.peers := by
  have tables := (checkEnrollmentPermission_tables config s.db env id clientHost).1
  unfold admitNewPeer
  grind

/-- What a heartbeat does: it enters a peer that is let in, or makes nothing. -/
inductive HeartbeatEffect (config : Config) (s : Server) (env : Env) (msg : RegisterPeer)
    (addr : Addr) (after : Server) : Prop
  | kept (refused : ¬ HeartbeatLetsIn config s env msg addr)
      (peers : ∀ id, (after.peers.lookup id).isSome = (s.peers.lookup id).isSome)
      (rows : ∀ id, (after.db.getPeer id).isSome = (s.db.getPeer id).isSome)
  | entered (id : String) (entry : Entry) (letIn : HeartbeatLetsIn config s env msg addr)
      (absent : s.peers.lookup id = none) (peers : after.peers = s.peers.insert id entry)

theorem HeartbeatEffect.nothingNew_iff (effect : HeartbeatEffect config s env msg addr after) :
    NothingNew s after ↔ ¬ HeartbeatLetsIn config s env msg addr := by
  cases effect with
  | kept refused peers rows => exact iff_of_true (nothingNew_of_same peers rows) refused
  | entered id entry letIn absent peers =>
    refine iff_of_false (fun nothing => ?_) (not_not_intro letIn)
    have present : (after.peers.lookup id).isSome := by
      rw [peers, AList.lookup_insert]
      rfl
    have before := nothing.1 id present
    rw [absent] at before
    exact Bool.false_ne_true before

/-- A heartbeat that stops before its effective ID leaves everything as it is. -/
theorem heartbeatEffect_of_none (stopped : heartbeatAt s msg addr = none) :
    HeartbeatEffect config s env msg addr s :=
  .kept (fun ⟨_, reached, _⟩ => nomatch stopped.symm.trans reached) (fun _ => rfl) (fun _ => rfl)

/-- A heartbeat of a connected peer makes nothing. -/
theorem heartbeatEffect_of_present {existing : Entry} (reached : heartbeatAt s msg addr = some id)
    (present : s.peers.lookup id = some existing)
    (peers : ∀ id, (after.peers.lookup id).isSome = (s.peers.lookup id).isSome)
    (rows : ∀ id, (after.db.getPeer id).isSome = (s.db.getPeer id).isSome) :
    HeartbeatEffect config s env msg addr after := by
  refine .kept ?_ peers rows
  rintro ⟨other, otherReached, absent, _⟩
  obtain rfl := Option.some.inj (reached.symm.trans otherReached)
  exact Option.some_ne_none existing (present.symm.trans absent)

/-- A peer that is not connected and fails the checks stays out. -/
theorem heartbeatEffect_of_refused (reached : heartbeatAt s msg addr = some id)
    (refused : admits config s env id = false) (db : PeerDB) (tables : db.peers = s.db.peers) :
    HeartbeatEffect config s env msg addr { s with db } := by
  refine .kept ?_ (fun _ => rfl) (fun id => by rw [getPeer_congr tables])
  rintro ⟨other, otherReached, _, admitted⟩
  obtain rfl := Option.some.inj (reached.symm.trans otherReached)
  exact Bool.false_ne_true (refused.symm.trans admitted)

theorem heartbeatAt_of_passed (named : ¬ msg.id = "") (valid : ¬ (!isValidPeerID msg.id) = true)
    (unblocked : ¬ s.blocks addr.ip msg.id = true) :
    heartbeatAt s msg addr = resolveRegistrationPeerID s.db msg.id addr.ip.text [] [] :=
  if_neg (not_or.mpr ⟨named, not_or.mpr ⟨valid, unblocked⟩⟩)

theorem handleRegisterPeer_effect (config : Config) (s : Server) (env : Env) (msg : RegisterPeer)
    (raddr : Addr) :
    HeartbeatEffect config s env msg raddr (handleRegisterPeer config s env msg raddr).1 := by
  unfold handleRegisterPeer
  split
  · next empty => exact heartbeatEffect_of_none (if_pos (.inl empty))
  split
  · next invalid => exact heartbeatEffect_of_none (if_pos (.inr (.inl invalid)))
  split
  · next blocked => exact heartbeatEffect_of_none (if_pos (.inr (.inr blocked)))
  next named valid unblocked =>
  have reached := heartbeatAt_of_passed named valid unblocked
  split
  · next rejected => exact heartbeatEffect_of_none (reached.trans rejected)
  next id resolved =>
  have target := reached.trans resolved
  split
  · next existing present =>
    split
    · exact heartbeatEffect_of_present target present (fun _ => rfl) (fun _ => rfl)
    · simp only
      split
      · refine heartbeatEffect_of_present target present (fun other => ?_) (fun other => ?_)
        · rw [Table.isSome_lookup_update, updateHeartbeat, Table.isSome_lookup_update]
        · exact isSome_getPeer_updatePeerStatus s.db id _ _ other
      · refine heartbeatEffect_of_present target present (fun other => ?_) (fun _ => rfl)
        exact Table.isSome_lookup_update _ _ _ _
  · next absent =>
    have verdict := admitNewPeer_fst config s env id raddr.ip.text
    have tables := admitNewPeer_tables config s env id raddr.ip.text
    simp only
    split
    · next refused =>
      rw [verdict, Bool.not_eq_true'] at refused
      exact heartbeatEffect_of_refused target refused _ tables
    · next admitted =>
      rw [verdict, Bool.not_eq_true', Bool.not_eq_false] at admitted
      exact .entered id _ ⟨id, target, absent, admitted⟩ absent rfl

theorem handleRegisterPeerWS_effect (config : Config) (s : Server) (env : Env) (msg : RegisterPeer)
    (remoteAddr : Addr) :
    HeartbeatEffect config s env msg remoteAddr
      (handleRegisterPeerWS config s env msg remoteAddr).1 := by
  unfold handleRegisterPeerWS
  split
  · next empty => exact heartbeatEffect_of_none (if_pos (.inl empty))
  split
  · next invalid => exact heartbeatEffect_of_none (if_pos (.inr (.inl invalid)))
  split
  · next blocked => exact heartbeatEffect_of_none (if_pos (.inr (.inr blocked)))
  next named valid unblocked =>
  have reached := heartbeatAt_of_passed named valid unblocked
  split
  · next rejected => exact heartbeatEffect_of_none (reached.trans rejected)
  next id resolved =>
  have target := reached.trans resolved
  split
  · next existing present =>
    split
    · exact heartbeatEffect_of_present target present (fun _ => rfl) (fun _ => rfl)
    split
    · exact heartbeatEffect_of_present target present (fun _ => rfl) (fun _ => rfl)
    split
    · exact heartbeatEffect_of_present target present (fun _ => rfl) (fun _ => rfl)
    · refine heartbeatEffect_of_present target present (fun other => ?_) (fun other => ?_)
      · exact Table.isSome_lookup_update _ _ _ _
      · exact isSome_getPeer_updatePeerStatus s.db id _ _ other
  · next absent =>
    have verdict := admitNewPeer_fst config s env id remoteAddr.ip.text
    have tables := admitNewPeer_tables config s env id remoteAddr.ip.text
    simp only
    split
    · next refused =>
      rw [verdict, Bool.not_eq_true'] at refused
      exact heartbeatEffect_of_refused target refused _ tables
    · next admitted =>
      rw [verdict, Bool.not_eq_true', Bool.not_eq_false] at admitted
      exact .entered id _ ⟨id, target, absent, admitted⟩ absent rfl

end heartbeats

/-! ### Key registrations -/

section keys

variable {config : Config} {s after : Server} {env : Env} {msg : RegisterPk} {addr : Addr}
  {id : String}

/-- An ID change that passes its checks makes a live row under the new ID. -/
theorem processIDChange_of_changes (changes : changesID s msg addr = true) :
    s.db.peers.lookup msg.id = none ∧
      (((processIDChange s msg).1.db.getPeer msg.id).isSome) := by
  simp only [changesID, Bool.and_eq_true, bne_iff_ne, Bool.not_eq_true', Option.isNone_iff_eq_none,
    Option.any_eq_true] at changes
  obtain ⟨⟨⟨⟨⟨⟨⟨named, valid⟩, _⟩, _⟩, validOld⟩, oldPeer, found, key, uuid⟩, away⟩, free⟩ :=
    changes
  refine ⟨free, ?_⟩
  obtain ⟨effectivePK, keyFound⟩ := Option.isSome_iff_exists.mp key
  obtain ⟨db, changed⟩ : ∃ db, s.db.changePeerID msg.oldID msg.id "client" = .ok db :=
    PeerDB.exists_changePeerID found free
  have missing : s.db.getPeerIDState msg.id = .missing := by
    rw [PeerDB.getPeerIDState, free]
  have written : (processIDChange s msg).1.db = db := by
    unfold processIDChange moveEntry removeEntry
    grind
  obtain ⟨_, ⟨row, rowFound, lookups⟩, _⟩ := PeerDB.changePeerID_ok changed
  obtain ⟨stored, live⟩ := PeerDB.getPeer_eq_some.mp rowFound
  have other : msg.id ≠ msg.oldID := by
    intro same
    exact Option.some_ne_none row ((same ▸ stored).symm.trans free)
  rw [written, isSome_getPeer, lookups, if_neg other, if_pos rfl, Option.map_some]
  exact congrArg some live

theorem processRegisterPk_of_changes (changes : changesID s msg addr = true) :
    processRegisterPk config s env msg addr = processIDChange s msg := by
  simp only [changesID, Bool.and_eq_true, bne_iff_ne, Bool.not_eq_true'] at changes
  obtain ⟨⟨⟨⟨⟨⟨⟨named, valid⟩, unblocked⟩, change⟩, _⟩, _⟩, _⟩, _⟩ := changes
  simp [processRegisterPk, named, valid, unblocked, change]

/-- One that fails a check is not answered OK and changes nothing. -/
theorem processIDChange_of_not_changes
    (passed : msg.id ≠ "" ∧ isValidPeerID msg.id = true ∧ s.blocks addr.ip msg.id = false ∧
      msg.oldID ≠ "") (refused : changesID s msg addr = false) :
    (processIDChange s msg).1 = s ∧ (processIDChange s msg).2 ≠ .ok := by
  obtain ⟨named, valid, unblocked, change⟩ := passed
  have taken : ∀ (db : PeerDB) id, db.getPeerIDState id = .missing → db.peers.lookup id = none := by
    intro db id missing
    unfold PeerDB.getPeerIDState at missing
    grind
  unfold changesID at refused
  unfold processIDChange
  grind

/-- A registration that passes its checks makes nothing exactly when the peer is connected and has a
live row. -/
theorem storeKey_nothingNew_iff (uuid : Bytes) (stores : storesKey config s env id uuid = true)
    (pk : Bytes) (addr : Addr) :
    NothingNew s (storeKey config s env id uuid pk addr) ↔
      ¬ (s.peers.lookup id = none ∨ s.db.getPeer id = none) := by
  have live : s.db.isPeerSoftDeleted id = false := by
    simp only [storesKey, Bool.and_eq_true, Bool.not_eq_true'] at stores
    exact stores.1.1.1
  rw [NothingNew, not_or, ← ne_eq, ← ne_eq, ← Option.isSome_iff_ne_none,
    ← Option.isSome_iff_ne_none]
  refine and_congr ?_ ?_
  · simp only [isSome_lookup_storeKey, Bool.or_eq_true, beq_iff_eq]
    exact ⟨fun nothing => nothing id (.inl rfl),
      fun present other some => some.elim (fun same => same ▸ present) fun before => before⟩
  · simp only [isSome_getPeer_storeKey config s env id uuid pk addr live, Bool.or_eq_true,
      beq_iff_eq]
    exact ⟨fun nothing => nothing id (.inl rfl),
      fun present other some => some.elim (fun same => same ▸ present) fun before => before⟩

/-- A key registration makes nothing exactly when it lets nothing in. -/
theorem processRegisterPk_nothingNew_iff (config : Config) (s : Server) (env : Env)
    (msg : RegisterPk) (addr : Addr) :
    NothingNew s (processRegisterPk config s env msg addr).1 ↔
      ¬ KeyLetsIn config s env msg addr := by
  unfold KeyLetsIn
  cases target : registersAt s msg addr with
  | some id =>
    have noChange : changesID s msg addr = false := by
      rw [changesID, registersAt_oldID target]
      simp
    rw [processRegisterPk_of_registersAt target]
    simp only [noChange, Option.some_inj, Bool.false_eq_true, or_false, exists_eq_left']
    cases stores : storesKey config s env id msg.uuid with
    | true =>
      rw [registerKey_of_stores stores, storeKey_nothingNew_iff _ stores]
      simp only [true_and]
    | false =>
      obtain ⟨rows, _, peers, _⟩ := registerKey_of_not_stores addr msg.pk stores
      refine iff_of_true ⟨fun other some => ?_, fun other some => ?_⟩
        (fun letIn => Bool.false_ne_true letIn.1)
      · rcases peers with same | erased
        · rwa [same] at some
        · rw [erased, Table.lookup_erase_if] at some
          split at some
          · exact absurd some Bool.false_ne_true
          · exact some
      · rwa [getPeer_congr rows] at some
  | none =>
    simp only [reduceCtorEq, false_and, exists_false, false_or]
    cases changes : changesID s msg addr with
    | true =>
      obtain ⟨free, made⟩ := processIDChange_of_changes changes
      rw [processRegisterPk_of_changes changes]
      refine iff_of_false (fun nothing => ?_) (not_not_intro rfl)
      have before := nothing.2 msg.id made
      rw [isSome_getPeer, free] at before
      cases before
    | false =>
      refine iff_of_true ?_ Bool.false_ne_true
      rcases processRegisterPk_of_none target with same | ⟨passed, handled⟩
      · rw [same]
        exact nothingNew_refl s
      · rw [handled, (processIDChange_of_not_changes passed changes).1]
        exact nothingNew_refl s

end keys

/-! ### A device under its own ID -/

/-! ### A device that was renamed and then deleted -/

/-- "device1" registers, is renamed to "device2" by the panel, and is deleted. -/
def renamedAndDeleted : List Label :=
  [.registerPk (atSecond 0) (registerDevice 1 1) homeAddr .tcp, .changePeerID "device1" "device2",
    .deletePeer "device2" false false false]

def newTracked : Tracked where
  server := newServer
  formerIDs := ∅

theorem newTracked_start : (tracked openConfig).start newTracked :=
  ⟨⟨fun _ _ found => (nomatch found), rfl⟩, rfl⟩

/-- It registers again under its former ID, with its own UUID and key. -/
theorem renamedDevice_comesBack :
    ¬ ∀ steps final, History (tracked openConfig) steps final →
      ∀ taken ∈ steps, StaysAway taken := by
  intro always
  have ends : ((tracked openConfig).trace [] newTracked (renamedAndDeleted ++
      [.registerPk (atSecond 1) (registerDevice 1 1) homeAddr .tcp])).any (fun run =>
        run.1.head?.any fun taken =>
          (taken.before.server.db.peers.lookup "device2").any (·.softDeleted) &&
            (taken.before.idsOf "device2").contains "device1" &&
            presentedIDs taken.label == ["device1"] &&
            (taken.after.server.peers.lookup "device1").isSome &&
            (taken.before.server.peers.lookup "device1").isNone) = true := by decide
  obtain ⟨steps, final, history, passed⟩ := exists_history_of_trace newTracked_start ends
  obtain ⟨taken, first, holds⟩ := Option.any_eq_true _ _ |>.mp passed
  simp only [Bool.and_eq_true, Option.any_eq_true, List.contains_iff_mem, beq_iff_eq] at holds
  obtain ⟨⟨⟨⟨⟨row, stored, deleted⟩, former⟩, presented⟩, made⟩, absent⟩ := holds
  have nothing := always steps final history taken (List.mem_of_mem_head? first)
    ⟨"device2", row, stored, deleted, "device1", by rw [presented]; decide, former⟩
  have before := nothing.1 "device1" made
  rw [Option.isNone_iff_eq_none.mp absent] at before
  exact Bool.false_ne_true before

/-! ### Every run -/

/-- Binding a WebSocket makes nothing. -/
theorem bindPeerWSConn_nothingNew_iff (before s : Server) (peerID : String) (conn : Nat) :
    NothingNew before (bindPeerWSConn s peerID conn) ↔ NothingNew before s := by
  unfold bindPeerWSConn NothingNew
  split
  · exact Iff.rfl
  · simp only [Table.isSome_lookup_update]

/-- A registration makes nothing exactly when it lets nothing in. -/
theorem nothingNew_iff_not_letsIn {config : Config} {before after : Server} {label : Label}
    (registration : presentedIDs label ≠ []) (taken : step config before label = some after) :
    NothingNew before after ↔ ¬ LetsIn config before label := by
  cases label with
  | registerPeer env msg raddr =>
    obtain rfl := Option.some.inj taken
    exact (handleRegisterPeer_effect config before env msg raddr).nothingNew_iff
  | registerPeerWS env msg remoteAddr conn =>
    obtain rfl := Option.some.inj taken
    have effect := (handleRegisterPeerWS_effect config before env msg remoteAddr).nothingNew_iff
    unfold registerPeerOverWS
    split
    · next result =>
      rw [result] at effect
      exact effect
    · next result =>
      rw [result] at effect
      rw [bindPeerWSConn_nothingNew_iff]
      exact effect
  | registerPk env msg addr transport =>
    obtain rfl := Option.some.inj taken
    have handled := processRegisterPk_nothingNew_iff config before env msg addr
    cases transport with
    | udp => exact handled
    | tcp => exact handled
    | ws conn =>
      simp only [registerPkOver]
      split
      · next result =>
        rw [result] at handled
        rw [bindPeerWSConn_nothingNew_iff]
        exact handled
      · next result =>
        rw [result] at handled
        exact handled
  | _ => exact absurd rfl registration

/-- In every run the registrations from deleted devices make nothing exactly when each of them is
barred. -/
theorem staysAway_iff_barred (config : Config) {steps : List (Taken Tracked Label)}
    {final : Tracked} (history : History (tracked config) steps final) :
    (∀ taken ∈ steps, StaysAway taken) ↔ ∀ taken ∈ steps, Barred config taken := by
  refine history.forall_iff fun taken _ stepped => ?_
  obtain ⟨before, label, after⟩ := taken
  unfold StaysAway Barred
  refine imp_congr_right fun fromDeleted => ?_
  obtain ⟨next, moved, same⟩ := Option.map_eq_some_iff.mp stepped
  have server : next = after.server := congrArg Tracked.server same
  refine nothingNew_iff_not_letsIn ?_ (server ▸ moved)
  obtain ⟨_, _, _, _, id, presented, _⟩ := fromDeleted
  exact List.ne_nil_of_mem presented

/-- Under its current ID the deleted device is barred. -/
theorem deletedDevice_staysAway :
    ∃ steps final, History (tracked openConfig) steps final ∧ steps.length = 4 ∧
      ∀ taken ∈ steps, StaysAway taken := by
  have ends : ((tracked openConfig).trace [] newTracked (renamedAndDeleted ++
      [.registerPk (atSecond 1) { registerDevice 1 1 with id := "device2" } homeAddr .tcp])).any
      (fun run => run.1.length == 4 && run.1.all fun taken =>
        presentedIDs taken.label == [] || taken.before.server.db.peers.entries.isEmpty ||
          match taken.label with
          | .registerPk env msg addr _ =>
            registersAt taken.before.server msg addr == some "device2" &&
              !storesKey openConfig taken.before.server env "device2" msg.uuid &&
              !changesID taken.before.server msg addr
          | _ => false) = true := by decide
  obtain ⟨steps, final, history, passed⟩ := exists_history_of_trace newTracked_start ends
  rw [Bool.and_eq_true, beq_iff_eq, List.all_eq_true] at passed
  refine ⟨steps, final, history, passed.1, (staysAway_iff_barred openConfig history).mpr ?_⟩
  rintro ⟨before, label, after⟩ member ⟨current, row, stored, deleted, id, presented, _⟩ letIn
  have checked := passed.2 _ member
  rw [Bool.or_eq_true, Bool.or_eq_true, beq_iff_eq, List.isEmpty_iff] at checked
  rcases checked with (silent | empty) | barred
  · rw [silent] at presented
    exact absurd presented List.not_mem_nil
  · have listed := Table.mem_entries_iff.mpr stored
    rw [empty] at listed
    exact absurd listed List.not_mem_nil
  · cases label with
    | registerPk env msg addr transport =>
      simp only [Bool.and_eq_true, beq_iff_eq, Bool.not_eq_true'] at barred
      obtain ⟨⟨target, refused⟩, unchanged⟩ := barred
      rcases letIn with ⟨other, reached, stores, _⟩ | changes
      · obtain rfl := Option.some.inj (target.symm.trans reached)
        exact Bool.false_ne_true (refused.symm.trans stores)
      · exact Bool.false_ne_true (unchanged.symm.trans changes)
    | _ => exact absurd barred Bool.false_ne_true

end SovaDesk.Signal
