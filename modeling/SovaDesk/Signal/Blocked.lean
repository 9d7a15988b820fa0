/-
This file settles whether a device whose ID is on the blocklist is kept out.

The blocklist is asked about the ID a registration presents, and in each entry point
before the rename of that ID is followed. A device that was renamed to a blocked ID and
still registers under its former one is therefore let in under the blocked ID, and an ID
change from a blocked ID is accepted as well. The time at which a registration arrives is
not part of it: a registration keeps a blocked ID out if it does so whenever it arrives.
-/

import SovaDesk.Signal.Deleted

namespace SovaDesk.Signal

open Transition

/-! ### Registrations -/

/-- A registration as a device sends it. -/
inductive Registration
  | registerPeer (msg : RegisterPeer) (raddr : Addr)
  | registerPeerWS (msg : RegisterPeer) (remoteAddr : Addr) (conn : Nat)
  | registerPk (msg : RegisterPk) (addr : Addr) (transport : Transport)

namespace Registration

/-- The step of a registration that arrives in the given surroundings. -/
def arrives (env : Env) : Registration → Label
  | .registerPeer msg raddr => .registerPeer env msg raddr
  | .registerPeerWS msg remoteAddr conn => .registerPeerWS env msg remoteAddr conn
  | .registerPk msg addr transport => .registerPk env msg addr transport

/-- The ID a registration resolves to, whether or not it is refused. An ID change stands for the new
ID. -/
def effectiveID (s : Server) : Registration → Option String
  | .registerPeer msg raddr => resolveRegistrationPeerID s.db msg.id raddr.ip.text [] []
  | .registerPeerWS msg remoteAddr _ =>
    resolveRegistrationPeerID s.db msg.id remoteAddr.ip.text [] []
  | .registerPk msg addr _ =>
    if msg.oldID ≠ "" then some msg.id
    else resolveRegistrationPeerID s.db msg.id addr.ip.text msg.uuid msg.pk

end Registration

/-- The blocklist, if there is one, refuses an ID. -/
def Server.blocksID (s : Server) (id : String) : Bool := s.blocklist.any (·.isIDBlocked id)

/-! ### The property and the condition -/

/-- A step neither enters nor heartbeatRefreshes the peer of an ID, and does not write its row. -/
def LeavesOut (before after : Server) (id : String) : Prop :=
  (∀ entry, after.peers.lookup id = some entry → before.peers.lookup id = some entry) ∧
    after.db.peers.lookup id = before.db.peers.lookup id

/-- The effective ID is blocked, or an ID the registration presents. -/
def Registration.Blocked (s : Server) (registration : Registration) (env : Env) (id : String) :
    Prop :=
  s.blocksID id = true ∨
    ∃ presented ∈ presentedIDs (registration.arrives env), s.blocksID presented = true

/-- A registration with a blocked ID does nothing for its effective ID, whenever it arrives. -/
def KeepsBlockedOut (config : Config) (s : Server) (registration : Registration) : Prop :=
  ∀ id, registration.effectiveID s = some id → ∀ env after, registration.Blocked s env id →
    step config s (registration.arrives env) = some after → LeavesOut s after id

/-- The checks of a heartbeat from a connected peer: the ban it is marked with and, over WebSocket,
also deletion and the ban in the database. -/
def heartbeatRefreshes (s : Server) (id : String) (overWS : Bool) (existing : Entry) : Bool :=
  !existing.banned && (!overWS || (!s.db.isPeerSoftDeleted id && !s.db.isPeerBanned id))

/-- The checks of a heartbeat after the blocklist. -/
def heartbeatPasses (config : Config) (s : Server) (env : Env) (id : String) (overWS : Bool) :
    Bool :=
  match s.peers.lookup id with
  | some existing => heartbeatRefreshes s id overWS existing
  | none => admits config s env id

/-- A registration passes the blocklist and all checks that follow, with the given effective ID. -/
def Registration.Passes (config : Config) (s : Server) (env : Env) (id : String) :
    Registration → Prop
  | .registerPeer msg raddr =>
    heartbeatAt s msg raddr = some id ∧ heartbeatPasses config s env id false = true
  | .registerPeerWS msg remoteAddr _ =>
    heartbeatAt s msg remoteAddr = some id ∧ heartbeatPasses config s env id true = true
  | .registerPk msg addr _ =>
    (registersAt s msg addr = some id ∧ storesKey config s env id msg.uuid = true) ∨
      (id = msg.id ∧ changesID s msg addr = true)

/-- No registration with a blocked ID passes. -/
def Registration.Stopped (config : Config) (s : Server) (registration : Registration) : Prop :=
  ∀ id env, registration.Passes config s env id → ¬ registration.Blocked s env id

/-! ### Heartbeats -/

section heartbeats

variable {config : Config} {s : Server} {env : Env} {addr : Addr} {id : String}
  {msg : RegisterPeer} {result : Server × Option Bool}

/-- A heartbeat that is not answered writes no entry and no row. -/
def Ignored (s : Server) (result : Server × Option Bool) : Prop :=
  result.2 = none ∧ result.1.peers = s.peers ∧ result.1.db.peers = s.db.peers

/-- The peer of an ID is connected and was last heard at the given time. -/
def HeardAt (s : Server) (id : String) (now : Int) : Prop :=
  ∃ entry, s.peers.lookup id = some entry ∧ entry.lastReg = now

/-- What a heartbeat does for its effective ID. -/
def HeartbeatOutcome (passed : Bool) (s : Server) (env : Env) (id : String)
    (result : Server × Option Bool) : Prop :=
  if passed then HeardAt result.1 id env.now else Ignored s result

theorem ignored_refl (s : Server) : Ignored s (s, none) := ⟨rfl, rfl, rfl⟩

theorem lookup_update_heard {peers : Table String Entry} {existing : Entry} {now : Int}
    (present : peers.lookup id = some existing) {change : Entry → Entry}
    (heard : (change existing).lastReg = now) :
    ∃ entry, (peers.update id change).lookup id = some entry ∧ entry.lastReg = now := by
  refine ⟨change existing, ?_, heard⟩
  rw [Table.lookup_update, if_pos rfl, present, Option.map_some]

/-- A heartbeat from a device that the blocklist does not refuse. -/
theorem heartbeatAt_passed (passed : heartbeatAt s msg addr = some id) :
    ¬ msg.id = "" ∧ ¬ (!isValidPeerID msg.id) = true ∧ ¬ s.blocks addr.ip msg.id = true ∧
      resolveRegistrationPeerID s.db msg.id addr.ip.text [] [] = some id := by
  rw [heartbeatAt, Option.ite_none_left_eq_some] at passed
  simp only [not_or] at passed
  exact ⟨passed.1.1, passed.1.2.1, passed.1.2.2, passed.2⟩

theorem handleRegisterPeer_passed (passed : heartbeatAt s msg addr = some id) :
    HeartbeatOutcome (heartbeatPasses config s env id false) s env id
      (handleRegisterPeer config s env msg addr) := by
  obtain ⟨named, valid, unblocked, resolved⟩ := heartbeatAt_passed passed
  unfold HeartbeatOutcome heartbeatPasses handleRegisterPeer
  rw [if_neg named, if_neg valid, if_neg unblocked, resolved]
  simp only
  cases present : s.peers.lookup id with
  | some existing =>
    simp only [heartbeatRefreshes, Bool.not_false, Bool.true_or, Bool.and_true]
    cases existing.banned with
    | true => exact ignored_refl s
    | false =>
      simp only [Bool.not_false, if_true, Bool.false_eq_true, if_false]
      split
      · have refreshed : ∃ entry, (updateHeartbeat s.peers id addr msg.serial env.now).lookup id =
            some entry ∧ entry.lastReg = env.now := lookup_update_heard present rfl
        obtain ⟨entry, found, heard⟩ := refreshed
        exact lookup_update_heard found heard
      · exact lookup_update_heard present rfl
  | none =>
    simp only
    rw [admitNewPeer_fst]
    cases admits config s env id with
    | true => exact ⟨_, AList.lookup_insert _, rfl⟩
    | false => exact ⟨rfl, rfl, admitNewPeer_tables config s env id addr.ip.text⟩

theorem handleRegisterPeerWS_passed (passed : heartbeatAt s msg addr = some id) :
    HeartbeatOutcome (heartbeatPasses config s env id true) s env id
      (handleRegisterPeerWS config s env msg addr) := by
  obtain ⟨named, valid, unblocked, resolved⟩ := heartbeatAt_passed passed
  unfold HeartbeatOutcome heartbeatPasses handleRegisterPeerWS
  rw [if_neg named, if_neg valid, if_neg unblocked, resolved]
  simp only
  cases present : s.peers.lookup id with
  | some existing =>
    simp only [heartbeatRefreshes, Bool.not_true, Bool.false_or]
    cases existing.banned with
    | true => exact ignored_refl s
    | false =>
      cases s.db.isPeerSoftDeleted id with
      | true => exact ignored_refl s
      | false =>
        cases s.db.isPeerBanned id with
        | true => exact ignored_refl s
        | false => exact lookup_update_heard present rfl
  | none =>
    simp only
    rw [admitNewPeer_fst]
    cases admits config s env id with
    | true => exact ⟨_, AList.lookup_insert _, rfl⟩
    | false => exact ⟨rfl, rfl, admitNewPeer_tables config s env id addr.ip.text⟩

/-- A heartbeat that is stopped before its effective ID. -/
theorem handleRegisterPeer_stopped (stopped : heartbeatAt s msg addr = none) :
    Ignored s (handleRegisterPeer config s env msg addr) := by
  unfold handleRegisterPeer
  split
  · exact ignored_refl s
  split
  · exact ignored_refl s
  split
  · exact ignored_refl s
  next named valid unblocked =>
  rw [heartbeatAt_of_passed named valid unblocked] at stopped
  rw [stopped]
  exact ignored_refl s

theorem handleRegisterPeerWS_stopped (stopped : heartbeatAt s msg addr = none) :
    Ignored s (handleRegisterPeerWS config s env msg addr) := by
  unfold handleRegisterPeerWS
  split
  · exact ignored_refl s
  split
  · exact ignored_refl s
  split
  · exact ignored_refl s
  next named valid unblocked =>
  rw [heartbeatAt_of_passed named valid unblocked] at stopped
  rw [stopped]
  exact ignored_refl s

end heartbeats

/-! ### Key registrations -/

section keys

variable {config : Config} {s : Server} {env : Env} {msg : RegisterPk} {addr : Addr} {id : String}

/-- A key registration is answered OK only if the blocklist lets it pass, and if it changes an ID
only if that change is accepted. -/
theorem processRegisterPk_ok (answered : (processRegisterPk config s env msg addr).2 = .ok) :
    s.blocks addr.ip msg.id = false ∧ (msg.oldID ≠ "" → changesID s msg addr = true) := by
  unfold processRegisterPk at answered
  split at answered
  · cases answered
  split at answered
  · cases answered
  split at answered
  · cases answered
  next named valid unblocked =>
  rw [Bool.not_eq_true] at unblocked
  refine ⟨unblocked, fun change => ?_⟩
  rw [if_pos change] at answered
  rw [Bool.not_eq_true', Bool.not_eq_false] at valid
  by_contra refused
  rw [Bool.not_eq_true] at refused
  exact (processIDChange_of_not_changes ⟨named, valid, unblocked, change⟩ refused).2 answered

/-- A key registration that does not pass writes no row, and at most takes the entry of its
effective ID out of the map. -/
theorem processRegisterPk_stopped (transport : Transport)
    (resolved : (Registration.registerPk msg addr transport).effectiveID s = some id)
    (stopped : ¬ (Registration.registerPk msg addr transport).Passes config s env id) :
    (processRegisterPk config s env msg addr).1.db.peers = s.db.peers ∧
      ((processRegisterPk config s env msg addr).1.peers = s.peers ∨
        (processRegisterPk config s env msg addr).1.peers = s.peers.erase id) := by
  cases target : registersAt s msg addr with
  | some reached =>
    rw [Registration.effectiveID, if_neg (not_not_intro (registersAt_oldID target))] at resolved
    have same := (Option.ite_none_left_eq_some.mp target).2
    obtain rfl := Option.some.inj (resolved.symm.trans same)
    rw [processRegisterPk_of_registersAt target]
    have refused : storesKey config s env id msg.uuid = false :=
      Bool.eq_false_iff.mpr fun stores => stopped (.inl ⟨target, stores⟩)
    obtain ⟨rows, _, peers, _⟩ := registerKey_of_not_stores addr msg.pk refused
    exact ⟨rows, peers⟩
  | none =>
    rcases processRegisterPk_of_none target with same | ⟨passed, handled⟩
    · rw [same]
      exact ⟨rfl, .inl rfl⟩
    · rw [Registration.effectiveID, if_pos passed.2.2.2] at resolved
      have refused : changesID s msg addr = false := Bool.eq_false_iff.mpr fun changes =>
        stopped (.inr ⟨(Option.some.inj resolved).symm, changes⟩)
      rw [handled, (processIDChange_of_not_changes passed refused).1]
      exact ⟨rfl, .inl rfl⟩

theorem storeKey_heardAt (config : Config) (s : Server) (env : Env) (id : String) (uuid pk : Bytes)
    (addr : Addr) : HeardAt (storeKey config s env id uuid pk addr) id env.now := by
  unfold storeKey bindTCPSessionPeer
  split
  · exact ⟨_, AList.lookup_insert _, rfl⟩
  · exact ⟨_, AList.lookup_insert _, rfl⟩

end keys

/-! ### One registration -/

section registration

variable {config : Config} {s after : Server} {env : Env} {id : String}
  {registration : Registration}

theorem leavesOut_of_same (rows : after.db.peers = s.db.peers)
    (peers : after.peers = s.peers ∨ after.peers = s.peers.erase id) : LeavesOut s after id := by
  refine ⟨fun entry found => ?_, by rw [rows]⟩
  rcases peers with same | erased
  · rwa [same] at found
  · rw [erased, Table.lookup_erase_if, if_pos rfl] at found
    cases found

theorem Ignored.leavesOut {result : Server × Option Bool} (ignored : Ignored s result) :
    LeavesOut s result.1 id :=
  leavesOut_of_same ignored.2.2 (.inl ignored.2.1)

theorem Registration.Blocked.anytime (blocked : registration.Blocked s env id) (now : Int) :
    registration.Blocked s { env with now } id := by
  cases registration with
  | registerPeer msg raddr => exact blocked
  | registerPeerWS msg remoteAddr conn => exact blocked
  | registerPk msg addr transport => exact blocked

theorem blocksID_of_blocks {ip : IP} (unblocked : s.blocks ip id = false) :
    s.blocksID id = false := by
  unfold Server.blocks at unblocked
  unfold Server.blocksID
  cases present : s.blocklist with
  | none => rfl
  | some blocklist =>
    rw [present, Option.any_some, Bool.or_eq_false_iff] at unblocked
    exact unblocked.2

theorem HeardAt.bindPeerWSConn {now : Int} (heard : HeardAt s id now) (peerID : String)
    (conn : Nat) : HeardAt (bindPeerWSConn s peerID conn) id now := by
  unfold Signal.bindPeerWSConn
  split
  · exact heard
  · obtain ⟨entry, found, last⟩ := heard
    unfold HeardAt
    simp only [Table.lookup_update]
    split
    · next same =>
      subst same
      exact ⟨_, congrArg _ found, last⟩
    · exact ⟨entry, found, last⟩

/-- Binding a WebSocket leaves out every ID but the one it is bound to. -/
theorem LeavesOut.bindPeerWSConn (leaves : LeavesOut s after id) {peerID : String}
    (other : id ≠ peerID) (conn : Nat) : LeavesOut s (bindPeerWSConn after peerID conn) id := by
  unfold Signal.bindPeerWSConn
  split
  · exact leaves
  · refine ⟨fun entry found => leaves.1 entry ?_, leaves.2⟩
    rwa [Table.lookup_update, if_neg other] at found

theorem Registration.Passes.effectiveID (passes : registration.Passes config s env id) :
    registration.effectiveID s = some id := by
  cases registration with
  | registerPeer msg raddr => exact (heartbeatAt_passed passes.1).2.2.2
  | registerPeerWS msg remoteAddr conn => exact (heartbeatAt_passed passes.1).2.2.2
  | registerPk msg addr transport =>
    rcases passes with ⟨target, _⟩ | ⟨rfl, changes⟩
    · rw [Registration.effectiveID, if_neg (not_not_intro (registersAt_oldID target))]
      exact (Option.ite_none_left_eq_some.mp target).2
    · simp only [changesID, Bool.and_eq_true, bne_iff_ne] at changes
      rw [Registration.effectiveID, if_pos changes.1.1.1.1.2]

/-- The time of arrival decides nothing. -/
theorem Registration.Passes.anytime (passes : registration.Passes config s env id) (now : Int) :
    registration.Passes config s { env with now } id := by
  cases registration with
  | registerPeer msg raddr => exact passes
  | registerPeerWS msg remoteAddr conn => exact passes
  | registerPk msg addr transport =>
    refine passes.imp_left fun ⟨target, stores⟩ => ⟨target, ?_⟩
    rw [← stores, storesKey, storesKey, entryForPk, entryForPk]
    cases s.peers.lookup id with
    | some entry => rfl
    | none => rfl

/-- A registration with a blocked ID that does not pass leaves its effective ID out. -/
theorem leavesOut_of_not_passes (resolved : registration.effectiveID s = some id)
    (blocked : registration.Blocked s env id)
    (stopped : ¬ registration.Passes config s env id)
    (taken : step config s (registration.arrives env) = some after) : LeavesOut s after id := by
  cases registration with
  | registerPeer msg raddr =>
    obtain rfl := Option.some.inj taken
    cases reached : heartbeatAt s msg raddr with
    | none => exact (handleRegisterPeer_stopped reached).leavesOut
    | some other =>
      obtain rfl := Option.some.inj (resolved.symm.trans (heartbeatAt_passed reached).2.2.2)
      have outcome : HeartbeatOutcome (heartbeatPasses config s env id false) s env id
          (handleRegisterPeer config s env msg raddr) := handleRegisterPeer_passed reached
      rw [HeartbeatOutcome, if_neg fun accepted => stopped ⟨reached, accepted⟩] at outcome
      exact outcome.leavesOut
  | registerPeerWS msg remoteAddr conn =>
    obtain rfl := Option.some.inj taken
    have ignored : Ignored s (handleRegisterPeerWS config s env msg remoteAddr) := by
      cases reached : heartbeatAt s msg remoteAddr with
      | none => exact handleRegisterPeerWS_stopped reached
      | some other =>
        obtain rfl := Option.some.inj (resolved.symm.trans (heartbeatAt_passed reached).2.2.2)
        have outcome : HeartbeatOutcome (heartbeatPasses config s env id true) s env id
            (handleRegisterPeerWS config s env msg remoteAddr) :=
          handleRegisterPeerWS_passed reached
        rwa [HeartbeatOutcome, if_neg fun accepted => stopped ⟨reached, accepted⟩] at outcome
    unfold registerPeerOverWS
    split
    · next result =>
      rw [result] at ignored
      exact ignored.leavesOut
    · next result =>
      rw [result] at ignored
      exact absurd ignored.1 (Option.some_ne_none _)
  | registerPk msg addr transport =>
    obtain rfl := Option.some.inj taken
    obtain ⟨rows, peers⟩ := processRegisterPk_stopped transport resolved stopped
    have leaves := leavesOut_of_same rows peers
    cases transport with
    | udp => exact leaves
    | tcp => exact leaves
    | ws conn =>
      simp only [registerPkOver]
      split
      · next result =>
        have answered := congrArg Prod.snd result
        obtain ⟨unblocked, changes⟩ := processRegisterPk_ok answered
        rw [result] at leaves
        refine leaves.bindPeerWSConn ?_ conn
        -- the ID presented is not blocked, so the effective one is another
        rintro rfl
        have unchanged : msg.oldID = "" := by
          by_contra change
          exact stopped (.inr ⟨rfl, changes change⟩)
        have allowed := blocksID_of_blocks unblocked
        rcases blocked with effective | ⟨presented, member, refused⟩
        · exact Bool.false_ne_true (allowed.symm.trans effective)
        · rw [Registration.arrives, presentedIDs, if_pos unchanged, List.mem_singleton] at member
          exact Bool.false_ne_true (allowed.symm.trans (member ▸ refused))
      · next result =>
        rw [result] at leaves
        exact leaves

/-- A registration that passes makes its device heard, or moves a row to its effective ID. -/
theorem heardAt_of_passes (passes : registration.Passes config s env id)
    (taken : step config s (registration.arrives env) = some after) :
    HeardAt after id env.now ∨
      (s.db.peers.lookup id = none ∧ (after.db.peers.lookup id).isSome) := by
  cases registration with
  | registerPeer msg raddr =>
    obtain rfl := Option.some.inj taken
    have outcome : HeartbeatOutcome (heartbeatPasses config s env id false) s env id
        (handleRegisterPeer config s env msg raddr) := handleRegisterPeer_passed passes.1
    rw [HeartbeatOutcome, if_pos passes.2] at outcome
    exact .inl outcome
  | registerPeerWS msg remoteAddr conn =>
    obtain rfl := Option.some.inj taken
    have outcome : HeartbeatOutcome (heartbeatPasses config s env id true) s env id
        (handleRegisterPeerWS config s env msg remoteAddr) := handleRegisterPeerWS_passed passes.1
    rw [HeartbeatOutcome, if_pos passes.2] at outcome
    unfold registerPeerOverWS
    split
    · next result =>
      rw [result] at outcome
      exact .inl outcome
    · next result =>
      rw [result] at outcome
      exact .inl (outcome.bindPeerWSConn _ conn)
  | registerPk msg addr transport =>
    obtain rfl := Option.some.inj taken
    have handled : HeardAt (processRegisterPk config s env msg addr).1 id env.now ∨
        (s.db.peers.lookup id = none ∧
          ((processRegisterPk config s env msg addr).1.db.peers.lookup id).isSome) := by
      rcases passes with ⟨target, stores⟩ | ⟨rfl, changes⟩
      · rw [processRegisterPk_of_registersAt target, registerKey_of_stores stores]
        exact .inl (storeKey_heardAt config s env id msg.uuid msg.pk addr)
      · obtain ⟨free, made⟩ := processIDChange_of_changes changes
        rw [processRegisterPk_of_changes changes]
        refine .inr ⟨free, ?_⟩
        obtain ⟨row, found⟩ := Option.isSome_iff_exists.mp made
        rw [(PeerDB.getPeer_eq_some.mp found).1, Option.isSome_some]
    cases transport with
    | udp => exact handled
    | tcp => exact handled
    | ws conn =>
      have db : (registerPkOver config s env msg addr (.ws conn)).db =
          (processRegisterPk config s env msg addr).1.db := registerPkOver_db (.ws conn)
      rw [db]
      refine handled.imp_left fun heard => ?_
      simp only [registerPkOver]
      split
      · next result =>
        rw [result] at heard
        exact heard.bindPeerWSConn _ conn
      · next result =>
        rw [result] at heard
        exact heard

/-- A time at which the peer of an ID was not last heard. -/
theorem exists_other_time (s : Server) (id : String) :
    ∃ now : Int, ∀ entry, s.peers.lookup id = some entry → entry.lastReg ≠ now := by
  cases s.peers.lookup id with
  | none => exact ⟨0, fun entry found => absurd found.symm (Option.some_ne_none entry)⟩
  | some existing =>
    refine ⟨existing.lastReg + 1, fun entry found => ?_⟩
    obtain rfl := Option.some.inj found
    omega

/-- A registration that passes with a blocked ID lets it in, unless it arrives just when the peer
was last heard. -/
theorem not_keepsBlockedOut (passes : registration.Passes config s env id)
    (blocked : registration.Blocked s env id) : ¬ KeepsBlockedOut config s registration := by
  intro keeps
  obtain ⟨now, differs⟩ := exists_other_time s id
  have later := passes.anytime now
  obtain ⟨after, taken⟩ : ∃ after,
      step config s (registration.arrives { env with now }) = some after := by
    cases registration with
    | registerPeer msg raddr => exact ⟨_, rfl⟩
    | registerPeerWS msg remoteAddr conn => exact ⟨_, rfl⟩
    | registerPk msg addr transport => exact ⟨_, rfl⟩
  have leaves := keeps id later.effectiveID _ after (blocked.anytime now) taken
  rcases heardAt_of_passes later taken with ⟨entry, found, last⟩ | ⟨free, made⟩
  · exact differs entry (leaves.1 entry found) last
  · rw [leaves.2, free] at made
    exact Bool.false_ne_true made

end registration

/-! ### A device renamed to a blocked ID -/

/-- A new server on which "device2" is blocked. -/
def blockingServer : Server :=
  { newServer with blocklist := some { ips := [], networks := [], ids := ["device2"] } }

/-- "device1" registers, is renamed to "device2" by the panel, and registers again. -/
theorem renamedDevice_notKeptOut :
    ¬ ∀ config s, Reachable (signal config) s →
      ∀ registration, KeepsBlockedOut config s registration := by
  intro always
  have ends : ((signal openConfig).run blockingServer
      [.registerPk (atSecond 0) (registerDevice 1 1) homeAddr .tcp,
        .changePeerID "device1" "device2"]).any (fun s =>
      registersAt s (registerDevice 1 1) homeAddr == some "device2" &&
        storesKey openConfig s (atSecond 1) "device2" (registerDevice 1 1).uuid &&
        s.blocksID "device2") = true := by decide
  have initial : (signal openConfig).start blockingServer :=
    ⟨fun _ _ found => absurd found.symm (Option.some_ne_none _), rfl⟩
  obtain ⟨s, reached, passed⟩ := exists_reachable_of_run initial ends
  simp only [Bool.and_eq_true, beq_iff_eq] at passed
  obtain ⟨⟨target, stores⟩, blocked⟩ := passed
  have passes : (Registration.registerPk (registerDevice 1 1) homeAddr .tcp).Passes openConfig s
      (atSecond 1) "device2" := .inl ⟨target, stores⟩
  exact not_keepsBlockedOut passes (.inl blocked) (always openConfig s reached _)

/-! ### Every registration -/

/-- A registration keeps blocked IDs out exactly when every check it has left stops it if it has
one. -/
theorem keepsBlockedOut_iff_stopped (config : Config) (s : Server) (registration : Registration) :
    KeepsBlockedOut config s registration ↔ registration.Stopped config s := by
  constructor
  · intro keeps id env passes blocked
    exact not_keepsBlockedOut passes blocked keeps
  · intro stops id resolved env after blocked taken
    exact leavesOut_of_not_passes resolved blocked (fun passes => stops id env passes blocked) taken

end SovaDesk.Signal
