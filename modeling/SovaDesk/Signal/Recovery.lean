/-
This file settles whose relay UUID an initiator gets when a target's answer has none.

The server remembers one UUID for a target, the latest it sent there, and not who asked for
it. An observer notes who was given which UUID for which target, and what is forwarded to
whom. An answer without a UUID carries the recipient's own one in every run in which the
latest relay that was noted for the answering target is the recipient's, and is still
remembered, whenever it is looked up.
-/

import SovaDesk.Signal.Exchange
import SovaDesk.Signal.Unbilled

namespace SovaDesk.Signal.Exchange

open Interleave Transition

variable {config : RelayConfig}

/-! ### What is noted -/

/-- An initiator has a relay UUID for a target. -/
structure Holding where
  initiator : Addr
  targetID : String
  uuid : String
  deriving DecidableEq

/-- Who was given which UUID, the latest first; the target whose UUID each running thread looked
up; and what answers without a UUID were forwarded with. -/
structure Register where
  assigned : List Holding := []
  resolved : Table Nat String := ∅
  forwarded : List Holding := []

/-- The latest relay for a target. -/
def Register.latest (register : Register) (targetID : String) : Option Holding :=
  register.assigned.find? (·.targetID == targetID)

/-- The initiator a request comes from. -/
def Request.initiator : Request → Option Addr
  | .requestRelay _ _ raddr | .requestRelayTCP _ _ raddr _ | .punchHoleRequest _ _ raddr =>
    some raddr
  | _ => none

/-- The initiator for whom an answer has come that has no UUID. -/
def Request.recipient : Request → Option Addr
  | .relayResponse _ rr _ => if rr.uuid = "" then rr.socketAddr else none
  | _ => none

/-- A UUID was stored for the target of a request. -/
def Register.assign (register : Register) (request : Request) (targetID uuid : String) :
    Register :=
  match request.initiator with
  | none => register
  | some initiator =>
    { register with assigned := ⟨initiator, targetID, uuid⟩ :: register.assigned }

/-- A message was sent; that of an answer without a UUID is noted. -/
def Register.forward (register : Register) (thread : Nat) (request : Request) :
    Sent → Register
  | .relayResponse raddr response =>
    if request.recipient.isSome then
      { register with forwarded :=
          ⟨raddr, (register.resolved.lookup thread).getD "", response.uuid⟩ :: register.forwarded }
    else register
  | _ => register

variable (config) in
def noting : Observer (relayCalls config) Request End Register where
  began _ _ register := register
  ended _ _ _ register := register
  called thread request call answer _ register :=
    match call, answer with
    | .storePendingUUID _ targetID uuid, some _ => register.assign request targetID uuid
    | .getPendingUUID targetID, some _ =>
      { register with resolved := register.resolved.insert thread targetID }
    | .send sent, some _ => register.forward thread request sent
    | _, _ => register

/-- Only a call on the database can fail. -/
def Possible (pool : Pool (relayCalls config) Request End Register) :
    Interleave.Label Request → Prop
  | .begin _ _ => True
  | .turn thread fails => fails = true → ∀ call ∈ pool.nextCall thread, call.2.mayFail = true

instance (pool : Pool (relayCalls config) Request End Register) :
    (label : Interleave.Label Request) → Decidable (Possible pool label)
  | .begin _ _ => .isTrue trivial
  | .turn _ _ => inferInstanceAs (Decidable (_ = true → ∀ call ∈ _, _))

variable (config) in
/-- Any number of requests, answers and other changes at a server that has sent no UUID yet. -/
def exchanging : System (Pool (relayCalls config) Request End Register)
    (Interleave.Label Request) :=
  (interleaving (run config) (noting config) fun s register =>
    s.pendingRelayUUIDs = ∅ ∧ register = {}).restrict Possible

/-- Every answer without a UUID was forwarded with one that its recipient was given for the
target. -/
def UUIDsOwn (pool : Pool (relayCalls config) Request End Register) : Prop :=
  ∀ holding ∈ pool.ghost.forwarded, holding ∈ pool.ghost.assigned

/-! ### The condition -/

/-- A UUID is looked up for a recipient: the latest relay for the target is the recipient's, and is
remembered. -/
def LooksUpOwn (s : SignalServer) (register : Register) (request : Request) :
    RelayCall → Prop
  | .getPendingUUID targetID =>
    (register.latest targetID).map (·.initiator) = request.recipient ∧
      (s.pendingRelayUUIDs.lookup targetID).isSome
  | _ => True

instance (s : SignalServer) (register : Register) (request : Request) :
    (call : RelayCall) → Decidable (LooksUpOwn s register request call)
  | .getPendingUUID targetID => inferInstanceAs (Decidable
      ((register.latest targetID).map (·.initiator) = request.recipient ∧
        (s.pendingRelayUUIDs.lookup targetID).isSome))
  | .requireAuthorizedInitiator _ _ _ | .getPeer _ | .findByIP _ | .countByIP _
  | .checkConnection _ _ | .prepareRelay _ _ _ _ _ | .getRelayServer
  | .selectPeerRelayServer _ _ _ | .applyNetworkRelayPolicy _ _ | .shouldForceRelayForPeers _
  | .schedulePunchFallback _ _ | .storePendingUUID _ _ _ | .visitPendingUUID _
  | .deletePendingUUID _ | .send _ | .change _ => .isTrue trivial

/-- The steps that look up what is the recipient's own. -/
def StepsOwn (pool : Pool (relayCalls config) Request End Register) :
    Interleave.Label Request → Prop
  | .begin _ _ => True
  | .turn thread _ => ∀ call ∈ pool.nextCall thread,
    LooksUpOwn pool.store pool.ghost call.1 call.2

instance (pool : Pool (relayCalls config) Request End Register) :
    (label : Interleave.Label Request) → Decidable (StepsOwn pool label)
  | .begin _ _ => .isTrue trivial
  | .turn _ _ => inferInstanceAs (Decidable (∀ call ∈ _, LooksUpOwn _ _ _ _))

/-! ### The order of a handler -/

/-- The shape of a program that has recovered a UUID or not: it looks one up at most once, sends
what it recovered to its recipient and nothing else, and stores one only for an initiator. -/
def Shaped (request : Request) : Option Holding → Steps config → Prop
  | _, .done _ => True
  | own, .call (.getPendingUUID targetID) next =>
    own = none ∧ ∀ initiator ∈ request.recipient, ∀ pending : PendingUUID, pending.uuid ≠ "" →
      Shaped request (some ⟨initiator, targetID, pending.uuid⟩) (next (some (some pending)))
  | own, .call (.storePendingUUID _ _ uuid) next =>
    request.initiator.isSome ∧ uuid ≠ "" ∧ ∀ answer, Shaped request own (next answer)
  | own, .call (.send (.relayResponse raddr response)) next =>
    (request.recipient.isSome → ∃ holding ∈ own, holding.initiator = raddr ∧
      holding.uuid = response.uuid) ∧ ∀ answer, Shaped request own (next answer)
  | own, .call _ next => ∀ answer, Shaped request own (next answer)

/-- The calls of a request that recovers no UUID. -/
def Plain (request : Request) : RelayCall → Prop
  | .getPendingUUID _ => False
  | .storePendingUUID _ _ uuid => request.initiator.isSome ∧ uuid ≠ ""
  | _ => True

abbrev IsPlain (request : Request) (program : Steps config) : Prop :=
  program.Always fun call _ => Plain request call

theorem shaped_of_isPlain {request : Request} {program : Steps config}
    (silent : request.recipient = none) (plain : IsPlain request program) :
    Shaped request none program := by
  induction program with
  | done result => trivial
  | call call next inductionHypothesis =>
    obtain ⟨now, rest⟩ := plain
    have follows : ∀ answer, Shaped request none (next answer) :=
      fun answer => inductionHypothesis answer (rest answer)
    cases call with
    | getPendingUUID targetID => exact now.elim
    | storePendingUUID instant targetID uuid => exact ⟨now.1, now.2, follows⟩
    | send sent =>
      cases sent with
      | relayResponse raddr response =>
        refine ⟨fun recovers => ?_, follows⟩
        rw [silent] at recovers
        exact absurd recovers nofun
      | _ => exact follows
    | _ => exact follows

variable {call : RelayCall} {next : Option call.Answer → Steps config}

section shapes

variable {env : RelayEnv} {raddr : Addr} {request : Request} {own : Option Holding}

theorem isPlain_call
    (plain : Plain request call) (follows : ∀ answer, IsPlain request (next answer)) :
    IsPlain request (.call call next) := ⟨plain, follows⟩

theorem isPlain_andThen {rest : Steps config} (plain : Plain request call)
    (follows : IsPlain request rest) : IsPlain request (andThen call rest) :=
  ⟨plain, fun _ => follows⟩

theorem isPlain_answer (sent : List Sent) : IsPlain request (answer sent : Steps config) := by
  induction sent with
  | nil => trivial
  | cons first rest inductionHypothesis => exact isPlain_andThen trivial inductionHypothesis

theorem isPlain_admitRelay {msg : RequestRelay} {assumed : ConnType} {relayServer : String}
    {rest : Entry → Steps config} (follows : ∀ target, IsPlain request (rest target)) :
    IsPlain request (admitRelay env msg raddr assumed relayServer rest) := by
  refine isPlain_call trivial fun authorized => ?_
  split
  · exact isPlain_answer _
  · refine isPlain_call trivial fun found => ?_
    dsimp only
    split
    · exact isPlain_answer _
    · refine isPlain_call trivial fun initiator => ?_
      split
      · exact isPlain_answer _
      · exact follows _

theorem isPlain_assignRelay {target : Entry} {forwarded : RequestRelay}
    (asks : request.initiator.isSome) (named : forwarded.uuid ≠ "") :
    IsPlain request (assignRelay env raddr target forwarded : Steps config) := by
  refine isPlain_andThen ⟨asks, named⟩ (isPlain_andThen trivial ?_)
  split
  · trivial
  · exact isPlain_answer _

theorem isPlain_handleRequestRelay (asks : request.initiator.isSome) (msg : RequestRelay) :
    IsPlain request (handleRequestRelay env msg raddr : Steps config) := by
  refine isPlain_call trivial fun _ => isPlain_admitRelay fun target => ?_
  refine isPlain_call trivial fun _ => isPlain_call trivial fun allowed => ?_
  split
  · exact isPlain_answer _
  · refine isPlain_call trivial fun prepared => ?_
    split
    · exact isPlain_answer _
    · exact isPlain_call trivial fun _ => isPlain_call trivial fun _ =>
        isPlain_assignRelay asks relayUUIDFor_ne_empty

theorem isPlain_handleRequestRelayTCP (asks : request.initiator.isSome) (msg : RequestRelay)
    (hint : ConnType) :
    IsPlain request (handleRequestRelayTCP env msg raddr hint : Steps config) :=
  isPlain_call trivial fun _ => isPlain_admitRelay fun _ => isPlain_call trivial fun _ =>
    isPlain_assignRelay asks relayUUIDFor_ne_empty

theorem isPlain_sendRelayResponse {target : Entry} (asks : request.initiator.isSome)
    (msg : PunchHoleRequest) (relay : String) :
    IsPlain request (sendRelayResponse env target raddr msg relay : Steps config) := by
  refine isPlain_andThen trivial ?_
  split
  · trivial
  · exact isPlain_andThen ⟨asks, newUUID_ne_empty env⟩ (isPlain_answer _)

theorem isPlain_punch (msg : PunchHoleRequest) (target : Entry) (relayServer : String)
    (sameNetwork : Bool) :
    IsPlain request (punch msg raddr target relayServer sameNetwork : Steps config) := by
  refine isPlain_andThen trivial ?_
  split
  · exact isPlain_andThen trivial trivial
  · exact isPlain_answer _

theorem isPlain_handlePunchHoleRequest (asks : request.initiator.isSome) (msg : PunchHoleRequest) :
    IsPlain request (handlePunchHoleRequest env msg raddr : Steps config) := by
  unfold handlePunchHoleRequest
  split
  · trivial
  refine isPlain_call trivial fun authorized => ?_
  split
  · exact isPlain_answer _
  refine isPlain_call trivial fun found => isPlain_call trivial fun defaultRelay => ?_
  split
  · exact isPlain_answer _
  split
  · exact isPlain_answer _
  refine isPlain_call trivial fun allowed => ?_
  split
  · exact isPlain_answer _
  refine isPlain_call trivial fun selected => ?_
  generalize selected.getD ("", false, false) = route
  refine isPlain_call trivial fun initiator => isPlain_call trivial fun relayServer =>
    isPlain_call trivial fun forced => ?_
  split
  · exact isPlain_sendRelayResponse asks msg _
  · exact isPlain_punch msg _ _ _

theorem isPlain_cleanup (now : Int) (targets : List String) :
    IsPlain request (cleanup now targets : Steps config) := by
  induction targets with
  | nil => trivial
  | cons targetID rest inductionHypothesis =>
    refine isPlain_call trivial fun stored => ?_
    split
    · exact isPlain_andThen trivial inductionHypothesis
    · exact inductionHypothesis

theorem isPlain_forwardAnswer (rr : RelayAnswer) (senderAddr initiatorAddr : Addr)
    (targetID uuid : String) :
    IsPlain request (forwardAnswer rr senderAddr initiatorAddr targetID uuid : Steps config) :=
  isPlain_call trivial fun _ => isPlain_call trivial fun _ => isPlain_call trivial fun _ =>
    isPlain_answer _

theorem isPlain_answeringTarget {id : String} {senderAddr : Addr} {rest : String → Steps config}
    (follows : ∀ targetID, IsPlain request (rest targetID)) :
    IsPlain request (answeringTarget id senderAddr rest) := by
  unfold answeringTarget
  split
  · exact follows id
  · refine isPlain_call trivial fun count => ?_
    split
    · exact follows ""
    · exact isPlain_call trivial fun entry => follows _

variable {rr : RelayAnswer}

/-- An answer with a UUID recovers none. -/
theorem isPlain_relayResponse (senderAddr : Addr)
    (silent : (Request.relayResponse env rr senderAddr).recipient = none) :
    IsPlain (.relayResponse env rr senderAddr)
      (handleRelayResponseForward env rr senderAddr : Steps config) := by
  unfold handleRelayResponseForward
  split
  · trivial
  · next initiatorAddr decoded =>
    refine isPlain_answeringTarget fun targetID => ?_
    split
    · exact isPlain_forwardAnswer rr senderAddr initiatorAddr targetID rr.uuid
    · next unnamed =>
      have recipient :
          (Request.relayResponse env rr senderAddr).recipient = some initiatorAddr := by
        rw [Request.recipient, if_pos (not_not.mp unnamed), decoded]
      exact (nomatch silent.symm.trans recipient)

/-- What was recovered is sent to its recipient. -/
theorem shaped_forwardAnswer (senderAddr initiatorAddr : Addr) {targetID looked uuid : String} :
    Shaped request (some ⟨initiatorAddr, targetID, uuid⟩)
      (forwardAnswer rr senderAddr initiatorAddr looked uuid : Steps config) :=
  fun _ _ _ => ⟨fun _ => ⟨_, rfl, rfl, rfl⟩, fun _ => trivial⟩

theorem shaped_answeringTarget {id : String} {senderAddr : Addr} {rest : String → Steps config}
    (follows : ∀ targetID, Shaped request none (rest targetID)) :
    Shaped request none (answeringTarget id senderAddr rest) := by
  unfold answeringTarget
  split
  · exact follows id
  · intro count
    dsimp only
    split
    · exact follows ""
    · exact fun entry => follows _

/-- An answer without a UUID looks one up and forwards what it finds. -/
theorem shaped_relayResponse {initiatorAddr : Addr} (senderAddr : Addr)
    (recovers : (Request.relayResponse env rr senderAddr).recipient = some initiatorAddr) :
    Shaped (.relayResponse env rr senderAddr) none
      (handleRelayResponseForward env rr senderAddr : Steps config) := by
  obtain ⟨unnamed, decoded⟩ := Option.ite_none_right_eq_some.mp recovers
  unfold handleRelayResponseForward
  rw [decoded]
  refine shaped_answeringTarget fun targetID => ?_
  rw [if_neg (not_not.mpr unnamed)]
  refine ⟨rfl, fun initiator isRecipient pending named => ?_⟩
  obtain rfl := Option.some.inj (recovers.symm.trans isRecipient)
  dsimp only [Option.join_some, Option.map_some, Option.getD_some]
  rw [if_neg named]
  split
  · trivial
  · exact shaped_forwardAnswer senderAddr initiatorAddr

/-- Every request has the shape. -/
theorem shaped_run (request : Request) : Shaped request none (run config request) := by
  cases request with
  | requestRelay env msg raddr => exact shaped_of_isPlain rfl (isPlain_handleRequestRelay rfl msg)
  | requestRelayTCP env msg raddr hint =>
    exact shaped_of_isPlain rfl (isPlain_handleRequestRelayTCP rfl msg hint)
  | punchHoleRequest env msg raddr =>
    exact shaped_of_isPlain rfl (isPlain_handlePunchHoleRequest rfl msg)
  | relayResponse env rr senderAddr =>
    cases recipient : (Request.relayResponse env rr senderAddr).recipient with
    | none => exact shaped_of_isPlain recipient (isPlain_relayResponse senderAddr recipient)
    | some initiatorAddr => exact shaped_relayResponse senderAddr recipient
  | cleanup now targets => exact shaped_of_isPlain rfl (isPlain_cleanup now targets)
  | other others => exact shaped_of_isPlain rfl (isPlain_andThen trivial trivial)

end shapes

/-! ### What is kept -/

/-- What is remembered for a target is the latest UUID that was assigned for it. -/
structure Sound (s : SignalServer) (register : Register) : Prop where
  remembered : ∀ targetID, ∀ pending ∈ s.pendingRelayUUIDs.lookup targetID,
    pending.uuid ≠ "" ∧ ∃ holding ∈ register.latest targetID, holding.uuid = pending.uuid
  own : ∀ holding ∈ register.forwarded, holding ∈ register.assigned

/-- A handler goes on in shape, and what it has recovered is its recipient's own. -/
def Follows (_ : SignalServer) (register : Register) (thread : Nat) (request : Request)
    (program : Steps config) : Prop :=
  ∃ own, Shaped request own program ∧ ∀ holding ∈ own, holding ∈ register.assigned ∧
    register.resolved.lookup thread = some holding.targetID

section kept

variable {s after : SignalServer} {register : Register} {thread : Nat} {request : Request}

/-- The latest relay for a target is for that target. -/
theorem latest_some {targetID : String} {holding : Holding}
    (found : register.latest targetID = some holding) :
    holding ∈ register.assigned ∧ holding.targetID = targetID := by
  have passes := List.find?_some (p := fun holding : Holding => holding.targetID == targetID) found
  exact ⟨List.mem_of_find?_eq_some found, eq_of_beq passes⟩

/-- Another server that remembers nothing else. -/
theorem Sound.fewer (sound : Sound s register)
    (fewer : ∀ targetID, ∀ pending ∈ after.pendingRelayUUIDs.lookup targetID,
      pending ∈ s.pendingRelayUUIDs.lookup targetID) : Sound after register where
  remembered targetID pending found :=
    sound.remembered targetID pending (fewer targetID pending found)
  own := sound.own

/-- A UUID is sent to a target for an initiator. -/
theorem Sound.store (sound : Sound s register) {initiator : Addr} {uuid : String}
    (asks : request.initiator = some initiator) (named : uuid ≠ "") (now : Int)
    (targetID : String) :
    Sound (storePendingUUID s now targetID uuid) (register.assign request targetID uuid) := by
  have assigned : register.assign request targetID uuid =
      { register with assigned := ⟨initiator, targetID, uuid⟩ :: register.assigned } := by
    rw [Register.assign, asks]
  rw [assigned]
  refine ⟨fun other pending found => ?_, fun holding member =>
    List.mem_cons_of_mem _ (sound.own holding member)⟩
  rcases Table.lookup_insert_iff.mp found with ⟨rfl, rfl⟩ | ⟨different, older⟩
  · exact ⟨named, ⟨initiator, other, uuid⟩, List.find?_cons_of_pos (beq_self_eq_true other), rfl⟩
  · obtain ⟨present, holding, latest, same⟩ := sound.remembered other pending older
    refine ⟨present, holding, ?_, same⟩
    have passes : ¬ (targetID == other) = true := fun isSame => different (eq_of_beq isSame).symm
    exact (List.find?_cons_of_neg (p := fun holding : Holding => holding.targetID == other)
      passes).trans latest

/-- What was recovered for the recipient is forwarded to it. -/
theorem Sound.forward (sound : Sound s register) {sent : Sent}
    (own : ∀ raddr response, sent = .relayResponse raddr response → request.recipient.isSome →
      ⟨raddr, (register.resolved.lookup thread).getD "", response.uuid⟩ ∈ register.assigned) :
    Sound s (register.forward thread request sent) := by
  cases sent with
  | relayResponse raddr response =>
    show Sound s (if _ then _ else _)
    split
    · next recovers =>
      refine ⟨sound.remembered, fun holding member => ?_⟩
      rcases List.mem_cons.mp member with rfl | older
      · exact own raddr response rfl recovers
      · exact sound.own holding older
    · exact sound
  | _ => exact sound

/-- A call keeps what holds of the server and the register. -/
theorem sound_called {reply : call.Answer} (sound : Sound s register)
    (follows : Follows s register thread request (.call call next))
    (performed : perform config call s = (reply, after)) :
    Sound after ((noting config).called thread request call (some reply) s register) := by
  obtain ⟨own, shaped, known⟩ := follows
  cases call with
  | getPendingUUID targetID =>
    obtain ⟨_, rfl⟩ := Prod.mk.inj performed
    exact ⟨sound.remembered, sound.own⟩
  | storePendingUUID now targetID uuid =>
    obtain ⟨_, rfl⟩ := Prod.mk.inj performed
    obtain ⟨initiator, asks⟩ := Option.isSome_iff_exists.mp shaped.1
    exact sound.store asks shaped.2.1 now targetID
  | deletePendingUUID targetID =>
    obtain ⟨_, rfl⟩ := Prod.mk.inj performed
    exact sound.fewer fun _ _ found => (Table.lookup_erase_iff.mp found).2
  | send sent =>
    obtain ⟨_, rfl⟩ := Prod.mk.inj performed
    refine sound.forward fun raddr response isResponse recovers => ?_
    obtain rfl := isResponse
    obtain ⟨holding, isOwn, rfl, same⟩ := shaped.1 recovers
    obtain ⟨assigned, resolved⟩ := known holding isOwn
    rw [resolved, ← same]
    exact assigned
  | change others =>
    obtain ⟨_, rfl⟩ := Prod.mk.inj performed
    exact sound.fewer fun _ _ found => found
  | schedulePunchFallback raddr response =>
    obtain ⟨_, rfl⟩ := Prod.mk.inj performed
    exact sound.fewer fun _ _ found => found
  | prepareRelay clockSynced now relayUUID targetID initiatorID =>
    have same : after.pendingRelayUUIDs = s.pendingRelayUUIDs := by
      rw [perform] at performed
      split at performed
      · exact congrArg (·.2.pendingRelayUUIDs) performed.symm
      · split at performed
        · exact congrArg (·.2.pendingRelayUUIDs) performed.symm
        · exact congrArg (·.2.pendingRelayUUIDs) performed.symm
    exact sound.fewer fun _ _ found => same ▸ found
  | _ =>
    obtain ⟨_, rfl⟩ := Prod.mk.inj performed
    exact sound

variable {answer : Option call.Answer}

/-- What was assigned stays in the register. -/
theorem assigned_called {holding : Holding} (assigned : holding ∈ register.assigned) :
    holding ∈ ((noting config).called thread request call answer s register).assigned := by
  cases answer with
  | none => cases call <;> exact assigned
  | some reply =>
    cases call with
    | storePendingUUID now targetID uuid =>
      show holding ∈ (Register.assign register request targetID uuid).assigned
      unfold Register.assign
      split
      · exact assigned
      · exact List.mem_cons_of_mem _ assigned
    | send sent =>
      cases sent with
      | relayResponse raddr response =>
        show holding ∈ (if _ then _ else _ : Register).assigned
        split <;> exact assigned
      | _ => exact assigned
    | _ => exact assigned

/-- A thread's lookups are its own. -/
theorem resolved_called {other : Nat}
    (different : other ≠ thread ∨ ∀ targetID, call ≠ .getPendingUUID targetID) :
    ((noting config).called thread request call answer s register).resolved.lookup other =
      register.resolved.lookup other := by
  cases answer with
  | none => cases call <;> rfl
  | some reply =>
    cases call with
    | getPendingUUID targetID =>
      exact AList.lookup_insert_ne (different.resolve_right fun never => never targetID rfl)
    | storePendingUUID now targetID uuid =>
      show (Register.assign register request targetID uuid).resolved.lookup other = _
      unfold Register.assign
      split <;> rfl
    | send sent =>
      cases sent with
      | relayResponse raddr response =>
        show (if _ then _ else _ : Register).resolved.lookup other = _
        split <;> rfl
      | _ => rfl
    | _ => rfl

/-- A thread's own call does not disturb another. -/
theorem Follows.others {other : Nat} {another : Request} {program : Steps config}
    (follows : Follows s register other another program) (different : other ≠ thread) :
    Follows after ((noting config).called thread request call answer s register) other another
      program := by
  obtain ⟨own, shaped, known⟩ := follows
  refine ⟨own, shaped, fun holding isOwn => ?_⟩
  obtain ⟨assigned, resolved⟩ := known holding isOwn
  exact ⟨assigned_called assigned, (resolved_called (.inl different)).trans resolved⟩

/-- A handler whose call was answered goes on in shape. -/
theorem Follows.answered {reply : call.Answer} (sound : Sound s register)
    (looksUpOwn : LooksUpOwn s register request call)
    (follows : Follows s register thread request (.call call next))
    (performed : perform config call s = (reply, after)) :
    Follows after ((noting config).called thread request call (some reply) s register) thread
      request (next (some reply)) := by
  obtain ⟨own, shaped, known⟩ := follows
  cases call with
  | getPendingUUID targetID =>
    obtain ⟨rfl, rfl⟩ := Prod.mk.inj performed
    obtain ⟨rfl, recovered⟩ := shaped
    obtain ⟨sameInitiator, remembers⟩ := looksUpOwn
    obtain ⟨pending, found⟩ := Option.isSome_iff_exists.mp remembers
    obtain ⟨named, holding, latest, sameUUID⟩ := sound.remembered targetID pending found
    obtain ⟨assigned, rfl⟩ := latest_some latest
    have recipient : request.recipient = some holding.initiator := by
      rw [← sameInitiator, latest, Option.map_some]
    refine ⟨some ⟨holding.initiator, holding.targetID, pending.uuid⟩, ?_, ?_⟩
    · rw [found]
      exact recovered _ recipient pending named
    · rintro _ ⟨rfl⟩
      rw [← sameUUID]
      exact ⟨assigned, AList.lookup_insert _⟩
  | storePendingUUID now targetID uuid =>
    have noLookup : ∀ other,
        RelayCall.storePendingUUID now targetID uuid ≠ .getPendingUUID other := fun _ => nofun
    refine ⟨own, shaped.2.2 _, fun holding isOwn => ?_⟩
    obtain ⟨assigned, resolved⟩ := known holding isOwn
    exact ⟨assigned_called assigned, (resolved_called (.inr noLookup)).trans resolved⟩
  | send sent =>
    have rest : Shaped request own (next (some reply)) := by
      cases sent with
      | relayResponse raddr response => exact shaped.2 _
      | _ => exact shaped _
    have noLookup : ∀ other, RelayCall.send sent ≠ .getPendingUUID other := fun _ => nofun
    refine ⟨own, rest, fun holding isOwn => ?_⟩
    obtain ⟨assigned, resolved⟩ := known holding isOwn
    exact ⟨assigned_called assigned, (resolved_called (.inr noLookup)).trans resolved⟩
  | _ => exact ⟨own, shaped _, known⟩

/-- A handler whose call on the database has failed goes on in shape. -/
theorem Follows.failed (follows : Follows s register thread request (.call call next))
    (mayFail : call.mayFail = true) : Follows after register thread request (next none) := by
  obtain ⟨own, shaped, known⟩ := follows
  refine ⟨own, ?_, known⟩
  cases call with
  | requireAuthorizedInitiator | checkConnection | prepareRelay => exact shaped none
  | _ => exact absurd mayFail nofun

end kept

/-! ### Every run -/

theorem noting_obligations (config : RelayConfig) :
    Obligations (run config) (noting config)
      (fun pool label => StepsOwn pool label ∧ Possible pool label) Sound Follows where
  begins s register thread request sound :=
    ⟨sound, ⟨none, shaped_run request, nofun⟩, fun _ _ _ _ follows => follows⟩
  ends s register thread request _ sound _ := ⟨sound, fun _ _ _ _ follows => follows⟩
  calls := by
    rintro pool thread fails request call next ⟨stepsOwn, possible⟩ found sound follows answer after
      attempted
    have isNext := Pool.nextCall_of_lookup found
    cases fails with
    | true =>
      obtain ⟨rfl, rfl⟩ := Prod.mk.inj attempted
      have same : (noting config).called thread request call none pool.store pool.ghost =
          pool.ghost := by cases call <;> rfl
      rw [same]
      exact ⟨sound, follows.failed (possible rfl _ isNext), fun _ _ _ _ others => others⟩
    | false =>
      obtain ⟨rfl, rfl⟩ := Prod.mk.inj attempted
      exact ⟨sound_called sound follows rfl,
        follows.answered sound (stepsOwn _ isNext) rfl, fun _ different _ _ others =>
          others.others different⟩

/-- In every run that looks up only what is the recipient's own, answers carry their recipient's
UUID. -/
theorem uuidsOwn_of_stepsOwn (config : RelayConfig)
    {pool : Pool (relayCalls config) Request End Register}
    (reached : ReachableWhen (exchanging config) StepsOwn pool) : UUIDsOwn pool := by
  have starts : ∀ (s : SignalServer) (register : Register),
      s.pendingRelayUUIDs = ∅ ∧ register = {} → Sound s register := by
    rintro s register ⟨empty, rfl⟩
    refine ⟨fun targetID pending found => ?_, nofun⟩
    rw [empty] at found
    exact absurd found nofun
  exact ((noting_obligations config).invariant starts reached.of_restrict).1.own

/-! ### Two initiators -/

/-- A second operator's device is connected. -/
def twoOperators : SignalServer :=
  { customerServer with
    peers := customerServer.peers.insert "operator-2"
      (udpPeer "operator-2" (.ofOctets 198 51 100 8)) }

def secondOperatorAddr : Addr := ⟨.ofOctets 198 51 100 8, 50000⟩

/-- The second operator asks for a relay to the same device. -/
def alsoToCustomer : RequestRelay :=
  { toCustomer with uuid := "c2a9f6d0-1b7e-4e55-8f21-70d3a95be648" }

def idle : Pool (relayCalls openRelayConfig) Request End Register := ⟨twoOperators, ∅, {}⟩

theorem idle_start : (exchanging openRelayConfig).start idle := ⟨rfl, rfl, rfl⟩

/-- A thread begins and makes a number of calls. -/
def all (thread : Nat) (request : Request) (count : Nat) : List (Interleave.Label Request) :=
  .begin thread request :: List.replicate count (.turn thread false)

/-- The operator asks over TCP for a relay to the device. -/
def asks : Request := .requestRelayTCP (relayEnv true) toCustomer operatorAddr .tcp

def alsoAsks : Request := .requestRelayTCP (relayEnv true) alsoToCustomer secondOperatorAddr .tcp

/-- The device answers the first operator, without a UUID. -/
def answers : Request :=
  .relayResponse (relayEnv true)
    { socketAddr := some operatorAddr, id := "device-1", uuid := "", refuseReason := "" }
    ⟨.ofOctets 203 0 113 9, 21116⟩

def operatorHolds (uuid : String) : Holding := ⟨operatorAddr, "device-1", uuid⟩

/-- Two operators ask for a relay to a device, and its answer to the first carries the UUID of the
second. -/
theorem uuid_ofAnother :
    ∃ pool, Reachable (exchanging openRelayConfig) pool ∧
      operatorHolds toCustomer.uuid ∈ pool.ghost.assigned ∧
      operatorHolds alsoToCustomer.uuid ∈ pool.ghost.forwarded ∧ ¬ UUIDsOwn pool := by
  have ran : ((exchanging openRelayConfig).run idle
      (all 1 asks 8 ++ all 2 alsoAsks 8 ++ all 3 answers 5)).any (fun pool =>
        pool.ghost.assigned.contains (operatorHolds toCustomer.uuid) &&
        pool.ghost.forwarded.contains (operatorHolds alsoToCustomer.uuid) &&
        !pool.ghost.assigned.contains (operatorHolds alsoToCustomer.uuid)) = true := by decide
  obtain ⟨pool, reached, passed⟩ := exists_reachable_of_run idle_start ran
  obtain ⟨both, missing⟩ := Bool.and_eq_true_iff.mp passed
  obtain ⟨assigned, forwarded⟩ := Bool.and_eq_true_iff.mp both
  have isForwarded := List.contains_iff_mem.mp forwarded
  refine ⟨pool, reached, List.contains_iff_mem.mp assigned, isForwarded, fun own => ?_⟩
  rw [List.contains_iff_mem.mpr (own _ isForwarded)] at missing
  exact Bool.false_ne_true missing

/-- The device answers the first operator before the second asks. -/
theorem uuidsOwn_of_stepsOwn_inTurn :
    ∃ pool, ReachableWhen (exchanging openRelayConfig) StepsOwn pool ∧
      operatorHolds toCustomer.uuid ∈ pool.ghost.forwarded ∧ UUIDsOwn pool := by
  have ran : ((exchanging openRelayConfig).runWhen StepsOwn idle
      (all 1 asks 8 ++ all 2 answers 5 ++ all 3 alsoAsks 8)).any (fun pool =>
        pool.ghost.forwarded.contains (operatorHolds toCustomer.uuid)) = true := by decide
  obtain ⟨pool, reached, passed⟩ := exists_reachableWhen_of_runWhen idle_start ran
  exact ⟨pool, reached, List.contains_iff_mem.mp passed, uuidsOwn_of_stepsOwn _ reached⟩

end SovaDesk.Signal.Exchange
