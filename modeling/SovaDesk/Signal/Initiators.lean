/-
This file settles two questions about the authorization of an initiator: whether its
verdict depends on the order in which Go runs through the peer map, and whether a banned
device passes it.

The server attributes a request to the first live peer that it finds at the IP of the
request. Several peers can share a public IP, and which of them comes first is the
choice of a map traversal. The same lookup for the answers of targets counts the peers at
the IP first and gives up if there are several; the authorization does not. The ban is
known from two places, the database and the entry of the peer map. The finalizer reads
the database only where enrollment is required, and is told about the entry only by the
caller that has one in hand.
-/

import SovaDesk.Signal.Verdict

namespace SovaDesk.Signal

open Auth

/-! ### The checks -/

/-- The modes in which a device has to be enrolled. -/
def RelayConfig.requiresEnrollment (config : RelayConfig) : Prop :=
  config.enrollmentMode = enrollmentModeManaged ∨ config.enrollmentMode = enrollmentModeLocked

instance (config : RelayConfig) : Decidable config.requiresEnrollment :=
  inferInstanceAs (Decidable (_ ∨ _))

/-- What the finalizer checks of a device, given what its caller says about a ban. -/
structure PassesChecks (config : RelayConfig) (s : SignalServer) (id : String)
    (memoryBanned : Bool) : Prop where
  unmarked : memoryBanned = false
  notDeleted : s.db.isPeerSoftDeleted id = false
  notPending : s.db.getConfig ("pending_device_" ++ id) = ""
  enrolled : config.requiresEnrollment → ∃ row, s.db.getPeer id = some row ∧ row.banned = false

section checks

variable {config : RelayConfig} {s : SignalServer} {id other : String} {memoryBanned : Bool}

/-- The finalizer accepts the device it is asked about, and no other, if it passes the checks. -/
theorem finalizeAuthorizedInitiator_eq_some_iff :
    finalizeAuthorizedInitiator config s id memoryBanned = some other ↔
      PassesChecks config s id memoryBanned ∧ other = id := by
  unfold finalizeAuthorizedInitiator
  constructor
  · intro accepted
    obtain ⟨unmarked, rest⟩ := Option.ite_none_left_eq_some.mp accepted
    obtain ⟨notDeleted, rest⟩ := Option.ite_none_left_eq_some.mp rest
    obtain ⟨notPending, rest⟩ := Option.ite_none_left_eq_some.mp rest
    rw [Bool.not_eq_true] at unmarked notDeleted
    rw [ne_eq, not_not] at notPending
    split at rest
    · next strict =>
      cases found : s.db.getPeer id with
      | none =>
        rw [found] at rest
        exact absurd rest.symm (Option.some_ne_none other)
      | some row =>
        rw [found] at rest
        obtain ⟨unbanned, same⟩ := Option.ite_none_left_eq_some.mp rest
        exact ⟨⟨unmarked, notDeleted, notPending, fun _ => ⟨row, found,
          Bool.eq_false_iff.mpr unbanned⟩⟩, (Option.some.inj same).symm⟩
    · next relaxed =>
      exact ⟨⟨unmarked, notDeleted, notPending, fun strict => absurd strict relaxed⟩,
        (Option.some.inj rest).symm⟩
  · rintro ⟨⟨unmarked, notDeleted, notPending, enrolled⟩, rfl⟩
    rw [if_neg (Bool.not_eq_true _ ▸ unmarked), if_neg (Bool.not_eq_true _ ▸ notDeleted),
      if_neg (not_not.mpr notPending)]
    split
    · next strict =>
      obtain ⟨row, found, unbanned⟩ := enrolled strict
      rw [found]
      exact if_neg (Bool.not_eq_true _ ▸ unbanned)
    · rfl

theorem finalizeAuthorizedInitiator_of_passes (passes : PassesChecks config s id memoryBanned) :
    finalizeAuthorizedInitiator config s id memoryBanned = some id :=
  finalizeAuthorizedInitiator_eq_some_iff.mpr ⟨passes, rfl⟩

theorem finalizeAuthorizedInitiator_of_fails (fails : ¬ PassesChecks config s id memoryBanned) :
    finalizeAuthorizedInitiator config s id memoryBanned = none :=
  Option.eq_none_iff_forall_ne_some.mpr fun _ accepted =>
    fails (finalizeAuthorizedInitiator_eq_some_iff.mp accepted).1

end checks

/-! ### Peers that share an IP -/

/-- The peers that the lookup of an IP may return: those whose UDP address has it, or, if there is
none, those without a UDP address that were last seen there. -/
def sharingIP (peers : Table String Entry) (ip : IP) : List Entry :=
  let entries := peers.entries.map (·.2)
  let registered := entries.filter fun entry => entry.udpAddr.any (·.ip == ip)
  if registered.isEmpty then
    entries.filter fun entry => entry.udpAddr.isNone && entry.ip.any (·.ip == ip)
  else registered

section sharing

variable {peers reordered : Table String Entry} {ip : IP} {entry : Entry}

theorem findByIP_eq_head? (peers : Table String Entry) (ip : IP) :
    findByIP peers ip = (sharingIP peers ip).head? := by
  unfold findByIP sharingIP
  dsimp only
  rw [← List.head?_filter, ← List.head?_filter]
  split
  · next unregistered =>
    rw [List.isEmpty_iff.mp unregistered, List.head?_nil, Option.none_or]
  · next registered =>
    obtain ⟨first, rest, nonempty⟩ := List.exists_cons_of_ne_nil fun empty =>
      registered (List.isEmpty_iff.mpr empty)
    rw [nonempty, List.head?_cons, Option.some_or]

/-- Another order of the map has the same peers at an IP. -/
theorem sharingIP_perm (perm : reordered.entries.Perm peers.entries) (ip : IP) :
    (sharingIP reordered ip).Perm (sharingIP peers ip) := by
  have entries : (reordered.entries.map (·.2)).Perm (peers.entries.map (·.2)) := perm.map _
  have registered := entries.filter fun entry => entry.udpAddr.any (·.ip == ip)
  have empty := registered.isEmpty_eq
  unfold sharingIP
  dsimp only
  rw [empty]
  split
  · exact entries.filter _
  · exact registered

/-- Every peer at an IP is the first one in some order of the map. -/
theorem exists_order (shares : entry ∈ sharingIP peers ip) :
    ∃ reordered : Table String Entry, reordered.entries.Perm peers.entries ∧
      findByIP reordered ip = some entry := by
  have stored : entry ∈ peers.entries.map (·.2) := by
    unfold sharingIP at shares
    dsimp only at shares
    split at shares
    · exact List.mem_of_mem_filter shares
    · exact List.mem_of_mem_filter shares
  obtain ⟨item, member, rfl⟩ := List.mem_map.mp stored
  obtain ⟨before, after, split⟩ := List.append_of_mem member
  have perm : (item :: (before ++ after)).Perm peers.entries :=
    split ▸ List.perm_middle.symm
  let reordered : Table String Entry :=
    ⟨item :: (before ++ after), (List.perm_nodupKeys perm).mpr peers.nodupKeys⟩
  refine ⟨reordered, perm, ?_⟩
  have shares : item.2 ∈ sharingIP reordered ip := (sharingIP_perm perm ip).mem_iff.mpr shares
  rw [findByIP_eq_head?]
  unfold sharingIP at shares ⊢
  dsimp only at shares ⊢
  split at shares
  · next unregistered =>
    rw [if_pos unregistered]
    exact congrArg List.head? (List.filter_cons_of_pos (List.of_mem_filter shares))
  · next registered =>
    rw [if_neg registered]
    exact congrArg List.head? (List.filter_cons_of_pos (List.of_mem_filter shares))

end sharing

/-! ### The order of the peer map -/

/-- The verdict on an initiator, and the identity it is accepted under, are the same for every order
in which Go may run through the peer map. -/
def OrderIndependent (config : RelayConfig) (s : SignalServer) (now : Int) (raddr : Addr)
    (token : String) : Prop :=
  ∀ peers : Table String Entry, peers.entries.Perm s.peers.entries →
    requireAuthorizedInitiator config { s with peers } now raddr token =
      requireAuthorizedInitiator config s now raddr token

/-- The verdict where no live peer is found at the IP: on the peer bound to the TCP session, on the
panel's proxy, or on the bearer of a login token. -/
def authorizeWithoutIP (config : RelayConfig) (s : SignalServer) (now : Int) (raddr : Addr)
    (token : String) : Option String :=
  match ((s.tcpSessions.lookup raddr).filter (· != "")).bind fun id =>
    (s.peers.lookup id).filter fun entry => !entry.isExpired now with
  | some initiator => finalizeAuthorizedInitiator config s initiator.id initiator.banned
  | none =>
    if config.panelSignalProxyCIDRs.any (·.contains raddr.ip) then some panelWebRemoteInitiatorID
    else authorizeViaClientToken config s token

/-- The condition: the live peers at the IP are all refused, or all accepted under one ID; and if
there is an expired one beside a live one, the request is judged alike without a peer. -/
structure TreatsPeersAlike (config : RelayConfig) (s : SignalServer) (now : Int) (raddr : Addr)
    (token : String) : Prop where
  live : ∀ first ∈ sharingIP s.peers raddr.ip, ∀ second ∈ sharingIP s.peers raddr.ip,
    first.isExpired now = false → second.isExpired now = false →
      (PassesChecks config s first.id first.banned →
        PassesChecks config s second.id second.banned ∧ first.id = second.id)
  mixed : ∀ first ∈ sharingIP s.peers raddr.ip, ∀ second ∈ sharingIP s.peers raddr.ip,
    first.isExpired now = false → second.isExpired now = true →
      ∀ id, authorizeWithoutIP config s now raddr token = some id ↔
        PassesChecks config s first.id first.banned ∧ id = first.id

section order

variable {config : RelayConfig} {s : SignalServer} {now : Int} {raddr : Addr} {token : String}
  {entry : Entry}

theorem requireAuthorizedInitiator_of_live (found : findByIP s.peers raddr.ip = some entry)
    (live : entry.isExpired now = false) :
    requireAuthorizedInitiator config s now raddr token =
      finalizeAuthorizedInitiator config s entry.id entry.banned := by
  have initiator : liveInitiator s now raddr = some entry := by
    unfold liveInitiator
    rw [found, Option.filter_some, live, Bool.not_false, if_pos rfl, Option.some_or]
  unfold requireAuthorizedInitiator
  rw [initiator]

/-- Without a live peer at the IP the request is judged by the rest. -/
theorem requireAuthorizedInitiator_of_none
    (expired : ∀ entry, findByIP s.peers raddr.ip = some entry → entry.isExpired now = true) :
    requireAuthorizedInitiator config s now raddr token =
      authorizeWithoutIP config s now raddr token := by
  have nobody : (findByIP s.peers raddr.ip).filter (fun entry => !entry.isExpired now) = none :=
    Option.filter_eq_none_iff.mpr fun entry found => by
      rw [expired entry found, Bool.not_true]
      exact Bool.false_ne_true
  have initiator : liveInitiator s now raddr =
      ((s.tcpSessions.lookup raddr).filter (· != "")).bind fun id =>
        (s.peers.lookup id).filter fun entry => !entry.isExpired now := by
    unfold liveInitiator
    rw [nobody, Option.none_or]
  rw [requireAuthorizedInitiator, initiator]
  rfl

/-- Nothing but the lookup by IP depends on the order of the map. -/
theorem authorizeWithoutIP_reordered {peers : Table String Entry}
    (perm : peers.entries.Perm s.peers.entries) :
    authorizeWithoutIP config { s with peers } now raddr token =
      authorizeWithoutIP config s now raddr token := by
  have same : ∀ id, peers.lookup id = s.peers.lookup id := fun id => AList.perm_lookup perm
  unfold authorizeWithoutIP
  dsimp only
  simp only [same]
  rfl

/-- The verdict when a given peer is the first one at the IP. -/
def verdictOn (config : RelayConfig) (s : SignalServer) (now : Int) (raddr : Addr)
    (token : String) (entry : Entry) : Option String :=
  if entry.isExpired now then authorizeWithoutIP config s now raddr token
  else finalizeAuthorizedInitiator config s entry.id entry.banned

theorem requireAuthorizedInitiator_of_found (found : findByIP s.peers raddr.ip = some entry) :
    requireAuthorizedInitiator config s now raddr token =
      verdictOn config s now raddr token entry := by
  unfold verdictOn
  split
  · next expired =>
    refine requireAuthorizedInitiator_of_none fun other isFirst => ?_
    obtain rfl := Option.some.inj (found.symm.trans isFirst)
    exact expired
  · next live => exact requireAuthorizedInitiator_of_live found (Bool.eq_false_iff.mpr live)

theorem verdictOn_reordered {peers : Table String Entry}
    (perm : peers.entries.Perm s.peers.entries) (entry : Entry) :
    verdictOn config { s with peers } now raddr token entry =
      verdictOn config s now raddr token entry := by
  unfold verdictOn
  rw [authorizeWithoutIP_reordered perm]
  rfl

/-- The verdict depends on no order exactly when any two peers at the IP get the same one. -/
theorem orderIndependent_iff_verdictOn :
    OrderIndependent config s now raddr token ↔
      ∀ first ∈ sharingIP s.peers raddr.ip, ∀ second ∈ sharingIP s.peers raddr.ip,
        verdictOn config s now raddr token first = verdictOn config s now raddr token second := by
  constructor
  · intro independent first isFirst second isSecond
    have verdict : ∀ entry ∈ sharingIP s.peers raddr.ip,
        verdictOn config s now raddr token entry =
          requireAuthorizedInitiator config s now raddr token := by
      intro entry shares
      obtain ⟨peers, perm, found⟩ := exists_order shares
      rw [← independent peers perm, requireAuthorizedInitiator_of_found found,
        verdictOn_reordered perm]
    rw [verdict first isFirst, verdict second isSecond]
  · intro alike peers perm
    have shared := sharingIP_perm perm raddr.ip
    cases found : findByIP s.peers raddr.ip with
    | none =>
      -- nobody is at the IP in any order
      have empty : sharingIP s.peers raddr.ip = [] :=
        List.head?_eq_none_iff.mp ((findByIP_eq_head? _ _).symm.trans found)
      rw [empty] at shared
      have nobody : findByIP peers raddr.ip = none := by
        rw [findByIP_eq_head?, shared.eq_nil, List.head?_nil]
      rw [requireAuthorizedInitiator_of_none fun _ isFirst =>
          absurd (isFirst.symm.trans nobody) (Option.some_ne_none _),
        requireAuthorizedInitiator_of_none fun _ isFirst =>
          absurd (isFirst.symm.trans found) (Option.some_ne_none _),
        authorizeWithoutIP_reordered perm]
    | some second =>
      have isSecond : second ∈ sharingIP s.peers raddr.ip :=
        List.mem_of_head? ((findByIP_eq_head? _ _).symm.trans found)
      obtain ⟨first, isHead⟩ := Option.isSome_iff_exists.mp
        (List.isSome_head?.mpr (List.ne_nil_of_mem (shared.mem_iff.mpr isSecond)))
      have isFirst : first ∈ sharingIP s.peers raddr.ip :=
        shared.mem_iff.mp (List.mem_of_head? isHead)
      rw [requireAuthorizedInitiator_of_found ((findByIP_eq_head? _ _).trans isHead),
        requireAuthorizedInitiator_of_found found, verdictOn_reordered perm]
      exact alike first isFirst second isSecond

/-- Two live peers get the same verdict exactly when both are refused, or both are accepted under
one ID. -/
theorem finalize_eq_iff {first second : Entry} :
    finalizeAuthorizedInitiator config s first.id first.banned =
        finalizeAuthorizedInitiator config s second.id second.banned ↔
      (PassesChecks config s first.id first.banned →
        PassesChecks config s second.id second.banned ∧ first.id = second.id) ∧
      (PassesChecks config s second.id second.banned →
        PassesChecks config s first.id first.banned ∧ second.id = first.id) := by
  constructor
  · intro same
    constructor
    · intro passes
      have accepted := same.symm.trans (finalizeAuthorizedInitiator_of_passes passes)
      exact finalizeAuthorizedInitiator_eq_some_iff.mp accepted
    · intro passes
      have accepted := same.trans (finalizeAuthorizedInitiator_of_passes passes)
      exact finalizeAuthorizedInitiator_eq_some_iff.mp accepted
  · rintro ⟨forth, back⟩
    by_cases passes : PassesChecks config s first.id first.banned
    · obtain ⟨alsoPasses, same⟩ := forth passes
      rw [finalizeAuthorizedInitiator_of_passes passes,
        finalizeAuthorizedInitiator_of_passes alsoPasses, same]
    · rw [finalizeAuthorizedInitiator_of_fails passes,
        finalizeAuthorizedInitiator_of_fails fun alsoPasses => passes (back alsoPasses).1]

end order

/-- The authorization depends on no order of the peer map exactly when the peers at the IP are
treated alike. -/
theorem orderIndependent_iff_treatsPeersAlike (config : RelayConfig) (s : SignalServer) (now : Int)
    (raddr : Addr) (token : String) :
    OrderIndependent config s now raddr token ↔ TreatsPeersAlike config s now raddr token := by
  rw [orderIndependent_iff_verdictOn]
  constructor
  · intro alike
    constructor
    · intro first isFirst second isSecond firstLive secondLive
      have same := alike first isFirst second isSecond
      unfold verdictOn at same
      rw [firstLive, secondLive, if_neg Bool.false_ne_true, if_neg Bool.false_ne_true] at same
      exact (finalize_eq_iff.mp same).1
    · intro first isFirst second isSecond firstLive secondExpired id
      have same := alike first isFirst second isSecond
      unfold verdictOn at same
      rw [firstLive, secondExpired, if_neg Bool.false_ne_true, if_pos rfl] at same
      rw [← same]
      exact finalizeAuthorizedInitiator_eq_some_iff
  · rintro ⟨live, mixed⟩
    -- a live peer and an expired one, in this order
    have across : ∀ first ∈ sharingIP s.peers raddr.ip, ∀ second ∈ sharingIP s.peers raddr.ip,
        first.isExpired now = false → second.isExpired now = true →
          finalizeAuthorizedInitiator config s first.id first.banned =
            authorizeWithoutIP config s now raddr token := by
      intro first isFirst second isSecond firstLive secondExpired
      ext id
      rw [mixed first isFirst second isSecond firstLive secondExpired id]
      exact finalizeAuthorizedInitiator_eq_some_iff
    intro first isFirst second isSecond
    unfold verdictOn
    cases firstExpired : first.isExpired now with
    | false =>
      cases secondExpired : second.isExpired now with
      | false =>
        exact finalize_eq_iff.mpr ⟨live first isFirst second isSecond firstExpired secondExpired,
          live second isSecond first isFirst secondExpired firstExpired⟩
      | true => exact across first isFirst second isSecond firstExpired secondExpired
    | true =>
      cases secondExpired : second.isExpired now with
      | false => exact (across second isSecond first isFirst secondExpired firstExpired).symm
      | true => rfl

/-- Two devices behind one public address; one of them has just been banned. -/
def sharedAddressServer : SignalServer :=
  { customerServer with
    peers := ((∅ : Table String Entry).insert "operator-2"
      { udpPeer "operator-2" operatorAddr.ip with banned := true }).insert
      "operator-1" (udpPeer "operator-1" operatorAddr.ip) }

/-- The same two devices, met in the other order. -/
def sharedAddressReordered : Table String Entry :=
  ((∅ : Table String Entry).insert "operator-1" (udpPeer "operator-1" operatorAddr.ip)).insert
    "operator-2" { udpPeer "operator-2" operatorAddr.ip with banned := true }

/-- The request is accepted if the one device is found first, and refused if the other one is. -/
theorem sharedAddress_notOrderIndependent :
    ¬ ∀ (config : RelayConfig) (s : SignalServer) (now : Int) (raddr : Addr) (token : String),
      OrderIndependent config s now raddr token := by
  intro always
  have same := always openRelayConfig sharedAddressServer 1 operatorAddr "" sharedAddressReordered
    (List.Perm.swap _ _ _)
  exact absurd same (by decide)

/-! ### Banned devices -/

/-- The device behind a login token. -/
def tokenDevice (config : RelayConfig) (token : String) : Option String :=
  if trimSpace token = "" ∨ !isOpaqueClientToken (trimSpace token) then none
  else ((config.clientSession (trimSpace token)).map fun session =>
    trimSpace session.clientID).filter (· != "")

/-- The device a request is attributed to, with what is known about a ban where it is found: the
live peer at the IP or bound to the TCP session, or the device of the login token. The panel's proxy
and a user without a device are no devices. -/
def attributedDevice (config : RelayConfig) (s : SignalServer) (now : Int) (raddr : Addr)
    (token : String) : Option (String × Bool) :=
  match liveInitiator s now raddr with
  | some initiator => some (initiator.id, initiator.banned)
  | none =>
    if config.panelSignalProxyCIDRs.any (·.contains raddr.ip) then none
    else (tokenDevice config token).map fun id => (id, false)

/-- A device that may initiate. -/
structure InGoodStanding (s : SignalServer) (id : String) : Prop where
  notBannedInDB : s.db.isPeerBanned id = false
  notBannedInMap : ∀ entry, s.peers.lookup id = some entry → entry.banned = false
  notDeleted : s.db.isPeerSoftDeleted id = false
  notPending : s.db.getConfig ("pending_device_" ++ id) = ""

/-- Every device that is accepted is in good standing. -/
def AcceptsInGoodStanding (config : RelayConfig) (s : SignalServer) (now : Int) (raddr : Addr)
    (token : String) : Prop :=
  ∀ id memoryBanned, attributedDevice config s now raddr token = some (id, memoryBanned) →
    requireAuthorizedInitiator config s now raddr token = some id → InGoodStanding s id

/-- The condition: the device is banned in neither place, or it does not pass the checks that are
made, among which only some modes and some callers ask for the ban. -/
def UnbannedOrChecked (config : RelayConfig) (s : SignalServer) (now : Int) (raddr : Addr)
    (token : String) : Prop :=
  ∀ id memoryBanned, attributedDevice config s now raddr token = some (id, memoryBanned) →
    (s.db.isPeerBanned id = false ∧
        ∀ entry, s.peers.lookup id = some entry → entry.banned = false) ∨
      ¬ PassesChecks config s id memoryBanned

section bans

variable {config : RelayConfig} {s : SignalServer} {now : Int} {raddr : Addr} {token id : String}
  {memoryBanned : Bool}

theorem authorizeViaClientToken_of_device (bearer : tokenDevice config token = some id) :
    authorizeViaClientToken config s token =
      finalizeAuthorizedInitiator config s id false := by
  unfold tokenDevice at bearer
  obtain ⟨opaqueToken, bearer⟩ := Option.ite_none_left_eq_some.mp bearer
  obtain ⟨session, nonempty⟩ := Option.filter_eq_some_iff.mp bearer
  obtain ⟨found, isSession, rfl⟩ := Option.map_eq_some_iff.mp session
  unfold authorizeViaClientToken
  dsimp only
  rw [if_neg opaqueToken, isSession]
  exact if_neg (bne_iff_ne.mp nonempty)

/-- A request that is attributed to a device is judged by the checks of that device. -/
theorem requireAuthorizedInitiator_of_attributed
    (attributed : attributedDevice config s now raddr token = some (id, memoryBanned)) :
    requireAuthorizedInitiator config s now raddr token =
      finalizeAuthorizedInitiator config s id memoryBanned := by
  unfold attributedDevice at attributed
  unfold requireAuthorizedInitiator
  cases found : liveInitiator s now raddr with
  | some initiator =>
    rw [found, Option.some_inj, Prod.mk.injEq] at attributed
    obtain ⟨rfl, rfl⟩ := attributed
    rfl
  | none =>
    rw [found] at attributed
    obtain ⟨noProxy, bearer⟩ := Option.ite_none_left_eq_some.mp attributed
    obtain ⟨device, isDevice, same⟩ := Option.map_eq_some_iff.mp bearer
    obtain ⟨rfl, rfl⟩ := Prod.mk.inj same
    dsimp only
    rw [if_neg noProxy]
    exact authorizeViaClientToken_of_device isDevice

/-- An accepted device passes the checks, which leave open whether it is banned. -/
theorem inGoodStanding_iff (passes : PassesChecks config s id memoryBanned) :
    InGoodStanding s id ↔ s.db.isPeerBanned id = false ∧
      ∀ entry, s.peers.lookup id = some entry → entry.banned = false :=
  ⟨fun standing => ⟨standing.notBannedInDB, standing.notBannedInMap⟩,
    fun unbanned => ⟨unbanned.1, unbanned.2, passes.notDeleted, passes.notPending⟩⟩

end bans

/-- Every accepted device is in good standing exactly when the device of the request is not banned,
or fails a check that is made. -/
theorem acceptsInGoodStanding_iff_unbannedOrChecked (config : RelayConfig) (s : SignalServer)
    (now : Int) (raddr : Addr) (token : String) :
    AcceptsInGoodStanding config s now raddr token ↔
      UnbannedOrChecked config s now raddr token := by
  refine forall₂_congr fun id memoryBanned => imp_congr_right fun attributed => ?_
  rw [requireAuthorizedInitiator_of_attributed attributed]
  by_cases passes : PassesChecks config s id memoryBanned
  · rw [finalizeAuthorizedInitiator_of_passes passes, inGoodStanding_iff passes]
    exact ⟨fun standing => .inl (standing rfl),
      fun unbanned _ => unbanned.resolve_right (not_not.mpr passes)⟩
  · rw [finalizeAuthorizedInitiator_of_fails passes]
    exact ⟨fun _ => .inr passes, fun _ accepted => absurd accepted.symm (Option.some_ne_none id)⟩

/-- The login token of the operator's client. -/
def operatorToken : String := String.ofList (List.replicate 64 'a')

/-- The operator's client is logged in. -/
def loggedInConfig : RelayConfig :=
  { openRelayConfig with
    clientSession := fun token => if token = operatorToken then some ⟨"operator-1", 1⟩ else none }

/-- The operator's device has been banned, which has taken it out of the map. -/
def bannedServer : SignalServer :=
  { customerServer with
    db := { emptyDB with
      peers := AList.insert "operator-1" { emptyRow "operator-1" with banned := true } ∅ }
    peers := ∅ }

/-- In open mode a banned device is accepted by its login token. -/
theorem bannedDevice_notInGoodStanding :
    ¬ ∀ (config : RelayConfig) (s : SignalServer) (now : Int) (raddr : Addr) (token : String),
      AcceptsInGoodStanding config s now raddr token := by
  intro always
  have attributed : attributedDevice loggedInConfig bannedServer 1 operatorAddr operatorToken =
      some ("operator-1", false) := by decide
  have accepted : requireAuthorizedInitiator loggedInConfig bannedServer 1 operatorAddr
      operatorToken = some "operator-1" := by decide
  have standing := always _ _ _ _ _ _ _ attributed accepted
  exact absurd standing.notBannedInDB (by decide)

end SovaDesk.Signal
