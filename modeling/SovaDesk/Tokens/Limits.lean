/-
This file says when the limits of device enrolment tokens are obeyed.

A register is kept beside the run: the peers each token was seen bound to, the
revocations that have returned, and the connections accepted with a token. The limit on
the uses holds as long as each connection that is counted finds a use left, which the
validation saw but nothing reserved; a bound token serves its device alone as long as
the connection is for that device, which nothing compares; and a revoked token stays
revoked as long as no edit that read the token before writes its old row back.
-/

import SovaDesk.Tokens.Handlers
import Mathlib.Data.List.Count

namespace SovaDesk.Tokens

open Interleave Transition

/-! ### The register -/

/-- A connection that was accepted: the token, the device, the peers that the token had been bound
to by then, and whether the connection began after a revocation of the token had returned. -/
structure Enrolment where
  token : Int
  deviceID : String
  peers : List String
  late : Bool
  deriving DecidableEq

/-- The observer's register: the peers tokens were seen bound to, the tokens whose revocation has
returned, those whose revocation had returned when a running handler began, and the connections
accepted. -/
structure Register where
  seen : List (Int × String)
  revoked : List Int
  begun : Table Nat (List Int)
  accepted : List Enrolment

/-- The tokens whose revocation had returned when a handler began. -/
def Register.revokedBefore (register : Register) (thread : Nat) : List Int :=
  (register.begun.lookup thread).getD []

/-- The connections accepted with a token. -/
def Register.uses (register : Register) (id : Int) : Nat :=
  register.accepted.countP fun enrolment => enrolment.token = id

/-- The tokens that are bound, with their peers. -/
def bindings (table : TokenTable) : List (Int × String) :=
  (table.rows.entries.map fun entry => (entry.1, entry.2.peerID)).filter fun entry =>
    entry.2 ≠ ""

def Request.deviceID : Request → String
  | .authenticate payload _ => payload.deviceID
  | _ => ""

/-- The register after a call that counts a connection. -/
def Register.accept (register : Register) (table : TokenTable) (thread : Nat) (deviceID : String)
    (stored : DeviceToken) : Register :=
  let seen := bindings table ++ register.seen
  { register with
    seen := seen
    accepted :=
      { token := stored.id, deviceID
        peers := (seen.filter fun entry => entry.1 = stored.id).map (·.2)
        late := (register.revokedBefore thread).contains stored.id } :: register.accepted }

/-- The observer that keeps the register: a connection is accepted with the call that counts it. -/
def registering : Observer tokens Request Response Register where
  began thread _ register :=
    { register with begun := register.begun.insert thread register.revoked }
  called thread request call _ table register :=
    match call with
    | .incrementTokenUse tokenHash =>
      match table.byHash tokenHash with
      | some stored => register.accept table thread request.deviceID stored
      | none => { register with seen := bindings table ++ register.seen }
    | _ => { register with seen := bindings table ++ register.seen }
  ended _ request response register :=
    match request, response with
    | .revoke (some id), .revoked => { register with revoked := id :: register.revoked }
    | _, _ => register

/-- Any number of connections and requests, on any table of tokens. -/
def enrolling (hashToken : String → String) :
    System (Pool tokens Request Response Register) (Label Request) :=
  interleaving (handle hashToken) registering fun _ register => register = ⟨[], [], ∅, []⟩

/-- The limits of all tokens are obeyed: no more connections accepted than uses allowed, none for
another device than the one the token was bound to, and none that began after the token was
revoked. -/
structure LimitsObeyed (pool : Pool tokens Request Response Register) : Prop where
  uses : ∀ id token, pool.store.rows.lookup id = some token → 0 < token.maxUses →
    (pool.ghost.uses id : Int) ≤ token.maxUses
  device : ∀ enrolment ∈ pool.ghost.accepted, ∀ peerID ∈ enrolment.peers,
    peerID = enrolment.deviceID
  revoked : ∀ enrolment ∈ pool.ghost.accepted, enrolment.late = false

/-- An edit of a token that takes back nothing that happened since it was read: no revocation, no
binding, and no use beyond its limit. -/
structure EditKeeps (token stored : DeviceToken) : Prop where
  revoked : stored.status = .revoked → token.status = .revoked
  bound : stored.peerID ≠ "" →
    token.peerID = stored.peerID ∧ (token.status = .pending → stored.status = .pending)
  limit : 0 < token.maxUses → (stored.useCount : Int) ≤ token.maxUses

instance (token stored : DeviceToken) : Decidable (EditKeeps token stored) :=
  decidable_of_iff (_ ∧ _ ∧ _) ⟨fun all => ⟨all.1, all.2.1, all.2.2⟩,
    fun keeps => ⟨keeps.revoked, keeps.bound, keeps.limit⟩⟩

/-- The condition on a call: a connection is counted, undisturbed, while its token has a use left
and is unbound or bound to its device; and an edit takes back nothing. -/
def CallObeys (pool : Pool tokens Request Response Register) (fails : Bool) (request : Request) :
    TokenCall → Prop
  | .incrementTokenUse tokenHash => fails = false ∧
      ∀ stored ∈ pool.store.byHash tokenHash, stored.isUsedUp = false ∧
        (stored.peerID = "" ∨ stored.peerID = request.deviceID)
  | .updateDeviceToken token => fails = false →
      ∀ stored ∈ pool.store.rows.lookup token.id, EditKeeps token stored
  | _ => True

instance (pool : Pool tokens Request Response Register) (fails : Bool) (request : Request) :
    (call : TokenCall) → Decidable (CallObeys pool fails request call)
  | .incrementTokenUse tokenHash => inferInstanceAs (Decidable (fails = false ∧
      ∀ stored ∈ pool.store.byHash tokenHash, stored.isUsedUp = false ∧
        (stored.peerID = "" ∨ stored.peerID = request.deviceID)))
  | .updateDeviceToken token => inferInstanceAs (Decidable (fails = false →
      ∀ stored ∈ pool.store.rows.lookup token.id, EditKeeps token stored))
  | .getDeviceToken _ | .getDeviceTokenByHash _ | .createDeviceToken _ | .revokeDeviceToken _
  | .bindTokenToPeer _ _ | .expireToken _ => .isTrue trivial

/-- The steps that obey. -/
def StepsObey (pool : Pool tokens Request Response Register) : Label Request → Prop
  | .begin _ _ => True
  | .turn thread fails => ∀ call ∈ pool.nextCall thread, CallObeys pool fails call.1 call.2

instance (pool : Pool tokens Request Response Register) :
    (label : Label Request) → Decidable (StepsObey pool label)
  | .begin _ _ => .isTrue trivial
  | .turn _ _ => inferInstanceAs (Decidable (∀ call ∈ _, CallObeys _ _ _ _))

/-! ### The shape of the handlers -/

/-- The shape of a program that runs for a request, from the row it has read last and from whether
it has revoked: which rows and hashes its calls are about. -/
def Shaped (request : Request) : Option DeviceToken → Bool → Program tokens Response → Prop
  | _, revoking, .done response => response = .revoked → revoking = true
  | _, revoking, .call (.getDeviceToken id) next =>
    ∀ answer : Option (Option DeviceToken), (∀ token ∈ answer.join, token.id = id) →
      Shaped request answer.join revoking (next answer)
  | _, revoking, .call (.getDeviceTokenByHash tokenHash) next =>
    ∀ answer : Option (Option DeviceToken),
      (∀ token ∈ answer.join, token.tokenHash = tokenHash) →
      Shaped request answer.join revoking (next answer)
  | read, revoking, .call (.createDeviceToken _) next =>
    ∀ answer, Shaped request read revoking (next answer)
  | read, revoking, .call (.updateDeviceToken token) next =>
    (∃ first ∈ read, token.id = first.id ∧ token.peerID = first.peerID) ∧
      ∀ answer, Shaped request read revoking (next answer)
  | read, revoking, .call (.revokeDeviceToken id) next =>
    (request = .revoke (some id) ∧ ∃ first ∈ read, first.id = id) ∧
      Shaped request read revoking (next none) ∧ Shaped request read true (next (some ()))
  | read, revoking, .call (.bindTokenToPeer tokenHash peerID) next =>
    (∃ first ∈ read, first.tokenHash = tokenHash ∧
      (first.peerID = "" ∨ first.peerID = peerID)) ∧
      ∀ answer, Shaped request read revoking (next answer)
  | read, revoking, .call (.incrementTokenUse tokenHash) next =>
    (∃ first ∈ read, first.tokenHash = tokenHash ∧ first.status ≠ .revoked) ∧
      ∀ answer, Shaped request read revoking (next answer)
  | read, revoking, .call (.expireToken _) next =>
    ∀ answer, Shaped request read revoking (next answer)

variable {token : DeviceToken} {tokenHash : String}

section shapes

variable {request : Request} {read : Option DeviceToken}

theorem shaped_done {response : Response} (other : response ≠ .revoked) :
    Shaped request read false (.done response) := fun isRevoked => absurd isRevoked other

theorem shaped_countUse (same : token.tokenHash = tokenHash) (valid : token.status ≠ .revoked) :
    Shaped request (some token) false (countUse token tokenHash) :=
  ⟨⟨token, rfl, same, valid⟩, fun _ => shaped_done nofun⟩

theorem shaped_authDeviceToken (hashToken : String → String) (payload : AuthPayload) (now : Int) :
    Shaped request none false (authDeviceToken hashToken payload now) := by
  unfold authDeviceToken
  split
  · exact shaped_done nofun
  · intro answer found
    match answer with
    | none | some none => exact shaped_done nofun
    | some (some token) =>
      have same : token.tokenHash = hashToken payload.token := found token rfl
      show Shaped request (some token) false (Program.bind
        (if token.status = .revoked then _ else if _ then _ else if _ then _ else _) _)
      split
      · exact shaped_done nofun
      · next valid =>
        split
        · exact fun _ => shaped_done nofun
        · split
          · exact shaped_done nofun
          · show Shaped request (some token) false (if _ then _ else _)
            split
            · next unbound =>
              exact ⟨⟨token, rfl, same, .inl unbound.1⟩, fun _ => shaped_countUse same valid⟩
            · exact shaped_countUse same valid

theorem shaped_handle (hashToken : String → String) (request : Request) :
    Shaped request none false (handle hashToken request) := by
  cases request with
  | authenticate payload now => exact shaped_authDeviceToken hashToken payload now
  | create body plainToken now =>
    match body, plainToken with
    | none, _ => exact shaped_done nofun
    | some _, none => exact shaped_done nofun
    | some body, some plainToken =>
      intro answer
      cases answer with
      | none => exact shaped_done nofun
      | some id => exact shaped_done nofun
  | issue deviceID plainToken =>
    cases plainToken with
    | none => exact shaped_done nofun
    | some plainToken =>
      intro answer
      cases answer with
      | none => exact shaped_done nofun
      | some id => exact shaped_done nofun
  | update id body =>
    cases id with
    | none => exact shaped_done nofun
    | some id =>
      intro answer _
      match answer, body with
      | none, _ | some none, _ | some (some _), none => exact shaped_done nofun
      | some (some token), some edit =>
        refine ⟨⟨token, rfl, rfl, rfl⟩, fun answer => ?_⟩
        cases answer with
        | none => exact shaped_done nofun
        | some _ => exact shaped_done nofun
  | revoke id =>
    cases id with
    | none => exact shaped_done nofun
    | some id =>
      intro answer found
      match answer with
      | none | some none => exact shaped_done nofun
      | some (some token) =>
        exact ⟨⟨rfl, token, rfl, found token rfl⟩, shaped_done nofun, fun _ => rfl⟩
  | bind id peerID =>
    match id, peerID with
    | none, _ | some _, none => exact shaped_done nofun
    | some id, some peerID =>
      show Shaped _ none false (if peerID = "" then _ else if _ then _ else _)
      split_ifs
      · exact shaped_done nofun
      · exact shaped_done nofun
      · intro answer _
        match answer with
        | none | some none => exact shaped_done nofun
        | some (some token) =>
          show Shaped _ (some token) false
            (if token.status = .revoked then _ else if _ then _ else _)
          split
          · exact shaped_done nofun
          · split
            · exact shaped_done nofun
            · next sameOrNone =>
              have free : token.peerID = "" ∨ token.peerID = peerID := by
                by_contra neither
                rw [not_or] at neither
                exact sameOrNone neither
              refine ⟨⟨token, rfl, rfl, free⟩, fun answer => ?_⟩
              cases answer with
              | none => exact shaped_done nofun
              | some _ => exact shaped_done nofun

end shapes

/-! ### How rows change -/

variable {stored : DeviceToken} {id : Int}

section rows

variable {table after : TokenTable} {call : TokenCall} {answer : call.Answer}

/-- How a row may change in a run that obeys. -/
structure Evolves (before after : DeviceToken) : Prop where
  hash : after.tokenHash = before.tokenHash
  revoked : before.status = .revoked → after.status = .revoked
  bound : before.peerID ≠ "" →
    after.peerID = before.peerID ∧ (after.status = .pending → before.status = .pending)
  unbound : before.peerID = "" → after.peerID = "" ∨ after.status ≠ .pending
  count : before.useCount ≤ after.useCount
  limit : 0 < after.maxUses →
    (0 < before.maxUses ∧ before.maxUses ≤ after.maxUses) ∨ (before.useCount : Int) ≤ after.maxUses

theorem Evolves.rfl : Evolves token token where
  hash := Eq.refl _
  revoked := id
  bound _ := ⟨Eq.refl _, id⟩
  unbound := .inl
  count := le_refl _
  limit positive := .inl ⟨positive, le_refl _⟩

/-- The calls under which all rows evolve: an edit that takes nothing back and binds nothing, and a
binding of a token that is not bound to another peer. -/
def Allowed (table : TokenTable) : TokenCall → Prop
  | .updateDeviceToken token => ∀ stored ∈ table.rows.lookup token.id,
      EditKeeps token stored ∧ (stored.peerID = "" → token.peerID = "")
  | .bindTokenToPeer tokenHash peerID => ∀ stored ∈ table.byHash tokenHash,
      stored.status = .pending → stored.peerID = "" ∨ stored.peerID = peerID
  | _ => True

theorem evolves_written (keeps : EditKeeps token stored)
    (bindsNothing : stored.peerID = "" → token.peerID = "") :
    Evolves stored (written token stored) where
  hash := rfl
  revoked := keeps.revoked
  bound := keeps.bound
  unbound isUnbound := .inl (bindsNothing isUnbound)
  count := le_refl _
  limit positive := .inr (keeps.limit positive)

theorem evolves_boundTo {peerID : String}
    (free : stored.status = .pending → stored.peerID = "" ∨ stored.peerID = peerID) :
    Evolves stored (boundTo peerID stored) where
  hash := rfl
  revoked isRevoked := by simp [boundTo, isRevoked]
  bound isBound := by
    by_cases isPending : stored.status = .pending
    · have same := (free isPending).resolve_left isBound
      simp [boundTo, isPending, same]
    · simp [boundTo, isPending]
  unbound isUnbound := by
    by_cases isPending : stored.status = .pending <;> simp [boundTo, isPending, isUnbound]
  count := le_refl _
  limit positive := .inl ⟨positive, le_refl _⟩

theorem evolves_pastItsTime : Evolves stored (pastItsTime stored) where
  hash := rfl
  revoked isRevoked := if_pos isRevoked
  bound _ := ⟨rfl, fun isPending => by
    unfold pastItsTime at isPending
    dsimp only at isPending
    split at isPending <;> exact absurd isPending nofun⟩
  unbound := .inl
  count := le_refl _
  limit positive := .inl ⟨positive, le_refl _⟩

theorem evolves_revoked :
    Evolves stored { stored with status := .revoked } where
  hash := rfl
  revoked _ := rfl
  bound _ := ⟨rfl, nofun⟩
  unbound := .inl
  count := le_refl _
  limit positive := .inl ⟨positive, le_refl _⟩

theorem evolves_counted :
    Evolves stored { stored with useCount := stored.useCount + 1 } where
  hash := rfl
  revoked := id
  bound _ := ⟨rfl, id⟩
  unbound := .inl
  count := Nat.le_succ _
  limit positive := .inl ⟨positive, le_refl _⟩

theorem evolves_change {other : Int} {change : DeviceToken → DeviceToken}
    {kept : ∀ token, (change token).id = token.id ∧ (change token).tokenHash = token.tokenHash}
    (evolves : ∀ stored, table.rows.lookup id = some stored → Evolves stored (change stored))
    (lookup : table.rows.lookup other = some token) :
    ∃ next, (table.change id change kept).rows.lookup other = some next ∧ Evolves token next := by
  rw [TokenTable.lookup_change]
  split
  · next same =>
    rw [same] at lookup
    exact ⟨_, by rw [lookup, Option.map_some], evolves token lookup⟩
  · exact ⟨token, lookup, .rfl⟩

theorem evolves_changeByHash {other : Int} {change : DeviceToken → DeviceToken}
    {kept : ∀ token, (change token).id = token.id ∧ (change token).tokenHash = token.tokenHash}
    (evolves : ∀ stored ∈ table.byHash tokenHash, Evolves stored (change stored))
    (lookup : table.rows.lookup other = some token) :
    ∃ next, (table.changeByHash tokenHash change kept).rows.lookup other = some next ∧
      Evolves token next := by
  unfold TokenTable.changeByHash
  cases found : table.byHash tokenHash with
  | none => exact ⟨token, lookup, .rfl⟩
  | some first =>
    refine evolves_change (fun stored lookupStored => ?_) lookup
    have same := Option.some.inj (lookupStored.symm.trans (TokenTable.byHash_some found).1)
    rw [same]
    exact evolves first found

/-- A token that was created is inserted. -/
theorem insert_of_perform {row : DeviceToken}
    (performed : TokenCall.perform (.createDeviceToken row) table = some (id, after)) :
    ∃ fresh, table.insert row fresh = after := by
  by_cases known : table.byHash row.tokenHash = none
  · rw [TokenCall.perform, dif_pos known] at performed
    exact ⟨_, (Prod.mk.inj (Option.some.inj performed)).2⟩
  · rw [TokenCall.perform, dif_neg known] at performed
    exact absurd performed nofun

/-- Every row is there after a call, and has evolved. -/
theorem evolves_perform (performed : call.perform table = some (answer, after))
    (allowed : Allowed table call)
    (lookup : table.rows.lookup id = some token) :
    ∃ next, after.rows.lookup id = some next ∧ Evolves token next := by
  cases call with
  | getDeviceToken | getDeviceTokenByHash =>
    exact (Prod.mk.inj (Option.some.inj performed)).2 ▸ ⟨token, lookup, .rfl⟩
  | createDeviceToken row =>
    obtain ⟨fresh, rfl⟩ := insert_of_perform performed
    have older : id ≠ table.nextID := (table.below id token lookup).ne
    exact ⟨token, (AList.lookup_insert_ne older).trans lookup, .rfl⟩
  | updateDeviceToken row =>
    rw [← (Prod.mk.inj (Option.some.inj performed)).2]
    exact evolves_change (fun stored found =>
      evolves_written (allowed stored found).1 (allowed stored found).2) lookup
  | revokeDeviceToken revoked =>
    rw [← (Prod.mk.inj (Option.some.inj performed)).2]
    exact evolves_change (fun _ _ => evolves_revoked) lookup
  | bindTokenToPeer tokenHash peerID =>
    rw [← (Prod.mk.inj (Option.some.inj performed)).2]
    exact evolves_changeByHash (fun stored found => evolves_boundTo (allowed stored found)) lookup
  | incrementTokenUse tokenHash =>
    rw [← (Prod.mk.inj (Option.some.inj performed)).2]
    exact evolves_changeByHash (fun _ _ => evolves_counted) lookup
  | expireToken expired =>
    rw [← (Prod.mk.inj (Option.some.inj performed)).2]
    exact evolves_change (fun _ _ => evolves_pastItsTime) lookup

end rows

/-! ### The register and the table agree -/

variable {thread : Nat}

section sound

variable {table after : TokenTable} {register : Register}

/-- What holds of the table and the register. -/
structure Sound (table : TokenTable) (register : Register) : Prop where
  counted : ∀ id token, table.rows.lookup id = some token → register.uses id ≤ token.useCount
  limited : ∀ id token, table.rows.lookup id = some token → 0 < token.maxUses →
    (register.uses id : Int) ≤ token.maxUses
  known : ∀ enrolment ∈ register.accepted, ∃ token, table.rows.lookup enrolment.token = some token
  seen : ∀ entry ∈ register.seen, ∃ token, table.rows.lookup entry.1 = some token ∧
    token.peerID = entry.2 ∧ entry.2 ≠ ""
  revoked : ∀ id ∈ register.revoked, ∃ token, table.rows.lookup id = some token ∧
    token.status = .revoked
  device : ∀ enrolment ∈ register.accepted, ∀ peerID ∈ enrolment.peers,
    peerID = enrolment.deviceID
  inTime : ∀ enrolment ∈ register.accepted, enrolment.late = false

/-- What a handler may rely on of a row it has read, given the row stored now and the tokens revoked
before it began. -/
structure Remembered (before : List Int) (stored first : DeviceToken) : Prop where
  hash : stored.tokenHash = first.tokenHash
  unbound : first.peerID = "" → stored.peerID = "" ∨ stored.status ≠ .pending
  bound : first.peerID ≠ "" → stored.peerID = first.peerID
  inTime : first.status ≠ .revoked → first.id ∉ before

/-- What holds of a running handler: its shape, with a row it may rely on, and that a token it has
revoked is revoked. -/
structure Follows (table : TokenTable) (register : Register) (thread : Nat) (request : Request)
    (program : Program tokens Response) : Prop where
  shaped : ∃ read revoking, Shaped request read revoking program ∧
    (∀ first ∈ read, ∃ stored, table.rows.lookup first.id = some stored ∧
      Remembered (register.revokedBefore thread) stored first) ∧
    (revoking = true → ∀ id, request = .revoke (some id) →
      ∃ token, table.rows.lookup id = some token ∧ token.status = .revoked)
  begun : ∀ id ∈ register.revokedBefore thread, id ∈ register.revoked

theorem Remembered.evolves {before : List Int} {next first : DeviceToken}
    (remembered : Remembered before stored first) (evolves : Evolves stored next) :
    Remembered before next first where
  hash := evolves.hash.trans remembered.hash
  unbound wasUnbound := by
    by_cases isUnbound : stored.peerID = ""
    · exact evolves.unbound isUnbound
    · have notPending := (remembered.unbound wasUnbound).resolve_left isUnbound
      exact .inr fun isPending => notPending ((evolves.bound isUnbound).2 isPending)
  bound wasBound := by
    have isBound : stored.peerID ≠ "" := (remembered.bound wasBound).symm ▸ wasBound
    exact (evolves.bound isBound).1.trans (remembered.bound wasBound)
  inTime := remembered.inTime

theorem mem_bindings {peerID : String} :
    (id, peerID) ∈ bindings table ↔
      ∃ token, table.rows.lookup id = some token ∧ token.peerID = peerID ∧ peerID ≠ "" := by
  unfold bindings
  rw [List.mem_filter, List.mem_map]
  constructor
  · rintro ⟨⟨⟨other, token⟩, entry, same⟩, isBound⟩
    obtain ⟨rfl, rfl⟩ := Prod.mk.inj same
    exact ⟨token, Table.mem_entries_iff.mp entry, rfl, of_decide_eq_true isBound⟩
  · rintro ⟨token, lookup, rfl, isBound⟩
    exact ⟨⟨⟨id, token⟩, Table.mem_entries_iff.mpr lookup, rfl⟩, decide_eq_true isBound⟩

/-- What was seen stays true in a run that obeys. -/
theorem seen_evolves (sound : Sound table register)
    (evolves : ∀ id token, table.rows.lookup id = some token →
      ∃ next, after.rows.lookup id = some next ∧ Evolves token next) :
    ∀ entry ∈ bindings table ++ register.seen, ∃ token, after.rows.lookup entry.1 = some token ∧
      token.peerID = entry.2 ∧ entry.2 ≠ "" := by
  intro entry member
  have stored : ∃ token, table.rows.lookup entry.1 = some token ∧ token.peerID = entry.2 ∧
      entry.2 ≠ "" := by
    rcases List.mem_append.mp member with now | before
    · exact mem_bindings.mp now
    · exact sound.seen entry before
  obtain ⟨token, lookup, peer, isBound⟩ := stored
  obtain ⟨next, lookupNext, moved⟩ := evolves _ token lookup
  exact ⟨next, lookupNext, (moved.bound (peer.symm ▸ isBound)).1.trans peer, isBound⟩

/-- No connection is accepted with a token that is not there. -/
theorem Sound.uses_eq_zero (sound : Sound table register)
    (missing : table.rows.lookup id = none) : register.uses id = 0 := by
  refine List.countP_eq_zero.mpr fun enrolment member same => ?_
  obtain ⟨token, found⟩ := sound.known enrolment member
  rw [of_decide_eq_true same, missing] at found
  exact absurd found.symm (Option.some_ne_none token)

/-- A call that counts no connection keeps the register sound. -/
theorem Sound.called (sound : Sound table register)
    (evolves : ∀ id token, table.rows.lookup id = some token →
      ∃ next, after.rows.lookup id = some next ∧ Evolves token next) :
    Sound after { register with seen := bindings table ++ register.seen } where
  counted id next lookup := by
    cases before : table.rows.lookup id with
    | some token =>
      obtain ⟨found, lookupFound, moved⟩ := evolves id token before
      obtain rfl := Option.some.inj (lookupFound.symm.trans lookup)
      exact (sound.counted id token before).trans moved.count
    | none =>
      exact le_of_eq_of_le (sound.uses_eq_zero before) (Nat.zero_le _)
  limited id next lookup positive := by
    cases before : table.rows.lookup id with
    | some token =>
      obtain ⟨found, lookupFound, moved⟩ := evolves id token before
      obtain rfl := Option.some.inj (lookupFound.symm.trans lookup)
      have counted := sound.counted id token before
      rcases moved.limit positive with ⟨wasPositive, raised⟩ | enough
      · exact (sound.limited id token before wasPositive).trans raised
      · exact (Int.ofNat_le.mpr counted).trans enough
    | none =>
      exact (Int.ofNat_le.mpr (Nat.le_of_eq (sound.uses_eq_zero before))).trans
        (Int.le_of_lt positive)
  known enrolment member := by
    obtain ⟨token, lookup⟩ := sound.known enrolment member
    obtain ⟨next, lookupNext, _⟩ := evolves _ token lookup
    exact ⟨next, lookupNext⟩
  seen := seen_evolves sound evolves
  revoked id member := by
    obtain ⟨token, lookup, isRevoked⟩ := sound.revoked id member
    obtain ⟨next, lookupNext, moved⟩ := evolves _ token lookup
    exact ⟨next, lookupNext, moved.revoked isRevoked⟩
  device := sound.device
  inTime := sound.inTime

/-- Counting a connection that finds a use left, for the device of its token, keeps the register
sound. -/
theorem Sound.accept (sound : Sound table register) {deviceID : String}
    {kept : ∀ token : DeviceToken,
      ({ token with useCount := token.useCount + 1 } : DeviceToken).id = token.id ∧
        ({ token with useCount := token.useCount + 1 } : DeviceToken).tokenHash = token.tokenHash}
    (found : table.byHash tokenHash = some stored) (useLeft : stored.isUsedUp = false)
    (forDevice : stored.peerID = "" ∨ stored.peerID = deviceID)
    (inTime : stored.id ∉ register.revokedBefore thread) :
    Sound (table.changeByHash tokenHash
        (fun token => { token with useCount := token.useCount + 1 }) kept)
      (register.accept table thread deviceID stored) := by
  have lookupStored := (TokenTable.byHash_some found).1
  have evolves : ∀ id token, table.rows.lookup id = some token → ∃ next,
      (table.changeByHash tokenHash (fun token => { token with useCount := token.useCount + 1 })
        kept).rows.lookup id = some next ∧ Evolves token next := fun id token lookup =>
    evolves_changeByHash (fun _ _ => evolves_counted) lookup
  have base := sound.called evolves
  have uses (id : Int) : (register.accept table thread deviceID stored).uses id =
      register.uses id + if stored.id = id then 1 else 0 := by
    rw [Register.uses, Register.accept, List.countP_cons]
    simp only [decide_eq_true_eq]
    rfl
  have row {next : DeviceToken} (lookup : (table.changeByHash tokenHash
      (fun token => { token with useCount := token.useCount + 1 }) kept).rows.lookup stored.id =
      some next) : { stored with useCount := stored.useCount + 1 } = next := by
    unfold TokenTable.changeByHash at lookup
    rw [found] at lookup
    dsimp only at lookup
    rw [TokenTable.lookup_change, if_pos rfl, lookupStored] at lookup
    exact Option.some.inj lookup
  refine ⟨fun id next lookup => ?_, fun id next lookup positive => ?_, fun enrolment member => ?_,
    base.seen, base.revoked, fun enrolment member => ?_, fun enrolment member => ?_⟩
  · rw [uses]
    split
    · next same =>
      subst same
      have counted := sound.counted stored.id stored lookupStored
      rw [← row lookup]
      exact Nat.succ_le_succ counted
    · exact base.counted id next lookup
  · rw [uses]
    split
    · next same =>
      subst same
      have counted := sound.counted stored.id stored lookupStored
      rw [← row lookup] at positive ⊢
      have left : ¬ (stored.maxUses ≤ stored.useCount) := fun none => by
        rw [DeviceToken.isUsedUp, decide_eq_true positive, decide_eq_true none] at useLeft
        exact absurd useLeft nofun
      dsimp only at positive ⊢
      omega
    · exact base.limited id next lookup positive
  · rcases List.mem_cons.mp member with rfl | older
    · obtain ⟨next, lookupNext, _⟩ := evolves _ stored lookupStored
      exact ⟨next, lookupNext⟩
    · exact base.known enrolment older
  · rcases List.mem_cons.mp member with rfl | older
    · intro peerID listed
      obtain ⟨⟨id, peer⟩, filtered, rfl⟩ := List.mem_map.mp listed
      obtain ⟨isSeen, sameToken⟩ := List.mem_filter.mp filtered
      obtain ⟨next, lookupNext, peerNext, isBound⟩ := base.seen _ isSeen
      have same : id = stored.id := of_decide_eq_true sameToken
      subst same
      rw [← row lookupNext] at peerNext
      rcases forDevice with unbound | bound
      · exact absurd (peerNext.symm.trans unbound) isBound
      · exact peerNext.symm.trans bound
    · exact base.device enrolment older
  · rcases List.mem_cons.mp member with rfl | older
    · exact Bool.eq_false_iff.mpr fun isLate => inTime (List.contains_iff_mem.mp isLate)
    · exact base.inTime enrolment older

end sound

/-! ### Every run that obeys -/

section run

variable {table after : TokenTable} {register : Register} {request : Request}

/-- A handler follows its shape as long as the rows evolve. -/
theorem Follows.evolves {program : Program tokens Response}
    (follows : Follows table register thread request program)
    (evolves : ∀ id token, table.rows.lookup id = some token →
      ∃ next, after.rows.lookup id = some next ∧ Evolves token next)
    {noted : Register} (sameBegun : noted.begun = register.begun)
    (sameRevoked : noted.revoked = register.revoked) :
    Follows after noted thread request program := by
  obtain ⟨⟨read, revoking, shaped, remembered, isRevoked⟩, begun⟩ := follows
  have before : noted.revokedBefore thread = register.revokedBefore thread := by
    rw [Register.revokedBefore, sameBegun, Register.revokedBefore]
  refine ⟨⟨read, revoking, shaped, fun first isRead => ?_, fun revoked id isRevoke => ?_⟩, ?_⟩
  · obtain ⟨stored, lookup, relies⟩ := remembered first isRead
    obtain ⟨next, lookupNext, moved⟩ := evolves _ stored lookup
    rw [before]
    exact ⟨next, lookupNext, relies.evolves moved⟩
  · obtain ⟨token, lookup, status⟩ := isRevoked revoked id isRevoke
    obtain ⟨next, lookupNext, moved⟩ := evolves _ token lookup
    exact ⟨next, lookupNext, moved.revoked status⟩
  · rw [before, sameRevoked]
    exact begun

/-- A row that a call has just read may be relied on. -/
theorem Sound.remembered (sound : Sound table register) {before : List Int}
    (begun : ∀ id ∈ before, id ∈ register.revoked) {first : DeviceToken}
    (lookup : table.rows.lookup first.id = some first) : Remembered before first first where
  hash := rfl
  unbound := .inl
  bound _ := rfl
  inTime notRevoked member := by
    obtain ⟨token, lookupToken, isRevoked⟩ := sound.revoked _ (begun _ member)
    rw [lookup] at lookupToken
    exact notRevoked (Option.some.inj lookupToken ▸ isRevoked)

variable {call : TokenCall}

/-- The noted changes of the register that no call but a counted one makes. -/
theorem called_of_other
    {answer : Option call.Answer} (other : ∀ tokenHash, call ≠ .incrementTokenUse tokenHash) :
    registering.called thread request call answer table register =
      { register with seen := bindings table ++ register.seen } := by
  cases call with
  | incrementTokenUse tokenHash => exact absurd rfl (other tokenHash)
  | getDeviceToken | getDeviceTokenByHash | createDeviceToken | updateDeviceToken
  | revokeDeviceToken | bindTokenToPeer | expireToken => rfl

variable (register) in
/-- The end of a handler notes a revocation or nothing. -/
theorem ended_cases (thread : Nat) (request : Request) (response : Response) :
    registering.ended thread request response register = register ∨
      ∃ id, request = .revoke (some id) ∧ response = .revoked ∧
        registering.ended thread request response register =
          { register with revoked := id :: register.revoked } := by
  show (match request, response with
    | .revoke (some id), .revoked => _
    | _, _ => register) = register ∨ _
  split
  · next id => exact .inr ⟨id, rfl, rfl, rfl⟩
  · exact .inl rfl

/-- The calls of a handler are allowed where they obey. -/
theorem Follows.allowed {pool : Pool tokens Request Response Register}
    {fails : Bool} {next : Option call.Answer → Program tokens Response}
    (follows : Follows pool.store pool.ghost thread request (.call call next))
    (obeys : CallObeys pool fails request call) (undisturbed : fails = false) :
    Allowed pool.store call := by
  obtain ⟨⟨read, revoking, shaped, remembered, _⟩, _⟩ := follows
  cases call with
  | updateDeviceToken token =>
    obtain ⟨⟨first, isRead, sameID, samePeer⟩, _⟩ := shaped
    obtain ⟨now, lookup, relies⟩ := remembered first isRead
    intro stored found
    have same : now = stored := by
      rw [← sameID] at lookup
      exact Option.some.inj (lookup.symm.trans found)
    subst same
    refine ⟨obeys undisturbed now found, fun isUnbound => ?_⟩
    rw [samePeer]
    by_contra wasBound
    exact wasBound ((relies.bound wasBound).symm.trans isUnbound)
  | bindTokenToPeer tokenHash peerID =>
    obtain ⟨⟨first, isRead, sameHash, free⟩, _⟩ := shaped
    obtain ⟨now, lookup, relies⟩ := remembered first isRead
    intro stored found isPending
    have same : now = stored := by
      have byHash := TokenTable.byHash_of_lookup lookup
      rw [relies.hash, sameHash] at byHash
      exact Option.some.inj (byHash.symm.trans found)
    subst same
    by_cases wasUnbound : first.peerID = ""
    · exact .inl ((relies.unbound wasUnbound).resolve_right (absurd isPending))
    · exact .inr ((relies.bound wasUnbound).trans (free.resolve_left wasUnbound))
  | getDeviceToken | getDeviceTokenByHash | createDeviceToken | revokeDeviceToken
  | incrementTokenUse | expireToken => trivial

/-- A handler follows its shape after its own call. -/
theorem Follows.next {fails : Bool} {next : Option call.Answer → Program tokens Response}
    (follows : Follows table register thread request (.call call next))
    (sound : Sound table register) {answer : Option call.Answer}
    (attempted : tokens.attempt fails call table = (answer, after))
    (evolves : ∀ id token, table.rows.lookup id = some token →
      ∃ next, after.rows.lookup id = some next ∧ Evolves token next)
    {noted : Register} (sameBegun : noted.begun = register.begun)
    (sameRevoked : noted.revoked = register.revoked) :
    Follows after noted thread request (next answer) := by
  obtain ⟨⟨read, revoking, shaped, remembered, isRevoked⟩, begun⟩ := follows
  have before : noted.revokedBefore thread = register.revokedBefore thread := by
    rw [Register.revokedBefore, sameBegun, Register.revokedBefore]
  -- What is kept when the handler reads nothing new.
  have kept {revoking' : Bool} (follow : Shaped request read revoking' (next answer))
      (status : revoking' = true → ∀ id, request = .revoke (some id) →
        ∃ token, after.rows.lookup id = some token ∧ token.status = .revoked) :
      Follows after noted thread request (next answer) := by
    refine ⟨⟨read, revoking', follow, fun first isRead => ?_, status⟩, ?_⟩
    · obtain ⟨stored, lookup, relies⟩ := remembered first isRead
      obtain ⟨moved, lookupMoved, evolved⟩ := evolves _ stored lookup
      rw [before]
      exact ⟨moved, lookupMoved, relies.evolves evolved⟩
    · rw [before, sameRevoked]
      exact begun
  have stillRevoked : revoking = true → ∀ id, request = .revoke (some id) →
      ∃ token, after.rows.lookup id = some token ∧ token.status = .revoked := by
    intro revoked id isRevoke
    obtain ⟨token, lookup, status⟩ := isRevoked revoked id isRevoke
    obtain ⟨moved, lookupMoved, evolved⟩ := evolves _ token lookup
    exact ⟨moved, lookupMoved, evolved.revoked status⟩
  -- What is known of a row that the handler has just read.
  have fresh {row : Option DeviceToken} (follow : Shaped request row revoking (next answer))
      (stored : ∀ first ∈ row, table.rows.lookup first.id = some first) :
      Follows after noted thread request (next answer) := by
    refine ⟨⟨row, revoking, follow, fun first isRead => ?_, stillRevoked⟩, ?_⟩
    · obtain ⟨moved, lookupMoved, evolved⟩ := evolves _ first (stored first isRead)
      rw [before]
      exact ⟨moved, lookupMoved, (sound.remembered begun (stored first isRead)).evolves evolved⟩
    · rw [before, sameRevoked]
      exact begun
  cases call with
  | getDeviceToken id =>
    have found : ∀ token ∈ answer.join, table.rows.lookup id = some token := by
      rcases Interface.attempt_cases attempted with ⟨rfl, _⟩ | ⟨reply, _, performed, rfl⟩
      · exact nofun
      · have read : table.rows.lookup id = reply := (Prod.mk.inj (Option.some.inj performed)).1
        rw [read]
        exact fun token isReply => isReply
    exact fresh (shaped answer fun token isRead => table.keyed _ _ (found token isRead))
      fun token isRead => (table.keyed _ _ (found token isRead)).symm ▸ found token isRead
  | getDeviceTokenByHash tokenHash =>
    have found : ∀ token ∈ answer.join, table.byHash tokenHash = some token := by
      rcases Interface.attempt_cases attempted with ⟨rfl, _⟩ | ⟨reply, _, performed, rfl⟩
      · exact nofun
      · have read : table.byHash tokenHash = reply := (Prod.mk.inj (Option.some.inj performed)).1
        rw [read]
        exact fun token isReply => isReply
    exact fresh (shaped answer fun token isRead => (TokenTable.byHash_some (found token isRead)).2)
      fun token isRead => (TokenTable.byHash_some (found token isRead)).1
  | revokeDeviceToken id =>
    obtain ⟨⟨isRevoke, first, isRead, sameID⟩, failed, done⟩ := shaped
    rcases Interface.attempt_cases attempted with ⟨rfl, _⟩ | ⟨reply, _, performed, rfl⟩
    · exact kept failed stillRevoked
    · refine kept done fun _ other isOther => ?_
      have same : id = other := by
        rw [isRevoke] at isOther
        exact Option.some.inj (Request.revoke.inj isOther)
      subst same
      obtain ⟨stored, lookup, _⟩ := remembered first isRead
      rw [sameID] at lookup
      rw [← (Prod.mk.inj (Option.some.inj performed)).2, TokenTable.lookup_change, if_pos rfl,
        lookup]
      exact ⟨_, rfl, rfl⟩
  | createDeviceToken token => exact kept (shaped answer) stillRevoked
  | updateDeviceToken token => exact kept (shaped.2 answer) stillRevoked
  | bindTokenToPeer tokenHash peerID => exact kept (shaped.2 answer) stillRevoked
  | incrementTokenUse tokenHash => exact kept (shaped.2 answer) stillRevoked
  | expireToken id => exact kept (shaped answer) stillRevoked

theorem registering_obligations (hashToken : String → String) :
    Obligations (handle hashToken) registering StepsObey Sound Follows where
  begins := by
    intro table register thread request sound
    refine ⟨⟨sound.counted, sound.limited, sound.known, sound.seen, sound.revoked, sound.device,
      sound.inTime⟩, ⟨⟨none, false, shaped_handle hashToken request, nofun, nofun⟩, ?_⟩, ?_⟩
    · intro id member
      have begun : (registering.began thread request register).revokedBefore thread =
          register.revoked := by
        show ((register.begun.insert thread register.revoked).lookup thread).getD [] = _
        rw [AList.lookup_insert, Option.getD_some]
      rwa [begun] at member
    · rintro other different another program ⟨shaped, older⟩
      have same : (registering.began thread request register).revokedBefore other =
          register.revokedBefore other := by
        show ((register.begun.insert thread register.revoked).lookup other).getD [] = _
        rw [AList.lookup_insert_ne different]
        rfl
      exact ⟨same ▸ shaped, same ▸ older⟩
  ends := by
    intro table register thread request response sound follows
    rcases ended_cases register thread request response with
      unchanged | ⟨id, rfl, rfl, noted⟩
    · rw [unchanged]
      exact ⟨sound, fun other different another program others => others⟩
    · rw [noted]
      obtain ⟨read, revoking, done, _, isRevoked⟩ := follows.shaped
      refine ⟨⟨sound.counted, sound.limited, sound.known, sound.seen, fun other member => ?_,
        sound.device, sound.inTime⟩, fun other different another program others =>
          ⟨others.shaped, fun token member => List.mem_cons_of_mem _ (others.begun token member)⟩⟩
      rcases List.mem_cons.mp member with rfl | older
      · exact isRevoked (done rfl) _ rfl
      · exact sound.revoked other older
  calls := by
    intro pool thread fails request call next guarded found sound follows answer after attempted
    have obeys : CallObeys pool fails request call := guarded _ (Pool.nextCall_of_lookup found)
    have evolves : ∀ id token, pool.store.rows.lookup id = some token →
        ∃ next, after.rows.lookup id = some next ∧ Evolves token next := by
      intro id token lookup
      rcases Interface.attempt_cases attempted with ⟨_, rfl⟩ | ⟨reply, undisturbed, performed, _⟩
      · exact ⟨token, lookup, .rfl⟩
      · exact evolves_perform performed (follows.allowed obeys undisturbed) lookup
    by_cases counts : ∃ tokenHash, call = .incrementTokenUse tokenHash
    · obtain ⟨tokenHash, rfl⟩ := counts
      obtain ⟨undisturbed, useLeft⟩ := obeys
      obtain ⟨read, revoking, ⟨⟨first, isRead, sameHash, valid⟩, _⟩, remembered, _⟩ :=
        follows.shaped
      obtain ⟨stored, lookup, relies⟩ := remembered first isRead
      have byHash := TokenTable.byHash_of_lookup lookup
      rw [relies.hash, sameHash] at byHash
      have noted :
          registering.called thread request (.incrementTokenUse tokenHash) answer pool.store
            pool.ghost = pool.ghost.accept pool.store thread request.deviceID stored := by
        show (match pool.store.byHash tokenHash with
          | some stored => pool.ghost.accept pool.store thread request.deviceID stored
          | none => _) = _
        rw [byHash]
      have inTime : stored.id ∉ pool.ghost.revokedBefore thread := by
        rw [pool.store.keyed _ _ lookup]
        exact relies.inTime valid
      obtain ⟨hasUse, forDevice⟩ := useLeft stored byHash
      rw [noted]
      refine ⟨?_, follows.next sound attempted evolves rfl rfl,
        fun other different another program others => others.evolves evolves rfl rfl⟩
      rcases Interface.attempt_cases attempted with ⟨failed, _⟩ | ⟨reply, _, performed, _⟩
      · rw [undisturbed] at attempted
        exact absurd ((Prod.mk.inj attempted).1.trans failed) nofun
      · rw [← (Prod.mk.inj (Option.some.inj performed)).2]
        exact sound.accept byHash hasUse forDevice inTime
    · rw [called_of_other fun tokenHash same => counts ⟨tokenHash, same⟩]
      exact ⟨sound.called evolves, follows.next sound attempted evolves rfl rfl,
        fun other different another program others => others.evolves evolves rfl rfl⟩

/-- In every run that obeys, the limits of all tokens are obeyed. -/
theorem limitsObeyed_of_stepsObey (hashToken : String → String)
    {pool : Pool tokens Request Response Register}
    (reached : ReachableWhen (enrolling hashToken) StepsObey pool) : LimitsObeyed pool := by
  have starts : ∀ (table : TokenTable) (register : Register), register = ⟨[], [], ∅, []⟩ →
      Sound table register := by
    rintro table register rfl
    exact ⟨fun _ _ _ => Nat.zero_le _, fun _ _ _ positive => Int.le_of_lt positive, nofun, nofun,
      nofun, nofun, nofun⟩
  obtain ⟨sound, _⟩ := (registering_obligations hashToken).invariant starts reached
  exact ⟨sound.limited, sound.device, sound.inTime⟩

end run

/-! ### Limits that are not obeyed -/

/-- Hashes in the clear. -/
def plainHash (token : String) : String := "#" ++ token

def newServer : Pool tokens Request Response Register := ⟨.empty, ∅, ⟨[], [], ∅, []⟩⟩

/-- Create a token with a limit. -/
def createToken (maxUses : Int) : List (Label Request) :=
  [.begin 0 (.create (some { maxUses }) (some "secret") 0), .turn 0 false]

/-- A connection of a device with that token. -/
def connect (deviceID : String) : Request :=
  .authenticate { token := "secret", deviceID } 0

/-- Two connections at once with a token for one use. -/
def twoAtOnce : List (Label Request) :=
  createToken 1 ++ [.begin 1 (connect "device-a"), .begin 2 (connect "device-a"), .turn 1 false,
    .turn 2 false, .turn 1 false, .turn 1 false, .turn 2 false, .turn 2 false]

/-- Two devices, one after the other, with a token that is bound to the first. -/
def twoDevices : List (Label Request) :=
  createToken 0 ++ [.begin 1 (connect "device-a"), .turn 1 false, .turn 1 false, .turn 1 false,
    .begin 2 (connect "device-b"), .turn 2 false, .turn 2 false]

/-- A connection with a token that was revoked while an edit was in flight. -/
def revokedMeanwhile : List (Label Request) :=
  createToken 0 ++ [.begin 1 (.update (some 1) (some { name := "lobby" })), .turn 1 false,
    .begin 2 (.revoke (some 1)), .turn 2 false, .turn 2 false, .turn 1 false,
    .begin 3 (connect "device-a"), .turn 3 false, .turn 3 false, .turn 3 false]

/-- More connections were accepted with the token than uses allowed. -/
def Overused (pool : Pool tokens Request Response Register) : Bool :=
  (pool.store.rows.lookup 1).any fun token =>
    0 < token.maxUses && token.maxUses < (pool.ghost.uses 1 : Int)

/-- A connection was accepted for another device than the token was bound to. -/
def Borrowed (pool : Pool tokens Request Response Register) : Bool :=
  pool.ghost.accepted.any fun enrolment => enrolment.peers.any (· ≠ enrolment.deviceID)

/-- A connection was accepted that began after the token was revoked. -/
def Revived (pool : Pool tokens Request Response Register) : Bool :=
  pool.ghost.accepted.any (·.late)

theorem not_limitsObeyed {pool : Pool tokens Request Response Register}
    (broken : (Overused pool || Borrowed pool || Revived pool) = true) : ¬ LimitsObeyed pool := by
  intro obeyed
  rw [Bool.or_eq_true, Bool.or_eq_true] at broken
  rcases broken with (overused | borrowed) | revived
  · obtain ⟨token, lookup, exceeds⟩ := Option.any_eq_true _ _ |>.mp overused
    obtain ⟨positive, more⟩ := Bool.and_eq_true_iff.mp exceeds
    exact absurd (obeyed.uses 1 token lookup (of_decide_eq_true positive))
      (not_le.mpr (of_decide_eq_true more))
  · obtain ⟨enrolment, member, differs⟩ := List.any_eq_true.mp borrowed
    obtain ⟨peerID, listed, different⟩ := List.any_eq_true.mp differs
    exact of_decide_eq_true different (obeyed.device enrolment member peerID listed)
  · obtain ⟨enrolment, member, late⟩ := List.any_eq_true.mp revived
    exact absurd (late.symm.trans (obeyed.revoked enrolment member)) nofun

/-- A run from a server that has just started breaks a limit. -/
def BreaksLimit (labels : List (Label Request))
    (broken : Pool tokens Request Response Register → Bool) : Prop :=
  ∃ pool, (enrolling plainHash).run newServer labels = some pool ∧ broken pool = true ∧
    ¬ LimitsObeyed pool

/-- Runs in which each of the three limits is broken. -/
theorem limits_broken :
    BreaksLimit twoAtOnce Overused ∧ BreaksLimit twoDevices Borrowed ∧
      BreaksLimit revokedMeanwhile Revived := by
  have runs : ((enrolling plainHash).run newServer twoAtOnce).any Overused = true ∧
      ((enrolling plainHash).run newServer twoDevices).any Borrowed = true ∧
      ((enrolling plainHash).run newServer revokedMeanwhile).any Revived = true := by decide
  obtain ⟨overused, borrowed, revived⟩ := runs
  refine ⟨?_, ?_, ?_⟩
  · obtain ⟨pool, ran, isBroken⟩ := Option.any_eq_true _ _ |>.mp overused
    exact ⟨pool, ran, isBroken, not_limitsObeyed (by rw [isBroken]; rfl)⟩
  · obtain ⟨pool, ran, isBroken⟩ := Option.any_eq_true _ _ |>.mp borrowed
    exact ⟨pool, ran, isBroken, not_limitsObeyed (by rw [isBroken, Bool.or_true]; rfl)⟩
  · obtain ⟨pool, ran, isBroken⟩ := Option.any_eq_true _ _ |>.mp revived
    exact ⟨pool, ran, isBroken, not_limitsObeyed (by rw [isBroken, Bool.or_true])⟩

/-- One connection with a token for one use, and a second one that is refused. -/
theorem limitsObeyed_of_stepsObey_twice :
    ∃ pool, ReachableWhen (enrolling plainHash) StepsObey pool ∧ pool.ghost.uses 1 = 1 ∧
      LimitsObeyed pool := by
  have initial : (enrolling plainHash).start newServer := ⟨rfl, rfl⟩
  have ran : ((enrolling plainHash).runWhen StepsObey newServer
      (createToken 1 ++ [.begin 1 (connect "device-a"), .turn 1 false, .turn 1 false, .turn 1 false,
        .begin 2 (connect "device-a"), .turn 2 false])).any
      (fun pool => pool.ghost.uses 1 = 1) = true := by decide
  obtain ⟨pool, reached, once⟩ := exists_reachableWhen_of_runWhen initial ran
  exact ⟨pool, reached, of_decide_eq_true once, limitsObeyed_of_stepsObey plainHash reached⟩

end SovaDesk.Tokens
