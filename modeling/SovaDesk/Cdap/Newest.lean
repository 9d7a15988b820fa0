/-
This file says when the newest connection of a CDAP device stays registered.

A register is kept beside the run: which connections have got how far with their
registration, which were replaced, closed or gone, and what the removal of one connection
took from another. A removal goes by the ID of the device, and every connection that was
authenticated ends with one, so the connection that was replaced takes its successor out
of the map. A connection that completed its registration and is still there keeps its
place, its manifest, its sessions and commands, and its status, as long as each call of
a removal finds only what belongs to its own connection, and no registration stores over
another.
-/

import SovaDesk.Cdap.Connections

namespace SovaDesk.Cdap.Connections

open Interleave Transition

/-! ### The register -/

/-- The observer's register: the connections that saved their peer, that stored their manifest, that
took their place in the map and that completed the registration; those that were replaced, closed,
removed or disconnected; whose removal set a device offline last; to which connection a command
was sent; and the connections that lost sessions or commands to the removal of another. -/
structure Register where
  saved : List Connection := []
  described : List Connection := []
  placed : List Connection := []
  completed : List Connection := []
  left : List Nat := []
  offlineBy : Table String Connection := ∅
  sentTo : Table String Connection := ∅
  torn : List Nat := []

/-- The connections whose commands are dropped when a device is removed. -/
def commandsOf (shared : Shared) (register : Register) (id : String) : List Nat :=
  shared.gateway.pendingCommands.entries.filterMap fun entry =>
    if entry.2.deviceID = id then (register.sentTo.lookup entry.1).map (·.conn) else none

/-- The connections whose sessions of a kind are ended when a device is removed. -/
def sessionsOf (shared : Shared) (kind : SessionKind) (id : String) : List Nat :=
  (shared.gateway.sessions kind).entries.filterMap fun entry =>
    if entry.2.deviceID = id then some entry.2.deviceConn else none

/-- A connection is no longer the device's. -/
def Register.leave (register : Register) (dc : Connection) : Register :=
  { register with left := dc.conn :: register.left }

/-- What the removal of one connection takes from others. -/
def Register.tear (register : Register) (dc : Connection) (owners : List Nat) : Register :=
  { register with torn := owners.filter (· ≠ dc.conn) ++ register.torn }

/-- The observer that keeps the register; a connection that is replaced, closed, cannot be read from
or is being removed has left. -/
def noting : Observer gatewayCalls Request Unit Register where
  began _ _ register := register
  ended _ _ _ register := register
  called _ _ call answer shared register :=
    match call, answer with
    | .upsertPeer dc, some _ =>
      { register with
        saved := dc :: register.saved, offlineBy := register.offlineBy.erase dc.id }
    | .setManifest dc _, some _ => { register with described := dc :: register.described }
    | .loadAndDelete _, some (some old) => register.leave old
    | .storeDevice dc, some _ => { register with placed := dc :: register.placed }
    | .send dc .registered, some _ => { register with completed := dc :: register.completed }
    | .read dc, none => register.leave dc
    | .close dc, _ => register.leave dc
    | .deleteDevice dc, _ => register.leave dc
    | .deleteManifest dc, _ => register.leave dc
    | .dropCommands dc, _ =>
      (register.tear dc (commandsOf shared register dc.id)).leave dc
    | .endSessions dc kind, _ =>
      (register.tear dc (sessionsOf shared kind dc.id)).leave dc
    | .updatePeerStatus dc status, some _ =>
      if status = statusOffline then
        { register.leave dc with offlineBy := register.offlineBy.insert dc.id dc }
      else { register with offlineBy := register.offlineBy.erase dc.id }
    | .storeCommand dc commandID, some _ =>
      { register with sentTo := register.sentTo.insert commandID dc }
    | _, _ => register

/-- A failure of a call on memory cannot happen. -/
def Possible (pool : Pool gatewayCalls Request Unit Register) : Label Request → Prop
  | .begin _ _ => True
  | .turn thread fails => fails = true → ∀ call ∈ pool.nextCall thread, call.2.inMemory = false

instance (pool : Pool gatewayCalls Request Unit Register) :
    (label : Label Request) → Decidable (Possible pool label)
  | .begin _ _ => .isTrue trivial
  | .turn _ _ => inferInstanceAs (Decidable (_ = true → ∀ call ∈ _, _))

/-- Any number of connections and requests at a gateway that has just started, over any tables. -/
def serving : System (Pool gatewayCalls Request Unit Register) (Label Request) :=
  (interleaving run noting fun shared register =>
    (∃ peers config, shared = { peers, config }) ∧ register = {}).restrict Possible

/-- A connection has completed its registration and was neither replaced nor closed, and its client
has not disconnected. -/
def Register.Current (register : Register) (dc : Connection) : Prop :=
  dc ∈ register.completed ∧ dc.conn ∉ register.left

/-- The newest connection of a device stays registered: the map holds it, the manifest it stored is
present, it lost no sessions and no commands to the removal of another connection, and its peer was
not set offline by one. -/
structure NewestStays (pool : Pool gatewayCalls Request Unit Register) : Prop where
  device : ∀ dc, pool.ghost.Current dc → pool.store.devices.lookup dc.id = some dc
  manifest : ∀ dc, pool.ghost.Current dc → dc ∈ pool.ghost.described →
    (pool.store.config.lookup (manifestKey dc.id)).isSome
  belongings : ∀ dc, pool.ghost.Current dc → dc.conn ∉ pool.ghost.torn
  online : ∀ dc, pool.ghost.Current dc → ∀ other ∈ pool.ghost.offlineBy.lookup dc.id,
    other.conn = dc.conn

/-! ### The condition -/

/-- Whether what belongs to a connection may be taken when another is removed. -/
def Register.Own (register : Register) (dc : Connection) (conn : Nat) : Prop :=
  conn = dc.conn ∨ conn ∈ register.left

instance (register : Register) (dc : Connection) (conn : Nat) :
    Decidable (register.Own dc conn) :=
  inferInstanceAs (Decidable (_ ∨ _))

/-- The condition on a call: a registration stores its connection where none is but one that has
left; and a removal deletes, drops, ends and sets offline only what belongs to its own connection
or to one that has left. -/
def CallKeeps (shared : Shared) (register : Register) (fails : Bool) : GatewayCall → Prop
  | .storeDevice dc => ∀ other ∈ shared.devices.lookup dc.id, other.conn ∈ register.left
  | .deleteDevice dc => ∀ other ∈ shared.devices.lookup dc.id, register.Own dc other.conn
  | .deleteManifest dc => fails = false →
      ∀ other ∈ register.described, other.id = dc.id → register.Own dc other.conn
  | .dropCommands dc => ∀ conn ∈ commandsOf shared register dc.id, register.Own dc conn
  | .endSessions dc kind => ∀ conn ∈ sessionsOf shared kind dc.id, register.Own dc conn
  | .updatePeerStatus dc status => fails = false → status = statusOffline →
      ∀ other ∈ register.saved, other.id = dc.id → register.Own dc other.conn
  | _ => True

instance (shared : Shared) (register : Register) (fails : Bool) :
    (call : GatewayCall) → Decidable (CallKeeps shared register fails call)
  | .storeDevice dc => inferInstanceAs (Decidable
      (∀ other ∈ shared.devices.lookup dc.id, other.conn ∈ register.left))
  | .deleteDevice dc => inferInstanceAs (Decidable
      (∀ other ∈ shared.devices.lookup dc.id, register.Own dc other.conn))
  | .deleteManifest dc => inferInstanceAs (Decidable (fails = false →
      ∀ other ∈ register.described, other.id = dc.id → register.Own dc other.conn))
  | .dropCommands dc => inferInstanceAs (Decidable
      (∀ conn ∈ commandsOf shared register dc.id, register.Own dc conn))
  | .endSessions dc kind => inferInstanceAs (Decidable
      (∀ conn ∈ sessionsOf shared kind dc.id, register.Own dc conn))
  | .updatePeerStatus dc status => inferInstanceAs (Decidable (fails = false →
      status = statusOffline →
      ∀ other ∈ register.saved, other.id = dc.id → register.Own dc other.conn))
  | .accept _ _ _ | .noteManifest _ _ | .noteHeartbeat _ _ | .read _ | .send _ _ | .close _
  | .timing _ | .loadAndDelete _ | .load _ | .handle _ _ _ | .storeCommand _ _
  | .storeSession _ _ _ | .isPeerBanned _ | .upsertPeer _ | .setManifest _ _ => .isTrue trivial

/-- The steps that keep to their own connection. -/
def StepsKeep (pool : Pool gatewayCalls Request Unit Register) : Label Request → Prop
  | .begin _ _ => True
  | .turn thread fails =>
    ∀ call ∈ pool.nextCall thread, CallKeeps pool.store pool.ghost fails call.2

instance (pool : Pool gatewayCalls Request Unit Register) :
    (label : Label Request) → Decidable (StepsKeep pool label)
  | .begin _ _ => .isTrue trivial
  | .turn _ _ => inferInstanceAs (Decidable (∀ call ∈ _, CallKeeps _ _ _ _))

/-! ### The order of a registration -/

/-- A registration is confirmed after the peer was saved and the place in the map was taken. -/
def Orderly (seen : List GatewayCall) : GatewayCall → Prop
  | .send dc .registered => .storeDevice dc ∈ seen ∧ .upsertPeer dc ∈ seen
  | _ => True

/-- What follows keeps the order, when no call on memory fails. -/
abbrev KeepsOrder {Result : Type} (seen : List GatewayCall) (program : Steps Result) : Prop :=
  program.After (fun call : GatewayCall => call.inMemory = false) Orderly seen

variable {call : GatewayCall}

section order

variable {dc : Connection} {seen : List GatewayCall}

theorem keepsOrder_perform {Result : Type} {rest : Steps Result}
    (orderly : Orderly seen call) (follows : ∀ later, KeepsOrder later rest) :
    KeepsOrder seen (perform call rest) :=
  .call orderly fun _ later => follows later

theorem keepsOrder_done {Result : Type} {result : Result} (seen : List GatewayCall) :
    KeepsOrder seen (Program.done result : Steps Result) := trivial

theorem keepsOrder_removeDevice (dc : Connection) (seen : List GatewayCall) :
    KeepsOrder seen (removeDevice dc) := by
  unfold removeDevice
  split
  · trivial
  · refine keepsOrder_perform trivial fun _ => keepsOrder_perform trivial fun _ =>
      keepsOrder_perform trivial fun _ => keepsOrder_perform trivial fun _ =>
      keepsOrder_perform trivial fun _ => keepsOrder_perform trivial fun _ =>
      keepsOrder_perform trivial fun _ => keepsOrder_perform trivial fun _ =>
      keepsOrder_perform trivial keepsOrder_done

/-- The confirmation keeps the order once the peer was saved and the place was taken. -/
theorem keepsOrder_confirm (saved : .upsertPeer dc ∈ seen) (placed : .storeDevice dc ∈ seen) :
    KeepsOrder seen (.call (.send dc .registered) fun
      | none => .done (some "send registered")
      | some _ => .done none) :=
  ⟨⟨placed, saved⟩, fun _ => trivial, fun _ => trivial⟩

/-- So does what takes the place, which memory does not refuse. -/
theorem keepsOrder_place (saved : .upsertPeer dc ∈ seen) :
    KeepsOrder seen (perform (.storeDevice dc) <| perform (.updatePeerStatus dc statusOnline) <|
      .call (.send dc .registered) fun
      | none => .done (some "send registered")
      | some _ => .done none) := by
  refine ⟨trivial, nofun, fun _ => ⟨trivial, fun _ => ?_, fun _ => ?_⟩⟩
  · exact keepsOrder_confirm (.tail _ saved) (.head _)
  · exact keepsOrder_confirm (.tail _ (.tail _ saved)) (.tail _ (.head _))

theorem keepsOrder_closeOld {old : Option Connection} {rest : Steps (Option String)}
    (follows : ∀ later, seen ⊆ later → KeepsOrder later rest) :
    KeepsOrder seen (closeOld old rest) := by
  cases old with
  | none => exact follows seen (List.Subset.refl _)
  | some oldDC =>
    exact ⟨trivial, fun _ => follows seen (List.Subset.refl _),
      fun _ => follows _ (List.subset_cons_self _ _)⟩

theorem keepsOrder_save (dc : Connection) (manifest : Manifest) (seen : List GatewayCall) :
    KeepsOrder seen (.call (.upsertPeer dc) fun
      | none => .done (some "save peer")
      | some _ =>
        perform (.setManifest dc manifest) <| .call (.loadAndDelete dc.id) fun old =>
        closeOld old.join <| perform (.storeDevice dc) <|
        perform (.updatePeerStatus dc statusOnline) <|
        .call (.send dc .registered) fun
        | none => .done (some "send registered")
        | some _ => .done none) := by
  refine ⟨trivial, fun _ => trivial, fun _ => ?_⟩
  -- From here on the peer is saved, whatever else was called.
  have placing : ∀ later, .upsertPeer dc ∈ later → ∀ old : Option (Option Connection),
      KeepsOrder later (closeOld old.join <| perform (.storeDevice dc) <|
        perform (.updatePeerStatus dc statusOnline) <| .call (.send dc .registered) fun
        | none => .done (some "send registered")
        | some _ => .done none) := fun later saved old =>
    keepsOrder_closeOld fun _ grows => keepsOrder_place (grows saved)
  refine ⟨trivial, fun _ => ⟨trivial, nofun, fun old => ?_⟩,
    fun _ => ⟨trivial, nofun, fun old => ?_⟩⟩
  · exact placing _ (.tail _ (.head _)) (some old)
  · exact placing _ (.tail _ (.tail _ (.head _))) (some old)

theorem keepsOrder_handleRegister (registration : Except String Manifest) :
    KeepsOrder seen (handleRegister dc registration) := by
  cases registration with
  | error text => trivial
  | ok manifest =>
    refine keepsOrder_perform trivial fun _ => ?_
    split
    · trivial
    · refine .call trivial fun banned later => ?_
      match banned with
      | some true => trivial
      | some false | none => exact keepsOrder_save dc manifest later

theorem keepsOrder_run (request : Request) : KeepsOrder [] (run request) := by
  refine after_run ?_ (fun _ registration _ => keepsOrder_handleRegister registration)
    keepsOrder_removeDevice request
  intro call serves seen
  cases call with
  | send dc msg =>
    cases msg with
    | registered =>
      have differs : decide (Sent.registered ≠ .registered) = true := serves
      exact absurd rfl (of_decide_eq_true differs)
    | _ => trivial
  | _ => trivial

end order

/-! ### What is kept -/

/-- The register tells of the store: a connection that has not left is where its registration put
it, under its manifest and with its peer online. -/
structure Sound (shared : Shared) (register : Register) : Prop where
  device : ∀ dc ∈ register.placed, dc.conn ∉ register.left →
    shared.devices.lookup dc.id = some dc
  manifest : ∀ dc ∈ register.described, dc.conn ∉ register.left →
    (shared.config.lookup (manifestKey dc.id)).isSome
  online : ∀ dc ∈ register.saved, dc.conn ∉ register.left →
    ∀ other ∈ register.offlineBy.lookup dc.id, other.conn = dc.conn
  torn : ∀ conn ∈ register.torn, conn ∈ register.left
  completed : ∀ dc ∈ register.completed, dc ∈ register.placed ∧ dc ∈ register.saved

/-- What the register knows of a call that was answered. -/
def Register.Knows (register : Register) : GatewayCall → Prop
  | .upsertPeer dc => dc ∈ register.saved
  | .storeDevice dc => dc ∈ register.placed
  | _ => True

/-- A goroutine goes on in order after calls that the register knows of. -/
def Follows (_ : Shared) (register : Register) (_ : Nat) (_ : Request) (program : Steps Unit) :
    Prop :=
  ∃ seen, (∀ call ∈ seen, register.Knows call) ∧ KeepsOrder seen program

variable {request : Request} {thread : Nat}

section kept

variable {shared after : Shared} {register : Register} {dc : Connection}

theorem manifestKey_inj {id other : String} (same : manifestKey id = manifestKey other) :
    id = other := by
  have lists : "cdap_manifest_".toList ++ id.toList = "cdap_manifest_".toList ++ other.toList := by
    rw [← String.toList_append, ← String.toList_append]
    exact congrArg String.toList same
  exact String.toList_inj.mp (List.append_cancel_left lists)

/-- What holds of connections that have not left holds when more have left. -/
theorem Sound.leave (sound : Sound shared register) (dc : Connection) :
    Sound shared (register.leave dc) where
  device other member stays :=
    sound.device other member fun gone => stays (List.mem_cons_of_mem _ gone)
  manifest other member stays :=
    sound.manifest other member fun gone => stays (List.mem_cons_of_mem _ gone)
  online other member stays :=
    sound.online other member fun gone => stays (List.mem_cons_of_mem _ gone)
  torn conn member := List.mem_cons_of_mem _ (sound.torn conn member)
  completed := sound.completed

/-- A connection that belongs to the removed one, or has left before, has left with it. -/
theorem Register.Own.left {conn : Nat} (own : register.Own dc conn) :
    conn ∈ (register.leave dc).left := by
  rcases own with rfl | gone
  · exact List.mem_cons_self
  · exact List.mem_cons_of_mem _ gone

section

variable (sound : Sound shared register)

include sound

theorem Sound.tear {owners : List Nat} (own : ∀ conn ∈ owners, register.Own dc conn) :
    Sound shared ((register.tear dc owners).leave dc) := by
  have base := sound.leave dc
  refine ⟨base.device, base.manifest, base.online, fun conn member => ?_, base.completed⟩
  rcases List.mem_append.mp member with owner | older
  · exact (own conn (List.mem_of_mem_filter owner)).left
  · exact base.torn conn older

/-- A change of the map at one ID, where no connection was that still stays. -/
theorem Sound.move {id : String}
    (elsewhere : ∀ other, other ≠ id → after.devices.lookup other = shared.devices.lookup other)
    (gone : ∀ dc ∈ shared.devices.lookup id, dc.conn ∈ register.left)
    (config : after.config = shared.config) : Sound after register where
  device dc member stays := by
    have lookup := sound.device dc member stays
    rw [elsewhere dc.id ?_]
    · exact lookup
    · rintro rfl
      exact stays (gone dc lookup)
  manifest := config ▸ sound.manifest
  online := sound.online
  torn := sound.torn
  completed := sound.completed

theorem Sound.same (devices : after.devices = shared.devices)
    (config : after.config = shared.config) : Sound after register where
  device := devices ▸ sound.device
  manifest := config ▸ sound.manifest
  online := sound.online
  torn := sound.torn
  completed := sound.completed

theorem Sound.save (dc : Connection) : Sound shared { register with
      saved := dc :: register.saved, offlineBy := register.offlineBy.erase dc.id } where
  device := sound.device
  manifest := sound.manifest
  online other member stays by' found := by
    obtain ⟨different, lookup⟩ := Table.lookup_erase_iff.mp found
    rcases List.mem_cons.mp member with rfl | older
    · exact absurd rfl different
    · exact sound.online other older stays by' lookup
  torn := sound.torn
  completed other member :=
    ⟨(sound.completed other member).1, List.mem_cons_of_mem _ (sound.completed other member).2⟩

theorem Sound.describe (dc : Connection) (json : RawMessage) :
    Sound { shared with config := shared.config.insert (manifestKey dc.id) json }
      { register with described := dc :: register.described } where
  device := sound.device
  manifest other member stays := by
    show ((AList.insert (manifestKey dc.id) json shared.config).lookup _).isSome
    rw [Table.lookup_insert_if]
    split
    · rfl
    · next different =>
      rcases List.mem_cons.mp member with rfl | older
      · exact absurd rfl different
      · exact sound.manifest other older stays
  online := sound.online
  torn := sound.torn
  completed := sound.completed

theorem Sound.place (dc : Connection)
    (free : ∀ other ∈ shared.devices.lookup dc.id, other.conn ∈ register.left) :
    Sound { shared with devices := shared.devices.insert dc.id dc }
      { register with placed := dc :: register.placed } where
  device other member stays := by
    show (AList.insert dc.id dc shared.devices).lookup other.id = some other
    rw [Table.lookup_insert_if]
    rcases List.mem_cons.mp member with rfl | older
    · rw [if_pos rfl]
    · have lookup := sound.device other older stays
      split
      · next same => exact absurd (free other (same ▸ lookup)) stays
      · exact lookup
  manifest := sound.manifest
  online := sound.online
  torn := sound.torn
  completed other member :=
    ⟨List.mem_cons_of_mem _ (sound.completed other member).1, (sound.completed other member).2⟩

theorem Sound.complete (placed : dc ∈ register.placed) (saved : dc ∈ register.saved) :
    Sound shared { register with completed := dc :: register.completed } where
  device := sound.device
  manifest := sound.manifest
  online := sound.online
  torn := sound.torn
  completed other member := by
    rcases List.mem_cons.mp member with rfl | older
    · exact ⟨placed, saved⟩
    · exact sound.completed other older

/-- The manifest of a device is deleted when all that stored one have left. -/
theorem Sound.undescribe (dc : Connection)
    (own : ∀ other ∈ register.described, other.id = dc.id → register.Own dc other.conn) :
    Sound { shared with config := shared.config.erase (manifestKey dc.id) }
      (register.leave dc) where
  device := (sound.leave dc).device
  manifest other member stays := by
    have different : other.id ≠ dc.id := fun same => stays (own other member same).left
    show ((AList.erase (manifestKey dc.id) shared.config).lookup _).isSome
    rw [Table.lookup_erase_if, if_neg fun same => different (manifestKey_inj same)]
    exact (sound.leave dc).manifest other member stays
  online := (sound.leave dc).online
  torn := (sound.leave dc).torn
  completed := sound.completed

/-- A device is set offline when all that saved its peer have left. -/
theorem Sound.setOffline (dc : Connection)
    (own : ∀ other ∈ register.saved, other.id = dc.id → register.Own dc other.conn) :
    Sound shared { register.leave dc with offlineBy := register.offlineBy.insert dc.id dc } where
  device := (sound.leave dc).device
  manifest := (sound.leave dc).manifest
  online other member stays by' found := by
    rcases Table.lookup_insert_iff.mp found with ⟨same, _⟩ | ⟨_, older⟩
    · exact absurd (own other member same).left stays
    · exact (sound.leave dc).online other member stays by' older
  torn := (sound.leave dc).torn
  completed := sound.completed

theorem Sound.setOnline (dc : Connection) :
    Sound shared { register with offlineBy := register.offlineBy.erase dc.id } where
  device := sound.device
  manifest := sound.manifest
  online other member stays by' found :=
    sound.online other member stays by' (Table.lookup_erase_iff.mp found).2
  torn := sound.torn
  completed := sound.completed

/-- The place of a device is taken out of the map: by a registration, which notes who is
replaced. -/
theorem Sound.replace (id : String) : Sound { shared with devices := shared.devices.erase id }
      (match shared.devices.lookup id with
      | some old => register.leave old
      | none => register) := by
  have elsewhere : ∀ other, other ≠ id →
      (AList.erase id shared.devices).lookup other = shared.devices.lookup other :=
    fun other different => AList.lookup_erase_ne different
  cases found : shared.devices.lookup id with
  | none =>
    refine sound.move elsewhere ?_ rfl
    rw [found]
    exact nofun
  | some old =>
    refine (sound.leave old).move elsewhere ?_ rfl
    rw [found]
    rintro other rfl'
    rw [Option.mem_some_iff.mp rfl']
    exact List.mem_cons_self

/-- A call that keeps to its own connection and comes in order keeps what the register tells. -/
theorem sound_called {fails : Bool} {answer : Option call.Answer}
    (keeps : CallKeeps shared register fails call)
    (confirmed : ∀ dc, call = .send dc .registered → dc ∈ register.placed ∧ dc ∈ register.saved)
    (attempted : gatewayCalls.attempt fails call shared = (answer, after)) :
    Sound after (noting.called thread request call answer shared register) := by
  have outcome := Interface.attempt_cases attempted
  cases call with
  | accept | noteManifest | noteHeartbeat | timing | load | handle | storeSession | isPeerBanned =>
    rcases outcome with ⟨rfl, rfl⟩ | ⟨reply, _, performed, rfl⟩
    · exact sound
    · obtain ⟨_, rfl⟩ := Prod.mk.inj (Option.some.inj performed)
      exact sound.same rfl rfl
  | storeCommand dc commandID =>
    rcases outcome with ⟨rfl, rfl⟩ | ⟨reply, _, performed, rfl⟩
    · exact sound
    · obtain ⟨_, rfl⟩ := Prod.mk.inj (Option.some.inj performed)
      exact ⟨sound.device, sound.manifest, sound.online, sound.torn, sound.completed⟩
  | read dc =>
    rcases outcome with ⟨rfl, rfl⟩ | ⟨reply, _, performed, rfl⟩
    · exact sound.leave dc
    · obtain ⟨_, same⟩ := Option.ite_none_right_eq_some.mp performed
      obtain ⟨_, rfl⟩ := Prod.mk.inj (Option.some.inj same)
      exact sound
  | send dc msg =>
    rcases outcome with ⟨rfl, rfl⟩ | ⟨reply, _, performed, rfl⟩
    · cases msg <;> exact sound
    · obtain ⟨_, same⟩ := Option.ite_none_right_eq_some.mp performed
      obtain ⟨_, rfl⟩ := Prod.mk.inj (Option.some.inj same)
      cases msg with
      | registered => exact sound.complete (confirmed dc rfl).1 (confirmed dc rfl).2
      | error | start | command | revoke => exact sound
  | close dc =>
    rcases outcome with ⟨rfl, rfl⟩ | ⟨reply, _, performed, rfl⟩
    · exact sound.leave dc
    · obtain ⟨_, rfl⟩ := Prod.mk.inj (Option.some.inj performed)
      exact (sound.leave dc).same rfl rfl
  | loadAndDelete id =>
    rcases outcome with ⟨rfl, rfl⟩ | ⟨reply, _, performed, rfl⟩
    · exact sound
    · obtain ⟨rfl, rfl⟩ := Prod.mk.inj (Option.some.inj performed)
      have replaced := sound.replace id
      cases found : shared.devices.lookup id with
      | none =>
        rw [found] at replaced
        exact replaced
      | some old =>
        rw [found] at replaced
        exact replaced
  | storeDevice dc =>
    rcases outcome with ⟨rfl, rfl⟩ | ⟨reply, _, performed, rfl⟩
    · exact sound
    · obtain ⟨_, rfl⟩ := Prod.mk.inj (Option.some.inj performed)
      exact sound.place dc keeps
  | deleteDevice dc =>
    rcases outcome with ⟨rfl, rfl⟩ | ⟨reply, _, performed, rfl⟩
    · exact sound.leave dc
    · obtain ⟨_, rfl⟩ := Prod.mk.inj (Option.some.inj performed)
      exact (sound.leave dc).move (fun other different => AList.lookup_erase_ne different)
        (fun other found => (keeps other found).left) rfl
  | dropCommands dc =>
    rcases outcome with ⟨rfl, rfl⟩ | ⟨reply, _, performed, rfl⟩
    · exact sound.tear keeps
    · obtain ⟨_, rfl⟩ := Prod.mk.inj (Option.some.inj performed)
      exact (sound.tear keeps).same rfl rfl
  | endSessions dc kind =>
    rcases outcome with ⟨rfl, rfl⟩ | ⟨reply, _, performed, rfl⟩
    · exact sound.tear keeps
    · obtain ⟨_, rfl⟩ := Prod.mk.inj (Option.some.inj performed)
      exact (sound.tear keeps).same rfl rfl
  | upsertPeer dc =>
    rcases outcome with ⟨rfl, rfl⟩ | ⟨reply, _, performed, rfl⟩
    · exact sound
    · obtain ⟨_, rfl⟩ := Prod.mk.inj (Option.some.inj performed)
      exact (sound.save dc).same rfl rfl
  | updatePeerStatus dc status =>
    rcases outcome with ⟨rfl, rfl⟩ | ⟨reply, undisturbed, performed, rfl⟩
    · exact sound
    · obtain ⟨_, rfl⟩ := Prod.mk.inj (Option.some.inj performed)
      show Sound _ (if status = statusOffline then _ else _)
      split
      · next offline => exact (sound.setOffline dc (keeps undisturbed offline)).same rfl rfl
      · exact (sound.setOnline dc).same rfl rfl
  | setManifest dc manifest =>
    rcases outcome with ⟨rfl, rfl⟩ | ⟨reply, _, performed, rfl⟩
    · exact sound
    · obtain ⟨_, rfl⟩ := Prod.mk.inj (Option.some.inj performed)
      exact sound.describe dc manifest.json
  | deleteManifest dc =>
    rcases outcome with ⟨rfl, rfl⟩ | ⟨reply, undisturbed, performed, rfl⟩
    · exact sound.leave dc
    · obtain ⟨_, rfl⟩ := Prod.mk.inj (Option.some.inj performed)
      exact sound.undescribe dc (keeps undisturbed)

end

/-- The register forgets no connection that was saved or placed. -/
theorem called_grows (answer : Option call.Answer) :
    register.saved ⊆ (noting.called thread request call answer shared register).saved ∧
      register.placed ⊆ (noting.called thread request call answer shared register).placed := by
  have same : register.saved ⊆ register.saved ∧ register.placed ⊆ register.placed :=
    ⟨List.Subset.refl _, List.Subset.refl _⟩
  cases call with
  | upsertPeer dc =>
    cases answer with
    | none => exact same
    | some _ => exact ⟨List.subset_cons_self _ _, List.Subset.refl _⟩
  | storeDevice dc =>
    cases answer with
    | none => exact same
    | some _ => exact ⟨List.Subset.refl _, List.subset_cons_self _ _⟩
  | send dc msg => cases msg <;> cases answer <;> exact same
  | loadAndDelete id =>
    match answer with
    | none | some none | some (some _) => exact same
  | updatePeerStatus dc status =>
    cases answer with
    | none => exact same
    | some _ =>
      show register.saved ⊆ (if _ then _ else _ : Register).saved ∧
        register.placed ⊆ (if _ then _ else _ : Register).placed
      split <;> exact same
  | read | setManifest | storeCommand => cases answer <;> exact same
  | accept | noteManifest | noteHeartbeat | close | timing | deleteDevice | load | handle
  | dropCommands | storeSession | endSessions | isPeerBanned | deleteManifest => exact same

theorem knows_called
    (answer : Option call.Answer) {known : GatewayCall} (knows : register.Knows known) :
    (noting.called thread request call answer shared register).Knows known := by
  cases known with
  | upsertPeer dc => exact (called_grows answer).1 knows
  | storeDevice dc => exact (called_grows answer).2 knows
  | _ => trivial

theorem knows_answered (reply : call.Answer) :
    (noting.called thread request call (some reply) shared register).Knows call := by
  cases call with
  | upsertPeer dc => exact List.mem_cons_self
  | storeDevice dc => exact List.mem_cons_self
  | _ => trivial

end kept

/-! ### Every run -/

/-- A goroutine follows the order after its own call, which fails only if it is none on memory. -/
theorem Follows.next {shared after : Shared} {register : Register} {fails : Bool}
    {next : Option call.Answer → Steps Unit} {answer : Option call.Answer}
    (follows : Follows shared register thread request (.call call next))
    (possible : fails = true → call.inMemory = false)
    (attempted : gatewayCalls.attempt fails call shared = (answer, after)) :
    Follows after (noting.called thread request call answer shared register) thread request
      (next answer) := by
  obtain ⟨seen, known, _, refused, answered⟩ := follows
  have kept : ∀ known ∈ seen,
      (noting.called thread request call answer shared register).Knows known :=
    fun other member => knows_called answer (known other member)
  cases answer with
  | none =>
    refine ⟨seen, kept, refused ?_⟩
    cases fails with
    | true => exact possible rfl
    | false =>
      by_contra inMemory
      have performs := GatewayCall.perform_inMemory (Bool.eq_true_of_not_eq_false inMemory) shared
      obtain ⟨⟨reply, result⟩, performed⟩ := Option.isSome_iff_exists.mp performs
      have replied : gatewayCalls.attempt false call shared = (some reply, result) :=
        Interface.attempt_of_perform performed
      exact absurd ((Prod.mk.inj (attempted.symm.trans replied)).1) nofun
  | some reply =>
    refine ⟨call :: seen, fun other member => ?_, answered reply⟩
    rcases List.mem_cons.mp member with rfl | older
    · exact knows_answered reply
    · exact kept other older

theorem noting_obligations :
    Obligations run noting (fun pool label => StepsKeep pool label ∧ Possible pool label) Sound
      Follows where
  begins shared register thread request sound :=
    ⟨sound, ⟨[], fun _ member => absurd member List.not_mem_nil, keepsOrder_run request⟩,
      fun _ _ _ _ follows => follows⟩
  ends shared register thread request _ sound _ := ⟨sound, fun _ _ _ _ follows => follows⟩
  calls := by
    rintro pool thread fails request call next ⟨guarded, possible⟩ found sound follows answer after
      attempted
    have isNext := Pool.nextCall_of_lookup found
    have confirmed : ∀ dc, call = .send dc .registered →
        dc ∈ pool.ghost.placed ∧ dc ∈ pool.ghost.saved := by
      rintro dc rfl
      obtain ⟨seen, known, ⟨placed, saved⟩, _⟩ := follows
      exact ⟨known _ placed, known _ saved⟩
    refine ⟨sound_called sound (guarded _ isNext) confirmed attempted,
      follows.next (fun fails => possible fails _ isNext) attempted, ?_⟩
    rintro other _ another program ⟨seen, known, order⟩
    exact ⟨seen, fun call member => knows_called answer (known call member), order⟩

/-- In every run whose steps keep to their own connection, the newest connection of a device stays
registered. -/
theorem newestStays_of_stepsKeep {pool : Pool gatewayCalls Request Unit Register}
    (reached : ReachableWhen serving StepsKeep pool) : NewestStays pool := by
  have starts : ∀ (shared : Shared) (register : Register),
      (∃ peers config, shared = { peers, config }) ∧ register = {} → Sound shared register := by
    rintro shared register ⟨_, rfl⟩
    exact ⟨nofun, nofun, nofun, nofun, nofun⟩
  obtain ⟨sound, _⟩ := noting_obligations.invariant starts reached.of_restrict
  refine ⟨fun dc current => ?_, fun dc current described => ?_, fun dc current torn => ?_,
    fun dc current => ?_⟩
  · exact sound.device dc (sound.completed dc current.1).1 current.2
  · exact sound.manifest dc described current.2
  · exact current.2 (sound.torn dc.conn torn)
  · exact sound.online dc (sound.completed dc current.1).2 current.2

/-! ### Runs -/

/-- A gateway that has just started. -/
def newGateway : Pool gatewayCalls Request Unit Register := ⟨{}, ∅, {}⟩

/-- A thread makes a number of calls, none of which fails. -/
def turns (thread count : Nat) : List (Label Request) := List.replicate count (.turn thread false)

/-- A connection of a device with a valid manifest, over which one message comes. -/
def connect : Request :=
  .connection "CDAP-1" "10.0.0.7" 0 (.ok ⟨15, "manifest"⟩)
    [(0, ⟨none, none, true, none⟩, .text (.event (some ())))]

/-- A device connects and then connects again, while its first connection is served. -/
def reconnect : List (Label Request) :=
  .begin 1 connect :: turns 1 9 ++ .begin 2 connect :: turns 2 10

/-- A device connects again, and its first connection finds itself closed and is removed: the map no
longer holds the second one, which is there. -/
theorem newest_removed :
    ∃ pool, serving.run newGateway (reconnect ++ turns 1 2) = some pool ∧
      (∃ dc, pool.ghost.Current dc ∧ pool.store.devices.lookup dc.id = none) ∧
      ¬ NewestStays pool := by
  have ran : (serving.run newGateway (reconnect ++ turns 1 2)).any (fun pool =>
      pool.ghost.completed.any fun dc =>
        decide (dc.conn ∉ pool.ghost.left) && (pool.store.devices.lookup dc.id).isNone) = true := by
    decide
  obtain ⟨pool, reaches, test⟩ := Option.any_eq_true _ _ |>.mp ran
  obtain ⟨dc, completed, missing⟩ := List.any_eq_true.mp test
  obtain ⟨stays, isNone⟩ := Bool.and_eq_true_iff.mp missing
  have current : pool.ghost.Current dc := ⟨completed, of_decide_eq_true stays⟩
  have gone : pool.store.devices.lookup dc.id = none := Option.isNone_iff_eq_none.mp isNone
  refine ⟨pool, reaches, ⟨dc, current, gone⟩, fun stays => ?_⟩
  exact absurd ((stays.device dc current).symm.trans gone) nofun

/-- A second connection stays registered that comes after the first one was removed. -/
theorem newestStays_of_stepsKeep_again :
    ∃ pool, ReachableWhen serving StepsKeep pool ∧ (∃ dc, pool.ghost.Current dc) ∧
      NewestStays pool := by
  have initial : serving.start newGateway := ⟨rfl, ⟨∅, ∅, rfl⟩, rfl⟩
  have ran : (serving.runWhen StepsKeep newGateway
      (.begin 1 connect :: turns 1 21 ++ .begin 2 connect :: turns 2 9)).any (fun pool =>
        pool.ghost.completed.any fun dc => decide (dc.conn ∉ pool.ghost.left)) = true := by
    decide
  obtain ⟨pool, reached, test⟩ := exists_reachableWhen_of_runWhen initial ran
  obtain ⟨dc, completed, stays⟩ := List.any_eq_true.mp test
  exact ⟨pool, reached, ⟨dc, completed, of_decide_eq_true stays⟩, newestStays_of_stepsKeep reached⟩

end SovaDesk.Cdap.Connections
