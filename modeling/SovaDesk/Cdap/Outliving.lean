/-
This file says when no media session outlives the connection of its device.

A session is started in three steps: the connection is found in the map, a start message is
sent on it, and the session is stored. The removal of a connection ends the sessions of its
device, table by table, and it can do all of this between the second step and the third.
The session that is stored then is bound to a connection that is gone, and nothing ends it.

A removal goes through a table by a Range, which is no single step: it reports one session
after the other, all that were there when it began and perhaps some that came since. So the
calls of a removal are cut up here, and a plan, which may be any, says what each Range
reports in which order.
-/

import SovaDesk.Cdap.Connections
import SovaDesk.Cdap.Isolation

namespace SovaDesk.Cdap.Outliving

open Connections Interleave Transition

/-! ### A Range step by step -/

/-- The keys that a Range reports, given those of the table when it began: all of these, in some
order, and perhaps others. -/
structure RangePlan where
  visits : List String → List String
  covers : ∀ keys, keys ⊆ visits keys

/-- The calls of the goroutines, with the two of a Range in place of its end, and the call of a
browser that leaves. -/
inductive SweepCall
  | whole (call : GatewayCall)
  | rangeBegin (dc : Connection) (kind : SessionKind)
  | rangeVisit (dc : Connection) (kind : SessionKind) (key : String)
  | endByBrowser (kind : SessionKind) (sessionID : String)

@[reducible] def SweepCall.Answer : SweepCall → Type
  | .whole call => call.Answer
  | .rangeBegin _ _ => List String
  | .rangeVisit _ _ _ | .endByBrowser _ _ => Unit

/-- The callback of `cleanupDeviceSessions` for the entry under a key, if there is one. -/
def visitSession (g : Gateway) (dc : Connection) (kind : SessionKind) (key : String) : Gateway :=
  match (g.sessions kind).lookup key with
  | some session => if session.deviceID = dc.id then g.removeSession kind session.id else g
  | none => g

/-- A call that is not disturbed. -/
def SweepCall.perform : (call : SweepCall) → Shared → Option (call.Answer × Shared)
  | .whole call, shared => call.perform shared
  | .rangeBegin _ kind, shared =>
    some ((shared.gateway.sessions kind).entries.map (·.1), shared)
  | .rangeVisit dc kind key, shared =>
    some ((), { shared with gateway := visitSession shared.gateway dc kind key })
  | .endByBrowser kind sessionID, shared =>
    some ((), { shared with gateway := shared.gateway.removeSession kind sessionID })

@[reducible] def sweepCalls : Interface where
  Store := Shared
  Call := SweepCall
  Answer := SweepCall.Answer
  perform := SweepCall.perform

/-- The callbacks of a Range, and what comes after them. -/
def visits (dc : Connection) (kind : SessionKind) (rest : Program sweepCalls Unit) :
    List String → Program sweepCalls Unit
  | [] => rest
  | key :: keys => .call (.rangeVisit dc kind key) fun _ => visits dc kind rest keys

/-- A call with what follows it: where a goroutine ends the sessions of a device it runs a Range. -/
def cutCall (plans : SessionKind → RangePlan) : (call : GatewayCall) →
    (Option call.Answer → Program sweepCalls Unit) → Program sweepCalls Unit
  | .endSessions dc kind, next =>
    .call (.rangeBegin dc kind) fun keys =>
      visits dc kind (next (some ())) ((plans kind).visits (keys.getD []))
  | call, next => .call (.whole call) next

/-- The program of a goroutine with its Ranges. -/
def cut (plans : SessionKind → RangePlan) : Steps Unit → Program sweepCalls Unit
  | .done result => .done result
  | .call call next => cutCall plans call fun answer => cut plans (next answer)

/-- What goroutines are started for; when a browser leaves, its session is ended. -/
inductive SweepRequest
  | goroutine (request : Request) (plans : SessionKind → RangePlan)
  | browserLeft (kind : SessionKind) (sessionID : String)

def runSweeps : SweepRequest → Program sweepCalls Unit
  | .goroutine request plans => cut plans (run request)
  | .browserLeft kind sessionID => .call (.endByBrowser kind sessionID) fun _ => .done ()

/-! ### A Range that nobody disturbs -/

variable {kind : SessionKind} {g : Gateway} {dc : Connection} {key : String}

theorem lookup_visitSession_iff {other : SessionKind} {visited : String} {session : Session}
    (keyed : ∀ session, (g.sessions kind).lookup visited = some session → session.id = visited) :
    ((visitSession g dc kind visited).sessions other).lookup key = some session ↔
      (g.sessions other).lookup key = some session ∧
        ¬ (other = kind ∧ key = visited ∧ session.deviceID = dc.id) := by
  unfold visitSession
  split
  · next old there =>
    split
    · next own =>
      rw [lookup_removeSession, keyed old there]
      constructor
      · exact fun ⟨found, away⟩ => ⟨found, fun ⟨sameKind, sameKey, _⟩ => away ⟨sameKind, sameKey⟩⟩
      · rintro ⟨found, away⟩
        refine ⟨found, ?_⟩
        rintro ⟨rfl, rfl⟩
        rw [there, Option.some_inj] at found
        exact away ⟨rfl, rfl, found ▸ own⟩
    · next foreign =>
      refine ⟨fun found => ⟨found, ?_⟩, And.left⟩
      rintro ⟨rfl, rfl, own⟩
      rw [there, Option.some_inj] at found
      exact foreign (found ▸ own)
  · next missing =>
    refine ⟨fun found => ⟨found, ?_⟩, And.left⟩
    rintro ⟨rfl, rfl, -⟩
    exact Option.some_ne_none session (found.symm.trans missing)

/-! ### The register -/

/-- The observer's record: for which connections and kinds a Range of their removal has begun, and
the connections whose removal is complete. -/
structure Removals where
  begun : List (DeviceConn × SessionKind) := []
  completed : List DeviceConn := []

/-- The observer; a removal ends with the change of the status. -/
def noting : Observer sweepCalls SweepRequest Unit Removals where
  began _ _ removals := removals
  ended _ _ _ removals := removals
  called _ _ call _ _ removals :=
    match call with
    | .rangeBegin dc kind =>
      { removals with begun := (dc.toDeviceConn, kind) :: removals.begun }
    | .whole (.updatePeerStatus dc status) =>
      if status = statusOffline then
        { removals with completed := dc.toDeviceConn :: removals.completed }
      else removals
    | _ => removals

/-- The calls that cannot fail. -/
def SweepCall.inMemory : SweepCall → Bool
  | .whole call => call.inMemory
  | .rangeBegin _ _ | .rangeVisit _ _ _ | .endByBrowser _ _ => true

/-- A failure of a call on memory cannot happen. -/
def Possible (pool : Pool sweepCalls SweepRequest Unit Removals) : Label SweepRequest → Prop
  | .begin _ _ => True
  | .turn thread fails => fails = true → ∀ call ∈ pool.nextCall thread, call.2.inMemory = false

instance (pool : Pool sweepCalls SweepRequest Unit Removals) :
    (label : Label SweepRequest) → Decidable (Possible pool label)
  | .begin _ _ => .isTrue trivial
  | .turn _ _ => inferInstanceAs (Decidable (_ = true → ∀ call ∈ _, _))

/-- Any number of connections, requests and browsers at a gateway that has just started. -/
def sweeping : System (Pool sweepCalls SweepRequest Unit Removals) (Label SweepRequest) :=
  (interleaving runSweeps noting fun shared removals =>
    (∃ peers config, shared = { peers, config }) ∧ removals = {}).restrict Possible

/-! ### The property and the condition -/

/-- The connection that a session is bound to. -/
def device (session : Session) : DeviceConn :=
  ⟨session.deviceID, session.deviceConn⟩

/-- The connection on which a start call sends its message or to which it binds the session. -/
def SweepCall.starts : SweepCall → Option DeviceConn
  | .whole (.send dc (.start _ _)) | .whole (.storeSession dc _ _) => some dc.toDeviceConn
  | _ => none

/-- A start call that found the connection has not returned. -/
def Starting (pool : Pool sweepCalls SweepRequest Unit Removals) (dc : DeviceConn) : Prop :=
  ∃ thread request call, pool.nextCall thread = some (request, call) ∧ call.starts = some dc

/-- Once the removal of a connection is complete and the start calls that found it have returned,
no session is bound to it. -/
def NoneOutlives (pool : Pool sweepCalls SweepRequest Unit Removals) : Prop :=
  ∀ dc ∈ pool.ghost.completed, ¬ Starting pool dc → ∀ kind id session,
    (pool.store.gateway.sessions kind).lookup id = some session → device session ≠ dc

/-- The connection to which a call binds a session, and the kind of the session. -/
def SweepCall.binds : SweepCall → Option (DeviceConn × SessionKind)
  | .whole (.storeSession dc kind _) => some (dc.toDeviceConn, kind)
  | _ => none

/-- The condition on a call: a session is stored before a removal of its connection has begun to go
through the sessions of the kind. -/
def InTime (removals : Removals) (call : SweepCall) : Prop :=
  ∀ bound ∈ call.binds, bound ∉ removals.begun

/-- The steps that store no session late. -/
def StoresInTime (pool : Pool sweepCalls SweepRequest Unit Removals) :
    Label SweepRequest → Prop
  | .begin _ _ => True
  | .turn thread _ => ∀ call ∈ pool.nextCall thread, InTime pool.ghost call.2

instance (removals : Removals) (call : SweepCall) : Decidable (InTime removals call) :=
  inferInstanceAs (Decidable (∀ bound ∈ call.binds, _))

instance (pool : Pool sweepCalls SweepRequest Unit Removals) :
    (label : Label SweepRequest) → Decidable (StoresInTime pool label)
  | .begin _ _ => .isTrue trivial
  | .turn _ _ => inferInstanceAs (Decidable (∀ call ∈ _, InTime _ _))

/-! ### What a call does to the sessions -/

/-- A session that is there after a call was there before, unless the call stored it. -/
def OnlyStores (before after : Gateway) (stores : SessionKind → String → Session → Prop) : Prop :=
  ∀ kind key session, (after.sessions kind).lookup key = some session →
    (before.sessions kind).lookup key = some session ∨ stores kind key session

variable {stores : SessionKind → String → Session → Prop}

theorem onlyStores_refl :
    OnlyStores g g stores := fun _ _ _ found => .inl found

theorem onlyStores_removeSession {removed : SessionKind} {sessionID : String}
    :
    OnlyStores g (g.removeSession removed sessionID) stores := fun _ _ _ found =>
  .inl (lookup_removeSession.mp found).1

theorem onlyStores_endSession {stopType sessionID reason : String} :
    OnlyStores g (endSession g kind stopType sessionID reason).1 stores := by
  unfold endSession
  split
  · exact onlyStores_refl
  · exact onlyStores_removeSession

theorem onlyStores_endNamed {Payload : Type} {sessionID reason : Payload → String}
    {endKind : Gateway → String → String → Cdap.Outcome}
    (ends : ∀ sessionID reason, OnlyStores g (endKind g sessionID reason).1 stores)
    (payload : Option Payload) :
    OnlyStores g (endNamed g sessionID endKind reason payload).1 stores := by
  unfold endNamed
  split
  · exact onlyStores_refl
  · exact ends _ _

/-- A message of a device stores no session. -/
theorem onlyStores_handleFrame (env : Env) (g : Gateway) (dc : DeviceConn) (frame : Frame)
    :
    OnlyStores g (handleFrame env g dc frame).1 stores := by
  cases frame with
  | binary data => exact onlyStores_refl
  | text msg =>
    cases msg with
    | commandResponse payload =>
      show OnlyStores g (handleCommandResponse g dc payload).1 stores
      cases payload with
      | none => exact onlyStores_refl
      | some payload =>
        have same : (handleCommandResponse g dc (some payload)).1.sessions = g.sessions := by
          unfold handleCommandResponse resolvePendingCommand
          grind
        intro kind key session found
        rw [same] at found
        exact .inl found
    | terminalEnd payload => exact onlyStores_endNamed (fun _ _ => onlyStores_endSession) payload
    | desktopEnd payload => exact onlyStores_endNamed (fun _ _ => onlyStores_endSession) payload
    | desktopConsentDenied sessionID =>
      exact onlyStores_endNamed (fun _ _ => onlyStores_endSession) sessionID
    | videoEnd payload => exact onlyStores_endNamed (fun _ _ => onlyStores_endSession) payload
    | fileEnd payload => exact onlyStores_endNamed (fun _ _ => onlyStores_endSession) payload
    | audioEnd payload => exact onlyStores_endNamed (fun _ _ => onlyStores_endSession) payload
    | _ => exact onlyStores_refl

/-- The session that a call stores. -/
def SweepCall.Stores : SweepCall → SessionKind → String → Session → Prop
  | .whole (.storeSession dc kind sessionID), other, key, session =>
    other = kind ∧ key = sessionID ∧ session = ⟨sessionID, dc.id, dc.conn, false⟩
  | _, _, _, _ => False

theorem onlyStores_update {table : Table String Session}
    (fewer : ∀ key session, table.lookup key = some session →
      (g.sessions kind).lookup key = some session ∨ stores kind key session) :
    OnlyStores g { g with sessions := Function.update g.sessions kind table } stores := by
  intro other key session stored
  have found : (Function.update g.sessions kind table other).lookup key = some session := stored
  by_cases same : other = kind
  · subst same
    have here : Function.update g.sessions other table other = table := Function.update_self _ _ _
    rw [here] at found
    exact fewer key session found
  · have kept : Function.update g.sessions kind table other = g.sessions other :=
      Function.update_of_ne same _ _
    rw [kept] at found
    exact .inl found

theorem onlyStores_visitSession
    :
    OnlyStores g (visitSession g dc kind key) stores := by
  unfold visitSession
  split
  · split
    · exact onlyStores_removeSession
    · exact onlyStores_refl
  · exact onlyStores_refl

/-- A call stores what it stores, and takes sessions out at most. -/
theorem onlyStores_perform {call : SweepCall} {shared after : Shared} {reply : call.Answer}
    (performed : call.perform shared = some (reply, after)) :
    OnlyStores shared.gateway after.gateway call.Stores := by
  cases call with
  | rangeBegin dc kind =>
    cases performed
    exact onlyStores_refl
  | rangeVisit dc kind key =>
    cases performed
    exact onlyStores_visitSession
  | endByBrowser kind sessionID =>
    cases performed
    exact onlyStores_removeSession
  | whole call =>
    have performed : call.perform shared = some (reply, after) := performed
    cases call with
    | read dc | send dc _ =>
      rw [GatewayCall.perform, Option.ite_none_right_eq_some] at performed
      cases performed.2
      exact onlyStores_refl
    | handle dc env frame =>
      cases performed
      exact onlyStores_handleFrame env _ _ frame
    | storeSession dc kind sessionID =>
      cases performed
      refine onlyStores_update fun key session found => ?_
      rcases Table.lookup_insert_iff.mp found with ⟨rfl, rfl⟩ | ⟨-, older⟩
      · exact .inr ⟨rfl, rfl, rfl⟩
      · exact .inl older
    | endSessions dc kind =>
      cases performed
      exact onlyStores_update fun key session found => .inl (Table.lookup_filter_iff.mp found).1
    | _ =>
      cases performed
      exact onlyStores_refl

/-! ### What is kept -/

/-- A Range over the sessions of the kind has begun for the connection, and none is bound to it any
more. -/
def Clean (shared : Shared) (removals : Removals) (dc : DeviceConn) (kind : SessionKind) : Prop :=
  (dc, kind) ∈ removals.begun ∧ ∀ key session,
    (shared.gateway.sessions kind).lookup key = some session → device session ≠ dc

/-- A session is stored under its ID, and the tables are clean of a connection whose removal is
complete. -/
structure Swept (shared : Shared) (removals : Removals) : Prop where
  keyed : ∀ kind key session, (shared.gateway.sessions kind).lookup key = some session →
    session.id = key
  clean : ∀ dc ∈ removals.completed, ∀ kind, Clean shared removals dc kind

/-- A removal is complete when all tables were gone through. -/
def SweepsFirst (seen : List GatewayCall) : GatewayCall → Prop
  | .updatePeerStatus dc status => status = statusOffline → ∀ kind, .endSessions dc kind ∈ seen
  | _ => True

/-- What follows sweeps first, when no call on memory fails. -/
abbrev KeepsSweeping {Result : Type} (seen : List GatewayCall) (program : Steps Result) : Prop :=
  program.After (fun call : GatewayCall => call.inMemory = false) SweepsFirst seen

/-- Where a goroutine may stand: between two calls of its program, with clean tables for all Ranges
that came before; or within a Range, with the keys to come of all sessions that have to end. -/
inductive Stands (plans : SessionKind → RangePlan) (shared : Shared) (removals : Removals) :
    Program sweepCalls Unit → Prop
  | between {seen : List GatewayCall} {program : Steps Unit}
      (swept : ∀ dc kind, .endSessions dc kind ∈ seen →
        Clean shared removals dc.toDeviceConn kind)
      (order : KeepsSweeping seen program) : Stands plans shared removals (cut plans program)
  | within {seen : List GatewayCall} {dc : Connection} {kind : SessionKind} {key : String}
      {keys : List String} {program : Steps Unit}
      (swept : ∀ dc kind, .endSessions dc kind ∈ seen →
        Clean shared removals dc.toDeviceConn kind)
      (begun : (dc.toDeviceConn, kind) ∈ removals.begun)
      (left : ∀ other session, (shared.gateway.sessions kind).lookup other = some session →
        device session = dc.toDeviceConn → other ∈ key :: keys)
      (order : KeepsSweeping (.endSessions dc kind :: seen) program) :
      Stands plans shared removals (visits dc kind (cut plans program) (key :: keys))

/-- Where a thread may stand, by what it was started for. -/
def Follows (shared : Shared) (removals : Removals) (_ : Nat) :
    SweepRequest → Program sweepCalls Unit → Prop
  | .goroutine _ plans, program => Stands plans shared removals program
  | .browserLeft kind sessionID, program =>
    program = runSweeps (.browserLeft kind sessionID) ∨ program = .done ()

theorem keepsSweeping_removeDevice (dc : Connection) (seen : List GatewayCall) :
    KeepsSweeping seen (removeDevice dc) := by
  have last : ∀ later, (∀ kind, .endSessions dc kind ∈ later) →
      KeepsSweeping later (perform (.updatePeerStatus dc statusOffline) (.done ())) :=
    fun later all => ⟨fun _ => all, fun _ => trivial, fun _ => trivial⟩
  -- Memory does not refuse a Range, so all five have been answered before the last call.
  have ends : ∀ later, KeepsSweeping later
      (perform (.endSessions dc .desktop) <| perform (.endSessions dc .terminal) <|
        perform (.endSessions dc .video) <| perform (.endSessions dc .file) <|
        perform (.endSessions dc .audio) <| perform (.updatePeerStatus dc statusOffline) <|
        .done ()) := by
    intro later
    refine ⟨trivial, nofun, fun _ => ⟨trivial, nofun, fun _ => ⟨trivial, nofun, fun _ =>
      ⟨trivial, nofun, fun _ => ⟨trivial, nofun, fun _ => last _ fun kind => ?_⟩⟩⟩⟩⟩
    cases kind <;> simp
  unfold removeDevice
  split
  · trivial
  · exact after_perform trivial fun _ => after_perform trivial fun _ => after_perform trivial ends

theorem keepsSweeping_handleRegister (dc : Connection) (registration : Except String Manifest)
    (seen : List GatewayCall) : KeepsSweeping seen (handleRegister dc registration) := by
  have placing : ∀ (finish : Option Unit → Steps (Option String)) (later : List GatewayCall),
      (∀ sent after, KeepsSweeping after (finish sent)) →
        KeepsSweeping later (perform (.storeDevice dc) <|
          perform (.updatePeerStatus dc statusOnline) <| .call (.send dc .registered) finish) := by
    refine fun finish later ends => after_perform trivial fun _ => after_perform ?_ fun _ =>
      .call trivial fun sent after => ends sent after
    exact fun same => absurd same (by decide)
  cases registration with
  | error text => trivial
  | ok manifest =>
    refine after_perform trivial fun _ => ?_
    split
    · trivial
    · refine .call trivial fun banned later => ?_
      rcases banned with _ | (_ | _)
      case some.true => trivial
      all_goals
        refine .call trivial fun saved _ => ?_
        cases saved with
        | none => trivial
        | some _ =>
          refine after_perform trivial fun _ => .call trivial fun old after => ?_
          unfold closeOld
          split
          · refine after_perform trivial fun later => placing _ later fun sent _ => ?_
            cases sent <;> trivial
          · refine placing _ after fun sent _ => ?_
            cases sent <;> trivial

/-- Every goroutine completes a removal after its Ranges. -/
theorem keepsSweeping_run (request : Request) : KeepsSweeping [] (run request) := by
  refine after_run ?_ keepsSweeping_handleRegister keepsSweeping_removeDevice request
  intro call serves seen
  cases call with
  | updatePeerStatus dc status =>
    have online : decide (status ≠ statusOffline) = true := serves
    exact fun offline => absurd offline (of_decide_eq_true online)
  | _ => trivial

section kept

variable {shared after : Shared} {removals : Removals} {thread : Nat} {request : SweepRequest}
  {call : SweepCall} {fails : Bool} {answer : Option call.Answer}

theorem begun_grows :
    removals.begun ⊆ (noting.called thread request call answer shared removals).begun := by
  cases call with
  | whole call =>
    cases call with
    | updatePeerStatus dc status =>
      show removals.begun ⊆ (if _ then _ else _ : Removals).begun
      split <;> exact List.Subset.refl _
    | _ => exact List.Subset.refl _
  | rangeBegin dc kind => exact List.subset_cons_self _ _
  | rangeVisit | endByBrowser => exact List.Subset.refl _

/-- No session is bound late to a connection that is being removed. -/
theorem bound_before (guarded : InTime removals call)
    (attempted : sweepCalls.attempt fails call shared = (answer, after)) {dc : DeviceConn}
    (begun : (dc, kind) ∈ removals.begun) {session : Session}
    (found : (after.gateway.sessions kind).lookup key = some session)
    (bound : device session = dc) : (shared.gateway.sessions kind).lookup key = some session := by
  rcases Interface.attempt_cases attempted with ⟨-, rfl⟩ | ⟨reply, -, performed, -⟩
  · exact found
  · rcases onlyStores_perform performed kind key session found with older | stores
    · exact older
    · cases call with
      | whole call =>
        cases call with
        | storeSession own other sessionID =>
          obtain ⟨rfl, -, rfl⟩ := stores
          have same : own.toDeviceConn = dc := bound
          exact absurd (same ▸ begun) (guarded _ rfl)
        | _ => exact absurd stores id
      | _ => exact absurd stores id

theorem Clean.kept {dc : DeviceConn} (clean : Clean shared removals dc kind)
    (guarded : InTime removals call)
    (attempted : sweepCalls.attempt fails call shared = (answer, after)) :
    Clean after (noting.called thread request call answer shared removals) dc kind :=
  ⟨begun_grows clean.1, fun key session found bound =>
    clean.2 key session (bound_before guarded attempted clean.1 found bound) bound⟩

/-- The calls of others do not disturb a goroutine. -/
theorem Follows.kept {other : Nat} {own : SweepRequest} {program : Program sweepCalls Unit}
    (follows : Follows shared removals other own program) (guarded : InTime removals call)
    (attempted : sweepCalls.attempt fails call shared = (answer, after)) :
    Follows after (noting.called thread request call answer shared removals) other own program := by
  cases own with
  | browserLeft kind sessionID => exact follows
  | goroutine ownRequest plans =>
    have stands : Stands plans shared removals program := follows
    show Stands plans after _ program
    cases stands with
    | between swept order =>
      exact .between (fun dc kind member => (swept dc kind member).kept guarded attempted) order
    | within swept begun left order =>
      refine .within (fun dc kind member => (swept dc kind member).kept guarded attempted)
        (begun_grows begun) (fun key session found bound => ?_) order
      exact left key session (bound_before guarded attempted begun found bound) bound

/-- A call keeps the tables clean, if it completes a removal only after its Ranges. -/
theorem Swept.kept (swept : Swept shared removals) (guarded : InTime removals call)
    (complete : ∀ dc, call = .whole (.updatePeerStatus dc statusOffline) → ∀ kind,
      Clean shared removals dc.toDeviceConn kind)
    (attempted : sweepCalls.attempt fails call shared = (answer, after)) :
    Swept after (noting.called thread request call answer shared removals) := by
  constructor
  · intro kind key session found
    rcases Interface.attempt_cases attempted with ⟨-, rfl⟩ | ⟨reply, -, performed, -⟩
    · exact swept.keyed kind key session found
    · rcases onlyStores_perform performed kind key session found with older | stores
      · exact swept.keyed kind key session older
      · cases call with
        | whole call =>
          cases call with
          | storeSession own other sessionID =>
            obtain ⟨-, rfl, rfl⟩ := stores
            rfl
          | _ => exact absurd stores id
        | _ => exact absurd stores id
  · have older : ∀ dc ∈ removals.completed, ∀ kind,
        Clean after (noting.called thread request call answer shared removals) dc kind :=
      fun dc completed kind => (swept.clean dc completed kind).kept guarded attempted
    cases call with
    | whole call =>
      cases call with
      | updatePeerStatus own status =>
        intro dc completed kind
        by_cases offline : status = statusOffline
        · have noted : dc ∈ own.toDeviceConn :: removals.completed := by
            have same : (noting.called thread request (.whole (.updatePeerStatus own status)) answer
                shared removals).completed = own.toDeviceConn :: removals.completed := by
              show (if _ then _ else _ : Removals).completed = _
              rw [if_pos offline]
            exact same ▸ completed
          rcases List.mem_cons.mp noted with rfl | earlier
          · exact (complete own (offline ▸ rfl) kind).kept guarded attempted
          · exact older dc earlier kind
        · have same : (noting.called thread request (.whole (.updatePeerStatus own status)) answer
              shared removals).completed = removals.completed := by
            show (if _ then _ else _ : Removals).completed = _
            rw [if_neg offline]
          exact older dc (same ▸ completed) kind
      | _ => exact older
    | _ => exact older

end kept

/-! ### The calls of a goroutine -/

section own

variable {plans : SessionKind → RangePlan} {shared : Shared} {removals : Removals}
  {seen : List GatewayCall}

variable {program : Steps Unit}

/-- Within a Range or at its end. -/
theorem stands_of_left {keys : List String}
    (swept : ∀ dc kind, .endSessions dc kind ∈ seen → Clean shared removals dc.toDeviceConn kind)
    (begun : (dc.toDeviceConn, kind) ∈ removals.begun)
    (left : ∀ other session, (shared.gateway.sessions kind).lookup other = some session →
      device session = dc.toDeviceConn → other ∈ keys)
    (order : KeepsSweeping (.endSessions dc kind :: seen) program) :
    Stands plans shared removals (visits dc kind (cut plans program) keys) := by
  cases keys with
  | cons key keys => exact .within swept begun left order
  | nil =>
    refine .between (fun own other member => ?_) order
    rcases List.mem_cons.mp member with same | older
    · cases same
      exact ⟨begun, fun key session found bound =>
        absurd (left key session found bound) List.not_mem_nil⟩
    · exact swept own other older

/-- What its next call does for a goroutine, wherever it stands. -/
def Continues (plans : SessionKind → RangePlan) (shared : Shared) (removals : Removals) :
    Program sweepCalls Unit → Prop
  | .done _ => True
  | .call call next => ∀ fails thread request answer after, InTime removals call →
      (fails = true → call.inMemory = false) →
      sweepCalls.attempt fails call shared = (answer, after) →
        Swept after (noting.called thread request call answer shared removals) ∧
          Stands plans after (noting.called thread request call answer shared removals)
            (next answer)

theorem answered_of_inMemory {fails : Bool} {call : SweepCall} {answer : Option call.Answer}
    {after : Shared} (possible : fails = true → call.inMemory = false)
    (inMemory : call.inMemory = true)
    (attempted : sweepCalls.attempt fails call shared = (answer, after)) :
    ∃ reply, call.perform shared = some (reply, after) ∧ answer = some reply := by
  have undisturbed : fails = false := by
    cases fails with
    | false => rfl
    | true => exact absurd (inMemory.symm.trans (possible rfl)) Bool.false_ne_true.symm
  subst undisturbed
  have performs : (call.perform shared).isSome := by
    cases call with
    | whole call => exact GatewayCall.perform_inMemory inMemory shared
    | _ => rfl
  obtain ⟨⟨reply, result⟩, performed⟩ := Option.isSome_iff_exists.mp performs
  have replied : sweepCalls.attempt false call shared = (some reply, result) :=
    Interface.attempt_of_perform performed
  obtain ⟨rfl, rfl⟩ := Prod.mk.inj (attempted.symm.trans replied)
  exact ⟨reply, performed, rfl⟩

/-- A call of the program itself. -/
theorem continues_whole {call : GatewayCall}
    {next : Option call.Answer → Steps Unit} (swept : Swept shared removals)
    (earlier : ∀ dc kind, .endSessions dc kind ∈ seen → Clean shared removals dc.toDeviceConn kind)
    (noRange : ∀ dc kind, call ≠ .endSessions dc kind)
    (order : KeepsSweeping seen (.call call next)) :
    Continues plans shared removals
      (.call (.whole call) fun answer => cut plans (next answer)) := by
  intro fails thread request answer after guarded possible attempted
  obtain ⟨first, refused, answered⟩ := order
  have kept : ∀ dc kind, .endSessions dc kind ∈ seen →
      Clean after (noting.called thread request (.whole call) answer shared removals)
        dc.toDeviceConn kind := fun dc kind member =>
    (earlier dc kind member).kept guarded attempted
  refine ⟨swept.kept guarded ?_ attempted, ?_⟩
  · rintro dc same kind
    obtain rfl := SweepCall.whole.inj same
    exact earlier dc kind (first rfl kind)
  · cases answer with
    | some reply =>
      refine @Stands.between _ _ _ (call :: seen) _ (fun dc kind member => ?_) (answered reply)
      rcases List.mem_cons.mp member with same | older
      · exact absurd same.symm (noRange dc kind)
      · exact kept dc kind older
    | none =>
      refine .between kept (refused ?_)
      by_contra remembered
      obtain ⟨reply, -, replied⟩ := answered_of_inMemory possible
        (Bool.eq_true_of_not_eq_false remembered) attempted
      exact Option.some_ne_none reply replied.symm

theorem continues_rangeBegin (swept : Swept shared removals)
    (earlier : ∀ dc kind, .endSessions dc kind ∈ seen → Clean shared removals dc.toDeviceConn kind)
    (order : KeepsSweeping (.endSessions dc kind :: seen) program) :
    Continues plans shared removals (.call (.rangeBegin dc kind) fun keys =>
      visits dc kind (cut plans program) ((plans kind).visits (keys.getD []))) := by
  intro fails thread request answer after guarded possible attempted
  obtain ⟨reply, performed, rfl⟩ := answered_of_inMemory possible rfl attempted
  cases performed
  refine ⟨swept.kept guarded (fun _ same => (nomatch same)) attempted, ?_⟩
  refine stands_of_left (fun own other member => (earlier own other member).kept guarded attempted)
    List.mem_cons_self (fun other session found _ => ?_) order
  have listed : other ∈ (shared.gateway.sessions kind).entries.map (·.1) :=
    List.mem_map.mpr ⟨_, Table.mem_entries_iff.mpr found, rfl⟩
  exact (plans kind).covers _ listed

theorem continues_rangeVisit {keys : List String} (swept : Swept shared removals)
    (earlier : ∀ dc kind, .endSessions dc kind ∈ seen → Clean shared removals dc.toDeviceConn kind)
    (begun : (dc.toDeviceConn, kind) ∈ removals.begun)
    (left : ∀ other session, (shared.gateway.sessions kind).lookup other = some session →
      device session = dc.toDeviceConn → other ∈ key :: keys)
    (order : KeepsSweeping (.endSessions dc kind :: seen) program) :
    Continues plans shared removals (visits dc kind (cut plans program) (key :: keys)) := by
  intro fails thread request answer after guarded possible attempted
  obtain ⟨reply, performed, rfl⟩ := answered_of_inMemory possible rfl attempted
  cases performed
  refine ⟨swept.kept guarded (fun _ same => (nomatch same)) attempted, ?_⟩
  refine stands_of_left (fun own other member => (earlier own other member).kept guarded attempted)
    begun (fun other session found bound => ?_) order
  have before := bound_before guarded attempted begun found bound
  rcases List.mem_cons.mp (left other session before bound) with rfl | later
  · have spared := ((lookup_visitSession_iff (swept.keyed kind other)).mp found).2
    exact absurd ⟨rfl, rfl, congrArg DeviceConn.id bound⟩ spared
  · exact later

/-- Wherever a goroutine stands, it goes on. -/
theorem Stands.continues {program : Program sweepCalls Unit}
    (stands : Stands plans shared removals program) (swept : Swept shared removals) :
    Continues plans shared removals program := by
  cases stands with
  | within earlier begun left order => exact continues_rangeVisit swept earlier begun left order
  | @between seen program earlier order =>
    cases program with
    | done result => trivial
    | call call next =>
      cases call with
      | endSessions dc kind =>
        exact continues_rangeBegin swept earlier (order.2.2 ())
      | _ => exact continues_whole swept earlier (fun _ _ same => (nomatch same)) order

end own

/-! ### Every run -/

theorem noting_obligations :
    Obligations runSweeps noting (fun pool label => StoresInTime pool label ∧ Possible pool label)
      Swept Follows where
  begins := by
    intro shared removals thread request swept
    refine ⟨swept, ?_, fun _ _ _ _ follows => follows⟩
    cases request with
    | goroutine request plans =>
      exact @Stands.between _ _ _ [] _ (fun _ _ member => absurd member List.not_mem_nil)
        (keepsSweeping_run request)
    | browserLeft kind sessionID => exact .inl rfl
  ends shared removals thread request _ swept _ := ⟨swept, fun _ _ _ _ follows => follows⟩
  calls := by
    rintro pool thread fails request call next ⟨guarded, possible⟩ found swept follows answer after
      attempted
    have isNext := Pool.nextCall_of_lookup found
    have inTime : InTime pool.ghost call := guarded _ isNext
    have remembers : fails = true → call.inMemory = false := fun disturbed =>
      possible disturbed _ isNext
    have both : Swept after (noting.called thread request call answer pool.store pool.ghost) ∧
        Follows after (noting.called thread request call answer pool.store pool.ghost) thread
          request (next answer) := by
      cases request with
      | goroutine own plans =>
        have stands : Stands plans pool.store pool.ghost (.call call next) := follows
        exact stands.continues swept fails thread _ answer after inTime remembers attempted
      | browserLeft kind sessionID =>
        rcases follows with same | same
        · cases same
          exact ⟨swept.kept inTime (fun _ same => (nomatch same)) attempted, .inr rfl⟩
        · cases same
    exact ⟨both.1, both.2, fun other _ another program standing =>
      standing.kept inTime attempted⟩

/-- In every run that stores no session late, none is bound to a connection whose removal is
complete. -/
theorem noneOutlives_of_storesInTime {pool : Pool sweepCalls SweepRequest Unit Removals}
    (reached : ReachableWhen sweeping StoresInTime pool) : NoneOutlives pool := by
  have starts : ∀ (shared : Shared) (removals : Removals),
      (∃ peers config, shared = { peers, config }) ∧ removals = {} → Swept shared removals := by
    rintro shared removals ⟨⟨peers, config, rfl⟩, rfl⟩
    exact ⟨fun _ _ _ found => (nomatch found), fun _ member => absurd member List.not_mem_nil⟩
  have swept := (noting_obligations.invariant starts reached.of_restrict).1
  intro dc completed _ kind key session found
  exact (swept.clean dc completed kind).2 key session found

/-! ### Runs -/

def newGateway : Pool sweepCalls SweepRequest Unit Removals := ⟨{}, ∅, {}⟩

theorem newGateway_start : sweeping.start newGateway := ⟨rfl, ⟨∅, ∅, rfl⟩, rfl⟩

/-- A Range that reports what was there when it began. -/
def exactPlan : RangePlan := ⟨id, fun _ => List.Subset.refl _⟩

/-- A thread makes a number of calls, none of which fails. -/
def turns (thread count : Nat) : List (Label SweepRequest) :=
  List.replicate count (.turn thread false)

/-- The connection of a device with a valid manifest, which unregisters when it is told to. -/
def connect : SweepRequest :=
  .goroutine (.connection "CDAP-1" "10.0.0.7" 0 (.ok ⟨15, "manifest"⟩)
    [(0, ⟨none, none, true, none⟩, .text .unregister)]) fun _ => exactPlan

/-- A desktop session with the device. -/
def startDesktop : SweepRequest :=
  .goroutine (.session .desktop "CDAP-1" "desk_CDAP-1_1" true) fun _ => exactPlan

/-- A session that is stored before its device unregisters does not outlive the connection. -/
theorem noneOutlives_of_storesInTime_unregister :
    ∃ pool, ReachableWhen sweeping StoresInTime pool ∧ pool.ghost.completed ≠ [] ∧
      NoneOutlives pool := by
  have ran : (sweeping.runWhen StoresInTime newGateway
      (.begin 1 connect :: turns 1 9 ++ .begin 2 startDesktop :: turns 2 3 ++ turns 1 12)).any
        (fun pool => decide (pool.ghost.completed ≠ [])) = true := by decide
  obtain ⟨pool, reached, completed⟩ := exists_reachableWhen_of_runWhen newGateway_start ran
  exact ⟨pool, reached, of_decide_eq_true completed, noneOutlives_of_storesInTime reached⟩

/-- The device unregisters after the start message was sent and before the session is stored: the
session stays, bound to a connection that was removed. -/
theorem desktopSession_outlives :
    ¬ ∀ pool, Reachable sweeping pool → NoneOutlives pool := by
  intro always
  have ran : (sweeping.run newGateway
      (.begin 1 connect :: turns 1 9 ++ .begin 2 startDesktop :: turns 2 2 ++ turns 1 11 ++
        turns 2 1)).any (fun pool =>
          decide (pool.running.entries = []) && pool.ghost.completed.any fun dc =>
            ((pool.store.gateway.sessions .desktop).lookup "desk_CDAP-1_1").any fun session =>
              decide (device session = dc)) = true := by decide
  obtain ⟨pool, reached, passed⟩ := exists_reachable_of_run newGateway_start ran
  obtain ⟨idle, outlives⟩ := Bool.and_eq_true_iff.mp passed
  obtain ⟨dc, completed, stays⟩ := List.any_eq_true.mp outlives
  obtain ⟨session, found, bound⟩ := Option.any_eq_true _ _ |>.mp stays
  refine always pool reached dc completed ?_ .desktop _ session found (of_decide_eq_true bound)
  rintro ⟨thread, request, call, isNext, -⟩
  obtain ⟨next, running⟩ := Pool.lookup_of_nextCall isNext
  have member := Table.mem_entries_iff.mpr running
  rw [of_decide_eq_true idle] at member
  exact absurd member List.not_mem_nil

end SovaDesk.Cdap.Outliving
