/-
This file models the login sessions of desktop clients, and settles when they keep to
their limits.

A login revokes the earlier sessions of the user on the same client and creates a new
one, with two statements, so two logins at once can leave two sessions. The new session
runs for the days of the expiry, which nothing compares with the maximum; the maximum is
applied when an authenticated request moves the expiry. Each of the three settings is
read from the database where it is used and may change between two uses.

The runs remember for each session the largest maximum that has been in force since it
was created, and for each request the session it was let in with. No session is accepted
for longer, and no two sessions of a user on a client are open, in the runs in which a
login never creates a session for more days than the maximum in force, nor beside a
session that another login has created since it revoked the earlier ones.
-/

import SovaDesk.Api.APIKeys
import SovaDesk.Api.PeerList
import SovaDesk.Lib.Interleave

namespace SovaDesk.Api.ClientSessions

open Auth Interleave Transition

/-! ### The tables -/

/-- `ClientSession`; its times are whole seconds, as the columns hold them. -/
structure ClientSession where
  id : Int := 0
  tokenHash : String
  userID : Int
  clientID : String
  clientUUID : String
  expiresAt : Int
  lastUsed : Int
  createdAt : Int := 0
  revoked : Bool := false
  ipAddress : String
  deriving DecidableEq

structure User where
  username : String
  role : String
  deriving DecidableEq

/-- The session is that of a user on a client. -/
def ClientSession.isFor (session : ClientSession) (userID : Int) (clientID clientUUID : String) :
    Bool :=
  session.userID == userID && session.clientID == clientID && session.clientUUID == clientUUID

/-- The clock, in nanoseconds, and the tables that the sessions use. An old database may lack the
table of sessions. -/
structure Store where
  now : Int
  hasSessions : Bool
  sessions : Table Int ClientSession
  nextID : Int
  users : Table Int User
  serverConfig : Table String String

/-! ### The settings -/

/-- The settings of the process, which the database overrides. -/
structure Config where
  clientSessionExpiryDays : Int
  clientSessionSliding : Bool
  clientSessionMaxDays : Int

def configClientSessionExpiryDays : String := "client_session_expiry_days"
def configClientSessionSliding : String := "client_session_sliding"
def configClientSessionMaxDays : String := "client_session_max_days"

def defaultClientSessionExpiryDays : Int := 7
def defaultClientSessionMaxDays : Int := 30

/-- A number of days: the stored one if it is from 1 to 365, else that of the process if it is
positive, else the default. `none` is a setting that could not be read. -/
def daysSetting (ofProcess default : Int) (stored : Option String) : Int :=
  match (stored.bind fun text => parseInt text.toList).filter fun n => 0 < n ∧ n ≤ 365 with
  | some n => n
  | none => if 0 < ofProcess then ofProcess else default

def clientSessionExpiryDays (config : Config) : Option String → Int :=
  daysSetting config.clientSessionExpiryDays defaultClientSessionExpiryDays

def clientSessionMaxDays (config : Config) : Option String → Int :=
  daysSetting config.clientSessionMaxDays defaultClientSessionMaxDays

def clientSessionSliding (config : Config) (stored : Option String) : Bool :=
  let text := (stored.map fun text => (trimSpace text).toLower).getD ""
  if text ∈ ["1", "true", "yes", "on"] then true
  else if text ∈ ["0", "false", "no", "off"] then false
  else config.clientSessionSliding

/-! ### The statements -/

/-- The two statements that a login repeats once the missing table has been created. -/
inductive Statement
  | revokeClientSessionsForDevice (userID : Int) (clientID clientUUID : String)
  | createClientSession (session : ClientSession)
  deriving DecidableEq

/-- What a request calls: the database, the clock, and the passing of time. -/
inductive Call
  | exec (statement : Statement)
  | ensureClientSessionsSchema
  | getClientSessionByTokenHash (tokenHash : String)
  | getUserByID (id : Int)
  | touchClientSession (id expiresAt lastUsed : Int)
  | revokeClientSessionByTokenHash (tokenHash : String)
  | getConfig (key : String)
  | setConfig (key value : String)
  | clock
  | advance (elapsed : Nat)
  deriving DecidableEq

/-- A statement answers whether the table is there. -/
abbrev Call.Answer : Call → Type
  | .exec _ => Bool
  | .getClientSessionByTokenHash _ => Option ClientSession
  | .getUserByID _ => Option User
  | .getConfig _ => String
  | .clock => Int
  | _ => Unit

/-- `datetime('now')`. -/
def Store.seconds (store : Store) : Int := store.now / second

def Store.revokeWhere (store : Store) (chosen : ClientSession → Bool) : Store :=
  { store with
    sessions := store.sessions.mapValues fun _ session =>
      if chosen session then { session with revoked := true } else session }

/-- The row of a new session. -/
def Store.created (store : Store) (session : ClientSession) : ClientSession :=
  { session with id := store.nextID, createdAt := store.seconds, revoked := false }

def Statement.perform (store : Store) : Statement → Option Store
  | .revokeClientSessionsForDevice userID clientID clientUUID =>
    some (store.revokeWhere (·.isFor userID clientID clientUUID))
  | .createClientSession session =>
    -- the hashes of the tokens are unique
    if store.sessions.entries.any (·.2.tokenHash == session.tokenHash) then none
    else
      some { store with
        sessions := store.sessions.insert store.nextID (store.created session)
        nextID := store.nextID + 1 }

/-- The session with a hash, if it is neither revoked nor expired. -/
def Store.active (store : Store) (tokenHash : String) : Option ClientSession :=
  (store.sessions.entries.find? fun entry => entry.2.tokenHash == tokenHash &&
    !entry.2.revoked && decide (store.seconds < entry.2.expiresAt)).map (·.2)

def Call.perform : (call : Call) → Store → Option (call.Answer × Store)
  | .exec statement, store =>
    if store.hasSessions then (statement.perform store).map fun after => (true, after)
    else some (false, store)
  | .ensureClientSessionsSchema, store => some ((), { store with hasSessions := true })
  | .getClientSessionByTokenHash tokenHash, store =>
    if store.hasSessions then some (store.active tokenHash, store) else none
  | .getUserByID id, store => some (store.users.lookup id, store)
  | .touchClientSession id expiresAt lastUsed, store =>
    some ((), { store with
      sessions := store.sessions.update id fun session =>
        if session.revoked then session else { session with expiresAt, lastUsed } })
  | .revokeClientSessionByTokenHash tokenHash, store =>
    some ((), store.revokeWhere (·.tokenHash == tokenHash))
  | .getConfig key, store => some ((store.serverConfig.lookup key).getD "", store)
  | .setConfig key value, store =>
    some ((), { store with serverConfig := store.serverConfig.insert key value })
  | .clock, store => some (store.now, store)
  | .advance elapsed, store => some ((), { store with now := store.now + elapsed })

@[reducible] def database : Interface where
  Store := Store
  Call := Call
  Answer := Call.Answer
  perform := Call.perform

/-! ### The requests -/

/-- A login of a user on a client, with the token that is drawn for it if there is randomness; a
request with a token; a relayed connection with one; a logout; a change of a setting; and the
passing of time. -/
inductive Request
  | login (userID : Int) (clientID clientUUID clientIP : String) (plainToken : Option String)
  | authenticate (token : String)
  | connect (token : String)
  | logout (token : String)
  | setConfig (key value : String)
  | advance (elapsed : Nat)
  deriving DecidableEq

inductive Result
  | issued (plainToken : String)
  | notIssued
  | authenticated (username role : String)
  | recognized (session : ClientSession)
  | rejected
  | done
  deriving DecidableEq

/-- `retryAfterMissingClientSessions`: the table is created if it is missing, and the statement
repeated. -/
def execRetrying (statement : Statement) (rest : Program database Result) :
    Program database Result :=
  .call (.exec statement) fun
  | none => .done .notIssued
  | some true => rest
  | some false => .call .ensureClientSessionsSchema fun
    | none => .done .notIssued
    | some _ => .call (.exec statement) fun
      | some true => rest
      | _ => .done .notIssued

section programs

variable (config : Config) (hashClientToken : String → String)

/-- The expiry of a new session. -/
def issuedExpiry (now : Int) (stored : Option String) : Int :=
  (now + keyDuration (clientSessionExpiryDays config stored)) / second

/-- `issueClientSession` once it has the token and the time. -/
def creating (userID : Int) (clientID clientUUID clientIP plainToken : String) (now : Int) :
    Program database Result :=
  .call (.getConfig configClientSessionExpiryDays) fun stored =>
    execRetrying
      (.createClientSession
        { tokenHash := hashClientToken plainToken, userID, clientID, clientUUID
          expiresAt := issuedExpiry config now stored, lastUsed := now / second
          ipAddress := clientIP })
      (.done (.issued plainToken))

def issueClientSession (userID : Int) (clientID clientUUID clientIP : String)
    (plainToken : Option String) : Program database Result :=
  if userID ≤ 0 then .done .notIssued
  else
    execRetrying (.revokeClientSessionsForDevice userID clientID clientUUID) <|
      match plainToken with
      | none => .done .notIssued
      | some plainToken => .call .clock fun now =>
        now.elim (.done .notIssued)
          (creating config hashClientToken userID clientID clientUUID clientIP plainToken)

/-- The expiry that a request moves a session to: at most its maximum after its creation. -/
def slidingExpiry (session : ClientSession) (now : Int) (maxDays expiryDays : Option String) :
    Int :=
  min (now + keyDuration (clientSessionExpiryDays config expiryDays))
    (session.createdAt * second + keyDuration (clientSessionMaxDays config maxDays)) / second

/-- Write the expiry and the time of use, whether that succeeds or not, and accept the request. -/
def touching (session : ClientSession) (user : User) (expiresAt now : Int) :
    Program database Result :=
  .call (.touchClientSession session.id expiresAt (now / second)) fun _ =>
    .done (.authenticated user.username user.role)

/-- `authenticateClientSession` once it has the session and the user, and the setting. -/
def extending (session : ClientSession) (user : User) (now : Int) : Program database Result :=
  .call (.getConfig configClientSessionMaxDays) fun maxDays =>
    .call (.getConfig configClientSessionExpiryDays) fun expiryDays =>
      touching session user (slidingExpiry config session now maxDays expiryDays) now

def timing (session : ClientSession) (user : User) (sliding : Bool) : Program database Result :=
  .call .clock fun now => now.elim (.done .rejected) fun now =>
    if sliding then extending config session user now
    else touching session user session.expiresAt now

def identifying (session : ClientSession) : Program database Result :=
  .call (.getUserByID session.userID) fun
  | some (some user) => .call (.getConfig configClientSessionSliding) fun stored =>
    timing config session user (clientSessionSliding config stored)
  | _ => .done .rejected

def authenticateClientSession (token : String) : Program database Result :=
  if isOpaqueClientToken token then
    .call (.getClientSessionByTokenHash (hashClientToken token)) fun
    | some (some session) => identifying config session
    | _ => .done .rejected
  else .done .rejected

/-- `authorizeViaClientToken` as far as it concerns the session. -/
def authorizeViaClientToken (token : String) : Program database Result :=
  if isOpaqueClientToken (trimSpace token) then
    .call (.getClientSessionByTokenHash (hashClientToken (trimSpace token))) fun
    | some (some session) => .done (.recognized session)
    | _ => .done .rejected
  else .done .rejected

def revokeClientSessionToken (token : String) : Program database Result :=
  if isOpaqueClientToken token then
    .call (.revokeClientSessionByTokenHash (hashClientToken token)) fun _ => .done .done
  else .done .done

def handle : Request → Program database Result
  | .login userID clientID clientUUID clientIP plainToken =>
    issueClientSession config hashClientToken userID clientID clientUUID clientIP plainToken
  | .authenticate token => authenticateClientSession config hashClientToken token
  | .connect token => authorizeViaClientToken hashClientToken token
  | .logout token => revokeClientSessionToken hashClientToken token
  | .setConfig key value => .call (.setConfig key value) fun _ => .done .done
  | .advance elapsed => .call (.advance elapsed) fun _ => .done .done

end programs

/-! ### What is observed -/

/-- A session that lets a request in: when it was created, in seconds, when its row was read, in
nanoseconds, and the largest maximum in force in between. -/
structure Acceptance where
  createdAt : Int
  readAt : Int
  maxDays : Int
  deriving DecidableEq

/-- The session was read no later than its maximum allows. -/
def Acceptance.Timely (acceptance : Acceptance) : Prop :=
  acceptance.readAt ≤ (acceptance.createdAt + acceptance.maxDays * 86400) * second

instance (acceptance : Acceptance) : Decidable acceptance.Timely :=
  inferInstanceAs (Decidable (_ ≤ _))

/-- For each session the largest maximum since it was created; for each thread the days that it
read as the expiry and the session that it found; and the sessions that let a request in. -/
structure Record where
  limits : Table Int Int := ∅
  days : Table Nat Int := ∅
  found : Table Nat Acceptance := ∅
  accepted : List Acceptance := []

/-- The maximum in force. -/
def Store.maxDays (config : Config) (store : Store) : Int :=
  clientSessionMaxDays config
    (some ((store.serverConfig.lookup configClientSessionMaxDays).getD ""))

/-- Another maximum is in force for a while. -/
def Record.raise (record : Record) (days : Int) : Record :=
  { record with limits := record.limits.mapValues fun _ limit => max limit days }

/-- A maximum that cannot be read puts that of the process in force. -/
def Record.note (config : Config) (thread : Nat) (store : Store) (record : Record) :
    (call : Call) → Option call.Answer → Record
  | .exec (.createClientSession _), some true =>
    { record with limits := record.limits.insert store.nextID (store.maxDays config) }
  | .setConfig key value, some _ =>
    if key = configClientSessionMaxDays then
      record.raise (clientSessionMaxDays config (some value))
    else record
  | .getConfig key, answer =>
    if key = configClientSessionMaxDays then record.raise (clientSessionMaxDays config answer)
    else if key = configClientSessionExpiryDays then
      { record with days := record.days.insert thread (clientSessionExpiryDays config answer) }
    else record
  | .getClientSessionByTokenHash _, some (some session) =>
    { record with
      found := record.found.insert thread
        ⟨session.createdAt, store.now, (record.limits.lookup session.id).getD 0⟩ }
  | _, _ => record

/-- A request that is let in. -/
def Record.finish (record : Record) (thread : Nat) : Result → Record
  | .authenticated _ _ | .recognized _ =>
    { record with accepted := (record.found.lookup thread).toList ++ record.accepted }
  | _ => record

def watching (config : Config) : Observer database Request Result Record where
  began _ _ record := record
  called thread _ call answer store record := record.note config thread store call answer
  ended thread _ result record := record.finish thread result

abbrev Sessions := Pool database Request Result Record

/-- The clock always answers, and time always passes. -/
def Call.isTime : Call → Bool
  | .clock | .advance _ => true
  | _ => false

def Possible (pool : Sessions) : Label Request → Prop
  | .turn thread true => ∀ call ∈ pool.nextCall thread, Call.isTime call.2 = false
  | _ => True

instance (pool : Sessions) : (label : Label Request) → Decidable (Possible pool label)
  | .turn _ true => inferInstanceAs (Decidable (∀ call ∈ _, _ = false))
  | .turn _ false => .isTrue trivial
  | .begin _ _ => .isTrue trivial

/-- Runs of any number of requests from a database without sessions, under any settings. -/
def serving (config : Config) (hashClientToken : String → String) :
    System Sessions (Label Request) :=
  (interleaving (handle config hashClientToken) (watching config) fun store record =>
    store.sessions = ∅ ∧ record = {}).restrict Possible

/-! ### The limits -/

def Request.logsIn (userID : Int) (clientID clientUUID : String) : Request → Bool
  | .login user id uuid _ _ => user == userID && id == clientID && uuid == clientUUID
  | _ => false

/-- No session is accepted after its limit, and while no login of a user on a client is running
at most one session of theirs is open. -/
structure Limited (pool : Sessions) : Prop where
  accepted : ∀ acceptance ∈ pool.ghost.accepted, acceptance.Timely
  single : ∀ userID clientID clientUUID,
    (∀ thread running, pool.running.lookup thread = some running →
      running.request.logsIn userID clientID clientUUID = false) →
    ∀ id session other another, pool.store.sessions.lookup id = some session →
      pool.store.sessions.lookup other = some another →
      session.revoked = false → another.revoked = false →
      session.isFor userID clientID clientUUID = true →
      another.isFor userID clientID clientUUID = true → id = other

/-- An open session of the user and the client of a session is in the table. -/
def Store.hasOpen (store : Store) (session : ClientSession) : Bool :=
  store.sessions.entries.any fun entry => !entry.2.revoked &&
    entry.2.isFor session.userID session.clientID session.clientUUID

/-- A session is created for at most the maximum in force, while none of its user and client is
open. -/
def CallOrderly (config : Config) (thread : Nat) (store : Store) (record : Record) : Call → Prop
  | .exec (.createClientSession session) =>
    (∀ days ∈ record.days.lookup thread, days ≤ store.maxDays config) ∧
      store.hasOpen session = false
  | _ => True

instance (config : Config) (thread : Nat) (store : Store) (record : Record) :
    (call : Call) → Decidable (CallOrderly config thread store record call)
  | .exec (.createClientSession _) => inferInstanceAs (Decidable ((∀ days ∈ _, _ ≤ _) ∧ _ = _))
  | .exec (.revokeClientSessionsForDevice _ _ _) | .ensureClientSessionsSchema
  | .getClientSessionByTokenHash _ | .getUserByID _ | .touchClientSession _ _ _
  | .revokeClientSessionByTokenHash _ | .getConfig _ | .setConfig _ _ | .clock | .advance _ =>
    .isTrue trivial

/-- The steps of a run all of whose logins create their session in order. -/
def Orderly (config : Config) (pool : Sessions) : Label Request → Prop
  | .begin _ _ => True
  | .turn thread fails => fails = false → ∀ call ∈ pool.nextCall thread,
      CallOrderly config thread pool.store pool.ghost call.2

instance (config : Config) (pool : Sessions) :
    (label : Label Request) → Decidable (Orderly config pool label)
  | .begin _ _ => .isTrue trivial
  | .turn _ _ => inferInstanceAs (Decidable (_ = false → ∀ call ∈ _, CallOrderly _ _ _ _ _))

/-! ### What is kept -/

variable {session : ClientSession} {call : Call} {fails : Bool}

section kept

variable {config : Config} {store after : Store} {record noted : Record} {thread : Nat}

/-- A session is in the table, with the time of creation it was read with, and an expiry is within
its limit. -/
def Within (store : Store) (record : Record) (id createdAt expiresAt : Int) : Prop :=
  ∃ session limit, store.sessions.lookup id = some session ∧
    record.limits.lookup id = some limit ∧ session.createdAt = createdAt ∧
    expiresAt ≤ createdAt + limit * 86400

def ClientSession.owner (session : ClientSession) : Int × String × String :=
  (session.userID, session.clientID, session.clientUUID)

theorem ClientSession.isFor_iff {userID : Int} {clientID clientUUID : String} :
    session.isFor userID clientID clientUUID = true ↔
      session.owner = (userID, clientID, clientUUID) := by
  unfold ClientSession.isFor ClientSession.owner
  simp only [Bool.and_eq_true, beq_iff_eq, Prod.mk.injEq, and_assoc]

/-- What holds of the table and the record. -/
structure Sound (config : Config) (store : Store) (record : Record) : Prop where
  within : ∀ id session, store.sessions.lookup id = some session →
    Within store record id session.createdAt session.expiresAt
  keyed : ∀ id session, store.sessions.lookup id = some session →
    session.id = id ∧ id < store.nextID
  inForce : ∀ id limit, record.limits.lookup id = some limit → store.maxDays config ≤ limit
  single : ∀ id session other another, store.sessions.lookup id = some session →
    store.sessions.lookup other = some another → session.revoked = false →
    another.revoked = false → session.owner = another.owner → id = other
  found : ∀ thread acceptance, record.found.lookup thread = some acceptance → acceptance.Timely
  accepted : ∀ acceptance ∈ record.accepted, acceptance.Timely

/-- Time passes, sessions stay in the table as they were created, and limits rise. -/
structure Grows (store : Store) (record : Record) (after : Store) (noted : Record) : Prop where
  now : store.now ≤ after.now
  within : ∀ id createdAt expiresAt, Within store record id createdAt expiresAt →
    Within after noted id createdAt expiresAt

theorem Grows.refl (store : Store) (record : Record) : Grows store record store record :=
  ⟨le_refl _, fun _ _ _ within => within⟩

theorem Grows.trans {third : Store} {thirdRecord : Record} (first : Grows store record after noted)
    (second : Grows after noted third thirdRecord) : Grows store record third thirdRecord :=
  ⟨first.now.trans second.now, fun id createdAt expiresAt within =>
    second.within id createdAt expiresAt (first.within id createdAt expiresAt within)⟩

theorem Grows.seconds (grows : Grows store record after noted) : store.seconds ≤ after.seconds :=
  Int.ediv_le_ediv (by decide) grows.now

/-- What a thread expects of the others. -/
def growing : Rely database Record where
  allows thread store record after noted := Grows store record after noted ∧
    noted.days.lookup thread = record.days.lookup thread
  refl _ store record := ⟨Grows.refl store record, rfl⟩
  trans first second := ⟨first.1.trans second.1, second.2.trans first.2⟩

/-- What a program knows of the calls that change sessions. -/
def Known (thread : Nat) (store : Store) (record : Record) : Call → Prop
  | .exec (.createClientSession session) => ∃ days, record.days.lookup thread = some days ∧
    session.expiresAt ≤ store.seconds + days * 86400
  | .touchClientSession id expiresAt _ =>
    ∃ createdAt, Within store record id createdAt expiresAt
  | _ => True

theorem Known.later (known : Known thread store record call)
    (grows : Grows store record after noted)
    (days : noted.days.lookup thread = record.days.lookup thread) :
    Known thread after noted call := by
  cases call with
  | exec statement =>
    cases statement with
    | createClientSession session =>
      obtain ⟨read, found, bounded⟩ := known
      have seconds := grows.seconds
      exact ⟨read, days.trans found, by omega⟩
    | revokeClientSessionsForDevice _ _ _ => trivial
  | touchClientSession id expiresAt lastUsed =>
    obtain ⟨createdAt, within⟩ := known
    exact ⟨createdAt, grows.within _ _ _ within⟩
  | ensureClientSessionsSchema => trivial
  | getClientSessionByTokenHash _ => trivial
  | getUserByID _ => trivial
  | revokeClientSessionByTokenHash _ => trivial
  | getConfig _ => trivial
  | setConfig _ _ => trivial
  | clock => trivial
  | advance _ => trivial

/-- A step keeps what holds of the table and the record. -/
structure Keeps (config : Config) (store : Store) (record : Record) (after : Store)
    (noted : Record) : Prop where
  sound : Sound config after noted
  grows : Grows store record after noted

section

variable (sound : Sound config store record)

include sound

theorem Keeps.refl : Keeps config store record store record := ⟨sound, Grows.refl store record⟩

/-- A step that leaves the sessions and the maximum as they are. -/
theorem Sound.same (now : store.now ≤ after.now)
    (sessions : after.sessions = store.sessions) (nextID : after.nextID = store.nextID)
    (settings : after.maxDays config = store.maxDays config) :
    Keeps config store record after record := by
  have grows : Grows store record after record := by
    refine ⟨now, fun id createdAt expiresAt ⟨session, limit, found, rest⟩ => ?_⟩
    exact ⟨session, limit, sessions ▸ found, rest⟩
  refine ⟨⟨fun id session found => ?_, fun id session found => ?_, fun id limit found => ?_,
    fun id session other another found => ?_, sound.found, sound.accepted⟩, grows⟩
  · exact grows.within _ _ _ (sound.within id session (sessions ▸ found))
  · rw [nextID]
    exact sound.keyed id session (sessions ▸ found)
  · rw [settings]
    exact sound.inForce id limit found
  · rw [sessions] at found ⊢
    exact sound.single id session other another found

/-- Rewriting sessions: each keeps its name and its times of creation, none is opened again, and
the expiries stay within the limits. -/
theorem Sound.rewrite (change : Int → ClientSession → ClientSession) (now : after.now = store.now)
    (sessions : ∀ id, after.sessions.lookup id = (store.sessions.lookup id).map (change id))
    (nextID : after.nextID = store.nextID) (settings : after.serverConfig = store.serverConfig)
    (named : ∀ id session, (change id session).id = session.id ∧
      (change id session).createdAt = session.createdAt ∧
      (change id session).owner = session.owner ∧
      ((change id session).revoked = false → session.revoked = false))
    (within : ∀ id session, store.sessions.lookup id = some session →
      Within store record id session.createdAt (change id session).expiresAt) :
    Keeps config store record after record := by
  have grows : Grows store record after record := by
    refine ⟨now.ge,
      fun id createdAt expiresAt ⟨session, limit, found, limited, created, rest⟩ => ?_⟩
    refine ⟨change id session, limit, ?_, limited, (named id session).2.1.trans created, rest⟩
    rw [sessions, found, Option.map_some]
  refine ⟨⟨fun id session found => ?_, fun id session found => ?_, fun id limit found => ?_,
    fun id session other another found foundOther isOpen isOpenOther same => ?_, sound.found,
    sound.accepted⟩, grows⟩
  · rw [sessions] at found
    obtain ⟨stored, was, rfl⟩ := Option.map_eq_some_iff.mp found
    rw [(named id stored).2.1]
    exact grows.within _ _ _ (within id stored was)
  · rw [sessions] at found
    obtain ⟨stored, was, rfl⟩ := Option.map_eq_some_iff.mp found
    rw [nextID, (named id stored).1]
    exact sound.keyed id stored was
  · rw [Store.maxDays, settings]
    exact sound.inForce id limit found
  · rw [sessions] at found foundOther
    obtain ⟨stored, was, rfl⟩ := Option.map_eq_some_iff.mp found
    obtain ⟨storedOther, wasOther, rfl⟩ := Option.map_eq_some_iff.mp foundOther
    refine sound.single id stored other storedOther was wasOther ((named id stored).2.2.2 isOpen)
      ((named other storedOther).2.2.2 isOpenOther) ?_
    rw [← (named id stored).2.2.1, same, (named other storedOther).2.2.1]

/-- Another maximum is in force, and the limits rise to it. -/
theorem Sound.raise (days : Int) (now : after.now = store.now)
    (sessions : after.sessions = store.sessions) (nextID : after.nextID = store.nextID)
    (settings : after.maxDays config ≤ max (store.maxDays config) days) :
    Keeps config store record after (record.raise days) := by
  have limits (id : Int) : (record.raise days).limits.lookup id =
      (record.limits.lookup id).map fun limit => max limit days :=
    Table.lookup_mapValues record.limits (fun _ limit => max limit days) id
  have grows : Grows store record after (record.raise days) := by
    refine ⟨now.ge,
      fun id createdAt expiresAt ⟨session, limit, found, limited, created, rest⟩ => ?_⟩
    refine ⟨session, max limit days, sessions ▸ found, ?_, created, ?_⟩
    · rw [limits, limited, Option.map_some]
    · omega
  refine ⟨⟨fun id session found => ?_, fun id session found => ?_, fun id limit found => ?_,
    fun id session other another found => ?_, sound.found, sound.accepted⟩, grows⟩
  · exact grows.within _ _ _ (sound.within id session (sessions ▸ found))
  · rw [nextID]
    exact sound.keyed id session (sessions ▸ found)
  · rw [limits] at found
    obtain ⟨limit, was, rfl⟩ := Option.map_eq_some_iff.mp found
    have := sound.inForce id limit was
    omega
  · rw [sessions] at found ⊢
    exact sound.single id session other another found

/-- A session that is created in order. -/
theorem Sound.create (session : ClientSession)
    (known : Known thread store record (.exec (.createClientSession session)))
    (orderly : CallOrderly config thread store record (.exec (.createClientSession session))) :
    Keeps config store record
      { store with
        sessions := store.sessions.insert store.nextID (store.created session)
        nextID := store.nextID + 1 }
      { record with limits := record.limits.insert store.nextID (store.maxDays config) } := by
  obtain ⟨days, read, bounded⟩ := known
  obtain ⟨maximum, closed⟩ := orderly
  have atMost := maximum days read
  have fresh (id : Int) (stored : ClientSession) (found : store.sessions.lookup id = some stored) :
      id ≠ store.nextID := ((sound.keyed id stored found).2).ne
  have alone (id : Int) (stored : ClientSession) (found : store.sessions.lookup id = some stored)
      (isOpen : stored.revoked = false) : stored.owner ≠ session.owner := by
    intro same
    have entry := List.any_eq_false.mp closed _ (Table.mem_entries_iff.mpr found)
    rw [isOpen, ClientSession.isFor_iff.mpr same] at entry
    exact entry rfl
  have grows : Grows store record
      { store with
        sessions := store.sessions.insert store.nextID (store.created session)
        nextID := store.nextID + 1 }
      { record with limits := record.limits.insert store.nextID (store.maxDays config) } := by
    refine ⟨le_refl _, fun id createdAt expiresAt ⟨stored, limit, found, limited, rest⟩ => ?_⟩
    refine ⟨stored, limit, ?_, ?_, rest⟩
    · exact Table.lookup_insert_iff.mpr (.inr ⟨fresh id stored found, found⟩)
    · exact Table.lookup_insert_iff.mpr (.inr ⟨fresh id stored found, limited⟩)
  refine ⟨⟨fun id stored found => ?_, fun id stored found => ?_, fun id limit found => ?_,
    fun id stored other another found foundOther isOpen isOpenOther same => ?_, sound.found,
    sound.accepted⟩, grows⟩
  · rcases Table.lookup_insert_iff.mp found with ⟨rfl, rfl⟩ | ⟨_, older⟩
    · refine ⟨store.created session, store.maxDays config, found, AList.lookup_insert _, rfl, ?_⟩
      have created : (store.created session).createdAt = store.seconds := rfl
      have expires : (store.created session).expiresAt = session.expiresAt := rfl
      rw [created, expires]
      omega
    · exact grows.within _ _ _ (sound.within id stored older)
  · rcases Table.lookup_insert_iff.mp found with ⟨rfl, rfl⟩ | ⟨_, older⟩
    · exact ⟨rfl, Int.lt_succ _⟩
    · exact ⟨(sound.keyed id stored older).1,
        Int.lt_add_one_of_le (sound.keyed id stored older).2.le⟩
  · rcases Table.lookup_insert_iff.mp found with ⟨_, rfl⟩ | ⟨_, older⟩
    · exact le_refl _
    · exact sound.inForce id limit older
  · rcases Table.lookup_insert_iff.mp found with ⟨rfl, rfl⟩ | ⟨_, older⟩
    · rcases Table.lookup_insert_iff.mp foundOther with ⟨rfl, _⟩ | ⟨_, olderOther⟩
      · rfl
      · exact absurd same.symm (alone other another olderOther isOpenOther)
    · rcases Table.lookup_insert_iff.mp foundOther with ⟨rfl, rfl⟩ | ⟨_, olderOther⟩
      · exact absurd same (alone id stored older isOpen)
      · exact sound.single id stored other another older olderOther isOpen isOpenOther same

/-- A session that the table of active ones answers with. -/
theorem Sound.active {tokenHash : String} (found : store.active tokenHash = some session) :
    Within store record session.id session.createdAt session.expiresAt ∧
      store.seconds < session.expiresAt := by
  unfold Store.active at found
  obtain ⟨⟨id, stored⟩, entry, rfl⟩ := Option.map_eq_some_iff.mp found
  have member := Table.mem_entries_iff.mp (List.mem_of_find?_eq_some entry)
  have tested := List.find?_some entry
  rw [Bool.and_eq_true, decide_eq_true_eq] at tested
  rw [(sound.keyed id stored member).1]
  exact ⟨sound.within id stored member, tested.2⟩

/-- A session that is read before it expires is read in time. -/
theorem Sound.timely {tokenHash : String} (found : store.active tokenHash = some session) :
    Acceptance.Timely
      ⟨session.createdAt, store.now, (record.limits.lookup session.id).getD 0⟩ := by
  obtain ⟨⟨_, limit, _, limited, _, bounded⟩, unexpired⟩ := sound.active found
  rw [limited, Option.getD_some]
  have seconds : store.seconds < session.createdAt + limit * 86400 := unexpired.trans_le bounded
  have nanoseconds := (Int.ediv_lt_iff_lt_mul (by decide : 0 < second)).mp seconds
  exact nanoseconds.le

/-- Remembering the session that a thread has found. -/
theorem Sound.find (thread : Nat) {acceptance : Acceptance} (timely : acceptance.Timely) :
    Keeps config store record store
      { record with found := record.found.insert thread acceptance } := by
  refine ⟨{ sound with found := fun other held lookup => ?_ },
    le_refl _, fun _ _ _ within => within⟩
  rcases Table.lookup_insert_iff.mp lookup with ⟨_, rfl⟩ | ⟨_, older⟩
  · exact timely
  · exact sound.found other held older

theorem Sound.revoke (chosen : ClientSession → Bool) :
    Keeps config store record (store.revokeWhere chosen) record := by
  refine sound.rewrite _ rfl (fun id => Table.lookup_mapValues _ _ id) rfl rfl
    (fun id session => ?_) fun id session found => ?_
  · split
    · exact ⟨rfl, rfl, rfl, fun isOpen => absurd isOpen Bool.true_eq_false.mp⟩
    · exact ⟨rfl, rfl, rfl, fun isOpen => isOpen⟩
  · split
    · exact sound.within id session found
    · exact sound.within id session found

theorem Sound.statement {statement : Statement} {fresh : Bool}
    (known : Known thread store record (.exec statement))
    (orderly : CallOrderly config thread store record (.exec statement))
    (performed : Call.perform (.exec statement) store = some (fresh, after)) :
    Keeps config store record after
      (record.note config thread store (.exec statement) (some fresh)) := by
  rw [Call.perform] at performed
  split at performed
  · obtain ⟨changed, ran, same⟩ := Option.map_eq_some_iff.mp performed
    obtain ⟨rfl, rfl⟩ := Prod.mk.inj same
    cases statement with
    | revokeClientSessionsForDevice userID clientID clientUUID =>
      cases ran
      exact sound.revoke _
    | createClientSession session =>
      rw [Statement.perform] at ran
      split at ran
      · cases ran
      · cases ran
        exact sound.create session known orderly
  · obtain ⟨rfl, rfl⟩ := Prod.mk.inj (Option.some.inj performed)
    cases statement with
    | revokeClientSessionsForDevice _ _ _ => exact Keeps.refl sound
    | createClientSession _ => exact Keeps.refl sound

/-- Reading a setting raises the limits to the maximum that is read, or remembers the expiry. -/
theorem Sound.read (thread : Nat) (key : String) (answer : Option String) :
    Keeps config store record store
      (record.note config thread store (.getConfig key) answer) := by
  unfold Record.note
  dsimp only
  split
  · exact sound.raise _ rfl rfl rfl (le_max_left _ _)
  · split
    · exact ⟨{ sound with }, le_refl _, fun _ _ _ within => within⟩
    · exact Keeps.refl sound

theorem Sound.touch {id createdAt expiresAt : Int}
    (lastUsed : Int) (within : Within store record id createdAt expiresAt) :
    Keeps config store record
      { store with
        sessions := store.sessions.update id fun session =>
          if session.revoked then session else { session with expiresAt, lastUsed } }
      record := by
  let touched (other : Int) (session : ClientSession) : ClientSession :=
    if other = id then
      if session.revoked then session else { session with expiresAt, lastUsed }
    else session
  refine sound.rewrite touched rfl (fun other => ?_) rfl rfl (fun other session => ?_)
    fun other session found => ?_
  · dsimp only
    rw [Table.lookup_update]
    by_cases same : other = id
    · subst same
      rw [if_pos rfl]
      simp only [touched, if_true]
    · rw [if_neg same]
      simp only [touched, if_neg same, Option.map_id']
  · simp only [touched]
    split
    · split
      · exact ⟨rfl, rfl, rfl, fun isOpen => isOpen⟩
      · exact ⟨rfl, rfl, rfl, fun isOpen => isOpen⟩
    · exact ⟨rfl, rfl, rfl, fun isOpen => isOpen⟩
  · simp only [touched]
    split
    · next same =>
      subst same
      split
      · exact sound.within other session found
      · obtain ⟨stored, limit, was, limited, created, bounded⟩ := within
        cases was.symm.trans found
        exact ⟨session, limit, found, limited, rfl, created ▸ bounded⟩
    · exact sound.within other session found

/-- What a call that is performed keeps. -/
theorem Sound.perform {answer : call.Answer}
    (known : Known thread store record call) (orderly : CallOrderly config thread store record call)
    (performed : call.perform store = some (answer, after)) :
    Keeps config store record after (record.note config thread store call (some answer)) := by
  cases call with
  | exec statement => exact sound.statement known orderly performed
  | ensureClientSessionsSchema =>
    cases performed
    exact sound.same (le_refl _) rfl rfl rfl
  | getClientSessionByTokenHash tokenHash =>
    rw [Call.perform] at performed
    split at performed
    · cases performed
      cases found : store.active tokenHash with
      | none => exact Keeps.refl sound
      | some session => exact sound.find thread (sound.timely found)
    · cases performed
  | getUserByID id =>
    cases performed
    exact Keeps.refl sound
  | touchClientSession id expiresAt lastUsed =>
    cases performed
    obtain ⟨createdAt, within⟩ := known
    exact sound.touch lastUsed within
  | revokeClientSessionByTokenHash tokenHash =>
    cases performed
    exact sound.revoke _
  | getConfig key =>
    cases performed
    exact sound.read thread key _
  | setConfig key value =>
    cases performed
    unfold Record.note
    dsimp only
    split
    · next isMax =>
      refine sound.raise _ rfl rfl rfl (le_max_of_le_right (le_of_eq ?_))
      rw [Store.maxDays, isMax, AList.lookup_insert, Option.getD_some]
    · next other =>
      refine sound.same (le_refl _) rfl rfl ?_
      rw [Store.maxDays, AList.lookup_insert_ne (Ne.symm other), Store.maxDays]
  | clock =>
    cases performed
    exact Keeps.refl sound
  | advance elapsed =>
    cases performed
    exact sound.same (Int.le_add_of_nonneg_right (Int.natCast_nonneg _)) rfl rfl rfl

theorem Sound.called {answer : Option call.Answer} (known : Known thread store record call)
    (orderly : fails = false → CallOrderly config thread store record call)
    (attempted : database.attempt fails call store = (answer, after)) :
    Keeps config store record after (record.note config thread store call answer) := by
  rcases Interface.attempt_cases attempted with ⟨rfl, rfl⟩ | ⟨reply, undisturbed, performed, rfl⟩
  · cases call with
    | getConfig key => exact sound.read thread key none
    | exec statement =>
      cases statement with
      | revokeClientSessionsForDevice _ _ _ => exact Keeps.refl sound
      | createClientSession _ => exact Keeps.refl sound
    | ensureClientSessionsSchema => exact Keeps.refl sound
    | getClientSessionByTokenHash _ => exact Keeps.refl sound
    | getUserByID _ => exact Keeps.refl sound
    | touchClientSession _ _ _ => exact Keeps.refl sound
    | revokeClientSessionByTokenHash _ => exact Keeps.refl sound
    | setConfig _ _ => exact Keeps.refl sound
    | clock => exact Keeps.refl sound
    | advance _ => exact Keeps.refl sound
  · exact sound.perform known (orderly undisturbed) performed

end

/-- A call notes nothing of other threads. -/
theorem days_note {other : Nat} (different : other ≠ thread) (call : Call)
    (answer : Option call.Answer) :
    (record.note config thread store call answer).days.lookup other =
      record.days.lookup other := by
  unfold Record.note
  split
  · rfl
  · split
    · rfl
    · rfl
  · split
    · rfl
    · split
      · exact AList.lookup_insert_ne different
      · rfl
  · rfl
  · rfl

end kept

/-! ### The requests among others -/

section among

variable {config : Config} {hashClientToken : String → String} {store after : Store}
  {record noted : Record} {thread : Nat} {request : Request}

/-- What the guard asks of a call. -/
def allowedCall (config : Config) (thread : Nat) (_ : Request) (call : Call) (fails : Bool)
    (store : Store) (record : Record) : Prop :=
  fails = false → CallOrderly config thread store record call

/-- Every step of a program keeps what holds of the table and the record, whatever the others do in
between. -/
structure Fair (config : Config) (thread : Nat) (request : Request) (store : Store)
    (record : Record) (program : Program database Result) : Prop where
  among : program.Among (watching config) (allowedCall config) (Sound config) growing thread
    request store record

theorem fair_done (result : Result) :
    Fair config thread request store record (.done result) := by
  refine ⟨fun store record _ sound => ?_⟩
  have among : Sound config store (record.finish thread result) ∧
      Grows store record store (record.finish thread result) ∧
      (record.finish thread result).days = record.days := by
    have accepts : ∀ acceptance ∈ (record.found.lookup thread).toList ++ record.accepted,
        acceptance.Timely := by
      intro acceptance member
      rcases List.mem_append.mp member with found | older
      · exact sound.found thread acceptance (Option.mem_toList.mp found)
      · exact sound.accepted acceptance older
    cases result with
    | authenticated _ _ =>
      exact ⟨{ sound with accepted := accepts }, ⟨le_refl _, fun _ _ _ within => within⟩, rfl⟩
    | recognized _ =>
      exact ⟨{ sound with accepted := accepts }, ⟨le_refl _, fun _ _ _ within => within⟩, rfl⟩
    | issued _ => exact ⟨sound, Grows.refl store record, rfl⟩
    | notIssued => exact ⟨sound, Grows.refl store record, rfl⟩
    | rejected => exact ⟨sound, Grows.refl store record, rfl⟩
    | done => exact ⟨sound, Grows.refl store record, rfl⟩
  obtain ⟨kept, grows, days⟩ := among
  exact ⟨kept, fun other _ => ⟨grows, congrArg (AList.lookup other) days⟩⟩

/-- A call whose program is fair wherever the call leaves it. -/
theorem fair_call {next : Option call.Answer → Program database Result}
    (known : Known thread store record call)
    (rest : ∀ before old, growing.allows thread store record before old → Sound config before old →
      ∀ fails answer after, database.attempt fails call before = (answer, after) →
      Keeps config before old after (old.note config thread before call answer) →
      Fair config thread request after (old.note config thread before call answer)
        (next answer)) :
    Fair config thread request store record (.call call next) := by
  refine ⟨fun before old later sound fails orderly answer after attempted => ?_⟩
  have keeps := sound.called (known.later later.1 later.2) orderly attempted
  exact ⟨⟨keeps.sound, fun other different =>
      ⟨keeps.grows, days_note different call answer⟩⟩,
    (rest before old later sound fails answer after attempted keeps).among⟩

/-- A call whose program is fair everywhere. -/
theorem fair_free {next : Option call.Answer → Program database Result}
    (known : Known thread store record call)
    (rest : ∀ after noted answer, Fair config thread request after noted (next answer)) :
    Fair config thread request store record (.call call next) :=
  fair_call known fun _ _ _ _ _ _ _ _ _ => rest _ _ _

/-- A statement that misses the table changes nothing. -/
theorem eq_of_missing {statement : Statement}
    (attempted : database.attempt fails (.exec statement) store = (some false, after)) :
    after = store := by
  rcases Interface.attempt_cases attempted with ⟨missing, _⟩ | ⟨reply, _, performed, same⟩
  · cases missing
  · cases same
    have performed : Call.perform (.exec statement) store = some (false, after) := performed
    rw [Call.perform] at performed
    split at performed
    · obtain ⟨_, _, isTrue⟩ := Option.map_eq_some_iff.mp performed
      cases isTrue
    · cases performed
      rfl

theorem fair_execRetrying {statement : Statement} {rest : Program database Result}
    (known : Known thread store record (.exec statement))
    (fair : ∀ after noted, Fair config thread request after noted rest) :
    Fair config thread request store record (execRetrying statement rest) := by
  refine fair_call known fun before old later _ fails answer after attempted _ => ?_
  cases answer with
  | none => exact fair_done _
  | some present =>
    cases present with
    | true => exact fair _ _
    | false =>
      have known := known.later later.1 later.2
      have unnoted : old.note config thread before (.exec statement) (some false) = old := by
        cases statement with
        | revokeClientSessionsForDevice _ _ _ => rfl
        | createClientSession _ => rfl
      rw [eq_of_missing attempted, unnoted]
      refine fair_call trivial fun first earlier later _ fails answer after attempted keeps => ?_
      cases answer with
      | none => exact fair_done _
      | some created =>
        refine fair_free ?_ fun after noted answer => ?_
        · exact (known.later later.1 later.2).later keeps.grows rfl
        · cases answer with
          | none => exact fair_done _
          | some present =>
            cases present with
            | true => exact fair _ _
            | false => exact fair_done _

theorem keyDuration_le {days : Int} (positive : 0 < days) :
    keyDuration days ≤ days * 86400 * second := by
  rw [keyDuration_eq, wrap64, Int.mul_assoc]
  have nonneg : 0 ≤ days * (86400 * second) := by
    unfold second
    omega
  generalize days * (86400 * second) = duration at nonneg ⊢
  have atMost := Int.bmod_le (x := duration) (m := 2 ^ 64) (by decide)
  by_cases small : duration < 2 ^ 63
  · rw [Int.bmod_eq_of_le (by omega) (by omega)]
  · omega

theorem daysSetting_pos {ofProcess default : Int} (positive : 0 < default)
    (stored : Option String) : 0 < daysSetting ofProcess default stored := by
  unfold daysSetting
  split
  · next n chosen =>
    have inRange := (Option.filter_eq_some_iff.mp chosen).2
    rw [decide_eq_true_eq] at inRange
    exact inRange.1
  · split
    · next isPositive => exact isPositive
    · exact positive

theorem issuedExpiry_le (now : Int) (stored : Option String) :
    issuedExpiry config now stored ≤
      now / second + clientSessionExpiryDays config stored * 86400 := by
  unfold issuedExpiry
  have duration : keyDuration (clientSessionExpiryDays config stored) ≤
      clientSessionExpiryDays config stored * 86400 * second :=
    keyDuration_le (daysSetting_pos (by decide) stored)
  refine (Int.ediv_le_ediv (by decide) (Int.add_le_add_left duration now)).trans_eq ?_
  exact Int.add_mul_ediv_right _ _ (by decide)

theorem slidingExpiry_le (session : ClientSession) (now : Int)
    (maxDays expiryDays : Option String) :
    slidingExpiry config session now maxDays expiryDays ≤
      session.createdAt + clientSessionMaxDays config maxDays * 86400 := by
  unfold slidingExpiry
  have duration : keyDuration (clientSessionMaxDays config maxDays) ≤
      clientSessionMaxDays config maxDays * 86400 * second :=
    keyDuration_le (daysSetting_pos (by decide) maxDays)
  have atMost : min (now + keyDuration (clientSessionExpiryDays config expiryDays))
      (session.createdAt * second + keyDuration (clientSessionMaxDays config maxDays)) ≤
      (session.createdAt + clientSessionMaxDays config maxDays * 86400) * second := by
    rw [Int.add_mul]
    omega
  refine (Int.ediv_le_ediv (by decide) atMost).trans_eq ?_
  exact Int.mul_ediv_cancel _ (by decide)

theorem fair_touching (user : User) {expiresAt : Int} (now : Int)
    (within : Within store record session.id session.createdAt expiresAt) :
    Fair config thread request store record (touching session user expiresAt now) :=
  fair_free ⟨session.createdAt, within⟩ fun _ _ _ => fair_done _

theorem eq_of_getConfig {key : String} {answer : Option String}
    (attempted : database.attempt fails (.getConfig key) store = (answer, after)) :
    after = store := by
  rcases Interface.attempt_cases attempted with ⟨_, same⟩ | ⟨reply, _, performed, _⟩
  · exact same
  · cases performed
    rfl

theorem note_maxDays (answer : Option String) :
    record.note config thread store (.getConfig configClientSessionMaxDays) answer =
      record.raise (clientSessionMaxDays config answer) := by
  unfold Record.note
  exact if_pos rfl

theorem note_expiryDays (answer : Option String) :
    record.note config thread store (.getConfig configClientSessionExpiryDays) answer =
      { record with
        days := record.days.insert thread (clientSessionExpiryDays config answer) } := by
  unfold Record.note
  exact (if_neg (by decide)).trans (if_pos rfl)

/-- The maximum that is read is within the limit afterwards. -/
theorem fair_extending (user : User) (now : Int)
    (within : Within store record session.id session.createdAt session.expiresAt) :
    Fair config thread request store record (extending config session user now) := by
  refine fair_call trivial fun before old later _ fails maxDays after attempted keeps => ?_
  obtain ⟨stored, limit, found, limited, created, _⟩ := later.1.within _ _ _ within
  have raised : Within before (old.raise (clientSessionMaxDays config maxDays)) session.id
      session.createdAt (session.createdAt + clientSessionMaxDays config maxDays * 86400) := by
    refine ⟨stored, max limit (clientSessionMaxDays config maxDays), found, ?_, created, ?_⟩
    · rw [Record.raise, Table.lookup_mapValues, limited, Option.map_some]
    · omega
  rw [eq_of_getConfig attempted, note_maxDays]
  refine fair_call trivial fun next later further _ fails expiryDays after attempted keeps => ?_
  refine fair_touching user now ?_
  obtain ⟨stored, limit, found, limited, created, bounded⟩ :=
    keeps.grows.within _ _ _ (further.1.within _ _ _ raised)
  exact ⟨stored, limit, found, limited, created,
    (slidingExpiry_le session now maxDays expiryDays).trans bounded⟩

theorem fair_timing (user : User) (sliding : Bool)
    (within : Within store record session.id session.createdAt session.expiresAt) :
    Fair config thread request store record (timing config session user sliding) := by
  refine fair_call trivial fun before old later _ fails now after attempted keeps => ?_
  have within := keeps.grows.within _ _ _ (later.1.within _ _ _ within)
  cases now with
  | none => exact fair_done _
  | some now =>
    rw [Option.elim_some]
    split
    · exact fair_extending user now within
    · exact fair_touching user now within

theorem fair_identifying
    (within : Within store record session.id session.createdAt session.expiresAt) :
    Fair config thread request store record (identifying config session) := by
  refine fair_call trivial fun before old later _ fails answer after attempted keeps => ?_
  have within := keeps.grows.within _ _ _ (later.1.within _ _ _ within)
  cases answer with
  | none => exact fair_done _
  | some row =>
    cases row with
    | none => exact fair_done _
    | some user =>
      refine fair_call trivial fun before old later _ fails stored after attempted keeps => ?_
      exact fair_timing user _ (keeps.grows.within _ _ _ (later.1.within _ _ _ within))

theorem fair_authenticateClientSession (token : String) :
    Fair config thread request store record
      (authenticateClientSession config hashClientToken token) := by
  unfold authenticateClientSession
  split
  · refine fair_call trivial fun before old later sound fails answer after attempted keeps => ?_
    rcases Interface.attempt_cases attempted with ⟨rfl, _⟩ | ⟨reply, _, performed, rfl⟩
    · exact fair_done _
    · have performed : Call.perform (.getClientSessionByTokenHash (hashClientToken token)) before =
        some (reply, after) := performed
      rw [Call.perform] at performed
      split at performed
      · cases performed
        cases found : before.active (hashClientToken token) with
        | none => exact fair_done _
        | some session =>
          rw [found] at keeps
          exact fair_identifying (keeps.grows.within _ _ _ (sound.active found).1)
      · cases performed
  · exact fair_done _

theorem fair_authorizeViaClientToken (token : String) :
    Fair config thread request store record (authorizeViaClientToken hashClientToken token) := by
  unfold authorizeViaClientToken
  split
  · refine fair_free trivial fun after noted answer => ?_
    cases answer with
    | none => exact fair_done _
    | some row =>
      cases row with
      | none => exact fair_done _
      | some session => exact fair_done _
  · exact fair_done _

/-- A login knows the days that it has read when it creates its session. -/
theorem fair_creating (userID : Int) (clientID clientUUID clientIP plainToken : String) {now : Int}
    (past : now ≤ store.now) :
    Fair config thread request store record
      (creating config hashClientToken userID clientID clientUUID clientIP plainToken now) := by
  refine fair_call trivial fun before old later _ fails stored after attempted keeps => ?_
  have past := (past.trans later.1.now).trans keeps.grows.now
  rw [note_expiryDays]
  refine fair_execRetrying ⟨clientSessionExpiryDays config stored, ?_, ?_⟩ fun _ _ => fair_done _
  · exact AList.lookup_insert _
  · have seconds : now / second ≤ after.seconds := Int.ediv_le_ediv (by decide) past
    have issued : issuedExpiry config now stored ≤
        now / second + clientSessionExpiryDays config stored * 86400 :=
      issuedExpiry_le now stored
    dsimp only
    omega

theorem fair_issueClientSession (userID : Int) (clientID clientUUID clientIP : String)
    (plainToken : Option String) :
    Fair config thread request store record
      (issueClientSession config hashClientToken userID clientID clientUUID clientIP
        plainToken) := by
  unfold issueClientSession
  split
  · exact fair_done _
  · refine fair_execRetrying trivial fun after noted => ?_
    cases plainToken with
    | none => exact fair_done _
    | some plainToken =>
      refine fair_call trivial fun before old later _ fails answer after attempted keeps => ?_
      rcases Interface.attempt_cases attempted with ⟨rfl, _⟩ | ⟨now, _, performed, rfl⟩
      · exact fair_done _
      · cases performed
        exact fair_creating userID clientID clientUUID clientIP plainToken (le_refl _)

theorem fair_handle (request : Request) :
    Fair config thread request store record (handle config hashClientToken request) := by
  cases request with
  | login userID clientID clientUUID clientIP plainToken =>
    exact fair_issueClientSession userID clientID clientUUID clientIP plainToken
  | authenticate token => exact fair_authenticateClientSession token
  | connect token => exact fair_authorizeViaClientToken token
  | logout token =>
    unfold handle revokeClientSessionToken
    dsimp only
    split
    · exact fair_free trivial fun _ _ _ => fair_done _
    · exact fair_done _
  | setConfig key value => exact fair_free trivial fun _ _ _ => fair_done _
  | advance elapsed => exact fair_free trivial fun _ _ _ => fair_done _

end among

theorem sound_of_orderly {config : Config} {hashClientToken : String → String} {pool : Sessions}
    (reached : ReachableWhen (serving config hashClientToken) (Orderly config) pool) :
    Sound config pool.store pool.ghost := by
  have obligations : Obligations (handle config hashClientToken) (watching config)
      (Orderly config) (Sound config) fun store record thread request program =>
        program.Among (watching config) (allowedCall config) (Sound config) growing thread request
          store record :=
    Rely.obligations
      (fun store record thread request sound =>
        ⟨⟨sound, fun _ _ => growing.refl _ _ _⟩, (fair_handle request).among⟩)
      fun pool thread fails request call orderly isNext undisturbed =>
        orderly undisturbed (request, call) isNext
  have guarded := reached.of_restrict.mono fun _ _ both => both.1
  refine (obligations.invariant (fun store record ⟨empty, unused⟩ => ?_) guarded).1
  subst unused
  have none (id : Int) (session : ClientSession) : store.sessions.lookup id ≠ some session := by
    rw [empty]
    exact Option.some_ne_none session ∘ Eq.symm
  exact
    { within := fun id session found => absurd found (none id session)
      keyed := fun id session found => absurd found (none id session)
      inForce := fun id limit found => by cases found
      single := fun id session _ _ found => absurd found (none id session)
      found := fun thread acceptance found => by cases found
      accepted := fun acceptance member => absurd member List.not_mem_nil }

/-- While every login creates its session for at most the maximum in force, and beside no other
open session of the user and the client, no session is accepted after its limit and at most one
of a user on a client is open. -/
theorem limited_of_orderly (config : Config) (hashClientToken : String → String) (pool : Sessions)
    (reached : ReachableWhen (serving config hashClientToken) (Orderly config) pool) :
    Limited pool := by
  have sound := sound_of_orderly reached
  refine ⟨sound.accepted, fun userID clientID clientUUID _ id session other another found foundOther
    isOpen isOpenOther isFor isForOther => ?_⟩
  refine sound.single id session other another found foundOther isOpen isOpenOther ?_
  rw [ClientSession.isFor_iff.mp isFor, ClientSession.isFor_iff.mp isForOther]

/-! ### Two logins at once -/

/-- A token of 64 letters. -/
def letters (letter : Char) : String := String.ofList (List.replicate 64 letter)

/-- A user, and no session. -/
def oneUser : Sessions where
  store :=
    { now := 0, hasSessions := true, sessions := ∅, nextID := 1
      users := AList.insert 1 ⟨"ann", "viewer"⟩ ∅, serverConfig := ∅ }
  running := ∅
  ghost := {}

def login (letter : Char) : Request := .login 1 "id" "uuid" "10.0.0.1" (some (letters letter))

def turns (thread count : Nat) : List (Label Request) := List.replicate count (.turn thread false)

def days (count : Nat) : Nat := count * 86400 * 1000000000

/-- Two logins, each of which revokes before the other creates, and a request after a time. -/
def race (passed : Nat) : List (Label Request) :=
  [.begin 0 (login 'a'), .begin 1 (login 'b')] ++ turns 0 1 ++ turns 1 1 ++ turns 0 3 ++
    turns 1 3 ++ [.begin 2 (.advance passed)] ++ turns 2 1 ++
    [.begin 3 (.authenticate (letters 'a'))] ++ turns 3 7

theorem oneUser_start (config : Config) :
    (serving config fun token => token).start oneUser := ⟨rfl, rfl, rfl⟩

/-- The two open sessions of the user on the client. -/
def bothOpen (pool : Sessions) : Bool :=
  [1, 2].all fun id => (pool.store.sessions.lookup id).any fun session =>
    !session.revoked && session.isFor 1 "id" "uuid"

/-- With an expiry of 60 days and a maximum of 30, two logins at once leave two open sessions, and
one of them is accepted after 45 days. -/
theorem race_unlimited : ∃ pool, Reachable (serving ⟨60, true, 30⟩ fun token => token) pool ∧
    pool.running.entries = [] ∧ bothOpen pool = true ∧
    (∃ acceptance ∈ pool.ghost.accepted, ¬ acceptance.Timely) ∧ ¬ Limited pool := by
  have ran : ((serving ⟨60, true, 30⟩ fun token => token).run oneUser (race (days 45))).any
      (fun pool => pool.running.entries.isEmpty && bothOpen pool &&
        pool.ghost.accepted.any fun acceptance => decide ¬ acceptance.Timely) = true := by
    decide +kernel
  obtain ⟨pool, reached, ended⟩ := exists_reachable_of_run (oneUser_start _) ran
  rw [Bool.and_eq_true, Bool.and_eq_true, List.isEmpty_iff, List.any_eq_true] at ended
  obtain ⟨⟨idle, isOpen⟩, acceptance, member, late⟩ := ended
  have late := of_decide_eq_true late
  exact ⟨pool, reached, idle, isOpen, ⟨acceptance, member, late⟩, fun limited =>
    late (limited.accepted acceptance member)⟩

/-- With the settings as they come, a session is accepted a day after its login. -/
theorem limited_nextDay : ∃ pool, Limited pool ∧ pool.ghost.accepted ≠ [] := by
  have ran : ((serving ⟨7, true, 30⟩ fun token => token).runWhen (Orderly ⟨7, true, 30⟩) oneUser
      ([.begin 0 (login 'a')] ++ turns 0 4 ++ [.begin 1 (.advance (days 1))] ++ turns 1 1 ++
        [.begin 2 (.authenticate (letters 'a'))] ++ turns 2 7)).any
      (fun pool => !pool.ghost.accepted.isEmpty) = true := by
    decide +kernel
  obtain ⟨pool, reached, ended⟩ := exists_reachableWhen_of_runWhen (oneUser_start _) ran
  rw [Bool.not_eq_true', List.isEmpty_eq_false_iff] at ended
  exact ⟨pool, limited_of_orderly ⟨7, true, 30⟩ (fun token => token) pool reached, ended⟩

end SovaDesk.Api.ClientSessions
