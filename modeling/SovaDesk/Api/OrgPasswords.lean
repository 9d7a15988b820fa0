/-
This file settles when the password change of an organization's user takes effect.

The handler hashes a new password and writes the user a second time, but the statement that
updates a user has no column for the hash, so the password stays the one that the user was
created with. The login accepts the password that was given last exactly in the runs in
which every successful update that carries a password carries the one the user has already.

The observer keeps the password given last for each user. bcrypt is ideal: a hash compares
equal to the password it was made from and to no other.
-/

import SovaDesk.Api.OrgAdministration
import SovaDesk.Api.OrgScope
import SovaDesk.Lib.System

namespace SovaDesk.Api

open Auth Transition

/-! ### Requests -/

/-- bcrypt, with the salt of a hash as a parameter; it may refuse a password. -/
structure Bcrypt where
  generate : String → String → Option String
  compare : String → String → Bool
  ideal : ∀ salt password hash, generate salt password = some hash →
    ∀ other, compare hash other = true ↔ other = password

/-- The users of organizations, and the password given last for each. -/
structure Passwords where
  store : Store
  latest : Table String String

inductive PasswordRequest
  | create (salt newID : String) (now : Int) (context : Context) (orgID : String)
      (body : Option CreateOrgUserBody)
  | update (salt newID : String) (now : Int) (context : Context) (uid : String)
      (body : Option UpdateOrgUserBody)
  | login (now : Int) (jti : String) (allowed : Bool) (body : Option OrgLoginBody)

/-- The password given by a creation that succeeds. -/
def noteCreated (reply : Except (Nat × String) OrgUser) (body : Option CreateOrgUserBody)
    (latest : Table String String) : Table String String :=
  match reply, body with
  | .ok user, some given => latest.insert user.id given.password
  | _, _ => latest

/-- The password given by an update that succeeds, if it carries one. -/
def noteUpdated (reply : Except (Nat × String) OrgUser) (uid : String)
    (body : Option UpdateOrgUserBody) (latest : Table String String) : Table String String :=
  match reply, (body.bind (·.password)).filter (· ≠ "") with
  | .ok _, some password => latest.insert uid password
  | _, _ => latest

def Passwords.step (server : Server) (bcrypt : Bcrypt) (s : Passwords) :
    PasswordRequest → Option Passwords
  | .create salt newID now context orgID body =>
    let result := handleCreateOrgUser ⟨bcrypt.generate salt, newID, now⟩ context orgID body s.store
    some ⟨result.2, noteCreated result.1 body s.latest⟩
  | .update salt newID now context uid body =>
    let result := handleUpdateOrgUser ⟨bcrypt.generate salt, newID, now⟩ context uid body s.store
    some ⟨result.2, noteUpdated result.1 uid body s.latest⟩
  | .login now jti allowed body =>
    some { s with store := (handleOrgLogin server bcrypt.compare now jti allowed body s.store).2 }

/-- Rows are kept under their id, and an organization has a name only once. -/
structure Store.WellFormed (store : Store) : Prop where
  keyed : store.Keyed
  unique : ∀ id other user namesake, store.getOrgUser id = some user →
    store.getOrgUser other = some namesake → user.orgID = namesake.orgID →
      user.username = namesake.username → id = other

/-- Runs from any users, of whose passwords nothing is known. -/
def orgPasswords (server : Server) (bcrypt : Bcrypt) : System Passwords PasswordRequest where
  start s := s.store.WellFormed ∧ s.latest = ∅
  step := Passwords.step server bcrypt

/-! ### The property -/

/-- A login names a user, by the organization's id or slug and the name. -/
def NamesUser (store : Store) (body : OrgLoginBody) (user : OrgUser) : Prop :=
  resolveLoginOrg store body = .ok user.orgID ∧ trimSpace body.username = user.username ∧
    user.username ≠ ""

/-- The login answers with a token. -/
def Accepts (server : Server) (bcrypt : Bcrypt) (store : Store) (now : Int) (jti : String)
    (body : OrgLoginBody) : Prop :=
  (handleOrgLogin server bcrypt.compare now jti true (some body) store).1.toOption.isSome = true

instance (server : Server) (bcrypt : Bcrypt) (store : Store) (now : Int) (jti : String)
    (body : OrgLoginBody) : Decidable (Accepts server bcrypt store now jti body) :=
  instDecidableEqBool _ true

/-- A login that names a user is accepted exactly with the password given last. -/
def LoginTakesLatest (server : Server) (bcrypt : Bcrypt) (s : Passwords) : Prop :=
  ∀ id user password, s.store.getOrgUser id = some user → s.latest.lookup id = some password →
    ∀ body, NamesUser s.store body user → ∀ now jti,
      Accepts server bcrypt s.store now jti body ↔ body.password = password

/-- The user has a password: its hash compares equal to that one only. -/
def HasPassword (bcrypt : Bcrypt) (user : OrgUser) (password : String) : Prop :=
  ∀ other, other ≠ "" → (bcrypt.compare user.passwordHash other = true ↔ other = password)

/-- Some login names the user. -/
def Nameable (store : Store) (user : OrgUser) : Prop := ∃ body, NamesUser store body user

/-- The condition: an update that succeeds carries no password, or the one that the user has. -/
def CarriesOwn (bcrypt : Bcrypt) (s : Passwords) : PasswordRequest → Prop
  | .update _ _ _ context uid body => ∀ user given password, uid ≠ "" →
      s.store.getOrgUser uid = some user → body = some given →
      given.role.bind (roleRefusal s.store context user) = none →
      given.password = some password → password ≠ "" → Nameable s.store user →
        HasPassword bcrypt user password
  | _ => True

/-! ### The login -/

variable {user : OrgUser}

section login

variable {server : Server} {bcrypt : Bcrypt} {store : Store} {m : JWTManager}

/-- The lookup by name finds the user of a key. -/
theorem getOrgUserByUsername_of_getOrgUser (wellFormed : store.WellFormed) {id : String}
    (found : store.getOrgUser id = some user) :
    store.getOrgUserByUsername user.orgID user.username = some user := by
  have member : user ∈ store.orgUsers.entries.map (·.2) :=
    List.mem_map.mpr ⟨⟨id, user⟩, Table.mem_entries_iff.mpr found, rfl⟩
  cases first : store.getOrgUserByUsername user.orgID user.username with
  | none =>
    have unlike := List.find?_eq_none.mp first user member
    simp at unlike
  | some namesake =>
    obtain ⟨sameOrg, sameName⟩ := Store.getOrgUserByUsername_some first
    obtain ⟨entry, listed, isNamesake⟩ := List.mem_map.mp (List.mem_of_find?_eq_some first)
    have there : store.getOrgUser entry.1 = some namesake :=
      isNamesake ▸ Table.mem_entries_iff.mp listed
    have sameKey := wellFormed.unique entry.1 id namesake user there found sameOrg sameName
    rw [sameKey, found] at there
    exact there.symm

/-- A login that names a user is accepted if the hash of the user compares equal. -/
theorem accepts_iff (configured : server.jwtManager = some m) (wellFormed : store.WellFormed)
    {id : String} (found : store.getOrgUser id = some user)
    {body : OrgLoginBody} (names : NamesUser store body user) (now : Int) (jti : String) :
    Accepts server bcrypt store now jti body ↔
      body.password ≠ "" ∧ bcrypt.compare user.passwordHash body.password = true := by
  obtain ⟨resolved, named, present⟩ := names
  have byName := getOrgUserByUsername_of_getOrgUser wellFormed found
  unfold Accepts handleOrgLogin
  rw [Bool.not_true, if_neg Bool.false_ne_true]
  dsimp only
  rw [named, resolved]
  by_cases empty : body.password = ""
  · rw [if_pos (.inr empty)]
    exact iff_of_false Bool.false_ne_true fun both => both.1 empty
  · rw [if_neg (not_or.mpr ⟨present, empty⟩)]
    dsimp only
    rw [byName]
    dsimp only
    cases compared : bcrypt.compare user.passwordHash body.password with
    | false => exact iff_of_false Bool.false_ne_true fun both => absurd both.2 Bool.false_ne_true
    | true =>
      rw [Bool.not_true, if_neg Bool.false_ne_true, configured]
      exact iff_of_true rfl ⟨empty, rfl⟩

end login

/-! ### What the requests write -/

section writes

variable {server : Server} {bcrypt : Bcrypt} {store after : Store}

/-- What a login reads of a row is the same. -/
structure SameLogin (old user : OrgUser) : Prop where
  id : user.id = old.id
  orgID : user.orgID = old.orgID
  username : user.username = old.username
  passwordHash : user.passwordHash = old.passwordHash

/-- Rows were rewritten in columns that the login does not read. -/
structure Rewritten (store after : Store) : Prop where
  organizations : after.organizations = store.organizations
  rows : ∀ id user, after.getOrgUser id = some user →
    ∃ old, store.getOrgUser id = some old ∧ SameLogin old user

theorem Rewritten.refl (store : Store) : Rewritten store store where
  organizations := rfl
  rows _ user found := ⟨user, found, rfl, rfl, rfl, rfl⟩

theorem Rewritten.wellFormed (rewritten : Rewritten store after)
    (wellFormed : store.WellFormed) : after.WellFormed where
  keyed id user found := by
    obtain ⟨old, was, same⟩ := rewritten.rows id user found
    exact same.id.trans (wellFormed.keyed id old was)
  unique id other user namesake found foundOther sameOrg sameName := by
    obtain ⟨old, was, same⟩ := rewritten.rows id user found
    obtain ⟨oldOther, wasOther, sameOther⟩ := rewritten.rows other namesake foundOther
    refine wellFormed.unique id other old oldOther was wasOther ?_ ?_
    · rw [← same.orgID, ← sameOther.orgID, sameOrg]
    · rw [← same.username, ← sameOther.username, sameName]

theorem rewritten_login (now : Int) (jti : String) (allowed : Bool) (body : Option OrgLoginBody) :
    Rewritten store (handleOrgLogin server bcrypt.compare now jti allowed body store).2 := by
  have touched : ∀ id, Rewritten store (store.updateOrgUserLogin id now) := by
    refine fun id => ⟨rfl, fun other user found => ?_⟩
    have lookup := Table.lookup_update store.orgUsers id other
      fun user => { user with lastLogin := some now }
    change (store.updateOrgUserLogin id now).orgUsers.lookup other = some user at found
    rw [Store.updateOrgUserLogin, lookup] at found
    split at found
    · next same =>
      obtain ⟨old, was, rfl⟩ := Option.map_eq_some_iff.mp found
      exact ⟨old, same ▸ was, rfl, rfl, rfl, rfl⟩
    · exact ⟨user, found, rfl, rfl, rfl, rfl⟩
  unfold handleOrgLogin
  split
  · exact .refl store
  cases body with
  | none => exact .refl store
  | some body =>
    dsimp only
    split
    · exact .refl store
    split
    · exact .refl store
    split
    · exact .refl store
    split
    · exact .refl store
    split
    · exact touched _
    · exact touched _

theorem sameLogin_edit (given : UpdateOrgUserBody) (user : OrgUser) :
    SameLogin user (given.edit user) :=
  ⟨rfl, rfl, rfl, rfl⟩

theorem rewritten_update (wellFormed : store.WellFormed) (around : Surroundings)
    (context : Context) (uid : String) (body : Option UpdateOrgUserBody) :
    Rewritten store (handleUpdateOrgUser around context uid body store).2 := by
  rcases handleUpdateOrgUser_cases wellFormed.keyed around context uid body with
    ⟨⟨refusal, refused⟩, _⟩ | ⟨user, given, reply, _, found, _, _, _, ⟨orgUsers, same⟩, written⟩
  · rw [refused]
    exact .refl store
  · refine ⟨by rw [same], fun id changed lookup => ?_⟩
    rw [written id] at lookup
    split at lookup
    · next this =>
      cases lookup
      exact ⟨user, this ▸ found, sameLogin_edit given user⟩
    · exact ⟨changed, lookup, rfl, rfl, rfl, rfl⟩

/-- The organizations decide whom a login names. -/
theorem namesUser_congr (organizations : after.organizations = store.organizations)
    {body : OrgLoginBody} {old : OrgUser} (same : SameLogin old user) :
    NamesUser after body user ↔ NamesUser store body old := by
  have resolved : resolveLoginOrg after body = resolveLoginOrg store body := by
    simp only [resolveLoginOrg, Store.getOrganizationBySlug, organizations]
  rw [NamesUser, NamesUser, resolved, same.orgID, same.username]

theorem nameable_congr (organizations : after.organizations = store.organizations)
    {old : OrgUser} (same : SameLogin old user) :
    Nameable after user ↔ Nameable store old :=
  exists_congr fun _ => namesUser_congr organizations same

/-- A new user under a new id and a name that its organization does not have. -/
theorem wellFormed_insert (wellFormed : store.WellFormed)
    (unused : store.getOrgUserByUsername user.orgID user.username = none) :
    Store.WellFormed { store with orgUsers := store.orgUsers.insert user.id user } := by
  have inserted : ∀ id found, Store.getOrgUser
      { store with orgUsers := store.orgUsers.insert user.id user } id = some found →
        (id = user.id ∧ found = user) ∨ (id ≠ user.id ∧ store.getOrgUser id = some found) :=
    fun _ _ => Table.lookup_insert_iff.mp
  have noNamesake : ∀ id old, store.getOrgUser id = some old → old.orgID = user.orgID →
      old.username ≠ user.username := by
    intro id old found sameOrg sameName
    have named := getOrgUserByUsername_of_getOrgUser wellFormed found
    rw [sameOrg, sameName, unused] at named
    cases named
  constructor
  · intro id found lookup
    rcases inserted id found lookup with ⟨rfl, rfl⟩ | ⟨_, old⟩
    · rfl
    · exact wellFormed.keyed id found old
  · intro id other found namesake lookup lookupOther sameOrg sameName
    rcases inserted id found lookup with ⟨rfl, rfl⟩ | ⟨_, old⟩ <;>
      rcases inserted other namesake lookupOther with ⟨rfl, rfl⟩ | ⟨_, oldOther⟩
    · rfl
    · exact absurd sameName.symm (noNamesake other namesake oldOther sameOrg.symm)
    · exact absurd sameName (noNamesake id found old sameOrg)
    · exact wellFormed.unique id other found namesake old oldOther sameOrg sameName

end writes

/-! ### Runs -/

section runs

variable {server : Server} {bcrypt : Bcrypt} {s after : Passwords} {m : JWTManager}

/-- What holds of the states of guarded runs: the users whose password is known have it. -/
structure Sound (bcrypt : Bcrypt) (s : Passwords) : Prop where
  wellFormed : s.store.WellFormed
  present : ∀ id password, s.latest.lookup id = some password → password ≠ ""
  own : ∀ id user password, s.store.getOrgUser id = some user →
    s.latest.lookup id = some password → Nameable s.store user → HasPassword bcrypt user password

theorem Sound.loginTakesLatest (configured : server.jwtManager = some m)
    (sound : Sound bcrypt s) : LoginTakesLatest server bcrypt s := by
  intro id user password found latest body names now jti
  have has := sound.own id user password found latest ⟨body, names⟩ body.password
  rw [accepts_iff configured sound.wellFormed found names]
  constructor
  · rintro ⟨typed, compared⟩
    exact (has typed).mp compared
  · rintro same
    have typed : body.password ≠ "" := same ▸ sound.present id password latest
    exact ⟨typed, (has typed).mpr same⟩

variable {latest : Table String String}

/-- Rewriting rows keeps the passwords known, if what is noted besides is right. -/
theorem Sound.rewrite (sound : Sound bcrypt s) {store : Store} (rewritten : Rewritten s.store store)
    (noted : ∀ id password, latest.lookup id = some password →
      s.latest.lookup id = some password ∨ password ≠ "" ∧
        ∀ user, s.store.getOrgUser id = some user → Nameable s.store user →
          HasPassword bcrypt user password) :
    Sound bcrypt ⟨store, latest⟩ where
  wellFormed := rewritten.wellFormed sound.wellFormed
  present id password lookup := by
    rcases noted id password lookup with known | ⟨typed, _⟩
    · exact sound.present id password known
    · exact typed
  own id user password found lookup nameable := by
    obtain ⟨old, was, same⟩ := rewritten.rows id user found
    have nameableBefore := (nameable_congr rewritten.organizations same).mp nameable
    unfold HasPassword
    rw [same.passwordHash]
    rcases noted id password lookup with known | ⟨_, right⟩
    · exact sound.own id old password was known nameableBefore
    · exact right old was nameableBefore

theorem sound_create (sound : Sound bcrypt s) (salt newID : String) (now : Int)
    (context : Context) (orgID : String) (body : Option CreateOrgUserBody)
    (taken : s.step server bcrypt (.create salt newID now context orgID body) = some after) :
    Sound bcrypt after := by
  cases taken
  rcases handleCreateOrgUser_cases ⟨bcrypt.generate salt, newID, now⟩ context orgID body
    s.store with
    ⟨refusal, refused⟩ |
      ⟨given, user, decoded, created, sameID, sameOrg, _, _, typed, hashed, _, _, unused⟩
  · rw [refused]
    exact sound
  · rw [created]
    subst decoded sameOrg
    refine ⟨wellFormed_insert sound.wellFormed unused, fun id password lookup => ?_,
      fun id found password lookup latest nameable => ?_⟩
    · rcases Table.lookup_insert_iff.mp lookup with ⟨_, rfl⟩ | ⟨_, known⟩
      · exact typed
      · exact sound.present id password known
    · rcases Table.lookup_insert_iff.mp lookup with ⟨rfl, rfl⟩ | ⟨other, old⟩
      · have given_last := Table.eq_of_lookup_insert latest
        subst given_last
        exact fun tried _ => bcrypt.ideal salt given.password _ hashed tried
      · have known := (Table.lookup_insert_iff.mp latest).resolve_left fun both => other both.1
        exact sound.own id found password old known.2 nameable

variable {body : Option UpdateOrgUserBody}

/-- The password that an update carries. -/
theorem noted_iff {password : String} :
    (body.bind (·.password)).filter (· ≠ "") = some password ↔
      ∃ given, body = some given ∧ given.password = some password ∧ password ≠ "" := by
  rw [Option.filter_eq_some_iff, Option.bind_eq_some_iff, decide_eq_true_eq]
  constructor
  · rintro ⟨⟨given, decoded, carried⟩, typed⟩
    exact ⟨given, decoded, carried, typed⟩
  · rintro ⟨given, decoded, carried, typed⟩
    exact ⟨⟨given, decoded, carried⟩, typed⟩

theorem noteUpdated_some {reply : OrgUser} {uid password : String}
        (noted : (body.bind (·.password)).filter (· ≠ "") = some password) :
    noteUpdated (.ok reply) uid body latest = latest.insert uid password := by
  unfold noteUpdated
  rw [noted]

theorem noteUpdated_none {reply : OrgUser} {uid : String}
    (noted : (body.bind (·.password)).filter (· ≠ "") = none) :
    noteUpdated (.ok reply) uid body latest = latest := by
  unfold noteUpdated
  rw [noted]

theorem sound_update (sound : Sound bcrypt s) (salt newID : String) (now : Int)
    (context : Context) (uid : String) (body : Option UpdateOrgUserBody)
    (allowed : CarriesOwn bcrypt s (.update salt newID now context uid body))
    (taken : s.step server bcrypt (.update salt newID now context uid body) = some after) :
    Sound bcrypt after := by
  cases taken
  refine sound.rewrite (rewritten_update sound.wellFormed _ context uid body)
    fun id password lookup => ?_
  rcases handleUpdateOrgUser_cases sound.wellFormed.keyed ⟨bcrypt.generate salt, newID, now⟩ context
    uid body with
    ⟨⟨refusal, refused⟩, _⟩ | ⟨user, given, reply, named, found, decoded, permitted, replied, _, _⟩
  · rw [refused] at lookup
    exact .inl lookup
  rw [replied] at lookup
  cases noted : (body.bind (·.password)).filter (· ≠ "") with
  | none =>
    rw [noteUpdated_none noted] at lookup
    exact .inl lookup
  | some carried =>
    rw [noteUpdated_some noted] at lookup
    rcases Table.lookup_insert_iff.mp lookup with ⟨rfl, rfl⟩ | ⟨_, known⟩
    · obtain ⟨_, isGiven, carries, typed⟩ := noted_iff.mp noted
      cases decoded.symm.trans isGiven
      refine .inr ⟨typed, fun other same nameable => ?_⟩
      cases found.symm.trans same
      exact allowed user given password named found decoded permitted carries typed nameable
    · exact .inl known

theorem sound_login (sound : Sound bcrypt s) (now : Int) (jti : String) (admitted : Bool)
    (body : Option OrgLoginBody)
    (taken : s.step server bcrypt (.login now jti admitted body) = some after) :
    Sound bcrypt after := by
  cases taken
  exact sound.rewrite (rewritten_login now jti admitted body) fun _ _ known => .inl known

theorem sound_of_reachableWhen
    (reached : ReachableWhen (orgPasswords server bcrypt) (CarriesOwn bcrypt) s) :
    Sound bcrypt s := by
  refine reached.invariant _ (fun state initial => ?_) fun before request after sound allowed
    taken => ?_
  · refine ⟨initial.1, fun id password known => ?_, fun id user password _ known => ?_⟩ <;>
      rw [initial.2] at known <;> cases known
  · have stepped : before.step server bcrypt request = some after := taken
    cases request with
    | create salt newID now context orgID body =>
      exact sound_create sound salt newID now context orgID body stepped
    | update salt newID now context uid body =>
      exact sound_update sound salt newID now context uid body allowed stepped
    | login now jti admitted body => exact sound_login sound now jti admitted body stepped

/-- An update whose password the login takes carried the user's own. -/
theorem carriesOwn_of_loginTakesLatest (configured : server.jwtManager = some m)
    (sound : Sound bcrypt s) {request : PasswordRequest}
    (taken : s.step server bcrypt request = some after)
    (takesLatest : LoginTakesLatest server bcrypt after) : CarriesOwn bcrypt s request := by
  cases request with
  | create | login => trivial
  | update salt newID now context uid body =>
    intro user given password named found decoded permitted carries typed ⟨login, names⟩ other tried
    cases taken
    rcases handleUpdateOrgUser_cases sound.wellFormed.keyed ⟨bcrypt.generate salt, newID, now⟩
      context uid body with
      ⟨_, refused⟩ | ⟨same, again, reply, _, isFound, isDecoded, _, replied, _, written⟩
    · exact absurd permitted (refused user given named found decoded)
    · cases found.symm.trans isFound
      cases decoded.symm.trans isDecoded
      have rewritten := rewritten_update sound.wellFormed ⟨bcrypt.generate salt, newID, now⟩
        context uid body
      have noted := noted_iff.mpr ⟨given, decoded, carries, typed⟩
      have row := (written uid).trans (if_pos rfl)
      have known : (noteUpdated (.ok reply) uid body s.latest).lookup uid = some password := by
        rw [noteUpdated_some noted]
        exact AList.lookup_insert _
      rw [← replied] at known
      have tries : NamesUser s.store { login with password := other } user := names
      have triesAfter :=
        (namesUser_congr rewritten.organizations (sameLogin_edit given user)).mpr tries
      have takes := takesLatest uid (given.edit user) password row known _ triesAfter 0 ""
      have accepted : _ ↔ other ≠ "" ∧ bcrypt.compare user.passwordHash other = true :=
        accepts_iff configured (rewritten.wellFormed sound.wellFormed) row triesAfter 0 ""
      exact ⟨fun compared => takes.mp (accepted.mpr ⟨tried, compared⟩),
        fun own => (accepted.mp (takes.mpr own)).2⟩

/-- The password given last is the one that a login takes, after each request of a history,
exactly when each update in it carries no password but the user's own. -/
theorem loginTakesLatest_iff_carriesOwn (server : Server) (bcrypt : Bcrypt) (m : JWTManager)
    (configured : server.jwtManager = some m) (steps : List (Taken Passwords PasswordRequest))
    (final : Passwords) (history : History (orgPasswords server bcrypt) steps final) :
    (∀ step ∈ steps, LoginTakesLatest server bcrypt step.after) ↔
      ∀ step ∈ steps, CarriesOwn bcrypt step.before step.label := by
  have agree : ∀ step : Taken Passwords PasswordRequest,
      ReachableWhen (orgPasswords server bcrypt) (CarriesOwn bcrypt) step.before →
        (orgPasswords server bcrypt).step step.before step.label = some step.after →
          (LoginTakesLatest server bcrypt step.after ↔
            CarriesOwn bcrypt step.before step.label) := by
    intro step reached taken
    constructor
    · exact carriesOwn_of_loginTakesLatest configured (sound_of_reachableWhen reached) taken
    · intro allowed
      exact (sound_of_reachableWhen (.step reached allowed taken)).loginTakesLatest configured
  exact history.forall_iff_when agree

end runs

/-! ### A password reset -/

/-- A hash that is the password; what matters of it here is that it tells passwords apart. -/
def plainBcrypt : Bcrypt where
  generate _ password := some password
  compare hash password := hash == password
  ideal := by
    rintro _ password hash generated other
    cases generated
    exact beq_iff_eq.trans eq_comm

def root : Context where
  username := "root"
  role := "super_admin"
  orgID := ""

/-- An organization without users. -/
def emptyAcme : Passwords where
  store :=
    { organizations := AList.insert "acme" ⟨"acme", "Acme", "acme", "", "", 0⟩ ∅
      orgUsers := ∅
      orgDevices := ∅
      rolePermissions := ∅ }
  latest := ∅

def createAnn : PasswordRequest :=
  .create "" "u1" 0 root "acme" (some ⟨"ann", "", "", "old", "user"⟩)

def resetAnn (password : String) : PasswordRequest :=
  .update "" "" 0 root "u1" (some ⟨none, none, none, some password⟩)

def createdAnn : Passwords :=
  (emptyAcme.step (sampleServer "user") plainBcrypt createAnn).getD emptyAcme

def afterReset (password : String) : Passwords :=
  (createdAnn.step (sampleServer "user") plainBcrypt (resetAnn password)).getD emptyAcme

def annLogin (password : String) : OrgLoginBody where
  orgSlug := ""
  orgID := "acme"
  username := "ann"
  password := password

/-- The row of ann, who was created with a password. -/
def ann : OrgUser := { member "u1" "acme" "ann" "user" with passwordHash := "old" }

theorem emptyAcme_wellFormed : emptyAcme.store.WellFormed where
  keyed := by decide
  unique id other user namesake found := by cases found

theorem reset_history (password : String) :
    History (orgPasswords (sampleServer "user") plainBcrypt)
      [⟨createdAnn, resetAnn password, afterReset password⟩, ⟨emptyAcme, createAnn, createdAnn⟩]
      (afterReset password) :=
  .step (.step (.start ⟨emptyAcme_wellFormed, rfl⟩) rfl) rfl

/-- After a reset that succeeded, the login still takes the old password. -/
theorem oldPassword_accepted :
    Reachable (orgPasswords (sampleServer "user") plainBcrypt) (afterReset "new") ∧
      Accepts (sampleServer "user") plainBcrypt (afterReset "new").store 0 "jti"
        (annLogin "old") ∧
      ¬ LoginTakesLatest (sampleServer "user") plainBcrypt (afterReset "new") := by
  have accepted : Accepts (sampleServer "user") plainBcrypt (afterReset "new").store 0 "jti"
      (annLogin "old") := by decide
  have named : NamesUser (afterReset "new").store (annLogin "old") ann :=
    ⟨rfl, by decide, by decide⟩
  refine ⟨(reset_history "new").reachable, accepted, fun takesLatest => ?_⟩
  have latest := takesLatest "u1" ann "new" (by decide) (by decide) (annLogin "old") named 0 "jti"
  exact absurd (latest.mp accepted) (by decide)

/-- A reset to the password that ann has already is one that the login takes. -/
theorem samePassword_taken :
    LoginTakesLatest (sampleServer "user") plainBcrypt (afterReset "old") := by
  refine (loginTakesLatest_iff_carriesOwn (sampleServer "user") plainBcrypt _ rfl _ _
    (reset_history "old")).mpr (fun step member => ?_) _ List.mem_cons_self
  rcases List.mem_cons.mp member with rfl | create
  · intro user given password _ found decoded _ carries _ _ other _
    have row : createdAnn.store.getOrgUser "u1" = some ann := by decide
    cases row.symm.trans found
    cases decoded
    cases carries
    exact beq_iff_eq.trans eq_comm
  · cases List.mem_singleton.mp create
    trivial

end SovaDesk.Api
