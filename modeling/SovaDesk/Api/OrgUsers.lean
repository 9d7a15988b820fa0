/-
This file models how the users of an organization are administered: the handlers that
create, update and delete one, and what they write to the table.

The routes name an organization and, for an update or a deletion, a user. The user is
looked up by its id alone, in whatever organization it is. An update writes the name, the
address and the role, and not the password: the statement has no column for it. bcrypt, the
ids and the clock are parameters.
-/

import SovaDesk.Api.Middleware

namespace SovaDesk.Api

open SovaDesk.Auth

/-! ### The table -/

namespace Store

def getOrganization (store : Store) (id : String) : Option Organization :=
  store.organizations.lookup id

def getOrgUser (store : Store) (id : String) : Option OrgUser := store.orgUsers.lookup id

/-- The statement fails on a known id, and on a name that the organization has. -/
def createOrgUser (store : Store) (user : OrgUser) : Option Store :=
  if (store.getOrgUser user.id).isSome ∨
      (store.getOrgUserByUsername user.orgID user.username).isSome then none
  else some { store with orgUsers := store.orgUsers.insert user.id user }

/-- The columns that the statement sets. -/
def setColumns (user row : OrgUser) : OrgUser :=
  { row with
    displayName := user.displayName, email := user.email, role := user.role
    totpSecret := user.totpSecret, avatarURL := user.avatarURL }

def updateOrgUser (store : Store) (user : OrgUser) : Store :=
  { store with orgUsers := store.orgUsers.update user.id (setColumns user) }

def deleteOrgUser (store : Store) (id : String) : Store :=
  { store with orgUsers := store.orgUsers.erase id }

/-- The key of a row is its id. -/
def Keyed (store : Store) : Prop :=
  ∀ id user, store.getOrgUser id = some user → user.id = id

instance (store : Store) : Decidable store.Keyed :=
  Table.decidableForall store.orgUsers fun id user => user.id = id

end Store

/-! ### The handlers -/

/-- The roles that no boundary of an organization holds for. -/
def isServerAdmin (context : Context) : Bool :=
  isSuperAdminRole context.role || context.role == roleGlobalAdmin

structure CreateOrgUserBody where
  username : String
  displayName : String
  email : String
  password : String
  role : String
  deriving DecidableEq

/-- The role of a new user, if none is given. -/
def CreateOrgUserBody.roleOrDefault (body : CreateOrgUserBody) : String :=
  if body.role = "" then orgRoleUser else body.role

structure UpdateOrgUserBody where
  displayName : Option String
  email : Option String
  role : Option String
  password : Option String
  deriving DecidableEq

/-- Why a caller may not create a user of a role, if that is so. -/
def createRefusal (store : Store) (context : Context) (orgID role : String) :
    Option (Nat × String) :=
  if isServerAdmin context then none
  else
    match store.getOrgUserByUsername orgID context.username with
    | none => some (403, "you are not a member of this organization")
    | some callerOrgUser =>
      if orgCanAssignRole callerOrgUser.role role then none
      else some (403, "cannot assign a role higher than your org-level authority")

/-- What the handlers take from outside: the answer of `bcrypt.GenerateFromPassword` to a password,
a new id and the time. -/
structure Surroundings where
  hash : String → Option String
  newID : String
  now : Int

def handleCreateOrgUser (around : Surroundings) (context : Context) (orgID : String)
    (body : Option CreateOrgUserBody) (store : Store) :
    Except (Nat × String) OrgUser × Store :=
  if orgID = "" then (.error (400, "org_id required"), store)
  else if (store.getOrganization orgID).isNone then
    (.error (404, "organization not found"), store)
  else
    match body with
    | none => (.error (400, "invalid JSON"), store)
    | some body =>
      let username := trimSpace body.username
      let role := body.roleOrDefault
      if username = "" ∨ body.password = "" then
        (.error (400, "username and password are required"), store)
      else if !validOrgRole role then
        (.error (400, "invalid role (owner, admin, operator, user)"), store)
      else
        match createRefusal store context orgID role with
        | some refusal => (.error refusal, store)
        | none =>
          if (store.getOrgUserByUsername orgID username).isSome then
            (.error (409, "username already exists in this organization"), store)
          else
            match around.hash body.password with
            | none => (.error (500, "password hashing failed"), store)
            | some passwordHash =>
              let user : OrgUser :=
                { id := around.newID, orgID, serverUserID := 0, username
                  displayName := body.displayName, email := body.email, passwordHash, role
                  totpSecret := "", avatarURL := "", lastLogin := none
                  createdAt := around.now }
              match store.createOrgUser user with
              | none => (.error (500, "failed to create user"), store)
              | some after => (.ok user, after)

/-- Why a caller may not give a user a role, if that is so. The caller's authority is looked up in
the organization of the user. -/
def roleRefusal (store : Store) (context : Context) (user : OrgUser) (role : String) :
    Option (Nat × String) :=
  if !validOrgRole role then some (400, "invalid role")
  else if user.username = context.username then
    some (403, "cannot modify your own org role")
  else if isServerAdmin context then none
  else
    match store.getOrgUserByUsername user.orgID context.username with
    | none => some (403, "you are not a member of this organization")
    | some callerOrgUser =>
      if !orgCanAssignRole callerOrgUser.role role then
        some (403, "cannot assign a role higher than your org-level authority")
      else if orgRoleLevel user.role ≥ orgRoleLevel callerOrgUser.role then
        some (403, "cannot modify a user at or above your org-level authority")
      else none

/-- The user with the fields of a body. -/
def UpdateOrgUserBody.edit (body : UpdateOrgUserBody) (user : OrgUser) : OrgUser :=
  { user with
    displayName := body.displayName.getD user.displayName
    email := body.email.getD user.email
    role := body.role.getD user.role }

/-- The hash of a new password. Without one, or where the hashing fails, the password stays. -/
def UpdateOrgUserBody.newHash (body : UpdateOrgUserBody) (around : Surroundings) :
    Option String :=
  (body.password.filter (· ≠ "")).bind around.hash

def handleUpdateOrgUser (around : Surroundings) (context : Context) (uid : String)
    (body : Option UpdateOrgUserBody) (store : Store) :
    Except (Nat × String) OrgUser × Store :=
  if uid = "" then (.error (400, "user id required"), store)
  else
    match store.getOrgUser uid with
    | none => (.error (404, "user not found"), store)
    | some user =>
      match body with
      | none => (.error (400, "invalid JSON"), store)
      | some body =>
        match body.role.bind (roleRefusal store context user) with
        | some refusal => (.error refusal, store)
        | none =>
          let edited := body.edit user
          let updated := store.updateOrgUser edited
          match body.newHash around with
          | none => (.ok edited, updated)
          | some passwordHash =>
            let rehashed := { edited with passwordHash }
            (.ok rehashed, updated.updateOrgUser rehashed)

def handleDeleteOrgUser (uid : String) (store : Store) : Except (Nat × String) Unit × Store :=
  if uid = "" then (.error (400, "user id required"), store)
  else (.ok (), store.deleteOrgUser uid)

/-! ### What the handlers write -/

section writes

variable {around : Surroundings} {context : Context} {store : Store}

/-- A user that is created is new, in the organization of the route, and of a role that the caller
may assign. -/
theorem handleCreateOrgUser_cases (around : Surroundings) (context : Context) (orgID : String)
    (body : Option CreateOrgUserBody) (store : Store) :
    (∃ refusal, handleCreateOrgUser around context orgID body store = (.error refusal, store)) ∨
      ∃ given user, body = some given ∧
        handleCreateOrgUser around context orgID body store =
          (.ok user, { store with orgUsers := store.orgUsers.insert user.id user }) ∧
        user.id = around.newID ∧ user.orgID = orgID ∧
        user.username = trimSpace given.username ∧ user.username ≠ "" ∧ given.password ≠ "" ∧
        around.hash given.password = some user.passwordHash ∧
        createRefusal store context orgID user.role = none ∧
        store.getOrgUser around.newID = none ∧
        store.getOrgUserByUsername orgID user.username = none := by
  unfold handleCreateOrgUser
  split
  · exact .inl ⟨_, rfl⟩
  split
  · exact .inl ⟨_, rfl⟩
  cases body with
  | none => exact .inl ⟨_, rfl⟩
  | some given =>
    dsimp only
    split
    · exact .inl ⟨_, rfl⟩
    next named =>
    split
    · exact .inl ⟨_, rfl⟩
    split
    · exact .inl ⟨_, rfl⟩
    next permitted =>
    split
    · exact .inl ⟨_, rfl⟩
    next unused =>
    split
    · exact .inl ⟨_, rfl⟩
    next passwordHash hashed =>
    split
    · exact .inl ⟨_, rfl⟩
    next after created =>
    obtain ⟨free, inserted⟩ := Option.ite_none_left_eq_some.mp created
    cases inserted
    rw [not_or] at named free
    exact .inr ⟨given, _, rfl, rfl, rfl, rfl, rfl, named.1, named.2, hashed, permitted,
      Option.not_isSome_iff_eq_none.mp free.1, Option.not_isSome_iff_eq_none.mp unused⟩

theorem lookup_updateOrgUser (store : Store) (user : OrgUser) (id : String) :
    (store.updateOrgUser user).getOrgUser id =
      if id = user.id then (store.getOrgUser user.id).map (Store.setColumns user)
      else store.getOrgUser id :=
  Table.lookup_update store.orgUsers user.id id (Store.setColumns user)

/-- Writing the same user a second time, with another password, changes nothing more. -/
theorem lookup_updateOrgUser_rehashed (store : Store) (user : OrgUser) (passwordHash id : String) :
    ((store.updateOrgUser user).updateOrgUser { user with passwordHash }).getOrgUser id =
      (store.updateOrgUser user).getOrgUser id := by
  rw [lookup_updateOrgUser, lookup_updateOrgUser, lookup_updateOrgUser]
  by_cases same : id = user.id
  · rw [if_pos same, if_pos rfl, if_pos same, Option.map_map]
    rfl
  · rw [if_neg same, if_neg same]

/-- An update edits the user of the id and no other, if the role it gives is not refused; the
password stays as it was. -/
theorem handleUpdateOrgUser_cases (keyed : store.Keyed) (around : Surroundings)
    (context : Context) (uid : String) (body : Option UpdateOrgUserBody) :
    (∃ refusal, handleUpdateOrgUser around context uid body store = (.error refusal, store)) ∧
        (∀ user given, uid ≠ "" → store.getOrgUser uid = some user → body = some given →
          given.role.bind (roleRefusal store context user) ≠ none) ∨
      ∃ user given reply, uid ≠ "" ∧ store.getOrgUser uid = some user ∧ body = some given ∧
        given.role.bind (roleRefusal store context user) = none ∧
        (handleUpdateOrgUser around context uid body store).1 = .ok reply ∧
        (∃ orgUsers, (handleUpdateOrgUser around context uid body store).2 =
          { store with orgUsers }) ∧
        ∀ id, (handleUpdateOrgUser around context uid body store).2.getOrgUser id =
          if id = uid then some (given.edit user) else store.getOrgUser id := by
  unfold handleUpdateOrgUser
  split
  · next empty => exact .inl ⟨⟨_, rfl⟩, fun _ _ named => absurd empty named⟩
  next named =>
  split
  · next missing =>
    exact .inl ⟨⟨_, rfl⟩, fun user _ _ found =>
      absurd (missing.symm.trans found) (Option.some_ne_none user).symm⟩
  next user found =>
  split
  · exact .inl ⟨⟨_, rfl⟩, fun _ given _ _ undecoded =>
      absurd undecoded (Option.some_ne_none given).symm⟩
  next given =>
  split
  · next refusal refused =>
    refine .inl ⟨⟨_, rfl⟩, fun other same _ again decoded => ?_⟩
    cases Option.some.inj (found.symm.trans again)
    cases decoded
    rw [refused]
    exact Option.some_ne_none refusal
  next permitted =>
  have edited : ∀ id, (store.updateOrgUser (given.edit user)).getOrgUser id =
      if id = uid then some (given.edit user) else store.getOrgUser id := by
    intro id
    have sameID : (given.edit user).id = uid := keyed uid user found
    rw [lookup_updateOrgUser, sameID, found]
    rfl
  split
  · exact .inr ⟨user, given, _, named, found, rfl, permitted, rfl, ⟨_, rfl⟩, edited⟩
  · next passwordHash _ =>
    exact .inr ⟨user, given, _, named, found, rfl, permitted, rfl, ⟨_, rfl⟩, fun id =>
      (lookup_updateOrgUser_rehashed store _ passwordHash id).trans (edited id)⟩

theorem lookup_deleteOrgUser (store : Store) (uid id : String) :
    (store.deleteOrgUser uid).getOrgUser id = if id = uid then none else store.getOrgUser id :=
  Table.lookup_erase_if store.orgUsers uid id

end writes

end SovaDesk.Api
