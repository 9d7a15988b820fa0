/-
This file settles how far the administration of an organization's users reaches.

A caller without a server role, admitted to one organization, should change only users of
that organization, its own row without the role, and users that rank below it. Creating a
user keeps to this, and so does giving a role. The other edits and the deletion look at
nothing but the id in the path, so a member of one organization edits and deletes the
users of every other one, and those above it in its own. The administration stays in reach
exactly for the requests whose id names a user in reach.
-/

import SovaDesk.Api.OrgUsers

namespace SovaDesk.Api

open SovaDesk.Auth

/-! ### The property -/

/-- A caller who was admitted to an organization, and not by a role on the server. -/
structure OrgCaller (store : Store) (orgID : String) (context : Context) : Prop where
  unprivileged : isServerAdmin context = false
  admitted : requireOrgMembership store orgID context = .admitted

/-- A user ranks strictly below the caller's role in the organization. -/
def RanksBelow (store : Store) (orgID : String) (context : Context) (user : OrgUser) : Prop :=
  ∃ caller, store.getOrgUserByUsername orgID context.username = some caller ∧
    orgRoleLevel user.role < orgRoleLevel caller.role

/-- What may become of a row: it stays in the organization, and it is the caller's own and keeps
its role, or ranks below the caller's role before and after. -/
structure ChangeInside (store : Store) (orgID : String) (context : Context)
    (old new : Option OrgUser) : Prop where
  oldInside : ∀ user, old = some user → user.orgID = orgID
  newInside : ∀ user, new = some user → user.orgID = orgID
  rank : (∃ user, old = some user ∧ user.username = context.username ∧
      ∀ changed, new = some changed → changed.role = user.role) ∨
    ((∀ user, old = some user → RanksBelow store orgID context user) ∧
      ∀ user, new = some user → RanksBelow store orgID context user)

/-- Every row that a request created, changed or deleted was one it may. -/
def ChangesInside (before after : Store) (orgID : String) (context : Context) : Prop :=
  ∀ id, after.getOrgUser id ≠ before.getOrgUser id →
    ChangeInside before orgID context (before.getOrgUser id) (after.getOrgUser id)

/-- The requests to the routes of an organization that write its users. -/
inductive OrgUserRequest
  | create (body : Option CreateOrgUserBody)
  | update (uid : String) (body : Option UpdateOrgUserBody)
  | delete (uid : String)
  deriving DecidableEq

/-- The store after a request that the guards let pass. -/
def OrgUserRequest.serve (around : Surroundings) (context : Context) (orgID : String)
    (store : Store) : OrgUserRequest → Store
  | .create body => (handleCreateOrgUser around context orgID body store).2
  | .update uid body => (handleUpdateOrgUser around context uid body store).2
  | .delete uid => (handleDeleteOrgUser uid store).2

/-- A user of the organization that is the caller's own or ranks below the caller. -/
def InReach (store : Store) (orgID : String) (context : Context) (user : OrgUser) : Prop :=
  user.orgID = orgID ∧ (user.username = context.username ∨ RanksBelow store orgID context user)

/-- The condition: the id names no user, or one in reach, or the update gives a role that is
refused, or nothing new. -/
def NamesInReach (store : Store) (orgID : String) (context : Context) : OrgUserRequest → Prop
  | .create _ => True
  | .update uid body => ∀ user given, uid ≠ "" → store.getOrgUser uid = some user →
      body = some given → given.role.bind (roleRefusal store context user) = none →
      given.edit user ≠ user → InReach store orgID context user
  | .delete uid => ∀ user, uid ≠ "" → store.getOrgUser uid = some user →
      InReach store orgID context user

/-! ### Rank -/

section rank

variable {store : Store} {orgID : String} {context : Context} {user : OrgUser}

theorem ranksBelow_of_createRefusal (unprivileged : isServerAdmin context = false)
    (permitted : createRefusal store context orgID user.role = none) :
    RanksBelow store orgID context user := by
  unfold createRefusal at permitted
  rw [if_neg (Bool.eq_false_iff.mp unprivileged)] at permitted
  cases found : store.getOrgUserByUsername orgID context.username with
  | none =>
    rw [found] at permitted
    cases permitted
  | some caller =>
    rw [found] at permitted
    dsimp only at permitted
    split at permitted
    · next assigns => exact ⟨caller, found, orgRoleLevel_lt_of_canAssign assigns⟩
    · cases permitted

/-- A role is given only to another user of the organization, from below the caller to below the
caller. -/
theorem ranks_of_roleRefusal (unprivileged : isServerAdmin context = false) {role : String}
    (permitted : roleRefusal store context user role = none) :
    user.username ≠ context.username ∧
      ∃ caller, store.getOrgUserByUsername user.orgID context.username = some caller ∧
        orgRoleLevel user.role < orgRoleLevel caller.role ∧
        orgRoleLevel role < orgRoleLevel caller.role := by
  unfold roleRefusal at permitted
  split at permitted
  · cases permitted
  split at permitted
  · cases permitted
  next other =>
  rw [if_neg (Bool.eq_false_iff.mp unprivileged)] at permitted
  split at permitted
  · cases permitted
  next caller found =>
  split at permitted
  · cases permitted
  next assigns =>
  split at permitted
  · cases permitted
  next below =>
  refine ⟨other, caller, found, not_le.mp below, orgRoleLevel_lt_of_canAssign ?_⟩
  simpa using assigns

end rank

/-! ### Requests -/

section requests

variable {store : Store} {orgID : String} {context : Context} {around : Surroundings}

/-- Only the rows that a request may have written need a look. -/
theorem changesInside_of_only {after : Store} (uid : String)
    (only : ∀ id, id ≠ uid → after.getOrgUser id = store.getOrgUser id)
    (inside : after.getOrgUser uid ≠ store.getOrgUser uid →
      ChangeInside store orgID context (store.getOrgUser uid) (after.getOrgUser uid)) :
    ChangesInside store after orgID context := by
  intro id changed
  by_cases same : id = uid
  · subst same
    exact inside changed
  · exact absurd (only id same) changed

theorem changesInside_self : ChangesInside store store orgID context :=
  fun _ changed => absurd rfl changed

/-- A row that keeps to the change that is allowed was in reach before. -/
theorem ChangeInside.inReach {user : OrgUser} {new : Option OrgUser}
    (inside : ChangeInside store orgID context (some user) new) :
    InReach store orgID context user := by
  refine ⟨inside.oldInside user rfl, ?_⟩
  rcases inside.rank with ⟨own, same, named, _⟩ | ⟨below, _⟩
  · cases same
    exact .inl named
  · exact .inr (below user rfl)

/-- Every user that is created is one the caller may create. -/
theorem changesInside_create (unprivileged : isServerAdmin context = false)
    (body : Option CreateOrgUserBody) :
    ChangesInside store (handleCreateOrgUser around context orgID body store).2 orgID context := by
  rcases handleCreateOrgUser_cases around context orgID body store with
    ⟨refusal, refused⟩ | ⟨given, user, _, created, newID, inside, _, _, _, _, permitted, fresh, _⟩
  · rw [refused]
    exact changesInside_self
  · rw [created]
    have inserted : ∀ id, Store.getOrgUser
        { store with orgUsers := store.orgUsers.insert user.id user } id =
          if id = user.id then some user else store.getOrgUser id :=
      fun id => Table.lookup_insert_if store.orgUsers user.id id user
    refine changesInside_of_only user.id
      (fun id other => (inserted id).trans (if_neg other)) fun _ => ?_
    rw [(inserted user.id).trans (if_pos rfl), newID, fresh]
    exact
      { oldInside := fun _ old => absurd old (Option.some_ne_none _).symm
        newInside := fun _ new => Option.some.inj new ▸ inside
        rank := .inr ⟨fun _ old => absurd old (Option.some_ne_none _).symm,
          fun _ new => Option.some.inj new ▸ ranksBelow_of_createRefusal unprivileged permitted⟩ }

/-- An edit of a user in reach, with a role that is not refused, keeps it in reach. -/
theorem changeInside_edit (unprivileged : isServerAdmin context = false) {user : OrgUser}
    {given : UpdateOrgUserBody} (reach : InReach store orgID context user)
    (permitted : given.role.bind (roleRefusal store context user) = none) :
    ChangeInside store orgID context (some user) (some (given.edit user)) where
  oldInside _ old := Option.some.inj old ▸ reach.1
  newInside _ new := Option.some.inj new ▸ reach.1
  rank := by
    cases changes : given.role with
    | none =>
      have kept : (given.edit user).role = user.role := by rw [UpdateOrgUserBody.edit, changes]; rfl
      rcases reach.2 with own | below
      · exact .inl ⟨user, rfl, own, fun _ new => Option.some.inj new ▸ kept⟩
      · refine .inr ⟨fun _ old => Option.some.inj old ▸ below, fun _ new => ?_⟩
        cases new
        obtain ⟨caller, found, lower⟩ := below
        exact ⟨caller, found, kept ▸ lower⟩
    | some role =>
      rw [changes] at permitted
      obtain ⟨_, caller, found, before, after⟩ := ranks_of_roleRefusal unprivileged permitted
      rw [reach.1] at found
      have given_role : (given.edit user).role = role := by
        rw [UpdateOrgUserBody.edit, changes]
        rfl
      refine .inr ⟨fun _ old => ?_, fun _ new => ?_⟩
      · cases old
        exact ⟨caller, found, before⟩
      · cases new
        exact ⟨caller, found, given_role ▸ after⟩

theorem changesInside_update_iff (keyed : store.Keyed)
    (unprivileged : isServerAdmin context = false) (uid : String)
    (body : Option UpdateOrgUserBody) :
    ChangesInside store (handleUpdateOrgUser around context uid body store).2 orgID context ↔
      NamesInReach store orgID context (.update uid body) := by
  rcases handleUpdateOrgUser_cases keyed around context uid body with
    ⟨⟨refusal, refused⟩, always⟩ |
      ⟨user, given, reply, named, found, decoded, permitted, _, _, written⟩
  · rw [refused]
    exact iff_of_true changesInside_self fun user given named found decoded permitted =>
      absurd permitted (always user given named found decoded)
  · constructor
    · intro inside other again _ same decodedAgain _ changed
      cases Option.some.inj (found.symm.trans same)
      cases Option.some.inj (decoded.symm.trans decodedAgain)
      have here := (written uid).trans (if_pos rfl)
      have differs := inside uid (by
        rw [here, found]
        exact fun same => changed (Option.some.inj same))
      rw [found] at differs
      exact differs.inReach
    · intro reach
      refine changesInside_of_only uid (fun id other => (written id).trans (if_neg other))
        fun changed => ?_
      rw [written uid, if_pos rfl, found] at changed ⊢
      exact changeInside_edit unprivileged
        (reach user given named found decoded permitted fun same => changed (congrArg some same))
        permitted

theorem changesInside_delete_iff (uid : String) :
    ChangesInside store (handleDeleteOrgUser uid store).2 orgID context ↔
      NamesInReach store orgID context (.delete uid) := by
  unfold handleDeleteOrgUser
  split
  · next empty => exact iff_of_true changesInside_self fun _ named => absurd empty named
  next named =>
  have gone : (store.deleteOrgUser uid).getOrgUser uid = none :=
    (lookup_deleteOrgUser store uid uid).trans (if_pos rfl)
  constructor
  · intro inside user _ found
    have differs := inside uid (by rw [gone, found]; exact (Option.some_ne_none user).symm)
    rw [found] at differs
    exact differs.inReach
  · intro reach
    refine changesInside_of_only uid
      (fun id other => (lookup_deleteOrgUser store uid id).trans (if_neg other)) fun _ => ?_
    rw [gone]
    cases found : store.getOrgUser uid with
    | none =>
      exact
        { oldInside := fun _ old => absurd old (Option.some_ne_none _).symm
          newInside := fun _ new => absurd new (Option.some_ne_none _).symm
          rank := .inr ⟨fun _ old => absurd old (Option.some_ne_none _).symm,
            fun _ new => absurd new (Option.some_ne_none _).symm⟩ }
    | some user =>
      obtain ⟨inside, owned⟩ := reach user named found
      refine
        { oldInside := fun _ old => Option.some.inj old ▸ inside
          newInside := fun _ new => absurd new (Option.some_ne_none _).symm
          rank := ?_ }
      rcases owned with own | below
      · exact .inl ⟨user, rfl, own, fun _ new => absurd new (Option.some_ne_none _).symm⟩
      · exact .inr ⟨fun _ old => Option.some.inj old ▸ below,
          fun _ new => absurd new (Option.some_ne_none _).symm⟩

/-- The administration of an organization's users stays inside the organization and below the
caller's rank exactly for the requests whose id names a user in reach. -/
theorem changesInside_iff_namesInReach (store : Store) (keyed : store.Keyed)
    (around : Surroundings) (orgID : String) (context : Context)
    (caller : OrgCaller store orgID context) (request : OrgUserRequest) :
    ChangesInside store (request.serve around context orgID store) orgID context ↔
      NamesInReach store orgID context request := by
  cases request with
  | create body => exact iff_of_true (changesInside_create caller.unprivileged body) trivial
  | update uid body => exact changesInside_update_iff keyed caller.unprivileged uid body
  | delete uid => exact changesInside_delete_iff uid

end requests

/-! ### Two organizations -/

/-- A row of the table, without what no rule here reads. -/
def member (id orgID username role : String) : OrgUser where
  id := id
  orgID := orgID
  serverUserID := 0
  username := username
  displayName := ""
  email := ""
  passwordHash := "hash"
  role := role
  totpSecret := ""
  avatarURL := ""
  lastLogin := none
  createdAt := 0

/-- Two organizations, and operators of the server that may manage the users of theirs. -/
def twoOrgs : Store where
  organizations := ∅
  orgUsers := AList.insert "u3" (member "u3" "globex" "bob" "owner")
    (AList.insert "u2" (member "u2" "acme" "ann" "user")
      (AList.insert "u1" (member "u1" "acme" "eve" "operator") ∅))
  orgDevices := ∅
  rolePermissions := AList.insert ("operator", "org.manage_users") true ∅

/-- The context of eve's login to her organization. -/
def eve : Context where
  username := "eve"
  role := "operator"
  orgID := "acme"

def nowhere : Surroundings where
  hash _ := none
  newID := "u4"
  now := 0

/-- On the routes of her own organization, eve deletes the owner of the other. -/
theorem eve_deletesOtherOwner :
    requirePermission twoOrgs "org.manage_users" eve = .admitted ∧
      OrgCaller twoOrgs "acme" eve ∧
      ¬ ChangesInside twoOrgs ((OrgUserRequest.delete "u3").serve nowhere eve "acme" twoOrgs)
        "acme" eve := by
  refine ⟨by decide, ⟨by decide, by decide⟩, fun inside => ?_⟩
  have gone := inside "u3" (by decide)
  exact absurd (gone.oldInside (member "u3" "globex" "bob" "owner") (by decide)) (by decide)

/-- A user of her own organization that ranks below her is in eve's reach. -/
theorem eve_renamesAnn :
    ChangesInside twoOrgs
      ((OrgUserRequest.update "u2" (some ⟨some "Ann", none, none, none⟩)).serve nowhere eve "acme"
        twoOrgs) "acme" eve := by
  refine (changesInside_iff_namesInReach twoOrgs (by decide) nowhere "acme" eve
    ⟨by decide, by decide⟩ _).mpr fun user given _ found _ _ _ => ?_
  have ann : user = member "u2" "acme" "ann" "user" := by
    have there : twoOrgs.getOrgUser "u2" = some (member "u2" "acme" "ann" "user") := by decide
    exact Option.some.inj (found.symm.trans there)
  subst ann
  exact ⟨rfl, .inr ⟨member "u1" "acme" "eve" "operator", by decide, by decide⟩⟩

end SovaDesk.Api
