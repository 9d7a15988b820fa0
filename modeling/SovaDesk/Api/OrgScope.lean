/-
This file settles how far the authority of an organization's login reaches.

The token of an organization's user carries the role the user has inside the
organization as the same string that server-level accounts carry, and the guards read
it as a server-level role: an organization's `admin` passes every guard and its
`operator` most of them. The organization itself is read from the header by a second,
stricter reader than the one that authenticates, so a header that the second reader
rejects leaves an account without an organization; and membership is looked up by name
in every organization. The token is confined to its organization exactly when none of
the three happens.
-/

import Mathlib.Data.Fintype.EquivFin
import SovaDesk.Api.Middleware

namespace SovaDesk.Api

open SovaDesk.Auth

/-! ### The property -/

/-- The bearer header of a request holds a token, as authentication reads it. -/
def Carries (request : Request) (token : String) : Prop :=
  ∃ text, bearerText request.authorization = some text ∧ trimSpace text = token

/-- An authenticated request has no more authority than the role of an organization's user has on
its own account: the level and the permissions of a string that names no server-level role, the
pages of its organization, and the devices assigned to it. -/
structure Confined (store : Store) (orgID role : String) (context : Context) : Prop where
  level : ∀ required, requireRole required context = .admitted → roleLevel required = 0
  panel : requirePanelAdmin context ≠ .admitted
  permission : ∀ permission, requirePermission store permission context = .admitted →
    validRole role = false ∧ store.hasRolePermission role permission = some true
  membership : ∀ target, requireOrgMembership store target context = .admitted → target = orgID
  device : ∀ peer, peerOrgScopeCheck store peer context = .admitted →
    (store.getOrgDevice orgID peer).isSome = true

/-- The header is spelled so that the organization is read from it too: the exact prefix, and a
rest that validates as it stands. -/
def KeepsScope (m : JWTManager) (now : Int) (authorization : String) : Prop :=
  ∃ text claims, authorization = "Bearer " ++ text ∧ m.validate now text = .ok claims

/-- No other organization has a user of this name. -/
def UniqueName (store : Store) (orgID username : String) : Prop :=
  ∀ other, other ≠ "" → other ≠ orgID → store.getOrgUserByUsername other username = none

/-! ### What authentication reads from the header -/

section token

variable {m : JWTManager} {claims : Claims} {server : Server} {request : Request} {now : Int}

theorem isOpaqueClientToken_signed : isOpaqueClientToken (m.signed claims) = false := by
  have dotted : '.' ∈ (m.signed claims).toList := by
    simp [JWTManager.signed, String.toList_append]
  refine Bool.eq_false_iff.mpr fun opaqueToken => ?_
  simp only [isOpaqueClientToken, Bool.and_eq_true, List.all_eq_true] at opaqueToken
  exact absurd (opaqueToken.2 '.' dotted) (by decide)

theorem authenticateRequest_of_carries (manager : server.jwtManager = some m)
    (faithful : m.Faithful claims) (fresh : now ≤ claims.exp)
    (active : claims.role ≠ role2FAPending) (carries : Carries request (m.signed claims)) :
    authenticateRequest server now request = some (claims.sub, claims.role) := by
  obtain ⟨text, bearer, trimmed⟩ := carries
  simp [authenticateRequest, bearer, trimmed, isOpaqueClientToken_signed, manager,
    validate_signed faithful fresh, active]

theorem bearerText_some {authorization text : String}
    (bearer : bearerText authorization = some text) :
    7 < authorization.toList.length ∧ text = String.ofList (authorization.toList.drop 7) := by
  simp only [bearerText, Option.ite_none_right_eq_some, Option.some_inj] at bearer
  exact ⟨bearer.1.1, bearer.2.symm⟩

theorem drop_of_prefix {authorization text : String}
    (exact' : authorization = "Bearer " ++ text) :
    authorization.toList.take 7 = "Bearer ".toList ∧
      String.ofList (authorization.toList.drop 7) = text := by
  have spelled : authorization.toList = "Bearer ".toList ++ text.toList := by
    rw [exact', String.toList_append]
  have seven : "Bearer ".toList.length = 7 := by decide
  constructor
  · rw [spelled, ← seven, List.take_left]
  · rw [spelled, ← seven, List.drop_left, String.ofList_toList]

/-- The organization of a request that carries a token is the token's, if the header is spelled as
the second reader wants it, and none otherwise. -/
theorem extractOrgID_of_keepsScope (manager : server.jwtManager = some m)
    (faithful : m.Faithful claims) (carries : Carries request (m.signed claims))
    (keeps : KeepsScope m now request.authorization) :
    extractOrgIDFromRequest server now request = claims.orgID := by
  obtain ⟨text, bearer, trimmed⟩ := carries
  obtain ⟨long, _⟩ := bearerText_some bearer
  obtain ⟨rest, found, spelled, valid⟩ := keeps
  obtain ⟨exactPrefix, exactRest⟩ := drop_of_prefix spelled
  have sameText : text = rest := (bearerText_some bearer).2.trans exactRest
  obtain ⟨leading, trailing, padded, before, _⟩ := trimSpace_decompose text
  rw [trimmed] at padded
  have sameClaims : found = claims := by
    rw [← sameText, ← String.ofList_toList (s := text), padded] at valid
    exact validate_padded faithful before valid
  simp [extractOrgIDFromRequest, manager, Nat.not_le.mpr long, exactPrefix, exactRest, valid,
    sameClaims]

theorem extractOrgID_of_not_keepsScope (manager : server.jwtManager = some m)
    (loses : ¬ KeepsScope m now request.authorization) :
    extractOrgIDFromRequest server now request = "" := by
  simp only [extractOrgIDFromRequest, manager]
  split
  · rfl
  · next passed =>
    simp only [not_or, not_not] at passed
    cases valid : m.validate now (String.ofList (request.authorization.toList.drop 7)) with
    | error refusal => rfl
    | ok found =>
      refine absurd ⟨_, found, ?_, valid⟩ loses
      refine String.toList_inj.mp ?_
      have rest : (String.ofList (request.authorization.toList.drop 7)).toList =
          request.authorization.toList.drop 7 := String.toList_ofList
      rw [String.toList_append, rest, ← passed.2, List.take_append_drop]

end token

/-! ### What the guards grant -/

section guards

variable {store : Store} {orgID role : String} (context : Context)

/-- Some device is not assigned to an organization: the table is finite. -/
theorem exists_unassigned (store : Store) (orgID : String) :
    ∃ peer, store.getOrgDevice orgID peer = none := by
  obtain ⟨peer, unlisted⟩ :=
    Infinite.exists_notMem_finset (store.orgDevices.keys.map (·.2)).toFinset
  refine ⟨peer, AList.lookup_eq_none.mpr fun listed => unlisted ?_⟩
  exact List.mem_toFinset.mpr (List.mem_map.mpr ⟨(orgID, peer), listed, rfl⟩)

/-- A context whose role names no server-level role, and that kept its organization, is
confined. -/
theorem confined_of_unnamed (unnamed : validRole context.role = false)
    (kept : context.orgID = orgID) (present : orgID ≠ "")
    (unique : UniqueName store orgID context.username) :
    Confined store orgID context.role context where
  level required admitted := by
    simp only [requireRole, insufficientPermissions, ite_eq_left_iff, reduceCtorEq, imp_false,
      not_not, hasPermission, roleLevel_of_not_valid unnamed, decide_eq_true_eq] at admitted
    exact Nat.le_zero.mp admitted
  panel := by
    simp [requirePanelAdmin, insufficientPermissions, isSuperAdminRole_of_not_valid unnamed,
      ne_globalAdmin_of_not_valid unnamed]
  permission permission admitted := by
    refine ⟨unnamed, ?_⟩
    simp only [requirePermission, insufficientPermissions, isSuperAdminRole_of_not_valid unnamed,
      roleHasPermission_of_not_valid unnamed] at admitted
    cases stored : store.hasRolePermission context.role permission with
    | none => simp [stored] at admitted
    | some granted =>
      cases granted with
      | true => rfl
      | false => simp [stored] at admitted
  membership target admitted := by
    by_contra other
    have bypass : (isSuperAdminRole context.role || context.role == roleGlobalAdmin) = false := by
      simp [isSuperAdminRole_of_not_valid unnamed, ne_globalAdmin_of_not_valid unnamed]
    by_cases empty : target = ""
    · simp [requireOrgMembership, bypass, empty] at admitted
    · have absent := unique target empty other
      simp [requireOrgMembership, bypass, empty, kept, Ne.symm other, absent] at admitted
  device peer admitted := by
    rw [Option.isSome_iff_ne_none]
    simpa [peerOrgScopeCheck, isSuperAdminRole_of_not_valid unnamed,
      ne_globalAdmin_of_not_valid unnamed, kept, present] using admitted

/-- A confined context names no server-level role that an organization role is spelled like. -/
theorem unnamed_of_confined (orgRole : validOrgRole context.role = true)
    (confined : Confined store orgID context.role context) : validRole context.role = false := by
  by_contra named
  rcases (validRole_of_validOrgRole orgRole).mp (by simpa using named) with admin | operator
  · have admitted : requireRole roleViewer context = .admitted := by rw [requireRole, admin]; rfl
    exact absurd (confined.level roleViewer admitted) (by decide)
  · have admitted : requireRole roleViewer context = .admitted := by
      rw [requireRole, operator]; rfl
    exact absurd (confined.level roleViewer admitted) (by decide)

/-- A confined context kept its organization: without one every device is admitted. -/
theorem scoped_of_confined (confined : Confined store orgID role context) :
    context.orgID ≠ "" := by
  intro unscoped
  obtain ⟨peer, unassigned⟩ := exists_unassigned store orgID
  have admitted : peerOrgScopeCheck store peer context = .admitted := by
    simp [peerOrgScopeCheck, unscoped]
  have assigned := confined.device peer admitted
  rw [unassigned] at assigned
  cases assigned

/-- A confined context's user has no namesake in another organization. -/
theorem uniqueName_of_confined (named : context.username ≠ "")
    (confined : Confined store orgID role context) :
    UniqueName store orgID context.username := by
  intro other present different
  by_contra found
  refine different (confined.membership other ?_)
  have isMember : (store.getOrgUserByUsername other context.username).isSome = true :=
    Option.isSome_iff_ne_none.mpr found
  simp [requireOrgMembership, present, named, isMember]

end guards

/-! ### The exact reach of an organization's login -/

/-- A request that carries the token of an organization's user, before the token expires, is
confined to the organization exactly when the user's role names no server-level role, the
organization has an id, the header is spelled so that the organization is read from it, and no
other organization has a user of this name. -/
theorem orgLogin_confined_iff (server : Server) (comparePassword : String → String → Bool)
    (m : JWTManager) (issued : Int) (jti : String) (allowed : Bool) (body : Option OrgLoginBody)
    (before after : Store) (login : OrgLogin) (store : Store) (now : Int) (request : Request)
    (manager : server.jwtManager = some m)
    (accepted : handleOrgLogin server comparePassword issued jti allowed body before =
      (.ok login, after))
    (orgRole : validOrgRole login.user.role = true)
    (faithful : m.Faithful (JWTManager.orgClaims issued jti login.user.username login.user.role
      login.orgID m.expiry))
    (fresh : now ≤ issued + m.expiry) (carries : Carries request login.token) :
    (∀ context, authMiddleware server now request = some context →
        Confined store login.orgID login.user.role context) ↔
      validRole login.user.role = false ∧ login.orgID ≠ "" ∧
        KeepsScope m now request.authorization ∧
        UniqueName store login.orgID login.user.username := by
  obtain ⟨other, sameManager, _, named, token⟩ := handleOrgLogin_ok accepted
  cases Option.some.inj (sameManager.symm.trans manager)
  rw [token] at carries
  have active : login.user.role ≠ role2FAPending := by
    intro pending
    rw [pending] at orgRole
    exact absurd orgRole (by decide)
  have authenticated := authenticateRequest_of_carries manager faithful fresh active carries
  have context_eq : authMiddleware server now request =
      some ⟨login.user.username, login.user.role, extractOrgIDFromRequest server now request⟩ := by
    rw [authMiddleware, authenticated]
    rfl
  constructor
  · intro confined
    have here : Confined store login.orgID login.user.role
        ⟨login.user.username, login.user.role, extractOrgIDFromRequest server now request⟩ :=
      confined _ context_eq
    have kept : extractOrgIDFromRequest server now request ≠ "" := scoped_of_confined _ here
    have keeps : KeepsScope m now request.authorization := by
      by_contra loses
      exact kept (extractOrgID_of_not_keepsScope manager loses)
    have sameOrg : extractOrgIDFromRequest server now request = login.orgID :=
      extractOrgID_of_keepsScope manager faithful carries keeps
    have unnamed : validRole login.user.role = false :=
      unnamed_of_confined ⟨login.user.username, login.user.role, _⟩ orgRole here
    exact ⟨unnamed, sameOrg ▸ kept, keeps, uniqueName_of_confined _ named here⟩
  · rintro ⟨unnamed, present, keeps, unique⟩ context found
    rw [context_eq, Option.some_inj] at found
    subst found
    have sameOrg := extractOrgID_of_keepsScope manager faithful carries keeps
    exact confined_of_unnamed ⟨login.user.username, login.user.role, _⟩ unnamed sameOrg present
      unique

/-! ### A concrete organization -/

/-- A manager that encodes one payload. -/
def sampleManager (claims : Claims) : JWTManager where
  expiry := 3600
  header := "hs256"
  encode _ := "claims"
  decode _ := some claims
  sign _ := "mac"

def sampleUser (role : String) : OrgUser where
  id := "u1"
  orgID := "acme"
  serverUserID := 0
  username := "eve"
  displayName := ""
  email := ""
  passwordHash := "hash"
  role := role
  totpSecret := ""
  avatarURL := ""
  lastLogin := none
  createdAt := 0

def sampleStore (role : String) : Store where
  organizations := ∅
  orgUsers := AList.insert "u1" (sampleUser role) ∅
  orgDevices := ∅
  rolePermissions := ∅

def sampleServer (role : String) : Server where
  jwtManager := some (sampleManager (JWTManager.orgClaims 0 "jti" "eve" role "acme" 3600))
  clientSession _ := none
  apiKey _ := none

def sampleBody : OrgLoginBody where
  orgSlug := ""
  orgID := "acme"
  username := "eve"
  password := "secret"

/-- The login of the sample user in a role. -/
def sampleLogin (role : String) : Except (Nat × String) OrgLogin × Store :=
  handleOrgLogin (sampleServer role) (fun hash _ => hash == "hash") 0 "jti" true (some sampleBody)
    (sampleStore role)

def sampleRequest : Request where
  authorization := "Bearer hs256.claims.mac"
  apiKey := ""

theorem plain_sample : Plain "hs256" ∧ Plain "claims" ∧ Plain "mac" := by
  decide

theorem sampleManager_faithful (claims : Claims) : (sampleManager claims).Faithful claims where
  decode_encode := rfl
  header_plain := plain_sample.1
  encode_plain := plain_sample.2.1
  sign_plain _ := plain_sample.2.2

theorem sampleRequest_carries : Carries sampleRequest "hs256.claims.mac" :=
  ⟨"hs256.claims.mac", by decide, by decide⟩

theorem sampleRequest_keepsScope (role : String) :
    KeepsScope (sampleManager (JWTManager.orgClaims 0 "jti" "eve" role "acme" 3600)) 10
      sampleRequest.authorization :=
  ⟨"hs256.claims.mac", _, by decide, validate_signed (sampleManager_faithful _)
    (by simp [JWTManager.orgClaims])⟩

theorem sampleLogin_accepted (role : String) :
    sampleLogin role = (.ok ⟨"hs256.claims.mac", sampleUser role, "acme"⟩,
      (sampleStore role).updateOrgUserLogin "u1" 0) := by
  rfl

/-- The login of an organization's `admin` passes the guard of the server's administrators. -/
theorem orgAdmin_passes_panelAdmin : ∃ login after context,
    sampleLogin "admin" = (.ok login, after) ∧ validOrgRole login.user.role = true ∧
      Carries sampleRequest login.token ∧
      authMiddleware (sampleServer "admin") 10 sampleRequest = some context ∧
      requirePanelAdmin context = .admitted ∧
      ¬ Confined (sampleStore "admin") login.orgID login.user.role context := by
  have admitted : requirePanelAdmin ⟨"eve", "admin", "acme"⟩ = .admitted := by decide
  exact ⟨_, _, ⟨"eve", "admin", "acme"⟩, sampleLogin_accepted "admin", by decide,
    sampleRequest_carries, by decide, admitted, fun confined => confined.panel admitted⟩

theorem orgUser_confined : ∃ context,
    authMiddleware (sampleServer "user") 10 sampleRequest = some context ∧
      Confined (sampleStore "user") "acme" "user" context := by
  refine ⟨⟨"eve", "user", "acme"⟩, by decide, ?_⟩
  refine (orgLogin_confined_iff (sampleServer "user") (fun hash _ => hash == "hash") _ 0 "jti" true
    (some sampleBody) (sampleStore "user") _ _ (sampleStore "user") 10 sampleRequest rfl
    (sampleLogin_accepted "user") (by decide) (sampleManager_faithful _)
    (by decide) sampleRequest_carries).mpr
      ⟨by decide, by decide, sampleRequest_keepsScope "user", ?_⟩ _ (by decide)
  intro other _ different
  simp [Store.getOrgUserByUsername, sampleStore, sampleUser, different.symm]

end SovaDesk.Api
