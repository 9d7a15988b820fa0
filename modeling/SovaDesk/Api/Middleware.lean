/-
This file models how the management API decides whom a request speaks for and what it
may do: the authentication of a request, the middlewares that guard the handlers, and
the login of an organization's user.

The bearer header is read twice, by `authenticateRequest` for the user and the role and
by `extractOrgIDFromRequest` for the organization, and the two readings are kept apart
here as they are in the source. A guarded handler either runs or is answered with a
status and an error text. Client sessions and API keys enter as what their branches
answer for a token or a key; no token of an organization's user takes them.
-/

import SovaDesk.Lib.Table
import SovaDesk.Auth.Roles
import SovaDesk.Auth.Token

namespace SovaDesk.Api

open SovaDesk.Auth

/-! ### The data -/

structure Organization where
  id : String
  name : String
  slug : String
  logoURL : String
  settings : String
  createdAt : Int
  deriving DecidableEq

/-- A user account inside an organization. -/
structure OrgUser where
  id : String
  orgID : String
  serverUserID : Int
  username : String
  displayName : String
  email : String
  passwordHash : String
  role : String
  totpSecret : String
  avatarURL : String
  lastLogin : Option Int
  createdAt : Int
  deriving DecidableEq

/-- A device assigned to an organization. -/
structure OrgDevice where
  orgID : String
  deviceID : String
  assignedUserID : String
  department : String
  location : String
  building : String
  tags : String
  deriving DecidableEq

/-- The tables the middlewares read, by primary key. -/
structure Store where
  organizations : Table String Organization
  orgUsers : Table String OrgUser
  orgDevices : Table (String × String) OrgDevice
  rolePermissions : Table (String × String) Bool

namespace Store

def getOrganizationBySlug (store : Store) (slug : String) : Option Organization :=
  (store.organizations.entries.map (·.2)).find? fun org => org.slug == slug

def getOrgUserByUsername (store : Store) (orgID username : String) : Option OrgUser :=
  (store.orgUsers.entries.map (·.2)).find? fun user =>
    user.orgID == orgID && user.username == username

def getOrgDevice (store : Store) (orgID deviceID : String) : Option OrgDevice :=
  store.orgDevices.lookup (orgID, deviceID)

/-- The override stored for a role and a permission, if there is one. -/
def hasRolePermission (store : Store) (role permission : String) : Option Bool :=
  store.rolePermissions.lookup (role, permission)

def updateOrgUserLogin (store : Store) (id : String) (now : Int) : Store :=
  { store with
    orgUsers := store.orgUsers.update id fun user => { user with lastLogin := some now } }

theorem getOrgUserByUsername_some {store : Store} {orgID username : String} {user : OrgUser}
    (found : store.getOrgUserByUsername orgID username = some user) :
    user.orgID = orgID ∧ user.username = username := by
  have passed := List.find?_some found
  simpa using passed

end Store

/-- The parts of the server that authentication uses. The two last fields are what the opaque
client session branch and the API key branch answer: a username and a role. -/
structure Server where
  jwtManager : Option JWTManager
  clientSession : String → Option (String × String)
  apiKey : String → Option (String × String)

/-- The headers authentication reads. -/
structure Request where
  authorization : String
  apiKey : String

/-- What the authenticated request carries to its handler; the organization is empty for accounts
of the server. -/
structure Context where
  username : String
  role : String
  orgID : String
  deriving DecidableEq

/-- A guarded handler runs, or the request is answered with a status and an error. -/
inductive Verdict
  | admitted
  | refused (status : Nat) (error : String)
  deriving DecidableEq

/-! ### Authentication -/

/-- What follows the `Bearer ` prefix in any case, if anything does. -/
def bearerText (authorization : String) : Option String :=
  let text := authorization.toList
  if 7 < text.length ∧ (text.take 7).map Char.toLower = "bearer ".toList then
    some (String.ofList (text.drop 7))
  else none

def isOpaqueClientToken (token : String) : Bool :=
  token.toList.length == 64 &&
    token.toList.all fun c => c.toLower.isDigit || ('a' ≤ c.toLower && c.toLower ≤ 'f')

/-- The role of a token that still waits for its second factor. -/
def role2FAPending : String := "__2fa_pending__"

/-- The fallback to the `X-API-Key` header. -/
def authenticateAPIKey (server : Server) (request : Request) : Option (String × String) :=
  if request.apiKey = "" then none else server.apiKey request.apiKey

/-- Who a request speaks for, and in which role. -/
def authenticateRequest (server : Server) (now : Int) (request : Request) :
    Option (String × String) :=
  match bearerText request.authorization with
  | none => authenticateAPIKey server request
  | some text =>
    let token := trimSpace text
    if isOpaqueClientToken token then server.clientSession token
    else
      match server.jwtManager with
      | none => authenticateAPIKey server request
      | some m =>
        match m.validate now token with
        | .ok claims =>
          if claims.role ≠ role2FAPending then some (claims.sub, claims.role)
          else authenticateAPIKey server request
        | .error _ => authenticateAPIKey server request

/-- The organization of a request: only the exact prefix counts, and the rest is not trimmed. -/
def extractOrgIDFromRequest (server : Server) (now : Int) (request : Request) : String :=
  match server.jwtManager with
  | none => ""
  | some m =>
    let text := request.authorization.toList
    if text.length ≤ 7 ∨ text.take 7 ≠ "Bearer ".toList then ""
    else
      match m.validate now (String.ofList (text.drop 7)) with
      | .ok claims => claims.orgID
      | .error _ => ""

/-- The context of an authenticated request; none is answered with 401. -/
def authMiddleware (server : Server) (now : Int) (request : Request) : Option Context :=
  (authenticateRequest server now request).map fun (username, role) =>
    { username, role, orgID := extractOrgIDFromRequest server now request }

/-! ### The guards -/

/-- The refusal the three role guards share. -/
def insufficientPermissions : Verdict := .refused 403 "Insufficient permissions"

def requireRole (role : String) (context : Context) : Verdict :=
  if hasPermission context.role role then .admitted else insufficientPermissions

def requirePanelAdmin (context : Context) : Verdict :=
  if isSuperAdminRole context.role || context.role == roleGlobalAdmin then .admitted
  else insufficientPermissions

/-- An override in the database decides before the built-in permissions do. -/
def requirePermission (store : Store) (permission : String) (context : Context) : Verdict :=
  if isProRole context.role && proRoleBlocksPermission permission then insufficientPermissions
  else if isSuperAdminRole context.role then .admitted
  else
    match store.hasRolePermission context.role permission with
    | some granted =>
      if granted && !(isProRole context.role && proRoleBlocksPermission permission) then .admitted
      else insufficientPermissions
    | none =>
      if roleHasPermission context.role permission then .admitted else insufficientPermissions

/-- The guard of an organization's own pages. -/
def requireOrgMembership (store : Store) (targetOrgID : String) (context : Context) : Verdict :=
  if isSuperAdminRole context.role || context.role == roleGlobalAdmin then .admitted
  else if targetOrgID = "" then .refused 400 "Organization ID required"
  else if context.orgID ≠ "" ∧ context.orgID = targetOrgID then .admitted
  else if context.username ≠ "" ∧
      (store.getOrgUserByUsername targetOrgID context.username).isSome then .admitted
  else .refused 403 "Not a member of this organization"

/-- The guard of a single device. -/
def peerOrgScopeCheck (store : Store) (peerID : String) (context : Context) : Verdict :=
  if isSuperAdminRole context.role || context.role == roleGlobalAdmin then .admitted
  else if context.orgID = "" then .admitted
  else if (store.getOrgDevice context.orgID peerID).isSome then .admitted
  else .refused 403 "Device not in your organization"

/-! ### The login of an organization's user -/

structure OrgLoginBody where
  orgSlug : String
  orgID : String
  username : String
  password : String

/-- The reply to a successful login. -/
structure OrgLogin where
  token : String
  user : OrgUser
  orgID : String

/-- The organization a login names, by its id or by its slug. -/
def resolveLoginOrg (store : Store) (body : OrgLoginBody) : Except (Nat × String) String :=
  if body.orgID ≠ "" then .ok body.orgID
  else if body.orgSlug ≠ "" then
    match store.getOrganizationBySlug body.orgSlug with
    | none => .error (404, "organization not found")
    | some org => .ok org.id
  else .error (400, "org_id or org_slug is required")

/-- `handleOrgLogin`: `allowed` is the rate limiter's answer, `body` is `none` where the JSON does
not decode, and `comparePassword` is bcrypt's comparison of a hash with a password. -/
def handleOrgLogin (server : Server) (comparePassword : String → String → Bool) (now : Int)
    (jti : String) (allowed : Bool) (body : Option OrgLoginBody) (store : Store) :
    Except (Nat × String) OrgLogin × Store :=
  if !allowed then (.error (429, "too many login attempts"), store)
  else
    match body with
    | none => (.error (400, "invalid JSON"), store)
    | some body =>
      let username := trimSpace body.username
      if username = "" ∨ body.password = "" then
        (.error (400, "username and password are required"), store)
      else
        match resolveLoginOrg store body with
        | .error refusal => (.error refusal, store)
        | .ok orgID =>
          match store.getOrgUserByUsername orgID username with
          | none => (.error (401, "invalid credentials"), store)
          | some user =>
            if !comparePassword user.passwordHash body.password then
              (.error (401, "invalid credentials"), store)
            else
              match server.jwtManager with
              | none =>
                (.error (500, "JWT not configured"), store.updateOrgUserLogin user.id now)
              | some m =>
                let token := m.generateOrgToken now jti user.username user.role orgID m.expiry
                (.ok { token, user, orgID }, store.updateOrgUserLogin user.id now)

/-- What a successful login guarantees: the token is signed by the server's manager for a user of
the organization it names. -/
theorem handleOrgLogin_ok {server : Server} {comparePassword : String → String → Bool} {now : Int}
    {jti : String} {allowed : Bool} {body : Option OrgLoginBody} {store after : Store}
    {login : OrgLogin}
    (accepted : handleOrgLogin server comparePassword now jti allowed body store =
      (.ok login, after)) :
    ∃ m, server.jwtManager = some m ∧ login.user.orgID = login.orgID ∧ login.user.username ≠ "" ∧
      login.token = m.signed (JWTManager.orgClaims now jti login.user.username login.user.role
        login.orgID m.expiry) := by
  unfold handleOrgLogin at accepted
  split at accepted
  · cases accepted
  cases body with
  | none => cases accepted
  | some body =>
    dsimp only at accepted
    split at accepted
    · cases accepted
    next named =>
    cases resolved : resolveLoginOrg store body with
    | error refusal => rw [resolved] at accepted; cases accepted
    | ok orgID =>
      rw [resolved] at accepted
      dsimp only at accepted
      cases found : store.getOrgUserByUsername orgID (trimSpace body.username) with
      | none => rw [found] at accepted; cases accepted
      | some user =>
        rw [found] at accepted
        dsimp only at accepted
        split at accepted
        · cases accepted
        cases manager : server.jwtManager with
        | none => rw [manager] at accepted; cases accepted
        | some m =>
          rw [manager] at accepted
          cases accepted
          obtain ⟨sameOrg, sameName⟩ := Store.getOrgUserByUsername_some found
          refine ⟨m, rfl, sameOrg, ?_, rfl⟩
          rw [sameName]
          exact fun empty => named (Or.inl empty)

end SovaDesk.Api
