/-
This file models the request handlers that write the users table, as programs over the
calls of the database.

A handler reads a row, checks it, changes some of its columns in memory and writes the
whole row back; between any two of its calls other handlers may run. What a handler
gets from outside the repository comes with its request: the answer of the directory or
of the identity provider, the hash of a new password, fresh secrets and codes. Limits
on the rate of requests, which refuse a request before its first call, are left out.
-/

import SovaDesk.Users.Store
import SovaDesk.Auth.Credentials

namespace SovaDesk.Users

open Interleave Auth

/-! ### What the handlers are given -/

/-- The packages the handlers call: the comparison of a password with its hash, the time-based
codes, the store of recovery codes, and the token manager. -/
structure Accounts where
  verifyPassword : String → String → Bool
  validateTOTP : String → String → Int → Bool
  totpUri : String → String → String → String
  recovery : RecoveryCrypto
  generate : String → String → Option String

/-- What a handler answers with. -/
inductive Body
  | error (text : String)
  | status (status : String) (id : Option Int)
  | created (id : Int) (username role : String)
  | totpSetup (secret uri : String)
  | totpEnabled (status : String) (recoveryCodes : List String)
  | loggedIn (token role username authProvider : String) (usedRecoveryCode : Bool)
  | requires2FA (partialToken : String)
  | page (success : Bool) (message : String)
  deriving DecidableEq

structure Response where
  status : Nat
  body : Body
  deriving DecidableEq

/-- The answers to a login with a recovery code. -/
def Response.recovered (response : Response) : Bool :=
  match response.body with
  | .loggedIn _ _ _ _ usedRecoveryCode => usedRecoveryCode
  | _ => false

/-- End a request with an error. -/
def refuse (status : Nat) (text : String) : Program users Response := .done ⟨status, .error text⟩

/-- The answer of the directory to a bind: the group's role may be unset. -/
structure LDAPResult where
  authenticated : Bool
  role : String
  deriving DecidableEq

/-- A password login: the credentials, whether a directory is configured and what it answered, the
hash of an unusable password and the new hash of this one. -/
structure PasswordLogin where
  username : String
  password : String
  ldapEnabled : Bool := false
  ldapResult : Option LDAPResult := none
  unusable : Option String := none
  rehashed : Option String := none
  deriving DecidableEq

/-- A second-factor login: the claims of the partial token, if it is valid, and the code. -/
structure SecondFactor where
  claims : Option Claims
  code : String
  now : Int
  deriving DecidableEq

/-- A login through the identity provider. -/
structure OIDCLogin where
  username : String
  role : String
  allowSignup : Bool
  hash : Option String
  deriving DecidableEq

/-- A new account, with the hash of its password. -/
structure NewUser where
  username : String
  password : String
  role : String
  hash : Option String
  deriving DecidableEq

/-- An edit of an account: an empty field is left as it is; the hash is that of the password. -/
structure UserEdit where
  password : String := ""
  role : String := ""
  hash : Option String := none
  deriving DecidableEq

/-- The requests that may write the table; an id is missing when the path holds none, a body when
it is no JSON. -/
inductive Request
  | login (body : Option PasswordLogin)
  | login2FA (body : Option SecondFactor)
  | oidcLogin (result : Option OIDCLogin) (waiting : Bool)
  | createUser (callerRole : String) (body : Option NewUser)
  | updateUser (id : Option Int) (callerUsername callerRole : String) (body : Option UserEdit)
  | deleteUser (id : Option Int) (callerUsername : String)
  | setupTOTP (id : Option Int) (secret : String)
  | confirmTOTP (id : Option Int) (code : Option String) (now : Int)
      (plainCodes hashes : Option (List String))
  | disableTOTP (id : Option Int)
  deriving DecidableEq

/-! ### Logins -/

inductive PasswordLoginStatus
  | ok
  | invalid
  | oidc
  | internal
  deriving DecidableEq

structure PasswordLoginResult where
  status : PasswordLoginStatus
  user : Option User := none
  authMethod : String := ""
  deriving DecidableEq

/-- The row a failed read leaves in the variable it was scanned into. -/
def User.zero : User := { id := 0, username := "", passwordHash := "", role := "" }

/-- The provider an account is bound to. -/
def providerOf : Option User → String
  | some user => if user.authProvider ≠ "" then user.authProvider else authProviderLocal
  | none => authProviderLocal

/-- Create the account of a user the directory knows and the server does not. -/
def provisionLDAP (login : PasswordLogin) (role : String) : Program users PasswordLoginResult :=
  match login.unusable with
  | none => .done { status := .internal }
  | some unusable =>
    .call (.createUser
      { id := 0, username := login.username, passwordHash := unusable, role,
        authProvider := authProviderLDAP }) fun
    | none => .done { status := .internal }
    | some _ =>
      .call (.getUser login.username) fun
      -- The error of this read is dropped, and the row it leaves behind is not nil.
      | none => .done { status := .ok, user := some .zero, authMethod := "ldap" }
      | some none => .done { status := .internal }
      | some (some user) => .done { status := .ok, user := some user, authMethod := "ldap" }

/-- Bring the stored role in line with the directory. -/
def syncLDAP (user : User) (directoryRole : String) : Program users PasswordLoginResult :=
  let newRole := directoryRole ≠ "" ∧ directoryRole ≠ user.role
  let newProvider := user.authProvider ≠ authProviderLDAP
  let synced := { user with
    role := if newRole then directoryRole else user.role
    authProvider := authProviderLDAP }
  let result := { status := .ok, user := some synced, authMethod := "ldap" }
  if newRole ∨ newProvider then .call (.updateUser synced) fun _ => .done result
  else .done result

/-- Check the password against the stored hash, and renew a hash of an outdated format. -/
def localLogin (accounts : Accounts) (login : PasswordLogin) (user : Option User) :
    Program users PasswordLoginResult :=
  match user with
  | none => .done { status := .invalid }
  | some user =>
    if providerOf (some user) ≠ authProviderLocal ∨
        accounts.verifyPassword user.passwordHash login.password = false then
      .done { status := .invalid }
    else if needsRehash user.passwordHash then
      match login.rehashed with
      | none => .done { status := .ok, user := some user }
      | some newHash =>
        let rehashed := { user with passwordHash := newHash }
        .call (.updateUser rehashed) fun _ => .done { status := .ok, user := some rehashed }
    else .done { status := .ok, user := some user }

/-- Authenticate a name and a password by the rules of the provider the account is bound to. -/
def authenticatePasswordLogin (accounts : Accounts) (login : PasswordLogin) :
    Program users PasswordLoginResult :=
  .call (.getUser login.username) fun
  | none => .done { status := .internal }
  | some user =>
    let provider := providerOf user
    if user.isSome ∧ provider = authProviderOIDC then .done { status := .oidc }
    else if login.ldapEnabled ∧ (user.isNone ∨ provider = authProviderLDAP) then
      match login.ldapResult.filter (·.authenticated) with
      | some ldapResult =>
        match user with
        | none =>
          provisionLDAP login (if ldapResult.role = "" then roleViewer else ldapResult.role)
        | some user => syncLDAP user ldapResult.role
      | none =>
        if user.isSome ∧ provider = authProviderLDAP then .done { status := .invalid }
        else localLogin accounts login user
    else localLogin accounts login user

/-- The role of a token that only opens the second factor. -/
def pendingRole : String := "__2fa_pending__"

/-- Note the login and answer with a token. -/
def finishLogin (accounts : Accounts) (user : User) (usedRecoveryCode : Bool) :
    Program users Response :=
  match accounts.generate user.username user.role with
  | none => refuse 500 "Token generation failed"
  | some token =>
    .call (.updateUserLogin user.id) fun _ =>
      .done ⟨200, .loggedIn token user.role user.username (providerOf (some user))
        usedRecoveryCode⟩

/-- Answer a password login: the second factor if the account has one, a token if not. -/
def answerLogin (accounts : Accounts) (login : PasswordLoginResult) : Program users Response :=
  match login.status, login.user with
  | .internal, _ => refuse 500 "Internal error"
  | .oidc, _ =>
    refuse 401 "This account uses single sign-on. Please log in with your identity provider."
  | .invalid, _ | .ok, none => refuse 401 "Invalid credentials"
  | .ok, some user =>
    if user.totpEnabled then
      match accounts.generate user.username pendingRole with
      | none => refuse 500 "Token generation failed"
      | some token => .done ⟨200, .requires2FA token⟩
    else finishLogin accounts user false

def handleLogin (accounts : Accounts) : Option PasswordLogin → Program users Response
  | none => refuse 400 "Invalid JSON"
  | some body =>
    if body.username = "" ∨ body.password = "" then refuse 400 "Username and password required"
    else (authenticatePasswordLogin accounts body).bind (answerLogin accounts)

/-- Complete a login with a time-based code or with a recovery code, which is then used up. -/
def handleLogin2FA (accounts : Accounts) : Option SecondFactor → Program users Response
  | none => refuse 400 "Invalid JSON"
  | some body =>
    match body.claims with
    | none => refuse 401 "Invalid or expired partial token"
    | some claims =>
      if claims.role ≠ pendingRole then refuse 400 "Not a 2FA partial token"
      else
        .call (.getUser claims.sub) fun
        | none | some none => refuse 401 "User not found"
        | some (some user) =>
          if accounts.validateTOTP user.totpSecret body.code body.now then
            finishLogin accounts user false
          else if user.totpRecoveryCodes = "" then refuse 401 "Invalid TOTP code"
          else
            match accounts.recovery.consumeRecoveryCode user.totpRecoveryCodes body.code with
            | (newStore, true, _) =>
              let user := { user with totpRecoveryCodes := newStore }
              .call (.updateUser user) fun
              | none => refuse 500 "internal error"
              | some _ => finishLogin accounts user true
            | (_, false, _) => refuse 401 "Invalid TOTP code"

/-- Find or create the account of an identity provider's user and bring its role in line; on
failure, the code of the error. -/
def ensureOIDCUser : Option OIDCLogin → Program users (Except String User)
  | none => .done (.error "oidc_error")
  | some login =>
    if login.username = "" then .done (.error "oidc_error")
    else
      .call (.getUser login.username) fun
      | none => .done (.error "oidc_error")
      | some none =>
        if login.allowSignup = false then .done (.error "oidc_no_account")
        else
          match login.hash with
          | none => .done (.error "oidc_error")
          | some hash =>
            .call (.createUser
              { id := 0, username := login.username, passwordHash := hash
                role := if login.role = "" then roleViewer else login.role
                authProvider := authProviderOIDC }) fun
            | none => .done (.error "oidc_error")
            | some _ =>
              .call (.getUser login.username) fun
              -- The error of this read is dropped, and the row it leaves behind is not nil.
              | none => .done (.ok .zero)
              | some none => .done (.error "oidc_error")
              | some (some user) => .done (.ok user)
      | some (some user) =>
        let newRole := login.role ≠ "" ∧ login.role ≠ user.role
        let newProvider := user.authProvider ≠ authProviderOIDC
        let synced := { user with
          role := if newRole then login.role else user.role
          authProvider := authProviderOIDC }
        if newRole ∨ newProvider then .call (.updateUser synced) fun _ => .done (.ok synced)
        else .done (.ok synced)

/-- The sentence shown for an error code. -/
def clientOIDCErrorMessage (code : String) : String :=
  if code = "oidc_denied" then "Access was denied by the identity provider."
  else if code = "oidc_invalid" then
    "Invalid OIDC response. Please try again from the RustDesk client."
  else if code = "oidc_failed" then
    "OIDC authentication failed. Check client secret and redirect URL."
  else if code = "oidc_no_account" then
    "Your account was not found and auto-provisioning is disabled."
  else "An error occurred during SSO login."

/-- Answer a desktop client's login through the identity provider; the login that waits for it may
have expired. -/
def answerOIDC (waiting : Bool) : Except String User → Program users Response
  | .error code => .done ⟨200, .page false (clientOIDCErrorMessage code)⟩
  | .ok user =>
    if waiting = false then
      .done ⟨200, .page false "Login session expired. Please try again from the RustDesk client."⟩
    else
      .call (.updateUserLogin user.id) fun _ =>
        .done ⟨200, .page true "You can close this window and return to RustDesk."⟩

def finishClientOIDCCallback (result : Option OIDCLogin) (waiting : Bool) :
    Program users Response :=
  (ensureOIDCUser result).bind (answerOIDC waiting)

/-! ### Accounts -/

def handleCreateUser (callerRole : String) : Option NewUser → Program users Response
  | none => refuse 400 "Invalid JSON"
  | some body =>
    let role := if body.role = "" then roleViewer else body.role
    if body.username = "" ∨ body.password = "" then refuse 400 "Username and password required"
    else if validRole role = false then refuse 400 "Invalid role"
    else if canAssignRole callerRole role = false then
      refuse 403 "Cannot assign a role higher than your own"
    else
      match body.hash with
      | none => refuse 500 "Password hash failed"
      | some hash =>
        .call (.createUser
          { id := 0, username := body.username, passwordHash := hash, role,
            authProvider := authProviderLocal }) fun
        | none => refuse 409 "Username already exists or DB error"
        | some id => .done ⟨201, .created id body.username role⟩

/-- The super-admins among the rows of a list. -/
def adminCount (listed : List User) : Int :=
  (listed.map fun user => if isSuperAdminRole user.role then (1 : Int) else 0).sum

/-- Go on only if the row that loses the role is not the last super-admin's. -/
def unlessLastAdmin (losesAdmin : Bool) (refusal : String) (rest : Program users Response) :
    Program users Response :=
  if losesAdmin = false then rest
  else
    .call .listUsers fun
    | none => refuse 500 "internal error"
    | some listed => if adminCount listed ≤ 1 then refuse 409 refusal else rest

/-- Go on only if the row is no server admin's, or the caller is a server admin. -/
def unlessServerAdmin (user : User) (callerUsername refusal : String)
    (rest : Program users Response) : Program users Response :=
  if user.isServerAdmin = false then rest
  else
    .call (.getUser callerUsername) fun
    | some (some callerUser) =>
      if callerUser.isServerAdmin = false then refuse 403 refusal else rest
    -- A read that fails leaves a row that is no server admin's.
    | none | some none => refuse 403 refusal

/-- Write an edited row and answer. -/
def saveUser (user : User) (response : Response) : Program users Response :=
  .call (.updateUser user) fun
  | none => refuse 500 "internal error"
  | some _ => .done response

/-- Set the password an edit asks for. -/
def editPassword (edit : UserEdit) (user : User) : Except Response User :=
  if edit.password = "" then .ok user
  else if providerOf (some user) ≠ authProviderLocal then
    .error ⟨400, .error "Cannot set a local password on an LDAP/OIDC account"⟩
  else
    match edit.hash with
    | none => .error ⟨500, .error "Password hash failed"⟩
    | some hash => .ok { user with passwordHash := hash }

def handleUpdateUser (id : Option Int) (callerUsername callerRole : String)
    (body : Option UserEdit) : Program users Response :=
  match id with
  | none => refuse 400 "Invalid user ID"
  | some id =>
    .call (.getUserByID id) fun
    | none | some none => refuse 404 "User not found"
    | some (some stored) =>
      match body with
      | none => refuse 400 "Invalid JSON"
      | some edit =>
        match editPassword edit stored with
        | .error response => .done response
        | .ok user =>
          let updated : Response := ⟨200, .status "updated" (some user.id)⟩
          if edit.role = "" then saveUser user updated
          else if validRole edit.role = false then refuse 400 "Invalid role"
          else if user.username = callerUsername ∧ roleLevel edit.role < roleLevel user.role then
            refuse 403 "Cannot demote yourself"
          else if canAssignRole callerRole edit.role = false then
            refuse 403 "Cannot assign a role higher than your own"
          else
            unlessLastAdmin (isSuperAdminRole user.role && !isSuperAdminRole edit.role)
                "Cannot demote the last admin" <|
              unlessServerAdmin user callerUsername
                  "Only server admins can modify other server admins" <|
                saveUser { user with role := edit.role } updated

def handleDeleteUser (id : Option Int) (callerUsername : String) : Program users Response :=
  match id with
  | none => refuse 400 "Invalid user ID"
  | some id =>
    .call (.getUserByID id) fun
    | none | some none => refuse 404 "User not found"
    | some (some user) =>
      unlessLastAdmin (isSuperAdminRole user.role) "Cannot delete the last admin user" <|
        unlessServerAdmin user callerUsername "Only server admins can delete other server admins" <|
          .call (.deleteUser id) fun
          | none => refuse 500 "internal error"
          | some _ => .done ⟨200, .status "deleted" none⟩

/-! ### The second factor -/

def handleSetupTOTP (accounts : Accounts) (id : Option Int) (secret : String) :
    Program users Response :=
  match id with
  | none => refuse 400 "Invalid user ID"
  | some id =>
    .call (.getUserByID id) fun
    | none | some none => refuse 404 "User not found"
    | some (some user) =>
      if user.totpEnabled then refuse 409 "TOTP already enabled"
      else
        saveUser { user with totpSecret := secret, totpEnabled := false }
          ⟨200, .totpSetup secret (accounts.totpUri secret "BetterDesk" user.username)⟩

def handleConfirmTOTP (accounts : Accounts) (id : Option Int) (code : Option String) (now : Int)
    (plainCodes hashes : Option (List String)) : Program users Response :=
  match id, code with
  | none, _ => refuse 400 "Invalid user ID"
  | some _, none => refuse 400 "Invalid JSON"
  | some id, some code =>
    .call (.getUserByID id) fun
    | none | some none => refuse 404 "User not found"
    | some (some user) =>
      if user.totpSecret = "" then refuse 400 "TOTP not set up — call setup first"
      else if accounts.validateTOTP user.totpSecret code now = false then
        refuse 401 "Invalid TOTP code"
      else
        match plainCodes, hashes with
        | some plain, some hashes =>
          saveUser
            { user with totpEnabled := true, totpRecoveryCodes := accounts.recovery.marshal hashes }
            ⟨200, .totpEnabled "totp_enabled" plain⟩
        | _, _ => refuse 500 "internal error"

def handleDisableTOTP (id : Option Int) : Program users Response :=
  match id with
  | none => refuse 400 "Invalid user ID"
  | some id =>
    .call (.getUserByID id) fun
    | none | some none => refuse 404 "User not found"
    | some (some user) =>
      saveUser { user with totpSecret := "", totpEnabled := false, totpRecoveryCodes := "" }
        ⟨200, .status "totp_disabled" none⟩

/-- The handler of each request. -/
def handle (accounts : Accounts) : Request → Program users Response
  | .login body => handleLogin accounts body
  | .login2FA body => handleLogin2FA accounts body
  | .oidcLogin result waiting => finishClientOIDCCallback result waiting
  | .createUser callerRole body => handleCreateUser callerRole body
  | .updateUser id callerUsername callerRole body =>
    handleUpdateUser id callerUsername callerRole body
  | .deleteUser id callerUsername => handleDeleteUser id callerUsername
  | .setupTOTP id secret => handleSetupTOTP accounts id secret
  | .confirmTOTP id code now plainCodes hashes =>
    handleConfirmTOTP accounts id code now plainCodes hashes
  | .disableTOTP id => handleDisableTOTP id

/-! ### An instance -/

/-- Packages that compare in the clear; a hash of the old format is the password behind its
prefix. -/
def plainAccounts : Accounts where
  verifyPassword stored password := stored == password || stored == "$2a$" ++ password
  validateTOTP secret code _ := secret == code
  totpUri secret issuer account :=
    "otpauth://totp/" ++ issuer ++ ":" ++ account ++ "?secret=" ++ secret ++ "&issuer=" ++ issuer
  recovery := plainRecovery
  generate username role := some (username ++ " as " ++ role)

end SovaDesk.Users
