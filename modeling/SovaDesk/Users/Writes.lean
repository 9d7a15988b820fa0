/-
This file says what the handlers write, once and for every handler.

Along every path of a handler's program three things are tracked: the rows it has read,
whether it has written, and the answer it ends with. A handler writes back the first
row it read under an id with some of its own columns changed; it deletes or takes a
role away from a super-admin it saw only after it counted the super-admins; and it
reports success of an edit only after the write. The claims about interleavings are
read off this one description.
-/

import SovaDesk.Users.Handlers

namespace SovaDesk.Users

open Interleave Auth

/-! ### What a request may write -/

/-- The row a request writes, given the row it read. -/
inductive Edit (accounts : Accounts) : Request → User → User → Prop
  | ldapRole (login : PasswordLogin) (directory : LDAPResult) (read : User)
      (answered : login.ldapResult = some directory)
      (bound : providerOf (some read) = authProviderLDAP) :
      Edit accounts (.login (some login)) read
        { read with role := directory.role, authProvider := authProviderLDAP }
  | rehash (login : PasswordLogin) (newHash : String) (read : User)
      (renewed : login.rehashed = some newHash)
      (bound : providerOf (some read) = authProviderLocal) :
      Edit accounts (.login (some login)) read { read with passwordHash := newHash }
  | recoveryCode (factor : SecondFactor) (read : User) (newStore hash : String)
      (consumed : (accounts.recovery.consumeRecoveryCode read.totpRecoveryCodes factor.code).1 =
        newStore)
      (matched : accounts.recovery.matchedHash read.totpRecoveryCodes factor.code = some hash)
      (erased : accounts.recovery.hashesOf newStore =
        (accounts.recovery.hashesOf read.totpRecoveryCodes).erase hash) :
      Edit accounts (.login2FA (some factor)) read { read with totpRecoveryCodes := newStore }
  | oidcRole (login : OIDCLogin) (waiting : Bool) (read : User) :
      Edit accounts (.oidcLogin (some login) waiting) read
        { read with
          role := if login.role = "" then read.role else login.role
          authProvider := authProviderOIDC }
  | account (id : Int) (callerUsername callerRole : String) (edit : UserEdit) (read : User)
      (newHash role : String) (hashKept : edit.password = "" → newHash = read.passwordHash)
      (hashSet : edit.password ≠ "" → edit.hash = some newHash)
      (roleSet : role = if edit.role = "" then read.role else edit.role) :
      Edit accounts (.updateUser (some id) callerUsername callerRole (some edit)) read
        { read with passwordHash := newHash, role }
  | setup (id : Int) (secret : String) (read : User) :
      Edit accounts (.setupTOTP (some id) secret) read
        { read with totpSecret := secret, totpEnabled := false }
  | confirm (id : Int) (code : String) (now : Int) (plain hashes : List String) (read : User) :
      Edit accounts (.confirmTOTP (some id) (some code) now (some plain) (some hashes)) read
        { read with
          totpEnabled := true, totpRecoveryCodes := accounts.recovery.marshal hashes }
  | disable (id : Int) (read : User) :
      Edit accounts (.disableTOTP (some id)) read
        { read with totpSecret := "", totpEnabled := false, totpRecoveryCodes := "" }

variable {request : Request} {accounts : Accounts}

theorem Edit.id_eq {read row : User}
    (edit : Edit accounts request read row) : row.id = read.id := by
  cases edit <;> rfl

/-- The requests that exist to edit an account. -/
def Request.edits : Request → Bool
  | .updateUser _ _ _ _ | .setupTOTP _ _ | .confirmTOTP _ _ _ _ _ | .disableTOTP _ => true
  | _ => false

/-- The requests that complete a login with a second factor. -/
def Request.secondFactor : Request → Bool
  | .login2FA _ => true
  | _ => false

/-- The first row read under the id of a row. -/
def firstRead (read : List User) (row : User) : Option User :=
  read.find? fun user => user.id == row.id

/-! ### The shape of the handlers -/

/-- The calls that may take a role from a stored row. -/
def UserCall.writes : UserCall → Bool
  | .updateUser _ | .deleteUser _ => true
  | _ => false

variable {user : User}

section shape

variable {Result : Type}

/-- A program that writes no stored row any more. -/
def Silent : Program users Result → Prop :=
  Program.Always fun request _ => request.writes = false

/-- The shape of a program that runs for a request, from the rows it has read, the oldest first,
and from whether it has written: what it writes back, that it stops after counting one super-admin
at most, and what holds when it ends. -/
def Shaped (accounts : Accounts) (request : Request)
    (post : List User → Bool → Result → Prop) :
    List User → Bool → Program users Result → Prop
  | read, wrote, .done result => post read wrote result
  | read, wrote, .call (.getUser _) next =>
    ∀ answer : Option (Option User),
      Shaped accounts request post (read ++ answer.join.toList) wrote (next answer)
  | read, wrote, .call (.getUserByID _) next =>
    ∀ answer : Option (Option User),
      Shaped accounts request post (read ++ answer.join.toList) wrote (next answer)
  | read, wrote, .call .listUsers next =>
    (∀ listed : List User, adminCount listed ≤ 1 → Silent (next (some listed))) ∧
      ∀ answer, Shaped accounts request post read wrote (next answer)
  | read, wrote, .call (.updateUser row) next =>
    (∃ first, firstRead read row = some first ∧ Edit accounts request first row) ∧
      Shaped accounts request post read wrote (next none) ∧
      Shaped accounts request post read true (next (some ()))
  | read, wrote, .call (.createUser _) next =>
    ∀ answer, Shaped accounts request post read wrote (next answer)
  | read, wrote, .call (.deleteUser _) next =>
    ∀ answer, Shaped accounts request post read wrote (next answer)
  | read, wrote, .call (.updateUserLogin _) next =>
    ∀ answer, Shaped accounts request post read wrote (next answer)

theorem silent_bind {Other : Type} {program : Program users Other}
    {rest : Other → Program users Result} (first : Silent program)
    (after : ∀ result, Silent (rest result)) : Silent (program.bind rest) := by
  induction program with
  | done result => exact after result
  | call request next inductionHypothesis =>
    exact ⟨first.1, fun answer => inductionHypothesis answer (first.2 answer)⟩

/-- The shape of a program that goes on with one that writes nothing. -/
theorem shaped_bind {Other : Type}
    {post : List User → Bool → Result → Prop} {program : Program users Other}
    {rest : Other → Program users Result} (after : ∀ result, Silent (rest result))
    {read : List User} {wrote : Bool}
    (shaped : Shaped accounts request
      (fun read wrote result => Shaped accounts request post read wrote (rest result)) read wrote
      program) :
    Shaped accounts request post read wrote (program.bind rest) := by
  induction program generalizing read wrote with
  | done result => exact shaped
  | call call next inductionHypothesis =>
    cases call with
    | getUser username => exact fun answer => inductionHypothesis answer (shaped answer)
    | getUserByID id => exact fun answer => inductionHypothesis answer (shaped answer)
    | listUsers =>
      exact ⟨fun listed few => silent_bind (shaped.1 listed few) after,
        fun answer => inductionHypothesis answer (shaped.2 answer)⟩
    | updateUser row =>
      exact ⟨shaped.1, inductionHypothesis none shaped.2.1,
        inductionHypothesis (some ()) shaped.2.2⟩
    | createUser user => exact fun answer => inductionHypothesis answer (shaped answer)
    | deleteUser id => exact fun answer => inductionHypothesis answer (shaped answer)
    | updateUserLogin id => exact fun answer => inductionHypothesis answer (shaped answer)

/-- The rows a call reads that a handler may write back. -/
def readBy : (call : UserCall) → Option call.Answer → List User
  | .getUser _, answer => answer.join.toList
  | .getUserByID _, answer => answer.join.toList
  | _, _ => []

theorem readBy_none (call : UserCall) : readBy call none = [] := by
  cases call <;> rfl

/-- The rows each running handler has read, the oldest first, as an observer notes them. -/
abbrev Reads := Table Nat (List User)

/-- The rows a running handler has read. -/
def Reads.of (reads : Reads) (thread : Nat) : List User := (reads.lookup thread).getD []

/-- Note the rows a handler has read by now. -/
def Reads.note (reads : Reads) (thread : Nat) (rows : List User) : Reads :=
  reads.insert thread rows

theorem Reads.of_note (reads : Reads) (thread other : Nat) (rows : List User) :
    (reads.note thread rows).of other = if other = thread then rows else reads.of other := by
  rw [Reads.of, Reads.note, Table.lookup_insert_if]
  split <;> rfl

def UserCall.updates : UserCall → Bool
  | .updateUser _ => true
  | _ => false

/-- What a call that updates no row leaves in the table: rows it held before, or a new row, which
has no recovery codes. -/
theorem lookup_of_perform {call : UserCall} {table after : UserTable} {answer : call.Answer}
    (performed : call.perform table = some (answer, after)) (noUpdate : call.updates = false)
    {id : Int} (lookup : after.rows.lookup id = some user) :
    table.rows.lookup id = some user ∨ (id = table.nextID ∧ user.totpRecoveryCodes = "") := by
  cases call with
  | updateUser row => exact absurd noUpdate Bool.noConfusion
  | createUser row =>
    rw [UserCall.perform] at performed
    split_ifs at performed
    rw [← (Prod.mk.inj (Option.some.inj performed)).2] at lookup
    rcases Table.lookup_insert_iff.mp lookup with ⟨isNext, rfl⟩ | ⟨_, older⟩
    · exact .inr ⟨isNext, rfl⟩
    · exact .inl older
  | deleteUser other =>
    rw [← (Prod.mk.inj (Option.some.inj performed)).2] at lookup
    exact .inl (Table.lookup_erase_iff.mp lookup).2
  | getUser | getUserByID | listUsers | updateUserLogin =>
    rw [← (Prod.mk.inj (Option.some.inj performed)).2] at lookup
    exact .inl lookup

/-- The shape of what follows a call. -/
theorem shaped_next
    {post : List User → Bool → Result → Prop} {read : List User} {wrote : Bool} {call : UserCall}
    {next : Option call.Answer → Program users Result}
    (shaped : Shaped accounts request post read wrote (.call call next))
    (answer : Option call.Answer) :
    Shaped accounts request post (read ++ readBy call answer)
      (wrote || (call.updates && answer.isSome)) (next answer) := by
  cases call with
  | getUser username => exact (Bool.or_false wrote).symm ▸ shaped answer
  | getUserByID id => exact (Bool.or_false wrote).symm ▸ shaped answer
  | updateUser row =>
    cases answer with
    | none => exact (List.append_nil read).symm ▸ (Bool.or_false wrote).symm ▸ shaped.2.1
    | some answer => exact (List.append_nil read).symm ▸ (Bool.or_true wrote).symm ▸ shaped.2.2
  | listUsers => exact (List.append_nil read).symm ▸ (Bool.or_false wrote).symm ▸ shaped.2 answer
  | createUser user =>
    exact (List.append_nil read).symm ▸ (Bool.or_false wrote).symm ▸ shaped answer
  | deleteUser id =>
    exact (List.append_nil read).symm ▸ (Bool.or_false wrote).symm ▸ shaped answer
  | updateUserLogin id =>
    exact (List.append_nil read).symm ▸ (Bool.or_false wrote).symm ▸ shaped answer

end shape

variable {response : Response}

section handlers

variable {accounts : Accounts} {request : Request} {read : List User} {wrote : Bool}

/-- An edit is answered with success only after its write, and so is a second factor with a login
by a recovery code. -/
structure Answered (request : Request) (_ : List User) (wrote : Bool) (response : Response) :
    Prop where
  edit : request.edits = true → response.status = 200 → wrote = true
  recovery : response.recovered = true → wrote = true ∧ request.secondFactor = true

theorem shaped_refuse {status : Nat} (text : String) (failure : status ≠ 200) :
    Shaped accounts request (Answered request) read wrote (refuse status text) where
  edit := fun _ success => absurd success failure
  recovery := fun recovered => absurd recovered Bool.false_ne_true

/-- An answer to a request that edits no account, other than a login with a recovery code. -/
theorem shaped_done (noEdit : request.edits = false) (noCode : response.recovered = false) :
    Shaped accounts request (Answered request) read wrote (.done response) where
  edit := fun isEdit => absurd (noEdit.symm.trans isEdit) Bool.false_ne_true
  recovery := fun recovered => absurd (noCode.symm.trans recovered) Bool.false_ne_true

theorem silent_refuse (status : Nat) (text : String) : Silent (refuse status text) := trivial

theorem shaped_saveUser {row first : User}
    (noCode : response.recovered = false) (found : firstRead read row = some first)
    (edit : Edit accounts request first row) :
    Shaped accounts request (Answered request) read wrote (saveUser row response) :=
  ⟨⟨first, found, edit⟩, shaped_refuse _ (by decide), fun _ _ => rfl,
    fun recovered => absurd (noCode.symm.trans recovered) Bool.false_ne_true⟩

theorem shaped_unlessLastAdmin {losesAdmin : Bool} {rest : Program users Response}
    (refusal : String) (shaped : Shaped accounts request (Answered request) read wrote rest) :
    Shaped accounts request (Answered request) read wrote
      (unlessLastAdmin losesAdmin refusal rest) := by
  unfold unlessLastAdmin
  split
  · exact shaped
  · refine ⟨fun listed few => ?_, fun answer => ?_⟩
    · simp only [if_pos few]
      exact silent_refuse _ _
    · cases answer with
      | none => exact shaped_refuse _ (by decide)
      | some listed =>
        show Shaped accounts request (Answered request) read wrote
          (if adminCount listed ≤ 1 then refuse 409 refusal else rest)
        split
        · exact shaped_refuse _ (by decide)
        · exact shaped

theorem shaped_unlessServerAdmin {rest : Program users Response} (callerUsername refusal : String)
    (shaped : ∀ more, Shaped accounts request (Answered request) (read ++ more) wrote rest) :
    Shaped accounts request (Answered request) read wrote
      (unlessServerAdmin user callerUsername refusal rest) := by
  unfold unlessServerAdmin
  split
  · have here := shaped []
    rwa [List.append_nil] at here
  · intro answer
    match answer with
    | none | some none => exact shaped_refuse _ (by decide)
    | some (some callerUser) =>
      show Shaped accounts request (Answered request) (read ++ [callerUser]) wrote
        (if callerUser.isServerAdmin = false then refuse 403 refusal else rest)
      split
      · exact shaped_refuse _ (by decide)
      · exact shaped [callerUser]

end handlers

/-! ### Every handler has the shape -/

section every

variable {accounts : Accounts}

/-- A row read first is found again under the id it is written with. -/
theorem find_first (first : User) (more : List User) {row : User} (same : row.id = first.id) :
    firstRead (first :: more) row = some first :=
  List.find?_cons_of_pos (by rw [same]; exact beq_self_eq_true _)

theorem editPassword_ok {edit : UserEdit} {stored : User}
    (edited : editPassword edit stored = .ok user) :
    ∃ newHash, user = { stored with passwordHash := newHash } ∧
      (edit.password = "" → newHash = stored.passwordHash) ∧
      (edit.password ≠ "" → edit.hash = some newHash) := by
  unfold editPassword at edited
  split_ifs at edited with kept bound
  · exact ⟨stored.passwordHash, (Except.ok.inj edited).symm, fun _ => rfl,
      fun set => absurd kept set⟩
  · cases hashed : edit.hash with
    | none =>
      rw [hashed] at edited
      exact (nomatch edited)
    | some hash =>
      rw [hashed] at edited
      exact ⟨hash, (Except.ok.inj edited).symm, fun empty => absurd empty kept, fun _ => rfl⟩

theorem editPassword_error {edit : UserEdit} {stored : User}
    (refused : editPassword edit stored = .error response) :
    ∃ status text, response = ⟨status, .error text⟩ ∧ status ≠ 200 := by
  unfold editPassword at refused
  split_ifs at refused
  · exact ⟨400, _, (Except.error.inj refused).symm, by decide⟩
  · cases hashed : edit.hash with
    | none =>
      rw [hashed] at refused
      exact ⟨500, _, (Except.error.inj refused).symm, by decide⟩
    | some hash =>
      rw [hashed] at refused
      exact (nomatch refused)

variable (id : Option Int)

theorem shaped_updateUser (callerUsername callerRole : String) (body : Option UserEdit) :
    Shaped accounts (.updateUser id callerUsername callerRole body)
      (Answered (.updateUser id callerUsername callerRole body)) [] false
      (handleUpdateUser id callerUsername callerRole body) := by
  cases id with
  | none => exact shaped_refuse _ (by decide)
  | some id =>
    rintro (_ | _ | stored)
    · exact shaped_refuse _ (by decide)
    · exact shaped_refuse _ (by decide)
    · cases body with
      | none => exact shaped_refuse _ (by decide)
      | some edit =>
        dsimp only [handleUpdateUser]
        cases edited : editPassword edit stored with
        | error response =>
          obtain ⟨status, text, rfl, failure⟩ := editPassword_error edited
          exact shaped_refuse text failure
        | ok user =>
          obtain ⟨newHash, rfl, hashKept, hashSet⟩ := editPassword_ok edited
          dsimp only
          split_ifs with noRole
          · exact shaped_saveUser rfl (find_first stored [] rfl)
              (.account id callerUsername callerRole edit stored newHash stored.role hashKept
                hashSet (if_pos noRole).symm)
          · exact shaped_refuse _ (by decide)
          · exact shaped_refuse _ (by decide)
          · exact shaped_refuse _ (by decide)
          · refine shaped_unlessLastAdmin _ (shaped_unlessServerAdmin _ _ fun more => ?_)
            exact shaped_saveUser rfl (find_first stored more rfl)
              (.account id callerUsername callerRole edit stored newHash edit.role hashKept hashSet
                (if_neg noRole).symm)

theorem shaped_deleteUser (callerUsername : String) :
    Shaped accounts (.deleteUser id callerUsername) (Answered (.deleteUser id callerUsername)) []
      false (handleDeleteUser id callerUsername) := by
  cases id with
  | none => exact shaped_refuse _ (by decide)
  | some id =>
    intro answer
    match answer with
    | none | some none => exact shaped_refuse _ (by decide)
    | some (some user) =>
      refine shaped_unlessLastAdmin _ (shaped_unlessServerAdmin _ _ fun more answer => ?_)
      cases answer with
      | none => exact shaped_refuse _ (by decide)
      | some _ => exact shaped_done rfl rfl

theorem shaped_createUser (callerRole : String) (body : Option NewUser) :
    Shaped accounts (.createUser callerRole body) (Answered (.createUser callerRole body)) [] false
      (handleCreateUser callerRole body) := by
  cases body with
  | none => exact shaped_refuse _ (by decide)
  | some body =>
    unfold handleCreateUser
    dsimp only
    generalize (if body.role = "" then roleViewer else body.role) = role
    split_ifs
    · exact shaped_refuse _ (by decide)
    · exact shaped_refuse _ (by decide)
    · exact shaped_refuse _ (by decide)
    · cases body.hash with
      | none => exact shaped_refuse _ (by decide)
      | some hash =>
        intro answer
        cases answer with
        | none => exact shaped_refuse _ (by decide)
        | some id => exact shaped_done rfl rfl

/-- A login is no edit that was asked for, and one with a recovery code comes after the write. -/
theorem shaped_finishLogin {wrote usedRecoveryCode : Bool} (user : User)
    (login : request.edits = false)
    (usedUp : usedRecoveryCode = true → wrote = true ∧ request.secondFactor = true)
    (read : List User) :
    Shaped accounts request (Answered request) read wrote
      (finishLogin accounts user usedRecoveryCode) := by
  unfold finishLogin
  cases accounts.generate user.username user.role with
  | none => exact shaped_refuse _ (by decide)
  | some token =>
    exact fun _ => ⟨fun isEdit => absurd (login.symm.trans isEdit) Bool.false_ne_true, usedUp⟩

theorem silent_finishLogin (user : User) (usedRecoveryCode : Bool) :
    Silent (finishLogin accounts user usedRecoveryCode) := by
  unfold finishLogin
  cases accounts.generate user.username user.role with
  | none => exact silent_refuse _ _
  | some token => exact ⟨rfl, fun _ => trivial⟩

theorem silent_answerLogin (login : PasswordLoginResult) :
    Silent (answerLogin accounts login) := by
  unfold answerLogin
  split
  · exact silent_refuse _ _
  · exact silent_refuse _ _
  · exact silent_refuse _ _
  · exact silent_refuse _ _
  · next user _ _ =>
    split
    · cases accounts.generate user.username pendingRole with
      | none => exact silent_refuse _ _
      | some token => trivial
    · exact silent_finishLogin user false

theorem shaped_answerLogin (login : request.edits = false) (read : List User)
    (wrote : Bool) (result : PasswordLoginResult) :
    Shaped accounts request (Answered request) read wrote (answerLogin accounts result) := by
  unfold answerLogin
  split
  · exact shaped_refuse _ (by decide)
  · exact shaped_refuse _ (by decide)
  · exact shaped_refuse _ (by decide)
  · exact shaped_refuse _ (by decide)
  · next user _ _ =>
    split
    · cases accounts.generate user.username pendingRole with
      | none => exact shaped_refuse _ (by decide)
      | some token => exact shaped_done login rfl
    · exact shaped_finishLogin user login (fun used => absurd used Bool.false_ne_true) read

section login

variable {login : PasswordLogin} {post : List User → Bool → PasswordLoginResult → Prop}

section

variable (any : ∀ read wrote result, post read wrote result)

include any

theorem shaped_provisionLDAP (role : String) (read : List User) (wrote : Bool) :
    Shaped accounts (.login (some login)) post read wrote (provisionLDAP login role) := by
  unfold provisionLDAP
  cases login.unusable with
  | none => exact any _ _ _
  | some unusable =>
    intro created
    cases created with
    | none => exact any _ _ _
    | some id =>
      intro answer
      match answer with
      | none | some none | some (some _) => exact any _ _ _

theorem shaped_syncLDAP {directory : LDAPResult} (answered : login.ldapResult = some directory)
    (bound : providerOf (some user) = authProviderLDAP) :
    Shaped accounts (.login (some login)) post [user] false (syncLDAP user directory.role) := by
  have isLDAP : user.authProvider = authProviderLDAP := by
    unfold providerOf at bound
    dsimp only at bound
    split_ifs at bound with named
    · exact bound
    · exact absurd bound (by decide)
  unfold syncLDAP
  dsimp only
  split
  · next changed =>
    -- The provider is the directory already, so it is the role that has changed.
    rw [if_pos (changed.resolve_right (not_not_intro isLDAP))]
    exact ⟨⟨user, find_first user [] rfl, .ldapRole login directory user answered bound⟩,
      any _ _ _, any _ _ _⟩
  · exact any _ _ _

theorem shaped_localLogin (user : Option User) :
    Shaped accounts (.login (some login)) post user.toList false
      (localLogin accounts login user) := by
  unfold localLogin
  cases user with
  | none => exact any _ _ _
  | some user =>
    dsimp only
    split_ifs with refused outdated
    · exact any _ _ _
    · cases renewed : login.rehashed with
      | none => exact any _ _ _
      | some newHash =>
        have isLocal : providerOf (some user) = authProviderLocal := by
          by_contra other
          exact refused (.inl other)
        exact ⟨⟨user, find_first user [] rfl, .rehash login newHash user renewed isLocal⟩,
          any _ _ _,
          any _ _ _⟩
    · exact any _ _ _

theorem shaped_authenticatePasswordLogin : Shaped accounts (.login (some login)) post [] false
      (authenticatePasswordLogin accounts login) := by
  intro answer
  cases answer with
  | none => exact any _ _ _
  | some user =>
    show Shaped accounts _ post user.toList false
      (if user.isSome ∧ _ then _ else if _ then _ else _)
    split
    · exact any _ _ _
    · split
      · next directory =>
        cases answered : login.ldapResult.filter (·.authenticated) with
        | some ldapResult =>
          cases user with
          | none => exact shaped_provisionLDAP any _ _ _
          | some user =>
            have bound : providerOf (some user) = authProviderLDAP :=
              directory.2.resolve_left Bool.false_ne_true
            exact shaped_syncLDAP any (Option.filter_eq_some_iff.mp answered).1 bound
        | none =>
          dsimp only
          split
          · exact any _ _ _
          · exact shaped_localLogin any user
      · exact shaped_localLogin any user

end

end login

theorem shaped_login (body : Option PasswordLogin) :
    Shaped accounts (.login body) (Answered (.login body)) [] false
      (handleLogin accounts body) := by
  cases body with
  | none => exact shaped_refuse _ (by decide)
  | some login =>
    unfold handleLogin
    dsimp only
    split_ifs
    · exact shaped_refuse _ (by decide)
    · exact shaped_bind silent_answerLogin
        (shaped_authenticatePasswordLogin fun read wrote result =>
          shaped_answerLogin rfl read wrote result)

theorem silent_answerOIDC (waiting : Bool) (result : Except String User) :
    Silent (answerOIDC waiting result) := by
  cases result with
  | error code => trivial
  | ok user =>
    show Silent (if waiting = false then _ else _)
    split
    · trivial
    · exact ⟨rfl, fun _ => trivial⟩

theorem shaped_oidcLogin (result : Option OIDCLogin) (waiting : Bool) :
    Shaped accounts (.oidcLogin result waiting) (Answered (.oidcLogin result waiting)) [] false
      (finishClientOIDCCallback result waiting) := by
  refine shaped_bind (silent_answerOIDC waiting) ?_
  have any (read : List User) (wrote : Bool) (outcome : Except String User) :
      Shaped accounts (.oidcLogin result waiting) (Answered (.oidcLogin result waiting)) read wrote
        (answerOIDC waiting outcome) := by
    cases outcome with
    | error code => exact shaped_done rfl rfl
    | ok user =>
      show Shaped accounts _ _ read wrote (if waiting = false then _ else _)
      split
      · exact shaped_done rfl rfl
      · exact fun _ => shaped_done rfl rfl
  cases result with
  | none => exact any _ _ _
  | some login =>
    unfold ensureOIDCUser
    dsimp only
    split
    · exact any _ _ _
    · intro answer
      match answer with
      | none => exact any _ _ _
      | some none =>
        dsimp only
        split
        · exact any _ _ _
        · cases login.hash with
          | none => exact any _ _ _
          | some hash =>
            intro created
            cases created with
            | none => exact any _ _ _
            | some id =>
              intro again
              match again with
              | none | some none | some (some _) => exact any _ _ _
      | some (some user) =>
        dsimp only
        have role : (if login.role ≠ "" ∧ login.role ≠ user.role then login.role
            else user.role) = if login.role = "" then user.role else login.role := by
          by_cases empty : login.role = ""
          · rw [if_pos empty, if_neg fun changed => changed.1 empty]
          · by_cases same : login.role = user.role
            · rw [if_neg empty, if_neg fun changed => changed.2 same, same]
            · rw [if_neg empty, if_pos ⟨empty, same⟩]
        rw [role]
        split
        · exact ⟨⟨user, find_first user [] rfl, .oidcRole login waiting user⟩, any _ _ _,
            any _ _ _⟩
        · exact any _ _ _

theorem shaped_login2FA (body : Option SecondFactor) :
    Shaped accounts (.login2FA body) (Answered (.login2FA body)) [] false
      (handleLogin2FA accounts body) := by
  cases body with
  | none => exact shaped_refuse _ (by decide)
  | some factor =>
    unfold handleLogin2FA
    dsimp only
    cases factor.claims with
    | none => exact shaped_refuse _ (by decide)
    | some claims =>
      dsimp only
      split_ifs
      · exact shaped_refuse _ (by decide)
      · intro answer
        match answer with
        | none | some none => exact shaped_refuse _ (by decide)
        | some (some user) =>
          dsimp only
          split_ifs
          · exact shaped_finishLogin user rfl (fun used => absurd used Bool.false_ne_true) _
          · exact shaped_refuse _ (by decide)
          · cases outcome : accounts.recovery.consumeRecoveryCode user.totpRecoveryCodes
                factor.code with
            | mk newStore rest =>
              obtain ⟨matched, failure⟩ := rest
              cases matched with
              | false => exact shaped_refuse _ (by decide)
              | true =>
                obtain ⟨hash, matched, erased⟩ :=
                  accounts.recovery.consumeRecoveryCode_matched outcome
                have consumed := congrArg Prod.fst outcome
                refine ⟨⟨user, find_first user [] rfl,
                  .recoveryCode factor user newStore hash consumed matched erased⟩,
                  shaped_refuse _ (by decide), shaped_finishLogin _ rfl (fun _ => ⟨rfl, rfl⟩) _⟩

theorem shaped_setupTOTP (secret : String) :
    Shaped accounts (.setupTOTP id secret) (Answered (.setupTOTP id secret)) [] false
      (handleSetupTOTP accounts id secret) := by
  cases id with
  | none => exact shaped_refuse _ (by decide)
  | some id =>
    intro answer
    match answer with
    | none | some none => exact shaped_refuse _ (by decide)
    | some (some user) =>
      show Shaped accounts _ _ [user] false (if user.totpEnabled then _ else _)
      split
      · exact shaped_refuse _ (by decide)
      · exact shaped_saveUser rfl (find_first user [] rfl) (.setup id secret user)

theorem shaped_confirmTOTP (code : Option String) (now : Int)
    (plainCodes hashes : Option (List String)) :
    Shaped accounts (.confirmTOTP id code now plainCodes hashes)
      (Answered (.confirmTOTP id code now plainCodes hashes)) [] false
      (handleConfirmTOTP accounts id code now plainCodes hashes) := by
  match id, code with
  | none, _ => exact shaped_refuse _ (by decide)
  | some _, none => exact shaped_refuse _ (by decide)
  | some id, some code =>
    intro answer
    match answer with
    | none | some none => exact shaped_refuse _ (by decide)
    | some (some user) =>
      show Shaped accounts _ _ [user] false (if user.totpSecret = "" then _ else if _ then _ else _)
      split_ifs
      · exact shaped_refuse _ (by decide)
      · exact shaped_refuse _ (by decide)
      · match plainCodes, hashes with
        | some plain, some hashes =>
          exact shaped_saveUser rfl (find_first user [] rfl)
            (.confirm id code now plain hashes user)
        | some _, none => exact shaped_refuse _ (by decide)
        | none, _ => exact shaped_refuse _ (by decide)

theorem shaped_disableTOTP :
    Shaped accounts (.disableTOTP id) (Answered (.disableTOTP id)) [] false
      (handleDisableTOTP id) := by
  cases id with
  | none => exact shaped_refuse _ (by decide)
  | some id =>
    intro answer
    match answer with
    | none | some none => exact shaped_refuse _ (by decide)
    | some (some user) => exact shaped_saveUser rfl (find_first user [] rfl) (.disable id user)

theorem shaped_handle (request : Request) :
    Shaped accounts request (Answered request) [] false (handle accounts request) := by
  cases request with
  | login body => exact shaped_login body
  | login2FA body => exact shaped_login2FA body
  | oidcLogin result waiting => exact shaped_oidcLogin result waiting
  | createUser callerRole body => exact shaped_createUser callerRole body
  | updateUser id callerUsername callerRole body =>
    exact shaped_updateUser id callerUsername callerRole body
  | deleteUser id callerUsername => exact shaped_deleteUser id callerUsername
  | setupTOTP id secret => exact shaped_setupTOTP id secret
  | confirmTOTP id code now plainCodes hashes =>
    exact shaped_confirmTOTP id code now plainCodes hashes
  | disableTOTP id => exact shaped_disableTOTP id

end every

end SovaDesk.Users
