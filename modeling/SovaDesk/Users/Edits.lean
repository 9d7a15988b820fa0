/-
This file says when edits of different attributes of one account all take effect.

Every handler that writes an account writes the whole row, so it also writes the columns
it did not mean to change, as it read them. The observer keeps, for each account and
column, the value that counts by the operations so far: the value the latest operation
on it set, where an operation that only renews what it read, the hash of the same
password or the codes but one, counts as long as what it read does. All operations are
in effect exactly as long as each handler that writes a row has read the columns of
others after their latest operation; a handler that overlaps with another puts the old
value of the other's column back.
-/

import SovaDesk.Users.Writes

namespace SovaDesk.Users

open Interleave Transition Auth

/-! ### The columns an operation sets -/

/-- The columns of an account that operations set. -/
inductive Column
  | passwordHash
  | role
  | authProvider
  | totpSecret
  | totpEnabled
  | recoveryCodes
  deriving DecidableEq

inductive Value
  | text (text : String)
  | flag (flag : Bool)
  deriving DecidableEq

/-- The value of a column in a row; an account without a provider is a local one. -/
def Column.of : Column → User → Value
  | .passwordHash, user => .text user.passwordHash
  | .role, user => .text user.role
  | .authProvider, user => .text (providerOf (some user))
  | .totpSecret, user => .text user.totpSecret
  | .totpEnabled, user => .flag user.totpEnabled
  | .recoveryCodes, user => .text user.totpRecoveryCodes

/-- The value an operation gives a column, if the column is its own: a login that writes the
row renews the hash of a local account and brings the role of another in line with the directory;
an edit of an account sets what its fields name. -/
def Request.sets (accounts : Accounts) : Request → User → Column → Option Value
  | .login (some credentials), read, column =>
    if providerOf (some read) = authProviderLocal then
      match column with
      | .passwordHash => credentials.rehashed.map .text
      | _ => none
    else
      match column with
      | .role => credentials.ldapResult.map fun directory => .text directory.role
      | .authProvider => some (.text authProviderLDAP)
      | _ => none
  | .login2FA (some factor), read, .recoveryCodes =>
    some (.text (accounts.recovery.consumeRecoveryCode read.totpRecoveryCodes factor.code).1)
  | .oidcLogin (some identity) _, _, .role =>
    if identity.role = "" then none else some (.text identity.role)
  | .oidcLogin (some _) _, _, .authProvider => some (.text authProviderOIDC)
  | .updateUser _ _ _ (some edit), _, .passwordHash =>
    if edit.password = "" then none else edit.hash.map .text
  | .updateUser _ _ _ (some edit), _, .role =>
    if edit.role = "" then none else some (.text edit.role)
  | .setupTOTP _ secret, _, .totpSecret => some (.text secret)
  | .setupTOTP _ _, _, .totpEnabled => some (.flag false)
  | .confirmTOTP _ _ _ _ _, _, .totpEnabled => some (.flag true)
  | .confirmTOTP _ _ _ _ (some hashes), _, .recoveryCodes =>
    some (.text (accounts.recovery.marshal hashes))
  | .disableTOTP _, _, .totpSecret => some (.text "")
  | .disableTOTP _, _, .totpEnabled => some (.flag false)
  | .disableTOTP _, _, .recoveryCodes => some (.text "")
  | _, _, _ => none

/-- The columns an operation renews: the value it gives is made from the one it has read, the hash
of the same password or the codes but one. -/
def Request.renews : Request → Column → Bool
  | .login _, .passwordHash => true
  | .login2FA _, .recoveryCodes => true
  | _, _ => false

/-- The value of a column that counts after an operation: its own, if it sets the column, unless it
renews a value that is no longer the latest. -/
def Request.follow (accounts : Accounts) (request : Request) (read : User) (column : Column)
    (latest : Option Value) : Option Value :=
  match request.sets accounts read column with
  | some value =>
    if request.renews column && latest.any (· ≠ column.of read) then latest else some value
  | none => latest

variable {request : Request}

/-- A row that is written holds the operation's own values, and all others as they were read. -/
theorem Edit.of_row {accounts : Accounts} {read row : User}
    (edit : Edit accounts request read row) (column : Column) :
    column.of row = (request.sets accounts read column).getD (column.of read) := by
  cases edit with
  | ldapRole login directory read answered bound =>
    have notLocal : providerOf (some read) ≠ authProviderLocal := by
      rw [bound]
      decide
    cases column <;> simp [Request.sets, notLocal, answered, Column.of]
    rfl
  | rehash login newHash read renewed bound =>
    cases column <;> simp [Request.sets, bound, renewed, Column.of]
    exact bound
  | recoveryCode factor read newStore spent consumed matched erased =>
    cases column <;> simp [Request.sets, consumed, Column.of, providerOf]
  | oidcRole login waiting read =>
    have named : authProviderOIDC ≠ "" := by decide
    by_cases kept : login.role = "" <;> cases column <;>
      simp [Request.sets, kept, Column.of, providerOf, named]
  | account id callerUsername callerRole edit read newHash role hashKept hashSet roleSet =>
    subst roleSet
    by_cases noPassword : edit.password = "" <;> by_cases noRole : edit.role = "" <;>
      cases column <;>
      simp [Request.sets, noPassword, noRole, hashKept, hashSet, Column.of, providerOf]
  | setup id secret read =>
    cases column <;> simp [Request.sets, Column.of, providerOf]
  | confirm id code now plain hashes read =>
    cases column <;> simp [Request.sets, Column.of, providerOf]
  | disable id read =>
    cases column <;> simp [Request.sets, Column.of, providerOf]

theorem Column.of_written (column : Column) (row stored : User) :
    column.of (UserTable.written row stored) = column.of row := by
  have named : authProviderLocal ≠ "" := by decide
  cases column with
  | authProvider =>
    by_cases unset : row.authProvider = "" <;>
      simp [Column.of, UserTable.written, User.withProvider, providerOf, unset, named]
  | passwordHash | role | totpSecret | totpEnabled | recoveryCodes => rfl

/-! ### The latest operations -/

/-- A request that was answered, and whether it had written by then. -/
structure Outcome where
  request : Request
  response : Response
  wrote : Bool

/-- The observer's record: the rows each running handler has read, the running handlers that have
written, the value that counts in each column of an account by the operations so far, and the
requests answered. -/
structure Operations where
  reads : Reads
  wrote : List Nat
  latest : Int → Column → Option Value
  outcomes : List Outcome

/-- Enter a successful write of a row. -/
def Operations.enter (accounts : Accounts) (operations : Operations) (thread : Nat)
    (request : Request) (row : User) : Operations :=
  { operations with
    wrote := thread :: operations.wrote
    latest := fun id column =>
      match firstRead (operations.reads.of thread) row with
      | some first =>
        if id = row.id then request.follow accounts first column (operations.latest id column)
        else operations.latest id column
      | none => operations.latest id column }

def noting (accounts : Accounts) : Observer users Request Response Operations where
  began thread _ operations :=
    { operations with
      reads := operations.reads.note thread []
      wrote := operations.wrote.filter (· ≠ thread) }
  called thread request call answer _ operations :=
    match call, answer with
    | .updateUser row, some _ => operations.enter accounts thread request row
    | call, answer =>
      { operations with
        reads := operations.reads.note thread (operations.reads.of thread ++ readBy call answer) }
  ended thread request response operations :=
    { operations with
      wrote := operations.wrote.filter (· ≠ thread)
      outcomes := ⟨request, response, operations.wrote.contains thread⟩ :: operations.outcomes }

/-- No operation yet. -/
def Operations.none : Operations where
  reads := ∅
  wrote := []
  latest _ _ := Option.none
  outcomes := []

/-- The requests of any number of clients, on any table, with the latest operations beside. -/
def editing (accounts : Accounts) :
    System (Pool users Request Response Operations) (Label Request) :=
  interleaving (handle accounts) (noting accounts) fun _ operations => operations = .none

/-- All operations are in effect: each stored row holds, in each column, the value that counts by
the operations so far, and an edit that was answered with success had written. -/
structure InEffect (pool : Pool users Request Response Operations) : Prop where
  stored : ∀ id user, pool.store.rows.lookup id = some user → ∀ column,
    ∀ value ∈ pool.ghost.latest id column, column.of user = value
  written : ∀ outcome ∈ pool.ghost.outcomes, outcome.request.edits = true →
    outcome.response.status = 200 → outcome.wrote = true

/-- The writes that undo no operation: a handler that writes a stored row has read each column that
it does not set, or only renews, as the operations so far left it, unless it sets that very value.
-/
def CallCurrent (accounts : Accounts) (pool : Pool users Request Response Operations)
    (thread : Nat) (request : Request) : UserCall → Prop
  | .updateUser row => (pool.store.rows.lookup row.id).isSome = true →
    ∀ first ∈ firstRead (pool.ghost.reads.of thread) row, ∀ column,
      request.sets accounts first column = none ∨ request.renews column = true →
      ∀ value ∈ pool.ghost.latest row.id column,
        column.of first = value ∨ request.sets accounts first column = some value
  | _ => True

def WritesCurrent (accounts : Accounts) (pool : Pool users Request Response Operations) :
    Label Request → Prop
  | .begin _ _ => True
  | .turn thread fails => fails = false → ∀ call ∈ pool.nextCall thread,
      CallCurrent accounts pool thread call.1 call.2

/-! ### The invariant -/

variable {call : UserCall} {thread : Nat}

section invariant

variable {accounts : Accounts} {table after : UserTable} {operations : Operations}

/-- What holds of the table and the record: the operations are in effect, and all on accounts that
were created. -/
structure Settled (table : UserTable) (operations : Operations) : Prop where
  stored : ∀ id user, table.rows.lookup id = some user → ∀ column,
    ∀ value ∈ operations.latest id column, column.of user = value
  known : ∀ id column, (operations.latest id column).isSome = true → id < table.nextID
  written : ∀ outcome ∈ operations.outcomes, outcome.request.edits = true →
    outcome.response.status = 200 → outcome.wrote = true

/-- What holds of a running handler: its shape from the rows noted for it, which were all stored
once, and that its write is noted. -/
structure Noted (accounts : Accounts) (table : UserTable) (operations : Operations) (thread : Nat)
    (request : Request) (program : Program users Response) : Prop where
  shaped : ∃ wrote, Shaped accounts request (Answered request) (operations.reads.of thread) wrote
    program ∧ (wrote = true → thread ∈ operations.wrote)
  known : ∀ user ∈ operations.reads.of thread, user.id < table.nextID

variable {answer : call.Answer}

/-- Ids are not given out twice. -/
theorem nextID_le_perform
    (performed : call.perform table = some (answer, after)) : table.nextID ≤ after.nextID := by
  cases call with
  | createUser user =>
    rw [UserCall.perform] at performed
    split_ifs at performed
    exact (Prod.mk.inj (Option.some.inj performed)).2 ▸ Int.le_of_lt (Int.lt_succ _)
  | getUser username => exact (Prod.mk.inj (Option.some.inj performed)).2 ▸ Int.le_refl _
  | getUserByID id => exact (Prod.mk.inj (Option.some.inj performed)).2 ▸ Int.le_refl _
  | listUsers => exact (Prod.mk.inj (Option.some.inj performed)).2 ▸ Int.le_refl _
  | updateUser user => exact (Prod.mk.inj (Option.some.inj performed)).2 ▸ Int.le_refl _
  | deleteUser id => exact (Prod.mk.inj (Option.some.inj performed)).2 ▸ Int.le_refl _
  | updateUserLogin id => exact (Prod.mk.inj (Option.some.inj performed)).2 ▸ Int.le_refl _

theorem id_lt_of_readBy {user : User} (performed : call.perform table = some (answer, after))
    (member : user ∈ readBy call (some answer)) : user.id < table.nextID := by
  cases call with
  | getUser username =>
    have read : table.byName username = answer := (Prod.mk.inj (Option.some.inj performed)).1
    rw [readBy, ← read, Option.join_some, Option.mem_toList] at member
    exact table.below _ _ (UserTable.lookup_of_byName member)
  | getUserByID id =>
    have read : table.rows.lookup id = answer := (Prod.mk.inj (Option.some.inj performed)).1
    rw [readBy, ← read, Option.join_some, Option.mem_toList] at member
    rw [table.keyed _ _ member]
    exact table.below _ _ member
  | listUsers | createUser | updateUser | deleteUser | updateUserLogin =>
    exact absurd member List.not_mem_nil

/-- Calls that update no row undo no operation. -/
theorem Settled.perform (settled : Settled table operations)
    (performed : call.perform table = some (answer, after))
    (noUpdate : call.updates = false) : Settled after operations where
  stored id user lookup column value isLatest := by
    rcases lookup_of_perform performed noUpdate lookup with older | ⟨isNew, _⟩
    · exact settled.stored id user older column value isLatest
    · have created := settled.known id column (Option.isSome_iff_exists.mpr ⟨value, isLatest⟩)
      rw [isNew] at created
      exact absurd created (Int.lt_irrefl _)
  known id column isSet := Int.lt_of_lt_of_le (settled.known id column isSet)
    (nextID_le_perform performed)
  written := settled.written

/-- The latest values after a write of a row that was read. -/
theorem latest_enter {row first : User}
    (found : firstRead (operations.reads.of thread) row = some first) (id : Int) (column : Column) :
    (operations.enter accounts thread request row).latest id column =
      if id = row.id then request.follow accounts first column (operations.latest id column)
      else operations.latest id column := by
  rw [Operations.enter, found]

/-- What counts in a column that an operation sets: its own value, or an older one that it renewed
when it counted no more. -/
theorem follow_of_sets {read : User} {column : Column} {latest : Option Value}
    {own value : Value} (sets : request.sets accounts read column = some own)
    (counts : request.follow accounts read column latest = some value) :
    own = value ∨
      (request.renews column = true ∧ latest = some value ∧ value ≠ column.of read) := by
  rw [Request.follow, sets] at counts
  dsimp only at counts
  split at counts
  · next stale =>
    obtain ⟨renews, differs⟩ := Bool.and_eq_true_iff.mp stale
    rw [counts, Option.any_some] at differs
    exact .inr ⟨renews, counts, of_decide_eq_true differs⟩
  · exact .inl (Option.some.inj counts)

/-- A write that holds each foreign column as it was set undoes no operation. -/
theorem Settled.enter (settled : Settled table operations)
    {row first : User} (found : firstRead (operations.reads.of thread) row = some first)
    (edit : Edit accounts request first row) (created : row.id < table.nextID)
    (current : (table.rows.lookup row.id).isSome = true → ∀ column,
      request.sets accounts first column = none ∨ request.renews column = true →
      ∀ value ∈ operations.latest row.id column,
        column.of first = value ∨ request.sets accounts first column = some value) :
    Settled (table.update row) (operations.enter accounts thread request row) where
  stored id user lookup column value isLatest := by
    have lookup : (table.rows.update row.id (UserTable.written row)).lookup id = some user := lookup
    rw [Option.mem_def, latest_enter found] at isLatest
    rw [Table.lookup_update] at lookup
    split at lookup
    · next same =>
      obtain ⟨stored, present, rfl⟩ := Option.map_eq_some_iff.mp lookup
      rw [Column.of_written, edit.of_row]
      rw [if_pos same, same] at isLatest
      have unlessOwn := current (Option.isSome_iff_exists.mpr ⟨stored, present⟩) column
      cases sets : request.sets accounts first column with
      | some own =>
        rw [sets] at unlessOwn
        rcases follow_of_sets sets isLatest with rfl | ⟨renews, older, differs⟩
        · rfl
        · have own :=
            (unlessOwn (.inr renews) value older).resolve_left fun same => differs same.symm
          exact Option.some.inj own
      | none =>
        rw [Request.follow, sets] at isLatest
        exact (unlessOwn (.inl sets) value isLatest).resolve_right
          fun own => absurd (sets.symm.trans own) (Option.some_ne_none _).symm
    · next other =>
      rw [if_neg other] at isLatest
      exact settled.stored id user lookup column value isLatest
  known id column isSet := by
    rw [latest_enter found] at isSet
    split at isSet
    · next same => exact same ▸ created
    · exact settled.known id column isSet
  written := settled.written

end invariant

/-! ### Every run -/

section run

variable {accounts : Accounts}

/-- The rows noted for a handler after a call that updates no row. -/
theorem noted_of_noUpdate
    {answer : Option call.Answer} (table : UserTable) (operations : Operations)
    (noUpdate : (call.updates && answer.isSome) = false) :
    (noting accounts).called thread request call answer table operations =
      { operations with
        reads := operations.reads.note thread
          (operations.reads.of thread ++ readBy call answer) } := by
  cases call with
  | updateUser row =>
    cases answer with
    | none => rfl
    | some reply => exact absurd noUpdate Bool.noConfusion
  | getUser | getUserByID | listUsers | createUser | deleteUser | updateUserLogin => rfl

theorem noting_obligations (accounts : Accounts) :
    Obligations (handle accounts) (noting accounts) (WritesCurrent accounts) Settled
      (Noted accounts) where
  begins := by
    intro table operations thread request settled
    refine ⟨⟨settled.stored, settled.known, settled.written⟩, ⟨?_, ?_⟩, ?_⟩
    · refine ⟨false, ?_, fun written => absurd written Bool.false_ne_true⟩
      have fresh : ((noting accounts).began thread request operations).reads.of thread = [] :=
        (operations.reads.of_note thread thread []).trans (if_pos rfl)
      rw [fresh]
      exact shaped_handle request
    · have fresh : ((noting accounts).began thread request operations).reads.of thread = [] :=
        (operations.reads.of_note thread thread []).trans (if_pos rfl)
      rw [fresh]
      exact fun user member => absurd member List.not_mem_nil
    · rintro other different another program ⟨⟨wrote, shaped, noted⟩, known⟩
      have kept : ((noting accounts).began thread request operations).reads.of other =
          operations.reads.of other :=
        (operations.reads.of_note thread other []).trans (if_neg different)
      refine ⟨⟨wrote, by rwa [kept], fun written => ?_⟩, by rwa [kept]⟩
      exact List.mem_filter.mpr ⟨noted written, decide_eq_true different⟩
  ends := by
    intro table operations thread request response settled holds
    obtain ⟨wrote, answered, noted⟩ := holds.shaped
    refine ⟨⟨settled.stored, settled.known, fun outcome member => ?_⟩, ?_⟩
    · rcases List.mem_cons.mp member with rfl | older
      · intro isEdit success
        exact List.contains_iff_mem.mpr (noted (answered.edit isEdit success))
      · exact settled.written outcome older
    · rintro other different another program ⟨⟨wrote, shaped, noted⟩, known⟩
      exact ⟨⟨wrote, shaped, fun written =>
        List.mem_filter.mpr ⟨noted written, decide_eq_true different⟩⟩, known⟩
  calls := by
    intro pool thread fails request call next guarded found settled holds answer after attempted
    obtain ⟨wrote, shaped, noted⟩ := holds.shaped
    have followed := shaped_next shaped answer
    have grown : pool.store.nextID ≤ after.nextID := by
      rcases Interface.attempt_cases attempted with ⟨_, rfl⟩ | ⟨reply, _, performed, _⟩
      · exact Int.le_refl _
      · exact nextID_le_perform performed
    have knownAfter : ∀ user ∈ pool.ghost.reads.of thread ++ readBy call answer,
        user.id < after.nextID := by
      intro user member
      rcases List.mem_append.mp member with older | newer
      · exact Int.lt_of_lt_of_le (holds.known user older) grown
      · rcases Interface.attempt_cases attempted with ⟨rfl, _⟩ | ⟨reply, _, performed, rfl⟩
        · rw [readBy_none] at newer
          exact absurd newer List.not_mem_nil
        · exact Int.lt_of_lt_of_le (id_lt_of_readBy performed newer) grown
    cases entered : call.updates && answer.isSome with
    | false =>
      rw [noted_of_noUpdate pool.store pool.ghost entered]
      rw [entered, Bool.or_false] at followed
      refine ⟨?_, ⟨⟨wrote, ?_, noted⟩, ?_⟩, fun other different another program others => ?_⟩
      · have same : Settled after pool.ghost := by
          rcases Interface.attempt_cases attempted with ⟨_, rfl⟩ | ⟨reply, _, performed, rfl⟩
          · exact settled
          · exact settled.perform performed ((Bool.and_true _).symm.trans entered)
        exact ⟨same.stored, same.known, same.written⟩
      · rwa [Reads.of_note, if_pos rfl]
      · rwa [Reads.of_note, if_pos rfl]
      · obtain ⟨⟨wroteOther, shapedOther, notedOther⟩, knownOther⟩ := others
        refine ⟨⟨wroteOther, by rwa [Reads.of_note, if_neg different], notedOther⟩, ?_⟩
        rw [Reads.of_note, if_neg different]
        exact fun user member => Int.lt_of_lt_of_le (knownOther user member) grown
    | true =>
      obtain ⟨updates, answered⟩ := Bool.and_eq_true_iff.mp entered
      cases call with
      | updateUser row =>
        rcases Interface.attempt_cases attempted with ⟨rfl, _⟩ | ⟨reply, succeeded, performed, rfl⟩
        · exact absurd answered Bool.false_ne_true
        · have moved : pool.store.update row = after :=
            (Prod.mk.inj (Option.some.inj performed)).2
          subst moved
          obtain ⟨⟨first, foundFirst, edit⟩, _, written⟩ := shaped
          have created : row.id < pool.store.nextID :=
            edit.id_eq ▸ holds.known first (List.mem_of_find?_eq_some foundFirst)
          have current : CallCurrent accounts pool thread request (.updateUser row) :=
            guarded succeeded _ (Pool.nextCall_of_lookup found)
          refine ⟨settled.enter foundFirst edit created
              fun present column notSet => current present first foundFirst column notSet,
            ⟨⟨true, written, fun _ => List.mem_cons_self⟩, holds.known⟩,
            fun other different another program others => ?_⟩
          obtain ⟨⟨wroteOther, shapedOther, notedOther⟩, knownOther⟩ := others
          exact ⟨⟨wroteOther, shapedOther,
              fun written => List.mem_cons_of_mem _ (notedOther written)⟩,
            knownOther⟩
      | getUser | getUserByID | listUsers | createUser | deleteUser | updateUserLogin =>
        exact absurd updates Bool.false_ne_true

/-- A handler that ends sets nothing. -/
theorem latest_settle (pool : Pool users Request Response Operations) (thread : Nat)
    (request : Request) (program : Program users Response) :
    (pool.settle (noting accounts) thread request program).ghost.latest = pool.ghost.latest := by
  cases program <;> rfl

/-- A write after which all operations are in effect has read them. -/
theorem callCurrent_of_inEffect (accounts : Accounts)
    {before after : Pool users Request Response Operations}
    (reached : before.Holds Settled (Noted accounts))
    (stepped :
      Pool.step (handle accounts) (noting accounts) before (.turn thread false) = some after)
    (inEffect : InEffect after) :
    ∀ call ∈ before.nextCall thread, CallCurrent accounts before thread call.1 call.2 := by
  rintro ⟨request, call⟩ isNext
  cases call with
  | updateUser row =>
    obtain ⟨next, found⟩ := Pool.lookup_of_nextCall isNext
    obtain ⟨⟨wrote, shaped, _⟩, _⟩ := reached.2 thread _ found
    obtain ⟨⟨first, foundFirst, edit⟩, _⟩ := shaped
    have store : after.store = before.store.update row := Pool.store_of_turn found stepped
    have latest : after.ghost.latest =
        (before.ghost.enter accounts thread request row).latest := by
      rw [Pool.step, found] at stepped
      rw [← Option.some.inj stepped]
      exact latest_settle _ _ _ _
    intro present other foundOther column notSet value isLatest
    have same : first = other := Option.some.inj (foundFirst.symm.trans foundOther)
    subst same
    obtain ⟨stored, lookup⟩ := Option.isSome_iff_exists.mp present
    have written : after.store.rows.lookup row.id = some (UserTable.written row stored) := by
      rw [store]
      refine (Table.lookup_update _ _ _ _).trans ?_
      rw [if_pos rfl, lookup, Option.map_some]
    by_contra neither
    obtain ⟨stale, notOwn⟩ := not_or.mp neither
    -- Then the value counts after the write as well, and the row that is stored does not hold it.
    have kept : value ∈ after.ghost.latest row.id column := by
      have counts : before.ghost.latest row.id column = some value := isLatest
      rw [Option.mem_def, latest, latest_enter foundFirst, if_pos rfl, counts, Request.follow]
      split
      · next own sets =>
        have renews := notSet.resolve_left fun none =>
          absurd (sets.symm.trans none) (Option.some_ne_none _)
        rw [renews, Bool.true_and, Option.any_some]
        exact if_pos (decide_eq_true (Ne.symm stale))
      · rfl
    have holds := inEffect.stored row.id _ written column value kept
    rw [Column.of_written, edit.of_row] at holds
    cases sets : request.sets accounts first column with
    | some own =>
      rw [sets, Option.getD_some] at holds
      exact notOwn (sets.trans (congrArg some holds))
    | none =>
      rw [sets, Option.getD_none] at holds
      exact stale holds
  | getUser | getUserByID | listUsers | createUser | deleteUser | updateUserLogin => trivial

/-- In every run of the handlers, all operations are in effect after every step exactly if every
write of the run undoes none. -/
theorem inEffect_iff_writesCurrent (accounts : Accounts)
    {steps : List (Taken (Pool users Request Response Operations) (Label Request))}
    {final : Pool users Request Response Operations}
    (history : History (editing accounts) steps final) :
    (∀ step ∈ steps, InEffect step.after) ↔
      ∀ step ∈ steps, WritesCurrent accounts step.before step.label := by
  have starts : ∀ (table : UserTable) (operations : Operations), operations = .none →
      Settled table operations := by
    rintro table operations rfl
    exact ⟨fun _ _ _ _ _ isLatest => absurd isLatest (Option.not_mem_none _),
      fun _ _ isSet => absurd isSet Bool.false_ne_true,
      fun _ member => absurd member List.not_mem_nil⟩
  have invariant {pool : Pool users Request Response Operations}
      (reached : ReachableWhen (editing accounts) (WritesCurrent accounts) pool) :
      pool.Holds Settled (Noted accounts) :=
    (noting_obligations accounts).invariant starts reached
  refine history.forall_iff_when ?_
  rintro ⟨before, label, after⟩ reached taken
  refine ⟨fun inEffect => ?_, fun current => ?_⟩
  · cases label with
    | begin thread request => trivial
    | turn thread fails =>
      rintro rfl
      exact callCurrent_of_inEffect accounts (invariant reached) taken inEffect
  · have settled := (invariant (.step reached current taken)).1
    exact ⟨settled.stored, settled.written⟩

end run

/-! ### Operations undone by a login -/

/-- A table with one operator, whose password has an old hash and whose second factor is set up. -/
def dorasTable : UserTable :=
  (UserTable.empty.insert
    { id := 0, username := "dora", passwordHash := "$2a$old", role := roleOperator }).update
    { id := 1, username := "dora", passwordHash := "$2a$old", role := roleOperator
      totpSecret := "secret" }

/-- A login that renews the hash of the password. -/
def dorasLogin : Request :=
  .login (some
    { username := "dora", password := "old"
      rehashed := some "pbkdf2-sha256$600000$00$00" })

/-- A demotion, a new password and the confirmation of the second factor. -/
def edits : List (Request × Column) :=
  [(.updateUser (some 1) "root" roleSuperAdmin (some { role := roleViewer }), .role),
    (.updateUser (some 1) "root" roleSuperAdmin
      (some { password := "new", hash := some "pbkdf2-sha256$600000$11$11" }), .passwordHash),
    (.confirmTOTP (some 1) (some "secret") 0 (some ["AB"]) (some ["AB"]), .totpEnabled)]

/-- A request that is served between the read and the write of the login. -/
def duringLogin (other : Request) : List (Label Request) :=
  [.begin 0 dorasLogin, .turn 0 false, .begin 1 other, .turn 1 false, .turn 1 false,
    .turn 0 false, .turn 0 false]

def dorasStart : Pool users Request Response Operations := ⟨dorasTable, ∅, .none⟩

/-- Whether the stored row of the account holds another value in a column than the latest operation
gave it. -/
def Undone (pool : Pool users Request Response Operations) (column : Column) : Bool :=
  (pool.store.rows.lookup 1).any fun user =>
    (pool.ghost.latest 1 column).any fun value => value ≠ column.of user

theorem not_inEffect_of_undone {pool : Pool users Request Response Operations} {column : Column}
    (undone : Undone pool column = true) : ¬ InEffect pool := by
  obtain ⟨user, lookup, differs⟩ := Option.any_eq_true _ _ |>.mp undone
  obtain ⟨value, isLatest, different⟩ := Option.any_eq_true _ _ |>.mp differs
  exact fun inEffect =>
    of_decide_eq_true different (inEffect.stored 1 user lookup column value isLatest).symm

/-- The login and a request during it succeed, and the login undoes the request. -/
def LoginUndoes (other : Request) (column : Column) : Prop :=
  ∃ pool, (editing plainAccounts).run dorasStart (duringLogin other) = some pool ∧
    pool.ghost.outcomes.map (·.response.status) = [200, 200] ∧
    Undone pool column = true ∧ ¬ InEffect pool

theorem login_undoes_edit : edits.Forall fun edit => LoginUndoes edit.1 edit.2 := by
  have ran : ∀ edit ∈ edits, ((editing plainAccounts).run dorasStart (duringLogin edit.1)).any
      (fun pool => pool.ghost.outcomes.map (·.response.status) = [200, 200] ∧
        Undone pool edit.2 = true) = true := by decide
  refine List.forall_iff_forall_mem.mpr fun edit listed => ?_
  obtain ⟨pool, ends, found⟩ := Option.any_eq_true _ _ |>.mp (ran edit listed)
  obtain ⟨answered, undone⟩ := of_decide_eq_true found
  exact ⟨pool, ends, answered, undone, not_inEffect_of_undone undone⟩

theorem inEffect_iff_writesCurrent_login :
    ∃ steps pool, History (editing plainAccounts) steps pool ∧ steps.length = 4 ∧
      ((∀ step ∈ steps, InEffect step.after) ↔
        ∀ step ∈ steps, WritesCurrent plainAccounts step.before step.label) := by
  have initial : (editing plainAccounts).start dorasStart := ⟨rfl, rfl⟩
  have traced : ((editing plainAccounts).trace [] dorasStart
      [.begin 0 dorasLogin, .turn 0 false, .turn 0 false, .turn 0 false]).any
      (fun run => run.1.length = 4) = true := by decide
  obtain ⟨steps, pool, history, length⟩ := exists_history_of_trace initial traced
  exact ⟨steps, pool, history, of_decide_eq_true length,
    inEffect_iff_writesCurrent plainAccounts history⟩

end SovaDesk.Users
