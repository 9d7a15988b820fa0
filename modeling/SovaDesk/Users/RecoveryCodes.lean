/-
This file says when a recovery code works at most once.

A login with a recovery code reads the row, takes the code out of the list it read and
writes the whole row back; every other handler that writes the row writes back the list
it read as well. So a code is used up for good exactly as long as no handler writes
back a list that was read before one of its codes was used. The run is watched by a
ledger of the codes that were issued, of those that were taken and of the logins they
paid for; a code is named by its account and its hash, and a hash that was issued
several times counts several times.
-/

import SovaDesk.Users.Writes
import Mathlib.Data.List.Count

namespace SovaDesk.Users

open Interleave Transition Auth

/-! ### Codes taken and issued -/

/-- The recovery code a request takes out of the list it read. -/
def Request.spent (accounts : Accounts) : Request → User → Option String
  | .login2FA (some factor), read =>
    accounts.recovery.matchedHash read.totpRecoveryCodes factor.code
  | _, _ => none

/-- The recovery codes a request issues. -/
def Request.issued : Request → List String
  | .confirmTOTP _ _ _ _ (some hashes) => hashes
  | _ => []

/-- The requests that write back recovery codes they have read. -/
def Request.keepsCodes : Request → Bool
  | .confirmTOTP _ _ _ _ _ | .disableTOTP _ => false
  | _ => true

variable {request : Request}

/-- What a write does to the list of codes: the code that is spent goes, and the codes that are
issued replace all others. -/
theorem Edit.count_codes {accounts : Accounts} {read row : User}
    (edit : Edit accounts request read row) (hash : String) :
    (accounts.recovery.hashesOf row.totpRecoveryCodes).count hash +
        (request.spent accounts read).toList.count hash =
      (if request.keepsCodes then
        (accounts.recovery.hashesOf read.totpRecoveryCodes).count hash else 0) +
        request.issued.count hash := by
  cases edit with
  | recoveryCode factor read newStore spent consumed matched erased =>
    have member : spent ∈ accounts.recovery.hashesOf read.totpRecoveryCodes :=
      List.mem_of_find?_eq_some matched
    have present := List.count_pos_iff.mpr member
    have takes : (Request.login2FA (some factor)).spent accounts read = some spent := matched
    rw [takes, erased, List.count_erase, Option.toList_some, List.count_singleton]
    by_cases same : spent = hash
    · subst same
      simp only [beq_self_eq_true, if_true, Request.keepsCodes, Request.issued, List.count_nil]
      omega
    · simp [same, Request.keepsCodes, Request.issued]
  | confirm id code now plain hashes read =>
    simp [Request.spent, Request.keepsCodes, Request.issued, accounts.recovery.hashesOf_marshal]
  | disable id read =>
    simp [Request.spent, Request.keepsCodes, Request.issued, RecoveryCrypto.hashesOf_empty]
  | ldapRole | rehash | oidcRole | account | setup =>
    simp [Request.spent, Request.keepsCodes, Request.issued]

theorem Edit.spent_of_secondFactor {accounts : Accounts} {read row : User}
    (edit : Edit accounts request read row) (second : request.secondFactor = true) :
    ∃ hash, request.spent accounts read = some hash := by
  cases edit with
  | recoveryCode factor read newStore spent consumed matched erased => exact ⟨spent, matched⟩
  | ldapRole | rehash | oidcRole | account | setup | confirm | disable =>
    exact absurd second Bool.false_ne_true

/-! ### The ledger -/

/-- A code is named by the account and by its hash. -/
abbrev Code := Int × String

/-- The observer's ledger: the rows each running handler has read, the codes issued, the codes
taken, which running handler has taken which, and the code behind each login that was answered as
one by recovery code. -/
structure Ledger where
  reads : Reads
  issued : List Code
  consumed : List Code
  accepted : Table Nat Code
  logins : List (Option Code)

/-- Enter a successful write of a row. -/
def Ledger.enter (accounts : Accounts) (ledger : Ledger) (thread : Nat) (request : Request)
    (row : User) : Ledger :=
  let spent := (firstRead (ledger.reads.of thread) row).bind (request.spent accounts)
  { ledger with
    issued := request.issued.map (Prod.mk row.id) ++ ledger.issued
    consumed := spent.toList.map (Prod.mk row.id) ++ ledger.consumed
    accepted :=
      match spent with
      | some hash => ledger.accepted.insert thread (row.id, hash)
      | none => ledger.accepted }

/-- The observer that keeps the ledger. -/
def bookkeeping (accounts : Accounts) : Observer users Request Response Ledger where
  began thread _ ledger :=
    { ledger with
      reads := ledger.reads.note thread []
      accepted := ledger.accepted.erase thread }
  called thread request call answer _ ledger :=
    match call, answer with
    | .updateUser row, some _ => ledger.enter accounts thread request row
    | call, answer =>
      { ledger with
        reads := ledger.reads.note thread (ledger.reads.of thread ++ readBy call answer) }
  ended thread _ response ledger :=
    { ledger with
      logins :=
        if response.recovered then ledger.accepted.lookup thread :: ledger.logins
        else ledger.logins
      accepted := ledger.accepted.erase thread }

/-- The codes of a table. -/
def codesOf (accounts : Accounts) (table : UserTable) : List Code :=
  table.rows.entries.flatMap fun entry =>
    (accounts.recovery.hashesOf entry.2.totpRecoveryCodes).map (Prod.mk entry.1)

/-- The ledger of a table at the start of a run: its codes are issued and none is taken. -/
def openLedger (accounts : Accounts) (table : UserTable) : Ledger where
  reads := ∅
  issued := codesOf accounts table
  consumed := []
  accepted := ∅
  logins := []

/-- The requests of any number of clients, with the ledger beside. -/
def redemption (accounts : Accounts) :
    System (Pool users Request Response Ledger) (Label Request) :=
  interleaving (handle accounts) (bookkeeping accounts) fun table ledger =>
    ledger = openLedger accounts table

/-- No code that was taken is in a list: of each code, the list and the codes taken hold together no
more than were issued. -/
def Unused (ledger : Ledger) (id : Int) (hashes : List String) : Prop :=
  ∀ hash, hashes.count hash + ledger.consumed.count (id, hash) ≤ ledger.issued.count (id, hash)

/-- Each issued code works at most once: the logins by recovery code are no more than the codes
issued, each behind one that was accepted, and no code that was taken is stored. -/
structure WorksOnce (accounts : Accounts) (pool : Pool users Request Response Ledger) : Prop where
  logins : ∀ code, pool.ghost.logins.count (some code) ≤ pool.ghost.issued.count code
  known : none ∉ pool.ghost.logins
  stored : ∀ id user, pool.store.rows.lookup id = some user →
    Unused pool.ghost id (accounts.recovery.hashesOf user.totpRecoveryCodes)

/-- A list is checked on its own codes and on those taken: all others count for nothing. -/
theorem unused_iff {ledger : Ledger} {id : Int} {hashes : List String} :
    Unused ledger id hashes ↔ ∀ hash ∈ hashes ++ ledger.consumed.map (·.2),
      hashes.count hash + ledger.consumed.count (id, hash) ≤ ledger.issued.count (id, hash) := by
  refine ⟨fun unused hash _ => unused hash, fun checked hash => ?_⟩
  by_cases listed : hash ∈ hashes ++ ledger.consumed.map (·.2)
  · exact checked hash listed
  · rw [List.mem_append, not_or] at listed
    have notTaken : (id, hash) ∉ ledger.consumed := fun member =>
      listed.2 (List.mem_map.mpr ⟨_, member, rfl⟩)
    rw [List.count_eq_zero.mpr listed.1, List.count_eq_zero.mpr notTaken]
    exact Nat.zero_le _

instance (ledger : Ledger) (id : Int) (hashes : List String) :
    Decidable (Unused ledger id hashes) := decidable_of_iff' _ unused_iff

/-- A write by a handler that read a row first uses up its code for good: a handler that takes a
code takes one that nobody has taken since it was read, and one that writes back codes to a stored
row writes back none that was taken since they were read. -/
structure WriteUnused (accounts : Accounts) (pool : Pool users Request Response Ledger)
    (request : Request) (row first : User) : Prop where
  takes : ∀ hash ∈ request.spent accounts first,
    pool.ghost.consumed.count (row.id, hash) < pool.ghost.issued.count (row.id, hash)
  keeps : request.keepsCodes = true → (pool.store.rows.lookup row.id).isSome = true →
    Unused pool.ghost row.id (accounts.recovery.hashesOf first.totpRecoveryCodes)

instance (accounts : Accounts) (pool : Pool users Request Response Ledger) (request : Request)
    (row first : User) : Decidable (WriteUnused accounts pool request row first) :=
  decidable_of_iff (_ ∧ _) ⟨fun both => ⟨both.1, both.2⟩, fun write => ⟨write.takes, write.keeps⟩⟩

def CallUnused (accounts : Accounts) (pool : Pool users Request Response Ledger) (thread : Nat)
    (request : Request) : UserCall → Prop
  | .updateUser row =>
    ∀ first ∈ firstRead (pool.ghost.reads.of thread) row,
      WriteUnused accounts pool request row first
  | _ => True

instance (accounts : Accounts) (pool : Pool users Request Response Ledger) (thread : Nat)
    (request : Request) :
    (call : UserCall) → Decidable (CallUnused accounts pool thread request call)
  | .updateUser row => inferInstanceAs (Decidable (∀ first ∈ _, WriteUnused _ _ _ row first))
  | .getUser _ | .getUserByID _ | .listUsers | .createUser _ | .deleteUser _ | .updateUserLogin _ =>
    .isTrue trivial

/-- The steps of a run all of whose writes use up the codes they take for good. -/
def WritesUnused (accounts : Accounts) (pool : Pool users Request Response Ledger) :
    Label Request → Prop
  | .begin _ _ => True
  | .turn thread fails => fails = false → ∀ call ∈ pool.nextCall thread,
      CallUnused accounts pool thread call.1 call.2

instance (accounts : Accounts) (pool : Pool users Request Response Ledger) :
    (label : Label Request) → Decidable (WritesUnused accounts pool label)
  | .begin _ _ => .isTrue trivial
  | .turn _ _ => inferInstanceAs (Decidable (_ = false → ∀ call ∈ _, CallUnused _ _ _ _ _))

/-! ### The ledger is balanced -/

section balance

variable {accounts : Accounts} {table : UserTable} {ledger : Ledger}

/-- One for a handler that has taken the code. -/
def accepts (code : Code) (_ : Nat) (taken : Code) : Int := if taken = code then 1 else 0

/-- What holds of the table and the ledger: no more codes are taken than issued, none of them is
stored, and the logins answered and the handlers about to answer one have each taken a code of their
own. -/
structure Balanced (accounts : Accounts) (table : UserTable) (ledger : Ledger) : Prop where
  taken : ∀ code, ledger.consumed.count code ≤ ledger.issued.count code
  stored : ∀ id user, table.rows.lookup id = some user →
    Unused ledger id (accounts.recovery.hashesOf user.totpRecoveryCodes)
  logins : ∀ code, (ledger.logins.count (some code) : Int) + ledger.accepted.sum (accepts code) ≤
    ledger.consumed.count code
  known : none ∉ ledger.logins

/-- What holds of a running handler: its shape from the rows noted for it, and that it has taken a
code once it has written for a second factor. -/
structure Tracked (accounts : Accounts) (ledger : Ledger) (thread : Nat) (request : Request)
    (program : Program users Response) : Prop where
  shaped : ∃ wrote,
    Shaped accounts request (Answered request) (ledger.reads.of thread) wrote program ∧
    (wrote = true → request.secondFactor = true → (ledger.accepted.lookup thread).isSome = true)

theorem accepts_nonneg (code : Code) (thread : Nat) (taken : Code) :
    0 ≤ accepts code thread taken := by
  unfold accepts
  split <;> decide

theorem count_map_mk (id other : Int) (hashes : List String) (hash : String) :
    (hashes.map (Prod.mk id)).count (other, hash) =
      if other = id then hashes.count hash else 0 := by
  split
  · next same =>
    rw [same]
    exact List.count_map_of_injective hashes _ (Prod.mk_right_injective id) hash
  · next different =>
    refine List.count_eq_zero.mpr fun member => different ?_
    obtain ⟨_, _, same⟩ := List.mem_map.mp member
    exact (Prod.mk.inj same).1.symm

/-- A handler that forgets the code it has taken leaves no more taken codes waiting. -/
theorem sum_erase_le (taken : Table Nat Code) (thread : Nat) (code : Code) :
    Table.sum (accepts code) (taken.erase thread) ≤ taken.sum (accepts code) := by
  cases found : taken.lookup thread with
  | none => exact le_of_eq (Table.sum_erase_of_none _ found)
  | some held =>
    rw [Table.sum_erase _ found]
    have := accepts_nonneg code thread held
    omega

theorem sum_insert_le (taken : Table Nat Code) (thread : Nat) (held code : Code) :
    Table.sum (accepts code) (taken.insert thread held) ≤
      taken.sum (accepts code) + accepts code thread held := by
  rw [Table.sum_insert]
  cases taken.lookup thread with
  | none => simp
  | some old =>
    have := accepts_nonneg code thread old
    simp only [Option.map_some, Option.getD_some]
    omega

/-- Entering a write that uses up its code for good, or keeps codes that are unused. -/
theorem Balanced.enter (balanced : Balanced accounts table ledger) {thread : Nat} {row first : User}
    (found : firstRead (ledger.reads.of thread) row = some first)
    (edit : Edit accounts request first row)
    (takesUnused : ∀ hash ∈ request.spent accounts first,
      ledger.consumed.count (row.id, hash) < ledger.issued.count (row.id, hash))
    (keepsUnused : request.keepsCodes = true → (table.rows.lookup row.id).isSome = true →
      Unused ledger row.id (accounts.recovery.hashesOf first.totpRecoveryCodes)) :
    Balanced accounts (table.update row) (ledger.enter accounts thread request row) := by
  have spent : (firstRead (ledger.reads.of thread) row).bind (request.spent accounts) =
      request.spent accounts first := by rw [found, Option.bind_some]
  have issued (id : Int) (hash : String) :
      (ledger.enter accounts thread request row).issued.count (id, hash) =
        (if id = row.id then request.issued.count hash else 0) +
          ledger.issued.count (id, hash) := by
    rw [Ledger.enter, List.count_append, count_map_mk]
  have consumed (id : Int) (hash : String) :
      (ledger.enter accounts thread request row).consumed.count (id, hash) =
        (if id = row.id then (request.spent accounts first).toList.count hash else 0) +
          ledger.consumed.count (id, hash) := by
    rw [Ledger.enter, spent, List.count_append, count_map_mk]
  refine ⟨fun (id, hash) => ?_, fun id user lookup hash => ?_, fun (id, hash) => ?_,
    balanced.known⟩
  · have older := balanced.taken (id, hash)
    rw [issued, consumed]
    split
    · next same =>
      cases taken : request.spent accounts first with
      | none =>
        rw [Option.toList_none, List.count_nil]
        omega
      | some held =>
        rw [Option.toList_some, List.count_singleton]
        split
        · next isHeld =>
          have unused := takesUnused held taken
          rw [← same, eq_of_beq isHeld] at unused
          omega
        · omega
    · omega
  · have lookup : (table.rows.update row.id (UserTable.written row)).lookup id = some user := lookup
    rw [issued, consumed]
    rw [Table.lookup_update] at lookup
    split at lookup
    · next same =>
      obtain ⟨stored, found, rfl⟩ := Option.map_eq_some_iff.mp lookup
      have frame := edit.count_codes hash
      have written : (UserTable.written row stored).totpRecoveryCodes = row.totpRecoveryCodes := rfl
      rw [written, if_pos same, if_pos same]
      have kept : (if request.keepsCodes then
          (accounts.recovery.hashesOf first.totpRecoveryCodes).count hash else 0) +
            ledger.consumed.count (id, hash) ≤ ledger.issued.count (id, hash) := by
        split
        · next keeps =>
          rw [same]
          exact keepsUnused keeps (by rw [found]; rfl) hash
        · rw [Nat.zero_add]
          exact balanced.taken (id, hash)
      omega
    · next other =>
      rw [if_neg other, if_neg other, Nat.zero_add, Nat.zero_add]
      exact balanced.stored id user lookup hash
  · have older := balanced.logins (id, hash)
    rw [Ledger.enter, spent]
    cases request.spent accounts first with
    | none => exact older
    | some held =>
      have inserted := sum_insert_le ledger.accepted thread (row.id, held) (id, hash)
      have counted : ([held].map (Prod.mk row.id) ++ ledger.consumed).count (id, hash) =
          ledger.consumed.count (id, hash) + if (row.id, held) = (id, hash) then 1 else 0 := by
        rw [List.map_singleton, List.singleton_append, List.count_cons]
        simp only [beq_iff_eq]
      dsimp only [Option.toList_some]
      rw [counted]
      unfold accepts at *
      split at inserted <;> split <;> first | contradiction | (push_cast; omega)

/-- A handler that writes for a second factor has taken a code. -/
theorem accepted_enter_self {thread : Nat} {row first : User}
    (found : firstRead (ledger.reads.of thread) row = some first)
    (edit : Edit accounts request first row) (second : request.secondFactor = true) :
    ((ledger.enter accounts thread request row).accepted.lookup thread).isSome = true := by
  obtain ⟨hash, spent⟩ := edit.spent_of_secondFactor second
  rw [Ledger.enter, found, Option.bind_some, spent]
  exact congrArg Option.isSome (AList.lookup_insert _)

theorem accepted_enter_of_ne {thread other : Nat} (different : other ≠ thread) (request : Request)
    (row : User) :
    (ledger.enter accounts thread request row).accepted.lookup other =
      ledger.accepted.lookup other := by
  rw [Ledger.enter]
  cases (firstRead (ledger.reads.of thread) row).bind (request.spent accounts) with
  | none => rfl
  | some hash => exact AList.lookup_insert_ne different

theorem balanced_openLedger (accounts : Accounts) (table : UserTable) :
    Balanced accounts table (openLedger accounts table) where
  taken code := Nat.zero_le _
  stored id user lookup hash := by
    have entry : (⟨id, user⟩ : Sigma fun _ : Int => User) ∈ table.rows.entries :=
      Table.mem_entries_iff.mpr lookup
    have listed : List.Sublist
        ((accounts.recovery.hashesOf user.totpRecoveryCodes).map (Prod.mk id))
        (codesOf accounts table) :=
      List.sublist_flatten_of_mem (List.mem_map.mpr ⟨_, entry, rfl⟩)
    have counted := listed.count_le (id, hash)
    have noneTaken : (openLedger accounts table).consumed.count (id, hash) = 0 := List.count_nil
    rw [count_map_mk, if_pos rfl] at counted
    rw [noneTaken, Nat.add_zero]
    exact counted
  logins code := le_refl _
  known := List.not_mem_nil

/-- Answering a login by recovery code that a handler has taken. -/
theorem Balanced.ended (balanced : Balanced accounts table ledger) (thread : Nat)
    (response : Response)
    (took : response.recovered = true → (ledger.accepted.lookup thread).isSome = true) :
    Balanced accounts table ((bookkeeping accounts).ended thread request response ledger) := by
  show Balanced accounts table { ledger with
    logins := if response.recovered then _ else _, accepted := _ }
  split
  · next recovered =>
    obtain ⟨held, found⟩ := Option.isSome_iff_exists.mp (took recovered)
    rw [found]
    refine ⟨balanced.taken, balanced.stored, fun code => ?_, fun member => ?_⟩
    · have older := balanced.logins code
      have erased := Table.sum_erase (accepts code) found
      dsimp only
      rw [erased, List.count_cons, accepts]
      simp only [beq_iff_eq, Option.some_inj]
      split <;> push_cast <;> omega
    · exact balanced.known ((List.mem_cons.mp member).resolve_left (Option.some_ne_none _).symm)
  · refine ⟨balanced.taken, balanced.stored, fun code => ?_, balanced.known⟩
    exact le_trans (add_le_add_right (sum_erase_le ledger.accepted thread code) _)
      (balanced.logins code)

/-- Calls that update no row change no list of codes: rows that are read stay, a new row has no
codes, and a deleted row takes its codes along. -/
theorem Balanced.perform (balanced : Balanced accounts table ledger) {call : UserCall}
    {answer : call.Answer} {after : UserTable}
    (performed : call.perform table = some (answer, after))
    (noUpdate : call.updates = false) : Balanced accounts after ledger := by
  refine { balanced with stored := fun id user lookup hash => ?_ }
  rcases lookup_of_perform performed noUpdate lookup with older | ⟨_, none⟩
  · exact balanced.stored id user older hash
  · rw [none, accounts.recovery.hashesOf_empty, List.count_nil, Nat.zero_add]
    exact balanced.taken (id, hash)

end balance

/-! ### Every run of such writes -/

section run

variable {accounts : Accounts}

/-- The rows noted for a handler after a call that updates no row. -/
theorem called_of_noUpdate {thread : Nat} {call : UserCall}
    {answer : Option call.Answer} (table : UserTable) (ledger : Ledger)
    (noUpdate : (call.updates && answer.isSome) = false) :
    (bookkeeping accounts).called thread request call answer table ledger =
      { ledger with
        reads := ledger.reads.note thread (ledger.reads.of thread ++ readBy call answer) } := by
  cases call with
  | updateUser row =>
    cases answer with
    | none => rfl
    | some reply => exact absurd noUpdate Bool.noConfusion
  | getUser username => rfl
  | getUserByID id => rfl
  | listUsers => rfl
  | createUser user => rfl
  | deleteUser id => rfl
  | updateUserLogin id => rfl

theorem bookkeeping_obligations (accounts : Accounts) :
    Obligations (handle accounts) (bookkeeping accounts) (WritesUnused accounts)
      (Balanced accounts) (fun _ => Tracked accounts) where
  begins := by
    intro table ledger thread request balanced
    refine ⟨⟨balanced.taken, balanced.stored, fun code => ?_, balanced.known⟩, ?_, ?_⟩
    · exact le_trans (add_le_add_right (sum_erase_le ledger.accepted thread code) _)
        (balanced.logins code)
    · refine ⟨false, ?_, fun written => absurd written Bool.false_ne_true⟩
      have fresh : ((bookkeeping accounts).began thread request ledger).reads.of thread = [] :=
        (ledger.reads.of_note thread thread []).trans (if_pos rfl)
      rw [fresh]
      exact shaped_handle request
    · rintro other different another program ⟨wrote, shaped, took⟩
      have kept : ((bookkeeping accounts).began thread request ledger).reads.of other =
          ledger.reads.of other := (ledger.reads.of_note thread other []).trans (if_neg different)
      refine ⟨wrote, by rwa [kept], fun written second => ?_⟩
      exact (congrArg Option.isSome (AList.lookup_erase_ne different)).trans (took written second)
  ends := by
    intro table ledger thread request response balanced holds
    obtain ⟨wrote, answered, took⟩ := holds.shaped
    refine ⟨balanced.ended thread response fun recovered => ?_, ?_⟩
    · exact took (answered.recovery recovered).1 (answered.recovery recovered).2
    · rintro other different another program ⟨wrote, shaped, took⟩
      refine ⟨wrote, shaped, fun written second => ?_⟩
      exact (congrArg Option.isSome (AList.lookup_erase_ne different)).trans (took written second)
  calls := by
    intro pool thread fails request call next guarded found balanced holds answer after attempted
    obtain ⟨wrote, shaped, took⟩ := holds.shaped
    have followed := shaped_next shaped answer
    cases entered : call.updates && answer.isSome with
    | false =>
      rw [called_of_noUpdate pool.store pool.ghost entered]
      rw [entered, Bool.or_false] at followed
      refine ⟨?_, ⟨wrote, ?_, took⟩, fun other different another program others => ?_⟩
      · have same : Balanced accounts after pool.ghost := by
          rcases Interface.attempt_cases attempted with ⟨_, rfl⟩ | ⟨reply, _, performed, rfl⟩
          · exact balanced
          · exact balanced.perform performed ((Bool.and_true _).symm.trans entered)
        exact ⟨same.taken, same.stored, same.logins, same.known⟩
      · rwa [Reads.of_note, if_pos rfl]
      · obtain ⟨wroteOther, shapedOther, tookOther⟩ := others.shaped
        exact ⟨wroteOther, by rwa [Reads.of_note, if_neg different], tookOther⟩
    | true =>
      obtain ⟨updates, answered⟩ := Bool.and_eq_true_iff.mp entered
      cases call with
      | updateUser row =>
        rcases Interface.attempt_cases attempted with ⟨rfl, _⟩ | ⟨reply, succeeded, performed, rfl⟩
        · exact absurd answered Bool.false_ne_true
        · have moved : pool.store.update row = after :=
            (Prod.mk.inj (Option.some.inj performed)).2
          subst moved
          obtain ⟨⟨first, foundFirst, edit⟩, _, written⟩ := shaped
          have unused : WriteUnused accounts pool request row first :=
            guarded succeeded _ (Pool.nextCall_of_lookup found) first foundFirst
          refine ⟨balanced.enter foundFirst edit unused.takes unused.keeps,
            ⟨true, written, fun _ second => accepted_enter_self foundFirst edit second⟩,
            fun other different another program others => ?_⟩
          obtain ⟨wroteOther, shapedOther, tookOther⟩ := others.shaped
          refine ⟨wroteOther, shapedOther, fun written second => ?_⟩
          exact (congrArg Option.isSome (accepted_enter_of_ne different request row)).trans
            (tookOther written second)
      | getUser | getUserByID | listUsers | createUser | deleteUser | updateUserLogin =>
        exact absurd updates Bool.false_ne_true

/-- In every run whose writes use up the codes they take for good, each recovery code works at most
once. -/
theorem worksOnce_of_writesUnused (accounts : Accounts) {pool : Pool users Request Response Ledger}
    (reached : ReachableWhen (redemption accounts) (WritesUnused accounts) pool) :
    WorksOnce accounts pool := by
  have starts : ∀ (table : UserTable) (ledger : Ledger), ledger = openLedger accounts table →
      Balanced accounts table ledger := by
    rintro table ledger rfl
    exact balanced_openLedger accounts table
  obtain ⟨balanced, _⟩ := (bookkeeping_obligations accounts).invariant starts reached
  refine ⟨fun code => ?_, balanced.known, balanced.stored⟩
  have counted := balanced.logins code
  have waiting : 0 ≤ pool.ghost.accepted.sum (accepts code) :=
    List.sum_nonneg (by
      simp only [List.mem_map]
      rintro _ ⟨entry, _, rfl⟩
      exact accepts_nonneg code entry.1 entry.2)
  have taken := balanced.taken code
  omega

end run

/-! ### Codes that work twice -/

/-- A table with one account, which has a second factor and two recovery codes. -/
def carlsTable : UserTable :=
  (UserTable.empty.insert
    { id := 0, username := "carl", passwordHash := "c", role := roleViewer }).update
    { id := 1, username := "carl", passwordHash := "c", role := roleViewer
      totpSecret := "secret", totpEnabled := true
      totpRecoveryCodes := plainRecovery.marshal ["AB", "CD"] }

/-- A login of that account with a recovery code. -/
def carlsLogin (code : String) : Request :=
  .login2FA (some
    { claims := some
        { sub := "carl", role := pendingRole, orgID := "", iat := 0, exp := 300, jti := "" }
      code, now := 0 })

/-- A new password set for that account. -/
def carlsNewPassword : Request :=
  .updateUser (some 1) "root" roleSuperAdmin (some { password := "new", hash := some "new" })

/-- Two logins with one code: both read the row before either writes it. -/
def loginsAtOnce : List (Label Request) :=
  [.begin 0 (carlsLogin "AB"), .begin 1 (carlsLogin "AB"), .turn 0 false, .turn 1 false,
    .turn 0 false, .turn 0 false, .turn 1 false, .turn 1 false]

/-- A login with a code, between the read and the write of another handler. -/
def loginMeanwhile (other : Request) : List (Label Request) :=
  [.begin 1 other, .turn 1 false, .begin 0 (carlsLogin "AB"), .turn 0 false, .turn 0 false,
    .turn 0 false, .turn 1 false]

def carlsStart : Pool users Request Response Ledger :=
  ⟨carlsTable, ∅, openLedger plainAccounts carlsTable⟩

/-- Whether the code that the logins present was taken and is stored. -/
def Resurrected (pool : Pool users Request Response Ledger) : Bool :=
  pool.ghost.consumed.contains (1, "AB") && (pool.store.rows.lookup 1).any fun user =>
    (plainRecovery.hashesOf user.totpRecoveryCodes).contains "AB"

/-- Runs in which a recovery code works more than once: one code pays for two logins, and a code
that was taken is stored again by a login with another code or by a new password. -/
theorem recoveryCode_reused :
    (∃ pool, (redemption plainAccounts).run carlsStart loginsAtOnce = some pool ∧
      ¬ WorksOnce plainAccounts pool ∧ pool.ghost.issued.count (1, "AB") = 1 ∧
      pool.ghost.logins.count (some (1, "AB")) = 2) ∧
    ∀ other ∈ [carlsLogin "CD", carlsNewPassword],
      ∃ pool, (redemption plainAccounts).run carlsStart (loginMeanwhile other) = some pool ∧
        Resurrected pool = true := by
  have twice : ((redemption plainAccounts).run carlsStart loginsAtOnce).any (fun pool =>
      pool.ghost.issued.count (1, "AB") = 1 ∧
        pool.ghost.logins.count (some (1, "AB")) = 2) = true := by decide
  have again : ∀ other ∈ [carlsLogin "CD", carlsNewPassword],
      ((redemption plainAccounts).run carlsStart (loginMeanwhile other)).any
        Resurrected = true := by
    decide
  refine ⟨?_, fun other listed => Option.any_eq_true _ _ |>.mp (again other listed)⟩
  obtain ⟨pool, ran, counts⟩ := Option.any_eq_true _ _ |>.mp twice
  obtain ⟨issued, logins⟩ := of_decide_eq_true counts
  refine ⟨pool, ran, fun once => ?_, issued, logins⟩
  have bound := once.logins (1, "AB")
  omega

/-- A login with a recovery code that nothing disturbs. -/
theorem worksOnce_of_writesUnused_login :
    ∃ pool, ReachableWhen (redemption plainAccounts) (WritesUnused plainAccounts) pool ∧
      pool.ghost.logins = [some (1, "AB")] ∧ WorksOnce plainAccounts pool := by
  have initial : (redemption plainAccounts).start carlsStart := ⟨rfl, rfl⟩
  have ran : ((redemption plainAccounts).runWhen (WritesUnused plainAccounts) carlsStart
      [.begin 0 (carlsLogin "AB"), .turn 0 false, .turn 0 false, .turn 0 false]).any
      (fun pool => pool.ghost.logins = [some (1, "AB")]) = true := by decide
  obtain ⟨pool, reached, logins⟩ := exists_reachableWhen_of_runWhen initial ran
  exact ⟨pool, reached, of_decide_eq_true logins,
    worksOnce_of_writesUnused plainAccounts reached⟩

end SovaDesk.Users
