/-
This file says when a super-admin is left.

The handlers that demote or delete an account count the super-admins first and write
later; the logins that bring a role in line with a directory or an identity provider,
and the handlers that write back a row that was promoted after they read it, do not
count at all. A super-admin is left exactly as long as each write that takes the role
away comes from a handler whose count no other such write has outdated, or finds a
second super-admin in the table.
-/

import SovaDesk.Users.Writes

namespace SovaDesk.Users

open Interleave Transition Auth

/-! ### Counting super-admins -/

/-- One for a super-admin. -/
def adminWeight (_ : Int) (user : User) : Int := if isSuperAdminRole user.role then 1 else 0

/-- How many super-admins are stored. -/
def superAdmins (table : UserTable) : Int := table.rows.sum adminWeight

/-- Some stored row has a super-admin role. -/
def HasSuperAdmin (table : UserTable) : Prop :=
  ∃ id user, table.rows.lookup id = some user ∧ isSuperAdminRole user.role = true

theorem adminWeight_nonneg (id : Int) (user : User) : 0 ≤ adminWeight id user := by
  unfold adminWeight
  split <;> decide

/-- The handlers count what is stored. -/
theorem adminCount_all (table : UserTable) : adminCount table.all = superAdmins table := by
  rw [adminCount, UserTable.all, List.map_map]
  rfl

variable {table : UserTable}

theorem hasSuperAdmin_iff : HasSuperAdmin table ↔ 1 ≤ superAdmins table := by
  constructor
  · rintro ⟨id, user, found, isAdmin⟩
    have weight : adminWeight id user = 1 := if_pos isAdmin
    rw [← weight]
    exact Table.le_sum _ (fun other row _ => adminWeight_nonneg other row) found
  · intro counted
    by_contra none
    have zero : superAdmins table = 0 := Table.sum_eq_zero fun id user found =>
      if_neg fun isAdmin => none ⟨id, user, found, isAdmin⟩
    omega

/-- The calls that take the role from a stored super-admin. -/
def takes (table : UserTable) : UserCall → Bool
  | .updateUser user => (table.rows.lookup user.id).any fun stored =>
      isSuperAdminRole stored.role && !isSuperAdminRole user.role
  | .deleteUser id => (table.rows.lookup id).any fun stored => isSuperAdminRole stored.role
  | _ => false

variable {call : UserCall}

theorem writes_of_takes (taking : takes table call = true) :
    call.writes = true := by
  cases call <;> first | rfl | exact absurd taking Bool.false_ne_true

/-- No write of a row is refused. -/
theorem isSome_perform_of_takes
    (taking : takes table call = true) : (call.perform table).isSome = true := by
  cases call <;> first | rfl | exact absurd taking Bool.false_ne_true

theorem superAdmins_update (table : UserTable) {user stored : User}
    (found : table.rows.lookup user.id = some stored) :
    superAdmins (table.update user) =
      superAdmins table - adminWeight user.id stored + adminWeight user.id user := by
  rw [superAdmins, UserTable.update, Table.sum_update adminWeight (UserTable.written user) found]
  rfl

theorem superAdmins_insert_le (table : UserTable) (user : User) :
    superAdmins table ≤ superAdmins (table.insert user) := by
  have unused : table.rows.lookup table.nextID = none := by
    cases found : table.rows.lookup table.nextID with
    | none => rfl
    | some row => exact absurd (table.below _ row found) (Int.lt_irrefl _)
  have nonneg := adminWeight_nonneg table.nextID
    { user.withProvider with
      id := table.nextID, isServerAdmin := false, totpRecoveryCodes := "" }
  rw [superAdmins, superAdmins, UserTable.insert, Table.sum_insert, unused, Option.map_none,
    Option.getD_none, sub_zero]
  omega

/-- A call changes the number of super-admins by one when it takes the role from one, and only
then makes it smaller. -/
theorem superAdmins_perform {after : UserTable} {answer : call.Answer}
    (performed : call.perform table = some (answer, after)) :
    if takes table call then superAdmins after = superAdmins table - 1
    else superAdmins table ≤ superAdmins after := by
  cases call with
  | updateUser user =>
    have moved : table.update user = after := (Prod.mk.inj (Option.some.inj performed)).2
    subst moved
    cases found : table.rows.lookup user.id with
    | none =>
      have same : superAdmins (table.update user) = superAdmins table := by
        simp only [superAdmins, UserTable.update, Table.update, found]
      rw [takes, found, same]
      exact Int.le_refl _
    | some stored =>
      rw [takes, found, superAdmins_update table found]
      simp only [Option.any_some, adminWeight]
      by_cases wasAdmin : isSuperAdminRole stored.role = true <;>
        by_cases isAdmin : isSuperAdminRole user.role = true <;> simp [wasAdmin, isAdmin]
  | deleteUser id =>
    have moved : table.delete id = after := (Prod.mk.inj (Option.some.inj performed)).2
    subst moved
    cases found : table.rows.lookup id with
    | none =>
      rw [takes, found, superAdmins, superAdmins, UserTable.delete,
        Table.sum_erase_of_none adminWeight found]
      exact Int.le_refl _
    | some stored =>
      rw [takes, found, superAdmins, superAdmins, UserTable.delete,
        Table.sum_erase adminWeight found]
      simp only [Option.any_some, adminWeight]
      by_cases wasAdmin : isSuperAdminRole stored.role = true <;> simp [wasAdmin]
  | createUser user =>
    rw [UserCall.perform] at performed
    split_ifs at performed
    have moved : table.insert user = after := (Prod.mk.inj (Option.some.inj performed)).2
    subst moved
    exact superAdmins_insert_le table user
  | getUser username => exact (Prod.mk.inj (Option.some.inj performed)).2 ▸ Int.le_refl _
  | getUserByID id => exact (Prod.mk.inj (Option.some.inj performed)).2 ▸ Int.le_refl _
  | listUsers => exact (Prod.mk.inj (Option.some.inj performed)).2 ▸ Int.le_refl _
  | updateUserLogin id => exact (Prod.mk.inj (Option.some.inj performed)).2 ▸ Int.le_refl _

/-! ### The handlers that have counted -/

/-- The observer keeps the threads that have counted the super-admins since the last write that took
the role from one. -/
def counting : Observer users Request Response (List Nat) where
  began thread _ counted := counted.filter (· ≠ thread)
  called thread _ call answer table counted :=
    if answer.isNone then counted
    else if takes table call then []
    else if call = .listUsers then thread :: counted
    else counted
  ended thread _ _ counted := counted.filter (· ≠ thread)

/-- The requests of any number of clients, from a table with a super-admin. -/
def administration (accounts : Accounts) :
    System (Pool users Request Response (List Nat)) (Label Request) :=
  interleaving (handle accounts) counting fun table counted => HasSuperAdmin table ∧ counted = []

/-- The writes that leave a super-admin: one that takes the role from a super-admin comes from a
handler that has counted since the last such write, or while a second super-admin is stored. -/
def LeavesOne (pool : Pool users Request Response (List Nat)) : Label Request → Prop
  | .begin _ _ => True
  | .turn thread fails => ∀ request call next,
      pool.running.lookup thread = some ⟨request, .call call next⟩ → fails = false →
      takes pool.store call = true → thread ∈ pool.ghost ∨ 2 ≤ superAdmins pool.store

section own

variable {accounts : Accounts}

/-- What holds of a running handler: its shape, and that it writes nothing any more or that two
super-admins are stored as long as its count is not outdated. -/
structure Counted (accounts : Accounts) (table : UserTable) (counted : List Nat) (thread : Nat)
    (request : Request) (program : Program users Response) : Prop where
  shaped : ∃ read wrote, Shaped accounts request (Answered request) read wrote program
  current : thread ∈ counted → Silent program ∨ 2 ≤ superAdmins table

/-- A handler that has just counted writes nothing any more, or found two super-admins. -/
theorem silent_or_two {request : Request} {read : List User} {wrote : Bool}
    {next : Option (List User) → Program users Response}
    (shaped : Shaped accounts request (Answered request) read wrote (.call .listUsers next)) :
    Silent (next (some table.all)) ∨ 2 ≤ superAdmins table := by
  by_cases few : adminCount table.all ≤ 1
  · exact .inl (shaped.1 table.all few)
  · rw [adminCount_all] at few
    exact .inr (by omega)

theorem obligations (accounts : Accounts) :
    Obligations (handle accounts) counting LeavesOne (fun table _ => HasSuperAdmin table)
      (Counted accounts) where
  begins := by
    intro table counted thread request kept
    refine ⟨kept, ⟨⟨[], false, shaped_handle request⟩, fun member => ?_⟩,
      fun other different another program holds => ⟨holds.shaped, fun member => ?_⟩⟩
    · exact absurd rfl (of_decide_eq_true (List.mem_filter.mp member).2)
    · exact holds.current (List.mem_filter.mp member).1
  ends := by
    intro table counted thread request result kept _
    exact ⟨kept, fun other different another program holds =>
      ⟨holds.shaped, fun member => holds.current (List.mem_filter.mp member).1⟩⟩
  calls := by
    intro pool thread fails request call next guarded found kept holds answer after attempted
    rcases Interface.attempt_cases attempted with ⟨rfl, rfl⟩ | ⟨reply, succeeded, performed, rfl⟩
    · refine ⟨kept,
        ⟨⟨_, _, shaped_next holds.shaped.choose_spec.choose_spec none⟩, fun member => ?_⟩,
        fun other _ another program others => others⟩
      exact (holds.current member).imp_left fun silent => silent.2 none
    · have counted := superAdmins_perform performed
      by_cases taking : takes pool.store call = true
      · -- The write takes the role: by the guard a second super-admin was stored.
        rw [if_pos taking] at counted
        have two : 2 ≤ superAdmins pool.store :=
          (guarded request call next found succeeded taking).elim
            (fun member => (holds.current member).resolve_left fun silent =>
              absurd (writes_of_takes taking) (Bool.eq_false_iff.mp silent.1))
            id
        have emptied :
            counting.called thread request call (some reply) pool.store pool.ghost = [] :=
          if_pos taking
        rw [emptied]
        refine ⟨hasSuperAdmin_iff.mpr (by omega),
          ⟨⟨_, _, shaped_next holds.shaped.choose_spec.choose_spec _⟩,
            fun member => nomatch member⟩,
          fun other _ another program others => ⟨others.shaped, fun member => nomatch member⟩⟩
      · rw [if_neg taking] at counted
        have noted : counting.called thread request call (some reply) pool.store pool.ghost =
            if call = .listUsers then thread :: pool.ghost else pool.ghost := if_neg taking
        rw [noted]
        refine ⟨hasSuperAdmin_iff.mpr (Int.le_trans (hasSuperAdmin_iff.mp kept) counted),
          ⟨⟨_, _, shaped_next holds.shaped.choose_spec.choose_spec _⟩, fun member => ?_⟩,
          fun other different another program others => ⟨others.shaped, fun member => ?_⟩⟩
        · by_cases counting : call = .listUsers
          · subst counting
            obtain ⟨read, wrote, shaped⟩ := holds.shaped
            obtain ⟨rfl, rfl⟩ := Prod.mk.inj (Option.some.inj performed)
            exact silent_or_two shaped
          · rw [if_neg counting] at member
            exact (holds.current member).imp (fun silent => silent.2 _)
              (fun two => Int.le_trans two counted)
        · have older : other ∈ pool.ghost := by
            split_ifs at member
            · exact (List.mem_cons.mp member).resolve_left different
            · exact member
          exact (others.current older).imp_right fun two => Int.le_trans two counted

/-- A write that takes the role and leaves a super-admin found two. -/
theorem two_of_takes (accounts : Accounts)
    {before after : Pool users Request Response (List Nat)} {thread : Nat}
    {fails : Bool} {request : Request}
    {next : Option call.Answer → Program users Response}
    (found : before.running.lookup thread = some ⟨request, .call call next⟩)
    (undisturbed : fails = false) (taking : takes before.store call = true)
    (stepped : Pool.step (handle accounts) counting before (.turn thread fails) = some after)
    (remains : HasSuperAdmin after.store) : 2 ≤ superAdmins before.store := by
  obtain ⟨⟨reply, left⟩, performed⟩ := Option.isSome_iff_exists.mp (isSome_perform_of_takes taking)
  have store : after.store = left := by
    have outcome : users.attempt false call before.store = (some reply, left) :=
      Interface.attempt_of_perform performed
    rw [Pool.store_of_turn found stepped, undisturbed, outcome]
  have counted := superAdmins_perform performed
  rw [if_pos taking, ← store] at counted
  have some := hasSuperAdmin_iff.mp remains
  omega

end own

/-- In every run of the handlers from a table with a super-admin, a super-admin is stored after
every step exactly if every write of the run leaves one. -/
theorem superAdminRemains_iff_leavesOne (accounts : Accounts)
    {steps : List (Taken (Pool users Request Response (List Nat)) (Label Request))}
    {final : Pool users Request Response (List Nat)}
    (history : History (administration accounts) steps final) :
    (∀ step ∈ steps, HasSuperAdmin step.after.store) ↔
      ∀ step ∈ steps, LeavesOne step.before step.label := by
  have starts : ∀ (table : UserTable) (counted : List Nat),
      HasSuperAdmin table ∧ counted = [] → HasSuperAdmin table := fun _ _ start => start.1
  have agree : ∀ step : Taken (Pool users Request Response (List Nat)) (Label Request),
      ReachableWhen (administration accounts) LeavesOne step.before →
      (administration accounts).step step.before step.label = some step.after →
      (HasSuperAdmin step.after.store ↔ LeavesOne step.before step.label) := by
    rintro ⟨before, label, after⟩ reached taken
    refine ⟨fun remains => ?_, fun leaves =>
      ((obligations accounts).invariant starts (.step reached leaves taken)).1⟩
    cases label with
    | begin thread request => trivial
    | turn thread fails =>
      intro request call next found undisturbed taking
      exact .inr (two_of_takes accounts found undisturbed taking taken remains)
  exact history.forall_iff_when agree

/-! ### The last super-admin lost -/

/-- A table whose only super-admin is bound to the directory. -/
def directoryAdmin : UserTable :=
  UserTable.empty.insert
    { id := 0, username := "root", passwordHash := "-", role := roleSuperAdmin
      authProvider := authProviderLDAP }

/-- A login of that account after the directory has moved it to another group. -/
def movedLogin : Request :=
  .login (some
    { username := "root", password := "secret", ldapEnabled := true
      ldapResult := some ⟨true, roleViewer⟩ })

/-- A table with two super-admins. -/
def twoAdmins : UserTable :=
  (UserTable.empty.insert
    { id := 0, username := "ada", passwordHash := "a", role := roleSuperAdmin }).insert
    { id := 0, username := "bob", passwordHash := "b", role := roleSuperAdmin }

/-- Each of the two demotes the other; both count before either writes. -/
def mutualDemotion : List (Label Request) :=
  [.begin 0 (.updateUser (some 2) "ada" roleSuperAdmin (some { role := roleViewer })),
    .begin 1 (.updateUser (some 1) "bob" roleSuperAdmin (some { role := roleViewer })),
    .turn 0 false, .turn 1 false, .turn 0 false, .turn 1 false, .turn 0 false, .turn 1 false]

theorem hasSuperAdmin_samples : HasSuperAdmin directoryAdmin ∧ HasSuperAdmin twoAdmins :=
  ⟨hasSuperAdmin_iff.mpr (by decide), hasSuperAdmin_iff.mpr (by decide)⟩

/-- A computed run to a table without super-admins. -/
theorem lost_of_run {labels : List (Label Request)}
    (ran : ((administration plainAccounts).run ⟨table, ∅, []⟩ labels).any
      (fun pool => superAdmins pool.store = 0) = true) :
    ∃ pool, (administration plainAccounts).run ⟨table, ∅, []⟩ labels = some pool ∧
      ¬ HasSuperAdmin pool.store := by
  obtain ⟨pool, ends, none⟩ := Option.any_eq_true _ _ |>.mp ran
  refine ⟨pool, ends, fun left => ?_⟩
  have counted := hasSuperAdmin_iff.mp left
  have zero : superAdmins pool.store = 0 := of_decide_eq_true none
  omega

/-- Runs that lose the last super-admin: one login, and two demotions at once. -/
theorem lastSuperAdmin_lost :
    (HasSuperAdmin directoryAdmin ∧
      ∃ pool, (administration plainAccounts).run ⟨directoryAdmin, ∅, []⟩
        [.begin 0 movedLogin, .turn 0 false, .turn 0 false] = some pool ∧
          ¬ HasSuperAdmin pool.store) ∧
    HasSuperAdmin twoAdmins ∧
      ∃ pool, (administration plainAccounts).run ⟨twoAdmins, ∅, []⟩ mutualDemotion = some pool ∧
        ¬ HasSuperAdmin pool.store :=
  ⟨⟨hasSuperAdmin_samples.1, lost_of_run (by decide)⟩,
    hasSuperAdmin_samples.2, lost_of_run (by decide)⟩

theorem superAdminRemains_iff_leavesOne_login :
    ∃ steps pool, History (administration plainAccounts) steps pool ∧ steps.length = 3 ∧
      ((∀ step ∈ steps, HasSuperAdmin step.after.store) ↔
        ∀ step ∈ steps, LeavesOne step.before step.label) := by
  have initial : (administration plainAccounts).start ⟨directoryAdmin, ∅, []⟩ :=
    ⟨rfl, hasSuperAdmin_samples.1, rfl⟩
  have traced : ((administration plainAccounts).trace [] ⟨directoryAdmin, ∅, []⟩
      [.begin 0 movedLogin, .turn 0 false, .turn 0 false]).any
      (fun run => run.1.length = 3) = true := by decide
  obtain ⟨steps, pool, history, length⟩ := exists_history_of_trace initial traced
  exact ⟨steps, pool, history, of_decide_eq_true length,
    superAdminRemains_iff_leavesOne plainAccounts history⟩

end SovaDesk.Users
