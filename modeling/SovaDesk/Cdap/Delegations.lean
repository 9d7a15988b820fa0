/-
This file models the store of delegations, and says when the roles it grants are exact.

The store keeps the delegations under their IDs, and lists them for each user a second time. After
every run of the calls that add, revoke and clean up, the lists are exact. The role that a user gets
for a widget is the highest one among the delegations that have not expired; but a delegation counts
there up to the moment of its expiry, while the list of a user's active delegations leaves it out at
that moment. So the two agree unless the role rests on a delegation that expires right then.
-/

import SovaDesk.Lib.GroupIndex
import SovaDesk.Lib.System

namespace SovaDesk.Cdap.Delegations

open Transition GroupIndex

/-! ### The store -/

structure Delegation where
  id : String
  grantor : String
  grantee : String
  deviceID : String
  widgetIDs : List String
  role : String
  expiresAt : Int
  createdAt : Int
  reason : String
  deriving DecidableEq

structure DelegationStore where
  delegations : Table String Delegation
  byGrantee : Table String (List Delegation)

def newDelegationStore : DelegationStore := ⟨∅, ∅⟩

namespace DelegationStore

/-- `Add`: whether the ID is new, and the store afterwards. -/
def add (ds : DelegationStore) (d : Delegation) : Bool × DelegationStore :=
  if (ds.delegations.lookup d.id).isSome then (false, ds)
  else
    (true, {
      delegations := ds.delegations.insert d.id d
      byGrantee := append Delegation.grantee ds.byGrantee d })

/-- `Revoke`: whether the delegation existed, and the store afterwards. -/
def revoke (ds : DelegationStore) (id : String) : Bool × DelegationStore :=
  match ds.delegations.lookup id with
  | none => (false, ds)
  | some d =>
    (true, {
      delegations := ds.delegations.erase id
      byGrantee := remove Delegation.id ds.byGrantee d.grantee id })

/-- The delegations that `CleanExpired` keeps. -/
def unexpired (ds : DelegationStore) (now : Int) : Table String Delegation :=
  ds.delegations.filter fun _ d => !(d.expiresAt < now)

/-- `CleanExpired`: how many delegations are deleted, and the store afterwards. The index is built
anew from the others, in the order of a range over the map. -/
def cleanExpired (ds : DelegationStore) (now : Int) (order : List Delegation) :
    Nat × DelegationStore :=
  let count := ds.delegations.entries.length - (ds.unexpired now).entries.length
  (count, {
    delegations := ds.unexpired now
    byGrantee := if count > 0 then order.foldl (append Delegation.grantee) ∅ else ds.byGrantee })

/-- `ListByGrantee`. -/
def listByGrantee (ds : DelegationStore) (username : String) (now : Int) : List Delegation :=
  (listed ds.byGrantee username).filter fun d => d.expiresAt > now

end DelegationStore

/-! ### Roles -/

/-- The entries of `roleLevel`. -/
def roleLevels : List (String × Nat) := [("viewer", 1), ("operator", 2), ("admin", 3)]

/-- `RoleLevel`: zero for unknown roles. -/
def roleLevel (role : String) : Nat := (roleLevels.lookup role).getD 0

/-- An order of a range over `roleLevel`. -/
structure RangeOrder where
  entries : List (String × Nat)
  all : entries.Perm roleLevels

/-- The loop of `GetEffectiveRole` over a user's delegations. -/
def bestLevel (deviceID widgetID : String) (now : Int) : List Delegation → Nat → Nat
  | [], best => best
  | d :: rest, best =>
    if d.expiresAt < now then bestLevel deviceID widgetID now rest best
    else if d.deviceID ≠ deviceID then bestLevel deviceID widgetID now rest best
    else if d.widgetIDs.length > 0 ∧ widgetID ≠ "" ∧ widgetID ∉ d.widgetIDs then
      bestLevel deviceID widgetID now rest best
    else
      bestLevel deviceID widgetID now rest
        (if roleLevel d.role > best then roleLevel d.role else best)

/-- The name of a level, from a range over `roleLevel`. -/
def RangeOrder.roleName (order : RangeOrder) (level : Nat) : String :=
  ((order.entries.find? fun entry => entry.2 = level).map (·.1)).getD ""

/-- `GetEffectiveRole`. -/
def DelegationStore.getEffectiveRole (ds : DelegationStore) (order : RangeOrder)
    (username deviceID widgetID : String) (now : Int) : String :=
  order.roleName (bestLevel deviceID widgetID now (listed ds.byGrantee username) 0)

/-! ### Runs -/

/-- The calls that change the store. -/
inductive Label
  | add (d : Delegation)
  | revoke (id : String)
  | cleanExpired (now : Int) (order : List Delegation)

def step (ds : DelegationStore) : Label → Option DelegationStore
  | .add d => some (ds.add d).2
  | .revoke id => some (ds.revoke id).2
  | .cleanExpired now order =>
    if order.Perm ((ds.unexpired now).entries.map (·.2)) then some (ds.cleanExpired now order).2
    else none

def delegationSystem : System DelegationStore Label where
  start ds := ds = newDelegationStore
  step := step

/-- The index has exactly the stored delegations, each once under its grantee. -/
abbrev IndexExact (ds : DelegationStore) : Prop :=
  Exact Delegation.id Delegation.grantee ds.delegations ds.byGrantee

variable {ds : DelegationStore}

theorem IndexExact.cleanExpired (exact_ : IndexExact ds) (now : Int)
    {order : List Delegation} (all : order.Perm ((ds.unexpired now).entries.map (·.2))) :
    IndexExact (ds.cleanExpired now order).2 := by
  have keyed : ∀ stored d, (ds.unexpired now).lookup stored = some d → d.id = stored :=
    fun stored d found => exact_.keyed stored d (Table.lookup_filter_iff.mp found).1
  unfold DelegationStore.cleanExpired
  dsimp only
  split
  · exact exact_build keyed all
  · next nothing =>
    -- As no delegation is deleted, the table is what it was.
    have whole : (ds.unexpired now).entries = ds.delegations.entries := by
      refine List.Sublist.eq_of_length_le List.filter_sublist ?_
      omega
    rw [AList.ext whole]
    exact exact_

theorem IndexExact.step {after : DelegationStore} (exact_ : IndexExact ds) (label : Label)
    (taken : step ds label = some after) : IndexExact after := by
  cases label with
  | add d =>
    obtain rfl := Option.some.inj taken
    unfold DelegationStore.add
    split
    · exact exact_
    · next fresh => exact exact_.add (Option.not_isSome_iff_eq_none.mp fresh)
  | revoke id =>
    obtain rfl := Option.some.inj taken
    unfold DelegationStore.revoke
    split
    · exact exact_
    · next d stored => exact exact_.remove stored
  | cleanExpired now order =>
    obtain ⟨all, cleaned⟩ := Option.ite_none_right_eq_some.mp taken
    exact Option.some.inj cleaned ▸ exact_.cleanExpired now all

theorem indexExact_of_reachable (reached : Reachable delegationSystem ds) : IndexExact ds := by
  refine reached.invariant IndexExact (fun start initial => ?_)
    fun _ label _ exact_ _ taken => exact_.step label taken
  obtain rfl : start = newDelegationStore := initial
  exact exact_empty

/-! ### The effective role -/

/-- The delegation is for the device, and for all widgets or this one. -/
def Delegation.Covers (d : Delegation) (deviceID widgetID : String) : Prop :=
  d.deviceID = deviceID ∧ (d.widgetIDs = [] ∨ widgetID ∈ d.widgetIDs)

/-- A role is the highest known one among some delegations, or the empty string where none of them
has a known role. -/
def Highest (candidates : Delegation → Prop) (role : String) : Prop :=
  (role = "" ∧ ∀ d, candidates d → roleLevel d.role = 0) ∨
    (0 < roleLevel role ∧ (∃ d, candidates d ∧ d.role = role) ∧
      ∀ d, candidates d → roleLevel d.role ≤ roleLevel role)

theorem roleLevel_eq_of_mem {entry : String × Nat} (member : entry ∈ roleLevels) :
    roleLevel entry.1 = entry.2 := by
  have all : ∀ entry ∈ roleLevels, roleLevel entry.1 = entry.2 := by decide
  exact all entry member

theorem mem_roleLevels {role : String} (known : 0 < roleLevel role) :
    (role, roleLevel role) ∈ roleLevels := by
  unfold roleLevel at known ⊢
  cases found : roleLevels.lookup role with
  | none => simp [found] at known
  | some level =>
    obtain ⟨before, after, split, -⟩ := List.lookup_eq_some_iff.mp found
    rw [Option.getD_some, split]
    exact List.mem_append_right _ List.mem_cons_self

/-- Known roles have levels of their own. -/
theorem roleLevel_inj {first second : String} (known : 0 < roleLevel first)
    (same : roleLevel first = roleLevel second) : first = second := by
  have all : ∀ first ∈ roleLevels, ∀ second ∈ roleLevels, first.2 = second.2 →
      first.1 = second.1 := by decide
  exact all _ (mem_roleLevels known) _ (mem_roleLevels (same ▸ known)) same

/-- Whatever the order of the range, a level leads back to its role, and level zero to none. -/
theorem RangeOrder.roleName_roleLevel (order : RangeOrder) {role : String}
    (known : 0 < roleLevel role) : order.roleName (roleLevel role) = role := by
  have present : (role, roleLevel role) ∈ order.entries :=
    order.all.mem_iff.mpr (mem_roleLevels known)
  unfold RangeOrder.roleName
  cases found : order.entries.find? fun entry => entry.2 = roleLevel role with
  | none => exact absurd (List.find?_eq_none.mp found _ present) (by simp)
  | some entry =>
    have level : entry.2 = roleLevel role := by simpa using List.find?_some found
    have member := order.all.mem_iff.mp (List.mem_of_find?_eq_some found)
    have entryLevel := roleLevel_eq_of_mem member
    exact (roleLevel_inj known (level.symm.trans entryLevel.symm)).symm

theorem RangeOrder.roleName_zero (order : RangeOrder) : order.roleName 0 = "" := by
  have positive : ∀ entry ∈ roleLevels, ¬ entry.2 = 0 := by decide
  have missing : order.entries.find? (fun entry => entry.2 = 0) = none :=
    List.find?_eq_none.mpr fun entry member => by
      simpa using positive entry (order.all.mem_iff.mp member)
  rw [RangeOrder.roleName, missing]
  rfl

variable {widgetID : String}

/-- What the loop computes: a bound of the levels that count, reached by one of them or by the
start. -/
theorem bestLevel_spec (deviceID : String) (named : widgetID ≠ "") (now : Int)
    (ds : List Delegation) (best : Nat) :
    best ≤ bestLevel deviceID widgetID now ds best ∧
      (∀ d ∈ ds, d.Covers deviceID widgetID → ¬ d.expiresAt < now →
        roleLevel d.role ≤ bestLevel deviceID widgetID now ds best) ∧
      (bestLevel deviceID widgetID now ds best = best ∨
        ∃ d ∈ ds, d.Covers deviceID widgetID ∧ ¬ d.expiresAt < now ∧
          roleLevel d.role = bestLevel deviceID widgetID now ds best) := by
  induction ds generalizing best with
  | nil => exact ⟨le_rfl, fun d member => absurd member List.not_mem_nil, Or.inl rfl⟩
  | cons d rest inductionHypothesis =>
    by_cases counts : d.Covers deviceID widgetID ∧ ¬ d.expiresAt < now
    · obtain ⟨⟨device, widgets⟩, current⟩ := counts
      have taken : bestLevel deviceID widgetID now (d :: rest) best =
          bestLevel deviceID widgetID now rest (max best (roleLevel d.role)) := by
        rw [bestLevel, if_neg current, if_neg (not_not.mpr device), if_neg]
        · congr 1
          split <;> omega
        · rintro ⟨some, -, missing⟩
          rcases widgets with none | member
          · exact absurd some (by simp [none])
          · exact missing member
      obtain ⟨atLeast, bound, reached⟩ := inductionHypothesis (max best (roleLevel d.role))
      rw [taken]
      refine ⟨(Nat.le_max_left _ _).trans atLeast, ?_, ?_⟩
      · intro other member covers valid
        rcases List.mem_cons.mp member with rfl | later
        · exact (Nat.le_max_right _ _).trans atLeast
        · exact bound other later covers valid
      · rcases reached with start | ⟨other, later, covers, valid, level⟩
        · rw [start]
          rcases Nat.le_total (roleLevel d.role) best with below | above
          · exact Or.inl (Nat.max_eq_left below)
          · exact Or.inr ⟨d, List.mem_cons_self, ⟨device, widgets⟩, current,
              (Nat.max_eq_right above).symm⟩
        · exact Or.inr ⟨other, List.mem_cons_of_mem _ later, covers, valid, level⟩
    · have skipped : bestLevel deviceID widgetID now (d :: rest) best =
          bestLevel deviceID widgetID now rest best := by
        rw [bestLevel]
        split
        · rfl
        · next current =>
          split
          · rfl
          · next device =>
            refine if_pos ⟨?_, named, ?_⟩
            · refine List.length_pos_iff.mpr fun none => counts ⟨⟨?_, Or.inl none⟩, current⟩
              exact not_not.mp device
            · exact fun member => counts ⟨⟨not_not.mp device, Or.inr member⟩, current⟩
      obtain ⟨atLeast, bound, reached⟩ := inductionHypothesis best
      rw [skipped]
      refine ⟨atLeast, ?_, ?_⟩
      · intro other member covers valid
        rcases List.mem_cons.mp member with rfl | later
        · exact absurd ⟨covers, valid⟩ counts
        · exact bound other later covers valid
      · rcases reached with start | ⟨other, later, found⟩
        · exact Or.inl start
        · exact Or.inr ⟨other, List.mem_cons_of_mem _ later, found⟩

/-- The delegations of a user that cover a widget and have not expired: the moment of its expiry
still belongs to a delegation. -/
def Unexpired (ds : DelegationStore) (username deviceID widgetID : String) (now : Int)
    (d : Delegation) : Prop :=
  ds.delegations.lookup d.id = some d ∧ d.grantee = username ∧ d.Covers deviceID widgetID ∧
    ¬ d.expiresAt < now

/-- Those that `ListByGrantee` reports. -/
def Reported (ds : DelegationStore) (username deviceID widgetID : String) (now : Int)
    (d : Delegation) : Prop :=
  d ∈ ds.listByGrantee username now ∧ d.Covers deviceID widgetID

theorem reported_iff (exact_ : IndexExact ds)
    {username deviceID : String} {now : Int} {d : Delegation} :
    Reported ds username deviceID widgetID now d ↔
      Unexpired ds username deviceID widgetID now d ∧ now < d.expiresAt := by
  unfold Reported Unexpired DelegationStore.listByGrantee
  rw [List.mem_filter, exact_.mem_iff, decide_eq_true_eq]
  constructor
  · rintro ⟨⟨⟨stored, own⟩, later⟩, covers⟩
    exact ⟨⟨stored, own, covers, by omega⟩, later⟩
  · rintro ⟨⟨stored, own, covers, -⟩, later⟩
    exact ⟨⟨⟨stored, own⟩, later⟩, covers⟩

/-- The role is the highest known one among the unexpired delegations. -/
theorem highest_unexpired (exact_ : IndexExact ds) (order : RangeOrder)
    (username deviceID : String) (named : widgetID ≠ "") (now : Int) :
    Highest (Unexpired ds username deviceID widgetID now)
      (ds.getEffectiveRole order username deviceID widgetID now) := by
  obtain ⟨-, bound, reached⟩ :=
    bestLevel_spec deviceID named now (listed ds.byGrantee username) 0
  unfold DelegationStore.getEffectiveRole
  have below : ∀ d, Unexpired ds username deviceID widgetID now d → roleLevel d.role ≤
      bestLevel deviceID widgetID now (listed ds.byGrantee username) 0 :=
    fun d ⟨stored, own, covers, current⟩ =>
      bound d ((exact_.mem_iff username d).mpr ⟨stored, own⟩) covers current
  rcases Nat.eq_zero_or_pos (bestLevel deviceID widgetID now (listed ds.byGrantee username) 0)
    with zero | positive
  · rw [zero] at below ⊢
    exact Or.inl ⟨order.roleName_zero, fun d candidate => Nat.le_zero.mp (below d candidate)⟩
  · rcases reached with start | ⟨d, member, covers, current, level⟩
    · exact absurd start (Nat.ne_of_gt positive)
    · obtain ⟨stored, own⟩ := (exact_.mem_iff username d).mp member
      rw [← level] at below positive ⊢
      rw [order.roleName_roleLevel positive]
      exact Or.inr ⟨positive, ⟨d, ⟨stored, own, covers, current⟩, rfl⟩, below⟩

/-- The index is exact, and the role that is returned is the highest known one among the unexpired
delegations, as `ListByGrantee` reports them, too. -/
structure RolesExact (ds : DelegationStore) (order : RangeOrder)
    (username deviceID widgetID : String) (now : Int) : Prop where
  index : IndexExact ds
  highest : Highest (Unexpired ds username deviceID widgetID now)
    (ds.getEffectiveRole order username deviceID widgetID now)
  agrees : Highest (Reported ds username deviceID widgetID now)
    (ds.getEffectiveRole order username deviceID widgetID now)

/-- A delegation that expires at this very moment has a known role above those of all that expire
later. -/
def LastMoment (ds : DelegationStore) (username deviceID widgetID : String) (now : Int) : Prop :=
  ∃ d, Unexpired ds username deviceID widgetID now d ∧ d.expiresAt = now ∧
    0 < roleLevel d.role ∧ ∀ other, Unexpired ds username deviceID widgetID now other →
      now < other.expiresAt → roleLevel other.role < roleLevel d.role

/-- After every run, for every user, device, widget and moment: the role is exact unless it rests
on a delegation that expires at that very moment. -/
theorem rolesExact_iff {ds : DelegationStore} (reached : Reachable delegationSystem ds)
    (order : RangeOrder) (username deviceID widgetID : String) (named : widgetID ≠ "")
    (now : Int) : RolesExact ds order username deviceID widgetID now ↔
      ¬ LastMoment ds username deviceID widgetID now := by
  have index := indexExact_of_reachable reached
  have highest := highest_unexpired index order username deviceID named now
  generalize result : ds.getEffectiveRole order username deviceID widgetID now = role at highest
  constructor
  · rintro ⟨-, -, agrees⟩ ⟨d, candidate, -, known, above⟩
    rw [result] at agrees
    have least : roleLevel d.role ≤ roleLevel role := by
      rcases highest with ⟨-, unknown⟩ | ⟨-, -, bound⟩
      · exact absurd (unknown d candidate) (Nat.ne_of_gt known)
      · exact bound d candidate
    rcases agrees with ⟨empty, -⟩ | ⟨-, ⟨other, reported, same⟩, -⟩
    · rw [empty] at least
      exact absurd least (Nat.not_le.mpr known)
    · obtain ⟨unexpired, later⟩ := (reported_iff index).mp reported
      have below := above other unexpired later
      rw [same] at below
      exact absurd least (Nat.not_le.mpr below)
  · intro notLast
    refine ⟨index, result ▸ highest, ?_⟩
    rw [result]
    rcases highest with ⟨empty, unknown⟩ | ⟨known, ⟨d, candidate, same⟩, bound⟩
    · exact Or.inl ⟨empty, fun d reported => unknown d ((reported_iff index).mp reported).1⟩
    · refine Or.inr ⟨known, ?_, fun e reported => bound e ((reported_iff index).mp reported).1⟩
      rcases Int.lt_or_eq_of_le (Int.not_lt.mp candidate.2.2.2) with later | now_
      · exact ⟨d, (reported_iff index).mpr ⟨candidate, later⟩, same⟩
      · -- Another delegation that expires later has the same role.
        by_contra none
        refine notLast ⟨d, candidate, now_.symm, same ▸ known, fun other unexpired later => ?_⟩
        refine lt_of_le_of_ne (same ▸ bound other unexpired) fun level => none ?_
        rw [same] at level
        have role_ := roleLevel_inj (level ▸ known) level
        exact ⟨other, (reported_iff index).mpr ⟨unexpired, later⟩, role_⟩

/-- Bob may operate the device until the moment 5. -/
def untilFive : Delegation where
  id := "dlg_1"
  grantor := "root"
  grantee := "bob"
  deviceID := "device"
  widgetIDs := []
  role := "operator"
  expiresAt := 5
  createdAt := 0
  reason := ""

def bobStore : DelegationStore := (newDelegationStore.add untilFive).2

theorem reachable_bobStore : Reachable delegationSystem bobStore := by
  have added : delegationSystem.step newDelegationStore (.add untilFive) = some bobStore := rfl
  exact .step (.start rfl) trivial added

def tableOrder : RangeOrder := ⟨roleLevels, List.Perm.refl _⟩

theorem eq_of_stored {d : Delegation} (stored : bobStore.delegations.lookup d.id = some d) :
    d = untilFive := by
  rcases Table.lookup_insert_iff.mp stored with ⟨-, same⟩ | ⟨-, none⟩
  · exact same
  · exact absurd none (Option.some_ne_none d).symm

/-- A moment before the expiry the role is exact. -/
theorem rolesExact_four : RolesExact bobStore tableOrder "bob" "device" "switch" 4 ∧
    bobStore.getEffectiveRole tableOrder "bob" "device" "switch" 4 = "operator" := by
  refine ⟨(rolesExact_iff reachable_bobStore tableOrder "bob" "device" "switch" (by decide) 4).mpr
    ?_, by decide +kernel⟩
  rintro ⟨d, ⟨stored, -⟩, atOnce, -⟩
  rw [eq_of_stored stored] at atOnce
  exact absurd atOnce (by decide)

/-- At the moment of the expiry Bob still gets the role, and nothing is reported. -/
theorem role_at_expiry : Reachable delegationSystem bobStore ∧
    ¬ RolesExact bobStore tableOrder "bob" "device" "switch" 5 := by
  refine ⟨reachable_bobStore, fun rolesExact => ?_⟩
  have role : bobStore.getEffectiveRole tableOrder "bob" "device" "switch" 5 = "operator" := by
    decide +kernel
  have none : bobStore.listByGrantee "bob" 5 = [] := by decide +kernel
  rcases rolesExact.agrees with ⟨empty, -⟩ | ⟨-, ⟨d, ⟨reported, -⟩, -⟩, -⟩
  · exact absurd (role.symm.trans empty) (by decide)
  · rw [none] at reported
    exact List.not_mem_nil reported

end SovaDesk.Cdap.Delegations
