/-
This file settles whether an organization can take the devices of another.

Which devices an organization's callers may use is decided by its rows in the list of the
organizations' devices. Such a caller may write these rows: an assignment names any device,
and a change of ID moves the rows of one device to another ID, which may be one that the
list has for another organization. A device that another organization has, and this one has
not, is kept from it exactly in the runs in which the assignments and the changes of ID
leave such devices alone, and no caller takes one away as the namesake of its own
organization's user.

A row is kept by its key, the organization and the device; the other columns decide nothing
here. The handlers that only look at the device, or write other tables about it, are one
label.
-/

import SovaDesk.Api.OrgUsers
import SovaDesk.Db.Peers
import SovaDesk.Lib.System

namespace SovaDesk.Api

open Auth Db Transition

/-! ### The list of devices -/

/-- `AssignDeviceToOrg`: the row is replaced, or added. -/
def assignDeviceToOrg (rows : List (String × String)) (orgID deviceID : String) :
    List (String × String) :=
  rows.filter (· ≠ (orgID, deviceID)) ++ [(orgID, deviceID)]

def unassignDeviceFromOrg (rows : List (String × String)) (orgID deviceID : String) :
    List (String × String) :=
  rows.filter (· ≠ (orgID, deviceID))

/-- A row as the guards read it. -/
def deviceRow (row : String × String) : OrgDevice where
  orgID := row.1
  deviceID := row.2
  assignedUserID := ""
  department := ""
  location := ""
  building := ""
  tags := ""

/-- The accounts with the list of devices. -/
def withDevices (accounts : Store) (rows : List (String × String)) : Store :=
  { accounts with
    orgDevices := rows.foldl (fun table row => AList.insert row (deviceRow row) table) ∅ }

/-- What `GetDeviceOrgID` may answer: it takes any one row, and the empty text without one. -/
def GivesOrgID (rows : List (String × String)) (deviceID orgID : String) : Prop :=
  (orgID, deviceID) ∈ rows ∨ orgID = "" ∧ ∀ row ∈ rows, row.2 ≠ deviceID

/-! ### The handlers -/

def handleAssignOrgDevice (orgID : String) (body : Option String)
    (rows : List (String × String)) : Except (Nat × String) Unit × List (String × String) :=
  match body with
  | none => (.error (400, "invalid JSON"), rows)
  | some deviceID =>
    if deviceID = "" then (.error (400, "device_id is required"), rows)
    else (.ok (), assignDeviceToOrg rows orgID deviceID)

def handleUnassignOrgDevice (orgID deviceID : String) (rows : List (String × String)) :
    Except (Nat × String) Unit × List (String × String) :=
  if deviceID = "" then (.error (400, "device_id required"), rows)
  else (.ok (), unassignDeviceFromOrg rows orgID deviceID)

/-- `peerIDRegexp`. -/
def isPeerID (id : String) : Bool :=
  6 ≤ id.toList.length && id.toList.length ≤ 16 &&
    id.toList.all fun c => c.isAlphanum || c == '_' || c == '-'

def deletedDeviceError : String :=
  "This ID belongs to a deleted device. " ++
    "Restore or permanently delete that device before reusing the ID."

/-- `handleChangePeerID`, over the tables. -/
def handleChangePeerID (faulty : Statement → Bool) (db : Database) (oldID : String)
    (body : Option String) : Except (Nat × String) Unit × Database :=
  match body with
  | none => (.error (400, "new_id is required"), db)
  | some newID =>
    if newID = "" then (.error (400, "new_id is required"), db)
    else if !isPeerID newID then
      (.error (400, "Invalid peer ID format. Must be 6-16 alphanumeric characters, hyphens, " ++
        "or underscores."), db)
    else
      match db.peers.lookup newID with
      | some { softDeleted := some true, .. } => (.error (409, deletedDeviceError), db)
      | some { softDeleted := some false, .. } => (.error (409, "Device ID already exists"), db)
      | some { softDeleted := none, .. } => (.error (500, "Internal server error"), db)
      | none =>
        match changePeerID faulty db oldID newID "panel" with
        | (.ok (), after) => (.ok (), after)
        | (.error .peerIDExists, after) => (.error (409, "Device ID already exists"), after)
        | (.error .peerIDSoftDeleted, after) => (.error (409, deletedDeviceError), after)
        | (.error .peerNotFound, after) => (.error (404, "peer not found"), after)
        | (.error (.database _), after) =>
          (.error (409, "Failed to change peer ID (ID conflict or not found)"), after)

/-! ### Requests of one organization -/

/-- A caller without a server role, whose login is to an organization. -/
structure ScopedCaller (orgID : String) where
  username : String
  role : String
  unprivileged : isServerAdmin ⟨username, role, orgID⟩ = false
  present : orgID ≠ ""

def ScopedCaller.context {orgID : String} (caller : ScopedCaller orgID) : Context :=
  ⟨caller.username, caller.role, orgID⟩

/-- The requests: an assignment or its end on the route of an organization, a change of an ID, and
any other handler behind the guard of a device, with the tables it leaves. -/
inductive DeviceRequest (orgID : String)
  | assign (caller : ScopedCaller orgID) (route : String) (body : Option String)
  | unassign (caller : ScopedCaller orgID) (route deviceID : String)
  | changeID (caller : ScopedCaller orgID) (oldID : String) (body : Option String)
      (faulty : Statement → Bool)
  | other (caller : ScopedCaller orgID) (deviceID : String) (after : Database)

/-- The guards of the routes that write the devices of an organization. -/
def admitsRoute (accounts : Store) (context : Context) (route : String) : Bool :=
  requirePermission accounts "org.manage_devices" context = .admitted ∧
    requireOrgMembership accounts route context = .admitted

/-- The guard of a single device, under the list of devices at hand. -/
def admitsDevice (accounts : Store) (db : Database) (context : Context) (deviceID : String) :
    Bool :=
  peerOrgScopeCheck (withDevices accounts db.billing.orgDevices) deviceID context = .admitted

/-- The tables with another list of devices. -/
def setDevices (db : Database) (rows : List (String × String)) : Database :=
  { db with billing := { db.billing with orgDevices := rows } }

/-- A request that a guard refuses changes nothing. -/
def serveDevices (accounts : Store) {orgID : String} (db : Database) :
    DeviceRequest orgID → Option Database
  | .assign caller route body =>
    some (if admitsRoute accounts caller.context route then
      setDevices db (handleAssignOrgDevice route body db.billing.orgDevices).2 else db)
  | .unassign caller route deviceID =>
    some (if admitsRoute accounts caller.context route then
      setDevices db (handleUnassignOrgDevice route deviceID db.billing.orgDevices).2 else db)
  | .changeID caller oldID body faulty =>
    some (if requirePermission accounts "device.change_id" caller.context = .admitted ∧
        admitsDevice accounts db caller.context oldID then
      (handleChangePeerID faulty db oldID body).2 else db)
  | .other caller deviceID after =>
    if admitsDevice accounts db caller.context deviceID then
      some (setDevices after db.billing.orgDevices)
    else some db

/-- Runs of requests by one organization's callers. -/
def deviceRequests (accounts : Store) (orgID : String) (initial : Database) :
    System Database (DeviceRequest orgID) where
  start db := db = initial
  step := serveDevices accounts

/-! ### The property -/

/-- Another organization has the device, and this one has not. -/
def Foreign (orgID : String) (db : Database) (deviceID : String) : Prop :=
  (orgID, deviceID) ∉ db.billing.orgDevices ∧ ∃ row ∈ db.billing.orgDevices, row.2 = deviceID

instance (orgID : String) (db : Database) (deviceID : String) :
    Decidable (Foreign orgID db deviceID) :=
  inferInstanceAs (Decidable (_ ∧ _))

/-- Of the devices that were foreign at first the guard still admits none, and their organization
is what it was. -/
def KeptApart (accounts : Store) (orgID : String) (initial after : Database) : Prop :=
  ∀ deviceID, Foreign orgID initial deviceID →
    (∀ caller : ScopedCaller orgID, admitsDevice accounts after caller.context deviceID = false) ∧
      ∀ answer, GivesOrgID after.billing.orgDevices deviceID answer ↔
        GivesOrgID initial.billing.orgDevices deviceID answer

/-- The condition on a request that passes its guard: an assignment of a foreign device is one that
the organization of the route has, the end of an assignment one that it has not, and a change of
ID to that of a foreign device fails. -/
def LeavesForeign (accounts : Store) (orgID : String) (initial before : Database) :
    DeviceRequest orgID → Prop
  | .assign caller route body => ∀ deviceID ∈ body, Foreign orgID initial deviceID →
      deviceID ≠ "" → admitsRoute accounts caller.context route = true →
        (route, deviceID) ∈ before.billing.orgDevices
  | .unassign caller route deviceID => Foreign orgID initial deviceID →
      deviceID ≠ "" → admitsRoute accounts caller.context route = true →
        (route, deviceID) ∉ before.billing.orgDevices
  | .changeID caller oldID body faulty => ∀ newID ∈ body, Foreign orgID initial newID →
      isPeerID newID = true →
      requirePermission accounts "device.change_id" caller.context = .admitted →
      admitsDevice accounts before caller.context oldID = true →
        (changePeerID faulty before oldID newID "panel").1 ≠ .ok ()
  | .other _ _ _ => True

/-! ### Rows -/

section rows

variable {accounts : Store} {rows : List (String × String)} {orgID deviceID : String}

theorem mem_assignDeviceToOrg {row : String × String} :
    row ∈ assignDeviceToOrg rows orgID deviceID ↔ row ∈ rows ∨ row = (orgID, deviceID) := by
  rw [assignDeviceToOrg, List.mem_append, List.mem_filter, List.mem_singleton]
  by_cases same : row = (orgID, deviceID)
  · simp [same]
  · simp [same]

theorem mem_unassignDeviceFromOrg {row : String × String} :
    row ∈ unassignDeviceFromOrg rows orgID deviceID ↔ row ∈ rows ∧ row ≠ (orgID, deviceID) := by
  rw [unassignDeviceFromOrg, List.mem_filter, decide_eq_true_eq]

/-- The guards find a row exactly if the list has it. -/
theorem isSome_getOrgDevice (accounts : Store) :
    ((withDevices accounts rows).getOrgDevice orgID deviceID).isSome = true ↔
      (orgID, deviceID) ∈ rows := by
  have filled : ∀ (listed : List (String × String)) (table : Table (String × String) OrgDevice),
      ((listed.foldl (fun table row => AList.insert row (deviceRow row) table) table).lookup
        (orgID, deviceID)).isSome = true ↔
          (orgID, deviceID) ∈ listed ∨ (table.lookup (orgID, deviceID)).isSome = true := by
    intro listed
    induction listed with
    | nil => simp
    | cons row rest inductionHypothesis =>
      intro table
      rw [List.foldl_cons, inductionHypothesis, Table.lookup_insert_if, List.mem_cons]
      by_cases same : (orgID, deviceID) = row
      · simp [same]
      · simp [same]
  exact (filled rows ∅).trans (by simp)

theorem admitsDevice_iff {db : Database} (caller : ScopedCaller orgID) :
    admitsDevice accounts db caller.context deviceID = true ↔
      (orgID, deviceID) ∈ db.billing.orgDevices := by
  have unprivileged : (isSuperAdminRole caller.context.role ||
      caller.context.role == roleGlobalAdmin) = false := caller.unprivileged
  have present : caller.context.orgID ≠ "" := caller.present
  rw [← isSome_getOrgDevice accounts, Option.isSome_iff_ne_none, admitsDevice, decide_eq_true_eq,
    peerOrgScopeCheck, unprivileged, if_neg Bool.false_ne_true, if_neg present]
  exact ite_eq_left_iff.trans (by simp [ScopedCaller.context])

/-- The route of an organization without an id admits nobody but the server's admins. -/
theorem ne_empty_of_admitsRoute {route : String} (caller : ScopedCaller orgID)
    (admitted : admitsRoute accounts caller.context route = true) : route ≠ "" := by
  have unprivileged : (isSuperAdminRole caller.context.role ||
      caller.context.role == roleGlobalAdmin) = false := caller.unprivileged
  rintro rfl
  have member := (of_decide_eq_true admitted).2
  rw [requireOrgMembership, unprivileged, if_neg Bool.false_ne_true, if_pos rfl] at member
  cases member

theorem givesOrgID_congr {other : List (String × String)}
    (same : ∀ orgID, (orgID, deviceID) ∈ rows ↔ (orgID, deviceID) ∈ other) (answer : String) :
    GivesOrgID rows deviceID answer ↔ GivesOrgID other deviceID answer := by
  have none_listed : (∀ row ∈ rows, row.2 ≠ deviceID) ↔ ∀ row ∈ other, row.2 ≠ deviceID := by
    constructor
    · rintro unlisted ⟨org, device⟩ member rfl
      exact unlisted (org, device) ((same org).mpr member) rfl
    · rintro unlisted ⟨org, device⟩ member rfl
      exact unlisted (org, device) ((same org).mp member) rfl
  rw [GivesOrgID, GivesOrgID, same, none_listed]

end rows

/-! ### The change of an ID -/

section changeID

variable {faulty : Statement → Bool} {db : Database} {oldID newID : String}

/-- The tables after the handler are those after the change, for an ID of the right form. -/
theorem handleChangePeerID_snd :
    (handleChangePeerID faulty db oldID (some newID)).2 =
      if isPeerID newID then (changePeerID faulty db oldID newID "panel").2 else db := by
  unfold handleChangePeerID
  by_cases formed : isPeerID newID = true
  · have named : newID ≠ "" := by
      rintro rfl
      exact absurd formed (by decide)
    rw [if_pos formed]
    simp only [named, formed, Bool.not_true, Bool.false_eq_true, if_false]
    cases state : db.peers.lookup newID with
    | none =>
      dsimp only
      rcases outcome : changePeerID faulty db oldID newID "panel" with ⟨_ | _, after⟩
      · next error => cases error <;> rfl
      · rfl
    | some row =>
      have failed : (changePeerID faulty db oldID newID "panel").2 = db := by
        cases outcome : (changePeerID faulty db oldID newID "panel").1 with
        | error error => exact changePeerID_error outcome
        | ok done =>
          obtain ⟨_, _, free, _⟩ := changePeerID_ok outcome
          exact absurd (state.symm.trans free) (Option.some_ne_none row)
      rw [failed]
      split
      · rfl
      · rfl
      · rfl
      · next absent => cases absent
  · have unformed := Bool.eq_false_iff.mpr formed
    by_cases named : newID = ""
    · simp [named, isPeerID]
    · simp [named, unformed]

/-- A change moves the rows of one device. -/
theorem mem_orgDevices_renamed {row : Peer} {reason : String} {entry : String × String}
    (notOld : entry.2 ≠ oldID) (notNew : entry.2 ≠ newID) :
    entry ∈ (db.renamed row oldID newID reason).billing.orgDevices ↔
      entry ∈ db.billing.orgDevices := by
  have listed : entry ∈ (db.renamed row oldID newID reason).billing.orgDevices ↔
      ∃ old ∈ db.billing.orgDevices, (old.1, moved oldID newID old.2) = entry := List.mem_map
  rw [listed]
  constructor
  · rintro ⟨old, member, rfl⟩
    by_cases same : old.2 = oldID
    · exact absurd (if_pos same) notNew
    · rwa [moved, if_neg same]
  · intro member
    exact ⟨entry, member, by rw [moved, if_neg notOld]⟩

end changeID

/-! ### Runs -/

section runs

variable {accounts : Store} {orgID : String} {initial before after : Database}

/-- The foreign devices have the rows they had. -/
def SameRows (orgID : String) (initial before : Database) : Prop :=
  ∀ deviceID, Foreign orgID initial deviceID → ∀ holder,
    (holder, deviceID) ∈ before.billing.orgDevices ↔ (holder, deviceID) ∈ initial.billing.orgDevices

theorem SameRows.keptApart (same : SameRows orgID initial before) :
    KeptApart accounts orgID initial before := fun deviceID isForeign =>
  ⟨fun caller => Bool.eq_false_iff.mpr fun admitted =>
      isForeign.1 ((same deviceID isForeign orgID).mp ((admitsDevice_iff caller).mp admitted)),
    givesOrgID_congr (same deviceID isForeign)⟩

/-- A foreign device that is kept apart has no row of an organization that had none. -/
theorem KeptApart.mem_iff (kept : KeptApart accounts orgID initial after) {deviceID holder : String}
    (isForeign : Foreign orgID initial deviceID) (named : holder ≠ "") :
    (holder, deviceID) ∈ after.billing.orgDevices ↔
      (holder, deviceID) ∈ initial.billing.orgDevices := by
  have answers := (kept deviceID isForeign).2 holder
  rw [GivesOrgID, GivesOrgID] at answers
  simpa [named] using answers

section

variable (same : SameRows orgID initial before)

include same

/-- What an assignment, or its end, keeps of the foreign devices depends on the one it names. -/
theorem SameRows.set {rows : List (String × String)} (route deviceID : String)
    (others : ∀ row, row ≠ (route, deviceID) → (row ∈ rows ↔ row ∈ before.billing.orgDevices))
    (named : Foreign orgID initial deviceID →
      ((route, deviceID) ∈ rows ↔ (route, deviceID) ∈ before.billing.orgDevices)) :
    SameRows orgID initial (setDevices before rows) := by
  intro other isForeign holder
  refine Iff.trans ?_ (same other isForeign holder)
  by_cases this : (holder, other) = (route, deviceID)
  · cases this
    exact named isForeign
  · exact others _ this

theorem sameRows_assign {route : String} {body : Option String}
    (leaves : ∀ deviceID ∈ body, Foreign orgID initial deviceID → deviceID ≠ "" →
      (route, deviceID) ∈ before.billing.orgDevices) :
    SameRows orgID initial
      (setDevices before (handleAssignOrgDevice route body before.billing.orgDevices).2) := by
  unfold handleAssignOrgDevice
  cases body with
  | none => exact same
  | some deviceID =>
    dsimp only
    split
    · exact same
    · next named =>
      refine same.set route deviceID (fun row other => ?_) fun isForeign => ?_
      · rw [mem_assignDeviceToOrg, or_iff_left other]
      · exact iff_of_true (mem_assignDeviceToOrg.mpr (.inr rfl))
          (leaves deviceID rfl isForeign named)

theorem sameRows_unassign {route deviceID : String}
    (leaves : Foreign orgID initial deviceID → deviceID ≠ "" →
      (route, deviceID) ∉ before.billing.orgDevices) :
    SameRows orgID initial
      (setDevices before (handleUnassignOrgDevice route deviceID before.billing.orgDevices).2) := by
  unfold handleUnassignOrgDevice
  split
  · exact same
  · next named =>
    refine same.set route deviceID (fun row other => ?_) fun isForeign => ?_
    · rw [mem_unassignDeviceFromOrg, and_iff_left other]
    · exact iff_of_false (fun listed => (mem_unassignDeviceFromOrg.mp listed).2 rfl)
        (leaves isForeign named)

/-- A change of the ID of a device that the organization has, to that of no foreign device. -/
theorem sameRows_changeID {oldID : String} {body : Option String} {faulty : Statement → Bool}
    (has : (orgID, oldID) ∈ before.billing.orgDevices)
    (leaves : ∀ newID ∈ body, Foreign orgID initial newID → isPeerID newID = true →
      (changePeerID faulty before oldID newID "panel").1 ≠ .ok ()) :
    SameRows orgID initial (handleChangePeerID faulty before oldID body).2 := by
  cases body with
  | none => exact same
  | some newID =>
    rw [handleChangePeerID_snd]
    split
    · next formed =>
      cases outcome : (changePeerID faulty before oldID newID "panel").1 with
      | error error =>
        rw [changePeerID_error outcome]
        exact same
      | ok done =>
        obtain ⟨row, _, _, renamed⟩ := changePeerID_ok outcome
        rw [renamed]
        intro deviceID isForeign holder
        have notOld : deviceID ≠ oldID := by
          rintro rfl
          exact isForeign.1 ((same deviceID isForeign orgID).mp has)
        have notNew : deviceID ≠ newID := by
          rintro rfl
          exact leaves deviceID rfl isForeign formed outcome
        exact (mem_orgDevices_renamed notOld notNew).trans (same deviceID isForeign holder)
    · exact same

theorem sameRows_serve {request : DeviceRequest orgID}
    (leaves : LeavesForeign accounts orgID initial before request)
    (served : serveDevices accounts before request = some after) :
    SameRows orgID initial after := by
  cases request with
  | assign caller route body =>
    cases served
    split
    · next admitted =>
      exact sameRows_assign same fun deviceID given isForeign named =>
        leaves deviceID given isForeign named admitted
    · exact same
  | unassign caller route deviceID =>
    cases served
    split
    · next admitted =>
      exact sameRows_unassign same fun isForeign named => leaves isForeign named admitted
    · exact same
  | changeID caller oldID body faulty =>
    cases served
    split
    · next admitted =>
      exact sameRows_changeID same ((admitsDevice_iff caller).mp admitted.2)
        fun newID given isForeign formed =>
          leaves newID given isForeign formed admitted.1 admitted.2
    · exact same
  | other caller deviceID written =>
    dsimp only [serveDevices] at served
    split at served
    · cases served
      exact same
    · cases served
      exact same

theorem leavesForeign_of_keptApart
    {request : DeviceRequest orgID} (served : serveDevices accounts before request = some after)
    (kept : KeptApart accounts orgID initial after) :
    LeavesForeign accounts orgID initial before request := by
  cases request with
  | assign caller route body =>
    cases served
    intro deviceID given isForeign named admitted
    rw [if_pos admitted] at kept
    refine (same deviceID isForeign route).mpr
      ((kept.mem_iff isForeign (ne_empty_of_admitsRoute caller admitted)).mp ?_)
    cases given
    rw [handleAssignOrgDevice, if_neg named]
    exact mem_assignDeviceToOrg.mpr (.inr rfl)
  | unassign caller route deviceID =>
    cases served
    intro isForeign named admitted listed
    rw [if_pos admitted] at kept
    have still := (kept.mem_iff isForeign (ne_empty_of_admitsRoute caller admitted)).mpr
      ((same deviceID isForeign route).mp listed)
    rw [handleUnassignOrgDevice, if_neg named] at still
    exact (mem_unassignDeviceFromOrg.mp still).2 rfl
  | changeID caller oldID body faulty =>
    cases served
    intro newID given isForeign formed permitted admitted outcome
    rw [if_pos ⟨permitted, admitted⟩] at kept
    cases given
    obtain ⟨row, _, _, renamed⟩ := changePeerID_ok outcome
    rw [handleChangePeerID_snd, if_pos formed, renamed] at kept
    have refused := (kept newID isForeign).1 caller
    refine absurd ((admitsDevice_iff caller).mpr ?_) (Bool.eq_false_iff.mp refused)
    exact List.mem_map.mpr ⟨(orgID, oldID), (admitsDevice_iff caller).mp admitted, by
      rw [moved, if_pos rfl]⟩
  | other caller deviceID written => trivial

end

theorem sameRows_of_reachableWhen
    (reached : ReachableWhen (deviceRequests accounts orgID initial)
      (LeavesForeign accounts orgID initial) before) : SameRows orgID initial before := by
  refine reached.invariant (SameRows orgID initial) (fun db start => ?_)
    fun before request after same leaves served => sameRows_serve same leaves served
  cases start
  exact fun _ _ _ => Iff.rfl

/-- The devices of other organizations are kept apart exactly in the runs whose requests leave them
alone. -/
theorem keptApart_iff_leavesForeign (accounts : Store) (orgID : String) (initial : Database)
    {steps : List (Taken Database (DeviceRequest orgID))} {final : Database}
    (history : History (deviceRequests accounts orgID initial) steps final) :
    (∀ step ∈ steps, KeptApart accounts orgID initial step.after) ↔
      ∀ step ∈ steps, LeavesForeign accounts orgID initial step.before step.label := by
  have agree : ∀ step : Taken Database (DeviceRequest orgID),
      ReachableWhen (deviceRequests accounts orgID initial)
        (LeavesForeign accounts orgID initial) step.before →
      (deviceRequests accounts orgID initial).step step.before step.label = some step.after →
      (KeptApart accounts orgID initial step.after ↔
        LeavesForeign accounts orgID initial step.before step.label) := by
    intro step reached served
    have same := sameRows_of_reachableWhen reached
    exact ⟨leavesForeign_of_keptApart same served,
      fun leaves => (sameRows_serve same leaves served).keptApart⟩
  exact history.forall_iff_when agree

end runs

/-! ### A device of another organization -/

/-- Accounts without overrides. -/
def plainAccounts : Store where
  organizations := ∅
  orgUsers := ∅
  orgDevices := ∅
  rolePermissions := ∅

/-- Tables in which one organization has one device. -/
def globexDevice : Database where
  peers := ∅
  deviceTokens := ∅
  billing :=
    { kind := .sqlite, packages := ∅, contracts := ∅, sessions := ∅, ledger := []
      orgDevices := [("globex", "DEVICE-1")], panel := none }
  strategyAssignments := ∅
  accessPolicies := ∅
  idChangeHistory := []

/-- An operator of another organization. -/
def acmeOperator : ScopedCaller "acme" where
  username := "eve"
  role := "operator"
  unprivileged := by decide
  present := by decide

/-- The operator assigns the device to its own organization, and is admitted to it. -/
theorem assigned_notKeptApart :
    ¬ ∀ final, Reachable (deviceRequests plainAccounts "acme" globexDevice) final →
      KeptApart plainAccounts "acme" globexDevice final := by
  intro claimed
  have ran : ((deviceRequests plainAccounts "acme" globexDevice).run globexDevice
      [.assign acmeOperator "acme" (some "DEVICE-1")]).any (fun final =>
        admitsDevice plainAccounts final acmeOperator.context "DEVICE-1") = true := by
    decide
  obtain ⟨final, reached, admitted⟩ := exists_reachable_of_run rfl ran
  have refused := (claimed final reached "DEVICE-1" (by decide)).1 acmeOperator
  exact absurd admitted (Bool.eq_false_iff.mp refused)

/-- The operator assigns a device that nobody has, and gives it up again. -/
theorem keptApart_ownDevice :
    ∃ steps final, History (deviceRequests plainAccounts "acme" globexDevice) steps final ∧
      steps.length = 2 ∧
        ∀ step ∈ steps, KeptApart plainAccounts "acme" globexDevice step.after := by
  have assigned : (deviceRequests plainAccounts "acme" globexDevice).step globexDevice
      (.assign acmeOperator "acme" (some "DEVICE-2")) =
        some (setDevices globexDevice [("globex", "DEVICE-1"), ("acme", "DEVICE-2")]) := rfl
  have unassigned : (deviceRequests plainAccounts "acme" globexDevice).step
      (setDevices globexDevice [("globex", "DEVICE-1"), ("acme", "DEVICE-2")])
      (.unassign acmeOperator "acme" "DEVICE-2") = some globexDevice := rfl
  have history := (History.start rfl).step assigned |>.step unassigned
  have own : ¬ Foreign "acme" globexDevice "DEVICE-2" := by decide
  refine ⟨_, _, history, rfl,
    (keptApart_iff_leavesForeign plainAccounts "acme" globexDevice history).mpr ?_⟩
  simp only [List.forall_mem_cons, List.not_mem_nil, false_imp_iff, implies_true, and_true]
  refine ⟨fun isForeign => absurd isForeign own, fun deviceID given isForeign => ?_⟩
  cases given
  exact absurd isForeign own

end SovaDesk.Api
