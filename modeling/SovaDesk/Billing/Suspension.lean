/-
This file settles whether a suspension or a validity window is honoured at the most specific
level of a device.

A device is a target itself, and so are its folder, its groups and its organization, in this
order of precedence. The resolution takes the first of them with an active contract and never
sees one of another status, so a contract that is suspended is passed over, and no window is
looked at. A contract that should refuse the connection is honoured only where the billing
clock refuses it.
-/

import SovaDesk.Billing.Service

namespace SovaDesk.Billing

/-! ### Precedence -/

/-- What a device is billed under, the most specific first, as pairs of a type and a key. -/
def targetsOf (db : BillingDB) (deviceID : String) : List (String × String) :=
  if deviceID = "" then []
  else
    let folder := (db.panel.bind fun panel => panel.folderAssignments.lookup deviceID).filter
      fun folderID => 0 < folderID
    let groups := (db.panel.map fun panel => panel.deviceGroups deviceID).getD []
    let org := db.getDeviceOrgID deviceID
    (targetDevice, deviceID) ::
      folder.toList.map (fun folderID => (targetFolder, toString folderID)) ++
      (groups.filter (· ≠ "")).map (fun guid => (targetDeviceGroup, guid)) ++
      if org = "" then [] else [(targetOrg, org)]

/-- The contract of a target, whatever its status. -/
def contractOf (db : BillingDB) (target : String × String) : Option BillingContract :=
  (db.contracts.entries.map (·.2)).find? fun contract =>
    contract.targetType == target.1 && contract.targetKey == target.2

/-- The most specific contract that exists for a device. -/
def mostSpecific (db : BillingDB) (deviceID : String) : Option BillingContract :=
  (targetsOf db deviceID).findSome? (contractOf db)

/-- A target has at most one contract. -/
def OnePerTarget (db : BillingDB) : Prop :=
  ∀ id other contract another, db.contracts.lookup id = some contract →
    db.contracts.lookup other = some another → contract.targetType = another.targetType →
    contract.targetKey = another.targetKey → contract = another

/-- A moment lies in the validity window of a contract. -/
def BillingContract.ValidAt (contract : BillingContract) (now : Int) : Prop :=
  (∀ start ∈ contract.validFrom, start ≤ now) ∧ ∀ limit ∈ contract.validUntil, now ≤ limit

/-- A contract under which no connection may be made. -/
def BillingContract.Refuses (contract : BillingContract) (now : Int) : Prop :=
  contract.status = contractSuspended ∨ ¬ contract.ValidAt now

/-- The most specific contract refuses the connection, or is the one that a relay is charged to. -/
structure Honoured (db : BillingDB) (synced : Bool) (now : Int) (deviceID : String) : Prop where
  refuses : ∀ contract, mostSpecific db deviceID = some contract → contract.Refuses now →
    (checkConnection db synced deviceID).allowed = false
  charges : ∀ contract, mostSpecific db deviceID = some contract →
    contract.status = contractActive → contract.ValidAt now →
    ∀ relayUUID operatorID pending recorded, relayUUID ≠ "" →
      prepareRelay db synced now relayUUID deviceID operatorID pending = .ok recorded →
      ∃ entry, recorded.lookup relayUUID = some entry ∧ entry.contractID = contract.id

/-! ### The resolution -/

section resolution

variable {db : BillingDB} {deviceID : String} {synced : Bool}

theorem findSome_filter_toList {Value Other : Type} (found : Option Value)
    (keep : Value → Bool) (f : Value → Option Other) :
    (found.filter keep).toList.findSome? f =
      found.bind fun value => if keep value then f value else none := by
  cases found with
  | none => rfl
  | some value =>
    cases kept : keep value with
    | true => simp [Option.filter, kept]
    | false => simp [Option.filter, kept]

theorem findSome_filter {Value Other : Type} (values : List Value) (keep : Value → Bool)
    (f : Value → Option Other) :
    (values.filter keep).findSome? f =
      values.findSome? fun value => if keep value then f value else none := by
  induction values with
  | nil => rfl
  | cons value rest inductionHypothesis =>
    cases kept : keep value with
    | true => rw [List.filter_cons_of_pos kept, List.findSome?_cons, List.findSome?_cons,
        inductionHypothesis, kept, if_pos rfl]
    | false =>
      rw [List.filter_cons_of_neg (Bool.eq_false_iff.mp kept), List.findSome?_cons,
        inductionHypothesis, kept]
      rfl

/-- The resolution takes the first target with an active contract. -/
theorem resolve_eq_findSome (db : BillingDB) (deviceID : String) :
    resolveContractForDevice db deviceID =
      (targetsOf db deviceID).findSome? fun target =>
        db.getActiveBillingContract target.1 target.2 := by
  unfold resolveContractForDevice targetsOf
  split
  · rfl
  · dsimp only
    rw [List.cons_append, List.cons_append, List.findSome?_cons, List.findSome?_append,
      List.findSome?_append, List.findSome?_map, List.findSome?_map, findSome_filter_toList,
      findSome_filter]
    have folder : folderContract db deviceID =
        (db.panel.bind fun panel => panel.folderAssignments.lookup deviceID).bind fun folderID =>
          if decide (0 < folderID) then
            db.getActiveBillingContract targetFolder (toString folderID)
          else none := by
      simp only [folderContract, decide_eq_true_eq]
    have groups : groupContract db deviceID =
        ((db.panel.map fun panel => panel.deviceGroups deviceID).getD []).findSome? fun guid =>
          if decide (guid ≠ "") then db.getActiveBillingContract targetDeviceGroup guid
          else none := by
      unfold groupContract
      cases db.panel with
      | none => rfl
      | some panel => simp only [Option.bind_some, Option.map_some, Option.getD_some,
          decide_eq_true_eq, ne_eq, ite_not]
    have org : orgContract db deviceID =
        (if db.getDeviceOrgID deviceID = "" then []
          else [(targetOrg, db.getDeviceOrgID deviceID)]).findSome? fun target =>
            db.getActiveBillingContract target.1 target.2 := by
      unfold orgContract
      split
      · rfl
      · rw [List.findSome?_singleton]
    rw [folder, groups, org]
    cases db.getActiveBillingContract targetDevice deviceID with
    | some contract => rfl
    | none => exact Option.none_or.trans Option.or_assoc.symm

variable {contract : BillingContract}

theorem mem_of_contractOf {target : String × String}
    (found : contractOf db target = some contract) :
    (∃ id, db.contracts.lookup id = some contract) ∧
      contract.targetType = target.1 ∧ contract.targetKey = target.2 := by
  obtain ⟨entry, member, rfl⟩ := List.mem_map.mp (List.mem_of_find?_eq_some found)
  have passed := List.find?_some found
  simp only [Bool.and_eq_true, beq_iff_eq] at passed
  exact ⟨⟨entry.1, Table.mem_entries_iff.mp member⟩, passed⟩

/-- Where a target has at most one contract, its active contract is its contract, if that is
active. -/
theorem getActive_eq_some_iff (one : OnePerTarget db) {target : String × String}
    :
    db.getActiveBillingContract target.1 target.2 = some contract ↔
      contractOf db target = some contract ∧ contract.status = contractActive := by
  constructor
  · intro found
    obtain ⟨⟨id, stored⟩, active⟩ := getActiveBillingContract_mem found
    obtain ⟨sameType, sameKey⟩ := getActiveBillingContract_target found
    have listed : contract ∈ db.contracts.entries.map (·.2) :=
      List.mem_map.mpr ⟨_, Table.mem_entries_iff.mpr stored, rfl⟩
    obtain ⟨other, isContract⟩ := Option.isSome_iff_exists.mp (List.find?_isSome.mpr
      ⟨contract, listed, by simp [sameType, sameKey]⟩ : (contractOf db target).isSome)
    obtain ⟨⟨otherID, otherStored⟩, otherType, otherKey⟩ := mem_of_contractOf isContract
    have same := one id otherID contract other stored otherStored (sameType.trans otherType.symm)
      (sameKey.trans otherKey.symm)
    exact ⟨same ▸ isContract, active⟩
  · rintro ⟨isContract, active⟩
    obtain ⟨⟨id, stored⟩, sameType, sameKey⟩ := mem_of_contractOf isContract
    have listed : contract ∈ db.contracts.entries.map (·.2) :=
      List.mem_map.mpr ⟨_, Table.mem_entries_iff.mpr stored, rfl⟩
    obtain ⟨other, found⟩ := Option.isSome_iff_exists.mp (List.find?_isSome.mpr
      ⟨contract, listed, by simp [sameType, sameKey, active]⟩ :
        (db.getActiveBillingContract target.1 target.2).isSome)
    obtain ⟨⟨otherID, otherStored⟩, _⟩ := getActiveBillingContract_mem found
    obtain ⟨otherType, otherKey⟩ := getActiveBillingContract_target found
    have same := one id otherID contract other stored otherStored (sameType.trans otherType.symm)
      (sameKey.trans otherKey.symm)
    exact same ▸ found

/-- A most specific contract that is active is the one the resolution finds. -/
theorem resolve_of_active (one : OnePerTarget db)
    (isMost : mostSpecific db deviceID = some contract)
    (active : contract.status = contractActive) :
    resolveContractForDevice db deviceID = some contract := by
  obtain ⟨before, target, after, split, found, none⟩ := List.findSome?_eq_some_iff.mp isMost
  rw [resolve_eq_findSome, split]
  refine List.findSome?_eq_some_iff.mpr
    ⟨before, target, after, rfl, (getActive_eq_some_iff one).mpr ⟨found, active⟩, ?_⟩
  intro other member
  rw [Option.eq_none_iff_forall_ne_some]
  intro another isActive
  exact nomatch (none other member).symm.trans ((getActive_eq_some_iff one).mp isActive).1

/-- A connection is refused where an active contract applies and the clock is not synchronized. -/
theorem allowed_eq_false_iff :
    (checkConnection db synced deviceID).allowed = false ↔
      (resolveContractForDevice db deviceID).isSome ∧ synced = false := by
  unfold checkConnection
  cases resolved : resolveContractForDevice db deviceID with
  | none => simp
  | some contract =>
    have active := (resolveContractForDevice_mem resolved).2
    have unsuspended : contract.status ≠ contractSuspended := by
      rw [active]
      decide
    cases synced <;> simp [unsuspended]

end resolution

/-! ### The condition -/

/-- An active contract applies to a device, at whatever level. -/
def ActiveApplies (db : BillingDB) (deviceID : String) : Prop :=
  ∃ target ∈ targetsOf db deviceID, ∃ contract, contractOf db target = some contract ∧
    contract.status = contractActive

theorem resolve_isSome_iff {db : BillingDB} (one : OnePerTarget db) (deviceID : String) :
    (resolveContractForDevice db deviceID).isSome ↔ ActiveApplies db deviceID := by
  rw [resolve_eq_findSome, List.findSome?_isSome_iff]
  refine exists_congr fun target => and_congr_right fun _ => ?_
  rw [Option.isSome_iff_exists]
  exact exists_congr fun _ => getActive_eq_some_iff one

/-- The most specific level is honoured exactly where its contract does not refuse, or the clock is
not synchronized and an active contract applies at some level. -/
theorem honoured_iff {db : BillingDB} (one : OnePerTarget db) (synced : Bool) (now : Int)
    (deviceID : String) :
    Honoured db synced now deviceID ↔
      ∀ contract, mostSpecific db deviceID = some contract → contract.Refuses now →
        synced = false ∧ ActiveApplies db deviceID := by
  have refused : (checkConnection db synced deviceID).allowed = false ↔
      synced = false ∧ ActiveApplies db deviceID := by
    rw [allowed_eq_false_iff, resolve_isSome_iff one, and_comm]
  constructor
  · exact fun honoured contract isMost refuses =>
      refused.mp (honoured.refuses contract isMost refuses)
  · intro condition
    refine ⟨fun contract isMost refuses => refused.mpr (condition contract isMost refuses), ?_⟩
    intro contract isMost active valid relayUUID operatorID pending recorded named prepared
    have resolved := resolve_of_active one isMost active
    cases allowed : (checkConnection db synced deviceID).allowed with
    | false =>
      simp only [prepareRelay, if_neg named, allowed, Bool.not_false, if_true] at prepared
      exact absurd prepared nofun
    | true =>
      rw [prepareRelay_of_allowed named allowed, resolved] at prepared
      obtain rfl := Except.ok.inj prepared
      exact ⟨_, AList.lookup_insert pending, rfl⟩

/-! ### Two levels -/

/-- A contract of a target, on a package. -/
def contractFor (id targetType targetKey status : String) (validUntil : Option Int) :
    BillingContract where
  id := id
  targetType := targetType
  targetKey := targetKey
  packageID := "p1"
  status := status
  remainingMinutes := 60
  overageRate := none
  hourlyRate := 120
  currency := "PLN"
  validFrom := none
  validUntil := validUntil
  updatedAt := 0

/-- A device with a contract of its own, in an organization with an active contract. -/
def twoLevels (status : String) (validUntil : Option Int) : BillingDB where
  kind := .sqlite
  packages := ∅
  contracts := AList.insert "c2" (contractFor "c2" targetOrg "org-1" contractActive none)
    (AList.insert "c1" (contractFor "c1" targetDevice "dev" status validUntil) ∅)
  sessions := ∅
  ledger := []
  orgDevices := [("org-1", "dev")]
  panel := none

theorem onePerTarget_twoLevels (status : String) (validUntil : Option Int) :
    OnePerTarget (twoLevels status validUntil) := by
  have rows : ∀ id contract, (twoLevels status validUntil).contracts.lookup id = some contract →
      contract = contractFor "c2" targetOrg "org-1" contractActive none ∨
        contract = contractFor "c1" targetDevice "dev" status validUntil := by
    intro id contract found
    rcases Table.lookup_insert_iff.mp found with ⟨_, rfl⟩ | ⟨_, older⟩
    · exact .inl rfl
    · rcases Table.lookup_insert_iff.mp older with ⟨_, rfl⟩ | ⟨_, empty⟩
      · exact .inr rfl
      · exact absurd empty nofun
  have apart : targetOrg ≠ targetDevice := by decide
  intro id other contract another found foundOther sameType _
  rcases rows id contract found with rfl | rfl
  · rcases rows other another foundOther with rfl | rfl
    · rfl
    · exact absurd sameType apart
  · rcases rows other another foundOther with rfl | rfl
    · exact absurd sameType.symm apart
    · rfl

/-- A device whose own contract is suspended may be connected to, and so may one whose contract has
run out. -/
theorem suspension_passedOver :
    ¬ Honoured (twoLevels contractSuspended none) true 0 "dev" ∧
      ¬ Honoured (twoLevels contractActive (some 0)) true 1 "dev" := by
  refine ⟨fun honoured => ?_, fun honoured => ?_⟩
  · have refused := honoured.refuses
      (contractFor "c1" targetDevice "dev" contractSuspended none) (by decide) (.inl rfl)
    exact absurd refused (by decide)
  · have late : ¬ (contractFor "c1" targetDevice "dev" contractActive (some 0)).ValidAt 1 :=
      fun valid => absurd (valid.2 0 rfl) (by decide)
    have refused := honoured.refuses
      (contractFor "c1" targetDevice "dev" contractActive (some 0)) (by decide) (.inr late)
    exact absurd refused (by decide)

/-- A suspended device is refused while the clock is not synchronized and the organization has an
active contract. -/
theorem honoured_iff_unsynced : OnePerTarget (twoLevels contractSuspended none) ∧
    Honoured (twoLevels contractSuspended none) false 0 "dev" := by
  refine ⟨onePerTarget_twoLevels _ _,
    (honoured_iff (onePerTarget_twoLevels _ _) false 0 "dev").mpr ?_⟩
  intro _ _ _
  exact ⟨rfl, (targetOrg, "org-1"), by decide,
    contractFor "c2" targetOrg "org-1" contractActive none, by decide, rfl⟩

end SovaDesk.Billing
