/-
This file models the device scope of the console: the configuration that decides which devices a
user sees, and the functions that decide it.

A device group holds its members, or the devices with a tag; a group whose guid names a folder
holds the devices in that folder. A group with an access list restricts its devices to the users on
the list. What a user sees follows from the restricted groups, the devices granted to the user and
the default, which is read from the settings and kept for a while.
-/

import SovaDesk.Console.Text
import SovaDesk.Lib.Table

namespace SovaDesk.Console.Scope

/-! ### The configuration -/

/-- A guid is never empty: where a row is stored without one, a random one is drawn. -/
abbrev Guid := {text : String // text ≠ ""}

structure UserGroup where
  name : String
  note : String
  teamID : String
  deriving DecidableEq

/-- A device group with its members and, joined from the access tables, the users and the user
groups on its access list. -/
structure DeviceGroup where
  name : String
  note : String
  teamID : String
  sourceType : String
  tagFilter : String
  allowedUsers : List String
  allowedGroups : List String
  members : List String
  deriving DecidableEq

structure Folder where
  id : Int
  name : String
  color : String
  icon : String
  sortOrder : Int
  deriving DecidableEq

structure Strategy where
  name : String
  userGroupGuid : String
  deviceGroupGuid : String
  enabled : Bool
  deriving DecidableEq

/-- The console's tables, as far as the scope and the backup of the groups read them; those with a
guid are by their guids. -/
structure Configuration where
  settings : Table String String
  userGroups : Table Guid UserGroup
  memberships : Int → List String
  deviceGroups : Table Guid DeviceGroup
  folders : List Folder
  lastFolderID : Int
  folderAssignments : Table String Int
  strategies : Table Guid Strategy
  peerGrants : Int → List String

/-! ### Devices -/

/-- The tags of a device as they are stored. -/
inductive Tags
  | missing
  | array (items : List String)
  | text (value : String)
  deriving DecidableEq

structure Peer where
  id : String
  tags : Tags
  named : id ≠ ""

/-- A device as the scope sees it: with the folder it is assigned to. -/
structure Device where
  id : String
  tags : Tags
  folderID : Option Int
  named : id ≠ ""

/-- What the language brings along: the lower case of Unicode's tables, the elements, as texts, of
a text that `JSON.parse` reads as an array, and the number that a run of digits is read as, if it
is finite. -/
structure Language where
  toLowerCase : String → String
  parseArray : String → Option (List String)
  parseInt : String → Option Int

def Configuration.device (c : Configuration) (peer : Peer) : Device where
  id := peer.id
  tags := peer.tags
  folderID := c.folderAssignments.lookup peer.id
  named := peer.named

/-! ### Names -/

/-- The texts of a list, trimmed, without those that are empty. -/
def trimmed (items : List String) : List String := (items.map trim).filter (· ≠ "")

/-- `normalizeUsernames` and `normalizeGroupGuids`: each name once, and a hundred at most. -/
def normalizeNames (names : List String) : List String := (trimmed names).eraseDups.take 100

def normalizeUsernames (names : List String) : List String := normalizeNames names

def normalizeGroupGuids (guids : List String) : List String := normalizeNames guids

def normalizeTags (language : Language) : Tags → List String
  | .missing => []
  | .array items => trimmed items
  | .text value =>
    if value = "" then []
    else
      match language.parseArray value with
      | some items => trimmed items
      | none => trimmed ((value.toList.splitOn ',').map String.ofList)

def hasTag (language : Language) (tags : Tags) (tag : String) : Bool :=
  let expected := language.toLowerCase (trim tag)
  expected ≠ "" && (normalizeTags language tags).any fun t => language.toLowerCase t = expected

/-- The folder that a guid names: `folder_`, in any case, and a number. -/
def folderIDFromGroupGuid (language : Language) (guid : String) : Option Int :=
  let text := (trim guid).toList
  let digits := text.drop 7
  if (text.take 7).map Char.toLower = "folder_".toList ∧ digits ≠ [] ∧ digits.all Char.isDigit then
    language.parseInt (String.ofList digits)
  else none

/-! ### Users -/

/-- A user of a session, with the user groups it may come with. -/
structure User where
  id : Int
  username : String
  role : String
  userGroups : Option (List String)

/-- The roles that no group restricts. -/
def passesScope (role : String) : Bool :=
  ["super_admin", "admin", "global_admin", "server_admin"].contains role

/-- A user whom the scope may restrict. -/
def User.Limited (user : User) : Prop := user.id ≠ 0 ∧ passesScope user.role = false

/-- `getUserAccessContext`: the user groups of a user. -/
def getUserAccessContext (c : Configuration) (user : User) : List String :=
  user.userGroups.getD ((c.memberships user.id).filter (· ≠ ""))

def groupAllowedForUser (c : Configuration) (group : DeviceGroup) (user : User) : Bool :=
  let allowedUsers := normalizeUsernames group.allowedUsers
  let allowedGroups := normalizeGroupGuids group.allowedGroups
  passesScope user.role || (allowedUsers.isEmpty && allowedGroups.isEmpty) ||
    allowedUsers.contains user.username ||
    allowedGroups.any (normalizeGroupGuids (getUserAccessContext c user)).contains

/-! ### Groups -/

/-- A group without a source type is a manual one. -/
def DeviceGroup.source (group : DeviceGroup) : String :=
  if group.sourceType = "" then "manual" else group.sourceType

/-- The group has an access list. -/
def DeviceGroup.restricted (group : DeviceGroup) : Bool :=
  !(normalizeUsernames group.allowedUsers).isEmpty ||
    !(normalizeGroupGuids group.allowedGroups).isEmpty

/-- The devices of a group. -/
def getGroupPeerIds (language : Language) (guid : Guid) (group : DeviceGroup)
    (devices : List Device) : List String :=
  match folderIDFromGroupGuid language guid.val with
  | some folderID => (devices.filter (·.folderID = some folderID)).map (·.id)
  | none =>
    group.members ++
      if group.source = "tag" ∧ group.tagFilter ≠ "" then
        (devices.filter fun device => hasTag language device.tags group.tagFilter).map (·.id)
      else []

/-! ### The scope -/

/-- The first text, or the second where the first is empty. -/
def orElse (text fallback : String) : String :=
  if text = "" then fallback else text

/-- `deviceScopeDefault` of the configuration file, from the environment. -/
def deviceScopeDefault (language : Language) (env : String) : String :=
  language.toLowerCase (orElse env "open")

/-- The default of the environment. -/
def envRestricted (language : Language) (env : String) : Bool :=
  language.toLowerCase (orElse (deviceScopeDefault language env) "open") = "restricted"

/-- `isDeviceScopeRestrictedDefault`: the answer that is still kept, else the setting, else the one
of the environment. -/
def isDeviceScopeRestrictedDefault (language : Language) (c : Configuration)
    (envRestricted : Bool) (kept : Option Bool) : Bool :=
  kept.getD <|
    match truthy (c.settings.lookup "device_scope_default") with
    | some stored => language.toLowerCase stored = "restricted"
    | none => envRestricted

/-- The groups that restrict their devices. -/
def Configuration.restrictedGroups (c : Configuration) : List (Guid × DeviceGroup) :=
  (c.deviceGroups.entries.map fun entry => (entry.1, entry.2)).filter (·.2.restricted)

/-- The devices of the restricted groups that do, or do not, admit the user. -/
def groupIDs (language : Language) (c : Configuration) (user : User) (devices : List Device)
    (admits : Bool) : List String :=
  (c.restrictedGroups.filter fun entry => groupAllowedForUser c entry.2 user = admits).flatMap
    fun entry => getGroupPeerIds language entry.1 entry.2 devices

/-- `getDeviceScopeForUser`: the IDs that a user may see, none for all of them. -/
def getDeviceScopeForUser (language : Language) (c : Configuration) (restrictedDefault : Bool)
    (user : User) (devices : List Device) : Option (List String) :=
  if user.id = 0 ∨ passesScope user.role then none
  else
    let grants := c.peerGrants user.id
    if c.restrictedGroups.isEmpty && grants.isEmpty then
      if restrictedDefault then some [] else none
    else
      let allowed := groupIDs language c user devices true ++ grants
      let restricted := groupIDs language c user devices false
      if restrictedDefault then some allowed
      else
        some ((devices.map (·.id)).filter fun id =>
          id ≠ "" && (!restricted.contains id || allowed.contains id))

def filterDevicesByScope (devices : List Device) (scope : Option (List String)) : List Device :=
  match scope with
  | none => devices
  | some ids => devices.filter fun device => ids.contains device.id

/-- A device among those the server knows is shown to a user. -/
def Shown (language : Language) (c : Configuration) (restrictedDefault : Bool) (user : User)
    (peers : List Peer) (id : String) : Prop :=
  let devices := peers.map c.device
  ∃ device ∈ filterDevicesByScope devices
    (getDeviceScopeForUser language c restrictedDefault user devices), device.id = id

variable {id : String}

theorem exists_mem_filterDevicesByScope {devices : List Device} {scope : Option (List String)}
    :
    (∃ device ∈ filterDevicesByScope devices scope, device.id = id) ↔
      (∃ device ∈ devices, device.id = id) ∧ ∀ ids, scope = some ids → id ∈ ids := by
  unfold filterDevicesByScope
  cases scope with
  | none => simp
  | some ids =>
    constructor
    · rintro ⟨device, member, rfl⟩
      obtain ⟨known, listed⟩ := List.mem_filter.mp member
      refine ⟨⟨device, known, rfl⟩, fun others same => ?_⟩
      rw [← Option.some.inj same]
      exact List.contains_iff_mem.mp listed
    · rintro ⟨⟨device, known, rfl⟩, inside⟩
      exact ⟨device, List.mem_filter.mpr ⟨known, List.contains_iff_mem.mpr (inside ids rfl)⟩, rfl⟩

variable {c : Configuration} {peers : List Peer}

theorem exists_device_iff :
    (∃ device ∈ peers.map c.device, device.id = id) ↔ ∃ peer ∈ peers, peer.id = id := by
  constructor
  · rintro ⟨device, member, rfl⟩
    obtain ⟨peer, known, rfl⟩ := List.mem_map.mp member
    exact ⟨peer, known, rfl⟩
  · rintro ⟨peer, known, rfl⟩
    exact ⟨c.device peer, List.mem_map_of_mem known, rfl⟩

variable {language : Language} {user : User}

/-- A device is shown where it is known and the scope, if there is one, holds it. -/
theorem shown_iff {restrictedDefault : Bool}
    :
    Shown language c restrictedDefault user peers id ↔
      (∃ peer ∈ peers, peer.id = id) ∧ ∀ ids, getDeviceScopeForUser language c restrictedDefault
        user (peers.map c.device) = some ids → id ∈ ids := by
  unfold Shown
  rw [exists_mem_filterDevicesByScope, exists_device_iff]

/-! ### The rule behind the scope -/

/-- What decides which devices a user sees: whether they are hidden by default, those that a
restriction admits the user to or that are granted to the user, and those that a restriction keeps
from the user. -/
structure AccessRule (ID : Type) where
  restrictedDefault : Prop
  admitted : Set ID
  refused : Set ID

/-- Hidden by default, a device has to be admitted; else it may not be refused unless it is admitted
too. -/
def AccessRule.Visible {ID : Type} (rule : AccessRule ID) (id : ID) : Prop :=
  (rule.restrictedDefault → id ∈ rule.admitted) ∧
    (¬rule.restrictedDefault → id ∈ rule.refused → id ∈ rule.admitted)

theorem AccessRule.visible_iff {ID : Type} {rule : AccessRule ID} {id : ID} :
    rule.Visible id ↔ id ∈ rule.admitted ∨ (¬rule.restrictedDefault ∧ id ∉ rule.refused) := by
  unfold AccessRule.Visible
  tauto

/-- Rules that read a device alike show it alike. -/
theorem AccessRule.visible_congr {ID : Type} {first second : AccessRule ID} {id : ID}
    (restrictedDefault : first.restrictedDefault ↔ second.restrictedDefault)
    (admitted : id ∈ first.admitted ↔ id ∈ second.admitted)
    (refused : id ∈ first.refused ↔ id ∈ second.refused) :
    first.Visible id ↔ second.Visible id := by
  unfold AccessRule.Visible
  rw [restrictedDefault, admitted, refused]

/-- The console's rule for a user. -/
def accessRule (language : Language) (c : Configuration) (restrictedDefault : Bool) (user : User)
    (devices : List Device) : AccessRule String where
  restrictedDefault := restrictedDefault = true
  admitted := {id | id ∈ groupIDs language c user devices true ∨ id ∈ c.peerGrants user.id}
  refused := {id | id ∈ groupIDs language c user devices false}

theorem groupIDs_eq_nil
    {devices : List Device} (unrestricted : c.restrictedGroups = []) (admits : Bool) :
    groupIDs language c user devices admits = [] := by
  unfold groupIDs
  rw [unrestricted]
  rfl

/-- The scope of a user follows the rule. -/
theorem shown_iff_visible {restrictedDefault : Bool} (limited : user.Limited) :
    Shown language c restrictedDefault user peers id ↔
      (∃ peer ∈ peers, peer.id = id) ∧
        (accessRule language c restrictedDefault user (peers.map c.device)).Visible id := by
  rw [shown_iff]
  refine and_congr_right fun ⟨peer, known, named⟩ => ?_
  have passed : ¬(user.id = 0 ∨ passesScope user.role = true) := by
    rintro (zero | passes)
    · exact limited.1 zero
    · exact absurd passes (by rw [limited.2]; decide)
  unfold getDeviceScopeForUser AccessRule.Visible accessRule
  rw [if_neg passed]
  dsimp only
  split
  · next unconfigured =>
    obtain ⟨unrestricted, ungranted⟩ := Bool.and_eq_true_iff.mp unconfigured
    rw [groupIDs_eq_nil (List.isEmpty_iff.mp unrestricted),
      groupIDs_eq_nil (List.isEmpty_iff.mp unrestricted), List.isEmpty_iff.mp ungranted]
    cases restrictedDefault with
    | true => simp
    | false => simp
  · cases restrictedDefault with
    | true => simp
    | false =>
      have listed : id ∈ ((peers.map c.device).map (·.id)) := by
        rw [← named]
        exact List.mem_map_of_mem (List.mem_map_of_mem known)
      have nonempty : id ≠ "" := named ▸ peer.named
      simp only [Bool.false_eq_true, if_false, Option.some.injEq, forall_eq', List.mem_filter]
      rw [and_iff_right listed]
      simp [nonempty, or_iff_not_imp_left]

end SovaDesk.Console.Scope
