/-
This file models the backup of the console's configuration and its restore, and compares what
users see before and after.

A backup holds the settings, the folders, the user groups, the device groups and the strategies as
the database lists them; the members of a group are only counted there. A restore adds what is
missing, each through the function that creates it, with the fields that the restore hands over.
-/

import SovaDesk.Console.DeviceScope

namespace SovaDesk.Console.Scope

/-! ### The backup -/

/-- A device group as it is listed. -/
structure ListedDeviceGroup where
  guid : Guid
  name : String
  note : String
  teamID : String
  sourceType : String
  tagFilter : String
  allowedUsers : List String
  allowedGroups : List String
  memberCount : Nat

/-- The part of a backup that the scope and the groups are restored from. The permissions of a
strategy, which no scope reads, are left out here as they are in the configuration. -/
structure Payload where
  settings : List (String × String)
  folders : List Folder
  userGroups : List (Guid × UserGroup)
  deviceGroups : List ListedDeviceGroup
  strategies : List (Guid × Strategy)

/-- `getAllSettings`: the rows as the properties of an object, where a text under `__proto__` is
dropped. -/
def getAllSettings (c : Configuration) : List (String × String) :=
  (c.settings.entries.map fun entry => (entry.1, entry.2)).filter (·.1 ≠ "__proto__")

def getAllFolders (c : Configuration) : List Folder :=
  c.folders.mergeSort fun a b =>
    a.sortOrder < b.sortOrder || (a.sortOrder = b.sortOrder && a.name ≤ b.name)

def getAllUserGroups (c : Configuration) : List (Guid × UserGroup) :=
  (c.userGroups.entries.map fun entry => (entry.1, entry.2)).mergeSort fun a b =>
    a.2.name ≤ b.2.name

def DeviceGroup.listed (guid : Guid) (group : DeviceGroup) : ListedDeviceGroup where
  guid := guid
  name := group.name
  note := group.note
  teamID := group.teamID
  sourceType := group.source
  tagFilter := group.tagFilter
  allowedUsers := group.allowedUsers
  allowedGroups := group.allowedGroups
  memberCount := group.members.length

def getAllDeviceGroups (c : Configuration) : List ListedDeviceGroup :=
  (c.deviceGroups.entries.map fun entry => entry.2.listed entry.1).mergeSort fun a b =>
    a.name ≤ b.name

def getAllStrategies (c : Configuration) : List (Guid × Strategy) :=
  (c.strategies.entries.map fun entry => (entry.1, entry.2)).mergeSort fun a b =>
    a.2.name ≤ b.2.name

def createBackup (c : Configuration) : Payload where
  settings := getAllSettings c
  folders := getAllFolders c
  userGroups := getAllUserGroups c
  deviceGroups := getAllDeviceGroups c
  strategies := getAllStrategies c

/-! ### The restore -/

def createFolder (name color icon : String) (c : Configuration) : Configuration :=
  { c with
    folders := c.folders ++ [{
      id := c.lastFolderID + 1
      name
      color := orElse color "#6366f1"
      icon := orElse icon "folder"
      sortOrder := 0 }]
    lastFolderID := c.lastFolderID + 1 }

/-- A new row of the user groups; a guid that is taken is refused. -/
def createUserGroup (guid : Guid) (name note teamID : String) (groups : Table Guid UserGroup) :
    Table Guid UserGroup :=
  groups.insertNew guid { name, note, teamID }

/-- A new row of the device groups, without members and without an access list. -/
def createDeviceGroup (guid : Guid) (name note teamID sourceType tagFilter : String)
    (groups : Table Guid DeviceGroup) : Table Guid DeviceGroup :=
  groups.insertNew guid {
    name, note, teamID
    sourceType := if sourceType = "tag" then "tag" else "manual"
    tagFilter := if sourceType = "tag" then tagFilter else ""
    allowedUsers := []
    allowedGroups := []
    members := [] }

def createStrategy (guid : Guid) (name userGroupGuid deviceGroupGuid : String) (enabled : Bool)
    (strategies : Table Guid Strategy) : Table Guid Strategy :=
  strategies.insertNew guid { name, userGroupGuid, deviceGroupGuid, enabled }

def restoreSettings (settings : List (String × String)) (c : Configuration) : Configuration :=
  { c with
    settings := settings.foldl (fun table setting => table.insert setting.1 setting.2) c.settings }

def restoreFolders (folders : List Folder) (c : Configuration) : Configuration :=
  let existing := c.folders.map (·.name)
  folders.foldl (fun c folder =>
    if existing.contains folder.name then c
    else createFolder folder.name (orElse folder.color "#6366f1") (orElse folder.icon "folder") c) c

/-- The groups and strategies with guids that are not there yet. Of a user group the guid, the name
and the note are handed over, and of a device group no more than that. -/
def restoreGroupsData (data : Payload) (c : Configuration) : Configuration :=
  { c with
    userGroups := data.userGroups.foldl (fun groups group =>
      if c.userGroups.keys.contains group.1 then groups
      else createUserGroup group.1 group.2.name group.2.note "" groups) c.userGroups
    deviceGroups := data.deviceGroups.foldl (fun groups group =>
      if c.deviceGroups.keys.contains group.guid then groups
      else createDeviceGroup group.guid group.name group.note "" "" "" groups) c.deviceGroups
    strategies := data.strategies.foldl (fun strategies strategy =>
      if c.strategies.keys.contains strategy.1 then strategies
      else createStrategy strategy.1 strategy.2.name strategy.2.userGroupGuid
        strategy.2.deviceGroupGuid strategy.2.enabled strategies) c.strategies }

/-- `restoreBackup` with its default options. -/
def restoreBackup (data : Payload) (c : Configuration) : Configuration :=
  restoreGroupsData data (restoreFolders data.folders (restoreSettings data.settings c))

/-! ### A console and its restored copy -/

/-- A console: its configuration, its users, the devices that the server knows, the default of the
environment, and the answer about the default that is still kept. -/
structure Installation where
  configuration : Configuration
  users : List User
  peers : List Peer
  envRestricted : Bool
  kept : Option Bool

def Installation.restrictedDefault (language : Language) (console : Installation) : Bool :=
  isDeviceScopeRestrictedDefault language console.configuration console.envRestricted console.kept

/-- A device is shown to a user of the console. -/
def Installation.Shows (language : Language) (console : Installation) (user : User)
    (id : String) : Prop :=
  Shown language console.configuration (console.restrictedDefault language) user console.peers id

/-- The tables of a console in which nothing was configured; numbers of folders may have been
given away. -/
def emptyConfiguration (lastFolderID : Int) : Configuration where
  settings := ∅
  userGroups := ∅
  memberships := fun _ => []
  deviceGroups := ∅
  folders := []
  lastFolderID := lastFolderID
  folderAssignments := ∅
  strategies := ∅
  peerGrants := fun _ => []

/-- The backup of a console, restored into an empty one with the same users and devices, which has
an environment and perhaps a kept answer of its own. -/
def Installation.restored (console : Installation) (lastFolderID : Int) (envRestricted : Bool)
    (kept : Option Bool) : Installation where
  configuration :=
    restoreBackup (createBackup console.configuration) (emptyConfiguration lastFolderID)
  users := console.users
  peers := console.peers
  envRestricted := envRestricted
  kept := kept

/-! ### What a restore keeps -/

/-- What a restore is to keep of a device group. -/
def DeviceGroup.kept (group : DeviceGroup) :
    String × String × String × List String × List String × List String :=
  (group.name, group.source, group.tagFilter, group.members, group.allowedUsers,
    group.allowedGroups)

/-- The groups, folders and strategies of a configuration are there again. -/
structure SameGroups (saved restored : Configuration) : Prop where
  userGroups : ∀ guid,
    (restored.userGroups.lookup guid).map (·.name) = (saved.userGroups.lookup guid).map (·.name)
  deviceGroups : ∀ guid,
    (restored.deviceGroups.lookup guid).map (·.kept) =
      (saved.deviceGroups.lookup guid).map (·.kept)
  folders : (restored.folders.map (·.name)).Perm (saved.folders.map (·.name))
  strategies : ∀ guid,
    (restored.strategies.lookup guid).map (·.name) = (saved.strategies.lookup guid).map (·.name)

/-- The groups of a console are there again, and no user whom the scope may restrict sees a device
that was hidden. -/
structure NeverWidens (language : Language) (saved restored : Installation) : Prop where
  groups : SameGroups saved.configuration restored.configuration
  scope : ∀ user ∈ saved.users, user.Limited → ∀ id,
    restored.Shows language user id → saved.Shows language user id

/-- A device group that loses nothing: a manual one without members and without an access list. -/
structure DeviceGroup.Plain (group : DeviceGroup) : Prop where
  manual : group.source = "manual"
  untagged : group.tagFilter = ""
  memberless : group.members = []
  usersUnlisted : group.allowedUsers = []
  groupsUnlisted : group.allowedGroups = []

/-! ### The restored tables -/

/-- A configuration apart from its folders. -/
def Configuration.withoutFolders (c : Configuration) : Configuration :=
  { c with folders := [], lastFolderID := 0 }

theorem withoutFolders_restoreFolders (folders : List Folder) (c : Configuration) :
    (restoreFolders folders c).withoutFolders = c.withoutFolders := by
  unfold restoreFolders
  dsimp only
  generalize c.folders.map (·.name) = existing
  induction folders generalizing c with
  | nil => rfl
  | cons folder folders inductionHypothesis =>
    rw [List.foldl_cons, inductionHypothesis]
    split
    · rfl
    · rfl

/-- Where no folder is there, each folder of the backup is created. -/
theorem map_name_restoreFolders (folders : List Folder) (c : Configuration)
    (none : c.folders = []) :
    (restoreFolders folders c).folders.map (·.name) = folders.map (·.name) := by
  have created : ∀ c : Configuration,
      (folders.foldl (fun c folder =>
        if ([] : List String).contains folder.name then c
        else createFolder folder.name (orElse folder.color "#6366f1")
          (orElse folder.icon "folder") c) c).folders.map (·.name) =
        c.folders.map (·.name) ++ folders.map (·.name) := by
    induction folders with
    | nil => intro c; simp
    | cons folder folders inductionHypothesis =>
      intro c
      rw [List.foldl_cons, inductionHypothesis]
      simp [createFolder]
  unfold restoreFolders
  rw [none]
  exact (created c).trans (by rw [none]; rfl)

/-- Where a table is empty, none of its keys holds an item of the backup back. -/
theorem foldl_missing {Item Key Value : Type} [BEq Key] {table : Table Key Value}
    (items : List Item) (key : Item → Key) (create : Item → Table Key Value → Table Key Value)
    (empty : table = ∅) :
    items.foldl (fun filled item =>
        if table.keys.contains (key item) then filled else create item filled) table =
      items.foldl (fun filled item => create item filled) ∅ := by
  subst empty
  rfl

/-- The entries of a table in another order, each of them changed. -/
theorem perm_map_mergeSort {Entry Item Other : Type} (entries : List Entry) (item : Entry → Item)
    (before : Item → Item → Bool) (change : Item → Other) :
    (((entries.map item).mergeSort before).map change).Perm
      (entries.map fun entry => change (item entry)) := by
  have sorted := (List.mergeSort_perm (entries.map item) before).map change
  rw [List.map_map] at sorted
  exact sorted

/-- The user group that a restore creates for one. -/
def UserGroup.bare (group : UserGroup) : UserGroup :=
  { group with teamID := "" }

/-- The device group that a restore creates for a listed one. -/
def ListedDeviceGroup.bare (group : ListedDeviceGroup) : DeviceGroup where
  name := group.name
  note := group.note
  teamID := ""
  sourceType := "manual"
  tagFilter := ""
  allowedUsers := []
  allowedGroups := []
  members := []

/-- The device group that a backup and a restore make of one. -/
def DeviceGroup.bare (group : DeviceGroup) : DeviceGroup :=
  { group with
    teamID := "", sourceType := "manual", tagFilter := "", allowedUsers := [], allowedGroups := [],
    members := [] }

section Restored

variable (saved : Configuration) (lastFolderID : Int)

/-- The tables with a guid are still empty when the groups' turn comes. -/
theorem restoreFolders_empty (data : Payload) :
    let c := restoreFolders data.folders (restoreSettings data.settings
      (emptyConfiguration lastFolderID))
    c.userGroups = ∅ ∧ c.deviceGroups = ∅ ∧ c.strategies = ∅ := by
  have same := withoutFolders_restoreFolders data.folders
    (restoreSettings data.settings (emptyConfiguration lastFolderID))
  exact ⟨congrArg Configuration.userGroups same, congrArg Configuration.deviceGroups same,
    congrArg Configuration.strategies same⟩

theorem restored_userGroups (guid : Guid) :
    (restoreBackup (createBackup saved) (emptyConfiguration lastFolderID)).userGroups.lookup guid =
      (saved.userGroups.lookup guid).map UserGroup.bare := by
  have filled := foldl_missing (createBackup saved).userGroups Prod.fst
    (fun group groups => createUserGroup group.1 group.2.name group.2.note "" groups)
    (restoreFolders_empty lastFolderID (createBackup saved)).1
  have listed := perm_map_mergeSort saved.userGroups.entries (fun entry => (entry.1, entry.2))
    (fun a b => a.2.name ≤ b.2.name) fun group => (group.1, group.2.bare)
  refine (congrArg (AList.lookup guid) filled).trans ?_
  exact Table.lookup_foldl_insertNew Prod.fst (fun group : Guid × UserGroup => group.2.bare)
    (fun _ => UserGroup.bare) listed guid

theorem restored_deviceGroups (guid : Guid) :
    (restoreBackup (createBackup saved)
        (emptyConfiguration lastFolderID)).deviceGroups.lookup guid =
      (saved.deviceGroups.lookup guid).map DeviceGroup.bare := by
  have filled := foldl_missing (createBackup saved).deviceGroups ListedDeviceGroup.guid
    (fun group groups => createDeviceGroup group.guid group.name group.note "" "" "" groups)
    (restoreFolders_empty lastFolderID (createBackup saved)).2.1
  have listed := perm_map_mergeSort saved.deviceGroups.entries
    (fun entry => entry.2.listed entry.1) (fun a b => a.name ≤ b.name)
    fun group => (group.guid, group.bare)
  refine (congrArg (AList.lookup guid) filled).trans ?_
  exact Table.lookup_foldl_insertNew ListedDeviceGroup.guid ListedDeviceGroup.bare
    (fun _ => DeviceGroup.bare) listed guid

theorem restored_strategies (guid : Guid) :
    (restoreBackup (createBackup saved) (emptyConfiguration lastFolderID)).strategies.lookup guid =
      saved.strategies.lookup guid := by
  have filled := foldl_missing (createBackup saved).strategies Prod.fst
    (fun strategy strategies => createStrategy strategy.1 strategy.2.name
      strategy.2.userGroupGuid strategy.2.deviceGroupGuid strategy.2.enabled strategies)
    (restoreFolders_empty lastFolderID (createBackup saved)).2.2
  have listed := perm_map_mergeSort saved.strategies.entries (fun entry => (entry.1, entry.2))
    (fun a b => a.2.name ≤ b.2.name) fun strategy => (strategy.1, strategy.2)
  refine (congrArg (AList.lookup guid) filled).trans ?_
  refine Eq.trans ?_ Option.map_id'
  exact Table.lookup_foldl_insertNew Prod.fst Prod.snd (fun _ strategy => strategy) listed guid

theorem restored_settings {key : String} (plain : key ≠ "__proto__") :
    (restoreBackup (createBackup saved) (emptyConfiguration lastFolderID)).settings.lookup key =
      saved.settings.lookup key := by
  have same := congrArg Configuration.settings (withoutFolders_restoreFolders
    (createBackup saved).folders
    (restoreSettings (createBackup saved).settings (emptyConfiguration lastFolderID)))
  have listed : (getAllSettings saved).Perm
      ((saved.settings.filter fun name _ => name ≠ "__proto__").entries.map fun entry =>
        (entry.1, entry.2)) := by
    unfold getAllSettings Table.filter
    rw [List.filter_map]
    exact List.Perm.refl _
  refine (congrArg (AList.lookup key) same).trans ?_
  refine (Table.lookup_foldl_insert listed key).trans ?_
  refine Option.ext fun value => ?_
  rw [Table.lookup_filter_iff, decide_eq_true_iff]
  exact and_iff_left plain

/-- Nothing in a backup grants a device. -/
theorem restored_peerGrants (userID : Int) :
    (restoreBackup (createBackup saved) (emptyConfiguration lastFolderID)).peerGrants userID =
      [] := by
  have same := congrArg Configuration.peerGrants (withoutFolders_restoreFolders
    (createBackup saved).folders
    (restoreSettings (createBackup saved).settings (emptyConfiguration lastFolderID)))
  exact congrFun same userID

theorem restored_folders :
    ((restoreBackup (createBackup saved) (emptyConfiguration lastFolderID)).folders.map
      (·.name)).Perm (saved.folders.map (·.name)) := by
  have names := map_name_restoreFolders (createBackup saved).folders
    (restoreSettings (createBackup saved).settings (emptyConfiguration lastFolderID)) rfl
  refine (List.Perm.of_eq names).trans ?_
  exact (List.mergeSort_perm _ _).map _

end Restored

/-! ### Scopes without restricted groups -/

/-- Only the default and the grants decide where no group restricts its devices. -/
theorem shown_iff_of_unrestricted {language : Language} {c : Configuration} {user : User}
    {peers : List Peer} {id : String} (restrictedDefault : Bool)
    (unrestricted : c.restrictedGroups = []) (limited : user.Limited) :
    Shown language c restrictedDefault user peers id ↔
      (∃ peer ∈ peers, peer.id = id) ∧ (restrictedDefault = true → id ∈ c.peerGrants user.id) := by
  rw [shown_iff_visible limited]
  refine and_congr_right fun _ => ?_
  unfold AccessRule.Visible accessRule
  rw [groupIDs_eq_nil unrestricted, groupIDs_eq_nil unrestricted]
  simp

/-! ### When a restore widens nothing -/

theorem restrictedGroups_eq_nil {c : Configuration}
    (unlisted : ∀ guid group, c.deviceGroups.lookup guid = some group →
      group.allowedUsers = [] ∧ group.allowedGroups = []) : c.restrictedGroups = [] := by
  refine List.filter_eq_nil_iff.mpr fun entry member => ?_
  obtain ⟨stored, storedMember, rfl⟩ := List.mem_map.mp member
  obtain ⟨users, groups⟩ :=
    unlisted stored.1 stored.2 (Table.mem_entries_iff.mp storedMember)
  unfold DeviceGroup.restricted
  rw [users, groups]
  decide

theorem kept_bare_iff (group : DeviceGroup) : group.bare.kept = group.kept ↔ group.Plain := by
  constructor
  · intro same
    simp only [DeviceGroup.kept, DeviceGroup.bare, DeviceGroup.source, Prod.mk.injEq] at same
    obtain ⟨-, manual, untagged, memberless, users, groups⟩ := same
    exact ⟨manual.symm, untagged.symm, memberless.symm, users.symm, groups.symm⟩
  · intro plain
    unfold DeviceGroup.kept
    rw [plain.manual, plain.untagged, plain.memberless, plain.usersUnlisted, plain.groupsUnlisted]
    rfl

section Widening

variable (language : Language) (console : Installation) (lastFolderID : Int)
  (envRestricted : Bool) (kept : Option Bool)

theorem sameGroups_restored_iff :
    SameGroups console.configuration
        (console.restored lastFolderID envRestricted kept).configuration ↔
      ∀ guid group, console.configuration.deviceGroups.lookup guid = some group →
        group.Plain := by
  constructor
  · intro same guid group found
    have again := same.deviceGroups guid
    rw [Installation.restored, restored_deviceGroups, found] at again
    exact (kept_bare_iff group).mp (Option.some.inj again)
  · intro plain
    refine ⟨fun guid => ?_, fun guid => ?_, restored_folders _ _, fun guid => ?_⟩
    · rw [Installation.restored, restored_userGroups, Option.map_map]
      rfl
    · rw [Installation.restored, restored_deviceGroups]
      cases found : console.configuration.deviceGroups.lookup guid with
      | none => rfl
      | some group => exact congrArg some ((kept_bare_iff group).mpr (plain guid group found))
    · rw [Installation.restored, restored_strategies]

/-- The default of the restored console follows from the settings of the backup. -/
theorem restrictedDefault_restored :
    (console.restored lastFolderID envRestricted kept).restrictedDefault language =
      isDeviceScopeRestrictedDefault language console.configuration envRestricted kept := by
  unfold Installation.restrictedDefault isDeviceScopeRestrictedDefault Installation.restored
  rw [restored_settings _ _ (by decide)]

/-- After the restore no group restricts a device and nothing is granted, so the default decides. -/
theorem restored_shows_iff {user : User} (limited : user.Limited) (id : String) :
    (console.restored lastFolderID envRestricted kept).Shows language user id ↔
      (∃ peer ∈ console.peers, peer.id = id) ∧
        isDeviceScopeRestrictedDefault language console.configuration envRestricted kept =
          false := by
  unfold Installation.Shows
  rw [shown_iff_of_unrestricted _ (restrictedGroups_eq_nil ?_) limited,
    restrictedDefault_restored]
  · refine and_congr_right fun _ => ?_
    rw [← Bool.not_eq_true]
    refine imp_congr_right fun _ => iff_false_intro ?_
    rw [Installation.restored, restored_peerGrants]
    exact List.not_mem_nil
  · intro guid group found
    rw [Installation.restored, restored_deviceGroups] at found
    obtain ⟨old, -, rfl⟩ := Option.map_eq_some_iff.mp found
    exact ⟨rfl, rfl⟩

/-- A restored backup keeps the groups and widens no scope exactly where every device group of the
console was a manual one without members and without access lists, and where a restricted default
stays a restricted one, or every device was granted to every user whom it restricts. -/
theorem restore_neverWidens_iff :
    NeverWidens language console (console.restored lastFolderID envRestricted kept) ↔
      (∀ guid group, console.configuration.deviceGroups.lookup guid = some group →
          group.Plain) ∧
        (console.restrictedDefault language = true →
          isDeviceScopeRestrictedDefault language console.configuration envRestricted kept = true ∨
            ∀ user ∈ console.users, user.Limited → ∀ peer ∈ console.peers,
              peer.id ∈ console.configuration.peerGrants user.id) := by
  have shows : (∀ guid group, console.configuration.deviceGroups.lookup guid = some group →
      group.Plain) → ∀ user : User, user.Limited → ∀ id, console.Shows language user id ↔
        (∃ peer ∈ console.peers, peer.id = id) ∧ (console.restrictedDefault language = true →
          id ∈ console.configuration.peerGrants user.id) := fun plain user limited id =>
    shown_iff_of_unrestricted _ (restrictedGroups_eq_nil fun guid group found =>
      ⟨(plain guid group found).usersUnlisted, (plain guid group found).groupsUnlisted⟩) limited
  constructor
  · rintro ⟨groups, scope⟩
    have plain := (sameGroups_restored_iff console lastFolderID envRestricted kept).mp groups
    refine ⟨plain, fun restricted => ?_⟩
    cases after : isDeviceScopeRestrictedDefault language console.configuration envRestricted
        kept with
    | true => exact Or.inl rfl
    | false =>
      refine Or.inr fun user member limited peer known => ?_
      have shown := scope user member limited peer.id
        ((restored_shows_iff language console lastFolderID envRestricted kept limited peer.id).mpr
          ⟨⟨peer, known, rfl⟩, after⟩)
      exact ((shows plain user limited peer.id).mp shown).2 restricted
  · rintro ⟨plain, default⟩
    refine ⟨(sameGroups_restored_iff console lastFolderID envRestricted kept).mpr plain,
      fun user member limited id shown => ?_⟩
    obtain ⟨⟨peer, known, rfl⟩, opened⟩ :=
      (restored_shows_iff language console lastFolderID envRestricted kept limited id).mp shown
    refine (shows plain user limited peer.id).mpr ⟨⟨peer, known, rfl⟩, fun restricted => ?_⟩
    rcases default restricted with still | granted
    · exact absurd still (by rw [opened]; decide)
    · exact granted user member limited peer known

end Widening

/-! ### A restriction that is lost -/

/-- A console where one device is kept for one of two users. -/
def keptForAlice : Installation where
  configuration :=
    { emptyConfiguration 0 with
      deviceGroups := AList.singleton (⟨"g-1", by decide⟩ : Guid) {
        name := "servers"
        note := ""
        teamID := ""
        sourceType := "manual"
        tagFilter := ""
        allowedUsers := ["alice"]
        allowedGroups := []
        members := ["device-1"] } }
  users := [⟨1, "alice", "operator", none⟩, ⟨2, "bob", "operator", none⟩]
  peers := [⟨"device-1", .missing, by decide⟩]
  envRestricted := false
  kept := none

/-- With the access list lost, the other user sees the device in the restored console. -/
theorem restriction_lost :
    let language : Language := ⟨id, fun _ => none, fun _ => none⟩
    ¬NeverWidens language keptForAlice (keptForAlice.restored 0 false none) := by
  intro language widens
  have limited : User.Limited ⟨2, "bob", "operator", none⟩ := ⟨by decide, by decide⟩
  have hidden : ¬keptForAlice.Shows language ⟨2, "bob", "operator", none⟩ "device-1" := by
    have scope : getDeviceScopeForUser language keptForAlice.configuration
        (keptForAlice.restrictedDefault language) ⟨2, "bob", "operator", none⟩
        (keptForAlice.peers.map keptForAlice.configuration.device) = some [] := by
      decide +kernel
    exact fun shown => List.not_mem_nil ((shown_iff.mp shown).2 [] scope)
  have shown : (keptForAlice.restored 0 false none).Shows language ⟨2, "bob", "operator", none⟩
      "device-1" :=
    (restored_shows_iff language keptForAlice 0 false none limited "device-1").mpr
      ⟨⟨⟨"device-1", .missing, by decide⟩, List.mem_cons_self, rfl⟩, by decide +kernel⟩
  exact hidden (widens.scope ⟨2, "bob", "operator", none⟩
    (List.mem_cons_of_mem _ List.mem_cons_self) limited "device-1" shown)

end SovaDesk.Console.Scope
