/-
This file settles which devices a user sees under the access lists of the panel's device
groups and folders, and what is seen when the panel's database fails to answer.

`rustDeskVisiblePeerSet` asks the panel for the default, the user's grants and groups, the
device groups, the folders (twice) and the devices in each. A failed query leaves less than
the database holds: an error or an empty answer, for some queries an answer that breaks off,
and access lists that are cut short, since errors are dropped there. What was read in one
call is kept here apart from what the panel holds.

Less to read never admits a user to more devices. But a device that a list keeps from the
user is visible as soon as that restriction is not read, unless the default is read as
restricted.
-/

import SovaDesk.Api.PeerList

namespace SovaDesk.Api

open Auth

/-! ### The law -/

/-- A device group or a folder: its access lists and its devices. -/
structure Container where
  allowedUsers : List String
  allowedGroups : List String
  holds : String → Bool

/-- A container with access lists is for those they name only. -/
def Container.restricted (c : Container) : Bool :=
  !(c.allowedUsers.isEmpty && c.allowedGroups.isEmpty)

def Container.admits (c : Container) (username : String) (userGroupGUIDs : List String) : Bool :=
  c.allowedUsers.contains username || c.allowedGroups.any userGroupGUIDs.contains

/-- What the panel holds about the scope of users. -/
structure PanelACL where
  userGroupGUIDs : Int → List String
  userPeerGrants : Int → List String
  deviceGroups : List PanelDeviceGroup
  folders : List PanelFolder
  folderAssignments : Table String Int
  deviceScopeDefaultRestricted : Bool

section containers

variable (letters : Letters) (peerByID : Table String ListedPeer)

def groupContainer (g : PanelDeviceGroup) : Container :=
  ⟨g.allowedUsers, g.allowedGroupGUIDs, (panelGroupPeerIDs letters g peerByID none).contains⟩

def folderContainer (folderAssignments : Table String Int) (folder : PanelFolder) : Container :=
  ⟨folder.allowedUsers, folder.allowedGroups, fun id =>
    folderAssignments.lookup id == some folder.id && (peerByID.lookup id).isSome⟩

def PanelACL.containers (acl : PanelACL) : List Container :=
  acl.deviceGroups.map (groupContainer letters peerByID) ++
    acl.folders.map (folderContainer peerByID acl.folderAssignments)

/-- The user's groups; the panel knows its users by positive IDs. -/
def PanelACL.groupsOf (acl : PanelACL) (user : RustDeskUser) : List String :=
  if 0 < user.id then acl.userGroupGUIDs user.id else []

/-- A device is in a user's scope: it is granted to the user, or in a restricted container that
admits the user, or in no restricted container while the default is unrestricted. -/
def InScope (acl : PanelACL) (user : RustDeskUser) (id : String) : Prop :=
  (0 < user.id ∧ id ∈ acl.userPeerGrants user.id) ∨
    (∃ c ∈ acl.containers letters peerByID, c.restricted = true ∧
      c.admits user.username (acl.groupsOf user) = true ∧ c.holds id = true) ∨
    (acl.deviceScopeDefaultRestricted = false ∧
      ∀ c ∈ acl.containers letters peerByID, c.restricted = true → c.holds id = false)

end containers

/-! ### What a call reads -/

/-- What the queries of one call gave, `none` for an error; the access lists of groups and folders
are the ones that were read, and the members of a group those of its own query. -/
structure PanelReads where
  deviceScopeDefaultRestricted : Bool
  userPeerGrants : Option (List String)
  deviceGroups : Option (List PanelDeviceGroup)
  userGroupGUIDs : Option (List String)
  folderAssignments : Option (Table String Int)
  firstFolders : List PanelFolder
  memberPeerIDs : PanelDeviceGroup → Option (List String)
  folders : List PanelFolder

/-- What a call reads when every query succeeds. -/
def PanelACL.reads (acl : PanelACL) (user : RustDeskUser) : PanelReads where
  deviceScopeDefaultRestricted := acl.deviceScopeDefaultRestricted
  userPeerGrants := some (acl.userPeerGrants user.id)
  deviceGroups := some acl.deviceGroups
  userGroupGUIDs := some (acl.userGroupGUIDs user.id)
  folderAssignments := some acl.folderAssignments
  firstFolders := acl.folders
  memberPeerIDs g := some g.memberPeerIDs
  folders := acl.folders

namespace PanelReads

variable (letters : Letters) (peerByID : Table String ListedPeer) (reads : PanelReads)

def withMembers (g : PanelDeviceGroup) : PanelDeviceGroup :=
  { g with memberPeerIDs := (reads.memberPeerIDs g).getD [] }

def grantsOf (user : RustDeskUser) : List String :=
  if 0 < user.id then reads.userPeerGrants.getD [] else []

def groupsOf (user : RustDeskUser) : List String :=
  if 0 < user.id then reads.userGroupGUIDs.getD [] else []

/-- Some group, or some folder of the first pass, has an access list. -/
def hasRestricted (panelGroups : List PanelDeviceGroup) : Bool :=
  (panelGroups.any fun g => !(g.allowedUsers.isEmpty && g.allowedGroupGUIDs.isEmpty)) ||
    reads.firstFolders.any fun folder =>
      !(folder.allowedUsers.isEmpty && folder.allowedGroups.isEmpty)

/-- The devices of the restricted groups and folders that do, or do not, admit the user. -/
def targets (panelGroups : List PanelDeviceGroup) (user : RustDeskUser) (role : String)
    (admits : Bool) (id : String) : Bool :=
  (panelGroups.any fun g => !(g.allowedUsers.isEmpty && g.allowedGroupGUIDs.isEmpty) &&
    panelGroupAllowedForUser g user role (reads.groupsOf user) == admits &&
      (panelGroupPeerIDs letters (reads.withMembers g) peerByID none).contains id) ||
  reads.folders.any fun folder =>
    !(folder.allowedUsers.isEmpty && folder.allowedGroups.isEmpty) &&
    panelAccessAllowed user role (reads.groupsOf user) folder.allowedUsers folder.allowedGroups ==
      admits &&
    (reads.folderAssignments.getD ∅).lookup id == some folder.id && (peerByID.lookup id).isSome

/-- `rustDeskVisiblePeerSet` with what its queries gave. -/
def visiblePeerSet (user : RustDeskUser) (role : String) : Option (String → Bool) :=
  if passesGroups role then none
  else
    match reads.deviceGroups with
    | none => none
    | some panelGroups =>
      if !reads.hasRestricted panelGroups && (reads.grantsOf user).isEmpty then
        if reads.deviceScopeDefaultRestricted then some fun _ => false else none
      else
        let allowed := fun id =>
          reads.targets letters peerByID panelGroups user role true id ||
            (reads.grantsOf user).contains id
        if reads.deviceScopeDefaultRestricted then some allowed
        else some fun id => (peerByID.lookup id).isSome &&
          (!reads.targets letters peerByID panelGroups user role false id || allowed id)

/-- The list keeps the device. -/
def Visible (user : RustDeskUser) (role : String) (id : String) : Prop :=
  (reads.visiblePeerSet letters peerByID user role).all (· id) = true

instance (user : RustDeskUser) (role : String) (id : String) :
    Decidable (reads.Visible letters peerByID user role id) :=
  inferInstanceAs (Decidable (_ = true))

end PanelReads

/-! ### The peer list's scope -/

/-- The reads of a call in which at most the query of the device groups fails. -/
def PanelStore.reads (panel : PanelStore) (user : RustDeskUser) : PanelReads where
  deviceScopeDefaultRestricted := panel.deviceScopeDefaultRestricted
  userPeerGrants := some (panel.userPeerGrants user.id)
  deviceGroups := panel.deviceGroups
  userGroupGUIDs := some (panel.userGroupGUIDs user.id)
  folderAssignments := some panel.folderAssignments
  firstFolders := panel.folders
  memberPeerIDs g := some g.memberPeerIDs
  folders := panel.folders

theorem isEmpty_filter {Item : Type} (p : Item → Bool) (items : List Item) :
    (items.filter p).isEmpty = !items.any p := by
  rw [Bool.eq_iff_iff]
  simp [List.filter_eq_nil_iff]

/-- The scope that the peer list asks for is the one these reads give. -/
theorem rustDeskVisiblePeerSet_eq {letters : Letters} {s : Inventory} {panel : PanelStore}
    (connected : s.panelStore = some panel) (user : RustDeskUser) (role : String)
    (peerByID : Table String ListedPeer) :
    rustDeskVisiblePeerSet letters s user role peerByID =
      (panel.reads user).visiblePeerSet letters peerByID user role := by
  have guids : consoleUserGroupGUIDs s user.id = (panel.reads user).groupsOf user := by
    rw [consoleUserGroupGUIDs, connected]
    rfl
  rw [rustDeskVisiblePeerSet, PanelReads.visiblePeerSet, connected]
  cases read : panel.deviceGroups with
  | none => simp [PanelStore.reads, read]
  | some panelGroups =>
    simp only [PanelStore.reads, read, guids, isEmpty_filter, List.any_filter,
      PanelReads.hasRestricted, PanelReads.grantsOf, PanelReads.targets, Bool.not_or,
      Option.getD_some, Bool.and_assoc]
    rfl

/-! ### Containers as they were read -/

def PanelReads.containers (letters : Letters) (peerByID : Table String ListedPeer)
    (reads : PanelReads) (panelGroups : List PanelDeviceGroup) : List Container :=
  (panelGroups.map fun g => groupContainer letters peerByID (reads.withMembers g)) ++
    reads.folders.map (folderContainer peerByID (reads.folderAssignments.getD ∅))

section scope

variable {letters : Letters} {peerByID : Table String ListedPeer} {reads : PanelReads}
  {panelGroups : List PanelDeviceGroup} {acl : PanelACL} {user : RustDeskUser} {role id : String}

section

variable (limited : passesGroups role = false)

include limited

/-- Where a list restricts access, it admits those it names. -/
theorem panelAccessAllowed_eq (user : RustDeskUser)
    (guids : List String) (c : Container) (restricted : c.restricted = true) :
    panelAccessAllowed user role guids c.allowedUsers c.allowedGroups =
      c.admits user.username guids := by
  rw [Container.restricted, Bool.not_eq_true'] at restricted
  rw [panelAccessAllowed, limited, restricted, Container.admits, Bool.false_or, Bool.false_or]

theorem groupTarget_iff {admits : Bool} (g : PanelDeviceGroup) :
    (!(g.allowedUsers.isEmpty && g.allowedGroupGUIDs.isEmpty) &&
        panelGroupAllowedForUser g user role (reads.groupsOf user) == admits &&
        (panelGroupPeerIDs letters (reads.withMembers g) peerByID none).contains id) = true ↔
      let c := groupContainer letters peerByID (reads.withMembers g)
      c.restricted = true ∧ c.admits user.username (reads.groupsOf user) = admits ∧
        c.holds id = true := by
  rw [Bool.and_eq_true, Bool.and_eq_true, and_assoc]
  refine and_congr_right fun restricted => and_congr_left fun _ => ?_
  rw [beq_iff_eq, ← panelAccessAllowed_eq limited user (reads.groupsOf user)
    (groupContainer letters peerByID (reads.withMembers g)) restricted]
  rfl

theorem folderTarget_iff {admits : Bool} {assignments : Table String Int} (folder : PanelFolder) :
    (!(folder.allowedUsers.isEmpty && folder.allowedGroups.isEmpty) &&
        panelAccessAllowed user role (reads.groupsOf user) folder.allowedUsers
          folder.allowedGroups == admits &&
        assignments.lookup id == some folder.id && (peerByID.lookup id).isSome) = true ↔
      let c := folderContainer peerByID assignments folder
      c.restricted = true ∧ c.admits user.username (reads.groupsOf user) = admits ∧
        c.holds id = true := by
  rw [Bool.and_assoc, Bool.and_eq_true, Bool.and_eq_true, and_assoc]
  refine and_congr_right fun restricted => and_congr_left fun _ => ?_
  rw [beq_iff_eq, ← panelAccessAllowed_eq limited user (reads.groupsOf user)
    (folderContainer peerByID assignments folder) restricted]
  rfl

/-- The targets of a call are the devices of the restricted containers that were read. -/
theorem targets_iff {admits : Bool} :
    reads.targets letters peerByID panelGroups user role admits id = true ↔
      ∃ c ∈ reads.containers letters peerByID panelGroups, c.restricted = true ∧
        c.admits user.username (reads.groupsOf user) = admits ∧ c.holds id = true := by
  rw [PanelReads.targets, Bool.or_eq_true, List.any_eq_true, List.any_eq_true]
  simp only [groupTarget_iff limited, folderTarget_iff limited, PanelReads.containers,
    List.mem_append, List.mem_map, or_and_right, exists_or, exists_exists_and_eq_and]

/-- The first pass found an access list, or the user has a grant. -/
def PanelReads.SeesRestriction (reads : PanelReads) (panelGroups : List PanelDeviceGroup)
    (user : RustDeskUser) : Prop :=
  reads.hasRestricted panelGroups = true ∨ reads.grantsOf user ≠ []

/-- What a call makes of its reads: without a restriction the default decides; else the grants and
the containers that admit the user, and by an unrestricted default what no other one holds. -/
theorem visible_iff (listed : (peerByID.lookup id).isSome) :
    reads.Visible letters peerByID user role id ↔
      ∀ panelGroups, reads.deviceGroups = some panelGroups →
        (reads.deviceScopeDefaultRestricted = false ∧
          (reads.SeesRestriction panelGroups user →
            reads.targets letters peerByID panelGroups user role false id = false)) ∨
        (reads.SeesRestriction panelGroups user ∧
          (id ∈ reads.grantsOf user ∨
            reads.targets letters peerByID panelGroups user role true id = true)) := by
  rw [PanelReads.Visible, PanelReads.visiblePeerSet, if_neg (by simp [limited])]
  cases read : reads.deviceGroups with
  | none => simp
  | some panelGroups =>
    have seen : (!reads.hasRestricted panelGroups && (reads.grantsOf user).isEmpty) = true ↔
        ¬ reads.SeesRestriction panelGroups user := by
      simp [PanelReads.SeesRestriction]
    by_cases sees : reads.SeesRestriction panelGroups user
    · have notEarly := mt seen.mp (not_not.mpr sees)
      cases reads.deviceScopeDefaultRestricted <;> simp [notEarly, sees, listed] <;> tauto
    · have early := seen.mpr sees
      cases reads.deviceScopeDefaultRestricted <;> simp [early, sees]

end

/-! ### Reads that all succeed -/

theorem mem_grantsOf_reads :
    id ∈ (acl.reads user).grantsOf user ↔ 0 < user.id ∧ id ∈ acl.userPeerGrants user.id := by
  rw [PanelReads.grantsOf]
  split
  · next known => simp [known, PanelACL.reads]
  · next unknown => simp [unknown]

/-- A restricted container is one of those that the first pass looks for. -/
theorem hasRestricted_reads {c : Container} (stored : c ∈ acl.containers letters peerByID)
    (restricted : c.restricted = true) :
    (acl.reads user).hasRestricted acl.deviceGroups = true := by
  rw [PanelReads.hasRestricted, Bool.or_eq_true, List.any_eq_true, List.any_eq_true]
  rcases List.mem_append.mp stored with stored | stored
  · obtain ⟨g, member, rfl⟩ := List.mem_map.mp stored
    exact Or.inl ⟨g, member, restricted⟩
  · obtain ⟨folder, member, rfl⟩ := List.mem_map.mp stored
    exact Or.inr ⟨folder, member, restricted⟩

/-- When every query succeeds, a device of the inventory is visible exactly when it is in scope. -/
theorem visible_reads_iff_inScope (limited : passesGroups role = false)
    (listed : (peerByID.lookup id).isSome) :
    (acl.reads user).Visible letters peerByID user role id ↔
      InScope letters peerByID acl user id := by
  have admitted : (acl.reads user).targets letters peerByID acl.deviceGroups user role true id =
      true ↔ ∃ c ∈ acl.containers letters peerByID, c.restricted = true ∧
        c.admits user.username (acl.groupsOf user) = true ∧ c.holds id = true :=
    targets_iff limited
  have refused : (acl.reads user).targets letters peerByID acl.deviceGroups user role false id =
      true ↔ ∃ c ∈ acl.containers letters peerByID, c.restricted = true ∧
        c.admits user.username (acl.groupsOf user) = false ∧ c.holds id = true :=
    targets_iff limited
  have sees : ∀ c ∈ acl.containers letters peerByID, c.restricted = true →
      (acl.reads user).SeesRestriction acl.deviceGroups user := fun c stored restricted =>
    Or.inl (hasRestricted_reads stored restricted)
  rw [visible_iff limited listed, InScope, ← mem_grantsOf_reads, ← admitted]
  constructor
  · intro shown
    rcases shown acl.deviceGroups rfl with ⟨unrestricted, unrefused⟩ | ⟨_, granted | allowed⟩
    · by_cases allowed : (acl.reads user).targets letters peerByID acl.deviceGroups user role true
          id = true
      · exact Or.inr (Or.inl allowed)
      · refine Or.inr (Or.inr ⟨unrestricted, fun c stored restricted => ?_⟩)
        by_contra holds
        have unrefused := unrefused (sees c stored restricted)
        cases admits : c.admits user.username (acl.groupsOf user) with
        | true => exact allowed (admitted.mpr ⟨c, stored, restricted, admits, by simpa using holds⟩)
        | false =>
          have refused := refused.mpr ⟨c, stored, restricted, admits, by simpa using holds⟩
          rw [unrefused] at refused
          exact Bool.false_ne_true refused
    · exact Or.inl granted
    · exact Or.inr (Or.inl allowed)
  · rintro (granted | allowed | ⟨unrestricted, free⟩) panelGroups read
    all_goals obtain rfl := Option.some.inj read
    · exact Or.inr ⟨Or.inr (List.ne_nil_of_mem granted), Or.inl granted⟩
    · obtain ⟨c, stored, restricted, _⟩ := admitted.mp allowed
      exact Or.inr ⟨sees c stored restricted, Or.inr allowed⟩
    · refine Or.inl ⟨unrestricted, fun _ => Bool.eq_false_iff.mpr fun held => ?_⟩
      obtain ⟨c, stored, restricted, _, holds⟩ := refused.mp held
      rw [free c stored restricted] at holds
      exact Bool.false_ne_true holds

/-! ### Reads that fail -/

/-- The reads hold nothing that the panel does not: what a failed query leaves is a part, perhaps
empty, of what it asked for. The folders of the first pass and the default can be anything. -/
structure PanelReads.Within (reads : PanelReads) (acl : PanelACL) (user : RustDeskUser) : Prop where
  grants : reads.userPeerGrants.getD [] ⊆ acl.userPeerGrants user.id
  guids : reads.userGroupGUIDs.getD [] ⊆ acl.userGroupGUIDs user.id
  assignments : ∀ id folderID, (reads.folderAssignments.getD ∅).lookup id = some folderID →
    acl.folderAssignments.lookup id = some folderID
  groups : ∀ g ∈ reads.deviceGroups.getD [], ∃ stored ∈ acl.deviceGroups,
    g.sourceType = stored.sourceType ∧ g.tagFilter = stored.tagFilter ∧
      g.allowedUsers ⊆ stored.allowedUsers ∧ g.allowedGroupGUIDs ⊆ stored.allowedGroupGUIDs ∧
      (reads.memberPeerIDs g).getD [] ⊆ stored.memberPeerIDs
  folders : ∀ folder ∈ reads.folders, ∃ stored ∈ acl.folders, folder.id = stored.id ∧
    folder.allowedUsers ⊆ stored.allowedUsers ∧ folder.allowedGroups ⊆ stored.allowedGroups

/-- A container holds nothing and admits nobody that another one does not. -/
structure Container.Within (c stored : Container) : Prop where
  users : c.allowedUsers ⊆ stored.allowedUsers
  groups : c.allowedGroups ⊆ stored.allowedGroups
  holds : ∀ id, c.holds id = true → stored.holds id = true

theorem Container.Within.restricted {c stored : Container} (within : c.Within stored)
    (restricted : c.restricted = true) : stored.restricted = true := by
  simp only [Container.restricted, Bool.not_eq_true', Bool.and_eq_false_iff,
    List.isEmpty_eq_false_iff] at restricted ⊢
  exact restricted.imp (fun users empty => users (List.subset_nil.mp (empty ▸ within.users)))
    fun groups empty => groups (List.subset_nil.mp (empty ▸ within.groups))

theorem Container.Within.admits {c stored : Container} (within : c.Within stored)
    {username : String} {read guids : List String} (known : read ⊆ guids)
    (admits : c.admits username read = true) : stored.admits username guids = true := by
  simp only [Container.admits, Bool.or_eq_true, List.contains_iff_mem, List.any_eq_true]
    at admits ⊢
  exact admits.imp (fun named => within.users named)
    fun ⟨guid, named, member⟩ => ⟨guid, within.groups named, known member⟩

theorem mem_panelGroupPeerIDs_iff {g : PanelDeviceGroup} :
    id ∈ panelGroupPeerIDs letters g peerByID none ↔
      (∃ candidate, (candidate ∈ g.memberPeerIDs ∨
        (g.sourceType = "tag" ∧ trimSpace g.tagFilter ≠ "") ∧
          candidate ∈ (peerByID.filter fun _ p =>
            peerHasTag letters p (letters.toLower (trimSpace g.tagFilter))).keys) ∧
        trimSpace candidate = id) ∧ id ≠ "" ∧ (peerByID.lookup id).isSome := by
  simp only [panelGroupPeerIDs, List.mem_eraseDups, List.mem_filter, List.mem_map, List.mem_append]
  have tagged : ∀ candidate, (candidate ∈ if g.sourceType = "tag" ∧ trimSpace g.tagFilter ≠ "" then
        (peerByID.filter fun _ p =>
          peerHasTag letters p (letters.toLower (trimSpace g.tagFilter))).keys
      else []) ↔ (g.sourceType = "tag" ∧ trimSpace g.tagFilter ≠ "") ∧
        candidate ∈ (peerByID.filter fun _ p =>
          peerHasTag letters p (letters.toLower (trimSpace g.tagFilter))).keys := by
    intro candidate
    split
    · next byTag => exact (and_iff_right byTag).symm
    · next byHand => simp [byHand]
  simp only [tagged]
  simp

theorem container_within (within : reads.Within acl user)
    (read : reads.deviceGroups = some panelGroups) {c : Container}
    (member : c ∈ reads.containers letters peerByID panelGroups) :
    ∃ stored ∈ acl.containers letters peerByID, c.Within stored := by
  rcases List.mem_append.mp member with member | member
  · obtain ⟨g, listed, rfl⟩ := List.mem_map.mp member
    obtain ⟨stored, found, source, filter, users, guids, members⟩ :=
      within.groups g (by rw [read]; exact listed)
    refine ⟨groupContainer letters peerByID stored,
      List.mem_append_left _ (List.mem_map_of_mem found), users, guids, fun id holds => ?_⟩
    simp only [groupContainer, List.contains_iff_mem, mem_panelGroupPeerIDs_iff] at holds ⊢
    obtain ⟨⟨candidate, origin, trimmed⟩, rest⟩ := holds
    refine ⟨⟨candidate, origin.imp (fun given => members given) fun tagged => ?_, trimmed⟩, rest⟩
    rwa [← source, ← filter]
  · obtain ⟨folder, listed, rfl⟩ := List.mem_map.mp member
    obtain ⟨stored, found, same, users, guids⟩ := within.folders folder listed
    refine ⟨folderContainer peerByID acl.folderAssignments stored,
      List.mem_append_right _ (List.mem_map_of_mem found), users, guids, fun id holds => ?_⟩
    simp only [folderContainer, Bool.and_eq_true, beq_iff_eq] at holds ⊢
    exact ⟨same ▸ within.assignments id folder.id holds.1, holds.2⟩

/-- Reading less admits a user to no more. -/
theorem targets_within (limited : passesGroups role = false) (within : reads.Within acl user)
    (read : reads.deviceGroups = some panelGroups)
    (target : reads.targets letters peerByID panelGroups user role true id = true) :
    ∃ c ∈ acl.containers letters peerByID, c.restricted = true ∧
      c.admits user.username (acl.groupsOf user) = true ∧ c.holds id = true := by
  obtain ⟨c, member, restricted, admits, holds⟩ := (targets_iff limited).mp target
  obtain ⟨stored, found, part⟩ := container_within within read member
  have known : reads.groupsOf user ⊆ acl.groupsOf user := by
    rw [PanelReads.groupsOf, PanelACL.groupsOf]
    split
    · exact within.guids
    · exact List.Subset.refl []
  exact ⟨stored, found, part.restricted restricted, part.admits known admits, part.holds id holds⟩

/-- The call reads enough to keep a device from the user: the groups, and either a restricted
default or a restricted container that holds the device, unless it takes the panel for one
without any restriction. -/
def PanelReads.ReadsRestriction (letters : Letters) (peerByID : Table String ListedPeer)
    (reads : PanelReads) (user : RustDeskUser) (id : String) : Prop :=
  ∃ panelGroups, reads.deviceGroups = some panelGroups ∧
    (reads.deviceScopeDefaultRestricted = true ∨
      reads.SeesRestriction panelGroups user ∧
        ∃ c ∈ reads.containers letters peerByID panelGroups,
          c.restricted = true ∧ c.holds id = true)

/-- A device that is not in scope stays hidden exactly when the call reads enough to keep it so. -/
theorem not_visible_iff_readsRestriction (limited : passesGroups role = false)
    (listed : (peerByID.lookup id).isSome) (within : reads.Within acl user)
    (outside : ¬ InScope letters peerByID acl user id) :
    ¬ reads.Visible letters peerByID user role id ↔
      reads.ReadsRestriction letters peerByID user id := by
  rw [InScope, not_or, not_or] at outside
  obtain ⟨ungranted, unadmitted, _⟩ := outside
  have notGranted : id ∉ reads.grantsOf user := by
    intro granted
    rw [PanelReads.grantsOf] at granted
    split at granted
    · next known => exact ungranted ⟨known, within.grants granted⟩
    · cases granted
  rw [visible_iff limited listed, not_forall]
  refine exists_congr fun panelGroups => ?_
  rw [Classical.not_imp]
  refine and_congr_right fun read => ?_
  have notAdmitted : reads.targets letters peerByID panelGroups user role true id ≠ true :=
    fun target => unadmitted (targets_within limited within read target)
  -- a container that was read holds the device only against the user
  have refused : reads.targets letters peerByID panelGroups user role false id = true ↔
      ∃ c ∈ reads.containers letters peerByID panelGroups, c.restricted = true ∧
        c.holds id = true := by
    rw [targets_iff limited]
    constructor
    · rintro ⟨c, member, restricted, _, holds⟩
      exact ⟨c, member, restricted, holds⟩
    · rintro ⟨c, member, restricted, holds⟩
      refine ⟨c, member, restricted, Bool.eq_false_iff.mpr fun admits => ?_, holds⟩
      exact notAdmitted ((targets_iff limited).mpr ⟨c, member, restricted, admits, holds⟩)
  rw [← refused]
  simp only [notGranted, notAdmitted]
  cases reads.deviceScopeDefaultRestricted <;> simp

/-- The law of the access lists holds of a call whose queries succeed, and a call whose queries fail
shows no more, if and only if it reads enough to hide every device that is not in scope. -/
theorem keepsScope_iff_readsRestrictions (letters : Letters) (peerByID : Table String ListedPeer)
    (acl : PanelACL) (reads : PanelReads) (user : RustDeskUser) (role : String)
    (limited : passesGroups role = false) (within : reads.Within acl user) :
    ((∀ id, (peerByID.lookup id).isSome → ((acl.reads user).Visible letters peerByID user role id ↔
          InScope letters peerByID acl user id)) ∧
        ∀ id, (peerByID.lookup id).isSome → reads.Visible letters peerByID user role id →
          (acl.reads user).Visible letters peerByID user role id) ↔
      ∀ id, (peerByID.lookup id).isSome → ¬ InScope letters peerByID acl user id →
        reads.ReadsRestriction letters peerByID user id := by
  constructor
  · rintro ⟨_, shows⟩ id listed outside
    refine (not_visible_iff_readsRestriction limited listed within outside).mp fun visible => ?_
    exact outside ((visible_reads_iff_inScope limited listed).mp (shows id listed visible))
  · intro restrictions
    refine ⟨fun id listed => visible_reads_iff_inScope limited listed, fun id listed visible => ?_⟩
    rw [visible_reads_iff_inScope limited listed]
    by_contra outside
    exact (not_visible_iff_readsRestriction limited listed within outside).mpr
      (restrictions id listed outside) visible

end scope

/-! ### One group -/

/-- An inventory of one device. -/
def benchPeers : Table String ListedPeer := AList.insert "device-1" { hostname := "bench" } ∅

/-- One group that is for `bob` and holds the device; the default is unrestricted. -/
def benchACL : PanelACL where
  userGroupGUIDs _ := ["lab"]
  userPeerGrants _ := []
  deviceGroups := [⟨1, "bench", "Bench", "", "manual", "", ["bob"], [], ["device-1"]⟩]
  folders := []
  folderAssignments := ∅
  deviceScopeDefaultRestricted := false

def ana : RustDeskUser := ⟨7, "ana"⟩

def unchangedLetters : Letters := ⟨fun text => text, fun first second => first == second⟩

/-- The reads of a call in which the device groups cannot be read. -/
def groupsUnread : PanelReads := { benchACL.reads ana with deviceGroups := none }

/-- The reads of a call in which the user's groups cannot be read. -/
def userGroupsUnread : PanelReads := { benchACL.reads ana with userGroupGUIDs := none }

/-- The device is hidden from `ana`, and visible when the query of the device groups fails. -/
theorem hiddenDevice_shown :
    passesGroups roleViewer = false ∧ groupsUnread.Within benchACL ana ∧
      (benchPeers.lookup "device-1").isSome ∧
      ¬ (benchACL.reads ana).Visible unchangedLetters benchPeers ana roleViewer "device-1" ∧
      groupsUnread.Visible unchangedLetters benchPeers ana roleViewer "device-1" := by
  refine ⟨by decide, ⟨?_, ?_, ?_, ?_, ?_⟩, by decide, by decide, by decide⟩
  · exact List.Subset.refl _
  · exact List.Subset.refl _
  · exact fun _ _ found => found
  · exact fun _ member => (List.not_mem_nil member).elim
  · exact fun _ member => (List.not_mem_nil member).elim

/-- When only the user's groups cannot be read, the device stays hidden. -/
theorem keepsScope_userGroupsUnread :
    ((∀ id, (benchPeers.lookup id).isSome →
          ((benchACL.reads ana).Visible unchangedLetters benchPeers ana roleViewer id ↔
            InScope unchangedLetters benchPeers benchACL ana id)) ∧
        ∀ id, (benchPeers.lookup id).isSome →
          userGroupsUnread.Visible unchangedLetters benchPeers ana roleViewer id →
          (benchACL.reads ana).Visible unchangedLetters benchPeers ana roleViewer id) := by
  have within : userGroupsUnread.Within benchACL ana := by
    refine ⟨List.Subset.refl _, List.nil_subset _, fun _ _ found => found, fun g member => ?_,
      fun _ member => (List.not_mem_nil member).elim⟩
    exact ⟨g, member, rfl, rfl, List.Subset.refl _, List.Subset.refl _, List.Subset.refl _⟩
  refine (keepsScope_iff_readsRestrictions unchangedLetters benchPeers benchACL userGroupsUnread ana
    roleViewer (by decide) within).mpr fun id listed _ => ?_
  have only : id = "device-1" := by
    by_contra other
    rw [benchPeers, AList.lookup_insert_ne other] at listed
    exact Bool.false_ne_true listed
  subst only
  exact ⟨_, rfl, Or.inr ⟨Or.inl (by decide), _, List.mem_cons_self, by decide, by decide⟩⟩

end SovaDesk.Api
