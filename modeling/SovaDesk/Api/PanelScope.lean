/-
This file compares the two device scopes: the console's, and the one that the API server computes
from the same tables for the desktop clients.

The server reads the tables with queries of its own. Groups whose guid looks like that of a folder
are left out there, and the access list of a folder is read from the group with exactly its guid;
names and IDs are trimmed in other places than in the console, tags are only split at commas, and
no list is cut. Both scopes follow one rule, and they agree where every field is read alike.
-/

import SovaDesk.Api.PeerScope
import SovaDesk.Console.DeviceScope

namespace SovaDesk.Api.PanelScope

open Auth Console Console.Scope

/-! ### The panel's tables -/

/-- `LIKE 'folder_%'`, which ignores the case of ASCII letters and where `_` is any character. -/
def likeFolder (guid : String) : Bool :=
  (guid.toList.take 6).map Char.toLower = "folder".toList && 6 < guid.length

/-- `ListDeviceGroupMemberPeerIDs`. -/
def listDeviceGroupMemberPeerIDs (group : DeviceGroup) : List String :=
  ((group.members.mergeSort (· ≤ ·)).map trimSpace).filter (· ≠ "")

/-- A row of `ListPanelDeviceGroups`. -/
def panelDeviceGroup (rowID : Guid → Int) (guid : Guid) (group : DeviceGroup) :
    PanelDeviceGroup where
  id := rowID guid
  guid := guid.val
  name := group.name
  note := group.note
  sourceType := group.source
  tagFilter := group.tagFilter
  allowedUsers := group.allowedUsers
  allowedGroupGUIDs := group.allowedGroups
  memberPeerIDs := listDeviceGroupMemberPeerIDs group

/-- `ListPanelDeviceGroups`: the groups without those that look like a folder's. -/
def listPanelDeviceGroups (rowID : Guid → Int) (c : Configuration) : List PanelDeviceGroup :=
  ((c.deviceGroups.entries.filter fun entry => !likeFolder entry.1.val).map fun entry =>
    panelDeviceGroup rowID entry.1 entry.2).mergeSort fun a b => a.name ≤ b.name

theorem folderGroupGUID_ne_empty (folderID : Int) : folderGroupGUID folderID ≠ "" := by
  intro empty
  have length := congrArg String.length empty
  rw [folderGroupGUID, String.length_append] at length
  exact absurd length (by simp)

/-- `FolderGroupAccess`: the access lists of the group that mirrors a folder. -/
def folderGroupAccess (c : Configuration) (folderID : Int) : List String × List String :=
  match c.deviceGroups.lookup ⟨folderGroupGUID folderID, folderGroupGUID_ne_empty folderID⟩ with
  | some group => (group.allowedUsers, group.allowedGroups)
  | none => ([], [])

def panelFolder (c : Configuration) (folder : Folder) : PanelFolder where
  id := folder.id
  name := folder.name
  allowedUsers := (folderGroupAccess c folder.id).1
  allowedGroups := (folderGroupAccess c folder.id).2

/-- `ListFolders`, with the access lists of each folder. -/
def listFolders (c : Configuration) : List PanelFolder :=
  (c.folders.mergeSort fun a b =>
    a.sortOrder < b.sortOrder || (a.sortOrder = b.sortOrder && a.name ≤ b.name)).map
      (panelFolder c)

/-- `ListFolderAssignments`. -/
def listFolderAssignments (c : Configuration) : Table String Int :=
  c.folderAssignments.entries.foldl (fun out entry =>
    if trimSpace entry.1 = "" then out else out.insert (trimSpace entry.1) entry.2) ∅

/-- `ListUserPeerGrants`. -/
def listUserPeerGrants (c : Configuration) (userID : Int) : List String :=
  if userID ≤ 0 then [] else ((c.peerGrants userID).map trimSpace).filter (· ≠ "")

/-- `ListUserGroupGUIDsForUser`. -/
def listUserGroupGUIDsForUser (c : Configuration) (userID : Int) : List String :=
  (c.memberships userID).filter (· ≠ "")

/-- `DeviceScopeDefaultRestricted`: the setting, or the environment where it is blank. -/
def deviceScopeDefaultRestricted (letters : Letters) (c : Configuration) (env : String) : Bool :=
  match c.settings.lookup "device_scope_default" with
  | some value =>
    if trimSpace value = "" then letters.equalFold (trimSpace env) "restricted"
    else letters.equalFold (trimSpace value) "restricted"
  | none => letters.equalFold (trimSpace env) "restricted"

/-- What the panel's queries make of the console's tables. -/
def panelACL (letters : Letters) (rowID : Guid → Int) (c : Configuration) (env : String) :
    PanelACL where
  userGroupGUIDs := listUserGroupGUIDsForUser c
  userPeerGrants := listUserPeerGrants c
  deviceGroups := listPanelDeviceGroups rowID c
  folders := listFolders c
  folderAssignments := listFolderAssignments c
  deviceScopeDefaultRestricted := deviceScopeDefaultRestricted letters c env

/-- The panel's database over the console's tables; the scope reads no other table of it. -/
def panelStore (letters : Letters) (rowID : Guid → Int) (c : Configuration) (env : String)
    (others : PanelStore) : PanelStore :=
  let acl := panelACL letters rowID c env
  { others with
    userGroupGUIDs := acl.userGroupGUIDs
    userPeerGrants := acl.userPeerGrants
    deviceGroups := some acl.deviceGroups
    folders := acl.folders
    folderAssignments := acl.folderAssignments
    deviceScopeDefaultRestricted := acl.deviceScopeDefaultRestricted }

/-! ### The server's rule -/

/-- A device of the inventory is visible to a user of the API server. -/
def ServerVisible (letters : Letters) (s : Inventory) (user : RustDeskUser) (role : String)
    (peerByID : Table String ListedPeer) (id : String) : Prop :=
  (peerByID.lookup id).isSome ∧
    (rustDeskVisiblePeerSet letters s user role peerByID).all (· id) = true

/-- The server's rule for a user. -/
def serverRule (letters : Letters) (peerByID : Table String ListedPeer) (acl : PanelACL)
    (user : RustDeskUser) : AccessRule String where
  restrictedDefault := acl.deviceScopeDefaultRestricted = true
  admitted := {id | (∃ c ∈ acl.containers letters peerByID, c.restricted = true ∧
    c.admits user.username (acl.groupsOf user) = true ∧ c.holds id = true) ∨
      (0 < user.id ∧ id ∈ acl.userPeerGrants user.id)}
  refused := {id | ∃ c ∈ acl.containers letters peerByID, c.restricted = true ∧
    c.admits user.username (acl.groupsOf user) = false ∧ c.holds id = true}

variable {letters : Letters} {peerByID : Table String ListedPeer}

theorem inScope_iff_visible {acl : PanelACL} {user : RustDeskUser} {id : String} :
    InScope letters peerByID acl user id ↔ (serverRule letters peerByID acl user).Visible id := by
  have free : (∀ c ∈ acl.containers letters peerByID, c.restricted = true → c.holds id = false) ↔
      (¬∃ c ∈ acl.containers letters peerByID, c.restricted = true ∧
        c.admits user.username (acl.groupsOf user) = true ∧ c.holds id = true) ∧
      ¬∃ c ∈ acl.containers letters peerByID, c.restricted = true ∧
        c.admits user.username (acl.groupsOf user) = false ∧ c.holds id = true := by
    constructor
    · intro unheld
      refine ⟨?_, ?_⟩
      all_goals
        rintro ⟨c, stored, restricted, -, holds⟩
        rw [unheld c stored restricted] at holds
        exact Bool.false_ne_true holds
    · -- a restricted container that holds the device either admits the user or refuses it
      rintro ⟨unadmitted, unrefused⟩ c stored restricted
      refine Bool.eq_false_iff.mpr fun holds => ?_
      cases admits : c.admits user.username (acl.groupsOf user) with
      | true => exact unadmitted ⟨c, stored, restricted, admits, holds⟩
      | false => exact unrefused ⟨c, stored, restricted, admits, holds⟩
  rw [InScope, free, AccessRule.visible_iff, ← Bool.not_eq_true]
  constructor
  · rintro (granted | admitted | ⟨unrestricted, -, unrefused⟩)
    · exact Or.inl (Or.inr granted)
    · exact Or.inl (Or.inl admitted)
    · exact Or.inr ⟨unrestricted, unrefused⟩
  · rintro ((admitted | granted) | ⟨unrestricted, unrefused⟩)
    · exact Or.inr (Or.inl admitted)
    · exact Or.inl granted
    · exact Or.inr ((em _).imp_right fun unadmitted => ⟨unrestricted, unadmitted, unrefused⟩)

/-- With a panel that answers, the server shows what its rule shows. -/
theorem serverVisible_iff {rowID : Guid → Int} {c : Configuration}
    {env : String} {others : PanelStore} {s : Inventory} {user : RustDeskUser} {role id : String}
    (connected : s.panelStore = some (panelStore letters rowID c env others))
    (limited : passesGroups role = false) :
    ServerVisible letters s user role peerByID id ↔
      (peerByID.lookup id).isSome ∧
        (serverRule letters peerByID (panelACL letters rowID c env) user).Visible id := by
  refine and_congr_right fun listed => ?_
  rw [rustDeskVisiblePeerSet_eq connected, ← inScope_iff_visible,
    ← visible_reads_iff_inScope limited listed]
  rfl

/-! ### Fields that are read alike -/

/-- What is known of the letters and the numbers of the console's language. -/
structure Documented (language : Language) : Prop where
  toLowerCase_eq_empty : ∀ text, language.toLowerCase text = "" ↔ text = ""
  parseInt_toString : ∀ n : Nat, n < 2 ^ 53 → language.parseInt (toString n) = some (n : Int)

/-- A list of names that the console takes over whole: none is blank or has white space at its ends,
and there are a hundred at most. -/
structure ReadWhole (names : List String) : Prop where
  trimmed : ∀ name ∈ names, trim name = name ∧ name ≠ ""
  short : names.eraseDups.length ≤ 100

/-- The tags of a device and the filter of a group are read alike: the tags are no JSON array, both
sides take the same for white space, and both compare the letters alike. -/
structure TagsAlike (language : Language) (letters : Letters) (tags filter : String) : Prop where
  noArray : language.parseArray tags = none
  spaces : ∀ text ∈ filter :: splitCommas tags, trim text = trimSpace text
  letters : ∀ tag ∈ splitCommas tags,
    letters.equalFold (trimSpace tag) (letters.toLower (trimSpace filter)) = true ↔
      language.toLowerCase (trimSpace tag) = language.toLowerCase (trimSpace filter)

/-- A group with an access list is read alike. Its guid is that of a folder which is there, or that
of a folder which is gone and holds no device, or looks like a folder's to neither side. -/
structure GroupAlike (language : Language) (letters : Letters) (c : Configuration)
    (peerByID : Table String ListedPeer) (guid : Guid) (group : DeviceGroup) : Prop where
  users : ReadWhole group.allowedUsers
  groups : ReadWhole group.allowedGroups
  guid : (∃ folder ∈ c.folders, guid.val = folderGroupGUID folder.id) ∨
    (∃ folderID, (0 ≤ folderID ∧ folderID < 2 ^ 53) ∧ guid.val = folderGroupGUID folderID ∧
      ∀ id, (peerByID.lookup id).isSome → c.folderAssignments.lookup id ≠ some folderID) ∨
    (likeFolder guid.val = false ∧ folderIDFromGroupGuid language guid.val = none)
  members : ∀ id ∈ group.members, trimSpace id = id
  tags : group.source = "tag" → ∀ id peer, peerByID.lookup id = some peer →
    TagsAlike language letters peer.tags group.tagFilter

/-- The fields of a configuration, an inventory and a user that the two sides read alike. -/
structure ReadAlike (language : Language) (letters : Letters) (c : Configuration) (env : String)
    (kept : Option Bool) (peerByID : Table String ListedPeer) (user : User) : Prop where
  identified : 0 < user.id
  session : user.userGroups = none
  memberships : ReadWhole (listUserGroupGUIDsForUser c user.id)
  grants : ∀ id ∈ c.peerGrants user.id, trimSpace id = id
  groups : ∀ guid group, c.deviceGroups.lookup guid = some group →
    (group.allowedUsers ≠ [] ∨ group.allowedGroups ≠ []) →
      GroupAlike language letters c peerByID guid group
  folders : ∀ folder ∈ c.folders, 0 ≤ folder.id ∧ folder.id < 2 ^ 53
  assignments : ∀ id folderID, c.folderAssignments.lookup id = some folderID →
    trimSpace id = id ∧ id ≠ ""
  ids : ∀ id, (peerByID.lookup id).isSome → trimSpace id = id
  setting : ∀ value, c.settings.lookup "device_scope_default" = some value →
    trimSpace value = value ∧ (letters.equalFold value "restricted" = true ↔
      language.toLowerCase value = "restricted")
  environment : letters.equalFold (trimSpace env) "restricted" = envRestricted language env
  kept : ∀ answer, kept = some answer →
    answer = isDeviceScopeRestrictedDefault language c (envRestricted language env) none

/-- The devices of the console are the server's, with the tags as they are stored. -/
structure SameInventory (peers : List Peer) (peerByID : Table String ListedPeer) : Prop where
  ids : ∀ id, (∃ peer ∈ peers, peer.id = id) ↔ (peerByID.lookup id).isSome
  tags : ∀ peer ∈ peers, ∀ stored, peerByID.lookup peer.id = some stored →
    peer.tags = .text stored.tags

/-! ### Names and the default -/

theorem normalizeNames_eq {names : List String} (whole : ReadWhole names) :
    normalizeNames names = names.eraseDups := by
  have same : trimmed names = names := by
    unfold Scope.trimmed
    rw [List.map_congr_left (fun name member => (whole.trimmed name member).1), List.map_id']
    exact List.filter_eq_self.mpr fun name member =>
      decide_eq_true (whole.trimmed name member).2
  rw [normalizeNames, same, List.take_of_length_le whole.short]

theorem isEmpty_eraseDups (names : List String) : names.eraseDups.isEmpty = names.isEmpty := by
  cases names with
  | nil => rfl
  | cons name names => rw [List.eraseDups_cons]; rfl

theorem contains_eraseDups (names : List String) (name : String) :
    names.eraseDups.contains name = names.contains name := by
  rw [Bool.eq_iff_iff, List.contains_iff_mem, List.contains_iff_mem, List.mem_eraseDups]

theorem any_eraseDups (names : List String) (p : String → Bool) :
    names.eraseDups.any p = names.any p := by
  rw [Bool.eq_iff_iff, List.any_eq_true, List.any_eq_true]
  simp only [List.mem_eraseDups]

/-- A stored default, the environment and an answer that is kept are read alike. -/
theorem restrictedDefault_eq {language : Language} {c : Configuration}
    {env : String} {kept : Option Bool} {user : User}
    (alike : ReadAlike language letters c env kept peerByID user) :
    isDeviceScopeRestrictedDefault language c (envRestricted language env) kept =
      deviceScopeDefaultRestricted letters c env := by
  have current : isDeviceScopeRestrictedDefault language c (envRestricted language env) kept =
      isDeviceScopeRestrictedDefault language c (envRestricted language env) none := by
    cases answer : kept with
    | none => rfl
    | some answered => exact alike.kept answered answer
  rw [current]
  unfold isDeviceScopeRestrictedDefault deviceScopeDefaultRestricted
  rw [Option.getD_none]
  cases stored : c.settings.lookup "device_scope_default" with
  | none => exact alike.environment.symm
  | some value =>
    obtain ⟨clean, folded⟩ := alike.setting value stored
    dsimp only
    rw [clean]
    by_cases blank : value = ""
    · subst blank
      exact alike.environment.symm
    · rw [if_neg blank, (truthy_eq_some (some value) value).mpr ⟨rfl, blank⟩]
      exact Bool.eq_iff_iff.mpr (decide_eq_true_iff.trans folded.symm)

/-! ### The guid of a folder -/

theorem toList_folderGroupGUID (n : Nat) :
    (folderGroupGUID n).toList = "folder_".toList ++ Nat.toDigits 10 n := by
  rw [folderGroupGUID, String.toList_append]
  exact congrArg _ Nat.toList_repr

variable {folderID : Int}

theorem likeFolder_folderGroupGUID (numbered : 0 ≤ folderID) :
    likeFolder (folderGroupGUID folderID) = true := by
  obtain ⟨n, rfl⟩ := Int.eq_ofNat_of_zero_le numbered
  have initial : (folderGroupGUID n).toList.take 6 = "folder".toList := by
    rw [toList_folderGroupGUID]
    rfl
  have long : 6 < (folderGroupGUID n).length := by
    rw [← String.length_toList, toList_folderGroupGUID, List.length_append]
    exact Nat.lt_add_right _ (by decide)
  rw [likeFolder, initial, decide_eq_true long]
  decide

theorem isWhiteSpace_of_isDigit {c : Char} (digit : c.isDigit = true) : isWhiteSpace c = false := by
  have range : 48 ≤ c.toNat ∧ c.toNat ≤ 57 := Char.isDigit_iff_toNat.mp digit
  unfold isWhiteSpace
  simp only [List.contains_cons, List.contains_nil, Bool.or_eq_false_iff, beq_eq_false_iff_ne,
    Bool.and_eq_false_iff, decide_eq_false_iff_not, and_true]
  omega

/-- The console reads the number of a folder back from the guid of its group. -/
theorem folderIDFromGroupGuid_folderGroupGUID {language : Language}
    (documented : Documented language) {n : Nat} (small : n < 2 ^ 53) :
    folderIDFromGroupGuid language (folderGroupGUID n) = some (n : Int) := by
  have digit : ∀ c ∈ Nat.toDigits 10 n, c.isDigit = true := fun c member =>
    Nat.isDigit_of_mem_toDigits (by decide) (by decide) member
  have untrimmed : trim (folderGroupGUID n) = folderGroupGUID n := by
    unfold trim
    rw [Text.trim_eq_self, String.ofList_toList]
    · rw [toList_folderGroupGUID]
      intro c first
      obtain rfl : 'f' = c := Option.some.inj first
      decide
    · rw [toList_folderGroupGUID]
      intro c last
      rw [List.getLast?_append_of_ne_nil _ Nat.toDigits_ne_nil] at last
      exact isWhiteSpace_of_isDigit (digit c (List.mem_of_getLast? last))
  unfold folderIDFromGroupGuid
  dsimp only
  have initial : (folderGroupGUID n).toList.take 7 = "folder_".toList := by
    rw [toList_folderGroupGUID]
    exact List.take_left' rfl
  have rest : (folderGroupGUID n).toList.drop 7 = Nat.toDigits 10 n := by
    rw [toList_folderGroupGUID]
    exact List.drop_left' rfl
  rw [untrimmed, initial, rest, if_pos ⟨by decide, Nat.toDigits_ne_nil, List.all_eq_true.mpr digit⟩,
    ← Nat.repr_eq_ofList_toDigits]
  exact documented.parseInt_toString n small

/-! ### Restrictions that are read alike -/

section alike

variable {language : Language} {letters : Letters} {c : Configuration} {env : String}
  {kept : Option Bool} {peerByID : Table String ListedPeer} {user : User} {rowID : Guid → Int}
  {guid : Guid} {group : DeviceGroup} {peers : List Peer} {id : String}

theorem lookup_listFolderAssignments
    (alike : ReadAlike language letters c env kept peerByID user) (id : String) :
    (listFolderAssignments c).lookup id = c.folderAssignments.lookup id := by
  have copied : listFolderAssignments c =
      (c.folderAssignments.entries.map fun entry => (entry.1, entry.2)).foldl
        (fun out entry => out.insert entry.1 entry.2) ∅ := by
    rw [List.foldl_map]
    refine List.foldl_ext _ _ _ fun out entry member => ?_
    obtain ⟨trimmed, nonempty⟩ :=
      alike.assignments entry.1 entry.2 (Table.mem_entries_iff.mp member)
    rw [trimmed, if_neg nonempty]
  rw [copied]
  exact Table.lookup_foldl_insert (List.Perm.refl _) id

theorem mem_normalizeTags_iff {tags filter t : String}
    (same : TagsAlike language letters tags filter) :
    t ∈ normalizeTags language (.text tags) ↔
      t ≠ "" ∧ ∃ tag ∈ splitCommas tags, trimSpace tag = t := by
  show (t ∈ if tags = "" then [] else _) ↔ _
  split
  · next blank =>
    subst blank
    refine iff_of_false List.not_mem_nil fun ⟨nonempty, tag, listed, trimmed⟩ => nonempty ?_
    obtain rfl : tag = "" := List.mem_singleton.mp listed
    exact trimmed.symm
  · rw [same.noArray]
    dsimp only
    rw [Scope.trimmed, List.mem_filter, List.mem_map, decide_eq_true_iff, and_comm]
    refine and_congr_right fun _ => exists_congr fun tag => and_congr_right fun listed => ?_
    rw [same.spaces tag (List.mem_cons_of_mem _ listed)]

/-- A device has a tag where one of its tags, cut out at commas and trimmed, has the same lower
case. -/
theorem hasTag_iff (documented : Documented language) {tags filter : String}
    (same : TagsAlike language letters tags filter) :
    hasTag language (.text tags) filter = true ↔ trimSpace filter ≠ "" ∧
      ∃ tag ∈ splitCommas tags,
        language.toLowerCase (trimSpace tag) = language.toLowerCase (trimSpace filter) := by
  have spaces : trim filter = trimSpace filter := same.spaces filter List.mem_cons_self
  have lowered : language.toLowerCase (trimSpace filter) ≠ "" ↔ trimSpace filter ≠ "" :=
    not_congr (documented.toLowerCase_eq_empty _)
  unfold hasTag
  rw [Bool.and_eq_true, decide_eq_true_iff, spaces, lowered, List.any_eq_true]
  refine and_congr_right fun nonempty => ?_
  simp only [decide_eq_true_iff, mem_normalizeTags_iff same]
  constructor
  · rintro ⟨t, ⟨-, tag, listed, rfl⟩, equal⟩
    exact ⟨tag, listed, equal⟩
  · rintro ⟨tag, listed, equal⟩
    refine ⟨trimSpace tag, ⟨fun empty => nonempty ?_, tag, listed, rfl⟩, equal⟩
    -- a blank tag has no letters, and the filter has some
    rw [(documented.toLowerCase_eq_empty _).mpr empty] at equal
    exact (documented.toLowerCase_eq_empty _).mp equal.symm

theorem peerHasTag_iff {stored : ListedPeer} {filter : String}
    (same : TagsAlike language letters stored.tags filter) :
    peerHasTag letters stored (letters.toLower (trimSpace filter)) = true ↔
      ∃ tag ∈ splitCommas stored.tags,
        language.toLowerCase (trimSpace tag) = language.toLowerCase (trimSpace filter) := by
  rw [peerHasTag, List.any_eq_true]
  exact exists_congr fun tag => and_congr_right fun listed => same.letters tag listed

/-- A group that is no folder's holds its members, and the devices with its tag. -/
theorem mem_getGroupPeerIds_iff (plain : folderIDFromGroupGuid language guid.val = none) :
    id ∈ getGroupPeerIds language guid group (peers.map c.device) ↔
      id ∈ group.members ∨ (group.source = "tag" ∧ group.tagFilter ≠ "") ∧
        ∃ peer ∈ peers, hasTag language peer.tags group.tagFilter = true ∧ peer.id = id := by
  unfold getGroupPeerIds
  rw [plain]
  dsimp only
  rw [List.mem_append]
  refine or_congr_right ?_
  split
  · next tagged =>
    rw [and_iff_right tagged]
    simp only [List.mem_map, List.mem_filter, exists_exists_and_eq_and, and_assoc]
    exact Iff.rfl
  · next untagged => exact iff_of_false List.not_mem_nil fun tagged => untagged tagged.1

theorem mem_keys_filter_iff {keep : String → ListedPeer → Bool} {candidate : String} :
    candidate ∈ (peerByID.filter keep).keys ↔
      ∃ stored, peerByID.lookup candidate = some stored ∧ keep candidate stored = true := by
  rw [← AList.mem_keys, ← AList.lookup_isSome, Option.isSome_iff_exists]
  simp only [Table.lookup_filter_iff]

/-- Trimming changes nothing in a list of trimmed IDs, and only the empty one is dropped. -/
theorem mem_trimmed_iff {items : List String} (trimmed : ∀ item ∈ items, trimSpace item = item)
    (nonempty : id ≠ "") : id ∈ (items.map trimSpace).filter (· ≠ "") ↔ id ∈ items := by
  rw [List.mem_filter, decide_eq_true_iff, and_iff_left nonempty,
    List.map_congr_left trimmed, List.map_id']

theorem mem_listDeviceGroupMemberPeerIDs_iff (members : ∀ id ∈ group.members, trimSpace id = id)
    (nonempty : id ≠ "") : id ∈ listDeviceGroupMemberPeerIDs group ↔ id ∈ group.members := by
  unfold listDeviceGroupMemberPeerIDs
  rw [mem_trimmed_iff (fun item member => members item (List.mem_mergeSort.mp member)) nonempty,
    List.mem_mergeSort]

/-- Both sides find the same devices in a group that is no folder's. -/
theorem mem_panelGroupPeerIDs_panelDeviceGroup (documented : Documented language)
    (alike : ReadAlike language letters c env kept peerByID user)
    (same : SameInventory peers peerByID)
    (groupAlike : GroupAlike language letters c peerByID guid group)
    (plain : folderIDFromGroupGuid language guid.val = none)
    (listed : (peerByID.lookup id).isSome) :
    id ∈ panelGroupPeerIDs letters (panelDeviceGroup rowID guid group) peerByID none ↔
      id ∈ getGroupPeerIds language guid group (peers.map c.device) := by
  obtain ⟨stored, found⟩ := Option.isSome_iff_exists.mp listed
  obtain ⟨peer, known, rfl⟩ := (same.ids id).mpr listed
  have nonempty : peer.id ≠ "" := peer.named
  have unspaced : ∀ {candidate}, trimSpace candidate = peer.id → candidate ≠ "" := by
    rintro candidate trimmed rfl
    exact nonempty trimmed.symm
  rw [mem_panelGroupPeerIDs_iff, mem_getGroupPeerIds_iff plain, and_iff_left ⟨nonempty, listed⟩]
  constructor
  · rintro ⟨candidate, member | ⟨⟨tagged, filter⟩, kept⟩, trimmed⟩
    · have member := (mem_listDeviceGroupMemberPeerIDs_iff groupAlike.members
        (unspaced trimmed)).mp member
      rw [groupAlike.members candidate member] at trimmed
      exact Or.inl (trimmed ▸ member)
    · obtain ⟨other, otherFound, hasTag⟩ := mem_keys_filter_iff.mp kept
      rw [alike.ids candidate (Option.isSome_of_eq_some otherFound)] at trimmed
      subst trimmed
      have tags := groupAlike.tags tagged peer.id other otherFound
      refine Or.inr ⟨⟨tagged, fun empty => filter ?_⟩, peer, known, ?_, rfl⟩
      · rw [show (panelDeviceGroup rowID guid group).tagFilter = "" from empty]
        rfl
      · rw [same.tags peer known other otherFound]
        exact (hasTag_iff documented tags).mpr ⟨filter, (peerHasTag_iff tags).mp hasTag⟩
  · rintro (member | ⟨⟨tagged, filter⟩, other, otherKnown, hasTag, named⟩)
    · exact ⟨peer.id, Or.inl ((mem_listDeviceGroupMemberPeerIDs_iff groupAlike.members
        nonempty).mpr member), groupAlike.members peer.id member⟩
    · have tags := groupAlike.tags tagged peer.id stored found
      rw [same.tags other otherKnown stored (named ▸ found)] at hasTag
      obtain ⟨filter, tag⟩ := (hasTag_iff documented tags).mp hasTag
      exact ⟨peer.id, Or.inr ⟨⟨tagged, filter⟩, mem_keys_filter_iff.mpr
        ⟨stored, found, (peerHasTag_iff tags).mpr tag⟩⟩, alike.ids peer.id listed⟩

/-- Both sides see the same groups as restricted. -/
theorem restricted_eq (users : ReadWhole group.allowedUsers)
    (groups : ReadWhole group.allowedGroups) :
    group.restricted = !(group.allowedUsers.isEmpty && group.allowedGroups.isEmpty) := by
  unfold DeviceGroup.restricted normalizeUsernames normalizeGroupGuids
  rw [normalizeNames_eq users, normalizeNames_eq groups, isEmpty_eraseDups, isEmpty_eraseDups,
    Bool.not_and]

theorem passesGroups_eq (role : String) : passesGroups role = passesScope role := by
  unfold passesGroups passesScope isSuperAdminRole roleSuperAdmin roleAdmin roleGlobalAdmin
    roleServerAdmin
  rw [Bool.eq_iff_iff]
  simp [or_assoc]

/-- Both sides admit the same users to a restricted group. -/
theorem groupAllowedForUser_eq (alike : ReadAlike language letters c env kept peerByID user)
    (limited : user.Limited) (users : ReadWhole group.allowedUsers)
    (groups : ReadWhole group.allowedGroups)
    (restricted : group.allowedUsers ≠ [] ∨ group.allowedGroups ≠ []) :
    groupAllowedForUser c group user =
      (group.allowedUsers.contains user.username ||
        group.allowedGroups.any
          ((panelACL letters rowID c env).groupsOf ⟨user.id, user.username⟩).contains) := by
  have own : (panelACL letters rowID c env).groupsOf ⟨user.id, user.username⟩ =
      listUserGroupGUIDsForUser c user.id := if_pos alike.identified
  have context : getUserAccessContext c user = listUserGroupGUIDsForUser c user.id := by
    unfold getUserAccessContext
    rw [alike.session]
    rfl
  have nonempty : (group.allowedUsers.isEmpty && group.allowedGroups.isEmpty) = false := by
    rw [Bool.and_eq_false_iff, List.isEmpty_eq_false_iff, List.isEmpty_eq_false_iff]
    exact restricted
  unfold groupAllowedForUser normalizeUsernames normalizeGroupGuids
  rw [normalizeNames_eq users, normalizeNames_eq groups, own, context,
    normalizeNames_eq alike.memberships, limited.2]
  dsimp only
  rw [isEmpty_eraseDups, isEmpty_eraseDups, nonempty, contains_eraseDups, any_eraseDups,
    funext (contains_eraseDups _), Bool.false_or, Bool.false_or]

/-- A group that names a folder holds the devices in that folder. -/
theorem mem_getGroupPeerIds_folder (documented : Documented language)
    (numbered : 0 ≤ folderID ∧ folderID < 2 ^ 53) (named : guid.val = folderGroupGUID folderID) :
    id ∈ getGroupPeerIds language guid group (peers.map c.device) ↔
      (∃ peer ∈ peers, peer.id = id) ∧ c.folderAssignments.lookup id = some folderID := by
  obtain ⟨n, rfl⟩ := Int.eq_ofNat_of_zero_le numbered.1
  have small : n < 2 ^ 53 := by
    have := numbered.2
    omega
  unfold getGroupPeerIds
  rw [named, folderIDFromGroupGuid_folderGroupGUID documented small]
  simp only [List.mem_map, List.mem_filter, exists_exists_and_eq_and, and_assoc,
    decide_eq_true_iff]
  constructor
  · rintro ⟨peer, known, assigned, rfl⟩
    exact ⟨⟨peer, known, rfl⟩, assigned⟩
  · rintro ⟨⟨peer, known, rfl⟩, assigned⟩
    exact ⟨peer, known, assigned, rfl⟩

/-- A container with the access lists of a group restricts, and admits, as the group does. -/
theorem container_iff (alike : ReadAlike language letters c env kept peerByID user)
    (limited : user.Limited) (found : c.deviceGroups.lookup guid = some group)
    (container : Container) (users : container.allowedUsers = group.allowedUsers)
    (groups : container.allowedGroups = group.allowedGroups) {admits : Bool} :
    (container.restricted = true ∧ container.admits user.username
        ((panelACL letters rowID c env).groupsOf ⟨user.id, user.username⟩) = admits) ↔
      group.restricted = true ∧ groupAllowedForUser c group user = admits := by
  unfold Container.restricted Container.admits
  rw [users, groups]
  by_cases listed : group.allowedUsers ≠ [] ∨ group.allowedGroups ≠ []
  · have groupAlike := alike.groups guid group found listed
    rw [restricted_eq groupAlike.users groupAlike.groups,
      groupAllowedForUser_eq alike limited groupAlike.users groupAlike.groups listed]
  · obtain ⟨noUsers, noGroups⟩ := not_or.mp listed
    unfold DeviceGroup.restricted
    rw [not_not.mp noUsers, not_not.mp noGroups]
    exact iff_of_false (fun both => absurd both.1 (by decide)) fun both => absurd both.1 (by decide)

theorem mem_groupIDs_iff {devices : List Device} {admits : Bool} :
    id ∈ groupIDs language c user devices admits ↔
      ∃ guid group, c.deviceGroups.lookup guid = some group ∧
        (group.restricted = true ∧ groupAllowedForUser c group user = admits) ∧
          id ∈ getGroupPeerIds language guid group devices := by
  unfold groupIDs Configuration.restrictedGroups
  simp only [List.mem_flatMap, List.mem_filter, List.mem_map, decide_eq_true_iff]
  constructor
  · rintro ⟨entry, ⟨⟨⟨stored, member, rfl⟩, restricted⟩, admits⟩, holds⟩
    exact ⟨stored.1, stored.2, Table.mem_entries_iff.mp member, ⟨restricted, admits⟩, holds⟩
  · rintro ⟨guid, group, found, ⟨restricted, admits⟩, holds⟩
    exact ⟨(guid, group), ⟨⟨⟨⟨guid, group⟩, Table.mem_entries_iff.mpr found, rfl⟩, restricted⟩,
      admits⟩, holds⟩

theorem listed_of_restricted (restricted : group.restricted = true) :
    group.allowedUsers ≠ [] ∨ group.allowedGroups ≠ [] := by
  by_contra unlisted
  obtain ⟨noUsers, noGroups⟩ := not_or.mp unlisted
  unfold DeviceGroup.restricted at restricted
  rw [not_not.mp noUsers, not_not.mp noGroups] at restricted
  exact absurd restricted (by decide)

theorem mem_listPanelDeviceGroups_iff {g : PanelDeviceGroup} :
    g ∈ listPanelDeviceGroups rowID c ↔ ∃ guid group, c.deviceGroups.lookup guid = some group ∧
      likeFolder guid.val = false ∧ panelDeviceGroup rowID guid group = g := by
  unfold listPanelDeviceGroups
  rw [List.mem_mergeSort]
  simp only [List.mem_map, List.mem_filter, Bool.not_eq_true', and_assoc]
  constructor
  · rintro ⟨entry, member, unlike, rfl⟩
    exact ⟨entry.1, entry.2, Table.mem_entries_iff.mp member, unlike, rfl⟩
  · rintro ⟨guid, group, found, unlike, rfl⟩
    exact ⟨⟨guid, group⟩, Table.mem_entries_iff.mpr found, unlike, rfl⟩

theorem mem_listFolders_iff {found : PanelFolder} :
    found ∈ listFolders c ↔ ∃ folder ∈ c.folders, panelFolder c folder = found := by
  unfold listFolders
  rw [List.mem_map]
  simp only [List.mem_mergeSort]

/-- A group that looks like no folder's to the server looks like none to the console. -/
theorem GroupAlike.plain (groupAlike : GroupAlike language letters c peerByID guid group)
    (numbered : ∀ folder ∈ c.folders, 0 ≤ folder.id ∧ folder.id < 2 ^ 53)
    (unlike : likeFolder guid.val = false) :
    folderIDFromGroupGuid language guid.val = none := by
  rcases groupAlike.guid with ⟨folder, stored, named⟩ | ⟨folderID, range, named, -⟩ | ⟨-, plain⟩
  · rw [named, likeFolder_folderGroupGUID (numbered folder stored).1] at unlike
    exact absurd unlike (by decide)
  · rw [named, likeFolder_folderGroupGUID range.1] at unlike
    exact absurd unlike (by decide)
  · exact plain

theorem folderGroupAccess_of_some
    (found : c.deviceGroups.lookup ⟨folderGroupGUID folderID, folderGroupGUID_ne_empty folderID⟩ =
      some group) :
    folderGroupAccess c folderID = (group.allowedUsers, group.allowedGroups) := by
  unfold folderGroupAccess
  rw [found]

/-- A folder with an access list has a group. -/
theorem exists_group_of_restricted {folder : Folder}
    (restricted : (folderContainer peerByID (listFolderAssignments c)
      (panelFolder c folder)).restricted = true) :
    ∃ group, c.deviceGroups.lookup
      ⟨folderGroupGUID folder.id, folderGroupGUID_ne_empty folder.id⟩ = some group := by
  cases found : c.deviceGroups.lookup
      ⟨folderGroupGUID folder.id, folderGroupGUID_ne_empty folder.id⟩ with
  | some group => exact ⟨group, rfl⟩
  | none =>
    unfold folderContainer panelFolder folderGroupAccess Container.restricted at restricted
    rw [found] at restricted
    exact absurd restricted Bool.false_ne_true

theorem folder_holds_iff (alike : ReadAlike language letters c env kept peerByID user)
    {folder : Folder} (listed : (peerByID.lookup id).isSome) :
    (folderContainer peerByID (listFolderAssignments c) (panelFolder c folder)).holds id = true ↔
      c.folderAssignments.lookup id = some folder.id := by
  unfold folderContainer
  rw [Bool.and_eq_true, beq_iff_eq, lookup_listFolderAssignments alike, and_iff_left listed]
  rfl

/-- The devices that the two sides find behind the restrictions which admit a user, or which refuse
the user, are the same. -/
theorem held_iff (documented : Documented language)
    (alike : ReadAlike language letters c env kept peerByID user)
    (same : SameInventory peers peerByID) (limited : user.Limited)
    (listed : (peerByID.lookup id).isSome) (admits : Bool) :
    (∃ container ∈ (panelACL letters rowID c env).containers letters peerByID,
        container.restricted = true ∧ container.admits user.username
          ((panelACL letters rowID c env).groupsOf ⟨user.id, user.username⟩) = admits ∧
        container.holds id = true) ↔
      id ∈ groupIDs language c user (peers.map c.device) admits := by
  have known := (same.ids id).mpr listed
  rw [mem_groupIDs_iff]
  constructor
  · rintro ⟨container, member, restricted, admitted, holds⟩
    rcases List.mem_append.mp member with member | member
    · obtain ⟨g, stored, rfl⟩ := List.mem_map.mp member
      obtain ⟨guid, group, found, unlike, rfl⟩ := mem_listPanelDeviceGroups_iff.mp stored
      have both := (container_iff alike limited found _ rfl rfl).mp ⟨restricted, admitted⟩
      have groupAlike := alike.groups guid group found (listed_of_restricted both.1)
      have plain := groupAlike.plain alike.folders unlike
      have held : id ∈ panelGroupPeerIDs letters (panelDeviceGroup rowID guid group) peerByID
          none := List.contains_iff_mem.mp holds
      exact ⟨guid, group, found, both, (mem_panelGroupPeerIDs_panelDeviceGroup documented alike same
        groupAlike plain listed).mp held⟩
    · obtain ⟨panelFolder, stored, rfl⟩ := List.mem_map.mp member
      obtain ⟨folder, folderStored, rfl⟩ := mem_listFolders_iff.mp stored
      obtain ⟨group, found⟩ := exists_group_of_restricted restricted
      have access := folderGroupAccess_of_some found
      have both := (container_iff alike limited found _ (congrArg Prod.fst access)
        (congrArg Prod.snd access)).mp ⟨restricted, admitted⟩
      have assigned := (folder_holds_iff alike listed).mp holds
      exact ⟨_, group, found, both, (mem_getGroupPeerIds_folder documented
        (alike.folders folder folderStored) rfl).mpr ⟨known, assigned⟩⟩
  · rintro ⟨guid, group, found, both, holds⟩
    have groupAlike := alike.groups guid group found (listed_of_restricted both.1)
    rcases groupAlike.guid with
      ⟨folder, stored, named⟩ | ⟨folderID, range, named, empty⟩ | ⟨unlike, plain⟩
    · obtain rfl : guid = ⟨folderGroupGUID folder.id, folderGroupGUID_ne_empty folder.id⟩ :=
        Subtype.ext named
      have access := folderGroupAccess_of_some found
      obtain ⟨restricted, admitted⟩ := (container_iff alike limited found
        (folderContainer peerByID (listFolderAssignments c) (panelFolder c folder))
        (congrArg Prod.fst access) (congrArg Prod.snd access)).mpr both
      refine ⟨_, List.mem_append_right _ (List.mem_map_of_mem (mem_listFolders_iff.mpr
        ⟨folder, stored, rfl⟩)), restricted, admitted, (folder_holds_iff alike listed).mpr ?_⟩
      exact ((mem_getGroupPeerIds_folder documented (alike.folders folder stored) named).mp holds).2
    · have assigned := ((mem_getGroupPeerIds_folder documented range named).mp holds).2
      exact absurd assigned (empty id listed)
    · obtain ⟨restricted, admitted⟩ := (container_iff alike limited found
        (groupContainer letters peerByID (panelDeviceGroup rowID guid group)) rfl rfl).mpr both
      refine ⟨_, List.mem_append_left _ (List.mem_map_of_mem (mem_listPanelDeviceGroups_iff.mpr
        ⟨guid, group, found, unlike, rfl⟩)), restricted, admitted, List.contains_iff_mem.mpr ?_⟩
      exact (mem_panelGroupPeerIDs_panelDeviceGroup documented alike same groupAlike plain
        listed).mpr holds

/-- The two scopes agree on a configuration, an inventory and a user whom the scope may restrict,
where every field is read alike. -/
theorem shown_iff_serverVisible (documented : Documented language)
    (alike : ReadAlike language letters c env kept peerByID user)
    (same : SameInventory peers peerByID) (limited : user.Limited) {s : Inventory}
    {others : PanelStore}
    (connected : s.panelStore = some (panelStore letters rowID c env others)) (id : String) :
    Shown language c (isDeviceScopeRestrictedDefault language c (envRestricted language env) kept)
        user peers id ↔
      ServerVisible letters s ⟨user.id, user.username⟩ user.role peerByID id := by
  have passes : passesGroups user.role = false := (passesGroups_eq user.role).trans limited.2
  rw [shown_iff_visible limited, serverVisible_iff connected passes, same.ids id]
  refine and_congr_right fun listed => ?_
  refine AccessRule.visible_congr ?_ ?_ ?_
  · exact Bool.eq_iff_iff.mp (restrictedDefault_eq alike)
  · obtain ⟨peer, -, rfl⟩ := (same.ids id).mpr listed
    refine or_congr (held_iff documented alike same limited listed true).symm ?_
    show _ ↔ 0 < user.id ∧ peer.id ∈ listUserPeerGrants c user.id
    rw [and_iff_right alike.identified, listUserPeerGrants, if_neg alike.identified.not_ge,
      mem_trimmed_iff alike.grants peer.named]
  · exact (held_iff documented alike same limited listed false).symm

end alike

/-! ### A tag that one side reads -/

/-- A language as far as lower-case letters, decimal digits and one array go. -/
def plainLanguage : Language where
  toLowerCase text := text
  parseArray text := if text = "[\"vip\",\"lab\"]" then some ["vip", "lab"] else none
  parseInt digits := some (Nat.ofDigitChars 10 digits.toList 0 : Nat)

theorem documented_plainLanguage : Documented plainLanguage where
  toLowerCase_eq_empty _ := Iff.rfl
  parseInt_toString n _ := by
    show some ((Nat.ofDigitChars 10 n.repr.toList 0 : Nat) : Int) = some (n : Int)
    rw [Nat.toList_repr, Nat.ofDigitChars_ten_toDigits]

theorem serversGuid_ne_empty : "g-1" ≠ "" := by decide

/-- The devices with the tag `vip` are for `alice`. -/
def vipConfiguration : Configuration where
  settings := ∅
  userGroups := ∅
  memberships := fun _ => []
  deviceGroups := AList.insert (⟨"g-1", serversGuid_ne_empty⟩ : Guid) {
    name := "servers"
    note := ""
    teamID := ""
    sourceType := "tag"
    tagFilter := "vip"
    allowedUsers := ["alice"]
    allowedGroups := []
    members := [] } ∅
  folders := []
  lastFolderID := 0
  folderAssignments := ∅
  strategies := ∅
  peerGrants := fun _ => []

def bob : User := ⟨2, "bob", "operator", none⟩

/-- One device with the given tags, as the server keeps it and as the console sees it. -/
def taggedPeer (tags : String) : Table String ListedPeer :=
  AList.insert "device-1" { tags := tags } ∅

theorem taggedDeviceID_ne_empty : "device-1" ≠ "" := by decide

def taggedDevice (tags : String) : List Peer := [⟨"device-1", .text tags, taggedDeviceID_ne_empty⟩]

/-- A server that is connected to the panel. -/
def panelServer : Inventory where
  peers := ∅
  addressBooks := fun _ _ => []
  users := ∅
  panelStore := some (panelStore unchangedLetters (fun _ => 1) vipConfiguration "" {
    userIDs := ∅
    userGroupGUIDs := fun _ => []
    userPeerGrants := fun _ => []
    deviceGroups := none
    folders := []
    folderAssignments := ∅
    peerSysinfo := ∅
    deviceScopeDefaultRestricted := false })
  isOnline := fun _ => false

theorem sameInventory_tagged (tags : String) :
    SameInventory (taggedDevice tags) (taggedPeer tags) where
  ids id := by
    constructor
    · rintro ⟨peer, known, rfl⟩
      obtain rfl := List.mem_singleton.mp known
      rfl
    · intro listed
      have named : id = "device-1" := by
        by_contra other
        rw [taggedPeer, AList.lookup_insert_ne other] at listed
        exact Bool.false_ne_true listed
      exact ⟨_, List.mem_cons_self, named.symm⟩
  tags peer known stored found := by
    obtain rfl := List.mem_singleton.mp known
    obtain rfl := Table.eq_of_lookup_insert found
    rfl

theorem limited_bob : bob.Limited := ⟨by decide, by decide⟩

/-- Stored as a JSON array, the tag is read by the console only: it hides the device from `bob`, and
the server shows it. -/
theorem arrayTags_shown :
    SameInventory (taggedDevice "[\"vip\",\"lab\"]") (taggedPeer "[\"vip\",\"lab\"]") ∧
      bob.Limited ∧ Documented plainLanguage ∧
      ¬(Shown plainLanguage vipConfiguration
          (isDeviceScopeRestrictedDefault plainLanguage vipConfiguration
            (envRestricted plainLanguage "") none)
          bob (taggedDevice "[\"vip\",\"lab\"]") "device-1" ↔
        ServerVisible unchangedLetters panelServer ⟨2, "bob"⟩ "operator"
          (taggedPeer "[\"vip\",\"lab\"]") "device-1") := by
  refine ⟨sameInventory_tagged _, limited_bob, documented_plainLanguage, fun agree => ?_⟩
  have shown : ServerVisible unchangedLetters panelServer ⟨2, "bob"⟩ "operator"
      (taggedPeer "[\"vip\",\"lab\"]") "device-1" := by
    refine ⟨rfl, ?_⟩
    decide +kernel
  have scope : getDeviceScopeForUser plainLanguage vipConfiguration
      (isDeviceScopeRestrictedDefault plainLanguage vipConfiguration
        (envRestricted plainLanguage "") none) bob
      ((taggedDevice "[\"vip\",\"lab\"]").map vipConfiguration.device) = some [] := by
    decide +kernel
  exact List.not_mem_nil ((shown_iff.mp (agree.mpr shown)).2 [] scope)

/-- Stored as a comma list, the tag is read by both sides. -/
theorem shown_iff_serverVisible_list :
    Shown plainLanguage vipConfiguration
        (isDeviceScopeRestrictedDefault plainLanguage vipConfiguration
          (envRestricted plainLanguage "") none)
        bob (taggedDevice "lab, vip") "device-1" ↔
      ServerVisible unchangedLetters panelServer ⟨2, "bob"⟩ "operator" (taggedPeer "lab, vip")
        "device-1" := by
  have known : ∀ {id stored}, (taggedPeer "lab, vip").lookup id = some stored →
      id = "device-1" ∧ stored = { tags := "lab, vip" } := by
    intro id stored found
    rcases Table.lookup_insert_iff.mp found with only | ⟨-, absent⟩
    · exact only
    · exact absurd absent (Option.some_ne_none stored).symm
  have tags : TagsAlike plainLanguage unchangedLetters "lab, vip" "vip" :=
    ⟨by decide +kernel, by decide +kernel, by decide +kernel⟩
  have alike : ReadAlike plainLanguage unchangedLetters vipConfiguration "" none
      (taggedPeer "lab, vip") bob := by
    refine ⟨by decide, rfl, ⟨fun _ member => absurd member List.not_mem_nil, by decide⟩,
      fun _ member => absurd member List.not_mem_nil, fun guid group found _ => ?_,
      fun _ member => absurd member List.not_mem_nil,
      fun _ folderID assigned => absurd assigned (Option.some_ne_none folderID).symm,
      fun id listed => ?_, fun value stored => absurd stored (Option.some_ne_none value).symm,
      by decide +kernel, fun answer unkept => absurd unkept (Option.some_ne_none answer).symm⟩
    · rcases Table.lookup_insert_iff.mp found with ⟨rfl, rfl⟩ | ⟨-, absent⟩
      · refine ⟨⟨by decide +kernel, by decide⟩, ⟨fun _ member => absurd member List.not_mem_nil,
          by decide⟩, Or.inr (Or.inr ⟨by decide +kernel, by decide +kernel⟩),
          fun _ member => absurd member List.not_mem_nil, fun _ id stored found => ?_⟩
        obtain ⟨rfl, rfl⟩ := known found
        exact tags
      · exact absurd absent (Option.some_ne_none group).symm
    · obtain ⟨stored, found⟩ := Option.isSome_iff_exists.mp listed
      obtain ⟨rfl, -⟩ := known found
      decide +kernel
  exact shown_iff_serverVisible documented_plainLanguage alike (sameInventory_tagged _) limited_bob
    rfl "device-1"

end SovaDesk.Api.PanelScope
