/-
This file models the peer list of the desktop clients: `buildRustDeskPeerList` with what
it reads from the server's database and from the panel's.

The devices a user sees are found in three steps. The inventory is the peers table, or
the user's address books for a role that may not browse it; the device groups and folders
of the panel restrict it to the user's scope; a folder, a group or tags of the request
narrow it further. The rows end up in a map, and the answer lists them in the order in
which Go runs through it, which may be another one in every request. The other loops over
maps fill sets, so their order leaves no trace.
-/

import SovaDesk.Auth.Roles
import SovaDesk.Auth.Token
import SovaDesk.Lib.Table
import SovaDesk.Signal.Relay

namespace SovaDesk.Api

open Auth

/-! ### Text -/

/-- `strings.ToLower` and `strings.EqualFold`, which follow Unicode's tables. -/
structure Letters where
  toLower : String → String
  equalFold : String → String → Bool

/-- `strings.Split` at commas. -/
def splitCommas (text : String) : List String := (text.toList.splitOn ',').map String.ofList

/-- `strconv.ParseInt` for decimal text: a sign is optional and the number has to fit into
64 bits. -/
def parseInt (text : List Char) : Option Int :=
  let negative := text.head? = some '-'
  let digits := if text.head? = some '+' ∨ negative then text.drop 1 else text
  let value : Nat := digits.foldl (fun value digit => 10 * value + (digit.toNat - 48)) 0
  if digits ≠ [] ∧ digits.all (·.isDigit) ∧
      (if negative then value ≤ 2 ^ 63 else value < 2 ^ 63) then
    some (if negative then -(value : Int) else value)
  else none

/-! ### The databases -/

/-- The columns of the peers table that the list reads, beside its key, the ID. -/
structure ListedPeer where
  hostname : String := ""
  user : String := ""
  os : String := ""
  version : String := ""
  note : String := ""
  tags : String := ""
  disabled : Bool := false
  banned : Bool := false
  softDeleted : Bool := false
  deriving DecidableEq

/-- An entry of an address book; a field that holds no text is empty. -/
structure AddressBookPeer where
  id : String
  aliasName : String

structure RustDeskUser where
  id : Int
  username : String

/-- A device group of the panel with its access lists and its members. -/
structure PanelDeviceGroup where
  id : Int
  guid : String
  name : String
  note : String
  sourceType : String
  tagFilter : String
  allowedUsers : List String
  allowedGroupGUIDs : List String
  memberPeerIDs : List String

/-- A folder of the panel with the access lists of the group that mirrors it. -/
structure PanelFolder where
  id : Int
  name : String
  allowedUsers : List String
  allowedGroups : List String

structure ConsolePeerSysinfo where
  hostname : String
  username : String
  platform : String
  version : String

/-- The panel's database; the device groups are `none` when they cannot be read. -/
structure PanelStore where
  userIDs : Table String Int
  userGroupGUIDs : Int → List String
  userPeerGrants : Int → List String
  deviceGroups : Option (List PanelDeviceGroup)
  folders : List PanelFolder
  folderAssignments : Table String Int
  peerSysinfo : Table String ConsolePeerSysinfo
  deviceScopeDefaultRestricted : Bool

/-- What the API server reads for the list: its own database, the panel's if it is connected, and
which devices are online. -/
structure Inventory where
  peers : Table String ListedPeer
  addressBooks : String → String → List AddressBookPeer
  users : Table String RustDeskUser
  panelStore : Option PanelStore
  isOnline : String → Bool

/-! ### Requests -/

/-- A value of the JSON object in a body; a number is the one it truncates to. -/
inductive QueryValue
  | text (value : String)
  | number (value : Int)
  | other

/-- An authenticated request: the name and the role of its context, the account the context may
hold, the query, and the JSON object a POST request may have as its body. -/
structure PeerListRequest where
  username : String
  role : String
  contextUser : Option RustDeskUser
  query : String → List String
  body : Option (Table String QueryValue)

def stringifyQueryVal : QueryValue → String
  | .text value => value
  | .number value => toString value
  | .other => ""

/-- The values of a parameter: the body takes the place of the query. -/
def PeerListRequest.values (r : PeerListRequest) (key : String) : List String :=
  match r.body.bind fun body => body.lookup key with
  | some value => [stringifyQueryVal value]
  | none => r.query key

def PeerListRequest.get (r : PeerListRequest) (key : String) : String := (r.values key).headD ""

structure PeerListParams where
  page : Nat
  pageSize : Nat
  folderID : Option Int
  groupRef : String
  tags : List String

def groupRefKeys : List String :=
  ["folder_id", "folderId", "folder", "folder_name", "folderName", "device_group_guid",
    "deviceGroupGuid", "device_group_id", "deviceGroupId", "device_group", "deviceGroup",
    "group_guid", "groupGuid", "group_id", "groupId", "group_name", "groupName", "group"]

def firstQueryGroupRef (r : PeerListRequest) : String :=
  (((groupRefKeys.flatMap r.values).map trimSpace).find? (· ≠ "")).getD ""

def folderIDFromGroupRef (letters : Letters) (ref : String) : Option Int :=
  let ref := trimSpace ref
  if ref = "" then none
  else
    let named := "folder_".toList.isPrefixOf (letters.toLower ref).toList
    parseInt (if named then ref.toList.drop 7 else ref.toList)

/-- `splitQueryTags`: the tags of all values, each once. -/
def splitQueryTags (letters : Letters) (values : List String) : List String :=
  ((values.flatMap splitCommas).map trimSpace).foldl (fun out part =>
    if part = "" ∨ letters.toLower part ∈ out.map letters.toLower then out
    else out ++ [part]) []

def tagKeys : List String := ["tag", "tags", "tag_filter", "tagFilter"]

/-- A parameter that holds a positive number. -/
def PeerListRequest.positive (r : PeerListRequest) (key : String) : Option Nat :=
  Signal.positiveNumber (r.get key).toList

/-- `parseRustDeskPeerListParams`. -/
def parseRustDeskPeerListParams (letters : Letters) (r : PeerListRequest) : PeerListParams where
  page := (r.positive "page").getD 1
  pageSize := min ((r.positive "pageSize").getD ((r.positive "page_size").getD 100)) 200
  folderID := folderIDFromGroupRef letters (firstQueryGroupRef r)
  groupRef := firstQueryGroupRef r
  tags := splitQueryTags letters (tagKeys.map r.get)

/-! ### Users and roles -/

def canBrowseRustDeskInventory (role : String) : Bool :=
  role != rolePro && roleHasPermission role "device.view"

/-- The roles that no device group restricts. -/
def passesGroups (role : String) : Bool :=
  isSuperAdminRole role || role == roleGlobalAdmin || role == roleServerAdmin

/-- `rustDeskUserForGroups`: the account in the server's database, under the ID the panel knows it
by; or the account of the context; or one made up from the name. -/
def rustDeskUserForGroups (s : Inventory) (r : PeerListRequest) : RustDeskUser :=
  let panelID := s.panelStore.bind fun panel => panel.userIDs.lookup (trimSpace r.username)
  match s.users.lookup r.username with
  | some user =>
    if 0 < user.id then { user with id := (panelID.filter (0 < ·)).getD user.id } else user
  | none => r.contextUser.getD ⟨panelID.getD 0, r.username⟩

def consoleUserGroupGUIDs (s : Inventory) (userID : Int) : List String :=
  match s.panelStore with
  | some panel => if 0 < userID then panel.userGroupGUIDs userID else []
  | none => []

/-- `panelAccessAllowed`: the access lists admit a user; empty lists admit everyone. -/
def panelAccessAllowed (user : RustDeskUser) (role : String) (userGroupGUIDs : List String)
    (allowedUsers allowedGroups : List String) : Bool :=
  passesGroups role || (allowedUsers.isEmpty && allowedGroups.isEmpty) ||
    allowedUsers.contains user.username || allowedGroups.any userGroupGUIDs.contains

def panelGroupAllowedForUser (g : PanelDeviceGroup) (user : RustDeskUser) (role : String)
    (userGroupGUIDs : List String) : Bool :=
  panelAccessAllowed user role userGroupGUIDs g.allowedUsers g.allowedGroupGUIDs

/-! ### Devices -/

def peerHasTag (letters : Letters) (p : ListedPeer) (tagLower : String) : Bool :=
  (splitCommas p.tags).any fun tag => letters.equalFold (trimSpace tag) tagLower

def peerHasTagLower (letters : Letters) (p : ListedPeer) (tagLower : String) : Bool :=
  (splitCommas p.tags).any fun tag => letters.toLower (trimSpace tag) == tagLower

def peerHasAllTagsLower (letters : Letters) (p : ListedPeer) (expected : List String) : Bool :=
  expected.all fun tag => peerHasTagLower letters p (letters.toLower (trimSpace tag))

/-- The IDs in the user's address books. -/
def addressBookPeerIDs (s : Inventory) (username : String) : List String :=
  ((["legacy", "personal"].flatMap (s.addressBooks username)).map (·.id)).filter (· ≠ "")

/-- `loadAddressBookPeerMap`: a later entry of a device takes the place of an earlier one. -/
def loadAddressBookPeerMap (s : Inventory) (username : String) : Table String AddressBookPeer :=
  (s.addressBooks username "legacy").foldl (fun out entry =>
    if entry.id = "" then out else out.insert entry.id entry) ∅

/-- A row that may be listed: neither banned nor deleted nor disabled. -/
def ListedPeer.active (p : ListedPeer) : Bool := !(p.banned || p.softDeleted || p.disabled)

/-- `loadRustDeskPeerByID`: the devices a role starts from, and the address book if it is limited to
it. -/
def loadRustDeskPeerByID (s : Inventory) (username role : String) :
    Table String ListedPeer × Option (List String) :=
  let active := s.peers.filter fun _ p => p.active
  if canBrowseRustDeskInventory role then (active, none)
  else
    let allowedIDs := addressBookPeerIDs s username
    (active.filter fun id _ => allowedIDs.contains id, some allowedIDs)

/-- `panelGroupPeerIDs`: the devices of a group among the given ones, its members first and then
those with the group's tag. -/
def panelGroupPeerIDs (letters : Letters) (g : PanelDeviceGroup)
    (peerByID : Table String ListedPeer) (visiblePeer : Option (String → Bool)) : List String :=
  let filter := trimSpace g.tagFilter
  let tagged :=
    if g.sourceType = "tag" ∧ filter ≠ "" then
      (peerByID.filter fun _ p => peerHasTag letters p (letters.toLower filter)).keys
    else []
  (((g.memberPeerIDs ++ tagged).map trimSpace).filter fun id =>
    id != "" && visiblePeer.all (· id) && (peerByID.lookup id).isSome).eraseDups

/-- `rustDeskVisiblePeerSet`: the devices in the user's scope, `none` for all of them. -/
def rustDeskVisiblePeerSet (letters : Letters) (s : Inventory) (user : RustDeskUser)
    (role : String) (peerByID : Table String ListedPeer) : Option (String → Bool) :=
  if passesGroups role then none
  else
    match s.panelStore with
    | none => none
    | some panel =>
      match panel.deviceGroups with
      | none => none
      | some panelGroups =>
        let peerGrants := if 0 < user.id then panel.userPeerGrants user.id else []
        let guids := consoleUserGroupGUIDs s user.id
        let groups := panelGroups.filter fun g =>
          !(g.allowedUsers.isEmpty && g.allowedGroupGUIDs.isEmpty)
        let folders := panel.folders.filter fun folder =>
          !(folder.allowedUsers.isEmpty && folder.allowedGroups.isEmpty)
        if groups.isEmpty && folders.isEmpty && peerGrants.isEmpty then
          if panel.deviceScopeDefaultRestricted then some fun _ => false else none
        else
          -- the devices of the restricted groups and folders that do, or do not, admit the user
          let held := fun (admits : Bool) (id : String) =>
            (groups.any fun g => panelGroupAllowedForUser g user role guids == admits &&
              (panelGroupPeerIDs letters g peerByID none).contains id) ||
            folders.any fun folder =>
              panelAccessAllowed user role guids folder.allowedUsers folder.allowedGroups ==
                admits &&
              panel.folderAssignments.lookup id == some folder.id && (peerByID.lookup id).isSome
          let allowed := fun id => held true id || peerGrants.contains id
          if panel.deviceScopeDefaultRestricted then some allowed
          else some fun id => (peerByID.lookup id).isSome && (!held false id || allowed id)

/-! ### Groups -/

structure RustDeskGroup where
  guid : String
  name : String
  note : String
  peerIDs : List String

def folderGroupGUID (folderID : Int) : String := "folder_" ++ toString folderID

def isFolderGroupGUID (letters : Letters) (guid : String) : Bool :=
  "folder_".toList.isPrefixOf (letters.toLower (trimSpace guid)).toList

/-- `buildRustDeskDeviceGroupsFromContext`: the panel's groups that admit the user, and its folders
as groups. -/
def buildRustDeskDeviceGroupsFromContext (letters : Letters) (s : Inventory)
    (user : RustDeskUser) (role : String) (peerByID : Table String ListedPeer)
    (assignments : Table String Int) : List RustDeskGroup :=
  let visiblePeer := rustDeskVisiblePeerSet letters s user role peerByID
  let guids := consoleUserGroupGUIDs s user.id
  match s.panelStore with
  | none => []
  | some panel =>
    let groups := (panel.deviceGroups.getD []).filter fun g =>
      panelGroupAllowedForUser g user role guids
    let folders := panel.folders.filter fun folder =>
      panelAccessAllowed user role guids folder.allowedUsers folder.allowedGroups
    (groups.map fun g => ⟨g.guid, g.name, g.note,
      panelGroupPeerIDs letters g peerByID visiblePeer⟩) ++
    folders.map fun folder => ⟨folderGroupGUID folder.id, folder.name, "",
      (assignments.filter fun id folderID => folderID == folder.id && visiblePeer.all (· id) &&
        (peerByID.lookup id).isSome).keys⟩

/-- `buildRustDeskPeerManualGroupNames`: the first group of a device that is no folder. -/
def buildRustDeskPeerManualGroupNames (letters : Letters) (groups : List RustDeskGroup)
    (id : String) : String :=
  ((groups.find? fun g => !isFolderGroupGUID letters g.guid && g.peerIDs.contains id).map
    (·.name)).getD ""

/-- `rustDeskPeerDeviceGroupName`: a folder with a name wins over a group. -/
def rustDeskPeerDeviceGroupName (assignments : Table String Int) (folderNames : Int → String)
    (manualGroupNames : String → String) (id : String) : String :=
  let folderName := ((assignments.lookup id).map folderNames).getD ""
  if folderName ≠ "" then folderName else manualGroupNames id

/-- `filterPeersByRustDeskParams`: a folder, else a group or a tag of that name, else all tags. -/
def filterPeersByRustDeskParams (letters : Letters) (s : Inventory)
    (peerByID : Table String ListedPeer) (assignments : Table String Int)
    (params : PeerListParams) (user : RustDeskUser) (role : String) : Table String ListedPeer :=
  match params.folderID with
  | some folderID =>
    -- a device without a folder counts as one in folder 0
    peerByID.filter fun id _ => (assignments.lookup id).getD 0 == folderID
  | none =>
    if params.groupRef ≠ "" then
      let groups := buildRustDeskDeviceGroupsFromContext letters s user role peerByID assignments
      let ref := trimSpace params.groupRef
      match groups.find? fun g => letters.equalFold g.guid ref || letters.equalFold g.name ref with
      | some g => peerByID.filter fun id _ => g.peerIDs.contains id
      | none =>
        if letters.toLower ref ≠ "" then
          peerByID.filter fun _ p => peerHasTagLower letters p (letters.toLower ref)
        else ∅
    else if params.tags ≠ [] then
      peerByID.filter fun _ p => peerHasAllTagsLower letters p params.tags
    else peerByID

/-! ### The list -/

/-- A device as the clients receive it. -/
structure RustDeskPeer where
  id : String
  deviceName : String
  os : String
  username : String
  version : String
  status : Nat
  note : String
  deviceGroupName : String
  tags : List String
  online : Bool
  aliasName : String
  deriving DecidableEq

def splitPeerTags (raw : String) : List String :=
  ((splitCommas raw).map trimSpace).filter (· ≠ "")

/-- The first of two texts that is not empty. -/
def nonemptyOr (text other : String) : String := if text ≠ "" then text else other

/-- `rustDeskPeerPayload`. -/
def rustDeskPeerPayload (s : Inventory) (deviceGroupName : String → String)
    (sysinfo : Table String ConsolePeerSysinfo) (abPeer : Table String AddressBookPeer)
    (id : String) (p : ListedPeer) : RustDeskPeer :=
  let info := sysinfo.lookup id
  let reported := fun (field : ConsolePeerSysinfo → String) => (info.map field).getD ""
  { id := id
    deviceName := nonemptyOr (nonemptyOr (reported (·.hostname)) p.hostname) id
    os := nonemptyOr (reported (·.platform)) p.os
    username := nonemptyOr (reported (·.username)) p.user
    version := nonemptyOr (reported (·.version)) p.version
    status := if p.disabled then 0 else 1
    note := p.note
    deviceGroupName := deviceGroupName id
    tags := splitPeerTags p.tags
    online := s.isOnline id
    aliasName := nonemptyOr (((abPeer.lookup id).map (·.aliasName)).getD "") p.note }

/-- The devices that a user sees under the filters of a request; `none` when the role or an empty
address book ends the request before. -/
def visiblePeers (letters : Letters) (s : Inventory) (r : PeerListRequest) :
    Option (Table String ListedPeer) :=
  if r.username = "" ∨ r.role = rolePro ∨ !roleHasPermission r.role "device.view" then none
  else
    let user := rustDeskUserForGroups s r
    let (peerByID, allowedIDs) := loadRustDeskPeerByID s r.username r.role
    let browses := canBrowseRustDeskInventory r.role
    if !browses && (allowedIDs.getD []).isEmpty then none
    else
      let visiblePeer := rustDeskVisiblePeerSet letters s user r.role peerByID
      let peerByID := peerByID.filter fun id _ =>
        (browses || (allowedIDs.getD []).contains id) && visiblePeer.all (· id)
      let assignments := (s.panelStore.map (·.folderAssignments)).getD ∅
      some (filterPeersByRustDeskParams letters s peerByID assignments
        (parseRustDeskPeerListParams letters r) user r.role)

/-- An order in which Go may run through the entries of a map. -/
structure Traversal where
  visit : Table String ListedPeer → List (Sigma fun _ : String => ListedPeer)
  perm : ∀ table, (visit table).Perm table.entries

/-- The part of the result that is one page; the product is one of 64-bit integers. -/
def slicePage {Row : Type} (page pageSize : Nat) (result : List Row) : List Row :=
  if 0 < pageSize ∧ pageSize < result.length then
    let start := ((((page - 1) * pageSize : Nat) : Int).bmod (2 ^ 64)).toNat
    if result.length ≤ start then [] else (result.drop start).take pageSize
  else result

/-- `buildRustDeskPeerList`: a page of the list and the number of devices on all pages, when Go runs
through the map in the given order. -/
def buildRustDeskPeerList (letters : Letters) (s : Inventory) (order : Traversal)
    (r : PeerListRequest) : List RustDeskPeer × Nat :=
  match visiblePeers letters s r with
  | none => ([], 0)
  | some peerByID =>
    let params := parseRustDeskPeerListParams letters r
    let panel := s.panelStore
    let assignments := (panel.map (·.folderAssignments)).getD ∅
    let folderNames := fun (id : Int) =>
      ((((panel.map (·.folders)).getD []).reverse.find? (·.id = id)).map (·.name)).getD ""
    let groups := buildRustDeskDeviceGroupsFromContext letters s (rustDeskUserForGroups s r) r.role
      peerByID assignments
    let deviceGroupName := rustDeskPeerDeviceGroupName assignments folderNames
      (buildRustDeskPeerManualGroupNames letters groups)
    let sysinfo := (panel.map (·.peerSysinfo)).getD ∅
    let abPeer := loadAddressBookPeerMap s r.username
    let result := (order.visit peerByID).map fun entry =>
      rustDeskPeerPayload s deviceGroupName sysinfo abPeer entry.1 entry.2
    (slicePage params.page params.pageSize result, result.length)

end SovaDesk.Api
