/-
This file verifies the validation of CDAP manifests and settles whether what it accepts is honoured.

Validation trims and lowers some fields in place, and a manifest it has accepted it accepts again as
it is. Capabilities are looked up in lower case but left as they are spelled, while the sessions
look for exact texts: a device whose manifest spells remote_desktop in another way is connected and
then refused.
-/

import SovaDesk.Auth.Token
import SovaDesk.Lib.Text

namespace SovaDesk.Cdap.Manifests

open SovaDesk.Auth

/-! ### Manifests -/

def isLower (c : Char) : Bool := 'a' ≤ c && c ≤ 'z' || c == '_'

/-- `strings.ToLower`, of which only this is used: text in lower case letters stays as it is. -/
structure Letters where
  toLower : String → String
  fixed : ∀ text : String, text.toList.all isLower = true → toLower text = text

/-- The roles that the operations on a widget ask for; an empty one asks for none. -/
structure WidgetPermissions where
  read : String
  control : String
  execute : String
  deriving DecidableEq

/-- What the validation looks at of a widget. -/
structure Widget where
  type : String
  id : String
  label : String
  permissions : Option WidgetPermissions
  deriving DecidableEq

structure AlertDef where
  id : String
  label : String
  severity : String
  condition : String
  message : String
  deriving DecidableEq

/-- What the validation looks at of the device. -/
structure ManifestDevice where
  name : String
  type : String
  tags : List String
  deriving DecidableEq

/-- A manifest, without the fields of the bridge. -/
structure Manifest where
  manifestVersion : String
  device : ManifestDevice
  capabilities : List String
  heartbeatInterval : Int
  widgets : List Widget
  alerts : List AlertDef
  deriving DecidableEq

def allowedDeviceTypes : List String :=
  ["scada", "iot", "os_agent", "network", "camera", "desktop", "custom"]

def allowedWidgetTypes : List String :=
  ["toggle", "gauge", "button", "led", "chart", "select", "slider", "text", "table", "terminal",
    "desktop", "video_stream", "file_browser"]

def allowedCapabilities : List String :=
  ["telemetry", "commands", "alerts", "logs", "remote_desktop", "video_stream", "audio",
    "clipboard", "file_transfer", "input_control"]

def allowedSeverities : List String := ["critical", "warning", "info"]

def maxWidgets : Nat := 200

def allowedRoles : List String := ["admin", "operator", "viewer"]

/-! ### Validation -/

def validateVersion (version : String) : Except String String :=
  let version := if version = "" then "1.0" else version
  if version ≠ "1.0" then .error ("unsupported manifest version: " ++ version) else .ok version

def validateName (name : String) : Except String String :=
  let name := trimSpace name
  if name = "" then .error "device name is required"
  else if 128 < name.utf8ByteSize then .error "device name too long (max 128 chars)"
  else .ok name

/-- Trimmed and in lower case. -/
def folded (letters : Letters) (text : String) : String := letters.toLower (trimSpace text)

def validateType (letters : Letters) (type : String) : Except String String :=
  let type := if folded letters type = "" then "custom" else folded letters type
  if type ∉ allowedDeviceTypes then .error ("invalid device type: " ++ type) else .ok type

def clampHeartbeat (interval : Int) : Int :=
  let interval := if interval ≤ 0 then 15 else interval
  if interval > 300 then 300 else interval

def checkCapabilities (letters : Letters) : List String → Except String Unit
  | [] => .ok ()
  | cap :: rest =>
    if letters.toLower cap ∉ allowedCapabilities then .error ("unknown capability: " ++ cap)
    else checkCapabilities letters rest

/-- The loops over the widgets and over the alerts: the items in order, each with its index and the
ids that were seen before it. -/
def validateAll {Item : Type} (check : Nat → List String → Item → Except String Item)
    (id : Item → String) : Nat → List String → List Item → Except String (List Item)
  | _, _, [] => .ok []
  | i, seen, item :: rest => do
    let item ← check i seen item
    let rest ← validateAll check id (i + 1) (id item :: seen) rest
    return item :: rest

/-- The roles of a widget, in the order in which they are checked. -/
def checkPermissions (widget : String) : List (String × String) → Except String Unit
  | [] => .ok ()
  | (name, val) :: rest =>
    if val ≠ "" ∧ val ∉ allowedRoles then
      .error ("widget " ++ widget ++ ": invalid permission role for " ++ name ++ ": " ++ val)
    else checkPermissions widget rest

def WidgetPermissions.roles (permissions : WidgetPermissions) : List (String × String) :=
  [("read", permissions.read), ("control", permissions.control), ("execute", permissions.execute)]

def validateWidget (letters : Letters) (i : Nat) (seen : List String) (w : Widget) :
    Except String Widget :=
  let type := folded letters w.type
  let id := trimSpace w.id
  if type ∉ allowedWidgetTypes then
    .error ("widget " ++ toString i ++ ": invalid type: " ++ type)
  else if id = "" then .error ("widget " ++ toString i ++ ": id is required")
  else if 64 < id.utf8ByteSize then
    .error ("widget " ++ toString i ++ ": id too long (max 64 chars)")
  else if id ∈ seen then .error ("widget " ++ toString i ++ ": duplicate id: " ++ id)
  else do
    let label := if trimSpace w.label = "" then id else trimSpace w.label
    checkPermissions id ((w.permissions.map WidgetPermissions.roles).getD [])
    return { w with type, id, label }

def validateAlert (letters : Letters) (i : Nat) (seen : List String) (a : AlertDef) :
    Except String AlertDef :=
  let id := trimSpace a.id
  let severity := folded letters a.severity
  if id = "" then .error ("alert " ++ toString i ++ ": id is required")
  else if id ∈ seen then .error ("alert " ++ toString i ++ ": duplicate id: " ++ id)
  else if severity ∉ allowedSeverities then
    .error ("alert " ++ toString i ++ ": invalid severity: " ++ severity)
  else .ok { a with id, severity }

def checkTags : Nat → List String → Except String Unit
  | _, [] => .ok ()
  | i, tag :: rest =>
    if 64 < tag.utf8ByteSize then
      .error ("device tag " ++ toString i ++ " too long (max 64 chars)")
    else checkTags (i + 1) rest

/-- The two limits on how many there are of something. -/
def checkCount (what : String) (count most : Nat) : Except String Unit :=
  if most < count then
    .error ("too many " ++ what ++ " (" ++ toString count ++ ", max " ++ toString most ++ ")")
  else .ok ()

/-- `ValidateManifest`: the manifest as it is left in place, or the text of the error; who calls it
throws a manifest with an error away. -/
def validateManifest (letters : Letters) (m : Manifest) : Except String Manifest := do
  let manifestVersion ← validateVersion m.manifestVersion
  let name ← validateName m.device.name
  let type ← validateType letters m.device.type
  let heartbeatInterval := clampHeartbeat m.heartbeatInterval
  checkCapabilities letters m.capabilities
  checkCount "widgets" m.widgets.length maxWidgets
  let widgets ← validateAll (validateWidget letters) (·.id) 0 [] m.widgets
  let alerts ← validateAll (validateAlert letters) (·.id) 0 [] m.alerts
  checkCount "device tags" m.device.tags.length 20
  checkTags 0 m.device.tags
  return { m with
    manifestVersion, heartbeatInterval, widgets, alerts, device := { m.device with name, type } }

/-! ### Sessions -/

/-- What a session that needs a capability answers at once: the device has to be connected, and its
manifest, if there is one, has to list the capability in this very spelling. -/
def sessionRefusal (capability feature deviceID : String) (dc : Option (Option Manifest)) :
    Option String :=
  match dc with
  | none => some ("device " ++ deviceID ++ " not connected")
  | some none => none
  | some (some manifest) =>
    if capability ∈ manifest.capabilities then none
    else some ("device " ++ deviceID ++ " does not support " ++ feature)

/-- The checks of `StartDesktopSession`. -/
def startDesktopSession : String → Option (Option Manifest) → Option String :=
  sessionRefusal "remote_desktop" "remote_desktop"

/-- The checks of `StartTerminalSession`. -/
def startTerminalSession : String → Option (Option Manifest) → Option String :=
  sessionRefusal "commands" "terminal"

/-! ### Validated fields -/

section validated

variable {letters : Letters}

/-- A step of a validation that succeeds has a value, and what follows it succeeds with it. -/
theorem exists_of_bind_eq_ok {Value Result : Type} {step : Except String Value}
    {rest : Value → Except String Result} {result : Result} (done : step >>= rest = .ok result) :
    ∃ value, step = .ok value ∧ rest value = .ok result := by
  cases step with
  | error text => cases done
  | ok value => exact ⟨value, rfl, done⟩

theorem of_guarded {Value : Type} {condition : Prop} [Decidable condition] {text : String}
    {step : Except String Value} {value : Value}
    (done : (if condition then .error text else step) = .ok value) :
    ¬ condition ∧ step = .ok value := by
  split at done
  · cases done
  · next passed => exact ⟨passed, done⟩

theorem trimSpace_twice (text : String) : trimSpace (trimSpace text) = trimSpace text := by
  show String.ofList (Text.trim isSpace (String.ofList (Text.trim isSpace text.toList)).toList) =
    String.ofList (Text.trim isSpace text.toList)
  rw [String.toList_ofList, Text.trim_trim]

/-- Text that trimming and lowering leave as it is. -/
def Settled (text : String) : Prop := trimSpace text = text ∧ text.toList.all isLower = true

instance (text : String) : Decidable (Settled text) :=
  inferInstanceAs (Decidable (trimSpace text = text ∧ text.toList.all isLower = true))

theorem folded_of_settled (letters : Letters) {text : String} (settled : Settled text) :
    folded letters text = text := by
  rw [folded, settled.1, letters.fixed text settled.2]

theorem validateVersion_again {given version : String}
    (validated : validateVersion given = .ok version) :
    validateVersion version = .ok version := by
  obtain ⟨known, same⟩ := of_guarded validated
  obtain rfl := Except.ok.inj same
  rw [not_not.mp known]
  rfl

theorem validateName_again {given name : String} (validated : validateName given = .ok name) :
    validateName name = .ok name := by
  unfold validateName at validated ⊢
  obtain ⟨named, validated⟩ := of_guarded validated
  obtain ⟨short, same⟩ := of_guarded validated
  obtain rfl := Except.ok.inj same
  simp only [trimSpace_twice, if_neg named, if_neg short]

theorem validateType_again {given type : String}
    (validated : validateType letters given = .ok type) :
    validateType letters type = .ok type := by
  obtain ⟨known, same⟩ := of_guarded validated
  obtain rfl := Except.ok.inj same
  generalize (if folded letters given = "" then "custom" else folded letters given) = type at known
  have settled : ∀ type ∈ allowedDeviceTypes, Settled type ∧ type ≠ "" := by decide +kernel
  obtain ⟨settled, named⟩ := settled type (not_not.mp known)
  rw [validateType, folded_of_settled letters settled, if_neg named]
  exact if_neg known

theorem clampHeartbeat_again (interval : Int) :
    clampHeartbeat (clampHeartbeat interval) = clampHeartbeat interval := by
  unfold clampHeartbeat
  grind

variable {seen : List String}

/-- When every item that is accepted has a new id and is accepted again in its place, then so is the
list: its ids are distinct, and its length stays. -/
theorem validateAll_again {Item : Type} (check : Nat → List String → Item → Except String Item)
    (id : Item → String) (Trimmed : Item → Prop)
    (sound : ∀ i seen given item, check i seen given = .ok item →
      id item ∉ seen ∧ Trimmed item ∧ check i seen item = .ok item)
    {i : Nat} {given items : List Item}
    (validated : validateAll check id i seen given = .ok items) :
    (∀ item ∈ items, id item ∉ seen ∧ Trimmed item) ∧ (items.map id).Nodup ∧
      items.length = given.length ∧ validateAll check id i seen items = .ok items := by
  induction given generalizing i seen items with
  | nil =>
    obtain rfl := Except.ok.inj validated
    exact ⟨fun item member => (List.not_mem_nil member).elim, List.nodup_nil, rfl, rfl⟩
  | cons first rest inductionHypothesis =>
    obtain ⟨item, checked, continued⟩ := exists_of_bind_eq_ok validated
    obtain ⟨others, later, same⟩ := exists_of_bind_eq_ok continued
    obtain rfl := Except.ok.inj same
    obtain ⟨fresh, trimmed, again⟩ := sound i seen first item checked
    obtain ⟨each, distinct, length, laterAgain⟩ := inductionHypothesis later
    refine ⟨?_, ?_, ?_, ?_⟩
    · rintro other member
      rcases List.mem_cons.mp member with rfl | member
      · exact ⟨fresh, trimmed⟩
      · exact ⟨fun known => (each other member).1 (List.mem_cons_of_mem _ known),
          (each other member).2⟩
    · rw [List.map_cons, List.nodup_cons]
      refine ⟨fun repeated => ?_, distinct⟩
      obtain ⟨other, member, same⟩ := List.mem_map.mp repeated
      exact (each other member).1 (same ▸ List.mem_cons_self)
    · rw [List.length_cons, List.length_cons, length]
    · rw [validateAll, again]
      show (validateAll check id (i + 1) (id item :: seen) others >>= _) = _
      rw [laterAgain]
      rfl

theorem validateWidget_again {i : Nat} {given w : Widget}
    (validated : validateWidget letters i seen given = .ok w) :
    w.id ∉ seen ∧ trimSpace w.id = w.id ∧ validateWidget letters i seen w = .ok w := by
  obtain ⟨known, validated⟩ := of_guarded validated
  obtain ⟨named, validated⟩ := of_guarded validated
  obtain ⟨short, validated⟩ := of_guarded validated
  obtain ⟨fresh, validated⟩ := of_guarded validated
  obtain ⟨_, permitted, same⟩ := exists_of_bind_eq_ok validated
  obtain rfl := Except.ok.inj same
  have settled : ∀ type ∈ allowedWidgetTypes, Settled type := by decide +kernel
  have sameType := folded_of_settled letters (settled _ (not_not.mp known))
  have sameID := trimSpace_twice given.id
  refine ⟨fresh, sameID, ?_⟩
  have sameLabel : (if trimSpace (if trimSpace given.label = "" then trimSpace given.id
      else trimSpace given.label) = "" then trimSpace given.id
      else trimSpace (if trimSpace given.label = "" then trimSpace given.id
        else trimSpace given.label)) =
      if trimSpace given.label = "" then trimSpace given.id else trimSpace given.label := by
    split
    · rw [sameID, if_neg named]
    · next labelled => rw [trimSpace_twice, if_neg labelled]
  unfold validateWidget
  dsimp only
  rw [sameType, sameID, sameLabel, if_neg known, if_neg named, if_neg short, if_neg fresh,
    permitted]
  rfl

theorem validateAlert_again {i : Nat} {given a : AlertDef}
    (validated : validateAlert letters i seen given = .ok a) :
    a.id ∉ seen ∧ trimSpace a.id = a.id ∧ validateAlert letters i seen a = .ok a := by
  obtain ⟨named, validated⟩ := of_guarded validated
  obtain ⟨fresh, validated⟩ := of_guarded validated
  obtain ⟨known, same⟩ := of_guarded validated
  obtain rfl := Except.ok.inj same
  have settled : ∀ severity ∈ allowedSeverities, Settled severity := by decide +kernel
  have sameSeverity := folded_of_settled letters (settled _ (not_not.mp known))
  have sameID := trimSpace_twice given.id
  refine ⟨fresh, sameID, ?_⟩
  unfold validateAlert
  dsimp only
  rw [sameSeverity, sameID, if_neg named, if_neg fresh, if_neg known]

/-- A capability that is accepted is one of the allowed ones in lower case. -/
theorem allowed_of_checkCapabilities {capabilities : List String}
    (checked : checkCapabilities letters capabilities = .ok ()) {cap : String}
    (listed : cap ∈ capabilities) : letters.toLower cap ∈ allowedCapabilities := by
  induction capabilities with
  | nil => exact (List.not_mem_nil listed).elim
  | cons first rest inductionHypothesis =>
    obtain ⟨known, later⟩ := of_guarded checked
    rcases List.mem_cons.mp listed with rfl | listed
    · exact not_not.mp known
    · exact inductionHypothesis later listed

end validated

/-! ### Accepted manifests -/

/-- A manifest means what it says: it is accepted again as it is, its widgets and its alerts have
distinct trimmed ids, and a connected device is not refused a session for a capability that the
manifest lists in some spelling. -/
structure Means (letters : Letters) (m : Manifest) : Prop where
  again : validateManifest letters m = .ok m
  widgetIDs : (m.widgets.map (·.id)).Nodup ∧ ∀ w ∈ m.widgets, trimSpace w.id = w.id
  alertIDs : (m.alerts.map (·.id)).Nodup ∧ ∀ a ∈ m.alerts, trimSpace a.id = a.id
  desktop : ∀ deviceID, (∃ cap ∈ m.capabilities, letters.toLower cap = "remote_desktop") →
    startDesktopSession deviceID (some (some m)) = none
  terminal : ∀ deviceID, (∃ cap ∈ m.capabilities, letters.toLower cap = "terminal") →
    startTerminalSession deviceID (some (some m)) = none

section accepted

variable {letters : Letters} {given m : Manifest}

/-- What validation accepts it accepts again as it is, with distinct trimmed ids and with the
capabilities that were given, all of them allowed in lower case. -/
theorem validateManifest_ok (validated : validateManifest letters given = .ok m) :
    validateManifest letters m = .ok m ∧
      ((m.widgets.map (·.id)).Nodup ∧ ∀ w ∈ m.widgets, trimSpace w.id = w.id) ∧
      ((m.alerts.map (·.id)).Nodup ∧ ∀ a ∈ m.alerts, trimSpace a.id = a.id) ∧
      m.capabilities = given.capabilities ∧
      ∀ cap ∈ given.capabilities, letters.toLower cap ∈ allowedCapabilities := by
  obtain ⟨version, versioned, rest⟩ := exists_of_bind_eq_ok validated
  obtain ⟨name, named, rest⟩ := exists_of_bind_eq_ok rest
  obtain ⟨type, typed, rest⟩ := exists_of_bind_eq_ok rest
  obtain ⟨_, capable, rest⟩ := exists_of_bind_eq_ok rest
  obtain ⟨_, fewWidgets, rest⟩ := exists_of_bind_eq_ok rest
  obtain ⟨widgets, widgeted, rest⟩ := exists_of_bind_eq_ok rest
  obtain ⟨alerts, alerted, rest⟩ := exists_of_bind_eq_ok rest
  obtain ⟨_, fewTags, rest⟩ := exists_of_bind_eq_ok rest
  obtain ⟨_, tagged, same⟩ := exists_of_bind_eq_ok rest
  obtain rfl := Except.ok.inj same
  obtain ⟨eachWidget, widgetIDs, widgetCount, widgetsAgain⟩ :=
    validateAll_again (validateWidget letters) Widget.id (fun w => trimSpace w.id = w.id)
      (fun _ _ _ _ checked => validateWidget_again checked) widgeted
  obtain ⟨eachAlert, alertIDs, _, alertsAgain⟩ :=
    validateAll_again (validateAlert letters) AlertDef.id (fun a => trimSpace a.id = a.id)
      (fun _ _ _ _ checked => validateAlert_again checked) alerted
  refine ⟨?_, ⟨widgetIDs, fun w member => (eachWidget w member).2⟩,
    ⟨alertIDs, fun a member => (eachAlert a member).2⟩, rfl,
    fun cap listed => allowed_of_checkCapabilities capable listed⟩
  unfold validateManifest
  dsimp only
  rw [validateVersion_again versioned, validateName_again named, validateType_again typed,
    clampHeartbeat_again, capable, widgetCount, fewWidgets, widgetsAgain, alertsAgain, fewTags,
    tagged]
  rfl

theorem sessionRefusal_eq_none_iff (capability feature deviceID : String) :
    sessionRefusal capability feature deviceID (some (some m)) = none ↔
      capability ∈ m.capabilities := by
  show (if _ then none else _) = none ↔ _
  split
  · next listed => exact iff_of_true rfl listed
  · next missing => exact iff_of_false (Option.some_ne_none _) missing

/-- An accepted manifest means what it says exactly when a capability that is remote_desktop in
lower case comes with that very text. -/
theorem means_iff (validated : validateManifest letters given = .ok m) :
    Means letters m ↔ ((∃ cap ∈ given.capabilities, letters.toLower cap = "remote_desktop") →
      "remote_desktop" ∈ given.capabilities) := by
  obtain ⟨again, widgetIDs, alertIDs, same, allowed⟩ := validateManifest_ok validated
  rw [← same] at allowed ⊢
  constructor
  · intro means listed
    exact (sessionRefusal_eq_none_iff _ _ "").mp (means.desktop "" listed)
  · intro spelled
    refine ⟨again, widgetIDs, alertIDs, fun deviceID listed => ?_, fun deviceID listed => ?_⟩
    · exact (sessionRefusal_eq_none_iff _ _ deviceID).mpr (spelled listed)
    · obtain ⟨cap, member, lower⟩ := listed
      have known := allowed cap member
      rw [lower] at known
      exact absurd known (by decide)

end accepted

/-! ### A manifest in capital letters -/

def lowerChar (c : Char) : Char :=
  if 'A' ≤ c ∧ c ≤ 'Z' then Char.ofNat (c.toNat + 32) else c

/-- Lowering of the ASCII letters. -/
def asciiLetters : Letters where
  toLower text := String.ofList (text.toList.map lowerChar)
  fixed text lower := by
    have same : text.toList.map lowerChar = text.toList := by
      refine (List.map_congr_left fun c member => ?_).trans (List.map_id _)
      refine if_neg fun upper => ?_
      rcases Bool.or_eq_true_iff.mp (List.all_eq_true.mp lower c member) with letter | underscore
      · have low : 'a' ≤ c := of_decide_eq_true (Bool.and_eq_true_iff.mp letter).1
        exact absurd (Char.le_trans low upper.2) (by decide)
      · rw [beq_iff_eq.mp underscore] at upper
        exact absurd upper.2 (by decide)
    rw [same, String.ofList_toList]

/-- A camera that offers its desktop under a capital letter. -/
def capitalManifest (capability : String) : Manifest where
  manifestVersion := "1.0"
  device := { name := "camera 1", type := "camera", tags := [] }
  capabilities := ["telemetry", capability]
  heartbeatInterval := 15
  widgets := []
  alerts := []

/-- The camera is accepted, and nobody gets a session on its desktop. -/
theorem capital_not_means : ¬ ∀ (letters : Letters) (given m : Manifest),
    validateManifest letters given = .ok m → Means letters m := by
  intro means
  have accepted : validateManifest asciiLetters (capitalManifest "Remote_Desktop") =
      .ok (capitalManifest "Remote_Desktop") := by decide +kernel
  have lower : asciiLetters.toLower "Remote_Desktop" = "remote_desktop" := by decide +kernel
  have served := (means _ _ _ accepted).desktop "camera1" ⟨"Remote_Desktop", by decide, lower⟩
  exact absurd served (by decide +kernel)

/-- The camera that offers it in lower case. -/
theorem means_iff_lowerCase :
    Means asciiLetters (capitalManifest "remote_desktop") ↔
      ((∃ cap ∈ ["telemetry", "remote_desktop"], asciiLetters.toLower cap = "remote_desktop") →
        "remote_desktop" ∈ ["telemetry", "remote_desktop"]) :=
  means_iff (show validateManifest asciiLetters (capitalManifest "remote_desktop") = .ok _ by
    decide +kernel)

end SovaDesk.Cdap.Manifests
