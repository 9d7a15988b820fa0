/-
This file models the alert engine of the CDAP gateway and settles whether what it reports is true of
the last evaluation.

The engine remembers for every alert of a device whether it fires, and an evaluation goes through
the alerts of the manifest at hand only. Its events alternate in every run. But an alert that fires
and is missing from the next manifest goes on firing: after an evaluation the engine reports exactly
the alerts that hold when the manifest defines every alert of the device that was firing before.
-/

import Mathlib.Data.List.Chain
import SovaDesk.Cdap.Manifests
import SovaDesk.Lib.System
import SovaDesk.Lib.Table

namespace SovaDesk.Cdap.Alerts

open SovaDesk.Auth SovaDesk.Cdap.Manifests Transition

/-! ### Conditions -/

/-- Floating point numbers and the letters of Unicode, as the standard library has them. -/
structure Library where
  Number : Type
  zero : Number
  one : Number
  less : Number → Number → Bool
  equal : Number → Number → Bool
  parseFloat : String → Option Number
  toLower : String → String
  equalFold : String → String → Bool

/-- A widget value, with the text that it is printed as where that is not plain. -/
inductive WidgetValue (library : Library)
  | number (value : Option library.Number) (text : String)
  | bool (value : Bool)
  | text (value : String)
  | other (text : String)

abbrev WidgetState (library : Library) := String → Option (WidgetValue library)

section conditions

variable (library : Library)

def sprint : WidgetValue library → String
  | .number _ text => text
  | .bool value => toString value
  | .text value => value
  | .other text => text

def toFloat64 : WidgetValue library → Option library.Number
  | .number value _ => value
  | .bool value => some (if value then library.one else library.zero)
  | .text value => library.parseFloat value
  | .other _ => none

/-- The single and the double quote. -/
def isQuote (c : Char) : Bool := c.toNat == 39 || c.toNat == 34

def trimQuotes (text : String) : String := String.ofList (Text.trim isQuote text.toList)

def toFloat64Str (s : String) : Option library.Number :=
  let s := trimQuotes s
  if library.toLower s = "true" then some library.one
  else if library.toLower s = "false" then some library.zero
  else library.parseFloat s

def compare (actual : WidgetValue library) (op expected : String) : Bool :=
  match toFloat64 library actual, toFloat64Str library expected with
  | some a, some e =>
    if op = "==" then library.equal a e
    else if op = "!=" then !library.equal a e
    else if op = ">" then library.less e a
    else if op = "<" then library.less a e
    else if op = ">=" then library.less e a || library.equal a e
    else op = "<=" && (library.less a e || library.equal a e)
  | _, _ =>
    let same := library.equalFold (sprint library actual) (trimQuotes expected)
    if op = "==" then same else op = "!=" && !same

def isNameStart (c : Char) : Bool :=
  'a' ≤ c && c ≤ 'z' || 'A' ≤ c && c ≤ 'Z' || c == '_'

def isNamePart (c : Char) : Bool := isNameStart c || '0' ≤ c && c ≤ '9' || c == '.'

/-- What `\s` matches. -/
def isBlank (c : Char) : Bool := c ∈ ['\t', '\n', '\x0c', '\r', ' ']

/-- The operators in the order in which they are tried. -/
def operators : List String := ["==", "!=", ">=", "<=", ">", "<"]

/-- The name, the operator and the rest of a trimmed condition, as `condRegexp` takes them apart. An
operator with nothing behind it gives way to a shorter one. -/
def splitCondition (condition : List Char) : Option (String × String × String) :=
  match condition with
  | [] => none
  | first :: rest =>
    if isNameStart first then
      let behind := (rest.dropWhile isNamePart).dropWhile isBlank
      operators.findSome? fun op =>
        let expected := (behind.drop op.length).dropWhile isBlank
        if op.toList.isPrefixOf behind ∧ expected ≠ [] ∧ '\n' ∉ expected then
          some (String.ofList (first :: rest.takeWhile isNamePart), op, String.ofList expected)
        else none
    else none

def evaluateCondition (condition : String) (state : WidgetState library) : Bool :=
  match splitCondition (trimSpace condition).toList with
  | none => false
  | some (widgetID, operator, expected) =>
    (state widgetID).any fun actual => compare library actual operator (trimSpace expected)

/-- The name of a placeholder behind its opening brace. -/
def placeholder (text : List Char) : Option (List Char × List Char) :=
  match text.takeWhile isNamePart, text.dropWhile isNamePart with
  | first :: name, '\x7d' :: rest => if isNameStart first then some (first :: name, rest) else none
  | _, _ => none

/-- The placeholders of a message that name a widget with a value are replaced, within a bound on
the number of characters. -/
def interpolate (state : WidgetState library) : Nat → List Char → List Char
  | 0, text => text
  | _, [] => []
  | bound + 1, c :: text =>
    match if c = '\x7b' then placeholder text else none with
    | none => c :: interpolate state bound text
    | some (name, rest) =>
      let key := String.ofList name
      ((state key).elim ('\x7b' :: name ++ ['\x7d']) fun val => (sprint library val).toList) ++
        interpolate state bound rest

def interpolateMessage (msg : String) (state : WidgetState library) : String :=
  String.ofList (interpolate library state msg.length msg.toList)

end conditions

/-! ### The engine -/

structure AlertState where
  alertID : String
  deviceID : String
  label : String
  severity : String
  message : String
  firing : Bool
  firedAt : Nat
  clearedAt : Nat

structure AlertEvent where
  type : String
  peerID : String
  alertID : String
  label : String
  severity : String
  message : String
  firing : String

/-- The states of the alerts of every device, and what was published, oldest first. -/
structure Engine where
  active : Table String (Table String AlertState)
  published : List AlertEvent

/-- `NewAlertEngine`. -/
def newAlertEngine : Engine := ⟨∅, []⟩

/-- `publishAlertEvent`, on a bus that may be missing. -/
def publishAlertEvent (hasBus : Bool) (ae : Engine) (state : AlertState) (eventType : String) :
    Engine :=
  if hasBus then
    { ae with
      published := ae.published ++
        [⟨eventType, state.deviceID, state.alertID, state.label, state.severity, state.message,
          toString state.firing⟩] }
  else ae

/-- The state of an alert of a device, which is there once it has fired. -/
def Engine.state? (ae : Engine) (deviceID alertID : String) : Option AlertState :=
  (ae.active.lookup deviceID).bind fun alerts => alerts.lookup alertID

/-- Put a state where it belongs. -/
def Engine.put (ae : Engine) (deviceID alertID : String) (state : AlertState) : Engine :=
  { ae with
    active := ae.active.insert deviceID
      (((ae.active.lookup deviceID).getD ∅).insert alertID state) }

/-- An alert that fires is cleared. -/
def clearAlert (hasBus : Bool) (now : Nat) (deviceID : String) (ae : Engine) (alertID : String) :
    Engine :=
  match ae.state? deviceID alertID with
  | none => ae
  | some existing =>
    if existing.firing then
      let cleared := { existing with firing := false, clearedAt := now }
      publishAlertEvent hasBus (ae.put deviceID alertID cleared) cleared "cdap_alert_cleared"
    else ae

section engine

variable (library : Library) (hasBus : Bool)

/-- The body of the loop over the alerts of a manifest. -/
def evaluateAlert (now : Nat) (deviceID : String) (widgetState : WidgetState library) (ae : Engine)
    (alert : AlertDef) : Engine :=
  let firing := evaluateCondition library alert.condition widgetState
  let existing := ae.state? deviceID alert.id
  if firing && !existing.any (·.firing) then
    let state : AlertState :=
      { alertID := alert.id, deviceID, label := alert.label, severity := alert.severity,
        message := interpolateMessage library alert.message widgetState, firing := true,
        firedAt := now, clearedAt := 0 }
    publishAlertEvent hasBus (ae.put deviceID alert.id state) state "cdap_alert_fired"
  else if firing then ae
  else clearAlert hasBus now deviceID ae alert.id

/-- The alerts that a manifest defines; without a manifest there are none. -/
def alertsOf (manifest : Option Manifest) : List AlertDef := (manifest.map (·.alerts)).getD []

/-- `Evaluate`. Making room for a device that is new changes nothing that anyone sees. -/
def evaluate (ae : Engine) (now : Nat) (deviceID : String) (manifest : Option Manifest)
    (widgetState : WidgetState library) : Engine :=
  (alertsOf manifest).foldl (evaluateAlert library hasBus now deviceID widgetState) ae

/-- `RemoveDevice`, which goes through the alerts of the device in some order. -/
def removeDevice (ae : Engine) (now : Nat) (deviceID : String) (order : List String) : Engine :=
  let cleared := order.foldl (clearAlert hasBus now deviceID) ae
  { cleared with active := cleared.active.erase deviceID }

end engine

def firingStates (alerts : Table String AlertState) : List AlertState :=
  (alerts.entries.map fun entry => entry.2).filter (·.firing)

/-- `GetActiveAlerts`: of one device, or of all of them for an empty id. -/
def getActiveAlerts (ae : Engine) (deviceID : String) : List AlertState :=
  if deviceID ≠ "" then ((ae.active.lookup deviceID).map firingStates).getD []
  else ae.active.entries.flatMap fun entry => firingStates entry.2

/-! ### Edges -/

def Engine.firing (ae : Engine) (deviceID alertID : String) : Bool :=
  (ae.state? deviceID alertID).any (·.firing)

/-- The events of an alert, oldest first: whether it fired or was cleared. -/
def edgesOf (published : List AlertEvent) (deviceID alertID : String) : List Bool :=
  (published.filter fun e => e.peerID = deviceID ∧ e.alertID = alertID).map fun e =>
    e.type = "cdap_alert_fired"

/-- Edges that alternate, the first one being a rise. -/
def Alternates (edges : List Bool) : Prop := (false :: edges).IsChain (· ≠ ·)

/-- Edges that alternate and end at a level. -/
def Follows (edges : List Bool) (level : Bool) : Prop :=
  Alternates edges ∧ edges.getLastD false = level

theorem Follows.push {edges : List Bool} {level : Bool} (follows : Follows edges level)
    (edge : Bool) (other : level = !edge) : Follows (edges ++ [edge]) edge := by
  refine ⟨?_, List.getLastD_concat⟩
  show (false :: edges ++ [edge]).IsChain (· ≠ ·)
  refine List.isChain_append.mpr ⟨follows.1, List.isChain_singleton _, ?_⟩
  intro last isLast next isNext
  rw [List.getLast?_cons, ← List.getLastD_eq_getLast?, follows.2] at isLast
  obtain rfl := Option.some.inj isLast
  obtain rfl := Option.some.inj isNext
  rw [other]
  exact Bool.not_ne_self edge

/-- The states are where they belong, and the events of every alert alternate and end at what the
engine remembers, if there is a bus. -/
structure Sound (hasBus : Bool) (ae : Engine) : Prop where
  keyed : ∀ deviceID alertID state, ae.state? deviceID alertID = some state →
    state.deviceID = deviceID ∧ state.alertID = alertID
  edges : hasBus = true → ∀ deviceID alertID,
    Follows (edgesOf ae.published deviceID alertID) (ae.firing deviceID alertID)
  silent : hasBus = false → ae.published = []

/-- One alert of one device is at a level now, and all others are where they were. -/
def Sets (before after : Engine) (deviceID alertID : String) (level : Bool) : Prop :=
  ∀ device alert, after.firing device alert =
    if device = deviceID ∧ alert = alertID then level else before.firing device alert

section steps

variable {library : Library} {hasBus : Bool} {ae : Engine} {deviceID alertID : String}

theorem state?_put (state : AlertState) (device alert : String) :
    (ae.put deviceID alertID state).state? device alert =
      if device = deviceID ∧ alert = alertID then some state else ae.state? device alert := by
  unfold Engine.state? Engine.put
  rw [Table.lookup_insert_if]
  by_cases sameDevice : device = deviceID
  · subst sameDevice
    rw [if_pos rfl, Option.bind_some, Table.lookup_insert_if]
    by_cases sameAlert : alert = alertID
    · rw [if_pos sameAlert, if_pos ⟨rfl, sameAlert⟩]
    · rw [if_neg sameAlert, if_neg fun both => sameAlert both.2]
      cases ae.active.lookup device with
      | none => rfl
      | some alerts => rfl
  · rw [if_neg sameDevice, if_neg fun both => sameDevice both.1]

variable {state : AlertState}

section

variable (sound : Sound hasBus ae)

include sound

/-- What is put and published is an edge of its alert and of no other. -/
theorem Sound.toggle {eventType : String}
    (device : state.deviceID = deviceID) (alert : state.alertID = alertID)
    (edge : ae.firing deviceID alertID = !state.firing)
    (named : decide (eventType = "cdap_alert_fired") = state.firing) :
    Sound hasBus (publishAlertEvent hasBus (ae.put deviceID alertID state) state eventType) ∧
      Sets ae (publishAlertEvent hasBus (ae.put deviceID alertID state) state eventType)
        deviceID alertID state.firing := by
  have states : ∀ other, (publishAlertEvent hasBus (ae.put deviceID alertID state) state
      eventType).state? other = (ae.put deviceID alertID state).state? other := by
    intro other
    unfold publishAlertEvent
    split
    · rfl
    · rfl
  have sets : Sets ae (publishAlertEvent hasBus (ae.put deviceID alertID state) state eventType)
      deviceID alertID state.firing := by
    intro other other'
    rw [Engine.firing, states, state?_put]
    split
    · rfl
    · rfl
  refine ⟨⟨fun other other' found held => ?_, fun bus other other' => ?_, fun bus => ?_⟩, sets⟩
  · rw [states, state?_put] at held
    split at held
    · next same =>
      obtain rfl := Option.some.inj held
      exact ⟨device.trans same.1.symm, alert.trans same.2.symm⟩
    · exact sound.keyed other other' found held
  · rw [sets other other', publishAlertEvent, if_pos bus, edgesOf, List.filter_append,
      List.map_append]
    have follows := sound.edges bus other other'
    split
    · next same =>
      obtain ⟨rfl, rfl⟩ := same
      rw [List.filter_cons_of_pos (by simp [device, alert])]
      show Follows (edgesOf ae.published other other' ++
        [decide (eventType = "cdap_alert_fired")]) _
      rw [named]
      exact follows.push state.firing edge
    · next different =>
      rw [List.filter_cons_of_neg (by
        simp only [decide_eq_true_eq, device, alert]
        exact fun both => different ⟨both.1.symm, both.2.symm⟩)]
      rw [List.filter_nil, List.map_nil, List.append_nil]
      exact follows
  · rw [publishAlertEvent, if_neg (Bool.eq_false_iff.mp bus)]
    exact sound.silent bus

theorem Sound.clearAlert (now : Nat) (deviceID alertID : String) :
    Sound hasBus (clearAlert hasBus now deviceID ae alertID) ∧
      Sets ae (clearAlert hasBus now deviceID ae alertID) deviceID alertID false := by
  have stays : ae.firing deviceID alertID = false → Sets ae ae deviceID alertID false := by
    intro quiet device alert
    split
    · next same => rw [same.1, same.2, quiet]
    · rfl
  unfold Alerts.clearAlert
  cases held : ae.state? deviceID alertID with
  | none => exact ⟨sound, stays (by rw [Engine.firing, held, Option.any_none])⟩
  | some existing =>
    have level : ae.firing deviceID alertID = existing.firing := by
      rw [Engine.firing, held, Option.any_some]
    dsimp only
    split
    · next firing =>
      obtain ⟨device, alert⟩ := sound.keyed _ _ _ held
      exact sound.toggle device alert (level.trans firing)
        (show decide ("cdap_alert_cleared" = "cdap_alert_fired") = false by decide)
    · next quiet => exact ⟨sound, stays (level.trans (Bool.not_eq_true _ ▸ quiet))⟩

theorem Sound.evaluateAlert (now : Nat) (deviceID : String)
    (widgetState : WidgetState library) (alert : AlertDef) :
    Sound hasBus (evaluateAlert library hasBus now deviceID widgetState ae alert) ∧
      Sets ae (evaluateAlert library hasBus now deviceID widgetState ae alert) deviceID alert.id
        (evaluateCondition library alert.condition widgetState) := by
  unfold Alerts.evaluateAlert
  dsimp only
  cases holds : evaluateCondition library alert.condition widgetState with
  | false => exact sound.clearAlert now deviceID alert.id
  | true =>
    cases level : (ae.state? deviceID alert.id).any (·.firing) with
    | false =>
      exact sound.toggle rfl rfl level
        (show decide ("cdap_alert_fired" = "cdap_alert_fired") = true by decide)
    | true =>
      rw [if_neg (show ¬ (true && !true) = true by decide), if_pos rfl]
      refine ⟨sound, fun device other => ?_⟩
      split
      · next same =>
        rw [same.1, same.2]
        exact level
      · rfl

/-- The alerts of the loop are where their conditions say, and no other alert has moved. -/
theorem Sound.evaluateAll (now : Nat) (deviceID : String)
    (widgetState : WidgetState library) {alerts : List AlertDef}
    (distinct : (alerts.map (·.id)).Nodup) :
    let after := alerts.foldl (Alerts.evaluateAlert library hasBus now deviceID widgetState) ae
    Sound hasBus after ∧
      (∀ alert ∈ alerts, after.firing deviceID alert.id =
        evaluateCondition library alert.condition widgetState) ∧
      ∀ device other, device ≠ deviceID ∨ other ∉ alerts.map (·.id) →
        after.firing device other = ae.firing device other := by
  induction alerts generalizing ae with
  | nil => exact ⟨sound, fun alert member => (List.not_mem_nil member).elim, fun _ _ _ => rfl⟩
  | cons first rest inductionHypothesis =>
    rw [List.map_cons, List.nodup_cons] at distinct
    obtain ⟨soundFirst, sets⟩ := sound.evaluateAlert now deviceID widgetState first
    obtain ⟨soundLast, each, others⟩ := inductionHypothesis soundFirst distinct.2
    dsimp only at soundLast each others ⊢
    rw [List.foldl_cons]
    refine ⟨soundLast, fun alert member => ?_, fun device other apart => ?_⟩
    · rcases List.mem_cons.mp member with rfl | member
      · rw [others deviceID alert.id (.inr distinct.1), sets, if_pos ⟨rfl, rfl⟩]
      · exact each alert member
    · rw [List.map_cons, List.mem_cons, not_or] at apart
      rw [others device other (apart.imp_right And.right), sets, if_neg]
      rintro ⟨sameDevice, sameAlert⟩
      exact apart.elim (fun different => different sameDevice) fun different =>
        different.1 sameAlert

/-- The alerts that are gone through are cleared, and no other has moved. -/
theorem Sound.clearAll (now : Nat) (deviceID : String) (order : List String) :
    let after := order.foldl (Alerts.clearAlert hasBus now deviceID) ae
    Sound hasBus after ∧ ∀ device alert, after.firing device alert =
      if device = deviceID ∧ alert ∈ order then false else ae.firing device alert := by
  induction order generalizing ae with
  | nil =>
    exact ⟨sound, fun device alert => (if_neg fun both => List.not_mem_nil both.2).symm⟩
  | cons first rest inductionHypothesis =>
    obtain ⟨soundFirst, sets⟩ := sound.clearAlert now deviceID first
    obtain ⟨soundLast, cleared⟩ := inductionHypothesis soundFirst
    dsimp only at soundLast cleared ⊢
    rw [List.foldl_cons]
    refine ⟨soundLast, fun device alert => ?_⟩
    rw [cleared, sets, ← ite_or]
    refine if_congr ?_ rfl rfl
    rw [List.mem_cons, ← and_or_left, or_comm]

/-- A device that is removed has no alert that fires, and the events have said so. -/
theorem Sound.removeDevice (now : Nat) (deviceID : String) {order : List String}
    (listed : order.Perm (((ae.active.lookup deviceID).map (·.keys)).getD [])) :
    Sound hasBus (removeDevice hasBus ae now deviceID order) := by
  obtain ⟨soundCleared, cleared⟩ := sound.clearAll now deviceID order
  have states : ∀ device alert, (Alerts.removeDevice hasBus ae now deviceID order).state? device
      alert = if device = deviceID then none
        else (order.foldl (Alerts.clearAlert hasBus now deviceID) ae).state? device alert := by
    intro device alert
    unfold Alerts.removeDevice Engine.state?
    rw [Table.lookup_erase_if]
    split
    · rfl
    · rfl
  have quiet : ∀ alert, alert ∉ order → ae.firing deviceID alert = false := by
    intro alert missing
    unfold Engine.firing Engine.state?
    cases held : ae.active.lookup deviceID with
    | none => rfl
    | some alerts =>
      rw [held] at listed
      have absent : alerts.lookup alert = none :=
        AList.lookup_eq_none.mpr fun there => missing (listed.mem_iff.mpr there)
      rw [Option.bind_some, absent, Option.any_none]
  refine ⟨fun device alert state held => ?_, fun bus device alert => ?_, soundCleared.silent⟩
  · rw [states] at held
    exact soundCleared.keyed device alert state (Option.ite_none_left_eq_some.mp held).2
  · have follows := soundCleared.edges bus device alert
    have level : (Alerts.removeDevice hasBus ae now deviceID order).firing device alert =
        (order.foldl (Alerts.clearAlert hasBus now deviceID) ae).firing device alert := by
      rw [cleared, Engine.firing, states]
      split
      · next same =>
        subst same
        by_cases member : alert ∈ order
        · rw [if_pos ⟨rfl, member⟩, Option.any_none]
        · rw [if_neg fun both => member both.2, quiet alert member, Option.any_none]
      · next different =>
        rw [if_neg fun both => different both.1, ← Engine.firing, cleared,
          if_neg fun both => different both.1]
    rw [level]
    exact follows

end

/-! ### Reports -/

/-- The alerts of a device among those that are reported for its id. -/
def reported (ae : Engine) (deviceID : String) : List String :=
  ((getActiveAlerts ae deviceID).filter (·.deviceID = deviceID)).map (·.alertID)

theorem mem_firingStates_iff {alerts : Table String AlertState} :
    state ∈ firingStates alerts ↔
      ∃ alert, alerts.lookup alert = some state ∧ state.firing = true := by
  unfold firingStates
  rw [List.mem_filter, List.mem_map]
  constructor
  · rintro ⟨⟨entry, member, rfl⟩, firing⟩
    exact ⟨entry.1, Table.mem_entries_iff.mp member, firing⟩
  · rintro ⟨alert, held, firing⟩
    exact ⟨⟨⟨alert, state⟩, Table.mem_entries_iff.mpr held, rfl⟩, firing⟩

theorem mem_getActiveAlerts_iff (sound : Sound hasBus ae) :
    state ∈ getActiveAlerts ae deviceID ∧ state.deviceID = deviceID ↔
      ∃ alert, ae.state? deviceID alert = some state ∧ state.firing = true := by
  unfold getActiveAlerts
  constructor
  · rintro ⟨member, device⟩
    split at member
    · cases held : ae.active.lookup deviceID with
      | none =>
        rw [held] at member
        exact (List.not_mem_nil member).elim
      | some alerts =>
        rw [held] at member
        obtain ⟨alert, found, firing⟩ := mem_firingStates_iff.mp member
        exact ⟨alert, by rw [Engine.state?, held, Option.bind_some, found], firing⟩
    · obtain ⟨entry, listed, member⟩ := List.mem_flatMap.mp member
      obtain ⟨alert, found, firing⟩ := mem_firingStates_iff.mp member
      have held : ae.state? entry.1 alert = some state := by
        rw [Engine.state?, Table.mem_entries_iff.mp listed, Option.bind_some, found]
      exact ⟨alert, (sound.keyed _ _ _ held).1.symm.trans device ▸ held, firing⟩
  · rintro ⟨alert, held, firing⟩
    refine ⟨?_, (sound.keyed _ _ _ held).1⟩
    obtain ⟨alerts, there, found⟩ := Option.bind_eq_some_iff.mp held
    have member : state ∈ firingStates alerts := mem_firingStates_iff.mpr ⟨alert, found, firing⟩
    split
    · rw [there]
      exact member
    · exact List.mem_flatMap.mpr ⟨⟨deviceID, alerts⟩, Table.mem_entries_iff.mpr there, member⟩

theorem mem_reported_iff (sound : Sound hasBus ae) :
    alertID ∈ reported ae deviceID ↔ ae.firing deviceID alertID = true := by
  unfold reported
  rw [List.mem_map]
  constructor
  · rintro ⟨state, member, rfl⟩
    obtain ⟨listed, device⟩ := List.mem_filter.mp member
    obtain ⟨alert, held, firing⟩ :=
      (mem_getActiveAlerts_iff sound).mp ⟨listed, of_decide_eq_true device⟩
    rw [(sound.keyed _ _ _ held).2, Engine.firing, held]
    exact firing
  · intro level
    obtain ⟨state, held, firing⟩ := Option.any_eq_true _ _ |>.mp level
    obtain ⟨member, device⟩ := (mem_getActiveAlerts_iff sound).mpr ⟨alertID, held, firing⟩
    exact ⟨state, List.mem_filter.mpr ⟨member, decide_eq_true device⟩, (sound.keyed _ _ _ held).2⟩

end steps

/-! ### Every run -/

/-- A manifest that the validation has accepted. -/
structure Validated (letters : Letters) where
  manifest : Manifest
  given : Manifest
  accepted : validateManifest letters given = .ok manifest

inductive Label (library : Library) (letters : Letters)
  | evaluate (now : Nat) (deviceID : String) (manifest : Option (Validated letters))
      (widgetState : WidgetState library)
  | removeDevice (now : Nat) (deviceID : String) (order : List String)

section runs

variable (library : Library) (letters : Letters) (hasBus : Bool)

/-- The engine under calls in any order. A removal goes through the alerts of the device, each once,
in an order that the label names. -/
def alerting : System Engine (Label library letters) where
  start ae := ae = newAlertEngine
  step
    | ae, .evaluate now deviceID manifest widgetState =>
      some (evaluate library hasBus ae now deviceID (manifest.map (·.manifest)) widgetState)
    | ae, .removeDevice now deviceID order =>
      if order.Perm (((ae.active.lookup deviceID).map (·.keys)).getD []) then
        some (removeDevice hasBus ae now deviceID order)
      else none

variable {library letters hasBus}

theorem sound_of_reachable {ae : Engine}
    (reached : Reachable (alerting library letters hasBus) ae) : Sound hasBus ae := by
  refine reached.invariant (Sound hasBus) (fun start initial => ?_) fun before label after sound _
    taken => ?_
  · obtain rfl : start = newAlertEngine := initial
    exact ⟨fun _ _ _ held => (Option.some_ne_none _ held.symm).elim,
      fun _ _ _ => ⟨List.isChain_singleton _, rfl⟩, fun _ => rfl⟩
  · cases label with
    | evaluate now deviceID manifest widgetState =>
      obtain rfl := Option.some.inj taken
      cases manifest with
      | none => exact sound
      | some validated =>
        exact (sound.evaluateAll now deviceID widgetState
          (validateManifest_ok validated.accepted).2.2.1.1).1
    | removeDevice now deviceID order =>
      obtain ⟨listed, rfl⟩ := Transition.of_guard taken
      exact sound.removeDevice now deviceID listed

/-- After an evaluation the alerts that are reported for the device are those of the manifest whose
condition holds. -/
def Exact (taken : Taken Engine (Label library letters)) : Prop :=
  ∀ now deviceID manifest widgetState, taken.label = .evaluate now deviceID manifest widgetState →
    ∀ alertID, alertID ∈ reported taken.after deviceID ↔
      ∃ alert ∈ alertsOf (manifest.map (·.manifest)), alert.id = alertID ∧
        evaluateCondition library alert.condition widgetState = true

/-- Every alert of the device that is firing before an evaluation is defined in its manifest. -/
def Covered (taken : Taken Engine (Label library letters)) : Prop :=
  ∀ now deviceID manifest widgetState, taken.label = .evaluate now deviceID manifest widgetState →
    ∀ alertID ∈ reported taken.before deviceID,
      ∃ alert ∈ alertsOf (manifest.map (·.manifest)), alert.id = alertID

theorem exact_iff_covered {taken : Taken Engine (Label library letters)}
    (reached : Reachable (alerting library letters hasBus) taken.before)
    (stepped : (alerting library letters hasBus).step taken.before taken.label =
      some taken.after) : Exact taken ↔ Covered taken := by
  obtain ⟨before, label, after⟩ := taken
  refine forall₄_congr fun now deviceID manifest widgetState => ?_
  refine imp_congr_right fun same => ?_
  obtain rfl : label = .evaluate now deviceID manifest widgetState := same
  have moved : evaluate library hasBus before now deviceID (manifest.map (·.manifest)) widgetState =
      after := Option.some.inj stepped
  subst moved
  have sound := sound_of_reachable reached
  have distinct : ((alertsOf (manifest.map (·.manifest))).map (·.id)).Nodup := by
    cases manifest with
    | none => exact List.nodup_nil
    | some validated => exact (validateManifest_ok validated.accepted).2.2.1.1
  obtain ⟨soundAfter, each, others⟩ := sound.evaluateAll now deviceID widgetState distinct
  have later : ∀ alertID, alertID ∈ reported (evaluate library hasBus before now deviceID
      (manifest.map (·.manifest)) widgetState) deviceID ↔
      (evaluate library hasBus before now deviceID (manifest.map (·.manifest))
        widgetState).firing deviceID alertID = true := fun _ => mem_reported_iff soundAfter
  constructor
  · intro exact_ alertID firing
    by_contra missing
    have undefined : alertID ∉ (alertsOf (manifest.map (·.manifest))).map (·.id) :=
      fun member => missing (List.mem_map.mp member)
    have stays := others deviceID alertID (.inr undefined)
    have still : alertID ∈ reported (evaluate library hasBus before now deviceID
        (manifest.map (·.manifest)) widgetState) deviceID :=
      (later alertID).mpr (stays.trans ((mem_reported_iff sound).mp firing))
    obtain ⟨alert, member, named, _⟩ := (exact_ alertID).mp still
    exact missing ⟨alert, member, named⟩
  · intro covered alertID
    rw [later alertID]
    constructor
    · intro firing
      by_cases defined : alertID ∈ (alertsOf (manifest.map (·.manifest))).map (·.id)
      · obtain ⟨alert, member, rfl⟩ := List.mem_map.mp defined
        exact ⟨alert, member, rfl, (each alert member).symm.trans firing⟩
      · have stayed := (others deviceID alertID (.inr defined)).symm.trans firing
        exact absurd (List.mem_map.mpr (covered alertID ((mem_reported_iff sound).mpr stayed)))
          defined
    · rintro ⟨alert, member, rfl, holds⟩
      exact (each alert member).trans holds

variable {steps : List (Taken Engine (Label library letters))} {final : Engine}

/-- In every run the events of every alert alternate, and the reports are exact after each
evaluation exactly when each manifest defines the alerts of its device that fire before. -/
theorem edges_alternate_and_exact_iff
    (history : History (alerting library letters hasBus) steps final) :
    (∀ deviceID alertID, Alternates (edgesOf final.published deviceID alertID)) ∧
      ((∀ taken ∈ steps, Exact taken) ↔ ∀ taken ∈ steps, Covered taken) := by
  refine ⟨fun deviceID alertID => ?_, history.forall_iff fun taken => exact_iff_covered⟩
  have sound := sound_of_reachable history.reachable
  cases bus : hasBus with
  | true => exact (sound.edges bus deviceID alertID).1
  | false =>
    rw [sound.silent bus]
    exact List.isChain_singleton _

end runs

/-! ### A manifest without the alert -/

/-- A standard library of integers and ASCII letters. -/
def plainLibrary : Library where
  Number := Int
  zero := 0
  one := 1
  less a b := decide (a < b)
  equal a b := a == b
  parseFloat text :=
    if text.toList.all Char.isDigit then
      some (text.toList.foldl (fun number c => 10 * number + (c.toNat - 48)) 0)
    else none
  toLower := asciiLetters.toLower
  equalFold a b := asciiLetters.toLower a == asciiLetters.toLower b

def alertManifest (alerts : List AlertDef) : Manifest :=
  { capitalManifest "alerts" with alerts }

def hotAlert : AlertDef where
  id := "hot"
  label := "Temperature"
  severity := "warning"
  condition := "temperature > 80"
  message := "\x7btemperature\x7d degrees"

theorem hotManifest_accepted : validateManifest asciiLetters (alertManifest [hotAlert]) =
    .ok (alertManifest [hotAlert]) := by decide +kernel

theorem quietManifest_accepted :
    validateManifest asciiLetters (alertManifest []) = .ok (alertManifest []) := by decide +kernel

def hotManifest : Validated asciiLetters := ⟨_, _, hotManifest_accepted⟩

def quietManifest : Validated asciiLetters := ⟨_, _, quietManifest_accepted⟩

/-- The oven is at 90 degrees. -/
def ovenState : WidgetState plainLibrary := fun widget =>
  if widget = "temperature" then some (.number (some (90 : Int)) "90") else none

def hotEngine : Engine :=
  evaluate plainLibrary true newAlertEngine 1 "oven" (some hotManifest.manifest) ovenState

theorem evaluate_quiet (ae : Engine) :
    evaluate plainLibrary true ae 2 "oven" (some quietManifest.manifest) ovenState = ae := rfl

/-- The oven sends a manifest without alerts, and goes on being too hot. -/
theorem stale_alert : ¬ ∀ (library : Library) (letters : Letters) (hasBus : Bool)
    (steps : List (Taken Engine (Label library letters))) (final : Engine),
    History (alerting library letters hasBus) steps final → ∀ taken ∈ steps, Exact taken := by
  intro always
  have history : History (alerting plainLibrary asciiLetters true)
      [⟨hotEngine, .evaluate 2 "oven" (some quietManifest) ovenState, hotEngine⟩,
        ⟨newAlertEngine, .evaluate 1 "oven" (some hotManifest) ovenState, hotEngine⟩] hotEngine :=
    .step (.step (.start rfl) rfl) (congrArg some (evaluate_quiet hotEngine))
  have exact_ := always _ _ _ _ _ history _ List.mem_cons_self 2 "oven" _ _ rfl "hot"
  have still : "hot" ∈ reported hotEngine "oven" := by decide +kernel
  obtain ⟨alert, member, _⟩ := exact_.mp still
  exact List.not_mem_nil member

/-- The first evaluation finds nothing firing, so it is exact. -/
theorem edges_alternate_and_exact_iff_hot :
    (∀ deviceID alertID, Alternates (edgesOf hotEngine.published deviceID alertID)) ∧
      ∀ taken ∈ [(⟨newAlertEngine, .evaluate 1 "oven" (some hotManifest) ovenState, hotEngine⟩ :
        Taken Engine (Label plainLibrary asciiLetters))], Exact taken := by
  have history : History (alerting plainLibrary asciiLetters true)
      [⟨newAlertEngine, .evaluate 1 "oven" (some hotManifest) ovenState, hotEngine⟩] hotEngine :=
    .step (.start rfl) rfl
  obtain ⟨alternates, exact_iff⟩ := edges_alternate_and_exact_iff history
  refine ⟨alternates, exact_iff.mpr fun taken member => ?_⟩
  obtain rfl := List.mem_singleton.mp member
  intro now deviceID manifest widgetState same alertID firing
  obtain ⟨rfl, rfl, rfl, rfl⟩ := Label.evaluate.inj same
  have none : reported newAlertEngine "oven" = [] := by decide +kernel
  rw [none] at firing
  exact (List.not_mem_nil firing).elim

end SovaDesk.Cdap.Alerts
