/-
This file models the alert rules of the console under overlapping pushes of telemetry, and settles
when their cooldown holds.

An evaluation asks the store for a recent alert and creates a new one in a second call, so two
evaluations of one device may both find nothing and both create. The cooldown holds in every run in
which no alert of the same rule and device is created between the two calls of an evaluation; that a
rule outside its cooldown gets its alert holds in every run.
-/

import Mathlib.Algebra.Order.Group.Int
import SovaDesk.Lib.System
import SovaDesk.Lib.Table

namespace SovaDesk.Console.AlertRules

open Transition

/-! ### Rules -/

/-- The numbers of the language, with what is printed of them. -/
structure Numbers where
  Number : Type
  less : Number → Number → Bool
  equal : Number → Number → Bool
  /-- Whether a number is neither zero nor NaN. -/
  truthy : Number → Bool
  /-- The first number in percent of the second, rounded. -/
  percent : Number → Number → Number
  text : Number → String

structure Rule (numbers : Numbers) where
  id : Nat
  name : String
  enabled : Bool
  conditionType : String
  conditionOp : String
  conditionValue : numbers.Number
  severity : String
  scopeDeviceID : Option String
  cooldownSecs : Option Int

/-- The rules of the store, each under an id of its own. -/
structure RuleSet (numbers : Numbers) where
  rules : List (Rule numbers)
  distinct : (rules.map (·.id)).Nodup

/-- An alert of the history, with the second at which it was created. -/
structure Alert where
  ruleID : Nat
  deviceID : String
  severity : String
  message : String
  createdAt : Int
  deriving DecidableEq

def defaultCooldownSecs : Int := 300

section rules

variable {numbers : Numbers}

def evalCondition (value : numbers.Number) (op : String) (threshold : numbers.Number) : Bool :=
  if op = "gt" then numbers.less threshold value
  else if op = "gte" then numbers.less threshold value || numbers.equal value threshold
  else if op = "lt" then numbers.less value threshold
  else if op = "lte" then numbers.less value threshold || numbers.equal value threshold
  else if op = "eq" then numbers.equal value threshold
  else op = "neq" && !numbers.equal value threshold

/-- A rule without a cooldown, or with one of zero seconds, has the default one. -/
def Rule.cooldown (rule : Rule numbers) : Int :=
  match rule.cooldownSecs with
  | some secs => if secs = 0 then defaultCooldownSecs else secs
  | none => defaultCooldownSecs

/-- The rule covers the device, and the value meets its condition. -/
def Rule.applies (rule : Rule numbers) (deviceID : String) (value : numbers.Number) : Bool :=
  (rule.scopeDeviceID.getD "" = "" || rule.scopeDeviceID = some deviceID) &&
    evalCondition value rule.conditionOp rule.conditionValue

def Rule.alert (rule : Rule numbers) (deviceID metricType : String) (value : numbers.Number)
    (now : Int) : Alert where
  ruleID := rule.id
  deviceID
  severity := if rule.severity = "" then "warning" else rule.severity
  message := rule.name ++ ": " ++ metricType ++ " = " ++ numbers.text value ++ " (" ++
    rule.conditionOp ++ " " ++ numbers.text rule.conditionValue ++ ")"
  createdAt := now

def getAlertRules (set : RuleSet numbers) (metricType : String) : List (Rule numbers) :=
  set.rules.filter fun rule => rule.enabled && rule.conditionType = metricType

/-! ### Evaluations -/

/-- A metric type and its value. -/
abbrev Metric (numbers : Numbers) := String × numbers.Number

/-- The store call that an evaluation awaits. With the call that creates an alert stand the alerts
of its rule and device that there were when a recent one was looked for, which nothing reads. -/
inductive Awaits (numbers : Numbers)
  | getAlertRules (metric : Metric numbers)
  | getRecentAlert (metric : Metric numbers) (rule : Rule numbers) (rest : List (Rule numbers))
  | createAlert (metric : Metric numbers) (rule : Rule numbers) (rest : List (Rule numbers))
      (known : List Alert)
  | nothing

/-- A call of `evaluateTelemetry`, with the metrics it has yet to evaluate; a call of
`evaluateRules` is one with a single metric. -/
structure Evaluation (numbers : Numbers) where
  deviceID : String
  later : List (Metric numbers)
  awaits : Awaits numbers

structure Telemetry (numbers : Numbers) where
  cpuUsagePercent : Option numbers.Number
  memoryUsedBytes : Option numbers.Number
  memoryTotalBytes : Option numbers.Number

/-- The metrics that `evaluateTelemetry` evaluates, in order. -/
def Telemetry.metrics (telemetry : Telemetry numbers) : List (Metric numbers) :=
  (telemetry.cpuUsagePercent.map fun cpu => ("cpu_usage", cpu)).toList ++
    match telemetry.memoryUsedBytes, telemetry.memoryTotalBytes with
    | some used, some total =>
      if numbers.truthy used && numbers.truthy total then
        [("memory_usage", numbers.percent used total)]
      else []
    | _, _ => []

/-- Go on with the next metric. -/
def evaluateMetrics (deviceID : String) : List (Metric numbers) → Evaluation numbers
  | [] => ⟨deviceID, [], .nothing⟩
  | metric :: later => ⟨deviceID, later, .getAlertRules metric⟩

/-- The loop over the rules, up to the next one that applies. -/
def nextRule (deviceID : String) (later : List (Metric numbers)) (metric : Metric numbers) :
    List (Rule numbers) → Evaluation numbers
  | [] => evaluateMetrics deviceID later
  | rule :: rest =>
    if rule.applies deviceID metric.2 then ⟨deviceID, later, .getRecentAlert metric rule rest⟩
    else nextRule deviceID later metric rest

/-! ### The store -/

structure State (numbers : Numbers) where
  now : Int
  /-- The latest first. -/
  alerts : List Alert
  evaluations : Table Nat (Evaluation numbers)

/-- The alerts of a rule and a device. -/
def State.alertsFor (s : State numbers) (rule : Rule numbers) (deviceID : String) : List Alert :=
  s.alerts.filter fun alert => alert.ruleID = rule.id ∧ alert.deviceID = deviceID

/-- `getRecentAlert`: an alert of the rule and the device in the last so many seconds. -/
def State.getRecentAlert (s : State numbers) (rule : Rule numbers) (deviceID : String)
    (cooldownSecs : Int) : Option Alert :=
  (s.alertsFor rule deviceID).find? fun alert => s.now - cooldownSecs < alert.createdAt

def State.set (s : State numbers) (call : Nat) (evaluation : Evaluation numbers) : State numbers :=
  { s with evaluations := s.evaluations.insert call evaluation }

/-- Time passes, an evaluation starts, or the call that one awaits is done. -/
inductive Label (numbers : Numbers)
  | wait (secs : Nat)
  | start (call : Nat) (deviceID : String) (metrics : List (Metric numbers))
  | serve (call : Nat)

/-- The call that an evaluation awaits is done, and the evaluation goes on to its next one. -/
def serve (set : RuleSet numbers) (s : State numbers) (call : Nat)
    (evaluation : Evaluation numbers) : Option (State numbers) :=
  let deviceID := evaluation.deviceID
  match evaluation.awaits with
  | .getAlertRules metric =>
    some (s.set call (nextRule deviceID evaluation.later metric (getAlertRules set metric.1)))
  | .getRecentAlert metric rule rest =>
    if (s.getRecentAlert rule deviceID rule.cooldown).isSome then
      some (s.set call (nextRule deviceID evaluation.later metric rest))
    else
      some (s.set call
        { evaluation with
          awaits := .createAlert metric rule rest (s.alertsFor rule deviceID) })
  | .createAlert metric rule rest _ =>
    let created := { s with alerts := rule.alert deviceID metric.1 metric.2 s.now :: s.alerts }
    some (created.set call (nextRule deviceID evaluation.later metric rest))
  | .nothing => none

/-- Evaluations of any devices, interleaved between the calls of the store. -/
def engine (set : RuleSet numbers) : System (State numbers) (Label numbers) where
  start s := s.alerts = [] ∧ s.evaluations = ∅
  step
    | s, .wait secs => some { s with now := s.now + secs }
    | s, .start call deviceID metrics =>
      if (s.evaluations.lookup call).isNone then
        some (s.set call (evaluateMetrics deviceID metrics))
      else none
    | s, .serve call => (s.evaluations.lookup call).bind (serve set s call)

/-! ### The cooldown -/

/-- Two alerts of a rule and a device are at least the cooldown of the rule apart. -/
def KeepsCooldown (set : RuleSet numbers) (s : State numbers) : Prop :=
  ∀ rule ∈ set.rules, ∀ deviceID, (s.alertsFor rule deviceID).Pairwise fun newer older =>
    older.createdAt + rule.cooldown ≤ newer.createdAt

/-- When an evaluation creates an alert, the store has the alerts of the rule and the device that it
had when the evaluation looked for a recent one: none was created since. -/
def Undisturbed (s : State numbers) : Label numbers → Prop
  | .serve call => ∀ deviceID later metric rule rest known,
    s.evaluations.lookup call = some ⟨deviceID, later, .createAlert metric rule rest known⟩ →
      s.alertsFor rule deviceID = known
  | _ => True

/-- The rules of an evaluation are of the store, and what it knew when it looked for a recent alert
lies outside the cooldown. -/
def Sound (set : RuleSet numbers) (now : Int) (evaluation : Evaluation numbers) : Prop :=
  match evaluation.awaits with
  | .getRecentAlert _ rule rest => rule ∈ set.rules ∧ rest ⊆ set.rules
  | .createAlert _ rule rest known => rule ∈ set.rules ∧ rest ⊆ set.rules ∧
      ∀ alert ∈ known, alert.createdAt + rule.cooldown ≤ now
  | _ => True

structure Kept (set : RuleSet numbers) (s : State numbers) : Prop where
  past : ∀ alert ∈ s.alerts, alert.createdAt ≤ s.now
  cooldown : KeepsCooldown set s
  sound : ∀ call evaluation, s.evaluations.lookup call = some evaluation →
    Sound set s.now evaluation

theorem sound_evaluateMetrics (set : RuleSet numbers) (now : Int) (deviceID : String)
    (metrics : List (Metric numbers)) : Sound set now (evaluateMetrics deviceID metrics) := by
  cases metrics with
  | nil => trivial
  | cons metric later => trivial

theorem sound_nextRule {set : RuleSet numbers} (now : Int) (deviceID : String)
    (later : List (Metric numbers)) (metric : Metric numbers) {rules : List (Rule numbers)}
    (ofSet : rules ⊆ set.rules) : Sound set now (nextRule deviceID later metric rules) := by
  induction rules with
  | nil => exact sound_evaluateMetrics set now deviceID later
  | cons rule rest inductionHypothesis =>
    obtain ⟨first, others⟩ := List.cons_subset.mp ofSet
    rw [nextRule]
    split
    · exact ⟨first, others⟩
    · exact inductionHypothesis others

variable {set : RuleSet numbers} {s : State numbers} {call : Nat}
  {evaluation : Evaluation numbers}

theorem Sound.mono {now later : Int} (sound : Sound set now evaluation) (passed : now ≤ later) :
    Sound set later evaluation := by
  obtain ⟨deviceID, metrics, awaits⟩ := evaluation
  cases awaits with
  | getAlertRules metric => trivial
  | getRecentAlert metric rule rest => exact sound
  | createAlert metric rule rest known =>
    exact ⟨sound.1, sound.2.1, fun alert member => (sound.2.2 alert member).trans passed⟩
  | nothing => trivial

theorem Kept.advance (kept : Kept set s) (next : Sound set s.now evaluation) :
    Kept set (s.set call evaluation) := by
  refine ⟨kept.past, kept.cooldown, fun other found lookup => ?_⟩
  rcases Table.lookup_insert_iff.mp lookup with ⟨_, rfl⟩ | ⟨_, held⟩
  · exact next
  · exact kept.sound other found held

/-- No recent alert: all alerts of the rule and the device lie outside the cooldown. -/
theorem outside_of_getRecentAlert {rule : Rule numbers} {deviceID : String} {cooldownSecs : Int}
    (none : s.getRecentAlert rule deviceID cooldownSecs = none) {alert : Alert}
    (member : alert ∈ s.alertsFor rule deviceID) : alert.createdAt + cooldownSecs ≤ s.now := by
  have early := List.find?_eq_none.mp none alert member
  rw [decide_eq_true_eq] at early
  omega

/-- An alert is created outside the cooldown of its rule when nothing has disturbed its
evaluation. -/
theorem Kept.create (kept : Kept set s) {rule : Rule numbers} (ofSet : rule ∈ set.rules)
    {deviceID : String} (metric : Metric numbers)
    (outside : ∀ alert ∈ s.alertsFor rule deviceID, alert.createdAt + rule.cooldown ≤ s.now) :
    Kept set { s with alerts := rule.alert deviceID metric.1 metric.2 s.now :: s.alerts } := by
  refine ⟨fun alert member => ?_, fun other ofSet' device => ?_, kept.sound⟩
  · rcases List.mem_cons.mp member with rfl | older
    · exact le_refl s.now
    · exact kept.past alert older
  · by_cases same : rule.id = other.id ∧ deviceID = device
    · obtain ⟨sameID, rfl⟩ := same
      obtain rfl : rule = other :=
        List.inj_on_of_nodup_map set.distinct ofSet ofSet' sameID
      have grown : State.alertsFor { s with
          alerts := rule.alert deviceID metric.1 metric.2 s.now :: s.alerts } rule deviceID =
          rule.alert deviceID metric.1 metric.2 s.now :: s.alertsFor rule deviceID :=
        List.filter_cons_of_pos (decide_eq_true ⟨rfl, rfl⟩)
      rw [grown]
      exact List.pairwise_cons.mpr ⟨outside, kept.cooldown rule ofSet deviceID⟩
    · have unchanged : State.alertsFor { s with
          alerts := rule.alert deviceID metric.1 metric.2 s.now :: s.alerts } other device =
          s.alertsFor other device :=
        List.filter_cons_of_neg fun both => same (of_decide_eq_true both)
      rw [unchanged]
      exact kept.cooldown other ofSet' device

theorem Kept.serve (kept : Kept set s) {after : State numbers}
    (held : s.evaluations.lookup call = some evaluation)
    (undisturbed : Undisturbed s (.serve call))
    (served : serve set s call evaluation = some after) : Kept set after := by
  have sound := kept.sound call evaluation held
  obtain ⟨deviceID, metrics, awaits⟩ := evaluation
  cases awaits with
  | getAlertRules metric =>
    obtain rfl := Option.some.inj served
    exact kept.advance (sound_nextRule _ _ _ _ (List.filter_sublist.subset))
  | getRecentAlert metric rule rest =>
    obtain ⟨ofSet, others⟩ := sound
    unfold AlertRules.serve at served
    dsimp only at served
    split at served
    · obtain rfl := Option.some.inj served
      exact kept.advance (sound_nextRule _ _ _ _ others)
    · next absent =>
      obtain rfl := Option.some.inj served
      rw [Option.not_isSome_iff_eq_none] at absent
      exact kept.advance
        ⟨ofSet, others, fun alert member => outside_of_getRecentAlert absent member⟩
  | createAlert metric rule rest known =>
    obtain ⟨ofSet, others, outside⟩ := sound
    obtain rfl := Option.some.inj served
    have same := undisturbed deviceID metrics metric rule rest known held
    rw [← same] at outside
    exact (kept.create ofSet metric outside).advance (sound_nextRule _ _ _ _ others)
  | nothing => cases served

theorem kept_of_reachableWhen (reached : ReachableWhen (engine set) Undisturbed s) :
    Kept set s := by
  refine reached.invariant (Kept set) (fun start initial => ?_) fun before label after kept
    undisturbed taken => ?_
  · obtain ⟨noAlerts, noEvaluations⟩ := initial
    refine ⟨fun alert member => ?_, fun rule _ deviceID => ?_, fun call evaluation held => ?_⟩
    · rw [noAlerts] at member
      exact (List.not_mem_nil member).elim
    · rw [State.alertsFor, noAlerts]
      exact List.Pairwise.nil
    · rw [noEvaluations] at held
      cases held
  · cases label with
    | wait secs =>
      obtain rfl := Option.some.inj taken
      have passed : before.now ≤ before.now + secs := by omega
      exact ⟨fun alert member => (kept.past alert member).trans passed, kept.cooldown,
        fun call evaluation held => (kept.sound call evaluation held).mono passed⟩
    | start call deviceID metrics =>
      obtain ⟨_, rfl⟩ := of_guard taken
      exact kept.advance (sound_evaluateMetrics set _ deviceID metrics)
    | serve call =>
      obtain ⟨evaluation, held, served⟩ := Option.bind_eq_some_iff.mp taken
      exact kept.serve held undisturbed served

/-! ### Rules outside their cooldown -/

/-- The rules that an evaluation has yet to look at for its metric, from the next one that applies
on. -/
def Evaluation.agenda (evaluation : Evaluation numbers) : List (Rule numbers) :=
  match evaluation.awaits with
  | .getRecentAlert metric rule rest =>
    rule :: rest.filter (·.applies evaluation.deviceID metric.2)
  | .createAlert metric _ rest _ => rest.filter (·.applies evaluation.deviceID metric.2)
  | _ => []

/-- What the next call of an evaluation does: it loads all the rules that the metric satisfies; for
the first of them it finds a recent alert, or goes on to create one; and the call that creates an
alert creates it. No rule is passed over. -/
structure Served (set : RuleSet numbers) (s after : State numbers)
    (evaluation next : Evaluation numbers) : Prop where
  loads : ∀ metric, evaluation.awaits = .getAlertRules metric → next.agenda =
    (getAlertRules set metric.1).filter (·.applies evaluation.deviceID metric.2)
  skips : ∀ metric rule rest, evaluation.awaits = .getRecentAlert metric rule rest →
    (s.getRecentAlert rule evaluation.deviceID rule.cooldown).isSome = true →
      next.agenda = rest.filter (·.applies evaluation.deviceID metric.2)
  fires : ∀ metric rule rest, evaluation.awaits = .getRecentAlert metric rule rest →
    s.getRecentAlert rule evaluation.deviceID rule.cooldown = none →
      ∃ known, next = { evaluation with awaits := .createAlert metric rule rest known }
  creates : ∀ metric rule rest known, evaluation.awaits = .createAlert metric rule rest known →
    after.alerts = rule.alert evaluation.deviceID metric.1 metric.2 s.now :: s.alerts ∧
      next.agenda = rest.filter (·.applies evaluation.deviceID metric.2)

/-- An evaluation is served when its turn comes, and stands still until then. -/
structure Followed (set : RuleSet numbers) (s : State numbers) (call : Nat)
    (evaluation : Evaluation numbers) : Prop where
  stands : ∀ label after, label ≠ .serve call → (engine set).step s label = some after →
    after.evaluations.lookup call = some evaluation
  moves : evaluation.awaits ≠ .nothing → ∃ after next,
    (engine set).step s (.serve call) = some after ∧
      after.evaluations.lookup call = some next ∧ Served set s after evaluation next

theorem agenda_nextRule (deviceID : String) (later : List (Metric numbers))
    (metric : Metric numbers) (rules : List (Rule numbers)) :
    (nextRule deviceID later metric rules).agenda =
      rules.filter (·.applies deviceID metric.2) := by
  induction rules with
  | nil =>
    cases later with
    | nil => rfl
    | cons metric later => rfl
  | cons rule rest inductionHypothesis =>
    rw [nextRule, List.filter_cons]
    have device : (nextRule deviceID later metric rest).agenda =
        rest.filter (·.applies deviceID metric.2) := inductionHypothesis
    split
    · rfl
    · exact device

theorem followed (held : s.evaluations.lookup call = some evaluation) :
    Followed set s call evaluation := by
  refine ⟨fun label after other taken => ?_, fun pending => ?_⟩
  · cases label with
    | wait secs =>
      obtain rfl := Option.some.inj taken
      exact held
    | start call' deviceID metrics =>
      obtain ⟨fresh, rfl⟩ := of_guard taken
      have different : call ≠ call' := by
        rintro rfl
        rw [held] at fresh
        cases fresh
      exact (AList.lookup_insert_ne different).trans held
    | serve call' =>
      obtain ⟨evaluation', _, served⟩ := Option.bind_eq_some_iff.mp taken
      have different : call ≠ call' := fun same => other (congrArg Label.serve same.symm)
      have kept : ∀ (state : State numbers) (next : Evaluation numbers),
          state.evaluations = s.evaluations →
            (state.set call' next).evaluations.lookup call = some evaluation :=
        fun state next same => (AList.lookup_insert_ne different).trans (same ▸ held)
      unfold serve at served
      dsimp only at served
      split at served
      · obtain rfl := Option.some.inj served
        exact kept s _ rfl
      · split at served
        · obtain rfl := Option.some.inj served
          exact kept s _ rfl
        · obtain rfl := Option.some.inj served
          exact kept s _ rfl
      · obtain rfl := Option.some.inj served
        exact kept _ _ rfl
      · cases served
  · have step : ∀ {after : State numbers}, serve set s call evaluation = some after →
        (engine set).step s (.serve call) = some after :=
      fun served => Option.bind_eq_some_iff.mpr ⟨evaluation, held, served⟩
    obtain ⟨deviceID, later, awaits⟩ := evaluation
    cases awaits with
    | getAlertRules metric =>
      refine ⟨_, _, step rfl, AList.lookup_insert _, ⟨?_, ?_, ?_, ?_⟩⟩
      · rintro _ ⟨⟩
        exact agenda_nextRule _ _ _ _
      · rintro _ _ _ ⟨⟩
      · rintro _ _ _ ⟨⟩
      · rintro _ _ _ _ ⟨⟩
    | getRecentAlert metric rule rest =>
      cases recent : s.getRecentAlert rule deviceID rule.cooldown with
      | none =>
        have served : serve set s call ⟨deviceID, later, .getRecentAlert metric rule rest⟩ =
            some (s.set call ⟨deviceID, later,
              .createAlert metric rule rest (s.alertsFor rule deviceID)⟩) := by
          unfold serve
          dsimp only
          rw [recent]
          rfl
        refine ⟨_, _, step served, AList.lookup_insert _, ⟨?_, ?_, ?_, ?_⟩⟩
        · rintro _ ⟨⟩
        · rintro _ _ _ ⟨⟩ found
          rw [recent] at found
          cases found
        · rintro _ _ _ ⟨⟩ _
          exact ⟨_, rfl⟩
        · rintro _ _ _ _ ⟨⟩
      | some alert =>
        have served : serve set s call ⟨deviceID, later, .getRecentAlert metric rule rest⟩ =
            some (s.set call (nextRule deviceID later metric rest)) := by
          unfold serve
          dsimp only
          rw [recent]
          rfl
        refine ⟨_, _, step served, AList.lookup_insert _, ⟨?_, ?_, ?_, ?_⟩⟩
        · rintro _ ⟨⟩
        · rintro _ _ _ ⟨⟩ _
          exact agenda_nextRule _ _ _ _
        · rintro _ _ _ ⟨⟩ absent
          rw [recent] at absent
          cases absent
        · rintro _ _ _ _ ⟨⟩
    | createAlert metric rule rest known =>
      refine ⟨_, _, step rfl, AList.lookup_insert _, ⟨?_, ?_, ?_, ?_⟩⟩
      · rintro _ ⟨⟩
      · rintro _ _ _ ⟨⟩
      · rintro _ _ _ ⟨⟩
      · rintro _ _ _ _ ⟨⟩
        exact ⟨rfl, agenda_nextRule _ _ _ _⟩
    | nothing => exact absurd rfl pending

end rules

/-- The cooldown holds in every run whose evaluations are undisturbed, and in every run a rule that
is satisfied outside its cooldown gets its alert. -/
theorem cooldown_kept_and_alerts_created {numbers : Numbers} (set : RuleSet numbers) :
    (∀ s, ReachableWhen (engine set) Undisturbed s → KeepsCooldown set s) ∧
      ∀ s call evaluation, Reachable (engine set) s →
        s.evaluations.lookup call = some evaluation → Followed set s call evaluation :=
  ⟨fun _ reached => (kept_of_reachableWhen reached).cooldown, fun _ _ _ _ held => followed held⟩

/-! ### Two pushes at once -/

def plainNumbers : Numbers where
  Number := Int
  less a b := decide (a < b)
  equal a b := a == b
  truthy a := a != 0
  percent a b := a * 100 / b
  text a := toString a

/-- The processor is busier than nine tenths. -/
def busyRule : Rule plainNumbers :=
  ⟨1, "busy", true, "cpu_usage", "gt", (90 : Int), "", none, none⟩

def busyRules : RuleSet plainNumbers where
  rules := [busyRule]
  distinct := List.nodup_singleton _

/-- Two pushes of one device that look for a recent alert before either has created one. -/
def overlappingPushes : List (Label plainNumbers) :=
  [.start 1 "pc" [("cpu_usage", (95 : Int))], .start 2 "pc" [("cpu_usage", (95 : Int))],
    .serve 1, .serve 2, .serve 1, .serve 2, .serve 1, .serve 2]

theorem pushes_alert_twice : ¬ ∀ (numbers : Numbers) (set : RuleSet numbers) (s : State numbers),
    Reachable (engine set) s → KeepsCooldown set s := by
  intro keeps
  have ran : ((engine busyRules).run ⟨0, [], ∅⟩ overlappingPushes).any (fun s =>
      (s.alertsFor busyRule "pc").map (·.createdAt) == [0, 0]) = true := by decide +kernel
  have initial : (engine busyRules).start ⟨0, [], ∅⟩ := ⟨rfl, rfl⟩
  obtain ⟨final, reached, twice⟩ := exists_reachable_of_run initial ran
  have apart := keeps plainNumbers busyRules final reached busyRule List.mem_cons_self "pc"
  have pairs : ((final.alertsFor busyRule "pc").map (·.createdAt)).Pairwise fun newer older =>
      older + busyRule.cooldown ≤ newer := List.pairwise_map.mpr apart
  rw [beq_iff_eq.mp twice] at pairs
  have cooldown := (List.pairwise_cons.mp pairs).1 0 (List.mem_singleton_self 0)
  exact absurd cooldown (by decide)

end SovaDesk.Console.AlertRules
