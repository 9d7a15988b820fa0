/-
This file is a small library of labelled transition systems.

A program whose parties take turns is a partial step function: a label names the
party and the action, and a label that is not enabled has no successor. What holds
of every interleaving is what holds of every reachable state, so the library keeps
one induction, the invariant rule, and one executable run. A run is checked against
a guard at each of its steps; the states reached by guarded steps are the states of
the executions whose every step meets a condition, and the trivial guard gives back
the plain notion.
-/

import Mathlib.Logic.Basic

namespace Transition

/-- A labelled transition system: the states a run may start from, and the successor of a state
under a label, if the label is enabled there. -/
structure System (State Label : Type) where
  start : State → Prop
  step : State → Label → Option State

variable {State Label : Type}

/-- A step behind a guard that is taken: the guard held, and it is this step. -/
theorem of_guard {guard : Prop} [Decidable guard] {next after : State}
    (taken : (if guard then some next else none) = some after) : guard ∧ next = after := by
  rwa [Option.ite_none_right_eq_some, Option.some_inj] at taken

theorem of_guard_not {guard : Prop} [Decidable guard] {next after : State}
    (taken : (if guard then none else some next) = some after) : ¬ guard ∧ next = after := by
  rwa [Option.ite_none_left_eq_some, Option.some_inj] at taken

/-! ### Reachable states -/

/-- The states reached by a run each of whose steps meets the guard in the state it is taken
from. -/
inductive ReachableWhen (system : System State Label) (guard : State → Label → Prop) :
    State → Prop
  | start {state : State} (initial : system.start state) : ReachableWhen system guard state
  | step {before after : State} {label : Label} (earlier : ReachableWhen system guard before)
      (allowed : guard before label) (taken : system.step before label = some after) :
      ReachableWhen system guard after

/-- The states reached by any run. -/
abbrev Reachable (system : System State Label) : State → Prop :=
  ReachableWhen system fun _ _ => True

variable {state : State} {guard : State → Label → Prop} {system : System State Label}

/-- The invariant rule: what holds at every start and is kept by every guarded step holds of
every state reached. -/
theorem ReachableWhen.invariant
    (holds : State → Prop) (initial : ∀ state, system.start state → holds state)
    (kept : ∀ before label after, holds before → guard before label →
      system.step before label = some after → holds after)
    (reached : ReachableWhen system guard state) : holds state := by
  induction reached with
  | start isStart => exact initial _ isStart
  | step _ allowed taken inductionHypothesis => exact kept _ _ _ inductionHypothesis allowed taken

/-- A stronger guard reaches fewer states. -/
theorem ReachableWhen.mono {weaker : State → Label → Prop}
    (implies : ∀ state label, guard state label → weaker state label)
    (reached : ReachableWhen system guard state) : ReachableWhen system weaker state := by
  induction reached with
  | start isStart => exact .start isStart
  | step _ allowed taken inductionHypothesis =>
    exact .step inductionHypothesis (implies _ _ allowed) taken

/-- The system without the steps that cannot happen. -/
def System.restrict (system : System State Label) (possible : State → Label → Prop)
    [∀ state label, Decidable (possible state label)] : System State Label where
  start := system.start
  step state label := if possible state label then system.step state label else none

/-- The runs of a restricted system are runs of the system with possible steps only. -/
theorem ReachableWhen.of_restrict
    {possible : State → Label → Prop} [∀ state label, Decidable (possible state label)]
    (reached : ReachableWhen (system.restrict possible) guard state) :
    ReachableWhen system (fun state label => guard state label ∧ possible state label) state := by
  induction reached with
  | start isStart => exact .start isStart
  | step _ allowed taken inductionHypothesis =>
    obtain ⟨isPossible, stepped⟩ := Option.ite_none_right_eq_some.mp taken
    exact .step inductionHypothesis ⟨allowed, isPossible⟩ stepped

/-! ### Executable runs -/

/-- Run a list of labels from a state, stopping without a result at a label that breaks the guard
or is not enabled. -/
def System.runWhen (system : System State Label) (guard : State → Label → Prop)
    [∀ state label, Decidable (guard state label)] : State → List Label → Option State
  | state, [] => some state
  | state, label :: rest =>
    if guard state label then
      (system.step state label).bind fun next => system.runWhen guard next rest
    else none

/-- Run a list of labels from a state under no guard. -/
def System.run (system : System State Label) : State → List Label → Option State
  | state, [] => some state
  | state, label :: rest => (system.step state label).bind fun next => system.run next rest

variable {labels : List Label}

section runs

variable {system : System State Label} {guard : State → Label → Prop}

theorem ReachableWhen.runWhen [∀ state label, Decidable (guard state label)] (labels : List Label)
    {before after : State} (reached : ReachableWhen system guard before)
    (ran : system.runWhen guard before labels = some after) :
    ReachableWhen system guard after := by
  induction labels generalizing before with
  | nil =>
    rw [System.runWhen, Option.some_inj] at ran
    exact ran ▸ reached
  | cons label rest inductionHypothesis =>
    rw [System.runWhen] at ran
    split at ran
    · next allowed =>
      obtain ⟨next, taken, remaining⟩ := Option.bind_eq_some_iff.mp ran
      exact inductionHypothesis (.step reached allowed taken) remaining
    · exact absurd ran (Option.some_ne_none after).symm

theorem ReachableWhen.run (labels : List Label) {before after : State}
    (reached : Reachable system before) (ran : system.run before labels = some after) :
    Reachable system after := by
  induction labels generalizing before with
  | nil =>
    rw [System.run, Option.some_inj] at ran
    exact ran ▸ reached
  | cons label rest inductionHypothesis =>
    rw [System.run] at ran
    obtain ⟨next, taken, remaining⟩ := Option.bind_eq_some_iff.mp ran
    exact inductionHypothesis (.step reached trivial taken) remaining

/-- A computed run that ends in a state passing a test shows that such a state is reachable. -/
theorem exists_reachable_of_run {test : State → Bool}
    (initial : system.start state) (ends : (system.run state labels).any test = true) :
    ∃ final, Reachable system final ∧ test final = true := by
  obtain ⟨final, ran, passed⟩ := Option.any_eq_true _ _ |>.mp ends
  exact ⟨final, .run labels (.start initial) ran, passed⟩

/-- The same for a guarded run. -/
theorem exists_reachableWhen_of_runWhen [∀ state label, Decidable (guard state label)]
    {test : State → Bool} (initial : system.start state)
    (ends : (system.runWhen guard state labels).any test = true) :
    ∃ final, ReachableWhen system guard final ∧ test final = true := by
  obtain ⟨final, ran, passed⟩ := Option.any_eq_true _ _ |>.mp ends
  exact ⟨final, .runWhen labels (.start initial) ran, passed⟩

end runs

/-! ### Histories -/

/-- A step that was taken. -/
structure Taken (State Label : Type) where
  before : State
  label : Label
  after : State

/-- A run with the steps it took, the latest first, and the state it reached. -/
inductive History (system : System State Label) : List (Taken State Label) → State → Prop
  | start {state : State} (initial : system.start state) : History system [] state
  | step {steps : List (Taken State Label)} {before after : State} {label : Label}
      (earlier : History system steps before) (taken : system.step before label = some after) :
      History system (⟨before, label, after⟩ :: steps) after

section histories

variable {system : System State Label} {steps : List (Taken State Label)} {final : State}

theorem History.reachable (history : History system steps final) : Reachable system final := by
  induction history with
  | start initial => exact .start initial
  | step _ taken inductionHypothesis => exact .step inductionHypothesis trivial taken

/-- Each step of a history was taken from a state that is reachable. -/
theorem History.taken (history : History system steps final) {step : Taken State Label}
    (member : step ∈ steps) :
    Reachable system step.before ∧ system.step step.before step.label = some step.after := by
  induction history with
  | start _ => exact absurd member List.not_mem_nil
  | step earlier taken inductionHypothesis =>
    rcases List.mem_cons.mp member with rfl | older
    · exact ⟨earlier.reachable, taken⟩
    · exact inductionHypothesis older

/-- Two properties that agree on every step from a reachable state hold of the same histories. -/
theorem History.forall_iff {property condition : Taken State Label → Prop}
    (agree : ∀ step : Taken State Label, Reachable system step.before →
      system.step step.before step.label = some step.after → (property step ↔ condition step))
    (history : History system steps final) :
    (∀ step ∈ steps, property step) ↔ ∀ step ∈ steps, condition step :=
  forall₂_congr fun step member =>
    agree step (history.taken member).1 (history.taken member).2

/-- A property that agrees with a guard on every step from a state of guarded runs holds of all
steps of a history exactly when all its steps are guarded. -/
theorem History.forall_iff_when {property : Taken State Label → Prop}
    (agree : ∀ step : Taken State Label, ReachableWhen system guard step.before →
      system.step step.before step.label = some step.after →
      (property step ↔ guard step.before step.label))
    (history : History system steps final) :
    (∀ step ∈ steps, property step) ↔ ∀ step ∈ steps, guard step.before step.label := by
  have together : ((∀ step ∈ steps, property step) ↔
      ∀ step ∈ steps, guard step.before step.label) ∧
      ((∀ step ∈ steps, guard step.before step.label) → ReachableWhen system guard final) := by
    induction history with
    | start initial => exact ⟨⟨fun _ _ member => absurd member List.not_mem_nil,
        fun _ _ member => absurd member List.not_mem_nil⟩, fun _ => .start initial⟩
    | step earlier taken inductionHypothesis =>
      obtain ⟨same, reaches⟩ := inductionHypothesis
      simp only [List.forall_mem_cons]
      refine ⟨⟨fun ⟨latest, older⟩ => ?_, fun ⟨latest, older⟩ => ?_⟩,
        fun ⟨latest, older⟩ => .step (reaches older) latest taken⟩
      · have guarded := same.mp older
        exact ⟨(agree _ (reaches guarded) taken).mp latest, guarded⟩
      · exact ⟨(agree _ (reaches older) taken).mpr latest, same.mpr older⟩
  exact together.1

/-- Run a list of labels and keep the steps. -/
def System.trace (system : System State Label) (steps : List (Taken State Label)) :
    State → List Label → Option (List (Taken State Label) × State)
  | state, [] => some (steps, state)
  | state, label :: rest =>
    (system.step state label).bind fun next =>
      system.trace (⟨state, label, next⟩ :: steps) next rest

/-- A computed trace is a history. -/
theorem History.trace (labels : List Label) {all : List (Taken State Label)}
    (history : History system steps state)
    (ran : system.trace steps state labels = some (all, final)) : History system all final := by
  induction labels generalizing steps state with
  | nil =>
    rw [System.trace, Option.some_inj, Prod.mk.injEq] at ran
    exact ran.1 ▸ ran.2 ▸ history
  | cons label rest inductionHypothesis =>
    rw [System.trace] at ran
    obtain ⟨next, taken, remaining⟩ := Option.bind_eq_some_iff.mp ran
    exact inductionHypothesis (.step history taken) remaining

/-- A computed trace that passes a test shows that such a history exists. -/
theorem exists_history_of_trace
    {test : List (Taken State Label) × State → Bool} (initial : system.start state)
    (ends : (system.trace [] state labels).any test = true) :
    ∃ steps final, History system steps final ∧ test (steps, final) = true := by
  obtain ⟨⟨steps, final⟩, ran, passed⟩ := Option.any_eq_true _ _ |>.mp ends
  exact ⟨steps, final, .trace labels (.start initial) ran, passed⟩

end histories

end Transition
