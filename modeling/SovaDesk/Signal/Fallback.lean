/-
This file settles whether a relay fallback that was scheduled is delivered or cancelled.

For one initiator there is one entry of a map and any number of calls: a schedule puts
its own fallback into the entry and stops the one it replaces, a cancel takes the entry
out, and each fallback has a timer whose callback marks it, deletes the entry and
delivers. Each access to the map, to a mark and to a timer is one step, and the steps of
all calls and callbacks are taken in any order.

The callback deletes whatever the entry holds. If a new fallback was scheduled between
its mark and its delete, that one is lost from the map: a cancel no longer finds it, a
later schedule does not replace it, and it is delivered all the same.
-/

import Mathlib.Logic.Function.Basic
import SovaDesk.Lib.System

namespace SovaDesk.Signal.Fallback

open Transition

/-! ### Calls and callbacks -/

/-- Where a schedule stands; the timer runs from its first step on. -/
inductive ScheduleStep
  | notCalled
  | armed
  | replacing (old : Nat)
  | stopping (old : Nat)
  | returned
  deriving DecidableEq

inductive Timer
  | pending
  | stopped
  | expired
  deriving DecidableEq

/-- Where the callback of a timer stands: it has found its fallback unmarked and marked it, deleted
the entry, delivered, or found it marked and returned. -/
inductive Callback
  | waiting
  | began
  | deleted
  | delivered
  | gaveUp
  deriving DecidableEq

/-- Where a cancel stands. -/
inductive CancelStep
  | notCalled
  | called
  | loaded (punch : Nat)
  | stopping (punch : Nat)
  | returned (cancelled : Bool)
  deriving DecidableEq

/-- The entry of the initiator's key, the schedules with the mark, the timer and the callback of
each fallback, and the cancels; schedules and cancels go by number. -/
structure Pending where
  entry : Option Nat
  schedules : Nat → ScheduleStep
  fired : Nat → Bool
  timers : Nat → Timer
  callbacks : Nat → Callback
  cancels : Nat → CancelStep

namespace Pending

def start : Pending where
  entry := none
  schedules _ := .notCalled
  fired _ := false
  timers _ := .pending
  callbacks _ := .waiting
  cancels _ := .notCalled

/-- The callback of a fallback has begun to fire. -/
def Began (s : Pending) (i : Nat) : Prop := s.callbacks i ≠ .waiting ∧ s.callbacks i ≠ .gaveUp

instance (s : Pending) (i : Nat) : Decidable (s.Began i) := inferInstanceAs (Decidable (_ ∧ _))

end Pending

/-! ### Steps -/

/-- A step of `schedulePunchFallback` (`schedule` to `stop`), of a timer's callback (`expire` to
`fallback`) or of `cancelPunchFallback` (`cancel` to `stopTimer`). -/
inductive Label
  | schedule (i : Nat)
  | swapEntry (i : Nat)
  | storeFired (i : Nat)
  | stop (i : Nat)
  | expire (i : Nat)
  | swapFired (i : Nat)
  | deleteEntry (i : Nat)
  | fallback (i : Nat)
  | cancel (k : Nat)
  | loadAndDelete (k : Nat)
  | swapLoaded (k : Nat)
  | stopTimer (k : Nat)
  deriving DecidableEq

namespace Pending

/-- Move a schedule to its next step. -/
def toStep (s : Pending) (i : Nat) (step : ScheduleStep) : Pending :=
  { s with schedules := Function.update s.schedules i step }

/-- Move a callback to its next step. -/
def toCallback (s : Pending) (i : Nat) (callback : Callback) : Pending :=
  { s with callbacks := Function.update s.callbacks i callback }

/-- Move a cancel to its next step. -/
def toCancel (s : Pending) (k : Nat) (step : CancelStep) : Pending :=
  { s with cancels := Function.update s.cancels k step }

/-- Mark a fallback as fired. -/
def mark (s : Pending) (i : Nat) : Pending := { s with fired := Function.update s.fired i true }

/-- Stop a timer; one that has expired is not stopped. -/
def stopTimer (s : Pending) (i : Nat) : Pending :=
  { s with
    timers := Function.update s.timers i
      (if s.timers i = .expired then .expired else .stopped) }

def step (s : Pending) : Label → Option Pending
  | .schedule i => if s.schedules i = .notCalled then some (s.toStep i .armed) else none
  | .swapEntry i =>
    if s.schedules i = .armed then
      some { s.toStep i (s.entry.elim .returned .replacing) with entry := some i }
    else none
  | .storeFired i =>
    match s.schedules i with
    | .replacing old => some ((s.mark old).toStep i (.stopping old))
    | _ => none
  | .stop i =>
    match s.schedules i with
    | .stopping old => some ((s.stopTimer old).toStep i .returned)
    | _ => none
  | .expire i =>
    if s.schedules i ≠ .notCalled ∧ s.timers i = .pending then
      some { s with timers := Function.update s.timers i .expired }
    else none
  | .swapFired i =>
    if s.timers i = .expired ∧ s.callbacks i = .waiting then
      some ((s.mark i).toCallback i (if s.fired i then .gaveUp else .began))
    else none
  | .deleteEntry i =>
    if s.callbacks i = .began then some { s.toCallback i .deleted with entry := none } else none
  | .fallback i =>
    if s.callbacks i = .deleted then some (s.toCallback i .delivered) else none
  | .cancel k => if s.cancels k = .notCalled then some (s.toCancel k .called) else none
  | .loadAndDelete k =>
    if s.cancels k = .called then
      some { s.toCancel k (s.entry.elim (.returned false) .loaded) with entry := none }
    else none
  | .swapLoaded k =>
    match s.cancels k with
    | .loaded i =>
      some ((s.mark i).toCancel k (if s.fired i then .returned false else .stopping i))
    | _ => none
  | .stopTimer k =>
    match s.cancels k with
    | .stopping i => some ((s.stopTimer i).toCancel k (.returned true))
    | _ => none

end Pending

/-! ### What is observed -/

/-- A run with what it has shown: the schedules in the order in which they took the entry, the
latest first; those that a later one has superseded before they began to fire; the fallbacks taken
out of the entry by a schedule or a cancel that has not yet marked them; those taken out by a
cancel; the schedule that each running cancel is to cancel, and what such cancels have returned;
and the fallbacks delivered. -/
structure Run where
  state : Pending
  order : List Nat
  superseded : List Nat
  unmarked : List Nat
  taken : List Nat
  due : Nat → Option Nat
  verdicts : List (Nat × Bool)
  delivered : List Nat

def Run.start : Run where
  state := .start
  order := []
  superseded := []
  unmarked := []
  taken := []
  due _ := none
  verdicts := []
  delivered := []

/-- The schedule a cancel that is called now is to cancel: the latest, if it has returned and its
fallback has not begun to fire. -/
def Run.toCancel (run : Run) : Option Nat :=
  run.order.head?.filter fun i => run.state.schedules i = .returned ∧ ¬ run.state.Began i

/-- What a cancel that has a schedule to cancel returned, if it has returned. -/
def Run.verdict (run : Run) (after : Pending) (k : Nat) : List (Nat × Bool) :=
  match after.cancels k, run.due k with
  | .returned cancelled, some i => [(i, cancelled)]
  | _, _ => []

/-- The run after a step. -/
def Run.observe (run : Run) (after : Pending) : Label → Run
  | .swapEntry i =>
    { run with
      state := after
      order := i :: run.order
      superseded := run.order.filter (fun j => ¬ run.state.Began j) ++ run.superseded
      unmarked := run.state.entry.toList ++ run.unmarked
      due := fun _ => none }
  | .storeFired i =>
    { run with
      state := after
      unmarked := run.unmarked.filter fun j => run.state.schedules i ≠ .replacing j }
  | .swapFired i =>
    { run with
      state := after
      due := fun k =>
        (run.due k).filter fun j => j ≠ i ∨ run.state.fired i = true }
  | .fallback i => { run with state := after, delivered := i :: run.delivered }
  | .cancel k => { run with state := after, due := Function.update run.due k run.toCancel }
  | .loadAndDelete k =>
    { run with
      state := after
      unmarked := run.state.entry.toList ++ run.unmarked
      taken := run.state.entry.toList ++ run.taken
      verdicts := run.verdict after k ++ run.verdicts }
  | .swapLoaded k =>
    { run with
      state := after
      unmarked := run.unmarked.filter fun j => run.state.cancels k ≠ .loaded j
      verdicts := run.verdict after k ++ run.verdicts }
  | .stopTimer k => { run with state := after, verdicts := run.verdict after k ++ run.verdicts }
  | .schedule _ | .stop _ | .expire _ | .deleteEntry _ => { run with state := after }

/-- The fallbacks of one initiator, with what their runs show. -/
def fallbacks : System Run Label where
  start run := run = .start
  step run label := (run.state.step label).map fun after => run.observe after label

/-! ### The property and the condition -/

/-- No fallback is delivered twice, none that was superseded is delivered, and a cancel that ran
after the latest schedule and before its fallback began to fire has cancelled it. -/
structure DeliveredOrCancelled (run : Run) : Prop where
  once : ∀ i, run.delivered.count i ≤ 1
  superseded : ∀ i ∈ run.superseded, i ∉ run.delivered
  cancelled : ∀ i verdict, (i, verdict) ∈ run.verdicts → verdict = true ∧ i ∉ run.delivered

/-- A callback deletes no entry but its own; none begins to fire when its fallback is already taken
out of the map; and no second cancel comes to the map for a fallback that a first one has taken. -/
def Undisturbed (run : Run) : Label → Prop
  | .swapFired i => i ∉ run.unmarked
  | .deleteEntry i => run.state.entry = none ∨ run.state.entry = some i
  | .loadAndDelete k => ∀ i ∈ run.due k, i ∉ run.taken
  | .schedule _ | .swapEntry _ | .storeFired _ | .stop _ | .expire _ | .fallback _ | .cancel _
  | .swapLoaded _ | .stopTimer _ => True

instance (run : Run) : (label : Label) → Decidable (Undisturbed run label)
  | .swapFired i => inferInstanceAs (Decidable (i ∉ run.unmarked))
  | .deleteEntry i =>
    inferInstanceAs (Decidable (run.state.entry = none ∨ run.state.entry = some i))
  | .loadAndDelete k => inferInstanceAs (Decidable (∀ i ∈ run.due k, i ∉ run.taken))
  | .schedule _ | .swapEntry _ | .storeFired _ | .stop _ | .expire _ | .fallback _ | .cancel _
  | .swapLoaded _ | .stopTimer _ => inferInstanceAs (Decidable True)

/-! ### Every run -/

/-- What holds in every run: the order lists the schedules that have taken the entry, and what was
in the entry, taken out of it or replaced was in the order before. -/
structure Sound (run : Run) : Prop where
  ordered : ∀ i, i ∈ run.order ↔
    run.state.schedules i ≠ .notCalled ∧ run.state.schedules i ≠ .armed
  entry : ∀ i, run.state.entry = some i → i ∈ run.order ∧ i ∉ run.taken
  unmarked : ∀ i ∈ run.unmarked, i ∈ run.order
  taken : ∀ i ∈ run.taken, i ∈ run.order
  replaced : ∀ j old, run.state.schedules j = .replacing old →
    old ∈ run.order ∧ run.order.head? ≠ some old
  held : ∀ k i, run.state.cancels k = .loaded i → i ∈ run.taken
  heldOnce : ∀ k k' i, run.state.cancels k = .loaded i → run.state.cancels k' = .loaded i → k = k'
  marked : ∀ i, run.state.callbacks i ≠ .waiting → run.state.fired i = true
  early : ∀ i, i ∉ run.order → run.state.fired i = true → run.state.Began i
  delivered : ∀ i, run.delivered.count i =
    if run.state.callbacks i = .delivered then 1 else 0

theorem sound_start : Sound .start := by
  constructor <;> simp [Run.start, Pending.start]

variable {after : Pending}

section sound

variable {run : Run} {i k : Nat}

theorem entry_of_replacing {entry : Option Nat} {old : Nat}
    (replacing : entry.elim .returned .replacing = ScheduleStep.replacing old) :
    entry = some old := by
  cases entry with
  | none => cases replacing
  | some found =>
    cases replacing
    rfl

/-- A cancel holds what was in the entry. -/
theorem entry_of_loaded {entry : Option Nat} {i : Nat}
    (loaded : entry.elim (.returned false) .loaded = CancelStep.loaded i) : entry = some i := by
  cases entry with
  | none => cases loaded
  | some found =>
    cases loaded
    rfl

section

variable (sound : Sound run)

include sound

/-- A schedule goes on that has taken the entry already, or has yet to. -/
theorem Sound.toStep (step : ScheduleStep)
    (same : i ∈ run.order ↔ step ≠ .notCalled ∧ step ≠ .armed)
    (other : ∀ old, step ≠ .replacing old) :
    Sound { run with state := run.state.toStep i step } :=
  { sound with
    ordered := (Function.forall_update_iff run.state.schedules fun j step =>
      j ∈ run.order ↔ step ≠ .notCalled ∧ step ≠ .armed).mpr ⟨same, fun j _ => sound.ordered j⟩
    replaced := (Function.forall_update_iff run.state.schedules fun _ step =>
      ∀ old, step = .replacing old → old ∈ run.order ∧ run.order.head? ≠ some old).mpr
        ⟨fun old replacing => absurd replacing (other old), fun j _ => sound.replaced j⟩ }

/-- A fallback is marked that has been in the entry. -/
theorem Sound.mark (inOrder : i ∈ run.order) : Sound { run with state := run.state.mark i } :=
  { sound with
    marked := (Function.forall_update_iff run.state.fired fun j fired =>
      run.state.callbacks j ≠ .waiting → fired = true).mpr
        ⟨fun _ => rfl, fun j _ => sound.marked j⟩
    early := (Function.forall_update_iff run.state.fired fun j fired =>
      j ∉ run.order → fired = true → run.state.Began j).mpr
        ⟨fun out => absurd inOrder out, fun j _ => sound.early j⟩ }

/-- A cancel goes on, and holds no fallback from here on that another one holds. -/
theorem Sound.toCancel (step : CancelStep)
    (loads : ∀ i, step = .loaded i → i ∈ run.taken ∧ ∀ l, run.state.cancels l ≠ .loaded i) :
    Sound { run with state := run.state.toCancel k step } :=
  { sound with
    held := (Function.forall_update_iff run.state.cancels fun _ step =>
      ∀ i, step = .loaded i → i ∈ run.taken).mpr
        ⟨fun i loaded => (loads i loaded).1, fun l _ => sound.held l⟩
    heldOnce := fun l m i first second => by
      simp only [Pending.toCancel, Function.update_apply] at first second
      split at first <;> split at second
      · next here there => exact here.trans there.symm
      · exact absurd second ((loads i first).2 m)
      · exact absurd first ((loads i second).2 l)
      · exact sound.heldOnce l m i first second }

/-- A callback that has begun to fire goes on. -/
theorem Sound.toCallback (callback : Callback) {delivered : List Nat}
    (began : run.state.Began i) (goes : callback ≠ .waiting ∧ callback ≠ .gaveUp)
    (counts : delivered.count i = if callback = .delivered then 1 else 0)
    (others : ∀ j, j ≠ i → delivered.count j = run.delivered.count j) :
    Sound { run with state := run.state.toCallback i callback, delivered } :=
  { sound with
    marked := (Function.forall_update_iff run.state.callbacks fun j callback =>
      callback ≠ .waiting → run.state.fired j = true).mpr
        ⟨fun _ => sound.marked i began.1, fun j _ => sound.marked j⟩
    early := (Function.forall_update_iff run.state.callbacks fun j callback =>
      j ∉ run.order → run.state.fired j = true → callback ≠ .waiting ∧ callback ≠ .gaveUp).mpr
        ⟨fun _ _ => goes, fun j _ => sound.early j⟩
    delivered := (Function.forall_update_iff run.state.callbacks fun j callback =>
      delivered.count j = if callback = .delivered then 1 else 0).mpr
        ⟨counts, fun j other => (others j other).trans (sound.delivered j)⟩ }

/-- A schedule takes the entry; what it replaces was in the entry before. -/
theorem sound_swapEntry (moved : run.state.step (.swapEntry i) = some after) :
    Sound (run.observe after (.swapEntry i)) := by
  obtain ⟨armed, rfl⟩ := of_guard moved
  have new : i ∉ run.order := fun listed => ((sound.ordered i).mp listed).2 armed
  have older : ∀ j, j ∈ run.order → j ∈ i :: run.order ∧ (i :: run.order).head? ≠ some j := by
    intro j listed
    refine ⟨List.mem_cons_of_mem i listed, fun first => new ?_⟩
    exact Option.some.inj first ▸ listed
  exact
    { sound with
      ordered := (Function.forall_update_iff run.state.schedules fun j step =>
        j ∈ i :: run.order ↔ step ≠ .notCalled ∧ step ≠ .armed).mpr
          ⟨iff_of_true List.mem_cons_self (by cases run.state.entry <;> simp),
            fun j other => (List.mem_cons.trans (or_iff_right other)).trans (sound.ordered j)⟩
      entry := fun j found => by
        obtain rfl := Option.some.inj found
        exact ⟨List.mem_cons_self, fun inTaken => new (sound.taken i inTaken)⟩
      unmarked := fun j listed => by
        rcases List.mem_append.mp listed with inEntry | old
        · exact List.mem_cons_of_mem i (sound.entry j (Option.mem_toList.mp inEntry)).1
        · exact List.mem_cons_of_mem i (sound.unmarked j old)
      taken := fun j listed => List.mem_cons_of_mem i (sound.taken j listed)
      replaced := (Function.forall_update_iff run.state.schedules fun _ step =>
        ∀ old, step = .replacing old → old ∈ i :: run.order ∧ (i :: run.order).head? ≠ some old).mpr
          ⟨fun old replacing => older old (sound.entry old (entry_of_replacing replacing)).1,
            fun j _ old replacing => older old (sound.replaced j old replacing).1⟩
      early := fun j out => sound.early j fun listed => out (List.mem_cons_of_mem i listed) }

/-- A callback finds its fallback marked or marks it. -/
theorem sound_swapFired (moved : run.state.step (.swapFired i) = some after) :
    Sound (run.observe after (.swapFired i)) := by
  obtain ⟨⟨_, waiting⟩, rfl⟩ := of_guard moved
  exact
    { sound with
      marked := fun j => by
        simp only [Run.observe, Pending.mark, Pending.toCallback, Function.update_apply]
        split
        · exact fun _ => rfl
        · exact sound.marked j
      early := fun j out => by
        simp only [Run.observe, Pending.mark, Pending.toCallback, Pending.Began,
          Function.update_apply]
        split
        · next own =>
          subst own
          intro _
          -- A mark outside the order is one of a callback that has begun.
          have unfired : ¬ run.state.fired j = true := fun fired =>
            (sound.early j out fired).1 waiting
          rw [if_neg unfired]
          exact ⟨by decide, by decide⟩
        · exact sound.early j out
      delivered := fun j => by
        simp only [Run.observe, Pending.mark, Pending.toCallback, Function.update_apply]
        split
        · next own =>
          subst own
          rw [sound.delivered j, waiting]
          cases run.state.fired j <;> rfl
        · exact sound.delivered j }

/-- A cancel takes the entry out of the map. -/
theorem sound_loadAndDelete (moved : run.state.step (.loadAndDelete k) = some after) :
    Sound (run.observe after (.loadAndDelete k)) := by
  obtain ⟨_, rfl⟩ := of_guard moved
  have inOrder : ∀ j ∈ run.state.entry.toList, j ∈ run.order := fun j inEntry =>
    (sound.entry j (Option.mem_toList.mp inEntry)).1
  have grown : Sound { run with
      state := { run.state with entry := none }
      unmarked := run.state.entry.toList ++ run.unmarked
      taken := run.state.entry.toList ++ run.taken } :=
    { sound with
      entry := fun j found => absurd found (Option.some_ne_none j).symm
      unmarked := fun j listed => (List.mem_append.mp listed).elim (inOrder j) (sound.unmarked j)
      taken := fun j listed => (List.mem_append.mp listed).elim (inOrder j) (sound.taken j)
      held := fun l j loaded => List.mem_append_right _ (sound.held l j loaded) }
  have loads : ∀ j, run.state.entry.elim (.returned false) .loaded = CancelStep.loaded j →
      j ∈ run.state.entry.toList ++ run.taken ∧ ∀ l, run.state.cancels l ≠ .loaded j := by
    intro j loaded
    have inEntry := entry_of_loaded loaded
    exact ⟨List.mem_append_left _ (Option.mem_toList.mpr inEntry),
      fun l holds => (sound.entry j inEntry).2 (sound.held l j holds)⟩
  exact { grown.toCancel _ loads with }

end

end sound

variable {label : Label}

theorem sound_step {before after : Run} (sound : Sound before)
    (taken : fallbacks.step before label = some after) : Sound after := by
  obtain ⟨state, moved, rfl⟩ := Option.map_eq_some_iff.mp taken
  cases label with
  | schedule i =>
    obtain ⟨new, rfl⟩ := of_guard moved
    have out : i ∉ before.order := fun listed => ((sound.ordered i).mp listed).1 new
    exact sound.toStep .armed (iff_of_false out fun neither => neither.2 rfl)
      fun old replacing => by cases replacing
  | swapEntry i => exact sound_swapEntry sound moved
  | storeFired i =>
    simp only [Pending.step] at moved
    split at moved
    · next old replacing =>
      obtain rfl := Option.some.inj moved
      have inOrder : i ∈ before.order := (sound.ordered i).mpr (by rw [replacing]; simp)
      have stepped := (sound.mark (sound.replaced i old replacing).1).toStep (.stopping old)
        (iff_of_true inOrder (by simp)) fun _ same => by cases same
      exact
        { stepped with
          unmarked := fun j listed => sound.unmarked j (List.mem_filter.mp listed |>.1) }
    · cases moved
  | stop i =>
    simp only [Pending.step] at moved
    split at moved
    · next old stopping =>
      obtain rfl := Option.some.inj moved
      have inOrder : i ∈ before.order := (sound.ordered i).mpr (by rw [stopping]; simp)
      have stepped := sound.toStep .returned (iff_of_true inOrder (by simp))
        fun _ same => by cases same
      exact { stepped with }
    · cases moved
  | expire i =>
    obtain ⟨_, rfl⟩ := of_guard moved
    exact { sound with }
  | swapFired i => exact sound_swapFired sound moved
  | deleteEntry i =>
    obtain ⟨began, rfl⟩ := of_guard moved
    have fires : before.state.Began i := by rw [Pending.Began, began]; decide
    have stepped := sound.toCallback .deleted fires (by decide)
      (by rw [sound.delivered, began]; rfl) fun _ _ => rfl
    exact { stepped with entry := fun j found => absurd found (Option.some_ne_none j).symm }
  | fallback i =>
    obtain ⟨deleted, rfl⟩ := of_guard moved
    have fires : before.state.Began i := by rw [Pending.Began, deleted]; decide
    have first : before.delivered.count i = 0 := by rw [sound.delivered, deleted]; rfl
    exact sound.toCallback .delivered fires (by decide) (by rw [List.count_cons_self, first]; rfl)
      fun j other => List.count_cons_of_ne other.symm
  | cancel k =>
    obtain ⟨_, rfl⟩ := of_guard moved
    have stepped := sound.toCancel (k := k) .called fun i loaded => by cases loaded
    exact { stepped with }
  | loadAndDelete k => exact sound_loadAndDelete sound moved
  | swapLoaded k =>
    simp only [Pending.step] at moved
    split at moved
    · next i loaded =>
      obtain rfl := Option.some.inj moved
      have inOrder := sound.taken i (sound.held k i loaded)
      have stepped := (sound.mark inOrder).toCancel (k := k)
        (if before.state.fired i then .returned false else .stopping i)
        fun j loads => by split at loads <;> cases loads
      exact
        { stepped with
          unmarked := fun j listed => sound.unmarked j (List.mem_filter.mp listed |>.1) }
    · cases moved
  | stopTimer k =>
    simp only [Pending.step] at moved
    split at moved
    · next i stopping =>
      obtain rfl := Option.some.inj moved
      have stepped := sound.toCancel (k := k) (.returned true) fun i loaded => by cases loaded
      exact { stepped with }
    · cases moved

/-- No fallback is delivered twice, however the steps are taken. -/
theorem Sound.once {run : Run} (sound : Sound run) (i : Nat) : run.delivered.count i ≤ 1 := by
  rw [sound.delivered]
  split
  · exact Nat.le_refl 1
  · exact Nat.zero_le 1

/-! ### Undisturbed runs -/

/-- What holds in undisturbed runs: a fallback that has been in the entry and is not marked is still
there or about to be marked, and the latest one leaves the entry only by firing or by a cancel. -/
structure Coherent (run : Run) : Prop extends Sound run where
  located : ∀ i ∈ run.order, run.state.fired i = false →
    run.state.entry = some i ∨ i ∈ run.unmarked
  latest : ∀ i, run.order.head? = some i → i ∉ run.taken → ¬ run.state.Began i →
    run.state.fired i = false ∧ run.state.entry = some i
  superseded : ∀ i ∈ run.superseded, i ∈ run.order ∧ ¬ run.state.Began i ∧
    (run.state.fired i = true ∨ i ∈ run.unmarked)
  due : ∀ k i, run.due k = some i → run.order.head? = some i ∧ ¬ run.state.Began i ∧
    (run.state.cancels k = .called ∨
      (run.state.cancels k = .loaded i ∧ run.state.fired i = false) ∨
      (run.state.cancels k = .stopping i ∧ run.state.fired i = true) ∨
      ∃ cancelled, run.state.cancels k = .returned cancelled)
  verdicts : ∀ i verdict, (i, verdict) ∈ run.verdicts → verdict = true ∧
    run.state.fired i = true ∧ ¬ run.state.Began i

variable {s : Pending}

section steps

variable {run : Run} {after : Pending} {i k : Nat}

theorem fired_mark_self (s : Pending) (i : Nat) : (s.mark i).fired i = true := by
  show Function.update s.fired i true i = true
  rw [Function.update_self]

variable {j : Nat}

theorem fired_mark_of_ne (other : j ≠ i) :
    (s.mark i).fired j = s.fired j := by
  show Function.update s.fired i true j = s.fired j
  rw [Function.update_of_ne other]

theorem fired_mark (fired : s.fired j = true) :
    (s.mark i).fired j = true := by
  by_cases own : j = i
  · rw [own, fired_mark_self]
  · rw [fired_mark_of_ne own, fired]

/-- What is unmarked after a mark is another fallback, and was unmarked before. -/
theorem unfired_of_mark (unfired : (s.mark i).fired j = false) :
    j ≠ i ∧ s.fired j = false := by
  have other : j ≠ i := by
    rintro rfl
    exact absurd ((fired_mark_self s j).symm.trans unfired) (by decide)
  exact ⟨other, (fired_mark_of_ne other).symm.trans unfired⟩

theorem cancels_toCancel (s : Pending) (k : Nat) (step : CancelStep) :
    (s.toCancel k step).cancels k = step := by
  show Function.update s.cancels k step k = step
  rw [Function.update_self]

theorem mem_verdict {verdict : Bool} (listed : (j, verdict) ∈ run.verdict after k) :
    after.cancels k = .returned verdict ∧ run.due k = some j := by
  unfold Run.verdict at listed
  split at listed
  · next cancelled found returned due =>
    cases List.mem_singleton.mp listed
    exact ⟨returned, due⟩
  · cases listed

theorem began_toCallback {callback : Callback} (began : s.Began i)
    (goes : callback ≠ .waiting ∧ callback ≠ .gaveUp) (j : Nat) :
    (s.toCallback i callback).Began j ↔ s.Began j := by
  show Function.update s.callbacks i callback j ≠ _ ∧ Function.update s.callbacks i callback j ≠ _ ↔
    s.Began j
  by_cases own : j = i
  · subst own
    rw [Function.update_self]
    exact iff_of_true goes began
  · rw [Function.update_of_ne own]
    rfl

section

variable (coherent : Coherent run)

include coherent

/-- A callback that has begun to fire goes on. -/
theorem Coherent.toCallback (callback : Callback) {delivered : List Nat}
    (began : run.state.Began i) (goes : callback ≠ .waiting ∧ callback ≠ .gaveUp)
    (sound : Sound { run with state := run.state.toCallback i callback, delivered }) :
    Coherent { run with state := run.state.toCallback i callback, delivered } := by
  have idle : ∀ j, ¬ (run.state.toCallback i callback).Began j ↔ ¬ run.state.Began j := fun j =>
    not_congr (began_toCallback began goes j)
  refine ⟨sound, coherent.located, ?_, ?_, ?_, ?_⟩
  · exact fun j first untaken stays => coherent.latest j first untaken ((idle j).mp stays)
  · intro j listed
    obtain ⟨inOrder, stays, markedOrDue⟩ := coherent.superseded j listed
    exact ⟨inOrder, (idle j).mpr stays, markedOrDue⟩
  · intro l j found
    obtain ⟨first, stays, stands⟩ := coherent.due l j found
    exact ⟨first, (idle j).mpr stays, stands⟩
  · intro j verdict listed
    obtain ⟨cancelled, fired, stays⟩ := coherent.verdicts j verdict listed
    exact ⟨cancelled, fired, (idle j).mpr stays⟩

/-- What was in the entry is about to be marked, and the schedule that is now the latest has not
been marked by anyone but its own callback. -/
theorem coherent_swapEntry (moved : run.state.step (.swapEntry i) = some after)
    (sound : Sound (run.observe after (.swapEntry i))) :
    Coherent (run.observe after (.swapEntry i)) := by
  obtain ⟨armed, rfl⟩ := of_guard moved
  have new : i ∉ run.order := fun listed => ((coherent.ordered i).mp listed).2 armed
  have located : ∀ j ∈ run.order, run.state.fired j = false →
      j ∈ run.state.entry.toList ++ run.unmarked := by
    intro j listed unfired
    rcases coherent.located j listed unfired with inEntry | due
    · exact List.mem_append_left _ (Option.mem_toList.mpr inEntry)
    · exact List.mem_append_right _ due
  refine ⟨sound, ?_, ?_, ?_, ?_, ?_⟩
  · intro j listed unfired
    rcases List.mem_cons.mp listed with rfl | older
    · exact .inl rfl
    · exact .inr (located j older unfired)
  · intro j first _ stays
    obtain rfl := Option.some.inj first
    refine ⟨Bool.eq_false_iff.mpr fun fired => stays ?_, rfl⟩
    exact coherent.early i new fired
  · intro j listed
    rcases List.mem_append.mp listed with latest | older
    · obtain ⟨inOrder, stays⟩ := List.mem_filter.mp latest
      refine ⟨List.mem_cons_of_mem i inOrder, of_decide_eq_true stays, ?_⟩
      cases fired : run.state.fired j with
      | false => exact .inr (located j inOrder fired)
      | true => exact .inl fired
    · obtain ⟨inOrder, stays, markedOrDue⟩ := coherent.superseded j older
      exact ⟨List.mem_cons_of_mem i inOrder, stays,
        markedOrDue.imp_right (List.mem_append_right _)⟩
  · exact fun _ _ found => absurd found.symm (Option.some_ne_none _)
  · exact coherent.verdicts

/-- The fallback that is marked is not the latest. -/
theorem coherent_storeFired (moved : run.state.step (.storeFired i) = some after)
    (sound : Sound (run.observe after (.storeFired i))) :
    Coherent (run.observe after (.storeFired i)) := by
  simp only [Pending.step] at moved
  split at moved
  · next old replacing =>
    obtain rfl := Option.some.inj moved
    have other : ∀ j, run.order.head? = some j → j ≠ old := by
      rintro j first rfl
      exact (coherent.replaced i j replacing).2 first
    have stillDue : ∀ j, j ≠ old → j ∈ run.unmarked →
        j ∈ run.unmarked.filter fun j => run.state.schedules i ≠ .replacing j := by
      intro j other due
      refine List.mem_filter.mpr ⟨due, decide_eq_true fun same => other ?_⟩
      exact (ScheduleStep.replacing.inj (replacing.symm.trans same)).symm
    refine ⟨sound, ?_, ?_, ?_, ?_, ?_⟩
    · intro j listed unfired
      obtain ⟨notOld, unfired⟩ := unfired_of_mark unfired
      exact (coherent.located j listed unfired).imp_right (stillDue j notOld)
    · intro j first untaken stays
      obtain ⟨unfired, inEntry⟩ := coherent.latest j first untaken stays
      exact ⟨(fired_mark_of_ne (other j first)).trans unfired, inEntry⟩
    · intro j listed
      obtain ⟨inOrder, stays, markedOrDue⟩ := coherent.superseded j listed
      refine ⟨inOrder, stays, ?_⟩
      by_cases isOld : j = old
      · exact .inl (isOld ▸ fired_mark_self run.state old)
      · exact markedOrDue.imp fired_mark (stillDue j isOld)
    · intro l j found
      obtain ⟨first, stays, stands⟩ := coherent.due l j found
      refine ⟨first, stays, ?_⟩
      have kept : (run.state.mark old).fired j = run.state.fired j :=
        fired_mark_of_ne (other j first)
      change _ ∨ (_ ∧ (run.state.mark old).fired j = false) ∨
        (_ ∧ (run.state.mark old).fired j = true) ∨ _
      rw [kept]
      exact stands
    · intro j verdict listed
      obtain ⟨cancelled, fired, stays⟩ := coherent.verdicts j verdict listed
      exact ⟨cancelled, fired_mark fired, stays⟩
  · cases moved

/-- A callback that begins to fire is not about to be marked, so its fallback was not superseded and
no cancel holds it. -/
theorem coherent_swapFired (undisturbed : i ∉ run.unmarked)
    (moved : run.state.step (.swapFired i) = some after)
    (sound : Sound (run.observe after (.swapFired i))) :
    Coherent (run.observe after (.swapFired i)) := by
  obtain ⟨⟨_, waiting⟩, same⟩ := Option.ite_none_right_eq_some.mp moved
  have callbacks : after.callbacks = Function.update run.state.callbacks i
      (if run.state.fired i then .gaveUp else .began) := by
    rw [← Option.some.inj same]
    rfl
  -- Of the fallback itself it is known that it does not begin if it was marked.
  have idle : ∀ j, (j = i → run.state.fired i = true) → ¬ run.state.Began j →
      ¬ after.Began j := by
    intro j marked stays
    unfold Pending.Began
    rw [callbacks]
    by_cases own : j = i
    · rw [own, Function.update_self, if_pos (marked own)]
      exact fun fires => fires.2 rfl
    · rw [Function.update_of_ne own]
      exact stays
  have others : ∀ j, j ≠ i → ¬ after.Began j → ¬ run.state.Began j := by
    intro j other stays
    unfold Pending.Began at stays
    rw [callbacks, Function.update_of_ne other] at stays
    exact stays
  have fires : run.state.fired i = false → after.Began i := by
    intro unfired
    unfold Pending.Began
    rw [callbacks, Function.update_self, unfired]
    exact ⟨by decide, by decide⟩
  have unbegun : ¬ run.state.Began i := fun began => began.1 waiting
  have marks : after.fired = (run.state.mark i).fired := by
    rw [← Option.some.inj same]
    rfl
  have entry : after.entry = run.state.entry := by
    rw [← Option.some.inj same]
    rfl
  have cancels : after.cancels = run.state.cancels := by
    rw [← Option.some.inj same]
    rfl
  refine ⟨sound, ?_, ?_, ?_, ?_, ?_⟩ <;> simp only [Run.observe, marks, entry, cancels]
  · intro j listed unfired
    exact coherent.located j listed (unfired_of_mark unfired).2
  · intro j first untaken stays
    by_cases own : j = i
    · subst own
      exact absurd (fires (coherent.latest j first untaken unbegun).1) stays
    · obtain ⟨unfired, inEntry⟩ := coherent.latest j first untaken (others j own stays)
      exact ⟨(fired_mark_of_ne own).trans unfired, inEntry⟩
  · intro j listed
    obtain ⟨inOrder, stays, markedOrDue⟩ := coherent.superseded j listed
    have marked : j = i → run.state.fired i = true := by
      rintro rfl
      exact markedOrDue.resolve_right undisturbed
    exact ⟨inOrder, idle j marked stays, markedOrDue.imp_left fired_mark⟩
  · intro l j found
    obtain ⟨found, other⟩ := Option.filter_eq_some_iff.mp found
    obtain ⟨first, stays, stands⟩ := coherent.due l j found
    have marked : j = i → run.state.fired i = true := fun own =>
      (of_decide_eq_true other).resolve_left (not_not.mpr own)
    refine ⟨first, idle j marked stays, stands.imp_right (Or.imp ?_ (Or.imp_left ?_))⟩
    · rintro ⟨loaded, unfired⟩
      have notOwn : j ≠ i := by
        rintro rfl
        exact absurd ((marked rfl).symm.trans unfired) (by decide)
      exact ⟨loaded, (fired_mark_of_ne notOwn).trans unfired⟩
    · exact And.imp_right fired_mark
  · intro j verdict listed
    obtain ⟨cancelled, fired, stays⟩ := coherent.verdicts j verdict listed
    exact ⟨cancelled, fired_mark fired, idle j (fun own => own ▸ fired) stays⟩

theorem coherent_deleteEntry (undisturbed : run.state.entry = none ∨ run.state.entry = some i)
    (moved : run.state.step (.deleteEntry i) = some after)
    (sound : Sound (run.observe after (.deleteEntry i))) :
    Coherent (run.observe after (.deleteEntry i)) := by
  obtain ⟨began, rfl⟩ := of_guard moved
  have fires : run.state.Began i := by
    rw [Pending.Began, began]
    decide
  have inEntry : ∀ j, run.state.entry = some j → j = i := by
    intro j found
    rcases undisturbed with empty | own
    · cases empty.symm.trans found
    · exact Option.some.inj (found.symm.trans own)
  have idle : ∀ j, ¬ (run.state.toCallback i .deleted).Began j ↔ ¬ run.state.Began j := fun j =>
    not_congr (began_toCallback fires (by decide) j)
  have stepped := coherent.toSound.toCallback .deleted fires (by decide)
    (by rw [coherent.delivered, began]; rfl) fun _ _ => rfl
  have coherentAfter := coherent.toCallback .deleted fires (by decide) stepped
  refine ⟨sound, ?_, ?_, coherentAfter.superseded, coherentAfter.due, coherentAfter.verdicts⟩
  · intro j listed unfired
    refine .inr ((coherent.located j listed unfired).resolve_left fun found => ?_)
    rw [inEntry j found] at unfired
    exact absurd ((coherent.marked i fires.1).symm.trans unfired) (by decide)
  · intro j first untaken stays
    have stayed := (idle j).mp stays
    have found := (coherent.latest j first untaken stayed).2
    exact absurd (inEntry j found ▸ fires) stayed

theorem coherent_fallback (moved : run.state.step (.fallback i) = some after)
    (sound : Sound (run.observe after (.fallback i))) :
    Coherent (run.observe after (.fallback i)) := by
  obtain ⟨deleted, rfl⟩ := of_guard moved
  have fires : run.state.Began i := by
    rw [Pending.Began, deleted]
    decide
  exact coherent.toCallback .delivered fires (by decide) sound

/-- A cancel that is called is to cancel the latest schedule, if that one has not begun to fire. -/
theorem coherent_cancel (moved : run.state.step (.cancel k) = some after)
    (sound : Sound (run.observe after (.cancel k))) :
    Coherent (run.observe after (.cancel k)) := by
  obtain ⟨new, rfl⟩ := of_guard moved
  obtain ⟨_, located, latest, superseded, due, verdicts⟩ := coherent
  refine { toSound := sound, located, latest, superseded, due := fun l j found => ?_, verdicts }
  simp only [Run.observe, Pending.toCancel, Function.update_apply] at found ⊢
  split at found
  · next here =>
    obtain ⟨first, due⟩ := Option.filter_eq_some_iff.mp found
    rw [decide_eq_true_eq] at due
    exact ⟨first, due.2, .inl (if_pos here)⟩
  · next other =>
    rw [if_neg other]
    exact due l j found

/-- A cancel that is not the second for its schedule finds it in the entry, unmarked. -/
theorem coherent_loadAndDelete (undisturbed : ∀ i ∈ run.due k, i ∉ run.taken)
    (moved : run.state.step (.loadAndDelete k) = some after)
    (sound : Sound (run.observe after (.loadAndDelete k))) :
    Coherent (run.observe after (.loadAndDelete k)) := by
  obtain ⟨_, rfl⟩ := of_guard moved
  have found : ∀ j, run.due k = some j →
      run.state.fired j = false ∧ run.state.entry = some j := by
    intro j due
    obtain ⟨first, stays, _⟩ := coherent.due k j due
    exact coherent.latest j first (undisturbed j due) stays
  refine ⟨sound, ?_, ?_, ?_, ?_, ?_⟩
  · intro j listed unfired
    refine .inr ((coherent.located j listed unfired).elim (fun inEntry => ?_)
      (List.mem_append_right _))
    exact List.mem_append_left _ (Option.mem_toList.mpr inEntry)
  · intro j first untaken stays
    have inEntry := (coherent.latest j first
      (fun old => untaken (List.mem_append_right _ old)) stays).2
    exact absurd (List.mem_append_left _ (Option.mem_toList.mpr inEntry)) untaken
  · intro j listed
    obtain ⟨inOrder, stays, markedOrDue⟩ := coherent.superseded j listed
    exact ⟨inOrder, stays, markedOrDue.imp_right (List.mem_append_right _)⟩
  · intro l j due
    obtain ⟨first, stays, stands⟩ := coherent.due l j due
    refine ⟨first, stays, ?_⟩
    simp only [Run.observe, Pending.toCancel, Function.update_apply]
    by_cases own : l = k
    · subst own
      obtain ⟨unfired, inEntry⟩ := found j due
      rw [if_pos rfl, inEntry]
      exact .inr (.inl ⟨rfl, unfired⟩)
    · rw [if_neg own]
      exact stands
  · intro j verdict listed
    rcases List.mem_append.mp listed with new | old
    · obtain ⟨returned, due⟩ := mem_verdict new
      have loaded := (cancels_toCancel run.state k _).symm.trans returned
      rw [(found j due).2] at loaded
      cases loaded
    · exact coherent.verdicts j verdict old

/-- The fallback a cancel marks is held by no other cancel. -/
theorem coherent_swapLoaded (moved : run.state.step (.swapLoaded k) = some after)
    (sound : Sound (run.observe after (.swapLoaded k))) :
    Coherent (run.observe after (.swapLoaded k)) := by
  simp only [Pending.step] at moved
  split at moved
  · next i loaded =>
    obtain rfl := Option.some.inj moved
    have stillDue : ∀ j, j ≠ i → j ∈ run.unmarked →
        j ∈ run.unmarked.filter fun j => run.state.cancels k ≠ .loaded j := by
      intro j other due
      refine List.mem_filter.mpr ⟨due, decide_eq_true fun same => other ?_⟩
      exact (CancelStep.loaded.inj (loaded.symm.trans same)).symm
    have own : ∀ j, run.due k = some j → j = i ∧ run.state.fired i = false := by
      intro j due
      rcases (coherent.due k j due).2.2 with called | ⟨holds, unfired⟩ | ⟨stopping, _⟩ |
        ⟨_, returned⟩
      · cases loaded.symm.trans called
      · cases loaded.symm.trans holds
        exact ⟨rfl, unfired⟩
      · cases loaded.symm.trans stopping
      · cases loaded.symm.trans returned
    refine ⟨sound, ?_, ?_, ?_, ?_, ?_⟩
    · intro j listed unfired
      obtain ⟨other, unfired⟩ := unfired_of_mark unfired
      exact (coherent.located j listed unfired).imp_right (stillDue j other)
    · intro j first untaken stays
      have other : j ≠ i := by
        rintro rfl
        exact untaken (coherent.held k j loaded)
      obtain ⟨unfired, inEntry⟩ := coherent.latest j first untaken stays
      exact ⟨(fired_mark_of_ne other).trans unfired, inEntry⟩
    · intro j listed
      obtain ⟨inOrder, stays, markedOrDue⟩ := coherent.superseded j listed
      refine ⟨inOrder, stays, ?_⟩
      by_cases same : j = i
      · exact .inl (same ▸ fired_mark_self run.state i)
      · exact markedOrDue.imp fired_mark (stillDue j same)
    · intro l j due
      obtain ⟨first, stays, stands⟩ := coherent.due l j due
      refine ⟨first, stays, ?_⟩
      by_cases mine : l = k
      · subst mine
        obtain ⟨rfl, unfired⟩ := own j due
        refine .inr (.inr (.inl ⟨?_, fired_mark_self run.state j⟩))
        simp only [Run.observe, Pending.toCancel, Function.update_self, unfired]
        rfl
      · have stepped : ((run.state.mark i).toCancel k (if run.state.fired i then .returned false
            else .stopping i)).cancels l = run.state.cancels l :=
          Function.update_of_ne mine _ run.state.cancels
        simp only [Run.observe]
        rw [stepped]
        refine stands.imp_right (Or.imp ?_ (Or.imp_left (And.imp_right fired_mark)))
        rintro ⟨holds, unfired⟩
        have other : j ≠ i := by
          rintro rfl
          exact mine (coherent.heldOnce l k j holds loaded)
        exact ⟨holds, (fired_mark_of_ne other).trans unfired⟩
    · intro j verdict listed
      rcases List.mem_append.mp listed with new | old
      · obtain ⟨returned, due⟩ := mem_verdict new
        have stopping := (cancels_toCancel (run.state.mark i) k _).symm.trans returned
        rw [(own j due).2] at stopping
        cases stopping
      · obtain ⟨cancelled, fired, stays⟩ := coherent.verdicts j verdict old
        exact ⟨cancelled, fired_mark fired, stays⟩
  · cases moved

theorem coherent_stopTimer (moved : run.state.step (.stopTimer k) = some after)
    (sound : Sound (run.observe after (.stopTimer k))) :
    Coherent (run.observe after (.stopTimer k)) := by
  simp only [Pending.step] at moved
  split at moved
  · next i stopping =>
    obtain rfl := Option.some.inj moved
    refine ⟨sound, coherent.located, coherent.latest, coherent.superseded, ?_, ?_⟩
    · intro l j due
      obtain ⟨first, stays, stands⟩ := coherent.due l j due
      refine ⟨first, stays, ?_⟩
      simp only [Run.observe, Pending.toCancel, Function.update_apply]
      by_cases mine : l = k
      · exact .inr (.inr (.inr ⟨true, if_pos mine⟩))
      · rw [if_neg mine]
        exact stands
    · intro j verdict listed
      rcases List.mem_append.mp listed with new | old
      · obtain ⟨returned, due⟩ := mem_verdict new
        cases (cancels_toCancel (run.state.stopTimer i) k _).symm.trans returned
        obtain ⟨_, stays, called | ⟨loaded, _⟩ | ⟨_, fired⟩ | ⟨_, returned⟩⟩ := coherent.due k j due
        · cases stopping.symm.trans called
        · cases stopping.symm.trans loaded
        · exact ⟨rfl, fired, stays⟩
        · cases stopping.symm.trans returned
      · exact coherent.verdicts j verdict old
  · cases moved

end

end steps

theorem coherent_step {before after : Run} (coherent : Coherent before)
    (undisturbed : Undisturbed before label)
    (taken : fallbacks.step before label = some after) : Coherent after := by
  have sound := sound_step coherent.toSound taken
  obtain ⟨state, moved, rfl⟩ := Option.map_eq_some_iff.mp taken
  have same : Coherent before := coherent
  obtain ⟨_, located, latest, superseded, due, verdicts⟩ := coherent
  cases label with
  | schedule i =>
    obtain ⟨_, rfl⟩ := of_guard moved
    exact { toSound := sound, located, latest, superseded, due, verdicts }
  | swapEntry i => exact coherent_swapEntry same moved sound
  | storeFired i => exact coherent_storeFired same moved sound
  | stop i =>
    simp only [Pending.step] at moved
    split at moved
    · obtain rfl := Option.some.inj moved
      exact { toSound := sound, located, latest, superseded, due, verdicts }
    · cases moved
  | expire i =>
    obtain ⟨_, rfl⟩ := of_guard moved
    exact { toSound := sound, located, latest, superseded, due, verdicts }
  | swapFired i => exact coherent_swapFired same undisturbed moved sound
  | deleteEntry i => exact coherent_deleteEntry same undisturbed moved sound
  | fallback i => exact coherent_fallback same moved sound
  | cancel k => exact coherent_cancel same moved sound
  | loadAndDelete k => exact coherent_loadAndDelete same undisturbed moved sound
  | swapLoaded k => exact coherent_swapLoaded same moved sound
  | stopTimer k => exact coherent_stopTimer same moved sound

theorem coherent_start : Coherent .start where
  toSound := sound_start
  located := fun _ listed => absurd listed List.not_mem_nil
  latest := fun _ first => absurd first.symm (Option.some_ne_none _)
  superseded := fun _ listed => absurd listed List.not_mem_nil
  due := fun _ _ found => absurd found.symm (Option.some_ne_none _)
  verdicts := fun _ _ listed => absurd listed List.not_mem_nil

/-- What is known of marks and callbacks leaves no fallback delivered that should not be. -/
theorem Coherent.deliveredOrCancelled {run : Run} (coherent : Coherent run) :
    DeliveredOrCancelled run := by
  have undelivered : ∀ i, ¬ run.state.Began i → i ∉ run.delivered := by
    intro i idle
    have count := coherent.delivered i
    rw [if_neg fun delivered => idle ⟨by rw [delivered]; decide, by rw [delivered]; decide⟩]
      at count
    exact List.count_eq_zero.mp count
  refine ⟨coherent.once, fun i listed => ?_, fun i verdict listed => ?_⟩
  · exact undelivered i (coherent.superseded i listed).2.1
  · obtain ⟨cancelled, _, idle⟩ := coherent.verdicts i verdict listed
    exact ⟨cancelled, undelivered i idle⟩

/-! ### A callback that is late -/

/-- A fallback begins to fire, another is scheduled, the callback of the first deletes the entry of
the second, and the cancel that follows finds none. -/
def lateCallback : List Label :=
  [.schedule 0, .swapEntry 0, .expire 0, .swapFired 0, .schedule 1, .swapEntry 1, .storeFired 1,
    .stop 1, .deleteEntry 0, .cancel 0, .loadAndDelete 0, .expire 1, .swapFired 1, .deleteEntry 1,
    .fallback 1]

theorem lateCallback_delivered :
    ¬ ∀ run, Reachable fallbacks run → DeliveredOrCancelled run := by
  intro always
  have ends : (fallbacks.run .start lateCallback).any (fun run =>
      run.verdicts == [(1, false)] && run.delivered == [1]) = true := by decide
  obtain ⟨run, reached, passed⟩ := exists_reachable_of_run rfl ends
  rw [Bool.and_eq_true, beq_iff_eq, beq_iff_eq] at passed
  have verdict := (always run reached).cancelled 1 false (by rw [passed.1]; decide)
  exact Bool.false_ne_true verdict.1

/-! ### Every undisturbed run -/

/-- In every run whose steps are undisturbed, each fallback is delivered or cancelled, and not
both. -/
theorem deliveredOrCancelled_of_undisturbed (run : Run)
    (reached : ReachableWhen fallbacks Undisturbed run) : DeliveredOrCancelled run := by
  refine (reached.invariant Coherent ?_ ?_).deliveredOrCancelled
  · rintro _ rfl
    exact coherent_start
  · exact fun _ _ _ coherent undisturbed taken => coherent_step coherent undisturbed taken

/-- A fallback is scheduled, superseded by a second one, and that one is cancelled. -/
theorem deliveredOrCancelled_superseded :
    ∃ run, ReachableWhen fallbacks Undisturbed run ∧ run.superseded = [0] ∧
      run.verdicts = [(1, true)] ∧ DeliveredOrCancelled run := by
  have ends : (fallbacks.runWhen Undisturbed .start [.schedule 0, .swapEntry 0, .schedule 1,
      .swapEntry 1, .storeFired 1, .stop 1, .cancel 0, .loadAndDelete 0, .swapLoaded 0,
      .stopTimer 0]).any (fun run => run.superseded == [0] && run.verdicts == [(1, true)]) =
      true := by decide
  obtain ⟨run, reached, passed⟩ := exists_reachableWhen_of_runWhen rfl ends
  rw [Bool.and_eq_true, beq_iff_eq, beq_iff_eq] at passed
  exact ⟨run, reached, passed.1, passed.2, deliveredOrCancelled_of_undisturbed run reached⟩

/-! ### Cancelled for good -/

theorem state_observe (run : Run) (after : Pending) (label : Label) :
    (run.observe after label).state = after := by cases label <;> rfl

/-- A fallback that is marked, and not by its own callback. -/
def Pending.Settled (s : Pending) (i : Nat) : Prop := s.fired i = true ∧ ¬ s.Began i

theorem Pending.settled_step {i : Nat} (settled : s.Settled i)
    (moved : s.step label = some after) : after.Settled i := by
  obtain ⟨fired, idle⟩ := settled
  simp only [Settled, Began] at idle ⊢
  cases label <;> simp only [step] at moved <;> split at moved <;>
    simp only [Option.some.injEq, reduceCtorEq] at moved <;> subst moved <;>
    simp only [toStep, mark, toCallback, toCancel, stopTimer, Function.update_apply] <;> grind

/-- Only the cancel that finds a fallback unmarked, and marks it, goes on to stop its timer. -/
theorem Pending.step_stopping {k i : Nat}
    (moved : s.step label = some after) (stopping : after.cancels k = .stopping i) :
    s.cancels k = .stopping i ∨ s.fired i = false ∧ after.fired i = true ∧
      after.callbacks = s.callbacks ∧ ∀ other ≠ k, after.cancels other = s.cancels other := by
  have notLoading : s.entry.elim (.returned false) .loaded ≠ CancelStep.stopping i := by
    cases s.entry <;> exact CancelStep.noConfusion
  cases label <;> simp only [step] at moved <;> split at moved <;>
    simp only [Option.some.injEq, reduceCtorEq] at moved <;> subst moved <;>
    simp only [toStep, mark, toCallback, toCancel, stopTimer, Function.update_apply]
      at stopping ⊢ <;> grind

/-- A cancel that is to stop a timer is the only one, and its fallback is settled. -/
def Pending.Chosen (s : Pending) : Prop :=
  ∀ k i, s.cancels k = .stopping i →
    s.Settled i ∧ ∀ other, s.cancels other = .stopping i → other = k

theorem Pending.chosen_step
    (marked : ∀ i, s.callbacks i ≠ .waiting → s.fired i = true) (chosen : s.Chosen)
    (moved : s.step label = some after) : after.Chosen := by
  intro k i stopping
  rcases step_stopping moved stopping with before | ⟨unfired, fired, sameCallbacks, others⟩
  · obtain ⟨settled, alone⟩ := chosen k i before
    refine ⟨settled_step settled moved, fun other stops => ?_⟩
    rcases step_stopping moved stops with earlier | ⟨unfired, -⟩
    · exact alone other earlier
    · exact absurd (settled.1.symm.trans unfired) Bool.noConfusion
  · have waiting : s.callbacks i = .waiting := by
      by_contra moves
      exact absurd ((marked i moves).symm.trans unfired) Bool.noConfusion
    refine ⟨⟨fired, fun began => began.1 (sameCallbacks ▸ waiting)⟩, fun other stops => ?_⟩
    by_contra different
    have settled := (chosen other i ((others other different).symm.trans stops)).1
    exact absurd (settled.1.symm.trans unfired) Bool.noConfusion

theorem settled_run {i : Nat} (labels : List Label) {before after : Run}
    (settled : before.state.Settled i) (ran : fallbacks.run before labels = some after) :
    after.state.Settled i := by
  induction labels generalizing before with
  | nil => exact Option.some.inj ran ▸ settled
  | cons label rest inductionHypothesis =>
    obtain ⟨next, taken, ran⟩ := Option.bind_eq_some_iff.mp ran
    obtain ⟨state, moved, rfl⟩ := Option.map_eq_some_iff.mp taken
    refine inductionHypothesis ?_ ran
    rw [state_observe]
    exact Pending.settled_step settled moved

/-- In every run, with no condition on the order of the steps, no fallback is delivered twice; and
if a cancel has found its fallback unmarked, it alone has, and that fallback is never delivered. -/
theorem never_delivered_of_stopping (run : Run) (reached : Reachable fallbacks run)
    (labels : List Label) (after : Run) (ran : fallbacks.run run labels = some after) :
    (∀ i, after.delivered.count i ≤ 1) ∧
    ∀ k i, run.state.cancels k = .stopping i →
      i ∉ after.delivered ∧ ∀ other, run.state.cancels other = .stopping i → other = k := by
  have known : ∀ run, Reachable fallbacks run → Sound run ∧ run.state.Chosen := fun run reached =>
    reached.invariant (fun run => Sound run ∧ run.state.Chosen)
      (by rintro _ rfl; exact ⟨sound_start, fun _ _ => nofun⟩)
      (by
        rintro before label _ ⟨sound, chosen⟩ - taken
        refine ⟨sound_step sound taken, ?_⟩
        obtain ⟨state, moved, rfl⟩ := Option.map_eq_some_iff.mp taken
        rw [state_observe]
        exact Pending.chosen_step sound.marked chosen moved)
  have sound := (known after (reached.run labels ran)).1
  refine ⟨sound.once, fun k i stopping => ?_⟩
  obtain ⟨settled, alone⟩ := (known run reached).2 k i stopping
  refine ⟨List.count_eq_zero.mp ?_, alone⟩
  rw [sound.delivered, if_neg]
  intro delivered
  exact (settled_run labels settled ran).2 (by rw [Pending.Began, delivered]; decide)

/-- A cancel finds its fallback unmarked just before the timer expires. -/
theorem never_delivered_of_stopping_late : ∃ run after, Reachable fallbacks run ∧
    run.state.cancels 0 = .stopping 0 ∧
      fallbacks.run run [.expire 0, .swapFired 0, .stopTimer 0] = some after ∧
        0 ∉ after.delivered := by
  have ends : (fallbacks.run .start [.schedule 0, .swapEntry 0, .cancel 0, .loadAndDelete 0,
      .swapLoaded 0]).any (fun run => run.state.cancels 0 == .stopping 0 &&
        (fallbacks.run run [.expire 0, .swapFired 0, .stopTimer 0]).isSome) = true := by decide
  obtain ⟨run, reached, passed⟩ := exists_reachable_of_run rfl ends
  rw [Bool.and_eq_true, beq_iff_eq] at passed
  obtain ⟨after, ran⟩ := Option.isSome_iff_exists.mp passed.2
  exact ⟨run, after, reached, passed.1, ran,
    ((never_delivered_of_stopping run reached _ after ran).2 0 0 passed.1).1⟩

end SovaDesk.Signal.Fallback
