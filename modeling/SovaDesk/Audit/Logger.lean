/-
This file models the audit logger, and settles what its queries return.

The logger keeps the latest events in a ring of cells: every event is written where the cursor
stands, and the cursor goes on by one, back to the start behind the last cell. A query walks back
from the cursor. What it reads is, at every moment and for every capacity, the end of the sequence
of all events that were logged, and no cell outside the ring is touched on the way.
-/

import SovaDesk.Lib.RingBuffer
import SovaDesk.Lib.Table

namespace SovaDesk.Audit

/-! ### The logger -/

abbrev Action := String

structure Event where
  timestamp : Int
  action : Action
  actor : String
  target : String
  details : Table String String

/-- The zero value of an event, with which the cells are filled at first. -/
def Event.zero : Event := ⟨0, "", "", "", ∅⟩

/-- The logger. The file, if one is open, is the list of the lines that were written to it. -/
structure Logger where
  events : List Event
  maxSize : Nat
  cursor : Nat
  total : Nat
  file : Option (List String)

def defaultMaxEvents : Nat := 10000

def maxRecentLimit : Int := 500

/-- A logger of a given capacity. -/
def emptyLogger (capacity : Nat) (file : Option (List String)) : Logger where
  events := List.replicate capacity Event.zero
  maxSize := capacity
  cursor := 0
  total := 0
  file := file

/-- `NewLogger`: the file is open when a path is given and the file could be opened. -/
def newLogger (opened : Option (List String)) : Logger := emptyLogger defaultMaxEvents opened

namespace Logger

/-- `Log` from where the event has its timestamp. Writing outside the ring is a panic, and so is
the remainder of a division by zero. The line of an event that cannot be marshalled is left out. -/
def log (marshal : Event → Option String) (l : Logger) (event : Event) : Option Logger :=
  if l.cursor < l.events.length ∧ l.maxSize ≠ 0 then
    some { l with
      events := l.events.set l.cursor event
      cursor := (l.cursor + 1) % l.maxSize
      total := l.total + 1
      file := l.file.map fun lines => lines ++ (marshal event).toList }
  else none

/-- The calls of `Log`, one after the other. -/
def logAll (marshal : Event → Option String) (l : Logger) (events : List Event) : Option Logger :=
  events.foldlM (log marshal) l

/-- `events[(cursor-1-i+maxSize) % maxSize]`, which panics outside the ring. -/
def eventAt (l : Logger) (i : Nat) : Option Event :=
  let idx := RingBuffer.slotBack l.maxSize l.cursor i
  if 0 ≤ idx then l.events[idx.toNat]? else none

end Logger

def clampRecentLimit (n : Int) : Nat :=
  if n ≤ 0 then 0 else if n > maxRecentLimit then maxRecentLimit.toNat else n.toNat

namespace Logger

/-- How many events there are to read. -/
def count (l : Logger) : Nat := if l.total > l.maxSize then l.maxSize else l.total

/-- `Recent`. -/
def recent (l : Logger) (n : Int) : Option (List Event) :=
  let n := clampRecentLimit n
  let n := if n > l.count then l.count else n
  (List.range n).mapM l.eventAt

/-- The loop of `RecentByAction` over the indexes that are left. -/
def collectByAction (l : Logger) (action : Action) (n : Nat) :
    List Nat → List Event → Option (List Event)
  | [], result => some result
  | i :: rest, result =>
    if result.length < n then do
      let event ← l.eventAt i
      l.collectByAction action n rest
        (if event.action = action then result ++ [event] else result)
    else some result

/-- `RecentByAction`. -/
def recentByAction (l : Logger) (action : Action) (n : Int) : Option (List Event) :=
  l.collectByAction action (clampRecentLimit n) (List.range l.count) []

end Logger

theorem clampRecentLimit_eq (n : Int) : clampRecentLimit n = min n.toNat 500 := by
  unfold clampRecentLimit
  show (if n ≤ 0 then 0 else if n > 500 then 500 else n.toNat) = _
  split
  · next nonpositive => rw [Int.toNat_of_nonpos nonpositive, Nat.zero_min]
  · split <;> omega

/-! ### The ring and the log -/

/-- The logger after a sequence of events, started with the given file. -/
structure Holds (marshal : Event → Option String) (capacity : Nat) (file : Option (List String))
    (l : Logger) (logged : List Event) : Prop where
  cells : l.events.length = capacity
  maxSize : l.maxSize = capacity
  cursor : l.cursor = logged.length % capacity
  total : l.total = logged.length
  keeps : RingBuffer.Keeps l.events logged
  file : l.file = file.map fun lines => lines ++ logged.filterMap marshal

section

variable {marshal : Event → Option String} {capacity : Nat} {file : Option (List String)}
  {l : Logger} {logged : List Event}

theorem holds_emptyLogger (marshal : Event → Option String) (capacity : Nat)
    (file : Option (List String)) :
    Holds marshal capacity file (emptyLogger capacity file) [] where
  cells := List.length_replicate
  maxSize := rfl
  cursor := (Nat.zero_mod capacity).symm
  total := rfl
  keeps := RingBuffer.keeps_nil _
  file := by cases file <;> simp [emptyLogger]

section

variable (holds : Holds marshal capacity file l logged)

include holds

/-- One call of `Log` does not panic, and adds its event. -/
theorem Holds.log (positive : 1 ≤ capacity)
    (event : Event) : ∃ after, l.log marshal event = some after ∧
      Holds marshal capacity file after (logged ++ [event]) := by
  have inside : l.cursor < l.events.length := by
    rw [holds.cells, holds.cursor]
    exact Nat.mod_lt _ positive
  have nonzero : l.maxSize ≠ 0 := by
    rw [holds.maxSize]
    exact Nat.one_le_iff_ne_zero.mp positive
  refine ⟨_, if_pos ⟨inside, nonzero⟩, ?_⟩
  constructor
  · simp [holds.cells]
  · exact holds.maxSize
  · simp [holds.cursor, holds.maxSize]
  · simp [holds.total]
  · have pushed := holds.keeps.push (by rw [holds.cells]; exact positive) event
    rwa [holds.cells, ← holds.cursor] at pushed
  · cases marshalled : marshal event <;> simp [holds.file, marshalled, Function.comp_def]

theorem Holds.logAll (positive : 1 ≤ capacity)
    (events : List Event) : ∃ after, l.logAll marshal events = some after ∧
      Holds marshal capacity file after (logged ++ events) := by
  induction events generalizing l logged with
  | nil => exact ⟨l, rfl, by simpa using holds⟩
  | cons event events inductionHypothesis =>
    obtain ⟨next, first, holdsNext⟩ := holds.log positive event
    obtain ⟨after, rest, holdsAfter⟩ := inductionHypothesis holdsNext
    refine ⟨after, ?_, by simpa using holdsAfter⟩
    rw [Logger.logAll, List.foldlM_cons, first]
    exact rest

theorem Holds.count : l.count = min capacity logged.length := by
  rw [Logger.count, holds.maxSize, holds.total]
  split <;> omega

/-- The index of the walk back stays in the ring, and reads the log backwards. -/
theorem Holds.eventAt {i : Nat} (inside : i < l.count) : l.eventAt i = logged.reverse[i]? := by
  rw [holds.count, lt_min_iff] at inside
  rw [Logger.eventAt, holds.maxSize, holds.cursor]
  rw [if_pos (RingBuffer.slotBack_nonneg inside.1 inside.2), ← holds.cells]
  exact holds.keeps.get_slotBack (by rw [holds.cells]; exact inside.1) inside.2

/-- Reading the first cells of the walk. -/
theorem Holds.mapM_eventAt {n : Nat}
    (inside : n ≤ l.count) : (List.range n).mapM l.eventAt = some (logged.reverse.take n) := by
  induction n with
  | zero => rfl
  | succ n inductionHypothesis =>
    have logs : n < logged.reverse.length := by
      rw [holds.count, le_min_iff] at inside
      rw [List.length_reverse]
      omega
    rw [List.range_succ, List.mapM_append, inductionHypothesis (by omega), List.take_add_one,
      List.mapM_cons, holds.eventAt (by omega), List.getElem?_eq_getElem logs]
    rfl

end

end

/-- The loop of `RecentByAction`, where every index that is left can be read: it takes what it
still has room for from the events of the action. -/
theorem collectByAction_eq {l : Logger} (action : Action) (n : Nat) {indexes : List Nat}
    {events : List Event} (reads : indexes.mapM l.eventAt = some events) (result : List Event)
    (short : result.length ≤ n) :
    l.collectByAction action n indexes result =
      some (result ++ (events.filter (·.action = action)).take (n - result.length)) := by
  induction indexes generalizing events result with
  | nil =>
    rw [List.mapM_nil, Option.pure_def, Option.some_inj] at reads
    simp [Logger.collectByAction, ← reads]
  | cons i rest inductionHypothesis =>
    rw [List.mapM_cons] at reads
    obtain ⟨event, first, remaining⟩ := Option.bind_eq_some_iff.mp reads
    obtain ⟨later, readsLater, listed⟩ := Option.bind_eq_some_iff.mp remaining
    obtain rfl : event :: later = events := Option.some.inj listed
    rw [Logger.collectByAction]
    by_cases full : result.length < n
    · rw [if_pos full, first]
      by_cases wanted : event.action = action
      · have room : n - result.length = n - (result.length + 1) + 1 := by omega
        simp [wanted, inductionHypothesis readsLater (result ++ [event]) (by simp; omega), room]
      · simp [wanted, inductionHypothesis readsLater result short]
    · have none : n - result.length = 0 := by omega
      simp [full, none]

/-- For every capacity and every sequence of logged events no call of `Log` panics, and afterwards
neither does a query: `Recent` returns the latest events, the newest first, as many as were asked
for, up to the limit, the capacity and the number of events; and `RecentByAction` returns the
newest events of the action among those in the ring. -/
theorem recent_latest (marshal : Event → Option String) (capacity : Nat)
    (positive : 1 ≤ capacity) (file : Option (List String)) (logged : List Event) :
    ∃ l, (emptyLogger capacity file).logAll marshal logged = some l ∧
      (∀ n : Int, l.recent n = some
        (logged.reverse.take (min (min n.toNat 500) (min capacity logged.length)))) ∧
      ∀ (action : Action) (n : Int), l.recentByAction action n = some
        (((logged.reverse.take (min capacity logged.length)).filter (·.action = action)).take
          (min n.toNat 500)) := by
  obtain ⟨l, ran, holds⟩ := (holds_emptyLogger marshal capacity file).logAll positive logged
  rw [List.nil_append] at holds
  refine ⟨l, ran, fun n => ?_, fun action n => ?_⟩
  · have taken : (if clampRecentLimit n > l.count then l.count else clampRecentLimit n) =
        min (min n.toNat 500) (min capacity logged.length) := by
      rw [clampRecentLimit_eq, holds.count]
      split <;> omega
    rw [Logger.recent, taken]
    exact holds.mapM_eventAt (by rw [holds.count]; exact Nat.min_le_right _ _)
  · rw [Logger.recentByAction, collectByAction_eq action _ (holds.mapM_eventAt le_rfl) []
      (Nat.zero_le _), clampRecentLimit_eq, holds.count]
    rfl

/-- Three events in a ring of two cells. -/
def sampleEvents : List Event :=
  [⟨1, "peer_banned", "api", "A", ∅⟩, ⟨2, "config_changed", "admin", "B", ∅⟩,
    ⟨3, "peer_banned", "api", "C", ∅⟩]

theorem recent_latest_two :
    1 ≤ 2 ∧ ∃ l, (emptyLogger 2 none).logAll (fun _ => none) sampleEvents = some l ∧
      (∀ n : Int, l.recent n = some
        (sampleEvents.reverse.take (min (min n.toNat 500) (min 2 sampleEvents.length)))) ∧
      ∀ (action : Action) (n : Int), l.recentByAction action n = some
        (((sampleEvents.reverse.take (min 2 sampleEvents.length)).filter
          (·.action = action)).take (min n.toNat 500)) :=
  ⟨by decide, recent_latest (fun _ => none) 2 (by decide) none sampleEvents⟩

end SovaDesk.Audit
