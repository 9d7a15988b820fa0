/-
This file is a small library of bounded queues that lose what does not fit.

An item that is offered is appended if there is room, and is lost otherwise; nobody waits. Two
records are kept beside the queue which no program reads: what was offered so far, each time with
the number of items that were unread then, and what was received. They say what a queue is for: the
received items and the unread ones are the offered items without the lost ones, in the same order.
-/

import Mathlib.Data.List.Basic

namespace Lossy

/-- A queue with its records. -/
structure Queue (Item : Type) where
  unread : List Item
  offered : List (Item × Nat)
  received : List Item

variable {Item : Type}

namespace Queue

def empty : Queue Item := ⟨[], [], []⟩

/-- Offer an item to a queue of a given capacity. -/
def offer (capacity : Nat) (item : Item) (queue : Queue Item) : Queue Item where
  unread := if queue.unread.length < capacity then queue.unread ++ [item] else queue.unread
  offered := queue.offered ++ [(item, queue.unread.length)]
  received := queue.received

/-- Receive the first unread item, if there is one. -/
def receive (queue : Queue Item) : Option (Item × Queue Item) :=
  match queue.unread with
  | [] => none
  | item :: rest =>
    some (item, { queue with
      unread := rest
      received := queue.received ++ [item] })

/-- The received and the unread items are the offered ones that found room. -/
structure Sound (capacity : Nat) (queue : Queue Item) : Prop where
  bounded : queue.unread.length ≤ capacity
  waiting : ∀ entry ∈ queue.offered, entry.2 ≤ capacity
  kept : queue.received ++ queue.unread =
    (queue.offered.filter (·.2 < capacity)).map Prod.fst

theorem sound_empty (capacity : Nat) : (empty : Queue Item).Sound capacity where
  bounded := Nat.zero_le capacity
  waiting _ member := absurd member List.not_mem_nil
  kept := rfl

section

variable {capacity : Nat} {queue after : Queue Item} {item : Item}

theorem Sound.offer (sound : queue.Sound capacity) (item : Item) :
    (queue.offer capacity item).Sound capacity where
  bounded := by
    have bounded := sound.bounded
    unfold Queue.offer
    dsimp only
    split
    · simp; omega
    · exact bounded
  waiting entry member := by
    rcases List.mem_append.mp member with earlier | last
    · exact sound.waiting entry earlier
    · rw [List.mem_singleton.mp last]
      exact sound.bounded
  kept := by
    unfold Queue.offer
    by_cases room : queue.unread.length < capacity
    · simp [room, ← sound.kept]
    · simp [room, sound.kept]

theorem Sound.receive (sound : queue.Sound capacity) (taken : queue.receive = some (item, after)) :
    after.Sound capacity := by
  unfold Queue.receive at taken
  split at taken
  · exact absurd taken (Option.some_ne_none _).symm
  · next first rest unread =>
    have bounded := sound.bounded
    have kept := sound.kept
    rw [unread] at bounded kept
    obtain ⟨rfl, rfl⟩ := Prod.mk.inj (Option.some.inj taken)
    exact ⟨Nat.le_of_succ_le bounded, sound.waiting, by simpa using kept⟩

/-- What was received and what is unread are offered items, in the order of the offers. -/
theorem Sound.sublist (sound : queue.Sound capacity) :
    List.Sublist (queue.received ++ queue.unread) (queue.offered.map Prod.fst) := by
  rw [sound.kept]
  exact List.filter_sublist.map _

/-- An offered item is received, unread, or was lost to a full queue. -/
theorem Sound.lost (sound : queue.Sound capacity) {waiting : Nat}
    (offered : (item, waiting) ∈ queue.offered) :
    item ∈ queue.received ∨ item ∈ queue.unread ∨ waiting = capacity := by
  rcases Nat.lt_or_ge waiting capacity with room | full
  · have kept : item ∈ queue.received ++ queue.unread := by
      rw [sound.kept]
      exact List.mem_map.mpr ⟨(item, waiting), List.mem_filter.mpr ⟨offered, by simpa⟩, rfl⟩
    exact (List.mem_append.mp kept).imp_right Or.inl
  · exact Or.inr (Or.inr (Nat.le_antisymm (sound.waiting _ offered) full))

theorem offered_receive (taken : queue.receive = some (item, after)) :
    after.offered = queue.offered := by
  unfold Queue.receive at taken
  split at taken
  · exact absurd taken (Option.some_ne_none _).symm
  · obtain ⟨-, rfl⟩ := Prod.mk.inj (Option.some.inj taken)
    rfl

end

end Queue

end Lossy
