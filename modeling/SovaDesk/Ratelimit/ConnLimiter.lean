/-
This file models the limiter of concurrent connections per address.

The counts are 32-bit integers in the source and never leave that range: an acquisition
stays at most at the maximum, which is clamped to the range, and a count that falls to zero
is removed.
-/

import SovaDesk.Lib.Table

namespace SovaDesk.Ratelimit

/-- `math.MaxInt32`. -/
def maxInt32 : Int := 2147483647

/-- A limiter: the active connections of each address, and how many an address may have. -/
structure ConnLimiter where
  active : Table String Int
  maxConn : Int

/-- `NewConnLimiterFromInt`. -/
def newConnLimiterFromInt (maxPerIP : Int) : ConnLimiter :=
  ⟨∅, if maxPerIP ≤ 0 then 0 else if maxPerIP > maxInt32 then maxInt32 else maxPerIP⟩

namespace ConnLimiter

/-- `ActiveCount`: a missing key counts as zero. -/
def activeCount (l : ConnLimiter) (ip : String) : Int := (l.active.lookup ip).getD 0

/-- `Acquire`: a slot for an address, unless it is at its limit. -/
def acquire (l : ConnLimiter) (ip : String) : Option ConnLimiter :=
  if l.activeCount ip ≥ l.maxConn then none
  else some { l with active := l.active.insert ip (l.activeCount ip + 1) }

/-- `Release`. -/
def release (l : ConnLimiter) (ip : String) : ConnLimiter :=
  let count := l.activeCount ip - 1
  if count ≤ 0 then { l with active := l.active.erase ip }
  else { l with active := l.active.insert ip count }

theorem maxConn_new_nonneg (maxPerIP : Int) : 0 ≤ (newConnLimiterFromInt maxPerIP).maxConn := by
  unfold newConnLimiterFromInt maxInt32
  dsimp only
  split
  · exact le_refl 0
  · split <;> omega

section acquire

variable {l after : ConnLimiter} {ip : String}

theorem acquire_some (acquired : l.acquire ip = some after) :
    l.activeCount ip < l.maxConn ∧ after.maxConn = l.maxConn ∧
      ∀ other, after.activeCount other =
        if other = ip then l.activeCount other + 1 else l.activeCount other := by
  unfold acquire at acquired
  split at acquired
  · exact absurd acquired nofun
  · next below =>
    obtain rfl := Option.some.inj acquired
    refine ⟨not_le.mp below, rfl, fun other => ?_⟩
    simp only [activeCount, Table.lookup_insert_if]
    split
    · next same => rw [same, Option.getD_some]
    · rfl

theorem maxConn_release (l : ConnLimiter) (ip : String) : (l.release ip).maxConn = l.maxConn := by
  unfold release
  dsimp only
  split <;> rfl

/-- A slot that is held is given back. -/
theorem activeCount_release (held : 0 < l.activeCount ip) (other : String) :
    (l.release ip).activeCount other =
      if other = ip then l.activeCount other - 1 else l.activeCount other := by
  unfold release
  dsimp only
  split
  · next last =>
    simp only [activeCount, Table.lookup_erase_if] at *
    split
    · next same =>
      subst same
      rw [Option.getD_none]
      omega
    · rfl
  · simp only [activeCount, Table.lookup_insert_if]
    split
    · next same => rw [same, Option.getD_some]
    · rfl

end acquire

end ConnLimiter

end SovaDesk.Ratelimit
