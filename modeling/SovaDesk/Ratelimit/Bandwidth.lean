/-
This file models the bandwidth limiter of relay sessions, and settles when what it charges
is what was relayed.

A bucket holds tokens that come back with time. A read or a write is granted as many bytes
as there are tokens in the bucket of its session and in the global one, and the tokens are
taken before the bytes are read or written. So a read is charged for the bytes it asks for
and not for the bytes it gets, and a byte that is relayed is charged when it is read and
again when it is written. How many tokens come back is a number in floating point; here it
is any number, so no reading of that arithmetic matters, and neither does what the buckets
hold. Tokens that are taken are counted in a field of their own, which no decision reads.
-/

import Mathlib.Algebra.Order.Group.Int
import SovaDesk.Lib.System

namespace SovaDesk.Ratelimit

open Transition

/-! ### Buckets -/

/-- A token bucket: its limit, its tokens, and how many tokens have been taken in all. -/
structure Bucket where
  limit : Int
  tokens : Int
  taken : Int

namespace Bucket

def full (limit : Int) : Bucket := ⟨limit, limit, 0⟩

/-- Tokens for the time since the last refill, if any has passed, up to the limit. -/
def refill (bucket : Bucket) : Option Int → Bucket
  | some amount => { bucket with tokens := min (bucket.tokens + amount) bucket.limit }
  | none => bucket

def take (bucket : Bucket) (n : Int) : Bucket :=
  { bucket with tokens := bucket.tokens - n, taken := bucket.taken + n }

@[simp] theorem taken_refill (bucket : Bucket) (amount : Option Int) :
    (bucket.refill amount).taken = bucket.taken := by
  cases amount <;> rfl

@[simp] theorem taken_take (bucket : Bucket) (n : Int) :
    (bucket.take n).taken = bucket.taken + n := rfl

end Bucket

/-! ### The limiter -/

structure BandwidthLimiter where
  sessionLimit : Int
  bucket : Bucket
  totalBytes : Int
  activeSess : Int
  throttleHits : Int

def newBandwidthLimiter (totalLimit sessionLimit : Int) : BandwidthLimiter :=
  ⟨sessionLimit, .full totalLimit, 0, 0, 0⟩

variable (bl : BandwidthLimiter)

namespace BandwidthLimiter

/-- The bucket of a new reader, which counts as an active session. -/
def wrapReader (bl : BandwidthLimiter) : Bucket × BandwidthLimiter :=
  (.full bl.sessionLimit, { bl with activeSess := bl.activeSess + 1 })

/-- The bucket of a new writer. -/
def wrapWriter (bl : BandwidthLimiter) : Bucket := .full bl.sessionLimit

/-- `consumeGlobal`: how many of `n` bytes are allowed, which are then charged and counted. -/
def consumeGlobal (bl : BandwidthLimiter) (refill : Option Int) (n : Int) :
    Int × BandwidthLimiter :=
  let bucket := bl.bucket.refill refill
  if n > bucket.tokens then
    if bucket.tokens ≤ 0 then
      (0, { bl with bucket := bucket, throttleHits := bl.throttleHits + 1 })
    else
      (bucket.tokens, { bl with
        bucket := bucket.take bucket.tokens, totalBytes := bl.totalBytes + bucket.tokens })
  else (n, { bl with bucket := bucket.take n, totalBytes := bl.totalBytes + n })

/-- What is allowed is charged to the bucket and counted. -/
theorem consumeGlobal_spec (refill : Option Int) {n : Int} (positive : 0 < n) :
    0 ≤ (bl.consumeGlobal refill n).1 ∧ (bl.consumeGlobal refill n).1 ≤ n ∧
      (bl.consumeGlobal refill n).2.bucket.taken =
        bl.bucket.taken + (bl.consumeGlobal refill n).1 ∧
      (bl.consumeGlobal refill n).2.totalBytes =
        bl.totalBytes + (bl.consumeGlobal refill n).1 := by
  unfold consumeGlobal
  dsimp only
  split
  · split
    · exact ⟨le_refl 0, Int.le_of_lt positive, by simp, by simp⟩
    · exact ⟨by omega, by omega, by simp, rfl⟩
  · exact ⟨Int.le_of_lt positive, le_refl n, by simp, rfl⟩

end BandwidthLimiter

/-! ### Reading and writing -/

/-- What a call finds: the length of the slice it is given, and the tokens that came back to the
two buckets since their last refills. -/
structure Call where
  length : Nat
  sessionRefill : Option Int
  globalRefill : Option Int

/-- The part that reads and writes have in common: how many bytes a call is granted. A call that is
granted none sleeps and comes back. -/
def grant (bl : BandwidthLimiter) (session : Bucket) (call : Call) :
    Nat × Bucket × BandwidthLimiter :=
  let session := session.refill call.sessionRefill
  let allowed := min (call.length : Int) session.tokens
  if allowed ≤ 0 then (0, session, bl)
  else
    let global := bl.consumeGlobal call.globalRefill allowed
    if global.1 ≤ 0 then (0, session, global.2)
    else (global.1.toNat, session.take global.1, global.2)

/-- What is granted is taken from both buckets and counted, whatever becomes of it. -/
theorem grant_spec (session : Bucket) (call : Call) :
    (grant bl session call).1 ≤ call.length ∧
      (grant bl session call).2.1.taken = session.taken + (grant bl session call).1 ∧
      (grant bl session call).2.2.bucket.taken = bl.bucket.taken + (grant bl session call).1 ∧
      (grant bl session call).2.2.totalBytes = bl.totalBytes + (grant bl session call).1 := by
  unfold grant
  dsimp only
  split
  · exact ⟨Nat.zero_le _, by simp, by simp, by simp⟩
  · next some_ =>
    obtain ⟨nonneg, bound, taken, total⟩ :=
      bl.consumeGlobal_spec call.globalRefill (not_le.mp some_)
    split
    · have none := le_antisymm ‹_› nonneg
      rw [none, add_zero] at taken total
      exact ⟨Nat.zero_le _, by simp, by simp [taken], by simp [total]⟩
    · refine ⟨by omega, ?_, ?_, ?_⟩
      · simp only [Bucket.taken_take, Bucket.taken_refill, Int.toNat_of_nonneg nonneg]
      · simp only [taken, Int.toNat_of_nonneg nonneg]
      · simp only [total, Int.toNat_of_nonneg nonneg]

/-- What an inner reader or writer does with a slice: a number of bytes up to its length, and
perhaps an error. -/
structure Outcome (length : Nat) where
  count : Nat
  bounded : count ≤ length
  failed : Bool

/-- An inner reader or writer at the time of one call. -/
abbrev Inner := (length : Nat) → Outcome length

/-- A call of a limited reader or writer that asks its inner one for what it is granted. -/
def limited (bl : BandwidthLimiter) (session : Bucket) (call : Call) (inner : Inner) :
    (Nat × Bool) × Bucket × BandwidthLimiter :=
  let granted := grant bl session call
  if granted.1 = 0 then ((0, false), granted.2)
  else (((inner granted.1).count, (inner granted.1).failed), granted.2)

/-- `limitedReader.Read`: the bytes returned and whether with an error. -/
def read (bl : BandwidthLimiter) (reader : Bucket) (call : Call) (inner : Inner) :
    (Nat × Bool) × Bucket × BandwidthLimiter := limited bl reader call inner

/-- One round of the loop of `limitedWriter.Write`: the bytes written and whether with an error. -/
def writeRound (bl : BandwidthLimiter) (writer : Bucket) (call : Call) (inner : Inner) :
    (Nat × Bool) × Bucket × BandwidthLimiter := limited bl writer call inner

theorem count_limited_le (session : Bucket) (call : Call) (inner : Inner) :
    (limited bl session call inner).1.1 ≤ (grant bl session call).1 := by
  unfold limited
  dsimp only
  split
  · exact Nat.zero_le _
  · exact (inner _).bounded

@[simp] theorem snd_limited (session : Bucket) (call : Call)
    (inner : Inner) : (limited bl session call inner).2 = (grant bl session call).2 := by
  unfold limited
  dsimp only
  split <;> rfl

/-! ### Readers on one limiter -/

/-- Readers that share a limiter, with the bytes that each has returned and that all have. -/
structure Readers where
  limiter : BandwidthLimiter
  reader : Nat → Bucket
  returned : Nat → Int
  total : Int

/-- A call of one of the readers. -/
structure ReadCall where
  reader : Nat
  call : Call
  inner : Inner

namespace Readers

/-- The bytes that the call is granted. -/
def granted (s : Readers) (label : ReadCall) : Nat :=
  (grant s.limiter (s.reader label.reader) label.call).1

/-- The bytes that the call returns. -/
def count (s : Readers) (label : ReadCall) : Nat :=
  (Ratelimit.read s.limiter (s.reader label.reader) label.call label.inner).1.1

def read (s : Readers) (label : ReadCall) : Readers where
  limiter := (Ratelimit.read s.limiter (s.reader label.reader) label.call label.inner).2.2
  reader := Function.update s.reader label.reader
    (Ratelimit.read s.limiter (s.reader label.reader) label.call label.inner).2.1
  returned := Function.update s.returned label.reader
    (s.returned label.reader + s.count label)
  total := s.total + s.count label

/-- Any readers wrapped by a new limiter, and any sequence of their calls. -/
def system : System Readers ReadCall where
  start s := ∃ totalLimit sessionLimit, s.limiter.bucket = .full totalLimit ∧
    s.limiter.totalBytes = 0 ∧ (∀ i, s.reader i = .full sessionLimit) ∧ (∀ i, s.returned i = 0) ∧
      s.total = 0
  step s label := some (s.read label)

/-- What was taken from the bucket of each reader is what it returned, and what was taken from the
global bucket, and what was counted, is what all of them returned. -/
structure Exact (s : Readers) : Prop where
  session : ∀ i, (s.reader i).taken = s.returned i
  global : s.limiter.bucket.taken = s.total
  counted : s.limiter.totalBytes = s.total

/-- The inner reader fills the slice that it is given. -/
def Fills (step : Taken Readers ReadCall) : Prop :=
  (step.label.inner (step.before.granted step.label)).count = step.before.granted step.label

theorem count_le_granted (s : Readers) (label : ReadCall) : s.count label ≤ s.granted label :=
  count_limited_le _ _ _ _

/-- A call returns what it is granted exactly when the inner reader fills its slice. -/
theorem count_eq_granted_iff (step : Taken Readers ReadCall) :
    step.before.count step.label = step.before.granted step.label ↔ Fills step := by
  have count : step.before.count step.label = if step.before.granted step.label = 0 then 0 else
      (step.label.inner (step.before.granted step.label)).count := by
    unfold Readers.count Ratelimit.read limited Readers.granted
    dsimp only
    split <;> rfl
  rw [count, Fills]
  split
  · next none =>
    have bound := (step.label.inner (step.before.granted step.label)).bounded
    omega
  · rfl

/-- The global bucket is charged for what a call is granted. -/
theorem read_limiter (s : Readers) (label : ReadCall) :
    (s.read label).limiter.bucket.taken = s.limiter.bucket.taken + s.granted label ∧
      (s.read label).limiter.totalBytes = s.limiter.totalBytes + s.granted label := by
  obtain ⟨_, _, global, counted⟩ :=
    grant_spec s.limiter (s.reader label.reader) label.call
  simp only [read, Ratelimit.read, snd_limited]
  exact ⟨global, counted⟩

theorem read_reader (s : Readers) (label : ReadCall) (i : Nat) :
    ((s.read label).reader i).taken = (s.reader i).taken +
      (if i = label.reader then (s.granted label : Int) else 0) := by
  obtain ⟨_, session, _, _⟩ := grant_spec s.limiter (s.reader label.reader) label.call
  simp only [read, Ratelimit.read, snd_limited, Function.update_apply]
  split
  · next same => rw [same, session, granted]
  · rw [add_zero]

theorem read_returned (s : Readers) (label : ReadCall) (i : Nat) :
    (s.read label).returned i = s.returned i +
      (if i = label.reader then (s.count label : Int) else 0) := by
  simp only [read, Function.update_apply]
  split
  · next same => rw [same]
  · rw [add_zero]

/-- What is charged never falls below what is returned, and is no more than that exactly when every
inner read filled its slice. -/
theorem exact_iff {steps : List (Taken Readers ReadCall)} {final : Readers}
    (history : History system steps final) :
    final.total ≤ final.limiter.bucket.taken ∧ (Exact final ↔ ∀ step ∈ steps, Fills step) := by
  induction history with
  | start initial =>
    obtain ⟨totalLimit, sessionLimit, global, counted, reader, returned, total⟩ := initial
    refine ⟨by rw [global, total]; exact le_refl 0,
      fun _ _ member => absurd member List.not_mem_nil,
      fun _ => ⟨fun i => ?_, ?_, ?_⟩⟩
    · rw [reader, returned]
      rfl
    · rw [global, total]
      rfl
    · rw [counted, total]
  | @step steps before after label earlier taken inductionHypothesis =>
    obtain ⟨charged, exactBefore⟩ := inductionHypothesis
    obtain rfl := Option.some.inj taken
    obtain ⟨global, counted⟩ := before.read_limiter label
    have total : (before.read label).total = before.total + before.count label := rfl
    have bound := before.count_le_granted label
    refine ⟨by omega, ?_⟩
    rw [List.forall_mem_cons, ← exactBefore, ← count_eq_granted_iff]
    constructor
    · intro exactAfter
      have together := exactAfter.global
      have same : before.count label = before.granted label := by omega
      refine ⟨same, ⟨fun i => ?_, by omega, ?_⟩⟩
      · have session := exactAfter.session i
        rw [read_reader, read_returned, same] at session
        exact add_right_cancel session
      · have also := exactAfter.counted
        omega
    · rintro ⟨same, exactBefore⟩
      have same : before.count label = before.granted label := same
      refine ⟨fun i => ?_, ?_, ?_⟩
      · rw [read_reader, read_returned, same, exactBefore.session i]
      · rw [global, total, same, exactBefore.global]
      · rw [counted, total, same, exactBefore.counted]

end Readers

/-! ### A relay session -/

/-- Where one direction of a session stands: `io.Copy` reads into its buffer, or writes what it has
read, of which so many bytes remain, and stops after a failed read or write. -/
inductive Phase
  | reading
  | writing (remaining : Nat) (readFailed : Bool)
  | done
  deriving DecidableEq

/-- The bytes that were read and not yet written. -/
def Phase.pending : Phase → Nat
  | .writing remaining _ => remaining
  | _ => 0

/-- A session on a limiter that other sessions use too: the buckets of its readers and writers and
the phases of its two directions, what was taken from the global bucket for it, and how many bytes
it has relayed. -/
structure Session where
  limiter : BandwidthLimiter
  reader : Bool → Bucket
  writer : Bool → Bucket
  phase : Bool → Phase
  charged : Int
  relayed : Int

/-- The steps of a session, and the use that another session makes of the limiter. The length of a
call is not for the caller to choose here: reads have the buffer's, writes what remains. -/
inductive SessionLabel
  | read (direction : Bool) (call : Call) (inner : Inner)
  | write (direction : Bool) (call : Call) (inner : Inner)
  | elsewhere (refill : Option Int) (n : Int)

/-- The length of the buffer of `io.Copy`. -/
def copyBuffer : Nat := 32 * 1024

namespace Session

/-- The bytes that a read or a write of the session is granted. -/
def granted (s : Session) : SessionLabel → Nat
  | .read direction call _ =>
    (grant s.limiter (s.reader direction) { call with length := copyBuffer }).1
  | .write direction call _ =>
    (grant s.limiter (s.writer direction) { call with length := (s.phase direction).pending }).1
  | .elsewhere _ _ => 0

/-- A read of `io.Copy`: what was read is written next, and a read that fails is the last one. -/
def read (s : Session) (direction : Bool) (call : Call) (inner : Inner) : Session :=
  let result := Ratelimit.read s.limiter (s.reader direction)
    { call with length := copyBuffer } inner
  { s with
    limiter := result.2.2
    reader := Function.update s.reader direction result.2.1
    phase := Function.update s.phase direction
      (if result.1.1 > 0 then .writing result.1.1 result.1.2
        else if result.1.2 then .done else .reading)
    charged := s.charged + s.granted (.read direction call inner) }

/-- A round of the write: the direction stops when it fails, and reads again, unless the last read
failed, when nothing remains. -/
def write (s : Session) (direction : Bool) (call : Call) (inner : Inner) (remaining : Nat)
    (readFailed : Bool) : Session :=
  let result := Ratelimit.writeRound s.limiter (s.writer direction)
    { call with length := remaining } inner
  { s with
    limiter := result.2.2
    writer := Function.update s.writer direction result.2.1
    phase := Function.update s.phase direction
      (if result.1.2 then .done
        else if remaining - result.1.1 = 0 then if readFailed then .done else .reading
        else .writing (remaining - result.1.1) readFailed)
    charged := s.charged + s.granted (.write direction call inner)
    relayed := s.relayed + result.1.1 }

def step (s : Session) : SessionLabel → Option Session
  | .read direction call inner =>
    match s.phase direction with
    | .reading => some (s.read direction call inner)
    | _ => none
  | .write direction call inner =>
    match s.phase direction with
    | .writing remaining readFailed => some (s.write direction call inner remaining readFailed)
    | _ => none
  | .elsewhere refill n => some { s with limiter := (s.limiter.consumeGlobal refill n).2 }

/-- The wrapping of `startRelay`: a reader and a writer for each connection. -/
def wrap (limiter : BandwidthLimiter) : Session where
  limiter := limiter.wrapReader.2.wrapReader.2
  reader _ := limiter.wrapReader.1
  writer _ := limiter.wrapWriter
  phase _ := .reading
  charged := 0
  relayed := 0

def system : System Session SessionLabel where
  start s := ∃ limiter, s = wrap limiter
  step := step

/-- A read of the session is granted nothing. -/
def Starved (step : Taken Session SessionLabel) : Prop :=
  ∀ direction call inner, step.label = .read direction call inner →
    step.before.granted step.label = 0

/-- The bytes of both directions that were read and not yet written. -/
def pending (s : Session) : Nat := (s.phase false).pending + (s.phase true).pending

theorem pending_update (s : Session) (direction : Bool) (phase : Phase) :
    (Function.update s.phase direction phase false).pending +
      (Function.update s.phase direction phase true).pending + (s.phase direction).pending =
        s.pending + phase.pending := by
  unfold Session.pending
  cases direction
  · rw [Function.update_self, Function.update_of_ne Bool.false_ne_true.symm]
    omega
  · rw [Function.update_self, Function.update_of_ne Bool.false_ne_true]
    omega

/-- A read is charged at least for the bytes that it leaves to be written. -/
theorem pending_read (s : Session) {direction : Bool} (call : Call) (inner : Inner)
    (phase : s.phase direction = .reading) :
    (s.read direction call inner).pending ≤
      s.pending + s.granted (.read direction call inner) := by
  have before : (s.phase direction).pending = 0 := by
    rw [phase]
    rfl
  have bound : (Ratelimit.read s.limiter (s.reader direction)
      { call with length := copyBuffer } inner).1.1 ≤ s.granted (.read direction call inner) :=
    count_limited_le _ _ _ _
  unfold Session.read Session.pending
  generalize Ratelimit.read s.limiter (s.reader direction) { call with length := copyBuffer }
    inner = outcome at bound
  have pending := s.pending_update direction (if outcome.1.1 > 0 then
    .writing outcome.1.1 outcome.1.2 else if outcome.1.2 then .done else .reading)
  have small : (if outcome.1.1 > 0 then Phase.writing outcome.1.1 outcome.1.2
      else if outcome.1.2 then .done else .reading).pending ≤ outcome.1.1 := by
    split
    · exact le_refl _
    · split <;> exact Nat.zero_le _
  unfold Session.pending at pending
  dsimp only
  omega

/-- A round of a write is charged at least for the bytes that it writes. -/
theorem pending_write (s : Session) {direction : Bool} (call : Call) (inner : Inner)
    {remaining : Nat} {readFailed : Bool}
    (phase : s.phase direction = .writing remaining readFailed) :
    ∃ count ≤ s.granted (.write direction call inner),
      (s.write direction call inner remaining readFailed).relayed = s.relayed + count ∧
      (s.write direction call inner remaining readFailed).pending + count ≤ s.pending := by
  have before : (s.phase direction).pending = remaining := by
    rw [phase]
    rfl
  have bound : (writeRound s.limiter (s.writer direction) { call with length := remaining }
      inner).1.1 ≤ s.granted (.write direction call inner) := by
    rw [granted, before]
    exact count_limited_le _ _ _ _
  have short : (writeRound s.limiter (s.writer direction) { call with length := remaining }
      inner).1.1 ≤ remaining :=
    Nat.le_trans (count_limited_le _ _ _ _) (grant_spec _ _ _).1
  refine ⟨_, bound, rfl, ?_⟩
  unfold Session.write Session.pending
  generalize writeRound s.limiter (s.writer direction) { call with length := remaining }
    inner = outcome at short
  have pending := s.pending_update direction (if outcome.1.2 then .done
    else if remaining - outcome.1.1 = 0 then if readFailed then .done else .reading
    else .writing (remaining - outcome.1.1) readFailed)
  have small : (if outcome.1.2 then Phase.done
      else if remaining - outcome.1.1 = 0 then if readFailed then .done else .reading
      else .writing (remaining - outcome.1.1) readFailed).pending ≤ remaining - outcome.1.1 := by
    split
    · exact Nat.zero_le _
    · split
      · split <;> exact Nat.zero_le _
      · exact le_refl _
  unfold Session.pending at pending
  dsimp only
  omega

/-- A byte is charged when it is read, and again when it is written: with what a step charges, its
bytes are paid for twice over. -/
theorem step_spec {s after : Session} {label : SessionLabel} (taken : s.step label = some after) :
    after.charged = s.charged + s.granted label ∧ s.relayed ≤ after.relayed ∧
      2 * after.relayed + after.pending ≤ 2 * s.relayed + s.pending + s.granted label := by
  cases label with
  | read direction call inner =>
    rw [step] at taken
    split at taken
    · next phase =>
      obtain rfl := Option.some.inj taken
      have pending := s.pending_read call inner phase
      have relayed : (s.read direction call inner).relayed = s.relayed := rfl
      exact ⟨rfl, le_refl _, by omega⟩
    · cases taken
  | write direction call inner =>
    rw [step] at taken
    split at taken
    · next remaining readFailed phase =>
      obtain rfl := Option.some.inj taken
      obtain ⟨count, bound, relayed, pending⟩ := s.pending_write call inner phase
      exact ⟨rfl, by omega, by omega⟩
    · cases taken
  | elsewhere refill n =>
    obtain rfl := Option.some.inj taken
    have nothing : s.granted (.elsewhere refill n) = 0 := rfl
    refine ⟨?_, le_refl _, ?_⟩
    · rw [nothing, Int.natCast_zero, add_zero]
    · rw [nothing, Int.natCast_zero, add_zero]
      exact le_refl _

/-- Every byte that was relayed has been charged twice, and nothing is charged exactly when no read
was granted a byte. -/
theorem charged_spec {steps : List (Taken Session SessionLabel)} {final : Session}
    (history : History system steps final) :
    0 ≤ final.relayed ∧ 2 * final.relayed + final.pending ≤ final.charged ∧
      (final.charged = 0 ↔ ∀ step ∈ steps, Starved step) := by
  induction history with
  | start initial =>
    obtain ⟨limiter, rfl⟩ := initial
    exact ⟨le_refl _, le_refl _, fun _ _ member => absurd member List.not_mem_nil, fun _ => rfl⟩
  | @step steps before after label earlier taken inductionHypothesis =>
    obtain ⟨nonneg, charged, nothing⟩ := inductionHypothesis
    obtain ⟨charge, more, paid⟩ := step_spec taken
    refine ⟨by omega, by omega, ?_⟩
    rw [List.forall_mem_cons, ← nothing]
    constructor
    · intro none
      exact ⟨fun _ _ _ _ => show before.granted label = 0 by omega, by omega⟩
    · rintro ⟨starved, none⟩
      have granted : before.granted label = 0 := by
        cases label with
        | read direction call inner => exact starved direction call inner rfl
        | write direction call inner =>
          have length : (before.phase direction).pending ≤ before.pending := by
            unfold Session.pending
            cases direction <;> omega
          have bound : before.granted (.write direction call inner) ≤
              (before.phase direction).pending := (grant_spec _ _ _).1
          omega
        | elsewhere refill n => rfl
      omega

/-- What a session is charged is what it relays exactly when its reads are never granted a byte. -/
theorem charged_iff {steps : List (Taken Session SessionLabel)} {final : Session}
    (history : History system steps final) :
    final.charged = final.relayed ↔ ∀ step ∈ steps, Starved step := by
  obtain ⟨nonneg, charged, nothing⟩ := charged_spec history
  rw [← nothing]
  omega

end Session

/-- Readers are charged for what they return exactly when every inner read fills its slice; a
session is charged for what it relays exactly when its reads are never granted a byte. -/
theorem charged_as_relayed (readings : List (Taken Readers ReadCall)) (readers : Readers)
    (read : History Readers.system readings readers)
    (steps : List (Taken Session SessionLabel)) (final : Session)
    (relayed : History Session.system steps final) :
    (Readers.Exact readers ↔ ∀ reading ∈ readings, Readers.Fills reading) ∧
      (final.charged = final.relayed ↔ ∀ step ∈ steps, Session.Starved step) :=
  ⟨(Readers.exact_iff read).2, Session.charged_iff relayed⟩

/-! ### Runs -/

/-- An inner reader or writer that handles at most so many bytes at once. -/
def Inner.upTo (most : Nat) : Inner := fun length => ⟨min most length, Nat.min_le_right _ _, false⟩

/-- One reader on a new limiter of a hundred bytes a second. -/
def Readers.fresh : Readers := ⟨newBandwidthLimiter 100 100, fun _ => .full 100, fun _ => 0, 0⟩

theorem Readers.start_fresh : Readers.system.start .fresh :=
  ⟨100, 100, rfl, rfl, fun _ => rfl, fun _ => rfl, rfl⟩

/-- A call with a slice of 64 bytes. -/
def Readers.call (most : Nat) : ReadCall := ⟨0, ⟨64, none, none⟩, .upTo most⟩

/-- A read of the whole slice, and nothing but other sessions on the limiter. -/
theorem charged_as_relayed_filled :
    Readers.Exact (Readers.fresh.read (Readers.call 64)) ∧
      ∃ final : Session, final.charged = final.relayed := by
  have filled : History Readers.system
      [⟨Readers.fresh, Readers.call 64, Readers.fresh.read (Readers.call 64)⟩]
      (Readers.fresh.read (Readers.call 64)) := .step (.start Readers.start_fresh) rfl
  have session : History Session.system [] (Session.wrap (newBandwidthLimiter 100 100)) :=
    .start ⟨_, rfl⟩
  obtain ⟨exactly, starved⟩ := charged_as_relayed _ _ filled _ _ session
  refine ⟨exactly.mpr fun step member => ?_, _,
    starved.mpr fun _ member => absurd member List.not_mem_nil⟩
  rw [List.mem_singleton.mp member]
  exact show (64 : Nat) = 64 from rfl

/-- Ten bytes that come for a slice of 64 are charged as 64, and a hundred bytes that are relayed
are charged as two hundred. -/
theorem short_read_overcharged :
    (∃ steps final, History Readers.system steps final ∧ ¬Readers.Exact final) ∧
      ∃ steps final, History Session.system steps final ∧ final.relayed = 100 ∧
        final.charged = 200 := by
  have short : History Readers.system
      [⟨Readers.fresh, Readers.call 10, Readers.fresh.read (Readers.call 10)⟩]
      (Readers.fresh.read (Readers.call 10)) := .step (.start Readers.start_fresh) rfl
  have inexact : (Readers.fresh.read (Readers.call 10)).limiter.bucket.taken ≠
      (Readers.fresh.read (Readers.call 10)).total := by decide
  refine ⟨⟨_, _, short, fun same => inexact same.global⟩, ?_⟩
  have started : Session.system.start (Session.wrap (newBandwidthLimiter 100 100)) := ⟨_, rfl⟩
  have ran : (Session.system.trace [] (Session.wrap (newBandwidthLimiter 100 100))
      [.read true ⟨0, none, none⟩ (.upTo 100),
        .write true ⟨0, none, some 100⟩ (.upTo 100)]).any
          (fun run => run.2.relayed == 100 && run.2.charged == 200) = true := by decide
  obtain ⟨steps, final, history, passed⟩ := exists_history_of_trace started ran
  rw [Bool.and_eq_true, beq_iff_eq, beq_iff_eq] at passed
  exact ⟨steps, final, history, passed⟩

end SovaDesk.Ratelimit
