/-
This file models the store of pending two-factor logins with its mutex, and says when it is correct.

Every call of `put` or `take` runs in a goroutine of its own: it acquires the mutex, works on the
map, and releases the mutex by a deferred call when it returns. Releasing a mutex that is not held
ends the process. When the store is full, `put` releases the mutex by hand before it returns, and
then the deferred call releases it again: either nobody holds it, and the process ends, or somebody
else does, who loses it. As long as no call of `put` finds the store full, the mutex is released
once for each acquisition, and the store is what it is meant to be.
-/

import SovaDesk.Lib.System
import SovaDesk.Lib.Table

namespace SovaDesk.Api.TFASessions

open Transition

/-! ### The store and the goroutines -/

/-- `tfaSession`; the time is in nanoseconds. -/
structure TFASession where
  username : String
  role : String
  userID : Int
  clientID : String
  clientUUID : String
  clientIP : String
  createdAt : Int

/-- A session in the store, with the number of the call that put it there. No code reads the
number. -/
structure Stored where
  session : TFASession
  origin : Nat

/-- `5*time.Minute`. -/
def fiveMinutes : Int := 300000000000

/-- The session is too old at a moment. -/
def expired (now : Int) (stored : Stored) : Bool := now - stored.session.createdAt > fiveMinutes

def maxSessions : Nat := 1000

/-- The calls. -/
inductive Request
  | put (secret : String) (session : TFASession)
  | take (secret : String)

/-- What a goroutine does next: lock the mutex, do its work, unlock it as the store is full, or
unlock it as the deferred call. -/
inductive Stage
  | locking
  | working
  | full
  | deferred
  | returned
  deriving DecidableEq

/-- A goroutine: its call, its place, what `take` returns and the moment it looked at, and how often
it released the mutex. -/
structure Goroutine where
  request : Request
  stage : Stage
  answer : Option (Stored × Int)
  unlocks : Nat

structure Process where
  locked : Bool
  sessions : Table String Stored
  goroutines : Table Nat Goroutine
  crashed : Bool

/-- `newTFASessionStore`. -/
def newTFASessionStore : Process := ⟨false, ∅, ∅, false⟩

/-- The sessions that are left when the expired ones are pruned. -/
def prune (now : Int) (sessions : Table String Stored) : Table String Stored :=
  sessions.filter fun _ stored => !expired now stored

namespace Process

/-- A goroutine goes on. -/
def advance (p : Process) (number : Nat) (goroutine : Goroutine) : Process :=
  { p with goroutines := p.goroutines.insert number goroutine }

/-- The body of `put`, up to where it unlocks. -/
def put (p : Process) (number : Nat) (g : Goroutine) (secret : String) (session : TFASession)
    (now : Int) : Process :=
  let kept := prune now p.sessions
  if kept.entries.length ≥ maxSessions then
    { p with sessions := kept }.advance number { g with stage := .full }
  else
    { p with sessions := kept.insert secret ⟨session, number⟩ }.advance number
      { g with stage := .deferred }

/-- The body of `take`. -/
def take (p : Process) (number : Nat) (g : Goroutine) (secret : String) (now : Int) : Process :=
  match p.sessions.lookup secret with
  | none => p.advance number { g with stage := .deferred }
  | some stored =>
    { p with sessions := p.sessions.erase secret }.advance number { g with
      stage := .deferred
      answer := if expired now stored then none else some (stored, now) }

/-- `Unlock`, after which the goroutine is at another place. A mutex that is not locked is a fatal
error. -/
def unlock (p : Process) (number : Nat) (g : Goroutine) (next : Stage) : Process :=
  if p.locked then
    { p with locked := false }.advance number { g with
      stage := next
      unlocks := g.unlocks + 1 }
  else { p with crashed := true }

end Process

/-- The steps of the goroutines; the work is done at a moment. -/
inductive Label
  | start (number : Nat) (request : Request)
  | lock (number : Nat)
  | work (number : Nat) (now : Int)
  | unlock (number : Nat)

/-- A step of a goroutine that is there. -/
def stepOf (p : Process) (number : Nat) (g : Goroutine) : Label → Option Process
  | .start _ _ => none
  | .lock _ =>
    if g.stage = .locking ∧ p.locked = false then
      some ({ p with locked := true }.advance number { g with stage := .working })
    else none
  | .work _ now =>
    if g.stage = .working then
      match g.request with
      | .put secret session => some (p.put number g secret session now)
      | .take secret => some (p.take number g secret now)
    else none
  | .unlock _ =>
    match g.stage with
    | .full => some (p.unlock number g .deferred)
    | .deferred => some (p.unlock number g .returned)
    | _ => none

def Label.number : Label → Nat
  | .start number _ | .lock number | .work number _ | .unlock number => number

/-- One step; a process that ended takes none. -/
def step (p : Process) (label : Label) : Option Process :=
  if p.crashed then none
  else
    match label, p.goroutines.lookup label.number with
    | .start number request, none => some (p.advance number ⟨request, .locking, none, 0⟩)
    | label, some g => stepOf p label.number g label
    | _, none => none

def tfaSystem : System Process Label where
  start p := p = newTFASessionStore
  step := step

/-! ### What the store is for -/

/-- The goroutine holds the mutex. -/
def Stage.Inside (stage : Stage) : Prop := stage = .working ∨ stage = .deferred

/-- The mutex is held by at most one goroutine, which has not released it, and a goroutine that has
returned released it once. -/
structure LockedRight (p : Process) : Prop where
  running : p.crashed = false
  unlocks : ∀ number g, p.goroutines.lookup number = some g →
    g.stage ≠ .full ∧ g.unlocks = if g.stage = .returned then 1 else 0
  held : p.locked = true ↔ ∃ number g, p.goroutines.lookup number = some g ∧ g.stage.Inside
  exclusive : ∀ first g second h, p.goroutines.lookup first = some g → g.stage.Inside →
    p.goroutines.lookup second = some h → h.stage.Inside → first = second

/-- The session was put into the store by the call with the number, under a secret. -/
def PutBy (p : Process) (secret : String) (stored : Stored) : Prop :=
  ∃ g, p.goroutines.lookup stored.origin = some g ∧ g.request = .put secret stored.session ∧
    (g.stage = .deferred ∨ g.stage = .returned)

/-- A call returned a session. -/
def Took (p : Process) (number : Nat) (stored : Stored) (now : Int) : Prop :=
  ∃ g, p.goroutines.lookup number = some g ∧ g.answer = some (stored, now)

/-- The store does what it is for. -/
structure Correct (p : Process) : Prop where
  lock : LockedRight p
  bounded : p.sessions.entries.length ≤ maxSessions
  taken : ∀ number stored now, Took p number stored now →
    now - stored.session.createdAt ≤ fiveMinutes ∧
      ∃ g secret, p.goroutines.lookup number = some g ∧ g.request = .take secret ∧
        PutBy p secret stored
  once : ∀ first second stored other now later, Took p first stored now →
    Took p second other later → stored.origin = other.origin → first = second

def Request.isPut : Request → Bool
  | .put _ _ => true
  | .take _ => false

/-- The condition: no call of `put` finds as many sessions as the store may hold. -/
def RoomLeft (p : Process) : Label → Prop
  | .work number now => ((p.goroutines.lookup number).any fun g => g.request.isPut) = true →
    (prune now p.sessions).entries.length < maxSessions
  | _ => True

instance (p : Process) (label : Label) : Decidable (RoomLeft p label) :=
  match label with
  | .work number now => inferInstanceAs (Decidable (
      ((p.goroutines.lookup number).any fun g => g.request.isPut) = true →
        (prune now p.sessions).entries.length < maxSessions))
  | .start _ _ | .lock _ | .unlock _ => .isTrue trivial

/-! ### The invariant -/

/-- The mutex and who holds it. -/
structure HeldBy (p : Process) (holder : Option Nat) : Prop where
  running : p.crashed = false
  locked : p.locked = holder.isSome
  present : ∀ number, holder = some number → (p.goroutines.lookup number).isSome
  inside : ∀ number g, p.goroutines.lookup number = some g →
    (g.stage.Inside ↔ holder = some number)
  unlocks : ∀ number g, p.goroutines.lookup number = some g →
    g.stage ≠ .full ∧ g.unlocks = if g.stage = .returned then 1 else 0

/-- What holds of the sessions in the store and of those that were returned. -/
structure Kept (p : Process) : Prop where
  bounded : p.sessions.entries.length ≤ maxSessions
  stored : ∀ secret stored, p.sessions.lookup secret = some stored → PutBy p secret stored ∧
    ∀ number other now, Took p number other now → other.origin ≠ stored.origin
  taken : ∀ number stored now, Took p number stored now →
    now - stored.session.createdAt ≤ fiveMinutes ∧
      ∃ g secret, p.goroutines.lookup number = some g ∧ g.request = .take secret ∧
        PutBy p secret stored
  once : ∀ first second stored other now later, Took p first stored now →
    Took p second other later → stored.origin = other.origin → first = second

variable {label : Label}

section steps

variable {p after : Process} {holder : Option Nat} {number : Nat} {g next : Goroutine}

theorem HeldBy.lockedRight (held : HeldBy p holder) : LockedRight p where
  running := held.running
  unlocks := held.unlocks
  held := by
    rw [held.locked]
    constructor
    · intro isSome
      obtain ⟨number, same⟩ := Option.isSome_iff_exists.mp isSome
      obtain ⟨g, found⟩ := Option.isSome_iff_exists.mp (held.present number same)
      exact ⟨number, g, found, (held.inside number g found).mpr same⟩
    · rintro ⟨number, g, found, inside⟩
      rw [(held.inside number g found).mp inside]
      rfl
  exclusive first g second h found inside there within := by
    have firstHolds := (held.inside first g found).mp inside
    have secondHolds := (held.inside second h there).mp within
    exact Option.some.inj (firstHolds.symm.trans secondHolds)

/-- A goroutine that goes on; the others stay where they are, so only its own place decides who
holds the mutex. -/
theorem HeldBy.advance {newHolder : Option Nat} (held : HeldBy p holder)
    (goroutines : after.goroutines = p.goroutines.insert number next)
    (running : after.crashed = false) (locked : after.locked = newHolder.isSome)
    (inside : next.stage.Inside ↔ newHolder = some number)
    (others : ∀ other ≠ number, newHolder = some other ↔ holder = some other)
    (unlocks : next.stage ≠ .full ∧ next.unlocks = if next.stage = .returned then 1 else 0) :
    HeldBy after newHolder where
  running := running
  locked := locked
  present other holds := by
    rw [goroutines, Table.lookup_insert_if]
    split
    · rfl
    · next different => exact held.present other ((others other different).mp holds)
  inside other h found := by
    rw [goroutines, Table.lookup_insert_iff] at found
    rcases found with ⟨rfl, rfl⟩ | ⟨different, old⟩
    · exact inside
    · rw [others other different]
      exact held.inside other h old
  unlocks other h found := by
    rw [goroutines, Table.lookup_insert_iff] at found
    rcases found with ⟨-, rfl⟩ | ⟨-, old⟩
    · exact unlocks
    · exact held.unlocks other h old

/-- The goroutine kept its call, and did not go back. -/
structure Follows (next g : Goroutine) : Prop where
  request : next.request = g.request
  stage : g.stage = .deferred ∨ g.stage = .returned →
    next.stage = .deferred ∨ next.stage = .returned

variable {secret : String} {stored : Stored}

theorem PutBy.advance (putBy : PutBy p secret stored)
    (goroutines : after.goroutines = p.goroutines.insert number next)
    (follows : ∀ g, p.goroutines.lookup number = some g → Follows next g) :
    PutBy after secret stored := by
  obtain ⟨g, found, request, stage⟩ := putBy
  unfold PutBy
  rw [goroutines, Table.lookup_insert_if]
  split
  · next same =>
    have follows := follows g (same ▸ found)
    exact ⟨next, rfl, follows.request.trans request, follows.stage stage⟩
  · exact ⟨g, found, request, stage⟩

variable {now : Int}

/-- The answers are those from before, and that of the goroutine which goes on. -/
theorem took_advance_iff (goroutines : after.goroutines = p.goroutines.insert number next)
    {other : Nat} :
    Took after other stored now ↔
      (other = number ∧ next.answer = some (stored, now)) ∨
        (other ≠ number ∧ Took p other stored now) := by
  unfold Took
  rw [goroutines, Table.lookup_insert_if]
  by_cases same : other = number <;> simp [same]

/-- A goroutine that goes on with the answer it has, or with none, returns no session. -/
theorem took_advance (goroutines : after.goroutines = p.goroutines.insert number next)
    (found : p.goroutines.lookup number = some g)
    (answer : next.answer = none ∨ next.answer = g.answer)
    (other : Nat) (stored : Stored) (now : Int) (already : Took after other stored now) :
    Took p other stored now := by
  rcases (took_advance_iff goroutines).mp already with ⟨rfl, answered⟩ | ⟨-, old⟩
  · rcases answer with nothing | same
    · exact absurd (nothing.symm.trans answered) (Option.some_ne_none _).symm
    · exact ⟨g, found, same.symm.trans answered⟩
  · exact old

/-- A step that returns no session, after which every session in the store was there before or is
that of the goroutine, which puts it. -/
theorem Kept.advance (kept : Kept p)
    (goroutines : after.goroutines = p.goroutines.insert number next)
    (follows : ∀ g, p.goroutines.lookup number = some g → Follows next g)
    (took : ∀ other stored now, Took after other stored now → Took p other stored now)
    (bounded : after.sessions.entries.length ≤ maxSessions)
    (sessions : ∀ secret stored, after.sessions.lookup secret = some stored →
      p.sessions.lookup secret = some stored ∨ (stored.origin = number ∧
        (∀ g, p.goroutines.lookup number = some g → g.stage = .working) ∧
        next.request = .put secret stored.session ∧ next.stage = .deferred)) : Kept after where
  bounded := bounded
  stored secret stored found := by
    rcases sessions secret stored found with old | ⟨rfl, working, request, stage⟩
    · obtain ⟨putBy, fresh⟩ := kept.stored secret stored old
      exact ⟨putBy.advance goroutines follows, fun other taken now already =>
        fresh other taken now (took other taken now already)⟩
    · refine ⟨⟨next, ?_, request, Or.inl stage⟩, fun other taken now already same => ?_⟩
      · rw [goroutines, AList.lookup_insert]
      · -- What was returned was put by a goroutine that is past its work.
        obtain ⟨-, -, -, -, -, g, there, -, done⟩ :=
          kept.taken other taken now (took other taken now already)
        rw [working g (same ▸ there)] at done
        exact done.elim (fun h => Stage.noConfusion h) fun h => Stage.noConfusion h
  taken other stored now already := by
    obtain ⟨inTime, h, secret, found, request, putBy⟩ :=
      kept.taken other stored now (took other stored now already)
    refine ⟨inTime, ?_⟩
    rw [goroutines, Table.lookup_insert_if]
    split
    · next same =>
      have follows := follows h (same ▸ found)
      exact ⟨next, secret, rfl, follows.request.trans request, putBy.advance goroutines ‹_›⟩
    · exact ⟨h, secret, found, request, putBy.advance goroutines follows⟩
  once first second stored other now later firstTook secondTook :=
    kept.once first second stored other now later (took first stored now firstTook)
      (took second other later secondTook)

theorem not_inside_locking : ¬ Stage.locking.Inside := by simp [Stage.Inside]

theorem not_inside_returned : ¬ Stage.returned.Inside := by simp [Stage.Inside]

/-- Pruning keeps sessions that were there. -/
theorem lookup_of_lookup_prune {sessions : Table String Stored}
    (found : (prune now sessions).lookup secret = some stored) :
    sessions.lookup secret = some stored := (Table.lookup_filter_iff.mp found).1

theorem put_eq_of_room {session : TFASession}
    (room : (prune now p.sessions).entries.length < maxSessions) :
    p.put number g secret session now =
      { p with sessions := (prune now p.sessions).insert secret ⟨session, number⟩ }.advance number
        { g with stage := .deferred } := if_neg (Nat.not_le.mpr room)

/-- An insertion adds at most one entry. -/
theorem length_insert_le (sessions : Table String Stored) (secret : String) (stored : Stored) :
    (sessions.insert secret stored).entries.length ≤ sessions.entries.length + 1 :=
  Nat.succ_le_succ (List.kerase_sublist secret sessions.entries).length_le

/-- The invariant: the mutex has a holder or none, and the store is kept. -/
structure Sound (p : Process) : Prop where
  held : ∃ holder, HeldBy p holder
  kept : Kept p

theorem Sound.start (sound : Sound p) (fresh : p.goroutines.lookup number = none)
    (request : Request) : Sound (p.advance number ⟨request, .locking, none, 0⟩) := by
  obtain ⟨holder, held⟩ := sound.held
  have away : holder ≠ some number := fun same => by
    simpa [fresh] using held.present number same
  constructor
  · exact ⟨holder, held.advance rfl held.running held.locked
      (iff_of_false not_inside_locking away) (fun _ _ => Iff.rfl) ⟨Stage.noConfusion, rfl⟩⟩
  · refine sound.kept.advance rfl (fun g there => ?_) (fun other stored now => ?_)
      sound.kept.bounded fun _ _ found => Or.inl found
    · exact absurd (there.symm.trans fresh) (Option.some_ne_none g)
    · intro already
      rcases (took_advance_iff rfl).mp already with ⟨-, answered⟩ | ⟨-, old⟩
      · exact absurd answered (Option.some_ne_none _).symm
      · exact old

theorem Sound.lock (sound : Sound p) (found : p.goroutines.lookup number = some g)
    (stage : g.stage = .locking) (free : p.locked = false) :
    Sound ({ p with locked := true }.advance number { g with stage := .working }) := by
  obtain ⟨holder, held⟩ := sound.held
  have nobody : holder = none := by
    rw [held.locked, Option.isSome_eq_false_iff, Option.isNone_iff_eq_none] at free
    exact free
  subst nobody
  constructor
  · refine ⟨some number, held.advance rfl held.running rfl (by simp [Stage.Inside])
      (fun other different => by simp [different.symm]) ⟨Stage.noConfusion, ?_⟩⟩
    have unlocks := (held.unlocks number g found).2
    rwa [stage] at unlocks
  · refine sound.kept.advance rfl (fun h there => ?_)
      (took_advance rfl found (Or.inr rfl)) sound.kept.bounded fun _ _ found => Or.inl found
    obtain rfl := Option.some.inj (there.symm.trans found)
    exact ⟨rfl, fun done => by simp [stage] at done⟩

/-- A goroutine that did its work still holds the mutex. -/
theorem HeldBy.worked (held : HeldBy p holder) (found : p.goroutines.lookup number = some g)
    (stage : g.stage = .working) (goroutines : after.goroutines = p.goroutines.insert number next)
    (deferred : next.stage = .deferred) (unlocks : next.unlocks = g.unlocks)
    (running : after.crashed = p.crashed) (locked : after.locked = p.locked) :
    HeldBy after holder := by
  have inside := (held.inside number g found).mp (Or.inl stage)
  refine held.advance goroutines (running.trans held.running) (locked.trans held.locked)
    (iff_of_true (Or.inr deferred) inside) (fun _ _ => Iff.rfl) ?_
  have before := (held.unlocks number g found).2
  rw [stage] at before
  rw [deferred, unlocks, before]
  exact ⟨Stage.noConfusion, rfl⟩

theorem Follows.of_working (working : g.stage = .working) (request : next.request = g.request) :
    Follows next g := ⟨request, fun done => by simp [working] at done⟩

theorem Sound.put (sound : Sound p) (found : p.goroutines.lookup number = some g)
    (stage : g.stage = .working) {session : TFASession}
    (request : g.request = .put secret session)
    (room : (prune now p.sessions).entries.length < maxSessions) :
    Sound (p.put number g secret session now) := by
  rw [put_eq_of_room room]
  obtain ⟨holder, held⟩ := sound.held
  constructor
  · exact ⟨holder, held.worked found stage rfl rfl rfl rfl rfl⟩
  · refine sound.kept.advance rfl (fun h there => ?_) (took_advance rfl found (Or.inr rfl))
      ((length_insert_le _ _ _).trans room) fun other stored there => ?_
    · obtain rfl := Option.some.inj (there.symm.trans found)
      exact .of_working stage rfl
    · rcases Table.lookup_insert_iff.mp there with ⟨rfl, rfl⟩ | ⟨-, old⟩
      · refine Or.inr ⟨rfl, fun h there => ?_, request, rfl⟩
        obtain rfl := Option.some.inj (there.symm.trans found)
        exact stage
      · exact Or.inl (lookup_of_lookup_prune old)

/-- The number of a session tells its secret. -/
theorem PutBy.secret_eq {other : String} {found : Stored}
    (putBy : PutBy p secret stored) (alsoPut : PutBy p other found)
    (same : stored.origin = found.origin) : secret = other := by
  obtain ⟨g, there, request, -⟩ := putBy
  obtain ⟨h, alsoThere, alsoRequest, -⟩ := alsoPut
  rw [same, alsoThere, Option.some_inj] at there
  rw [there, request] at alsoRequest
  exact (Request.put.inj alsoRequest).1

/-- A goroutine takes a session out of the store and returns it. -/
theorem Kept.take (kept : Kept p) (found : p.goroutines.lookup number = some g)
    (stage : g.stage = .working) (request : g.request = .take secret)
    (there : p.sessions.lookup secret = some stored)
    (inTime : expired now stored = false)
    (goroutines : after.goroutines = p.goroutines.insert number next)
    (sameRequest : next.request = g.request) (answer : next.answer = some (stored, now))
    (sessions : after.sessions = p.sessions.erase secret) : Kept after := by
  have follows : ∀ h, p.goroutines.lookup number = some h → Follows next h := by
    intro h also
    obtain rfl := Option.some.inj (also.symm.trans found)
    exact .of_working stage sameRequest
  obtain ⟨putBy, fresh⟩ := kept.stored secret stored there
  have took : ∀ {other : Nat} {session : Stored} {moment : Int}, Took after other session moment →
      (other = number ∧ session = stored ∧ moment = now) ∨ Took p other session moment := by
    intro other session moment already
    rcases (took_advance_iff goroutines).mp already with ⟨same, answered⟩ | ⟨-, old⟩
    · obtain ⟨rfl, rfl⟩ := Prod.mk.inj (Option.some.inj (answered.symm.trans answer))
      exact Or.inl ⟨same, rfl, rfl⟩
    · exact Or.inr old
  constructor
  case bounded =>
    rw [sessions]
    exact (List.kerase_sublist secret p.sessions.entries).length_le.trans kept.bounded
  case stored =>
    intro other session left
    rw [sessions, Table.lookup_erase_iff] at left
    obtain ⟨otherPut, otherFresh⟩ := kept.stored other session left.2
    refine ⟨otherPut.advance goroutines follows, fun taker taken moment already same => ?_⟩
    rcases took already with ⟨-, rfl, -⟩ | old
    · exact left.1 (otherPut.secret_eq putBy same.symm)
    · exact otherFresh taker taken moment old same
  case taken =>
    intro other session moment already
    rcases took already with ⟨rfl, rfl, rfl⟩ | old
    · refine ⟨by simpa [expired] using inTime, next, secret, ?_, sameRequest.trans request,
        putBy.advance goroutines follows⟩
      rw [goroutines, AList.lookup_insert]
    · obtain ⟨recent, h, itsSecret, here, itsRequest, itsPut⟩ :=
        kept.taken other session moment old
      refine ⟨recent, ?_⟩
      rw [goroutines, Table.lookup_insert_if]
      split
      · next same =>
        obtain rfl := Option.some.inj ((same ▸ here).symm.trans found)
        exact ⟨next, itsSecret, rfl, sameRequest.trans itsRequest,
          itsPut.advance goroutines follows⟩
      · exact ⟨h, itsSecret, here, itsRequest, itsPut.advance goroutines follows⟩
  case once =>
    intro first second session other moment later firstTook secondTook same
    rcases took firstTook with ⟨rfl, rfl, -⟩ | firstOld
    · rcases took secondTook with ⟨rfl, -, -⟩ | secondOld
      · rfl
      · exact absurd same.symm (fresh second other later secondOld)
    · rcases took secondTook with ⟨rfl, rfl, -⟩ | secondOld
      · exact absurd same (fresh first session moment firstOld)
      · exact kept.once first second session other moment later firstOld secondOld same

theorem Sound.take (sound : Sound p) (found : p.goroutines.lookup number = some g)
    (stage : g.stage = .working) (request : g.request = .take secret)
    (now : Int) : Sound (p.take number g secret now) := by
  obtain ⟨holder, held⟩ := sound.held
  unfold Process.take
  split
  case h_1 missing =>
    constructor
    · exact ⟨holder, held.worked found stage rfl rfl rfl rfl rfl⟩
    · refine sound.kept.advance rfl (fun h there => ?_) (took_advance rfl found (Or.inr rfl))
        sound.kept.bounded fun _ _ there => Or.inl there
      obtain rfl := Option.some.inj (there.symm.trans found)
      exact .of_working stage rfl
  case h_2 stored there =>
    constructor
    · exact ⟨holder, held.worked found stage rfl rfl rfl rfl rfl⟩
    · cases old : expired now stored with
      | true =>
        refine sound.kept.advance rfl (fun h there => ?_) (took_advance rfl found (Or.inl rfl))
          ((List.kerase_sublist secret p.sessions.entries).length_le.trans sound.kept.bounded)
          fun _ _ left => Or.inl (Table.lookup_erase_iff.mp left).2
        obtain rfl := Option.some.inj (there.symm.trans found)
        exact .of_working stage rfl
      | false => exact sound.kept.take found stage request there old rfl rfl rfl rfl

/-- The deferred call releases the mutex that its goroutine holds. -/
theorem Sound.unlock (sound : Sound p) (found : p.goroutines.lookup number = some g)
    (stage : g.stage = .deferred) : Sound (p.unlock number g .returned) := by
  obtain ⟨holder, held⟩ := sound.held
  obtain rfl := (held.inside number g found).mp (Or.inr stage)
  have unlocks := (held.unlocks number g found).2
  rw [stage] at unlocks
  have locked : p.locked = true := held.locked
  rw [Process.unlock, if_pos locked]
  constructor
  · refine ⟨none, held.advance rfl held.running rfl
      (iff_of_false not_inside_returned (Option.some_ne_none number).symm)
      (fun other different => by simp [different.symm]) ⟨Stage.noConfusion, ?_⟩⟩
    show g.unlocks + 1 = 1
    rw [unlocks]
    rfl
  · refine sound.kept.advance rfl (fun h there => ?_) (took_advance rfl found (Or.inr rfl))
      sound.kept.bounded fun _ _ there => Or.inl there
    obtain rfl := Option.some.inj (there.symm.trans found)
    exact ⟨rfl, fun _ => Or.inr rfl⟩

/-- A step of a goroutine that is there, where `put` has room. -/
theorem Sound.stepOf (sound : Sound p)
    (found : p.goroutines.lookup label.number = some g) (room : RoomLeft p label)
    (taken : stepOf p label.number g label = some after) : Sound after := by
  cases label with
  | start number request => exact absurd taken (Option.some_ne_none after).symm
  | lock number =>
    obtain ⟨⟨stage, free⟩, locked⟩ := Option.ite_none_right_eq_some.mp taken
    exact Option.some.inj locked ▸ sound.lock found stage free
  | work number now =>
    obtain ⟨stage, worked⟩ := Option.ite_none_right_eq_some.mp taken
    cases request : g.request with
    | put secret session =>
      rw [request] at worked
      have isPut : ((p.goroutines.lookup number).any fun g => g.request.isPut) = true := by
        rw [show p.goroutines.lookup number = some g from found, Option.any_some, request]
        rfl
      exact Option.some.inj worked ▸ sound.put found stage request (room isPut)
    | take secret =>
      rw [request] at worked
      exact Option.some.inj worked ▸ sound.take found stage request now
  | unlock number =>
    obtain ⟨holder, held⟩ := sound.held
    have notFull := (held.unlocks _ g found).1
    cases stage : g.stage with
    | full => exact absurd stage notFull
    | deferred =>
      rw [TFASessions.stepOf, stage] at taken
      exact Option.some.inj taken ▸ sound.unlock found stage
    | locking | working | returned =>
      rw [TFASessions.stepOf, stage] at taken
      exact absurd taken (Option.some_ne_none after).symm

/-- Every step that leaves room keeps the invariant. -/
theorem Sound.step (sound : Sound p) (room : RoomLeft p label)
    (taken : step p label = some after) : Sound after := by
  unfold TFASessions.step at taken
  split at taken
  · exact absurd taken (Option.some_ne_none after).symm
  · split at taken
    · next fresh => exact Option.some.inj taken ▸ sound.start fresh _
    · next found => exact sound.stepOf found room taken
    · exact absurd taken (Option.some_ne_none after).symm

end steps

theorem sound_new : Sound newTFASessionStore where
  held := ⟨none, {
    running := rfl
    locked := rfl
    present := fun _ holds => absurd holds (Option.some_ne_none _).symm
    inside := fun _ g found => absurd found (Option.some_ne_none g).symm
    unlocks := fun _ g found => absurd found (Option.some_ne_none g).symm }⟩
  kept := {
    bounded := Nat.zero_le _
    stored := fun _ stored found => absurd found (Option.some_ne_none stored).symm
    taken := fun _ _ _ ⟨g, found, _⟩ => absurd found (Option.some_ne_none g).symm
    once := fun _ _ _ _ _ _ ⟨g, found, _⟩ => absurd found (Option.some_ne_none g).symm }

/-- In every run none of whose calls of `put` finds the store full, whatever the interleaving, the
mutex is released once for each acquisition, the store holds at most 1000 sessions, and `take`
returns a session for the secret it was put under, once, and within five minutes. -/
theorem correct_of_roomLeft {p : Process} (reached : ReachableWhen tfaSystem RoomLeft p) :
    Correct p := by
  have sound : Sound p := by
    refine reached.invariant Sound (fun start initial => ?_)
      fun _ _ _ sound room taken => sound.step room taken
    obtain rfl : start = newTFASessionStore := initial
    exact sound_new
  obtain ⟨holder, held⟩ := sound.held
  exact ⟨held.lockedRight, sound.kept.bounded, sound.kept.taken, sound.kept.once⟩

/-- A session. -/
def aliceSession (createdAt : Int) : TFASession :=
  ⟨"alice", "admin", 1, "client", "uuid", "192.0.2.1", createdAt⟩

/-- One login that is completed after a minute, and a second attempt with the same secret. -/
def loginOnce : List Label :=
  [.start 0 (.put "secret" (aliceSession 0)), .lock 0, .work 0 0, .start 1 (.take "secret"),
    .unlock 0, .lock 1, .work 1 60000000000, .unlock 1, .start 2 (.take "secret"), .lock 2,
    .work 2 60000000001, .unlock 2]

/-- How often the first three calls returned a session. -/
def answers (p : Process) : List Bool :=
  [0, 1, 2].map fun number => (p.goroutines.lookup number).any fun g => g.answer.isSome

theorem correct_loginOnce : ∃ p, ReachableWhen tfaSystem RoomLeft p ∧
    decide (answers p = [false, true, false]) = true ∧ Correct p := by
  have ran : (tfaSystem.runWhen RoomLeft newTFASessionStore loginOnce).any
      (fun p => decide (answers p = [false, true, false])) = true := by decide +kernel
  obtain ⟨p, reached, ends⟩ := exists_reachableWhen_of_runWhen rfl ran
  exact ⟨p, reached, ends, correct_of_roomLeft reached⟩

/-! ### The full store -/

/-- A call of `put` that has found the store full can always end the process: it releases the mutex
twice before anybody else takes it. -/
theorem crash_of_full {p : Process} (reached : Reachable tfaSystem p) {number : Nat}
    {g : Goroutine} (found : p.goroutines.lookup number = some g) (full : g.stage = .full) :
    ∃ after, Reachable tfaSystem after ∧ after.crashed = true := by
  cases crashed : p.crashed with
  | true => exact ⟨p, reached, crashed⟩
  | false =>
    have first : step p (.unlock number) = some (p.unlock number g .deferred) := by
      simp [step, crashed, found, stepOf, full, Label.number]
    cases locked : p.locked with
    | false =>
      refine ⟨_, reached.step trivial first, ?_⟩
      simp [Process.unlock, locked]
    | true =>
      have second : step (p.unlock number g .deferred) (.unlock number) =
          some { p.unlock number g .deferred with crashed := true } := by
        simp [step, stepOf, Label.number, Process.unlock, Process.advance, locked, crashed]
      exact ⟨_, (reached.step trivial first).step trivial second, rfl⟩

/-- Where a step of `put` finds no room, the process can crash. -/
theorem crash_of_not_roomLeft {p after : Process} (reached : Reachable tfaSystem p)
    (noRoom : ¬ RoomLeft p label) (taken : step p label = some after) :
    ∃ final, Reachable tfaSystem final ∧ final.crashed = true := by
  cases label with
  | start | lock | unlock => exact absurd trivial noRoom
  | work number now =>
    obtain ⟨isPut, noRoom⟩ := Classical.not_imp.mp noRoom
    obtain ⟨g, found, isPut⟩ := (Option.any_eq_true _ _).mp isPut
    cases request : g.request with
    | take secret => simp [request, Request.isPut] at isPut
    | put secret session =>
      have next := reached.step trivial taken
      unfold step at taken
      split at taken
      · exact absurd taken (Option.some_ne_none after).symm
      · simp only [Label.number, found, stepOf] at taken
        obtain ⟨working, worked⟩ := Option.ite_none_right_eq_some.mp taken
        rw [request, Option.some_inj, Process.put, if_pos (Nat.not_lt.mp noRoom)] at worked
        have there : after.goroutines.lookup number = some { g with stage := .full } := by
          rw [← worked]
          exact AList.lookup_insert _
        exact crash_of_full next there rfl

/-- A call of `put` that nobody disturbs. -/
theorem exists_put {p : Process} (reached : Reachable tfaSystem p) (running : p.crashed = false)
    (free : p.locked = false) {number : Nat} (fresh : p.goroutines.lookup number = none)
    (secret : String) (session : TFASession) (now : Int)
    (room : (prune now p.sessions).entries.length < maxSessions) :
    ∃ after, Reachable tfaSystem after ∧ after.crashed = false ∧ after.locked = false ∧
      after.sessions = (prune now p.sessions).insert secret ⟨session, number⟩ ∧
      ∀ other, number < other → after.goroutines.lookup other = p.goroutines.lookup other := by
  have ran : (tfaSystem.run p [.start number (.put secret session), .lock number,
      .work number now, .unlock number]) = some
        { p with
          sessions := (prune now p.sessions).insert secret ⟨session, number⟩
          goroutines := p.goroutines.insert number
            ⟨.put secret session, .returned, none, 1⟩ } := by
    simp [System.run, tfaSystem, step, stepOf, Label.number, running, free, fresh, Process.advance,
      Process.unlock, put_eq_of_room, room]
  refine ⟨_, reached.run _ ran, running, free, rfl, fun other later => ?_⟩
  exact AList.lookup_insert_ne (Nat.ne_of_gt later)

def secretNumber (count : Nat) : String := String.ofList (List.replicate count 'a')

theorem secretNumber_inj {first second : Nat} (same : secretNumber first = secretNumber second) :
    first = second := by
  have lengths := congrArg (fun secret => secret.toList.length) same
  simpa [secretNumber] using lengths

/-- Sessions that have just been created are not pruned. -/
theorem prune_of_young {sessions : Table String Stored}
    (young : ∀ secret stored, sessions.lookup secret = some stored →
      stored.session.createdAt = 0) : prune 0 sessions = sessions := by
  refine AList.ext (List.filter_eq_self.mpr fun entry member => ?_)
  have created := young _ _ (Table.mem_entries_iff.mp member)
  simp [expired, created, fiveMinutes]

/-- The store can be filled up. -/
theorem exists_filled (count : Nat) (atMost : count ≤ maxSessions) :
    ∃ p, Reachable tfaSystem p ∧ p.crashed = false ∧ p.locked = false ∧
      p.sessions.entries.length = count ∧
      (∀ number, count ≤ number → p.goroutines.lookup number = none) ∧
      ∀ secret stored, p.sessions.lookup secret = some stored →
        stored.session.createdAt = 0 ∧ ∃ number < count, secret = secretNumber number := by
  induction count with
  | zero =>
    exact ⟨_, .start rfl, rfl, rfl, rfl, fun _ _ => rfl,
      fun _ stored found => absurd found (Option.some_ne_none stored).symm⟩
  | succ count inductionHypothesis =>
    obtain ⟨p, reached, running, free, length, fresh, stored⟩ :=
      inductionHypothesis (Nat.le_of_succ_le atMost)
    have kept := prune_of_young fun secret held found => (stored secret held found).1
    obtain ⟨after, reached, running, free, sessions, others⟩ := exists_put reached running free
      (fresh count le_rfl) (secretNumber count) (aliceSession 0) 0
      (by rw [kept, length]; exact atMost)
    rw [kept] at sessions
    have new : secretNumber count ∉ p.sessions := by
      intro present
      obtain ⟨old, found⟩ := Option.isSome_iff_exists.mp (AList.lookup_isSome.mpr present)
      obtain ⟨number, before, same⟩ := (stored _ _ found).2
      exact absurd (secretNumber_inj same) (Nat.ne_of_gt before)
    refine ⟨after, reached, running, free, ?_, fun number later => ?_, fun secret held found => ?_⟩
    · show after.sessions.entries.length = count + 1
      have entries : after.sessions.entries =
          ⟨secretNumber count, aliceSession 0, count⟩ :: p.sessions.entries := by
        rw [sessions]
        exact congrArg _ (List.kerase_of_notMem_keys new)
      rw [entries, List.length_cons, length]
    · rw [others number later]
      exact fresh number (Nat.le_of_succ_le later)
    · rw [sessions] at found
      rcases Table.lookup_insert_iff.mp found with ⟨rfl, rfl⟩ | ⟨-, old⟩
      · exact ⟨rfl, count, Nat.lt_succ_self count, rfl⟩
      · obtain ⟨young, number, before, same⟩ := stored secret held old
        exact ⟨young, number, Nat.lt_succ_of_lt before, same⟩

/-- With 1000 pending logins that are young, one more ends the process. -/
theorem full_store_crashes : ¬ ∀ p, Reachable tfaSystem p → Correct p := by
  intro correct
  obtain ⟨p, reached, running, free, length, fresh, stored⟩ := exists_filled maxSessions le_rfl
  have kept := prune_of_young fun secret held found => (stored secret held found).1
  -- The next call is at its work, with the mutex.
  have ran : (tfaSystem.run p [.start maxSessions (.put "secret" (aliceSession 0)),
      .lock maxSessions]) = some { p with
        locked := true
        goroutines := p.goroutines.insert maxSessions
          ⟨.put "secret" (aliceSession 0), .working, none, 0⟩ } := by
    simp [System.run, tfaSystem, step, stepOf, Label.number, running, free, fresh, Process.advance]
  have working := reached.run _ ran
  have noRoom : ¬ RoomLeft { p with
      locked := true
      goroutines := p.goroutines.insert maxSessions
        ⟨.put "secret" (aliceSession 0), .working, none, 0⟩ } (.work maxSessions 0) := by
    simp [RoomLeft, Request.isPut, kept, length]
  obtain ⟨final, reachedFinal, crashed⟩ := crash_of_not_roomLeft working noRoom (by
    simp only [step, running, Label.number, AList.lookup_insert, stepOf]
    rfl)
  exact absurd ((correct final reachedFinal).lock.running.symm.trans crashed) Bool.false_ne_true

end SovaDesk.Api.TFASessions
