/-
This file settles how the minutes of a session are rounded and split, and when the overage is
announced.

The billed minutes are the least multiple of the rounding step that covers the session. The end of
a session splits them at the balance that the session started with, and a tick compares them with
that balance on its own, from a copy of the session that it took earlier. The two agree because the
copies of a session never differ in its start and its balance, in any run.
-/

import Mathlib.Data.Rat.Floor
import Mathlib.Order.Bounds.Basic
import SovaDesk.Billing.Conservation

namespace SovaDesk.Billing

open Transition

/-! ### Rounding -/

theorem roundStep_eq_max (roundMin : Int) : roundStep roundMin = max 1 roundMin := by
  unfold roundStep
  split <;> omega

theorem le_roundUpMinutes (seconds roundMin : Int) :
    seconds ≤ 60 * roundUpMinutes seconds roundMin := by
  have positive := roundStep_pos roundMin
  have below : 60 * roundStep roundMin * (-seconds / (60 * roundStep roundMin)) ≤ -seconds :=
    Int.mul_ediv_self_le (by omega)
  calc seconds ≤ -(60 * roundStep roundMin * (-seconds / (60 * roundStep roundMin))) := by omega
    _ = 60 * roundUpMinutes seconds roundMin := by
      unfold roundUpMinutes
      ring

theorem roundUpMinutes_le {seconds roundMin minutes : Int} (multiple : roundStep roundMin ∣ minutes)
    (covers : seconds ≤ 60 * minutes) : roundUpMinutes seconds roundMin ≤ minutes := by
  have positive := roundStep_pos roundMin
  obtain ⟨count, rfl⟩ := multiple
  have enough : -count ≤ -seconds / (60 * roundStep roundMin) := by
    rw [Int.le_ediv_iff_mul_le (by omega)]
    calc -count * (60 * roundStep roundMin) = -(60 * (roundStep roundMin * count)) := by ring
      _ ≤ -seconds := by omega
  rw [mul_comm (roundStep roundMin)]
  exact Int.mul_le_mul_of_nonneg_right (by omega) (by omega)

/-- The billed minutes are the least multiple of the step that covers the session. -/
theorem roundUpMinutes_isLeast (seconds roundMin : Int) :
    IsLeast {minutes | max 1 roundMin ∣ minutes ∧ seconds ≤ 60 * minutes}
      (roundUpMinutes seconds roundMin) := by
  rw [← roundStep_eq_max]
  refine ⟨⟨Dvd.intro_left _ rfl, le_roundUpMinutes seconds roundMin⟩, ?_⟩
  rintro minutes ⟨multiple, covers⟩
  exact roundUpMinutes_le multiple covers

theorem roundUpMinutes_eq_zero {seconds roundMin : Int} (nonneg : 0 ≤ seconds) :
    roundUpMinutes seconds roundMin = 0 ↔ seconds = 0 := by
  constructor
  · intro zero
    have covered := le_roundUpMinutes seconds roundMin
    omega
  · rintro rfl
    have least : roundUpMinutes 0 roundMin ≤ 0 := roundUpMinutes_le (dvd_zero _) (by omega)
    exact le_antisymm least (roundUpMinutes_nonneg roundMin nonneg)

theorem roundUpMinutes_mono {seconds longer : Int} (roundMin : Int) (le : seconds ≤ longer) :
    roundUpMinutes seconds roundMin ≤ roundUpMinutes longer roundMin :=
  roundUpMinutes_le (roundStep_eq_max roundMin ▸ (roundUpMinutes_isLeast longer roundMin).1.1)
    (le.trans (le_roundUpMinutes longer roundMin))

/-! ### The split -/

/-- The minutes of a row are split at a balance. -/
structure SplitAt (balance : Int) (row : BillingSession) : Prop where
  total : row.includedMinutesUsed + row.overageMinutes = row.billedMinutes
  nonneg : 0 ≤ row.includedMinutesUsed
  within : row.includedMinutesUsed ≤ balance
  exhausted : 0 < row.overageMinutes → row.includedMinutesUsed = balance

/-- A row bills no more than another one, included and overage. -/
structure BillsNoMore (row other : BillingSession) : Prop where
  billed : row.billedMinutes ≤ other.billedMinutes
  included : row.includedMinutesUsed ≤ other.includedMinutesUsed
  overage : row.overageMinutes ≤ other.overageMinutes

section split

variable {settings : Settings} {session other : ActiveSession} {endedAt otherEnd : Int}
  {row otherRow : BillingSession}

theorem finalRow_overage_pos : 0 < (finalRow settings session endedAt row).overageMinutes ↔
    session.remainingAtStart <
      roundUpMinutes (rawSeconds session.startedAt endedAt) settings.roundMin := by
  unfold finalRow
  dsimp only
  split <;> omega

theorem finalRow_splitAt (balance : 0 ≤ session.remainingAtStart) :
    SplitAt session.remainingAtStart (finalRow settings session endedAt row) := by
  have nonneg :=
    roundUpMinutes_nonneg settings.roundMin (rawSeconds_nonneg session.startedAt endedAt)
  unfold finalRow
  constructor
  case total => dsimp only; split <;> omega
  case nonneg => exact Int.le_min.mpr ⟨nonneg, balance⟩
  case within => exact Int.min_le_right _ _
  case exhausted =>
    dsimp only
    intro overage
    split at overage <;> omega

/-- A longer session on the same balance is billed no less. -/
theorem finalRow_mono (same : session.remainingAtStart = other.remainingAtStart)
    (longer : rawSeconds session.startedAt endedAt ≤ rawSeconds other.startedAt otherEnd) :
    BillsNoMore (finalRow settings session endedAt row)
      (finalRow settings other otherEnd otherRow) := by
  have more := roundUpMinutes_mono settings.roundMin longer
  unfold finalRow
  constructor <;> dsimp only
  · exact more
  · omega
  · split <;> split <;> omega

end split

/-! ### The copies of a session -/

/-- The sessions that a goroutine is to store, or has copied. -/
def Thread.copies : Thread → List ActiveSession
  | .activateLedger _ session | .activateStore _ session => [session]
  | .tickNext snapshot | .tickLedger _ _ snapshot => snapshot
  | _ => []

/-- A copy of a session: in the active map, or with a goroutine. -/
def Mentions (s : State) (session : ActiveSession) : Prop :=
  (∃ relayUUID, s.active.lookup relayUUID = some session) ∨
    ∃ t thread, s.threads.lookup t = some thread ∧ session ∈ thread.copies

/-- Copies that agree in what is never changed. -/
structure ActiveSession.Same (session other : ActiveSession) : Prop where
  id : session.id = other.id
  startedAt : session.startedAt = other.startedAt
  remainingAtStart : session.remainingAtStart = other.remainingAtStart

/-- Every copy belongs to a row, and copies with one id agree. -/
structure Agreed (s : State) : Prop where
  known : ∀ session, Mentions s session → (s.db.sessions.lookup session.id).isSome
  agree : ∀ session other, Mentions s session → Mentions s other → session.id = other.id →
    session.Same other

variable {session : ActiveSession}

section copies

variable {settings : Settings} {s after : State} {t : Nat} {thread next : Thread} {input : Input}

/-- A copy that was there before. -/
def Inherited (s : State) (session : ActiveSession) : Prop :=
  ∃ other, Mentions s other ∧ other.Same session

theorem Mentions.inherited (mentions : Mentions s session) :
    Inherited s session :=
  ⟨session, mentions, rfl, rfl, rfl⟩

theorem Inherited.known (agreed : Agreed s)
    (inherited : Inherited s session) : (s.db.sessions.lookup session.id).isSome := by
  obtain ⟨other, mentions, same⟩ := inherited
  rw [← same.id]
  exact agreed.known other mentions

theorem Inherited.agree (agreed : Agreed s) {other : ActiveSession}
    (first : Inherited s session) (second : Inherited s other) (sameId : session.id = other.id) :
    session.Same other := by
  obtain ⟨x, mentionsX, sameX⟩ := first
  obtain ⟨y, mentionsY, sameY⟩ := second
  have same := agreed.agree x y mentionsX mentionsY (sameX.id.trans (sameId.trans sameY.id.symm))
  exact ⟨sameId, sameX.startedAt.symm.trans (same.startedAt.trans sameY.startedAt),
    sameX.remainingAtStart.symm.trans (same.remainingAtStart.trans sameY.remainingAtStart)⟩

/-- A step that makes no copy of a new session. -/
theorem Agreed.keep (agreed : Agreed s) (rows : s.KeepsRows after)
    (inherits : ∀ session, Mentions after session → Inherited s session) : Agreed after where
  known session mentions := rows _ ((inherits session mentions).known agreed)
  agree session other first second :=
    (inherits session first).agree agreed (inherits other second)

/-- What is mentioned after a goroutine has moved on. -/
theorem inherited_of_mentions (threads : after.threads = s.threads.insert t next)
    (active : ∀ relayUUID session, after.active.lookup relayUUID = some session →
      Inherited s session)
    (own : ∀ session ∈ next.copies, Inherited s session) (session : ActiveSession)
    (mentions : Mentions after session) : Inherited s session := by
  rcases mentions with ⟨relayUUID, found⟩ | ⟨u, thread, stands, copy⟩
  · exact active relayUUID session found
  · rw [threads] at stands
    rcases Table.lookup_insert_iff.mp stands with ⟨_, rfl⟩ | ⟨_, before⟩
    · exact own session copy
    · exact Mentions.inherited (.inr ⟨u, thread, before, copy⟩)

/-- A goroutine that moves on with copies it had, and leaves the active map alone. -/
theorem Agreed.move (agreed : Agreed s) (stands : s.threads.lookup t = some thread)
    (rows : s.KeepsRows after)
    (active : after.active = s.active) (threads : after.threads = s.threads.insert t next)
    (copies : next.copies ⊆ thread.copies) : Agreed after := by
  refine agreed.keep rows (inherited_of_mentions threads ?_ ?_)
  · intro relayUUID session found
    rw [active] at found
    exact Mentions.inherited (.inl ⟨relayUUID, found⟩)
  · intro session copy
    exact Mentions.inherited (.inr ⟨t, thread, stands, copies copy⟩)

/-- A goroutine that opens a session under a new id. -/
theorem Agreed.open (agreed : Agreed s) (unused : s.db.sessions.lookup session.id = none)
    (rows : ∀ id, id = session.id ∨ (s.db.sessions.lookup id).isSome →
      (after.db.sessions.lookup id).isSome)
    (active : after.active = s.active) (threads : after.threads = s.threads.insert t next)
    (copies : next.copies = [session]) : Agreed after := by
  have either : ∀ other, Mentions after other → other = session ∨ Inherited s other := by
    rintro other (⟨relayUUID, found⟩ | ⟨u, thread, stands, copy⟩)
    · rw [active] at found
      exact .inr (Mentions.inherited (.inl ⟨relayUUID, found⟩))
    · rw [threads] at stands
      rcases Table.lookup_insert_iff.mp stands with ⟨_, rfl⟩ | ⟨_, before⟩
      · rw [copies] at copy
        exact .inl (List.mem_singleton.mp copy)
      · exact .inr (Mentions.inherited (.inr ⟨u, thread, before, copy⟩))
  have foreign : ∀ other, Inherited s other → other.id ≠ session.id := by
    intro other inherited sameId
    have known := inherited.known agreed
    rw [sameId, unused] at known
    cases known
  constructor
  · intro other mentions
    rcases either other mentions with rfl | inherited
    · exact rows _ (.inl rfl)
    · exact rows _ (.inr (inherited.known agreed))
  · intro first second mentionsFirst mentionsSecond sameId
    rcases either first mentionsFirst with rfl | before
    · rcases either second mentionsSecond with rfl | other
      · exact ⟨rfl, rfl, rfl⟩
      · exact absurd sameId.symm (foreign second other)
    · rcases either second mentionsSecond with rfl | other
      · exact absurd sameId (foreign first before)
      · exact before.agree agreed other sameId

theorem rows_endUpdate (session : ActiveSession) (row : BillingSession) (id : String)
    (stored : (s.db.sessions.lookup id).isSome) :
    ((endUpdate s t session row).db.sessions.lookup id).isSome :=
  (Table.isSome_lookup_update _ _ _ _).trans stored

section

variable (agreed : Agreed s)

include agreed

theorem Agreed.activateCreate {relayUUID : String} {entry : PendingRelay}
    {contract : BillingContract} {rate : Rat}
    (stands : s.threads.lookup t = some (.activateCreate relayUUID entry contract rate)) :
    Agreed (activateCreate s t relayUUID entry contract rate input) := by
  unfold Billing.activateCreate
  split
  · exact agreed.move stands (fun _ stored => stored) rfl rfl (List.nil_subset _)
  · next db created =>
    obtain ⟨free, rfl⟩ := of_guard_not created
    have unused : s.db.sessions.lookup
        (startedSession relayUUID entry contract rate input).id = none :=
      Option.not_isSome_iff_eq_none.mp free
    refine agreed.open unused (fun id stored => ?_) rfl rfl rfl
    show (AList.lookup id (AList.insert input.sessionID _ _)).isSome
    rw [Table.lookup_insert_if]
    split
    · rfl
    · next different => exact stored.resolve_left different

theorem Agreed.activateStore {relayUUID : String}
    (stands : s.threads.lookup t = some (.activateStore relayUUID session)) :
    Agreed (activateStore s t relayUUID session) := by
  refine agreed.keep (fun _ stored => stored) (inherited_of_mentions rfl ?_ (List.forall_mem_nil _))
  intro other found entry
  rcases Table.lookup_insert_iff.mp entry with ⟨_, rfl⟩ | ⟨_, before⟩
  · exact Mentions.inherited (.inr ⟨t, _, stands, List.mem_singleton_self _⟩)
  · exact Mentions.inherited (.inl ⟨other, before⟩)

theorem Agreed.endTake (relayUUID : String) : Agreed (endTake s t relayUUID) := by
  unfold Billing.endTake
  split
  · refine agreed.keep (fun _ stored => stored)
      (inherited_of_mentions rfl ?_ (List.forall_mem_nil _))
    exact fun other session entry => Mentions.inherited (.inl ⟨other, entry⟩)
  · refine agreed.keep (fun _ stored => stored)
      (inherited_of_mentions rfl ?_ (List.forall_mem_nil _))
    intro other session entry
    exact Mentions.inherited (.inl ⟨other, (Table.lookup_erase_iff.mp entry).2⟩)

/-- A tick changes what may differ between the copies of a session. -/
theorem Agreed.tickNext {snapshot : List ActiveSession}
    (stands : s.threads.lookup t = some (.tickNext snapshot)) (now : Int) :
    Agreed (tickNext settings s t snapshot now) := by
  unfold Billing.tickNext
  cases snapshot with
  | nil => exact agreed.move stands (fun _ stored => stored) rfl rfl (List.nil_subset _)
  | cons session rest =>
    have older : rest ⊆ (Thread.tickNext (session :: rest)).copies := List.subset_cons_self _ _
    dsimp only
    cases found : s.active.lookup session.relayUUID with
    | none => exact agreed.move stands (fun _ stored => stored) rfl rfl older
    | some current =>
      refine agreed.keep (fun _ stored => stored) (inherited_of_mentions rfl ?_ ?_)
      · intro relayUUID other entry
        rcases Table.lookup_insert_iff.mp entry with ⟨_, rfl⟩ | ⟨_, before⟩
        · exact ⟨current, .inl ⟨_, found⟩, rfl, rfl, rfl⟩
        · exact Mentions.inherited (.inl ⟨relayUUID, before⟩)
      · intro other copy
        refine Mentions.inherited (.inr ⟨t, _, stands, older ?_⟩)
        split at copy <;> exact copy

theorem Agreed.threadStep (stands : s.threads.lookup t = some thread)
    (taken : threadStep settings s t input thread = some after) : Agreed after := by
  have same : s.KeepsRows s := fun _ stored => stored
  cases thread with
  | done => exact (nomatch taken)
  | activateTake relayUUID =>
    obtain rfl := Option.some.inj taken
    unfold Billing.activateTake
    split <;> exact agreed.move stands same rfl rfl (List.nil_subset _)
  | activateRead relayUUID entry =>
    obtain rfl := Option.some.inj taken
    unfold Billing.activateRead
    split <;> exact agreed.move stands same rfl rfl (List.nil_subset _)
  | activateCreate relayUUID entry contract rate =>
    obtain rfl := Option.some.inj taken
    exact agreed.activateCreate stands
  | activateLedger relayUUID session =>
    obtain rfl := Option.some.inj taken
    exact agreed.move stands same rfl rfl (List.Subset.refl _)
  | activateStore relayUUID session =>
    obtain rfl := Option.some.inj taken
    exact agreed.activateStore stands
  | endTake relayUUID =>
    obtain rfl := Option.some.inj taken
    exact agreed.endTake relayUUID
  | endRead session endedAt =>
    obtain rfl := Option.some.inj taken
    unfold Billing.endRead
    split <;> exact agreed.move stands same rfl rfl (List.nil_subset _)
  | endReadContract session includedUsed =>
    obtain rfl := Option.some.inj taken
    unfold Billing.endReadContract
    split <;> exact agreed.move stands same rfl rfl (List.nil_subset _)
  | endUpdate session row =>
    obtain rfl := Option.some.inj taken
    exact agreed.move stands (rows_endUpdate session row) rfl rfl (List.nil_subset _)
  | endSplit | endLedger | endWriteContract =>
    obtain rfl := Option.some.inj taken
    exact agreed.move stands same rfl rfl (List.nil_subset _)
  | tickNext snapshot =>
    obtain rfl := Option.some.inj taken
    exact agreed.tickNext stands _
  | tickLedger sessionID phase rest =>
    obtain rfl := Option.some.inj taken
    exact agreed.move stands same rfl rfl (List.Subset.refl _)

theorem Agreed.spawn
    (copies : ∀ session ∈ next.copies, ∃ relayUUID, s.active.lookup relayUUID = some session)
    (taken : spawn s t next = some after) : Agreed after := by
  obtain ⟨-, rfl⟩ := of_guard_not taken
  refine agreed.keep (fun _ stored => stored) (inherited_of_mentions rfl ?_ ?_)
  · exact fun relayUUID session entry => Mentions.inherited (.inl ⟨relayUUID, entry⟩)
  · exact fun session copy => Mentions.inherited (.inl (copies session copy))

/-- The copies of a session agree after every step. -/
theorem Agreed.step {label : Label}
    (taken : step settings s label = some after) : Agreed after := by
  cases label with
  | prepare synced now relayUUID deviceID operatorID =>
    rw [Billing.step] at taken
    split at taken
    · obtain rfl := Option.some.inj taken
      exact ⟨agreed.known, agreed.agree⟩
    · obtain rfl := Option.some.inj taken
      exact agreed
  | sweepPending now =>
    obtain rfl := Option.some.inj taken
    exact ⟨agreed.known, agreed.agree⟩
  | activateRelay t relayUUID =>
    rw [Billing.step] at taken
    split at taken
    · obtain rfl := Option.some.inj taken
      exact agreed
    · refine agreed.spawn ?_ taken
      exact List.forall_mem_nil _
  | endRelay t relayUUID =>
    rw [Billing.step] at taken
    split at taken
    · obtain rfl := Option.some.inj taken
      exact agreed
    · refine agreed.spawn ?_ taken
      exact List.forall_mem_nil _
  | tickActive t =>
    refine agreed.spawn (fun session copy => ?_) taken
    obtain ⟨entry, member, rfl⟩ := List.mem_map.mp copy
    exact ⟨entry.1, Table.mem_entries_iff.mp member⟩
  | step t input =>
    obtain ⟨thread, stands, moved⟩ := Option.bind_eq_some_iff.mp taken
    exact agreed.threadStep stands moved

end

theorem agreed_fresh (db : BillingDB) : Agreed (fresh db) := by
  have nothing : ∀ session, ¬ Mentions (fresh db) session := by
    rintro session (⟨_, found⟩ | ⟨_, _, found, _⟩)
    · cases found
    · cases found
  exact ⟨fun session mentions => (nothing session mentions).elim,
    fun session _ mentions => (nothing session mentions).elim⟩

/-- In every run the copies of a session agree. -/
theorem agreed_of_reachable {db : BillingDB} (reached : Reachable (billing settings db) s) :
    Agreed s := by
  refine reached.invariant Agreed ?_ fun _ _ _ agreed _ taken => agreed.step taken
  rintro _ rfl
  exact agreed_fresh db

end copies

/-! ### The announcement -/

/-- The session in progress under a UUID is in the overage phase. -/
def InOverage (s : State) (relayUUID : String) : Prop :=
  ∃ session, s.active.lookup relayUUID = some session ∧ session.phase = phaseOverage

/-- A tick that comes to a session puts it into the overage phase exactly if the session, finalized
at that moment, would be billed overage. It then goes on to write the new phase to the ledger
exactly if the session was not in that phase before. -/
def AnnouncesOverage (settings : Settings) (db : BillingDB) : Prop :=
  ∀ s t session rest current input after row,
    Reachable (billing settings db) s →
    s.threads.lookup t = some (.tickNext (session :: rest)) →
    s.active.lookup session.relayUUID = some current → current.id = session.id →
    step settings s (.step t input) = some after →
    let billsOverage := 0 < (finalRow settings current input.reading.now row).overageMinutes
    (InOverage after session.relayUUID ↔ billsOverage) ∧
      (after.threads.lookup t = some (.tickLedger current.id phaseOverage rest) ↔
        current.phase ≠ phaseOverage ∧ billsOverage)

theorem progressPhase_eq_overage {billedMin : Int} :
    progressPhase session billedMin = phaseOverage ↔ session.remainingAtStart < billedMin := by
  unfold progressPhase
  split
  · next exceeds => exact iff_of_true rfl exceeds
  · next within => exact iff_of_false (by decide) within

theorem announcesOverage (settings : Settings) (db : BillingDB) :
    AnnouncesOverage settings db := by
  intro s t session rest current input after row reached stands found sameId taken billsOverage
  have copied : Mentions s session := .inr ⟨t, _, stands, List.mem_cons_self⟩
  have same := (agreed_of_reachable reached).agree current session (.inl ⟨_, found⟩) copied sameId
  have bills : progressPhase current (roundUpMinutes (rawSeconds session.startedAt
      input.reading.now) settings.roundMin) = phaseOverage ↔ billsOverage := by
    rw [progressPhase_eq_overage, ← same.startedAt]
    exact finalRow_overage_pos.symm
  obtain rfl : tickNext settings s t (session :: rest) input.reading.now = after := by
    rw [step, stands] at taken
    exact Option.some.inj taken
  unfold tickNext
  dsimp only
  rw [found]
  dsimp only
  constructor
  · rw [← bills]
    constructor
    · rintro ⟨updated, entry, overage⟩
      obtain rfl := Table.eq_of_lookup_insert entry
      exact overage
    · exact fun overage => ⟨_, AList.lookup_insert _, overage⟩
  · have moved : ∀ next : Thread, ∀ active : Table String ActiveSession,
        (State.setThread { s with active } t next).threads.lookup t = some next :=
      fun _ _ => AList.lookup_insert _
    rw [moved, Option.some_inj, ← bills]
    split
    · next unchanged =>
      refine iff_of_false (fun announced => ?_) ?_
      · cases announced
      · rintro ⟨before, overage⟩
        exact before (unchanged.symm.trans overage)
    · next changed =>
      constructor
      · intro announced
        obtain ⟨-, overage, -⟩ := Thread.tickLedger.inj announced
        exact ⟨fun before => changed (overage.trans before.symm), overage⟩
      · rintro ⟨-, overage⟩
        rw [overage]

/-! ### The law -/

/-- The session that is opened at the start, on a contract of ten minutes. -/
def sampleSession : ActiveSession :=
  startedSession "u1" ⟨"", "dev", "op", "c1", "PLN", 0⟩ sampleContract 0 (atMinute 0 "s1")

def sampleRow : BillingSession :=
  startedRow "u1" ⟨"", "dev", "op", "c1", "PLN", 0⟩ (atMinute 0 "s1")

/-- In every run a session is billed the same minutes whichever copy of it is finalized, the one in
the active map or a stale one that a tick or an activation still holds, and its row is there. -/
theorem finalRow_of_mentions (settings : Settings) (db : BillingDB) (s : State)
    (reached : Reachable (billing settings db) s) (session other : ActiveSession)
    (mentioned : Mentions s session) (mentionedToo : Mentions s other)
    (sameId : session.id = other.id) :
    (s.db.sessions.lookup session.id).isSome ∧ ∀ endedAt row otherRow,
      BillsNoMore (finalRow settings session endedAt row)
        (finalRow settings other endedAt otherRow) ∧
      BillsNoMore (finalRow settings other endedAt otherRow)
        (finalRow settings session endedAt row) := by
  have agreed := agreed_of_reachable reached
  have same := agreed.agree session other mentioned mentionedToo sameId
  refine ⟨agreed.known session mentioned, fun endedAt row otherRow => ⟨?_, ?_⟩⟩
  · exact finalRow_mono same.remainingAtStart (by rw [same.startedAt])
  · exact finalRow_mono same.remainingAtStart.symm (by rw [same.startedAt])

/-- A tick holds a copy of the session that is in the active map. -/
theorem finalRow_of_mentions_sample : ∃ s, Reachable (billing sampleSettings sampleDB) s ∧
    Mentions s sampleSession ∧ (s.db.sessions.lookup sampleSession.id).isSome := by
  have ends : ((billing sampleSettings sampleDB).run (fresh sampleDB)
      (openSession 0 "u1" "s1" 0 ++ [.tickActive 1])).any (fun s =>
        s.active.lookup "u1" == some sampleSession) = true := by decide
  obtain ⟨s, reached, passed⟩ := exists_reachable_of_run rfl ends
  have mentioned : Mentions s sampleSession := .inl ⟨"u1", eq_of_beq passed⟩
  exact ⟨s, reached, mentioned, (finalRow_of_mentions sampleSettings sampleDB s reached
    sampleSession sampleSession mentioned mentioned rfl).1⟩

end SovaDesk.Billing
