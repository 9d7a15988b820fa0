/-
This file settles whether a work report survives the end of its session.

`SubmitWorkReport` reads the session's row, stores the report and writes the row back
as closed, and `finalizeSession` reads and writes the same row with a status of its
own. A report that is accepted while the session is still to end closes a row that
the end then overwrites: the session is left waiting for a report that it already
has, and that no further call can give. In the runs in which a report closes its
session's row only when no goroutine has the session any more, a session that has
ended is closed exactly when its report was accepted, and takes one otherwise.
-/

import SovaDesk.Billing.Conservation

namespace SovaDesk.Billing

open Transition

/-! ### Reports -/

/-- A technician's report, with its texts as bytes. -/
structure WorkReport where
  operatorID : String
  summary : List UInt8
  category : List UInt8
  ticketRef : List UInt8
  deriving DecidableEq

def trim (s : List UInt8) (max : Nat) : List UInt8 :=
  if s.length ≤ max then s else s.take max

/-- Why a report is refused: an error of the service, with its text, or one of the database. -/
inductive SubmitError
  | service (text : String)
  | database
  deriving DecidableEq

/-- A call of `SubmitWorkReport`, named by what it does next; the row is the one it has read. -/
inductive Submit
  | read (sessionID : String) (report : WorkReport)
  | check (sessionID : String) (sess : BillingSession) (report : WorkReport)
  | create (sessionID : String) (sess : BillingSession) (report : WorkReport)
  | update (sessionID : String) (sess : BillingSession) (report : WorkReport)
  | returned (error : Option SubmitError)
  deriving DecidableEq

/-- A call of `SubmitWorkReport` has stored a report and returned without an error. -/
structure Acceptance where
  sessionID : String
  report : WorkReport
  deriving DecidableEq

/-- The billing service with the reports by their session, the calls of `SubmitWorkReport`, the
sessions whose end `finalizeSession` has written, and the reports that were accepted. -/
structure Reporting where
  service : State
  reports : Table String WorkReport
  submits : Table Nat Submit
  ended : List String
  accepted : List Acceptance

/-- The service takes a step, a call of `SubmitWorkReport` starts, or takes its next step. -/
inductive ReportingLabel
  | service (label : Label)
  | submit (u : Nat) (sessionID operatorID : String) (summary category ticketRef : List UInt8)
  | report (u : Nat)
  deriving DecidableEq

/-! ### `SubmitWorkReport` -/

/-- The call before it looks at the database. -/
def submitWorkReport (sessionID operatorID : String) (summary category ticketRef : List UInt8) :
    Submit :=
  let summary := trim summary 8000
  if summary = [] then .returned (some (.service "summary required"))
  else
    .read sessionID
      { operatorID, summary, category := trim category 128, ticketRef := trim ticketRef 128 }

namespace Reporting

def setSubmit (s : Reporting) (u : Nat) (submit : Submit) : Reporting :=
  { s with submits := s.submits.insert u submit }

/-- A session has one report at most: an insertion fails where there is one. -/
def createBillingWorkReport (s : Reporting) (sessionID : String) (report : WorkReport) :
    Option Reporting :=
  if (s.reports.lookup sessionID).isSome then none
  else some { s with reports := s.reports.insert sessionID report }

end Reporting

/-- Read the session's row, and refuse a report on a session that is closed. -/
def submitRead (s : Reporting) (u : Nat) (sessionID : String) (report : WorkReport) : Reporting :=
  match s.service.db.getBillingSession sessionID with
  | none => s.setSubmit u (.returned (some .database))
  | some sess =>
    if sess.status = statusClosed then
      s.setSubmit u (.returned (some (.service "session already closed")))
    else s.setSubmit u (.check sessionID sess report)

def submitCheck (s : Reporting) (u : Nat) (sessionID : String) (sess : BillingSession)
    (report : WorkReport) : Reporting :=
  match s.reports.lookup sessionID with
  | some _ => s.setSubmit u (.returned (some (.service "report already submitted")))
  | none => s.setSubmit u (.create sessionID sess report)

def submitCreate (s : Reporting) (u : Nat) (sessionID : String) (sess : BillingSession)
    (report : WorkReport) : Reporting :=
  match s.createBillingWorkReport sessionID report with
  | none => s.setSubmit u (.returned (some .database))
  | some s => s.setSubmit u (.update sessionID sess report)

/-- Write the row that was read back as closed, and return. -/
def submitUpdate (s : Reporting) (u : Nat) (sessionID : String) (sess : BillingSession)
    (report : WorkReport) : Reporting :=
  let sess := { sess with status := statusClosed }
  { s with
    service := { s.service with db := s.service.db.updateBillingSession sess }
    accepted := s.accepted ++ [⟨sessionID, report⟩]
    submits := s.submits.insert u (.returned none) }

/-- The next step of a call. -/
def submitStep (s : Reporting) (u : Nat) : Submit → Option Reporting
  | .read sessionID report => some (submitRead s u sessionID report)
  | .check sessionID sess report => some (submitCheck s u sessionID sess report)
  | .create sessionID sess report => some (submitCreate s u sessionID sess report)
  | .update sessionID sess report => some (submitUpdate s u sessionID sess report)
  | .returned _ => none

/-! ### The system -/

/-- The session whose end a goroutine writes with its next step. -/
def Thread.writesEnd : Thread → Option String
  | .endUpdate session _ => some session.id
  | _ => none

def writesEnd (s : State) : Label → Option String
  | .step t _ => (s.threads.lookup t).bind Thread.writesEnd
  | _ => none

def reportingStep (settings : Settings) (s : Reporting) : ReportingLabel → Option Reporting
  | .service label =>
    (step settings s.service label).map fun service =>
      { s with service, ended := s.ended ++ (writesEnd s.service label).toList }
  | .submit u sessionID operatorID summary category ticketRef =>
    if (s.submits.lookup u).isSome then none
    else some (s.setSubmit u (submitWorkReport sessionID operatorID summary category ticketRef))
  | .report u => (s.submits.lookup u).bind (submitStep s u)

/-- Rows are stored under their ids, and a report is on a session that exists. -/
structure Tables (db : BillingDB) (reports : Table String WorkReport) : Prop where
  keyed : ∀ id row, db.sessions.lookup id = some row → row.id = id
  filed : ∀ id report, reports.lookup id = some report → (db.sessions.lookup id).isSome

/-- Runs from a server that has just started, on any tables. -/
def reporting (settings : Settings) : System Reporting ReportingLabel where
  start s := s.service = fresh s.service.db ∧ Tables s.service.db s.reports ∧ s.submits = ∅ ∧
    s.ended = [] ∧ s.accepted = []
  step := reportingStep settings

/-! ### The property -/

/-- A report on a session was accepted. -/
def Accepted (s : Reporting) (sessionID : String) : Prop :=
  ∃ report, ⟨sessionID, report⟩ ∈ s.accepted

/-- A report on a session can still be accepted. -/
def CanAccept (settings : Settings) (s : Reporting) (sessionID : String) : Prop :=
  ∃ labels final report, (reporting settings).run s labels = some final ∧
    final.accepted = s.accepted ++ [⟨sessionID, report⟩]

/-- Accepted reports stay; where reports are required, a session that has ended is closed exactly
when a report on it was accepted; and a session that is left waiting for a report can still be
given one. -/
def ReportsKept (settings : Settings) (s : Reporting) : Prop :=
  (∀ acceptance ∈ s.accepted,
    s.reports.lookup acceptance.sessionID = some acceptance.report) ∧
  ∀ id ∈ s.ended, ∃ row, s.service.db.sessions.lookup id = some row ∧
    (settings.requireReport = true → (row.status = statusClosed ↔ Accepted s id)) ∧
    (row.status = statusPendingReport → CanAccept settings s id)

/-! ### The condition -/

/-- No goroutine has a session, and it is not in the active map: its end is not to come. -/
def Unheld (s : State) (sessionID : String) : Prop :=
  (∀ t thread, s.threads.lookup t = some thread →
    ∀ session ∈ thread.held, session.id ≠ sessionID) ∧
  ∀ relayUUID session, s.active.lookup relayUUID = some session → session.id ≠ sessionID

instance (s : State) (sessionID : String) : Decidable (Unheld s sessionID) :=
  @instDecidableAnd _ _ (s.threads.decidableForall _) (s.active.decidableForall _)

/-- Where reports are required, a report closes its session's row when the end of the session is
not to come. -/
def Submit.AfterEnd (settings : Settings) (s : State) : Submit → Prop
  | .update sessionID _ _ => settings.requireReport = true → Unheld s sessionID
  | _ => True

def AfterEnd (settings : Settings) (s : Reporting) : ReportingLabel → Prop
  | .report u => ∀ submit ∈ s.submits.lookup u, submit.AfterEnd settings s.service
  | _ => True

instance (settings : Settings) (s : State) (submit : Submit) :
    Decidable (submit.AfterEnd settings s) :=
  match submit with
  | .update sessionID _ _ =>
    inferInstanceAs (Decidable (settings.requireReport = true → Unheld s sessionID))
  | .read .. | .check .. | .create .. | .returned _ => instDecidableTrue

instance (settings : Settings) (s : Reporting) (label : ReportingLabel) :
    Decidable (AfterEnd settings s label) :=
  match label with
  | .report u =>
    inferInstanceAs
      (Decidable (∀ submit ∈ s.submits.lookup u, submit.AfterEnd settings s.service))
  | .service _ | .submit .. => instDecidableTrue

/-! ### What a step of the service does with the sessions -/

variable {sessionID : String}

theorem unheld_iff {s : State} :
    Unheld s sessionID ↔
      ∀ holder session, holding s holder = some session → session.id ≠ sessionID := by
  constructor
  · rintro ⟨threads, entries⟩ holder session holds
    cases holder with
    | thread t =>
      obtain ⟨thread, found, held⟩ := Option.bind_eq_some_iff.mp holds
      exact threads t thread found session held
    | entry relayUUID => exact entries relayUUID session holds
  · intro none
    refine ⟨fun t thread found session held => none (.thread t) session ?_,
      fun relayUUID session found => none (.entry relayUUID) session found⟩
    exact Option.bind_eq_some_iff.mpr ⟨thread, found, held⟩

/-- A row that `finalizeSession` is about to write is one it has read, with the end of the
session. -/
def FinalOf (settings : Settings) (s : State) (session : ActiveSession) (row : BillingSession) :
    Prop :=
  ∃ stored endedAt, s.db.sessions.lookup session.id = some stored ∧
    row = finalRow settings session endedAt stored

/-- A step that writes no session's row; the sessions stay where they are, or go from one holder to
another. -/
structure HandsOver (settings : Settings) (s after : State) : Prop where
  rows : after.db.sessions = s.db.sessions
  moved : ∃ origin : Holder → Holder,
    (∀ holder x, holding after holder = some x →
      ∃ y, holding s (origin holder) = some y ∧ y.id = x.id) ∧
    ∀ holder other x y, holding after holder = some x → holding after other = some y →
      origin holder = origin other → holder = other
  writes : ∀ t session row, after.threads.lookup t = some (.endUpdate session row) →
    s.threads.lookup t = some (.endUpdate session row) ∨ FinalOf settings s session row

/-- A step that opens a session, with a new row. -/
structure Creates (s after : State) (t : Nat) (session : ActiveSession) : Prop where
  fresh : s.db.sessions.lookup session.id = none
  rows : ∃ row, row.id = session.id ∧ after.db.sessions = s.db.sessions.insert session.id row
  active : after.active = s.active
  threads : ∃ relayUUID, after.threads = s.threads.insert t (.activateLedger relayUUID session)

variable {session : ActiveSession}

section service

variable {settings : Settings} {s after : State} {t : Nat} {thread next : Thread} {input : Input}

/-- A goroutine that moves on and keeps its session, or has none. -/
theorem HandsOver.of_thread (rows : after.db.sessions = s.db.sessions)
    (active : after.active = s.active) (threads : after.threads = s.threads.insert t next)
    (held : ∀ session, next.held = some session → holding s (.thread t) = some session)
    (writes : ∀ session row, next = .endUpdate session row → FinalOf settings s session row) :
    HandsOver settings s after where
  rows := rows
  moved := by
    refine ⟨id, fun holder x holds => ⟨x, ?_, rfl⟩, fun _ _ _ _ _ _ same => same⟩
    cases holder with
    | thread u =>
      rw [holding_of_insert threads] at holds
      split at holds
      · next same => exact same ▸ held x holds
      · exact holds
    | entry relayUUID =>
      rw [holding, active] at holds
      exact holds
  writes := by
    intro u session row found
    rw [threads] at found
    rcases Table.lookup_insert_iff.mp found with ⟨_, rfl⟩ | ⟨_, before⟩
    · exact .inr (writes session row rfl)
    · exact .inl before

/-- A goroutine that has no session after its step. -/
theorem HandsOver.of_idle (rows : after.db.sessions = s.db.sessions)
    (active : after.active = s.active) (threads : after.threads = s.threads.insert t next)
    (idle : next.held = none) : HandsOver settings s after := by
  refine .of_thread rows active threads (fun session held => ?_) fun session row same => ?_
  · rw [idle] at held
    exact (nomatch held)
  · rw [same] at idle
    exact (nomatch idle)

theorem holding_thread (stands : s.threads.lookup t = some thread) :
    holding s (.thread t) = thread.held := by
  rw [holding, stands]
  rfl

/-- A goroutine that keeps what it has. -/
theorem HandsOver.of_keep (stands : s.threads.lookup t = some thread)
    (rows : after.db.sessions = s.db.sessions) (active : after.active = s.active)
    (threads : after.threads = s.threads.insert t next) (kept : next.held = thread.held)
    (writesNone : next.writesEnd = none) : HandsOver settings s after := by
  refine .of_thread rows active threads (fun session held => ?_) fun session row same => ?_
  · rw [holding_thread stands, ← kept, held]
  · rw [same] at writesNone
    exact (nomatch writesNone)

theorem handsOver_activateTake (relayUUID : String) :
    HandsOver settings s (activateTake s t relayUUID) := by
  unfold activateTake
  split <;> exact .of_idle rfl rfl rfl rfl

theorem handsOver_activateRead (relayUUID : String) (entry : PendingRelay) :
    HandsOver settings s (activateRead s t relayUUID entry) := by
  unfold activateRead
  split <;> exact .of_idle rfl rfl rfl rfl

variable (settings) in
theorem activateCreate_cases (relayUUID : String) (entry : PendingRelay)
    (contract : BillingContract) (rate : Rat) :
    HandsOver settings s (activateCreate s t relayUUID entry contract rate input) ∨
      ∃ session, Creates s (activateCreate s t relayUUID entry contract rate input) t session := by
  unfold activateCreate
  split
  · exact .inl (.of_idle rfl rfl rfl rfl)
  · next db created =>
    obtain ⟨free, rfl⟩ := of_guard_not created
    exact .inr ⟨startedSession relayUUID entry contract rate input,
      Option.not_isSome_iff_eq_none.mp free, ⟨_, rfl, rfl⟩, rfl, relayUUID, rfl⟩

/-- The session goes from the goroutine to the active map. -/
theorem handsOver_activateStore {relayUUID : String}
    (stands : s.threads.lookup t = some (.activateStore relayUUID session)) :
    HandsOver settings s (activateStore s t relayUUID session) where
  rows := rfl
  moved := by
    refine ⟨Holder.beforeStore t relayUUID,
      fun holder x holds => ⟨x, (holding_activateStore stands holds).2, rfl⟩, ?_⟩
    intro holder other x y holdsX holdsY
    exact Holder.beforeStore_inj (holding_activateStore stands holdsX).1
      (holding_activateStore stands holdsY).1
  writes := by
    intro u stored row found
    rcases Table.lookup_insert_iff.mp found with ⟨_, isDone⟩ | ⟨_, before⟩
    · cases isDone
    · exact .inl before

/-- The session goes from the active map to the goroutine. -/
theorem handsOver_endTake (relayUUID : String) :
    HandsOver settings s (endTake s t relayUUID) := by
  unfold endTake
  split
  · exact .of_idle rfl rfl rfl rfl
  · next session active =>
    refine ⟨rfl, ⟨Holder.beforeTake t relayUUID,
      fun holder x holds => ⟨x, (holding_endTake active holds).2, rfl⟩, ?_⟩, ?_⟩
    · intro holder other x y holdsX holdsY
      exact Holder.beforeTake_inj (holding_endTake active holdsX).1
        (holding_endTake active holdsY).1
    · intro u stored row stands
      rcases Table.lookup_insert_iff.mp stands with ⟨_, isSplit⟩ | ⟨_, before⟩
      · cases isSplit
      · exact .inl before

theorem handsOver_endRead {endedAt : Int}
    (stands : s.threads.lookup t = some (.endRead session endedAt)) :
    HandsOver settings s (endRead settings s t session endedAt) := by
  unfold endRead
  split
  · exact .of_idle rfl rfl rfl rfl
  · next stored read =>
    refine .of_thread rfl rfl rfl (fun _ held => (holding_thread stands).trans held) ?_
    rintro _ _ ⟨⟩
    exact ⟨stored, endedAt, getBillingSession_eq read, rfl⟩

theorem handsOver_endReadContract (session : ActiveSession) (includedUsed : Int) :
    HandsOver settings s (endReadContract s t session includedUsed) := by
  unfold endReadContract
  split <;> exact .of_idle rfl rfl rfl rfl

/-- A tick changes the entry of a session in progress, not its id. -/
theorem handsOver_entry {relayUUID : String} {current updated : ActiveSession}
    (found : s.active.lookup relayUUID = some current)
    (rows : after.db.sessions = s.db.sessions)
    (active : after.active = s.active.insert relayUUID updated)
    (threads : after.threads = s.threads.insert t next) (idle : next.held = none)
    (sameId : current.id = updated.id) :
    HandsOver settings s after := by
  refine ⟨rows, ⟨id, ?_, fun _ _ _ _ _ _ same => same⟩, ?_⟩
  · intro holder x holds
    cases holder with
    | thread u =>
      rw [holding_of_insert threads, idle] at holds
      split at holds
      · cases holds
      · exact ⟨x, holds, rfl⟩
    | entry other =>
      rw [holding, active] at holds
      rcases Table.lookup_insert_iff.mp holds with ⟨rfl, rfl⟩ | ⟨_, before⟩
      · exact ⟨current, found, sameId⟩
      · exact ⟨x, before, rfl⟩
  · intro u stored row stands
    rw [threads] at stands
    rcases Table.lookup_insert_iff.mp stands with ⟨_, rfl⟩ | ⟨_, before⟩
    · cases idle
    · exact .inl before

theorem handsOver_tickNext (snapshot : List ActiveSession) (now : Int) :
    HandsOver settings s (tickNext settings s t snapshot now) := by
  unfold tickNext
  split
  · exact .of_idle rfl rfl rfl rfl
  · dsimp only
    split
    · exact .of_idle rfl rfl rfl rfl
    · next current found =>
      refine handsOver_entry found rfl rfl rfl ?_ rfl
      split <;> rfl

/-- A step of the service writes no row, opens a session, or writes the end of one. -/
theorem threadStep_cases (stands : s.threads.lookup t = some thread)
    (taken : threadStep settings s t input thread = some after) :
    (HandsOver settings s after ∧ thread.writesEnd = none) ∨
      (∃ session, Creates s after t session ∧ thread.writesEnd = none) ∨
      ∃ session row, thread = .endUpdate session row ∧ after = endUpdate s t session row := by
  cases thread with
  | done => exact (nomatch taken)
  | activateTake relayUUID =>
    obtain rfl := Option.some.inj taken
    exact .inl ⟨handsOver_activateTake relayUUID, rfl⟩
  | activateRead relayUUID entry =>
    obtain rfl := Option.some.inj taken
    exact .inl ⟨handsOver_activateRead relayUUID entry, rfl⟩
  | activateCreate relayUUID entry contract rate =>
    obtain rfl := Option.some.inj taken
    rcases activateCreate_cases settings relayUUID entry contract rate with
      moved | ⟨session, creates⟩
    · exact .inl ⟨moved, rfl⟩
    · exact .inr (.inl ⟨session, creates, rfl⟩)
  | activateLedger relayUUID session =>
    obtain rfl := Option.some.inj taken
    exact .inl ⟨.of_keep stands rfl rfl rfl rfl rfl, rfl⟩
  | activateStore relayUUID session =>
    obtain rfl := Option.some.inj taken
    exact .inl ⟨handsOver_activateStore stands, rfl⟩
  | endTake relayUUID =>
    obtain rfl := Option.some.inj taken
    exact .inl ⟨handsOver_endTake relayUUID, rfl⟩
  | endSplit session =>
    obtain rfl := Option.some.inj taken
    exact .inl ⟨.of_keep stands rfl rfl rfl rfl rfl, rfl⟩
  | endRead session endedAt =>
    obtain rfl := Option.some.inj taken
    exact .inl ⟨handsOver_endRead stands, rfl⟩
  | endUpdate session row =>
    obtain rfl := Option.some.inj taken
    exact .inr (.inr ⟨session, row, rfl, rfl⟩)
  | endLedger session includedUsed =>
    obtain rfl := Option.some.inj taken
    exact .inl ⟨.of_idle rfl rfl rfl rfl, rfl⟩
  | endReadContract session includedUsed =>
    obtain rfl := Option.some.inj taken
    exact .inl ⟨handsOver_endReadContract session includedUsed, rfl⟩
  | endWriteContract contract includedUsed =>
    obtain rfl := Option.some.inj taken
    exact .inl ⟨.of_idle rfl rfl rfl rfl, rfl⟩
  | tickNext snapshot =>
    obtain rfl := Option.some.inj taken
    exact .inl ⟨handsOver_tickNext snapshot _, rfl⟩
  | tickLedger sessionID phase rest =>
    obtain rfl := Option.some.inj taken
    exact .inl ⟨.of_idle rfl rfl rfl rfl, rfl⟩

theorem handsOver_spawn (idle : next.held = none)
    (taken : spawn s t next = some after) : HandsOver settings s after := by
  obtain ⟨_, rfl⟩ := of_guard_not taken
  exact .of_idle rfl rfl rfl idle

theorem handsOver_pending (pending : Table String PendingRelay) :
    HandsOver settings s { s with pending } :=
  ⟨rfl, ⟨id, fun _ x holds => ⟨x, holds, rfl⟩, fun _ _ _ _ _ _ same => same⟩,
    fun _ _ _ found => .inl found⟩

theorem step_cases {label : Label} (taken : step settings s label = some after) :
    (HandsOver settings s after ∧ writesEnd s label = none) ∨
      (∃ t session, Creates s after t session ∧ writesEnd s label = none) ∨
      ∃ t session row, s.threads.lookup t = some (.endUpdate session row) ∧
        writesEnd s label = some session.id ∧ after = endUpdate s t session row := by
  cases label with
  | prepare synced now relayUUID deviceID operatorID =>
    rw [step] at taken
    split at taken
    · obtain rfl := Option.some.inj taken
      exact .inl ⟨handsOver_pending _, rfl⟩
    · obtain rfl := Option.some.inj taken
      exact .inl ⟨handsOver_pending _, rfl⟩
  | sweepPending now =>
    obtain rfl := Option.some.inj taken
    exact .inl ⟨handsOver_pending _, rfl⟩
  | activateRelay t relayUUID =>
    rw [step] at taken
    split at taken
    · obtain rfl := Option.some.inj taken
      exact .inl ⟨handsOver_pending _, rfl⟩
    · exact .inl ⟨handsOver_spawn rfl taken, rfl⟩
  | endRelay t relayUUID =>
    rw [step] at taken
    split at taken
    · obtain rfl := Option.some.inj taken
      exact .inl ⟨handsOver_pending _, rfl⟩
    · exact .inl ⟨handsOver_spawn rfl taken, rfl⟩
  | tickActive t => exact .inl ⟨handsOver_spawn rfl taken, rfl⟩
  | step t input =>
    obtain ⟨thread, stands, moved⟩ := Option.bind_eq_some_iff.mp taken
    have writes : writesEnd s (.step t input) = thread.writesEnd := by
      rw [writesEnd, stands]
      rfl
    rw [writes]
    rcases threadStep_cases stands moved with handsOver | ⟨session, creates⟩ | ⟨session, row, same⟩
    · exact .inl handsOver
    · exact .inr (.inl ⟨t, session, creates⟩)
    · obtain ⟨rfl, rfl⟩ := same
      exact .inr (.inr ⟨t, session, row, stands, rfl, rfl⟩)

end service

/-! ### The invariant -/

/-- The session a call was made for, and the row it has read. -/
def Submit.sess : Submit → Option (String × BillingSession)
  | .check sessionID sess _ | .create sessionID sess _ | .update sessionID sess _ =>
    some (sessionID, sess)
  | .read .. | .returned _ => none

/-- The report a call has stored, before it returns. -/
def Submit.stored : Submit → Option Acceptance
  | .update sessionID _ report => some ⟨sessionID, report⟩
  | .read .. | .check .. | .create .. | .returned _ => none

def storing (s : Reporting) (u : Nat) : Option Acceptance :=
  (s.submits.lookup u).bind Submit.stored

/-- The calls of `SubmitWorkReport` have read rows of their sessions, and one call at most is about
to close a session. -/
structure Submits (s : Reporting) : Prop where
  read : ∀ u submit sessionID sess, s.submits.lookup u = some submit →
    submit.sess = some (sessionID, sess) →
      sess.id = sessionID ∧ (s.service.db.sessions.lookup sessionID).isSome
  stored : ∀ u acceptance, storing s u = some acceptance →
    s.reports.lookup acceptance.sessionID = some acceptance.report ∧
      ¬ Accepted s acceptance.sessionID
  one : ∀ u v x y, storing s u = some x → storing s v = some y → x.sessionID = y.sessionID → u = v

/-- A session that has not ended has one holder and a row, and its end is written over that row. -/
structure Holders (settings : Settings) (s : Reporting) : Prop where
  row : ∀ holder session, holding s.service holder = some session →
    (s.service.db.sessions.lookup session.id).isSome
  unended : ∀ holder session, holding s.service holder = some session → session.id ∉ s.ended
  one : ∀ holder other x y, holding s.service holder = some x →
    holding s.service other = some y → x.id = y.id → holder = other
  writes : ∀ t session row, s.service.threads.lookup t = some (.endUpdate session row) →
    ∃ stored endedAt, stored.id = session.id ∧ row = finalRow settings session endedAt stored

/-- A session's row waits for a report. -/
def Waiting (settings : Settings) (row : BillingSession) : Prop :=
  settings.requireReport = true ∧ row.status = statusPendingReport ∧ row.endedAt.isSome

/-- A session has ended: it is closed, if its report was accepted, or waits for one. -/
def HasEnded (settings : Settings) (s : Reporting) (sessionID : String) : Prop :=
  ∃ row, s.service.db.sessions.lookup sessionID = some row ∧
    (settings.requireReport = true → (row.status = statusClosed ↔ Accepted s sessionID)) ∧
    (row.status = statusClosed ∨ Waiting settings row)

/-- A session that the service has opened, while it can end and after its end. -/
def Live (s : Reporting) (sessionID : String) : Prop :=
  sessionID ∈ s.ended ∨
    ∃ holder session, holding s.service holder = some session ∧ session.id = sessionID

structure Reported (settings : Settings) (s : Reporting) : Prop where
  tables : Tables s.service.db s.reports
  holders : Holders settings s
  submits : Submits s
  kept : ∀ acceptance ∈ s.accepted,
    s.reports.lookup acceptance.sessionID = some acceptance.report
  unreported : settings.requireReport = true → ∀ holder session,
    holding s.service holder = some session → ¬ Accepted s session.id
  ended : ∀ id ∈ s.ended, HasEnded settings s id
  answered : ∀ id report, Live s id → s.reports.lookup id = some report →
    Accepted s id ∨ ∃ u, storing s u = some ⟨id, report⟩

variable {sess : BillingSession} {row : BillingSession}

section reported

variable {settings : Settings} {s after : Reporting}

theorem Reported.row_of_accepted (reported : Reported settings s) {id : String}
    (accepted : Accepted s id) : (s.service.db.sessions.lookup id).isSome := by
  obtain ⟨report, member⟩ := accepted
  exact reported.tables.filed id report (reported.kept _ member)

/-! ### Steps of the service -/

/-- A step that leaves the reports and their calls alone keeps every row, and has no session but
those the service had, and those it opens. -/
theorem Reported.service (reported : Reported settings s) {service : State} {ended : List String}
    (keyed : ∀ id row, service.db.sessions.lookup id = some row → row.id = id)
    (rows : s.service.KeepsRows service) (holders : Holders settings { s with service, ended })
    (held : ∀ holder x, holding service holder = some x →
      s.service.db.sessions.lookup x.id = none ∨
        ∃ origin y, holding s.service origin = some y ∧ y.id = x.id)
    (endedLive : ∀ id ∈ ended, Live s id)
    (hasEnded : ∀ id ∈ ended, HasEnded settings { s with service, ended } id) :
    Reported settings { s with service, ended } where
  tables := ⟨keyed, fun id report found => rows id (reported.tables.filed id report found)⟩
  holders := holders
  submits :=
    { read := fun u submit sessionID sess found read =>
        (reported.submits.read u submit sessionID sess found read).imp_right (rows sessionID)
      stored := reported.submits.stored
      one := reported.submits.one }
  kept := reported.kept
  unreported := by
    intro required holder x holds isAccepted
    rcases held holder x holds with new | ⟨origin, y, before, same⟩
    · have row := reported.row_of_accepted isAccepted
      rw [new] at row
      exact (nomatch row)
    · exact reported.unreported required origin y before (same ▸ isAccepted)
  ended := hasEnded
  answered := by
    rintro id report (isEnded | ⟨holder, x, holds, rfl⟩) found
    · exact reported.answered id report (endedLive id isEnded) found
    · rcases held holder x holds with new | before
      · have row := reported.tables.filed _ report found
        rw [new] at row
        exact (nomatch row)
      · exact reported.answered _ report (.inr before) found

/-- A session that has ended stays so, if nobody writes its row. -/
theorem HasEnded.of_row {id : String} (hasEnded : HasEnded settings s id)
    (row : after.service.db.sessions.lookup id = s.service.db.sessions.lookup id)
    (accepted : Accepted after id ↔ Accepted s id) : HasEnded settings after id := by
  unfold HasEnded
  rw [row, accepted]
  exact hasEnded

theorem Reported.handsOver (reported : Reported settings s) {service : State}
    (moved : HandsOver settings s.service service) : Reported settings { s with service } := by
  obtain ⟨origin, came, apart⟩ := moved.moved
  refine reported.service (by rw [moved.rows]; exact reported.tables.keyed)
    (fun id row => by rwa [moved.rows]) ⟨?_, ?_, ?_, ?_⟩
    (fun holder x holds => .inr ⟨_, came holder x holds⟩) (fun id isEnded => .inl isEnded)
    fun id isEnded => (reported.ended id isEnded).of_row (by rw [moved.rows]) Iff.rfl
  · intro holder x holds
    obtain ⟨y, before, same⟩ := came holder x holds
    rw [moved.rows, ← same]
    exact reported.holders.row _ y before
  · intro holder x holds
    obtain ⟨y, before, same⟩ := came holder x holds
    rw [← same]
    exact reported.holders.unended _ y before
  · intro holder other x y holdsX holdsY same
    obtain ⟨oldX, beforeX, sameX⟩ := came holder x holdsX
    obtain ⟨oldY, beforeY, sameY⟩ := came other y holdsY
    refine apart holder other x y holdsX holdsY ?_
    exact reported.holders.one _ _ oldX oldY beforeX beforeY (by rw [sameX, sameY, same])
  · intro t session row found
    rcases moved.writes t session row found with before | ⟨stored, endedAt, read, same⟩
    · exact reported.holders.writes t session row before
    · exact ⟨stored, endedAt, reported.tables.keyed _ stored read, same⟩

/-- What the holders have after a session was opened. -/
theorem Creates.holding {before later : State} {t : Nat}
    (creates : Creates before later t session) {holder : Holder} {x : ActiveSession}
    (holds : Billing.holding later holder = some x) :
    (holder = .thread t ∧ x = session) ∨ Billing.holding before holder = some x := by
  obtain ⟨relayUUID, threads⟩ := creates.threads
  cases holder with
  | thread u =>
    rw [holding_of_insert threads] at holds
    split at holds
    · next same => exact .inl ⟨congrArg _ same, (Option.some.inj holds).symm⟩
    · exact .inr holds
  | entry relayUUID =>
    rw [Billing.holding, creates.active] at holds
    exact .inr holds

theorem Reported.creates (reported : Reported settings s) {service : State} {t : Nat}
    (creates : Creates s.service service t session) :
    Reported settings { s with service } := by
  obtain ⟨row, rowId, rows⟩ := creates.rows
  -- the sessions that were there before are others
  have different : ∀ holder x, holding s.service holder = some x → x.id ≠ session.id := by
    intro holder x holds same
    have stored := reported.holders.row holder x holds
    rw [same, creates.fresh] at stored
    exact (nomatch stored)
  have notEnded : session.id ∉ s.ended := by
    intro isEnded
    obtain ⟨stored, found, _⟩ := reported.ended _ isEnded
    rw [creates.fresh] at found
    exact (nomatch found)
  have others : s.service.KeepsRows service := by
    intro id stored
    rw [rows, Table.lookup_insert_if]
    split
    · rfl
    · exact stored
  refine reported.service ?_ others ⟨?_, ?_, ?_, ?_⟩ ?_ (fun id isEnded => .inl isEnded) ?_
  · intro id stored found
    rw [rows] at found
    rcases Table.lookup_insert_iff.mp found with ⟨rfl, rfl⟩ | ⟨_, before⟩
    · exact rowId
    · exact reported.tables.keyed id stored before
  · intro holder x holds
    rcases creates.holding holds with ⟨_, rfl⟩ | before
    · rw [rows, AList.lookup_insert]
      rfl
    · exact others _ (reported.holders.row holder x before)
  · intro holder x holds
    rcases creates.holding holds with ⟨_, rfl⟩ | before
    · exact notEnded
    · exact reported.holders.unended holder x before
  · intro holder other x y holdsX holdsY same
    rcases creates.holding holdsX with ⟨rfl, rfl⟩ | beforeX
    · rcases creates.holding holdsY with ⟨rfl, _⟩ | beforeY
      · rfl
      · exact absurd same.symm (different other y beforeY)
    · rcases creates.holding holdsY with ⟨rfl, rfl⟩ | beforeY
      · exact absurd same (different holder x beforeX)
      · exact reported.holders.one holder other x y beforeX beforeY same
  · intro u opened written found
    obtain ⟨relayUUID, threads⟩ := creates.threads
    rw [threads] at found
    rcases Table.lookup_insert_iff.mp found with ⟨_, isLedger⟩ | ⟨_, before⟩
    · exact (nomatch isLedger)
    · exact reported.holders.writes u opened written before
  · intro holder x holds
    rcases creates.holding holds with ⟨_, rfl⟩ | before
    · exact .inl creates.fresh
    · exact .inr ⟨holder, x, before, rfl⟩
  · intro id isEnded
    refine (reported.ended id isEnded).of_row ?_ Iff.rfl
    rw [rows, AList.lookup_insert_ne (ne_of_mem_of_not_mem isEnded notEnded)]

/-- The end of a session is written over its row: it is closed, or waits for a report, which no
call has had accepted yet. -/
theorem Reported.endUpdate (reported : Reported settings s) {t : Nat}
    (stands : s.service.threads.lookup t = some (.endUpdate session row)) :
    Reported settings
      { s with
        service := Billing.endUpdate s.service t session row
        ended := s.ended ++ [session.id] } := by
  obtain ⟨stored, endedAt, storedId, rfl⟩ := reported.holders.writes t session row stands
  have own : holding s.service (.thread t) = some session := holding_thread stands
  set after := Billing.endUpdate s.service t session (finalRow settings session endedAt stored)
  have threads : after.threads = s.service.threads.insert t
      (.endLedger session (finalRow settings session endedAt stored).includedMinutesUsed) := rfl
  have lookup : ∀ id, after.db.sessions.lookup id =
      if id = session.id then
        (s.service.db.sessions.lookup session.id).map
          (·.updated (finalRow settings session endedAt stored))
      else s.service.db.sessions.lookup id := by
    intro id
    rw [← storedId]
    exact Table.lookup_update _ _ _ _
  have before : ∀ holder x, holding after holder = some x →
      holding s.service holder = some x ∧ x.id ≠ session.id := by
    intro holder x holds
    have other : holder ≠ .thread t → holding s.service holder = some x →
        holding s.service holder = some x ∧ x.id ≠ session.id := by
      intro different held
      refine ⟨held, fun same => different ?_⟩
      exact reported.holders.one holder (.thread t) x session held own same
    cases holder with
    | thread u =>
      rw [holding_of_insert threads] at holds
      split at holds
      · cases holds
      · next different => exact other (fun same => different (Holder.thread.inj same)) holds
    | entry relayUUID =>
      exact other (fun same => Holder.noConfusion same) holds
  obtain ⟨old, found⟩ := Option.isSome_iff_exists.mp (reported.holders.row _ session own)
  refine reported.service ?_ ?_ ⟨?_, ?_, ?_, ?_⟩
    (fun holder x holds => .inr ⟨holder, x, (before holder x holds).1, rfl⟩) ?_ ?_
  · intro id written isWritten
    rw [lookup] at isWritten
    split at isWritten
    · next same =>
      rw [found, Option.map_some] at isWritten
      obtain rfl := Option.some.inj isWritten
      exact same ▸ reported.tables.keyed _ old found
    · exact reported.tables.keyed id written isWritten
  · intro id isStored
    rw [lookup]
    split
    · rw [found]
      rfl
    · exact isStored
  · intro holder x holds
    obtain ⟨held, different⟩ := before holder x holds
    rw [lookup, if_neg different]
    exact reported.holders.row holder x held
  · intro holder x holds isEnded
    obtain ⟨held, different⟩ := before holder x holds
    rcases List.mem_append.mp isEnded with earlier | new
    · exact reported.holders.unended holder x held earlier
    · exact different (List.mem_singleton.mp new)
  · exact fun holder other x y holdsX holdsY =>
      reported.holders.one holder other x y (before holder x holdsX).1 (before other y holdsY).1
  · intro u opened written isWriting
    rw [threads] at isWriting
    rcases Table.lookup_insert_iff.mp isWriting with ⟨_, isLedger⟩ | ⟨_, earlier⟩
    · cases isLedger
    · exact reported.holders.writes u opened written earlier
  · intro id isEnded
    rcases List.mem_append.mp isEnded with earlier | new
    · exact .inl earlier
    · exact .inr ⟨.thread t, session, own, (List.mem_singleton.mp new).symm⟩
  · intro id isEnded
    by_cases same : id = session.id
    · refine ⟨old.updated (finalRow settings session endedAt stored), ?_, fun required => ?_, ?_⟩
      · rw [lookup, if_pos same, found]
        rfl
      · rw [same]
        refine iff_of_false ?_ (reported.unreported required _ session own)
        simp [BillingSession.updated, finalRow, required, statusPendingReport, statusClosed]
      · by_cases required : settings.requireReport = true
        · right
          refine ⟨required, ?_, rfl⟩
          simp [BillingSession.updated, finalRow, required]
        · left
          simp [BillingSession.updated, finalRow, required]
    · have earlier : id ∈ s.ended := by
        rcases List.mem_append.mp isEnded with earlier | new
        · exact earlier
        · exact absurd (List.mem_singleton.mp new) same
      refine (reported.ended id earlier).of_row ?_ Iff.rfl
      rw [lookup, if_neg same]

theorem reported_serviceStep (reported : Reported settings s) {label : Label} {service : State}
    (taken : step settings s.service label = some service) :
    Reported settings
      { s with service, ended := s.ended ++ (writesEnd s.service label).toList } := by
  rcases step_cases taken with ⟨moved, none'⟩ | ⟨t, session, creates, none'⟩ |
    ⟨t, session, row, stands, ends, same⟩
  · rw [none', Option.toList_none, List.append_nil]
    exact reported.handsOver moved
  · rw [none', Option.toList_none, List.append_nil]
    exact reported.creates creates
  · rw [ends, same]
    exact reported.endUpdate stands

/-! ### Steps of `SubmitWorkReport` -/

variable {u : Nat} {next : Submit}

theorem storing_of_insert (submits : after.submits = s.submits.insert u next) (v : Nat) :
    storing after v = if v = u then next.stored else storing s v := by
  rw [storing, submits, Table.lookup_insert_if]
  split
  · rfl
  · rfl

/-- Calls whose rows exist have them after one has moved on. -/
theorem Submits.read_of_insert (submitting : Submits s)
    (submits : after.submits = s.submits.insert u next)
    (rows : s.service.KeepsRows after.service)
    (own : ∀ sessionID sess, next.sess = some (sessionID, sess) →
      sess.id = sessionID ∧ (s.service.db.sessions.lookup sessionID).isSome) :
    ∀ v submit sessionID sess, after.submits.lookup v = some submit →
      submit.sess = some (sessionID, sess) →
        sess.id = sessionID ∧ (after.service.db.sessions.lookup sessionID).isSome := by
  intro v submit sessionID sess found read
  rw [submits] at found
  rcases Table.lookup_insert_iff.mp found with ⟨_, rfl⟩ | ⟨_, before⟩
  · obtain ⟨same, row⟩ := own sessionID sess read
    exact ⟨same, rows _ row⟩
  · obtain ⟨same, row⟩ := submitting.read v submit sessionID sess before read
    exact ⟨same, rows _ row⟩

variable {report : WorkReport}

theorem accepted_append
    (accepted : after.accepted = s.accepted ++ [⟨sessionID, report⟩]) (id : String) :
    Accepted after id ↔ id = sessionID ∨ Accepted s id := by
  unfold Accepted
  rw [accepted]
  simp only [List.mem_append, List.mem_singleton, Acceptance.mk.injEq, exists_or]
  constructor
  · rintro (before | ⟨_, same, _⟩)
    · exact .inr before
    · exact .inl same
  · rintro (same | before)
    · exact .inr ⟨report, same, rfl⟩
    · exact .inl before

/-- A call moves on, has stored no report before, and stores none. -/
theorem Reported.submit (reported : Reported settings s)
    (idle : storing s u = none) (storesNone : next.stored = none)
    (read : ∀ sessionID sess, next.sess = some (sessionID, sess) →
      sess.id = sessionID ∧ (s.service.db.sessions.lookup sessionID).isSome) :
    Reported settings (s.setSubmit u next) := by
  have storing : ∀ v, storing (s.setSubmit u next) v = storing s v := by
    intro v
    rw [storing_of_insert rfl]
    split
    · next same => rw [same, storesNone, idle]
    · rfl
  obtain ⟨row, unended, one, writes⟩ := reported.holders
  refine ⟨reported.tables, ⟨row, unended, one, writes⟩,
    ⟨reported.submits.read_of_insert rfl (fun _ row => row) read, ?_, ?_⟩, reported.kept,
    reported.unreported, reported.ended, fun id report live found => ?_⟩
  · intro v acceptance stores
    rw [storing] at stores
    exact reported.submits.stored v acceptance stores
  · intro v w x y storesX storesY
    rw [storing] at storesX storesY
    exact reported.submits.one v w x y storesX storesY
  · simp only [storing]
    exact reported.answered id report live found

/-- A call stores the first report on its session. -/
theorem Reported.stores (reported : Reported settings s) (new : s.reports.lookup sessionID = none)
    (row : sess.id = sessionID ∧ (s.service.db.sessions.lookup sessionID).isSome)
    (idle : storing s u = none) :
    Reported settings
      { s with
        reports := s.reports.insert sessionID report
        submits := s.submits.insert u (.update sessionID sess report) } := by
  set after : Reporting :=
    { s with
      reports := s.reports.insert sessionID report
      submits := s.submits.insert u (.update sessionID sess report) }
  have storing : ∀ v, Billing.storing after v =
      if v = u then some ⟨sessionID, report⟩ else Billing.storing s v :=
    @storing_of_insert s after u (.update sessionID sess report) rfl
  have lookup : ∀ id, after.reports.lookup id =
      if id = sessionID then some report else s.reports.lookup id :=
    fun id => Table.lookup_insert_if _ _ id _
  have other : ∀ {id found}, s.reports.lookup id = some found → id ≠ sessionID := by
    rintro id found isReport rfl
    rw [new] at isReport
    exact (nomatch isReport)
  have unaccepted : ¬ Accepted s sessionID := fun ⟨found, member⟩ =>
    other (reported.kept _ member) rfl
  constructor
  case tables =>
    refine ⟨reported.tables.keyed, fun id found isReport => ?_⟩
    rw [lookup] at isReport
    split at isReport
    · next same => exact same ▸ row.2
    · exact reported.tables.filed id found isReport
  case holders =>
    obtain ⟨row, unended, one, writes⟩ := reported.holders
    exact ⟨row, unended, one, writes⟩
  case submits =>
    refine ⟨reported.submits.read_of_insert rfl (fun _ stored => stored) ?_, ?_, ?_⟩
    · intro id read same
      obtain ⟨rfl, rfl⟩ := Prod.mk.inj (Option.some.inj same)
      exact row
    · intro v acceptance stores
      rw [storing] at stores
      rw [lookup]
      split at stores
      · obtain rfl := Option.some.inj stores
        exact ⟨if_pos rfl, unaccepted⟩
      · obtain ⟨isReport, notAccepted⟩ := reported.submits.stored v acceptance stores
        rw [if_neg (other isReport)]
        exact ⟨isReport, notAccepted⟩
    · intro v w x y storesX storesY same
      rw [storing] at storesX storesY
      split at storesX <;> split at storesY
      · next isU isOther => rw [isU, isOther]
      · obtain rfl := Option.some.inj storesX
        exact absurd same.symm (other (reported.submits.stored w y storesY).1)
      · obtain rfl := Option.some.inj storesY
        exact absurd same (other (reported.submits.stored v x storesX).1)
      · exact reported.submits.one v w x y storesX storesY same
  case kept =>
    intro acceptance member
    have isReport := reported.kept acceptance member
    rw [lookup, if_neg (other isReport)]
    exact isReport
  case unreported => exact reported.unreported
  case ended => exact reported.ended
  case answered =>
    intro id found isLive isReport
    rw [lookup] at isReport
    simp only [storing]
    split at isReport
    · next same =>
      obtain rfl := Option.some.inj isReport
      exact .inr ⟨u, by rw [if_pos rfl, same]⟩
    · rcases reported.answered id found isLive isReport with done | ⟨v, stores⟩
      · exact .inl done
      · refine .inr ⟨v, ?_⟩
        rw [if_neg, stores]
        rintro rfl
        rw [idle] at stores
        exact (nomatch stores)

/-- A call that has stored a report closes its session, which is nobody's any more, and returns. -/
theorem Reported.accepts (reported : Reported settings s)
    (stores : storing s u = some ⟨sessionID, report⟩) (sameId : sess.id = sessionID)
    (afterEnd : settings.requireReport = true → Unheld s.service sessionID) :
    Reported settings (submitUpdate s u sessionID sess report) := by
  set after := submitUpdate s u sessionID sess report
  have storing : ∀ v, Billing.storing after v = if v = u then none else Billing.storing s v :=
    @storing_of_insert s after u (.returned none) rfl
  have lookup : ∀ id, after.service.db.sessions.lookup id =
      if id = sessionID then
        (s.service.db.sessions.lookup sessionID).map
          (·.updated { sess with status := statusClosed })
      else s.service.db.sessions.lookup id := by
    intro id
    rw [← sameId]
    exact Table.lookup_update _ _ _ _
  have rows : s.service.KeepsRows after.service := by
    intro id stored
    rw [lookup]
    split
    · next same => rwa [Option.isSome_map, ← same]
    · exact stored
  have isAccepted : ∀ id, Accepted after id ↔ id = sessionID ∨ Accepted s id :=
    accepted_append rfl
  constructor
  case tables =>
    refine ⟨fun id written isWritten => ?_, fun id found isReport => ?_⟩
    · rw [lookup] at isWritten
      split at isWritten
      · next same =>
        obtain ⟨old, found, rfl⟩ := Option.map_eq_some_iff.mp isWritten
        exact same ▸ reported.tables.keyed _ old found
      · exact reported.tables.keyed id written isWritten
    · exact rows id (reported.tables.filed id found isReport)
  case holders =>
    obtain ⟨row, unended, one, writes⟩ := reported.holders
    exact ⟨fun holder session holds => rows _ (row holder session holds), unended, one, writes⟩
  case submits =>
    refine ⟨reported.submits.read_of_insert rfl rows (fun _ _ none' => ?_), ?_, ?_⟩
    · cases none'
    · intro v acceptance storesV
      rw [storing] at storesV
      split at storesV
      · cases storesV
      · next different =>
        obtain ⟨isReport, notAccepted⟩ := reported.submits.stored v acceptance storesV
        rw [isAccepted]
        refine ⟨isReport, not_or.mpr ⟨fun same => different ?_, notAccepted⟩⟩
        exact reported.submits.one v u acceptance _ storesV stores same
    · intro v w x y storesX storesY
      rw [storing] at storesX storesY
      split at storesX
      · cases storesX
      · split at storesY
        · cases storesY
        · exact reported.submits.one v w x y storesX storesY
  case kept =>
    intro acceptance member
    rcases List.mem_append.mp member with before | new
    · exact reported.kept acceptance before
    · obtain rfl := List.mem_singleton.mp new
      exact (reported.submits.stored u _ stores).1
  case unreported =>
    intro required holder session holds
    rw [isAccepted, not_or]
    exact ⟨unheld_iff.mp (afterEnd required) holder session holds,
      reported.unreported required holder session holds⟩
  case ended =>
    intro id isEnded
    by_cases same : id = sessionID
    · obtain ⟨old, found, _⟩ := reported.ended id isEnded
      refine ⟨old.updated { sess with status := statusClosed }, ?_, fun _ => ?_, .inl rfl⟩
      · rw [lookup, if_pos same, ← same, found]
        rfl
      · exact iff_of_true rfl ((isAccepted id).mpr (.inl same))
    · refine (reported.ended id isEnded).of_row (by rw [lookup, if_neg same]) ?_
      rw [isAccepted, or_iff_right same]
  case answered =>
    intro id found isLive isReport
    rw [isAccepted]
    rcases reported.answered id found isLive isReport with done | ⟨v, storesV⟩
    · exact .inl (.inr done)
    · by_cases same : v = u
      · rw [same, stores] at storesV
        exact .inl (.inl (congrArg Acceptance.sessionID (Option.some.inj storesV)).symm)
      · exact .inr ⟨v, by rw [storing, if_neg same, storesV]⟩

theorem storing_eq {submit : Submit} (stands : s.submits.lookup u = some submit) :
    storing s u = submit.stored := by
  rw [storing, stands]
  rfl

section

variable (reported : Reported settings s)

include reported

theorem Reported.refused (idle : storing s u = none)
    (error : Option SubmitError) : Reported settings (s.setSubmit u (.returned error)) :=
  reported.submit idle rfl fun _ _ => nofun

theorem reported_submitRead (stands : s.submits.lookup u = some (.read sessionID report)) :
    Reported settings (submitRead s u sessionID report) := by
  have idle : storing s u = none := storing_eq stands
  unfold submitRead
  split
  · exact reported.refused idle _
  · next sess read =>
    split
    · exact reported.refused idle _
    · refine reported.submit idle rfl fun id row same => ?_
      obtain ⟨rfl, rfl⟩ := Prod.mk.inj (Option.some.inj same)
      have found := getBillingSession_eq read
      exact ⟨reported.tables.keyed _ _ found, Option.isSome_iff_exists.mpr ⟨_, found⟩⟩

theorem reported_submitCheck (stands : s.submits.lookup u = some (.check sessionID sess report)) :
    Reported settings (submitCheck s u sessionID sess report) := by
  have idle : storing s u = none := storing_eq stands
  unfold submitCheck
  split
  · exact reported.refused idle _
  · exact reported.submit idle rfl fun id row same =>
      reported.submits.read u _ id row stands same

/-- A report that is stored is the only one on its session. -/
theorem reported_submitCreate (stands : s.submits.lookup u = some (.create sessionID sess report)) :
    Reported settings (submitCreate s u sessionID sess report) := by
  have idle : storing s u = none := storing_eq stands
  unfold submitCreate
  split
  · exact reported.refused idle _
  · next created isCreated =>
    obtain ⟨present, rfl⟩ := of_guard_not isCreated
    have new : s.reports.lookup sessionID = none := Option.not_isSome_iff_eq_none.mp present
    have row := reported.submits.read u _ _ _ stands rfl
    exact reported.stores new row idle

/-- The row is closed, and the report accepted. -/
theorem reported_submitUpdate (stands : s.submits.lookup u = some (.update sessionID sess report))
    (afterEnd : settings.requireReport = true → Unheld s.service sessionID) :
    Reported settings (submitUpdate s u sessionID sess report) := by
  obtain ⟨sameId, _⟩ := reported.submits.read u _ _ _ stands rfl
  exact reported.accepts (storing_eq stands) sameId afterEnd

theorem reported_submitStep {submit : Submit}
    (stands : s.submits.lookup u = some submit) (afterEnd : submit.AfterEnd settings s.service)
    (taken : submitStep s u submit = some after) : Reported settings after := by
  cases submit with
  | read sessionID report =>
    obtain rfl := Option.some.inj taken
    exact reported_submitRead reported stands
  | check sessionID sess report =>
    obtain rfl := Option.some.inj taken
    exact reported_submitCheck reported stands
  | create sessionID sess report =>
    obtain rfl := Option.some.inj taken
    exact reported_submitCreate reported stands
  | update sessionID sess report =>
    obtain rfl := Option.some.inj taken
    exact reported_submitUpdate reported stands afterEnd
  | returned error => exact (nomatch taken)

theorem reported_submitWorkReport (free : s.submits.lookup u = none) (sessionID operatorID : String)
    (summary category ticketRef : List UInt8) :
    Reported settings
      (s.setSubmit u (submitWorkReport sessionID operatorID summary category ticketRef)) := by
  have idle : storing s u = none := by
    rw [storing, free]
    rfl
  unfold submitWorkReport
  dsimp only
  split
  · exact reported.refused idle _
  · exact reported.submit idle rfl fun _ _ => nofun

end

/-! ### Every run -/

theorem reported_start (initial : (reporting settings).start s) : Reported settings s := by
  obtain ⟨isFresh, tables, noSubmits, noneEnded, noneAccepted⟩ := initial
  have idle : ∀ u, storing s u = none := by
    intro u
    rw [storing, noSubmits]
    rfl
  have unheld : ∀ holder, holding s.service holder = none := by
    intro holder
    rw [isFresh]
    cases holder <;> rfl
  have notLive : ∀ id, ¬ Live s id := by
    rintro id (isEnded | ⟨holder, session, holds, _⟩)
    · rw [noneEnded] at isEnded
      exact (nomatch isEnded)
    · rw [unheld] at holds
      exact (nomatch holds)
  refine ⟨tables, ⟨?_, ?_, ?_, ?_⟩, ⟨?_, ?_, ?_⟩, ?_, ?_, ?_, ?_⟩
  · intro holder session holds
    rw [unheld] at holds
    exact (nomatch holds)
  · intro holder session holds
    rw [unheld] at holds
    exact (nomatch holds)
  · intro holder other x y holds
    rw [unheld] at holds
    exact (nomatch holds)
  · intro t session row found
    rw [isFresh] at found
    exact (nomatch found)
  · intro u submit sessionID sess found
    rw [noSubmits] at found
    exact (nomatch found)
  · intro u acceptance stores
    rw [idle] at stores
    exact (nomatch stores)
  · intro u v x y stores
    rw [idle] at stores
    exact (nomatch stores)
  · rw [noneAccepted]
    exact fun _ => nofun
  · intro _ holder session holds
    rw [unheld] at holds
    exact (nomatch holds)
  · rw [noneEnded]
    exact fun _ => nofun
  · exact fun id report live => absurd live (notLive id)

/-- A step that meets the condition. -/
theorem reported_step (reported : Reported settings s) {label : ReportingLabel}
    (afterEnd : AfterEnd settings s label) (taken : reportingStep settings s label = some after) :
    Reported settings after := by
  cases label with
  | service label =>
    obtain ⟨service, isStep, rfl⟩ := Option.map_eq_some_iff.mp taken
    exact reported_serviceStep reported isStep
  | submit u sessionID operatorID summary category ticketRef =>
    obtain ⟨free, rfl⟩ := of_guard_not taken
    exact reported_submitWorkReport reported (Option.not_isSome_iff_eq_none.mp free) _ _ _ _ _
  | report u =>
    obtain ⟨submit, stands, isStep⟩ := Option.bind_eq_some_iff.mp taken
    exact reported_submitStep reported stands (afterEnd submit stands) isStep

end reported

/-! ### A report after the end -/

/-- A call has its report accepted in a number of steps. -/
def Completes (settings : Settings) (s : Reporting) (u steps : Nat) (acceptance : Acceptance) :
    Prop :=
  ∃ final, (reporting settings).run s (List.replicate steps (.report u)) = some final ∧
    final.accepted = s.accepted ++ [acceptance]

section completes

variable {settings : Settings} {s after : Reporting} {u : Nat} {sessionID : String}
  {report : WorkReport}

theorem Completes.succ {submit : Submit} {steps : Nat} {acceptance : Acceptance}
    (stands : s.submits.lookup u = some submit) (taken : submitStep s u submit = some after)
    (same : after.accepted = s.accepted) (rest : Completes settings after u steps acceptance) :
    Completes settings s u (steps + 1) acceptance := by
  obtain ⟨final, ran, accepted⟩ := rest
  refine ⟨final, ?_, by rw [accepted, same]⟩
  have isStep : (reporting settings).step s (.report u) = some after := by
    show (s.submits.lookup u).bind (submitStep s u) = some after
    rw [stands, Option.bind_some, taken]
  rw [List.replicate_succ, System.run, isStep, Option.bind_some, ran]

variable (settings)

theorem completes_update (stands : s.submits.lookup u = some (.update sessionID sess report)) :
    Completes settings s u 1 ⟨sessionID, report⟩ := by
  refine ⟨submitUpdate s u sessionID sess report, ?_, rfl⟩
  have isStep : (reporting settings).step s (.report u) =
      some (submitUpdate s u sessionID sess report) := by
    show (s.submits.lookup u).bind (submitStep s u) = _
    rw [stands]
    rfl
  rw [List.replicate_one, System.run, isStep]
  rfl

theorem Reporting.lookup_setSubmit (s : Reporting) (u : Nat) (submit : Submit) :
    (s.setSubmit u submit).submits.lookup u = some submit := AList.lookup_insert _

theorem completes_create (new : s.reports.lookup sessionID = none)
    (stands : s.submits.lookup u = some (.create sessionID sess report)) :
    Completes settings s u 2 ⟨sessionID, report⟩ := by
  have created : submitCreate s u sessionID sess report =
      { s with reports := s.reports.insert sessionID report }.setSubmit u
        (.update sessionID sess report) := by
    rw [submitCreate, Reporting.createBillingWorkReport, new]
    rfl
  refine .succ stands (congrArg some created) rfl ?_
  exact completes_update settings (Reporting.lookup_setSubmit _ u _)

theorem completes_check (new : s.reports.lookup sessionID = none)
    (stands : s.submits.lookup u = some (.check sessionID sess report)) :
    Completes settings s u 3 ⟨sessionID, report⟩ := by
  have checked : submitCheck s u sessionID sess report =
      s.setSubmit u (.create sessionID sess report) := by
    rw [submitCheck, new]
  refine .succ stands (congrArg some checked) rfl ?_
  exact completes_create settings new (Reporting.lookup_setSubmit _ u _)

theorem completes_read (new : s.reports.lookup sessionID = none)
    (read : s.service.db.getBillingSession sessionID = some sess)
    (unclosed : sess.status ≠ statusClosed)
    (stands : s.submits.lookup u = some (.read sessionID report)) :
    Completes settings s u 4 ⟨sessionID, report⟩ := by
  have isRead : submitRead s u sessionID report =
      s.setSubmit u (.check sessionID sess report) := by
    rw [submitRead, read]
    exact if_neg unclosed
  refine .succ stands (congrArg some isRead) rfl ?_
  exact completes_check settings new (Reporting.lookup_setSubmit _ u _)

variable {settings}

/-- A row that waits for a report can be read on either database. -/
theorem Waiting.read (waiting : Waiting settings row)
    (stored : s.service.db.sessions.lookup sessionID = some row) :
    s.service.db.getBillingSession sessionID = some row := by
  rw [BillingDB.getBillingSession, stored]
  cases s.service.db.kind with
  | postgres => rfl
  | sqlite => exact if_pos waiting.2.2

/-- A session that waits for a report takes any report that has a summary, unless one is already
stored, and being accepted. -/
theorem Reported.canAccept (reported : Reported settings s) (isEnded : sessionID ∈ s.ended)
    (stored : s.service.db.sessions.lookup sessionID = some row)
    (pending : row.status = statusPendingReport) : CanAccept settings s sessionID := by
  obtain ⟨found, isRow, closed, closedOrWaiting⟩ := reported.ended sessionID isEnded
  obtain rfl := Option.some.inj (stored.symm.trans isRow)
  have unclosed : row.status ≠ statusClosed := by
    rw [pending]
    decide
  have waiting : Waiting settings row := closedOrWaiting.resolve_left unclosed
  cases isReport : s.reports.lookup sessionID with
  | some report =>
    rcases reported.answered sessionID report (.inl isEnded) isReport with done | ⟨u, stores⟩
    · exact absurd ((closed waiting.1).mpr done) unclosed
    · obtain ⟨submit, stands, isStored⟩ := Option.bind_eq_some_iff.mp stores
      cases submit with
      | update id sess other =>
        obtain ⟨rfl, rfl⟩ := Acceptance.mk.inj (Option.some.inj isStored)
        obtain ⟨final, ran, accepted⟩ := completes_update settings stands
        exact ⟨_, final, _, ran, accepted⟩
      | read | check | create | returned => exact (nomatch isStored)
  | none =>
    obtain ⟨u, free⟩ := Table.exists_lookup_eq_none s.submits
    have start : (reporting settings).step s (.submit u sessionID "" [0] [] []) =
        some (s.setSubmit u (.read sessionID ⟨"", [0], [], []⟩)) :=
      if_neg (by rw [free]; exact Bool.false_ne_true)
    obtain ⟨final, ran, accepted⟩ := completes_read settings (u := u)
      (s := s.setSubmit u (.read sessionID ⟨"", [0], [], []⟩)) isReport
      (waiting.read (s := s) stored) unclosed
      (Reporting.lookup_setSubmit s u _)
    refine ⟨.submit u sessionID "" [0] [] [] :: List.replicate 4 (.report u), final, _, ?_,
      accepted⟩
    rw [System.run, start, Option.bind_some, ran]

end completes

def freshReporting : Reporting where
  service := fresh sampleDB
  reports := ∅
  submits := ∅
  ended := []
  accepted := []

theorem freshReporting_start : (reporting sampleSettings).start freshReporting :=
  ⟨rfl, ⟨fun _ _ => nofun, fun _ _ => nofun⟩, rfl, rfl, rfl⟩

def sampleReport : WorkReport where
  operatorID := "op"
  summary := [100]
  category := []
  ticketRef := []

/-- A report on a session, from the call to its return. -/
def reportOn (u : Nat) (sessionID : String) : List ReportingLabel :=
  .submit u sessionID "op" [100] [] [] :: List.replicate 4 (.report u)

end SovaDesk.Billing
