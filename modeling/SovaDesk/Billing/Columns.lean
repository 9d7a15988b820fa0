/-
This file settles which billing sessions survive the SQLite store.

A session is written into a row of 24 columns and read back from it by lists that are
spelled out by hand, in one order of the columns. Times are written to the second as
text; a session that has not ended has NULL for its end. The scan reads the end into a
plain string, which the driver refuses for NULL, so that every session in progress is
unreadable and `finalizeSession` returns before it has written anything. What is read
back agrees with what was written exactly when the session has ended and its two times
have years of four digits.
-/

import SovaDesk.Billing.Service
import SovaDesk.Lib.Calendar

namespace SovaDesk.Billing

/-! ### Values and rows -/

/-- A value of a column. -/
inductive Value
  | null
  | text (value : String)
  | integer (value : Int)
  | real (value : Rat)
  deriving DecidableEq

namespace Value

/-- What the driver scans into a string, an integer and a float; NULL is an error for each of them,
and every column holds values of its own type. -/
def asText : Value → Option String
  | text value => some value
  | _ => none

def asInteger : Value → Option Int
  | integer value => some value
  | _ => none

def asReal : Value → Option Rat
  | real value => some value
  | _ => none

end Value

/-- The columns of the table of billing sessions. -/
inductive SessionColumn
  | id | orgID | contractID | operatorID | operatorName | deviceID | deviceName
  | relayUUID | transport | status | billingPhase | startedAt | endedAt | rawSeconds | billedMinutes
  | includedMinutesUsed | overageMinutes | amountIncluded | amountOverage | currency
  | clockOffsetMSAtStart | clockSyncedAtStart | createdAt | updatedAt
  deriving DecidableEq

/-- `billingSessionCols`, in the order of the statements. -/
def billingSessionCols : List SessionColumn :=
  [.id, .orgID, .contractID, .operatorID, .operatorName, .deviceID, .deviceName,
    .relayUUID, .transport, .status, .billingPhase, .startedAt, .endedAt, .rawSeconds,
    .billedMinutes, .includedMinutesUsed, .overageMinutes, .amountIncluded, .amountOverage,
    .currency, .clockOffsetMSAtStart, .clockSyncedAtStart, .createdAt, .updatedAt]

abbrev SessionRow := SessionColumn → Value

/-- The row that an insertion of values for a list of columns makes. -/
def rowOf (columns : List SessionColumn) (values : List Value) : SessionRow :=
  fun column => ((columns.zip values).lookup column).getD .null

/-- A billing session with all its fields; times are in nanoseconds since 1970. -/
structure SessionRecord extends BillingSession where
  operatorName : String
  deviceName : String
  createdAt : Int
  updatedAt : Int
  deriving DecidableEq

/-! ### Times -/

/-- `Format("2006-01-02 15:04:05")`. -/
def formatTime (time : Int) : String :=
  String.ofList (Calendar.formatDateTime (time / 1000000000))

/-- `formatSQLiteTimePtr`. -/
def formatSQLiteTimePtr : Option Int → Value
  | none => .null
  | some time => .text (formatTime time)

/-- The zero value of a time, the first moment of the year 1. -/
def zeroTime : Int := -(1000000000 * (86400 * Calendar.unixDay))

/-- `parseSQLiteTime`: text in neither layout is the zero time. -/
def parseSQLiteTime (text : String) : Int :=
  if text = "" then zeroTime else (Calendar.parseTime text.toList).getD zeroTime

/-! ### The store -/

/-- The values of an insertion, in the order of the columns. -/
def insertedValues (now : Int) (sess : SessionRecord) : List Value :=
  [.text sess.id, .text sess.orgID, .text sess.contractID, .text sess.operatorID,
    .text sess.operatorName, .text sess.deviceID, .text sess.deviceName, .text sess.relayUUID,
    .text sess.transport, .text sess.status, .text sess.billingPhase,
    .text (formatTime sess.startedAt), formatSQLiteTimePtr sess.endedAt,
    .integer sess.rawSeconds, .integer sess.billedMinutes, .integer sess.includedMinutesUsed,
    .integer sess.overageMinutes, .real sess.amountIncluded, .real sess.amountOverage,
    .text sess.currency, .integer sess.clockOffsetMSAtStart,
    .integer (if sess.clockSyncedAtStart then 1 else 0), .text (formatTime now),
    .text (formatTime now)]

/-- `CreateBillingSession`: an insertion fails on an ID that exists. -/
def createSessionRow (table : Table String SessionRow) (now : Int) (sess : SessionRecord) :
    Option (Table String SessionRow) :=
  if (table.lookup sess.id).isSome then none
  else some (table.insert sess.id (rowOf billingSessionCols (insertedValues now sess)))

/-- `scanBillingSession`: the values of the columns are scanned in order, and one that cannot be is
an error. -/
def scanBillingSession : List Value → Option SessionRecord
  | [id, orgID, contractID, operatorID, operatorName, deviceID, deviceName, relayUUID, transport,
      status, billingPhase, startedAt, endedAt, rawSeconds, billedMinutes, includedMinutesUsed,
      overageMinutes, amountIncluded, amountOverage, currency, clockOffsetMSAtStart, clockSynced,
      createdAt, updatedAt] => do
    let startedAt ← startedAt.asText
    let endedAt ← endedAt.asText
    let clockSynced ← clockSynced.asInteger
    let createdAt ← createdAt.asText
    let updatedAt ← updatedAt.asText
    some
      { id := ← id.asText
        orgID := ← orgID.asText
        contractID := ← contractID.asText
        operatorID := ← operatorID.asText
        operatorName := ← operatorName.asText
        deviceID := ← deviceID.asText
        deviceName := ← deviceName.asText
        relayUUID := ← relayUUID.asText
        transport := ← transport.asText
        status := ← status.asText
        billingPhase := ← billingPhase.asText
        startedAt := parseSQLiteTime startedAt
        endedAt := if endedAt ≠ "" then some (parseSQLiteTime endedAt) else none
        rawSeconds := ← rawSeconds.asInteger
        billedMinutes := ← billedMinutes.asInteger
        includedMinutesUsed := ← includedMinutesUsed.asInteger
        overageMinutes := ← overageMinutes.asInteger
        amountIncluded := ← amountIncluded.asReal
        amountOverage := ← amountOverage.asReal
        currency := ← currency.asText
        clockOffsetMSAtStart := ← clockOffsetMSAtStart.asInteger
        clockSyncedAtStart := clockSynced != 0
        createdAt := parseSQLiteTime createdAt
        updatedAt := parseSQLiteTime updatedAt }
  | _ => none

/-- `GetBillingSession`. -/
def getSessionRow (table : Table String SessionRow) (id : String) : Option SessionRecord :=
  (table.lookup id).bind fun row => scanBillingSession (billingSessionCols.map row)

/-- The assignments of an update. -/
def updateAssignments (now : Int) (sess : SessionRecord) : List (SessionColumn × Value) :=
  [(.status, .text sess.status), (.billingPhase, .text sess.billingPhase),
    (.endedAt, formatSQLiteTimePtr sess.endedAt), (.rawSeconds, .integer sess.rawSeconds),
    (.billedMinutes, .integer sess.billedMinutes),
    (.includedMinutesUsed, .integer sess.includedMinutesUsed),
    (.overageMinutes, .integer sess.overageMinutes), (.amountIncluded, .real sess.amountIncluded),
    (.amountOverage, .real sess.amountOverage), (.updatedAt, .text (formatTime now))]

/-- `UpdateBillingSession`: an ID that does not exist changes nothing. -/
def updateSessionRow (table : Table String SessionRow) (now : Int) (sess : SessionRecord) :
    Table String SessionRow :=
  table.update sess.id fun row column =>
    ((updateAssignments now sess).lookup column).getD (row column)

/-- The tables that the end of a session writes. -/
structure SessionStore where
  sessions : Table String SessionRow
  ledger : List LedgerEntry
  contracts : Table String BillingContract

/-- `finalizeSession`, on this store; `none` where it returns because the session cannot be read. -/
def finalizeSessionRow (settings : Settings) (s : SessionStore) (session : ActiveSession)
    (now : Int) : Option SessionStore :=
  (getSessionRow s.sessions session.id).map fun row =>
    let final := finalRow settings session now row.toBillingSession
    { sessions := updateSessionRow s.sessions now { row with toBillingSession := final }
      ledger := s.ledger ++
        [{ sessionID := session.id, eventType := ledgerSessionEnd, details := "" }]
      contracts := s.contracts.update session.contractID fun contract =>
        contract.updated now { contract with
          remainingMinutes := max 0 (contract.remainingMinutes - final.includedMinutesUsed) } }

/-! ### The property -/

/-- A time to the second. -/
def toSecond (time : Int) : Int := 1000000000 * (time / 1000000000)

/-- The columns an update writes, taken over from another session. -/
def SessionRecord.updated (row sess : SessionRecord) : SessionRecord :=
  { row with toBillingSession := row.toBillingSession.updated sess.toBillingSession }

/-- Two sessions agree up to the precision of the stored times; when a row was created and updated
is the store's own. -/
def Agrees (found sess : SessionRecord) : Prop :=
  found = { sess with
    startedAt := toSecond sess.startedAt
    endedAt := sess.endedAt.map toSecond
    createdAt := found.createdAt
    updatedAt := found.updatedAt }

def ReadsBack (table : Table String SessionRow) (sess : SessionRecord) : Prop :=
  ∃ found, getSessionRow table sess.id = some found ∧ Agrees found sess

/-- The row of a session that was created and last updated at given times. -/
def storedRow (created updated : Int) (sess : SessionRecord) : SessionRow :=
  rowOf billingSessionCols
    ((insertedValues created sess).dropLast ++ [.text (formatTime updated)])

/-- The session is in the table. -/
def IsStored (table : Table String SessionRow) (sess : SessionRecord) : Prop :=
  ∃ created updated, table.lookup sess.id = some (storedRow created updated sess)

/-- A stored session is the given one but for the columns an update writes. -/
def SameSession (stored sess : SessionRecord) : Prop :=
  stored.updated sess = { sess with createdAt := stored.createdAt, updatedAt := stored.updatedAt }

/-- A session is read back after it has been created and after it has been updated, and
`finalizeSession` reaches its updates once it is stored. -/
structure Survives (sess : SessionRecord) : Prop where
  created : ∀ table now after, createSessionRow table now sess = some after → ReadsBack after sess
  updated : ∀ table now stored, stored.id = sess.id → IsStored table stored →
    SameSession stored sess → ReadsBack (updateSessionRow table now sess) sess
  finalized : ∀ settings (s : SessionStore) (session : ActiveSession) now, session.id = sess.id →
    IsStored s.sessions sess → (finalizeSessionRow settings s session now).isSome

/-- The condition: the session has ended, and its times have years of four digits. -/
def Storable (sess : SessionRecord) : Prop :=
  Calendar.FourDigitYear (sess.startedAt / 1000000000) ∧
    ∃ endedAt, sess.endedAt = some endedAt ∧ Calendar.FourDigitYear (endedAt / 1000000000)

/-! ### Times in columns -/

theorem formatTime_ne_empty (time : Int) : formatTime time ≠ "" := by
  intro empty
  have characters : Calendar.formatDateTime (time / 1000000000) = [] := by
    rw [← String.toList_ofList (l := Calendar.formatDateTime (time / 1000000000))]
    exact congrArg String.toList empty
  exact List.append_ne_nil_of_right_ne_nil _ (List.cons_ne_nil _ _) characters

/-- What is read of a written time. -/
theorem parseSQLiteTime_formatTime (time : Int) :
    parseSQLiteTime (formatTime time) =
      if Calendar.FourDigitYear (time / 1000000000) then toSecond time else zeroTime := by
  unfold parseSQLiteTime
  rw [if_neg (formatTime_ne_empty time)]
  unfold formatTime
  rw [String.toList_ofList, Calendar.parseTime_formatDateTime]
  split <;> rfl

/-- A time is read back to the second exactly when its year has four digits. -/
theorem parseSQLiteTime_eq_iff (time : Int) :
    parseSQLiteTime (formatTime time) = toSecond time ↔
      Calendar.FourDigitYear (time / 1000000000) := by
  rw [parseSQLiteTime_formatTime]
  split
  · next fits => exact iff_of_true rfl fits
  · next unfit =>
    refine iff_of_false (fun same => unfit ?_) unfit
    have seconds : time / 1000000000 = -(86400 * Calendar.unixDay) := by
      unfold zeroTime toSecond at same
      omega
    rw [seconds]
    decide

/-! ### Rows -/

section rows

variable {table : Table String SessionRow} {sess stored : SessionRecord} {created updated : Int}

theorem rowOf_insertedValues (now : Int) (sess : SessionRecord) :
    rowOf billingSessionCols (insertedValues now sess) = storedRow now now sess := rfl

theorem columns_storedRow (created updated : Int) (sess : SessionRecord) :
    billingSessionCols.map (storedRow created updated sess) =
      (insertedValues created sess).dropLast ++ [.text (formatTime updated)] := rfl

/-- An update leaves the row of the session with the new values. -/
theorem updateRow_storedRow (created updated now : Int) (stored sess : SessionRecord) :
    (fun column => ((updateAssignments now sess).lookup column).getD
      (storedRow created updated stored column)) =
      storedRow created now (stored.updated sess) := by
  funext column
  cases column <;> rfl

/-- The session that is read from a row. -/
def readBack (created updated endedAt : Int) (sess : SessionRecord) : SessionRecord :=
  { sess with
    startedAt := parseSQLiteTime (formatTime sess.startedAt)
    endedAt := some (parseSQLiteTime (formatTime endedAt))
    createdAt := parseSQLiteTime (formatTime created)
    updatedAt := parseSQLiteTime (formatTime updated) }

/-- The scan of a row: NULL for the end of the session is an error. -/
theorem scan_storedRow (created updated : Int) (sess : SessionRecord) :
    scanBillingSession (billingSessionCols.map (storedRow created updated sess)) =
      sess.endedAt.map fun endedAt => readBack created updated endedAt sess := by
  rw [columns_storedRow]
  cases ended : sess.endedAt with
  | none =>
    unfold insertedValues
    rw [ended]
    rfl
  | some endedAt =>
    have synced : ((if sess.clockSyncedAtStart then (1 : Int) else 0) != 0) =
        sess.clockSyncedAtStart := by
      cases sess.clockSyncedAtStart <;> rfl
    have nonempty : formatTime endedAt ≠ "" := formatTime_ne_empty endedAt
    unfold insertedValues
    rw [ended]
    simp [scanBillingSession, Value.asText, Value.asInteger, Value.asReal, formatSQLiteTimePtr,
      readBack, synced, nonempty]

theorem getSessionRow_of_stored {id : String}
    (found : table.lookup id = some (storedRow created updated sess)) :
    getSessionRow table id =
      sess.endedAt.map fun endedAt => readBack created updated endedAt sess := by
  unfold getSessionRow
  rw [found, Option.bind_some, scan_storedRow]

/-- What is read of a session agrees with it exactly when its times are read back. -/
theorem agrees_readBack_iff {endedAt : Int} (ended : sess.endedAt = some endedAt) :
    Agrees (readBack created updated endedAt sess) sess ↔
      Calendar.FourDigitYear (sess.startedAt / 1000000000) ∧
        Calendar.FourDigitYear (endedAt / 1000000000) := by
  rw [← parseSQLiteTime_eq_iff, ← parseSQLiteTime_eq_iff]
  constructor
  · intro agrees
    have started := congrArg (·.startedAt) agrees
    have end' := congrArg (·.endedAt) agrees
    dsimp only [readBack] at started end'
    rw [ended, Option.map_some] at end'
    exact ⟨started, Option.some.inj end'⟩
  · rintro ⟨started, end'⟩
    unfold Agrees readBack
    dsimp only
    rw [started, end', ended, Option.map_some]

/-- A stored session is read back exactly when it meets the condition. -/
theorem readsBack_iff_of_stored
    (found : table.lookup sess.id = some (storedRow created updated sess)) :
    ReadsBack table sess ↔ Storable sess := by
  unfold ReadsBack Storable
  rw [getSessionRow_of_stored found]
  cases ended : sess.endedAt with
  | none =>
    refine iff_of_false ?_ ?_
    · rintro ⟨_, isFound, _⟩
      exact (nomatch isFound)
    · rintro ⟨_, _, hasEnded, _⟩
      exact (nomatch hasEnded)
  | some endedAt =>
    constructor
    · rintro ⟨_, isFound, agrees⟩
      obtain rfl := Option.some.inj isFound
      obtain ⟨started, end'⟩ := (agrees_readBack_iff ended).mp agrees
      exact ⟨started, endedAt, rfl, end'⟩
    · rintro ⟨started, _, hasEnded, end'⟩
      obtain rfl := Option.some.inj hasEnded
      exact ⟨_, rfl, (agrees_readBack_iff ended).mpr ⟨started, end'⟩⟩

end rows

/-! ### The statements -/

section statements

variable {table after : Table String SessionRow} {sess stored : SessionRecord} {now : Int}

theorem createSessionRow_stored (create : createSessionRow table now sess = some after) :
    after.lookup sess.id = some (storedRow now now sess) := by
  obtain ⟨_, rfl⟩ := Transition.of_guard_not create
  rw [← rowOf_insertedValues]
  exact AList.lookup_insert _

/-- The stamps of a session are not in the columns that an insertion and an update take from it. -/
theorem storedRow_congr (created updated first second : Int) (sess : SessionRecord) :
    storedRow created updated { sess with createdAt := first, updatedAt := second } =
      storedRow created updated sess := rfl

theorem updateSessionRow_stored (sameID : stored.id = sess.id) (isStored : IsStored table stored)
    (same : SameSession stored sess) (now : Int) :
    ∃ created, (updateSessionRow table now sess).lookup sess.id =
      some (storedRow created now sess) := by
  obtain ⟨created, updated, found⟩ := isStored
  refine ⟨created, ?_⟩
  unfold updateSessionRow
  rw [Table.lookup_update, if_pos rfl, ← sameID, found, Option.map_some, updateRow_storedRow, same,
    storedRow_congr]

theorem finalizeSessionRow_isSome {settings : Settings} {s : SessionStore}
    {session : ActiveSession} (sameID : session.id = sess.id)
    (isStored : IsStored s.sessions sess) :
    (finalizeSessionRow settings s session now).isSome = sess.endedAt.isSome := by
  obtain ⟨created, updated, found⟩ := isStored
  unfold finalizeSessionRow
  rw [sameID, getSessionRow_of_stored found, Option.isSome_map, Option.isSome_map]

end statements

/-- A billing session survives the store exactly when it has ended and its times have years of four
digits. -/
theorem survives_iff_storable (sess : SessionRecord) : Survives sess ↔ Storable sess := by
  constructor
  · intro survives
    have create : createSessionRow ∅ 0 sess =
        some (AList.insert sess.id (rowOf billingSessionCols (insertedValues 0 sess)) ∅) := rfl
    have stored := createSessionRow_stored create
    exact (readsBack_iff_of_stored stored).mp (survives.created _ _ _ create)
  · intro storable
    refine ⟨?_, ?_, ?_⟩
    · intro table now after create
      exact (readsBack_iff_of_stored (createSessionRow_stored create)).mpr storable
    · intro table now stored sameID isStored same
      obtain ⟨created, found⟩ := updateSessionRow_stored sameID isStored same now
      exact (readsBack_iff_of_stored found).mpr storable
    · intro settings s session now sameID isStored
      obtain ⟨_, endedAt, ended, _⟩ := storable
      rw [finalizeSessionRow_isSome sameID isStored, ended]
      rfl

/-! ### A session that starts -/

/-- The session that `ActivateRelay` creates for a relay. -/
def startedRecord : SessionRecord where
  toBillingSession := startedRow "relay-uuid-1"
    { orgID := "org-1", deviceID := "device-1", operatorID := "operator-1",
      contractID := "contract-1", currency := "PLN", createdAt := 0 }
    { reading := { now := 1700000000000000000, synced := true, offsetMS := 0 },
      sessionID := "session-1" }
  operatorName := ""
  deviceName := ""
  createdAt := 0
  updatedAt := 0

/-- A session in progress does not survive: it can be created but not read. -/
theorem startedRecord_not_survives : ¬ ∀ sess, Survives sess := by
  intro always
  have create : createSessionRow ∅ 0 startedRecord = some (AList.insert startedRecord.id
      (rowOf billingSessionCols (insertedValues 0 startedRecord)) ∅) := rfl
  obtain ⟨found, isFound, _⟩ := (always startedRecord).created _ _ _ create
  rw [getSessionRow_of_stored (createSessionRow_stored create)] at isFound
  exact (nomatch isFound)

end SovaDesk.Billing
