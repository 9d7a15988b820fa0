/-
This file settles which devices the enrolment policy admits in managed and locked mode.

The policy asks for a token that is bound to the device and looks at its status alone. The
validation of a token also looks at its time and at its uses, and does not write them to the
status of a token in use, so a device may be admitted with a token that is not valid. It is
not, where a device without a row has no pending or active token, or has a valid one.
-/

import SovaDesk.Signal.Server
import SovaDesk.Tokens.Handlers

namespace SovaDesk.Signal

open Tokens (TokenTable TokenStatus validateToken)

/-! ### Tokens and their statuses -/

/-- The text of a status in the table. -/
def statusText : TokenStatus → String
  | .pending => tokenStatusPending
  | .active => tokenStatusActive
  | .revoked => "revoked"
  | .expired => "expired"

/-- What the enrolment policy sees of a token. -/
def seenOf (token : Tokens.DeviceToken) : DeviceToken where
  name := token.name
  peerID := token.peerID
  status := statusText token.status

/-- The tables of the server with the columns of its tokens. -/
structure EnrollmentTables where
  db : PeerDB
  tokens : TokenTable
  same : db.deviceTokens = tokens.rows.entries.map fun entry => seenOf entry.2

/-- `ValidateToken` accepts a token. -/
def Validates (tokens : TokenTable) (token : Tokens.DeviceToken) (now : Int) : Prop :=
  ((validateToken token.tokenHash now).eval tokens).1 = some token

/-- A token of the table is bound to a device. -/
def Bound (tables : EnrollmentTables) (id : String) (token : Tokens.DeviceToken) : Prop :=
  (∃ tokenID, tables.tokens.rows.lookup tokenID = some token) ∧ token.peerID = id

/-- In managed and locked mode a device is permitted only if it has a live row, or a token that is
bound to it is valid. -/
def AdmitsEnrolled (config : Config) (tables : EnrollmentTables) (env : Env) (now : Int)
    (id clientIP : String) : Prop :=
  config.enrollmentMode = enrollmentModeManaged ∨ config.enrollmentMode = enrollmentModeLocked →
    (checkEnrollmentPermission config tables.db env id clientIP).1 = true →
    (tables.db.getPeer id).isSome ∨
      ∃ token, Bound tables id token ∧ Validates tables.tokens token now

section validation

variable {tables : EnrollmentTables} {token : Tokens.DeviceToken} {id : String} {now : Int}

/-- What the validation of a token looks at. -/
theorem validates_iff {tokenID : Int} (stored : tables.tokens.rows.lookup tokenID = some token) :
    Validates tables.tokens token now ↔
      token.status ≠ .revoked ∧ token.isExpired now = false ∧ token.isUsedUp = false := by
  have found : tables.tokens.byHash token.tokenHash = some token :=
    TokenTable.byHash_of_lookup stored
  have evaluated : ((validateToken token.tokenHash now).eval tables.tokens).1 =
      if token.status = .revoked then none
      else if token.isExpired now then none
      else if token.isUsedUp then none
      else some token := by
    have read : Tokens.tokens.attempt false (.getDeviceTokenByHash token.tokenHash) tables.tokens =
        (some (some token), tables.tokens) :=
      Interleave.Interface.attempt_of_perform
        (congrArg (fun row => some (row, tables.tokens)) found)
    simp only [validateToken, Interleave.Program.eval, read]
    split
    · rfl
    · split
      · rfl
      · split <;> rfl
  rw [Validates, evaluated]
  split
  · next revoked =>
    exact ⟨fun valid => absurd valid.symm (Option.some_ne_none token),
      fun valid => absurd revoked valid.1⟩
  · next unrevoked =>
    split
    · next expired =>
      exact ⟨fun valid => absurd valid.symm (Option.some_ne_none token),
        fun valid => absurd (valid.2.1.symm.trans expired) Bool.false_ne_true⟩
    · next inTime =>
      split
      · next usedUp =>
        exact ⟨fun valid => absurd valid.symm (Option.some_ne_none token),
          fun valid => absurd (valid.2.2.symm.trans usedUp) Bool.false_ne_true⟩
      · next usable =>
        exact ⟨fun _ => ⟨unrevoked, Bool.eq_false_iff.mpr inTime, Bool.eq_false_iff.mpr usable⟩,
          fun _ => rfl⟩

/-- The policy finds a token exactly if a pending or active one is bound to the device. -/
theorem getDeviceTokenByPeerID_isSome_iff :
    (tables.db.getDeviceTokenByPeerID id).isSome ↔
      ∃ token, Bound tables id token ∧ (token.status = .active ∨ token.status = .pending) := by
  have text : ∀ status : TokenStatus, (statusText status == tokenStatusActive ||
      statusText status == tokenStatusPending) = true ↔ status = .active ∨ status = .pending := by
    intro status
    cases status <;> decide
  unfold PeerDB.getDeviceTokenByPeerID
  rw [List.find?_isSome, tables.same]
  constructor
  · rintro ⟨seen, member, passes⟩
    obtain ⟨⟨tokenID, token⟩, listed, rfl⟩ := List.mem_map.mp member
    obtain ⟨ofPeer, status⟩ := Bool.and_eq_true_iff.mp passes
    exact ⟨token, ⟨⟨tokenID, Table.mem_entries_iff.mp listed⟩, eq_of_beq ofPeer⟩,
      (text token.status).mp status⟩
  · rintro ⟨token, ⟨⟨tokenID, stored⟩, rfl⟩, status⟩
    exact ⟨seenOf token, List.mem_map.mpr ⟨_, Table.mem_entries_iff.mpr stored, rfl⟩,
      Bool.and_eq_true_iff.mpr ⟨beq_self_eq_true _, (text token.status).mpr status⟩⟩

/-- In managed and locked mode the policy permits the devices with a row and those it finds a token
of. -/
theorem enrollmentPermits_iff {config : Config} (db : PeerDB)
    (mode : config.enrollmentMode = enrollmentModeManaged ∨
      config.enrollmentMode = enrollmentModeLocked) :
    enrollmentPermits config db id = true ↔
      (db.getPeer id).isSome ∨ (db.getDeviceTokenByPeerID id).isSome := by
  have named : config.enrollmentMode ≠ "" := by
    rcases mode with managed | locked
    · rw [managed]; decide
    · rw [locked]; decide
  have closed : config.enrollmentMode ≠ enrollmentModeOpen := by
    rcases mode with managed | locked
    · rw [managed]; decide
    · rw [locked]; decide
  simp only [enrollmentPermits, if_neg named, if_neg closed, if_pos mode]
  split
  · next known => exact ⟨fun _ => .inl known, fun _ => rfl⟩
  · next unknown => exact ⟨.inr, fun permitted => permitted.resolve_left unknown⟩

end validation

/-- The policy admits enrolled devices only, exactly where a device without a row that has a pending
or active token has one that is neither revoked, nor past its time, nor used up. -/
theorem admitsEnrolled_iff (config : Config) (tables : EnrollmentTables) (env : Env) (now : Int)
    (id clientIP : String) :
    AdmitsEnrolled config tables env now id clientIP ↔
      (config.enrollmentMode = enrollmentModeManaged ∨
          config.enrollmentMode = enrollmentModeLocked →
        (∃ token, Bound tables id token ∧ (token.status = .active ∨ token.status = .pending)) →
        (tables.db.getPeer id).isSome ∨
          ∃ token, Bound tables id token ∧ token.status ≠ .revoked ∧
            token.isExpired now = false ∧ token.isUsedUp = false) := by
  have valid : (∃ token, Bound tables id token ∧ Validates tables.tokens token now) ↔
      ∃ token, Bound tables id token ∧ token.status ≠ .revoked ∧ token.isExpired now = false ∧
        token.isUsedUp = false := by
    refine exists_congr fun token => and_congr_right fun bound => ?_
    obtain ⟨⟨tokenID, stored⟩, _⟩ := bound
    exact validates_iff stored
  refine imp_congr_right fun mode => ?_
  rw [checkEnrollmentPermission_fst, enrollmentPermits_iff tables.db mode,
    getDeviceTokenByPeerID_isSome_iff, valid]
  exact ⟨fun admits bound => admits (.inr bound), fun admits permitted =>
    permitted.elim .inl admits⟩

/-! ### Tokens that are not valid -/

/-- A server that is started in a mode of enrolment. -/
def enrollmentConfig (mode : String) : Config where
  enrollmentMode := mode
  sessionOwner _ _ := none

def enrollmentEnv : Env where
  now := 1
  timestamp := ""
  limiterAllows := true

/-- A token in use that is bound to "device1" and may be used once, until time 0. -/
def spentToken : Tokens.DeviceToken where
  id := 1
  tokenHash := "h1"
  name := "laptop"
  peerID := "device1"
  status := .active
  maxUses := 1
  useCount := 1
  expiresAt := some 0

/-- Tables with this token only. -/
def spentTables : EnrollmentTables where
  db := { emptyDB with deviceTokens := [seenOf spentToken] }
  tokens := TokenTable.empty.insert spentToken fun _ _ found => (nomatch found)
  same := rfl

/-- In managed and in locked mode an unknown device is admitted with a token that has been used up
and is past its time. -/
theorem spentToken_admits :
    ¬ AdmitsEnrolled (enrollmentConfig enrollmentModeManaged) spentTables enrollmentEnv 1
        "device1" "" ∧
      ¬ AdmitsEnrolled (enrollmentConfig enrollmentModeLocked) spentTables enrollmentEnv 1
        "device1" "" := by
  have invalid : ¬ ((spentTables.db.getPeer "device1").isSome ∨
      ∃ token, Bound spentTables "device1" token ∧ Validates spentTables.tokens token 1) := by
    rintro (known | ⟨token, ⟨⟨tokenID, stored⟩, _⟩, validates⟩)
    · exact absurd known (by decide)
    · have spent : token = spentToken := by
        rcases Table.lookup_insert_iff.mp stored with ⟨_, same⟩ | ⟨_, empty⟩
        · exact same
        · exact absurd empty nofun
      have usable := ((validates_iff stored).mp validates).2.2
      rw [spent] at usable
      exact absurd usable (by decide)
  exact ⟨fun admits => invalid (admits (.inl rfl) (by decide)),
    fun admits => invalid (admits (.inr rfl) (by decide))⟩

end SovaDesk.Signal
