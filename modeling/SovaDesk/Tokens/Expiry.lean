/-
This file compares the two places where the expiry of a device token is looked at, and says when
they agree.

The expiry is stored as a text in the layout of the internet, in the zone it was given in. A
validation reads the text back and compares two moments. The cleanup compares texts: the stored one
with the moment in UTC, in the layout with a blank. As a `T` comes after a blank, such a comparison
looks at the dates only, so for the cleanup a token expires at the midnight of UTC that ends the day
which its text names, wherever that day was named.
-/

import SovaDesk.Lib.CalendarOrder
import SovaDesk.Tokens.Store

namespace SovaDesk.Tokens.Expiry

open Calendar

/-! ### Tokens and rows -/

/-- A `time.Time`: nanoseconds since 1970, and the seconds by which its zone is ahead. -/
structure Time where
  nanoseconds : Int
  ahead : Int

/-- A moment that `datetime('now')` can write: its year has four digits. -/
structure Moment where
  nanoseconds : Int
  written : FourDigitYear (nanoseconds / 1000000000)

/-- A token as it is handed to the database. -/
structure NewToken where
  tokenHash : String
  name : String
  peerID : String
  status : TokenStatus
  maxUses : Int
  useCount : Int
  expiresAt : Option Time
  note : String

/-- A row of the table of tokens, with the text of its expiry. -/
structure TokenRow where
  id : Int
  tokenHash : String
  name : String
  peerID : String
  status : TokenStatus
  maxUses : Int
  useCount : Int
  expiresAt : Option (List Char)
  note : String

/-- `Format(time.RFC3339)`. -/
def Time.format (time : Time) : List Char :=
  formatRFC3339 (time.nanoseconds / 1000000000) time.ahead

/-- `CreateDeviceToken`: the row that is inserted under an id. -/
def createDeviceToken (id : Int) (t : NewToken) : TokenRow where
  id := id
  tokenHash := t.tokenHash
  name := t.name
  peerID := t.peerID
  status := t.status
  maxUses := t.maxUses
  useCount := t.useCount
  expiresAt := t.expiresAt.map Time.format
  note := t.note

/-- The expiry that `getDeviceTokenByQuery` reads, in nanoseconds since 1970; a text in neither
layout is no expiry. -/
def TokenRow.readExpiresAt (row : TokenRow) : Option Int :=
  row.expiresAt.bind fun text =>
    (readRFC3339 text).or
      ((parseDateTime ' ' text).bind fun (time, rest) => if rest = [] then some time else none)

/-- Why `ValidateToken` returns no token. -/
inductive Rejection
  | revoked
  | expired
  | usedUp
  deriving DecidableEq

/-- `ValidateToken` for the row with the hash: the outcome, and the row afterwards. -/
def validateToken (row : TokenRow) (now : Int) : Except Rejection TokenRow × TokenRow :=
  if row.status = .revoked then (.error .revoked, row)
  else if row.readExpiresAt.any (· < now) then
    (.error .expired,
      if row.status = .revoked ∨ row.status = .expired then row
      else { row with status := .expired })
  else if row.maxUses > 0 ∧ row.useCount ≥ row.maxUses then (.error .usedUp, row)
  else (.ok row, row)

/-- What the statement of `CleanupExpiredTokens` does with one row. -/
def cleanupRow (now : Moment) (row : TokenRow) : TokenRow :=
  if row.status = .pending ∧
      row.expiresAt.any (· < formatDateTime (now.nanoseconds / 1000000000)) then
    { row with status := .expired }
  else row

/-- `CleanupExpiredTokens`: the rows afterwards. -/
def cleanupExpiredTokens (now : Moment) (rows : List TokenRow) : List TokenRow :=
  rows.map (cleanupRow now)

/-! ### Two meanings of expiry -/

/-- The cleanup marks a token exactly if a validation at the same moment rejects it as expired. -/
def Agree (row : TokenRow) (now : Moment) : Prop :=
  (cleanupRow now row).status = .expired ↔
    ∃ after, validateToken row now.nanoseconds = (.error .expired, after)

namespace Time

/-- The seconds of the time of day and the date that are written. -/
def onClock (time : Time) : Int := time.nanoseconds / 1000000000 + time.ahead

/-- The text can be read: it has a year of four digits and a zone of at most 24 hours. -/
def Readable (time : Time) : Prop :=
  FourDigitYear time.onClock ∧ (time.ahead.tdiv 60).natAbs < 1500

/-- The second that is read: the zone is written in whole minutes. -/
def readSecond (time : Time) : Int := time.onClock - 60 * time.ahead.tdiv 60

/-- The day that the text names is over in UTC. The years without four digits are those that a
comparison of texts sees: a sign comes before every digit, and of a longer year only the first four
digits count. -/
def DayOver (time : Time) (now : Moment) : Prop :=
  if (dateOf time.onClock).year < 0 then True
  else if (dateOf time.onClock).year < 10000 then
    86400000000000 * (time.onClock / 86400 + 1) ≤ now.nanoseconds
  else leadingYear (dateOf time.onClock).year < (dateOf (now.nanoseconds / 1000000000)).year

/-- The moment is not between the second of the expiry and the midnight of UTC that ends its day. -/
def SameSide (time : Time) (now : Moment) : Prop :=
  time.DayOver now ↔ time.Readable ∧ 1000000000 * time.readSecond < now.nanoseconds

end Time

/-- The order of the texts. -/
theorem format_lt_iff (time : Time) (now : Moment) :
    time.format < formatDateTime (now.nanoseconds / 1000000000) ↔ time.DayOver now := by
  show dateTimeText 'T' time.onClock ++ zoneText time.ahead < dateTimeText ' ' _ ↔ _
  unfold Time.DayOver
  split
  · next negative =>
    exact iff_of_true (lt_of_negative_year negative now.written _ _ _) trivial
  · next nonneg =>
    split
    · next small =>
      rw [dateTimeText_lt_iff ⟨by omega, small⟩ now.written]
      omega
    · next long => exact lt_of_long_year_iff (by omega) now.written _ _ _

variable {row : TokenRow} {time : Time}

theorem readExpiresAt_format (stored : row.expiresAt = some time.format) (now : Int) :
    row.readExpiresAt.any (· < now) = true ↔
      time.Readable ∧ 1000000000 * time.readSecond < now := by
  have blank : parseDateTime ' ' time.format = none := parseDateTime_formatRFC3339 _ _
  have read : row.readExpiresAt = readRFC3339 time.format := by
    unfold TokenRow.readExpiresAt
    rw [stored, Option.bind_some, blank, Option.bind_none, Option.or_none]
  rw [read, Time.format, readRFC3339_formatRFC3339]
  show _ ↔ (FourDigitYear (time.nanoseconds / 1000000000 + time.ahead) ∧ _) ∧ _
  split
  · next readable =>
    rw [Option.any_some, decide_eq_true_eq]
    exact (and_iff_right readable).symm
  · next unreadable =>
    rw [Option.any_none]
    exact iff_of_false Bool.false_ne_true fun both => unreadable both.1

theorem marked_iff (pending : row.status = .pending)
    (stored : row.expiresAt = some time.format) (now : Moment) :
    (cleanupRow now row).status = .expired ↔ time.DayOver now := by
  rw [← format_lt_iff]
  unfold cleanupRow
  split
  · next marked => simpa [stored] using marked.2
  · next kept => simpa [pending, stored] using kept

theorem rejected_iff (pending : row.status = .pending)
    (stored : row.expiresAt = some time.format) (now : Int) :
    (∃ after, validateToken row now = (.error .expired, after)) ↔
      time.Readable ∧ 1000000000 * time.readSecond < now := by
  rw [← readExpiresAt_format stored]
  unfold validateToken
  rw [if_neg (by rw [pending]; decide)]
  by_cases expired : row.readExpiresAt.any (· < now) = true
  · simp [expired]
  · rw [if_neg expired]
    split <;> simp [expired]

/-- For every pending token with an expiry in any zone and every moment, the cleanup and a
validation agree exactly if the moment is before both or after both of the expiry, to the second,
and the midnight of UTC that ends the day which the stored text names. -/
theorem agree_iff (id : Int) (t : NewToken) (expiry : Time) (now : Moment) :
    Agree (createDeviceToken id { t with
      status := .pending
      expiresAt := some expiry }) now ↔ expiry.SameSide now := by
  unfold Agree Time.SameSide
  rw [marked_iff rfl rfl, rejected_iff rfl rfl]

/-- A token that expired at noon of 1 January 2026, UTC, and the moment an hour later. -/
def noonToken : NewToken where
  tokenHash := "hash"
  name := "laptop"
  peerID := ""
  status := .pending
  maxUses := 1
  useCount := 0
  expiresAt := some ⟨1767268800000000000, 0⟩
  note := ""

theorem written_oneOClock : FourDigitYear (1767272400000000000 / 1000000000) := by decide +kernel

def oneOClock : Moment := ⟨1767272400000000000, written_oneOClock⟩

theorem readable_noon : Time.Readable ⟨1767268800000000000, 0⟩ :=
  ⟨(by decide +kernel : FourDigitYear (1767268800000000000 / 1000000000 + 0)), by decide⟩

theorem cleanup_passes_over : ¬ Agree (createDeviceToken 1 noonToken) oneOClock := by
  intro agree
  have rejected : ∃ after, validateToken (createDeviceToken 1 noonToken) oneOClock.nanoseconds =
      (.error .expired, after) := (rejected_iff rfl rfl _).mpr ⟨readable_noon, by decide⟩
  have kept : (cleanupRow oneOClock (createDeviceToken 1 noonToken)).status = .pending := by
    decide +kernel
  exact absurd (kept.symm.trans (agree.mpr rejected)) (by decide)

end SovaDesk.Tokens.Expiry
