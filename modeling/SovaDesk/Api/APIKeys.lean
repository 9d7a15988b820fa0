/-
This file settles how long an API key with an expiry is accepted.

The expiry is the time of creation plus a number of days, and it travels as text: it is
printed by the clock of the server's zone and read back as a time in UTC, so the request
side accepts a key too long or too short by the offset of the zone. PostgreSQL keeps a
moment and not the text, and the moment is printed once more when the row is read. The
number of days becomes nanoseconds in 64 bits before anything is added. The gateway of
the devices reads the same row and does not look at the expiry at all.
-/

import SovaDesk.Api.Middleware
import SovaDesk.Lib.Calendar

namespace SovaDesk.Api

open Calendar SovaDesk.Auth

/-! ### The expiry as text -/

/-- Nanoseconds in a second. -/
def second : Int := 1000000000

/-- What a product comes to in an `int64`. -/
def wrap64 (value : Int) : Int := value.bmod (2 ^ 64)

/-- `time.Duration(days) * 24 * time.Hour`. -/
def keyDuration (days : Int) : Int := wrap64 (wrap64 (days * 24) * (3600 * second))

/-- The seconds a clock shows that is ahead of UTC by a zone's offset. -/
def clockSeconds (zone : Int → Int) (seconds : Int) : Int := seconds + zone seconds

/-- `Format("2006-01-02 15:04:05")` of a moment, in seconds, by the clock of a zone. -/
def formatIn (zone : Int → Int) (seconds : Int) : String :=
  String.ofList (formatDateTime (clockSeconds zone seconds))

/-- `time.Parse("2006-01-02 15:04:05", text)`, which takes the text for a time in UTC. -/
def parseUTC (text : String) : Option Int :=
  (parseDateTime ' ' text.toList).bind fun (time, rest) => if rest = [] then some time else none

/-! ### The keys -/

/-- The database that keeps the keys. -/
inductive Backend
  | sqlite
  | postgres
  deriving DecidableEq

/-- The database, and the offsets in seconds of the server's zone and of the zone in which the
PostgreSQL driver returns times, at each second in UTC. -/
structure KeySettings where
  backend : Backend
  zone : Int → Int
  driverZone : Int → Int

/-- The column `expires_at`: a text, or a moment in nanoseconds or null. -/
inductive ExpiryColumn
  | text (value : String)
  | timestamptz (value : Option Int)
  deriving DecidableEq

structure APIKeyRow where
  name : String
  role : String
  expiresAt : ExpiryColumn
  deriving DecidableEq

/-- A key as it is written and read. -/
structure APIKey where
  name : String
  role : String
  expiresAt : String
  deriving DecidableEq

/-- `CreateAPIKey`; PostgreSQL parses the expiry and stores null if it cannot. -/
def APIKey.toRow (backend : Backend) (key : APIKey) : APIKeyRow where
  name := key.name
  role := key.role
  expiresAt :=
    match backend with
    | .sqlite => .text key.expiresAt
    | .postgres => .timestamptz (if key.expiresAt = "" then none else parseUTC key.expiresAt)

/-- The scan of a row; a moment is printed in the driver's zone. -/
def APIKeyRow.scan (driverZone : Int → Int) (row : APIKeyRow) : APIKey where
  name := row.name
  role := row.role
  expiresAt :=
    match row.expiresAt with
    | .text value => value
    | .timestamptz none => ""
    | .timestamptz (some moment) => formatIn driverZone (moment / second)

/-- The table of keys, by the hash of the key. -/
abbrev APIKeys := Table String APIKeyRow

def getAPIKeyByHash (settings : KeySettings) (keys : APIKeys) (keyHash : String) : Option APIKey :=
  (keys.lookup keyHash).map (·.scan settings.driverZone)

/-- A key as it is generated, 32 random bytes in hexadecimal. -/
structure PlainKey where
  text : String
  length_eq : text.length = 64

theorem PlainKey.text_ne_empty (key : PlainKey) : key.text ≠ "" := by
  intro empty
  have length := key.length_eq
  rw [empty] at length
  exact absurd length (by decide)

structure CreateKeyBody where
  name : String
  role : String
  expiresInDays : Int

/-- `handleCreateAPIKey` after the decoding of its body; the column of the hash is unique. -/
def handleCreateAPIKey (settings : KeySettings) (hash : String → String) (keys : APIKeys)
    (now : Int) (plainKey : PlainKey) (body : CreateKeyBody) : Except (Nat × String) APIKeys :=
  if body.name = "" then .error (400, "Name required")
  else
    let role := if body.role = "" then roleViewer else body.role
    if validRole role = false then .error (400, "Invalid role")
    else
      let expiresAt :=
        if 0 < body.expiresInDays then
          formatIn settings.zone ((now + keyDuration body.expiresInDays) / second)
        else ""
      let key : APIKey := { name := body.name, role, expiresAt }
      if (keys.lookup (hash plainKey.text)).isSome then .error (500, "internal error")
      else .ok (keys.insert (hash plainKey.text) (key.toRow settings.backend))

/-! ### The entry points -/

/-- Whether an expiry has passed: an empty one never does, nor one that cannot be read. -/
def expiryPassed (expiresAt : String) (now : Int) : Bool :=
  expiresAt != "" && (parseUTC expiresAt).any (· < now)

/-- The `X-API-Key` branch of `authenticateRequest`. -/
def apiKeyUser (settings : KeySettings) (hash : String → String) (keys : APIKeys) (now : Int)
    (apiKey : String) : Option (String × String) :=
  match getAPIKeyByHash settings keys (hash apiKey) with
  | none => none
  | some k => if expiryPassed k.expiresAt now then none else some ("apikey:" ++ k.name, k.role)

/-- A server whose API keys are those of the table. -/
def Server.withKeys (server : Server) (settings : KeySettings) (hash : String → String)
    (keys : APIKeys) (now : Int) : Server :=
  { server with apiKey := apiKeyUser settings hash keys now }

/-- The API accepts a request that brings the key and nothing else. -/
def requestAccepts (server : Server) (settings : KeySettings) (hash : String → String)
    (keys : APIKeys) (key : PlainKey) (now : Int) : Bool :=
  (authenticateRequest (server.withKeys settings hash keys now) (now / second)
    { authorization := "", apiKey := key.text }).isSome

/-- `authAPIKey` of the device gateway. -/
def authAPIKey (settings : KeySettings) (hash : String → String) (keys : APIKeys) (key : String) :
    Except String (String × String) :=
  if key = "" then .error "api key required"
  else
    match getAPIKeyByHash settings keys (hash key) with
    | none => .error "invalid API key"
    | some apiKey => .ok ("apikey:" ++ apiKey.name, apiKey.role)

/-- The gateway accepts a device that brings the key. -/
def gatewayAccepts (settings : KeySettings) (hash : String → String) (keys : APIKeys)
    (key : PlainKey) : Bool :=
  (authAPIKey settings hash keys key.text).isOk

/-! ### The property and the condition -/

/-- When a key expires that was created at a moment for a number of days. -/
def expiryOf (created days : Int) : Int := created + days * (86400 * second)

/-- A key is accepted before the second in which it expires and refused after it. -/
def AcceptedUntil (expiry now : Int) (accepted : Bool) : Prop :=
  (now / second < expiry / second → accepted = true) ∧
    (expiry / second < now / second → accepted = false)

namespace KeySettings

/-- The seconds that the server's clock shows at the expiry, as it is computed. -/
def shown (settings : KeySettings) (created days : Int) : Int :=
  clockSeconds settings.zone ((created + keyDuration days) / second)

/-- The seconds of the expiry as it is read back. -/
def reread (settings : KeySettings) (created days : Int) : Int :=
  match settings.backend with
  | .sqlite => settings.shown created days
  | .postgres => clockSeconds settings.driverZone (settings.shown created days)

/-- The expiry as it is read back has not passed, or its year cannot be read. -/
def StillValid (settings : KeySettings) (created days now : Int) : Prop :=
  FourDigitYear (settings.shown created days) → FourDigitYear (settings.reread created days) →
    now ≤ second * settings.reread created days

end KeySettings

/-! ### The expiry as it is read back -/

/-- The two multiplications of the source wrap like one. -/
theorem keyDuration_eq (days : Int) :
    keyDuration days = wrap64 (days * (86400 * second)) := by
  unfold keyDuration wrap64
  rw [Int.bmod_mul_bmod, Int.mul_assoc]
  rfl

/-- A printed time is read back as the seconds that the clock showed, if the year has four
digits. -/
theorem parseUTC_formatIn (zone : Int → Int) (seconds : Int) :
    parseUTC (formatIn zone seconds) =
      if FourDigitYear (clockSeconds zone seconds) then
        some (second * clockSeconds zone seconds)
      else none := by
  unfold parseUTC formatIn
  rw [String.toList_ofList]
  split
  · next fits =>
    rw [parseDateTime_formatDateTime fits]
    rfl
  · next unfit =>
    rw [parseDateTime_of_not_fourDigitYear ' ' unfit]
    rfl

theorem parseUTC_empty : parseUTC "" = none := rfl

/-- The test for an empty expiry is not needed: an empty text is no time. -/
theorem expiryPassed_eq (expiresAt : String) (now : Int) :
    expiryPassed expiresAt now = (parseUTC expiresAt).any (· < now) := by
  unfold expiryPassed
  by_cases empty : expiresAt = ""
  · rw [empty, parseUTC_empty]
    rfl
  · rw [bne_iff_ne.mpr empty, Bool.true_and]

/-- PostgreSQL keeps what the text is read as. -/
theorem toRow_postgres (key : APIKey) :
    (key.toRow .postgres).expiresAt = .timestamptz (parseUTC key.expiresAt) := by
  show ExpiryColumn.timestamptz (if _ then _ else _) = _
  split
  · next empty => rw [empty, parseUTC_empty]
  · rfl

/-- The expiry as the entry points parse it. -/
theorem parseUTC_scan (settings : KeySettings) (created days : Int) (name role : String) :
    parseUTC ((APIKey.toRow settings.backend ⟨name, role, formatIn settings.zone
      ((created + keyDuration days) / second)⟩).scan settings.driverZone).expiresAt =
      if FourDigitYear (settings.shown created days) ∧
          FourDigitYear (settings.reread created days) then
        some (second * settings.reread created days)
      else none := by
  have printed : parseUTC (formatIn settings.zone ((created + keyDuration days) / second)) =
      if FourDigitYear (settings.shown created days) then
        some (second * settings.shown created days)
      else none := parseUTC_formatIn settings.zone _
  unfold KeySettings.reread
  cases settings.backend with
  | sqlite =>
    show parseUTC (formatIn settings.zone _) = _
    rw [printed]
    simp
  | postgres =>
    unfold APIKeyRow.scan
    dsimp only
    rw [toRow_postgres, printed]
    by_cases fits : FourDigitYear (settings.shown created days)
    · have seconds : second * settings.shown created days / second =
          settings.shown created days := Int.mul_ediv_cancel_left _ (by decide)
      rw [if_pos fits]
      dsimp only
      rw [seconds, parseUTC_formatIn]
      simp [fits]
    · rw [if_neg fits, if_neg fun both => fits both.1]
      exact parseUTC_empty

/-- Whether a stored expiry has passed when it is read back. -/
theorem expiryPassed_scan_iff (settings : KeySettings) (created days now : Int)
    (name role : String) :
    expiryPassed ((APIKey.toRow settings.backend ⟨name, role, formatIn settings.zone
      ((created + keyDuration days) / second)⟩).scan settings.driverZone).expiresAt now = false ↔
      settings.StillValid created days now := by
  rw [expiryPassed_eq, parseUTC_scan]
  unfold KeySettings.StillValid
  split
  · next fits => simp [fits]
  · next unfit =>
    refine iff_of_true rfl fun shown reread => ?_
    exact absurd ⟨shown, reread⟩ unfit

/-! ### A key that was created -/

section created

variable {settings : KeySettings} {hash : String → String} {keys after : APIKeys} {created : Int}
  {plainKey : PlainKey} {body : CreateKeyBody}

/-- The row that a key with an expiry leaves. -/
theorem row_of_created (expires : 0 < body.expiresInDays)
    (done : handleCreateAPIKey settings hash keys created plainKey body = .ok after) :
    ∃ name role, after.lookup (hash plainKey.text) =
      some (APIKey.toRow settings.backend ⟨name, role, formatIn settings.zone
        ((created + keyDuration body.expiresInDays) / second)⟩) := by
  obtain ⟨role, isRole⟩ : ∃ role, (if body.role = "" then roleViewer else body.role) = role :=
    ⟨_, rfl⟩
  unfold handleCreateAPIKey at done
  dsimp only at done
  rw [isRole, if_pos expires] at done
  split at done
  · cases done
  · split at done
    · cases done
    · split at done
      · cases done
      · cases done
        exact ⟨_, role, AList.lookup_insert keys⟩

theorem gatewayAccepts_of_row {row : APIKeyRow}
    (found : after.lookup (hash plainKey.text) = some row) :
    gatewayAccepts settings hash after plainKey = true := by
  unfold gatewayAccepts authAPIKey getAPIKeyByHash
  rw [if_neg plainKey.text_ne_empty, found]
  rfl

/-- The API accepts a key until its expiry passes as it is read back. -/
theorem requestAccepts_of_row (server : Server) (now : Int) {row : APIKeyRow}
    (found : after.lookup (hash plainKey.text) = some row) :
    requestAccepts server settings hash after plainKey now =
      !expiryPassed (row.scan settings.driverZone).expiresAt now := by
  have branch : authenticateRequest (server.withKeys settings hash after now) (now / second)
      { authorization := "", apiKey := plainKey.text } =
        apiKeyUser settings hash after now plainKey.text := by
    have noBearer : bearerText "" = none := by decide
    unfold authenticateRequest authenticateAPIKey
    dsimp only
    rw [noBearer]
    exact if_neg plainKey.text_ne_empty
  unfold requestAccepts apiKeyUser at *
  rw [branch, getAPIKeyByHash, found, Option.map_some]
  dsimp only
  cases expiryPassed (row.scan settings.driverZone).expiresAt now <;> rfl

/-- A key with an expiry is accepted by both entry points until it expires, to the second, exactly
when its second of expiry is not over and, before that second, the expiry as it is read back has
not passed. -/
theorem acceptedUntil_iff_stillValid (server : Server) (expires : 0 < body.expiresInDays)
    (done : handleCreateAPIKey settings hash keys created plainKey body = .ok after) (now : Int) :
    (AcceptedUntil (expiryOf created body.expiresInDays) now
        (requestAccepts server settings hash after plainKey now) ∧
      AcceptedUntil (expiryOf created body.expiresInDays) now
        (gatewayAccepts settings hash after plainKey)) ↔
      now / second ≤ expiryOf created body.expiresInDays / second ∧
        (now / second < expiryOf created body.expiresInDays / second →
          settings.StillValid created body.expiresInDays now) := by
  obtain ⟨name, role, found⟩ := row_of_created expires done
  rw [requestAccepts_of_row server now found, gatewayAccepts_of_row found]
  have valid := expiryPassed_scan_iff settings created body.expiresInDays now name role
  unfold AcceptedUntil
  constructor
  · rintro ⟨⟨early, late⟩, -, never⟩
    refine ⟨?_, fun before => valid.mp ?_⟩
    · by_contra past
      exact absurd (never (Int.not_le.mp past)) Bool.false_ne_true.symm
    · exact Bool.not_eq_true' _ |>.mp (early before)
  · rintro ⟨notOver, keeps⟩
    have inTime : ¬ expiryOf created body.expiresInDays / second < now / second :=
      Int.not_lt.mpr notOver
    refine ⟨⟨fun before => ?_, fun past => absurd past inTime⟩, fun _ => rfl,
      fun past => absurd past inTime⟩
    rw [valid.mpr (keeps before)]
    rfl

end created

/-! ### Keys for a day -/

/-- A server on UTC with SQLite, and one whose clock is an hour ahead. -/
def utcSettings : KeySettings := ⟨.sqlite, fun _ => 0, fun _ => 0⟩

def aheadSettings : KeySettings := ⟨.sqlite, fun _ => 3600, fun _ => 3600⟩

def plainServer : Server := ⟨none, fun _ => none, fun _ => none⟩

def zeroKey : PlainKey := ⟨String.ofList (List.replicate 64 '0'), by decide⟩

def oneDay : CreateKeyBody := ⟨"backup", "viewer", 1⟩

/-- A moment of 2026, in seconds. -/
def morning : Int := 1767258000

/-- The table with the one key. -/
def oneKey (settings : KeySettings) : APIKeys :=
  (∅ : APIKeys).insert zeroKey.text (APIKey.toRow settings.backend
    ⟨"backup", "viewer", formatIn settings.zone ((morning * second + keyDuration 1) / second)⟩)

theorem oneKey_created (settings : KeySettings) :
    handleCreateAPIKey settings id ∅ (morning * second) zeroKey oneDay =
      .ok (oneKey settings) := rfl

/-- An hour after its creation the key is accepted by both, as it should be. -/
theorem acceptedUntil_iff_stillValid_hour :
    AcceptedUntil (expiryOf (morning * second) 1) ((morning + 3600) * second)
        (requestAccepts plainServer utcSettings id (oneKey utcSettings) zeroKey
          ((morning + 3600) * second)) ∧
      AcceptedUntil (expiryOf (morning * second) 1) ((morning + 3600) * second)
        (gatewayAccepts utcSettings id (oneKey utcSettings) zeroKey) := by
  have inTime : (morning + 3600) * second / second ≤
      expiryOf (morning * second) 1 / second := by decide
  have notPassed : (morning + 3600) * second ≤
      second * utcSettings.reread (morning * second) 1 := by decide
  exact (acceptedUntil_iff_stillValid plainServer (by decide) (oneKey_created utcSettings)
    ((morning + 3600) * second)).mpr ⟨inTime, fun _ _ _ => notPassed⟩

/-- A second after its expiry the gateway still accepts the key; and on a server whose clock is an
hour ahead the API does so for that hour. -/
theorem expiredKey_accepted :
    (∀ settings, handleCreateAPIKey settings id ∅ (morning * second) zeroKey oneDay =
      .ok (oneKey settings)) ∧
    ¬ AcceptedUntil (expiryOf (morning * second) 1) ((morning + 86401) * second)
        (gatewayAccepts utcSettings id (oneKey utcSettings) zeroKey) ∧
      ¬ AcceptedUntil (expiryOf (morning * second) 1) ((morning + 86401) * second)
        (requestAccepts plainServer aheadSettings id (oneKey aheadSettings) zeroKey
          ((morning + 86401) * second)) := by
  have past : expiryOf (morning * second) 1 / second < (morning + 86401) * second / second := by
    decide
  have utcRow : (oneKey utcSettings).lookup (id zeroKey.text) = some _ := AList.lookup_insert _
  have aheadRow : (oneKey aheadSettings).lookup (id zeroKey.text) = some _ :=
    AList.lookup_insert _
  have notPassed : (morning + 86401) * second ≤
      second * aheadSettings.reread (morning * second) 1 := by decide
  refine ⟨oneKey_created, ?_, ?_⟩
  · rintro ⟨-, refuses⟩
    rw [gatewayAccepts_of_row utcRow] at refuses
    exact Bool.false_ne_true (refuses past).symm
  · rintro ⟨-, refuses⟩
    have valid := (expiryPassed_scan_iff aheadSettings (morning * second) 1
      ((morning + 86401) * second) "backup" "viewer").mpr fun _ _ => notPassed
    rw [requestAccepts_of_row plainServer _ aheadRow, valid] at refuses
    exact Bool.false_ne_true (refuses past).symm

end SovaDesk.Api
