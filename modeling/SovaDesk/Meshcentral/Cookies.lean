/-
This file verifies the cookies that let a browser into a relay, and finds the cookies that outlive
the bound of the side that checks them.

A cookie is a JSON text, sealed with a nonce and spelled in base64. The seal is ideal: what opens
was sealed. A cookie may carry a lifetime of its own, in minutes, and whoever checks it names the
longest one. The check takes the longest one only where the cookie carries none, and looks at no
lifetime at all where the issue time is not positive; both sums are made in 64 bits.
-/

import Mathlib.Algebra.Group.Int.Defs
import SovaDesk.Lib.Base64
import SovaDesk.Lib.FlatJson
import SovaDesk.Lib.System

namespace SovaDesk.Meshcentral.Cookies

open Base64 Transition

abbrev Bytes := List UInt8

/-! ### Payloads -/

structure RelayCookieData where
  userID : String := ""
  rUserID : String := ""
  nodeID : String := ""
  rights : UInt32 := 0
  guestName : String := ""
  expireMin : Int64 := 0
  issuedAt : Int64 := 0
  deriving DecidableEq

/-- A text that is omitted when it is empty. -/
def textMember (name value : String) : FlatJson.Object :=
  if value = "" then [] else [(name, .text value)]

/-- A number that is omitted when it is zero. -/
def numberMember (name : String) (value : Int) : FlatJson.Object :=
  if value = 0 then [] else [(name, .number value)]

/-- `json.Marshal` of a payload. -/
def marshal (data : RelayCookieData) : List Char :=
  FlatJson.write (textMember "userid" data.userID ++ textMember "ruserid" data.rUserID ++
    textMember "nodeid" data.nodeID ++ numberMember "r" data.rights.toNat ++
    textMember "gn" data.guestName ++ numberMember "expire" data.expireMin.toInt ++
    numberMember "iat" data.issuedAt.toInt)

def toUInt32 (value : Int) : Option UInt32 :=
  if 0 ≤ value ∧ value < 2 ^ 32 then some (UInt32.ofNat value.toNat) else none

def toInt64 (value : Int) : Option Int64 :=
  if -2 ^ 63 ≤ value ∧ value < 2 ^ 63 then some (Int64.ofInt value) else none

/-- Take over one member. A text in the place of a number, a number in the place of a text and a
number that does not fit are errors; a member of another name is passed over. -/
def assign (data : RelayCookieData) (member : String × FlatJson.Value) : Option RelayCookieData :=
  match member with
  | (name, .text value) =>
    if name = "userid" then some { data with userID := value }
    else if name = "ruserid" then some { data with rUserID := value }
    else if name = "nodeid" then some { data with nodeID := value }
    else if name = "gn" then some { data with guestName := value }
    else if name ∈ ["r", "expire", "iat"] then none
    else some data
  | (name, .number value) =>
    if name = "r" then (toUInt32 value).map fun rights => { data with rights := rights }
    else if name = "expire" then
      (toInt64 value).map fun minutes => { data with expireMin := minutes }
    else if name = "iat" then (toInt64 value).map fun moment => { data with issuedAt := moment }
    else if name ∈ ["userid", "ruserid", "nodeid", "gn"] then none
    else some data

/-- `json.Unmarshal` into a payload. Only what was sealed gets here, so the reader need not know the
JSON values that are never sealed: it takes them for errors. -/
def unmarshal (raw : List Char) : Option RelayCookieData :=
  (FlatJson.read raw).bind fun object => object.foldlM assign {}

variable {data : RelayCookieData}

theorem foldlM_textMember {name value : String} (after : RelayCookieData)
    (set : assign data (name, .text value) = some after) (omitted : value = "" → data = after) :
    (textMember name value).foldlM assign data = some after := by
  unfold textMember
  by_cases empty : value = ""
  · rw [if_pos empty, omitted empty]
    rfl
  · rw [if_neg empty, List.foldlM_cons, set]
    rfl

theorem foldlM_numberMember {name : String} {value : Int} (after : RelayCookieData)
    (set : assign data (name, .number value) = some after) (omitted : value = 0 → data = after) :
    (numberMember name value).foldlM assign data = some after := by
  unfold numberMember
  by_cases zero : value = 0
  · rw [if_pos zero, omitted zero]
    rfl
  · rw [if_neg zero, List.foldlM_cons, set]
    rfl

theorem toUInt32_toNat (value : UInt32) : toUInt32 value.toNat = some value := by
  have bounded := value.toNat_lt
  rw [toUInt32, if_pos ⟨Int.natCast_nonneg _, by omega⟩, Int.toNat_natCast, UInt32.ofNat_toNat]

theorem toInt64_toInt (value : Int64) : toInt64 value.toInt = some value := by
  rw [toInt64, if_pos ⟨value.le_toInt, value.toInt_lt⟩, Int64.ofInt_toInt]

/-- A payload is read back. -/
theorem unmarshal_marshal (data : RelayCookieData) : unmarshal (marshal data) = some data := by
  obtain ⟨userID, rUserID, nodeID, rights, guestName, expireMin, issuedAt⟩ := data
  rw [unmarshal, marshal, FlatJson.read_write, Option.bind_some]
  have signed : ∀ value : Int64, value.toInt = 0 → value = 0 := fun value zero =>
    Int64.toInt_inj.mp zero
  have unsigned : (rights.toNat : Int) = 0 → rights = 0 := fun zero =>
    UInt32.toNat_inj.mp (Int.natCast_eq_zero.mp zero)
  simp only [List.foldlM_append, bind, Option.bind_assoc]
  rw [foldlM_textMember { userID := userID } rfl (fun empty => by rw [empty]), Option.bind_some,
    foldlM_textMember { userID := userID, rUserID := rUserID } rfl (fun empty => by rw [empty]),
    Option.bind_some,
    foldlM_textMember { userID := userID, rUserID := rUserID, nodeID := nodeID } rfl
      (fun empty => by rw [empty]),
    Option.bind_some,
    foldlM_numberMember { userID := userID, rUserID := rUserID, nodeID := nodeID, rights := rights }
      (by rw [assign, if_pos rfl, toUInt32_toNat]; rfl) (fun zero => by rw [unsigned zero]),
    Option.bind_some,
    foldlM_textMember
      { userID := userID, rUserID := rUserID, nodeID := nodeID, rights := rights,
        guestName := guestName }
      rfl (fun empty => by rw [empty]),
    Option.bind_some,
    foldlM_numberMember
      { userID := userID, rUserID := rUserID, nodeID := nodeID, rights := rights,
        guestName := guestName, expireMin := expireMin }
      (by rw [assign, if_neg (by decide), if_pos rfl, toInt64_toInt]; rfl)
      (fun zero => by rw [signed _ zero]),
    Option.bind_some,
    foldlM_numberMember
      { userID := userID, rUserID := rUserID, nodeID := nodeID, rights := rights,
        guestName := guestName, expireMin := expireMin, issuedAt := issuedAt }
      (by rw [assign, if_neg (by decide), if_neg (by decide), if_pos rfl, toInt64_toInt]; rfl)
      (fun zero => by rw [signed _ zero])]

/-! ### The codec -/

/-- `gcm.NonceSize()`. -/
def nonceSize : Nat := 12

/-- A call of `Encode`: its arguments, the moment, and what the cipher made of them. -/
structure Sealing where
  data : RelayCookieData
  ttlMinutes : Int64
  now : Int64
  nonce : Bytes
  ciphertext : Bytes
  deriving DecidableEq

/-- The payload with the issue time and the lifetime that `Encode` fills in. -/
def Sealing.filled (sealing : Sealing) : RelayCookieData :=
  let data := sealing.data
  let data := if data.issuedAt = 0 then { data with issuedAt := sealing.now } else data
  if data.expireMin = 0 ∧ 0 < sealing.ttlMinutes then
    { data with expireMin := sealing.ttlMinutes }
  else data

/-- The text that is sealed. -/
def Sealing.raw (sealing : Sealing) : List Char := marshal sealing.filled

def Sealing.bytes (sealing : Sealing) : Bytes := sealing.nonce ++ sealing.ciphertext

/-- The cookie that `Encode` returns. -/
def Sealing.cookie (sealing : Sealing) : List Char := encodeRaw urlSafe sealing.bytes

/-- The sealings made with the key of a codec, the newest first. -/
abbrev Codec := List Sealing

/-- Seal one more payload. Under one nonce, an ideal cipher has one text for a ciphertext. -/
def encode (codec : Codec) (sealing : Sealing) : Option Codec :=
  if sealing.nonce.length = nonceSize ∧ ∀ earlier ∈ codec,
      earlier.nonce = sealing.nonce → earlier.ciphertext = sealing.ciphertext →
        earlier.raw = sealing.raw then
    some (sealing :: codec)
  else none

def system : System Codec Sealing where
  start codec := codec = []
  step := encode

/-- `gcm.Open`: only what was sealed opens. -/
def openSealed (codec : Codec) (nonce ciphertext : Bytes) : Option (List Char) :=
  (codec.find? fun sealing => sealing.nonce = nonce ∧ sealing.ciphertext = ciphertext).map
    Sealing.raw

/-- Why `Decode` refuses a cookie. -/
inductive Refusal
  | decode
  | tooShort
  | unsealed
  | unmarshalled
  | expired
  deriving DecidableEq

/-- The last moment at which `Decode` takes a cookie. -/
def expiry (data : RelayCookieData) (maxTTLMinutes : Int64) : Int64 :=
  if data.expireMin = 0 then data.issuedAt + maxTTLMinutes * 60
  else data.issuedAt + data.expireMin * 60

def decode (codec : Codec) (cookie : List Char) (maxTTLMinutes now : Int64) :
    Except Refusal RelayCookieData :=
  match (decodeRaw urlSafe cookie).or (decodePadded standard cookie) with
  | none => .error .decode
  | some sealed =>
    if sealed.length < nonceSize then .error .tooShort
    else
      match openSealed codec (sealed.take nonceSize) (sealed.drop nonceSize) with
      | none => .error .unsealed
      | some raw =>
        match unmarshal raw with
        | none => .error .unmarshalled
        | some data =>
          if 0 < data.issuedAt ∧ 0 < maxTTLMinutes ∧ expiry data maxTTLMinutes < now then
            .error .expired
          else .ok data

/-! ### What is opened was sealed -/

/-- What holds of the sealings of a codec. -/
structure Sound (codec : Codec) : Prop where
  nonces : ∀ sealing ∈ codec, sealing.nonce.length = nonceSize
  unambiguous : ∀ one ∈ codec, ∀ other ∈ codec, one.nonce = other.nonce →
    one.ciphertext = other.ciphertext → one.raw = other.raw

variable {codec : Codec}

theorem sound_of_reachable (reached : Reachable system codec) : Sound codec := by
  refine reached.invariant Sound (fun start initial => ?_)
    fun codec sealing after sound _ taken => ?_
  · obtain rfl : start = [] := initial
    exact ⟨fun _ member => absurd member List.not_mem_nil,
      fun _ member => absurd member List.not_mem_nil⟩
  · obtain ⟨⟨size, same⟩, rfl⟩ := Transition.of_guard taken
    refine ⟨List.forall_mem_cons.mpr ⟨size, sound.nonces⟩, ?_⟩
    intro one oneMember other otherMember nonces ciphertexts
    obtain rfl | oneEarlier := List.mem_cons.mp oneMember
    · obtain rfl | otherEarlier := List.mem_cons.mp otherMember
      · rfl
      · exact (same other otherEarlier nonces.symm ciphertexts.symm).symm
    · obtain rfl | otherEarlier := List.mem_cons.mp otherMember
      · exact same one oneEarlier nonces ciphertexts
      · exact sound.unambiguous one oneEarlier other otherEarlier nonces ciphertexts

theorem exists_of_openSealed {nonce ciphertext : Bytes} {raw : List Char}
    (opened : openSealed codec nonce ciphertext = some raw) :
    ∃ sealing ∈ codec, sealing.nonce = nonce ∧ sealing.ciphertext = ciphertext ∧
      sealing.raw = raw := by
  obtain ⟨sealing, found, rfl⟩ := Option.map_eq_some_iff.mp opened
  have same := List.find?_some found
  simp only [decide_eq_true_eq] at same
  exact ⟨sealing, List.mem_of_find?_eq_some found, same.1, same.2, rfl⟩

variable {sealing : Sealing}

theorem openSealed_of_mem (sound : Sound codec) (member : sealing ∈ codec) :
    openSealed codec sealing.nonce sealing.ciphertext = some sealing.raw := by
  cases opened : openSealed codec sealing.nonce sealing.ciphertext with
  | none =>
    have missed := List.find?_eq_none.mp (Option.map_eq_none_iff.mp opened) sealing member
    exact absurd (decide_eq_true ⟨rfl, rfl⟩) missed
  | some raw =>
    obtain ⟨other, otherMember, nonces, ciphertexts, rfl⟩ := exists_of_openSealed opened
    rw [sound.unambiguous other otherMember sealing member nonces ciphertexts]

variable {maxTTLMinutes : Int64}

theorem decode_cookie (sound : Sound codec)
    (member : sealing ∈ codec) (bounded : 0 < maxTTLMinutes) (now : Int64) :
    decode codec sealing.cookie maxTTLMinutes now =
      if 0 < sealing.filled.issuedAt ∧ expiry sealing.filled maxTTLMinutes < now then
        .error .expired
      else .ok sealing.filled := by
  have size := sound.nonces sealing member
  have long : ¬ (sealing.nonce ++ sealing.ciphertext).length < nonceSize := by
    rw [List.length_append, size]
    exact Nat.not_lt.mpr (Nat.le_add_right _ _)
  unfold decode
  rw [Sealing.cookie, decodeRaw_encodeRaw, Option.some_or]
  dsimp only
  rw [Sealing.bytes, if_neg long, List.take_left' size, List.drop_left' size,
    openSealed_of_mem sound member]
  dsimp only
  rw [Sealing.raw, unmarshal_marshal]
  simp only [bounded, true_and]

/-! ### Spellings -/

/-- A text is a spelling of some bytes: the URL-safe one without padding or the standard one with
padding. Ends of lines and the bits in excess of the last letter do not matter. -/
def IsSpelling (cookie : List Char) (bytes : Bytes) : Prop :=
  Spells urlSafe (withoutLineEnds cookie) bytes ∨
    ∃ body padding, withoutLineEnds cookie = body ++ padding ∧ (∀ c ∈ padding, c = '=') ∧
      Spells standard body bytes

/-- Whatever is accepted spells a cookie that the codec made, and its payload is returned. -/
def Authentic (codec : Codec) : Prop :=
  ∀ cookie maxTTLMinutes now data, decode codec cookie maxTTLMinutes now = .ok data →
    ∃ sealing ∈ codec, IsSpelling cookie sealing.bytes ∧ data = sealing.filled

theorem parts_of_decode {cookie : List Char} {now : Int64}
    (accepted : decode codec cookie maxTTLMinutes now = .ok data) :
    ∃ sealed raw, (decodeRaw urlSafe cookie).or (decodePadded standard cookie) = some sealed ∧
      openSealed codec (sealed.take nonceSize) (sealed.drop nonceSize) = some raw ∧
      unmarshal raw = some data := by
  unfold decode at accepted
  split at accepted
  · exact absurd accepted (by simp only [reduceCtorEq, not_false_eq_true])
  · next sealed spelled =>
    split at accepted
    · exact absurd accepted (by simp only [reduceCtorEq, not_false_eq_true])
    · split at accepted
      · exact absurd accepted (by simp only [reduceCtorEq, not_false_eq_true])
      · next raw opened =>
        split at accepted
        · exact absurd accepted (by simp only [reduceCtorEq, not_false_eq_true])
        · next payload read =>
          split at accepted
          · exact absurd accepted (by simp only [reduceCtorEq, not_false_eq_true])
          · obtain rfl := Except.ok.inj accepted
            exact ⟨sealed, raw, spelled, opened, read⟩

theorem authentic (codec : Codec) : Authentic codec := by
  intro cookie maxTTLMinutes now data accepted
  obtain ⟨sealed, raw, spelled, opened, read⟩ := parts_of_decode accepted
  obtain ⟨sealing, member, nonces, ciphertexts, rfl⟩ := exists_of_openSealed opened
  rw [Sealing.raw, unmarshal_marshal] at read
  refine ⟨sealing, member, ?_, (Option.some.inj read).symm⟩
  rw [Sealing.bytes, nonces, ciphertexts, List.take_append_drop]
  obtain raw | ⟨_, padded⟩ := Option.or_eq_some_iff.mp spelled
  · exact .inl (spells_of_decodeRaw rfl raw)
  · exact .inr (spells_of_decodePadded rfl padded)

/-! ### Lifetimes -/

/-- The minutes for which a cookie is to be taken: its own lifetime, but no more than the longest
one. -/
def lifetime (sealing : Sealing) (maxTTLMinutes : Int64) : Int :=
  let own := sealing.filled.expireMin.toInt
  if own = 0 then maxTTLMinutes.toInt else min own maxTTLMinutes.toInt

/-- The last moment at which a cookie is to be taken. -/
def lastMoment (sealing : Sealing) (maxTTLMinutes : Int64) : Int :=
  sealing.filled.issuedAt.toInt + 60 * lifetime sealing maxTTLMinutes

/-- A cookie gives its payload up to the end of its lifetime and an error afterwards. -/
def Expires (codec : Codec) (sealing : Sealing) (maxTTLMinutes : Int64) : Prop :=
  ∀ now : Int64,
    (now.toInt ≤ lastMoment sealing maxTTLMinutes →
      decode codec sealing.cookie maxTTLMinutes now = .ok sealing.filled) ∧
    (lastMoment sealing maxTTLMinutes < now.toInt →
      ∃ refusal, decode codec sealing.cookie maxTTLMinutes now = .error refusal)

/-- The cookies that expire as they should. With an issue time above zero, the moment that the check
computes, in 64 bits and without the longest lifetime where the cookie has one of its own, has to be
the last one of its lifetime, or the end of all time if that comes first. Without, the lifetime has
to outlast all time. -/
def Bounded (sealing : Sealing) (maxTTLMinutes : Int64) : Prop :=
  let issued := sealing.filled.issuedAt.toInt
  let own := sealing.filled.expireMin.toInt
  let last := lastMoment sealing maxTTLMinutes
  if 0 < issued then
    -2 ^ 63 ≤ last ∧
      (2 ^ 64 : Int) ∣ issued + 60 * (if own = 0 then maxTTLMinutes.toInt else own) -
        min last (2 ^ 63 - 1)
  else 2 ^ 63 - 1 ≤ last

theorem dvd_expiry (data : RelayCookieData) (maxTTLMinutes : Int64) :
    (2 ^ 64 : Int) ∣ data.issuedAt.toInt +
      60 * (if data.expireMin.toInt = 0 then maxTTLMinutes.toInt else data.expireMin.toInt) -
        (expiry data maxTTLMinutes).toInt := by
  have sum : ∀ minutes : Int64, (2 ^ 64 : Int) ∣
      data.issuedAt.toInt + 60 * minutes.toInt - (data.issuedAt + minutes * 60).toInt := by
    intro minutes
    rw [Int64.toInt_add, Int64.toInt_mul, Int.add_bmod_bmod, Int.mul_comm 60]
    exact Int.dvd_self_sub_bmod
  have zero : data.expireMin = 0 ↔ data.expireMin.toInt = 0 := Int64.toInt_inj.symm
  unfold expiry
  by_cases none : data.expireMin.toInt = 0
  · rw [if_pos none, if_pos (zero.mpr none)]
    exact sum maxTTLMinutes
  · rw [if_neg none, if_neg (mt zero.mp none)]
    exact sum data.expireMin

theorem expires_iff (sound : Sound codec) (member : sealing ∈ codec) (bounded : 0 < maxTTLMinutes) :
    Expires codec sealing maxTTLMinutes ↔ ∀ now : Int64,
      lastMoment sealing maxTTLMinutes < now.toInt ↔
        0 < sealing.filled.issuedAt.toInt ∧
          (expiry sealing.filled maxTTLMinutes).toInt < now.toInt := by
  refine forall_congr' fun now => ?_
  have late : (0 < sealing.filled.issuedAt ∧ expiry sealing.filled maxTTLMinutes < now) ↔
      (0 < sealing.filled.issuedAt.toInt ∧
        (expiry sealing.filled maxTTLMinutes).toInt < now.toInt) :=
    and_congr Int64.lt_iff_toInt_lt Int64.lt_iff_toInt_lt
  rw [decode_cookie sound member bounded, ← late]
  by_cases expired : 0 < sealing.filled.issuedAt ∧ expiry sealing.filled maxTTLMinutes < now
  · rw [if_pos expired, iff_true_right expired]
    refine ⟨fun both => Int.not_le.mp fun inTime => ?_, fun late => ⟨fun inTime => ?_, fun _ => ?_⟩⟩
    · exact absurd (both.1 inTime) (by simp only [reduceCtorEq, not_false_eq_true])
    · exact absurd inTime (Int.not_le.mpr late)
    · exact ⟨.expired, rfl⟩
  · rw [if_neg expired, iff_false_right expired]
    refine ⟨fun both late => ?_, fun inTime => ⟨fun _ => rfl, fun late => absurd late inTime⟩⟩
    obtain ⟨refusal, refused⟩ := both.2 late
    exact absurd refused (by simp only [reduceCtorEq, not_false_eq_true])

/-- A cookie expires as it should exactly when it is bounded. -/
theorem expires_iff_bounded (sound : Sound codec)
    (member : sealing ∈ codec) (bounded : 0 < maxTTLMinutes) :
    Expires codec sealing maxTTLMinutes ↔ Bounded sealing maxTTLMinutes := by
  rw [expires_iff sound member bounded]
  have computed := dvd_expiry sealing.filled maxTTLMinutes
  have least := (expiry sealing.filled maxTTLMinutes).le_toInt
  have greatest := (expiry sealing.filled maxTTLMinutes).toInt_lt
  unfold Bounded
  dsimp only
  generalize lastMoment sealing maxTTLMinutes = last
  generalize sealing.filled.issuedAt.toInt + 60 * _ = sum at computed ⊢
  by_cases positive : 0 < sealing.filled.issuedAt.toInt
  · rw [if_pos positive]
    simp only [positive, true_and]
    refine ⟨fun agree => ?_, fun ⟨low, divides⟩ now => ?_⟩
    · have taken := agree (expiry sealing.filled maxTTLMinutes)
      by_cases more : (expiry sealing.filled maxTTLMinutes).toInt + 1 < 2 ^ 63
      · have refused := agree (Int64.ofInt ((expiry sealing.filled maxTTLMinutes).toInt + 1))
        rw [Int64.toInt_ofInt_of_le (by omega) more] at refused
        have same : last = (expiry sealing.filled maxTTLMinutes).toInt := by omega
        rw [same, Int.min_eq_left (by omega)]
        exact ⟨least, computed⟩
      · have same : min last (2 ^ 63 - 1) = (expiry sealing.filled maxTTLMinutes).toInt := by omega
        rw [same]
        exact ⟨by omega, computed⟩
    · have ends := now.toInt_lt
      have same : min last (2 ^ 63 - 1) = (expiry sealing.filled maxTTLMinutes).toInt := by omega
      omega
  · rw [if_neg positive]
    simp only [positive, false_and, iff_false, Int.not_lt]
    refine ⟨fun agree => ?_, fun long now => ?_⟩
    · have latest := agree (Int64.ofInt (2 ^ 63 - 1))
      rw [Int64.toInt_ofInt_of_le (by omega) (by omega)] at latest
      exact latest
    · have ends := now.toInt_lt
      omega

/-- The cookie of the control channel: four hours, from both sides. -/
def fourHours : Sealing where
  data := { rUserID := "user//admin", expireMin := 240 }
  ttlMinutes := 240
  now := 1700000000
  nonce := [1, 2, 3, 4, 5, 6, 7, 8, 9, 10, 11, 12]
  ciphertext := [201, 202, 203]

/-- The same payload with a lifetime of ten hours. -/
def tenHours : Sealing := { fourHours with data := { rUserID := "user//admin", expireMin := 600 } }

end SovaDesk.Meshcentral.Cookies
