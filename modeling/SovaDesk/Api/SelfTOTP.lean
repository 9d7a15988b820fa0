/-
This file models the two-factor protection that a device administers itself, and settles
when it can be removed without a code.

A request names a device and presents a device token. The protection is kept under two
keys of the configuration, one that says whether it is enabled and one that holds the
secret. Enabling and disabling ask for a code of the secret; a setup writes a new secret
without one, also while the protection is enabled. A token that is bound to no device is
taken for every device.

The runs remember whether a request has presented a token bound to the device and a code
that is valid for its secret. Until then the protection stays, and other tokens change
nothing, exactly in the runs in which no such setup and no such token takes effect.
-/

import SovaDesk.Auth.Token
import SovaDesk.Tokens.Handlers

namespace SovaDesk.Api.SelfTOTP

open Auth Tokens Transition

/-! ### The handler -/

/-- What the handler uses from outside: the hash of a token, `strings.ToLower`, the code of a
secret at a time in seconds, and the address for an authenticator. -/
structure Outside where
  hashToken : String → String
  toLower : String → String
  computeTOTP : String → Int → Option String
  totpUri : String → String → String → String

def totpPeriod : Int := 30

def totpDigits : Nat := 6

/-- A code is valid for one step of time before and after its own. -/
def validateTOTP (outside : Outside) (secret code : String) (now : Int) : Bool :=
  code.utf8ByteSize == totpDigits &&
    [-1, 0, 1].any fun step => outside.computeTOTP secret (now + step * totpPeriod) == some code

/-- The methods that the routes admit; a route for GET admits HEAD too. -/
inductive Method
  | get
  | head
  | post
  deriving DecidableEq

structure Body where
  deviceID : String
  deviceToken : String
  action : String
  code : String
  deriving DecidableEq

/-- A request: the body of a POST is missing where the JSON does not decode, the token is validated
and the code compared at times of their own, and a setup takes a fresh secret. -/
structure Request where
  method : Method
  body : Option Body
  queryID : String
  queryToken : String
  tokenTime : Int
  codeTime : Int
  secret : String
  deriving DecidableEq

structure Status where
  enabled : Bool
  uri : String
  secret : String
  deriving DecidableEq

structure Store where
  tokens : TokenTable
  config : Table String String

def getConfig (config : Table String String) (key : String) : String :=
  (config.lookup key).getD ""

def enabledKey (deviceID : String) : String := "device_totp_enabled_" ++ deviceID

def secretKey (deviceID : String) : String := "device_totp_secret_" ++ deviceID

/-- The body, with the device and the token from the address where it has none. -/
def Request.decoded (request : Request) : Option Body :=
  let body := if request.method = .post then request.body else some ⟨"", "", "", ""⟩
  body.map fun body =>
    { body with
      deviceID := if body.deviceID = "" then request.queryID else body.deviceID
      deviceToken := if body.deviceToken = "" then request.queryToken else body.deviceToken }

/-- The device, if the token is valid and not bound to another one, and the tokens afterwards. -/
def deviceTokenPeerID (outside : Outside) (now : Int) (deviceID token : String)
    (tokens : TokenTable) : Option String × TokenTable :=
  if deviceID = "" ∨ token = "" then (none, tokens)
  else
    match (validateToken (outside.hashToken token) now).eval tokens with
    | (none, after) => (none, after)
    | (some dt, after) =>
      if dt.peerID ≠ "" ∧ dt.peerID ≠ deviceID then (none, after) else (some deviceID, after)

inductive Action
  | setup
  | enable
  | disable
  | status
  deriving DecidableEq

def Body.kind (outside : Outside) (body : Body) : Action :=
  let action := outside.toLower (trimSpace body.action)
  if action = "setup" then .setup
  else if action = "enable" then .enable
  else if action = "disable" then .disable
  else .status

/-- The action of a POST. -/
def serve (outside : Outside) (request : Request) (body : Body) (config : Table String String) :
    Except (Nat × String) Status × Table String String :=
  let stored := getConfig config (secretKey body.deviceID)
  let valid := validateTOTP outside stored body.code request.codeTime
  match body.kind outside with
  | .setup =>
    (.ok ⟨false, outside.totpUri request.secret "BetterDesk" body.deviceID, request.secret⟩,
      config.insert (secretKey body.deviceID) request.secret)
  | .enable =>
    if stored = "" ∨ valid = false then (.error (400, "invalid code"), config)
    else (.ok ⟨true, "", ""⟩, config.insert (enabledKey body.deviceID) "true")
  | .disable =>
    if stored ≠ "" ∧ valid = false then (.error (400, "invalid code"), config)
    else
      (.ok ⟨false, "", ""⟩,
        (config.insert (enabledKey body.deviceID) "false").insert (secretKey body.deviceID) "")
  | .status => (.ok ⟨getConfig config (enabledKey body.deviceID) == "true", "", ""⟩, config)

def handleDeviceSelfTOTP (outside : Outside) (request : Request) (store : Store) :
    Except (Nat × String) Status × Store :=
  match request.decoded with
  | none => (.error (400, "Invalid JSON"), store)
  | some body =>
    match deviceTokenPeerID outside request.tokenTime body.deviceID body.deviceToken
        store.tokens with
    | (none, tokens) => (.error (403, "invalid device token"), { store with tokens })
    | (some _, tokens) =>
      if request.method = .get then
        (.ok ⟨getConfig store.config (enabledKey body.deviceID) == "true", "", ""⟩,
          { store with tokens })
      else
        let (reply, config) := serve outside request body store.config
        (reply, ⟨tokens, config⟩)

/-! ### One device -/

/-- What is stored of the protection of a device. -/
structure TOTP where
  enabled : String
  secret : String
  deriving DecidableEq

def totpOf (config : Table String String) (deviceID : String) : TOTP where
  enabled := getConfig config (enabledKey deviceID)
  secret := getConfig config (secretKey deviceID)

/-- What an action makes of the protection of its device. -/
def TOTP.serve (outside : Outside) (request : Request) (body : Body) (stored : TOTP) : TOTP :=
  let valid := validateTOTP outside stored.secret body.code request.codeTime
  match body.kind outside with
  | .setup => { stored with secret := request.secret }
  | .enable =>
    if stored.secret = "" ∨ valid = false then stored else { stored with enabled := "true" }
  | .disable => if stored.secret ≠ "" ∧ valid = false then stored else ⟨"false", ""⟩
  | .status => stored

theorem enabledKey_inj {first second : String} :
    enabledKey first = enabledKey second ↔ first = second := by
  unfold enabledKey
  exact String.append_right_inj _

theorem secretKey_inj {first second : String} :
    secretKey first = secretKey second ↔ first = second := by
  unfold secretKey
  exact String.append_right_inj _

/-- The names of the two keys part at the thirteenth letter. -/
theorem enabledKey_ne_secretKey (first second : String) : enabledKey first ≠ secretKey second := by
  intro same
  have letters : ("device_totp_enabled_" ++ first).toList.take 13 =
      ("device_totp_secret_" ++ second).toList.take 13 :=
    congrArg (fun key => key.toList.take 13) same
  rw [String.toList_append, String.toList_append, List.take_append_of_le_length (by decide),
    List.take_append_of_le_length (by decide)] at letters
  exact absurd letters (by decide)

theorem getConfig_insert (config : Table String String) (key other value : String) :
    getConfig (config.insert key value) other =
      if other = key then value else getConfig config other := by
  unfold getConfig
  rw [Table.lookup_insert_if]
  split
  · rfl
  · rfl

theorem totpOf_insert_enabledKey (config : Table String String) (deviceID other value : String) :
    totpOf (config.insert (enabledKey deviceID) value) other =
      if other = deviceID then { totpOf config other with enabled := value }
      else totpOf config other := by
  simp only [totpOf, getConfig_insert, enabledKey_inj,
    if_neg (enabledKey_ne_secretKey deviceID other).symm]
  split
  · rfl
  · rfl

theorem totpOf_insert_secretKey (config : Table String String) (deviceID other value : String) :
    totpOf (config.insert (secretKey deviceID) value) other =
      if other = deviceID then { totpOf config other with secret := value }
      else totpOf config other := by
  simp only [totpOf, getConfig_insert, secretKey_inj,
    if_neg (enabledKey_ne_secretKey other deviceID)]
  split
  · rfl
  · rfl

/-- An action changes the protection of its own device, and of no other. -/
theorem totpOf_serve (outside : Outside) (request : Request) (body : Body)
    (config : Table String String) (deviceID : String) :
    totpOf (serve outside request body config).2 deviceID =
      if deviceID = body.deviceID then (totpOf config deviceID).serve outside request body
      else totpOf config deviceID := by
  unfold serve TOTP.serve
  by_cases own : deviceID = body.deviceID
  · subst own
    rw [if_pos rfl]
    have stored : (totpOf config body.deviceID).secret =
        getConfig config (secretKey body.deviceID) := rfl
    cases body.kind outside with
    | setup => exact (totpOf_insert_secretKey _ _ _ _).trans (if_pos rfl)
    | enable =>
      dsimp only
      rw [stored]
      split
      · rfl
      · exact (totpOf_insert_enabledKey _ _ _ _).trans (if_pos rfl)
    | disable =>
      dsimp only
      rw [stored]
      split
      · rfl
      · refine (totpOf_insert_secretKey _ _ _ _).trans ((if_pos rfl).trans ?_)
        rw [totpOf_insert_enabledKey, if_pos rfl]
    | status => rfl
  · rw [if_neg own]
    cases body.kind outside with
    | setup => exact (totpOf_insert_secretKey _ _ _ _).trans (if_neg own)
    | enable =>
      dsimp only
      split
      · rfl
      · exact (totpOf_insert_enabledKey _ _ _ _).trans (if_neg own)
    | disable =>
      dsimp only
      split
      · rfl
      · refine (totpOf_insert_secretKey _ _ _ _).trans ((if_neg own).trans ?_)
        rw [totpOf_insert_enabledKey, if_neg own]
    | status => rfl

/-! ### Tokens -/

/-- The valid token that a request presents. -/
def presentedToken (outside : Outside) (request : Request) (store : Store) :
    Option DeviceToken :=
  request.decoded.bind fun body =>
    if body.deviceToken = "" then none
    else
      ((validateToken (outside.hashToken body.deviceToken) request.tokenTime).eval store.tokens).1

/-- The request is for the device, other than to read, and presents a valid token. -/
structure Reaches (outside : Outside) (deviceID : String) (request : Request) (store : Store)
    (body : Body) (dt : DeviceToken) : Prop where
  decoded : request.decoded = some body
  device : body.deviceID = deviceID
  named : deviceID ≠ ""
  acts : request.method ≠ .get
  token : presentedToken outside request store = some dt

theorem deviceTokenPeerID_fst (outside : Outside) (request : Request) (store : Store) (body : Body)
    (decoded : request.decoded = some body) :
    (deviceTokenPeerID outside request.tokenTime body.deviceID body.deviceToken
        store.tokens).1 =
      if body.deviceID = "" then none
      else (presentedToken outside request store).bind fun dt =>
        if dt.peerID ≠ "" ∧ dt.peerID ≠ body.deviceID then none else some body.deviceID := by
  unfold deviceTokenPeerID presentedToken
  rw [decoded, Option.bind_some]
  by_cases unnamed : body.deviceID = ""
  · rw [if_pos (.inl unnamed), if_pos unnamed]
  · rw [if_neg unnamed]
    by_cases missing : body.deviceToken = ""
    · rw [if_pos (.inr missing), if_pos missing]
      rfl
    · rw [if_neg (not_or.mpr ⟨unnamed, missing⟩), if_neg missing]
      split
      · next after validated => rw [validated]; rfl
      · next dt after validated =>
        rw [validated, Option.bind_some]
        split
        · rfl
        · rfl

/-- A request changes the protection of a device as its action does, if it reaches the device with
a token that is bound to it or to no device, and not at all otherwise. -/
theorem handleDeviceSelfTOTP_cases (outside : Outside) (deviceID : String) (request : Request)
    (store : Store) :
    (totpOf (handleDeviceSelfTOTP outside request store).2.config deviceID =
        totpOf store.config deviceID ∧
      ∀ body dt, Reaches outside deviceID request store body dt →
        dt.peerID ≠ "" ∧ dt.peerID ≠ deviceID) ∨
      ∃ body dt, Reaches outside deviceID request store body dt ∧
        (dt.peerID = "" ∨ dt.peerID = deviceID) ∧
        totpOf (handleDeviceSelfTOTP outside request store).2.config deviceID =
          (totpOf store.config deviceID).serve outside request body := by
  unfold handleDeviceSelfTOTP
  cases decoded : request.decoded with
  | none =>
    refine .inl ⟨rfl, fun body dt reaches => ?_⟩
    cases decoded.symm.trans reaches.decoded
  | some body =>
    dsimp only
    have admitted := deviceTokenPeerID_fst outside request store body decoded
    split
    · next tokens checked =>
      refine .inl ⟨rfl, fun other dt reaches => ?_⟩
      cases decoded.symm.trans reaches.decoded
      rw [checked, if_neg (reaches.device ▸ reaches.named), reaches.token, Option.bind_some,
        reaches.device] at admitted
      by_contra bound
      rw [if_neg bound] at admitted
      cases admitted
    · next peerID tokens checked =>
      split
      · next reads => exact .inl ⟨rfl, fun other dt reaches => absurd reads reaches.acts⟩
      · next acts =>
        dsimp only
        rw [totpOf_serve]
        by_cases device : deviceID = body.deviceID
        · subst device
          rw [checked] at admitted
          split at admitted
          · cases admitted
          next named =>
          obtain ⟨dt, token, bound⟩ := Option.bind_eq_some_iff.mp admitted.symm
          rw [Option.ite_none_left_eq_some, not_and_or, not_not, not_not] at bound
          exact .inr ⟨body, dt, ⟨decoded, rfl, named, acts, token⟩, bound.1, if_pos rfl⟩
        · rw [if_neg device]
          refine .inl ⟨rfl, fun other dt reaches => ?_⟩
          cases decoded.symm.trans reaches.decoded
          exact absurd reaches.device.symm device

/-! ### Runs -/

/-- The request presents a token that is bound to the device. -/
def boundTo (outside : Outside) (deviceID : String) (request : Request) (store : Store) : Bool :=
  (presentedToken outside request store).any fun dt => dt.peerID == deviceID

/-- The request presents a token that is bound to the device and a code of a secret. -/
def presents (outside : Outside) (deviceID secret : String) (request : Request) (store : Store) :
    Bool :=
  boundTo outside deviceID request store &&
    request.decoded.any fun body => validateTOTP outside secret body.code request.codeTime

/-- The store, and whether a request has presented a token bound to the device and a code of its
secret. -/
structure Observed where
  store : Store
  presented : Bool

/-- The protection of a device is enabled with a secret; an empty value is none. -/
structure Protected (store : Store) (deviceID secret : String) : Prop where
  present : secret ≠ ""
  stored : totpOf store.config deviceID = ⟨"true", secret⟩

/-- Runs from any state in which the protection of a device is enabled with a secret. -/
def selfTOTP (outside : Outside) (deviceID secret : String) : System Observed Request where
  start s := Protected s.store deviceID secret ∧ s.presented = false
  step s request := some
    { store := (handleDeviceSelfTOTP outside request s.store).2
      presented := s.presented || presents outside deviceID secret request s.store }

/-- The protection stays until a code and a token of the device are presented, and a token that is
not bound to the device changes nothing of it. -/
structure Kept (outside : Outside) (deviceID secret : String) (step : Taken Observed Request) :
    Prop where
  stays : step.after.presented = false → Protected step.after.store deviceID secret
  apart : boundTo outside deviceID step.label step.before.store = false →
    totpOf step.after.store.config deviceID = totpOf step.before.store.config deviceID

/-- The action finds something to change. -/
def Changes (outside : Outside) (request : Request) (body : Body) (stored : TOTP) : Prop :=
  let valid := validateTOTP outside stored.secret body.code request.codeTime = true
  match body.kind outside with
  | .setup => request.secret ≠ stored.secret
  | .enable => stored.secret ≠ "" ∧ valid ∧ stored.enabled ≠ "true"
  | .disable => (stored.secret = "" ∨ valid) ∧ stored ≠ ⟨"false", ""⟩
  | .status => False

/-- The condition: with a token that is bound to no device a request finds nothing to change, and
until a code was presented a setup presents one, or keeps the secret. -/
structure Asked (outside : Outside) (deviceID secret : String) (s : Observed)
    (request : Request) : Prop where
  unbound : ∀ body dt, Reaches outside deviceID request s.store body dt → dt.peerID = "" →
    ¬ Changes outside request body (totpOf s.store.config deviceID)
  setup : s.presented = false → ∀ body dt, Reaches outside deviceID request s.store body dt →
    dt.peerID = deviceID → body.kind outside = .setup → request.secret ≠ secret →
      validateTOTP outside secret body.code request.codeTime = true

section runs

variable {outside : Outside} {deviceID secret : String} {request : Request} {body : Body}
  {dt : DeviceToken}

/-- An action changes the protection if it finds something to change. -/
theorem serve_ne_iff (stored : TOTP) :
    stored.serve outside request body ≠ stored ↔ Changes outside request body stored := by
  unfold TOTP.serve Changes
  cases body.kind outside with
  | setup => exact not_congr ⟨fun same => congrArg TOTP.secret same, fun same => by rw [same]⟩
  | enable =>
    dsimp only
    split
    · next refused =>
      refine iff_of_false (fun changed => changed rfl) ?_
      rintro ⟨present, valid, _⟩
      rcases refused with missing | invalid
      · exact present missing
      · exact absurd (valid.symm.trans invalid) (by decide)
    · next accepted =>
      rw [not_or, Bool.not_eq_false] at accepted
      constructor
      · intro changed
        exact ⟨accepted.1, accepted.2, fun enabled => changed (by rw [← enabled])⟩
      · rintro ⟨_, _, disabled⟩ same
        exact disabled (congrArg TOTP.enabled same).symm
  | disable =>
    dsimp only
    split
    · next refused =>
      refine iff_of_false (fun changed => changed rfl) ?_
      rintro ⟨missing | valid, _⟩
      · exact refused.1 missing
      · exact absurd (valid.symm.trans refused.2) (by decide)
    · next accepted =>
      rw [not_and_or, not_not, Bool.not_eq_false] at accepted
      constructor
      · intro changed
        exact ⟨accepted, changed.symm⟩
      · rintro ⟨_, differs⟩
        exact differs.symm
  | status => exact iff_of_false (fun changed => changed rfl) id

/-- Without a code nothing but another secret changes a protection that is enabled. -/
theorem serve_of_invalid (present : secret ≠ "")
    (invalid : validateTOTP outside secret body.code request.codeTime = false)
    (keeps : body.kind outside = .setup → request.secret = secret) :
    TOTP.serve outside request body ⟨"true", secret⟩ = ⟨"true", secret⟩ := by
  refine not_not.mp fun changed => ?_
  have changes := (serve_ne_iff ⟨"true", secret⟩).mp changed
  unfold Changes at changes
  rw [invalid] at changes
  cases kind : body.kind outside with
  | setup =>
    rw [kind] at changes
    exact changes (keeps kind)
  | enable =>
    rw [kind] at changes
    exact absurd changes.2.1 (by decide)
  | disable =>
    rw [kind] at changes
    rcases changes.1 with missing | valid
    · exact present missing
    · exact absurd valid (by decide)
  | status =>
    rw [kind] at changes
    exact changes

variable {s after : Observed} {store : Store}

theorem Reaches.unique {other : Body} {another : DeviceToken}
    (reaches : Reaches outside deviceID request store body dt)
    (again : Reaches outside deviceID request store other another) :
    other = body ∧ another = dt :=
  ⟨Option.some.inj (again.decoded.symm.trans reaches.decoded),
    Option.some.inj (again.token.symm.trans reaches.token)⟩

theorem Reaches.boundTo (reaches : Reaches outside deviceID request store body dt) :
    boundTo outside deviceID request store = (dt.peerID == deviceID) := by
  rw [SelfTOTP.boundTo, reaches.token, Option.any_some]

theorem Reaches.presents (reaches : Reaches outside deviceID request store body dt)
    (bound : dt.peerID = deviceID) :
    presents outside deviceID secret request store =
      validateTOTP outside secret body.code request.codeTime := by
  rw [SelfTOTP.presents, reaches.boundTo, bound, beq_self_eq_true, Bool.true_and, reaches.decoded,
    Option.any_some]

/-- A step that leaves the device as it is keeps its protection. -/
theorem kept_of_same (holds : s.presented = false → Protected s.store deviceID secret)
    (taken : (selfTOTP outside deviceID secret).step s request = some after)
    (same : totpOf after.store.config deviceID = totpOf s.store.config deviceID) :
    Kept outside deviceID secret ⟨s, request, after⟩ where
  stays unpresented := by
    cases taken
    have before := holds (Bool.or_eq_false_iff.mp unpresented).1
    exact ⟨before.present, same.trans before.stored⟩
  apart _ := same

theorem kept_of_asked (holds : s.presented = false → Protected s.store deviceID secret)
    (taken : (selfTOTP outside deviceID secret).step s request = some after)
    (asked : Asked outside deviceID secret s request) :
    Kept outside deviceID secret ⟨s, request, after⟩ := by
  rcases handleDeviceSelfTOTP_cases outside deviceID request s.store with
    ⟨same, _⟩ | ⟨body, dt, reaches, unbound | bound, served⟩
  · exact kept_of_same holds taken (by cases taken; exact same)
  · refine kept_of_same holds taken ?_
    have idle := not_not.mp ((serve_ne_iff _).not.mpr (asked.unbound body dt reaches unbound))
    cases taken
    exact served.trans idle
  · cases taken
    refine ⟨fun unpresented => ?_, fun apart => ?_⟩
    · obtain ⟨before, codeless⟩ := Bool.or_eq_false_iff.mp unpresented
      have invalid := (reaches.presents bound).symm.trans codeless
      obtain ⟨present, stored⟩ := holds before
      refine ⟨present, served.trans ?_⟩
      rw [stored]
      refine serve_of_invalid present invalid fun isSetup => ?_
      by_contra renewed
      have valid := asked.setup before body dt reaches bound isSetup renewed
      exact absurd (valid.symm.trans invalid) (by decide)
    · have isBound : boundTo outside deviceID request s.store = true := by
        rw [reaches.boundTo, bound, beq_self_eq_true]
      exact absurd (isBound.symm.trans apart) (by decide)

theorem asked_of_kept (taken : (selfTOTP outside deviceID secret).step s request = some after)
    (kept : Kept outside deviceID secret ⟨s, request, after⟩) :
    Asked outside deviceID secret s request := by
  cases taken
  rcases handleDeviceSelfTOTP_cases outside deviceID request s.store with
    ⟨_, other⟩ | ⟨body, dt, reaches, _, served⟩
  · refine ⟨fun body dt reaches unbound => absurd unbound (other body dt reaches).1,
      fun _ body dt reaches bound => absurd bound (other body dt reaches).2⟩
  constructor
  · intro body' dt' again unbound
    obtain ⟨rfl, rfl⟩ := reaches.unique again
    refine (serve_ne_iff _).not.mp (not_not.mpr (served.symm.trans (kept.apart ?_)))
    rw [reaches.boundTo, unbound]
    exact beq_false_of_ne reaches.named.symm
  · intro before body' dt' again bound isSetup renewed
    obtain ⟨rfl, rfl⟩ := reaches.unique again
    by_contra invalid
    have codeless := (reaches.presents bound).trans (Bool.not_eq_true _ ▸ invalid)
    have stored := (kept.stays (Bool.or_eq_false_iff.mpr ⟨before, codeless⟩)).stored
    have written : (totpOf s.store.config deviceID).serve outside request body' =
        { totpOf s.store.config deviceID with secret := request.secret } := by
      unfold TOTP.serve
      rw [isSetup]
    exact renewed (congrArg TOTP.secret (written.symm.trans (served.symm.trans stored)))

theorem protected_of_reachableWhen
    (reached : ReachableWhen (selfTOTP outside deviceID secret) (Asked outside deviceID secret) s) :
    s.presented = false → Protected s.store deviceID secret := by
  refine reached.invariant (fun s => s.presented = false → Protected s.store deviceID secret)
    (fun _ initial _ => ?_) fun before request after holds asked taken => ?_
  · exact initial.1
  · exact (kept_of_asked holds taken asked).stays

end runs

/-- Codes that do not change with time, one for the secret k and another for all others. -/
def steadyCodes : Outside where
  hashToken token := token
  toLower text := text
  computeTOTP secret _ := some (if secret = "k" then "123456" else "654321")
  totpUri secret _ _ := secret

/-- The token of a device that was enrolled. -/
def deviceToken : DeviceToken where
  id := 1
  tokenHash := "token"
  name := "Auto-d1"
  peerID := "d1"
  status := .active
  maxUses := 0

def deviceTokens : TokenTable :=
  TokenTable.empty.insert deviceToken fun _ _ found _ => by cases found

/-- The protection of the device is enabled with the secret k. -/
def enabledDevice : Observed where
  store :=
    { tokens := deviceTokens
      config := AList.insert (secretKey "d1") "k" (AList.insert (enabledKey "d1") "true" ∅) }
  presented := false

/-- A request of the device; a setup would take the secret l. -/
def ask (action code : String) : Request where
  method := .post
  body := some ⟨"d1", "token", action, code⟩
  queryID := ""
  queryToken := ""
  tokenTime := 0
  codeTime := 0
  secret := "l"

theorem enabledDevice_start : (selfTOTP steadyCodes "d1" "k").start enabledDevice :=
  ⟨⟨by decide, by decide⟩, rfl⟩

theorem presentedToken_ask (action code : String) (store : Store)
    (tokens : store.tokens = deviceTokens) :
    presentedToken steadyCodes (ask action code) store = some deviceToken := by
  obtain ⟨_, config⟩ := store
  cases tokens
  rfl

theorem asked_disable (code : String) (s : Observed) (tokens : s.store.tokens = deviceTokens) :
    Asked steadyCodes "d1" "k" s (ask "disable" code) := by
  have presented := presentedToken_ask "disable" code s.store tokens
  constructor
  · intro body dt reaches unbound
    cases presented.symm.trans reaches.token
    exact absurd unbound (by decide)
  · intro _ body dt reaches _ isSetup
    cases reaches.decoded
    have kind : Body.kind steadyCodes ⟨"d1", "token", "disable", code⟩ =
        Body.kind steadyCodes ⟨"d1", "token", "disable", ""⟩ := by
      unfold Body.kind
      rfl
    exact absurd (kind.symm.trans isSetup) (by decide)

def afterDisable (code : String) (s : Observed) : Observed :=
  ((selfTOTP steadyCodes "d1" "k").step s (ask "disable" code)).getD s

end SovaDesk.Api.SelfTOTP
