/-
This file models what is done with device enrolment tokens: the authentication of a CDAP
connection with a token, and the handlers that create, edit, revoke and bind tokens.

Each is a program over the calls of the database. The authentication validates the token
with one call, binds it with a second and counts the use with a third, and does not look
at the outcome of the last two; the handler that edits a token reads the row and writes
it back.
-/

import SovaDesk.Tokens.Store

namespace SovaDesk.Tokens

open Interleave

/-! ### Requests and answers -/

/-- The part of a CDAP authentication that concerns tokens: the token and the device that the
connection is for. -/
structure AuthPayload where
  token : String
  deviceID : String
  deriving DecidableEq

/-- A new token; a time to live of zero is none. -/
structure DeviceTokenRequest where
  name : String := ""
  maxUses : Int := 0
  expiresIn : Int := 0
  note : String := ""
  deriving DecidableEq

/-- An edit of a token: an empty name or note and a limit that is not positive leave the column as
it is. -/
structure TokenEdit where
  name : String := ""
  maxUses : Int := 0
  note : String := ""
  deriving DecidableEq

/-- The requests that touch tokens; an id is missing when the path holds none, a body when it is no
JSON, and the text of a new token when there is no randomness. -/
inductive Request
  | authenticate (payload : AuthPayload) (now : Int)
  | create (body : Option DeviceTokenRequest) (plainToken : Option String) (now : Int)
  | issue (deviceID : String) (plainToken : Option String)
  | update (id : Option Int) (body : Option TokenEdit)
  | revoke (id : Option Int)
  | bind (id : Option Int) (peerID : Option String)
  deriving DecidableEq

inductive Response
  | authenticated (username role : String)
  | denied (text : String)
  | error (status : Nat) (text : String)
  | token (status : Nat) (token : DeviceToken) (plainToken : Option String)
  | issued (plainToken : String)
  | notIssued
  | revoked
  | bound (id : Int) (peerID : String)
  deriving DecidableEq

/-! ### The authentication of a connection -/

/-- Whether a token is past its time. -/
def DeviceToken.isExpired (token : DeviceToken) (now : Int) : Bool :=
  token.expiresAt.any fun expiresAt => expiresAt < now

/-- Whether a token has no use left. -/
def DeviceToken.isUsedUp (token : DeviceToken) : Bool :=
  0 < token.maxUses && token.maxUses ≤ token.useCount

/-- The token with a hash, if it is valid for enrolment. -/
def validateToken (tokenHash : String) (now : Int) : Program tokens (Option DeviceToken) :=
  .call (.getDeviceTokenByHash tokenHash) fun
  | none | some none => .done none
  | some (some token) =>
    if token.status = .revoked then .done none
    else if token.isExpired now then .call (.expireToken token.id) fun _ => .done none
    else if token.isUsedUp then .done none
    else .done (some token)

/-- Count the use of a token, whether that succeeds or not, and accept the connection. -/
def countUse (token : DeviceToken) (tokenHash : String) : Program tokens Response :=
  .call (.incrementTokenUse tokenHash) fun _ =>
    .done (.authenticated ("token:" ++ token.name) "operator")

section handlers

variable (hashToken : String → String)

def authDeviceToken (payload : AuthPayload) (now : Int) : Program tokens Response :=
  if payload.token = "" then .done (.denied "device token required")
  else
    let tokenHash := hashToken payload.token
    (validateToken tokenHash now).bind fun
    | none => .done (.denied "invalid or expired device token")
    | some token =>
      if token.peerID = "" ∧ payload.deviceID ≠ "" then
        .call (.bindTokenToPeer tokenHash payload.deviceID) fun _ => countUse token tokenHash
      else countUse token tokenHash

/-! ### The handlers -/

def handleCreateDeviceToken (body : Option DeviceTokenRequest) (plainToken : Option String)
    (now : Int) : Program tokens Response :=
  match body, plainToken with
  | none, _ => .done (.error 400 "Invalid JSON")
  | some _, none => .done (.error 500 "Failed to generate token")
  | some body, some plainToken =>
    let token : DeviceToken :=
      { id := 0, tokenHash := hashToken plainToken, name := body.name, maxUses := body.maxUses
        expiresAt := if 0 < body.expiresIn then some (now + body.expiresIn) else none
        note := body.note }
    .call (.createDeviceToken token) fun
    | none => .done (.error 500 "Internal server error")
    | some id => .done (.token 201 { token with id } (some plainToken))

/-- The token a device is given when its enrolment is approved. -/
def issueEnrollmentDeviceToken (deviceID : String) (plainToken : Option String) :
    Program tokens Response :=
  match plainToken with
  | none => .done .notIssued
  | some plainToken =>
    .call (.createDeviceToken
      { id := 0, tokenHash := hashToken plainToken, name := "Auto-" ++ deviceID
        peerID := deviceID, status := .active, maxUses := 0
        note := "Auto-issued during device enrollment" }) fun
    | none => .done .notIssued
    | some _ => .done (.issued plainToken)

/-- The edited row: the columns an edit names, and all others as they were read. -/
def TokenEdit.apply (edit : TokenEdit) (token : DeviceToken) : DeviceToken :=
  { token with
    name := if edit.name ≠ "" then edit.name else token.name
    maxUses := if 0 < edit.maxUses then edit.maxUses else token.maxUses
    note := if edit.note ≠ "" then edit.note else token.note }

def handleUpdateDeviceToken (id : Option Int) (body : Option TokenEdit) :
    Program tokens Response :=
  match id with
  | none => .done (.error 400 "Invalid token ID")
  | some id =>
    .call (.getDeviceToken id) fun
    | none => .done (.error 500 "Internal server error")
    | some none => .done (.error 404 "Token not found")
    | some (some token) =>
      match body with
      | none => .done (.error 400 "Invalid JSON")
      | some edit =>
        .call (.updateDeviceToken (edit.apply token)) fun
        | none => .done (.error 500 "Internal server error")
        | some _ => .done (.token 200 (edit.apply token) none)

def handleRevokeDeviceToken (id : Option Int) : Program tokens Response :=
  match id with
  | none => .done (.error 400 "Invalid token ID")
  | some id =>
    .call (.getDeviceToken id) fun
    | none => .done (.error 500 "Internal server error")
    | some none => .done (.error 404 "Token not found")
    | some (some _) =>
      .call (.revokeDeviceToken id) fun
      | none => .done (.error 500 "Internal server error")
      | some _ => .done .revoked

def handleBindTokenToPeer (id : Option Int) (peerID : Option String) : Program tokens Response :=
  match id, peerID with
  | none, _ => .done (.error 400 "Invalid token ID")
  | some _, none => .done (.error 400 "Invalid JSON")
  | some id, some peerID =>
    if peerID = "" then .done (.error 400 "peer_id required")
    else if peerID.utf8ByteSize < 6 ∨ 16 < peerID.utf8ByteSize then
      .done (.error 400 "Peer ID must be 6-16 characters")
    else
      .call (.getDeviceToken id) fun
      | none => .done (.error 500 "Internal server error")
      | some none => .done (.error 404 "Token not found")
      | some (some token) =>
        if token.status = .revoked then .done (.error 409 "Token has been revoked")
        else if token.peerID ≠ "" ∧ token.peerID ≠ peerID then
          .done (.error 409 "Token already bound to different peer")
        else
          .call (.bindTokenToPeer token.tokenHash peerID) fun
          | none => .done (.error 500 "Internal server error")
          | some _ => .done (.bound id peerID)

/-- The program of each request. -/
def handle : Request → Program tokens Response
  | .authenticate payload now => authDeviceToken hashToken payload now
  | .create body plainToken now => handleCreateDeviceToken hashToken body plainToken now
  | .issue deviceID plainToken => issueEnrollmentDeviceToken hashToken deviceID plainToken
  | .update id body => handleUpdateDeviceToken id body
  | .revoke id => handleRevokeDeviceToken id
  | .bind id peerID => handleBindTokenToPeer id peerID

end handlers

end SovaDesk.Tokens
