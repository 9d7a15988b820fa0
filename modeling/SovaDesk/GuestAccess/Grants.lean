/-
This file models the guest access links: the grants behind them, and the calls by which
they are checked, counted, revoked and listed.

A grant is stored as a JSON text in the server's configuration, under the hash of its
token. The calls of the configuration store are atomic and nothing else is: a grant is
read, changed and written back without a lock or a transaction. The hash of a token is a
parameter. The store is the part of the configuration that holds grants, each under the
hash in its key; a text that is no grant is kept as none.
-/

import Mathlib.Data.List.Infix
import SovaDesk.Auth.Token
import SovaDesk.Lib.Interleave

namespace SovaDesk.GuestAccess

open Auth Interleave

/-! ### Grants -/

/-- `strings.Contains`. -/
def containsText (text part : String) : Bool :=
  text.toList.tails.any part.toList.isPrefixOf

/-- A grant. Times are in seconds, and a revoked grant has the time of its revocation. -/
structure Grant where
  id : String
  peerIDs : List String
  createdBy : String
  label : String
  viewOnly : Bool
  expiresAt : Int
  createdAt : Int
  revokedAt : Option Int
  maxUses : Int
  useCount : Int
  tokenPrefix : String
  deriving DecidableEq

def Grant.allowsPeer (grant : Grant) (peerID : String) : Bool :=
  grant.peerIDs.contains (trimSpace peerID)

def linkRevoked : String := "guest link revoked"

def linkExpired : String := "guest link expired"

def linkUseLimitReached : String := "guest link use limit reached"

/-- `isActive`: the reason why a grant is not. -/
def Grant.isActive (grant : Grant) (now : Int) : Option String :=
  if grant.revokedAt.isSome then some linkRevoked
  else if now > grant.expiresAt then some linkExpired
  else if grant.maxUses > 0 ∧ grant.useCount ≥ grant.maxUses then some linkUseLimitReached
  else none

theorem Grant.isActive_of_revoked {grant : Grant} (revoked : grant.revokedAt.isSome) (now : Int) :
    grant.isActive now = some linkRevoked :=
  if_pos revoked

/-! ### The store -/

/-- The calls of the configuration store. -/
inductive ConfigCall
  | getConfig (hash : String)
  | setConfig (hash : String) (grant : Grant)
  | deleteConfig (hash : String)
  | listConfigByPrefix

@[reducible] def ConfigCall.Answer : ConfigCall → Type
  | .getConfig _ => Option Grant
  | .listConfigByPrefix => List (String × Option Grant)
  | _ => Unit

/-- What an undisturbed call does. A missing text is read as an empty one, which is no grant. -/
def ConfigCall.perform : (call : ConfigCall) → Table String (Option Grant) →
    Option (call.Answer × Table String (Option Grant))
  | .getConfig hash, table => some ((table.lookup hash).join, table)
  | .setConfig hash grant, table => some ((), table.insert hash (some grant))
  | .deleteConfig hash, table => some ((), table.erase hash)
  | .listConfigByPrefix, table => some (table.entries.map fun entry => (entry.1, entry.2), table)

@[reducible] def guests : Interface where
  Store := Table String (Option Grant)
  Call := ConfigCall
  Answer := ConfigCall.Answer
  perform := ConfigCall.perform

/-! ### The calls -/

/-- What is asked of the guest links. -/
inductive Request
  | validate (token peerID : String) (now : Int)
  | touch (token : String)
  | revokeByID (id createdBy : String) (admin : Bool) (now : Int)
  | listActive (createdBy : String) (admin : Bool) (now : Int)
  deriving DecidableEq

/-- How a call returns: with a grant or an error, with or without an error, with the answer whether
a grant was revoked and under which hash, and with the grants by their hashes. -/
inductive Result
  | grant (grant : Option Grant)
  | touched (succeeded : Bool)
  | revoked (hash : Option String)
  | listed (grants : List (String × Grant))

/-- An expired grant is deleted, whether or not that succeeds. -/
def discard (hash : String) : Program guests Result :=
  .call (.deleteConfig hash) fun _ => .done (.grant none)

/-- `Validate`: an error is no grant. -/
def validate (hashToken : String → String) (token peerID : String) (now : Int) :
    Program guests Result :=
  let token := trimSpace token
  if token = "" then .done (.grant none)
  else
    .call (.getConfig (hashToken token)) fun answer =>
      match answer with
      | some (some grant) =>
        match grant.isActive now with
        | some reason =>
          if containsText reason "expired" then discard (hashToken token)
          else .done (.grant none)
        | none =>
          if peerID ≠ "" ∧ !grant.allowsPeer peerID then .done (.grant none)
          else .done (.grant (some grant))
      | _ => .done (.grant none)

/-- `Touch`: the number of uses is written back with the grant that was read. -/
def touch (hashToken : String → String) (token : String) : Program guests Result :=
  let token := trimSpace token
  if token = "" then .done (.touched false)
  else
    .call (.getConfig (hashToken token)) fun answer =>
      match answer with
      | some (some grant) =>
        .call (.setConfig (hashToken token) { grant with useCount := grant.useCount + 1 })
          fun saved => .done (.touched saved.isSome)
      | _ => .done (.touched false)

/-- The end of `RevokeByID`: the grant that was read is written back with the time. -/
def saveRevoked (hash : String) (grant : Grant) (now : Int) : Program guests Result :=
  .call (.setConfig hash { grant with revokedAt := some now }) fun saved =>
    .done (.revoked (saved.map fun _ => hash))

/-- `RevokeByID`: the first grant with the ID, if the caller may revoke it. -/
def revokeByID (id createdBy : String) (admin : Bool) (now : Int) : Program guests Result :=
  .call .listConfigByPrefix fun answer =>
    match (answer.getD []).findSome? fun entry =>
      (entry.2.filter (·.id = id)).map fun grant => (entry.1, grant) with
    | none => .done (.revoked none)
    | some (hash, grant) =>
      if !admin ∧ createdBy ≠ "" ∧ grant.createdBy ≠ createdBy then .done (.revoked none)
      else saveRevoked hash grant now

/-- A grant that `ListActive` shows to the caller. -/
def Grant.isListed (createdBy : String) (admin : Bool) (now : Int) (grant : Grant) : Bool :=
  grant.revokedAt.isNone && !(now > grant.expiresAt) &&
    (admin || createdBy = "" || grant.createdBy = createdBy)

/-- `ListActive`: the grants that are neither revoked nor expired. -/
def listActive (createdBy : String) (admin : Bool) (now : Int) : Program guests Result :=
  .call .listConfigByPrefix fun answer =>
    .done (.listed ((answer.getD []).filterMap fun entry =>
      (entry.2.filter (·.isListed createdBy admin now)).map fun grant => (entry.1, grant)))

def handle (hashToken : String → String) : Request → Program guests Result
  | .validate token peerID now => validate hashToken token peerID now
  | .touch token => touch hashToken token
  | .revokeByID id createdBy admin now => revokeByID id createdBy admin now
  | .listActive createdBy admin now => listActive createdBy admin now

end SovaDesk.GuestAccess
