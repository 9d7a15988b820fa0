/-
This file settles when the listing of guest links and the check of a token agree on what is active.

A link is created for a random token, and its grant is stored under the hash of the token. Whether
a grant is active is decided in two places: the check of a token asks whether it was revoked, has
expired or is used up; the listing asks about the first two alone. The calls run one after the
other, each at its own time.
-/

import Mathlib.Data.List.TakeWhile
import SovaDesk.GuestAccess.Grants
import SovaDesk.Lib.Text
import SovaDesk.Signal.DeviceUUID

namespace SovaDesk.GuestAccess

open Auth Interleave Signal

/-! ### Creating a link -/

/-- `MaxTTLMinutes`. -/
def maxTTLMinutes : Int := 24 * 60

/-- `DefaultTTLMinutes`. -/
def defaultTTLMinutes : Int := 60

def isPeerIDChar (c : Char) : Bool :=
  ('A' ≤ c && c ≤ 'Z') || ('a' ≤ c && c ≤ 'z') || ('0' ≤ c && c ≤ '9') || c == '_' || c == '-'

/-- The loop of `normalizePeerIDs`, with the IDs that it has kept. -/
def normalizeFrom : List String → List String → Except String (List String)
  | [], out => if out.length = 0 then .error "at least one peer_id required" else .ok out
  | raw :: rest, out =>
    let id := trimSpace raw
    if id = "" then normalizeFrom rest out
    else if Text.byteLength id.toList < 3 ∨ Text.byteLength id.toList > 64 then
      .error "invalid peer id length"
    else if !id.toList.all isPeerIDChar then .error "invalid peer id characters"
    else if out.contains id then normalizeFrom rest out
    else normalizeFrom rest (out ++ [id])

def normalizePeerIDs (ids : List String) : Except String (List String) := normalizeFrom ids []

/-- What is asked of a new link. -/
structure LinkRequest where
  peerIDs : List String
  createdBy : String
  ttlMinutes : Int
  viewOnly : Bool
  label : String
  maxUses : Int

/-- Random bytes, so many of them. -/
def RandomBytes (count : Nat) := {bytes : Bytes // bytes.length = count}

/-- `newToken` and `newID`: the text of random bytes. -/
def randomText {count : Nat} (bytes : RandomBytes count) : String := hexText bytes.val

/-- The time until which a new link is valid, in seconds. -/
def expiresAt (ttlMinutes now : Int) : Int :=
  let ttl := if ttlMinutes ≤ 0 then defaultTTLMinutes else ttlMinutes
  now + 60 * min ttl maxTTLMinutes

/-- The grant of a new link. -/
def newGrant (request : LinkRequest) (token : RandomBytes 24) (id : RandomBytes 8) (now : Int) :
    Except String Grant := do
  let peers ← normalizePeerIDs request.peerIDs
  return {
    id := randomText id
    peerIDs := peers
    createdBy := request.createdBy
    label := trimSpace request.label
    viewOnly := request.viewOnly
    expiresAt := expiresAt request.ttlMinutes now
    createdAt := now
    revokedAt := none
    maxUses := max request.maxUses 0
    useCount := 0
    tokenPrefix := String.ofList ((randomText token).toList.take 8) }

/-- `Create`: the grant is stored under the hash of its token. -/
def create (hashToken : String → String) (request : LinkRequest) (token : RandomBytes 24)
    (id : RandomBytes 8) (now : Int) : Program guests Result :=
  match newGrant request token id now with
  | .error _ => .done (.grant none)
  | .ok grant =>
    .call (.setConfig (hashToken (randomText token)) grant) fun saved =>
      .done (.grant (saved.map fun _ => grant))

/-! ### Sequences of calls -/

/-- A call that runs alone. -/
inductive Operation
  | create (request : LinkRequest) (token : RandomBytes 24) (id : RandomBytes 8) (now : Int)
  | call (request : Request)

def Operation.program (hashToken : String → String) : Operation → Program guests Result
  | .create request token id now => GuestAccess.create hashToken request token id now
  | .call request => handle hashToken request

/-- The grants after a sequence of calls. -/
def storeAfter (hashToken : String → String) (initial : Table String (Option Grant))
    (operations : List Operation) : Table String (Option Grant) :=
  operations.foldl (fun store operation => ((operation.program hashToken).eval store).2) initial

/-- `ListActive` for an administrator reports the grant under the hash. -/
def Reported (store : Table String (Option Grant)) (createdBy : String) (now : Int) (hash : String)
    (grant : Grant) : Prop :=
  ∃ grants, ((listActive createdBy true now).eval store).1 = .listed grants ∧
    (hash, grant) ∈ grants

/-- `Validate` of a token without a peer returns the grant. -/
def Valid (hashToken : String → String) (store : Table String (Option Grant)) (now : Int)
    (token : String) (grant : Grant) : Prop :=
  ((validate hashToken token "" now).eval store).1 = .grant (some grant)

/-- A grant that is neither revoked nor expired, with no use left. -/
def Grant.UsedUp (grant : Grant) (now : Int) : Prop :=
  grant.revokedAt = none ∧ now ≤ grant.expiresAt ∧ 0 < grant.maxUses ∧
    grant.maxUses ≤ grant.useCount

instance (grant : Grant) (now : Int) : Decidable (grant.UsedUp now) :=
  inferInstanceAs (Decidable (_ ∧ _))

/-! ### What is reported and what is valid -/

section agreement

variable {store : Table String (Option Grant)} {grant : Grant} {now : Int}

theorem reported_iff {createdBy hash : String} :
    Reported store createdBy now hash grant ↔
      store.lookup hash = some (some grant) ∧ grant.revokedAt = none ∧ now ≤ grant.expiresAt := by
  have listed : ((listActive createdBy true now).eval store).1 =
      .listed ((store.entries.map fun entry => (entry.1, entry.2)).filterMap fun entry =>
        (entry.2.filter (·.isListed createdBy true now)).map fun grant => (entry.1, grant)) := rfl
  have shown : grant.isListed createdBy true now = true ↔
      grant.revokedAt = none ∧ now ≤ grant.expiresAt := by
    simp [Grant.isListed]
  unfold Reported
  rw [← shown, ← Table.mem_entries_iff]
  constructor
  · rintro ⟨grants, isListed, member⟩
    obtain rfl := Result.listed.inj (listed.symm.trans isListed)
    obtain ⟨⟨key, stored⟩, present, found⟩ := List.mem_filterMap.mp member
    obtain ⟨held, passed, same⟩ := Option.map_eq_some_iff.mp found
    obtain ⟨isStored, passes⟩ := Option.filter_eq_some_iff.mp passed
    obtain ⟨rfl, rfl⟩ := Prod.mk.inj same
    obtain ⟨entry, isEntry, pair⟩ := List.mem_map.mp present
    obtain ⟨isKey, isValue⟩ := Prod.mk.inj pair
    refine ⟨?_, passes⟩
    have whole : entry = ⟨key, some held⟩ := by
      rw [← isKey, ← show stored = some held from isStored, ← isValue]
    exact whole ▸ isEntry
  · rintro ⟨present, passes⟩
    refine ⟨_, listed, List.mem_filterMap.mpr ⟨(hash, some grant), ?_, ?_⟩⟩
    · exact List.mem_map.mpr ⟨_, present, rfl⟩
    · dsimp only
      rw [Option.filter_some, if_pos passes]
      rfl

theorem valid_iff {hashToken : String → String} {token : String} (named : trimSpace token ≠ "") :
    Valid hashToken store now token grant ↔
      store.lookup (hashToken (trimSpace token)) = some (some grant) ∧
        grant.isActive now = none := by
  unfold Valid validate
  dsimp only
  rw [if_neg named]
  have asked : guests.perform (.getConfig (hashToken (trimSpace token))) store =
      some ((store.lookup (hashToken (trimSpace token))).join, store) := rfl
  rw [Program.eval_call asked]
  cases found : store.lookup (hashToken (trimSpace token)) with
  | none =>
    refine iff_of_false (fun same => ?_) fun both => Option.some_ne_none _ both.1.symm
    exact Option.some_ne_none _ (Result.grant.inj same).symm
  | some stored =>
    cases stored with
    | none =>
      refine iff_of_false (fun same => ?_) fun both =>
        Option.some_ne_none _ (Option.some.inj both.1).symm
      exact Option.some_ne_none _ (Result.grant.inj same).symm
    | some held =>
      rw [Option.some_inj, Option.some_inj]
      dsimp only [Option.join, Option.bind, id]
      cases active : held.isActive now with
      | none =>
        have shown : grant = held → grant.isActive now = none := fun same => same ▸ active
        have unnamed : ¬("" ≠ "" ∧ !held.allowsPeer "") := fun both => both.1 rfl
        rw [if_neg unnamed]
        constructor
        · intro returned
          have same : held = grant := Option.some.inj (Result.grant.inj returned)
          exact ⟨same, shown same.symm⟩
        · rintro ⟨rfl, -⟩
          rfl
      | some reason =>
        refine iff_of_false (fun returned => ?_) ?_
        · dsimp only at returned
          by_cases expired : containsText reason "expired" = true
          · rw [if_pos expired] at returned
            exact Option.some_ne_none _ (Result.grant.inj returned).symm
          · rw [if_neg expired] at returned
            exact Option.some_ne_none _ (Result.grant.inj returned).symm
        · rintro ⟨rfl, unreserved⟩
          exact Option.some_ne_none _ (active.symm.trans unreserved)

theorem isActive_iff : grant.isActive now = none ↔
    grant.revokedAt = none ∧ now ≤ grant.expiresAt ∧ ¬grant.UsedUp now := by
  unfold Grant.isActive Grant.UsedUp
  cases grant.revokedAt with
  | some time => simp
  | none =>
    simp only [Option.isSome_none, Bool.false_eq_true, if_false, true_and, gt_iff_lt, ge_iff_le]
    split
    · simp; omega
    · split
      · simp; omega
      · simp; omega

end agreement

/-! ### Tokens -/

theorem trimSpace_of_clean {text : String} (clean : ∀ c ∈ text.toList, isSpace c = false) :
    trimSpace text = text := by
  have keeps : ∀ characters : List Char, (∀ c ∈ characters, isSpace c = false) →
      characters.dropWhile isSpace = characters := by
    intro characters none
    cases characters with
    | nil => rfl
    | cons c rest => rw [List.dropWhile_cons, none c List.mem_cons_self, if_neg Bool.false_ne_true]
  rw [trimSpace, keeps _ clean, keeps _ fun c member => clean c (List.mem_reverse.mp member),
    List.reverse_reverse, String.ofList_toList]

theorem isSpace_hexDigit {value : Nat} (small : value < 16) : isSpace (hexDigit value) = false := by
  have all : ∀ value < 16, isSpace (hexDigit value) = false := by decide
  exact all value small

/-- A token is its own trimmed text. -/
theorem trimSpace_randomText {count : Nat} (bytes : RandomBytes count) :
    trimSpace (randomText bytes) = randomText bytes := by
  apply trimSpace_of_clean
  intro c member
  rw [randomText, hexText, String.toList_ofList] at member
  obtain ⟨byte, -, digit⟩ := List.mem_flatMap.mp member
  have bound : byte.toNat < 256 := byte.toNat_lt
  cases digit with
  | head => exact isSpace_hexDigit (by omega)
  | tail _ digit =>
    obtain rfl := List.mem_singleton.mp digit
    exact isSpace_hexDigit (by omega)

theorem randomText_ne_empty (token : RandomBytes 24) : randomText token ≠ "" := by
  intro empty
  have length := token.property
  rw [hexText_eq_empty.mp empty] at length
  cases length

/-! ### Agreement -/

/-- After any calls, the listing and the check of a token agree exactly if the grant of the token
is not merely used up. -/
theorem listing_agrees_iff (hashToken : String → String) (initial : Table String (Option Grant))
    (operations : List Operation) (createdBy : String) (token : RandomBytes 24) (now : Int) :
    (∀ grant, Reported (storeAfter hashToken initial operations) createdBy now
        (hashToken (randomText token)) grant ↔
      Valid hashToken (storeAfter hashToken initial operations) now (randomText token) grant) ↔
    ∀ grant, (storeAfter hashToken initial operations).lookup (hashToken (randomText token)) =
      some (some grant) → ¬grant.UsedUp now := by
  have named : trimSpace (randomText token) ≠ "" := by
    rw [trimSpace_randomText]
    exact randomText_ne_empty token
  apply forall_congr'
  intro grant
  rw [reported_iff, valid_iff named, trimSpace_randomText, isActive_iff]
  constructor
  · intro agree present used
    exact (agree.mp ⟨present, used.1, used.2.1⟩).2.2.2 used
  · intro free
    constructor
    · rintro ⟨present, live, early⟩
      exact ⟨present, live, early, free present⟩
    · rintro ⟨present, live, early, -⟩
      exact ⟨present, live, early⟩

/-- The token `00…00` and the ID `00…00`. -/
def zeroBytes (count : Nat) : RandomBytes count := ⟨List.replicate count 0, List.length_replicate⟩

/-- A link for one use. -/
def onceRequest : LinkRequest :=
  ⟨["device1"], "admin", 60, false, "once", 1⟩

/-- The link is created, and its use is counted. -/
def usedOnce : Table String (Option Grant) :=
  storeAfter id ∅ [.create onceRequest (zeroBytes 24) (zeroBytes 8) 0,
    .call (.touch (randomText (zeroBytes 24)))]

/-- The grant of the link after its use. -/
def onceGrant : Grant :=
  ⟨randomText (zeroBytes 8), ["device1"], "admin", "once", false, 3600, 0, none, 1, 1, "00000000"⟩

/-- A link for one use stays listed after its use, and its token is refused. -/
theorem used_link_listed :
    Reported usedOnce "admin" 1 (randomText (zeroBytes 24)) onceGrant ∧
      ¬Valid id usedOnce 1 (randomText (zeroBytes 24)) onceGrant := by
  have stored : usedOnce.lookup (randomText (zeroBytes 24)) = some (some onceGrant) := by
    decide +kernel
  have named : trimSpace (randomText (zeroBytes 24)) ≠ "" := by
    rw [trimSpace_randomText]
    exact randomText_ne_empty _
  refine ⟨reported_iff.mpr ⟨stored, rfl, by decide⟩, fun valid => ?_⟩
  have active := ((valid_iff named).mp valid).2
  exact (isActive_iff.mp active).2.2 (by decide)

end SovaDesk.GuestAccess
