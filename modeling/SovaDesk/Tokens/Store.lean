/-
This file models the table of device enrolment tokens and the calls of the database
that read and write it.

A token is known by its id and by the hash of its text, both unique. Some calls change
one column under a condition of their own; the call that updates a token writes the
columns of the row it is given, among them the status and the peer, which its caller
read before. The prefix shown in lists, the creator and the times of creation,
revocation and last use are left out, since no modelled function reads them.
-/

import SovaDesk.Lib.Interleave

namespace SovaDesk.Tokens

open Interleave

/-! ### Rows -/

inductive TokenStatus
  | pending
  | active
  | revoked
  | expired
  deriving DecidableEq, Repr

/-- A row of the table of tokens; a limit of zero uses is no limit. -/
structure DeviceToken where
  id : Int
  tokenHash : String
  name : String
  peerID : String := ""
  status : TokenStatus := .pending
  maxUses : Int
  useCount : Nat := 0
  expiresAt : Option Int := none
  note : String := ""
  deriving DecidableEq, Repr

/-- The table: rows under their ids, each hash at most once, and the next id. -/
structure TokenTable where
  rows : Table Int DeviceToken
  nextID : Int
  keyed : ∀ id token, rows.lookup id = some token → token.id = id
  below : ∀ id token, rows.lookup id = some token → id < nextID
  unique : ∀ id other token another, rows.lookup id = some token →
    rows.lookup other = some another → token.tokenHash = another.tokenHash → id = other

namespace TokenTable

/-- The table of a new server. -/
def empty : TokenTable where
  rows := ∅
  nextID := 1
  keyed := fun _ _ found => (nomatch found)
  below := fun _ _ found => (nomatch found)
  unique := fun _ _ _ _ found => (nomatch found)

def byHash (table : TokenTable) (tokenHash : String) : Option DeviceToken :=
  (table.rows.entries.map (·.2)).find? fun token => token.tokenHash == tokenHash

/-- Insert a row under the next id, if its hash is new. -/
def insert (table : TokenTable) (token : DeviceToken)
    (fresh : ∀ id stored, table.rows.lookup id = some stored →
      stored.tokenHash ≠ token.tokenHash) : TokenTable where
  rows := table.rows.insert table.nextID { token with id := table.nextID }
  nextID := table.nextID + 1
  keyed := by
    intro id found lookup
    rcases Table.lookup_insert_iff.mp lookup with ⟨rfl, rfl⟩ | ⟨_, older⟩
    · rfl
    · exact table.keyed id found older
  below := by
    intro id found lookup
    rcases Table.lookup_insert_iff.mp lookup with ⟨rfl, rfl⟩ | ⟨_, older⟩
    · exact Int.lt_succ _
    · exact Int.lt_trans (table.below id found older) (Int.lt_succ _)
  unique := by
    intro id other found another lookup lookupOther same
    rcases Table.lookup_insert_iff.mp lookup with ⟨rfl, rfl⟩ | ⟨_, older⟩ <;>
      rcases Table.lookup_insert_iff.mp lookupOther with ⟨rfl, rfl⟩ | ⟨_, olderOther⟩
    · rfl
    · exact absurd same.symm (fresh other another olderOther)
    · exact absurd same (fresh id found older)
    · exact table.unique id other found another older olderOther same

/-- Change a row, but neither its id nor its hash. -/
def change (table : TokenTable) (id : Int) (change : DeviceToken → DeviceToken)
    (kept : ∀ token, (change token).id = token.id ∧ (change token).tokenHash = token.tokenHash) :
    TokenTable where
  rows := table.rows.update id change
  nextID := table.nextID
  keyed := by
    intro other found lookup
    rw [Table.lookup_update] at lookup
    split at lookup
    · next same =>
      obtain ⟨stored, lookupStored, rfl⟩ := Option.map_eq_some_iff.mp lookup
      rw [same, (kept stored).1]
      exact table.keyed _ stored lookupStored
    · exact table.keyed other found lookup
  below := by
    intro other found lookup
    rw [Table.lookup_update] at lookup
    split at lookup
    · next same =>
      obtain ⟨stored, lookupStored, _⟩ := Option.map_eq_some_iff.mp lookup
      rw [same]
      exact table.below _ stored lookupStored
    · exact table.below other found lookup
  unique := by
    have before : ∀ other found, (table.rows.update id change).lookup other = some found →
        ∃ stored, table.rows.lookup other = some stored ∧
          stored.tokenHash = found.tokenHash := by
      intro other found lookup
      rw [Table.lookup_update] at lookup
      split at lookup
      · next same =>
        obtain ⟨stored, lookupStored, rfl⟩ := Option.map_eq_some_iff.mp lookup
        exact ⟨stored, same ▸ lookupStored, (kept stored).2.symm⟩
      · exact ⟨found, lookup, rfl⟩
    intro first second found another lookup lookupOther same
    obtain ⟨stored, lookupStored, hash⟩ := before first found lookup
    obtain ⟨storedOther, lookupStoredOther, hashOther⟩ := before second another lookupOther
    exact table.unique first second stored storedOther lookupStored lookupStoredOther
      (hash.trans (same.trans hashOther.symm))

theorem lookup_change (table : TokenTable) (id other : Int) (change : DeviceToken → DeviceToken)
    (kept : ∀ token, (change token).id = token.id ∧ (change token).tokenHash = token.tokenHash) :
    (table.change id change kept).rows.lookup other =
      if other = id then (table.rows.lookup id).map change else table.rows.lookup other :=
  Table.lookup_update _ _ _ _

theorem byHash_some {table : TokenTable} {tokenHash : String} {token : DeviceToken}
    (found : table.byHash tokenHash = some token) :
    table.rows.lookup token.id = some token ∧ token.tokenHash = tokenHash := by
  have passes : (token.tokenHash == tokenHash) = true := by
    have first := List.find?_some found
    exact first
  obtain ⟨⟨id, row⟩, entry, rfl⟩ := List.mem_map.mp (List.mem_of_find?_eq_some found)
  have lookup := Table.mem_entries_iff.mp entry
  refine ⟨?_, eq_of_beq passes⟩
  rw [table.keyed id row lookup]
  exact lookup

/-- A row is found by its hash. -/
theorem byHash_of_lookup {table : TokenTable} {id : Int} {token : DeviceToken}
    (lookup : table.rows.lookup id = some token) :
    table.byHash token.tokenHash = some token := by
  cases found : table.byHash token.tokenHash with
  | none =>
    have listed : token ∈ table.rows.entries.map (·.2) :=
      List.mem_map.mpr ⟨⟨id, token⟩, Table.mem_entries_iff.mpr lookup, rfl⟩
    exact absurd (beq_self_eq_true _) (List.find?_eq_none.mp found token listed)
  | some other =>
    obtain ⟨lookupOther, sameHash⟩ := byHash_some found
    have same := table.unique _ _ _ _ lookupOther lookup sameHash
    rw [same] at lookupOther
    exact lookupOther.symm.trans lookup

/-- Change the row with a hash. -/
def changeByHash (table : TokenTable) (tokenHash : String) (change : DeviceToken → DeviceToken)
    (kept : ∀ token, (change token).id = token.id ∧ (change token).tokenHash = token.tokenHash) :
    TokenTable :=
  match table.byHash tokenHash with
  | some token => table.change token.id change kept
  | none => table

end TokenTable

/-! ### Calls -/

/-- The calls of the database that concern tokens; the last one is the write of a validation that
finds a token past its time. -/
inductive TokenCall
  | getDeviceToken (id : Int)
  | getDeviceTokenByHash (tokenHash : String)
  | createDeviceToken (token : DeviceToken)
  | updateDeviceToken (token : DeviceToken)
  | revokeDeviceToken (id : Int)
  | bindTokenToPeer (tokenHash peerID : String)
  | incrementTokenUse (tokenHash : String)
  | expireToken (id : Int)
  deriving DecidableEq

@[reducible] def TokenCall.Answer : TokenCall → Type
  | .getDeviceToken _ | .getDeviceTokenByHash _ => Option DeviceToken
  | .createDeviceToken _ => Int
  | .updateDeviceToken _ | .revokeDeviceToken _ | .bindTokenToPeer _ _ | .incrementTokenUse _
  | .expireToken _ => Unit

/-- The columns an update writes. -/
def written (token stored : DeviceToken) : DeviceToken :=
  { stored with
    name := token.name, peerID := token.peerID, status := token.status
    maxUses := token.maxUses, expiresAt := token.expiresAt, note := token.note }

/-- A pending token becomes the peer's; any other stays as it is. -/
def boundTo (peerID : String) (stored : DeviceToken) : DeviceToken :=
  { stored with
    peerID := if stored.status = .pending then peerID else stored.peerID
    status := if stored.status = .pending then .active else stored.status }

/-- A token past its time is marked, unless it was revoked. -/
def pastItsTime (stored : DeviceToken) : DeviceToken :=
  { stored with status := if stored.status = .revoked then .revoked else .expired }

/-- A call that is not disturbed; a second row of one hash is refused. -/
def TokenCall.perform : (call : TokenCall) → TokenTable → Option (call.Answer × TokenTable)
  | .getDeviceToken id, table => some (table.rows.lookup id, table)
  | .getDeviceTokenByHash tokenHash, table => some (table.byHash tokenHash, table)
  | .createDeviceToken token, table =>
    if known : table.byHash token.tokenHash = none then
      some (table.nextID, table.insert token fun _ _ lookup same =>
        absurd (TokenTable.byHash_of_lookup lookup) (by rw [same, known]; exact nofun))
    else none
  | .updateDeviceToken token, table =>
    some ((), table.change token.id (written token) fun _ => ⟨rfl, rfl⟩)
  | .revokeDeviceToken id, table =>
    some ((), table.change id (fun stored => { stored with status := .revoked })
      fun _ => ⟨rfl, rfl⟩)
  | .bindTokenToPeer tokenHash peerID, table =>
    some ((), table.changeByHash tokenHash (boundTo peerID) fun _ => ⟨rfl, rfl⟩)
  | .incrementTokenUse tokenHash, table =>
    some ((), table.changeByHash tokenHash
      (fun stored => { stored with useCount := stored.useCount + 1 }) fun _ => ⟨rfl, rfl⟩)
  | .expireToken id, table => some ((), table.change id pastItsTime fun _ => ⟨rfl, rfl⟩)

/-- The table of tokens as a store. -/
@[reducible] def tokens : Interface where
  Store := TokenTable
  Call := TokenCall
  Answer := TokenCall.Answer
  perform := TokenCall.perform

end SovaDesk.Tokens
