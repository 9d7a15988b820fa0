/-
This file models the users table and the calls of the database that read and write it.

Every call takes the database's lock, so a call is atomic and nothing wider is. The
call that updates a user writes every mutable column of the row it is given: what a
caller did not mean to change it writes back as it read it. The times of creation and
of the last login are left out, since no modelled function reads them.
-/

import SovaDesk.Lib.Interleave
import SovaDesk.Auth.Roles

namespace SovaDesk.Users

open Interleave Auth

/-! ### Rows -/

def authProviderLocal : String := "local"
def authProviderLDAP : String := "ldap"
def authProviderOIDC : String := "oidc"

/-- A row of the users table; an unset text column reads as the empty text. -/
structure User where
  id : Int
  username : String
  passwordHash : String
  role : String
  isServerAdmin : Bool := false
  authProvider : String := ""
  totpSecret : String := ""
  totpEnabled : Bool := false
  totpRecoveryCodes : String := ""
  deriving DecidableEq, Repr

/-- The row as the database takes it: an account without a provider is a local one. -/
def User.withProvider (user : User) : User :=
  { user with
    authProvider := if user.authProvider = "" then authProviderLocal else user.authProvider }

/-- The table: rows under their ids, and the next id, which no row had before. -/
structure UserTable where
  rows : Table Int User
  nextID : Int
  keyed : ∀ id user, rows.lookup id = some user → user.id = id
  below : ∀ id user, rows.lookup id = some user → id < nextID

namespace UserTable

/-- The table of a new server. -/
def empty : UserTable where
  rows := ∅
  nextID := 1
  keyed := fun _ _ found => (nomatch found)
  below := fun _ _ found => (nomatch found)

/-- The row of a user name. -/
def byName (table : UserTable) (username : String) : Option User :=
  (table.rows.entries.map (·.2)).find? fun user => user.username == username

/-- Every row; the callers only count them, so their order is left open. -/
def all (table : UserTable) : List User := table.rows.entries.map (·.2)

/-- Insert a row under the next id. -/
def insert (table : UserTable) (user : User) : UserTable where
  rows := table.rows.insert table.nextID { user.withProvider with
    id := table.nextID, isServerAdmin := false, totpRecoveryCodes := "" }
  nextID := table.nextID + 1
  keyed := by
    intro id found lookup
    rcases Table.lookup_insert_iff.mp lookup with ⟨rfl, rfl⟩ | ⟨_, older⟩
    · rfl
    · exact table.keyed id found older
  below := by
    intro id found lookup
    rcases Table.lookup_insert_iff.mp lookup with ⟨rfl, rfl⟩ | ⟨_, older⟩
    · exact Int.lt_succ _
    · exact Int.lt_trans (table.below id found older) (Int.lt_succ _)

/-- The row an update leaves in place of the stored one: the name stays, the rest is written. -/
def written (user stored : User) : User :=
  { user.withProvider with id := stored.id, username := stored.username }

/-- Write the mutable columns of the row with the user's id, if there is one. -/
def update (table : UserTable) (user : User) : UserTable where
  rows := table.rows.update user.id (written user)
  nextID := table.nextID
  keyed := by
    intro id found lookup
    rw [Table.lookup_update] at lookup
    split at lookup
    · next same =>
      obtain ⟨stored, lookupStored, rfl⟩ := Option.map_eq_some_iff.mp lookup
      rw [same]
      exact table.keyed _ stored lookupStored
    · exact table.keyed id found lookup
  below := by
    intro id found lookup
    rw [Table.lookup_update] at lookup
    split at lookup
    · next same =>
      obtain ⟨stored, lookupStored, _⟩ := Option.map_eq_some_iff.mp lookup
      rw [same]
      exact table.below _ stored lookupStored
    · exact table.below id found lookup

def delete (table : UserTable) (id : Int) : UserTable where
  rows := table.rows.erase id
  nextID := table.nextID
  keyed := fun other found lookup => table.keyed other found (Table.lookup_erase_iff.mp lookup).2
  below := fun other found lookup => table.below other found (Table.lookup_erase_iff.mp lookup).2

theorem lookup_of_mem_all {table : UserTable} {user : User} (member : user ∈ table.all) :
    table.rows.lookup user.id = some user := by
  obtain ⟨⟨id, found⟩, entry, rfl⟩ := List.mem_map.mp member
  have lookup := Table.mem_entries_iff.mp entry
  rw [table.keyed id found lookup]
  exact lookup

theorem lookup_of_byName {table : UserTable} {username : String} {user : User}
    (found : table.byName username = some user) : table.rows.lookup user.id = some user :=
  lookup_of_mem_all (List.mem_of_find?_eq_some found)

end UserTable

/-! ### Calls -/

/-- The calls of the database that concern users. -/
inductive UserCall
  | getUser (username : String)
  | getUserByID (id : Int)
  | listUsers
  | createUser (user : User)
  | updateUser (user : User)
  | deleteUser (id : Int)
  | updateUserLogin (id : Int)
  deriving DecidableEq

@[reducible] def UserCall.Answer : UserCall → Type
  | .getUser _ => Option User
  | .getUserByID _ => Option User
  | .listUsers => List User
  | .createUser _ => Int
  | .updateUser _ => Unit
  | .deleteUser _ => Unit
  | .updateUserLogin _ => Unit

/-- A call that is not disturbed; a second row of one user name is refused. -/
def UserCall.perform : (call : UserCall) → UserTable → Option (call.Answer × UserTable)
  | .getUser username, table => some (table.byName username, table)
  | .getUserByID id, table => some (table.rows.lookup id, table)
  | .listUsers, table => some (table.all, table)
  | .createUser user, table =>
    if (table.byName user.username).isSome then none
    else some (table.nextID, table.insert user)
  | .updateUser user, table => some ((), table.update user)
  | .deleteUser id, table => some ((), table.delete id)
  | .updateUserLogin _, table => some ((), table)

/-- The users table as a store. -/
@[reducible] def users : Interface where
  Store := UserTable
  Call := UserCall
  Answer := UserCall.Answer
  perform := UserCall.perform

end SovaDesk.Users
