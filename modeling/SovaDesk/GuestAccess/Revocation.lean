/-
This file settles when the revocation of a guest link is permanent.

A revocation writes the grant back with the time at which it was revoked. Counting a use
writes back the grant that was read before, so a use that is counted across a revocation
takes the revocation back. An observer of the run keeps the hashes that were marked as
revoked, those for which the caller was told so, and what had been revoked when a call
began. A revocation is permanent as long as no use is counted with a grant that was read
before the grant was marked.
-/

import SovaDesk.GuestAccess.Grants

namespace SovaDesk.GuestAccess

open Auth Interleave Transition

/-! ### What is observed -/

/-- The hashes whose grants `RevokeByID` has marked, those for which it has returned true, those for
which it had when a running call began, and those that a later call has honoured. -/
structure Record where
  marked : List String
  revoked : List String
  before : Table Nat (List String)
  honoured : List String

/-- What had been revoked when a call began. -/
def Record.revokedBefore (record : Record) (thread : Nat) : List String :=
  (record.before.lookup thread).getD []

/-- The hashes of the grants that a call returns. -/
def honouredBy (hashToken : String → String) : Request → Result → List String
  | .validate token _ _, .grant (some _) => [hashToken (trimSpace token)]
  | _, .listed grants => grants.map (·.1)
  | _, _ => []

def watching (hashToken : String → String) : Observer guests Request Result Record where
  began thread _ record :=
    { record with before := record.before.insert thread record.revoked }
  called _ request call answer _ record :=
    match request, call, answer with
    | .revokeByID _ _ _ _, .setConfig hash _, some _ =>
      { record with marked := hash :: record.marked }
    | _, _, _ => record
  ended thread request result record :=
    { record with
      revoked :=
        match result with
        | .revoked (some hash) => hash :: record.revoked
        | _ => record.revoked
      honoured :=
        (honouredBy hashToken request result).filter (· ∈ record.revokedBefore thread) ++
          record.honoured }

/-- Nothing has been observed. -/
def Record.blank : Record where
  marked := []
  revoked := []
  before := ∅
  honoured := []

/-- Runs over any store of grants. -/
def linking (hashToken : String → String) : System (Pool guests Request Result Record)
    (Label Request) :=
  interleaving (handle hashToken) (watching hashToken) fun _ record => record = .blank

/-- No grant is accepted or listed by a call that began after `RevokeByID` had returned true for
it. -/
def Permanent (pool : Pool guests Request Result Record) : Prop :=
  ∀ hash, hash ∉ pool.ghost.honoured

/-- A call that counts a use does not write back an unrevoked grant after the grant has been
marked. -/
def CallInTime (record : Record) : Request → ConfigCall → Prop
  | .touch _, .setConfig hash grant => hash ∈ record.marked → grant.revokedAt.isSome
  | _, _ => True

instance (record : Record) :
    (request : Request) → (call : ConfigCall) → Decidable (CallInTime record request call)
  | .touch _, .setConfig hash grant =>
    inferInstanceAs (Decidable (hash ∈ record.marked → grant.revokedAt.isSome))
  | .touch _, .getConfig _ | .touch _, .deleteConfig _ | .touch _, .listConfigByPrefix
  | .validate _ _ _, _ | .revokeByID _ _ _ _, _ | .listActive _ _ _, _ => .isTrue trivial

/-- The condition: uses are counted in time. -/
def CountsInTime (pool : Pool guests Request Result Record) : Label Request → Prop
  | .begin _ _ => True
  | .turn thread _ =>
    ∀ call ∈ pool.nextCall thread, CallInTime pool.ghost call.1 call.2

instance (pool : Pool guests Request Result Record) :
    (label : Label Request) → Decidable (CountsInTime pool label)
  | .begin _ _ => .isTrue trivial
  | .turn thread _ => inferInstanceAs (Decidable (∀ call ∈ pool.nextCall thread, CallInTime _ _ _))

/-! ### Where a call stands -/

variable {hashToken : String → String}

/-- Where the program of a call may stand: a call that began after a revocation has not been given
the grant. -/
inductive Stands (hashToken : String → String) (record : Record) (thread : Nat) :
    Request → Program guests Result → Prop
  | first (request : Request) : Stands hashToken record thread request (handle hashToken request)
  | validated {token peerID : String} {now : Int} {grant : Option Grant}
      (refused : hashToken (trimSpace token) ∈ record.revokedBefore thread → grant = none) :
      Stands hashToken record thread (.validate token peerID now) (.done (.grant grant))
  | discards {token peerID : String} {now : Int} (hash : String) :
      Stands hashToken record thread (.validate token peerID now) (discard hash)
  | counts {token : String} (hash : String) (grant : Grant) :
      Stands hashToken record thread (.touch token)
        (.call (.setConfig hash grant) fun saved => .done (.touched saved.isSome))
  | counted {token : String} (succeeded : Bool) :
      Stands hashToken record thread (.touch token) (.done (.touched succeeded))
  | revokes {id createdBy : String} {admin : Bool} {now : Int} (hash : String) (grant : Grant) :
      Stands hashToken record thread (.revokeByID id createdBy admin now)
        (saveRevoked hash grant now)
  | revoked {id createdBy : String} {admin : Bool} {now : Int} {hash : Option String}
      (marked : ∀ revoked ∈ hash, revoked ∈ record.marked) :
      Stands hashToken record thread (.revokeByID id createdBy admin now) (.done (.revoked hash))
  | listed {createdBy : String} {admin : Bool} {now : Int} {grants : List (String × Grant)}
      (unrevoked : ∀ entry ∈ grants, entry.1 ∉ record.revokedBefore thread) :
      Stands hashToken record thread (.listActive createdBy admin now) (.done (.listed grants))

/-- The store keeps what was marked: a grant under a marked hash is revoked. -/
structure Keeps (store : Table String (Option Grant)) (record : Record) : Prop where
  stored : ∀ hash ∈ record.marked, ∀ grant, store.lookup hash = some (some grant) →
    grant.revokedAt.isSome
  revoked : ∀ hash ∈ record.revoked, hash ∈ record.marked
  before : ∀ thread, ∀ hash ∈ record.revokedBefore thread, hash ∈ record.marked
  honoured : record.honoured = []

section steps

variable {store : Table String (Option Grant)} {record : Record} {thread : Nat} {request : Request}

theorem revokedBefore_began (other : Nat) :
    ((watching hashToken).began thread request record).revokedBefore other =
      if other = thread then record.revoked else record.revokedBefore other := by
  unfold Record.revokedBefore watching
  dsimp only
  rw [Table.lookup_insert_if]
  split <;> rfl

variable {hash : String} {grant : Grant}

/-- What a call notes. -/
theorem called_marks (reply : Unit)
    (revokes : ∃ id createdBy admin now, request = .revokeByID id createdBy admin now) :
    (watching hashToken).called thread request (.setConfig hash grant) (some reply) store record =
      { record with marked := hash :: record.marked } := by
  obtain ⟨id, createdBy, admin, now, rfl⟩ := revokes
  rfl

variable {program : Program guests Result}

/-- More marks do not matter for where a call stands. -/
theorem Stands.marked {after : Record} (stands : Stands hashToken record thread request program)
    (before : after.revokedBefore thread = record.revokedBefore thread)
    (marked : ∀ hash ∈ record.marked, hash ∈ after.marked) :
    Stands hashToken after thread request program := by
  cases stands with
  | first => exact .first _
  | validated refused => exact .validated (before ▸ refused)
  | discards hash => exact .discards hash
  | counts hash grant => exact .counts hash grant
  | counted succeeded => exact .counted succeeded
  | revokes hash grant => exact .revokes hash grant
  | revoked isMarked => exact .revoked fun hash member => marked hash (isMarked hash member)
  | listed unrevoked => exact .listed (before ▸ unrevoked)

/-- A grant that is read after it has been marked is revoked. -/
theorem Keeps.read (keeps : Keeps store record)
    (marked : hash ∈ record.marked) (read : (store.lookup hash).join = some grant) :
    grant.revokedAt.isSome :=
  keeps.stored hash marked grant (Option.join_eq_some_iff.mp read)

variable {call : ConfigCall} {answer : Option call.Answer} {fails : Bool}
  {next : Option call.Answer → Program guests Result} {after : Table String (Option Grant)}

theorem stands_validate (keeps : Keeps store record) {token peerID : String} {now : Int}
        (isCall : validate hashToken token peerID now = .call call next)
    (attempted : guests.attempt fails call store = (answer, after)) :
    after = store ∧ Stands hashToken record thread (.validate token peerID now) (next answer) := by
  unfold validate at isCall
  dsimp only at isCall
  split at isCall
  · exact (nomatch isCall)
  · cases isCall
    rcases Interface.attempt_cases attempted with ⟨rfl, rfl⟩ | ⟨reply, _, performed, rfl⟩
    · exact ⟨rfl, .validated fun _ => rfl⟩
    · obtain ⟨rfl, rfl⟩ := Prod.mk.inj (Option.some.inj performed)
      refine ⟨rfl, ?_⟩
      dsimp only
      split
      · next grant read =>
        split
        · split
          · exact .discards _
          · exact .validated fun _ => rfl
        · next active =>
          split
          · exact .validated fun _ => rfl
          · refine .validated fun late => ?_
            -- a grant that was revoked before this call began is not active
            have revoked := keeps.read (keeps.before thread _ late) (Option.some.inj read)
            exact nomatch (Grant.isActive_of_revoked revoked now).symm.trans active
      · exact .validated fun _ => rfl

/-- The next stand of a count: the grant is written back as it was read. -/
theorem stands_touch {token : String} (isCall : touch hashToken token = .call call next)
    (attempted : guests.attempt fails call store = (answer, after)) :
    after = store ∧ Stands hashToken record thread (.touch token) (next answer) := by
  unfold touch at isCall
  dsimp only at isCall
  split at isCall
  · exact (nomatch isCall)
  · cases isCall
    rcases Interface.attempt_cases attempted with ⟨rfl, rfl⟩ | ⟨reply, _, performed, rfl⟩
    · exact ⟨rfl, .counted false⟩
    · obtain ⟨rfl, rfl⟩ := Prod.mk.inj (Option.some.inj performed)
      refine ⟨rfl, ?_⟩
      dsimp only
      split
      · exact .counts _ _
      · exact .counted false

/-- The next stand of a revocation. -/
theorem stands_revokeByID {id createdBy : String} {admin : Bool} {now : Int}
    (answer : Option (List (String × Option Grant))) :
    ∀ next, revokeByID id createdBy admin now = .call .listConfigByPrefix next →
      Stands hashToken record thread (.revokeByID id createdBy admin now) (next answer) := by
  rintro next isCall
  cases isCall
  dsimp only
  split
  · exact .revoked nofun
  · split
    · exact .revoked nofun
    · exact .revokes _ _

/-- The next stand of a listing: it lists no grant that was revoked before it began. -/
theorem stands_listActive (keeps : Keeps store record) {createdBy : String} {admin : Bool}
    {now : Int} {answer : Option (List (String × Option Grant))}
    (read : ∀ entries, answer = some entries →
      entries = store.entries.map fun entry => (entry.1, entry.2)) :
    ∀ next, listActive createdBy admin now = .call .listConfigByPrefix next →
      Stands hashToken record thread (.listActive createdBy admin now) (next answer) := by
  rintro next isCall
  cases isCall
  refine .listed fun listed member late => ?_
  obtain ⟨⟨hash, stored⟩, present, shown⟩ := List.mem_filterMap.mp member
  obtain ⟨grant, passed, rfl⟩ := Option.map_eq_some_iff.mp shown
  obtain ⟨rfl, isListed⟩ := Option.filter_eq_some_iff.mp passed
  cases answer with
  | none => exact absurd present List.not_mem_nil
  | some entries =>
    rw [Option.getD_some, read entries rfl] at present
    obtain ⟨entry, isEntry, same⟩ := List.mem_map.mp present
    obtain ⟨rfl, value⟩ := Prod.mk.inj same
    have found : store.lookup entry.1 = some (some grant) :=
      (Table.mem_entries_iff.mp isEntry).trans (congrArg some value)
    have revoked := keeps.stored _ (keeps.before thread _ late) grant found
    unfold Grant.isListed at isListed
    rw [Option.isSome_iff_ne_none] at revoked
    simp_all

/-- A revocation that writes marks the grant. -/
def marks : Request → ConfigCall → Bool
  | .revokeByID _ _ _ _, .setConfig _ _ => true
  | _, _ => false

/-- All other calls note nothing. -/
theorem called_of_other (other : marks request call = false) :
    (watching hashToken).called thread request call answer store record = record := by
  cases request with
  | revokeByID id createdBy admin now =>
    cases call with
    | setConfig hash grant => exact absurd other Bool.noConfusion
    | _ => rfl
  | _ => rfl

/-- A write keeps the store in order, if it does not put an unrevoked grant in the place of a marked
one. -/
theorem Keeps.insert (keeps : Keeps store record)
    (inTime : hash ∈ record.marked → grant.revokedAt.isSome) :
    Keeps (store.insert hash (some grant)) record where
  stored other marked found isFound := by
    rcases Table.lookup_insert_iff.mp isFound with ⟨rfl, same⟩ | ⟨_, older⟩
    · obtain rfl := Option.some.inj same
      exact inTime marked
    · exact keeps.stored other marked found older
  revoked := keeps.revoked
  before := keeps.before
  honoured := keeps.honoured

theorem Keeps.erase (keeps : Keeps store record) (hash : String) :
    Keeps (store.erase hash) record where
  stored other marked found isFound :=
    keeps.stored other marked found (Table.lookup_erase_iff.mp isFound).2
  revoked := keeps.revoked
  before := keeps.before
  honoured := keeps.honoured

/-- A revoked grant that is written may be marked. -/
theorem Keeps.mark (keeps : Keeps store record) (revoked : grant.revokedAt.isSome) :
    Keeps (store.insert hash (some grant)) { record with marked := hash :: record.marked } where
  stored other marked found isFound := by
    rcases Table.lookup_insert_iff.mp isFound with ⟨rfl, same⟩ | ⟨different, older⟩
    · obtain rfl := Option.some.inj same
      exact revoked
    · exact keeps.stored other ((List.mem_cons.mp marked).resolve_left different) found older
  revoked other member := List.mem_cons_of_mem _ (keeps.revoked other member)
  before thread other member := List.mem_cons_of_mem _ (keeps.before thread other member)
  honoured := keeps.honoured

/-- A call in time keeps the store in order and stands where it may. -/
theorem Stands.called (keeps : Keeps store record)
    (stands : Stands hashToken record thread request program)
        (isCall : program = .call call next) (inTime : CallInTime record request call)
        (attempted : guests.attempt fails call store = (answer, after)) :
    Keeps after ((watching hashToken).called thread request call answer store record) ∧
      Stands hashToken ((watching hashToken).called thread request call answer store record) thread
        request (next answer) := by
  cases stands with
  | first =>
    cases request with
    | validate token peerID now =>
      rw [called_of_other rfl]
      obtain ⟨rfl, stands⟩ : after = store ∧ Stands hashToken record thread _ (next answer) :=
        stands_validate keeps isCall attempted
      exact ⟨keeps, stands⟩
    | touch token =>
      rw [called_of_other rfl]
      obtain ⟨rfl, stands⟩ : after = store ∧ Stands hashToken record thread _ (next answer) :=
        stands_touch isCall attempted
      exact ⟨keeps, stands⟩
    | revokeByID id createdBy admin now =>
      have first : call = .listConfigByPrefix := by
        cases isCall
        rfl
      subst first
      rw [called_of_other rfl]
      have same : after = store := by
        rcases Interface.attempt_cases attempted with ⟨_, rfl⟩ | ⟨reply, _, performed, _⟩
        · rfl
        · exact (Prod.mk.inj (Option.some.inj performed)).2.symm
      exact ⟨same ▸ keeps, stands_revokeByID answer next isCall⟩
    | listActive createdBy admin now =>
      have first : call = .listConfigByPrefix := by
        cases isCall
        rfl
      subst first
      rw [called_of_other rfl]
      rcases Interface.attempt_cases attempted with ⟨rfl, rfl⟩ | ⟨reply, _, performed, rfl⟩
      · exact ⟨keeps, stands_listActive keeps (fun _ unread =>
          absurd unread (Option.some_ne_none _).symm) next isCall⟩
      · obtain ⟨rfl, rfl⟩ := Prod.mk.inj (Option.some.inj performed)
        refine ⟨keeps, stands_listActive keeps (fun entries same => ?_) next isCall⟩
        exact (Option.some.inj same).symm
  | validated => exact (nomatch isCall)
  | discards hash =>
    cases isCall
    rw [called_of_other rfl]
    refine ⟨?_, .validated fun _ => rfl⟩
    rcases Interface.attempt_cases attempted with ⟨_, rfl⟩ | ⟨reply, _, performed, _⟩
    · exact keeps
    · obtain ⟨_, rfl⟩ := Prod.mk.inj (Option.some.inj performed)
      exact keeps.erase hash
  | counts hash grant =>
    cases isCall
    rw [called_of_other rfl]
    refine ⟨?_, .counted _⟩
    rcases Interface.attempt_cases attempted with ⟨_, rfl⟩ | ⟨reply, _, performed, _⟩
    · exact keeps
    · obtain ⟨_, rfl⟩ := Prod.mk.inj (Option.some.inj performed)
      exact keeps.insert inTime
  | counted => exact (nomatch isCall)
  | revokes hash grant =>
    cases isCall
    rcases Interface.attempt_cases attempted with ⟨rfl, rfl⟩ | ⟨reply, _, performed, rfl⟩
    · have unmarked : ∀ revoked ∈ (none : Option String), revoked ∈ record.marked := nofun
      exact ⟨keeps, .revoked unmarked⟩
    · obtain ⟨_, rfl⟩ := Prod.mk.inj (Option.some.inj performed)
      rw [called_marks reply ⟨_, _, _, _, rfl⟩]
      refine ⟨keeps.mark rfl, .revoked fun revoked member => ?_⟩
      obtain rfl := Option.some.inj member
      exact List.mem_cons_self
  | revoked => exact (nomatch isCall)
  | listed => exact (nomatch isCall)

/-- A call that returns says of a grant that it is revoked only after marking it, and does not
return a grant that had been revoked before. -/
theorem Stands.ended {result : Result}
    (stands : Stands hashToken record thread request program) (isDone : program = .done result) :
    (∀ hash, result = .revoked (some hash) → hash ∈ record.marked) ∧
      ∀ hash ∈ honouredBy hashToken request result, hash ∉ record.revokedBefore thread := by
  cases stands with
  | first =>
    cases request with
    | validate token peerID now =>
      have unwrapped : validate hashToken token peerID now = .done result := isDone
      unfold validate at unwrapped
      dsimp only at unwrapped
      split at unwrapped
      · cases unwrapped
        exact ⟨nofun, fun _ member => absurd member List.not_mem_nil⟩
      · exact (nomatch unwrapped)
    | touch token =>
      have unwrapped : touch hashToken token = .done result := isDone
      unfold touch at unwrapped
      dsimp only at unwrapped
      split at unwrapped
      · cases unwrapped
        exact ⟨nofun, fun _ member => absurd member List.not_mem_nil⟩
      · exact (nomatch unwrapped)
    | revokeByID | listActive => exact (nomatch isDone)
  | @validated token peerID now grant refused =>
    cases isDone
    refine ⟨nofun, fun hash member late => ?_⟩
    cases grant with
    | none => exact absurd member List.not_mem_nil
    | some grant =>
      obtain rfl := List.mem_singleton.mp member
      exact (nomatch refused late)
  | counted succeeded =>
    cases isDone
    exact ⟨nofun, fun _ member => absurd member List.not_mem_nil⟩
  | revoked marked =>
    cases isDone
    refine ⟨fun hash same => ?_, fun _ member => absurd member List.not_mem_nil⟩
    exact marked hash (Result.revoked.inj same)
  | listed unrevoked =>
    cases isDone
    refine ⟨nofun, fun hash member => ?_⟩
    obtain ⟨entry, isEntry, rfl⟩ := List.mem_map.mp member
    exact unrevoked entry isEntry
  | discards | counts | revokes => exact (nomatch isDone)

end steps

/-! ### Every run -/

theorem revocation_obligations (hashToken : String → String) :
    Obligations (handle hashToken) (watching hashToken) CountsInTime Keeps
      fun _ record thread request program => Stands hashToken record thread request program where
  begins := by
    intro store record thread request keeps
    refine ⟨⟨keeps.stored, keeps.revoked, fun other hash member => ?_, keeps.honoured⟩,
      .first request, fun other different another program stands => ?_⟩
    · rw [revokedBefore_began] at member
      split at member
      · exact keeps.revoked hash member
      · exact keeps.before other hash member
    · refine stands.marked ?_ fun hash member => member
      rw [revokedBefore_began, if_neg different]
  calls := by
    intro pool thread fails request call next inTime found keeps stands answer after attempted
    obtain ⟨kept, moved⟩ :=
      stands.called keeps rfl (inTime _ (Pool.nextCall_of_lookup found)) attempted
    refine ⟨kept, moved, fun other different another program standing => ?_⟩
    cases noted : marks request call with
    | false =>
      rw [called_of_other noted]
      exact standing
    | true =>
      cases request with
      | revokeByID id createdBy admin now =>
        cases call with
        | setConfig hash grant =>
          cases answer with
          | none => exact standing
          | some reply =>
            rw [called_marks reply ⟨_, _, _, _, rfl⟩]
            exact standing.marked rfl fun marked member => List.mem_cons_of_mem _ member
        | getConfig | deleteConfig | listConfigByPrefix => exact (nomatch noted)
      | validate | touch | listActive => exact (nomatch noted)
  ends := by
    intro store record thread request result keeps stands
    obtain ⟨told, unhonoured⟩ := stands.ended rfl
    refine ⟨⟨keeps.stored, fun hash member => ?_, keeps.before, ?_⟩,
      fun other different another program standing => standing.marked rfl fun _ member => member⟩
    · dsimp only [watching] at member
      split at member
      · next revoked =>
        rcases List.mem_cons.mp member with rfl | older
        · exact told _ rfl
        · exact keeps.revoked hash older
      · exact keeps.revoked hash member
    · dsimp only [watching]
      rw [keeps.honoured, List.append_nil, List.filter_eq_nil_iff]
      exact fun hash member => by simpa using unhonoured hash member

/-- In every run in which uses are counted in time, revocation is permanent. -/
theorem permanent_of_countsInTime (hashToken : String → String)
    {pool : Pool guests Request Result Record}
    (reached : ReachableWhen (linking hashToken) CountsInTime pool) : Permanent pool := by
  have starts : ∀ (store : Table String (Option Grant)) (record : Record), record = .blank →
      Keeps store record := by
    rintro store _ rfl
    exact ⟨fun _ unmarked => absurd unmarked List.not_mem_nil,
      fun _ unrevoked => absurd unrevoked List.not_mem_nil,
      fun _ _ unseen => absurd unseen List.not_mem_nil, rfl⟩
  obtain ⟨keeps, _⟩ := (revocation_obligations hashToken).invariant starts reached
  intro hash member
  rw [keeps.honoured] at member
  exact List.not_mem_nil member

/-! ### A use that is counted across a revocation -/

def guestToken : String := "3f9a1c0d5e7b82640a9c1f3e5d7b8a604c2e1f0a9b8d7c65"

/-- The hash of this token: the first half of its SHA-256 sum. -/
def guestHash (_ : String) : String := "1e00a75d0d39cea9da8d73a6e7da8d4845ad19260b053e3f"

def guestGrant : Grant where
  id := "9c41d2e07b3f5a68"
  peerIDs := ["device-1"]
  createdBy := "operator"
  label := ""
  viewOnly := false
  expiresAt := 3600
  createdAt := 0
  revokedAt := none
  maxUses := 0
  useCount := 0
  tokenPrefix := "3f9a1c0d"

/-- One grant, and no calls. -/
def guestPool : Pool guests Request Result Record where
  store := (∅ : Table String (Option Grant)).insert (guestHash guestToken) (some guestGrant)
  running := ∅
  ghost := .blank

theorem guestPool_start : (linking guestHash).start guestPool := ⟨rfl, rfl⟩

def revokeGuest : Request := .revokeByID guestGrant.id "operator" false 60

/-- A use is counted with the grant that was read before it was revoked. -/
def countedAcross : List (Label Request) :=
  [.begin 0 (.touch guestToken), .turn 0 false, .begin 1 revokeGuest, .turn 1 false, .turn 1 false,
    .turn 0 false, .begin 2 (.validate guestToken "device-1" 120), .turn 2 false]

/-- The same calls, the use counted before the revocation. -/
def countedBefore : List (Label Request) :=
  [.begin 0 (.touch guestToken), .turn 0 false, .turn 0 false, .begin 1 revokeGuest, .turn 1 false,
    .turn 1 false, .begin 2 (.validate guestToken "device-1" 120), .turn 2 false]

/-- The grant is accepted again after it has been revoked. -/
theorem revocation_takenBack :
    ¬ ∀ pool, Reachable (linking guestHash) pool → Permanent pool := by
  intro always
  have ran : ((linking guestHash).run guestPool countedAcross).any
      (fun pool => pool.ghost.honoured.contains (guestHash guestToken)) = true := by decide
  obtain ⟨pool, reached, honoured⟩ := exists_reachable_of_run guestPool_start ran
  exact always pool reached (guestHash guestToken) (List.contains_iff_mem.mp honoured)

/-- Counted before, the revocation is permanent. -/
theorem permanent_of_countsInTime_before :
    ∃ pool, ReachableWhen (linking guestHash) CountsInTime pool ∧
      guestHash guestToken ∈ pool.ghost.revoked ∧ Permanent pool := by
  have ran : ((linking guestHash).runWhen CountsInTime guestPool countedBefore).any
      (fun pool => pool.ghost.revoked.contains (guestHash guestToken)) = true := by decide
  obtain ⟨pool, reached, revoked⟩ := exists_reachableWhen_of_runWhen guestPool_start ran
  exact ⟨pool, reached, List.contains_iff_mem.mp revoked,
    permanent_of_countsInTime guestHash reached⟩

end SovaDesk.GuestAccess
