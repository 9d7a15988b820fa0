/-
This file says when the network policy of a device is served fresh from the cache.

The resolver keeps two caches under one lock: the policies of organizations and those of
devices. The policy of an organization is read and stored in one critical section, so an
invalidation comes before the read or after the store. The policy of a device is stored in
a critical section of its own, which comes later: a reader that obtained the old policy
before an update and its invalidation stores it afterwards, and it is served for a minute.
A read of the database that fails is taken for an empty policy, which permits everything,
and is stored like any other.
-/

import SovaDesk.Lib.System
import SovaDesk.Lib.Table

namespace SovaDesk.Policy

open Transition

/-! ### Policies and caches -/

/-- The policy of an organization; the zero value permits everything. -/
structure NetworkSettings where
  blockDirectP2P : Bool := false
  allowedRelayServers : List String := []
  ipAllowlist : List String := []
  deriving DecidableEq

/-- An entry of a cache. `hidden` notes, for the statements only, that the entry stems from a read
that failed although there was a policy to read. -/
structure CachedEntry where
  settings : NetworkSettings
  expires : Nat
  hidden : Bool

/-- A thread, that is, one call of `SettingsForDevice`. -/
abbrev ThreadId := Nat

/-- Where a call stands: each stage is named by what comes next. A call that holds the lock reads
the database or stores an entry for the organization. -/
inductive Stage
  | toLookup
  | toOrgID
  | toLock (orgID : String)
  | toRead (orgID : String)
  | toCache (orgID : String) (settings : NetworkSettings) (hidden : Bool)
  | toStore (settings : NetworkSettings) (hidden : Bool)
  deriving DecidableEq

/-- A call. `held` notes the policies that its organization has had since the last invalidation
before the call began. -/
structure Call where
  deviceID : String
  stage : Stage
  held : List NetworkSettings

/-- A call that has returned: what it was asked for and what it answered, the policies its
organization had had, whether a failed read hid one, and the policy at the moment of the answer. -/
structure Answer where
  deviceID : String
  settings : NetworkSettings
  held : List NetworkSettings
  hidden : Bool
  current : NetworkSettings

/-- The resolver with the settings it reads. `lock` names the call within the critical section of
`settingsForOrg`, and `held` the policies that an organization has had since the resolver dropped
its entry last. -/
structure State where
  now : Nat
  rows : Table String String
  org : Table String CachedEntry
  dev : Table String CachedEntry
  lock : Option ThreadId
  calls : Table ThreadId Call
  held : String → List NetworkSettings
  answers : List Answer

/-- The lifetime of an entry, in seconds. -/
def ttl : Nat := 60

section resolver

variable (decode : String → NetworkSettings) (orgOf : String → String)

/-- What `settingsForOrg` makes of the row of an organization, given what a text decodes to. -/
def policyOf (rows : Table String String) (orgID : String) : NetworkSettings :=
  if orgID = "" then {}
  else
    match rows.lookup orgID with
    | none => {}
    | some raw => if raw = "" then {} else decode raw

/-- The organization of a device, if it has one; no device has the empty ID. -/
def organization (deviceID : String) : String :=
  if deviceID = "" then "" else orgOf deviceID

/-- Note a new policy for a call whose organization it is. -/
def Call.note (orgID : String) (policy : NetworkSettings) (call : Call) : Call :=
  if organization orgOf call.deviceID = orgID then { call with held := policy :: call.held }
  else call

/-! ### The operations -/

namespace State

/-- The entry under a key, unless it has expired. -/
def fresh (now : Nat) (cache : Table String CachedEntry) (key : String) : Option CachedEntry :=
  (cache.lookup key).filter fun entry => now < entry.expires

def setStage (s : State) (c : ThreadId) (call : Call) (stage : Stage) : State :=
  { s with calls := s.calls.insert c { call with stage } }

/-- A call returns. -/
def answer (s : State) (c : ThreadId) (call : Call) (settings : NetworkSettings) (hidden : Bool) :
    State :=
  { s with
    calls := s.calls.erase c
    answers := ⟨call.deviceID, settings, call.held, hidden,
      policyOf decode s.rows (organization orgOf call.deviceID)⟩ :: s.answers }

/-- `SettingsForDevice` begins; an empty ID is answered at once. -/
def begin (s : State) (c : ThreadId) (deviceID : String) : State :=
  let call : Call := ⟨deviceID, .toLookup, s.held (organization orgOf deviceID)⟩
  if deviceID = "" then s.answer decode orgOf c call {} false
  else { s with calls := s.calls.insert c call }

/-- The lookup in the cache of devices. -/
def lookup (s : State) (c : ThreadId) (call : Call) : State :=
  match fresh s.now s.dev call.deviceID with
  | some entry => s.answer decode orgOf c call entry.settings entry.hidden
  | none => s.setStage c call .toOrgID

/-- `GetDeviceOrgID`, whose error is dropped; without an organization there is nothing to read. -/
def readOrgID (s : State) (c : ThreadId) (call : Call) (fails : Bool) : State :=
  let orgID := organization orgOf call.deviceID
  let hides := decide (policyOf decode s.rows orgID ≠ {})
  if fails then s.setStage c call (.toStore {} hides)
  else if orgID = "" then s.setStage c call (.toStore {} false)
  else s.setStage c call (.toLock orgID)

/-- `settingsForOrg` takes the lock and looks the organization up; an entry that is there is
returned and the lock given back. -/
def lockOrg (s : State) (c : ThreadId) (call : Call) (orgID : String) : State :=
  match fresh s.now s.org orgID with
  | some entry => s.setStage c call (.toStore entry.settings entry.hidden)
  | none => { s.setStage c call (.toRead orgID) with lock := some c }

/-- `GetOrgSetting` and the decoding of its text; an error leaves the settings empty. -/
def readOrg (s : State) (c : ThreadId) (call : Call) (orgID : String) (fails : Bool) : State :=
  let policy := policyOf decode s.rows orgID
  if fails then s.setStage c call (.toCache orgID {} (policy ≠ {}))
  else s.setStage c call (.toCache orgID policy false)

/-- The entry of the organization is stored and the lock given back. -/
def cacheOrg (s : State) (c : ThreadId) (call : Call) (orgID : String)
    (settings : NetworkSettings) (hidden : Bool) : State :=
  { s.setStage c call (.toStore settings hidden) with
    org := s.org.insert orgID ⟨settings, s.now + ttl, hidden⟩
    lock := none }

/-- The entry of the device is stored, under the lock, and the call returns. -/
def storeDevice (s : State) (c : ThreadId) (call : Call) (settings : NetworkSettings)
    (hidden : Bool) : State :=
  { s.answer decode orgOf c call settings hidden with
    dev := s.dev.insert call.deviceID ⟨settings, s.now + ttl, hidden⟩ }

/-- `SetOrgSetting` of the network policy. -/
def setOrgSetting (s : State) (orgID raw : String) : State :=
  let rows := s.rows.insert orgID raw
  { s with
    rows
    held := fun id => if id = orgID then policyOf decode rows id :: s.held id else s.held id
    calls := s.calls.mapValues fun _ => Call.note orgOf orgID (policyOf decode rows orgID) }

/-- `InvalidateOrg` drops the entry of the organization and those of all devices. -/
def invalidateOrg (s : State) (orgID : String) : State :=
  { s with
    org := s.org.erase orgID
    dev := ∅
    held := fun id => if id = orgID then [policyOf decode s.rows id] else s.held id }

end State

/-- Whose operation comes next. -/
inductive Label
  | begin (c : ThreadId) (deviceID : String)
  | lookup (c : ThreadId)
  | readOrgID (c : ThreadId) (fails : Bool)
  | lockOrg (c : ThreadId)
  | readOrg (c : ThreadId) (fails : Bool)
  | cacheOrg (c : ThreadId)
  | storeDevice (c : ThreadId)
  | setOrgSetting (orgID raw : String)
  | invalidateOrg (orgID : String)
  | advance (elapsed : Nat)

/-- A call takes its next step, enabled where it stands at it; what needs the lock is enabled while
nobody holds it. -/
def callStep (s : State) (c : ThreadId) (call : Call) : Label → Option State
  | .lookup _ =>
    if call.stage = .toLookup ∧ s.lock = none then some (s.lookup decode orgOf c call) else none
  | .readOrgID _ fails =>
    if call.stage = .toOrgID then some (s.readOrgID decode orgOf c call fails) else none
  | .lockOrg _ =>
    match call.stage with
    | .toLock orgID => if s.lock = none then some (s.lockOrg c call orgID) else none
    | _ => none
  | .readOrg _ fails =>
    match call.stage with
    | .toRead orgID => some (s.readOrg decode c call orgID fails)
    | _ => none
  | .cacheOrg _ =>
    match call.stage with
    | .toCache orgID settings hidden => some (s.cacheOrg c call orgID settings hidden)
    | _ => none
  | .storeDevice _ =>
    match call.stage with
    | .toStore settings hidden =>
      if s.lock = none then some (s.storeDevice decode orgOf c call settings hidden) else none
    | _ => none
  | .begin _ _ | .setOrgSetting _ _ | .invalidateOrg _ | .advance _ => none

/-- The successor of a state under a label. -/
def step (s : State) (label : Label) : Option State :=
  match label with
  | .begin c deviceID =>
    if (s.calls.lookup c).isSome then none else some (s.begin decode orgOf c deviceID)
  | .lookup c | .readOrgID c _ | .lockOrg c | .readOrg c _ | .cacheOrg c | .storeDevice c =>
    (s.calls.lookup c).bind fun call => callStep decode orgOf s c call label
  | .setOrgSetting orgID raw => some (s.setOrgSetting decode orgOf orgID raw)
  | .invalidateOrg orgID => if s.lock = none then some (s.invalidateOrg decode orgID) else none
  | .advance elapsed => some { s with now := s.now + elapsed }

/-- The resolver as it starts, over any settings. -/
def newNetworkResolver (now : Nat) (rows : Table String String) : State where
  now := now
  rows := rows
  org := ∅
  dev := ∅
  lock := none
  calls := ∅
  held orgID := [policyOf decode rows orgID]
  answers := []

/-- The calls of the resolver, the updates and the invalidations, in any order. -/
def resolving : System State Label where
  start s := ∃ now rows, s = newNetworkResolver decode now rows
  step := step decode orgOf

end resolver

/-! ### The property and the condition -/

/-- Every call answers with a policy that its organization had at the last invalidation before the
call began, or has had since; and an answer that stems from a read that failed over a policy finds
the organization without one. -/
structure ServesFresh (s : State) : Prop where
  updated : ∀ answer ∈ s.answers, answer.settings ∈ answer.held
  notEmptied : ∀ answer ∈ s.answers, answer.hidden = true → answer.current = {}

/-- The policy that a call is about to store for its device. -/
def Stage.pending : Stage → Option NetworkSettings
  | .toStore settings _ => some settings
  | _ => none

/-- No read of the database fails over a policy, and what a call stores for a device is a policy
that its organization has had since the last invalidation. -/
def ReadsHold (decode : String → NetworkSettings) (orgOf : String → String) (s : State) :
    Label → Prop
  | .readOrgID c fails | .readOrg c fails => fails = true → ∀ call ∈ s.calls.lookup c,
      policyOf decode s.rows (organization orgOf call.deviceID) = {}
  | .storeDevice c => ∀ call ∈ s.calls.lookup c, ∀ settings ∈ call.stage.pending,
      settings ∈ s.held (organization orgOf call.deviceID)
  | _ => True

instance (decode : String → NetworkSettings) (orgOf : String → String) (s : State) :
    (label : Label) → Decidable (ReadsHold decode orgOf s label)
  | .readOrgID c fails | .readOrg c fails =>
    inferInstanceAs (Decidable (fails = true → ∀ call ∈ s.calls.lookup c, _))
  | .storeDevice c =>
    inferInstanceAs (Decidable (∀ call ∈ s.calls.lookup c, ∀ settings ∈ call.stage.pending, _))
  | .begin _ _ | .lookup _ | .lockOrg _ | .cacheOrg _ | .setOrgSetting _ _ | .invalidateOrg _
  | .advance _ => .isTrue trivial

/-! ### What is kept -/

section kept

variable {decode : String → NetworkSettings} {orgOf : String → String} {s after : State}
  {c : ThreadId} {call : Call}

/-- What a call has read is a policy of its organization, by its stage; it holds the lock from its
read for the organization to the store. -/
def StageHolds (orgOf : String → String) (s : State) (c : ThreadId) (call : Call) : Prop :=
  match call.stage with
  | .toLookup | .toOrgID => True
  | .toLock orgID => orgID = organization orgOf call.deviceID
  | .toRead orgID => orgID = organization orgOf call.deviceID ∧ s.lock = some c
  | .toCache orgID settings hidden => orgID = organization orgOf call.deviceID ∧
      settings ∈ s.held orgID ∧ hidden = false ∧ s.lock = some c
  | .toStore settings hidden => settings ∈ call.held ∧ hidden = false

/-- The policies noted for a call include those of its organization. -/
structure CallSound (orgOf : String → String) (s : State) (c : ThreadId) (call : Call) : Prop where
  held : s.held (organization orgOf call.deviceID) ⊆ call.held
  stage : StageHolds orgOf s c call

/-- Every entry holds a policy that its organization has had since the last invalidation. -/
def EntriesSound (cache : Table String CachedEntry) (held : String → List NetworkSettings)
    (organizationOf : String → String) : Prop :=
  ∀ key entry, cache.lookup key = some entry →
    entry.settings ∈ held (organizationOf key) ∧ entry.hidden = false

structure Sound (decode : String → NetworkSettings) (orgOf : String → String) (s : State) :
    Prop where
  current : ∀ orgID, policyOf decode s.rows orgID ∈ s.held orgID
  org : EntriesSound s.org s.held id
  dev : EntriesSound s.dev s.held (organization orgOf)
  calls : ∀ c call, s.calls.lookup c = some call → CallSound orgOf s c call
  fresh : ServesFresh s

theorem newNetworkResolver_sound (now : Nat) (rows : Table String String) :
    Sound decode orgOf (newNetworkResolver decode now rows) where
  current _ := List.mem_singleton_self _
  org _ _ found := (nomatch found)
  dev _ _ found := (nomatch found)
  calls _ _ found := (nomatch found)
  fresh := ⟨fun _ member => absurd member List.not_mem_nil,
    fun _ member => absurd member List.not_mem_nil⟩

/-- A call is sound as long as its organization's policies and its lock are what they were. -/
theorem CallSound.of_same (sound : CallSound orgOf s c call) (held : after.held = s.held)
    (lock : s.lock = some c → after.lock = some c) : CallSound orgOf after c call := by
  obtain ⟨included, stage⟩ := sound
  refine ⟨held ▸ included, ?_⟩
  unfold StageHolds at stage ⊢
  split at stage
  · trivial
  · trivial
  · exact stage
  · exact ⟨stage.1, lock stage.2⟩
  · exact ⟨stage.1, held ▸ stage.2.1, stage.2.2.1, lock stage.2.2.2⟩
  · exact stage

/-- A step of one call leaves what holds of the others. -/
theorem Sound.moved (sound : Sound decode orgOf s) (rows : after.rows = s.rows)
    (held : after.held = s.held) (org : EntriesSound after.org s.held id)
    (dev : EntriesSound after.dev s.held (organization orgOf))
    (others : ∀ other another, other ≠ c → after.calls.lookup other = some another →
      s.calls.lookup other = some another)
    (own : ∀ call, after.calls.lookup c = some call → CallSound orgOf after c call)
    (lock : ∀ other, other ≠ c → s.lock = some other → after.lock = some other)
    (fresh : ServesFresh after) : Sound decode orgOf after where
  current orgID := by
    rw [rows, held]
    exact sound.current orgID
  org := held ▸ org
  dev := held ▸ dev
  fresh := fresh
  calls other another found := by
    by_cases same : other = c
    · subst same
      exact own another found
    · exact (sound.calls other another (others other another same found)).of_same held
        (lock other same)

theorem EntriesSound.insert {cache : Table String CachedEntry}
    {held : String → List NetworkSettings} {organizationOf : String → String} {key : String}
    {entry : CachedEntry} (sound : EntriesSound cache held organizationOf)
    (member : entry.settings ∈ held (organizationOf key)) (shown : entry.hidden = false) :
    EntriesSound (cache.insert key entry) held organizationOf := by
  intro other found lookup
  rcases Table.lookup_insert_iff.mp lookup with ⟨rfl, rfl⟩ | ⟨-, older⟩
  · exact ⟨member, shown⟩
  · exact sound other found older

theorem EntriesSound.fresh {cache : Table String CachedEntry}
    {held : String → List NetworkSettings} {organizationOf : String → String} {now : Nat}
    {key : String} {entry : CachedEntry} (sound : EntriesSound cache held organizationOf)
    (found : State.fresh now cache key = some entry) :
    entry.settings ∈ held (organizationOf key) ∧ entry.hidden = false :=
  sound key entry (Option.filter_eq_some_iff.mp found).1

theorem lookup_insert_other {calls : Table ThreadId Call} {new : Call} (other : ThreadId)
    (another : Call) (differs : other ≠ c)
    (found : (calls.insert c new).lookup other = some another) :
    calls.lookup other = some another := by
  rwa [AList.lookup_insert_ne differs] at found

/-- A call that goes on to a stage at which what it has read is a policy of its organization. -/
theorem Sound.setStage (sound : Sound decode orgOf s) (found : s.calls.lookup c = some call)
    {stage : Stage} (holds : StageHolds orgOf s c { call with stage }) :
    Sound decode orgOf (s.setStage c call stage) := by
  refine sound.moved (c := c) rfl rfl sound.org sound.dev lookup_insert_other ?_
    (fun _ _ locked => locked) ⟨sound.fresh.updated, sound.fresh.notEmptied⟩
  intro own lookup
  obtain rfl := Table.eq_of_lookup_insert lookup
  exact CallSound.of_same (s := s) ⟨(sound.calls c call found).held, holds⟩ rfl fun locked => locked

variable {settings : NetworkSettings} {hidden : Bool}

/-- An answer with a policy that the call's organization has had. -/
theorem ServesFresh.answer (fresh : ServesFresh s)
    (member : settings ∈ call.held) (shown : hidden = false) :
    ServesFresh (s.answer decode orgOf c call settings hidden) := by
  constructor
  · intro answer listed
    rcases List.mem_cons.mp listed with rfl | older
    · exact member
    · exact fresh.updated answer older
  · intro answer listed isHidden
    rcases List.mem_cons.mp listed with rfl | older
    · exact absurd (shown.symm.trans isHidden) Bool.false_ne_true
    · exact fresh.notEmptied answer older isHidden

theorem lookup_erase_other {calls : Table ThreadId Call} (other : ThreadId) (another : Call)
    (_ : other ≠ c) (found : (calls.erase c).lookup other = some another) :
    calls.lookup other = some another :=
  (Table.lookup_erase_iff.mp found).2

theorem Sound.answer (sound : Sound decode orgOf s)
    (member : settings ∈ call.held) (shown : hidden = false) :
    Sound decode orgOf (s.answer decode orgOf c call settings hidden) := by
  refine sound.moved (c := c) rfl rfl sound.org sound.dev lookup_erase_other ?_
    (fun _ _ locked => locked) (sound.fresh.answer member shown)
  intro own lookup
  exact absurd rfl (Table.lookup_erase_iff.mp lookup).1

/-! ### One lemma for each operation -/

theorem policyOf_none (decode : String → NetworkSettings) (rows : Table String String) :
    policyOf decode rows "" = {} := if_pos rfl

variable {orgID : String}

section

variable (sound : Sound decode orgOf s)

include sound

theorem Sound.begin (c : ThreadId) (deviceID : String) :
    Sound decode orgOf (s.begin decode orgOf c deviceID) := by
  unfold State.begin
  dsimp only
  split
  · next empty =>
    refine sound.answer ?_ rfl
    have none : organization orgOf deviceID = "" := if_pos empty
    have current := sound.current ""
    rw [policyOf_none] at current
    exact none.symm ▸ current
  · refine sound.moved (c := c) rfl rfl sound.org sound.dev lookup_insert_other ?_
      (fun _ _ locked => locked) ⟨sound.fresh.updated, sound.fresh.notEmptied⟩
    intro own lookup
    obtain rfl := Table.eq_of_lookup_insert lookup
    exact ⟨List.Subset.refl _, trivial⟩

theorem Sound.lookup (found : s.calls.lookup c = some call) :
    Sound decode orgOf (s.lookup decode orgOf c call) := by
  unfold State.lookup
  split
  · next entry hit =>
    have cached := sound.dev.fresh hit
    exact sound.answer ((sound.calls c call found).held cached.1) cached.2
  · exact sound.setStage found trivial

theorem Sound.readOrgID (found : s.calls.lookup c = some call)
    {fails : Bool} (reads : fails = true →
      policyOf decode s.rows (organization orgOf call.deviceID) = {}) :
    Sound decode orgOf (s.readOrgID decode orgOf c call fails) := by
  have included := (sound.calls c call found).held
  have current := sound.current (organization orgOf call.deviceID)
  unfold State.readOrgID
  dsimp only
  split
  · next failed =>
    have empty := reads failed
    refine sound.setStage found ⟨included (empty ▸ current), ?_⟩
    rw [decide_eq_false_iff_not, not_not]
    exact empty
  · split
    · next unassigned =>
      rw [unassigned, policyOf_none] at current
      exact sound.setStage found ⟨included (unassigned.symm ▸ current), rfl⟩
    · exact sound.setStage found rfl

theorem Sound.lockOrg (found : s.calls.lookup c = some call)
    (stage : call.stage = .toLock orgID) (free : s.lock = none) :
    Sound decode orgOf (s.lockOrg c call orgID) := by
  obtain ⟨included, holds⟩ := sound.calls c call found
  rw [StageHolds, stage] at holds
  have own : orgID = organization orgOf call.deviceID := holds
  unfold State.lockOrg
  split
  · next entry hit =>
    have cached := sound.org.fresh hit
    exact sound.setStage found ⟨included (own ▸ cached.1), cached.2⟩
  · refine sound.moved (c := c) rfl rfl sound.org sound.dev lookup_insert_other ?_ ?_
      ⟨sound.fresh.updated, sound.fresh.notEmptied⟩
    · intro new lookup
      obtain rfl := Table.eq_of_lookup_insert lookup
      exact ⟨included, own, rfl⟩
    · intro other _ locked
      exact absurd (free.symm.trans locked) (Option.some_ne_none other).symm

theorem Sound.readOrg (found : s.calls.lookup c = some call)
    (stage : call.stage = .toRead orgID) {fails : Bool} (reads : fails = true →
      policyOf decode s.rows (organization orgOf call.deviceID) = {}) :
    Sound decode orgOf (s.readOrg decode c call orgID fails) := by
  obtain ⟨_, holds⟩ := sound.calls c call found
  rw [StageHolds, stage] at holds
  obtain ⟨own, locked⟩ : orgID = organization orgOf call.deviceID ∧ s.lock = some c := holds
  have current := sound.current orgID
  unfold State.readOrg
  dsimp only
  split
  · next failed =>
    have empty : policyOf decode s.rows orgID = {} := own ▸ reads failed
    refine sound.setStage found ⟨own, empty ▸ current, ?_, locked⟩
    rw [decide_eq_false_iff_not, not_not]
    exact empty
  · exact sound.setStage found ⟨own, current, rfl, locked⟩

theorem Sound.cacheOrg (found : s.calls.lookup c = some call)
    (stage : call.stage = .toCache orgID settings hidden) :
    Sound decode orgOf (s.cacheOrg c call orgID settings hidden) := by
  obtain ⟨included, holds⟩ := sound.calls c call found
  rw [StageHolds, stage] at holds
  obtain ⟨own, member, shown, locked⟩ : orgID = organization orgOf call.deviceID ∧
    settings ∈ s.held orgID ∧ hidden = false ∧ s.lock = some c := holds
  refine sound.moved (c := c) rfl rfl (sound.org.insert member shown) sound.dev
    lookup_insert_other ?_ ?_ ⟨sound.fresh.updated, sound.fresh.notEmptied⟩
  · intro new lookup
    obtain rfl := Table.eq_of_lookup_insert lookup
    exact ⟨included, included (own ▸ member), shown⟩
  · intro other differs held
    exact absurd (Option.some.inj (held.symm.trans locked)) differs

theorem Sound.storeDevice (found : s.calls.lookup c = some call)
    (stage : call.stage = .toStore settings hidden)
    (still : settings ∈ s.held (organization orgOf call.deviceID)) :
    Sound decode orgOf (s.storeDevice decode orgOf c call settings hidden) := by
  obtain ⟨included, holds⟩ := sound.calls c call found
  rw [StageHolds, stage] at holds
  obtain ⟨member, shown⟩ : settings ∈ call.held ∧ hidden = false := holds
  have answered := sound.answer (c := c) member shown
  exact answered.moved (c := c) rfl rfl answered.org (answered.dev.insert still shown)
    (fun _ _ _ found => found) (fun own lookup => absurd rfl (Table.lookup_erase_iff.mp lookup).1)
    (fun _ _ locked => locked) ⟨answered.fresh.updated, answered.fresh.notEmptied⟩

end

/-- Another organization's policy is what it was. -/
theorem policyOf_insert_of_ne (rows : Table String String) {other : String} (raw : String)
    (differs : other ≠ orgID) :
    policyOf decode (rows.insert orgID raw) other = policyOf decode rows other := by
  unfold policyOf
  rw [AList.lookup_insert_ne differs]

theorem Sound.setOrgSetting (sound : Sound decode orgOf s) (orgID raw : String) :
    Sound decode orgOf (s.setOrgSetting decode orgOf orgID raw) := by
  have grows : ∀ id, s.held id ⊆ (s.setOrgSetting decode orgOf orgID raw).held id := by
    intro id settings member
    show settings ∈ (if id = orgID then _ else _ : List NetworkSettings)
    split
    · exact List.mem_cons_of_mem _ member
    · exact member
  refine ⟨?_, ?_, ?_, ?_, ⟨sound.fresh.updated, sound.fresh.notEmptied⟩⟩
  · intro id
    show policyOf decode (s.rows.insert orgID raw) id ∈
      (if id = orgID then _ else _ : List NetworkSettings)
    split
    · exact List.mem_cons_self
    · next differs =>
      rw [policyOf_insert_of_ne s.rows raw differs]
      exact sound.current id
  · intro key entry found
    exact ⟨grows _ (sound.org key entry found).1, (sound.org key entry found).2⟩
  · intro key entry found
    exact ⟨grows _ (sound.dev key entry found).1, (sound.dev key entry found).2⟩
  · intro c call found
    have mapped := (Table.lookup_mapValues s.calls
      (fun _ => Call.note orgOf orgID (policyOf decode (s.rows.insert orgID raw) orgID))
      c).symm.trans found
    obtain ⟨old, oldFound, rfl⟩ := Option.map_eq_some_iff.mp mapped
    obtain ⟨included, stage⟩ := sound.calls c old oldFound
    have stages : ∀ held, old.held ⊆ held → StageHolds orgOf
        (s.setOrgSetting decode orgOf orgID raw) c { old with held } := by
      intro held more
      unfold StageHolds at stage ⊢
      dsimp only
      split at stage
      · trivial
      · trivial
      · exact stage
      · exact stage
      · exact ⟨stage.1, grows _ stage.2.1, stage.2.2⟩
      · exact ⟨more stage.1, stage.2⟩
    unfold Call.note
    split
    · next same =>
      refine ⟨?_, stages _ (List.subset_cons_self _ _)⟩
      show (if _ then _ else _ : List NetworkSettings) ⊆ _
      rw [if_pos same, same]
      exact List.cons_subset_cons _ (same ▸ included)
    · next differs =>
      refine ⟨?_, stages old.held (List.Subset.refl _)⟩
      show (if _ then _ else _ : List NetworkSettings) ⊆ _
      rw [if_neg differs]
      exact included

theorem Sound.invalidateOrg (sound : Sound decode orgOf s) (free : s.lock = none)
    (orgID : String) : Sound decode orgOf (s.invalidateOrg decode orgID) := by
  have unlocked : ∀ c, s.lock ≠ some c := fun c locked =>
    Option.some_ne_none c (locked.symm.trans free)
  have shrinks : ∀ id, (s.invalidateOrg decode orgID).held id ⊆ s.held id := by
    intro id settings member
    have listed : settings ∈ (if id = orgID then [policyOf decode s.rows id] else s.held id) :=
      member
    split at listed
    · exact List.mem_singleton.mp listed ▸ sound.current id
    · exact listed
  refine ⟨?_, ?_, fun _ _ found => (nomatch found), ?_,
    ⟨sound.fresh.updated, sound.fresh.notEmptied⟩⟩
  · intro id
    show policyOf decode s.rows id ∈ (if _ then _ else _ : List NetworkSettings)
    split
    · exact List.mem_singleton_self _
    · exact sound.current id
  · intro key entry found
    obtain ⟨differs, older⟩ := Table.lookup_erase_iff.mp found
    have kept : (s.invalidateOrg decode orgID).held (id key) = s.held (id key) := if_neg differs
    rw [kept]
    exact sound.org key entry older
  · intro c call found
    obtain ⟨included, stage⟩ := sound.calls c call found
    refine ⟨fun _ member => included (shrinks _ member), ?_⟩
    unfold StageHolds at stage ⊢
    split at stage
    · trivial
    · trivial
    · exact stage
    · exact absurd stage.2 (unlocked c)
    · exact absurd stage.2.2.2 (unlocked c)
    · exact stage

/-! ### Every run -/

theorem Sound.callStep (sound : Sound decode orgOf s) (found : s.calls.lookup c = some call)
    {label : Label} (own : label = .lookup c ∨ (∃ fails, label = .readOrgID c fails) ∨
      label = .lockOrg c ∨ (∃ fails, label = .readOrg c fails) ∨ label = .cacheOrg c ∨
      label = .storeDevice c)
    (meets : ReadsHold decode orgOf s label)
    (taken : callStep decode orgOf s c call label = some after) : Sound decode orgOf after := by
  rcases own with rfl | ⟨fails, rfl⟩ | rfl | ⟨fails, rfl⟩ | rfl | rfl
  · obtain ⟨_, same⟩ := Option.ite_none_right_eq_some.mp taken
    cases same
    exact sound.lookup found
  · obtain ⟨_, same⟩ := Option.ite_none_right_eq_some.mp taken
    cases same
    exact sound.readOrgID found fun failed => meets failed call found
  · rw [Policy.callStep] at taken
    split at taken
    · next stage =>
      obtain ⟨free, same⟩ := Option.ite_none_right_eq_some.mp taken
      cases same
      exact sound.lockOrg found stage free
    · exact absurd taken (Option.some_ne_none _).symm
  · rw [Policy.callStep] at taken
    split at taken
    · next stage =>
      cases taken
      exact sound.readOrg found stage fun failed => meets failed call found
    · exact absurd taken (Option.some_ne_none _).symm
  · rw [Policy.callStep] at taken
    split at taken
    · next stage =>
      cases taken
      exact sound.cacheOrg found stage
    · exact absurd taken (Option.some_ne_none _).symm
  · rw [Policy.callStep] at taken
    split at taken
    · next settings hidden stage =>
      obtain ⟨_, same⟩ := Option.ite_none_right_eq_some.mp taken
      cases same
      exact sound.storeDevice found stage (meets call found settings (stage ▸ rfl))
    · exact absurd taken (Option.some_ne_none _).symm

/-- A step that meets the condition keeps it. -/
theorem Sound.step (sound : Sound decode orgOf s) {label : Label}
    (meets : ReadsHold decode orgOf s label)
    (taken : Policy.step decode orgOf s label = some after) : Sound decode orgOf after := by
  cases label with
  | begin c deviceID =>
    obtain ⟨_, same⟩ := Option.ite_none_left_eq_some.mp taken
    cases same
    exact sound.begin c deviceID
  | setOrgSetting orgID raw =>
    cases taken
    exact sound.setOrgSetting orgID raw
  | invalidateOrg orgID =>
    obtain ⟨free, same⟩ := Option.ite_none_right_eq_some.mp taken
    cases same
    exact sound.invalidateOrg free orgID
  | advance elapsed =>
    cases taken
    obtain ⟨current, org, dev, calls, fresh⟩ := sound
    exact ⟨current, org, dev, fun c call found =>
      (calls c call found).of_same rfl fun locked => locked, ⟨fresh.updated, fresh.notEmptied⟩⟩
  | lookup c | readOrgID c _ | lockOrg c | readOrg c _ | cacheOrg c | storeDevice c =>
    obtain ⟨call, found, taken⟩ := Option.bind_eq_some_iff.mp taken
    refine sound.callStep found ?_ meets taken
    simp

end kept

/-- In every run in which no read fails over a policy and no call stores for a device what its
organization has not had since the last invalidation, every answer is fresh. -/
theorem servesFresh_of_readsHold (decode : String → NetworkSettings) (orgOf : String → String)
    {s : State} (reached : ReachableWhen (resolving decode orgOf) (ReadsHold decode orgOf) s) :
    ServesFresh s := by
  have sound : Sound decode orgOf s := by
    refine reached.invariant (Sound decode orgOf) ?_ ?_
    · rintro state ⟨now, rows, rfl⟩
      exact newNetworkResolver_sound now rows
    · intro before label after sound meets taken
      exact sound.step meets taken
  exact sound.fresh

/-! ### An update and its invalidation -/

/-- What a text of the settings decodes to. -/
def decodeBlock (raw : String) : NetworkSettings :=
  { blockDirectP2P := raw == "block" }

/-- One organization with all devices. -/
def oneOrg (_ : String) : String := "org"

/-- The resolver over an organization with the policy in a text. -/
def resolverOver (raw : String) : State :=
  newNetworkResolver decodeBlock 0 ((∅ : Table String String).insert "org" raw)

theorem resolverOver_start (raw : String) :
    (resolving decodeBlock oneOrg).start (resolverOver raw) := ⟨0, _, rfl⟩

/-- A call reads the policy of the organization and is about to store it for the device. -/
def readsPolicy (c : ThreadId) : List Label :=
  [.begin c "device", .lookup c, .readOrgID c false, .lockOrg c, .readOrg c false, .cacheOrg c]

/-- The policy is made stricter, and the entries are dropped. -/
def update : List Label := [.setOrgSetting "org" "block", .invalidateOrg "org"]

/-- A call before the update and one after it. -/
theorem servesFresh_of_readsHold_update :
    ∃ s, ReachableWhen (resolving decodeBlock oneOrg) (ReadsHold decodeBlock oneOrg) s ∧
      s.answers.map (·.settings) = [decodeBlock "block", decodeBlock "open"] ∧ ServesFresh s := by
  have ran : ((resolving decodeBlock oneOrg).runWhen (ReadsHold decodeBlock oneOrg)
      (resolverOver "open") (readsPolicy 1 ++ .storeDevice 1 :: update ++ readsPolicy 2 ++
        [.storeDevice 2])).any (fun s =>
          decide (s.answers.map (·.settings) = [decodeBlock "block", decodeBlock "open"])) =
            true := by decide
  obtain ⟨s, reached, answered⟩ := exists_reachableWhen_of_runWhen (resolverOver_start "open") ran
  exact ⟨s, reached, of_decide_eq_true answered, servesFresh_of_readsHold _ _ reached⟩

/-- A call that read the policy before the update stores it afterwards, and the next call answers
with it; and a read that fails leaves a device without the policy of its organization. -/
theorem policy_servedStale_and_emptied :
    (∃ s, Reachable (resolving decodeBlock oneOrg) s ∧
      ∃ answer ∈ s.answers, answer.settings ∉ answer.held) ∧
      ∃ s, Reachable (resolving decodeBlock oneOrg) s ∧
        ∃ answer ∈ s.answers, answer.hidden = true ∧ answer.current ≠ {} := by
  constructor
  · have ran : ((resolving decodeBlock oneOrg).run (resolverOver "open")
        (readsPolicy 1 ++ update ++ [.storeDevice 1, .begin 2 "device", .lookup 2])).any (fun s =>
          s.answers.any fun answer => decide (answer.settings ∉ answer.held)) = true := by decide
    obtain ⟨s, reached, passed⟩ := exists_reachable_of_run (resolverOver_start "open") ran
    obtain ⟨answer, listed, stale⟩ := List.any_eq_true.mp passed
    exact ⟨s, reached, answer, listed, of_decide_eq_true stale⟩
  · have ran : ((resolving decodeBlock oneOrg).run (resolverOver "block")
        [.begin 1 "device", .lookup 1, .readOrgID 1 true, .storeDevice 1]).any (fun s =>
          s.answers.any fun answer => decide (answer.hidden = true ∧ answer.current ≠ {})) =
            true := by decide
    obtain ⟨s, reached, passed⟩ := exists_reachable_of_run (resolverOver_start "block") ran
    obtain ⟨answer, listed, emptied⟩ := List.any_eq_true.mp passed
    exact ⟨s, reached, answer, listed, of_decide_eq_true emptied⟩

end SovaDesk.Policy
