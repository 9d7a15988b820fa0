/-
This file settles when the relay server that the network policy chooses is on the allowlists of all
the devices of a connection.

An allowlist permits the addresses that are one of its entries, or one of its hosts with a port. The
choice is made from one list alone, that of the first device which has one. It keeps the default as
soon as an entry is a beginning of it, which is so for a host with a port, and for any longer host
as well; and it falls back to the first entry, which may be blank.
-/

import SovaDesk.Signal.Allowlist

namespace SovaDesk.Signal

open Auth

/-! ### What an allowlist permits -/

/-- A host without a port: no colon, or a literal in brackets. -/
def isBareHost (host : List Char) : Bool := !host.contains ':' || host.getLast? == some ']'

/-- The address is the host with a colon and the digits of a port behind it. -/
def isHostWithPort (host address : String) : Bool :=
  isBareHost host.toList && host.toList.isPrefixOf address.toList &&
    match address.toList.drop host.toList.length with
    | ':' :: port => !port.isEmpty && port.all Char.isDigit
    | _ => false

/-- An address is one of the trimmed entries that are not blank, or such a host with a port. -/
def RelayPermitted (allowlist : List String) (address : String) : Prop :=
  ∃ entry ∈ allowlist, trimSpace entry ≠ "" ∧
    (address = trimSpace entry ∨ isHostWithPort (trimSpace entry) address = true)

/-- The choice obeys every listed device: it is permitted by each of their allowlists, it is the
default if they have none, and it is empty for an empty default only. -/
structure Obeys (settings : String → NetworkSettings) (defaultRelay : String)
    (deviceIDs : List String) : Prop where
  permitted : ∀ deviceID ∈ deviceIDs, HasAllowlist settings deviceID →
    RelayPermitted (settings deviceID).allowedRelayServers
      (resolveRelay settings defaultRelay deviceIDs)
  unchanged : (∀ deviceID ∈ deviceIDs, ¬HasAllowlist settings deviceID) →
    resolveRelay settings defaultRelay deviceIDs = defaultRelay
  named : defaultRelay ≠ "" → resolveRelay settings defaultRelay deviceIDs ≠ ""

/-- The first device that has an allowlist. -/
def firstListed (settings : String → NetworkSettings) (deviceIDs : List String) : Option String :=
  deviceIDs.find? fun deviceID => decide (HasAllowlist settings deviceID)

/-- If an entry of the first allowlist is the default or a beginning of it, every allowlist permits
the default; otherwise the first entry of that list is not blank and every allowlist permits it. -/
def ListsConcur (settings : String → NetworkSettings) (defaultRelay : String)
    (deviceIDs : List String) : Prop :=
  ∀ deviceID first rest, firstListed settings deviceIDs = some deviceID →
    (settings deviceID).allowedRelayServers = first :: rest →
    if (first :: rest).any (allowsRelay (trimSpace defaultRelay)) then
      ∀ other ∈ deviceIDs, HasAllowlist settings other →
        RelayPermitted (settings other).allowedRelayServers defaultRelay
    else
      trimSpace first ≠ "" ∧ ∀ other ∈ deviceIDs, HasAllowlist settings other →
        RelayPermitted (settings other).allowedRelayServers (trimSpace first)

section choice

variable {settings : String → NetworkSettings} {deviceIDs : List String} {deviceID : String}

/-! ### The choice -/

theorem RelayPermitted.ne_empty {allowlist : List String} {address : String}
    (permitted : RelayPermitted allowlist address) : address ≠ "" := by
  obtain ⟨entry, -, named, same | withPort⟩ := permitted
  · rw [same]
    exact named
  · rintro rfl
    obtain ⟨left, -⟩ := (Bool.and_eq_true ..).mp withPort
    obtain ⟨-, begins⟩ := (Bool.and_eq_true ..).mp left
    have empty := List.prefix_nil.mp (List.isPrefixOf_iff_prefix.mp begins)
    exact named (String.toList_inj.mp empty)

/-- Without an allowlist the default is left as it is. -/
theorem resolveRelay_of_none (none : firstListed settings deviceIDs = none)
    (defaultRelay : String) : resolveRelay settings defaultRelay deviceIDs = defaultRelay := by
  induction deviceIDs with
  | nil => rfl
  | cons first rest inductionHypothesis =>
    have free := List.find?_eq_none.mp none
    have free' : ¬HasAllowlist settings first := fun has =>
      free first List.mem_cons_self (decide_eq_true has)
    rw [resolveRelay_cons_of_none free']
    exact inductionHypothesis (List.find?_eq_none.mpr fun other member =>
      free other (List.mem_cons_of_mem _ member))

/-- The choice is made from the first allowlist. -/
theorem resolveRelay_of_first (found : firstListed settings deviceIDs = some deviceID)
    (defaultRelay : String) :
    resolveRelay settings defaultRelay deviceIDs =
      resolveRelay settings defaultRelay [deviceID] := by
  induction deviceIDs with
  | nil => exact (Option.some_ne_none _ found.symm).elim
  | cons first rest inductionHypothesis =>
    unfold firstListed at found
    rw [List.find?_cons] at found
    by_cases has : HasAllowlist settings first
    · rw [decide_eq_true has] at found
      obtain rfl := Option.some.inj found
      exact resolveRelay_cons_of_has has defaultRelay rest
    · rw [decide_eq_false has] at found
      rw [resolveRelay_cons_of_none has]
      exact inductionHypothesis found

end choice

/-- The choice obeys every listed device exactly when their allowlists concur. -/
theorem obeys_iff (settings : String → NetworkSettings) (defaultRelay : String)
    (deviceIDs : List String) :
    Obeys settings defaultRelay deviceIDs ↔ ListsConcur settings defaultRelay deviceIDs := by
  cases found : firstListed settings deviceIDs with
  | none =>
    have same := resolveRelay_of_none found defaultRelay
    have free : ∀ deviceID ∈ deviceIDs, ¬HasAllowlist settings deviceID :=
      fun deviceID member has =>
        List.find?_eq_none.mp found deviceID member (decide_eq_true has)
    refine iff_of_true ⟨fun deviceID member has => absurd has (free deviceID member), fun _ => same,
      fun named => by rw [same]; exact named⟩ ?_
    intro deviceID first rest isFirst
    exact (Option.some_ne_none _ (isFirst.symm.trans found)).elim
  | some deviceID =>
    have member : deviceID ∈ deviceIDs := List.mem_of_find?_eq_some found
    have passed := List.find?_some found
    have has : HasAllowlist settings deviceID := of_decide_eq_true passed
    obtain ⟨first, rest, list⟩ := List.exists_cons_of_ne_nil has.2
    have choice := (resolveRelay_of_first found defaultRelay).trans
      (resolveRelay_of_list has.1 list defaultRelay)
    have concur : ListsConcur settings defaultRelay deviceIDs ↔
        if (first :: rest).any (allowsRelay (trimSpace defaultRelay)) then
          ∀ other ∈ deviceIDs, HasAllowlist settings other →
            RelayPermitted (settings other).allowedRelayServers defaultRelay
        else
          trimSpace first ≠ "" ∧ ∀ other ∈ deviceIDs, HasAllowlist settings other →
            RelayPermitted (settings other).allowedRelayServers (trimSpace first) := by
      constructor
      · exact fun lists => lists deviceID first rest found list
      · intro lists other head tail isFirst otherList
        obtain rfl := Option.some.inj (found.symm.trans isFirst)
        rw [list] at otherList
        obtain ⟨rfl, rfl⟩ := List.cons.inj otherList
        exact lists
    rw [concur]
    split
    · next keeps =>
      rw [if_pos keeps] at choice
      constructor
      · intro obeys other isListed hasOther
        rw [← choice]
        exact obeys.permitted other isListed hasOther
      · intro lists
        exact ⟨fun other isListed hasOther => by rw [choice]; exact lists other isListed hasOther,
          fun free => absurd has (free deviceID member), fun named => by rw [choice]; exact named⟩
    · next replaces =>
      rw [if_neg replaces] at choice
      constructor
      · intro obeys
        have permitted := obeys.permitted
        rw [choice] at permitted
        exact ⟨(permitted deviceID member has).ne_empty, permitted⟩
      · rintro ⟨named, lists⟩
        exact ⟨fun other isListed hasOther => by rw [choice]; exact lists other isListed hasOther,
          fun free => absurd has (free deviceID member), fun _ => by rw [choice]; exact named⟩

/-- The policy of an organization with one relay server. -/
def corpPolicy (_ : String) : NetworkSettings := ⟨false, ["relay.corp"]⟩

/-- A host that begins with the name of the relay server is kept. -/
theorem longer_host_kept :
    ¬∀ settings defaultRelay deviceIDs, Obeys settings defaultRelay deviceIDs := by
  intro always
  obtain ⟨entry, member, -, permitted⟩ :=
    (always corpPolicy "relay.corp.example:21117" ["device-1"]).permitted "device-1"
      List.mem_cons_self (by decide)
  obtain rfl := List.mem_singleton.mp member
  revert permitted
  decide +kernel

end SovaDesk.Signal
