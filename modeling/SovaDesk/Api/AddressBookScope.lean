/-
This file verifies how the devices that a user may not see are taken out of an address book.

The filter reads the book again, after any merges, and looks at trimmed ids: what the server knows
and the user may not see goes, whichever book it came from, and so do peers without an id. Ids that
users typed in and the server does not know stay.
-/

import SovaDesk.Api.AddressBooks

namespace SovaDesk.Api.AddressBooks

open SovaDesk.Auth

/-! ### Taking out what may not be seen -/

/-- A peer with an id is kept unless it is known to the server and not visible. -/
def admits (visible knownPeers : String → Bool) (peer : Members) : Bool :=
  let id := trimSpace (peerID peer)
  if id = "" then false else if knownPeers id ∧ ¬ visible id then false else true

/-- Without a visible set, nothing is filtered. -/
def filterAddressBookPeersByVisibleSet (data : Document) (visible : Option (String → Bool))
    (knownPeers : String → Bool) : Document :=
  match visible with
  | none => data
  | some visible =>
    let ab := parseAddressBookMap data
    let filtered := (toPeerSlice (field ab "peers")).filter (admits visible knownPeers)
    .book (ab.set "peers" (peersToAny filtered))

/-- What a text holds. -/
def Document.held : Document → Members
  | .book members => members
  | _ => .empty

/-- What filtering makes of a book: the admitted peers in their order, with their fields, and every
other field as it was; a book without tags gets the empty array that reading it puts there. -/
structure Filtered (original : Members) (admitted : Members → Bool) (book : Members) : Prop where
  peers : book.get? "peers" = some (peersToAny ((peersOf original).filter admitted))
  kept : ∀ name value, name ≠ "peers" → original.get? name = some value →
    book.get? name = some value
  nothingElse : ∀ name, name ≠ "peers" → original.get? name = none →
    book.get? name = if name = "tags" then some (.array []) else none

theorem get?_parseAddressBookMap (data : Document) (name : String) :
    (parseAddressBookMap data).get? name =
      if data.held.get? name = none ∧ (name = "peers" ∨ name = "tags") then some (.array [])
      else data.held.get? name := by
  have default :
      ((OrderedTable.empty.set "peers" (Json.array [])).set "tags" (.array [])).get? name =
      if (none : Option Json) = none ∧ (name = "peers" ∨ name = "tags") then some (.array [])
      else none := by
    rw [OrderedTable.get?_set, OrderedTable.get?_set]
    by_cases tags : name = "tags"
    · rw [if_pos tags, if_pos ⟨rfl, .inr tags⟩]
    · rw [if_neg tags]
      by_cases peers : name = "peers"
      · rw [if_pos peers, if_pos ⟨rfl, .inl peers⟩]
      · rw [if_neg peers, if_neg fun both => both.2.elim peers tags]
        rfl
  cases data with
  | blank => exact default
  | noObject => exact default
  | null => exact default
  | emptyObject => exact default
  | book members =>
    show (withDefault (withDefault members "peers") "tags").get? name = _
    rw [get?_withDefault, get?_withDefault, get?_withDefault]
    by_cases tags : name = "tags"
    · subst tags
      have other : ¬ ("tags" = "peers" ∧ members.get? "peers" = none) := fun both =>
        absurd both.1 (by decide)
      simp only [if_neg other, true_and, or_true, and_true]
      rfl
    · rw [if_neg fun both => tags both.1]
      by_cases peers : name = "peers"
      · subst peers
        simp only [true_and, true_or, and_true]
        rfl
      · rw [if_neg fun both => peers both.1, if_neg fun both => both.2.elim peers tags]
        rfl

theorem peersOf_parseAddressBookMap (data : Document) :
    peersOf (parseAddressBookMap data) = peersOf data.held := by
  unfold peersOf field
  rw [get?_parseAddressBookMap]
  split
  · next absent =>
    rw [absent.1]
    rfl
  · rfl

section filtering

variable (visible knownPeers : String → Bool)

theorem filtered_filter (data : Document) : ∃ book,
    filterAddressBookPeersByVisibleSet data (some visible) knownPeers = .book book ∧
      Complete book ∧ Filtered data.held (admits visible knownPeers) book := by
  have complete := complete_parseAddressBookMap data
  refine ⟨_, rfl, ⟨?_, ?_⟩, ?_, fun name value other found => ?_, fun name other absent => ?_⟩
  · rw [OrderedTable.get?_set, if_pos rfl]
    rfl
  · rw [OrderedTable.get?_set, if_neg (by decide)]
    exact complete.2
  · rw [OrderedTable.get?_set, if_pos rfl, ← peersOf_parseAddressBookMap]
    rfl
  · have present : ¬ (data.held.get? name = none ∧ (name = "peers" ∨ name = "tags")) := fun both =>
      Option.some_ne_none value (found.symm.trans both.1)
    rw [OrderedTable.get?_set, if_neg other, get?_parseAddressBookMap, if_neg present, found]
  · rw [OrderedTable.get?_set, if_neg other, get?_parseAddressBookMap, absent]
    simp only [true_and, other, false_or]

/-- Filtering a filtered book changes nothing. -/
theorem filter_filter (data : Document) :
    filterAddressBookPeersByVisibleSet
        (filterAddressBookPeersByVisibleSet data (some visible) knownPeers) (some visible)
        knownPeers =
      filterAddressBookPeersByVisibleSet data (some visible) knownPeers := by
  obtain ⟨book, formed, complete, filtered⟩ := filtered_filter visible knownPeers data
  have admitted : peersOf book = (peersOf data.held).filter (admits visible knownPeers) := by
    rw [peersOf, field, filtered.peers]
    exact toPeerSlice_peersToAny _
  have again : (peersOf book).filter (admits visible knownPeers) = peersOf book := by
    rw [admitted, List.filter_filter]
    simp only [Bool.and_self]
  rw [formed]
  show Document.book ((parseAddressBookMap (.book book)).set "peers" (peersToAny
    ((peersOf (parseAddressBookMap (.book book))).filter (admits visible knownPeers)))) = .book book
  rw [parseAddressBookMap_book complete, again, OrderedTable.set_eq_self]
  rw [admitted]
  exact filtered.peers

theorem admits_iff (peer : Members) : admits visible knownPeers peer = true ↔
    trimSpace (peerID peer) ≠ "" ∧ ¬ (knownPeers (trimSpace (peerID peer)) = true ∧
      visible (trimSpace (peerID peer)) = false) := by
  unfold admits
  dsimp only
  rw [← Bool.not_eq_true]
  by_cases blank : trimSpace (peerID peer) = ""
  · rw [if_pos blank]
    exact iff_of_false Bool.false_ne_true fun both => both.1 blank
  · rw [if_neg blank]
    by_cases hidden : knownPeers (trimSpace (peerID peer)) = true ∧
        ¬ visible (trimSpace (peerID peer)) = true
    · rw [if_pos hidden]
      exact iff_of_false Bool.false_ne_true fun both => both.2 hidden
    · rw [if_neg hidden]
      exact iff_of_true rfl ⟨blank, hidden⟩

end filtering

end SovaDesk.Api.AddressBooks
