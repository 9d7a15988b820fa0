/-
This file models how the address books of organisations are merged into the book of a user.

A book is a JSON object with peers and tags. Merging goes by the ids of the peers: a peer that is
there already keeps its fields and takes over what it lacks, and a new one is added as it is. The
loop keeps an index of the last place of every id and takes in the peers of a book one by one.
-/

import SovaDesk.Auth.Token
import SovaDesk.Lib.OrderedTable
import SovaDesk.Lib.Table
import SovaDesk.Signal.Allowlist

namespace SovaDesk.Api.AddressBooks

open SovaDesk.Auth

/-! ### JSON values -/

/-- A decoded value; no function here looks at a number. -/
inductive Json
  | null
  | bool (value : Bool)
  | number (text : String)
  | string (text : String)
  | array (items : List Json)
  | object (entries : List (String × Json))

/-- A decoded object. -/
abbrev Members := OrderedTable String Json

/-- The value under a name, which is `nil` when there is none. -/
def field (members : Members) (name : String) : Json := (members.get? name).getD .null

/-- Give an object an empty array under a name that it lacks. -/
def withDefault (members : Members) (name : String) : Members :=
  if (members.get? name).isSome then members else members.set name (.array [])

/-- The text of an address book, by what it decodes to. The object that is written with two
characters is told from others without members, as the merge passes over that text. -/
inductive Document
  | blank
  | noObject
  | null
  | emptyObject
  | book (members : Members)

/-- What is decoded is written over two empty arrays. -/
def parseAddressBookMap : Document → Members
  | .book members => withDefault (withDefault members "peers") "tags"
  | _ => (OrderedTable.empty.set "peers" (.array [])).set "tags" (.array [])

theorem get?_withDefault (members : Members) (name other : String) :
    (withDefault members name).get? other =
      if other = name ∧ members.get? name = none then some (.array [])
      else members.get? other := by
  unfold withDefault
  cases found : members.get? name with
  | some value =>
    rw [Option.isSome_some, if_pos rfl, if_neg fun both => Option.some_ne_none value both.2]
  | none =>
    rw [Option.isSome_none, if_neg Bool.false_ne_true, OrderedTable.get?_set]
    simp only [and_true]

/-! ### Tags -/

def asString : Json → Option String
  | .string text => some text
  | _ => none

def asObject : Json → Option Members
  | .object entries => some (.ofEntries entries)
  | _ => none

/-- `toStringSlice`: the texts of an array, trimmed. -/
def toStringSlice : Json → List String
  | .array items => items.filterMap fun item => (asString item).map trimSpace
  | _ => []

/-- Append a tag that is not blank and was not seen. -/
def addTag (out : List String) (tag : String) : List String :=
  if tag = "" ∨ tag ∈ out then out else out ++ [tag]

def unionTags (values : List Json) : Json :=
  .array (((values.flatMap toStringSlice).foldl addTag []).map .string)

/-! ### Peers -/

def isEmptyABValue : Json → Bool
  | .null => true
  | .string text => trimSpace text = ""
  | .array items => items.isEmpty
  | _ => false

/-- Take over one member of the other peer. -/
def mergeField (out : Members) (entry : String × Json) : Members :=
  if entry.1 = "tags" then out.set "tags" (unionTags [field out "tags", entry.2])
  else if isEmptyABValue (field out entry.1) ∧ ¬ isEmptyABValue entry.2 then
    out.set entry.1 entry.2
  else out

def mergePeerMaps (base overlay : Members) : Members :=
  let out := overlay.entries.foldl mergeField base
  if (out.get? "id").isSome then out
  else
    match (base.get? "id").bind asString with
    | some id => out.set "id" (.string id)
    | none => out

def toPeerSlice : Json → List Members
  | .array items => items.filterMap asObject
  | _ => []

def peersToAny (peers : List Members) : Json :=
  .array (peers.map fun peer => .object peer.entries)

/-- The id of a peer, which is empty when it is no text. -/
def peerID (peer : Members) : String := (asString (field peer "id")).getD ""

/-- The peers in the course of a merge, and where the last peer of each id is. -/
structure Merging where
  peers : List Members
  peerIndex : Table String Nat

def indexPeers (peers : List Members) : Table String Nat :=
  peers.zipIdx.foldl
    (fun index entry =>
      if peerID entry.1 = "" then index else index.insert (peerID entry.1) entry.2)
    ∅

def mergePeer (merging : Merging) (p : Members) : Merging :=
  if peerID p = "" then merging
  else
    match merging.peerIndex.lookup (peerID p) with
    | some idx =>
      { merging with peers := merging.peers.modify idx fun peer => mergePeerMaps peer p }
    | none => ⟨merging.peers ++ [p], merging.peerIndex.insert (peerID p) merging.peers.length⟩

def mergeAddressBookMaps (base overlay : Members) : Members :=
  let peers := toPeerSlice (field base "peers")
  let merging := (toPeerSlice (field overlay "peers")).foldl mergePeer ⟨peers, indexPeers peers⟩
  (base.set "peers" (peersToAny merging.peers)).set "tags"
    (unionTags [field base "tags", field overlay "tags"])

/-- A blank text and the object in two characters are passed over. -/
def Document.skipped : Document → Bool
  | .blank => true
  | .emptyObject => true
  | _ => false

def mergeAddressBookJSON (base : Document) (overlays : List Document) : Document :=
  .book (overlays.foldl
    (fun merged overlay =>
      if overlay.skipped then merged
      else mergeAddressBookMaps merged (parseAddressBookMap overlay))
    (parseAddressBookMap base))

/-! ### Books -/

/-- The peers of a book. -/
def peersOf (book : Members) : List Members := toPeerSlice (field book "peers")

theorem toPeerSlice_peersToAny (peers : List Members) : toPeerSlice (peersToAny peers) = peers := by
  show (peers.map fun peer => Json.object peer.entries).filterMap asObject = peers
  rw [List.filterMap_map]
  have each : ∀ peer : Members, (asObject ∘ fun peer : Members => Json.object peer.entries) peer =
      some peer := fun peer => congrArg some peer.ofEntries_entries
  rw [List.filterMap_congr fun peer _ => each peer]
  exact List.filterMap_some

/-- Both arrays are there. -/
def Complete (book : Members) : Prop :=
  (book.get? "peers").isSome = true ∧ (book.get? "tags").isSome = true

theorem isSome_get?_withDefault (members : Members) (name : String) {other : String}
    (there : other = name ∨ (members.get? other).isSome = true) :
    ((withDefault members name).get? other).isSome = true := by
  rw [get?_withDefault]
  split
  · rfl
  · next absent =>
    refine there.elim (fun same => ?_) id
    subst same
    exact Option.isSome_iff_ne_none.mpr fun none => absent ⟨rfl, none⟩

theorem complete_parseAddressBookMap (document : Document) :
    Complete (parseAddressBookMap document) := by
  have default : Complete ((OrderedTable.empty.set "peers" (.array [])).set "tags" (.array [])) :=
    ⟨rfl, rfl⟩
  cases document with
  | blank => exact default
  | noObject => exact default
  | null => exact default
  | emptyObject => exact default
  | book members =>
    exact ⟨isSome_get?_withDefault _ _ (.inr (isSome_get?_withDefault _ _ (.inl rfl))),
      isSome_get?_withDefault _ _ (.inl rfl)⟩

/-- A complete book is read as it is. -/
theorem parseAddressBookMap_book {book : Members} (complete : Complete book) :
    parseAddressBookMap (.book book) = book := by
  show withDefault (withDefault book "peers") "tags" = book
  rw [withDefault, withDefault, if_pos complete.1, if_pos complete.2]

end SovaDesk.Api.AddressBooks
