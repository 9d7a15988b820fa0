/-
This file settles when the pages of the peer list partition the devices a user sees.

A client asks for one page after the other. Each request builds the list anew, in the
order in which Go runs through a map, and cuts the page out of it without sorting. The
total is right in every request. With one and the same order in all requests the pages
would partition the devices; as the order may change, a device on one page can be on the
next page again, and another one on none. No order does harm exactly when the devices fit
on one page.
-/

import Mathlib.Data.List.Rotate
import SovaDesk.Api.PeerList

namespace SovaDesk.Api

open Auth

/-! ### The property -/

/-- The parameters that choose a page. -/
def pageKeys : List String := ["page", "page_size", "pageSize"]

/-- The request for one page of a list: the number and the size stand in the query. -/
def PeerListRequest.asking (r : PeerListRequest) (pageSize page : Nat) : PeerListRequest :=
  { r with
    query := fun key =>
      if key = "page" then [toString page]
      else if key = "page_size" then [toString pageSize]
      else if key = "pageSize" then []
      else r.query key
    body := r.body.map fun body => body.filter fun key _ => !pageKeys.contains key }

/-- The devices that a user sees under the filters of a request. -/
def visibleDevices (letters : Letters) (s : Inventory) (r : PeerListRequest) : List String :=
  ((visiblePeers letters s r).getD ∅).keys

/-- The devices on a page. -/
def pageDevices (letters : Letters) (s : Inventory) (r : PeerListRequest) (pageSize : Nat)
    (order : Traversal) (page : Nat) : List String :=
  (buildRustDeskPeerList letters s order (r.asking pageSize page)).1.map (·.id)

def pageCount (total pageSize : Nat) : Nat := (total + pageSize - 1) / pageSize

/-- The pages, each requested with an order of its own, hold every visible device exactly once, and
the total is the number of visible devices in every request. -/
structure Partitions (letters : Letters) (s : Inventory) (r : PeerListRequest) (pageSize : Nat)
    (orders : Nat → Traversal) : Prop where
  total : ∀ page, (buildRustDeskPeerList letters s (orders page) (r.asking pageSize page)).2 =
    (visibleDevices letters s r).length
  once : ((List.range (pageCount (visibleDevices letters s r).length pageSize)).flatMap fun page =>
    pageDevices letters s r pageSize (orders (page + 1)) (page + 1)).Perm
      (visibleDevices letters s r)

/-- The page size that the server uses: at most 200, and 100 for a number that it cannot read. -/
def usedPageSize (pageSize : Nat) : Nat := if pageSize < 2 ^ 63 then min pageSize 200 else 100

/-! ### What the server reads from a request for a page -/

section reading

variable (letters : Letters) (s : Inventory) (r : PeerListRequest) (pageSize page : Nat)

/-- A number is read as it was written, if it fits into 64 bits. -/
theorem positiveNumber_toString (number : Nat) :
    Signal.positiveNumber (toString number).toList =
      if 0 < number ∧ number < 2 ^ 63 then some number else none := by
  have digits : (toString number).toList = Nat.toDigits 10 number := Nat.toList_repr
  have areDigits : ∀ c ∈ Nat.toDigits 10 number, c.isDigit = true := fun c member =>
    Nat.isDigit_of_mem_toDigits (by decide) (by decide) member
  have unsigned : (Nat.toDigits 10 number).head? ≠ some '+' := by
    intro signed
    exact absurd (areDigits '+' (List.mem_of_mem_head? signed)) (by decide)
  have value : (Nat.toDigits 10 number).foldl
      (fun value digit => 10 * value + (digit.toNat - 48)) 0 = number :=
    Nat.ofDigitChars_ten_toDigits
  have nonempty : Nat.toDigits 10 number ≠ [] := Nat.toDigits_ne_nil
  unfold Signal.positiveNumber
  rw [digits, if_neg unsigned]
  dsimp only
  rw [value]
  have all : (Nat.toDigits 10 number).all (·.isDigit) = true := List.all_eq_true.mpr areDigits
  simp [nonempty, all]

theorem values_asking {key : String} (other : key ∉ pageKeys) :
    (r.asking pageSize page).values key = r.values key := by
  have distinct : key ≠ "page" ∧ key ≠ "page_size" ∧ key ≠ "pageSize" := by
    simpa [pageKeys] using other
  obtain ⟨notPage, notSize, notOther⟩ := distinct
  have kept : ∀ body : Table String QueryValue,
      (body.filter fun key _ => !pageKeys.contains key).lookup key = body.lookup key := by
    intro body
    ext value
    rw [Table.lookup_filter_iff]
    simp [other]
  unfold PeerListRequest.values PeerListRequest.asking
  dsimp only
  rw [if_neg notPage, if_neg notSize, if_neg notOther]
  cases r.body with
  | none => rfl
  | some body =>
    dsimp only [Option.map_some, Option.bind_some]
    rw [kept]

/-- The body says nothing about the page. -/
theorem get_asking {key : String} (isPageKey : key ∈ pageKeys) :
    (r.asking pageSize page).get key = ((r.asking pageSize page).query key).headD "" := by
  have silent : ((r.asking pageSize page).body.bind fun body => body.lookup key) = none := by
    unfold PeerListRequest.asking
    cases r.body with
    | none => rfl
    | some body =>
      refine Option.eq_none_iff_forall_ne_some.mpr fun value found => ?_
      have passed := (Table.lookup_filter_iff.mp found).2
      simp [isPageKey] at passed
  unfold PeerListRequest.get PeerListRequest.values
  rw [silent]

theorem firstQueryGroupRef_asking :
    firstQueryGroupRef (r.asking pageSize page) = firstQueryGroupRef r := by
  have same : groupRefKeys.flatMap (r.asking pageSize page).values =
      groupRefKeys.flatMap r.values := by
    refine List.flatMap_congr fun key member => values_asking r pageSize page ?_
    exact (by decide : ∀ key ∈ groupRefKeys, key ∉ pageKeys) key member
  unfold firstQueryGroupRef
  rw [same]

theorem tags_asking : tagKeys.map (r.asking pageSize page).get = tagKeys.map r.get := by
  refine List.map_congr_left fun key member => ?_
  have other := (by decide : ∀ key ∈ tagKeys, key ∉ pageKeys) key member
  unfold PeerListRequest.get
  rw [values_asking r pageSize page other]

/-- The filters are those of the request; the page and its size are the ones asked for. -/
theorem params_asking : parseRustDeskPeerListParams letters (r.asking pageSize page) =
    { parseRustDeskPeerListParams letters r with
      page := if 0 < page ∧ page < 2 ^ 63 then page else 1
      pageSize := if 0 < pageSize ∧ pageSize < 2 ^ 63 then min pageSize 200 else 100 } := by
  have asked : (r.asking pageSize page).positive "page" =
      if 0 < page ∧ page < 2 ^ 63 then some page else none := by
    unfold PeerListRequest.positive
    rw [get_asking r pageSize page (by decide)]
    exact positiveNumber_toString page
  have sized : (r.asking pageSize page).positive "page_size" =
      if 0 < pageSize ∧ pageSize < 2 ^ 63 then some pageSize else none := by
    unfold PeerListRequest.positive
    rw [get_asking r pageSize page (by decide)]
    exact positiveNumber_toString pageSize
  have unsized : (r.asking pageSize page).positive "pageSize" = none := by
    unfold PeerListRequest.positive
    rw [get_asking r pageSize page (by decide)]
    rfl
  unfold parseRustDeskPeerListParams
  rw [firstQueryGroupRef_asking, tags_asking, asked, sized, unsized]
  congr 1
  · split <;> rfl
  · split <;> rfl

/-- The filters do not look at the page. -/
theorem filterPeers_congr (peerByID : Table String ListedPeer) (assignments : Table String Int)
    (params : PeerListParams) (user : RustDeskUser) (role : String) :
    filterPeersByRustDeskParams letters s peerByID assignments
        { params with page := page, pageSize := pageSize } user role =
      filterPeersByRustDeskParams letters s peerByID assignments params user role := by
  cases params
  rfl

theorem visiblePeers_asking :
    visiblePeers letters s (r.asking pageSize page) = visiblePeers letters s r := by
  have username : (r.asking pageSize page).username = r.username := rfl
  have role : (r.asking pageSize page).role = r.role := rfl
  have user : rustDeskUserForGroups s (r.asking pageSize page) = rustDeskUserForGroups s r := rfl
  unfold visiblePeers
  rw [params_asking, username, role, user]
  simp only [filterPeers_congr]

end reading

/-! ### What one page holds -/

section pages

variable (letters : Letters) (s : Inventory) (r : PeerListRequest) {pageSize page : Nat}

theorem slicePage_map {Row Shown : Type} (shown : Row → Shown) (page pageSize : Nat)
    (result : List Row) :
    (slicePage page pageSize result).map shown = slicePage page pageSize (result.map shown) := by
  unfold slicePage
  rw [List.length_map]
  dsimp only
  split
  · split
    · rfl
    · rw [List.map_take, List.map_drop]
  · rfl

theorem slicePage_of_fits {Row : Type} {result : List Row} (fits : result.length ≤ pageSize) :
    slicePage page pageSize result = result :=
  if_neg fun larger => absurd larger.2 (Nat.not_lt.mpr fits)

/-- A page of a list that does not fit on one. -/
theorem slicePage_of_larger {Row : Type} {result : List Row} (positive : 0 < pageSize)
    (larger : pageSize < result.length) (small : (page - 1) * pageSize < 2 ^ 63) :
    slicePage page pageSize result = (result.drop ((page - 1) * pageSize)).take pageSize := by
  have start : ((((page - 1) * pageSize : Nat) : Int).bmod (2 ^ 64)).toNat =
      (page - 1) * pageSize := by
    rw [Int.bmod_eq_of_le (by omega) (by omega), Int.toNat_natCast]
  unfold slicePage
  rw [if_pos ⟨positive, larger⟩, start]
  dsimp only
  split
  · next beyond => rw [List.drop_of_length_le beyond, List.take_nil]
  · rfl

/-- The visible devices in the order of a request. -/
def inOrder (order : Traversal) : List String :=
  (order.visit ((visiblePeers letters s r).getD ∅)).map (·.1)

theorem inOrder_perm (order : Traversal) :
    (inOrder letters s r order).Perm (visibleDevices letters s r) :=
  (order.perm _).map _

theorem visibleDevices_nodup : (visibleDevices letters s r).Nodup :=
  AList.keys_nodup _

/-- An empty map has one order. -/
theorem visit_empty (order : Traversal) : order.visit ∅ = [] :=
  (order.perm ∅).eq_nil

/-- A page is cut out of the devices in the order of the request. -/
theorem pageDevices_eq (pageSize page : Nat) (order : Traversal) :
    pageDevices letters s r pageSize order page =
      slicePage (if 0 < page ∧ page < 2 ^ 63 then page else 1)
        (if 0 < pageSize ∧ pageSize < 2 ^ 63 then min pageSize 200 else 100)
        (inOrder letters s r order) := by
  unfold pageDevices buildRustDeskPeerList inOrder
  rw [visiblePeers_asking, params_asking]
  cases visiblePeers letters s r with
  | none =>
    dsimp only [Option.getD_none]
    rw [visit_empty, List.map_nil, List.map_nil, slicePage_of_fits (Nat.zero_le _)]
  | some peerByID =>
    dsimp only [Option.getD_some]
    rw [slicePage_map, List.map_map]
    rfl

theorem total_eq (pageSize page : Nat) (order : Traversal) :
    (buildRustDeskPeerList letters s order (r.asking pageSize page)).2 =
      (visibleDevices letters s r).length := by
  unfold buildRustDeskPeerList visibleDevices
  rw [visiblePeers_asking]
  cases visiblePeers letters s r with
  | none => rfl
  | some peerByID =>
    dsimp only [Option.getD_some]
    rw [List.length_map, (order.perm peerByID).length_eq]
    exact (List.length_map _).symm

/-- The page size in use, for a page size of a request. -/
theorem usedPageSize_eq (positive : 0 < pageSize) :
    (if 0 < pageSize ∧ pageSize < 2 ^ 63 then min pageSize 200 else 100) =
      usedPageSize pageSize := by
  unfold usedPageSize
  simp only [positive, true_and]

theorem usedPageSize_pos (positive : 0 < pageSize) : 0 < usedPageSize pageSize := by
  unfold usedPageSize
  split <;> omega

theorem usedPageSize_le (pageSize : Nat) : usedPageSize pageSize ≤ 200 := by
  unfold usedPageSize
  split <;> omega

theorem usedPageSize_le_self (pageSize : Nat) : usedPageSize pageSize ≤ pageSize := by
  unfold usedPageSize
  split <;> omega

end pages

/-! ### One order for all requests -/

section sameOrder

variable {Row : Type}

theorem pageCount_of_fits {total pageSize : Nat} (nonempty : 0 < total) (fits : total ≤ pageSize) :
    pageCount total pageSize = 1 := by
  unfold pageCount
  refine Nat.div_eq_of_lt_le ?_ ?_ <;> omega

theorem pageCount_zero {pageSize : Nat} (positive : 0 < pageSize) : pageCount 0 pageSize = 0 := by
  unfold pageCount
  exact Nat.div_eq_of_lt (by omega)

end sameOrder

/-! ### Every order -/

section everyOrder

variable (letters : Letters) (s : Inventory) (r : PeerListRequest) {pageSize : Nat}

/-- The devices that fit on one page. -/
theorem partitions_of_fits (positive : 0 < pageSize)
    (fits : (visibleDevices letters s r).length ≤ usedPageSize pageSize)
    (orders : Nat → Traversal) : Partitions letters s r pageSize orders where
  total page := total_eq letters s r pageSize page (orders page)
  once := by
    rcases Nat.eq_zero_or_pos (visibleDevices letters s r).length with empty | nonempty
    · rw [empty, pageCount_zero positive, List.length_eq_zero_iff.mp empty]
      exact .nil
    · rw [pageCount_of_fits nonempty (fits.trans (usedPageSize_le_self pageSize)), List.range_one,
        List.flatMap_singleton, pageDevices_eq, usedPageSize_eq positive, slicePage_of_fits]
      · exact inOrder_perm letters s r (orders 1)
      · rw [(inOrder_perm letters s r (orders 1)).length_eq]
        exact fits

/-- The order in which the table is stored. -/
def Traversal.stored : Traversal where
  visit table := table.entries
  perm _ := .rfl

/-- The stored order, begun at a later entry. -/
def Traversal.rotated (offset : Nat) : Traversal where
  visit table := table.entries.rotate offset
  perm table := List.rotate_perm table.entries offset

theorem inOrder_rotated (offset : Nat) :
    inOrder letters s r (.rotated offset) = (visibleDevices letters s r).rotate offset :=
  List.map_rotate _ _ _

/-- The orders of the requests that show a device twice: the second one has moved the first device
to where the second page begins. -/
def movingOrders (total pageSize page : Nat) : Traversal :=
  if page = 2 then .rotated (total - pageSize) else .stored

variable {letters s r}

theorem pageDevices_first (positive : 0 < pageSize)
    (larger : usedPageSize pageSize < (visibleDevices letters s r).length) :
    pageDevices letters s r pageSize .stored 1 =
      (visibleDevices letters s r).take (usedPageSize pageSize) := by
  have stored : inOrder letters s r .stored = visibleDevices letters s r := rfl
  rw [pageDevices_eq, usedPageSize_eq positive, if_pos (by decide), stored,
    slicePage_of_larger (usedPageSize_pos positive) larger (by omega), Nat.sub_self, Nat.zero_mul,
    List.drop_zero]

/-- The second page begins with the first device, if that has been moved there. -/
theorem first_mem_second (positive : 0 < pageSize)
    (larger : usedPageSize pageSize < (visibleDevices letters s r).length) :
    (visibleDevices letters s r).get ⟨0, Nat.zero_lt_of_lt larger⟩ ∈
      pageDevices letters s r pageSize
        (.rotated ((visibleDevices letters s r).length - usedPageSize pageSize)) 2 := by
  have sizePositive := usedPageSize_pos positive
  have small := usedPageSize_le pageSize
  rw [pageDevices_eq, usedPageSize_eq positive, if_pos (by decide), inOrder_rotated,
    slicePage_of_larger sizePositive (by rw [List.length_rotate]; exact larger) (by omega)]
  refine List.mem_iff_getElem.mpr ⟨0, ?_, ?_⟩
  · rw [List.length_take, List.length_drop, List.length_rotate]
    omega
  · rw [List.getElem_take, List.getElem_drop, List.getElem_rotate]
    have wraps : (1 * usedPageSize pageSize + 0 + ((visibleDevices letters s r).length -
        usedPageSize pageSize)) % (visibleDevices letters s r).length = 0 := by
      rw [Nat.one_mul, Nat.add_zero, Nat.add_sub_cancel' larger.le, Nat.mod_self]
    simp only [Nat.add_one_sub_one, wraps, List.get_eq_getElem]

/-- Devices that do not fit on one page are not partitioned in some orders. -/
theorem not_partitions_of_larger (positive : 0 < pageSize)
    (larger : usedPageSize pageSize < (visibleDevices letters s r).length) :
    ¬ Partitions letters s r pageSize
      (movingOrders (visibleDevices letters s r).length (usedPageSize pageSize)) := by
  rintro ⟨_, once⟩
  rcases Nat.lt_or_ge pageSize (visibleDevices letters s r).length with more | onePage
  · -- the first device is on the first page and on the second
    have distinct := once.nodup_iff.mpr (visibleDevices_nodup letters s r)
    have disjoint := (List.nodup_flatMap.mp distinct).2
    have twoPages : 2 ≤ pageCount (visibleDevices letters s r).length pageSize :=
      (Nat.le_div_iff_mul_le positive).mpr (by omega)
    have apart := List.pairwise_iff_getElem.mp disjoint 0 1
      (by rw [List.length_range]; omega) (by rw [List.length_range]; omega) Nat.zero_lt_one
    rw [List.getElem_range, List.getElem_range] at apart
    refine apart ?_ (first_mem_second positive larger)
    have first := pageDevices_first positive larger
    show _ ∈ pageDevices letters s r pageSize .stored 1
    rw [first]
    exact List.mem_take_iff_getElem.mpr ⟨0, by have := usedPageSize_pos positive; omega, rfl⟩
  · -- the only page that is asked for is too short
    have sameLength := once.length_eq
    rw [pageCount_of_fits (Nat.zero_lt_of_lt larger) onePage, List.range_one,
      List.flatMap_singleton] at sameLength
    have first := pageDevices_first positive larger
    change (pageDevices letters s r pageSize .stored 1).length = _ at sameLength
    rw [first, List.length_take] at sameLength
    omega

end everyOrder

/-- The pages partition the visible devices, in every order for each request, exactly when the
devices fit on one page. -/
theorem partitions_iff_fits (letters : Letters) (s : Inventory) (r : PeerListRequest)
    {pageSize : Nat} (positive : 0 < pageSize) :
    (∀ orders, Partitions letters s r pageSize orders) ↔
      (visibleDevices letters s r).length ≤ usedPageSize pageSize := by
  constructor
  · intro always
    by_contra larger
    exact not_partitions_of_larger positive (Nat.not_le.mp larger) (always _)
  · exact fun fits => partitions_of_fits letters s r positive fits

/-! ### Two devices -/

/-- An inventory of two devices, without a panel. -/
def twoDevices : Inventory where
  peers := AList.insert "device-1" { hostname := "front desk" }
    (AList.insert "device-2" { hostname := "workshop" } ∅)
  addressBooks _ _ := []
  users := ∅
  panelStore := none
  isOnline _ := false

def plainLetters : Letters where
  toLower := id
  equalFold a b := a == b

/-- A viewer asks for the whole list. -/
def viewerRequest : PeerListRequest where
  username := "ana"
  role := roleViewer
  contextUser := none
  query _ := []
  body := none

/-- With one device on a page, the second page can show the first page's device again. -/
theorem twoDevices_notPartitioned :
    ¬ ∀ (letters : Letters) (s : Inventory) (r : PeerListRequest) (pageSize : Nat), 0 < pageSize →
      ∀ orders, Partitions letters s r pageSize orders := by
  intro always
  have larger : usedPageSize 1 < (visibleDevices plainLetters twoDevices viewerRequest).length := by
    decide
  exact not_partitions_of_larger Nat.one_pos larger (always _ _ _ 1 Nat.one_pos _)

/-- With a hundred devices on a page, both are on the only one. -/
theorem partitions_iff_fits_twoDevices :
    (visibleDevices plainLetters twoDevices viewerRequest).length = 2 ∧
      ∀ orders, Partitions plainLetters twoDevices viewerRequest 100 orders :=
  ⟨by decide, (partitions_iff_fits plainLetters twoDevices viewerRequest (by decide)).mpr
    (by decide)⟩

end SovaDesk.Api
