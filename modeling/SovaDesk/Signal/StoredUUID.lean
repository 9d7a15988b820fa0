/-
This file settles whether the UUID a device presents is compared with its stored UUID the
way it is compared with the remembered one.

Hexadecimal text is decoded when a row is read, and decoded once more, depending on its
length, when two UUIDs are compared. Reading undoes what storing printed, so the row
gives the verdict of the live entry. The comparison identifies different bytes only if
one of them spells the other in hexadecimal, or both spell the same bytes.
-/

import SovaDesk.Signal.Identity

namespace SovaDesk.Signal

/-! ### Spellings -/

/-- The bytes are the ASCII text, in either case, of the hexadecimal digits of `spelled`. -/
def Spells (text spelled : Bytes) : Prop :=
  hexDecode (text.map fun byte => Char.ofNat byte.toNat) = some spelled

/-- One of two byte strings spells the other, or they are two spellings of the same bytes. -/
def Respelled (u v : Bytes) : Prop :=
  Spells u v ∨ Spells v u ∨ ∃ spelled, Spells u spelled ∧ Spells v spelled

/-- Bytes are compared as they are or as what they spell. -/
theorem normalizePeerUUIDBytes_cases {raw : Bytes} (given : raw ≠ []) :
    normalizePeerUUIDBytes raw = raw ∨ Spells raw (normalizePeerUUIDBytes raw) := by
  rw [normalizePeerUUIDBytes, if_neg (mt List.length_eq_zero_iff.mp given)]
  split
  · exact .inl rfl
  · split
    · split
      · next decoded => exact .inr decoded
      · exact .inl rfl
    · exact .inl rfl

theorem normalizePeerUUIDBytes_of_sixteen {raw : Bytes} (sixteen : raw.length = 16) :
    normalizePeerUUIDBytes raw = raw := by
  rw [normalizePeerUUIDBytes, if_neg (by omega), if_pos sixteen]

theorem peerUUIDEqual_iff {u v : Bytes} :
    peerUUIDEqual u v = true ↔ normalizePeerUUIDBytes u = normalizePeerUUIDBytes v := beq_iff_eq

theorem eq_or_respelled {u v : Bytes} (uGiven : u ≠ []) (vGiven : v ≠ [])
    (equal : peerUUIDEqual u v = true) : u = v ∨ Respelled u v := by
  have same := peerUUIDEqual_iff.mp equal
  rcases normalizePeerUUIDBytes_cases uGiven with plain | spells
  · rcases normalizePeerUUIDBytes_cases vGiven with plain' | spells'
    · exact .inl (plain.symm.trans (same.trans plain'))
    · rw [← same, plain] at spells'
      exact .inr (.inr (.inl spells'))
  · rcases normalizePeerUUIDBytes_cases vGiven with plain' | spells'
    · rw [same, plain'] at spells
      exact .inr (.inl spells)
    · rw [same] at spells
      exact .inr (.inr (.inr ⟨_, spells, spells'⟩))

/-! ### What a registration stores -/

/-- A stored registration remembers the UUID in the entry and its text in the row. -/
theorem uuid_storeKey (config : Config) (s : Server) (env : Env) (id : String) (u pk : Bytes)
    (addr : Addr) (given : u ≠ []) :
    let after := storeKey config s env id u pk addr
    (after.peers.lookup id).map (·.uuid) = some u ∧
      (after.db.peers.lookup id).map (·.uuid) = some (hexText u) := by
  have written : (storeKey config s env id u pk addr).db =
      applyActiveSessionOwner config (s.db.upsertPeer (registeredRow id u pk)) id (hexText u) := by
    unfold storeKey bindTCPSessionPeer
    split
    · rfl
    · rfl
  refine ⟨?_, ?_⟩
  · unfold storeKey bindTCPSessionPeer
    split
    · simp only [Table.lookup_insert_if, ↓reduceIte, Option.map_some]
    · simp only [Table.lookup_insert_if, ↓reduceIte, Option.map_some]
  · have text : hexText u ≠ "" := mt hexText_eq_empty.mp given
    have target : (registeredRow id u pk).id = id := rfl
    rw [written, lookup_applyActiveSessionOwner PeerRow.uuid (fun _ _ => rfl),
      PeerDB.lookup_upsertPeer, target, if_pos rfl]
    cases s.db.peers.lookup id with
    | none => rfl
    | some old => exact congrArg some (if_neg text)

/-- After a device registered with `u`, what its row reads back compares with a presented `v` as
equal if they are equal, and else only if one is a spelling of the other or both spell the same
bytes; UUIDs of sixteen bytes compare exactly; and the live entry gives the same verdict. -/
theorem reloaded_uuid_compares (config : Config) (s : Server) (env : Env) (id : String)
    (u v pk : Bytes) (addr : Addr) (uGiven : u ≠ []) (vGiven : v ≠ []) :
    ∃ live row, (storeKey config s env id u pk addr).peers.lookup id = some live ∧
      (storeKey config s env id u pk addr).db.peers.lookup id = some row ∧
      row.uuid = hexText u ∧
      (u = v → peerUUIDEqual (peerUUIDFromDB row.uuid) v = true) ∧
      (peerUUIDEqual (peerUUIDFromDB row.uuid) v = true → u ≠ v → Respelled u v) ∧
      (u.length = 16 → v.length = 16 → u ≠ v →
        peerUUIDEqual (peerUUIDFromDB row.uuid) v = false) ∧
      peerUUIDEqual live.uuid v = peerUUIDEqual (peerUUIDFromDB row.uuid) v := by
  obtain ⟨remembered, stored⟩ := uuid_storeKey config s env id u pk addr uGiven
  obtain ⟨live, found, liveUUID⟩ := Option.map_eq_some_iff.mp remembered
  obtain ⟨row, kept, rowUUID⟩ := Option.map_eq_some_iff.mp stored
  refine ⟨live, row, found, kept, rowUUID, ?_⟩
  rw [rowUUID, liveUUID, peerUUIDFromDB_hexText]
  refine ⟨?_, ?_, ?_, rfl⟩
  · rintro rfl
    exact peerUUIDEqual_refl u
  · exact fun equal different => (eq_or_respelled uGiven vGiven equal).resolve_left different
  · intro uSixteen vSixteen different
    refine Bool.eq_false_iff.mpr fun equal => different ?_
    have same := peerUUIDEqual_iff.mp equal
    rwa [normalizePeerUUIDBytes_of_sixteen uSixteen,
      normalizePeerUUIDBytes_of_sixteen vSixteen] at same

/-- A device that presents the text of its three byte UUID is taken for itself, live and after a
reload. -/
theorem reloaded_uuid_compares_spelling :
    ∃ live row : Bytes, peerUUIDEqual (peerUUIDFromDB (hexText row)) [48, 49, 97, 98] = true ∧
      peerUUIDEqual live [48, 49, 97, 98] = peerUUIDEqual row [48, 49, 97, 98] ∧
      Respelled row [48, 49, 97, 98] := by
  obtain ⟨live, row, _, _, text, _, respelled, _, verdict⟩ :=
    reloaded_uuid_compares openConfig newServer (atSecond 1) "device1" [1, 171] [48, 49, 97, 98]
      [7] homeAddr (List.cons_ne_nil _ _) (List.cons_ne_nil _ _)
  rw [text, peerUUIDFromDB_hexText] at respelled verdict
  have equal : peerUUIDEqual [1, 171] [48, 49, 97, 98] = true := by decide
  refine ⟨live.uuid, [1, 171], ?_, verdict, respelled equal (by decide)⟩
  rw [peerUUIDFromDB_hexText, equal]

end SovaDesk.Signal
