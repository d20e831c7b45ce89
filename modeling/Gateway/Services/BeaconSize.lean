import Gateway.Services.Envelope

/-!
# Beacon transaction lengths

`newBxBlockFromSSZBroadcast` records as a block's size the SSZ block's length
plus `calcBeaconTransactionLength` of each transaction.  The correction is
meant to remove the RLP string header that the gateway's encoding puts around
a typed transaction and to add SSZ's four-byte offset.  It is exact for a
legacy transaction (an RLP list) and for a string of 55 bytes or more; a
shorter string has its header subtracted as if it were a long one.
-/

namespace Gateway.Services

open Gateway.Types Gateway.Rlp Gateway.Ssz

/-! ## One transaction -/

theorem calcBeaconTransactionLength_of_not_string {b : UInt8}
    (h : b.toNat < 0x80 ∨ 0xC0 ≤ b.toNat) (rest : Bytes) :
    calcBeaconTransactionLength (b :: rest) = rest.length + 5 := by
  have hne : b ≠ 0x80 := by rintro rfl; revert h; decide
  rcases h with h | h
  · have hlt : ¬ b > 0x80 := fun h' => by change 0x80 < b.toNat at h'; omega
    simp [calcBeaconTransactionLength, hne, hlt]
    omega
  · have hge : ¬ b < 0xC0 := fun h' => by change b.toNat < 0xC0 at h'; omega
    simp [calcBeaconTransactionLength, hge]
    omega

theorem calcBeaconTransactionLength_emptyString (rest : Bytes) :
    calcBeaconTransactionLength (0x80 :: rest) = rest.length + 3 := by
  simp [calcBeaconTransactionLength]
  omega

theorem calcBeaconTransactionLength_of_string {b : UInt8} (hlo : 0x80 < b.toNat)
    (hhi : b.toNat < 0xC0) (rest : Bytes) :
    calcBeaconTransactionLength (b :: rest) =
      rest.length + 4 - ((b.toNat : Int) - 0xB7).natAbs := by
  have hne : b ≠ 0x80 := by rintro rfl; revert hlo; decide
  have hlt : b < 0xC0 := hhi
  have hgt : b > 0x80 := hlo
  simp [calcBeaconTransactionLength, hlt, hne, hgt]
  omega

theorem calcBeaconTransactionLength_stringHead {size : Nat} (hpos : 0 < size)
    (h : size < 2 ^ 64) (rest : Bytes) :
    calcBeaconTransactionLength (stringHead size ++ rest) =
      if size < 56 then (rest.length : Int) + size - 51 else rest.length + 4 := by
  unfold stringHead putHead
  split_ifs with hsmall
  · have hb : (0x80 + size).toUInt8.toNat = 0x80 + size :=
      UInt8.toNat_ofNat_of_lt (by unfold UInt8.size; omega)
    rw [List.singleton_append, calcBeaconTransactionLength_of_string (by omega) (by omega), hb]
    omega
  · have hlen := length_beBytes_le h
    have hlenpos := length_beBytes_pos hpos
    have hb : (0xB7 + (beBytes size).length).toUInt8.toNat = 0xB7 + (beBytes size).length :=
      UInt8.toNat_ofNat_of_lt (by unfold UInt8.size; omega)
    rw [List.cons_append, calcBeaconTransactionLength_of_string (by omega) (by omega), hb,
      List.length_append]
    omega

theorem encodeBytes_of_not_byte {p : Bytes} (h : ∀ b, p = [b] → 0x80 ≤ b.toNat) :
    encodeBytes p = stringHead p.length ++ p := by
  unfold encodeBytes
  split
  next b => rw [if_neg (by have := h b rfl; omega)]; rfl
  next => rfl

/-- The length of an RLP-encoded string: exact from 55 bytes on, three for the
empty string, and `2 * len(p) - 51` below 55 bytes, negative below 26; a legacy
transaction, an RLP list, is counted exactly. -/
theorem calcBeaconTransactionLength_encodeBytes :
    (∀ p : Bytes, (∀ b, p = [b] → 0x80 ≤ b.toNat) → p.length < 2 ^ 64 →
      calcBeaconTransactionLength (encodeBytes p) =
        if p = [] then 3 else if p.length < 56 then 2 * (p.length : Int) - 51
        else p.length + 4) ∧
    ∀ b rest, 0xC0 ≤ b.toNat →
      calcBeaconTransactionLength (b :: rest) = (b :: rest).length + 4 := by
  refine ⟨fun p hsingle hlen => ?_, fun b rest h => ?_⟩
  · rw [encodeBytes_of_not_byte hsingle]
    rcases p with _ | ⟨b, rest⟩
    · exact calcBeaconTransactionLength_emptyString []
    · rw [calcBeaconTransactionLength_stringHead (by simp) hlen]
      simp only [reduceCtorEq, if_false]
      split_ifs <;> omega
  · rw [calcBeaconTransactionLength_of_not_string (.inr h)]
    simp
    omega

example : calcBeaconTransactionLength (encodeBytes [0xFF]) = -49 := by decide

/-! ## The size of an expanded beacon block -/

theorem newBxBlockFromSSZBroadcast_size {broadcast : Broadcast} {rs : List BxTransaction}
    {block : BxBlock} (h : newBxBlockFromSSZBroadcast broadcast rs = .ok block) :
    ∃ sszBlock, unmarshalBlockSSZ broadcast.block = .ok sszBlock ∧
      block.size = sszBlock.block.length +
        (block.txs.map fun tx => calcBeaconTransactionLength tx.content).sum := by
  cases hdec : unmarshalBlockSSZ broadcast.block with
  | error e => simp [newBxBlockFromSSZBroadcast, hdec] at h
  | ok sszBlock =>
    refine ⟨sszBlock, rfl, ?_⟩
    cases hexp : expandContents sszBlock.txs (rs.map (·.content)) with
    | none => rw [newBxBlockFromSSZBroadcast_of_expand_none hdec hexp] at h; cases h
    | some contents =>
      obtain ⟨block', h', hcontents, hsize⟩ := newBxBlockFromSSZBroadcast_of_expand hdec hexp
      rw [h] at h'
      cases h'
      rw [hsize, ← hcontents, List.map_map]
      rfl

namespace BlockProcessor

variable {bp : BlockProcessor} {now : Int}

theorem bxBlockFromBroadcast_beacon_expanded {broadcast : Broadcast} {block : BxBlock}
    {ids : ShortIDList} (hbeacon : broadcast.blockType.isBeacon)
    (h : (bp.bxBlockFromBroadcast now broadcast).1 = .ok (block, ids)) :
    ∃ rs, newBxBlockFromSSZBroadcast broadcast rs = .ok block := by
  have hne : broadcast.blockType ≠ .eth := by
    rintro he; simp [he, BxBlockType.isBeacon] at hbeacon
  revert h
  unfold bxBlockFromBroadcast
  simp only [hne, false_and, if_false]
  repeat' split
  all_goals intro h; cases h
  exact ⟨_, ‹_›⟩

end BlockProcessor

/-- The size of an expanded beacon block is the SSZ block's length plus
`calcBeaconTransactionLength` of each transaction's content, whatever its
sign. -/
theorem bxBlockFromBroadcast_beacon_size {bp : BlockProcessor} {now : Int}
    {broadcast : Broadcast} {block : BxBlock} {ids : ShortIDList}
    (hbeacon : broadcast.blockType.isBeacon)
    (h : (bp.bxBlockFromBroadcast now broadcast).1 = .ok (block, ids)) :
    ∃ sszBlock, unmarshalBlockSSZ broadcast.block = .ok sszBlock ∧
      block.size = sszBlock.block.length +
        (block.txs.map fun tx => calcBeaconTransactionLength tx.content).sum := by
  obtain ⟨rs, hrs⟩ := BlockProcessor.bxBlockFromBroadcast_beacon_expanded hbeacon h
  exact newBxBlockFromSSZBroadcast_size hrs

/-- A beacon broadcast with one full transaction `[0x81, 0x00]` and an empty
block body expands to a block of size `-49`. -/
theorem beaconBlock_size_negative :
    let bp : BlockProcessor := ⟨⟨fun _ => none, fun _ => .error "not found"⟩, .empty⟩
    let broadcast : Broadcast := ⟨SHA256Hash.ofByte 1, SHA256Hash.ofByte 2, .beaconCapella,
      [16, 0, 0, 0, 16, 0, 0, 0, 0, 0, 0, 0, 0, 0, 0, 0, 4, 0, 0, 0, 1, 5, 0, 0, 0, 0x81, 0x00],
      [], 0⟩
    ∃ block, (bp.bxBlockFromBroadcast 0 broadcast).1 = .ok (block, []) ∧ block.size = -49 ∧
      ∃ sszBlock, unmarshalBlockSSZ broadcast.block = .ok sszBlock ∧
        block.size = sszBlock.block.length +
          (block.txs.map fun tx => calcBeaconTransactionLength tx.content).sum := by
  intro bp broadcast
  obtain ⟨block, h, hsize⟩ :
      ∃ block, (bp.bxBlockFromBroadcast 0 broadcast).1 = .ok (block, []) ∧ block.size = -49 :=
    ⟨⟨SHA256Hash.ofByte 1, SHA256Hash.ofByte 2, .beaconCapella, [], [⟨emptyHash, [0x81, 0x00]⟩],
      [], none, 0, -49⟩, by simp only [bp, broadcast]; rfl, rfl⟩
  exact ⟨block, h, hsize, bxBlockFromBroadcast_beacon_size rfl h⟩

end Gateway.Services
