import Gateway.Services.BlockProcessor

/-!
# The compression round trip

A block compressed by `BxBlockToBroadcast` and expanded by
`BxBlockFromBroadcast` over the same store comes back with the same
transaction contents, trailer, number and hashes, and for an Ethereum block
with the same header and total difficulty.

The proof follows the data through four stages: compression splits the block
into entries and used short IDs, the store resolves the short IDs, the codec
carries the entries over, and the inflating loop puts placeholders and full
transactions back together.  `Aligned` is the relation between the block's
transactions, the entries and the resolved transactions that the first two
stages establish and the last one consumes.
-/

namespace Gateway.Services

open Gateway.Types Gateway.Rlp Gateway.Ssz

/-! ## Compression -/

/-- The store gives `tx` back through its first short ID: whenever it holds
`tx` with short IDs, the first one resolves to a transaction with the same hash
and content. -/
def ResolvesBack (txStore : TxStore) (tx : BxBlockTransaction) : Prop :=
  ∀ t sid sids, txStore.get tx.hash = some t → t.shortIDs = sid :: sids →
    ∃ t', txStore.getTxByShortID sid = .ok t' ∧ t'.hash = tx.hash ∧ t'.content = tx.content

/-- Each compressed entry stands for one block transaction: a full entry holds
its content, and a placeholder is matched, in order, by a resolved
transaction with that content. -/
inductive Aligned : List BxBlockTransaction → List BxCompressedTransaction →
    List BxTransaction → Prop
  | nil : Aligned [] [] []
  | full {tx txs entry entries rs} : entry.isFullTransaction = true →
      entry.transaction = tx.content → Aligned txs entries rs →
      Aligned (tx :: txs) (entry :: entries) rs
  | placeholder {tx txs entry entries r rs} : entry.isFullTransaction = false →
      r.content = tx.content → Aligned txs entries rs →
      Aligned (tx :: txs) (entry :: entries) (r :: rs)

theorem compressTransactions_eq (txStore : TxStore) (maxTimestampForCompression : Int)
    (txs : List BxBlockTransaction) :
    compressTransactions txStore maxTimestampForCompression txs =
      (txs.map fun tx => (compressTransaction txStore maxTimestampForCompression tx).1,
        txs.filterMap fun tx => (compressTransaction txStore maxTimestampForCompression tx).2) := by
  suffices ∀ acc : List BxCompressedTransaction × ShortIDList,
      txs.foldl (fun acc tx =>
        let compressed := compressTransaction txStore maxTimestampForCompression tx
        (acc.1 ++ [compressed.1], acc.2 ++ compressed.2.toList)) acc =
      (acc.1 ++ txs.map fun tx => (compressTransaction txStore maxTimestampForCompression tx).1,
        acc.2 ++ txs.filterMap fun tx =>
          (compressTransaction txStore maxTimestampForCompression tx).2) from
    by simpa using this ([], [])
  induction txs with
  | nil => simp
  | cons tx txs ih =>
    intro acc
    rw [List.foldl_cons, ih]
    cases h : (compressTransaction txStore maxTimestampForCompression tx).2 <;>
      simp [h, List.filterMap_cons]

theorem compressTransaction_cases {txStore : TxStore} {tx : BxBlockTransaction}
    (hres : ResolvesBack txStore tx) (maxTimestampForCompression : Int) :
    compressTransaction txStore maxTimestampForCompression tx = (⟨true, tx.content⟩, none) ∨
      ∃ sid t,
        compressTransaction txStore maxTimestampForCompression tx = (⟨false, []⟩, some sid) ∧
        txStore.getTxByShortID sid = .ok t ∧ t.content = tx.content := by
  unfold compressTransaction
  split
  case h_2 => exact .inl rfl
  case h_1 t ht =>
    split_ifs
    · split
      next sid sids hsids =>
        obtain ⟨t', ht', -, hc⟩ := hres t sid sids ht hsids
        exact .inr ⟨sid, t', rfl, ht', hc⟩
      next => exact .inl rfl
    · exact .inl rfl

theorem compress_aligned {txStore : TxStore} {txs : List BxBlockTransaction}
    (hres : ∀ tx ∈ txs, ResolvesBack txStore tx) (maxTimestampForCompression : Int) :
    ∃ rs, (txs.filterMap fun tx =>
        (compressTransaction txStore maxTimestampForCompression tx).2).mapM
          txStore.getTxByShortID = .ok rs ∧
      Aligned txs (txs.map fun tx => (compressTransaction txStore maxTimestampForCompression tx).1)
        rs := by
  induction txs with
  | nil => exact ⟨[], rfl, .nil⟩
  | cons tx txs ih =>
    obtain ⟨rs, hrs, hal⟩ := ih fun tx' h => hres tx' (List.mem_cons_of_mem _ h)
    rcases compressTransaction_cases (hres tx (List.mem_cons_self _ _))
        maxTimestampForCompression with hc | ⟨sid, t, hc, ht, hcontent⟩
    · exact ⟨rs, by simpa [hc] using hrs, by rw [List.map_cons, hc]; exact .full rfl rfl hal⟩
    · refine ⟨t :: rs, ?_, by rw [List.map_cons, hc]; exact .placeholder rfl hcontent hal⟩
      rw [List.filterMap_cons, hc, List.mapM_cons, ht, hrs]
      rfl

/-! ## Resolution -/

theorem resolveShortIDs_of_mapM {txStore : TxStore} {shortIDs : ShortIDList}
    {rs : List BxTransaction} (h : shortIDs.mapM txStore.getTxByShortID = .ok rs) :
    resolveShortIDs txStore shortIDs = (rs, []) := by
  suffices ∀ (acc : List BxTransaction) (rs : List BxTransaction),
      shortIDs.mapM txStore.getTxByShortID = .ok rs →
      shortIDs.foldl (fun acc sid =>
        match txStore.getTxByShortID sid with
        | .ok bxTransaction => (acc.1 ++ [bxTransaction], acc.2)
        | .error _ => (acc.1, acc.2 ++ [sid])) (acc, []) = (acc ++ rs, []) from
    by simpa using this [] rs h
  clear h rs
  induction shortIDs with
  | nil => intro acc rs h; cases h; simp
  | cons sid sids ih =>
    intro acc rs h
    rw [List.mapM_cons] at h
    obtain ⟨t, ht, h⟩ := except_bind_eq_ok.mp h
    obtain ⟨ts, hts, h⟩ := except_bind_eq_ok.mp h
    cases h
    rw [List.foldl_cons, ht]
    simp [ih _ _ hts]

/-! ## Inflation -/

section Inflate

variable {α : Type} [Add α] {placeholderTx : BxTransaction → BxBlockTransaction}
  {txSize : Bytes → α}

theorem foldlM_inflateTransaction (hplaceholder : ∀ t, (placeholderTx t).content = t.content)
    {txs : List BxBlockTransaction} {entries : List BxCompressedTransaction}
    {rs : List BxTransaction} (h : Aligned txs entries rs) (pre : List BxTransaction)
    (st : InflateState α) (hst : st.compressedTransactionCount = pre.length) :
    ∃ st', entries.foldlM (inflateTransaction placeholderTx txSize (pre ++ rs)) st = .ok st' ∧
      st'.txs.map (·.content) = st.txs.map (·.content) ++ txs.map (·.content) := by
  induction h generalizing pre st with
  | nil => exact ⟨st, rfl, by simp⟩
  | @full tx txs entry entries rs hfull htx _ ih =>
    obtain ⟨st', h', hcontent⟩ := ih pre
      ⟨st.compressedTransactionCount, st.txs ++ [newRawBxBlockTransaction entry.transaction],
        st.txsBytes + txSize entry.transaction⟩ hst
    refine ⟨st', ?_, by simp [hcontent, htx, newRawBxBlockTransaction]⟩
    simpa [inflateTransaction, hfull] using h'
  | @placeholder tx txs entry entries r rs hfull hr _ ih =>
    have hlt : st.compressedTransactionCount < (pre ++ r :: rs).length := by simp [hst]
    have hget : (pre ++ r :: rs)[st.compressedTransactionCount] = r := by
      simp [hst, List.getElem_append_right]
    obtain ⟨st', h', hcontent⟩ := ih (pre ++ [r])
      ⟨st.compressedTransactionCount + 1, st.txs ++ [placeholderTx r],
        st.txsBytes + txSize r.content⟩ (by simp [hst])
    refine ⟨st', ?_, by simp [hcontent, hplaceholder, hr]⟩
    simp only [List.foldlM_cons, inflateTransaction, hfull, Bool.not_false, if_true, hlt,
      dif_pos, hget, except_ok_bind]
    simpa using h'

end Inflate

/-! ## The two directions -/

theorem int64OfUint64_bigIntUint64 {n : Int} (h0 : 0 ≤ n) (h64 : n < 2 ^ 64) :
    int64OfUint64 (bigIntUint64 n) = if n < 2 ^ 63 then n else n - 2 ^ 64 := by
  have hlt : n.natAbs < 2 ^ 64 := by omega
  simp only [int64OfUint64, bigIntUint64, UInt64.toNat_ofNat_of_lt hlt]
  split_ifs <;> omega

namespace BlockProcessor

variable {bp : BlockProcessor} {now : Int}

theorem bxBlockToBroadcast_eth_ok {block : BxBlock} {networkNum : NetworkNum} {minTxAge : Int}
    {m : Broadcast} {ids : ShortIDList} (ht : block.type = .eth)
    (h : (bp.bxBlockToBroadcast now block networkNum minTxAge).1 = .ok (m, ids)) :
    let compressed := compressTransactions bp.txStore (now - minTxAge) block.txs
    ∃ encoded, encodeBlockRLP ⟨block.header, compressed.1, block.trailer,
        block.totalDifficulty, block.number⟩ = .ok encoded ∧
      m = ⟨block.hash, emptyHash, block.type, encoded, compressed.2, networkNum⟩ := by
  simp only [bxBlockToBroadcast, ht, if_true] at h
  split_ifs at h
  split at h
  · cases h
  next r hr =>
    cases h
    unfold newRLPBlockBroadcast at hr
    dsimp only at hr ⊢
    split at hr
    · cases hr
    next encoded henc => cases hr; exact ⟨encoded, henc, rfl⟩

theorem bxBlockToBroadcast_beacon_ok {block : BxBlock} {networkNum : NetworkNum}
    {minTxAge : Int} {m : Broadcast} {ids : ShortIDList} (ht : block.type.isBeacon)
    (h : (bp.bxBlockToBroadcast now block networkNum minTxAge).1 = .ok (m, ids)) :
    let compressed := compressTransactions bp.txStore (now - minTxAge) block.txs
    ∃ encoded, marshalBlockSSZ ⟨block.trailer, compressed.1, bigIntUint64 block.number⟩ =
        .ok encoded ∧
      m = ⟨block.hash, block.beaconHash, block.type, encoded, compressed.2, networkNum⟩ := by
  have hne : block.type ≠ .eth := by rintro he; simp [he, BxBlockType.isBeacon] at ht
  simp only [bxBlockToBroadcast, hne, ht, if_true, if_false] at h
  split_ifs at h
  split at h
  · cases h
  next r hr =>
    cases h
    unfold newSSZBlockBroadcast at hr
    dsimp only at hr ⊢
    split at hr
    · cases hr
    next encoded henc => cases hr; exact ⟨encoded, henc, rfl⟩

theorem bxBlockFromBroadcast_eth_ok {broadcast : Broadcast} {rs : List BxTransaction}
    {block : BxBlock} (ht : broadcast.blockType = .eth)
    (hfresh : bp.shouldProcess now broadcast.hash)
    (hres : resolveShortIDs bp.txStore broadcast.shortIDs = (rs, []))
    (h : newBxBlockFromRLPBroadcast broadcast rs = .ok block) :
    (bp.bxBlockFromBroadcast now broadcast).1 = .ok (block, []) := by
  simp [bxBlockFromBroadcast, ht, hfresh, hres, h, BxBlockType.isBeacon]

theorem bxBlockFromBroadcast_beacon_ok {broadcast : Broadcast} {rs : List BxTransaction}
    {block : BxBlock} (ht : broadcast.blockType.isBeacon)
    (hempty : broadcast.beaconHash.empty = false)
    (hfresh : bp.shouldProcess now broadcast.beaconHash)
    (hres : resolveShortIDs bp.txStore broadcast.shortIDs = (rs, []))
    (h : newBxBlockFromSSZBroadcast broadcast rs = .ok block) :
    (bp.bxBlockFromBroadcast now broadcast).1 = .ok (block, []) := by
  have hne : broadcast.blockType ≠ .eth := by rintro he; simp [he, BxBlockType.isBeacon] at ht
  have hunknown : broadcast.blockType ≠ .unknown := by
    rintro he; simp [he, BxBlockType.isBeacon] at ht
  simp [bxBlockFromBroadcast, ht, hne, hunknown, hempty, hfresh, hres, h]

end BlockProcessor

/-! ## The round trip -/

/-- Compression and expansion over the same store give the block back: its
transaction contents, trailer, number and hash, the beacon hash of a beacon
block (an Ethereum broadcast carries the empty hash), and the header and total
difficulty of an Ethereum block. -/
theorem compression_roundTrip {bp bp' : BlockProcessor} {now now' : Int} {b : BxBlock}
    {networkNum : NetworkNum} {minTxAge : Int} {m : Broadcast} {ids : ShortIDList}
    (hstore : bp'.txStore = bp.txStore) (hres : ∀ tx ∈ b.txs, ResolvesBack bp.txStore tx)
    (htype : b.type = .eth ∨ b.type.isBeacon)
    (heth : b.type = .eth → IsRawItem b.header ∧ IsRawItem b.trailer ∧ 0 ≤ b.number ∧
      ∃ td, b.totalDifficulty = some td ∧ 0 ≤ td)
    (hbeacon : b.type.isBeacon → b.beaconHash.empty = false ∧ 0 ≤ b.number ∧ b.number < 2 ^ 63)
    (hfresh : ∀ k, b.dedupKey = some k → bp'.shouldProcess now' k)
    (h : (bp.bxBlockToBroadcast now b networkNum minTxAge).1 = .ok (m, ids)) :
    ∃ b', (bp'.bxBlockFromBroadcast now' m).1 = .ok (b', []) ∧
      b'.txs.map (·.content) = b.txs.map (·.content) ∧ b'.trailer = b.trailer ∧
      b'.number = b.number ∧ b'.hash = b.hash ∧
      b'.beaconHash = (if b.type = .eth then emptyHash else b.beaconHash) ∧
      (b.type = .eth → b'.header = b.header ∧ b'.totalDifficulty = b.totalDifficulty) := by
  obtain ⟨rs, hmapM, hal⟩ := compress_aligned hres (now - minTxAge)
  have hresolve : resolveShortIDs bp'.txStore
      (compressTransactions bp.txStore (now - minTxAge) b.txs).2 = (rs, []) := by
    rw [hstore, compressTransactions_eq]; exact resolveShortIDs_of_mapM hmapM
  replace hal : Aligned b.txs (compressTransactions bp.txStore (now - minTxAge) b.txs).1 rs := by
    rwa [compressTransactions_eq]
  rcases htype with ht | ht
  case inl =>
    obtain ⟨hheader, htrailer, -, td, htd, -⟩ := heth ht
    obtain ⟨encoded, henc, rfl⟩ := BlockProcessor.bxBlockToBroadcast_eth_ok ht h
    have hdec := decodeBlockRLP_encodeBlockRLP hheader htrailer henc
    obtain ⟨st, hst, hcontent⟩ := @foldlM_inflateTransaction Nat _
      (fun t => ⟨t.hash, t.content⟩) List.length (fun _ => rfl) _ _ _ hal [] ⟨0, [], 0⟩ rfl
    rw [List.nil_append] at hst
    refine ⟨_, BlockProcessor.bxBlockFromBroadcast_eth_ok ht
      (hfresh _ (by simp [BxBlock.dedupKey, ht])) hresolve
      (by simp only [newBxBlockFromRLPBroadcast, hdec, inflateRLPTransaction, hst]; rfl), ?_⟩
    simp [hcontent, htd, ht]
  case inr =>
    obtain ⟨hempty, h0, h63⟩ := hbeacon ht
    have hne : b.type ≠ .eth := by rintro he; simp [he, BxBlockType.isBeacon] at ht
    obtain ⟨encoded, henc, rfl⟩ := BlockProcessor.bxBlockToBroadcast_beacon_ok ht h
    have hdec := unmarshalBlockSSZ_marshalBlockSSZ henc
    obtain ⟨st, hst, hcontent⟩ := @foldlM_inflateTransaction Int _
      (fun t => newRawBxBlockTransaction t.content) calcBeaconTransactionLength (fun _ => rfl)
      _ _ _ hal [] ⟨0, [], 0⟩ rfl
    rw [List.nil_append] at hst
    refine ⟨_, BlockProcessor.bxBlockFromBroadcast_beacon_ok ht hempty
      (hfresh _ (by simp [BxBlock.dedupKey, hne, ht])) hresolve
      (by simp only [newBxBlockFromSSZBroadcast, hdec, inflateSSZTransaction, hst]; rfl), ?_⟩
    have hnumber : int64OfUint64 (bigIntUint64 b.number) = b.number := by
      rw [int64OfUint64_bigIntUint64 h0 (by omega), if_pos h63]
    simp [hcontent, hne, hnumber]

theorem compression_roundTrip_capella :
    let tx : BxTransaction := ⟨SHA256Hash.ofByte 3, [1], [7], -1⟩
    let store : TxStore := ⟨fun h => if h = tx.hash then some tx else none,
      fun sid => if sid = 7 then .ok tx else .error "not found"⟩
    let bp : BlockProcessor := ⟨store, .empty⟩
    let b : BxBlock := ⟨SHA256Hash.ofByte 1, SHA256Hash.ofByte 2, .beaconCapella, [],
      [⟨tx.hash, [1]⟩, ⟨SHA256Hash.ofByte 4, [2]⟩], [0xC0], none, 5, 0⟩
    ∃ m ids b', (bp.bxBlockToBroadcast 0 b 0 0).1 = .ok (m, ids) ∧
      (bp.bxBlockFromBroadcast 1 m).1 = .ok (b', []) ∧
      b'.txs.map (·.content) = b.txs.map (·.content) ∧ b'.number = b.number := by
  intro tx store bp b
  obtain ⟨m, ids, h⟩ : ∃ m ids, (bp.bxBlockToBroadcast 0 b 0 0).1 = .ok (m, ids) :=
    ⟨_, _, rfl⟩
  have hres : ∀ x ∈ b.txs, ResolvesBack store x := by
    intro x hx t sid sids hget hsids
    simp only [b, List.mem_cons, List.mem_singleton, List.not_mem_nil, or_false] at hx
    rcases hx with rfl | rfl
    · simp only [store, if_pos, Option.some.injEq] at hget
      subst hget
      simp only [tx, List.cons.injEq] at hsids
      obtain ⟨rfl, rfl⟩ := hsids
      exact ⟨tx, rfl, rfl, rfl⟩
    · simp [store, tx, show SHA256Hash.ofByte 4 ≠ SHA256Hash.ofByte 3 by decide] at hget
  obtain ⟨b', h', hcontent, -, hnumber, -⟩ :=
    @compression_roundTrip bp bp 0 1 b 0 0 m ids rfl hres (.inr rfl) (fun h => absurd h (by decide))
      (fun _ => ⟨by decide, by decide, by decide⟩) (fun _ _ => rfl) h
  exact ⟨m, ids, b', h, h', hcontent, hnumber⟩

theorem emptyBeaconHash_block_not_restored :
    let bp : BlockProcessor := ⟨⟨fun _ => none, fun _ => .error "not found"⟩, .empty⟩
    let b : BxBlock :=
      ⟨SHA256Hash.ofByte 1, emptyHash, .beaconCapella, [0xC0], [], [0xC0], none, 0, 0⟩
    IsRawItem b.header ∧ IsRawItem b.trailer ∧
      ∃ m ids, (bp.bxBlockToBroadcast 0 b 0 0).1 = .ok (m, ids) ∧
        (bp.bxBlockFromBroadcast 0 m).1 = .error .notCompitableBeaconBlock :=
  ⟨.list [], .list [], _, _, rfl, rfl⟩

end Gateway.Services
