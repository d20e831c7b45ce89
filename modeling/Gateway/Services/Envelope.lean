import Gateway.Services.RoundTrip

/-!
# The compressed envelope

What `BxBlockToBroadcast` puts in a broadcast, entry by entry, and what
`BxBlockFromBroadcast` makes of a broadcast over any store: which short IDs it
reports missing, when the inflating loop runs out of resolved transactions,
and which contents the placeholders take.
-/

namespace Gateway.Services

open Gateway.Types Gateway.Rlp Gateway.Ssz

/-! ## Compression, entry by entry -/

/-- What compression makes of `tx`: an entry with no bytes, a placeholder,
exactly when the store holds `tx`, added before `maxTimestampForCompression`,
with a short ID; an entry with `tx`'s content otherwise. -/
def EntryOf (txStore : TxStore) (maxTimestampForCompression : Int) (tx : BxBlockTransaction)
    (entry : BxCompressedTransaction) : Prop :=
  (entry.isFullTransaction = false ↔ ∃ t, txStore.get tx.hash = some t ∧
      t.addTime < maxTimestampForCompression ∧ t.shortIDs ≠ []) ∧
    (entry.isFullTransaction = false → entry.transaction = []) ∧
    (entry.isFullTransaction = true → entry.transaction = tx.content)

/-- The short ID compression uses for `tx`: the first of the stored
transaction's, when it was added before `maxTimestampForCompression`. -/
def firstShortID (txStore : TxStore) (maxTimestampForCompression : Int)
    (tx : BxBlockTransaction) : Option ShortID :=
  (txStore.get tx.hash).bind fun t =>
    if t.addTime < maxTimestampForCompression then t.shortIDs.head? else none

theorem compressTransaction_spec (txStore : TxStore) (maxTimestampForCompression : Int)
    (tx : BxBlockTransaction) :
    EntryOf txStore maxTimestampForCompression tx
        (compressTransaction txStore maxTimestampForCompression tx).1 ∧
      (compressTransaction txStore maxTimestampForCompression tx).2 =
        firstShortID txStore maxTimestampForCompression tx := by
  unfold compressTransaction EntryOf firstShortID
  split
  next t ht =>
    by_cases hlt : t.addTime < maxTimestampForCompression
    · cases hs : t.shortIDs <;> simp [ht, hlt, hs]
    · simp [ht, hlt]
  next ht => simp [ht]

theorem compressTransaction_shape (txStore : TxStore) (maxTimestampForCompression : Int)
    (tx : BxBlockTransaction) :
    compressTransaction txStore maxTimestampForCompression tx = (⟨true, tx.content⟩, none) ∨
      ∃ sid, compressTransaction txStore maxTimestampForCompression tx = (⟨false, []⟩, some sid) := by
  unfold compressTransaction
  split
  · split_ifs
    · split
      · exact .inr ⟨_, rfl⟩
      · exact .inl rfl
    · exact .inl rfl
  · exact .inl rfl

theorem compressTransactions_spec (txStore : TxStore) (maxTimestampForCompression : Int)
    (txs : List BxBlockTransaction) :
    let compressed := compressTransactions txStore maxTimestampForCompression txs
    List.Forall₂ (EntryOf txStore maxTimestampForCompression) txs compressed.1 ∧
      (compressed.1.filter (!·.isFullTransaction)).length = compressed.2.length ∧
      compressed.2 = txs.filterMap (firstShortID txStore maxTimestampForCompression) := by
  rw [compressTransactions_eq]
  refine ⟨List.forall₂_map_right_iff.2 <| List.forall₂_same.2 fun tx _ =>
      (compressTransaction_spec _ _ tx).1, ?_,
    List.filterMap_congr fun tx _ => (compressTransaction_spec _ _ tx).2⟩
  induction txs with
  | nil => rfl
  | cons tx txs ih =>
    rcases compressTransaction_shape txStore maxTimestampForCompression tx with h | ⟨sid, h⟩ <;>
      simp [h, ih]

/-! ## The envelope of a broadcast -/

namespace BlockProcessor

variable {bp : BlockProcessor} {now : Int}

theorem bxBlockToBroadcast_shortIDs {block : BxBlock} {networkNum : NetworkNum}
    {minTxAge : Int} {m : Broadcast} {ids : ShortIDList}
    (h : (bp.bxBlockToBroadcast now block networkNum minTxAge).1 = .ok (m, ids)) :
    m.shortIDs = ids := by
  revert h
  unfold bxBlockToBroadcast newRLPBlockBroadcast newSSZBlockBroadcast
  dsimp only
  repeat' split
  all_goals intro h; cases h
  all_goals rename_i henc; split at henc <;> cases henc; rfl

end BlockProcessor

/-- The payload of a broadcast decodes to one entry per block transaction, in
order, each what compression makes of its transaction; the placeholders are as
many as the used short IDs, which are the broadcast's short IDs, the first
short ID of each placeholder's transaction in turn.  An Ethereum block's
header and trailer travel as raw RLP values and must each be one RLP item. -/
theorem bxBlockToBroadcast_envelope_aligned {bp : BlockProcessor} {now : Int} {b : BxBlock}
    {networkNum : NetworkNum} {minTxAge : Int} {m : Broadcast} {usedShortIDs : ShortIDList}
    (hraw : b.type = .eth → IsRawItem b.header ∧ IsRawItem b.trailer)
    (h : (bp.bxBlockToBroadcast now b networkNum minTxAge).1 = .ok (m, usedShortIDs)) :
    ∃ entries : List BxCompressedTransaction,
      ((b.type = .eth ∧ ∃ rlpBlock, decodeBlockRLP m.block = .ok rlpBlock ∧
          rlpBlock.txs = entries) ∨
        (b.type.isBeacon ∧ ∃ sszBlock, unmarshalBlockSSZ m.block = .ok sszBlock ∧
          sszBlock.txs = entries)) ∧
      List.Forall₂ (EntryOf bp.txStore (now - minTxAge)) b.txs entries ∧
      (entries.filter (!·.isFullTransaction)).length = usedShortIDs.length ∧
      m.shortIDs = usedShortIDs ∧
      usedShortIDs = b.txs.filterMap (firstShortID bp.txStore (now - minTxAge)) := by
  have hids := BlockProcessor.bxBlockToBroadcast_shortIDs h
  obtain ⟨hentries, hcount, hfirst⟩ :=
    compressTransactions_spec bp.txStore (now - minTxAge) b.txs
  by_cases ht : b.type = .eth
  · obtain ⟨hheader, htrailer⟩ := hraw ht
    obtain ⟨encoded, henc, rfl⟩ := BlockProcessor.bxBlockToBroadcast_eth_ok ht h
    subst hids
    exact ⟨_, .inl ⟨ht, _, decodeBlockRLP_encodeBlockRLP hheader htrailer henc, rfl⟩, hentries,
      hcount, rfl, hfirst⟩
  · have hbeacon : b.type.isBeacon := by
      by_contra hb
      simp [BlockProcessor.bxBlockToBroadcast, ht, hb] at h
    obtain ⟨encoded, henc, rfl⟩ := BlockProcessor.bxBlockToBroadcast_beacon_ok hbeacon h
    subst hids
    exact ⟨_, .inr ⟨hbeacon, _, unmarshalBlockSSZ_marshalBlockSSZ henc, rfl⟩, hentries,
      hcount, rfl, hfirst⟩

theorem bxBlockToBroadcast_envelope_capella :
    let tx : BxTransaction := ⟨SHA256Hash.ofByte 3, [1], [7], -1⟩
    let store : TxStore := ⟨fun h => if h = tx.hash then some tx else none,
      fun sid => if sid = 7 then .ok tx else .error "not found"⟩
    let bp : BlockProcessor := ⟨store, .empty⟩
    let b : BxBlock := ⟨SHA256Hash.ofByte 1, SHA256Hash.ofByte 2, .beaconCapella, [],
      [⟨tx.hash, [1]⟩, ⟨SHA256Hash.ofByte 4, [2]⟩], [0xC0], none, 5, 0⟩
    ∃ m ids entries, (bp.bxBlockToBroadcast 0 b 0 0).1 = .ok (m, ids) ∧
      List.Forall₂ (EntryOf store 0) b.txs entries ∧
      (entries.filter (!·.isFullTransaction)).length = 1 ∧ m.shortIDs = [7] := by
  intro tx store bp b
  obtain ⟨m, ids, h⟩ : ∃ m ids, (bp.bxBlockToBroadcast 0 b 0 0).1 = .ok (m, ids) :=
    ⟨_, _, rfl⟩
  obtain ⟨entries, -, hentries, hcount, hm, hids⟩ :=
    bxBlockToBroadcast_envelope_aligned (fun h => absurd h (by decide)) h
  refine ⟨m, ids, entries, h, hentries, ?_, ?_⟩
  · rw [hcount, hids]; rfl
  · rw [hm, hids]; rfl

/-- An Ethereum block whose header is no RLP item is compressed all the same,
and its payload does not decode: the transaction list is read as the header. -/
theorem emptyHeader_envelope_undecodable :
    let bp : BlockProcessor := ⟨⟨fun _ => none, fun _ => .error "not found"⟩, .empty⟩
    let b : BxBlock :=
      ⟨SHA256Hash.ofByte 1, emptyHash, .eth, [], [⟨SHA256Hash.ofByte 2, [1]⟩], [], none, 0, 0⟩
    ∃ m ids, (bp.bxBlockToBroadcast 0 b 0 0).1 = .ok (m, ids) ∧
      decodeBlockRLP m.block = .error errExpectedList := by
  intro bp b
  have henc :
      encodeBlockRLP ⟨b.header, [⟨true, [1]⟩], b.trailer, b.totalDifficulty, b.number⟩ =
      .ok [0xC6, 0xC3, 0xC2, 0x01, 0x01, 0x80, 0x80] := by
    simp only [encodeBlockRLP, encodeBigInt, Int.toNat_zero, beBytes_zero]
    rfl
  have hc : compressTransactions bp.txStore (0 - 0) b.txs = ([⟨true, [1]⟩], []) := rfl
  refine ⟨⟨b.hash, emptyHash, .eth, [0xC6, 0xC3, 0xC2, 0x01, 0x01, 0x80, 0x80], [], 0⟩, [], ?_,
    rfl⟩
  unfold BlockProcessor.bxBlockToBroadcast BlockProcessor.newRLPBlockBroadcast
  rw [if_pos rfl, if_neg (by decide), hc]
  dsimp only
  rw [henc]

/-! ## Expansion -/

/-- The contents an envelope's entries expand to over the contents `rs` of
the resolved transactions: a full entry keeps its bytes and each placeholder
takes the next resolved content; `none` when the placeholders outnumber `rs`.
Modelled from the spec: the in-order fill the expansion is meant to compute. -/
def expandContents : List BxCompressedTransaction → List Bytes → Option (List Bytes)
  | [], _ => some []
  | entry :: entries, rs =>
      if entry.isFullTransaction then (expandContents entries rs).map (entry.transaction :: ·)
      else match rs with
        | [] => none
        | r :: rs => (expandContents entries rs).map (r :: ·)

theorem expandContents_eq_none_iff (entries : List BxCompressedTransaction) (rs : List Bytes) :
    expandContents entries rs = none ↔
      rs.length < (entries.filter (!·.isFullTransaction)).length := by
  induction entries generalizing rs with
  | nil => simp [expandContents]
  | cons entry entries ih =>
    cases hfull : entry.isFullTransaction
    · cases rs <;> simp [expandContents, hfull, ih]
    · simp [expandContents, hfull, ih]

theorem resolveShortIDs_missing (txStore : TxStore) (shortIDs : ShortIDList) :
    (resolveShortIDs txStore shortIDs).2 =
      shortIDs.filter fun sid => !(txStore.getTxByShortID sid).isOk := by
  suffices ∀ acc : List BxTransaction × ShortIDList,
      (shortIDs.foldl (fun acc sid =>
        match txStore.getTxByShortID sid with
        | .ok bxTransaction => (acc.1 ++ [bxTransaction], acc.2)
        | .error _ => (acc.1, acc.2 ++ [sid])) acc).2 =
      acc.2 ++ shortIDs.filter fun sid => !(txStore.getTxByShortID sid).isOk from
    by simpa using this ([], [])
  induction shortIDs with
  | nil => simp
  | cons sid sids ih =>
    intro acc
    rw [List.foldl_cons, ih]
    cases h : txStore.getTxByShortID sid <;> simp [h, List.filter_cons, Except.isOk, Except.toBool]

theorem mapM_getTxByShortID_of_missing_nil {txStore : TxStore} {shortIDs : ShortIDList}
    (h : (shortIDs.filter fun sid => !(txStore.getTxByShortID sid).isOk) = []) :
    ∃ resolved, shortIDs.mapM txStore.getTxByShortID = .ok resolved ∧
      resolved.length = shortIDs.length := by
  induction shortIDs with
  | nil => exact ⟨[], rfl, rfl⟩
  | cons sid sids ih =>
    rw [List.filter_cons] at h
    cases hsid : txStore.getTxByShortID sid with
    | error e => simp [hsid, Except.isOk, Except.toBool] at h
    | ok t =>
      simp only [hsid, Except.isOk, Except.toBool, Bool.not_true, if_false] at h
      obtain ⟨resolved, hresolved, hlen⟩ := ih h
      exact ⟨t :: resolved, by rw [List.mapM_cons, hsid, hresolved]; rfl, by simp [hlen]⟩

section Expand

variable {α : Type} [Add α] {placeholderTx : BxTransaction → BxBlockTransaction}
  {txSize : Bytes → α}

theorem foldlM_inflateTransaction_of_expand
    (hplaceholder : ∀ t, (placeholderTx t).content = t.content)
    {entries : List BxCompressedTransaction} {rs : List BxTransaction} {contents : List Bytes}
    (h : expandContents entries (rs.map (·.content)) = some contents)
    (pre : List BxTransaction) (st : InflateState α)
    (hst : st.compressedTransactionCount = pre.length) :
    ∃ st', entries.foldlM (inflateTransaction placeholderTx txSize (pre ++ rs)) st = .ok st' ∧
      st'.txs.map (·.content) = st.txs.map (·.content) ++ contents ∧
      st'.txsBytes = (contents.map txSize).foldl (· + ·) st.txsBytes := by
  induction entries generalizing rs contents pre st with
  | nil =>
    cases h
    exact ⟨st, rfl, by simp, rfl⟩
  | cons entry entries ih =>
    cases hfull : entry.isFullTransaction
    · obtain _ | ⟨r, rs⟩ := rs
      · simp [expandContents, hfull] at h
      simp only [expandContents, hfull, Bool.false_eq_true, if_false, List.map_cons,
        Option.map_eq_some'] at h
      obtain ⟨cs, hcs, rfl⟩ := h
      obtain ⟨st', h', hcontent, hbytes⟩ := ih hcs (pre ++ [r])
        ⟨st.compressedTransactionCount + 1, st.txs ++ [placeholderTx r],
          st.txsBytes + txSize r.content⟩ (by simp [hst])
      have hlt : st.compressedTransactionCount < (pre ++ r :: rs).length := by simp [hst]
      have hget : (pre ++ r :: rs)[st.compressedTransactionCount] = r := by
        simp [hst, List.getElem_append_right]
      refine ⟨st', ?_, by simp [hcontent, hplaceholder], by simp [hbytes]⟩
      simp only [List.foldlM_cons, inflateTransaction, hfull, Bool.not_false, if_true, hlt,
        dif_pos, hget, except_ok_bind]
      simpa using h'
    · simp only [expandContents, hfull, if_true, Option.map_eq_some'] at h
      obtain ⟨cs, hcs, rfl⟩ := h
      obtain ⟨st', h', hcontent, hbytes⟩ := ih hcs pre
        ⟨st.compressedTransactionCount, st.txs ++ [newRawBxBlockTransaction entry.transaction],
          st.txsBytes + txSize entry.transaction⟩ hst
      refine ⟨st', ?_, by simp [hcontent, newRawBxBlockTransaction], by simp [hbytes]⟩
      simpa [inflateTransaction, hfull] using h'

theorem foldlM_inflateTransaction_of_expand_none
    {entries : List BxCompressedTransaction} {rs : List BxTransaction}
    (h : expandContents entries (rs.map (·.content)) = none)
    (pre : List BxTransaction) (st : InflateState α)
    (hst : st.compressedTransactionCount = pre.length) :
    entries.foldlM (inflateTransaction placeholderTx txSize (pre ++ rs)) st =
      .error (.codec errMoreEmptyTransactions) := by
  induction entries generalizing rs pre st with
  | nil => cases h
  | cons entry entries ih =>
    cases hfull : entry.isFullTransaction
    · obtain _ | ⟨r, rs⟩ := rs
      · simp [List.foldlM_cons, inflateTransaction, hfull, hst]
      simp only [expandContents, hfull, Bool.false_eq_true, if_false, List.map_cons,
        Option.map_eq_none'] at h
      have hlt : st.compressedTransactionCount < (pre ++ r :: rs).length := by simp [hst]
      have hget : (pre ++ r :: rs)[st.compressedTransactionCount] = r := by
        simp [hst, List.getElem_append_right]
      have h' := ih h (pre ++ [r])
        ⟨st.compressedTransactionCount + 1, st.txs ++ [placeholderTx r],
          st.txsBytes + txSize r.content⟩ (by simp [hst])
      simp only [List.foldlM_cons, inflateTransaction, hfull, Bool.not_false, if_true, hlt,
        dif_pos, hget, except_ok_bind]
      simpa using h'
    · simp only [expandContents, hfull, if_true, Option.map_eq_none'] at h
      simpa [inflateTransaction, hfull] using ih h pre
        ⟨st.compressedTransactionCount, st.txs ++ [newRawBxBlockTransaction entry.transaction],
          st.txsBytes + txSize entry.transaction⟩ hst

theorem foldlM_inflateTransaction_error {bxTransactions : List BxTransaction}
    {entries : List BxCompressedTransaction} {st : InflateState α} {e : ProcessError}
    (h : entries.foldlM (inflateTransaction placeholderTx txSize bxTransactions) st = .error e) :
    e = .codec errMoreEmptyTransactions := by
  induction entries generalizing st with
  | nil => cases h
  | cons entry entries ih =>
    rw [List.foldlM_cons] at h
    cases hstep : inflateTransaction placeholderTx txSize bxTransactions st entry with
    | error e' =>
      rw [hstep] at h
      cases h
      unfold inflateTransaction at hstep
      split_ifs at hstep
      cases hstep
      rfl
    | ok st' => rw [hstep, except_ok_bind] at h; exact ih h

end Expand

theorem newBxBlockFromRLPBroadcast_error {broadcast : Broadcast} {rs : List BxTransaction}
    {e : ProcessError} (h : newBxBlockFromRLPBroadcast broadcast rs = .error e) :
    ∃ msg, e = .codec msg := by
  unfold newBxBlockFromRLPBroadcast at h
  split at h
  · cases h; exact ⟨_, rfl⟩
  · split at h
    next _ e' he => cases h; exact ⟨_, foldlM_inflateTransaction_error he⟩
    · cases h

theorem newBxBlockFromSSZBroadcast_error {broadcast : Broadcast} {rs : List BxTransaction}
    {e : ProcessError} (h : newBxBlockFromSSZBroadcast broadcast rs = .error e) :
    ∃ msg, e = .codec msg := by
  unfold newBxBlockFromSSZBroadcast at h
  split at h
  · cases h; exact ⟨_, rfl⟩
  · split at h
    next _ e' he => cases h; exact ⟨_, foldlM_inflateTransaction_error he⟩
    · cases h

theorem newBxBlockFromRLPBroadcast_of_expand {broadcast : Broadcast} {rs : List BxTransaction}
    {rlpBlock : BxBlockRLP} {contents : List Bytes}
    (hdec : decodeBlockRLP broadcast.block = .ok rlpBlock)
    (h : expandContents rlpBlock.txs (rs.map (·.content)) = some contents) :
    ∃ block, newBxBlockFromRLPBroadcast broadcast rs = .ok block ∧
      block.txs.map (·.content) = contents := by
  obtain ⟨st, hst, hcontent, -⟩ := @foldlM_inflateTransaction_of_expand Nat _
    (fun t => ⟨t.hash, t.content⟩) List.length (fun _ => rfl) _ _ _ h [] ⟨0, [], 0⟩ rfl
  rw [List.nil_append] at hst
  exact ⟨_, by simp only [newBxBlockFromRLPBroadcast, hdec, inflateRLPTransaction, hst]; rfl,
    by simpa using hcontent⟩

theorem newBxBlockFromRLPBroadcast_of_expand_none {broadcast : Broadcast}
    {rs : List BxTransaction} {rlpBlock : BxBlockRLP}
    (hdec : decodeBlockRLP broadcast.block = .ok rlpBlock)
    (h : expandContents rlpBlock.txs (rs.map (·.content)) = none) :
    newBxBlockFromRLPBroadcast broadcast rs = .error (.codec errMoreEmptyTransactions) := by
  have hst := @foldlM_inflateTransaction_of_expand_none Nat _
    (fun t => ⟨t.hash, t.content⟩) List.length _ _ h [] ⟨0, [], 0⟩ rfl
  rw [List.nil_append] at hst
  simp only [newBxBlockFromRLPBroadcast, hdec, inflateRLPTransaction, hst]

theorem newBxBlockFromSSZBroadcast_of_expand {broadcast : Broadcast} {rs : List BxTransaction}
    {sszBlock : BxBlockSSZ} {contents : List Bytes}
    (hdec : unmarshalBlockSSZ broadcast.block = .ok sszBlock)
    (h : expandContents sszBlock.txs (rs.map (·.content)) = some contents) :
    ∃ block, newBxBlockFromSSZBroadcast broadcast rs = .ok block ∧
      block.txs.map (·.content) = contents ∧
      block.size = sszBlock.block.length + (contents.map calcBeaconTransactionLength).sum := by
  obtain ⟨st, hst, hcontent, hbytes⟩ := @foldlM_inflateTransaction_of_expand Int _
    (fun t => newRawBxBlockTransaction t.content) calcBeaconTransactionLength (fun _ => rfl)
    _ _ _ h [] ⟨0, [], 0⟩ rfl
  rw [List.nil_append] at hst
  exact ⟨_, by simp only [newBxBlockFromSSZBroadcast, hdec, inflateSSZTransaction, hst]; rfl,
    by simpa using hcontent, by simp [hbytes, List.sum_eq_foldl]⟩

theorem newBxBlockFromSSZBroadcast_of_expand_none {broadcast : Broadcast}
    {rs : List BxTransaction} {sszBlock : BxBlockSSZ}
    (hdec : unmarshalBlockSSZ broadcast.block = .ok sszBlock)
    (h : expandContents sszBlock.txs (rs.map (·.content)) = none) :
    newBxBlockFromSSZBroadcast broadcast rs = .error (.codec errMoreEmptyTransactions) := by
  have hst := @foldlM_inflateTransaction_of_expand_none Int _
    (fun t => newRawBxBlockTransaction t.content) calcBeaconTransactionLength _ _ h []
    ⟨0, [], 0⟩ rfl
  rw [List.nil_append] at hst
  simp only [newBxBlockFromSSZBroadcast, hdec, inflateSSZTransaction, hst]

/-! ## Resolution and expansion of a broadcast -/

namespace BlockProcessor

variable {bp : BlockProcessor} {now : Int}

theorem bxBlockFromBroadcast_fresh {broadcast : Broadcast}
    (htype : broadcast.blockType = .eth ∨
      (broadcast.blockType.isBeacon ∧ broadcast.beaconHash.empty = false))
    (hfresh : ∀ k, broadcast.dedupKey = some k → bp.shouldProcess now k) :
    let resolved := resolveShortIDs bp.txStore broadcast.shortIDs
    (bp.bxBlockFromBroadcast now broadcast).1 =
      if resolved.2 ≠ [] then .error (.missingShortIDs resolved.2)
      else (if broadcast.blockType = .eth then newBxBlockFromRLPBroadcast broadcast resolved.1
        else newBxBlockFromSSZBroadcast broadcast resolved.1).map (·, resolved.2) := by
  have hguards : ¬(broadcast.blockType = .eth ∧ !bp.shouldProcess now broadcast.hash) ∧
      ¬(broadcast.blockType.isBeacon ∧ broadcast.beaconHash.empty) ∧
      ¬(broadcast.blockType.isBeacon ∧ !bp.shouldProcess now broadcast.beaconHash) ∧
      broadcast.blockType ≠ .unknown := by
    rcases htype with ht | ⟨hb, he⟩
    · simp [ht, hfresh broadcast.hash (by simp [Broadcast.dedupKey, ht]), BxBlockType.isBeacon]
    · have hne : broadcast.blockType ≠ .eth := by rintro h; simp [h, BxBlockType.isBeacon] at hb
      have hkey : broadcast.dedupKey = some broadcast.beaconHash := by
        simp [Broadcast.dedupKey, hne, hb]
      refine ⟨by simp [hne], by simp [he], by simp [hfresh _ hkey], ?_⟩
      rintro h; simp [h, BxBlockType.isBeacon] at hb
  obtain ⟨h1, h2, h3, h4⟩ := hguards
  unfold bxBlockFromBroadcast
  rw [if_neg h1, if_neg h2, if_neg h3, if_neg h4]
  dsimp only
  split_ifs
  · rfl
  · split <;> simp [*]
  · split <;> simp [*]

end BlockProcessor

theorem expansion_outcome {build : Except ProcessError BxBlock}
    {entries : List BxCompressedTransaction} {rs : List Bytes}
    (hnone : expandContents entries rs = none → build = .error (.codec errMoreEmptyTransactions))
    (hsome : ∀ contents, expandContents entries rs = some contents →
      ∃ block, build = .ok block ∧ block.txs.map (·.content) = contents) :
    (build.map (·, ([] : ShortIDList)) = .error (.codec errMoreEmptyTransactions) ↔
        expandContents entries rs = none) ∧
      ∀ contents, expandContents entries rs = some contents →
        ∃ block, build.map (·, ([] : ShortIDList)) = .ok (block, []) ∧
          block.txs.map (·.content) = contents := by
  refine ⟨⟨fun h => ?_, fun hexp => by rw [hnone hexp]; rfl⟩, fun contents hexp => ?_⟩
  · cases hexp : expandContents entries rs with
    | none => rfl
    | some contents =>
      obtain ⟨block, hblock, -⟩ := hsome contents hexp
      rw [hblock] at h
      cases h
  · obtain ⟨block, hblock, hcontents⟩ := hsome contents hexp
    exact ⟨block, by rw [hblock]; rfl, hcontents⟩

/-- Over any store, expansion reports exactly the short IDs the store cannot
resolve, in order and with repetitions; when all resolve, it fails for want of
resolved transactions exactly when the envelope has more placeholders than
short IDs, and otherwise fills the placeholders in order with the resolved
contents, full entries keeping their bytes. -/
theorem bxBlockFromBroadcast_resolves_exactly {bp : BlockProcessor} {now : Int}
    {broadcast : Broadcast}
    (htype : broadcast.blockType = .eth ∨
      (broadcast.blockType.isBeacon ∧ broadcast.beaconHash.empty = false))
    (hfresh : ∀ k, broadcast.dedupKey = some k → bp.shouldProcess now k) :
    let missing := broadcast.shortIDs.filter fun sid => !(bp.txStore.getTxByShortID sid).isOk
    let result := (bp.bxBlockFromBroadcast now broadcast).1
    ((∃ ids, result = .error (.missingShortIDs ids)) ↔ missing ≠ []) ∧
    (missing ≠ [] → result = .error (.missingShortIDs missing)) ∧
    (missing = [] → ∃ resolved, broadcast.shortIDs.mapM bp.txStore.getTxByShortID = .ok resolved ∧
      ∀ entries,
        ((broadcast.blockType = .eth ∧ ∃ rlpBlock, decodeBlockRLP broadcast.block = .ok rlpBlock ∧
            rlpBlock.txs = entries) ∨
          (broadcast.blockType.isBeacon ∧ ∃ sszBlock,
            unmarshalBlockSSZ broadcast.block = .ok sszBlock ∧ sszBlock.txs = entries)) →
        (result = .error (.codec errMoreEmptyTransactions) ↔
          broadcast.shortIDs.length < (entries.filter (!·.isFullTransaction)).length) ∧
        ∀ contents, expandContents entries (resolved.map (·.content)) = some contents →
          ∃ block, result = .ok (block, []) ∧ block.txs.map (·.content) = contents) := by
  have hresult := BlockProcessor.bxBlockFromBroadcast_fresh htype hfresh
  dsimp only at hresult ⊢
  by_cases hmissing : (broadcast.shortIDs.filter fun sid => !(bp.txStore.getTxByShortID sid).isOk) = []
  case neg =>
    rw [resolveShortIDs_missing, if_pos hmissing] at hresult
    exact ⟨⟨fun _ => hmissing, fun _ => ⟨_, hresult⟩⟩, fun _ => hresult,
      fun h => absurd h hmissing⟩
  case pos =>
    obtain ⟨resolved, hmapM, hlen⟩ := mapM_getTxByShortID_of_missing_nil hmissing
    simp only [resolveShortIDs_of_mapM hmapM, ne_eq, not_true_eq_false, if_false] at hresult
    have hplaceholders (entries : List BxCompressedTransaction) :
        expandContents entries (resolved.map (·.content)) = none ↔
          broadcast.shortIDs.length < (entries.filter (!·.isFullTransaction)).length := by
      rw [expandContents_eq_none_iff, List.length_map, hlen]
    refine ⟨⟨fun ⟨ids, h⟩ => ?_, fun h => absurd hmissing h⟩, fun h => absurd hmissing h,
      fun _ => ⟨resolved, hmapM, fun entries hdec => ?_⟩⟩
    · rw [hresult] at h
      split_ifs at h
      · cases hr : newBxBlockFromRLPBroadcast broadcast resolved <;> rw [hr] at h <;> cases h
        obtain ⟨msg, hmsg⟩ := newBxBlockFromRLPBroadcast_error hr
        cases hmsg
      · cases hr : newBxBlockFromSSZBroadcast broadcast resolved <;> rw [hr] at h <;> cases h
        obtain ⟨msg, hmsg⟩ := newBxBlockFromSSZBroadcast_error hr
        cases hmsg
    rcases hdec with ⟨ht, rlpBlock, hdec, rfl⟩ | ⟨hb, sszBlock, hdec, rfl⟩
    · rw [hresult, if_pos ht, ← hplaceholders]
      exact expansion_outcome (newBxBlockFromRLPBroadcast_of_expand_none hdec)
        fun _ hexp => newBxBlockFromRLPBroadcast_of_expand hdec hexp
    · have hne : broadcast.blockType ≠ .eth := by rintro h; simp [h, BxBlockType.isBeacon] at hb
      rw [hresult, if_neg hne, ← hplaceholders]
      exact expansion_outcome (newBxBlockFromSSZBroadcast_of_expand_none hdec)
        fun _ hexp =>
          (newBxBlockFromSSZBroadcast_of_expand hdec hexp).imp fun _ h => ⟨h.1, h.2.1⟩

theorem bxBlockFromBroadcast_resolves_missing :
    let store : TxStore := ⟨fun _ => none,
      fun sid => if sid = 7 then .ok ⟨SHA256Hash.ofByte 3, [1], [7], 0⟩ else .error "not found"⟩
    let bp : BlockProcessor := ⟨store, .empty⟩
    let broadcast : Broadcast :=
      ⟨SHA256Hash.ofByte 1, SHA256Hash.ofByte 2, .beaconCapella, [], [8, 7, 9, 8], 0⟩
    (bp.bxBlockFromBroadcast 0 broadcast).1 = .error (.missingShortIDs [8, 9, 8]) := by
  intro store bp broadcast
  exact (@bxBlockFromBroadcast_resolves_exactly bp 0 broadcast (.inr ⟨rfl, rfl⟩)
    fun _ _ => rfl).2.1 (by decide)

end Gateway.Services
