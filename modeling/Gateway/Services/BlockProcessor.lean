import Gateway.Services.HashHistory
import Gateway.Codec.Rlp
import Gateway.Codec.Ssz

/-!
# The block processor

`blockProcessor` turns a block into a broadcast message by replacing the
transactions its store already knows with their short IDs, and turns a
broadcast back into a block by looking the short IDs up again.  A history of
processed hashes keeps either direction from handling a block twice.  Ethereum
blocks travel in the RLP envelope, beacon blocks in the SSZ envelope.

Each call takes the current time `now`, which the code reads from the clock,
and returns the processor with its updated history.
-/

namespace Gateway.Services

open Gateway.Types Gateway.Rlp Gateway.Ssz

/-- The errors of `BxBlockToBroadcast` and `BxBlockFromBroadcast`.  A codec
error carries the message of the RLP or SSZ codec, or of the placeholder check;
`ErrMissingShortIDs` is returned together with the missing IDs. -/
inductive ProcessError where
  | alreadyProcessed
  | missingShortIDs (ids : ShortIDList)
  | unknownBlockType
  | notCompitableBeaconBlock
  | codec (msg : String)
  deriving DecidableEq

/-- The text of each error value. -/
def ProcessError.error : ProcessError → String
  | .alreadyProcessed => "already processed"
  | .missingShortIDs _ => "missing short IDs"
  | .unknownBlockType => "unknown block type"
  | .notCompitableBeaconBlock => "not compitable beacon block"
  | .codec msg => msg

structure BlockProcessor where
  txStore : TxStore
  processedBlocks : HashHistory

/-- How long `markProcessed` keeps a hash: ten minutes, in nanoseconds. -/
def processedTTL : Int := 600000000000

namespace BlockProcessor

def shouldProcess (bp : BlockProcessor) (now : Int) (hash : SHA256Hash) : Bool :=
  !bp.processedBlocks.exists now hash

def markProcessed (bp : BlockProcessor) (now : Int) (hash : SHA256Hash) : BlockProcessor :=
  { bp with processedBlocks := bp.processedBlocks.add now hash processedTTL }

end BlockProcessor

/-! ## Compression -/

/-- One iteration of the compression loop of `newRLPBlockBroadcast` and
`newSSZBlockBroadcast`: a placeholder and the first short ID when the store
holds the transaction, added before `maxTimestampForCompression` and with a
short ID; the full bytes otherwise. -/
def compressTransaction (txStore : TxStore) (maxTimestampForCompression : Int)
    (tx : BxBlockTransaction) : BxCompressedTransaction × Option ShortID :=
  match txStore.get tx.hash with
  | some bxTransaction =>
      if bxTransaction.addTime < maxTimestampForCompression then
        match bxTransaction.shortIDs with
        | shortID :: _ => (⟨false, []⟩, some shortID)
        | [] => (⟨true, tx.content⟩, none)
      else (⟨true, tx.content⟩, none)
  | none => (⟨true, tx.content⟩, none)

/-- The compression loop with its accumulators `txs` and `usedShortIDs`. -/
def compressTransactions (txStore : TxStore) (maxTimestampForCompression : Int)
    (txs : List BxBlockTransaction) : List BxCompressedTransaction × ShortIDList :=
  txs.foldl (fun acc tx =>
    let compressed := compressTransaction txStore maxTimestampForCompression tx
    (acc.1 ++ [compressed.1], acc.2 ++ compressed.2.toList)) ([], [])

/-- `big.Int.Uint64`: the low 64 bits of the magnitude. -/
def bigIntUint64 (x : Int) : UInt64 := UInt64.ofNat x.natAbs

/-- `big.NewInt(int64(x))` for a `uint64` `x`: the two's-complement reading. -/
def int64OfUint64 (x : UInt64) : Int :=
  if x.toNat < 2 ^ 63 then x.toNat else (x.toNat : Int) - 2 ^ 64

namespace BlockProcessor

def newRLPBlockBroadcast (bp : BlockProcessor) (now : Int) (block : BxBlock)
    (networkNum : NetworkNum) (minTxAge : Int) : Except ProcessError (Broadcast × ShortIDList) :=
  -- `txs` and `usedShortIDs`
  let compressed := compressTransactions bp.txStore (now - minTxAge) block.txs
  match encodeBlockRLP ⟨block.header, compressed.1, block.trailer, block.totalDifficulty,
      block.number⟩ with
  | .error e => .error (.codec e)
  | .ok encodedBlock =>
      .ok (⟨block.hash, emptyHash, block.type, encodedBlock, compressed.2, networkNum⟩,
        compressed.2)

def newSSZBlockBroadcast (bp : BlockProcessor) (now : Int) (block : BxBlock)
    (networkNum : NetworkNum) (minTxAge : Int) : Except ProcessError (Broadcast × ShortIDList) :=
  let compressed := compressTransactions bp.txStore (now - minTxAge) block.txs
  match marshalBlockSSZ ⟨block.trailer, compressed.1, bigIntUint64 block.number⟩ with
  | .error e => .error (.codec e)
  | .ok encodedBlock =>
      .ok (⟨block.hash, block.beaconHash, block.type, encodedBlock, compressed.2, networkNum⟩,
        compressed.2)

/-- `BxBlockToBroadcast`; the source's three switches on `block.Type` are
taken together, one branch per group of types. -/
def bxBlockToBroadcast (bp : BlockProcessor) (now : Int) (block : BxBlock)
    (networkNum : NetworkNum) (minTxAge : Int) :
    Except ProcessError (Broadcast × ShortIDList) × BlockProcessor :=
  if block.type = .eth then
    if !bp.shouldProcess now block.hash then (.error .alreadyProcessed, bp)
    else match bp.newRLPBlockBroadcast now block networkNum minTxAge with
      | .error e => (.error e, bp)
      | .ok r => (.ok r, bp.markProcessed now block.hash)
  else if block.type.isBeacon then
    if !bp.shouldProcess now block.beaconHash then (.error .alreadyProcessed, bp)
    else match bp.newSSZBlockBroadcast now block networkNum minTxAge with
      | .error e => (.error e, bp)
      | .ok r => (.ok r, bp.markProcessed now block.beaconHash)
  else (.error .unknownBlockType, bp)

end BlockProcessor

/-! ## Expansion -/

/-- The short-ID loop of `BxBlockFromBroadcast`, with its accumulators
`bxTransactions` and `missingShortIDs`. -/
def resolveShortIDs (txStore : TxStore) (shortIDs : ShortIDList) :
    List BxTransaction × ShortIDList :=
  shortIDs.foldl (fun acc sid =>
    match txStore.getTxByShortID sid with
    | .ok bxTransaction => (acc.1 ++ [bxTransaction], acc.2)
    | .error _ => (acc.1, acc.2 ++ [sid])) ([], [])

/-- The state of the inflating loops: `compressedTransactionCount`, `txs` and
`txsBytes`. -/
structure InflateState (α : Type) where
  compressedTransactionCount : Nat
  txs : List BxBlockTransaction
  txsBytes : α

def errMoreEmptyTransactions : String :=
  "could not decompress bad block: more empty transactions than short IDs provided"

/-- One iteration of the loops of `newBxBlockFromRLPBroadcast` and
`newBxBlockFromSSZBroadcast`.  The two differ only in the block transaction a
placeholder becomes and in how they count `txsBytes`. -/
def inflateTransaction {α : Type} [Add α] (placeholderTx : BxTransaction → BxBlockTransaction)
    (txSize : Bytes → α) (bxTransactions : List BxTransaction) (st : InflateState α)
    (tx : BxCompressedTransaction) : Except ProcessError (InflateState α) :=
  if !tx.isFullTransaction then
    if h : st.compressedTransactionCount < bxTransactions.length then
      let bxTransaction := bxTransactions[st.compressedTransactionCount]
      .ok ⟨st.compressedTransactionCount + 1, st.txs ++ [placeholderTx bxTransaction],
        st.txsBytes + txSize bxTransaction.content⟩
    else .error (.codec errMoreEmptyTransactions)
  else .ok ⟨st.compressedTransactionCount, st.txs ++ [newRawBxBlockTransaction tx.transaction],
    st.txsBytes + txSize tx.transaction⟩

/-- The RLP loop: a placeholder takes the next resolved transaction, hash
included, and `txsBytes` adds up content lengths. -/
def inflateRLPTransaction (bxTransactions : List BxTransaction) :
    InflateState Nat → BxCompressedTransaction → Except ProcessError (InflateState Nat) :=
  inflateTransaction (fun t => ⟨t.hash, t.content⟩) List.length bxTransactions

/-- `calcBeaconTransactionLength`.  `Uint64` of the negative `big.Int`
difference returns its magnitude. -/
def calcBeaconTransactionLength (rawTx : Bytes) : Int :=
  match rawTx with
  | [] => 0
  | b :: _ =>
      let txLen : Int := rawTx.length + 4
      if b < 0xC0 then
        if b = 0x80 then txLen - 2
        else if b > 0x80 then
          let minus : Int := (((b.toNat : Int) - 0xb7).natAbs : Int)
          txLen - (minus + 1)
        else txLen
      else txLen

/-- The SSZ loop: a placeholder takes the content of the next resolved
transaction, without its hash, and `txsBytes` adds up
`calcBeaconTransactionLength`. -/
def inflateSSZTransaction (bxTransactions : List BxTransaction) :
    InflateState Int → BxCompressedTransaction → Except ProcessError (InflateState Int) :=
  inflateTransaction (fun t => newRawBxBlockTransaction t.content) calcBeaconTransactionLength
    bxTransactions

/-- `rlp.ListSize`: a list header and its content. -/
def listSize (contentSize : Nat) : Nat := (listHead contentSize).length + contentSize

def newBxBlockFromRLPBroadcast (broadcast : Broadcast) (bxTransactions : List BxTransaction) :
    Except ProcessError BxBlock :=
  match decodeBlockRLP broadcast.block with
  | .error e => .error (.codec e)
  | .ok rlpBlock =>
      match rlpBlock.txs.foldlM (inflateRLPTransaction bxTransactions) ⟨0, [], 0⟩ with
      | .error e => .error e
      | .ok st =>
          let blockSize := listSize (rlpBlock.header.length + listSize st.txsBytes +
            rlpBlock.trailer.length)
          .ok ⟨broadcast.hash, emptyHash, broadcast.blockType, rlpBlock.header, st.txs,
            rlpBlock.trailer, rlpBlock.totalDifficulty, rlpBlock.number, blockSize⟩

def newBxBlockFromSSZBroadcast (broadcast : Broadcast) (bxTransactions : List BxTransaction) :
    Except ProcessError BxBlock :=
  match unmarshalBlockSSZ broadcast.block with
  | .error e => .error (.codec e)
  | .ok sszBlock =>
      match sszBlock.txs.foldlM (inflateSSZTransaction bxTransactions) ⟨0, [], 0⟩ with
      | .error e => .error e
      | .ok st =>
          let blockSize := sszBlock.block.length + st.txsBytes
          .ok ⟨broadcast.hash, broadcast.beaconHash, broadcast.blockType, [], st.txs,
            sszBlock.block, none, int64OfUint64 sszBlock.number, blockSize⟩

namespace BlockProcessor

/-- `BxBlockFromBroadcast`.  A beacon broadcast is checked for an empty beacon
hash before its dedup key, and a successful beacon expansion marks both
hashes. -/
def bxBlockFromBroadcast (bp : BlockProcessor) (now : Int) (broadcast : Broadcast) :
    Except ProcessError (BxBlock × ShortIDList) × BlockProcessor :=
  if broadcast.blockType = .eth ∧ !bp.shouldProcess now broadcast.hash then
    (.error .alreadyProcessed, bp)
  else if broadcast.blockType.isBeacon ∧ broadcast.beaconHash.empty then
    (.error .notCompitableBeaconBlock, bp)
  else if broadcast.blockType.isBeacon ∧ !bp.shouldProcess now broadcast.beaconHash then
    (.error .alreadyProcessed, bp)
  else if broadcast.blockType = .unknown then (.error .unknownBlockType, bp)
  else
    -- `bxTransactions` and `missingShortIDs`
    let resolved := resolveShortIDs bp.txStore broadcast.shortIDs
    if resolved.2 ≠ [] then (.error (.missingShortIDs resolved.2), bp)
    else if broadcast.blockType = .eth then
      match newBxBlockFromRLPBroadcast broadcast resolved.1 with
      | .ok block => (.ok (block, resolved.2), bp.markProcessed now broadcast.hash)
      | .error e => (.error e, bp)
    else
      match newBxBlockFromSSZBroadcast broadcast resolved.1 with
      | .ok block =>
          (.ok (block, resolved.2),
            (bp.markProcessed now broadcast.hash).markProcessed now broadcast.beaconHash)
      | .error e => (.error e, bp)

end BlockProcessor

end Gateway.Services

/-! ## Dedup keys -/

namespace Gateway.Types

/-- The hash `BxBlockToBroadcast` checks and marks: `Hash` for an Ethereum
block, `BeaconHash` for a beacon block. -/
def BxBlock.dedupKey (block : BxBlock) : Option SHA256Hash :=
  if block.type = .eth then some block.hash
  else if block.type.isBeacon then some block.beaconHash
  else none

/-- The hash `BxBlockFromBroadcast` checks: `Hash` for an Ethereum broadcast,
`BeaconHash` for a beacon broadcast. -/
def Broadcast.dedupKey (broadcast : Broadcast) : Option SHA256Hash :=
  if broadcast.blockType = .eth then some broadcast.hash
  else if broadcast.blockType.isBeacon then some broadcast.beaconHash
  else none

end Gateway.Types

namespace Gateway.Services.BlockProcessor

open Gateway.Types

variable {bp : BlockProcessor} {now : Int}

theorem bxBlockToBroadcast_of_error {block : BxBlock} {networkNum : NetworkNum} {minTxAge : Int}
    {e : ProcessError} (h : (bp.bxBlockToBroadcast now block networkNum minTxAge).1 = .error e) :
    (bp.bxBlockToBroadcast now block networkNum minTxAge).2 = bp := by
  revert h
  unfold bxBlockToBroadcast
  split_ifs <;> (try split) <;> simp

theorem bxBlockToBroadcast_of_ok {block : BxBlock} {networkNum : NetworkNum} {minTxAge : Int}
    {x : Broadcast × ShortIDList}
    (h : (bp.bxBlockToBroadcast now block networkNum minTxAge).1 = .ok x) :
    (block.type = .eth ∧ (bp.bxBlockToBroadcast now block networkNum minTxAge).2 =
        bp.markProcessed now block.hash) ∨
      (block.type.isBeacon ∧ (bp.bxBlockToBroadcast now block networkNum minTxAge).2 =
        bp.markProcessed now block.beaconHash) := by
  revert h
  unfold bxBlockToBroadcast
  split_ifs <;> (try split) <;> simp_all

theorem bxBlockToBroadcast_of_exists {block : BxBlock} {networkNum : NetworkNum} {minTxAge : Int}
    {k : SHA256Hash} (hk : block.dedupKey = some k) (h : bp.processedBlocks.exists now k) :
    bp.bxBlockToBroadcast now block networkNum minTxAge = (.error .alreadyProcessed, bp) := by
  unfold BxBlock.dedupKey at hk
  unfold bxBlockToBroadcast
  split_ifs at hk ⊢ <;> cases hk <;> simp_all [shouldProcess]

theorem bxBlockFromBroadcast_of_error {broadcast : Broadcast} {e : ProcessError}
    (h : (bp.bxBlockFromBroadcast now broadcast).1 = .error e) :
    (bp.bxBlockFromBroadcast now broadcast).2 = bp := by
  revert h
  unfold bxBlockFromBroadcast
  dsimp only
  repeat' split
  all_goals intro h; first | rfl | cases h

theorem bxBlockFromBroadcast_of_ok {broadcast : Broadcast} {x : BxBlock × ShortIDList}
    (h : (bp.bxBlockFromBroadcast now broadcast).1 = .ok x) :
    (broadcast.blockType = .eth ∧
        (bp.bxBlockFromBroadcast now broadcast).2 = bp.markProcessed now broadcast.hash) ∨
      (broadcast.blockType.isBeacon ∧ (bp.bxBlockFromBroadcast now broadcast).2 =
        (bp.markProcessed now broadcast.hash).markProcessed now broadcast.beaconHash) := by
  revert h
  unfold bxBlockFromBroadcast
  dsimp only
  repeat' split
  all_goals intro h; try cases h
  · exact .inl ⟨by assumption, rfl⟩
  · refine .inr ⟨?_, rfl⟩
    cases ht : broadcast.blockType <;> simp_all [BxBlockType.isBeacon]

theorem bxBlockFromBroadcast_of_exists {broadcast : Broadcast} {k : SHA256Hash}
    (hk : broadcast.dedupKey = some k) (h : bp.processedBlocks.exists now k) :
    bp.bxBlockFromBroadcast now broadcast =
      (.error (if broadcast.blockType.isBeacon ∧ broadcast.beaconHash.empty
        then .notCompitableBeaconBlock else .alreadyProcessed), bp) := by
  have hskip : bp.shouldProcess now k = false := by simp [shouldProcess, h]
  unfold Broadcast.dedupKey at hk
  unfold bxBlockFromBroadcast
  split at hk
  next heth =>
    cases hk
    simp [heth, hskip, BxBlockType.isBeacon]
  next heth =>
    split at hk
    next hbeacon =>
      cases hk
      by_cases hempty : broadcast.beaconHash.empty <;> simp [heth, hbeacon, hempty, hskip]
    next => cases hk

end Gateway.Services.BlockProcessor
