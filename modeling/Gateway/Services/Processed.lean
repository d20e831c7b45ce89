import Gateway.Services.BlockProcessor

/-!
# The processed set along a run

Both directions of the block processor share one history of processed hashes.
A call that returns an error leaves the processor as it was; a call that
succeeds marks its own keys and nothing else.  Over a run of calls this gives
deduplication: once a call has marked a key, every later call whose dedup key
is that key is refused from the history alone, so at most one call per key
succeeds.

A run is a list of calls, each with the clock reading and the transaction
store at the moment it is made; other components of the gateway change the
store between calls.
-/

namespace Gateway.Services

open Gateway.Types

/-! ## One call -/

namespace BlockProcessor

@[simp] theorem markProcessed_txStore (bp : BlockProcessor) (now : Int) (hash : SHA256Hash) :
    (bp.markProcessed now hash).txStore = bp.txStore := rfl

theorem markProcessed_expiration (bp : BlockProcessor) (now : Int) (hash key : SHA256Hash) :
    (bp.markProcessed now hash).processedBlocks.expiration key =
      if key = hash then some (now + processedTTL) else bp.processedBlocks.expiration key := by
  simp only [markProcessed, HashHistory.add, Function.update_apply]

theorem ne_eth_of_isBeacon {t : BxBlockType} (h : t.isBeacon) : t ≠ .eth := by
  rintro rfl; cases h

/-- A call that returns an error leaves the processor unchanged.  A call that
returns no error is for an Ethereum or a beacon block, leaves the transaction
store as it was, and marks exactly its keys: they expire `processedTTL` after
`now`, and every other key keeps its expiration.  The keys are the hash of a
compressed Ethereum block, the beacon hash of a compressed beacon block, the
hash of an expanded block and, for a beacon block, its beacon hash too. -/
theorem processedBlocks_changes_only_on_success (bp : BlockProcessor) (now : Int) :
    (∀ block networkNum minTxAge,
      let r := bp.bxBlockToBroadcast now block networkNum minTxAge
      (∀ e, r.1 = .error e → r.2 = bp) ∧
      (∀ x, r.1 = .ok x → (block.type = .eth ∨ block.type.isBeacon) ∧
        r.2.txStore = bp.txStore ∧
        ∀ key, r.2.processedBlocks.expiration key =
          if (block.type = .eth ∧ key = block.hash) ∨
              (block.type.isBeacon ∧ key = block.beaconHash)
          then some (now + processedTTL) else bp.processedBlocks.expiration key)) ∧
    (∀ broadcast,
      let r := bp.bxBlockFromBroadcast now broadcast
      (∀ e, r.1 = .error e → r.2 = bp) ∧
      (∀ x, r.1 = .ok x → (broadcast.blockType = .eth ∨ broadcast.blockType.isBeacon) ∧
        r.2.txStore = bp.txStore ∧
        ∀ key, r.2.processedBlocks.expiration key =
          if key = broadcast.hash ∨ (broadcast.blockType.isBeacon ∧ key = broadcast.beaconHash)
          then some (now + processedTTL) else bp.processedBlocks.expiration key)) := by
  refine ⟨fun block _ _ => ⟨fun _ => bxBlockToBroadcast_of_error, fun _ h => ?_⟩,
    fun broadcast => ⟨fun _ => bxBlockFromBroadcast_of_error, fun _ h => ?_⟩⟩
  · rcases bxBlockToBroadcast_of_ok h with ⟨heth, hbp⟩ | ⟨hbeacon, hbp⟩
    · refine ⟨.inl heth, by rw [hbp, markProcessed_txStore], fun key => ?_⟩
      simp [hbp, markProcessed_expiration, heth, BxBlockType.isBeacon]
    · refine ⟨.inr hbeacon, by rw [hbp, markProcessed_txStore], fun key => ?_⟩
      simp [hbp, markProcessed_expiration, hbeacon, ne_eth_of_isBeacon hbeacon]
  · rcases bxBlockFromBroadcast_of_ok h with ⟨heth, hbp⟩ | ⟨hbeacon, hbp⟩
    · refine ⟨.inl heth, by rw [hbp, markProcessed_txStore], fun key => ?_⟩
      simp [hbp, markProcessed_expiration, heth, BxBlockType.isBeacon]
    · refine ⟨.inr hbeacon, by simp [hbp], fun key => ?_⟩
      simp only [hbp, markProcessed_expiration, hbeacon, true_and]
      by_cases hb : key = broadcast.beaconHash <;> by_cases hh : key = broadcast.hash <;>
        simp [hb, hh]

end BlockProcessor

/-! ## Runs -/

/-- A call of the block processor. -/
inductive Call where
  | toBroadcast (block : BxBlock) (networkNum : NetworkNum) (minTxAge : Int)
  | fromBroadcast (broadcast : Broadcast)

/-- A call with the clock reading and the store it sees. -/
structure TimedCall where
  now : Int
  txStore : TxStore
  call : Call

namespace Call

def dedupKey : Call → Option SHA256Hash
  | .toBroadcast block _ _ => block.dedupKey
  | .fromBroadcast broadcast => broadcast.dedupKey

/-- The keys a successful call marks. -/
def markedKeys : Call → List SHA256Hash
  | .toBroadcast block _ _ => block.dedupKey.toList
  | .fromBroadcast broadcast =>
      if broadcast.blockType = .eth then [broadcast.hash]
      else if broadcast.blockType.isBeacon then [broadcast.hash, broadcast.beaconHash]
      else []

/-- The error a call returns when its dedup key is already processed:
`ErrAlreadyProcessed`, except for a beacon expansion without a beacon hash,
which is refused as incompatible before its key is looked up. -/
def duplicateError : Call → ProcessError
  | .toBroadcast .. => .alreadyProcessed
  | .fromBroadcast broadcast =>
      if broadcast.blockType.isBeacon ∧ broadcast.beaconHash.empty
      then .notCompitableBeaconBlock else .alreadyProcessed

theorem dedupKey_mem_markedKeys {c : Call} {k : SHA256Hash} (h : c.dedupKey = some k) :
    k ∈ c.markedKeys := by
  cases c with
  | toBroadcast => simp_all [dedupKey, markedKeys]
  | fromBroadcast broadcast =>
    simp only [dedupKey, markedKeys, Broadcast.dedupKey] at h ⊢
    split_ifs at h ⊢ <;> simp_all

end Call

def errorOf {ε α : Type} : Except ε α → Option ε
  | .error e => some e
  | .ok _ => none

def markAll (hh : HashHistory) (now : Int) (keys : List SHA256Hash) : HashHistory :=
  keys.foldl (fun hh key => hh.add now key processedTTL) hh

theorem markAll_expiration (hh : HashHistory) (now : Int) (keys : List SHA256Hash)
    (k : SHA256Hash) :
    (markAll hh now keys).expiration k =
      if k ∈ keys then some (now + processedTTL) else hh.expiration k := by
  induction keys generalizing hh with
  | nil => simp [markAll]
  | cons key keys ih =>
    simp only [markAll, List.foldl_cons] at ih ⊢
    rw [ih]
    by_cases hk : k = key <;> simp [hk]

namespace TimedCall

/-- The error the call returns, `none` when it succeeds, and the history
after it. -/
def step (c : TimedCall) (processedBlocks : HashHistory) : Option ProcessError × HashHistory :=
  let bp : BlockProcessor := ⟨c.txStore, processedBlocks⟩
  match c.call with
  | .toBroadcast block networkNum minTxAge =>
      let r := bp.bxBlockToBroadcast c.now block networkNum minTxAge
      (errorOf r.1, r.2.processedBlocks)
  | .fromBroadcast broadcast =>
      let r := bp.bxBlockFromBroadcast c.now broadcast
      (errorOf r.1, r.2.processedBlocks)

variable {c : TimedCall} {hh : HashHistory}

theorem step_cases (c : TimedCall) (hh : HashHistory) :
    (∃ e, c.step hh = (some e, hh)) ∨
      c.step hh = (none, markAll hh c.now c.call.markedKeys) := by
  obtain ⟨now, txStore, call⟩ := c
  cases call with
  | toBroadcast block networkNum minTxAge =>
    simp only [step, Call.markedKeys]
    cases h : (BlockProcessor.bxBlockToBroadcast ⟨txStore, hh⟩ now block networkNum minTxAge).1
    case error e =>
      exact .inl ⟨e, by simp [errorOf, BlockProcessor.bxBlockToBroadcast_of_error h]⟩
    case ok x =>
      right
      rcases BlockProcessor.bxBlockToBroadcast_of_ok h with ⟨ht, h'⟩ | ⟨ht, h'⟩
      · simp [errorOf, h', ht, BxBlock.dedupKey, markAll, BlockProcessor.markProcessed]
      · have hne : block.type ≠ .eth := by rintro he; simp [he, BxBlockType.isBeacon] at ht
        simp [errorOf, h', ht, hne, BxBlock.dedupKey, markAll, BlockProcessor.markProcessed]
  | fromBroadcast broadcast =>
    simp only [step, Call.markedKeys]
    cases h : (BlockProcessor.bxBlockFromBroadcast ⟨txStore, hh⟩ now broadcast).1
    case error e =>
      exact .inl ⟨e, by simp [errorOf, BlockProcessor.bxBlockFromBroadcast_of_error h]⟩
    case ok x =>
      right
      rcases BlockProcessor.bxBlockFromBroadcast_of_ok h with ⟨ht, h'⟩ | ⟨ht, h'⟩
      · simp [errorOf, h', ht, markAll, BlockProcessor.markProcessed]
      · have hne : broadcast.blockType ≠ .eth := by
          rintro he; simp [he, BxBlockType.isBeacon] at ht
        simp [errorOf, h', ht, hne, markAll, BlockProcessor.markProcessed]

theorem step_of_exists {k : SHA256Hash} (hk : c.call.dedupKey = some k)
    (h : hh.exists c.now k) : c.step hh = (some c.call.duplicateError, hh) := by
  obtain ⟨now, txStore, call⟩ := c
  have h' : (BlockProcessor.mk txStore hh).processedBlocks.exists now k := h
  cases call with
  | toBroadcast =>
    simp [step, errorOf, Call.duplicateError, BlockProcessor.bxBlockToBroadcast_of_exists hk h']
  | fromBroadcast =>
    simp [step, errorOf, Call.duplicateError, BlockProcessor.bxBlockFromBroadcast_of_exists hk h']

end TimedCall

def runHistory : HashHistory → List TimedCall → HashHistory
  | hh, [] => hh
  | hh, c :: cs => runHistory (c.step hh).2 cs

def successKeys : HashHistory → List TimedCall → List SHA256Hash
  | _, [] => []
  | hh, c :: cs =>
      (if (c.step hh).1 = none then c.call.dedupKey.toList else []) ++ successKeys (c.step hh).2 cs

/-- No key the run marks expires during the run: every call after a
successful one comes within `processedTTL` of it. -/
def NoExpiry : HashHistory → List TimedCall → Prop
  | _, [] => True
  | hh, c :: cs =>
      ((c.step hh).1 = none → ∀ x ∈ cs, x.now < c.now + processedTTL) ∧ NoExpiry (c.step hh).2 cs

theorem runHistory_append (hh : HashHistory) (pre rest : List TimedCall) :
    runHistory hh (pre ++ rest) = runHistory (runHistory hh pre) rest := by
  induction pre generalizing hh with
  | nil => rfl
  | cons c cs ih => exact ih _

theorem noExpiry_append {hh : HashHistory} {pre rest : List TimedCall}
    (h : NoExpiry hh (pre ++ rest)) : NoExpiry (runHistory hh pre) rest := by
  induction pre generalizing hh with
  | nil => exact h
  | cons c cs ih => exact ih h.2

/-- `k` is in the history until after every call of `later`. -/
def Covers (hh : HashHistory) (k : SHA256Hash) (later : List TimedCall) : Prop :=
  ∃ e, hh.expiration k = some e ∧ ∀ x ∈ later, x.now < e

theorem Covers.exists {hh : HashHistory} {k : SHA256Hash} {c : TimedCall}
    {later : List TimedCall} (h : Covers hh k (c :: later)) : hh.exists c.now k :=
  let ⟨e, he, hlt⟩ := h
  HashHistory.exists_iff.mpr ⟨e, he, hlt c (List.mem_cons_self _ _)⟩

theorem covers_of_success {hh : HashHistory} {c : TimedCall} {later : List TimedCall}
    {k : SHA256Hash} (hs : (c.step hh).1 = none) (hk : k ∈ c.call.markedKeys)
    (htime : ∀ x ∈ later, x.now < c.now + processedTTL) : Covers (c.step hh).2 k later := by
  rcases TimedCall.step_cases c hh with ⟨e, he⟩ | he <;> rw [he] at hs ⊢
  · cases hs
  · exact ⟨_, by simp [markAll_expiration, hk], htime⟩

theorem covers_step {hh : HashHistory} {c : TimedCall} {later : List TimedCall}
    {k : SHA256Hash} (hnext : NoExpiry hh (c :: later)) (h : Covers hh k (c :: later)) :
    Covers (c.step hh).2 k later := by
  obtain ⟨e, he, hlt⟩ := h
  have hlater : ∀ x ∈ later, x.now < e := fun x hx => hlt x (List.mem_cons_of_mem _ hx)
  rcases TimedCall.step_cases c hh with ⟨err, hstep⟩ | hstep
  · exact ⟨e, by simp [hstep, he], hlater⟩
  · by_cases hk : k ∈ c.call.markedKeys
    · exact covers_of_success (by simp [hstep]) hk (hnext.1 (by simp [hstep]))
    · exact ⟨e, by simp [hstep, markAll_expiration, hk, he], hlater⟩

theorem covers_runHistory {hh : HashHistory} {k : SHA256Hash} {mid later : List TimedCall}
    (hnext : NoExpiry hh (mid ++ later)) (h : Covers hh k (mid ++ later)) :
    Covers (runHistory hh mid) k later := by
  induction mid generalizing hh with
  | nil => exact h
  | cons c cs ih => exact ih hnext.2 (covers_step hnext h)

theorem not_mem_successKeys {hh : HashHistory} {k : SHA256Hash} {calls : List TimedCall}
    (hnext : NoExpiry hh calls) (h : Covers hh k calls) : k ∉ successKeys hh calls := by
  induction calls generalizing hh with
  | nil => simp [successKeys]
  | cons c cs ih =>
    have hrest := ih hnext.2 (covers_step hnext h)
    have hhead : (c.step hh).1 = none → c.call.dedupKey ≠ some k := fun hs hk => by
      simp [TimedCall.step_of_exists hk h.exists] at hs
    simp only [successKeys, List.mem_append, not_or]
    refine ⟨?_, hrest⟩
    split_ifs with hs
    · simpa [Option.mem_toList, eq_comm] using hhead hs
    · simp

/-- Deduplication along a run in which no marked key expires: once a call has
succeeded, every later call whose dedup key is one of the keys it marked is
refused with `duplicateError` and leaves the history unchanged; hence the
dedup keys of the successful calls are pairwise distinct. -/
theorem run_dedup {hh : HashHistory} {calls : List TimedCall} (htime : NoExpiry hh calls) :
    (∀ pre d mid c post, calls = pre ++ d :: mid ++ c :: post →
      (d.step (runHistory hh pre)).1 = none → ∀ k ∈ d.call.markedKeys, c.call.dedupKey = some k →
      c.step (runHistory hh (pre ++ d :: mid)) =
        (some c.call.duplicateError, runHistory hh (pre ++ d :: mid))) ∧
    (successKeys hh calls).Nodup := by
  constructor
  · rintro pre d mid c post rfl hd k hk hc
    have hd' : NoExpiry (runHistory hh pre) (d :: (mid ++ c :: post)) :=
      noExpiry_append (by simpa using htime)
    have hcov := covers_runHistory hd'.2 (covers_of_success hd hk (hd'.1 hd))
    rw [runHistory_append]
    exact TimedCall.step_of_exists hc hcov.exists
  · induction calls generalizing hh with
    | nil => simp [successKeys]
    | cons c cs ih =>
      simp only [successKeys, List.nodup_append]
      refine ⟨?_, ih htime.2, ?_⟩
      · split_ifs <;> simp [Option.toList]; split <;> simp
      · split_ifs with hs
        · intro k hk hk'
          have hck : c.call.dedupKey = some k := by simpa [Option.mem_toList, eq_comm] using hk
          exact not_mem_successKeys htime.2
            (covers_of_success hs (Call.dedupKey_mem_markedKeys hck) (htime.1 hs)) hk'
        · simp

theorem run_dedup_recompress :
    let store : TxStore := ⟨fun _ => none, fun _ => .error "not found"⟩
    let block : BxBlock :=
      ⟨SHA256Hash.ofByte 1, SHA256Hash.ofByte 2, .beaconCapella, [], [], [], none, 0, 0⟩
    let d : TimedCall := ⟨0, store, .toBroadcast block 0 0⟩
    let d' : TimedCall := ⟨1, store, .toBroadcast block 0 0⟩
    NoExpiry .empty [d, d'] ∧
      d'.step (runHistory .empty [d]) = (some .alreadyProcessed, runHistory .empty [d]) := by
  intro store block d d'
  have h : NoExpiry .empty [d, d'] := by simp only [NoExpiry]; decide
  exact ⟨h, (run_dedup h).1 [] d [] d' [] rfl (by decide) (SHA256Hash.ofByte 2) (by decide) rfl⟩

theorem emptyBeaconHash_duplicate_not_alreadyProcessed :
    let store : TxStore := ⟨fun _ => none, fun _ => .error "not found"⟩
    let d : TimedCall := ⟨0, store,
      .toBroadcast ⟨SHA256Hash.ofByte 1, emptyHash, .beaconCapella, [], [], [], none, 0, 0⟩ 0 0⟩
    let c : TimedCall := ⟨1, store,
      .fromBroadcast ⟨SHA256Hash.ofByte 1, emptyHash, .beaconCapella, [], [], 0⟩⟩
    NoExpiry .empty [d, c] ∧ (d.step .empty).1 = none ∧ emptyHash ∈ d.call.markedKeys ∧
      c.call.dedupKey = some emptyHash ∧
      (c.step (runHistory .empty [d])).1 = some .notCompitableBeaconBlock := by
  simp only [NoExpiry]
  decide

end Gateway.Services
