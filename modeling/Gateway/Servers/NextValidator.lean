import Gateway.Types
import Mathlib.Data.List.Nodup

/-!
# The pending next-validator table

`ProcessNextValidatorTx`, which stashes a BSC next-validator transaction in
`pendingBSCNextValidatorTxHashToInfo` when the next validator cannot be
reached, and the system around that table: the calls of
`handleSingleTransaction` that stash transactions and arm their fallback
timers, the timers that fire, and any other actor that takes an entry out and
sends it.  Each of them changes the table only under the pending lock, so a
schedule is a sequence of atomic events.
-/

namespace Gateway.Servers

open Gateway.Types

/-- The constants of the `bxgateway` package that `ProcessNextValidatorTx` reads. -/
structure NetworkConsts where
  bscMainnetNum : NetworkNum
  polygonMainnetNum : NetworkNum
  /-- `uint16(NetworkToBlockDuration[BSCMainnet].Milliseconds())`. -/
  blockIntervalBSC : UInt16

/-- A `bxmessage.Tx` of a next-validator call. -/
structure NextValidatorTx where
  /-- The call of `handleSingleTransaction` that built it: the pointer's identity. -/
  call : Nat
  /-- `tx.Hash().String()`. -/
  hash : String
  fallback : UInt16
  /-- The `SetWalletID` calls made on it, in order. -/
  walletIDs : List (Nat × String)
  deriving DecidableEq

/-- `PendingNextValidatorTxInfo`, without the request time and source. -/
structure PendingNextValidatorTxInfo where
  tx : NextValidatorTx
  fallback : UInt16
  deriving DecidableEq

/-- `pendingBSCNextValidatorTxHashToInfo`. -/
abbrev PendingTable := String → Option PendingNextValidatorTxInfo

namespace PendingTable

def insert (table : PendingTable) (hash : String) (info : PendingNextValidatorTxInfo) :
    PendingTable :=
  fun h => if h = hash then some info else table h

def erase (table : PendingTable) (hash : String) : PendingTable :=
  fun h => if h = hash then none else table h

@[simp] theorem insert_apply (table : PendingTable) (hash h : String)
    (info : PendingNextValidatorTxInfo) :
    table.insert hash info h = if h = hash then some info else table h := rfl

@[simp] theorem erase_apply (table : PendingTable) (hash h : String) :
    table.erase hash h = if h = hash then none else table h := rfl

end PendingTable

def NextValidatorTx.setWalletID (tx : NextValidatorTx) (i : Nat) (wallet : String) :
    NextValidatorTx :=
  { tx with walletIDs := tx.walletIDs ++ [(i, wallet)] }

@[simp] theorem NextValidatorTx.setWalletID_call (tx : NextValidatorTx) (i : Nat)
    (wallet : String) :
    (tx.setWalletID i wallet).call = tx.call := rfl

@[simp] theorem NextValidatorTx.setWalletID_hash (tx : NextValidatorTx) (i : Nat)
    (wallet : String) :
    (tx.setWalletID i wallet).hash = tx.hash := rfl

section Process

variable (consts : NetworkConsts)

/-- The Polygon block of `ProcessNextValidatorTx`: the two newest wallets. -/
def polygonWallets (networkNum : NetworkNum) (n1Validator : Option String) (n2Validator : String)
    (tx : NextValidatorTx) : NextValidatorTx :=
  if networkNum = consts.polygonMainnetNum then
    match n1Validator with
    | some n1 => (tx.setWalletID 0 n1).setWalletID 1 n2Validator
    | none => tx.setWalletID 0 n2Validator
  else tx

@[simp] theorem polygonWallets_call (networkNum : NetworkNum) (n1Validator : Option String)
    (n2Validator : String) (tx : NextValidatorTx) :
    (polygonWallets consts networkNum n1Validator n2Validator tx).call = tx.call := by
  unfold polygonWallets; split_ifs <;> (try split) <;> simp

@[simp] theorem polygonWallets_hash (networkNum : NetworkNum) (n1Validator : Option String)
    (n2Validator : String) (tx : NextValidatorTx) :
    (polygonWallets consts networkNum n1Validator n2Validator tx).hash = tx.hash := by
  unfold polygonWallets; split_ifs <;> (try split) <;> simp

/-- `ProcessNextValidatorTx` on the next-validator wallets, oldest first, and
the validator statuses: whether the transaction is left pending, the
transaction as it leaves the call, and the table. -/
def processNextValidatorTx (tx : NextValidatorTx) (fallback : UInt16)
    (nextValidatorMap : Option (List String)) (validatorStatusMap : String → Option Bool)
    (networkNum : NetworkNum) (table : PendingTable) :
    Except String (Bool × NextValidatorTx × PendingTable) :=
  if networkNum ≠ consts.bscMainnetNum ∧ networkNum ≠ consts.polygonMainnetNum then
    .error ("currently next_validator is only supported on BSC and Polygon networks, " ++
      "please contact bloXroute support")
  else
    match nextValidatorMap with
    | none => .error "failed to send next validator tx, please contact bloXroute support"
    | some validators =>
      let tx := { tx with fallback := fallback }
      match validators.getLast? with
      | none => .error ("can't send tx with next_validator because the gateway encountered an " ++
          "issue fetching the epoch block, please try again later or contact bloXroute support")
      | some n2Validator =>
        let n1Validator := validators.dropLast.getLast?
        if networkNum = consts.bscMainnetNum then
          if (n1Validator.bind validatorStatusMap).getD false then
            .ok (false, polygonWallets consts networkNum n1Validator n2Validator
              (tx.setWalletID 0 (n1Validator.getD "")), table)
          else if fallback ≠ 0 ∧ fallback < consts.blockIntervalBSC then .ok (false, tx, table)
          else .ok (true, tx, table.insert tx.hash ⟨tx, fallback⟩)
        else .ok (false, polygonWallets consts networkNum n1Validator n2Validator tx, table)

theorem processNextValidatorTx_ok {tx tx' : NextValidatorTx} {fallback : UInt16}
    {nextValidatorMap : Option (List String)} {validatorStatusMap : String → Option Bool}
    {networkNum : NetworkNum} {table table' : PendingTable} {pending : Bool}
    (h : processNextValidatorTx consts tx fallback nextValidatorMap validatorStatusMap networkNum
      table = .ok (pending, tx', table')) :
    tx'.call = tx.call ∧ tx'.hash = tx.hash ∧
      table' = if pending then table.insert tx'.hash ⟨tx', fallback⟩ else table := by
  unfold processNextValidatorTx at h
  rcases nextValidatorMap with _ | validators
  · split_ifs at h
  · rcases hlast : validators.getLast? with _ | n2Validator
    · simp only [hlast] at h
      split_ifs at h
    · simp only [hlast] at h
      split_ifs at h <;> cases h <;> simp

end Process

/-! ## The table under its lock -/

/-- One atomic step under the pending lock. -/
inductive PendingEvent where
  /-- A call of `handleSingleTransaction` for a next-validator transaction of
  this hash and fallback, validated against these next-validator wallets,
  oldest first, and validator statuses.  When its transaction is left pending
  and its fallback is not zero, the call arms the transaction's fallback timer. -/
  | submit (hash : String) (fallback : UInt16) (nextValidatorMap : Option (List String))
      (validatorStatusMap : String → Option Bool)
  /-- The fallback timer of this call fires. -/
  | fire (call : Nat)
  /-- Another actor takes the entry of this hash, if there is one, and sends it. -/
  | take (hash : String)

structure PendingState where
  table : PendingTable
  /-- Armed fallback timers, by call, with the transaction each captured. -/
  timers : Nat → Option NextValidatorTx
  /-- The calls made so far. -/
  calls : Nat
  /-- The transactions handed to `HandleMsg` from the table, in order. -/
  sent : List NextValidatorTx
  /-- The transactions `ProcessNextValidatorTx` has inserted, in order: a
  history variable, which no step reads. -/
  inserted : List NextValidatorTx

def PendingState.init : PendingState := ⟨fun _ => none, fun _ => none, 0, [], []⟩

section Run

variable (consts : NetworkConsts) (networkNum : NetworkNum)

/-- What the fallback timer sends: `RemoveFlags(TFNextValidator)` and `SetFallback(0)`. -/
def NextValidatorTx.atFallback (tx : NextValidatorTx) : NextValidatorTx := { tx with fallback := 0 }

def PendingState.step (st : PendingState) : PendingEvent → PendingState
  | .submit hash fallback nextValidatorMap validatorStatusMap =>
    let tx : NextValidatorTx := ⟨st.calls, hash, 0, []⟩
    let st := { st with calls := st.calls + 1 }
    match processNextValidatorTx consts tx fallback nextValidatorMap validatorStatusMap networkNum
        st.table with
    | .error _ => st
    | .ok (pending, tx, table) =>
      { st with
        table := table
        inserted := if pending then st.inserted ++ [tx] else st.inserted
        timers := fun c => if pending ∧ fallback ≠ 0 ∧ c = tx.call then some tx else st.timers c }
  | .fire call =>
    match st.timers call with
    | none => st
    | some tx =>
      let st := { st with timers := fun c => if c = call then none else st.timers c }
      match st.table tx.hash with
      | none => st
      | some _ => { st with table := st.table.erase tx.hash, sent := st.sent ++ [tx.atFallback] }
  | .take hash =>
    match st.table hash with
    | none => st
    | some info => { st with table := st.table.erase hash, sent := st.sent ++ [info.tx] }

def PendingState.run (st : PendingState) (events : List PendingEvent) : PendingState :=
  events.foldl (PendingState.step consts networkNum) st

/-! ## Every schedule -/

/-- What holds in every state a schedule reaches: per hash, the transactions
sent from the table and the entry it still holds never outnumber the entries
inserted, and every entry, armed timer and sent transaction is one that
`ProcessNextValidatorTx` inserted. -/
structure PendingState.Inv (st : PendingState) : Prop where
  bounded : ∀ h, (st.sent.map (·.hash)).count h + (st.table h).isSome.toNat ≤
    (st.inserted.map (·.hash)).count h
  table_inserted : ∀ h info, st.table h = some info → info.tx ∈ st.inserted ∧ info.tx.hash = h
  timers_inserted : ∀ c tx, st.timers c = some tx → tx ∈ st.inserted ∧ tx.call = c
  sent_inserted : ∀ tx ∈ st.sent, ∃ tx' ∈ st.inserted, tx'.call = tx.call ∧ tx'.hash = tx.hash

theorem PendingState.inv_init : PendingState.init.Inv :=
  ⟨by simp [init], by simp [init], by simp [init], by simp [init]⟩

theorem bounded_send {sent inserted : List NextValidatorTx} {table : PendingTable}
    {x : NextValidatorTx} {info : PendingNextValidatorTxInfo}
    (hb : ∀ h, (sent.map (·.hash)).count h + (table h).isSome.toNat ≤
      (inserted.map (·.hash)).count h)
    (hx : table x.hash = some info) (h : String) :
    ((sent ++ [x]).map (·.hash)).count h + (table.erase x.hash h).isSome.toNat ≤
      (inserted.map (·.hash)).count h := by
  have := hb h
  by_cases hh : h = x.hash
  · subst hh; simp_all [List.count_append]
  · simp_all [List.count_append, List.count_singleton, Ne.symm hh]

theorem bounded_insert {sent inserted : List NextValidatorTx} {table : PendingTable}
    {x : NextValidatorTx} {fallback : UInt16}
    (hb : ∀ h, (sent.map (·.hash)).count h + (table h).isSome.toNat ≤
      (inserted.map (·.hash)).count h) (h : String) :
    (sent.map (·.hash)).count h + (table.insert x.hash ⟨x, fallback⟩ h).isSome.toNat ≤
      ((inserted ++ [x]).map (·.hash)).count h := by
  have := hb h
  by_cases hh : h = x.hash
  · subst hh
    have : (table x.hash).isSome.toNat ≤ 1 := Bool.toNat_le _
    simp only [PendingTable.insert_apply, if_true, Option.isSome_some, Bool.toNat_true,
      List.map_append, List.map_cons, List.map_nil, List.count_append, List.count_singleton_self]
    omega
  · simp_all [List.count_append, List.count_singleton, Ne.symm hh]

theorem PendingState.Inv.send {st : PendingState} (hinv : st.Inv) {x : NextValidatorTx}
    {info : PendingNextValidatorTxInfo} (hx : st.table x.hash = some info)
    (hinserted : ∃ tx ∈ st.inserted, tx.call = x.call ∧ tx.hash = x.hash)
    {timers : Nat → Option NextValidatorTx}
    (htimers : ∀ c tx, timers c = some tx → tx ∈ st.inserted ∧ tx.call = c) :
    (⟨st.table.erase x.hash, timers, st.calls, st.sent ++ [x], st.inserted⟩ :
      PendingState).Inv := by
  obtain ⟨hb, htable, -, hsent⟩ := hinv
  refine ⟨bounded_send hb hx, fun h info' hi => ?_, htimers, fun tx hm => ?_⟩
  · simp only [PendingTable.erase_apply] at hi
    split_ifs at hi
    exact htable h info' hi
  · rcases List.mem_append.mp hm with hm | hm
    · exact hsent tx hm
    · obtain rfl := List.mem_singleton.mp hm
      exact hinserted

theorem PendingState.Inv.insert {st : PendingState} (hinv : st.Inv) (tx : NextValidatorTx)
    (arm : Nat → Prop) [DecidablePred arm] (fallback : UInt16)
    (harm : ∀ c, arm c → c = tx.call)
    (calls : Nat) :
    (⟨st.table.insert tx.hash ⟨tx, fallback⟩, fun c => if arm c then some tx else st.timers c,
      calls, st.sent, st.inserted ++ [tx]⟩ : PendingState).Inv := by
  obtain ⟨hb, htable, htimers, hsent⟩ := hinv
  refine ⟨bounded_insert hb, fun h info hi => ?_, fun c tx' ht => ?_, fun tx' hx => ?_⟩
  · by_cases hh : h = tx.hash
    · simp only [hh, PendingTable.insert_apply, if_true, Option.some.injEq] at hi
      subst hi
      simp [hh]
    · simp only [PendingTable.insert_apply, if_neg hh] at hi
      exact (htable h info hi).imp (List.mem_append_left _) id
  · dsimp only at ht
    split_ifs at ht with hc
    · cases ht
      simp [harm c hc]
    · exact (htimers c tx' ht).imp (List.mem_append_left _) id
  · obtain ⟨tx'', hmem, h'⟩ := hsent tx' hx
    exact ⟨tx'', List.mem_append_left _ hmem, h'⟩

theorem PendingState.Inv.step {st : PendingState} (hinv : st.Inv) (e : PendingEvent) :
    (st.step consts networkNum e).Inv := by
  have ⟨hb, htable, htimers, hsent⟩ := hinv
  cases e with
  | submit hash fallback nextValidatorMap validatorStatusMap =>
    simp only [PendingState.step]
    split
    · exact ⟨hb, htable, htimers, hsent⟩
    next pending tx table hp =>
      obtain ⟨hcall, -, rfl⟩ := processNextValidatorTx_ok consts hp
      cases pending
      · exact ⟨hb, htable, by simpa using htimers, hsent⟩
      · simpa using hinv.insert tx (fun c => fallback ≠ 0 ∧ c = tx.call) fallback
          (fun _ h => h.2) (st.calls + 1)
  | fire call =>
    simp only [PendingState.step]
    split
    · exact hinv
    next tx htx =>
      have htimers' : ∀ c tx', (if c = call then none else st.timers c) = some tx' →
          tx' ∈ st.inserted ∧ tx'.call = c := fun c tx' h' => by
        split_ifs at h'; exact htimers c tx' h'
      split
      · exact ⟨hb, htable, htimers', hsent⟩
      next info hinfo =>
        exact @PendingState.Inv.send st hinv tx.atFallback info hinfo
          ⟨tx, (htimers call tx htx).1, rfl, rfl⟩ _ htimers'
  | take hash =>
    simp only [PendingState.step]
    split
    · exact hinv
    next info hinfo =>
      obtain ⟨hmem, rfl⟩ := htable hash info hinfo
      exact hinv.send hinfo ⟨_, hmem, rfl, rfl⟩ htimers

theorem PendingState.Inv.run {st : PendingState} (hinv : st.Inv) (events : List PendingEvent) :
    (st.run consts networkNum events).Inv := by
  induction events generalizing st with
  | nil => exact hinv
  | cons e events ih => exact ih (hinv.step consts networkNum e)

/-- A fallback timer sends its own call's transaction exactly when the table
holds an entry for that transaction's hash, and removes that entry.  Over any
schedule, each hash is sent from the table no more often than it was
inserted, and only transactions some call inserted are sent; so when no hash
is submitted twice, nothing is sent twice, and a timer that finds an entry
finds the one its own call inserted. -/
theorem pending_table_sends (events : List PendingEvent) :
    (∀ (st : PendingState) c tx, st.timers c = some tx →
      (st.step consts networkNum (.fire c)).table = st.table.erase tx.hash ∧
      (st.step consts networkNum (.fire c)).sent =
        st.sent ++ (if (st.table tx.hash).isSome then [tx.atFallback] else [])) ∧
    let st := PendingState.init.run consts networkNum events
    (∀ h, (st.sent.map (·.hash)).count h ≤ (st.inserted.map (·.hash)).count h) ∧
    (∀ tx ∈ st.sent, ∃ tx' ∈ st.inserted, tx'.call = tx.call ∧ tx'.hash = tx.hash) ∧
    ((st.inserted.map (·.hash)).Nodup →
      (st.sent.map (·.hash)).Nodup ∧
      ∀ c tx info, st.timers c = some tx → st.table tx.hash = some info → info.tx.call = c) := by
  refine ⟨fun st c tx htx => ?_, ?_⟩
  · simp only [PendingState.step, htx]
    split
    next hnone =>
      refine ⟨funext fun h => ?_, by simp [hnone]⟩
      by_cases hh : h = tx.hash
      · simp [hh, hnone]
      · simp [hh]
    next => simp_all
  · obtain ⟨hb, htable, htimers, hsent⟩ := PendingState.inv_init.run consts networkNum events
    refine ⟨fun h => le_trans (Nat.le_add_right _ _) (hb h), hsent, fun hnodup => ⟨?_, ?_⟩⟩
    · exact List.nodup_iff_count_le_one.mpr fun h =>
        le_trans (le_trans (Nat.le_add_right _ _) (hb h)) (List.nodup_iff_count_le_one.mp hnodup h)
    · intro c tx info htx hinfo
      obtain ⟨hmem, rfl⟩ := htimers c tx htx
      obtain ⟨hmem', hhash⟩ := htable tx.hash info hinfo
      rw [List.inj_on_of_nodup_map hnodup hmem' hmem hhash]

end Run

/-- A transaction is stashed, taken and sent by another actor, and submitted
again: the first call's timer then finds the second call's entry, removes it,
and sends the first call's transaction a second time. -/
theorem resubmitted_tx_sent_twice :
    let st := PendingState.init.run ⟨1, 2, 3000⟩ 1
      [.submit "0xab" 5000 (some ["v1", "v2"]) (fun _ => some false), .take "0xab",
       .submit "0xab" 5000 (some ["v1", "v2"]) (fun _ => some false), .fire 0]
    st.inserted.map (·.call) = [0, 1] ∧ st.sent.map (·.call) = [0, 0] := by
  decide

end Gateway.Servers
