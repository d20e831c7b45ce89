import Gateway.Codec.Hex
import Gateway.Servers.Subscribe

/-!
# The onBlock dispatcher

On every block the node notifies, `Handle` runs one goroutine per call of an
onBlock subscription.  An active call's goroutine asks the node connection for
the call's payload at the block tag
`hexutil.EncodeUint64(block.Header.GetNumber() + uint64(call.blockOffset))`,
makes the RPC call and notifies the client of the response.  A call the node
refuses is disabled for the blocks after.  Once every goroutine is done, the
client is told the block's task is complete; a failed notice, or a block with
no synced node, ends the subscription.

The goroutines of a block run concurrently, so the model keeps each one's
effects in a list of its own and fixes no interleaving.  The node connection,
the client connection and the text of a call are collaborators.
-/

namespace Gateway.Servers

open Gateway.Hex

/-- Go's `uint64(x)` of an `int`: its residue modulo `2^64`. -/
def uint64OfInt (x : Int) : UInt64 := UInt64.ofNat (x % UInt64.size).toNat

/-- What the dispatcher reads of an `EthBlockNotification`: `Header.Number` as
it came, `Header.GetNumber()` and the block hash. -/
structure OnBlockBlock where
  heightText : String
  number : UInt64
  hash : String
  deriving DecidableEq, Repr

/-- `types.NewOnBlockNotification(name, response, blockHeight, tag, hash)`. -/
structure OnBlockNotification where
  name : String
  response : String
  blockHeight : String
  tag : String
  hash : String
  deriving DecidableEq, Repr

/-- What a goroutine does that the node or the client sees: the arguments of
`ConstructRPCCallPayload`, an RPC call with the payload it built, and a
notification. -/
inductive OnBlockEffect (Payload : Type) where
  | construct (method : String) (payload : List (String × String)) (tag : String)
  | request (method : String) (payload : Payload)
  | notify (notification : OnBlockNotification)

/-- The collaborators of the dispatcher, each with any behaviour. -/
structure OnBlockEnv (Payload : Type) where
  /-- `getSyncedWSProvider(block.Source())` finds a synced node. -/
  synced : OnBlockBlock → Bool
  /-- `nodeWSManager.ConstructRPCCallPayload`, and `CallRPC` of the node found
  for a block. -/
  constructRPCCallPayload : String → List (String × String) → String → Except String Payload
  callRPC : OnBlockBlock → String → Payload → Except String String
  /-- `sendNotification` succeeds. -/
  sendNotification : OnBlockNotification → Bool
  /-- `call.string()`, and the event names `TaskDisabledEvent` and
  `TaskCompletedEvent`. -/
  callText : RPCCall → String
  taskDisabledEvent : String
  taskCompletedEvent : String

/-- What the dispatcher does on one block: each call's goroutine, then the
notice that the block's task is complete. -/
structure BlockDispatch (Payload : Type) where
  block : OnBlockBlock
  goroutines : List (List (OnBlockEffect Payload))
  completed : OnBlockNotification

/-- `hexutil.EncodeUint64(block.Header.GetNumber() + uint64(call.blockOffset))`,
in `uint64` arithmetic. -/
def blockTag (block : OnBlockBlock) (call : RPCCall) : String :=
  encodeUint64 (block.number + uint64OfInt call.blockOffset)

namespace OnBlockEnv

variable {Payload : Type} (node : OnBlockEnv Payload)

/-! ## One block -/

/-- The goroutine of `call`: its effects, and the call afterwards. -/
def dispatchCall (block : OnBlockBlock) (call : RPCCall) :
    List (OnBlockEffect Payload) × RPCCall :=
  if call.active then
    let tag := blockTag block call
    let construct := OnBlockEffect.construct call.commandMethod call.callPayload tag
    match node.constructRPCCallPayload call.commandMethod call.callPayload tag with
    | .error _ => ([construct], call)
    | .ok payload =>
      match node.callRPC block call.commandMethod payload with
      | .error _ =>
        let disabled := { call with active := false }
        ([construct, .request call.commandMethod payload,
          .notify ⟨node.taskDisabledEvent, node.callText disabled, block.heightText, tag,
            block.hash⟩], disabled)
      | .ok response =>
        ([construct, .request call.commandMethod payload,
          .notify ⟨call.callName, response, block.heightText, tag, block.hash⟩], call)
  else ([], call)

def completedNotification (block : OnBlockBlock) : OnBlockNotification :=
  ⟨node.taskCompletedEvent, "", block.heightText, block.heightText, block.hash⟩

/-- The goroutines of every call on `block`, and the calls afterwards. -/
def dispatchBlock (calls : List (String × RPCCall)) (block : OnBlockBlock) :
    BlockDispatch Payload × List (String × RPCCall) :=
  (⟨block, calls.map fun c => (node.dispatchCall block c.2).1,
      node.completedNotification block⟩,
    calls.map fun c => (c.1, (node.dispatchCall block c.2).2))

/-- The onBlock case of the notification loop over a run of blocks. -/
def runOnBlock : List (String × RPCCall) → List OnBlockBlock → List (BlockDispatch Payload)
  | _, [] => []
  | calls, block :: blocks =>
    if node.synced block then
      (node.dispatchBlock calls block).1 ::
        if node.sendNotification (node.completedNotification block) then
          runOnBlock (node.dispatchBlock calls block).2 blocks
        else []
    else []

theorem mem_dispatchCall_construct {block : OnBlockBlock} {call : RPCCall} {method : String}
    {payload : List (String × String)} {tag : String}
    (h : .construct method payload tag ∈ (node.dispatchCall block call).1) :
    call.active ∧ method = call.commandMethod ∧ payload = call.callPayload ∧
      tag = blockTag block call := by
  unfold dispatchCall at h
  split_ifs at h with hactive
  · refine ⟨hactive, ?_⟩
    dsimp only at h
    split at h
    · simpa using h
    · split at h <;> simpa using h
  · simp at h

theorem dispatchCall_call (block : OnBlockBlock) (call : RPCCall) :
    ∃ active, (node.dispatchCall block call).2 = { call with active := active } := by
  unfold dispatchCall
  split_ifs
  · dsimp only
    split
    · exact ⟨call.active, rfl⟩
    · split
      · exact ⟨false, rfl⟩
      · exact ⟨call.active, rfl⟩
  · exact ⟨call.active, rfl⟩

/-! ## Runs -/

theorem mem_dispatchBlock_calls {calls : List (String × RPCCall)} {block : OnBlockBlock}
    {c' : String × RPCCall} (h : c' ∈ (node.dispatchBlock calls block).2) :
    ∃ c ∈ calls, ∃ active, c'.2 = { c.2 with active := active } := by
  obtain ⟨c, hc, rfl⟩ := List.mem_map.1 h
  exact ⟨c, hc, node.dispatchCall_call block c.2⟩

theorem runOnBlock_construct :
    ∀ {calls : List (String × RPCCall)} {blocks : List OnBlockBlock}
      {d : BlockDispatch Payload} {g : List (OnBlockEffect Payload)} {method : String}
      {payload : List (String × String)} {tag : String},
      d ∈ node.runOnBlock calls blocks → g ∈ d.goroutines →
      .construct method payload tag ∈ g →
      ∃ c ∈ calls, method = c.2.commandMethod ∧ payload = c.2.callPayload ∧
        tag = blockTag d.block c.2
  | _, [], _, _, _, _, _, hd, _, _ => by cases hd
  | calls, block :: blocks, d, g, method, payload, tag, hd, hg, he => by
    unfold runOnBlock at hd
    split at hd
    case isFalse => cases hd
    rcases List.mem_cons.1 hd with rfl | hd
    · obtain ⟨c, hc, rfl⟩ := List.mem_map.1 hg
      obtain ⟨-, hmethod, hpayload, htag⟩ := node.mem_dispatchCall_construct he
      exact ⟨c, hc, hmethod, hpayload, htag⟩
    split at hd
    case isFalse => cases hd
    obtain ⟨c', hc', hmethod, hpayload, htag⟩ := runOnBlock_construct hd hg he
    obtain ⟨c, hc, active, hcall⟩ := node.mem_dispatchBlock_calls hc'
    rw [hcall] at hmethod hpayload htag
    exact ⟨c, hc, hmethod, hpayload, htag⟩

/-! ## Refused calls -/

/-- The goroutine `g`, run on `block`, made a request the node refused. -/
def Refused (block : OnBlockBlock) (g : List (OnBlockEffect Payload)) : Prop :=
  ∃ method payload e, .request method payload ∈ g ∧ node.callRPC block method payload = .error e

theorem dispatchBlock_goroutines_getElem? (calls : List (String × RPCCall))
    (block : OnBlockBlock) (k : Nat) :
    (node.dispatchBlock calls block).1.goroutines[k]? =
      calls[k]?.map fun c => (node.dispatchCall block c.2).1 :=
  List.getElem?_map _ _ _

theorem dispatchBlock_calls_getElem? (calls : List (String × RPCCall))
    (block : OnBlockBlock) (k : Nat) :
    (node.dispatchBlock calls block).2[k]? =
      calls[k]?.map fun c => (c.1, (node.dispatchCall block c.2).2) :=
  List.getElem?_map _ _ _

theorem dispatchCall_fst_eq_nil (block : OnBlockBlock) (call : RPCCall) :
    (node.dispatchCall block call).1 = [] ↔ call.active = false := by
  unfold dispatchCall
  split_ifs with hactive
  · dsimp only
    split
    · simp [hactive]
    · split <;> simp [hactive]
  · simpa using hactive

theorem dispatchCall_active_eq_false (block : OnBlockBlock) (call : RPCCall) :
    (node.dispatchCall block call).2.active = false ↔
      call.active = false ∨ node.Refused block (node.dispatchCall block call).1 := by
  unfold dispatchCall
  split_ifs with hactive
  · dsimp only
    split
    · simp [hactive, Refused]
    · split
      next e he => exact iff_of_true rfl (.inr ⟨_, _, e, by simp, he⟩)
      next response hresponse => simp [hactive, Refused, hresponse]
  · simp [hactive, Refused]

theorem runOnBlock_goroutine_eq_nil :
    ∀ {calls : List (String × RPCCall)} {blocks : List OnBlockBlock} {j k : Nat}
      {d : BlockDispatch Payload} {g : List (OnBlockEffect Payload)},
      (node.runOnBlock calls blocks)[j]? = some d → d.goroutines[k]? = some g →
      ∃ c, calls[k]? = some c ∧ (g = [] ↔ c.2.active = false ∨
        ∃ d₀ ∈ (node.runOnBlock calls blocks).take j, ∃ g₀,
          d₀.goroutines[k]? = some g₀ ∧ node.Refused d₀.block g₀)
  | _, [], _, _, _, _, hd, _ => by cases hd
  | calls, block :: blocks, j, k, d, g, hd, hg => by
    by_cases hsynced : node.synced block
    case neg => rw [runOnBlock, if_neg hsynced] at hd; cases hd
    rw [runOnBlock, if_pos hsynced] at hd ⊢
    cases j with
    | zero =>
      obtain rfl := Option.some.inj (List.getElem?_cons_zero.symm.trans hd)
      obtain ⟨c, hc, rfl⟩ := Option.map_eq_some'.1
        ((node.dispatchBlock_goroutines_getElem? calls block k).symm.trans hg)
      exact ⟨c, hc, by simp [dispatchCall_fst_eq_nil]⟩
    | succ j =>
      by_cases hsend : node.sendNotification (node.completedNotification block)
      case neg => rw [if_neg hsend] at hd; cases hd
      rw [if_pos hsend, List.getElem?_cons_succ] at hd
      rw [if_pos hsend, List.take_succ_cons]
      obtain ⟨c', hc', hiff⟩ := runOnBlock_goroutine_eq_nil hd hg
      obtain ⟨c, hc, rfl⟩ := Option.map_eq_some'.1
        ((node.dispatchBlock_calls_getElem? calls block k).symm.trans hc')
      refine ⟨c, hc, ?_⟩
      rw [hiff, dispatchCall_active_eq_false]
      simp only [List.mem_cons, or_and_right, exists_or, exists_eq_left,
        dispatchBlock_goroutines_getElem?, hc, Option.map_some', Option.some.injEq, exists_eq_left',
        or_assoc]
      rfl

end OnBlockEnv

/-! ## What a tag stands for -/

theorem uint64_size : UInt64.size = 18446744073709551616 := rfl

theorem toNat_uint64OfInt (o : Int) : ((uint64OfInt o).toNat : Int) = o % UInt64.size := by
  unfold uint64OfInt
  rw [UInt64.toNat_ofNat_of_lt] <;> simp only [uint64_size] <;> omega

theorem toNat_add_uint64OfInt (n : UInt64) (o : Int) :
    ((n + uint64OfInt o).toNat : Int) = (n.toNat + o) % UInt64.size := by
  have hadd : (n + uint64OfInt o).toNat = (n.toNat + (uint64OfInt o).toNat) % UInt64.size :=
    BitVec.toNat_add _ _
  have ho := toNat_uint64OfInt o
  rw [hadd]
  simp only [uint64_size] at ho ⊢
  omega

theorem decodeUint64_blockTag {n : UInt64} {o : Int} (hlow : -9223372036854775808 ≤ o)
    (hle : o ≤ 0) :
    ∃ v, decodeUint64 (encodeUint64 (n + uint64OfInt o)) = some v ∧
      (0 ≤ n.toNat + o → (v.toNat : Int) = n.toNat + o) ∧
      (n.toNat + o < 0 → (v.toNat : Int) = n.toNat + o + UInt64.size ∧ n < v) := by
  have hv := toNat_add_uint64OfInt n o
  have hn := n.toNat_lt_size
  simp only [uint64_size] at hv hn ⊢
  refine ⟨_, decodeUint64_encodeUint64 _, fun _ => by omega, fun _ => ⟨by omega, ?_⟩⟩
  show n.toNat < (n + uint64OfInt o).toNat
  omega

/-- Every block tag the dispatcher passes to `ConstructRPCCallPayload`, over
any run of blocks of an accepted request, is for a call of the request with a
non-positive offset `o` of a 64-bit `int`.  On block `n` the node reads it as
`n + o` when that is not negative; when it is negative, the `uint64` sum wraps
around and the tag stands for `n + o + 2^64`, a block above `n`. -/
theorem onBlock_blockTag {Json Expr Payload : Type} {env : SubscribeEnv Json Expr}
    {params : Option Json} {r : ClientReq Expr} (h : env.createClientReq params = .ok r)
    (node : OnBlockEnv Payload) (blocks : List OnBlockBlock) {d : BlockDispatch Payload}
    (hd : d ∈ node.runOnBlock r.calls blocks) {g : List (OnBlockEffect Payload)}
    (hg : g ∈ d.goroutines) {method : String} {payload : List (String × String)} {tag : String}
    (he : .construct method payload tag ∈ g) :
    ∃ c ∈ r.calls, method = c.2.commandMethod ∧ payload = c.2.callPayload ∧
      -9223372036854775808 ≤ c.2.blockOffset ∧ c.2.blockOffset ≤ 0 ∧
      ∃ v, decodeUint64 tag = some v ∧
        (0 ≤ d.block.number.toNat + c.2.blockOffset →
          (v.toNat : Int) = d.block.number.toNat + c.2.blockOffset) ∧
        (d.block.number.toNat + c.2.blockOffset < 0 →
          (v.toNat : Int) = d.block.number.toNat + c.2.blockOffset + UInt64.size ∧
            d.block.number < v) := by
  obtain ⟨c, hc, hmethod, hpayload, rfl⟩ := node.runOnBlock_construct hd hg he
  obtain ⟨-, hlow, hle⟩ := env.createClientReq_offsets h c hc
  exact ⟨c, hc, hmethod, hpayload, hlow, hle, decodeUint64_blockTag hlow hle⟩

/-- A call with tag `-1`, dispatched on the genesis block, asks the node for
block `2^64 - 1`. -/
theorem onBlock_tag_wraps_below_genesis :
    let entries : List (Option GoMap) :=
      [some ⟨[("method", "eth_call"), ("tag", "-1"), ("data", "0x")], by decide⟩]
    let env := requestEnv .onBlock ⟨some [], "", entries, false⟩
    let node : OnBlockEnv Unit := ⟨fun _ => true, fun _ _ _ => .ok (), fun _ _ _ => .ok "0x",
      fun _ => true, fun _ => "", "TaskDisabledEvent", "TaskCompletedEvent"⟩
    let genesis : OnBlockBlock := ⟨"0x0", 0, "0x00"⟩
    ∃ r d g tag v, env.createClientReq (some ()) = .ok r ∧
      d ∈ node.runOnBlock r.calls [genesis] ∧ g ∈ d.goroutines ∧
      OnBlockEffect.construct "eth_call" [("data", "0x")] tag ∈ g ∧
      decodeUint64 tag = some v ∧ genesis.number < v ∧ v.toNat = 18446744073709551615 := by
  intro entries env node genesis
  let call : RPCCall := ⟨"eth_call", -1, "0", [("data", "0x")], true⟩
  have hr : env.createClientReq (some ()) =
      .ok ⟨validOnBlockParams, .onBlock, none, false, [("0", call)]⟩ := rfl
  have hd : (node.dispatchBlock [("0", call)] genesis).1 ∈
      node.runOnBlock [("0", call)] [genesis] := List.mem_cons_self _ _
  have hg : (node.dispatchCall genesis call).1 ∈
      (node.dispatchBlock [("0", call)] genesis).1.goroutines := List.mem_cons_self _ _
  have he : OnBlockEffect.construct "eth_call" [("data", "0x")] (blockTag genesis call) ∈
      (node.dispatchCall genesis call).1 := List.mem_cons_self _ _
  obtain ⟨c, hc, -, -, -, -, v, hv, -, hwrap⟩ := onBlock_blockTag hr node [genesis] hd hg he
  obtain rfl := List.mem_singleton.1 hc
  obtain ⟨hvalue, hlt⟩ := hwrap (by decide)
  have hmax : (v.toNat : Int) = 0 + -1 + 18446744073709551616 := hvalue
  exact ⟨_, _, _, _, v, hr, hd, hg, he, hv, hlt, by omega⟩

/-! ## Disabled calls -/

/-- Over any run of blocks of an accepted request, the goroutine of a call
does nothing on a block exactly when the node refused that call's request on a
block before: a refused call is disabled for good, and a call whose payload
could not be built, or whose request was answered, runs again on the next
block. -/
theorem onBlock_call_silent_iff_refused {Json Expr Payload : Type}
    {env : SubscribeEnv Json Expr} {params : Option Json} {r : ClientReq Expr}
    (h : env.createClientReq params = .ok r) (node : OnBlockEnv Payload)
    (blocks : List OnBlockBlock) {j k : Nat} {d : BlockDispatch Payload}
    (hd : (node.runOnBlock r.calls blocks)[j]? = some d) {g : List (OnBlockEffect Payload)}
    (hg : d.goroutines[k]? = some g) :
    g = [] ↔ ∃ d₀ ∈ (node.runOnBlock r.calls blocks).take j, ∃ g₀,
      d₀.goroutines[k]? = some g₀ ∧ node.Refused d₀.block g₀ := by
  obtain ⟨c, hc, hiff⟩ := node.runOnBlock_goroutine_eq_nil hd hg
  rw [hiff, (env.createClientReq_offsets h c (List.getElem?_mem hc)).1, Bool.true_eq_false,
    false_or]

/-- A call the node refuses on one block does nothing on the next. -/
theorem refused_call_silent_on_next_block :
    let entries : List (Option GoMap) :=
      [some ⟨[("method", "eth_call"), ("tag", "latest"), ("data", "0x")], by decide⟩]
    let env := requestEnv .onBlock ⟨some [], "", entries, false⟩
    let node : OnBlockEnv Unit := ⟨fun _ => true, fun _ _ _ => .ok (),
      fun _ _ _ => .error "execution reverted", fun _ => true, fun _ => "", "TaskDisabledEvent",
      "TaskCompletedEvent"⟩
    let blocks : List OnBlockBlock := [⟨"0x1", 1, "0x01"⟩, ⟨"0x2", 2, "0x02"⟩]
    ∃ r d g, env.createClientReq (some ()) = .ok r ∧ (node.runOnBlock r.calls blocks)[1]? = some d ∧
      d.goroutines[0]? = some g ∧ g = [] := by
  intro entries env node blocks
  let call : RPCCall := ⟨"eth_call", 0, "0", [("data", "0x")], true⟩
  have hr : env.createClientReq (some ()) =
      .ok ⟨validOnBlockParams, .onBlock, none, false, [("0", call)]⟩ := rfl
  let first := node.dispatchBlock [("0", call)] ⟨"0x1", 1, "0x01"⟩
  let second := node.dispatchBlock first.2 ⟨"0x2", 2, "0x02"⟩
  have hd : (node.runOnBlock [("0", call)] blocks)[1]? = some second.1 := rfl
  have hg : second.1.goroutines[0]? =
      some (node.dispatchCall ⟨"0x2", 2, "0x02"⟩ ({ call with active := false })).1 := rfl
  have hfirst : first.1 ∈ (node.runOnBlock [("0", call)] blocks).take 1 := List.mem_cons_self _ _
  refine ⟨_, _, _, hr, hd, hg, (onBlock_call_silent_iff_refused hr node blocks hd hg).2
    ⟨first.1, hfirst, _, rfl, "eth_call", (), "execution reverted",
      List.mem_cons_of_mem _ (List.mem_cons_self _ _), rfl⟩⟩

end Gateway.Servers
