import Gateway.Blockchain.Bridge

/-!
# What the bridge delivers

`Producer.route` is the routing the bridge promises: each producer call is for
one channel and one item, except that `SendBlockToNode` is for no channel when
it drops a beacon block or refuses a block of unknown type.

A producer other than `UpdateNetworkConfig` never waits: it passes its item on
when a consumer waits or the buffer has room, and otherwise returns
`ErrChannelFull` and changes nothing.  Over any interleaving of calls, what
the consumers of a channel have received, followed by what is still buffered
there, is exactly the sequence of items accepted for that channel.
-/

namespace Gateway.Blockchain

open Gateway.Types

variable {NodeEndpoint EthConfig : Type}

/-- The channel a producer call is for and the item it carries. -/
def Producer.route (beaconBlock : Bool) :
    Producer NodeEndpoint EthConfig → Option (Edge × Item NodeEndpoint EthConfig)
  | .updateNetworkConfig config => some (.config, .config config)
  | .announceTransactionHashes peerID hashes endpoint =>
      some (.transactionHashesFromNode, .transactionAnnouncement ⟨hashes, peerID, some endpoint⟩)
  | .requestTransactionsFromNode peerID hashes =>
      some (.transactionHashesRequests, .transactionAnnouncement ⟨hashes, peerID, none⟩)
  | .sendTransactionsFromBDN transactions => some (.transactionsFromBDN, .transactions transactions)
  | .sendTransactionsToBDN txs peerEndpoint =>
      some (.transactionsFromNode, .transactions ⟨txs, peerEndpoint, 0⟩)
  | .sendConfirmedBlockToGateway block peerEndpoint =>
      some (.confirmedBlockFromNode, .blockFromNode ⟨block, peerEndpoint⟩)
  | .sendBlockToBDN block peerEndpoint => some (.blocksFromNode, .blockFromNode ⟨block, peerEndpoint⟩)
  | .sendBlockToNode block =>
      if block.type = .eth then some (.ethBlocksFromBDN, .block block)
      else if block.type.isBeacon ∧ beaconBlock then some (.beaconBlocksFromBDN, .block block)
      else none
  | .sendNoActiveBlockchainPeersAlert =>
      some (.noActiveBlockchainPeers, .noActiveBlockchainPeersAlert)
  | .sendBlockchainStatusRequest => some (.blockchainStatusRequest, .signal)
  | .sendBlockchainStatusResponse endpoints =>
      some (.blockchainStatusResponse, .nodeEndpoints endpoints)
  | .sendNodeConnectionCheckRequest => some (.nodeConnectionCheckRequest, .signal)
  | .sendNodeConnectionCheckResponse endpoint =>
      some (.nodeConnectionCheckResponse, .nodeEndpoint endpoint)
  | .sendValidatorListInfo info => some (.validatorInfo, .validatorListInfo info)
  | .sendBlockchainConnectionStatus status =>
      some (.blockchainConnectionStatus, .connectionStatus status)
  | .sendDisconnectEvent endpoint => some (.disconnectEvent, .nodeEndpoint endpoint)

namespace BxBridge

variable {b : BxBridge NodeEndpoint EthConfig} {e : Edge} {x : Item NodeEndpoint EthConfig}
  {o : Outcome NodeEndpoint EthConfig}

/-! ## One call -/

theorem offer_eq_none_iff :
    b.offer e x = none ↔ b.waiting e = 0 ∧ e.capacity ≤ (b.queues e).length := by
  unfold offer
  split_ifs <;> simp <;> omega

theorem offer_eq_some (h : b.offer e x = some o) :
    o.result = none ∧
      ((0 < b.waiting e ∧ o.delivered = [(e, x)] ∧
          o.bridge = { b with waiting := Function.update b.waiting e (b.waiting e - 1) }) ∨
        (b.waiting e = 0 ∧ (b.queues e).length < e.capacity ∧ o.delivered = [] ∧
          o.bridge = { b with queues := Function.update b.queues e (b.queues e ++ [x]) })) := by
  unfold offer at h
  split_ifs at h with hw hroom <;> cases h
  · exact ⟨rfl, .inl ⟨hw, rfl, rfl⟩⟩
  · exact ⟨rfl, .inr ⟨by omega, hroom, rfl, rfl⟩⟩

theorem step_producer (b : BxBridge NodeEndpoint EthConfig) (p : Producer NodeEndpoint EthConfig)
    (hp : ∀ config, p ≠ .updateNetworkConfig config) :
    (∃ e x, p.route b.beaconBlock = some (e, x) ∧
        b.step (.producer p) = some (b.trySend e x)) ∨
      (p.route b.beaconBlock = none ∧ ∃ r, b.step (.producer p) = some ⟨r, [], b⟩) := by
  cases p
  case updateNetworkConfig config => exact absurd rfl (hp config)
  case sendBlockToNode block =>
    simp only [step, sendBlockToNode, Producer.route]
    cases block.type <;> cases b.beaconBlock <;>
      first
      | exact .inl ⟨_, _, rfl, rfl⟩
      | exact .inr ⟨rfl, _, rfl⟩
  all_goals exact .inl ⟨_, _, rfl, rfl⟩

theorem step_unrouted (b : BxBridge NodeEndpoint EthConfig) {p : Producer NodeEndpoint EthConfig}
    (h : p.route b.beaconBlock = none) :
    ∃ block, p = .sendBlockToNode block ∧
      ((block.type.isBeacon ∧ b.beaconBlock = false ∧ b.step (.producer p) = some ⟨none, [], b⟩) ∨
        (block.type = .unknown ∧
          b.step (.producer p) = some ⟨some (.couldNotSendBlock block.hash block.type), [], b⟩)) := by
  cases p
  case sendBlockToNode block =>
    refine ⟨block, rfl, ?_⟩
    simp only [Producer.route] at h
    simp only [step, sendBlockToNode]
    cases ht : block.type <;> cases hb : b.beaconBlock <;>
      simp_all [BxBlockType.isBeacon]
  all_goals cases h

/-- A producer call returns at once, except `UpdateNetworkConfig` while no
consumer waits and the config buffer is full.  It returns nil and passes its
item on, to a waiting consumer or into the buffer, when either is there;
otherwise it returns `ErrChannelFull` and changes nothing.  A call with no
route is a `SendBlockToNode` that changes nothing: it returns nil for a beacon
block on a bridge without a beacon listener, and an error naming a block of
unknown type. -/
theorem producers_return_without_waiting (b : BxBridge NodeEndpoint EthConfig)
    (p : Producer NodeEndpoint EthConfig)
    (hconfig : ∀ config, p = .updateNetworkConfig config →
      0 < b.waiting .config ∨ (b.queues .config).length < Edge.config.capacity) :
    ∃ o, b.step (.producer p) = some o ∧
      (∀ e x, p.route b.beaconBlock = some (e, x) →
        if 0 < b.waiting e ∨ (b.queues e).length < e.capacity then
          o.result = none ∧ ((o.delivered = [(e, x)] ∧ o.bridge.queues = b.queues) ∨
            (o.delivered = [] ∧ o.bridge.queues = Function.update b.queues e (b.queues e ++ [x])))
        else o = ⟨some .channelFull, [], b⟩) ∧
      (p.route b.beaconBlock = none → o.delivered = [] ∧ o.bridge = b ∧
        ∃ block, p = .sendBlockToNode block ∧
          ((block.type.isBeacon ∧ b.beaconBlock = false ∧ o.result = none) ∨
            (block.type = .unknown ∧ o.result = some (.couldNotSendBlock block.hash block.type)))) := by
  have hsend : ∀ e x o, b.offer e x = some o → o.result = none ∧
      ((o.delivered = [(e, x)] ∧ o.bridge.queues = b.queues) ∨
        (o.delivered = [] ∧ o.bridge.queues = Function.update b.queues e (b.queues e ++ [x]))) := by
    intro e x o h
    obtain ⟨hr, ⟨-, hd, hb⟩ | ⟨-, -, hd, hb⟩⟩ := offer_eq_some h
    · exact ⟨hr, .inl ⟨hd, by rw [hb]⟩⟩
    · exact ⟨hr, .inr ⟨hd, by rw [hb]⟩⟩
  by_cases hp : ∃ config, p = .updateNetworkConfig config
  · obtain ⟨config, rfl⟩ := hp
    obtain ⟨o, ho⟩ : ∃ o, b.offer .config (.config config) = some o :=
      Option.ne_none_iff_exists'.mp fun h => by
        have := offer_eq_none_iff.mp h; have := hconfig config rfl; omega
    refine ⟨o, ho, ?_, by simp [Producer.route]⟩
    rintro e x ⟨⟩
    rw [if_pos (hconfig config rfl)]
    exact hsend _ _ _ ho
  · rcases step_producer b p (fun config h => hp ⟨config, h⟩) with
      ⟨e, x, hroute, hstep⟩ | ⟨hroute, -, -⟩
    · refine ⟨_, hstep, ?_, by simp [hroute]⟩
      rintro e' x' h'
      rw [hroute] at h'
      obtain ⟨rfl, rfl⟩ := Prod.mk.inj (Option.some.inj h')
      split_ifs with hroom
      · obtain ⟨o, ho⟩ : ∃ o, b.offer e x = some o :=
          Option.ne_none_iff_exists'.mp fun h => by have := offer_eq_none_iff.mp h; omega
        simpa [trySend, ho] using hsend _ _ _ ho
      · have hnone : b.offer e x = none := offer_eq_none_iff.mpr (by omega)
        simp [trySend, hnone]
    · obtain ⟨block, rfl, ⟨hbeacon, hb, hstep⟩ | ⟨hunknown, hstep⟩⟩ := step_unrouted b hroute
      · exact ⟨_, hstep, by simp [hroute], fun _ => ⟨rfl, rfl, block, rfl, .inl ⟨hbeacon, hb, rfl⟩⟩⟩
      · exact ⟨_, hstep, by simp [hroute], fun _ => ⟨rfl, rfl, block, rfl, .inr ⟨hunknown, rfl⟩⟩⟩

theorem producers_return_without_waiting_statusRequest :
    ∃ o, (newBxBridge false : BxBridge Unit Unit).step (.producer .sendBlockchainStatusRequest) =
      some o ∧ o.result = none := by
  obtain ⟨o, h, hroute, -⟩ := producers_return_without_waiting (newBxBridge false)
    (.sendBlockchainStatusRequest : Producer Unit Unit) (fun _ h => by cases h)
  have hsent := hroute _ _ rfl
  rw [if_pos (by decide)] at hsent
  exact ⟨o, h, hsent.1⟩

theorem sendBlockToNode_unknown_type_fails :
    ∃ o, (newBxBridge false : BxBridge Unit Unit).step
        (.producer (.sendBlockToNode ⟨SHA256Hash.ofByte 1, emptyHash, .unknown, [], [], [], none, 0, 0⟩)) =
      some o ∧ o.result ≠ none ∧ o.result ≠ some .channelFull :=
  ⟨_, rfl, by decide, by decide⟩

/-! ## Runs -/

/-- A consumer waits on a channel only while its buffer is empty. -/
def Inv (b : BxBridge NodeEndpoint EthConfig) : Prop :=
  ∀ e, 0 < b.waiting e → b.queues e = []

theorem inv_newBxBridge (beaconBlock : Bool) :
    (newBxBridge beaconBlock : BxBridge NodeEndpoint EthConfig).Inv :=
  fun _ _ => rfl

end BxBridge

def onEdge (e : Edge) (d : Edge × Item NodeEndpoint EthConfig) : Option (Item NodeEndpoint EthConfig) :=
  if d.1 = e then some d.2 else none

/-- What a completed call accepts: a producer call that returned nil accepts
its routed item. -/
def Event.accepted (beaconBlock : Bool) (ev : Event NodeEndpoint EthConfig) :
    List (Edge × Item NodeEndpoint EthConfig) :=
  match ev.op, ev.result with
  | .producer p, none => (p.route beaconBlock).toList
  | _, _ => []

namespace BxBridge

variable {b : BxBridge NodeEndpoint EthConfig} {e : Edge} {x : Item NodeEndpoint EthConfig}
  {o : Outcome NodeEndpoint EthConfig}

theorem offer_fifo (hinv : b.Inv) (h : b.offer e x = some o) :
    o.bridge.Inv ∧ o.bridge.beaconBlock = b.beaconBlock ∧ ∀ e',
      o.delivered.filterMap (onEdge e') ++ o.bridge.queues e' =
        b.queues e' ++ [(e, x)].filterMap (onEdge e') := by
  obtain ⟨r, d, b'⟩ := o
  obtain ⟨-, ⟨hw, rfl, rfl⟩ | ⟨hw, -, rfl, rfl⟩⟩ := offer_eq_some h
  · -- handed to a waiting consumer
    refine ⟨fun e' he' => ?_, rfl, fun e' => ?_⟩ <;> by_cases he : e' = e
    · subst he; exact hinv _ (by simp at he'; omega)
    · simp [he] at he'; exact hinv _ he'
    · subst he; simp [onEdge, hinv _ hw]
    · simp [onEdge, he, Ne.symm he]
  · -- buffered
    refine ⟨fun e' he' => ?_, rfl, fun e' => ?_⟩ <;> by_cases he : e' = e
    · subst he; simp at he'; omega
    · simp [Function.update_noteq he]; exact hinv _ he'
    · subst he; simp [onEdge]
    · simp [onEdge, he, Ne.symm he]

theorem receive_fifo (hinv : b.Inv) (e : Edge) :
    (b.receive e).bridge.Inv ∧ (b.receive e).bridge.beaconBlock = b.beaconBlock ∧ ∀ e',
      (b.receive e).delivered.filterMap (onEdge e') ++ (b.receive e).bridge.queues e' =
        b.queues e' := by
  unfold receive
  split
  next x rest hq =>
    refine ⟨fun e' he' => ?_, rfl, fun e' => ?_⟩ <;> by_cases he : e' = e
    · subst he; simp [hinv _ he'] at hq
    · simp [Function.update_noteq he]; exact hinv _ he'
    · subst he; simp [onEdge, hq]
    · simp [onEdge, he, Ne.symm he]
  next hq =>
    refine ⟨fun e' he' => ?_, rfl, fun e' => by simp⟩
    by_cases he : e' = e
    · subst he; exact hq
    · simp [he] at he'; exact hinv _ he'

theorem step_fifo (hinv : b.Inv) {op : Op NodeEndpoint EthConfig} (h : b.step op = some o) :
    o.bridge.Inv ∧ o.bridge.beaconBlock = b.beaconBlock ∧ ∀ e',
      o.delivered.filterMap (onEdge e') ++ o.bridge.queues e' =
        b.queues e' ++ (Event.accepted b.beaconBlock ⟨op, o.result, o.delivered⟩).filterMap
          (onEdge e') := by
  cases op with
  | receive e =>
    cases h
    simpa [Event.accepted] using receive_fifo hinv e
  | producer p =>
    by_cases hp : ∃ config, p = .updateNetworkConfig config
    · obtain ⟨config, rfl⟩ := hp
      have ho : b.offer .config (.config config) = some o := h
      simpa [Event.accepted, (offer_eq_some ho).1, Producer.route] using offer_fifo hinv ho
    · rcases step_producer b p (fun config h => hp ⟨config, h⟩) with
        ⟨e, x, hroute, hstep⟩ | ⟨hroute, r, hstep⟩ <;> rw [hstep] at h <;> cases h
      · cases ho : b.offer e x with
        | none => simp [trySend, ho, Event.accepted, hinv]
        | some o' =>
          simpa [trySend, ho, Event.accepted, (offer_eq_some ho).1, hroute] using offer_fifo hinv ho
      · cases r <;> simp [Event.accepted, hroute, hinv]

end BxBridge

theorem run_fifo {b : BxBridge NodeEndpoint EthConfig} (hinv : b.Inv)
    (ops : List (Op NodeEndpoint EthConfig)) (e : Edge) :
    ((run b ops).1.flatMap (·.delivered)).filterMap (onEdge e) ++ (run b ops).2.queues e =
      b.queues e ++ ((run b ops).1.flatMap (·.accepted b.beaconBlock)).filterMap (onEdge e) := by
  induction ops generalizing b with
  | nil => simp [run]
  | cons op ops ih =>
    cases h : b.step op with
    | none => simpa [run, h] using ih hinv
    | some o =>
      obtain ⟨hinv', hbb, hstep⟩ := BxBridge.step_fifo hinv h
      have hrest := ih hinv'
      rw [hbb] at hrest
      simp only [run, h, List.flatMap_cons, List.filterMap_append, List.append_assoc]
      rw [hrest, ← List.append_assoc, hstep, List.append_assoc]

/-- Over any interleaving of calls on a new bridge, what the consumers of each
channel have received, followed by what is still buffered there, is the
sequence of items accepted for that channel; so what they have received is a
prefix of it, and nothing is lost, duplicated, reordered or delivered on
another channel.  `SendBlockToNode` without a route drops a beacon block with
a nil error and refuses a block of any other type, changing nothing. -/
theorem bridge_delivers_accepted (beaconBlock : Bool) (ops : List (Op NodeEndpoint EthConfig)) :
    (∀ e, ((run (newBxBridge beaconBlock) ops).1.flatMap (·.delivered)).filterMap (onEdge e) ++
        (run (newBxBridge beaconBlock) ops).2.queues e =
      ((run (newBxBridge beaconBlock) ops).1.flatMap (·.accepted beaconBlock)).filterMap
        (onEdge e)) ∧
    ∀ (b : BxBridge NodeEndpoint EthConfig) (block : BxBlock),
      (Producer.sendBlockToNode block : Producer NodeEndpoint EthConfig).route b.beaconBlock =
        none →
      b.step (.producer (.sendBlockToNode block)) = some
        ⟨if block.type.isBeacon then none else some (.couldNotSendBlock block.hash block.type),
          [], b⟩ := by
  refine ⟨fun e => by
    simpa [newBxBridge] using run_fifo (BxBridge.inv_newBxBridge beaconBlock) ops e,
    fun b block h => ?_⟩
  simp only [Producer.route] at h
  simp only [BxBridge.step, BxBridge.sendBlockToNode]
  cases ht : block.type <;> cases hb : b.beaconBlock <;> simp_all [BxBlockType.isBeacon]

end Gateway.Blockchain
