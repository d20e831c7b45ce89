import Gateway.Types

/-!
# The blockchain bridge

`BxBridge` connects the blockchain-facing and the BDN-facing parts of the
gateway through Go channels, one per logical edge.  A channel is its buffer
and the consumers blocked in a receive on it.  A send hands its item to a
waiting consumer, or buffers it when there is room; otherwise a `select` with
a `default` gives up with `ErrChannelFull`, and a plain send waits.  A call
that waits does not complete, and `BxBridge.step` gives `none` for it.

`types.NodeEndpoint` and `network.EthConfig` belong to other packages and are
passed through unread, so they stay parameters.  A Go `error` is an
`Option BridgeError`, `none` for nil.
-/

namespace Gateway.Blockchain

open Gateway.Types

/-- The channels of `BxBridge`, under the names of its fields. -/
inductive Edge where
  | config
  | transactionsFromNode
  | transactionsFromBDN
  | transactionHashesFromNode
  | transactionHashesRequests
  | blocksFromNode
  | ethBlocksFromBDN
  | beaconBlocksFromBDN
  | confirmedBlockFromNode
  | noActiveBlockchainPeers
  | blockchainStatusRequest
  | blockchainStatusResponse
  | nodeConnectionCheckRequest
  | nodeConnectionCheckResponse
  | blockchainConnectionStatus
  | disconnectEvent
  | validatorInfo
  deriving DecidableEq

def transactionBacklog : Nat := 2000
def transactionHashesBacklog : Nat := 1000
def blockBacklog : Nat := 100
def statusBacklog : Nat := 10

/-- The buffer sizes `NewBxBridge` gives the channels. -/
def Edge.capacity : Edge → Nat
  | .config | .validatorInfo => 1
  | .transactionsFromNode | .transactionsFromBDN | .blockchainConnectionStatus =>
      transactionBacklog
  | .transactionHashesFromNode | .transactionHashesRequests => transactionHashesBacklog
  | .blocksFromNode | .ethBlocksFromBDN | .beaconBlocksFromBDN | .confirmedBlockFromNode =>
      blockBacklog
  | .noActiveBlockchainPeers => 0
  | .blockchainStatusRequest | .blockchainStatusResponse | .nodeConnectionCheckRequest
  | .nodeConnectionCheckResponse | .disconnectEvent => statusBacklog

/-! ## Items -/

section Payloads

variable (NodeEndpoint : Type)

/-- `TransactionAnnouncement`; `none` is the zero endpoint that
`RequestTransactionsFromNode` leaves. -/
structure TransactionAnnouncement where
  hashes : List SHA256Hash
  peerID : String
  peerEndpoint : Option NodeEndpoint

/-- `Transactions`; `SendTransactionsToBDN` leaves `ConnectionType` zero. -/
structure Transactions where
  transactions : List BxTransaction
  peerEndpoint : NodeEndpoint
  connectionType : Nat

structure BlockFromNode where
  block : BxBlock
  peerEndpoint : NodeEndpoint

structure ConnectionStatus where
  peerEndpoint : NodeEndpoint
  isConnected : Bool
  isDynamic : Bool

end Payloads

structure ValidatorListInfo where
  validatorList : List String
  blockHeight : UInt64

/-- A value on one of the channels, one constructor per element type. -/
inductive Item (NodeEndpoint EthConfig : Type) where
  | config (config : EthConfig)
  | transactions (transactions : Transactions NodeEndpoint)
  | transactionAnnouncement (announcement : TransactionAnnouncement NodeEndpoint)
  | blockFromNode (block : BlockFromNode NodeEndpoint)
  | block (block : BxBlock)
  | noActiveBlockchainPeersAlert
  | signal
  | nodeEndpoints (endpoints : List NodeEndpoint)
  | nodeEndpoint (endpoint : NodeEndpoint)
  | connectionStatus (status : ConnectionStatus NodeEndpoint)
  | validatorListInfo (info : ValidatorListInfo)

/-- `ErrChannelFull`, and the error of `SendBlockToNode` for a block of no
known type, which names the block's hash and type. -/
inductive BridgeError where
  | channelFull
  | couldNotSendBlock (hash : SHA256Hash) (type : BxBlockType)
  deriving DecidableEq

/-! ## The bridge -/

structure BxBridge (NodeEndpoint EthConfig : Type) where
  /-- The buffered items of each channel, oldest first. -/
  queues : Edge → List (Item NodeEndpoint EthConfig)
  /-- The consumers blocked in a receive on each channel. -/
  waiting : Edge → Nat
  beaconBlock : Bool

/-- What a call returns, the items it hands to consumers with their channels,
and the bridge after it. -/
structure Outcome (NodeEndpoint EthConfig : Type) where
  result : Option BridgeError
  delivered : List (Edge × Item NodeEndpoint EthConfig)
  bridge : BxBridge NodeEndpoint EthConfig

variable {NodeEndpoint EthConfig : Type}

def newBxBridge (beaconBlock : Bool) : BxBridge NodeEndpoint EthConfig :=
  ⟨fun _ => [], fun _ => 0, beaconBlock⟩

namespace BxBridge

variable (b : BxBridge NodeEndpoint EthConfig)

/-- A send of `x` on `e` that can go ahead: to a waiting consumer, or into
the buffer when it has room. -/
def offer (e : Edge) (x : Item NodeEndpoint EthConfig) :
    Option (Outcome NodeEndpoint EthConfig) :=
  if 0 < b.waiting e then
    some ⟨none, [(e, x)], { b with waiting := Function.update b.waiting e (b.waiting e - 1) }⟩
  else if (b.queues e).length < e.capacity then
    some ⟨none, [], { b with queues := Function.update b.queues e (b.queues e ++ [x]) }⟩
  else none

/-- `select { case ch <- x: return nil; default: return ErrChannelFull }`. -/
def trySend (e : Edge) (x : Item NodeEndpoint EthConfig) : Outcome NodeEndpoint EthConfig :=
  (b.offer e x).getD ⟨some .channelFull, [], b⟩

/-- `UpdateNetworkConfig`: a plain send, which waits while no consumer waits
and the buffer is full. -/
def updateNetworkConfig (config : EthConfig) : Option (Outcome NodeEndpoint EthConfig) :=
  b.offer .config (.config config)

def announceTransactionHashes (peerID : String) (hashes : List SHA256Hash)
    (endpoint : NodeEndpoint) : Outcome NodeEndpoint EthConfig :=
  b.trySend .transactionHashesFromNode (.transactionAnnouncement ⟨hashes, peerID, some endpoint⟩)

def requestTransactionsFromNode (peerID : String) (hashes : List SHA256Hash) :
    Outcome NodeEndpoint EthConfig :=
  b.trySend .transactionHashesRequests (.transactionAnnouncement ⟨hashes, peerID, none⟩)

def sendTransactionsFromBDN (transactions : Transactions NodeEndpoint) :
    Outcome NodeEndpoint EthConfig :=
  b.trySend .transactionsFromBDN (.transactions transactions)

def sendTransactionsToBDN (txs : List BxTransaction) (peerEndpoint : NodeEndpoint) :
    Outcome NodeEndpoint EthConfig :=
  b.trySend .transactionsFromNode (.transactions ⟨txs, peerEndpoint, 0⟩)

def sendConfirmedBlockToGateway (block : BxBlock) (peerEndpoint : NodeEndpoint) :
    Outcome NodeEndpoint EthConfig :=
  b.trySend .confirmedBlockFromNode (.blockFromNode ⟨block, peerEndpoint⟩)

def sendBlockToBDN (block : BxBlock) (peerEndpoint : NodeEndpoint) :
    Outcome NodeEndpoint EthConfig :=
  b.trySend .blocksFromNode (.blockFromNode ⟨block, peerEndpoint⟩)

/-- `SendBlockToNode` dispatches on the block type; without a beacon listener
a beacon block is dropped with a nil error. -/
def sendBlockToNode (block : BxBlock) : Outcome NodeEndpoint EthConfig :=
  match block.type with
  | .eth => b.trySend .ethBlocksFromBDN (.block block)
  | .beaconPhase0 | .beaconAltair | .beaconBellatrix | .beaconCapella =>
      if !b.beaconBlock then ⟨none, [], b⟩
      else b.trySend .beaconBlocksFromBDN (.block block)
  | .unknown => ⟨some (.couldNotSendBlock block.hash block.type), [], b⟩

def sendNoActiveBlockchainPeersAlert : Outcome NodeEndpoint EthConfig :=
  b.trySend .noActiveBlockchainPeers .noActiveBlockchainPeersAlert

def sendBlockchainStatusRequest : Outcome NodeEndpoint EthConfig :=
  b.trySend .blockchainStatusRequest .signal

def sendBlockchainStatusResponse (endpoints : List NodeEndpoint) :
    Outcome NodeEndpoint EthConfig :=
  b.trySend .blockchainStatusResponse (.nodeEndpoints endpoints)

def sendNodeConnectionCheckRequest : Outcome NodeEndpoint EthConfig :=
  b.trySend .nodeConnectionCheckRequest .signal

def sendNodeConnectionCheckResponse (endpoint : NodeEndpoint) : Outcome NodeEndpoint EthConfig :=
  b.trySend .nodeConnectionCheckResponse (.nodeEndpoint endpoint)

def sendValidatorListInfo (info : ValidatorListInfo) : Outcome NodeEndpoint EthConfig :=
  b.trySend .validatorInfo (.validatorListInfo info)

def sendBlockchainConnectionStatus (status : ConnectionStatus NodeEndpoint) :
    Outcome NodeEndpoint EthConfig :=
  b.trySend .blockchainConnectionStatus (.connectionStatus status)

def sendDisconnectEvent (endpoint : NodeEndpoint) : Outcome NodeEndpoint EthConfig :=
  b.trySend .disconnectEvent (.nodeEndpoint endpoint)

/-- A consumer's receive on the channel that the `Receive*` method of `e`
returns: it takes the oldest buffered item, or waits for a sender. -/
def receive (e : Edge) : Outcome NodeEndpoint EthConfig :=
  match b.queues e with
  | x :: rest => ⟨none, [(e, x)], { b with queues := Function.update b.queues e rest }⟩
  | [] => ⟨none, [], { b with waiting := Function.update b.waiting e (b.waiting e + 1) }⟩

end BxBridge

/-! ## Operations -/

/-- A call of one of the producer methods of `Bridge`, with its arguments. -/
inductive Producer (NodeEndpoint EthConfig : Type) where
  | updateNetworkConfig (config : EthConfig)
  | announceTransactionHashes (peerID : String) (hashes : List SHA256Hash)
      (endpoint : NodeEndpoint)
  | requestTransactionsFromNode (peerID : String) (hashes : List SHA256Hash)
  | sendTransactionsFromBDN (transactions : Transactions NodeEndpoint)
  | sendTransactionsToBDN (txs : List BxTransaction) (peerEndpoint : NodeEndpoint)
  | sendConfirmedBlockToGateway (block : BxBlock) (peerEndpoint : NodeEndpoint)
  | sendBlockToBDN (block : BxBlock) (peerEndpoint : NodeEndpoint)
  | sendBlockToNode (block : BxBlock)
  | sendNoActiveBlockchainPeersAlert
  | sendBlockchainStatusRequest
  | sendBlockchainStatusResponse (endpoints : List NodeEndpoint)
  | sendNodeConnectionCheckRequest
  | sendNodeConnectionCheckResponse (endpoint : NodeEndpoint)
  | sendValidatorListInfo (info : ValidatorListInfo)
  | sendBlockchainConnectionStatus (status : ConnectionStatus NodeEndpoint)
  | sendDisconnectEvent (endpoint : NodeEndpoint)

/-- A producer call, or a consumer's receive on a channel. -/
inductive Op (NodeEndpoint EthConfig : Type) where
  | producer (p : Producer NodeEndpoint EthConfig)
  | receive (e : Edge)

namespace BxBridge

variable (b : BxBridge NodeEndpoint EthConfig)

/-- One operation on the bridge; `none` when the call waits. -/
def step : Op NodeEndpoint EthConfig → Option (Outcome NodeEndpoint EthConfig)
  | .producer p =>
    match p with
    | .updateNetworkConfig config => b.updateNetworkConfig config
    | .announceTransactionHashes peerID hashes endpoint =>
        some (b.announceTransactionHashes peerID hashes endpoint)
    | .requestTransactionsFromNode peerID hashes => some (b.requestTransactionsFromNode peerID hashes)
    | .sendTransactionsFromBDN transactions => some (b.sendTransactionsFromBDN transactions)
    | .sendTransactionsToBDN txs peerEndpoint => some (b.sendTransactionsToBDN txs peerEndpoint)
    | .sendConfirmedBlockToGateway block peerEndpoint =>
        some (b.sendConfirmedBlockToGateway block peerEndpoint)
    | .sendBlockToBDN block peerEndpoint => some (b.sendBlockToBDN block peerEndpoint)
    | .sendBlockToNode block => some (b.sendBlockToNode block)
    | .sendNoActiveBlockchainPeersAlert => some b.sendNoActiveBlockchainPeersAlert
    | .sendBlockchainStatusRequest => some b.sendBlockchainStatusRequest
    | .sendBlockchainStatusResponse endpoints => some (b.sendBlockchainStatusResponse endpoints)
    | .sendNodeConnectionCheckRequest => some b.sendNodeConnectionCheckRequest
    | .sendNodeConnectionCheckResponse endpoint => some (b.sendNodeConnectionCheckResponse endpoint)
    | .sendValidatorListInfo info => some (b.sendValidatorListInfo info)
    | .sendBlockchainConnectionStatus status => some (b.sendBlockchainConnectionStatus status)
    | .sendDisconnectEvent endpoint => some (b.sendDisconnectEvent endpoint)
  | .receive e => some (b.receive e)

end BxBridge

/-- A completed call: the operation, what it returned and what it handed to
consumers. -/
structure Event (NodeEndpoint EthConfig : Type) where
  op : Op NodeEndpoint EthConfig
  result : Option BridgeError
  delivered : List (Edge × Item NodeEndpoint EthConfig)

/-- A run of the bridge over an interleaving of calls.  A call that would wait
is left out: it completes, if ever, as a later call of the list. -/
def run : BxBridge NodeEndpoint EthConfig → List (Op NodeEndpoint EthConfig) →
    List (Event NodeEndpoint EthConfig) × BxBridge NodeEndpoint EthConfig
  | b, [] => ([], b)
  | b, op :: ops =>
    match b.step op with
    | none => run b ops
    | some o => let rest := run o.bridge ops; (⟨op, o.result, o.delivered⟩ :: rest.1, rest.2)

end Gateway.Blockchain
