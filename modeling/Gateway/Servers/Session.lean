import Mathlib.Data.List.Infix
import Gateway.Servers.MultiTxs
import Gateway.Servers.OnBlock

/-!
# A subscription's session

`Handle` serves a `subscribe` request for as long as the subscription lives.
It builds the client request, refuses a feed that needs a node when the
gateway has no node connection, subscribes with the feed manager, replies
with the subscription ID, and then reads the feed: with `MultiTxs` set,
through `subscribeMultiTxs` first, and then through its notification loop,
where each notification becomes a notify of what the client included, until
the connection goes, the feed manager sends an error or closes the channel,
or a notify fails.  The deferred `Unsubscribe` then ends the subscription.

A run is the sequence of what the session's `select`s find, as in
`subscribeMultiTxs`, with the feed manager's error messages besides.  The
client connection, the feed manager, the node connection and the
transactions' and blocks' own methods are collaborators.  The node found for
a block, and its answers, are functions of the block as the onBlock
dispatcher reads it.
-/

namespace Gateway.Servers

open Gateway.Types
open scoped List

/-- `TxResult`: the fields of a transaction that a client included. -/
structure TxResult (Fields : Type) where
  txHash : Option String
  txContents : Option Fields
  localRegion : Option Bool
  time : Option String
  rawTx : Option String

/-- The result of a notify: a `TxResponse`, a `MultiTransactions` batch, or a
`BlockResponse` with a notification's included fields. -/
inductive Notice (Fields Content : Type) where
  | tx (result : TxResult Fields)
  | txs (results : List (TxResult Fields))
  | content (content : Content)

/-- What a goroutine of the txReceipts case does: fetch the receipt of one
transaction, and notify it. -/
inductive ReceiptEffect (Content : Type) where
  | fetch (hash : String)
  | notify (content : Content)

/-- What the subscribe case does that the client, the feed manager or a node
sees.  The goroutines of one block are kept each in a list of its own. -/
inductive SubscribeEffect (Fields Content Payload : Type) where
  | sendError (code : RPCErrorCode) (data : String)
  | reply (subscriptionID : String)
  | notify (notice : Notice Fields Content)
  | receipts (goroutines : List (List (ReceiptEffect Content)))
  | onBlock (dispatch : BlockDispatch Payload)
  | unsubscribe (subscriptionID : String)

/-- What a `select` of the session finds: an event of the feed channel or the
connection, or an error message of the feed manager.  `subscribeMultiTxs`
does not read the error channel. -/
inductive SessionEvent (N : Type) where
  | feed (event : FeedEvent N)
  | errMsg (msg : String)

def SessionEvent.toNotification {N : Type} : SessionEvent N → Option N
  | .feed event => event.toNotification
  | .errMsg _ => none

/-- Where the session is: in `subscribeMultiTxs`, or in the notification loop
with the onBlock calls. -/
inductive SessionPhase (N R : Type) where
  | multi (st : MultiTxsState N R)
  | loop (calls : List (String × RPCCall))

/-- The collaborators of the subscribe case, each with any behaviour. -/
structure SessionEnv (Json Expr N Tx Filters Fields Content Receipt Payload : Type)
    extends SubscribeEnv Json Expr where
  /-- `len(nodeWSManager.Providers()) > 0`. -/
  hasProviders : Bool
  /-- `FeedManager.networkNum`, and `RopstenNum`, `GoerliNum` and `MainnetNum`,
  whose blocks come from consensus. -/
  networkNum : NetworkNum
  consensusNetworks : List NetworkNum
  /-- `expr.String()`. -/
  exprText : Expr → String
  /-- `FeedManager.Subscribe` with the feed, the filters and the joined
  includes: the subscription ID. -/
  subscribe : FeedType → String → String → Except String String
  /-- `reply` with the subscription ID, and `conn.Notify`, succeed. -/
  reply : String → Bool
  notify : Notice Fields Content → Bool
  /-- The `NewTransactionNotification` of a transaction feed's notification:
  itself on newTxs, the one a `PendingTransactionNotification` holds on
  pendingTxs. -/
  newTx : N → Tx
  /-- `tx.Filters(args)`, nil as `none`, and `conditions.Evaluate`. -/
  txFilters : Tx → List String → Option Filters
  evaluate : Expr → Filters → Except String Bool
  /-- `tx.GetHash()`, the time `time.Now()` gives when `tx` is read,
  `tx.LocalRegion()`, `hexutil.Encode(tx.RawTx())` and `tx.Fields(includes)`,
  nil as `none`. -/
  txHash : Tx → String
  timeNow : Tx → String
  localRegion : Tx → Bool
  rawTx : Tx → String
  txFields : Tx → List String → Option Fields
  /-- `notification.WithFields(includes)`. -/
  withFields : N → List String → Content
  /-- The `EthBlockNotification` of a txReceipts or onBlock notification, and
  the hash of each of its transactions. -/
  ethBlock : N → OnBlockBlock
  txHashes : N → List String
  /-- `getSyncedWSProvider(block.Source())` finds a node. -/
  synced : OnBlockBlock → Bool
  /-- `FetchTransactionReceipt` of that node: an error, a nil response, or a
  receipt; and `NewTxReceiptNotification(receipt).WithFields(includes)`. -/
  fetchTransactionReceipt : OnBlockBlock → String → Except String (Option Receipt)
  receiptWithFields : Receipt → List String → Content
  /-- The collaborators of the onBlock dispatcher, and
  `NewOnBlockNotification(...).WithFields(includes)`. -/
  constructRPCCallPayload : String → List (String × String) → String → Except String Payload
  callRPC : OnBlockBlock → String → Payload → Except String String
  callText : RPCCall → String
  taskDisabledEvent : String
  taskCompletedEvent : String
  onBlockWithFields : OnBlockNotification → List String → Content

/-- `strings.Contains(param, "tx_contents")`. -/
def containsTxContents (param : String) : Prop := "tx_contents".toList <:+: param.toList

instance (param : String) : Decidable (containsTxContents param) :=
  inferInstanceAs (Decidable (_ <:+: _))

/-- `string(rune(websocket.CloseMessage))`, the data of the error sent when the
feed manager closes a subscription it still knows. -/
def closeMessageText : String := "\x08"

/-- The error sent when the feed channel is closed. -/
def closedError {Fields Content Payload : Type} (subscriptionExists : Bool) :
    List (SubscribeEffect Fields Content Payload) :=
  if subscriptionExists then [.sendError .internalError closeMessageText] else []

namespace SessionEnv

variable {Json Expr N Tx Filters Fields Content Receipt Payload : Type}
  (env : SessionEnv Json Expr N Tx Filters Fields Content Receipt Payload)

/-! ## Transactions -/

/-- The filter of `filterAndInclude`: without a filter expression every
transaction passes; with one, the transaction's filter values must exist and
`conditions.Evaluate` must say true. -/
def shouldSend (req : ClientReq Expr) (tx : Tx) : Bool :=
  match req.expr with
  | none => true
  | some expr =>
    match env.txFilters tx (env.args expr) with
    | none => false
    | some txFilters =>
      match env.evaluate expr txFilters with
      | .error _ => false
      | .ok shouldSend => shouldSend

/-- The `switch` of `filterAndInclude` on one included field. -/
def includeField (tx : Tx) (response : TxResult Fields) (param : String) : TxResult Fields :=
  if param = "tx_hash" then { response with txHash := some (env.txHash tx) }
  else if param = "time" then { response with time := some (env.timeNow tx) }
  else if param = "local_region" then { response with localRegion := some (env.localRegion tx) }
  else if param = "raw_tx" then { response with rawTx := some (env.rawTx tx) }
  else response

/-- `filterAndInclude`: the result for a transaction, or `none` when it is
filtered out or its contents are asked for and missing.  The log line of an
evaluation error reads `clientReq.includes[0]`, which every accepted request
has. -/
def filterAndInclude (req : ClientReq Expr) (tx : Tx) : Option (TxResult Fields) :=
  if env.shouldSend req tx then
    let response := req.includes.foldl (env.includeField tx) ⟨none, none, none, none, none⟩
    if req.includes.any fun param => decide (containsTxContents param) then
      (env.txFields tx req.includes).map fun fields => { response with txContents := some fields }
    else some response
  else none

/-! ## The notification loop -/

/-- The onBlock dispatcher of the session: the client is notified of a
notification's included fields. -/
def onBlockNode (includes : List String) : OnBlockEnv Payload where
  synced := env.synced
  constructRPCCallPayload := env.constructRPCCallPayload
  callRPC := env.callRPC
  sendNotification := fun n => env.notify (.content (env.onBlockWithFields n includes))
  callText := env.callText
  taskDisabledEvent := env.taskDisabledEvent
  taskCompletedEvent := env.taskCompletedEvent

/-- The goroutine of the txReceipts case for the transaction `hash`: what it
does, and whether it returns nil.  A nil response returns the nil error. -/
def receiptTask (includes : List String) (block : OnBlockBlock) (hash : String) :
    List (ReceiptEffect Content) × Bool :=
  match env.fetchTransactionReceipt block hash with
  | .error _ => ([.fetch hash], false)
  | .ok none => ([.fetch hash], true)
  | .ok (some receipt) =>
    let content := env.receiptWithFields receipt includes
    ([.fetch hash, .notify content], env.notify (.content content))

variable (req : ClientReq Expr)

/-- The result of a transaction feed's notification, in `sendTxNotification`
and in `subscribeMultiTxs`. -/
def notificationResult (n : N) : Option (TxResult Fields) := env.filterAndInclude req (env.newTx n)

/-- The loop's case for the subscription's feed on one notification: what it
does, and the calls after it, or `none` when `Handle` returns. -/
def loopNotification (calls : List (String × RPCCall)) (n : N) :
    List (SubscribeEffect Fields Content Payload) × Option (List (String × RPCCall)) :=
  match req.feed with
  | .newTxs | .pendingTxs =>
    match env.notificationResult req n with
    | none => ([], some calls)
    | some result => ([.notify (.tx result)], if env.notify (.tx result) then some calls else none)
  | .newBlocks | .bdnBlocks | .newBeaconBlocks | .bdnBeaconBlocks =>
    let notice := Notice.content (env.withFields n req.includes)
    ([.notify notice], if env.notify notice then some calls else none)
  | .txReceipts =>
    let block := env.ethBlock n
    if env.synced block then
      let tasks := (env.txHashes n).map (env.receiptTask req.includes block)
      ([.receipts (tasks.map Prod.fst)], if tasks.all Prod.snd then some calls else none)
    else ([], none)
  | .onBlock =>
    let node := env.onBlockNode req.includes
    let block := env.ethBlock n
    if node.synced block then
      ([.onBlock (node.dispatchBlock calls block).1],
        if node.sendNotification (node.completedNotification block) then
          some (node.dispatchBlock calls block).2
        else none)
    else ([], none)

/-- The notification loop on one event. -/
def loopStep (calls : List (String × RPCCall)) :
    SessionEvent N →
      List (SubscribeEffect Fields Content Payload) × Option (List (String × RPCCall))
  | .feed .disconnect => ([], none)
  | .errMsg msg => ([.sendError .invalidParams msg], none)
  | .feed (.closed subscriptionExists) => (closedError subscriptionExists, none)
  | .feed .nothingReady => ([], some calls)
  | .feed (.notification n) => env.loopNotification req calls n

/-- The end of a `select` of `subscribeMultiTxs` that read the channel: the
notify of the batch it flushed, if any. -/
def multiSend (st st' : MultiTxsState N (TxResult Fields)) :
    List (SubscribeEffect Fields Content Payload) × Option (SessionPhase N (TxResult Fields)) :=
  match st'.sent.drop st.sent.length with
  | [] => ([], some (.multi st'))
  | batch :: _ =>
    ([.notify (.txs batch)], if env.notify (.txs batch) then some (.multi st') else none)

/-- `subscribeMultiTxs` on one event.  When the connection goes it returns nil,
and `Handle` goes on to its notification loop. -/
def multiStep (st : MultiTxsState N (TxResult Fields)) :
    SessionEvent N →
      List (SubscribeEffect Fields Content Payload) × Option (SessionPhase N (TxResult Fields))
  | .errMsg _ => ([], some (.multi st))
  | .feed .disconnect => ([], some (.loop req.calls))
  | .feed (.closed subscriptionExists) => (closedError subscriptionExists, none)
  | .feed .nothingReady => env.multiSend st (st.step (env.notificationResult req) .nothingReady)
  | .feed (.notification n) =>
    env.multiSend st (st.step (env.notificationResult req) (.notification n))

/-- The session on one event: what it does, and where it goes, or `none` when
`Handle` returns. -/
def stepPhase : SessionPhase N (TxResult Fields) → SessionEvent N →
    List (SubscribeEffect Fields Content Payload) × Option (SessionPhase N (TxResult Fields))
  | .multi st, e => env.multiStep req st e
  | .loop calls, e => ((env.loopStep req calls e).1, (env.loopStep req calls e).2.map .loop)

/-- The session after its reply, over the events its `select`s find; the
deferred `Unsubscribe` runs once `Handle` returns. -/
def runSession (subscriptionID : String) :
    SessionPhase N (TxResult Fields) → List (SessionEvent N) →
      List (SubscribeEffect Fields Content Payload)
  | _, [] => []
  | p, e :: events =>
    match env.stepPhase req p e with
    | (effects, none) => effects ++ [.unsubscribe subscriptionID]
    | (effects, some p') => effects ++ runSession subscriptionID p' events

/-- Where the session starts after its reply. -/
def initialPhase : SessionPhase N (TxResult Fields) :=
  if req.multiTxs then .multi MultiTxsState.init else .loop req.calls

/-! ## The subscribe case -/

/-- The `switch` on the feed of a gateway with no node websocket provider:
the feeds it still serves.  newBlocks falls through to the refusal off the
networks whose blocks come from consensus. -/
def servedWithoutProviders : FeedType → Bool
  | .newTxs | .bdnBlocks | .newBeaconBlocks | .bdnBeaconBlocks => true
  | .newBlocks => decide (env.networkNum ∈ env.consensusNetworks)
  | _ => false

/-- The subscribe case up to its notification loop: what an early return
does, or the request and the subscription ID once the reply is sent. -/
def subscribeStart (params : Option Json) :
    Except (List (SubscribeEffect Fields Content Payload)) (ClientReq Expr × String) :=
  match env.createClientReq params with
  | .error err => .error [.sendError .invalidParams err]
  | .ok request =>
    if !env.hasProviders && !env.servedWithoutProviders request.feed then
      .error [.sendError .invalidParams (env.feedName request.feed ++
        " feed requires a websockets endpoint to be specifed via either --eth-ws-uri or " ++
        "--multi-node startup parameter")]
    else
      match env.subscribe request.feed ((request.expr.map env.exprText).getD "")
          (String.intercalate "," request.includes) with
      | .error err => .error [.sendError .invalidParams err]
      | .ok subscriptionID =>
        if !env.reply subscriptionID then
          .error [.reply subscriptionID, .sendError .internalError closeMessageText,
            .unsubscribe subscriptionID]
        else if request.multiTxs && request.feed ≠ .newTxs && request.feed ≠ .pendingTxs then
          .error [.reply subscriptionID,
            .sendError .invalidParams "multi tx support only in new txs or pending txs",
            .unsubscribe subscriptionID]
        else .ok (request, subscriptionID)

/-- `Handle` on a `subscribe` request, over the events its `select`s find. -/
def handleSubscribe (params : Option Json) (events : List (SessionEvent N)) :
    List (SubscribeEffect Fields Content Payload) :=
  match env.subscribeStart params with
  | .error effects => effects
  | .ok (request, subscriptionID) =>
    .reply subscriptionID :: env.runSession request subscriptionID (initialPhase request) events

end SessionEnv

/-! ## Reading a session's effects -/

/-- The notices a subscription to `feed` is sent. -/
def SubscribeEffect.NoticeOf {Fields Content Payload : Type} (feed : FeedType) :
    SubscribeEffect Fields Content Payload → Prop
  | .notify (.tx _) | .notify (.txs _) => feed = .newTxs ∨ feed = .pendingTxs
  | .notify (.content _) =>
    feed = .newBlocks ∨ feed = .bdnBlocks ∨ feed = .newBeaconBlocks ∨ feed = .bdnBeaconBlocks
  | .receipts _ => feed = .txReceipts
  | .onBlock _ => feed = .onBlock
  | .sendError _ _ | .reply _ | .unsubscribe _ => False

/-- `subscribeMultiTxs` serves only the transaction feeds. -/
def SessionPhase.Serves {N R : Type} (feed : FeedType) : SessionPhase N R → Prop
  | .multi _ => feed = .newTxs ∨ feed = .pendingTxs
  | .loop _ => True

/-- What one step of a session may send: notices of its feed, or one error
when the session ends there. -/
def StepSends {Fields Content Payload α : Type} (feed : FeedType)
    (step : List (SubscribeEffect Fields Content Payload) × Option α) : Prop :=
  (∀ x ∈ step.1, x.NoticeOf feed) ∨ step.2 = none ∧ ∃ code data, step.1 = [.sendError code data]

theorem closedError_sends {Fields Content Payload α : Type} (feed : FeedType)
    (subscriptionExists : Bool) :
    StepSends feed ((closedError subscriptionExists : List (SubscribeEffect Fields Content Payload)),
      (none : Option α)) := by
  cases subscriptionExists
  · exact Or.inl (List.forall_mem_nil _)
  · exact Or.inr ⟨rfl, _, _, rfl⟩

def SubscribeEffect.txResults {Fields Content Payload : Type} :
    SubscribeEffect Fields Content Payload → List (TxResult Fields)
  | .notify (.tx result) => [result]
  | .notify (.txs results) => results
  | _ => []

def SessionPhase.pending {N R : Type} : SessionPhase N R → List R
  | .multi st => st.batch
  | .loop _ => []

/-- What the batching state keeps while `subscribeMultiTxs` runs. -/
def SessionPhase.Batching {N R : Type} (filterAndInclude : N → Option R) :
    SessionPhase N R → Prop
  | .multi st => MultiTxsState.Inv filterAndInclude st ∧ st.phase ≠ .returned
  | .loop _ => True

def SubscribeEffect.dispatches {Fields Content Payload : Type} :
    SubscribeEffect Fields Content Payload → List (BlockDispatch Payload)
  | .onBlock dispatch => [dispatch]
  | _ => []

def SessionEvent.notificationsUntilEnd {N : Type} : List (SessionEvent N) → List N
  | [] => []
  | .feed (.notification n) :: events => n :: notificationsUntilEnd events
  | .feed .nothingReady :: events => notificationsUntilEnd events
  | .feed (.closed _) :: _ | .feed .disconnect :: _ | .errMsg _ :: _ => []

namespace MultiTxsState

variable {N R : Type} (filterAndInclude : N → Option R)

theorem flush_sent (st : MultiTxsState N R) :
    st.flush.sent = st.sent ++ if st.batch.length > 0 then [st.batch] else [] := by
  unfold flush
  split_ifs <;> simp

theorem step_sent (st : MultiTxsState N R) (e : FeedEvent N) :
    ∃ new, (st.step filterAndInclude e).sent = st.sent ++ new ∧ new.length ≤ 1 := by
  have hflush : ∀ st' : MultiTxsState N R, st'.sent = st.sent →
      ∃ new, st'.flush.sent = st.sent ++ new ∧ new.length ≤ 1 := fun st' h => by
    rw [flush_sent, h]
    exact ⟨_, rfl, by split_ifs <;> simp⟩
  have hsame : ∀ st' : MultiTxsState N R, st'.sent = st.sent →
      ∃ new, st'.sent = st.sent ++ new ∧ new.length ≤ 1 := fun st' h => ⟨[], by simp [h], by simp⟩
  cases e with
  | notification n =>
    cases hphase : st.phase <;> simp only [step, hphase]
    · exact hsame _ rfl
    · split_ifs
      · exact hflush _ rfl
      · exact hsame _ rfl
    · exact hsame _ rfl
  | nothingReady =>
    cases hphase : st.phase <;> simp only [step, hphase]
    · exact hsame _ rfl
    · exact hflush _ rfl
    · exact hsame _ rfl
  | closed subscriptionExists =>
    simp only [step]
    split_ifs <;> exact hsame _ rfl
  | disconnect =>
    simp only [step]
    split_ifs <;> exact hsame _ rfl

theorem step_flushed {st : MultiTxsState N R} (hinv : Inv filterAndInclude st)
    (hlive : st.phase ≠ .returned) {e : FeedEvent N}
    (hopen : e = .nothingReady ∨ ∃ n, e = .notification n) :
    ∃ new, (st.step filterAndInclude e).sent = st.sent ++ new ∧ new.length ≤ 1 ∧
      new.flatten ++ (st.step filterAndInclude e).batch =
        st.batch ++ (e.toNotification.bind filterAndInclude).toList ∧
      Inv filterAndInclude (st.step filterAndInclude e) ∧
      (st.step filterAndInclude e).phase ≠ .returned := by
  obtain ⟨new, hsent, hlen⟩ := step_sent filterAndInclude st e
  have hopen' : ∀ e' ∈ [e], e' = .nothingReady ∨ ∃ n, e' = .notification n :=
    fun e' he' => by rw [List.mem_singleton.1 he']; exact hopen
  have hrun := consumed_run filterAndInclude hlive hopen'
  simp only [run, List.foldl_cons, List.foldl_nil] at hrun
  have hinv' := hinv.step filterAndInclude e
  have hin := hinv'.inOrder
  rw [hsent, hrun.2, List.flatten_append, List.filterMap_append, ← hinv.inOrder,
    List.append_assoc, List.append_assoc, List.append_cancel_left_eq] at hin
  refine ⟨new, hsent, hlen, ?_, hinv', hrun.1⟩
  rw [hin]
  rcases hopen with rfl | ⟨n, rfl⟩
  · rfl
  · show _ ++ [n].filterMap filterAndInclude = _
    cases filterAndInclude n <;> rfl

end MultiTxsState

/-- A gateway with a node connection, for requests decoded to `feed` and
`options`, whose collaborators all succeed: notifications are numbers, each
its own transaction, which passes every filter, and block `n` has number
`n`. -/
def SessionEnv.succeeding (feed : FeedType) (options : SubscriptionOptions) :
    SessionEnv Unit Unit Nat Nat Unit Unit Unit Unit Unit :=
  { requestEnv feed options with
    hasProviders := true
    networkNum := 1
    consensusNetworks := [1]
    exprText := fun _ => ""
    subscribe := fun _ _ _ => .ok "subscription"
    reply := fun _ => true
    notify := fun _ => true
    newTx := fun n => n
    txFilters := fun _ _ => some ()
    evaluate := fun _ _ => .ok true
    txHash := toString
    timeNow := fun _ => "now"
    localRegion := fun _ => true
    rawTx := fun _ => "0x"
    txFields := fun _ _ => some ()
    withFields := fun _ _ => ()
    ethBlock := fun n => ⟨toString n, UInt64.ofNat n, ""⟩
    txHashes := fun _ => []
    synced := fun _ => true
    fetchTransactionReceipt := fun _ _ => .ok none
    receiptWithFields := fun _ _ => ()
    constructRPCCallPayload := fun _ _ _ => .ok ()
    callRPC := fun _ _ _ => .ok "0x"
    callText := fun _ => ""
    taskDisabledEvent := "TaskDisabledEvent"
    taskCompletedEvent := "TaskCompletedEvent"
    onBlockWithFields := fun _ _ => () }

namespace SessionEnv

variable {Json Expr N Tx Filters Fields Content Receipt Payload : Type}
  (env : SessionEnv Json Expr N Tx Filters Fields Content Receipt Payload)

/-! ## What a result holds -/

theorem includeField_eq (tx : Tx) (response : TxResult Fields) (param : String) :
    env.includeField tx response param =
      { response with
        txHash := if param = "tx_hash" then some (env.txHash tx) else response.txHash
        time := if param = "time" then some (env.timeNow tx) else response.time
        localRegion :=
          if param = "local_region" then some (env.localRegion tx) else response.localRegion
        rawTx := if param = "raw_tx" then some (env.rawTx tx) else response.rawTx } := by
  unfold includeField
  by_cases h1 : param = "tx_hash"
  · subst h1; simp
  by_cases h2 : param = "time"
  · subst h2; simp
  by_cases h3 : param = "local_region"
  · subst h3; simp
  by_cases h4 : param = "raw_tx"
  · subst h4; simp
  simp [h1, h2, h3, h4]

private theorem ite_mem_cons {α : Type} (name param : String) (includes : List String) (v w : α) :
    (if name ∈ includes then v else if param = name then v else w) =
      if name ∈ param :: includes then v else w := by
  by_cases h : name ∈ includes
  · simp [h]
  · by_cases h' : param = name
    · simp [h']
    · simp [h, h', Ne.symm h']

theorem foldl_includeField (tx : Tx) :
    ∀ (includes : List String) (response : TxResult Fields),
    includes.foldl (env.includeField tx) response =
      { response with
        txHash := if "tx_hash" ∈ includes then some (env.txHash tx) else response.txHash
        time := if "time" ∈ includes then some (env.timeNow tx) else response.time
        localRegion :=
          if "local_region" ∈ includes then some (env.localRegion tx) else response.localRegion
        rawTx := if "raw_tx" ∈ includes then some (env.rawTx tx) else response.rawTx }
  | [], response => by simp
  | param :: includes, response => by
    rw [List.foldl_cons, foldl_includeField tx includes, includeField_eq]
    simp only [ite_mem_cons]

/-- A transaction's result is made only when it passes the filter, and it
holds exactly the fields the client included: the hash, time, region and raw
bytes for `tx_hash`, `time`, `local_region` and `raw_tx`, and the
contents when an include names `tx_contents`; other includes, their order
and their repeats change nothing. -/
theorem filterAndInclude_eq_some {req : ClientReq Expr} {tx : Tx} {result : TxResult Fields}
    (h : env.filterAndInclude req tx = some result) :
    env.shouldSend req tx = true ∧
      result = ⟨if "tx_hash" ∈ req.includes then some (env.txHash tx) else none,
        if ∃ param ∈ req.includes, containsTxContents param then env.txFields tx req.includes
        else none,
        if "local_region" ∈ req.includes then some (env.localRegion tx) else none,
        if "time" ∈ req.includes then some (env.timeNow tx) else none,
        if "raw_tx" ∈ req.includes then some (env.rawTx tx) else none⟩ := by
  unfold filterAndInclude at h
  split_ifs at h with hsend hcontents
  · obtain ⟨fields, hfields, rfl⟩ := Option.map_eq_some'.1 h
    simp only [List.any_eq_true, decide_eq_true_eq] at hcontents
    simp [hsend, foldl_includeField, hcontents, hfields]
  · cases h
    simp only [List.any_eq_true, decide_eq_true_eq] at hcontents
    simp [hsend, foldl_includeField, hcontents]

/-- A transaction with its hash and time included. -/
theorem filterAndInclude_hash_and_time :
    let env := succeeding .newTxs ⟨some ["tx_hash", "time"], "", [], false⟩
    let request : ClientReq Unit := ⟨["tx_hash", "time"], .newTxs, none, false, []⟩
    env.filterAndInclude request 2 = some ⟨some "2", none, none, some "now", none⟩ ∧
      env.shouldSend request 2 = true := by
  intro env request
  have h : env.filterAndInclude request 2 = some ⟨some "2", none, none, some "now", none⟩ := rfl
  exact ⟨h, (env.filterAndInclude_eq_some h).1⟩

/-! ## One answer, then notices -/

variable (req : ClientReq Expr)

theorem loopNotification_notices (calls : List (String × RPCCall)) (n : N) :
    ∀ x ∈ (env.loopNotification req calls n).1, x.NoticeOf req.feed := by
  intro x hx
  unfold loopNotification at hx
  dsimp only at hx
  split at hx <;> rename_i hfeed <;> (try split_ifs at hx) <;> (try split at hx) <;>
    simp only [List.mem_singleton, List.not_mem_nil] at hx <;> subst hx <;>
    simp [SubscribeEffect.NoticeOf, hfeed]

theorem loopStep_sends (calls : List (String × RPCCall)) (e : SessionEvent N) :
    StepSends req.feed (env.loopStep req calls e) := by
  rcases e with ((n | _ | subscriptionExists | _) | msg)
  · exact Or.inl (env.loopNotification_notices req calls n)
  · exact Or.inl (List.forall_mem_nil _)
  · exact closedError_sends _ subscriptionExists
  · exact Or.inl (List.forall_mem_nil _)
  · exact Or.inr ⟨rfl, _, _, rfl⟩

theorem multiSend_sends (hserves : req.feed = .newTxs ∨ req.feed = .pendingTxs)
    (st st' : MultiTxsState N (TxResult Fields)) :
    StepSends req.feed (env.multiSend st st') ∧
      ∀ p', (env.multiSend st st').2 = some p' → p' = .multi st' := by
  unfold multiSend
  split
  · exact ⟨Or.inl (List.forall_mem_nil _), fun p' h => (Option.some.inj h).symm⟩
  · refine ⟨Or.inl (by simpa [SubscribeEffect.NoticeOf] using hserves), fun p' h => ?_⟩
    split_ifs at h
    exact (Option.some.inj h).symm

theorem stepPhase_sends {p : SessionPhase N (TxResult Fields)} (hp : p.Serves req.feed)
    (e : SessionEvent N) :
    StepSends req.feed (env.stepPhase req p e) ∧
      ∀ p', (env.stepPhase req p e).2 = some p' → p'.Serves req.feed := by
  cases p with
  | loop calls =>
    refine ⟨?_, fun p' hp' => ?_⟩
    · rcases env.loopStep_sends req calls e with h | ⟨hnone, h⟩
      · exact Or.inl h
      · exact Or.inr ⟨by simp [stepPhase, hnone], h⟩
    · simp only [stepPhase, Option.map_eq_some'] at hp'
      obtain ⟨_, -, rfl⟩ := hp'
      trivial
  | multi st =>
    have hsend : ∀ st', StepSends req.feed (env.multiSend st st') ∧
        ∀ p', (env.multiSend st st').2 = some p' → p'.Serves req.feed := fun st' => by
      obtain ⟨hsends, hnext⟩ := env.multiSend_sends req hp st st'
      exact ⟨hsends, fun p' h => by rw [hnext p' h]; exact hp⟩
    rcases e with ((n | _ | subscriptionExists | _) | msg)
    · exact hsend _
    · exact hsend _
    · exact ⟨closedError_sends _ subscriptionExists, fun p' hp' => by cases hp'⟩
    · exact ⟨Or.inl (List.forall_mem_nil _), fun p' hp' => by cases hp'; trivial⟩
    · exact ⟨Or.inl (List.forall_mem_nil _), fun p' hp' => by cases hp'; exact hp⟩

/-- How a session's effects end: still running, unsubscribed, or unsubscribed
after one error. -/
def Closing (subscriptionID : String) (closing : List (SubscribeEffect Fields Content Payload)) :
    Prop :=
  closing = [] ∨ closing = [.unsubscribe subscriptionID] ∨
    ∃ code data, closing = [.sendError code data, .unsubscribe subscriptionID]

theorem runSession_shape (subscriptionID : String) :
    ∀ {p : SessionPhase N (TxResult Fields)} (events : List (SessionEvent N)),
    p.Serves req.feed → ∃ notices closing,
      env.runSession req subscriptionID p events = notices ++ closing ∧
      (∀ x ∈ notices, x.NoticeOf req.feed) ∧ Closing subscriptionID closing
  | _, [], _ => ⟨[], [], rfl, List.forall_mem_nil _, Or.inl rfl⟩
  | p, e :: events, hp => by
    obtain ⟨heffects, hnext⟩ := env.stepPhase_sends req hp e
    rw [runSession]
    rcases hstep : env.stepPhase req p e with ⟨effects, _ | p'⟩ <;>
      simp only [hstep] at heffects hnext ⊢
    · rcases heffects with h | ⟨-, code, data, rfl⟩
      · exact ⟨effects, _, rfl, h, Or.inr (Or.inl rfl)⟩
      · exact ⟨[], _, rfl, List.forall_mem_nil _, Or.inr (Or.inr ⟨code, data, rfl⟩)⟩
    · have h : ∀ x ∈ effects, x.NoticeOf req.feed := heffects.resolve_right fun h => by cases h.1
      obtain ⟨notices, closing, hrun, hnotices, hclosing⟩ :=
        runSession_shape subscriptionID events (hnext p' rfl)
      refine ⟨effects ++ notices, closing, by rw [hrun, List.append_assoc], ?_, hclosing⟩
      intro x hx
      rcases List.mem_append.1 hx with hx | hx
      · exact h x hx
      · exact hnotices x hx

theorem subscribeStart_ok {params : Option Json} {request : ClientReq Expr}
    {subscriptionID : String} (h : env.subscribeStart params = .ok (request, subscriptionID)) :
    env.createClientReq params = .ok request ∧
      env.subscribe request.feed ((request.expr.map env.exprText).getD "")
        (String.intercalate "," request.includes) = .ok subscriptionID ∧
      env.reply subscriptionID = true ∧
      (initialPhase request : SessionPhase N (TxResult Fields)).Serves request.feed := by
  unfold subscribeStart at h
  split at h
  · cases h
  rename_i hreq
  split at h
  · cases h
  split at h
  · cases h
  rename_i hsub
  split at h
  · cases h
  rename_i hreply
  split at h
  · cases h
  rename_i hmulti
  cases h
  refine ⟨hreq, hsub, by simpa using hreply, ?_⟩
  unfold initialPhase
  split_ifs with hm
  · simp only [hm, Bool.true_and, Bool.and_eq_true, decide_eq_true_eq, not_and_or,
      not_not] at hmulti
    show request.feed = .newTxs ∨ request.feed = .pendingTxs
    exact hmulti
  · trivial

theorem subscribeStart_error {params : Option Json}
    {effects : List (SubscribeEffect Fields Content Payload)}
    (h : env.subscribeStart params = .error effects) :
    (∃ code data, effects = [.sendError code data]) ∨
      ∃ request subscriptionID code data, env.createClientReq params = .ok request ∧
        env.subscribe request.feed ((request.expr.map env.exprText).getD "")
          (String.intercalate "," request.includes) = .ok subscriptionID ∧
        effects = [.reply subscriptionID, .sendError code data, .unsubscribe subscriptionID] := by
  unfold subscribeStart at h
  split at h
  · cases h; exact Or.inl ⟨_, _, rfl⟩
  rename_i hreq
  split at h
  · cases h; exact Or.inl ⟨_, _, rfl⟩
  split at h
  · cases h; exact Or.inl ⟨_, _, rfl⟩
  rename_i hsub
  split at h
  · cases h; exact Or.inr ⟨_, _, _, _, hreq, hsub, rfl⟩
  split at h
  · cases h; exact Or.inr ⟨_, _, _, _, hreq, hsub, rfl⟩
  · cases h

/-- The client gets one answer to its subscribe request: an error, or the
subscription ID, which comes before anything else.  After it come only
notices of the subscribed feed, and once the session ends, at most one error
and then the release of that same subscription with the feed manager. -/
theorem handleSubscribe_responses (params : Option Json) (events : List (SessionEvent N)) :
    (∃ code data, env.handleSubscribe params events = [.sendError code data]) ∨
    ∃ request subscriptionID notices closing, env.createClientReq params = .ok request ∧
      env.subscribe request.feed ((request.expr.map env.exprText).getD "")
        (String.intercalate "," request.includes) = .ok subscriptionID ∧
      env.handleSubscribe params events = .reply subscriptionID :: (notices ++ closing) ∧
      (∀ x ∈ notices, x.NoticeOf request.feed) ∧ Closing subscriptionID closing := by
  unfold handleSubscribe
  split
  · rename_i effects h
    rcases env.subscribeStart_error h with h | ⟨request, subscriptionID, code, data, hreq, hsub, rfl⟩
    · exact Or.inl h
    · exact Or.inr ⟨request, subscriptionID, [], _, hreq, hsub, rfl, List.forall_mem_nil _,
        Or.inr (Or.inr ⟨code, data, rfl⟩)⟩
  · rename_i request subscriptionID h
    obtain ⟨hreq, hsub, -, hserves⟩ := env.subscribeStart_ok h
    obtain ⟨notices, closing, hrun, hnotices, hclosing⟩ :=
      env.runSession_shape request subscriptionID events hserves
    exact Or.inr ⟨request, subscriptionID, notices, closing, hreq, hsub, by rw [hrun], hnotices,
      hclosing⟩

theorem loopNotification_txResults (calls : List (String × RPCCall)) (n : N) :
    (env.loopNotification req calls n).1.flatMap SubscribeEffect.txResults <+
      (env.notificationResult req n).toList := by
  unfold loopNotification
  dsimp only
  split <;> (try split_ifs) <;> (try split) <;> simp [SubscribeEffect.txResults, *]

theorem multiSend_txResults {st st' : MultiTxsState N (TxResult Fields)}
    {new : List (List (TxResult Fields))} {results : List (TxResult Fields)}
    (hsent : st'.sent = st.sent ++ new) (hlen : new.length ≤ 1)
    (hbatch : new.flatten ++ st'.batch = st.batch ++ results) :
    (env.multiSend st st').1.flatMap SubscribeEffect.txResults ++
        ((env.multiSend st st').2.map SessionPhase.pending).getD [] <+ st.batch ++ results ∧
      ∀ p', (env.multiSend st st').2 = some p' → p' = .multi st' := by
  unfold multiSend
  rw [hsent, List.drop_left]
  match new, hlen with
  | [], _ =>
    simp only [List.flatten_nil, List.nil_append] at hbatch
    simp [SessionPhase.pending, hbatch]
  | [batch], _ =>
    simp only [List.flatten_cons, List.flatten_nil, List.append_nil] at hbatch
    dsimp only
    split_ifs
    · simp [SubscribeEffect.txResults, SessionPhase.pending, hbatch]
    · simp only [List.flatMap_cons, List.flatMap_nil, SubscribeEffect.txResults, List.append_nil,
        Option.map_none', Option.getD_none]
      exact ⟨hbatch ▸ List.sublist_append_left _ _, nofun⟩

theorem loopStep_txResults (calls : List (String × RPCCall)) (e : SessionEvent N) :
    (env.loopStep req calls e).1.flatMap SubscribeEffect.txResults <+
      (e.toNotification.bind (env.notificationResult req)).toList := by
  rcases e with ((n | _ | subscriptionExists | _) | msg)
  · simpa [loopStep, SessionEvent.toNotification, FeedEvent.toNotification] using
      env.loopNotification_txResults req calls n
  · simp [loopStep]
  · cases subscriptionExists <;> simp [loopStep, closedError, SubscribeEffect.txResults]
  · simp [loopStep]
  · simp [loopStep, SubscribeEffect.txResults]

theorem multiStep_txResults {st : MultiTxsState N (TxResult Fields)}
    (hp : (SessionPhase.multi st).Batching (env.notificationResult req)) (e : SessionEvent N) :
    (env.multiStep req st e).1.flatMap SubscribeEffect.txResults ++
        ((env.multiStep req st e).2.map SessionPhase.pending).getD [] <+
      st.batch ++ (e.toNotification.bind (env.notificationResult req)).toList ∧
    ∀ p', (env.multiStep req st e).2 = some p' → p'.Batching (env.notificationResult req) := by
  obtain ⟨hinv, hlive⟩ := hp
  have hsend : ∀ e : FeedEvent N, (e = .nothingReady ∨ ∃ n, e = .notification n) →
      (env.multiSend st (st.step (env.notificationResult req) e)).1.flatMap
          SubscribeEffect.txResults ++
        ((env.multiSend st (st.step (env.notificationResult req) e)).2.map
          SessionPhase.pending).getD [] <+
        st.batch ++ (e.toNotification.bind (env.notificationResult req)).toList ∧
      ∀ p', (env.multiSend st (st.step (env.notificationResult req) e)).2 = some p' →
        p'.Batching (env.notificationResult req) := fun e hopen => by
    obtain ⟨new, hsent, hlen, hbatch, hinv', hlive'⟩ :=
      MultiTxsState.step_flushed _ hinv hlive hopen
    obtain ⟨hsub, hnext⟩ := env.multiSend_txResults hsent hlen hbatch
    exact ⟨hsub, fun p' h => by rw [hnext p' h]; exact ⟨hinv', hlive'⟩⟩
  rcases e with ((n | _ | subscriptionExists | _) | msg)
  · exact hsend _ (Or.inr ⟨n, rfl⟩)
  · exact hsend _ (Or.inl rfl)
  · cases subscriptionExists <;> simp [multiStep, closedError, SubscribeEffect.txResults]
  · simp [multiStep, SessionPhase.pending, SessionPhase.Batching]
  · simp only [multiStep, List.flatMap_nil, Option.map_some', Option.getD_some,
      SessionPhase.pending, List.nil_append, SessionEvent.toNotification, Option.none_bind,
      Option.toList_none, List.append_nil, List.Sublist.refl, Option.some.injEq, true_and]
    rintro p' rfl
    exact ⟨hinv, hlive⟩

theorem stepPhase_txResults {p : SessionPhase N (TxResult Fields)}
    (hp : p.Batching (env.notificationResult req)) (e : SessionEvent N) :
    (env.stepPhase req p e).1.flatMap SubscribeEffect.txResults ++
        ((env.stepPhase req p e).2.map SessionPhase.pending).getD [] <+
      p.pending ++ (e.toNotification.bind (env.notificationResult req)).toList ∧
    ∀ p', (env.stepPhase req p e).2 = some p' → p'.Batching (env.notificationResult req) := by
  cases p with
  | loop calls =>
    refine ⟨?_, fun p' hp' => ?_⟩
    · cases h : (env.loopStep req calls e).2 <;>
        simpa [stepPhase, h, SessionPhase.pending] using env.loopStep_txResults req calls e
    · simp only [stepPhase, Option.map_eq_some'] at hp'
      obtain ⟨_, -, rfl⟩ := hp'
      trivial
  | multi st => exact env.multiStep_txResults req hp e

theorem runSession_txResults (subscriptionID : String) :
    ∀ {p : SessionPhase N (TxResult Fields)} (events : List (SessionEvent N)),
    p.Batching (env.notificationResult req) →
    (env.runSession req subscriptionID p events).flatMap SubscribeEffect.txResults <+
      p.pending ++ events.flatMap fun e => (e.toNotification.bind (env.notificationResult req)).toList
  | _, [], _ => List.nil_sublist _
  | p, e :: events, hp => by
    obtain ⟨hstep, hnext⟩ := env.stepPhase_txResults req hp e
    rw [runSession, List.flatMap_cons, ← List.append_assoc]
    rcases h : env.stepPhase req p e with ⟨effects, _ | p'⟩ <;> simp only [h] at hstep hnext ⊢
    · simp only [Option.map_none', Option.getD_none, List.append_nil] at hstep
      simp only [List.flatMap_append, List.flatMap_cons, List.flatMap_nil,
        SubscribeEffect.txResults, List.append_nil]
      exact hstep.trans (List.sublist_append_left _ _)
    · simp only [Option.map_some', Option.getD_some] at hstep
      rw [List.flatMap_append]
      exact ((runSession_txResults subscriptionID events (hnext p' rfl)).append_left _).trans
        (by rw [← List.append_assoc]; exact hstep.append_right _)

/-- Nothing is sent twice or out of order: the transaction results a
subscription notifies, one by one or in batches, are, in order, the results
of some of the notifications its `select`s read. -/
theorem handleSubscribe_txResults {params : Option Json} {request : ClientReq Expr}
    (h : env.createClientReq params = .ok request) (events : List (SessionEvent N)) :
    (env.handleSubscribe params events).flatMap SubscribeEffect.txResults <+
      (events.filterMap SessionEvent.toNotification).filterMap (env.notificationResult request) := by
  unfold handleSubscribe
  split
  · rename_i effects hstart
    rcases env.subscribeStart_error hstart with ⟨_, _, rfl⟩ | ⟨_, _, _, _, -, -, rfl⟩ <;>
      simp [SubscribeEffect.txResults]
  · rename_i request' subscriptionID hstart
    obtain ⟨hreq, -⟩ := env.subscribeStart_ok hstart
    obtain rfl : request' = request := Except.ok.inj (hreq.symm.trans h)
    have hinit : (initialPhase request' : SessionPhase N (TxResult Fields)).pending = [] ∧
        (initialPhase request').Batching (env.notificationResult request') := by
      unfold initialPhase
      split_ifs
      · exact ⟨rfl, MultiTxsState.inv_init _, nofun⟩
      · exact ⟨rfl, trivial⟩
    rw [List.flatMap_cons, List.filterMap_filterMap, List.filterMap_eq_flatMap_toList]
    simpa [hinit.1, SubscribeEffect.txResults] using
      env.runSession_txResults request' subscriptionID events hinit.2

/-- A newTxs subscription that reads one notification and loses its
connection. -/
theorem newTxs_results_in_order :
    let env := succeeding .newTxs ⟨some ["tx_hash"], "", [], false⟩
    let request : ClientReq Unit := ⟨["tx_hash"], .newTxs, none, false, []⟩
    let events : List (SessionEvent Nat) := [.feed (.notification 1), .feed .disconnect]
    env.createClientReq (some ()) = .ok request ∧
      ((env.handleSubscribe (some ()) events).flatMap SubscribeEffect.txResults).Sublist
        ((events.filterMap SessionEvent.toNotification).filterMap
          (env.notificationResult request)) := by
  intro env request events
  have h : env.createClientReq (some ()) = .ok request := rfl
  exact ⟨h, env.handleSubscribe_txResults h events⟩

theorem runSession_onBlock (subscriptionID : String) (hfeed : req.feed = .onBlock) :
    ∀ (calls : List (String × RPCCall)) (events : List (SessionEvent N)),
    (env.runSession req subscriptionID (.loop calls) events).flatMap SubscribeEffect.dispatches =
      (env.onBlockNode req.includes).runOnBlock calls
        ((SessionEvent.notificationsUntilEnd events).map env.ethBlock)
  | _, [] => rfl
  | calls, e :: events => by
    rcases e with ((n | _ | subscriptionExists | _) | msg)
    · simp only [runSession, stepPhase, loopStep, loopNotification, hfeed,
        SessionEvent.notificationsUntilEnd, List.map_cons, OnBlockEnv.runOnBlock]
      split_ifs
      · simpa [SubscribeEffect.dispatches] using runSession_onBlock subscriptionID hfeed _ events
      all_goals simp [SubscribeEffect.dispatches]
    · simpa [runSession, stepPhase, loopStep, SessionEvent.notificationsUntilEnd] using
        runSession_onBlock subscriptionID hfeed calls events
    · cases subscriptionExists <;> simp [runSession, stepPhase, loopStep, closedError,
        SessionEvent.notificationsUntilEnd, OnBlockEnv.runOnBlock, SubscribeEffect.dispatches]
    · simp [runSession, stepPhase, loopStep, SessionEvent.notificationsUntilEnd,
        OnBlockEnv.runOnBlock, SubscribeEffect.dispatches]
    · simp [runSession, stepPhase, loopStep, SessionEvent.notificationsUntilEnd,
        OnBlockEnv.runOnBlock, SubscribeEffect.dispatches]

/-- An onBlock subscription makes the calls of its request exactly as the
onBlock dispatcher does over the blocks it reads before its loop ends. -/
theorem handleSubscribe_onBlock {params : Option Json} {request : ClientReq Expr}
    {subscriptionID : String} (h : env.subscribeStart params = .ok (request, subscriptionID))
    (hfeed : request.feed = .onBlock) (events : List (SessionEvent N)) :
    (env.handleSubscribe params events).flatMap SubscribeEffect.dispatches =
      (env.onBlockNode request.includes).runOnBlock request.calls
        ((SessionEvent.notificationsUntilEnd events).map env.ethBlock) := by
  have hloop : (initialPhase request : SessionPhase N (TxResult Fields)) = .loop request.calls := by
    have hserves := (env.subscribeStart_ok h).2.2.2
    unfold initialPhase at hserves ⊢
    split_ifs at hserves ⊢
    · rw [hfeed] at hserves
      simp [SessionPhase.Serves] at hserves
    · rfl
  simp only [handleSubscribe, h, hloop, List.flatMap_cons, SubscribeEffect.dispatches,
    List.nil_append]
  exact env.runSession_onBlock request subscriptionID hfeed request.calls events

/-- An onBlock subscription with one call, which reads a block and then an
error message. -/
theorem onBlock_session_dispatches :
    let entries : List (Option GoMap) := [some ⟨[("method", "eth_call"), ("data", "0x")], by decide⟩]
    let env := succeeding .onBlock ⟨some [], "", entries, false⟩
    let request : ClientReq Unit := ⟨validOnBlockParams, .onBlock, none, false,
      [("0", ⟨"eth_call", 0, "0", [("data", "0x")], true⟩)]⟩
    let events : List (SessionEvent Nat) := [.feed (.notification 7), .errMsg "closing"]
    env.subscribeStart (some ()) = .ok (request, "subscription") ∧
      (env.handleSubscribe (some ()) events).flatMap SubscribeEffect.dispatches =
        (env.onBlockNode request.includes).runOnBlock request.calls
          ((SessionEvent.notificationsUntilEnd events).map env.ethBlock) := by
  intro entries env request events
  have h : env.subscribeStart (some ()) = .ok (request, "subscription") := rfl
  exact ⟨h, env.handleSubscribe_onBlock h rfl events⟩

theorem runSession_sends_every_result (subscriptionID : String)
    (hfeed : req.feed = .newTxs ∨ req.feed = .pendingTxs)
    (hnotify : ∀ result, env.notify (.tx result) = true) (calls : List (String × RPCCall)) :
    ∀ {events : List (SessionEvent N)},
    (∀ e ∈ events, e = .feed .nothingReady ∨ ∃ n, e = .feed (.notification n)) →
    env.runSession req subscriptionID (.loop calls) events =
      ((events.filterMap SessionEvent.toNotification).filterMap (env.notificationResult req)).map
        fun result => .notify (.tx result)
  | [], _ => rfl
  | e :: events, hopen => by
    have hrest := runSession_sends_every_result subscriptionID hfeed hnotify calls
      fun e' he' => hopen e' (List.mem_cons_of_mem _ he')
    rcases hopen e (List.mem_cons_self _ _) with rfl | ⟨n, rfl⟩
    · simpa [runSession, stepPhase, loopStep, SessionEvent.toNotification,
        FeedEvent.toNotification] using hrest
    · have hloop : env.loopNotification req calls n =
          ((env.notificationResult req n).toList.map fun result => .notify (.tx result),
            some calls) := by
        unfold loopNotification
        rcases hfeed with hf | hf <;> rw [hf] <;> dsimp only <;>
          cases env.notificationResult req n <;> simp [hnotify]
      rw [runSession]
      simp only [stepPhase, loopStep, hloop, Option.map_some']
      rw [hrest]
      simp only [SessionEvent.toNotification, FeedEvent.toNotification, List.filterMap_cons_some,
        List.filterMap_cons]
      cases env.notificationResult req n <;> simp

/-- On a live connection whose notifies all succeed, a subscription to a
transaction feed without `MultiTxs` sends its ID and then, in order, one
notify for each notification read that yields a result, and never ends. -/
theorem handleSubscribe_sends_every_result {params : Option Json} {request : ClientReq Expr}
    {subscriptionID : String} (h : env.subscribeStart params = .ok (request, subscriptionID))
    (hfeed : request.feed = .newTxs ∨ request.feed = .pendingTxs)
    (hsingle : request.multiTxs = false) (hnotify : ∀ result, env.notify (.tx result) = true)
    {events : List (SessionEvent N)}
    (hopen : ∀ e ∈ events, e = .feed .nothingReady ∨ ∃ n, e = .feed (.notification n)) :
    env.handleSubscribe params events = .reply subscriptionID ::
      ((events.filterMap SessionEvent.toNotification).filterMap
        (env.notificationResult request)).map fun result => .notify (.tx result) := by
  simp only [handleSubscribe, h, initialPhase, hsingle, Bool.false_eq_true, if_false]
  rw [env.runSession_sends_every_result request subscriptionID hfeed hnotify _ hopen]

/-- A newTxs subscription that reads two notifications. -/
theorem newTxs_sends_every_result :
    let env := succeeding .newTxs ⟨some ["tx_hash"], "", [], false⟩
    let request : ClientReq Unit := ⟨["tx_hash"], .newTxs, none, false, []⟩
    let events : List (SessionEvent Nat) :=
      [.feed (.notification 1), .feed .nothingReady, .feed (.notification 2)]
    env.subscribeStart (some ()) = .ok (request, "subscription") ∧
      env.handleSubscribe (some ()) events = .reply "subscription" ::
        ((events.filterMap SessionEvent.toNotification).filterMap
          (env.notificationResult request)).map fun result => .notify (.tx result) := by
  intro env request events
  have h : env.subscribeStart (some ()) = .ok (request, "subscription") := rfl
  exact ⟨h, env.handleSubscribe_sends_every_result h (Or.inl rfl) rfl (fun _ => rfl)
    (by simp [events])⟩

end SessionEnv

end Gateway.Servers
