import Gateway.Types

/-!
# The JSON-RPC handler

`handlerObj.Handle` for every method but `subscribe`, and
`handleSingleTransaction`, which `blxr_tx` and `blxr_batch_tx` call once per
transaction.  A call is modelled by what it does that others see: the
responses it sends for the request, the pending-next-validator lock it takes
and releases, the messages it hands to the node, and the fallback timers it
arms.  A call may also not return: it panics on a nil dereference, or it
blocks forever on a lock that is never released.

The pending lock belongs to the feed manager and is shared by the calls of
every connection and by the fallback timers.  A lock another call holds for a
moment is released again, so the model tracks only whether the lock is held
for good, as a call that returns without unlocking leaves it; a call that
takes it then blocks forever.  A run of requests is taken in the order the
requests reach the lock, each finding it as the one before left it.

Everything `Handle` consults is a collaborator with any behaviour: JSON
decoding of the params, the feed manager, the quota service, the node's
message handler, and the transaction checks of other packages.  Sends are
taken to succeed, as on a connection that stays up.
-/

namespace Gateway.Servers

open Gateway.Types

/-- The `jsonrpc.RPCErrorCode` values `Handle` sends. -/
inductive RPCErrorCode where
  | invalidParams
  | invalidRequest
  | internalError
  | methodNotFound
  | accountIDError
  deriving DecidableEq

inductive ReplyResult (Quota : Type) where
  | text (s : String)
  | txHash (hash : String)
  | txHashes (hashes : List String)
  | pong
  | status
  | quota (q : Option Quota)

/-- What a call does that others see. -/
inductive Effect (Tx Quota : Type) where
  /-- `reply`: one successful response for the request. -/
  | reply (result : ReplyResult Quota)
  /-- `SendErrorMsg`: one error response for the request. -/
  | sendError (code : RPCErrorCode) (data : String)
  | lock
  | unlock
  /-- `FeedManager.node.HandleMsg`; a nil transaction is `none`. -/
  | handleMsg (tx : Option Tx)
  /-- `time.AfterFunc` with the fallback timer of a pending transaction. -/
  | armFallback (tx : Tx) (fallback : UInt16)

inductive Ending (α : Type) where
  | returned (a : α)
  | panicked
  | blocked

def Ending.map {α β : Type} (f : α → β) : Ending α → Ending β
  | .returned a => .returned (f a)
  | .panicked => .panicked
  | .blocked => .blocked

/-- `jsonrpc.RPCTxPayload`, the fields `Handle` reads. -/
structure RPCTxPayload where
  transaction : String
  validatorsOnly : Bool
  nextValidator : Bool
  fallback : UInt16
  nodeValidation : Bool
  frontRunningProtection : Bool
  originalSenderAccountID : String

/-- `jsonrpc.RPCBatchTxPayload`. -/
structure RPCBatchTxPayload where
  transactions : List String
  validatorsOnly : Bool
  originalSenderAccountID : String

/-- The params of `blxr_mev_searcher`; `payload` is the raw bundle list. -/
structure MEVSearcherParams (Json : Type) where
  mevMethod : String
  payload : Json
  mevBuilders : List (String × String)
  frontrunning : Bool

/-- `sendBundleArgs`, the fields `validate` reads. -/
structure SendBundleArgs where
  txs : List Bytes
  uuid : String
  blockNumber : String

/-- The collaborators of `Handle`, each with any behaviour. -/
structure HandlerEnv (Json Tx Quota : Type) where
  /-- `FeedManager.accountModel.AccountID`. -/
  nodeAccountID : String
  /-- `h.connectionAccount.AccountID`. -/
  connectionAccountID : String
  /-- `types.BloxrouteAccountID`. -/
  bloxrouteAccountID : String
  /-- `json.Unmarshal` into `[]string`, whose error `Handle` ignores. -/
  unmarshalStrings : Json → List String
  unmarshalTxPayload : Json → Except String RPCTxPayload
  unmarshalBatchTxPayload : Json → Except String RPCBatchTxPayload
  unmarshalMEVSearcherParams : Json → Except String (MEVSearcherParams Json)
  unmarshalBundleArgs : Json → Except String (List SendBundleArgs)
  /-- `FeedManager.Unsubscribe` of the parsed subscription ID. -/
  unsubscribe : String → Except String Unit
  getQuotaUsage : String → Except String Quota
  /-- `types.DecodeHex`. -/
  decodeHex : String → Except String Bytes
  /-- `ValidateTxFromExternalSource` of the transaction, its bytes, the
  account of the connection and the flags `validatorsOnly`, `nextValidator`,
  `fallback`, `nodeValidation` and `frontRunningProtection`: the transaction
  and whether it is pending reevaluation. -/
  validateTxFromExternalSource : String → Bytes → String → Bool → Bool → UInt16 → Bool → Bool →
    Except String (Tx × Bool)
  handleMsg : Option Tx → Except String Unit
  /-- `tx.Hash().String()`. -/
  hashString : Tx → String
  /-- `ethtypes.Transaction.UnmarshalBinary`, `uuid.FromString` and
  `hexutil.DecodeUint64`, as checks. -/
  unmarshalBinary : Bytes → Option String
  uuidFromString : String → Option String
  decodeUint64 : String → Option String
  /-- `bxmessage.NewMEVSearcher`, then `HandleMsg` of the message. -/
  newMEVSearcher : MEVSearcherParams Json → String → Except String Unit
  handleMEVSearcherMsg : MEVSearcherParams Json → String → Except String Unit

/-- A request: its method and its params, `none` when absent. -/
structure Request (Json : Type) where
  method : String
  params : Option Json

/-- The arguments of `handleSingleTransaction` that vary between callers. -/
structure SingleTx where
  transaction : String
  accountID : String
  validatorsOnly : Bool
  sendError : Bool
  nextValidator : Bool
  fallback : UInt16
  nodeValidation : Bool
  frontRunningProtection : Bool

/-- What a call did, whether the pending lock is held for good when it ends,
and how it ended. -/
structure Run (Tx Quota α : Type) where
  effects : List (Effect Tx Quota)
  lockHeld : Bool
  ending : Ending α

variable {Json Tx Quota : Type} (env : HandlerEnv Json Tx Quota)

namespace HandlerEnv

/-! ## One transaction -/

/-- The part of `handleSingleTransaction` after the lock is released: hand
the transaction to the node unless it is pending, else arm its fallback
timer. -/
def afterValidation (tx : Option Tx) (pendingReevaluation : Bool) (fallback : UInt16) :
    List (Effect Tx Quota) × Ending (String × Bool) :=
  if !pendingReevaluation then
    match env.handleMsg tx with
    | .error _ => ([.handleMsg tx], .returned ("", false))
    | .ok () =>
      match tx with
      | some tx => ([.handleMsg (some tx)], .returned (env.hashString tx, true))
      | none => ([.handleMsg none], .panicked)
  else
    match tx with
    | some tx =>
      if fallback ≠ 0 then ([.armFallback tx fallback], .returned (env.hashString tx, true))
      else ([], .returned (env.hashString tx, true))
    | none => ([], .panicked)

/-- `handleSingleTransaction`, entered with the pending lock free or held for
good. -/
def handleSingleTransaction (lockHeld : Bool) (c : SingleTx) : Run Tx Quota (String × Bool) :=
  if lockHeld then ⟨[], true, .blocked⟩
  else
    match env.decodeHex c.transaction with
    | .error err => ⟨[.lock, .sendError .invalidParams err], true, .returned ("", false)⟩
    | .ok txContent =>
      match env.validateTxFromExternalSource c.transaction txContent c.accountID c.validatorsOnly
          c.nextValidator c.fallback c.nodeValidation c.frontRunningProtection with
      | .error err =>
        if c.sendError then ⟨[.lock, .unlock, .sendError .invalidParams err], false,
          .returned ("", false)⟩
        else
          let rest := env.afterValidation none false c.fallback
          ⟨.lock :: .unlock :: rest.1, false, rest.2⟩
      | .ok (tx, pendingReevaluation) =>
        let rest := env.afterValidation (some tx) pendingReevaluation c.fallback
        ⟨.lock :: .unlock :: rest.1, false, rest.2⟩

/-! ## `Handle` -/

/-- The loop of `blxr_batch_tx`, from the state of the pending lock: the
effects, the lock's state after, and the hashes of the transactions handled,
unless a call panicked or blocked. -/
def batchTransactions (accountID : String) (validatorsOnly : Bool) :
    Bool → List String → Run Tx Quota (List String)
  | lockHeld, [] => ⟨[], lockHeld, .returned []⟩
  | lockHeld, transaction :: rest =>
    let r := env.handleSingleTransaction lockHeld
      ⟨transaction, accountID, validatorsOnly, false, false, 0, false, false⟩
    match r.ending with
    | .returned (txHash, ok) =>
      let more := batchTransactions accountID validatorsOnly r.lockHeld rest
      ⟨r.effects ++ more.effects, more.lockHeld,
        more.ending.map fun hashes => if ok then txHash :: hashes else hashes⟩
    | .panicked => ⟨r.effects, r.lockHeld, .panicked⟩
    | .blocked => ⟨r.effects, r.lockHeld, .blocked⟩

/-- `fmt` of a `[]string` with `%v`. -/
def formatStrings (strings : List String) : String :=
  "[" ++ " ".intercalate strings ++ "]"

/-- `sendBundleArgs.validate`. -/
def validateBundle (args : SendBundleArgs) : Option String :=
  if args.txs = [] ∧ args.uuid = "" then some "bundle missing txs"
  else if args.blockNumber = "" then some "bundle missing blockNumber"
  else match args.txs.findSome? env.unmarshalBinary with
    | some err => some err
    | none =>
      match (if args.uuid ≠ "" then env.uuidFromString args.uuid else none) with
      | some err => some ("invalid UUID, " ++ err)
      | none =>
        match env.decodeUint64 args.blockNumber with
        | some err => some ("blockNumber must be hex, " ++ err)
        | none => none

def handleUnsubscribe (params : Option Json) : List (Effect Tx Quota) :=
  match params with
  | none => [.sendError .invalidParams "params is missing in the request"]
  | some p =>
    match env.unmarshalStrings p with
    | [subscriptionID] =>
      match env.unsubscribe subscriptionID with
      | .error _ => [.reply (.text "false"), .reply (.text "true")]
      | .ok () => [.reply (.text "true")]
    | strings =>
      [.sendError .invalidParams ("params " ++ formatStrings strings ++ " with incorrect length")]

def handleTx (lockHeld : Bool) (params : Option Json) : Run Tx Quota Unit :=
  if env.nodeAccountID ≠ env.connectionAccountID then
    if env.nodeAccountID = env.bloxrouteAccountID then ⟨[], lockHeld, .returned ()⟩
    else ⟨[.sendError .invalidRequest
      "blxr_tx is not allowed when account authentication is different from the node account"],
      lockHeld, .returned ()⟩
  else
    match params with
    | none => ⟨[], lockHeld, .panicked⟩
    | some p =>
      match env.unmarshalTxPayload p with
      | .error err => ⟨[.sendError .invalidParams err], lockHeld, .returned ()⟩
      | .ok params =>
        if env.nodeAccountID = env.bloxrouteAccountID ∧ params.originalSenderAccountID = "" then
          ⟨[.sendError .invalidRequest "failed to send transaction"], lockHeld, .returned ()⟩
        else
          let accountID := if env.connectionAccountID = env.bloxrouteAccountID
            then params.originalSenderAccountID else env.connectionAccountID
          let r := env.handleSingleTransaction lockHeld ⟨params.transaction, accountID,
            params.validatorsOnly, true, params.nextValidator, params.fallback,
            params.nodeValidation, params.frontRunningProtection⟩
          match r.ending with
          | .returned (txHash, true) =>
            ⟨r.effects ++ [.reply (.txHash txHash)], r.lockHeld, .returned ()⟩
          | .returned (_, false) => ⟨r.effects, r.lockHeld, .returned ()⟩
          | .panicked => ⟨r.effects, r.lockHeld, .panicked⟩
          | .blocked => ⟨r.effects, r.lockHeld, .blocked⟩

def handleBatchTx (lockHeld : Bool) (params : Option Json) : Run Tx Quota Unit :=
  if env.nodeAccountID ≠ env.connectionAccountID then ⟨[], lockHeld, .returned ()⟩
  else
    match params with
    | none => ⟨[], lockHeld, .panicked⟩
    | some p =>
      match env.unmarshalBatchTxPayload p with
      | .error err => ⟨[.sendError .invalidParams err], lockHeld, .returned ()⟩
      | .ok params =>
        let accountID := if env.connectionAccountID = env.bloxrouteAccountID
          then params.originalSenderAccountID else env.connectionAccountID
        let r := env.batchTransactions accountID params.validatorsOnly lockHeld
          params.transactions
        match r.ending with
        | .returned [] => ⟨r.effects ++ [.sendError .invalidParams "all transactions are invalid"],
            r.lockHeld, .returned ()⟩
        | .returned hashes => ⟨r.effects ++ [.reply (.txHashes hashes)], r.lockHeld, .returned ()⟩
        | .panicked => ⟨r.effects, r.lockHeld, .panicked⟩
        | .blocked => ⟨r.effects, r.lockHeld, .blocked⟩

def handleMEVSearcher (params : Option Json) : List (Effect Tx Quota) × Ending Unit :=
  if env.nodeAccountID ≠ env.connectionAccountID then
    ([.sendError .accountIDError
      "blxr_mev_searcher is not allowed when account authentication is different from the node account"],
      .returned ())
  else
    match params with
    | none => ([.sendError .invalidParams
        "failed to unmarshal req.Params for mevSearcher, params not found"], .returned ())
    | some p =>
      match env.unmarshalMEVSearcherParams p with
      | .error err => ([.sendError .invalidParams err], .returned ())
      | .ok params =>
        match env.unmarshalBundleArgs params.payload with
        | .error err => ([.sendError .invalidParams err], .returned ())
        | .ok [args] =>
          match env.validateBundle args with
          | some err => ([.sendError .invalidParams err], .returned ())
          | none =>
            match env.newMEVSearcher params args.uuid with
            | .error err => ([.sendError .invalidParams err], .returned ())
            | .ok () =>
              match env.handleMEVSearcherMsg params args.uuid with
              | .error err => ([.sendError .invalidParams err], .returned ())
              | .ok () => ([.reply .status], .returned ())
        -- `SendErrorMsg(..., err.Error(), ...)` with the nil error of the last decoding
        | .ok _ => ([], .panicked)

def handleQuotaUsage : List (Effect Tx Quota) :=
  match env.getQuotaUsage env.connectionAccountID with
  | .error err => [.sendError .methodNotFound ("failed to fetch quota usage: " ++ err),
      .reply (.quota none)]
  | .ok q => [.reply (.quota (some q))]

/-- `Handle` for every method but `subscribe`, which is not modelled (`none`),
from the state of the pending lock. -/
def handle (lockHeld : Bool) (req : Request Json) : Option (Run Tx Quota Unit) :=
  match req.method with
  | "subscribe" => none
  | "unsubscribe" => some ⟨env.handleUnsubscribe req.params, lockHeld, .returned ()⟩
  | "blxr_tx" => some (env.handleTx lockHeld req.params)
  | "blxr_batch_tx" => some (env.handleBatchTx lockHeld req.params)
  | "ping" => some ⟨[.reply .pong], lockHeld, .returned ()⟩
  | "blxr_mev_searcher" =>
    some ⟨(env.handleMEVSearcher req.params).1, lockHeld, (env.handleMEVSearcher req.params).2⟩
  | "quota_usage" => some ⟨env.handleQuotaUsage, lockHeld, .returned ()⟩
  | method => some ⟨[.sendError .methodNotFound ("got unsupported method name: " ++ method)],
      lockHeld, .returned ()⟩

end HandlerEnv

def Effect.isResponse : Effect Tx Quota → Bool
  | .reply _ | .sendError .. => true
  | _ => false

def responses (effects : List (Effect Tx Quota)) : Nat :=
  effects.countP Effect.isResponse

end Gateway.Servers
