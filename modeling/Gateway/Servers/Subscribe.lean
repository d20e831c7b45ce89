import Gateway.Servers.Handler
import Gateway.Servers.Filter
import Mathlib.Data.List.Dedup

/-!
# Subscription requests

`createClientReq` turns the params of a `subscribe` request into a client
request: the feed, the fields to include, the filter expression and, for the
onBlock feed, the RPC calls to make on every block.  Each step can refuse
the request with an error text.

The JSON decoding of the params, the conditions parser, the connection's
account and the node's RPC catalog are collaborators.  A `Call-Params` entry
is a Go map, a list of distinct keys in the order of its iteration; any order
is possible.
-/

namespace Gateway.Servers

open Gateway.Types

/-! ## Catalogs -/

/-- The feeds of `availableFeeds`, under the names of their `types.FeedType`
constants. -/
inductive FeedType where
  | newTxs
  | newBlocks
  | bdnBlocks
  | pendingTxs
  | onBlock
  | txReceipts
  | newBeaconBlocks
  | bdnBeaconBlocks
  deriving DecidableEq

def availableFeeds : List FeedType :=
  [.newTxs, .newBlocks, .bdnBlocks, .pendingTxs, .onBlock, .txReceipts, .newBeaconBlocks,
    .bdnBeaconBlocks]

def txContentFields : List String := ["tx_contents.nonce", "tx_contents.tx_hash",
  "tx_contents.gas_price", "tx_contents.gas", "tx_contents.to", "tx_contents.value",
  "tx_contents.input", "tx_contents.v", "tx_contents.r", "tx_contents.s", "tx_contents.from",
  "tx_contents.type", "tx_contents.access_list", "tx_contents.chain_id",
  "tx_contents.max_priority_fee_per_gas", "tx_contents.max_fee_per_gas"]

def validTxParams : List String :=
  txContentFields ++ ["tx_contents", "tx_hash", "local_region", "time", "raw_tx"]

def validBlockParams : List String :=
  txContentFields ++ ["hash", "header", "transactions", "uncles", "future_validator_info"]

def validOnBlockParams : List String := ["name", "response", "block_height", "tag"]

def validBeaconBlockParams : List String := ["hash", "header", "slot", "body"]

def validTxReceiptParams : List String := ["block_hash", "block_number", "contract_address",
  "cumulative_gas_used", "effective_gas_price", "from", "gas_used", "logs", "logs_bloom",
  "status", "to", "transaction_hash", "transaction_index", "type"]

def validParams : FeedType → List String
  | .newTxs => validTxParams
  | .bdnBlocks => validBlockParams
  | .newBlocks => validBlockParams
  | .pendingTxs => validTxParams
  | .onBlock => validOnBlockParams
  | .txReceipts => validTxReceiptParams
  | .newBeaconBlocks => validBeaconBlockParams
  | .bdnBeaconBlocks => validBeaconBlockParams

def defaultTxParams : List String := txContentFields ++ ["tx_hash", "local_region", "time"]

/-- The fields requested by an empty `Include`. -/
def defaultIncludes : FeedType → List String
  | .bdnBlocks | .newBlocks | .bdnBeaconBlocks | .newBeaconBlocks => validBlockParams
  | .newTxs => defaultTxParams
  | .pendingTxs => defaultTxParams
  | .onBlock => validParams .onBlock
  | .txReceipts => validParams .txReceipts

/-! ## The request and its collaborators -/

/-- A Go `map[string]string`: distinct keys, in the order of one iteration. -/
structure GoMap where
  entries : List (String × String)
  nodup : (entries.map Prod.fst).Nodup

/-- `subscriptionOptions`; `includeFields` is `Include`, `none` when absent,
and a `null` entry of `Call-Params` is `none`. -/
structure SubscriptionOptions where
  includeFields : Option (List String)
  filters : String
  callParams : List (Option GoMap)
  multiTxs : Bool

/-- `sdnmessage.BDNFeedService`, with whether its expiry date has passed. -/
structure BDNFeedService where
  expired : Bool
  allowFiltering : Bool
  availableFields : List String

/-- The feed services of the connection's account. -/
structure AccountFeeds where
  newTransactionStreaming : BDNFeedService
  pendingTransactionStreaming : BDNFeedService
  newBlockStreaming : BDNFeedService
  onBlockFeed : BDNFeedService
  transactionReceiptFeed : BDNFeedService

/-- The service `createClientReq` checks a feed against. -/
def AccountFeeds.service (account : AccountFeeds) : FeedType → BDNFeedService
  | .newTxs => account.newTransactionStreaming
  | .pendingTxs => account.pendingTransactionStreaming
  | .bdnBlocks | .newBlocks | .newBeaconBlocks | .bdnBeaconBlocks => account.newBlockStreaming
  | .onBlock => account.onBlockFeed
  | .txReceipts => account.transactionReceiptFeed

/-- The collaborators of `createClientReq`, each with any behaviour. -/
structure SubscribeEnv (Json Expr : Type) where
  /-- `h.connectionAccount.AccountID` and `h.FeedManager.accountModel.AccountID`. -/
  connectionAccountID : String
  nodeAccountID : String
  /-- The string of each `types.FeedType` constant. -/
  feedName : FeedType → String
  /-- `json.Unmarshal` into `[]json.RawMessage`, into a `types.FeedType` and
  into `subscriptionOptions`. -/
  unmarshalParams : Json → Except String (List Json)
  unmarshalFeed : Json → Except String String
  unmarshalOptions : Json → Except String SubscriptionOptions
  /-- The text of a raw JSON value, as `%s` prints it. -/
  rawText : Json → String
  /-- The conditions parser, `filtersHasEmptyValue` of its result,
  `EvaluateFilters`, and the arguments of an expression. -/
  parse : String → Except String Expr
  hasEmptyValue : Expr → Bool
  evaluateFilters : Expr → Except String Unit
  args : Expr → List String
  account : AccountFeeds
  /-- `nodeWSManager.ValidRPCCallMethods()`, `ValidRPCCallPayloadFields()` and
  `RequiredPayloadFieldsForRPCMethod`. -/
  validRPCCallMethods : List String
  validRPCCallPayloadFields : List String
  requiredPayloadFieldsForRPCMethod : String → Option (List String)

/-- `RPCCall`; the payload is a map, kept with distinct keys. -/
structure RPCCall where
  commandMethod : String
  blockOffset : Int
  callName : String
  callPayload : List (String × String)
  active : Bool

/-- `clientReq`; the calls map is a list with distinct names. -/
structure ClientReq (Expr : Type) where
  includes : List String
  feed : FeedType
  expr : Option Expr
  multiTxs : Bool
  calls : List (String × RPCCall)

/-! ## Includes and filters -/

/-- The loop over `Include`: each field must be in the feed's catalog;
`tx_contents` brings all its subfields before it.  An empty `Include`
requests the feed's default fields. -/
def requestedFields (feed : FeedType) (includeFields : List String) :
    Except String (List String) :=
  includeFields.foldlM (fun requested param =>
    if param ∈ validParams feed then
      .ok (requested ++ (if param = "tx_contents" then txContentFields else []) ++ [param])
    else .error ("got unsupported param " ++ param))
    (if includeFields = [] then defaultIncludes feed else [])

/-- `validateFeed`. -/
def validateFeed (feedName : String) (feedStreaming : BDNFeedService)
    (includes filters : List String) : Except String Unit :=
  if feedStreaming.expired then .error (feedName ++ " is not allowed or date has been expired")
  else if feedStreaming.allowFiltering ∧ "all" ∈ feedStreaming.availableFields then .ok ()
  else match includes.find? (· ∉ feedStreaming.availableFields) with
    | some field => .error ("including " ++ feedName ++ ": " ++ field ++ " is not allowed")
    | none =>
      if !feedStreaming.allowFiltering ∧ filters ≠ [] then
        .error ("filtering in " ++ feedName ++ " is not allowed")
      else .ok ()

/-! ## Calls -/

def newCall (name : String) : RPCCall := ⟨"", 0, name, [], true⟩

/-- `RPCCall.validatePayload`: every required field is a payload key. -/
def RPCCall.validatePayload (c : RPCCall) (method : String) (requiredFields : List String) :
    Except String Unit :=
  match requiredFields.find? (fun field => field ∉ c.callPayload.map Prod.fst) with
  | some field => .error ("expected " ++ field ++ " element in request payload for " ++ method)
  | none => .ok ()

/-- `calls[name] = call`. -/
def insertCall (calls : List (String × RPCCall)) (name : String) (call : RPCCall) :
    List (String × RPCCall) :=
  if name ∈ calls.map Prod.fst then calls.map fun p => if p.1 = name then (name, call) else p
  else calls ++ [(name, call)]

def errInvalidTag (value : String) : String :=
  "invalid value " ++ value ++ " provided for tag. Supported values: latest, 0 or a negative number"

namespace SubscribeEnv

variable {Json Expr : Type} (env : SubscribeEnv Json Expr)

/-- One key of a `Call-Params` entry, with the calls stored so far. -/
def callParam (calls : List (String × RPCCall)) (call : RPCCall) (param value : String) :
    Except String RPCCall :=
  if param = "method" then
    if value ∈ env.validRPCCallMethods then .ok { call with commandMethod := value }
    else .error ("invalid method " ++ value ++ " provided. Supported methods: " ++
      HandlerEnv.formatStrings env.validRPCCallMethods)
  else if param = "tag" then
    if value = "latest" then .ok { call with blockOffset := 0 }
    else match atoi value.toList with
      | some blockOffset =>
        if blockOffset > 0 then .error (errInvalidTag value)
        else .ok { call with blockOffset := blockOffset }
      | none => .error (errInvalidTag value)
  else if param = "name" then
    if value ∈ calls.map Prod.fst then
      .error ("unique name must be provided for each call: call " ++ value ++ " already exists")
    else .ok { call with callName := value }
  else if param ∈ env.validRPCCallPayloadFields then
    .ok { call with callPayload := call.callPayload ++ [(param, value)] }
  else .error ("invalid payload field " ++ param ++ " provided. Supported fields: " ++
    HandlerEnv.formatStrings env.validRPCCallPayloadFields)

/-- The call of the entry at `idx`, before it is stored. -/
def buildCall (calls : List (String × RPCCall)) (idx : Nat) (callParams : Option GoMap) :
    Except String RPCCall :=
  match callParams with
  | none => .error "call-params cannot be nil"
  | some callParams =>
    callParams.entries.foldlM (fun call p => env.callParam calls call p.1 p.2)
        (newCall (toString idx)) >>= fun call =>
    match env.requiredPayloadFieldsForRPCMethod call.commandMethod with
    | none => .error ("unexpectedly, unable to find required fields for method " ++
        call.commandMethod)
    | some requiredFields =>
      call.validatePayload call.commandMethod requiredFields >>= fun () => .ok call

/-- The loop over `Call-Params`, from entry `idx` on. -/
def buildCalls (calls : List (String × RPCCall)) :
    Nat → List (Option GoMap) → Except String (List (String × RPCCall))
  | _, [] => .ok calls
  | idx, callParams :: rest =>
    env.buildCall calls idx callParams >>= fun call =>
    buildCalls (insertCall calls call.callName call) (idx + 1) rest

/-! ## `createClientReq` -/

/-- `ParseFilter` and `EvaluateFilters` of a non-empty `Filters`. -/
def filterExpr (filters : String) : Except String (Option Expr) :=
  if filters ≠ "" then
    match parseFilter env.parse env.hasEmptyValue filters with
    | .error err => .error ("error parsing Filters " ++ err)
    | .ok (_, expr) =>
      match env.evaluateFilters expr with
      | .error err => .error ("error evaluat Filters- " ++ err)
      | .ok () => .ok (some expr)
  else .ok none

/-- `createClientReq` once the feed is known and the options decoded. -/
def clientReqOfOptions (name : String) (feed : FeedType) (rawOptions : Json)
    (options : SubscriptionOptions) : Except String (ClientReq Expr) :=
  match options.includeFields with
  | none => .error ("got unsupported params " ++ env.rawText rawOptions)
  | some includeFields =>
    requestedFields feed includeFields >>= fun includes =>
    env.filterExpr options.filters >>= fun expr =>
    validateFeed name (env.account.service feed) includes ((expr.map env.args).getD []) >>= fun () =>
    (if feed = .onBlock then env.buildCalls [] 0 options.callParams else .ok []) >>= fun calls =>
    .ok ⟨includes, feed, expr, options.multiTxs, calls⟩

def createClientReq (params : Option Json) : Except String (ClientReq Expr) :=
  match params with
  | none => .error "invalid json request: params is a required field"
  | some params =>
    env.unmarshalParams params >>= fun rpcParams =>
    match rpcParams with
    | rawFeed :: rawOptions :: _ =>
      env.unmarshalFeed rawFeed >>= fun name =>
      match availableFeeds.find? (env.feedName · = name) with
      | none => .error ("got unsupported feed name " ++ name ++ ". possible feeds are " ++
          HandlerEnv.formatStrings (availableFeeds.map env.feedName))
      | some feed =>
        if env.connectionAccountID ≠ env.nodeAccountID ∧ (feed = .onBlock ∨ feed = .txReceipts)
        then .error (name ++ " feed is not available via cloud services. " ++ name ++
          " feed is only supported on gateways")
        else env.unmarshalOptions rawOptions >>= env.clientReqOfOptions name feed rawOptions
    | _ => .error ("number of params must be at least length 2. requested params: " ++
      env.rawText params)

/-! ## What an accepted request holds -/

theorem clientReqOfOptions_ok {name : String} {feed : FeedType} {rawOptions : Json}
    {options : SubscriptionOptions} {r : ClientReq Expr}
    (h : env.clientReqOfOptions name feed rawOptions options = .ok r) :
    ∃ includeFields, options.includeFields = some includeFields ∧ r.feed = feed ∧
      requestedFields feed includeFields = .ok r.includes ∧
      (if feed = .onBlock then env.buildCalls [] 0 options.callParams else .ok []) =
        .ok r.calls := by
  unfold clientReqOfOptions at h
  split at h
  · cases h
  next includeFields hinc =>
    obtain ⟨includes, hincludes, h⟩ := except_bind_eq_ok.mp h
    obtain ⟨expr, -, h⟩ := except_bind_eq_ok.mp h
    obtain ⟨-, -, h⟩ := except_bind_eq_ok.mp h
    obtain ⟨calls, hcalls, h⟩ := except_bind_eq_ok.mp h
    cases h
    exact ⟨includeFields, hinc, rfl, hincludes, hcalls⟩

theorem createClientReq_ok {params : Option Json} {r : ClientReq Expr}
    (h : env.createClientReq params = .ok r) :
    ∃ p rawFeed rawOptions rest options includeFields,
      params = some p ∧ env.unmarshalParams p = .ok (rawFeed :: rawOptions :: rest) ∧
      env.unmarshalOptions rawOptions = .ok options ∧
      options.includeFields = some includeFields ∧
      requestedFields r.feed includeFields = .ok r.includes ∧
      (if r.feed = .onBlock then env.buildCalls [] 0 options.callParams else .ok []) =
        .ok r.calls := by
  unfold createClientReq at h
  rcases params with _ | p
  · cases h
  obtain ⟨rpcParams, hparams, h⟩ := except_bind_eq_ok.mp h
  rcases rpcParams with _ | ⟨rawFeed, _ | ⟨rawOptions, rest⟩⟩
  · cases h
  · cases h
  obtain ⟨name, -, h⟩ := except_bind_eq_ok.mp h
  split at h
  · cases h
  next feed _ =>
    split_ifs at h
    obtain ⟨options, hoptions, h⟩ := except_bind_eq_ok.mp h
    obtain ⟨includeFields, hinc, rfl, hincludes, hcalls⟩ := env.clientReqOfOptions_ok h
    exact ⟨p, rawFeed, rawOptions, rest, options, includeFields, rfl, hparams, hoptions, hinc,
      hincludes, hcalls⟩

end SubscribeEnv

/-! ## Includes -/

theorem txContentFields_valid {feed : FeedType} (h : "tx_contents" ∈ validParams feed) :
    ∀ x ∈ txContentFields, x ∈ validParams feed := by
  cases feed
  case newTxs | pendingTxs | newBlocks | bdnBlocks => exact fun x hx => List.mem_append_left _ hx
  all_goals exact absurd h (by decide)

theorem defaultIncludes_ne_nil (feed : FeedType) : defaultIncludes feed ≠ [] := by
  cases feed <;> decide

theorem defaultIncludes_valid_iff (feed : FeedType) :
    (∀ x ∈ defaultIncludes feed, x ∈ validParams feed) ↔
      feed ≠ .newBeaconBlocks ∧ feed ≠ .bdnBeaconBlocks := by
  have hbeacon : ¬∀ x ∈ validBlockParams, x ∈ validBeaconBlockParams :=
    fun h => absurd (h "transactions" (by decide)) (by decide)
  have htx : ∀ x ∈ defaultTxParams, x ∈ validTxParams := fun x hx => by
    rcases List.mem_append.1 hx with hx | hx
    · exact List.mem_append_left _ hx
    · exact List.mem_append_right _ (List.mem_cons_of_mem _ (List.mem_append_left ["raw_tx"] hx))
  cases feed
  case newBeaconBlocks | bdnBeaconBlocks => exact iff_of_false hbeacon (by decide)
  case newTxs | pendingTxs => exact iff_of_true htx (by decide)
  all_goals exact iff_of_true (fun x hx => hx) (by decide)

theorem foldlM_requestedFields {feed : FeedType} {includeFields requested fields : List String}
    (h : (includeFields.foldlM (fun requested param =>
      if param ∈ validParams feed then
        .ok (requested ++ (if param = "tx_contents" then txContentFields else []) ++ [param])
      else .error ("got unsupported param " ++ param)) requested : Except String (List String)) =
        .ok fields)
    (hvalid : ∀ x ∈ requested, x ∈ validParams feed) :
    (∀ x ∈ fields, x ∈ validParams feed) ∧
      requested.length + includeFields.length ≤ fields.length := by
  induction includeFields generalizing requested with
  | nil => cases h; exact ⟨hvalid, by simp⟩
  | cons param rest ih =>
    rw [List.foldlM_cons] at h
    by_cases hparam : param ∈ validParams feed
    · rw [if_pos hparam, except_ok_bind] at h
      have hextra : ∀ x ∈ (if param = "tx_contents" then txContentFields else []),
          x ∈ validParams feed := by
        split_ifs with htx
        · exact txContentFields_valid (htx ▸ hparam)
        · simp
      obtain ⟨hfields, hlen⟩ := ih h fun x hx => by
        simp only [List.mem_append, List.mem_singleton] at hx
        rcases hx with (hx | hx) | rfl
        exacts [hvalid x hx, hextra x hx, hparam]
      refine ⟨hfields, ?_⟩
      simp only [List.length_append, List.length_cons, List.length_singleton] at hlen ⊢
      omega
    · rw [if_neg hparam] at h
      cases h

theorem requestedFields_ok {feed : FeedType} {includeFields fields : List String}
    (h : requestedFields feed includeFields = .ok fields) :
    (includeFields = [] → fields = defaultIncludes feed) ∧
      (includeFields ≠ [] → fields ≠ [] ∧ ∀ x ∈ fields, x ∈ validParams feed) := by
  refine ⟨fun hnil => ?_, fun hne => ?_⟩
  · subst hnil
    cases h
    rfl
  · rw [requestedFields, if_neg hne] at h
    obtain ⟨hvalid, hlen⟩ := foldlM_requestedFields h (by simp)
    refine ⟨fun hnil => ?_, hvalid⟩
    rw [hnil] at hlen
    exact hne (List.length_eq_zero.1 (by simpa using hlen))

/-- A gateway whose account allows every feed with every field and filter,
and which decodes any params to `feed` and `options`; its node's one RPC
method, `eth_call`, needs a `data` field. -/
def requestEnv (feed : FeedType) (options : SubscriptionOptions) : SubscribeEnv Unit Unit where
  connectionAccountID := "gateway"
  nodeAccountID := "gateway"
  feedName := fun f => if f = feed then "requested" else "other"
  unmarshalParams := fun _ => .ok [(), ()]
  unmarshalFeed := fun _ => .ok "requested"
  unmarshalOptions := fun _ => .ok options
  rawText := fun _ => ""
  parse := fun _ => .ok ()
  hasEmptyValue := fun _ => false
  evaluateFilters := fun _ => .ok ()
  args := fun _ => []
  account :=
    let service : BDNFeedService := ⟨false, true, ["all"]⟩
    ⟨service, service, service, service, service⟩
  validRPCCallMethods := ["eth_call"]
  validRPCCallPayloadFields := ["data"]
  requiredPayloadFieldsForRPCMethod := fun method =>
    if method = "eth_call" then some ["data"] else none

namespace SubscribeEnv

variable {Json Expr : Type} (env : SubscribeEnv Json Expr)

/-- The fields of an accepted request are catalogued for its feed exactly when
its `Include` is not empty or its feed is not a beacon feed: an empty
`Include` on a beacon feed brings the Ethereum block's fields. -/
theorem createClientReq_includes {params : Option Json} {r : ClientReq Expr}
    (h : env.createClientReq params = .ok r) :
    ∃ p rawFeed rawOptions rest options includeFields,
      params = some p ∧ env.unmarshalParams p = .ok (rawFeed :: rawOptions :: rest) ∧
      env.unmarshalOptions rawOptions = .ok options ∧
      options.includeFields = some includeFields ∧ r.includes ≠ [] ∧
      ((∀ x ∈ r.includes, x ∈ validParams r.feed) ↔
        includeFields ≠ [] ∨ (r.feed ≠ .newBeaconBlocks ∧ r.feed ≠ .bdnBeaconBlocks)) := by
  obtain ⟨p, rawFeed, rawOptions, rest, options, includeFields, hp, hparams, hoptions, hinc,
    hincludes, -⟩ := env.createClientReq_ok h
  refine ⟨p, rawFeed, rawOptions, rest, options, includeFields, hp, hparams, hoptions, hinc, ?_⟩
  obtain ⟨hdefault, hrequested⟩ := requestedFields_ok hincludes
  by_cases hempty : includeFields = []
  · rw [hdefault hempty, defaultIncludes_valid_iff, hempty]
    exact ⟨defaultIncludes_ne_nil r.feed, (or_iff_right fun h => h rfl).symm⟩
  · obtain ⟨hne, hvalid⟩ := hrequested hempty
    exact ⟨hne, iff_of_true hvalid (Or.inl hempty)⟩

/-- A `newBeaconBlocks` subscription with an empty `Include` is accepted with
fields outside the beacon catalog. -/
theorem beaconFeed_default_includes_uncatalogued :
    let env := requestEnv .newBeaconBlocks ⟨some [], "", [], false⟩
    ∃ r, env.createClientReq (some ()) = .ok r ∧ r.feed = .newBeaconBlocks ∧
      ¬∀ x ∈ r.includes, x ∈ validParams r.feed := by
  intro env
  have hr : env.createClientReq (some ()) =
      .ok ⟨validBlockParams, .newBeaconBlocks, none, false, []⟩ := rfl
  refine ⟨_, hr, rfl, fun hall => ?_⟩
  obtain ⟨p, rawFeed, rawOptions, rest, options, includeFields, -, -, hoptions, hinc, -,
    hiff⟩ := env.createClientReq_includes hr
  cases hoptions
  cases hinc
  exact (hiff.1 hall).elim (fun h => h rfl) fun h => h.1 rfl

end SubscribeEnv

/-! ## The calls map -/

/-- The name the loop stores the call of entry `idx` under: its `name`, or its
index. -/
def entryCallName (idx : Nat) (m : GoMap) : String :=
  (m.entries.lookup "name").getD (toString idx)

def entryCallNames : Nat → List GoMap → List String
  | _, [] => []
  | idx, m :: ms => entryCallName idx m :: entryCallNames (idx + 1) ms

theorem insertCall_keys (calls : List (String × RPCCall)) (name : String) (call : RPCCall) :
    (insertCall calls name call).map Prod.fst =
      if name ∈ calls.map Prod.fst then calls.map Prod.fst else calls.map Prod.fst ++ [name] := by
  unfold insertCall
  split_ifs
  · rw [List.map_map]
    exact List.map_congr_left fun p _ => by
      dsimp only [Function.comp]
      split_ifs with hp
      · exact hp.symm
      · rfl
  · simp

theorem insertCall_keys_nodup {calls : List (String × RPCCall)} {name : String} {call : RPCCall}
    (h : (calls.map Prod.fst).Nodup) : ((insertCall calls name call).map Prod.fst).Nodup := by
  rw [insertCall_keys]
  split_ifs with hmem
  · exact h
  · exact h.append (List.nodup_singleton name) (List.disjoint_singleton.2 hmem)

theorem mem_insertCall_keys {calls : List (String × RPCCall)} {name n : String}
    {call : RPCCall} :
    n ∈ (insertCall calls name call).map Prod.fst ↔ n ∈ calls.map Prod.fst ∨ n = name := by
  rw [insertCall_keys]
  split_ifs with hmem
  · exact ⟨Or.inl, fun h => h.elim id fun hn => hn ▸ hmem⟩
  · simp

theorem mem_insertCall {calls : List (String × RPCCall)} {name : String} {call : RPCCall}
    {p : String × RPCCall} (hp : p ∈ insertCall calls name call) :
    p ∈ calls ∨ p = (name, call) := by
  unfold insertCall at hp
  split_ifs at hp
  · obtain ⟨q, hq, rfl⟩ := List.mem_map.1 hp
    split_ifs
    exacts [Or.inr rfl, Or.inl hq]
  · simpa using hp

theorem RPCCall.validatePayload_ok {c : RPCCall} {method : String} {requiredFields : List String}
    (h : c.validatePayload method requiredFields = .ok ()) :
    ∀ field ∈ requiredFields, field ∈ c.callPayload.map Prod.fst := by
  unfold RPCCall.validatePayload at h
  split at h
  · cases h
  next hfind =>
    intro field hfield
    simpa using List.find?_eq_none.1 hfind field hfield

namespace SubscribeEnv

variable {Json Expr : Type} (env : SubscribeEnv Json Expr)

/-- What `createClientReq` has checked of a call it stores under `name`. -/
structure ValidCall (name : String) (call : RPCCall) : Prop where
  callName : call.callName = name
  blockOffset : call.blockOffset ≤ 0
  method : call.commandMethod = "" ∨ call.commandMethod ∈ env.validRPCCallMethods
  required : ∃ requiredFields, env.requiredPayloadFieldsForRPCMethod call.commandMethod =
    some requiredFields ∧ ∀ field ∈ requiredFields, field ∈ call.callPayload.map Prod.fst

theorem callParam_cases {calls : List (String × RPCCall)} {call call' : RPCCall}
    {param value : String} (h : env.callParam calls call param value = .ok call') :
    (param = "method" ∧ value ∈ env.validRPCCallMethods ∧
        call' = { call with commandMethod := value }) ∨
      (param = "tag" ∧ ∃ o, (value = "latest" ∧ o = 0 ∨
          value ≠ "latest" ∧ atoi value.toList = some o ∧ o ≤ 0) ∧
        call' = { call with blockOffset := o }) ∨
      (param = "name" ∧ value ∉ calls.map Prod.fst ∧
        call' = { call with callName := value }) ∨
      (param ≠ "method" ∧ param ≠ "tag" ∧ param ≠ "name" ∧
        param ∈ env.validRPCCallPayloadFields ∧
        call' = { call with callPayload := call.callPayload ++ [(param, value)] }) := by
  unfold callParam at h
  by_cases hmethod : param = "method"
  · rw [if_pos hmethod] at h
    split_ifs at h with hvalid
    cases h
    exact .inl ⟨hmethod, hvalid, rfl⟩
  rw [if_neg hmethod] at h
  by_cases htag : param = "tag"
  · rw [if_pos htag] at h
    refine .inr (.inl ⟨htag, ?_⟩)
    split_ifs at h with hlatest
    · cases h
      exact ⟨0, .inl ⟨hlatest, rfl⟩, rfl⟩
    · split at h
      next o ho =>
        split_ifs at h with hpos
        cases h
        exact ⟨o, .inr ⟨hlatest, ho, not_lt.1 hpos⟩, rfl⟩
      next => cases h
  rw [if_neg htag] at h
  by_cases hname : param = "name"
  · rw [if_pos hname] at h
    split_ifs at h with hstored
    cases h
    exact .inr (.inr (.inl ⟨hname, hstored, rfl⟩))
  rw [if_neg hname] at h
  split_ifs at h with hfield
  cases h
  exact .inr (.inr (.inr ⟨hmethod, htag, hname, hfield, rfl⟩))

theorem callParam_ok {calls : List (String × RPCCall)} {call call' : RPCCall}
    {param value : String} (h : env.callParam calls call param value = .ok call') :
    call'.callName = (if param = "name" then value else call.callName) ∧
      (call.blockOffset ≤ 0 → call'.blockOffset ≤ 0) ∧
      (call'.commandMethod = call.commandMethod ∨
        call'.commandMethod ∈ env.validRPCCallMethods) := by
  rcases env.callParam_cases h with
    ⟨rfl, hvalid, rfl⟩ | ⟨rfl, o, ho, rfl⟩ | ⟨rfl, -, rfl⟩ | ⟨-, -, hname, -, rfl⟩
  · exact ⟨(if_neg (by decide)).symm, id, Or.inr hvalid⟩
  · refine ⟨(if_neg (by decide)).symm, fun _ => ?_, Or.inl rfl⟩
    rcases ho with ⟨-, rfl⟩ | ⟨-, -, hle⟩
    exacts [le_rfl, hle]
  · exact ⟨(if_pos rfl).symm, id, Or.inl rfl⟩
  · exact ⟨(if_neg hname).symm, id, Or.inl rfl⟩

theorem foldlM_callParam {calls : List (String × RPCCall)} :
    ∀ {entries : List (String × String)} {call call' : RPCCall},
      (entries.map Prod.fst).Nodup →
      (entries.foldlM (fun call p => env.callParam calls call p.1 p.2) call :
        Except String RPCCall) = .ok call' →
      call.blockOffset ≤ 0 →
      (call.commandMethod = "" ∨ call.commandMethod ∈ env.validRPCCallMethods) →
      call'.callName = (entries.lookup "name").getD call.callName ∧ call'.blockOffset ≤ 0 ∧
        (call'.commandMethod = "" ∨ call'.commandMethod ∈ env.validRPCCallMethods)
  | [], _, _, _, h, hoffset, hmethod => by cases h; exact ⟨rfl, hoffset, hmethod⟩
  | (param, value) :: rest, call, call', hnodup, h, hoffset, hmethod => by
    rw [List.foldlM_cons] at h
    obtain ⟨call₁, h₁, h⟩ := except_bind_eq_ok.mp h
    obtain ⟨hname₁, hoffset₁, hmethod₁⟩ := env.callParam_ok h₁
    obtain ⟨hfresh, hnodup⟩ := List.nodup_cons.1 hnodup
    obtain ⟨hname, hoffset', hmethod'⟩ := foldlM_callParam hnodup h (hoffset₁ hoffset)
      (hmethod₁.elim (fun heq => heq ▸ hmethod) Or.inr)
    refine ⟨?_, hoffset', hmethod'⟩
    rw [hname, hname₁, List.lookup_cons]
    by_cases hp : param = "name"
    · subst hp
      have hnone : rest.lookup "name" = none :=
        List.lookup_eq_none_iff.2 fun q hq =>
          bne_iff_ne.2 fun h => hfresh (List.mem_map.2 ⟨q, hq, h.symm⟩)
      simp [hnone]
    · simp only [if_neg hp, beq_false_of_ne (Ne.symm hp)]

theorem buildCall_ok {calls : List (String × RPCCall)} {idx : Nat} {callParams : Option GoMap}
    {call : RPCCall} (h : env.buildCall calls idx callParams = .ok call) :
    ∃ m, callParams = some m ∧ env.ValidCall (entryCallName idx m) call := by
  unfold buildCall at h
  rcases callParams with _ | m
  · cases h
  obtain ⟨call', hfold, h⟩ := except_bind_eq_ok.mp h
  obtain ⟨hname, hoffset, hmethod⟩ := env.foldlM_callParam m.nodup hfold le_rfl (Or.inl rfl)
  split at h
  · cases h
  next requiredFields hrequired =>
    obtain ⟨⟨⟩, hvalid, h⟩ := except_bind_eq_ok.mp h
    cases h
    exact ⟨m, rfl, hname, hoffset, hmethod, requiredFields, hrequired,
      RPCCall.validatePayload_ok hvalid⟩

theorem buildCalls_ok :
    ∀ {calls : List (String × RPCCall)} {idx : Nat} {callParams : List (Option GoMap)}
      {calls' : List (String × RPCCall)},
      env.buildCalls calls idx callParams = .ok calls' →
      (calls.map Prod.fst).Nodup → (∀ c ∈ calls, env.ValidCall c.1 c.2) →
      ∃ maps, callParams = maps.map some ∧ (calls'.map Prod.fst).Nodup ∧
        (∀ c ∈ calls', env.ValidCall c.1 c.2) ∧
        ∀ n, n ∈ calls'.map Prod.fst ↔
          n ∈ calls.map Prod.fst ∨ n ∈ entryCallNames idx maps
  | _, _, [], _, h, hnodup, hvalid => by
    cases h
    exact ⟨[], rfl, hnodup, hvalid, by simp [entryCallNames]⟩
  | calls, idx, callParams :: rest, calls', h, hnodup, hvalid => by
    obtain ⟨call, hcall, hrest⟩ := except_bind_eq_ok.mp h
    obtain ⟨m, rfl, hcheck⟩ := env.buildCall_ok hcall
    have hstored : ∀ c ∈ insertCall calls call.callName call, env.ValidCall c.1 c.2 :=
      fun c hc => (mem_insertCall hc).elim (hvalid c) fun hc => by
        subst hc
        dsimp only
        rw [hcheck.callName]
        exact hcheck
    obtain ⟨maps, rfl, hnodup', hvalid', hkeys⟩ :=
      buildCalls_ok hrest (insertCall_keys_nodup hnodup) hstored
    refine ⟨m :: maps, rfl, hnodup', hvalid', fun n => ?_⟩
    rw [hkeys, mem_insertCall_keys, hcheck.callName]
    simp only [entryCallNames, List.mem_cons, or_assoc]

theorem buildCalls_preserves {P : RPCCall → Prop} (hnew : ∀ name, P (newCall name))
    (hparam : ∀ {calls call call' param value},
      env.callParam calls call param value = .ok call' → P call → P call') :
    ∀ {calls : List (String × RPCCall)} {idx : Nat} {callParams : List (Option GoMap)}
      {calls' : List (String × RPCCall)},
      env.buildCalls calls idx callParams = .ok calls' → (∀ c ∈ calls, P c.2) →
      ∀ c ∈ calls', P c.2
  | _, _, [], _, h, hcalls => by
    cases h
    exact hcalls
  | calls, idx, callParams :: rest, calls', h, hcalls => by
    have hfold : ∀ {entries : List (String × String)} {call call' : RPCCall},
        (entries.foldlM (fun call p => env.callParam calls call p.1 p.2) call :
          Except String RPCCall) = .ok call' → P call → P call' := by
      intro entries
      induction entries with
      | nil => intro call call' h hP; cases h; exact hP
      | cons p rest ih =>
        intro call call' h hP
        rw [List.foldlM_cons] at h
        obtain ⟨call₁, h₁, h⟩ := except_bind_eq_ok.mp h
        exact ih h (hparam h₁ hP)
    obtain ⟨call, hcall, hrest⟩ := except_bind_eq_ok.mp h
    have hP : P call := by
      unfold buildCall at hcall
      rcases callParams with _ | m
      · cases hcall
      obtain ⟨call', hcall', hcall⟩ := except_bind_eq_ok.mp hcall
      split at hcall
      · cases hcall
      · obtain ⟨⟨⟩, -, hcall⟩ := except_bind_eq_ok.mp hcall
        cases hcall
        exact hfold hcall' (hnew _)
    refine buildCalls_preserves hnew hparam hrest fun c hc => ?_
    rcases mem_insertCall hc with hc | rfl
    exacts [hcalls c hc, hP]

theorem createClientReq_offsets {params : Option Json} {r : ClientReq Expr}
    (h : env.createClientReq params = .ok r) :
    ∀ c ∈ r.calls, c.2.active ∧ -9223372036854775808 ≤ c.2.blockOffset ∧
      c.2.blockOffset ≤ 0 := by
  obtain ⟨-, -, -, -, options, -, -, -, -, -, -, hcalls⟩ := env.createClientReq_ok h
  have hmin : (-9223372036854775808 : Int) ≤ 0 := by decide
  split_ifs at hcalls
  · refine env.buildCalls_preserves
      (P := fun c => c.active ∧ -9223372036854775808 ≤ c.blockOffset ∧ c.blockOffset ≤ 0)
      (fun _ => ⟨rfl, hmin, le_rfl⟩) (fun hc hP => ?_) hcalls (by simp)
    rcases env.callParam_cases hc with
      ⟨-, -, rfl⟩ | ⟨-, o, ho, rfl⟩ | ⟨-, -, rfl⟩ | ⟨-, -, -, -, rfl⟩
    · exact hP
    · rcases ho with ⟨-, rfl⟩ | ⟨-, hatoi, hle⟩
      exacts [⟨hP.1, hmin, le_rfl⟩, ⟨hP.1, (atoi_range hatoi).1, hle⟩]
    · exact hP
    · exact hP
  · rw [← Except.ok.inj hcalls]
    simp

/-- An accepted onBlock request stores one checked call per distinct entry
name, under that name: entries whose names coincide leave one call. -/
theorem createClientReq_calls {params : Option Json} {r : ClientReq Expr}
    (h : env.createClientReq params = .ok r) (honBlock : r.feed = .onBlock) :
    ∃ p rawFeed rawOptions rest options maps,
      params = some p ∧ env.unmarshalParams p = .ok (rawFeed :: rawOptions :: rest) ∧
      env.unmarshalOptions rawOptions = .ok options ∧ options.callParams = maps.map some ∧
      (r.calls.map Prod.fst).Nodup ∧
      (∀ n, n ∈ r.calls.map Prod.fst ↔ n ∈ entryCallNames 0 maps) ∧
      r.calls.length = (entryCallNames 0 maps).dedup.length ∧
      ∀ c ∈ r.calls, env.ValidCall c.1 c.2 := by
  obtain ⟨p, rawFeed, rawOptions, rest, options, -, hp, hparams, hoptions, -, -, hcalls⟩ :=
    env.createClientReq_ok h
  rw [if_pos honBlock] at hcalls
  obtain ⟨maps, hmaps, hnodup, hvalid, hkeys⟩ :=
    env.buildCalls_ok hcalls List.nodup_nil (by simp)
  have hkeys' : ∀ n, n ∈ r.calls.map Prod.fst ↔ n ∈ entryCallNames 0 maps := by
    simpa using hkeys
  have hperm : (r.calls.map Prod.fst).Perm (entryCallNames 0 maps).dedup :=
    (List.perm_ext_iff_of_nodup hnodup (List.nodup_dedup _)).2 fun n => by
      rw [hkeys', List.mem_dedup]
  refine ⟨p, rawFeed, rawOptions, rest, options, maps, hp, hparams, hoptions, hmaps, hnodup,
    hkeys', ?_, hvalid⟩
  rw [← hperm.length_eq, List.length_map]

/-- Two `eth_call` entries, the first named `1` and the second unnamed, so
named `1` by its index, leave one call. -/
theorem callName_collision_drops_call :
    let entries : List (Option GoMap) :=
      [some ⟨[("name", "1"), ("method", "eth_call"), ("data", "0x")], by decide⟩,
        some ⟨[("method", "eth_call"), ("data", "0x")], by decide⟩]
    let env := requestEnv .onBlock ⟨some [], "", entries, false⟩
    ∃ r, env.createClientReq (some ()) = .ok r ∧ entries.length = 2 ∧ r.calls.length = 1 := by
  intro entries env
  have hr : env.createClientReq (some ()) = .ok ⟨validOnBlockParams, .onBlock, none, false,
      [("1", ⟨"eth_call", 0, "1", [("data", "0x")], true⟩)]⟩ := rfl
  refine ⟨_, hr, rfl, ?_⟩
  obtain ⟨p, rawFeed, rawOptions, rest, options, maps, -, -, hoptions, hmaps, -, -, hlength,
    -⟩ := env.createClientReq_calls hr rfl
  cases hoptions
  rcases maps with _ | ⟨m₁, _ | ⟨m₂, _ | ⟨m₃, maps⟩⟩⟩ <;> cases hmaps
  rw [hlength]
  decide

end SubscribeEnv

end Gateway.Servers
