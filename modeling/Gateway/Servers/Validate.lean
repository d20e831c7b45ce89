import Gateway.Services.BlockProcessor
import Mathlib.Data.List.Infix

/-!
# Validating a transaction from an external source

`ValidateTxFromExternalSource` decodes a transaction sent over a websocket or
gRPC, checks its chain ID against the gateway's, re-encodes it, flags it, and
hands it to the next-validator logic or to a synced node when the caller asks.

The chain-ID check compares `ChainId().Int64()`, the chain ID modulo `2^64`
read as a signed 64-bit number, with the gateway's chain ID: two chain IDs
that agree there pass as equal, and a chain ID that is a multiple of `2^64`
skips the check.
-/

namespace Gateway.Servers

open Gateway.Types Gateway.Services

/-- `big.Int.Int64`: `int64(low64(x.abs))`, negated with wrap-around for a
negative `x`. -/
def bigIntInt64 (x : Int) : Int :=
  let v := int64OfUint64 (bigIntUint64 x)
  if x < 0 then (if v = -2 ^ 63 then v else -v) else v

theorem bigIntInt64_eq_bmod (x : Int) : bigIntInt64 x = Int.bmod x (2 ^ 64) := by
  have hn : (UInt64.ofNat x.natAbs).toNat = x.natAbs % 2 ^ 64 := rfl
  simp only [bigIntInt64, int64OfUint64, bigIntUint64, hn, Int.bmod]
  split_ifs <;> omega

/-- The parts of a decoded `ethtypes.Transaction` that the validation reads. -/
structure EthTx where
  /-- `ChainId()`, a `*big.Int`. -/
  chainId : Int
  /-- `Hash().String()`. -/
  hash : String

/-- The `types.TxFlags` bits the validation sets. -/
structure TxFlags where
  paidTx : Bool
  localRegion : Bool
  validatorsOnly : Bool
  nextValidator : Bool
  deliverToNode : Bool
  frontRunningProtection : Bool
  deriving DecidableEq

/-- `bxmessage.NewTx(hash, txContent, networkNum, txFlags, accountID)`. -/
structure BxTx where
  /-- `tx.Hash()`, formatted. -/
  hash : String
  content : Bytes
  networkNum : NetworkNum
  flags : TxFlags
  accountID : String

/-- The collaborators of `ValidateTxFromExternalSource`, each with any
behaviour. -/
structure ValidateEnv where
  /-- `ethtypes.Transaction.UnmarshalBinary`. -/
  unmarshalBinary : Bytes → Except String EthTx
  /-- `rlp.DecodeBytes` into an `ethtypes.Transaction`. -/
  decodeRLP : Bytes → Except String EthTx
  /-- `rlp.EncodeToBytes` of the transaction. -/
  encodeToBytes : EthTx → Except String Bytes
  /-- The `types.SHA256Hash` copied from `ethTx.Hash()`, formatted. -/
  bxHash : EthTx → String
  /-- `ProcessNextValidatorTx` with the caller's maps and source: whether the
  transaction is left pending. -/
  processNextValidatorTx : BxTx → UInt16 → Except String Bool
  /-- `wsManager.SyncedProvider()`, with the `SendTransaction` of the
  provider it returns. -/
  syncedProvider : Option (String → Except String Unit)

namespace ValidateEnv

variable (venv : ValidateEnv)

/-- `UnmarshalBinary`, then `rlp.DecodeBytes` in case the transaction came in
RLP form; when both fail, the error of the first. -/
def decodeEthTx (txBytes : Bytes) : Except String EthTx :=
  match venv.unmarshalBinary txBytes with
  | .ok ethTx => .ok ethTx
  | .error err =>
    match venv.decodeRLP txBytes with
    | .ok ethTx => .ok ethTx
    | .error _ => .error err

end ValidateEnv

def errChainIDMismatch (ethTx : EthTx) (gatewayChainID : Int) : String :=
  "chainID mismatch for hash " ++ ethTx.hash ++ ", expect " ++ toString gatewayChainID ++
    " got " ++ toString (bigIntInt64 ethTx.chainId) ++
    ", make sure the tx is sent with the right blockchain network"

/-- The flags of a validated transaction. -/
def txFlags (validatorsOnly nextValidator frontRunningProtection : Bool) : TxFlags :=
  ⟨true, true, validatorsOnly, !validatorsOnly && nextValidator,
    !validatorsOnly && !nextValidator, frontRunningProtection⟩

namespace ValidateEnv

variable (venv : ValidateEnv)

/-- The node validation: `SendTransaction` of the hex-prefixed transaction on
a synced provider, where "already known" counts as success. -/
def validateViaNode (transaction : String) (ethTx : EthTx) : Except String Unit :=
  match venv.syncedProvider with
  | some sendTransaction =>
    match sendTransaction ("0x" ++ transaction) with
    | .ok () => .ok ()
    | .error err =>
      if "already known".toList <:+: err.toList then .ok ()
      else .error ("tx (" ++ venv.bxHash ethTx ++ ") failed node validation with error: " ++ err)
  | none => .error ("failed to validate tx (" ++ venv.bxHash ethTx ++
      ") via node: no synced WS provider available")

/-- `ValidateTxFromExternalSource` from the re-encoding on, once the chain ID
has passed: the transaction and whether it is pending reevaluation. -/
def afterChainCheck (transaction : String) (validatorsOnly nextValidator : Bool)
    (fallback : UInt16) (networkNum : NetworkNum) (accountID : String)
    (nodeValidationRequested frontRunningProtection : Bool) (ethTx : EthTx) :
    Except String (BxTx × Bool) := do
  let txContent ← venv.encodeToBytes ethTx
  let tx : BxTx := ⟨venv.bxHash ethTx, txContent, networkNum,
    txFlags validatorsOnly nextValidator frontRunningProtection, accountID⟩
  let pending ← if nextValidator then venv.processNextValidatorTx tx fallback else pure false
  if pending then return (tx, true)
  if nodeValidationRequested && !tx.flags.nextValidator && !tx.flags.validatorsOnly then
    venv.validateViaNode transaction ethTx
  return (tx, false)

def validateTxFromExternalSource (transaction : String) (txBytes : Bytes)
    (validatorsOnly : Bool) (gatewayChainID : Int) (nextValidator : Bool) (fallback : UInt16)
    (networkNum : NetworkNum) (accountID : String)
    (nodeValidationRequested frontRunningProtection : Bool) : Except String (BxTx × Bool) := do
  let ethTx ← venv.decodeEthTx txBytes
  if bigIntInt64 ethTx.chainId ≠ 0 ∧ gatewayChainID ≠ 0 ∧
      bigIntInt64 ethTx.chainId ≠ gatewayChainID then
    throw (errChainIDMismatch ethTx gatewayChainID)
  venv.afterChainCheck transaction validatorsOnly nextValidator fallback networkNum accountID
    nodeValidationRequested frontRunningProtection ethTx

/-- The chain-ID check compares the chain ID modulo `2^64`, read as a signed
64-bit number: a decoded transaction is refused for its chain ID exactly when
that reading is neither zero nor the gateway's chain ID, and otherwise its
validation goes on as for a matching chain ID. -/
theorem validateTxFromExternalSource_chainID {transaction : String} {txBytes : Bytes}
    {validatorsOnly : Bool} {gatewayChainID : Int} {nextValidator : Bool} {fallback : UInt16}
    {networkNum : NetworkNum} {accountID : String}
    {nodeValidationRequested frontRunningProtection : Bool} {ethTx : EthTx}
    (hdecode : venv.decodeEthTx txBytes = .ok ethTx) :
    venv.validateTxFromExternalSource transaction txBytes validatorsOnly gatewayChainID
        nextValidator fallback networkNum accountID nodeValidationRequested
        frontRunningProtection =
      if Int.bmod ethTx.chainId (2 ^ 64) ≠ 0 ∧ gatewayChainID ≠ 0 ∧
          Int.bmod ethTx.chainId (2 ^ 64) ≠ gatewayChainID then
        .error (errChainIDMismatch ethTx gatewayChainID)
      else venv.afterChainCheck transaction validatorsOnly nextValidator fallback networkNum
        accountID nodeValidationRequested frontRunningProtection ethTx := by
  simp only [validateTxFromExternalSource, hdecode, except_ok_bind, bigIntInt64_eq_bmod]
  split_ifs <;> rfl

/-- A transaction of chain ID `1 + 2^64` passes validation on a gateway of
chain ID `1`. -/
theorem chainID_above_low64_accepted :
    let venv : ValidateEnv := ⟨fun _ => .ok ⟨1 + 2 ^ 64, "0x01"⟩, fun _ => .error "rlp",
      fun _ => .ok [1], fun _ => "01", fun _ _ => .ok false, none⟩
    venv.validateTxFromExternalSource "01" [1] false 1 false 0 0 "account" false false =
      .ok (⟨"01", [1], 0, txFlags false false false, "account"⟩, false) := by
  intro venv
  rw [venv.validateTxFromExternalSource_chainID rfl, if_neg (by decide)]
  rfl

end ValidateEnv

end Gateway.Servers
