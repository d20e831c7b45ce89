import Mathlib.Data.List.Basic

/-!
# Gateway types

The data the block processor, the bridge and the client handler pass around:
byte strings, SHA-256 hashes, short IDs, blocks as the gateway holds them,
broadcast messages, and the transaction store the processor consults.  These
types are declared in the gateway's `types` and `bxmessage` packages; each
structure below keeps the fields that the code in this repository reads or
writes.
-/

namespace Gateway.Types

/-! ## Evaluating `Except` computations -/

section ExceptLemmas

variable {ε α β : Type}

@[simp] theorem except_ok_bind (x : α) (f : α → Except ε β) :
    (Except.ok x >>= f) = f x := rfl

@[simp] theorem except_error_bind (e : ε) (f : α → Except ε β) :
    (Except.error e >>= f) = Except.error e := rfl

@[simp] theorem except_map_ok (x : α) (f : α → β) :
    (f <$> (Except.ok x : Except ε α)) = Except.ok (f x) := rfl

@[simp] theorem except_map_error (e : ε) (f : α → β) :
    (f <$> (Except.error e : Except ε α)) = Except.error e := rfl

@[simp] theorem except_map_ok_eq (x : α) (f : α → β) :
    Except.map f (Except.ok x : Except ε α) = Except.ok (f x) := rfl

@[simp] theorem except_map_error_eq (e : ε) (f : α → β) :
    Except.map f (Except.error e : Except ε α) = Except.error e := rfl

@[simp] theorem except_pure (x : α) : (pure x : Except ε α) = Except.ok x := rfl

@[simp] theorem except_throw (e : ε) : (throw e : Except ε α) = Except.error e := rfl

theorem except_bind_eq_ok {x : Except ε α} {f : α → Except ε β} {r : β} :
    x >>= f = .ok r ↔ ∃ a, x = .ok a ∧ f a = .ok r := by
  cases x <;> simp

theorem ite_error_eq_ok {c : Prop} [Decidable c] {e : ε} {x : Except ε α} {r : α} :
    (if c then Except.error e else x) = .ok r ↔ ¬c ∧ x = .ok r := by
  by_cases hc : c <;> simp [hc]

end ExceptLemmas

/-! ## Data -/

abbrev Bytes := List UInt8

/-- `types.SHA256Hash`, a 32-byte array. -/
structure SHA256Hash where
  bytes : Bytes
  length_eq : bytes.length = 32
  deriving DecidableEq

/-- `types.EmptyHash`, the zero hash. -/
def emptyHash : SHA256Hash := ⟨List.replicate 32 0, rfl⟩

/-- `SHA256Hash.Empty`: the hash is the zero hash. -/
def SHA256Hash.empty (h : SHA256Hash) : Bool := decide (h = emptyHash)

def SHA256Hash.ofByte (b : UInt8) : SHA256Hash := ⟨List.replicate 32 b, by simp⟩

abbrev ShortID := UInt32

abbrev ShortIDList := List ShortID

abbrev NetworkNum := UInt32

inductive BxBlockType where
  | eth
  | beaconPhase0
  | beaconAltair
  | beaconBellatrix
  | beaconCapella
  | unknown
  deriving DecidableEq, Repr

/-- The beacon block types, which the processor's and the bridge's switches
list together. -/
def BxBlockType.isBeacon : BxBlockType → Bool
  | .beaconPhase0 | .beaconAltair | .beaconBellatrix | .beaconCapella => true
  | .eth | .unknown => false

/-- `types.BxBlockTransaction`: a transaction of a block, with the hash it was
created with (`NewRawBxBlockTransaction` leaves it zero). -/
structure BxBlockTransaction where
  hash : SHA256Hash
  content : Bytes
  deriving DecidableEq

/-- `NewRawBxBlockTransaction`. -/
def newRawBxBlockTransaction (content : Bytes) : BxBlockTransaction :=
  ⟨emptyHash, content⟩

/-- `types.BxBlock`.  `TotalDifficulty` is a `*big.Int` and may be nil
(`none`); times are Unix nanoseconds. -/
structure BxBlock where
  hash : SHA256Hash
  beaconHash : SHA256Hash
  type : BxBlockType
  header : Bytes
  txs : List BxBlockTransaction
  trailer : Bytes
  totalDifficulty : Option Int
  number : Int
  size : Int
  deriving DecidableEq

/-- `types.BxTransaction` as the transaction store hands it out. -/
structure BxTransaction where
  hash : SHA256Hash
  content : Bytes
  shortIDs : ShortIDList
  addTime : Int
  deriving DecidableEq

/-- The two `TxStore` methods the block processor calls.  The store is an
external collaborator: any pair of functions is a store. -/
structure TxStore where
  get : SHA256Hash → Option BxTransaction
  getTxByShortID : ShortID → Except String BxTransaction

/-- `bxCompressedTransaction`, one transaction entry of a compressed block:
the full bytes, or an empty placeholder to be filled from a short ID. -/
structure BxCompressedTransaction where
  isFullTransaction : Bool
  transaction : Bytes
  deriving DecidableEq

/-- `bxmessage.Broadcast`, with the fields `NewBlockBroadcast` sets. -/
structure Broadcast where
  hash : SHA256Hash
  beaconHash : SHA256Hash
  blockType : BxBlockType
  block : Bytes
  shortIDs : ShortIDList
  networkNum : NetworkNum
  deriving DecidableEq

end Gateway.Types
