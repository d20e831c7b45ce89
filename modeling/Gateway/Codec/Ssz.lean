import Gateway.Types
import Mathlib.Tactic.NormNum

/-!
# SSZ, as the beacon block envelope uses it

`newSSZBlockBroadcast` encodes `bxBlockSSZ` with its generated `MarshalSSZ`,
and `newBxBlockFromSSZBroadcast` reads it back with `UnmarshalSSZ`.  The
generated file is not part of this repository, so the codec is modelled from
the specification (§4.C), which fixes the container
`{ block: bytes≤367832, txs: [ {isFull: bool, tx: bytes≤1<<30} ]≤1<<20,
number: u64 }`, and from the SSZ layout of such a container: four-byte
little-endian offsets for the variable-size fields, then the fixed fields,
then the variable parts in order.

The decoder reads back what the encoder writes.  A bool byte is read as
`ssz.UnmarshalBool` reads it: `1` is true and every other byte false.
-/

namespace Gateway.Ssz

open Gateway.Types

/-! ## Little-endian integers -/

/-- `w` little-endian bytes of `n` modulo `256^w` (`PutUint32`, `PutUint64`). -/
def putLE : Nat → Nat → Bytes
  | 0, _ => []
  | w + 1, n => (n % 256).toUInt8 :: putLE w (n / 256)

def readLE : Bytes → Nat
  | [] => 0
  | b :: bs => b.toNat + 256 * readLE bs

@[simp] theorem length_putLE (w n : Nat) : (putLE w n).length = w := by
  induction w generalizing n with
  | zero => rfl
  | succ w ih => simp [putLE, ih]

theorem readLE_putLE (w n : Nat) : readLE (putLE w n) = n % 256 ^ w := by
  induction w generalizing n with
  | zero => simp [putLE, readLE, Nat.mod_one]
  | succ w ih =>
      simp only [putLE, readLE, ih, Nat.toUInt8,
        UInt8.toNat_ofNat_of_lt (Nat.mod_lt n (by norm_num) : n % 256 < UInt8.size)]
      rw [pow_succ', Nat.mod_mul]

theorem readLE_putLE_of_lt {w n : Nat} (h : n < 256 ^ w) : readLE (putLE w n) = n := by
  rw [readLE_putLE, Nat.mod_eq_of_lt h]

theorem readLE_take_putLE_append {w n : Nat} (h : n < 256 ^ w) (rest : Bytes) :
    readLE ((putLE w n ++ rest).take w) = n := by
  rw [List.take_left' (length_putLE w n), readLE_putLE_of_lt h]

def errSize : String := "incorrect size"
def errOffset : String := "incorrect offset"
def errBytesLength : String := "bytes array does not have the correct length"
def errListTooBig : String := "list too big"
def errInvalidVariableOffset : String :=
  "invalid ssz encoding. first variable element offset indexes into fixed value data"
def errOffsetRange : String := "offset does not fit in four bytes"

/-! ## One compressed transaction -/

/-- `ssz.MarshalBool`. -/
def boolByte (b : Bool) : UInt8 := if b then 1 else 0

/-- Modelled from the spec: `bxCompressedTransaction.MarshalSSZ`, a bool byte,
the offset of the transaction bytes, and the bytes (at most `1 << 30`). -/
def marshalCompressedTransaction (tx : BxCompressedTransaction) : Except String Bytes :=
  if tx.transaction.length > 1073741824 then .error errBytesLength
  else .ok (boolByte tx.isFullTransaction :: putLE 4 5 ++ tx.transaction)

/-- Modelled from the spec: `bxCompressedTransaction.UnmarshalSSZ`, with the
bool byte read by `ssz.UnmarshalBool`. -/
def unmarshalCompressedTransaction (buf : Bytes) : Except String BxCompressedTransaction := do
  if buf.length < 5 then throw errSize
  let isFullTransaction := buf.head? == some 1
  if readLE ((buf.drop 1).take 4) ≠ 5 then throw errInvalidVariableOffset
  let transaction := buf.drop 5
  if transaction.length > 1073741824 then throw errBytesLength
  return ⟨isFullTransaction, transaction⟩

theorem unmarshalCompressedTransaction_marshal {tx : BxCompressedTransaction} {buf : Bytes}
    (h : marshalCompressedTransaction tx = .ok buf) :
    unmarshalCompressedTransaction buf = .ok tx := by
  unfold marshalCompressedTransaction at h
  split_ifs at h with hlen
  cases h
  have hoff : readLE (putLE 4 5) = 5 := readLE_putLE_of_lt (by norm_num)
  cases tx with
  | mk isFull transaction =>
      have hsize : ¬ 4 + transaction.length + 1 < 5 := by omega
      have hmax : ¬ 1073741824 < transaction.length := hlen
      cases isFull <;> simp [unmarshalCompressedTransaction, boolByte, hoff, hsize, hmax]

/-! ## The transaction list -/

/-- The offset table of a list of variable-size elements: element `i` starts
at `start` plus the sizes of the elements before it. -/
def offsetTable : Nat → List Bytes → Bytes
  | _, [] => []
  | start, e :: es => putLE 4 start ++ offsetTable (start + e.length) es

def elementOffsets : Nat → List Bytes → List Nat
  | _, [] => []
  | start, e :: es => start :: elementOffsets (start + e.length) es

/-- Modelled from the spec: a list section as `MarshalSSZTo` writes it, the
offsets counted from the start of the section. -/
def marshalList (elements : List Bytes) : Bytes :=
  offsetTable (4 * elements.length) elements ++ elements.flatten

def readOffsets : Nat → Bytes → List Nat
  | 0, _ => []
  | count + 1, bs => readLE (bs.take 4) :: readOffsets count (bs.drop 4)

/-- The elements of `buf` between consecutive offsets, the last one running to
the end of `buf`. -/
def sliceElements (buf : Bytes) : List Nat → Except String (List Bytes)
  | [] => .ok []
  | offset :: rest =>
      let stop := rest.head?.getD buf.length
      if offset ≤ stop ∧ stop ≤ buf.length then
        (sliceElements buf rest).map fun elements =>
          (buf.drop offset).take (stop - offset) :: elements
      else .error errOffset

/-- Modelled from the spec: `ssz.DecodeDynamicLength` and `ssz.UnmarshalDynamic`
on a list section of at most `1 << 20` elements. -/
def unmarshalList (buf : Bytes) : Except String (List Bytes) := do
  if buf = [] then return []
  if buf.length < 4 then throw errSize
  let first := readLE (buf.take 4)
  if first % 4 ≠ 0 ∨ first = 0 ∨ buf.length < first then throw errOffset
  if first / 4 > 1048576 then throw errListTooBig
  sliceElements buf (readOffsets (first / 4) buf)

theorem length_offsetTable (start : Nat) (es : List Bytes) :
    (offsetTable start es).length = 4 * es.length := by
  induction es generalizing start with
  | nil => rfl
  | cons e es ih => simp [offsetTable, ih]; omega

theorem elementOffsets_le (start : Nat) (es : List Bytes) :
    ∀ o ∈ elementOffsets start es, o ≤ start + es.flatten.length := by
  induction es generalizing start with
  | nil => simp [elementOffsets]
  | cons e es ih =>
      intro o ho
      simp only [elementOffsets, List.mem_cons] at ho
      rcases ho with rfl | ho
      · omega
      · have := ih _ o ho
        simp only [List.flatten_cons, List.length_append]
        omega

theorem readOffsets_offsetTable (start : Nat) (es : List Bytes) (rest : Bytes)
    (h : ∀ o ∈ elementOffsets start es, o < 2 ^ 32) :
    readOffsets es.length (offsetTable start es ++ rest) = elementOffsets start es := by
  induction es generalizing start with
  | nil => rfl
  | cons e es ih =>
      have hstart : start < 256 ^ 4 := by
        have := h start (by simp [elementOffsets]); norm_num at this ⊢; omega
      simp only [List.length_cons, readOffsets, offsetTable, List.append_assoc,
        readLE_take_putLE_append hstart, elementOffsets]
      rw [List.drop_left' (length_putLE 4 start),
        ih _ fun o ho => h o (by simp [elementOffsets, ho])]

theorem sliceElements_elementOffsets (buf : Bytes) (start : Nat) (es : List Bytes)
    (hdrop : buf.drop start = es.flatten) (hlen : start + es.flatten.length = buf.length) :
    sliceElements buf (elementOffsets start es) = .ok es := by
  induction es generalizing start with
  | nil => rfl
  | cons e es ih =>
      have hstop : (elementOffsets (start + e.length) es).head?.getD buf.length =
          start + e.length := by
        cases es with
        | nil => simpa using hlen.symm
        | cons e' es' => rfl
      simp only [List.flatten_cons, List.length_append] at hdrop hlen
      have hdrop' : buf.drop (start + e.length) = es.flatten := by
        rw [← List.drop_drop, hdrop, List.drop_left]
      simp [elementOffsets, sliceElements, hstop, hdrop, ih _ hdrop' (by omega),
        show start + e.length ≤ buf.length by omega]

theorem unmarshalList_marshalList {es : List Bytes}
    (hlen : (marshalList es).length < 2 ^ 32) (hcount : es.length ≤ 1048576) :
    unmarshalList (marshalList es) = .ok es := by
  rcases es with _ | ⟨e, es⟩
  · rfl
  have hmlen : (marshalList (e :: es)).length = 4 * (es.length + 1) + (e :: es).flatten.length := by
    simp only [marshalList, List.length_append, length_offsetTable, List.length_cons]
  have hbound : ∀ o ∈ elementOffsets (4 * (es.length + 1)) (e :: es), o < 2 ^ 32 :=
    fun o ho => by have := elementOffsets_le _ _ o ho; omega
  have hfirst : readLE ((marshalList (e :: es)).take 4) = 4 * (es.length + 1) := by
    simp only [marshalList, offsetTable, List.length_cons, List.append_assoc]
    exact readLE_take_putLE_append (by norm_num; omega) _
  have hoffsets : readOffsets (es.length + 1) (marshalList (e :: es)) =
      elementOffsets (4 * (es.length + 1)) (e :: es) :=
    readOffsets_offsetTable _ (e :: es) _ hbound
  have hslice := sliceElements_elementOffsets (marshalList (e :: es)) (4 * (es.length + 1))
    (e :: es) (List.drop_left' (length_offsetTable _ _)) (by omega)
  have hne : marshalList (e :: es) ≠ [] := fun h => by simp [h] at hmlen; omega
  simp only [List.length_cons] at hcount
  simp only [unmarshalList, hfirst]
  rw [if_neg hne, if_neg (by omega), if_neg (by omega), if_neg (by omega),
    Nat.mul_div_cancel_left _ (by norm_num), hoffsets, hslice]
  rfl

/-! ## The block container -/

/-- `bxBlockSSZ`, the envelope of a compressed beacon block. -/
structure BxBlockSSZ where
  block : Bytes
  txs : List BxCompressedTransaction
  number : UInt64
  deriving DecidableEq

/-- Modelled from the spec: `bxBlockSSZ.MarshalSSZ`.  The fixed part holds the
offsets of `Block` and `Txs` and the eight bytes of `Number`; an encoding whose
offsets do not fit in four bytes is refused, as the SSZ layout requires. -/
def marshalBlockSSZ (b : BxBlockSSZ) : Except String Bytes :=
  if b.block.length > 367832 then .error errBytesLength
  else if b.txs.length > 1048576 then .error errListTooBig
  else do
    let txs ← b.txs.mapM marshalCompressedTransaction
    let encoded := putLE 4 16 ++ putLE 4 (16 + b.block.length) ++ putLE 8 b.number.toNat ++
      b.block ++ marshalList txs
    if encoded.length < 2 ^ 32 then .ok encoded else .error errOffsetRange

/-- Modelled from the spec: `bxBlockSSZ.UnmarshalSSZ`. -/
def unmarshalBlockSSZ (buf : Bytes) : Except String BxBlockSSZ :=
  let o0 := readLE (buf.take 4)
  let o1 := readLE ((buf.drop 4).take 4)
  let block := (buf.drop o0).take (o1 - o0)
  if buf.length < 16 then .error errSize
  else if o0 ≠ 16 then .error errInvalidVariableOffset
  else if o1 < o0 ∨ buf.length < o1 then .error errOffset
  else if block.length > 367832 then .error errBytesLength
  else do
    let elements ← unmarshalList (buf.drop o1)
    let txs ← elements.mapM unmarshalCompressedTransaction
    return ⟨block, txs, UInt64.ofNat (readLE ((buf.drop 8).take 8))⟩

theorem mapM_unmarshal_of_mapM_marshal {txs : List BxCompressedTransaction} {encs : List Bytes}
    (h : txs.mapM marshalCompressedTransaction = .ok encs) :
    encs.mapM unmarshalCompressedTransaction = .ok txs ∧ encs.length = txs.length := by
  induction txs generalizing encs with
  | nil =>
      simp only [List.mapM_nil, except_pure, Except.ok.injEq] at h
      subst h
      exact ⟨rfl, rfl⟩
  | cons tx txs ih =>
      rw [List.mapM_cons] at h
      obtain ⟨enc, henc, h⟩ := except_bind_eq_ok.mp h
      obtain ⟨encs', hencs, h⟩ := except_bind_eq_ok.mp h
      simp only [except_pure, Except.ok.injEq] at h
      subst h
      obtain ⟨ih₁, ih₂⟩ := ih hencs
      rw [List.mapM_cons, unmarshalCompressedTransaction_marshal henc, except_ok_bind, ih₁]
      exact ⟨rfl, by simp [ih₂]⟩

private theorem fixedPart_reads (o0 o1 n : Nat) (rest : Bytes) :
    let buf := putLE 4 o0 ++ (putLE 4 o1 ++ (putLE 8 n ++ rest))
    buf.take 4 = putLE 4 o0 ∧ (buf.drop 4).take 4 = putLE 4 o1 ∧
      (buf.drop 8).take 8 = putLE 8 n ∧ ∀ k, buf.drop (16 + k) = rest.drop k := by
  intro buf
  have h4 : buf.drop 4 = putLE 4 o1 ++ (putLE 8 n ++ rest) := List.drop_left' (length_putLE 4 o0)
  have h8 : buf.drop 8 = putLE 8 n ++ rest := by
    rw [show 8 = 4 + 4 from rfl, ← List.drop_drop, h4, List.drop_left' (length_putLE 4 o1)]
  refine ⟨List.take_left' (length_putLE 4 o0), by rw [h4, List.take_left' (length_putLE 4 o1)],
    by rw [h8, List.take_left' (length_putLE 8 n)], fun k => ?_⟩
  rw [show 16 + k = 8 + (8 + k) by omega, ← List.drop_drop, h8, ← List.drop_drop,
    List.drop_left' (length_putLE 8 n)]

theorem unmarshalBlockSSZ_marshalBlockSSZ {b : BxBlockSSZ} {buf : Bytes}
    (h : marshalBlockSSZ b = .ok buf) : unmarshalBlockSSZ buf = .ok b := by
  simp only [marshalBlockSSZ] at h
  split_ifs at h with hblock htxs
  obtain ⟨encs, hencs, h⟩ := except_bind_eq_ok.mp h
  split_ifs at h with hlen
  cases h
  obtain ⟨hunmarshal, hcount⟩ := mapM_unmarshal_of_mapM_marshal hencs
  simp only [List.length_append, length_putLE] at hlen
  have hlist := @unmarshalList_marshalList encs (by omega) (by omega)
  have hnumber : UInt64.ofNat (readLE (putLE 8 b.number.toNat)) = b.number := by
    apply UInt64.toNat.inj
    rw [readLE_putLE_of_lt (by simpa using b.number.toNat_lt_size),
      UInt64.toNat_ofNat_of_lt b.number.toNat_lt_size]
  have h16 : readLE (putLE 4 16) = 16 := readLE_putLE_of_lt (by norm_num)
  have ho1 : readLE (putLE 4 (16 + b.block.length)) = 16 + b.block.length :=
    readLE_putLE_of_lt (by norm_num; omega)
  obtain ⟨hread0, hread1, hread8, hdrop⟩ :=
    fixedPart_reads 16 (16 + b.block.length) b.number.toNat (b.block ++ marshalList encs)
  have hblockPart := hdrop 0
  have hlistPart := hdrop b.block.length
  rw [List.drop_left] at hlistPart
  simp only [Nat.add_zero, List.drop_zero] at hblockPart
  simp only [List.append_assoc]
  unfold unmarshalBlockSSZ
  simp only [hread0, hread1, hread8, h16, ho1, hnumber, hblockPart, hlistPart, hlist,
    Nat.add_sub_cancel_left, List.take_left, List.length_append, length_putLE]
  rw [if_neg (by omega), if_neg (by omega), if_neg (by omega), if_neg (by omega)]
  simp only [except_ok_bind, hunmarshal]
  rfl

end Gateway.Ssz
