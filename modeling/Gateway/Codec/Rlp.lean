import Gateway.Types
import Mathlib.Data.Nat.Digits

/-!
# RLP, as the Ethereum block envelope uses it

`newRLPBlockBroadcast` encodes `bxBlockRLP` with go-ethereum's
`rlp.EncodeToBytes`, and `newBxBlockFromRLPBroadcast` reads it back with
`rlp.DecodeBytes`.  This file models the parts of that codec the envelope
exercises: string and list headers, raw values, booleans, byte strings and
big integers, with the canonical-form checks of the stream decoder.  A value
is decoded from the front of a byte string that holds exactly the rest of its
enclosing list, which is how the stream decoder bounds each element.
-/

namespace Gateway.Rlp

open Gateway.Types

/-! ## Big-endian integers -/

/-- Minimal big-endian bytes of `n` (`putint`, `big.Int.Bytes`); empty for 0. -/
def beBytes (n : Nat) : Bytes := (Nat.digits 256 n).reverse.map Nat.toUInt8

def beValue (bs : Bytes) : Nat := bs.foldl (fun acc b => acc * 256 + b.toNat) 0

private theorem beValue_reverse_digits (ds : List Nat) (h : ∀ d ∈ ds, d < 256) :
    beValue (ds.reverse.map Nat.toUInt8) = Nat.ofDigits 256 ds := by
  induction ds with
  | nil => rfl
  | cons d ds ih =>
      have hd : (Nat.toUInt8 d).toNat = d :=
        UInt8.toNat_ofNat_of_lt (h d (List.mem_cons_self _ _))
      simp only [beValue, List.reverse_cons, List.map_append, List.foldl_append,
        List.map_cons, List.map_nil, List.foldl_cons, List.foldl_nil, hd] at ih ⊢
      rw [ih fun e he => h e (List.mem_cons_of_mem _ he), Nat.ofDigits_cons]
      ring

@[simp] theorem beValue_beBytes (n : Nat) : beValue (beBytes n) = n := by
  rw [beBytes, beValue_reverse_digits _ fun d hd => Nat.digits_lt_base (by norm_num) hd,
    Nat.ofDigits_digits]

@[simp] theorem beBytes_zero : beBytes 0 = [] := by simp [beBytes]

theorem beBytes_eq_nil_iff {n : Nat} : beBytes n = [] ↔ n = 0 := by
  simp [beBytes, Nat.digits_eq_nil_iff_eq_zero]

theorem beBytes_head_ne_zero {n : Nat} {b : UInt8} {rest : Bytes}
    (h : beBytes n = b :: rest) : b.toNat ≠ 0 := by
  have hn : n ≠ 0 := by rintro rfl; simp at h
  have hne : Nat.digits 256 n ≠ [] := Nat.digits_ne_nil_iff_ne_zero.mpr hn
  have hlast := Nat.getLast_digit_ne_zero 256 hn
  have hhead : (Nat.digits 256 n).reverse.head? = some ((Nat.digits 256 n).getLast hne) := by
    rw [List.head?_reverse, List.getLast?_eq_getLast _ hne]
  have hb : b = Nat.toUInt8 ((Nat.digits 256 n).getLast hne) := by
    have := congrArg List.head? h
    simp only [beBytes, List.head?_map, hhead, Option.map_some', List.head?_cons,
      Option.some.injEq] at this
    exact this.symm
  rw [hb, UInt8.toNat_ofNat_of_lt (Nat.digits_lt_base (by norm_num)
    (List.getLast_mem hne))]
  exact hlast

theorem length_beBytes (n : Nat) : (beBytes n).length = (Nat.digits 256 n).length := by
  simp [beBytes]

theorem length_beBytes_le {n : Nat} (h : n < 2 ^ 64) : (beBytes n).length ≤ 8 := by
  rw [length_beBytes]
  rcases Nat.eq_zero_or_pos n with rfl | hn
  · simp
  have hle := Nat.base_pow_length_digits_le 256 n (by norm_num) hn.ne'
  have hlt : 256 ^ (Nat.digits 256 n).length < 256 ^ 9 := by
    calc 256 ^ (Nat.digits 256 n).length ≤ 256 * n := hle
      _ < 256 * 2 ^ 64 := by omega
      _ = 256 ^ 9 := by norm_num
  exact Nat.lt_succ_iff.mp ((Nat.pow_lt_pow_iff_right (by norm_num)).mp hlt)

theorem length_beBytes_pos {n : Nat} (h : 0 < n) : 0 < (beBytes n).length := by
  rcases hb : beBytes n with _ | ⟨b, rest⟩
  · exact absurd (beBytes_eq_nil_iff.mp hb) h.ne'
  · simp

/-! ## Headers -/

/-- `puthead`: a header for a payload of `size` bytes, with the short form
below 56 bytes and the length-of-length form above. -/
def putHead (smallTag largeTag size : Nat) : Bytes :=
  if size < 56 then [(smallTag + size).toUInt8]
  else (largeTag + (beBytes size).length).toUInt8 :: beBytes size

def stringHead (size : Nat) : Bytes := putHead 0x80 0xB7 size

def listHead (size : Nat) : Bytes := putHead 0xC0 0xF7 size

def errEOF : String := "EOF"
def errCanonSize : String := "rlp: non-canonical size information"
def errCanonInt : String := "rlp: non-canonical integer (leading zero bytes)"
def errValueTooLarge : String := "rlp: value size exceeds available input length"
def errExpectedString : String := "rlp: expected String or Byte"
def errExpectedList : String := "rlp: expected List"
def errUintOverflow : String := "rlp: uint overflow"

/-- The kind of the next value and the size of its payload. -/
inductive Kind where
  | byte (b : UInt8)
  | string (size : Nat)
  | list (size : Nat)
  deriving DecidableEq, Repr

/-- `Stream.readUint`: a `k`-byte big-endian size without leading zeros. -/
def readUint (k : Nat) (bs : Bytes) : Except String (Nat × Bytes) :=
  if bs.length < k then .error errValueTooLarge
  else match bs.take k with
    | [] => .ok (0, bs)
    | b :: _ =>
        if b.toNat = 0 then .error errCanonSize
        else .ok (beValue (bs.take k), bs.drop k)

/-- `Stream.readKind`: the header at the front of `bs`. -/
def readKind : Bytes → Except String (Kind × Bytes)
  | [] => .error errEOF
  | b :: rest =>
      if b.toNat < 0x80 then .ok (.byte b, rest)
      else if b.toNat < 0xB8 then .ok (.string (b.toNat - 0x80), rest)
      else if b.toNat < 0xC0 then
        match readUint (b.toNat - 0xB7) rest with
        | .error e => .error e
        | .ok (size, rest) =>
            if size < 56 then .error errCanonSize else .ok (.string size, rest)
      else if b.toNat < 0xF8 then .ok (.list (b.toNat - 0xC0), rest)
      else
        match readUint (b.toNat - 0xF7) rest with
        | .error e => .error e
        | .ok (size, rest) =>
            if size < 56 then .error errCanonSize else .ok (.list size, rest)

/-- The `size` payload bytes of the current value, which must lie within the
enclosing list. -/
def readPayload (size : Nat) (bs : Bytes) : Except String (Bytes × Bytes) :=
  if bs.length < size then .error errValueTooLarge
  else .ok (bs.take size, bs.drop size)

theorem readUint_beBytes {n : Nat} (hn : 0 < n) (rest : Bytes) :
    readUint (beBytes n).length (beBytes n ++ rest) = .ok (n, rest) := by
  obtain ⟨b, bs, hb⟩ := List.exists_cons_of_ne_nil fun h => hn.ne' (beBytes_eq_nil_iff.mp h)
  have hb0 := beBytes_head_ne_zero hb
  have hval : beValue (b :: bs) = n := hb ▸ beValue_beBytes n
  simp only [readUint, List.length_append, List.take_left, List.drop_left]
  rw [hb]
  simp [hb0, hval]

@[simp] theorem readPayload_append (payload rest : Bytes) :
    readPayload payload.length (payload ++ rest) = .ok (payload, rest) := by
  simp [readPayload]

private theorem toNat_toUInt8 {n : Nat} (h : n < 256) : n.toUInt8.toNat = n :=
  UInt8.toNat_ofNat_of_lt h

theorem readKind_stringHead {size : Nat} (h : size < 2 ^ 64) (rest : Bytes) :
    readKind (stringHead size ++ rest) = .ok (.string size, rest) := by
  unfold stringHead putHead
  split_ifs with hsmall
  · simp [readKind, toNat_toUInt8 (show 0x80 + size < 256 by omega),
      show ¬ 0x80 + size < 0x80 by omega, show 0x80 + size < 0xB8 by omega]
  · have hpos : 0 < size := by omega
    have hlen := length_beBytes_le h
    have hlenpos := length_beBytes_pos hpos
    simp [readKind, toNat_toUInt8 (show 0xB7 + (beBytes size).length < 256 by omega),
      show ¬ 0xB7 + (beBytes size).length < 0x80 by omega,
      show ¬ 0xB7 + (beBytes size).length < 0xB8 by omega,
      show 0xB7 + (beBytes size).length < 0xC0 by omega, readUint_beBytes hpos, hsmall]

theorem readKind_listHead {size : Nat} (h : size < 2 ^ 64) (rest : Bytes) :
    readKind (listHead size ++ rest) = .ok (.list size, rest) := by
  unfold listHead putHead
  split_ifs with hsmall
  · simp [readKind, toNat_toUInt8 (show 0xC0 + size < 256 by omega),
      show ¬ 0xC0 + size < 0x80 by omega, show ¬ 0xC0 + size < 0xB8 by omega,
      show ¬ 0xC0 + size < 0xC0 by omega, show 0xC0 + size < 0xF8 by omega]
  · have hpos : 0 < size := by omega
    have hlen := length_beBytes_le h
    have hlenpos := length_beBytes_pos hpos
    simp [readKind, toNat_toUInt8 (show 0xF7 + (beBytes size).length < 256 by omega),
      show ¬ 0xF7 + (beBytes size).length < 0x80 by omega,
      show ¬ 0xF7 + (beBytes size).length < 0xB8 by omega,
      show ¬ 0xF7 + (beBytes size).length < 0xC0 by omega,
      show ¬ 0xF7 + (beBytes size).length < 0xF8 by omega, readUint_beBytes hpos, hsmall]

/-! ## Values -/

/-- `Stream.Raw`: the next value, header included.  The header is written
back in canonical form and the payload is not inspected. -/
def readRaw (bs : Bytes) : Except String (Bytes × Bytes) := do
  let (kind, rest) ← readKind bs
  match kind with
  | .byte b => return ([b], rest)
  | .string size =>
      let (payload, rest) ← readPayload size rest
      return (stringHead size ++ payload, rest)
  | .list size =>
      let (payload, rest) ← readPayload size rest
      return (listHead size ++ payload, rest)

/-- `Stream.Bytes`, which decodes a `[]byte` field. -/
def readBytes (bs : Bytes) : Except String (Bytes × Bytes) := do
  let (kind, rest) ← readKind bs
  match kind with
  | .byte b => return ([b], rest)
  | .string size =>
      let (payload, rest) ← readPayload size rest
      match payload with
      | [b] => if b.toNat < 128 then throw errCanonSize else return ([b], rest)
      | _ => return (payload, rest)
  | .list _ => throw errExpectedString

/-- `Stream.uint(8)` followed by `Stream.Bool`, which decodes a `bool` field. -/
def readBool (bs : Bytes) : Except String (Bool × Bytes) := do
  let (kind, rest) ← readKind bs
  let (value, rest) ← match kind with
    | .byte b => if b.toNat = 0 then throw errCanonInt else pure (b.toNat, rest)
    | .string size =>
        if size > 1 then throw errUintOverflow else do
          let (payload, rest) ← readPayload size rest
          match payload with
          | [b] =>
              if b.toNat = 0 then throw errCanonInt
              else if b.toNat < 128 then throw errCanonSize
              else pure (b.toNat, rest)
          | _ => pure (0, rest)
    | .list _ => throw errExpectedString
  if value = 0 then return (false, rest)
  else if value = 1 then return (true, rest)
  else throw s!"rlp: invalid boolean value: {value}"

/-- `Stream.decodeBigInt`, which decodes a `*big.Int` field. -/
def readBigInt (bs : Bytes) : Except String (Nat × Bytes) := do
  let (kind, rest) ← readKind bs
  let (digits, rest) ← match kind with
    | .byte b => pure ([b], rest)
    | .string size => do
        let (payload, rest) ← readPayload size rest
        match payload with
        | [b] => if b.toNat < 128 then throw errCanonSize else pure ([b], rest)
        | _ => pure (payload, rest)
    | .list _ => throw errExpectedString
  match digits with
  | b :: _ => if b.toNat = 0 then throw errCanonInt else return (beValue digits, rest)
  | [] => return (0, rest)

/-- `Stream.List`: the payload of the next value, which must be a list. -/
def readList (bs : Bytes) : Except String (Bytes × Bytes) := do
  let (kind, rest) ← readKind bs
  match kind with
  | .list size => readPayload size rest
  | _ => throw errExpectedList

/-- `writeBytes`: a byte string; a single byte below 0x80 stands for itself. -/
def encodeBytes (bs : Bytes) : Bytes :=
  match bs with
  | [b] => if b.toNat < 0x80 then [b] else stringHead 1 ++ [b]
  | _ => stringHead bs.length ++ bs

def encodeList (payload : Bytes) : Bytes := listHead payload.length ++ payload

/-- `writeBool`. -/
def encodeBool (b : Bool) : Bytes := if b then [0x01] else [0x80]

/-- `writeBigIntPtr`: a nil pointer encodes as zero, a negative value is
refused. -/
def encodeBigInt : Option Int → Except String Bytes
  | none => .ok [0x80]
  | some i =>
      if i < 0 then .error "rlp: cannot encode negative big.Int"
      else .ok (encodeBytes (beBytes i.toNat))

/-- One RLP item as `Stream.Raw` reads it back: a byte below 0x80, or a
string or list header in canonical form followed by exactly its payload.
This is what a `rlp.RawValue` field must hold for the envelope to decode. -/
inductive IsRawItem : Bytes → Prop
  | byte (b : UInt8) (h : b.toNat < 0x80) : IsRawItem [b]
  | string (payload : Bytes) : IsRawItem (stringHead payload.length ++ payload)
  | list (payload : Bytes) : IsRawItem (listHead payload.length ++ payload)

theorem readRaw_append {item : Bytes} (h : IsRawItem item) (hlen : item.length < 2 ^ 64)
    (rest : Bytes) : readRaw (item ++ rest) = .ok (item, rest) := by
  cases h with
  | byte b hb => simp [readRaw, readKind, hb]
  | string payload =>
      simp only [List.length_append] at hlen
      simp [readRaw, readKind_stringHead (show payload.length < 2 ^ 64 by omega)]
  | list payload =>
      simp only [List.length_append] at hlen
      simp [readRaw, readKind_listHead (show payload.length < 2 ^ 64 by omega)]

theorem readBytes_encodeBytes {bs : Bytes} (hlen : bs.length < 2 ^ 64) (rest : Bytes) :
    readBytes (encodeBytes bs ++ rest) = .ok (bs, rest) := by
  match bs with
  | [] => simp [encodeBytes, readBytes, readKind_stringHead, readPayload]
  | [b] =>
      by_cases hb : b.toNat < 0x80
      · simp [encodeBytes, readBytes, readKind, hb]
      · simp [encodeBytes, readBytes, hb, readKind_stringHead, readPayload]
  | b₁ :: b₂ :: bs =>
      simp only [List.length_cons] at hlen
      simp [encodeBytes, readBytes, readKind_stringHead hlen, readPayload]

theorem readBool_encodeBool (b : Bool) (rest : Bytes) :
    readBool (encodeBool b ++ rest) = .ok (b, rest) := by
  cases b <;> simp [encodeBool, readBool, readKind, readPayload, UInt8.size]

theorem readBigInt_encodeBytes_beBytes {n : Nat} (hlen : (beBytes n).length < 2 ^ 64)
    (rest : Bytes) : readBigInt (encodeBytes (beBytes n) ++ rest) = .ok (n, rest) := by
  have hval := beValue_beBytes n
  rcases hb : beBytes n with _ | ⟨b, _ | ⟨b₂, bs⟩⟩
  · obtain rfl := beBytes_eq_nil_iff.mp hb
    simp [encodeBytes, readBigInt, readKind_stringHead, readPayload]
  · have hb0 := beBytes_head_ne_zero hb
    rw [hb] at hval
    by_cases hlt : b.toNat < 0x80
    · simp [encodeBytes, readBigInt, readKind, hlt, hb0, hval]
    · simp [encodeBytes, readBigInt, readKind_stringHead, readPayload, hlt, hb0, hval]
  · have hb0 := beBytes_head_ne_zero hb
    rw [hb] at hval hlen
    simp only [List.length_cons] at hlen
    simp [encodeBytes, readBigInt, readKind_stringHead hlen, readPayload, hb0, hval]

theorem readList_encodeList {payload : Bytes} (hlen : payload.length < 2 ^ 64)
    (rest : Bytes) : readList (encodeList payload ++ rest) = .ok (payload, rest) := by
  simp [readList, encodeList, readKind_listHead hlen]

/-! ## The block envelope -/

/-- `bxBlockRLP`, the envelope of a compressed Ethereum block. -/
structure BxBlockRLP where
  header : Bytes
  txs : List BxCompressedTransaction
  trailer : Bytes
  totalDifficulty : Option Int
  number : Int
  deriving DecidableEq

def errTooManyElements : String := "rlp: input list has too many elements"
def errMoreThanOneValue : String := "rlp: input contains more than one value"

/-- A `bxCompressedTransaction` as a two-element list. -/
def encodeCompressedTransaction (tx : BxCompressedTransaction) : Bytes :=
  encodeList (encodeBool tx.isFullTransaction ++ encodeBytes tx.transaction)

/-- `rlp.EncodeToBytes` of a `bxBlockRLP`.  Go slices are shorter than `2^64`
bytes, so no longer encoding is ever produced. -/
def encodeBlockRLP (b : BxBlockRLP) : Except String Bytes := do
  let totalDifficulty ← encodeBigInt b.totalDifficulty
  let number ← encodeBigInt (some b.number)
  let encoded := encodeList (b.header ++
    encodeList (b.txs.flatMap encodeCompressedTransaction) ++ b.trailer ++
    totalDifficulty ++ number)
  if encoded.length < 2 ^ 64 then return encoded else throw "rlp: value too large"

/-- The struct decoder on one `bxCompressedTransaction`. -/
def readCompressedTransaction (bs : Bytes) :
    Except String (BxCompressedTransaction × Bytes) := do
  let (payload, rest) ← readList bs
  let (isFullTransaction, payload) ← readBool payload
  let (transaction, payload) ← readBytes payload
  if payload ≠ [] then throw errTooManyElements
  return (⟨isFullTransaction, transaction⟩, rest)

/-- The slice decoder on the payload of the `Txs` list.  Every element takes
at least one byte, so the payload length bounds the number of elements. -/
def readCompressedTransactions : Nat → Bytes → Except String (List BxCompressedTransaction)
  | _, [] => .ok []
  | 0, _ :: _ => .error errTooManyElements
  | fuel + 1, bs => do
      let (tx, rest) ← readCompressedTransaction bs
      let txs ← readCompressedTransactions fuel rest
      return tx :: txs

/-- `rlp.DecodeBytes` into a `bxBlockRLP`. -/
def decodeBlockRLP (bs : Bytes) : Except String BxBlockRLP := do
  let (payload, rest) ← readList bs
  let (header, payload) ← readRaw payload
  let (txsPayload, payload) ← readList payload
  let txs ← readCompressedTransactions txsPayload.length txsPayload
  let (trailer, payload) ← readRaw payload
  let (totalDifficulty, payload) ← readBigInt payload
  let (number, payload) ← readBigInt payload
  if payload ≠ [] then throw errTooManyElements
  if rest ≠ [] then throw errMoreThanOneValue
  return ⟨header, txs, trailer, some totalDifficulty, number⟩

theorem length_le_encodeBytes (bs : Bytes) : bs.length ≤ (encodeBytes bs).length := by
  unfold encodeBytes
  split
  · split <;> simp
  · simp

theorem length_encodeList_pos (payload : Bytes) : 0 < (encodeList payload).length := by
  unfold encodeList listHead putHead
  split <;> simp

theorem readCompressedTransaction_append (tx : BxCompressedTransaction)
    (hlen : (encodeCompressedTransaction tx).length < 2 ^ 64) (rest : Bytes) :
    readCompressedTransaction (encodeCompressedTransaction tx ++ rest) = .ok (tx, rest) := by
  have hpayload : (encodeBool tx.isFullTransaction ++ encodeBytes tx.transaction).length
      < 2 ^ 64 := by
    simp only [encodeCompressedTransaction, encodeList, List.length_append] at hlen ⊢
    omega
  have htx : tx.transaction.length < 2 ^ 64 := by
    have := length_le_encodeBytes tx.transaction
    simp only [List.length_append] at hpayload
    omega
  have hbytes := readBytes_encodeBytes htx []
  rw [List.append_nil] at hbytes
  simp [readCompressedTransaction, encodeCompressedTransaction,
    readList_encodeList hpayload, readBool_encodeBool, hbytes]

theorem readCompressedTransactions_flatMap (txs : List BxCompressedTransaction) (fuel : Nat)
    (hfuel : txs.length ≤ fuel)
    (hlen : (txs.flatMap encodeCompressedTransaction).length < 2 ^ 64) :
    readCompressedTransactions fuel (txs.flatMap encodeCompressedTransaction) = .ok txs := by
  induction txs generalizing fuel with
  | nil => simp [readCompressedTransactions]
  | cons tx txs ih =>
      obtain ⟨fuel, rfl⟩ : ∃ f, fuel = f + 1 := ⟨fuel - 1, by simp at hfuel; omega⟩
      simp only [List.flatMap_cons, List.length_append] at hlen ⊢
      have hne : encodeCompressedTransaction tx ++ txs.flatMap encodeCompressedTransaction ≠ [] :=
        List.append_ne_nil_of_left_ne_nil
          (List.ne_nil_of_length_pos (length_encodeList_pos _)) _
      rw [readCompressedTransactions.eq_3 _ _ hne, readCompressedTransaction_append tx (by omega)]
      simp [ih fuel (by simpa using hfuel) (by omega)]

theorem length_le_length_flatMap (txs : List BxCompressedTransaction) :
    txs.length ≤ (txs.flatMap encodeCompressedTransaction).length := by
  induction txs with
  | nil => simp
  | cons tx txs ih =>
      have := length_encodeList_pos
        (encodeBool tx.isFullTransaction ++ encodeBytes tx.transaction)
      simp only [List.flatMap_cons, List.length_append, List.length_cons,
        encodeCompressedTransaction]
      omega

theorem encodeBigInt_eq_ok {x : Option Int} {bs : Bytes} (h : encodeBigInt x = .ok bs) :
    0 ≤ x.getD 0 ∧ bs = encodeBytes (beBytes (x.getD 0).toNat) := by
  cases x with
  | none =>
      simp only [encodeBigInt, Except.ok.injEq] at h
      subst h
      exact ⟨le_rfl, by simp [encodeBytes, stringHead, putHead]; rfl⟩
  | some i =>
      simp only [encodeBigInt] at h
      split_ifs at h with hi
      cases h
      exact ⟨by simpa using hi, rfl⟩

theorem decodeBlockRLP_encodeBlockRLP {b : BxBlockRLP} {encoded : Bytes}
    (hheader : IsRawItem b.header) (htrailer : IsRawItem b.trailer)
    (h : encodeBlockRLP b = .ok encoded) :
    decodeBlockRLP encoded =
      .ok { b with totalDifficulty := some (b.totalDifficulty.getD 0) } := by
  obtain ⟨td, htd, h⟩ := except_bind_eq_ok.mp h
  obtain ⟨number, hnumber, h⟩ := except_bind_eq_ok.mp h
  obtain ⟨htd0, rfl⟩ := encodeBigInt_eq_ok htd
  obtain ⟨hnum0, rfl⟩ := encodeBigInt_eq_ok hnumber
  simp only [Option.getD_some] at hnum0 h ⊢
  split_ifs at h with hlen
  cases h
  simp only [encodeList, List.length_append] at hlen
  have htdLen := length_le_encodeBytes (beBytes (b.totalDifficulty.getD 0).toNat)
  have hnumberLen := length_le_encodeBytes (beBytes b.number.toNat)
  have hpayload := @readList_encodeList (b.header ++
    encodeList (b.txs.flatMap encodeCompressedTransaction) ++ b.trailer ++
    encodeBytes (beBytes (b.totalDifficulty.getD 0).toNat) ++
    encodeBytes (beBytes b.number.toNat)) (by simp only [encodeList, List.length_append]; omega) []
  have hnumberBig := @readBigInt_encodeBytes_beBytes b.number.toNat (by omega) []
  have htdBig := @readBigInt_encodeBytes_beBytes (b.totalDifficulty.getD 0).toNat
    (by omega) (encodeBytes (beBytes b.number.toNat))
  rw [List.append_nil] at hnumberBig hpayload
  simp only [decodeBlockRLP, hpayload, except_ok_bind]
  simp only [List.append_assoc, except_ok_bind, readRaw_append hheader (by omega),
    readList_encodeList (show (b.txs.flatMap encodeCompressedTransaction).length < 2 ^ 64 by omega),
    readCompressedTransactions_flatMap b.txs _ (length_le_length_flatMap b.txs) (by omega),
    readRaw_append htrailer (by omega), htdBig, hnumberBig]
  simp [htd0, hnum0]

/-! ## Canonical decoding -/

private theorem toUInt8_toNat (b : UInt8) : Nat.toUInt8 b.toNat = b :=
  UInt8.toNat.inj (UInt8.toNat_ofNat_of_lt (UInt8.toNat_lt_size b))

private theorem bytes_lt (bs : Bytes) : ∀ d ∈ (bs.map UInt8.toNat).reverse, d < 256 := by
  intro d hd
  obtain ⟨b, -, rfl⟩ := List.mem_map.1 (List.mem_reverse.1 hd)
  exact UInt8.toNat_lt_size b

private theorem beValue_eq_ofDigits (bs : Bytes) :
    beValue bs = Nat.ofDigits 256 (bs.map UInt8.toNat).reverse := by
  rw [← beValue_reverse_digits _ (bytes_lt bs)]
  simp [List.map_map, Function.comp_def, toUInt8_toNat]

theorem beBytes_beValue {bs : Bytes} (h : ∀ b ∈ bs.head?, b.toNat ≠ 0) :
    beBytes (beValue bs) = bs := by
  rw [beBytes, beValue_eq_ofDigits, Nat.digits_ofDigits 256 (by norm_num) _ (bytes_lt bs)]
  · simp [List.map_map, Function.comp_def, toUInt8_toNat]
  · intro hne
    cases bs with
    | nil => simp at hne
    | cons b bs => simpa using h b rfl

theorem beValue_lt (bs : Bytes) : beValue bs < 256 ^ bs.length := by
  simpa [beValue_eq_ofDigits] using
    Nat.ofDigits_lt_base_pow_length (by norm_num : 1 < 256) (bytes_lt bs)

theorem readUint_eq_ok {k : Nat} {bs rest : Bytes} {n : Nat} (hk : 0 < k)
    (h : readUint k bs = .ok (n, rest)) :
    bs = beBytes n ++ rest ∧ (beBytes n).length = k := by
  unfold readUint at h
  split_ifs at h with hlen
  split at h
  · rename_i htake
    exact absurd htake (List.ne_nil_of_length_pos (by simp; omega))
  · rename_i b bs' htake
    split_ifs at h with hb
    cases h
    have hcanon : beBytes (beValue (bs.take k)) = bs.take k :=
      beBytes_beValue (by rw [htake]; simpa using hb)
    rw [hcanon]
    exact ⟨(List.take_append_drop k bs).symm, by simp; omega⟩

private theorem putHead_short (small large : Nat) (b : UInt8) (h1 : small ≤ b.toNat)
    (h2 : b.toNat < small + 56) :
    b.toNat - small < 2 ^ 64 ∧ putHead small large (b.toNat - small) = [b] :=
  ⟨by omega, by rw [putHead, if_pos (by omega), Nat.add_sub_cancel' h1, toUInt8_toNat]⟩

private theorem putHead_long (small large : Nat) {size : Nat} {b : UInt8} {rest0 rest : Bytes}
    (h1 : large < b.toNat) (h2 : b.toNat - large ≤ 8)
    (hread : readUint (b.toNat - large) rest0 = .ok (size, rest)) (hsize : ¬size < 56) :
    size < 2 ^ 64 ∧ b :: rest0 = putHead small large size ++ rest := by
  obtain ⟨rfl, hlen⟩ := readUint_eq_ok (by omega) hread
  refine ⟨?_, by rw [putHead, if_neg hsize, hlen, Nat.add_sub_cancel' h1.le, toUInt8_toNat]; rfl⟩
  calc size = beValue (beBytes size) := (beValue_beBytes size).symm
    _ < 256 ^ (beBytes size).length := beValue_lt _
    _ ≤ 256 ^ 8 := Nat.pow_le_pow_right (by norm_num) (by omega)
    _ = 2 ^ 64 := by norm_num

theorem readKind_eq_ok {bs rest : Bytes} {kind : Kind} (h : readKind bs = .ok (kind, rest)) :
    match kind with
    | .byte b => b.toNat < 0x80 ∧ bs = b :: rest
    | .string size => size < 2 ^ 64 ∧ bs = stringHead size ++ rest
    | .list size => size < 2 ^ 64 ∧ bs = listHead size ++ rest := by
  match bs, h with
  | b :: rest0, h =>
    have hb : b.toNat < 256 := UInt8.toNat_lt_size b
    simp only [readKind] at h
    by_cases h1 : b.toNat < 0x80
    · rw [if_pos h1] at h; cases h; exact ⟨h1, rfl⟩
    by_cases h2 : b.toNat < 0xB8
    · rw [if_neg h1, if_pos h2] at h
      cases h
      obtain ⟨hlt, heq⟩ := putHead_short 0x80 0xB7 b (by omega) (by omega)
      exact ⟨hlt, by rw [stringHead, heq]; rfl⟩
    by_cases h3 : b.toNat < 0xC0
    · rw [if_neg h1, if_neg h2, if_pos h3] at h
      split at h
      · cases h
      · rename_i size rest1 hread
        split at h
        · cases h
        · cases h
          exact putHead_long 0x80 0xB7 (by omega) (by omega) hread ‹_›
    rw [if_neg h1, if_neg h2, if_neg h3] at h
    by_cases h4 : b.toNat < 0xF8
    · rw [if_pos h4] at h
      cases h
      obtain ⟨hlt, heq⟩ := putHead_short 0xC0 0xF7 b (by omega) (by omega)
      exact ⟨hlt, by rw [listHead, heq]; rfl⟩
    · rw [if_neg h4] at h
      split at h
      · cases h
      · rename_i size rest1 hread
        split at h
        · cases h
        · cases h
          exact putHead_long 0xC0 0xF7 (by omega) (by omega) hread ‹_›

theorem readPayload_eq_ok {size : Nat} {bs payload rest : Bytes}
    (h : readPayload size bs = .ok (payload, rest)) :
    payload.length = size ∧ bs = payload ++ rest := by
  unfold readPayload at h
  split_ifs at h with hlen
  cases h
  exact ⟨by simp only [List.length_take]; omega, (List.take_append_drop size bs).symm⟩

theorem readRaw_eq_ok {bs item rest : Bytes} (h : readRaw bs = .ok (item, rest)) :
    bs = item ++ rest ∧ IsRawItem item := by
  obtain ⟨⟨kind, rest1⟩, hkind, h⟩ := except_bind_eq_ok.mp h
  have hk := readKind_eq_ok hkind
  cases kind with
  | byte b =>
    cases h
    exact ⟨hk.2, .byte b hk.1⟩
  | string size =>
    obtain ⟨⟨payload, rest2⟩, hpayload, h⟩ := except_bind_eq_ok.mp h
    cases h
    obtain ⟨rfl, rfl⟩ := readPayload_eq_ok hpayload
    exact ⟨by rw [hk.2, List.append_assoc], .string payload⟩
  | list size =>
    obtain ⟨⟨payload, rest2⟩, hpayload, h⟩ := except_bind_eq_ok.mp h
    cases h
    obtain ⟨rfl, rfl⟩ := readPayload_eq_ok hpayload
    exact ⟨by rw [hk.2, List.append_assoc], .list payload⟩

theorem readList_eq_ok {bs payload rest : Bytes} (h : readList bs = .ok (payload, rest)) :
    bs = encodeList payload ++ rest := by
  obtain ⟨⟨kind, rest1⟩, hkind, h⟩ := except_bind_eq_ok.mp h
  have hk := readKind_eq_ok hkind
  cases kind with
  | list size =>
    obtain ⟨rfl, rfl⟩ := readPayload_eq_ok h
    rw [hk.2, encodeList, List.append_assoc]
  | _ => cases h

private theorem readString_eq_ok {size : Nat} {bs rest1 payload rest : Bytes}
    (hk : bs = stringHead size ++ rest1) (hpayload : readPayload size rest1 = .ok (payload, rest))
    (hcanon : ∀ b, payload = [b] → ¬b.toNat < 128) :
    bs = encodeBytes payload ++ rest := by
  obtain ⟨rfl, rfl⟩ := readPayload_eq_ok hpayload
  rw [hk, ← List.append_assoc]
  congr 1
  unfold encodeBytes
  split
  · rename_i b
    rw [if_neg (hcanon b rfl)]
    rfl
  · rfl

theorem readBytes_eq_ok {bs payload rest : Bytes} (h : readBytes bs = .ok (payload, rest)) :
    bs = encodeBytes payload ++ rest := by
  obtain ⟨⟨kind, rest1⟩, hkind, h⟩ := except_bind_eq_ok.mp h
  have hk := readKind_eq_ok hkind
  cases kind with
  | byte b =>
    cases h
    simp [encodeBytes, hk.1, hk.2]
  | string size =>
    obtain ⟨⟨payload', rest2⟩, hpayload, h⟩ := except_bind_eq_ok.mp h
    dsimp only at h
    split at h
    · rename_i b
      split_ifs at h with hb
      cases h
      exact readString_eq_ok hk.2 hpayload fun _ h' => by cases h'; exact hb
    · rename_i hne
      cases h
      exact readString_eq_ok hk.2 hpayload fun b h' => (hne b h').elim
  | list size => cases h

theorem readBool_eq_ok {bs rest : Bytes} {v : Bool} (h : readBool bs = .ok (v, rest)) :
    bs = encodeBool v ++ rest := by
  obtain ⟨⟨kind, rest1⟩, hkind, h⟩ := except_bind_eq_ok.mp h
  have hk := readKind_eq_ok hkind
  cases kind with
  | byte b =>
    simp only [except_throw, except_pure, except_error_bind, except_ok_bind] at h
    split_ifs at h with hb0 h1
    cases h
    rw [hk.2, show b = 0x01 from UInt8.toNat.inj h1]
    rfl
  | string size =>
    simp only [except_throw, except_pure, except_error_bind, except_ok_bind,
      ite_error_eq_ok] at h
    obtain ⟨hsize, h⟩ := h
    obtain ⟨⟨payload, rest3⟩, hpayload, hvalue⟩ := except_bind_eq_ok.mp h
    obtain ⟨hlen, rfl⟩ := readPayload_eq_ok hpayload
    dsimp only at hvalue
    split at hvalue
    · -- a one-byte payload is at least 128, so neither false nor true
      simp only [ite_error_eq_ok] at hvalue
      rw [if_neg hvalue.1, if_neg (by omega)] at hvalue
      cases hvalue.2.2
    · rename_i hne
      cases hvalue
      have hnil : payload = [] := by
        match payload, hlen, hne with
        | [], _, _ => rfl
        | [b], _, hne => exact (hne b rfl).elim
        | _ :: _ :: _, hlen, _ => simp only [List.length_cons] at hlen; omega
      subst hnil
      rw [hk.2, ← hlen]
      rfl
  | list size =>
    simp at h

theorem readBigInt_eq_ok {bs rest : Bytes} {n : Nat} (h : readBigInt bs = .ok (n, rest)) :
    bs = encodeBytes (beBytes n) ++ rest := by
  obtain ⟨⟨kind, rest1⟩, hkind, h⟩ := except_bind_eq_ok.mp h
  have hk := readKind_eq_ok hkind
  have hfinish : ∀ digits rest2, bs = encodeBytes digits ++ rest2 →
      (match digits with
        | b :: _ => if b.toNat = 0 then (throw errCanonInt : Except String (Nat × Bytes))
            else pure (beValue digits, rest2)
        | [] => pure (0, rest2)) = .ok (n, rest) →
      bs = encodeBytes (beBytes n) ++ rest := by
    intro digits rest2 hbs h
    cases digits with
    | nil =>
      cases h
      simpa using hbs
    | cons b tail =>
      dsimp only at h
      split_ifs at h with hb
      cases h
      rw [beBytes_beValue (by simpa using hb)]
      exact hbs
  cases kind with
  | byte b => exact hfinish [b] rest1 (by simp [encodeBytes, hk.1, hk.2]) h
  | string size =>
    obtain ⟨⟨payload, rest2⟩, hpayload, h⟩ := except_bind_eq_ok.mp h
    dsimp only at h
    split at h
    · split_ifs at h with hb
      · cases h
      · exact hfinish _ _ (readString_eq_ok hk.2 hpayload fun _ h' => by cases h'; exact hb) h
    · rename_i hne
      exact hfinish _ _ (readString_eq_ok hk.2 hpayload fun b h' => (hne b h').elim) h
  | list size => cases h

theorem readCompressedTransaction_eq_ok {bs rest : Bytes} {tx : BxCompressedTransaction}
    (h : readCompressedTransaction bs = .ok (tx, rest)) :
    bs = encodeCompressedTransaction tx ++ rest := by
  obtain ⟨⟨payload, rest1⟩, hlist, h⟩ := except_bind_eq_ok.mp h
  obtain ⟨⟨v, p1⟩, hbool, h⟩ := except_bind_eq_ok.mp h
  obtain ⟨⟨t, p2⟩, hbytes, h⟩ := except_bind_eq_ok.mp h
  simp only [except_throw, except_pure, except_error_bind, except_ok_bind] at h
  split_ifs at h with hp2
  cases h
  rw [readList_eq_ok hlist, readBool_eq_ok hbool, readBytes_eq_ok hbytes, not_not.1 hp2]
  simp [encodeCompressedTransaction]

theorem readCompressedTransactions_eq_ok :
    ∀ {fuel : Nat} {bs : Bytes} {txs : List BxCompressedTransaction},
    readCompressedTransactions fuel bs = .ok txs → bs = txs.flatMap encodeCompressedTransaction
  | _, [], _, h => by rw [readCompressedTransactions.eq_1] at h; cases h; rfl
  | 0, _ :: _, _, h => by rw [readCompressedTransactions.eq_2] at h; cases h
  | fuel + 1, b :: bs, txs, h => by
    rw [readCompressedTransactions.eq_3 _ _ (List.cons_ne_nil _ _)] at h
    obtain ⟨⟨tx, rest⟩, htx, h⟩ := except_bind_eq_ok.mp h
    obtain ⟨txs', htxs, h⟩ := except_bind_eq_ok.mp h
    cases h
    rw [readCompressedTransaction_eq_ok htx, readCompressedTransactions_eq_ok htxs]
    rfl

/-- The decoder accepts only what the encoder writes: every input
`decodeBlockRLP` accepts is the encoding of the envelope it decodes, whose
header and trailer are single RLP items. -/
theorem encodeBlockRLP_decodeBlockRLP {bs : Bytes} {b : BxBlockRLP}
    (hlen : bs.length < 2 ^ 64) (h : decodeBlockRLP bs = .ok b) :
    encodeBlockRLP b = .ok bs ∧ IsRawItem b.header ∧ IsRawItem b.trailer := by
  obtain ⟨⟨payload, rest⟩, hlist, h⟩ := except_bind_eq_ok.mp h
  obtain ⟨⟨header, p1⟩, hheader, h⟩ := except_bind_eq_ok.mp h
  obtain ⟨⟨txsPayload, p2⟩, htxsList, h⟩ := except_bind_eq_ok.mp h
  obtain ⟨txs, htxs, h⟩ := except_bind_eq_ok.mp h
  obtain ⟨⟨trailer, p3⟩, htrailer, h⟩ := except_bind_eq_ok.mp h
  obtain ⟨⟨td, p4⟩, htd, h⟩ := except_bind_eq_ok.mp h
  obtain ⟨⟨number, p5⟩, hnumber, h⟩ := except_bind_eq_ok.mp h
  simp only [except_throw, except_pure, except_error_bind, except_ok_bind] at h
  split_ifs at h with hp5 hrest
  cases h
  obtain ⟨hp0, hheaderItem⟩ := readRaw_eq_ok hheader
  obtain ⟨hp2, htrailerItem⟩ := readRaw_eq_ok htrailer
  have hbs : bs = encodeList (header ++ encodeList (txs.flatMap encodeCompressedTransaction) ++
      trailer ++ encodeBytes (beBytes td) ++ encodeBytes (beBytes number)) := by
    rw [readList_eq_ok hlist, not_not.1 hrest, List.append_nil, hp0, readList_eq_ok htxsList,
      ← readCompressedTransactions_eq_ok htxs, hp2, readBigInt_eq_ok htd,
      readBigInt_eq_ok hnumber, not_not.1 hp5]
    simp only [List.append_nil, List.append_assoc]
  refine ⟨?_, hheaderItem, htrailerItem⟩
  have htd0 : ¬(td : Int) < 0 := by omega
  have hnumber0 : ¬(number : Int) < 0 := by omega
  simp only [encodeBlockRLP, encodeBigInt, if_neg htd0, if_neg hnumber0, Int.toNat_natCast,
    except_ok_bind]
  rw [← hbs, if_pos hlen]
  rfl

/-- A block with a one-byte header and trailer, no transactions, and zero
difficulty and number is read, and written back byte for byte. -/
theorem decodeBlockRLP_smallest_block :
    decodeBlockRLP [0xC5, 0x01, 0xC0, 0x02, 0x80, 0x80] = .ok ⟨[0x01], [], [0x02], some 0, 0⟩ ∧
      encodeBlockRLP ⟨[0x01], [], [0x02], some 0, 0⟩ = .ok [0xC5, 0x01, 0xC0, 0x02, 0x80, 0x80] := by
  have hdecode : decodeBlockRLP [0xC5, 0x01, 0xC0, 0x02, 0x80, 0x80] =
      .ok ⟨[0x01], [], [0x02], some 0, 0⟩ := rfl
  exact ⟨hdecode, (encodeBlockRLP_decodeBlockRLP (by decide) hdecode).1⟩

end Gateway.Rlp
