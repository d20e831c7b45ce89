import Mathlib.Data.Nat.Digits

/-!
# Hex quantities

A block tag of a JSON-RPC call is a quantity: `0x` and the hex digits of a
number, without leading zeros.  The onBlock dispatcher writes its tags with
go-ethereum's `hexutil.EncodeUint64`, and a node reads a block number with
`hexutil.DecodeUint64`.  This file models both and proves that reading a tag
back gives the number it was written from.
-/

namespace Gateway.Hex

/-! ## Digits -/

theorem toDigitsCore_eq {b : Nat} (hb : 2 ≤ b) (n : Nat) :
    ∀ fuel ds, n < fuel → Nat.toDigitsCore b fuel n ds =
      (if n / b = 0 then [] else Nat.toDigits b (n / b)) ++ Nat.digitChar (n % b) :: ds := by
  induction n using Nat.strong_induction_on with
  | _ n ih =>
    rintro (_ | fuel) ds hfuel
    · omega
    simp only [Nat.toDigitsCore]
    split
    next => rw [List.nil_append]
    next h =>
      have hpos : 0 < n := Nat.pos_of_ne_zero fun hn => h (by rw [hn, Nat.zero_div])
      have hlt : n / b < n := Nat.div_lt_self hpos (by omega)
      have hrec : Nat.toDigits b (n / b) = (if n / b / b = 0 then [] else
          Nat.toDigits b (n / b / b)) ++ [Nat.digitChar (n / b % b)] :=
        ih (n / b) hlt (n / b + 1) [] (by omega)
      rw [ih (n / b) hlt fuel _ (hlt.trans_le (by omega)), hrec, List.append_assoc,
        List.singleton_append]

theorem toDigits_eq {b : Nat} (hb : 2 ≤ b) (n : Nat) :
    Nat.toDigits b n =
      (if n / b = 0 then [] else Nat.toDigits b (n / b)) ++ [Nat.digitChar (n % b)] :=
  toDigitsCore_eq hb n (n + 1) [] (by omega)

theorem toDigits_ne_nil {b : Nat} (hb : 2 ≤ b) (n : Nat) : Nat.toDigits b n ≠ [] := by
  rw [toDigits_eq hb]
  simp

theorem toDigits_head {n : Nat} (hn : 0 < n) : (Nat.toDigits 16 n).head? ≠ some '0' := by
  have hdigit : ∀ d < 16, 0 < d → Nat.digitChar d ≠ '0' := by decide
  induction n using Nat.strong_induction_on with
  | _ n ih =>
    rw [toDigits_eq (by omega)]
    split
    next h =>
      have hmod : n % 16 = n := Nat.mod_eq_of_lt (by omega)
      simpa [hmod] using hdigit n (by omega) hn
    next h =>
      obtain ⟨c, cs, hcs⟩ :=
        List.exists_cons_of_ne_nil (toDigits_ne_nil (b := 16) (by omega) (n / 16))
      have hhead := ih (n / 16) (Nat.div_lt_self hn (by omega)) (by omega)
      rw [hcs] at hhead ⊢
      simpa using hhead

/-! ## Writing and reading a quantity -/

/-- `hexutil.EncodeUint64`: `0x` and the lower-case hex digits of `x`. -/
def encodeUint64 (x : UInt64) : String := "0x" ++ ⟨Nat.toDigits 16 x.toNat⟩

/-- The value of a hex digit of either case, as `strconv.ParseUint` reads it. -/
def hexDigitValue (c : Char) : Option Nat :=
  if '0' ≤ c ∧ c ≤ '9' then some (c.toNat - '0'.toNat)
  else if 'a' ≤ c ∧ c ≤ 'f' then some (c.toNat - 'a'.toNat + 10)
  else if 'A' ≤ c ∧ c ≤ 'F' then some (c.toNat - 'A'.toNat + 10)
  else none

def readHex (digits : List Char) : Option Nat :=
  digits.foldlM (fun acc c => (hexDigitValue c).map (acc * 16 + ·)) 0

/-- `hexutil.DecodeUint64`: a `0x` or `0X` prefix, then hex digits with no
leading zero, of a number that fits in 64 bits. -/
def decodeUint64 (input : String) : Option UInt64 :=
  let raw := input.toList.drop 2
  if (input.toList.take 2 = ['0', 'x'] ∨ input.toList.take 2 = ['0', 'X']) ∧ raw ≠ [] ∧
      ¬(1 < raw.length ∧ raw.head? = some '0') then
    (readHex raw).bind fun v => if v < UInt64.size then some (UInt64.ofNat v) else none
  else none

theorem readHex_append_singleton (ds : List Char) (c : Char) :
    readHex (ds ++ [c]) = (readHex ds).bind fun a => (hexDigitValue c).map (a * 16 + ·) := by
  simp [readHex, List.foldlM_append]

theorem readHex_toDigits (n : Nat) : readHex (Nat.toDigits 16 n) = some n := by
  have hvalue : ∀ d < 16, hexDigitValue (Nat.digitChar d) = some d := by decide
  induction n using Nat.strong_induction_on with
  | _ n ih =>
    have hdigit := hvalue (n % 16) (Nat.mod_lt _ (by omega))
    rw [toDigits_eq (by omega), readHex_append_singleton]
    split
    next => simp [readHex, hdigit]; omega
    next =>
      rw [ih (n / 16) (Nat.div_lt_self (by omega) (by omega))]
      simp [hdigit]
      omega

theorem decodeUint64_encodeUint64 (x : UInt64) : decodeUint64 (encodeUint64 x) = some x := by
  have hlist : (encodeUint64 x).toList = '0' :: 'x' :: Nat.toDigits 16 x.toNat := rfl
  have hzero : ¬(1 < (Nat.toDigits 16 x.toNat).length ∧
      (Nat.toDigits 16 x.toNat).head? = some '0') := by
    rcases Nat.eq_zero_or_pos x.toNat with h | h
    · rw [h]; decide
    · exact fun hc => toDigits_head h hc.2
  unfold decodeUint64
  dsimp only
  rw [hlist, List.take, List.take, List.take, List.drop, List.drop, List.drop,
    if_pos ⟨Or.inl rfl, toDigits_ne_nil (by omega) _, hzero⟩, readHex_toDigits,
    Option.some_bind, if_pos x.toNat_lt_size]
  exact congrArg some (UInt64.toNat.inj (UInt64.toNat_ofNat_of_lt x.toNat_lt_size))

end Gateway.Hex
