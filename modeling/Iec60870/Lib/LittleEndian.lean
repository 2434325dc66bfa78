import Mathlib

/-!
# Numbers as octets, the low one first

Splitting a 16-bit number into its low and its high octet, and putting it
together again; and the same for a number of any width.
-/

namespace LittleEndian

/-- The number two octets stand for. -/
def ofOctets (lo hi : UInt8) : UInt16 := lo.toUInt16 ||| hi.toUInt16 <<< 8

/-- The two octets of a number, the low one first. -/
def octets (x : UInt16) : List UInt8 := [x.toUInt8, (x >>> 8).toUInt8]

@[simp] theorem length_octets (x : UInt16) : (octets x).length = 2 := rfl

theorem toNat_ofOctets (lo hi : UInt8) : (ofOctets lo hi).toNat = lo.toNat + 256 * hi.toNat := by
  have hlo := lo.toNat_lt
  have hhi := hi.toNat_lt
  have hshift : (hi.toUInt16 <<< 8).toNat = hi.toNat * 2 ^ 8 := by
    rw [UInt16.toNat_shiftLeft, UInt8.toNat_toUInt16]
    simp [Nat.shiftLeft_eq]
    omega
  rw [ofOctets, UInt16.toNat_or, hshift, UInt8.toNat_toUInt16, Nat.or_comm, ← Nat.shiftLeft_eq,
    ← Nat.shiftLeft_add_eq_or_of_lt (by omega), Nat.shiftLeft_eq]
  omega

theorem toNat_low (x : UInt16) : x.toUInt8.toNat = x.toNat % 256 := by simp

theorem toNat_high (x : UInt16) : (x >>> 8).toUInt8.toNat = x.toNat / 256 := by
  have hx := x.toNat_lt
  simp [UInt16.toNat_shiftRight, Nat.shiftRight_eq_div_pow]
  omega

/-- A number is read back from its octets. -/
@[simp] theorem ofOctets_split (x : UInt16) : ofOctets x.toUInt8 (x >>> 8).toUInt8 = x := by
  apply UInt16.toNat_inj.mp
  rw [toNat_ofOctets, toNat_low, toNat_high]
  omega

/-- Octets are read back from their number. -/
@[simp] theorem low_ofOctets (lo hi : UInt8) : (ofOctets lo hi).toUInt8 = lo := by
  apply UInt8.toNat_inj.mp
  have hlo := lo.toNat_lt
  rw [toNat_low, toNat_ofOctets]
  omega

@[simp] theorem high_ofOctets (lo hi : UInt8) : (ofOctets lo hi >>> 8).toUInt8 = hi := by
  apply UInt8.toNat_inj.mp
  have hlo := lo.toNat_lt
  rw [toNat_high, toNat_ofOctets]
  omega

theorem octets_ofOctets (lo hi : UInt8) : octets (ofOctets lo hi) = [lo, hi] := by
  rw [octets, low_ofOctets, high_ofOctets]

/-! ### Any width -/

/-- The low `k` octets of `n`. -/
def encode : ℕ → ℕ → List UInt8
  | 0, _ => []
  | k + 1, n => UInt8.ofNat n :: encode k (n / 256)

/-- The number a string of octets stands for. -/
def decode : List UInt8 → ℕ
  | [] => 0
  | b :: bs => b.toNat + 256 * decode bs

@[simp] theorem length_encode (k n : ℕ) : (encode k n).length = k := by
  induction k generalizing n with
  | zero => rfl
  | succ k ih => rw [encode, List.length_cons, ih]

theorem decode_encode_mod (k n : ℕ) : decode (encode k n) = n % 256 ^ k := by
  induction k generalizing n with
  | zero => rw [encode, decode, pow_zero, Nat.mod_one]
  | succ k ih => rw [encode, decode, ih, pow_succ', Nat.mod_mul, UInt8.toNat_ofNat']

/-- A number of `k` octets is read back. -/
theorem decode_encode {k n : ℕ} (h : n < 256 ^ k) : decode (encode k n) = n := by
  rw [decode_encode_mod, Nat.mod_eq_of_lt h]

end LittleEndian
