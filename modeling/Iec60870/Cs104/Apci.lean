import Iec60870.Asdu.Codec
import Iec60870.Lib.Cyclic

/-!
# The APCI of IEC 60870-5-104

The three frame formats: building them, and splitting a complete APDU into its
control field and the ASDU that follows.  Sequence numbers are 15 bits wide.

## Main results

* `parse_newIFrame`, `parse_newSFrame`, `parse_newUFrame` — `parse` inverts the
  encoders.
* `seqNoCount_mod` — the wrapped count of `seqNoCount` is the distance between
  two unbounded counters less than `2 ^ 15` apart.
-/

namespace Iec60870
namespace Cs104

/-- The APDU start character. -/
def START_FRAME : UInt8 := 0x68

/-- Octets of the APCI control field. -/
def APCI_CTL_FIELD_SIZE : ℕ := 4

/-- Sequence numbers are 15 bits and wrap at 32767. -/
def SEQ_MASK : UInt16 := 32767

/-- U-frame control functions, in the high six bits of the first control octet. -/
inductive UFunction
  | startDtActive
  | startDtConfirm
  | stopDtActive
  | stopDtConfirm
  | testFrActive
  | testFrConfirm
  deriving DecidableEq, Repr

namespace UFunction

/-- The function's bits in the control octet. -/
def bits : UFunction → UInt8
  | startDtActive => 0x04
  | startDtConfirm => 0x08
  | stopDtActive => 0x10
  | stopDtConfirm => 0x20
  | testFrActive => 0x40
  | testFrConfirm => 0x80

/-- `UFunction::from_bits`: combinations the standard does not define are
rejected. -/
def fromBits (b : UInt8) : Option UFunction :=
  if b = 0x04 then some startDtActive
  else if b = 0x08 then some startDtConfirm
  else if b = 0x10 then some stopDtActive
  else if b = 0x20 then some stopDtConfirm
  else if b = 0x40 then some testFrActive
  else if b = 0x80 then some testFrConfirm
  else none

end UFunction

/-- A parsed APCI control field, in one of the three formats that the two low bits
of its first octet tell apart. -/
inductive Apci
  /-- Information transfer: send and receive sequence numbers. -/
  | i (sendSn recvSn : UInt16)
  /-- Supervisory: acknowledges received I-frames. -/
  | s (recvSn : UInt16)
  /-- Unnumbered control function. -/
  | u (function : UFunction)
  deriving DecidableEq, Repr

/-- `new_i_frame`: an I-frame APDU carrying `asdu`, with both numbers shifted past
the format bit.  An ASDU that does not fit one APDU is refused. -/
def newIFrame (sendSn recvSn : UInt16) (asdu : Octets) : Except Error Octets :=
  if asdu.length > ASDU_SIZE_MAX then .error .lengthOutOfRange
  else .ok ([START_FRAME, UInt8.ofNat (asdu.length + APCI_CTL_FIELD_SIZE),
    (sendSn <<< 1).toUInt8, (sendSn >>> 7).toUInt8,
    (recvSn <<< 1).toUInt8, (recvSn >>> 7).toUInt8] ++ asdu)

/-- `new_s_frame`: an S-frame APDU acknowledging up to `recvSn`. -/
def newSFrame (recvSn : UInt16) : Octets :=
  [START_FRAME, 4, 0x01, 0x00, (recvSn <<< 1).toUInt8, (recvSn >>> 7).toUInt8]

/-- `new_u_frame`: a U-frame APDU, whose control field is the function and nothing
else. -/
def newUFrame (which : UFunction) : Octets :=
  [START_FRAME, 4, which.bits ||| 0x03, 0x00, 0x00, 0x00]

/-- A 15-bit sequence number from its two control octets. -/
def seqNoOf (lo hi : UInt8) : UInt16 := lo.toUInt16 >>> 1 ||| hi.toUInt16 <<< 7

/-- `parse`: split an APDU into its control field and the ASDU that follows. -/
def parse (apdu : Octets) : Except Error (Apci × Octets) :=
  match apdu with
  | _ :: len :: c1 :: c2 :: c3 :: c4 :: asdu =>
    if len.toNat ≠ apdu.length - 2 then
      .error (.apci "length field does not match the octets read")
    else if c1 &&& 0x01 = 0 then
      if len.toNat ≤ APCI_CTL_FIELD_SIZE then .error (.apci "I format with no ASDU")
      else if c3 &&& 0x01 ≠ 0 then
        .error (.apci "I format with bit 0 of control octet 3 set")
      else .ok (.i (seqNoOf c1 c2) (seqNoOf c3 c4), asdu)
    else if c1 &&& 0x03 = 0x01 then
      if len.toNat ≠ APCI_CTL_FIELD_SIZE then
        .error (.apci "S format with a length other than 4")
      else if c1 ≠ 0x01 ∨ c2 ≠ 0 ∨ c3 &&& 0x01 ≠ 0 then
        .error (.apci "S format with unused control bits set")
      else .ok (.s (seqNoOf c3 c4), asdu)
    else
      if len.toNat ≠ APCI_CTL_FIELD_SIZE then
        .error (.apci "U format with a length other than 4")
      else if c2 ≠ 0 ∨ c3 ≠ 0 ∨ c4 ≠ 0 then
        .error (.apci "U format with non-zero reserved octets")
      else
        match UFunction.fromBits (c1 &&& 0xfc) with
        | none => .error (.apci "U format function is not one of the six defined")
        | some function => .ok (.u function, asdu)
  | _ => .error (.apci "fewer than the minimum six octets")

/-- `seq_no_count`: the number of frames between two sequence numbers,
accounting for the 15-bit wraparound. -/
def seqNoCount (nextAckNo nextSeqNo : UInt16) : UInt16 :=
  let seq := if nextAckNo > nextSeqNo then nextSeqNo + 32768 else nextSeqNo
  seq - nextAckNo

/-! ### The octets of a sequence number -/

theorem toNat_shiftLeft_one (s : UInt16) :
    (s <<< 1).toUInt8.toNat = 2 * (s.toNat % 128) := by
  simp [Nat.shiftLeft_eq]
  omega

theorem toNat_shiftRight_seven {s : UInt16} (hs : s.toNat < 32768) :
    (s >>> 7).toUInt8.toNat = s.toNat / 128 := by
  simp [UInt16.toNat_shiftRight, Nat.shiftRight_eq_div_pow]
  omega

/-- Reading back the two octets of a 15-bit number. -/
theorem seqNoOf_shift {s : UInt16} (hs : s.toNat < 32768) :
    seqNoOf (s <<< 1).toUInt8 (s >>> 7).toUInt8 = s := by
  apply UInt16.toNat_inj.mp
  have hlo := toNat_shiftLeft_one s
  have hhi := toNat_shiftRight_seven hs
  have h1 : ((s <<< 1).toUInt8.toUInt16 >>> 1).toNat = s.toNat % 128 := by
    rw [UInt16.toNat_shiftRight, UInt8.toNat_toUInt16, hlo]
    simp [Nat.shiftRight_eq_div_pow]
  have h2 : ((s >>> 7).toUInt8.toUInt16 <<< 7).toNat = s.toNat / 128 * 2 ^ 7 := by
    rw [UInt16.toNat_shiftLeft, UInt8.toNat_toUInt16, hhi]
    simp [Nat.shiftLeft_eq]
    omega
  rw [seqNoOf, UInt16.toNat_or, h1, h2, Nat.or_comm, ← Nat.shiftLeft_eq,
    ← Nat.shiftLeft_add_eq_or_of_lt (by omega), Nat.shiftLeft_eq]
  omega

/-- The low bit of the first octet of a sequence number is clear. -/
theorem shiftLeft_one_and_one (s : UInt16) : (s <<< 1).toUInt8 &&& 0x01 = 0 := by
  apply UInt8.toNat_inj.mp
  rw [UInt8.toNat_and, toNat_shiftLeft_one]
  show _ &&& 1 = 0
  rw [Nat.and_one_is_mod]
  omega

/-- Sequence numbers are decoded to 15 bits. -/
theorem toNat_seqNoOf_lt (lo hi : UInt8) : (seqNoOf lo hi).toNat < 32768 := by
  have hlo : (lo.toUInt16 >>> 1).toNat < 2 ^ 15 := by
    have := lo.toNat_lt
    rw [UInt16.toNat_shiftRight, UInt8.toNat_toUInt16]
    simp [Nat.shiftRight_eq_div_pow]
    omega
  have hhi : (hi.toUInt16 <<< 7).toNat < 2 ^ 15 := by
    have := hi.toNat_lt
    rw [UInt16.toNat_shiftLeft, UInt8.toNat_toUInt16]
    simp [Nat.shiftLeft_eq]
    omega
  rw [seqNoOf, UInt16.toNat_or]
  exact Nat.or_lt_two_pow hlo hhi

/-! ### `parse` inverts the encoders -/

theorem newIFrame_eq_ok {s r : UInt16} {asdu frame : Octets} (h : newIFrame s r asdu = .ok frame) :
    asdu.length ≤ ASDU_SIZE_MAX := by
  unfold newIFrame at h
  split at h
  · cases h
  · omega

theorem parse_newIFrame {s r : UInt16} {asdu frame : Octets} (hs : s.toNat < 32768)
    (hr : r.toNat < 32768) (hne : asdu ≠ []) (h : newIFrame s r asdu = .ok frame) :
    parse frame = .ok (.i s r, asdu) := by
  have hlen := newIFrame_eq_ok h
  have hpos := List.length_pos_iff.mpr hne
  rw [newIFrame, if_neg (by omega)] at h
  cases h
  have hfield : (UInt8.ofNat (asdu.length + APCI_CTL_FIELD_SIZE)).toNat = asdu.length + 4 := by
    simp [APCI_CTL_FIELD_SIZE, ASDU_SIZE_MAX] at *
    omega
  simp only [List.cons_append, List.nil_append, parse, hfield, List.length_cons]
  rw [if_neg (by omega), if_pos (shiftLeft_one_and_one s),
    if_neg (by simp only [APCI_CTL_FIELD_SIZE]; omega),
    if_neg (not_not.mpr (shiftLeft_one_and_one r)), seqNoOf_shift hs, seqNoOf_shift hr]

theorem parse_newSFrame {r : UInt16} (hr : r.toNat < 32768) :
    parse (newSFrame r) = .ok (.s r, []) := by
  have hlow : r.toUInt8 <<< 1 &&& 1 = 0 := by simpa using shiftLeft_one_and_one r
  have hsn : seqNoOf (r.toUInt8 <<< 1) (r >>> 7).toUInt8 = r := by simpa using seqNoOf_shift hr
  have hfmt : (1 : UInt8) &&& 3 = 1 := rfl
  simp [newSFrame, parse, APCI_CTL_FIELD_SIZE, hfmt, hlow, hsn]

@[simp] theorem parse_newUFrame (f : UFunction) : parse (newUFrame f) = .ok (.u f, []) := by
  cases f <;> rfl

/-- The sequence numbers `parse` reads are 15 bits wide. -/
theorem parse_i_lt {f asdu : Octets} {s r : UInt16} (h : parse f = .ok (.i s r, asdu)) :
    s.toNat < 32768 ∧ r.toNat < 32768 := by
  unfold parse at h
  split at h
  · split_ifs at h
    · cases h
      exact ⟨toNat_seqNoOf_lt _ _, toNat_seqNoOf_lt _ _⟩
    · cases h
    · split at h <;> cases h
  · cases h

theorem parse_s_lt {f asdu : Octets} {r : UInt16} (h : parse f = .ok (.s r, asdu)) :
    r.toNat < 32768 := by
  unfold parse at h
  split at h
  · split_ifs at h
    · cases h
    · cases h
      exact toNat_seqNoOf_lt _ _
    · split at h <;> cases h
  · cases h

/-! ### Counting on the 15-bit circle -/

/-- `seqNoCount` is the distance on the circle of `2 ^ 15` numbers. -/
theorem toNat_seqNoCount {a b : UInt16} (ha : a.toNat < 32768) (hb : b.toNat < 32768) :
    (seqNoCount a b).toNat = Cyclic.dist 32768 a.toNat b.toNat := by
  unfold seqNoCount Cyclic.dist
  simp only [gt_iff_lt, UInt16.lt_iff_toNat_lt]
  split
  · rw [UInt16.toNat_sub, UInt16.toNat_add]
    simp
    omega
  · rw [UInt16.toNat_sub]
    omega

/-- On counters less than `2 ^ 15` apart, `seqNoCount` is the true distance. -/
theorem seqNoCount_mod {a b : UInt16} {m n : ℕ} (ha : a.toNat = m % 32768)
    (hb : b.toNat = n % 32768) (hmn : m ≤ n) (hlt : n - m < 32768) :
    (seqNoCount a b).toNat = n - m := by
  rw [toNat_seqNoCount (by omega) (by omega), ha, hb, Cyclic.dist_mod hmn hlt]

/-- The next sequence number. -/
theorem toNat_succ_and_mask {a : UInt16} {n : ℕ} (ha : a.toNat = n % 32768) :
    ((a + 1) &&& SEQ_MASK).toNat = (n + 1) % 32768 := by
  have hmask : SEQ_MASK.toNat = 2 ^ 15 - 1 := rfl
  rw [UInt16.toNat_and, hmask, Nat.and_two_pow_sub_one_eq_mod, UInt16.toNat_add, ha]
  simp

/-- The predecessor of a sequence number. -/
theorem toNat_pred_and_mask {a : UInt16} {n : ℕ} (ha : a.toNat = (n + 1) % 32768) :
    ((a - 1) &&& SEQ_MASK).toNat = n % 32768 := by
  have hmask : SEQ_MASK.toNat = 2 ^ 15 - 1 := rfl
  rw [UInt16.toNat_and, hmask, Nat.and_two_pow_sub_one_eq_mod, UInt16.toNat_sub, ha]
  simp
  omega

end Cs104
end Iec60870
