import Iec60870.Error

/-!
# System parameters

The octet widths of the data unit identifier fields, and their validation.
-/

namespace Iec60870

/-- The zone in which time tags are encoded and decoded. -/
inductive TimeZone
  | utc
  | local
  /-- A fixed offset, in seconds east of UTC. -/
  | fixed (offset : ℤ)
  /-- A named IANA zone. -/
  | named (tz : String)
  deriving DecidableEq, Repr

/-- Specific parameters related to an ASDU. -/
structure Params where
  /-- Octets of the cause of transmission field, 1 or 2. -/
  causeSize : UInt8
  /-- Originator address, on the wire only when `causeSize = 2`. -/
  origAddress : UInt8
  /-- Octets of the common address, 1 or 2. -/
  commonAddrSize : UInt8
  /-- Octets of the information object address, 1, 2 or 3. -/
  infoObjAddrSize : UInt8
  infoObjTimeZone : TimeZone
  /-- Accept and discard octets beyond the announced information objects. -/
  allowTrailingOctets : Bool
  deriving DecidableEq, Repr

/-- `PARAMS_STANDARD_101`: the layout of 101 links. -/
def paramsStandard101 : Params where
  causeSize := 1
  origAddress := 0
  commonAddrSize := 1
  infoObjAddrSize := 2
  infoObjTimeZone := .utc
  allowTrailingOctets := false

/-- The largest configuration: COT 2, CA 2, IOA 3; the layout of 104. -/
def paramsWide : Params where
  causeSize := 2
  origAddress := 0
  commonAddrSize := 2
  infoObjAddrSize := 3
  infoObjTimeZone := .utc
  allowTrailingOctets := false

namespace Params

/-- The field widths are ones the standard allows. -/
def WellFormed (p : Params) : Prop :=
  (1 ≤ p.causeSize ∧ p.causeSize ≤ 2) ∧ (1 ≤ p.commonAddrSize ∧ p.commonAddrSize ≤ 2) ∧
    (1 ≤ p.infoObjAddrSize ∧ p.infoObjAddrSize ≤ 3)

instance (p : Params) : Decidable p.WellFormed :=
  inferInstanceAs (Decidable (_ ∧ _ ∧ _))

/-- `Params::valid`. -/
def valid (p : Params) : Except Error Unit :=
  if p.WellFormed then .ok () else .error .param

/-- Size in octets of the data unit identifier. -/
def identifierSize (p : Params) : ℕ := 2 + p.causeSize.toNat + p.commonAddrSize.toNat

theorem valid_eq_ok {p : Params} : p.valid = .ok () ↔ p.WellFormed := by
  unfold valid
  split <;> simp_all

/-- A valid identifier takes four to six octets. -/
theorem WellFormed.identifierSize_bounds {p : Params} (h : p.WellFormed) :
    4 ≤ p.identifierSize ∧ p.identifierSize ≤ 6 := by
  obtain ⟨⟨h1, h2⟩, ⟨h3, h4⟩, -⟩ := h
  simp only [UInt8.le_iff_toNat_le] at h1 h2 h3 h4
  simp only [identifierSize]
  have : (1 : UInt8).toNat = 1 := rfl
  have : (2 : UInt8).toNat = 2 := rfl
  omega

theorem paramsWide_wellFormed : paramsWide.WellFormed := by decide

end Params

end Iec60870
