import Iec60870.Asdu.Elements
import Iec60870.Cs103.Client
import Iec60870.Cs103.DayTag
import Iec60870.Lib.Utf8

/-!
# The application layer of 103

The messages of 103 carry a type, a cause and a common address of one octet each, and
name their object by a function type and an information number.  The getters decode
what a device sends, the builders write what it is sent.

An ASDU knows the zone its time tags are read in.  The zone is not on the line: what is
decoded says UTC, until the receiver says otherwise.

## Main definitions

* `Asdu.unmarshalBinary` — an ASDU from its octets.
* `Asdu.onWire` — what is left of an ASDU in its octets.
* `Dpi`, `Measurand` — the information elements.
* `Asdu.getTimeTagged`, ..., `Asdu.getGeneralInterrogation` — the getters.
* `Asdu.timeSync`, `generalInterrogation` — the builders.

## Main results

* `Asdu.codec` — **the octets of an ASDU and the ASDU of some octets are each other's.**
* `Measurand.parse_value_iff` — a value survives exactly when 13 bits hold it.
-/

namespace Iec60870
namespace Cs103

open LittleEndian (ofOctets octets)

/-! ### Identifiers -/

namespace TypeId

/-- Time-tagged message. -/
def TIME_TAGGED : UInt8 := 1

/-- Time-tagged message with relative time. -/
def TIME_TAGGED_REL : UInt8 := 2

/-- Measurands I, up to four values. -/
def MEASURANDS_I : UInt8 := 3

/-- Identification message. -/
def IDENTIFICATION : UInt8 := 5

/-- Time synchronization, in both directions. -/
def TIME_SYNC : UInt8 := 6

/-- General interrogation, control direction. -/
def GENERAL_INTERROGATION : UInt8 := 7

/-- End of general interrogation. -/
def GI_TERMINATION : UInt8 := 8

/-- Measurands II, up to nine values. -/
def MEASURANDS_II : UInt8 := 9

end TypeId

namespace Cause

/-- Time synchronization, both directions. -/
def TIME_SYNC : UInt8 := 8

/-- General interrogation. -/
def GI : UInt8 := 9

end Cause

/-- The function type of the system messages. -/
def fun_GLOBAL : UInt8 := 255

/-! ### Information elements -/

/-- Double-point information, two bits: the state of a point, or that it has none. -/
inductive Dpi
  | transient
  | off
  | on
  | unknown
  deriving DecidableEq, Repr

namespace Dpi

/-- `Dpi::parse`: the low two bits of an octet. -/
def parse (b : UInt8) : Dpi :=
  match (b &&& 0x03).toNat with
  | 0 => .transient
  | 1 => .off
  | 2 => .on
  | _ => .unknown

/-- `Dpi::value`. -/
def value : Dpi → UInt8
  | .transient => 0
  | .off => 1
  | .on => 2
  | .unknown => 3

@[simp] theorem parse_value (d : Dpi) : parse d.value = d := by cases d <;> rfl

end Dpi

/-- A measurand: 13 bits, signed, with overflow and error flags. -/
@[ext]
structure Measurand where
  val : Int16
  overflow : Bool
  invalid : Bool
  deriving DecidableEq

namespace Measurand

/-- `Measurand::parse`: the value is in bits 3 to 15, with its sign. -/
def parse (u : UInt16) : Measurand where
  val := u.toInt16 >>> 3
  overflow := u &&& 0x01 != 0
  invalid := u &&& 0x02 != 0

/-- `Measurand::value`. -/
def value (m : Measurand) : UInt16 :=
  let u := m.val.toUInt16 <<< 3
  let u := if m.overflow then u ||| 0x01 else u
  if m.invalid then u ||| 0x02 else u

/-- The values that 13 bits hold, the sign among them. -/
def InRange (m : Measurand) : Prop := -4096 ≤ m.val.toInt ∧ m.val.toInt ≤ 4095

/-- What `u` says as a signed number. -/
theorem toInt_toInt16 (u : UInt16) :
    u.toInt16.toInt = if u.toNat < 32768 then (u.toNat : ℤ) else u.toNat - 65536 := by
  have hlt := u.toNat_lt
  rw [← Int16.toInt_toBitVec]
  show u.toBitVec.toInt = _
  rw [BitVec.toInt_eq_toNat_cond]
  simp only [UInt16.toNat_toBitVec]
  split_ifs <;> omega

theorem toInt_val_parse (u : UInt16) : (parse u).val.toInt = u.toInt16.toInt / 8 := by
  have h : (u.toInt16 >>> 3).toInt = u.toInt16.toInt >>> (3 : ℕ) := by
    rw [← Int16.toInt_toBitVec, Int16.toBitVec_shiftRight, BitVec.toInt_sshiftRight']
    rfl
  show (u.toInt16 >>> 3).toInt = _
  rw [h, Int.shiftRight_eq_div_pow]
  rfl

theorem overflow_parse (u : UInt16) : (parse u).overflow = u.toNat.testBit 0 := by
  have h : (u &&& 1).toNat = u.toNat % 2 := by
    rw [UInt16.toNat_and]
    exact Nat.and_one_is_mod _
  have hzero : u &&& 1 = 0 ↔ u.toNat % 2 = 0 := by
    rw [← UInt16.toNat_inj, h]
    rfl
  show (u &&& 1 != 0) = _
  rw [Nat.testBit_zero, Bool.eq_iff_iff, bne_iff_ne, ne_eq, hzero]
  simp

theorem invalid_parse (u : UInt16) : (parse u).invalid = u.toNat.testBit 1 := by
  have h : (u &&& 2).toNat = (u.toNat.testBit 1).toNat * 2 := by
    rw [UInt16.toNat_and]
    exact Nat.and_two_pow _ 1
  have hzero : u &&& 2 = 0 ↔ (u.toNat.testBit 1).toNat * 2 = 0 := by
    rw [← UInt16.toNat_inj, h]
    rfl
  show (u &&& 2 != 0) = _
  rw [Bool.eq_iff_iff, bne_iff_ne, ne_eq, hzero]
  cases u.toNat.testBit 1 <;> simp

/-- The flags are put below the value. -/
theorem toNat_value (m : Measurand) :
    m.value.toNat =
      8 * m.val.toUInt16.toNat % 65536 + m.overflow.toNat + 2 * m.invalid.toNat := by
  have hshift : (m.val.toUInt16 <<< 3).toNat = 8 * (m.val.toUInt16.toNat % 8192) := by
    rw [UInt16.toNat_shiftLeft]
    show m.val.toUInt16.toNat <<< 3 % 65536 = _
    rw [Nat.shiftLeft_eq]
    omega
  have hor : ∀ k < 8, 8 * (m.val.toUInt16.toNat % 8192) ||| k =
      8 * (m.val.toUInt16.toNat % 8192) + k := fun k hk =>
    (Nat.two_pow_add_eq_or_of_lt (i := 3) hk _).symm
  have hmod : 8 * m.val.toUInt16.toNat % 65536 = 8 * (m.val.toUInt16.toNat % 8192) := by omega
  rw [hmod]
  unfold value
  cases m.overflow <;> cases m.invalid
  · simpa using hshift
  · simpa [hshift] using hor 2 (by decide)
  · simpa [hshift] using hor 1 (by decide)
  · simpa [hshift, Nat.or_assoc] using hor 3 (by decide)

theorem toInt_toUInt16 (v : Int16) : (v.toUInt16.toNat : ℤ) = v.toInt % 65536 := by
  have hlt := v.toUInt16.toNat_lt
  have h : v.toInt = v.toUInt16.toBitVec.toInt := rfl
  rw [h, BitVec.toInt_eq_toNat_cond, UInt16.toNat_toBitVec]
  split_ifs <;> omega

/-- **A measurand is read back exactly when its value fits 13 bits**; the flags
always are. -/
theorem parse_value_iff (m : Measurand) : parse m.value = m ↔ m.InRange := by
  have hnat := m.toNat_value
  have hval := toInt_toUInt16 m.val
  have hlow := m.val.le_toInt
  have hhigh := m.val.toInt_lt
  have hov := m.overflow.toNat_lt
  have hinv := m.invalid.toNat_lt
  have hparse := toInt_val_parse m.value
  rw [toInt_toInt16] at hparse
  have hflags : (parse m.value).overflow = m.overflow ∧ (parse m.value).invalid = m.invalid := by
    rw [overflow_parse, invalid_parse, hnat, Nat.testBit_zero, Nat.testBit_succ, Nat.testBit_zero]
    constructor
    · cases m.overflow <;> simp <;> omega
    · cases m.invalid <;> simp <;> omega
  have heq : parse m.value = m ↔ (parse m.value).val.toInt = m.val.toInt := by
    constructor
    · intro h
      rw [h]
    · intro h
      exact Measurand.ext (Int16.toInt_inj.mp h) hflags.1 hflags.2
  rw [heq, hparse]
  unfold InRange
  split_ifs <;> omega

end Measurand

/-! ### Contents -/

/-- Content of a time-tagged message, with or without relative time. -/
structure TimeTaggedInfo where
  fun' : UInt8
  inf : UInt8
  dpi : Dpi
  relativeTime : UInt16
  faultNumber : UInt16
  /-- The time of the event, as read even when it is marked invalid. -/
  time : Option DateTime
  timeFlags : TimeTagFlags
  /-- Supplementary information: the identifier of a command that is acknowledged. -/
  sin : UInt8
  deriving DecidableEq

/-- Content of a measurands message, I or II: the type says which. -/
structure MeasurandsInfo where
  fun' : UInt8
  inf : UInt8
  values : List Measurand
  deriving DecidableEq

/-- Content of an identification message: the text as it is shown, and what
follows it, untouched. -/
structure IdentificationInfo where
  fun' : UInt8
  inf : UInt8
  col : UInt8
  ascii : String
  extra : Octets
  deriving DecidableEq, Repr

namespace Asdu

/-- The qualifier of the messages with a single object. -/
def vsqOne : VariableStruct := ⟨1, true⟩

/-- `Asdu::new`. -/
def new (typeId : UInt8) (variable' : VariableStruct) (coa commonAddr : UInt8) : Asdu :=
  ⟨typeId, variable', coa, commonAddr, [], .utc⟩

/-- `Asdu::append`. -/
def append (a : Asdu) (b : Octets) : Asdu := { a with infoObj := a.infoObj ++ b }

/-- `Asdu::with_time_zone`: read its time tags in `zone`, which no octet of it
carries. -/
def withTimeZone (a : Asdu) (zone : TimeZone) : Asdu := { a with timeZone := zone }

/-- `Asdu::unmarshal_binary`: the four octets of the identifier, then whatever
follows.  The zone is not on the wire and is UTC. -/
def unmarshalBinary : Octets → Except Error Asdu
  | t :: v :: c :: ca :: infoObj => .ok ⟨t, .parse v, c, ca, infoObj, .utc⟩
  | _ => .error .unexpectedEof

/-- `Asdu::need`: the information object octets, if there are so many. -/
def need (a : Asdu) (n : ℕ) : Except Error Octets :=
  if a.infoObj.length < n then .error .unexpectedEof else .ok a.infoObj

/-- `Asdu::get_time_tagged`: ASDU 1, or ASDU 2 with relative time. -/
def getTimeTagged (a : Asdu) (host : Host) : Except Error TimeTaggedInfo := do
  let rel ←
    if a.typeId = TypeId.TIME_TAGGED then .ok false
    else if a.typeId = TypeId.TIME_TAGGED_REL then .ok true
    else .error .typeIdNotMatch
  let b ← a.need (if rel then 12 else 8)
  let at' (i : ℕ) : UInt8 := b.getD i 0
  let rest := b.drop (if rel then 7 else 3)
  let (time, timeFlags) := parseCp32time2aTag host rest a.timeZone
  return {
    fun' := at' 0
    inf := at' 1
    dpi := .parse (at' 2)
    relativeTime := if rel then ofOctets (at' 3) (at' 4) else 0
    faultNumber := if rel then ofOctets (at' 5) (at' 6) else 0
    time
    timeFlags
    sin := rest.getD 4 0 }

/-- `Asdu::get_measurands`: ASDU 3 or 9, two octets for each of the announced
values. -/
def getMeasurands (a : Asdu) : Except Error MeasurandsInfo := do
  if a.typeId ≠ TypeId.MEASURANDS_I ∧ a.typeId ≠ TypeId.MEASURANDS_II then
    throw .typeIdNotMatch
  let n := a.variable'.number.toNat
  let b ← a.need (2 + 2 * n)
  return {
    fun' := b.getD 0 0
    inf := b.getD 1 0
    values := (List.range n).map fun i =>
      .parse (ofOctets (b.getD (2 + 2 * i) 0) (b.getD (3 + 2 * i) 0)) }

/-- The characters that pad a text: NUL and the blank. -/
def isPadding (c : Char) : Bool := c == Char.ofNat 0 || c == Char.ofNat 0x20

/-- `Asdu::get_identification`: ASDU 5.  The octets of the text need not be well formed,
and what pads it at its end is not text. -/
def getIdentification (a : Asdu) : Except Error IdentificationInfo := do
  if a.typeId ≠ TypeId.IDENTIFICATION then throw .typeIdNotMatch
  let b ← a.need 3
  let rest := b.drop 3
  return {
    fun' := b.getD 0 0
    inf := b.getD 1 0
    col := b.getD 2 0
    ascii := .ofList ((Utf8.lossy (rest.take 8)).rdropWhile isPadding)
    extra := rest.drop 8 }

/-- `Asdu::get_time_sync`: ASDU 6, whose time is read in the zone of the ASDU. -/
def getTimeSync (a : Asdu) (host : Host) : Except Error (Option DateTime) := do
  if a.typeId ≠ TypeId.TIME_SYNC then throw .typeIdNotMatch
  let b ← a.need 9
  return parseCp56time2a host (b.drop 2) a.timeZone

/-- The scan number of an ASDU of the given type. -/
def scanNumber (a : Asdu) (typeId : UInt8) : Except Error UInt8 := do
  if a.typeId ≠ typeId then throw .typeIdNotMatch
  let b ← a.need 3
  return b.getD 2 0

/-- `Asdu::get_gi_termination`: the scan number of the completed interrogation. -/
def getGiTermination (a : Asdu) : Except Error UInt8 := a.scanNumber TypeId.GI_TERMINATION

/-- `Asdu::get_general_interrogation`: the scan number of an ASDU 7. -/
def getGeneralInterrogation (a : Asdu) : Except Error UInt8 :=
  a.scanNumber TypeId.GENERAL_INTERROGATION

/-- `Asdu::time_sync`: the time is written in `zone`, and the ASDU keeps the zone
to read it back. -/
def timeSync (commonAddr : UInt8) (t : DateTime) (host : Host) (zone : TimeZone) : Asdu :=
  (((new TypeId.TIME_SYNC vsqOne Cause.TIME_SYNC commonAddr).withTimeZone zone).append
    [fun_GLOBAL, 0]).append (cp56time2a host (some t) zone)

/-- `Asdu::general_interrogation`. -/
def generalInterrogation (commonAddr scn : UInt8) : Asdu :=
  (new TypeId.GENERAL_INTERROGATION vsqOne Cause.GI commonAddr).append [fun_GLOBAL, 0, scn]

/-! ### The octets of an ASDU -/

variable {a : Asdu} {raw : Octets}

theorem marshalBinary_eq_ok :
    a.marshalBinary = .ok raw ↔
      a.typeId ≠ 0 ∧ a.coa ≠ 0 ∧ IDENTIFIER_SIZE + a.infoObj.length ≤ ASDU_SIZE_MAX ∧
        raw = a.typeId :: a.variable'.value :: a.coa :: a.commonAddr :: a.infoObj := by
  unfold marshalBinary
  split_ifs with htype hcoa hlen
  · simp [htype]
  · simp [hcoa]
  · simp [Nat.not_le.mpr hlen]
  · simp only [Except.ok.injEq, List.cons_append, List.nil_append]
    constructor
    · intro h
      exact ⟨htype, hcoa, Nat.not_lt.mp hlen, h.symm⟩
    · intro h
      exact h.2.2.2.symm

theorem unmarshalBinary_eq_ok :
    unmarshalBinary raw = .ok a ↔
      (∃ v, raw = a.typeId :: v :: a.coa :: a.commonAddr :: a.infoObj ∧ a.variable' = .parse v) ∧
        a.timeZone = .utc := by
  constructor
  · intro h
    unfold unmarshalBinary at h
    split at h
    · cases h
      exact ⟨⟨_, rfl, rfl⟩, rfl⟩
    · cases h
  · rintro ⟨⟨v, rfl, hv⟩, hzone⟩
    obtain ⟨t, vsq, c, ca, infoObj, zone⟩ := a
    cases hv
    cases hzone
    rfl

/-- Only a truncated identifier is refused. -/
theorem unmarshalBinary_eq_error :
    unmarshalBinary raw = .error .unexpectedEof ↔ raw.length < IDENTIFIER_SIZE := by
  unfold unmarshalBinary IDENTIFIER_SIZE
  split
  · simp
  · next hshort =>
    refine iff_of_true rfl ?_
    match raw, hshort with
    | [], _ => simp
    | [_], _ => simp
    | [_, _], _ => simp
    | [_, _, _], _ => simp
    | t :: v :: c :: ca :: infoObj, hshort => exact absurd rfl (hshort t v c ca infoObj)

/-- What is left of an ASDU in its octets: seven bits of its count, and no zone. -/
def onWire (a : Asdu) : Asdu :=
  { a with variable' := .parse a.variable'.value, timeZone := .utc }

/-- Nothing is lost exactly when the count fits and the times are in UTC. -/
theorem onWire_eq_iff (a : Asdu) :
    a.onWire = a ↔ a.variable'.number ≤ 127 ∧ a.timeZone = .utc := by
  rw [← VariableStruct.parse_value_iff]
  obtain ⟨t, vsq, c, ca, infoObj, zone⟩ := a
  simp [onWire, eq_comm (a := zone)]

/-- An ASDU is read from its octets as what they hold of it. -/
theorem unmarshalBinary_marshalBinary (h : a.marshalBinary = .ok raw) :
    unmarshalBinary raw = .ok a.onWire := by
  obtain ⟨-, -, -, rfl⟩ := marshalBinary_eq_ok.mp h
  rfl

/-- **The octets of an ASDU are decoded to what they hold of it**, which is the ASDU
itself exactly when its count fits seven bits and its times are in UTC.  Whatever octets
an ASDU was decoded from are its octets again unless it has no type, no cause or is too
long to be sent; only a truncated identifier is refused. -/
theorem codec :
    (∀ a raw, marshalBinary a = .ok raw → unmarshalBinary raw = .ok a.onWire ∧
      (unmarshalBinary raw = .ok a ↔ a.variable'.number ≤ 127 ∧ a.timeZone = .utc)) ∧
    (∀ raw a, unmarshalBinary raw = .ok a →
      (marshalBinary a = .ok raw ↔
        a.typeId ≠ 0 ∧ a.coa ≠ 0 ∧ raw.length ≤ ASDU_SIZE_MAX)) ∧
    ∀ raw, unmarshalBinary raw = .error .unexpectedEof ↔ raw.length < IDENTIFIER_SIZE := by
  refine ⟨fun a raw h => ?_, fun raw a h => ?_, fun raw => unmarshalBinary_eq_error⟩
  · have hread := unmarshalBinary_marshalBinary h
    refine ⟨hread, ?_⟩
    rw [hread, Except.ok.injEq]
    exact a.onWire_eq_iff
  · obtain ⟨⟨v, rfl, hv⟩, -⟩ := unmarshalBinary_eq_ok.mp h
    rw [marshalBinary_eq_ok, hv, VariableStruct.value_parse]
    simp only [List.length_cons, and_true, IDENTIFIER_SIZE]
    rw [show 4 + a.infoObj.length = a.infoObj.length + 1 + 1 + 1 + 1 by omega]

/-! ### What is built is read back -/

/-- A time synchronization is read to the millisecond. -/
theorem getTimeSync_timeSync {host : Host} {zone : TimeZone} {clock : ZoneClock}
    (hz : host.Exact zone clock.offset) {t : DateTime} (ht : (zone.reading host t).InCentury)
    (commonAddr : UInt8) :
    (timeSync commonAddr t host zone).getTimeSync host = .ok (some t.truncated) := by
  have hgood : cp56time2a host (some t) zone = cp56time2aTag host (some t) .GOOD zone := by
    show _ = [_, _, (zone.reading host t).minute.toUInt8 ||| TimeTagFlags.minutesBits .GOOD,
      _, _, _, _]
    rw [show TimeTagFlags.minutesBits .GOOD = 0 from rfl, UInt8.or_zero]
    rfl
  have hlength : (cp56time2a host (some t) zone).length = CP56TIME2A_SIZE := rfl
  obtain ⟨-, -, -, hminute, -⟩ := (zone.reading host t).valid
  have hvalid : ¬(cp56time2a host (some t) zone).getD 2 0 &&& 0x80 = 0x80 := by
    rw [hgood, getD_cp56time2aTag]
    exact mt (invalid_minutes .GOOD hminute).mp Bool.false_ne_true
  have hparse : parseCp56time2a host (cp56time2a host (some t) zone) zone = some t.truncated := by
    rw [parseCp56time2a, if_neg (not_or.mpr ⟨by rw [hlength]; exact Nat.lt_irrefl _, hvalid⟩),
      hgood, TimeZone.decodeCp56_of_exact hz ht]
  exact congrArg Except.ok hparse

theorem getGeneralInterrogation_generalInterrogation (commonAddr scn : UInt8) :
    (generalInterrogation commonAddr scn).getGeneralInterrogation = .ok scn := rfl

end Asdu

end Cs103
end Iec60870
