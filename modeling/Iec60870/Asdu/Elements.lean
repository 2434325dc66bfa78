import Iec60870.Asdu.Codec
import Iec60870.Asdu.TimeTag
import Iec60870.Lib.Cursor

/-!
# Information elements

Values, quality descriptors and qualifiers, with the encoder that appends them to
a payload and the reader that takes them from one.  An encoder method is given as
the octets it appends.  Newtypes around one octet are their octet, and a short
float is its bit pattern.

## Main results

* `infoObjAddr_yields` and its companions — each element is read back from its
  octets.
* `takes_infoObjAddr` and its companions — each reader takes a fixed number of
  octets.
-/

namespace Iec60870

/-! ### Elements -/

/-- Information object address. -/
abbrev InfoObjAddr := UInt32

/-- Zero: the information object address is irrelevant. -/
def INFO_OBJ_ADDR_IRRELEVANT : InfoObjAddr := 0

/-- A short floating point number, by its bits. -/
structure F32 where
  bits : UInt32
  deriving DecidableEq, Repr

/-- Double-point information, two bits: a switch is on or off, or on its way, or
its state is not known. -/
inductive DoublePoint
  | indeterminateOrIntermediate
  | determinedOff
  | determinedOn
  | indeterminate
  deriving DecidableEq, Repr

/-- `DoublePoint::value`. -/
def DoublePoint.value : DoublePoint → UInt8
  | .indeterminateOrIntermediate => 0
  | .determinedOff => 1
  | .determinedOn => 2
  | .indeterminate => 3

/-- `DoublePoint::parse`. -/
def DoublePoint.parse (b : UInt8) : DoublePoint :=
  if b &&& 0x03 = 0 then .indeterminateOrIntermediate
  else if b &&& 0x03 = 1 then .determinedOff
  else if b &&& 0x03 = 2 then .determinedOn
  else .indeterminate

/-- Quality descriptor flags. -/
abbrev QualityDescriptor := UInt8

/-- No flags: the value is good. -/
def QualityDescriptor.GOOD : QualityDescriptor := 0

/-- Quality descriptor for protection equipment. -/
abbrev QualityDescriptorProtection := UInt8

/-- Measured value with transient state indication, seven bits and a flag. -/
structure StepPosition where
  val : Int8
  hasTransient : Bool
  deriving DecidableEq, Repr

namespace StepPosition

/-- `StepPosition::value`. -/
def value (s : StepPosition) : UInt8 :=
  let p := s.val.toUInt8 &&& 0x7f
  if s.hasTransient then p ||| 0x80 else p

/-- `StepPosition::parse`, sign-extending the seven bits. -/
def parse (b : UInt8) : StepPosition where
  val :=
    let raw := b &&& 0x7f
    if raw &&& 0x40 = 0 then raw.toInt8 else (raw ||| 0x80).toInt8
  hasTransient := b &&& 0x80 != 0

end StepPosition

/-- A 16-bit normalized value. -/
abbrev Normalize := Int16

/-- Binary counter reading, with the sequence number and the flags beside it. -/
structure BinaryCounterReading where
  counterReading : Int32
  /-- Sequence number, five bits. -/
  seqNumber : UInt8
  hasCarry : Bool
  isAdjusted : Bool
  isInvalid : Bool
  deriving DecidableEq, Repr

/-- Single event of protection equipment. -/
inductive SingleEvent
  | indeterminateOrIntermediate
  | determinedOff
  | determinedOn
  | indeterminate
  deriving DecidableEq, Repr

/-- `SingleEvent::value`. -/
def SingleEvent.value : SingleEvent → UInt8
  | .indeterminateOrIntermediate => 0
  | .determinedOff => 1
  | .determinedOn => 2
  | .indeterminate => 3

/-- `SingleEvent::parse`. -/
def SingleEvent.parse (b : UInt8) : SingleEvent :=
  if b &&& 0x03 = 0 then .indeterminateOrIntermediate
  else if b &&& 0x03 = 1 then .determinedOff
  else if b &&& 0x03 = 2 then .determinedOn
  else .indeterminate

/-- Start events of protection equipment, a bit field. -/
abbrev StartEvent := UInt8

/-- Output circuit information of protection equipment, a bit field. -/
abbrev OutputCircuitInfo := UInt8

/-- The fixed test bit pattern of test commands. -/
def FBP_TEST_WORD : UInt16 := 0x55aa

/-- Double command value, two bits, of which only two patterns switch anything. -/
inductive DoubleCommand
  | notAllowed0
  | off
  | on
  | notAllowed3
  deriving DecidableEq, Repr

/-- `DoubleCommand::value`. -/
def DoubleCommand.value : DoubleCommand → UInt8
  | .notAllowed0 => 0
  | .off => 1
  | .on => 2
  | .notAllowed3 => 3

/-- `DoubleCommand::parse`. -/
def DoubleCommand.parse (b : UInt8) : DoubleCommand :=
  if b &&& 0x03 = 0 then .notAllowed0
  else if b &&& 0x03 = 1 then .off
  else if b &&& 0x03 = 2 then .on
  else .notAllowed3

/-- Regulating step command value, two bits, of which only two patterns step
anything. -/
inductive StepCommand
  | notAllowed0
  | stepDown
  | stepUp
  | notAllowed3
  deriving DecidableEq, Repr

/-- `StepCommand::value`. -/
def StepCommand.value : StepCommand → UInt8
  | .notAllowed0 => 0
  | .stepDown => 1
  | .stepUp => 2
  | .notAllowed3 => 3

/-- `StepCommand::parse`. -/
def StepCommand.parse (b : UInt8) : StepCommand :=
  if b &&& 0x03 = 0 then .notAllowed0
  else if b &&& 0x03 = 1 then .stepDown
  else if b &&& 0x03 = 2 then .stepUp
  else .notAllowed3

/-- Cause of initialization with the "local parameters changed" flag. -/
structure CauseOfInitial where
  /-- Why the station initialized, seven bits. -/
  cause : UInt8
  isLocalChange : Bool
  deriving DecidableEq, Repr

/-- `CauseOfInitial::parse`. -/
def CauseOfInitial.parse (b : UInt8) : CauseOfInitial := ⟨b &&& 0x7f, b &&& 0x80 == 0x80⟩

/-- `CauseOfInitial::value`. -/
def CauseOfInitial.value (c : CauseOfInitial) : UInt8 :=
  if c.isLocalChange then c.cause ||| 0x80 else c.cause

/-- Qualifier of interrogation. -/
abbrev QualifierOfInterrogation := UInt8

/-- Qualifier of counter interrogation command: which counters, and whether to
freeze or reset them. -/
structure QualifierCountCall where
  /-- Which counter group is requested, bits 0 to 5. -/
  request : UInt8
  /-- Whether and how the counters are frozen, bits 6 and 7. -/
  freeze : UInt8
  deriving DecidableEq, Repr

/-- `QualifierCountCall::parse`. -/
def QualifierCountCall.parse (b : UInt8) : QualifierCountCall := ⟨b &&& 0x3f, b &&& 0xc0⟩

/-- `QualifierCountCall::value`. -/
def QualifierCountCall.value (q : QualifierCountCall) : UInt8 :=
  (q.request &&& 0x3f) ||| (q.freeze &&& 0xc0)

/-- Qualifier of parameter of measured values. -/
structure QualifierOfParameterMv where
  /-- Which parameter this is, six bits. -/
  category : UInt8
  isChange : Bool
  isInOperation : Bool
  deriving DecidableEq, Repr

/-- `QualifierOfParameterMv::parse`. -/
def QualifierOfParameterMv.parse (b : UInt8) : QualifierOfParameterMv :=
  ⟨b &&& 0x3f, b &&& 0x40 == 0x40, b &&& 0x80 == 0x80⟩

/-- `QualifierOfParameterMv::value`. -/
def QualifierOfParameterMv.value (q : QualifierOfParameterMv) : UInt8 :=
  let v := q.category &&& 0x3f
  let v := if q.isChange then v ||| 0x40 else v
  if q.isInOperation then v ||| 0x80 else v

/-- Qualifier of parameter activation. -/
abbrev QualifierOfParameterAct := UInt8

/-- Qualifier of command: the kind of output, and whether the command selects or
executes. -/
structure QualifierOfCommand where
  /-- Pulse behaviour of the output, five bits. -/
  qual : UInt8
  /-- Selects rather than executes. -/
  inSelect : Bool
  deriving DecidableEq, Repr

/-- `QualifierOfCommand::parse`. -/
def QualifierOfCommand.parse (b : UInt8) : QualifierOfCommand :=
  ⟨(b >>> 2) &&& 0x1f, b &&& 0x80 == 0x80⟩

/-- `QualifierOfCommand::value`, leaving the value bits clear. -/
def QualifierOfCommand.value (q : QualifierOfCommand) : UInt8 :=
  let v := (q.qual &&& 0x1f) <<< 2
  if q.inSelect then v ||| 0x80 else v

/-- Qualifier of reset process command. -/
abbrev QualifierOfResetProcessCmd := UInt8

/-- Qualifier of a set-point command, which selects or executes. -/
structure QualifierOfSetpointCmd where
  /-- Implementation-defined, seven bits. -/
  qual : UInt8
  inSelect : Bool
  deriving DecidableEq, Repr

/-- `QualifierOfSetpointCmd::parse`. -/
def QualifierOfSetpointCmd.parse (b : UInt8) : QualifierOfSetpointCmd :=
  ⟨b &&& 0x7f, b &&& 0x80 == 0x80⟩

/-- `QualifierOfSetpointCmd::value`. -/
def QualifierOfSetpointCmd.value (q : QualifierOfSetpointCmd) : UInt8 :=
  let v := q.qual &&& 0x7f
  if q.inSelect then v ||| 0x80 else v

/-- Status and status change detection, 32 bits. -/
abbrev StatusAndStatusChangeDetection := UInt32

/-! ### Appending elements -/

namespace Encoder

/-- `Encoder::byte`. -/
def byte (b : UInt8) : Octets := [b]

/-- `Encoder::u16`. -/
def u16 (v : UInt16) : Octets := LittleEndian.encode 2 v.toNat

/-- `Encoder::info_obj_addr`: in the configured width. -/
def infoObjAddr (p : Params) (addr : InfoObjAddr) : Except Error Octets :=
  if p.infoObjAddrSize = 1 then
    if addr > 255 then .error .infoObjAddrFit else .ok (LittleEndian.encode 1 addr.toNat)
  else if p.infoObjAddrSize = 2 then
    if addr > 65535 then .error .infoObjAddrFit else .ok (LittleEndian.encode 2 addr.toNat)
  else if p.infoObjAddrSize = 3 then
    if addr > 16777215 then .error .infoObjAddrFit else .ok (LittleEndian.encode 3 addr.toNat)
  else .error .param

/-- `Encoder::length_of_file`: the low 24 bits. -/
def lengthOfFile (n : UInt32) : Octets := LittleEndian.encode 3 n.toNat

/-- `Encoder::normalize`. -/
def normalize (n : Normalize) : Octets := u16 n.toUInt16

/-- `Encoder::scaled`. -/
def scaled (v : Int16) : Octets := u16 v.toUInt16

/-- `Encoder::bits_string32`. -/
def bitsString32 (v : UInt32) : Octets := LittleEndian.encode 4 v.toNat

/-- `Encoder::f32`. -/
def f32 (v : F32) : Octets := bitsString32 v.bits

/-- `Encoder::binary_counter_reading`. -/
def binaryCounterReading (v : BinaryCounterReading) : Octets :=
  let flags := v.seqNumber &&& 0x1f
  let flags := if v.hasCarry then flags ||| 0x20 else flags
  let flags := if v.isAdjusted then flags ||| 0x40 else flags
  let flags := if v.isInvalid then flags ||| 0x80 else flags
  bitsString32 v.counterReading.toUInt32 ++ [flags]

/-- `Encoder::scd`. -/
def scd (s : StatusAndStatusChangeDetection) : Octets := bitsString32 s

variable (host : Host) (p : Params)

/-- `Encoder::cp56time2a`, in the zone of the parameters. -/
def cp56time2a (t : Option DateTime) : Octets := Iec60870.cp56time2a host t p.infoObjTimeZone

/-- `Encoder::cp56time2a_tag`. -/
def cp56time2aTag (t : Option DateTime) (flags : TimeTagFlags) : Octets :=
  Iec60870.cp56time2aTag host t flags p.infoObjTimeZone

/-- `Encoder::cp24time2a_tag`. -/
def cp24time2aTag (t : Option DateTime) (flags : TimeTagFlags) : Octets :=
  Iec60870.cp24time2aTag host t flags p.infoObjTimeZone

/-- `Encoder::cp16time2a`. -/
def cp16time2a (msec : UInt16) : Octets := Iec60870.cp16time2a msec

end Encoder

/-! ### Reading elements -/

/-- `InfoObjReader`: reads a payload and keeps the flags of the last time tag. -/
abbrev InfoObjReader (α : Type) := Decoder Error UInt8 TimeTagFlags α

namespace InfoObjReader

/-- `InfoObjReader::take`. -/
def take (n : ℕ) : InfoObjReader Octets := Decoder.take .unexpectedEof n

/-- `InfoObjReader::byte`. -/
def byte : InfoObjReader UInt8 := do
  let b ← take 1
  return b.getD 0 0

/-- `InfoObjReader::u16`. -/
def u16 : InfoObjReader UInt16 := do
  let b ← take 2
  return .ofNat (LittleEndian.decode b)

/-- `InfoObjReader::info_obj_addr`. -/
def infoObjAddr (p : Params) : InfoObjReader InfoObjAddr :=
  if p.infoObjAddrSize = 1 then do
    let b ← take 1
    return .ofNat (LittleEndian.decode b)
  else if p.infoObjAddrSize = 2 then do
    let b ← take 2
    return .ofNat (LittleEndian.decode b)
  else if p.infoObjAddrSize = 3 then do
    let b ← take 3
    return .ofNat (LittleEndian.decode b)
  else Decoder.fail .param

/-- `InfoObjReader::length_of_file`. -/
def lengthOfFile : InfoObjReader UInt32 := do
  let b ← take 3
  return .ofNat (LittleEndian.decode b)

/-- `InfoObjReader::normalize`. -/
def normalize : InfoObjReader Normalize := do
  let v ← u16
  return v.toInt16

/-- `InfoObjReader::scaled`. -/
def scaled : InfoObjReader Int16 := do
  let v ← u16
  return v.toInt16

/-- `InfoObjReader::bits_string32`. -/
def bitsString32 : InfoObjReader UInt32 := do
  let b ← take 4
  return .ofNat (LittleEndian.decode b)

/-- `InfoObjReader::f32`. -/
def f32 : InfoObjReader F32 := do
  let v ← bitsString32
  return ⟨v⟩

/-- `InfoObjReader::binary_counter_reading`. -/
def binaryCounterReading : InfoObjReader BinaryCounterReading := do
  let b ← take 5
  let v : UInt32 := .ofNat (LittleEndian.decode (b.take 4))
  let f := b.getD 4 0
  return {
    counterReading := v.toInt32
    seqNumber := f &&& 0x1f
    hasCarry := f &&& 0x20 == 0x20
    isAdjusted := f &&& 0x40 == 0x40
    isInvalid := f &&& 0x80 == 0x80 }

/-- `InfoObjReader::cp16time2a`. -/
def cp16time2a : InfoObjReader UInt16 := do
  let b ← take CP16TIME2A_SIZE
  return parseCp16time2a b

/-- `InfoObjReader::scd`. -/
def scd : InfoObjReader StatusAndStatusChangeDetection := bitsString32

/-- `InfoObjReader::time_flags`. -/
def timeFlags : InfoObjReader TimeTagFlags := Decoder.note

/-- `InfoObjReader::next_obj_addr`: with SQ only the first object carries its
address. -/
def nextObjAddr (p : Params) (i : ℕ) (isSequence : Bool) (previous : InfoObjAddr) :
    InfoObjReader InfoObjAddr :=
  if !isSequence || i == 0 then infoObjAddr p else return previous + 1

variable (host : Host) (p : Params)

/-- `InfoObjReader::cp56time2a`. -/
def cp56time2a : InfoObjReader (Option DateTime) := do
  let b ← take CP56TIME2A_SIZE
  return parseCp56time2a host b p.infoObjTimeZone

/-- `InfoObjReader::cp56time2a_tag`: keeps the flags. -/
def cp56time2aTag : InfoObjReader (Option DateTime) := do
  let b ← take CP56TIME2A_SIZE
  let (t, flags) := parseCp56time2aTag host b p.infoObjTimeZone
  Decoder.setNote flags
  return t

/-- `InfoObjReader::cp24time2a_tag`: keeps the flags. -/
def cp24time2aTag : InfoObjReader (Option DateTime) := do
  let b ← take CP24TIME2A_SIZE
  let (t, flags) := parseCp24time2aTag host b p.infoObjTimeZone
  Decoder.setNote flags
  return t

end InfoObjReader

/-- `Asdu::reader`, and what is read through it. -/
def Asdu.read {α : Type} (a : Asdu) (m : InfoObjReader α) : Except Error α :=
  (·.1) <$> m.run ⟨a.infoObj, .GOOD⟩

/-! ### Elements read back -/

section yields

open Decoder (Yields)

variable {t : TimeTagFlags}

/-- What is read from a fixed number of octets at once. -/
theorem take_yields {α : Type} (w : Octets) (f : Octets → α) :
    Yields (do let b ← InfoObjReader.take w.length; return f b) w t (f w) t :=
  Yields.map (f := f) (Yields.take Error.unexpectedEof w t)

theorem byte_yields (b : UInt8) : Yields InfoObjReader.byte (Encoder.byte b) t b t :=
  take_yields [b] (·.getD 0 0)

/-- A number of `k` octets, read at once. -/
theorem take_encode_yields {α : Type} (f : ℕ → α) {k n : ℕ} (h : n < 256 ^ k) :
    Yields (do let b ← InfoObjReader.take k; return f (LittleEndian.decode b))
      (LittleEndian.encode k n) t (f n) t := by
  have hy := take_yields (t := t) (LittleEndian.encode k n) (f ∘ LittleEndian.decode)
  rwa [LittleEndian.length_encode, Function.comp_apply, LittleEndian.decode_encode h] at hy

theorem u16_yields (v : UInt16) : Yields InfoObjReader.u16 (Encoder.u16 v) t v t := by
  have h := take_encode_yields (t := t) UInt16.ofNat (k := 2) (n := v.toNat) v.toNat_lt
  rwa [UInt16.ofNat_toNat] at h

theorem bitsString32_yields (v : UInt32) :
    Yields InfoObjReader.bitsString32 (Encoder.bitsString32 v) t v t := by
  have h := take_encode_yields (t := t) UInt32.ofNat (k := 4) (n := v.toNat) v.toNat_lt
  rwa [UInt32.ofNat_toNat] at h

/-- A length of at most 24 bits. -/
theorem lengthOfFile_yields {n : UInt32} (h : n.toNat < 2 ^ 24) :
    Yields InfoObjReader.lengthOfFile (Encoder.lengthOfFile n) t n t := by
  have hy := take_encode_yields (t := t) UInt32.ofNat (k := 3) (n := n.toNat) h
  rwa [UInt32.ofNat_toNat] at hy

theorem scaled_yields (v : Int16) : Yields InfoObjReader.scaled (Encoder.scaled v) t v t := by
  have h := Yields.map (f := UInt16.toInt16) (u16_yields (t := t) v.toUInt16)
  rwa [Int16.toInt16_toUInt16] at h

theorem normalize_yields (v : Normalize) :
    Yields InfoObjReader.normalize (Encoder.normalize v) t v t := scaled_yields v

theorem f32_yields (v : F32) : Yields InfoObjReader.f32 (Encoder.f32 v) t v t :=
  Yields.map (f := F32.mk) (bitsString32_yields v.bits)

theorem cp16time2a_yields (msec : UInt16) :
    Yields InfoObjReader.cp16time2a (Encoder.cp16time2a msec) t msec t := by
  have h := take_yields (t := t) (Encoder.cp16time2a msec) parseCp16time2a
  rwa [Encoder.cp16time2a, parseCp16time2a_cp16time2a] at h

theorem timeFlags_yields (t : TimeTagFlags) : Yields InfoObjReader.timeFlags [] t t t := by
  intro rest
  rfl

/-- The three widths of an address, one by one. -/
theorem Params.WellFormed.infoObjAddrSize_cases {p : Params} (h : p.WellFormed) :
    p.infoObjAddrSize = 1 ∨ p.infoObjAddrSize = 2 ∨ p.infoObjAddrSize = 3 := by
  have hall : ∀ b : UInt8, 1 ≤ b ∧ b ≤ 3 → b = 1 ∨ b = 2 ∨ b = 3 := by decide +kernel
  exact hall _ h.2.2

/-- The address fits the configured width. -/
def Params.FitsAddr (p : Params) (addr : InfoObjAddr) : Prop :=
  addr.toNat < 256 ^ p.infoObjAddrSize.toNat

instance (p : Params) (addr : InfoObjAddr) : Decidable (p.FitsAddr addr) :=
  inferInstanceAs (Decidable (_ < _))

/-- An address is written when it fits, in as many octets as configured. -/
theorem encoder_infoObjAddr {p : Params} (hw : p.WellFormed) (addr : InfoObjAddr) :
    Encoder.infoObjAddr p addr =
      if p.FitsAddr addr then .ok (LittleEndian.encode p.infoObjAddrSize.toNat addr.toNat)
      else .error .infoObjAddrFit := by
  have hgt (n : UInt32) : (addr > n) ↔ ¬addr.toNat < n.toNat + 1 := by
    rw [gt_iff_lt, UInt32.lt_iff_toNat_lt]
    omega
  obtain ⟨c, o, s, i, z, tr⟩ := p
  obtain h | h | h := hw.infoObjAddrSize_cases <;> dsimp only at h <;> subst h
  all_goals
    unfold Encoder.infoObjAddr
    dsimp only
  · rw [if_pos rfl, if_congr (hgt 255) rfl rfl, ite_not]
    rfl
  · rw [if_neg (by decide), if_pos rfl, if_congr (hgt 65535) rfl rfl, ite_not]
    rfl
  · rw [if_neg (by decide), if_neg (by decide), if_pos rfl, if_congr (hgt 16777215) rfl rfl,
      ite_not]
    rfl

theorem reader_infoObjAddr {p : Params} (hw : p.WellFormed) :
    InfoObjReader.infoObjAddr p = (do
      let b ← InfoObjReader.take p.infoObjAddrSize.toNat
      return UInt32.ofNat (LittleEndian.decode b)) := by
  unfold InfoObjReader.infoObjAddr
  obtain h | h | h := hw.infoObjAddrSize_cases <;> rw [h]
  · rfl
  · rfl
  · rfl

theorem infoObjAddr_yields {p : Params} (hw : p.WellFormed) {addr : InfoObjAddr} {w : Octets}
    (h : Encoder.infoObjAddr p addr = .ok w) :
    Yields (InfoObjReader.infoObjAddr p) w t addr t := by
  rw [encoder_infoObjAddr hw] at h
  split at h
  · next hfit =>
    cases h
    rw [reader_infoObjAddr hw]
    have hy := take_encode_yields (t := t) UInt32.ofNat hfit
    rwa [UInt32.ofNat_toNat] at hy
  · cases h

/-- A counter reading, with its sequence number reduced to five bits. -/
theorem binaryCounterReading_yields (v : BinaryCounterReading) :
    Yields InfoObjReader.binaryCounterReading (Encoder.binaryCounterReading v) t
      { v with seqNumber := v.seqNumber &&& 0x1f } t := by
  obtain ⟨reading, seq, carry, adjusted, invalid⟩ := v
  have hflags : ∀ seq : UInt8, ∀ carry adjusted invalid,
      let f := (Encoder.binaryCounterReading ⟨0, seq, carry, adjusted, invalid⟩).getD 4 0
      f &&& 0x1f = seq &&& 0x1f ∧ (f &&& 0x20 == 0x20) = carry ∧
        (f &&& 0x40 == 0x40) = adjusted ∧ (f &&& 0x80 == 0x80) = invalid := by
    decide +kernel
  obtain ⟨h1, h2, h3, h4⟩ := hflags seq carry adjusted invalid
  have hreading : LittleEndian.decode
      (LittleEndian.encode 4 reading.toUInt32.toNat) = reading.toUInt32.toNat :=
    LittleEndian.decode_encode reading.toUInt32.toNat_lt
  have hy := take_yields (t := t)
    (Encoder.binaryCounterReading ⟨reading, seq, carry, adjusted, invalid⟩) (fun b =>
      let f := b.getD 4 0
      BinaryCounterReading.mk (UInt32.ofNat (LittleEndian.decode (b.take 4))).toInt32 (f &&& 0x1f)
        (f &&& 0x20 == 0x20) (f &&& 0x40 == 0x40) (f &&& 0x80 == 0x80))
  have htake : (Encoder.binaryCounterReading ⟨reading, seq, carry, adjusted, invalid⟩).take 4 =
      LittleEndian.encode 4 reading.toUInt32.toNat := rfl
  have hlast : (Encoder.binaryCounterReading ⟨reading, seq, carry, adjusted, invalid⟩).getD 4 0 =
      (Encoder.binaryCounterReading ⟨0, seq, carry, adjusted, invalid⟩).getD 4 0 := rfl
  dsimp only at hy
  rw [htake, hreading, UInt32.ofNat_toNat, Int32.toInt32_toUInt32, hlast, h1, h2, h3, h4] at hy
  exact hy

/-- The flags a tag for `tm` carries: no time is an invalid one. -/
def TimeTagFlags.onTag (f : TimeTagFlags) (tm : Option DateTime) : TimeTagFlags :=
  if tm.isSome then f else { f with invalid := true }

section time

variable (host : Host) {p : Params} (hz : p.infoObjTimeZone = .utc)

include hz

theorem cp56time2aTag_yields {tm : Option DateTime} (ht : ∀ t' ∈ tm, DateTime.InCentury t')
    (flags : TimeTagFlags) :
    Yields (InfoObjReader.cp56time2aTag host p) (Encoder.cp56time2aTag host p tm flags) t
      (tm.map DateTime.truncated) (flags.onTag tm) := by
  intro rest
  have htake := Yields.take Error.unexpectedEof (Encoder.cp56time2aTag host p tm flags) t rest
  rw [Encoder.cp56time2aTag, hz, length_cp56time2aTag] at htake
  unfold InfoObjReader.cp56time2aTag
  rw [StateT.run_bind, Encoder.cp56time2aTag, hz, InfoObjReader.take, htake]
  show (let r := parseCp56time2aTag host (cp56time2aTag host tm flags .utc) .utc
    Except.ok (r.1, Cursor.mk rest r.2)) = _
  rw [parseCp56time2aTag_cp56time2aTag host ht]
  rfl

theorem cp56time2a_yields {tm : DateTime} (ht : tm.InCentury) :
    Yields (InfoObjReader.cp56time2a host p) (Encoder.cp56time2a host p (some tm)) t
      (some tm.truncated) t := by
  have h := take_yields (t := t) (Encoder.cp56time2a host p (some tm))
    (fun b => parseCp56time2a host b p.infoObjTimeZone)
  rwa [Encoder.cp56time2a, hz, parseCp56time2a_cp56time2a host ht, ← hz] at h

end time

end yields

/-! ### How much a reader takes -/

section takes

open Decoder (Takes)

theorem takes_take {α : Type} (n : ℕ) (f : Octets → α) :
    Takes n (do let b ← InfoObjReader.take n; return f b) :=
  Takes.map (f := f) (Takes.take Error.unexpectedEof n)

theorem takes_byte : Takes 1 InfoObjReader.byte := takes_take 1 _

theorem takes_u16 : Takes 2 InfoObjReader.u16 := takes_take 2 _

theorem takes_lengthOfFile : Takes 3 InfoObjReader.lengthOfFile := takes_take 3 _

theorem takes_scaled : Takes 2 InfoObjReader.scaled := takes_u16.map

theorem takes_normalize : Takes 2 InfoObjReader.normalize := takes_u16.map

theorem takes_bitsString32 : Takes 4 InfoObjReader.bitsString32 := takes_take 4 _

theorem takes_f32 : Takes 4 InfoObjReader.f32 := takes_bitsString32.map

theorem takes_binaryCounterReading : Takes 5 InfoObjReader.binaryCounterReading := takes_take 5 _

theorem takes_cp16time2a : Takes 2 InfoObjReader.cp16time2a := takes_take 2 _

theorem takes_timeFlags : Takes 0 InfoObjReader.timeFlags := by
  intro c _
  exact ⟨c.note, c.note, rfl⟩

theorem takes_infoObjAddr {p : Params} (hw : p.WellFormed) :
    Takes p.infoObjAddrSize.toNat (InfoObjReader.infoObjAddr p) := by
  rw [reader_infoObjAddr hw]
  exact takes_take _ _

variable (host : Host) (p : Params)

theorem takes_cp56time2a : Takes 7 (InfoObjReader.cp56time2a host p) := takes_take 7 _

theorem takes_cp56time2aTag : Takes 7 (InfoObjReader.cp56time2aTag host p) :=
  Takes.bind (Takes.take Error.unexpectedEof 7) fun _ =>
    Takes.bind (Takes.setNote _) fun _ => Takes.pure _

theorem takes_cp24time2aTag : Takes 3 (InfoObjReader.cp24time2aTag host p) :=
  Takes.bind (Takes.take Error.unexpectedEof 3) fun _ =>
    Takes.bind (Takes.setNote _) fun _ => Takes.pure _

end takes

end Iec60870
