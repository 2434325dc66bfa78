import Iec60870.Asdu.Elements

/-!
# Process information in the monitoring direction

The `M_*` types.  Each family has one builder for its types and one getter that
decodes them all; the two share the loop over the information objects and the
time tag, and differ in the octets of the value.

## Main definitions

* `TaggedTypes`, `Family` — the types of a family with their tags, and how its
  value is written and read.
* `Family.withType`, `Family.get` — the builder and the getter of a family.
* `Asdu.singleWithType`, `Asdu.getSinglePoint` and their companions.
-/

namespace Iec60870

/-! ### The objects of a payload -/

/-- `writes_addr`: the object at index `i` carries its own address. -/
def writesAddr (isSequence : Bool) (i : ℕ) : Bool := !isSequence || i == 0

/-- The address of the object at index `i`, when it carries one. -/
def writeAddr (p : Params) (isSequence : Bool) (i : ℕ) (addr : InfoObjAddr) : Except Error Octets :=
  if writesAddr isSequence i then Encoder.infoObjAddr p addr else .ok []

/-- The loop of the builders: the octets of the objects from index `i` on. -/
def writeObjects {α : Type} (p : Params) (isSequence : Bool) (ioa : α → InfoObjAddr)
    (element : α → Except Error Octets) : ℕ → List α → Except Error Octets
  | _, [] => .ok []
  | i, v :: vs => do
    let addr ← writeAddr p isSequence i (ioa v)
    let octets ← element v
    let rest ← writeObjects p isSequence ioa element (i + 1) vs
    return addr ++ (octets ++ rest)

/-- The loop of the getters: `n` objects from index `i` on, each given its
address. -/
def readObjects {α : Type} (p : Params) (isSequence : Bool) (object : InfoObjAddr → InfoObjReader α) :
    ℕ → ℕ → InfoObjAddr → InfoObjReader (List α)
  | _, 0, _ => return []
  | i, n + 1, previous => do
    let ioa ← InfoObjReader.nextObjAddr p i isSequence previous
    let v ← object ioa
    let vs ← readObjects p isSequence object (i + 1) n ioa
    return v :: vs

/-- `start`: an ASDU for a set of information objects, with the count set. -/
def start (params : Params) (typeId : TypeId) (isSequence : Bool) (coa : CauseOfTransmission)
    (ca : UInt16) (n : ℕ) : Except Error Asdu := do
  Asdu.checkValid params typeId isSequence n
  let u := Asdu.new params (.new typeId ⟨0, isSequence⟩ coa ca)
  u.setVariableNumber n

/-- A builder of the monitoring direction: the objects behind what `start` sets
up. -/
def buildObjects {α : Type} (params : Params) (typeId : TypeId) (isSequence : Bool)
    (coa : CauseOfTransmission) (ca : UInt16) (ioa : α → InfoObjAddr)
    (element : α → Except Error Octets) (infos : List α) : Except Error Asdu := do
  let u ← start params typeId isSequence coa ca infos.length
  let infoObj ← writeObjects params isSequence ioa element 0 infos
  return { u with infoObj }

/-- A getter of the monitoring direction: as many objects as announced. -/
def Asdu.objects {α : Type} (a : Asdu) (object : InfoObjAddr → InfoObjReader α) :
    InfoObjReader (List α) :=
  readObjects a.params a.identifier.variable'.isSequence object 0
    a.identifier.variable'.number.toNat 0

/-! ### Families -/

/-- A value with its address and its time tag. -/
structure Stamped (β : Type) where
  ioa : InfoObjAddr
  value : β
  /-- Ignored by the untagged types. -/
  time : Option DateTime
  timeFlags : TimeTagFlags
  deriving DecidableEq, Repr

/-- The types of a family, by the time tag they carry. -/
structure TaggedTypes where
  untagged : List TypeId
  cp24 : Option TypeId
  cp56 : TypeId

namespace TaggedTypes

variable (ts : TaggedTypes) (host : Host) (p : Params)

/-- The time tag of a type, for a builder. -/
def writeTag (typeId : TypeId) (time : Option DateTime) (flags : TimeTagFlags) :
    Except Error Octets :=
  if typeId ∈ ts.untagged then .ok []
  else if ts.cp24 = some typeId then .ok (Encoder.cp24time2aTag host p time flags)
  else if ts.cp56 = typeId then .ok (Encoder.cp56time2aTag host p time flags)
  else .error .typeIdNotMatch

/-- The time tag of a type, for a getter. -/
def readTag (typeId : TypeId) : InfoObjReader (Option DateTime) :=
  if typeId ∈ ts.untagged then return none
  else if ts.cp24 = some typeId then InfoObjReader.cp24time2aTag host p
  else if ts.cp56 = typeId then InfoObjReader.cp56time2aTag host p
  else Decoder.fail .typeIdNotMatch

end TaggedTypes

/-- A family of types: how its value is written and read, by type. -/
structure Family (β : Type) where
  types : TaggedTypes
  write : TypeId → β → Octets
  read : TypeId → InfoObjReader β

namespace Family

variable {β : Type} (fam : Family β) (host : Host)

/-- The octets of one object behind its address. -/
def element (p : Params) (typeId : TypeId) (v : Stamped β) : Except Error Octets := do
  let tag ← fam.types.writeTag host p typeId v.time v.timeFlags
  return fam.write typeId v.value ++ tag

/-- One object behind its address. -/
def object (p : Params) (typeId : TypeId) (ioa : InfoObjAddr) : InfoObjReader (Stamped β) := do
  let value ← fam.read typeId
  let time ← fam.types.readTag host p typeId
  let timeFlags ← InfoObjReader.timeFlags
  return ⟨ioa, value, time, timeFlags⟩

/-- The builder of a family. -/
def withType (params : Params) (typeId : TypeId) (isSequence : Bool) (coa : CauseOfTransmission)
    (ca : UInt16) (infos : List (Stamped β)) : Except Error Asdu :=
  buildObjects params typeId isSequence coa ca Stamped.ioa (fam.element host params typeId) infos

/-- The getter of a family, through the reader. -/
def objects (a : Asdu) : InfoObjReader (List (Stamped β)) :=
  a.objects (fam.object host a.params a.identifier.typeId)

/-- The getter of a family. -/
def get (a : Asdu) : Except Error (List (Stamped β)) := a.read (fam.objects host a)

end Family

/-! ### Causes -/

/-- `check_untagged_cause`. -/
def checkUntaggedCause (coa : CauseOfTransmission) : Except Error Unit :=
  let c := coa.cause
  if c = .BACKGROUND ∨ c = .SPONTANEOUS ∨ c = .REQUEST ∨ c = .RETURN_INFO_REMOTE ∨
      c = .RETURN_INFO_LOCAL ∨ c.isInterrogation then .ok ()
  else .error .cmdCause

/-- `check_measured_cause`: adds `PERIODIC`. -/
def checkMeasuredCause (coa : CauseOfTransmission) : Except Error Unit :=
  let c := coa.cause
  if c = .PERIODIC ∨ c = .BACKGROUND ∨ c = .SPONTANEOUS ∨ c = .REQUEST ∨
      c = .RETURN_INFO_REMOTE ∨ c = .RETURN_INFO_LOCAL ∨ c.isInterrogation then .ok ()
  else .error .cmdCause

/-- `check_counter_cause`. -/
def checkCounterCause (coa : CauseOfTransmission) : Except Error Unit :=
  if coa.cause = .SPONTANEOUS ∨ coa.cause = .REQUEST ∨ coa.cause.isCounterRequest then .ok ()
  else .error .cmdCause

/-- The cause `bitstring32` permits. -/
def checkBitstringCause (coa : CauseOfTransmission) : Except Error Unit :=
  let c := coa.cause
  if ¬(c = .BACKGROUND ∨ c = .SPONTANEOUS ∨ c = .REQUEST ∨ c.isInterrogation) then
    .error .cmdCause
  else .ok ()

/-- The only cause of the protection equipment types. -/
def checkSpontaneousCause (coa : CauseOfTransmission) : Except Error Unit :=
  if coa.cause ≠ .SPONTANEOUS then .error .cmdCause else .ok ()

/-! ### The values of the families -/

/-- `u8::from` of a point state. -/
def boolOctet (b : Bool) : UInt8 := if b then 1 else 0

/-- The value of `SinglePointInfo`. -/
structure SinglePoint where
  value : Bool
  qds : QualityDescriptor
  deriving DecidableEq, Repr

/-- `M_SP_NA_1`, `M_SP_TA_1`, `M_SP_TB_1`. -/
def Family.singlePoint : Family SinglePoint where
  types := ⟨[.M_SP_NA_1], some .M_SP_TA_1, .M_SP_TB_1⟩
  write _ v := Encoder.byte (boolOctet v.value ||| (v.qds &&& 0xf0))
  read _ := do
    let value ← InfoObjReader.byte
    return ⟨value &&& 0x01 == 0x01, value &&& 0xf0⟩

/-- The value of `DoublePointInfo`. -/
structure DoublePointValue where
  value : DoublePoint
  qds : QualityDescriptor
  deriving DecidableEq, Repr

/-- `M_DP_NA_1`, `M_DP_TA_1`, `M_DP_TB_1`. -/
def Family.doublePoint : Family DoublePointValue where
  types := ⟨[.M_DP_NA_1], some .M_DP_TA_1, .M_DP_TB_1⟩
  write _ v := Encoder.byte (v.value.value ||| (v.qds &&& 0xf0))
  read _ := do
    let value ← InfoObjReader.byte
    return ⟨.parse value, value &&& 0xf0⟩

/-- The value of `StepPositionInfo`. -/
structure StepPositionValue where
  value : StepPosition
  qds : QualityDescriptor
  deriving DecidableEq, Repr

/-- `M_ST_NA_1`, `M_ST_TA_1`, `M_ST_TB_1`. -/
def Family.stepPosition : Family StepPositionValue where
  types := ⟨[.M_ST_NA_1], some .M_ST_TA_1, .M_ST_TB_1⟩
  write _ v := Encoder.byte v.value.value ++ Encoder.byte v.qds
  read _ := do
    let value ← InfoObjReader.byte
    let qds ← InfoObjReader.byte
    return ⟨.parse value, qds⟩

/-- The value of `BitString32Info`. -/
structure BitString32 where
  value : UInt32
  qds : QualityDescriptor
  deriving DecidableEq, Repr

/-- `M_BO_NA_1`, `M_BO_TA_1`, `M_BO_TB_1`. -/
def Family.bitString : Family BitString32 where
  types := ⟨[.M_BO_NA_1], some .M_BO_TA_1, .M_BO_TB_1⟩
  write _ v := Encoder.bitsString32 v.value ++ Encoder.byte v.qds
  read _ := do
    let value ← InfoObjReader.bitsString32
    let qds ← InfoObjReader.byte
    return ⟨value, qds⟩

/-- The value of `MeasuredValueNormalInfo`. -/
structure MeasuredValueNormal where
  value : Normalize
  /-- Not transmitted by `M_ME_ND_1`. -/
  qds : QualityDescriptor
  deriving DecidableEq, Repr

/-- `M_ME_NA_1`, `M_ME_TA_1`, `M_ME_TD_1` and, without quality descriptor,
`M_ME_ND_1`. -/
def Family.normalValue : Family MeasuredValueNormal where
  types := ⟨[.M_ME_NA_1, .M_ME_ND_1], some .M_ME_TA_1, .M_ME_TD_1⟩
  write typeId v :=
    Encoder.normalize v.value ++ (if typeId = .M_ME_ND_1 then [] else Encoder.byte v.qds)
  read typeId := do
    let value ← InfoObjReader.normalize
    let qds ← (if typeId = .M_ME_ND_1 then pure QualityDescriptor.GOOD else InfoObjReader.byte)
    return ⟨value, qds⟩

/-- The value of `MeasuredValueScaledInfo`. -/
structure MeasuredValueScaled where
  value : Int16
  qds : QualityDescriptor
  deriving DecidableEq, Repr

/-- `M_ME_NB_1`, `M_ME_TB_1`, `M_ME_TE_1`. -/
def Family.scaledValue : Family MeasuredValueScaled where
  types := ⟨[.M_ME_NB_1], some .M_ME_TB_1, .M_ME_TE_1⟩
  write _ v := Encoder.scaled v.value ++ Encoder.byte v.qds
  read _ := do
    let value ← InfoObjReader.scaled
    let qds ← InfoObjReader.byte
    return ⟨value, qds⟩

/-- The value of `MeasuredValueFloatInfo`. -/
structure MeasuredValueFloat where
  value : F32
  qds : QualityDescriptor
  deriving DecidableEq, Repr

/-- `M_ME_NC_1`, `M_ME_TC_1`, `M_ME_TF_1`. -/
def Family.floatValue : Family MeasuredValueFloat where
  types := ⟨[.M_ME_NC_1], some .M_ME_TC_1, .M_ME_TF_1⟩
  write _ v := Encoder.f32 v.value ++ Encoder.byte (v.qds &&& 0xf1)
  read _ := do
    let value ← InfoObjReader.f32
    let qds ← InfoObjReader.byte
    return ⟨value, qds &&& 0xf1⟩

/-- `M_IT_NA_1`, `M_IT_TA_1`, `M_IT_TB_1`. -/
def Family.integratedTotal : Family BinaryCounterReading where
  types := ⟨[.M_IT_NA_1], some .M_IT_TA_1, .M_IT_TB_1⟩
  write _ v := Encoder.binaryCounterReading v
  read _ := InfoObjReader.binaryCounterReading

/-- The value of `EventOfProtectionEquipmentInfo`. -/
structure EventOfProtectionEquipment where
  event : SingleEvent
  qdp : QualityDescriptorProtection
  /-- Elapsed time in milliseconds. -/
  msec : UInt16
  deriving DecidableEq, Repr

/-- `M_EP_TA_1`, `M_EP_TD_1`. -/
def Family.protectionEvent : Family EventOfProtectionEquipment where
  types := ⟨[], some .M_EP_TA_1, .M_EP_TD_1⟩
  write _ v := Encoder.byte (v.event.value ||| (v.qdp &&& 0xf8)) ++ Encoder.cp16time2a v.msec
  read _ := do
    let value ← InfoObjReader.byte
    let msec ← InfoObjReader.cp16time2a
    return ⟨.parse value, value &&& 0xf8, msec⟩

/-- The value of `PackedStartEventsOfProtectionEquipmentInfo`, and of
`PackedOutputCircuitInfoInfo`: a bit field, its quality and a relay time. -/
structure PackedProtection where
  bits : UInt8
  qdp : QualityDescriptorProtection
  /-- Relay time in milliseconds. -/
  msec : UInt16
  deriving DecidableEq, Repr

/-- The value of a packed protection type. -/
def Family.packedProtection (types : TaggedTypes) : Family PackedProtection where
  types
  write _ v := Encoder.byte v.bits ++ (Encoder.byte (v.qdp &&& 0xf8) ++ Encoder.cp16time2a v.msec)
  read _ := do
    let bits ← InfoObjReader.byte
    let qdp ← InfoObjReader.byte
    let msec ← InfoObjReader.cp16time2a
    return ⟨bits, qdp &&& 0xf8, msec⟩

/-- `M_EP_TB_1`, `M_EP_TE_1`. -/
def Family.packedStartEvents : Family PackedProtection :=
  .packedProtection ⟨[], some .M_EP_TB_1, .M_EP_TE_1⟩

/-- `M_EP_TC_1`, `M_EP_TF_1`. -/
def Family.packedOutputCircuit : Family PackedProtection :=
  .packedProtection ⟨[], some .M_EP_TC_1, .M_EP_TF_1⟩

/-- `PackedSinglePointWithScdInfo`. -/
structure PackedSinglePointWithScdInfo where
  ioa : InfoObjAddr
  scd : StatusAndStatusChangeDetection
  qds : QualityDescriptor
  deriving DecidableEq, Repr

abbrev SinglePointInfo := Stamped SinglePoint
abbrev DoublePointInfo := Stamped DoublePointValue
abbrev StepPositionInfo := Stamped StepPositionValue
abbrev BitString32Info := Stamped BitString32
abbrev MeasuredValueNormalInfo := Stamped MeasuredValueNormal
abbrev MeasuredValueScaledInfo := Stamped MeasuredValueScaled
abbrev MeasuredValueFloatInfo := Stamped MeasuredValueFloat
abbrev BinaryCounterReadingInfo := Stamped BinaryCounterReading
abbrev EventOfProtectionEquipmentInfo := Stamped EventOfProtectionEquipment
abbrev PackedStartEventsOfProtectionEquipmentInfo := Stamped PackedProtection
abbrev PackedOutputCircuitInfoInfo := Stamped PackedProtection

/-! ### Builders and getters -/

namespace Asdu

section families

variable (host : Host)

/-- `Asdu::single_with_type`. -/
def singleWithType := Family.singlePoint.withType host

/-- `Asdu::get_single_point`. -/
def getSinglePoint := Family.singlePoint.get host

/-- `Asdu::double_with_type`. -/
def doubleWithType := Family.doublePoint.withType host

/-- `Asdu::get_double_point`. -/
def getDoublePoint := Family.doublePoint.get host

/-- `Asdu::step_with_type`. -/
def stepWithType := Family.stepPosition.withType host

/-- `Asdu::get_step_position`. -/
def getStepPosition := Family.stepPosition.get host

/-- `Asdu::bitstring32_with_type`. -/
def bitstring32WithType := Family.bitString.withType host

/-- `Asdu::get_bitstring32`. -/
def getBitstring32 := Family.bitString.get host

/-- `Asdu::measured_value_normal_with_type`. -/
def measuredValueNormalWithType := Family.normalValue.withType host

/-- `Asdu::get_measured_value_normal`. -/
def getMeasuredValueNormal := Family.normalValue.get host

/-- `Asdu::measured_value_scaled_with_type`. -/
def measuredValueScaledWithType := Family.scaledValue.withType host

/-- `Asdu::get_measured_value_scaled`. -/
def getMeasuredValueScaled := Family.scaledValue.get host

/-- `Asdu::measured_value_float_with_type`. -/
def measuredValueFloatWithType := Family.floatValue.withType host

/-- `Asdu::get_measured_value_float`. -/
def getMeasuredValueFloat := Family.floatValue.get host

/-- `Asdu::integrated_totals_with_type`. -/
def integratedTotalsWithType := Family.integratedTotal.withType host

/-- `Asdu::get_integrated_totals`. -/
def getIntegratedTotals := Family.integratedTotal.get host

/-- `Asdu::event_of_protection_equipment_with_type`: never a sequence. -/
def eventOfProtectionEquipmentWithType (params : Params) (typeId : TypeId)
    (coa : CauseOfTransmission) (ca : UInt16) (infos : List EventOfProtectionEquipmentInfo) :
    Except Error Asdu := do
  checkSpontaneousCause coa
  Family.protectionEvent.withType host params typeId false coa ca infos

/-- `Asdu::get_event_of_protection_equipment`. -/
def getEventOfProtectionEquipment := Family.protectionEvent.get host

/-- The builder of a type with exactly one information object. -/
def packedWithType (fam : Family PackedProtection) (params : Params) (typeId : TypeId)
    (coa : CauseOfTransmission) (ca : UInt16) (info : Stamped PackedProtection) :
    Except Error Asdu := do
  checkSpontaneousCause coa
  fam.withType host params typeId false coa ca [info]

/-- The reader of a type with exactly one information object. -/
def packedObject (fam : Family PackedProtection) (a : Asdu) :
    InfoObjReader (Stamped PackedProtection) :=
  if a.identifier.variable'.isSequence ∨ a.identifier.variable'.number ≠ 1 then
    Decoder.fail .infoObjIndexFit
  else do
    let ioa ← InfoObjReader.infoObjAddr a.params
    fam.object host a.params a.identifier.typeId ioa

/-- `Asdu::packed_start_events_with_type`. -/
def packedStartEventsWithType := packedWithType host .packedStartEvents

/-- `Asdu::get_packed_start_events`. -/
def getPackedStartEvents (a : Asdu) := a.read (packedObject host .packedStartEvents a)

/-- `Asdu::packed_output_circuit_info_with_type`. -/
def packedOutputCircuitInfoWithType := packedWithType host .packedOutputCircuit

/-- `Asdu::get_packed_output_circuit_info`. -/
def getPackedOutputCircuitInfo (a : Asdu) := a.read (packedObject host .packedOutputCircuit a)

end families

/-- The octets of `PackedSinglePointWithScdInfo` behind its address. -/
def scdElement (v : PackedSinglePointWithScdInfo) : Except Error Octets :=
  .ok (Encoder.scd v.scd ++ Encoder.byte v.qds)

/-- `PackedSinglePointWithScdInfo` behind its address. -/
def scdObject (ioa : InfoObjAddr) : InfoObjReader PackedSinglePointWithScdInfo := do
  let scd ← InfoObjReader.scd
  let qds ← InfoObjReader.byte
  return ⟨ioa, scd, qds⟩

/-- `Asdu::packed_single_point_with_scd`. -/
def packedSinglePointWithScd (params : Params) (isSequence : Bool) (coa : CauseOfTransmission)
    (ca : UInt16) (infos : List PackedSinglePointWithScdInfo) : Except Error Asdu := do
  checkUntaggedCause coa
  buildObjects params .M_PS_NA_1 isSequence coa ca PackedSinglePointWithScdInfo.ioa scdElement infos

/-- `Asdu::get_packed_single_point_with_scd`: the type is not checked. -/
def getPackedSinglePointWithScd (a : Asdu) : Except Error (List PackedSinglePointWithScdInfo) :=
  a.read (a.objects scdObject)

/-! ### The untagged builders -/

section untagged

variable (host : Host) (params : Params) (isSequence : Bool) (coa : CauseOfTransmission)
  (ca : UInt16)

/-- `Asdu::single`. -/
def single (infos : List SinglePointInfo) : Except Error Asdu := do
  checkUntaggedCause coa
  singleWithType host params .M_SP_NA_1 isSequence coa ca infos

/-- `Asdu::double`. -/
def double (infos : List DoublePointInfo) : Except Error Asdu := do
  checkUntaggedCause coa
  doubleWithType host params .M_DP_NA_1 isSequence coa ca infos

/-- `Asdu::step`. -/
def step (infos : List StepPositionInfo) : Except Error Asdu := do
  checkUntaggedCause coa
  stepWithType host params .M_ST_NA_1 isSequence coa ca infos

/-- `Asdu::bitstring32`. -/
def bitstring32 (infos : List BitString32Info) : Except Error Asdu := do
  checkBitstringCause coa
  bitstring32WithType host params .M_BO_NA_1 isSequence coa ca infos

/-- `Asdu::measured_value_normal`. -/
def measuredValueNormal (infos : List MeasuredValueNormalInfo) : Except Error Asdu := do
  checkMeasuredCause coa
  measuredValueNormalWithType host params .M_ME_NA_1 isSequence coa ca infos

/-- `Asdu::measured_value_normal_no_quality`. -/
def measuredValueNormalNoQuality (infos : List MeasuredValueNormalInfo) : Except Error Asdu := do
  checkMeasuredCause coa
  measuredValueNormalWithType host params .M_ME_ND_1 isSequence coa ca infos

/-- `Asdu::measured_value_scaled`. -/
def measuredValueScaled (infos : List MeasuredValueScaledInfo) : Except Error Asdu := do
  checkMeasuredCause coa
  measuredValueScaledWithType host params .M_ME_NB_1 isSequence coa ca infos

/-- `Asdu::measured_value_float`. -/
def measuredValueFloat (infos : List MeasuredValueFloatInfo) : Except Error Asdu := do
  checkMeasuredCause coa
  measuredValueFloatWithType host params .M_ME_NC_1 isSequence coa ca infos

/-- `Asdu::integrated_totals`. -/
def integratedTotals (infos : List BinaryCounterReadingInfo) : Except Error Asdu := do
  checkCounterCause coa
  integratedTotalsWithType host params .M_IT_NA_1 isSequence coa ca infos

end untagged

end Asdu

end Iec60870
