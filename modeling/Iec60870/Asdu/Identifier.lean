import Iec60870.Asdu.Params

/-!
# The data unit identifier

Type identification, variable structure qualifier, cause of transmission and
common address, with the octets they are sent as.
-/

namespace Iec60870

/-- ASDU type identification: the wire octet, so that private and reserved
identifications round-trip unchanged. -/
structure TypeId where
  octet : UInt8
  deriving DecidableEq, Repr

namespace TypeId

/-- 1: single-point information. -/
def M_SP_NA_1 : TypeId := ⟨1⟩

/-- 2: single-point information with CP24Time2a time tag. -/
def M_SP_TA_1 : TypeId := ⟨2⟩

/-- 3: double-point information. -/
def M_DP_NA_1 : TypeId := ⟨3⟩

/-- 4: double-point information with CP24Time2a time tag. -/
def M_DP_TA_1 : TypeId := ⟨4⟩

/-- 5: step position information. -/
def M_ST_NA_1 : TypeId := ⟨5⟩

/-- 6: step position information with CP24Time2a time tag. -/
def M_ST_TA_1 : TypeId := ⟨6⟩

/-- 7: bitstring of 32 bits. -/
def M_BO_NA_1 : TypeId := ⟨7⟩

/-- 8: bitstring of 32 bits with CP24Time2a time tag. -/
def M_BO_TA_1 : TypeId := ⟨8⟩

/-- 9: measured value, normalized value. -/
def M_ME_NA_1 : TypeId := ⟨9⟩

/-- 10: measured value, normalized value with CP24Time2a time tag. -/
def M_ME_TA_1 : TypeId := ⟨10⟩

/-- 11: measured value, scaled value. -/
def M_ME_NB_1 : TypeId := ⟨11⟩

/-- 12: measured value, scaled value with CP24Time2a time tag. -/
def M_ME_TB_1 : TypeId := ⟨12⟩

/-- 13: measured value, short floating point number. -/
def M_ME_NC_1 : TypeId := ⟨13⟩

/-- 14: measured value, short floating point number with CP24Time2a time tag. -/
def M_ME_TC_1 : TypeId := ⟨14⟩

/-- 15: integrated totals. -/
def M_IT_NA_1 : TypeId := ⟨15⟩

/-- 16: integrated totals with CP24Time2a time tag. -/
def M_IT_TA_1 : TypeId := ⟨16⟩

/-- 17: event of protection equipment with CP24Time2a time tag. -/
def M_EP_TA_1 : TypeId := ⟨17⟩

/-- 18: packed start events of protection equipment with CP24Time2a time tag. -/
def M_EP_TB_1 : TypeId := ⟨18⟩

/-- 19: packed output circuit information of protection equipment, CP24Time2a. -/
def M_EP_TC_1 : TypeId := ⟨19⟩

/-- 20: packed single-point information with status change detection. -/
def M_PS_NA_1 : TypeId := ⟨20⟩

/-- 21: measured value, normalized value without quality descriptor. -/
def M_ME_ND_1 : TypeId := ⟨21⟩

/-- 30: single-point information with CP56Time2a time tag. -/
def M_SP_TB_1 : TypeId := ⟨30⟩

/-- 31: double-point information with CP56Time2a time tag. -/
def M_DP_TB_1 : TypeId := ⟨31⟩

/-- 32: step position information with CP56Time2a time tag. -/
def M_ST_TB_1 : TypeId := ⟨32⟩

/-- 33: bitstring of 32 bits with CP56Time2a time tag. -/
def M_BO_TB_1 : TypeId := ⟨33⟩

/-- 34: measured value, normalized value with CP56Time2a time tag. -/
def M_ME_TD_1 : TypeId := ⟨34⟩

/-- 35: measured value, scaled value with CP56Time2a time tag. -/
def M_ME_TE_1 : TypeId := ⟨35⟩

/-- 36: measured value, short floating point number with CP56Time2a time tag. -/
def M_ME_TF_1 : TypeId := ⟨36⟩

/-- 37: integrated totals with CP56Time2a time tag. -/
def M_IT_TB_1 : TypeId := ⟨37⟩

/-- 38: event of protection equipment with CP56Time2a time tag. -/
def M_EP_TD_1 : TypeId := ⟨38⟩

/-- 39: packed start events of protection equipment with CP56Time2a time tag. -/
def M_EP_TE_1 : TypeId := ⟨39⟩

/-- 40: packed output circuit information of protection equipment, CP56Time2a. -/
def M_EP_TF_1 : TypeId := ⟨40⟩

/-- 45: single command. -/
def C_SC_NA_1 : TypeId := ⟨45⟩

/-- 46: double command. -/
def C_DC_NA_1 : TypeId := ⟨46⟩

/-- 47: regulating step command. -/
def C_RC_NA_1 : TypeId := ⟨47⟩

/-- 48: set-point command, normalized value. -/
def C_SE_NA_1 : TypeId := ⟨48⟩

/-- 49: set-point command, scaled value. -/
def C_SE_NB_1 : TypeId := ⟨49⟩

/-- 50: set-point command, short floating point number. -/
def C_SE_NC_1 : TypeId := ⟨50⟩

/-- 51: bitstring of 32 bits command. -/
def C_BO_NA_1 : TypeId := ⟨51⟩

/-- 58: single command with CP56Time2a time tag. -/
def C_SC_TA_1 : TypeId := ⟨58⟩

/-- 59: double command with CP56Time2a time tag. -/
def C_DC_TA_1 : TypeId := ⟨59⟩

/-- 60: regulating step command with CP56Time2a time tag. -/
def C_RC_TA_1 : TypeId := ⟨60⟩

/-- 61: set-point command, normalized value, with CP56Time2a time tag. -/
def C_SE_TA_1 : TypeId := ⟨61⟩

/-- 62: set-point command, scaled value, with CP56Time2a time tag. -/
def C_SE_TB_1 : TypeId := ⟨62⟩

/-- 63: set-point command, short float, with CP56Time2a time tag. -/
def C_SE_TC_1 : TypeId := ⟨63⟩

/-- 64: bitstring of 32 bits command with CP56Time2a time tag. -/
def C_BO_TA_1 : TypeId := ⟨64⟩

/-- 70: end of initialization. -/
def M_EI_NA_1 : TypeId := ⟨70⟩

/-- 100: interrogation command. -/
def C_IC_NA_1 : TypeId := ⟨100⟩

/-- 101: counter interrogation command. -/
def C_CI_NA_1 : TypeId := ⟨101⟩

/-- 102: read command. -/
def C_RD_NA_1 : TypeId := ⟨102⟩

/-- 103: clock synchronization command. -/
def C_CS_NA_1 : TypeId := ⟨103⟩

/-- 104: test command. -/
def C_TS_NA_1 : TypeId := ⟨104⟩

/-- 105: reset process command. -/
def C_RP_NA_1 : TypeId := ⟨105⟩

/-- 106: delay acquisition command (IEC 101 only). -/
def C_CD_NA_1 : TypeId := ⟨106⟩

/-- 107: test command with CP56Time2a time tag. -/
def C_TS_TA_1 : TypeId := ⟨107⟩

/-- 110: parameter of measured value, normalized value. -/
def P_ME_NA_1 : TypeId := ⟨110⟩

/-- 111: parameter of measured value, scaled value. -/
def P_ME_NB_1 : TypeId := ⟨111⟩

/-- 112: parameter of measured value, short floating point number. -/
def P_ME_NC_1 : TypeId := ⟨112⟩

/-- 113: parameter activation. -/
def P_AC_NA_1 : TypeId := ⟨113⟩

/-- 120: file ready. -/
def F_FR_NA_1 : TypeId := ⟨120⟩

/-- 121: section ready. -/
def F_SR_NA_1 : TypeId := ⟨121⟩

/-- 122: call directory, select file, call file, call section. -/
def F_SC_NA_1 : TypeId := ⟨122⟩

/-- 123: last section, last segment. -/
def F_LS_NA_1 : TypeId := ⟨123⟩

/-- 124: ack file, ack section. -/
def F_AF_NA_1 : TypeId := ⟨124⟩

/-- 125: segment. -/
def F_SG_NA_1 : TypeId := ⟨125⟩

/-- 126: directory. -/
def F_DR_TA_1 : TypeId := ⟨126⟩

/-- Size in octets of one information element set of this type, without the
information object address.  `F_SG_NA_1` carries its own length and has none. -/
def infoObjSize (t : TypeId) : Except Error ℕ :=
  match t.octet.toNat with
  | 1 | 3 => .ok 1
  | 2 | 4 => .ok 4
  | 5 => .ok 2
  | 6 => .ok 5
  | 7 => .ok 5
  | 8 => .ok 8
  | 9 | 11 => .ok 3
  | 10 | 12 => .ok 6
  | 13 => .ok 5
  | 14 => .ok 8
  | 15 => .ok 5
  | 16 => .ok 8
  | 17 => .ok 6
  | 18 | 19 => .ok 7
  | 20 => .ok 5
  | 21 => .ok 2
  | 30 | 31 => .ok 8
  | 32 => .ok 9
  | 33 => .ok 12
  | 34 | 35 => .ok 10
  | 36 | 37 => .ok 12
  | 38 => .ok 10
  | 39 | 40 => .ok 11
  | 45 | 46 | 47 => .ok 1
  | 48 | 49 => .ok 3
  | 50 => .ok 5
  | 51 => .ok 4
  | 58 | 59 | 60 => .ok 8
  | 61 | 62 => .ok 10
  | 63 => .ok 12
  | 64 => .ok 11
  | 70 => .ok 1
  | 100 | 101 => .ok 1
  | 102 => .ok 0
  | 103 => .ok 7
  | 104 => .ok 2
  | 105 => .ok 1
  | 106 => .ok 2
  | 107 => .ok 9
  | 110 | 111 => .ok 3
  | 112 => .ok 5
  | 113 => .ok 1
  | 120 => .ok 6
  | 121 => .ok 7
  | 122 => .ok 4
  | 123 => .ok 5
  | 124 => .ok 4
  | 126 => .ok 13
  | _ => .error .typeIdentifier

end TypeId

/-- Variable structure qualifier: object count in bits 0 to 6, SQ in bit 7. -/
structure VariableStruct where
  number : UInt8
  isSequence : Bool
  deriving DecidableEq, Repr

namespace VariableStruct

/-- `VariableStruct::single`. -/
def single : VariableStruct := ⟨1, false⟩

/-- `VariableStruct::parse`. -/
def parse (b : UInt8) : VariableStruct := ⟨b &&& 0x7f, b &&& 0x80 == 0x80⟩

/-- `VariableStruct::value`. -/
def value (v : VariableStruct) : UInt8 := if v.isSequence then v.number ||| 0x80 else v.number

@[simp] theorem value_parse (b : UInt8) : (parse b).value = b := by
  revert b
  decide +kernel

/-- A count is read back exactly when seven bits hold it. -/
theorem parse_value_iff (v : VariableStruct) : parse v.value = v ↔ v.number ≤ 127 := by
  obtain ⟨n, sq⟩ := v
  have hall : ∀ (n : UInt8) sq, parse (value ⟨n, sq⟩) = ⟨n, sq⟩ ↔ n ≤ 127 := by decide +kernel
  exact hall n sq

theorem parse_value {v : VariableStruct} (h : v.number ≤ 127) : parse v.value = v :=
  v.parse_value_iff.mpr h

end VariableStruct

/-- Cause of transmission, bits 0 to 5. -/
structure Cause where
  octet : UInt8
  deriving DecidableEq, Repr

namespace Cause

/-- 0: unused, invalid on the wire. -/
def UNUSED : Cause := ⟨0⟩

/-- 1: periodic, cyclic. -/
def PERIODIC : Cause := ⟨1⟩

/-- 2: background scan. -/
def BACKGROUND : Cause := ⟨2⟩

/-- 3: spontaneous. -/
def SPONTANEOUS : Cause := ⟨3⟩

/-- 4: initialized. -/
def INITIALIZED : Cause := ⟨4⟩

/-- 5: request or requested. -/
def REQUEST : Cause := ⟨5⟩

/-- 6: activation. -/
def ACTIVATION : Cause := ⟨6⟩

/-- 7: activation confirmation. -/
def ACTIVATION_CON : Cause := ⟨7⟩

/-- 8: deactivation. -/
def DEACTIVATION : Cause := ⟨8⟩

/-- 11: return information caused by a remote command. -/
def RETURN_INFO_REMOTE : Cause := ⟨11⟩

/-- 12: return information caused by a local command. -/
def RETURN_INFO_LOCAL : Cause := ⟨12⟩

/-- 13: file transfer. -/
def FILE_TRANSFER : Cause := ⟨13⟩

/-- 20: interrogated by station interrogation. -/
def INTERROGATED_BY_STATION : Cause := ⟨20⟩

/-- 36: interrogated by group 16 interrogation. -/
def INTERROGATED_BY_GROUP16 : Cause := ⟨36⟩

/-- 37: requested by general counter request. -/
def REQUEST_BY_GENERAL_COUNTER : Cause := ⟨37⟩

/-- 41: requested by group 4 counter request. -/
def REQUEST_BY_GROUP4_COUNTER : Cause := ⟨41⟩

/-- 44: unknown type identification. -/
def UNKNOWN_TYPE_ID : Cause := ⟨44⟩

/-- 45: unknown cause of transmission. -/
def UNKNOWN_COT : Cause := ⟨45⟩

/-- 46: unknown common address of ASDU. -/
def UNKNOWN_CA : Cause := ⟨46⟩

/-- 47: unknown information object address. -/
def UNKNOWN_IOA : Cause := ⟨47⟩

/-- `Cause::is_interrogation`. -/
def isInterrogation (c : Cause) : Bool :=
  c.octet ≥ INTERROGATED_BY_STATION.octet ∧ c.octet ≤ INTERROGATED_BY_GROUP16.octet

/-- `Cause::is_counter_request`. -/
def isCounterRequest (c : Cause) : Bool :=
  c.octet ≥ REQUEST_BY_GENERAL_COUNTER.octet ∧ c.octet ≤ REQUEST_BY_GROUP4_COUNTER.octet

end Cause

/-- The cause together with the T and P/N bits. -/
structure CauseOfTransmission where
  isTest : Bool
  isNegative : Bool
  cause : Cause
  deriving DecidableEq, Repr

namespace CauseOfTransmission

/-- `CauseOfTransmission::new`. -/
def new (c : Cause) : CauseOfTransmission := ⟨false, false, c⟩

/-- `CauseOfTransmission::parse`. -/
def parse (b : UInt8) : CauseOfTransmission where
  isNegative := b &&& 0x40 == 0x40
  isTest := b &&& 0x80 == 0x80
  cause := ⟨b &&& 0x3f⟩

/-- `CauseOfTransmission::value`. -/
def value (c : CauseOfTransmission) : UInt8 :=
  let v := c.cause.octet &&& 0x3f
  let v := if c.isNegative then v ||| 0x40 else v
  if c.isTest then v ||| 0x80 else v

@[simp] theorem value_parse (b : UInt8) : (parse b).value = b := by
  revert b
  decide +kernel

/-- A cause of six bits is read back. -/
theorem parse_value {c : CauseOfTransmission} (h : c.cause.octet < 64) : parse c.value = c := by
  obtain ⟨t, n, ⟨o⟩⟩ := c
  have hall : ∀ o : UInt8, o < 64 → ∀ t n, parse (value ⟨t, n, ⟨o⟩⟩) = ⟨t, n, ⟨o⟩⟩ := by
    decide +kernel
  exact hall o h t n

end CauseOfTransmission

/-- The invalid common address. -/
def INVALID_COMMON_ADDR : UInt16 := 0

/-- The broadcast common address, also with one-octet addressing. -/
def GLOBAL_COMMON_ADDR : UInt16 := 65535

/-- The complete data unit identifier. -/
structure Identifier where
  typeId : TypeId
  variable' : VariableStruct
  coa : CauseOfTransmission
  /-- Originator address, on the wire only when `causeSize = 2`. -/
  origAddr : UInt8
  commonAddr : UInt16
  deriving DecidableEq, Repr

/-- `Identifier::new`: a zero originator address. -/
def Identifier.new (typeId : TypeId) (v : VariableStruct) (coa : CauseOfTransmission)
    (commonAddr : UInt16) : Identifier :=
  ⟨typeId, v, coa, 0, commonAddr⟩

end Iec60870
