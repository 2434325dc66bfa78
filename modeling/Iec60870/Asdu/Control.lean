import Iec60870.Asdu.Monitor

/-!
# Commands, system information and parameters

The `C_*` and `P_*` types and the end of initialization: every ASDU carries one
information object.  A command has an untagged type and one with a CP56Time2a
tag; a system command fixes its type, and often its cause and its address.

## Main definitions

* `buildSingle`, `Asdu.singleObject` — the builder and the getter of a single
  object.
* `Asdu.singleCmd`, `Asdu.interrogationCmd`, `Asdu.parameterNormal` and their
  companions, each with its getter.
-/

namespace Iec60870

/-! ### A single object -/

/-- An ASDU of one object, without its octets. -/
def startSingle (params : Params) (typeId : TypeId) (coa : CauseOfTransmission) (ca : UInt16) :
    Except Error Asdu := do
  params.valid
  return Asdu.new params (.new typeId .single coa ca)

/-- `start_cmd`: the start of a command ASDU. -/
def startCmd := startSingle

/-- `start_sys`: the start of a system ASDU, which does the same. -/
def startSys := startSingle

/-- `start_para`: the start of a parameter ASDU, which does the same. -/
def startPara := startSingle

/-- The builders behind `start_cmd`, `start_sys` and `start_para`: the address of
the object, then its octets. -/
def buildSingle (start : Except Error Asdu) (ioa : InfoObjAddr) (element : Except Error Octets) :
    Except Error Asdu := do
  let u ← start
  let addr ← Encoder.infoObjAddr u.params ioa
  let octets ← element
  return { u with infoObj := addr ++ octets }

/-- The getters of a single object, through the reader: its address, then the
object.  Neither the count nor SQ is checked. -/
def Asdu.singleObject {α : Type} (a : Asdu) (object : InfoObjAddr → InfoObjReader α) :
    InfoObjReader α := do
  let ioa ← InfoObjReader.infoObjAddr a.params
  object ioa

/-- A builder that permits only these causes. -/
def checkCause (allowed : List Cause) (coa : CauseOfTransmission) : Except Error Unit :=
  if coa.cause ∈ allowed then .ok () else .error .cmdCause

/-- `check_command_cause`: a command activates or deactivates. -/
def checkCommandCause : CauseOfTransmission → Except Error Unit :=
  checkCause [.ACTIVATION, .DEACTIVATION]

/-! ### The values of the commands -/

/-- A commanded value with its qualifier of command: one octet holds both. -/
structure Command (β : Type) where
  value : β
  qoc : QualifierOfCommand
  deriving DecidableEq, Repr

/-- A set-point with its qualifier, which has an octet of its own. -/
structure Setpoint (β : Type) where
  value : β
  qos : QualifierOfSetpointCmd
  deriving DecidableEq, Repr

namespace Family

/-- A family of commands whose value shares its octet with the qualifier. -/
def command {β : Type} (types : TaggedTypes) (value : β → UInt8) (parse : UInt8 → β) :
    Family (Command β) where
  types
  write _ v := Encoder.byte (v.qoc.value ||| value v.value)
  read _ := do
    let b ← InfoObjReader.byte
    return ⟨parse b, .parse b⟩

/-- A family of set-points, whose values are read and written as those of the
measured values. -/
def setpoint {β : Type} (types : TaggedTypes) (value : β → Octets) (read : InfoObjReader β) :
    Family (Setpoint β) where
  types
  write _ v := value v.value ++ Encoder.byte v.qos.value
  read _ := do
    let value ← read
    let qos ← InfoObjReader.byte
    return ⟨value, .parse qos⟩

/-- The single commands `C_SC_NA_1` and, with a time tag, `C_SC_TA_1`. -/
def singleCommand : Family (Command Bool) :=
  .command ⟨[.C_SC_NA_1], none, .C_SC_TA_1⟩ boolOctet fun b => b &&& 0x01 == 0x01

/-- The double commands `C_DC_NA_1` and, with a time tag, `C_DC_TA_1`. -/
def doubleCommand : Family (Command DoubleCommand) :=
  .command ⟨[.C_DC_NA_1], none, .C_DC_TA_1⟩ DoubleCommand.value .parse

/-- The regulating step commands `C_RC_NA_1` and, with a time tag, `C_RC_TA_1`. -/
def stepCommand : Family (Command StepCommand) :=
  .command ⟨[.C_RC_NA_1], none, .C_RC_TA_1⟩ StepCommand.value .parse

/-- The normalized set-points `C_SE_NA_1` and, with a time tag, `C_SE_TA_1`. -/
def setpointNormal : Family (Setpoint Normalize) :=
  .setpoint ⟨[.C_SE_NA_1], none, .C_SE_TA_1⟩ Encoder.normalize InfoObjReader.normalize

/-- The scaled set-points `C_SE_NB_1` and, with a time tag, `C_SE_TB_1`. -/
def setpointScaled : Family (Setpoint Int16) :=
  .setpoint ⟨[.C_SE_NB_1], none, .C_SE_TB_1⟩ Encoder.scaled InfoObjReader.scaled

/-- The floating point set-points `C_SE_NC_1` and, with a time tag, `C_SE_TC_1`. -/
def setpointFloat : Family (Setpoint F32) :=
  .setpoint ⟨[.C_SE_NC_1], none, .C_SE_TC_1⟩ Encoder.f32 InfoObjReader.f32

/-- The bit strings `C_BO_NA_1` and, with a time tag, `C_BO_TA_1`, which have no
qualifier. -/
def bitsString32Command : Family UInt32 where
  types := ⟨[.C_BO_NA_1], none, .C_BO_TA_1⟩
  write _ v := Encoder.bitsString32 v
  read _ := InfoObjReader.bitsString32

variable {β : Type} (fam : Family β) (host : Host)

/-- The builder of a family of commands. -/
def cmd (params : Params) (typeId : TypeId) (coa : CauseOfTransmission) (ca : UInt16)
    (cmd : Stamped β) : Except Error Asdu := do
  checkCommandCause coa
  buildSingle (startCmd params typeId coa ca) cmd.ioa (fam.element host params typeId cmd)

/-- The getter of a family of commands, through the reader. -/
def cmdObject (a : Asdu) : InfoObjReader (Stamped β) :=
  a.singleObject (fam.object host a.params a.identifier.typeId)

/-- The getter of a family of commands. -/
def getCmd (a : Asdu) : Except Error (Stamped β) := a.read (fam.cmdObject host a)

end Family

abbrev SingleCommandInfo := Stamped (Command Bool)
abbrev DoubleCommandInfo := Stamped (Command DoubleCommand)
abbrev StepCommandInfo := Stamped (Command StepCommand)
abbrev SetpointCommandNormalInfo := Stamped (Setpoint Normalize)
abbrev SetpointCommandScaledInfo := Stamped (Setpoint Int16)
abbrev SetpointCommandFloatInfo := Stamped (Setpoint F32)
abbrev BitsString32CommandInfo := Stamped UInt32

/-- A parameter of a measured value, with the qualifier that says which one it is. -/
structure ParameterInfo (β : Type) where
  ioa : InfoObjAddr
  value : β
  qpm : QualifierOfParameterMv
  deriving DecidableEq, Repr

abbrev ParameterNormalInfo := ParameterInfo Normalize
abbrev ParameterScaledInfo := ParameterInfo Int16
abbrev ParameterFloatInfo := ParameterInfo F32

/-- `ParameterActivationInfo`. -/
structure ParameterActivationInfo where
  ioa : InfoObjAddr
  qpa : QualifierOfParameterAct
  deriving DecidableEq, Repr

namespace Asdu

/-! ### Commands -/

section commands

variable (host : Host)

/-- `Asdu::single_cmd`. -/
def singleCmd := Family.singleCommand.cmd host

/-- `Asdu::get_single_cmd`. -/
def getSingleCmd := Family.singleCommand.getCmd host

/-- `Asdu::double_cmd`. -/
def doubleCmd := Family.doubleCommand.cmd host

/-- `Asdu::get_double_cmd`. -/
def getDoubleCmd := Family.doubleCommand.getCmd host

/-- `Asdu::step_cmd`. -/
def stepCmd := Family.stepCommand.cmd host

/-- `Asdu::get_step_cmd`. -/
def getStepCmd := Family.stepCommand.getCmd host

/-- `Asdu::setpoint_cmd_normal`. -/
def setpointCmdNormal := Family.setpointNormal.cmd host

/-- `Asdu::get_setpoint_normal_cmd`. -/
def getSetpointNormalCmd := Family.setpointNormal.getCmd host

/-- `Asdu::setpoint_cmd_scaled`. -/
def setpointCmdScaled := Family.setpointScaled.cmd host

/-- `Asdu::get_setpoint_scaled_cmd`. -/
def getSetpointScaledCmd := Family.setpointScaled.getCmd host

/-- `Asdu::setpoint_cmd_float`. -/
def setpointCmdFloat := Family.setpointFloat.cmd host

/-- `Asdu::get_setpoint_float_cmd`. -/
def getSetpointFloatCmd := Family.setpointFloat.getCmd host

/-- `Asdu::bits_string32_cmd`. -/
def bitsString32Cmd := Family.bitsString32Command.cmd host

/-- `Asdu::get_bits_string32_cmd`. -/
def getBitsString32Cmd := Family.bitsString32Command.getCmd host

end commands

/-! ### System information -/

section system

variable (host : Host) (params : Params) (coa : CauseOfTransmission) (ca : UInt16)

/-- The object of a qualifier in one octet. -/
def qualified {α : Type} (parse : UInt8 → α) (ioa : InfoObjAddr) :
    InfoObjReader (InfoObjAddr × α) := do
  let b ← InfoObjReader.byte
  return (ioa, parse b)

/-- `Asdu::interrogation_cmd`: the qualifier is one octet, which says whether a
station or a group is interrogated. -/
def interrogationCmd (qoi : QualifierOfInterrogation) : Except Error Asdu := do
  checkCause [.ACTIVATION, .DEACTIVATION] coa
  buildSingle (startSys params .C_IC_NA_1 coa ca) INFO_OBJ_ADDR_IRRELEVANT
    (.ok (Encoder.byte qoi))

/-- `Asdu::get_interrogation_cmd`. -/
def getInterrogationCmd (a : Asdu) : Except Error (InfoObjAddr × QualifierOfInterrogation) :=
  a.read (a.singleObject (qualified id))

/-- `Asdu::counter_interrogation_cmd`: the cause is forced. -/
def counterInterrogationCmd (qcc : QualifierCountCall) : Except Error Asdu :=
  buildSingle (startSys params .C_CI_NA_1 { coa with cause := .ACTIVATION } ca)
    INFO_OBJ_ADDR_IRRELEVANT (.ok (Encoder.byte qcc.value))

/-- `Asdu::get_counter_interrogation_cmd`. -/
def getCounterInterrogationCmd (a : Asdu) : Except Error (InfoObjAddr × QualifierCountCall) :=
  a.read (a.singleObject (qualified .parse))

/-- `Asdu::read_cmd`: the cause is forced. -/
def readCmd (ioa : InfoObjAddr) : Except Error Asdu :=
  buildSingle (startSys params .C_RD_NA_1 { coa with cause := .REQUEST } ca) ioa (.ok [])

/-- `Asdu::get_read_cmd`. -/
def getReadCmd (a : Asdu) : Except Error InfoObjAddr := a.read (a.singleObject pure)

/-- `Asdu::clock_synchronization_cmd`: the cause is forced. -/
def clockSynchronizationCmd (t : DateTime) : Except Error Asdu :=
  buildSingle (startSys params .C_CS_NA_1 { coa with cause := .ACTIVATION } ca)
    INFO_OBJ_ADDR_IRRELEVANT (.ok (Encoder.cp56time2a host params (some t)))

/-- The object of a clock synchronization command. -/
def clockObject (ioa : InfoObjAddr) : InfoObjReader (InfoObjAddr × Option DateTime) := do
  let t ← InfoObjReader.cp56time2a host params
  return (ioa, t)

/-- `Asdu::get_clock_synchronization_cmd`. -/
def getClockSynchronizationCmd (a : Asdu) : Except Error (InfoObjAddr × Option DateTime) :=
  a.read (a.singleObject (clockObject host a.params))

/-- `Asdu::test_command`: the cause is forced. -/
def testCommand : Except Error Asdu :=
  buildSingle (startSys params .C_TS_NA_1 { coa with cause := .ACTIVATION } ca)
    INFO_OBJ_ADDR_IRRELEVANT (.ok (Encoder.u16 FBP_TEST_WORD))

/-- The object of a test command: whether the test pattern matched. -/
def testObject (ioa : InfoObjAddr) : InfoObjReader (InfoObjAddr × Bool) := do
  let word ← InfoObjReader.u16
  return (ioa, word == FBP_TEST_WORD)

/-- `Asdu::get_test_command`. -/
def getTestCommand (a : Asdu) : Except Error (InfoObjAddr × Bool) :=
  a.read (a.singleObject testObject)

/-- `Asdu::test_command_cp56time2a`: any cause. -/
def testCommandCp56time2a (t : DateTime) : Except Error Asdu :=
  buildSingle (startSys params .C_TS_TA_1 coa ca) INFO_OBJ_ADDR_IRRELEVANT
    (.ok (Encoder.u16 FBP_TEST_WORD ++ Encoder.cp56time2a host params (some t)))

/-- The object of a test command with a time. -/
def testObjectCp56time2a (ioa : InfoObjAddr) :
    InfoObjReader (InfoObjAddr × Bool × Option DateTime) := do
  let word ← InfoObjReader.u16
  let t ← InfoObjReader.cp56time2a host params
  return (ioa, word == FBP_TEST_WORD, t)

/-- `Asdu::get_test_command_cp56time2a`. -/
def getTestCommandCp56time2a (a : Asdu) :
    Except Error (InfoObjAddr × Bool × Option DateTime) :=
  a.read (a.singleObject (testObjectCp56time2a host a.params))

/-- `Asdu::reset_process_cmd`: the cause is forced. -/
def resetProcessCmd (qrp : QualifierOfResetProcessCmd) : Except Error Asdu :=
  buildSingle (startSys params .C_RP_NA_1 { coa with cause := .ACTIVATION } ca)
    INFO_OBJ_ADDR_IRRELEVANT (.ok (Encoder.byte qrp))

/-- `Asdu::get_reset_process_cmd`. -/
def getResetProcessCmd (a : Asdu) : Except Error (InfoObjAddr × QualifierOfResetProcessCmd) :=
  a.read (a.singleObject (qualified id))

/-- `Asdu::delay_acquire_command`: the delay in milliseconds, two octets. -/
def delayAcquireCommand (msec : UInt16) : Except Error Asdu := do
  checkCause [.SPONTANEOUS, .ACTIVATION] coa
  buildSingle (startSys params .C_CD_NA_1 coa ca) INFO_OBJ_ADDR_IRRELEVANT
    (.ok (Encoder.cp16time2a msec))

/-- The object of a delay acquisition command. -/
def delayObject (ioa : InfoObjAddr) : InfoObjReader (InfoObjAddr × UInt16) := do
  let msec ← InfoObjReader.u16
  return (ioa, msec)

/-- `Asdu::get_delay_acquire_command`. -/
def getDelayAcquireCommand (a : Asdu) : Except Error (InfoObjAddr × UInt16) :=
  a.read (a.singleObject delayObject)

/-- `Asdu::end_of_initialization`: the cause is forced. -/
def endOfInitialization (ioa : InfoObjAddr) (coi : CauseOfInitial) : Except Error Asdu :=
  buildSingle (startSys params .M_EI_NA_1 { coa with cause := .INITIALIZED } ca) ioa
    (.ok (Encoder.byte coi.value))

/-- `Asdu::get_end_of_initialization`. -/
def getEndOfInitialization (a : Asdu) : Except Error (InfoObjAddr × CauseOfInitial) :=
  a.read (a.singleObject (qualified .parse))

end system

/-! ### Parameters -/

section parameters

variable (params : Params) (coa : CauseOfTransmission) (ca : UInt16)

/-- The builder of a parameter of a measured value. -/
def parameter {β : Type} (typeId : TypeId) (value : β → Octets) (p : ParameterInfo β) :
    Except Error Asdu := do
  checkCause [.ACTIVATION] coa
  buildSingle (startPara params typeId coa ca) p.ioa
    (.ok (value p.value ++ Encoder.byte p.qpm.value))

/-- The object of a parameter of a measured value. -/
def parameterObject {β : Type} (read : InfoObjReader β) (ioa : InfoObjAddr) :
    InfoObjReader (ParameterInfo β) := do
  let value ← read
  let qpm ← InfoObjReader.byte
  return ⟨ioa, value, .parse qpm⟩

/-- `Asdu::parameter_normal`. -/
def parameterNormal := parameter params coa ca .P_ME_NA_1 Encoder.normalize

/-- `Asdu::get_parameter_normal`. -/
def getParameterNormal (a : Asdu) : Except Error ParameterNormalInfo :=
  a.read (a.singleObject (parameterObject InfoObjReader.normalize))

/-- `Asdu::parameter_scaled`. -/
def parameterScaled := parameter params coa ca .P_ME_NB_1 Encoder.scaled

/-- `Asdu::get_parameter_scaled`. -/
def getParameterScaled (a : Asdu) : Except Error ParameterScaledInfo :=
  a.read (a.singleObject (parameterObject InfoObjReader.scaled))

/-- `Asdu::parameter_float`. -/
def parameterFloat := parameter params coa ca .P_ME_NC_1 Encoder.f32

/-- `Asdu::get_parameter_float`. -/
def getParameterFloat (a : Asdu) : Except Error ParameterFloatInfo :=
  a.read (a.singleObject (parameterObject InfoObjReader.f32))

/-- `Asdu::parameter_activation`: one octet of qualifier, written as it is. -/
def parameterActivation (p : ParameterActivationInfo) : Except Error Asdu := do
  checkCause [.ACTIVATION, .DEACTIVATION] coa
  buildSingle (startPara params .P_AC_NA_1 coa ca) p.ioa (.ok (Encoder.byte p.qpa))

/-- The object of a parameter activation. -/
def activationObject (ioa : InfoObjAddr) : InfoObjReader ParameterActivationInfo := do
  let qpa ← InfoObjReader.byte
  return ⟨ioa, qpa⟩

/-- `Asdu::get_parameter_activation`. -/
def getParameterActivation (a : Asdu) : Except Error ParameterActivationInfo :=
  a.read (a.singleObject activationObject)

end parameters

end Asdu

end Iec60870
