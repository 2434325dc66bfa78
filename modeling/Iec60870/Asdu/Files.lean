import Iec60870.Asdu.Control

/-!
# File transfer types

The `F_*` types: the qualifiers, the information objects, and a builder with its
getter for each.  Every type but the directory carries one object; a segment
carries its own length.
-/

namespace Iec60870

/-! ### Elements -/

/-- Name of a file. -/
abbrev NameOfFile := UInt16

/-- The error code of a select-and-call or acknowledge qualifier. -/
abbrev FileError := UInt8

namespace FileError

/-- 0: no error. -/
def NONE : FileError := 0

/-- 2: checksum failed. -/
def CHECKSUM_FAILED : FileError := 2

/-- 4: unexpected name of file. -/
def UNEXPECTED_NAME_OF_FILE : FileError := 4

/-- 5: unexpected name of section. -/
def UNEXPECTED_NAME_OF_SECTION : FileError := 5

end FileError

/-- The action of a select-and-call qualifier. -/
abbrev ScqAction := UInt8

namespace ScqAction

/-- 0: call directory. -/
def DEFAULT : ScqAction := 0

/-- 1: select file. -/
def SELECT_FILE : ScqAction := 1

/-- 2: request file. -/
def REQUEST_FILE : ScqAction := 2

/-- 3: deactivate file. -/
def DEACTIVATE_FILE : ScqAction := 3

/-- 4: delete file. -/
def DELETE_FILE : ScqAction := 4

/-- 5: select section. -/
def SELECT_SECTION : ScqAction := 5

/-- 6: request section. -/
def REQUEST_SECTION : ScqAction := 6

/-- 7: deactivate section. -/
def DEACTIVATE_SECTION : ScqAction := 7

end ScqAction

/-- The action of an acknowledge qualifier. -/
abbrev AfqAction := UInt8

namespace AfqAction

/-- 1: positive acknowledge of a file. -/
def POS_ACK_FILE : AfqAction := 1

/-- 2: negative acknowledge of a file. -/
def NEG_ACK_FILE : AfqAction := 2

/-- 3: positive acknowledge of a section. -/
def POS_ACK_SECTION : AfqAction := 3

/-- 4: negative acknowledge of a section. -/
def NEG_ACK_SECTION : AfqAction := 4

end AfqAction

/-- Last section or segment qualifier. -/
abbrev LastSectionQualifier := UInt8

namespace LastSectionQualifier

/-- 1: end of a file, without deactivation. -/
def FILE_WITHOUT_DEACTIVATE : LastSectionQualifier := 1

/-- 3: end of a section, without deactivation. -/
def SECTION_WITHOUT_DEACTIVATE : LastSectionQualifier := 3

/-- 4: end of a section, with deactivation. -/
def SECTION_WITH_DEACTIVATE : LastSectionQualifier := 4

/-- `LastSectionQualifier::is_end_of_file`: the end of a whole file. -/
def isEndOfFile (q : LastSectionQualifier) : Bool := q == 1 || q == 2

end LastSectionQualifier

/-- File ready qualifier: the flag says that the file is refused. -/
structure FileReadyQualifier where
  /-- Seven bits. -/
  qual : UInt8
  /-- The transfer of this file is not possible. -/
  isNegative : Bool
  deriving DecidableEq, Repr

/-- `FileReadyQualifier::parse`. -/
def FileReadyQualifier.parse (b : UInt8) : FileReadyQualifier := ⟨b &&& 0x7f, b &&& 0x80 == 0x80⟩

/-- `FileReadyQualifier::value`. -/
def FileReadyQualifier.value (q : FileReadyQualifier) : UInt8 :=
  let v := q.qual &&& 0x7f
  if q.isNegative then v ||| 0x80 else v

/-- Section ready qualifier: the flag says that the section is refused. -/
structure SectionReadyQualifier where
  /-- Seven bits. -/
  qual : UInt8
  /-- The section is not ready to load. -/
  isNotReady : Bool
  deriving DecidableEq, Repr

/-- `SectionReadyQualifier::parse`. -/
def SectionReadyQualifier.parse (b : UInt8) : SectionReadyQualifier :=
  ⟨b &&& 0x7f, b &&& 0x80 == 0x80⟩

/-- `SectionReadyQualifier::value`. -/
def SectionReadyQualifier.value (q : SectionReadyQualifier) : UInt8 :=
  let v := q.qual &&& 0x7f
  if q.isNotReady then v ||| 0x80 else v

/-- Select and call qualifier: action in the low nibble, error in the high one. -/
structure SelectAndCallQualifier where
  action : ScqAction
  error : FileError
  deriving DecidableEq, Repr

/-- `SelectAndCallQualifier::parse`. -/
def SelectAndCallQualifier.parse (b : UInt8) : SelectAndCallQualifier := ⟨b &&& 0x0f, b >>> 4⟩

/-- `SelectAndCallQualifier::value`. -/
def SelectAndCallQualifier.value (q : SelectAndCallQualifier) : UInt8 :=
  (q.action &&& (0x0f : UInt8)) ||| (q.error <<< (4 : UInt8))

/-- Acknowledge file or section qualifier: action in the low nibble, error in the
high one. -/
structure AckFileOrSectionQualifier where
  action : AfqAction
  error : FileError
  deriving DecidableEq, Repr

/-- `AckFileOrSectionQualifier::parse`. -/
def AckFileOrSectionQualifier.parse (b : UInt8) : AckFileOrSectionQualifier :=
  ⟨b &&& 0x0f, b >>> 4⟩

/-- `AckFileOrSectionQualifier::value`. -/
def AckFileOrSectionQualifier.value (q : AckFileOrSectionQualifier) : UInt8 :=
  (q.action &&& (0x0f : UInt8)) ||| (q.error <<< (4 : UInt8))

/-- Status of a file in a directory, with the flag that ends the listing. -/
structure StatusOfFile where
  /-- Five bits. -/
  status : UInt8
  isLastFileOfDirectory : Bool
  isDirectory : Bool
  isTransferActive : Bool
  deriving DecidableEq, Repr

/-- `StatusOfFile::parse`. -/
def StatusOfFile.parse (b : UInt8) : StatusOfFile :=
  ⟨b &&& 0x1f, b &&& 0x20 == 0x20, b &&& 0x40 == 0x40, b &&& 0x80 == 0x80⟩

/-- `StatusOfFile::value`. -/
def StatusOfFile.value (s : StatusOfFile) : UInt8 :=
  let v := s.status &&& 0x1f
  let v := if s.isLastFileOfDirectory then v ||| 0x20 else v
  let v := if s.isDirectory then v ||| 0x40 else v
  if s.isTransferActive then v ||| 0x80 else v

/-- The largest length of a file. -/
def LENGTH_OF_FILE_MAX : UInt32 := ((1 : UInt32) <<< 24) - 1

/-- `file_checksum`: the sum of the octets modulo 256. -/
def fileChecksum (b : Octets) : UInt8 := b.foldl (fun sum v => sum + v) 0

/-- `Params::max_segment_size`: what one segment ASDU can carry. -/
def Params.maxSegmentSize (p : Params) : ℕ :=
  min (ASDU_SIZE_MAX - (p.identifierSize + p.infoObjAddrSize.toNat + 4)) 255

/-! ### Information objects -/

/-- The object of `F_FR_NA_1`: a file is announced, with its length. -/
structure FileReadyInfo where
  ioa : InfoObjAddr
  nof : NameOfFile
  lengthOfFile : UInt32
  frq : FileReadyQualifier
  deriving DecidableEq, Repr

/-- The object of `F_SR_NA_1`: a section is announced, with its number and its
length. -/
structure SectionReadyInfo where
  ioa : InfoObjAddr
  nof : NameOfFile
  nos : UInt8
  lengthOfSection : UInt32
  srq : SectionReadyQualifier
  deriving DecidableEq, Repr

/-- The object of `F_SC_NA_1`: a file, a section or the directory is selected or
called. -/
structure CallOrSelectFileInfo where
  ioa : InfoObjAddr
  nof : NameOfFile
  nos : UInt8
  scq : SelectAndCallQualifier
  deriving DecidableEq, Repr

/-- The object of `F_LS_NA_1`: a section or the file has ended, with its checksum. -/
structure LastSectionOrSegmentInfo where
  ioa : InfoObjAddr
  nof : NameOfFile
  nos : UInt8
  lsq : LastSectionQualifier
  chs : UInt8
  deriving DecidableEq, Repr

/-- The object of `F_AF_NA_1`: a section or the file is acknowledged, or refused. -/
structure AckFileOrSectionInfo where
  ioa : InfoObjAddr
  nof : NameOfFile
  nos : UInt8
  afq : AckFileOrSectionQualifier
  deriving DecidableEq, Repr

/-- The object of `F_SG_NA_1`: a segment of the current section. -/
structure SegmentInfo where
  ioa : InfoObjAddr
  nof : NameOfFile
  nos : UInt8
  segment : Octets
  deriving DecidableEq, Repr

/-- One entry of `F_DR_TA_1`, the only file type with a list of objects. -/
structure DirectoryInfo where
  ioa : InfoObjAddr
  nof : NameOfFile
  lengthOfFile : UInt32
  sof : StatusOfFile
  time : Option DateTime
  timeFlags : TimeTagFlags
  deriving DecidableEq, Repr

/-! ### Builders and getters -/

/-- `check_file_cause`: the causes the builder permits, then the parameters. -/
def checkFileCause (params : Params) (coa : CauseOfTransmission) (allowed : List Cause) :
    Except Error Unit :=
  if coa.cause ∉ allowed then .error .cmdCause else params.valid

/-- The check of a length that is sent in three octets. -/
def checkLengthOfFile (n : UInt32) : Except Error Unit :=
  if n > LENGTH_OF_FILE_MAX then .error .lengthOutOfRange else .ok ()

/-- `start_file`. -/
def startFile (params : Params) (typeId : TypeId) (coa : CauseOfTransmission) (ca : UInt16) : Asdu :=
  Asdu.new params (.new typeId .single coa ca)

namespace Asdu

section builders

variable (params : Params) (coa : CauseOfTransmission) (ca : UInt16)

/-- `Asdu::file_ready`, whose length has to fit three octets. -/
def fileReady (info : FileReadyInfo) : Except Error Asdu := do
  checkFileCause params coa [.FILE_TRANSFER]
  checkLengthOfFile info.lengthOfFile
  buildSingle (.ok (startFile params .F_FR_NA_1 coa ca)) info.ioa
    (.ok (Encoder.u16 info.nof ++ (Encoder.lengthOfFile info.lengthOfFile ++
      Encoder.byte info.frq.value)))

/-- The object of `F_FR_NA_1`. -/
def fileReadyObject (ioa : InfoObjAddr) : InfoObjReader FileReadyInfo := do
  let nof ← InfoObjReader.u16
  let lengthOfFile ← InfoObjReader.lengthOfFile
  let frq ← InfoObjReader.byte
  return ⟨ioa, nof, lengthOfFile, .parse frq⟩

/-- `Asdu::get_file_ready`. -/
def getFileReady (a : Asdu) : Except Error FileReadyInfo :=
  a.read (a.singleObject fileReadyObject)

/-- `Asdu::section_ready`, whose length has to fit three octets. -/
def sectionReady (info : SectionReadyInfo) : Except Error Asdu := do
  checkFileCause params coa [.FILE_TRANSFER]
  checkLengthOfFile info.lengthOfSection
  buildSingle (.ok (startFile params .F_SR_NA_1 coa ca)) info.ioa
    (.ok (Encoder.u16 info.nof ++ (Encoder.byte info.nos ++
      (Encoder.lengthOfFile info.lengthOfSection ++ Encoder.byte info.srq.value))))

/-- The object of `F_SR_NA_1`. -/
def sectionReadyObject (ioa : InfoObjAddr) : InfoObjReader SectionReadyInfo := do
  let nof ← InfoObjReader.u16
  let nos ← InfoObjReader.byte
  let lengthOfSection ← InfoObjReader.lengthOfFile
  let srq ← InfoObjReader.byte
  return ⟨ioa, nof, nos, lengthOfSection, .parse srq⟩

/-- `Asdu::get_section_ready`. -/
def getSectionReady (a : Asdu) : Except Error SectionReadyInfo :=
  a.read (a.singleObject sectionReadyObject)

/-- `Asdu::call_or_select_file`, of a request or in the course of a transfer. -/
def callOrSelectFile (info : CallOrSelectFileInfo) : Except Error Asdu := do
  checkFileCause params coa [.REQUEST, .FILE_TRANSFER]
  buildSingle (.ok (startFile params .F_SC_NA_1 coa ca)) info.ioa
    (.ok (Encoder.u16 info.nof ++ (Encoder.byte info.nos ++ Encoder.byte info.scq.value)))

/-- The object of `F_SC_NA_1`. -/
def callOrSelectFileObject (ioa : InfoObjAddr) : InfoObjReader CallOrSelectFileInfo := do
  let nof ← InfoObjReader.u16
  let nos ← InfoObjReader.byte
  let scq ← InfoObjReader.byte
  return ⟨ioa, nof, nos, .parse scq⟩

/-- `Asdu::get_call_or_select_file`. -/
def getCallOrSelectFile (a : Asdu) : Except Error CallOrSelectFileInfo :=
  a.read (a.singleObject callOrSelectFileObject)

/-- `Asdu::last_section_or_segment`. -/
def lastSectionOrSegment (info : LastSectionOrSegmentInfo) : Except Error Asdu := do
  checkFileCause params coa [.FILE_TRANSFER]
  buildSingle (.ok (startFile params .F_LS_NA_1 coa ca)) info.ioa
    (.ok (Encoder.u16 info.nof ++ (Encoder.byte info.nos ++
      (Encoder.byte info.lsq ++ Encoder.byte info.chs))))

/-- The object of `F_LS_NA_1`. -/
def lastSectionOrSegmentObject (ioa : InfoObjAddr) : InfoObjReader LastSectionOrSegmentInfo := do
  let nof ← InfoObjReader.u16
  let nos ← InfoObjReader.byte
  let lsq ← InfoObjReader.byte
  let chs ← InfoObjReader.byte
  return ⟨ioa, nof, nos, lsq, chs⟩

/-- `Asdu::get_last_section_or_segment`. -/
def getLastSectionOrSegment (a : Asdu) : Except Error LastSectionOrSegmentInfo :=
  a.read (a.singleObject lastSectionOrSegmentObject)

/-- `Asdu::ack_file_or_section`. -/
def ackFileOrSection (info : AckFileOrSectionInfo) : Except Error Asdu := do
  checkFileCause params coa [.FILE_TRANSFER]
  buildSingle (.ok (startFile params .F_AF_NA_1 coa ca)) info.ioa
    (.ok (Encoder.u16 info.nof ++ (Encoder.byte info.nos ++ Encoder.byte info.afq.value)))

/-- The object of `F_AF_NA_1`. -/
def ackFileOrSectionObject (ioa : InfoObjAddr) : InfoObjReader AckFileOrSectionInfo := do
  let nof ← InfoObjReader.u16
  let nos ← InfoObjReader.byte
  let afq ← InfoObjReader.byte
  return ⟨ioa, nof, nos, .parse afq⟩

/-- `Asdu::get_ack_file_or_section`. -/
def getAckFileOrSection (a : Asdu) : Except Error AckFileOrSectionInfo :=
  a.read (a.singleObject ackFileOrSectionObject)

/-- `Asdu::file_segment`, which fits an ASDU and has its length before it. -/
def fileSegment (info : SegmentInfo) : Except Error Asdu := do
  checkFileCause params coa [.FILE_TRANSFER]
  if info.segment.length > params.maxSegmentSize then .error .lengthOutOfRange
  else
    buildSingle (.ok (startFile params .F_SG_NA_1 coa ca)) info.ioa
      (.ok (Encoder.u16 info.nof ++ (Encoder.byte info.nos ++
        (Encoder.byte info.segment.length.toUInt8 ++ info.segment))))

/-- The object of `F_SG_NA_1`: as many octets as its own length says. -/
def fileSegmentObject (ioa : InfoObjAddr) : InfoObjReader SegmentInfo := do
  let nof ← InfoObjReader.u16
  let nos ← InfoObjReader.byte
  let los ← InfoObjReader.byte
  let segment ← InfoObjReader.take los.toNat
  return ⟨ioa, nof, nos, segment⟩

/-- `Asdu::get_file_segment`. -/
def getFileSegment (a : Asdu) : Except Error SegmentInfo :=
  a.read (a.singleObject fileSegmentObject)

variable (host : Host)

/-- The entries of a directory. -/
def writeDirectory : List DirectoryInfo → Except Error Octets
  | [] => .ok []
  | v :: vs => do
    checkLengthOfFile v.lengthOfFile
    let addr ← Encoder.infoObjAddr params v.ioa
    let rest ← writeDirectory vs
    return addr ++ (Encoder.u16 v.nof ++ Encoder.lengthOfFile v.lengthOfFile ++
      Encoder.byte v.sof.value ++ Encoder.cp56time2aTag host params v.time v.timeFlags ++ rest)

/-- `Asdu::file_directory`: the entries with an address each, never as a sequence. -/
def fileDirectory (infos : List DirectoryInfo) : Except Error Asdu := do
  checkFileCause params coa [.SPONTANEOUS, .REQUEST]
  let u ← start params .F_DR_TA_1 false coa ca infos.length
  let infoObj ← writeDirectory params host infos
  return { u with infoObj }

/-- One entry of a directory. -/
def directoryObject (ioa : InfoObjAddr) : InfoObjReader DirectoryInfo := do
  let nof ← InfoObjReader.u16
  let lengthOfFile ← InfoObjReader.lengthOfFile
  let sof ← InfoObjReader.byte
  let time ← InfoObjReader.cp56time2aTag host params
  let timeFlags ← InfoObjReader.timeFlags
  return ⟨ioa, nof, lengthOfFile, .parse sof, time, timeFlags⟩

/-- The getter of a directory, through the reader: every entry has its address. -/
def directoryObjects (a : Asdu) : InfoObjReader (List DirectoryInfo) :=
  readObjects a.params false (directoryObject a.params host) 0
    a.identifier.variable'.number.toNat 0

/-- `Asdu::get_file_directory`. -/
def getFileDirectory (a : Asdu) : Except Error (List DirectoryInfo) :=
  a.read (directoryObjects host a)

end builders

end Asdu

end Iec60870
