import Iec60870.Asdu.Consumption
import Iec60870.Asdu.ControlTrip
import Iec60870.FileTransfer.Store

/-!
# The messages of a file transfer

The ASDUs of the procedure as data: which of them can be built, and that each is
sent, received and read back as what it was built from.

## Main definitions

* `Message` — one object of one of the six types of the procedure.
* `Message.build`, `Message.asdu` — its builder; what that builds.

## Main results

* `Message.build_eq_ok` — **what the builders need.**
* `Message.unmarshal_marshal` — **a message survives the wire.**
-/

namespace Iec60870

open Decoder (Yields)

/-- The parameters are valid, and the address fits. -/
def Params.Carries (p : Params) (ioa : InfoObjAddr) : Prop := p.WellFormed ∧ p.FitsAddr ioa

namespace FileTransfer

/-- One object of one of the types of the procedure. -/
inductive Message
  | fileReady (info : FileReadyInfo)
  | sectionReady (info : SectionReadyInfo)
  | call (info : CallOrSelectFileInfo)
  | marker (info : LastSectionOrSegmentInfo)
  | ack (info : AckFileOrSectionInfo)
  | segment (info : SegmentInfo)
  deriving DecidableEq, Repr

namespace Message

def typeId : Message → TypeId
  | fileReady _ => .F_FR_NA_1
  | sectionReady _ => .F_SR_NA_1
  | call _ => .F_SC_NA_1
  | marker _ => .F_LS_NA_1
  | ack _ => .F_AF_NA_1
  | segment _ => .F_SG_NA_1

def ioa : Message → InfoObjAddr
  | fileReady info => info.ioa
  | sectionReady info => info.ioa
  | call info => info.ioa
  | marker info => info.ioa
  | ack info => info.ioa
  | segment info => info.ioa

def nof : Message → NameOfFile
  | fileReady info => info.nof
  | sectionReady info => info.nof
  | call info => info.nof
  | marker info => info.nof
  | ack info => info.nof
  | segment info => info.nof

/-- The octets behind the address, in the order in which the builder writes them. -/
def element : Message → Octets
  | fileReady info => Encoder.u16 info.nof ++ (Encoder.lengthOfFile info.lengthOfFile ++
      Encoder.byte info.frq.value)
  | sectionReady info => Encoder.u16 info.nof ++ (Encoder.byte info.nos ++
      (Encoder.lengthOfFile info.lengthOfSection ++ Encoder.byte info.srq.value))
  | call info => Encoder.u16 info.nof ++ (Encoder.byte info.nos ++ Encoder.byte info.scq.value)
  | marker info => Encoder.u16 info.nof ++ (Encoder.byte info.nos ++
      (Encoder.byte info.lsq ++ Encoder.byte info.chs))
  | ack info => Encoder.u16 info.nof ++ (Encoder.byte info.nos ++ Encoder.byte info.afq.value)
  | segment info => Encoder.u16 info.nof ++ (Encoder.byte info.nos ++
      (Encoder.byte info.segment.length.toUInt8 ++ info.segment))

variable (params : Params) (ca : UInt16)

/-- The builder of a message, each under its name in the source. -/
def build : Message → Except Error Asdu
  | fileReady info => Asdu.fileReady params transfer ca info
  | sectionReady info => Asdu.sectionReady params transfer ca info
  | call info => Asdu.callOrSelectFile params transfer ca info
  | marker info => Asdu.lastSectionOrSegment params transfer ca info
  | ack info => Asdu.ackFileOrSection params transfer ca info
  | segment info => Asdu.fileSegment params transfer ca info

/-- The lengths a builder checks: those that have to fit three octets, and a
segment that has to fit the ASDU. -/
def LengthFits : Message → Prop
  | fileReady info => info.lengthOfFile ≤ LENGTH_OF_FILE_MAX
  | sectionReady info => info.lengthOfSection ≤ LENGTH_OF_FILE_MAX
  | segment info => info.segment.length ≤ params.maxSegmentSize
  | _ => True

/-- What the builder makes of a message: one information object, its address
before its octets. -/
def asdu (m : Message) : Asdu :=
  ⟨params, .new m.typeId .single transfer ca,
    LittleEndian.encode params.infoObjAddrSize.toNat m.ioa.toNat ++ m.element⟩

variable {params ca}

/-- A builder behind the check of its cause. -/
theorem buildFile_eq_ok {typeId : TypeId} {allowed : List Cause} {ioa : InfoObjAddr}
    {octets : Octets} {a : Asdu} (hallowed : Cause.FILE_TRANSFER ∈ allowed) :
    (do checkFileCause params transfer allowed
        buildSingle (.ok (startFile params typeId transfer ca)) ioa (.ok octets)) = .ok a ↔
      params.Carries ioa ∧ a = ⟨params, .new typeId .single transfer ca,
        LittleEndian.encode params.infoObjAddrSize.toNat ioa.toNat ++ octets⟩ := by
  have hcheck : checkFileCause params transfer allowed = params.valid :=
    if_neg (not_not.mpr hallowed)
  rw [hcheck]
  have hsame : (do params.valid
                   buildSingle (.ok (startFile params typeId transfer ca)) ioa (.ok octets)) =
      buildSingle (startSingle params typeId transfer ca) ioa (.ok octets) := by
    unfold buildSingle startSingle startFile
    rw [bind_assoc]
    rfl
  rw [hsame, buildSingle_eq_ok]
  constructor
  · rintro ⟨hw, hfit, octets', heq, rfl⟩
    cases heq
    exact ⟨⟨hw, hfit⟩, rfl⟩
  · rintro ⟨⟨hw, hfit⟩, rfl⟩
    exact ⟨hw, hfit, _, rfl, rfl⟩

/-- A check between the cause and the object commutes with nothing lost. -/
theorem check_between {check valid : Except Error Unit} {build : Except Error Asdu} {a : Asdu} :
    (do valid; check; build) = .ok a ↔ check = .ok () ∧ (do valid; build) = .ok a := by
  constructor
  · intro h
    obtain ⟨u, hvalid, h⟩ := bind_eq_ok.mp h
    obtain ⟨v, hcheck, h⟩ := bind_eq_ok.mp h
    exact ⟨hcheck, bind_eq_ok.mpr ⟨u, hvalid, h⟩⟩
  · rintro ⟨hcheck, h⟩
    obtain ⟨u, hvalid, h⟩ := bind_eq_ok.mp h
    exact bind_eq_ok.mpr ⟨u, hvalid, bind_eq_ok.mpr ⟨(), hcheck, h⟩⟩

theorem checkLengthOfFile_eq_ok {n : UInt32} :
    checkLengthOfFile n = .ok () ↔ n ≤ LENGTH_OF_FILE_MAX := by
  unfold checkLengthOfFile
  split
  · next h => exact ⟨nofun, fun hle => absurd hle (UInt32.not_le.mpr h)⟩
  · next h => exact ⟨fun _ => UInt32.not_lt.mp h, fun _ => rfl⟩

/-- **What the builders need.** -/
theorem build_eq_ok {m : Message} {a : Asdu} :
    m.build params ca = .ok a ↔
      params.Carries m.ioa ∧ m.LengthFits params ∧ a = m.asdu params ca := by
  -- all are built by `buildSingle`, for the cause the type permits; the lengths are checked first
  -- where there is one
  have htransfer : Cause.FILE_TRANSFER ∈ [Cause.FILE_TRANSFER] := List.mem_singleton.mpr rfl
  cases m with
  | fileReady info =>
    refine check_between.trans ?_
    rw [checkLengthOfFile_eq_ok, buildFile_eq_ok htransfer]
    exact and_left_comm
  | sectionReady info =>
    refine check_between.trans ?_
    rw [checkLengthOfFile_eq_ok, buildFile_eq_ok htransfer]
    exact and_left_comm
  | call info =>
    refine (buildFile_eq_ok (by decide)).trans ?_
    exact and_congr_right fun _ => (and_iff_right trivial).symm
  | marker info =>
    refine (buildFile_eq_ok htransfer).trans ?_
    exact and_congr_right fun _ => (and_iff_right trivial).symm
  | ack info =>
    refine (buildFile_eq_ok htransfer).trans ?_
    exact and_congr_right fun _ => (and_iff_right trivial).symm
  | segment info =>
    -- a segment is measured before anything is built
    show Asdu.fileSegment params transfer ca info = .ok a ↔ _
    unfold Asdu.fileSegment
    by_cases h : info.segment.length > params.maxSegmentSize
    · rw [if_pos h]
      constructor
      · intro h'
        obtain ⟨_, -, h'⟩ := bind_eq_ok.mp h'
        cases h'
      · intro h'
        exact absurd h'.2.1 (Nat.not_le.mpr h)
    · rw [if_neg h, buildFile_eq_ok htransfer]
      exact and_congr_right fun _ => (and_iff_right (Nat.not_lt.mp h)).symm

/-! ### Across the wire -/

/-- The qualifiers are read back as they were built. -/
def Reduced : Message → Prop
  | fileReady info => FileReadyQualifier.parse info.frq.value = info.frq
  | sectionReady info => SectionReadyQualifier.parse info.srq.value = info.srq
  | call info => SelectAndCallQualifier.parse info.scq.value = info.scq
  | ack info => AckFileOrSectionQualifier.parse info.afq.value = info.afq
  | _ => True

instance : (m : Message) → Decidable (m.LengthFits params)
  | fileReady _ => inferInstanceAs (Decidable (_ ≤ _))
  | sectionReady _ => inferInstanceAs (Decidable (_ ≤ _))
  | segment _ => inferInstanceAs (Decidable (_ ≤ _))
  | call _ | marker _ | ack _ => isTrue trivial

instance : (m : Message) → Decidable m.Reduced
  | fileReady _ | sectionReady _ | call _ | ack _ => inferInstanceAs (Decidable (_ = _))
  | marker _ | segment _ => isTrue trivial

/-- A message as its receiver decodes it, with the getter of its type. -/
def read (a : Asdu) : Except Error Message :=
  let t := a.identifier.typeId
  if t = .F_FR_NA_1 then fileReady <$> a.getFileReady
  else if t = .F_SR_NA_1 then sectionReady <$> a.getSectionReady
  else if t = .F_SC_NA_1 then call <$> a.getCallOrSelectFile
  else if t = .F_LS_NA_1 then marker <$> a.getLastSectionOrSegment
  else if t = .F_AF_NA_1 then ack <$> a.getAckFileOrSection
  else if t = .F_SG_NA_1 then segment <$> a.getFileSegment
  else .error .typeIdNotMatch

/-! One rule for each type, so that `read` need not be unfolded. -/

theorem read_fileReady {a : Asdu} (ht : a.identifier.typeId = .F_FR_NA_1) :
    read a = fileReady <$> a.getFileReady := by
  unfold read
  dsimp only
  rw [ht]
  rfl

theorem read_sectionReady {a : Asdu} (ht : a.identifier.typeId = .F_SR_NA_1) :
    read a = sectionReady <$> a.getSectionReady := by
  unfold read
  dsimp only
  rw [ht]
  rfl

theorem read_call {a : Asdu} (ht : a.identifier.typeId = .F_SC_NA_1) :
    read a = call <$> a.getCallOrSelectFile := by
  unfold read
  dsimp only
  rw [ht]
  rfl

theorem read_marker {a : Asdu} (ht : a.identifier.typeId = .F_LS_NA_1) :
    read a = marker <$> a.getLastSectionOrSegment := by
  unfold read
  dsimp only
  rw [ht]
  rfl

theorem read_ack {a : Asdu} (ht : a.identifier.typeId = .F_AF_NA_1) :
    read a = ack <$> a.getAckFileOrSection := by
  unfold read
  dsimp only
  rw [ht]
  rfl

theorem read_segment {a : Asdu} (ht : a.identifier.typeId = .F_SG_NA_1) :
    read a = segment <$> a.getFileSegment := by
  unfold read
  dsimp only
  rw [ht]
  rfl

theorem toNat_lt_of_le_max {n : UInt32} (h : n ≤ LENGTH_OF_FILE_MAX) : n.toNat < 2 ^ 24 := by
  have hle := UInt32.le_iff_toNat_le.mp h
  have hmax : LENGTH_OF_FILE_MAX.toNat = 2 ^ 24 - 1 := by decide
  omega

/-- The longest segment leaves room for what goes before it. -/
theorem maxSegmentSize_le (hw : params.WellFormed) :
    params.maxSegmentSize ≤ 255 ∧
      params.identifierSize + params.infoObjAddrSize.toNat + 4 + params.maxSegmentSize ≤ 249 := by
  have hid := hw.identifierSize_bounds
  have haddr := UInt8.le_iff_toNat_le.mp hw.2.2.2
  have h3 : (3 : UInt8).toNat = 3 := rfl
  have hmax : ASDU_SIZE_MAX = 249 := rfl
  unfold Params.maxSegmentSize
  omega

theorem maxSegmentSize_pos (hw : params.WellFormed) : 0 < params.maxSegmentSize := by
  have hid := hw.identifierSize_bounds
  have haddr := UInt8.le_iff_toNat_le.mp hw.2.2.2
  have h3 : (3 : UInt8).toNat = 3 := rfl
  have hmax : ASDU_SIZE_MAX = 249 := rfl
  unfold Params.maxSegmentSize
  omega

/-- A single object read from its address on. -/
theorem read_singleObject {γ : Type} {typeId : TypeId} {w : Octets} {ioa : InfoObjAddr}
    {object : InfoObjAddr → InfoObjReader γ} {v : γ} {t : TimeTagFlags} (hc : params.Carries ioa)
    (hy : Yields (object ioa) w .GOOD v t) :
    Asdu.read ⟨params, .new typeId .single transfer ca,
        LittleEndian.encode params.infoObjAddrSize.toNat ioa.toNat ++ w⟩
      (Asdu.singleObject ⟨params, .new typeId .single transfer ca,
        LittleEndian.encode params.infoObjAddrSize.toNat ioa.toNat ++ w⟩ object) = .ok v := by
  have haddr : Encoder.infoObjAddr params ioa =
      .ok (LittleEndian.encode params.infoObjAddrSize.toNat ioa.toNat) := by
    rw [encoder_infoObjAddr hc.1, if_pos hc.2]
  have hread := ((infoObjAddr_yields (t := .GOOD) hc.1 haddr).bind hy).run
  unfold Asdu.read Asdu.singleObject
  rw [hread]
  rfl

/-- **A message is read back as it was built.** -/
theorem read_asdu {m : Message} (hc : params.Carries m.ioa) (hl : m.LengthFits params)
    (hr : m.Reduced) : read (m.asdu params ca) = .ok m := by
  cases m with
  | fileReady info =>
    have hy : Yields (Asdu.fileReadyObject info.ioa) (element (fileReady info)) .GOOD
        ⟨info.ioa, info.nof, info.lengthOfFile, .parse info.frq.value⟩ .GOOD :=
      (u16_yields _).bind ((lengthOfFile_yields (toNat_lt_of_le_max hl)).bind
        (Yields.map (f := fun b => FileReadyInfo.mk _ _ _ (.parse b)) (byte_yields _)))
    have hget : (asdu params ca (fileReady info)).getFileReady = .ok info := by
      refine (read_singleObject hc hy).trans ?_
      rw [show FileReadyQualifier.parse info.frq.value = info.frq from hr]
    show fileReady <$> _ = _
    rw [hget]
    rfl
  | sectionReady info =>
    have hy : Yields (Asdu.sectionReadyObject info.ioa) (element (sectionReady info)) .GOOD
        ⟨info.ioa, info.nof, info.nos, info.lengthOfSection, .parse info.srq.value⟩ .GOOD :=
      (u16_yields _).bind ((byte_yields _).bind
        ((lengthOfFile_yields (toNat_lt_of_le_max hl)).bind
          (Yields.map (f := fun b => SectionReadyInfo.mk _ _ _ _ (.parse b)) (byte_yields _))))
    have hget : (asdu params ca (sectionReady info)).getSectionReady = .ok info := by
      refine (read_singleObject hc hy).trans ?_
      rw [show SectionReadyQualifier.parse info.srq.value = info.srq from hr]
    show sectionReady <$> _ = _
    rw [hget]
    rfl
  | call info =>
    have hy : Yields (Asdu.callOrSelectFileObject info.ioa) (element (call info)) .GOOD
        ⟨info.ioa, info.nof, info.nos, .parse info.scq.value⟩ .GOOD :=
      (u16_yields _).bind ((byte_yields _).bind
        (Yields.map (f := fun b => CallOrSelectFileInfo.mk _ _ _ (.parse b)) (byte_yields _)))
    have hget : (asdu params ca (call info)).getCallOrSelectFile = .ok info := by
      refine (read_singleObject hc hy).trans ?_
      rw [show SelectAndCallQualifier.parse info.scq.value = info.scq from hr]
    show call <$> _ = _
    rw [hget]
    rfl
  | marker info =>
    have hy : Yields (Asdu.lastSectionOrSegmentObject info.ioa) (element (marker info)) .GOOD
        info .GOOD :=
      (u16_yields _).bind ((byte_yields _).bind ((byte_yields _).bind
        (Yields.map (f := LastSectionOrSegmentInfo.mk _ _ _ _) (byte_yields _))))
    have hget : (asdu params ca (marker info)).getLastSectionOrSegment = .ok info :=
      read_singleObject hc hy
    show marker <$> _ = _
    rw [hget]
    rfl
  | ack info =>
    have hy : Yields (Asdu.ackFileOrSectionObject info.ioa) (element (ack info)) .GOOD
        ⟨info.ioa, info.nof, info.nos, .parse info.afq.value⟩ .GOOD :=
      (u16_yields _).bind ((byte_yields _).bind
        (Yields.map (f := fun b => AckFileOrSectionInfo.mk _ _ _ (.parse b)) (byte_yields _)))
    have hget : (asdu params ca (ack info)).getAckFileOrSection = .ok info := by
      refine (read_singleObject hc hy).trans ?_
      rw [show AckFileOrSectionQualifier.parse info.afq.value = info.afq from hr]
    show ack <$> _ = _
    rw [hget]
    rfl
  | segment info =>
    -- the reader takes as many octets as the length octet before them says
    have hlen := toNat_toUInt8 (Nat.lt_succ_of_le (hl.trans (maxSegmentSize_le hc.1).1))
    have hy : Yields (Asdu.fileSegmentObject info.ioa) (element (segment info)) .GOOD info .GOOD := by
      refine (u16_yields _).bind ((byte_yields _).bind ((byte_yields _).bind ?_))
      have htake := Yields.map (f := SegmentInfo.mk info.ioa info.nof info.nos)
        (Yields.take Error.unexpectedEof info.segment TimeTagFlags.GOOD)
      rw [← hlen] at htake
      exact htake
    have hget : (asdu params ca (segment info)).getFileSegment = .ok info :=
      read_singleObject hc hy
    show segment <$> _ = _
    rw [hget]
    rfl

/-- How many octets the types other than the segment have behind the address. -/
theorem infoObjSize_typeId (m : Message) :
    (∃ info, m = segment info) ∨ m.typeId.infoObjSize = .ok m.element.length := by
  cases m with
  | segment info => exact .inl ⟨info, rfl⟩
  | fileReady info => exact .inr rfl
  | sectionReady info => exact .inr rfl
  | call info => exact .inr rfl
  | marker info => exact .inr rfl
  | ack info => exact .inr rfl

/-- A segment ASDU announces its own length. -/
theorem announcedSize_segment {info : SegmentInfo} (hw : params.WellFormed)
    (hl : (segment info).LengthFits params) :
    (asdu params ca (segment info)).announcedSize =
      .ok (asdu params ca (segment info)).infoObj.length := by
  have hlen := toNat_toUInt8 (Nat.lt_succ_of_le (hl.trans (maxSegmentSize_le hw).1))
  -- behind the address: the name, the section and the length octet, then the segment
  have hinfo : (asdu params ca (segment info)).infoObj.length =
      params.infoObjAddrSize.toNat + 4 + info.segment.length := by
    show (LittleEndian.encode params.infoObjAddrSize.toNat info.ioa.toNat ++
      (Encoder.u16 info.nof ++ (Encoder.byte info.nos ++
        (Encoder.byte info.segment.length.toUInt8 ++ info.segment)))).length = _
    simp only [List.length_append, LittleEndian.length_encode, Encoder.u16, Encoder.byte,
      List.length_singleton]
    omega
  -- the length octet is the fourth behind the address
  have hoctet : (asdu params ca (segment info)).infoObj.getD (params.infoObjAddrSize.toNat + 3) 0 =
      info.segment.length.toUInt8 := by
    show (LittleEndian.encode params.infoObjAddrSize.toNat info.ioa.toNat ++
      (Encoder.u16 info.nof ++ ([info.nos] ++
        ([info.segment.length.toUInt8] ++ info.segment)))).getD _ 0 = _
    rw [List.getD_append_right _ _ _ _ (by rw [LittleEndian.length_encode]; omega),
      LittleEndian.length_encode, Nat.add_sub_cancel_left]
    rfl
  unfold Asdu.announcedSize Asdu.variableInfoObjSize
  rw [if_neg (not_not.mpr (show (asdu params ca (segment info)).identifier.typeId = .F_SG_NA_1
    from rfl))]
  dsimp only
  rw [if_neg (by rw [hinfo]; show ¬_ < params.infoObjAddrSize.toNat + 4; omega),
    show (asdu params ca (segment info)).params = params from rfl, hoctet, hlen, hinfo]
  split
  · next h =>
    have h0 := Option.some.inj h
    omega
  · next h =>
    rw [← Option.some.inj h]
  · next h => cases h

/-- A message announces its own length. -/
theorem announcedSize_asdu {m : Message} (hw : params.WellFormed) (hl : m.LengthFits params) :
    (m.asdu params ca).announcedSize = .ok (m.asdu params ca).infoObj.length := by
  obtain ⟨info, rfl⟩ | hsize := m.infoObjSize_typeId
  · exact announcedSize_segment hw hl
  · have haddr := UInt8.le_iff_toNat_le.mp hw.2.2.1
    have h1 : (1 : UInt8).toNat = 1 := rfl
    rw [Asdu.announcedSize_of_sized hsize]
    show (if 1 * (params.infoObjAddrSize.toNat + m.element.length) = 0 then
        Except.error Error.infoObjIndexFit
      else Except.ok (1 * (params.infoObjAddrSize.toNat + m.element.length))) =
        .ok (LittleEndian.encode params.infoObjAddrSize.toNat m.ioa.toNat ++ m.element).length
    rw [Nat.one_mul, if_neg (by omega), List.length_append, LittleEndian.length_encode]

/-- A message fits an ASDU. -/
theorem length_asdu_le {m : Message} (hw : params.WellFormed) (hl : m.LengthFits params) :
    params.identifierSize + (m.asdu params ca).infoObj.length ≤ ASDU_SIZE_MAX := by
  have hid := hw.identifierSize_bounds
  have haddr := UInt8.le_iff_toNat_le.mp hw.2.2.2
  have h3 : (3 : UInt8).toNat = 3 := rfl
  have hmax : ASDU_SIZE_MAX = 249 := rfl
  show _ + (LittleEndian.encode params.infoObjAddrSize.toNat m.ioa.toNat ++ m.element).length ≤ _
  rw [List.length_append, LittleEndian.length_encode]
  cases m with
  | segment info =>
    -- a segment is as long as the parameters leave room for; the other elements are short
    have hseg := (maxSegmentSize_le hw).2
    have hl' : info.segment.length ≤ params.maxSegmentSize := hl
    have helement : (element (segment info)).length = 4 + info.segment.length := by
      simp only [element, Encoder.u16, Encoder.byte, List.length_append,
        LittleEndian.length_encode, List.length_singleton]
      omega
    omega
  | fileReady info =>
    have helement : (element (fileReady info)).length = 6 := rfl
    omega
  | sectionReady info =>
    have helement : (element (sectionReady info)).length = 7 := rfl
    omega
  | call info =>
    have helement : (element (call info)).length = 4 := rfl
    omega
  | marker info =>
    have helement : (element (marker info)).length = 5 := rfl
    omega
  | ack info =>
    have helement : (element (ack info)).length = 4 := rfl
    omega

/-- **A message survives the wire** when its common address can be encoded. -/
theorem unmarshal_marshal {m : Message} (hw : params.WellFormed) (hl : m.LengthFits params)
    (hca : params.EncodesCommonAddr ca) :
    ∃ raw, (m.asdu params ca).marshalBinary = .ok raw ∧ raw.length ≤ ASDU_SIZE_MAX ∧
      Asdu.unmarshalBinary params raw = .ok (m.asdu params ca) := by
  have hknown : (m.asdu params ca).Known := by
    obtain ⟨info, rfl⟩ | hsize := m.infoObjSize_typeId
    · exact .inr rfl
    · exact .inl (by rw [show (m.asdu params ca).identifier.typeId = m.typeId from rfl, hsize]; rfl)
  have hcount : (m.asdu params ca).CountAllowed :=
    ⟨show 1 ≤ (1 : UInt8) ∧ (1 : UInt8) ≤ 127 by decide, fun _ => ⟨rfl, .inr rfl⟩⟩
  have hsend : (m.asdu params ca).Sendable :=
    ⟨hw, hknown.octet_ne_zero, hcount.1, show Cause.FILE_TRANSFER ≠ .UNUSED by decide, hca.1, hca.2,
      length_asdu_le hw hl, Asdu.checkOutgoing_of_exact hknown hcount (announcedSize_asdu hw hl)⟩
  have hraw := Asdu.marshalBinary_eq_ok_iff.mpr ⟨hsend, rfl⟩
  have hcause : (m.asdu params ca).identifier.coa.cause.octet < 64 :=
    show Cause.FILE_TRANSFER.octet < 64 by decide
  refine ⟨_, hraw, (Asdu.length_of_marshalBinary hraw).2, ?_⟩
  exact Asdu.unmarshal_marshal hcause (fun _ => rfl) hknown hraw

end Message

end FileTransfer
end Iec60870
