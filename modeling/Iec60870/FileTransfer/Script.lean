import Iec60870.FileTransfer.Ends

/-!
# The moves of a transfer

What each message of a transfer does at the end it is for: one lemma for each
request the sender serves, and one for each answer the receiver acts on.

## Main definitions

* `Sender.served` — the sender while it serves a file.
* `Plant.Serves` — the file is in the sender's store, and can be named on the wire.

## Main results

* `Sender.step_select`, `step_callFile`, `step_requestSection`, `step_posAck` — **the
  sender's moves.**
* `Receiver.step_confirmed`, `step_announced`, `step_data`, `step_sectionEnd`,
  `step_fileEnd` — **the receiver's.**
-/

namespace Iec60870
namespace FileTransfer

/-- The plant serves the file `nof` at `ioa` of `ca` with the content `data`, and its
parameters can carry it. -/
structure Plant.Serves (plant : Plant) (ca : UInt16) (ioa : InfoObjAddr) (nof : NameOfFile)
    (data : Octets) : Prop where
  carries : plant.params.Carries ioa
  encodes : plant.params.EncodesCommonAddr ca
  stored : plant.store.read ioa nof = .ok data
  short : data.length ≤ 2 ^ 24 - 1

theorem ofNat_le_max {k : ℕ} (h : k ≤ 2 ^ 24 - 1) : UInt32.ofNat k ≤ LENGTH_OF_FILE_MAX := by
  have hmax : LENGTH_OF_FILE_MAX.toNat = 2 ^ 24 - 1 := by decide
  rw [UInt32.le_iff_toNat_le, hmax, UInt32.toNat_ofNat_of_lt' (by show k < 2 ^ 32; omega)]
  exact h

/-- The number of a section, from its index. -/
theorem toNat_sectionNumber {i len : ℕ} (hi : i < len) (hlen : len ≤ MAX_SECTIONS) :
    (UInt8.ofNat (i + 1)).toNat = i + 1 := by
  have hmax : MAX_SECTIONS = 255 := rfl
  exact UInt8.toNat_ofNat_of_lt' (by show i + 1 < 2 ^ 8; omega)

theorem sectionNumber_ne_zero {i len : ℕ} (hi : i < len) (hlen : len ≤ MAX_SECTIONS) :
    UInt8.ofNat (i + 1) ≠ 0 := by
  intro h
  have hnat := congrArg UInt8.toNat h
  rw [toNat_sectionNumber hi hlen] at hnat
  cases hnat

/-! ### Reading a message back -/

namespace Message

variable {params : Params} {ca : UInt16}

theorem map_eq_ok {β : Type} {x : Except Error β} {f : β → Message} (hf : f.Injective) {b : β}
    (h : f <$> x = .ok (f b)) : x = .ok b := by
  cases x with
  | error e => cases h
  | ok b' => exact congrArg Except.ok (hf (Except.ok.inj h))

theorem get_fileReady {info : FileReadyInfo} (hc : params.Carries info.ioa)
    (hl : info.lengthOfFile ≤ LENGTH_OF_FILE_MAX) (hr : (fileReady info).Reduced) :
    ((fileReady info).asdu params ca).getFileReady = .ok info :=
  map_eq_ok (fun _ _ => fileReady.inj)
    ((read_fileReady rfl).symm.trans (read_asdu (m := .fileReady info) hc hl hr))

theorem get_sectionReady {info : SectionReadyInfo} (hc : params.Carries info.ioa)
    (hl : info.lengthOfSection ≤ LENGTH_OF_FILE_MAX) (hr : (sectionReady info).Reduced) :
    ((sectionReady info).asdu params ca).getSectionReady = .ok info :=
  map_eq_ok (fun _ _ => sectionReady.inj)
    ((read_sectionReady rfl).symm.trans (read_asdu (m := .sectionReady info) hc hl hr))

theorem get_call {info : CallOrSelectFileInfo} (hc : params.Carries info.ioa)
    (hr : (call info).Reduced) :
    ((call info).asdu params ca).getCallOrSelectFile = .ok info :=
  map_eq_ok (fun _ _ => call.inj)
    ((read_call rfl).symm.trans (read_asdu (m := .call info) hc trivial hr))

theorem get_marker {info : LastSectionOrSegmentInfo} (hc : params.Carries info.ioa) :
    ((marker info).asdu params ca).getLastSectionOrSegment = .ok info :=
  map_eq_ok (fun _ _ => marker.inj)
    ((read_marker rfl).symm.trans (read_asdu (m := .marker info) hc trivial trivial))

theorem get_ack {info : AckFileOrSectionInfo} (hc : params.Carries info.ioa)
    (hr : (ack info).Reduced) :
    ((ack info).asdu params ca).getAckFileOrSection = .ok info :=
  map_eq_ok (fun _ _ => ack.inj)
    ((read_ack rfl).symm.trans (read_asdu (m := .ack info) hc trivial hr))

theorem get_segment {info : SegmentInfo} (hc : params.Carries info.ioa)
    (hl : info.segment.length ≤ params.maxSegmentSize) :
    ((segment info).asdu params ca).getFileSegment = .ok info :=
  map_eq_ok (fun _ _ => segment.inj)
    ((read_segment rfl).symm.trans (read_asdu (m := .segment info) hc hl trivial))

end Message

open Message

/-! ### What the receiver sends -/

/-- The select or call of a file or section without an error. -/
def Message.request (ioa : InfoObjAddr) (nof : NameOfFile) (nos : UInt8) (action : ScqAction) :
    Message := .call ⟨ioa, nof, nos, ⟨action, .NONE⟩⟩

/-- The positive acknowledgement of a file or section. -/
def Message.accept (ioa : InfoObjAddr) (nof : NameOfFile) (nos : UInt8) (action : AfqAction) :
    Message := .ack ⟨ioa, nof, nos, ⟨action, .NONE⟩⟩

theorem reduced_request (ioa : InfoObjAddr) (nof : NameOfFile) (nos : UInt8) {action : ScqAction}
    (h : action < 8) : (request ioa nof nos action).Reduced := by
  have hall : ∀ a : UInt8, a < 8 →
      SelectAndCallQualifier.parse (SelectAndCallQualifier.mk a FileError.NONE).value = ⟨a, FileError.NONE⟩ := by
    decide +kernel
  exact hall action h

theorem reduced_accept (ioa : InfoObjAddr) (nof : NameOfFile) (nos : UInt8) {action : AfqAction}
    (h : action < 8) : (accept ioa nof nos action).Reduced := by
  have hall : ∀ a : UInt8, a < 8 →
      AckFileOrSectionQualifier.parse (AckFileOrSectionQualifier.mk a FileError.NONE).value =
        ⟨a, FileError.NONE⟩ := by
    decide +kernel
  exact hall action h

/-! ### The sender -/

namespace Sender

variable {plant : Plant} {ca : UInt16} {ioa : InfoObjAddr} {nof : NameOfFile} {data sec : Octets}
  {sectionSize cur : ℕ} {s : Sender}

/-- The transfer of a file, at the section `cur`. -/
def serving (ca : UInt16) (ioa : InfoObjAddr) (nof : NameOfFile) (data : Octets)
    (sectionSize cur : ℕ) : Active :=
  ⟨ca, ioa, nof, splitSections data sectionSize, cur⟩

/-- The sender while it serves a file. -/
def served (ca : UInt16) (ioa : InfoObjAddr) (nof : NameOfFile) (data : Octets)
    (sectionSize cur : ℕ) : Sender :=
  ⟨sectionSize, some (serving ca ioa nof data sectionSize cur)⟩

/-- What the sender serves is in the store. -/
structure Genuine (store : Store) (sectionSize : ℕ) (s : Sender) : Prop where
  size : s.sectionSize = sectionSize
  stored : ∀ t, s.active = some t → ∃ data, store.read t.ioa t.nof = .ok data ∧
    t.sections = splitSections data sectionSize

theorem genuine_served {store : Store} (hread : store.read ioa nof = .ok data) (cur : ℕ) :
    Genuine store sectionSize (served ca ioa nof data sectionSize cur) := by
  refine ⟨rfl, fun t ht => ?_⟩
  cases ht
  exact ⟨data, hread, rfl⟩

/-- The announcement of a section, as far as it can be built. -/
theorem sectionReady_serving (params : Params)
    (hsec : (splitSections data sectionSize)[cur]? = some sec) :
    sectionReady params (serving ca ioa nof data sectionSize cur) =
      some (announceSection params (serving ca ioa nof data sectionSize cur) sec) :=
  congrArg (Option.map _) hsec

section moves

variable (hc : plant.params.Carries ioa)

include hc

theorem step_request (s : Sender) (nos : UInt8) {action : ScqAction} (haction : action < 8) :
    step plant.store plant.params s plant.host ((request ioa nof nos action).asdu plant.params ca) =
      onCallOrSelect plant.store plant.params s plant.host
        ((request ioa nof nos action).asdu plant.params ca) ∧
      ((request ioa nof nos action).asdu plant.params ca).getCallOrSelectFile =
        .ok ⟨ioa, nof, nos, ⟨action, .NONE⟩⟩ :=
  ⟨Sender.step_call rfl, get_call hc (reduced_request ioa nof nos haction)⟩

/-- The file is selected. -/
theorem step_select (hread : plant.store.read ioa nof = .ok data) :
    step plant.store plant.params s plant.host
        ((request ioa nof 0 .SELECT_FILE).asdu plant.params ca) =
      some (served ca ioa nof data s.sectionSize 0,
        .ofBuilt (fileReady plant.params (serving ca ioa nof data s.sectionSize 0)
          data.length)) := by
  obtain ⟨hstep, hget⟩ := step_request hc s 0 (show ScqAction.SELECT_FILE < 8 by decide)
  rw [hstep]
  unfold onCallOrSelect
  rw [hget]
  unfold onFileCall openFile
  dsimp only
  rw [hread]
  rfl

/-- The file is called: whatever was served before, its first section is announced. -/
theorem step_callFile (hs : Genuine plant.store sectionSize s)
    (hread : plant.store.read ioa nof = .ok data)
    (hsec : (splitSections data sectionSize)[0]? = some sec) :
    step plant.store plant.params s plant.host
        ((request ioa nof 0 .REQUEST_FILE).asdu plant.params ca) =
      some (served ca ioa nof data sectionSize 0,
        .ofBuilt (announceSection plant.params (serving ca ioa nof data sectionSize 0) sec)) := by
  obtain ⟨size, active⟩ := s
  obtain ⟨hsize, hstored⟩ := hs
  subst hsize
  obtain ⟨hstep, hget⟩ := step_request hc ⟨size, active⟩ 0
    (show ScqAction.REQUEST_FILE < 8 by decide)
  rw [hstep]
  unfold onCallOrSelect
  rw [hget]
  unfold onFileCall
  dsimp only
  cases hcalled : called ⟨size, active⟩ ((request ioa nof 0 .REQUEST_FILE).asdu plant.params ca)
      ⟨ioa, nof, 0, ⟨.REQUEST_FILE, .NONE⟩⟩ with
  | some t =>
    -- the call continues the transfer of this file
    obtain ⟨hactive, hsame⟩ := Option.filter_eq_some_iff.mp hcalled
    obtain ⟨rfl, rfl, rfl⟩ := of_decide_eq_true hsame
    obtain ⟨data', hread', hsections⟩ := hstored t hactive
    cases hread.symm.trans hread'
    have ht : ({ t with cur := 0 } : Active) =
        serving t.ca t.ioa t.nof data size 0 := by
      rw [serving, ← hsections]
    show recallFile plant.params ⟨size, active⟩ t = _
    unfold recallFile
    dsimp only
    rw [ht]
    exact congrArg (Option.bind · _) (sectionReady_serving plant.params hsec)
  -- the file is read and cut into its sections
  | none =>
    show openFile plant.store plant.params ⟨size, active⟩ _ _ false = _
    unfold openFile
    dsimp only
    rw [hread]
    exact congrArg (Option.bind · _) (sectionReady_serving plant.params hsec)

/-- An announced section is called. -/
theorem step_requestSection (hsec : (splitSections data sectionSize)[cur]? = some sec) :
    step plant.store plant.params (served ca ioa nof data sectionSize cur) plant.host
        ((request ioa nof (.ofNat (cur + 1)) .REQUEST_SECTION).asdu plant.params ca) =
      some (served ca ioa nof data sectionSize cur,
        .ofSend (((serving ca ioa nof data sectionSize cur).data plant.params.maxSegmentSize sec).map
          (asdu plant.params ca))) := by
  have hcur : cur < (splitSections data sectionSize).length :=
    (List.getElem?_eq_some_iff.mp hsec).1
  have hne := sectionNumber_ne_zero hcur length_splitSections_le
  have hnum := toNat_sectionNumber hcur length_splitSections_le
  obtain ⟨hstep, hget⟩ := step_request hc (served ca ioa nof data sectionSize cur)
    (.ofNat (cur + 1)) (show ScqAction.REQUEST_SECTION < 8 by decide)
  -- the section is named by its number, which is one more than its place
  have hnamed : namedSection (serving ca ioa nof data sectionSize cur)
      ⟨ioa, nof, .ofNat (cur + 1), ⟨.REQUEST_SECTION, .NONE⟩⟩ = some cur := by
    unfold namedSection sectionIndex
    rw [if_neg (fun h => hne h.2), if_neg hne, hnum]
    exact if_pos hcur
  have hdata : serveSection plant.params (serving ca ioa nof data sectionSize cur) sec = .ok _ :=
    serveSection_eq_ok.mpr ⟨hc, rfl⟩
  rw [hstep]
  unfold onCallOrSelect
  rw [hget]
  unfold onSectionCall
  dsimp only
  have hown : (served ca ioa nof data sectionSize cur).active.filter (fun t => decide (t.nof = nof)) =
      some (serving ca ioa nof data sectionSize cur) := if_pos (decide_eq_true rfl)
  rw [hown]
  dsimp only
  rw [hnamed]
  show (Option.bind (sectionData plant.params (serving ca ioa nof data sectionSize cur)) _) = _
  unfold sectionData
  rw [show (serving ca ioa nof data sectionSize cur).sections[(serving ca ioa nof data sectionSize
    cur).cur]? = some sec from hsec, Option.map_some, hdata]
  rfl

theorem step_accept (s : Sender) (nos : UInt8) {action : AfqAction} (haction : action < 8) :
    step plant.store plant.params s plant.host ((accept ioa nof nos action).asdu plant.params ca) =
      onAck plant.params s ((accept ioa nof nos action).asdu plant.params ca) ∧
      ((accept ioa nof nos action).asdu plant.params ca).getAckFileOrSection =
        .ok ⟨ioa, nof, nos, ⟨action, .NONE⟩⟩ :=
  ⟨Sender.step_ack rfl, get_ack hc (reduced_accept ioa nof nos haction)⟩

/-- A section is acknowledged, and another one follows. -/
theorem step_posAck {nos : UInt8}
    (hsec : (splitSections data sectionSize)[cur + 1]? = some sec) :
    step plant.store plant.params (served ca ioa nof data sectionSize cur) plant.host
        ((accept ioa nof nos .POS_ACK_SECTION).asdu plant.params ca) =
      some (served ca ioa nof data sectionSize (cur + 1),
        .ofBuilt (announceSection plant.params (serving ca ioa nof data sectionSize (cur + 1))
          sec)) := by
  obtain ⟨hstep, hget⟩ := step_accept hc (served ca ioa nof data sectionSize cur) nos
    (show AfqAction.POS_ACK_SECTION < 8 by decide)
  have hlt : cur + 1 < (splitSections data sectionSize).length :=
    (List.getElem?_eq_some_iff.mp hsec).1
  rw [hstep]
  unfold onAck
  rw [hget]
  unfold served
  dsimp only
  rw [if_pos rfl, if_pos (show (serving ca ioa nof data sectionSize cur).cur + 1 <
    (serving ca ioa nof data sectionSize cur).sections.length from hlt)]
  exact congrArg (Option.map _) (sectionReady_serving plant.params hsec)

/-- The last section is acknowledged. -/
theorem step_lastAck {nos : UInt8} (hlast : (splitSections data sectionSize).length ≤ cur + 1) :
    step plant.store plant.params (served ca ioa nof data sectionSize cur) plant.host
        ((accept ioa nof nos .POS_ACK_SECTION).asdu plant.params ca) =
      some (served ca ioa nof data sectionSize (cur + 1),
        .ofSend ([(serving ca ioa nof data sectionSize (cur + 1)).fileEnd].map
          (asdu plant.params ca))) := by
  obtain ⟨hstep, hget⟩ := step_accept hc (served ca ioa nof data sectionSize cur) nos
    (show AfqAction.POS_ACK_SECTION < 8 by decide)
  have hend : lastSection plant.params (serving ca ioa nof data sectionSize (cur + 1)) = .ok _ :=
    lastSection_eq_ok.mpr ⟨hc, rfl⟩
  rw [hstep]
  unfold onAck
  rw [hget]
  unfold served
  dsimp only
  rw [if_pos rfl, if_neg (show ¬(serving ca ioa nof data sectionSize cur).cur + 1 <
    (serving ca ioa nof data sectionSize cur).sections.length from Nat.not_lt.mpr hlast)]
  exact congrArg (fun r => some (served ca ioa nof data sectionSize (cur + 1), Reply.ofBuilt r)) hend

/-- The file is acknowledged. -/
theorem step_fileAck {nos : UInt8} :
    step plant.store plant.params (served ca ioa nof data sectionSize cur) plant.host
        ((accept ioa nof nos .POS_ACK_FILE).asdu plant.params ca) =
      some (⟨sectionSize, none⟩, .nothing) := by
  obtain ⟨hstep, hget⟩ := step_accept hc (served ca ioa nof data sectionSize cur) nos
    (show AfqAction.POS_ACK_FILE < 8 by decide)
  rw [hstep]
  unfold onAck
  rw [hget]
  rfl

end moves

/-! What is short enough can be announced. -/

section short

variable (h : plant.Serves ca ioa nof data)

include h

theorem confirmation_built (cur : ℕ) :
    Reply.ofBuilt (fileReady plant.params (serving ca ioa nof data sectionSize cur) data.length) =
      .ofSend ([(serving ca ioa nof data sectionSize cur).confirmation data.length].map
        (asdu plant.params ca)) :=
  congrArg Reply.ofBuilt (fileReady_eq_ok.mpr ⟨h.carries, ofNat_le_max h.short, rfl⟩)

theorem announcement_built (hsec : (splitSections data sectionSize)[cur]? = some sec) :
    Reply.ofBuilt (announceSection plant.params (serving ca ioa nof data sectionSize cur) sec) =
      .ofSend ([(serving ca ioa nof data sectionSize cur).announcement sec].map
        (asdu plant.params ca)) := by
  have hlen := (length_le_of_mem_splitSections (List.mem_of_getElem? hsec)).trans h.short
  exact congrArg Reply.ofBuilt (announceSection_eq_ok.mpr ⟨h.carries, ofNat_le_max hlen, rfl⟩)

/-- The selected file is confirmed. -/
theorem select_confirmed :
    step plant.store plant.params s plant.host
        ((request ioa nof 0 .SELECT_FILE).asdu plant.params ca) =
      some (served ca ioa nof data s.sectionSize 0,
        .ofSend ([(serving ca ioa nof data s.sectionSize 0).confirmation data.length].map
          (asdu plant.params ca))) := by
  rw [step_select h.carries h.stored, confirmation_built h]

/-- The first section of the called file is announced. -/
theorem callFile_announced (hsec : (splitSections data sectionSize)[0]? = some sec) :
    step plant.store plant.params (served ca ioa nof data sectionSize 0) plant.host
        ((request ioa nof 0 .REQUEST_FILE).asdu plant.params ca) =
      some (served ca ioa nof data sectionSize 0,
        .ofSend ([(serving ca ioa nof data sectionSize 0).announcement sec].map
          (asdu plant.params ca))) := by
  rw [step_callFile h.carries (genuine_served h.stored 0) h.stored hsec,
    announcement_built h hsec]

/-- The section after an acknowledged one is announced. -/
theorem posAck_announced {nos : UInt8}
    (hsec : (splitSections data sectionSize)[cur + 1]? = some sec) :
    step plant.store plant.params (served ca ioa nof data sectionSize cur) plant.host
        ((accept ioa nof nos .POS_ACK_SECTION).asdu plant.params ca) =
      some (served ca ioa nof data sectionSize (cur + 1),
        .ofSend ([(serving ca ioa nof data sectionSize (cur + 1)).announcement sec].map
          (asdu plant.params ca))) := by
  rw [step_posAck h.carries hsec, announcement_built h hsec]

end short

end Sender

/-! ### The receiver -/

namespace Receiver

variable {params : Params} {host : Host} {ca : UInt16} {ioa : InfoObjAddr} {nof : NameOfFile}
  {autoAccept : Bool} {t : Active}

/-- The receiver with the transfer `t`. -/
def busy (autoAccept : Bool) (t : Active) : Receiver := ⟨autoAccept, some t⟩

theorem activeFor_busy {m : Message} :
    (busy autoAccept t).activeFor (m.asdu params t.ca).identifier.commonAddr t.ioa t.nof = some t :=
  if_pos (decide_eq_true ⟨rfl, rfl, rfl⟩)

section moves

variable (hc : params.Carries t.ioa)

include hc

theorem call_built (nos : UInt8) (action : ScqAction) :
    Reply.ofBuilt (t.call params nos action) =
      ⟨[request t.ioa t.nof nos action].map (asdu params t.ca), none, none, none⟩ := by
  rw [call_eq_ok.mpr ⟨hc, rfl⟩]
  rfl

/-- The own select is confirmed: the file is called. -/
theorem step_confirmed {len : UInt32} (hl : len ≤ LENGTH_OF_FILE_MAX) (hcalled : t.called = false) :
    step params (busy autoAccept t) host
        ((Message.fileReady ⟨t.ioa, t.nof, len, ⟨0, false⟩⟩).asdu params t.ca) =
      (busy autoAccept { t with called := true },
        ⟨[request t.ioa t.nof 0 .REQUEST_FILE].map (asdu params t.ca), none, none, none⟩) := by
  have hget : ((Message.fileReady ⟨t.ioa, t.nof, len, ⟨0, false⟩⟩).asdu params
      t.ca).getFileReady = .ok ⟨t.ioa, t.nof, len, ⟨0, false⟩⟩ :=
    get_fileReady hc hl
      (show FileReadyQualifier.parse (FileReadyQualifier.mk 0 false).value = ⟨0, false⟩ by decide)
  rw [step_fileReady rfl]
  unfold onFileReady
  rw [hget]
  unfold busy
  dsimp only
  rw [if_neg (by decide), if_neg (by simp [asdu, hcalled, Identifier.new]), call_built hc]

/-- A section is announced: it is called. -/
theorem step_announced {nos : UInt8} {len : UInt32} (hl : len ≤ LENGTH_OF_FILE_MAX) :
    step params (busy autoAccept t) host
        ((Message.sectionReady ⟨t.ioa, t.nof, nos, len, ⟨0, false⟩⟩).asdu params t.ca) =
      (busy autoAccept { t with nos, called := true, sectionBuf := [] },
        ⟨[request t.ioa t.nof nos .REQUEST_SECTION].map (asdu params t.ca), none, none, none⟩) := by
  have hget : ((Message.sectionReady ⟨t.ioa, t.nof, nos, len, ⟨0, false⟩⟩).asdu params
      t.ca).getSectionReady = .ok ⟨t.ioa, t.nof, nos, len, ⟨0, false⟩⟩ :=
    get_sectionReady hc hl
      (show SectionReadyQualifier.parse (SectionReadyQualifier.mk 0 false).value = ⟨0, false⟩ by
        decide)
  have hcall := call_built (t := { t with nos, called := true, sectionBuf := [] }) hc nos
    .REQUEST_SECTION
  rw [step_sectionReady rfl]
  unfold onSectionReady
  rw [hget]
  dsimp only
  rw [activeFor_busy]
  dsimp only
  rw [if_neg (by decide), hcall]
  rfl

/-- A segment of the called section is appended. -/
theorem step_data {segment : Octets} (hl : segment.length ≤ params.maxSegmentSize) :
    step params (busy autoAccept t) host
        ((Message.segment ⟨t.ioa, t.nof, t.nos, segment⟩).asdu params t.ca) =
      (busy autoAccept { t with sectionBuf := t.sectionBuf ++ segment }, .nothing) := by
  have hget : ((Message.segment ⟨t.ioa, t.nof, t.nos, segment⟩).asdu params
      t.ca).getFileSegment = .ok ⟨t.ioa, t.nof, t.nos, segment⟩ :=
    get_segment hc hl
  rw [step_segment rfl]
  unfold onSegment
  rw [hget]
  dsimp only
  rw [activeFor_busy]
  rw [show (some t).filter (fun t' => decide (t'.nos = t.nos)) = some t from
    if_pos (decide_eq_true rfl)]
  rfl

theorem get_marker_own (nos : UInt8) (lsq : LastSectionQualifier) (chs : UInt8) :
    step params (busy autoAccept t) host
        ((Message.marker ⟨t.ioa, t.nof, nos, lsq, chs⟩).asdu params t.ca) =
      if lsq.isEndOfFile then endOfFile params (busy autoAccept t) t nos
      else if lsq = .SECTION_WITHOUT_DEACTIVATE ∨ lsq = .SECTION_WITH_DEACTIVATE then
        endOfSection params (busy autoAccept t) t chs
      else (busy autoAccept t, .nothing) := by
  have hget : ((Message.marker ⟨t.ioa, t.nof, nos, lsq, chs⟩).asdu params
      t.ca).getLastSectionOrSegment = .ok ⟨t.ioa, t.nof, nos, lsq, chs⟩ :=
    get_marker hc
  rw [step_marker rfl]
  unfold onLastSectionOrSegment
  rw [hget]
  dsimp only
  rw [activeFor_busy]

/-- The called section is complete. -/
theorem step_sectionEnd {nos : UInt8} :
    step params (busy autoAccept t) host
        ((Message.marker ⟨t.ioa, t.nof, nos, .SECTION_WITHOUT_DEACTIVATE,
          fileChecksum t.sectionBuf⟩).asdu params t.ca) =
      (busy autoAccept { t with sectionBuf := [], fileBuf := t.fileBuf ++ t.sectionBuf },
        ⟨[accept t.ioa t.nof t.nos .POS_ACK_SECTION].map (asdu params t.ca), none, none, none⟩) := by
  rw [get_marker_own hc, if_neg (by decide), if_pos (.inl rfl)]
  unfold endOfSection
  rw [if_neg (not_not.mpr rfl), ack_eq_ok.mpr ⟨hc, rfl⟩]
  rfl

/-- The file is complete: it is delivered. -/
theorem step_fileEnd {nos chs : UInt8} :
    step params (busy autoAccept t) host
        ((Message.marker ⟨t.ioa, t.nof, nos, .FILE_WITHOUT_DEACTIVATE, chs⟩).asdu params t.ca) =
      (⟨autoAccept, none⟩,
        ⟨[accept t.ioa t.nof nos .POS_ACK_FILE].map (asdu params t.ca),
          some (⟨t.ioa, t.nof, .ofNat t.fileBuf.length, none, false⟩, t.fileBuf), none, none⟩) := by
  rw [get_marker_own hc, if_pos (by decide)]
  unfold endOfFile
  rw [ack_eq_ok.mpr ⟨hc, rfl⟩]
  rfl

end moves

end Receiver

end FileTransfer
end Iec60870
