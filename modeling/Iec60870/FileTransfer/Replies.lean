import Iec60870.FileTransfer.Messages
import Iec60870.FileTransfer.Sender
import Iec60870.FileTransfer.Receiver

/-!
# The replies as messages

What the two ends of a transfer send, as messages of the procedure: which
replies can be built, and what they then are.

## Main results

* `Sender.announceSection_eq_ok`, `Sender.serveSection_eq_ok`,
  `Sender.lastSection_eq_ok` — the replies of the sender.
* `Receiver.call_eq_ok`, `Receiver.ack_eq_ok` — those of the receiver.
-/

namespace Iec60870
namespace FileTransfer

namespace Message

variable {params : Params} {ca : UInt16}

/-- Several messages are built when each of them is. -/
theorem buildAll_eq_ok {ms : List Message} {as : List Asdu} :
    ms.mapM (build params ca) = .ok as ↔
      (∀ m ∈ ms, params.Carries m.ioa ∧ m.LengthFits params) ∧ as = ms.map (asdu params ca) :=
  mapM_eq_ok fun _ _ _ => build_eq_ok.trans and_assoc.symm

end Message

open Message

namespace Sender

variable {params : Params} {t : Active} {as : List Asdu}

/-! ### The sender -/

/-- The announcement of the current section, numbered from one. -/
def Active.announcement (t : Active) (sec : Octets) : Message :=
  .sectionReady ⟨t.ioa, t.nof, .ofNat (t.cur + 1), .ofNat sec.length, ⟨0, false⟩⟩

/-- The end of the current section, with its checksum. -/
def Active.sectionEnd (t : Active) (sec : Octets) : Message :=
  .marker ⟨t.ioa, t.nof, .ofNat (t.cur + 1), .SECTION_WITHOUT_DEACTIVATE, fileChecksum sec⟩

/-- One segment of the current section, as many octets as fit an ASDU. -/
def Active.segment (t : Active) (octets : Octets) : Message :=
  .segment ⟨t.ioa, t.nof, .ofNat (t.cur + 1), octets⟩

/-- The current section in segments of at most `max` octets, with its end. -/
def Active.data (t : Active) (max : ℕ) (sec : Octets) : List Message :=
  (sec.chunks max).map t.segment ++ [t.sectionEnd sec]

/-- The end of the file, with the checksums of its sections summed up. -/
def Active.fileEnd (t : Active) : Message :=
  .marker ⟨t.ioa, t.nof, .ofNat t.sections.length, .FILE_WITHOUT_DEACTIVATE,
    t.sections.foldl (fun sum sec => sum + fileChecksum sec) 0⟩

/-- The confirmation of a selection. -/
def Active.confirmation (t : Active) (len : ℕ) : Message :=
  .fileReady ⟨t.ioa, t.nof, .ofNat len, ⟨0, false⟩⟩

/-- A reply of one message. -/
theorem single_eq_ok {ca : UInt16} {m : Message} :
    (do let a ← m.build params ca; return [a]) = .ok as ↔
      params.Carries m.ioa ∧ m.LengthFits params ∧ as = [m.asdu params ca] := by
  constructor
  · intro h
    obtain ⟨a, ha, h⟩ := bind_eq_ok.mp h
    cases h
    obtain ⟨hc, hl, rfl⟩ := build_eq_ok.mp ha
    exact ⟨hc, hl, rfl⟩
  · rintro ⟨hc, hl, rfl⟩
    rw [build_eq_ok.mpr ⟨hc, hl, rfl⟩]
    rfl

theorem fileReady_eq_ok {len : ℕ} :
    fileReady params t len = .ok as ↔ params.Carries t.ioa ∧
      UInt32.ofNat len ≤ LENGTH_OF_FILE_MAX ∧ as = [(t.confirmation len).asdu params t.ca] :=
  single_eq_ok (m := t.confirmation len)

theorem lastSection_eq_ok :
    lastSection params t = .ok as ↔ params.Carries t.ioa ∧ as = [t.fileEnd.asdu params t.ca] := by
  refine (single_eq_ok (m := t.fileEnd)).trans ?_
  exact and_congr_right fun _ => and_iff_right trivial

theorem announceSection_eq_ok {sec : Octets} :
    announceSection params t sec = .ok as ↔ params.Carries t.ioa ∧
      UInt32.ofNat sec.length ≤ LENGTH_OF_FILE_MAX ∧
        as = [(t.announcement sec).asdu params t.ca] :=
  single_eq_ok (m := t.announcement sec)

/-- **The data of a section.** -/
theorem serveSection_eq_ok {sec : Octets} :
    serveSection params t sec = .ok as ↔ params.Carries t.ioa ∧
      as = (t.data params.maxSegmentSize sec).map (asdu params t.ca) := by
  -- the segments and the marker are the messages of `data`, built one by one
  have hall : serveSection params t sec =
      if params.maxSegmentSize = 0 then Except.error Error.param
      else (t.data params.maxSegmentSize sec).mapM (build params t.ca) := by
    unfold serveSection Active.data
    rw [List.mapM_append, List.mapM_map, List.mapM_cons, List.mapM_nil]
    simp only [bind_assoc, pure_bind]
    rfl
  rw [hall]
  have hfits : ∀ m ∈ t.data params.maxSegmentSize sec,
      m.ioa = t.ioa ∧ m.LengthFits params := by
    intro m hm
    rcases List.mem_append.mp hm with hm | hm
    · obtain ⟨c, hc, rfl⟩ := List.mem_map.mp hm
      exact ⟨rfl, List.length_le_of_mem_chunks hc⟩
    · rw [List.mem_singleton.mp hm]
      exact ⟨rfl, trivial⟩
  have hend : t.sectionEnd sec ∈ t.data params.maxSegmentSize sec :=
    List.mem_append_right _ (List.mem_singleton.mpr rfl)
  constructor
  · intro h
    split at h
    · cases h
    · obtain ⟨hms, rfl⟩ := buildAll_eq_ok.mp h
      exact ⟨(hms _ hend).1, rfl⟩
  · rintro ⟨hc, rfl⟩
    rw [if_neg (maxSegmentSize_pos hc.1).ne']
    refine buildAll_eq_ok.mpr ⟨fun m hm => ?_, rfl⟩
    obtain ⟨hioa, hl⟩ := hfits m hm
    exact ⟨hioa ▸ hc, hl⟩

/-- The directory fits some entries into an ASDU. -/
theorem directoryCapacity_pos (hw : params.WellFormed) : 0 < directoryCapacity params := by
  have hid := hw.identifierSize_bounds
  have haddr := UInt8.le_iff_toNat_le.mp hw.2.2.2
  have h3 : (3 : UInt8).toNat = 3 := rfl
  have h249 : ASDU_SIZE_MAX = 249 := rfl
  have hdiv : 0 < (ASDU_SIZE_MAX - params.identifierSize) / (params.infoObjAddrSize.toNat + 13) :=
    Nat.div_pos (by omega) (by omega)
  unfold directoryCapacity
  omega

end Sender

/-! ### The receiver -/

namespace Receiver

variable {params : Params} {t : Active} {a : Asdu}

theorem call_eq_ok {nos : UInt8} {action : ScqAction} :
    t.call params nos action = .ok a ↔ params.Carries t.ioa ∧
      a = (Message.call ⟨t.ioa, t.nof, nos, ⟨action, .NONE⟩⟩).asdu params t.ca := by
  refine (build_eq_ok (m := .call ⟨t.ioa, t.nof, nos, ⟨action, .NONE⟩⟩)).trans ?_
  exact and_congr_right fun _ => and_iff_right trivial

theorem ack_eq_ok {nos : UInt8} {action : AfqAction} {error : FileError} :
    t.ack params nos action error = .ok a ↔ params.Carries t.ioa ∧
      a = (Message.ack ⟨t.ioa, t.nof, nos, ⟨action, error⟩⟩).asdu params t.ca := by
  refine (build_eq_ok (m := .ack ⟨t.ioa, t.nof, nos, ⟨action, error⟩⟩)).trans ?_
  exact and_congr_right fun _ => and_iff_right trivial

end Receiver

end FileTransfer
end Iec60870
