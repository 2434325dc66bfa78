import Iec60870.Asdu.MonitorTrip
import Iec60870.FileTransfer.Replies

/-!
# The directory

A listing is cut into ASDUs of as many entries as fit, and is sent whole or not
at all.

## Main definitions

* `Lists` — a received entry is the one of the listing.
* `Delivers` — an ASDU of a directory is sent and received.

## Main results

* `Sender.directory_lists` — **the reply is the listing, or nothing is sent.**
-/

namespace Iec60870

open Decoder (Yields)

/-! ### One ASDU -/

section asdu

variable {host : Host} {params : Params} {ca : UInt16} {infos : List DirectoryInfo}

/-- An entry behind its address. -/
def directoryElement (host : Host) (params : Params) (v : DirectoryInfo) : Octets :=
  Encoder.u16 v.nof ++ Encoder.lengthOfFile v.lengthOfFile ++ Encoder.byte v.sof.value ++
    Encoder.cp56time2aTag host params v.time v.timeFlags

/-- The entries with their addresses. -/
def directoryOctets (host : Host) (params : Params) (infos : List DirectoryInfo) : Octets :=
  infos.flatMap fun v =>
    LittleEndian.encode params.infoObjAddrSize.toNat v.ioa.toNat ++ directoryElement host params v

/-- What the builder of a directory makes of some entries. -/
def directoryAsdu (host : Host) (params : Params) (ca : UInt16) (infos : List DirectoryInfo) : Asdu :=
  ⟨params, .new .F_DR_TA_1 ⟨infos.length.toUInt8, false⟩ (.new .REQUEST) ca,
    directoryOctets host params infos⟩

/-- The length and the address of an entry fit. -/
def DirectoryInfo.Fits (params : Params) (v : DirectoryInfo) : Prop :=
  v.lengthOfFile ≤ LENGTH_OF_FILE_MAX ∧ params.FitsAddr v.ioa

theorem writeDirectory_eq_ok (hw : params.WellFormed) {w : Octets} :
    Asdu.writeDirectory params host infos = .ok w ↔
      (∀ v ∈ infos, v.Fits params) ∧ w = directoryOctets host params infos := by
  induction infos generalizing w with
  | nil =>
    constructor
    · intro h
      cases h
      exact ⟨nofun, rfl⟩
    · rintro ⟨-, rfl⟩
      rfl
  | cons v vs ih =>
    rw [List.forall_mem_cons]
    unfold Asdu.writeDirectory
    constructor
    -- the checks of the length and of the address are passed one after the other
    · intro h
      obtain ⟨_, hlen, h⟩ := bind_eq_ok.mp h
      obtain ⟨addr, haddr, h⟩ := bind_eq_ok.mp h
      obtain ⟨rest, hrest, h⟩ := bind_eq_ok.mp h
      cases h
      obtain ⟨hall, rfl⟩ := ih.mp hrest
      rw [encoder_infoObjAddr hw] at haddr
      split at haddr
      · next hfit =>
        cases haddr
        refine ⟨⟨⟨FileTransfer.Message.checkLengthOfFile_eq_ok.mp hlen, hfit⟩, hall⟩, ?_⟩
        exact (List.append_assoc _ _ _).symm
      · cases haddr
    · rintro ⟨⟨⟨hlen, hfit⟩, hall⟩, rfl⟩
      rw [FileTransfer.Message.checkLengthOfFile_eq_ok.mpr hlen]
      show (Encoder.infoObjAddr params v.ioa >>= _) = _
      rw [encoder_infoObjAddr hw, if_pos hfit, ih.mpr ⟨hall, rfl⟩]
      exact congrArg Except.ok (List.append_assoc _ _ _).symm

theorem length_directoryOctets :
    (directoryOctets host params infos).length =
      infos.length * (params.infoObjAddrSize.toNat + 13) := by
  induction infos with
  | nil => rw [List.length_nil, Nat.zero_mul]; rfl
  | cons v vs ih =>
    have helement : (directoryElement host params v).length = 13 := by
      unfold directoryElement
      rw [List.length_append, Encoder.cp56time2aTag, length_cp56time2aTag]
      rfl
    have hcons : directoryOctets host params (v :: vs) =
        LittleEndian.encode params.infoObjAddrSize.toNat v.ioa.toNat ++
          directoryElement host params v ++ directoryOctets host params vs := rfl
    rw [hcons, List.length_append, List.length_append, LittleEndian.length_encode, helement, ih,
      List.length_cons, Nat.succ_mul]
    omega

/-- As many entries as one ASDU takes. -/
theorem length_directory_le (hn : infos.length ≤ FileTransfer.Sender.directoryCapacity params)
    (hw : params.WellFormed) :
    params.identifierSize + infos.length * (13 + params.infoObjAddrSize.toNat) ≤ ASDU_SIZE_MAX ∧
      infos.length ≤ 127 := by
  have hid := hw.identifierSize_bounds
  have h249 : ASDU_SIZE_MAX = 249 := rfl
  unfold FileTransfer.Sender.directoryCapacity at hn
  have hcap := Nat.mul_le_of_le_div _ _ _ (hn.trans (Nat.min_le_left _ _))
  rw [Nat.add_comm 13]
  omega

/-- **What the builder of a directory needs.** -/
theorem fileDirectory_eq_ok (hw : params.WellFormed) (hne : infos ≠ [])
    (hn : infos.length ≤ FileTransfer.Sender.directoryCapacity params) {a : Asdu} :
    Asdu.fileDirectory params (.new .REQUEST) ca host infos = .ok a ↔
      (∀ v ∈ infos, v.Fits params) ∧ a = directoryAsdu host params ca infos := by
  obtain ⟨hsize, hcount⟩ := length_directory_le hn hw
  have hpos := List.length_pos_iff.mpr hne
  -- the cause is one of the two a directory may have
  have hcause : checkFileCause params (.new .REQUEST) [.SPONTANEOUS, .REQUEST] = .ok () := by
    unfold checkFileCause
    rw [if_neg (by decide)]
    exact Params.valid_eq_ok.mpr hw
  -- a batch fits one ASDU, so the count and the size are accepted
  have hvalid : Asdu.checkValid params .F_DR_TA_1 false infos.length = .ok () := by
    unfold Asdu.checkValid
    rw [if_neg hpos.ne', show TypeId.F_DR_TA_1.infoObjSize = .ok 13 from rfl,
      Params.valid_eq_ok.mpr hw]
    exact if_neg (Nat.not_lt.mpr hsize)
  have hstart : start params .F_DR_TA_1 false (.new .REQUEST) ca infos.length =
      .ok ⟨params, .new .F_DR_TA_1 ⟨infos.length.toUInt8, false⟩ (.new .REQUEST) ca, []⟩ := by
    unfold start
    rw [hvalid]
    show Asdu.setVariableNumber _ _ = _
    unfold Asdu.setVariableNumber
    rw [if_neg (by omega)]
    rfl
  unfold Asdu.fileDirectory
  rw [hcause, hstart]
  show (Asdu.writeDirectory params host infos >>= _) = _ ↔ _
  constructor
  · intro h
    obtain ⟨w, hwrite, h⟩ := bind_eq_ok.mp h
    cases h
    obtain ⟨hall, rfl⟩ := (writeDirectory_eq_ok hw).mp hwrite
    exact ⟨hall, rfl⟩
  · rintro ⟨hall, rfl⟩
    rw [(writeDirectory_eq_ok hw).mpr ⟨hall, rfl⟩]
    rfl

/-! ### Across the wire -/

/-- An ASDU of a directory is sent, and received as it was built. -/
theorem directoryAsdu_delivered (hw : params.WellFormed) (hca : params.EncodesCommonAddr ca)
    (hne : infos ≠ []) (hn : infos.length ≤ FileTransfer.Sender.directoryCapacity params) :
    ∃ raw, (directoryAsdu host params ca infos).marshalBinary = .ok raw ∧
      raw.length ≤ ASDU_SIZE_MAX ∧
      Asdu.unmarshalBinary params raw = .ok (directoryAsdu host params ca infos) := by
  obtain ⟨hsize, hcount⟩ := length_directory_le hn hw
  have hpos := List.length_pos_iff.mpr hne
  have hnumber : infos.length.toUInt8.toNat = infos.length := toNat_toUInt8 (by omega)
  have hone : (1 : UInt8).toNat = 1 := rfl
  have hmax : (127 : UInt8).toNat = 127 := rfl
  have hcountok : (directoryAsdu host params ca infos).CountAllowed := by
    -- the count is at least one and fits seven bits
    refine ⟨⟨UInt8.le_iff_toNat_le.mpr ?_, UInt8.le_iff_toNat_le.mpr ?_⟩, fun _ => ⟨rfl, .inl rfl⟩⟩
    · show (1 : UInt8).toNat ≤ infos.length.toUInt8.toNat
      omega
    · show infos.length.toUInt8.toNat ≤ (127 : UInt8).toNat
      omega
  have hknown : (directoryAsdu host params ca infos).Known := .inl rfl
  -- what is announced is what is there: so many objects of thirteen octets and an address
  have hannounced : (directoryAsdu host params ca infos).announcedSize =
      .ok (directoryAsdu host params ca infos).infoObj.length := by
    have hsized : (directoryAsdu host params ca infos).identifier.typeId.infoObjSize = .ok 13 := rfl
    rw [Asdu.announcedSize_of_sized hsized]
    show (if infos.length.toUInt8.toNat * (params.infoObjAddrSize.toNat + 13) = 0 then
        Except.error Error.infoObjIndexFit
      else .ok (infos.length.toUInt8.toNat * (params.infoObjAddrSize.toNat + 13))) =
        .ok (directoryOctets host params infos).length
    rw [hnumber, length_directoryOctets, if_neg (Nat.mul_ne_zero hpos.ne' (by omega))]
  have hsend : (directoryAsdu host params ca infos).Sendable := by
    refine ⟨hw, hknown.octet_ne_zero, hcountok.1, show Cause.REQUEST ≠ .UNUSED by decide, hca.1,
      hca.2, ?_, Asdu.checkOutgoing_of_exact hknown hcountok hannounced⟩
    show _ + (directoryOctets host params infos).length ≤ _
    rw [length_directoryOctets, Nat.add_comm _ 13]
    exact hsize
  have hraw := Asdu.marshalBinary_eq_ok_iff.mpr ⟨hsend, rfl⟩
  have hcause : (directoryAsdu host params ca infos).identifier.coa.cause.octet < 64 :=
    show Cause.REQUEST.octet < 64 by decide
  exact ⟨_, hraw, (Asdu.length_of_marshalBinary hraw).2,
    Asdu.unmarshal_marshal hcause (fun _ => rfl) hknown hraw⟩

/-- An entry as its receiver decodes it. -/
def DirectoryInfo.received (host : Host) (params : Params) (v : DirectoryInfo) : DirectoryInfo :=
  let r := parseCp56time2aTag host (Encoder.cp56time2aTag host params v.time v.timeFlags)
    params.infoObjTimeZone
  { v with time := r.1, timeFlags := r.2 }

theorem cp56time2aTag_yields_parse (tm : Option DateTime) (flags t : TimeTagFlags) :
    Yields (InfoObjReader.cp56time2aTag host params) (Encoder.cp56time2aTag host params tm flags) t
      (parseCp56time2aTag host (Encoder.cp56time2aTag host params tm flags)
        params.infoObjTimeZone).1
      (parseCp56time2aTag host (Encoder.cp56time2aTag host params tm flags)
        params.infoObjTimeZone).2 := by
  intro rest
  have htake := Yields.take Error.unexpectedEof (Encoder.cp56time2aTag host params tm flags) t rest
  have hlen : (Encoder.cp56time2aTag host params tm flags).length = CP56TIME2A_SIZE :=
    length_cp56time2aTag host tm flags params.infoObjTimeZone
  rw [hlen] at htake
  unfold InfoObjReader.cp56time2aTag
  rw [StateT.run_bind, InfoObjReader.take, htake]
  rfl

/-- An entry is read back, its status in the bits that are sent. -/
theorem directoryObject_yields {v : DirectoryInfo} (hfit : v.Fits params)
    (hsof : StatusOfFile.parse v.sof.value = v.sof) (addr : InfoObjAddr) (t : TimeTagFlags) :
    Yields (Asdu.directoryObject params host addr) (directoryElement host params v) t
      { v.received host params with ioa := addr } (v.received host params).timeFlags := by
  unfold directoryElement
  rw [List.append_assoc, List.append_assoc]
  have hlen := FileTransfer.Message.toNat_lt_of_le_max hfit.1
  refine (u16_yields _).bind ((lengthOfFile_yields hlen).bind ((byte_yields _).bind ?_))
  rw [hsof]
  rw [← List.append_nil (Encoder.cp56time2aTag host params v.time v.timeFlags)]
  exact (cp56time2aTag_yields_parse v.time v.timeFlags t).bind (Yields.map
    (f := DirectoryInfo.mk addr v.nof v.lengthOfFile v.sof (v.received host params).time)
    (timeFlags_yields _))

/-- **A directory is read back entry by entry.** -/
theorem getFileDirectory_directoryAsdu (hw : params.WellFormed)
    (hn : infos.length ≤ FileTransfer.Sender.directoryCapacity params)
    (hfits : ∀ v ∈ infos, v.Fits params)
    (hsof : ∀ v ∈ infos, StatusOfFile.parse v.sof.value = v.sof) :
    (directoryAsdu host params ca infos).getFileDirectory host =
      .ok (infos.map (DirectoryInfo.received host params)) := by
  -- what the builder has written, object by object
  have hwrite (infos : List DirectoryInfo) (hfits : ∀ v ∈ infos, v.Fits params) (i : ℕ) :
      writeObjects params false DirectoryInfo.ioa
        (fun v => .ok (directoryElement host params v)) i infos =
        .ok (directoryOctets host params infos) := by
    induction infos generalizing i with
    | nil => rfl
    | cons v vs ih =>
      unfold writeObjects
      have haddr : writeAddr params false i v.ioa =
          .ok (LittleEndian.encode params.infoObjAddrSize.toNat v.ioa.toNat) := by
        unfold writeAddr writesAddr
        rw [Bool.not_false, Bool.true_or, if_pos rfl, encoder_infoObjAddr hw,
          if_pos (hfits v List.mem_cons_self).2]
      rw [haddr, ih fun v' hv' => hfits v' (List.mem_cons_of_mem _ hv')]
      exact congrArg Except.ok (List.append_assoc _ _ _).symm
  -- and the reader takes each object as it was written
  have hobj : ∀ v ∈ infos, ∀ octets,
      (.ok (directoryElement host params v) : Except Error Octets) = .ok octets →
        ∀ addr (t : TimeTagFlags), True → ∃ t', True ∧
          Yields (Asdu.directoryObject params host addr) octets t
            { v.received host params with ioa := addr } t' := by
    intro v hv octets hoctets addr t _
    cases hoctets
    exact ⟨_, trivial, directoryObject_yields (hfits v hv) (hsof v hv) addr t⟩
  obtain ⟨t', hy⟩ : ∃ t', Yields (readObjects params false (Asdu.directoryObject params host) 0
      infos.length 0) (directoryOctets host params infos) .GOOD
      (assigned false DirectoryInfo.ioa
        (fun addr v => { v.received host params with ioa := addr }) 0 0 infos) t' :=
    readObjects_yields hw hobj trivial (hwrite infos hfits 0)
  have hnumber : infos.length.toUInt8.toNat = infos.length :=
    toNat_toUInt8 (by have := (length_directory_le hn hw).2; omega)
  have hmap : assigned false DirectoryInfo.ioa
      (fun addr v => { v.received host params with ioa := addr }) 0 0 infos =
      infos.map (DirectoryInfo.received host params) := assigned_eq_map fun h => by cases h
  unfold Asdu.getFileDirectory Asdu.read Asdu.directoryObjects
  show (·.1) <$> (readObjects params false (Asdu.directoryObject params host) 0
    infos.length.toUInt8.toNat 0).run ⟨directoryOctets host params infos, .GOOD⟩ = _
  rw [hnumber, hy.run, hmap]
  rfl

end asdu

namespace FileTransfer

/-! ### The listing -/

/-- A received entry is the one of the listing: a time of the years 2000 to 2099
to the millisecond, and an unknown one marked invalid. -/
structure Lists (e : Entry) (info : DirectoryInfo) : Prop where
  ioa : info.ioa = e.ioa
  nof : info.nof = e.nof
  size : info.lengthOfFile = e.size
  isDirectory : info.sof.isDirectory = e.isDirectory
  time : ∀ t, e.time = some t → t.InCentury →
    info.time = some t.truncated ∧ info.timeFlags = .GOOD
  noTime : e.time = none → info.time = none ∧ info.timeFlags.invalid = true

/-- An ASDU of a directory is sent and received as these entries. -/
def Delivers (host : Host) (params : Params) (a : Asdu) (infos : List DirectoryInfo) : Prop :=
  (1 ≤ a.identifier.variable'.number ∧ a.identifier.variable'.number ≤ 127) ∧
    ∃ raw a', a.marshalBinary = .ok raw ∧ raw.length ≤ ASDU_SIZE_MAX ∧
      Asdu.unmarshalBinary params raw = .ok a' ∧ a'.getFileDirectory host = .ok infos

/-- The size and the address of a file fit. -/
def Entry.Fits (params : Params) (e : Entry) : Prop :=
  e.size ≤ LENGTH_OF_FILE_MAX ∧ params.FitsAddr e.ioa

namespace Sender

variable {host : Host} {params : Params} {store : Store} {entries : List Entry} {ca : UInt16}

/-- Only the last entry is marked. -/
theorem isLast_directoryInfos (hne : entries ≠ []) :
    (directoryInfos entries).map (·.sof.isLastFileOfDirectory) =
      List.replicate (entries.length - 1) false ++ [true] := by
  have hpos := List.length_pos_iff.mpr hne
  apply List.ext_getElem
  · simp only [directoryInfos, List.length_map, List.length_mapIdx, List.length_append,
      List.length_replicate, List.length_singleton]
    omega
  · intro i hi _
    simp only [directoryInfos, List.length_map, List.length_mapIdx] at hi
    simp only [directoryInfos, List.getElem_map, List.getElem_mapIdx]
    by_cases hlast : i = entries.length - 1
    · subst hlast
      rw [List.getElem_append_right (by rw [List.length_replicate])]
      simp
    · rw [List.getElem_append_left (by rw [List.length_replicate]; omega),
        List.getElem_replicate]
      exact beq_false_of_ne hlast

/-- The entries as they are sent, one by one. -/
theorem mem_directoryInfos {v : DirectoryInfo} :
    v ∈ directoryInfos entries ↔ ∃ i, ∃ h : i < entries.length,
      v = ⟨entries[i].ioa, entries[i].nof, entries[i].size,
        ⟨0, i == entries.length - 1, entries[i].isDirectory, false⟩, entries[i].time, .GOOD⟩ := by
  unfold directoryInfos
  rw [List.mem_mapIdx]
  exact exists_congr fun i => exists_congr fun _ => eq_comm

/-- A sent entry arrives as the one of the listing. -/
theorem lists_received (hz : params.infoObjTimeZone = .utc) (e : Entry) (last : Bool) :
    Lists e (DirectoryInfo.received host params
      ⟨e.ioa, e.nof, e.size, ⟨0, last, e.isDirectory, false⟩, e.time, .GOOD⟩) where
  ioa := rfl
  nof := rfl
  size := rfl
  isDirectory := rfl
  -- the time survives in the century it can be told in
  time := by
    intro t ht hcentury
    have hparse := parseCp56time2aTag_cp56time2aTag host (t := e.time) (by
      rw [ht]
      rintro t' ⟨⟩
      exact hcentury) .GOOD
    unfold DirectoryInfo.received Encoder.cp56time2aTag
    rw [hz]
    dsimp only
    rw [hparse, ht]
    exact ⟨rfl, rfl⟩
  noTime := by
    intro hnone
    have hparse := parseCp56time2aTag_cp56time2aTag host (t := e.time) (by
      rw [hnone]
      exact nofun) .GOOD
    unfold DirectoryInfo.received Encoder.cp56time2aTag
    rw [hz]
    dsimp only
    rw [hparse, hnone]
    exact ⟨rfl, rfl⟩

/-- **The reply is the listing, or nothing is sent.** -/
theorem directory_lists (hw : params.WellFormed) (hz : params.infoObjTimeZone = .utc)
    (hca : params.EncodesCommonAddr ca) (hlist : store.list = .ok entries) (hne : entries ≠ []) :
    ((∀ e ∈ entries, e.Fits params) → ∃ asdus batches,
        directory host store params ca = some (.ofSend asdus) ∧
          List.Forall₂ (Delivers host params) asdus batches ∧
          List.Forall₂ Lists entries batches.flatten ∧
          batches.flatten.map (·.sof.isLastFileOfDirectory) =
            List.replicate (entries.length - 1) false ++ [true]) ∧
      (¬(∀ e ∈ entries, e.Fits params) →
        ∃ err, directory host store params ca = some (.failed err)) := by
  have hcap := directoryCapacity_pos hw
  -- a batch is not empty, fits one ASDU, and has its entries from the listing
  have hchunk {infos : List DirectoryInfo}
      (h : infos ∈ (directoryInfos entries).chunks (directoryCapacity params)) :
      infos ≠ [] ∧ infos.length ≤ directoryCapacity params ∧
        ∀ v ∈ infos, v ∈ directoryInfos entries :=
    ⟨List.ne_nil_of_mem_chunks hcap h, List.length_le_of_mem_chunks h,
      fun v hv => by
        rw [← List.flatten_chunks hcap (directoryInfos entries)]
        exact List.mem_flatten_of_mem h hv⟩
  have hsof : ∀ v ∈ directoryInfos entries, StatusOfFile.parse v.sof.value = v.sof := by
    intro v hv
    obtain ⟨i, hi, rfl⟩ := mem_directoryInfos.mp hv
    have hbits : ∀ last dir : Bool, StatusOfFile.parse (StatusOfFile.value ⟨0, last, dir, false⟩) =
        ⟨0, last, dir, false⟩ := by decide
    exact hbits _ _
  -- the builder succeeds for every batch, or for none of it anything is sent
  have hbuilt (asdus : List Asdu) :
      ((directoryInfos entries).chunks (directoryCapacity params)).mapM
          (Asdu.fileDirectory params (.new .REQUEST) ca host) = .ok asdus ↔
        (∀ infos ∈ (directoryInfos entries).chunks (directoryCapacity params),
            ∀ v ∈ infos, v.Fits params) ∧
          asdus = ((directoryInfos entries).chunks (directoryCapacity params)).map
            (directoryAsdu host params ca) :=
    mapM_eq_ok fun infos h _ => fileDirectory_eq_ok hw (hchunk h).1 (hchunk h).2.1
  have hdirectory : directory host store params ca =
      some (.ofBuilt (((directoryInfos entries).chunks (directoryCapacity params)).mapM
        (Asdu.fileDirectory params (.new .REQUEST) ca host))) := by
    unfold directory
    rw [hlist]
    dsimp only
    rw [if_neg hne, if_neg hcap.ne']
  rw [hdirectory]
  constructor
  · intro hfits
    have hfitsAll : ∀ v ∈ directoryInfos entries, v.Fits params := by
      intro v hv
      obtain ⟨i, hi, rfl⟩ := mem_directoryInfos.mp hv
      exact hfits _ (List.getElem_mem hi)
    rw [(hbuilt _).mpr ⟨fun infos h v hv => hfitsAll v ((hchunk h).2.2 v hv), rfl⟩]
    have hflat : (((directoryInfos entries).chunks (directoryCapacity params)).map fun infos =>
        infos.map (DirectoryInfo.received host params)).flatten =
        (directoryInfos entries).map (DirectoryInfo.received host params) := by
      rw [← List.map_flatten, List.flatten_chunks hcap]
    refine ⟨_, ((directoryInfos entries).chunks (directoryCapacity params)).map fun infos =>
      infos.map (DirectoryInfo.received host params), rfl, ?_, ?_, ?_⟩
    -- each batch is sent and received by itself
    · rw [List.forall₂_map_left_iff, List.forall₂_map_right_iff, List.forall₂_same]
      intro infos h
      obtain ⟨hne', hlen, hmem⟩ := hchunk h
      obtain ⟨raw, hraw, hshort, hread⟩ : ∃ raw,
          (directoryAsdu host params ca infos).marshalBinary = .ok raw ∧
            raw.length ≤ ASDU_SIZE_MAX ∧
            Asdu.unmarshalBinary params raw = .ok (directoryAsdu host params ca infos) :=
        directoryAsdu_delivered hw hca hne' hlen
      refine ⟨(Asdu.marshalBinary_eq_ok_iff.mp hraw).1.count, raw, _, hraw, hshort, hread, ?_⟩
      exact getFileDirectory_directoryAsdu hw hlen (fun v hv => hfitsAll v (hmem v hv))
        fun v hv => hsof v (hmem v hv)
    -- put together the batches are the listing again
    · rw [hflat, List.forall₂_map_right_iff]
      refine List.forall₂_iff_get.mpr ⟨?_, fun i h h' => ?_⟩
      · unfold directoryInfos
        rw [List.length_mapIdx]
      · simp only [directoryInfos, List.get_eq_getElem, List.getElem_mapIdx]
        exact lists_received hz _ _
    · rw [hflat, List.map_map]
      exact isLast_directoryInfos hne
  · intro hfits
    -- an entry that does not fit fails the batch it is in
    cases hm : ((directoryInfos entries).chunks (directoryCapacity params)).mapM
        (Asdu.fileDirectory params (.new .REQUEST) ca host) with
    | error err => exact ⟨err, rfl⟩
    | ok asdus =>
      refine absurd (fun e he => ?_) hfits
      obtain ⟨i, hi, rfl⟩ := List.getElem_of_mem he
      have hmem := mem_directoryInfos.mpr ⟨i, hi, rfl⟩
      rw [← List.flatten_chunks hcap (directoryInfos entries)] at hmem
      obtain ⟨infos, hinfos, hv⟩ := List.mem_flatten.mp hmem
      exact ((hbuilt asdus).mp hm).1 infos hinfos _ hv

/-- Seventeen entries: every second file is of unknown age, every fifth entry is a
directory. -/
def seventeen : List Entry :=
  (List.range 17).map fun i => ⟨.ofNat (100 + i), .ofNat i, .ofNat (3 * i),
    if i % 2 = 0 then some ⟨2025, 11, 12, 13, 14, 15, 0, by decide⟩ else none, i % 5 == 0⟩

/-- They take two ASDUs, of fifteen entries and of two, and only the last entry of the
second is marked. -/
theorem directory_lists_seventeen :
    let host := Host.utc ⟨2026, 3, 4, 5, 6, 7, 0, by decide⟩
    let store : Store :=
      ⟨.ok seventeen, fun _ _ => .ok [1, 2, 3], fun _ _ _ => .ok (), fun _ _ => .ok ()⟩
    ∃ asdus batches, directory host store paramsWide 1 = some (.ofSend asdus) ∧
      asdus.map (·.identifier.variable'.number) = [15, 2] ∧
      List.Forall₂ (Delivers host paramsWide) asdus batches ∧
      List.Forall₂ Lists seventeen batches.flatten ∧
      batches.flatten.map (·.sof.isLastFileOfDirectory) = List.replicate 16 false ++ [true] := by
  intro host store
  have hfits : ∀ e ∈ seventeen, e.Fits paramsWide := by
    intro e he
    obtain ⟨i, hi, rfl⟩ := List.mem_map.mp he
    have hsmall : ∀ i < 17, UInt32.ofNat (3 * i) ≤ LENGTH_OF_FILE_MAX ∧
        paramsWide.FitsAddr (.ofNat (100 + i)) := by
      decide
    exact hsmall i (List.mem_range.mp hi)
  have hlist : store.list = .ok seventeen := rfl
  have hlists := @directory_lists host paramsWide store seventeen 1
    Params.paramsWide_wellFormed rfl (by decide) hlist (List.cons_ne_nil _ _)
  obtain ⟨asdus, batches, hdir, hrest⟩ := hlists.1 hfits
  -- the counts are read off the reply itself
  have hcounts : (directory host store paramsWide 1).map
      (fun reply => reply.send.map (·.identifier.variable'.number)) = some [15, 2] := by
    decide +kernel
  rw [hdir] at hcounts
  exact ⟨asdus, batches, hdir, Option.some.inj hcounts, hrest⟩

end Sender

end FileTransfer

end Iec60870
