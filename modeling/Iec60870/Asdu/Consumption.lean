import Iec60870.Asdu.Files
import Iec60870.Asdu.RoundTrip

/-!
# Accepted objects and decoded objects

`unmarshal_binary` accepts a payload of exactly the size that count and SQ
announce.  Each getter decides by itself how many objects it decodes: as many as
announced, or exactly one with the count checked, or one without looking at it.

## Main definitions

* `Asdu.Accepted` — what acceptance without lenient padding has checked.
* `Asdu.getters` — every getter with its types.
* `Asdu.Accounted` — a getter fails, or decodes what is announced to the last
  octet.

## Main results

* `Asdu.readObjects_accounted` — the loop of the getters accounts for all.
* `Asdu.accounted_iff` — **which accepted ASDUs are accounted for.**
-/

namespace Iec60870

open Decoder (Takes)

/-! ### How much the getters take -/

section loops

variable {α : Type} {p : Params} (hw : p.WellFormed) {object : InfoObjAddr → InfoObjReader α} {k : ℕ}
  (hobj : ∀ ioa, Takes k (object ioa))

/-- The loop decodes as many objects as it is asked for. -/
theorem length_of_readObjects {isSequence : Bool} {i n : ℕ} {previous : InfoObjAddr}
    {c c' : Cursor UInt8 TimeTagFlags} {vs : List α}
    (h : (readObjects p isSequence object i n previous).run c = .ok (vs, c')) : vs.length = n := by
  induction n generalizing i previous c vs with
  | zero =>
    cases h
    rfl
  | succ n ih =>
    obtain ⟨ioa, c1, -, h⟩ := Decoder.run_bind_eq_ok.mp h
    obtain ⟨v, c2, -, h⟩ := Decoder.run_bind_eq_ok.mp h
    obtain ⟨vs', c3, hvs, h⟩ := Decoder.run_bind_eq_ok.mp h
    cases h
    rw [List.length_cons, ih hvs]

include hobj

/-- Behind the first object of a sequence no address is read. -/
theorem readObjects_takes_counted {i n : ℕ} {previous : InfoObjAddr} :
    Takes (n * k) (readObjects p true object (i + 1) n previous) := by
  induction n generalizing i previous with
  | zero => exact (Nat.zero_mul k).symm ▸ Takes.pure _
  | succ n ih =>
    have h : Takes (0 + (k + n * k)) (readObjects p true object (i + 1) (n + 1) previous) :=
      Takes.bind (Takes.pure (previous + 1)) fun ioa => Takes.bind (hobj ioa) fun _ => ih.map
    rwa [show 0 + (k + n * k) = (n + 1) * k by ring] at h

include hw

/-- Without SQ every object has its address. -/
theorem readObjects_takes_addressed {i n : ℕ} {previous : InfoObjAddr} :
    Takes (n * (p.infoObjAddrSize.toNat + k)) (readObjects p false object i n previous) := by
  induction n generalizing i previous with
  | zero => exact (Nat.zero_mul _).symm ▸ Takes.pure _
  | succ n ih =>
    have h : Takes (p.infoObjAddrSize.toNat + (k + n * (p.infoObjAddrSize.toNat + k)))
        (readObjects p false object i (n + 1) previous) :=
      Takes.bind (takes_infoObjAddr hw) fun ioa => Takes.bind (hobj ioa) fun _ => ih.map
    rwa [show p.infoObjAddrSize.toNat + (k + n * (p.infoObjAddrSize.toNat + k)) =
      (n + 1) * (p.infoObjAddrSize.toNat + k) by ring] at h

/-- With SQ the first object has its address. -/
theorem readObjects_takes_sequence {n : ℕ} {previous : InfoObjAddr} :
    Takes (p.infoObjAddrSize.toNat + (n + 1) * k) (readObjects p true object 0 (n + 1) previous) := by
  have h : Takes (p.infoObjAddrSize.toNat + (k + n * k))
      (readObjects p true object 0 (n + 1) previous) :=
    Takes.bind (takes_infoObjAddr hw) fun ioa => Takes.bind (hobj ioa) fun _ =>
      (readObjects_takes_counted hobj).map
  rwa [show k + n * k = (n + 1) * k by ring] at h

end loops

namespace Asdu

/-! ### What acceptance has checked -/

/-- An ASDU that was accepted without lenient padding. -/
structure Accepted (a : Asdu) : Prop where
  params : a.params.WellFormed
  count : a.CountAllowed
  exact : a.announcedSize = .ok a.infoObj.length

theorem accepted_of_unmarshal {params : Params} {raw : Octets} {a : Asdu}
    (ht : params.allowTrailingOctets = false) (h : unmarshalBinary params raw = .ok a) :
    a.Accepted := by
  obtain ⟨hw, -, -, hfix⟩ := unmarshalBinary_eq_ok_iff.mp h
  obtain rfl := fixInfoObjSize_eq_self (by exact ht) hfix
  obtain ⟨hcount, hsize⟩ := exact_of_fixInfoObjSize (by exact ht) hfix
  exact ⟨hw, hcount, hsize⟩

/-- Lenient padding is cut off on acceptance. -/
theorem accepted_of_sized {params : Params} {raw : Octets} {a : Asdu} {k : ℕ}
    (hk : a.identifier.typeId.infoObjSize = .ok k) (h : unmarshalBinary params raw = .ok a) :
    a.Accepted := by
  obtain ⟨hw, -, -, hfix⟩ := unmarshalBinary_eq_ok_iff.mp h
  obtain ⟨size, hsize, hle, hcount, rfl⟩ := fixInfoObjSize_eq_take hfix
  refine ⟨hw, hcount, ?_⟩
  rw [announcedSize_of_sized hk, ← announcedSize_of_sized (a := ⟨_, _, raw.drop _⟩) hk, hsize,
    List.length_take, Nat.min_eq_left hle]

/-- The payload of an accepted ASDU has the announced size. -/
theorem Accepted.length_infoObj {a : Asdu} (ha : a.Accepted) {k : ℕ}
    (hsize : a.identifier.typeId.infoObjSize = .ok k) :
    a.infoObj.length =
      if a.identifier.variable'.isSequence then
        a.params.infoObjAddrSize.toNat + a.identifier.variable'.number.toNat * k
      else a.identifier.variable'.number.toNat * (a.params.infoObjAddrSize.toNat + k) := by
  have h := ha.exact
  rw [announcedSize_of_sized hsize] at h
  dsimp only at h
  generalize (if a.identifier.variable'.isSequence then _ else _ : ℕ) = size at h ⊢
  split at h
  · cases h
  · exact (Except.ok.inj h).symm

theorem Accepted.number_pos {a : Asdu} (ha : a.Accepted) :
    1 ≤ a.identifier.variable'.number.toNat := by
  have h := ha.count.1.1
  rw [UInt8.le_iff_toNat_le] at h
  exact h

/-- A getter, by its reader with the number of objects it decodes: it fails, or
that number is the announced one and nothing is left unread. -/
def Accounted (a : Asdu) (m : InfoObjReader ℕ) : Prop :=
  ∀ n c, m.run ⟨a.infoObj, .GOOD⟩ = .ok (n, c) →
    n = a.identifier.variable'.number.toNat ∧ c.rest = []

/-! ### The three kinds of getters -/

section kinds

variable {α : Type} {a : Asdu} (ha : a.Accepted) {k : ℕ}

include ha

/-- **The loop accounts for every object**, whatever count and SQ. -/
theorem readObjects_accounted {object : InfoObjAddr → InfoObjReader α}
    (hsize : a.identifier.typeId.infoObjSize = .ok k) (hobj : ∀ ioa, Takes k (object ioa)) :
    a.Accounted (List.length <$> a.objects object) := by
  have htakes : Takes a.infoObj.length (a.objects object) := by
    rw [ha.length_infoObj hsize]
    unfold objects
    cases hsq : a.identifier.variable'.isSequence with
    | false => exact readObjects_takes_addressed ha.params hobj
    | true =>
      obtain ⟨n, hn⟩ := Nat.exists_eq_succ_of_ne_zero (Nat.one_le_iff_ne_zero.mp ha.number_pos)
      rw [hn]
      exact readObjects_takes_sequence ha.params hobj
  obtain ⟨vs, t', hrun⟩ := htakes.run .GOOD rfl
  intro n c h
  rw [StateT.run_map, hrun] at h
  cases h
  exact ⟨length_of_readObjects hrun, rfl⟩

/-- A getter of one object succeeds, and leaves what follows the first. -/
theorem singleObject_run {object : InfoObjAddr → InfoObjReader α}
    (hsize : a.identifier.typeId.infoObjSize = .ok k) (hobj : ∀ ioa, Takes k (object ioa)) :
    ∃ v t', (a.singleObject object).run ⟨a.infoObj, .GOOD⟩ =
      .ok (v, ⟨a.infoObj.drop (a.params.infoObjAddrSize.toNat + k), t'⟩) := by
  have htakes : Takes (a.params.infoObjAddrSize.toNat + k) (a.singleObject object) :=
    Takes.bind (takes_infoObjAddr ha.params) hobj
  refine htakes ⟨a.infoObj, .GOOD⟩ ?_
  have hn := ha.number_pos
  show _ ≤ a.infoObj.length
  rw [ha.length_infoObj hsize]
  split
  · exact Nat.add_le_add_left (Nat.le_mul_of_pos_left k hn) _
  · exact Nat.le_mul_of_pos_left _ hn

/-- **A getter of one object accounts for all of them when there is one.** -/
theorem singleObject_accounted_iff {object : InfoObjAddr → InfoObjReader α}
    (hsize : a.identifier.typeId.infoObjSize = .ok k) (hobj : ∀ ioa, Takes k (object ioa)) :
    a.Accounted ((fun _ => 1) <$> a.singleObject object) ↔ a.identifier.variable'.number = 1 := by
  obtain ⟨v, t', hrun⟩ := singleObject_run ha hsize hobj
  have hmap : ((fun _ => 1) <$> a.singleObject object : InfoObjReader ℕ).run ⟨a.infoObj, .GOOD⟩ =
      .ok (1, ⟨a.infoObj.drop (a.params.infoObjAddrSize.toNat + k), t'⟩) := by
    rw [StateT.run_map, hrun]
    rfl
  constructor
  · intro h
    exact UInt8.toNat_inj.mp (h _ _ hmap).1.symm
  · intro h1 n c h
    have hn : a.identifier.variable'.number.toNat = 1 := by rw [h1]; rfl
    rw [hmap] at h
    cases h
    refine ⟨hn.symm, List.drop_eq_nil_of_le ?_⟩
    rw [ha.length_infoObj hsize, hn, Nat.one_mul, Nat.one_mul, ite_self]

omit ha in
theorem byte_run {w : Octets} (hw : 1 ≤ w.length) (t : TimeTagFlags) :
    InfoObjReader.byte.run ⟨w, t⟩ = .ok (w.getD 0 0, ⟨w.drop 1, t⟩) := by
  cases w with
  | nil => simp at hw
  | cons b w => exact byte_yields b w

/-- The length octet of a segment describes the rest of its payload. -/
theorem Accepted.length_segment (htype : a.identifier.typeId = .F_SG_NA_1) :
    a.infoObj.length = a.params.infoObjAddrSize.toNat + 4 +
      (a.infoObj.getD (a.params.infoObjAddrSize.toNat + 3) 0).toNat := by
  have h := ha.exact
  unfold announcedSize variableInfoObjSize at h
  rw [if_neg (not_not.mpr htype)] at h
  dsimp only at h
  by_cases hshort : a.infoObj.length < a.params.infoObjAddrSize.toNat + 4
  · rw [if_pos hshort] at h
    cases h
  · rw [if_neg hshort] at h
    split at h
    · cases h
    · next size hsome =>
      rw [← Except.ok.inj h, ← Option.some.inj hsome]
    · next hnone => cases hnone

/-- **A segment accounts for its one object.** -/
theorem fileSegment_accounted (htype : a.identifier.typeId = .F_SG_NA_1) :
    a.Accounted ((fun _ => 1) <$> a.singleObject fileSegmentObject) := by
  have hone : a.identifier.variable'.number = 1 := by
    obtain h | h := (ha.count.2 (by rw [htype]; decide)).2
    · rw [htype] at h
      cases h
    · exact h
  have hlen := ha.length_segment htype
  intro n c hn
  obtain ⟨v, h, rfl⟩ := Decoder.run_map_eq_ok.mp hn
  clear hn
  refine ⟨by rw [hone]; rfl, ?_⟩
  unfold singleObject at h
  -- the address, the name of the file and of the section, then the length octet
  obtain ⟨ioa, c1, h1, h⟩ := Decoder.run_bind_eq_ok.mp h
  obtain ⟨_, t1, hrun⟩ := takes_infoObjAddr ha.params ⟨a.infoObj, .GOOD⟩ (by dsimp only; omega)
  rw [hrun] at h1
  cases h1
  obtain ⟨nof, c2, h2, h⟩ := Decoder.run_bind_eq_ok.mp h
  obtain ⟨_, t2, hrun⟩ := takes_u16 ⟨a.infoObj.drop a.params.infoObjAddrSize.toNat, t1⟩ (by
    rw [List.length_drop]
    omega)
  rw [hrun] at h2
  cases h2
  obtain ⟨nos, c3, h3, h⟩ := Decoder.run_bind_eq_ok.mp h
  rw [byte_run (by simp only [List.length_drop]; omega)] at h3
  cases h3
  obtain ⟨los, c4, h4, h⟩ := Decoder.run_bind_eq_ok.mp h
  rw [byte_run (by simp only [List.length_drop]; omega)] at h4
  cases h4
  obtain ⟨segment, c5, h5, h⟩ := Decoder.run_bind_eq_ok.mp h
  cases h
  -- The length octet that was read is the one `length_segment` speaks of, so the segment takes
  -- exactly the rest.
  have hlos : (((a.infoObj.drop a.params.infoObjAddrSize.toNat).drop 2).drop 1).getD 0 0 =
      a.infoObj.getD (a.params.infoObjAddrSize.toNat + 3) 0 := by
    simp [List.getD_eq_getElem?_getD, List.getElem?_drop, Nat.add_assoc]
  rw [hlos] at h5
  have hrest : (a.infoObj.getD (a.params.infoObjAddrSize.toNat + 3) 0).toNat =
      ((((a.infoObj.drop a.params.infoObjAddrSize.toNat).drop 2).drop 1).drop 1).length := by
    simp only [List.length_drop]
    omega
  obtain ⟨_, t5, hrun⟩ := Takes.take Error.unexpectedEof _
    ⟨(((a.infoObj.drop a.params.infoObjAddrSize.toNat).drop 2).drop 1).drop 1, t2⟩ hrest.le
  rw [InfoObjReader.take, hrun] at h5
  cases h5
  exact List.drop_eq_nil_of_le hrest.ge

end kinds

/-! ### The getters -/

end Asdu

/-- Every type of a family. -/
def TaggedTypes.all (ts : TaggedTypes) : List TypeId := ts.untagged ++ ts.cp24.toList ++ [ts.cp56]

/-- The octets of the tag of a type. -/
def TaggedTypes.tagSize (ts : TaggedTypes) (typeId : TypeId) : ℕ :=
  if typeId ∈ ts.untagged then 0 else if ts.cp24 = some typeId then 3 else 7

theorem TaggedTypes.takes_readTag {ts : TaggedTypes} {typeId : TypeId} (h : typeId ∈ ts.all)
    (host : Host) (p : Params) : Takes (ts.tagSize typeId) (ts.readTag host p typeId) := by
  unfold tagSize readTag
  by_cases hun : typeId ∈ ts.untagged
  · rw [if_pos hun, if_pos hun]
    exact Takes.pure none
  · rw [if_neg hun, if_neg hun]
    by_cases h24 : ts.cp24 = some typeId
    · rw [if_pos h24, if_pos h24]
      exact takes_cp24time2aTag host p
    · have h56 : ts.cp56 = typeId := by
        unfold all at h
        simp only [List.mem_append, Option.mem_toList, List.mem_singleton] at h
        obtain (h | h) | h := h
        · exact absurd h hun
        · exact absurd h h24
        · exact h.symm
      rw [if_neg h24, if_neg h24, if_pos h56]
      exact takes_cp56time2aTag host p

namespace Family

/-- The objects of a family are as large as the table of sizes says. -/
def Sized {β : Type} (fam : Family β) : Prop :=
  ∀ typeId ∈ fam.types.all, ∃ k, typeId.infoObjSize = .ok k ∧
    ∀ host p ioa, Takes k (fam.object host p typeId ioa)

/-- A family whose values take `size` octets. -/
theorem sized_of_read {β : Type} {fam : Family β} (size : TypeId → ℕ)
    (hread : ∀ typeId, Takes (size typeId) (fam.read typeId))
    (htable : ∀ typeId ∈ fam.types.all,
      typeId.infoObjSize = .ok (size typeId + fam.types.tagSize typeId)) : fam.Sized := by
  intro typeId htype
  refine ⟨_, htable typeId htype, fun host p ioa => ?_⟩
  exact (hread typeId).bind fun _ => (TaggedTypes.takes_readTag htype host p).bind fun _ =>
    takes_timeFlags.map

theorem singlePoint_sized : singlePoint.Sized :=
  sized_of_read (fun _ => 1) (fun _ => takes_byte.bind fun _ => Takes.pure _) (by decide)

theorem doublePoint_sized : doublePoint.Sized :=
  sized_of_read (fun _ => 1) (fun _ => takes_byte.bind fun _ => Takes.pure _) (by decide)

theorem stepPosition_sized : stepPosition.Sized :=
  sized_of_read (fun _ => 2) (fun _ => takes_byte.bind fun _ => takes_byte.map) (by decide)

theorem bitString_sized : bitString.Sized :=
  sized_of_read (fun _ => 5) (fun _ => takes_bitsString32.bind fun _ => takes_byte.map)
    (by decide)

theorem normalValue_sized : normalValue.Sized := by
  refine sized_of_read (fun t => if t = .M_ME_ND_1 then 2 else 3) (fun t => ?_) (by decide)
  by_cases hnd : t = .M_ME_ND_1
  · subst hnd
    exact takes_normalize.bind fun _ => (Takes.pure QualityDescriptor.GOOD).map
  · rw [if_neg hnd]
    unfold normalValue
    dsimp only
    rw [if_neg hnd]
    exact takes_normalize.bind fun _ => takes_byte.map

theorem scaledValue_sized : scaledValue.Sized :=
  sized_of_read (fun _ => 3) (fun _ => takes_scaled.bind fun _ => takes_byte.map) (by decide)

theorem floatValue_sized : floatValue.Sized :=
  sized_of_read (fun _ => 5)
    (fun _ => takes_f32.bind fun _ => takes_byte.bind fun _ => Takes.pure _) (by decide)

theorem integratedTotal_sized : integratedTotal.Sized :=
  sized_of_read (fun _ => 5) (fun _ => takes_binaryCounterReading) (by decide)

theorem protectionEvent_sized : protectionEvent.Sized :=
  sized_of_read (fun _ => 3) (fun _ => takes_byte.bind fun _ => takes_cp16time2a.map)
    (by decide)

theorem packedProtection_read (types : TaggedTypes) (typeId : TypeId) :
    Takes 4 ((packedProtection types).read typeId) :=
  takes_byte.bind fun _ => takes_byte.bind fun _ => takes_cp16time2a.map

theorem packedStartEvents_sized : packedStartEvents.Sized :=
  sized_of_read _ (packedProtection_read _) (by decide)

theorem packedOutputCircuit_sized : packedOutputCircuit.Sized :=
  sized_of_read _ (packedProtection_read _) (by decide)

theorem command_read {β : Type} (types : TaggedTypes) (value : β → UInt8) (parse : UInt8 → β)
    (typeId : TypeId) : Takes 1 ((command types value parse).read typeId) :=
  takes_byte.bind fun _ => Takes.pure _

theorem setpoint_read {β : Type} (types : TaggedTypes) (value : β → Octets) {read : InfoObjReader β}
    {k : ℕ} (h : Takes k read) (typeId : TypeId) :
    Takes (k + 1) ((setpoint types value read).read typeId) :=
  h.bind fun _ => takes_byte.bind fun _ => Takes.pure _

end Family

namespace Asdu

/-- The types whose getter decodes one object without looking at the count. -/
def singleTypes : List TypeId :=
  [.C_SC_NA_1, .C_DC_NA_1, .C_RC_NA_1, .C_SE_NA_1, .C_SE_NB_1, .C_SE_NC_1, .C_BO_NA_1,
    .C_SC_TA_1, .C_DC_TA_1, .C_RC_TA_1, .C_SE_TA_1, .C_SE_TB_1, .C_SE_TC_1, .C_BO_TA_1,
    .M_EI_NA_1, .C_IC_NA_1, .C_CI_NA_1, .C_RD_NA_1, .C_CS_NA_1, .C_TS_NA_1, .C_RP_NA_1,
    .C_CD_NA_1, .C_TS_TA_1, .P_ME_NA_1, .P_ME_NB_1, .P_ME_NC_1, .P_AC_NA_1]

/-- A getter of one object, as one that counts it. -/
def one {α : Type} (m : InfoObjReader α) : InfoObjReader ℕ := (fun _ => 1) <$> m

section getters

variable (host : Host) (a : Asdu)

/-- The getters that decode as many objects as announced. -/
def countedGetters : List (List TypeId × InfoObjReader ℕ) :=
  [(Family.singlePoint.types.all, List.length <$> Family.singlePoint.objects host a),
    (Family.doublePoint.types.all, List.length <$> Family.doublePoint.objects host a),
    (Family.stepPosition.types.all, List.length <$> Family.stepPosition.objects host a),
    (Family.bitString.types.all, List.length <$> Family.bitString.objects host a),
    (Family.normalValue.types.all, List.length <$> Family.normalValue.objects host a),
    (Family.scaledValue.types.all, List.length <$> Family.scaledValue.objects host a),
    (Family.floatValue.types.all, List.length <$> Family.floatValue.objects host a),
    (Family.integratedTotal.types.all, List.length <$> Family.integratedTotal.objects host a),
    (Family.protectionEvent.types.all, List.length <$> Family.protectionEvent.objects host a),
    ([.M_PS_NA_1], List.length <$> a.objects scdObject),
    ([.F_DR_TA_1], List.length <$> directoryObjects host a)]

/-- The getters that refuse any count but one. -/
def guardedGetters : List (List TypeId × InfoObjReader ℕ) :=
  [(Family.packedStartEvents.types.all, one (packedObject host .packedStartEvents a)),
    (Family.packedOutputCircuit.types.all, one (packedObject host .packedOutputCircuit a))]

/-- The getters of the file types, whose count is checked on acceptance. -/
def fileGetters : List (List TypeId × InfoObjReader ℕ) :=
  [([.F_FR_NA_1], one (a.singleObject fileReadyObject)),
    ([.F_SR_NA_1], one (a.singleObject sectionReadyObject)),
    ([.F_SC_NA_1], one (a.singleObject callOrSelectFileObject)),
    ([.F_LS_NA_1], one (a.singleObject lastSectionOrSegmentObject)),
    ([.F_AF_NA_1], one (a.singleObject ackFileOrSectionObject)),
    ([.F_SG_NA_1], one (a.singleObject fileSegmentObject))]

/-- The getters that decode one object without looking at the count. -/
def singleGetters : List (List TypeId × InfoObjReader ℕ) :=
  [(Family.singleCommand.types.all, one (Family.singleCommand.cmdObject host a)),
    (Family.doubleCommand.types.all, one (Family.doubleCommand.cmdObject host a)),
    (Family.stepCommand.types.all, one (Family.stepCommand.cmdObject host a)),
    (Family.setpointNormal.types.all, one (Family.setpointNormal.cmdObject host a)),
    (Family.setpointScaled.types.all, one (Family.setpointScaled.cmdObject host a)),
    (Family.setpointFloat.types.all, one (Family.setpointFloat.cmdObject host a)),
    (Family.bitsString32Command.types.all, one (Family.bitsString32Command.cmdObject host a)),
    ([.M_EI_NA_1], one (a.singleObject (qualified CauseOfInitial.parse))),
    ([.C_IC_NA_1], one (a.singleObject (qualified id))),
    ([.C_CI_NA_1], one (a.singleObject (qualified QualifierCountCall.parse))),
    ([.C_RD_NA_1], one (a.singleObject pure)),
    ([.C_CS_NA_1], one (a.singleObject (clockObject host a.params))),
    ([.C_TS_NA_1], one (a.singleObject testObject)),
    ([.C_RP_NA_1], one (a.singleObject (qualified id))),
    ([.C_CD_NA_1], one (a.singleObject delayObject)),
    ([.C_TS_TA_1], one (a.singleObject (testObjectCp56time2a host a.params))),
    ([.P_ME_NA_1], one (a.singleObject (parameterObject InfoObjReader.normalize))),
    ([.P_ME_NB_1], one (a.singleObject (parameterObject InfoObjReader.scaled))),
    ([.P_ME_NC_1], one (a.singleObject (parameterObject InfoObjReader.f32))),
    ([.P_AC_NA_1], one (a.singleObject activationObject))]

/-- Every getter with its types, by its reader, which here returns the number of
objects it decoded. -/
def getters : List (List TypeId × InfoObjReader ℕ) :=
  countedGetters host a ++ guardedGetters host a ++ fileGetters a ++ singleGetters host a

/-! ### What each kind accounts for -/

variable {host a} (ha : a.Accepted)

include ha

theorem counted_accounted {e : List TypeId × InfoObjReader ℕ} (he : e ∈ countedGetters host a)
    (ht : a.identifier.typeId ∈ e.1) :
    a.identifier.typeId ∉ singleTypes ∧ a.Accounted e.2 := by
  have hfam {β : Type} {fam : Family β} (hs : fam.Sized) (ht : a.identifier.typeId ∈ fam.types.all)
      (hfree : ∀ t ∈ fam.types.all, t ∉ singleTypes) :
      a.identifier.typeId ∉ singleTypes ∧ a.Accounted (List.length <$> fam.objects host a) := by
    obtain ⟨k, hsize, htakes⟩ := hs _ ht
    exact ⟨hfree _ ht, readObjects_accounted ha hsize (htakes host a.params)⟩
  -- One case per getter: the eleven that read all announced objects.
  unfold countedGetters at he
  simp only [List.mem_cons, List.not_mem_nil, or_false] at he
  rcases he with rfl | rfl | rfl | rfl | rfl | rfl | rfl | rfl | rfl | rfl | rfl
  · exact hfam Family.singlePoint_sized ht (by decide)
  · exact hfam Family.doublePoint_sized ht (by decide)
  · exact hfam Family.stepPosition_sized ht (by decide)
  · exact hfam Family.bitString_sized ht (by decide)
  · exact hfam Family.normalValue_sized ht (by decide)
  · exact hfam Family.scaledValue_sized ht (by decide)
  · exact hfam Family.floatValue_sized ht (by decide)
  · exact hfam Family.integratedTotal_sized ht (by decide)
  · exact hfam Family.protectionEvent_sized ht (by decide)
  · have htype := List.mem_singleton.mp ht
    refine ⟨htype ▸ by decide, readObjects_accounted ha (k := 5) (htype ▸ rfl) fun ioa => ?_⟩
    exact takes_bitsString32.bind fun _ => takes_byte.map
  -- A directory is always a list of objects, never a sequence.
  · have htype := List.mem_singleton.mp ht
    have hsq := (ha.count.2 (htype ▸ by decide)).1
    have hobjects : directoryObjects host a = a.objects (directoryObject a.params host) := by
      unfold directoryObjects objects
      rw [hsq]
    refine ⟨htype ▸ by decide, ?_⟩
    rw [hobjects]
    refine readObjects_accounted ha (k := 13) (htype ▸ rfl) fun ioa => ?_
    exact takes_u16.bind fun _ => takes_lengthOfFile.bind fun _ => takes_byte.bind fun _ =>
      (takes_cp56time2aTag host a.params).bind fun _ => takes_timeFlags.bind fun _ => Takes.pure _

/-- A getter that refuses any count but one. -/
theorem packed_accounted {fam : Family PackedProtection} (hs : fam.Sized)
    (ht : a.identifier.typeId ∈ fam.types.all) :
    a.Accounted (one (packedObject host fam a)) := by
  obtain ⟨k, hsize, htakes⟩ := hs _ ht
  unfold packedObject
  split
  · intro n c h
    cases h
  · next hone =>
    have hnum := not_not.mp (not_or.mp hone).2
    exact (singleObject_accounted_iff ha hsize (htakes host a.params)).mpr hnum

theorem guarded_accounted {e : List TypeId × InfoObjReader ℕ} (he : e ∈ guardedGetters host a)
    (ht : a.identifier.typeId ∈ e.1) :
    a.identifier.typeId ∉ singleTypes ∧ a.Accounted e.2 := by
  have hfree : ∀ t ∈ Family.packedStartEvents.types.all ++ Family.packedOutputCircuit.types.all,
      t ∉ singleTypes := by decide
  unfold guardedGetters at he
  simp only [List.mem_cons, List.not_mem_nil, or_false] at he
  rcases he with rfl | rfl
  · exact ⟨hfree _ (List.mem_append_left _ ht), packed_accounted ha Family.packedStartEvents_sized ht⟩
  · exact ⟨hfree _ (List.mem_append_right _ ht),
      packed_accounted ha Family.packedOutputCircuit_sized ht⟩

theorem file_accounted {e : List TypeId × InfoObjReader ℕ} (he : e ∈ fileGetters a)
    (ht : a.identifier.typeId ∈ e.1) :
    -- All but the segment read one object and not the announced number of them, so they account for
    -- the payload only where that number is one.
    a.identifier.typeId ∉ singleTypes ∧ a.Accounted e.2 := by
  have hone {t : TypeId} (htype : a.identifier.typeId = t) (hfile : 120 ≤ t.octet ∧ t.octet ≤ 126)
      (hdir : t ≠ .F_DR_TA_1) : a.identifier.variable'.number = 1 :=
    (ha.count.2 (htype ▸ hfile)).2.resolve_left (htype ▸ hdir)
  unfold fileGetters at he
  simp only [List.mem_cons, List.not_mem_nil, or_false] at he
  rcases he with rfl | rfl | rfl | rfl | rfl | rfl
  all_goals
    have htype := List.mem_singleton.mp ht
    refine ⟨htype ▸ by decide, ?_⟩
  · refine (singleObject_accounted_iff ha (k := 6) (htype ▸ rfl) fun ioa => ?_).mpr
      (hone htype (by decide) (by decide))
    exact takes_u16.bind fun _ => takes_lengthOfFile.bind fun _ => takes_byte.bind fun _ =>
      Takes.pure _
  · refine (singleObject_accounted_iff ha (k := 7) (htype ▸ rfl) fun ioa => ?_).mpr
      (hone htype (by decide) (by decide))
    exact takes_u16.bind fun _ => takes_byte.bind fun _ => takes_lengthOfFile.bind fun _ =>
      takes_byte.bind fun _ => Takes.pure _
  · refine (singleObject_accounted_iff ha (k := 4) (htype ▸ rfl) fun ioa => ?_).mpr
      (hone htype (by decide) (by decide))
    exact takes_u16.bind fun _ => takes_byte.bind fun _ => takes_byte.bind fun _ => Takes.pure _
  · refine (singleObject_accounted_iff ha (k := 5) (htype ▸ rfl) fun ioa => ?_).mpr
      (hone htype (by decide) (by decide))
    exact takes_u16.bind fun _ => takes_byte.bind fun _ => takes_byte.bind fun _ =>
      takes_byte.bind fun _ => Takes.pure _
  · refine (singleObject_accounted_iff ha (k := 4) (htype ▸ rfl) fun ioa => ?_).mpr
      (hone htype (by decide) (by decide))
    exact takes_u16.bind fun _ => takes_byte.bind fun _ => takes_byte.bind fun _ => Takes.pure _
  · exact fileSegment_accounted ha htype

theorem single_accounted_iff {e : List TypeId × InfoObjReader ℕ} (he : e ∈ singleGetters host a)
    (ht : a.identifier.typeId ∈ e.1) :
    a.identifier.typeId ∈ singleTypes ∧
      (a.Accounted e.2 ↔ a.identifier.variable'.number = 1) := by
  -- A command of a family reads one object, of the size of its type.
  have hfam {β : Type} {fam : Family β} (hs : fam.Sized) (ht : a.identifier.typeId ∈ fam.types.all)
      (hmem : ∀ t ∈ fam.types.all, t ∈ singleTypes) :
      a.identifier.typeId ∈ singleTypes ∧
        (a.Accounted (one (fam.cmdObject host a)) ↔ a.identifier.variable'.number = 1) := by
    obtain ⟨k, hsize, htakes⟩ := hs _ ht
    exact ⟨hmem _ ht, singleObject_accounted_iff ha hsize (htakes host a.params)⟩
  -- The other getters serve one type each.
  have hone {α : Type} {object : InfoObjAddr → InfoObjReader α} {t : TypeId} {k : ℕ}
      (ht : a.identifier.typeId ∈ [t]) (hmem : t ∈ singleTypes) (hsize : t.infoObjSize = .ok k)
      (htakes : ∀ ioa, Takes k (object ioa)) :
      a.identifier.typeId ∈ singleTypes ∧
        (a.Accounted (one (a.singleObject object)) ↔ a.identifier.variable'.number = 1) := by
    have htype := List.mem_singleton.mp ht
    exact ⟨htype ▸ hmem, singleObject_accounted_iff ha (htype ▸ hsize) htakes⟩
  -- One case per getter, in the order of the list.
  unfold singleGetters at he
  simp only [List.mem_cons, List.not_mem_nil, or_false] at he
  rcases he with rfl | rfl | rfl | rfl | rfl | rfl | rfl | rfl | rfl | rfl | rfl | rfl | rfl | rfl |
    rfl | rfl | rfl | rfl | rfl | rfl
  · exact hfam (Family.sized_of_read _ (Family.command_read _ _ _) (by decide)) ht (by decide)
  · exact hfam (Family.sized_of_read _ (Family.command_read _ _ _) (by decide)) ht (by decide)
  · exact hfam (Family.sized_of_read _ (Family.command_read _ _ _) (by decide)) ht (by decide)
  · exact hfam (Family.sized_of_read _ (Family.setpoint_read _ _ takes_normalize) (by decide)) ht
      (by decide)
  · exact hfam (Family.sized_of_read _ (Family.setpoint_read _ _ takes_scaled) (by decide)) ht
      (by decide)
  · exact hfam (Family.sized_of_read _ (Family.setpoint_read _ _ takes_f32) (by decide)) ht (by decide)
  · exact hfam (Family.sized_of_read _ (fun _ => takes_bitsString32) (by decide)) ht (by decide)
  · exact hone ht (by decide) rfl fun _ => takes_byte.bind fun _ => Takes.pure _
  · exact hone ht (by decide) rfl fun _ => takes_byte.bind fun _ => Takes.pure _
  · exact hone ht (by decide) rfl fun _ => takes_byte.bind fun _ => Takes.pure _
  · exact hone ht (by decide) rfl fun _ => Takes.pure _
  · exact hone ht (by decide) rfl fun _ => (takes_cp56time2a host a.params).bind fun _ =>
      Takes.pure _
  · exact hone ht (by decide) rfl fun _ => takes_u16.bind fun _ => Takes.pure _
  · exact hone ht (by decide) rfl fun _ => takes_byte.bind fun _ => Takes.pure _
  · exact hone ht (by decide) rfl fun _ => takes_u16.bind fun _ => Takes.pure _
  · exact hone ht (by decide) rfl fun _ => takes_u16.bind fun _ =>
      (takes_cp56time2a host a.params).bind fun _ => Takes.pure _
  · exact hone ht (by decide) rfl fun _ => takes_normalize.bind fun _ => takes_byte.bind fun _ =>
      Takes.pure _
  · exact hone ht (by decide) rfl fun _ => takes_scaled.bind fun _ => takes_byte.bind fun _ =>
      Takes.pure _
  · exact hone ht (by decide) rfl fun _ => takes_f32.bind fun _ => takes_byte.bind fun _ =>
      Takes.pure _
  · exact hone ht (by decide) rfl fun _ => takes_byte.bind fun _ => Takes.pure _

end getters

/-- **Which accepted ASDUs are accounted for.**  The getter of an accepted ASDU's
type fails, or decodes what is announced to the last octet, for every type but
those whose getter decodes one object without looking: there it does when one
object is announced. -/
theorem accounted_iff {params : Params} {raw : Octets} {a : Asdu} (host : Host)
    (ht : params.allowTrailingOctets = false) (h : unmarshalBinary params raw = .ok a)
    {e : List TypeId × InfoObjReader ℕ} (he : e ∈ getters host a)
    (htype : a.identifier.typeId ∈ e.1) :
    a.Accounted e.2 ↔ (a.identifier.typeId ∈ singleTypes → a.identifier.variable'.number = 1) := by
  have ha := accepted_of_unmarshal ht h
  have hchecked (hc : a.identifier.typeId ∉ singleTypes ∧ a.Accounted e.2) :
      a.Accounted e.2 ↔
        (a.identifier.typeId ∈ singleTypes → a.identifier.variable'.number = 1) :=
    iff_of_true hc.2 fun hmem => absurd hmem hc.1
  unfold getters at he
  simp only [List.mem_append] at he
  obtain ((he | he) | he) | he := he
  · exact hchecked (counted_accounted ha he htype)
  · exact hchecked (guarded_accounted ha he htype)
  · exact hchecked (file_accounted ha he htype)
  · obtain ⟨hmem, hiff⟩ := single_accounted_iff ha he htype
    exact hiff.trans ⟨fun h1 _ => h1, fun h1 => h1 hmem⟩

/-- Two single points in a sequence. -/
theorem accounted_iff_sequence :
    ∃ a, unmarshalBinary paramsWide [1, 0x82, 3, 0, 1, 0, 100, 0, 0, 1, 0] = .ok a ∧
      a.Accounted (List.length <$> Family.singlePoint.objects
        (.utc ⟨2026, 3, 4, 5, 6, 7, 0, by decide⟩) a) := by
  refine ⟨⟨paramsWide, ⟨.M_SP_NA_1, ⟨2, true⟩, .new .SPONTANEOUS, 0, 1⟩, [100, 0, 0, 1, 0]⟩,
    by decide +kernel, ?_⟩
  have hread : unmarshalBinary paramsWide [1, 0x82, 3, 0, 1, 0, 100, 0, 0, 1, 0] =
      .ok ⟨paramsWide, ⟨.M_SP_NA_1, ⟨2, true⟩, .new .SPONTANEOUS, 0, 1⟩, [100, 0, 0, 1, 0]⟩ := by
    decide +kernel
  refine (accounted_iff (.utc ⟨2026, 3, 4, 5, 6, 7, 0, by decide⟩) rfl hread
    (e := (Family.singlePoint.types.all, _)) ?_ (by decide)).mpr fun h => absurd h (by decide)
  exact List.mem_append_left _ (List.mem_append_left _ (List.mem_append_left _ List.mem_cons_self))

/-- Two single commands are accepted; the getter returns the first. -/
theorem not_accounted_singleCmd :
    ∃ a, unmarshalBinary paramsWide [45, 2, 6, 0, 1, 0, 1, 0, 0, 1, 2, 0, 0, 0] = .ok a ∧
      getSingleCmd (.utc ⟨2026, 3, 4, 5, 6, 7, 0, by decide⟩) a =
        .ok ⟨1, ⟨true, ⟨0, false⟩⟩, none, .GOOD⟩ ∧
      ¬a.Accounted (one (Family.singleCommand.cmdObject
        (.utc ⟨2026, 3, 4, 5, 6, 7, 0, by decide⟩) a)) := by
  refine ⟨⟨paramsWide, ⟨.C_SC_NA_1, ⟨2, false⟩, .new .ACTIVATION, 0, 1⟩, [1, 0, 0, 1, 2, 0, 0, 0]⟩,
    by decide +kernel, by decide +kernel, fun h => ?_⟩
  have hrun := (h 1 ⟨[2, 0, 0, 0], .GOOD⟩ rfl).1
  exact absurd hrun (by decide)

end Asdu

end Iec60870
