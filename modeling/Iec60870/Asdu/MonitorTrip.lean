import Iec60870.Asdu.Monitor
import Iec60870.Asdu.RoundTrip

/-!
# Process information across the wire

What a builder of the monitoring direction writes is read back by the getter of
its family, object by object, through `marshal_binary` and `unmarshal_binary`.

## Main definitions

* `assigned` — the addresses a reader gives the objects of a payload.
* `Family.Lossless` — a value is read back from its octets, reduced.
* `Asdu.Carries` — what a builder built arrives as expected.

## Main results

* `readObjects_yields` — the loops of builder and getter against each other.
* `monitor_carries` — **every family of the monitoring direction survives the
  wire.**
-/

namespace Iec60870

open Decoder (Yields)

/-! ### The loops -/

/-- What a reader makes of the objects from index `i` on: with SQ it counts on
from the address before. -/
def assigned {α γ : Type} (isSequence : Bool) (ioa : α → InfoObjAddr) (f : InfoObjAddr → α → γ) :
    ℕ → InfoObjAddr → List α → List γ
  | _, _, [] => []
  | i, previous, v :: vs =>
    let addr := if writesAddr isSequence i then ioa v else previous + 1
    f addr v :: assigned isSequence ioa f (i + 1) addr vs

/-- Each address follows the one before. -/
def Consecutive (addrs : List InfoObjAddr) : Prop := addrs.IsChain fun a b => b = a + 1

instance (addrs : List InfoObjAddr) : Decidable (Consecutive addrs) :=
  inferInstanceAs (Decidable (addrs.IsChain _))

section loops

variable {α γ : Type} {isSequence : Bool} {ioa : α → InfoObjAddr} {f : InfoObjAddr → α → γ}

theorem writesAddr_succ (isSequence : Bool) (i : ℕ) : writesAddr isSequence (i + 1) = !isSequence := by
  simp [writesAddr]

theorem writesAddr_zero (isSequence : Bool) : writesAddr isSequence 0 = true := by
  simp [writesAddr]

/-- Behind the first object of a sequence the addresses are counted. -/
theorem assigned_eq_map_of_chain {vs : List α} {i : ℕ} {previous : InfoObjAddr}
    (h : isSequence = true → Consecutive (previous :: vs.map ioa)) :
    assigned isSequence ioa f (i + 1) previous vs = vs.map fun v => f (ioa v) v := by
  induction vs generalizing i previous with
  | nil => rfl
  | cons v vs ih =>
    have haddr : (if writesAddr isSequence (i + 1) then ioa v else previous + 1) = ioa v := by
      rw [writesAddr_succ]
      cases isSequence with
      | false => rfl
      | true => exact (List.isChain_cons_cons.mp (h rfl)).1.symm
    rw [assigned, haddr, List.map_cons, ih fun hs => (List.isChain_cons_cons.mp (h hs)).2]

/-- Consecutive objects keep their own addresses. -/
theorem assigned_eq_map {vs : List α} {previous : InfoObjAddr}
    (h : isSequence = true → Consecutive (vs.map ioa)) :
    assigned isSequence ioa f 0 previous vs = vs.map fun v => f (ioa v) v := by
  cases vs with
  | nil => rfl
  | cons v vs =>
    rw [assigned, writesAddr_zero, if_pos rfl, List.map_cons, assigned_eq_map_of_chain h]

/-- One address, written or counted. -/
theorem nextObjAddr_yields {p : Params} (hw : p.WellFormed) {i : ℕ} {v : α} {previous : InfoObjAddr}
    {w : Octets} {t : TimeTagFlags}
    (h : writeAddr p isSequence i (ioa v) = .ok w) :
    Yields (InfoObjReader.nextObjAddr p i isSequence previous) w t
      (if writesAddr isSequence i then ioa v else previous + 1) t := by
  unfold InfoObjReader.nextObjAddr
  unfold writeAddr at h
  rw [← writesAddr]
  cases hwr : writesAddr isSequence i with
  | true =>
    rw [hwr, if_pos rfl] at h
    exact infoObjAddr_yields hw h
  | false =>
    rw [hwr, if_neg (by decide)] at h
    cases h
    exact Yields.pure _ _

/-- **The loops of builder and getter against each other.**  `Good` is what the
reader needs of the flags it keeps. -/
theorem readObjects_yields {p : Params} (hw : p.WellFormed) {element : α → Except Error Octets}
    {object : InfoObjAddr → InfoObjReader γ} {Good : TimeTagFlags → Prop} {infos : List α}
    (hobj : ∀ v ∈ infos, ∀ octets, element v = .ok octets → ∀ addr t, Good t →
      ∃ t', Good t' ∧ Yields (object addr) octets t (f addr v) t')
    {i : ℕ} {previous : InfoObjAddr} {w : Octets} {t : TimeTagFlags} (ht : Good t)
    (h : writeObjects p isSequence ioa element i infos = .ok w) :
    ∃ t', Yields (readObjects p isSequence object i infos.length previous) w t
      (assigned isSequence ioa f i previous infos) t' := by
  induction infos generalizing i previous w t with
  | nil =>
    cases h
    exact ⟨t, Yields.pure _ _⟩
  | cons v vs ih =>
    unfold writeObjects at h
    obtain ⟨addr, haddr, h⟩ := bind_eq_ok.mp h
    obtain ⟨octets, hoctets, h⟩ := bind_eq_ok.mp h
    obtain ⟨rest, hrest, h⟩ := bind_eq_ok.mp h
    cases h
    obtain ⟨t', ht', hv⟩ := hobj v List.mem_cons_self octets hoctets
      (if writesAddr isSequence i then ioa v else previous + 1) t ht
    obtain ⟨t'', hvs⟩ := ih (fun v' hv' => hobj v' (List.mem_cons_of_mem _ hv')) ht' hrest
    refine ⟨t'', (nextObjAddr_yields hw haddr).bind (hv.bind ?_)⟩
    exact Yields.map (f := fun vs => _ :: vs) hvs

end loops

/-! ### What a builder builds -/

/-- A built ASDU announces its objects and carries their octets. -/
structure Built (params : Params) (typeId : TypeId) (isSequence : Bool)
    (coa : CauseOfTransmission) (n : ℕ) (w : Octets) (a : Asdu) : Prop where
  valid : params.WellFormed
  sizeable : typeId.infoObjSize.isOk
  params : a.params = params
  typeId : a.identifier.typeId = typeId
  isSequence : a.identifier.variable'.isSequence = isSequence
  number : a.identifier.variable'.number.toNat = n
  coa : a.identifier.coa = coa
  infoObj : a.infoObj = w
  nonempty : 0 < n

theorem of_checkValid {params : Params} {typeId : TypeId} {isSequence : Bool} {n : ℕ}
    (h : Asdu.checkValid params typeId isSequence n = .ok ()) :
    params.WellFormed ∧ typeId.infoObjSize.isOk ∧ 0 < n := by
  unfold Asdu.checkValid at h
  split at h
  · cases h
  · next hn =>
    obtain ⟨objSize, hsize, h⟩ := bind_eq_ok.mp h
    obtain ⟨_, hvalid, -⟩ := bind_eq_ok.mp h
    exact ⟨Params.valid_eq_ok.mp hvalid, by rw [hsize]; rfl, by omega⟩

theorem built_of_buildObjects {α : Type} {params : Params} {typeId : TypeId} {isSequence : Bool}
    {coa : CauseOfTransmission} {ca : UInt16} {ioa : α → InfoObjAddr}
    {element : α → Except Error Octets} {infos : List α} {a : Asdu}
    (h : buildObjects params typeId isSequence coa ca ioa element infos = .ok a) :
    ∃ w, writeObjects params isSequence ioa element 0 infos = .ok w ∧
      Built params typeId isSequence coa infos.length w a := by
  obtain ⟨u, hstart, h⟩ := bind_eq_ok.mp h
  obtain ⟨w, hw, h⟩ := bind_eq_ok.mp h
  obtain ⟨_, hcheck, hset⟩ := bind_eq_ok.mp hstart
  obtain ⟨hvalid, hsizeable, hn⟩ := of_checkValid hcheck
  unfold Asdu.setVariableNumber at hset
  split at hset
  · cases hset
  · next hlt =>
    cases hset
    cases h
    exact ⟨w, hw, hvalid, hsizeable, rfl, rfl, rfl, toNat_toUInt8 (by omega), rfl, rfl, hn⟩

/-- What a built ASDU carries is what its receiver reads. -/
theorem Built.objects_yields {α γ : Type} {params : Params} {typeId : TypeId} {isSequence : Bool}
    {coa : CauseOfTransmission} {ioa : α → InfoObjAddr} {element : α → Except Error Octets}
    {infos : List α} {w : Octets} {a : Asdu} (ha : Built params typeId isSequence coa infos.length w a)
    (hwrite : writeObjects params isSequence ioa element 0 infos = .ok w)
    {object : InfoObjAddr → InfoObjReader γ} {f : InfoObjAddr → α → γ}
    (Good : TimeTagFlags → Prop) (hgood : Good .GOOD)
    (hobj : ∀ v ∈ infos, ∀ octets, element v = .ok octets → ∀ addr t, Good t →
      ∃ t', Good t' ∧ Yields (object addr) octets t (f addr v) t') :
    a.read (a.objects object) = .ok (assigned isSequence ioa f 0 0 infos) := by
  obtain ⟨t', hy⟩ := readObjects_yields ha.valid hobj hgood hwrite
  unfold Asdu.read Asdu.objects
  rw [ha.params, ha.isSequence, ha.number, ha.infoObj, hy.run]
  rfl

/-! ### One object of a family -/

/-- A stamped value as it arrives: the value reduced to the bits its type sends,
and no time behind an untagged type. -/
def Stamped.reduced {β : Type} (untagged : List TypeId) (reduce : TypeId → β → β) (typeId : TypeId)
    (v : Stamped β) : Stamped β where
  ioa := v.ioa
  value := reduce typeId v.value
  time := if typeId ∈ untagged then none else v.time.map DateTime.truncated
  timeFlags := if typeId ∈ untagged then .GOOD else v.timeFlags.onTag v.time

/-- Every time of the list is one a tag can name. -/
def Stamped.Timely {β : Type} (infos : List (Stamped β)) : Prop :=
  ∀ v ∈ infos, ∀ t ∈ v.time, DateTime.InCentury t

namespace Family

variable {β : Type} (fam : Family β) (host : Host)

/-- A value is read back from its octets, reduced. -/
def Lossless (reduce : TypeId → β → β) : Prop :=
  ∀ typeId v t, Yields (fam.read typeId) (fam.write typeId v) t (reduce typeId v) t

variable {fam} {reduce : TypeId → β → β} (hl : fam.Lossless reduce) {p : Params} {typeId : TypeId}
  {v : Stamped β} {octets : Octets}

include hl

/-- An object of an untagged type. -/
theorem object_yields_untagged (htype : typeId ∈ fam.types.untagged)
    (h : fam.element host p typeId v = .ok octets) (addr : InfoObjAddr) :
    Yields (fam.object host p typeId addr) octets .GOOD
      { v.reduced fam.types.untagged reduce typeId with ioa := addr } .GOOD := by
  unfold element TaggedTypes.writeTag at h
  rw [if_pos htype] at h
  cases h
  unfold object TaggedTypes.readTag Stamped.reduced
  rw [if_pos htype, if_pos htype, if_pos htype]
  refine (hl typeId v.value .GOOD).bind ((Yields.pure none _).bind ?_)
  exact Yields.map (f := Stamped.mk addr (reduce typeId v.value) none) (timeFlags_yields .GOOD)

/-- An object of the type with a CP56Time2a tag. -/
theorem object_yields_cp56 (hz : p.infoObjTimeZone = .utc) (hun : typeId ∉ fam.types.untagged)
    (h24 : fam.types.cp24 ≠ some typeId) (h56 : fam.types.cp56 = typeId)
    (htime : ∀ t ∈ v.time, DateTime.InCentury t) (h : fam.element host p typeId v = .ok octets)
    (addr : InfoObjAddr) (t : TimeTagFlags) :
    Yields (fam.object host p typeId addr) octets t
      { v.reduced fam.types.untagged reduce typeId with ioa := addr } (v.timeFlags.onTag v.time) := by
  unfold element TaggedTypes.writeTag at h
  rw [if_neg hun, if_neg h24, if_pos h56] at h
  cases h
  unfold object TaggedTypes.readTag Stamped.reduced
  rw [if_neg hun, if_neg h24, if_pos h56, if_neg hun, if_neg hun,
    ← List.append_nil (Encoder.cp56time2aTag host p v.time v.timeFlags)]
  refine (hl typeId v.value t).bind ((cp56time2aTag_yields host hz htime v.timeFlags).bind ?_)
  exact Yields.map (f := Stamped.mk addr (reduce typeId v.value) (v.time.map DateTime.truncated))
    (timeFlags_yields _)

end Family

/-! ### The values of the families -/

namespace Family

theorem singlePoint_lossless :
    singlePoint.Lossless fun _ v => { v with qds := v.qds &&& 0xf0 } := by
  rintro typeId ⟨value, qds⟩ t
  have hall : ∀ value, ∀ qds : UInt8,
      let b := boolOctet value ||| (qds &&& 0xf0)
      (b &&& 0x01 == 0x01) = value ∧ b &&& 0xf0 = qds &&& 0xf0 := by decide +kernel
  obtain ⟨h1, h2⟩ := hall value qds
  have h := Yields.map (f := fun b => SinglePoint.mk (b &&& 0x01 == 0x01) (b &&& 0xf0))
    (byte_yields (t := t) (boolOctet value ||| (qds &&& 0xf0)))
  rwa [h1, h2] at h

/-- A two-bit state and a masked quality in one octet do not meet. -/
theorem masks_apart (q : UInt8) {low mask : UInt8} (hlow : low &&& 0x03 = low)
    (hmask : mask &&& 0x03 = 0) :
    (low ||| (q &&& mask)) &&& 0x03 = low ∧ (low ||| (q &&& mask)) &&& mask = q &&& mask := by
  have hzero : low &&& mask = 0 := by
    rw [← hlow, UInt8.and_assoc, UInt8.and_comm 0x03, hmask, UInt8.and_zero]
  constructor
  · rw [or_and_octet, UInt8.and_assoc, hmask, UInt8.and_zero, UInt8.or_zero, hlow]
  · rw [or_and_octet, hzero, UInt8.and_assoc, UInt8.and_self, UInt8.zero_or]

theorem doublePoint_lossless :
    doublePoint.Lossless fun _ v => { v with qds := v.qds &&& 0xf0 } := by
  rintro typeId ⟨value, qds⟩ t
  have hlow : value.value &&& 0x03 = value.value := by cases value <;> rfl
  obtain ⟨h1, h2⟩ := masks_apart qds hlow (show (0xf0 : UInt8) &&& 0x03 = 0 from rfl)
  have hparse : DoublePoint.parse (value.value ||| (qds &&& 0xf0)) = value := by
    unfold DoublePoint.parse
    rw [h1]
    cases value <;> rfl
  have h := Yields.map (f := fun b => DoublePointValue.mk (.parse b) (b &&& 0xf0))
    (byte_yields (t := t) (value.value ||| (qds &&& 0xf0)))
  rwa [hparse, h2] at h

end Family

/-- The value of seven signed bits. -/
def StepPosition.reduced (s : StepPosition) : StepPosition :=
  { s with val := .ofInt (s.val.toInt.bmod 128) }

theorem StepPosition.parse_value (s : StepPosition) : parse s.value = s.reduced := by
  obtain ⟨val, tr⟩ := s
  have hall : ∀ b : UInt8, ∀ tr, parse (value ⟨b.toInt8, tr⟩) = reduced ⟨b.toInt8, tr⟩ := by
    decide +kernel
  have h := hall val.toUInt8 tr
  rwa [Int8.toInt8_toUInt8] at h

namespace Family

theorem stepPosition_lossless :
    stepPosition.Lossless fun _ v => { v with value := v.value.reduced } := by
  rintro typeId ⟨value, qds⟩ t
  show Yields _ _ t (StepPositionValue.mk value.reduced qds) t
  rw [← StepPosition.parse_value]
  exact (byte_yields value.value).bind
    (Yields.map (f := StepPositionValue.mk (.parse value.value)) (byte_yields qds))

theorem bitString_lossless : bitString.Lossless fun _ v => v := by
  rintro typeId ⟨value, qds⟩ t
  exact (bitsString32_yields value).bind (Yields.map (f := BitString32.mk value) (byte_yields qds))

theorem normalValue_lossless : normalValue.Lossless fun typeId v =>
    if typeId = .M_ME_ND_1 then { v with qds := .GOOD } else v := by
  rintro typeId ⟨value, qds⟩ t
  refine (normalize_yields value).bind ?_
  dsimp only
  by_cases hnd : typeId = .M_ME_ND_1
  · rw [if_pos hnd, if_pos hnd, if_pos hnd]
    exact Yields.map (f := MeasuredValueNormal.mk value) (Yields.pure _ t)
  · rw [if_neg hnd, if_neg hnd, if_neg hnd]
    exact Yields.map (f := MeasuredValueNormal.mk value) (byte_yields qds)

theorem scaledValue_lossless : scaledValue.Lossless fun _ v => v := by
  rintro typeId ⟨value, qds⟩ t
  exact (scaled_yields value).bind (Yields.map (f := MeasuredValueScaled.mk value) (byte_yields qds))

theorem floatValue_lossless :
    floatValue.Lossless fun _ v => { v with qds := v.qds &&& 0xf1 } := by
  rintro typeId ⟨value, qds⟩ t
  have h : Yields (floatValue.read typeId) (floatValue.write typeId ⟨value, qds⟩) t
      ⟨value, qds &&& 0xf1 &&& 0xf1⟩ t :=
    (f32_yields value).bind (Yields.map (f := fun b => MeasuredValueFloat.mk value (b &&& 0xf1))
      (byte_yields (qds &&& 0xf1)))
  rwa [UInt8.and_assoc, UInt8.and_self] at h

theorem integratedTotal_lossless :
    integratedTotal.Lossless fun _ v => { v with seqNumber := v.seqNumber &&& 0x1f } := by
  intro typeId v t
  exact binaryCounterReading_yields v

theorem protectionEvent_lossless :
    protectionEvent.Lossless fun _ v => { v with qdp := v.qdp &&& 0xf8 } := by
  rintro typeId ⟨event, qdp, msec⟩ t
  have hlow : event.value &&& 0x03 = event.value := by cases event <;> rfl
  obtain ⟨h1, h2⟩ := masks_apart qdp hlow (show (0xf8 : UInt8) &&& 0x03 = 0 from rfl)
  have hparse : SingleEvent.parse (event.value ||| (qdp &&& 0xf8)) = event := by
    unfold SingleEvent.parse
    rw [h1]
    cases event <;> rfl
  have h : Yields (protectionEvent.read typeId) (protectionEvent.write typeId ⟨event, qdp, msec⟩) t
      ⟨.parse (event.value ||| (qdp &&& 0xf8)), (event.value ||| (qdp &&& 0xf8)) &&& 0xf8, msec⟩ t :=
    (byte_yields _).bind (Yields.map (f := EventOfProtectionEquipment.mk _ _)
      (cp16time2a_yields msec))
  rwa [hparse, h2] at h

theorem packedProtection_lossless (types : TaggedTypes) :
    (packedProtection types).Lossless fun _ v => { v with qdp := v.qdp &&& 0xf8 } := by
  rintro typeId ⟨bits, qdp, msec⟩ t
  have h : Yields ((packedProtection types).read typeId)
      ((packedProtection types).write typeId ⟨bits, qdp, msec⟩) t
      ⟨bits, qdp &&& 0xf8 &&& 0xf8, msec⟩ t :=
    (byte_yields bits).bind ((byte_yields (qdp &&& 0xf8)).bind
      (Yields.map (f := PackedProtection.mk bits _) (cp16time2a_yields msec)))
  rwa [UInt8.and_assoc, UInt8.and_self] at h

/-! ### What the getter of a family reads -/

section get

variable {β : Type} {fam : Family β} (host : Host) {reduce : TypeId → β → β}
  (hl : fam.Lossless reduce) {params : Params} {typeId : TypeId} {isSequence : Bool}
  {coa : CauseOfTransmission} {ca : UInt16} {infos : List (Stamped β)} {a : Asdu}

include hl

/-- The getter on a built ASDU of an untagged type, in any zone. -/
theorem get_untagged (htype : typeId ∈ fam.types.untagged)
    (h : fam.withType host params typeId isSequence coa ca infos = .ok a) :
    fam.get host a = .ok (assigned isSequence Stamped.ioa
      (fun addr v => { v.reduced fam.types.untagged reduce typeId with ioa := addr }) 0 0 infos) := by
  obtain ⟨w, hw, ha⟩ := built_of_buildObjects h
  unfold get objects
  rw [ha.params, ha.typeId]
  refine ha.objects_yields hw (· = .GOOD) rfl ?_
  rintro v - octets hoctets addr t rfl
  exact ⟨.GOOD, rfl, object_yields_untagged host hl htype hoctets addr⟩

/-- The getter on a built ASDU of the type with a CP56Time2a tag, in UTC. -/
theorem get_cp56 (hz : params.infoObjTimeZone = .utc) (hun : typeId ∉ fam.types.untagged)
    (h24 : fam.types.cp24 ≠ some typeId) (h56 : fam.types.cp56 = typeId)
    (htime : Stamped.Timely infos)
    (h : fam.withType host params typeId isSequence coa ca infos = .ok a) :
    fam.get host a = .ok (assigned isSequence Stamped.ioa
      (fun addr v => { v.reduced fam.types.untagged reduce typeId with ioa := addr }) 0 0 infos) := by
  obtain ⟨w, hw, ha⟩ := built_of_buildObjects h
  unfold get objects
  rw [ha.params, ha.typeId]
  refine ha.objects_yields hw (fun _ => True) trivial ?_
  intro v hv octets hoctets addr t _
  exact ⟨v.timeFlags.onTag v.time, trivial,
    object_yields_cp56 host hl hz hun h24 h56 (htime v hv) hoctets addr t⟩

end get

end Family

/-- The getter of the packed single points on what its builder built. -/
theorem get_scd {params : Params} {isSequence : Bool} {coa : CauseOfTransmission} {ca : UInt16}
    {infos : List PackedSinglePointWithScdInfo} {a : Asdu}
    (h : buildObjects params .M_PS_NA_1 isSequence coa ca PackedSinglePointWithScdInfo.ioa
      Asdu.scdElement infos = .ok a) :
    Asdu.getPackedSinglePointWithScd a = .ok (assigned isSequence PackedSinglePointWithScdInfo.ioa
      (fun addr v => { v with ioa := addr }) 0 0 infos) := by
  obtain ⟨w, hw, hb⟩ := built_of_buildObjects h
  refine hb.objects_yields hw (fun _ => True) trivial ?_
  rintro ⟨ioa, scd, qds⟩ - octets hoctets addr t -
  cases hoctets
  exact ⟨t, trivial, (bitsString32_yields scd).bind
    (Yields.map (f := PackedSinglePointWithScdInfo.mk addr scd) (byte_yields qds))⟩

/-! ### Across the wire -/

/-- What was built arrives, and the getter makes `expected` of it. -/
def Asdu.Carries {γ : Type} (params : Params) (built : Except Error Asdu)
    (get : Asdu → Except Error γ) (expected : γ) : Prop :=
  ∀ a raw, built = .ok a → a.marshalBinary = .ok raw →
    ∃ a', Asdu.unmarshalBinary params raw = .ok a' ∧ get a' = .ok expected

/-- A getter reads the payload by the parameters, the type and the qualifier. -/
theorem Asdu.carries_of_get {γ : Type} {params : Params} {built : Except Error Asdu}
    {get : Asdu → Except Error γ} {expected : γ}
    (hget : ∀ a : Asdu, get a.received = get a)
    (h : ∀ a, built = .ok a → a.params = params ∧ a.Known ∧
      a.identifier.coa.cause.octet < 64 ∧ get a = .ok expected) :
    Asdu.Carries params built get expected := by
  intro a raw ha hraw
  obtain ⟨rfl, hk, hc, hread⟩ := h a ha
  refine ⟨a.received, Asdu.unmarshal_marshal_received hc hk hraw, ?_⟩
  rw [hget, hread]

/-- The types of a family survive the wire: the list arrives in order, each
object reduced. -/
def Survives {β : Type} (params : Params) (untagged : List TypeId) (tagged : TypeId)
    (build : TypeId → Bool → List (Stamped β) → Except Error Asdu)
    (get : Asdu → Except Error (List (Stamped β))) (reduce : TypeId → β → β) : Prop :=
  ∀ typeId, typeId ∈ untagged ∨ typeId = tagged → ∀ isSequence infos,
    (isSequence = true → Consecutive (infos.map Stamped.ioa)) →
    (typeId = tagged → Stamped.Timely infos) →
    Asdu.Carries params (build typeId isSequence infos) get
      (infos.map (Stamped.reduced untagged reduce typeId))

section carries

variable (host : Host) {params : Params} (hz : params.infoObjTimeZone = .utc)
  {coa : CauseOfTransmission} (hc : coa.cause.octet < 64) (ca : UInt16)

include hz hc

/-- A family whose builder is `withType` survives. -/
theorem Family.survives {β : Type} {fam : Family β} {reduce : TypeId → β → β}
    (hl : fam.Lossless reduce) (h24 : fam.types.cp24 ≠ some fam.types.cp56) :
    Survives params fam.types.untagged fam.types.cp56
      (fun typeId isSequence infos => fam.withType host params typeId isSequence coa ca infos)
      (fam.get host) reduce := by
  intro typeId htype isSequence infos hseq htime
  refine Asdu.carries_of_get (fun _ => rfl) fun a ha => ?_
  obtain ⟨w, -, hb⟩ := built_of_buildObjects ha
  refine ⟨hb.params, .inl (hb.typeId ▸ hb.sizeable), hb.coa ▸ hc, ?_⟩
  have hget : fam.get host a = .ok (assigned isSequence Stamped.ioa (fun addr v =>
      { v.reduced fam.types.untagged reduce typeId with ioa := addr }) 0 0 infos) := by
    by_cases hmem : typeId ∈ fam.types.untagged
    · exact Family.get_untagged host hl hmem ha
    · have h56 := htype.resolve_left hmem
      exact Family.get_cp56 host hl hz hmem (h56 ▸ h24) h56.symm (htime h56) ha
  rw [hget, assigned_eq_map hseq]
  rfl

/-- A protection type with exactly one information object arrives. -/
theorem packed_carries (types : TaggedTypes) (h24 : types.cp24 ≠ some types.cp56)
    (hun : types.cp56 ∉ types.untagged) (info : Stamped PackedProtection)
    (htime : ∀ t ∈ info.time, DateTime.InCentury t) :
    Asdu.Carries params
      (Asdu.packedWithType host (.packedProtection types) params types.cp56 coa ca info)
      (fun a => a.read (Asdu.packedObject host (.packedProtection types) a))
      (info.reduced types.untagged (fun _ v => { v with qdp := v.qdp &&& 0xf8 }) types.cp56) := by
  -- The builder writes a list of one object, and the getter reads it as a single one.
  refine Asdu.carries_of_get (fun _ => rfl) fun a ha => ?_
  obtain ⟨_, -, ha⟩ := bind_eq_ok.mp ha
  obtain ⟨w, hw, hb⟩ := built_of_buildObjects ha
  refine ⟨hb.params, .inl (hb.typeId ▸ hb.sizeable), hb.coa ▸ hc, ?_⟩
  unfold writeObjects at hw
  obtain ⟨addr, haddr, hw⟩ := bind_eq_ok.mp hw
  obtain ⟨octets, hoctets, hw⟩ := bind_eq_ok.mp hw
  obtain ⟨rest, hrest, hw⟩ := bind_eq_ok.mp hw
  cases hrest
  cases hw
  have hnum : a.identifier.variable'.number = 1 := UInt8.toNat_inj.mp hb.number
  have hobj := Family.object_yields_cp56 host (Family.packedProtection_lossless types) hz hun h24
    rfl htime hoctets info.ioa .GOOD
  have hy := (infoObjAddr_yields (t := .GOOD) hb.valid haddr).bind hobj
  unfold Asdu.read Asdu.packedObject
  rw [if_neg (by rw [hb.isSequence, hnum]; decide), hb.params, hb.typeId, hb.infoObj,
    List.append_nil, hy.run]
  rfl

omit hz in
/-- Packed single points arrive. -/
theorem scd_carries (isSequence : Bool) (infos : List PackedSinglePointWithScdInfo)
    (hseq : isSequence = true → Consecutive (infos.map PackedSinglePointWithScdInfo.ioa)) :
    Asdu.Carries params (Asdu.packedSinglePointWithScd params isSequence coa ca infos)
      Asdu.getPackedSinglePointWithScd infos := by
  refine Asdu.carries_of_get (fun _ => rfl) fun a ha => ?_
  obtain ⟨_, -, ha⟩ := bind_eq_ok.mp ha
  obtain ⟨w, -, hb⟩ := built_of_buildObjects ha
  refine ⟨hb.params, .inl (hb.typeId ▸ hb.sizeable), hb.coa ▸ hc, ?_⟩
  rw [get_scd ha, assigned_eq_map hseq]
  exact congrArg Except.ok (List.map_id _)

/-- Events of protection equipment arrive. -/
theorem protectionEvent_survives :
    Survives params [] .M_EP_TD_1
      (fun typeId _ infos =>
        Asdu.eventOfProtectionEquipmentWithType host params typeId coa ca infos)
      (Asdu.getEventOfProtectionEquipment host) (fun _ v => { v with qdp := v.qdp &&& 0xf8 }) := by
  intro typeId htype _ infos _ htime a raw ha hraw
  obtain ⟨_, -, ha⟩ := bind_eq_ok.mp ha
  exact Family.survives host hz hc ca Family.protectionEvent_lossless (by decide) typeId htype false
    infos (fun h => by cases h) htime a raw ha hraw

/-- **Every family of the monitoring direction survives the wire.**  Built for
any of its types but the ones with a CP24Time2a tag, a list of objects is read
back in order, each reduced to the bits its type transmits. -/
theorem monitor_carries :
    Survives params [.M_SP_NA_1] .M_SP_TB_1
      (fun t sq infos => Asdu.singleWithType host params t sq coa ca infos)
      (Asdu.getSinglePoint host) (fun _ v => { v with qds := v.qds &&& 0xf0 }) ∧
    Survives params [.M_DP_NA_1] .M_DP_TB_1
      (fun t sq infos => Asdu.doubleWithType host params t sq coa ca infos)
      (Asdu.getDoublePoint host) (fun _ v => { v with qds := v.qds &&& 0xf0 }) ∧
    Survives params [.M_ST_NA_1] .M_ST_TB_1
      (fun t sq infos => Asdu.stepWithType host params t sq coa ca infos)
      (Asdu.getStepPosition host) (fun _ v => { v with value := v.value.reduced }) ∧
    Survives params [.M_BO_NA_1] .M_BO_TB_1
      (fun t sq infos => Asdu.bitstring32WithType host params t sq coa ca infos)
      (Asdu.getBitstring32 host) (fun _ v => v) ∧
    Survives params [.M_ME_NA_1, .M_ME_ND_1] .M_ME_TD_1
      (fun t sq infos => Asdu.measuredValueNormalWithType host params t sq coa ca infos)
      (Asdu.getMeasuredValueNormal host)
      (fun t v => if t = .M_ME_ND_1 then { v with qds := .GOOD } else v) ∧
    Survives params [.M_ME_NB_1] .M_ME_TE_1
      (fun t sq infos => Asdu.measuredValueScaledWithType host params t sq coa ca infos)
      (Asdu.getMeasuredValueScaled host) (fun _ v => v) ∧
    Survives params [.M_ME_NC_1] .M_ME_TF_1
      (fun t sq infos => Asdu.measuredValueFloatWithType host params t sq coa ca infos)
      (Asdu.getMeasuredValueFloat host) (fun _ v => { v with qds := v.qds &&& 0xf1 }) ∧
    Survives params [.M_IT_NA_1] .M_IT_TB_1
      (fun t sq infos => Asdu.integratedTotalsWithType host params t sq coa ca infos)
      (Asdu.getIntegratedTotals host) (fun _ v => { v with seqNumber := v.seqNumber &&& 0x1f }) ∧
    Survives params [] .M_EP_TD_1
      (fun t _ infos => Asdu.eventOfProtectionEquipmentWithType host params t coa ca infos)
      (Asdu.getEventOfProtectionEquipment host) (fun _ v => { v with qdp := v.qdp &&& 0xf8 }) ∧
    (∀ info : PackedStartEventsOfProtectionEquipmentInfo,
      (∀ t ∈ info.time, DateTime.InCentury t) →
      Asdu.Carries params (Asdu.packedStartEventsWithType host params .M_EP_TE_1 coa ca info)
        (Asdu.getPackedStartEvents host)
        (info.reduced [] (fun _ v => { v with qdp := v.qdp &&& 0xf8 }) .M_EP_TE_1)) ∧
    (∀ info : PackedOutputCircuitInfoInfo, (∀ t ∈ info.time, DateTime.InCentury t) →
      Asdu.Carries params (Asdu.packedOutputCircuitInfoWithType host params .M_EP_TF_1 coa ca info)
        (Asdu.getPackedOutputCircuitInfo host)
        (info.reduced [] (fun _ v => { v with qdp := v.qdp &&& 0xf8 }) .M_EP_TF_1)) ∧
    (∀ isSequence infos,
      (isSequence = true → Consecutive (infos.map PackedSinglePointWithScdInfo.ioa)) →
      Asdu.Carries params (Asdu.packedSinglePointWithScd params isSequence coa ca infos)
        Asdu.getPackedSinglePointWithScd infos) := by
  have hfam {β : Type} {fam : Family β} {reduce : TypeId → β → β} (hl : fam.Lossless reduce) :=
    Family.survives host hz hc ca hl
  -- All but the packed types are families, and each needs only that its elements survive.
  refine ⟨hfam Family.singlePoint_lossless (by decide), hfam Family.doublePoint_lossless (by decide),
    hfam Family.stepPosition_lossless (by decide), hfam Family.bitString_lossless (by decide),
    hfam Family.normalValue_lossless (by decide), hfam Family.scaledValue_lossless (by decide),
    hfam Family.floatValue_lossless (by decide), hfam Family.integratedTotal_lossless (by decide),
    protectionEvent_survives host hz hc ca, ?_, ?_, scd_carries hc ca⟩
  · intro info htime
    exact packed_carries host hz hc ca ⟨[], some .M_EP_TB_1, .M_EP_TE_1⟩ (by decide) (by decide) info
      htime
  · intro info htime
    exact packed_carries host hz hc ca ⟨[], some .M_EP_TC_1, .M_EP_TF_1⟩ (by decide) (by decide) info
      htime

end carries

/-- Two time-tagged single points, the second with reserved quality bits set and
no time. -/
theorem monitor_carries_singlePoints :
    let now : DateTime := ⟨2026, 3, 4, 5, 6, 7, 890_123_456, by decide⟩
    ∃ a', Asdu.unmarshalBinary paramsWide
        [30, 2, 3, 0, 1, 0, 100, 0, 0, 0x81, 0xd2, 0x1e, 6, 5, 0x64, 3, 26,
          200, 0, 0, 0x10, 0, 0, 0x80, 0, 0, 0, 0] = .ok a' ∧
      Asdu.getSinglePoint (.utc now) a' = .ok
        [⟨100, ⟨true, 0x80⟩, some now.truncated, .GOOD⟩, ⟨200, ⟨false, 0x10⟩, none, ⟨true, false⟩⟩] := by
  intro now
  have htime : Stamped.Timely (β := SinglePoint)
      [⟨100, ⟨true, 0x80⟩, some now, .GOOD⟩, ⟨200, ⟨false, 0x1f⟩, none, .GOOD⟩] := by
    intro v hv t ht
    obtain rfl | rfl : v = ⟨100, ⟨true, 0x80⟩, some now, .GOOD⟩ ∨
        v = ⟨200, ⟨false, 0x1f⟩, none, .GOOD⟩ := by simpa using hv
    · cases ht
      decide
    · cases ht
  obtain ⟨a', hread, hget⟩ :=
    (monitor_carries (.utc now) (show paramsWide.infoObjTimeZone = .utc from rfl)
      (show (CauseOfTransmission.new .SPONTANEOUS).cause.octet < 64 by decide) 1).1 .M_SP_TB_1
      (.inr rfl) false _ (fun h => by cases h) (fun _ => htime) _
      [30, 2, 3, 0, 1, 0, 100, 0, 0, 0x81, 0xd2, 0x1e, 6, 5, 0x64, 3, 26,
        200, 0, 0, 0x10, 0, 0, 0x80, 0, 0, 0, 0] rfl (by decide +kernel)
  exact ⟨a', hread, hget.trans (congrArg Except.ok (by decide))⟩

end Iec60870
