import Iec60870.Asdu.Control
import Iec60870.Asdu.MonitorTrip

/-!
# Commands, system information and parameters across the wire

What a builder of a single object accepts is sent, received, and read back by its
getter, each field reduced to its own bits.  One qualifier is the exception: a
cause of initialization above seven bits runs into the flag of its octet.

## Main definitions

* `Asdu.Arrives` — what was built is sent, received and read back.
* `TypeId.Sized` — the octets of a type's object.

## Main results

* `arrives_of_single` — any single object arrives.
* `Family.cmd_arrives` — the commands arrive, untagged and tagged.
* `control_arrives` — **every builder of the control direction, and the exact
  condition for the end of initialization.**
-/

namespace Iec60870

open Decoder (Yields)

/-! ### Sending one object -/

/-- A cause a marshalled ASDU can carry: used, and within the six bits that the
octet has for it. -/
def CauseOfTransmission.Encodable (coa : CauseOfTransmission) : Prop :=
  coa.cause ≠ .UNUSED ∧ coa.cause.octet < 64

instance (coa : CauseOfTransmission) : Decidable coa.Encodable :=
  inferInstanceAs (Decidable (_ ∧ _))

/-- A common address the parameters can encode: not the unused one, and within one
octet where only one is transmitted. -/
def Params.EncodesCommonAddr (p : Params) (ca : UInt16) : Prop :=
  ca ≠ INVALID_COMMON_ADDR ∧ (p.commonAddrSize = 1 → ca = GLOBAL_COMMON_ADDR ∨ ca < 255)

instance (p : Params) (ca : UInt16) : Decidable (p.EncodesCommonAddr ca) :=
  inferInstanceAs (Decidable (_ ∧ _))

/-- A type outside file transfer with `k` octets behind the address of its
object. -/
def TypeId.Sized (t : TypeId) (k : ℕ) : Prop :=
  t.infoObjSize = .ok k ∧ k ≤ 12 ∧ t.octet < 120

instance (t : TypeId) (k : ℕ) : Decidable (t.Sized k) :=
  inferInstanceAs (Decidable (_ ∧ _))

/-- What was built is sent and received, and the getter makes `expected` of it. -/
def Asdu.Arrives {γ : Type} (params : Params) (built : Except Error Asdu)
    (get : Asdu → Except Error γ) (expected : γ) : Prop :=
  ∀ a, built = .ok a → ∃ raw a', a.marshalBinary = .ok raw ∧
    Asdu.unmarshalBinary params raw = .ok a' ∧ get a' = .ok expected

/-- What arrives is determined by what was built. -/
theorem Asdu.Arrives.unique {γ : Type} {params : Params} {built : Except Error Asdu} {a : Asdu}
    {get : Asdu → Except Error γ} {v v' : γ} (h : Asdu.Arrives params built get v)
    (h' : Asdu.Arrives params built get v') (ha : built = .ok a) : v = v' := by
  obtain ⟨raw, b, hraw, hb, hv⟩ := h a ha
  obtain ⟨raw', b', hraw', hb', hv'⟩ := h' a ha
  obtain rfl := Except.ok.inj (hraw.symm.trans hraw')
  obtain rfl := Except.ok.inj (hb.symm.trans hb')
  exact Except.ok.inj (hv.symm.trans hv')

section single

variable {params : Params} {typeId : TypeId} {coa : CauseOfTransmission} {ca : UInt16}

/-- What the builder of a single object needs, and what it builds. -/
theorem buildSingle_eq_ok {ioa : InfoObjAddr} {element : Except Error Octets} {a : Asdu} :
    buildSingle (startSingle params typeId coa ca) ioa element = .ok a ↔
      params.WellFormed ∧ params.FitsAddr ioa ∧ ∃ octets, element = .ok octets ∧
        a = ⟨params, .new typeId .single coa ca,
          LittleEndian.encode params.infoObjAddrSize.toNat ioa.toNat ++ octets⟩ := by
  unfold buildSingle startSingle
  constructor
  -- Each check of the builder that succeeded gives one of the facts.
  · intro h
    obtain ⟨u, hu, h⟩ := bind_eq_ok.mp h
    obtain ⟨_, hvalid, hu⟩ := bind_eq_ok.mp hu
    cases hu
    obtain ⟨addr, haddr, h⟩ := bind_eq_ok.mp h
    obtain ⟨octets, hoctets, h⟩ := bind_eq_ok.mp h
    have hw := Params.valid_eq_ok.mp hvalid
    rw [Asdu.new, encoder_infoObjAddr hw] at haddr
    split at haddr
    · next hfit =>
      cases haddr
      cases h
      exact ⟨hw, hfit, octets, hoctets, rfl⟩
    · cases haddr
  · rintro ⟨hw, hfit, octets, rfl, rfl⟩
    rw [Params.valid_eq_ok.mpr hw]
    show (Encoder.infoObjAddr params ioa >>= _) = _
    rw [encoder_infoObjAddr hw, if_pos hfit]
    rfl

/-- One object of the announced size is sent. -/
theorem sendable_single {k : ℕ} {w : Octets} (hw : params.WellFormed) (hsize : typeId.Sized k)
    (hc : coa.Encodable) (hca : params.EncodesCommonAddr ca)
    (hlen : w.length = params.infoObjAddrSize.toNat + k) :
    (Asdu.mk params (.new typeId .single coa ca) w).Sendable := by
  obtain ⟨hobj, hk, hfile⟩ := hsize
  have haddr := hw.2.2
  rw [UInt8.le_iff_toNat_le, UInt8.le_iff_toNat_le] at haddr
  have h1 : (1 : UInt8).toNat = 1 := rfl
  have h3 : (3 : UInt8).toNat = 3 := rfl
  -- What the decoder of the other side checks again: the type is known, and the payload has the
  -- announced size.
  have hid := hw.identifierSize_bounds
  have hknown : typeId.infoObjSize.isOk := by rw [hobj]; rfl
  have hzero : typeId.octet ≠ 0 :=
    Asdu.Known.octet_ne_zero (a := ⟨params, .new typeId .single coa ca, w⟩) (.inl hknown)
  have hannounced : (Asdu.mk params (.new typeId .single coa ca) w).announcedSize =
      .ok w.length := by
    rw [Asdu.announcedSize_of_sized hobj, hlen]
    show (if 1 * (params.infoObjAddrSize.toNat + k) = 0 then Except.error Error.infoObjIndexFit
      else Except.ok (1 * (params.infoObjAddrSize.toNat + k))) = _
    rw [Nat.one_mul, if_neg (by omega)]
  have hcount : (Asdu.mk params (.new typeId .single coa ca) w).CountAllowed := by
    refine ⟨show 1 ≤ (1 : UInt8) ∧ (1 : UInt8) ≤ 127 by decide, fun h => ?_⟩
    exact absurd (UInt8.lt_of_lt_of_le hfile h.1) (UInt8.lt_irrefl _)
  refine ⟨hw, hzero, hcount.1, hc.1, hca.1, hca.2, ?_,
    Asdu.checkOutgoing_of_exact (.inl hknown) hcount hannounced⟩
  show params.identifierSize + w.length ≤ 249
  omega

/-- **A single object arrives** when its octets are the announced ones and its
reader makes `expected` of them. -/
theorem arrives_of_single {γ : Type} {k : ℕ} (hsize : typeId.Sized k) (hc : coa.Encodable)
    (hca : params.EncodesCommonAddr ca) {get : Asdu → Except Error γ}
    (object : InfoObjAddr → InfoObjReader γ) {ioa : InfoObjAddr} {element : Except Error Octets}
    {expected : γ}
    (hget : ∀ w, get ⟨params, .new typeId .single coa ca, w⟩ =
      Asdu.read ⟨params, .new typeId .single coa ca, w⟩ (Asdu.singleObject ⟨params, .new typeId
        .single coa ca, w⟩ object))
    (helement : ∀ octets, element = .ok octets → octets.length = k ∧
      ∃ t', Yields (object ioa) octets .GOOD expected t') :
    Asdu.Arrives params (buildSingle (startSingle params typeId coa ca) ioa element) get
      expected := by
  -- The octets written are the starting address and then the element, and the reader takes them in
  -- that order.
  intro a ha
  obtain ⟨hw, hfit, octets, hoctets, rfl⟩ := buildSingle_eq_ok.mp ha
  obtain ⟨hlen, t', hy⟩ := helement octets hoctets
  have hsend := sendable_single (w := LittleEndian.encode params.infoObjAddrSize.toNat ioa.toNat ++
    octets) hw hsize hc hca (by rw [List.length_append, LittleEndian.length_encode, hlen])
  have hraw := Asdu.marshalBinary_eq_ok_iff.mpr ⟨hsend, rfl⟩
  have hknown : typeId.infoObjSize.isOk := by rw [hsize.1]; rfl
  refine ⟨_, _, hraw, Asdu.unmarshal_marshal hc.2 (fun _ => rfl) (.inl hknown) hraw, ?_⟩
  have haddr : Encoder.infoObjAddr params ioa =
      .ok (LittleEndian.encode params.infoObjAddrSize.toNat ioa.toNat) := by
    rw [encoder_infoObjAddr hw, if_pos hfit]
  have hread := ((infoObjAddr_yields (t := .GOOD) hw haddr).bind hy).run
  rw [hget]
  unfold Asdu.read Asdu.singleObject
  rw [hread]
  rfl

end single

/-! ### Qualifiers -/

/-- The five bits sent of a qualifier of command. -/
def QualifierOfCommand.reduced (q : QualifierOfCommand) : QualifierOfCommand :=
  { q with qual := q.qual &&& 0x1f }

/-- The seven bits sent of a qualifier of a set-point command. -/
def QualifierOfSetpointCmd.reduced (q : QualifierOfSetpointCmd) : QualifierOfSetpointCmd :=
  { q with qual := q.qual &&& 0x7f }

/-- The six and the two bits sent of a qualifier of counter interrogation. -/
def QualifierCountCall.reduced (q : QualifierCountCall) : QualifierCountCall :=
  ⟨q.request &&& 0x3f, q.freeze &&& 0xc0⟩

/-- The six bits sent of a parameter category. -/
def QualifierOfParameterMv.reduced (q : QualifierOfParameterMv) : QualifierOfParameterMv :=
  { q with category := q.category &&& 0x3f }

/-- The seven bits of a cause of initialization. -/
def CauseOfInitial.reduced (c : CauseOfInitial) : CauseOfInitial :=
  { c with cause := c.cause &&& 0x7f }

/-- The qualifier keeps clear of the value bits, and does not read them. -/
theorem QualifierOfCommand.parse_value_or {low : UInt8} (hlow : low ∈ [0, 1, 2, 3])
    (q : QualifierOfCommand) : parse (q.value ||| low) = q.reduced ∧ q.value &&& 0x03 = 0 := by
  obtain ⟨qual, select⟩ := q
  have hall : ∀ low ∈ ([0, 1, 2, 3] : List UInt8), ∀ qual : UInt8, ∀ select,
      let q : QualifierOfCommand := ⟨qual, select⟩
      parse (q.value ||| low) = q.reduced ∧ q.value &&& 0x03 = 0 := by decide +kernel
  exact hall low hlow qual select

theorem QualifierOfSetpointCmd.parse_value (q : QualifierOfSetpointCmd) :
    parse q.value = q.reduced := by
  obtain ⟨qual, select⟩ := q
  have hall : ∀ qual : UInt8, ∀ select, parse (value ⟨qual, select⟩) = reduced ⟨qual, select⟩ := by
    decide +kernel
  exact hall qual select

theorem QualifierCountCall.parse_value (q : QualifierCountCall) : parse q.value = q.reduced := by
  unfold parse value reduced
  congr 1
  · rw [or_and_octet, UInt8.and_assoc, UInt8.and_self, UInt8.and_assoc,
      show (0xc0 : UInt8) &&& 0x3f = 0 from rfl, UInt8.and_zero, UInt8.or_zero]
  · rw [or_and_octet, UInt8.and_assoc, UInt8.and_assoc, UInt8.and_self,
      show (0x3f : UInt8) &&& 0xc0 = 0 from rfl, UInt8.and_zero, UInt8.zero_or]

theorem QualifierOfParameterMv.parse_value (q : QualifierOfParameterMv) :
    parse q.value = q.reduced := by
  obtain ⟨category, change, operation⟩ := q
  have hall : ∀ category : UInt8, ∀ change operation,
      parse (value ⟨category, change, operation⟩) = reduced ⟨category, change, operation⟩ := by
    decide +kernel
  exact hall category change operation

/-- The cause is sent with all its bits: above the seventh it sets the flag. -/
theorem CauseOfInitial.parse_value_iff (c : CauseOfInitial) :
    parse c.value = c.reduced ↔ c.cause < 128 ∨ c.isLocalChange := by
  obtain ⟨cause, change⟩ := c
  have hall : ∀ cause : UInt8, ∀ change, parse (value ⟨cause, change⟩) = reduced ⟨cause, change⟩ ↔
      cause < 128 ∨ change = true := by decide +kernel
  exact hall cause change

/-! ### Commands -/

namespace Family

theorem command_lossless {β : Type} (types : TaggedTypes) {value : β → UInt8} {parse : UInt8 → β}
    (hlow : ∀ v, value v ∈ [0, 1, 2, 3])
    (hparse : ∀ v, ∀ q : UInt8, q &&& 0x03 = 0 → parse (q ||| value v) = v) :
    (command types value parse).Lossless fun _ v => { v with qoc := v.qoc.reduced } := by
  rintro typeId ⟨v, qoc⟩ t
  obtain ⟨hqoc, hzero⟩ := qoc.parse_value_or (hlow v)
  have h := Yields.map (f := fun b => Command.mk (parse b) (.parse b))
    (byte_yields (t := t) (qoc.value ||| value v))
  rwa [hparse v _ hzero, hqoc] at h

theorem setpoint_lossless {β : Type} (types : TaggedTypes) {value : β → Octets}
    {read : InfoObjReader β} (hread : ∀ v t, Yields read (value v) t v t) :
    (setpoint types value read).Lossless fun _ v => { v with qos := v.qos.reduced } := by
  rintro typeId ⟨v, qos⟩ t
  have h : Yields ((setpoint types value read).read typeId)
      ((setpoint types value read).write typeId ⟨v, qos⟩) t ⟨v, .parse qos.value⟩ t :=
    (hread v t).bind (Yields.map (f := fun b => Setpoint.mk v (.parse b)) (byte_yields qos.value))
  rwa [QualifierOfSetpointCmd.parse_value] at h

theorem singleCommand_lossless :
    singleCommand.Lossless fun _ v => { v with qoc := v.qoc.reduced } :=
  command_lossless _ (by decide) (by decide +kernel)

theorem doubleCommand_lossless :
    doubleCommand.Lossless fun _ v => { v with qoc := v.qoc.reduced } := by
  refine command_lossless _ (fun v => by cases v <;> decide) fun v => ?_
  cases v <;> decide +kernel

theorem stepCommand_lossless :
    stepCommand.Lossless fun _ v => { v with qoc := v.qoc.reduced } := by
  refine command_lossless _ (fun v => by cases v <;> decide) fun v => ?_
  cases v <;> decide +kernel

theorem bitsString32Command_lossless : bitsString32Command.Lossless fun _ v => v := by
  intro typeId v t
  exact bitsString32_yields v

end Family

/-- The commands of a family arrive: of the untagged type without the time, of
the other with it. -/
def CommandsArrive {β : Type} (params : Params) (untagged : TypeId)
    (build : TypeId → Stamped β → Except Error Asdu) (get : Asdu → Except Error (Stamped β))
    (reduce : β → β) : Prop :=
  ∀ typeId cmd, (typeId ≠ untagged → ∀ t ∈ cmd.time, DateTime.InCentury t) →
    Asdu.Arrives params (build typeId cmd) get
      (cmd.reduced [untagged] (fun _ => reduce) typeId)

section arrive

variable (host : Host) {params : Params} (hz : params.infoObjTimeZone = .utc)
  {coa : CauseOfTransmission} (hc : coa.Encodable) {ca : UInt16}
  (hca : params.EncodesCommonAddr ca)

include hc hca

/-- The octets of one object of a fixed type. -/
theorem arrives_of_octets {γ : Type} {typeId : TypeId} {octets : Octets} {k : ℕ}
    (object : InfoObjAddr → InfoObjReader γ) (hsize : typeId.Sized k) (hlen : octets.length = k)
    {get : Asdu → Except Error γ} {ioa : InfoObjAddr} {expected : γ}
    (hget : ∀ w, get ⟨params, .new typeId .single coa ca, w⟩ =
      Asdu.read ⟨params, .new typeId .single coa ca, w⟩ (Asdu.singleObject ⟨params, .new typeId
        .single coa ca, w⟩ object))
    (hy : Yields (object ioa) octets .GOOD expected .GOOD) :
    Asdu.Arrives params (buildSingle (startSingle params typeId coa ca) ioa (.ok octets)) get
      expected := by
  refine arrives_of_single hsize hc hca object hget fun octets' h => ?_
  cases h
  exact ⟨hlen, .GOOD, hy⟩

omit hc hca in
/-- A builder that checks the cause first. -/
theorem arrives_of_check {γ : Type} {check : Except Error Unit} {built : Except Error Asdu}
    {get : Asdu → Except Error γ} {expected : γ} (h : Asdu.Arrives params built get expected) :
    Asdu.Arrives params (do check; built) get expected := by
  intro a ha
  obtain ⟨_, -, ha⟩ := bind_eq_ok.mp ha
  exact h a ha

include hz

/-- **The commands of a family arrive.** -/
theorem Family.cmd_arrives {β : Type} {fam : Family β} {untagged tagged : TypeId}
    {reduce : β → β} {k : ℕ} (hl : fam.Lossless fun _ => reduce)
    (htypes : fam.types = ⟨[untagged], none, tagged⟩) (hlen : ∀ typeId v, (fam.write typeId v).length = k)
    (hsize : untagged.Sized k ∧ tagged.Sized (k + 7)) :
    CommandsArrive params untagged
      (fun typeId cmd => fam.cmd host params typeId coa ca cmd) (fam.getCmd host) reduce := by
  obtain ⟨types, write, read⟩ := fam
  dsimp only at htypes hlen
  subst htypes
  intro typeId cmd htime
  refine arrives_of_check ?_
  -- The types of a family differ in their tag only: no tag, or a CP56Time2a.
  by_cases hun : typeId = untagged
  · subst hun
    have hmem : typeId ∈ [typeId] := List.mem_singleton_self _
    refine arrives_of_single hsize.1 hc hca (object _ host params typeId) (fun _ => rfl)
      fun octets hoctets => ⟨?_, .GOOD, ?_⟩
    · unfold element TaggedTypes.writeTag at hoctets
      rw [if_pos hmem] at hoctets
      cases hoctets
      rw [List.append_nil, hlen]
    · exact object_yields_untagged host hl hmem hoctets cmd.ioa
  · have hmem : typeId ∉ [untagged] := by rwa [List.mem_singleton]
    by_cases htag : tagged = typeId
    · subst htag
      refine arrives_of_single hsize.2 hc hca (object _ host params tagged) (fun _ => rfl)
        fun octets hoctets => ⟨?_, cmd.timeFlags.onTag cmd.time, ?_⟩
      · unfold element TaggedTypes.writeTag at hoctets
        rw [if_neg hmem, if_neg (fun h => by cases h), if_pos rfl] at hoctets
        cases hoctets
        rw [List.length_append, hlen, Encoder.cp56time2aTag, hz, length_cp56time2aTag]
        rfl
      · exact object_yields_cp56 host hl hz hmem (fun h => by cases h) rfl (htime hun) hoctets cmd.ioa .GOOD
    · -- any other type is refused
      intro a ha
      obtain ⟨-, -, octets, hoctets, -⟩ := buildSingle_eq_ok.mp ha
      unfold element TaggedTypes.writeTag at hoctets
      rw [if_neg hmem, if_neg (fun h => by cases h), if_neg htag] at hoctets
      cases hoctets

/-! ### System information and parameters -/

omit hz hc hca in
theorem qualified_yields {α : Type} (parse : UInt8 → α) (ioa : InfoObjAddr) (b : UInt8)
    (t : TimeTagFlags) :
    Yields (Asdu.qualified parse ioa) (Encoder.byte b) t (ioa, parse b) t :=
  Yields.map (f := fun b => (ioa, parse b)) (byte_yields b)

omit hz hc hca in
theorem parameterObject_yields {β : Type} {read : InfoObjReader β} {value : β → Octets} {v : β}
    {t : TimeTagFlags} (hread : Yields read (value v) t v t) (ioa : InfoObjAddr)
    (qpm : QualifierOfParameterMv) :
    Yields (Asdu.parameterObject read ioa) (value v ++ Encoder.byte qpm.value) t
      ⟨ioa, v, qpm.reduced⟩ t := by
  rw [← qpm.parse_value]
  exact hread.bind (Yields.map (f := fun b => ParameterInfo.mk ioa v (.parse b))
    (byte_yields qpm.value))

omit hz in
/-- A parameter of a measured value arrives. -/
theorem parameter_arrives {β : Type} {typeId : TypeId} {read : InfoObjReader β}
    {value : β → Octets} {k : ℕ} (hsize : typeId.Sized (k + 1)) (hlen : ∀ v, (value v).length = k)
    (hread : ∀ v t, Yields read (value v) t v t) (p : ParameterInfo β) :
    Asdu.Arrives params (Asdu.parameter params coa ca typeId value p)
      (fun a => a.read (a.singleObject (Asdu.parameterObject read)))
      { p with qpm := p.qpm.reduced } := by
  refine arrives_of_check (arrives_of_octets hc hca _ hsize ?_ (fun _ => rfl)
    (parameterObject_yields (hread p.value .GOOD) p.ioa p.qpm))
  rw [List.length_append, hlen]
  rfl

omit hz hc in
/-- **A cause of initialization arrives when it fits its seven bits**, or the
flag it would run into is set anyway. -/
theorem endOfInitialization_arrives_iff (hw : params.WellFormed) (ioa : InfoObjAddr)
    (coi : CauseOfInitial) :
    Asdu.Arrives params (Asdu.endOfInitialization params coa ca ioa coi)
        Asdu.getEndOfInitialization (ioa, coi.reduced) ↔
      (params.FitsAddr ioa → coi.cause < 128 ∨ coi.isLocalChange) := by
  have hforced : ({ coa with cause := Cause.INITIALIZED } : CauseOfTransmission).Encodable :=
    show Cause.INITIALIZED ≠ .UNUSED ∧ Cause.INITIALIZED.octet < 64 by decide
  have hparsed : Asdu.Arrives params (Asdu.endOfInitialization params coa ca ioa coi)
      Asdu.getEndOfInitialization (ioa, CauseOfInitial.parse coi.value) :=
    arrives_of_octets hforced hca (k := 1) _ (by decide) rfl (fun _ => rfl)
      (qualified_yields CauseOfInitial.parse ioa coi.value .GOOD)
  rw [← coi.parse_value_iff]
  constructor
  · intro h hfit
    exact (Prod.mk.inj (hparsed.unique h
      (buildSingle_eq_ok.mpr ⟨hw, hfit, Encoder.byte coi.value, rfl, rfl⟩))).2
  · intro h a ha
    obtain ⟨-, hfit, -⟩ := buildSingle_eq_ok.mp ha
    rw [← h hfit]
    exact hparsed a ha

/-- **Every builder of the control direction, and the exact condition for the end
of initialization.**  What each accepts is sent, received and read back, every
field reduced to its own bits; a cause of initialization above seven bits is not
reduced, and changes the flag beside it. -/
theorem control_arrives (hw : params.WellFormed) :
    CommandsArrive params .C_SC_NA_1 (fun t cmd => Asdu.singleCmd host params t coa ca cmd)
      (Asdu.getSingleCmd host) (fun v => { v with qoc := v.qoc.reduced }) ∧
    CommandsArrive params .C_DC_NA_1 (fun t cmd => Asdu.doubleCmd host params t coa ca cmd)
      (Asdu.getDoubleCmd host) (fun v => { v with qoc := v.qoc.reduced }) ∧
    CommandsArrive params .C_RC_NA_1 (fun t cmd => Asdu.stepCmd host params t coa ca cmd)
      (Asdu.getStepCmd host) (fun v => { v with qoc := v.qoc.reduced }) ∧
    CommandsArrive params .C_SE_NA_1 (fun t cmd => Asdu.setpointCmdNormal host params t coa ca cmd)
      (Asdu.getSetpointNormalCmd host) (fun v => { v with qos := v.qos.reduced }) ∧
    CommandsArrive params .C_SE_NB_1 (fun t cmd => Asdu.setpointCmdScaled host params t coa ca cmd)
      (Asdu.getSetpointScaledCmd host) (fun v => { v with qos := v.qos.reduced }) ∧
    CommandsArrive params .C_SE_NC_1 (fun t cmd => Asdu.setpointCmdFloat host params t coa ca cmd)
      (Asdu.getSetpointFloatCmd host) (fun v => { v with qos := v.qos.reduced }) ∧
    CommandsArrive params .C_BO_NA_1 (fun t cmd => Asdu.bitsString32Cmd host params t coa ca cmd)
      (Asdu.getBitsString32Cmd host) id ∧
    (∀ qoi, Asdu.Arrives params (Asdu.interrogationCmd params coa ca qoi)
      Asdu.getInterrogationCmd (INFO_OBJ_ADDR_IRRELEVANT, qoi)) ∧
    (∀ qcc, Asdu.Arrives params (Asdu.counterInterrogationCmd params coa ca qcc)
      Asdu.getCounterInterrogationCmd (INFO_OBJ_ADDR_IRRELEVANT, qcc.reduced)) ∧
    (∀ ioa, Asdu.Arrives params (Asdu.readCmd params coa ca ioa) Asdu.getReadCmd ioa) ∧
    (∀ t, DateTime.InCentury t →
      Asdu.Arrives params (Asdu.clockSynchronizationCmd host params coa ca t)
        (Asdu.getClockSynchronizationCmd host) (INFO_OBJ_ADDR_IRRELEVANT, some t.truncated)) ∧
    Asdu.Arrives params (Asdu.testCommand params coa ca) Asdu.getTestCommand
      (INFO_OBJ_ADDR_IRRELEVANT, true) ∧
    (∀ t, DateTime.InCentury t →
      Asdu.Arrives params (Asdu.testCommandCp56time2a host params coa ca t)
        (Asdu.getTestCommandCp56time2a host) (INFO_OBJ_ADDR_IRRELEVANT, true, some t.truncated)) ∧
    (∀ qrp, Asdu.Arrives params (Asdu.resetProcessCmd params coa ca qrp)
      Asdu.getResetProcessCmd (INFO_OBJ_ADDR_IRRELEVANT, qrp)) ∧
    (∀ msec, Asdu.Arrives params (Asdu.delayAcquireCommand params coa ca msec)
      Asdu.getDelayAcquireCommand (INFO_OBJ_ADDR_IRRELEVANT, msec)) ∧
    (∀ p, Asdu.Arrives params (Asdu.parameterNormal params coa ca p)
      Asdu.getParameterNormal { p with qpm := p.qpm.reduced }) ∧
    (∀ p, Asdu.Arrives params (Asdu.parameterScaled params coa ca p)
      Asdu.getParameterScaled { p with qpm := p.qpm.reduced }) ∧
    (∀ p, Asdu.Arrives params (Asdu.parameterFloat params coa ca p)
      Asdu.getParameterFloat { p with qpm := p.qpm.reduced }) ∧
    (∀ p, Asdu.Arrives params (Asdu.parameterActivation params coa ca p)
      Asdu.getParameterActivation p) ∧
    (∀ ioa coi, Asdu.Arrives params (Asdu.endOfInitialization params coa ca ioa coi)
        Asdu.getEndOfInitialization (ioa, coi.reduced) ↔
      (params.FitsAddr ioa → coi.cause < 128 ∨ coi.isLocalChange)) := by
  -- The builders that set the cause themselves set one that can be sent.
  have hact : ({ coa with cause := Cause.ACTIVATION } : CauseOfTransmission).Encodable :=
    show Cause.ACTIVATION ≠ .UNUSED ∧ Cause.ACTIVATION.octet < 64 by decide
  have hreq : ({ coa with cause := Cause.REQUEST } : CauseOfTransmission).Encodable :=
    show Cause.REQUEST ≠ .UNUSED ∧ Cause.REQUEST.octet < 64 by decide
  have hcp56 (t : DateTime) : (Encoder.cp56time2a host params (some t)).length = 7 := by
    rw [Encoder.cp56time2a, hz]
    exact length_cp56time2aTag host (some t) .GOOD .utc
  refine ⟨Family.cmd_arrives host hz hc hca Family.singleCommand_lossless rfl (fun _ _ => rfl)
      (by decide),
    Family.cmd_arrives host hz hc hca Family.doubleCommand_lossless rfl (fun _ _ => rfl) (by decide),
    Family.cmd_arrives host hz hc hca Family.stepCommand_lossless rfl (fun _ _ => rfl) (by decide),
    Family.cmd_arrives host hz hc hca (k := 3)
      (Family.setpoint_lossless _ fun v _ => normalize_yields v) rfl
      (fun _ _ => rfl) (by decide),
    Family.cmd_arrives host hz hc hca (k := 3)
      (Family.setpoint_lossless _ fun v _ => scaled_yields v) rfl
      (fun _ _ => rfl) (by decide),
    Family.cmd_arrives host hz hc hca (k := 5)
      (Family.setpoint_lossless _ fun v _ => f32_yields v) rfl
      (fun _ _ => rfl) (by decide),
    Family.cmd_arrives host hz hc hca (k := 4) Family.bitsString32Command_lossless rfl
      (fun _ _ => rfl) (by decide), ?_, ?_, ?_, ?_, ?_, ?_, ?_, ?_, ?_, ?_, ?_, ?_,
    endOfInitialization_arrives_iff hca hw⟩
  · -- The others are no families: one object each, and the octets of the element are read by the
    -- getter's own reader.
    intro qoi
    exact arrives_of_check (arrives_of_octets hc hca (k := 1) _ (by decide) rfl (fun _ => rfl)
      (qualified_yields id _ qoi .GOOD))
  · intro qcc
    rw [← qcc.parse_value]
    exact arrives_of_octets hact hca (k := 1) _ (by decide) rfl (fun _ => rfl)
      (qualified_yields QualifierCountCall.parse _ qcc.value .GOOD)
  · intro ioa
    exact arrives_of_octets hreq hca (k := 0) pure (by decide) rfl (fun _ => rfl)
      (Yields.pure ioa TimeTagFlags.GOOD)
  · intro t ht
    exact arrives_of_octets hact hca (k := 7) (Asdu.clockObject host params) (by decide)
      (hcp56 t) (fun _ => rfl)
      (Yields.map (f := Prod.mk INFO_OBJ_ADDR_IRRELEVANT) (cp56time2a_yields host hz ht))
  · exact arrives_of_octets hact hca (k := 2) _ (by decide) rfl (fun _ => rfl)
      (Yields.map (f := fun word => (INFO_OBJ_ADDR_IRRELEVANT, word == FBP_TEST_WORD))
        (u16_yields FBP_TEST_WORD))
  · intro t ht
    refine arrives_of_octets hc hca (k := 9) (Asdu.testObjectCp56time2a host params)
      (by decide) ?_ (fun _ => rfl)
      ((u16_yields FBP_TEST_WORD).bind (Yields.map
        (f := fun t => (INFO_OBJ_ADDR_IRRELEVANT, FBP_TEST_WORD == FBP_TEST_WORD, t))
        (cp56time2a_yields host hz ht)))
    rw [List.length_append, hcp56]
    rfl
  · intro qrp
    exact arrives_of_octets hact hca (k := 1) _ (by decide) rfl (fun _ => rfl)
      (qualified_yields id _ qrp .GOOD)
  · intro msec
    exact arrives_of_check (arrives_of_octets hc hca (k := 2) _ (by decide) rfl (fun _ => rfl)
      (Yields.map (f := Prod.mk INFO_OBJ_ADDR_IRRELEVANT) (u16_yields msec)))
  · intro p
    exact parameter_arrives hc hca (k := 2) (by decide) (fun _ => rfl)
      (fun v _ => normalize_yields v) p
  · intro p
    exact parameter_arrives hc hca (k := 2) (by decide) (fun _ => rfl) (fun v _ => scaled_yields v) p
  · intro p
    exact parameter_arrives hc hca (k := 4) (by decide) (fun _ => rfl) (fun v _ => f32_yields v) p
  · intro p
    exact arrives_of_check (arrives_of_octets hc hca (k := 1) _ (by decide) rfl (fun _ => rfl)
      (Yields.map (f := ParameterActivationInfo.mk p.ioa) (byte_yields p.qpa)))

end arrive

/-- A set-point of station 1, selected with a qualifier above seven bits. -/
theorem control_arrives_setpoint :
    ∃ raw a', Asdu.marshalBinary ⟨paramsWide, .new .C_SE_NB_1 .single (.new .ACTIVATION) 1,
        [5, 0, 0, 0xd4, 0xfe, 0x83]⟩ = .ok raw ∧
      Asdu.unmarshalBinary paramsWide raw = .ok a' ∧
      Asdu.getSetpointScaledCmd (.utc ⟨2026, 3, 4, 5, 6, 7, 0, by decide⟩) a' =
        .ok ⟨5, ⟨-300, ⟨0x03, true⟩⟩, none, .GOOD⟩ := by
  obtain ⟨raw, a', hraw, hread, hget⟩ :=
    (control_arrives (.utc ⟨2026, 3, 4, 5, 6, 7, 0, by decide⟩)
      (show paramsWide.infoObjTimeZone = .utc from rfl)
      (show (CauseOfTransmission.new .ACTIVATION).Encodable by decide)
      (show paramsWide.EncodesCommonAddr 1 by decide) Params.paramsWide_wellFormed).2.2.2.2.1
      .C_SE_NB_1 ⟨5, ⟨-300, ⟨0x83, true⟩⟩, none, .GOOD⟩ (fun h => absurd rfl h)
      ⟨paramsWide, .new .C_SE_NB_1 .single (.new .ACTIVATION) 1, [5, 0, 0, 0xd4, 0xfe, 0x83]⟩
      (by decide +kernel)
  exact ⟨raw, a', hraw, hread, hget.trans (congrArg Except.ok (by decide))⟩

/-- Cause 128 without local change is read back as cause 0 with local change. -/
theorem endOfInitialization_not_arrives :
    ¬Asdu.Arrives paramsWide
      (Asdu.endOfInitialization paramsWide (.new .INITIALIZED) 1 0 ⟨128, false⟩)
      Asdu.getEndOfInitialization (0, CauseOfInitial.reduced ⟨128, false⟩) := by
  intro h
  have hca : paramsWide.EncodesCommonAddr 1 := by decide
  have h' := (endOfInitialization_arrives_iff hca Params.paramsWide_wellFormed 0 ⟨128, false⟩).mp h
    (by decide)
  exact absurd h' (by decide)

end Iec60870
