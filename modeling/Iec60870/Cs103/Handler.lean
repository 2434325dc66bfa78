import Iec60870.Cs103.Asdu

/-!
# What the application of 103 is told

A received ASDU is routed to the handler's method of its type with what it says, if
it can be decoded; whatever it is, it is shown to the handler first.

## Main definitions

* `Call` — a call of a handler method, with its arguments.
* `dispatch` — the calls a received ASDU leads to.
* `Message` — what a device has to say, and the ASDU that says it.

## Main results

* `method_asdu` — a message leads to the method of its type, with what it says.
-/

namespace Iec60870
namespace Cs103

open LittleEndian (ofOctets octets)

/-! ### Routing -/

/-- A call of a `ClientHandler` method. -/
inductive Call
  | onConnect
  | onDeviceActive (addr : UInt8)
  | asduAll (pack : Asdu)
  | timeTagged (pack : Asdu) (info : TimeTaggedInfo)
  | measurands (pack : Asdu) (info : MeasurandsInfo)
  | identification (pack : Asdu) (info : IdentificationInfo)
  | giTermination (pack : Asdu) (scn : UInt8)
  | asdu (pack : Asdu)
  deriving DecidableEq

/-- The match of `dispatch`: the method for an ASDU, with what it says. -/
def method (host : Host) (pack : Asdu) : Except Error Call :=
  if pack.typeId = TypeId.TIME_TAGGED ∨ pack.typeId = TypeId.TIME_TAGGED_REL then
    .timeTagged pack <$> pack.getTimeTagged host
  else if pack.typeId = TypeId.MEASURANDS_I ∨ pack.typeId = TypeId.MEASURANDS_II then
    .measurands pack <$> pack.getMeasurands
  else if pack.typeId = TypeId.IDENTIFICATION then
    .identification pack <$> pack.getIdentification
  else if pack.typeId = TypeId.GI_TERMINATION then
    .giTermination pack <$> pack.getGiTermination
  else .ok (.asdu pack)

/-- `dispatch`: the handler sees every ASDU, then its method is called with what the
ASDU says.  One that cannot be decoded is only logged. -/
def dispatch (host : Host) (pack : Asdu) : List Call :=
  .asduAll pack :: (method host pack).toOption.toList

/-- The calls user data leads to, its time tags read in the configured zone; what is not
an ASDU is only logged. -/
def receive (host : Host) (zone : TimeZone) (raw : Octets) : List Call :=
  match (Asdu.unmarshalBinary raw).map (·.withTimeZone zone) with
  | .ok pack => dispatch host pack
  | .error _ => []

/-- User data does not report a device. -/
theorem ne_onDeviceActive {host : Host} {zone : TimeZone} {raw : Octets} {c : Call}
    (h : c ∈ receive host zone raw) (a : UInt8) : c ≠ .onDeviceActive a := by
  rintro rfl
  unfold receive at h
  split at h
  · rcases List.mem_cons.mp h with h | h
    · cases h
    · rw [Option.mem_toList] at h
      rcases hm : method host _ with e | c <;> rw [hm] at h <;> cases h
      unfold method at hm
      split_ifs at hm
      · obtain ⟨info, -, hc⟩ := map_eq_ok.mp hm
        cases hc
      · obtain ⟨info, -, hc⟩ := map_eq_ok.mp hm
        cases hc
      · obtain ⟨info, -, hc⟩ := map_eq_ok.mp hm
        cases hc
      · obtain ⟨scn, -, hc⟩ := map_eq_ok.mp hm
        cases hc
      · cases hm
  · cases h

/-! ### Messages -/

/-- What a device has to say, in the terms of the application: the content the
handler is told, without the layout it travels in. -/
inductive Message
  /-- An event, with the relative time and the number of the fault it belongs to. -/
  | timeTagged (fun' inf : UInt8) (dpi : Dpi) (fault : Option (UInt16 × UInt16))
      (time : DateTime) (flags : TimeTagFlags) (sin : UInt8)
  /-- Measurands I, or measurands II. -/
  | measurands (second : Bool) (fun' inf : UInt8) (values : List Measurand)
  /-- The text is padded with NULs to eight octets. -/
  | identification (fun' inf col : UInt8) (text : String) (extra : Octets)
  | giTermination (fun' inf scn : UInt8)

namespace Message

/-- The type of the ASDU that says it. -/
def typeId : Message → UInt8
  | .timeTagged _ _ _ none _ _ _ => TypeId.TIME_TAGGED
  | .timeTagged _ _ _ (some _) _ _ _ => TypeId.TIME_TAGGED_REL
  | .measurands second _ _ _ => if second then TypeId.MEASURANDS_II else TypeId.MEASURANDS_I
  | .identification .. => TypeId.IDENTIFICATION
  | .giTermination .. => TypeId.GI_TERMINATION

/-- The number of its objects. -/
def count : Message → ℕ
  | .measurands _ _ _ values => values.length
  | _ => 1

/-- The octets of a text, padded with NULs to the eight that the type reserves. -/
def padded (text : String) : Octets :=
  Utf8.encode text.toList ++ List.replicate (8 - (Utf8.encode text.toList).length) 0

/-- Its octets, from the function type on. -/
def infoObj (host : Host) (zone : TimeZone) : Message → Octets
  | .timeTagged fun' inf dpi fault time flags sin =>
    [fun', inf, dpi.value] ++ fault.elim [] (fun f => octets f.1 ++ octets f.2) ++
      cp32time2aTag host (some time) flags zone ++ [sin]
  | .measurands _ fun' inf values => [fun', inf] ++ values.flatMap (octets ·.value)
  | .identification fun' inf col text extra =>
    [fun', inf, col] ++ padded text ++ extra
  | .giTermination fun' inf scn => [fun', inf, scn]

/-- The ASDU that says it, as the application sees it: its times are in `zone`. -/
def asdu (m : Message) (host : Host) (zone : TimeZone) (coa commonAddr : UInt8) : Asdu where
  typeId := m.typeId
  variable' := ⟨m.count.toUInt8, true⟩
  coa := coa
  commonAddr := commonAddr
  infoObj := m.infoObj host zone
  timeZone := zone

/-- It can be said in one ASDU and understood: the event is of the host's day, the
values fit, the text fits eight octets and does not end with what pads it. -/
def Clear (host : Host) (zone : TimeZone) (clock : ZoneClock) : Message → Prop
  | .timeTagged _ _ _ _ time _ _ => host.now.Near 85800 300 time ∧ InDay host zone clock time
  | .measurands _ _ _ values => values.length ≤ 123 ∧ ∀ v ∈ values, v.InRange
  | .identification _ _ _ text extra =>
    (Utf8.encode text.toList).length ≤ 8 ∧ extra.length ≤ 238 ∧
      ∀ c ∈ text.toList.getLast?, Asdu.isPadding c = false
  | .giTermination .. => True

/-- What the handler is told when the ASDU `pack` says it. -/
def call (pack : Asdu) : Message → Call
  | .timeTagged fun' inf dpi fault time flags sin =>
    .timeTagged pack ⟨fun', inf, dpi, (fault.map (·.1)).getD 0, (fault.map (·.2)).getD 0,
      some time.truncated, flags, sin⟩
  | .measurands _ fun' inf values => .measurands pack ⟨fun', inf, values⟩
  | .identification fun' inf col text extra => .identification pack ⟨fun', inf, col, text, extra⟩
  | .giTermination _ _ scn => .giTermination pack scn

end Message

/-! ### What a message leads to -/

section

variable {host : Host} {zone : TimeZone} {clock : ZoneClock}

/-- The values of a list of octet pairs. -/
theorem parse_flatMap {values : List Measurand} (h : ∀ v ∈ values, v.InRange) :
    ((List.range values.length).map fun i =>
      Measurand.parse (ofOctets ((values.flatMap (octets ·.value)).getD (2 * i) 0)
        ((values.flatMap (octets ·.value)).getD (2 * i + 1) 0))) = values := by
  induction values with
  | nil => rfl
  | cons v values ih =>
    have hv : Measurand.parse v.value = v := (Measurand.parse_value_iff v).mpr (h v (by simp))
    rw [List.length_cons, List.range_succ_eq_map, List.map_cons, List.map_map]
    congr 1
    · simpa [octets] using hv
    · refine Eq.trans (List.map_congr_left fun i _ => ?_)
        (ih fun w hw => h w (List.mem_cons_of_mem v hw))
      simp only [Function.comp_apply, List.flatMap_cons, Nat.succ_eq_add_one, Nat.mul_add, mul_one]
      rfl

/-- An event is read with its time, its flags and its fault. -/
theorem getTimeTagged_asdu (hz : host.Exact zone clock.offset) {fun' inf : UInt8} {dpi : Dpi}
    {fault : Option (UInt16 × UInt16)} {time : DateTime} {flags : TimeTagFlags} {sin : UInt8}
    (hclear : (Message.timeTagged fun' inf dpi fault time flags sin).Clear host zone clock)
    (coa commonAddr : UInt8) :
    ((Message.timeTagged fun' inf dpi fault time flags sin).asdu host zone coa
        commonAddr).getTimeTagged host =
      .ok ⟨fun', inf, dpi, (fault.map (·.1)).getD 0, (fault.map (·.2)).getD 0,
        some time.truncated, flags, sin⟩ := by
  obtain ⟨hnear, hin⟩ := hclear
  have htag : parseCp32time2aTag host (cp32time2aTag host (some time) flags zone) zone =
      (some time.truncated, flags) := by
    rw [parseCp32time2aTag_eq, decodeCp32_of_inDay hz hnear hin]
  -- the octet after the tag does not change what it says
  have hrest : parseCp32time2aTag host (cp32time2aTag host (some time) flags zone ++ [sin]) zone =
      (some time.truncated, flags) := htag
  rcases fault with _ | ⟨ret, fan⟩
  · show Except.ok (⟨fun', inf, Dpi.parse dpi.value, 0, 0,
      (parseCp32time2aTag host (cp32time2aTag host (some time) flags zone ++ [sin]) zone).1,
      (parseCp32time2aTag host (cp32time2aTag host (some time) flags zone ++ [sin]) zone).2,
      sin⟩ : TimeTaggedInfo) = _
    rw [hrest, Dpi.parse_value]
    rfl
  · show Except.ok (⟨fun', inf, Dpi.parse dpi.value,
      ofOctets ret.toUInt8 (ret >>> 8).toUInt8, ofOctets fan.toUInt8 (fan >>> 8).toUInt8,
      (parseCp32time2aTag host (cp32time2aTag host (some time) flags zone ++ [sin]) zone).1,
      (parseCp32time2aTag host (cp32time2aTag host (some time) flags zone ++ [sin]) zone).2,
      sin⟩ : TimeTaggedInfo) = _
    rw [hrest, Dpi.parse_value, LittleEndian.ofOctets_split, LittleEndian.ofOctets_split]
    rfl

/-- The octets of the values. -/
theorem length_values (values : List Measurand) :
    (values.flatMap (octets ·.value)).length = 2 * values.length := by
  induction values with
  | nil => rfl
  | cons v values ih =>
    rw [List.flatMap_cons, List.length_append, ih, LittleEndian.length_octets, List.length_cons]
    omega

theorem getMeasurands_asdu {second : Bool} {fun' inf : UInt8} {values : List Measurand}
    (hclear : (Message.measurands second fun' inf values).Clear host zone clock)
    (coa commonAddr : UInt8) :
    ((Message.measurands second fun' inf values).asdu host zone coa commonAddr).getMeasurands =
      .ok ⟨fun', inf, values⟩ := by
  obtain ⟨hcount, hrange⟩ := hclear
  -- the count fits the octet it is announced in
  have hn : (values.length.toUInt8).toNat = values.length := toNat_toUInt8 (by omega)
  have hneed : ((Message.measurands second fun' inf values).asdu host zone coa commonAddr).need
      -- so the octets of all values are there
      (2 + 2 * values.length) = .ok ([fun', inf] ++ values.flatMap (octets ·.value)) := by
    apply if_neg
    show ¬([fun', inf] ++ values.flatMap (octets ·.value)).length < _
    rw [List.length_append, length_values]
    simp
  have htype : ¬(((Message.measurands second fun' inf values).asdu host zone coa
      commonAddr).typeId ≠ TypeId.MEASURANDS_I ∧ ((Message.measurands second fun' inf values).asdu
        host zone coa commonAddr).typeId ≠ TypeId.MEASURANDS_II) := by
    cases second
    · exact fun h => h.1 rfl
    · exact fun h => h.2 rfl
  -- and each value is read from its own two
  have hvalues : ((List.range values.length).map fun i => Measurand.parse (ofOctets
      (([fun', inf] ++ values.flatMap (octets ·.value)).getD (2 + 2 * i) 0)
      (([fun', inf] ++ values.flatMap (octets ·.value)).getD (3 + 2 * i) 0))) = values := by
    refine Eq.trans (List.map_congr_left fun i _ => ?_) (parse_flatMap hrange)
    rw [show 2 + 2 * i = 2 * i + 1 + 1 by omega, show 3 + 2 * i = 2 * i + 1 + 1 + 1 by omega]
    rfl
  unfold Asdu.getMeasurands
  rw [if_neg htype]
  show (do
    let b ← ((Message.measurands second fun' inf values).asdu host zone coa commonAddr).need
      (2 + 2 * values.length.toUInt8.toNat)
    return MeasurandsInfo.mk (b.getD 0 0) (b.getD 1 0)
      ((List.range values.length.toUInt8.toNat).map fun i => Measurand.parse (ofOctets
        (b.getD (2 + 2 * i) 0) (b.getD (3 + 2 * i) 0)))) = _
  rw [hn, hneed]
  show Except.ok (MeasurandsInfo.mk fun' inf _) = _
  rw [hvalues]

/-- What pads a text is dropped. -/
theorem rdropWhile_padding (cs : List Char) (n : ℕ) :
    (cs ++ List.replicate n (Char.ofNat 0)).rdropWhile Asdu.isPadding =
      cs.rdropWhile Asdu.isPadding := by
  induction n with
  | zero => rw [List.replicate_zero, List.append_nil]
  | succ n ih =>
    rw [List.replicate_succ', ← List.append_assoc, List.rdropWhile_concat_pos _ _ _ rfl, ih]

/-- NULs are characters of one octet. -/
theorem encode_replicate (n : ℕ) :
    Utf8.encode (List.replicate n (Char.ofNat 0)) = List.replicate n 0 := by
  induction n with
  | zero => rfl
  | succ n ih =>
    rw [List.replicate_succ, List.replicate_succ, ← ih]
    rfl

/-- A padded text is read back. -/
theorem text_padded {text : String} (hlast : ∀ c ∈ text.toList.getLast?, Asdu.isPadding c = false) :
    String.ofList ((Utf8.lossy (Message.padded text)).rdropWhile Asdu.isPadding) = text := by
  have hself : text.toList.rdropWhile Asdu.isPadding = text.toList := by
    rw [List.rdropWhile_eq_self_iff]
    intro hne h
    have hc := hlast _ (List.getLast?_eq_some_getLast hne)
    rw [h] at hc
    cases hc
  unfold Message.padded
  rw [← encode_replicate, ← Utf8.encode_append, Utf8.lossy_encode, rdropWhile_padding, hself,
    String.ofList_toList]

theorem getIdentification_asdu {fun' inf col : UInt8} {text : String} {extra : Octets}
    (hclear : (Message.identification fun' inf col text extra).Clear host zone clock)
    (coa commonAddr : UInt8) :
    ((Message.identification fun' inf col text extra).asdu host zone coa
        commonAddr).getIdentification = .ok ⟨fun', inf, col, text, extra⟩ := by
  obtain ⟨hlen, -, hlast⟩ := hclear
  have hpad : (Message.padded text).length = 8 := by
    unfold Message.padded
    rw [List.length_append, List.length_replicate]
    omega
  have hrest : ([fun', inf, col] ++ Message.padded text ++ extra).drop 3 =
      Message.padded text ++ extra := rfl
  have htake : (Message.padded text ++ extra).take 8 = Message.padded text := List.take_left' hpad
  have hdrop : (Message.padded text ++ extra).drop 8 = extra := List.drop_left' hpad
  show Except.ok (IdentificationInfo.mk fun' inf col
    (.ofList ((Utf8.lossy ((([fun', inf, col] ++ Message.padded text ++ extra).drop 3).take
      8)).rdropWhile Asdu.isPadding))
    ((([fun', inf, col] ++ Message.padded text ++ extra).drop 3).drop 8)) = _
  rw [hrest, htake, hdrop, text_padded hlast]

/-- **A message leads to the method of its type, with what it says.** -/
theorem method_asdu (hz : host.Exact zone clock.offset) {m : Message}
    (hclear : m.Clear host zone clock) (coa commonAddr : UInt8) :
    method host (m.asdu host zone coa commonAddr) =
      .ok (m.call (m.asdu host zone coa commonAddr)) := by
  cases m with
  | timeTagged fun' inf dpi fault time flags sin =>
    have hroute (a : Asdu) (h : a.typeId = TypeId.TIME_TAGGED ∨ a.typeId = TypeId.TIME_TAGGED_REL) :
        method host a = .timeTagged a <$> a.getTimeTagged host := if_pos h
    rw [hroute _ (by rcases fault with _ | f <;> [exact .inl rfl; exact .inr rfl]),
      getTimeTagged_asdu hz hclear]
    rfl
  | measurands second fun' inf values =>
    have hinfo := getMeasurands_asdu hclear coa commonAddr
    cases second
    · exact congrArg (Functor.map _) hinfo
    · exact congrArg (Functor.map _) hinfo
  | identification fun' inf col text extra =>
    exact congrArg (Functor.map _) (getIdentification_asdu hclear coa commonAddr)
  | giTermination fun' inf scn => rfl

/-! ### Its octets -/

theorem length_infoObj {m : Message} (hclear : m.Clear host zone clock) :
    (m.infoObj host zone).length ≤ 249 := by
  cases m with
  | timeTagged fun' inf dpi fault time flags sin =>
    have htag : (cp32time2aTag host (some time) flags zone).length = 4 := rfl
    rcases fault with _ | f
    · simp [Message.infoObj, htag]
    · simp [Message.infoObj, htag]
  | measurands second fun' inf values =>
    have hcount := hclear.1
    have hvalues := length_values values
    simp only [Message.infoObj, List.length_append, hvalues, List.length_cons, List.length_nil]
    omega
  | identification fun' inf col text extra =>
    obtain ⟨hlen, hextra, -⟩ := hclear
    simp only [Message.infoObj, Message.padded, List.length_append, List.length_cons,
      List.length_nil, List.length_replicate]
    omega
  | giTermination fun' inf scn => exact Nat.le_of_ble_eq_true rfl

/-- A message with a cause has octets, and once its zone is known they say it. -/
theorem exists_octets {m : Message} (hclear : m.Clear host zone clock) {coa : UInt8}
    (hcoa : coa ≠ 0) (commonAddr : UInt8) :
    ∃ raw, (m.asdu host zone coa commonAddr).marshalBinary = .ok raw ∧
      (Asdu.unmarshalBinary raw).map (·.withTimeZone zone) =
        .ok (m.asdu host zone coa commonAddr) := by
  -- only an ASDU without type or cause, or one that is too long, has no octets
  have htype : m.typeId ≠ 0 := by
    cases m with
    | timeTagged _ _ _ fault =>
      rcases fault with _ | f
      · exact (by decide : TypeId.TIME_TAGGED ≠ 0)
      · exact (by decide : TypeId.TIME_TAGGED_REL ≠ 0)
    | measurands second =>
      cases second
      · exact (by decide : TypeId.MEASURANDS_I ≠ 0)
      · exact (by decide : TypeId.MEASURANDS_II ≠ 0)
    | identification => exact (by decide : TypeId.IDENTIFICATION ≠ 0)
    | giTermination => exact (by decide : TypeId.GI_TERMINATION ≠ 0)
  have hcount : m.count ≤ 127 := by
    cases m with
    | measurands second fun' inf values => exact hclear.1.trans (by decide)
    | _ => exact (by decide : 1 ≤ 127)
  have hlen := length_infoObj hclear
  have hraw : (m.asdu host zone coa commonAddr).marshalBinary = .ok _ :=
    Asdu.marshalBinary_eq_ok.mpr ⟨htype, hcoa, by
      show IDENTIFIER_SIZE + (m.infoObj host zone).length ≤ ASDU_SIZE_MAX
      unfold IDENTIFIER_SIZE ASDU_SIZE_MAX
      omega, rfl⟩
  -- the count fits the seven bits it is read from
  have hvsq : VariableStruct.parse (m.asdu host zone coa commonAddr).variable'.value =
      (m.asdu host zone coa commonAddr).variable' := by
    refine VariableStruct.parse_value ?_
    show m.count.toUInt8 ≤ 127
    rw [UInt8.le_iff_toNat_le, toNat_toUInt8 (by omega)]
    exact hcount
  refine ⟨_, hraw, ?_⟩
  rw [Asdu.unmarshalBinary_marshalBinary hraw]
  unfold Asdu.onWire
  rw [hvsq]
  rfl

end

end Cs103
end Iec60870
