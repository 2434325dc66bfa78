import Iec60870.Asdu.Codec
import Iec60870.Lib.LittleEndian

/-!
# The ASDU container round trip

What `marshal_binary` sends is read back by `unmarshal_binary`, and what
`unmarshal_binary` accepts is sent again octet for octet.  The two functions
check the identifier and the payload in separate code.

## Main definitions

* `Asdu.Known` — the type's layout is known to the library.
* `Asdu.readIdentifier` — the identifier an octet string starts with.

## Main results

* `Asdu.octets_readIdentifier`, `Asdu.readIdentifier_octets` — the identifier in
  both directions.
* `Asdu.roundTrip` — **the container in both directions.**
-/

namespace Iec60870
namespace Asdu

/-- The types whose information objects the library can size. -/
def Known (a : Asdu) : Prop :=
  a.identifier.typeId.infoObjSize.isOk ∨ a.identifier.typeId = .F_SG_NA_1

/-- The common address in the octets of an identifier of `p`. -/
def readCommonAddr (p : Params) (raw : Octets) : UInt16 :=
  let at' (i : ℕ) : UInt8 := raw.getD i 0
  if p.commonAddrSize = 1 then
    let a := (at' (p.identifierSize - 1)).toUInt16
    if a = 255 then GLOBAL_COMMON_ADDR else a
  else (at' (p.identifierSize - 2)).toUInt16 ||| ((at' (p.identifierSize - 1)).toUInt16 <<< 8)

/-- The identifier `raw` starts with. -/
def readIdentifier (p : Params) (raw : Octets) : Identifier where
  typeId := ⟨raw.getD 0 0⟩
  variable' := .parse (raw.getD 1 0)
  coa := .parse (raw.getD 2 0)
  origAddr := if p.causeSize = 1 then 0 else raw.getD 3 0
  commonAddr := readCommonAddr p raw

/-! ### The size check -/

/-- Without lenient padding the size check changes nothing. -/
theorem fixInfoObjSize_eq_self {a b : Asdu} (ht : a.params.allowTrailingOctets = false)
    (h : a.fixInfoObjSize = .ok b) : b = a := by
  unfold fixInfoObjSize at h
  dsimp only at h
  split at h
  · cases h
  · split at h
    · cases h
    · split at h
      · cases h
      · split at h
        · rw [if_pos (by simp [ht])] at h
          cases h
        · cases h
          rfl

/-- The count and SQ are ones the type allows. -/
def CountAllowed (a : Asdu) : Prop :=
  (1 ≤ a.identifier.variable'.number ∧ a.identifier.variable'.number ≤ 127) ∧
    ((120 ≤ a.identifier.typeId.octet ∧ a.identifier.typeId.octet ≤ 126) →
      a.identifier.variable'.isSequence = false ∧
        (a.identifier.typeId = .F_DR_TA_1 ∨ a.identifier.variable'.number = 1))

theorem countAllowed_iff {a : Asdu} :
    a.CountAllowed ↔ ¬(¬(1 ≤ a.identifier.variable'.number ∧ a.identifier.variable'.number ≤ 127) ∨
      ((120 ≤ a.identifier.typeId.octet ∧ a.identifier.typeId.octet ≤ 126) ∧
        (a.identifier.variable'.isSequence ∨
          (a.identifier.typeId ≠ .F_DR_TA_1 ∧ a.identifier.variable'.number ≠ 1)))) := by
  unfold CountAllowed
  rw [not_or, not_not, not_and, not_or, not_and_or, not_not, not_not, Bool.not_eq_true]

/-- A payload of exactly the announced size is accepted as it is. -/
theorem fixInfoObjSize_of_exact {a : Asdu} (hcount : a.CountAllowed)
    (hsize : a.announcedSize = .ok a.infoObj.length) : a.fixInfoObjSize = .ok a := by
  unfold fixInfoObjSize
  dsimp only
  rw [if_neg (countAllowed_iff.mp hcount), hsize]
  dsimp only
  rw [if_neg (lt_irrefl _), if_neg (lt_irrefl _)]

/-- Without lenient padding only a payload of exactly the announced size is
accepted. -/
theorem exact_of_fixInfoObjSize {a b : Asdu} (ht : a.params.allowTrailingOctets = false)
    (h : a.fixInfoObjSize = .ok b) :
    a.CountAllowed ∧ a.announcedSize = .ok a.infoObj.length := by
  unfold fixInfoObjSize at h
  dsimp only at h
  split at h
  · cases h
  · next hcount =>
    refine ⟨countAllowed_iff.mpr hcount, ?_⟩
    split at h
    · cases h
    · next size hsize =>
      split at h
      · cases h
      · split at h
        · rw [if_pos (by simp [ht])] at h
          cases h
        · rw [hsize]
          congr 1
          omega

/-- The announced size of a type outside the segments. -/
theorem announcedSize_of_sized {a : Asdu} {objSize : ℕ}
    (h : a.identifier.typeId.infoObjSize = .ok objSize) :
    a.announcedSize =
      (let n := a.identifier.variable'.number.toNat
       let addrSize := a.params.infoObjAddrSize.toNat
       let size :=
         if a.identifier.variable'.isSequence then addrSize + n * objSize
         else n * (addrSize + objSize)
       if size = 0 then .error .infoObjIndexFit else .ok size) := by
  have hsg : a.identifier.typeId ≠ .F_SG_NA_1 := by
    intro hsg
    rw [hsg] at h
    cases h
  have hnone : a.variableInfoObjSize = none := if_pos hsg
  unfold announcedSize
  rw [hnone, h]

/-- The size check changes nothing but the end of the payload. -/
theorem fixInfoObjSize_eq_take {a b : Asdu} (h : a.fixInfoObjSize = .ok b) :
    ∃ size, a.announcedSize = .ok size ∧ size ≤ a.infoObj.length ∧ a.CountAllowed ∧
      b = { a with infoObj := a.infoObj.take size } := by
  unfold fixInfoObjSize at h
  dsimp only at h
  split at h
  · cases h
  · next hcount =>
    split at h
    · cases h
    · next size hsize =>
      split at h
      · cases h
      · next hshort =>
        refine ⟨size, hsize, by omega, countAllowed_iff.mpr hcount, ?_⟩
        split at h
        · split at h
          · cases h
          · cases h
            rfl
        · cases h
          rw [List.take_of_length_le (by omega)]

/-- An accepted payload announces its objects, and its type can be sized. -/
theorem of_fixInfoObjSize {a b : Asdu} (h : a.fixInfoObjSize = .ok b) :
    (1 ≤ a.identifier.variable'.number ∧ a.identifier.variable'.number ≤ 127) ∧ a.Known := by
  unfold fixInfoObjSize at h
  dsimp only at h
  split at h
  · cases h
  · next hcount =>
    have hn := not_not.mp (not_or.mp hcount).1
    -- A segment has a length octet in place of a fixed size, every other type the size of the
    -- table.
    refine ⟨hn, ?_⟩
    split at h
    · cases h
    · next size hsize =>
      unfold announcedSize at hsize
      split at hsize
      · cases hsize
      · next hvar =>
        right
        unfold variableInfoObjSize at hvar
        split at hvar
        · cases hvar
        · next hsg => exact not_not.mp hsg
      · left
        split at hsize
        · cases hsize
        · next hok =>
          rw [hok]
          rfl

/-- The types the library can size do not include type 0. -/
theorem Known.octet_ne_zero {a : Asdu} (h : a.Known) : a.identifier.typeId.octet ≠ 0 := by
  intro h0
  have hid : a.identifier.typeId = ⟨0⟩ := by
    cases ht : a.identifier.typeId with
    | mk octet =>
      rw [ht] at h0
      rw [show octet = 0 from h0]
  unfold Known at h
  rw [hid] at h
  rcases h with h | h
  · cases h
  · cases h

/-- An outgoing payload of exactly the announced size passes. -/
theorem checkOutgoing_of_exact {a : Asdu} (hk : a.Known) (hcount : a.CountAllowed)
    (hsize : a.announcedSize = .ok a.infoObj.length) : a.checkOutgoing = .ok () := by
  have hfix := fixInfoObjSize_of_exact
    (a := { a with params := { a.params with allowTrailingOctets := false } }) hcount hsize
  unfold checkOutgoing
  rw [if_pos (show a.identifier.typeId.infoObjSize.isOk ∨ a.identifier.typeId = .F_SG_NA_1 from hk),
    hfix]

/-- On the types it can size, an outgoing ASDU is checked like an incoming one. -/
theorem checkOutgoing_of_known {a : Asdu} (ht : a.params.allowTrailingOctets = false)
    (hk : a.Known) : a.checkOutgoing = .ok () ↔ a.fixInfoObjSize = .ok a := by
  obtain ⟨⟨c, o, s, i, z, t⟩, id, info⟩ := a
  cases ht
  unfold checkOutgoing
  rw [if_pos (show id.typeId.infoObjSize.isOk ∨ id.typeId = .F_SG_NA_1 from hk)]
  dsimp only
  constructor
  · intro h
    split at h
    · cases h
    · next b hb => rw [hb, fixInfoObjSize_eq_self rfl hb]
  · intro h
    rw [h]

/-! ### The identifier -/

/-- Both widths of a valid identifier, one by one. -/
theorem sizes_of_wellFormed {p : Params} (h : p.WellFormed) :
    (p.causeSize = 1 ∨ p.causeSize = 2) ∧ (p.commonAddrSize = 1 ∨ p.commonAddrSize = 2) := by
  have hall : ∀ b : UInt8, 1 ≤ b ∧ b ≤ 2 → b = 1 ∨ b = 2 := by decide +kernel
  exact ⟨hall _ h.1, hall _ h.2.1⟩

/-- One octet of common address, with 255 for the broadcast. -/
theorem widen_narrow {ca : UInt16} (h : ca = GLOBAL_COMMON_ADDR ∨ ca < 255) :
    (if (if ca = GLOBAL_COMMON_ADDR then (255 : UInt8) else ca.toUInt8).toUInt16 = 255
      then GLOBAL_COMMON_ADDR
      else (if ca = GLOBAL_COMMON_ADDR then (255 : UInt8) else ca.toUInt8).toUInt16) = ca := by
  by_cases hg : ca = GLOBAL_COMMON_ADDR
  · rw [if_pos hg, hg]
    rfl
  · have hlt := UInt16.lt_iff_toNat_lt.mp (h.resolve_left hg)
    have hback : ca.toUInt8.toUInt16 = ca := by
      apply UInt16.toNat_inj.mp
      simp at hlt ⊢
      omega
    rw [if_neg hg, hback, if_neg]
    rintro rfl
    exact absurd hlt (by decide)

theorem narrow_widen (b : UInt8) :
    (if (if b.toUInt16 = 255 then GLOBAL_COMMON_ADDR else b.toUInt16) = GLOBAL_COMMON_ADDR then 255
      else (if b.toUInt16 = 255 then GLOBAL_COMMON_ADDR else b.toUInt16).toUInt8) = b := by
  revert b
  decide +kernel

/-- **The identifier that was sent is read back.** -/
theorem readIdentifier_octets {a : Asdu} (hw : a.params.WellFormed)
    (hn : a.identifier.variable'.number ≤ 127) (hc : a.identifier.coa.cause.octet < 64)
    (ho : a.params.causeSize = 1 → a.identifier.origAddr = 0)
    (hca : a.params.commonAddrSize = 1 →
      a.identifier.commonAddr = GLOBAL_COMMON_ADDR ∨ a.identifier.commonAddr < 255) :
    readIdentifier a.params a.octets = a.identifier := by
  obtain ⟨⟨c, o, s, i, z, t⟩, ⟨⟨ty⟩, v, coa, orig, ca⟩, info⟩ := a
  have hv : VariableStruct.parse v.value = v := VariableStruct.parse_value hn
  have hcoa : CauseOfTransmission.parse coa.value = coa := CauseOfTransmission.parse_value hc
  obtain ⟨hcs | hcs, hss | hss⟩ := sizes_of_wellFormed hw <;> dsimp only at hcs hss <;> subst hcs hss
  all_goals
    simp only [readIdentifier, readCommonAddr, octets, commonAddrOctets, Params.identifierSize]
    simp [hv, hcoa]
  · exact ⟨(ho rfl).symm, widen_narrow (hca rfl)⟩
  · exact ⟨(ho rfl).symm, LittleEndian.ofOctets_split ca⟩
  · exact widen_narrow (hca rfl)
  · exact LittleEndian.ofOctets_split ca

/-- Four octets at least. -/
theorem exists_four {raw : Octets} (h : 4 ≤ raw.length) :
    ∃ a b c d rest, raw = a :: b :: c :: d :: rest := by
  rcases raw with _ | ⟨a, _ | ⟨b, _ | ⟨c, _ | ⟨d, rest⟩⟩⟩⟩
  · cases h
  · simp at h
  · simp at h
  · simp at h
  · exact ⟨a, b, c, d, rest, rfl⟩

/-- **The identifier that was read is sent again.** -/
theorem octets_readIdentifier {p : Params} {raw : Octets} (hw : p.WellFormed)
    (hlen : p.identifierSize ≤ raw.length) :
    Asdu.octets ⟨p, readIdentifier p raw, raw.drop p.identifierSize⟩ = raw := by
  obtain ⟨c, o, s, i, z, t⟩ := p
  obtain ⟨hcs | hcs, hss | hss⟩ := sizes_of_wellFormed hw <;> dsimp only at hcs hss <;> subst hcs hss
  -- the identifier has 4, 5, 5 or 6 octets: type, qualifier, cause, originator, address
  · obtain ⟨_, _, _, ca, rest, rfl⟩ := exists_four hlen
    simpa [octets, readIdentifier, readCommonAddr, commonAddrOctets, Params.identifierSize]
      using narrow_widen ca
  · obtain ⟨_, _, _, lo, rest, rfl⟩ := exists_four (Nat.le_of_succ_le hlen)
    obtain ⟨hi, rest, rfl⟩ := List.exists_cons_of_length_pos (show 0 < rest.length from
      by simp [Params.identifierSize] at hlen; omega)
    simpa [octets, readIdentifier, readCommonAddr, commonAddrOctets, Params.identifierSize,
      LittleEndian.octets, LittleEndian.ofOctets] using LittleEndian.octets_ofOctets lo hi
  · obtain ⟨_, _, _, _, rest, rfl⟩ := exists_four (Nat.le_of_succ_le hlen)
    obtain ⟨ca, rest, rfl⟩ := List.exists_cons_of_length_pos (show 0 < rest.length from
      by simp [Params.identifierSize] at hlen; omega)
    simpa [octets, readIdentifier, readCommonAddr, commonAddrOctets, Params.identifierSize]
      using narrow_widen ca
  · obtain ⟨_, _, _, _, rest, rfl⟩ := exists_four (Nat.le_of_succ_le (Nat.le_of_succ_le hlen))
    obtain ⟨lo, rest, rfl⟩ := List.exists_cons_of_length_pos (show 0 < rest.length from
      by simp [Params.identifierSize] at hlen; omega)
    obtain ⟨hi, rest, rfl⟩ := List.exists_cons_of_length_pos (show 0 < rest.length from
      by simp [Params.identifierSize] at hlen; omega)
    simpa [octets, readIdentifier, readCommonAddr, commonAddrOctets, Params.identifierSize,
      LittleEndian.octets, LittleEndian.ofOctets] using LittleEndian.octets_ofOctets lo hi

/-! ### Both functions -/

/-- What `marshalBinary` checks before it sends. -/
structure Sendable (a : Asdu) : Prop where
  params : a.params.WellFormed
  typeId : a.identifier.typeId.octet ≠ 0
  count : 1 ≤ a.identifier.variable'.number ∧ a.identifier.variable'.number ≤ 127
  cause : a.identifier.coa.cause ≠ .UNUSED
  addr : a.identifier.commonAddr ≠ INVALID_COMMON_ADDR
  narrow : a.params.commonAddrSize = 1 →
    a.identifier.commonAddr = GLOBAL_COMMON_ADDR ∨ a.identifier.commonAddr < 255
  length : a.params.identifierSize + a.infoObj.length ≤ ASDU_SIZE_MAX
  outgoing : a.checkOutgoing = .ok ()

theorem marshalBinary_eq_ok_iff {a : Asdu} {raw : Octets} :
    a.marshalBinary = .ok raw ↔ a.Sendable ∧ raw = a.octets := by
  unfold marshalBinary
  constructor
  · intro h
    split at h
    · cases h
    · next hv =>
      -- every failing check contradicts `h`
      repeat (split at h; · cases h)
      rename_i hid hcause hsizes haddr hnarrow hlen _ hout
      cases h
      obtain ⟨hty, hcount⟩ := not_or.mp hid
      refine ⟨⟨Params.valid_eq_ok.mp hv, hty, not_not.mp hcount, hcause, haddr, fun h1 => ?_,
        by omega, hout⟩, rfl⟩
      by_contra hwide
      obtain ⟨hg, hlt⟩ := not_or.mp hwide
      exact hnarrow ⟨h1, hg, UInt16.not_lt.mp hlt⟩
  · -- Conversely every check of `marshalBinary` is one of the conditions of `Sendable`.
    rintro ⟨h, rfl⟩
    have hwide : ¬(a.params.commonAddrSize = 1 ∧ a.identifier.commonAddr ≠ GLOBAL_COMMON_ADDR ∧
        a.identifier.commonAddr ≥ 255) := by
      rintro ⟨h1, hg, hge⟩
      exact UInt16.not_lt.mpr hge ((h.narrow h1).resolve_left hg)
    have hlen := h.length
    rw [Params.valid_eq_ok.mpr h.params]
    dsimp only
    rw [if_neg (not_or.mpr ⟨h.typeId, not_not.mpr h.count⟩), if_neg h.cause,
      if_neg (not_or.mpr ⟨not_not.mpr h.params.1, not_not.mpr h.params.2.1⟩), if_neg h.addr,
      if_neg hwide, if_neg (by omega), h.outgoing]

theorem unmarshalBinary_eq (p : Params) (raw : Octets) :
    unmarshalBinary p raw =
      match p.valid with
      | .error e => .error e
      | .ok () =>
        if raw.length > ASDU_SIZE_MAX then .error .lengthOutOfRange
        else if p.identifierSize > raw.length then .error .unexpectedEof
        else fixInfoObjSize ⟨p, readIdentifier p raw, raw.drop p.identifierSize⟩ := rfl

theorem unmarshalBinary_eq_ok_iff {p : Params} {raw : Octets} {a : Asdu} :
    unmarshalBinary p raw = .ok a ↔
      p.WellFormed ∧ raw.length ≤ ASDU_SIZE_MAX ∧ p.identifierSize ≤ raw.length ∧
        fixInfoObjSize ⟨p, readIdentifier p raw, raw.drop p.identifierSize⟩ = .ok a := by
  rw [unmarshalBinary_eq]
  constructor
  · intro h
    split at h
    · cases h
    · next hv =>
      split at h
      · cases h
      · split at h
        · cases h
        · exact ⟨Params.valid_eq_ok.mp hv, by omega, by omega, h⟩
  · rintro ⟨hw, hmax, hmin, h⟩
    rw [Params.valid_eq_ok.mpr hw]
    dsimp only
    rw [if_neg (by omega), if_neg (by omega)]
    exact h

/-- One octet of common address is the broadcast or below it. -/
theorem readCommonAddr_narrow {p : Params} (raw : Octets) (h : p.commonAddrSize = 1) :
    readCommonAddr p raw = GLOBAL_COMMON_ADDR ∨ readCommonAddr p raw < 255 := by
  have hall : ∀ b : UInt8, b.toUInt16 = 255 ∨ b.toUInt16 < 255 := by decide +kernel
  unfold readCommonAddr
  dsimp only
  rw [if_pos h]
  split
  · exact .inl rfl
  · next hb => exact .inr ((hall _).resolve_left hb)

/-- The ASDU as the receiver sees it: without the originator address where none
is sent. -/
def received (a : Asdu) : Asdu :=
  { a with identifier := { a.identifier with
      origAddr := if a.params.causeSize = 1 then 0 else a.identifier.origAddr } }

/-- An outgoing ASDU that was checked passes the size check of its receiver, a
lenient one as well. -/
theorem fixInfoObjSize_received {a : Asdu} (hk : a.Known) (h : a.checkOutgoing = .ok ()) :
    a.received.fixInfoObjSize = .ok a.received := by
  unfold checkOutgoing at h
  rw [if_pos (show a.identifier.typeId.infoObjSize.isOk ∨ a.identifier.typeId = .F_SG_NA_1 from hk)]
    at h
  split at h
  · cases h
  · next b hb =>
    obtain ⟨hcount, hsize⟩ := exact_of_fixInfoObjSize rfl hb
    exact fixInfoObjSize_of_exact (a := a.received) hcount hsize

theorem octets_received {a : Asdu} (hw : a.params.WellFormed) : a.received.octets = a.octets := by
  obtain hcs | hcs := (sizes_of_wellFormed hw).1
  · simp [octets, commonAddrOctets, received, hcs]
  · simp [octets, commonAddrOctets, received, hcs]

/-- What is marshalled is unmarshalled as its receiver sees it. -/
theorem unmarshal_marshal_received {a : Asdu} {raw : Octets}
    (hc : a.identifier.coa.cause.octet < 64) (hk : a.Known) (h : a.marshalBinary = .ok raw) :
    unmarshalBinary a.params raw = .ok a.received := by
  have hraw := (length_of_marshalBinary h).2
  obtain ⟨hs, rfl⟩ := marshalBinary_eq_ok_iff.mp h
  have hlen := length_octets hs.params
  have hid : readIdentifier a.params a.octets = a.received.identifier := by
    rw [← octets_received hs.params]
    exact readIdentifier_octets (a := a.received) hs.params hs.count.2 hc (fun h1 => if_pos h1)
      hs.narrow
  have hdrop : a.octets.drop a.params.identifierSize = a.infoObj := by
    rw [octets, List.length_append] at hlen
    exact List.drop_left' (by omega)
  refine unmarshalBinary_eq_ok_iff.mpr ⟨hs.params, hraw, by omega, ?_⟩
  rw [hid, hdrop]
  exact fixInfoObjSize_received hk hs.outgoing

theorem unmarshal_marshal {a : Asdu} {raw : Octets} (hc : a.identifier.coa.cause.octet < 64)
    (ho : a.params.causeSize = 1 → a.identifier.origAddr = 0) (hk : a.Known)
    (h : a.marshalBinary = .ok raw) : unmarshalBinary a.params raw = .ok a := by
  rw [unmarshal_marshal_received hc hk h]
  congr 1
  unfold received
  split
  · next h1 => rw [← ho h1]
  · rfl

theorem marshal_unmarshal {p : Params} {raw : Octets} {a : Asdu}
    (ht : p.allowTrailingOctets = false) (h : unmarshalBinary p raw = .ok a)
    (hc : a.identifier.coa.cause ≠ .UNUSED)
    (hca : a.identifier.commonAddr ≠ INVALID_COMMON_ADDR) : a.marshalBinary = .ok raw := by
  obtain ⟨hw, hmax, hmin, hfix⟩ := unmarshalBinary_eq_ok_iff.mp h
  obtain rfl := fixInfoObjSize_eq_self (by exact ht) hfix
  obtain ⟨hcount, hk⟩ := of_fixInfoObjSize hfix
  refine marshalBinary_eq_ok_iff.mpr ⟨⟨hw, hk.octet_ne_zero, hcount, hc, hca, ?_, ?_, ?_⟩,
    (octets_readIdentifier hw hmin).symm⟩
  · exact readCommonAddr_narrow raw
  · simp only [List.length_drop]
    omega
  · exact (checkOutgoing_of_known (by exact ht) hk).mpr hfix

/-- **The ASDU container round trip.**  Without lenient padding, what is
marshalled fits one APDU and is unmarshalled to the same ASDU, and what is
unmarshalled is marshalled to the same octets.  Both functions refuse parameters
that are not valid. -/
theorem roundTrip {p : Params} (ht : p.allowTrailingOctets = false) :
    (∀ a raw, a.params = p → a.identifier.coa.cause.octet < 64 →
      (p.causeSize = 1 → a.identifier.origAddr = 0) → a.Known → a.marshalBinary = .ok raw →
        raw.length ≤ 249 ∧ unmarshalBinary p raw = .ok a) ∧
    (∀ a raw, unmarshalBinary p raw = .ok a → a.identifier.coa.cause ≠ .UNUSED →
      a.identifier.commonAddr ≠ INVALID_COMMON_ADDR → a.marshalBinary = .ok raw) := by
  constructor
  · rintro a raw rfl hc ho hk h
    exact ⟨(length_of_marshalBinary h).2, unmarshal_marshal hc ho hk h⟩
  · intro a raw h hc hca
    exact marshal_unmarshal ht h hc hca

/-- A single point at address 100 of station 1. -/
theorem roundTrip_singlePoint :
    let a : Asdu := ⟨paramsWide, .new .M_SP_NA_1 .single (.new .SPONTANEOUS) 1, [100, 0, 0, 1]⟩
    let raw : Octets := [1, 1, 3, 0, 1, 0, 100, 0, 0, 1]
    unmarshalBinary paramsWide raw = .ok a ∧ a.marshalBinary = .ok raw := by
  have h := roundTrip (p := paramsWide) rfl
  have hread := (h.1 ⟨paramsWide, .new .M_SP_NA_1 .single (.new .SPONTANEOUS) 1, [100, 0, 0, 1]⟩
    [1, 1, 3, 0, 1, 0, 100, 0, 0, 1] rfl (by decide) (by decide) (.inl rfl) (by decide)).2
  exact ⟨hread, h.2 _ _ hread (by decide) (by decide)⟩

end Asdu
end Iec60870
