import Iec60870.Asdu.Identifier

/-!
# The ASDU container

Serialising an ASDU to its octets and reading it back, with the size check both
directions share.  `fix_info_obj_size` truncates its receiver in place in the
source; here it returns the truncated ASDU.

## Main results

* `Asdu.length_of_marshalBinary` — what `marshalBinary` produces fits one APDU
  and is not empty.
-/

namespace Iec60870

/-- Maximum size in octets of an ASDU, identifier included. -/
def ASDU_SIZE_MAX : ℕ := 249

/-- An application service data unit: its identifier, and its information objects
as the octets they travel in. -/
structure Asdu where
  params : Params
  identifier : Identifier
  /-- The serialised information objects. -/
  infoObj : Octets
  deriving DecidableEq, Repr

namespace Asdu

/-- `Asdu::new`: no information objects yet. -/
def new (params : Params) (identifier : Identifier) : Asdu := ⟨params, identifier, []⟩

/-- `Asdu::set_variable_number`: the count must fit seven bits. -/
def setVariableNumber (a : Asdu) (n : ℕ) : Except Error Asdu :=
  if n ≥ 128 then .error .infoObjIndexFit
  else
    let variable' := { a.identifier.variable' with number := n.toUInt8 }
    .ok { a with identifier := { a.identifier with variable' } }

/-- `Asdu::reply_mirror`: the same ASDU with another cause, the way a request is
answered or refused. -/
def replyMirror (a : Asdu) (cause : Cause) : Asdu :=
  { a with identifier := { a.identifier with coa := { a.identifier.coa with cause } } }

/-- The size of the self-describing segment object, `some 0` when its length
octet is missing, and `none` for every type sized by `TypeId.infoObjSize`. -/
def variableInfoObjSize (a : Asdu) : Option ℕ :=
  if a.identifier.typeId ≠ .F_SG_NA_1 then none
  else
    -- IOA, NOF (2), NOS (1), LOS (1), then LOS octets
    let head := a.params.infoObjAddrSize.toNat + 4
    if a.infoObj.length < head then some 0
    else some (head + (a.infoObj.getD (a.params.infoObjAddrSize.toNat + 3) 0).toNat)

/-- The payload size the type identification and the variable structure
qualifier announce. -/
def announcedSize (a : Asdu) : Except Error ℕ :=
  match a.variableInfoObjSize with
  | some 0 => .error .unexpectedEof
  | some size => .ok size
  | none =>
    match a.identifier.typeId.infoObjSize with
    | .error e => .error e
    | .ok objSize =>
      let n := a.identifier.variable'.number.toNat
      let addrSize := a.params.infoObjAddrSize.toNat
      let size :=
        if a.identifier.variable'.isSequence then addrSize + n * objSize
        else n * (addrSize + objSize)
      if size = 0 then .error .infoObjIndexFit else .ok size

/-- `Asdu::fix_info_obj_size`: check the payload against the announced size. -/
def fixInfoObjSize (a : Asdu) : Except Error Asdu :=
  let v := a.identifier.variable'
  let t := a.identifier.typeId
  if ¬(1 ≤ v.number ∧ v.number ≤ 127) ∨
      ((120 ≤ t.octet ∧ t.octet ≤ 126) ∧
        (v.isSequence ∨ (t ≠ .F_DR_TA_1 ∧ v.number ≠ 1))) then
    .error .infoObjIndexFit
  else
    match a.announcedSize with
    | .error e => .error e
    | .ok size =>
      if size > a.infoObj.length then .error .unexpectedEof
      else if size < a.infoObj.length then
        if ¬a.params.allowTrailingOctets then .error .trailingOctets
        else .ok { a with infoObj := a.infoObj.take size }
      else .ok a

/-- Known layouts must account for every outgoing octet. -/
def checkOutgoing (a : Asdu) : Except Error Unit :=
  if a.identifier.typeId.infoObjSize.isOk ∨ a.identifier.typeId = .F_SG_NA_1 then
    match { a with params := { a.params with allowTrailingOctets := false } }.fixInfoObjSize with
    | .error e => .error e
    | .ok _ => .ok ()
  else .ok ()

/-- The common address as it is sent: the broadcast address maps to 255 in
one-octet mode. -/
def commonAddrOctets (a : Asdu) : Octets :=
  let ca := a.identifier.commonAddr
  if a.params.commonAddrSize = 1 then
    [if ca = GLOBAL_COMMON_ADDR then 255 else ca.toUInt8]
  else [ca.toUInt8, (ca >>> 8).toUInt8]

/-- The octets of an ASDU that has passed every check. -/
def octets (a : Asdu) : Octets :=
  let id := a.identifier
  [id.typeId.octet, id.variable'.value, id.coa.value]
    ++ (if a.params.causeSize = 2 then [id.origAddr] else [])
    ++ a.commonAddrOctets ++ a.infoObj

/-- `Asdu::marshal_binary`: the checks of an outgoing ASDU in the order of the
source, then the identifier and the objects. -/
def marshalBinary (a : Asdu) : Except Error Octets :=
  match a.params.valid with
  | .error e => .error e
  | .ok () =>
    if a.identifier.typeId.octet = 0 ∨
        ¬(1 ≤ a.identifier.variable'.number ∧ a.identifier.variable'.number ≤ 127) then
      .error .infoObjIndexFit
    else if a.identifier.coa.cause = .UNUSED then .error .causeZero
    else if ¬(1 ≤ a.params.causeSize ∧ a.params.causeSize ≤ 2) ∨
        ¬(1 ≤ a.params.commonAddrSize ∧ a.params.commonAddrSize ≤ 2) then .error .param
    else if a.identifier.commonAddr = INVALID_COMMON_ADDR then .error .commonAddrZero
    else if a.params.commonAddrSize = 1 ∧ a.identifier.commonAddr ≠ GLOBAL_COMMON_ADDR ∧
        a.identifier.commonAddr ≥ 255 then .error .param
    else if a.params.identifierSize + a.infoObj.length > ASDU_SIZE_MAX then
      .error .lengthOutOfRange
    else
      match a.checkOutgoing with
      | .error e => .error e
      | .ok () => .ok a.octets

/-- `Asdu::unmarshal_binary`: the identifier is decoded and the objects are
measured, but not decoded: that is left to the getters. -/
def unmarshalBinary (params : Params) (raw : Octets) : Except Error Asdu :=
  match params.valid with
  | .error e => .error e
  | .ok () =>
    if raw.length > ASDU_SIZE_MAX then .error .lengthOutOfRange
    else
      let lenDui := params.identifierSize
      if lenDui > raw.length then .error .unexpectedEof
      else
        let at' (i : ℕ) : UInt8 := raw.getD i 0
        let commonAddr : UInt16 :=
          if params.commonAddrSize = 1 then
            let a := (at' (lenDui - 1)).toUInt16
            if a = 255 then GLOBAL_COMMON_ADDR else a
          else (at' (lenDui - 2)).toUInt16 ||| ((at' (lenDui - 1)).toUInt16 <<< 8)
        fixInfoObjSize {
          params
          identifier := {
            typeId := ⟨at' 0⟩
            variable' := .parse (at' 1)
            coa := .parse (at' 2)
            origAddr := if params.causeSize = 1 then 0 else at' 3
            commonAddr }
          infoObj := raw.drop lenDui }

/-- `check_valid`: the common arguments of a send helper. -/
def checkValid (params : Params) (typeId : TypeId) (isSequence : Bool) (infosLen : ℕ) :
    Except Error Unit :=
  if infosLen = 0 then .error .notAnyObjInfo
  else do
    let objSize ← typeId.infoObjSize
    params.valid
    let addrSize := params.infoObjAddrSize.toNat
    let asduLen :=
      if isSequence then params.identifierSize + infosLen * objSize + addrSize
      else params.identifierSize + infosLen * (objSize + addrSize)
    if asduLen > ASDU_SIZE_MAX then .error .lengthOutOfRange else .ok ()

/-! ### The size of what is sent -/

theorem length_commonAddrOctets {a : Asdu} (h : a.params.WellFormed) :
    a.commonAddrOctets.length = a.params.commonAddrSize.toNat := by
  obtain ⟨-, ⟨h1, h2⟩, -⟩ := h
  rw [UInt8.le_iff_toNat_le] at h1 h2
  have e1 : (1 : UInt8).toNat = 1 := rfl
  have e2 : (2 : UInt8).toNat = 2 := rfl
  unfold commonAddrOctets
  split
  · next h => rw [h]; rfl
  · next h =>
    have : a.params.commonAddrSize.toNat ≠ 1 := fun hc => h (UInt8.toNat_inj.mp (hc.trans e1.symm))
    simp only [List.length_cons, List.length_nil]
    omega

theorem length_octets {a : Asdu} (h : a.params.WellFormed) :
    a.octets.length = a.params.identifierSize + a.infoObj.length := by
  obtain ⟨h1, h2⟩ := h.1
  rw [UInt8.le_iff_toNat_le] at h1 h2
  have e1 : (1 : UInt8).toNat = 1 := rfl
  have e2 : (2 : UInt8).toNat = 2 := rfl
  simp only [octets, List.length_append, length_commonAddrOctets h, Params.identifierSize]
  split
  · next h => simp [h]
  · next h =>
    have : a.params.causeSize.toNat ≠ 2 := fun hc => h (UInt8.toNat_inj.mp (hc.trans e2.symm))
    simp
    omega

/-- What a successful `marshalBinary` has checked, and what it returns. -/
theorem marshalBinary_eq_ok {a : Asdu} {raw : Octets} (h : a.marshalBinary = .ok raw) :
    a.params.WellFormed ∧ a.params.identifierSize + a.infoObj.length ≤ ASDU_SIZE_MAX ∧
      a.checkOutgoing = .ok () ∧ raw = a.octets := by
  unfold marshalBinary at h
  split at h
  · cases h
  · next hv =>
    -- every failing check contradicts `h`
    repeat (split at h; · cases h)
    rename_i hlen _ hc
    cases h
    exact ⟨Params.valid_eq_ok.mp hv, by omega, hc, rfl⟩

/-- **What is marshalled fits one APDU and is never empty.** -/
theorem length_of_marshalBinary {a : Asdu} {raw : Octets} (h : a.marshalBinary = .ok raw) :
    4 ≤ raw.length ∧ raw.length ≤ ASDU_SIZE_MAX := by
  obtain ⟨hw, hlen, -, rfl⟩ := marshalBinary_eq_ok h
  have := hw.identifierSize_bounds
  rw [length_octets hw]
  omega

end Asdu

end Iec60870
