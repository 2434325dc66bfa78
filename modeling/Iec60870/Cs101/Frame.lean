import Iec60870.Asdu.Codec

/-!
# FT1.2 frames

The three frame formats shared by 101 and 103: the single character, the
fixed-length frame and the variable-length frame that carries an ASDU.

## Main definitions

* `ControlField` — the control octet, decoded.
* `Frame`, `Frame.marshal` — frames and their octets.
* `fcvRequired` — the FCV a primary frame must carry for its function code.

## Main results

* `Frame.marshal_fixed` — every fixed-length frame can be written.
-/

namespace Iec60870
namespace Cs101

/-- The single-character acknowledgement. -/
def SINGLE_CHAR_ACK : UInt8 := 0xE5

/-- Start character of a fixed-length frame. -/
def START_FIXED : UInt8 := 0x10

/-- Start character of a variable-length frame. -/
def START_VARIABLE : UInt8 := 0x68

/-- End character of fixed- and variable-length frames. -/
def END_CHAR : UInt8 := 0x16

/-- The largest value the length octet can carry. -/
def MAX_LENGTH_FIELD : ℕ := 255

/-- `max_asdu_len`: the largest ASDU that fits one frame for a link address of
`linkAddrSize` octets. -/
def maxAsduLen (linkAddrSize : UInt8) : ℕ := MAX_LENGTH_FIELD - 1 - linkAddrSize.toNat

/-! ### The control field -/

def CTRL_DIR : UInt8 := 0x80
def CTRL_PRM : UInt8 := 0x40
def CTRL_FCB : UInt8 := 0x20
def CTRL_FCV : UInt8 := 0x10
def CTRL_ACD : UInt8 := 0x20
def CTRL_DFC : UInt8 := 0x10
def CTRL_FUNC_MASK : UInt8 := 0x0F

/-! Function codes sent by the primary station. -/

namespace PrimFc

abbrev RESET_LINK : UInt8 := 0
abbrev RESET_USER : UInt8 := 1
abbrev TEST_LINK : UInt8 := 2
/-- User data, confirmed. -/
abbrev USER_DATA_CONF : UInt8 := 3
/-- User data, unconfirmed. -/
abbrev USER_DATA_NO_CONF : UInt8 := 4
abbrev REQ_ACCESS : UInt8 := 8
abbrev REQ_STATUS : UInt8 := 9
abbrev REQ_DATA1 : UInt8 := 10
abbrev REQ_DATA2 : UInt8 := 11

end PrimFc

/-! Function codes sent by the secondary station. -/

namespace SecFc

abbrev CONF_ACK : UInt8 := 0
/-- Negative acknowledgement: the link is busy. -/
abbrev CONF_NACK : UInt8 := 1
abbrev USER_DATA_CONF : UInt8 := 8
/-- The requested data is not available. -/
abbrev USER_DATA_NO_REP : UInt8 := 9
abbrev RESP_STATUS : UInt8 := 11
/-- The link service is not functioning. -/
abbrev RESP_LINK_NF : UInt8 := 14
/-- The link service is not implemented. -/
abbrev RESP_LINK_NI : UInt8 := 15

end SecFc

open PrimFc in
/-- `fcv_required`: the FCV a primary frame must carry, or `none` for a function
code the standard does not define.  Code 7 is the frame count bit reset of 103. -/
def fcvRequired (f : UInt8) : Option Bool :=
  if f = RESET_LINK ∨ f = RESET_USER ∨ f = USER_DATA_NO_CONF ∨ f = REQ_ACCESS ∨
      f = REQ_STATUS then some false
  else if f = 7 then some false
  else if f = TEST_LINK ∨ f = USER_DATA_CONF ∨ f = REQ_DATA1 ∨ f = REQ_DATA2 then some true
  else none

/-- A decoded control field octet.  FCB and FCV belong to primary frames, ACD and
DFC to secondary ones. -/
structure ControlField where
  /-- Direction: in balanced mode station A sets it. -/
  dir : Bool
  /-- The frame comes from a primary station. -/
  prm : Bool
  /-- Frame count bit. -/
  fcb : Bool
  /-- Frame count bit valid. -/
  fcv : Bool
  /-- Access demand: class 1 data is waiting. -/
  acd : Bool
  /-- Data flow control: the sender's buffers are full. -/
  dfc : Bool
  /-- Function code. -/
  func : UInt8
  deriving DecidableEq, Repr

namespace ControlField

/-- `ControlField::value`: the wire octet, in which FCB and FCV of a primary share
their bits with ACD and DFC of a secondary. -/
def value (c : ControlField) : UInt8 :=
  let b : UInt8 := if c.dir then CTRL_DIR else 0
  let b :=
    if c.prm then
      let b := b ||| CTRL_PRM
      let b := if c.fcb then b ||| CTRL_FCB else b
      if c.fcv then b ||| CTRL_FCV else b
    else
      let b := if c.acd then b ||| CTRL_ACD else b
      if c.dfc then b ||| CTRL_DFC else b
  b ||| (c.func &&& CTRL_FUNC_MASK)

/-- `ControlField::primary`: FCB counts only beside FCV and is cleared without it. -/
def primary (func : UInt8) (fcv fcb dir : Bool) : ControlField where
  dir := dir
  prm := true
  fcb := fcv && fcb
  fcv := fcv
  acd := false
  dfc := false
  func := func

/-- `ControlField::secondary`: a response, which announces class 1 data by ACD. -/
def secondary (func : UInt8) (acd dir : Bool) : ControlField where
  dir := dir
  prm := false
  fcb := false
  fcv := false
  acd := acd
  dfc := false
  func := func

end ControlField

/-! ### Frames -/

/-- An FT1.2 frame, in one of the three shapes that its first octet tells apart. -/
inductive Frame
  /-- `E5`. -/
  | singleCharAck
  /-- Control field and link address only. -/
  | fixed (control : ControlField) (linkAddr : UInt16)
  /-- A frame carrying an ASDU. -/
  | variable' (control : ControlField) (linkAddr : UInt16) (asdu : Octets)
  deriving DecidableEq, Repr

/-- `encode_link_addr`: a link address in `size` little-endian octets. -/
def encodeLinkAddr (addr : UInt16) (size : UInt8) : Octets :=
  if size = 1 then [addr.toUInt8]
  else if size = 2 then [addr.toUInt8, (addr >>> 8).toUInt8]
  else []

/-- `checksum`: the sum of control field, link address and ASDU, to eight bits. -/
def checksum (control : UInt8) (linkAddr asdu : Octets) : UInt8 :=
  (linkAddr ++ asdu).foldl (· + ·) control

namespace Frame

/-- `Frame::control`: the control field, unless the frame is the single character. -/
def control : Frame → Option ControlField
  | .singleCharAck => none
  | .fixed c _ => some c
  | .variable' c _ _ => some c

/-- `Frame::link_addr`: the link address, unless the frame is the single character. -/
def linkAddr : Frame → Option UInt16
  | .singleCharAck => none
  | .fixed _ a => some a
  | .variable' _ a _ => some a

/-- `Frame::asdu`: the ASDU of a variable-length frame. -/
def asdu : Frame → Option Octets
  | .variable' _ _ raw => some raw
  | _ => none

/-- `Frame::marshal`: the octets of a frame for a link address of `linkAddrSize`
octets. -/
def marshal (linkAddrSize : UInt8) (frame : Frame) : Except Error Octets :=
  if linkAddrSize > 2 then .error (.frame "link address size must be 0, 1 or 2")
  else
    match frame with
    | .singleCharAck => .ok [SINGLE_CHAR_ACK]
    | .fixed control linkAddr =>
      let addr := encodeLinkAddr linkAddr linkAddrSize
      .ok ([START_FIXED, control.value] ++ addr ++
        [checksum control.value addr [], END_CHAR])
    | .variable' control linkAddr raw =>
      let addr := encodeLinkAddr linkAddr linkAddrSize
      -- compared before it is narrowed to an octet
      let lenField := 1 + addr.length + raw.length
      if lenField > MAX_LENGTH_FIELD then
        .error (.frame "frame length exceeds the FT1.2 maximum")
      else
        .ok ([START_VARIABLE, UInt8.ofNat lenField, UInt8.ofNat lenField, START_VARIABLE,
          control.value] ++ addr ++ raw ++ [checksum control.value addr raw, END_CHAR])

/-! ### Which frames can be written -/

/-- Every fixed-length frame can be written. -/
theorem marshal_fixed {size : UInt8} (h : size ≤ 2) (control : ControlField) (addr : UInt16) :
    ((Frame.fixed control addr).marshal size).isOk := by
  have h' : ¬size > 2 := UInt8.not_lt.mpr h
  rw [marshal, if_neg h']
  rfl

end Frame

end Cs101
end Iec60870
