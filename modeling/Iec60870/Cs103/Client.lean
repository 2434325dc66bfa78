import Iec60870.Cs101.Primary
import Iec60870.Lib.Machine

/-!
# The 103 primary

The link state machine of the 103 client.  Device addresses are octets, the
procedure is unbalanced only, and a reset of the frame count bit activates a link
like a reset of the communication unit.  Steps are cut as for the 101 primary; the
ASDUs the client queues on its own when a device becomes active arrive like those
of the application.

## Main definitions

* `Asdu`, `Asdu.marshalBinary` — the ASDU of 103.
* `LinkState.handleFrame`, `tick`, `onT3Timeout`, `handleLinkRequest` — the handlers.
* `LinkState.machine` — the runs of `run_link`.
-/

namespace Iec60870
namespace Cs103

open Cs101 (Frame ControlField Secondary Outgoing FrameOutcome Profile Primary maxAsduLen)
open Cs101.PrimFc

/-- The link address of 103 has one octet. -/
def LINK_ADDR_SIZE : UInt8 := 1

/-- Octets of the data unit identifier. -/
def IDENTIFIER_SIZE : ℕ := 4

/-- Maximum size in octets of an ASDU, identifier included. -/
def ASDU_SIZE_MAX : ℕ := 253

/-- 7: reset of the frame count bit. -/
def PRIM_FC_RESET_FCB : UInt8 := 7

/-- One application message of 103: the identifier of four octets, and information
objects that only its getters interpret. -/
structure Asdu where
  typeId : UInt8
  variable' : VariableStruct
  coa : UInt8
  commonAddr : UInt8
  /-- The information object octets, starting at FUN. -/
  infoObj : Octets
  /-- The zone in which its time tags are read. -/
  timeZone : TimeZone
  deriving DecidableEq, Repr

/-- `Asdu::marshal_binary`: an ASDU without a type or a cause is refused, and one
that is too long for a frame. -/
def Asdu.marshalBinary (a : Asdu) : Except Error Octets :=
  if a.typeId = 0 then .error .typeIdentifier
  else if a.coa = 0 then .error .causeZero
  else if IDENTIFIER_SIZE + a.infoObj.length > ASDU_SIZE_MAX then .error .lengthOutOfRange
  else .ok ([a.typeId, a.variable'.value, a.coa, a.commonAddr] ++ a.infoObj)

/-- What is marshalled fits one frame. -/
theorem Asdu.length_of_marshalBinary {a : Asdu} {raw : Octets} (h : a.marshalBinary = .ok raw) :
    raw.length ≤ maxAsduLen LINK_ADDR_SIZE := by
  unfold Asdu.marshalBinary at h
  split_ifs at h with h1 h2 h3
  cases h
  have e : maxAsduLen LINK_ADDR_SIZE = 253 := rfl
  simp only [IDENTIFIER_SIZE, ASDU_SIZE_MAX] at h3
  rw [e, List.length_append]
  simp only [List.length_cons, List.length_nil]
  omega

/-- Configuration of a 103 client.  The devices are addressed by one octet. -/
structure ClientOption where
  linkAddress : UInt8
  /-- The devices to poll; empty for the one at the link address. -/
  secondaryAddrs : List UInt8
  timeoutResponseT1 : ℕ
  timeoutRepeatT2 : ℕ
  maxSendQueueSize : ℕ
  maxRepetitions : UInt8
  deriving DecidableEq, Repr

namespace ClientOption

variable (o : ClientOption)

/-- `ClientOption::addresses`: every device this client serves. -/
def addresses : List UInt8 :=
  if o.secondaryAddrs.isEmpty then [o.linkAddress] else o.secondaryAddrs

/-- How the 103 primary handles transactions: what it shares with 101 is the same
function with this in place of the other. -/
def profile : Profile UInt8 Asdu where
  linkAddr := UInt8.toUInt16
  addrSize := LINK_ADDR_SIZE
  dir := false
  resets := [RESET_LINK, PRIM_FC_RESET_FCB]
  polls := true
  marshal := Asdu.marshalBinary
  t1 := o.timeoutResponseT1
  t2 := o.timeoutRepeatT2
  maxRepetitions := o.maxRepetitions

end ClientOption

/-- The link state machine, owned by the protocol task. -/
abbrev LinkState := Primary UInt8 Asdu

/-- A manual link-layer request from the application, for a device of its choice. -/
structure LinkRequest where
  func : UInt8
  addr : UInt8
  deriving DecidableEq, Repr

namespace LinkState

variable (o : ClientOption) (s : LinkState)

/-- `LinkState::new`. -/
def new : LinkState := Primary.new o.addresses

/-- `LinkState::send_prim_confirmed`. -/
def sendPrimConfirmed (addr : UInt8) (func : UInt8) (fcv : Bool) (now : ℕ) : LinkState :=
  (Primary.sendPrimConfirmed o.profile s addr func fcv now).2

/-- `LinkState::handle_frame` on a frame with a control field and an address. -/
def handleAddressed (frame : Frame) (ctrl : ControlField) (addr : UInt8) (now : ℕ) :
    FrameOutcome UInt8 × LinkState :=
  if addr ∉ s.order then ({}, s)
  -- 103 defines no balanced procedure
  else if ctrl.prm then ({}, s)
  else s.handleSecondary o.profile frame ctrl addr now

/-- `LinkState::handle_frame`: process one received frame.  The single character
has no address and answers whatever is outstanding. -/
def handleFrame (frame : Frame) (now : ℕ) : FrameOutcome UInt8 × LinkState :=
  match frame with
  | .singleCharAck => s.confirm o.profile none
  | .fixed ctrl addr => handleAddressed o s frame ctrl addr.toUInt8 now
  | .variable' ctrl addr _ => handleAddressed o s frame ctrl addr.toUInt8 now

variable {o s} in
/-- A frame with an address, of either shape, is handled by its control field and the
low octet of that address. -/
theorem handleFrame_addressed {frame : Frame} {ctrl : ControlField} {addr : UInt8} (now : ℕ)
    (hctrl : frame.control = some ctrl) (haddr : frame.linkAddr.map UInt16.toUInt8 = some addr) :
    handleFrame o s frame now = handleAddressed o s frame ctrl addr now := by
  cases frame <;> cases hctrl <;> cases haddr <;> rfl

/-- What `tick` asks a device for in its phase. -/
def due (sec : Secondary) : UInt8 × Bool :=
  match sec.phase with
  | .status => (REQ_STATUS, false)
  | .reset => (RESET_LINK, false)
  | .active => if sec.wantClass1 then (REQ_DATA1, true) else (REQ_DATA2, true)

/-- `LinkState::tick`: drive the link when it is free, one device a tick. -/
def tick (now : ℕ) : LinkState :=
  if s.lastSent.isSome then s
  else
    let (sent, s) := s.trySendQueued o.profile now
    if sent then s
    else
      match s.order[s.pollIdx]? with
      | none => s
      | some addr =>
        let s := { s with pollIdx := (s.pollIdx + 1) % s.order.length }
        sendPrimConfirmed o s addr (due (s.secs addr)).1 (due (s.secs addr)).2 now

/-- `LinkState::on_t3_timeout`: the line has been idle, poll an active device. -/
def onT3Timeout (now : ℕ) : LinkState :=
  if s.lastSent.isSome then s
  else
    match s.firstActive with
    | none => s
    | some addr => sendPrimConfirmed o s addr REQ_DATA2 true now

/-- `LinkState::handle_link_request`: a manual request from the application,
dropped while a transaction is outstanding. -/
def handleLinkRequest (req : LinkRequest) (now : ℕ) : LinkState :=
  if s.lastSent.isSome then s
  else if req.addr ∉ s.order then s
  else if req.func = RESET_LINK ∨ req.func = PRIM_FC_RESET_FCB then
    sendPrimConfirmed o (s.askReset req.addr) req.addr req.func false now
  else if req.func = REQ_STATUS then sendPrimConfirmed o s req.addr REQ_STATUS false now
  else if req.func = REQ_DATA2 ∧ (s.secs req.addr).phase = .active then
    sendPrimConfirmed o s req.addr REQ_DATA2 true now
  else s

/-- `Shared::enqueue`: queue an ASDU for a device, up to the size of the queue. -/
def enqueue (asdu : Asdu) (addr : UInt8) : Except Error LinkState :=
  if s.queue.length ≥ o.maxSendQueueSize then .error .sendQueueFull
  else .ok (s.push ⟨asdu, addr⟩)

/-! ### Runs -/

/-- What can happen to the protocol task, with the instant it happens. -/
inductive Event
  | frame (f : Frame) (now : ℕ)
  | linkRequest (req : LinkRequest) (now : ℕ)
  | t1 (now : ℕ)
  | t3 (now : ℕ)
  | tick (now : ℕ)
  /-- An ASDU is queued. -/
  | send (asdu : Asdu) (addr : UInt8)
  /-- The writer task has gone. -/
  | outClosed
  deriving DecidableEq, Repr

/-- One step of `run_link`; none when the event does not arise or ends the link. -/
def step : Event → Option LinkState
  | .frame f now => some (handleFrame o s f now).2
  | .linkRequest req now => some (handleLinkRequest o s req now)
  | .t1 now =>
    if s.t1At.any (· ≤ now) then (s.onT1Timeout o.profile now).toOption else none
  | .t3 now => some (onT3Timeout o s now)
  | .tick now => some (tick o s now)
  | .send asdu addr => (enqueue o s asdu addr).toOption
  | .outClosed => some { s with outOpen := false }

/-- The runs of `run_link` from a freshly opened line. -/
def machine : Machine LinkState Event where
  init := new o
  next := fun s e => step o s e

end LinkState

end Cs103
end Iec60870
