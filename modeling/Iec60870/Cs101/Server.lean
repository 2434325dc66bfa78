import Iec60870.Cs101.Config
import Iec60870.Cs101.Frame

/-!
# The 101 secondary

The link state machine of the 101 server, with the balanced-mode primary role, and
the buffers it shares with the application.  `SecondaryState` owns the sending end
of the channel to the writer; the channel is open while the line task runs, so a
frame is written exactly when its octets can be built.

`log` records what has happened, oldest first.  The fields that never change are
read from the `Config` they were set from.

## Main definitions

* `Shared`, `Shared.popClass` — the class buffers.
* `SecondaryState` — the state of the line task.
* `SecondaryState.handleFrame` — the secondary role.
* `SecondaryState.primTick`, `primConfirm` — the balanced-mode primary role.
-/

namespace Iec60870
namespace Cs101

open PrimFc

/-- The two classes of buffered data, which a primary polls with functions of
their own. -/
inductive DataClass
  /-- Events and everything not cyclic. -/
  | class1
  /-- Cyclic and background data. -/
  | class2
  deriving DecidableEq, Repr

/-- What the history of a secondary records: what its application buffered, the
frames it wrote, and the ASDUs that were served or handed on. -/
inductive SecObs
  /-- The application put an ASDU into a class buffer. -/
  | buffered (c : DataClass) (asdu : Asdu)
  /-- The application queued an ASDU for the primary role. -/
  | queued (asdu : Asdu)
  /-- A frame was handed to the writer. -/
  | wrote (frame : Frame)
  /-- An ASDU of a class buffer was put into a response. -/
  | served (c : DataClass) (raw : Octets)
  /-- A user data ASDU was handed to the dispatcher. -/
  | dispatched (raw : Octets)
  /-- The link was reset. -/
  | reset
  /-- The primary role began a transaction. -/
  | began (frame : Frame)
  /-- The primary role's transaction was completed positively. -/
  | completed (frame : Frame)
  deriving DecidableEq, Repr

/-- The buffers shared with the application, which other tasks fill while the
station runs. -/
structure Shared where
  /-- The buffered class 1 data, oldest first. -/
  class1 : List Asdu
  /-- The buffered class 2 data, oldest first. -/
  class2 : List Asdu
  /-- Balanced mode: ASDUs for the primary role. -/
  primQueue : List Asdu
  deriving DecidableEq, Repr

namespace Shared

/-- No data buffered. -/
def empty : Shared := ⟨[], [], []⟩

/-- `Shared::class1_pending`. -/
def class1Pending (sh : Shared) : Bool := !sh.class1.isEmpty

/-- `Shared::pop_class`: the next buffered ASDU for a request, with the class it was
buffered in; the other class is served when the requested one is empty. -/
def popClass (sh : Shared) : DataClass → Option (DataClass × Asdu) × Shared
  | .class1 =>
    match sh.class1, sh.class2 with
    | a :: rest, _ => (some (.class1, a), { sh with class1 := rest })
    | [], a :: rest => (some (.class2, a), { sh with class2 := rest })
    | [], [] => (none, sh)
  | .class2 =>
    match sh.class2, sh.class1 with
    | a :: rest, _ => (some (.class2, a), { sh with class2 := rest })
    | [], a :: rest => (some (.class1, a), { sh with class1 := rest })
    | [], [] => (none, sh)

end Shared

/-- The secondary-role link state machine, with the balanced-mode primary role. -/
structure SecondaryState where
  /-- The FCB expected on the primary's next FCV frame. -/
  fcbExpected : Bool
  /-- The last response sent. -/
  lastResp : Option Frame
  /-- Balanced mode: the outstanding frame of the primary role. -/
  primOut : Option Frame
  primOutCtrl : ControlField
  primFcb : Bool
  primActive : Bool
  primRetry : ℕ
  primDeadline : Option ℕ
  primNextInit : ℕ
  shared : Shared
  log : List SecObs
  deriving DecidableEq, Repr

/-- What handling one received frame produced, for the protocol loop to act upon. -/
structure Outcome where
  /-- The link layer was just reset and is now active. -/
  linkBecameActive : Bool := false
  /-- A user data ASDU to dispatch. -/
  asdu : Option Octets := none
  deriving DecidableEq, Repr

namespace SecondaryState

variable (cfg : Config) (s : SecondaryState)

/-- `SecondaryState::new`, at the instant `now`, on the given buffers. -/
def new (shared : Shared) (log : List SecObs) (now : ℕ) : SecondaryState where
  fcbExpected := true
  lastResp := none
  primOut := none
  primOutCtrl := ⟨false, false, false, false, false, false, 0⟩
  primFcb := false
  primActive := false
  primRetry := 0
  primDeadline := none
  primNextInit := now
  shared := shared
  log := log

/-- Record an entry. -/
def note (o : SecObs) : SecondaryState := { s with log := s.log ++ [o] }

/-- `SecondaryState::write`: whether the frame could be handed to the writer. -/
def write (frame : Frame) : Bool × SecondaryState :=
  match frame.marshal cfg.linkAddrSize with
  | .ok _ => (true, s.note (.wrote frame))
  | .error _ => (false, s)

/-- `SecondaryState::send_resp`: send a response and remember it, to be sent again
when its request is repeated. -/
def sendResp (frame : Frame) : SecondaryState :=
  ({ s with lastResp := some frame }.write cfg frame).2

/-- `SecondaryState::sec_frame`: a response without user data.  The secondary
never sets DIR. -/
def secFrame (func : UInt8) (acd : Bool) : Frame :=
  .fixed (.secondary func acd false) cfg.linkAddress

/-- `SecondaryState::ack_frame`: a fixed-length response, or `E5` in its place when
that is configured and there is no access demand to lose by it. -/
def ackFrame (func : UInt8) (acd : Bool) : Frame :=
  if cfg.useSingleCharAck ∧ acd = false then .singleCharAck else secFrame cfg func acd

/-- `SecondaryState::send_link_ack`: a positive acknowledgement, with ACD while
class 1 data waits. -/
def sendLinkAck : SecondaryState :=
  s.sendResp cfg (ackFrame cfg SecFc.CONF_ACK s.shared.class1Pending)

/-- `SecondaryState::send_link_status`: the status of the link, with ACD while
class 1 data waits. -/
def sendLinkStatus : SecondaryState :=
  s.sendResp cfg (secFrame cfg SecFc.RESP_STATUS s.shared.class1Pending)

/-- `SecondaryState::respond_class_data`: answer a poll with buffered data, or with
"requested data not available". -/
def respondClassData (c : DataClass) : SecondaryState :=
  match s.shared.popClass c with
  | (none, _) => s.sendResp cfg (ackFrame cfg SecFc.USER_DATA_NO_REP false)
  | (some (origin, a), shared) =>
    match a.marshalBinary with
    | .error _ =>
      { s with shared }.sendResp cfg
        (secFrame cfg SecFc.USER_DATA_NO_REP shared.class1Pending)
    | .ok raw =>
      ({ s with shared }.note (.served origin raw)).sendResp cfg
        (.variable' (.secondary SecFc.USER_DATA_CONF shared.class1Pending false)
          cfg.linkAddress raw)

/-- `SecondaryState::broadcast_addr`: all ones in the configured width. -/
def broadcastAddr : Option UInt16 :=
  if cfg.linkAddrSize = 1 then some 0x00ff
  else if cfg.linkAddrSize = 2 then some 0xffff
  else none

/-- `SecondaryState::addressed_to_us`: the own address or the broadcast address. -/
def addressedToUs (addr : UInt16) : Bool :=
  match broadcastAddr cfg with
  | none => true
  | some broadcast => addr = cfg.linkAddress || addr = broadcast

/-! ### Balanced-mode primary role -/

/-- `SecondaryState::prim_confirm`: complete the outstanding primary-role
transaction; a reset makes the link active, and a counted frame moves the bit on. -/
def primConfirm (positive : Bool) : SecondaryState :=
  match s.primOut with
  | none => s
  | some frame =>
    let s :=
      if positive then
        let s := if s.primOutCtrl.fcv then { s with primFcb := !s.primOutCtrl.fcb } else s
        let s :=
          if s.primOutCtrl.func = RESET_LINK then { s with primActive := true, primFcb := true }
          else s
        s.note (.completed frame)
      else s
    { s with primOut := none, primRetry := 0, primDeadline := none }

/-- `SecondaryState::handle_peer_secondary_frame`: a response of the peer, to the
transaction of the primary role. -/
def handlePeerSecondaryFrame (ctrl : ControlField) (now : ℕ) : SecondaryState :=
  if ctrl.func = SecFc.CONF_ACK ∨ ctrl.func = SecFc.RESP_STATUS then s.primConfirm true
  -- link busy: the frame stays outstanding, the deadline retries it
  else if ctrl.func = SecFc.CONF_NACK then s
  else if ctrl.func = SecFc.RESP_LINK_NF ∨ ctrl.func = SecFc.RESP_LINK_NI then
    { s with
      primOut := none
      primRetry := 0
      primDeadline := none
      primActive := false
      primNextInit := now + cfg.timeoutResponseT1 }
  else s

/-- `SecondaryState::prim_send_confirmed`: begin a primary-role transaction. -/
def primSendConfirmed (frame : Frame) (ctrl : ControlField) (now : ℕ) : SecondaryState :=
  match s.write cfg frame with
  | (false, s) => s
  | (true, s) => { s.note (.began frame) with
      primOut := some frame
      primOutCtrl := ctrl
      primRetry := 0
      primDeadline := some (now + cfg.timeoutResponseT1) }

/-- The primary role's response timeout: repeat the frame, or give up. -/
def primExpire (frame : Frame) (now : ℕ) : SecondaryState :=
  if s.primRetry < cfg.maxRepetitions.toNat then
    { ({ s with primRetry := s.primRetry + 1 }.write cfg frame).2 with
      primDeadline := some (now + cfg.timeoutRepeatT2) }
  else
    { s with
      primOut := none
      primRetry := 0
      primDeadline := none
      primActive := false
      primNextInit := now + cfg.timeoutResponseT1 }

/-- The primary role resets the link to open the transmit direction. -/
def primReset (now : ℕ) : SecondaryState :=
  let ctrl := ControlField.primary RESET_LINK false false false
  -- back off before trying again
  { s with primNextInit := now + 2 * cfg.timeoutResponseT1 }.primSendConfirmed cfg
    (.fixed ctrl cfg.linkAddress) ctrl now

/-- The primary role sends the next queued ASDU as confirmed user data. -/
def primSend (now : ℕ) : SecondaryState :=
  match s.shared.primQueue with
  | [] => s
  | next :: rest =>
    let s := { s with shared := { s.shared with primQueue := rest } }
    match next.marshalBinary with
    | .error _ => s
    | .ok raw =>
      let ctrl := ControlField.primary USER_DATA_CONF true s.primFcb false
      s.primSendConfirmed cfg (.variable' ctrl cfg.linkAddress raw) ctrl now

/-- `SecondaryState::prim_tick`: supervise the balanced-mode primary role, which
resets the link before it sends user data. -/
def primTick (now : ℕ) : SecondaryState :=
  match s.primOut with
  | some frame => if s.primDeadline.any (· ≤ now) then s.primExpire cfg frame now else s
  | none =>
    if s.primActive then s.primSend cfg now
    else if s.primNextInit ≤ now then s.primReset cfg now
    else s

/-! ### Secondary role -/

/-- What `handle_frame` does with a primary's frame that is not a repetition. -/
def serve (frame : Frame) (ctrl : ControlField) : Outcome × SecondaryState :=
  if ctrl.func = RESET_LINK then
    -- the first FCV frame after a reset carries FCB = 1
    ({ linkBecameActive := true },
      ({ s with fcbExpected := true, lastResp := none }.note .reset).sendLinkAck cfg)
  else if ctrl.func = RESET_USER ∨ ctrl.func = TEST_LINK then ({}, s.sendLinkAck cfg)
  else if ctrl.func = USER_DATA_CONF then ({ asdu := frame.asdu }, s.sendLinkAck cfg)
  else if ctrl.func = USER_DATA_NO_CONF then ({ asdu := frame.asdu }, s)
  else if ctrl.func = REQ_ACCESS ∨ ctrl.func = REQ_STATUS then ({}, s.sendLinkStatus cfg)
  else if ctrl.func = REQ_DATA1 then ({}, s.respondClassData cfg .class1)
  else if ctrl.func = REQ_DATA2 then ({}, s.respondClassData cfg .class2)
  else ({}, s.sendResp cfg (secFrame cfg SecFc.RESP_LINK_NI false))

/-- A repeated request is answered with the previous response. -/
def resend : SecondaryState :=
  match s.lastResp with
  | some frame => (s.write cfg frame).2
  | none => s.sendLinkAck cfg

/-- What `handle_frame` does with a primary's frame to this station alone. -/
def handleCommand (frame : Frame) (ctrl : ControlField) : Outcome × SecondaryState :=
  if (fcvRequired ctrl.func).any (· ≠ ctrl.fcv) then ({}, s)
  else if ctrl.fcv then
    if ctrl.fcb ≠ s.fcbExpected then ({}, s.resend cfg)
    else { s with fcbExpected := !s.fcbExpected }.serve cfg frame ctrl
  else s.serve cfg frame ctrl

/-- `SecondaryState::handle_frame` on a frame with a control field and an address. -/
def handleAddressed (frame : Frame) (ctrl : ControlField) (addr : UInt16) (now : ℕ) :
    Outcome × SecondaryState :=
  if cfg.linkAddrSize > 0 ∧ ¬addressedToUs cfg addr then ({}, s)
  else if ctrl.prm = false then
    ({}, if cfg.isBalanced then s.handlePeerSecondaryFrame cfg ctrl now else s)
  else if broadcastAddr cfg = some addr then
    -- only SEND/NO REPLY is defined for all stations at once
    ({ asdu := if ctrl.func = USER_DATA_NO_CONF then frame.asdu else none }, s)
  else s.handleCommand cfg frame ctrl

/-- `SecondaryState::handle_frame`: the single character answers the primary role,
everything else has an address to be checked first. -/
def handleFrame (frame : Frame) (now : ℕ) : Outcome × SecondaryState :=
  match frame with
  | .singleCharAck => ({}, if cfg.isBalanced then s.primConfirm true else s)
  | .fixed ctrl addr => s.handleAddressed cfg frame ctrl addr now
  | .variable' ctrl addr _ => s.handleAddressed cfg frame ctrl addr now

variable {cfg s} in
/-- A frame with an address, of either shape, is handled by its control field and that
address. -/
theorem handleFrame_addressed {frame : Frame} {ctrl : ControlField} {addr : UInt16} (now : ℕ)
    (hctrl : frame.control = some ctrl) (haddr : frame.linkAddr = some addr) :
    s.handleFrame cfg frame now = s.handleAddressed cfg frame ctrl addr now := by
  cases frame <;> cases hctrl <;> cases haddr <;> rfl

/-- A received frame: it is handled, and its user data goes to the dispatcher.

`dispatched` records that `run_link` has taken the octets of the outcome in hand.
`Asdu::unmarshal_binary` comes after that: octets it refuses are dropped with a
warning and reach no handler. -/
def receive (frame : Frame) (now : ℕ) : SecondaryState :=
  let (out, s) := s.handleFrame cfg frame now
  match out.asdu with
  | some raw => s.note (.dispatched raw)
  | none => s

/-- `Server::send`: buffer an ASDU for delivery to the primary. -/
def send (asdu : Asdu) : Except Error SecondaryState :=
  if cfg.isBalanced then
    if s.shared.primQueue.length ≥ cfg.maxSendQueueSize then .error .sendQueueFull
    else .ok ({ s with shared.primQueue := s.shared.primQueue ++ [asdu] }.note (.queued asdu))
  else if asdu.identifier.coa.cause = .PERIODIC ∨ asdu.identifier.coa.cause = .BACKGROUND then
    if s.shared.class2.length ≥ cfg.maxSendQueueSize then .error .sendQueueFull
    else .ok ({ s with shared.class2 := s.shared.class2 ++ [asdu] }.note (.buffered .class2 asdu))
  else
    if s.shared.class1.length ≥ cfg.maxSendQueueSize then .error .sendQueueFull
    else .ok ({ s with shared.class1 := s.shared.class1 ++ [asdu] }.note (.buffered .class1 asdu))

end SecondaryState

end Cs101
end Iec60870
