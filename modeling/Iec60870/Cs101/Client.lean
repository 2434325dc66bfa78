import Iec60870.Cs101.Config
import Iec60870.Cs101.Primary
import Iec60870.Lib.Machine

/-!
# The 101 primary

The link state machine of the 101 client, unbalanced and balanced.  One branch of
the protocol loop's `select!` is one step; the branch for an expired timer may run
up to three handlers, each of which is a step of its own.  A handler that waits for
room in the channel to the writer is placed at the moment it goes on.

The fields of `LinkState` that never change are read from the `ClientOption` they
were set from.

## Main definitions

* `LinkState` — the state of the protocol task.
* `LinkState.handleFrame`, `tick`, `onT3Timeout`, `handleLinkRequest` — its handlers.
* `LinkState.machine` — the runs of `run_link`.
-/

namespace Iec60870
namespace Cs101

open PrimFc

/-- Configuration of a client. -/
structure ClientOption where
  config : Config
  /-- The stations to poll; empty for the one at the configured link address. -/
  secondaryAddrs : List UInt16
  deriving DecidableEq, Repr

namespace ClientOption

variable (o : ClientOption)

/-- `ClientOption::default_addr`: the link address commands are sent to by default. -/
def defaultAddr : UInt16 :=
  match o.secondaryAddrs with
  | a :: _ => if o.config.isBalanced then o.config.linkAddress else a
  | [] => o.config.linkAddress

/-- `ClientOption::addresses`: every secondary station this client serves. -/
def addresses : List UInt16 :=
  if o.secondaryAddrs.isEmpty ∨ o.config.isBalanced then [o.config.linkAddress]
  else o.secondaryAddrs

/-- How the 101 primary handles transactions.  In balanced mode it is station A,
which sets DIR and does not poll. -/
def profile : Profile UInt16 Asdu where
  linkAddr := id
  addrSize := o.config.linkAddrSize
  dir := o.config.isBalanced
  resets := [RESET_LINK]
  polls := !o.config.isBalanced
  marshal := Asdu.marshalBinary
  t1 := o.config.timeoutResponseT1
  t2 := o.config.timeoutRepeatT2
  maxRepetitions := o.config.maxRepetitions

end ClientOption

/-- The link state machine, owned by the protocol task. -/
structure LinkState extends Primary UInt16 Asdu where
  /-- Balanced mode: the FCB expected on the peer's next FCV frame. -/
  fcbExpected : Bool

namespace LinkState

variable (o : ClientOption) (s : LinkState)

/-- `LinkState::new`. -/
def new : LinkState where
  toPrimary := .new o.addresses
  fcbExpected := true

/-- `LinkState::send_prim_confirmed`. -/
def sendPrimConfirmed (addr : UInt16) (func : UInt8) (fcv : Bool) (now : ℕ) : LinkState :=
  { s with toPrimary := (s.toPrimary.sendPrimConfirmed o.profile addr func fcv now).2 }

/-- `LinkState::send_sec_fixed`: a response of the balanced-mode secondary role. -/
def sendSecFixed (func : UInt8) (addr : UInt16) : LinkState :=
  let frame :=
    if func = SecFc.CONF_ACK ∧ o.config.useSingleCharAck then .singleCharAck
    else .fixed (.secondary func false o.config.isBalanced) addr
  match s.write o.profile frame with
  | none => s
  | some raw => { s with log := s.log ++ [.replied frame raw] }

/-- What `handle_peer_primary_frame` does with a frame that is not a repetition. -/
def servePeer (ctrl : ControlField) (addr : UInt16) : Bool × LinkState :=
  if ctrl.func = RESET_LINK then
    -- the first FCV frame after a reset carries FCB = 1
    (false, { s with fcbExpected := true }.sendSecFixed o SecFc.CONF_ACK addr)
  else if ctrl.func = RESET_USER ∨ ctrl.func = TEST_LINK then
    (false, s.sendSecFixed o SecFc.CONF_ACK addr)
  else if ctrl.func = USER_DATA_CONF then (true, s.sendSecFixed o SecFc.CONF_ACK addr)
  else if ctrl.func = USER_DATA_NO_CONF then (true, s)
  else if ctrl.func = REQ_STATUS then (false, s.sendSecFixed o SecFc.RESP_STATUS addr)
  else (false, s.sendSecFixed o SecFc.RESP_LINK_NI addr)

/-- `LinkState::handle_peer_primary_frame`: the secondary role of this station in
balanced mode.  Returns whether the frame's user data is new. -/
def handlePeerPrimaryFrame (ctrl : ControlField) (addr : UInt16) : Bool × LinkState :=
  if (fcvRequired ctrl.func).any (· ≠ ctrl.fcv) then (false, s)
  else if ctrl.fcv then
    if ctrl.fcb ≠ s.fcbExpected then
      -- the acknowledgement was lost: acknowledge again, deliver nothing
      (false, s.sendSecFixed o SecFc.CONF_ACK addr)
    else { s with fcbExpected := !s.fcbExpected }.servePeer o ctrl addr
  else s.servePeer o ctrl addr

/-- User data of the peer is reported for delivery. -/
def report (frame : Frame) (addr : UInt16) : LinkState :=
  match frame.asdu with
  | some raw => { s with log := s.log ++ [.delivered addr raw] }
  | none => s

/-- `LinkState::handle_frame` on a frame with a control field and an address. -/
def handleAddressed (frame : Frame) (ctrl : ControlField) (addr : UInt16) (now : ℕ) :
    FrameOutcome UInt16 × LinkState :=
  if o.config.linkAddrSize > 0 ∧ addr ∉ s.order then ({}, s)
  else if ctrl.prm then
    if o.config.isBalanced then
      let (deliver, s) := s.handlePeerPrimaryFrame o ctrl addr
      ({ deliver }, if deliver then s.report frame addr else s)
    else ({}, s)
  else
    let (out, p) := s.handleSecondary o.profile frame ctrl addr now
    (out, { s with toPrimary := p })

/-- `LinkState::handle_frame`: process one received frame.  The single character
has no address and answers whatever is outstanding. -/
def handleFrame (frame : Frame) (now : ℕ) : FrameOutcome UInt16 × LinkState :=
  match frame with
  | .singleCharAck =>
    let (out, p) := s.confirm o.profile none
    (out, { s with toPrimary := p })
  | .fixed ctrl addr => s.handleAddressed o frame ctrl addr now
  | .variable' ctrl addr _ => s.handleAddressed o frame ctrl addr now

variable {o s} in
/-- A frame with an address, of either shape, is handled by its control field and that
address. -/
theorem handleFrame_addressed {frame : Frame} {ctrl : ControlField} {addr : UInt16} (now : ℕ)
    (hctrl : frame.control = some ctrl) (haddr : frame.linkAddr = some addr) :
    s.handleFrame o frame now = s.handleAddressed o frame ctrl addr now := by
  cases frame <;> cases hctrl <;> cases haddr <;> rfl

/-- The round-robin loop of `tick`, with the number of stations still to look at. -/
def poll (now : ℕ) : ℕ → LinkState → LinkState
  | 0, s => s
  | n + 1, s =>
    match s.order[s.pollIdx]? with
    | none => s
    | some addr =>
      let s := { s with pollIdx := (s.pollIdx + 1) % s.order.length }
      match (s.secs addr).phase with
      | .status => s.sendPrimConfirmed o addr REQ_STATUS false now
      | .reset => s.sendPrimConfirmed o addr RESET_LINK false now
      | .active =>
        -- balanced mode does not poll
        if o.config.isBalanced then poll now n s
        else
          s.sendPrimConfirmed o addr
            (if (s.secs addr).wantClass1 then REQ_DATA1 else REQ_DATA2) true now

/-- `LinkState::tick`: drive the link when it is free. -/
def tick (now : ℕ) : LinkState :=
  if s.lastSent.isSome then s
  else
    let (sent, p) := s.trySendQueued o.profile now
    let s := { s with toPrimary := p }
    if sent then s else s.poll o now s.order.length

/-- `LinkState::on_t3_timeout`: the line has been idle, test the link. -/
def onT3Timeout (now : ℕ) : LinkState :=
  if s.lastSent.isSome then s
  else
    match s.firstActive with
    | none => s
    | some addr => s.sendPrimConfirmed o addr TEST_LINK true now

/-- `LinkState::handle_link_request`: a manual request from the application,
dropped while a transaction is outstanding. -/
def handleLinkRequest (func : UInt8) (now : ℕ) : LinkState :=
  let addr := o.defaultAddr
  if s.lastSent.isSome then s
  else if addr ∉ s.order then s
  else if func = RESET_LINK then
    { s with toPrimary := s.askReset addr }.sendPrimConfirmed o addr RESET_LINK false now
  else if func = REQ_STATUS then s.sendPrimConfirmed o addr REQ_STATUS false now
  else if func = REQ_DATA2 ∧ (s.secs addr).phase = .active ∧ ¬o.config.isBalanced then
    s.sendPrimConfirmed o addr REQ_DATA2 true now
  else s

/-- `LinkState::on_t1_timeout`: the outstanding frame is repeated, or its station
given up.  An error ends the link. -/
def onT1Timeout (now : ℕ) : Except Error LinkState :=
  match s.toPrimary.onT1Timeout o.profile now with
  | .ok p => .ok { s with toPrimary := p }
  | .error e => .error e

/-- `Client::send_to`: queue an ASDU for a station, up to the size of the queue,
whether or not the station is served. -/
def sendTo (asdu : Asdu) (addr : UInt16) : Except Error LinkState :=
  if s.queue.length ≥ o.config.maxSendQueueSize then .error .sendQueueFull
  else .ok { s with toPrimary := s.push ⟨asdu, addr⟩ }

/-! ### Runs -/

/-- What can happen to the protocol task, with the instant it happens. -/
inductive Event
  | frame (f : Frame) (now : ℕ)
  | linkRequest (func : UInt8) (now : ℕ)
  | t1 (now : ℕ)
  | t3 (now : ℕ)
  | tick (now : ℕ)
  /-- The application queues an ASDU. -/
  | send (asdu : Asdu) (addr : UInt16)
  /-- The writer task has gone. -/
  | outClosed
  deriving DecidableEq, Repr

/-- One step of `run_link`; none when the event does not arise or ends the link. -/
def step : Event → Option LinkState
  | .frame f now => some (s.handleFrame o f now).2
  | .linkRequest func now => some (s.handleLinkRequest o func now)
  | .t1 now =>
    if s.t1At.any (· ≤ now) then (s.onT1Timeout o now).toOption else none
  | .t3 now => some (s.onT3Timeout o now)
  | .tick now => some (s.tick o now)
  | .send asdu addr => (s.sendTo o asdu addr).toOption
  | .outClosed => some { s with outOpen := false }

/-- The runs of `run_link` from a freshly opened line. -/
def machine : Machine LinkState Event where
  init := new o
  next := fun s e => s.step o e

end LinkState

/-! ### A small line, for concrete runs -/

/-- One station at address 1, polled, with the default configuration. -/
def oneStation : ClientOption := ⟨.default, []⟩

/-- A response of station 1 without an ASDU. -/
def response (func : UInt8) : Frame := .fixed (.secondary func false false) 1

/-- A single-point indication. -/
def indication (ioa : UInt8) : Asdu where
  params := paramsStandard101
  identifier := .new .M_SP_NA_1 .single (.new .SPONTANEOUS) 1
  infoObj := [ioa, 0, 1]

/-- The user data of station 1 in answer to a poll. -/
def pollResponse (ioa : UInt8) : Frame :=
  .variable' (.secondary SecFc.USER_DATA_CONF false false) 1 [1, 1, 3, 1, ioa, 0, 1]

end Cs101
end Iec60870
