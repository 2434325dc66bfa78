import Iec60870.Cs104.Apci
import Iec60870.Cs104.Config
import Iec60870.Lib.Machine

/-!
# The 104 connection state machine

The driver task of one connection, shared by the master and the controlled
station, together with the application-visible handle whose flags and queue
other tasks reach.  The driver's loop evaluates its send guard, waits in
`select!`, runs the branch that fired and starts over; one branch is one step.
Within a branch the driver hands frames to the writer task and ASDUs to the
dispatcher task; a branch that waits for room there is placed at the moment it
goes on.  Everything the environment may do in between — queueing ASDUs,
demoting the session, stopping the two tasks — is a step of its own.

The clock is monotone: no step reads an instant earlier than one read before.
`rx_asdu` and `rx_ctrl` never yield `None`, because the driver itself holds the
handle with their senders.

## Main definitions

* `Connection` — the handle, with `tryEnqueue`, `demote` and `setActive`.
* `updateAckNoOut` — apply a received acknowledgement to the outbound window.
* `Driver`, `Session` — the driver's variables; a connection with its history.
* `Session.iterate` — one branch of the loop.
* `Session.machine` — the runs of `run`.
-/

namespace Iec60870
namespace Cs104

/-- Which end of the connection this is.  The driver is the same for both, and the
role decides which U-frames it acts on. -/
inductive Role
  /-- Controlling station: sends STARTDT and STOPDT and waits for the confirmation. -/
  | master
  /-- Controlled station: answers STARTDT and STOPDT. -/
  | controlled
  deriving DecidableEq, Repr

/-- A control action requested by the application, which reaches the driver
through a channel of its own. -/
inductive Ctrl
  | startDt
  | stopDt
  deriving DecidableEq, Repr

/-- The application-visible handle to a live connection: the flags its driver
shares with other tasks, and the queue of outbound ASDUs. -/
structure Connection where
  params : Params
  role : Role
  connected : Bool
  active : Bool
  /-- The ASDUs waiting in the `tx_asdu` channel, oldest first. -/
  queue : List Octets
  /-- How many ASDUs the channel holds. -/
  capacity : ℕ
  deriving DecidableEq, Repr

namespace Connection

/-- `Connection::try_enqueue`: queue an ASDU for transmission without waiting.
The channel is closed only after `connected` is cleared. -/
def tryEnqueue (c : Connection) (a : Asdu) : Except Error Connection :=
  if !c.connected then .error .useClosedConnection
  else if c.role = .master ∧ !c.active then .error .notActive
  else
    match a.marshalBinary with
    | .error e => .error e
    | .ok data =>
      if c.queue.length ≥ c.capacity then .error .bufferFull
      else .ok { c with queue := c.queue ++ [data] }

/-- `Connection::set_active`. -/
def setActive (c : Connection) (active : Bool) : Connection := { c with active }

/-- `Connection::demote`: the flag is cleared and nothing else, so the driver
hears of it only where it reads the flag. -/
def demote (c : Connection) : Connection := c.setActive false

end Connection

/-- `update_ack_no_out`: apply a received acknowledgement to the outbound
window.  Returns whether it was inside the window, with the new `ack_no_send`
and `pending`. -/
def updateAckNoOut (ackNo ackNoSend seqNoSend : UInt16) (pending : List (UInt16 × ℕ)) :
    Bool × UInt16 × List (UInt16 × ℕ) :=
  if ackNo = ackNoSend then (true, ackNoSend, pending)
  else if seqNoCount ackNoSend seqNoSend < seqNoCount ackNo seqNoSend then
    (false, ackNoSend, pending)
  else
    let lastAcked := (ackNo - 1) &&& SEQ_MASK
    match pending.findIdx? (fun p => p.1 == lastAcked) with
    | some pos => (true, ackNo, pending.drop (pos + 1))
    | none => (true, ackNo, pending)

/-- The variables of the driver, which no other task can reach: sequence numbers,
the window of unacknowledged frames and the instants its timers count from. -/
structure Driver where
  /-- Sequence number of the next outbound I-frame. -/
  seqNoSend : UInt16
  /-- Outbound sequence number not yet confirmed. -/
  ackNoSend : UInt16
  /-- Sequence number of the next inbound I-frame. -/
  seqNoRcv : UInt16
  /-- Inbound sequence number not yet acknowledged. -/
  ackNoRcv : UInt16
  pending : List (UInt16 × ℕ)
  unackRcvSince : Option ℕ
  idleSince : ℕ
  testFrSince : Option ℕ
  startDtSince : Option ℕ
  stopDtSince : Option ℕ
  /-- Master: STOPDT act has been sent. -/
  stopping : Bool
  /-- Controlled station: STOPDT con is held back. -/
  stopConPending : Bool
  deriving DecidableEq, Repr

/-- The driver's variables before the first iteration, at instant `now`. -/
def Driver.init (now : ℕ) : Driver where
  seqNoSend := 0
  ackNoSend := 0
  seqNoRcv := 0
  ackNoRcv := 0
  pending := []
  unackRcvSince := none
  idleSince := now
  testFrSince := none
  startDtSince := none
  stopDtSince := none
  stopping := false
  stopConPending := false

/-- Why the driver left its loop, which is why the connection was closed. -/
inductive Reason
  | shutdown
  | peerClosed
  /-- The writer task has gone, so a frame could not be handed over. -/
  | writerStopped
  /-- The dispatcher task has gone, so an ASDU could not be handed over. -/
  | dispatcherStopped
  /-- An acknowledge number outside the window. -/
  | ackOutOfWindow
  /-- An I-frame with an unexpected send sequence number. -/
  | outOfSequence
  /-- An I-frame at a controlled station that is stopped. -/
  | stoppedIFrame
  /-- t₁ expired waiting for a U-frame confirmation. -/
  | t1Confirmation
  /-- t₁ expired for the oldest unacknowledged I-frame. -/
  | t1Acknowledge
  deriving DecidableEq, Repr

/-- Where the driver is in its loop.  Between evaluating the send guard and the
branch that `select!` takes other tasks run, so the two are steps of their own. -/
inductive Phase
  /-- About to evaluate the send guard. -/
  | top
  /-- Waiting in `select!`, with the guard as it was evaluated. -/
  | waiting (maySend : Bool)
  /-- The loop has been left and the connection torn down. -/
  | closed (why : Reason)
  deriving DecidableEq, Repr

/-- What the history of a session records: the frames in both directions, and what
the driver did with them. -/
inductive Obs
  /-- A frame handed to the writer. -/
  | tx (frame : Octets) (now : ℕ)
  /-- A frame taken from the reader. -/
  | rx (frame : Octets) (now : ℕ)
  /-- An acknowledge number inside the window was applied. -/
  | acked (recvSn : UInt16)
  /-- A decoded ASDU handed to the dispatcher. -/
  | pack (a : Asdu)
  /-- An I-frame accepted, with the raw ASDU it carried. -/
  | accepted (raw : Octets) (now : ℕ)
  /-- Data transfer became active and `on_activated` was called. -/
  | activated
  /-- `on_deactivated` was called. -/
  | deactivated
  /-- Another task demoted the session. -/
  | demoted
  deriving DecidableEq, Repr

/-- A connection: its handle, the driver's variables and loop position, whether
the writer and dispatcher tasks still run, the last instant read, and everything
that has happened, oldest first. -/
structure Session extends Driver where
  conn : Connection
  phase : Phase
  writerUp : Bool
  dispatcherUp : Bool
  clock : ℕ
  log : List Obs
  deriving DecidableEq, Repr

/-- What one branch leads to: the next iteration, or leaving the loop. -/
abbrev Iter := Except (Reason × Session) Session

namespace Session

variable (cfg : Config)

/-- A connection that has just come up at instant `now`. -/
def init (params : Params) (role : Role) (now : ℕ) : Session where
  toDriver := .init now
  conn := {
    params, role
    connected := true
    active := false
    queue := []
    capacity := cfg.sendUnackLimitK.toNat <<< 4 }
  phase := .top
  writerUp := true
  dispatcherUp := true
  clock := now
  log := []

/-- Append to the history. -/
def note (o : Obs) (s : Session) : Session := { s with log := s.log ++ [o] }

/-- `conn.set_active`. -/
def setActive (active : Bool) (s : Session) : Session :=
  { s with conn := s.conn.setActive active }

/-- `tx_raw.send`: a frame is handed to the writer, or the connection closed when
the writer has gone. -/
def txRaw (frame : Octets) (now : ℕ) (s : Session) : Iter :=
  if s.writerUp then .ok (s.note (.tx frame now)) else .error (.writerStopped, s)

/-- `tx_pack.send`: an ASDU is handed to the dispatcher, or the connection closed
when the dispatcher has gone. -/
def txPack (a : Asdu) (s : Session) : Iter :=
  if s.dispatcherUp then .ok (s.note (.pack a)) else .error (.dispatcherStopped, s)

/-- Transmit an S-frame for everything received so far. -/
def sendSFrame (now : ℕ) (s : Session) : Iter := do
  let s ← s.txRaw (newSFrame s.seqNoRcv) now
  .ok { s with ackNoRcv := s.seqNoRcv }

/-- The send guard: "k" caps the number of unacknowledged I-frames in flight. -/
def maySend (s : Session) : Bool :=
  s.conn.active && !s.stopping && seqNoCount s.ackNoSend s.seqNoSend < cfg.sendUnackLimitK

/-- The `rx_asdu` branch: the ASDU is numbered, noted as pending and sent, and the
receive number in it acknowledges everything accepted so far. -/
def onAsdu (asdu : Octets) (now : ℕ) (s : Session) : Iter :=
  match newIFrame s.seqNoSend s.seqNoRcv asdu with
  -- an oversized ASDU is dropped
  | .error _ => .ok s
  | .ok frame =>
    { s with
      ackNoRcv := s.seqNoRcv
      pending := s.pending ++ [(s.seqNoSend, now)]
      seqNoSend := (s.seqNoSend + 1) &&& SEQ_MASK }.txRaw frame now

/-- The `rx_ctrl` branch: the request is sent and supervised by t₁, and `stopping`
says which of the two was made last. -/
def onCtrl (ctrl : Ctrl) (now : ℕ) (s : Session) : Iter :=
  match ctrl with
  | .startDt =>
    { s with stopping := false, startDtSince := some now }.txRaw (newUFrame .startDtActive) now
  | .stopDt =>
    { s with stopping := true, stopDtSince := some now }.txRaw (newUFrame .stopDtActive) now

/-- An S-frame: its receive number moves the lower end of the window, and outside
the window closes the connection. -/
def onS (recvSn : UInt16) (s : Session) : Iter :=
  let (inWindow, ackNoSend, pending) := updateAckNoOut recvSn s.ackNoSend s.seqNoSend s.pending
  let s := { s with ackNoSend, pending }
  if inWindow then .ok (s.note (.acked recvSn)) else .error (.ackOutOfWindow, s)

/-- Hand an I-frame's ASDU to the dispatcher; an undecodable one is discarded. -/
def dispatch (raw : Octets) (s : Session) : Iter :=
  match Asdu.unmarshalBinary s.conn.params raw with
  | .ok pack => s.txPack pack
  | .error _ => .ok s

/-- Number an accepted I-frame: the next one has to follow it, and t₂ runs from
the first that is not acknowledged. -/
def accept (raw : Octets) (now : ℕ) (s : Session) : Session :=
  { s with
    -- the first frame of a new unacknowledged run starts t₂
    unackRcvSince := if s.ackNoRcv = s.seqNoRcv then some now else s.unackRcvSince
    seqNoRcv := (s.seqNoRcv + 1) &&& SEQ_MASK }.note (.accepted raw now)

/-- An I-frame: refused by a stopped controlled station, acknowledges like an
S-frame, and has to carry the number that is expected. -/
def onI (sendSn recvSn : UInt16) (raw : Octets) (now : ℕ) (s : Session) : Iter :=
  if !s.conn.active ∧ s.conn.role = .controlled then .error (.stoppedIFrame, s)
  else do
    let s ← s.onS recvSn
    if sendSn ≠ s.seqNoRcv then .error (.outOfSequence, s)
    else
      let s ← s.dispatch raw
      let s := s.accept raw now
      if cfg.recvUnackLimitW ≤ seqNoCount s.ackNoRcv s.seqNoRcv then s.sendSFrame now else .ok s

/-- Acknowledge everything received so far in an S-frame, unless that has been
done. -/
def ackReceived (now : ℕ) (s : Session) : Iter :=
  if s.ackNoRcv ≠ s.seqNoRcv then s.sendSFrame now else .ok s

/-- STOPDT act at a controlled station.  STOPDT con waits until every I-frame
this station sent has been acknowledged. -/
def onStopDtActive (now : ℕ) (s : Session) : Iter := do
  let wasActive := s.conn.active
  let s ← (s.setActive false).ackReceived now
  .ok { s with
    stopConPending := true
    log := s.log ++ if wasActive then [.deactivated] else [] }

/-- A U-frame: requests are answered by a controlled station, confirmations taken
by a master, and tests answered by both. -/
def onU (function : UFunction) (now : ℕ) (s : Session) : Iter :=
  match function, s.conn.role with
  | .startDtActive, .controlled => do
    let s ← { s with stopConPending := false }.txRaw (newUFrame .startDtConfirm) now
    .ok ((s.setActive true).note .activated)
  | .stopDtActive, .controlled => s.onStopDtActive now
  | .startDtConfirm, .master =>
    .ok ({ s with startDtSince := none }.setActive true |>.note .activated)
  | .stopDtConfirm, .master =>
    .ok ({ s with stopping := false, stopDtSince := none }.setActive false |>.note .deactivated)
  | .testFrActive, _ => s.txRaw (newUFrame .testFrConfirm) now
  | .testFrConfirm, _ => .ok { s with testFrSince := none }
  -- a function not valid for this role is ignored
  | _, _ => .ok s

/-- After every well-formed frame: transmit STOPDT con once it is due. -/
def confirmStop (now : ℕ) (s : Session) : Iter :=
  if s.stopConPending ∧ s.ackNoSend = s.seqNoSend then
    { s with stopConPending := false }.txRaw (newUFrame .stopDtConfirm) now
  else .ok s

/-- Acting on a control field that has been parsed: one branch for each format. -/
def onApci (apci : Apci) (raw : Octets) (now : ℕ) (s : Session) : Iter :=
  match apci with
  | .s recvSn => s.onS recvSn
  | .i sendSn recvSn => s.onI cfg sendSn recvSn raw now
  | .u function => s.onU function now

/-- Any frame restarts the t₃ idle timer, whatever becomes of it afterwards. -/
def takeFrame (frame : Octets) (idle : ℕ) (s : Session) : Session :=
  { s with idleSince := idle }.note (.rx frame idle)

/-- The `rx_frame` branch.  The clock is read when the frame is taken and again
when an I-frame is numbered. -/
def onFrame (frame : Octets) (idle now : ℕ) (s : Session) : Iter :=
  match parse frame with
  -- a malformed control field is not acted on
  | .error _ => .ok (s.takeFrame frame idle)
  | .ok (apci, raw) => (s.takeFrame frame idle).onApci cfg apci raw now >>= confirmStop now

/-- t₁: an outstanding TESTFR, STARTDT or STOPDT was never confirmed. -/
def t1Confirmation (now : ℕ) (s : Session) : Bool :=
  [s.testFrSince, s.startDtSince, s.stopDtSince].any fun since =>
    since.any fun t => cfg.sendUnackTimeout1 ≤ now - t

/-- t₁: the oldest unacknowledged I-frame was never confirmed. -/
def t1Acknowledge (now : ℕ) (s : Session) : Bool :=
  s.ackNoSend ≠ s.seqNoSend && s.pending.head?.any fun p => cfg.sendUnackTimeout1 ≤ now - p.2

/-- t₂: acknowledge what was received, because t₂ elapsed or the line fell idle. -/
def t2Due (now : ℕ) (s : Session) : Bool :=
  s.ackNoRcv ≠ s.seqNoRcv &&
    ((s.unackRcvSince.any fun t => cfg.recvUnackTimeout2 ≤ now - t) ||
      TIMEOUT_RESOLUTION ≤ now - s.idleSince)

/-- t₃: the line has been idle that long, and a test frame is due. -/
def t3Due (now : ℕ) (s : Session) : Bool := cfg.idleTimeout3 ≤ now - s.idleSince

/-- The t₂ check of a tick: an S-frame is sent when the oldest frame accepted and
not acknowledged is that old. -/
def onT2 (now clock : ℕ) (s : Session) : Iter :=
  if s.t2Due cfg now then s.sendSFrame clock else .ok s

/-- The t₃ check of a tick: send a keep-alive. -/
def onT3 (now clock : ℕ) (s : Session) : Iter :=
  if s.t3Due cfg now then do
    let s ← s.txRaw (newUFrame .testFrActive) clock
    .ok { s with testFrSince := some clock, idleSince := clock }
  else .ok s

/-- The ticker branch: `now` is the instant the tick was due, `clock` the one
at which it is handled. -/
def onTick (now clock : ℕ) (s : Session) : Iter :=
  if s.t1Confirmation cfg now then .error (.t1Confirmation, s)
  else if s.t1Acknowledge cfg now then .error (.t1Acknowledge, s)
  else s.onT2 cfg now clock >>= onT3 cfg now clock

end Session

/-- A branch of `select!` becoming ready, with the instants it reads. -/
inductive Event
  | shutdown
  /-- The oldest queued ASDU. -/
  | asdu (now : ℕ)
  | ctrl (c : Ctrl) (now : ℕ)
  | frame (f : Octets) (idle now : ℕ)
  /-- The reader has ended. -/
  | eof
  | tick (now clock : ℕ)
  deriving DecidableEq, Repr

/-- The steps of a connection and its environment. -/
inductive Label
  /-- `Connection::send`. -/
  | enqueue (a : Asdu)
  /-- `Connection::demote`, called by another task. -/
  | demote
  /-- The writer task ends. -/
  | stopWriter
  /-- The dispatcher task ends. -/
  | stopDispatcher
  /-- The driver evaluates the send guard and enters `select!`. -/
  | guard
  /-- A branch fires. -/
  | select (ev : Event)
  deriving DecidableEq, Repr

namespace Session

variable (cfg : Config)

/-- The branch of `select!` for an event.  A branch that fails leaves the loop. -/
def iterate (s : Session) : Event → Iter
  | .shutdown => .error (.shutdown, s)
  | .asdu now =>
    match s.conn.queue with
    | [] => .ok s
    | asdu :: rest => { s with conn := { s.conn with queue := rest } }.onAsdu asdu now
  | .ctrl c now => s.onCtrl c now
  | .frame f idle now => s.onFrame cfg f idle now
  | .eof => .error (.peerClosed, s)
  | .tick now clock => s.onTick cfg now clock

/-- Whether an event can fire: the queue branch needs the guard and a queued
ASDU, and the clock does not run backwards. -/
def ready (maySend : Bool) (s : Session) : Event → Bool
  | .shutdown => true
  | .asdu now => maySend && !s.conn.queue.isEmpty && s.clock ≤ now
  | .ctrl _ now => s.clock ≤ now
  | .frame _ idle now => s.clock ≤ idle && idle ≤ now
  | .eof => true
  | .tick now clock => s.clock ≤ clock && now ≤ clock

/-- The last instant a branch reads. -/
def lastReading (s : Session) : Event → ℕ
  | .shutdown => s.clock
  | .asdu now => now
  | .ctrl _ now => now
  | .frame _ _ now => now
  | .eof => s.clock
  | .tick _ clock => clock

/-- Leaving the loop: the handle is marked closed and stopped, and the driver's
variables go out of scope. -/
def teardown (why : Reason) (s : Session) : Session :=
  { s with
    toDriver := .init s.clock
    conn := { s.conn with connected := false, active := false }
    phase := .closed why }

/-- The end of a branch: back to the top of the loop, or out of it and the
connection torn down. -/
def finish : Iter → Session
  | .ok s => { s with phase := .top }
  | .error (why, s) => s.teardown why

/-- One step, of the driver or of another task.  The driver takes two steps in
each round: the guard, then the branch. -/
def next (s : Session) : Label → Option Session
  | .enqueue a =>
    match s.conn.tryEnqueue a with
    | .ok conn => some { s with conn }
    | .error _ => some s
  | .demote => some ({ s with conn := s.conn.demote }.note .demoted)
  | .stopWriter => some { s with writerUp := false }
  | .stopDispatcher => some { s with dispatcherUp := false }
  | .guard =>
    match s.phase with
    | .top => some { s with phase := .waiting (s.maySend cfg) }
    | _ => none
  | .select ev =>
    match s.phase with
    | .waiting maySend =>
      if s.ready maySend ev then
        some (finish ({ s with clock := s.lastReading ev }.iterate cfg ev))
      else none
    | _ => none

/-- The runs of `run` for one connection, interleaved with what other tasks do to
its handle. -/
def machine (params : Params) (role : Role) (start : ℕ) : Machine Session Label where
  init := init cfg params role start
  next := next cfg

/-- A spontaneous single-point indication, for concrete runs. -/
def indication (ioa : UInt8) : Asdu where
  params := paramsWide
  identifier := .new .M_SP_NA_1 .single (.new .SPONTANEOUS) 1
  infoObj := [ioa, 0, 0, 1]

/-- Start a controlled station, queue an indication and transmit it. -/
def startAndSend : List Label :=
  [.enqueue (indication 1), .guard, .select (.frame (newUFrame .startDtActive) 0 0),
    .guard, .select (.asdu 1)]

/-- The driver is in its loop: the connection has not been torn down, for whatever
reason. -/
def Open (s : Session) : Prop := ∀ why, s.phase ≠ .closed why

theorem open_of_top {s : Session} (h : s.phase = .top) : s.Open := by
  intro why hclosed
  rw [h] at hclosed
  cases hclosed

theorem open_of_waiting {s : Session} {g : Bool} (h : s.phase = .waiting g) : s.Open := by
  intro why hclosed
  rw [h] at hclosed
  cases hclosed

end Session

end Cs104
end Iec60870
