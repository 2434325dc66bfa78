import Iec60870.Cs101.Frame

/-!
# The transactions of a primary station

The primaries of 101 and 103 handle a transaction alike: send a frame and wait
for the answer, repeat it, complete or abort it.  What they share is written once
here, over the type `α` of station addresses and the type `A` of ASDUs; a
`Profile` holds what each does its own way.

The map from addresses to stations has the members of `order` as its keys and
never gains or loses one, so it is a function that is only consulted there.  The
queue the application appends to, which the source keeps behind a lock, is part of
the state.  `log` records what has happened, oldest first.

## Main definitions

* `Primary` — the state a primary keeps about its transactions.
* `sendPrimConfirmed`, `trySendQueued` — begin a transaction.
* `confirmPositive`, `failTransaction`, `onT1Timeout` — end or repeat it.
* `handleSecondary` — a frame of a secondary station.
-/

namespace Iec60870
namespace Cs101

open PrimFc

/-- Where a station is in the link initialization procedure. -/
inductive Phase
  /-- Request status of link is due. -/
  | status
  /-- Reset of remote link is due. -/
  | reset
  /-- The link layer is active and carrying data. -/
  | active
  deriving DecidableEq, Repr

/-- Per-station link state kept by the primary: how far its initialization is, the
bit that is due, and what its last response announced. -/
structure Secondary where
  phase : Phase
  /-- FCB of the next FCV frame sent to this station. -/
  fcb : Bool
  /-- A response set ACD: a class 1 request is due. -/
  wantClass1 : Bool
  /-- The last response set DFC: no user data until it is cleared. -/
  busy : Bool
  deriving DecidableEq, Repr

/-- A station before anything has been heard of it. -/
def Secondary.init : Secondary where
  phase := .status
  fcb := false
  wantClass1 := false
  busy := false

/-- A confirmed frame awaiting an acknowledgement, kept with its control field and
its station for repetition. -/
structure Pending (α : Type) where
  frame : Frame
  ctrl : ControlField
  addr : α
  deriving DecidableEq, Repr

/-- One ASDU queued for a specific station.  The queue is one for all stations. -/
structure Outgoing (α A : Type) where
  asdu : A
  addr : α
  deriving DecidableEq, Repr

/-- What a positive confirmation completed: the function confirmed, and the
station it made active. -/
structure Confirmed (α : Type) where
  /-- Function code of the primary frame that was confirmed. -/
  func : UInt8
  /-- The station whose link it activated, when it was a link reset. -/
  becameActive : Option α
  deriving DecidableEq, Repr

/-- What handling one received frame produced, for the protocol loop to act upon. -/
structure FrameOutcome (α : Type) where
  /-- Stations whose link just became active. -/
  newlyActive : List α := []
  /-- The frame carries user data that is new and belongs to the application. -/
  deliver : Bool := false
  deriving DecidableEq, Repr

/-- What the history of a primary records: what the application queued, each
transaction from its first transmission to its end, and what was delivered. -/
inductive Obs (α A : Type)
  /-- The application queued an ASDU. -/
  | queued (out : Outgoing α A)
  /-- A transaction was begun: the first transmission of its frame. -/
  | began (p : Pending α) (raw : Octets)
  /-- Its frame was repeated. -/
  | repeated (p : Pending α) (raw : Octets)
  /-- It was completed positively. -/
  | completed (p : Pending α)
  /-- The station refused it. -/
  | failed (p : Pending α)
  /-- It went unanswered after the repetitions. -/
  | gaveUp (p : Pending α)
  /-- The application asked for a reset of the link. -/
  | resetAsked (addr : α)
  /-- A response of this station's secondary role. -/
  | replied (frame : Frame) (raw : Octets)
  /-- User data of a station reported for delivery. -/
  | delivered (addr : α) (asdu : Octets)
  deriving DecidableEq, Repr

/-- What the primaries of 101 and 103 do differently with a transaction. -/
structure Profile (α A : Type) where
  /-- The link address of the frames to a station. -/
  linkAddr : α → UInt16
  /-- Octets of a link address. -/
  addrSize : UInt8
  /-- The direction bit of this station's frames. -/
  dir : Bool
  /-- The function codes whose confirmation activates a link. -/
  resets : List UInt8
  /-- Access demand is met at once: the primary polls. -/
  polls : Bool
  /-- The octets of an ASDU. -/
  marshal : A → Except Error Octets
  t1 : ℕ
  t2 : ℕ
  maxRepetitions : UInt8

/-- The state a primary keeps about its transactions. -/
structure Primary (α A : Type) where
  /-- The stations by address. -/
  secs : α → Secondary
  /-- The addresses in polling order. -/
  order : List α
  pollIdx : ℕ
  lastSent : Option (Pending α)
  retryCount : ℕ
  t1At : Option ℕ
  /-- What the application has queued, oldest first. -/
  queue : List (Outgoing α A)
  /-- The channel to the writer is open. -/
  outOpen : Bool
  log : List (Obs α A)

/-- `LinkState::new`: nothing known about any station, so the status of each has
to be asked first. -/
def Primary.new {α A : Type} (order : List α) : Primary α A where
  secs := fun _ => .init
  order := order
  pollIdx := 0
  lastSent := none
  retryCount := 0
  t1At := none
  queue := []
  outOpen := true
  log := []

namespace Primary

variable {α A : Type} [DecidableEq α] (prof : Profile α A) (s : Primary α A)

/-- `secs.get_mut`: change what is known about a station. -/
def modify (addr : α) (f : Secondary → Secondary) : Primary α A :=
  { s with secs := Function.update s.secs addr (f (s.secs addr)) }

/-- `LinkState::write`: the octets handed to the writer, if they can be. -/
def write (frame : Frame) : Option Octets :=
  match frame.marshal prof.addrSize with
  | .ok raw => if s.outOpen then some raw else none
  | .error _ => none

/-- Write a frame, remember it and arm the t₁ response timer. -/
def transmit (p : Pending α) (now : ℕ) : Bool × Primary α A :=
  match s.write prof p.frame with
  | none => (false, s)
  | some raw => (true, { s with
      lastSent := some p
      retryCount := 0
      t1At := some (now + prof.t1)
      log := s.log ++ [.began p raw] })

/-- The fixed-length request `send_prim_confirmed` writes: the FCB is the one that
is due at the station. -/
def request (addr : α) (func : UInt8) (fcv : Bool) : Pending α :=
  let ctrl := ControlField.primary func fcv (s.secs addr).fcb prof.dir
  ⟨.fixed ctrl (prof.linkAddr addr), ctrl, addr⟩

/-- `LinkState::send_prim_confirmed`: begin a transaction without user data, and
say whether the frame was written. -/
def sendPrimConfirmed (addr : α) (func : UInt8) (fcv : Bool) (now : ℕ) : Bool × Primary α A :=
  s.transmit prof (s.request prof addr func fcv) now

/-- What a positive confirmation changes about the station: the FCB toggles, a
reset activates the link, a status response moves on to the reset. -/
def confirmStation (ctrl : ControlField) (sec : Secondary) : Secondary :=
  let sec := if ctrl.fcv then { sec with fcb := !ctrl.fcb } else sec
  if ctrl.func ∈ prof.resets then { sec with phase := .active, fcb := true }
  else if ctrl.func = REQ_STATUS then
    if sec.phase = .status then { sec with phase := .reset } else sec
  else if ctrl.func = REQ_DATA1 then { sec with wantClass1 := false }
  else sec

/-- The outstanding transaction `p` ends with a positive confirmation. -/
def complete (p : Pending α) : Primary α A :=
  { s.modify p.addr (confirmStation prof p.ctrl) with
    lastSent := none
    retryCount := 0
    t1At := none
    log := s.log ++ [.completed p] }

/-- `LinkState::confirm_positive`: complete the outstanding transaction if it is
the sender's.  A single-character acknowledgement carries no address. -/
def confirmPositive (sender : Option α) : Option (Confirmed α) × Primary α A :=
  match s.lastSent with
  | none => (none, s)
  | some p =>
    if sender.any (p.addr ≠ ·) then (none, s)
    else (some ⟨p.ctrl.func, if p.ctrl.func ∈ prof.resets then some p.addr else none⟩,
      s.complete prof p)

/-- The station is sent back to the start of the initialization procedure. -/
def restartStation (sec : Secondary) : Secondary :=
  { sec with phase := .status, wantClass1 := false, busy := false }

/-- The outstanding transaction `p` ends without a confirmation, recorded as `o`. -/
def abort (p : Pending α) (o : Obs α A) : Primary α A :=
  { s.modify p.addr restartStation with
    lastSent := none
    retryCount := 0
    t1At := none
    log := s.log ++ [o] }

/-- `LinkState::fail_transaction`: the outstanding transaction is given up if it
is with that station. -/
def failTransaction (addr : α) : Primary α A :=
  match s.lastSent with
  | none => s
  | some p => if p.addr ≠ addr then s else s.abort p (.failed p)

/-- `LinkState::on_t1_timeout`: repeat the outstanding frame, or give up on the
station.  An error ends the link. -/
def onT1Timeout (now : ℕ) : Except Error (Primary α A) :=
  match s.lastSent with
  | none => .ok { s with t1At := none }
  | some p =>
    if s.retryCount < prof.maxRepetitions.toNat then
      match s.write prof p.frame with
      | none => .error .useClosedConnection
      | some raw => .ok { s with
          retryCount := s.retryCount + 1
          t1At := some (now + prof.t2)
          log := s.log ++ [.repeated p raw] }
    else if s.order.length = 1 then .error .timeoutT1
    else .ok (s.abort p (.gaveUp p))

/-! ### Sending queued user data -/

/-- The search of `try_send_queued`: the first queued ASDU whose station is active
and not busy, and the queue without it.  What is queued for an unknown station is
dropped on the way. -/
def takeQueued : List (Outgoing α A) → Option (Outgoing α A) × List (Outgoing α A)
  | [] => (none, [])
  | out :: queue =>
    if out.addr ∉ s.order then takeQueued queue
    else if (s.secs out.addr).phase = .active ∧ (s.secs out.addr).busy = false then
      (some out, queue)
    else
      let (found, rest) := takeQueued queue
      (found, out :: rest)

/-- The frame that carries `raw` to a station as confirmed user data. -/
def userData (addr : α) (raw : Octets) : Pending α :=
  let ctrl := ControlField.primary USER_DATA_CONF true (s.secs addr).fcb prof.dir
  ⟨.variable' ctrl (prof.linkAddr addr) raw, ctrl, addr⟩

/-- `LinkState::try_send_queued`: transmit the first queued ASDU whose station is
active.  An ASDU that cannot be encoded is dropped. -/
def trySendQueued (now : ℕ) : Bool × Primary α A :=
  match s.takeQueued s.queue with
  | (none, queue) => (false, { s with queue })
  | (some out, queue) =>
    match prof.marshal out.asdu with
    | .error _ => (false, { s with queue })
    | .ok raw => { s with queue }.transmit prof (s.userData prof out.addr raw) now

/-- The application queues an ASDU for a station. -/
def push (out : Outgoing α A) : Primary α A :=
  { s with queue := s.queue ++ [out], log := s.log ++ [.queued out] }

/-- `LinkState::first_active`: the first active station in the configured order. -/
def firstActive : Option α := s.order.find? fun a => (s.secs a).phase = .active

/-- The application's reset request sends the station back to the reset phase. -/
def askReset (addr : α) : Primary α A :=
  { s.modify addr fun sec => { sec with phase := .reset } with
    log := s.log ++ [.resetAsked addr] }

/-! ### Receiving -/

/-- Complete the outstanding transaction of the sender, if there is one. -/
def confirm (sender : Option α) : FrameOutcome α × Primary α A :=
  match s.confirmPositive prof sender with
  | (none, s) => ({}, s)
  | (some c, s) => ({ newlyActive := c.becameActive.toList }, s)

/-- Complete the outstanding transaction of `addr` with the user data `raw`, which
is delivered if the transaction is a class 1 or class 2 request. -/
def confirmData (addr : α) (raw : Octets) : FrameOutcome α × Primary α A :=
  match s.confirmPositive prof (some addr) with
  | (none, s) => ({}, s)
  | (some c, s) =>
    if c.func = REQ_DATA1 ∨ c.func = REQ_DATA2 then
      ({ newlyActive := c.becameActive.toList, deliver := true },
        { s with log := s.log ++ [.delivered addr raw] })
    else ({ newlyActive := c.becameActive.toList }, s)

/-- The match of `handle_frame` on a frame of a secondary station. -/
def answer (frame : Frame) (ctrl : ControlField) (addr : α) : FrameOutcome α × Primary α A :=
  match frame with
  | .singleCharAck => ({}, s)
  | .fixed _ _ =>
    if ctrl.func = SecFc.CONF_ACK then s.confirm prof (some addr)
    -- link busy: the frame stays outstanding, t₁ will repeat it
    else if ctrl.func = SecFc.CONF_NACK then ({}, s)
    else if ctrl.func = SecFc.USER_DATA_NO_REP then s.confirm prof (some addr)
    else if ctrl.func = SecFc.RESP_STATUS then s.confirm prof (some addr)
    else if ctrl.func = SecFc.RESP_LINK_NF ∨ ctrl.func = SecFc.RESP_LINK_NI then
      ({}, s.failTransaction addr)
    else ({}, s)
  | .variable' _ _ raw =>
    if ctrl.func = SecFc.USER_DATA_CONF then s.confirmData prof addr raw
    else if ctrl.func = SecFc.RESP_STATUS ∨ ctrl.func = SecFc.USER_DATA_NO_REP then
      s.confirm prof (some addr)
    else ({}, s)

/-- The end of `handle_frame`: access demand asks for class 1 data, at once if the
link just went idle. -/
def accessDemand (ctrl : ControlField) (addr : α) (now : ℕ) : Primary α A :=
  if ctrl.acd ∧ prof.polls ∧ addr ∈ s.order then
    let s := s.modify addr fun sec => { sec with wantClass1 := true }
    if (s.secs addr).phase = .active ∧ s.lastSent = none then
      (s.sendPrimConfirmed prof addr REQ_DATA1 true now).2
    else s
  else s

/-- What `handle_frame` does with a frame of a secondary station: note its DFC,
match it with the outstanding transaction, meet an access demand. -/
def handleSecondary (frame : Frame) (ctrl : ControlField) (addr : α) (now : ℕ) :
    FrameOutcome α × Primary α A :=
  let s := s.modify addr fun sec => { sec with busy := ctrl.dfc }
  let (out, s) := s.answer prof frame ctrl addr
  (out, s.accessDemand prof ctrl addr now)

end Primary

end Cs101
end Iec60870
