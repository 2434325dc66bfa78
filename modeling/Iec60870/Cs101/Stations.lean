import Iec60870.Cs101.Ring

/-!
# The map of the stations

`LinkState` keeps its stations in a map, and indexes it at addresses it takes to be
keys: a missing key would end the task in a panic.  Here the 101 primary is written
over a partial map, every lookup as the source makes it, with `none` for a panic.
The primary over a total function is this one, so every fact about its runs is one
about the runs of this one, and no lookup fails.

## Main definitions

* `StationMap` — the state of the protocol task with its map.
* `StationMap.ofState` — the map whose keys are the configured addresses.
* `StationMap.step` — one step of `run_link`; `none` is a panic.

## Main results

* `StationMap.step_ofState` — **every step is the one over a total function.**
* `StationMap.supervised` — **no lookup fails, and every transaction is supervised
  and bounded.**
-/

namespace Iec60870
namespace Cs101

open PrimFc

/-- `LinkState` with its map from addresses to stations. -/
structure StationMap where
  secs : UInt16 → Option Secondary
  order : List UInt16
  pollIdx : ℕ
  lastSent : Option (Pending UInt16)
  retryCount : ℕ
  fcbExpected : Bool
  t1At : Option ℕ
  queue : List (Outgoing UInt16 Asdu)
  outOpen : Bool
  log : List (Obs UInt16 Asdu)

namespace StationMap

variable (o : ClientOption) (t : StationMap)

/-- `LinkState::new`. -/
def new : StationMap where
  secs a := if a ∈ o.addresses then some .init else none
  order := o.addresses
  pollIdx := 0
  lastSent := none
  retryCount := 0
  fcbExpected := true
  t1At := none
  queue := []
  outOpen := true
  log := []

/-- `if let Some(sec) = secs.get_mut(..)`: nothing happens without the key. -/
def getMut (addr : UInt16) (f : Secondary → Secondary) : StationMap :=
  { t with secs := Function.update t.secs addr ((t.secs addr).map f) }

/-- `LinkState::any_active`, over the stations `as`. -/
def anyActive : List UInt16 → Option Bool
  | [] => some false
  | a :: as => do
    let sec ← t.secs a
    if sec.phase = .active then return true else anyActive as

/-- `LinkState::first_active`, over the stations `as`. -/
def firstActive : List UInt16 → Option (Option UInt16)
  | [] => some none
  | a :: as => do
    let sec ← t.secs a
    if sec.phase = .active then return some a else firstActive as

/-- `LinkState::write`: the octets of the frame, unless it cannot be encoded or
the line is closed. -/
def write (frame : Frame) : Option Octets :=
  match frame.marshal o.profile.addrSize with
  | .ok raw => if t.outOpen then some raw else none
  | .error _ => none

/-- Write a frame, remember it and arm the t₁ response timer. -/
def transmit (p : Pending UInt16) (now : ℕ) : Bool × StationMap :=
  match t.write o p.frame with
  | none => (false, t)
  | some raw => (true, { t with
      lastSent := some p
      retryCount := 0
      t1At := some (now + o.config.timeoutResponseT1)
      log := t.log ++ [.began p raw] })

/-- `LinkState::send_prim_confirmed`, which looks the station up for its FCB. -/
def sendPrimConfirmed (addr : UInt16) (func : UInt8) (fcv : Bool) (now : ℕ) : Option StationMap := do
  let sec ← t.secs addr
  let ctrl := ControlField.primary func fcv sec.fcb o.config.isBalanced
  return (t.transmit o ⟨.fixed ctrl addr, ctrl, addr⟩ now).2

/-- `LinkState::send_sec_fixed`. -/
def sendSecFixed (func : UInt8) (addr : UInt16) : StationMap :=
  let frame :=
    if func = SecFc.CONF_ACK ∧ o.config.useSingleCharAck then .singleCharAck
    else .fixed (.secondary func false o.config.isBalanced) addr
  match t.write o frame with
  | none => t
  | some raw => { t with log := t.log ++ [.replied frame raw] }

/-- `LinkState::confirm_positive`: the lookup uses `get_mut`, and a missing
station is left out. -/
def confirmPositive (sender : Option UInt16) : Option (Confirmed UInt16) × StationMap :=
  match t.lastSent with
  | none => (none, t)
  | some p =>
    if sender.any (p.addr ≠ ·) then (none, t)
    else
      (some ⟨p.ctrl.func, if p.ctrl.func = RESET_LINK then some p.addr else none⟩,
        { t.getMut p.addr (Primary.confirmStation o.profile p.ctrl) with
          lastSent := none
          retryCount := 0
          t1At := none
          log := t.log ++ [.completed p] })

/-- The outstanding transaction `p` ends without a confirmation. -/
def abort (p : Pending UInt16) (x : Obs UInt16 Asdu) : StationMap :=
  { t.getMut p.addr Primary.restartStation with
    lastSent := none
    retryCount := 0
    t1At := none
    log := t.log ++ [x] }

/-- `LinkState::fail_transaction`. -/
def failTransaction (addr : UInt16) : StationMap :=
  match t.lastSent with
  | none => t
  | some p => if p.addr ≠ addr then t else t.abort p (.failed p)

/-- What `handle_peer_primary_frame` does with a frame that is not a repetition. -/
def servePeer (ctrl : ControlField) (addr : UInt16) : Bool × StationMap :=
  if ctrl.func = RESET_LINK then
    (false, { t with fcbExpected := true }.sendSecFixed o SecFc.CONF_ACK addr)
  else if ctrl.func = RESET_USER ∨ ctrl.func = TEST_LINK then
    (false, t.sendSecFixed o SecFc.CONF_ACK addr)
  else if ctrl.func = USER_DATA_CONF then (true, t.sendSecFixed o SecFc.CONF_ACK addr)
  else if ctrl.func = USER_DATA_NO_CONF then (true, t)
  else if ctrl.func = REQ_STATUS then (false, t.sendSecFixed o SecFc.RESP_STATUS addr)
  else (false, t.sendSecFixed o SecFc.RESP_LINK_NI addr)

/-- `LinkState::handle_peer_primary_frame`. -/
def handlePeerPrimaryFrame (ctrl : ControlField) (addr : UInt16) : Bool × StationMap :=
  if (fcvRequired ctrl.func).any (· ≠ ctrl.fcv) then (false, t)
  else if ctrl.fcv then
    if ctrl.fcb ≠ t.fcbExpected then (false, t.sendSecFixed o SecFc.CONF_ACK addr)
    else { t with fcbExpected := !t.fcbExpected }.servePeer o ctrl addr
  else t.servePeer o ctrl addr

/-- User data of the peer is reported for delivery. -/
def report (frame : Frame) (addr : UInt16) : StationMap :=
  match frame.asdu with
  | some raw => { t with log := t.log ++ [.delivered addr raw] }
  | none => t

/-- Complete the outstanding transaction of the sender, if there is one. -/
def confirm (sender : Option UInt16) : FrameOutcome UInt16 × StationMap :=
  match t.confirmPositive o sender with
  | (none, t) => ({}, t)
  | (some c, t) => ({ newlyActive := c.becameActive.toList }, t)

/-- Complete the outstanding transaction of `addr` with the user data `raw`. -/
def confirmData (addr : UInt16) (raw : Octets) : FrameOutcome UInt16 × StationMap :=
  match t.confirmPositive o (some addr) with
  | (none, t) => ({}, t)
  | (some c, t) =>
    if c.func = REQ_DATA1 ∨ c.func = REQ_DATA2 then
      ({ newlyActive := c.becameActive.toList, deliver := true },
        { t with log := t.log ++ [.delivered addr raw] })
    else ({ newlyActive := c.becameActive.toList }, t)

/-- The match of `handle_frame` on a frame of a secondary station. -/
def answer (frame : Frame) (ctrl : ControlField) (addr : UInt16) :
    FrameOutcome UInt16 × StationMap :=
  match frame with
  | .singleCharAck => ({}, t)
  | .fixed _ _ =>
    if ctrl.func = SecFc.CONF_ACK then t.confirm o (some addr)
    else if ctrl.func = SecFc.CONF_NACK then ({}, t)
    else if ctrl.func = SecFc.USER_DATA_NO_REP then t.confirm o (some addr)
    else if ctrl.func = SecFc.RESP_STATUS then t.confirm o (some addr)
    else if ctrl.func = SecFc.RESP_LINK_NF ∨ ctrl.func = SecFc.RESP_LINK_NI then
      ({}, t.failTransaction addr)
    else ({}, t)
  | .variable' _ _ raw =>
    if ctrl.func = SecFc.USER_DATA_CONF then t.confirmData o addr raw
    else if ctrl.func = SecFc.RESP_STATUS ∨ ctrl.func = SecFc.USER_DATA_NO_REP then
      t.confirm o (some addr)
    else ({}, t)

/-- The end of `handle_frame`: ACD asks for a class 1 request, made at once when
the line is free. -/
def accessDemand (ctrl : ControlField) (addr : UInt16) (now : ℕ) : Option StationMap :=
  if ctrl.acd ∧ !o.config.isBalanced ∧ (t.secs addr).isSome then do
    -- `get_mut(..).expect("checked")`
    let sec ← t.secs addr
    let t := t.getMut addr fun sec => { sec with wantClass1 := true }
    if sec.phase = .active ∧ t.lastSent = none then
      t.sendPrimConfirmed o addr REQ_DATA1 true now
    else return t
  else return t

/-- `LinkState::handle_frame` on a frame with a control field and an address. -/
def handleAddressed (frame : Frame) (ctrl : ControlField) (addr : UInt16) (now : ℕ) :
    Option (FrameOutcome UInt16 × StationMap) :=
  if o.config.linkAddrSize > 0 ∧ t.secs addr = none then return ({}, t)
  else if ctrl.prm then
    if o.config.isBalanced then
      let (deliver, t) := t.handlePeerPrimaryFrame o ctrl addr
      return ({ deliver }, if deliver then t.report frame addr else t)
    else return ({}, t)
  else do
    let t := t.getMut addr fun sec => { sec with busy := ctrl.dfc }
    let (out, t) := t.answer o frame ctrl addr
    let t ← t.accessDemand o ctrl addr now
    return (out, t)

/-- `LinkState::handle_frame`. -/
def handleFrame (frame : Frame) (now : ℕ) : Option (FrameOutcome UInt16 × StationMap) :=
  match frame with
  | .singleCharAck => some (t.confirm o none)
  | .fixed ctrl addr => t.handleAddressed o frame ctrl addr now
  | .variable' ctrl addr _ => t.handleAddressed o frame ctrl addr now

/-- The search of `try_send_queued`: the first ASDU whose station can take it;
those of stations that are not served are dropped on the way. -/
def takeQueued : List (Outgoing UInt16 Asdu) →
    Option (Outgoing UInt16 Asdu) × List (Outgoing UInt16 Asdu)
  | [] => (none, [])
  | out :: queue =>
    match t.secs out.addr with
    | none => takeQueued queue
    | some sec =>
      if sec.phase = .active ∧ sec.busy = false then (some out, queue)
      else
        let (found, rest) := takeQueued queue
        (found, out :: rest)

/-- `LinkState::try_send_queued`: the ASDU that was taken is begun as a
transaction, or dropped if it cannot be encoded. -/
def trySendQueued (now : ℕ) : Option (Bool × StationMap) :=
  match t.takeQueued t.queue with
  | (none, queue) => some (false, { t with queue })
  | (some out, queue) =>
    match out.asdu.marshalBinary with
    | .error _ => some (false, { t with queue })
    | .ok raw => do
      let sec ← t.secs out.addr
      let ctrl := ControlField.primary USER_DATA_CONF true sec.fcb o.config.isBalanced
      return { t with queue }.transmit o ⟨.variable' ctrl out.addr raw, ctrl, out.addr⟩ now

/-- The round-robin loop of `tick`, with the number of stations still to look at. -/
def poll (now : ℕ) : ℕ → StationMap → Option StationMap
  | 0, t => some t
  | n + 1, t => do
    let addr ← t.order[t.pollIdx]?
    let t := { t with pollIdx := (t.pollIdx + 1) % t.order.length }
    let sec ← t.secs addr
    match sec.phase with
    | .status => t.sendPrimConfirmed o addr REQ_STATUS false now
    | .reset => t.sendPrimConfirmed o addr RESET_LINK false now
    | .active =>
      if o.config.isBalanced then poll now n t
      else
        let sec ← t.secs addr
        t.sendPrimConfirmed o addr (if sec.wantClass1 then REQ_DATA1 else REQ_DATA2) true now

/-- `LinkState::tick`: what is queued goes before polling, and nothing happens
while a transaction is outstanding. -/
def tick (now : ℕ) : Option StationMap :=
  if t.lastSent.isSome then some t
  else do
    let (sent, t) ← t.trySendQueued o now
    if sent then return t
    t.poll o now t.order.length

/-- `LinkState::on_t3_timeout`: the first active station is tested after a time of
silence. -/
def onT3Timeout (now : ℕ) : Option StationMap :=
  if t.lastSent.isSome then some t
  else do
    match ← t.firstActive t.order with
    | none => return t
    | some addr => t.sendPrimConfirmed o addr TEST_LINK true now

/-- `LinkState::handle_link_request`, which looks the default station up before it
is indexed. -/
def handleLinkRequest (func : UInt8) (now : ℕ) : Option StationMap :=
  let addr := o.defaultAddr
  if t.lastSent.isSome then some t
  else if t.secs addr = none then some t
  else if func = RESET_LINK then
    let t : StationMap := { t.getMut addr fun sec => { sec with phase := .reset } with
      log := t.log ++ [.resetAsked addr] }
    t.sendPrimConfirmed o addr RESET_LINK false now
  else if func = REQ_STATUS then t.sendPrimConfirmed o addr REQ_STATUS false now
  else if func = REQ_DATA2 then do
    let sec ← t.secs addr
    if sec.phase = .active ∧ ¬o.config.isBalanced then
      t.sendPrimConfirmed o addr REQ_DATA2 true now
    else return t
  else some t

/-- `LinkState::on_t1_timeout`: it looks no station up but to change it. -/
def onT1Timeout (now : ℕ) : Except Error StationMap :=
  match t.lastSent with
  | none => .ok { t with t1At := none }
  | some p =>
    if t.retryCount < o.config.maxRepetitions.toNat then
      match t.write o p.frame with
      | none => .error .useClosedConnection
      | some raw => .ok { t with
          retryCount := t.retryCount + 1
          t1At := some (now + o.config.timeoutRepeatT2)
          log := t.log ++ [.repeated p raw] }
    else if t.order.length = 1 then .error .timeoutT1
    else .ok (t.abort p (.gaveUp p))

/-- `Client::send_to`. -/
def sendTo (asdu : Asdu) (addr : UInt16) : Except Error StationMap :=
  if t.queue.length ≥ o.config.maxSendQueueSize then .error .sendQueueFull
  else .ok { t with
    queue := t.queue ++ [⟨asdu, addr⟩]
    log := t.log ++ [.queued ⟨asdu, addr⟩] }

/-- One step of `run_link`: `none` is a panic, `some none` an event that does not
arise or ends the link.  Received frames and expired timers publish whether a link is
active. -/
def step : LinkState.Event → Option (Option StationMap)
  | .frame f now => do
    let (_, t) ← t.handleFrame o f now
    let _ ← t.anyActive t.order
    return some t
  | .linkRequest func now => (t.handleLinkRequest o func now).map some
  | .t1 now =>
    if t.t1At.any (· ≤ now) then
      match t.onT1Timeout o now with
      | .error _ => some none
      | .ok t => (t.anyActive t.order).map fun _ => some t
    else some none
  | .t3 now => (t.onT3Timeout o now).map some
  | .tick now => (t.tick o now).map some
  | .send asdu addr => some (t.sendTo o asdu addr).toOption
  | .outClosed => some (some { t with outOpen := false })

/-- The runs of `run_link` from a freshly opened line. -/
def machine : Machine StationMap LinkState.Event where
  init := new o
  next t e := (t.step o e).join

/-! ### The primary over a total function -/

variable {o : ClientOption} {s : LinkState}

/-- The map whose keys are the stations in polling order. -/
def ofState (s : LinkState) : StationMap where
  secs a := if a ∈ s.order then some (s.secs a) else none
  order := s.order
  pollIdx := s.pollIdx
  lastSent := s.lastSent
  retryCount := s.retryCount
  fcbExpected := s.fcbExpected
  t1At := s.t1At
  queue := s.queue
  outOpen := s.outOpen
  log := s.log

theorem secs_ofState {a : UInt16} (h : a ∈ s.order) : (ofState s).secs a = some (s.secs a) :=
  if_pos h

theorem secs_ofState_eq_none {a : UInt16} : (ofState s).secs a = none ↔ a ∉ s.order := by
  show (if a ∈ s.order then some (s.secs a) else none) = none ↔ _
  by_cases h : a ∈ s.order
  · rw [if_pos h]
    exact iff_of_false (by simp) (not_not.mpr h)
  · rw [if_neg h]
    exact iff_of_true rfl h

theorem getMut_ofState (addr : UInt16) (f : Secondary → Secondary) :
    (ofState s).getMut addr f = ofState { s with toPrimary := s.modify addr f } := by
  have hsecs : Function.update (ofState s).secs addr (((ofState s).secs addr).map f) =
      fun a => if a ∈ s.order then some (Function.update s.secs addr (f (s.secs addr)) a)
        else none := by
    funext a
    by_cases ha : a = addr
    · subst ha
      rw [Function.update_self, Function.update_self]
      by_cases hmem : a ∈ s.order
      · rw [secs_ofState hmem, if_pos hmem, Option.map_some]
      · rw [secs_ofState_eq_none.mpr hmem, if_neg hmem, Option.map_none]
    · rw [Function.update_of_ne ha, Function.update_of_ne ha]
      rfl
  unfold getMut
  rw [hsecs]
  rfl

theorem transmit_ofState (p : Pending UInt16) (now : ℕ) :
    (ofState s).transmit o p now =
      ((s.transmit o.profile p now).1,
        ofState { s with toPrimary := (s.transmit o.profile p now).2 }) := by
  have hwrite : (ofState s).write o p.frame = s.toPrimary.write o.profile p.frame := rfl
  unfold transmit Primary.transmit
  rw [hwrite]
  cases s.toPrimary.write o.profile p.frame with
  | none => rfl
  | some raw => rfl

theorem sendPrimConfirmed_ofState {addr : UInt16} (h : addr ∈ s.order) (func : UInt8)
    (fcv : Bool) (now : ℕ) :
    (ofState s).sendPrimConfirmed o addr func fcv now =
      some (ofState (s.sendPrimConfirmed o addr func fcv now)) := by
  unfold sendPrimConfirmed
  rw [secs_ofState h]
  show some ((ofState s).transmit o _ now).2 = _
  rw [transmit_ofState]
  rfl

theorem anyActive_ofState {as : List UInt16} (h : ∀ a ∈ as, a ∈ s.order) :
    ((ofState s).anyActive as).isSome := by
  induction as with
  | nil => rfl
  | cons a as ih =>
    rw [anyActive, secs_ofState (h a List.mem_cons_self)]
    show (if _ then _ else _ : Option Bool).isSome
    split
    · rfl
    · exact ih fun b hb => h b (List.mem_cons_of_mem a hb)

theorem firstActive_ofState {as : List UInt16} (h : ∀ a ∈ as, a ∈ s.order) :
    (ofState s).firstActive as = some (as.find? fun a => (s.secs a).phase = .active) := by
  induction as with
  | nil => rfl
  | cons a as ih =>
    rw [firstActive, secs_ofState (h a List.mem_cons_self), List.find?_cons]
    show (if _ then _ else _ : Option (Option UInt16)) = _
    by_cases hact : (s.secs a).phase = .active
    · rw [if_pos hact, decide_eq_true hact]
      rfl
    · rw [if_neg hact, decide_eq_false hact]
      exact ih fun b hb => h b (List.mem_cons_of_mem a hb)

theorem confirmPositive_ofState (sender : Option UInt16) :
    (ofState s).confirmPositive o sender =
      ((s.toPrimary.confirmPositive o.profile sender).1,
        ofState { s with toPrimary := (s.toPrimary.confirmPositive o.profile sender).2 }) := by
  have hlast : (ofState s).lastSent = s.lastSent := rfl
  unfold confirmPositive Primary.confirmPositive
  rw [hlast]
  cases s.lastSent with
  | none => rfl
  | some p =>
    simp only [LinkState.mem_resets, getMut_ofState]
    split_ifs <;> rfl

theorem abort_ofState (p : Pending UInt16) (x : Obs UInt16 Asdu) :
    (ofState s).abort p x = ofState { s with toPrimary := s.toPrimary.abort p x } := by
  unfold abort
  rw [getMut_ofState]
  rfl

theorem failTransaction_ofState (addr : UInt16) :
    (ofState s).failTransaction addr =
      ofState { s with toPrimary := s.toPrimary.failTransaction addr } := by
  have hlast : (ofState s).lastSent = s.lastSent := rfl
  unfold failTransaction Primary.failTransaction
  rw [hlast]
  cases s.lastSent with
  | none => rfl
  | some p =>
    dsimp only
    split_ifs with haddr
    · rfl
    · exact abort_ofState p _

theorem confirm_ofState (sender : Option UInt16) :
    (ofState s).confirm o sender =
      ((s.toPrimary.confirm o.profile sender).1,
        ofState { s with toPrimary := (s.toPrimary.confirm o.profile sender).2 }) := by
  unfold confirm Primary.confirm
  rw [confirmPositive_ofState]
  rcases s.toPrimary.confirmPositive o.profile sender with ⟨_ | c, p⟩ <;> rfl

theorem confirmData_ofState (addr : UInt16) (raw : Octets) :
    (ofState s).confirmData o addr raw =
      ((s.toPrimary.confirmData o.profile addr raw).1,
        ofState { s with toPrimary := (s.toPrimary.confirmData o.profile addr raw).2 }) := by
  unfold confirmData Primary.confirmData
  rw [confirmPositive_ofState]
  rcases s.toPrimary.confirmPositive o.profile (some addr) with ⟨_ | c, p⟩
  · rfl
  · dsimp only
    split_ifs <;> rfl

theorem answer_ofState (frame : Frame) (ctrl : ControlField) (addr : UInt16) :
    (ofState s).answer o frame ctrl addr =
      ((s.toPrimary.answer o.profile frame ctrl addr).1,
        ofState { s with toPrimary := (s.toPrimary.answer o.profile frame ctrl addr).2 }) := by
  cases frame with
  | singleCharAck => rfl
  | fixed =>
    simp only [answer, Primary.answer]
    split_ifs
    · exact confirm_ofState _
    · rfl
    · exact confirm_ofState _
    · exact confirm_ofState _
    · rw [failTransaction_ofState]
    · rfl
  | variable' _ _ raw =>
    simp only [answer, Primary.answer]
    split_ifs
    · exact confirmData_ofState _ _
    · exact confirm_ofState _
    · rfl

theorem accessDemand_ofState (ctrl : ControlField) (addr : UInt16) (now : ℕ) :
    (ofState s).accessDemand o ctrl addr now =
      some (ofState { s with toPrimary := s.toPrimary.accessDemand o.profile ctrl addr now }) := by
  have hkey : ((ofState s).secs addr).isSome ↔ addr ∈ s.order := by
    rw [Option.isSome_iff_ne_none, ne_eq, secs_ofState_eq_none, not_not]
  unfold accessDemand Primary.accessDemand
  by_cases hdue : ctrl.acd ∧ o.profile.polls ∧ addr ∈ s.order
  · have hdue' : ctrl.acd ∧ !o.config.isBalanced ∧ ((ofState s).secs addr).isSome :=
      ⟨hdue.1, hdue.2.1, hkey.mpr hdue.2.2⟩
    rw [if_pos hdue, if_pos hdue', secs_ofState hdue.2.2, getMut_ofState]
    dsimp only [Option.bind_eq_bind, Option.bind_some]
    have hphase : ((s.modify addr fun sec => { sec with wantClass1 := true }).secs addr).phase =
        (s.secs addr).phase := by
      simp [Primary.modify]
    have hmem : addr ∈ (s.modify addr fun sec => { sec with wantClass1 := true }).order :=
      hdue.2.2
    rw [hphase]
    generalize s.modify addr _ = m at hmem ⊢
    show (if (s.secs addr).phase = .active ∧ m.lastSent = none then _ else _) = _
    split_ifs
    · exact sendPrimConfirmed_ofState (s := { s with toPrimary := m }) hmem _ _ _
    · rfl
  · have hdue' : ¬(ctrl.acd ∧ !o.config.isBalanced ∧ ((ofState s).secs addr).isSome) :=
      fun h => hdue ⟨h.1, h.2.1, hkey.mp h.2.2⟩
    rw [if_neg hdue, if_neg hdue']
    rfl

theorem sendSecFixed_ofState (func : UInt8) (addr : UInt16) :
    (ofState s).sendSecFixed o func addr = ofState (s.sendSecFixed o func addr) := by
  have hwrite : ∀ frame, (ofState s).write o frame = s.toPrimary.write o.profile frame :=
    fun _ => rfl
  unfold sendSecFixed LinkState.sendSecFixed
  dsimp only
  rw [hwrite]
  cases s.toPrimary.write o.profile _ <;> rfl

theorem servePeer_ofState (ctrl : ControlField) (addr : UInt16) :
    (ofState s).servePeer o ctrl addr =
      ((s.servePeer o ctrl addr).1, ofState (s.servePeer o ctrl addr).2) := by
  unfold servePeer LinkState.servePeer
  split_ifs
  · exact congrArg (Prod.mk _) (sendSecFixed_ofState (s := { s with fcbExpected := true }) _ _)
  · exact congrArg (Prod.mk _) (sendSecFixed_ofState _ _)
  · exact congrArg (Prod.mk _) (sendSecFixed_ofState _ _)
  · rfl
  · exact congrArg (Prod.mk _) (sendSecFixed_ofState _ _)
  · exact congrArg (Prod.mk _) (sendSecFixed_ofState _ _)

theorem handlePeerPrimaryFrame_ofState (ctrl : ControlField) (addr : UInt16) :
    (ofState s).handlePeerPrimaryFrame o ctrl addr =
      ((s.handlePeerPrimaryFrame o ctrl addr).1,
        ofState (s.handlePeerPrimaryFrame o ctrl addr).2) := by
  have hexpected : (ofState s).fcbExpected = s.fcbExpected := rfl
  unfold handlePeerPrimaryFrame LinkState.handlePeerPrimaryFrame
  rw [hexpected]
  split_ifs
  · rfl
  · exact congrArg (Prod.mk _) (sendSecFixed_ofState _ _)
  · exact servePeer_ofState (s := { s with fcbExpected := !s.fcbExpected }) _ _
  · exact servePeer_ofState _ _

theorem report_ofState (frame : Frame) (addr : UInt16) :
    (ofState s).report frame addr = ofState (s.report frame addr) := by
  unfold report LinkState.report
  cases frame.asdu <;> rfl

theorem handleAddressed_ofState (frame : Frame) (ctrl : ControlField) (addr : UInt16) (now : ℕ) :
    (ofState s).handleAddressed o frame ctrl addr now =
      some ((s.handleAddressed o frame ctrl addr now).1,
        ofState (s.handleAddressed o frame ctrl addr now).2) := by
  have hkey : (o.config.linkAddrSize > 0 ∧ (ofState s).secs addr = none) ↔
      (o.config.linkAddrSize > 0 ∧ addr ∉ s.order) := and_congr_right' secs_ofState_eq_none
  unfold handleAddressed LinkState.handleAddressed
  rw [handlePeerPrimaryFrame_ofState]
  simp only [hkey]
  split_ifs
  · rfl
  · rw [report_ofState]
    rfl
  · rfl
  · rfl
  · -- a frame of a secondary station
    rw [getMut_ofState, answer_ofState]
    dsimp only
    rw [accessDemand_ofState]
    rfl

/-- No lookup fails on a received frame. -/
theorem handleFrame_ofState (frame : Frame) (now : ℕ) :
    (ofState s).handleFrame o frame now =
      some ((s.handleFrame o frame now).1, ofState (s.handleFrame o frame now).2) := by
  cases frame with
  | singleCharAck => exact congrArg some (confirm_ofState none)
  | fixed ctrl addr => exact handleAddressed_ofState _ _ _ _
  | variable' ctrl addr raw => exact handleAddressed_ofState _ _ _ _

theorem takeQueued_ofState (queue : List (Outgoing UInt16 Asdu)) :
    (ofState s).takeQueued queue = s.toPrimary.takeQueued queue := by
  induction queue with
  | nil => rfl
  | cons out queue ih =>
    rw [takeQueued, Primary.takeQueued]
    by_cases hmem : out.addr ∈ s.order
    · rw [secs_ofState hmem, if_neg (not_not.mpr hmem), ih]
    · rw [secs_ofState_eq_none.mpr hmem, if_pos hmem, ih]

theorem trySendQueued_ofState (now : ℕ) :
    (ofState s).trySendQueued o now =
      some ((s.toPrimary.trySendQueued o.profile now).1,
        ofState { s with toPrimary := (s.toPrimary.trySendQueued o.profile now).2 }) := by
  have hqueue : (ofState s).queue = s.queue := rfl
  unfold trySendQueued Primary.trySendQueued
  rw [hqueue, takeQueued_ofState]
  rcases htake : s.toPrimary.takeQueued s.queue with ⟨_ | out, queue⟩
  · rfl
  · have hmem : out.addr ∈ s.order := (Primary.takeQueued_eq_some htake).1.1
    have hmarshal : o.profile.marshal out.asdu = out.asdu.marshalBinary := rfl
    dsimp only
    rw [hmarshal]
    cases out.asdu.marshalBinary with
    | error => rfl
    | ok raw =>
      dsimp only
      rw [secs_ofState hmem]
      exact congrArg some
        (transmit_ofState (s := { s with toPrimary := { s.toPrimary with queue } }) _ now)

/-- The round-robin of the polls looks up stations of the polling order. -/
theorem poll_ofState (now n : ℕ) (hidx : s.pollIdx < s.order.length) :
    poll o now n (ofState s) = some (ofState (LinkState.poll o now n s)) := by
  induction n generalizing s with
  | zero => rfl
  | succ n ih =>
    have haddr : (ofState s).order[(ofState s).pollIdx]? = some s.order[s.pollIdx] :=
      List.getElem?_eq_getElem hidx
    -- the station at the cursor is in the order, so the map has it
    have hmem : s.order[s.pollIdx] ∈ s.order := List.getElem_mem hidx
    have hnext : (s.pollIdx + 1) % s.order.length < s.order.length :=
      Nat.mod_lt _ (Nat.zero_lt_of_lt hidx)
    rw [poll, LinkState.poll, haddr, List.getElem?_eq_getElem hidx]
    generalize s.order[s.pollIdx] = addr at hmem
    let s' : LinkState := { s with pollIdx := (s.pollIdx + 1) % s.order.length }
    have hsec : (ofState s').secs addr = some (s.secs addr) := secs_ofState (s := s') hmem
    show ((ofState s').secs addr).bind _ = _
    rw [hsec]
    dsimp only [Option.bind_some]
    cases (s.secs addr).phase with
    | status => exact sendPrimConfirmed_ofState (s := s') hmem _ _ _
    | reset => exact sendPrimConfirmed_ofState (s := s') hmem _ _ _
    -- only here does the loop go on to the next station
    | active =>
      dsimp only
      by_cases hbal : o.config.isBalanced = true
      · rw [if_pos hbal, if_pos hbal]
        exact ih (s := s') hnext
      · rw [if_neg hbal, if_neg hbal]
        show ((ofState s').secs addr).bind _ = _
        rw [hsec]
        exact sendPrimConfirmed_ofState (s := s') hmem _ _ _

/-! ### Every step -/

theorem tick_ofState (now : ℕ) (hidx : s.pollIdx < s.order.length) :
    (ofState s).tick o now = some (ofState (s.tick o now)) := by
  have hlast : (ofState s).lastSent = s.lastSent := rfl
  unfold tick LinkState.tick
  rw [hlast]
  split_ifs
  · rfl
  · rw [trySendQueued_ofState]
    have hring := @Primary.ring_trySendQueued _ _ o.profile s.toPrimary _ now
    rcases hsend : s.toPrimary.trySendQueued o.profile now with ⟨sent, p⟩
    rw [hsend] at hring
    cases sent with
    | true => rfl
    | false =>
      have hidx' : p.pollIdx < p.order.length := Primary.inRing_of_eq hring hidx
      exact poll_ofState (s := { s with toPrimary := p }) now p.order.length hidx'

theorem onT3Timeout_ofState (now : ℕ) :
    (ofState s).onT3Timeout o now = some (ofState (s.onT3Timeout o now)) := by
  have hlast : (ofState s).lastSent = s.lastSent := rfl
  have hfirst : (ofState s).firstActive (ofState s).order = some s.toPrimary.firstActive :=
    firstActive_ofState fun _ h => h
  unfold onT3Timeout LinkState.onT3Timeout
  rw [hlast, hfirst]
  split_ifs
  · rfl
  · rcases hactive : s.toPrimary.firstActive with _ | addr
    · rfl
    · exact sendPrimConfirmed_ofState (List.mem_of_find?_eq_some hactive) _ _ _

theorem handleLinkRequest_ofState (func : UInt8) (now : ℕ) :
    (ofState s).handleLinkRequest o func now =
      some (ofState (s.handleLinkRequest o func now)) := by
  have hlast : (ofState s).lastSent = s.lastSent := rfl
  unfold handleLinkRequest LinkState.handleLinkRequest
  dsimp only
  rw [hlast]
  simp only [secs_ofState_eq_none]
  by_cases hbusy : s.lastSent.isSome = true
  · rw [if_pos hbusy, if_pos hbusy]
  · rw [if_neg hbusy, if_neg hbusy]
    by_cases hmem : o.defaultAddr ∈ s.order
    · rw [if_neg (not_not.mpr hmem), if_neg (not_not.mpr hmem), secs_ofState hmem]
      split_ifs with hreset hstatus hdata hpoll hpoll
      · rw [getMut_ofState]
        exact sendPrimConfirmed_ofState
          (s := { s with toPrimary := s.askReset o.defaultAddr }) hmem _ _ _
      · exact sendPrimConfirmed_ofState hmem _ _ _
      · exact (if_pos hpoll.2).trans (sendPrimConfirmed_ofState hmem _ _ _)
      · exact if_neg fun h => hpoll ⟨hdata, h⟩
      · exact absurd hpoll.1 hdata
      · rfl
    · rw [if_pos hmem, if_pos hmem]

theorem onT1Timeout_ofState (now : ℕ) :
    (ofState s).onT1Timeout o now = (s.onT1Timeout o now).map ofState := by
  have hlast : (ofState s).lastSent = s.lastSent := rfl
  unfold onT1Timeout LinkState.onT1Timeout Primary.onT1Timeout
  rw [hlast]
  cases s.lastSent with
  | none => rfl
  | some p =>
    have hwrite : (ofState s).write o p.frame = s.toPrimary.write o.profile p.frame := rfl
    dsimp only
    rw [hwrite, abort_ofState]
    by_cases hretry : s.retryCount < o.config.maxRepetitions.toNat
    · have hretry' : s.retryCount < o.profile.maxRepetitions.toNat := hretry
      rw [if_pos hretry', if_pos (show (ofState s).retryCount < _ from hretry)]
      cases s.toPrimary.write o.profile p.frame <;> rfl
    · have hretry' : ¬s.retryCount < o.profile.maxRepetitions.toNat := hretry
      rw [if_neg hretry', if_neg (show ¬(ofState s).retryCount < _ from hretry)]
      by_cases hone : s.order.length = 1
      · rw [if_pos hone, if_pos (show (ofState s).order.length = 1 from hone)]
        rfl
      · rw [if_neg hone, if_neg (show ¬(ofState s).order.length = 1 from hone)]
        rfl

/-- **Every step of the primary over its map is the one over a total function**, and
none of them panics. -/
theorem step_ofState (hidx : s.pollIdx < s.order.length) (e : LinkState.Event) :
    (ofState s).step o e = some ((s.step o e).map ofState) := by
  -- behind every step the loop asks whether any station is active, which looks all of them up
  have hactive : ∀ u : LinkState, ∃ b, (ofState u).anyActive (ofState u).order = some b :=
    fun u => Option.isSome_iff_exists.mp (anyActive_ofState fun _ h => h)
  cases e with
  | frame f now =>
    obtain ⟨b, hb⟩ := hactive (s.handleFrame o f now).2
    rw [step, handleFrame_ofState]
    dsimp only [Option.bind_eq_bind, Option.bind_some]
    rw [hb]
    rfl
  | linkRequest func now =>
    rw [step, handleLinkRequest_ofState]
    rfl
  | t1 now =>
    have ht1 : (ofState s).t1At = s.t1At := rfl
    rw [step, LinkState.step, ht1, onT1Timeout_ofState]
    split_ifs
    · cases s.onT1Timeout o now with
      | error => rfl
      | ok u =>
        obtain ⟨b, hb⟩ := hactive u
        show Option.map _ ((ofState u).anyActive (ofState u).order) = _
        rw [hb]
        rfl
    · rfl
  | t3 now =>
    rw [step, onT3Timeout_ofState]
    rfl
  | tick now =>
    rw [step, tick_ofState now hidx]
    rfl
  | send asdu addr =>
    have hqueue : (ofState s).queue = s.queue := rfl
    rw [step, LinkState.step, sendTo, LinkState.sendTo, hqueue]
    split_ifs <;> rfl
  | outClosed => rfl

/-! ### Runs -/

/-- **A run over the map is a run over a total function.** -/
theorem exists_ofState {t : StationMap} (h : (machine o).Reachable t) :
    ∃ s, (LinkState.machine o).Reachable s ∧ t = ofState s := by
  induction h with
  | init => exact ⟨LinkState.new o, .init, rfl⟩
  | @step t u e _ _ hnext ih =>
    obtain ⟨s, hs, rfl⟩ := ih
    have hjoin : ((ofState s).step o e).join = some u := hnext
    rw [step_ofState (LinkState.inRing_of_reach hs).2, Option.join_some] at hjoin
    obtain ⟨s', hs', rfl⟩ := Option.map_eq_some_iff.mp hjoin
    exact ⟨s', hs.step trivial hs', rfl⟩

end StationMap

/-! ### Supervision -/

/-- A lawful history has written the outstanding frame once, and repeated it as often
as that is allowed at most. -/
theorem writes_le {α A : Type} [DecidableEq α] {prof : Profile α A} {log : List (Obs α A)}
    (h : Trace.Each (Lawful prof) log) {r : Running α} (hr : outstanding log = some r) :
    r.writes ≤ 1 + prof.maxRepetitions.toNat := by
  induction log using List.reverseRecOn generalizing r with
  | nil => cases hr
  | append_singleton log x ih =>
    obtain ⟨hlog, hx⟩ := Trace.each_concat.mp h
    rw [outstanding_concat] at hr
    cases x with
    | began p raw =>
      cases hr
      exact Nat.le_add_right _ _
    | repeated p raw =>
      obtain ⟨n, hn, hle, -⟩ := hx
      rw [hn] at hr
      cases hr
      show n + 1 ≤ _
      omega
    | completed => cases hr
    | failed => cases hr
    | gaveUp => cases hr
    | queued => exact ih hlog hr
    | resetAsked => exact ih hlog hr
    | replied => exact ih hlog hr
    | delivered => exact ih hlog hr

/-- What a supervised primary may do after the history `past`: one transaction at a
time, repeated octet for octet, its frame written `1 + maxRepetitions` times at most
before it ends. -/
def Supervised (o : ClientOption) (past : List (Obs UInt16 Asdu)) : Obs UInt16 Asdu → Prop
  | .began p raw => outstanding past = none ∧ p.frame.marshal o.config.linkAddrSize = .ok raw
  | .repeated p raw =>
    ∃ n, outstanding past = some ⟨p, raw, n⟩ ∧ n < 1 + o.config.maxRepetitions.toNat
  | .completed p | .failed p | .gaveUp p =>
    ∃ raw n, outstanding past = some ⟨p, raw, n⟩ ∧ n ≤ 1 + o.config.maxRepetitions.toNat
  | _ => True

theorem supervised_of_lawful {o : ClientOption} {log : List (Obs UInt16 Asdu)}
    (h : Trace.Each (Lawful o.profile) log) : Trace.Each (Supervised o) log := by
  induction log using List.reverseRecOn with
  | nil => exact Trace.each_nil
  | append_singleton log x ih =>
    obtain ⟨hlog, hx⟩ := Trace.each_concat.mp h
    have hended : ∀ p : Pending UInt16, (∃ raw n, outstanding log = some ⟨p, raw, n⟩) →
        ∃ raw n, outstanding log = some ⟨p, raw, n⟩ ∧ n ≤ 1 + o.config.maxRepetitions.toNat := by
      rintro p ⟨raw, n, hn⟩
      exact ⟨raw, n, hn, writes_le hlog hn⟩
    refine Trace.each_concat.mpr ⟨ih hlog, ?_⟩
    cases x with
    | began p raw => exact ⟨hx.1, hx.2.2.1⟩
    | repeated p raw =>
      obtain ⟨n, hn, hle, -⟩ := hx
      exact ⟨n, hn, Nat.lt_one_add_iff.mpr hle⟩
    | completed p => exact hended p hx
    | failed p => exact hended p hx
    | gaveUp p => exact hended p hx
    | queued => trivial
    | resetAsked => trivial
    | replied => trivial
    | delivered => trivial

/-- **A transaction is always supervised and bounded**, and no lookup of a station
fails: in every state reached t₁ runs exactly while a transaction is outstanding, which
is the one the history left open, and no step panics. -/
theorem StationMap.supervised {o : ClientOption} {t : StationMap}
    (h : (StationMap.machine o).Reachable t) :
    (∀ e, (t.step o e).isSome) ∧ (t.t1At.isSome ↔ t.lastSent.isSome) ∧
      t.retryCount ≤ o.config.maxRepetitions.toNat ∧
      (outstanding t.log).map (·.p) = t.lastSent ∧ Trace.Each (Supervised o) t.log := by
  obtain ⟨s, hs, rfl⟩ := StationMap.exists_ofState h
  have hd := LinkState.disciplined_of_reach hs
  refine ⟨fun e => ?_, ?_, hd.retry, ?_, supervised_of_lawful hd.lawful⟩
  · rw [StationMap.step_ofState (LinkState.inRing_of_reach hs).2]
    rfl
  · exact Bool.eq_iff_iff.mp hd.t1
  · have hrun := congrArg (Option.map Prod.fst) hd.running
    rw [Option.map_map, Option.map_map] at hrun
    exact hrun.trans Option.map_id'

/-- The first status request goes unanswered, and is repeated. -/
theorem StationMap.supervised_oneStation :
    ∃ t, (StationMap.machine oneStation).Reachable t ∧ t.retryCount = 1 ∧
      (∀ e, (t.step oneStation e).isSome) ∧ Trace.Each (Supervised oneStation) t.log := by
  have hrun : (StationMap.machine oneStation).run (StationMap.new oneStation)
      [.tick 0, .t1 oneStation.config.timeoutResponseT1] = some _ := rfl
  have hreach := Machine.reach_of_run .init hrun
  have h := StationMap.supervised hreach
  exact ⟨_, hreach, rfl, h.1, h.2.2.2.2⟩

end Cs101
end Iec60870
