import Iec60870.Cs101.Primary

/-!
# What a primary can do

The handlers of a primary, taken apart into the things that can happen to a
transaction.  Later modules reason about these and never about the handlers.

## Main definitions

* `Frame.positive`, `Frame.refusal` — the frames that complete or refuse.
* `Pending.Framed` — the frame says what is remembered of its transaction.
* `Primary.Begin` — the transactions that can be begun.
* `Primary.Launch` — bookkeeping, then at most one transaction begun.
* `Primary.Act` — one thing that happens to a primary.

## Main results

* `Primary.answered_handleSecondary` — what a received frame does to the outstanding
  transaction.
* `Primary.takeQueued_eq_some` — user data for a station is taken in order.
-/

namespace Iec60870
namespace Cs101

open PrimFc

namespace Frame

/-- A frame of a secondary station that completes the outstanding transaction. -/
def positive : Frame → Bool
  | .singleCharAck => true
  | .fixed c _ => !c.prm && (c.func = SecFc.CONF_ACK || c.func = SecFc.USER_DATA_NO_REP ||
      c.func = SecFc.RESP_STATUS)
  | .variable' c _ _ => !c.prm && (c.func = SecFc.USER_DATA_CONF ||
      c.func = SecFc.RESP_STATUS || c.func = SecFc.USER_DATA_NO_REP)

/-- A frame of a secondary station that refuses the outstanding transaction. -/
def refusal : Frame → Bool
  | .fixed c _ => !c.prm && (c.func = SecFc.RESP_LINK_NF || c.func = SecFc.RESP_LINK_NI)
  | _ => false

/-- The user data in a response to a class 1 or class 2 request. -/
def classData : Frame → Option Octets
  | .variable' c _ raw => if c.func = SecFc.USER_DATA_CONF then some raw else none
  | _ => none

end Frame

/-- The transaction is a class 1 or class 2 request. -/
def Pending.isClassRequest {α : Type} (p : Pending α) : Bool :=
  p.ctrl.func = REQ_DATA1 || p.ctrl.func = REQ_DATA2

/-- The user data a transaction carries to its station. -/
def Pending.payload {α : Type} (p : Pending α) : Option Octets :=
  if p.ctrl.func = USER_DATA_CONF then p.frame.asdu else none

/-- The frame of a transaction says what the primary remembers of it: it is a primary
frame with the control field remembered, addressed to the station, and the only
transactions that carry an ASDU are confirmed user data. -/
structure Pending.Framed {α A : Type} (prof : Profile α A) (p : Pending α) : Prop where
  control : p.frame.control = some p.ctrl
  prm : p.ctrl.prm = true
  linkAddr : p.frame.linkAddr = some (prof.linkAddr p.addr)
  asdu : p.frame.asdu = p.payload

namespace Primary

variable {α A : Type} {prof : Profile α A} {s t m : Primary α A}

/-! ### Bookkeeping -/

/-- `t` differs from `s` in nothing that a transaction depends on. -/
structure Noted (s t : Primary α A) : Prop where
  lastSent : t.lastSent = s.lastSent
  retryCount : t.retryCount = s.retryCount
  t1At : t.t1At = s.t1At
  order : t.order = s.order
  outOpen : t.outOpen = s.outOpen
  log : t.log = s.log
  phase : ∀ a, (t.secs a).phase = (s.secs a).phase
  fcb : ∀ a, (t.secs a).fcb = (s.secs a).fcb
  queue : t.queue.Sublist s.queue

theorem Noted.refl (s : Primary α A) : Noted s s :=
  ⟨rfl, rfl, rfl, rfl, rfl, rfl, fun _ => rfl, fun _ => rfl, List.Sublist.refl _⟩

theorem Noted.trans (h : Noted s m) (h' : Noted m t) : Noted s t where
  lastSent := h'.lastSent.trans h.lastSent
  retryCount := h'.retryCount.trans h.retryCount
  t1At := h'.t1At.trans h.t1At
  order := h'.order.trans h.order
  outOpen := h'.outOpen.trans h.outOpen
  log := h'.log.trans h.log
  phase := fun a => (h'.phase a).trans (h.phase a)
  fcb := fun a => (h'.fcb a).trans (h.fcb a)
  queue := h'.queue.trans h.queue

/-- Taking ASDUs out of the queue is bookkeeping. -/
theorem noted_queue {queue : List (Outgoing α A)} (h : queue.Sublist s.queue) :
    Noted s { s with queue } :=
  ⟨rfl, rfl, rfl, rfl, rfl, rfl, fun _ => rfl, fun _ => rfl, h⟩

/-- Moving the polling cursor is bookkeeping. -/
theorem noted_pollIdx (n : ℕ) : Noted s { s with pollIdx := n } :=
  ⟨rfl, rfl, rfl, rfl, rfl, rfl, fun _ => rfl, fun _ => rfl, List.Sublist.refl _⟩

/-- `write` hands over the octets of the frame while the channel is open. -/
theorem write_eq_some {frame : Frame} {raw : Octets} :
    s.write prof frame = some raw ↔
      s.outOpen = true ∧ frame.marshal prof.addrSize = .ok raw := by
  unfold write
  rcases frame.marshal prof.addrSize with e | raw'
  · simp
  · by_cases hopen : s.outOpen = true
    · simp [hopen]
    · simp [hopen]

/-- The transaction `p` has just been begun, its frame written as `raw`. -/
def begun (s : Primary α A) (p : Pending α) (raw : Octets) (due : ℕ) : Primary α A :=
  { s with
    lastSent := some p
    retryCount := 0
    t1At := some due
    log := s.log ++ [.began p raw] }

/-- `transmit` either writes the frame and remembers it, or does nothing. -/
theorem transmit_cases (p : Pending α) (now : ℕ) :
    s.transmit prof p now = (false, s) ∨
      ∃ raw, s.outOpen = true ∧ p.frame.marshal prof.addrSize = .ok raw ∧
        s.transmit prof p now = (true, s.begun p raw (now + prof.t1)) := by
  unfold transmit
  rcases hw : s.write prof p.frame with _ | raw
  · exact .inl rfl
  · obtain ⟨hopen, hraw⟩ := write_eq_some.mp hw
    exact .inr ⟨raw, hopen, hraw, rfl⟩

variable [DecidableEq α]

/-- Changing a station without touching its phase and its FCB is bookkeeping. -/
theorem noted_modify {addr : α} {f : Secondary → Secondary}
    (hphase : (f (s.secs addr)).phase = (s.secs addr).phase)
    (hfcb : (f (s.secs addr)).fcb = (s.secs addr).fcb) : Noted s (s.modify addr f) := by
  refine ⟨rfl, rfl, rfl, rfl, rfl, rfl, fun a => ?_, fun a => ?_, List.Sublist.refl _⟩
  · by_cases ha : a = addr
    · subst ha
      simpa [modify] using hphase
    · simp [modify, Function.update_of_ne ha]
  · by_cases ha : a = addr
    · subst ha
      simpa [modify] using hfcb
    · simp [modify, Function.update_of_ne ha]

/-! ### The queue -/

theorem takeQueued_sublist (queue : List (Outgoing α A)) :
    (s.takeQueued queue).2.Sublist queue := by
  induction queue with
  | nil => exact List.Sublist.refl _
  | cons out queue ih =>
    rw [takeQueued]
    split
    · exact ih.cons out
    · split
      · exact List.sublist_cons_self out queue
      · exact ih.cons_cons out

/-- A station that may be sent user data. -/
def Ready (s : Primary α A) (addr : α) : Prop :=
  addr ∈ s.order ∧ (s.secs addr).phase = .active ∧ (s.secs addr).busy = false

/-- What is taken is for a station that is ready, and is the oldest queued for it. -/
theorem takeQueued_eq_some {queue rest : List (Outgoing α A)} {out : Outgoing α A}
    (h : s.takeQueued queue = (some out, rest)) :
    s.Ready out.addr ∧
      out :: rest.filter (·.addr = out.addr) = queue.filter (·.addr = out.addr) := by
  induction queue generalizing rest with
  -- on the queue, from its head, as the loop goes through it
  | nil => cases h
  | cons o queue ih =>
    rw [takeQueued] at h
    split at h
    -- the head is of an unknown station and is dropped
    · next hunknown =>
      obtain ⟨hready, hq⟩ := ih h
      have hne : o.addr ≠ out.addr := fun he => hunknown (he ▸ hready.1)
      rw [List.filter_cons_of_neg (by simpa using hne)]
      exact ⟨hready, hq⟩
    · next hknown =>
      split at h
      · next hready =>
        cases h
        refine ⟨⟨not_not.mp hknown, hready⟩, ?_⟩
        rw [List.filter_cons_of_pos (by simp)]
      -- the head is what is taken
      · next hnot =>
        -- the station of `o` is held back, so `out` is for another one
        rcases hq : s.takeQueued queue with ⟨found, rest'⟩
        rw [hq] at h
        cases h
        obtain ⟨hready, hq'⟩ := ih hq
        have hne : o.addr ≠ out.addr := fun he => hnot (he ▸ hready.2)
        rw [List.filter_cons_of_neg (by simpa using hne),
          List.filter_cons_of_neg (by simpa using hne)]
        exact ⟨hready, hq'⟩

/-! ### Beginning a transaction -/

/-- The transactions an idle primary can begin, and the queue they leave. -/
inductive Begin (prof : Profile α A) (s : Primary α A) : Pending α → List (Outgoing α A) → Prop
  /-- A fixed-length request: counted ones go to active stations only, a reset to a
  station whose reset is due, and only a primary that polls asks for class data. -/
  | request {addr : α} {func : UInt8} {fcv : Bool} (hknown : addr ∈ s.order)
      (hfcv : fcvRequired func = some fcv)
      (hdata : func ≠ USER_DATA_CONF ∧ func ≠ USER_DATA_NO_CONF)
      (hactive : fcv = true → (s.secs addr).phase = .active)
      (hreset : func ∈ prof.resets → (s.secs addr).phase = .reset)
      (hpoll : func = REQ_DATA1 ∨ func = REQ_DATA2 → prof.polls = true) :
      Begin prof s (s.request prof addr func fcv) s.queue
  /-- The oldest user data queued for a station that is ready. -/
  | send {out : Outgoing α A} {queue : List (Outgoing α A)} {raw : Octets}
      (hready : s.Ready out.addr) (hsub : queue.Sublist s.queue)
      (hfirst : out :: queue.filter (·.addr = out.addr) = s.queue.filter (·.addr = out.addr))
      (hraw : prof.marshal out.asdu = .ok raw) :
      Begin prof s (s.userData prof out.addr raw) queue

/-- What holds of the outstanding transaction `p`: its frame is a request of known
shape to a known station, and what it asks for is due. -/
structure Genuine (prof : Profile α A) (s : Primary α A) (p : Pending α) : Prop
    extends p.Framed prof where
  known : p.addr ∈ s.order
  fcv : fcvRequired p.ctrl.func = some p.ctrl.fcv
  answered : p.ctrl.func ≠ USER_DATA_NO_CONF
  /-- A counted transaction goes to an active station and carries its bit. -/
  counted : p.ctrl.fcv = true →
    (s.secs p.addr).phase = .active ∧ p.ctrl.fcb = (s.secs p.addr).fcb
  /-- A reset goes to a station whose reset is due. -/
  reset : p.ctrl.fcv = false → p.ctrl.func ∈ prof.resets → (s.secs p.addr).phase = .reset
  polls : p.isClassRequest = true → prof.polls = true

omit [DecidableEq α] in
/-- Only stations matter to a transaction. -/
theorem Genuine.congr {p : Pending α} (h : Genuine prof s p) (horder : t.order = s.order)
    (hphase : ∀ a, (t.secs a).phase = (s.secs a).phase)
    (hfcb : ∀ a, (t.secs a).fcb = (s.secs a).fcb) : Genuine prof t p where
  toFramed := h.toFramed
  known := horder ▸ h.known
  fcv := h.fcv
  answered := h.answered
  counted := fun hfcv => by
    rw [hphase, hfcb]
    exact h.counted hfcv
  reset := fun hfcv hmem => by
    rw [hphase]
    exact h.reset hfcv hmem
  polls := h.polls

/-- What is begun is genuine. -/
theorem Begin.genuine {p : Pending α} {queue : List (Outgoing α A)} (h : Begin prof s p queue) :
    Genuine prof s p := by
  cases h with
  | @request addr func fcv hknown hfcv hdata hactive hreset hpoll =>
    have hframed : (s.request prof addr func fcv).Framed prof :=
      ⟨rfl, rfl, rfl, (if_neg hdata.1).symm⟩
    refine ⟨hframed, hknown, hfcv, hdata.2, fun hc => ?_, fun _ => hreset, fun hc => ?_⟩
    · have hc' : fcv = true := hc
      subst hc'
      exact ⟨hactive rfl, Bool.true_and _⟩
    · simp only [Pending.isClassRequest, Bool.or_eq_true, decide_eq_true_eq] at hc
      exact hpoll hc
  | @send out queue raw hready hsub hfirst hraw =>
    have hframed : (s.userData prof out.addr raw).Framed prof :=
      ⟨rfl, rfl, rfl, (if_pos rfl).symm⟩
    refine ⟨hframed, hready.1, rfl, ?_, fun _ => ⟨hready.2.1, Bool.true_and _⟩,
      fun hf => (by cases hf), fun hf => (by cases hf)⟩
    show USER_DATA_CONF ≠ USER_DATA_NO_CONF
    decide

/-- Bookkeeping, then at most one transaction begun: what every function of the
primary that may send comes to. -/
inductive Launch (prof : Profile α A) (s : Primary α A) : Primary α A → Prop
  | note {t : Primary α A} (h : Noted s t) : Launch prof s t
  | begin {m : Primary α A} {p : Pending α} {queue : List (Outgoing α A)} {raw : Octets}
      {due : ℕ} (h : Noted s m) (hidle : m.lastSent = none) (hopen : m.outOpen = true)
      (hp : Begin prof m p queue) (hraw : p.frame.marshal prof.addrSize = .ok raw) :
      Launch prof s ({ m with queue }.begun p raw due)

theorem Launch.of_noted (h : Noted s m) (h' : Launch prof m t) : Launch prof s t := by
  cases h' with
  | note hn => exact .note (h.trans hn)
  | begin hn hidle hopen hp hraw => exact .begin (h.trans hn) hidle hopen hp hraw

/-- Nothing is completed by beginning a transaction. -/
theorem Launch.log_eq (h : Launch prof s t) :
    ∃ rest, t.log = s.log ++ rest ∧ ∀ q, .completed q ∉ rest := by
  cases h with
  | note h => exact ⟨[], by rw [h.log, List.append_nil], fun q hq => by cases hq⟩
  | @begin m p queue raw due h hidle hopen hp hraw =>
    refine ⟨[.began p raw], ?_, fun q hq => by simp at hq⟩
    rw [begun, h.log]

/-- Sending a request that may be sent. -/
theorem launch_sendPrimConfirmed {addr : α} {func : UInt8} {fcv : Bool} (now : ℕ)
    (hidle : s.lastSent = none) (hp : Begin prof s (s.request prof addr func fcv) s.queue) :
    Launch prof s (s.sendPrimConfirmed prof addr func fcv now).2 := by
  unfold sendPrimConfirmed
  rcases @transmit_cases _ _ prof s (s.request prof addr func fcv) now with
    h | ⟨raw, hopen, hraw, h⟩
  · rw [h]
    exact .note (.refl s)
  · rw [h]
    exact .begin (.refl s) hidle hopen hp hraw

/-- Sending what is queued. -/
theorem launch_trySendQueued (now : ℕ) (hidle : s.lastSent = none) :
    Launch prof s (s.trySendQueued prof now).2 ∧
      ((s.trySendQueued prof now).1 = false → Noted s (s.trySendQueued prof now).2) := by
  unfold trySendQueued
  have hsub := s.takeQueued_sublist s.queue
  rcases hq : s.takeQueued s.queue with ⟨_ | out, queue⟩
  · rw [hq] at hsub
    exact ⟨.note (noted_queue hsub), fun _ => noted_queue hsub⟩
  · rw [hq] at hsub
    obtain ⟨hready, hfirst⟩ := takeQueued_eq_some hq
    rcases hraw : prof.marshal out.asdu with e | raw
    · simp only [hraw]
      exact ⟨.note (noted_queue hsub), fun _ => noted_queue hsub⟩
    · simp only [hraw]
      rcases @transmit_cases _ _ prof { s with queue }
        (s.userData prof out.addr raw) now with h | ⟨octets, hopen, hoct, h⟩
      · rw [h]
        exact ⟨.note (noted_queue hsub), fun _ => noted_queue hsub⟩
      · rw [h]
        refine ⟨?_, fun hf => absurd hf (by simp)⟩
        exact .begin (m := s) (.refl s) hidle hopen (.send hready hsub hfirst hraw) hoct

/-- Meeting an access demand. -/
theorem launch_accessDemand (ctrl : ControlField) (addr : α) (now : ℕ)
    (hresets : REQ_DATA1 ∉ prof.resets) : Launch prof s (s.accessDemand prof ctrl addr now) := by
  unfold accessDemand
  split
  · next hacd =>
    have hnote : Noted s (s.modify addr fun sec => { sec with wantClass1 := true }) :=
      noted_modify rfl rfl
    dsimp only
    split
    · next hdue =>
      refine .of_noted hnote (launch_sendPrimConfirmed now hdue.2 ?_)
      exact .request hacd.2.2 rfl (by decide) (fun _ => hdue.1) (fun h => absurd h hresets)
        fun _ => hacd.2.1
    · exact .note hnote
  · exact .note (.refl s)

/-! ### Ending a transaction -/

/-- What is delivered when `frame` completes the transaction `p`. -/
def deliveredBy (p : Pending α) (frame : Frame) : List (Obs α A) :=
  if p.isClassRequest then (frame.classData.map (.delivered p.addr)).toList else []

/-- The transaction `p` has just been completed by `frame`. -/
def completeBy (prof : Profile α A) (s : Primary α A) (p : Pending α) (frame : Frame) :
    Primary α A :=
  { s.complete prof p with log := s.log ++ [.completed p] ++ deliveredBy p frame }

theorem completeBy_eq {p : Pending α} {frame : Frame} (h : frame.classData = none) :
    s.completeBy prof p frame = s.complete prof p := by
  simp [completeBy, deliveredBy, h, complete]

theorem confirm_none {sender : Option α} (h : s.lastSent = none) :
    (s.confirm prof sender).2 = s := by
  simp only [confirm, confirmPositive, h]

theorem confirm_other {addr : α} {p : Pending α} (h : s.lastSent = some p)
    (hne : p.addr ≠ addr) : (s.confirm prof (some addr)).2 = s := by
  have hany : (some addr).any (fun a => decide (p.addr ≠ a)) = true := by simpa using hne
  simp only [confirm, confirmPositive, h, hany, if_true]

theorem confirm_own {sender : Option α} {p : Pending α} (h : s.lastSent = some p)
    (hp : ∀ a ∈ sender, p.addr = a) : (s.confirm prof sender).2 = s.complete prof p := by
  have hany : sender.any (fun a => decide (p.addr ≠ a)) = false := by
    rw [Option.any_eq_false]
    simpa using hp
  simp only [confirm, confirmPositive, h, hany]
  rfl

theorem confirmData_own {addr : α} {p : Pending α} (h : s.lastSent = some p)
    (hp : p.addr = addr) (raw : Octets) :
    (s.confirmData prof addr raw).2 =
      { s.complete prof p with log := s.log ++ [.completed p] ++
        if p.isClassRequest then [.delivered addr raw] else [] } := by
  have hany : (some addr).any (fun a => decide (p.addr ≠ a)) = false := by simpa using hp
  simp only [confirmData, confirmPositive, h, hany, Pending.isClassRequest]
  by_cases hc : p.ctrl.func = REQ_DATA1 ∨ p.ctrl.func = REQ_DATA2
  · simp [hc, complete]
  · simp [hc, complete]

theorem confirmData_not_own {addr : α} (h : ∀ p, s.lastSent = some p → p.addr ≠ addr)
    (raw : Octets) : (s.confirmData prof addr raw).2 = s := by
  rcases hp : s.lastSent with _ | p
  · simp only [confirmData, confirmPositive, hp]
  · have hany : (some addr).any (fun a => decide (p.addr ≠ a)) = true := by simpa using h p hp
    simp only [confirmData, confirmPositive, hp, hany, if_true]

theorem confirm_not_own {addr : α} (h : ∀ p, s.lastSent = some p → p.addr ≠ addr) :
    (s.confirm prof (some addr)).2 = s := by
  rcases hp : s.lastSent with _ | p
  · exact confirm_none hp
  · exact confirm_other hp (h p hp)

/-- A positive frame of the station asked completes the transaction. -/
theorem answer_of_positive {frame : Frame} {ctrl : ControlField} {p : Pending α}
    (hctrl : frame.control = some ctrl) (hpos : frame.positive = true)
    (h : s.lastSent = some p) :
    (s.answer prof frame ctrl p.addr).2 = s.completeBy prof p frame := by
  have hown : (s.confirm prof (some p.addr)).2 = s.complete prof p :=
    confirm_own h fun a ha => Option.some_inj.mp ha
  cases frame with
  | singleCharAck => cases hctrl
  | fixed c a =>
    cases hctrl
    simp only [Frame.positive, Bool.and_eq_true, Bool.or_eq_true, decide_eq_true_eq] at hpos
    rw [completeBy_eq rfl, ← hown]
    -- the three positive functions of a frame without data: each confirms
    obtain ⟨-, (hf | hf) | hf⟩ := hpos
    · simp only [answer, hf]
      rfl
    · simp only [answer, hf]
      rfl
    · simp only [answer, hf]
      rfl
  | variable' c a raw =>
    cases hctrl
    simp only [Frame.positive, Bool.and_eq_true, Bool.or_eq_true, decide_eq_true_eq] at hpos
    -- user data confirms too, and is handed over if a class request asked for it
    obtain ⟨-, (hf | hf) | hf⟩ := hpos
    · simp only [answer, hf, if_true, confirmData_own h rfl raw, completeBy, deliveredBy,
        Frame.classData]
      rfl
    · rw [completeBy_eq (by rw [Frame.classData, hf]; rfl), ← hown]
      simp only [answer, hf]
      rfl
    · rw [completeBy_eq (by rw [Frame.classData, hf]; rfl), ← hown]
      simp only [answer, hf]
      rfl

/-- A refusal of the station asked aborts the transaction. -/
theorem answer_of_refusal {frame : Frame} {ctrl : ControlField} {p : Pending α}
    (hctrl : frame.control = some ctrl) (href : frame.refusal = true)
    (h : s.lastSent = some p) :
    (s.answer prof frame ctrl p.addr).2 = s.abort p (.failed p) := by
  have hown : s.failTransaction p.addr = s.abort p (.failed p) := by
    simp [failTransaction, h]
  cases frame with
  | singleCharAck => cases hctrl
  | variable' c a raw => cases href
  | fixed c a =>
    cases hctrl
    simp only [Frame.refusal, Bool.and_eq_true, Bool.or_eq_true, decide_eq_true_eq] at href
    rw [← hown]
    obtain ⟨-, hf | hf⟩ := href
    · simp only [answer, hf]
      rfl
    · simp only [answer, hf]
      rfl

/-- A frame that neither completes nor refuses changes nothing. -/
theorem answer_of_neither {frame : Frame} {ctrl : ControlField} {addr : α}
    (hctrl : frame.control = some ctrl) (hprm : ctrl.prm = false)
    (hpos : frame.positive = false) (href : frame.refusal = false) :
    (s.answer prof frame ctrl addr).2 = s := by
  cases frame with
  | singleCharAck => rfl
  | fixed c a =>
    cases hctrl
    simp only [Frame.positive, Frame.refusal, hprm, Bool.not_false, Bool.true_and,
      Bool.or_eq_false_iff, decide_eq_false_iff_not] at hpos href
    simp only [answer, if_neg hpos.1.1, if_neg hpos.1.2, if_neg hpos.2,
      if_neg (not_or.mpr href), ite_self]
  | variable' c a raw =>
    cases hctrl
    simp only [Frame.positive, hprm, Bool.not_false, Bool.true_and,
      Bool.or_eq_false_iff, decide_eq_false_iff_not] at hpos
    simp only [answer, if_neg hpos.1.1, if_neg (not_or.mpr ⟨hpos.1.2, hpos.2⟩)]

/-- A frame changes nothing while the station has no transaction outstanding. -/
theorem answer_not_own {frame : Frame} {ctrl : ControlField} {addr : α}
    (h : ∀ p, s.lastSent = some p → p.addr ≠ addr) :
    (s.answer prof frame ctrl addr).2 = s := by
  have hconf : (s.confirm prof (some addr)).2 = s := confirm_not_own h
  have hfail : s.failTransaction addr = s := by
    unfold failTransaction
    rcases hp : s.lastSent with _ | p
    · rfl
    · simp [h p hp]
  unfold answer
  cases frame with
  | singleCharAck => rfl
  | fixed c a =>
    dsimp only
    split_ifs <;> first | exact hconf | exact hfail | rfl
  | variable' c a raw =>
    dsimp only
    split_ifs
    · exact confirmData_not_own h raw
    · exact hconf
    · rfl

/-- What a frame can do to the outstanding transaction; `sender` is the station it
comes from, if it says so. -/
inductive Settle (prof : Profile α A) (frame : Frame) (sender : Option α) (s : Primary α A) :
    Primary α A → Prop
  | ignored : Settle prof frame sender s s
  | completed {p : Pending α} (h : s.lastSent = some p) (hown : ∀ a ∈ sender, p.addr = a)
      (hpos : frame.positive = true) : Settle prof frame sender s (s.completeBy prof p frame)
  | refused {p : Pending α} (h : s.lastSent = some p) (hown : ∀ a ∈ sender, p.addr = a)
      (href : frame.refusal = true) : Settle prof frame sender s (s.abort p (.failed p))

theorem settle_confirm_none : Settle prof .singleCharAck none s (s.confirm prof none).2 := by
  rcases h : s.lastSent with _ | p
  · rw [confirm_none h]
    exact .ignored
  · rw [confirm_own h (by simp), ← completeBy_eq (show Frame.singleCharAck.classData = none from rfl)]
    exact .completed h (by simp) rfl

theorem settle_answer {frame : Frame} {ctrl : ControlField} (addr : α)
    (hctrl : frame.control = some ctrl) (hprm : ctrl.prm = false) :
    Settle prof frame (some addr) s (s.answer prof frame ctrl addr).2 := by
  by_cases hown : ∀ p, s.lastSent = some p → p.addr ≠ addr
  · rw [answer_not_own hown]
    exact .ignored
  · push Not at hown
    obtain ⟨p, hp, rfl⟩ := hown
    have hsender : ∀ a ∈ some p.addr, p.addr = a := fun a ha => Option.some_inj.mp ha
    rcases hpos : frame.positive with _ | _
    · rcases href : frame.refusal with _ | _
      · rw [answer_of_neither hctrl hprm hpos href]
        exact .ignored
      · rw [answer_of_refusal hctrl href hp]
        exact .refused hp hsender href
    · rw [answer_of_positive hctrl hpos hp]
      exact .completed hp hsender hpos

/-- A frame may settle the outstanding transaction and launch another. -/
def Answered (prof : Profile α A) (frame : Frame) (sender : Option α) (s t : Primary α A) :
    Prop :=
  ∃ m n, Noted s m ∧ Settle prof frame sender m n ∧ Launch prof n t

theorem Answered.refl (frame : Frame) (sender : Option α) (s : Primary α A) :
    Answered prof frame sender s s := ⟨_, _, .refl _, .ignored, .note (.refl _)⟩

/-- What a frame of a secondary station can do. -/
theorem answered_handleSecondary {frame : Frame} {ctrl : ControlField} (addr : α) (now : ℕ)
    (hctrl : frame.control = some ctrl) (hprm : ctrl.prm = false)
    (hresets : REQ_DATA1 ∉ prof.resets) :
    Answered prof frame (some addr) s (s.handleSecondary prof frame ctrl addr now).2 :=
  ⟨_, _, noted_modify rfl rfl, settle_answer addr hctrl hprm,
    launch_accessDemand ctrl addr now hresets⟩

/-- What a single-character acknowledgement can do. -/
theorem answered_confirm_none : Answered prof .singleCharAck none s (s.confirm prof none).2 :=
  ⟨_, _, .refl _, settle_confirm_none, .note (.refl _)⟩

/-! ### Everything that can happen -/

/-- The outstanding frame of `p` has just been repeated, as `raw`. -/
def again (s : Primary α A) (p : Pending α) (raw : Octets) (due : ℕ) : Primary α A :=
  { s with
    retryCount := s.retryCount + 1
    t1At := some due
    log := s.log ++ [.repeated p raw] }

/-- What an expired t₁ can do. -/
theorem onT1Timeout_cases {now : ℕ} (h : s.onT1Timeout prof now = .ok t) :
    (s.lastSent = none ∧ t = { s with t1At := none }) ∨
      ∃ p, s.lastSent = some p ∧
        ((∃ raw, s.retryCount < prof.maxRepetitions.toNat ∧ s.outOpen = true ∧
            p.frame.marshal prof.addrSize = .ok raw ∧ t = s.again p raw (now + prof.t2)) ∨
          (prof.maxRepetitions.toNat ≤ s.retryCount ∧ s.order.length ≠ 1 ∧
            t = s.abort p (.gaveUp p))) := by
  unfold onT1Timeout at h
  rcases hp : s.lastSent with _ | p
  -- no transaction is outstanding: the timer was left over
  · rw [hp] at h
    cases h
    exact .inl ⟨rfl, rfl⟩
  · rw [hp] at h
    refine .inr ⟨p, rfl, ?_⟩
    dsimp only at h
    split at h
    · next hlt =>
      -- repeated: the frame must still be written
      rcases hw : s.write prof p.frame with _ | raw
      · rw [hw] at h
        cases h
      · rw [hw] at h
        cases h
        obtain ⟨hopen, hraw⟩ := write_eq_some.mp hw
        exact .inl ⟨raw, hlt, hopen, hraw, by rw [again, hp]⟩
    -- the repetitions are used up; on a line to one station the link is closed instead
    · next hge =>
      split at h
      · cases h
      · next hlen =>
        cases h
        exact .inr ⟨not_lt.mp hge, hlen, rfl⟩

/-- One thing that happens to a primary: bookkeeping, or one of the events in the
life of a transaction. -/
inductive Act (prof : Profile α A) (s : Primary α A) : Primary α A → Prop
  | note {t : Primary α A} (h : Noted s t) : Act prof s t
  | begin {p : Pending α} {queue : List (Outgoing α A)} {raw : Octets} {due : ℕ}
      (hidle : s.lastSent = none) (hopen : s.outOpen = true) (hp : Begin prof s p queue)
      (hraw : p.frame.marshal prof.addrSize = .ok raw) :
      Act prof s ({ s with queue }.begun p raw due)
  | again {p : Pending α} {raw : Octets} {due : ℕ} (h : s.lastSent = some p)
      (hlt : s.retryCount < prof.maxRepetitions.toNat)
      (hraw : p.frame.marshal prof.addrSize = .ok raw) : Act prof s (s.again p raw due)
  | complete {p : Pending α} {frame : Frame} (h : s.lastSent = some p) :
      Act prof s (s.completeBy prof p frame)
  | fail {p : Pending α} (h : s.lastSent = some p) : Act prof s (s.abort p (.failed p))
  | giveUp {p : Pending α} (h : s.lastSent = some p) : Act prof s (s.abort p (.gaveUp p))
  | askReset {addr : α} (hidle : s.lastSent = none) : Act prof s (s.askReset addr)
  | push (out : Outgoing α A) : Act prof s (s.push out)
  | disarm (hidle : s.lastSent = none) : Act prof s { s with t1At := none }
  | close : Act prof s { s with outOpen := false }
  /-- The secondary role of a balanced station records a response or a delivery. -/
  | peer {o : Obs α A} (hbal : prof.polls = false)
      (ho : (∃ f raw, o = .replied f raw) ∨ ∃ a raw, o = .delivered a raw) :
      Act prof s { s with log := s.log ++ [o] }

/-- A sequence of acts. -/
abbrev Acts (prof : Profile α A) : Primary α A → Primary α A → Prop :=
  Relation.ReflTransGen (Act prof)

theorem Launch.acts (h : Launch prof s t) : Acts prof s t := by
  cases h with
  | note h => exact .single (.note h)
  | begin h hidle hopen hp hraw =>
    exact .trans (.single (.note h)) (.single (.begin hidle hopen hp hraw))

theorem Settle.acts {frame : Frame} {sender : Option α} (h : Settle prof frame sender s t) :
    Acts prof s t := by
  cases h with
  | ignored => exact .refl
  | completed h _ _ => exact .single (.complete h)
  | refused h _ _ => exact .single (.fail h)

theorem Answered.acts {frame : Frame} {sender : Option α} (h : Answered prof frame sender s t) :
    Acts prof s t := by
  obtain ⟨m, n, hm, hn, ht⟩ := h
  exact (Relation.ReflTransGen.single (.note hm)).trans (hn.acts.trans ht.acts)

theorem acts_onT1Timeout {now : ℕ} (h : s.onT1Timeout prof now = .ok t) : Acts prof s t := by
  rcases onT1Timeout_cases h with ⟨hidle, rfl⟩ | ⟨p, hp, ⟨raw, hlt, -, hraw, rfl⟩ | ⟨-, -, rfl⟩⟩
  · exact .single (.disarm hidle)
  · exact .single (.again hp hlt hraw)
  · exact .single (.giveUp hp)

end Primary

end Cs101
end Iec60870
