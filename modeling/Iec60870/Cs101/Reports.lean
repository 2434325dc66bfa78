import Iec60870.Cs101.Steps

/-!
# What a frame makes known

The handler of a received frame tells the protocol loop which links it activated and
whether its user data is new.  This is what the history records: a link is activated
by each reset that is completed, and what is delivered is recorded as delivered.

## Main definitions

* `Obs.report` — what an entry of the history makes known to the loop.
* `FrameOutcome.reports` — what the loop is told.
* `Primary.Reports` — a step makes known what is listed.
* `LinkState.told` — what the protocol loop is told at an event.

## Main results

* `reports_handleSecondary` — a frame makes known what its outcome says.
* `LinkState.reports_handleFrame` — so it is for the 101 primary, in either mode.
* `LinkState.reports_of_step` — **the history of a 101 primary records as delivered what
  its loop is told to deliver, and nothing else.**
-/

namespace Iec60870
namespace Cs101

open PrimFc

/-- What the protocol loop is told by the handler of a frame. -/
inductive Report (α : Type)
  /-- The link of a station became active. -/
  | active (addr : α)
  /-- User data for the application. -/
  | data (asdu : Octets)
  deriving DecidableEq, Repr

variable {α A : Type}

/-- What an entry of the history makes known. -/
def Obs.report (resets : List UInt8) : Obs α A → Option (Report α)
  | .completed p => if p.ctrl.func ∈ resets then some (.active p.addr) else none
  | .delivered _ raw => some (.data raw)
  | _ => none

/-- What the handler of `frame` tells the loop. -/
def FrameOutcome.reports (out : FrameOutcome α) (frame : Frame) : List (Report α) :=
  out.newlyActive.map .active ++ if out.deliver then (frame.asdu.map .data).toList else []

namespace Primary

variable {prof : Profile α A} {s t m : Primary α A} {rs rs' : List (Report α)}

/-- A step from `s` to `t` makes known what `rs` lists, in order. -/
def Reports (prof : Profile α A) (rs : List (Report α)) (s t : Primary α A) : Prop :=
  ∃ rest, t.log = s.log ++ rest ∧ rest.filterMap (Obs.report prof.resets) = rs

theorem Reports.refl (s : Primary α A) : Reports prof [] s s :=
  ⟨[], (List.append_nil _).symm, rfl⟩

theorem Reports.of_log (h : t.log = s.log) : Reports prof [] s t :=
  ⟨[], by rw [h, List.append_nil], rfl⟩

theorem Reports.trans (h : Reports prof rs s m) (h' : Reports prof rs' m t) :
    Reports prof (rs ++ rs') s t := by
  obtain ⟨rest, hlog, rfl⟩ := h
  obtain ⟨rest', hlog', rfl⟩ := h'
  exact ⟨rest ++ rest', by rw [hlog', hlog, List.append_assoc], List.filterMap_append⟩

/-- A step that makes nothing known comes before or after one that does. -/
theorem Reports.after (h : Reports prof [] s m) (h' : Reports prof rs m t) : Reports prof rs s t :=
  h.trans h'

theorem Reports.before (h : Reports prof rs s m) (h' : Reports prof [] m t) : Reports prof rs s t :=
  List.append_nil rs ▸ h.trans h'

/-! ### Beginning a transaction -/

theorem reports_transmit (p : Pending α) (now : ℕ) :
    Reports prof [] s (s.transmit prof p now).2 := by
  rcases @transmit_cases _ _ prof s p now with h | ⟨raw, -, -, h⟩
  · rw [h]
    exact .refl s
  · rw [h]
    exact ⟨[.began p raw], rfl, rfl⟩

theorem Noted.reports (h : Noted s t) : Reports prof [] s t := .of_log h.log

variable [DecidableEq α]

theorem Launch.reports (h : Launch prof s t) : Reports prof [] s t := by
  cases h with
  | note h => exact h.reports
  | @begin m p queue raw due h hidle hopen hp hraw =>
    exact h.reports.after ⟨[.began p raw], rfl, rfl⟩

theorem reports_accessDemand (ctrl : ControlField) (addr : α) (now : ℕ) :
    Reports prof [] s (s.accessDemand prof ctrl addr now) := by
  unfold accessDemand
  dsimp only
  split_ifs
  · exact reports_transmit (s := s.modify addr fun sec => { sec with wantClass1 := true }) _ now
  · exact .of_log rfl
  · exact .refl s

/-! ### Ending a transaction -/

/-- A completed reset is what activates a link. -/
theorem reports_complete (p : Pending α) :
    Reports prof (if p.ctrl.func ∈ prof.resets then [.active p.addr] else []) s
      (s.complete prof p) := by
  refine ⟨[.completed p], rfl, ?_⟩
  by_cases h : p.ctrl.func ∈ prof.resets
  · simp [Obs.report, h]
  · simp [Obs.report, h]

/-- What a confirmation tells of the links it activated. -/
theorem reports_confirmPositive (sender : Option α) :
    Reports prof
      (((s.confirmPositive prof sender).1.bind (·.becameActive)).toList.map .active) s
      (s.confirmPositive prof sender).2 := by
  unfold confirmPositive
  cases s.lastSent with
  | none => exact .refl s
  | some p =>
    dsimp only
    split
    · exact .refl s
    · have h : Reports prof _ s (s.complete prof p) := reports_complete p
      by_cases hreset : p.ctrl.func ∈ prof.resets
      · simpa [hreset] using h
      · simpa [hreset] using h

theorem reports_confirm (sender : Option α) :
    Reports prof ((s.confirm prof sender).1.newlyActive.map .active) s
        (s.confirm prof sender).2 ∧
      (s.confirm prof sender).1.deliver = false := by
  have h : Reports prof _ s (s.confirmPositive prof sender).2 := reports_confirmPositive sender
  unfold confirm
  rcases hp : s.confirmPositive prof sender with ⟨_ | c, q⟩ <;> rw [hp] at h
  · exact ⟨h, rfl⟩
  · exact ⟨h, rfl⟩

/-- User data that answers a request for class data is delivered. -/
theorem reports_confirmData (addr : α) (raw : Octets) :
    Reports prof ((s.confirmData prof addr raw).1.newlyActive.map .active ++
      if (s.confirmData prof addr raw).1.deliver then [.data raw] else []) s
      (s.confirmData prof addr raw).2 := by
  have h : Reports prof _ s (s.confirmPositive prof (some addr)).2 :=
    reports_confirmPositive (some addr)
  unfold confirmData
  rcases hp : s.confirmPositive prof (some addr) with ⟨_ | c, q⟩ <;> rw [hp] at h
  · exact h
  · dsimp only
    split
    · exact h.trans ⟨[.delivered addr raw], rfl, rfl⟩
    · exact h.trans (.refl q)

theorem reports_failTransaction (addr : α) : Reports prof [] s (s.failTransaction addr) := by
  unfold failTransaction
  cases s.lastSent with
  | none => exact .refl s
  | some p =>
    dsimp only
    split
    · exact .refl s
    · exact ⟨[.failed p], rfl, rfl⟩

/-! ### A received frame -/

omit [DecidableEq α] in
/-- What is told without user data. -/
theorem reports_of_confirm {r : FrameOutcome α × Primary α A} (frame : Frame)
    (h : Reports prof (r.1.newlyActive.map .active) s r.2 ∧ r.1.deliver = false) :
    Reports prof (r.1.reports frame) s r.2 := by
  unfold FrameOutcome.reports
  rw [h.2, if_neg Bool.false_ne_true, List.append_nil]
  exact h.1

theorem reports_answer (frame : Frame) (ctrl : ControlField) (addr : α) :
    Reports prof ((s.answer prof frame ctrl addr).1.reports frame) s
      (s.answer prof frame ctrl addr).2 := by
  cases frame with
  | singleCharAck => exact .refl s
  | fixed c b =>
    simp only [answer]
    split_ifs
    · exact reports_of_confirm _ (reports_confirm _)
    · exact .refl s
    · exact reports_of_confirm _ (reports_confirm _)
    · exact reports_of_confirm _ (reports_confirm _)
    · exact reports_failTransaction addr
    · exact .refl s
  | variable' c b raw =>
    simp only [answer]
    split_ifs
    · exact reports_confirmData addr raw
    · exact reports_of_confirm _ (reports_confirm _)
    · exact .refl s

/-- **A frame of a secondary station makes known what its handler tells the loop.** -/
theorem reports_handleSecondary (frame : Frame) (ctrl : ControlField) (addr : α) (now : ℕ) :
    Reports prof ((s.handleSecondary prof frame ctrl addr now).1.reports frame) s
      (s.handleSecondary prof frame ctrl addr now).2 := by
  have hnote : Reports prof [] s (s.modify addr fun sec => { sec with busy := ctrl.dfc }) :=
    .of_log rfl
  exact (hnote.after (reports_answer frame ctrl addr)).before (reports_accessDemand ctrl addr now)

/-! ### Everything else -/

theorem reports_onT1Timeout {now : ℕ} (h : s.onT1Timeout prof now = .ok t) :
    Reports prof [] s t := by
  rcases onT1Timeout_cases h with ⟨-, rfl⟩ | ⟨p, -, ⟨raw, -, -, -, rfl⟩ | ⟨-, -, rfl⟩⟩
  · exact .of_log rfl
  · exact ⟨[.repeated p raw], rfl, rfl⟩
  · exact ⟨[.gaveUp p], rfl, rfl⟩

omit [DecidableEq α] in
theorem reports_push (out : Outgoing α A) : Reports prof [] s (s.push out) :=
  ⟨[.queued out], rfl, rfl⟩

theorem reports_askReset (addr : α) : Reports prof [] s (s.askReset addr) :=
  ⟨[.resetAsked addr], rfl, rfl⟩

end Primary

/-! ### The 101 primary -/

namespace LinkState

open Primary (Reports reports_transmit reports_handleSecondary reports_confirm reports_of_confirm
  reports_onT1Timeout reports_push reports_askReset)

variable {o : ClientOption} {s t : LinkState}

/-- What the protocol loop is told at an event: what the handler of a frame returns. -/
def told (o : ClientOption) (s : LinkState) : Event → List (Report UInt16)
  | .frame f now => (s.handleFrame o f now).1.reports f
  | _ => []

theorem reports_sendSecFixed (func : UInt8) (addr : UInt16) :
    Reports o.profile [] s.toPrimary (s.sendSecFixed o func addr).toPrimary := by
  unfold sendSecFixed
  dsimp only
  split
  · exact .refl _
  · exact ⟨[.replied _ _], rfl, rfl⟩

/-- What is done with a frame of the peer makes nothing known but its user data. -/
theorem reports_handlePeerPrimaryFrame (ctrl : ControlField) (addr : UInt16) :
    Reports o.profile [] s.toPrimary (s.handlePeerPrimaryFrame o ctrl addr).2.toPrimary := by
  have hserve (u : LinkState) (h : u.log = s.log) :
      Reports o.profile [] s.toPrimary (u.servePeer o ctrl addr).2.toPrimary := by
    have hu : Reports o.profile [] s.toPrimary u.toPrimary := .of_log h
    unfold servePeer
    split_ifs
    · exact hu.after (reports_sendSecFixed (s := { u with fcbExpected := true }) _ _)
    · exact hu.after (reports_sendSecFixed _ _)
    · exact hu.after (reports_sendSecFixed _ _)
    · exact hu
    · exact hu.after (reports_sendSecFixed _ _)
    · exact hu.after (reports_sendSecFixed _ _)
  unfold handlePeerPrimaryFrame
  split_ifs
  · exact .refl _
  · exact reports_sendSecFixed _ _
  · exact hserve _ rfl
  · exact hserve _ rfl

theorem reports_report (f : Frame) (addr : UInt16) :
    Reports o.profile (f.asdu.map .data).toList s.toPrimary (s.report f addr).toPrimary := by
  unfold report
  cases f.asdu with
  | none => exact .refl _
  | some raw => exact ⟨[.delivered addr raw], rfl, rfl⟩

theorem reports_handleAddressed (f : Frame) (ctrl : ControlField) (addr : UInt16) (now : ℕ) :
    Reports o.profile ((s.handleAddressed o f ctrl addr now).1.reports f) s.toPrimary
      (s.handleAddressed o f ctrl addr now).2.toPrimary := by
  unfold handleAddressed
  split
  · exact .refl _
  · split
    · split
      · have h := reports_handlePeerPrimaryFrame (o := o) (s := s) ctrl addr
        rcases hp : s.handlePeerPrimaryFrame o ctrl addr with ⟨_ | _, u⟩ <;> rw [hp] at h
        · exact h
        · exact h.after (reports_report f addr)
      · exact .refl _
    · exact reports_handleSecondary f ctrl addr now

/-- **A frame makes known what its handler tells the loop**, in either mode. -/
theorem reports_handleFrame (f : Frame) (now : ℕ) :
    Reports o.profile ((s.handleFrame o f now).1.reports f) s.toPrimary
      (s.handleFrame o f now).2.toPrimary := by
  cases f with
  | singleCharAck => exact reports_of_confirm _ (reports_confirm none)
  | fixed ctrl addr => exact reports_handleAddressed _ ctrl addr now
  | variable' ctrl addr raw => exact reports_handleAddressed _ ctrl addr now

/-- **A step records what the protocol loop is told**: a frame what its handler returns,
everything else nothing. -/
theorem reports_of_step {e : Event} (h : s.step o e = some t) :
    Reports o.profile (s.told o e) s.toPrimary t.toPrimary := by
  cases e with
  | frame f now =>
    cases h
    exact reports_handleFrame f now
  | linkRequest func now =>
    cases h
    rcases handleLinkRequest_cases (o := o) (s := s) func now with h | ⟨-, h⟩
    · exact h.1.reports
    · exact (reports_askReset o.defaultAddr).after h.1.reports
  | t1 now => exact reports_onT1Timeout (onT1Timeout_of_step h)
  | t3 now =>
    cases h
    exact (launches_onT3Timeout now).1.reports
  | tick now =>
    cases h
    exact (launches_tick now).1.reports
  | send asdu addr =>
    rw [step, sendTo] at h
    split at h
    · cases h
    · cases h
      exact reports_push _
  | outClosed =>
    cases h
    exact .of_log rfl

end LinkState

end Cs101
end Iec60870
