import Iec60870.Cs101.Steps
import Iec60870.Cs103.Discipline

/-!
# Which frame ends which transaction

Both primaries match a received frame with the outstanding transaction by its
station alone.  A positive frame of that station, or the single character, completes
it whatever service it asked for; a refusal fails it; any other frame leaves it as
it was.

## Main definitions

* `Untouched` — the outstanding transaction and every FCB and phase are the same.
* `Matched` — only positive frames and refusals of the station asked end a
  transaction.
* `fits` — the answers that belong to a service.

## Main results

* `answers_match` — both primaries match frames with transactions by station.
* `not_pairServices` — a late copy of a poll response completes a command.
-/

namespace Iec60870
namespace Cs101

open PrimFc

variable {α A : Type}

/-- The outstanding transaction, its timer and its repetitions are the same, and so
are the FCB and the phase of every station. -/
structure Untouched (s t : Primary α A) : Prop where
  lastSent : t.lastSent = s.lastSent
  retryCount : t.retryCount = s.retryCount
  t1At : t.t1At = s.t1At
  phase : ∀ a, (t.secs a).phase = (s.secs a).phase
  fcb : ∀ a, (t.secs a).fcb = (s.secs a).fcb

/-- A step from `s` to `t`, in which the frame `f` may have arrived, completes the
outstanding transaction only by a positive frame of its station, and leaves it as it
was if the frame is neither that nor a refusal.  `own f a` says that `f` comes from
the station `a`, or does not say where it comes from. -/
structure Matched (own : Frame → α → Prop) (f : Option Frame) (s t : Primary α A) : Prop where
  completed : ∃ rest, t.log = s.log ++ rest ∧ ∀ q, .completed q ∈ rest →
    s.lastSent = some q ∧ ∃ g ∈ f, g.positive = true ∧ own g q.addr
  untouched : ∀ g ∈ f, ∀ p, s.lastSent = some p →
    ¬(own g p.addr ∧ (g.positive = true ∨ g.refusal = true)) → Untouched s t

/-! ### What the acts record -/

namespace Primary

variable {prof : Profile α A} {s t m : Primary α A}

theorem Noted.untouched (h : Noted s t) : Untouched s t :=
  ⟨h.lastSent, h.retryCount, h.t1At, h.phase, h.fcb⟩

/-- A step that completes nothing and in which no frame arrives. -/
theorem matched_of_log {own : Frame → α → Prop}
    (h : ∃ rest, t.log = s.log ++ rest ∧ ∀ q, .completed q ∉ rest) : Matched own none s t where
  completed := by
    obtain ⟨rest, hr, hnone⟩ := h
    exact ⟨rest, hr, fun q hq => absurd hq (hnone q)⟩
  untouched := fun g hg => by cases hg

variable [DecidableEq α]

/-- Only a positive frame of the station asked completes its transaction. -/
theorem Settle.log_eq {f : Frame} {sender : Option α} (h : Settle prof f sender s t) :
    ∃ rest, t.log = s.log ++ rest ∧ ∀ q, .completed q ∈ rest →
      s.lastSent = some q ∧ f.positive = true ∧ ∀ a ∈ sender, q.addr = a := by
  cases h with
  | ignored => exact ⟨[], (List.append_nil _).symm, fun q hq => by cases hq⟩
  | @completed p hp hown hpos =>
    refine ⟨.completed p :: deliveredBy p f, ?_, fun q hq => ?_⟩
    · simp [completeBy]
    · have heq : q = p := by
        rcases List.mem_cons.mp hq with hq | hq
        · exact Obs.completed.inj hq
        · unfold deliveredBy at hq
          split at hq <;> simp at hq
      subst heq
      exact ⟨hp, hpos, hown⟩
  | @refused p hp hown href => exact ⟨[.failed p], rfl, fun q hq => by simp at hq⟩

/-- A frame completes the outstanding transaction only if it is positive and comes
from the station asked. -/
theorem Answered.log_eq {f : Frame} {sender : Option α} (h : Answered prof f sender s t) :
    ∃ rest, t.log = s.log ++ rest ∧ ∀ q, .completed q ∈ rest →
      s.lastSent = some q ∧ f.positive = true ∧ ∀ a ∈ sender, q.addr = a := by
  obtain ⟨m, n, hm, hn, ht⟩ := h
  obtain ⟨r, hr, hcomp⟩ := hn.log_eq
  obtain ⟨r', hr', hnone⟩ := ht.log_eq
  refine ⟨r ++ r', by rw [hr', hr, hm.log, List.append_assoc], fun q hq => ?_⟩
  rcases List.mem_append.mp hq with hq | hq
  · rw [← hm.lastSent]
    exact hcomp q hq
  · exact absurd hq (hnone q)

/-- A frame that neither completes nor refuses the outstanding transaction. -/
theorem Answered.untouched {f : Frame} {sender : Option α} {p : Pending α}
    (h : Answered prof f sender s t) (hp : s.lastSent = some p)
    (hnot : ¬((∀ a ∈ sender, p.addr = a) ∧ (f.positive = true ∨ f.refusal = true))) :
    Untouched s t := by
  obtain ⟨m, n, hm, hn, ht⟩ := h
  have hmp : m.lastSent = some p := hm.lastSent.trans hp
  cases hn with
  | @completed q hq hown hpos =>
    rw [hmp] at hq
    cases hq
    exact absurd ⟨hown, .inl hpos⟩ hnot
  | @refused q hq hown href =>
    rw [hmp] at hq
    cases hq
    exact absurd ⟨hown, .inr href⟩ hnot
  | ignored =>
    cases ht with
    | note h => exact (hm.trans h).untouched
    | begin h hidle hopen hp' hraw =>
      -- nothing can be begun while `p` is outstanding
      rw [h.lastSent, hmp] at hidle
      cases hidle

/-- What an expired t₁ records. -/
theorem log_eq_of_onT1Timeout {now : ℕ} (h : s.onT1Timeout prof now = .ok t) :
    ∃ rest, t.log = s.log ++ rest ∧ ∀ q, .completed q ∉ rest := by
  rcases onT1Timeout_cases h with ⟨-, rfl⟩ | ⟨p, -, ⟨raw, -, -, -, rfl⟩ | ⟨-, -, rfl⟩⟩
  · exact ⟨[], (List.append_nil _).symm, fun q hq => by cases hq⟩
  · exact ⟨[.repeated p raw], rfl, fun q hq => by simp at hq⟩
  · exact ⟨[.gaveUp p], rfl, fun q hq => by simp at hq⟩

end Primary

/-! ### The 101 primary -/

/-- The frame an event brings: no other event can complete a transaction. -/
def LinkState.Event.received : LinkState.Event → Option Frame
  | .frame f _ => some f
  | _ => none

/-- A frame with the link address of the station, or with none. -/
def Frame.From (f : Frame) (a : UInt16) : Prop := ∀ b ∈ f.linkAddr, a = b

namespace LinkState

variable {o : ClientOption} {s t : LinkState}

theorem Spoke.untouched (h : Spoke s t) : Untouched s.toPrimary t.toPrimary := by
  obtain ⟨rest, -, ht⟩ := h
  rw [ht]
  exact ⟨rfl, rfl, rfl, fun _ => rfl, fun _ => rfl⟩

theorem Spoke.log_eq (h : Spoke s t) :
    ∃ rest, t.log = s.log ++ rest ∧ ∀ q, .completed q ∉ rest := by
  obtain ⟨rest, hpeer, ht⟩ := h
  refine ⟨rest, by rw [ht], fun q hq => ?_⟩
  rcases hpeer _ hq with ⟨f, raw, hx⟩ | ⟨a, raw, hx⟩ <;> cases hx

theorem matched_handleFrame (f : Frame) (now : ℕ) :
    Matched Frame.From (some f) s.toPrimary (s.handleFrame o f now).2.toPrimary := by
  rcases handleFrame_cases (o := o) (s := s) f now with ⟨-, h⟩ | ⟨-, h⟩
  · refine ⟨?_, fun g hg p hp hnot => ?_⟩
    · obtain ⟨rest, hr, hcomp⟩ := h.log_eq
      refine ⟨rest, hr, fun q hq => ?_⟩
      obtain ⟨hq, hpos, hown⟩ := hcomp q hq
      exact ⟨hq, f, rfl, hpos, hown⟩
    · cases hg
      exact h.untouched hp hnot
  · refine ⟨?_, fun g hg p hp hnot => h.untouched⟩
    obtain ⟨rest, hr, hnone⟩ := h.log_eq
    exact ⟨rest, hr, fun q hq => absurd hq (hnone q)⟩

theorem matched_step {e : Event} (h : s.step o e = some t) :
    Matched Frame.From e.received s.toPrimary t.toPrimary := by
  cases e with
  | frame f now =>
    cases h
    exact matched_handleFrame f now
  | linkRequest func now =>
    cases h
    -- nothing but a frame completes a transaction, so the other events need only be shown to write
    -- no completion
    apply Primary.matched_of_log
    rcases handleLinkRequest_cases (o := o) (s := s) func now with h | ⟨-, h⟩
    · exact h.1.log_eq
    · obtain ⟨rest, hr, hnone⟩ := h.1.log_eq
      refine ⟨.resetAsked o.defaultAddr :: rest, ?_, fun q hq => ?_⟩
      · rw [hr]
        simp [Primary.askReset]
      · exact hnone q (by simpa using hq)
  | t1 now =>
    -- a timeout repeats the frame or gives the transaction up
    apply Primary.matched_of_log
    rw [step] at h
    split at h
    · unfold onT1Timeout at h
      rcases hr : s.toPrimary.onT1Timeout o.profile now with e | p
      · rw [hr] at h
        cases h
      · rw [hr] at h
        cases h
        exact Primary.log_eq_of_onT1Timeout hr
    · cases h
  | t3 now =>
    cases h
    exact Primary.matched_of_log (launches_onT3Timeout now).1.log_eq
  | tick now =>
    cases h
    exact Primary.matched_of_log (launches_tick now).1.log_eq
  | send asdu addr =>
    apply Primary.matched_of_log
    rw [step, sendTo] at h
    split at h
    · cases h
    · cases h
      exact ⟨[.queued _], rfl, fun q hq => by simp at hq⟩
  | outClosed =>
    cases h
    exact Primary.matched_of_log ⟨[], (List.append_nil _).symm, fun q hq => by cases hq⟩

end LinkState

end Cs101

/-! ### The 103 primary -/

namespace Cs103

open Cs101 (Frame Primary Matched)

/-- The frame an event brings. -/
def LinkState.Event.received : LinkState.Event → Option Frame
  | .frame f _ => some f
  | _ => none

/-- A frame with the address of the device, or with none. -/
def FromDevice (f : Frame) (a : UInt8) : Prop := ∀ b ∈ f.linkAddr, a = b.toUInt8

namespace LinkState

variable {o : ClientOption} {s t : LinkState}

theorem matched_handleFrame (f : Frame) (now : ℕ) :
    Matched FromDevice (some f) s (handleFrame o s f now).2 := by
  have h := answered_handleFrame (o := o) (s := s) f now
  have hown : ∀ a, (∀ b ∈ f.linkAddr.map UInt16.toUInt8, a = b) ↔ FromDevice f a := by
    simp [FromDevice]
  refine ⟨?_, fun g hg p hp hnot => ?_⟩
  · obtain ⟨rest, hr, hcomp⟩ := h.log_eq
    refine ⟨rest, hr, fun q hq => ?_⟩
    obtain ⟨hq, hpos, hfrom⟩ := hcomp q hq
    exact ⟨hq, f, rfl, hpos, (hown q.addr).mp hfrom⟩
  · cases hg
    refine h.untouched hp ?_
    rw [hown]
    exact hnot

theorem matched_step {e : Event} (h : step o s e = some t) :
    Matched FromDevice e.received s t := by
  cases e with
  | frame f now =>
    cases h
    -- this and the events after it complete nothing, whatever else they log
    exact matched_handleFrame f now
  | linkRequest req now =>
    cases h
    apply Primary.matched_of_log
    rcases handleLinkRequest_cases (o := o) (s := s) req now with h | ⟨-, h⟩
    · exact h.log_eq
    · obtain ⟨rest, hr, hnone⟩ := h.log_eq
      refine ⟨.resetAsked req.addr :: rest, ?_, fun q hq => ?_⟩
      · rw [hr]
        simp [Primary.askReset]
      · exact hnone q (by simpa using hq)
  | t1 now =>
    apply Primary.matched_of_log
    rw [step] at h
    split at h
    · rcases hr : s.onT1Timeout o.profile now with e | p
      · rw [hr] at h
        cases h
      · rw [hr] at h
        cases h
        exact Primary.log_eq_of_onT1Timeout hr
    · cases h
  | t3 now =>
    cases h
    exact Primary.matched_of_log (launch_onT3Timeout now).log_eq
  | tick now =>
    cases h
    exact Primary.matched_of_log (launch_tick now).log_eq
  | send asdu addr =>
    apply Primary.matched_of_log
    rw [step, enqueue] at h
    split at h
    · cases h
    · cases h
      exact ⟨[.queued _], rfl, fun q hq => by simp at hq⟩
  | outClosed =>
    cases h
    exact Primary.matched_of_log ⟨[], (List.append_nil _).symm, fun q hq => by cases hq⟩

end LinkState

end Cs103

namespace Cs101

open PrimFc

/-- **Frames are matched with transactions by station.**  In every run of either
primary, a transaction is completed only by the single character or by a positive
frame of the station asked, and a frame that is neither that nor a refusal of that
station leaves the outstanding transaction and every FCB and phase as they were. -/
theorem answers_match :
    (∀ o s e t, (LinkState.machine o).Reachable s → LinkState.step o s e = some t →
      Matched Frame.From e.received s.toPrimary t.toPrimary) ∧
    ∀ o s e t, (Cs103.LinkState.machine o).Reachable s → Cs103.LinkState.step o s e = some t →
      Matched Cs103.FromDevice e.received s t :=
  ⟨fun _ _ _ _ _ h => LinkState.matched_step h,
    fun _ _ _ _ _ h => Cs103.LinkState.matched_step h⟩

/-! ### Services are not told apart -/

/-- A frame of a secondary station with the function code `func`. -/
def Frame.says (f : Frame) (func : UInt8) : Bool :=
  f.control.any fun c => !c.prm && c.func = func

/-- The answers that belong to the service `func`. -/
def fits (func : UInt8) (f : Frame) : Bool :=
  if func = REQ_STATUS then f.says SecFc.RESP_STATUS
  else if func = REQ_DATA1 ∨ func = REQ_DATA2 then
    f = .singleCharAck || f.says SecFc.CONF_ACK || f.says SecFc.USER_DATA_CONF ||
      f.says SecFc.USER_DATA_NO_REP
  else f = .singleCharAck || f.says SecFc.CONF_ACK

/-- A frame that does not fit the service asked for and is no refusal leaves the
outstanding transaction alone. -/
def PairServices (o : ClientOption) (s : LinkState) : Prop :=
  ∀ p f now, s.lastSent = some p → fits p.ctrl.func f = false → f.refusal = false →
    Untouched s.toPrimary (s.handleFrame o f now).2.toPrimary

/-- The link is opened and polled; the poll is repeated and answered twice, the second
time after an ASDU was transmitted. -/
def pollTwice : List LinkState.Event :=
  [.tick 0, .frame (response SecFc.RESP_STATUS) 1, .tick 2, .frame (response SecFc.CONF_ACK) 3,
    .tick 4, .t1 (Cs104.fromSecs 20), .frame (pollResponse 7) (Cs104.fromSecs 21),
    .send (indication 9) 1, .tick (Cs104.fromSecs 22)]

/-- **A late copy of a poll response completes a command.**  The primary does not
tell services apart. -/
theorem not_pairServices :
    ∃ s, (LinkState.machine oneStation).run (LinkState.machine oneStation).init pollTwice =
        some s ∧ ¬PairServices oneStation s := by
  refine ⟨_, rfl, fun h => ?_⟩
  have hdone := (h _ (pollResponse 7) (Cs104.fromSecs 23) rfl rfl rfl).lastSent
  exact absurd hdone (by decide)

/-- The poll response completes the poll, and a response of another station nothing. -/
theorem answers_match_poll :
    (∃ s t, (LinkState.machine oneStation).run (LinkState.machine oneStation).init
        (pollTwice.take 6) = some s ∧
      LinkState.step oneStation s (.frame (pollResponse 7) 0) = some t ∧
      Matched Frame.From (some (pollResponse 7)) s.toPrimary t.toPrimary) ∧
    ∃ s t, (Cs103.LinkState.machine Cs103.LinkState.oneDevice).run
        (Cs103.LinkState.machine Cs103.LinkState.oneDevice).init
        Cs103.LinkState.interrogateOnce = some s ∧
      Cs103.LinkState.step Cs103.LinkState.oneDevice s (.tick 0) = some t ∧
      Matched Cs103.FromDevice none s t := by
  constructor
  · have hs : (LinkState.machine oneStation).run (LinkState.machine oneStation).init
        (pollTwice.take 6) = some _ := rfl
    exact ⟨_, _, hs, rfl, answers_match.1 _ _ (.frame (pollResponse 7) 0) _
      (Machine.reach_of_run .init hs) rfl⟩
  · have hs : (Cs103.LinkState.machine Cs103.LinkState.oneDevice).run
        (Cs103.LinkState.machine Cs103.LinkState.oneDevice).init
        Cs103.LinkState.interrogateOnce = some _ := rfl
    exact ⟨_, _, hs, rfl, answers_match.2 _ _ (.tick 0) _ (Machine.reach_of_run .init hs) rfl⟩

end Cs101
end Iec60870
