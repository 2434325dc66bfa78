import Iec60870.Cs101.Steps

/-!
# The polling order

`tick` indexes the polling order at a place it keeps from one poll to the next.  The
order is that of the configuration for ever, and the place stays inside it.

## Main definitions

* `Primary.ring` — the polling order and the place in it.

## Main results

* `LinkState.inRing_step` — every step keeps the polling order and a place in it.
* `LinkState.inRing_of_reach` — in every run the place is inside the configured order.
-/

namespace Iec60870
namespace Cs101

namespace Primary

variable {α A : Type} {prof : Profile α A}

/-- The polling order and the place in it. -/
def ring (p : Primary α A) : List α × ℕ := (p.order, p.pollIdx)

theorem inRing_of_eq {p q : Primary α A} (h : ring q = ring p)
    (hidx : p.pollIdx < p.order.length) : q.pollIdx < q.order.length := by
  have horder : q.order = p.order := congrArg Prod.fst h
  have hpoll : q.pollIdx = p.pollIdx := congrArg Prod.snd h
  rw [horder, hpoll]
  exact hidx

section Ring

variable (p : Primary α A)

theorem ring_transmit (q : Pending α) (now : ℕ) :
    ring (p.transmit prof q now).2 = ring p := by
  unfold Primary.transmit
  cases p.write prof q.frame <;> rfl

variable [DecidableEq α]

theorem ring_trySendQueued (now : ℕ) : ring (p.trySendQueued prof now).2 = ring p := by
  unfold Primary.trySendQueued
  rcases p.takeQueued p.queue with ⟨_ | out, queue⟩
  · rfl
  · dsimp only
    cases prof.marshal out.asdu with
    | error => rfl
    | ok raw => exact ring_transmit { p with queue } _ now

theorem ring_confirmPositive (sender : Option α) :
    ring (p.confirmPositive prof sender).2 = ring p := by
  unfold Primary.confirmPositive
  cases p.lastSent with
  | none => rfl
  | some q =>
    dsimp only
    split <;> rfl

theorem ring_confirm (sender : Option α) :
    ring (p.confirm prof sender).2 = ring p := by
  have h : ring (p.confirmPositive prof sender).2 = ring p := ring_confirmPositive p sender
  unfold Primary.confirm
  rcases hp : p.confirmPositive prof sender with ⟨_ | c, q⟩ <;> rw [hp] at h <;> exact h

theorem ring_confirmData (addr : α) (raw : Octets) :
    ring (p.confirmData prof addr raw).2 = ring p := by
  have h : ring (p.confirmPositive prof (some addr)).2 = ring p :=
    ring_confirmPositive p (some addr)
  unfold Primary.confirmData
  rcases hp : p.confirmPositive prof (some addr) with ⟨_ | c, q⟩
  · rw [hp] at h
    exact h
  · rw [hp] at h
    dsimp only
    split <;> exact h

theorem ring_failTransaction (addr : α) : ring (p.failTransaction addr) = ring p := by
  unfold Primary.failTransaction
  cases p.lastSent with
  | none => rfl
  | some q =>
    dsimp only
    split <;> rfl

theorem ring_answer (frame : Frame) (ctrl : ControlField) (addr : α) :
    ring (p.answer prof frame ctrl addr).2 = ring p := by
  cases frame with
  | singleCharAck => rfl
  | fixed =>
    simp only [Primary.answer]
    split_ifs
    · exact ring_confirm p _
    · rfl
    · exact ring_confirm p _
    · exact ring_confirm p _
    · exact ring_failTransaction p _
    · rfl
  | variable' _ _ raw =>
    simp only [Primary.answer]
    split_ifs
    · exact ring_confirmData p _ _
    · exact ring_confirm p _
    · rfl

theorem ring_accessDemand (ctrl : ControlField) (addr : α) (now : ℕ) :
    ring (p.accessDemand prof ctrl addr now) = ring p := by
  unfold Primary.accessDemand
  dsimp only
  split_ifs
  · exact ring_transmit (p.modify addr _) _ now
  · rfl
  · rfl

theorem ring_handleSecondary (frame : Frame) (ctrl : ControlField) (addr : α) (now : ℕ) :
    ring (p.handleSecondary prof frame ctrl addr now).2 = ring p :=
  (ring_accessDemand _ ctrl addr now).trans
    (ring_answer (p.modify addr fun sec => { sec with busy := ctrl.dfc }) frame ctrl addr)

theorem ring_onT1Timeout {now : ℕ} {q : Primary α A}
    (h : p.onT1Timeout prof now = .ok q) : ring q = ring p := by
  unfold Primary.onT1Timeout at h
  split at h
  · cases h
    rfl
  · split_ifs at h
    · split at h
      · cases h
      · cases h
        rfl
    · cases h
      rfl

end Ring

end Primary

namespace LinkState

open Primary

variable {o : ClientOption} {s : LinkState}

theorem ring_of_spoke {u : LinkState} (h : s.Spoke u) : ring u.toPrimary = ring s.toPrimary := by
  obtain ⟨rest, -, hu⟩ := h
  rw [hu]
  rfl

/-- A received frame leaves the polling order alone. -/
theorem ring_handleFrame (frame : Frame) (now : ℕ) :
    ring (s.handleFrame o frame now).2.toPrimary = ring s.toPrimary := by
  have haddr : ∀ ctrl addr, ring (s.handleAddressed o frame ctrl addr now).2.toPrimary =
      ring s.toPrimary := by
    intro ctrl addr
    have hpeer := spoke_handlePeerPrimaryFrame (o := o) (s := s) ctrl addr
    unfold handleAddressed
    split_ifs
    · rfl
    · dsimp only
      split_ifs
      · exact ring_of_spoke (hpeer.trans (spoke_report frame addr))
      · exact ring_of_spoke hpeer
    · rfl
    · exact ring_handleSecondary _ _ _ _ _
  cases frame with
  | singleCharAck => exact ring_confirm _ _
  | fixed ctrl addr => exact haddr ctrl addr
  | variable' ctrl addr raw => exact haddr ctrl addr

theorem ring_handleLinkRequest (func : UInt8) (now : ℕ) :
    ring (s.handleLinkRequest o func now).toPrimary = ring s.toPrimary := by
  unfold handleLinkRequest
  dsimp only
  split_ifs
  · rfl
  · exact ring_transmit (s.askReset o.defaultAddr) _ now
  · exact ring_transmit _ _ now
  · exact ring_transmit _ _ now
  · rfl
  · rfl

theorem ring_onT3Timeout (now : ℕ) : ring (s.onT3Timeout o now).toPrimary = ring s.toPrimary := by
  unfold onT3Timeout
  split_ifs
  · rfl
  · split
    · rfl
    · exact ring_transmit _ _ now

theorem inRing_poll (now n : ℕ) (hidx : s.pollIdx < s.order.length) :
    (poll o now n s).order = s.order ∧
      (poll o now n s).pollIdx < s.order.length := by
  induction n generalizing s with
  | zero => exact ⟨rfl, hidx⟩
  | succ n ih =>
    have hnext : (s.pollIdx + 1) % s.order.length < s.order.length :=
      Nat.mod_lt _ (Nat.zero_lt_of_lt hidx)
    -- one turn of the loop moves the cursor before it looks at the station
    let s' : LinkState := { s with pollIdx := (s.pollIdx + 1) % s.order.length }
    have hsent : ∀ q : Pending UInt16,
        (s'.toPrimary.transmit o.profile q now).2.order = s.order ∧
          (s'.toPrimary.transmit o.profile q now).2.pollIdx < s.order.length := by
      intro q
      have hring := @ring_transmit _ _ o.profile s'.toPrimary q now
      refine ⟨congrArg Prod.fst hring, ?_⟩
      have hpoll : (s'.toPrimary.transmit o.profile q now).2.pollIdx = s'.pollIdx :=
        congrArg Prod.snd hring
      rw [hpoll]
      exact hnext
    rw [poll, List.getElem?_eq_getElem hidx]
    dsimp only
    split
    · exact hsent _
    · exact hsent _
    · split_ifs
      -- on a balanced line an active station is passed over, and the loop goes on
      · exact ih (s := s') hnext
      · exact hsent _
      · exact hsent _

/-- A tick stays within the polling order. -/
theorem inRing_tick (now : ℕ) (hidx : s.pollIdx < s.order.length) :
    (s.tick o now).order = s.order ∧ (s.tick o now).pollIdx < s.order.length := by
  unfold tick
  split_ifs
  · exact ⟨rfl, hidx⟩
  · have hring := @ring_trySendQueued _ _ o.profile s.toPrimary _ now
    rcases hsend : s.toPrimary.trySendQueued o.profile now with ⟨sent, p⟩
    rw [hsend] at hring
    have horder : p.order = s.order := congrArg Prod.fst hring
    have hidx' : p.pollIdx < p.order.length := inRing_of_eq hring hidx
    dsimp only
    split_ifs
    · exact ⟨horder, horder ▸ hidx'⟩
    · have h := inRing_poll (o := o) (s := { s with toPrimary := p }) now p.order.length hidx'
      exact ⟨h.1.trans horder, horder ▸ h.2⟩

/-- Every step keeps the polling order and a place in it. -/
theorem inRing_step {s' : LinkState} {e : Event} (h : s.step o e = some s')
    (hidx : s.pollIdx < s.order.length) :
    s'.order = s.order ∧ s'.pollIdx < s'.order.length := by
  -- only a tick moves the cursor
  have hkeep : ring s'.toPrimary = ring s.toPrimary →
      s'.order = s.order ∧ s'.pollIdx < s'.order.length :=
    fun hring => ⟨congrArg Prod.fst hring, inRing_of_eq hring hidx⟩
  cases e with
  | frame f now =>
    cases h
    exact hkeep (ring_handleFrame f now)
  | linkRequest func now =>
    cases h
    exact hkeep (ring_handleLinkRequest func now)
  | t1 now => exact hkeep (ring_onT1Timeout _ (onT1Timeout_of_step h))
  | t3 now =>
    cases h
    exact hkeep (ring_onT3Timeout now)
  | tick now =>
    cases h
    obtain ⟨horder, hlt⟩ := inRing_tick (o := o) now hidx
    exact ⟨horder, horder ▸ hlt⟩
  | send asdu addr =>
    rw [step, sendTo] at h
    split at h
    · cases h
    · cases h
      exact ⟨rfl, hidx⟩
  | outClosed =>
    cases h
    exact ⟨rfl, hidx⟩

theorem addresses_length_pos : 0 < o.addresses.length := by
  unfold ClientOption.addresses
  split_ifs with h
  · exact Nat.one_pos
  · push Not at h
    exact List.length_pos_iff.mpr fun hnil => h.1 (List.isEmpty_iff.mpr hnil)

/-- In every run the place is inside the configured order. -/
theorem inRing_of_reach (h : (machine o).Reachable s) :
    s.order = o.addresses ∧ s.pollIdx < s.order.length :=
  h.invariant (P := fun s => s.order = o.addresses ∧ s.pollIdx < s.order.length)
    ⟨rfl, addresses_length_pos⟩ fun _ _ _ hs _ hn =>
      have hring := inRing_step hn hs.2
      ⟨hring.1.trans hs.1, hring.2⟩

end LinkState

end Cs101
end Iec60870
