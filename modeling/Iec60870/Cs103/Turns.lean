import Iec60870.Cs101.Turns
import Iec60870.Cs103.Holding

/-!
# The turns of the devices

The 103 primary serves one device a tick, round robin, like an unbalanced 101 primary.

## Main results

* `LinkState.served_in_turn` — **every device has its turn.**
-/

namespace Iec60870
namespace Cs103

open Cs101 (Frame ControlField Primary)
open Cs101.PrimFc
open Cs101.Primary

namespace LinkState

variable {o : ClientOption} {s t : LinkState}

/-! ### The cursor -/

theorem ring_handleAddressed (f : Frame) (ctrl : ControlField) (addr : UInt8) (now : ℕ) :
    ring (handleAddressed o s f ctrl addr now).2 = ring s := by
  unfold handleAddressed
  split
  · rfl
  · split
    · rfl
    · exact ring_handleSecondary _ _ _ _ _

/-- Nothing but a tick moves the cursor, and the devices stay the same. -/
theorem ring_of_step {e : Event} (he : ∀ now, e ≠ .tick now) (h : step o s e = some t) :
    ring t = ring s := by
  cases e with
  | tick now => exact absurd rfl (he now)
  | frame f now =>
    cases h
    -- an answer may complete the transaction, which leaves the cursor alone
    cases f with
    | singleCharAck => exact ring_confirm _ _
    | fixed ctrl addr => exact ring_handleAddressed _ _ _ _
    | variable' ctrl addr raw => exact ring_handleAddressed _ _ _ _
  | linkRequest req now =>
    cases h
    -- a manual request transmits for the station it names
    unfold handleLinkRequest
    split
    · rfl
    · split
      · rfl
      · split_ifs
        · exact ring_transmit (s.askReset req.addr) _ now
        · exact ring_transmit _ _ now
        · exact ring_transmit _ _ now
        · rfl
  | t1 now =>
    rw [step] at h
    split at h
    · rcases hr : s.onT1Timeout o.profile now with e | u <;> rw [hr] at h <;> cases h
      exact ring_onT1Timeout _ hr
    · cases h
  | t3 now =>
    cases h
    unfold onT3Timeout
    split
    · rfl
    · split
      · rfl
      · exact ring_transmit _ _ now
  | send asdu addr =>
    rw [step, enqueue] at h
    split at h
    · cases h
    · cases h
      rfl
  | outClosed =>
    cases h
    rfl

/-- The place an event serves. -/
def turnAt (o : ClientOption) (s : LinkState) : Event → Option ℕ
  | .tick now => s.turn o.profile now
  | _ => none

/-- A tick serves the device at the cursor, or sends user data. -/
theorem tick_cases (now : ℕ) (hidx : s.pollIdx < s.order.length) :
    (s.turn o.profile now = none ∧ ring (tick o s now) = ring s) ∨
      (s.turn o.profile now = some s.pollIdx ∧
        ring (tick o s now) = (s.order, (s.pollIdx + 1) % s.order.length) ∧
        ∃ m : LinkState, m.log = s.log ∧ m.outOpen = s.outOpen ∧ m.secs = s.secs ∧
          tick o s now = sendPrimConfirmed o m s.order[s.pollIdx]
            (due (s.secs s.order[s.pollIdx])).1 (due (s.secs s.order[s.pollIdx])).2 now) := by
  have hring := @ring_trySendQueued _ _ o.profile s _ now
  have hnoted := @launch_trySendQueued _ _ o.profile s _ now
  have hsecs := @secs_trySendQueued _ _ _ o.profile s now
  unfold tick turn
  by_cases hidle : s.lastSent.isSome = true
  · rw [if_pos hidle, if_pos (.inl hidle)]
    exact .inl ⟨rfl, rfl⟩
  · rw [if_neg hidle]
    rcases hr : s.trySendQueued o.profile now with ⟨_ | _, p⟩
    · -- nothing was sent: the device at the cursor is served
      rw [hr] at hring hnoted hsecs
      have horder : p.order = s.order := congrArg Prod.fst hring
      have hpoll : p.pollIdx = s.pollIdx := congrArg Prod.snd hring
      have hp : Noted s p := (hnoted (Option.not_isSome_iff_eq_none.mp hidle)).2 rfl
      have hget : p.order[p.pollIdx]? = some s.order[s.pollIdx] := by
        rw [horder, hpoll]
        exact List.getElem?_eq_getElem hidx
      dsimp only
      rw [if_neg (fun h => h.elim hidle Bool.false_ne_true), if_neg Bool.false_ne_true, hget]
      refine .inr ⟨rfl, ?_, { p with pollIdx := (p.pollIdx + 1) % p.order.length }, hp.log,
        hp.outOpen, hsecs, by rw [← hsecs]⟩
      refine (@ring_transmit _ _ o.profile
        { p with pollIdx := (p.pollIdx + 1) % p.order.length } _ now).trans ?_
      show (p.order, (p.pollIdx + 1) % p.order.length) = _
      rw [hpoll, horder]
    · -- user data was sent
      rw [hr] at hring
      exact .inl ⟨if_pos (.inr rfl), hring⟩

theorem addresses_length_pos : 0 < o.addresses.length := by
  unfold ClientOption.addresses
  split_ifs with h
  · exact Nat.one_pos
  · exact List.length_pos_iff.mpr fun hnil => h (List.isEmpty_iff.mpr hnil)

/-- In every run the cursor is inside the configured order. -/
theorem inRing_of_reach (h : (machine o).Reachable s) :
    s.order = o.addresses ∧ s.pollIdx < s.order.length := by
  refine h.invariant (P := fun s => s.order = o.addresses ∧ s.pollIdx < s.order.length)
    ⟨rfl, addresses_length_pos⟩ fun u e v hu _ hn => ?_
  have hkeep : ring v = ring u → v.order = o.addresses ∧ v.pollIdx < v.order.length :=
    fun hring => ⟨(congrArg Prod.fst hring).trans hu.1, inRing_of_eq hring hu.2⟩
  by_cases he : ∃ now, e = .tick now
  · obtain ⟨now, rfl⟩ := he
    cases hn
    rcases tick_cases (o := o) now hu.2 with ⟨-, hring⟩ | ⟨-, hring, -⟩
    · exact hkeep hring
    · have horder : (tick o u now).order = u.order := congrArg Prod.fst hring
      have hpoll : (tick o u now).pollIdx = (u.pollIdx + 1) % u.order.length :=
        congrArg Prod.snd hring
      refine ⟨horder.trans hu.1, ?_⟩
      rw [hpoll, horder]
      exact Nat.mod_lt _ (Nat.zero_lt_of_lt hu.2)
  · push Not at he
    exact hkeep (ring_of_step he hn)

/-! ### Runs -/

/-- The ticks of the primary go round the ring. -/
theorem roundRobin : (machine o).RoundRobin o.addresses.length (·.pollIdx) (turnAt o) where
  start := rfl
  step := by
    intro s e t hs h
    obtain ⟨horder, hidx⟩ := inRing_of_reach hs
    by_cases he : ∃ now, e = .tick now
    · obtain ⟨now, rfl⟩ := he
      cases h
      rcases tick_cases (o := o) now hidx with ⟨hnone, hring⟩ | ⟨hturn, hring, -⟩
      · exact .inl ⟨hnone, congrArg Prod.snd hring⟩
      · exact .inr ⟨hturn, (congrArg Prod.snd hring).trans (by rw [horder])⟩
    · push Not at he
      have hnone : turnAt o s e = none := by
        cases e with
        | tick now => exact absurd rfl (he now)
        | _ => rfl
      exact .inl ⟨hnone, congrArg Prod.snd (ring_of_step he h)⟩

/-- The devices the ticks of a run serve, in order. -/
def served (o : ClientOption) (es : List Event) : List UInt8 :=
  stations o.addresses ((machine o).outputs (turnAt o) (new o) es)

/-- **Every device has its turn.**  Whatever happens on the line, the ticks serve the
devices in the configured order, round and round; as many turns as there are devices,
wherever they begin, serve each of them; and while the line is open a turn writes to its
device what is due in its phase, its status, its reset, or its events before its
measurands: the octets handed over are those of the fixed-length frame with that
function, the device's frame count bit and its link address. -/
theorem served_in_turn {es : List Event} (hrun : (machine o).run (new o) es = some t) :
    (∀ k < (served o es).length, (served o es)[k]? = o.addresses[k % o.addresses.length]?) ∧
      (∀ j, j + o.addresses.length ≤ (served o es).length → ∀ a ∈ o.addresses,
        a ∈ ((served o es).drop j).take o.addresses.length) ∧
      ∀ now i, turnAt o t (.tick now) = some i → t.outOpen = true →
        ∃ a p raw, o.addresses[i]? = some a ∧ p.addr = a ∧
          p.frame = .fixed (.primary (due (t.secs a)).1 (due (t.secs a)).2 (t.secs a).fcb false)
            a.toUInt16 ∧
          p.frame.marshal LINK_ADDR_SIZE = .ok raw ∧
          (tick o t now).log = t.log ++ [.began p raw] := by
  -- the devices are what stands at the places, and the places go round
  obtain ⟨hround, hwindow⟩ := in_order_of_places addresses_length_pos
    ((roundRobin (o := o)).outputs_eq hrun)
  refine ⟨hround, hwindow, fun now i hturn hopen => ?_⟩
  -- one tick on: it takes its turn, and what it transmits is written
  obtain ⟨horder, hidx⟩ := inRing_of_reach (Machine.reach_of_run .init hrun)
  rcases tick_cases (o := o) now hidx with ⟨hnone, -⟩ |
    ⟨hturn', -, m, hlog, hout, hsecs, htick⟩
  · rw [show turnAt o t (.tick now) = none from hnone] at hturn
    cases hturn
  · rw [show turnAt o t (.tick now) = some t.pollIdx from hturn'] at hturn
    cases hturn
    obtain ⟨p, raw, haddr, hframe, hraw, hbegan⟩ := @sendPrimConfirmed_written _ _ o.profile m
      (hout.trans hopen) (by decide : LINK_ADDR_SIZE ≤ 2) t.order[t.pollIdx]
      (due (t.secs t.order[t.pollIdx])).1 (due (t.secs t.order[t.pollIdx])).2 now
    refine ⟨t.order[t.pollIdx], p, raw, ?_, haddr, ?_, hraw, ?_⟩
    · rw [← horder]
      exact List.getElem?_eq_getElem hidx
    · rw [hframe, hsecs]
      rfl
    · rw [htick, ← hlog]
      exact hbegan

/-- Two devices. -/
def twoDevices : ClientOption := { oneDevice with secondaryAddrs := [1, 2] }

/-- The first device answers; the second is asked for its status, and the next turn
resets the first. -/
theorem served_in_turn_twoDevices :
    ∃ t p, (machine twoDevices).run (new twoDevices)
        [.tick 0, .frame (response Cs101.SecFc.RESP_STATUS) 1, .tick 2,
          .frame (.fixed (.secondary Cs101.SecFc.RESP_LINK_NF false false) 2) 3] = some t ∧
      served twoDevices
        [.tick 0, .frame (response Cs101.SecFc.RESP_STATUS) 1, .tick 2,
          .frame (.fixed (.secondary Cs101.SecFc.RESP_LINK_NF false false) 2) 3] = [1, 2] ∧
      (∀ k < 2, ([1, 2] : List UInt8)[k]? = twoDevices.addresses[k % 2]?) ∧
      (tick twoDevices t 4).log = t.log ++ [.began p [0x10, 0x40, 1, 0x41, 0x16]] := by
  have hrun : (machine twoDevices).run (new twoDevices)
      [.tick 0, .frame (response Cs101.SecFc.RESP_STATUS) 1, .tick 2,
        .frame (.fixed (.secondary Cs101.SecFc.RESP_LINK_NF false false) 2) 3] = some _ := rfl
  obtain ⟨hround, -, hturn⟩ := served_in_turn hrun
  obtain ⟨a, p, raw, ha, -, hframe, hraw, hlog⟩ := hturn 4 0 rfl rfl
  cases ha
  rw [hframe] at hraw
  cases hraw
  exact ⟨_, p, hrun, rfl, hround, hlog⟩

end LinkState

end Cs103
end Iec60870
