import Iec60870.Cs101.Holding
import Iec60870.Cs103.Discipline

/-!
# Flow control of the 103 primary

Protection equipment that sets DFC is treated like a 101 station: its user data is
held back until it has said something else or is given up.

## Main results

* `LinkState.device_data_held` — **every run holds back what is queued for such a device.**
-/

namespace Iec60870
namespace Cs103

open Cs101 (Frame ControlField Primary waitingFor)
open Cs101.PrimFc
open Cs101.Primary (Holds HeldBack holds_confirm holds_handleSecondary holds_sendPrimConfirmed
  holds_trySendQueued holds_onT1Timeout holds_askReset holds_push heldBack_refl heldBack_of_run
  busy_handleSecondary grows_of_acts)

namespace LinkState

variable {o : ClientOption} {s t : LinkState} {a : UInt8}

/-- The event is a frame of the device `a`. -/
def hears (a : UInt8) : Event → Bool
  | .frame f _ => f.linkAddr.map UInt16.toUInt8 = some a && f.control.any (!·.prm)
  | _ => false

/-- A frame that is not one of the device. -/
theorem holds_handleFrame {f : Frame} {now : ℕ} (hquiet : hears a (.frame f now) = false) :
    Holds o.profile a s (handleFrame o s f now).2 := by
  have haddressed : ∀ ctrl addr, f.control = some ctrl →
      f.linkAddr.map UInt16.toUInt8 = some addr →
      Holds o.profile a s (handleAddressed o s f ctrl addr now).2 := by
    intro ctrl addr hctrl haddr
    unfold handleAddressed
    split
    · exact .refl _
    · split
      · exact .refl _
      · next hprm =>
        have hne : addr ≠ a := by
          rintro rfl
          have hheard : hears addr (.frame f now) = true := by
            simp only [hears, haddr, hctrl]
            simpa using hprm
          rw [hheard] at hquiet
          cases hquiet
        exact holds_handleSecondary hne now
  cases f with
  | singleCharAck => exact holds_confirm none
  | fixed ctrl addr => exact haddressed ctrl addr.toUInt8 rfl rfl
  | variable' ctrl addr raw => exact haddressed ctrl addr.toUInt8 rfl rfl

/-- What `tick` asks a device for is not user data. -/
theorem due_ne_userData (sec : Cs101.Secondary) : (due sec).1 ≠ USER_DATA_CONF := by
  unfold due
  cases sec.phase with
  | status => exact fun h => absurd h (by decide : REQ_STATUS ≠ USER_DATA_CONF)
  | reset => exact fun h => absurd h (by decide : RESET_LINK ≠ USER_DATA_CONF)
  | active =>
    dsimp only
    split <;> decide

theorem holds_tick (hbusy : (s.secs a).busy = true) (hknown : a ∈ s.order) (now : ℕ) :
    Holds o.profile a s (tick o s now) := by
  unfold tick
  split
  · exact .refl _
  · have hsend : Holds o.profile a s (s.trySendQueued o.profile now).2 :=
      holds_trySendQueued hbusy hknown now
    rcases hr : s.trySendQueued o.profile now with ⟨sent, p⟩
    rw [hr] at hsend
    dsimp only
    split
    · exact hsend
    · split
      · exact hsend
      · refine hsend.trans (Holds.trans (m := { p with pollIdx := (p.pollIdx + 1) % p.order.length })
          (.of_same rfl rfl rfl rfl) (holds_sendPrimConfirmed now ?_))
        exact due_ne_userData _

theorem holds_handleLinkRequest (req : LinkRequest) (now : ℕ) :
    Holds o.profile a s (handleLinkRequest o s req now) := by
  have hask : Holds o.profile a s (s.askReset req.addr) := holds_askReset _
  unfold handleLinkRequest
  split
  · exact .refl _
  · split
    · exact .refl _
    · split_ifs with hreset hstatus hpoll
      · have hfunc : req.func ≠ USER_DATA_CONF := by
          rcases hreset with h | h <;> rw [h] <;> decide
        exact hask.trans (holds_sendPrimConfirmed now hfunc)
      · exact holds_sendPrimConfirmed now (by decide)
      · exact holds_sendPrimConfirmed now (by decide)
      · exact .refl _

/-- A step that is not a frame of the device gives it up, or holds what is queued
for it. -/
theorem holds_of_step {e : Event} (hbusy : (s.secs a).busy = true) (hknown : a ∈ s.order)
    (hquiet : hears a e = false) (h : step o s e = some t) :
    (∃ p, t.log = s.log ++ [.gaveUp p] ∧ p.addr = a) ∨ Holds o.profile a s t := by
  cases e with
  | frame f now =>
    cases h
    exact .inr (holds_handleFrame hquiet)
  | linkRequest req now =>
    cases h
    exact .inr (holds_handleLinkRequest req now)
  | t1 now =>
    rw [step] at h
    split at h
    · have hok : s.onT1Timeout o.profile now = .ok t := by
        rcases hr : s.onT1Timeout o.profile now with e | u <;> rw [hr] at h <;> cases h
        rfl
      -- t1 may give this device up; then nothing is claimed of its queue
      rcases holds_onT1Timeout (a := a) hok with ⟨p, hlog, hp, -⟩ | hholds
      · exact .inl ⟨p, hlog, hp⟩
      · exact .inr hholds
    · cases h
  | t3 now =>
    cases h
    refine .inr ?_
    unfold onT3Timeout
    split
    · exact .refl _
    · split
      · exact .refl _
      · exact holds_sendPrimConfirmed now (by decide)
  -- a tick sends user data only for a device that is not held
  | tick now =>
    cases h
    exact .inr (holds_tick hbusy hknown now)
  | send asdu addr =>
    rw [step, enqueue] at h
    split at h
    · cases h
    · cases h
      exact .inr (holds_push _)
  | outClosed =>
    cases h
    exact .inr (.of_same rfl rfl rfl rfl)

/-- The devices are those of the configuration. -/
theorem order_of_reach (h : (machine o).Reachable s) : s.order = o.addresses :=
  h.invariant (P := fun s => s.order = o.addresses) rfl
    fun _ _ _ hs _ hn => (grows_of_acts (acts_of_step hn)).2.trans hs

/-- Devices differ in their link addresses. -/
theorem linkAddr_injective : Function.Injective o.profile.linkAddr := by
  intro a b h
  have hback : ∀ x : UInt8, x.toUInt16.toUInt8 = x := by simp
  rw [← hback a, ← hback b]
  exact congrArg UInt16.toUInt8 h

/-- **User data for a device that has set DFC is held back.**  In every run, from such
a frame on and as long as the device says nothing else, no user data is begun for it
before it is given up, and its queue keeps everything in order.  What is begun for it is
what the frames to its link address carry. -/
theorem device_data_held (hs : (machine o).Reachable s) {f : Frame} {ctrl : ControlField} {now : ℕ}
    (hctrl : f.control = some ctrl) (haddr : f.linkAddr.map UInt16.toUInt8 = some a)
    (hprm : ctrl.prm = false) (hdfc : ctrl.dfc = true) (hrefusal : f.refusal = false)
    (hknown : a ∈ o.addresses) {es : List Event} (hquiet : ∀ e ∈ es, hears a e = false)
    (hrun : (machine o).run s (.frame f now :: es) = some t) :
    HeldBack o.profile a (handleFrame o s f now).2 t ∧
      ∀ x ∈ t.log, x.firstData a = x.dataTo o.profile a := by
  have hlawful := (disciplined_of_reach (Machine.reach_of_run hs hrun)).lawful
  refine ⟨?_, Cs101.firstData_eq_dataTo linkAddr_injective hlawful a⟩
  -- the frame is of a configured device, so it is handled as that device's
  have hmem : a ∈ s.order := (order_of_reach hs).symm ▸ hknown
  have haddressed : (handleFrame o s f now).2 = (s.handleSecondary o.profile f ctrl a now).2 := by
    rw [handleFrame_addressed now hctrl haddr]
    unfold handleAddressed
    rw [if_neg (not_not.mpr hmem), if_neg (by rw [hprm]; decide)]
  have hbusy : ((handleFrame o s f now).2.secs a).busy = true := by
    rw [haddressed]
    exact busy_handleSecondary now hctrl hprm hdfc hrefusal
  have horder : (handleFrame o s f now).2.order = s.order :=
    (grows_of_acts (answered_handleFrame f now).acts).2
  -- from there on `heldBack_of_run` carries the hold to the end of the run
  rw [Machine.run, Machine.runIf, if_pos trivial] at hrun
  obtain ⟨u, hu, hrun⟩ := Option.bind_eq_some_iff.mp hrun
  cases hu
  exact heldBack_of_run (machine o) id (hears a)
    (fun _ _ _ h => acts_of_step h)
    (fun _ _ _ hbusy hknown hquiet h => holds_of_step hbusy hknown hquiet h) hquiet
    (heldBack_refl hbusy (horder ▸ hmem)) hrun

/-- The acknowledgement of device 1 when its buffers are full. -/
def busyAck : Frame :=
  .fixed { ControlField.secondary Cs101.SecFc.CONF_ACK false false with dfc := true } 1

/-- A line whose device is being reset. -/
def resetting : LinkState :=
  tick oneDevice (handleFrame oneDevice (tick oneDevice (new oneDevice) 0)
    (response Cs101.SecFc.RESP_STATUS) 1).2 2

/-- A device acknowledges the reset with DFC set: the interrogation is held back. -/
theorem device_data_held_resetBusy :
    ∃ t, (machine oneDevice).run resetting
        [.frame busyAck 3, .send interrogation 1, .tick 4] = some t ∧
      HeldBack oneDevice.profile 1 (handleFrame oneDevice resetting busyAck 3).2 t ∧
      waitingFor oneDevice.profile 1 t.queue = [[7, 129, 9, 1, 255, 0, 0]] := by
  have hrun : (machine oneDevice).run (new oneDevice)
      [.tick 0, .frame (response Cs101.SecFc.RESP_STATUS) 1, .tick 2] = some resetting := rfl
  have hnext : (machine oneDevice).run resetting
      [.frame busyAck 3, .send interrogation 1, .tick 4] = some _ := rfl
  exact ⟨_, hnext, (device_data_held (Machine.reach_of_run .init hrun) rfl rfl rfl rfl rfl
    (by decide) (by decide) hnext).1, by decide +kernel⟩

end LinkState

end Cs103
end Iec60870
