import Iec60870.Cs101.Discipline
import Iec60870.Cs103.Client

/-!
# The discipline of the 103 primary

Every handler of the 103 link state machine is a sequence of the acts of a primary,
so its history is lawful in every run, whatever the devices send.

## Main results

* `LinkState.acts_of_step` — what a step can do.
* `LinkState.discipline` — one transaction at a time, the frame count bit in step
  with the completed transactions, user data in order, one delivery a request.
-/

namespace Iec60870
namespace Cs103

open Cs101 (Frame ControlField Secondary Primary outstanding phaseAt nextFcb sentTo queuedFor
  Lawful)
open Cs101.PrimFc
open Cs101.Primary (Acts Act Noted Launch Begin Answered launch_sendPrimConfirmed
  launch_trySendQueued answered_handleSecondary answered_confirm_none acts_onT1Timeout
  noted_pollIdx disciplined_new)

namespace LinkState

variable {o : ClientOption} {s t : LinkState}

/-! ### The handlers -/

/-- A link is activated by the two resets only. -/
theorem mem_resets {f : UInt8} : f ∈ o.profile.resets ↔ f = RESET_LINK ∨ f = PRIM_FC_RESET_FCB := by
  show f ∈ [RESET_LINK, PRIM_FC_RESET_FCB] ↔ _
  simp

theorem not_mem_resets {f : UInt8} (h : f ≠ RESET_LINK) (h' : f ≠ PRIM_FC_RESET_FCB) :
    f ∉ o.profile.resets := fun hf => (mem_resets.mp hf).elim h h'

theorem answered_handleAddressed {f : Frame} {ctrl : ControlField}
    (hctrl : f.control = some ctrl) (addr : UInt8) (now : ℕ) :
    Answered o.profile f (some addr) s (handleAddressed o s f ctrl addr now).2 := by
  unfold handleAddressed
  split
  · exact .refl _ _ s
  · split
    · exact .refl _ _ s
    · next hprm =>
      exact answered_handleSecondary addr now hctrl (by simpa using hprm)
        (not_mem_resets (by decide) (by decide))

/-- **What a received frame can do.** -/
theorem answered_handleFrame (f : Frame) (now : ℕ) :
    Answered o.profile f (f.linkAddr.map UInt16.toUInt8) s (handleFrame o s f now).2 := by
  cases f with
  | singleCharAck => exact answered_confirm_none
  | fixed ctrl addr => exact answered_handleAddressed rfl _ now
  | variable' ctrl addr raw => exact answered_handleAddressed rfl _ now

/-- What `tick` asks for fits the phase of the device. -/
theorem begin_due {addr : UInt8} (hknown : addr ∈ s.order) :
    Begin o.profile s
      (s.request o.profile addr (due (s.secs addr)).1 (due (s.secs addr)).2) s.queue := by
  rcases hph : (s.secs addr).phase
  · -- the status is requested
    have hd : due (s.secs addr) = (REQ_STATUS, false) := by simp [due, hph]
    rw [hd]
    exact .request hknown rfl (by decide) (fun h => by cases h) (fun h =>
      absurd h (not_mem_resets (by decide) (by decide))) fun _ => rfl
  · -- the unit is reset
    have hd : due (s.secs addr) = (RESET_LINK, false) := by simp [due, hph]
    rw [hd]
    exact .request hknown rfl (by decide) (fun h => by cases h) (fun _ => hph) fun _ => rfl
  · -- the device is polled
    by_cases hw : (s.secs addr).wantClass1 = true
    · have hd : due (s.secs addr) = (REQ_DATA1, true) := by simp [due, hph, hw]
      rw [hd]
      exact .request hknown rfl (by decide) (fun _ => hph) (fun h =>
        absurd h (not_mem_resets (by decide) (by decide))) fun _ => rfl
    · have hd : due (s.secs addr) = (REQ_DATA2, true) := by simp [due, hph, hw]
      rw [hd]
      exact .request hknown rfl (by decide) (fun _ => hph) (fun h =>
        absurd h (not_mem_resets (by decide) (by decide))) fun _ => rfl

theorem launch_tick (now : ℕ) : Launch o.profile s (tick o s now) := by
  unfold tick
  split
  · exact .note (.refl s)
  · next hidle =>
    rw [Option.not_isSome_iff_eq_none] at hidle
    obtain ⟨hsend, hnone⟩ := @launch_trySendQueued _ _ o.profile _ _ now hidle
    rcases hr : s.trySendQueued o.profile now with ⟨_ | _, m⟩
    · -- nothing was sent, so the next device is served
      rw [hr] at hsend hnone
      have hm : Noted s m := hnone rfl
      have hidle' : m.lastSent = none := hm.lastSent.trans hidle
      dsimp only
      rcases ha : m.order[m.pollIdx]? with _ | addr
      · exact hsend
      · have hknown : addr ∈ m.order := List.mem_of_getElem? ha
        have hcur := noted_pollIdx (s := m) ((m.pollIdx + 1) % m.order.length)
        exact .of_noted (hm.trans hcur) (launch_sendPrimConfirmed now hidle' (begin_due hknown))
    · rw [hr] at hsend
      exact hsend

/-- An active device may be polled. -/
theorem begin_poll {addr : UInt8} (hknown : addr ∈ s.order)
    (hact : (s.secs addr).phase = .active) :
    Begin o.profile s (s.request o.profile addr REQ_DATA2 true) s.queue :=
  .request hknown rfl (by decide) (fun _ => hact) (fun h =>
    absurd h (not_mem_resets (by decide) (by decide))) fun _ => rfl

theorem launch_onT3Timeout (now : ℕ) : Launch o.profile s (onT3Timeout o s now) := by
  unfold onT3Timeout
  split
  · exact .note (.refl s)
  · next hidle =>
    rw [Option.not_isSome_iff_eq_none] at hidle
    split
    · exact .note (.refl s)
    · next addr hfirst =>
      have hknown : addr ∈ s.order := List.mem_of_find?_eq_some hfirst
      have hact : (s.secs addr).phase = .active := by simpa using List.find?_some hfirst
      exact launch_sendPrimConfirmed now hidle (begin_poll hknown hact)

/-- A manual request begins a transaction, after a reset request sent the device back
to the reset phase. -/
theorem handleLinkRequest_cases (req : LinkRequest) (now : ℕ) :
    Launch o.profile s (handleLinkRequest o s req now) ∨
      s.lastSent = none ∧
        Launch o.profile (s.askReset req.addr) (handleLinkRequest o s req now) := by
  unfold handleLinkRequest
  split
  -- while a transaction is outstanding the request is reported as failed
  · exact .inl (.note (.refl s))
  · next hidle =>
    rw [Option.not_isSome_iff_eq_none] at hidle
    split
    · exact .inl (.note (.refl s))
    · next hknown =>
      rw [not_not] at hknown
      split_ifs with hreset hstatus hpoll
      -- a reset is begun from the reset phase the request has just put the device in
      · have hph : ((s.askReset req.addr).secs req.addr).phase = .reset := by
          simp [Primary.askReset, Primary.modify]
        have hfcv : Cs101.fcvRequired req.func = some false := by
          rcases hreset with h | h <;> rw [h] <;> rfl
        have hdata : req.func ≠ USER_DATA_CONF ∧ req.func ≠ Cs101.PrimFc.USER_DATA_NO_CONF := by
          rcases hreset with h | h <;> rw [h] <;> decide
        have hb : Begin o.profile (s.askReset req.addr)
            ((s.askReset req.addr).request o.profile req.addr req.func false) _ :=
          .request hknown hfcv hdata (fun h => by cases h) (fun _ => hph) fun _ => rfl
        have hidle' : (s.askReset req.addr).lastSent = none := hidle
        exact .inr ⟨hidle, launch_sendPrimConfirmed now hidle' hb⟩
      -- a status request may be sent to any known device
      · refine .inl (launch_sendPrimConfirmed now hidle ?_)
        exact .request hknown rfl (by decide) (fun h => by cases h) (fun h =>
          absurd h (not_mem_resets (by decide) (by decide))) fun _ => rfl
      -- a poll only to an active one
      · exact .inl (launch_sendPrimConfirmed now hidle (begin_poll hknown hpoll.2))
      · exact .inl (.note (.refl s))

/-- What a step can do. -/
theorem acts_of_step {e : Event} (h : step o s e = some t) : Acts o.profile s t := by
  cases e with
  | frame f now =>
    cases h
    exact (answered_handleFrame f now).acts
  | linkRequest req now =>
    cases h
    rcases handleLinkRequest_cases (o := o) (s := s) req now with h | ⟨hidle, h⟩
    · exact h.acts
    · exact .trans (.single (.askReset hidle)) h.acts
  | t1 now =>
    rw [step] at h
    split at h
    · rcases hr : s.onT1Timeout o.profile now with e | t'
      · rw [hr] at h
        cases h
      · rw [hr] at h
        cases h
        exact acts_onT1Timeout hr
    · cases h
  | t3 now =>
    cases h
    exact (launch_onT3Timeout now).acts
  | tick now =>
    cases h
    exact (launch_tick now).acts
  -- a full queue refuses the ASDU
  | send asdu addr =>
    rw [step, enqueue] at h
    split at h
    · cases h
    · cases h
      exact .single (.push _)
  | outClosed =>
    cases h
    exact .single .close

/-! ### Runs -/

/-- In every run the history is lawful and says what the state says. -/
theorem disciplined_of_reach (h : (machine o).Reachable s) : s.Disciplined o.profile :=
  h.invariant (P := fun s => s.Disciplined o.profile) (disciplined_new _ _)
    fun _ _ _ hs _ hn => hs.acts (acts_of_step hn)

/-- **The frame count bit and the deliveries of the 103 primary.**  In every run each
entry of the history is lawful after those before it, the phases, the bits and the
outstanding transaction are those the history gives, t₁ runs exactly while a
transaction is outstanding, and user data is first sent to each device in the order
it was queued. -/
theorem discipline (h : (machine o).Reachable s) :
    Trace.Each (Lawful o.profile) s.log ∧
      (∀ a, (s.secs a).phase = phaseAt o.profile.resets a s.log ∧
        (s.secs a).fcb = nextFcb o.profile.resets a s.log) ∧
      s.lastSent = (outstanding s.log).map (·.p) ∧
      s.t1At.isSome = s.lastSent.isSome ∧
      ∀ a, (sentTo a s.log).Sublist (queuedFor o.profile a s.log) := by
  have hd := disciplined_of_reach h
  refine ⟨hd.lawful, fun a => ⟨hd.phase a, hd.fcb a⟩, ?_, hd.t1, fun a => ?_⟩
  · rcases hp : s.lastSent with _ | p
    · rw [hd.outstanding_none hp]
      rfl
    · obtain ⟨raw, hout⟩ := hd.outstanding_eq hp
      rw [hout]
      rfl
  · exact (List.sublist_append_left _ _).trans (hd.order a)

/-! ### A run -/

/-- One device at address 1, one repetition. -/
def oneDevice : ClientOption where
  linkAddress := 1
  secondaryAddrs := []
  timeoutResponseT1 := 10
  timeoutRepeatT2 := 5
  maxSendQueueSize := 100
  maxRepetitions := 1

/-- A response of device 1 without an ASDU. -/
def response (func : UInt8) : Frame := .fixed (.secondary func false false) 1

/-- A general interrogation. -/
def interrogation : Asdu where
  typeId := 7
  variable' := ⟨1, true⟩
  coa := 9
  commonAddr := 1
  infoObj := [255, 0, 0]
  timeZone := .utc

/-- The link is opened and an interrogation is sent, repeated and acknowledged. -/
def interrogateOnce : List Event :=
  [.tick 0, .frame (response Cs101.SecFc.RESP_STATUS) 1,
    .tick 2, .frame (response Cs101.SecFc.CONF_ACK) 3,
    .send interrogation 1, .tick 4, .t1 14, .frame (response Cs101.SecFc.CONF_ACK) 15]

theorem discipline_interrogateOnce :
    ∃ s, (machine oneDevice).run (machine oneDevice).init interrogateOnce = some s ∧
      sentTo 1 s.log = [[7, 129, 9, 1, 255, 0, 0]] ∧
      Trace.Each (Lawful oneDevice.profile) s.log ∧
      (∀ a, (s.secs a).phase = phaseAt oneDevice.profile.resets a s.log ∧
        (s.secs a).fcb = nextFcb oneDevice.profile.resets a s.log) ∧
      s.lastSent = (outstanding s.log).map (·.p) ∧
      s.t1At.isSome = s.lastSent.isSome ∧
      ∀ a, (sentTo a s.log).Sublist (queuedFor oneDevice.profile a s.log) :=
  have hrun : (machine oneDevice).run (machine oneDevice).init interrogateOnce = some _ := rfl
  ⟨_, hrun, rfl, discipline (Machine.reach_of_run .init hrun)⟩

end LinkState

end Cs103
end Iec60870
