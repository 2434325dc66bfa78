import Iec60870.Cs101.Framing
import Iec60870.Cs103.RunLink

/-!
# From end to end

What the client sends a device is what was queued for it, and what a device says in
answer to a poll is what the handler is told: through the ASDU, the frame and its
octets, in every run of the protocol loop.

## Main results

* `LinkState.heard_by_device` — **user data on the line is read as an ASDU that was
  queued for the device.**
* `RunLink.told_by_device` — **a message that answers a poll reaches the method of its
  type with what it says.**
-/

namespace Iec60870
namespace Cs103

open Cs101 (Frame ControlField Obs Pending Primary readFrame readFrame_marshal fcvRequired
  FrameOutcome)
open Cs101.Primary (Act Acts Begin)
open Cs101.PrimFc

/-! ### The frames of the client -/

/-- The function codes of a primary have four bits. -/
theorem func_lt_of_fcvRequired {func : UInt8} {fcv : Bool} (h : fcvRequired func = some fcv) :
    func < 16 := by
  have hall : ∀ f : UInt8, (fcvRequired f).isSome = true → f < 16 := by decide +kernel
  exact hall func (by rw [h]; rfl)

theorem wellFormed_primary {func : UInt8} (h : func < 16) (fcv fcb dir : Bool) :
    (ControlField.primary func fcv fcb dir).WellFormed where
  func := h
  primary := fun _ => ⟨rfl, rfl⟩
  secondary := fun h => by cases h

/-- A device address is a link address of one octet. -/
theorem addrFits_toUInt16 (addr : UInt8) : Cs101.AddrFits LINK_ADDR_SIZE addr.toUInt16 := by
  intro _
  have hlt := addr.toNat_lt
  rw [UInt16.le_iff_toNat_le, UInt8.toNat_toUInt16]
  show addr.toNat ≤ 255
  omega

namespace LinkState

variable {o : ClientOption} {s t : LinkState}

/-- The frame of a transaction can be written on a line of 103. -/
theorem fits_of_begin {p : Pending UInt8} {queue : List (Cs101.Outgoing UInt8 Asdu)}
    (h : Begin o.profile s p queue) : p.frame.Fits LINK_ADDR_SIZE := by
  cases h with
  | @request addr func fcv hknown hfcv hdata hactive hreset hpoll =>
    exact ⟨wellFormed_primary (func_lt_of_fcvRequired hfcv) _ _ _, addrFits_toUInt16 addr⟩
  | @send out queue raw hready hsub hfirst hraw =>
    exact ⟨wellFormed_primary (by decide) _ _ _, addrFits_toUInt16 out.addr,
      Asdu.length_of_marshalBinary hraw⟩

/-- Every frame that was begun can be written. -/
def AllFit (log : List (Obs UInt8 Asdu)) : Prop :=
  ∀ p raw, .began p raw ∈ log → p.frame.Fits LINK_ADDR_SIZE

theorem AllFit.act (h : AllFit s.log) (ha : Act o.profile s t) : AllFit t.log := by
  have happend (rest : List (Obs UInt8 Asdu)) (hlog : t.log = s.log ++ rest)
      (hrest : AllFit rest) : AllFit t.log := by
    intro p raw hp
    rw [hlog] at hp
    rcases List.mem_append.mp hp with hp | hp
    · exact h p raw hp
    · exact hrest p raw hp
  -- only the beginning of a transaction writes a frame that was not written before
  cases ha with
  | note hn =>
    rw [hn.log]
    exact h
  | @begin p queue raw due hidle hopen hp hraw =>
    refine happend [.began p raw] rfl ?_
    intro q raw' hq
    cases List.mem_singleton.mp hq
    exact fits_of_begin hp
  | @again p raw due hp hlt hraw =>
    exact happend [.repeated p raw] rfl fun q raw' hq => by simp at hq
  | @complete p frame hp =>
    refine happend (.completed p :: Primary.deliveredBy p frame) (List.append_assoc ..) ?_
    intro q raw hq
    rcases List.mem_cons.mp hq with hq | hq
    · cases hq
    · unfold Primary.deliveredBy at hq
      split at hq <;> simp at hq
  | @fail p hp => exact happend [.failed p] rfl fun q raw' hq => by simp at hq
  | @giveUp p hp => exact happend [.gaveUp p] rfl fun q raw' hq => by simp at hq
  | @askReset addr hidle =>
    exact happend [.resetAsked addr] rfl fun q raw' hq => by simp at hq
  | push out => exact happend [.queued out] rfl fun q raw' hq => by simp at hq
  | disarm hidle => exact h
  | close => exact h
  | @peer x hbal hx =>
    refine happend [x] rfl ?_
    intro q raw hq
    cases List.mem_singleton.mp hq
    rcases hx with ⟨f, raw, hx⟩ | ⟨a, raw, hx⟩ <;> cases hx

theorem allFit_of_reach (h : (machine o).Reachable s) : AllFit s.log := by
  refine h.invariant (P := fun s => AllFit s.log) (fun p raw hp => by cases hp) ?_
  intro u e v hu _ hn
  have hacts : Acts o.profile u v := acts_of_step hn
  clear hn
  induction hacts with
  | refl => exact hu
  | tail _ hstep ih => exact ih.act hstep

/-- What was first sent to a device was queued for it. -/
theorem exists_queued {prof : Cs101.Profile UInt8 Asdu} {log : List (Obs UInt8 Asdu)} {a : UInt8}
    {raw : Octets} (h : raw ∈ Cs101.queuedFor prof a log) :
    ∃ asdu, .queued ⟨asdu, a⟩ ∈ log ∧ prof.marshal asdu = .ok raw := by
  obtain ⟨x, hx, hraw⟩ := List.mem_filterMap.mp h
  cases x with
  | queued out =>
    obtain ⟨asdu, addr⟩ := out
    simp only [Obs.queuedData] at hraw
    split at hraw
    · next haddr =>
      subst haddr
      refine ⟨asdu, hx, ?_⟩
      cases hm : prof.marshal asdu with
      | error e =>
        rw [hm] at hraw
        cases hraw
      | ok octets =>
        rw [hm] at hraw
        cases hraw
        rfl
    · cases hraw
  | _ => cases hraw

/-- **User data on the line is read as an ASDU that was queued for the device.**  In
every run the octets of a transaction whose frame carries an ASDU are read, whatever
follows them, as that frame, addressed to its device; the ASDU in it is decoded to what
the octets hold of one that was queued for that device. -/
theorem heard_by_device (h : (machine o).Reachable s) {p : Pending UInt8} {octets raw : Octets}
    (hlog : .began p octets ∈ s.log) (hdata : p.frame.asdu = some raw) :
    (∀ rest, readFrame LINK_ADDR_SIZE (octets ++ rest) = (.ok p.frame, rest)) ∧
      p.frame.linkAddr = some p.addr.toUInt16 ∧
      ∃ asdu, .queued ⟨asdu, p.addr⟩ ∈ s.log ∧ asdu.marshalBinary = .ok raw ∧
        Asdu.unmarshalBinary raw = .ok asdu.onWire := by
  have hd := disciplined_of_reach h
  obtain ⟨past, later, hsplit⟩ := List.append_of_mem hlog
  obtain ⟨-, hframed, hmarshal, -⟩ := hd.lawful past _ later hsplit
  -- the frame can be written, so what is written is read back
  obtain ⟨octets', hoctets, hread⟩ := readFrame_marshal (.inl rfl) (allFit_of_reach h p octets hlog)
  have heq : octets' = octets := Except.ok.inj (hoctets.symm.trans hmarshal)
  refine ⟨heq ▸ hread, hframed.linkAddr, ?_⟩
  -- what it carries was sent to the device, so it was queued for it
  have hpayload : p.payload = some raw := hframed.asdu.symm.trans hdata
  have hsent : raw ∈ Cs101.sentTo p.addr s.log :=
    List.mem_filterMap.mpr ⟨_, hlog, (if_pos rfl).trans hpayload⟩
  have hqueued := (hd.order p.addr).subset (List.mem_append_left _ hsent)
  obtain ⟨asdu, hin, hraw⟩ := exists_queued hqueued
  exact ⟨asdu, hin, hraw, Asdu.unmarshalBinary_marshalBinary hraw⟩

theorem heard_by_device_interrogateOnce :
    ∃ s octets, (machine oneDevice).run (machine oneDevice).init interrogateOnce = some s ∧
      octets = [0x68, 9, 9, 0x68, 0x73, 1, 7, 129, 9, 1, 255, 0, 0, 5, 0x16] ∧
      (∀ rest, readFrame LINK_ADDR_SIZE (octets ++ rest) =
        (.ok (.variable' (.primary USER_DATA_CONF true true false) 1 [7, 129, 9, 1, 255, 0, 0]),
          rest)) ∧
      ∃ asdu, .queued ⟨asdu, 1⟩ ∈ s.log ∧ asdu.marshalBinary = .ok [7, 129, 9, 1, 255, 0, 0] ∧
        Asdu.unmarshalBinary [7, 129, 9, 1, 255, 0, 0] = .ok asdu.onWire := by
  have hrun : (machine oneDevice).run (machine oneDevice).init interrogateOnce = some _ := rfl
  have hbegan : .began ⟨.variable' (.primary USER_DATA_CONF true true false) 1
      [7, 129, 9, 1, 255, 0, 0], .primary USER_DATA_CONF true true false, 1⟩
      [0x68, 9, 9, 0x68, 0x73, 1, 7, 129, 9, 1, 255, 0, 0, 5, 0x16] ∈
        (((machine oneDevice).run (machine oneDevice).init interrogateOnce).get rfl).log := by
    decide +kernel
  obtain ⟨hread, -, asdu, hqueued, hraw, hdecoded⟩ :=
    heard_by_device (Machine.reach_of_run .init hrun) hbegan rfl
  exact ⟨_, _, hrun, rfl, hread, asdu, hqueued, hraw, hdecoded⟩

/-! ### What a device says -/

/-- User data of the device that was asked for it is new. -/
theorem deliver_handleFrame {p : Pending UInt8} (hp : s.lastSent = some p)
    (hknown : p.addr ∈ s.order) (hclass : p.isClassRequest = true) {ctrl : ControlField}
    (hprm : ctrl.prm = false) (hfunc : ctrl.func = Cs101.SecFc.USER_DATA_CONF) (raw : Octets)
    (now : ℕ) :
    (handleFrame o s (.variable' ctrl p.addr.toUInt16 raw) now).1 = { deliver := true } := by
  have haddr : p.addr.toUInt16.toUInt8 = p.addr := by simp
  have hasked : p.ctrl.func = REQ_DATA1 ∨ p.ctrl.func = REQ_DATA2 := by
    simpa [Cs101.Pending.isClassRequest] using hclass
  -- a request for class data activates no link
  have hreset : p.ctrl.func ∉ o.profile.resets := by
    rcases hasked with h | h <;> rw [h] <;> exact not_mem_resets (by decide) (by decide)
  unfold handleFrame handleAddressed
  dsimp only
  rw [haddr, if_neg (not_not.mpr hknown), if_neg (by simp [hprm])]
  unfold Primary.handleSecondary Primary.answer Primary.confirmData Primary.confirmPositive
  simp [hfunc, hp, Primary.modify, hasked, hreset]

end LinkState

namespace RunLink

variable {o : RunOption} {s t : RunLink}

theorem todo_received (f : Frame) (now : ℕ) : (s.received o f now).todo =
    tasks o (LinkState.handleFrame o.toClientOption s.link f now).1 f := by
  unfold received
  cases s.onConnectCalled <;> rfl

/-- While the branch of a frame goes on, other tasks neither end it nor call the handler. -/
theorem run_links {es : List Event} (hes : ∀ e ∈ es, ∃ le, e = .link le) (htodo : s.todo ≠ [])
    (hrun : (machine o).run s es = some t) :
    t.todo = s.todo ∧ t.calls = s.calls ∧ t.onConnectCalled = s.onConnectCalled := by
  induction es generalizing s with
  | nil =>
    cases hrun
    exact ⟨rfl, rfl, rfl⟩
  | cons e es ih =>
    rw [Machine.run_cons] at hrun
    obtain ⟨u, hu, hrun⟩ := Option.bind_eq_some_iff.mp hrun
    have hnext : u.todo = s.todo ∧ u.calls = s.calls ∧ u.onConnectCalled = s.onConnectCalled := by
      rcases step_cases hu with ⟨f, now, -, h, -⟩ | ⟨le, l, -, -, -, -, rfl⟩ |
        ⟨host, task, rest, rfl, -, -⟩
      · exact absurd h htodo
      · exact ⟨rfl, calls_moved _ l, rfl⟩
      · obtain ⟨le, h⟩ := hes _ List.mem_cons_self
        cases h
    obtain ⟨h1, h2, h3⟩ := ih (fun e he => hes e (List.mem_cons_of_mem _ he)) (hnext.1 ▸ htodo) hrun
    exact ⟨h1.trans hnext.1, h2.trans hnext.2.1, h3.trans hnext.2.2⟩

/-- **A message that answers a poll reaches the method of its type with what it says.**
The device that was asked for class data answers with an ASDU that says `m`: the ASDU has
octets and so has its frame, they are read back whatever follows them, and whatever other
tasks queue meanwhile the handler is shown the ASDU and told `m`, once. -/
theorem told_by_device {host : Host} {clock : ZoneClock}
    (hz : host.Exact o.timeZone clock.offset) (h : (machine o).Reachable s) (htodo : s.todo = [])
    {p : Pending UInt8} (hp : s.link.lastSent = some p) (hclass : p.isClassRequest = true)
    {ctrl : ControlField} (hctrl : ctrl.WellFormed) (hprm : ctrl.prm = false)
    (hfunc : ctrl.func = Cs101.SecFc.USER_DATA_CONF) {m : Message}
    (hclear : m.Clear host o.timeZone clock) {coa : UInt8} (hcoa : coa ≠ 0) (commonAddr : UInt8) :
    ∃ raw octets, (m.asdu host o.timeZone coa commonAddr).marshalBinary = .ok raw ∧
      (Frame.variable' ctrl p.addr.toUInt16 raw).marshal LINK_ADDR_SIZE = .ok octets ∧
      (∀ rest, readFrame LINK_ADDR_SIZE (octets ++ rest) =
        (.ok (.variable' ctrl p.addr.toUInt16 raw), rest)) ∧
      ∀ now es t, (∀ e ∈ es, ∃ le, e = .link le) →
        (machine o).run s (.link (.frame (.variable' ctrl p.addr.toUInt16 raw) now) ::
          (es ++ [.next host])) = some t →
        t.todo = [] ∧ t.calls = s.calls ++ (if s.onConnectCalled then [] else [.onConnect]) ++
          [.asduAll (m.asdu host o.timeZone coa commonAddr),
            m.call (m.asdu host o.timeZone coa commonAddr)] := by
  obtain ⟨raw, hraw, hparsed⟩ := exists_octets hclear hcoa commonAddr
  have hfits : (Frame.variable' ctrl p.addr.toUInt16 raw).Fits LINK_ADDR_SIZE :=
    ⟨hctrl, addrFits_toUInt16 p.addr, Asdu.length_of_marshalBinary hraw⟩
  obtain ⟨octets, hoctets, hread⟩ := readFrame_marshal (.inl rfl) hfits
  refine ⟨raw, octets, hraw, hoctets, hread, ?_⟩
  intro now es t hes hrun
  -- the frame is from the device that was asked, so its data is delivered
  have hknown : p.addr ∈ s.link.order :=
    ((LinkState.disciplined_of_reach (reachable_link h)).genuine p hp).known
  rw [Machine.run_cons] at hrun
  obtain ⟨u, hu, hrun⟩ := Option.bind_eq_some_iff.mp hrun
  rw [Machine.run_append] at hrun
  obtain ⟨v, hv, hrun⟩ := Option.bind_eq_some_iff.mp hrun
  -- the frame leaves one thing to do
  have hu' : u = s.received o (.variable' ctrl p.addr.toUInt16 raw) now :=
    (Option.some.inj ((if_pos htodo).symm.trans hu)).symm
  have hutodo : u.todo = [.receive raw] := by
    rw [hu', todo_received, LinkState.deliver_handleFrame hp hknown hclass hprm hfunc]
    rfl
  obtain ⟨hvtodo, hvcalls, -⟩ := run_links hes (by rw [hutodo]; simp) hv
  rw [hutodo] at hvtodo
  -- and it is done
  have ht : t = { v with todo := [] }.called (receive host o.timeZone raw) := by
    have hnext : (machine o).next v (.next host) =
        some ({ v with todo := [] }.called (receive host o.timeZone raw)) := by
      show v.step o (.next host) = _
      rw [step, hvtodo]
      rfl
    rw [Machine.run_cons, hnext] at hrun
    exact (Option.some.inj hrun).symm
  -- the octets are read back, and what the ASDU says is what its method is told
  have hreceive : receive host o.timeZone raw = [.asduAll (m.asdu host o.timeZone coa commonAddr),
      m.call (m.asdu host o.timeZone coa commonAddr)] := by
    unfold receive dispatch
    rw [hparsed]
    dsimp only
    rw [method_asdu hz hclear]
    rfl
  refine ⟨by rw [ht]; rfl, ?_⟩
  rw [ht, calls_called, calls_todo, hvcalls, hu', calls_received, hreceive]

/-- Ten past noon of a summer day, in UTC. -/
def tenPastNoon : Host := .ticking (.fixed 0) ⟨2026, 7, 9, 12, 10, 0, 0, by decide⟩

/-- The device is reset and polled for class 2 data. -/
def pollOnce : List Event := resetOnce ++ [.next tenPastNoon, .link (.tick 4)]

/-- What it has to say, cyclically. -/
def measured : Message := .measurands false 128 148 [⟨1200, false, false⟩, ⟨-7, false, true⟩]

/-- The ASDU that says it. -/
def measuredAsdu : Asdu := measured.asdu tenPastNoon .utc 2 1

theorem told_by_device_pollOnce : ∃ s t raw, measuredAsdu.marshalBinary = .ok raw ∧
    (machine onePolled).run (new onePolled) pollOnce = some s ∧
      (machine onePolled).run s [.link (.frame (.variable' (.secondary Cs101.SecFc.USER_DATA_CONF
        false false) 1 raw) 5), .link (.send LinkState.interrogation 1), .next tenPastNoon] =
          some t ∧
      t.calls = s.calls ++ [.asduAll measuredAsdu, measured.call measuredAsdu] := by
  have hrun : (machine onePolled).run (new onePolled) pollOnce = some _ := rfl
  have hclear : measured.Clear tenPastNoon .utc (.fixed 0) := by
    refine ⟨by decide, ?_⟩
    intro v hv
    simp only [List.mem_cons, List.not_mem_nil, or_false] at hv
    rcases hv with rfl | rfl <;> exact ⟨by decide, by decide⟩
  have hctrl : (ControlField.secondary Cs101.SecFc.USER_DATA_CONF false false).WellFormed := by
    refine ⟨by decide, ?_, fun _ => ⟨rfl, rfl⟩⟩
    intro h
    cases h
  have hcause : (2 : UInt8) ≠ 0 := by decide
  obtain ⟨raw, octets, hraw, -, -, hcalls⟩ := told_by_device (Host.exact_utc _)
    (Machine.reach_of_run .init hrun) rfl rfl rfl hctrl rfl rfl hclear hcause 1
  have hoctets : measuredAsdu.marshalBinary = .ok [3, 130, 2, 1, 128, 148, 128, 37, 202, 255] := by
    decide +kernel
  have hvalue : raw = [3, 130, 2, 1, 128, 148, 128, 37, 202, 255] :=
    Except.ok.inj (hraw.symm.trans hoctets)
  subst hvalue
  refine ⟨_, _, _, hraw, hrun, rfl, ?_⟩
  exact (hcalls 5 [.link (.send LinkState.interrogation 1)] _ (by simp) rfl).2

end RunLink

end Cs103
end Iec60870
