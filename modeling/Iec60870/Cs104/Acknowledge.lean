import Iec60870.Cs104.Events
import Iec60870.Lib.Trace

/-!
# Acknowledging what is received

Every I- and S-frame carries the number of I-frames accepted so far, so sending
one acknowledges all of them.  `ackNoRcv` is moved in four places and
`unackRcvSince` is set in one and never cleared; what ties them together is the
part of the history since the last I- or S-frame was sent.

## Main definitions

* `unacked` — when the I-frames not yet acknowledged were accepted.
* `Session.Received` — the inbound variables agree with the history.

## Main results

* `Session.recvInv_of_reach` — they agree along every run.
* `Session.acknowledge_discipline` — **what w and t₂ promise the peer.**
-/

namespace Iec60870
namespace Cs104

/-! ### What is not yet acknowledged -/

/-- The receive sequence number of a transmitted I- or S-frame. -/
def Obs.recvSn (o : Obs) : Option UInt16 :=
  match o.sentApci with
  | some (.i _ r) => some r
  | some (.s r) => some r
  | _ => none

/-- One more observation: accepted frames pile up until an I- or S-frame is sent. -/
def unackedStep (u : List ℕ) : Obs → List ℕ
  | .accepted _ now => u ++ [now]
  | o => if o.recvSn.isSome then [] else u

/-- When the I-frames not yet acknowledged were accepted, oldest first. -/
def unacked (log : List Obs) : List ℕ := log.foldl unackedStep []

@[simp] theorem unacked_concat (log : List Obs) (o : Obs) :
    unacked (log ++ [o]) = unackedStep (unacked log) o := by simp [unacked]

/-- Every transmitted I- or S-frame carries the number of frames accepted before it. -/
def Numbered (log : List Obs) : Prop :=
  Trace.Each (fun before o => ∀ r, o.recvSn = some r → r.toNat = (accepted before).length % 32768)
    log

/-- Observations that say nothing about the inbound direction. -/
def Obs.Outbound (o : Obs) : Prop := o.recvSn = none ∧ o.iAccepted = none

theorem outbound_newUFrame (f : UFunction) (now : ℕ) : (Obs.tx (newUFrame f) now).Outbound := by
  simp [Obs.Outbound, Obs.recvSn, Obs.sentApci, Obs.iAccepted]

theorem unackedStep_outbound {o : Obs} (h : o.Outbound) (u : List ℕ) : unackedStep u o = u := by
  cases o with
  | accepted raw now => cases h.2
  | _ => simp [unackedStep, h.1]

theorem unackedStep_of_recvSn {o : Obs} {r : UInt16} (h : o.recvSn = some r) (u : List ℕ) :
    unackedStep u o = [] := by
  cases o with
  | accepted raw now => cases h
  | _ => simp [unackedStep, h]

theorem append_outbound (log : List Obs) {os : List Obs} (h : ∀ o ∈ os, o.Outbound) :
    unacked (log ++ os) = unacked log ∧ accepted (log ++ os) = accepted log ∧
      (Numbered log → Numbered (log ++ os)) := by
  refine ⟨?_, ?_, fun hn => hn.append fun o ho a r hr => ?_⟩
  · induction os generalizing log with
    | nil => simp
    | cons o os ih =>
      have h' := ih (log ++ [o]) fun o' ho' => h o' (by simp [ho'])
      rw [List.append_assoc, List.singleton_append] at h'
      rw [h', unacked_concat, unackedStep_outbound (h o (by simp))]
  · rw [accepted_append]
    have hnil : accepted os = [] := List.filterMap_eq_nil_iff.mpr fun o ho => (h o ho).2
    rw [hnil, List.append_nil]
  · rw [(h o ho).1] at hr
    cases hr

theorem numbered_accepted {log : List Obs} (h : Numbered log) (raw : Octets) (now : ℕ) :
    Numbered (log ++ [.accepted raw now]) := Trace.each_concat.mpr ⟨h, nofun⟩

theorem recvSn_newSFrame {r : UInt16} (hr : r.toNat < 32768) (now : ℕ) :
    (Obs.tx (newSFrame r) now).recvSn = some r := by
  simp [Obs.recvSn, Obs.sentApci, apciOf_newSFrame hr]

theorem recvSn_newIFrame {n r : UInt16} {raw f : Octets} (hn : n.toNat < 32768)
    (hr : r.toNat < 32768) (hne : raw ≠ []) (h : newIFrame n r raw = .ok f) (now : ℕ) :
    (Obs.tx f now).recvSn = some r := by
  simp [Obs.recvSn, Obs.sentApci, apciOf_newIFrame hn hr hne h]

namespace Session

variable {cfg : Config} {s₀ : Session} {l : Label}

/-! ### The inbound variables along a run -/

/-- The inbound variables agree with the history. -/
structure Received (cfg : Config) (s : Session) : Prop where
  rcv : s.seqNoRcv.toNat = (accepted s.log).length % 32768
  ack : ∃ j, s.ackNoRcv.toNat = j % 32768 ∧ j + (unacked s.log).length = (accepted s.log).length
  few : (unacked s.log).length < cfg.recvUnackLimitW.toNat
  since : ∀ t, (unacked s.log).head? = some t → s.unackRcvSince = some t

/-- What holds of the inbound direction along every run.  A driver that cannot
hand over the S-frame due at w leaves its loop. -/
structure RecvInv (cfg : Config) (s : Session) : Prop where
  numbered : Numbered s.log
  limit : (unacked s.log).length < cfg.recvUnackLimitW.toNat ∨ s.phase = .closed .writerStopped
  running : s.Open → s.Received cfg

/-- The driver's count of unacknowledged frames. -/
theorem Received.count (hw : cfg.recvUnackLimitW.toNat ≤ 32767) {s : Session}
    (h : s.Received cfg) : (seqNoCount s.ackNoRcv s.seqNoRcv).toNat = (unacked s.log).length := by
  obtain ⟨j, hj, hlen⟩ := h.ack
  have hfew := h.few
  rw [seqNoCount_mod hj h.rcv (by omega) (by omega)]
  omega

theorem Received.ackNoRcv_eq_iff (hw : cfg.recvUnackLimitW.toNat ≤ 32767) {s : Session}
    (h : s.Received cfg) : s.ackNoRcv = s.seqNoRcv ↔ unacked s.log = [] := by
  obtain ⟨j, hj, hlen⟩ := h.ack
  have hfew := h.few
  have hrcv := h.rcv
  rw [← UInt16.toNat_inj, hj, h.rcv, ← List.length_eq_zero_iff]
  constructor
  · intro heq
    have := Cyclic.eq_of_mod_eq (m := j) le_rfl (by omega) (by omega) le_rfl (by omega) heq
    omega
  · intro h0
    rw [show j = (accepted s.log).length by omega]

theorem RecvInv.congr {s s' : Session} (h : s.RecvInv cfg) (os : List Obs)
    (hrcv : s'.seqNoRcv = s.seqNoRcv) (hack : s'.ackNoRcv = s.ackNoRcv)
    (hsince : s'.unackRcvSince = s.unackRcvSince) (hphase : s'.phase = s.phase)
    (hlog : s'.log = s.log ++ os) (hos : ∀ o ∈ os, o.Outbound) : s'.RecvInv cfg := by
  obtain ⟨h1, h2, h3⟩ := append_outbound s.log hos
  refine ⟨by rw [hlog]; exact h3 h.numbered, by rw [hlog, h1, hphase]; exact h.limit, fun hopen => ?_⟩
  have hr := h.running fun why => hphase ▸ hopen why
  exact ⟨by rw [hrcv, hlog, h2]; exact hr.rcv, by rw [hack, hlog, h1, h2]; exact hr.ack,
    by rw [hlog, h1]; exact hr.few, by rw [hlog, h1, hsince]; exact hr.since⟩

/-- Sending an I- or S-frame acknowledges everything. -/
theorem Received.acknowledge (hpos : 0 < cfg.recvUnackLimitW.toNat) {s s' : Session} {o : Obs}
    (hn : Numbered s.log) (hr : s.seqNoRcv.toNat = (accepted s.log).length % 32768)
    (ho : o.recvSn = some s.seqNoRcv) (hrcv : s'.seqNoRcv = s.seqNoRcv)
    (hack : s'.ackNoRcv = s.seqNoRcv) (hlog : s'.log = s.log ++ [o]) : s'.RecvInv cfg := by
  have hacc : o.iAccepted = none := by
    cases o with
    | accepted raw now => cases ho
    | _ => rfl
  -- the receive number of the frame covers every frame accepted so far
  have hu : unacked s'.log = [] := by
    rw [hlog, unacked_concat, unackedStep_of_recvSn ho]
  have ha : accepted s'.log = accepted s.log := by
    rw [hlog, accepted_append]
    simp [accepted, hacc]
  refine ⟨?_, .inl (by rw [hu]; simpa using hpos), fun _ => ⟨?_, ?_, ?_, ?_⟩⟩
  · rw [hlog]
    refine Trace.each_concat.mpr ⟨hn, fun r hr' => ?_⟩
    rw [ho] at hr'
    cases hr'
    exact hr
  · rw [hrcv, ha, hr]
  · refine ⟨(accepted s'.log).length, ?_, ?_⟩
    · rw [hack, ha, hr]
    · rw [hu, List.length_nil, Nat.add_zero]
  · rw [hu]
    simpa using hpos
  · intro t ht
    rw [hu] at ht
    cases ht

/-- An accepted frame joins those not acknowledged. -/
theorem Received.accept {s : Session} (h : s.Received cfg) (raw : Octets) (now : ℕ)
    (hw : cfg.recvUnackLimitW.toNat ≤ 32767) :
    (s.accept raw now).seqNoRcv.toNat = (accepted (s.accept raw now).log).length % 32768 ∧
      (∃ j, (s.accept raw now).ackNoRcv.toNat = j % 32768 ∧
        j + (unacked (s.accept raw now).log).length = (accepted (s.accept raw now).log).length) ∧
      (unacked (s.accept raw now).log).length = (unacked s.log).length + 1 ∧
      ∀ t, (unacked (s.accept raw now).log).head? = some t →
        (s.accept raw now).unackRcvSince = some t := by
  have hacc : (accepted (s.log ++ [.accepted raw now])).length = (accepted s.log).length + 1 := by
    simp [accepted, Obs.iAccepted]
  have hun : unacked (s.log ++ [.accepted raw now]) = unacked s.log ++ [now] := by
    rw [unacked_concat]
    rfl
  obtain ⟨j, hj, hlen⟩ := h.ack
  refine ⟨?_, ⟨j, hj, ?_⟩, ?_, ?_⟩
  · show ((s.seqNoRcv + 1) &&& SEQ_MASK).toNat = (accepted (s.log ++ [_])).length % 32768
    rw [hacc]
    exact toNat_succ_and_mask h.rcv
  · show j + (unacked (s.log ++ [_])).length = (accepted (s.log ++ [_])).length
    rw [hacc, hun, List.length_append, List.length_singleton]
    omega
  · show (unacked (s.log ++ [_])).length = _
    rw [hun, List.length_append, List.length_singleton]
  · show ∀ t, (unacked (s.log ++ [_])).head? = some t →
      (if s.ackNoRcv = s.seqNoRcv then some now else s.unackRcvSince) = some t
    intro t ht
    rw [hun] at ht
    -- the clock restarts exactly when nothing was waiting
    by_cases hidle : s.ackNoRcv = s.seqNoRcv
    · rw [(h.ackNoRcv_eq_iff hw).mp hidle] at ht
      rw [if_pos hidle]
      exact ht
    · rw [if_neg hidle]
      rw [h.ackNoRcv_eq_iff hw] at hidle
      obtain ⟨t', rest, hu⟩ := List.exists_cons_of_ne_nil hidle
      rw [hu] at ht
      exact h.since t (by rw [hu]; exact ht)

theorem RecvInv.action (hpos : 0 < cfg.recvUnackLimitW.toNat)
    (hw : cfg.recvUnackLimitW.toNat ≤ 32767) {s s' : Session} (hwf : s.Wf)
    (h : s.RecvInv cfg) (ha : Action cfg s₀ l s s') : s'.RecvInv cfg := by
  have hwf' := hwf.action ha
  cases ha with
  | quiet hd hlog _ _ _ hphase _ =>
    rcases hphase with hphase | ⟨hopen, hphase⟩
    · exact h.congr [] (by rw [hd]) (by rw [hd]) (by rw [hd]) hphase (by simpa using hlog) (by simp)
    -- out of the loop nothing is waited for any more
    · have hr := h.running hopen
      refine ⟨hlog ▸ h.numbered, .inl (hlog ▸ hr.few), fun _ => ?_⟩
      exact ⟨by rw [hlog, hd]; exact hr.rcv, by rw [hlog, hd]; exact hr.ack,
        by rw [hlog]; exact hr.few, by rw [hlog, hd]; exact hr.since⟩
  | enqueue hconn => exact h.congr [] rfl rfl rfl rfl (by simp) (by simp)
  | guard htop =>
    have hr := h.running (Session.open_of_top htop)
    exact ⟨h.numbered, .inl hr.few, fun _ => ⟨hr.rcv, hr.ack, hr.few, hr.since⟩⟩
  -- an I-frame carries the receive number, so it acknowledges as an S-frame does
  | send _ _ hphase hqueue hframe =>
    have hr := h.running (Session.open_of_waiting hphase)
    have hraw := hwf.queue _ (hqueue ▸ List.mem_cons_self)
    exact Received.acknowledge hpos h.numbered hr.rcv
      (recvSn_newIFrame hwf.seqNoSend hwf.seqNoRcv hraw hframe _) rfl rfl rfl
  | sendS hopen =>
    exact Received.acknowledge hpos h.numbered (h.running hopen).rcv
      (recvSn_newSFrame hwf.seqNoRcv _) rfl rfl rfl
  -- fewer than w are waiting: the source compares the sequence numbers, modulo 2 ^ 15
  | @accept raw hopen _ hlt =>
    obtain ⟨h1, ⟨j, h2, h2'⟩, h3, h4⟩ := (h.running hopen).accept raw s.clock hw
    have hfew := (h.running hopen).few
    have hcount := seqNoCount_mod h2 h1 (by omega) (by omega)
    change ¬cfg.recvUnackLimitW ≤ seqNoCount (s.accept raw s.clock).ackNoRcv
      (s.accept raw s.clock).seqNoRcv at hlt
    rw [UInt16.le_iff_toNat_le, hcount] at hlt
    have hfew' : (unacked (s.accept raw s.clock).log).length < cfg.recvUnackLimitW.toNat := by omega
    exact ⟨numbered_accepted h.numbered raw s.clock, .inl hfew',
      fun _ => ⟨h1, ⟨j, h2, h2'⟩, hfew', h4⟩⟩
  -- the w-th frame is accepted, and the S-frame for it goes out in the same step
  | @acceptFull raw hopen _ =>
    have hrcv := ((h.running hopen).accept raw s.clock hw).1
    exact Received.acknowledge hpos (numbered_accepted h.numbered raw s.clock) hrcv
      (recvSn_newSFrame hwf'.seqNoRcv _) rfl rfl rfl
  | @acceptLost raw hopen _ =>
    exact ⟨numbered_accepted h.numbered raw s.clock, .inr rfl, fun hopen' => absurd rfl (hopen' _)⟩
  | teardown hopen why =>
    exact ⟨h.numbered, .inl (h.running hopen).few, fun hopen' => absurd rfl (hopen' why)⟩
  | stopAct _ _ _ _ _ _ _ =>
    refine h.congr _ rfl rfl rfl rfl rfl fun o ho => ?_
    split at ho
    · rw [List.mem_singleton.mp ho]
      exact ⟨rfl, rfl⟩
    · cases ho
  | testCon _ _ _ => exact h.congr [] rfl rfl rfl rfl (by simp) (by simp)
  | startAct _ _ _ _ _ =>
    refine h.congr [_, _] rfl rfl rfl rfl (List.append_assoc ..) ?_
    simp only [List.mem_cons, List.not_mem_nil, or_false, forall_eq_or_imp, forall_eq]
    exact ⟨outbound_newUFrame _ _, rfl, rfl⟩
  | demote => exact h.congr [_] rfl rfl rfl rfl rfl (List.forall_mem_singleton.mpr ⟨rfl, rfl⟩)
  | receive => exact h.congr [_] rfl rfl rfl rfl rfl (List.forall_mem_singleton.mpr ⟨rfl, rfl⟩)
  | pack => exact h.congr [_] rfl rfl rfl rfl rfl (List.forall_mem_singleton.mpr ⟨rfl, rfl⟩)
  | ack => exact h.congr [_] rfl rfl rfl rfl rfl (List.forall_mem_singleton.mpr ⟨rfl, rfl⟩)
  | startCon => exact h.congr [_] rfl rfl rfl rfl rfl (List.forall_mem_singleton.mpr ⟨rfl, rfl⟩)
  | stopCon => exact h.congr [_] rfl rfl rfl rfl rfl (List.forall_mem_singleton.mpr ⟨rfl, rfl⟩)
  | _ => exact h.congr [_] rfl rfl rfl rfl rfl (List.forall_mem_singleton.mpr (outbound_newUFrame _ _))

variable {params : Params} {role : Role} {start : ℕ} {ok : Session → Label → Prop}

theorem RecvInv.at_clock {s : Session} (h : s.RecvInv cfg) (c : ℕ) :
    RecvInv cfg { s with clock := c } :=
  ⟨h.numbered, h.limit, fun hopen =>
    have hr := h.running hopen
    ⟨hr.rcv, hr.ack, hr.few, hr.since⟩⟩

theorem recvInv_of_reach (hpos : 0 < cfg.recvUnackLimitW.toNat)
    (hw : cfg.recvUnackLimitW.toNat ≤ 32767) {s : Session}
    (h : (machine cfg params role start).Reach ok s) : s.RecvInv cfg := by
  refine reach_of_actions_wf (P := RecvInv cfg) ?_ (fun _ c h _ => h.at_clock c) ?_ h
  · refine ⟨Trace.each_nil, .inl hpos, fun _ => ⟨rfl, ⟨0, rfl, rfl⟩, hpos, ?_⟩⟩
    intro t ht
    cases ht
  · intro s₀ l u u' _ _ hwf hu ha
    exact hu.action hpos hw hwf ha

/-- After a tick that leaves the loop running, nothing has waited for t₂. -/
theorem oldest_unacked_of_tick (hw : cfg.recvUnackLimitW.toNat ≤ 32767) {s t : Session}
    {now clock : ℕ} (hwf : s.Wf) (hs : s.RecvInv cfg)
    (h : s.next cfg (.select (.tick now clock)) = some t) (hopen : t.Open) :
    ∀ τ, (unacked t.log).head? = some τ → now < τ + cfg.recvUnackTimeout2 := by
  obtain ⟨hopen', -, -, -, -, rfl⟩ := next_tick h hopen
  have hr := hs.running hopen'
  intro τ hτ
  -- a keep-alive does not acknowledge anything
  have hlog : ∀ u : Session, unacked (u.afterT3 cfg now clock).log = unacked u.log := by
    intro u
    unfold afterT3
    split
    · exact (append_outbound u.log (List.forall_mem_singleton.mpr (outbound_newUFrame _ _))).1
    · rfl
  change (unacked (({ s with clock := clock }.afterT2 cfg now clock).afterT3 cfg now clock).log).head?
    = some τ at hτ
  rw [hlog] at hτ
  unfold afterT2 at hτ
  split at hτ
  -- t₂ was due, and everything was acknowledged at this very tick
  · change (unacked (s.log ++ [.tx (newSFrame s.seqNoRcv) clock])).head? = some τ at hτ
    rw [unacked_concat, unackedStep_of_recvSn (recvSn_newSFrame hwf.seqNoRcv _)] at hτ
    cases hτ
  -- t₂ was not due: the oldest frame has waited for less
  · next hdue =>
    have hne : s.ackNoRcv ≠ s.seqNoRcv := by
      intro heq
      rw [(hr.ackNoRcv_eq_iff hw).mp heq] at hτ
      cases hτ
    have hsince := hr.since τ hτ
    have hlt : ¬cfg.recvUnackTimeout2 ≤ now - τ := by
      intro hle
      apply hdue
      show s.t2Due cfg now = true
      simp [t2Due, hne, hsince, hle]
    omega

/-- **What w and t₂ promise the peer.**  Every I- and S-frame carries the number
of I-frames accepted so far, so the numbers advance by what is accepted between
two of them; fewer than w accepted frames are left unacknowledged, unless the
writer was gone when the acknowledgement fell due; the t₂ clock shows the oldest
of them, and none outlasts t₂ at a tick. -/
theorem acknowledge_discipline (hpos : 1 ≤ cfg.recvUnackLimitW.toNat)
    (hw : cfg.recvUnackLimitW.toNat ≤ 32767) {s : Session}
    (h : (machine cfg params role start).Reachable s) :
    (∀ a o b r, s.log = a ++ o :: b → o.recvSn = some r →
      r.toNat = (accepted a).length % 32768) ∧
    ((unacked s.log).length < cfg.recvUnackLimitW.toNat ∨ s.phase = .closed .writerStopped) ∧
    (s.Open → unacked s.log ≠ [] → s.unackRcvSince = (unacked s.log).head?) ∧
    ∀ now clock t, s.next cfg (.select (.tick now clock)) = some t → t.Open →
      ∀ τ, (unacked t.log).head? = some τ → now < τ + cfg.recvUnackTimeout2 := by
  have hinv := recvInv_of_reach hpos hw h
  refine ⟨fun a o b r hab hr => hinv.numbered a o b hab r hr, hinv.limit, fun hopen hne => ?_, ?_⟩
  · obtain ⟨τ, rest, hu⟩ := List.exists_cons_of_ne_nil hne
    have hhead : (unacked s.log).head? = some τ := by rw [hu]; rfl
    rw [hhead]
    exact (hinv.running hopen).since τ hhead
  · intro now clock t ht hopen
    exact oldest_unacked_of_tick hw (wf_of_reach h) hinv ht hopen

/-- Start a controlled station and let it accept an indication. -/
def startAndReceive : List Label :=
  [.guard, .select (.frame (newUFrame .startDtActive) 0 0),
    .guard, .select (.frame ([0x68, 14, 0, 0, 0, 0] ++ (indication 1).octets) 4 5)]

theorem acknowledge_discipline_startAndReceive : ∃ s,
    (machine .default paramsWide .controlled 0).run (init .default paramsWide .controlled 0)
        startAndReceive = some s ∧
      unacked s.log = [5] ∧ s.unackRcvSince = (unacked s.log).head? := by
  obtain ⟨s, hs, hu, hopen⟩ : ∃ s, (machine .default paramsWide .controlled 0).run
      (init .default paramsWide .controlled 0) startAndReceive = some s ∧ unacked s.log = [5] ∧
        s.phase = .top := ⟨_, rfl, rfl, rfl⟩
  refine ⟨s, hs, hu, ?_⟩
  refine (acknowledge_discipline (by decide) (by decide) (Machine.reach_of_run .init hs)).2.2.1 ?_ ?_
  · intro why
    rw [hopen]
    exact nofun
  · rw [hu]
    exact nofun

end Session

end Cs104
end Iec60870
