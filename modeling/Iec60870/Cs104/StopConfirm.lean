import Iec60870.Cs104.Acknowledge
import Iec60870.Cs104.Window

/-!
# Confirming a stop

A controlled station answers STOPDT act once everything it sent is acknowledged,
possibly many frames later.  Until then `stopConPending` holds the answer back.

## Main definitions

* `Covered` — every I-frame accepted is acknowledged to the peer.
* `Truthful` — what STOPDT con says about the history before it.
* `Session.StationInv` — what a held back confirmation stands for.

## Main results

* `covered_of_unacked` — when the driver's count is empty, the peer was told.
* `Session.stopCon_truthful` — **every STOPDT con is truthful.**
-/

namespace Iec60870
namespace Cs104

/-- What ends a stop: an I-frame or a confirmation sent. -/
def Obs.EndsStop (o : Obs) : Prop := o.IsI ∨ o.SendsU .stopDtConfirm

/-- How many STOPDT con were sent: the confirmations to be counted against the
requests. -/
def stopCons (log : List Obs) : ℕ := log.countP fun o => o.SendsU .stopDtConfirm

/-- How many STOPDT act were received, whether or not they have been confirmed. -/
def stopActs (log : List Obs) : ℕ := log.countP fun o => o.ReceivesU .stopDtActive

/-- Every I-frame accepted is followed by a transmitted I- or S-frame whose receive
number counts all the frames accepted so far, and so covers this one. -/
def Covered (log : List Obs) : Prop :=
  ∀ a x b, log = a ++ x :: b → x.iAccepted.isSome →
    ∃ c y d r, b = c ++ y :: d ∧ y.recvSn = some r ∧ r.toNat = (accepted log).length % 32768

/-- What STOPDT con says about the history before it. -/
structure Truthful (before : List Obs) : Prop where
  /-- Every I-frame sent is acknowledged. -/
  sent : (ledger before).acked = (ledger before).sent
  /-- Every I-frame accepted is acknowledged by a frame transmitted before. -/
  received : Covered before
  /-- A STOPDT act was received, and nothing has ended the stop. -/
  stopped : Trace.Since (·.ReceivesU .stopDtActive) Obs.EndsStop before
  /-- It answers a STOPDT act that no earlier confirmation answers. -/
  answers : stopCons before < stopActs before

/-- An observation that accepts nothing leaves the frames accepted as they were. -/
theorem accepted_concat_of_none {log : List Obs} {x : Obs} (h : x.iAccepted = none) :
    accepted (log ++ [x]) = accepted log := by
  rw [accepted_append]
  simp [accepted, h]

/-- When nothing is unacknowledged, the last transmitted I- or S-frame covers
everything accepted. -/
theorem covered_of_unacked {log : List Obs} (hn : Numbered log) (h : unacked log = []) :
    Covered log := by
  -- backwards from the end of the history to the frame that acknowledged last
  induction log using List.reverseRecOn with
  | nil =>
    intro a x b hab
    simp at hab
  | append_singleton log y ih =>
    intro a x b hab hx
    obtain ⟨hn, hy⟩ := Trace.each_concat.mp hn
    rw [unacked_concat] at h
    -- the last entry accepts no frame: it would still be unacknowledged
    have hacc : y.iAccepted = none := by
      cases y with
      | accepted raw now => simp [unackedStep] at h
      | _ => rfl
    -- so the frame in question stands before it
    rcases List.eq_nil_or_concat b with rfl | ⟨b, z, rfl⟩
    · obtain ⟨-, he⟩ := List.append_inj' hab rfl
      cases he
      rw [hacc] at hx
      cases hx
    · rw [List.concat_eq_append, ← List.cons_append, ← List.append_assoc] at hab
      obtain ⟨hlog, he⟩ := List.append_inj' hab rfl
      cases he
      rw [accepted_concat_of_none hacc]
      cases hr : y.recvSn with
      | some r =>
        -- it is an I- or S-frame, numbered with all that was accepted before it
        exact ⟨b, y, [], r, by simp, hr, hy r hr⟩
      | none =>
        -- it says nothing about what was accepted, and the covering frame is earlier
        have hu : unacked log = [] := by
          rwa [unackedStep_outbound ⟨hr, hacc⟩] at h
        obtain ⟨c, w, d, r, hb, hw, hr'⟩ := ih hn hu a x b hlog hx
        exact ⟨c, w, d ++ [y], r, by simp [hb], hw, hr'⟩

namespace Session

variable {cfg : Config} {s₀ : Session} {l : Label}

/-! ### Holding the confirmation back -/

/-- What a held back confirmation stands for, and the confirmations sent so far. -/
structure StationInv (s : Session) : Prop where
  role : s.conn.role = .controlled
  truthful : Trace.Each (fun before o => o.SendsU .stopDtConfirm → Truthful before) s.log
  counts : stopCons s.log + (if s.stopConPending then 1 else 0) ≤ stopActs s.log
  inactive : s.stopConPending = true → s.conn.active = false
  received : s.stopConPending = true → unacked s.log = []
  stopped : s.stopConPending = true → Trace.Since (·.ReceivesU .stopDtActive) Obs.EndsStop s.log

theorem stopCons_append {log os : List Obs} (h : ∀ o ∈ os, ¬o.SendsU .stopDtConfirm) :
    stopCons (log ++ os) = stopCons log := by
  have hzero : os.countP (fun o => decide (o.SendsU .stopDtConfirm)) = 0 :=
    List.countP_eq_zero.mpr (by simpa using h)
  rw [stopCons, List.countP_append, hzero, Nat.add_zero]
  rfl

theorem stopActs_le_append (log os : List Obs) : stopActs log ≤ stopActs (log ++ os) := by
  rw [stopActs, stopActs, List.countP_append]
  exact Nat.le_add_right _ _

/-- Accepting nothing leaves nothing unacknowledged. -/
theorem unacked_append_nil {log os : List Obs} (h : unacked log = [])
    (hos : ∀ o ∈ os, o.iAccepted = none) : unacked (log ++ os) = [] := by
  induction os using List.reverseRecOn with
  | nil => simpa using h
  | append_singleton os o ih =>
    rw [← List.append_assoc, unacked_concat, ih fun o' ho' => hos o' (by simp [ho'])]
    have ho := hos o (by simp)
    cases o with
    | accepted raw now => cases ho
    | _ => simp [unackedStep]

theorem StationInv.congr {s s' : Session} (h : s.StationInv) (os : List Obs)
    (hrole : s'.conn.role = s.conn.role)
    (hpending : s'.stopConPending = true → s.stopConPending = true)
    (hactive : s'.conn.active = true → s.conn.active = true) (hlog : s'.log = s.log ++ os)
    (hcon : ∀ o ∈ os, ¬o.SendsU .stopDtConfirm)
    (hidle : s'.stopConPending = true → ∀ o ∈ os, ¬o.IsI ∧ o.iAccepted = none) :
    s'.StationInv := by
  have hstop := stopActs_le_append s.log os
  have hcounts := h.counts
  -- nothing in `os` confirms, and while a confirmation is held back nothing there is data
  refine ⟨hrole ▸ h.role, ?_, ?_, fun hp => ?_, fun hp => ?_, fun hp => ?_⟩
  · rw [hlog]
    exact h.truthful.append fun o ho a hc => absurd hc (hcon o ho)
  · rw [hlog, stopCons_append hcon]
    by_cases hp : s'.stopConPending = true
    · rw [if_pos hp]
      rw [if_pos (hpending hp)] at hcounts
      omega
    · rw [if_neg hp]
      omega
  · have := h.inactive (hpending hp)
    by_contra ha
    rw [hactive (by simpa using ha)] at this
    cases this
  · rw [hlog]
    exact unacked_append_nil (h.received (hpending hp)) fun o ho => (hidle hp o ho).2
  · rw [hlog]
    refine (h.stopped (hpending hp)).append fun o ho he => ?_
    rcases he with he | he
    · exact (hidle hp o ho).1 he
    · exact hcon o ho he

/-- A new STOPDT act leaves the answer outstanding. -/
theorem StationInv.stopAct (hw : cfg.recvUnackLimitW.toNat ≤ 32767) {s : Session}
    {f rest : Octets} {idle : ℕ} {after : List Obs} (h : s.StationInv) (hwf : s.Wf)
    (hs₀ : s₀.StationInv) (hr : s.Received cfg) (hlog : s.log = s₀.log ++ .rx f idle :: after)
    (hafter : after = [] ∨ after = [.tx (newSFrame s.seqNoRcv) s.clock])
    (hacked : s.ackNoRcv = s.seqNoRcv) (hf : parse f = .ok (.u .stopDtActive, rest)) :
    StationInv { s with
      conn := s.conn.setActive false
      stopConPending := true
      log := s.log ++ if s.conn.active then [.deactivated] else [] } := by
  have hact : (Obs.rx f idle).ReceivesU .stopDtActive := apciOf_of_parse hf
  -- what follows STOPDT act in the history neither confirms nor ends the stop
  have hquiet : ∀ o ∈ after ++ (if s.conn.active then [.deactivated] else []),
      ¬o.IsI ∧ ¬o.SendsU .stopDtConfirm := by
    intro o ho
    rcases List.mem_append.mp ho with ho | ho
    · rcases hafter with rfl | rfl
      · cases ho
      · rw [List.mem_singleton.mp ho]
        exact ⟨Obs.not_isI_newSFrame hwf.seqNoRcv _, Obs.not_sendsU_newSFrame hwf.seqNoRcv _ _⟩
    · split at ho
      · rw [List.mem_singleton.mp ho]
        exact ⟨Obs.not_isI_of_sentApci rfl, Obs.not_sendsU_of_sentApci rfl _⟩
      · cases ho
  have hlog' : s.log ++ (if s.conn.active then [.deactivated] else []) =
      (s₀.log ++ [.rx f idle]) ++ (after ++ if s.conn.active then [.deactivated] else []) := by
    rw [hlog]
    simp
  have hcons : stopCons (s.log ++ if s.conn.active then [.deactivated] else []) =
      stopCons s₀.log := by
    rw [hlog', stopCons_append fun o ho => (hquiet o ho).2, stopCons_append]
    exact List.forall_mem_singleton.mpr (Obs.not_sendsU_of_sentApci rfl _)
  have hacts : stopActs s₀.log + 1 ≤ stopActs (s.log ++ if s.conn.active then [.deactivated] else []) := by
    rw [hlog']
    refine le_trans ?_ (stopActs_le_append _ _)
    rw [stopActs, stopActs, List.countP_append, List.countP_singleton, if_pos (by simpa using hact)]
  have hcounts := hs₀.counts
  refine ⟨h.role, ?_, ?_, fun _ => rfl, fun _ => ?_, fun _ => ?_⟩
  · refine h.truthful.append fun o ho a hc => absurd hc ?_
    exact (hquiet o (List.mem_append_right _ ho)).2
  · show stopCons (s.log ++ _) + 1 ≤ stopActs (s.log ++ _)
    rw [hcons]
    omega
  · refine unacked_append_nil ((hr.ackNoRcv_eq_iff hw).mp hacked) fun o ho => ?_
    split at ho
    · rw [List.mem_singleton.mp ho]
      rfl
    · cases ho
  · show Trace.Since _ _ (s.log ++ _)
    rw [hlog']
    have hsince : Trace.Since (·.ReceivesU .stopDtActive) Obs.EndsStop (s₀.log ++ [.rx f idle]) :=
      Trace.since_concat.mpr (.inl hact)
    refine hsince.append fun o ho he => ?_
    rcases he with he | he
    · exact (hquiet o ho).1 he
    · exact (hquiet o ho).2 he

/-- The confirmation that was held back says nothing untrue. -/
theorem StationInv.confirmStop {s : Session} (hsend : s.SendInv cfg) (hn : Numbered s.log)
    (hk : cfg.sendUnackLimitK.toNat ≤ 32767) (hopen : s.Open) (h : s.StationInv)
    (hpending : s.stopConPending = true) (hacked : s.ackNoSend = s.seqNoSend) :
    StationInv ({ s with stopConPending := false }.note (.tx (newUFrame .stopDtConfirm) s.clock)) := by
  have hcon : (Obs.tx (newUFrame .stopDtConfirm) s.clock).SendsU .stopDtConfirm :=
    apciOf_newUFrame _
  have hcounts := h.counts
  rw [if_pos hpending] at hcounts
  have htrue : Truthful s.log := by
    obtain ⟨-, m, n, hwin, hl⟩ := hsend
    have hlen := hwin.len
    have hle := hwin.le
    have hlt : n - m < 32768 := by omega
    have hmn : m = n := Cyclic.eq_of_mod_eq le_rfl hwin.le hwin.le le_rfl hlt
      (by rw [← hwin.ack, ← hwin.seq, hacked])
    refine ⟨?_, covered_of_unacked hn (h.received hpending), h.stopped hpending, by omega⟩
    rw [(hl hopen).ledger, hmn]
  refine ⟨h.role, Trace.each_concat.mpr ⟨h.truthful, fun _ => htrue⟩, ?_, nofun, nofun, nofun⟩
  show stopCons (s.log ++ [_]) + 0 ≤ stopActs (s.log ++ [_])
  rw [stopCons, List.countP_append, List.countP_singleton, if_pos (by simpa using hcon)]
  exact le_trans hcounts (stopActs_le_append _ _)

private theorem still {o : Obs} (h : o.sentApci = none) : ∀ o' ∈ [o], ¬o'.SendsU .stopDtConfirm :=
  List.forall_mem_singleton.mpr (Obs.not_sendsU_of_sentApci h _)

private theorem stillU {f : UFunction} (hne : f ≠ .stopDtConfirm) (now : ℕ) :
    ∀ o' ∈ [Obs.tx (newUFrame f) now], ¬o'.SendsU .stopDtConfirm :=
  List.forall_mem_singleton.mpr (Obs.not_sendsU_newUFrame hne now)

private theorem idle {o : Obs} (h : o.sentApci = none) (hacc : o.iAccepted = none) :
    ∀ o' ∈ [o], ¬o'.IsI ∧ o'.iAccepted = none :=
  List.forall_mem_singleton.mpr ⟨Obs.not_isI_of_sentApci h, hacc⟩

private theorem idleU (f : UFunction) (now : ℕ) :
    ∀ o' ∈ [Obs.tx (newUFrame f) now], ¬o'.IsI ∧ o'.iAccepted = none :=
  List.forall_mem_singleton.mpr ⟨Obs.not_isI_newUFrame f now, rfl⟩

theorem StationInv.action (hk : cfg.sendUnackLimitK.toNat ≤ 32767)
    (hw : cfg.recvUnackLimitW.toNat ≤ 32767) {s s' : Session} (h : s.StationInv)
    (hl : l ≠ .demote) (hs₀ : s₀.StationInv)
    (hguard : s₀.phase = .waiting true → s₀.conn.active = true)
    (hwf : s.Wf) (hsend : s.SendInv cfg) (hrecv : s.RecvInv cfg)
    (ha : Action cfg s₀ l s s') : s'.StationInv := by
  have hwf' := hwf.action ha
  -- a session that holds back its confirmation is inactive
  have hnot : s.conn.active = true → s.stopConPending = true → False := fun hact hp => by
    rw [h.inactive hp] at hact
    cases hact
  cases ha with
  | quiet hd hlog hrole hactive _ _ _ =>
    exact h.congr [] hrole (fun hp => hd ▸ hp) (fun ha => hactive ▸ ha) (by simpa using hlog)
      (by simp) (by simp)
  | enqueue hconn =>
    obtain ⟨raw, -, rfl⟩ := queue_of_tryEnqueue hconn
    exact h.congr [] rfl id id (by simp) (by simp) (by simp)
  | demote hl' => exact absurd hl' hl
  | guard => exact h.congr [] rfl id id (List.append_nil _).symm (by simp) (by simp)
  | @send raw frame rest hs _ hphase hqueue hframe =>
    -- the guard was open, so the session is active and holds no confirmation back
    have hactive : s.conn.active = true := by
      rw [hs] at hphase ⊢
      exact hguard hphase
    have hI : (Obs.tx frame s.clock).IsI := Obs.isI_newIFrame s.clock hwf.seqNoSend hwf.seqNoRcv
      (hwf.queue raw (hqueue ▸ List.mem_cons_self)) hframe
    exact h.congr [_] rfl id id rfl (List.forall_mem_singleton.mpr (Obs.not_sendsU_of_isI hI _))
      fun hp => (hnot hactive hp).elim
  | startDt => exact h.congr [_] rfl id id rfl (stillU (by decide) _) fun _ => idleU _ _
  | stopDt => exact h.congr [_] rfl id id rfl (stillU (by decide) _) fun _ => idleU _ _
  | receive => exact h.congr [_] rfl id id rfl (still rfl) fun _ => idle rfl rfl
  | ack => exact h.congr [_] rfl id id rfl (still rfl) fun _ => idle rfl rfl
  | pack => exact h.congr [_] rfl id id rfl (still rfl) fun _ => idle rfl rfl
  | accept _ hact _ =>
    -- only an active station accepts data
    refine h.congr [_] rfl id id rfl (still rfl) fun hp => ?_
    rcases hact with hact | hrole
    · exact (hnot hact hp).elim
    · rw [h.role] at hrole
      cases hrole
  | acceptFull _ hact =>
    refine h.congr [_, _] rfl id id (List.append_assoc ..) ?_ fun hp => ?_
    · simp only [List.mem_cons, List.not_mem_nil, or_false, forall_eq_or_imp, forall_eq]
      exact ⟨Obs.not_sendsU_of_sentApci rfl _, Obs.not_sendsU_newSFrame hwf'.seqNoRcv _ _⟩
    · rcases hact with hact | hrole
      · exact (hnot hact hp).elim
      · rw [h.role] at hrole
        cases hrole
  | acceptLost => exact h.congr [_] rfl nofun nofun rfl (still rfl) nofun
  | sendS =>
    exact h.congr [_] rfl id id rfl
      (List.forall_mem_singleton.mpr (Obs.not_sendsU_newSFrame hwf.seqNoRcv _ _))
      fun _ => List.forall_mem_singleton.mpr ⟨Obs.not_isI_newSFrame hwf.seqNoRcv _, rfl⟩
  | startAct =>
    have h' : StationInv ({ s with stopConPending := false }.note
        -- STARTDT act drops the confirmation that was held back
        (.tx (newUFrame .startDtConfirm) s.clock)) :=
      h.congr [_] rfl nofun id rfl (stillU (by decide) _) nofun
    refine ⟨h'.role, h'.truthful.append fun o ho a hc => absurd hc (still rfl o ho), ?_,
      nofun, nofun, nofun⟩
    refine le_trans ?_ (stopActs_le_append _ _)
    exact (stopCons_append (still rfl)).trans_le h'.counts
  | stopAct hopen hlog hafter hacked hrole _ hf =>
    exact h.stopAct hw hwf hs₀ (hrecv.running hopen) hlog hafter hacked hf
  | startCon _ _ hrole _ _ =>
    rw [h.role] at hrole
    cases hrole
  | stopCon _ _ hrole _ _ =>
    rw [h.role] at hrole
    cases hrole
  | testAct => exact h.congr [_] rfl id id rfl (stillU (by decide) _) fun _ => idleU _ _
  | testCon => exact h.congr [] rfl id id (List.append_nil _).symm (by simp) (by simp)
  | confirmStop hopen hpending hacked => exact h.confirmStop hsend hrecv.numbered hk hopen hpending hacked
  | keepAlive => exact h.congr [_] rfl id id rfl (stillU (by decide) _) fun _ => idleU _ _
  | teardown => exact h.congr [] rfl nofun nofun (List.append_nil _).symm (by simp) nofun

variable {params : Params} {start : ℕ}

theorem stationInv_of_reach (hcfg : cfg.InRange) {s : Session}
    (h : (machine cfg params .controlled start).Reach (fun _ l => l ≠ .demote) s) :
    s.StationInv ∧ (s.phase = .waiting true → s.conn.active = true) := by
  induction h with
  | init =>
    refine ⟨⟨rfl, Trace.each_nil, le_rfl, nofun, nofun, nofun⟩, fun hp => ?_⟩
    cases hp
  | @step s t l hr hok hn ih =>
    obtain ⟨hs, hguard⟩ := ih
    have hsend := sendInv_of_reach hcfg.k_le hr
    have hrecv := recvInv_of_reach hcfg.w_pos hcfg.w_le hr
    constructor
    · refine (step_of_actions_wf (P := fun u => u.SendInv cfg ∧ u.RecvInv cfg ∧ u.StationInv)
        (wf_of_reach hr) (fun c hc => ⟨hsend.at_clock hc, hrecv.at_clock c,
          hs.1, hs.2, hs.3, hs.4, hs.5, hs.6⟩) ?_ hn).2.2
      rintro u u' hwf ⟨hu, hu', hu''⟩ ha
      exact ⟨hu.action hcfg.k_le hwf ha, hu'.action hcfg.w_pos hcfg.w_le hwf ha,
        hu''.action hcfg.k_le hcfg.w_le hok hs hguard hwf hu hu' ha⟩
    · intro hp
      rcases next_waiting hn hp with ⟨-, -, hg, rfl⟩ | ⟨hp', -, -, ⟨ha, -⟩ | ⟨hl, -⟩⟩
      · simp only [maySend, Bool.and_eq_true, eq_comm (a := true)] at hg
        exact hg.1.1
      · rw [ha]
        exact hguard hp'
      · exact absurd hl hok

/-- **Every STOPDT con is truthful.**  When it is sent, every I-frame sent is
acknowledged by the peer, every I-frame accepted is covered by the receive number of
a frame transmitted before it, no I-frame was sent since a STOPDT act not answered
before, and there are never more confirmations than requests. -/
theorem stopCon_truthful (hcfg : cfg.InRange) {s : Session}
    (h : (machine cfg params .controlled start).Reach (fun _ l => l ≠ .demote) s) :
    (∀ before o after, s.log = before ++ o :: after → o.SendsU .stopDtConfirm →
      Truthful before) ∧
    stopCons s.log ≤ stopActs s.log := by
  obtain ⟨hinv, -⟩ := stationInv_of_reach hcfg h
  exact ⟨hinv.truthful, le_trans (Nat.le_add_right _ _) hinv.counts⟩

/-- A station that has sent an indication and accepted one is stopped.  It
acknowledges what it accepted, and confirms the stop when the acknowledgement of its
own frame arrives. -/
def stopWithDataOut : List Label :=
  startAndSend ++ [.guard, .select (.frame ([0x68, 14, 0, 0, 0, 0] ++ (indication 1).octets) 1 1),
    .guard, .select (.frame (newUFrame .stopDtActive) 2 2),
    .guard, .select (.frame (newSFrame 1) 3 3)]

theorem stopCon_truthful_stopWithDataOut : ∃ s before o,
    (machine .default paramsWide .controlled 0).runIf (fun _ l => l ≠ .demote)
        (init .default paramsWide .controlled 0) stopWithDataOut = some s ∧
      s.log = before ++ [o] ∧ o.SendsU .stopDtConfirm ∧
      (accepted before).length = 1 ∧ (sentI before).length = 1 ∧ Truthful before := by
  obtain ⟨s, hs, o, hlog, ho, hin, hout⟩ : ∃ s,
      (machine .default paramsWide .controlled 0).runIf (fun _ l => l ≠ .demote)
        (init .default paramsWide .controlled 0) stopWithDataOut = some s ∧
      ∃ o, s.log = s.log.take 13 ++ [o] ∧ o.SendsU .stopDtConfirm ∧
        (accepted (s.log.take 13)).length = 1 ∧ (sentI (s.log.take 13)).length = 1 :=
    ⟨_, rfl, _, rfl, rfl, rfl, rfl⟩
  exact ⟨s, _, o, hs, hlog, ho, hin, hout,
    (stopCon_truthful Config.inRange_default
      (Machine.reach_of_runIf .init hs)).1 _ o [] hlog ho⟩

end Session

end Cs104
end Iec60870
