import Iec60870.Cs104.Events
import Iec60870.Lib.Trace

/-!
# When a master transmits data

A master may transmit I-frames while `active` is set and `stopping` is clear.
Both flags follow confirmations as well as requests, and a confirmation does not
say which request it answers.

## Main definitions

* `Asked` — STARTDT act was sent, and no STOPDT act since.
* `AskedBeforeI` — this holds before every I-frame sent.
* `Session.confirmsAsked` — a STARTDT con arrives only when it holds, or while a
  stop is awaited.

## Main results

* `Session.askedBeforeI_of_reach` — **under this condition a master sends data
  only while it has asked for data transfer.**
* `Session.not_askedBeforeI` — without it, it need not.
-/

namespace Iec60870
namespace Cs104

/-- STARTDT act was transmitted, and no STOPDT act since. -/
def Asked (log : List Obs) : Prop :=
  Trace.Since (·.SendsU .startDtActive) (·.SendsU .stopDtActive) log

instance (log : List Obs) : Decidable (Asked log) :=
  Trace.decidableSince log

/-- Every I-frame is sent while data transfer is asked for. -/
def AskedBeforeI (log : List Obs) : Prop := Trace.Each (fun before o => o.IsI → Asked before) log

namespace Session

variable {cfg : Config} {s₀ : Session} {l : Label}

/-- A STARTDT con arrives only while data transfer is asked for, or `stopping` is set. -/
def confirmsAsked (s : Session) : Label → Bool
  | .select (.frame f _ _) =>
    apciOf f ≠ some (.u .startDtConfirm) || s.stopping || decide (Asked s.log)
  | _ => true

/-- A master that has asked for data transfer whenever its flags say so. -/
structure MasterInv (s : Session) : Prop where
  role : s.conn.role = .master
  asked : AskedBeforeI s.log
  transfer : s.conn.active = true → s.stopping = false → Asked s.log

theorem MasterInv.congr {s s' : Session} (h : s.MasterInv) (os : List Obs)
    (hrole : s'.conn.role = s.conn.role)
    (hflags : s'.conn.active = true → s'.stopping = false →
      s.conn.active = true ∧ s.stopping = false)
    (hlog : s'.log = s.log ++ os) (hos : ∀ o ∈ os, ¬o.IsI ∧ ¬o.SendsU .stopDtActive) :
    s'.MasterInv := by
  refine ⟨hrole ▸ h.role, ?_, fun ha hs => ?_⟩
  · rw [hlog]
    exact h.asked.append fun o ho a hi => absurd hi (hos o ho).1
  · rw [hlog]
    exact (h.transfer (hflags ha hs).1 (hflags ha hs).2).append fun o ho => (hos o ho).2

private theorem mild {o : Obs} (h : o.sentApci = none) :
    ∀ o' ∈ [o], ¬o'.IsI ∧ ¬o'.SendsU .stopDtActive :=
  List.forall_mem_singleton.mpr ⟨Obs.not_isI_of_sentApci h, Obs.not_sendsU_of_sentApci h _⟩

private theorem mildU (f : UFunction) (hne : f ≠ .stopDtActive) (now : ℕ) :
    ∀ o' ∈ [Obs.tx (newUFrame f) now], ¬o'.IsI ∧ ¬o'.SendsU .stopDtActive :=
  List.forall_mem_singleton.mpr ⟨Obs.not_isI_newUFrame f now, Obs.not_sendsU_newUFrame hne now⟩

private theorem mildS {r : UInt16} (hr : r.toNat < 32768) (now : ℕ) :
    ∀ o' ∈ [Obs.tx (newSFrame r) now], ¬o'.IsI ∧ ¬o'.SendsU .stopDtActive :=
  List.forall_mem_singleton.mpr ⟨Obs.not_isI_newSFrame hr now, Obs.not_sendsU_newSFrame hr _ now⟩

theorem MasterInv.action {s s' : Session} (hok : s₀.confirmsAsked l = true)
    (hguard : s₀.phase = .waiting true → Asked s₀.log) (hwf : s.Wf) (h : s.MasterInv)
    (ha : Action cfg s₀ l s s') : s'.MasterInv := by
  have hwf' := hwf.action ha
  cases ha with
  | quiet hd hlog hrole hactive _ _ _ =>
    exact h.congr [] hrole (fun ha hs => ⟨hactive ▸ ha, hd ▸ hs⟩) (by simpa using hlog) (by simp)
  | enqueue hconn =>
    obtain ⟨raw, -, rfl⟩ := queue_of_tryEnqueue hconn
    exact h.congr [] rfl (fun ha hs => ⟨ha, hs⟩) (by simp) (by simp)
  | demote _ => exact h.congr [_] rfl nofun rfl (mild rfl)
  | guard => exact h.congr [] rfl (fun ha hs => ⟨ha, hs⟩) (List.append_nil _).symm (by simp)
  | @send raw frame rest hs hl hphase hqueue hframe =>
    -- the guard was open, so a start is the last thing the application asked for
    have hasked : Asked s.log := by
      rw [hs] at hphase ⊢
      exact hguard hphase
    have hI : (Obs.tx frame s.clock).IsI := Obs.isI_newIFrame s.clock hwf.seqNoSend hwf.seqNoRcv
      (hwf.queue raw (hqueue ▸ List.mem_cons_self)) hframe
    exact ⟨h.role, Trace.each_concat.mpr ⟨h.asked, fun _ => hasked⟩, fun _ _ =>
      hasked.append (List.forall_mem_singleton.mpr (Obs.not_sendsU_of_isI hI _))⟩
  | startDt _ _ _ =>
    -- the application has just asked for it
    refine ⟨h.role, h.asked.append fun o ho a hi => ?_, fun _ _ => ?_⟩
    · exact absurd hi (mildU .startDtActive (by decide) _ o ho).1
    · exact Trace.since_concat.mpr (.inl (apciOf_newUFrame .startDtActive))
  | stopDt _ _ _ =>
    refine ⟨h.role, h.asked.append (List.forall_mem_singleton.mpr fun a hi => ?_), nofun⟩
    exact absurd hi (Obs.not_isI_newUFrame _ _)
  -- a master receives no STARTDT act and no STOPDT act, but answers to its own
  | startAct _ _ hrole _ _ =>
    rw [h.role] at hrole
    cases hrole
  | stopAct _ _ _ _ hrole _ _ =>
    rw [h.role] at hrole
    cases hrole
  | @startCon f _ idle _ hs _ hl hf =>
    refine ⟨h.role, h.asked.append fun o ho a hi => absurd hi (mild rfl o ho).1, fun _ hstop => ?_⟩
    -- the confirmation is taken for an answer to the last request
    have hstop' : s₀.stopping = false := by
      have e : s.stopping = s₀.stopping := by rw [hs]; rfl
      rw [← e]
      exact hstop
    have hasked : Asked s₀.log := by
      rw [hl] at hok
      simpa [confirmsAsked, apciOf_of_parse hf, hstop'] using hok
    have hlog : s.log = s₀.log ++ [.rx f idle] := by rw [hs]; rfl
    show Asked (s.log ++ [.activated])
    rw [hlog]
    exact (hasked.append fun o ho => (mild rfl o ho).2).append fun o ho => (mild rfl o ho).2
  | stopCon _ _ _ _ _ => exact h.congr [_] rfl nofun rfl (mild rfl)
  | acceptFull _ _ =>
    refine h.congr [_, _] rfl (fun ha hs => ⟨ha, hs⟩) (List.append_assoc ..) ?_
    simp only [List.mem_cons, List.not_mem_nil, or_false, forall_eq_or_imp, forall_eq]
    exact ⟨mild rfl _ (List.mem_singleton_self _), mildS hwf'.seqNoRcv _ _ (List.mem_singleton_self _)⟩
  | acceptLost => exact h.congr [_] rfl nofun rfl (mild rfl)
  | sendS => exact h.congr [_] rfl (fun ha hs => ⟨ha, hs⟩) rfl (mildS hwf.seqNoRcv _)
  | testAct =>
    exact h.congr [_] rfl (fun ha hs => ⟨ha, hs⟩) rfl (mildU .testFrConfirm (by decide) _)
  | testCon => exact h.congr [] rfl (fun ha hs => ⟨ha, hs⟩) (List.append_nil _).symm (by simp)
  | confirmStop =>
    exact h.congr [_] rfl (fun ha hs => ⟨ha, hs⟩) rfl (mildU .stopDtConfirm (by decide) _)
  | keepAlive =>
    exact h.congr [_] rfl (fun ha hs => ⟨ha, hs⟩) rfl (mildU .testFrActive (by decide) _)
  | teardown => exact h.congr [] rfl nofun (List.append_nil _).symm (by simp)
  | _ => exact h.congr [_] rfl (fun ha hs => ⟨ha, hs⟩) rfl (mild rfl)

variable {params : Params} {start : ℕ}

theorem masterInv_of_reach {s : Session}
    (h : (machine cfg params .master start).Reach (fun s l => s.confirmsAsked l = true) s) :
    s.Wf ∧ s.MasterInv ∧ (s.phase = .waiting true → Asked s.log) := by
  refine h.invariant (P := fun s => s.Wf ∧ s.MasterInv ∧ (s.phase = .waiting true → Asked s.log))
    ⟨wf_init params .master start, ⟨rfl, Trace.each_nil, nofun⟩, fun hp => by cases hp⟩ ?_
  rintro s l t ⟨hwf, hs, hguard⟩ hok (hn : s.next cfg l = some t)
  refine ⟨?_, ?_, fun hp => ?_⟩
  · exact step_of_actions (fun c _ => hwf.at_clock c) (fun u u' hu ha => hu.action ha) hn
  · exact step_of_actions_wf hwf (fun c _ => ⟨hs.1, hs.2, hs.3⟩)
      (fun u u' hu hi ha => hi.action hok hguard hu ha) hn
  · rcases next_waiting hn hp with ⟨-, -, hg, rfl⟩ | ⟨hp', -, -, ⟨-, hlog⟩ | ⟨-, -, hlog⟩⟩
    · simp only [maySend, Bool.and_eq_true, eq_comm (a := true), Bool.not_eq_true'] at hg
      exact hs.transfer hg.1.1 hg.1.2
    · rw [hlog]
      exact hguard hp'
    · rw [hlog]
      exact (hguard hp').append fun o ho => (mild rfl o ho).2

/-- **A master sends data only while it has asked for data transfer**, in every
run in which a STARTDT con arrives only while it has, or while `stopping` is set. -/
theorem askedBeforeI_of_reach {s : Session}
    (h : (machine cfg params .master start).Reach (fun s l => s.confirmsAsked l = true) s) :
    AskedBeforeI s.log := (masterInv_of_reach h).2.1.asked

/-- Start the master, wait for the confirmation, queue and send an indication. -/
def masterSends : List Label :=
  [.guard, .select (.ctrl .startDt 0), .guard, .select (.frame (newUFrame .startDtConfirm) 1 1),
    .enqueue (indication 1), .guard, .select (.asdu 2)]

theorem askedBeforeI_masterSends : ∃ s,
    (machine .default paramsWide .master 0).runIf (fun s l => s.confirmsAsked l = true)
        (init .default paramsWide .master 0) masterSends = some s ∧
      (sentI s.log).length = 1 ∧ AskedBeforeI s.log := by
  obtain ⟨s, hs, hlen⟩ : ∃ s, (machine .default paramsWide .master 0).runIf
      (fun s l => s.confirmsAsked l = true) (init .default paramsWide .master 0) masterSends =
        some s ∧ (sentI s.log).length = 1 := ⟨_, rfl, rfl⟩
  exact ⟨s, hs, hlen, askedBeforeI_of_reach (Machine.reach_of_runIf .init hs)⟩

/-- Start, stop, start and stop before any confirmation is back; then three of
the four confirmations, and an indication. -/
def lateConfirmations : List Label :=
  [.guard, .select (.ctrl .startDt 0), .guard, .select (.ctrl .stopDt 0),
    .guard, .select (.ctrl .startDt 0), .guard, .select (.ctrl .stopDt 0),
    .guard, .select (.frame (newUFrame .startDtConfirm) 1 1),
    .guard, .select (.frame (newUFrame .stopDtConfirm) 1 1),
    .guard, .select (.frame (newUFrame .startDtConfirm) 1 1),
    .enqueue (indication 1), .guard, .select (.asdu 2)]

/-- **Without the condition it need not**, even if the peer confirms every
request once and in order. -/
theorem not_askedBeforeI : ∃ s,
    (machine .default paramsWide .master 0).Reachable s ∧ ¬AskedBeforeI s.log := by
  obtain ⟨s, before, hs, hlog, hnot⟩ : ∃ s before, (machine .default paramsWide .master 0).run
      (init .default paramsWide .master 0) lateConfirmations = some s ∧
      s.log = before ++ [.tx ([0x68, 14, 0, 0, 0, 0] ++ (indication 1).octets) 2] ∧
      ¬Asked before := by
    refine ⟨_, [.tx (newUFrame .startDtActive) 0, .tx (newUFrame .stopDtActive) 0,
      .tx (newUFrame .startDtActive) 0, .tx (newUFrame .stopDtActive) 0,
      .rx (newUFrame .startDtConfirm) 1, .activated, .rx (newUFrame .stopDtConfirm) 1, .deactivated,
      .rx (newUFrame .startDtConfirm) 1, .activated], rfl, rfl, by decide⟩
  refine ⟨s, Machine.reach_of_run .init hs, fun h => ?_⟩
  rw [hlog, AskedBeforeI, Trace.each_concat] at h
  exact hnot (h.2 (by decide))

end Session

end Cs104
end Iec60870
