import Iec60870.Cs104.Events
import Iec60870.Lib.Trace

/-!
# Demoting a session

Another task may clear `active` at any moment.  The driver looks at the flag
once, before it waits in `select!`; an ASDU that arrives while it waits is
transmitted on the strength of that look.

## Main definitions

* `SilentAfterDemote` — no I-frame follows a demotion before the next STARTDT act.

## Main results

* `Session.silentAfterDemote_of_reach` — **if the flag is still set whenever the
  queue branch fires, a demoted session is silent.**
* `Session.silentAfterDemote_send_iff` — behind an open guard a cleared flag means
  the session was demoted, so the condition is exact for the frame it lets through.
* `Session.not_silentAfterDemote` — otherwise it need not be.
-/

namespace Iec60870
namespace Cs104

/-- The session was demoted and has not received STARTDT act since. -/
def DemotedSince (log : List Obs) : Prop :=
  Trace.Since (· = .demoted) (·.ReceivesU .startDtActive) log

/-- No I-frame is sent after a demotion and before the next STARTDT act.

A frame counts as sent when the driver hands it to the writer task.  The writer's
channel is not part of the session, and may still hold an I-frame that was handed
over before `demote` when `demote` returns. -/
def SilentAfterDemote (log : List Obs) : Prop :=
  Trace.Each (fun before o => o.IsI → ¬DemotedSince before) log

namespace Session

variable {cfg : Config} {s₀ : Session} {l : Label}

/-- What the queue branch relies on and does not check: the flag is still set. -/
def sendsActive (s : Session) : Label → Bool
  | .select (.asdu _) => s.conn.active
  | _ => true

/-- A controlled station that is silent after demotions, and active only if not demoted. -/
structure DemotionInv (s : Session) : Prop where
  role : s.conn.role = .controlled
  silent : SilentAfterDemote s.log
  active : s.conn.active = true → ¬DemotedSince s.log

theorem DemotionInv.congr {s s' : Session} (h : s.DemotionInv) (os : List Obs)
    (hrole : s'.conn.role = s.conn.role) (hactive : s'.conn.active = true → s.conn.active = true)
    (hlog : s'.log = s.log ++ os) (hos : ∀ o ∈ os, ¬o.IsI ∧ o ≠ .demoted) : s'.DemotionInv := by
  refine ⟨hrole ▸ h.role, ?_, fun ha hd => ?_⟩
  · rw [hlog]
    exact h.silent.append fun o ho a hi => absurd hi (hos o ho).1
  · rw [hlog] at hd
    exact h.active (hactive ha) (Trace.Since.of_append hd fun o ho => (hos o ho).2)

private theorem plain {o : Obs} (h : o.sentApci = none) (hne : o ≠ .demoted) :
    ∀ o' ∈ [o], ¬o'.IsI ∧ o' ≠ .demoted :=
  List.forall_mem_singleton.mpr ⟨Obs.not_isI_of_sentApci h, hne⟩

private theorem plainU (f : UFunction) (now : ℕ) :
    ∀ o' ∈ [Obs.tx (newUFrame f) now], ¬o'.IsI ∧ o' ≠ .demoted :=
  List.forall_mem_singleton.mpr ⟨Obs.not_isI_newUFrame f now, nofun⟩

theorem DemotionInv.action {s s' : Session} (hsend : s₀.sendsActive l = true) (hwf : s.Wf)
    (h : s.DemotionInv) (ha : Action cfg s₀ l s s') : s'.DemotionInv := by
  have hwf' := hwf.action ha
  cases ha with
  | quiet _ hlog hrole hactive _ _ _ =>
    exact h.congr [] hrole (fun ha => hactive ▸ ha) (by simpa using hlog) (by simp)
  | enqueue hconn =>
    obtain ⟨raw, -, rfl⟩ := queue_of_tryEnqueue hconn
    exact h.congr [] rfl id (by simp) (by simp)
  | demote _ =>
    refine ⟨h.role, ?_, nofun⟩
    exact h.silent.append (List.forall_mem_singleton.mpr fun a hi => absurd hi
      (Obs.not_isI_of_sentApci rfl))
  | send hs hl hphase hqueue hframe =>
    -- the flag was set when the branch fired, so the session was not demoted
    have hactive : s.conn.active = true := by
      rw [hl] at hsend
      rw [hs]
      exact hsend
    refine ⟨h.role, Trace.each_concat.mpr ⟨h.silent, fun _ => h.active hactive⟩, fun _ hd => ?_⟩
    exact h.active hactive (Trace.Since.of_append hd (List.forall_mem_singleton.mpr nofun))
  | @startAct f _ idle _ hs _ _ hf =>
    refine ⟨h.role, ?_, fun _ hd => ?_⟩
    · exact (h.silent.append fun o ho a hi => absurd hi (plainU .startDtConfirm _ o ho).1).append
        fun o ho a hi => absurd hi (plain (o := .activated) rfl nofun o ho).1
    · -- STARTDT act ends the demotion
      have hd := Trace.Since.of_append (Trace.Since.of_append hd (List.forall_mem_singleton.mpr nofun))
        (List.forall_mem_singleton.mpr nofun)
      have hlog : s.log = s₀.log ++ [.rx f idle] := by rw [hs]; rfl
      rw [hlog, Trace.since_concat] at hd
      rcases hd with hd | ⟨-, hd⟩
      · cases hd
      · exact hd (apciOf_of_parse hf)
  | startCon _ _ hrole _ _ =>
    rw [h.role] at hrole
    cases hrole
  | acceptFull _ _ =>
    refine h.congr [_, _] rfl id (List.append_assoc ..) ?_
    simp only [List.mem_cons, List.not_mem_nil, or_false, forall_eq_or_imp, forall_eq]
    exact ⟨⟨Obs.not_isI_of_sentApci rfl, nofun⟩, Obs.not_isI_newSFrame hwf'.seqNoRcv _, nofun⟩
  | stopAct _ _ _ _ _ _ _ =>
    refine h.congr _ rfl nofun rfl fun o ho => ?_
    split at ho
    · exact plain (o := .deactivated) rfl nofun o ho
    · cases ho
  | sendS => exact h.congr [_] rfl id rfl (List.forall_mem_singleton.mpr
      ⟨Obs.not_isI_newSFrame hwf.seqNoRcv _, nofun⟩)
  | acceptLost => exact h.congr [_] rfl nofun rfl (plain rfl nofun)
  | teardown => exact h.congr [] rfl nofun (List.append_nil _).symm (by simp)
  | guard => exact h.congr [] rfl id (List.append_nil _).symm (by simp)
  | testCon => exact h.congr [] rfl id (List.append_nil _).symm (by simp)
  | stopCon => exact h.congr [_] rfl nofun rfl (plain rfl nofun)
  | receive => exact h.congr [_] rfl id rfl (plain rfl nofun)
  | pack => exact h.congr [_] rfl id rfl (plain rfl nofun)
  | ack => exact h.congr [_] rfl id rfl (plain rfl nofun)
  | accept => exact h.congr [_] rfl id rfl (plain rfl nofun)
  | _ => exact h.congr [_] rfl id rfl (plainU _ _)

variable {params : Params} {start : ℕ}

theorem demotionInv_of_reach {s : Session}
    (h : (machine cfg params .controlled start).Reach (fun s l => s.sendsActive l = true) s) : s.DemotionInv :=
  reach_of_actions_wf (P := DemotionInv) ⟨rfl, Trace.each_nil, nofun⟩
    (fun _ _ h _ => ⟨h.1, h.2, h.3⟩) (fun _ _ _ _ _ hok hwf hu ha => hu.action hok hwf ha) h

/-- **If the flag is still set whenever the queue branch fires, a demoted session
is silent** until it receives STARTDT act. -/
theorem silentAfterDemote_of_reach {s : Session}
    (h : (machine cfg params .controlled start).Reach (fun s l => s.sendsActive l = true) s) : SilentAfterDemote s.log :=
  (demotionInv_of_reach h).silent

theorem silentAfterDemote_startAndSend : ∃ s,
    (machine .default paramsWide .controlled 0).runIf (fun s l => s.sendsActive l = true)
        (init .default paramsWide .controlled 0) (startAndSend ++ [.demote]) = some s ∧
      (sentI s.log).length = 1 ∧ SilentAfterDemote s.log := by
  obtain ⟨s, hs, hlen⟩ : ∃ s, (machine .default paramsWide .controlled 0).runIf
      (fun s l => s.sendsActive l = true) (init .default paramsWide .controlled 0)
      (startAndSend ++ [.demote]) = some s ∧ (sentI s.log).length = 1 := ⟨_, rfl, rfl⟩
  exact ⟨s, hs, hlen, silentAfterDemote_of_reach (Machine.reach_of_runIf .init hs)⟩

/-! ### The condition is exact -/

/-- Behind an open guard, a cleared flag means the session was demoted. -/
theorem demotedSince_of_waiting {ok : Session → Label → Prop} {role : Role} {s : Session}
    (h : (machine cfg params role start).Reach ok s) :
    s.phase = .waiting true → s.conn.active = false → DemotedSince s.log := by
  refine h.invariant (P := fun s => s.phase = .waiting true → s.conn.active = false →
    DemotedSince s.log) (fun hp => by cases hp) fun s l t hs _ (hn : s.next cfg l = some t) hp ha => ?_
  rcases next_waiting hn hp with ⟨-, -, hg, rfl⟩ | ⟨hp', -, -, ⟨ha', hlog⟩ | ⟨-, -, hlog⟩⟩
  · have hmay : s.conn.active = true := by
      simp only [maySend, Bool.and_eq_true, eq_comm (a := true)] at hg
      exact hg.1.1
    rw [show s.conn.active = false from ha] at hmay
    cases hmay
  · rw [hlog]
    exact hs hp' (ha' ▸ ha)
  · rw [hlog]
    exact Trace.since_concat.mpr (.inl rfl)

/-- An I-frame that the queue branch sends breaks the silence exactly when the
flag was cleared. -/
theorem silentAfterDemote_send_iff {s t : Session} {f : Octets} {now : ℕ}
    (h : (machine cfg params .controlled start).Reach (fun s l => s.sendsActive l = true) s)
    (hn : s.next cfg (.select (.asdu now)) = some t) (hlog : t.log = s.log ++ [.tx f now])
    (hI : (Obs.tx f now).IsI) : SilentAfterDemote t.log ↔ s.conn.active = true := by
  have hinv := demotionInv_of_reach h
  obtain ⟨g, hphase, hready, -⟩ := next_select hn
  simp only [ready, Bool.and_eq_true] at hready
  rw [hready.1.1] at hphase
  rw [hlog, SilentAfterDemote, Trace.each_concat]
  constructor
  · rintro ⟨-, hnot⟩
    by_contra ha
    exact hnot hI (demotedSince_of_waiting h hphase (Bool.not_eq_true _ ▸ ha))
  · intro ha
    exact ⟨hinv.silent, fun _ => hinv.active ha⟩

/-- Demote a started station while it waits, then queue an indication. -/
def demoteWhileWaiting : List Label :=
  [.guard, .select (.frame (newUFrame .startDtActive) 0 0), .guard, .demote,
    .enqueue (indication 1), .select (.asdu 1)]

/-- **Otherwise a demoted session need not be silent.** -/
theorem not_silentAfterDemote : ∃ s,
    (machine .default paramsWide .controlled 0).Reachable s ∧ ¬SilentAfterDemote s.log := by
  obtain ⟨s, hs, hlog⟩ : ∃ s, (machine .default paramsWide .controlled 0).run
      (init .default paramsWide .controlled 0) demoteWhileWaiting = some s ∧
      s.log = [.rx (newUFrame .startDtActive) 0, .tx (newUFrame .startDtConfirm) 0, .activated] ++
        [.demoted] ++ [.tx ([0x68, 14, 0, 0, 0, 0] ++ (indication 1).octets) 1] := ⟨_, rfl, rfl⟩
  refine ⟨s, Machine.reach_of_run .init hs, fun h => ?_⟩
  rw [hlog, SilentAfterDemote, Trace.each_concat] at h
  exact h.2 (by decide) (Trace.since_concat.mpr (.inl rfl))

end Session

end Cs104
end Iec60870
