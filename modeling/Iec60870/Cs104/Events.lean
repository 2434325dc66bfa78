import Iec60870.Cs104.History

/-!
# What single events do

Direct readings of the branches whose exact effect later arguments need: a
control request, a tick that leaves the loop running, and the U-frames of the
start and stop procedures.

## Main results

* `Session.next_waiting` — a step that ends in `select!`.
* `Session.next_tick` — a tick that does not close the connection.
* `Session.next_ctrl` — a control request.
* `Session.next_frame` — a frame, up to the branch for its format.
* `Session.log_of_next`, `Session.log_of_next_frame` — the frames a step takes.
-/

namespace Iec60870
namespace Cs104
namespace Session

variable {cfg : Config} {s t : Session}

theorem not_open_teardown (s : Session) (why : Reason) : ¬(s.teardown why).Open :=
  fun h => h why rfl

/-- A branch fires only in `select!`, and reads no instant earlier than the last. -/
theorem next_select {ev : Event} (h : s.next cfg (.select ev) = some t) :
    ∃ g, s.phase = .waiting g ∧ s.ready g ev ∧
      t = finish ({ s with clock := s.lastReading ev }.iterate cfg ev) := by
  simp only [next] at h
  split at h
  · next g hphase =>
    split at h <;> cases h
    next hready => exact ⟨g, hphase, hready, rfl⟩
  · cases h

/-- A branch after which the loop goes on. -/
theorem eq_ok_of_open {it : Iter} (h : (finish it).Open) :
    ∃ s', it = .ok s' ∧ finish it = { s' with phase := .top } := by
  rcases it with ⟨why, s'⟩ | s'
  · exact absurd h (not_open_teardown s' why)
  · exact ⟨s', rfl, rfl⟩

/-- A step that ends in `select!` is the guard, or another task's. -/
theorem next_waiting {l : Label} {g : Bool} (h : s.next cfg l = some t) (hp : t.phase = .waiting g) :
    (l = .guard ∧ s.phase = .top ∧ g = s.maySend cfg ∧ t = { s with phase := .waiting g }) ∨
      (s.phase = .waiting g ∧ t.toDriver = s.toDriver ∧ t.conn.role = s.conn.role ∧
        (t.conn.active = s.conn.active ∧ t.log = s.log ∨
          l = .demote ∧ t.conn.active = false ∧ t.log = s.log ++ [.demoted])) := by
  cases l with
  | enqueue a =>
    simp only [next] at h
    split at h <;> cases h
    · next conn hconn =>
      obtain ⟨raw, -, rfl⟩ := queue_of_tryEnqueue hconn
      exact .inr ⟨hp, rfl, rfl, .inl ⟨rfl, rfl⟩⟩
    · exact .inr ⟨hp, rfl, rfl, .inl ⟨rfl, rfl⟩⟩
  | demote =>
    cases h
    exact .inr ⟨hp, rfl, rfl, .inr ⟨rfl, rfl, rfl⟩⟩
  -- the two events of other tasks close a channel, and the driver learns of it later
  | stopWriter =>
    cases h
    exact .inr ⟨hp, rfl, rfl, .inl ⟨rfl, rfl⟩⟩
  | stopDispatcher =>
    cases h
    exact .inr ⟨hp, rfl, rfl, .inl ⟨rfl, rfl⟩⟩
  | guard =>
    simp only [next] at h
    split at h <;> cases h
    next htop =>
      cases hp
      exact .inl ⟨rfl, htop, rfl, rfl⟩
  | select ev =>
    -- whatever `select!` chose, the loop is at its top again
    obtain ⟨g', -, -, rfl⟩ := next_select h
    generalize Session.iterate cfg _ ev = it at hp
    rcases it with ⟨why, s'⟩ | s'
    · cases hp
    · cases hp

/-- A loop that has been left is not entered again. -/
theorem open_of_next {l : Label} (h : s.next cfg l = some t) (hopen : t.Open) : s.Open := by
  cases l with
  | enqueue a =>
    simp only [next] at h
    split at h <;> cases h
    · exact hopen
    · exact hopen
  | guard =>
    simp only [next] at h
    split at h <;> cases h
    next htop => exact open_of_top htop
  | select ev =>
    obtain ⟨g, hphase, -, -⟩ := next_select h
    exact open_of_waiting hphase
  | _ =>
    cases h
    exact hopen

/-! ### Ticks -/

/-- The session after the t₂ check of a tick. -/
def afterT2 (cfg : Config) (now clock : ℕ) (s : Session) : Session :=
  if s.t2Due cfg now then { s with ackNoRcv := s.seqNoRcv }.note (.tx (newSFrame s.seqNoRcv) clock)
  else s

/-- The session after the t₃ check of a tick. -/
def afterT3 (cfg : Config) (now clock : ℕ) (s : Session) : Session :=
  if s.t3Due cfg now then
    { s.note (.tx (newUFrame .testFrActive) clock) with
      testFrSince := some clock, idleSince := clock }
  else s

/-- **A tick that leaves the loop running.**  Neither t₁ check fired, and the
two other checks did their work. -/
theorem next_tick {now clock : ℕ} (h : s.next cfg (.select (.tick now clock)) = some t)
    (hopen : t.Open) :
    s.Open ∧ s.clock ≤ clock ∧ now ≤ clock ∧
      s.t1Confirmation cfg now = false ∧ s.t1Acknowledge cfg now = false ∧
      t = { (({ s with clock := clock }.afterT2 cfg now clock).afterT3 cfg now clock) with
        phase := .top } := by
  obtain ⟨g, hphase, hready, rfl⟩ := next_select h
  obtain ⟨s', hs', ht⟩ := eq_ok_of_open hopen
  rw [ht]
  simp only [ready, Bool.and_eq_true, decide_eq_true_eq] at hready
  have hopen' : s.Open := Session.open_of_waiting hphase
  refine ⟨hopen', hready.1, hready.2, ?_⟩
  change { s with clock := clock }.onTick cfg now clock = .ok s' at hs'
  unfold onTick at hs'
  -- a t₁ check that fires leaves the loop, against `hopen`
  by_cases h1 : t1Confirmation cfg now { s with clock := clock } = true
  · rw [if_pos h1] at hs'
    cases hs'
  by_cases h2 : t1Acknowledge cfg now { s with clock := clock } = true
  · rw [if_neg h1, if_pos h2] at hs'
    cases hs'
  rw [if_neg h1, if_neg h2] at hs'
  obtain ⟨s2, h2', h3⟩ := bind_eq_ok.mp hs'
  -- t₂: an S-frame, if frames are waiting to be acknowledged
  have e2 : s2 = { s with clock := clock }.afterT2 cfg now clock := by
    unfold onT2 at h2'
    unfold afterT2
    split at h2'
    · next hdue =>
      obtain ⟨s3, htx, h4⟩ := bind_eq_ok.mp h2'
      cases h4
      rw [txRaw_eq_ok htx, if_pos hdue]
      rfl
    · next hdue =>
      cases h2'
      rw [if_neg hdue]
  -- t₃: a test frame on an idle line
  have e3 : s' = s2.afterT3 cfg now clock := by
    unfold onT3 at h3
    unfold afterT3
    split at h3
    · next hdue =>
      obtain ⟨s3, h4, h5⟩ := bind_eq_ok.mp h3
      cases h5
      rw [txRaw_eq_ok h4, if_pos hdue]
    · next hdue =>
      cases h3
      rw [if_neg hdue]
  rw [e3, e2]
  exact ⟨Bool.not_eq_true _ ▸ h1, Bool.not_eq_true _ ▸ h2, rfl⟩

/-! ### Control requests -/

/-- The session after a control request has been transmitted. -/
def afterCtrl (c : Ctrl) (now : ℕ) (s : Session) : Session :=
  match c with
  | .startDt => { s with stopping := false, startDtSince := some now }.note
      (.tx (newUFrame .startDtActive) now)
  | .stopDt => { s with stopping := true, stopDtSince := some now }.note
      (.tx (newUFrame .stopDtActive) now)

/-- **A control request**, if the writer is there to take it. -/
theorem next_ctrl {c : Ctrl} {now : ℕ} (h : s.next cfg (.select (.ctrl c now)) = some t) :
    s.Open ∧ s.clock ≤ now ∧
      (t = { { s with clock := now }.afterCtrl c now with phase := .top } ∨
        t = { s with clock := now }.teardown .writerStopped) := by
  obtain ⟨g, hphase, hready, rfl⟩ := next_select h
  simp only [ready, decide_eq_true_eq] at hready
  have hopen : s.Open := Session.open_of_waiting hphase
  refine ⟨hopen, hready, ?_⟩
  cases c with
  | startDt =>
    simp only [iterate, onCtrl, txRaw]
    split
    · exact .inl rfl
    · exact .inr rfl
  | stopDt =>
    simp only [iterate, onCtrl, txRaw]
    split
    · exact .inl rfl
    · exact .inr rfl

/-! ### Frames -/

/-- **A frame, up to the branch for its format.** -/
theorem next_frame {f : Octets} {idle now : ℕ}
    (h : s.next cfg (.select (.frame f idle now)) = some t) :
    s.Open ∧ s.clock ≤ idle ∧ idle ≤ now ∧
      match parse f with
      | .error _ => t = { { s with clock := now }.takeFrame f idle with phase := .top }
      | .ok (apci, raw) => t = finish
        (({ s with clock := now }.takeFrame f idle).onApci cfg apci raw now >>= confirmStop now) := by
  obtain ⟨g, hphase, hready, rfl⟩ := next_select h
  simp only [ready, Bool.and_eq_true, decide_eq_true_eq] at hready
  have hopen : s.Open := Session.open_of_waiting hphase
  refine ⟨hopen, hready.1, hready.2, ?_⟩
  simp only [iterate, onFrame, lastReading]
  rcases parse f with e | ⟨apci, raw⟩
  · rfl
  · rfl

/-! ### Frames taken -/

variable {s₀ : Session} {l : Label}

/-- An action takes a frame from the reader exactly when it is the first of a
frame event. -/
theorem Action.log_eq (ha : Action cfg s₀ l s t) :
    (∃ os, t.log = s.log ++ os ∧ ∀ o ∈ os, o.rcvdFrame = none) ∨
      ∃ f idle, l = .select (.frame f idle s.clock) ∧ s.log = s₀.log := by
  cases ha with
  | quiet _ hlog _ _ _ _ _ => exact .inl ⟨[], by rw [hlog, List.append_nil], by simp⟩
  | enqueue _ => exact .inl ⟨[], (List.append_nil _).symm, by simp⟩
  | guard _ => exact .inl ⟨[], (List.append_nil _).symm, by simp⟩
  | testCon _ _ _ => exact .inl ⟨[], (List.append_nil _).symm, by simp⟩
  | teardown _ _ => exact .inl ⟨[], (List.append_nil _).symm, by simp⟩
  | @receive f idle _ hs hl _ _ => exact .inr ⟨f, idle, hl, by rw [hs]⟩
  | acceptFull _ _ => exact .inl ⟨[_, _], List.append_assoc .., by simp [Obs.rcvdFrame]⟩
  | startAct _ _ _ _ _ => exact .inl ⟨[_, _], List.append_assoc .., by simp [Obs.rcvdFrame]⟩
  | stopAct _ _ _ _ _ _ _ =>
    refine .inl ⟨_, rfl, fun o ho => ?_⟩
    split at ho
    · rw [List.mem_singleton.mp ho]
      rfl
    · cases ho
  | _ => exact .inl ⟨[_], rfl, by simp [Obs.rcvdFrame]⟩

/-- A step for another event takes no frame. -/
theorem log_of_next (hl : ∀ f idle now, l ≠ .select (.frame f idle now)) (h : s.next cfg l = some t) :
    ∃ os, t.log = s.log ++ os ∧ ∀ o ∈ os, o.rcvdFrame = none := by
  refine step_of_actions (P := fun u => ∃ os, u.log = s.log ++ os ∧ ∀ o ∈ os, o.rcvdFrame = none)
    (fun c _ => ⟨[], (List.append_nil _).symm, by simp⟩) ?_ h
  rintro u u' ⟨os, hlog, hos⟩ ha
  rcases ha.log_eq with ⟨os', hlog', hos'⟩ | ⟨f, idle, hframe, -⟩
  · refine ⟨os ++ os', by rw [hlog', hlog, List.append_assoc], fun o ho => ?_⟩
    exact (List.mem_append.mp ho).elim (hos o) (hos' o)
  · exact absurd hframe (hl f idle _)

/-- A frame event takes its frame, and no other. -/
theorem log_of_next_frame {f : Octets} {idle now : ℕ}
    (h : s.next cfg (.select (.frame f idle now)) = some t) :
    ∃ os, t.log = s.log ++ .rx f idle :: os ∧ ∀ o ∈ os, o.rcvdFrame = none := by
  obtain ⟨hopen, -, -, ht⟩ := next_frame h
  rcases hp : parse f with e | ⟨apci, raw⟩
  · rw [hp] at ht
    rw [ht]
    exact ⟨[], rfl, by simp⟩
  · rw [hp] at ht
    have htaken : Taken s f idle ({ s with clock := now }.takeFrame f idle) := rfl
    have hacts : Actions cfg s (.select (.frame f idle now))
        ({ s with clock := now }.takeFrame f idle) t := by
      rw [show t = _ from ht]
      exact actions_finish hopen (leads_taken hopen htaken rfl hp)
    clear h ht
    induction hacts with
    | refl => exact ⟨[], rfl, by simp⟩
    | tail _ ha ih =>
      obtain ⟨os, hlog, hos⟩ := ih
      rcases ha.log_eq with ⟨os', hlog', hos'⟩ | ⟨f', idle', -, hstart⟩
      · refine ⟨os ++ os', by rw [hlog', hlog]; simp, fun o ho => ?_⟩
        exact (List.mem_append.mp ho).elim (hos o) (hos' o)
      · -- the frame has been taken already
        rw [hlog] at hstart
        simp at hstart

end Session
end Cs104
end Iec60870
