import Iec60870.Cs104.Events
import Iec60870.Cs104.Window

/-!
# Supervision by t₁

STARTDT, STOPDT and TESTFR act are each supervised by one instant, which a later
request of the same kind overwrites; the I-frames are supervised by the oldest
entry of `pending`.

## Main definitions

* `Request` — the three supervised requests.
* `unconfirmed` — when the acts of a kind were sent that no confirmation followed.
* `Session.supervised` — no act is sent while an earlier one of its kind is
  unconfirmed.

## Main results

* `Session.supervision_misses_nothing` — **under this condition nothing
  outlasts t₁ at a tick.**
* `Session.supervised_tick` — keep-alives meet the condition when t₁ ≤ t₃.
* `Session.supervision_misses_keepAlive` — with t₃ < t₁ they need not.
-/

namespace Iec60870
namespace Cs104

/-- The requests supervised by t₁: each is made by one U-frame and confirmed by
another. -/
inductive Request
  | startDt
  | stopDt
  | testFr
  deriving DecidableEq, Repr

/-- The function that makes a request. -/
def Request.act : Request → UFunction
  | startDt => .startDtActive
  | stopDt => .stopDtActive
  | testFr => .testFrActive

/-- The function that confirms it. -/
def Request.con : Request → UFunction
  | startDt => .startDtConfirm
  | stopDt => .stopDtConfirm
  | testFr => .testFrConfirm

/-- The instant that supervises a request, unset when none is outstanding. -/
def Driver.since (d : Driver) : Request → Option ℕ
  | .startDt => d.startDtSince
  | .stopDt => d.stopDtSince
  | .testFr => d.testFrSince

/-- One more observation: acts pile up until a confirmation is received. -/
def unconfirmedStep (r : Request) (u : List ℕ) : Obs → List ℕ
  | .tx f now => if apciOf f = some (.u r.act) then u ++ [now] else u
  | .rx f _ => if apciOf f = some (.u r.con) then [] else u
  | _ => u

/-- When the acts of a kind were sent that no confirmation followed, oldest first. -/
def unconfirmed (r : Request) (log : List Obs) : List ℕ := log.foldl (unconfirmedStep r) []

@[simp] theorem unconfirmed_concat (r : Request) (log : List Obs) (o : Obs) :
    unconfirmed r (log ++ [o]) = unconfirmedStep r (unconfirmed r log) o := by
  simp [unconfirmed]

/-- An observation adds at most its own instant. -/
theorem mem_unconfirmedStep {r : Request} {u : List ℕ} {o : Obs} {τ : ℕ}
    (h : τ ∈ unconfirmedStep r u o) : τ ∈ u ∨ ∃ f, o = .tx f τ ∧ apciOf f = some (.u r.act) := by
  cases o with
  | tx f now =>
    simp only [unconfirmedStep] at h
    split at h
    · next hf =>
      rcases List.mem_append.mp h with h | h
      · exact .inl h
      · rw [List.mem_singleton.mp h]
        exact .inr ⟨f, rfl, hf⟩
    · exact .inl h
  | rx f now =>
    simp only [unconfirmedStep] at h
    split at h
    · cases h
    · exact .inl h
  | _ => exact .inl h

/-- Observations other than transmitted acts add nothing. -/
theorem mem_of_mem_unconfirmed_append {r : Request} {log os : List Obs} {τ : ℕ}
    (hos : ∀ o ∈ os, ∀ r : Request, ¬o.SendsU r.act) (h : τ ∈ unconfirmed r (log ++ os)) :
    τ ∈ unconfirmed r log := by
  induction os using List.reverseRecOn with
  | nil => simpa using h
  | append_singleton os o ih =>
    rw [← List.append_assoc, unconfirmed_concat] at h
    rcases mem_unconfirmedStep h with h | ⟨f, rfl, hf⟩
    · exact ih (fun o' ho' => hos o' (by simp [ho'])) h
    · have hnot := hos (.tx f τ) (by simp) r
      exact absurd hf hnot

namespace Session

variable {cfg : Config} {s₀ : Session} {l : Label}

/-- No act is sent while an earlier one of its kind is unconfirmed: the
application does not repeat a request, and no keep-alive is due while one is out,
unless the tick closes the connection. -/
def supervised (cfg : Config) (s : Session) : Label → Bool
  | .select (.ctrl .startDt _) => (unconfirmed .startDt s.log).isEmpty
  | .select (.ctrl .stopDt _) => (unconfirmed .stopDt s.log).isEmpty
  | .select (.tick now _) =>
    !s.t3Due cfg now || s.t1Confirmation cfg now || s.t1Acknowledge cfg now ||
      (unconfirmed .testFr s.log).isEmpty
  | _ => true

/-- While the driver runs, the instants supervise what is unconfirmed. -/
structure Supervises (s : Session) : Prop where
  since : ∀ r, ∀ τ ∈ unconfirmed r s.log, s.toDriver.since r = some τ
  past : ∀ r, ∀ τ ∈ unconfirmed r s.log, τ ≤ s.clock
  /-- A keep-alive restarts the idle timer too. -/
  idle : ∀ τ ∈ unconfirmed .testFr s.log, τ ≤ s.idleSince

theorem Supervises.congr {s s' : Session} (h : s.Supervises) (os : List Obs)
    (hlog : s'.log = s.log ++ os) (hos : ∀ o ∈ os, ∀ r : Request, ¬o.SendsU r.act)
    (hsince : ∀ r, unconfirmed r s'.log ≠ [] → s'.toDriver.since r = s.toDriver.since r)
    (hclock : s.clock ≤ s'.clock)
    (hidle : ∀ τ ∈ unconfirmed .testFr s.log, s.idleSince ≤ s'.idleSince ∨ τ ≤ s'.idleSince) :
    s'.Supervises := by
  have hmem : ∀ r, ∀ τ ∈ unconfirmed r s'.log, τ ∈ unconfirmed r s.log := by
    intro r τ hτ
    rw [hlog] at hτ
    exact mem_of_mem_unconfirmed_append hos hτ
  refine ⟨fun r τ hτ => ?_, fun r τ hτ => ?_, fun τ hτ => ?_⟩
  · rw [hsince r (List.ne_nil_of_mem hτ)]
    exact h.since r τ (hmem r τ hτ)
  · exact le_trans (h.past r τ (hmem r τ hτ)) hclock
  · have := h.idle τ (hmem _ τ hτ)
    rcases hidle τ (hmem _ τ hτ) with h' | h'
    · exact le_trans this h'
    · exact h'

/-- A request is sent when none of its kind is unconfirmed. -/
theorem Supervises.request {s s' : Session} (r : Request) {f : Octets} (h : s.Supervises)
    (hf : apciOf f = some (.u r.act)) (hnone : unconfirmed r s.log = [])
    (hlog : s'.log = s.log ++ [.tx f s'.clock]) (hclock : s.clock ≤ s'.clock)
    (hsince : s'.toDriver.since r = some s'.clock)
    (hother : ∀ r' ≠ r, s'.toDriver.since r' = s.toDriver.since r')
    (hidle : s'.idleSince = s.idleSince ∧ r ≠ .testFr ∨ s'.idleSince = s'.clock) :
    s'.Supervises := by
  -- the request is the one unconfirmed act of its kind; the other kinds stay as they were
  have hmem : ∀ r', ∀ τ ∈ unconfirmed r' s'.log, r' = r ∧ τ = s'.clock ∨
      r' ≠ r ∧ τ ∈ unconfirmed r' s.log := by
    intro r' τ hτ
    by_cases hr : r' = r
    · subst hr
      rw [hlog, unconfirmed_concat, unconfirmedStep, if_pos hf, hnone] at hτ
      exact .inl ⟨rfl, by simpa using hτ⟩
    · have hne : ¬apciOf f = some (.u r'.act) := by
        rw [hf]
        intro he
        apply hr
        -- two kinds of request have the same act only when they are the same
        cases r <;> cases r' <;> first | rfl | cases he
      rw [hlog, unconfirmed_concat, unconfirmedStep, if_neg hne] at hτ
      exact .inr ⟨hr, hτ⟩
  refine ⟨fun r' τ hτ => ?_, fun r' τ hτ => ?_, fun τ hτ => ?_⟩
  · rcases hmem r' τ hτ with ⟨rfl, rfl⟩ | ⟨hr, hτ⟩
    · exact hsince
    · rw [hother r' hr]
      exact h.since r' τ hτ
  · rcases hmem r' τ hτ with ⟨-, rfl⟩ | ⟨-, hτ⟩
    · exact le_rfl
    · exact le_trans (h.past r' τ hτ) hclock
  · rcases hmem _ τ hτ with ⟨rfl, rfl⟩ | ⟨-, hτ⟩
    · rcases hidle with ⟨-, hne⟩ | hidle
      · exact absurd rfl hne
      · rw [hidle]
    · rcases hidle with ⟨hidle, -⟩ | hidle
      · rw [hidle]
        exact h.idle τ hτ
      · rw [hidle]
        exact le_trans (h.past _ τ hτ) hclock

private theorem calm {o : Obs} (h : o.sentApci = none) :
    ∀ o' ∈ [o], ∀ r : Request, ¬o'.SendsU r.act :=
  List.forall_mem_singleton.mpr fun _ => Obs.not_sendsU_of_sentApci h _

private theorem calmU {f : UFunction} (hf : ∀ r : Request, f ≠ r.act) (now : ℕ) :
    ∀ o' ∈ [Obs.tx (newUFrame f) now], ∀ r : Request, ¬o'.SendsU r.act :=
  List.forall_mem_singleton.mpr fun r => Obs.not_sendsU_newUFrame (hf r) now

private theorem calmS {n : UInt16} (hn : n.toNat < 32768) (now : ℕ) :
    ∀ o' ∈ [Obs.tx (newSFrame n) now], ∀ r : Request, ¬o'.SendsU r.act :=
  List.forall_mem_singleton.mpr fun _ => Obs.not_sendsU_newSFrame hn _ now

private theorem con_ne_act (r r' : Request) : r.con ≠ r'.act := by cases r <;> cases r' <;> decide

/-- A received confirmation leaves nothing of its kind unconfirmed. -/
theorem unconfirmed_taken {s : Session} {f raw : Octets} {idle : ℕ} (r : Request)
    (hs : Taken s₀ f idle s) (hf : parse f = .ok (.u r.con, raw)) : unconfirmed r s.log = [] := by
  have hlog : s.log = s₀.log ++ [.rx f idle] := by rw [hs]; rfl
  rw [hlog, unconfirmed_concat, unconfirmedStep, if_pos (apciOf_of_parse hf)]

/-- Clearing the instant of a request of which nothing is unconfirmed. -/
theorem Supervises.clear {s s' : Session} (h : s.Supervises) (r : Request) (os : List Obs)
    (hnone : unconfirmed r s.log = []) (hlog : s'.log = s.log ++ os)
    (hos : ∀ o ∈ os, ∀ r : Request, ¬o.SendsU r.act)
    (hother : ∀ r' ≠ r, s'.toDriver.since r' = s.toDriver.since r')
    (hclock : s'.clock = s.clock) (hidle : s'.idleSince = s.idleSince) : s'.Supervises := by
  refine h.congr os hlog hos (fun r' hne => ?_) hclock.ge fun _ _ => .inl hidle.ge
  by_cases hr : r' = r
  · subst hr
    obtain ⟨τ, hτ⟩ := List.exists_mem_of_ne_nil _ hne
    rw [hlog] at hτ
    have hmem := mem_of_mem_unconfirmed_append hos hτ
    rw [hnone] at hmem
    cases hmem
  · exact hother r' hr

theorem Supervises.action {s s' : Session} (hok : s₀.supervised cfg l = true)
    (htick : ∀ now clock, l ≠ .select (.tick now clock)) (hs₀ : s₀.Open → s₀.Supervises)
    (hwf : s.Wf) (h : s.Open → s.Supervises) (ha : Action cfg s₀ l s s') :
    s'.Open → s'.Supervises := by
  have hwf' := hwf.action ha
  intro hopen'
  have plainly : ∀ os : List Obs, s.Open → s'.log = s.log ++ os →
      (∀ o ∈ os, ∀ r : Request, ¬o.SendsU r.act) →
      (∀ r, s'.toDriver.since r = s.toDriver.since r) → s'.clock = s.clock →
      s'.idleSince = s.idleSince → s'.Supervises := by
    intro os hopen hlog hos hsince hclock hidle
    exact (h hopen).congr os hlog hos (fun r _ => hsince r) hclock.ge fun _ _ => .inl hidle.ge
  cases ha with
  | quiet hd hlog _ _ _ hphase hclock =>
    have hopen : s.Open := by
      rcases hphase with hphase | ⟨hopen, -⟩
      · exact fun why => hphase ▸ hopen' why
      · exact hopen
    exact plainly [] hopen (by simpa using hlog) (by simp) (fun r => by rw [hd]) hclock (by rw [hd])
  | enqueue hconn => exact plainly [] hopen' (by simp) (by simp) (fun _ => rfl) rfl rfl
  | demote _ => exact plainly [_] hopen' rfl (calm rfl) (fun _ => rfl) rfl rfl
  | guard htop =>
    have hopen : s.Open := Session.open_of_top htop
    exact plainly [] hopen (by simp) (by simp) (fun _ => rfl) rfl rfl
  | @send raw frame rest _ _ hphase hqueue hframe =>
    have hopen : s.Open := Session.open_of_waiting hphase
    have hI : (Obs.tx frame s.clock).IsI := Obs.isI_newIFrame s.clock hwf.seqNoSend hwf.seqNoRcv
      (hwf.queue raw (hqueue ▸ List.mem_cons_self)) hframe
    exact plainly [_] hopen rfl
      (List.forall_mem_singleton.mpr fun _ => Obs.not_sendsU_of_isI hI _) (fun _ => rfl) rfl rfl
  | startDt hopen hs hl =>
    -- the application asked for the start, and none was unconfirmed
    have hnone : unconfirmed .startDt s.log = [] := by
      rw [hl] at hok
      rw [hs]
      simpa [supervised] using hok
    refine (h hopen).request .startDt (apciOf_newUFrame _) hnone rfl le_rfl rfl (fun r' hr => ?_)
      (.inl ⟨rfl, nofun⟩)
    cases r' <;> first | rfl | exact absurd rfl hr
  | stopDt hopen hs hl =>
    -- likewise for the stop
    have hnone : unconfirmed .stopDt s.log = [] := by
      rw [hl] at hok
      rw [hs]
      simpa [supervised] using hok
    refine (h hopen).request .stopDt (apciOf_newUFrame _) hnone rfl le_rfl rfl (fun r' hr => ?_)
      (.inl ⟨rfl, nofun⟩)
    cases r' <;> first | rfl | exact absurd rfl hr
  | @receive f idle hopen hs hl hlo hhi =>
    -- what is unconfirmed was sent before this step
    have hpast : ∀ τ ∈ unconfirmed .testFr s.log, τ ≤ idle := by
      intro τ hτ
      have hopen₀ : s₀.Open := by
        rw [hs] at hopen
        exact hopen
      have hlog : s.log = s₀.log := by rw [hs]
      rw [hlog] at hτ
      exact le_trans ((hs₀ hopen₀).past _ τ hτ) hlo
    exact (h hopen).congr [_] rfl (calm rfl) (fun _ _ => rfl) le_rfl fun τ hτ => .inr (hpast τ hτ)
  | ack hopen _ _ => exact plainly [_] hopen rfl (calm rfl) (fun _ => rfl) rfl rfl
  | pack hopen _ => exact plainly [_] hopen rfl (calm rfl) (fun _ => rfl) rfl rfl
  | accept hopen _ _ => exact plainly [_] hopen rfl (calm rfl) (fun _ => rfl) rfl rfl
  | acceptFull hopen _ =>
    refine plainly [_, _] hopen (List.append_assoc ..) ?_ (fun _ => rfl) rfl rfl
    simp only [List.mem_cons, List.not_mem_nil, or_false, forall_eq_or_imp, forall_eq]
    exact ⟨fun _ => Obs.not_sendsU_of_sentApci rfl _,
      fun _ => Obs.not_sendsU_newSFrame hwf'.seqNoRcv _ _⟩
  | acceptLost _ _ => exact absurd rfl (hopen' _)
  | teardown _ why => exact absurd rfl (hopen' _)
  | sendS hopen => exact plainly [_] hopen rfl (calmS hwf.seqNoRcv _) (fun _ => rfl) rfl rfl
  | startAct hopen _ _ _ _ =>
    refine plainly [_, _] hopen (List.append_assoc ..) ?_ (fun _ => rfl) rfl rfl
    simp only [List.mem_cons, List.not_mem_nil, or_false, forall_eq_or_imp, forall_eq]
    exact ⟨fun r => Obs.not_sendsU_newUFrame (con_ne_act .startDt r) _,
      fun _ => Obs.not_sendsU_of_sentApci rfl _⟩
  | stopAct hopen _ _ _ _ _ _ =>
    refine plainly _ hopen rfl (fun o ho => ?_) (fun _ => rfl) rfl rfl
    split at ho
    · exact calm (o := .deactivated) rfl o ho
    · cases ho
  -- a confirmation clears the instant of its kind, and confirms every act of it
  | startCon hopen hs _ _ hf =>
    refine (h hopen).clear .startDt [_] (unconfirmed_taken .startDt hs hf) rfl (calm rfl)
      (fun r' hr => ?_) rfl rfl
    cases r' <;> first | rfl | exact absurd rfl hr
  | stopCon hopen hs _ _ hf =>
    refine (h hopen).clear .stopDt [_] (unconfirmed_taken .stopDt hs hf) rfl (calm rfl)
      (fun r' hr => ?_) rfl rfl
    cases r' <;> first | rfl | exact absurd rfl hr
  | testAct hopen =>
    exact plainly [_] hopen rfl (calmU (con_ne_act .testFr) _) (fun _ => rfl) rfl rfl
  | testCon hopen hs hf =>
    refine (h hopen).clear .testFr [] (unconfirmed_taken .testFr hs hf) (by simp) (by simp)
      (fun r' hr => ?_) rfl rfl
    cases r' <;> first | rfl | exact absurd rfl hr
  | confirmStop hopen _ _ =>
    exact plainly [_] hopen rfl (calmU (con_ne_act .stopDt) _) (fun _ => rfl) rfl rfl
  | keepAlive _ hl => exact absurd hl (htick _ _)

/-! ### Ticks -/

/-- What a tick that leaves the loop running adds to the history. -/
theorem log_of_tick {s t : Session} {now clock : ℕ}
    (h : s.next cfg (.select (.tick now clock)) = some t) (hopen : t.Open) :
    ∃ os, (os = [] ∨ os = [.tx (newSFrame s.seqNoRcv) clock]) ∧
      (t.log = s.log ++ os ∧ t.idleSince = s.idleSince ∧ t.toDriver.since = s.toDriver.since ∨
        s.t3Due cfg now = true ∧ t.log = s.log ++ os ++ [.tx (newUFrame .testFrActive) clock] ∧
          t.idleSince = clock ∧ t.testFrSince = some clock ∧
          ∀ r ≠ .testFr, t.toDriver.since r = s.toDriver.since r) ∧
      t.clock = clock := by
  obtain ⟨-, -, -, -, -, rfl⟩ := next_tick h hopen
  -- t₂ may send an S-frame, and leaves the instants alone
  have h2 : ∃ os, (os = [] ∨ os = [.tx (newSFrame s.seqNoRcv) clock]) ∧
      ({ s with clock := clock }.afterT2 cfg now clock).log = s.log ++ os ∧
      ({ s with clock := clock }.afterT2 cfg now clock).idleSince = s.idleSince ∧
      ({ s with clock := clock }.afterT2 cfg now clock).toDriver.since = s.toDriver.since ∧
      ({ s with clock := clock }.afterT2 cfg now clock).clock = clock := by
    unfold afterT2
    split
    · exact ⟨_, .inr rfl, rfl, rfl, rfl, rfl⟩
    · exact ⟨[], .inl rfl, (List.append_nil _).symm, rfl, rfl, rfl⟩
  obtain ⟨os, hos, hlog, hidle, hsince, hclock⟩ := h2
  refine ⟨os, hos, ?_, ?_⟩
  -- t₃ may send a test frame, from whose instant it is supervised
  · unfold afterT3
    split
    · next hdue =>
      refine .inr ⟨?_, by rw [← hlog]; rfl, rfl, rfl, fun r hr => ?_⟩
      · unfold t3Due at hdue ⊢
        rwa [hidle] at hdue
      · rw [← hsince]
        cases r <;> first | rfl | exact absurd rfl hr
    · exact .inl ⟨hlog, hidle, hsince⟩
  · unfold afterT3
    split <;> exact hclock

private theorem calm_of_tick {s : Session} (hwf : s.Wf) {os : List Obs} {clock : ℕ}
    (hos : os = [] ∨ os = [.tx (newSFrame s.seqNoRcv) clock]) :
    ∀ o ∈ os, ∀ r : Request, ¬o.SendsU r.act := by
  rcases hos with rfl | rfl
  · simp
  · exact calmS hwf.seqNoRcv clock

/-- A tick keeps what is supervised. -/
theorem Supervises.tick {s t : Session} {now clock : ℕ} (hwf : s.Wf) (h : s.Supervises)
    (hok : s.supervised cfg (.select (.tick now clock)) = true)
    (hn : s.next cfg (.select (.tick now clock)) = some t) (hopen : t.Open) : t.Supervises := by
  obtain ⟨-, hle, -, hcon, hack, -⟩ := next_tick hn hopen
  obtain ⟨os, hos, hcases, hclock⟩ := log_of_tick hn hopen
  have hcalm := calm_of_tick hwf hos
  rcases hcases with ⟨hlog, hidle, hsince⟩ | ⟨hdue, hlog, hidle, htest, hother⟩
  · exact h.congr os hlog hcalm (fun r _ => by rw [hsince]) (by omega) fun _ _ => .inl hidle.ge
  · have hnone : unconfirmed .testFr s.log = [] := by
      simpa [supervised, hdue, hcon, hack] using hok
    -- first the acknowledgement, then the keep-alive
    have h' : Supervises { s with log := s.log ++ os } :=
      h.congr os rfl hcalm (fun _ _ => rfl) le_rfl fun _ _ => .inl le_rfl
    refine h'.request .testFr (apciOf_newUFrame _) ?_ (by rw [hlog, hclock]; rfl)
      (by rw [hclock]; exact hle)
      (by rw [hclock]; exact htest) hother (.inr (by rw [hclock, hidle]))
    refine List.eq_nil_iff_forall_not_mem.mpr fun τ hτ => ?_
    have hmem := mem_of_mem_unconfirmed_append hcalm hτ
    rw [hnone] at hmem
    cases hmem

variable {params : Params} {role : Role} {start : ℕ}

theorem supervises_of_reach {s : Session}
    (h : (machine cfg params role start).Reach (fun s l => s.supervised cfg l = true) s) :
    s.Open → s.Supervises := by
  induction h with
  | init => exact fun _ => ⟨nofun, nofun, nofun⟩
  | @step s t l hr hok hn ih =>
    have hwf := wf_of_reach hr
    by_cases htick : ∃ now clock, l = .select (.tick now clock)
    · obtain ⟨now, clock, rfl⟩ := htick
      intro hopen
      obtain ⟨hopen', -⟩ := next_tick hn hopen
      exact (ih hopen').tick hwf hok hn hopen
    · have htick' : ∀ now clock, l ≠ .select (.tick now clock) :=
        fun now clock hl => htick ⟨now, clock, hl⟩
      refine step_of_actions_wf (P := fun u => u.Open → u.Supervises) hwf (fun c hc hopen => ?_)
        (fun u u' hu hP ha => Supervises.action hok htick' ih hu hP ha) hn
      have hs := ih hopen
      exact ⟨hs.since, fun r τ hτ => le_trans (hs.past r τ hτ) hc, hs.idle⟩

/-- Keep-alives meet the condition when t₁ ≤ t₃: the tick at which the next one
is due closes the connection. -/
theorem supervised_tick (hle : cfg.sendUnackTimeout1 ≤ cfg.idleTimeout3) {s : Session}
    (h : (machine cfg params role start).Reach (fun s l => s.supervised cfg l = true) s)
    (hopen : s.Open) (now clock : ℕ) : s.supervised cfg (.select (.tick now clock)) = true := by
  have hs := supervises_of_reach h hopen
  unfold supervised
  by_cases hnone : unconfirmed .testFr s.log = []
  · simp [hnone]
  by_cases hdue : s.t3Due cfg now = true
  · obtain ⟨τ, hτ⟩ := List.exists_mem_of_ne_nil _ hnone
    have hsince : s.testFrSince = some τ := hs.since .testFr τ hτ
    have hidle := hs.idle τ hτ
    have hdue' : cfg.idleTimeout3 ≤ now - s.idleSince := by simpa [t3Due] using hdue
    have hcon : s.t1Confirmation cfg now = true := by
      have hexp : cfg.sendUnackTimeout1 ≤ now - τ := by omega
      simp [t1Confirmation, hsince, hexp]
    simp [hcon]
  · simp [hdue]

/-- **Under this condition nothing outlasts t₁ at a tick** that leaves the
connection open: no I-frame sent and not acknowledged, and no STARTDT, STOPDT or
TESTFR act without a confirmation. -/
theorem supervision_misses_nothing {c : Config} (hv : c.valid = .ok cfg) {s t : Session}
    {now clock : ℕ}
    (h : (machine cfg params role start).Reach (fun s l => s.supervised cfg l = true) s)
    (hn : s.next cfg (.select (.tick now clock)) = some t) (hopen : t.Open) :
    (∀ τ ∈ ((sentI t.log).map Prod.snd).drop (ledger t.log).acked,
      now < τ + cfg.sendUnackTimeout1) ∧
    ∀ r, ∀ τ ∈ unconfirmed r t.log, now < τ + cfg.sendUnackTimeout1 := by
  have hcfg := Config.inRange_of_valid hv
  have ht1 := hcfg.t1_pos
  have hwf := wf_of_reach h
  obtain ⟨hopen', hclock, hnow, hcon, hack, -⟩ := next_tick hn hopen
  obtain ⟨os, hos, hcases, -⟩ := log_of_tick hn hopen
  have hs := supervises_of_reach h hopen'
  constructor
  · -- the I-frames: the oldest is the head of `pending`
    -- a tick sends S- and U-frames only, which leave the window alone
    have hlog : ∃ os', t.log = s.log ++ os' ∧ ∀ o ∈ os', o.Inert := by
      have hinert : ∀ o ∈ os, o.Inert := by
        rcases hos with rfl | rfl
        · simp
        · exact List.forall_mem_singleton.mpr (inert_newSFrame hwf.seqNoRcv _)
      rcases hcases with ⟨hlog, -, -⟩ | ⟨-, hlog, -, -, -⟩
      · exact ⟨os, hlog, hinert⟩
      · refine ⟨os ++ [.tx (newUFrame .testFrActive) clock], by rw [hlog, List.append_assoc], ?_⟩
        intro o ho
        rcases List.mem_append.mp ho with ho | ho
        · exact hinert o ho
        · rw [List.mem_singleton.mp ho]
          exact inert_newUFrame _ _
    obtain ⟨os', hlog, hinert⟩ := hlog
    obtain ⟨h1, h2⟩ := ledger_append_inert s.log hinert
    rw [hlog, h1, h2]
    obtain ⟨-, m, n, hw, hl⟩ := sendInv_of_reach hcfg.k_le h
    obtain ⟨hledger, htimes, hsorted, -⟩ := hl hopen'
    have hlen := hw.len
    have hk := hcfg.k_le
    rw [hledger]
    show ∀ τ ∈ ((sentI s.log).map Prod.snd).drop m, now < τ + cfg.sendUnackTimeout1
    have hsorted' := hsorted.sublist (List.drop_sublist m _)
    rw [← htimes] at hsorted' ⊢
    rcases hpending : s.pending with _ | ⟨p, rest⟩
    · simp
    · have hne : s.ackNoSend ≠ s.seqNoSend := by
        intro heq
        have hlt : n - m < 32768 := by omega
        have hmn : m = n := Cyclic.eq_of_mod_eq le_rfl hw.le hw.le le_rfl hlt
          (by rw [← hw.ack, ← hw.seq, heq])
        have hnums := congrArg List.length hw.nums
        rw [hpending, hmn] at hnums
        simp at hnums
      have hhead : now < p.2 + cfg.sendUnackTimeout1 := by
        have : ¬cfg.sendUnackTimeout1 ≤ now - p.2 := by
          intro hexp
          simp [t1Acknowledge, hne, hpending, hexp] at hack
        omega
      rw [hpending, List.map_cons, List.pairwise_cons] at hsorted'
      -- the instants in `pending` only grow, so the head is the oldest
      intro τ hτ
      rw [List.map_cons] at hτ
      rcases List.mem_cons.mp hτ with rfl | hτ
      · exact hhead
      · have := hsorted'.1 τ hτ
        omega
  · -- the requests: each is the one its instant supervises, or sent by this tick
    intro r τ hτ
    have hold : ∀ τ ∈ unconfirmed r s.log, now < τ + cfg.sendUnackTimeout1 := by
      intro τ hτ
      have hsince := hs.since r τ hτ
      have : ¬cfg.sendUnackTimeout1 ≤ now - τ := by
        intro hexp
        cases r <;> simp [t1Confirmation, Driver.since] at hsince hcon <;> simp [hsince] at hcon <;>
          omega
      omega
    -- a test frame sent by this very tick has not waited at all
    rcases hcases with ⟨hlog, -, -⟩ | ⟨-, hlog, -, -, -⟩
    · rw [hlog] at hτ
      exact hold τ (mem_of_mem_unconfirmed_append (calm_of_tick hwf hos) hτ)
    · rw [hlog, unconfirmed_concat] at hτ
      rcases mem_unconfirmedStep hτ with hτ | ⟨f, hf, -⟩
      · exact hold τ (mem_of_mem_unconfirmed_append (calm_of_tick hwf hos) hτ)
      · cases hf
        omega

/-- A start request that nothing answers. -/
def unanswered : List Label := [.guard, .select (.ctrl .startDt 0), .guard]

theorem supervision_misses_nothing_unanswered : ∃ s t,
    (machine .default paramsWide .master 0).runIf (fun s l => s.supervised .default l = true)
        (init .default paramsWide .master 0) unanswered = some s ∧
      s.next .default (.select (.tick (fromSecs 14) (fromSecs 14))) = some t ∧
      unconfirmed .startDt t.log = [0] ∧
      ∀ r, ∀ τ ∈ unconfirmed r t.log, fromSecs 14 < τ + Config.default.sendUnackTimeout1 := by
  obtain ⟨s, t, hs, hn, hu, hphase⟩ : ∃ s t, (machine .default paramsWide .master 0).runIf
      (fun s l => s.supervised .default l = true) (init .default paramsWide .master 0)
        unanswered = some s ∧
      s.next .default (.select (.tick (fromSecs 14) (fromSecs 14))) = some t ∧
      unconfirmed .startDt t.log = [0] ∧ t.phase = .top := ⟨_, _, rfl, rfl, rfl, rfl⟩
  refine ⟨s, t, hs, hn, hu, ?_⟩
  exact (supervision_misses_nothing Config.valid_default (Machine.reach_of_runIf .init hs) hn
    (Session.open_of_top hphase)).2

/-- t₁ of two seconds and t₃ of one. -/
def shortIdle : Config :=
  { Config.default with sendUnackTimeout1 := fromSecs 2, idleTimeout3 := fromSecs 1 }

/-- **With t₃ < t₁ keep-alives need not meet it.**  Each keep-alive restarts the
clock of the one before, and a silent peer is never noticed. -/
theorem supervision_misses_keepAlive : shortIdle.valid = .ok shortIdle ∧ ∃ s t,
    (machine shortIdle paramsWide .controlled 0).Reachable s ∧
      s.next shortIdle (.select (.tick (fromSecs 3) (fromSecs 3))) = some t ∧ t.Open ∧
      ¬∀ r, ∀ τ ∈ unconfirmed r t.log, fromSecs 3 < τ + shortIdle.sendUnackTimeout1 := by
  refine ⟨by decide, ?_⟩
  obtain ⟨s, t, hs, hn, hu, hphase⟩ : ∃ s t, (machine shortIdle paramsWide .controlled 0).run
      (init shortIdle paramsWide .controlled 0) [.guard, .select (.tick (fromSecs 1) (fromSecs 1)),
        .guard, .select (.tick (fromSecs 2) (fromSecs 2)), .guard] = some s ∧
      s.next shortIdle (.select (.tick (fromSecs 3) (fromSecs 3))) = some t ∧
      unconfirmed .testFr t.log = [fromSecs 1, fromSecs 2, fromSecs 3] ∧ t.phase = .top :=
    ⟨_, _, rfl, rfl, rfl, rfl⟩
  refine ⟨s, t, Machine.reach_of_run .init hs, hn, Session.open_of_top hphase, fun h => ?_⟩
  have h1 := h .testFr (fromSecs 1) (by rw [hu]; simp)
  revert h1
  decide

end Session

end Cs104
end Iec60870
