import Iec60870.Cs104.History
import Iec60870.Lib.Trace

/-!
# The send window

Behind the 15-bit numbers `ackNoSend` and `seqNoSend` stand two unbounded
counters: how many I-frames were sent, and how many of them are acknowledged.
`pending` is the part of the history between the two.

## Main definitions

* `ledger` — the two counters, read off the history.
* `Session.Window` — the driver's variables show the counters `m` and `n`.

## Main results

* `updateAckNoOut_spec` — what an acknowledgement does to a window.
* `Session.sendInv_of_reach` — the window follows the ledger along every run.
* `Session.send_window` — **`pending` is the window, never longer than k.**
-/

namespace Iec60870
namespace Cs104

/-! ### The ledger of I-frames sent -/

/-- How many I-frames were sent, and how many of these are acknowledged. -/
@[ext] structure Ledger where
  sent : ℕ
  acked : ℕ
  deriving DecidableEq, Repr

/-- One more observation.  An acknowledge number shows a counter at most
`sent`. -/
def Ledger.observe (l : Ledger) : Obs → Ledger
  | .acked recvSn => { l with acked := l.sent - Cyclic.dist 32768 recvSn.toNat (l.sent % 32768) }
  | o => { l with sent := l.sent + (if o.iSent.isSome then 1 else 0) }

/-- The ledger of a history: how many I-frames were sent, and how many of them are
acknowledged. -/
def ledger (log : List Obs) : Ledger := log.foldl Ledger.observe ⟨0, 0⟩

@[simp] theorem ledger_concat (log : List Obs) (o : Obs) :
    ledger (log ++ [o]) = (ledger log).observe o := by simp [ledger]

theorem sent_observe (l : Ledger) (o : Obs) :
    (l.observe o).sent = l.sent + (sentI [o]).length := by
  cases o with
  | tx f now => cases h : (Obs.tx f now).iSent <;> simp [Ledger.observe, sentI, h]
  | _ => rfl

theorem sent_ledger (log : List Obs) : (ledger log).sent = (sentI log).length := by
  induction log using List.reverseRecOn with
  | nil => rfl
  | append_singleton log o ih =>
    rw [ledger_concat, sent_observe, ih, sentI_append, List.length_append]

/-- Observations that leave the ledger alone: neither an I-frame sent nor an
acknowledgement. -/
def Obs.Inert : Obs → Prop
  | .acked _ => False
  | o => o.iSent = none

theorem observe_inert {l : Ledger} {o : Obs} (h : o.Inert) : l.observe o = l := by
  cases o with
  | acked r => exact h.elim
  | tx f now =>
    have h : (Obs.tx f now).iSent = none := h
    simp [Ledger.observe, h]
  | _ => rfl

theorem ledger_append_inert (log : List Obs) {os : List Obs} (h : ∀ o ∈ os, o.Inert) :
    ledger (log ++ os) = ledger log ∧ sentI (log ++ os) = sentI log := by
  induction os generalizing log with
  | nil => simp
  | cons o os ih =>
    have ho : o.Inert := h o (by simp)
    have hnone : o.iSent = none := by
      cases o with
      | acked r => exact ho.elim
      | _ => exact ho
    obtain ⟨h1, h2⟩ := ih (log ++ [o]) fun o' ho' => h o' (by simp [ho'])
    rw [List.append_assoc, List.singleton_append] at h1 h2
    rw [h1, h2, ledger_concat, observe_inert ho]
    simp [sentI, hnone]

theorem inert_newUFrame (f : UFunction) (now : ℕ) : (Obs.tx (newUFrame f) now).Inert := by
  simp [Obs.Inert, Obs.iSent]

theorem inert_newSFrame {r : UInt16} (hr : r.toNat < 32768) (now : ℕ) :
    (Obs.tx (newSFrame r) now).Inert := by
  simp [Obs.Inert, Obs.iSent, parse_newSFrame hr]

/-- Every I-frame carries the number of I-frames sent before it. -/
def NumberedI (log : List Obs) : Prop :=
  Trace.Each (fun before o => ∀ n r, o.sentApci = some (.i n r) →
    n.toNat = (sentI before).length % 32768) log

theorem not_isI_of_inert {o : Obs} (h : o.Inert) : ¬o.IsI := by
  rintro ⟨n, r, hi⟩
  cases o with
  | tx f now =>
    obtain ⟨raw, hp⟩ := apciOf_eq_some hi
    have h : (Obs.tx f now).iSent = none := h
    simp [Obs.iSent, hp] at h
  | _ => cases hi

/-! ### Acknowledgements -/

/-- The sequence number `i` places after `a`. -/
def seqNoAdd (a : UInt16) (i : ℕ) : UInt16 := (a + UInt16.ofNat i) &&& SEQ_MASK

theorem toNat_seqNoAdd {a : UInt16} {m : ℕ} (ha : a.toNat = m % 32768) (i : ℕ) :
    (seqNoAdd a i).toNat = (m + i) % 32768 := by
  have hmask : SEQ_MASK.toNat = 2 ^ 15 - 1 := rfl
  rw [seqNoAdd, UInt16.toNat_and, hmask, Nat.and_two_pow_sub_one_eq_mod, UInt16.toNat_add, ha]
  simp

/-- **What an acknowledgement does to a window** that shows the counters `m` to
`n`: a number inside moves the lower end to itself, any other changes nothing. -/
theorem updateAckNoOut_spec {ackNo ackNoSend seqNoSend : UInt16} {pending : List (UInt16 × ℕ)}
    {m n : ℕ} (hack : ackNoSend.toNat = m % 32768) (hseq : seqNoSend.toNat = n % 32768)
    (hmn : m ≤ n) (hlt : n - m < 32768)
    (hnums : pending.map (·.1.toNat) = Cyclic.residues 32768 m n) (hno : ackNo.toNat < 32768) :
    (∃ i, m ≤ i ∧ i ≤ n ∧ ackNo.toNat = i % 32768 ∧
      updateAckNoOut ackNo ackNoSend seqNoSend pending = (true, ackNo, pending.drop (i - m))) ∨
    ((∀ i, m ≤ i → i ≤ n → ackNo.toNat ≠ i % 32768) ∧
      updateAckNoOut ackNo ackNoSend seqNoSend pending = (false, ackNoSend, pending)) := by
  have hcount := seqNoCount_mod hack hseq hmn hlt
  -- the source counts from the number to the upper end; that is the distance modulo 2 ^ 15
  have hdist : (seqNoCount ackNo seqNoSend).toNat = Cyclic.dist 32768 ackNo.toNat (n % 32768) := by
    rw [toNat_seqNoCount hno (by omega), hseq]
  unfold updateAckNoOut
  by_cases heq : ackNo = ackNoSend
  -- the lower end again: nothing new is acknowledged
  · refine .inl ⟨m, le_rfl, hmn, by rw [heq, hack], ?_⟩
    rw [if_pos heq, heq, Nat.sub_self, List.drop_zero]
  · rw [if_neg heq]
    by_cases hin : Cyclic.dist 32768 ackNo.toNat (n % 32768) ≤ n - m
    · left
      obtain ⟨i, hmi, hin', hi⟩ := (Cyclic.dist_le_iff hno hmn hlt).mp hin
      refine ⟨i, hmi, hin', hi, ?_⟩
      have hne : i ≠ m := by
        rintro rfl
        exact heq (UInt16.toNat_inj.mp (hi.trans hack.symm))
      -- the frame before the acknowledged number is found in the window
      have hlast : ((ackNo - 1) &&& SEQ_MASK).toNat = (m + (i - m - 1)) % 32768 := by
        rw [show m + (i - m - 1) = i - 1 by omega]
        exact toNat_pred_and_mask (by rw [hi]; congr 1; omega)
      have hfind : pending.findIdx? (fun p => p.1 == (ackNo - 1) &&& SEQ_MASK) =
          some (i - m - 1) := by
        rw [← Cyclic.findIdx?_residues (M := 32768) (m := m) (n := n) (i := i - m - 1) (by omega)
          (by omega), ← hnums, ← hlast, List.findIdx?_map]
        congr 1
        funext p
        rw [Bool.eq_iff_iff]
        simp only [beq_iff_eq, Function.comp_apply]
        exact UInt16.toNat_inj.symm
      rw [if_neg (by rw [UInt16.lt_iff_toNat_lt, hcount, hdist]; omega)]
      simp only [hfind]
      rw [show i - m - 1 + 1 = i - m by omega]
    · right
      -- a number outside: further from the upper end than the window is long
      refine ⟨fun i h1 h2 h3 => hin ((Cyclic.dist_le_iff hno hmn hlt).mpr ⟨i, h1, h2, h3⟩), ?_⟩
      rw [if_pos (by rw [UInt16.lt_iff_toNat_lt, hcount, hdist]; omega)]

namespace Session

variable {cfg : Config} {s₀ : Session} {l : Label}

/-! ### The window along a run -/

/-- The driver's variables show `m` I-frames acknowledged out of `n` sent. -/
structure Window (cfg : Config) (m n : ℕ) (s : Session) : Prop where
  seq : s.seqNoSend.toNat = n % 32768
  ack : s.ackNoSend.toNat = m % 32768
  le : m ≤ n
  len : n - m ≤ cfg.sendUnackLimitK.toNat
  nums : s.pending.map (·.1.toNat) = Cyclic.residues 32768 m n
  /-- The guard was evaluated with the window open, and only sending closes it. -/
  guard : s.phase = .waiting true → n - m < cfg.sendUnackLimitK.toNat

/-- The agreement of `pending` with the history: the same frames, with the
instants they were sent at. -/
structure Sent (m n : ℕ) (s : Session) : Prop where
  ledger : ledger s.log = ⟨n, m⟩
  times : s.pending.map Prod.snd = ((sentI s.log).map Prod.snd).drop m
  /-- I-frames are sent in the order of time. -/
  sorted : ((sentI s.log).map Prod.snd).Pairwise (· ≤ ·)
  past : ∀ τ ∈ (sentI s.log).map Prod.snd, τ ≤ s.clock

/-- The numbers sent, the window, and while the driver runs its agreement with
the history. -/
def SendInv (cfg : Config) (s : Session) : Prop :=
  NumberedI s.log ∧ ∃ m n, s.Window cfg m n ∧ (s.Open → s.Sent m n)

theorem Window.count (hk : cfg.sendUnackLimitK.toNat ≤ 32767) {s : Session} {m n : ℕ}
    (h : s.Window cfg m n) : (seqNoCount s.ackNoSend s.seqNoSend).toNat = n - m :=
  seqNoCount_mod h.ack h.seq h.le (by have := h.len; omega)

/-- Only the outbound variables, the loop position and the ledger matter. -/
theorem SendInv.congr {s s' : Session} (h : s.SendInv cfg) (os : List Obs)
    (hseq : s'.seqNoSend = s.seqNoSend) (hack : s'.ackNoSend = s.ackNoSend)
    (hp : s'.pending = s.pending) (hphase : s'.phase = s.phase) (hclock : s'.clock = s.clock)
    (hlog : s'.log = s.log ++ os) (hos : ∀ o ∈ os, o.Inert) : s'.SendInv cfg := by
  obtain ⟨hnum, m, n, hw, hl⟩ := h
  obtain ⟨h1, h2⟩ := ledger_append_inert s.log hos
  have hnum' : NumberedI s'.log := by
    rw [hlog]
    exact hnum.append fun o ho a n' r hi => absurd ⟨n', r, hi⟩ (not_isI_of_inert (hos o ho))
  refine ⟨hnum', m, n, ⟨hseq ▸ hw.seq, hack ▸ hw.ack, hw.le, hw.len, hp ▸ hw.nums, hphase ▸ hw.guard⟩, ?_⟩
  intro hopen
  have hopen' : s.Open := fun why => hphase ▸ hopen why
  obtain ⟨h3, h4, h5, h6⟩ := hl hopen'
  exact ⟨by rw [hlog, h1]; exact h3, by rw [hlog, h2, hp]; exact h4,
    by rw [hlog, h2]; exact h5, by rw [hlog, h2, hclock]; exact h6⟩

/-- After leaving the loop the variables are gone. -/
theorem sendInv_teardown {s : Session} (hnum : NumberedI s.log) (why : Reason) :
    (s.teardown why).SendInv cfg := by
  refine ⟨hnum, 0, 0, ⟨rfl, rfl, le_rfl, Nat.zero_le _, rfl, nofun⟩, ?_⟩
  intro hopen
  exact absurd rfl (hopen why)

/-- Sending adds a frame at the upper end. -/
theorem SendInv.send {s : Session} {raw frame : Octets} {rest : List Octets}
    (h : s.SendInv cfg) (hwf : s.Wf) (hphase : s.phase = .waiting true)
    (hqueue : s.conn.queue = raw :: rest)
    (hframe : newIFrame s.seqNoSend s.seqNoRcv raw = .ok frame) :
    SendInv cfg ({ s with
      conn := { s.conn with queue := rest }
      ackNoRcv := s.seqNoRcv
      pending := s.pending ++ [(s.seqNoSend, s.clock)]
      seqNoSend := (s.seqNoSend + 1) &&& SEQ_MASK
      phase := .top }.note (.tx frame s.clock)) := by
  obtain ⟨hnum, m, n, hw, hl⟩ := h
  have hlt := hw.guard hphase
  have hopen : s.Open := Session.open_of_waiting hphase
  -- the new frame takes the number `n`, and the window ends at `n + 1`
  obtain ⟨hledger, htimes, hsorted, hpast⟩ := hl hopen
  have hraw : raw ≠ [] := hwf.queue raw (hqueue ▸ List.mem_cons_self)
  have hi := Obs.iSent_newIFrame s.clock hwf.seqNoSend hwf.seqNoRcv hraw hframe
  have hle := hw.le
  have hnum' : NumberedI (s.log ++ [.tx frame s.clock]) := by
    refine Trace.each_concat.mpr ⟨hnum, fun n' r hn' => ?_⟩
    have hapci := apciOf_newIFrame hwf.seqNoSend hwf.seqNoRcv hraw hframe
    rw [Obs.sentApci, hapci] at hn'
    cases hn'
    rw [← sent_ledger, hledger, hw.seq]
  refine ⟨hnum', m, n + 1, ⟨toNat_succ_and_mask hw.seq, hw.ack, by omega, by omega, ?_,
    fun hp => by cases hp⟩, fun _ => ?_⟩
  · show (s.pending ++ _).map _ = _
    rw [List.map_append, hw.nums, Cyclic.residues_succ hw.le]
    simp [hw.seq]
  · have hlen : m ≤ (sentI s.log).length := by
      rw [← sent_ledger, hledger]
      exact hw.le
    -- and its instant is the latest so far
    have hsent : (sentI (s.log ++ [.tx frame s.clock])).map Prod.snd =
        (sentI s.log).map Prod.snd ++ [s.clock] := by
      rw [sentI_append, List.map_append]
      simp [sentI, hi]
    refine ⟨?_, ?_, ?_, ?_⟩
    · show ledger (s.log ++ _) = _
      rw [ledger_concat, hledger]
      simp [Ledger.observe, hi]
    · show (s.pending ++ _).map _ = ((sentI (s.log ++ _)).map _).drop m
      rw [hsent, List.map_append, htimes, List.drop_append_of_le_length (by simpa using hlen)]
      rfl
    · show ((sentI (s.log ++ _)).map _).Pairwise _
      rw [hsent]
      refine List.pairwise_append.mpr ⟨hsorted, List.pairwise_singleton _ _, fun τ hτ τ' hτ' => ?_⟩
      rw [List.mem_singleton.mp hτ']
      exact hpast τ hτ
    · show ∀ τ ∈ (sentI (s.log ++ _)).map _, τ ≤ s.clock
      rw [hsent]
      intro τ hτ
      rcases List.mem_append.mp hτ with hτ | hτ
      · exact hpast τ hτ
      · rw [List.mem_singleton.mp hτ]

/-- An acknowledgement inside the window moves its lower end. -/
theorem SendInv.ack (hk : cfg.sendUnackLimitK.toNat ≤ 32767) {s : Session}
    {recvSn ackNoSend : UInt16} {pending : List (UInt16 × ℕ)} (h : s.SendInv cfg)
    (hno : recvSn.toNat < 32768)
    (hu : updateAckNoOut recvSn s.ackNoSend s.seqNoSend s.pending = (true, ackNoSend, pending)) :
    SendInv cfg ({ s with ackNoSend, pending }.note (.acked recvSn)) := by
  obtain ⟨hnum, m, n, hw, hl⟩ := h
  have hlen := hw.len
  have hle := hw.le
  have hnum' : NumberedI (s.log ++ [.acked recvSn]) :=
    Trace.each_concat.mpr ⟨hnum, fun n r hi => by cases hi⟩
  rcases updateAckNoOut_spec hw.ack hw.seq hw.le (by omega) hw.nums hno with
    ⟨i, hmi, hin, hi, he⟩ | ⟨-, he⟩
  -- the number is inside: the window now begins at it
  · rw [he] at hu
    cases hu
    refine ⟨hnum', i, n, ⟨hw.seq, hi, hin, by omega, ?_, fun hp => ?_⟩, fun hopen => ?_⟩
    · show (s.pending.drop (i - m)).map _ = _
      rw [List.map_drop, hw.nums, Cyclic.drop_residues]
      congr 1
      omega
    · have := hw.guard hp
      omega
    · obtain ⟨hledger, htimes, hsorted, hpast⟩ := hl hopen
      have hnone : sentI (s.log ++ [.acked recvSn]) = sentI s.log := by
        rw [sentI_append, show sentI [.acked recvSn] = [] from rfl, List.append_nil]
      refine ⟨?_, ?_, hnone ▸ hsorted, hnone ▸ hpast⟩
      · show ledger (s.log ++ _) = _
        have hi' : n - (n - i) = i := by omega
        rw [ledger_concat, hledger, Ledger.observe, hi, Cyclic.dist_mod hin (by omega), hi']
      · show (s.pending.drop (i - m)).map _ = ((sentI (s.log ++ _)).map _).drop i
        rw [List.map_drop, htimes, List.drop_drop, hnone, show m + (i - m) = i by omega]
  -- the number is outside: then the acknowledgement is refused
  · rw [he] at hu
    cases hu

theorem SendInv.action (hk : cfg.sendUnackLimitK.toNat ≤ 32767) {s s' : Session} (hwf : s.Wf)
    (h : s.SendInv cfg) (ha : Action cfg s₀ l s s') : s'.SendInv cfg := by
  have hS := inert_newSFrame hwf.seqNoRcv
  have hS' := inert_newSFrame (hwf.action ha).seqNoRcv
  cases ha with
  | quiet hd hlog _ _ _ hphase hclock =>
    obtain ⟨hnum, m, n, hw, hl⟩ := h
    refine ⟨hlog ▸ hnum, m, n, ⟨hd ▸ hw.seq, hd ▸ hw.ack, hw.le, hw.len, hd ▸ hw.nums, fun hp => ?_⟩, fun hopen => ?_⟩
    · rcases hphase with hphase | ⟨-, hphase⟩
      · exact hw.guard (hphase ▸ hp)
      · rw [hphase] at hp
        cases hp
    · have hopen' : s.Open := by
        rcases hphase with hphase | ⟨hopen', -⟩
        · exact fun why => hphase ▸ hopen why
        · exact hopen'
      obtain ⟨h3, h4, h5, h6⟩ := hl hopen'
      exact ⟨by rw [hlog]; exact h3, by rw [hlog, hd]; exact h4, by rw [hlog]; exact h5,
        by rw [hlog, hclock]; exact h6⟩
  | enqueue hconn => exact h.congr [] rfl rfl rfl rfl rfl (by simp) (by simp)
  | guard htop =>
    obtain ⟨hnum, m, n, hw, hl⟩ := h
    have hopen : s.Open := Session.open_of_top htop
    refine ⟨hnum, m, n, ⟨hw.seq, hw.ack, hw.le, hw.len, hw.nums, fun hp => ?_⟩, fun _ => ?_⟩
    -- the guard opens only while fewer than k frames are out
    · have hmay : s.maySend cfg = true := by injection hp
      simp only [maySend, Bool.and_eq_true, decide_eq_true_eq, UInt16.lt_iff_toNat_lt,
        hw.count hk] at hmay
      exact hmay.2
    · obtain ⟨h3, h4, h5, h6⟩ := hl hopen
      exact ⟨h3, h4, h5, h6⟩
  | send _ _ hphase hqueue hframe => exact h.send hwf hphase hqueue hframe
  | ack _ hno hu => exact h.ack hk hno hu
  | @acceptLost raw _ _ =>
    have hnum : NumberedI (s.accept raw s.clock).log :=
      Trace.each_concat.mpr ⟨h.1, fun n r hi => by cases hi⟩
    exact sendInv_teardown hnum _
  | teardown _ why => exact sendInv_teardown h.1 why
  | acceptFull _ _ =>
    refine h.congr [_, _] rfl rfl rfl rfl rfl (List.append_assoc ..) ?_
    simp only [List.mem_cons, List.not_mem_nil, or_false, forall_eq_or_imp, forall_eq]
    exact ⟨rfl, hS' _⟩
  | stopAct _ _ _ _ _ _ _ =>
    refine h.congr _ rfl rfl rfl rfl rfl rfl ?_
    intro o ho
    split at ho
    · rw [List.mem_singleton.mp ho]
      rfl
    · cases ho
  | testCon _ _ _ => exact h.congr [] rfl rfl rfl rfl rfl (by simp) (by simp)
  | startAct _ _ _ _ _ =>
    refine h.congr [_, _] rfl rfl rfl rfl rfl (List.append_assoc ..) ?_
    simp only [List.mem_cons, List.not_mem_nil, or_false, forall_eq_or_imp, forall_eq]
    exact ⟨inert_newUFrame _ _, rfl⟩
  | sendS => exact h.congr [_] rfl rfl rfl rfl rfl rfl (by simpa using hS _)
  | demote => exact h.congr [_] rfl rfl rfl rfl rfl rfl (by simp [Obs.Inert, Obs.iSent])
  | receive => exact h.congr [_] rfl rfl rfl rfl rfl rfl (by simp [Obs.Inert, Obs.iSent])
  | pack => exact h.congr [_] rfl rfl rfl rfl rfl rfl (by simp [Obs.Inert, Obs.iSent])
  | accept => exact h.congr [_] rfl rfl rfl rfl rfl rfl (by simp [Obs.Inert, Obs.iSent])
  | startCon => exact h.congr [_] rfl rfl rfl rfl rfl rfl (by simp [Obs.Inert, Obs.iSent])
  | stopCon => exact h.congr [_] rfl rfl rfl rfl rfl rfl (by simp [Obs.Inert, Obs.iSent])
  | _ => exact h.congr [_] rfl rfl rfl rfl rfl rfl (by simpa using inert_newUFrame _ _)

variable {params : Params} {role : Role} {start : ℕ} {ok : Session → Label → Prop}

theorem sendInv_init : (init cfg params role start).SendInv cfg :=
  ⟨Trace.each_nil, 0, 0, ⟨rfl, rfl, le_rfl, Nat.zero_le _, rfl, nofun⟩, fun _ => ⟨rfl, rfl, List.Pairwise.nil, nofun⟩⟩

theorem SendInv.at_clock {s : Session} (h : s.SendInv cfg) {c : ℕ} (hc : s.clock ≤ c) :
    SendInv cfg { s with clock := c } := by
  obtain ⟨hnum, m, n, hw, hl⟩ := h
  refine ⟨hnum, m, n, ⟨hw.1, hw.2, hw.3, hw.4, hw.5, hw.6⟩, fun hopen => ?_⟩
  obtain ⟨h3, h4, h5, h6⟩ := hl hopen
  exact ⟨h3, h4, h5, fun τ hτ => le_trans (h6 τ hτ) hc⟩

/-- The window follows the ledger along every run. -/
theorem sendInv_of_reach (hk : cfg.sendUnackLimitK.toNat ≤ 32767) {s : Session}
    (h : (machine cfg params role start).Reach ok s) : s.SendInv cfg :=
  reach_of_actions_wf (P := SendInv cfg) sendInv_init (fun _ _ h hc => h.at_clock hc)
    (fun _ _ _ _ _ _ hwf h ha => h.action hk hwf ha) h

/-- `ackNo` lies in the cyclic window from `ackNoSend` to `seqNoSend` inclusive. -/
def InWindow (s : Session) (ackNo : UInt16) : Prop :=
  ∃ i ≤ (seqNoCount s.ackNoSend s.seqNoSend).toNat, ackNo = seqNoAdd s.ackNoSend i

/-- **`pending` is the window, never longer than k**, and an acknowledgement
moves its lower end exactly when it falls inside. -/
theorem send_window (hk : cfg.sendUnackLimitK.toNat ≤ 32767) {s : Session}
    (h : (machine cfg params role start).Reachable s) :
    s.pending.map Prod.fst =
        (List.range (seqNoCount s.ackNoSend s.seqNoSend).toNat).map (seqNoAdd s.ackNoSend) ∧
      (s.pending.map Prod.fst).Nodup ∧
      s.pending.length = (seqNoCount s.ackNoSend s.seqNoSend).toNat ∧
      s.pending.length ≤ cfg.sendUnackLimitK.toNat ∧
      ∀ ackNo : UInt16, ackNo.toNat < 32768 →
        ((updateAckNoOut ackNo s.ackNoSend s.seqNoSend s.pending).1 = true ↔ s.InWindow ackNo) ∧
        (∀ i ≤ s.pending.length, ackNo = seqNoAdd s.ackNoSend i →
          updateAckNoOut ackNo s.ackNoSend s.seqNoSend s.pending =
            (true, ackNo, s.pending.drop i)) ∧
        (¬s.InWindow ackNo → updateAckNoOut ackNo s.ackNoSend s.seqNoSend s.pending =
          (false, s.ackNoSend, s.pending)) := by
  obtain ⟨-, m, n, hw, -⟩ := sendInv_of_reach hk h
  have hcount := hw.count hk
  have hlt : n - m < 32768 := by have := hw.len; omega
  have hlen : s.pending.length = n - m := by simpa using congrArg List.length hw.nums
  have hadd := toNat_seqNoAdd hw.ack
  have hle := hw.le
  have hnums : (s.pending.map Prod.fst).map UInt16.toNat = Cyclic.residues 32768 m n := by
    rw [List.map_map]
    exact hw.nums
  -- what is kept of the frames are their numbers, counted on from the lower end
  have hfst : s.pending.map Prod.fst = (List.range (n - m)).map (seqNoAdd s.ackNoSend) := by
    apply List.map_injective_iff.mpr fun _ _ => UInt16.toNat_inj.mp
    rw [hnums, Cyclic.residues, List.range'_eq_map_range, List.map_map, List.map_map]
    exact List.map_congr_left fun i _ => (hadd i).symm
  have hwindow : ∀ ackNo : UInt16, s.InWindow ackNo ↔
      ∃ i, m ≤ i ∧ i ≤ n ∧ ackNo.toNat = i % 32768 := by
    intro ackNo
    unfold InWindow
    rw [hcount]
    constructor
    · rintro ⟨i, hi, rfl⟩
      exact ⟨m + i, by omega, by omega, hadd i⟩
    · rintro ⟨i, hmi, hin, hi⟩
      refine ⟨i - m, by omega, UInt16.toNat_inj.mp ?_⟩
      rw [hadd, hi, show m + (i - m) = i by omega]
  rw [hcount]
  -- fewer than 2 ^ 15 numbers in a row are different ones
  refine ⟨hfst, ?_, hlen, hlen ▸ hw.len, fun ackNo hno => ?_⟩
  · have hnodup := Cyclic.nodup_residues (M := 32768) (m := m) (n := n) (by omega)
    rw [← hnums] at hnodup
    exact hnodup.of_map _
  · rcases updateAckNoOut_spec hw.ack hw.seq hw.le hlt hw.nums hno with
      ⟨i, hmi, hin, hi, he⟩ | ⟨hout, he⟩
    -- inside the window, at a place that the distance gives back
    · have hin' : s.InWindow ackNo := (hwindow ackNo).mpr ⟨i, hmi, hin, hi⟩
      rw [he]
      refine ⟨⟨fun _ => hin', fun _ => rfl⟩, fun j hj hj' => ?_, fun h => absurd hin' h⟩
      have hij : i = m + j := Cyclic.eq_of_mod_eq hmi hin (by omega) (by omega) hlt
        (by rw [← hi, hj', hadd])
      rw [hij, Nat.add_sub_cancel_left]
    -- outside it, nothing changes
    · have hnot : ¬s.InWindow ackNo := by
        rw [hwindow]
        rintro ⟨i, h1, h2, h3⟩
        exact hout i h1 h2 h3
      rw [he]
      refine ⟨⟨(fun h => by cases h), fun h => absurd h hnot⟩, fun j hj hj' => ?_, fun _ => rfl⟩
      exact absurd ⟨j, by omega, hj'⟩ hnot

theorem send_window_startAndSend : ∃ s,
    (machine .default paramsWide .controlled 0).run (init .default paramsWide .controlled 0)
        startAndSend = some s ∧
      s.pending = [(0, 1)] ∧ s.pending.length ≤ Config.default.sendUnackLimitK.toNat := by
  obtain ⟨s, hs⟩ : ∃ s, (machine .default paramsWide .controlled 0).run
      (init .default paramsWide .controlled 0) startAndSend = some s ∧ s.pending = [(0, 1)] :=
    ⟨_, rfl, rfl⟩
  exact ⟨s, hs.1, hs.2, (send_window (by decide) (Machine.reach_of_run .init hs.1)).2.2.2.1⟩

end Session

end Cs104
end Iec60870
