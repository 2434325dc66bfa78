import Iec60870.Cs104.Link
import Iec60870.Cs104.Supervision

/-!
# The STOPDT handshake between two endpoints

A STOPDT act on its way, the confirmation held back, and the confirmation on its
way are three places of one request.  Counted as in `Duplex`, with the acts for
data and the confirmations for acknowledgements, a confirmation acknowledges
every act received before it.

## Main definitions

* `StopState`, `stopState` — where a controlled station stands with STOPDT.
* `stopHist` — the handshake in the history of a connection.
* `Link.Handshake` — the acts a master still waits for, counted.

## Main results

* `Link.handshake_of_reach` — this count holds along every run.
* `Link.stop_handshake` — **a stop the master waits for is in one of the three
  places, unless STARTDT act has superseded it.**
* `Link.stop_handshake_superseded` — it may have.
-/

namespace Iec60870
namespace Cs104

/-! ### The station's side -/

/-- Where a controlled station stands with the last STOPDT act it received. -/
inductive StopState
  | none
  /-- It is not confirmed. -/
  | held
  | confirmed
  /-- A STARTDT act was received before it was confirmed. -/
  | superseded
  deriving DecidableEq, Repr

/-- One more observation: a request is held until it is confirmed, or superseded
by STARTDT act. -/
def stopStep (st : StopState) (o : Obs) : StopState :=
  if o.ReceivesU .stopDtActive then .held
  else if o.SendsU .stopDtConfirm then .confirmed
  else if o.ReceivesU .startDtActive ∧ st = .held then .superseded
  else st

/-- The state after a history. -/
def stopState (log : List Obs) : StopState := log.foldl stopStep .none

@[simp] theorem stopState_concat (log : List Obs) (o : Obs) :
    stopState (log ++ [o]) = stopStep (stopState log) o := by simp [stopState]

/-- Only STOPDT act leads to `held`. -/
theorem held_of_append {log os : List Obs} (hos : ∀ o ∈ os, ¬o.ReceivesU .stopDtActive)
    (h : stopState (log ++ os) = .held) : stopState log = .held := by
  induction os using List.reverseRecOn with
  | nil => simpa using h
  | append_singleton os o ih =>
    refine ih (fun o' ho' => hos o' (by simp [ho'])) ?_
    rw [← List.append_assoc, stopState_concat, stopStep, if_neg (hos o (by simp))] at h
    split_ifs at h
    exact h

/-! ### The master's side -/

/-- Only STOPDT con confirms what is unconfirmed. -/
theorem unconfirmed_append_ne_nil {log os : List Obs} {r : Request}
    (hos : ∀ o ∈ os, ¬o.ReceivesU r.con) (h : unconfirmed r log ≠ []) :
    unconfirmed r (log ++ os) ≠ [] := by
  induction os using List.reverseRecOn with
  | nil => simpa using h
  | append_singleton os o ih =>
    have ih := ih fun o' ho' => hos o' (by simp [ho'])
    rw [← List.append_assoc, unconfirmed_concat]
    cases o with
    | tx f now =>
      simp only [unconfirmedStep]
      split
      · simp
      · exact ih
    | rx f now =>
      have hf : ¬apciOf f = some (.u r.con) := hos (.rx f now) (by simp)
      simpa only [unconfirmedStep, if_neg hf] using ih
    | _ => exact ih

namespace Session

variable {cfg : Config} {s₀ s t : Session} {l : Label}

/-- A running station that has not confirmed a stop holds the confirmation back. -/
def Holds (s : Session) : Prop := s.Open → stopState s.log = .held → s.stopConPending = true

theorem Holds.congr (h : s.Holds) (os : List Obs) (hopen : t.Open → s.Open)
    (hpending : s.stopConPending = true → t.stopConPending = true) (hlog : t.log = s.log ++ os)
    (hos : ∀ o ∈ os, ¬o.ReceivesU .stopDtActive) : t.Holds := by
  intro ho hheld
  rw [hlog] at hheld
  exact hpending (h (hopen ho) (held_of_append hos hheld))

private theorem silent {o : Obs} (h : o.rcvdApci = none) (f : UFunction) :
    ∀ o' ∈ [o], ¬o'.ReceivesU f := by
  refine List.forall_mem_singleton.mpr fun h' => ?_
  rw [Obs.ReceivesU, h] at h'
  cases h'

theorem Holds.action (hstop : ∀ f idle now, l = .select (.frame f idle now) →
      apciOf f ≠ some (.u .stopDtActive)) (h : s.Holds) (ha : Action cfg s₀ l s t) : t.Holds := by
  cases ha with
  | quiet hd hlog _ _ _ hphase _ =>
    refine h.congr [] (fun ho => ?_) (fun hp => by rw [hd]; exact hp) (by simpa using hlog) (by simp)
    rcases hphase with hphase | ⟨hopen, -⟩
    · exact fun why => hphase ▸ ho why
    · exact hopen
  | enqueue hconn => exact h.congr [] id id (by simp) (by simp)
  | guard htop =>
    exact h.congr [] (fun _ => Session.open_of_top htop) id (by simp) (by simp)
  | send _ _ hphase _ _ =>
    exact h.congr [_] (fun _ => Session.open_of_waiting hphase) id rfl (silent rfl _)
  | @receive f idle _ _ hl _ _ =>
    exact h.congr [_] id id rfl (List.forall_mem_singleton.mpr (hstop f idle _ hl))
  | @startAct f rest idle _ hs _ _ hf =>
    -- STARTDT act has been taken, so no stop is held
    intro _ hheld
    have hlog : s.log = s₀.log ++ [.rx f idle] := by rw [hs]; rfl
    have hrx : apciOf f = some (.u .startDtActive) := apciOf_of_parse hf
    change stopState (s.log ++ [_] ++ [_]) = .held at hheld
    have hheld' := held_of_append (silent rfl _) (held_of_append (silent rfl _) hheld)
    rw [hlog, stopState_concat, stopStep] at hheld'
    have hnot : ¬(Obs.rx f idle).ReceivesU .stopDtActive := by
      intro h'
      rw [Obs.ReceivesU, Obs.rcvdApci, hrx] at h'
      cases h'
    have hcon : ¬(Obs.rx f idle).SendsU .stopDtConfirm := nofun
    rw [if_neg hnot, if_neg hcon] at hheld'
    split at hheld'
    · cases hheld'
    · next hsup => exact absurd ⟨hrx, hheld'⟩ hsup
  | stopAct => exact fun _ _ => rfl
  -- the confirmation goes out, and with it the stop is no longer held
  | confirmStop =>
    intro _ hheld
    change stopState (s.log ++ [_]) = .held at hheld
    have hsends : (Obs.tx (newUFrame .stopDtConfirm) s.clock).SendsU .stopDtConfirm :=
      apciOf_newUFrame .stopDtConfirm
    rw [stopState_concat, stopStep, if_neg (silent rfl _ _ (List.mem_singleton_self _)),
      if_pos hsends] at hheld
    cases hheld
  | acceptFull =>
    refine h.congr [_, _] id id (List.append_assoc ..) ?_
    simp only [List.mem_cons, List.not_mem_nil, or_false, forall_eq_or_imp, forall_eq]
    exact ⟨nofun, nofun⟩
  | acceptLost => exact fun ho => absurd rfl (ho _)
  | teardown _ why => exact fun ho => absurd rfl (ho why)
  | testCon => exact h.congr [] id id (by simp) (by simp)
  | _ => exact h.congr [_] id id rfl (silent rfl _)

/-- STOPDT act is held, or confirmed at once. -/
theorem holds_of_stopAct (hrole : s.conn.role = .controlled) {f raw : Octets} {idle now : ℕ}
    (hf : parse f = .ok (.u .stopDtActive, raw))
    (h : s.next cfg (.select (.frame f idle now)) = some t) : t.Holds := by
  obtain ⟨-, -, -, ht⟩ := next_frame h
  rw [hf] at ht
  -- the iteration ran through: the request was handled, and then the confirmation tried
  intro hopen hheld
  change t = finish (({ s with clock := now }.takeFrame f idle).onU .stopDtActive now >>=
    confirmStop now) at ht
  subst ht
  obtain ⟨s2, hit, ht⟩ := eq_ok_of_open hopen
  rw [ht] at hheld ⊢
  obtain ⟨s1, hact, hconfirm⟩ := bind_eq_ok.mp hit
  have hpending : s1.stopConPending = true := by
    have hon : ({ s with clock := now }.takeFrame f idle).onU .stopDtActive now =
        ({ s with clock := now }.takeFrame f idle).onStopDtActive now := by
      simp [onU, takeFrame, note, hrole]
    rw [hon] at hact
    obtain ⟨s0, -, h1⟩ := bind_eq_ok.mp hact
    cases h1
    rfl
  unfold confirmStop at hconfirm
  split at hconfirm
  · -- confirmed at once
    rw [txRaw_eq_ok hconfirm] at hheld
    change stopState (s1.log ++ [_]) = .held at hheld
    have hsends : (Obs.tx (newUFrame .stopDtConfirm) now).SendsU .stopDtConfirm :=
      apciOf_newUFrame .stopDtConfirm
    rw [stopState_concat, stopStep, if_neg (silent rfl _ _ (List.mem_singleton_self _)),
      if_pos hsends] at hheld
    cases hheld
  · cases hconfirm
    -- the confirmation waits for the peer
    exact hpending

variable {params : Params} {start : ℕ} {ok : Session → Label → Prop}

theorem holds_of_reach (h : (machine cfg params .controlled start).Reach ok s) : s.Holds := by
  induction h with
  | init => exact fun _ hheld => by cases hheld
  | @step s t l hr _ hn ih =>
    change s.next cfg l = some t at hn
    by_cases hstop : ∃ f idle now, l = .select (.frame f idle now) ∧
        apciOf f = some (.u .stopDtActive)
    · obtain ⟨f, idle, now, rfl, hf⟩ := hstop
      obtain ⟨raw, hf⟩ := apciOf_eq_some hf
      exact holds_of_stopAct (role_of_reach hr) hf hn
    · refine step_of_actions (P := Holds) (fun _ _ => ih) (fun u u' hu ha => hu.action ?_ ha) hn
      exact fun f idle now hl hf => hstop ⟨f, idle, now, hl, hf⟩

/-- A master that times a stop has an unconfirmed one. -/
def TimesStop (s : Session) : Prop :=
  s.stopDtSince.isSome = true → unconfirmed .stopDt s.log ≠ []

theorem TimesStop.congr (h : s.TimesStop) (os : List Obs)
    (hsince : t.stopDtSince.isSome = true → s.stopDtSince.isSome = true)
    (hlog : t.log = s.log ++ os) (hos : ∀ o ∈ os, ¬o.ReceivesU .stopDtConfirm) : t.TimesStop := by
  intro hs
  rw [hlog]
  exact unconfirmed_append_ne_nil hos (h (hsince hs))

theorem TimesStop.action (hstop : ∀ f idle now, l = .select (.frame f idle now) →
      apciOf f ≠ some (.u .stopDtConfirm)) (h : s.TimesStop) (ha : Action cfg s₀ l s t) :
    t.TimesStop := by
  cases ha with
  | quiet hd hlog _ _ _ _ _ =>
    exact h.congr [] (fun hs => by rwa [hd] at hs) (by simpa using hlog) (by simp)
  | stopDt =>
    -- STOPDT act was just sent, so it is unconfirmed
    intro _
    show unconfirmed .stopDt (s.log ++ [_]) ≠ []
    have hact : apciOf (newUFrame .stopDtActive) = some (.u Request.stopDt.act) :=
      apciOf_newUFrame _
    rw [unconfirmed_concat, unconfirmedStep, if_pos hact]
    simp
  | @receive f idle _ _ hl _ _ =>
    exact h.congr [_] id rfl (List.forall_mem_singleton.mpr (hstop f idle _ hl))
  | acceptFull =>
    refine h.congr [_, _] id (List.append_assoc ..) ?_
    simp only [List.mem_cons, List.not_mem_nil, or_false, forall_eq_or_imp, forall_eq]
    constructor <;> intro hconfirm <;> cases hconfirm
  | startAct =>
    refine h.congr [_, _] id (List.append_assoc ..) ?_
    simp only [List.mem_cons, List.not_mem_nil, or_false, forall_eq_or_imp, forall_eq]
    constructor <;> intro hconfirm <;> cases hconfirm
  | stopAct =>
    refine h.congr _ id rfl fun o ho => ?_
    split at ho
    · rw [List.mem_singleton.mp ho]
      intro hconfirm
      cases hconfirm
    · cases ho
  | stopCon =>
    -- the timer is cleared, so there is nothing to show
    intro hsome
    cases hsome
  | acceptLost =>
    intro hsome
    cases hsome
  | teardown =>
    intro hsome
    cases hsome
  | enqueue => exact h.congr [] id (by simp) (by simp)
  | guard => exact h.congr [] id (by simp) (by simp)
  | testCon => exact h.congr [] id (by simp) (by simp)
  | _ => exact h.congr [_] id rfl (silent rfl _)

/-- STOPDT con ends the timing. -/
theorem timesStop_of_stopCon (hrole : s.conn.role = .master) {f raw : Octets} {idle now : ℕ}
    (hf : parse f = .ok (.u .stopDtConfirm, raw))
    (h : s.next cfg (.select (.frame f idle now)) = some t) : t.TimesStop := by
  obtain ⟨-, -, -, ht⟩ := next_frame h
  rw [hf] at ht
  change t = finish (({ s with clock := now }.takeFrame f idle).onU .stopDtConfirm now >>=
    confirmStop now) at ht
  have hnone : t.stopDtSince = none := by
    simp only [onU, takeFrame, note, hrole] at ht
    rw [ht]
    change (finish (confirmStop now _)).stopDtSince = none
    unfold confirmStop txRaw
    split
    · split <;> rfl
    · rfl
  intro hs
  rw [hnone] at hs
  cases hs

theorem timesStop_of_reach (h : (machine cfg params .master start).Reach ok s) : s.TimesStop := by
  induction h with
  | init => exact nofun
  | @step s t l hr _ hn ih =>
    change s.next cfg l = some t at hn
    by_cases hstop : ∃ f idle now, l = .select (.frame f idle now) ∧
        apciOf f = some (.u .stopDtConfirm)
    · obtain ⟨f, idle, now, rfl, hf⟩ := hstop
      obtain ⟨raw, hf⟩ := apciOf_eq_some hf
      exact timesStop_of_stopCon (role_of_reach hr) hf hn
    · refine step_of_actions (P := TimesStop) (fun _ _ => ih) (fun u u' hu ha => hu.action ?_ ha) hn
      exact fun f idle now hl hf => hstop ⟨f, idle, now, hl, hf⟩

end Session

/-! ### The handshake as numbered messages -/

/-- The handshake in what an endpoint observes: the acts are the master's data,
and the confirmations the station's acknowledgements. -/
def stopAct (i : Role) : Obs → Option (Duplex.Act Unit)
  | .tx f _ =>
    if i = .master ∧ apciOf f = some (.u .stopDtActive) then some (.data ())
    else if i = .controlled ∧ apciOf f = some (.u .stopDtConfirm) then some .ack
    else some .ctl
  | .rx f _ =>
    if i = .controlled ∧ apciOf f = some (.u .stopDtActive) then some (.got ()) else none
  | _ => none

/-- The handshake in a history. -/
def stopHist (i : Role) (log : List Obs) : List (Duplex.Act Unit) := log.filterMap (stopAct i)

@[simp] theorem stopHist_append (i : Role) (l₁ l₂ : List Obs) :
    stopHist i (l₁ ++ l₂) = stopHist i l₁ ++ stopHist i l₂ := List.filterMap_append

/-- A frame of endpoint `i` shows a message of the handshake. -/
structure ShowsStop (i : Role) (m : Duplex.Msg Unit) (f : Octets) : Prop where
  act : m.payload.isSome ↔ i = .master ∧ apciOf f = some (.u .stopDtActive)
  con : i = .controlled → (m.acks.isSome ↔ apciOf f = some (.u .stopDtConfirm))

theorem showsStop_wire (i : Role) (log : List Obs) :
    List.Forall₂ (ShowsStop i) (Duplex.msgs (stopHist i log)) (wire log) := by
  refine forall₂_msgs_wire (fun o a hnone ha => ?_) ?_
  · cases o with
    | tx f now => cases hnone
    | rx f now =>
      simp only [stopAct] at ha
      split at ha <;> cases ha
      exact ⟨(), rfl⟩
    | _ => cases ha
  rintro before o after - f now rfl
  by_cases hact : i = .master ∧ apciOf f = some (.u .stopDtActive)
  · refine ⟨.data (), _, if_pos hact, rfl, ⟨by simpa [Duplex.Msg.payload] using hact, fun hi => ?_⟩⟩
    rw [hact.1] at hi
    cases hi
  by_cases hcon : i = .controlled ∧ apciOf f = some (.u .stopDtConfirm)
  · refine ⟨.ack, _, (if_neg hact).trans (if_pos hcon), rfl, ⟨?_, fun _ => ?_⟩⟩
    · simpa [Duplex.Msg.payload] using hact
    · simpa [Duplex.Msg.acks] using hcon.2
  · refine ⟨.ctl, _, (if_neg hact).trans (if_neg hcon), rfl, ⟨?_, fun hi => ?_⟩⟩
    · simpa [Duplex.Msg.payload] using hact
    · simpa [Duplex.Msg.acks, hi] using hcon

/-- Taking no frame, an endpoint receives no act. -/
theorem stopHist_of_rcvdFrame {i : Role} {os : List Obs} (h : ∀ o ∈ os, o.rcvdFrame = none) :
    ∀ a ∈ stopHist i os, ∀ x, a ≠ .got x := by
  intro a ha x hx
  obtain ⟨o, ho, hact⟩ := List.mem_filterMap.mp ha
  subst hx
  have hnone := h o ho
  cases o with
  | rx f now => cases hnone
  | tx f now =>
    simp only [stopAct] at hact
    split_ifs at hact <;> cases hact
  | _ => cases hact

/-- Unconfirmed acts are among those sent. -/
theorem length_unconfirmed_append (log os : List Obs) :
    (unconfirmed .stopDt (log ++ os)).length ≤
      (unconfirmed .stopDt log).length + (Duplex.sent (stopHist .master os)).length := by
  induction os using List.reverseRecOn with
  | nil => simp
  | append_singleton os o ih =>
    rw [← List.append_assoc, unconfirmed_concat, stopHist_append, Duplex.sent_append,
      List.length_append]
    cases o with
    | tx f now =>
      simp only [unconfirmedStep]
      split
      · next hf =>
        have hone : stopHist .master [.tx f now] = [.data ()] := by
          simp [stopHist, stopAct, show apciOf f = some (.u .stopDtActive) from hf]
        rw [hone, List.length_append, List.length_singleton]
        show _ ≤ _ + (_ + 1)
        omega
      · omega
    | rx f now =>
      simp only [unconfirmedStep]
      split
      · simp
      · omega
    | _ => exact ih

/-- A confirmed station has acknowledged every act it received. -/
theorem lastAck_of_stopState {log : List Obs} (h : stopState log = .none ∨ stopState log = .confirmed) :
    Duplex.lastAck (Duplex.msgs (stopHist .controlled log)) =
      (Duplex.got (stopHist .controlled log)).length := by
  induction log using List.reverseRecOn with
  | nil => rfl
  | append_singleton log o ih =>
    rw [stopState_concat, stopStep] at h
    by_cases hrx : o.ReceivesU .stopDtActive
    · rw [if_pos hrx] at h
      -- a STOPDT act as the last entry leaves the stop held
      rcases h with h | h <;> cases h
    rw [if_neg hrx] at h
    by_cases htx : o.SendsU .stopDtConfirm
    · -- the confirmation just sent counts every act received
      cases o with
      | tx f now =>
        have hf : apciOf f = some (.u .stopDtConfirm) := htx
        have hone : stopHist .controlled [.tx f now] = [.ack] := by simp [stopHist, stopAct, hf]
        rw [stopHist_append, hone, Duplex.msgs, Trace.outputs_concat, Duplex.got_append]
        show Duplex.lastAck (Duplex.msgs (stopHist .controlled log) ++
          [.ack (Duplex.got (stopHist .controlled log)).length]) =
            (Duplex.got (stopHist .controlled log) ++ []).length
        rw [Duplex.lastAck_concat, List.append_nil]
        rfl
      | _ => cases htx
    rw [if_neg htx] at h
    have hold : stopState log = .none ∨ stopState log = .confirmed := by
      split_ifs at h with hsup
      · rcases h with h | h <;> cases h
      · exact h
    -- any other entry leaves the state, and shows no message that counts
    have ih := ih hold
    rw [stopHist_append]
    cases o with
    | tx f now =>
      have hf : ¬apciOf f = some (.u .stopDtConfirm) := htx
      have hone : stopHist .controlled [.tx f now] = [.ctl] := by simp [stopHist, stopAct, hf]
      rw [hone, Duplex.msgs, Trace.outputs_concat, Duplex.got_append]
      show Duplex.lastAck (Duplex.msgs (stopHist .controlled log) ++ [.ctl]) =
        (Duplex.got (stopHist .controlled log) ++ []).length
      rw [Duplex.lastAck_concat, List.append_nil]
      exact ih
    | rx f now =>
      have hf : ¬apciOf f = some (.u .stopDtActive) := hrx
      have hone : stopHist .controlled [.rx f now] = [] := by simp [stopHist, stopAct, hf]
      rw [hone, List.append_nil]
      exact ih
    | _ => exact (List.append_nil (stopHist .controlled log)).symm ▸ ih

/-! ### Both ends -/

namespace Link

variable {cfg : Role → Config} {params : Role → Params} {start : Role → ℕ}

/-- An endpoint shows its side of the handshake, and the acts a master still
waits for were sent after those the last confirmation counts. -/
structure ShowsHandshake (i : Role) (p : Port) (e : Duplex.End Unit) : Prop where
  hist : e.hist = stopHist i p.session.log
  taken : e.taken = p.taken
  count : i = .master → (unconfirmed .stopDt p.session.log).length + e.acked ≤
    (Duplex.sent e.hist).length

/-- Both endpoints show the ends of a run. -/
def Handshake (k : Link) : Prop :=
  ∃ e, (Duplex.machine Role.other).Reachable e ∧ ∀ i, ShowsHandshake i (k.port i) (e i)

theorem ShowsHandshake.send {i : Role} {p : Port} {e : Duplex.End Unit} {t : Session}
    {os : List Obs} (h : ShowsHandshake i p e) (hlog : t.log = p.session.log ++ os) :
    ShowsHandshake i ⟨t, p.taken⟩ { e with hist := e.hist ++ stopHist i os } := by
  refine ⟨?_, h.taken, fun hi => ?_⟩
  · show e.hist ++ stopHist i os = stopHist i t.log
    rw [h.hist, hlog, stopHist_append]
  · subst hi
    show (unconfirmed .stopDt t.log).length + e.acked ≤
      (Duplex.sent (e.hist ++ stopHist .master os)).length
    have hle := length_unconfirmed_append p.session.log os
    have hcount := h.count rfl
    rw [hlog, Duplex.sent_append, List.length_append]
    omega

theorem ShowsHandshake.take (idle : ℕ) {i : Role} {s : Session} {n : ℕ} {e : Duplex.End Unit}
    {m : Duplex.Msg Unit} {f : Octets} (h : ShowsHandshake i ⟨s, n⟩ e) (hm : ShowsStop i.other m f)
    (hr : ∀ r, m.acks = some r → r ≤ (Duplex.sent e.hist).length) :
    ShowsHandshake i ⟨{ s with log := s.log ++ [.rx f idle] }, n + 1⟩ (e.take m) := by
  -- the frame carries the act it is taken for at the end of the abstract channel
  have hpayload : stopHist i [.rx f idle] = (m.payload.map Duplex.Act.got).toList := by
    have hact := hm.act
    have hi : i.other = .master ↔ i = .controlled := by cases i <;> simp [Role.other]
    rw [hi] at hact
    by_cases hf : i = .controlled ∧ apciOf f = some (.u .stopDtActive)
    · obtain ⟨x, hx⟩ := Option.isSome_iff_exists.mp (hact.mpr hf)
      simp [stopHist, stopAct, hf, hx]
    · have hx : m.payload = none := by simpa using mt hact.mp hf
      simp [stopHist, stopAct, hf, hx]
  refine ⟨?_, ?_, fun hi => ?_⟩
  · show e.hist ++ _ = stopHist i (s.log ++ [.rx f idle])
    rw [h.hist, stopHist_append, hpayload]
  · show e.taken + 1 = n + 1
    rw [h.taken]
  · subst hi
    -- what is unconfirmed was sent since the last confirmation that arrived
    show (unconfirmed .stopDt (s.log ++ [.rx f idle])).length + m.acks.getD e.acked ≤
      (Duplex.sent (e.hist ++ (m.payload.map Duplex.Act.got).toList)).length
    have hcount : (unconfirmed .stopDt s.log).length + e.acked ≤ _ := h.count rfl
    have hle : (Duplex.sent e.hist).length ≤
        (Duplex.sent (e.hist ++ (m.payload.map Duplex.Act.got).toList)).length := by
      rw [Duplex.sent_append, List.length_append]
      exact Nat.le_add_right _ _
    have hcon := hm.con rfl
    rw [unconfirmed_concat]
    by_cases hf : apciOf f = some (.u .stopDtConfirm)
    · -- nothing sent so far is unconfirmed
      obtain ⟨r, hacks⟩ := Option.isSome_iff_exists.mp (hcon.mpr hf)
      have hrle := hr r hacks
      rw [unconfirmedStep, if_pos (show apciOf f = some (.u Request.stopDt.con) from hf), hacks]
      simpa using hrle.trans hle
    · have hacks : m.acks = none := by simpa using mt hcon.mp hf
      rw [unconfirmedStep, if_neg (show ¬apciOf f = some (.u Request.stopDt.con) from hf), hacks]
      exact hcount.trans hle

theorem Handshake.next {k k' : Link} {l : Role × Label} (h : k.Handshake)
    (hn : k.next cfg l = some k') : k'.Handshake := by
  obtain ⟨i, l⟩ := l
  obtain ⟨e, he, hshow⟩ := h
  obtain ⟨t, ht, hcase⟩ := next_eq_some hn
  rcases hcase with ⟨hl, rfl⟩ | ⟨f, hl, hf, rfl⟩
  · have hframe : ∀ f idle now, l ≠ .select (.frame f idle now) := by
      rintro f idle now rfl
      cases hl
    obtain ⟨os, hlog, hos⟩ := Session.log_of_next hframe ht
    exact ⟨_, Duplex.reach_sends he i (stopHist_of_rcvdFrame hos),
      forall_port_set hshow ((hshow i).send hlog)⟩
  · obtain ⟨idle, now, rfl⟩ := takes_eq_some hl
    obtain ⟨os, hlog, hos⟩ := Session.log_of_next_frame ht
    obtain ⟨m, hm, hshows⟩ := exists_msg (showsStop_wire i.other _) hf
    rw [← (hshow i.other).hist, ← (hshow i).taken] at hm
    have hr : ∀ r, m.acks = some r → r ≤ (Duplex.sent (e i).hist).length := fun r hr =>
      ((Duplex.inv_of_reach Role.other_ne he).acknowledge Role.other_other hm hr).2
    have htake := ShowsHandshake.take idle (hshow i) hshows hr
    have hlog' : t.log = ((k.port i).session.log ++ [.rx f idle]) ++ os := by simpa using hlog
    refine ⟨_, Duplex.reach_sends (Duplex.reach_take he hm) i (stopHist_of_rcvdFrame (i := i) hos), ?_⟩
    rw [Function.update_self, Function.update_idem]
    exact forall_port_set hshow (htake.send hlog')

theorem handshake_of_reach {ok : Link → Role × Label → Prop} {k : Link}
    (h : (machine cfg params start).Reach ok k) : k.Handshake := by
  refine h.invariant (P := Handshake) ⟨_, .init, fun i => ?_⟩ fun _ _ _ hk _ hn => hk.next hn
  cases i <;> exact ⟨rfl, rfl, fun _ => le_rfl⟩

/-- **A stop the master waits for is not lost.**  While the station runs, STOPDT
act is on its way, or its confirmation is held back or on its way, unless the
station has received STARTDT act while it held the confirmation back. -/
theorem stop_handshake {k : Link} (h : (machine cfg params start).Reachable k)
    (hopen : k.controlled.session.Open) (hsince : k.master.session.stopDtSince.isSome = true) :
    (∃ f ∈ k.inFlight .controlled, apciOf f = some (.u .stopDtActive)) ∨
      k.controlled.session.stopConPending = true ∨
      (∃ f ∈ k.inFlight .master, apciOf f = some (.u .stopDtConfirm)) ∨
      stopState k.controlled.session.log = .superseded := by
  by_contra hlost
  push Not at hlost
  obtain ⟨hact, hpending, hcon, hsuperseded⟩ := hlost
  obtain ⟨e, he, hshow⟩ := handshake_of_reach h
  have hinv := Duplex.inv_of_reach Role.other_ne he
  -- the station has received every act
  have hgot : Duplex.got (e .controlled).hist = Duplex.sent (e .master).hist := by
    refine hinv.got_eq_sent (i := .controlled) (List.filterMap_eq_nil_iff.mpr fun m hm => ?_)
    have hrest := List.forall₂_drop (e .controlled).taken (showsStop_wire .master k.master.session.log)
    rw [show stopHist .master k.master.session.log = (e .master).hist from (hshow .master).hist.symm]
      at hrest
    obtain ⟨f, hf, hmf⟩ := exists_of_mem_forall₂ hrest hm
    rw [(hshow .controlled).taken] at hf
    simpa using mt hmf.act.mp fun hf' => hact f hf hf'.2
  -- and the master every confirmation
  have hacked : (e .master).acked = Duplex.lastAck (Duplex.msgs (e .controlled).hist) := by
    refine hinv.acked_eq (i := .master) (List.filterMap_eq_nil_iff.mpr fun m hm => ?_)
    have hrest := List.forall₂_drop (e .master).taken
      (showsStop_wire .controlled k.controlled.session.log)
    rw [show stopHist .controlled k.controlled.session.log = (e .controlled).hist from
      (hshow .controlled).hist.symm] at hrest
    obtain ⟨f, hf, hmf⟩ := exists_of_mem_forall₂ hrest hm
    rw [(hshow .master).taken] at hf
    simpa using mt (hmf.con rfl).mp (hcon f hf)
  have hstate : stopState k.controlled.session.log = .none ∨
      stopState k.controlled.session.log = .confirmed := by
    have hholds := Session.holds_of_reach (reach_session h .controlled) hopen
    cases hst : stopState k.controlled.session.log with
    | none => exact .inl rfl
    | held => exact absurd (hholds hst) hpending
    | confirmed => exact .inr rfl
    | superseded => exact absurd hst hsuperseded
  -- so the last confirmation counts every act, and none is unconfirmed
  have hall := lastAck_of_stopState hstate
  rw [show stopHist .controlled k.controlled.session.log = (e .controlled).hist from
    (hshow .controlled).hist.symm, ← hacked, hgot] at hall
  have hcount := (hshow .master).count rfl
  have hpos := List.length_pos_iff.mpr
    (Session.timesStop_of_reach (reach_session h .master) hsince)
  change (unconfirmed .stopDt k.master.session.log).length + _ ≤ _ at hcount
  have hpos' : 0 < (unconfirmed .stopDt k.master.session.log).length := hpos
  omega

/-- The station has an indication unacknowledged when STOPDT act arrives. -/
def stopWhileUnacked : List (Role × Label) :=
  [(.master, .guard), (.master, .select (.ctrl .startDt 0)),
    (.controlled, .guard), (.controlled, .select (.frame (newUFrame .startDtActive) 1 1)),
    (.controlled, .enqueue (Session.indication 1)), (.controlled, .guard),
    (.controlled, .select (.asdu 2)),
    (.master, .guard), (.master, .select (.ctrl .stopDt 3)),
    (.controlled, .guard), (.controlled, .select (.frame (newUFrame .stopDtActive) 4 4))]

theorem stop_handshake_stopWhileUnacked : ∃ k,
    (machine (fun _ => .default) (fun _ => paramsWide) (fun _ => 0)).run
        (init (fun _ => .default) (fun _ => paramsWide) (fun _ => 0)) stopWhileUnacked = some k ∧
      ((∃ f ∈ k.inFlight .controlled, apciOf f = some (.u .stopDtActive)) ∨
        k.controlled.session.stopConPending = true ∨
        (∃ f ∈ k.inFlight .master, apciOf f = some (.u .stopDtConfirm)) ∨
        stopState k.controlled.session.log = .superseded) := by
  obtain ⟨k, hk, hphase, hsince⟩ : ∃ k,
      (machine (fun _ => .default) (fun _ => paramsWide) (fun _ => 0)).run
        (init (fun _ => .default) (fun _ => paramsWide) (fun _ => 0)) stopWhileUnacked = some k ∧
      k.controlled.session.phase = .top ∧ k.master.session.stopDtSince.isSome = true :=
    ⟨_, rfl, rfl, rfl⟩
  exact ⟨k, hk, stop_handshake (Machine.reach_of_run .init hk)
    (Session.open_of_top hphase) hsince⟩

/-- **STARTDT act supersedes the stop.**  The station forgets the confirmation it
held back, and the master goes on timing it. -/
theorem stop_handshake_superseded : ∃ k : Link,
    (machine (fun _ => .default) (fun _ => paramsWide) (fun _ => 0)).Reachable k ∧
      k.master.session.Open ∧ k.controlled.session.Open ∧
      k.master.session.stopDtSince.isSome = true ∧
      ¬((∃ f ∈ k.inFlight .controlled, apciOf f = some (.u .stopDtActive)) ∨
        k.controlled.session.stopConPending = true ∨
        ∃ f ∈ k.inFlight .master, apciOf f = some (.u .stopDtConfirm)) := by
  obtain ⟨k, hk, hm, hc, hsince, hact, hpending, hcon⟩ : ∃ k,
      (machine (fun _ => .default) (fun _ => paramsWide) (fun _ => 0)).run
        (init (fun _ => .default) (fun _ => paramsWide) (fun _ => 0))
        (stopWhileUnacked ++ [(.master, .guard), (.master, .select (.ctrl .startDt 5)),
          (.controlled, .guard),
          (.controlled, .select (.frame (newUFrame .startDtActive) 6 6))]) = some k ∧
      k.master.session.phase = .top ∧ k.controlled.session.phase = .top ∧
      k.master.session.stopDtSince.isSome = true ∧ k.inFlight .controlled = [] ∧
      k.controlled.session.stopConPending = false ∧
      (k.inFlight .master).map apciOf =
        [some (.u .startDtConfirm), some (.i 0 0), some (.u .startDtConfirm)] :=
    ⟨_, rfl, rfl, rfl, rfl, rfl, rfl, by decide⟩
  refine ⟨k, Machine.reach_of_run .init hk, fun why => by rw [hm]; exact nofun,
    fun why => by rw [hc]; exact nofun, hsince, ?_⟩
  rintro (⟨f, hf, -⟩ | hp | ⟨f, hf, hfcon⟩)
  -- neither the request nor its answer is under way, and the station holds nothing back
  · rw [hact] at hf
    cases hf
  · rw [hpending] at hp
    cases hp
  · have hmem := List.mem_map_of_mem (f := apciOf) hf
    rw [hcon, hfcon] at hmem
    revert hmem
    decide

end Link

end Cs104
end Iec60870
