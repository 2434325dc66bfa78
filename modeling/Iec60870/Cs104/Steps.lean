import Iec60870.Cs104.Connection

/-!
# What a step of a connection can do

Every step of `Session.machine` is a short sequence of elementary actions, one
for each place where the driver changes its variables.  `next_actions` takes the
loop apart once; an invariant then only has to survive each action.

## Main definitions

* `Session.Action` — the elementary actions, each with what the code has checked
  when it takes it.

## Main results

* `Session.next_actions` — **a step is a sequence of actions.**
* `Session.reach_of_actions` — the invariant rule over actions.
-/

namespace Iec60870
namespace Cs104
namespace Session

variable (cfg : Config)

/-- The session `s₀` at the instant of `s`. -/
def At (s₀ s : Session) : Prop := s = { s₀ with clock := s.clock }

/-- The session `s₀` at the instant of `s`, once the frame `f` has been taken. -/
def Taken (s₀ : Session) (f : Octets) (idle : ℕ) (s : Session) : Prop :=
  s = ({ s₀ with clock := s.clock }).takeFrame f idle

/-- The elementary actions taken while handling the label `l` in the state `s₀`.
An action that reads the clock reads `s.clock`. -/
inductive Action (s₀ : Session) (l : Label) : Session → Session → Prop
  /-- Bookkeeping no invariant looks at, and the return to the top of the loop. -/
  | quiet {s s' : Session} (hdriver : s'.toDriver = s.toDriver) (hlog : s'.log = s.log)
      (hrole : s'.conn.role = s.conn.role) (hactive : s'.conn.active = s.conn.active)
      (hqueue : s'.conn.queue <:+ s.conn.queue)
      (hphase : s'.phase = s.phase ∨ (s.Open ∧ s'.phase = .top)) (hclock : s'.clock = s.clock) :
      Action s₀ l s s'
  | enqueue {s : Session} {a : Asdu} {conn : Connection} (h : s.conn.tryEnqueue a = .ok conn) :
      Action s₀ l s { s with conn }
  | demote {s : Session} (hl : l = .demote) :
      Action s₀ l s ({ s with conn := s.conn.demote }.note .demoted)
  | guard {s : Session} (htop : s.phase = .top) :
      Action s₀ l s { s with phase := .waiting (s.maySend cfg) }
  | send {s : Session} {raw frame : Octets} {rest : List Octets} (hs : At s₀ s)
      (hl : l = .select (.asdu s.clock)) (hphase : s.phase = .waiting true)
      (hqueue : s.conn.queue = raw :: rest)
      (hframe : newIFrame s.seqNoSend s.seqNoRcv raw = .ok frame) :
      Action s₀ l s
        ({ s with
          conn := { s.conn with queue := rest }
          ackNoRcv := s.seqNoRcv
          pending := s.pending ++ [(s.seqNoSend, s.clock)]
          seqNoSend := (s.seqNoSend + 1) &&& SEQ_MASK
          phase := .top }.note (.tx frame s.clock))
  | startDt {s : Session} (hopen : s.Open) (hs : At s₀ s)
      (hl : l = .select (.ctrl .startDt s.clock)) :
      Action s₀ l s ({ s with stopping := false, startDtSince := some s.clock }.note
        (.tx (newUFrame .startDtActive) s.clock))
  | stopDt {s : Session} (hopen : s.Open) (hs : At s₀ s)
      (hl : l = .select (.ctrl .stopDt s.clock)) :
      Action s₀ l s ({ s with stopping := true, stopDtSince := some s.clock }.note
        (.tx (newUFrame .stopDtActive) s.clock))
  | receive {s : Session} {f : Octets} {idle : ℕ} (hopen : s.Open) (hs : At s₀ s)
      (hl : l = .select (.frame f idle s.clock)) (hlo : s₀.clock ≤ idle) (hhi : idle ≤ s.clock) :
      Action s₀ l s (s.takeFrame f idle)
  | ack {s : Session} {recvSn ackNoSend : UInt16} {pending : List (UInt16 × ℕ)}
      (hopen : s.Open) (hlt : recvSn.toNat < 32768)
      (h : updateAckNoOut recvSn s.ackNoSend s.seqNoSend s.pending = (true, ackNoSend, pending)) :
      Action s₀ l s ({ s with ackNoSend, pending }.note (.acked recvSn))
  | pack {s : Session} (hopen : s.Open) (a : Asdu) : Action s₀ l s (s.note (.pack a))
  | accept {s : Session} {raw : Octets} (hopen : s.Open)
      (hactive : s.conn.active ∨ s.conn.role = .master)
      (hw : ¬cfg.recvUnackLimitW ≤ seqNoCount s.ackNoRcv ((s.seqNoRcv + 1) &&& SEQ_MASK)) :
      Action s₀ l s (s.accept raw s.clock)
  /-- An accepted I-frame fills the window w, so it is acknowledged at once. -/
  | acceptFull {s : Session} {raw : Octets} (hopen : s.Open)
      (hactive : s.conn.active ∨ s.conn.role = .master) :
      Action s₀ l s
        ({ (s.accept raw s.clock).note (.tx (newSFrame ((s.seqNoRcv + 1) &&& SEQ_MASK)) s.clock)
          with ackNoRcv := (s.seqNoRcv + 1) &&& SEQ_MASK })
  /-- An accepted I-frame fills the window w, but the writer has gone. -/
  | acceptLost {s : Session} {raw : Octets} (hopen : s.Open)
      (hactive : s.conn.active ∨ s.conn.role = .master) :
      Action s₀ l s ((s.accept raw s.clock).teardown .writerStopped)
  | sendS {s : Session} (hopen : s.Open) :
      Action s₀ l s ({ s with ackNoRcv := s.seqNoRcv }.note (.tx (newSFrame s.seqNoRcv) s.clock))
  | startAct {s : Session} {f rest : Octets} {idle : ℕ} (hopen : s.Open)
      (hs : Taken s₀ f idle s) (hrole : s.conn.role = .controlled)
      (hl : l = .select (.frame f idle s.clock)) (hf : parse f = .ok (.u .startDtActive, rest)) :
      Action s₀ l s
        (({ s with stopConPending := false }.note (.tx (newUFrame .startDtConfirm) s.clock)).setActive
          true |>.note .activated)
  | stopAct {s : Session} {f rest : Octets} {idle : ℕ} {after : List Obs} (hopen : s.Open)
      (hlog : s.log = s₀.log ++ .rx f idle :: after)
      (hafter : after = [] ∨ after = [.tx (newSFrame s.seqNoRcv) s.clock])
      (hacked : s.ackNoRcv = s.seqNoRcv) (hrole : s.conn.role = .controlled)
      (hl : l = .select (.frame f idle s.clock)) (hf : parse f = .ok (.u .stopDtActive, rest)) :
      Action s₀ l s { s with
        conn := s.conn.setActive false
        stopConPending := true
        log := s.log ++ if s.conn.active then [.deactivated] else [] }
  | startCon {s : Session} {f rest : Octets} {idle : ℕ} (hopen : s.Open)
      (hs : Taken s₀ f idle s) (hrole : s.conn.role = .master)
      (hl : l = .select (.frame f idle s.clock)) (hf : parse f = .ok (.u .startDtConfirm, rest)) :
      Action s₀ l s ({ s with startDtSince := none }.setActive true |>.note .activated)
  | stopCon {s : Session} {f rest : Octets} {idle : ℕ} (hopen : s.Open)
      (hs : Taken s₀ f idle s) (hrole : s.conn.role = .master)
      (hl : l = .select (.frame f idle s.clock)) (hf : parse f = .ok (.u .stopDtConfirm, rest)) :
      Action s₀ l s
        ({ s with stopping := false, stopDtSince := none }.setActive false |>.note .deactivated)
  | testAct {s : Session} (hopen : s.Open) :
      Action s₀ l s (s.note (.tx (newUFrame .testFrConfirm) s.clock))
  | testCon {s : Session} {f rest : Octets} {idle : ℕ} (hopen : s.Open) (hs : Taken s₀ f idle s)
      (hf : parse f = .ok (.u .testFrConfirm, rest)) : Action s₀ l s { s with testFrSince := none }
  | confirmStop {s : Session} (hopen : s.Open) (hpending : s.stopConPending)
      (hacked : s.ackNoSend = s.seqNoSend) :
      Action s₀ l s
        ({ s with stopConPending := false }.note (.tx (newUFrame .stopDtConfirm) s.clock))
  | keepAlive {s : Session} {now : ℕ} (hopen : s.Open) (hl : l = .select (.tick now s.clock)) :
      Action s₀ l s ({ s with testFrSince := some s.clock, idleSince := s.clock }.note
        (.tx (newUFrame .testFrActive) s.clock))
  | teardown {s : Session} (hopen : s.Open) (why : Reason) : Action s₀ l s (s.teardown why)

/-- Sequences of actions. -/
abbrev Actions (s₀ : Session) (l : Label) : Session → Session → Prop :=
  Relation.ReflTransGen (Action cfg s₀ l)

/-- What a branch leads to is reached by actions, and a branch that does not
leave the loop leaves the loop position to the end of the iteration. -/
def Leads (s₀ : Session) (l : Label) (s : Session) : Iter → Prop
  | .ok s' => Actions cfg s₀ l s s' ∧ s'.phase = s.phase
  | .error (why, s') => Actions cfg s₀ l s (s'.teardown why)

variable {cfg} {s₀ : Session} {l : Label}

namespace Leads

theorem single {s s' : Session} (h : Action cfg s₀ l s s') (hphase : s'.phase = s.phase) :
    Leads cfg s₀ l s (.ok s') := ⟨.single h, hphase⟩

theorem refl (s : Session) : Leads cfg s₀ l s (.ok s) := ⟨.refl, rfl⟩

theorem trans {s s' : Session} {it : Iter} (h : Leads cfg s₀ l s (.ok s')) (h' : Leads cfg s₀ l s' it) :
    Leads cfg s₀ l s it := by
  cases it with
  | ok t => exact ⟨Relation.ReflTransGen.trans h.1 h'.1, h'.2.trans h.2⟩
  | error e => exact Relation.ReflTransGen.trans h.1 h'

/-- Leaving the loop now, or with variables changed that the teardown drops. -/
theorem error {s s' : Session} {why : Reason} (hopen : s.Open)
    (h : s'.teardown why = s.teardown why) : Leads cfg s₀ l s (.error (why, s')) := by
  show Actions cfg s₀ l s (s'.teardown why)
  rw [h]
  exact .single (.teardown hopen why)

theorem bind {s : Session} {it : Iter} {k : Session → Iter} (h : Leads cfg s₀ l s it)
    (hk : ∀ s', it = .ok s' → Leads cfg s₀ l s' (k s')) : Leads cfg s₀ l s (it >>= k) := by
  cases it with
  | ok s' => exact trans h (hk s' rfl)
  | error e => exact h

end Leads

/-! ### The branches -/

theorem txRaw_eq_ok {s s' : Session} {f : Octets} {now : ℕ} (h : s.txRaw f now = .ok s') :
    s' = s.note (.tx f now) := by
  unfold txRaw at h
  split at h <;> cases h
  rfl

/-- A single action that ends in handing a frame to the writer. -/
theorem leads_txRaw {s t : Session} {f : Octets} {now : ℕ}
    (hopen : s.Open) (hact : Action cfg s₀ l s (t.note (.tx f now)))
    (hphase : t.phase = s.phase)
    (hdown : t.teardown .writerStopped = s.teardown .writerStopped) :
    Leads cfg s₀ l s (t.txRaw f now) := by
  unfold txRaw
  split
  · exact .single hact hphase
  · exact .error hopen hdown

theorem leads_sendSFrame {s : Session} (hopen : s.Open) : Leads cfg s₀ l s (s.sendSFrame s.clock) := by
  unfold sendSFrame txRaw
  split
  · exact .single (.sendS hopen) rfl
  · exact .error hopen rfl

theorem leads_onCtrl {s : Session} {c : Ctrl} (hopen : s.Open) (hs : At s₀ s)
    (hl : l = .select (.ctrl c s.clock)) :
    Leads cfg s₀ l s (s.onCtrl c s.clock) := by
  cases c with
  | startDt => exact leads_txRaw hopen (.startDt hopen hs hl) rfl rfl
  | stopDt => exact leads_txRaw hopen (.stopDt hopen hs hl) rfl rfl

theorem leads_onS {s : Session} {recvSn : UInt16} (hopen : s.Open) (hlt : recvSn.toNat < 32768) :
    Leads cfg s₀ l s (s.onS recvSn) := by
  unfold onS
  rcases hu : updateAckNoOut recvSn s.ackNoSend s.seqNoSend s.pending with ⟨ok, ackNoSend, pending⟩
  cases ok with
  | true => exact .single (.ack hopen hlt hu) rfl
  | false => exact .error hopen rfl

theorem leads_dispatch {s : Session} (hopen : s.Open) (raw : Octets) :
    Leads cfg s₀ l s (s.dispatch raw) := by
  unfold dispatch txPack
  split
  · next pack _ =>
    split
    · exact .single (.pack hopen pack) rfl
    · exact .error hopen rfl
  · exact .refl _

theorem leads_accept {s : Session} {raw : Octets} (hopen : s.Open)
    (hactive : s.conn.active ∨ s.conn.role = .master) :
    Leads cfg s₀ l s
      (if cfg.recvUnackLimitW ≤ seqNoCount (s.accept raw s.clock).ackNoRcv
          (s.accept raw s.clock).seqNoRcv then (s.accept raw s.clock).sendSFrame s.clock
        else .ok (s.accept raw s.clock)) := by
  split
  · unfold sendSFrame txRaw
    split
    · exact .single (.acceptFull hopen hactive) rfl
    · exact Relation.ReflTransGen.single (.acceptLost hopen hactive)
  · next hw => exact .single (.accept hopen hactive hw) rfl

/-- `onS` touches only the outbound window and the history. -/
theorem onS_frame {s s' : Session} {recvSn : UInt16} (h : s.onS recvSn = .ok s') :
    s' = { s with ackNoSend := s'.ackNoSend, pending := s'.pending, log := s'.log } := by
  rcases hu : updateAckNoOut recvSn s.ackNoSend s.seqNoSend s.pending with ⟨ok, ackNoSend, pending⟩
  rw [onS, hu] at h
  cases ok <;> cases h
  rfl

/-- `dispatch` touches only the history. -/
theorem dispatch_frame {s s' : Session} {raw : Octets} (h : s.dispatch raw = .ok s') :
    s' = { s with log := s'.log } := by
  unfold dispatch txPack at h
  split at h
  · split at h <;> cases h
    rfl
  · cases h
    rfl

theorem leads_onI {s : Session} {sendSn recvSn : UInt16} {raw : Octets} (hopen : s.Open)
    (hlt : recvSn.toNat < 32768) : Leads cfg s₀ l s (s.onI cfg sendSn recvSn raw s.clock) := by
  unfold onI
  split
  · exact .error hopen rfl
  · next hstopped =>
    have hactive : s.conn.active ∨ s.conn.role = .master := by
      cases hr : s.conn.role <;> simp_all
    refine .bind (leads_onS hopen hlt) fun s1 h1 => ?_
    have e1 := onS_frame h1
    have hopen1 : s1.Open := fun why => by rw [e1]; exact hopen why
    split
    · exact .error hopen1 rfl
    · refine .bind (leads_dispatch hopen1 raw) fun s2 h2 => ?_
      have e2 := dispatch_frame h2
      have hopen2 : s2.Open := fun why => by rw [e2]; exact hopen1 why
      have hclock : s.clock = s2.clock := by rw [e2, e1]
      have hactive2 : s2.conn.active ∨ s2.conn.role = .master := by rw [e2, e1]; exact hactive
      rw [hclock]
      exact leads_accept hopen2 hactive2

/-- STARTDT act at a controlled station. -/
theorem leads_startAct {s : Session} {f rest : Octets} {idle : ℕ} (hopen : s.Open)
    (hs : Taken s₀ f idle s) (hrole : s.conn.role = .controlled) (hl : l = .select (.frame f idle s.clock)) (hf : parse f = .ok (.u .startDtActive, rest)) :
    Leads cfg s₀ l s (s.onU .startDtActive s.clock) := by
  simp only [onU, hrole]
  unfold txRaw
  split
  · exact .single (.startAct hopen hs hrole hl hf) rfl
  · exact .error hopen rfl

/-- STOPDT act at a controlled station. -/
theorem leads_stopAct {s : Session} {f rest : Octets} {idle : ℕ} (hopen : s.Open)
    (hs : Taken s₀ f idle s) (hrole : s.conn.role = .controlled)
    (hl : l = .select (.frame f idle s.clock)) (hf : parse f = .ok (.u .stopDtActive, rest)) :
    Leads cfg s₀ l s (s.onStopDtActive s.clock) := by
  have hlog : s.log = s₀.log ++ [.rx f idle] := by rw [hs]; rfl
  by_cases hack : s.ackNoRcv = s.seqNoRcv
  · have hnone : (s.setActive false).ackReceived s.clock = .ok (s.setActive false) :=
      if_neg (not_not.mpr hack)
    rw [onStopDtActive, hnone]
    exact .single (.stopAct hopen hlog (.inl rfl) hack hrole hl hf) rfl
  · have hsome : (s.setActive false).ackReceived s.clock = (s.setActive false).sendSFrame s.clock :=
      if_pos hack
    rw [onStopDtActive, hsome]
    unfold sendSFrame txRaw
    split
    · -- the S-frame precedes the stop in the history
      have hlog' : s.log ++ [.tx (newSFrame s.seqNoRcv) s.clock] =
          s₀.log ++ .rx f idle :: [.tx (newSFrame s.seqNoRcv) s.clock] := by simp [hlog]
      exact .trans (.single (.sendS hopen) rfl) (.single (.stopAct hopen hlog' (.inr rfl) rfl hrole hl hf) rfl)
    · exact .error hopen rfl

theorem leads_onU {s : Session} {f rest : Octets} {function : UFunction} {idle : ℕ}
    (hopen : s.Open) (hs : Taken s₀ f idle s) (hl : l = .select (.frame f idle s.clock))
    (hf : parse f = .ok (.u function, rest)) : Leads cfg s₀ l s (s.onU function s.clock) := by
  unfold onU
  split
  · next hrole => simpa [onU, hrole] using leads_startAct hopen hs hrole hl hf
  · next hrole => exact leads_stopAct hopen hs hrole hl hf
  · next hrole => exact .single (.startCon hopen hs hrole hl hf) rfl
  · next hrole => exact .single (.stopCon hopen hs hrole hl hf) rfl
  · exact leads_txRaw hopen (.testAct hopen) rfl rfl
  · exact .single (.testCon hopen hs hf) rfl
  · exact .refl _

theorem leads_confirmStop {s : Session} (hopen : s.Open) : Leads cfg s₀ l s (s.confirmStop s.clock) := by
  unfold confirmStop
  split
  · next h => exact leads_txRaw hopen (.confirmStop hopen h.1 h.2) rfl rfl
  · exact .refl _

/-- Actions read the clock, they do not set it. -/
theorem Action.clock_eq {s s' : Session} (h : Action cfg s₀ l s s') : s'.clock = s.clock := by
  cases h
  case quiet hclock => exact hclock
  all_goals rfl

theorem Actions.clock_eq {s s' : Session} (h : Actions cfg s₀ l s s') : s'.clock = s.clock := by
  induction h with
  | refl => rfl
  | tail _ h ih => exact h.clock_eq.trans ih

theorem Leads.clock_eq {s s' : Session} {it : Iter} (h : Leads cfg s₀ l s it) (hit : it = .ok s') :
    s'.clock = s.clock := by
  subst hit
  exact Actions.clock_eq h.1

theorem Leads.open_of_ok {s s' : Session} {it : Iter} (h : Leads cfg s₀ l s it) (hit : it = .ok s')
    (hopen : s.Open) : s'.Open := by
  subst hit
  exact fun why => h.2 ▸ hopen why

theorem leads_onApci {s : Session} {f raw : Octets} {apci : Apci} {idle : ℕ}
    (hopen : s.Open) (hs : Taken s₀ f idle s) (hl : l = .select (.frame f idle s.clock))
    (hf : parse f = .ok (apci, raw)) : Leads cfg s₀ l s (s.onApci cfg apci raw s.clock) := by
  cases apci with
  | s recvSn => exact leads_onS hopen (parse_s_lt hf)
  | i sendSn recvSn => exact leads_onI hopen (parse_i_lt hf).2
  | u function => exact leads_onU hopen hs hl hf

/-- A well-formed frame, once it has been taken. -/
theorem leads_taken {s : Session} {f raw : Octets} {apci : Apci} {idle : ℕ}
    (hopen : s.Open) (hs : Taken s₀ f idle s) (hl : l = .select (.frame f idle s.clock))
    (hf : parse f = .ok (apci, raw)) :
    Leads cfg s₀ l s (s.onApci cfg apci raw s.clock >>= confirmStop s.clock) := by
  have hbody : Leads cfg s₀ l s (s.onApci cfg apci raw s.clock) := leads_onApci hopen hs hl hf
  refine .bind hbody fun s' hs' => ?_
  rw [← show s'.clock = s.clock from hbody.clock_eq hs']
  exact leads_confirmStop (hbody.open_of_ok hs' hopen)

theorem leads_onFrame {s : Session} {f : Octets} {idle : ℕ} (hopen : s.Open) (hs : At s₀ s)
    (hl : l = .select (.frame f idle s.clock)) (hlo : s₀.clock ≤ idle) (hhi : idle ≤ s.clock) :
    Leads cfg s₀ l s (s.onFrame cfg f idle s.clock) := by
  have htake : Leads cfg s₀ l s (.ok (s.takeFrame f idle)) :=
    .single (.receive hopen hs hl hlo hhi) rfl
  have htaken : Taken s₀ f idle (s.takeFrame f idle) := congrArg (takeFrame f idle) hs
  unfold onFrame
  split
  · exact htake
  · next apci raw hf =>
    have hbody : Leads cfg s₀ l (s.takeFrame f idle)
        ((s.takeFrame f idle).onApci cfg apci raw s.clock >>= confirmStop s.clock) :=
      leads_taken hopen htaken hl hf
    exact .trans htake hbody

theorem leads_onT3 {s : Session} {now : ℕ} (hopen : s.Open) (hl : l = .select (.tick now s.clock)) :
    Leads cfg s₀ l s (s.onT3 cfg now s.clock) := by
  unfold onT3 txRaw
  split
  · split
    · exact .single (.keepAlive hopen hl) rfl
    · exact .error hopen rfl
  · exact .refl _

theorem leads_onTick {s : Session} {now : ℕ} (hopen : s.Open) (hl : l = .select (.tick now s.clock)) :
    Leads cfg s₀ l s (s.onTick cfg now s.clock) := by
  unfold onTick
  split_ifs
  · exact .error hopen rfl
  · exact .error hopen rfl
  · have h2 : Leads cfg s₀ l s (s.onT2 cfg now s.clock) := by
      unfold onT2
      split
      · exact leads_sendSFrame hopen
      · exact .refl _
    refine .bind h2 fun s' hs' => ?_
    rw [← h2.clock_eq hs']
    exact leads_onT3 (h2.open_of_ok hs' hopen) ((h2.clock_eq hs').symm ▸ hl)

/-- The queue branch, up to the end of the iteration. -/
theorem actions_onAsdu {s : Session} {raw : Octets} {rest : List Octets} (hs : At s₀ s)
    (hl : l = .select (.asdu s.clock)) (hphase : s.phase = .waiting true) (hqueue : s.conn.queue = raw :: rest) :
    Actions cfg s₀ l s
      (finish ({ s with conn := { s.conn with queue := rest } }.onAsdu raw s.clock)) := by
  have hopen : s.Open := Session.open_of_waiting hphase
  unfold onAsdu
  split
  · refine .single (.quiet rfl rfl rfl rfl ?_ (.inr ⟨hopen, rfl⟩) rfl)
    exact hqueue ▸ List.suffix_cons raw rest
  · next frame hframe =>
    unfold txRaw
    split
    · exact .single (.send hs hl hphase hqueue hframe)
    · have hpop : Action cfg s₀ l s { s with conn := { s.conn with queue := rest } } :=
        .quiet rfl rfl rfl rfl (hqueue ▸ List.suffix_cons raw rest) (.inl rfl) rfl
      have hopen' : { s with conn := { s.conn with queue := rest } }.Open := hopen
      exact .tail (.single hpop) (.teardown hopen' .writerStopped)

/-- The end of an iteration. -/
theorem actions_finish {s : Session} {it : Iter} (hopen : s.Open) (h : Leads cfg s₀ l s it) :
    Actions cfg s₀ l s (finish it) := by
  cases it with
  | ok s' =>
    have hopen' : s'.Open := fun why => h.2 ▸ hopen why
    exact .tail h.1 (.quiet rfl rfl rfl rfl List.suffix_rfl (.inr ⟨hopen', rfl⟩) rfl)
  | error e => exact h

/-- A branch, up to the end of the iteration, with the clock at its last reading. -/
theorem actions_iterate {s : Session} {g : Bool} {ev : Event} (hphase : s.phase = .waiting g)
    (hl : l = .select ev) (hready : s.ready g ev) :
    Actions cfg s l { s with clock := s.lastReading ev }
      (finish ({ s with clock := s.lastReading ev }.iterate cfg ev)) := by
  have hopen : ∀ c, { s with clock := c }.Open := fun c why => by
    show s.phase ≠ _
    rw [hphase]
    exact nofun
  have hat : ∀ c, At s { s with clock := c } := fun c => rfl
  cases ev with
  | shutdown => exact .single (.teardown (hopen _) .shutdown)
  | eof => exact .single (.teardown (hopen _) .peerClosed)
  | asdu now =>
    simp only [ready, Bool.and_eq_true] at hready
    rcases hqueue : s.conn.queue with _ | ⟨raw, rest⟩
    · simp only [iterate, hqueue]
      exact actions_finish (hopen _) (.refl _)
    · simp only [iterate, hqueue]
      exact actions_onAsdu (hat now) hl (hready.1.1 ▸ hphase) hqueue
  | ctrl c now => exact actions_finish (hopen _) (leads_onCtrl (hopen _) (hat now) hl)
  | frame f idle now =>
    simp only [ready, Bool.and_eq_true, decide_eq_true_eq] at hready
    exact actions_finish (hopen _) (leads_onFrame (hopen _) (hat now) hl hready.1 hready.2)
  | tick now clock =>
    exact actions_finish (hopen _) (leads_onTick (s := { s with clock := clock }) (hopen _) hl)

/-- An enabled branch reads no instant earlier than the last one read. -/
theorem clock_le_lastReading {s : Session} {g : Bool} {ev : Event} (h : s.ready g ev) :
    s.clock ≤ s.lastReading ev := by
  cases ev <;> simp [ready, lastReading] at h ⊢ <;> omega

/-- A step outside the driver that leaves everything an action looks at. -/
theorem actions_quiet {s t : Session} (hd : t.toDriver = s.toDriver) (hlog : t.log = s.log)
    (hc : t.conn = s.conn) (hp : t.phase = s.phase) (hclock : t.clock = s.clock) :
    ∃ c, s.clock ≤ c ∧ Actions cfg s l { s with clock := c } t :=
  ⟨s.clock, le_rfl, .single (.quiet hd hlog (by rw [hc]) (by rw [hc])
    (hc ▸ List.suffix_rfl) (.inl hp) hclock)⟩

/-- **A step is a sequence of actions.**  The clock is set first. -/
theorem next_actions {s t : Session} (h : s.next cfg l = some t) :
    ∃ c, s.clock ≤ c ∧ Actions cfg s l { s with clock := c } t := by
  cases l with
  | enqueue a =>
    simp only [next] at h
    -- a refused ASDU leaves the session as it was
    split at h <;> cases h
    · next conn hconn => exact ⟨s.clock, le_rfl, .single (.enqueue hconn)⟩
    · exact actions_quiet rfl rfl rfl rfl rfl
  | demote =>
    cases h
    exact ⟨s.clock, le_rfl, .single (.demote rfl)⟩
  -- a task that ends changes nothing the driver has seen
  | stopWriter =>
    cases h
    exact actions_quiet rfl rfl rfl rfl rfl
  | stopDispatcher =>
    cases h
    exact actions_quiet rfl rfl rfl rfl rfl
  | guard =>
    simp only [next] at h
    split at h <;> cases h
    next htop => exact ⟨s.clock, le_rfl, .single (.guard htop)⟩
  | select ev =>
    simp only [next] at h
    split at h
    · next g hphase =>
      split at h <;> cases h
      -- an iteration reads the clock at its event; the actions follow at that reading
      next hready =>
        exact ⟨s.lastReading ev, clock_le_lastReading hready, actions_iterate hphase rfl hready⟩
    · cases h

/-- What time and every action keep, a step keeps. -/
theorem step_of_actions {P : Session → Prop} {s t : Session}
    (hclock : ∀ c, s.clock ≤ c → P { s with clock := c })
    (haction : ∀ u u', P u → Action cfg s l u u' → P u') (h : s.next cfg l = some t) : P t := by
  obtain ⟨c, hc, hacts⟩ := next_actions h
  clear h
  induction hacts with
  | refl => exact hclock c hc
  | tail _ hact ih => exact haction _ _ ih hact

/-- **The invariant rule over actions.**  What holds at the start and is kept by
time and by every action holds in every state reached. -/
theorem reach_of_actions {params : Params} {role : Role} {start : ℕ}
    {ok : Session → Label → Prop} {P : Session → Prop}
    (h0 : P (init cfg params role start))
    (hclock : ∀ s c, P s → s.clock ≤ c → P { s with clock := c })
    (haction : ∀ s l u u', P s → ok s l → P u → Action cfg s l u u' → P u')
    {s : Session} (h : (machine cfg params role start).Reach ok s) : P s :=
  h.invariant (P := P) h0 fun s l _ hs hok (hn : s.next cfg l = some _) =>
    step_of_actions (fun c hc => hclock s c hs hc) (fun u u' hu ha => haction s l u u' hs hok hu ha) hn

end Session
end Cs104
end Iec60870
