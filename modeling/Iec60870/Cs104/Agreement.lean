import Iec60870.Cs104.Acknowledge
import Iec60870.Cs104.Link
import Iec60870.Cs104.Window
import Iec60870.Lib.Duplex

/-!
# Two endpoints agree on what was sent

The frames an endpoint hands to its writer show, modulo `2 ^ 15`, the messages
its history gives out when the numbers are unbounded.  So the two endpoints
simulate two ends that check nothing, and there the checks could not fail.

## Main definitions

* `hist` — the sends and receptions in the history of a connection.
* `Encodes` — a frame shows a message.
* `Link.Shows` — an endpoint shows an end.

## Main results

* `encodes_wire` — the frames of a connection show the messages of its history.
* `Link.simulates` — every reachable link shows a reachable pair of ends.
* `Link.agreement` — **no sequence error, and nothing lost, repeated or reordered.**
-/

namespace Iec60870
namespace Cs104

/-! ### Messages and frames -/

/-- What a transmitted or accepted frame is in the unbounded protocol. -/
def Obs.act : Obs → Option (Duplex.Act Octets)
  | .tx f _ =>
    match parse f with
    | .ok (.i _ _, raw) => some (.data raw)
    | .ok (.s _, _) => some .ack
    | _ => some .ctl
  | .accepted raw _ => some (.got raw)
  | _ => none

/-- The sends and receptions in a history, oldest first: what one end of the queue
protocol has done, read off the log of its driver. -/
def hist (log : List Obs) : List (Duplex.Act Octets) := log.filterMap Obs.act

@[simp] theorem hist_append (l₁ l₂ : List Obs) : hist (l₁ ++ l₂) = hist l₁ ++ hist l₂ :=
  List.filterMap_append

theorem sent_hist (log : List Obs) : Duplex.sent (hist log) = (sentI log).map Prod.fst := by
  rw [Duplex.sent, hist, sentI, List.filterMap_filterMap, List.map_filterMap]
  congr 1
  funext o
  cases o with
  | tx f now =>
    simp only [Obs.act, Obs.iSent]
    split <;> simp_all
  | _ => rfl

theorem got_hist (log : List Obs) : Duplex.got (hist log) = (accepted log).map Prod.fst := by
  rw [Duplex.got, hist, accepted, List.filterMap_filterMap, List.map_filterMap]
  congr 1
  funext o
  cases o with
  | tx f now =>
    simp only [Obs.act, Obs.iAccepted]
    split <;> simp_all
  | _ => rfl

/-- A frame shows a message: the numbers are wrapped, the data is the same. -/
inductive Encodes : Duplex.Msg Octets → Octets → Prop
  | data {f raw : Octets} {n r : ℕ} {sn rn : UInt16} (hf : parse f = .ok (.i sn rn, raw))
      (hsn : sn.toNat = n % 32768) (hrn : rn.toNat = r % 32768) : Encodes (.data n raw r) f
  | ack {f raw : Octets} {r : ℕ} {rn : UInt16} (hf : parse f = .ok (.s rn, raw))
      (hrn : rn.toNat = r % 32768) : Encodes (.ack r) f
  | ctl {f : Octets} (hf : ∀ a raw, parse f = .ok (a, raw) → ∃ u, a = .u u) : Encodes .ctl f

/-- **The frames of a connection show the messages of its history.** -/
theorem encodes_wire {log : List Obs} (hI : NumberedI log) (hS : Numbered log) :
    List.Forall₂ Encodes (Duplex.msgs (hist log)) (wire log) := by
  -- a frame shows the message that was noted when it was sent; the invariants of both directions
  -- give its two numbers
  refine forall₂_msgs_wire (fun o a hnone ha => ?_) ?_
  · cases o with
    | tx f now => cases hnone
    | accepted raw now =>
      cases ha
      exact ⟨raw, rfl⟩
    | _ => cases ha
  rintro before o after rfl f now rfl
  have hIo := hI before (.tx f now) after rfl
  have hSo := hS before (.tx f now) after rfl
  have hsent : (Duplex.sent (hist before)).length = (sentI before).length := by
    rw [sent_hist, List.length_map]
  have hgot : (Duplex.got (hist before)).length = (accepted before).length := by
    rw [got_hist, List.length_map]
  rcases hp : parse f with e | ⟨c, raw⟩
  · refine ⟨.ctl, .ctl, by simp [Obs.act, hp], rfl, .ctl fun a raw h => ?_⟩
    rw [hp] at h
    cases h
  · have hapci : apciOf f = some c := apciOf_of_parse hp
    cases c with
    -- an I-frame: its send number counts the data sent before it, its receive number the data
    -- accepted
    | i sn rn =>
      refine ⟨.data raw, _, by simp [Obs.act, hp], rfl, .data hp ?_ ?_⟩
      · show sn.toNat = (Duplex.sent (hist before)).length % 32768
        rw [hsent]
        exact hIo sn rn hapci
      · show rn.toNat = (Duplex.got (hist before)).length % 32768
        rw [hgot]
        exact hSo rn (by simp [Obs.recvSn, Obs.sentApci, hapci])
    | s rn =>
      refine ⟨.ack, _, by simp [Obs.act, hp], rfl, .ack hp ?_⟩
      show rn.toNat = (Duplex.got (hist before)).length % 32768
      rw [hgot]
      exact hSo rn (by simp [Obs.recvSn, Obs.sentApci, hapci])
    -- U-frames and what does not parse carry no number
    | u u =>
      refine ⟨.ctl, .ctl, by simp [Obs.act, hp], rfl, .ctl fun a raw' h => ?_⟩
      rw [hp] at h
      cases h
      exact ⟨u, rfl⟩

/-! ### What a branch does on its own -/

/-- The entries a driver makes without a frame of the peer: neither an I-frame it
has accepted nor an acknowledgement it has applied. -/
def Obs.Own : Obs → Prop
  | .accepted _ _ => False
  | .acked _ => False
  | _ => True

/-- The acts of a history that takes nothing from the peer are no receptions. -/
theorem hist_own {os : List Obs} (h : ∀ o ∈ os, o.Own) : ∀ a ∈ hist os, ∀ x, a ≠ .got x := by
  intro a ha x hx
  obtain ⟨o, ho, hact⟩ := List.mem_filterMap.mp ha
  subst hx
  cases o with
  | accepted raw now => exact h _ ho
  | tx f now =>
    simp only [Obs.act] at hact
    split at hact <;> cases hact
  | _ => cases hact

theorem acked_ledger_own (log : List Obs) {os : List Obs} (h : ∀ o ∈ os, o.Own) :
    (ledger (log ++ os)).acked = (ledger log).acked := by
  induction os using List.reverseRecOn with
  | nil => rw [List.append_nil]
  | append_singleton os o ih =>
    rw [← List.append_assoc, ledger_concat, ← ih fun o' ho' => h o' (by simp [ho'])]
    have ho := h o (by simp)
    cases o with
    | acked r => exact ho.elim
    | _ => rfl

namespace Session

variable {cfg : Config} {s t : Session}

/-- The connection was not closed over a sequence number. -/
def Agreed (s : Session) : Prop :=
  s.phase ≠ .closed .ackOutOfWindow ∧ s.phase ≠ .closed .outOfSequence

/-- Nothing is taken from the peer, nor complained about. -/
def Plain (s t : Session) : Prop :=
  (∃ os, t.log = s.log ++ os ∧ ∀ o ∈ os, o.Own) ∧ (s.Agreed → t.Agreed)

theorem Plain.refl (s : Session) : s.Plain s := ⟨⟨[], by simp, by simp⟩, id⟩

theorem Plain.trans {u : Session} (h : s.Plain t) (h' : t.Plain u) : s.Plain u := by
  obtain ⟨⟨os, hlog, hos⟩, ha⟩ := h
  obtain ⟨⟨os', hlog', hos'⟩, ha'⟩ := h'
  refine ⟨⟨os ++ os', by rw [hlog', hlog, List.append_assoc], fun o ho => ?_⟩, ha' ∘ ha⟩
  rcases List.mem_append.mp ho with ho | ho
  · exact hos o ho
  · exact hos' o ho

/-- A branch that is `Plain` however it ends. -/
def PlainIter (s : Session) : Iter → Prop
  | .ok t => s.Plain t
  | .error (why, t) => s.Plain t ∧ why ≠ .ackOutOfWindow ∧ why ≠ .outOfSequence

theorem PlainIter.bind {it : Iter} {k : Session → Iter} (h : s.PlainIter it)
    (hk : ∀ t, it = .ok t → t.PlainIter (k t)) : s.PlainIter (it >>= k) := by
  rcases it with ⟨why, t⟩ | t
  · exact h
  · have hk := hk t rfl
    change s.PlainIter (k t)
    rcases hkt : k t with ⟨why, u⟩ | u
    · rw [hkt] at hk
      exact ⟨h.trans hk.1, hk.2⟩
    · rw [hkt] at hk
      exact h.trans hk

theorem PlainIter.finish {it : Iter} (h : s.PlainIter it) : s.Plain (finish it) := by
  rcases it with ⟨why, t⟩ | t
  · obtain ⟨⟨hlog, ha⟩, h1, h2⟩ := h
    refine ⟨hlog, fun _ => ⟨fun hp => ?_, fun hp => ?_⟩⟩
    · cases hp
      exact h1 rfl
    · cases hp
      exact h2 rfl
  · exact ⟨h.1, fun _ => ⟨nofun, nofun⟩⟩

/-- Changing only variables, and adding to the history. -/
theorem plain_of (os : List Obs) (hlog : t.log = s.log ++ os) (hphase : t.phase = s.phase)
    (hos : ∀ o ∈ os, o.Own) : s.Plain t := by
  refine ⟨⟨os, hlog, hos⟩, fun ha => ?_⟩
  rw [Agreed, hphase]
  exact ha

theorem plain_txRaw {f : Octets} {now : ℕ} (hlog : t.log = s.log) (hphase : t.phase = s.phase) :
    s.PlainIter (t.txRaw f now) := by
  unfold txRaw
  split
  · refine plain_of [.tx f now] ?_ hphase (by simp [Obs.Own])
    rw [← hlog]
    rfl
  · exact ⟨plain_of [] (by rw [hlog, List.append_nil]) hphase (by simp), nofun, nofun⟩

theorem plain_sendSFrame {now : ℕ} : s.PlainIter (s.sendSFrame now) := by
  refine (plain_txRaw rfl rfl).bind fun t _ => ?_
  exact plain_of [] (List.append_nil _).symm rfl (by simp)

theorem plain_onAsdu {raw : Octets} {now : ℕ} (hlog : t.log = s.log) (hphase : t.phase = s.phase) :
    s.PlainIter (t.onAsdu raw now) := by
  unfold onAsdu
  split
  · exact plain_of [] (by rw [hlog, List.append_nil]) hphase (by simp)
  · exact plain_txRaw hlog hphase

theorem plain_onCtrl {c : Ctrl} {now : ℕ} : s.PlainIter (s.onCtrl c now) := by
  cases c with
  | startDt => exact plain_txRaw rfl rfl
  | stopDt => exact plain_txRaw rfl rfl

theorem plain_onU {u : UFunction} {now : ℕ} : s.PlainIter (s.onU u now) := by
  unfold onU
  split
  · refine (plain_txRaw rfl rfl).bind fun t _ => ?_
    exact plain_of [_] rfl rfl (by simp [Obs.Own])
  · have hack : s.PlainIter ((s.setActive false).ackReceived now) := by
      unfold ackReceived
      split
      · exact plain_sendSFrame (s := s.setActive false)
      · exact plain_of [] (List.append_nil _).symm rfl (by simp)
    refine hack.bind fun t _ => ?_
    refine plain_of _ rfl rfl fun o ho => ?_
    split at ho
    · rw [List.mem_singleton.mp ho]
      trivial
    · cases ho
  · exact plain_of [_] rfl rfl (by simp [Obs.Own])
  · exact plain_of [_] rfl rfl (by simp [Obs.Own])
  · exact plain_txRaw rfl rfl
  · exact plain_of [] (List.append_nil _).symm rfl (by simp)
  · exact .refl s

theorem plain_confirmStop {now : ℕ} : s.PlainIter (s.confirmStop now) := by
  unfold confirmStop
  split
  · exact plain_txRaw rfl rfl
  · exact .refl s

theorem plain_onTick {now clock : ℕ} : s.PlainIter (s.onTick cfg now clock) := by
  unfold onTick
  split_ifs
  · exact ⟨.refl s, nofun, nofun⟩
  · exact ⟨.refl s, nofun, nofun⟩
  · have h2 : s.PlainIter (s.onT2 cfg now clock) := by
      unfold onT2
      split
      · exact plain_sendSFrame
      · exact .refl s
    refine h2.bind fun t _ => ?_
    unfold onT3
    split
    · refine (plain_txRaw rfl rfl).bind fun u _ => ?_
      exact plain_of [] (List.append_nil _).symm rfl (by simp)
    · exact .refl t

theorem plain_iterate {ev : Event} (hev : Link.takes (.select ev) = none) :
    s.PlainIter (s.iterate cfg ev) := by
  cases ev with
  | shutdown => exact ⟨.refl s, nofun, nofun⟩
  | eof => exact ⟨.refl s, nofun, nofun⟩
  | asdu now =>
    rcases hqueue : s.conn.queue with _ | ⟨raw, rest⟩
    · simp only [iterate, hqueue]
      exact .refl s
    · simp only [iterate, hqueue]
      exact plain_onAsdu rfl rfl
  | ctrl c now => exact plain_onCtrl
  | frame f idle now => cases hev
  | tick now clock => exact plain_onTick

/-- **A step that takes no frame is plain.** -/
theorem plain_next {l : Label} (hl : Link.takes l = none) (h : s.next cfg l = some t) :
    s.Plain t := by
  cases l with
  | enqueue a =>
    simp only [next] at h
    split at h <;> cases h
    · exact plain_of [] (List.append_nil _).symm rfl (by simp)
    · exact .refl s
  | demote =>
    cases h
    exact plain_of [_] rfl rfl (by simp [Obs.Own])
  | stopWriter =>
    cases h
    exact plain_of [] (List.append_nil _).symm rfl (by simp)
  | stopDispatcher =>
    cases h
    exact plain_of [] (List.append_nil _).symm rfl (by simp)
  | guard =>
    simp only [next] at h
    split at h <;> cases h
    refine ⟨⟨[], (List.append_nil _).symm, by simp⟩, fun _ => ?_⟩
    constructor <;> intro hclosed <;> cases hclosed
  | select ev =>
    obtain ⟨g, hphase, hready, rfl⟩ := next_select h
    have hclock : s.Plain { s with clock := s.lastReading ev } :=
      plain_of [] (List.append_nil _).symm rfl (by simp)
    exact hclock.trans (plain_iterate hl).finish

/-! ### What a branch takes from the peer -/

/-- The message was taken, and what followed is plain; or the connection was
closed before its data was accepted. -/
def Took (m : Duplex.Msg Octets) (s t : Session) : Prop :=
  t.Agreed ∧
    (¬t.Open ∧ hist t.log = hist s.log ∨
      ∃ u : Session, hist u.log = hist s.log ++ (m.payload.map Duplex.Act.got).toList ∧
        (ledger u.log).acked = m.acks.getD (ledger s.log).acked ∧ u.Plain t)

theorem Took.of_plain {m : Duplex.Msg Octets} {u : Session} {it : Iter}
    (hh : hist u.log = hist s.log ++ (m.payload.map Duplex.Act.got).toList)
    (ha : (ledger u.log).acked = m.acks.getD (ledger s.log).acked) (hu : u.Open)
    (hit : u.PlainIter it) : Took m s (finish it) :=
  ⟨hit.finish.2 ⟨hu _, hu _⟩, .inr ⟨u, hh, ha, hit.finish⟩⟩

/-- An acknowledgement between what is acknowledged and what was sent is inside
the window. -/
theorem onS_expected (hk : cfg.sendUnackLimitK.toNat ≤ 32767) (h : s.SendInv cfg) (hopen : s.Open)
    {rn : UInt16} {r : ℕ} (hlt : rn.toNat < 32768) (hrn : rn.toNat = r % 32768)
    (hlo : (ledger s.log).acked ≤ r) (hhi : r ≤ (ledger s.log).sent) :
    ∃ ackNoSend pending, s.onS rn = .ok ({ s with ackNoSend, pending }.note (.acked rn)) ∧
      (ledger (s.log ++ [.acked rn])).acked = r := by
  obtain ⟨-, m, n, hw, hl⟩ := h
  have hledger := (hl hopen).ledger
  have hlen := hw.len
  rw [hledger] at hlo hhi
  simp only at hlo hhi
  refine ⟨rn, s.pending.drop (r - m), ?_, ?_⟩
  · rcases updateAckNoOut_spec hw.ack hw.seq hw.le (by omega) hw.nums hlt with
      ⟨i, hmi, hin, hi, hu⟩ | ⟨hno, -⟩
    · have hri : r = i := Cyclic.eq_of_mod_eq hlo hhi hmi hin (M := 32768) (by omega) (hrn ▸ hi)
      rw [onS, hu, hri]
      rfl
    · exact absurd hrn (hno r hlo hhi)
  · rw [ledger_concat, hledger]
    show n - Cyclic.dist 32768 rn.toNat (n % 32768) = r
    rw [hrn, Cyclic.dist_mod hhi (by omega)]
    omega

theorem took_onS (hk : cfg.sendUnackLimitK.toNat ≤ 32767) (h : s.SendInv cfg) (hopen : s.Open)
    {rn : UInt16} {r now : ℕ} (hlt : rn.toNat < 32768) (hrn : rn.toNat = r % 32768)
    (hlo : (ledger s.log).acked ≤ r) (hhi : r ≤ (ledger s.log).sent) :
    Took (.ack r) s (finish (s.onS rn >>= confirmStop now)) := by
  obtain ⟨ackNoSend, pending, hon, hacked⟩ := onS_expected hk h hopen hlt hrn hlo hhi
  rw [hon]
  refine Took.of_plain (u := { s with ackNoSend, pending }.note (.acked rn)) ?_ hacked hopen
    plain_confirmStop
  show hist (s.log ++ [_]) = _
  rw [hist_append]
  rfl

theorem dispatch_cases (s : Session) (raw : Octets) :
    (∃ os, s.dispatch raw = .ok { s with log := s.log ++ os } ∧ hist os = [] ∧ ∀ o ∈ os, o.Own) ∨
      s.dispatch raw = .error (.dispatcherStopped, s) := by
  unfold dispatch txPack
  split
  · next pack _ =>
    split
    · exact .inl ⟨[.pack pack], rfl, rfl, by simp [Obs.Own]⟩
    · exact .inr rfl
  · exact .inl ⟨[], by rw [List.append_nil], rfl, by simp⟩

theorem took_onI (hcfg : cfg.InRange) (hS : s.SendInv cfg) (hR : s.RecvInv cfg) (hopen : s.Open)
    {sn rn : UInt16} {raw : Octets} {n r now : ℕ} (hlt : rn.toNat < 32768) (hsn : sn.toNat = n % 32768) (hrn : rn.toNat = r % 32768)
    (hn : n = (accepted s.log).length) (hlo : (ledger s.log).acked ≤ r)
    (hhi : r ≤ (ledger s.log).sent) :
    Took (.data n raw r) s (finish (s.onI cfg sn rn raw now >>= confirmStop now)) := by
  -- a stopped controlled station closes the connection on an I-frame
  by_cases hstopped : !s.conn.active ∧ s.conn.role = .controlled
  · rw [onI, if_pos hstopped]
    exact ⟨⟨nofun, nofun⟩, .inl ⟨not_open_teardown s _, rfl⟩⟩
  rw [onI, if_neg hstopped]
  -- the acknowledged frames leave the window, which is open for the number announced
  obtain ⟨ackNoSend, pending, hon, hacked⟩ := onS_expected hcfg.k_le hS hopen hlt hrn hlo hhi
  generalize hs1 : { s with ackNoSend, pending }.note (.acked rn) = s1 at hon
  have hlog1 : s1.log = s.log ++ [.acked rn] := by rw [← hs1]; rfl
  have hopen1 : s1.Open := by rw [← hs1]; exact hopen
  -- the send number is the one expected, as many as were accepted so far
  have hnum : sn = s1.seqNoRcv := by
    rw [← hs1]
    apply UInt16.toNat_inj.mp
    rw [hsn, hn]
    exact (hR.running hopen).rcv.symm
  have hh1 : hist s1.log = hist s.log := by
    rw [hlog1, hist_append]
    exact List.append_nil _
  rw [hon]
  change Took _ s (finish ((if sn ≠ s1.seqNoRcv then .error (.outOfSequence, s1) else
    s1.dispatch raw >>= fun s => if cfg.recvUnackLimitW ≤ seqNoCount (s.accept raw now).ackNoRcv
      (s.accept raw now).seqNoRcv then (s.accept raw now).sendSFrame now
      else .ok (s.accept raw now)) >>= confirmStop now))
  rw [if_neg (not_not.mpr hnum)]
  -- the ASDU is dispatched and the frame accepted, or the channel of the application is gone
  rcases dispatch_cases s1 raw with ⟨os, hd, hos, hown⟩ | hd
  · rw [hd]
    generalize hs2 : { s1 with log := s1.log ++ os } = s2
    have hlog2 : s2.log = s1.log ++ os := by rw [← hs2]
    have hopen2 : s2.Open := by rw [← hs2]; exact hopen1
    have hh2 : hist s2.log = hist s.log := by
      rw [hlog2, hist_append, hos, List.append_nil, hh1]
    refine Took.of_plain (u := s2.accept raw now) ?_ ?_ hopen2 (PlainIter.bind ?_ fun t _ => ?_)
    · show hist (s2.log ++ [.accepted raw now]) = _
      rw [hist_append, hh2]
      rfl
    · show (ledger (s2.log ++ [.accepted raw now])).acked = r
      rw [ledger_concat]
      show (ledger s2.log).acked = r
      rw [hlog2, acked_ledger_own _ hown, hlog1, hacked]
    · change (s2.accept raw now).PlainIter (if _ then _ else _)
      split
      · exact plain_sendSFrame
      · exact .refl _
    · exact plain_confirmStop
  · rw [hd]
    exact ⟨⟨nofun, nofun⟩, .inl ⟨not_open_teardown s1 _, hh1⟩⟩

/-- A message that fits what the connection has sent and accepted. -/
structure Expects (s : Session) (m : Duplex.Msg Octets) : Prop where
  number : ∀ n x r, m = .data n x r → n = (accepted s.log).length
  acks : ∀ r, m.acks = some r → (ledger s.log).acked ≤ r ∧ r ≤ (ledger s.log).sent

/-- **A frame that shows an expected message is taken.** -/
theorem took_frame (hcfg : cfg.InRange) (hS : s.SendInv cfg) (hR : s.RecvInv cfg)
    {m : Duplex.Msg Octets} {f : Octets} {idle now : ℕ} (hm : Encodes m f) (hexp : s.Expects m)
    (h : s.next cfg (.select (.frame f idle now)) = some t) : Took m s t := by
  obtain ⟨hopen, hidle, hnow, ht⟩ := next_frame h
  -- taking the frame off the socket only notes it
  generalize hs0 : { s with clock := now }.takeFrame f idle = s0 at ht
  have hlog : s0.log = s.log ++ [.rx f idle] := by rw [← hs0]; rfl
  have hopen0 : s0.Open := by rw [← hs0]; exact hopen
  have hS0 : s0.SendInv cfg := by
    rw [← hs0]
    exact (hS.at_clock (hidle.trans hnow)).congr [.rx f idle] rfl rfl rfl rfl rfl rfl
      (by simp [Obs.Inert, Obs.iSent])
  have hR0 : s0.RecvInv cfg := by
    rw [← hs0]
    exact (hR.at_clock now).congr [.rx f idle] rfl rfl rfl rfl rfl
      (List.forall_mem_singleton.mpr ⟨rfl, rfl⟩)
  have hhist : hist s0.log = hist s.log := by
    rw [hlog, hist_append]
    exact List.append_nil _
  have hledger : ledger s0.log = ledger s.log := by
    rw [hlog, ledger_concat]
    rfl
  have haccepted : accepted s0.log = accepted s.log := by
    rw [hlog, accepted_append]
    exact List.append_nil _
  suffices htook : Took m s0 t by
    rw [Took, hhist, hledger] at htook
    exact htook
  cases hm with
  -- the message is what the invariants expect, so its numbers are in order
  | data hf hsn hrn =>
    rw [hf] at ht
    rw [ht]
    obtain ⟨hlo, hhi⟩ := hexp.acks _ rfl
    rw [← hledger] at hlo hhi
    have hn := hexp.number _ _ _ rfl
    rw [← haccepted] at hn
    exact took_onI hcfg hS0 hR0 hopen0 (parse_i_lt hf).2 hsn hrn hn hlo hhi
  | ack hf hrn =>
    rw [hf] at ht
    rw [ht]
    obtain ⟨hlo, hhi⟩ := hexp.acks _ rfl
    rw [← hledger] at hlo hhi
    exact took_onS hcfg.k_le hS0 hopen0 (parse_s_lt hf) hrn hlo hhi
  | ctl hf =>
    have hh : hist s0.log = hist s0.log ++ [] := (List.append_nil _).symm
    rcases hp : parse f with e | ⟨a, raw⟩
    · rw [hp] at ht
      rw [ht]
      exact Took.of_plain hh rfl hopen0 (show s0.PlainIter (.ok s0) from .refl s0)
    · obtain ⟨u, rfl⟩ := hf a raw hp
      rw [hp] at ht
      rw [ht]
      exact Took.of_plain hh rfl hopen0 (plain_onU.bind fun _ _ => plain_confirmStop)

end Session

/-! ### The simulation -/

namespace Link

variable {cfg : Role → Config} {params : Role → Params} {start : Role → ℕ}

/-- An endpoint shows an end: the same history, and while it runs the same
messages taken and the same acknowledgement. -/
structure Shows (p : Port) (e : Duplex.End Octets) : Prop where
  hist : e.hist = hist p.session.log
  running : p.session.Open → e.taken = p.taken ∧ e.acked = (ledger p.session.log).acked
  agreed : p.session.Agreed

/-- Both endpoints show the ends of a run of the unbounded protocol. -/
def Simulates (k : Link) : Prop :=
  ∃ e, (Duplex.machine Role.other).Reachable e ∧ ∀ i, Shows (k.port i) (e i)

/-- What a plain step adds can be added to the end. -/
theorem exists_acts_of_plain {s t : Session} (h : s.Plain t) :
    ∃ as, hist t.log = hist s.log ++ as ∧ (∀ a ∈ as, ∀ x, a ≠ .got x) ∧
      (ledger t.log).acked = (ledger s.log).acked := by
  obtain ⟨⟨os, hlog, hos⟩, -⟩ := h
  refine ⟨hist os, by rw [hlog, hist_append], hist_own hos, ?_⟩
  rw [hlog, acked_ledger_own _ hos]

/-- The next message of an end is one the endpoint expects. -/
theorem Shows.expects {k : Link} {e : Role → Duplex.End Octets} (h : ∀ i, Shows (k.port i) (e i))
    (hinv : Duplex.Inv Role.other e) {i : Role} (hopen : (k.port i).session.Open)
    {m : Duplex.Msg Octets} (hm : (Duplex.msgs (e i.other).hist)[(e i).taken]? = some m) :
    (k.port i).session.Expects m := by
  obtain ⟨-, hacked⟩ := (h i).running hopen
  constructor
  · rintro n x r rfl
    rw [hinv.number hm, (h i).hist, got_hist, List.length_map]
  · intro r hr
    obtain ⟨hlo, hhi⟩ := hinv.acknowledge Role.other_other hm hr
    rw [hacked] at hlo
    rw [(h i).hist, sent_hist, List.length_map, ← sent_ledger] at hhi
    exact ⟨hlo, hhi⟩

theorem Simulates.next (hcfg : ∀ i, (cfg i).InRange) {k k' : Link} {l : Role × Label}
    (hreach : (machine cfg params start).Reachable k) (h : k.Simulates)
    (hn : k.next cfg l = some k') : k'.Simulates := by
  obtain ⟨i, l⟩ := l
  obtain ⟨e, he, hshow⟩ := h
  obtain ⟨t, ht, hcase⟩ := next_eq_some hn
  have hS : ∀ j, (k.port j).session.SendInv (cfg j) := fun j =>
    Session.sendInv_of_reach (hcfg j).k_le (reach_session hreach j)
  have hR : ∀ j, (k.port j).session.RecvInv (cfg j) := fun j =>
    Session.recvInv_of_reach (hcfg j).w_pos (hcfg j).w_le (reach_session hreach j)
  rcases hcase with ⟨hl, rfl⟩ | ⟨f, hl, hf, rfl⟩
  · -- the end sends what the endpoint has sent
    have hplain := Session.plain_next hl ht
    obtain ⟨as, hh, has, hacked⟩ := exists_acts_of_plain hplain
    refine ⟨_, Duplex.reach_sends he i has, forall_port_set hshow ⟨?_, fun hopen => ?_, ?_⟩⟩
    · show (e i).hist ++ as = _
      rw [(hshow i).hist, hh]
    · obtain ⟨h1, h2⟩ := (hshow i).running (Session.open_of_next ht hopen)
      exact ⟨h1, h2.trans hacked.symm⟩
    · exact hplain.2 (hshow i).agreed
  · obtain ⟨idle, now, rfl⟩ := takes_eq_some hl
    obtain ⟨hopen, -, -, -⟩ := Session.next_frame ht
    obtain ⟨htaken, hacked⟩ := (hshow i).running hopen
    obtain ⟨m, hm, henc⟩ := exists_msg (encodes_wire (hS i.other).1 (hR i.other).numbered) hf
    rw [← (hshow i.other).hist, ← htaken] at hm
    have hexp := Shows.expects hshow (Duplex.inv_of_reach Role.other_ne he) hopen hm
    obtain ⟨hagreed, ⟨hclosed, hh⟩ | ⟨u, hu, hacked', hplain⟩⟩ :=
      Session.took_frame (hcfg i) (hS i) (hR i) henc hexp ht
    · -- closed before the data was accepted: the end does not take the message
      refine ⟨e, he, ?_⟩
      have hi : Shows ⟨t, (k.port i).taken + 1⟩ (e i) :=
        ⟨by rw [(hshow i).hist]; exact hh.symm, fun hopen => absurd hopen hclosed, hagreed⟩
      have hupdate := forall_port_set (i := i) hshow hi
      rw [Function.update_eq_self] at hupdate
      exact hupdate
    · -- the end takes the message, then sends what the endpoint has sent since
      obtain ⟨as, hh, has, hledger⟩ := exists_acts_of_plain hplain
      refine ⟨_, Duplex.reach_sends (Duplex.reach_take he hm) i has, ?_⟩
      rw [Function.update_self, Function.update_idem]
      refine forall_port_set hshow ⟨?_, fun _ => ⟨?_, ?_⟩, hagreed⟩
      · show (e i).hist ++ (m.payload.map Duplex.Act.got).toList ++ as = _
        rw [(hshow i).hist, hh, hu]
      · show (e i).taken + 1 = _
        rw [htaken]
      · show m.acks.getD (e i).acked = _
        rw [hledger, hacked', hacked]

/-- **Every reachable link shows a reachable pair of ends.** -/
theorem simulates (hcfg : ∀ i, (cfg i).InRange) {k : Link}
    (h : (machine cfg params start).Reachable k) : k.Simulates := by
  induction h with
  | init =>
    refine ⟨_, .init, fun i => ?_⟩
    cases i <;> exact ⟨rfl, fun _ => ⟨rfl, rfl⟩, nofun, nofun⟩
  | step hreach _ hn ih => exact ih.next hcfg hreach hn

/-- **Two endpoints agree.**  However their steps interleave, neither closes the
connection over a sequence number, and what each has accepted is a prefix of
what the other has sent. -/
theorem agreement (hcfg : ∀ i, (cfg i).InRange) {k : Link}
    (h : (machine cfg params start).Reachable k) (i : Role) :
    (k.port i).session.phase ≠ .closed .outOfSequence ∧
      (k.port i).session.phase ≠ .closed .ackOutOfWindow ∧
      (accepted (k.port i).session.log).map Prod.fst <+:
        (sentI (k.port i.other).session.log).map Prod.fst := by
  obtain ⟨e, he, hshow⟩ := simulates hcfg h
  refine ⟨(hshow i).agreed.2, (hshow i).agreed.1, ?_⟩
  rw [← got_hist, ← sent_hist, ← (hshow i).hist, ← (hshow i.other).hist]
  exact (Duplex.inv_of_reach Role.other_ne he).got_initial i

/-- The master starts data transfer, the station sends an indication, and the
master takes it. -/
def startAndIndicate : List (Role × Label) :=
  [(.master, .guard), (.master, .select (.ctrl .startDt 0)),
    (.controlled, .guard), (.controlled, .select (.frame (newUFrame .startDtActive) 1 1)),
    (.controlled, .enqueue (Session.indication 1)), (.controlled, .guard),
    (.controlled, .select (.asdu 2)),
    (.master, .guard), (.master, .select (.frame (newUFrame .startDtConfirm) 3 3)),
    (.master, .guard), (.master, .select (.frame
      ([0x68, 14, 0, 0, 0, 0] ++ (Session.indication 1).octets) 4 4))]

theorem agreement_startAndIndicate : ∃ k,
    (machine (fun _ => .default) (fun _ => paramsWide) (fun _ => 0)).run
        (init (fun _ => .default) (fun _ => paramsWide) (fun _ => 0)) startAndIndicate = some k ∧
      (accepted k.master.session.log).length = 1 ∧
      (accepted k.master.session.log).map Prod.fst <+:
        (sentI k.controlled.session.log).map Prod.fst := by
  obtain ⟨k, hk, hlen⟩ : ∃ k,
      (machine (fun _ => .default) (fun _ => paramsWide) (fun _ => 0)).run
        (init (fun _ => .default) (fun _ => paramsWide) (fun _ => 0)) startAndIndicate = some k ∧
      (accepted k.master.session.log).length = 1 := ⟨_, rfl, rfl⟩
  exact ⟨k, hk, hlen, (agreement (fun _ => Config.inRange_default)
    (Machine.reach_of_run .init hk) .master).2.2⟩

end Link

end Cs104
end Iec60870
