import Iec60870.Cs101.Line

/-!
# A secondary that is started anew

On a line that loses nothing, a station may be started anew at any moment: it expects
FCB 1 again and remembers no response, while the primary keeps its own bit.  A counted
frame with the other bit is then taken for a repetition and acknowledged, and what it
carries is dropped.

## Main definitions

* `Line.Event.Lossless` — nothing is lost, and t₁ expires only over an empty line.
* `Line.Event.Expected` — a user data frame arrives with the FCB the station expects.
* `Acked` — what the primary completed, or is about to complete, was dispatched.

## Main results

* `Line.completed_dispatched` — while every user data frame arrives with the FCB that
  is expected, everything completed was dispatched.
* `Line.not_completed_dispatched` — after a restart an ASDU is acknowledged and dropped.
-/

namespace Iec60870
namespace Cs101

open PrimFc
open Primary (Noted Begin Genuine Launch Settle Answered)

/-- What the primary `s` completed with the station `a` is part of what was dispatched
there, also with the transaction whose response is in flight. -/
structure Acked (s : Primary UInt16 Asdu) (a : UInt16) (down up : Option Frame)
    (dispatched : List Octets) : Prop where
  done : (completedFor a s.log).Sublist dispatched
  command : ∀ f ∈ down, (∃ p, s.lastSent = some p ∧ p.addr = a ∧ p.frame = f) ∨ Stray a f
  response : up.isSome = true → (∀ f ∈ down, Stray a f) ∧ ∃ p, s.lastSent = some p ∧ p.addr = a ∧
    (completedFor a s.log ++ p.payload.toList).Sublist dispatched

namespace Acked

variable {o : ClientOption} {s t m : Primary UInt16 Asdu} {a : UInt16} {down up : Option Frame}
  {ds : List Octets}

theorem init (order : List UInt16) : Acked (.new order) a none none ds where
  done := List.nil_sublist _
  command := fun _ hf => by cases hf
  response := fun hf => by cases hf

/-- Nothing of the station is in flight. -/
theorem of_quiet (hdone : (completedFor a s.log).Sublist ds) (hdown : ∀ f ∈ down, Stray a f) :
    Acked s a down none ds where
  done := hdone
  command := fun f hf => .inr (hdown f hf)
  response := fun hf => by cases hf

variable (h : Acked s a down up ds)

include h

/-- With no transaction with the station outstanding nothing of it is in flight. -/
theorem quiet (hout : ∀ p, s.lastSent = some p → p.addr ≠ a) :
    up = none ∧ ∀ f ∈ down, Stray a f := by
  refine ⟨?_, fun f hf => ?_⟩
  · rcases hup : up with _ | g
    · rfl
    · obtain ⟨-, p, hp, ha, -⟩ := h.response (by rw [hup]; rfl)
      exact absurd ha (hout p hp)
  · rcases h.command f hf with ⟨p, hp, ha, -⟩ | hstray
    · exact absurd ha (hout p hp)
    · exact hstray

/-- A step that completes nothing and leaves the outstanding transaction alone. -/
theorem keep (hlast : t.lastSent = s.lastSent) (hdone : completedFor a t.log = completedFor a s.log) :
    Acked t a down up ds where
  done := hdone ▸ h.done
  command := hlast ▸ h.command
  response := by
    rw [hlast, hdone]
    exact h.response

/-- The frame of a transaction is written, nothing of the station being in flight. -/
theorem wrote {p : Pending UInt16} (hlast : t.lastSent = some p) (hg : Genuine o.profile m p)
    (hdone : completedFor a t.log = completedFor a s.log) : Acked t a (some p.frame) none ds where
  done := hdone ▸ h.done
  command := fun f hf => by
    cases hf
    by_cases ha : p.addr = a
    · exact .inl ⟨p, hlast, ha, rfl⟩
    · exact .inr (stray_of_genuine hg ha)
  response := fun hf => by cases hf

/-- Bookkeeping, then at most one transaction begun. -/
theorem launch (ht : Launch o.profile s t) : Acked t a (carry (commands s t) down) up ds := by
  cases ht with
  | note hn =>
    rw [commands_none hn.log]
    exact h.keep hn.lastSent (by rw [hn.log])
  | @begin m p queue raw due hn hidle hopen hp hraw =>
    have hlog : (({ m with queue } : Primary UInt16 Asdu).begun p raw due).log =
        s.log ++ [.began p raw] := by rw [Primary.begun, hn.log]
    have hidle' : s.lastSent = none := hn.lastSent.symm.trans hidle
    obtain ⟨rfl, -⟩ := h.quiet fun q hq => by rw [hidle'] at hq; cases hq
    rw [commands_eq hlog]
    exact h.wrote rfl hp.genuine (by rw [hlog, completedFor_concat]; exact List.append_nil _)

/-- What the primary does of its own accord. -/
theorem moves {p q : LinkState} {e : LinkState.Event} (hs : p.toPrimary = s)
    (hframe : ∀ f now, e ≠ .frame f now) (ht1 : ∀ now, e ≠ .t1 now) (hq : p.step o e = some q) :
    Acked q.toPrimary a (carry (commands s q.toPrimary) down) up ds := by
  subst hs
  obtain ⟨m, hm, ht⟩ := LinkState.moves_cases hframe ht1 hq
  rw [commands_stir hm ht]
  refine Acked.launch ?_ ht
  cases hm with
  | nothing => exact h
  | @askReset b hidle =>
    exact h.keep rfl ((completedFor_concat _ _ _).trans (List.append_nil _))
  | push out => exact h.keep rfl ((completedFor_concat _ _ _).trans (List.append_nil _))
  | close => exact h.keep rfl rfl

/-- The outstanding transaction ends. -/
theorem ended {b : UInt16} {f : Frame} {p : Pending UInt16} (hp : s.lastSent = some p)
    (hpb : p.addr = b) (hup : a = b → up = some f)
    (hdone : completedFor a t.log = completedFor a s.log ∨
      completedFor a t.log = completedFor a s.log ++ (if p.addr = a then p.payload else none).toList) :
    Acked t a down (if a = b then none else up) ds := by
  by_cases hab : a = b
  · rw [if_pos hab]
    obtain ⟨hdown, q, hq, -, hsub⟩ := h.response (by rw [hup hab]; rfl)
    rw [hp] at hq
    cases hq
    rw [if_pos (hpb.trans hab.symm)] at hdone
    refine of_quiet ?_ hdown
    rcases hdone with hdone | hdone <;> rw [hdone]
    · exact h.done
    · exact hsub
  · -- the transaction was with another station
    have hne : p.addr ≠ a := fun ha => hab (ha.symm.trans hpb)
    obtain ⟨rfl, hdown⟩ := h.quiet fun q hq => by
      rw [hp] at hq
      cases hq
      exact hne
    rw [if_neg hne, Option.toList_none, List.append_nil, or_self] at hdone
    rw [ite_self]
    exact of_quiet (hdone ▸ h.done) hdown

/-- The response `f` of the station `b` arrives. -/
theorem answered {b : UInt16} {f : Frame} {sender : Option UInt16}
    (hb : ∀ p, s.lastSent = some p → p.addr = b) (hup : a = b → up = some f)
    (ht : Answered o.profile f sender s t) :
    Acked t a (carry (commands s t) down) (if a = b then none else up) ds := by
  obtain ⟨m, n, hm, hn, ht⟩ := ht
  have hlm : Acked m a down up ds := h.keep hm.lastSent (by rw [hm.log])
  obtain ⟨r', hr', -⟩ := ht.log_eq
  cases hn with
  -- the answer is to nothing the station was asked
  | ignored =>
    rw [commands_trans _ (hm.log.trans (List.append_nil _).symm) rfl hr']
    refine Acked.launch ?_ ht
    split
    · exact { hlm with response := fun hf => by cases hf }
    · exact hlm
  -- the transaction is completed, and what it carried counts as acknowledged from here on
  | @completed p hp hown hpos =>
    have hlog : (m.completeBy o.profile p f).log =
        s.log ++ (.completed p :: ((p.dataOf f).map (Obs.delivered p.addr)).toList) := by
      rw [log_completeBy, hm.log]
    have hnone : (.completed p :: ((p.dataOf f).map (Obs.delivered p.addr)).toList :
        List (Obs UInt16 Asdu)).filterMap Obs.command = [] := by cases p.dataOf f <;> rfl
    rw [commands_trans _ hlog hnone hr']
    refine Acked.launch (hlm.ended hp (hb p (hm.lastSent ▸ hp)) hup (.inr ?_)) ht
    rw [log_completeBy, completedFor_completed]
  -- a refusal acknowledges nothing
  | @refused p hp hown href =>
    rw [commands_trans _ (show (m.abort p (.failed p)).log = s.log ++ [.failed p] by
      rw [Primary.abort, hm.log]) rfl hr']
    refine Acked.launch (hlm.ended hp (hb p (hm.lastSent ▸ hp)) hup (.inl ?_)) ht
    exact (completedFor_concat _ _ _).trans (List.append_nil _)

/-- t₁ expires over an empty line. -/
theorem expired {now : ℕ} (hd : s.Disciplined o.profile)
    (ht : s.onT1Timeout o.profile now = .ok t) : Acked t a (carry (commands s t) none) none ds := by
  rcases Primary.onT1Timeout_cases ht with
    ⟨hidle, rfl⟩ | ⟨p, hp, ⟨raw, hlt, -, hraw, rfl⟩ | ⟨-, -, rfl⟩⟩
  · have hlog : ({ s with t1At := none } : Primary UInt16 Asdu).log = s.log := rfl
    rw [commands_none hlog]
    exact of_quiet h.done fun f hf => by cases hf
  · rw [commands_eq (show (s.again p raw _).log = s.log ++ [.repeated p raw] from rfl)]
    exact h.wrote hp (hd.genuine p hp) ((completedFor_concat _ _ _).trans (List.append_nil _))
  · rw [commands_eq (show (s.abort p (.gaveUp p)).log = s.log ++ [.gaveUp p] from rfl)]
    refine of_quiet ?_ fun f hf => by cases hf
    show (completedFor a (s.log ++ [.gaveUp p])).Sublist ds
    rw [completedFor_concat]
    exact (List.append_nil _).symm ▸ h.done

end Acked

/-! ### The station -/

section Station

variable {o : ClientOption} {s : Primary UInt16 Asdu} {a : UInt16} {sec sec' : SecondaryState}
  {down up : Option Frame} {cfg : Config} {p : Pending UInt16}

/-- A user data frame with the FCB that is expected is dispatched. -/
theorem dispatched_of_heard (hg : Genuine o.profile s p)
    (hexp : p.ctrl.func = USER_DATA_CONF → p.ctrl.fcb = sec.fcbExpected)
    (h : SecondaryState.Heard cfg sec p.frame p.ctrl sec') :
    sec' = sec ∨ dispatchedData sec'.log = dispatchedData sec.log ++ p.payload.toList := by
  cases h with
  | ignored _ => exact .inl rfl
  | reset f _ hfunc =>
    have hnone : p.payload = none := if_neg (by rw [hfunc]; decide)
    exact .inr (by simp [SecondaryState.replied, hnone])
  | probe f _ hfcv hfunc =>
    exact .inr (by simp [SecondaryState.replied, payload_of_uncounted hg hfcv])
  | counted f data sh _ hfcv hbit hpop hdata =>
    refine .inr ?_
    show dispatchedData (sec.log ++ _) = _
    simp only [dispatchedData_append, SecondaryState.dispatchedData_served,
      SecondaryState.dispatchedData_written, SecondaryState.dispatchedData_dispatched]
    rfl
  | repeated f hfcv hbit hlast _ =>
    -- only a poll or a test can be taken for a repetition
    have hnone : p.payload = none := if_neg fun hf => hbit (hexp hf)
    exact .inr (by simp [SecondaryState.replied, hnone])

/-- A frame in flight to the station is heard. -/
theorem Acked.hear {f : Frame} (h : Acked s a (some f) up (dispatchedData sec.log))
    (hd : s.Disciplined o.profile) (hcfg : cfg.WellFormed) (haddr : cfg.linkAddress = a)
    (hexp : f.linkAddr = some a → ∀ c ∈ f.control, c.func = USER_DATA_CONF →
      c.fcb = sec.fcbExpected) (now : ℕ) :
    Acked s a none (carry (responses sec (sec.receive cfg f now)) up)
      (dispatchedData (sec.receive cfg f now).log) := by
  -- what is on its way to the station is the outstanding request, or a frame for another
  rcases h.command f rfl with ⟨p, hp, ha, rfl⟩ | hstray
  · have hg := hd.genuine p hp
    have hus : p.frame.linkAddr = some a := by rw [hg.linkAddr, ← ha]; rfl
    have hheard := SecondaryState.heard_receive (s := sec) now hg.control (haddr ▸ hus) hg.prm
      hg.fcv hg.answered
    -- the outstanding request is not a stray frame, so no answer is under way beside it
    have hnot : ¬Stray a p.frame := by
      rintro ⟨ctrl, b, -, hb, hne, -, -⟩
      rw [hus] at hb
      cases hb
      exact hne rfl
    have hup : up = none := by
      rcases hu : up with _ | g
      · rfl
      · exact absurd ((h.response (by rw [hu]; rfl)).1 _ rfl) hnot
    have hdisp := dispatched_of_heard hg (fun hf => hexp hus _ hg.control hf) hheard
    generalize sec.receive cfg p.frame now = sec' at hdisp ⊢
    -- either the station says nothing new, or what it dispatches is the next in the list
    rcases hdisp with rfl | hdisp
    · rw [responses_none rfl, hup]
      exact of_quiet h.done fun _ hf => by cases hf
    · rw [hdisp]
      exact {
        done := h.done.trans (List.sublist_append_left _ _)
        command := fun _ hf => by cases hf
        response := fun _ => ⟨fun _ hf => (by cases hf), p, hp, ha, h.done.append_right _⟩ }
  -- a stray frame: the station does not hear it
  · obtain ⟨ctrl, b, hctrl, hb, hne, hprm, hans⟩ := hstray
    rw [SecondaryState.receive_other now hctrl hb (by rwa [haddr]) hcfg hprm hans,
      responses_none rfl]
    refine ⟨h.done, fun _ hf => (by cases hf), fun hu => ⟨fun _ hf => (by cases hf), ?_⟩⟩
    exact (h.response hu).2

end Station

namespace Line

variable {o : ClientOption} {cfg : UInt16 → Config} {l l' : Line}

/-- Nothing is lost on the line, and t₁ expires only when nothing is in flight. -/
def Event.Lossless (o : ClientOption) (l : Line) : Event → Prop
  | .loseDown _ | .loseUp _ => False
  | .prim (.t1 _) => ∀ a ∈ o.addresses, l.down a = none ∧ l.up a = none
  | _ => True

/-- A user data frame arrives at its station with the FCB the station expects. -/
def Event.Expected (l : Line) : Event → Prop
  | .hear a _ => ∀ f ∈ l.down a, f.linkAddr = some a → ∀ c ∈ f.control,
      c.func = USER_DATA_CONF → c.fcb = (l.secs a).fcbExpected
  | _ => True

instance (o : ClientOption) (l : Line) (e : Event) : Decidable (e.Lossless o l) := by
  unfold Event.Lossless
  split <;> infer_instance

instance (l : Line) (e : Event) : Decidable (e.Expected l) := by
  unfold Event.Expected
  split <;> infer_instance

/-- What the primary completed with each station was dispatched there. -/
structure Settled (o : ClientOption) (l : Line) : Prop where
  disciplined : l.prim.Disciplined o.profile
  acked : ∀ a ∈ o.addresses,
    Acked l.prim.toPrimary a (l.down a) (l.up a) (dispatchedData (l.secs a).log)

theorem settled_init : (init o).Settled o where
  disciplined := Primary.disciplined_new _ _
  acked := fun _ _ => .init _

namespace Settled

variable (h : l.Settled o)

include h

theorem moves {e : LinkState.Event} {p : LinkState} (hframe : ∀ f now, e ≠ .frame f now)
    (ht1 : ∀ now, e ≠ .t1 now) (hp : l.prim.step o e = some p) : (l.sent p).Settled o where
  disciplined := h.disciplined.acts (LinkState.acts_of_step hp)
  acked := fun a ha => (h.acked a ha).moves rfl hframe ht1 hp

theorem expired {now : ℕ} {p : LinkState} (hp : l.prim.step o (.t1 now) = some p) :
    (l.silent.sent p).Settled o where
  disciplined := h.disciplined.acts (LinkState.acts_of_step hp)
  acked := fun a ha => (h.acked a ha).expired h.disciplined (LinkState.onT1Timeout_of_step hp)

/-- A station hears the frame in flight to it. -/
theorem hear {a : UInt16} {f : Frame} {now : ℕ} (hfit : Fitted o cfg) (ha : a ∈ o.addresses)
    (hf : l.down a = some f) (hexp : (Event.hear a now).Expected l) :
    (l.heard a ((l.secs a).receive (cfg a) f now)).Settled o where
  disciplined := h.disciplined
  acked := fun c hc => by
    have hcarried := h.acked c hc
    by_cases hca : c = a
    · subst hca
      rw [hf] at hcarried
      simpa [heard] using hcarried.hear h.disciplined (hfit.wellFormed c hc) (hfit.address c hc)
        (hexp f hf) now
    · simpa [heard, hca] using hcarried

/-- The primary hears a station's response. -/
theorem answer {a : UInt16} {f : Frame} (hfit : Fitted o cfg) (ha : a ∈ o.addresses)
    (hf : l.up a = some f) (now : ℕ) :
    (({ l with up := Function.update l.up a none } : Line).sent
      (l.prim.handleFrame o f now).2).Settled o where
  disciplined := h.disciplined.acts (LinkState.acts_handleFrame f now)
  acked := fun c hc => by
    obtain ⟨-, p, hp, hpa, -⟩ := (h.acked a ha).response (by rw [hf]; rfl)
    have hown : ∀ q, l.prim.lastSent = some q → q.addr = a := by
      intro q hq
      rw [hp] at hq
      cases hq
      exact hpa
    have hcarried := (h.acked c hc).answered hown (fun hca => hca ▸ hf)
      (answered_handleFrame hfit l.prim f now)
    by_cases hca : c = a
    · subst hca
      simpa [sent] using hcarried
    · simpa [sent, hca] using hcarried

/-- Only what a station has dispatched matters. -/
theorem update {a : UInt16} {sec : SecondaryState}
    (hsame : dispatchedData sec.log = dispatchedData (l.secs a).log) :
    ({ l with secs := Function.update l.secs a sec } : Line).Settled o where
  disciplined := h.disciplined
  acked := fun c hc => by
    have hcarried := h.acked c hc
    by_cases hca : c = a
    · subst hca
      simpa [hsame] using hcarried
    · simpa [hca] using hcarried

end Settled

/-- While user data frames arrive as expected, what is completed was dispatched. -/
theorem settled_step {e : Event} (hfit : Fitted o cfg) (h : l.Settled o)
    (he : e.Lossless o l ∧ e.Expected l) (hs : l.step o cfg e = some l') : l'.Settled o := by
  cases moved_of_step hs with
  | moves hframe ht1 hp => exact h.moves hframe ht1 hp
  | expired hp => exact h.expired hp
  | hear ha hf => exact h.hear hfit ha hf he.2
  | answer ha hf => exact h.answer hfit ha hf _
  | loseDown a => exact he.1.elim
  | loseUp a => exact he.1.elim
  | restart a now => exact h.update rfl
  | @buffer a asdu sec hsend =>
    refine h.update ?_
    unfold SecondaryState.send at hsend
    split_ifs at hsend <;> cases hsend <;>
      exact (dispatchedData_append _ _).trans (List.append_nil _)

/-- **A positive acknowledgement means delivery while every user data frame arrives
with the FCB that is expected.**  In every run on a line that loses nothing, with
stations started anew at any moment, everything the primary completed with a station was
handed to its dispatcher. -/
theorem completed_dispatched (hfit : Fitted o cfg)
    (h : (machine o cfg).Reach (fun l e => e.Lossless o l ∧ e.Expected l) l) {a : UInt16}
    (ha : a ∈ o.addresses) :
    (completedFor a l.prim.log).Sublist (dispatchedData (l.secs a).log) :=
  (h.invariant (P := fun l : Line => l.Settled o) settled_init
    fun _ _ _ hl he hs => settled_step hfit hl he hs).acked a ha |>.done

/-- A command is carried out, and then the station is started anew. -/
def restartOnce : List Event :=
  opened ++ [.prim (.send (indication 7) 1), .prim (.tick 0), .hear 1 0, .answer 1 0,
    .restart 1 0]

/-- Another command follows. -/
def restartBetween : List Event :=
  restartOnce ++ [.prim (.send (indication 9) 1), .prim (.tick 0), .hear 1 0, .answer 1 0]

/-- **After a restart an ASDU is acknowledged and dropped.**  The command that follows
carries FCB 0, is taken for a repetition and is completed. -/
theorem not_completed_dispatched :
    ∃ l, (machine oneStation stationsAt).Reach (fun l e => e.Lossless oneStation l) l ∧
      [1, 1, 3, 1, 9, 0, 1] ∈ completedFor 1 l.prim.log ∧
      [1, 1, 3, 1, 9, 0, 1] ∉ dispatchedData (l.secs 1).log := by
  have hrun : (machine oneStation stationsAt).runIf (fun l e => e.Lossless oneStation l)
      (machine oneStation stationsAt).init restartBetween = some _ := rfl
  exact ⟨_, Machine.reach_of_runIf .init hrun, by decide, by decide⟩

theorem completed_dispatched_restartOnce :
    ∃ l, (machine oneStation stationsAt).runIf (fun l e => e.Lossless oneStation l ∧ e.Expected l)
        (machine oneStation stationsAt).init restartOnce = some l ∧
      completedFor 1 l.prim.log = [[1, 1, 3, 1, 7, 0, 1]] ∧
      (completedFor 1 l.prim.log).Sublist (dispatchedData (l.secs 1).log) :=
  have hrun : (machine oneStation stationsAt).runIf
      (fun l e => e.Lossless oneStation l ∧ e.Expected l)
      (machine oneStation stationsAt).init restartOnce = some _ := rfl
  ⟨_, hrun, rfl, completed_dispatched fitted_oneStation
    (Machine.reach_of_runIf .init hrun) (List.mem_singleton.mpr rfl)⟩

end Line

end Cs101
end Iec60870
