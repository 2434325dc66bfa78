import Iec60870.Cs101.Mirror

/-!
# What is in flight between a primary and a station

The alternating bit of a primary and one of its stations, with the request and the
response in flight between them.  A frame in flight to a station may also be one for
another station on the same line.

## Main definitions

* `Stray` — a frame of the primary for another station.
* `Linked` — primary, station and what is in flight are those of an alternating bit.

## Main results

* `Linked.launch`, `answered`, `expired` — what the primary does keeps the link.
* `Linked.hear` — what the station does keeps it.
-/

namespace Iec60870
namespace Cs101

open PrimFc
open Primary (Noted Begin Genuine Launch Settle Answered Disciplined)

/-! ### What is written -/

/-- The command an entry hands to the writer. -/
def Obs.command {α A : Type} : Obs α A → Option Frame
  | .began p _ => some p.frame
  | .repeated p _ => some p.frame
  | _ => none

/-- The commands handed to the writer between `s` and `t`. -/
def commands {α A : Type} (s t : Primary α A) : List Frame :=
  (t.log.drop s.log.length).filterMap Obs.command

/-- The frames handed to the writer between `s` and `t`. -/
def responses (s t : SecondaryState) : List Frame :=
  (t.log.drop s.log.length).filterMap SecObs.frame

/-- What is in flight once `news` was written: the last of it, or what was in flight
before. -/
def carry (news : List Frame) (old : Option Frame) : Option Frame := news.getLast?.or old

@[simp] theorem carry_nil (old : Option Frame) : carry [] old = old := rfl

section Written

variable {α A : Type} {s m t : Primary α A}

theorem commands_eq {rest : List (Obs α A)} (h : t.log = s.log ++ rest) :
    commands s t = rest.filterMap Obs.command := by
  rw [commands, h, List.drop_left]

theorem commands_none (h : t.log = s.log) : commands s t = [] :=
  commands_eq (h.trans (List.append_nil _).symm)

/-- What came before without writing anything does not matter. -/
theorem commands_trans (rest : List (Obs α A)) (h : m.log = s.log ++ rest)
    (hnone : rest.filterMap Obs.command = [])
    {rest' : List (Obs α A)} (h' : t.log = m.log ++ rest') : commands s t = commands m t := by
  rw [commands_eq h', commands_eq (show t.log = s.log ++ (rest ++ rest') by
    rw [h', h, List.append_assoc]), List.filterMap_append, hnone, List.nil_append]

end Written

/-- What a primary writes of its own accord is what it launches. -/
theorem commands_stir {prof : Profile UInt16 Asdu} {s m t : Primary UInt16 Asdu}
    (hm : LinkState.Stir s m) (ht : Launch prof m t) : commands s t = commands m t := by
  obtain ⟨rest, hrest, -⟩ := ht.log_eq
  cases hm with
  | nothing => rfl
  | @askReset b hidle => exact commands_trans [.resetAsked b] rfl rfl hrest
  | push out => exact commands_trans [.queued out] rfl rfl hrest
  | close => exact commands_trans [] (List.append_nil _).symm rfl hrest

theorem responses_none {s t : SecondaryState} (h : t.log = s.log) : responses s t = [] := by
  rw [responses, h, List.drop_length]
  rfl

theorem responses_eq {s t : SecondaryState} {rest : List SecObs} (h : t.log = s.log ++ rest) :
    responses s t = rest.filterMap SecObs.frame := by
  rw [responses, h, List.drop_left]

/-! ### The exchange with one station -/

/-- A command for another station than `a`, which may pass it on the shared line
and is not answered. -/
def Stray (a : UInt16) (f : Frame) : Prop :=
  ∃ ctrl b, f.control = some ctrl ∧ f.linkAddr = some b ∧ b ≠ a ∧ ctrl.prm = true ∧
    ctrl.func ≠ USER_DATA_NO_CONF

/-- The primary `s`, the station `a` in the state `sec` and what is in flight between
them are those of the alternating bit `l`. -/
structure Linked (o : ClientOption) (s : Primary UInt16 Asdu) (a : UInt16)
    (sec : SecondaryState) (down up : Option Frame) (l : Bit) : Prop where
  inv : l.Inv Pending.Fits
  sends : Sends o s a l
  hears : Hears sec l
  rep : l.rep.map (·.1) = up
  req : (l.req = true ∧ ∃ p, s.lastSent = some p ∧ p.addr = a ∧ down = some p.frame) ∨
    (l.req = false ∧ ∀ f ∈ down, Stray a f)

/-- Some alternating bit links the primary with the station. -/
def Paired (o : ClientOption) (s : Primary UInt16 Asdu) (a : UInt16) (sec : SecondaryState)
    (down up : Option Frame) : Prop := ∃ l, Linked o s a sec down up l

variable {o : ClientOption} {s t m : Primary UInt16 Asdu} {a : UInt16} {sec : SecondaryState}
  {down up : Option Frame} {l : Bit}

/-- Both ends before anything was sent. -/
theorem linked_init (order : List UInt16) (shared : Shared) (now : ℕ) :
    Linked o (.new order) a (.new shared [] now) none none .init where
  inv := AltBit.inv_init
  sends := ⟨⟨fun h => (by cases h), fun h => (by cases h)⟩, rfl, rfl, rfl, rfl, fun _ => rfl⟩
  hears := ⟨rfl, rfl, rfl, rfl⟩
  rep := rfl
  req := .inr ⟨rfl, fun _ hf => by cases hf⟩

/-- A genuine transaction with another station writes a stray frame. -/
theorem stray_of_genuine {p : Pending UInt16} (hg : Genuine o.profile s p) (ha : p.addr ≠ a) :
    Stray a p.frame :=
  ⟨p.ctrl, p.addr, hg.control, hg.linkAddr, ha, hg.prm, hg.answered⟩

namespace Linked

variable (h : Linked o s a sec down up l)

include h

/-- A response in flight answers the outstanding transaction. -/
theorem asked_of_up {f : Frame} (hup : up = some f) :
    ∃ p, s.lastSent = some p ∧ p.addr = a := by
  rcases hout : l.out with _ | r
  · have hnone := (h.inv.idle hout).2.1
    have hrep := h.rep
    rw [hnone, hup] at hrep
    cases hrep
  · obtain ⟨p, hp, ha, -⟩ := Primary.asked_eq_some (h.sends.out.symm.trans hout)
    exact ⟨p, hp, ha⟩

/-- With no transaction with the station outstanding nothing of it is in flight. -/
theorem quiet (hout : s.asked a = none) : up = none ∧ ∀ f ∈ down, Stray a f := by
  obtain ⟨hreq, hrep, -⟩ := h.inv.idle (h.sends.out.trans hout)
  refine ⟨?_, ?_⟩
  · rw [← h.rep, hrep]
    rfl
  · rcases h.req with ⟨hr, -⟩ | ⟨-, hstray⟩
    · rw [hreq] at hr
      cases hr
    · exact hstray

/-- A request in flight leaves no room for a response. -/
theorem up_of_req (hreq : l.req = true) : up = none := by
  rw [← h.rep, h.inv.single hreq]
  rfl

/-- While the response is in flight the request is not. -/
theorem down_of_up {f : Frame} (hup : up = some f) : ∀ g ∈ down, Stray a g := by
  rcases h.req with ⟨hreq, -⟩ | ⟨-, hstray⟩
  · rw [h.up_of_req hreq] at hup
    cases hup
  · exact hstray

/-- The transaction with another station is outstanding. -/
theorem down_of_other {p : Pending UInt16} (hp : s.lastSent = some p) (ha : p.addr ≠ a) :
    l.req = false ∧ ∀ f ∈ down, Stray a f := by
  rcases h.req with ⟨-, q, hq, hqa, -⟩ | hstray
  · rw [hp] at hq
    cases hq
    exact absurd hqa ha
  · exact hstray

/-! ### What the primary does -/

/-- A step that leaves the outstanding transaction alone. -/
theorem keep (hs : Sends o t a l) (hlast : t.lastSent = s.lastSent) :
    Linked o t a sec down up l where
  inv := h.inv
  sends := hs
  hears := h.hears
  rep := h.rep
  req := by rw [hlast]; exact h.req

theorem note (hn : Noted s t) : Linked o t a sec down up l := h.keep (h.sends.note hn) hn.lastSent

theorem push (out : Outgoing UInt16 Asdu) : Linked o (s.push out) a sec down up l :=
  h.keep (h.sends.push out) rfl

/-- A transaction is begun. -/
theorem begin {p : Pending UInt16} {queue : List (Outgoing UInt16 Asdu)} {raw : Octets} {due : ℕ}
    (hidle : s.lastSent = none) (hp : Begin o.profile s p queue) :
    Paired o (({ s with queue } : Primary UInt16 Asdu).begun p raw due) a sec
      (some p.frame) up := by
  obtain ⟨hup, -⟩ := h.quiet (Primary.asked_none hidle)
  have hout : l.out = none := h.sends.out.trans (Primary.asked_none hidle)
  by_cases ha : p.addr = a
  · have hact : ∀ x, p.request = .counted x → l.active = true := by
      intro x hx
      obtain ⟨rfl, hfcv⟩ := p.request_counted hx
      rw [h.sends.active, ← ha]
      exact (hp.genuine.counted hfcv).1
    refine ⟨l.start p.request, h.inv.start hout hact, h.sends.begin_own hp.genuine ha,
      h.hears.start _, ?_, .inl ⟨?_, p, rfl, ha, rfl⟩⟩
    · rcases hr : p.request with _ | _ | x <;> exact h.rep
    · rcases hr : p.request with _ | _ | x <;> rfl
  · refine ⟨l, h.inv, h.sends.begin_other hidle ha, h.hears, h.rep,
      .inr ⟨(h.inv.idle hout).1, fun f hf => ?_⟩⟩
    rw [← Option.some_inj.mp hf]
    exact stray_of_genuine hp.genuine ha

/-- Bookkeeping, then at most one transaction begun. -/
theorem launch (ht : Launch o.profile s t) :
    Paired o t a sec (carry (commands s t) down) up := by
  cases ht with
  | note hn =>
    rw [commands_none hn.log]
    exact ⟨l, h.note hn⟩
  | @begin m p queue raw due hn hidle hopen hp hraw =>
    have hlog : (({ m with queue } : Primary UInt16 Asdu).begun p raw due).log =
        s.log ++ [.began p raw] := by rw [Primary.begun, hn.log]
    rw [commands_eq hlog]
    exact (h.note hn).begin hidle hp

/-- The frame `f` completes the outstanding transaction. -/
theorem complete {p : Pending UInt16} {f : Frame} (hg : Genuine o.profile s p)
    (hp : s.lastSent = some p) (hup : p.addr = a → up = some f) :
    Paired o (s.completeBy o.profile p f) a sec down (if p.addr = a then none else up) := by
  by_cases ha : p.addr = a
  · obtain ⟨y, hy, rfl⟩ := Option.map_eq_some_iff.mp (h.rep.trans (hup ha))
    have hout : l.out = some p.request := h.sends.out.trans (Primary.asked_own hp ha)
    have hreq := h.inv.req_of_rep hy
    rw [if_pos ha]
    refine ⟨l.complete p.request, h.inv.complete hout hy, h.sends.complete_own h.inv hp hg ha hy,
      h.hears.complete _, ?_, .inr ⟨?_, h.down_of_up (hup ha)⟩⟩
    · rcases hr : p.request with _ | _ | x <;> rfl
    · rcases hr : p.request with _ | _ | x <;> exact hreq
  · rw [if_neg ha]
    exact ⟨l, h.inv, h.sends.complete_other f hp ha, h.hears, h.rep,
      .inr (h.down_of_other hp ha)⟩

/-- The outstanding transaction is aborted. -/
theorem abort {p : Pending UInt16} {x : Obs UInt16 Asdu} (hp : s.lastSent = some p)
    (hx : x = .failed p ∨ x = .gaveUp p) (hdown : p.addr = a → ∀ f ∈ down, Stray a f) :
    Paired o (s.abort p x) a sec down (if p.addr = a then none else up) := by
  by_cases ha : p.addr = a
  · rw [if_pos ha]
    exact ⟨l.abandon, h.inv.abandon, h.sends.abort_own ha hx, h.hears.abandon, rfl,
      .inr ⟨rfl, hdown ha⟩⟩
  · rw [if_neg ha]
    exact ⟨l, h.inv, h.sends.abort_other hp ha hx, h.hears, h.rep,
      .inr (h.down_of_other hp ha)⟩

/-- The application asks for a reset of a link. -/
theorem askReset {b : UInt16} (hidle : s.lastSent = none) :
    Paired o (s.askReset b) a sec down up := by
  obtain ⟨hup, hdown⟩ := h.quiet (Primary.asked_none hidle)
  by_cases hb : b = a
  · subst hb
    exact ⟨l.abandon, h.inv.abandon, h.sends.askReset_own hidle, h.hears.abandon, hup.symm,
      .inr ⟨rfl, hdown⟩⟩
  · exact ⟨l, h.keep (h.sends.askReset_other hb) rfl⟩

/-- The outstanding frame is repeated on the silent line. -/
theorem again {p : Pending UInt16} {raw : Octets} {due : ℕ} (hg : Genuine o.profile s p)
    (hp : s.lastSent = some p) : Paired o (s.again p raw due) a sec (some p.frame) none := by
  by_cases ha : p.addr = a
  · have hout : l.out = some p.request := h.sends.out.trans (Primary.asked_own hp ha)
    exact ⟨_, h.inv.again hout, h.sends.again.of_eq rfl rfl rfl rfl rfl rfl,
      h.hears.of_eq rfl rfl rfl rfl, rfl, .inl ⟨rfl, p, hp, ha, rfl⟩⟩
  · refine ⟨_, h.inv.loseRep, h.sends.again.of_eq rfl rfl rfl rfl rfl rfl,
      h.hears.of_eq rfl rfl rfl rfl, rfl, .inr ⟨(h.down_of_other hp ha).1, fun f hf => ?_⟩⟩
    rw [← Option.some_inj.mp hf]
    exact stray_of_genuine hg ha

/-! ### What the line does -/

/-- The frame in flight to the station is lost. -/
theorem loseDown : Paired o s a sec none up :=
  ⟨_, h.inv.loseReq, h.sends.of_eq rfl rfl rfl rfl rfl rfl, h.hears.of_eq rfl rfl rfl rfl, h.rep,
    .inr ⟨rfl, fun _ hf => by cases hf⟩⟩

/-- The response in flight is lost. -/
theorem loseUp : Paired o s a sec down none :=
  ⟨_, h.inv.loseRep, h.sends.of_eq rfl rfl rfl rfl rfl rfl, h.hears.of_eq rfl rfl rfl rfl, rfl,
    h.req⟩

/-! ### Composite steps of the primary -/

/-- What the application and the writer do writes nothing. -/
theorem stir (ht : LinkState.Stir s t) : Paired o t a sec down up := by
  cases ht with
  | nothing => exact ⟨l, h⟩
  | askReset hidle => exact h.askReset hidle
  | push out => exact ⟨l, h.push out⟩
  | close =>
    exact ⟨l, h.keep (h.sends.congr [] rfl rfl rfl (List.append_nil _).symm
      ⟨rfl, rfl, fun _ => rfl⟩) rfl⟩

omit h in
/-- What the primary does of its own accord. -/
theorem moves {p q : LinkState} {e : LinkState.Event}
    (h : Linked o p.toPrimary a sec down up l) (hframe : ∀ f now, e ≠ .frame f now)
    (ht1 : ∀ now, e ≠ .t1 now) (hq : p.step o e = some q) :
    Paired o q.toPrimary a sec (carry (commands p.toPrimary q.toPrimary) down) up := by
  obtain ⟨m, hm, ht⟩ := LinkState.moves_cases hframe ht1 hq
  obtain ⟨l', hl'⟩ := h.stir hm
  rw [commands_stir hm ht]
  exact hl'.launch ht

/-- The response `f` of the station `b` arrives. -/
theorem answered {b : UInt16} {f : Frame} {sender : Option UInt16} (hd : s.Disciplined o.profile)
    (hb : ∀ p, s.lastSent = some p → p.addr = b) (hup : a = b → up = some f)
    (ht : Answered o.profile f sender s t) :
    Paired o t a sec (carry (commands s t) down) (if a = b then none else up) := by
  obtain ⟨m, n, hm, hn, ht⟩ := ht
  have hdm := hd.note hm
  have hbm : ∀ p, m.lastSent = some p → p.addr = b := fun p hp => hb p (hm.lastSent ▸ hp)
  have hlm := h.note hm
  -- settling the transaction writes nothing, so the commands are those of the launch
  obtain ⟨r', hr', -⟩ := ht.log_eq
  cases hn with
  -- the answer is not one to the outstanding transaction
  | ignored =>
    rw [commands_trans _ (hm.log.trans (List.append_nil _).symm) rfl hr']
    split
    · obtain ⟨l', hl'⟩ := hlm.loseUp
      exact hl'.launch ht
    · exact hlm.launch ht
  -- the transaction is completed, and the answer leaves the line
  | @completed p hp hown hpos =>
    have hlog : (m.completeBy o.profile p f).log =
        s.log ++ (.completed p :: ((p.dataOf f).map (Obs.delivered p.addr)).toList) := by
      rw [log_completeBy, hm.log]
    have hnone : (.completed p :: ((p.dataOf f).map (Obs.delivered p.addr)).toList :
        List (Obs UInt16 Asdu)).filterMap Obs.command = [] := by cases p.dataOf f <;> rfl
    rw [commands_trans _ hlog hnone hr']
    have hpb := hbm p hp
    obtain ⟨l', hl'⟩ := hlm.complete (hdm.genuine p hp) hp fun ha => hup (ha.symm.trans hpb)
    rw [hpb] at hl'
    simpa only [eq_comm] using hl'.launch ht
  -- the station refuses: the transaction is aborted, and nothing is under way to it either
  | @refused p hp hown href =>
    rw [commands_trans _ (show (m.abort p (.failed p)).log = s.log ++ [.failed p] by
      rw [Primary.abort, hm.log]) rfl hr']
    have hpb := hbm p hp
    obtain ⟨l', hl'⟩ := hlm.abort hp (.inl rfl) fun ha => h.down_of_up (hup (ha.symm.trans hpb))
    rw [hpb] at hl'
    simpa only [eq_comm] using hl'.launch ht

/-- t₁ expires; what was in flight is lost. -/
theorem expired {now : ℕ} (hd : s.Disciplined o.profile)
    (ht : s.onT1Timeout o.profile now = .ok t) :
    Paired o t a sec (carry (commands s t) none) none := by
  rcases Primary.onT1Timeout_cases ht with
    ⟨hidle, rfl⟩ | ⟨p, hp, ⟨raw, hlt, -, hraw, rfl⟩ | ⟨-, -, rfl⟩⟩
  · have hlog : ({ s with t1At := none } : Primary UInt16 Asdu).log = s.log := rfl
    rw [commands_none hlog]
    obtain ⟨l', hl'⟩ := h.loseDown
    obtain ⟨l'', hl''⟩ := hl'.loseUp
    exact ⟨l'', hl''.keep (hl''.sends.congr [] rfl rfl rfl (List.append_nil _).symm
      ⟨rfl, rfl, fun _ => rfl⟩) rfl⟩
  · rw [commands_eq (show (s.again p raw _).log = s.log ++ [.repeated p raw] from rfl)]
    exact h.again (hd.genuine p hp) hp
  · rw [commands_eq (show (s.abort p (.gaveUp p)).log = s.log ++ [.gaveUp p] from rfl)]
    obtain ⟨l', hl'⟩ := h.loseDown
    obtain ⟨l'', hl''⟩ := hl'.loseUp
    obtain ⟨l3, hl3⟩ := hl''.abort hp (.inr rfl) fun _ f hf => by cases hf
    rw [ite_self] at hl3
    exact ⟨l3, hl3⟩

end Linked

/-! ### What the station does -/

/-- The station has answered with `f`, if it could be written. -/
theorem paired_of_reply (cfg : Config) {sec' : SecondaryState} {rest : List SecObs} {f : Frame}
    (hl : l.Inv Pending.Fits) (hs : Sends o s a l) (ht : Hears sec' l) (hreq : l.req = false)
    (hrep : l.rep.map (·.1) = some f) (hlog : sec'.log = sec.log ++ rest)
    (hrest : rest.filterMap SecObs.frame =
      (SecondaryState.written cfg f).filterMap SecObs.frame) :
    Paired o s a sec' none (carry (responses sec sec') none) := by
  rw [responses_eq hlog, hrest]
  unfold SecondaryState.written
  split
  · exact ⟨l, hl, hs, ht, hrep, .inr ⟨hreq, fun _ hf => by cases hf⟩⟩
  · exact ⟨_, hl.loseRep, hs.of_eq rfl rfl rfl rfl rfl rfl, ht.of_eq rfl rfl rfl rfl, rfl,
      .inr ⟨hreq, fun _ hf => by cases hf⟩⟩

section Heard

variable {cfg : Config} {p : Pending UInt16} {sec' : SecondaryState}

/-- Only what the entries say about frames matters. -/
theorem frames_counted (f : Frame) (data : Option (DataClass × Octets)) (user : Option Octets) :
    ((data.map fun d => SecObs.served d.1 d.2).toList ++ SecondaryState.written cfg f ++
      (user.map SecObs.dispatched).toList).filterMap SecObs.frame =
        (SecondaryState.written cfg f).filterMap SecObs.frame := by
  cases data <;> cases user <;> simp [SecObs.frame, List.filterMap_cons]

/-- A request is heard. -/
theorem Linked.heard (h : Linked o s a sec down up l) (hreq : l.req = true)
    (hp : s.lastSent = some p) (ha : p.addr = a) (hg : Genuine o.profile s p)
    (ht : SecondaryState.Heard cfg sec p.frame p.ctrl sec') :
    Paired o s a sec' none (carry (responses sec sec') none) := by
  -- the request in flight is the outstanding one
  have hout : l.out = some p.request := h.sends.out.trans (Primary.asked_own hp ha)
  have hcounted : p.ctrl.fcv = true → l.out = some (.counted p) ∧ p.ctrl.fcb = l.bit := by
    intro hfcv
    refine ⟨by rw [hout, Pending.request, if_pos hfcv], ?_⟩
    rw [(hg.counted hfcv).2, ha, h.sends.bit]
  cases ht with
  -- a broadcast, or a frame for another station: as if it had been lost
  | ignored _ =>
    have hnone : responses sec sec = [] := responses_none rfl
    have hup := h.up_of_req hreq
    subst hup
    rw [hnone]
    exact h.loseDown
  -- a reset sets the expected bit; nothing is delivered either way
  | reset f _ hfunc =>
    have hfcv : p.ctrl.fcv = false := by
      have hreq := hg.fcv
      rw [hfunc] at hreq
      exact (Option.some_inj.mp hreq).symm
    have hout' : l.out = some .reset := by
      rw [hout, Pending.request, if_neg (by simp [hfcv]), if_pos hfunc]
    have hl := h.inv.hear (y := (f, none)) hout' fun x hx => by cases hx
    refine paired_of_reply cfg hl (h.sends.hear _ _) ?_ rfl rfl rfl ?_
    · exact ⟨rfl, rfl, h.hears.dispatched.trans (by simp [SecondaryState.replied]),
        h.hears.served.trans (by simp [SecondaryState.replied])⟩
    · rfl
  -- a probe is answered, and neither counts nor is counted
  | probe f _ hfcv hfunc =>
    have hout' : l.out = some .probe := by
      rw [hout, Pending.request, if_neg (by simp [hfcv]), if_neg hfunc]
    have hl := h.inv.hear (y := (f, none)) hout' fun x hx => by cases hx
    refine paired_of_reply cfg hl (h.sends.hear _ _) ?_ rfl rfl rfl rfl
    exact ⟨h.hears.expected, rfl, h.hears.dispatched.trans (by simp [SecondaryState.replied]),
      h.hears.served.trans (by simp [SecondaryState.replied])⟩
  -- the expected bit: what it carries is dispatched now, and what it is served is taken from the
  -- buffers now
  | counted f data sh _ hfcv hbit hpop hdata =>
    obtain ⟨hout', hfcb⟩ := hcounted hfcv
    have hexp : l.expected = l.bit := by rw [h.hears.expected, ← hbit, hfcb]
    have hfits : p.Fits (f, data) := by
      unfold Pending.Fits Pending.dataOf Pending.isClassRequest
      simpa using hdata
    have hl := h.inv.take (y := (f, data)) hout' hexp hfits
    have hs : Sends o s a (l.take (f, data)) := h.sends.of_eq rfl rfl rfl
      Ledger.begun_deliver Ledger.completed_deliver Ledger.delivered_start
    have hfresh := h.inv.fresh hout' hexp
    refine paired_of_reply cfg hl hs ⟨?_, rfl, ?_, ?_⟩ rfl rfl rfl (frames_counted f data _)
    · show (!l.expected) = !sec.fcbExpected
      rw [h.hears.expected]
    · show l.sent.deliver.delivered.filterMap _ = _
      rw [Ledger.delivered_deliver hfresh.sent, List.filterMap_append, h.hears.dispatched]
      show _ = dispatchedData (sec.log ++ _)
      simp only [dispatchedData_append, SecondaryState.dispatchedData_served,
        SecondaryState.dispatchedData_written, SecondaryState.dispatchedData_dispatched]
      show _ = dispatchedData sec.log ++ ([] ++ [] ++ p.payload.toList)
      rcases hx : p.payload with _ | raw <;> simp [hx]
    · show (l.given.start (f, data)).begun.filterMap _ = servedData (sec.log ++ _)
      rw [Ledger.begun_start, List.filterMap_append, h.hears.served]
      simp only [servedData_append, SecondaryState.servedData_served,
        SecondaryState.servedData_written, SecondaryState.servedData_dispatched]
      rcases data with _ | d <;> simp
  -- the other bit: the station has taken this request before, and its remembered answer goes out
  -- again
  | repeated f hfcv hbit hlast _ =>
    obtain ⟨hout', hfcb⟩ := hcounted hfcv
    have hne : l.expected ≠ l.bit := by
      rw [h.hears.expected, ← hfcb]
      exact hbit.symm
    have hl := h.inv.resend hout' hne
    obtain ⟨y, htaken⟩ := h.inv.repeated hout' hne
    have hf : f = y.1 := hlast y.1 (by rw [← h.hears.cached, htaken.cached]; rfl)
    refine paired_of_reply cfg hl (h.sends.of_eq rfl rfl rfl rfl rfl rfl) ⟨h.hears.expected, ?_, ?_, ?_⟩
      rfl ?_ rfl rfl
    · show l.cached.map _ = some f
      rw [htaken.cached, hf]
      rfl
    · exact h.hears.dispatched.trans (by simp [SecondaryState.replied])
    · exact h.hears.served.trans (by simp [SecondaryState.replied])
    · show l.cached.map _ = some f
      rw [htaken.cached, hf]
      rfl

/-- **A frame in flight to the station is heard**, whether it is for this station or
for another one. -/
theorem Linked.hear {f : Frame} (h : Linked o s a sec (some f) up l)
    (hd : s.Disciplined o.profile) (hcfg : cfg.WellFormed) (haddr : cfg.linkAddress = a)
    (now : ℕ) :
    Paired o s a (sec.receive cfg f now) none
      (carry (responses sec (sec.receive cfg f now)) up) := by
  rcases h.req with ⟨hreq, p, hp, ha, hf⟩ | ⟨hreq, hstray⟩
  · cases hf
    have hg := hd.genuine p hp
    have hus : p.frame.linkAddr = some cfg.linkAddress := by rw [hg.linkAddr, haddr, ← ha]; rfl
    have hup := h.up_of_req hreq
    subst hup
    exact h.heard hreq hp ha hg
      (SecondaryState.heard_receive now hg.control hus hg.prm hg.fcv hg.answered)
  · obtain ⟨ctrl, b, hctrl, hb, hne, hprm, hans⟩ := hstray f rfl
    rw [SecondaryState.receive_other now hctrl hb (by rwa [haddr]) hcfg hprm hans,
      responses_none rfl]
    exact h.loseDown

/-- A frame in flight to the station leaves its buffers in order. -/
theorem Linked.inStock {f : Frame} (h : Linked o s a sec (some f) up l)
    (hd : s.Disciplined o.profile) (hcfg : cfg.WellFormed) (haddr : cfg.linkAddress = a)
    (now : ℕ) (hst : sec.InStock) : (sec.receive cfg f now).InStock := by
  rcases h.req with ⟨-, p, hp, ha, hf⟩ | ⟨-, hstray⟩
  · cases hf
    have hg := hd.genuine p hp
    have hus : p.frame.linkAddr = some cfg.linkAddress := by rw [hg.linkAddr, haddr, ← ha]; rfl
    exact (SecondaryState.heard_receive now hg.control hus hg.prm hg.fcv hg.answered).inStock hst
  · obtain ⟨ctrl, b, hctrl, hb, hne, hprm, hans⟩ := hstray f rfl
    rwa [SecondaryState.receive_other now hctrl hb (by rwa [haddr]) hcfg hprm hans]

end Heard

/-! ### What a link accounts for -/

/-- What was dispatched and completed is accounted for by what was queued, and what the
primary delivered of the station was served by it, in that order. -/
theorem Linked.accounts (h : Linked o s a sec down up l) (hd : s.Disciplined o.profile) :
    Accounts (queuedFor o.profile a s.log) (dispatchedData sec.log) (completedFor a s.log) := by
  have hq : (l.sent.begun.filterMap Pending.payload).Sublist (queuedFor o.profile a s.log) := by
    rw [h.sends.begun]
    exact (List.sublist_append_left _ _).trans (hd.order a)
  have hacc := Ledger.accounts h.inv.honest Pending.payload hq
  rwa [h.hears.dispatched, h.sends.completed] at hacc

theorem Linked.delivered (h : Linked o s a sec down up l) (hbal : o.config.isBalanced = false) :
    ∃ got : List (DataClass × Octets), got.Sublist (servedData sec.log) ∧
      got.map (·.2) = deliveredFrom a s.log := by
  refine ⟨l.given.delivered.filterMap (·.2), ?_, h.sends.got hbal⟩
  rw [← h.hears.served]
  exact (Ledger.delivered_sublist_begun _).filterMap _

end Cs101
end Iec60870
