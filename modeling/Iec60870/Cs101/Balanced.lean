import Iec60870.Cs101.Peer
import Iec60870.Cs101.Reports

/-!
# The balanced line

Two stations on a point-to-point line, each a primary for its own user data and a
secondary for the other's.  What the first station sends as a primary and the
second answers is in flight in two slots, what the second sends as a primary and the
first answers in two more.  When a station's response timer expires, nothing of its
transaction is in flight any more.

Octets are not modelled here: a frame arrives as it was written.

## Main definitions

* `Balanced`, `Balanced.step`, `Balanced.machine` — the line and its runs.
* `Joined` — the two configurations belong together.

## Main results

* `Balanced.both_in_order` — user data is delivered in order and at most once in
  both directions, and everything completed was delivered.
-/

namespace Iec60870
namespace Cs101

open PrimFc

/-- Two balanced stations and what is in flight between them. -/
structure Balanced where
  /-- The station that opens the line. -/
  prim : LinkState
  /-- Its peer. -/
  sec : SecondaryState
  /-- The command in flight to the peer, and its answer. -/
  command : Option Frame
  response : Option Frame
  /-- The command in flight from the peer, and its answer. -/
  peerCommand : Option Frame
  peerResponse : Option Frame

namespace Balanced

variable (o : ClientOption) (cfg : Config) (l : Balanced)

/-- Fresh states on both sides. -/
def init : Balanced where
  prim := .new o
  sec := .new .empty [] 0
  command := none
  response := none
  peerCommand := none
  peerResponse := none

/-- The first station goes on to `p`; the commands it wrote are in flight. -/
def sent (p : LinkState) : Balanced :=
  { l with
    prim := p
    command := carry (commands l.prim.toPrimary p.toPrimary) l.command }

/-- The first station has taken the command in flight to it and goes on to `p`. -/
def replied (p : LinkState) : Balanced :=
  { l with
    prim := p
    peerCommand := none
    peerResponse := carry (replies l.prim.toPrimary p.toPrimary) l.peerResponse }

/-- The peer has taken the command in flight to it and goes on to `s`. -/
def heard (s : SecondaryState) : Balanced :=
  { l with
    sec := s
    command := none
    response := carry (responses l.sec s) l.response }

/-- The primary role of the peer has run at the instant `now` and goes on to `s`. -/
def ticked (s : SecondaryState) (now : ℕ) : Balanced :=
  { l with
    sec := s
    peerCommand := carry (responses l.sec s) (if l.sec.expired now then none else l.peerCommand)
    peerResponse := if l.sec.expired now then none else l.peerResponse }

/-- What can happen on the line: either station runs or receives what is in flight
to it, or a frame is lost. -/
inductive Event
  /-- A step of the first station other than receiving a frame. -/
  | prim (e : LinkState.Event)
  /-- The peer receives the command in flight to it. -/
  | hear (now : ℕ)
  /-- The first station receives the answer. -/
  | answer (now : ℕ)
  /-- The primary role of the peer runs. -/
  | tick (now : ℕ)
  /-- The first station receives the peer's command. -/
  | peerHear (now : ℕ)
  /-- The peer receives the answer. -/
  | peerAnswer (now : ℕ)
  | loseCommand
  | loseResponse
  | losePeerCommand
  | losePeerResponse
  /-- The application of the peer queues an ASDU. -/
  | send (asdu : Asdu)
  deriving DecidableEq, Repr

/-- One step; none when the event does not arise. -/
def step : Event → Option Balanced
  | .prim (.frame _ _) => none
  | .prim (.t1 now) =>
    (l.prim.step o (.t1 now)).map { l with command := none, response := none }.sent
  | .prim e => (l.prim.step o e).map l.sent
  | .hear now => l.command.map fun f => l.heard (l.sec.receive cfg f now)
  | .answer now =>
    l.response.map fun f => { l with response := none }.sent (l.prim.handleFrame o f now).2
  | .tick now => some (l.ticked (l.sec.primTick cfg now) now)
  | .peerHear now => l.peerCommand.map fun f => l.replied (l.prim.handleFrame o f now).2
  | .peerAnswer now =>
    l.peerResponse.map fun f =>
      { l with sec := l.sec.receive cfg f now, peerResponse := none }
  | .loseCommand => some { l with command := none }
  | .loseResponse => some { l with response := none }
  | .losePeerCommand => some { l with peerCommand := none }
  | .losePeerResponse => some { l with peerResponse := none }
  | .send asdu => (l.sec.send cfg asdu).toOption.map fun s => { l with sec := s }

/-- The runs of the line. -/
def machine : Machine Balanced Event where
  init := init o
  next := fun l e => l.step o cfg e

end Balanced

/-- The two configurations belong together: both balanced, with the same link address,
which was accepted. -/
structure Joined (o : ClientOption) (cfg : Config) : Prop where
  balanced : o.config.isBalanced = true
  station : cfg.isBalanced = true
  address : cfg.linkAddress = o.config.linkAddress
  size : cfg.linkAddrSize = o.config.linkAddrSize
  wellFormed : cfg.WellFormed

/-! ### The first station -/

namespace LinkState

variable {o : ClientOption} {s t : LinkState} {a : UInt16}

/-- A balanced station that receives no command neither expects another FCB nor
delivers user data. -/
def Deaf (a : UInt16) (s t : LinkState) : Prop :=
  t.fcbExpected = s.fcbExpected ∧ deliveredFrom a t.log = deliveredFrom a s.log

theorem fcbExpected_of_step {e : Event} (hframe : ∀ f now, e ≠ .frame f now)
    (h : s.step o e = some t) : t.fcbExpected = s.fcbExpected := by
  cases e with
  | frame f now => exact absurd rfl (hframe f now)
  | linkRequest func now =>
    cases h
    rcases handleLinkRequest_cases (o := o) (s := s) func now with h | ⟨-, h⟩
    · exact h.2
    · exact h.2
  | t1 now =>
    rw [step] at h
    split at h
    · unfold onT1Timeout at h
      split at h <;> cases h
      rfl
    · cases h
  | t3 now =>
    cases h
    exact (launches_onT3Timeout now).2
  | tick now =>
    cases h
    exact (launches_tick now).2
  | send asdu addr =>
    rw [step, sendTo] at h
    split at h <;> cases h
    rfl
  | outClosed =>
    cases h
    rfl

/-- Beginning a transaction delivers nothing. -/
theorem deliveredFrom_launch {p q : Primary UInt16 Asdu} (h : Primary.Launch o.profile p q) :
    deliveredFrom a q.log = deliveredFrom a p.log := by
  cases h with
  | note hn => rw [hn.log]
  | @begin m p' queue raw due hn hidle hopen hp hraw =>
    show deliveredFrom a (m.log ++ [.began p' raw]) = _
    rw [deliveredFrom_concat, hn.log]
    exact List.append_nil _

theorem deliveredFrom_stir {p q : Primary UInt16 Asdu} (h : Stir p q) :
    deliveredFrom a q.log = deliveredFrom a p.log := by
  cases h with
  | nothing => rfl
  | @askReset b hidle => exact (deliveredFrom_concat p.log (.resetAsked b) a).trans (List.append_nil _)
  | push out => exact (deliveredFrom_concat p.log (.queued out) a).trans (List.append_nil _)
  | close => rfl

/-- What the station does of its own accord. -/
theorem deaf_of_step {e : Event} (hframe : ∀ f now, e ≠ .frame f now)
    (h : s.step o e = some t) : Deaf a s t := by
  refine ⟨fcbExpected_of_step hframe h, ?_⟩
  by_cases ht1 : ∃ now, e = .t1 now
  · obtain ⟨now, rfl⟩ := ht1
    rcases Primary.onT1Timeout_cases (onT1Timeout_of_step h) with
      ⟨-, ht⟩ | ⟨p, hp, ⟨raw, -, -, -, ht⟩ | ⟨-, -, ht⟩⟩
    · rw [ht]
    · rw [ht]
      exact (deliveredFrom_concat s.log (.repeated p raw) a).trans (List.append_nil _)
    · rw [ht]
      exact (deliveredFrom_concat s.log (.gaveUp p) a).trans (List.append_nil _)
  · push Not at ht1
    obtain ⟨m, hm, ht⟩ := moves_cases hframe ht1 h
    rw [deliveredFrom_launch ht, deliveredFrom_stir hm]

/-- A balanced station does not poll, so an answer delivers nothing. -/
theorem deaf_of_answers {f : Frame} (hbal : o.config.isBalanced = true)
    (hd : s.Disciplined o.profile) (h : Answers o f s t) : Deaf a s t := by
  obtain ⟨hexp, m, n, hm, hn, ht⟩ := h
  refine ⟨hexp, ?_⟩
  rw [deliveredFrom_launch ht, ← hm.log]
  cases hn with
  | ignored => rfl
  | @completed p hp hown hpos =>
    have hnone : p.dataOf f = none := by
      refine if_neg fun hclass => ?_
      have hpolls := ((hd.note hm).genuine p hp).polls hclass
      rw [show o.profile.polls = !o.config.isBalanced from rfl, hbal] at hpolls
      cases hpolls
    rw [log_completeBy, hnone]
    exact (deliveredFrom_concat m.log (.completed p) a).trans (List.append_nil _)
  | @refused p hp hown href =>
    exact (deliveredFrom_concat m.log (.failed p) a).trans (List.append_nil _)

/-- A response is handled as an answer. -/
theorem answers_of_isResponse {f : Frame} (hf : f.IsResponse) (now : ℕ) :
    Answers o f s (s.handleFrame o f now).2 := by
  rcases handleFrame_cases (o := o) (s := s) f now with h | ⟨⟨-, ctrl, hctrl, hprm⟩, -⟩
  · exact h
  · rw [hf ctrl hctrl] at hprm
    cases hprm

/-- What a command of the peer can do to the rest of the station. -/
theorem PeerHeard.spoke {f : Frame} {ctrl : ControlField} (h : PeerHeard s f ctrl a t) :
    Spoke s t := by
  have hentries : ∀ {rest}, IsReply rest → PeerEntries rest := by
    rintro rest (rfl | ⟨g, raw, rfl, -⟩) x hx
    · cases hx
    · exact .inl ⟨g, raw, List.mem_singleton.mp hx⟩
  cases h with
  | ignored => exact .refl s
  | reset hrest _ => exact ⟨_, hentries hrest, rfl⟩
  | @taken rest raw hrest _ _ _ =>
    refine ⟨rest ++ [.delivered a raw], fun x hx => ?_, ?_⟩
    · rcases List.mem_append.mp hx with hx | hx
      · exact hentries hrest x hx
      · exact .inr ⟨a, raw, List.mem_singleton.mp hx⟩
    · rw [← List.append_assoc]
  | repeated hrest _ _ => exact ⟨_, hentries hrest, rfl⟩

end LinkState

/-- What the secondary role of a balanced station records is nothing to its
transactions. -/
theorem Linked.spoke {o : ClientOption} {s t : LinkState} {a : UInt16} {sec : SecondaryState}
    {down up : Option Frame} {b : Bit} (h : Linked o s.toPrimary a sec down up b)
    (hbal : o.config.isBalanced = true) (ht : LinkState.Spoke s t) :
    Linked o t.toPrimary a sec down up b := by
  obtain ⟨rest, hrest, ht⟩ := ht
  rw [ht]
  refine h.keep (h.sends.congr rest rfl rfl rfl rfl ⟨?_, ?_, fun hf => ?_⟩) rfl
  · refine List.filterMap_eq_nil_iff.mpr fun x hx => ?_
    rcases hrest x hx with ⟨f, raw, rfl⟩ | ⟨c, raw, rfl⟩ <;> rfl
  · refine List.filterMap_eq_nil_iff.mpr fun x hx => ?_
    rcases hrest x hx with ⟨f, raw, rfl⟩ | ⟨c, raw, rfl⟩ <;> rfl
  · rw [hbal] at hf
    cases hf

/-! ### The peer -/

namespace SecondaryState

variable {cfg : Config} {s t : SecondaryState}

/-- What was sent in the primary role, followed by what is still queued for it, was
queued in that order. -/
def InQueue (s : SecondaryState) : Prop :=
  (sentBy s.log ++ encodable s.shared.primQueue).Sublist (queuedBy s.log)

theorem Ticked.inQueue {now : ℕ} (ht : Ticked cfg s now t) (h : s.InQueue) : t.InQueue := by
  unfold InQueue at h ⊢
  cases ht with
  | idle hout hctrl hfcb hact hqueue hexp hlast hbuf hlog =>
    rw [hlog]
    exact (hqueue.append_left _).trans h
  | again hout hdue => simpa using h
  | gaveUp hout hdue => exact h
  | @began frame ctrl sh next due hout hcmd hact hqueue hbuf =>
    have hsent : sentBy [.wrote frame, .began frame] = frame.asdu.toList := by
      rcases hx : frame.asdu with _ | raw <;>
        simp [sentBy, SecObs.beganData, List.filterMap_cons, hx]
    have hqueued : queuedBy [.wrote frame, .began frame] = [] := rfl
    rw [sentBy_append, hsent, queuedBy_append, hqueued, List.append_nil, List.append_assoc,
      ← hqueue]
    exact h

theorem Answered.inQueue (ht : s.Answered t) (h : s.InQueue) : t.InQueue := by
  cases ht with
  | ignored => exact h
  | confirmed =>
    rcases hout : s.primOut with _ | frame
    · rw [primConfirm, hout]
      exact h
    · rw [primConfirm_eq hout]
      have hsent : sentBy [.completed frame] = [] := rfl
      have hqueued : queuedBy [.completed frame] = [] := rfl
      show (sentBy (s.log ++ [.completed frame]) ++ _).Sublist (queuedBy (s.log ++ _))
      rw [sentBy_append, queuedBy_append, hsent, hqueued, List.append_nil, List.append_nil]
      exact h
  | refused next => exact h

theorem inQueue_send {a : Asdu} (hbal : cfg.isBalanced = true) (h : s.InQueue)
    (hs : s.send cfg a = .ok t) : t.InQueue := by
  unfold send at hs
  rw [if_pos hbal] at hs
  split at hs
  · cases hs
  · cases hs
    have hput : queuedBy [.queued a] = encodable [a] := rfl
    show (sentBy (s.log ++ _) ++ encodable (s.shared.primQueue ++ [a])).Sublist
      (queuedBy (s.log ++ _))
    rw [sentBy_append, queuedBy_append, hput, encodable_append]
    show (sentBy s.log ++ [] ++ _).Sublist _
    rw [List.append_nil, ← List.append_assoc]
    exact h.append_right _

/-- `t` differs from `s` in nothing the secondary role depends on. -/
structure Aside (s t : SecondaryState) : Prop where
  expected : t.fcbExpected = s.fcbExpected
  lastResp : t.lastResp = s.lastResp
  log : ∃ rest, t.log = s.log ++ rest ∧ dispatchedData rest = [] ∧ servedData rest = []

theorem Aside.hears {b : Bit} (ht : s.Aside t) (h : Hears s b) : Hears t b := by
  obtain ⟨rest, hlog, hdone, hserved⟩ := ht.log
  exact h.record ht.expected ht.lastResp hlog hdone hserved

theorem Ticked.aside {now : ℕ} (ht : Ticked cfg s now t) : s.Aside t := by
  cases ht with
  | idle hout hctrl hfcb hact hqueue hexp hlast hbuf hlog =>
    exact ⟨hexp, hlast, [], by rw [hlog, List.append_nil], rfl, rfl⟩
  | again hout hdue => exact ⟨rfl, rfl, _, rfl, dispatchedData_written _ _, servedData_written _ _⟩
  | gaveUp hout hdue => exact ⟨rfl, rfl, [], (List.append_nil _).symm, rfl, rfl⟩
  | began hout hcmd hact hqueue hbuf => exact ⟨rfl, rfl, _, rfl, rfl, rfl⟩

theorem Answered.aside (ht : s.Answered t) : s.Aside t := by
  have hsame : s.Aside s := ⟨rfl, rfl, [], (List.append_nil _).symm, rfl, rfl⟩
  cases ht with
  | ignored => exact hsame
  | confirmed =>
    rcases hout : s.primOut with _ | frame
    · rw [primConfirm, hout]
      exact hsame
    · rw [primConfirm_eq hout]
      exact ⟨rfl, rfl, _, rfl, rfl, rfl⟩
  | refused next => exact ⟨rfl, rfl, [], (List.append_nil _).symm, rfl, rfl⟩

theorem send_cases {a : Asdu} (hbal : cfg.isBalanced = true) (hs : s.send cfg a = .ok t) :
    s.Aside t ∧ s.RoleSame t := by
  unfold send at hs
  rw [if_pos hbal] at hs
  split at hs
  · cases hs
  · cases hs
    refine ⟨⟨rfl, rfl, [.queued a], rfl, rfl, rfl⟩, ⟨rfl, rfl, rfl, rfl, ?_, ?_⟩⟩
    · exact (sentBy_append _ _).trans (List.append_nil _)
    · exact (completedBy_append _ _).trans (List.append_nil _)

/-- What hearing a command does to the primary role, and what is then in flight. -/
structure Passive (s t : SecondaryState) : Prop where
  role : s.RoleSame t
  queue : s.InQueue → t.InQueue
  cached : (∀ f ∈ s.lastResp, f.IsResponse) → ∀ f ∈ t.lastResp, f.IsResponse
  wrote : (∀ f ∈ s.lastResp, f.IsResponse) → ∀ f ∈ responses s t, f.IsResponse

theorem passive_refl (s : SecondaryState) : s.Passive s where
  role := ⟨rfl, rfl, rfl, rfl, rfl, rfl⟩
  queue := id
  cached := id
  wrote := fun _ f hf => by
    rw [responses_none rfl] at hf
    cases hf

variable (cfg) in
/-- A response with entries that say nothing about the primary role. -/
theorem passive_replied {e : Bool} {f : Frame} {sh : Shared} {rest : List SecObs}
    (hf : (∀ f ∈ s.lastResp, f.IsResponse) → f.IsResponse)
    (hqueue : sh.primQueue = s.shared.primQueue) (hsent : sentBy rest = [])
    (hdone : completedBy rest = []) (hqueued : queuedBy rest = [])
    (hframes : rest.filterMap SecObs.frame = (written cfg f).filterMap SecObs.frame) :
    s.Passive (s.replied e f sh rest) where
  role := by
    refine ⟨rfl, rfl, rfl, rfl, ?_, ?_⟩
    · show sentBy (s.log ++ rest) = _
      rw [sentBy_append, hsent, List.append_nil]
    · show completedBy (s.log ++ rest) = _
      rw [completedBy_append, hdone, List.append_nil]
  queue := fun h => by
    show (sentBy (s.log ++ rest) ++ encodable sh.primQueue).Sublist (queuedBy (s.log ++ rest))
    rw [sentBy_append, queuedBy_append, hsent, hqueued, hqueue, List.append_nil, List.append_nil]
    exact h
  cached := fun h g hg => by
    cases hg
    exact hf h
  wrote := fun h g hg => by
    rw [responses_eq (show (s.replied e f sh rest).log = s.log ++ rest from rfl), hframes] at hg
    unfold written at hg
    split at hg
    · rw [List.mem_singleton.mp hg]
      exact hf h
    · cases hg

/-- **A command says nothing to the primary role.** -/
theorem Heard.passive {frame : Frame} {ctrl : ControlField} (h : Heard cfg s frame ctrl t) :
    s.Passive t := by
  cases h with
  | ignored _ => exact passive_refl s
  | reset f hf _ =>
    refine passive_replied cfg (fun _ => hf) rfl ?_ ?_ ?_ rfl
    · exact sentBy_written f
    · exact completedBy_written f
    · exact queuedBy_written f
  | probe f hf _ _ =>
    exact passive_replied cfg (fun _ => hf) rfl (sentBy_written f) (completedBy_written f)
      (queuedBy_written f) rfl
  -- the reply to a counted frame is the one with effects of its own: a response is taken from the
  -- buffers and data is dispatched, and neither is an entry of the primary role
  | counted f data sh hf _ _ hpop _ =>
    refine passive_replied cfg (fun _ => hf) hpop.primQueue ?_ ?_ ?_
      (frames_counted f data _)
    · rw [sentBy_append, sentBy_append, sentBy_written]
      rcases data with _ | d <;> split <;> rcases frame.asdu with _ | raw <;> rfl
    · rw [completedBy_append, completedBy_append, completedBy_written]
      rcases data with _ | d <;> split <;> rcases frame.asdu with _ | raw <;> rfl
    · rw [queuedBy_append, queuedBy_append, queuedBy_written]
      rcases data with _ | d <;> split <;> rcases frame.asdu with _ | raw <;> rfl
  -- a repetition is answered from memory, without a new response
  | repeated f _ _ hlast hf =>
    refine passive_replied cfg (fun h => ?_) rfl (sentBy_written f)
      (completedBy_written f) (queuedBy_written f) rfl
    rcases hr : s.lastResp with _ | g
    · exact hf hr
    · rw [hlast g hr]
      exact h g hr

end SecondaryState

/-! ### Runs -/

/-- The station either is the one that is asked, and hears a request, or stays as it is. -/
theorem Linked.heard_cases {o : ClientOption} {s : Primary UInt16 Asdu} {a : UInt16}
    {sec : SecondaryState} {f : Frame} {up : Option Frame} {b : Bit} {cfg : Config}
    (h : Linked o s a sec (some f) up b) (hd : s.Disciplined o.profile) (hcfg : cfg.WellFormed)
    (haddr : cfg.linkAddress = a) (now : ℕ) :
    sec.receive cfg f now = sec ∨
      ∃ ctrl, SecondaryState.Heard cfg sec f ctrl (sec.receive cfg f now) := by
  rcases h.req with ⟨-, p, hp, ha, hf⟩ | ⟨-, hstray⟩
  · cases hf
    have hg := hd.genuine p hp
    have hus : p.frame.linkAddr = some cfg.linkAddress := by rw [hg.linkAddr, haddr, ← ha]; rfl
    exact .inr ⟨_, SecondaryState.heard_receive now hg.control hus hg.prm hg.fcv hg.answered⟩
  · obtain ⟨ctrl, b, hctrl, hb, hne, hprm, hans⟩ := hstray f rfl
    exact .inl (SecondaryState.receive_other now hctrl hb (by rwa [haddr]) hcfg hprm hans)

namespace Balanced

variable {o : ClientOption} {cfg : Config} {l l' : Balanced}

/-- What a step can do: the step function taken apart once, so that each invariant
is proved by its cases. -/
inductive Moved (o : ClientOption) (cfg : Config) (l : Balanced) : Balanced → Prop
  | moves {e : LinkState.Event} {p : LinkState} (hframe : ∀ f now, e ≠ .frame f now)
      (ht1 : ∀ now, e ≠ .t1 now) (hp : l.prim.step o e = some p) : Moved o cfg l (l.sent p)
  | expired {now : ℕ} {p : LinkState} (hp : l.prim.step o (.t1 now) = some p) :
      Moved o cfg l (({ l with command := none, response := none } : Balanced).sent p)
  | hear {f : Frame} {now : ℕ} (hf : l.command = some f) :
      Moved o cfg l (l.heard (l.sec.receive cfg f now))
  | answer {f : Frame} {now : ℕ} (hf : l.response = some f) :
      Moved o cfg l
        (({ l with response := none } : Balanced).sent (l.prim.handleFrame o f now).2)
  | tick (now : ℕ) : Moved o cfg l (l.ticked (l.sec.primTick cfg now) now)
  | peerHear {f : Frame} {now : ℕ} (hf : l.peerCommand = some f) :
      Moved o cfg l (l.replied (l.prim.handleFrame o f now).2)
  | peerAnswer {f : Frame} {now : ℕ} (hf : l.peerResponse = some f) :
      Moved o cfg l { l with sec := l.sec.receive cfg f now, peerResponse := none }
  | loseCommand : Moved o cfg l { l with command := none }
  | loseResponse : Moved o cfg l { l with response := none }
  | losePeerCommand : Moved o cfg l { l with peerCommand := none }
  | losePeerResponse : Moved o cfg l { l with peerResponse := none }
  | send {asdu : Asdu} {s : SecondaryState} (hs : l.sec.send cfg asdu = .ok s) :
      Moved o cfg l { l with sec := s }

theorem moved_of_step {e : Event} (hs : l.step o cfg e = some l') : Moved o cfg l l' := by
  have hmoves : ∀ e' : LinkState.Event, (∀ f now, e' ≠ .frame f now) → (∀ now, e' ≠ .t1 now) →
      (l.prim.step o e').map l.sent = some l' → Moved o cfg l l' := by
    intro e' hframe ht1 he'
    obtain ⟨p, hp, rfl⟩ := Option.map_eq_some_iff.mp he'
    exact .moves hframe ht1 hp
  cases e with
  -- of the primary role's own steps only a frame and the expiry of t1 touch the line
  | prim e =>
    cases e with
    | frame f now => cases hs
    | t1 now =>
      obtain ⟨p, hp, rfl⟩ := Option.map_eq_some_iff.mp hs
      exact .expired hp
    | linkRequest func now => exact hmoves (.linkRequest func now) nofun nofun hs
    | t3 now => exact hmoves (.t3 now) nofun nofun hs
    | tick now => exact hmoves (.tick now) nofun nofun hs
    | send asdu addr => exact hmoves (.send asdu addr) nofun nofun hs
    | outClosed => exact hmoves .outClosed nofun nofun hs
  | hear now =>
    obtain ⟨f, hf, rfl⟩ := Option.map_eq_some_iff.mp hs
    exact .hear hf
  | answer now =>
    obtain ⟨f, hf, rfl⟩ := Option.map_eq_some_iff.mp hs
    exact .answer hf
  | tick now =>
    cases hs
    exact .tick now
  | peerHear now =>
    obtain ⟨f, hf, rfl⟩ := Option.map_eq_some_iff.mp hs
    exact .peerHear hf
  | peerAnswer now =>
    obtain ⟨f, hf, rfl⟩ := Option.map_eq_some_iff.mp hs
    exact .peerAnswer hf
  | loseCommand =>
    cases hs
    exact .loseCommand
  | loseResponse =>
    cases hs
    exact .loseResponse
  | losePeerCommand =>
    cases hs
    exact .losePeerCommand
  | losePeerResponse =>
    cases hs
    exact .losePeerResponse
  -- queueing is the one event that can be refused
  | send asdu =>
    obtain ⟨s, hs', rfl⟩ := Option.map_eq_some_iff.mp hs
    rcases hr : l.sec.send cfg asdu with e | s'
    · rw [hr] at hs'
      cases hs'
    · rw [hr] at hs'
      cases hs'
      exact .send hr

/-- Both directions are those of an alternating bit. -/
structure Inv (o : ClientOption) (cfg : Config) (l : Balanced) : Prop where
  disciplined : l.prim.Disciplined o.profile
  paired : Paired o l.prim.toPrimary cfg.linkAddress l.sec l.command l.response
  peer : PeerPaired cfg l.sec l.prim l.peerCommand l.peerResponse
  queue : l.sec.InQueue
  response : ∀ f ∈ l.response, f.IsResponse
  lastResp : ∀ f ∈ l.sec.lastResp, f.IsResponse

theorem inv_init : (init o).Inv o cfg where
  disciplined := Primary.disciplined_new _ _
  paired := ⟨_, linked_init _ _ _⟩
  peer := ⟨_, .init _ _⟩
  queue := List.Sublist.refl _
  response := fun _ hf => by cases hf
  lastResp := fun _ hf => by cases hf

/-- What is in flight is one of the responses written, or was in flight before. -/
theorem isResponse_carry {news : List Frame} {old : Option Frame}
    (hnews : ∀ f ∈ news, f.IsResponse) (hold : ∀ f ∈ old, f.IsResponse) :
    ∀ f ∈ carry news old, f.IsResponse := by
  intro f hf
  unfold carry at hf
  rcases hlast : news.getLast? with _ | g
  · rw [hlast] at hf
    exact hold f hf
  · rw [hlast] at hf
    cases hf
    exact hnews _ (List.mem_of_getLast? hlast)

namespace Inv

variable (h : l.Inv o cfg)

include h

/-- The first station moves of its own accord, and the peer does not notice. -/
theorem peer_of_deaf {p : LinkState} (hp : LinkState.Deaf cfg.linkAddress l.prim p) :
    PeerPaired cfg l.sec p l.peerCommand l.peerResponse := by
  obtain ⟨b, hb⟩ := h.peer
  exact ⟨b, hb.same ⟨rfl, rfl, rfl, rfl, rfl, rfl⟩ hp.1 hp.2⟩

/-- The primary role of the peer moves, and the first station does not notice. -/
theorem paired_of_aside {s : SecondaryState} (hs : l.sec.Aside s) :
    Paired o l.prim.toPrimary cfg.linkAddress s l.command l.response := by
  obtain ⟨b, hb⟩ := h.paired
  exact ⟨b, { hb with hears := hs.hears hb.hears }⟩

/-- The peer hears a command. -/
theorem hear {f : Frame} (hm : Joined o cfg) (hf : l.command = some f) (now : ℕ) :
    (l.heard (l.sec.receive cfg f now)).Inv o cfg := by
  obtain ⟨b, hb⟩ := h.paired
  rw [hf] at hb
  have hpassive : l.sec.Passive (l.sec.receive cfg f now) := by
    rcases hb.heard_cases h.disciplined hm.wellFormed rfl now with hsame | ⟨ctrl, hheard⟩
    · rw [hsame]
      exact SecondaryState.passive_refl _
    · exact hheard.passive
  obtain ⟨b', hb'⟩ := h.peer
  exact {
    disciplined := h.disciplined
    paired := hb.hear h.disciplined hm.wellFormed rfl now
    peer := ⟨b', hb'.same hpassive.role rfl rfl⟩
    queue := hpassive.queue h.queue
    response := isResponse_carry (hpassive.wrote h.lastResp) h.response
    lastResp := hpassive.cached h.lastResp }

/-- The first station hears the answer. -/
theorem answer {f : Frame} (hm : Joined o cfg) (hf : l.response = some f) (now : ℕ) :
    (({ l with response := none } : Balanced).sent (l.prim.handleFrame o f now).2).Inv o cfg := by
  obtain ⟨b, hb⟩ := h.paired
  have hanswers := LinkState.answers_of_isResponse (o := o) (s := l.prim) (h.response f hf) now
  have hown : ∀ p, l.prim.lastSent = some p → p.addr = cfg.linkAddress := by
    obtain ⟨p, hp, hpa⟩ := hb.asked_of_up hf
    intro q hq
    rw [hp] at hq
    cases hq
    exact hpa
  have hpair := hb.answered h.disciplined hown (fun _ => hf) hanswers.2
  rw [if_pos rfl] at hpair
  exact {
    disciplined := h.disciplined.acts (LinkState.acts_handleFrame f now)
    paired := hpair
    peer := h.peer_of_deaf (LinkState.deaf_of_answers hm.balanced h.disciplined hanswers)
    queue := h.queue
    response := fun _ hf => by cases hf
    lastResp := h.lastResp }

/-- The first station hears a command of the peer. -/
theorem peerHear {f : Frame} (hm : Joined o cfg) (hf : l.peerCommand = some f) (now : ℕ) :
    (l.replied (l.prim.handleFrame o f now).2).Inv o cfg := by
  obtain ⟨b, hb⟩ := h.peer
  have hcmd := hb.command f (hb.req f hf).2
  have hheard := LinkState.peerHeard_handleFrame (s := l.prim) hm.balanced hcmd now
  obtain ⟨b', hb'⟩ := h.paired
  exact {
    disciplined := h.disciplined.acts (LinkState.acts_handleFrame f now)
    paired := ⟨b', hb'.spoke hm.balanced hheard.spoke⟩
    peer := hb.heard hf hheard
    queue := h.queue
    response := h.response
    lastResp := h.lastResp }

/-- The peer hears the answer. -/
theorem peerAnswer {f : Frame} (hm : Joined o cfg) (hf : l.peerResponse = some f) (now : ℕ) :
    ({ l with sec := l.sec.receive cfg f now, peerResponse := none } : Balanced).Inv o cfg := by
  obtain ⟨b, hb⟩ := h.peer
  have ht := SecondaryState.answered_receive (s := l.sec) hm.station (hb.rep f hf).2 now
  exact {
    disciplined := h.disciplined
    paired := h.paired_of_aside ht.aside
    peer := hb.answered hf ht
    queue := ht.inQueue h.queue
    response := h.response
    lastResp := ht.aside.lastResp ▸ h.lastResp }

end Inv

/-- **Everything that happens on the line keeps both directions.** -/
theorem inv_step {e : Event} (hm : Joined o cfg) (h : l.Inv o cfg)
    (hs : l.step o cfg e = some l') : l'.Inv o cfg := by
  cases moved_of_step hs with
  -- the controlling station moves by itself: the other direction does not notice
  | moves hframe ht1 hp =>
    obtain ⟨b, hb⟩ := h.paired
    exact ⟨h.disciplined.acts (LinkState.acts_of_step hp), hb.moves hframe ht1 hp,
      h.peer_of_deaf (LinkState.deaf_of_step hframe hp), h.queue, h.response, h.lastResp⟩
  -- t1 has expired: the direction of its commands is in step again, the other is left as it is
  | @expired now p hp =>
    obtain ⟨b, hb⟩ := h.paired
    exact ⟨h.disciplined.acts (LinkState.acts_of_step hp),
      hb.expired h.disciplined (LinkState.onT1Timeout_of_step hp),
      h.peer_of_deaf (LinkState.deaf_of_step (e := .t1 now) nofun hp), h.queue, fun _ hf => (by cases hf),
      h.lastResp⟩
  | hear hf => exact h.hear hm hf _
  | answer hf => exact h.answer hm hf _
  -- a tick of the controlled station moves the direction of its own commands
  | tick now =>
    obtain ⟨b, hb⟩ := h.peer
    have ht : SecondaryState.Ticked cfg l.sec now (l.sec.primTick cfg now) :=
      SecondaryState.ticked_primTick now
    exact ⟨h.disciplined, h.paired_of_aside ht.aside, hb.ticked ht, ht.inQueue h.queue,
      h.response, ht.aside.lastResp ▸ h.lastResp⟩
  | peerHear hf => exact h.peerHear hm hf _
  | peerAnswer hf => exact h.peerAnswer hm hf _
  -- a loss empties one place of the line, and each direction allows for that
  | loseCommand =>
    obtain ⟨b, hb⟩ := h.paired
    exact { h with paired := hb.loseDown }
  | loseResponse =>
    obtain ⟨b, hb⟩ := h.paired
    exact { h with paired := hb.loseUp, response := fun _ hf => by cases hf }
  | losePeerCommand =>
    obtain ⟨b, hb⟩ := h.peer
    exact { h with peer := ⟨_, hb.loseDown⟩ }
  | losePeerResponse =>
    obtain ⟨b, hb⟩ := h.peer
    exact { h with peer := ⟨_, hb.loseUp⟩ }
  -- what is queued waits; neither direction moves
  | send hsend =>
    obtain ⟨haside, hrole⟩ := SecondaryState.send_cases hm.station hsend
    obtain ⟨b, hb⟩ := h.peer
    exact ⟨h.disciplined, h.paired_of_aside haside, ⟨b, hb.same hrole rfl rfl⟩,
      SecondaryState.inQueue_send hm.station h.queue hsend, h.response,
      haside.lastResp ▸ h.lastResp⟩

/-- **User data is delivered in order and at most once on the balanced line.**  In every
run, and for each direction: what a station delivers is part of the encodable ASDUs
queued at the other one, in order and each once, and contains everything whose
transaction that station completed.  What the history of the first station records as
delivered is what its handlers tell the protocol loop to hand to the application. -/
theorem both_in_order (hm : Joined o cfg)
    (h : (machine o cfg).Reachable l) :
    Accounts (queuedFor o.profile cfg.linkAddress l.prim.log) (dispatchedData l.sec.log)
      (completedFor cfg.linkAddress l.prim.log) ∧
    Accounts (queuedBy l.sec.log) (deliveredFrom cfg.linkAddress l.prim.log)
      (completedBy l.sec.log) ∧
    ∀ e p, l.prim.step o e = some p →
      Primary.Reports o.profile (l.prim.told o e) l.prim.toPrimary p.toPrimary := by
  have hinv : l.Inv o cfg := h.invariant (P := fun l => l.Inv o cfg) inv_init
    fun _ _ _ hl _ hs => inv_step hm hl hs
  obtain ⟨b, hb⟩ := hinv.paired
  obtain ⟨b', hb'⟩ := hinv.peer
  refine ⟨hb.accounts hinv.disciplined, ?_, fun e p hp => LinkState.reports_of_step hp⟩
  have hq : (b'.sent.begun.filterMap Frame.asdu).Sublist (queuedBy l.sec.log) := by
    rw [hb'.sends.begun]
    exact (List.sublist_append_left _ _).trans hinv.queue
  have hacc := Ledger.accounts hb'.inv.honest Frame.asdu hq
  rwa [hb'.hears.delivered, hb'.sends.completed] at hacc

/-! ### A run -/

/-- Two balanced stations with the default timers. -/
def balancedConfig : Config := { Config.default with mode := .balanced }

/-- The first station. -/
def balancedStation : ClientOption := ⟨balancedConfig, []⟩

theorem joined_default : Joined balancedStation balancedConfig where
  balanced := rfl
  station := rfl
  address := rfl
  size := rfl
  wellFormed := ⟨by decide, by decide, fun _ => by decide⟩

/-- Both directions are opened, and an ASDU is sent each way; the acknowledgement of the
peer's is lost once. -/
def bothWays : List Event :=
  [.prim (.tick 0), .hear 0, .answer 0, .prim (.tick 0), .hear 0, .answer 0,
    .tick 0, .peerHear 0, .peerAnswer 0,
    .prim (.send (indication 9) 1), .send (indication 7), .prim (.tick 0), .tick 0,
    .hear 0, .peerHear 0, .losePeerResponse, .answer 0,
    .tick (Cs104.fromSecs 20), .peerHear 0, .peerAnswer 0]

theorem both_in_order_bothWays :
    ∃ l, (machine balancedStation balancedConfig).run
        (machine balancedStation balancedConfig).init bothWays = some l ∧
      dispatchedData l.sec.log = [[1, 1, 3, 1, 9, 0, 1]] ∧
      deliveredFrom 1 l.prim.log = [[1, 1, 3, 1, 7, 0, 1]] ∧
      Accounts (queuedFor balancedStation.profile 1 l.prim.log) (dispatchedData l.sec.log)
        (completedFor 1 l.prim.log) ∧
      Accounts (queuedBy l.sec.log) (deliveredFrom 1 l.prim.log) (completedBy l.sec.log) :=
  have hrun : (machine balancedStation balancedConfig).run
      (machine balancedStation balancedConfig).init bothWays = some _ := rfl
  have h := both_in_order joined_default (Machine.reach_of_run .init hrun)
  ⟨_, hrun, rfl, rfl, h.1, h.2.1⟩

end Balanced

end Cs101
end Iec60870
