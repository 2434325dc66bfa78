import Iec60870.Cs101.Exchange
import Iec60870.Cs101.Reports

/-!
# The unbalanced line

A primary and a secondary per address on one line.  A frame the primary writes is in
flight to every station at once, and a station that has not heard it when the next
one is written has lost it; each station's response is in flight to the primary.
When the primary's t₁ expires nothing is in flight any more.

Octets are not modelled here: a frame arrives as it was written.

## Main definitions

* `Line`, `Line.step`, `Line.machine` — the line and its runs.
* `Fitted` — the configurations of the stations belong to the primary's.

## Main results

* `Line.hands_over_in_order` — user data is delivered in order and at most once, in both
  directions, and everything completed was delivered.
-/

namespace Iec60870
namespace Cs101

open PrimFc

/-- A primary, its stations, and what is in flight to and from each. -/
structure Line where
  prim : LinkState
  secs : UInt16 → SecondaryState
  /-- The command in flight to a station. -/
  down : UInt16 → Option Frame
  /-- The response in flight from a station. -/
  up : UInt16 → Option Frame

namespace Line

variable (o : ClientOption) (cfg : UInt16 → Config) (l : Line)

/-- Fresh states on both sides. -/
def init : Line where
  prim := .new o
  secs := fun _ => .new .empty [] 0
  down := fun _ => none
  up := fun _ => none

/-- The primary goes on to `p`; what it wrote is in flight to every station. -/
def sent (p : LinkState) : Line :=
  { l with
    prim := p
    down := fun a => carry (commands l.prim.toPrimary p.toPrimary) (l.down a) }

/-- Nothing is in flight any more: t₁ is long enough for whatever was to have
arrived or been lost. -/
def silent : Line := { l with down := fun _ => none, up := fun _ => none }

/-- The station `a` has taken the frame in flight to it and goes on to `sec`. -/
def heard (a : UInt16) (sec : SecondaryState) : Line :=
  { l with
    secs := Function.update l.secs a sec
    down := Function.update l.down a none
    up := Function.update l.up a (carry (responses (l.secs a) sec) (l.up a)) }

/-- What can happen on the line: the primary runs, a frame in flight arrives or is
lost, or a station is started anew. -/
inductive Event
  /-- A step of the primary other than receiving a frame. -/
  | prim (e : LinkState.Event)
  /-- The station receives the frame in flight to it. -/
  | hear (a : UInt16) (now : ℕ)
  /-- The primary receives the response in flight from the station. -/
  | answer (a : UInt16) (now : ℕ)
  | loseDown (a : UInt16)
  | loseUp (a : UInt16)
  /-- The application of the station buffers an ASDU. -/
  | buffer (a : UInt16) (asdu : Asdu)
  /-- The line task of the station is started anew. -/
  | restart (a : UInt16) (now : ℕ)
  deriving DecidableEq, Repr

/-- One step; none when the event does not arise. -/
def step : Event → Option Line
  | .prim (.frame _ _) => none
  | .prim (.t1 now) => (l.prim.step o (.t1 now)).map l.silent.sent
  | .prim e => (l.prim.step o e).map l.sent
  | .hear a now =>
    if a ∈ o.addresses then
      (l.down a).map fun f => l.heard a ((l.secs a).receive (cfg a) f now)
    else none
  | .answer a now =>
    if a ∈ o.addresses then
      (l.up a).map fun f =>
        { l with up := Function.update l.up a none }.sent (l.prim.handleFrame o f now).2
    else none
  | .loseDown a => some { l with down := Function.update l.down a none }
  | .loseUp a => some { l with up := Function.update l.up a none }
  | .buffer a asdu =>
    ((l.secs a).send (cfg a) asdu).toOption.map fun sec =>
      { l with secs := Function.update l.secs a sec }
  | .restart a now =>
    -- the buffers belong to the server and stay
    some { l with
      secs := Function.update l.secs a (.new (l.secs a).shared (l.secs a).log now) }

/-- The runs of the line. -/
def machine : Machine Line Event where
  init := init o
  next := fun l e => l.step o cfg e

/-- The event starts a line task anew. -/
def Event.restarts : Event → Bool
  | .restart _ _ => true
  | _ => false

end Line

/-- The configurations of the stations belong to the primary's: one station for each
address, in the same mode, each with a configuration that was accepted. -/
structure Fitted (o : ClientOption) (cfg : UInt16 → Config) : Prop where
  unbalanced : o.config.isBalanced = false
  stations : ∀ a ∈ o.addresses, (cfg a).isBalanced = false
  address : ∀ a ∈ o.addresses, (cfg a).linkAddress = a
  size : ∀ a ∈ o.addresses, (cfg a).linkAddrSize = o.config.linkAddrSize
  wellFormed : ∀ a ∈ o.addresses, (cfg a).WellFormed

/-! ### The stations -/

/-- Buffering an ASDU is nothing to the primary. -/
theorem Linked.buffer {o : ClientOption} {s : Primary UInt16 Asdu} {a : UInt16}
    {sec sec' : SecondaryState} {down up : Option Frame} {b : Bit} {cfg : Config} {asdu : Asdu}
    (h : Linked o s a sec down up b) (hs : sec.send cfg asdu = .ok sec') :
    Linked o s a sec' down up b := by
  have hears : Hears sec' b := by
    unfold SecondaryState.send at hs
    split_ifs at hs <;> cases hs <;> exact h.hears.record rfl rfl rfl rfl rfl
  exact { h with hears := hears }

namespace Line

variable {o : ClientOption} {cfg : UInt16 → Config} {l l' : Line}

/-- What a step can do: the step function taken apart once, so that each invariant
is proved by its cases. -/
inductive Moved (o : ClientOption) (cfg : UInt16 → Config) (l : Line) : Event → Line → Prop
  | moves {e : LinkState.Event} {p : LinkState} (hframe : ∀ f now, e ≠ .frame f now)
      (ht1 : ∀ now, e ≠ .t1 now) (hp : l.prim.step o e = some p) : Moved o cfg l (.prim e) (l.sent p)
  | expired {now : ℕ} {p : LinkState} (hp : l.prim.step o (.t1 now) = some p) :
      Moved o cfg l (.prim (.t1 now)) (l.silent.sent p)
  | hear {a : UInt16} {f : Frame} {now : ℕ} (ha : a ∈ o.addresses) (hf : l.down a = some f) :
      Moved o cfg l (.hear a now) (l.heard a ((l.secs a).receive (cfg a) f now))
  | answer {a : UInt16} {f : Frame} {now : ℕ} (ha : a ∈ o.addresses) (hf : l.up a = some f) :
      Moved o cfg l (.answer a now)
        (({ l with up := Function.update l.up a none } : Line).sent (l.prim.handleFrame o f now).2)
  | loseDown (a : UInt16) :
      Moved o cfg l (.loseDown a) { l with down := Function.update l.down a none }
  | loseUp (a : UInt16) : Moved o cfg l (.loseUp a) { l with up := Function.update l.up a none }
  | buffer {a : UInt16} {asdu : Asdu} {sec : SecondaryState}
      (hsend : (l.secs a).send (cfg a) asdu = .ok sec) :
      Moved o cfg l (.buffer a asdu) { l with secs := Function.update l.secs a sec }
  | restart (a : UInt16) (now : ℕ) :
      Moved o cfg l (.restart a now) { l with
        secs := Function.update l.secs a (.new (l.secs a).shared (l.secs a).log now) }

theorem moved_of_step {e : Event} (hs : l.step o cfg e = some l') : Moved o cfg l e l' := by
  have hmoves : ∀ e' : LinkState.Event, (∀ f now, e' ≠ .frame f now) → (∀ now, e' ≠ .t1 now) →
      (l.prim.step o e').map l.sent = some l' → Moved o cfg l (.prim e') l' := by
    -- of the primary's own events only a frame and the expiry of t1 touch the line
    intro e' hframe ht1 he'
    obtain ⟨p, hp, rfl⟩ := Option.map_eq_some_iff.mp he'
    exact .moves hframe ht1 hp
  cases e with
  | prim e =>
    cases e with
    | frame f now => cases hs
    | t1 now =>
      obtain ⟨p, hp, rfl⟩ := Option.map_eq_some_iff.mp hs
      exact .expired hp
    | linkRequest func now => exact hmoves (.linkRequest func now) nofun nofun hs
    | t3 now => exact hmoves (.t3 now) nofun nofun hs
    | tick now => exact hmoves (.tick now) nofun nofun hs
    | send asdu addr => exact hmoves (.send asdu addr) nofun nofun hs
    | outClosed => exact hmoves .outClosed nofun nofun hs
  | hear a now =>
    rw [step] at hs
    split at hs
    · next ha =>
      obtain ⟨f, hf, rfl⟩ := Option.map_eq_some_iff.mp hs
      exact .hear ha hf
    · cases hs
  | answer a now =>
    rw [step] at hs
    split at hs
    · next ha =>
      obtain ⟨f, hf, rfl⟩ := Option.map_eq_some_iff.mp hs
      exact .answer ha hf
    · cases hs
  | loseDown a =>
    cases hs
    exact .loseDown a
  | loseUp a =>
    cases hs
    exact .loseUp a
  | restart a now =>
    cases hs
    exact .restart a now
  -- a full buffer refuses the ASDU, and then there is no step
  | buffer a asdu =>
    obtain ⟨sec, hsec, rfl⟩ := Option.map_eq_some_iff.mp hs
    rcases hr : (l.secs a).send (cfg a) asdu with err | sec'
    · rw [hr] at hsec
      cases hsec
    · rw [hr] at hsec
      cases hsec
      exact .buffer hr

/-- A frame reaches an unbalanced primary as an answer. -/
theorem answered_handleFrame (hfit : Fitted o cfg) (s : LinkState) (f : Frame) (now : ℕ) :
    Primary.Answered o.profile f f.linkAddr s.toPrimary (s.handleFrame o f now).2.toPrimary := by
  rcases LinkState.handleFrame_cases (o := o) (s := s) f now with ⟨-, h⟩ | ⟨hcmd, -⟩
  · exact h
  · have hbal := hfit.unbalanced
    rw [hcmd.1] at hbal
    cases hbal

/-- Every station is linked with the primary, and its buffers are in order. -/
structure Inv (o : ClientOption) (l : Line) : Prop where
  disciplined : l.prim.Disciplined o.profile
  paired : ∀ a ∈ o.addresses, Paired o l.prim.toPrimary a (l.secs a) (l.down a) (l.up a)
  stock : ∀ a ∈ o.addresses, (l.secs a).InStock

theorem inv_init : (init o).Inv o where
  disciplined := Primary.disciplined_new _ _
  paired := fun _ _ => ⟨_, linked_init _ _ _⟩
  stock := fun _ _ c => by cases c <;> exact List.Sublist.refl _

namespace Inv

variable (h : l.Inv o)

include h

/-- The primary moves of its own accord. -/
theorem moves {e : LinkState.Event} {p : LinkState} (hframe : ∀ f now, e ≠ .frame f now)
    (ht1 : ∀ now, e ≠ .t1 now) (hp : l.prim.step o e = some p) : (l.sent p).Inv o where
  disciplined := h.disciplined.acts (LinkState.acts_of_step hp)
  paired := fun a ha => by
    obtain ⟨b, hb⟩ := h.paired a ha
    exact hb.moves hframe ht1 hp
  stock := h.stock

/-- t₁ expires. -/
theorem expired {now : ℕ} {p : LinkState} (hp : l.prim.step o (.t1 now) = some p) :
    (l.silent.sent p).Inv o where
  disciplined := h.disciplined.acts (LinkState.acts_of_step hp)
  paired := fun a ha => by
    obtain ⟨b, hb⟩ := h.paired a ha
    exact hb.expired h.disciplined (LinkState.onT1Timeout_of_step hp)
  stock := h.stock

/-- A station hears the frame in flight to it. -/
theorem hear {a : UInt16} {f : Frame} (hfit : Fitted o cfg) (ha : a ∈ o.addresses)
    (hf : l.down a = some f) (now : ℕ) :
    (l.heard a ((l.secs a).receive (cfg a) f now)).Inv o where
  disciplined := h.disciplined
  paired := fun c hc => by
    by_cases hca : c = a
    · subst hca
      obtain ⟨b, hb⟩ := h.paired c hc
      rw [hf] at hb
      simpa [heard] using hb.hear h.disciplined (hfit.wellFormed c hc) (hfit.address c hc) now
    · simpa [heard, hca] using h.paired c hc
  stock := fun c hc => by
    by_cases hca : c = a
    · subst hca
      obtain ⟨b, hb⟩ := h.paired c hc
      rw [hf] at hb
      simpa [heard] using hb.inStock h.disciplined (hfit.wellFormed c hc) (hfit.address c hc)
        now (h.stock c hc)
    · simpa [heard, hca] using h.stock c hc

/-- The primary hears a station's response. -/
theorem answer {a : UInt16} {f : Frame} (hfit : Fitted o cfg) (ha : a ∈ o.addresses)
    (hf : l.up a = some f) (now : ℕ) :
    (({ l with up := Function.update l.up a none } : Line).sent
      (l.prim.handleFrame o f now).2).Inv o where
  disciplined := h.disciplined.acts (LinkState.acts_handleFrame f now)
  paired := fun c hc => by
    obtain ⟨b, hb⟩ := h.paired c hc
    have hown : ∀ p, l.prim.lastSent = some p → p.addr = a := by
      obtain ⟨b', hb'⟩ := h.paired a ha
      obtain ⟨p, hp, hpa⟩ := hb'.asked_of_up hf
      intro q hq
      rw [hp] at hq
      cases hq
      exact hpa
    have hpair := hb.answered h.disciplined hown (fun hca => hca ▸ hf)
      (answered_handleFrame hfit l.prim f now)
    by_cases hca : c = a
    · subst hca
      simpa [sent] using hpair
    · simpa [sent, hca] using hpair
  stock := h.stock

end Inv

/-- Everything that happens on the line but starting a station anew keeps the
stations linked. -/
theorem inv_step {e : Event} (hfit : Fitted o cfg) (h : l.Inv o) (he : e.restarts = false)
    (hs : l.step o cfg e = some l') : l'.Inv o := by
  cases moved_of_step hs with
  | restart a now => cases he
  | moves hframe ht1 hp => exact h.moves hframe ht1 hp
  | expired hp => exact h.expired hp
  | hear ha hf => exact h.hear hfit ha hf _
  | answer ha hf => exact h.answer hfit ha hf _
  -- what is lost is lost on the line of one station; the other stations see nothing
  | loseDown a =>
    refine ⟨h.disciplined, fun c hc => ?_, h.stock⟩
    obtain ⟨b, hb⟩ := h.paired c hc
    by_cases hca : c = a
    · subst hca
      simpa using hb.loseDown
    · simpa [hca] using h.paired c hc
  | loseUp a =>
    refine ⟨h.disciplined, fun c hc => ?_, h.stock⟩
    obtain ⟨b, hb⟩ := h.paired c hc
    by_cases hca : c = a
    · subst hca
      simpa using hb.loseUp
    · simpa [hca] using h.paired c hc
  -- buffering an ASDU adds to the stock of its station
  | @buffer a asdu sec hsend =>
    refine ⟨h.disciplined, fun c hc => ?_, fun c hc => ?_⟩
    · by_cases hca : c = a
      · subst hca
        obtain ⟨b, hb⟩ := h.paired c hc
        exact ⟨b, by simpa using hb.buffer hsend⟩
      · simpa [hca] using h.paired c hc
    · by_cases hca : c = a
      · subst hca
        simpa using SecondaryState.inStock_send (h.stock c hc) hsend
      · simpa [hca] using h.stock c hc

/-- **User data is delivered in order and at most once on the unbalanced line.**  In
every run in which no station is started anew, for each station: what it hands to its
dispatcher is part of the encodable ASDUs queued for it, in order and each once, and
contains everything the primary completed; what the primary delivers of it was served
by it in that order, and so, for each class, is part of the encodable ASDUs put into
that buffer, in order and each once.  What the history of the primary records as
delivered is what its handlers tell the protocol loop to hand to the application. -/
theorem hands_over_in_order (hfit : Fitted o cfg)
    (h : (machine o cfg).Reach (fun _ e => e.restarts = false) l) {a : UInt16}
    (ha : a ∈ o.addresses) :
    Accounts (queuedFor o.profile a l.prim.log) (dispatchedData (l.secs a).log)
      (completedFor a l.prim.log) ∧
    (∃ got : List (DataClass × Octets), got.map (·.2) = deliveredFrom a l.prim.log ∧
      got.Sublist (servedData (l.secs a).log) ∧
      ∀ c, (ofClass c got).Sublist (bufferedData c (l.secs a).log)) ∧
    ∀ e p, l.prim.step o e = some p →
      Primary.Reports o.profile (l.prim.told o e) l.prim.toPrimary p.toPrimary := by
  have hinv : l.Inv o := h.invariant (P := fun l => l.Inv o) inv_init
    fun _ _ _ hl he hs => inv_step hfit hl he hs
  obtain ⟨b, hb⟩ := hinv.paired a ha
  obtain ⟨got, hserved, hgot⟩ := hb.delivered hfit.unbalanced
  refine ⟨hb.accounts hinv.disciplined, ⟨got, hgot, hserved, fun c => ?_⟩,
    fun e p hp => LinkState.reports_of_step hp⟩
  have hstock := hinv.stock a ha c
  exact ((hserved.filter _).map _).trans ((List.sublist_append_left _ _).trans hstock)

/-! ### A run -/

/-- The default configuration at each address. -/
def stationsAt : UInt16 → Config := fun a => { Config.default with linkAddress := a }

theorem fitted_oneStation : Fitted oneStation stationsAt where
  unbalanced := rfl
  stations := fun _ _ => rfl
  address := fun _ _ => rfl
  size := fun _ _ => rfl
  wellFormed := fun a ha => by
    have h1 : a = 1 := List.mem_singleton.mp ha
    subst h1
    exact ⟨by decide, by decide, fun _ => by decide⟩

/-- The link to station 1 is opened. -/
def opened : List Event :=
  [.prim (.tick 0), .hear 1 0, .answer 1 0, .prim (.tick 0), .hear 1 0, .answer 1 0]

/-- A command whose acknowledgement is lost once, then a poll. -/
def commandAndPoll : List Event :=
  opened ++ [.prim (.send (indication 9) 1), .prim (.tick 0), .hear 1 0, .loseUp 1,
    .prim (.t1 (Cs104.fromSecs 20)), .hear 1 0, .answer 1 0,
    .buffer 1 (indication 7), .prim (.tick 0), .hear 1 0, .answer 1 0]

theorem hands_over_in_order_commandAndPoll :
    ∃ l, (machine oneStation stationsAt).runIf (fun _ e => e.restarts = false)
        (machine oneStation stationsAt).init commandAndPoll = some l ∧
      dispatchedData (l.secs 1).log = [[1, 1, 3, 1, 9, 0, 1]] ∧
      deliveredFrom 1 l.prim.log = [[1, 1, 3, 1, 7, 0, 1]] ∧
      Accounts (queuedFor oneStation.profile 1 l.prim.log) (dispatchedData (l.secs 1).log)
        (completedFor 1 l.prim.log) ∧
      ∃ got : List (DataClass × Octets), got.map (·.2) = deliveredFrom 1 l.prim.log ∧
        got.Sublist (servedData (l.secs 1).log) ∧
        ∀ c, (ofClass c got).Sublist (bufferedData c (l.secs 1).log) :=
  have hrun : (machine oneStation stationsAt).runIf (fun _ e => e.restarts = false)
      (machine oneStation stationsAt).init commandAndPoll = some _ := rfl
  have h := hands_over_in_order fitted_oneStation
    (Machine.reach_of_runIf .init hrun) (List.mem_singleton.mpr rfl)
  ⟨_, hrun, rfl, rfl, h.1, h.2.1⟩

end Line

end Cs101
end Iec60870
