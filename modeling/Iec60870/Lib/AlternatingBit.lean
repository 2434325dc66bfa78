import Iec60870.Lib.Ledger

/-!
# The alternating bit with resets

A sender has one request outstanding at a time and repeats it until it is answered
or given up.  Counted requests carry a bit; the receiver acts on those with the bit
it expects and answers any other as it answered the last.  Reset requests make both
bits 1, and probes leave them alone.  After giving up, the sender needs a completed
reset before it may count again.

Requests and answers may be lost, but neither is in flight any more once the
sender repeats or gives up.

## Main definitions

* `AltBit` — both ends, what is in flight, and the ledgers of the requests (`sent`)
  and of the answers to counted requests (`given`).
* `AltBit.Step` — what can happen.
* `AltBit.Inv` — the two bits agree whenever it matters.

## Main results

* `AltBit.Inv.step` — the invariant is kept.
-/

universe u v

/-- What the sender may ask. -/
inductive Request (α : Type u)
  | reset
  | probe
  | counted (x : α)

/-- Sender, receiver and the line between them. -/
structure AltBit (α : Type u) (β : Type v) where
  /-- The sender may count. -/
  active : Bool
  /-- The bit of the outstanding or the next counted request. -/
  bit : Bool
  out : Option (Request α)
  /-- The bit the receiver expects. -/
  expected : Bool
  /-- The receiver's last answer. -/
  cached : Option β
  /-- The outstanding request is in flight. -/
  req : Bool
  /-- The answer in flight. -/
  rep : Option β
  sent : Ledger α
  given : Ledger β

namespace AltBit

variable {α : Type u} {β : Type v} {s t : AltBit α β}

/-- Both ends before anything was sent. -/
def init : AltBit α β where
  active := false
  bit := false
  out := none
  expected := true
  cached := none
  req := false
  rep := none
  sent := .empty
  given := .empty

/-- The request `r` is sent for the first time. -/
def start (s : AltBit α β) : Request α → AltBit α β
  | .reset => { s with out := some .reset, active := false, req := true }
  | .probe => { s with out := some .probe, req := true }
  | .counted x => { s with out := some (.counted x), req := true, sent := s.sent.start x }

/-- A counted request is acted on and answered with `y`. -/
def take (s : AltBit α β) (y : β) : AltBit α β :=
  { s with
    req := false
    expected := !s.expected
    cached := some y
    rep := some y
    sent := s.sent.deliver
    given := s.given.start y }

/-- The request `r` arrives and is answered, with `y` unless it is taken for a
repetition. -/
def hear (s : AltBit α β) (y : β) : Request α → AltBit α β
  | .reset => { s with req := false, expected := true, cached := some y, rep := some y }
  | .probe => { s with req := false, cached := some y, rep := some y }
  | .counted _ =>
    if s.expected = s.bit then s.take y else { s with req := false, rep := s.cached }

/-- The answer to `r` arrives. -/
def complete (s : AltBit α β) : Request α → AltBit α β
  | .reset => { s with out := none, rep := none, active := true, bit := true }
  | .probe => { s with out := none, rep := none }
  | .counted _ =>
    { s with
      out := none
      rep := none
      bit := !s.bit
      sent := s.sent.finish
      given := s.given.deliver.abandon }

/-- The sender gives up. -/
def abandon (s : AltBit α β) : AltBit α β :=
  { s with
    out := none
    req := false
    rep := none
    active := false
    sent := s.sent.abandon
    given := s.given.abandon }

/-- What can happen.  An answer to a counted request fits it. -/
inductive Step (fits : α → β → Prop) (s : AltBit α β) : AltBit α β → Prop
  | start (r : Request α) (hout : s.out = none)
      (hact : ∀ x, r = .counted x → s.active = true) : Step fits s (s.start r)
  | hear (r : Request α) (y : β) (hout : s.out = some r) (hreq : s.req = true)
      (hfits : ∀ x, r = .counted x → fits x y) : Step fits s (s.hear y r)
  | complete (r : Request α) (y : β) (hout : s.out = some r) (hrep : s.rep = some y) :
      Step fits s (s.complete r)
  | again (r : Request α) (hout : s.out = some r) : Step fits s { s with req := true, rep := none }
  | loseReq : Step fits s { s with req := false }
  | loseRep : Step fits s { s with rep := none }
  | abandon : Step fits s s.abandon

/-! ### The invariant -/

/-- The counted request `x` has not been acted on. -/
structure Fresh (s : AltBit α β) (x : α) : Prop where
  expected : s.expected = s.bit
  rep : s.rep = none
  sent : s.sent.current = some ⟨x, false, false⟩
  given : s.given.current = none

/-- The counted request `x` has been acted on, and its answer is the one cached. -/
structure Taken (fits : α → β → Prop) (s : AltBit α β) (x : α) (y : β) : Prop where
  expected : s.expected = !s.bit
  cached : s.cached = some y
  rep : ∀ z, s.rep = some z → z = y
  sent : s.sent.current = some ⟨x, true, false⟩
  given : s.given.current = some ⟨y, false, false⟩
  fits : fits x y

/-- No item is open in either ledger. -/
def Closed (s : AltBit α β) : Prop := s.sent.current = none ∧ s.given.current = none

/-- How the two ends stand to each other while `r` is outstanding. -/
def Stage (fits : α → β → Prop) (s : AltBit α β) : Option (Request α) → Prop
  | none => s.req = false ∧ s.rep = none ∧ s.Closed ∧ (s.active = true → s.expected = s.bit)
  | some .reset => s.active = false ∧ s.Closed ∧ (s.rep.isSome = true → s.expected = true)
  | some .probe => s.Closed ∧ (s.active = true → s.expected = s.bit)
  | some (.counted x) => s.active = true ∧ (s.Fresh x ∨ ∃ y, s.Taken fits x y)

/-- The two bits agree whenever it matters, and the ledger is honest. -/
structure Inv (fits : α → β → Prop) (s : AltBit α β) : Prop where
  honest : s.sent.Honest
  single : s.req = true → s.rep = none
  stage : s.Stage fits s.out

variable {fits : α → β → Prop}

theorem inv_init : (init : AltBit α β).Inv fits where
  honest := Ledger.honest_empty
  single := fun _ => rfl
  stage := ⟨rfl, rfl, ⟨rfl, rfl⟩, fun h => by cases h⟩

namespace Inv

variable (h : s.Inv fits)

include h

theorem stage_eq {r : Option (Request α)} (hout : s.out = r) : s.Stage fits r := hout ▸ h.stage

/-- With nothing outstanding nothing is in flight. -/
theorem idle (hout : s.out = none) :
    s.req = false ∧ s.rep = none ∧ s.Closed ∧ (s.active = true → s.expected = s.bit) :=
  h.stage_eq hout

/-- While an answer is in flight the request is not. -/
theorem req_of_rep {y : β} (hrep : s.rep = some y) : s.req = false := by
  rcases hr : s.req with _ | _
  · rfl
  · have hnone := h.single hr
    rw [hrep] at hnone
    cases hnone

/-- A counted request that is answered was acted on, and the answer fits it. -/
theorem taken {x : α} {y : β} (hout : s.out = some (.counted x)) (hrep : s.rep = some y) :
    s.Taken fits x y := by
  obtain ⟨-, hfresh | ⟨z, htaken⟩⟩ := h.stage_eq hout
  · -- a request that was not acted on has no answer
    rw [hfresh.rep] at hrep
    cases hrep
  · exact htaken.rep y hrep ▸ htaken

/-- A counted request whose bit is not expected was acted on. -/
theorem repeated {x : α} (hout : s.out = some (.counted x)) (hne : s.expected ≠ s.bit) :
    ∃ y, s.Taken fits x y := by
  obtain ⟨-, hfresh | htaken⟩ := h.stage_eq hout
  · exact absurd hfresh.expected hne
  · exact htaken

/-- A counted request whose bit is expected was not acted on. -/
theorem fresh {x : α} (hout : s.out = some (.counted x)) (hexp : s.expected = s.bit) :
    s.Fresh x := by
  obtain ⟨-, hfresh | ⟨y, htaken⟩⟩ := h.stage_eq hout
  · exact hfresh
  · have hne := htaken.expected
    rw [hexp] at hne
    cases hb : s.bit <;> rw [hb] at hne <;> cases hne

theorem start {r : Request α} (hout : s.out = none)
    (hact : ∀ x, r = .counted x → s.active = true) : (s.start r).Inv fits := by
  obtain ⟨-, hrep, hclosed, hagree⟩ := h.idle hout
  cases r with
  | reset =>
    refine ⟨h.honest, fun _ => hrep, rfl, hclosed, fun hr => ?_⟩
    simp [AltBit.start, hrep] at hr
  | probe => exact ⟨h.honest, fun _ => hrep, hclosed, hagree⟩
  | counted x =>
    refine ⟨h.honest.start, fun _ => hrep, hact x rfl, .inl ?_⟩
    exact ⟨hagree (hact x rfl), hrep, rfl, hclosed.2⟩

/-- A counted request is new: it is delivered, and its answer is remembered. -/
theorem take {x : α} {y : β} (hout : s.out = some (.counted x)) (hexp : s.expected = s.bit)
    (hfits : fits x y) : (s.take y).Inv fits := by
  obtain ⟨hact, -⟩ := h.stage_eq hout
  have hfresh := h.fresh hout hexp
  refine ⟨h.honest.deliver, fun hf => (by cases hf), ?_⟩
  show Stage fits _ s.out
  rw [hout]
  refine ⟨hact, .inr ⟨y, ?_, rfl, fun z hz => (Option.some_inj.mp hz).symm,
    Ledger.current_deliver hfresh.sent, rfl, hfits⟩⟩
  exact congrArg (! ·) hexp

/-- A request is answered from the cache. -/
theorem resend {x : α} (hout : s.out = some (.counted x)) (hne : s.expected ≠ s.bit) :
    ({ s with req := false, rep := s.cached } : AltBit α β).Inv fits := by
  obtain ⟨hact, -⟩ := h.stage_eq hout
  obtain ⟨y, htaken⟩ := h.repeated hout hne
  refine ⟨h.honest, fun hf => (by cases hf), ?_⟩
  show Stage fits _ s.out
  rw [hout]
  refine ⟨hact, .inr ⟨y, htaken.expected, htaken.cached, fun z hz => ?_, htaken.sent,
    htaken.given, htaken.fits⟩⟩
  exact Option.some_inj.mp (hz.symm.trans htaken.cached)

theorem hear {r : Request α} {y : β} (hout : s.out = some r)
    (hfits : ∀ x, r = .counted x → fits x y) : (s.hear y r).Inv fits := by
  have hs := h.stage_eq hout
  cases r with
  | reset =>
    refine ⟨h.honest, fun hf => (by cases hf), ?_⟩
    show Stage fits _ s.out
    rw [hout]
    exact ⟨hs.1, hs.2.1, fun _ => rfl⟩
  | probe =>
    refine ⟨h.honest, fun hf => (by cases hf), ?_⟩
    show Stage fits _ s.out
    rw [hout]
    exact hs
  -- A counted request is taken when it carries the expected bit, and otherwise is one that was
  -- taken before.
  | counted x =>
    rw [AltBit.hear]
    split
    · next hexp => exact h.take hout hexp (hfits x rfl)
    · next hne => exact h.resend hout hne

theorem complete {r : Request α} {y : β} (hout : s.out = some r) (hrep : s.rep = some y) :
    (s.complete r).Inv fits := by
  have hs := h.stage_eq hout
  have hreq := h.req_of_rep hrep
  cases r with
  | reset =>
    refine ⟨h.honest, fun _ => rfl, hreq, rfl, hs.2.1, fun _ => ?_⟩
    exact hs.2.2 (by rw [hrep]; rfl)
  | probe => exact ⟨h.honest, fun _ => rfl, hreq, rfl, hs.1, hs.2⟩
  | counted x =>
    have htaken := h.taken hout hrep
    exact ⟨h.honest.finish htaken.sent, fun _ => rfl, hreq, rfl, ⟨rfl, rfl⟩,
      fun _ => htaken.expected⟩

theorem again {r : Request α} (hout : s.out = some r) :
    ({ s with req := true, rep := none } : AltBit α β).Inv fits := by
  have hs := h.stage_eq hout
  refine ⟨h.honest, fun _ => rfl, ?_⟩
  show Stage fits _ s.out
  rw [hout]
  cases r with
  | reset => exact ⟨hs.1, hs.2.1, fun hf => by cases hf⟩
  | probe => exact hs
  | counted x =>
    obtain ⟨hact, hfresh | ⟨y, htaken⟩⟩ := hs
    · exact ⟨hact, .inl ⟨hfresh.expected, rfl, hfresh.sent, hfresh.given⟩⟩
    · exact ⟨hact, .inr ⟨y, { htaken with rep := fun z hz => by cases hz }⟩⟩

theorem loseReq : ({ s with req := false } : AltBit α β).Inv fits := by
  refine ⟨h.honest, fun hf => (by cases hf), ?_⟩
  show Stage fits _ s.out
  rcases hout : s.out with _ | r
  · exact ⟨rfl, (h.idle hout).2⟩
  · have hs := h.stage_eq hout
    cases r with
    | reset => exact hs
    | probe => exact hs
    | counted x =>
      obtain ⟨hact, hfresh | ⟨y, htaken⟩⟩ := hs
      · exact ⟨hact, .inl { hfresh with }⟩
      · exact ⟨hact, .inr ⟨y, { htaken with }⟩⟩

theorem loseRep : ({ s with rep := none } : AltBit α β).Inv fits := by
  refine ⟨h.honest, fun _ => rfl, ?_⟩
  show Stage fits _ s.out
  rcases hout : s.out with _ | r
  · obtain ⟨hreq, -, hclosed, hagree⟩ := h.idle hout
    exact ⟨hreq, rfl, hclosed, hagree⟩
  · have hs := h.stage_eq hout
    cases r with
    | reset => exact ⟨hs.1, hs.2.1, fun hf => by cases hf⟩
    | probe => exact hs
    | counted x =>
      obtain ⟨hact, hfresh | ⟨y, htaken⟩⟩ := hs
      · exact ⟨hact, .inl { hfresh with rep := rfl }⟩
      · exact ⟨hact, .inr ⟨y, { htaken with rep := fun z hz => by cases hz }⟩⟩

theorem abandon : s.abandon.Inv fits where
  honest := h.honest.abandon
  single := fun _ => rfl
  stage := ⟨rfl, rfl, ⟨rfl, rfl⟩, fun hf => by cases hf⟩

/-- **The invariant is kept by everything that can happen.** -/
theorem step (hstep : Step fits s t) : t.Inv fits := by
  cases hstep with
  | start r hout hact => exact h.start hout hact
  | hear r y hout hreq hfits => exact h.hear hout hfits
  | complete r y hout hrep => exact h.complete hout hrep
  | again r hout => exact h.again hout
  | loseReq => exact h.loseReq
  | loseRep => exact h.loseRep
  | abandon => exact h.abandon

end Inv

end AltBit
