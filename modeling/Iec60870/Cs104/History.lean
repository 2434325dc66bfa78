import Iec60870.Cs104.Steps

/-!
# Reading the history of a connection

What the frames in a history carry, and the well-formedness every reached
session has: sequence numbers are 15 bits wide and no queued ASDU is empty, so
every frame the driver builds is read back by `parse`.

## Main definitions

* `Obs.sentApci`, `Obs.rcvdApci` — the control field a frame carries.
* `sentI`, `accepted` — the raw ASDUs of the I-frames sent and accepted.
* `Session.Wf` — well-formed sessions.

## Main results

* `Session.reach_of_actions_wf` — the invariant rule over actions between
  well-formed sessions.
-/

namespace Iec60870
namespace Cs104

/-! ### What frames carry -/

/-- The control field of a well-formed frame. -/
def apciOf (f : Octets) : Option Apci := (parse f).toOption.map Prod.fst

theorem apciOf_of_parse {f raw : Octets} {a : Apci} (h : parse f = .ok (a, raw)) :
    apciOf f = some a := by simp [apciOf, h, Except.toOption]

theorem apciOf_eq_some {f : Octets} {a : Apci} (h : apciOf f = some a) :
    ∃ raw, parse f = .ok (a, raw) := by
  unfold apciOf at h
  rcases hp : parse f with e | ⟨a', raw⟩
  · rw [hp] at h
    cases h
  · rw [hp] at h
    cases h
    exact ⟨raw, rfl⟩

@[simp] theorem apciOf_newUFrame (f : UFunction) : apciOf (newUFrame f) = some (.u f) :=
  apciOf_of_parse (parse_newUFrame f)

theorem apciOf_newSFrame {r : UInt16} (hr : r.toNat < 32768) :
    apciOf (newSFrame r) = some (.s r) := apciOf_of_parse (parse_newSFrame hr)

theorem apciOf_newIFrame {s r : UInt16} {raw f : Octets} (hs : s.toNat < 32768)
    (hr : r.toNat < 32768) (hne : raw ≠ []) (h : newIFrame s r raw = .ok f) :
    apciOf f = some (.i s r) := apciOf_of_parse (parse_newIFrame hs hr hne h)

namespace Obs

/-- The control field of a transmitted frame. -/
def sentApci : Obs → Option Apci
  | .tx f _ => apciOf f
  | _ => none

/-- The control field of a received frame. -/
def rcvdApci : Obs → Option Apci
  | .rx f _ => apciOf f
  | _ => none

/-- The raw ASDU of a transmitted I-frame, and when it was sent. -/
def iSent : Obs → Option (Octets × ℕ)
  | .tx f now =>
    match parse f with
    | .ok (.i _ _, raw) => some (raw, now)
    | _ => none
  | _ => none

/-- The raw ASDU of an accepted I-frame, and when it was accepted. -/
def iAccepted : Obs → Option (Octets × ℕ)
  | .accepted raw now => some (raw, now)
  | _ => none

/-- A frame taken from the reader. -/
def rcvdFrame : Obs → Option Octets
  | .rx f _ => some f
  | _ => none

/-- A transmitted I-frame, with whatever numbers it carries. -/
def IsI (o : Obs) : Prop := ∃ s r, o.sentApci = some (.i s r)

/-- A transmitted U-frame. -/
def SendsU (o : Obs) (f : UFunction) : Prop := o.sentApci = some (.u f)

/-- A received U-frame. -/
def ReceivesU (o : Obs) (f : UFunction) : Prop := o.rcvdApci = some (.u f)

instance (o : Obs) (f : UFunction) : Decidable (o.SendsU f) :=
  inferInstanceAs (Decidable (o.sentApci = some (.u f)))

instance (o : Obs) (f : UFunction) : Decidable (o.ReceivesU f) :=
  inferInstanceAs (Decidable (o.rcvdApci = some (.u f)))

instance (o : Obs) : Decidable o.IsI :=
  match h : o.sentApci with
  | some (.i s r) => .isTrue ⟨s, r, h⟩
  | some (.s _) => .isFalse (by rintro ⟨s, r, h'⟩; rw [h] at h'; cases h')
  | some (.u _) => .isFalse (by rintro ⟨s, r, h'⟩; rw [h] at h'; cases h')
  | none => .isFalse (by rintro ⟨s, r, h'⟩; rw [h] at h'; cases h')

theorem not_isI_newUFrame (f : UFunction) (now : ℕ) : ¬(Obs.tx (newUFrame f) now).IsI := by
  rintro ⟨s, r, h⟩
  rw [sentApci, apciOf_newUFrame] at h
  cases h

theorem not_isI_newSFrame {r : UInt16} (hr : r.toNat < 32768) (now : ℕ) :
    ¬(Obs.tx (newSFrame r) now).IsI := by
  rintro ⟨s, r', h⟩
  rw [sentApci, apciOf_newSFrame hr] at h
  cases h

/-- Only a transmission can be an I-frame. -/
theorem not_isI_of_sentApci {o : Obs} (h : o.sentApci = none) : ¬o.IsI := by
  rintro ⟨s, r, h'⟩
  rw [h] at h'
  cases h'

theorem isI_newIFrame (now : ℕ) {s r : UInt16} {raw f : Octets} (hs : s.toNat < 32768)
    (hr : r.toNat < 32768) (hne : raw ≠ []) (h : newIFrame s r raw = .ok f) :
    (Obs.tx f now).IsI := ⟨s, r, apciOf_newIFrame hs hr hne h⟩

theorem iSent_newIFrame (now : ℕ) {s r : UInt16} {raw f : Octets} (hs : s.toNat < 32768)
    (hr : r.toNat < 32768) (hne : raw ≠ []) (h : newIFrame s r raw = .ok f) :
    (Obs.tx f now).iSent = some (raw, now) := by
  simp [iSent, parse_newIFrame hs hr hne h]

theorem not_sendsU_newUFrame {f f' : UFunction} (hne : f ≠ f') (now : ℕ) :
    ¬(Obs.tx (newUFrame f) now).SendsU f' := by
  intro h
  rw [SendsU, sentApci, apciOf_newUFrame] at h
  cases h
  exact hne rfl

theorem not_sendsU_of_sentApci {o : Obs} (h : o.sentApci = none) (f : UFunction) :
    ¬o.SendsU f := by
  intro h'
  rw [SendsU, h] at h'
  cases h'

theorem not_sendsU_newSFrame {r : UInt16} (hr : r.toNat < 32768) (f : UFunction) (now : ℕ) :
    ¬(Obs.tx (newSFrame r) now).SendsU f := by
  intro h
  rw [SendsU, sentApci, apciOf_newSFrame hr] at h
  cases h

theorem not_sendsU_of_isI {o : Obs} (h : o.IsI) (f : UFunction) : ¬o.SendsU f := by
  obtain ⟨s, r, h⟩ := h
  intro h'
  rw [SendsU, h] at h'
  cases h'

end Obs

/-- The I-frames in a history of transmissions, oldest first. -/
def sentI (log : List Obs) : List (Octets × ℕ) := log.filterMap Obs.iSent

/-- The I-frames accepted, oldest first, each with the instant of its arrival. -/
def accepted (log : List Obs) : List (Octets × ℕ) := log.filterMap Obs.iAccepted

@[simp] theorem sentI_append (l₁ l₂ : List Obs) : sentI (l₁ ++ l₂) = sentI l₁ ++ sentI l₂ :=
  List.filterMap_append

@[simp] theorem accepted_append (l₁ l₂ : List Obs) :
    accepted (l₁ ++ l₂) = accepted l₁ ++ accepted l₂ := List.filterMap_append

/-! ### Well-formed sessions -/

/-- An acknowledgement leaves the lower end of the window or moves it to itself. -/
theorem updateAckNoOut_ackNo {a ack seq ack' : UInt16} {p p' : List (UInt16 × ℕ)} {ok : Bool}
    (h : updateAckNoOut a ack seq p = (ok, ack', p')) : ack' = ack ∨ ack' = a := by
  unfold updateAckNoOut at h
  split_ifs at h
  · exact .inl (by cases h; rfl)
  · exact .inl (by cases h; rfl)
  · dsimp only at h
    split at h <;> exact .inr (by cases h; rfl)

namespace Session

variable {cfg : Config} {s₀ : Session} {l : Label}

/-- What every reached session satisfies: the four numbers have fifteen bits, and
no empty ASDU is queued. -/
structure Wf (s : Session) : Prop where
  seqNoSend : s.seqNoSend.toNat < 32768
  ackNoSend : s.ackNoSend.toNat < 32768
  seqNoRcv : s.seqNoRcv.toNat < 32768
  ackNoRcv : s.ackNoRcv.toNat < 32768
  queue : ∀ raw ∈ s.conn.queue, raw ≠ []

theorem wf_init (params : Params) (role : Role) (now : ℕ) : (init cfg params role now).Wf := by
  constructor <;> simp [init, Driver.init]

private theorem succ_and_mask_lt (a : UInt16) : ((a + 1) &&& SEQ_MASK).toNat < 32768 := by
  have hmask : SEQ_MASK.toNat = 2 ^ 15 - 1 := rfl
  rw [UInt16.toNat_and, hmask, Nat.and_two_pow_sub_one_eq_mod]
  exact Nat.mod_lt _ (by norm_num)

theorem queue_of_tryEnqueue {c c' : Connection} {a : Asdu} (h : c.tryEnqueue a = .ok c') :
    ∃ raw, a.marshalBinary = .ok raw ∧ c' = { c with queue := c.queue ++ [raw] } := by
  unfold Connection.tryEnqueue at h
  rcases hraw : a.marshalBinary with e | raw
  · rw [hraw] at h
    split_ifs at h
  · rw [hraw] at h
    split_ifs at h
    cases h
    exact ⟨raw, rfl, rfl⟩

theorem Wf.action {s s' : Session} (h : s.Wf) (ha : Action cfg s₀ l s s') : s'.Wf := by
  obtain ⟨h1, h2, h3, h4, h5⟩ := h
  have h0 : (0 : UInt16).toNat < 32768 := by decide
  cases ha with
  | quiet hd _ _ _ hq _ _ =>
    exact ⟨by rw [hd]; exact h1, by rw [hd]; exact h2, by rw [hd]; exact h3, by rw [hd]; exact h4,
      fun raw hraw => h5 raw (hq.subset hraw)⟩
  | enqueue hconn =>
    -- only encoded ASDUs are queued, and these are not empty
    obtain ⟨raw, hraw, rfl⟩ := queue_of_tryEnqueue hconn
    refine ⟨h1, h2, h3, h4, fun x hx => ?_⟩
    rcases List.mem_append.mp hx with hx | hx
    · exact h5 x hx
    · have hlen := (Asdu.length_of_marshalBinary hraw).1
      rw [List.mem_singleton.mp hx]
      rintro rfl
      simp at hlen
  | send _ _ _ hq _ =>
    exact ⟨succ_and_mask_lt _, h2, h3, h3, fun x hx => h5 x (hq ▸ List.mem_cons_of_mem _ hx)⟩
  -- the acknowledged number is the old one or the one received
  | ack _ hlt hu =>
    refine ⟨h1, ?_, h3, h4, h5⟩
    rcases updateAckNoOut_ackNo hu with h | h
    · exact h ▸ h2
    · exact h ▸ hlt
  | accept _ _ _ => exact ⟨h1, h2, succ_and_mask_lt _, h4, h5⟩
  | acceptFull _ _ => exact ⟨h1, h2, succ_and_mask_lt _, succ_and_mask_lt _, h5⟩
  | acceptLost _ _ => exact ⟨h0, h0, h0, h0, h5⟩
  | sendS => exact ⟨h1, h2, h3, h3, h5⟩
  | teardown _ _ => exact ⟨h0, h0, h0, h0, h5⟩
  | _ => exact ⟨h1, h2, h3, h4, h5⟩

variable {params : Params} {role : Role} {start : ℕ} {ok : Session → Label → Prop}

theorem Wf.at_clock {s : Session} (h : s.Wf) (c : ℕ) : { s with clock := c }.Wf :=
  ⟨h.1, h.2, h.3, h.4, h.5⟩

theorem wf_of_reach {s : Session} (h : (machine cfg params role start).Reach ok s) : s.Wf :=
  reach_of_actions (P := Wf) (wf_init params role start) (fun _ c h _ => h.at_clock c)
    (fun _ _ _ _ _ _ h ha => h.action ha) h

theorem Action.role_eq {s t : Session} (ha : Action cfg s₀ l s t) : t.conn.role = s.conn.role := by
  cases ha with
  | quiet _ _ hrole _ _ _ _ => exact hrole
  | enqueue hconn =>
    obtain ⟨raw, -, rfl⟩ := queue_of_tryEnqueue hconn
    rfl
  | _ => rfl

theorem role_of_reach {s : Session} (h : (machine cfg params role start).Reach ok s) : s.conn.role = role :=
  reach_of_actions (P := fun s => s.conn.role = role) rfl (fun _ _ h _ => h)
    (fun _ _ _ _ _ _ h ha => ha.role_eq.trans h) h

/-- A step between well-formed sessions keeps what time and every action keep. -/
theorem step_of_actions_wf {P : Session → Prop} {s t : Session} (hwf : s.Wf)
    (hclock : ∀ c, s.clock ≤ c → P { s with clock := c })
    (haction : ∀ u u', u.Wf → P u → Action cfg s l u u' → P u') (h : s.next cfg l = some t) :
    P t :=
  (step_of_actions (P := fun u => u.Wf ∧ P u) (fun c hc => ⟨hwf.at_clock c, hclock c hc⟩)
    (fun u u' hu ha => ⟨hu.1.action ha, haction u u' hu.1 hu.2 ha⟩) h).2

/-- **The invariant rule over actions between well-formed sessions.** -/
theorem reach_of_actions_wf {P : Session → Prop} (h0 : P (init cfg params role start))
    (hclock : ∀ s c, P s → s.clock ≤ c → P { s with clock := c })
    (haction : ∀ s l u u', P s → ok s l → u.Wf → P u → Action cfg s l u u' → P u')
    {s : Session} (h : (machine cfg params role start).Reach ok s) : P s :=
  (reach_of_actions (P := fun s => s.Wf ∧ P s) ⟨wf_init params role start, h0⟩
    (fun s c hs hc => ⟨hs.1.at_clock c, hclock s c hs.2 hc⟩)
    (fun s l u u' hs hok hu ha => ⟨hu.1.action ha, haction s l u u' hs.2 hok hu.1 hu.2 ha⟩) h).2

end Session

end Cs104
end Iec60870
