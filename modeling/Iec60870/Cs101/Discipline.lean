import Iec60870.Cs101.Transactions
import Iec60870.Lib.Trace

/-!
# The discipline of a primary

What the history of a primary looks like, whatever happens to it: one transaction
at a time, counted frames to active stations only, the frame count bit in step with
the completed transactions, repetitions identical and bounded, user data in queueing
order, and a delivery for each completed class request at most.

## Main definitions

* `outstanding`, `phaseAt`, `nextFcb` — what a history says about the present.
* `Lawful` — what may be recorded after a given history.
* `Obs.dataTo` — the user data a written frame carries to a station.
* `Primary.Disciplined` — the history is lawful and says what the state says.

## Main results

* `firstData_eq_dataTo` — the frames written carry what the history says.
* `Primary.Disciplined.act` — everything that happens keeps the discipline.
-/

namespace Iec60870
namespace Cs101

open PrimFc

variable {α A : Type} [DecidableEq α]

/-! ### Reading the history -/

/-- A transaction with the octets of its first transmission and how often its frame
has been written. -/
structure Running (α : Type) where
  p : Pending α
  raw : Octets
  writes : ℕ

/-- One more entry of the history, for the outstanding transaction. -/
def Obs.run (r : Option (Running α)) : Obs α A → Option (Running α)
  | .began p raw => some ⟨p, raw, 1⟩
  | .repeated _ _ => r.map fun r => { r with writes := r.writes + 1 }
  | .completed _ | .failed _ | .gaveUp _ => none
  | _ => r

/-- The outstanding transaction of a history: the last one begun, unless it has
ended since. -/
def outstanding (log : List (Obs α A)) : Option (Running α) := log.foldl Obs.run none

/-- One more entry of the history, for the phase of the station `a`. -/
def Obs.shift (resets : List UInt8) (a : α) (phase : Phase) : Obs α A → Phase
  | .completed p =>
    if p.addr ≠ a then phase
    else if p.ctrl.func ∈ resets then .active
    else if p.ctrl.func = REQ_STATUS ∧ phase = .status then .reset
    else phase
  | .failed p | .gaveUp p => if p.addr ≠ a then phase else .status
  | .resetAsked b => if b ≠ a then phase else .reset
  | _ => phase

/-- The phase of the station `a` after a history: its status is asked, then it is
reset, then it is active. -/
def phaseAt (resets : List UInt8) (a : α) (log : List (Obs α A)) : Phase :=
  log.foldl (Obs.shift resets a) .status

/-- One more entry of the history, for the frame count bit due to the station `a`. -/
def Obs.toggle (resets : List UInt8) (a : α) (b : Bool) : Obs α A → Bool
  | .began p _ => if p.addr = a ∧ p.ctrl.fcv then p.ctrl.fcb else b
  | .completed p =>
    if p.addr ≠ a then b
    else if p.ctrl.func ∈ resets then true
    else if p.ctrl.fcv then !p.ctrl.fcb
    else b
  | _ => b

/-- The frame count bit the next counted frame to the station `a` has to carry: 1
after a completed reset; after that the bit of the last counted transaction, toggled
if that was completed. -/
def nextFcb (resets : List UInt8) (a : α) (log : List (Obs α A)) : Bool :=
  log.foldl (Obs.toggle resets a) false

/-- The user data an entry first transmits to the station `a`. -/
def Obs.firstData (a : α) : Obs α A → Option Octets
  | .began p _ => if p.addr = a then p.payload else none
  | _ => none

/-- The octets of the ASDU an entry queues for the station `a`. -/
def Obs.queuedData (prof : Profile α A) (a : α) : Obs α A → Option Octets
  | .queued out => if out.addr = a then (prof.marshal out.asdu).toOption else none
  | _ => none

/-- The user data first transmitted to the station `a`, in order. -/
def sentTo (a : α) (log : List (Obs α A)) : List Octets := log.filterMap (Obs.firstData a)

/-- The octets of the encodable ASDUs queued for the station `a`, in order. -/
def queuedFor (prof : Profile α A) (a : α) (log : List (Obs α A)) : List Octets :=
  log.filterMap (Obs.queuedData prof a)

/-- The octets of the encodable ASDUs for the station `a` in a queue. -/
def waitingFor (prof : Profile α A) (a : α) (queue : List (Outgoing α A)) : List Octets :=
  (queue.filter (·.addr = a)).filterMap fun out => (prof.marshal out.asdu).toOption

/-- The user data of a transaction with the station `a` that an entry completes. -/
def Obs.completedData (a : α) : Obs α A → Option Octets
  | .completed p => if p.addr = a then p.payload else none
  | _ => none

/-- The user data of the station `a` that an entry reports for delivery. -/
def Obs.gotData (a : α) : Obs α A → Option Octets
  | .delivered b raw => if b = a then some raw else none
  | _ => none

/-- The user data transactions with the station `a` that were completed positively, in
order. -/
def completedFor (a : α) (log : List (Obs α A)) : List Octets :=
  log.filterMap (Obs.completedData a)

/-- The user data of the station `a` reported for delivery, in order. -/
def deliveredFrom (a : α) (log : List (Obs α A)) : List Octets := log.filterMap (Obs.gotData a)

/-- What may be recorded after the history `past`. -/
def Lawful (prof : Profile α A) (past : List (Obs α A)) : Obs α A → Prop
  | .began p raw =>
    -- the frame written is that of the transaction, and addressed to its station
    outstanding past = none ∧ p.Framed prof ∧ p.frame.marshal prof.addrSize = .ok raw ∧
      (p.ctrl.fcv = true →
        phaseAt prof.resets p.addr past = .active ∧ p.ctrl.fcb = nextFcb prof.resets p.addr past)
  | .repeated p raw =>
    ∃ n, outstanding past = some ⟨p, raw, n⟩ ∧ n ≤ prof.maxRepetitions.toNat ∧
      (p.ctrl.fcv = true → phaseAt prof.resets p.addr past = .active)
  | .completed p | .failed p | .gaveUp p => ∃ raw n, outstanding past = some ⟨p, raw, n⟩
  | .delivered a _ =>
    prof.polls = false ∨
      ∃ past' p, past = past' ++ [.completed p] ∧ p.addr = a ∧ p.isClassRequest = true
  | .queued _ | .resetAsked _ => True
  -- only a balanced station, which does not poll, has a secondary role
  | .replied _ _ => prof.polls = false

/-- The user data an entry first transmits to the station `a`, read off the frame that
is written. -/
def Obs.dataTo (prof : Profile α A) (a : α) : Obs α A → Option Octets
  | .began p _ => if p.frame.linkAddr = some (prof.linkAddr a) then p.frame.asdu else none
  | _ => none

/-- **The frames written carry what the history says.**  Where stations differ in their
link addresses, the user data of a transaction is the ASDU in a frame to its station. -/
theorem firstData_eq_dataTo {prof : Profile α A} (hinj : Function.Injective prof.linkAddr)
    {log : List (Obs α A)} (h : Trace.Each (Lawful prof) log) (a : α) :
    ∀ x ∈ log, x.firstData a = x.dataTo prof a := by
  intro x hx
  obtain ⟨past, later, hlog⟩ := List.append_of_mem hx
  have hlaw := h past x later hlog
  cases x with
  | began p raw =>
    obtain ⟨-, hframed, -⟩ := hlaw
    have haddr : p.frame.linkAddr = some (prof.linkAddr a) ↔ p.addr = a := by
      rw [hframed.linkAddr, Option.some_inj]
      exact hinj.eq_iff
    simp only [Obs.firstData, Obs.dataTo, haddr, hframed.asdu]
  | _ => rfl

section Concat

variable (log : List (Obs α A)) (o : Obs α A) (resets : List UInt8) (a : α)

omit [DecidableEq α] in
@[simp] theorem outstanding_concat : outstanding (log ++ [o]) = o.run (outstanding log) := by
  simp [outstanding]

@[simp] theorem phaseAt_concat :
    phaseAt resets a (log ++ [o]) = o.shift resets a (phaseAt resets a log) := by simp [phaseAt]

@[simp] theorem nextFcb_concat :
    nextFcb resets a (log ++ [o]) = o.toggle resets a (nextFcb resets a log) := by simp [nextFcb]

@[simp] theorem sentTo_concat :
    sentTo a (log ++ [o]) = sentTo a log ++ (o.firstData a).toList := by
  rw [sentTo, List.filterMap_append]
  rcases ho : o.firstData a with _ | x <;> simp [sentTo, ho]

@[simp] theorem completedFor_concat :
    completedFor a (log ++ [o]) = completedFor a log ++ (o.completedData a).toList := by
  rw [completedFor, List.filterMap_append]
  rcases ho : o.completedData a with _ | x <;> simp [completedFor, ho]

@[simp] theorem deliveredFrom_concat :
    deliveredFrom a (log ++ [o]) = deliveredFrom a log ++ (o.gotData a).toList := by
  rw [deliveredFrom, List.filterMap_append]
  rcases ho : o.gotData a with _ | x <;> simp [deliveredFrom, ho]

@[simp] theorem queuedFor_concat (prof : Profile α A) :
    queuedFor prof a (log ++ [o]) = queuedFor prof a log ++ (o.queuedData prof a).toList := by
  rw [queuedFor, List.filterMap_append]
  rcases ho : o.queuedData prof a with _ | x <;> simp [queuedFor, ho]

end Concat

namespace Primary

/-- The history is lawful and says what the state says. -/
structure Disciplined (prof : Profile α A) (s : Primary α A) : Prop where
  lawful : Trace.Each (Lawful prof) s.log
  running : (outstanding s.log).map (fun r => (r.p, r.writes)) =
    s.lastSent.map fun p => (p, s.retryCount + 1)
  octets : ∀ r, outstanding s.log = some r → r.p.frame.marshal prof.addrSize = .ok r.raw
  phase : ∀ a, (s.secs a).phase = phaseAt prof.resets a s.log
  fcb : ∀ a, (s.secs a).fcb = nextFcb prof.resets a s.log
  t1 : s.t1At.isSome = s.lastSent.isSome
  retry : s.retryCount ≤ prof.maxRepetitions.toNat
  genuine : ∀ p, s.lastSent = some p → Genuine prof s p
  /-- What is still queued for a station comes after what was sent to it. -/
  order : ∀ a, (sentTo a s.log ++ waitingFor prof a s.queue).Sublist (queuedFor prof a s.log)

variable {prof : Profile α A} {s t : Primary α A}

/-! ### What a confirmation changes -/

omit [DecidableEq α] in
theorem confirmStation_phase (ctrl : ControlField) (sec : Secondary) :
    (confirmStation prof ctrl sec).phase =
      if ctrl.func ∈ prof.resets then .active
      else if ctrl.func = REQ_STATUS ∧ sec.phase = .status then .reset
      else sec.phase := by
  unfold confirmStation
  split_ifs <;> simp_all

omit [DecidableEq α] in
theorem confirmStation_fcb (ctrl : ControlField) (sec : Secondary) :
    (confirmStation prof ctrl sec).fcb =
      if ctrl.func ∈ prof.resets then true
      else if ctrl.fcv then !ctrl.fcb
      else sec.fcb := by
  unfold confirmStation
  split_ifs <;> simp_all <;> split <;> rfl

/-! ### What is begun -/

/-- What is begun takes its user data from the front of the queue. -/
theorem Begin.waiting {p : Pending α} {queue : List (Outgoing α A)}
    (h : Begin prof s p queue) (a : α) :
    ((if p.addr = a then p.payload else none).toList ++ waitingFor prof a queue).Sublist
      (waitingFor prof a s.queue) := by
  cases h with
  | @request addr func fcv hknown hfun hdata hactive hreset hpoll =>
    have hnone : (s.request prof addr func fcv).payload = none := if_neg hdata.1
    rw [hnone, ite_self]
    exact List.Sublist.refl _
  | @send out queue raw hready hsub hfirst hraw =>
    by_cases ha : out.addr = a
    · subst ha
      have hsome : (s.userData prof out.addr raw).payload = some raw := if_pos rfl
      have henc : (prof.marshal out.asdu).toOption = some raw := by rw [hraw]; rfl
      rw [if_pos (show (s.userData prof out.addr raw).addr = out.addr from rfl), hsome, waitingFor, waitingFor, ← hfirst]
      simp only [List.filterMap_cons, henc]
      exact List.Sublist.refl _
    · have hne : (s.userData prof out.addr raw).addr ≠ a := ha
      rw [if_neg hne]
      exact (hsub.filter _).filterMap _

/-! ### The history grows lawfully -/

namespace Disciplined

variable (h : s.Disciplined prof)

include h

/-- What the history says about the outstanding transaction. -/
theorem outstanding_eq {p : Pending α} (hp : s.lastSent = some p) :
    ∃ raw, outstanding s.log = some ⟨p, raw, s.retryCount + 1⟩ := by
  have ho := h.running
  rw [hp] at ho
  rcases hr : outstanding s.log with _ | r
  · rw [hr] at ho
    cases ho
  · rw [hr] at ho
    simp only [Option.map_some, Option.some.injEq, Prod.mk.injEq] at ho
    obtain ⟨rfl, hw⟩ := ho
    exact ⟨r.raw, by rw [← hw]⟩

theorem outstanding_none (hidle : s.lastSent = none) : outstanding s.log = none := by
  have ho := h.running
  rw [hidle] at ho
  simpa using ho

/-- Bookkeeping leaves the history alone. -/
theorem note (hn : Noted s t) : t.Disciplined prof where
  lawful := hn.log ▸ h.lawful
  running := by
    rw [hn.log, hn.lastSent, hn.retryCount]
    exact h.running
  octets := hn.log ▸ h.octets
  phase := fun a => by rw [hn.phase, hn.log, h.phase]
  fcb := fun a => by rw [hn.fcb, hn.log, h.fcb]
  t1 := by rw [hn.t1At, hn.lastSent, h.t1]
  retry := hn.retryCount ▸ h.retry
  genuine := fun p hp =>
    (h.genuine p (hn.lastSent ▸ hp)).congr hn.order hn.phase hn.fcb
  order := fun a => by
    rw [hn.log]
    exact (((hn.queue.filter _).filterMap _).append_left _).trans (h.order a)

/-- A transaction is begun. -/
theorem begin {p : Pending α} {queue : List (Outgoing α A)} {raw : Octets} {due : ℕ}
    (hidle : s.lastSent = none) (hp : Begin prof s p queue)
    (hraw : p.frame.marshal prof.addrSize = .ok raw) :
    (({ s with queue } : Primary α A).begun p raw due).Disciplined prof where
  lawful := by
    -- the frame is the one the new transaction stands for; a counted one needs an active station
    -- and its own bit
    refine Trace.each_concat.mpr
      ⟨h.lawful, h.outstanding_none hidle, hp.genuine.toFramed, hraw, fun hfcv => ?_⟩
    obtain ⟨hact, hbit⟩ := hp.genuine.counted hfcv
    exact ⟨h.phase p.addr ▸ hact, by rw [hbit, h.fcb]⟩
  running := by simp [begun, Obs.run]
  octets := fun r hr => by
    rw [begun, outstanding_concat] at hr
    cases hr
    exact hraw
  phase := fun a => by simpa [begun, Obs.shift] using h.phase a
  fcb := fun a => by
    -- beginning a counted request leaves the bit of its station at the one it carries
    simp only [begun, nextFcb_concat, Obs.toggle]
    split
    · next hc =>
      obtain ⟨rfl, hfcv⟩ := hc
      exact (hp.genuine.counted hfcv).2.symm
    · exact h.fcb a
  t1 := rfl
  retry := Nat.zero_le _
  genuine := fun q hq => by
    cases hq
    exact hp.genuine.congr rfl (fun _ => rfl) fun _ => rfl
  order := fun a => by
    simp only [begun, sentTo_concat, queuedFor_concat, Obs.queuedData, Option.toList_none,
      List.append_nil, List.append_assoc]
    exact ((hp.waiting a).append_left _).trans (h.order a)

/-- The outstanding frame is repeated. -/
theorem again {p : Pending α} {raw : Octets} {due : ℕ} (hp : s.lastSent = some p)
    (hlt : s.retryCount < prof.maxRepetitions.toNat)
    (hraw : p.frame.marshal prof.addrSize = .ok raw) : (s.again p raw due).Disciplined prof := by
  obtain ⟨raw', hout⟩ := h.outstanding_eq hp
  have heq : raw' = raw := Except.ok.inj ((h.octets _ hout).symm.trans hraw)
  subst heq
  exact {
    lawful := by
      refine Trace.each_concat.mpr ⟨h.lawful, _, hout, hlt, fun hfcv => ?_⟩
      exact h.phase p.addr ▸ ((h.genuine p hp).counted hfcv).1
    running := by simp [Primary.again, Obs.run, hout, hp]
    octets := fun r hr => by
      rw [Primary.again, outstanding_concat, hout] at hr
      cases hr
      exact hraw
    phase := fun a => by simpa [Primary.again, Obs.shift] using h.phase a
    fcb := fun a => by simpa [Primary.again, Obs.toggle] using h.fcb a
    t1 := by simp [Primary.again, hp]
    retry := hlt
    genuine := fun q hq => (h.genuine q hq).congr rfl (fun _ => rfl) fun _ => rfl
    order := fun a => by simpa [Primary.again, Obs.firstData, Obs.queuedData] using h.order a }

/-- The outstanding transaction is completed. -/
theorem complete {p : Pending α} (hp : s.lastSent = some p) :
    (s.complete prof p).Disciplined prof := by
  obtain ⟨raw, hout⟩ := h.outstanding_eq hp
  exact {
    lawful := Trace.each_concat.mpr ⟨h.lawful, raw, _, hout⟩
    running := by simp [Primary.complete, Obs.run]
    octets := fun r hr => by simp [Primary.complete, Obs.run] at hr
    phase := fun a => by
      rw [Primary.complete, phaseAt_concat, ← h.phase, Obs.shift]
      by_cases ha : a = p.addr
      · subst ha
        simp [modify, confirmStation_phase]
      · simp [modify, Function.update_of_ne ha, Ne.symm ha]
    fcb := fun a => by
      rw [Primary.complete, nextFcb_concat, ← h.fcb, Obs.toggle]
      by_cases ha : a = p.addr
      · subst ha
        simp [modify, confirmStation_fcb]
      · simp [modify, Function.update_of_ne ha, Ne.symm ha]
    t1 := rfl
    retry := Nat.zero_le _
    genuine := fun q hq => by cases hq
    order := fun a => by
      simpa [Primary.complete, modify, Obs.firstData, Obs.queuedData] using h.order a }

/-- The outstanding transaction is aborted. -/
theorem abort {p : Pending α} {o : Obs α A} (hp : s.lastSent = some p)
    (ho : o = .failed p ∨ o = .gaveUp p) : (s.abort p o).Disciplined prof := by
  obtain ⟨raw, hout⟩ := h.outstanding_eq hp
  have hlaw : Lawful prof s.log o := by rcases ho with rfl | rfl <;> exact ⟨raw, _, hout⟩
  -- giving up and being refused end the transaction in the same way: the history says the station
  -- starts over, its bit stays, and nothing of it counts as sent or queued
  have hrun : ∀ r, o.run r = none := by rcases ho with rfl | rfl <;> exact fun _ => rfl
  have hshift : ∀ a ph, o.shift prof.resets a ph = if p.addr ≠ a then ph else .status := by
    rcases ho with rfl | rfl <;> exact fun _ _ => rfl
  have htoggle : ∀ a b, o.toggle prof.resets a b = b := by
    rcases ho with rfl | rfl <;> exact fun _ _ => rfl
  have hfirst : ∀ a, o.firstData a = none := by rcases ho with rfl | rfl <;> exact fun _ => rfl
  have hqueued : ∀ a, o.queuedData prof a = none := by
    rcases ho with rfl | rfl <;> exact fun _ => rfl
  exact {
    lawful := Trace.each_concat.mpr ⟨h.lawful, hlaw⟩
    running := by simp [Primary.abort, hrun]
    octets := fun r hr => by simp [Primary.abort, hrun] at hr
    phase := fun a => by
      rw [Primary.abort, phaseAt_concat, ← h.phase, hshift]
      by_cases ha : a = p.addr
      · subst ha
        simp [modify, restartStation]
      · simp [modify, Function.update_of_ne ha, Ne.symm ha]
    fcb := fun a => by
      rw [Primary.abort, nextFcb_concat, ← h.fcb, htoggle]
      by_cases ha : a = p.addr
      · subst ha
        simp [modify, restartStation]
      · simp [modify, Function.update_of_ne ha]
    t1 := rfl
    retry := Nat.zero_le _
    genuine := fun q hq => by cases hq
    order := fun a => by
      simpa [Primary.abort, modify, hfirst, hqueued] using h.order a }

/-- An entry about nothing but deliveries or the queue. -/
theorem record (o : Obs α A) (queue : List (Outgoing α A)) (hlaw : Lawful prof s.log o)
    (hrun : ∀ r, o.run r = r) (hshift : ∀ a ph, o.shift prof.resets a ph = ph)
    (htoggle : ∀ a b, o.toggle prof.resets a b = b)
    (horder : ∀ a, ((o.firstData a).toList ++ waitingFor prof a queue) =
      waitingFor prof a s.queue ++ (o.queuedData prof a).toList) :
    ({ s with queue, log := s.log ++ [o] } : Primary α A).Disciplined prof where
  lawful := Trace.each_concat.mpr ⟨h.lawful, hlaw⟩
  running := by simpa [hrun] using h.running
  octets := fun r hr => by
    rw [outstanding_concat, hrun] at hr
    exact h.octets r hr
  phase := fun a => by simpa [hshift] using h.phase a
  fcb := fun a => by simpa [htoggle] using h.fcb a
  t1 := h.t1
  retry := h.retry
  genuine := fun q hq => (h.genuine q hq).congr rfl (fun _ => rfl) fun _ => rfl
  order := fun a => by
    simp only [sentTo_concat, queuedFor_concat, List.append_assoc, horder]
    rw [← List.append_assoc]
    exact (h.order a).append_right _

/-- The outstanding transaction is completed by a frame. -/
theorem completeBy {p : Pending α} (frame : Frame) (hp : s.lastSent = some p) :
    (s.completeBy prof p frame).Disciplined prof := by
  have hc := h.complete hp
  unfold Primary.completeBy deliveredBy
  split
  · next hclass =>
    rcases hdata : frame.classData with _ | raw
    · simpa [Primary.complete] using hc
    · have := hc.record (.delivered p.addr raw) (s.complete prof p).queue
        (.inr ⟨s.log, p, rfl, rfl, hclass⟩) (fun _ => rfl) (fun _ _ => rfl) (fun _ _ => rfl)
        (fun a => by simp [Obs.firstData, Obs.queuedData, Primary.complete, modify])
      simpa [Primary.complete] using this
  · simpa [Primary.complete] using hc

/-- An ASDU is queued. -/
theorem push (out : Outgoing α A) : (s.push out).Disciplined prof := by
  refine h.record _ _ trivial (fun _ => rfl) (fun _ _ => rfl) (fun _ _ => rfl) fun a => ?_
  simp only [Obs.firstData, Obs.queuedData, waitingFor, List.filter_append, List.filterMap_append,
    Option.toList_none, List.nil_append]
  by_cases ha : out.addr = a
  · rcases henc : (prof.marshal out.asdu).toOption with _ | raw <;> simp [ha, henc]
  · simp [ha]

/-- A reset is asked for while no transaction is outstanding. -/
theorem askReset {addr : α} (hidle : s.lastSent = none) : (s.askReset addr).Disciplined prof where
  lawful := Trace.each_concat.mpr ⟨h.lawful, trivial⟩
  running := by simpa [Primary.askReset, modify, Obs.run] using h.running
  octets := fun r hr => by
    rw [Primary.askReset, outstanding_concat] at hr
    exact h.octets r hr
  phase := fun a => by
    rw [Primary.askReset, phaseAt_concat, ← h.phase, Obs.shift]
    by_cases ha : a = addr
    · subst ha
      simp [modify]
    · simp [modify, Function.update_of_ne ha, Ne.symm ha]
  fcb := fun a => by
    rw [Primary.askReset, nextFcb_concat, ← h.fcb]
    by_cases ha : a = addr
    · subst ha
      simp [modify, Obs.toggle]
    · simp [modify, Obs.toggle, Function.update_of_ne ha]
  t1 := h.t1
  retry := h.retry
  genuine := fun q hq => by
    rw [Primary.askReset, modify, hidle] at hq
    cases hq
  order := fun a => by
    simpa [Primary.askReset, modify, Obs.firstData, Obs.queuedData] using h.order a

/-- The writer has gone. -/
theorem close : ({ s with outOpen := false } : Primary α A).Disciplined prof where
  lawful := h.lawful
  running := h.running
  octets := h.octets
  phase := h.phase
  fcb := h.fcb
  t1 := h.t1
  retry := h.retry
  genuine := fun q hq => (h.genuine q hq).congr rfl (fun _ => rfl) fun _ => rfl
  order := h.order

/-- The timer of an idle primary is cleared. -/
theorem disarm (hidle : s.lastSent = none) :
    ({ s with t1At := none } : Primary α A).Disciplined prof where
  lawful := h.lawful
  running := h.running
  octets := h.octets
  phase := h.phase
  fcb := h.fcb
  t1 := by rw [hidle]; rfl
  retry := h.retry
  genuine := fun q hq => (h.genuine q hq).congr rfl (fun _ => rfl) fun _ => rfl
  order := h.order

/-- The secondary role of a balanced station records something. -/
theorem peer {o : Obs α A} (hbal : prof.polls = false)
    (ho : (∃ f raw, o = .replied f raw) ∨ ∃ a raw, o = .delivered a raw) :
    ({ s with log := s.log ++ [o] } : Primary α A).Disciplined prof := by
  rcases ho with ⟨f, raw, rfl⟩ | ⟨a, raw, rfl⟩
  · exact h.record _ s.queue hbal (fun _ => rfl) (fun _ _ => rfl) (fun _ _ => rfl)
      fun a => by simp [Obs.firstData, Obs.queuedData]
  · exact h.record _ s.queue (.inl hbal) (fun _ => rfl) (fun _ _ => rfl) (fun _ _ => rfl)
      fun a => by simp [Obs.firstData, Obs.queuedData]

/-- **Everything that happens to a primary keeps the discipline.** -/
theorem act (ha : Act prof s t) : t.Disciplined prof := by
  cases ha with
  | note hn => exact h.note hn
  | begin hidle hopen hp hraw => exact h.begin hidle hp hraw
  | again hp hlt hraw => exact h.again hp hlt hraw
  | complete hp => exact h.completeBy _ hp
  | fail hp => exact h.abort hp (.inl rfl)
  | giveUp hp => exact h.abort hp (.inr rfl)
  | askReset hidle => exact h.askReset hidle
  | push out => exact h.push out
  | disarm hidle => exact h.disarm hidle
  | close => exact h.close
  | peer hbal ho => exact h.peer hbal ho

/-- A sequence of acts keeps the discipline. -/
theorem acts (ha : Acts prof s t) : t.Disciplined prof := by
  induction ha with
  | refl => exact h
  | tail _ hstep ih => exact ih.act hstep

end Disciplined

/-- A primary that has just opened its line is disciplined. -/
theorem disciplined_new (prof : Profile α A) (order : List α) :
    (Primary.new order : Primary α A).Disciplined prof where
  lawful := Trace.each_nil
  running := rfl
  octets := fun r hr => by cases hr
  phase := fun a => rfl
  fcb := fun a => rfl
  t1 := rfl
  retry := Nat.zero_le _
  genuine := fun q hq => by cases hq
  order := fun a => List.Sublist.refl _

end Primary

end Cs101
end Iec60870
