import Iec60870.Cs101.Hearing
import Iec60870.Cs101.Steps
import Iec60870.Lib.AlternatingBit

/-!
# A primary and a secondary are an alternating bit

The transactions of a 101 primary with one station and that station's secondary role
are the two ends of an alternating bit: counted frames are its counted requests, the
link reset is its reset, and any other request is a probe.

## Main definitions

* `Sends`, `Hears` — the two ends of an alternating bit are those of the link.

## Main results

* `Sends.begin`, `again`, `complete`, `abort`, `askReset` — what the primary does.
* `Heard.hears` — what the secondary does.
-/

namespace Iec60870
namespace Cs101

open PrimFc
open Primary (Noted Begin Genuine)

/-- An answer: the frame, and the user data it was given with its class. -/
abbrev Answer : Type := Frame × Option (DataClass × Octets)

namespace Pending

variable {α : Type} (p : Pending α)

/-- What a transaction asks for, in the terms of the alternating bit: counted
data, a reset, or something that moves no bit. -/
def request : Request (Pending α) :=
  if p.ctrl.fcv then .counted p else if p.ctrl.func = RESET_LINK then .reset else .probe

/-- The user data that is delivered when the frame `f` completes the transaction. -/
def dataOf (f : Frame) : Option Octets := if p.isClassRequest then f.classData else none

/-- The answer was given with the user data that its frame delivers. -/
def Fits (p : Pending α) (y : Answer) : Prop := p.dataOf y.1 = y.2.map (·.2)

theorem request_counted {x : Pending α} (h : p.request = .counted x) :
    x = p ∧ p.ctrl.fcv = true := by
  unfold request at h
  split_ifs at h with hfcv
  cases h
  exact ⟨rfl, hfcv⟩

theorem request_reset (h : p.request = .reset) :
    p.ctrl.fcv = false ∧ p.ctrl.func = RESET_LINK := by
  unfold request at h
  split_ifs at h with hfcv hfunc
  exact ⟨Bool.not_eq_true _ ▸ hfcv, hfunc⟩

theorem request_probe (h : p.request = .probe) :
    p.ctrl.fcv = false ∧ p.ctrl.func ≠ RESET_LINK := by
  unfold request at h
  split_ifs at h with hfcv hfunc
  exact ⟨Bool.not_eq_true _ ▸ hfcv, hfunc⟩

end Pending

/-- The outstanding request to the station `a`. -/
def Primary.asked {α A : Type} [DecidableEq α] (s : Primary α A) (a : α) :
    Option (Request (Pending α)) :=
  (s.lastSent.filter (·.addr = a)).map Pending.request

namespace Primary

variable {α A : Type} [DecidableEq α] {s : Primary α A} {a : α} {p : Pending α}

theorem asked_none (h : s.lastSent = none) : s.asked a = none := by simp [asked, h]

theorem asked_own (h : s.lastSent = some p) (ha : p.addr = a) : s.asked a = some p.request := by
  simp [asked, h, ha]

theorem asked_other (h : s.lastSent = some p) (ha : p.addr ≠ a) : s.asked a = none := by
  simp [asked, h, ha]

/-- What is outstanding to a station is the outstanding transaction. -/
theorem asked_eq_some {r : Request (Pending α)} (h : s.asked a = some r) :
    ∃ p, s.lastSent = some p ∧ p.addr = a ∧ p.request = r := by
  obtain ⟨p, hp, hr⟩ := Option.map_eq_some_iff.mp h
  obtain ⟨hp, ha⟩ := Option.filter_eq_some_iff.mp hp
  exact ⟨p, hp, by simpa using ha, hr⟩

end Primary

/-- An alternating bit between a primary and one of its stations. -/
abbrev Bit : Type := AltBit (Pending UInt16) Answer

/-- The sender of `l` is the primary `s` towards the station `a`. -/
structure Sends (o : ClientOption) (s : Primary UInt16 Asdu) (a : UInt16) (l : Bit) : Prop where
  active : l.active = true ↔ (s.secs a).phase = .active
  bit : l.bit = (s.secs a).fcb
  out : l.out = s.asked a
  begun : l.sent.begun.filterMap Pending.payload = sentTo a s.log
  completed : l.sent.completed.filterMap Pending.payload = completedFor a s.log
  /-- A balanced station also delivers what its peer sends without being asked. -/
  got : o.config.isBalanced = false →
    (l.given.delivered.filterMap (·.2)).map (·.2) = deliveredFrom a s.log

/-- The receiver of `l` is the secondary `s`. -/
structure Hears (s : SecondaryState) (l : Bit) : Prop where
  expected : l.expected = s.fcbExpected
  cached : l.cached.map (·.1) = s.lastResp
  dispatched : l.sent.delivered.filterMap Pending.payload = dispatchedData s.log
  served : l.given.begun.filterMap (·.2) = servedData s.log

/-! ### What uncounted requests do not do -/

section Uncounted

variable {o : ClientOption} {s : Primary UInt16 Asdu} {p : Pending UInt16}

theorem payload_of_uncounted (h : Genuine o.profile s p) (hfcv : p.ctrl.fcv = false) :
    p.payload = none := by
  have hne : p.ctrl.func ≠ USER_DATA_CONF := by
    intro hf
    have hreq := h.fcv
    rw [hf, hfcv] at hreq
    cases hreq
  exact if_neg hne

theorem not_isClassRequest (h : Genuine o.profile s p) (hfcv : p.ctrl.fcv = false) :
    p.isClassRequest = false := by
  have hreq := h.fcv
  rw [hfcv] at hreq
  rcases hc : p.isClassRequest with _ | _
  · rfl
  · simp only [Pending.isClassRequest, Bool.or_eq_true, decide_eq_true_eq] at hc
    rcases hc with hc | hc <;> rw [hc] at hreq <;> cases hreq

/-- A counted transaction resets no link and asks for no status. -/
theorem func_of_counted (h : Genuine o.profile s p) (hfcv : p.ctrl.fcv = true) :
    p.ctrl.func ≠ RESET_LINK ∧ p.ctrl.func ≠ REQ_STATUS := by
  have hreq := h.fcv
  rw [hfcv] at hreq
  constructor <;> intro hf <;> rw [hf] at hreq <;> cases hreq

end Uncounted

/-! ### The primary -/

theorem deliveredBy_eq {p : Pending UInt16} (f : Frame) :
    (Primary.deliveredBy p f : List (Obs UInt16 Asdu)) =
      ((p.dataOf f).map (Obs.delivered p.addr)).toList := by
  unfold Primary.deliveredBy Pending.dataOf
  split <;> rfl

/-- What a completed transaction adds to the history. -/
theorem log_completeBy {o : ClientOption} {s : Primary UInt16 Asdu} {p : Pending UInt16}
    (f : Frame) : (s.completeBy o.profile p f).log =
      s.log ++ .completed p :: ((p.dataOf f).map (Obs.delivered p.addr)).toList := by
  rw [← deliveredBy_eq, Primary.completeBy]
  simp

section Completed

variable (a : UInt16) (log : List (Obs UInt16 Asdu)) (p : Pending UInt16) (raw : Option Octets)

theorem sentTo_completed :
    sentTo a (log ++ .completed p :: (raw.map (Obs.delivered p.addr)).toList) = sentTo a log := by
  cases raw <;> simp [sentTo, Obs.firstData, List.filterMap_cons]

theorem completedFor_completed :
    completedFor a (log ++ .completed p :: (raw.map (Obs.delivered p.addr)).toList) =
      completedFor a log ++ (if p.addr = a then p.payload else none).toList := by
  cases raw <;> rcases hx : (if p.addr = a then p.payload else none) with _ | x <;>
    simp [completedFor, Obs.completedData, List.filterMap_cons, hx]

theorem deliveredFrom_completed :
    deliveredFrom a (log ++ .completed p :: (raw.map (Obs.delivered p.addr)).toList) =
      deliveredFrom a log ++ (if p.addr = a then raw else none).toList := by
  cases raw <;> by_cases ha : p.addr = a <;>
    simp [deliveredFrom, Obs.gotData, List.filterMap_cons, ha]

end Completed

/-- Nothing in `rest` is about the user data of the station `a`. -/
structure Unconcerned (o : ClientOption) (a : UInt16) (rest : List (Obs UInt16 Asdu)) : Prop where
  begun : sentTo a rest = []
  completed : completedFor a rest = []
  got : o.config.isBalanced = false → deliveredFrom a rest = []

namespace Sends

variable {o : ClientOption} {s t m : Primary UInt16 Asdu} {a : UInt16} {l : Bit}

/-- A step that does not concern the station. -/
theorem congr (h : Sends o s a l) (rest : List (Obs UInt16 Asdu))
    (hphase : (t.secs a).phase = (s.secs a).phase) (hfcb : (t.secs a).fcb = (s.secs a).fcb)
    (hasked : t.asked a = s.asked a) (hlog : t.log = s.log ++ rest)
    (hrest : Unconcerned o a rest) : Sends o t a l where
  active := by rw [hphase, h.active]
  bit := by rw [hfcb, h.bit]
  out := by rw [hasked, h.out]
  begun := by
    rw [h.begun, hlog, sentTo, sentTo, List.filterMap_append]
    exact (congrArg _ hrest.begun).trans (List.append_nil _) |>.symm
  completed := by
    rw [h.completed, hlog, completedFor, completedFor, List.filterMap_append]
    exact (congrArg _ hrest.completed).trans (List.append_nil _) |>.symm
  got := fun hbal => by
    rw [h.got hbal, hlog, deliveredFrom, deliveredFrom, List.filterMap_append]
    exact (congrArg _ (hrest.got hbal)).trans (List.append_nil _) |>.symm

variable (h : Sends o s a l)

include h

theorem note (hn : Noted s t) : Sends o t a l := by
  have hasked : t.asked a = s.asked a := by rw [Primary.asked, hn.lastSent, Primary.asked]
  exact h.congr [] (hn.phase a) (hn.fcb a) hasked (hn.log.trans (List.append_nil _).symm)
    ⟨rfl, rfl, fun _ => rfl⟩

/-- A transaction with another station is begun. -/
theorem begin_other {p : Pending UInt16} {queue : List (Outgoing UInt16 Asdu)} {raw : Octets}
    {due : ℕ} (hidle : s.lastSent = none) (ha : p.addr ≠ a) :
    Sends o (({ s with queue } : Primary UInt16 Asdu).begun p raw due) a l := by
  refine h.congr [.began p raw] rfl rfl ?_ rfl ⟨?_, rfl, fun _ => rfl⟩
  · rw [Primary.asked_none hidle]
    exact Primary.asked_other rfl ha
  · simp [sentTo, Obs.firstData, ha]

/-- A transaction with the station is begun. -/
theorem begin_own {p : Pending UInt16} {queue : List (Outgoing UInt16 Asdu)} {raw : Octets}
    {due : ℕ} (hg : Genuine o.profile s p) (ha : p.addr = a) :
    Sends o (({ s with queue } : Primary UInt16 Asdu).begun p raw due) a (l.start p.request) := by
  have hout : (({ s with queue } : Primary UInt16 Asdu).begun p raw due).asked a =
      some p.request := Primary.asked_own rfl ha
  have hsent : sentTo a (s.log ++ [.began p raw]) = sentTo a s.log ++ p.payload.toList := by
    simp [Obs.firstData, ha]
  have hdone : completedFor a (s.log ++ [.began p raw]) = completedFor a s.log := by
    simp [Obs.completedData]
  have hgot : deliveredFrom a (s.log ++ [.began p raw]) = deliveredFrom a s.log := by
    simp [Obs.gotData]
  have hun : p.ctrl.fcv = false → sentTo a (s.log ++ [.began p raw]) = sentTo a s.log := by
    intro hfcv
    rw [hsent, payload_of_uncounted hg hfcv, Option.toList_none, List.append_nil]
  -- the three kinds of request: a reset, an uncounted probe, and a counted request
  rcases hr : p.request with _ | _ | x
  · obtain ⟨hfcv, hfunc⟩ := p.request_reset hr
    -- a reset is only begun while it is due, so the station is not active yet
    have hdue : (s.secs a).phase = .reset := by
      rw [← ha]
      exact hg.reset hfcv (LinkState.mem_resets.mpr hfunc)
    have hnot : (s.secs a).phase ≠ .active := by rw [hdue]; decide
    exact {
      active := ⟨fun hf => (by cases hf), fun hact => absurd hact hnot⟩
      bit := h.bit
      out := (hout.trans (congrArg some hr)).symm
      begun := h.begun.trans (hun hfcv).symm
      completed := h.completed.trans hdone.symm
      got := fun hbal => (h.got hbal).trans hgot.symm }
  · obtain ⟨hfcv, -⟩ := p.request_probe hr
    exact {
      active := h.active
      bit := h.bit
      out := (hout.trans (congrArg some hr)).symm
      begun := h.begun.trans (hun hfcv).symm
      completed := h.completed.trans hdone.symm
      got := fun hbal => (h.got hbal).trans hgot.symm }
  -- only a counted request carries user data
  · obtain ⟨rfl, -⟩ := p.request_counted hr
    exact {
      active := h.active
      bit := h.bit
      out := (hout.trans (congrArg some hr)).symm
      begun := by
        show (l.sent.start x).begun.filterMap _ = sentTo a (s.log ++ [.began x raw])
        rw [Ledger.begun_start, List.filterMap_append, h.begun, hsent]
        rcases hx : x.payload with _ | raw <;> simp [hx]
      completed := by
        show (l.sent.start x).completed.filterMap _ = completedFor a (s.log ++ [.began x raw])
        rw [Ledger.completed_start, h.completed, hdone]
      got := fun hbal => (h.got hbal).trans hgot.symm }

/-- The outstanding frame is repeated. -/
theorem again {p : Pending UInt16} {raw : Octets} {due : ℕ} : Sends o (s.again p raw due) a l :=
  h.congr [.repeated p raw] rfl rfl rfl rfl ⟨rfl, rfl, fun _ => rfl⟩

/-- An ASDU is queued. -/
theorem push (out : Outgoing UInt16 Asdu) : Sends o (s.push out) a l :=
  h.congr [.queued out] rfl rfl rfl rfl ⟨rfl, rfl, fun _ => rfl⟩

/-- Another station's transaction is completed. -/
theorem complete_other {p : Pending UInt16} (f : Frame) (hp : s.lastSent = some p)
    (ha : p.addr ≠ a) : Sends o (s.completeBy o.profile p f) a l := by
  have hsecs : (s.completeBy o.profile p f).secs a = s.secs a := Function.update_of_ne ha.symm _ _
  have hasked : (s.completeBy o.profile p f).asked a = s.asked a := by
    rw [Primary.asked_other hp ha]
    exact Primary.asked_none rfl
  refine h.congr _ (congrArg _ hsecs) (congrArg _ hsecs) hasked (log_completeBy f) ⟨?_, ?_, fun _ => ?_⟩
  · exact sentTo_completed a [] p _
  · exact (completedFor_completed a [] p _).trans (by rw [if_neg ha]; rfl)
  · exact (deliveredFrom_completed a [] p _).trans (by rw [if_neg ha]; rfl)

/-- The transaction with the station is completed by the answer in flight. -/
theorem complete_own {p : Pending UInt16} {y : Answer} (hl : l.Inv Pending.Fits)
    (hp : s.lastSent = some p) (hg : Genuine o.profile s p) (ha : p.addr = a)
    (hrep : l.rep = some y) :
    Sends o (s.completeBy o.profile p y.1) a (l.complete p.request) := by
  have hout : l.out = some p.request := h.out.trans (Primary.asked_own hp ha)
  have hsec : (s.completeBy o.profile p y.1).secs a =
      Primary.confirmStation o.profile p.ctrl (s.secs a) := by
    subst ha
    exact Function.update_self _ _ _
  have hasked : (s.completeBy o.profile p y.1).asked a = none := Primary.asked_none rfl
  have hsent := sentTo_completed a s.log p (p.dataOf y.1)
  have hdone := completedFor_completed a s.log p (p.dataOf y.1)
  have hgot := deliveredFrom_completed a s.log p (p.dataOf y.1)
  rw [if_pos ha] at hdone hgot
  -- an uncounted request carries no user data and fetches none
  have hun : p.ctrl.fcv = false → completedFor a (s.completeBy o.profile p y.1).log =
        completedFor a s.log ∧
      deliveredFrom a (s.completeBy o.profile p y.1).log = deliveredFrom a s.log := by
    intro hfcv
    have hdata : p.dataOf y.1 = none := by
      rw [Pending.dataOf, not_isClassRequest hg hfcv]
      rfl
    rw [log_completeBy, hdone, hgot, payload_of_uncounted hg hfcv, hdata]
    simp
  -- what `confirmStation` makes of the phase and of the bit of the station
  have hphase : ((s.completeBy o.profile p y.1).secs a).phase =
      if p.ctrl.func = RESET_LINK then .active
      else if p.ctrl.func = REQ_STATUS ∧ (s.secs a).phase = .status then .reset
      else (s.secs a).phase := by
    rw [hsec, Primary.confirmStation_phase]
    simp only [LinkState.mem_resets]
  have hfcb : ((s.completeBy o.profile p y.1).secs a).fcb =
      if p.ctrl.func = RESET_LINK then true
      else if p.ctrl.fcv then !p.ctrl.fcb else (s.secs a).fcb := by
    rw [hsec, Primary.confirmStation_fcb]
    simp only [LinkState.mem_resets]
  rw [← log_completeBy] at hsent hdone hgot
  rcases hr : p.request with _ | _ | x
  -- the reset is done: the station is active and its next bit is one
  · obtain ⟨hfcv, hfunc⟩ := p.request_reset hr
    rw [if_pos hfunc] at hphase hfcb
    exact {
      active := ⟨fun _ => hphase, fun _ => rfl⟩
      bit := hfcb.symm
      out := hasked.symm
      begun := h.begun.trans hsent.symm
      completed := h.completed.trans (hun hfcv).1.symm
      got := fun hbal => (h.got hbal).trans (hun hfcv).2.symm }
  -- a probe leaves the bit, and leads no station into the active phase
  · obtain ⟨hfcv, hfunc⟩ := p.request_probe hr
    rw [if_neg hfunc] at hphase hfcb
    rw [if_neg (by simp [hfcv])] at hfcb
    exact {
      active := by
        rw [hphase, show (l.complete .probe).active = l.active from rfl, h.active]
        split
        · next hstatus => rw [hstatus.2]; decide
        · rfl
      bit := h.bit.trans hfcb.symm
      out := hasked.symm
      begun := h.begun.trans hsent.symm
      completed := h.completed.trans (hun hfcv).1.symm
      got := fun hbal => (h.got hbal).trans (hun hfcv).2.symm }
  -- a counted request: the bit flips, and the data it carried has been taken
  · obtain ⟨rfl, hfcv⟩ := p.request_counted hr
    obtain ⟨hfunc, hstatus⟩ := func_of_counted hg hfcv
    rw [if_neg hfunc] at hphase hfcb
    rw [if_neg (fun hf => hstatus hf.1)] at hphase
    rw [if_pos hfcv, (hg.counted hfcv).2, ha, ← h.bit] at hfcb
    have htaken := hl.taken (hout.trans (congrArg some hr)) hrep
    have hfits : x.dataOf y.1 = y.2.map (·.2) := htaken.fits
    exact {
      active := h.active.trans (by rw [hphase])
      bit := hfcb.symm
      out := hasked.symm
      begun := by
        show l.sent.finish.begun.filterMap _ = _
        rw [Ledger.begun_finish, h.begun, hsent]
      completed := by
        show l.sent.finish.completed.filterMap _ = _
        rw [Ledger.completed_finish htaken.sent, List.filterMap_append, h.completed, hdone]
        rcases hx : x.payload with _ | raw <;> simp [hx]
      got := fun hbal => by
        show (l.given.deliver.abandon.delivered.filterMap _).map _ = _
        rw [Ledger.delivered_abandon, Ledger.delivered_deliver htaken.given,
          List.filterMap_append, List.map_append, h.got hbal, hgot, hfits]
        rcases hy : y.2 with _ | d <;> simp [hy] }

/-- The primary gives up on the station. -/
theorem abandon (rest : List (Obs UInt16 Asdu)) (hphase : (t.secs a).phase ≠ .active)
    (hfcb : (t.secs a).fcb = (s.secs a).fcb) (hasked : t.asked a = none)
    (hlog : t.log = s.log ++ rest) (hrest : Unconcerned o a rest) : Sends o t a l.abandon := by
  -- but for its phase the station is as it would be without the transaction
  have hq : Sends o { t with secs := s.secs } a { l with out := none } := by
    have hc := h.congr (t := { s with log := t.log }) rest rfl rfl rfl hlog hrest
    exact { hc with out := hasked.symm }
  exact {
    active := ⟨fun hf => (by cases hf), fun hact => absurd hact hphase⟩
    bit := hq.bit.trans hfcb.symm
    out := hasked.symm
    begun := by
      show l.sent.abandon.begun.filterMap _ = _
      rw [Ledger.begun_abandon]
      exact hq.begun
    completed := by
      show l.sent.abandon.completed.filterMap _ = _
      rw [Ledger.completed_abandon]
      exact hq.completed
    got := fun hbal => by
      show (l.given.abandon.delivered.filterMap _).map _ = _
      rw [Ledger.delivered_abandon]
      exact hq.got hbal }

/-- The transaction with the station is aborted. -/
theorem abort_own {p : Pending UInt16} {x : Obs UInt16 Asdu} (ha : p.addr = a)
    (hx : x = .failed p ∨ x = .gaveUp p) : Sends o (s.abort p x) a l.abandon := by
  have hsec : (s.abort p x).secs a = Primary.restartStation (s.secs a) := by
    subst ha
    exact Function.update_self _ _ _
  refine h.abandon [x] ?_ ?_ (Primary.asked_none rfl) rfl ?_
  · rw [hsec]
    exact fun hf => by cases hf
  · rw [hsec]
    rfl
  · rcases hx with rfl | rfl <;> exact ⟨rfl, rfl, fun _ => rfl⟩

/-- Another station's transaction is aborted. -/
theorem abort_other {p : Pending UInt16} {x : Obs UInt16 Asdu} (hp : s.lastSent = some p)
    (ha : p.addr ≠ a) (hx : x = .failed p ∨ x = .gaveUp p) : Sends o (s.abort p x) a l := by
  have hsec : (s.abort p x).secs a = s.secs a := Function.update_of_ne ha.symm _ _
  have hasked : (s.abort p x).asked a = s.asked a := by
    rw [Primary.asked_other hp ha]
    exact Primary.asked_none rfl
  refine h.congr [x] (congrArg _ hsec) (congrArg _ hsec) hasked rfl ?_
  rcases hx with rfl | rfl <;> exact ⟨rfl, rfl, fun _ => rfl⟩

/-- The application asks for a reset of the link. -/
theorem askReset_own (hidle : s.lastSent = none) : Sends o (s.askReset a) a l.abandon := by
  have hsec : (s.askReset a).secs a = { s.secs a with phase := .reset } :=
    Function.update_self _ _ _
  refine h.abandon [.resetAsked a] ?_ ?_ (Primary.asked_none hidle) rfl
    ⟨rfl, rfl, fun _ => rfl⟩
  · rw [hsec]
    exact fun hf => by cases hf
  · rw [hsec]

theorem askReset_other {b : UInt16} (hb : b ≠ a) : Sends o (s.askReset b) a l := by
  have hsec : (s.askReset b).secs a = s.secs a := Function.update_of_ne hb.symm _ _
  exact h.congr [.resetAsked b] (congrArg _ hsec) (congrArg _ hsec) rfl rfl
    ⟨rfl, rfl, fun _ => rfl⟩

omit h in
/-- What the secondary and the line do is not the primary's doing. -/
theorem of_eq {l' : Bit} (h : Sends o s a l) (hactive : l'.active = l.active)
    (hbit : l'.bit = l.bit) (hout : l'.out = l.out) (hbegun : l'.sent.begun = l.sent.begun)
    (hdone : l'.sent.completed = l.sent.completed)
    (hgot : l'.given.delivered = l.given.delivered) : Sends o s a l' where
  active := hactive ▸ h.active
  bit := hbit.trans h.bit
  out := hout.trans h.out
  begun := by rw [hbegun, h.begun]
  completed := by rw [hdone, h.completed]
  got := by rw [hgot]; exact h.got

/-- The request is answered. -/
theorem hear (y : Answer) (r : Request (Pending UInt16)) : Sends o s a (l.hear y r) := by
  cases r with
  | reset => exact h.of_eq rfl rfl rfl rfl rfl rfl
  | probe => exact h.of_eq rfl rfl rfl rfl rfl rfl
  | counted x =>
    rw [AltBit.hear]
    split
    · exact h.of_eq rfl rfl rfl Ledger.begun_deliver Ledger.completed_deliver
        Ledger.delivered_start
    · exact h.of_eq rfl rfl rfl rfl rfl rfl

end Sends

/-! ### The secondary -/

namespace Hears

variable {s t : SecondaryState} {l : Bit}

/-- What the primary and the line do is not the secondary's doing. -/
theorem of_eq {l' : Bit} (h : Hears s l) (hexp : l'.expected = l.expected)
    (hcached : l'.cached = l.cached) (hdone : l'.sent.delivered = l.sent.delivered)
    (hserved : l'.given.begun = l.given.begun) : Hears s l' where
  expected := hexp.trans h.expected
  cached := by rw [hcached, h.cached]
  dispatched := by rw [hdone, h.dispatched]
  served := by rw [hserved, h.served]

variable (h : Hears s l)

include h

/-- What the secondary does apart from answering. -/
theorem record {rest : List SecObs} (hexp : t.fcbExpected = s.fcbExpected)
    (hlast : t.lastResp = s.lastResp) (hlog : t.log = s.log ++ rest)
    (hdone : dispatchedData rest = []) (hserved : servedData rest = []) : Hears t l where
  expected := h.expected.trans hexp.symm
  cached := h.cached.trans hlast.symm
  dispatched := by rw [h.dispatched, hlog, dispatchedData_append, hdone, List.append_nil]
  served := by rw [h.served, hlog, servedData_append, hserved, List.append_nil]

theorem start (r : Request (Pending UInt16)) : Hears s (l.start r) := by
  cases r with
  | reset => exact h.of_eq rfl rfl rfl rfl
  | probe => exact h.of_eq rfl rfl rfl rfl
  | counted x => exact h.of_eq rfl rfl Ledger.delivered_start rfl

theorem complete (r : Request (Pending UInt16)) : Hears s (l.complete r) := by
  cases r with
  | reset => exact h.of_eq rfl rfl rfl rfl
  | probe => exact h.of_eq rfl rfl rfl rfl
  | counted x =>
    refine h.of_eq rfl rfl Ledger.delivered_finish ?_
    show l.given.deliver.abandon.begun = _
    rw [Ledger.begun_abandon, Ledger.begun_deliver]

theorem abandon : Hears s l.abandon :=
  h.of_eq rfl rfl Ledger.delivered_abandon Ledger.begun_abandon

end Hears

end Cs101
end Iec60870
