import Iec60870.Lib.Machine
import Iec60870.Lib.Trace

/-!
# Numbered messages in both directions

Two ends send each other data over reliable channels that keep the order.  Data
messages are numbered, and every data message carries, as does a message for
that purpose alone, how much the sender has received so far.  Here the numbers
are unbounded and nobody checks them; the results say that the checks a real
receiver makes would never fail.

An end is described by what it does in the order it does it.  Its messages are
the outputs of that history, so their numbers are right by construction; what
has to be proved is that they fit the other end.

## Main definitions

* `Duplex.msgs` — the messages a history gives out.
* `Duplex.machine` — ends that act and take messages in any order.
* `Duplex.Inv` — what an end has received is what the messages it took carried.

## Main results

* `Duplex.inv_of_reach` — this holds along every run.
* `Duplex.Inv.got_initial` — **what one end has received is a prefix of what the
  other sent.**
* `Duplex.Inv.number`, `Duplex.Inv.acknowledge` — the numbers of the next message
  are the ones expected.
-/

universe u v

namespace Duplex

variable {α : Type u} {ι : Type v}

/-- What one end does. -/
inductive Act (α : Type u)
  /-- Send a data message. -/
  | data (x : α)
  /-- Send an acknowledgement. -/
  | ack
  /-- Send a message of some other kind. -/
  | ctl
  /-- Receive the data of a message. -/
  | got (x : α)
  deriving DecidableEq, Repr

/-- The messages, with what they carry. -/
inductive Msg (α : Type u)
  | data (n : ℕ) (x : α) (r : ℕ)
  | ack (r : ℕ)
  | ctl
  deriving DecidableEq, Repr

/-- The data sent. -/
def sent (h : List (Act α)) : List α :=
  h.filterMap fun
    | .data x => some x
    | _ => none

/-- The data received. -/
def got (h : List (Act α)) : List α :=
  h.filterMap fun
    | .got x => some x
    | _ => none

@[simp] theorem sent_append (h h' : List (Act α)) : sent (h ++ h') = sent h ++ sent h' :=
  List.filterMap_append

@[simp] theorem got_append (h h' : List (Act α)) : got (h ++ h') = got h ++ got h' :=
  List.filterMap_append

/-- The message an act sends after the history `h`. -/
def msg (h : List (Act α)) : Act α → Option (Msg α)
  | .data x => some (.data (sent h).length x (got h).length)
  | .ack => some (.ack (got h).length)
  | .ctl => some .ctl
  | .got _ => none

/-- The messages a history gives out. -/
def msgs (h : List (Act α)) : List (Msg α) := Trace.outputs msg h

/-- The data a message carries. -/
def Msg.payload : Msg α → Option α
  | .data _ x _ => some x
  | _ => none

/-- What a message acknowledges. -/
def Msg.acks : Msg α → Option ℕ
  | .data _ _ r => some r
  | .ack r => some r
  | .ctl => none

/-- The last acknowledgement among some messages. -/
def lastAck (ms : List (Msg α)) : ℕ := ((ms.filterMap Msg.acks).getLast?).getD 0

theorem lastAck_concat (ms : List (Msg α)) (m : Msg α) :
    lastAck (ms ++ [m]) = m.acks.getD (lastAck ms) := by
  rw [lastAck, List.filterMap_append]
  cases h : m.acks <;> simp [lastAck, h]

/-! ### What messages carry -/

/-- The messages carry exactly the data sent. -/
theorem payloads_msgs (h : List (Act α)) : (msgs h).filterMap Msg.payload = sent h := by
  induction h using List.reverseRecOn with
  | nil => rfl
  | append_singleton h a ih =>
    rw [msgs, Trace.outputs_concat, List.filterMap_append, sent_append]
    congr 1
    cases a <;> rfl

/-- No message acknowledges more than was received. -/
theorem acks_le {h : List (Act α)} : ∀ r ∈ (msgs h).filterMap Msg.acks, r ≤ (got h).length := by
  -- From the end of the history: an earlier message acknowledges no more than was received before
  -- it, and the last one exactly what was.
  induction h using List.reverseRecOn with
  | nil =>
    intro r hr
    cases hr
  | append_singleton h a ih =>
    intro r hr
    rw [msgs, Trace.outputs_concat, List.filterMap_append, List.mem_append] at hr
    rw [got_append, List.length_append]
    rcases hr with hr | hr
    · exact Nat.le_add_right_of_le (ih r hr)
    · cases a with
      | data x =>
        have hr : r = (got h).length := by simpa [msg, Msg.acks] using hr
        omega
      | ack =>
        have hr : r = (got h).length := by simpa [msg, Msg.acks] using hr
        omega
      | ctl => simp [msg, Msg.acks] at hr
      | got x => simp [msg] at hr

theorem lastAck_le (h : List (Act α)) : lastAck (msgs h) ≤ (got h).length := by
  unfold lastAck
  rcases hl : ((msgs h).filterMap Msg.acks).getLast? with _ | r
  · exact Nat.zero_le _
  · exact acks_le r (List.mem_of_getLast? hl)

/-- The number of a data message counts the data before it. -/
theorem number_eq {h : List (Act α)} {i n r : ℕ} {x : α} (hm : (msgs h)[i]? = some (.data n x r)) :
    n = (((msgs h).take i).filterMap Msg.payload).length := by
  obtain ⟨a, z, b, rfl, ha, hz⟩ := Trace.exists_of_outputs_getElem? hm
  rw [msgs, ← ha, show Trace.outputs msg a = msgs a from rfl, payloads_msgs]
  cases z <;> simp [msg] at hz
  exact hz.1.symm

/-- Acknowledgements never go back, and never exceed what was received. -/
theorem acks_mono {h : List (Act α)} {i r : ℕ} {m : Msg α} (hm : (msgs h)[i]? = some m)
    (hr : m.acks = some r) : lastAck ((msgs h).take i) ≤ r ∧ r ≤ (got h).length := by
  constructor
  · obtain ⟨a, z, b, rfl, ha, hz⟩ := Trace.exists_of_outputs_getElem? hm
    rw [msgs, ← ha]
    have hle := lastAck_le a
    have hrg : r = (got a).length := by
      cases z <;> simp [msg] at hz <;> subst hz <;> simp [Msg.acks] at hr <;> exact hr.symm
    rw [hrg]
    exact hle
  · exact acks_le r (List.mem_filterMap.mpr ⟨m, List.mem_of_getElem? hm, hr⟩)

/-! ### The machine -/

/-- One end: its history, how many of the other's messages it has taken, and the
last acknowledgement among these. -/
structure End (α : Type u) where
  hist : List (Act α)
  taken : ℕ
  acked : ℕ

/-- Take a message. -/
def End.take (e : End α) (m : Msg α) : End α where
  hist := e.hist ++ (m.payload.map Act.got).toList
  taken := e.taken + 1
  acked := m.acks.getD e.acked

/-- What an end can do next. -/
inductive Move (α : Type u)
  | data (x : α)
  | ack
  | ctl
  | take

/-- The act of a move that sends. -/
def Move.act : Move α → Option (Act α)
  | .data x => some (.data x)
  | .ack => some .ack
  | .ctl => some .ctl
  | .take => none

variable [DecidableEq ι] (other : ι → ι)

/-- One end moves. -/
def next (s : ι → End α) (l : ι × Move α) : Option (ι → End α) :=
  match l.2.act with
  | some a => some (Function.update s l.1 { s l.1 with hist := (s l.1).hist ++ [a] })
  | none =>
    match (msgs (s (other l.1)).hist)[(s l.1).taken]? with
    | some m => some (Function.update s l.1 ((s l.1).take m))
    | none => none

/-- Ends that act and take messages in any order. -/
def machine : Machine (ι → End α) (ι × Move α) where
  init := fun _ => ⟨[], 0, 0⟩
  next := next other

/-- What an end has received is what the messages it took carried. -/
structure Fits (e p : End α) : Prop where
  taken : e.taken ≤ (msgs p.hist).length
  got : got e.hist = ((msgs p.hist).take e.taken).filterMap Msg.payload
  acked : e.acked = lastAck ((msgs p.hist).take e.taken)

/-- Both ends fit. -/
def Inv (s : ι → End α) : Prop := ∀ i, Fits (s i) (s (other i))

variable {other}

/-- Sending does not disturb what the other end has taken. -/
theorem Fits.peer {e p : End α} (h : Fits e p) (as : List (Act α)) :
    Fits e { p with hist := p.hist ++ as } := by
  have hpre : msgs p.hist <+: msgs (p.hist ++ as) := Trace.outputs_initial p.hist as
  have htake : (msgs (p.hist ++ as)).take e.taken = (msgs p.hist).take e.taken := by
    obtain ⟨ms, hms⟩ := hpre
    rw [← hms, List.take_append_of_le_length h.taken]
  exact ⟨le_trans h.taken hpre.length_le, by rw [htake]; exact h.got, by rw [htake]; exact h.acked⟩

theorem Fits.send {e p : End α} (h : Fits e p) {mv : Move α} {a : Act α} (hmv : mv.act = some a) :
    Fits { e with hist := e.hist ++ [a] } p := by
  refine ⟨h.taken, ?_, h.acked⟩
  rw [got_append, h.got]
  cases mv <;> cases hmv <;> exact List.append_nil _

/-- Taking the next message. -/
theorem Fits.take {e p : End α} (h : Fits e p) {m : Msg α} (hm : (msgs p.hist)[e.taken]? = some m) :
    Fits (e.take m) p := by
  obtain ⟨hlt, hget⟩ := List.getElem?_eq_some_iff.mp hm
  have htake : (msgs p.hist).take (e.taken + 1) = (msgs p.hist).take e.taken ++ [m] := by
    rw [List.take_add_one, hm]
    rfl
  refine ⟨hlt, ?_, ?_⟩
  · show Duplex.got (e.hist ++ _) = ((msgs p.hist).take (e.taken + 1)).filterMap Msg.payload
    rw [htake, got_append, h.got, List.filterMap_append]
    congr 1
    cases m <;> rfl
  · show m.acks.getD e.acked = lastAck ((msgs p.hist).take (e.taken + 1))
    rw [htake, lastAck_concat, h.acked]

/-- A move keeps both ends fitting. -/
theorem Inv.next (hne : ∀ i, other i ≠ i) {s t : ι → End α} {l : ι × Move α} (h : Inv other s) (hn : Duplex.next other s l = some t) : Inv other t := by
  obtain ⟨i, mv⟩ := l
  -- it is enough that the moving end still fits, and has only added to its history
  have key : ∀ (e : End α) (as : List (Act α)), Fits e (s (other i)) →
      e.hist = (s i).hist ++ as → Inv other (Function.update s i e) := by
    intro e as he hhist j
    by_cases hj : j = i
    · subst hj
      rw [Function.update_self, Function.update_of_ne (hne j)]
      exact he
    · rw [Function.update_of_ne hj]
      by_cases hj' : other j = i
      · have hfit := (h j).peer as
        rw [hj', Function.update_self]
        rw [hj', ← hhist] at hfit
        exact ⟨hfit.taken, hfit.got, hfit.acked⟩
      · rw [Function.update_of_ne hj']
        exact h j
  unfold Duplex.next at hn
  split at hn
  · next a ha =>
    cases hn
    exact key _ [a] ((h i).send ha) rfl
  · split at hn
    · next m hm =>
      cases hn
      exact key _ _ ((h i).take hm) rfl
    · cases hn

/-- Both ends fit along every run. -/
theorem inv_of_reach (hne : ∀ i, other i ≠ i) {s : ι → End α} (h : (machine other).Reachable s) : Inv other s :=
  h.invariant (P := Inv other) (fun _ => ⟨Nat.zero_le _, rfl, rfl⟩)
    fun _ _ _ hs _ hn => hs.next hne hn

/-- Any acts but receptions can be moved, one after the other. -/
theorem reach_sends {s : ι → End α} (h : (machine other).Reachable s) (i : ι)
    {as : List (Act α)} (has : ∀ a ∈ as, ∀ x, a ≠ .got x) :
    (machine other).Reachable
      (Function.update s i { s i with hist := (s i).hist ++ as }) := by
  induction as using List.reverseRecOn with
  | nil =>
    rw [List.append_nil, Function.update_eq_self]
    exact h
  | append_singleton as a ih =>
    -- One move makes each act but a reception.
    have hmv : ∃ mv : Move α, mv.act = some a := by
      cases a with
      | data x => exact ⟨.data x, rfl⟩
      | ack => exact ⟨.ack, rfl⟩
      | ctl => exact ⟨.ctl, rfl⟩
      | got x => exact absurd rfl (has _ (by simp) x)
    obtain ⟨mv, hmv⟩ := hmv
    refine (ih fun a ha => has a (by simp [ha])).step trivial (l := (i, mv)) ?_
    show next other _ (i, mv) = _
    unfold next
    rw [hmv]
    simp [List.append_assoc]

/-- The next message can be taken. -/
theorem reach_take {s : ι → End α} (h : (machine other).Reachable s) {i : ι} {m : Msg α}
    (hm : (msgs (s (other i)).hist)[(s i).taken]? = some m) :
    (machine other).Reachable (Function.update s i ((s i).take m)) := by
  refine h.step trivial (l := (i, .take)) ?_
  show next other _ (i, .take) = _
  unfold next
  show (match (msgs (s (other i)).hist)[(s i).taken]? with
    | some m => some (Function.update s i ((s i).take m))
    | none => none) = _
  rw [hm]

omit [DecidableEq ι]

/-- **What one end has received is a prefix of what the other sent.** -/
theorem Inv.got_initial {s : ι → End α} (h : Inv other s) (i : ι) :
    got (s i).hist <+: sent (s (other i)).hist := by
  rw [(h i).got, ← payloads_msgs]
  have hpre := List.take_prefix (s i).taken (msgs (s (other i)).hist)
  exact hpre.filterMap _

/-- The next data message carries the number of what is received. -/
theorem Inv.number {s : ι → End α} (h : Inv other s) {i : ι} {n r : ℕ} {x : α}
    (hm : (msgs (s (other i)).hist)[(s i).taken]? = some (.data n x r)) :
    n = (got (s i).hist).length := by
  rw [number_eq hm, (h i).got]

/-- The next acknowledgement lies between the last one and what was sent. -/
theorem Inv.acknowledge (hinv : ∀ i, other (other i) = i) {s : ι → End α} (h : Inv other s) {i : ι}
    {r : ℕ} {m : Msg α} (hm : (msgs (s (other i)).hist)[(s i).taken]? = some m)
    (hr : m.acks = some r) : (s i).acked ≤ r ∧ r ≤ (sent (s i).hist).length := by
  obtain ⟨hlo, hhi⟩ := acks_mono hm hr
  rw [(h i).acked]
  refine ⟨hlo, le_trans hhi ?_⟩
  have hpre := h.got_initial (other i)
  rw [hinv] at hpre
  exact hpre.length_le

/-- An end that has no data left to take has received all that was sent. -/
theorem Inv.got_eq_sent {s : ι → End α} (h : Inv other s) {i : ι}
    (hrest : ((msgs (s (other i)).hist).drop (s i).taken).filterMap Msg.payload = []) :
    got (s i).hist = sent (s (other i)).hist := by
  rw [(h i).got, ← payloads_msgs]
  conv_rhs => rw [← List.take_append_drop (s i).taken (msgs (s (other i)).hist)]
  rw [List.filterMap_append, hrest, List.append_nil]

/-- An end that has no acknowledgement left to take has seen the last one. -/
theorem Inv.acked_eq {s : ι → End α} (h : Inv other s) {i : ι}
    (hrest : ((msgs (s (other i)).hist).drop (s i).taken).filterMap Msg.acks = []) :
    (s i).acked = lastAck (msgs (s (other i)).hist) := by
  rw [(h i).acked]
  conv_rhs => rw [← List.take_append_drop (s i).taken (msgs (s (other i)).hist)]
  rw [lastAck, lastAck, List.filterMap_append, hrest, List.append_nil]

end Duplex
