import Iec60870.Cs104.Events
import Iec60870.Lib.Duplex

/-!
# Two endpoints

A master and a controlled station, joined by two channels that lose nothing and
keep the order: what an endpoint has handed to its writer and the other has not
taken yet is in flight.  Each endpoint is a connection of its own and takes its
steps in any order; a frame event takes the next frame in flight.  The transport
may end at any time.

## Main definitions

* `wire` — the frames a connection has handed to its writer.
* `Link`, `Link.inFlight` — two connections and what is between them.
* `Link.machine` — their runs.

## Main results

* `forall₂_msgs_wire` — the frames of a connection show the messages of its history.
* `Link.reach_session` — along a run of the two, each runs as a connection.
-/

namespace Iec60870
namespace Cs104

/-- The other end. -/
def Role.other : Role → Role
  | .master => .controlled
  | .controlled => .master

@[simp] theorem Role.other_other (i : Role) : i.other.other = i := by cases i <;> rfl

theorem Role.other_ne (i : Role) : i.other ≠ i := by cases i <;> nofun

/-- A transmitted frame. -/
def Obs.sentFrame : Obs → Option Octets
  | .tx f _ => some f
  | _ => none

/-- The frames handed to the writer, oldest first. -/
def wire (log : List Obs) : List Octets := log.filterMap Obs.sentFrame

@[simp] theorem wire_append (l₁ l₂ : List Obs) : wire (l₁ ++ l₂) = wire l₁ ++ wire l₂ :=
  List.filterMap_append

/-- **The frames of a connection show the messages of its history**, read in any
way in which exactly the transmitted frames are messages. -/
theorem forall₂_msgs_wire {α : Type} {act : Obs → Option (Duplex.Act α)}
    {R : Duplex.Msg α → Octets → Prop} {log : List Obs}
    (hsilent : ∀ o a, o.sentFrame = none → act o = some a → ∃ x, a = .got x)
    (hlog : Trace.Each (fun before o => ∀ f now, o = .tx f now → ∃ a m, act o = some a ∧
      Duplex.msg (before.filterMap act) a = some m ∧ R m f) log) :
    List.Forall₂ R (Duplex.msgs (log.filterMap act)) (wire log) := by
  induction log using List.reverseRecOn with
  | nil => exact .nil
  | append_singleton log o ih =>
    obtain ⟨hlog, ho⟩ := Trace.each_concat.mp hlog
    have ih := ih hlog
    rw [List.filterMap_append, wire_append]
    -- a transmitted frame is one more message on either side
    by_cases htx : ∃ f now, o = .tx f now
    · obtain ⟨f, now, rfl⟩ := htx
      obtain ⟨a, m, ha, hm, hR⟩ := ho f now rfl
      have hone : [Obs.tx f now].filterMap act = [a] := by simp [ha]
      rw [hone, Duplex.msgs, Trace.outputs_concat, hm]
      exact List.rel_append ih (.cons hR .nil)
    · -- anything else gives out nothing
      have hnone : o.sentFrame = none := by
        cases o with
        | tx f now => exact absurd ⟨f, now, rfl⟩ htx
        | _ => rfl
      have hwire : wire [o] = [] := by simp [wire, hnone]
      have hmsgs : Duplex.msgs (log.filterMap act ++ [o].filterMap act) =
          Duplex.msgs (log.filterMap act) := by
        rcases ha : act o with _ | a
        · simp [ha]
        · obtain ⟨x, rfl⟩ := hsilent o a hnone ha
          have hone : [o].filterMap act = [.got x] := by simp [ha]
          rw [hone, Duplex.msgs, Trace.outputs_concat]
          exact List.append_nil _
      rw [hwire, List.append_nil, hmsgs]
      exact ih

/-- The message a frame shows. -/
theorem exists_msg {α : Type} {ms : List (Duplex.Msg α)} {fs : List Octets}
    {R : Duplex.Msg α → Octets → Prop} (h : List.Forall₂ R ms fs) {i : ℕ} {f : Octets}
    (hf : fs[i]? = some f) : ∃ m, ms[i]? = some m ∧ R m f := by
  obtain ⟨hlen, hget⟩ := List.forall₂_iff_get.mp h
  obtain ⟨hlt, rfl⟩ := List.getElem?_eq_some_iff.mp hf
  have hlt' : i < ms.length := by omega
  exact ⟨_, List.getElem?_eq_getElem hlt', hget i hlt' hlt⟩

/-- The frame that shows a message. -/
theorem exists_of_mem_forall₂ {α : Type} {ms : List (Duplex.Msg α)} {fs : List Octets}
    {R : Duplex.Msg α → Octets → Prop} (h : List.Forall₂ R ms fs) {m : Duplex.Msg α} (hm : m ∈ ms) :
    ∃ f ∈ fs, R m f := by
  induction h with
  | nil => cases hm
  | cons hR _ ih =>
    rcases List.mem_cons.mp hm with rfl | hm
    · exact ⟨_, List.mem_cons_self, hR⟩
    · obtain ⟨f, hf, hR'⟩ := ih hm
      exact ⟨f, List.mem_cons_of_mem _ hf, hR'⟩

/-- One endpoint: its connection, and how many of the other's frames it has taken. -/
structure Port where
  session : Session
  taken : ℕ
  deriving DecidableEq, Repr

/-- Two endpoints of one connection.  What is in flight between them is what one
has sent and the other has not taken, so it needs no field. -/
structure Link where
  master : Port
  controlled : Port
  deriving DecidableEq, Repr

namespace Link

/-- The endpoint of a role. -/
def port (k : Link) : Role → Port
  | .master => k.master
  | .controlled => k.controlled

/-- Replace the endpoint of a role and leave the other one as it is. -/
def set (k : Link) (i : Role) (p : Port) : Link :=
  match i with
  | .master => { k with master := p }
  | .controlled => { k with controlled := p }

@[simp] theorem port_set (k : Link) (i : Role) (p : Port) : (k.set i p).port i = p := by
  cases i <;> rfl

@[simp] theorem port_set_other (k : Link) (i : Role) (p : Port) :
    (k.set i p).port i.other = k.port i.other := by cases i <;> rfl

/-- Replacing one endpoint, and what it is related to. -/
theorem forall_port_set {ε : Type} {R : Role → Port → ε → Prop} {k : Link} {e : Role → ε}
    (h : ∀ i, R i (k.port i) (e i)) {i : Role} {p : Port} {d : ε} (hi : R i p d) :
    ∀ j, R j ((k.set i p).port j) (Function.update e i d j) := by
  intro j
  by_cases hj : j = i
  · subst hj
    rw [port_set, Function.update_self]
    exact hi
  · rw [Function.update_of_ne hj]
    have hother : j = i.other := by cases i <;> cases j <;> first | rfl | exact absurd rfl hj
    subst hother
    rw [port_set_other]
    exact h _

/-- The frames on their way to an endpoint, oldest first. -/
def inFlight (k : Link) (i : Role) : List Octets :=
  (wire (k.port i.other).session.log).drop (k.port i).taken

/-- The frame a label takes from the channel. -/
def takes : Label → Option Octets
  | .select (.frame f _ _) => some f
  | _ => none

variable (cfg : Role → Config)

/-- One endpoint takes a step; a frame it takes is the next in flight. -/
def next (k : Link) (l : Role × Label) : Option Link :=
  let p := k.port l.1
  match takes l.2 with
  | none => (p.session.next (cfg l.1) l.2).map fun s => k.set l.1 { p with session := s }
  | some f =>
    if (k.inFlight l.1).head? = some f then
      (p.session.next (cfg l.1) l.2).map fun s => k.set l.1 ⟨s, p.taken + 1⟩
    else none

/-- Two endpoints that have just been connected. -/
def init (params : Role → Params) (start : Role → ℕ) : Link where
  master := ⟨.init (cfg .master) (params .master) .master (start .master), 0⟩
  controlled := ⟨.init (cfg .controlled) (params .controlled) .controlled (start .controlled), 0⟩

/-- The runs of two endpoints: in each step one of them moves, and receives only
what the other has sent and in that order. -/
def machine (params : Role → Params) (start : Role → ℕ) : Machine Link (Role × Label) where
  init := init cfg params start
  next := next cfg

variable {cfg} {params : Role → Params} {start : Role → ℕ}

/-- A step of the link is a step of one connection. -/
theorem next_eq_some {k k' : Link} {i : Role} {l : Label} (h : k.next cfg (i, l) = some k') :
    ∃ t, (k.port i).session.next (cfg i) l = some t ∧
      (takes l = none ∧ k' = k.set i ⟨t, (k.port i).taken⟩ ∨
        ∃ f, takes l = some f ∧
          (wire (k.port i.other).session.log)[(k.port i).taken]? = some f ∧
          k' = k.set i ⟨t, (k.port i).taken + 1⟩) := by
  unfold next at h
  rcases hl : takes l with _ | f
  · simp only [hl, Option.map_eq_some_iff] at h
    obtain ⟨t, ht, rfl⟩ := h
    exact ⟨t, ht, .inl ⟨rfl, rfl⟩⟩
  · simp only [hl] at h
    split at h
    · next hhead =>
      obtain ⟨t, ht, rfl⟩ := Option.map_eq_some_iff.mp h
      refine ⟨t, ht, .inr ⟨f, rfl, ?_, rfl⟩⟩
      rw [inFlight, List.head?_drop] at hhead
      exact hhead
    · cases h

theorem takes_eq_some {l : Label} {f : Octets} (h : takes l = some f) :
    ∃ idle now, l = .select (.frame f idle now) := by
  rcases l with _ | _ | _ | _ | _ | (_ | _ | _ | ⟨f', idle, now⟩ | _ | _) <;> cases h
  exact ⟨idle, now, rfl⟩

/-- What one step does to either endpoint. -/
theorem port_of_next {k k' : Link} {l : Role × Label} (h : k.next cfg l = some k') (i : Role) :
    k'.port i = k.port i ∨ i = l.1 ∧ (k.port i).session.next (cfg i) l.2 =
      some (k'.port i).session := by
  obtain ⟨j, l⟩ := l
  obtain ⟨t, ht, hcase⟩ := next_eq_some h
  have hk : ∃ n, k' = k.set j ⟨t, n⟩ := by
    rcases hcase with ⟨-, rfl⟩ | ⟨f, -, -, rfl⟩
    · exact ⟨_, rfl⟩
    · exact ⟨_, rfl⟩
  obtain ⟨n, rfl⟩ := hk
  by_cases hij : i = j
  · subst hij
    right
    rw [port_set]
    exact ⟨rfl, ht⟩
  · left
    have hi : i = j.other := by cases i <;> cases j <;> first | rfl | exact absurd rfl hij
    rw [hi, port_set_other]

/-- **Along a run of the two, each runs as a connection.** -/
theorem reach_session {ok : Link → Role × Label → Prop} {k : Link}
    (h : (machine cfg params start).Reach ok k) (i : Role) :
    (Session.machine (cfg i) (params i) i (start i)).Reachable (k.port i).session := by
  induction h with
  | init => cases i <;> exact .init
  | step _ _ hn ih =>
    rcases port_of_next hn i with he | ⟨-, he⟩
    · rw [he]
      exact ih
    · exact ih.step trivial he

end Link

end Cs104
end Iec60870
