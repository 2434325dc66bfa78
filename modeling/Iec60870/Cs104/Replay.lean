import Iec60870.Cs104.Redundancy

/-!
# The order in which a redundancy group delivers

Data takes two paths to the connection in data transfer: directly, or through the
group's buffer and its replay.  A replay stops when the queue of the new
connection is full, and the next broadcast may then find room before what is left
of the buffer has moved.

## Main definitions

* `Group.Ordered` — what was enqueued, then the buffer, is what was accepted.
* `Server.sendsInOrder` — data is sent directly past equal data only.

## Main results

* `Group.ordered_route_iff` — a broadcast keeps the order exactly then.
* `Server.delivers_once` — nothing accepted is lost or repeated.
* `Server.delivers_in_order` — **under the condition, nothing is reordered.**
* `Server.not_delivers_in_order` — without it data may be.
-/

namespace Iec60870
namespace Cs104

/-- An element can be moved from the front of a list to its end only past copies
of itself. -/
theorem cons_eq_concat_iff {α : Type} {a : α} {l : List α} :
    a :: l = l ++ [a] ↔ ∀ b ∈ l, b = a := by
  induction l with
  | nil => simp
  | cons x l ih =>
    constructor
    · intro h
      obtain ⟨rfl, h⟩ := List.cons.inj h
      intro b hb
      rcases List.mem_cons.mp hb with rfl | hb
      · rfl
      · exact ih.mp h b hb
    · intro h
      obtain rfl : x = a := h x List.mem_cons_self
      have hl := ih.mpr fun b hb => h b (List.mem_cons_of_mem _ hb)
      rw [List.cons_append, ← hl]

namespace Group

/-- What was enqueued, followed by the buffer, is what was accepted. -/
def Ordered (g : Group) : Prop := enqueued g.log ++ g.buffer = acceptedAsdus g.log

/-- If `a` is sent directly, everything in the buffer equals it. -/
def sendsInOrder (a : Asdu) (hs : Handles) (g : Group) : Bool :=
  match g.active with
  | some c =>
    match (hs c).tryEnqueue a with
    | .ok _ => !(hs c).active || g.buffer.all (· = a)
    | .error _ => true
  | none => true

theorem sendsInOrder_iff {a : Asdu} {hs : Handles} {g : Group} :
    g.sendsInOrder a hs = true ↔ ∀ c conn, g.active = some c → (hs c).active = true →
      (hs c).tryEnqueue a = .ok conn → ∀ b ∈ g.buffer, b = a := by
  unfold sendsInOrder
  rcases hact : g.active with _ | c
  · simp
  rcases hq : (hs c).tryEnqueue a with e | conn
  · refine iff_of_true (by simp only [hq]) fun c' conn hc' _ hq' => ?_
    cases hc'
    rw [hq] at hq'
    cases hq'
  · simp only [hq]
    constructor
    · rintro h c' conn' hc' hon -
      cases hc'
      simpa [hon] using h
    · intro h
      by_cases hon : (hs c).active = true
      · simpa [hon] using h c conn rfl hon hq
      · simp [hon]

/-- **A broadcast keeps the order exactly when it overtakes nothing.** -/
theorem ordered_route_iff {n : ℕ} {a : Asdu} {g : Group} {hs : Handles} (h : g.Ordered) :
    (g.route n a hs).1.Ordered ↔ g.sendsInOrder a hs = true := by
  obtain ⟨-, hb, hl⟩ := g.refresh_frame hs
  rw [sendsInOrder_iff]
  rcases g.route_cases n a hs with ⟨c, conn, hact, hq, he⟩ | ⟨hact, he⟩ | ⟨hno, r, he, -, -⟩
  -- the ASDU is enqueued before what is left in the buffer: in order only if these can be swapped
  · obtain ⟨hc, hon⟩ := refresh_eq_some.mp hact
    have hswap : (g.route n a hs).1.Ordered ↔ a :: g.buffer = g.buffer ++ [a] := by
      rw [he, Ordered]
      show enqueued ((g.refresh hs).log ++ [_, _]) ++ (g.refresh hs).buffer =
        acceptedAsdus ((g.refresh hs).log ++ [_, _]) ↔ _
      rw [hb, hl, enqueued_append, acceptedAsdus_append, ← show _ = acceptedAsdus g.log from h]
      show enqueued g.log ++ [a] ++ g.buffer = enqueued g.log ++ g.buffer ++ [a] ↔ _
      rw [List.append_assoc, List.append_assoc, List.append_cancel_left_eq]
      rfl
    rw [hswap, cons_eq_concat_iff]
    constructor
    · intro hall _ _ _ _ _
      exact hall
    · intro hall
      exact hall c conn hc hon hq
  -- it is buffered behind the rest
  · refine iff_of_true ?_ fun c conn hc hon => ?_
    · rw [he, Ordered]
      show enqueued ((g.refresh hs).log ++ [_]) ++ ((g.refresh hs).buffer ++ [a]) =
        acceptedAsdus ((g.refresh hs).log ++ [_])
      rw [hb, hl, enqueued_append, acceptedAsdus_append, ← show _ = acceptedAsdus g.log from h]
      show enqueued g.log ++ [] ++ (g.buffer ++ [a]) = enqueued g.log ++ g.buffer ++ [a]
      simp
    · rw [refresh_eq_some.mpr ⟨hc, hon⟩] at hact
      cases hact
  -- it is not taken at all
  · refine iff_of_true ?_ fun c conn hc hon hq => ?_
    · rw [he, Ordered]
      show enqueued (g.refresh hs).log ++ (g.refresh hs).buffer = acceptedAsdus (g.refresh hs).log
      rw [hb, hl]
      exact h
    · exact absurd hq (hno c conn (refresh_eq_some.mpr ⟨hc, hon⟩))

/-- A replay moves data from the buffer to the queue. -/
theorem enqueued_activated (c : ℕ) (g : Group) (hs : Handles) :
    enqueued (g.activated c hs).1.log ++ (g.activated c hs).1.buffer =
        enqueued g.log ++ g.buffer ∧
      acceptedAsdus (g.activated c hs).1.log = acceptedAsdus g.log := by
  have hmove := enqueued_replay c g.buffer (demoteOthers c g.members hs)
  have hnone : acceptedAsdus (replay c g.buffer (demoteOthers c g.members hs)).2.2 = [] := by
    refine List.filterMap_eq_nil_iff.mpr fun o ho => ?_
    obtain ⟨a, rfl⟩ := replay_log ho
    rfl
  have hlog : (g.activated c hs).1.log =
      g.log ++ .activated c :: (replay c g.buffer (demoteOthers c g.members hs)).2.2 := rfl
  rw [hlog, List.append_cons, enqueued_append, enqueued_append, acceptedAsdus_append,
    acceptedAsdus_append, hnone]
  constructor
  · show enqueued g.log ++ [] ++ enqueued _ ++ (replay c g.buffer (demoteOthers c g.members hs)).1 = _
    rw [List.append_nil, List.append_assoc, hmove]
  · show acceptedAsdus g.log ++ [] ++ [] = _
    rw [List.append_nil, List.append_nil]

/-- Nothing accepted is lost or repeated: what was enqueued and what is buffered
are, up to their order, what was accepted. -/
def Once (g : Group) : Prop := (enqueued g.log ++ g.buffer).Perm (acceptedAsdus g.log)

/-- **A broadcast loses and repeats nothing**, in whatever order. -/
theorem Once.route {n : ℕ} {a : Asdu} {g : Group} {hs : Handles} (h : g.Once) :
    (g.route n a hs).1.Once := by
  obtain ⟨-, hb, hl⟩ := g.refresh_frame hs
  rcases g.route_cases n a hs with ⟨c, conn, -, -, he⟩ | ⟨-, he⟩ | ⟨-, r, he, -, -⟩
  · rw [he, Once]
    show (enqueued ((g.refresh hs).log ++ [_, _]) ++ (g.refresh hs).buffer).Perm
      (acceptedAsdus ((g.refresh hs).log ++ [_, _]))
    rw [hb, hl, enqueued_append, acceptedAsdus_append]
    show (enqueued g.log ++ [a] ++ g.buffer).Perm (acceptedAsdus g.log ++ [a])
    have hswap : ([a] ++ g.buffer).Perm (g.buffer ++ [a]) := List.perm_append_comm
    rw [List.append_assoc]
    refine (hswap.append_left _).trans ?_
    rw [← List.append_assoc]
    exact h.append_right [a]
  · rw [he, Once]
    show (enqueued ((g.refresh hs).log ++ [_]) ++ ((g.refresh hs).buffer ++ [a])).Perm
      (acceptedAsdus ((g.refresh hs).log ++ [_]))
    rw [hb, hl, enqueued_append, acceptedAsdus_append]
    show (enqueued g.log ++ [] ++ (g.buffer ++ [a])).Perm (acceptedAsdus g.log ++ [a])
    rw [List.append_nil, ← List.append_assoc]
    exact h.append_right [a]
  · rw [he, Once]
    show (enqueued (g.refresh hs).log ++ (g.refresh hs).buffer).Perm
      (acceptedAsdus (g.refresh hs).log)
    rw [hb, hl]
    exact h

end Group

/-! ### All groups -/

/-- A property of a group's data that a replay keeps, and a broadcast where `ok`
allows it. -/
structure KeptByData (P : Group → Prop) (ok : Asdu → Handles → Group → Prop) : Prop where
  new : ∀ g : Group, g.log = [] → g.buffer = [] → P g
  data : ∀ g g' : Group, g'.log = g.log → g'.buffer = g.buffer → P g → P g'
  activated : ∀ (c : ℕ) (g : Group) (hs : Handles), P g → P (g.activated c hs).1
  route : ∀ (n : ℕ) (a : Asdu) (g : Group) (hs : Handles), ok a hs g → P g → P (g.route n a hs).1
  /-- What is sent to one group does not forbid it in the next. -/
  later : ∀ (n : ℕ) (a : Asdu) (g : Group) (hs : Handles) (h : Group), ok a hs h →
    ok a (g.route n a hs).2.1 h

namespace KeptByData

variable {P : Group → Prop} {ok : Asdu → Handles → Group → Prop}

theorem routeAll (hP : KeptByData P ok) {n : ℕ} {a : Asdu} {l : List Group} {hs : Handles}
    (h : ∀ g ∈ l, P g) (hok : ∀ g ∈ l, ok a hs g) :
    ∀ g ∈ (Groups.routeAll n a l hs).1, P g := by
  induction l generalizing hs with
  | nil => exact nofun
  | cons g l ih =>
    intro g' hg'
    change g' ∈ (g.route n a hs).1 :: (Groups.routeAll n a l (g.route n a hs).2.1).1 at hg'
    rcases List.mem_cons.mp hg' with rfl | hg'
    · exact hP.route n a g hs (hok g List.mem_cons_self) (h g List.mem_cons_self)
    · refine ih (fun h' hh' => h h' (List.mem_cons_of_mem _ hh')) (fun h' hh' => ?_) g' hg'
      exact hP.later n a g hs h' (hok h' (List.mem_cons_of_mem _ hh'))

theorem activateFirst (hP : KeptByData P ok) {c : ℕ} {l : List Group} {hs : Handles}
    (h : ∀ g ∈ l, P g) : ∀ g ∈ (Groups.activateFirst c l hs).1, P g := by
  rcases Groups.activateFirst_cases c l hs with ⟨-, he⟩ | ⟨pre, g, post, rfl, -, -, he⟩
  · rw [he]
    exact h
  · rw [he]
    intro g' hg'
    rcases List.mem_append.mp hg' with hg' | hg'
    · exact h g' (List.mem_append_left _ hg')
    · rcases List.mem_cons.mp hg' with rfl | hg'
      · exact hP.activated c g hs (h g (List.mem_append_right _ List.mem_cons_self))
      · exact h g' (List.mem_append_right _ (List.mem_cons_of_mem _ hg'))

/-- **One call**, whoever makes it. -/
theorem call (hP : KeptByData P ok) {s : Server} {l : Call} (h : ∀ g ∈ s.groups.groups, P g)
    (hok : ∀ a, l = .route a → ∀ g ∈ s.groups.groups, ok a s.conns g) :
    ∀ g ∈ (s.call l).groups.groups, P g := by
  cases l with
  | join group c =>
    intro g' hg'
    rcases Groups.mem_join hg' with hg' | ⟨g, hg, rfl⟩ | rfl
    · exact h g' hg'
    · exact hP.data g _ rfl rfl (h g hg)
    · exact hP.new _ rfl rfl
  | leave c =>
    intro g' hg'
    obtain ⟨g, hg, rfl⟩ := Groups.mem_leave hg'
    exact hP.data g _ rfl rfl (h g hg)
  | activated c => exact hP.activateFirst h
  | deactivated c =>
    intro g' hg'
    obtain ⟨g, hg, rfl⟩ := List.mem_map.mp hg'
    refine hP.data g _ ?_ ?_ (h g hg)
    · unfold Group.deactivated
      split <;> rfl
    · unfold Group.deactivated
      split <;> rfl
  | route a => exact hP.routeAll h (hok a rfl)
  | _ => exact h

/-- **Any run.** -/
theorem reach (hP : KeptByData P ok) {mode : ServerMode} {bufferSize : ℕ} {params : Params}
    {capacity : ℕ → ℕ} {allowed : Server → Call → Prop}
    (hok : ∀ s a, allowed s (.route a) → ∀ g ∈ s.groups.groups, ok a s.conns g) {s : Server}
    (h : (Server.machine mode bufferSize params capacity).Reach allowed s) :
    ∀ g ∈ s.groups.groups, P g := by
  refine h.invariant (P := fun s => ∀ g ∈ s.groups.groups, P g) (fun g hg => ?_)
    fun s l t hs hl hn => ?_
  · cases mode with
    | connectionIsRedundancyGroup => cases hg
    | singleRedundancyGroup =>
      rw [List.mem_singleton.mp hg]
      exact hP.new _ rfl rfl
    | multipleRedundancyGroups gs =>
      obtain ⟨-, -, rfl⟩ := List.mem_map.mp hg
      exact hP.new _ rfl rfl
  · cases hn
    refine hP.call hs fun a ha => ?_
    subst ha
    exact hok s a hl

end KeptByData

/-- What a broadcast leaves in a group it could send to before. -/
theorem sendsInOrder_route {n : ℕ} {a : Asdu} {g h : Group} {hs : Handles}
    (hok : h.sendsInOrder a hs = true) : h.sendsInOrder a (g.route n a hs).2.1 = true := by
  rw [Group.sendsInOrder_iff] at hok ⊢
  intro c conn hc hon hq
  rw [Groups.active_group_route] at hon
  have hroom : ∃ conn', (hs c).tryEnqueue a = .ok conn' := by
    rcases g.route_cases n a hs with ⟨c', conn', -, hq', he⟩ | ⟨-, he⟩ | ⟨-, r, he, -, -⟩
    · rw [he] at hq
      by_cases hcc : c = c'
      · exact ⟨conn', hcc ▸ hq'⟩
      · change (Function.update hs c' conn' c).tryEnqueue a = .ok conn at hq
        rw [Function.update_of_ne hcc] at hq
        exact ⟨conn, hq⟩
    · rw [he] at hq
      exact ⟨conn, hq⟩
    · rw [he] at hq
      exact ⟨conn, hq⟩
  obtain ⟨conn', hq'⟩ := hroom
  exact hok c conn' hc hon hq'

theorem keptByData_once : KeptByData Group.Once fun _ _ _ => True where
  new := by
    intro g hl hb
    rw [Group.Once, hl, hb]
    exact List.Perm.refl _
  data := by
    intro g g' hl hb h
    rw [Group.Once, hl, hb]
    exact h
  activated := by
    intro c g hs h
    obtain ⟨he, ha⟩ := Group.enqueued_activated c g hs
    rw [Group.Once, he, ha]
    exact h
  route := fun _ _ _ _ _ h => h.route
  later := fun _ _ _ _ _ _ => trivial

theorem keptByData_ordered :
    KeptByData Group.Ordered fun a hs g => g.sendsInOrder a hs = true where
  new := by
    intro g hl hb
    rw [Group.Ordered, hl, hb]
    rfl
  data := by
    intro g g' hl hb h
    rw [Group.Ordered, hl, hb]
    exact h
  activated := by
    intro c g hs h
    obtain ⟨he, ha⟩ := Group.enqueued_activated c g hs
    rw [Group.Ordered, he, ha]
    exact h
  route := fun _ _ _ _ hok h => (Group.ordered_route_iff h).mpr hok
  later := fun _ _ _ _ _ => sendsInOrder_route

namespace Server

variable {mode : ServerMode} {bufferSize : ℕ} {params : Params} {capacity : ℕ → ℕ} {s : Server}

/-- A broadcast sends directly past equal data only. -/
def sendsInOrder (s : Server) : Call → Bool
  | .route a => s.groups.groups.all fun g => g.sendsInOrder a s.conns
  | _ => true

/-- **Nothing accepted is lost or repeated**, under any sequence of calls. -/
theorem delivers_once (h : (machine mode bufferSize params capacity).Reachable s) :
    ∀ g ∈ s.groups.groups, (enqueued g.log ++ g.buffer).Perm (acceptedAsdus g.log) :=
  keptByData_once.reach (fun _ _ _ _ _ => trivial) h

/-- **Nothing is reordered** in any run in which data is sent directly past equal
data only: what was enqueued, in that order, followed by the buffer, is what was
accepted, in that order. -/
theorem delivers_in_order (h : (machine mode bufferSize params capacity).Reach
    (fun s l => s.sendsInOrder l = true) s) :
    ∀ g ∈ s.groups.groups, enqueued g.log ++ g.buffer = acceptedAsdus g.log := by
  refine keptByData_ordered.reach (fun s a ha g hg => ?_) h
  exact List.all_eq_true.mp ha g hg

/-- Two events while nobody is started, then a master with room for both. -/
def replayBoth : List Call :=
  [.route (Session.indication 1), .route (Session.indication 2), .join 0 0, .startDt 0,
    .activated 0, .route (Session.indication 3)]

theorem delivers_in_order_replayBoth : ∃ s,
    (machine .singleRedundancyGroup 2 paramsWide (fun _ => 16)).runIf
        (fun s l => s.sendsInOrder l = true)
        (init .singleRedundancyGroup 2 paramsWide (fun _ => 16)) replayBoth = some s ∧
      (s.groups.groups.map fun g => (enqueued g.log).length) = [3] ∧
      ∀ g ∈ s.groups.groups, enqueued g.log ++ g.buffer = acceptedAsdus g.log := by
  obtain ⟨s, hs, hlen⟩ : ∃ s, (machine .singleRedundancyGroup 2 paramsWide (fun _ => 16)).runIf
      (fun s l => s.sendsInOrder l = true)
      (init .singleRedundancyGroup 2 paramsWide (fun _ => 16)) replayBoth = some s ∧
      (s.groups.groups.map fun g => (enqueued g.log).length) = [3] := ⟨_, rfl, rfl⟩
  exact ⟨s, hs, hlen, delivers_in_order (Machine.reach_of_runIf .init hs)⟩

/-- Seventeen events while nobody is started, a master whose queue holds sixteen,
and one more event once it has transmitted the first. -/
def replayPart : List Call :=
  (List.range 17).map (fun i => .route (Session.indication (UInt8.ofNat i))) ++
    [.join 0 0, .startDt 0, .activated 0, .drain 0, .route (Session.indication 17)]

/-- **Without the condition data may be reordered**: the last event overtakes the
one that is left in the buffer. -/
theorem not_delivers_in_order : ∃ s,
    (machine .singleRedundancyGroup 17 paramsWide (fun _ => 16)).Reach
        (fun s l => s.inOrder (fun _ => []) l = true) s ∧
      ¬∀ g ∈ s.groups.groups, enqueued g.log ++ g.buffer = acceptedAsdus g.log := by
  obtain ⟨s, hs, hbad⟩ : ∃ s,
      (machine .singleRedundancyGroup 17 paramsWide (fun _ => 16)).runIf
        (fun s l => s.inOrder (fun _ => []) l = true)
        (init .singleRedundancyGroup 17 paramsWide (fun _ => 16)) replayPart = some s ∧
      s.groups.groups.any (fun g => decide (enqueued g.log ++ g.buffer ≠ acceptedAsdus g.log)) =
        true := ⟨_, rfl, rfl⟩
  obtain ⟨g, hg, hne⟩ := List.any_eq_true.mp hbad
  exact ⟨s, Machine.reach_of_runIf .init hs, fun h => of_decide_eq_true hne (h g hg)⟩

end Server

end Cs104
end Iec60870
