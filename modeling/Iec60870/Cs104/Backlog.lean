import Iec60870.Cs104.Replay

/-!
# What a replay leaves in the buffer

An ASDU is put into the buffer of a group as it is; whether it can be encoded is found
out only when it is replayed, and a replay stops at the first ASDU that cannot.

## Main definitions

* `Marshals` — `marshalBinary` accepts an ASDU.
* `Server.Replays` — an activation moves the whole buffer to the connection's queue.

## Main results

* `Group.replay_all`, `Group.marshals_of_replay` — with room for it, the whole buffer is
  moved exactly when all of it can be encoded.
* `Server.replays_iff` — **so it is in every state.**
* `Server.not_replays` — one ASDU that cannot be encoded blocks those behind it.
-/

namespace Iec60870
namespace Cs104

/-- `marshalBinary` accepts the ASDU, so that it can be queued on a connection
once there is room. -/
def Marshals (a : Asdu) : Prop := a.marshalBinary.isOk = true

instance (a : Asdu) : Decidable (Marshals a) := inferInstanceAs (Decidable (_ = true))

theorem marshals_iff {a : Asdu} : Marshals a ↔ ∃ raw, a.marshalBinary = .ok raw := by
  unfold Marshals
  rcases a.marshalBinary with e | raw
  · simp [Except.isOk, Except.toBool]
  · simp [Except.isOk, Except.toBool]

/-- `raws` are the octets of `asdus`. -/
abbrev Marshalled (asdus : List Asdu) (raws : List Octets) : Prop :=
  List.Forall₂ (fun a raw => a.marshalBinary = .ok raw) asdus raws

/-! ### Handles -/

theorem role_of_tryEnqueue {hs : Handles} {c : ℕ} {a : Asdu} {conn : Connection}
    (h : (hs c).tryEnqueue a = .ok conn) (m : ℕ) :
    (Function.update hs c conn m).role = (hs m).role := by
  obtain ⟨raw, -, rfl⟩ := Session.queue_of_tryEnqueue h
  by_cases hm : m = c
  · subst hm
    rw [Function.update_self]
  · rw [Function.update_of_ne hm]

/-- An open connection of a controlled station with room refuses only what cannot be
encoded. -/
theorem tryEnqueue_eq_ok {c : Connection} {a : Asdu} {raw : Octets} (hopen : c.connected = true)
    (hrole : c.role = .controlled) (hroom : c.queue.length < c.capacity)
    (hraw : a.marshalBinary = .ok raw) :
    c.tryEnqueue a = .ok { c with queue := c.queue ++ [raw] } := by
  have hmaster : ¬(c.role = .master ∧ !c.active) := by
    rintro ⟨h, -⟩
    rw [hrole] at h
    cases h
  unfold Connection.tryEnqueue
  rw [hopen, if_neg (by decide), if_neg hmaster, hraw]
  dsimp only
  rw [if_neg (by omega)]

namespace Group

/-- **Data that can be encoded is replayed whole**, when there is room for it. -/
theorem replay_all {c : ℕ} {b : List Asdu} {hs : Handles} (hopen : (hs c).connected = true)
    (hrole : (hs c).role = .controlled)
    (hroom : (hs c).queue.length + b.length ≤ (hs c).capacity) (hb : ∀ a ∈ b, Marshals a) :
    (replay c b hs).1 = [] ∧ ∃ raws, Marshalled b raws ∧
      ((replay c b hs).2.1 c).queue = (hs c).queue ++ raws := by
  induction b generalizing hs with
  | nil => exact ⟨rfl, [], .nil, (List.append_nil _).symm⟩
  | cons a rest ih =>
    obtain ⟨raw, hraw⟩ := marshals_iff.mp (hb a List.mem_cons_self)
    rw [List.length_cons] at hroom
    have hq := tryEnqueue_eq_ok hopen hrole (by omega) hraw
    rw [replay, hq]
    dsimp only
    obtain ⟨hleft, raws, hraws, hqueue⟩ := @ih (Function.update hs c
      { hs c with queue := (hs c).queue ++ [raw] })
      (by rw [Function.update_self]; exact hopen) (by rw [Function.update_self]; exact hrole)
      (by rw [Function.update_self, List.length_append, List.length_singleton]; dsimp only; omega)
      fun a' ha' => hb a' (List.mem_cons_of_mem _ ha')
    refine ⟨hleft, raw :: raws, .cons hraw hraws, ?_⟩
    rw [hqueue, Function.update_self]
    exact List.append_assoc _ _ _

/-- What is replayed can be encoded. -/
theorem marshals_of_replay {c : ℕ} {b : List Asdu} {hs : Handles} (h : (replay c b hs).1 = []) :
    ∀ a ∈ b, Marshals a := by
  induction b generalizing hs with
  | nil => exact nofun
  | cons a rest ih =>
    rw [replay] at h
    rcases hq : (hs c).tryEnqueue a with e | conn
    · rw [hq] at h
      cases h
    · rw [hq] at h
      obtain ⟨raw, hraw, -⟩ := Session.queue_of_tryEnqueue hq
      intro a' ha'
      rcases List.mem_cons.mp ha' with rfl | ha'
      · exact marshals_iff.mpr ⟨raw, hraw⟩
      · exact ih h a' ha'

/-- The connection that is started is not touched by the demotion of the others. -/
theorem demoteOthers_self (c : ℕ) (ms : List ℕ) (hs : Handles) : demoteOthers c ms hs c = hs c := by
  induction ms generalizing hs with
  | nil => rfl
  | cons k ms ih =>
    rw [demoteOthers, ih]
    split
    · next hk => rw [Function.update_of_ne hk.1.symm]
    · rfl

theorem role_demoteOthers (c : ℕ) (ms : List ℕ) (hs : Handles) (m : ℕ) :
    (demoteOthers c ms hs m).role = (hs m).role := by
  induction ms generalizing hs with
  | nil => rfl
  | cons k ms ih =>
    rw [demoteOthers, ih]
    split
    · by_cases hmk : m = k
      · subst hmk
        rw [Function.update_self]
        rfl
      · rw [Function.update_of_ne hmk]
    · rfl

theorem role_replay (c : ℕ) (b : List Asdu) (hs : Handles) (m : ℕ) :
    ((replay c b hs).2.1 m).role = (hs m).role := by
  induction b generalizing hs with
  | nil => rfl
  | cons a rest ih =>
    rw [replay]
    rcases hq : (hs c).tryEnqueue a with e | conn
    · rfl
    · show ((replay c rest (Function.update hs c conn)).2.1 m).role = _
      rw [ih, role_of_tryEnqueue hq]

theorem role_route (n : ℕ) (a : Asdu) (g : Group) (hs : Handles) (m : ℕ) :
    ((g.route n a hs).2.1 m).role = (hs m).role := by
  rcases g.route_cases n a hs with ⟨c, conn, -, hq, he⟩ | ⟨-, he⟩ | ⟨-, r, he, -, -⟩
  · rw [he]
    exact role_of_tryEnqueue hq m
  · rw [he]
  · rw [he]

end Group

theorem Groups.role_routeAll (n : ℕ) (a : Asdu) (l : List Group) (hs : Handles) (m : ℕ) :
    ((routeAll n a l hs).2.1 m).role = (hs m).role := by
  induction l generalizing hs with
  | nil => rfl
  | cons g l ih =>
    show ((routeAll n a l (g.route n a hs).2.1).2.1 m).role = _
    rw [ih, Group.role_route]

/-! ### Runs -/

/-- While a group has no connection in data transfer, it is handed only ASDUs that can
be encoded. -/
def Group.KeepsEncodable (a : Asdu) (hs : Handles) (g : Group) : Prop :=
  (g.refresh hs).active = none → Marshals a

instance (a : Asdu) (hs : Handles) (g : Group) : Decidable (g.KeepsEncodable a hs) :=
  inferInstanceAs (Decidable (_ → _))

/-- Whether a member is still in data transfer depends on the flags only. -/
theorem Group.refresh_congr {hs hs' : Handles} (h : ∀ c, (hs' c).active = (hs c).active)
    (g : Group) : g.refresh hs' = g.refresh hs := by
  have hfun : (fun c => !(hs' c).active) = fun c => !(hs c).active := funext fun c => by rw [h c]
  unfold Group.refresh
  rw [hfun]

/-- What is buffered under the condition can be encoded. -/
theorem keptByData_marshals :
    KeptByData (fun g => ∀ a ∈ g.buffer, Marshals a) fun a hs g => g.KeepsEncodable a hs where
  new := by
    intro g _ hb a ha
    rw [hb] at ha
    cases ha
  data := by
    intro g g' _ hb h
    rw [hb]
    exact h
  activated := by
    intro c g hs h a ha
    -- what is left of the buffer was in it
    have hmove := Group.enqueued_replay c g.buffer (Group.demoteOthers c g.members hs)
    refine h a ?_
    rw [← hmove]
    exact List.mem_append_right _ ha
  route := by
    intro n a g hs hok h
    obtain ⟨-, hb, -⟩ := g.refresh_frame hs
    rcases g.route_cases n a hs with ⟨c, conn, -, -, he⟩ | ⟨hnone, he⟩ | ⟨-, r, he, -, -⟩
    -- only a broadcast without an active connection puts its ASDU in the buffer
    · rw [he]
      show ∀ a ∈ (g.refresh hs).buffer, _
      rw [hb]
      exact h
    · rw [he]
      intro b hmem
      rcases List.mem_append.mp hmem with hmem | hmem
      · rw [hb] at hmem
        exact h b hmem
      · rw [List.mem_singleton.mp hmem]
        exact hok hnone
    · rw [he]
      show ∀ a ∈ (g.refresh hs).buffer, _
      rw [hb]
      exact h
  later := by
    intro n a g hs h hok
    unfold Group.KeepsEncodable at hok ⊢
    rwa [Group.refresh_congr (Groups.active_group_route n a g hs)]

namespace Groups

/-- The group in which the connection `c` is activated. -/
def groupOf (c : ℕ) (gs : Groups) : Option Group := gs.groups.find? fun g => g.contains c

/-- **What an activation does in the group of the connection.** -/
theorem groupOf_activated {c : ℕ} {gs : Groups} {g : Group} (h : gs.groupOf c = some g)
    (hs : Handles) :
    (gs.activated c hs).1.groupOf c = some (g.activated c hs).1 ∧
      (gs.activated c hs).2 = (g.activated c hs).2 := by
  unfold groupOf at h ⊢
  rcases activateFirst_cases c gs.groups hs with ⟨hno, -⟩ | ⟨pre, g', post, hgroups, hpre, hg', he⟩
  · have hmem := List.mem_of_find?_eq_some h
    have hc := Group.contains_iff.mp (List.find?_some (p := fun g : Group => g.contains c) h)
    exact absurd hc (hno g hmem)
  · have hfound : ∀ (x : Group) (l : List Group), c ∈ x.members →
        (x :: l).find? (fun g => g.contains c) = some x := fun x l hx =>
      List.find?_cons_of_pos (p := fun g : Group => g.contains c) (Group.contains_iff.mpr hx)
    have hskip : ∀ l : List Group, (pre ++ l).find? (fun g => g.contains c) =
        l.find? fun g => g.contains c := by
      intro l
      rw [List.find?_append, List.find?_eq_none.mpr fun x hx => mt Group.contains_iff.mp (hpre x hx),
        Option.none_or]
    rw [hgroups, hskip, hfound g' post hg'] at h
    cases h
    unfold activated
    rw [he]
    refine ⟨?_, rfl⟩
    show (pre ++ _ :: post).find? (fun g => g.contains c) = _
    rw [hskip]
    exact hfound _ post hg'

end Groups

namespace Server

variable {mode : ServerMode} {bufferSize : ℕ} {params : Params} {capacity : ℕ → ℕ} {s : Server}

/-- A started connection that is open, with room in its queue for the buffer of its
group `g`. -/
structure HasRoom (s : Server) (c : ℕ) (g : Group) : Prop where
  group : s.groups.groupOf c = some g
  connected : (s.conns c).connected = true
  room : (s.conns c).queue.length + g.buffer.length ≤ (s.conns c).capacity

/-- The activation of `c` leaves the buffer of its group empty and puts the encodings
of what the group `g` had buffered at the end of its queue, oldest first. -/
def Replays (s : Server) (c : ℕ) (g : Group) : Prop :=
  ∃ g' raws, (s.call (.activated c)).groups.groupOf c = some g' ∧ g'.buffer = [] ∧
    Marshalled g.buffer raws ∧
    ((s.call (.activated c)).conns c).queue = (s.conns c).queue ++ raws

/-- The ASDUs handed to groups without a connection in data transfer can be encoded. -/
def keepsEncodable (s : Server) : Call → Bool
  | .route a => s.groups.groups.all fun g => g.KeepsEncodable a s.conns
  | _ => true

/-- The handles are those of a controlled station. -/
theorem role_of_reach (h : (machine mode bufferSize params capacity).Reachable s) (c : ℕ) :
    (s.conns c).role = .controlled := by
  refine h.invariant (P := fun s => ∀ c, (s.conns c).role = .controlled) (fun c => rfl) ?_ c
  rintro s l t hs - ⟨⟩ m
  have hset : ∀ (c : ℕ) (conn : Connection), conn.role = (s.conns c).role →
      (Function.update s.conns c conn m).role = .controlled := by
    intro c conn hconn
    by_cases hm : m = c
    · subst hm
      rw [Function.update_self, hconn, hs]
    · rw [Function.update_of_ne hm, hs]
  cases l with
  | join group c => exact hs m
  | leave c => exact hs m
  | startDt c => exact hset c _ rfl
  | activated c =>
    show ((s.groups.activated c s.conns).2 m).role = _
    -- a replay enqueues and demotes, and touches no role
    unfold Groups.activated
    rcases Groups.activateFirst_cases c s.groups.groups s.conns with
      ⟨-, he⟩ | ⟨pre, g, post, -, -, -, he⟩
    · rw [he]
      exact hs m
    · rw [he]
      exact (Group.role_replay _ _ _ _).trans ((Group.role_demoteOthers _ _ _ _).trans (hs m))
  | stopDt c => exact hset c _ rfl
  | deactivated c => exact hs m
  | close c => exact hset c _ rfl
  | drain c => exact hset c _ rfl
  | route a => exact (Groups.role_routeAll _ _ _ _ _).trans (hs m)

/-- **A replay empties the buffer exactly when all of it can be encoded.**  That is so
in every state reached by any calls; and in every run in which groups without a
connection in data transfer are handed only ASDUs that can be encoded, every replay
empties the buffer. -/
theorem replays_iff :
    (∀ s, (machine mode bufferSize params capacity).Reachable s → ∀ c g, s.HasRoom c g →
      (s.Replays c g ↔ ∀ a ∈ g.buffer, Marshals a)) ∧
    ∀ s, (machine mode bufferSize params capacity).Reach (fun s l => s.keepsEncodable l = true) s →
      ∀ c g, s.HasRoom c g → s.Replays c g := by
  have hiff : ∀ s, (machine mode bufferSize params capacity).Reachable s → ∀ c g, s.HasRoom c g →
      (s.Replays c g ↔ ∀ a ∈ g.buffer, Marshals a) := by
    intro s h c g hroom
    obtain ⟨hgroup, hconns⟩ := Groups.groupOf_activated hroom.group s.conns
    have hself := Group.demoteOthers_self c g.members s.conns
    constructor
    -- an empty buffer means that every ASDU passed `marshal_binary`
    · rintro ⟨g', raws, hg', hempty, -, -⟩
      obtain rfl := Option.some_inj.mp (hgroup.symm.trans hg')
      exact Group.marshals_of_replay hempty
    -- conversely nothing stops the replay: the handle is connected, controlled and has room
    · intro hb
      have hopen : (Group.demoteOthers c g.members s.conns c).connected := by
        rw [hself]
        exact hroom.connected
      obtain ⟨hleft, raws, hraws, hqueue⟩ := Group.replay_all hopen
        (by rw [hself]; exact role_of_reach h c) (by rw [hself]; exact hroom.room) hb
      refine ⟨_, raws, hgroup, hleft, hraws, ?_⟩
      show ((s.groups.activated c s.conns).2 c).queue = _
      rw [hconns, ← hself]
      exact hqueue
  refine ⟨hiff, fun s h c g hroom => ?_⟩
  -- in such a run everything that was ever buffered can be encoded
  have hkept := keptByData_marshals.reach (fun s a ha g hg => ?_) h
  · exact (hiff s h.reachable c g hroom).mpr (hkept g (List.mem_of_find?_eq_some hroom.group))
  · have hall := List.all_eq_true.mp ha g hg
    exact of_decide_eq_true hall

/-- Two events while nobody is started, then a master. -/
def backlog : List Call :=
  [.route (Session.indication 1), .route (Session.indication 2), .join 0 0, .startDt 0]

theorem replays_iff_backlog : ∃ s g,
    (machine .singleRedundancyGroup 2 paramsWide (fun _ => 16)).runIf
        (fun s l => s.keepsEncodable l = true)
        (init .singleRedundancyGroup 2 paramsWide (fun _ => 16)) backlog = some s ∧
      g.buffer = [Session.indication 1, Session.indication 2] ∧ s.Replays 0 g := by
  obtain ⟨s, hs, hg, hopen, hroom⟩ : ∃ s,
      (machine .singleRedundancyGroup 2 paramsWide (fun _ => 16)).runIf
        (fun s l => s.keepsEncodable l = true)
        (init .singleRedundancyGroup 2 paramsWide (fun _ => 16)) backlog = some s ∧
      s.groups.groupOf 0 = some ⟨[0], none, [Session.indication 1, Session.indication 2], false,
        [.accepted (Session.indication 1), .accepted (Session.indication 2)]⟩ ∧
      (s.conns 0).connected = true ∧ (s.conns 0).queue.length + 2 ≤ (s.conns 0).capacity :=
    ⟨_, rfl, rfl, rfl, by decide⟩
  exact ⟨s, _, hs, rfl, replays_iff.2 s (Machine.reach_of_runIf .init hs) 0 _ ⟨hg, hopen, hroom⟩⟩

/-- An event whose information object is missing: it can be built by hand and is
buffered, but no connection can encode it. -/
def truncated : Asdu := { Session.indication 1 with infoObj := [] }

/-- An event that cannot be encoded, then one that can, then a master. -/
def blocked : List Call :=
  [.route truncated, .route (Session.indication 2), .join 0 0, .startDt 0]

/-- **One ASDU that cannot be encoded blocks those behind it.** -/
theorem not_replays : ∃ s g,
    (machine .singleRedundancyGroup 2 paramsWide (fun _ => 16)).Reach
        (fun s l => s.inOrder (fun _ => []) l = true) s ∧
      s.HasRoom 0 g ∧ ¬s.Replays 0 g := by
  obtain ⟨s, hs, hg, hopen, hroom, hstay⟩ : ∃ s,
      (machine .singleRedundancyGroup 2 paramsWide (fun _ => 16)).runIf
        (fun s l => s.inOrder (fun _ => []) l = true)
        (init .singleRedundancyGroup 2 paramsWide (fun _ => 16)) blocked = some s ∧
      s.groups.groupOf 0 = some ⟨[0], none, [truncated, Session.indication 2], false,
        [.accepted truncated, .accepted (Session.indication 2)]⟩ ∧
      (s.conns 0).connected = true ∧ (s.conns 0).queue.length + 2 ≤ (s.conns 0).capacity ∧
      (s.call (.activated 0)).groups.groupOf 0 = some ⟨[0], some 0,
        [truncated, Session.indication 2], false,
        [.accepted truncated, .accepted (Session.indication 2), .activated 0]⟩ :=
    ⟨_, rfl, rfl, rfl, by decide, rfl⟩
  refine ⟨s, _, Machine.reach_of_runIf .init hs, ⟨hg, hopen, hroom⟩, ?_⟩
  rintro ⟨g', raws, hg', hempty, -, -⟩
  obtain rfl := Option.some_inj.mp (hstay.symm.trans hg')
  cases hempty

end Server

end Cs104
end Iec60870
