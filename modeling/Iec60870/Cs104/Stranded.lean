import Iec60870.Cs104.Switchover

/-!
# What a switchover leaves behind

An ASDU that `Server::send` has accepted waits in the send queue of the member
that was in data transfer, or in the event buffer.  A member that stops keeps its
queue: only the buffer moves on to the member that starts next.

## Main definitions

* `Server.Strands` — a standby holds accepted data while another member is in
  data transfer.
* `Server.handsOver` — an activation callback finds the queues of the other
  members empty.

## Main results

* `Groups.routeAll_frame`, `Group.activated_frame` — the queues a call leaves alone.
* `Server.strands_nothing` — **under the condition no standby holds data.**
* `Server.not_strands_nothing` — without it one may.
-/

namespace Iec60870
namespace Cs104

/-! ### Send queues -/

namespace Group

/-- Demotion leaves queues alone. -/
theorem demoteOthers_frame (c : ℕ) (ms : List ℕ) (hs : Handles) (m : ℕ) :
    (demoteOthers c ms hs m).queue = (hs m).queue ∧
      (demoteOthers c ms hs m).connected = (hs m).connected := by
  induction ms generalizing hs with
  | nil => exact ⟨rfl, rfl⟩
  | cons k ms ih =>
    rw [demoteOthers, (ih _).1, (ih _).2]
    split
    · by_cases hmk : m = k
      · subst hmk
        rw [Function.update_self]
        exact ⟨rfl, rfl⟩
      · rw [Function.update_of_ne hmk]
        exact ⟨rfl, rfl⟩
    · exact ⟨rfl, rfl⟩

/-- Replay fills the queue of one connection only. -/
theorem replay_frame {c m : ℕ} (hm : m ≠ c) (b : List Asdu) (hs : Handles) :
    (replay c b hs).2.1 m = hs m := by
  induction b generalizing hs with
  | nil => rfl
  | cons a rest ih =>
    rw [replay]
    rcases hq : (hs c).tryEnqueue a with e | conn
    · rfl
    · show (replay c rest (Function.update hs c conn)).2.1 m = hs m
      rw [ih, Function.update_of_ne hm]

/-- The queues of the other members after an activation callback. -/
theorem activated_frame {c m : ℕ} (hm : m ≠ c) (g : Group) (hs : Handles) :
    ((g.activated c hs).2 m).queue = (hs m).queue ∧
      ((g.activated c hs).2 m).connected = (hs m).connected := by
  have hreplay := replay_frame hm g.buffer (demoteOthers c g.members hs)
  rw [show (g.activated c hs).2 m = demoteOthers c g.members hs m from hreplay]
  exact demoteOthers_frame c g.members hs m

theorem route_frame {m : ℕ} {g : Group} (hm : g.active ≠ some m) (n : ℕ) (a : Asdu) (hs : Handles) :
    (g.route n a hs).2.1 m = hs m := by
  rcases g.route_cases n a hs with ⟨c, conn, hc, -, he⟩ | ⟨-, he⟩ | ⟨-, r, he, -, -⟩
  · rw [he]
    refine Function.update_of_ne ?_ _ _
    rintro rfl
    exact hm (refresh_eq_some.mp hc).1
  · rw [he]
  · rw [he]

end Group

namespace Groups

/-- A broadcast fills the queues of the groups' active members only. -/
theorem routeAll_frame {m : ℕ} {l : List Group} (hm : ∀ g ∈ l, g.active ≠ some m) (n : ℕ) (a : Asdu)
    (hs : Handles) : (routeAll n a l hs).2.1 m = hs m := by
  induction l generalizing hs with
  | nil => rfl
  | cons g l ih =>
    show (routeAll n a l (g.route n a hs).2.1).2.1 m = hs m
    rw [ih fun h hh => hm h (List.mem_cons_of_mem g hh),
      Group.route_frame (hm g List.mem_cons_self)]

/-- The groups after a broadcast have the same members, and no other `active`. -/
theorem exists_of_mem_routeAll {n : ℕ} {a : Asdu} {l : List Group} {hs : Handles} {g' : Group}
    (hg' : g' ∈ (routeAll n a l hs).1) :
    ∃ g ∈ l, g'.members = g.members ∧ ∀ c, g'.active = some c → g.active = some c := by
  induction l generalizing hs with
  | nil => cases hg'
  | cons g l ih =>
    change g' ∈ (g.route n a hs).1 :: (routeAll n a l (g.route n a hs).2.1).1 at hg'
    rcases List.mem_cons.mp hg' with rfl | hg'
    · refine ⟨g, List.mem_cons_self, ?_⟩
      have hfresh : ∀ c, (g.refresh hs).active = some c → g.active = some c :=
        fun c hc => (Group.refresh_eq_some.mp hc).1
      rcases g.route_cases n a hs with ⟨c, conn, -, -, he⟩ | ⟨-, he⟩ | ⟨-, r, he, -, -⟩
      all_goals
        rw [he]
        exact ⟨(g.refresh_frame hs).1, hfresh⟩
    · obtain ⟨h, hh, hrel⟩ := ih hg'
      exact ⟨h, List.mem_cons_of_mem g hh, hrel⟩

end Groups

namespace Server

/-- A member of `g` other than the one in data transfer is connected and holds an
ASDU that `Server::send` has accepted. -/
def Strands (s : Server) (g : Group) : Prop :=
  ∃ m ∈ g.members, (s.conns m).active = true ∧ ∃ m' ∈ g.members, m' ≠ m ∧
    (s.conns m').connected = true ∧
      ∃ a ∈ acceptedAsdus g.log, ∃ raw ∈ (s.conns m').queue, a.marshalBinary = .ok raw

/-- No activation and no deactivation callback is pending. -/
def CallbacksDone (s : Server) : Prop := ∀ c, s.stage c ≠ .activating ∧ s.stage c ≠ .deactivating

/-- An activation callback finds the send queues of the other connected members
of the group empty. -/
def handsOver (s : Server) : Call → Bool
  | .activated c => s.groups.groups.all fun g => !g.contains c || g.members.all fun m =>
      m == c || !(s.conns m).connected || (s.conns m).queue.isEmpty
  | _ => true

/-- The active connection of a group is one of its members. -/
def OwnActive (s : Server) : Prop :=
  ∀ g ∈ s.groups.groups, ∀ c, g.active = some c → c ∈ g.members

/-- Only the group's `active` has anything in its queue. -/
structure Clear (s : Server) : Prop where
  fresh : ∀ c, s.stage c = .absent → (s.conns c).queue = []
  queue : ∀ g ∈ s.groups.groups, ∀ c, g.active = some c → ∀ m ∈ g.members, m ≠ c →
    (s.conns m).connected = true → (s.conns m).queue = []

variable {s : Server}

theorem handsOver_activated {c : ℕ} (h : s.handsOver (.activated c) = true) {g : Group}
    (hg : g ∈ s.groups.groups) (hc : c ∈ g.members) {m : ℕ} (hm : m ∈ g.members) (hne : m ≠ c)
    (hconn : (s.conns m).connected = true) : (s.conns m).queue = [] := by
  simp only [handsOver, List.all_eq_true, Bool.or_eq_true] at h
  rcases h g hg with hno | hall
  · rw [Group.contains_iff.mpr hc] at hno
    cases hno
  · have hor := hall m hm
    simpa [hne, hconn] using hor

/-- Two groups with a common member are the same. -/
theorem Inv.eq_of_mem (h : s.Inv) {g g' : Group} (hg : g ∈ s.groups.groups)
    (hg' : g' ∈ s.groups.groups) {c : ℕ} (hc : c ∈ g.members) (hc' : c ∈ g'.members) : g = g' := by
  obtain ⟨i, hi, rfl⟩ := List.mem_iff_getElem.mp hg
  obtain ⟨j, hj, rfl⟩ := List.mem_iff_getElem.mp hg'
  have hdisj := List.pairwise_iff_getElem.mp h.disjoint
  rcases lt_trichotomy i j with hij | rfl | hij
  · exact absurd hc' (hdisj i j hi hj hij c hc)
  · rfl
  · exact absurd hc (hdisj j i hj hi hij c hc')

/-! ### The active member -/

variable {peer : ℕ → IpAddr}

theorem OwnActive.leave (h : s.OwnActive) {c : ℕ} {g' : Group}
    (hg' : g' ∈ (s.call (.leave c)).groups.groups) {m : ℕ} (hm : g'.active = some m) :
    ∃ g ∈ s.groups.groups, g' = g.leave c ∧ g.active = some m ∧ m ∈ g'.members := by
  obtain ⟨g, hg, rfl⟩ := Groups.mem_leave hg'
  change (if g.active = some c then none else g.active) = some m at hm
  split at hm
  · cases hm
  · next hne =>
    have hmc : m ≠ c := by
      rintro rfl
      exact hne hm
    exact ⟨g, hg, rfl, hm, List.mem_filter.mpr ⟨h g hg m hm, by simpa using hmc⟩⟩

theorem OwnActive.call (h : s.OwnActive) (hinv : s.Inv) {l : Call} (hl : s.inOrder peer l = true) :
    (s.call l).OwnActive := by
  intro g' hg' m hm
  cases l with
  | join group c =>
    rcases Groups.mem_join hg' with hg' | ⟨g, hg, rfl⟩ | rfl
    -- a new group has no active connection
    · exact h g' hg' m hm
    · exact List.mem_append_left _ (h g hg m hm)
    · cases hm
  | leave c =>
    obtain ⟨g, -, -, -, hmem⟩ := h.leave hg' hm
    exact hmem
  | activated c =>
    -- the active connection of the group is the one just started, a member
    rcases activated_groups hinv hg' with ⟨hg, -, -⟩ | ⟨g, -, hmem, hcg, hact, -, -⟩
    · exact h g' hg m hm
    · rw [hact] at hm
      cases hm
      rwa [hmem]
  | deactivated c =>
    -- deactivation clears the active connection of its own group only
    obtain ⟨g, hg, rfl⟩ := List.mem_map.mp hg'
    unfold Group.deactivated at hm ⊢
    split at hm
    · cases hm
    · next hne =>
      rw [if_neg hne]
      exact h g hg m hm
  | route a =>
    obtain ⟨g, hg, hmem, hold⟩ := Groups.exists_of_mem_routeAll hg'
    rw [hmem]
    exact h g hg m (hold m hm)
  | _ => exact h g' hg' m hm

/-! ### One call -/

/-- The calls of one driver change its own connection and stage. -/
theorem Clear.driver {s' : Server} (h : s.Clear) {c : ℕ} (hgroups : s'.groups = s.groups)
    (hother : ∀ m ≠ c, s'.conns m = s.conns m ∧ s'.stage m = s.stage m)
    (hqueue : (s.conns c).queue = [] → (s'.conns c).queue = [])
    (hconn : (s'.conns c).connected = true → (s.conns c).connected = true)
    (hstage : s'.stage c = .absent → s.stage c = .absent) : s'.Clear := by
  refine ⟨fun m hm => ?_, fun g hg k hact m hm hne hconn' => ?_⟩
  · by_cases hmc : m = c
    · rw [hmc] at hm ⊢
      exact hqueue (h.fresh c (hstage hm))
    · rw [(hother m hmc).2] at hm
      rw [(hother m hmc).1]
      exact h.fresh m hm
  · rw [hgroups] at hg
    by_cases hmc : m = c
    · rw [hmc] at hm hne hconn' ⊢
      exact hqueue (h.queue g hg k hact c hm hne (hconn hconn'))
    · rw [(hother m hmc).1] at hconn' ⊢
      exact h.queue g hg k hact m hm hne hconn'

theorem Clear.join (h : s.Clear) {group c : ℕ} (hst : s.stage c = .absent) :
    (s.call (.join group c)).Clear := by
  refine ⟨fun m hm => h.fresh m ?_, fun g' hg' m hact m' hm' hne hconn => ?_⟩
  · by_cases hmc : m = c
    · rwa [hmc]
    · rwa [show (s.call (.join group c)).stage m = s.stage m from
        Function.update_of_ne hmc _ _] at hm
  · rcases Groups.mem_join hg' with hg' | ⟨g, hg, rfl⟩ | rfl
    · exact h.queue g' hg' m hact m' hm' hne hconn
    · rcases List.mem_append.mp hm' with hm' | hm'
      · exact h.queue g hg m hact m' hm' hne hconn
      · rw [List.mem_singleton.mp hm']
        exact h.fresh c hst
    · cases hact

theorem Clear.leave (h : s.Clear) (hown : s.OwnActive) (c : ℕ) : (s.call (.leave c)).Clear := by
  refine ⟨fun m hm => h.fresh m ?_, fun g' hg' m hact m' hm' hne hconn => ?_⟩
  · by_cases hmc : m = c
    · rw [hmc, show (s.call (.leave c)).stage c = .gone from Function.update_self ..] at hm
      cases hm
    · rwa [show (s.call (.leave c)).stage m = s.stage m from Function.update_of_ne hmc _ _] at hm
  · obtain ⟨g, hg, rfl, hold, -⟩ := hown.leave hg' hact
    exact h.queue g hg m hold m' (List.mem_of_mem_filter hm') hne hconn

theorem Clear.deactivated (h : s.Clear) (c : ℕ) : (s.call (.deactivated c)).Clear := by
  refine ⟨fun m hm => h.fresh m ?_, fun g' hg' m hact m' hm' hne hconn => ?_⟩
  · by_cases hmc : m = c
    · rw [hmc, show (s.call (.deactivated c)).stage c = .up from Function.update_self ..] at hm
      cases hm
    · rwa [show (s.call (.deactivated c)).stage m = s.stage m from
        Function.update_of_ne hmc _ _] at hm
  · obtain ⟨g, hg, rfl⟩ := List.mem_map.mp hg'
    unfold Group.deactivated at hact hm'
    split at hact
    · cases hact
    · next hno =>
      rw [if_neg hno] at hm'
      exact h.queue g hg m hact m' hm' hne hconn

/-- The activation callback fills the queue of its own connection. -/
theorem activated_call_frame {c m : ℕ} (hm : m ≠ c) :
    ((s.call (.activated c)).conns m).queue = (s.conns m).queue ∧
      ((s.call (.activated c)).conns m).connected = (s.conns m).connected := by
  have hconns : (s.call (.activated c)).conns =
      (Groups.activateFirst c s.groups.groups s.conns).2 := rfl
  rcases Groups.activateFirst_cases c s.groups.groups s.conns with
    ⟨-, he⟩ | ⟨pre, g, post, -, -, -, he⟩
  · rw [hconns, he]
    exact ⟨rfl, rfl⟩
  · rw [hconns, he]
    exact Group.activated_frame hm g s.conns

/-- The callback makes its own connection active; the condition is what leaves
nothing in the queues of the others. -/
theorem Clear.activated (h : s.Clear) (hinv : s.Inv) {c : ℕ}
    (hok : s.handsOver (.activated c) = true) : (s.call (.activated c)).Clear := by
  refine ⟨fun m hm => ?_, fun g' hg' m hact m' hm' hne hconn => ?_⟩
  · have hmc : m ≠ c := by
      rintro rfl
      rw [show (s.call (.activated m)).stage m = .up from Function.update_self ..] at hm
      cases hm
    rw [show (s.call (.activated c)).stage m = s.stage m from Function.update_of_ne hmc _ _] at hm
    rw [(activated_call_frame hmc).1]
    exact h.fresh m hm
  · rcases activated_groups hinv hg' with ⟨hg, hc, -⟩ | ⟨g, hg, hmem, hcg, hact', -, -⟩
    · have hmc : m' ≠ c := fun he => hc (he ▸ hm')
      rw [(activated_call_frame hmc).2] at hconn
      rw [(activated_call_frame hmc).1]
      exact h.queue g' hg m hact m' hm' hne hconn
    · rw [hact'] at hact
      cases hact
      rw [(activated_call_frame hne).2] at hconn
      rw [(activated_call_frame hne).1]
      exact handsOver_activated hok hg hcg (hmem ▸ hm') hne hconn

/-- A broadcast fills the queues of active members, which are in their own
groups only. -/
theorem Clear.route (h : s.Clear) (hinv : s.Inv) (hown : s.OwnActive) (a : Asdu) :
    (s.call (.route a)).Clear := by
  have hframe : ∀ m, (∀ g ∈ s.groups.groups, g.active ≠ some m) →
      (s.call (.route a)).conns m = s.conns m :=
    fun m hm => Groups.routeAll_frame hm _ a s.conns
  refine ⟨fun m hm => ?_, fun g' hg' m hact m' hm' hne hconn => ?_⟩
  · have hm : s.stage m = .absent := hm
    rw [hframe m fun g hg hact => (hinv.groups g hg).known m (hown g hg m hact) hm]
    exact h.fresh m hm
  · obtain ⟨g, hg, hmem, hold⟩ := Groups.exists_of_mem_routeAll hg'
    have hidle : ∀ k ∈ s.groups.groups, k.active ≠ some m' := by
      intro k hk hkm
      obtain rfl := hinv.eq_of_mem hk hg (hown k hk m' hkm) (hmem ▸ hm')
      rw [hold m hact] at hkm
      cases hkm
      exact hne rfl
    rw [hframe m' hidle] at hconn ⊢
    exact h.queue g hg m (hold m hact) m' (hmem ▸ hm') hne hconn

/-! ### Runs -/

variable {mode : ServerMode} {bufferSize : ℕ} {params : Params} {capacity : ℕ → ℕ}

theorem active_init {g : Group}
    (hg : g ∈ (init mode bufferSize params capacity).groups.groups) : g.active = none := by
  cases mode with
  | connectionIsRedundancyGroup => cases hg
  | singleRedundancyGroup =>
    rw [List.mem_singleton.mp hg]
    rfl
  | multipleRedundancyGroups gs =>
    obtain ⟨-, -, rfl⟩ := List.mem_map.mp hg
    rfl

theorem ownActive_init : (init mode bufferSize params capacity).OwnActive := by
  intro g hg c hc
  rw [active_init hg] at hc
  cases hc

theorem clear_init : (init mode bufferSize params capacity).Clear := by
  refine ⟨fun c _ => rfl, fun g hg c hc => ?_⟩
  rw [active_init hg] at hc
  cases hc

theorem Clear.call (h : s.Clear) (hinv : s.Inv) (hown : s.OwnActive) {l : Call} (hl : s.inOrder peer l = true) (hok : s.handsOver l = true) : (s.call l).Clear := by
  cases l with
  | join group c =>
    simp only [inOrder, Bool.and_eq_true, decide_eq_true_eq] at hl
    exact h.join hl.1
  | leave c => exact h.leave hown c
  | activated c => exact h.activated hinv hok
  | deactivated c => exact h.deactivated c
  | route a => exact h.route hinv hown a
  | startDt c =>
    refine h.driver (c := c) rfl (fun m hm => ?_) (fun hq => ?_) (fun hc => ?_) (fun hst => ?_)
    -- the start and the stop of a transfer touch one connection's stage, and no group
    · exact ⟨Function.update_of_ne hm _ _, Function.update_of_ne hm _ _⟩
    · simpa [Server.call, setStage, setConn, Connection.setActive] using hq
    · simpa [Server.call, setStage, setConn, Connection.setActive] using hc
    · simp [Server.call, setStage, setConn] at hst
  | stopDt c =>
    refine h.driver (c := c) rfl (fun m hm => ?_) (fun hq => ?_) (fun hc => ?_) (fun hst => ?_)
    · exact ⟨Function.update_of_ne hm _ _, Function.update_of_ne hm _ _⟩
    · simpa [Server.call, setStage, setConn, setStarted, Connection.setActive] using hq
    · simpa [Server.call, setStage, setConn, setStarted, Connection.setActive] using hc
    · simp only [Server.call, setStage, setConn, setStarted, Function.update_self] at hst
      split at hst <;> cases hst
  | close c =>
    refine h.driver (c := c) rfl (fun m hm => ?_) (fun hq => ?_) (fun hc => ?_) (fun hst => ?_)
    · exact ⟨Function.update_of_ne hm _ _, Function.update_of_ne hm _ _⟩
    · simpa [Server.call, setStage, setConn, setStarted] using hq
    · simp [Server.call, setStage, setConn, setStarted] at hc
    · simp [Server.call, setStage, setConn, setStarted] at hst
  | drain c =>
    refine h.driver (c := c) rfl (fun m hm => ?_) (fun hq => ?_) (fun hc => ?_) (fun hst => hst)
    · exact ⟨Function.update_of_ne hm _ _, rfl⟩
    · simp [Server.call, setConn, hq]
    · simpa [Server.call, setConn] using hc

/-- **A standby holds no accepted data** while another member of its group is in
data transfer, in every run in which each activation callback finds the queues of
the other members empty. -/
theorem strands_nothing (h : (machine mode bufferSize params capacity).Reach
    (fun s l => s.inOrder peer l = true ∧ s.handsOver l = true) s) (hs : s.CallbacksDone) :
    ∀ g ∈ s.groups.groups, ¬s.Strands g := by
  obtain ⟨hinv, -, hclear⟩ : s.Inv ∧ s.OwnActive ∧ s.Clear := by
    refine h.invariant (P := fun s => s.Inv ∧ s.OwnActive ∧ s.Clear)
      ⟨inv_init, ownActive_init, clear_init⟩ fun s l t hs hl hn => ?_
    cases hn
    exact ⟨hs.1.call hl.1, hs.2.1.call hs.1 hl.1, hs.2.2.call hs.1 hs.2.1 hl.1 hl.2⟩
  rintro g hg ⟨m, hm, hon, m', hm', hne, hconn, a, -, raw, hraw, -⟩
  have hact : g.active = some m := (hinv.groups g hg).active m hm hon (hs m).1
  rw [hclear.queue g hg m hact m' hm' hne hconn] at hraw
  cases hraw

/-- A master is sent an event and a second master takes over after it has gone
out. -/
def switchDrained : List Call :=
  [.join 0 0, .join 0 1, .startDt 0, .activated 0, .route (Session.indication 1), .drain 0,
    .startDt 1, .activated 1]

theorem strands_nothing_switchDrained : ∃ s,
    (machine .singleRedundancyGroup 0 paramsWide (fun _ => 16)).runIf
        (fun s l => s.inOrder (fun _ => []) l = true ∧ s.handsOver l = true)
        (init .singleRedundancyGroup 0 paramsWide (fun _ => 16)) switchDrained = some s ∧
      (s.conns 1).active = true ∧ (s.groups.groups.map fun g => acceptedAsdus g.log) =
        [[Session.indication 1]] ∧ ∀ g ∈ s.groups.groups, ¬s.Strands g := by
  obtain ⟨s, hs, h1, hlog, hstage⟩ : ∃ s,
      (machine .singleRedundancyGroup 0 paramsWide (fun _ => 16)).runIf
        (fun s l => s.inOrder (fun _ => []) l = true ∧ s.handsOver l = true)
        (init .singleRedundancyGroup 0 paramsWide (fun _ => 16)) switchDrained = some s ∧
      (s.conns 1).active = true ∧ (s.groups.groups.map fun g => acceptedAsdus g.log) =
        [[Session.indication 1]] ∧
      (s.stage 0 = .up ∧ s.stage 1 = .up ∧ ∀ c, s.stage (c + 2) = .absent) :=
    ⟨_, rfl, rfl, rfl, rfl, rfl, fun _ => rfl⟩
  refine ⟨s, hs, h1, hlog, strands_nothing (Machine.reach_of_runIf .init hs) fun c => ?_⟩
  rcases c with _ | _ | c
  · simp [hstage.1]
  · simp [hstage.2.1]
  · simp [hstage.2.2]

/-- A second master takes over while the event is still in the queue of the first. -/
def switchQueued : List Call :=
  [.join 0 0, .join 0 1, .startDt 0, .activated 0, .route (Session.indication 1), .startDt 1,
    .activated 1]

/-- **Without the condition data is left behind**: the event stays in the queue of
the first master. -/
theorem not_strands_nothing : ∃ s,
    (machine .singleRedundancyGroup 0 paramsWide (fun _ => 16)).Reach
        (fun s l => s.inOrder (fun _ => []) l = true) s ∧
      s.CallbacksDone ∧ ∃ g ∈ s.groups.groups, s.Strands g := by
  obtain ⟨s, raw, hs, hgroups, h1, h0, hqueue, hraw, hstage⟩ : ∃ s raw,
      (machine .singleRedundancyGroup 0 paramsWide (fun _ => 16)).runIf
        (fun s l => s.inOrder (fun _ => []) l = true)
        (init .singleRedundancyGroup 0 paramsWide (fun _ => 16)) switchQueued = some s ∧
      s.groups.groups = [⟨[0, 1], some 1, [], false, [.activated 0,
        .enqueued 0 (Session.indication 1), .accepted (Session.indication 1), .activated 1]⟩] ∧
      (s.conns 1).active = true ∧ (s.conns 0).connected = true ∧ (s.conns 0).queue = [raw] ∧
      (Session.indication 1).marshalBinary = .ok raw ∧
      (s.stage 0 = .up ∧ s.stage 1 = .up ∧ ∀ c, s.stage (c + 2) = .absent) :=
    ⟨_, _, rfl, rfl, rfl, rfl, rfl, rfl, rfl, rfl, fun _ => rfl⟩
  refine ⟨s, Machine.reach_of_runIf .init hs, fun c => ?_,
    ⟨_, by rw [hgroups]; exact List.mem_singleton_self _, 1, by simp, h1, 0, by simp, by simp, h0,
      Session.indication 1, by simp [acceptedAsdus], raw, by simp [hqueue], hraw⟩⟩
  rcases c with _ | _ | c
  · simp [hstage.1]
  · simp [hstage.2.1]
  · simp [hstage.2.2]

end Server
end Cs104
end Iec60870
