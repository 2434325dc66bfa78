import Iec60870.Cs104.Events
import Iec60870.Cs104.Redundancy

/-!
# Switching over between the members of a redundancy group

The flag that says whether a connection is in data transfer is set by its own
driver, outside the lock of the groups, and cleared by the callback of whichever
member starts next.  Between a driver's two steps other drivers run.

## Main definitions

* `Server.Settled` — no driver is between two steps.
* `Server.Leads` — the member that started last is in data transfer, alone.
* `Server.keepsFlag` — an activation callback finds the flag still set.

## Main results

* `Server.one_active` — at most one member of a group is in data transfer.
* `Server.switchover` — **under the condition the member that started last is.**
* `Server.not_switchover` — without it none need be.
-/

namespace Iec60870
namespace Cs104
namespace Server

/-- No driver is between its two steps. -/
def Settled (s : Server) : Prop :=
  ∀ c, s.stage c ≠ .activating ∧ s.stage c ≠ .deactivating ∧ s.stage c ≠ .closing

/-- At most one member of a group is in data transfer. -/
def OneActive (s : Server) : Prop :=
  ∀ g ∈ s.groups.groups, ∀ m ∈ g.members, ∀ m' ∈ g.members,
    (s.conns m).active = true → (s.conns m').active = true → m = m'

/-- The member whose activation callback ran last is in data transfer and is the
group's `active`, unless it has received STOPDT or been closed since. -/
def Leads (s : Server) : Prop :=
  ∀ g ∈ s.groups.groups, ∀ c, lastActivated g.log = some c → s.started c = true →
    (s.conns c).active = true ∧ g.active = some c

/-- An activation callback finds the flag its driver has set. -/
def keepsFlag (s : Server) : Call → Bool
  | .activated c => (s.conns c).active
  | _ => true

/-! ### One group -/

/-- What holds of every group: its members are known, a member whose flag is set is
the active one unless it is just starting, and the last one activated is a member or
gone. -/
structure GroupInv (s : Server) (g : Group) : Prop where
  known : ∀ m ∈ g.members, s.stage m ≠ .absent
  active : ∀ m ∈ g.members, (s.conns m).active = true → s.stage m ≠ .activating →
    g.active = some m
  last : ∀ c, lastActivated g.log = some c → c ∈ g.members ∨ s.stage c = .gone

/-- No connection is in two groups, so a callback changes one group and no other. -/
def Disjoint (gs : List Group) : Prop := gs.Pairwise fun g h => ∀ c ∈ g.members, c ∉ h.members

structure Inv (s : Server) : Prop where
  disjoint : Disjoint s.groups.groups
  groups : ∀ g ∈ s.groups.groups, s.GroupInv g
  active : ∀ c, (s.conns c).active = true → s.stage c = .up ∨ s.stage c = .activating
  started : ∀ c, s.started c = true → s.stage c = .up ∨ s.stage c = .activating

/-- Only the members matter. -/
theorem disjoint_of_map {gs gs' : List Group} (h : Disjoint gs)
    (hm : gs'.map Group.members = gs.map Group.members) : Disjoint gs' := by
  have hmap : (gs.map Group.members).Pairwise fun ms ns => ∀ c ∈ ms, c ∉ ns :=
    List.pairwise_map.mpr h
  rw [← hm] at hmap
  exact List.pairwise_map.mp hmap

theorem map_members_of_sameTransfer {hs : Handles} {gs gs' : List Group}
    (h : List.Forall₂ (Groups.SameTransfer hs) gs gs') :
    gs'.map Group.members = gs.map Group.members := by
  induction h with
  | nil => rfl
  | cons hg _ ih => rw [List.map_cons, List.map_cons, hg.1, ih]

theorem exists_of_sameTransfer {hs : Handles} {gs gs' : List Group}
    (h : List.Forall₂ (Groups.SameTransfer hs) gs gs') {g' : Group} (hg' : g' ∈ gs') :
    ∃ g ∈ gs, Groups.SameTransfer hs g g' := by
  induction h with
  | nil => cases hg'
  | cons hg _ ih =>
    rcases List.mem_cons.mp hg' with rfl | hg'
    · exact ⟨_, List.mem_cons_self, hg⟩
    · obtain ⟨g, hmem, hrel⟩ := ih hg'
      exact ⟨g, List.mem_cons_of_mem _ hmem, hrel⟩

/-! ### Calls that leave data transfer alone -/

variable {s s' : Server}

/-- Broadcasts, deactivation callbacks and drained queues. -/
theorem Inv.transfer (h : s.Inv)
    (hgs : List.Forall₂ (Groups.SameTransfer s.conns) s.groups.groups s'.groups.groups)
    (hconns : ∀ m, (s'.conns m).active = (s.conns m).active)
    (hstage : ∀ m, s'.stage m = s.stage m ∨ s.stage m = .deactivating ∧ s'.stage m = .up)
    (hstarted : s'.started = s.started) : s'.Inv := by
  refine ⟨disjoint_of_map h.disjoint (map_members_of_sameTransfer hgs), fun g' hg' => ?_,
    fun c hc => ?_, fun c hc => ?_⟩
  -- each group is one of before, with the flags of its members as they were
  · obtain ⟨g, hg, hmem, hlast, hact⟩ := exists_of_sameTransfer hgs hg'
    have hinv := h.groups g hg
    refine ⟨fun m hm => ?_, fun m hm hon hne => ?_, fun c hc => ?_⟩
    · rcases hstage m with he | ⟨-, he⟩
      · rw [he]
        exact hinv.known m (hmem ▸ hm)
      · rw [he]
        exact nofun
    · rw [hconns] at hon
      refine (hact m hon).mpr (hinv.active m (hmem ▸ hm) hon ?_)
      rcases hstage m with he | ⟨he, -⟩
      · rwa [← he]
      · rw [he]
        exact nofun
    · rw [hlast] at hc
      rcases hinv.last c hc with hc | hc
      · exact .inl (hmem ▸ hc)
      · rcases hstage c with he | ⟨he, -⟩
        · exact .inr (he.trans hc)
        · rw [he] at hc
          cases hc
  -- and the driver of each connection is where it was, or back from its callback
  · rw [hconns] at hc
    rcases hstage c with he | ⟨-, he⟩
    · rw [he]
      exact h.active c hc
    · exact .inl he
  · rw [hstarted] at hc
    rcases hstage c with he | ⟨-, he⟩
    · rw [he]
      exact h.started c hc
    · exact .inl he

theorem Leads.transfer (h : s.Leads)
    (hgs : List.Forall₂ (Groups.SameTransfer s.conns) s.groups.groups s'.groups.groups)
    (hconns : ∀ m, (s'.conns m).active = (s.conns m).active) (hstarted : s'.started = s.started) :
    s'.Leads := by
  intro g' hg' c hlast hstart
  obtain ⟨g, hg, -, hlast', hact⟩ := exists_of_sameTransfer hgs hg'
  rw [hlast'] at hlast
  rw [hstarted] at hstart
  obtain ⟨hon, hgc⟩ := h g hg c hlast hstart
  exact ⟨(hconns c).trans hon, (hact c hon).mpr hgc⟩

/-- `deactivated` clears an `active` that is stopped. -/
theorem sameTransfer_deactivated {hs : Handles} {c : ℕ} (hoff : (hs c).active = false)
    (gs : List Group) :
    List.Forall₂ (Groups.SameTransfer hs) gs (gs.map (Group.deactivated c)) := by
  induction gs with
  | nil => exact .nil
  | cons g gs ih =>
    refine .cons ?_ ih
    unfold Group.deactivated
    split
    · next hg =>
      refine ⟨rfl, rfl, fun m hm => ⟨nofun, fun hgm => ?_⟩⟩
      rw [hg] at hgm
      cases hgm
      rw [hoff] at hm
      cases hm
    · exact ⟨rfl, rfl, fun _ _ => Iff.rfl⟩

/-- Draining a queue does not touch the flag. -/
theorem active_drain (c m : ℕ) : ((s.call (.drain c)).conns m).active = (s.conns m).active := by
  by_cases hm : m = c
  · rw [hm]
    simp [call, setConn]
  · simp [call, setConn, hm]

/-! ### Calls that concern one driver -/

/-- A driver whose connection is up changes its own flag and goes on. -/
theorem Inv.driver (h : s.Inv) {c : ℕ} (hup : s.stage c = .up)
    (hgroups : s'.groups = s.groups)
    (hother : ∀ m ≠ c, s'.conns m = s.conns m ∧ s'.stage m = s.stage m ∧
      s'.started m = s.started m)
    (hstage : s'.stage c ≠ .absent)
    (hactive : (s'.conns c).active = true → s'.stage c = .activating)
    (hstarted : s'.started c = true → s'.stage c = .up ∨ s'.stage c = .activating) : s'.Inv := by
  refine ⟨hgroups ▸ h.disjoint, fun g hg => ?_, fun m hm => ?_, fun m hm => ?_⟩
  · rw [hgroups] at hg
    have hinv := h.groups g hg
    refine ⟨fun m hm => ?_, fun m hm hon hne => ?_, fun m hm => ?_⟩
    -- of the connection itself the hypotheses speak; the others are as they were
    · by_cases hmc : m = c
      · rw [hmc]
        exact hstage
      · rw [(hother m hmc).2.1]
        exact hinv.known m hm
    · by_cases hmc : m = c
      · rw [hmc] at hon hne
        exact absurd (hactive hon) hne
      · rw [(hother m hmc).1] at hon
        rw [(hother m hmc).2.1] at hne
        exact hinv.active m hm hon hne
    · rcases hinv.last m hm with hmem | hgone
      · exact .inl hmem
      -- a connection that is up is not the one that has left the group
      · have hmc : m ≠ c := by
          rintro rfl
          rw [hup] at hgone
          cases hgone
        exact .inr ((hother m hmc).2.1.trans hgone)
  · by_cases hmc : m = c
    · rw [hmc] at hm ⊢
      exact .inr (hactive hm)
    · rw [(hother m hmc).1] at hm
      rw [(hother m hmc).2.1]
      exact h.active m hm
  · by_cases hmc : m = c
    · rw [hmc] at hm ⊢
      exact hstarted hm
    · rw [(hother m hmc).2.2] at hm
      rw [(hother m hmc).2.1]
      exact h.started m hm

/-- A driver that clears its flag has received STOPDT or leaves its loop. -/
theorem Leads.driver (h : s.Leads) {c : ℕ} (hgroups : s'.groups = s.groups)
    (hother : ∀ m ≠ c, s'.conns m = s.conns m ∧ s'.started m = s.started m)
    (hactive : s'.started c = true → s.started c = true ∧ (s'.conns c).active = true) :
    s'.Leads := by
  intro g hg m hlast hstart
  rw [hgroups] at hg
  by_cases hmc : m = c
  · rw [hmc] at hlast hstart ⊢
    obtain ⟨hold, hon⟩ := hactive hstart
    exact ⟨hon, (h g hg c hlast hold).2⟩
  · rw [(hother m hmc).1]
    rw [(hother m hmc).2] at hstart
    exact h g hg m hlast hstart

/-! ### Leaving and joining -/

/-- Leaving does not stop the others. -/
theorem active_leave {g : Group} {c m : ℕ} (hm : m ≠ c) (h : g.active = some m) :
    (g.leave c).active = some m := by
  have hne : g.active ≠ some c := by
    rw [h]
    simpa using hm
  show (if g.active = some c then none else g.active) = some m
  rw [if_neg hne, h]

theorem Inv.leave (h : s.Inv) {c : ℕ} (hst : s.stage c = .closing) : (s.call (.leave c)).Inv := by
  have hne : ∀ m, s.stage m = .up ∨ s.stage m = .activating → m ≠ c := by
    rintro m hm rfl
    rw [hst] at hm
    simp at hm
  have hstage : ∀ m, m ≠ c → (s.call (.leave c)).stage m = s.stage m :=
    fun m hm => Function.update_of_ne hm _ _
  -- the members of a group get fewer, so the groups stay disjoint
  refine ⟨?_, fun g' hg' => ?_, fun m hm => ?_, fun m hm => ?_⟩
  · have hsub : ∀ g h : Group, (∀ m ∈ g.members, m ∉ h.members) →
        ∀ m ∈ (g.leave c).members, m ∉ (h.leave c).members :=
      fun g h hgh m hm hm' => hgh m (List.mem_of_mem_filter hm) (List.mem_of_mem_filter hm')
    exact (h.disjoint.map _ hsub).filter _
  · obtain ⟨g, hg, rfl⟩ := Groups.mem_leave hg'
    have hinv := h.groups g hg
    have hmem : ∀ m, m ∈ (g.leave c).members ↔ m ∈ g.members ∧ m ≠ c := by
      intro m
      simp [Group.leave]
    refine ⟨fun m hm => ?_, fun m hm hon hact => ?_, fun m hm => ?_⟩
    · obtain ⟨hm, hmc⟩ := (hmem m).mp hm
      rw [hstage m hmc]
      exact hinv.known m hm
    · obtain ⟨hm, hmc⟩ := (hmem m).mp hm
      rw [hstage m hmc] at hact
      exact active_leave hmc (hinv.active m hm hon hact)
    -- the one that leaves may still be the last activated: its driver is gone
    · by_cases hmc : m = c
      · rw [hmc]
        exact .inr (Function.update_self ..)
      · rcases hinv.last m hm with hm | hgone
        · exact .inl ((hmem m).mpr ⟨hm, hmc⟩)
        · exact .inr ((hstage m hmc).trans hgone)
  · have hm' := h.active m hm
    rw [hstage m (hne m hm')]
    exact hm'
  · have hm' := h.started m hm
    rw [hstage m (hne m hm')]
    exact hm'

theorem Leads.leave (h : s.Leads) (hinv : s.Inv) {c : ℕ} (hst : s.stage c = .closing) :
    (s.call (.leave c)).Leads := by
  intro g' hg' m hlast hstart
  obtain ⟨g, hg, rfl⟩ := Groups.mem_leave hg'
  obtain ⟨hon, hgm⟩ := h g hg m hlast hstart
  refine ⟨hon, active_leave ?_ hgm⟩
  rintro rfl
  have := hinv.started m hstart
  rw [hst] at this
  simp at this

/-- A newcomer is in one group only. -/
theorem disjoint_join {gs : Groups} {c group : ℕ} (h : Disjoint gs.groups)
    (hc : ∀ g ∈ gs.groups, c ∉ g.members) : Disjoint (gs.join group c).groups := by
  unfold Groups.join
  split
  · refine List.pairwise_append.mpr ⟨h, List.pairwise_singleton _ _, fun g hg g' hg' m hm hm' => ?_⟩
    rw [List.mem_singleton.mp hg'] at hm'
    rw [List.mem_singleton.mp hm'] at hm
    exact hc g hg hm
  · rw [Disjoint, List.pairwise_iff_getElem]
    intro i j hi hj hij m hm hm'
    simp only [List.getElem_modify] at hm hm'
    simp only [List.length_modify] at hi hj
    have hold := List.pairwise_iff_getElem.mp h i j hi hj hij
    split at hm <;> split at hm'
    · omega
    · rcases List.mem_append.mp hm with hm | hm
      · exact hold m hm hm'
      · rw [List.mem_singleton.mp hm] at hm'
        exact hc _ (List.getElem_mem hj) hm'
    · rcases List.mem_append.mp hm' with hm' | hm'
      · exact hold m hm hm'
      · rw [List.mem_singleton.mp hm'] at hm
        exact hc _ (List.getElem_mem hi) hm
    · exact hold m hm hm'

theorem Inv.join (h : s.Inv) {c group : ℕ} (hst : s.stage c = .absent) :
    (s.call (.join group c)).Inv := by
  -- the connection is new: no group has it, and no driver has set its flag
  have hnew : ∀ g ∈ s.groups.groups, c ∉ g.members :=
    fun g hg hc => (h.groups g hg).known c hc hst
  have hoff : (s.conns c).active = false := by
    by_contra hon
    have := h.active c (by simpa using hon)
    rw [hst] at this
    simp at this
  have hup : (s.call (.join group c)).stage c = .up := Function.update_self ..
  have hstage : ∀ m, m ≠ c → (s.call (.join group c)).stage m = s.stage m :=
    fun m hm => Function.update_of_ne hm _ _
  -- a group with one more member, or as it was
  have hgroup : ∀ g ∈ s.groups.groups, ∀ g' : Group, (∀ m ∈ g'.members, m ∈ g.members ∨ m = c) →
      g.members ⊆ g'.members → g'.active = g.active → g'.log = g.log →
      (s.call (.join group c)).GroupInv g' := by
    intro g hg g' hmem hsub hact hlog
    have hinv := h.groups g hg
    refine ⟨fun m hm => ?_, fun m hm hon hne => ?_, fun m hm => ?_⟩
    · by_cases hmc : m = c
      · rw [hmc, hup]
        exact nofun
      · rw [hstage m hmc]
        exact hinv.known m ((hmem m hm).resolve_right hmc)
    · by_cases hmc : m = c
      · rw [hmc] at hon
        exact absurd hon (by simpa [call, setStage] using hoff)
      · rw [hstage m hmc] at hne
        rw [hact]
        exact hinv.active m ((hmem m hm).resolve_right hmc) hon hne
    · rw [hlog] at hm
      rcases hinv.last m hm with hm | hgone
      · exact .inl (hsub hm)
      · refine .inr ((hstage m ?_).trans hgone)
        rintro rfl
        rw [hst] at hgone
        cases hgone
  refine ⟨disjoint_join h.disjoint hnew, fun g' hg' => ?_, fun m hm => ?_, fun m hm => ?_⟩
  -- the groups of before, one of them with the new member, or a group of its own
  · rcases Groups.mem_join hg' with hg' | ⟨g, hg, rfl⟩ | rfl
    · exact hgroup g' hg' g' (fun m hm => .inl hm) (List.Subset.refl _) rfl rfl
    · refine hgroup g hg _ (fun m hm => ?_) (List.subset_append_left _ _) rfl rfl
      exact (List.mem_append.mp hm).imp_right List.mem_singleton.mp
    · refine ⟨fun m hm => ?_, fun m hm hon _ => ?_, nofun⟩
      · rw [List.mem_singleton.mp hm, hup]
        exact nofun
      · rw [List.mem_singleton.mp hm] at hon
        exact absurd hon (by simpa [call, setStage] using hoff)
  · by_cases hmc : m = c
    · rw [hmc]
      exact .inl hup
    · rw [hstage m hmc]
      exact h.active m hm
  · by_cases hmc : m = c
    · rw [hmc]
      exact .inl hup
    · rw [hstage m hmc]
      exact h.started m hm

theorem Leads.join (h : s.Leads) {c group : ℕ} : (s.call (.join group c)).Leads := by
  intro g' hg' m hlast hstart
  rcases Groups.mem_join hg' with hg' | ⟨g, hg, rfl⟩ | rfl
  · exact h g' hg' m hlast hstart
  · exact h g hg m hlast hstart
  · cases hlast

/-! ### Activation callbacks -/

/-- A group after the activation callback of `c`: it is the group of `c`, or as
it was, with the flags of its members. -/
theorem activated_groups (h : s.Inv) {c : ℕ} {g' : Group}
    (hg' : g' ∈ (s.call (.activated c)).groups.groups) :
    (g' ∈ s.groups.groups ∧ c ∉ g'.members ∧
        ∀ m ∈ g'.members, ((s.call (.activated c)).conns m).active = (s.conns m).active) ∨
      ∃ g ∈ s.groups.groups, g'.members = g.members ∧ c ∈ g.members ∧ g'.active = some c ∧
        lastActivated g'.log = some c ∧
        ∀ m ∈ g.members, m ≠ c → ((s.call (.activated c)).conns m).active = false := by
  change g' ∈ (Groups.activateFirst c s.groups.groups s.conns).1 at hg'
  have hconns : (s.call (.activated c)).conns =
      (Groups.activateFirst c s.groups.groups s.conns).2 := rfl
  rw [hconns]
  rcases Groups.activateFirst_cases c s.groups.groups s.conns with
    -- no group has `c`, and the callback finds nothing to do
    ⟨hnone, he⟩ | ⟨pre, g, post, hgs, -, hcg, he⟩
  · rw [he] at hg' ⊢
    exact .inl ⟨hg', hnone g' hg', fun _ _ => rfl⟩
  · rw [he] at hg' ⊢
    have hdisj := h.disjoint
    rw [Disjoint, hgs, List.pairwise_append, List.pairwise_cons] at hdisj
    obtain ⟨-, ⟨hpost, -⟩, hpre⟩ := hdisj
    -- a group without a member of `g` keeps its flags
    have hother : g' ∈ s.groups.groups → (∀ m ∈ g'.members, m ∉ g.members) →
        g' ∈ s.groups.groups ∧ c ∉ g'.members ∧
          ∀ m ∈ g'.members, ((g.activated c s.conns).2 m).active = (s.conns m).active := by
      intro hg' hno
      refine ⟨hg', fun hc => hno c hc hcg, fun m hm => ?_⟩
      rw [Group.active_activated, if_neg fun hm' => hno m hm hm'.1]
    rcases List.mem_append.mp hg' with hg' | hg'
    · refine .inl (hother (hgs ▸ List.mem_append_left _ hg') fun m hm => ?_)
      exact hpre g' hg' g List.mem_cons_self m hm
    · rcases List.mem_cons.mp hg' with rfl | hg'
      -- the group of `c` itself: `c` is its active connection, and the others are demoted
      · right
        refine ⟨g, hgs ▸ List.mem_append_right _ List.mem_cons_self, rfl, hcg, rfl,
          Group.lastActivated_activated c g s.conns, fun m hm hmc => ?_⟩
        rw [Group.active_activated, if_pos ⟨hm, hmc⟩]
      · refine .inl (hother (hgs ▸ List.mem_append_right _ (List.mem_cons_of_mem _ hg')) ?_)
        exact fun m hm hm' => hpost g' hg' m hm' hm

/-- The callback sets no flag, and leaves that of its own connection. -/
theorem activated_flags (c m : ℕ) :
    (((s.call (.activated c)).conns m).active = true → (s.conns m).active = true) ∧
      ((s.call (.activated c)).conns c).active = (s.conns c).active := by
  have hconns : (s.call (.activated c)).conns =
      (Groups.activateFirst c s.groups.groups s.conns).2 := rfl
  rw [hconns]
  rcases Groups.activateFirst_cases c s.groups.groups s.conns with
    ⟨-, he⟩ | ⟨pre, g, post, -, -, -, he⟩
  · rw [he]
    exact ⟨id, rfl⟩
  · rw [he]
    refine ⟨fun hon => ?_, ?_⟩
    · rw [Group.active_activated] at hon
      split at hon
      · cases hon
      · exact hon
    · rw [Group.active_activated, if_neg fun h => h.2 rfl]

theorem map_members_activated (c : ℕ) :
    (s.call (.activated c)).groups.groups.map Group.members = s.groups.groups.map Group.members := by
  change (Groups.activateFirst c s.groups.groups s.conns).1.map Group.members = _
  rcases Groups.activateFirst_cases c s.groups.groups s.conns with
    ⟨-, he⟩ | ⟨pre, g, post, hgs, -, -, he⟩
  · rw [he]
  · rw [he, hgs, List.map_append, List.map_append]
    rfl

theorem Inv.activated (h : s.Inv) {c : ℕ} (hst : s.stage c = .activating) :
    (s.call (.activated c)).Inv := by
  have hup : (s.call (.activated c)).stage c = .up := Function.update_self ..
  have hstage : ∀ m, m ≠ c → (s.call (.activated c)).stage m = s.stage m :=
    fun m hm => Function.update_of_ne hm _ _
  -- the callback of `c` ends, and `c` is up; the other drivers go on where they were
  have hknown : ∀ m, s.stage m ≠ .absent → (s.call (.activated c)).stage m ≠ .absent := by
    intro m hm
    by_cases hmc : m = c
    · rw [hmc, hup]
      exact nofun
    · rwa [hstage m hmc]
  have hdriving : ∀ m, s.stage m = .up ∨ s.stage m = .activating →
      (s.call (.activated c)).stage m = .up ∨ (s.call (.activated c)).stage m = .activating := by
    intro m hm
    by_cases hmc : m = c
    · rw [hmc]
      exact .inl hup
    · rwa [hstage m hmc]
  refine ⟨disjoint_of_map h.disjoint (map_members_activated c), fun g' hg' => ?_, fun m hm => ?_,
    fun m hm => ?_⟩
  · rcases activated_groups h hg' with ⟨hg, hc, hflags⟩ | ⟨g, hg, hmem, hcg, hact, hlast, hoff⟩
    -- a group without `c` keeps the flags of its members
    · have hinv := h.groups g' hg
      refine ⟨fun m hm => hknown m (hinv.known m hm), fun m hm hon hne => ?_, fun m hm => ?_⟩
      · have hmc : m ≠ c := fun he => hc (he ▸ hm)
        rw [hflags m hm] at hon
        rw [hstage m hmc] at hne
        exact hinv.active m hm hon hne
      · refine (hinv.last m hm).imp_right fun hgone => ?_
        rw [hstage m ?_]
        · exact hgone
        · rintro rfl
          rw [hst] at hgone
          cases hgone
    -- in the group of `c` only `c` may have its flag set
    · refine ⟨fun m hm => hknown m ((h.groups g hg).known m (hmem ▸ hm)), fun m hm hon _ => ?_,
        fun m hm => ?_⟩
      · by_cases hmc : m = c
        · rw [hmc]
          exact hact
        · rw [hoff m (hmem ▸ hm) hmc] at hon
          cases hon
      · rw [hlast] at hm
        cases hm
        exact .inl (hmem ▸ hcg)
  · exact hdriving m (h.active m ((activated_flags c m).1 hm))
  · by_cases hmc : m = c
    · rw [hmc]
      exact .inl hup
    · refine hdriving m (h.started m ?_)
      rwa [show (s.call (.activated c)).started m = s.started m from
        Function.update_of_ne hmc _ _] at hm

theorem Leads.activated (h : s.Leads) (hinv : s.Inv) {c : ℕ} (hst : s.stage c = .activating)
    (hflag : (s.conns c).active = true) : (s.call (.activated c)).Leads := by
  intro g' hg' m hlast hstart
  rcases activated_groups hinv hg' with ⟨hg, hc, hflags⟩ | ⟨g, hg, hmem, hcg, hact, hlast', hoff⟩
  · have hmember := (hinv.groups g' hg).last m hlast
    have hmc : m ≠ c := by
      rintro rfl
      rcases hmember with hm | hgone
      · exact hc hm
      · rw [hst] at hgone
        cases hgone
    rw [show (s.call (.activated c)).started m = s.started m from
      Function.update_of_ne hmc _ _] at hstart
    have hm : m ∈ g'.members := hmember.resolve_right fun hgone => by
      have := hinv.started m hstart
      rw [hgone] at this
      simp at this
    rw [hflags m hm]
    exact h g' hg m hlast hstart
  · rw [hlast'] at hlast
    cases hlast
    exact ⟨(activated_flags c c).2.trans hflag, hact⟩

/-! ### Runs -/

variable {mode : ServerMode} {bufferSize : ℕ} {params : Params} {capacity : ℕ → ℕ}
  {peer : ℕ → IpAddr}

theorem inv_init : (init mode bufferSize params capacity).Inv := by
  have hempty : ∀ g ∈ (init mode bufferSize params capacity).groups.groups, ∃ b, g = .new b := by
    intro g hg
    cases mode with
    | connectionIsRedundancyGroup => cases hg
    | singleRedundancyGroup => exact ⟨false, List.mem_singleton.mp hg⟩
    | multipleRedundancyGroups gs =>
      obtain ⟨-, -, rfl⟩ := List.mem_map.mp hg
      exact ⟨false, rfl⟩
  refine ⟨?_, fun g hg => ?_, nofun, nofun⟩
  · refine List.pairwise_of_forall_mem_list fun g hg _ _ c hc => ?_
    obtain ⟨b, rfl⟩ := hempty g hg
    cases hc
  · obtain ⟨b, rfl⟩ := hempty g hg
    exact ⟨nofun, nofun, nofun⟩

theorem Inv.call (h : s.Inv) {l : Call} (hl : s.inOrder peer l = true) : (s.call l).Inv := by
  cases l with
  | join group c =>
    simp only [inOrder, Bool.and_eq_true, decide_eq_true_eq] at hl
    exact h.join hl.1
  | leave c => exact h.leave (by simpa [inOrder] using hl)
  | activated c => exact h.activated (by simpa [inOrder] using hl)
  | startDt c =>
    have hup : s.stage c = .up := by simpa [inOrder] using hl
    refine h.driver hup rfl (fun m hm => ?_) ?_ (fun _ => ?_) (fun _ => .inr ?_)
    · exact ⟨Function.update_of_ne hm _ _, Function.update_of_ne hm _ _, rfl⟩
    all_goals simp [Server.call, setStage, setConn]
  | stopDt c =>
    have hup : s.stage c = .up := by simpa [inOrder] using hl
    refine h.driver hup rfl (fun m hm => ?_) ?_ (fun hon => ?_) (fun hstart => ?_)
    · exact ⟨Function.update_of_ne hm _ _, Function.update_of_ne hm _ _,
        Function.update_of_ne hm _ _⟩
    · simp only [Server.call, setStage, setConn, setStarted, Function.update_self]
      split <;> nofun
    · simp [Server.call, setStage, setConn, setStarted, Connection.setActive] at hon
    · simp [Server.call, setStage, setConn, setStarted] at hstart
  | deactivated c =>
    have hst : s.stage c = .deactivating := by simpa [inOrder] using hl
    -- the flag was cleared before the callback began
    have hoff : (s.conns c).active = false := by
      by_contra hon
      have := h.active c (by simpa using hon)
      rw [hst] at this
      simp at this
    refine h.transfer (sameTransfer_deactivated hoff _) (fun _ => rfl) (fun m => ?_) rfl
    by_cases hmc : m = c
    · rw [hmc]
      exact .inr ⟨hst, Function.update_self ..⟩
    · exact .inl (Function.update_of_ne hmc _ _)
  | close c =>
    have hup : s.stage c = .up := by simpa [inOrder] using hl
    refine h.driver hup rfl (fun m hm => ?_) ?_ (fun hon => ?_) (fun hstart => ?_)
    · exact ⟨Function.update_of_ne hm _ _, Function.update_of_ne hm _ _,
        Function.update_of_ne hm _ _⟩
    · simp [Server.call, setStage, setConn, setStarted]
    · simp [Server.call, setStage, setConn, setStarted] at hon
    · simp [Server.call, setStage, setConn, setStarted] at hstart
  | drain c =>
    refine h.transfer (List.forall₂_same.mpr fun _ _ => ⟨rfl, rfl, fun _ _ => Iff.rfl⟩) (fun m => ?_)
      (fun _ => .inl rfl) rfl
    exact active_drain c m
  | route a =>
    exact h.transfer (Groups.sameTransfer_routeAll _ a _ _) (Groups.active_routeAll _ a _ _)
      (fun _ => .inl rfl) rfl

theorem Leads.call (h : s.Leads) (hinv : s.Inv) {l : Call} (hl : s.inOrder peer l = true)
    (hk : s.keepsFlag l = true) : (s.call l).Leads := by
  cases l with
  | join group c => exact h.join
  | leave c => exact h.leave hinv (by simpa [inOrder] using hl)
  | activated c => exact h.activated hinv (by simpa [inOrder] using hl) hk
  | startDt c =>
    -- a start or a stop changes the flag of its own connection, before the callback
    refine h.driver (c := c) rfl (fun m hm => ⟨Function.update_of_ne hm _ _, rfl⟩) fun hstart => ?_
    exact ⟨hstart, by simp [Server.call, setStage, setConn, Connection.setActive]⟩
  | stopDt c =>
    refine h.driver (c := c) rfl (fun m hm => ?_) fun hstart => ?_
    · exact ⟨Function.update_of_ne hm _ _, Function.update_of_ne hm _ _⟩
    · simp [Server.call, setStage, setConn, setStarted] at hstart
  | deactivated c =>
    have hst : s.stage c = .deactivating := by simpa [inOrder] using hl
    have hoff : (s.conns c).active = false := by
      by_contra hon
      have := hinv.active c (by simpa using hon)
      rw [hst] at this
      simp at this
    exact h.transfer (sameTransfer_deactivated hoff _) (fun _ => rfl) rfl
  | close c =>
    refine h.driver (c := c) rfl (fun m hm => ?_) fun hstart => ?_
    · exact ⟨Function.update_of_ne hm _ _, Function.update_of_ne hm _ _⟩
    · simp [Server.call, setStage, setConn, setStarted] at hstart
  | drain c =>
    exact h.transfer (List.forall₂_same.mpr fun _ _ => ⟨rfl, rfl, fun _ _ => Iff.rfl⟩)
      (active_drain c) rfl
  | route a =>
    exact h.transfer (Groups.sameTransfer_routeAll _ a _ _) (Groups.active_routeAll _ a _ _) rfl

theorem inv_of_reach (h : (machine mode bufferSize params capacity).Reach
    (fun s l => s.inOrder peer l = true) s) : s.Inv := by
  refine h.invariant (P := Inv) inv_init fun s l t hs hl hn => ?_
  cases hn
  exact hs.call hl

/-- **At most one member of a group is in data transfer** whenever no driver is
between its two steps. -/
theorem one_active (h : (machine mode bufferSize params capacity).Reach
    (fun s l => s.inOrder peer l = true) s) (hs : s.Settled) : s.OneActive := by
  intro g hg m hm m' hm' hon hon'
  have hinv := (inv_of_reach h).groups g hg
  have hact := hinv.active m hm hon (hs m).1
  rw [hinv.active m' hm' hon' (hs m').1] at hact
  cases hact
  rfl

/-- **The member that started last is in data transfer, alone**, in every run in
which each activation callback finds the flag its driver has set. -/
theorem switchover (h : (machine mode bufferSize params capacity).Reach
    (fun s l => s.inOrder peer l = true ∧ s.keepsFlag l = true) s) (hs : s.Settled) :
    s.OneActive ∧ s.Leads := by
  have hboth : s.Inv ∧ s.Leads := by
    refine h.invariant (P := fun s => s.Inv ∧ s.Leads) ⟨inv_init, fun g _ c _ hstart => ?_⟩
      fun s l t hs hl hn => ?_
    · cases hstart
    · cases hn
      exact ⟨hs.1.call hl.1, hs.2.call hs.1 hl.1 hl.2⟩
  exact ⟨one_active (h.mono fun _ _ hl => hl.1) hs, hboth.2⟩

/-- Two masters start one after the other. -/
def startInTurn : List Call :=
  [.join 0 0, .join 0 1, .startDt 0, .activated 0, .startDt 1, .activated 1]

theorem switchover_startInTurn : ∃ s,
    (machine .singleRedundancyGroup 0 paramsWide (fun _ => 16)).runIf
        (fun s l => s.inOrder (fun _ => []) l = true ∧ s.keepsFlag l = true)
        (init .singleRedundancyGroup 0 paramsWide (fun _ => 16)) startInTurn = some s ∧
      (s.conns 0).active = false ∧ (s.conns 1).active = true ∧ s.OneActive ∧ s.Leads := by
  obtain ⟨s, hs, h0, h1, hstage⟩ : ∃ s,
      (machine .singleRedundancyGroup 0 paramsWide (fun _ => 16)).runIf
        (fun s l => s.inOrder (fun _ => []) l = true ∧ s.keepsFlag l = true)
        (init .singleRedundancyGroup 0 paramsWide (fun _ => 16)) startInTurn = some s ∧
      (s.conns 0).active = false ∧ (s.conns 1).active = true ∧
      (s.stage 0 = .up ∧ s.stage 1 = .up ∧ ∀ c, s.stage (c + 2) = .absent) :=
    ⟨_, rfl, rfl, rfl, rfl, rfl, fun _ => rfl⟩
  refine ⟨s, hs, h0, h1, switchover (Machine.reach_of_runIf .init hs) fun c => ?_⟩
  rcases c with _ | _ | c
  · simp [hstage.1]
  · simp [hstage.2.1]
  · simp [hstage.2.2]

/-- Two masters start at about the same time. -/
def startTogether : List Call :=
  [.join 0 0, .join 0 1, .startDt 0, .startDt 1, .activated 0, .activated 1]

/-- **Without the condition none need be**: each callback demotes the other
member, and both drivers have set their flag before. -/
theorem not_switchover : ∃ s,
    (machine .singleRedundancyGroup 0 paramsWide (fun _ => 16)).Reach
        (fun s l => s.inOrder (fun _ => []) l = true) s ∧
      s.Settled ∧ ¬(s.OneActive ∧ s.Leads) := by
  obtain ⟨s, hs, hgroups, hstart, h1, hstage⟩ : ∃ s,
      (machine .singleRedundancyGroup 0 paramsWide (fun _ => 16)).runIf
        (fun s l => s.inOrder (fun _ => []) l = true)
        (init .singleRedundancyGroup 0 paramsWide (fun _ => 16)) startTogether = some s ∧
      s.groups.groups = [⟨[0, 1], some 1, [], false, [.activated 0, .activated 1]⟩] ∧
      s.started 1 = true ∧ (s.conns 1).active = false ∧
      (s.stage 0 = .up ∧ s.stage 1 = .up ∧ ∀ c, s.stage (c + 2) = .absent) :=
    ⟨_, rfl, rfl, rfl, rfl, rfl, rfl, fun _ => rfl⟩
  refine ⟨s, Machine.reach_of_runIf .init hs, fun c => ?_, fun h => ?_⟩
  · rcases c with _ | _ | c
    · simp [hstage.1]
    · simp [hstage.2.1]
    · simp [hstage.2.2]
  · have hlead := h.2 _ (by rw [hgroups]; exact List.mem_singleton_self _) 1 rfl hstart
    rw [h1] at hlead
    cases hlead.1

/-! ### The driver of one connection -/

/-- The server shows the driver of connection `c`. -/
structure Drives (c : ℕ) (d : Session) (s : Server) : Prop where
  flag : (s.conns c).active = d.conn.active
  up : d.Open → s.stage c = .up

/-- A call in order that the driver of connection `c` makes. -/
def DriverCall (peer : ℕ → IpAddr) (c : ℕ) (s s' : Server) : Prop :=
  ∃ l ∈ [Call.startDt c, .activated c, .stopDt c, .deactivated c, .close c],
    s.inOrder peer l = true ∧ s' = s.call l

theorem DriverCall.mk {c : ℕ} {l : Call}
    (hl : l ∈ [Call.startDt c, .activated c, .stopDt c, .deactivated c, .close c])
    (hin : s.inOrder peer l = true) : DriverCall peer c s (s.call l) := ⟨l, hl, hin, rfl⟩

/-- STARTDT act: the flag, then the callback. -/
theorem exists_calls_start (peer : ℕ → IpAddr) {c : ℕ} (hup : s.stage c = .up) :
    ∃ s', Relation.ReflTransGen (DriverCall peer c) s s' ∧
      (s'.conns c).active = true ∧ s'.stage c = .up := by
  have hst : (s.call (.startDt c)).stage c = .activating := Function.update_self ..
  have hon : ((s.call (.startDt c)).conns c).active = true := by
    simp [Server.call, setStage, setConn, Connection.setActive]
  refine ⟨(s.call (.startDt c)).call (.activated c), ?_, (activated_flags c c).2.trans hon,
    Function.update_self ..⟩
  exact (Relation.ReflTransGen.single (DriverCall.mk (by simp) (by simpa [inOrder] using hup))).tail
    (DriverCall.mk (by simp) (by simpa [inOrder] using hst))

/-- STOPDT act: the flag, then the callback if it was set. -/
theorem exists_calls_stop (peer : ℕ → IpAddr) {c : ℕ} (hup : s.stage c = .up) :
    ∃ s', Relation.ReflTransGen (DriverCall peer c) s s' ∧
      (s'.conns c).active = false ∧ s'.stage c = .up := by
  have hoff : ((s.call (.stopDt c)).conns c).active = false := by
    simp [Server.call, setStage, setConn, setStarted, Connection.setActive]
  have hcall : DriverCall peer c s (s.call (.stopDt c)) :=
    DriverCall.mk (by simp) (by simpa [inOrder] using hup)
  have hst : (s.call (.stopDt c)).stage c =
      if (s.conns c).active then .deactivating else .up := Function.update_self ..
  by_cases hon : (s.conns c).active = true
  · rw [if_pos hon] at hst
    refine ⟨(s.call (.stopDt c)).call (.deactivated c), ?_, hoff, Function.update_self ..⟩
    exact (Relation.ReflTransGen.single hcall).tail
      (DriverCall.mk (by simp) (by simpa [inOrder] using hst))
  · rw [if_neg hon] at hst
    exact ⟨_, .single hcall, hoff, hst⟩

/-- **A driver's step is a sequence of calls in order** that sets the flag of its
handle as the step does. -/
theorem exists_calls_of_next {cfg : Config} {c : ℕ} {l : Label} {d d' : Session} (hl : l ≠ .demote)
    (hrole : d.conn.role = .controlled) (h : d.next cfg l = some d') (hs : s.Drives c d) :
    ∃ s', Relation.ReflTransGen (DriverCall peer c) s s' ∧ s'.Drives c d' := by
  have hP : d'.conn.role = .controlled ∧
      ∃ s', Relation.ReflTransGen (DriverCall peer c) s s' ∧ s'.Drives c d' := by
    refine Session.step_of_actions (P := fun u => u.conn.role = .controlled ∧
      ∃ s', Relation.ReflTransGen (DriverCall peer c) s s' ∧ s'.Drives c u)
      (fun _ _ => ⟨hrole, s, .refl, hs.flag, hs.up⟩) ?_ h
    rintro u u' ⟨hrole, s', hcalls, hflag, hup⟩ ha
    refine ⟨ha.role_eq.trans hrole, ?_⟩
    -- the driver leaves its loop
    -- a stopped driver clears its flag, which is the call that closes its connection
    have hclose : u.Open → u'.conn.active = false → (¬u'.Open) →
        ∃ s'', Relation.ReflTransGen (DriverCall peer c) s s'' ∧ s''.Drives c u' := by
      intro hopen hoff hnot
      refine ⟨s'.call (.close c), hcalls.tail (DriverCall.mk (by simp) ?_), ?_, fun ho => absurd ho hnot⟩
      · simpa [inOrder] using hup hopen
      · rw [hoff]
        simp [Server.call, setStage, setConn, setStarted]
    cases ha with
    | demote he => exact absurd he hl
    | quiet _ _ _ hactive _ hphase _ =>
      refine ⟨s', hcalls, hflag.trans hactive.symm, fun ho => hup ?_⟩
      rcases hphase with hphase | ⟨hopen, -⟩
      · exact fun why => hphase ▸ ho why
      · exact hopen
    | enqueue hconn =>
      obtain ⟨raw, -, rfl⟩ := Session.queue_of_tryEnqueue hconn
      exact ⟨s', hcalls, hflag, hup⟩
    | guard htop => exact ⟨s', hcalls, hflag, fun _ => hup (Session.open_of_top htop)⟩
    | send _ _ hphase _ _ =>
      exact ⟨s', hcalls, hflag, fun _ => hup (Session.open_of_waiting hphase)⟩
    -- STARTDT act sets the flag, and the callback follows in the same step
    | startAct hopen _ _ _ _ =>
      obtain ⟨s'', hcalls', hon, hup'⟩ := exists_calls_start peer (hup hopen)
      exact ⟨s'', hcalls.trans hcalls', hon, fun _ => hup'⟩
    | stopAct hopen _ _ _ _ _ _ =>
      obtain ⟨s'', hcalls', hoff, hup'⟩ := exists_calls_stop peer (hup hopen)
      exact ⟨s'', hcalls.trans hcalls', hoff, fun _ => hup'⟩
    | startCon _ _ hmaster _ _ =>
      rw [hrole] at hmaster
      cases hmaster
    | stopCon _ _ hmaster _ _ =>
      rw [hrole] at hmaster
      cases hmaster
    | acceptLost hopen _ => exact hclose hopen rfl (Session.not_open_teardown _ _)
    | teardown hopen why => exact hclose hopen rfl (Session.not_open_teardown _ _)
    | _ => exact ⟨s', hcalls, hflag, hup⟩
  exact hP.2

end Server

end Cs104
end Iec60870
