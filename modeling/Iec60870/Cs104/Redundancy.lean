import Iec60870.Cs104.History

/-!
# Redundancy groups

How the masters connected to one controlled station share its spontaneous data.
The groups refer to the handles of their connections; a handle is shared with
the connection's driver, which sets its flag and drains its queue without the
lock of the groups.  Here a handle is named by a number, and every operation on
the groups takes the handles and returns them changed.

## Main definitions

* `Group`, `Groups` — the groups of one server, with `admitIp`, `join`, `leave`,
  `activated`, `deactivated` and `route`.
* `Server` — the groups, the handles, and what each connection's driver is at.
* `Server.machine` — any sequence of calls.
* `Server.inOrder` — the calls the drivers make.

## Main results

* `Groups.activateFirst_cases`, `Group.active_activated` — what a switchover does.
* `Group.route_cases`, `Groups.sameTransfer_routeAll` — what a broadcast does.
-/

namespace Iec60870
namespace Cs104

/-- The octets of an IPv4 or IPv6 address. -/
abbrev IpAddr := List UInt8

/-- One redundancy group of `ServerMode.multipleRedundancyGroups`. -/
structure RedundancyGroup where
  /-- The addresses admitted; none for the catch-all group. -/
  clients : List IpAddr
  deriving DecidableEq, Repr

/-- How the masters connected to a server are grouped. -/
inductive ServerMode
  /-- Every connection is a redundancy group of its own. -/
  | connectionIsRedundancyGroup
  /-- All connections form a single redundancy group. -/
  | singleRedundancyGroup
  /-- Connections are assigned to the given groups by the master's address. -/
  | multipleRedundancyGroups (groups : List RedundancyGroup)
  deriving DecidableEq, Repr

/-- The handles of all connections there may ever be. -/
abbrev Handles := ℕ → Connection

/-- What the history of a group records: the ASDUs in the two places where they
can be counted, and the activations. -/
inductive GroupObs
  /-- `try_enqueue` on the connection `c` accepted `a`. -/
  | enqueued (c : ℕ) (a : Asdu)
  /-- `route` reported `a` sent or buffered. -/
  | accepted (a : Asdu)
  /-- The activation callback of `c` ran. -/
  | activated (c : ℕ)
  deriving DecidableEq, Repr

/-- The live state of one group, with everything that has happened in it. -/
structure Group where
  members : List ℕ
  /-- The member in data transfer, the only one sent spontaneous data. -/
  active : Option ℕ
  /-- Data broadcast while no member was in data transfer, replayed to the next
  one that starts. -/
  buffer : List Asdu
  /-- Created for a single connection, and gone with it. -/
  perConnection : Bool
  log : List GroupObs
  deriving DecidableEq, Repr

/-- Where an ASDU went, per group: what `route` reports of each group; one that
keeps no buffer reports nothing. -/
inductive Route
  | sent
  | buffered
  /-- The active connection refused it. -/
  | refused (c : ℕ) (e : Error)
  /-- Neither sent nor kept. -/
  | lost (e : Error)
  deriving DecidableEq, Repr

namespace Group

def new (perConnection : Bool) : Group where
  members := []
  active := none
  buffer := []
  perConnection
  log := []

def contains (g : Group) (c : ℕ) : Bool := g.members.contains c

/-- `leave` in one group: the member is forgotten, and with it that it was active.
The buffer stays for the next one. -/
def leave (c : ℕ) (g : Group) : Group where
  members := g.members.filter (· ≠ c)
  active := if g.active = some c then none else g.active
  buffer := g.buffer
  perConnection := g.perConnection
  log := g.log

/-- `deactivated` in one group: STOPDT counts only of the connection that is
active. -/
def deactivated (c : ℕ) (g : Group) : Group :=
  if g.active = some c then { g with active := none } else g

/-- The other members in data transfer are taken out of it. -/
def demoteOthers (c : ℕ) : List ℕ → Handles → Handles
  | [], hs => hs
  | m :: ms, hs =>
    demoteOthers c ms
      (if m ≠ c ∧ (hs m).active then Function.update hs m (hs m).demote else hs)

/-- The data buffered meanwhile is replayed, oldest first, as far as there is
room.  Returns what is left. -/
def replay (c : ℕ) : List Asdu → Handles → List Asdu × Handles × List GroupObs
  | [], hs => ([], hs, [])
  | a :: rest, hs =>
    match (hs c).tryEnqueue a with
    | .ok conn =>
      let (left, hs, os) := replay c rest (Function.update hs c conn)
      (left, hs, .enqueued c a :: os)
    | .error _ => (a :: rest, hs, [])

/-- `activated` in the group of `c`: the other members are demoted, the connection
becomes the active one, and what is buffered is replayed on it. -/
def activated (c : ℕ) (g : Group) (hs : Handles) : Group × Handles :=
  let (buffer, hs, os) := replay c g.buffer (demoteOthers c g.members hs)
  ({ g with active := some c, buffer, log := g.log ++ .activated c :: os }, hs)

/-- A member may have been stopped since it started. -/
def refresh (hs : Handles) (g : Group) : Group :=
  if g.active.any fun c => !(hs c).active then { g with active := none } else g

/-- `route` in one group: on the active connection when there is one, into the
buffer otherwise. -/
def route (bufferSize : ℕ) (a : Asdu) (g : Group) (hs : Handles) : Group × Handles × Option Route :=
  let g := g.refresh hs
  match g.active with
  | some c =>
    match (hs c).tryEnqueue a with
    | .ok conn =>
      ({ g with log := g.log ++ [.enqueued c a, .accepted a] }, Function.update hs c conn,
        some .sent)
    | .error e => (g, hs, some (.refused c e))
  | none =>
    if bufferSize = 0 then (g, hs, none)
    else if g.buffer.length < bufferSize then
      ({ g with buffer := g.buffer ++ [a], log := g.log ++ [.accepted a] }, hs, some .buffered)
    else (g, hs, some (.lost .sendQueueFull))

end Group

/-- The groups of one server, with the mode they were made for and the size of
their buffers. -/
structure Groups where
  mode : ServerMode
  groups : List Group
  bufferSize : ℕ
  deriving DecidableEq, Repr

/-- `usize::MAX`, for a connection that is a group of its own. -/
def USIZE_MAX : ℕ := 2 ^ 64 - 1

namespace Groups

def new (mode : ServerMode) (bufferSize : ℕ) : Groups where
  mode
  groups :=
    match mode with
    | .connectionIsRedundancyGroup => []
    | .singleRedundancyGroup => [.new false]
    | .multipleRedundancyGroups gs => gs.map fun _ => .new false
  bufferSize

/-- `Groups::admit`: which group a master connecting from `ip` joins, or `none` when it belongs
to none and must be refused. -/
def admitIp (gs : Groups) (ip : IpAddr) : Option ℕ :=
  match gs.mode with
  | .connectionIsRedundancyGroup => some USIZE_MAX
  | .singleRedundancyGroup => some 0
  | .multipleRedundancyGroups rs =>
    (rs.findIdx? fun g => g.clients.contains ip) <|> rs.findIdx? fun g => g.clients.isEmpty

/-- Add a connection to the group chosen by `admitIp`. -/
def join (group c : ℕ) (gs : Groups) : Groups :=
  if group = USIZE_MAX then
    { gs with groups := gs.groups ++ [{ Group.new true with members := [c] }] }
  else
    { gs with groups := gs.groups.modify group fun g => { g with members := g.members ++ [c] } }

/-- A connection left: drop it from its group, and drop a group that existed
only for it. -/
def leave (c : ℕ) (gs : Groups) : Groups :=
  { gs with
    groups := (gs.groups.map (Group.leave c)).filter fun g =>
      !(g.perConnection && g.members.isEmpty) }

/-- `activated` in the first group that contains `c`. -/
def activateFirst (c : ℕ) : List Group → Handles → List Group × Handles
  | [], hs => ([], hs)
  | g :: gs, hs =>
    if g.contains c then
      let (g, hs) := g.activated c hs
      (g :: gs, hs)
    else
      let (gs, hs) := activateFirst c gs hs
      (g :: gs, hs)

/-- A connection received STARTDT. -/
def activated (c : ℕ) (gs : Groups) (hs : Handles) : Groups × Handles :=
  let (groups, hs) := activateFirst c gs.groups hs
  ({ gs with groups }, hs)

/-- A connection received STOPDT, or was taken out of data transfer. -/
def deactivated (c : ℕ) (gs : Groups) : Groups :=
  { gs with groups := gs.groups.map (Group.deactivated c) }

/-- `route` in every group, one after the other. -/
def routeAll (bufferSize : ℕ) (a : Asdu) : List Group → Handles → List Group × Handles × List Route
  | [], hs => ([], hs, [])
  | g :: gs, hs =>
    let (g, hs, r) := g.route bufferSize a hs
    let (gs, hs, rs) := routeAll bufferSize a gs hs
    (g :: gs, hs, r.toList ++ rs)

/-- Hand `a` to every group: to its connection in data transfer, or into its
buffer when none is. -/
def route (a : Asdu) (gs : Groups) (hs : Handles) : Groups × Handles × List Route :=
  let (groups, hs, rs) := routeAll gs.bufferSize a gs.groups hs
  ({ gs with groups }, hs, rs)

/-- How many ASDUs wait in the buffers, over all groups. -/
def buffered (gs : Groups) : ℕ := (gs.groups.map fun g => g.buffer.length).sum

end Groups

/-! ### Flags and histories -/

/-- The connection whose activation callback ran last in a group. -/
def lastActivated (log : List GroupObs) : Option ℕ :=
  log.foldl (fun l o =>
    match o with
    | .activated c => some c
    | _ => l) none

/-- The ASDUs handed to connections of the group, in the order they were enqueued. -/
def enqueued (log : List GroupObs) : List Asdu :=
  log.filterMap fun
    | .enqueued _ a => some a
    | _ => none

/-- The ASDUs `route` reported sent or buffered, in the order of the calls. -/
def acceptedAsdus (log : List GroupObs) : List Asdu :=
  log.filterMap fun
    | .accepted a => some a
    | _ => none

@[simp] theorem enqueued_append (l₁ l₂ : List GroupObs) :
    enqueued (l₁ ++ l₂) = enqueued l₁ ++ enqueued l₂ := List.filterMap_append

@[simp] theorem acceptedAsdus_append (l₁ l₂ : List GroupObs) :
    acceptedAsdus (l₁ ++ l₂) = acceptedAsdus l₁ ++ acceptedAsdus l₂ := List.filterMap_append

/-- Entries that are no activations. -/
theorem lastActivated_append {log os : List GroupObs} (h : ∀ o ∈ os, ∀ c, o ≠ .activated c) :
    lastActivated (log ++ os) = lastActivated log := by
  induction os using List.reverseRecOn with
  | nil => rw [List.append_nil]
  | append_singleton os o ih =>
    have ih := ih fun o' ho' => h o' (by simp [ho'])
    rw [← List.append_assoc, ← ih]
    cases o with
    | activated c => exact absurd rfl (h _ (by simp) c)
    | _ => simp [lastActivated]

theorem lastActivated_activated {log os : List GroupObs} {c : ℕ}
    (h : ∀ o ∈ os, ∀ c, o ≠ .activated c) : lastActivated (log ++ .activated c :: os) = some c := by
  rw [List.append_cons, lastActivated_append h]
  simp [lastActivated]

/-- Queueing an ASDU does not touch the flag. -/
theorem active_of_tryEnqueue {hs : Handles} {c : ℕ} {a : Asdu} {conn : Connection}
    (h : (hs c).tryEnqueue a = .ok conn) (m : ℕ) :
    (Function.update hs c conn m).active = (hs m).active := by
  obtain ⟨raw, -, rfl⟩ := Session.queue_of_tryEnqueue h
  by_cases hm : m = c
  · subst hm
    rw [Function.update_self]
  · rw [Function.update_of_ne hm]

namespace Group

theorem contains_iff {g : Group} {c : ℕ} : g.contains c = true ↔ c ∈ g.members := by
  simp [contains]

/-- **Demotion stops exactly the other members.** -/
theorem active_demoteOthers (c : ℕ) (ms : List ℕ) (hs : Handles) (m : ℕ) :
    (demoteOthers c ms hs m).active =
      if m ∈ ms ∧ m ≠ c then false else (hs m).active := by
  induction ms generalizing hs with
  | nil => simp [demoteOthers]
  | cons k ms ih =>
    rw [demoteOthers, ih]
    by_cases hk : k ≠ c ∧ (hs k).active
    · rw [if_pos hk]
      by_cases hmk : m = k
      · subst hmk
        simp [hk.1, Connection.demote, Connection.setActive]
      · rw [Function.update_of_ne hmk]
        simp [hmk]
    · rw [if_neg hk]
      by_cases hmk : m = k
      · subst hmk
        by_cases hmc : m = c
        · simp [hmc]
        · have hoff : (hs m).active = false := by simpa [hmc] using hk
          simp [hoff]
      · simp [hmk]

theorem active_replay (c : ℕ) (b : List Asdu) (hs : Handles) (m : ℕ) :
    ((replay c b hs).2.1 m).active = (hs m).active := by
  induction b generalizing hs with
  | nil => rfl
  | cons a rest ih =>
    rw [replay]
    rcases hq : (hs c).tryEnqueue a with e | conn
    · rfl
    · show ((replay c rest (Function.update hs c conn)).2.1 m).active = _
      rw [ih, active_of_tryEnqueue hq]

/-- Replay hands over a first part of the buffer and keeps the rest. -/
theorem enqueued_replay (c : ℕ) (b : List Asdu) (hs : Handles) :
    enqueued (replay c b hs).2.2 ++ (replay c b hs).1 = b := by
  induction b generalizing hs with
  | nil => rfl
  | cons a rest ih =>
    rw [replay]
    rcases hq : (hs c).tryEnqueue a with e | conn
    · rfl
    · exact congrArg (a :: ·) (ih (Function.update hs c conn))

theorem replay_log {c : ℕ} {b : List Asdu} {hs : Handles} {o : GroupObs}
    (h : o ∈ (replay c b hs).2.2) : ∃ a, o = .enqueued c a := by
  induction b generalizing hs with
  | nil => cases h
  | cons a rest ih =>
    rw [replay] at h
    rcases hq : (hs c).tryEnqueue a with e | conn
    · rw [hq] at h
      cases h
    · rw [hq] at h
      rcases List.mem_cons.mp h with rfl | h
      · exact ⟨a, rfl⟩
      · exact ih h

/-- **What a switchover does to the flags.** -/
theorem active_activated (c : ℕ) (g : Group) (hs : Handles) (m : ℕ) :
    ((g.activated c hs).2 m).active =
      if m ∈ g.members ∧ m ≠ c then false else (hs m).active := by
  rw [activated]
  show ((replay c g.buffer (demoteOthers c g.members hs)).2.1 m).active = _
  rw [active_replay, active_demoteOthers]

theorem lastActivated_activated (c : ℕ) (g : Group) (hs : Handles) :
    Cs104.lastActivated (g.activated c hs).1.log = some c := by
  refine Cs104.lastActivated_activated fun o ho c' => ?_
  obtain ⟨a, rfl⟩ := replay_log ho
  exact nofun

/-- A member in data transfer is not taken for stopped. -/
theorem refresh_active {hs : Handles} {g : Group} {c : ℕ} (h : (hs c).active = true) :
    (g.refresh hs).active = some c ↔ g.active = some c := by
  unfold refresh
  split
  · next hstop =>
    obtain ⟨c', hc', hoff⟩ := Option.any_eq_true _ _ |>.mp hstop
    constructor
    · exact nofun
    · intro hg
      rw [hg] at hc'
      cases hc'
      simp [h] at hoff
  · rfl

theorem refresh_frame (hs : Handles) (g : Group) :
    (g.refresh hs).members = g.members ∧ (g.refresh hs).buffer = g.buffer ∧
      (g.refresh hs).log = g.log := by
  unfold refresh
  split <;> exact ⟨rfl, rfl, rfl⟩

theorem refresh_eq_some {hs : Handles} {g : Group} {c : ℕ} :
    (g.refresh hs).active = some c ↔ g.active = some c ∧ (hs c).active = true := by
  constructor
  · intro h
    have hon : (hs c).active = true := by
      unfold refresh at h
      split at h
      · cases h
      · next hstop =>
        rw [h] at hstop
        simpa using hstop
    exact ⟨(refresh_active hon).mp h, hon⟩
  · rintro ⟨h, hon⟩
    exact (refresh_active hon).mpr h

/-- **What a broadcast does in one group.** -/
theorem route_cases (n : ℕ) (a : Asdu) (g : Group) (hs : Handles) :
    (∃ c conn, (g.refresh hs).active = some c ∧ (hs c).tryEnqueue a = .ok conn ∧
      g.route n a hs = ({ g.refresh hs with
        log := (g.refresh hs).log ++ [.enqueued c a, .accepted a] }, Function.update hs c conn,
          some .sent)) ∨
    ((g.refresh hs).active = none ∧
      g.route n a hs = ({ g.refresh hs with
        buffer := (g.refresh hs).buffer ++ [a]
        log := (g.refresh hs).log ++ [.accepted a] }, hs, some .buffered)) ∨
    (∀ c conn, (g.refresh hs).active = some c → (hs c).tryEnqueue a ≠ .ok conn) ∧
      ∃ r, g.route n a hs = (g.refresh hs, hs, r) ∧ r ≠ some .sent ∧ r ≠ some .buffered := by
  unfold route
  rcases hact : (g.refresh hs).active with _ | c
  -- without an active connection the ASDU is buffered, unless the buffer is full or there is none
  · dsimp only
    rw [hact]
    dsimp only
    split
    · exact .inr (.inr ⟨nofun, _, rfl, nofun, nofun⟩)
    · split
      · exact .inr (.inl ⟨rfl, rfl⟩)
      · exact .inr (.inr ⟨nofun, _, rfl, nofun, nofun⟩)
  · dsimp only
    rw [hact]
    dsimp only
    -- an active connection takes it, or the handle refuses and nothing changes
    rcases hq : (hs c).tryEnqueue a with e | conn
    · refine .inr (.inr ⟨fun c' conn hc' => ?_, _, rfl, nofun, nofun⟩)
      cases hc'
      rw [hq]
      exact nofun
    · exact .inl ⟨c, conn, rfl, hq, rfl⟩

end Group

namespace Groups

/-- **What a switchover does**: everything happens in the first group that
contains the connection. -/
theorem activateFirst_cases (c : ℕ) (l : List Group) (hs : Handles) :
    (∀ g ∈ l, c ∉ g.members) ∧ activateFirst c l hs = (l, hs) ∨
      ∃ pre g post, l = pre ++ g :: post ∧ (∀ h ∈ pre, c ∉ h.members) ∧ c ∈ g.members ∧
        activateFirst c l hs = (pre ++ (g.activated c hs).1 :: post, (g.activated c hs).2) := by
  induction l with
  | nil => exact .inl ⟨nofun, rfl⟩
  | cons g l ih =>
    rw [activateFirst]
    by_cases hc : c ∈ g.members
    · rw [if_pos (Group.contains_iff.mpr hc)]
      exact .inr ⟨[], g, l, rfl, nofun, hc, rfl⟩
    · rw [if_neg (mt Group.contains_iff.mp hc)]
      rcases ih with ⟨hnone, he⟩ | ⟨pre, g', post, rfl, hpre, hg', he⟩
      · left
        rw [he]
        refine ⟨fun h hh => ?_, rfl⟩
        rcases List.mem_cons.mp hh with rfl | hh
        · exact hc
        · exact hnone h hh
      · right
        refine ⟨g :: pre, g', post, rfl, fun h hh => ?_, hg', by rw [he]; rfl⟩
        rcases List.mem_cons.mp hh with rfl | hh
        · exact hc
        · exact hpre h hh

theorem active_group_route (n : ℕ) (a : Asdu) (g : Group) (hs : Handles) (m : ℕ) :
    ((g.route n a hs).2.1 m).active = (hs m).active := by
  rcases g.route_cases n a hs with ⟨c, conn, -, hq, he⟩ | ⟨-, he⟩ | ⟨-, r, he, -, -⟩
  · rw [he]
    exact active_of_tryEnqueue hq m
  · rw [he]
  · rw [he]

/-- A broadcast changes no flag. -/
theorem active_routeAll (n : ℕ) (a : Asdu) (l : List Group) (hs : Handles) (m : ℕ) :
    ((routeAll n a l hs).2.1 m).active = (hs m).active := by
  induction l generalizing hs with
  | nil => rfl
  | cons g l ih =>
    show ((routeAll n a l (g.route n a hs).2.1).2.1 m).active = _
    rw [ih, active_group_route]

/-- A group that differs in its data only, and in an `active` that is stopped. -/
def SameTransfer (hs : Handles) (g g' : Group) : Prop :=
  g'.members = g.members ∧ lastActivated g'.log = lastActivated g.log ∧
    ∀ c, (hs c).active = true → (g'.active = some c ↔ g.active = some c)

theorem sameTransfer_route (n : ℕ) (a : Asdu) (g : Group) (hs : Handles) :
    SameTransfer hs g (g.route n a hs).1 := by
  obtain ⟨hm, -, hl⟩ := g.refresh_frame hs
  rcases g.route_cases n a hs with ⟨c, conn, -, -, he⟩ | ⟨-, he⟩ | ⟨-, r, he, -, -⟩
  · rw [he]
    refine ⟨hm, ?_, fun c => Group.refresh_active⟩
    rw [← hl]
    exact lastActivated_append (by simp)
  · rw [he]
    refine ⟨hm, ?_, fun c => Group.refresh_active⟩
    rw [← hl]
    exact lastActivated_append (by simp)
  · rw [he]
    exact ⟨hm, by rw [hl], fun c => Group.refresh_active⟩

/-- **What a broadcast does to data transfer**: nothing. -/
theorem sameTransfer_routeAll (n : ℕ) (a : Asdu) (l : List Group) (hs : Handles) :
    List.Forall₂ (SameTransfer hs) l (routeAll n a l hs).1 := by
  induction l generalizing hs with
  | nil => exact .nil
  | cons g l ih =>
    show List.Forall₂ _ (g :: l) ((g.route n a hs).1 :: (routeAll n a l (g.route n a hs).2.1).1)
    refine .cons (sameTransfer_route n a g hs) ((ih (g.route n a hs).2.1).imp fun h h' hrel => ?_)
    refine ⟨hrel.1, hrel.2.1, fun c hc => hrel.2.2 c ?_⟩
    rw [active_group_route]
    exact hc

/-- The groups after a connection has left. -/
theorem mem_leave {gs : Groups} {c : ℕ} {g' : Group} (hg' : g' ∈ (gs.leave c).groups) :
    ∃ g ∈ gs.groups, g' = g.leave c := by
  obtain ⟨g, hg, rfl⟩ := List.mem_map.mp (List.mem_of_mem_filter hg')
  exact ⟨g, hg, rfl⟩

theorem mem_of_mem_modify {α : Type} {f : α → α} {l : List α} {i : ℕ} {x : α}
    (h : x ∈ l.modify i f) : x ∈ l ∨ ∃ y ∈ l, x = f y := by
  obtain ⟨j, hj, rfl⟩ := List.mem_iff_getElem.mp h
  rw [List.getElem_modify]
  rw [List.length_modify] at hj
  split
  · exact .inr ⟨_, List.getElem_mem hj, rfl⟩
  · exact .inl (List.getElem_mem hj)

/-- The groups after a connection has joined. -/
theorem mem_join {gs : Groups} {c group : ℕ} {g' : Group} (hg' : g' ∈ (gs.join group c).groups) :
    g' ∈ gs.groups ∨ (∃ g ∈ gs.groups, g' = { g with members := g.members ++ [c] }) ∨
      g' = { Group.new true with members := [c] } := by
  unfold join at hg'
  split at hg'
  · rcases List.mem_append.mp hg' with hg' | hg'
    · exact .inl hg'
    · exact .inr (.inr (List.mem_singleton.mp hg'))
  · rcases mem_of_mem_modify hg' with hg' | hg'
    · exact .inl hg'
    · exact .inr (.inl hg')

end Groups

/-! ### The server -/

/-- What the driver of a connection is at. -/
inductive Stage
  | absent
  | up
  /-- The flag is set; the activation callback has not run yet. -/
  | activating
  /-- The flag is clear; the deactivation callback has not run yet. -/
  | deactivating
  /-- The flag is clear; the connection has not left its group yet. -/
  | closing
  | gone
  deriving DecidableEq, Repr

/-- The groups of a server and the handles of its connections, with what each
driver is at and whether it has received neither STOPDT nor been closed since
its activation callback last ran. -/
structure Server where
  groups : Groups
  conns : Handles
  stage : ℕ → Stage
  started : ℕ → Bool

/-- The calls the drivers and the application make. -/
inductive Call
  /-- A connection comes up: `Groups::join`. -/
  | join (group c : ℕ)
  /-- A connection has been torn down: `Groups::leave`. -/
  | leave (c : ℕ)
  /-- The driver of `c` handles STARTDT act: `set_active(true)`. -/
  | startDt (c : ℕ)
  /-- The activation callback: `Groups::activated`. -/
  | activated (c : ℕ)
  /-- The driver of `c` handles STOPDT act: `set_active(false)`. -/
  | stopDt (c : ℕ)
  /-- The deactivation callback: `Groups::deactivated`. -/
  | deactivated (c : ℕ)
  /-- The driver of `c` leaves its loop. -/
  | close (c : ℕ)
  /-- The driver of `c` takes an ASDU from its queue. -/
  | drain (c : ℕ)
  /-- A broadcast: `Groups::route`. -/
  | route (a : Asdu)
  deriving DecidableEq, Repr

namespace Server

/-- Nothing has connected yet.  Handle `c` is the one its connection will be
created with, and its queue holds `capacity c` ASDUs. -/
def init (mode : ServerMode) (bufferSize : ℕ) (params : Params) (capacity : ℕ → ℕ) : Server where
  groups := .new mode bufferSize
  conns := fun c => {
    params
    role := .controlled
    connected := true
    active := false
    queue := []
    capacity := capacity c }
  stage := fun _ => .absent
  started := fun _ => false

/-- Change the handle of `c`. -/
def setConn (c : ℕ) (conn : Connection) (s : Server) : Server :=
  { s with conns := Function.update s.conns c conn }

/-- The driver of `c` goes on to `stage`. -/
def setStage (c : ℕ) (stage : Stage) (s : Server) : Server :=
  { s with stage := Function.update s.stage c stage }

def setStarted (c : ℕ) (started : Bool) (s : Server) : Server :=
  { s with started := Function.update s.started c started }

/-- One call. -/
def call (s : Server) : Call → Server
  | .join group c => { s with groups := s.groups.join group c }.setStage c .up
  | .leave c => { s with groups := s.groups.leave c }.setStage c .gone
  | .startDt c => (s.setConn c ((s.conns c).setActive true)).setStage c .activating
  | .activated c =>
    let (groups, conns) := s.groups.activated c s.conns
    ({ s with groups, conns }.setStage c .up).setStarted c true
  | .stopDt c =>
    ((s.setConn c ((s.conns c).setActive false)).setStage c
      (if (s.conns c).active then .deactivating else .up)).setStarted c false
  | .deactivated c => { s with groups := s.groups.deactivated c }.setStage c .up
  | .close c =>
    ((s.setConn c { s.conns c with connected := false, active := false }).setStage c
      .closing).setStarted c false
  | .drain c => s.setConn c { s.conns c with queue := (s.conns c).queue.tail }
  | .route a =>
    let (groups, conns, _) := s.groups.route a s.conns
    { s with groups, conns }

/-- The runs of a server under any sequence of calls. -/
def machine (mode : ServerMode) (bufferSize : ℕ) (params : Params) (capacity : ℕ → ℕ) :
    Machine Server Call where
  init := init mode bufferSize params capacity
  next := fun s l => some (s.call l)

/-- The calls the drivers make: a connection joins the group its address admits
it to, and its driver handles one thing at a time. -/
def inOrder (peer : ℕ → IpAddr) (s : Server) : Call → Bool
  | .join group c => s.stage c = .absent && s.groups.admitIp (peer c) = some group
  | .leave c => s.stage c = .closing
  | .startDt c => s.stage c = .up
  | .activated c => s.stage c = .activating
  | .stopDt c => s.stage c = .up
  | .deactivated c => s.stage c = .deactivating
  | .close c => s.stage c = .up
  | .drain _ => true
  | .route _ => true

end Server

end Cs104
end Iec60870
