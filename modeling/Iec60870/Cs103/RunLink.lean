import Iec60870.Cs101.Reports
import Iec60870.Cs103.Discipline
import Iec60870.Cs103.Handler

/-!
# The protocol loop of 103

`run_link` gives every received frame to the link state machine and then acts on what
it is told: for a device that became active it queues the start-up messages and calls
the handler, and user data that is new is decoded and dispatched.  While it awaits the
handler other tasks may queue ASDUs; nothing else happens to the link meanwhile.

## Main definitions

* `RunLink` — the loop's state: the link, and what is left of the current branch.
* `RunLink.machine` — its runs.
* `Told` — the calls a report leads to.

## Main results

* `RunLink.reachable_link` — the loop is a run of the link state machine.
* `RunLink.calls_of_reach` — **the handler is called for what the history reports,
  once and in order.**
-/

namespace Iec60870
namespace Cs103

open Cs101 (Frame FrameOutcome Obs Report Primary)
open Cs101.Primary (Reports reports_handleSecondary reports_of_confirm reports_confirm
  reports_askReset reports_onT1Timeout reports_push)

/-- What `run_link` reads of its configuration beside what the link layer reads of
it. -/
structure RunOption extends ClientOption where
  /-- Every device is sent the time and interrogated when it becomes active. -/
  autoInit : Bool
  timeZone : TimeZone
  deriving DecidableEq, Repr

/-- A step of the branch of a received frame. -/
inductive Task
  /-- Queue the time synchronization of a device. -/
  | syncTime (addr : UInt8)
  /-- Queue its general interrogation. -/
  | interrogate (addr : UInt8)
  /-- Tell the handler that it is active. -/
  | deviceActive (addr : UInt8)
  /-- Decode and dispatch user data. -/
  | receive (raw : Octets)
  deriving DecidableEq, Repr

/-- What is recorded: what happens on the link, and the calls of the handler. -/
inductive Entry
  /-- Something happened on the link.  What the branch of a frame does when it goes on
  is recorded with the host's clock at that step. -/
  | obs (clock : Option Host) (x : Obs UInt8 Asdu)
  | call (c : Call)

namespace Entry

def call? : Entry → Option Call
  | .obs _ _ => none
  | .call c => some c

end Entry

/-- What a task still owes the handler: a device to report active, or an ASDU to
dispatch. -/
def Task.owed : Task → Option (Report UInt8)
  | .deviceActive addr => some (.active addr)
  | .receive raw => some (.data raw)
  | _ => none

/-- The calls a report leads to.  Time tags are read at the time of the call. -/
def Told (zone : TimeZone) : Report UInt8 → List Call → Prop
  | .active addr, cs => cs = [.onDeviceActive addr]
  | .data raw, cs => ∃ host, cs = Cs103.receive host zone raw

/-- The state of the protocol loop: the link, and how far the branch of the last
frame has come.  Other tasks may queue ASDUs between any two steps. -/
structure RunLink where
  link : LinkState
  onConnectCalled : Bool
  /-- What is left of the branch of the last frame. -/
  todo : List Task
  trace : List Entry

namespace RunLink

variable (o : RunOption) (s : RunLink)

/-- The link moves to `l`, at the time `clock` where the branch of a frame moves it. -/
def moved (clock : Option Host) (l : LinkState) : RunLink :=
  { s with
    link := l
    trace := s.trace ++ (l.log.drop s.link.log.length).map (.obs clock) }

/-- The handler is called. -/
def called (cs : List Call) : RunLink := { s with trace := s.trace ++ cs.map .call }

/-- What is due for a device whose link became active. -/
def activation (addr : UInt8) : List Task :=
  (if o.autoInit then [.syncTime addr, .interrogate addr] else []) ++ [.deviceActive addr]

/-- What is due after a frame: the start-up of each device that became active,
then the ASDU it carries. -/
def tasks (out : FrameOutcome UInt8) (frame : Frame) : List Task :=
  out.newlyActive.flatMap (activation o) ++
    if out.deliver then (frame.asdu.map .receive).toList else []

/-- The branch of a received frame, up to the first thing it awaits. -/
def received (f : Frame) (now : ℕ) : RunLink :=
  let s := if s.onConnectCalled then s else s.called [.onConnect]
  let (out, l) := LinkState.handleFrame o.toClientOption s.link f now
  { s.moved none l with onConnectCalled := true, todo := tasks o out f }

/-- `Shared::enqueue`, its error ignored: a start-up message is dropped when the
queue is full. -/
def tryEnqueue (host : Host) (a : Asdu) (addr : UInt8) : RunLink :=
  match LinkState.enqueue o.toClientOption s.link a addr with
  | .ok l => s.moved (some host) l
  | .error _ => s

/-- One step of the branch, at the time the host's clock shows. -/
def perform (host : Host) : Task → RunLink
  | .syncTime addr => s.tryEnqueue o host (Asdu.timeSync addr host.now host o.timeZone) addr
  | .interrogate addr => s.tryEnqueue o host (Asdu.generalInterrogation addr 0) addr
  | .deviceActive addr => s.called [.onDeviceActive addr]
  | .receive raw => s.called (Cs103.receive host o.timeZone raw)

/-- What can happen to the loop: an event of the link, or the next task of the
branch in progress. -/
inductive Event
  /-- Something happens to the link: of the loop's own branches, or of another task. -/
  | link (e : LinkState.Event)
  /-- The branch of the last frame goes on. -/
  | next (host : Host)

/-- What other tasks do at any time. -/
def concurrent : LinkState.Event → Bool
  | .send _ _ => true
  | .outClosed => true
  | _ => false

/-- One step of `run_link` and the tasks beside it. -/
def step : Event → Option RunLink
  | .link (.frame f now) => if s.todo = [] then some (s.received o f now) else none
  | .link e =>
    if concurrent e ∨ s.todo = [] then
      (LinkState.step o.toClientOption s.link e).map (s.moved none)
    else none
  | .next host =>
    match s.todo with
    | [] => none
    | task :: rest => some ({ s with todo := rest }.perform o host task)

/-- The loop on a freshly opened line. -/
def new : RunLink where
  link := LinkState.new o.toClientOption
  onConnectCalled := false
  todo := []
  trace := []

/-- The runs of `run_link`, with the tasks beside it. -/
def machine : Machine RunLink Event where
  init := new o
  next := fun s e => s.step o e

/-- The calls of the handler so far. -/
def calls : List Call := s.trace.filterMap Entry.call?

/-! ### The steps -/

variable {o} {s t : RunLink}

theorem tryEnqueue_cases (host : Host) (a : Asdu) (addr : UInt8) :
    s.tryEnqueue o host a addr = s ∧ o.maxSendQueueSize ≤ s.link.queue.length ∨
      s.tryEnqueue o host a addr = s.moved (some host) (s.link.push ⟨a, addr⟩) ∧
        LinkState.step o.toClientOption s.link (.send a addr) = some (s.link.push ⟨a, addr⟩) := by
  unfold tryEnqueue LinkState.step LinkState.enqueue
  split_ifs with hfull
  · exact .inl ⟨rfl, hfull⟩
  · exact .inr ⟨rfl, rfl⟩

/-- **What a step does**: the link makes a step of its own, or the branch goes on. -/
theorem step_cases {e : Event} (h : s.step o e = some t) :
    (∃ f now, e = .link (.frame f now) ∧ s.todo = [] ∧ t = s.received o f now) ∨
      (∃ le l, e = .link le ∧ (∀ f now, le ≠ .frame f now) ∧
        (concurrent le = true ∨ s.todo = []) ∧
        LinkState.step o.toClientOption s.link le = some l ∧ t = s.moved none l) ∨
      ∃ host task rest, e = .next host ∧ s.todo = task :: rest ∧
        t = { s with todo := rest }.perform o host task := by
  -- an event of another task, or one that waits for the branch to end
  have hother (le : LinkState.Event) (hle : ∀ f now, le ≠ .frame f now)
      (hstep : (if concurrent le ∨ s.todo = [] then
        (LinkState.step o.toClientOption s.link le).map (s.moved none) else none) = some t) :
      ∃ l, (concurrent le = true ∨ s.todo = []) ∧
        LinkState.step o.toClientOption s.link le = some l ∧ t = s.moved none l := by
    split at hstep
    · next hfree =>
      obtain ⟨l, hl, rfl⟩ := Option.map_eq_some_iff.mp hstep
      exact ⟨l, hfree, hl, rfl⟩
    · cases hstep
  cases e with
  | link le =>
    -- a frame starts a branch, and only when no other is in progress
    by_cases hframe : ∃ f now, le = .frame f now
    · obtain ⟨f, now, rfl⟩ := hframe
      rw [step] at h
      split at h
      · next htodo =>
        cases h
        exact .inl ⟨f, now, rfl, htodo, rfl⟩
      · cases h
    · have hle : ∀ f now, le ≠ .frame f now := fun f now he => hframe ⟨f, now, he⟩
      have hstep : ∃ l, (concurrent le = true ∨ s.todo = []) ∧
          LinkState.step o.toClientOption s.link le = some l ∧ t = s.moved none l := by
        cases le with
        | frame f now => exact absurd rfl (hle f now)
        | _ => exact hother _ hle h
      obtain ⟨l, hfree, hl, ht⟩ := hstep
      exact .inr (.inl ⟨le, l, rfl, hle, hfree, hl, ht⟩)
  | next host =>
    rw [step] at h
    split at h
    · cases h
    · next task rest htodo =>
      cases h
      exact .inr (.inr ⟨host, task, rest, rfl, htodo, rfl⟩)

/-- A task of the branch either leaves the link alone or queues an ASDU. -/
theorem link_perform (host : Host) (task : Task) :
    (s.perform o host task).link = s.link ∨
      ∃ a addr, LinkState.step o.toClientOption s.link (.send a addr) =
        some (s.perform o host task).link := by
  have henqueue (a : Asdu) (addr : UInt8) : (s.tryEnqueue o host a addr).link = s.link ∨
      ∃ a' addr', LinkState.step o.toClientOption s.link (.send a' addr') =
        some (s.tryEnqueue o host a addr).link := by
    rcases tryEnqueue_cases (o := o) (s := s) host a addr with ⟨h, -⟩ | ⟨h, hstep⟩
    · rw [h]
      exact .inl rfl
    · rw [h]
      exact .inr ⟨a, addr, hstep⟩
  cases task with
  | syncTime addr => exact henqueue _ addr
  | interrogate addr => exact henqueue _ addr
  | deviceActive addr => exact .inl rfl
  | receive raw => exact .inl rfl

theorem link_received (f : Frame) (now : ℕ) :
    (s.received o f now).link = (LinkState.handleFrame o.toClientOption s.link f now).2 := by
  unfold received
  cases s.onConnectCalled <;> rfl

/-- **What happens to the link in the loop is a run of the link state machine**, in
which the start-up messages are sent like any other ASDU. -/
theorem reachable_link (h : (machine o).Reachable s) :
    (LinkState.machine o.toClientOption).Reachable s.link := by
  refine h.invariant (P := fun s => (LinkState.machine o.toClientOption).Reachable s.link)
    .init ?_
  intro u e v hu _ hn
  rcases step_cases hn with ⟨f, now, -, -, rfl⟩ | ⟨le, l, -, -, -, hl, rfl⟩ |
    ⟨host, task, rest, -, -, rfl⟩
  · rw [link_received]
    exact hu.step (l := .frame f now) trivial rfl
  · exact hu.step trivial hl
  · rcases link_perform (o := o) (s := { u with todo := rest }) host task with hsame |
      ⟨a, addr, hstep⟩
    · rw [hsame]
      exact hu
    · exact hu.step (l := .send a addr) trivial hstep

/-! ### What the link makes known -/

/-- A frame makes known what its handler tells the loop. -/
theorem reports_handleFrame {l : LinkState} (f : Frame) (now : ℕ) :
    Reports o.profile ((LinkState.handleFrame o.toClientOption l f now).1.reports f) l
      (LinkState.handleFrame o.toClientOption l f now).2 := by
  have haddressed (ctrl : Cs101.ControlField) (addr : UInt8) :
      Reports o.profile ((LinkState.handleAddressed o.toClientOption l f ctrl addr now).1.reports f)
        l (LinkState.handleAddressed o.toClientOption l f ctrl addr now).2 := by
    unfold LinkState.handleAddressed
    split
    · exact .refl l
    · split
      · exact .refl l
      · exact reports_handleSecondary f ctrl addr now
  cases f with
  | singleCharAck => exact reports_of_confirm _ (reports_confirm none)
  | fixed ctrl addr => exact haddressed ctrl addr.toUInt8
  | variable' ctrl addr raw => exact haddressed ctrl addr.toUInt8

/-- Nothing but a frame makes anything known. -/
theorem reports_of_step {l l' : LinkState} {e : LinkState.Event} (he : ∀ f now, e ≠ .frame f now)
    (h : LinkState.step o.toClientOption l e = some l') : Reports o.profile [] l l' := by
  cases e with
  | frame f now => exact absurd rfl (he f now)
  -- each of these writes requests or keeps a queue; none completes a transaction
  | linkRequest req now =>
    cases h
    rcases LinkState.handleLinkRequest_cases (o := o.toClientOption) (s := l) req now with
      h | ⟨-, h⟩
    · exact h.reports
    · exact (reports_askReset req.addr).after h.reports
  | t1 now =>
    rw [LinkState.step] at h
    split at h
    · rcases hr : l.onT1Timeout o.profile now with e | l'' <;> rw [hr] at h <;> cases h
      exact reports_onT1Timeout hr
    · cases h
  | t3 now =>
    cases h
    exact (LinkState.launch_onT3Timeout now).reports
  | tick now =>
    cases h
    exact (LinkState.launch_tick now).reports
  | send asdu addr =>
    rw [LinkState.step, LinkState.enqueue] at h
    split at h
    · cases h
    · cases h
      exact reports_push _
  | outClosed =>
    cases h
    exact .of_log rfl

/-! ### The calls of the handler -/

/-- What the history of the link makes known. -/
def reported (o : RunOption) (log : List (Obs UInt8 Asdu)) : List (Report UInt8) :=
  log.filterMap (Obs.report o.profile.resets)

theorem owed_activation (addr : UInt8) :
    (activation o addr).filterMap Task.owed = [.active addr] := by
  unfold activation
  cases o.autoInit <;> rfl

/-- The tasks of a frame owe the handler what the frame made known. -/
theorem owed_tasks (out : FrameOutcome UInt8) (f : Frame) :
    (tasks o out f).filterMap Task.owed = out.reports f := by
  have hactive (addrs : List UInt8) :
      (addrs.flatMap (activation o)).filterMap Task.owed = addrs.map .active := by
    induction addrs with
    | nil => rfl
    | cons addr addrs ih =>
      rw [List.flatMap_cons, List.filterMap_append, owed_activation, ih]
      rfl
  unfold tasks FrameOutcome.reports
  rw [List.filterMap_append, hactive]
  congr 1
  cases out.deliver with
  | false => rfl
  | true => cases f.asdu <;> rfl

theorem filterMap_call_obs (clock : Option Host) (xs : List (Obs UInt8 Asdu)) :
    (xs.map (Entry.obs clock)).filterMap Entry.call? = [] := by
  induction xs with
  | nil => rfl
  | cons x xs ih => exact ih

theorem filterMap_call_call (cs : List Call) :
    (cs.map Entry.call).filterMap Entry.call? = cs := by
  induction cs with
  | nil => rfl
  | cons c cs ih => exact congrArg (c :: ·) ih

@[simp] theorem calls_moved (clock : Option Host) (l : LinkState) :
    (s.moved clock l).calls = s.calls := by
  unfold calls moved
  rw [List.filterMap_append, filterMap_call_obs, List.append_nil]

@[simp] theorem calls_called (cs : List Call) : (s.called cs).calls = s.calls ++ cs := by
  unfold calls called
  rw [List.filterMap_append, filterMap_call_call]

@[simp] theorem calls_todo (rest : List Task) : calls { s with todo := rest } = s.calls := rfl

/-- `on_connect` is called for the first frame. -/
theorem calls_received (f : Frame) (now : ℕ) :
    (s.received o f now).calls =
      s.calls ++ if s.onConnectCalled then [] else [.onConnect] := by
  have hmoved (u : RunLink) (l : LinkState) (b : Bool) (todo : List Task) :
      calls { u.moved none l with onConnectCalled := b, todo := todo } = u.calls := calls_moved _ l
  unfold received
  cases s.onConnectCalled
  · exact (hmoved _ _ _ _).trans (calls_called _)
  · exact (hmoved _ _ _ _).trans (List.append_nil _).symm

theorem reported_of_reports {l l' : LinkState} {rs : List (Report UInt8)}
    (h : Reports o.profile rs l l') : reported o l'.log = reported o l.log ++ rs := by
  obtain ⟨rest, hlog, rfl⟩ := h
  rw [hlog]
  exact List.filterMap_append

/-- What is reported and what is still owed, with the calls made. -/
def Accounted (o : RunOption) (s : RunLink) : Prop :=
  (s.onConnectCalled = false → reported o s.link.log = []) ∧
    ∃ done groups, reported o s.link.log = done ++ s.todo.filterMap Task.owed ∧
      List.Forall₂ (Told o.timeZone) done groups ∧
      s.calls = (if s.onConnectCalled then [.onConnect] else []) ++ groups.flatten

theorem Accounted.received (hs : Accounted o s) (htodo : s.todo = []) (f : Frame) (now : ℕ) :
    Accounted o (s.received o f now) := by
  obtain ⟨hfirst, done, groups, hlog, htold, hcalls⟩ := hs
  rw [htodo, List.filterMap_nil, List.append_nil] at hlog
  have hconnect : (s.received o f now).onConnectCalled = true := by
    unfold RunLink.received
    rfl
  have htasks : (s.received o f now).todo =
      tasks o (LinkState.handleFrame o.toClientOption s.link f now).1 f := by
    unfold RunLink.received
    cases s.onConnectCalled <;> rfl
  refine ⟨fun h => absurd (hconnect.symm.trans h) (by decide), done, groups, ?_, htold, ?_⟩
  · rw [link_received, htasks, owed_tasks, reported_of_reports (reports_handleFrame f now), hlog]
  · rw [calls_received, hcalls, hconnect, if_pos rfl]
    cases hc : s.onConnectCalled with
    | true => simp
    | false =>
      -- nothing was reported before the first frame
      rw [hfirst hc] at hlog
      subst hlog
      cases htold
      simp

theorem Accounted.moved (hs : Accounted o s) {l : LinkState} (h : Reports o.profile [] s.link l)
    (clock : Option Host) : Accounted o (s.moved clock l) := by
  have hlog : reported o l.log = reported o s.link.log := by
    rw [reported_of_reports h, List.append_nil]
  obtain ⟨hfirst, done, groups, hdone, htold, hcalls⟩ := hs
  exact ⟨fun hc => hlog.trans (hfirst hc), done, groups, hlog.trans hdone, htold,
    (calls_moved clock l).trans hcalls⟩

/-- A task that owes nothing. -/
theorem Accounted.tryEnqueue (hs : Accounted o s) (host : Host) (a : Asdu) (addr : UInt8) :
    Accounted o (s.tryEnqueue o host a addr) := by
  rcases tryEnqueue_cases (o := o) (s := s) host a addr with ⟨h, -⟩ | ⟨h, -⟩
  · rw [h]
    exact hs
  · rw [h]
    exact hs.moved (reports_push _) _

/-- The handler is told what is owed next. -/
theorem Accounted.called {r : Report UInt8} {rest : List Task} {cs : List Call}
    (hs : Accounted o s) (howed : s.todo.filterMap Task.owed = r :: rest.filterMap Task.owed)
    (hr : Told o.timeZone r cs) : Accounted o ({ s with todo := rest }.called cs) := by
  obtain ⟨hfirst, done, groups, hlog, htold, hcalls⟩ := hs
  refine ⟨hfirst, done ++ [r], groups ++ [cs], ?_, ?_, ?_⟩
  · rw [howed] at hlog
    exact hlog.trans (List.append_cons ..)
  · exact List.rel_append htold (.cons hr .nil)
  · have hflatten : (groups ++ [cs]).flatten = groups.flatten ++ cs := by simp
    rw [hflatten, calls_called, calls_todo, hcalls, List.append_assoc]
    rfl

theorem Accounted.perform {task : Task} {rest : List Task} (hs : Accounted o s)
    (htodo : s.todo = task :: rest) (host : Host) :
    Accounted o ({ s with todo := rest }.perform o host task) := by
  have hquiet (h : task.owed = none) : Accounted o { s with todo := rest } := by
    obtain ⟨hfirst, done, groups, hlog, htold, hcalls⟩ := hs
    rw [htodo, List.filterMap_cons_none h] at hlog
    exact ⟨hfirst, done, groups, hlog, htold, hcalls⟩
  cases task with
  | syncTime addr => exact (hquiet rfl).tryEnqueue host _ addr
  | interrogate addr => exact (hquiet rfl).tryEnqueue host _ addr
  | deviceActive addr => exact hs.called (r := .active addr) (by rw [htodo]; rfl) rfl
  | receive raw => exact hs.called (r := .data raw) (by rw [htodo]; rfl) ⟨host, rfl⟩

/-- **The handler is called for what the history of the link makes known, once and in
order**: first of all `on_connect`, then `on_device_active` for every completed reset
and the dispatch of every ASDU that was delivered, but for what the branch in progress
still owes. -/
theorem calls_of_reach (h : (machine o).Reachable s) :
    ∃ done groups, reported o s.link.log = done ++ s.todo.filterMap Task.owed ∧
      List.Forall₂ (Told o.timeZone) done groups ∧
      s.calls = (if s.onConnectCalled then [.onConnect] else []) ++ groups.flatten := by
  have hs : Accounted o s := by
    refine h.invariant (P := Accounted o) ?_ ?_
    · exact ⟨fun _ => rfl, [], [], rfl, .nil, rfl⟩
    · intro u e v hu _ hn
      rcases step_cases hn with ⟨f, now, -, htodo, rfl⟩ | ⟨le, l, -, hle, -, hl, rfl⟩ |
        ⟨host, task, rest, -, htodo, rfl⟩
      · exact hu.received htodo f now
      · exact hu.moved (reports_of_step hle hl) none
      · exact hu.perform htodo host
  exact hs.2

/-- One device, which the client does not initialize. -/
def onePolled : RunOption := { LinkState.oneDevice with autoInit := false, timeZone := .utc }

/-- The device is reset. -/
def resetOnce : List Event :=
  [.link (.tick 0), .link (.frame (LinkState.response Cs101.SecFc.RESP_STATUS) 1),
    .link (.tick 2), .link (.frame (LinkState.response Cs101.SecFc.CONF_ACK) 3)]

/-- A host in UTC, noon of a summer day. -/
def noon : Host := .utc ⟨2026, 7, 8, 12, 0, 0, 0, by decide⟩

/-- The device says that an interrogation is over. -/
def giOver : Asdu where
  typeId := TypeId.GI_TERMINATION
  variable' := ⟨1, true⟩
  coa := 10
  commonAddr := 1
  infoObj := [255, 0, 1]
  timeZone := .utc

/-- The reset is reported, and the device is polled and answers. -/
def resetAndPoll : List Event :=
  resetOnce ++ [.next noon, .link (.tick 4),
    .link (.frame (.variable' (.secondary Cs101.SecFc.USER_DATA_CONF false false) 1
      [8, 129, 10, 1, 255, 0, 1]) 5), .next noon]

theorem calls_of_reach_resetOnce :
    ∃ s, (machine onePolled).run (new onePolled) resetAndPoll = some s ∧
      s.calls = [.onConnect, .onDeviceActive 1, .asduAll giOver, .giTermination giOver 1] ∧
      ∃ done groups, reported onePolled s.link.log = done ++ [] ∧
        List.Forall₂ (Told .utc) done groups ∧ s.calls = [.onConnect] ++ groups.flatten := by
  have hrun : (machine onePolled).run (new onePolled) resetAndPoll = some _ := rfl
  exact ⟨_, hrun, rfl, calls_of_reach (Machine.reach_of_run .init hrun)⟩

end RunLink

end Cs103
end Iec60870
