import Iec60870.Cs103.RunLink

/-!
# The start-up of a device

With `auto_init` every device whose link becomes active is sent the time and then
interrogated.  Both messages are queued between the reset and the call of the handler,
whatever other tasks queue meanwhile.

## Main definitions

* `Room` — the queue is not full when a start-up message is due.
* `Stage` — how far the start-up of a device has come.

## Main results

* `RunLink.start_up` — **when the handler is told that a device is active, its clock has
  been set and its interrogation queued since its reset.**
-/

namespace Iec60870
namespace Cs103

open Cs101 (Frame FrameOutcome Obs Report Primary)
open Cs101.Primary (Answered Settle Launch)
open Cs101.PrimFc

namespace RunLink

variable {o : RunOption} {s t : RunLink}

/-! ### What stands in the trace -/

/-- A completed reset of the device, by either of the two functions that reset a
link. -/
def IsReset (o : RunOption) (a : UInt8) (e : Entry) : Prop :=
  ∃ p, e = .obs none (.completed p) ∧ p.addr = a ∧ p.ctrl.func ∈ o.profile.resets

/-- The branch queues its time synchronization, with the time the host's clock shows at
that step. -/
def IsSync (o : RunOption) (a : UInt8) (e : Entry) : Prop :=
  ∃ host, e = .obs (some host) (.queued ⟨Asdu.timeSync a host.now host o.timeZone, a⟩)

/-- The branch queues its interrogation. -/
def IsInterrogation (a : UInt8) (e : Entry) : Prop :=
  ∃ host, e = .obs (some host) (.queued ⟨Asdu.generalInterrogation a 0, a⟩)

/-- What may come in between: other tasks queue ASDUs, or a request is begun. -/
def Quiet (e : Entry) : Prop :=
  (∃ out, e = .obs none (.queued out)) ∨ ∃ p raw, e = .obs none (.began p raw)

/-- What is due when a device is reported active. -/
def Initialized (o : RunOption) (a : UInt8) (trace : List Entry) : Prop :=
  Trace.Ends Quiet [IsInterrogation a, IsSync o a, IsReset o a] trace

/-- How far the start-up of a device has come, by what is left to do. -/
inductive Stage (o : RunOption) (trace : List Entry) : List Task → Prop
  | none {todo : List Task} (h : ∀ task ∈ todo, ∃ raw, task = .receive raw) : Stage o trace todo
  | activated {a : UInt8} (h : Trace.Ends Quiet [IsReset o a] trace) :
      Stage o trace [.syncTime a, .interrogate a, .deviceActive a]
  | synced {a : UInt8} (h : Trace.Ends Quiet [IsSync o a, IsReset o a] trace) :
      Stage o trace [.interrogate a, .deviceActive a]
  | interrogated {a : UInt8} (h : Initialized o a trace) : Stage o trace [.deviceActive a]

theorem Stage.quiet {trace u : List Entry} {todo : List Task} (h : Stage o trace todo)
    (hu : ∀ e ∈ u, Quiet e) : Stage o (trace ++ u) todo := by
  cases h with
  | none h => exact .none h
  | activated h => exact .activated (h.append hu)
  | synced h => exact .synced (h.append hu)
  | interrogated h => exact .interrogated (Trace.Ends.append h hu)

/-! ### A received frame -/

/-- A transaction just begun is quiet. -/
theorem quiet_of_launch {l l' : LinkState} (h : Launch o.profile l l') :
    ∃ rest, l'.log = l.log ++ rest ∧ ∀ x ∈ rest, Quiet (.obs none x) := by
  cases h with
  | note h => exact ⟨[], by rw [h.log, List.append_nil], by simp⟩
  | @begin m p queue raw due h hidle hopen hp hraw =>
    refine ⟨[.began p raw], by rw [Primary.begun, h.log], ?_⟩
    intro x hx
    cases List.mem_singleton.mp hx
    exact .inr ⟨p, raw, rfl⟩

/-- **What a frame adds to the history**: nothing is made known but user data, or a
reset was completed and at most a request begun after it. -/
theorem news_handleFrame {l : LinkState} (f : Frame) (now : ℕ) :
    ∃ rest, (LinkState.handleFrame o.toClientOption l f now).2.log = l.log ++ rest ∧
      ((∀ r ∈ (LinkState.handleFrame o.toClientOption l f now).1.reports f, ∃ raw, r = .data raw) ∨
        ∃ p v, rest = .completed p :: v ∧ p.ctrl.func ∈ o.profile.resets ∧
          (∀ x ∈ v, Quiet (.obs none x)) ∧
          (LinkState.handleFrame o.toClientOption l f now).1.reports f = [.active p.addr]) := by
  obtain ⟨m, n, hm, hn, ht⟩ := LinkState.answered_handleFrame (o := o.toClientOption) (s := l) f now
  obtain ⟨v, hv, hquiet⟩ := quiet_of_launch (o := o) ht
  obtain ⟨rest, hrest, hreports⟩ := reports_handleFrame (o := o) (l := l) f now
  -- a request that was begun says nothing to the handler
  have hsilent : v.filterMap (Obs.report o.profile.resets) = [] := by
    refine List.filterMap_eq_nil_iff.mpr ?_
    intro x hx
    rcases hquiet x hx with ⟨out, h⟩ | ⟨p, raw, h⟩ <;> cases h <;> rfl
  have hdata {u : List (Obs UInt8 Asdu)} (hlog : n.log = l.log ++ u)
      (hu : ∀ x ∈ u, ∀ r ∈ Obs.report o.profile.resets x, ∃ raw, r = .data raw) :
      ∀ r ∈ (LinkState.handleFrame o.toClientOption l f now).1.reports f, ∃ raw, r = .data raw := by
    have heq : rest = u ++ v := by
      rw [hv, hlog, List.append_assoc] at hrest
      exact (List.append_cancel_left hrest).symm
    rw [← hreports, heq, List.filterMap_append, hsilent, List.append_nil]
    intro r hr
    obtain ⟨x, hx, hr⟩ := List.mem_filterMap.mp hr
    exact hu x hx r hr
  refine ⟨rest, hrest, ?_⟩
  cases hn with
  -- the frame answers nothing, or a request is refused
  | ignored => exact .inl (hdata (u := []) (by rw [hm.log, List.append_nil]) (by simp))
  | @refused p hp hown href =>
    refine .inl (hdata (u := [.failed p]) (by rw [← hm.log]; rfl) ?_)
    intro x hx r hr
    cases List.mem_singleton.mp hx
    cases hr
  | @completed p hp hown hpos =>
    have hlog : (m.completeBy o.profile p f).log = l.log ++ .completed p :: Primary.deliveredBy p f := by
      rw [← hm.log]
      show m.log ++ [.completed p] ++ Primary.deliveredBy p f = _
      simp
    by_cases hreset : p.ctrl.func ∈ o.profile.resets
    · -- a reset is no request for class data
      have hclass : p.isClassRequest = false := by
        rcases LinkState.mem_resets.mp hreset with h | h <;> rw [Cs101.Pending.isClassRequest, h] <;>
          decide
      have hnone : Primary.deliveredBy (A := Asdu) p f = [] := if_neg (by simp [hclass])
      have heq : rest = .completed p :: v := by
        rw [hv, hlog, hnone, List.append_assoc] at hrest
        exact (List.append_cancel_left hrest).symm
      have hreport : Obs.report o.profile.resets (.completed p : Obs UInt8 Asdu) =
          some (.active p.addr) := if_pos hreset
      refine .inr ⟨p, v, heq, hreset, hquiet, ?_⟩
      rw [← hreports, heq, List.filterMap_cons_some hreport, hsilent]
    -- another request is completed: at most its user data becomes known
    · refine .inl (hdata hlog ?_)
      intro x hx r hr
      rcases List.mem_cons.mp hx with rfl | hx
      · simp [Obs.report, hreset] at hr
      · unfold Primary.deliveredBy at hx
        split at hx
        · obtain ⟨raw, -, rfl⟩ := Option.mem_map.mp (Option.mem_toList.mp hx)
          cases hr
          exact ⟨raw, rfl⟩
        · cases hx

/-- The tasks of a frame, by what it made known. -/
theorem tasks_eq (out : FrameOutcome UInt8) (f : Frame) :
    tasks o out f = (out.reports f).flatMap fun
      | .active addr => activation o addr
      | .data raw => [.receive raw] := by
  unfold tasks FrameOutcome.reports
  rw [List.flatMap_append, List.flatMap_map]
  congr 1
  cases out.deliver with
  | false => rfl
  | true => cases f.asdu <;> rfl

/-! ### The start-up -/

/-- The task queues a start-up message. -/
def queues : Task → Bool
  | .syncTime _ => true
  | .interrogate _ => true
  | _ => false

/-- The queue has room when a start-up message is due. -/
def Room (o : RunOption) (s : RunLink) : Event → Prop
  | .next _ => s.todo.head?.any queues = true → s.link.queue.length < o.maxSendQueueSize
  | .link _ => True

instance (o : RunOption) (s : RunLink) : (e : Event) → Decidable (Room o s e)
  | .next _ => inferInstanceAs (Decidable (_ → _))
  | .link _ => inferInstanceAs (Decidable True)

/-- Every device reported active so far was initialized first. -/
def Reported (o : RunOption) (trace : List Entry) : Prop :=
  Trace.Each (fun past e => ∀ a, e = .call (.onDeviceActive a) → Initialized o a past) trace

/-- Entries that report no device may be added. -/
theorem Reported.append {trace u : List Entry} (h : Reported o trace)
    (hu : ∀ e ∈ u, ∀ a, e ≠ .call (.onDeviceActive a)) : Reported o (trace ++ u) :=
  Trace.Each.append h fun e he _ a heq => absurd heq (hu e he a)

theorem Reported.moved (h : Reported o s.trace) (l : LinkState) :
    Reported o (s.moved none l).trace := by
  refine h.append ?_
  intro e he a heq
  obtain ⟨x, -, rfl⟩ := List.mem_map.mp he
  cases heq

/-- The invariant of the start-up: what was reported is preceded by its stages,
and the branch in progress is at the stage its tasks say. -/
structure Starting (o : RunOption) (s : RunLink) : Prop where
  reported : Reported o s.trace
  stage : Stage o s.trace s.todo

/-- What a frame makes known decides what is due. -/
theorem Starting.received (hauto : o.autoInit = true) (hs : Starting o s) (f : Frame) (now : ℕ) :
    Starting o (s.received o f now) := by
  -- the trace after the call of `on_connect`, if there is one
  obtain ⟨pre, hpre, htrace, hlink⟩ : ∃ pre, Reported o (s.trace ++ pre) ∧
      (s.received o f now).trace = s.trace ++ pre ++
        ((LinkState.handleFrame o.toClientOption s.link f now).2.log.drop
          s.link.log.length).map (.obs none) ∧
      (s.received o f now).todo =
        tasks o (LinkState.handleFrame o.toClientOption s.link f now).1 f := by
    unfold RunLink.received
    cases s.onConnectCalled with
    | true =>
      refine ⟨[], ?_, ?_, rfl⟩
      · rw [List.append_nil]
        exact hs.reported
      · rw [List.append_nil]
        rfl
    | false =>
      refine ⟨[.call .onConnect], hs.reported.append ?_, rfl, rfl⟩
      intro e he a heq
      cases List.mem_singleton.mp he
      cases heq
  obtain ⟨rest, hrest, hnews⟩ := news_handleFrame (o := o) (l := s.link) f now
  have hdrop : (LinkState.handleFrame o.toClientOption s.link f now).2.log.drop
      s.link.log.length = rest := by
    rw [hrest, List.drop_left]
  rw [hdrop] at htrace
  refine ⟨?_, ?_⟩
  · rw [htrace]
    refine hpre.append ?_
    intro e he a heq
    obtain ⟨x, -, rfl⟩ := List.mem_map.mp he
    cases heq
  · rw [htrace, hlink, tasks_eq]
    -- only user data became known, so no device is being started
    rcases hnews with hdata | ⟨p, v, rfl, hreset, hquiet, hreports⟩
    · refine .none ?_
      intro task htask
      obtain ⟨r, hr, htask⟩ := List.mem_flatMap.mp htask
      obtain ⟨raw, rfl⟩ := hdata r hr
      exact ⟨raw, List.mem_singleton.mp htask⟩
    -- a reset was completed: its start-up is due from the first of its three tasks
    · have hdue : activation o p.addr =
          [.syncTime p.addr, .interrogate p.addr, .deviceActive p.addr] := by
        unfold activation
        rw [if_pos hauto]
        rfl
      rw [hreports, List.flatMap_singleton]
      show Stage o _ (activation o p.addr)
      rw [hdue]
      refine .activated ?_
      rw [List.map_cons, List.append_cons]
      have hdone : Trace.Ends Quiet [IsReset o p.addr] (s.trace ++ pre ++ [.obs none (.completed p)]) := by
        apply Trace.Ends.concat
        · exact trivial
        · exact ⟨p, rfl, rfl, hreset⟩
      refine hdone.append ?_
      intro e he
      obtain ⟨x, hx, rfl⟩ := List.mem_map.mp he
      exact hquiet x hx

/-- What other tasks do is quiet. -/
theorem quiet_of_concurrent {l l' : LinkState} {le : LinkState.Event}
    (hfree : concurrent le = true) (h : LinkState.step o.toClientOption l le = some l') :
    ∃ rest, l'.log = l.log ++ rest ∧ ∀ x ∈ rest, Quiet (.obs none x) := by
  cases le with
  | send a addr =>
    rw [LinkState.step, LinkState.enqueue] at h
    split at h
    · cases h
    · cases h
      refine ⟨[.queued ⟨a, addr⟩], rfl, ?_⟩
      intro x hx
      cases List.mem_singleton.mp hx
      exact .inl ⟨_, rfl⟩
  | outClosed =>
    cases h
    exact ⟨[], (List.append_nil _).symm, by simp⟩
  | _ => cases hfree

theorem Starting.moved (hs : Starting o s) {le : LinkState.Event} {l : LinkState}
    (hfree : concurrent le = true ∨ s.todo = [])
    (h : LinkState.step o.toClientOption s.link le = some l) : Starting o (s.moved none l) := by
  refine ⟨hs.reported.moved l, ?_⟩
  rcases hfree with hfree | htodo
  · obtain ⟨rest, hrest, hquiet⟩ := quiet_of_concurrent hfree h
    refine hs.stage.quiet ?_
    intro e he
    rw [hrest, List.drop_left] at he
    obtain ⟨x, hx, rfl⟩ := List.mem_map.mp he
    exact hquiet x hx
  · show Stage o _ s.todo
    rw [htodo]
    exact .none (by simp)

/-- With room in the queue the message is queued. -/
theorem trace_tryEnqueue (host : Host) (a : Asdu) (addr : UInt8)
    (hroom : s.link.queue.length < o.maxSendQueueSize) :
    (s.tryEnqueue o host a addr).trace = s.trace ++ [.obs (some host) (.queued ⟨a, addr⟩)] ∧
      (s.tryEnqueue o host a addr).todo = s.todo := by
  rcases tryEnqueue_cases (o := o) (s := s) host a addr with ⟨-, hfull⟩ | ⟨h, -⟩
  · omega
  · rw [h]
    unfold RunLink.moved Primary.push
    rw [List.drop_left]
    exact ⟨rfl, rfl⟩

theorem reported_concat {clock : Option Host} {x : Obs UInt8 Asdu} (h : Reported o s.trace) :
    Reported o (s.trace ++ [.obs clock x]) := by
  refine h.append ?_
  intro e he a heq
  cases List.mem_singleton.mp he
  cases heq

theorem Starting.perform {task : Task} {rest : List Task} {host : Host} (hs : Starting o s)
    (htodo : s.todo = task :: rest) (hroom : Room o s (.next host)) :
    Starting o ({ s with todo := rest }.perform o host task) := by
  have hstage := hs.stage
  rw [htodo] at hstage
  cases hstage with
  -- a delivered ASDU: the calls made for it report no device
  | none h =>
    obtain ⟨raw, rfl⟩ := h task List.mem_cons_self
    refine ⟨hs.reported.append ?_, .none fun u hu => h u (List.mem_cons_of_mem _ hu)⟩
    intro e he a heq
    obtain ⟨c, hc, rfl⟩ := List.mem_map.mp he
    cases heq
    exact ne_onDeviceActive hc a rfl
  -- the time synchronization joins the queue, as there is room for it
  | @activated a h =>
    obtain ⟨htrace, hrest⟩ := trace_tryEnqueue
      (s := { s with todo := [.interrogate a, .deviceActive a] }) host
      (Asdu.timeSync a host.now host o.timeZone) a (hroom (by rw [htodo]; rfl))
    unfold RunLink.perform
    refine ⟨by rw [htrace]; exact reported_concat hs.reported, ?_⟩
    rw [htrace, hrest]
    exact .synced (h.concat ⟨host, rfl⟩)
  -- the interrogation joins it after that
  | @synced a h =>
    obtain ⟨htrace, hrest⟩ := trace_tryEnqueue (s := { s with todo := [.deviceActive a] }) host
      (Asdu.generalInterrogation a 0) a (hroom (by rw [htodo]; rfl))
    unfold RunLink.perform
    refine ⟨by rw [htrace]; exact reported_concat hs.reported, ?_⟩
    rw [htrace, hrest]
    exact .interrogated (h.concat ⟨host, rfl⟩)
  -- only now the device is reported, and what is due stands in the trace
  | @interrogated a h =>
    refine ⟨Trace.each_concat.mpr ⟨hs.reported, ?_⟩, .none fun u hu => absurd hu List.not_mem_nil⟩
    intro b hb
    cases hb
    exact h

/-- **A device is initialized before it is reported active.**  In every run in which the
queue has room for them, whatever other tasks queue meanwhile, when the handler is told
that a device is active its last reset was completed, its time synchronization was queued
with the time the host's clock showed at that step, and then its interrogation was queued,
and nothing stands between and after them but ASDUs that other tasks queued and a request
that was begun. -/
theorem start_up (hauto : o.autoInit = true) (h : (machine o).Reach (Room o) s)
    {past later : List Entry} {a : UInt8}
    (htrace : s.trace = past ++ .call (.onDeviceActive a) :: later) : Initialized o a past := by
  have hnew : Starting o (new o) :=
    ⟨Trace.each_nil, .none fun u hu => absurd hu List.not_mem_nil⟩
  have hs : Starting o s := by
    refine h.invariant (P := Starting o) hnew ?_
    intro u e v hu hroom hn
    rcases step_cases hn with ⟨f, now, -, -, rfl⟩ | ⟨le, l, -, -, hfree, hl, rfl⟩ |
      ⟨host, task, rest, rfl, htodo, rfl⟩
    · exact hu.received hauto f now
    · exact hu.moved hfree hl
    · exact hu.perform htodo hroom
  exact hs.reported past _ later htrace a rfl

/-- One device, initialized by the client. -/
def oneRelay : RunOption := { LinkState.oneDevice with autoInit := true, timeZone := .utc }

/-- The device is reset; while its start-up is under way an ASDU is queued for it. -/
def startOnce : List Event :=
  [.link (.tick 0), .link (.frame (LinkState.response Cs101.SecFc.RESP_STATUS) 1),
    .link (.tick 2), .link (.frame (LinkState.response Cs101.SecFc.CONF_ACK) 3),
    .next noon, .link (.send LinkState.interrogation 1), .next noon, .next noon]

theorem start_up_oneRelay :
    ∃ s past, (machine oneRelay).runIf (Room oneRelay) (new oneRelay) startOnce = some s ∧
      s.trace = past ++ [.call (.onDeviceActive 1)] ∧ Initialized oneRelay 1 past := by
  have hrun : (machine oneRelay).runIf (Room oneRelay) (new oneRelay) startOnce = some _ := rfl
  exact ⟨_, _, hrun, rfl, start_up rfl (Machine.reach_of_runIf .init hrun) rfl⟩

end RunLink

end Cs103
end Iec60870
