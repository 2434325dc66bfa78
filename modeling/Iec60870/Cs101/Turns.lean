import Iec60870.Cs101.Holding
import Iec60870.Cs101.Ring
import Iec60870.Lib.RoundRobin

/-!
# The turns of the stations

A tick that finds the line idle and nothing to send serves one station: the one at
the cursor, which moves on.  Nothing else moves it, so a multi-drop line is served
round robin, whatever the stations answer and the application asks for.

## Main definitions

* `Primary.turn` — the place a tick serves.
* `LinkState.polled` — the stations the ticks of a run serve, in order.
* `LinkState.asks` — what a turn asks a station for.

## Main results

* `LinkState.roundRobin` — the ticks of a polling primary go round the ring.
* `LinkState.polled_in_turn` — **every station has its turn.**
-/

namespace Iec60870
namespace Cs101

open PrimFc

namespace Primary

variable {α A : Type} [DecidableEq α] {prof : Profile α A} {s : Primary α A}

/-- The place a tick serves: that of the cursor, when the line is idle and no user data
was sent. -/
def turn (prof : Profile α A) (s : Primary α A) (now : ℕ) : Option ℕ :=
  if s.lastSent.isSome ∨ (s.trySendQueued prof now).1 then none else some s.pollIdx

/-- The stations at the places served, in the order of the turns. -/
def stations (order : List α) (places : List ℕ) : List α := places.filterMap (order[·]?)

omit [DecidableEq α] in
/-- Round the ring, the stations come in the order they were configured in. -/
theorem getElem?_stations {order : List α} {k m : ℕ} (hpos : 0 < order.length) (hk : k < m) :
    (stations order (Cyclic.residues order.length 0 m))[k]? = order[k % order.length]? := by
  have hmap : stations order (Cyclic.residues order.length 0 m) =
      (Cyclic.residues order.length 0 m).map fun i => order.getD i (order[0]) := by
    unfold stations
    rw [← List.filterMap_eq_map]
    refine List.filterMap_congr fun i hi => ?_
    obtain ⟨j, -, rfl⟩ := List.mem_map.mp hi
    have hlt : j % order.length < order.length := Nat.mod_lt _ hpos
    rw [List.getElem?_eq_getElem hlt]
    show _ = some (order.getD _ _)
    rw [List.getD_eq_getElem _ _ hlt]
  have hlt : k % order.length < order.length := Nat.mod_lt _ hpos
  have hlen : k < (Cyclic.residues order.length 0 m).length := by
    rw [Cyclic.length_residues]
    omega
  rw [hmap, List.getElem?_map, List.getElem?_eq_getElem hlen, Cyclic.getElem_residues, Nat.zero_add,
    Option.map_some, List.getD_eq_getElem _ _ hlt, List.getElem?_eq_getElem hlt]

omit [DecidableEq α] in
theorem length_stations {order : List α} {m : ℕ} (hpos : 0 < order.length) :
    (stations order (Cyclic.residues order.length 0 m)).length = m := by
  have hsome : ∀ i ∈ Cyclic.residues order.length 0 m, (order[i]?).isSome := by
    intro i hi
    obtain ⟨j, -, rfl⟩ := List.mem_map.mp hi
    rw [List.getElem?_eq_getElem (Nat.mod_lt _ hpos)]
    rfl
  rw [stations, List.length_filterMap_eq_countP, List.countP_eq_length.mpr hsome,
    Cyclic.length_residues, Nat.sub_zero]

omit [DecidableEq α] in
/-- Any `order.length` turns in a row serve every station. -/
theorem mem_window_stations {order : List α} {a : α} {j m : ℕ} (ha : a ∈ order)
    (hjm : j + order.length ≤ m) :
    a ∈ ((stations order (Cyclic.residues order.length 0 m)).drop j).take order.length := by
  have hpos : 0 < order.length := List.length_pos_of_mem ha
  obtain ⟨i, hi, rfl⟩ := List.mem_iff_getElem.mp ha
  obtain ⟨k, hk, hget⟩ := List.mem_iff_getElem.mp (Cyclic.mem_window hi hjm)
  have hk' : k < order.length := by
    rw [List.length_take, List.length_drop, Cyclic.length_residues] at hk
    omega
  rw [List.getElem_take, List.getElem_drop, Cyclic.getElem_residues, Nat.zero_add] at hget
  refine List.mem_iff_getElem?.mpr ⟨k, ?_⟩
  rw [List.getElem?_take_of_lt hk', List.getElem?_drop, getElem?_stations hpos (by omega), hget,
    List.getElem?_eq_getElem hi]

omit [DecidableEq α] in
/-- Turns whose places go round the ring serve the stations in the configured order,
and as many of them in a row as there are stations serve every one. -/
theorem in_order_of_places {order : List α} {places : List ℕ} (hpos : 0 < order.length)
    (h : places = Cyclic.residues order.length 0 places.length) :
    (∀ k < (stations order places).length, (stations order places)[k]? = order[k % order.length]?) ∧
      ∀ j, j + order.length ≤ (stations order places).length → ∀ a ∈ order,
        a ∈ ((stations order places).drop j).take order.length := by
  have hlen : (stations order places).length = places.length := by
    rw [h, length_stations hpos, Cyclic.length_residues, Nat.sub_zero]
  rw [hlen, h]
  exact ⟨fun k hk => getElem?_stations hpos (by rwa [Cyclic.length_residues, Nat.sub_zero] at hk),
    fun j hj a ha => mem_window_stations ha (by rwa [Cyclic.length_residues, Nat.sub_zero] at hj)⟩

/-- Sending user data, or not, changes nothing about the stations. -/
theorem secs_trySendQueued (now : ℕ) : (s.trySendQueued prof now).2.secs = s.secs := by
  have htransmit : ∀ (m : Primary α A) (p : Pending α), (m.transmit prof p now).2.secs = m.secs := by
    intro m p
    rcases @transmit_cases _ _ prof m p now with h | ⟨raw, -, -, h⟩
    · rw [h]
    · rw [h]
      rfl
  unfold trySendQueued
  rcases s.takeQueued s.queue with ⟨_ | out, queue⟩
  · rfl
  · dsimp only
    cases prof.marshal out.asdu with
    | error e => rfl
    | ok raw => exact htransmit _ _

omit [DecidableEq α] in
/-- A request to a station is written while the channel is open: a fixed-length frame
with the function asked for, the station's frame count bit and its link address. -/
theorem sendPrimConfirmed_written (hopen : s.outOpen = true) (hsize : prof.addrSize ≤ 2)
    (addr : α) (func : UInt8) (fcv : Bool) (now : ℕ) :
    ∃ p raw, p.addr = addr ∧
      p.frame = .fixed (.primary func fcv (s.secs addr).fcb prof.dir) (prof.linkAddr addr) ∧
      p.frame.marshal prof.addrSize = .ok raw ∧
      (s.sendPrimConfirmed prof addr func fcv now).2.log = s.log ++ [.began p raw] := by
  have hok := Frame.marshal_fixed hsize (s.request prof addr func fcv).ctrl (prof.linkAddr addr)
  unfold sendPrimConfirmed
  rcases @transmit_cases _ _ prof s (s.request prof addr func fcv) now with h | ⟨raw, -, hraw, h⟩
  · -- with the channel open nothing keeps the frame from being written
    exfalso
    have hwrite : ∃ raw, s.write prof (s.request prof addr func fcv).frame = some raw := by
      rcases hraw : (Frame.fixed (s.request prof addr func fcv).ctrl
          (prof.linkAddr addr)).marshal prof.addrSize with e | raw
      · rw [hraw] at hok
        cases hok
      · exact ⟨raw, write_eq_some.mpr ⟨hopen, hraw⟩⟩
    obtain ⟨raw, hraw⟩ := hwrite
    have hfst := congrArg Prod.fst h
    rw [transmit, hraw] at hfst
    cases hfst
  · rw [h]
    exact ⟨s.request prof addr func fcv, raw, rfl, rfl, hraw, rfl⟩

end Primary

/-! ### The 101 primary -/

namespace LinkState

open Primary

variable {o : ClientOption} {s t : LinkState}

/-- The place an event serves: only a tick serves one, and only when it finds the
line free. -/
def turnAt (o : ClientOption) (s : LinkState) : Event → Option ℕ
  | .tick now => s.toPrimary.turn o.profile now
  | _ => none

/-- The stations the ticks of a run serve, in order. -/
def polled (o : ClientOption) (es : List Event) : List UInt16 :=
  stations o.addresses ((machine o).outputs (turnAt o) (new o) es)

/-- What a turn asks a station for in its phase: its link status, its reset, or its
class 1 data before its class 2 data. -/
def asks (sec : Secondary) : UInt8 × Bool :=
  match sec.phase with
  | .status => (REQ_STATUS, false)
  | .reset => (RESET_LINK, false)
  | .active => if sec.wantClass1 then (REQ_DATA1, true) else (REQ_DATA2, true)

/-- The loop of a polling primary serves the station at the cursor. -/
theorem poll_serves (hbal : o.config.isBalanced = false) {addr : UInt16} (now : ℕ)
    (hget : s.order[s.pollIdx]? = some addr) {n : ℕ} (hn : 0 < n) :
    s.poll o now n = { s with pollIdx := (s.pollIdx + 1) % s.order.length }.sendPrimConfirmed o
      addr (asks (s.secs addr)).1 (asks (s.secs addr)).2 now := by
  obtain ⟨n, rfl⟩ := Nat.exists_eq_succ_of_ne_zero hn.ne'
  rw [poll, hget]
  unfold asks
  dsimp only
  cases (s.secs addr).phase with
  | status => rfl
  | reset => rfl
  | active =>
    -- the line is unbalanced, so an active station is polled
    dsimp only
    rw [if_neg (by rw [hbal]; exact Bool.false_ne_true)]
    cases (s.secs addr).wantClass1 <;> rfl

/-- A tick of a polling primary serves one station, or sends user data. -/
theorem tick_cases (hbal : o.config.isBalanced = false) (now : ℕ)
    (hidx : s.pollIdx < s.order.length) :
    (s.turn o.profile now = none ∧ (s.tick o now).pollIdx = s.pollIdx) ∨
      (s.turn o.profile now = some s.pollIdx ∧
        (s.tick o now).pollIdx = (s.pollIdx + 1) % s.order.length ∧
        ∃ m : LinkState, m.log = s.log ∧ m.outOpen = s.outOpen ∧ m.secs = s.secs ∧
          s.tick o now = m.sendPrimConfirmed o s.order[s.pollIdx]
            (asks (s.secs s.order[s.pollIdx])).1 (asks (s.secs s.order[s.pollIdx])).2 now) := by
  have hring := @ring_trySendQueued _ _ o.profile s.toPrimary _ now
  have hnoted := @launch_trySendQueued _ _ o.profile s.toPrimary _ now
  have hsecs := @secs_trySendQueued _ _ _ o.profile s.toPrimary now
  unfold tick turn
  by_cases hidle : s.lastSent.isSome = true
  · rw [if_pos hidle, if_pos (.inl hidle)]
    exact .inl ⟨rfl, rfl⟩
  · rw [if_neg hidle]
    rcases hr : s.trySendQueued o.profile now with ⟨_ | _, p⟩
    · -- nothing was sent: the station at the cursor is served
      rw [hr] at hring hnoted hsecs
      have horder : p.order = s.order := congrArg Prod.fst hring
      have hpoll : p.pollIdx = s.pollIdx := congrArg Prod.snd hring
      have hp : Noted s.toPrimary p := (hnoted (Option.not_isSome_iff_eq_none.mp hidle)).2 rfl
      have hget : p.order[p.pollIdx]? = some s.order[s.pollIdx] := by
        rw [horder, hpoll]
        exact List.getElem?_eq_getElem hidx
      have hlen : 0 < p.order.length := by
        rw [horder]
        exact Nat.zero_lt_of_lt hidx
      -- every station of a polling line is served when its turn comes, so the loop ends at once
      have hserve := poll_serves (s := { s with toPrimary := p }) hbal now hget hlen
      have hsent := @ring_transmit _ _ o.profile
        { p with pollIdx := (p.pollIdx + 1) % p.order.length }
        (Primary.request o.profile { p with pollIdx := (p.pollIdx + 1) % p.order.length }
          s.order[s.pollIdx] (asks (p.secs s.order[s.pollIdx])).1
            (asks (p.secs s.order[s.pollIdx])).2) now
      have hplace : (({ s with toPrimary := p } : LinkState).poll o now p.order.length).pollIdx =
          (s.pollIdx + 1) % s.order.length := by
        rw [hserve]
        refine (congrArg Prod.snd hsent).trans ?_
        show (p.pollIdx + 1) % p.order.length = _
        rw [hpoll, horder]
      dsimp only
      rw [if_neg (fun h => h.elim hidle Bool.false_ne_true), if_neg Bool.false_ne_true]
      exact .inr ⟨rfl, hplace, { s with toPrimary :=
        { p with pollIdx := (p.pollIdx + 1) % p.order.length } }, hp.log, hp.outOpen, hsecs,
        hsecs ▸ hserve⟩
    · -- user data was sent
      rw [hr] at hring
      exact .inl ⟨if_pos (.inr rfl), congrArg Prod.snd hring⟩

/-- Nothing but a tick moves the cursor. -/
theorem pollIdx_of_step {e : Event} (he : ∀ now, e ≠ .tick now) (h : s.step o e = some t) :
    t.pollIdx = s.pollIdx := by
  have hkeep : ring t.toPrimary = ring s.toPrimary → t.pollIdx = s.pollIdx :=
    fun hring => congrArg Prod.snd hring
  cases e with
  | tick now => exact absurd rfl (he now)
  | frame f now =>
    cases h
    exact hkeep (ring_handleFrame f now)
  | linkRequest func now =>
    cases h
    exact hkeep (ring_handleLinkRequest func now)
  | t1 now => exact hkeep (ring_onT1Timeout _ (onT1Timeout_of_step h))
  | t3 now =>
    cases h
    exact hkeep (ring_onT3Timeout now)
  | send asdu addr =>
    rw [step, sendTo] at h
    split at h
    · cases h
    · cases h
      rfl
  | outClosed =>
    cases h
    rfl

/-- **The ticks of a polling primary go round the ring.** -/
theorem roundRobin (hbal : o.config.isBalanced = false) :
    (machine o).RoundRobin o.addresses.length (·.pollIdx) (turnAt o) where
  start := rfl
  step := by
    intro s e t hs h
    obtain ⟨horder, hidx⟩ := inRing_of_reach hs
    by_cases he : ∃ now, e = .tick now
    · obtain ⟨now, rfl⟩ := he
      cases h
      rcases tick_cases hbal now hidx with hnone | ⟨hturn, hnext, -⟩
      · exact .inl hnone
      · exact .inr ⟨hturn, by rw [hnext, horder]⟩
    · push Not at he
      have hnone : turnAt o s e = none := by
        cases e with
        | tick now => exact absurd rfl (he now)
        | _ => rfl
      exact .inl ⟨hnone, pollIdx_of_step he h⟩

/-- **Every station has its turn.**  Whatever happens on the line of a polling primary,
its ticks serve the stations in the configured order, round and round; as many turns as
there are stations, wherever they begin, serve each of them; and while the line is open
a turn writes to its station what is due in its phase: the octets handed over are those of
the fixed-length frame with that function, the station's frame count bit and its link
address. -/
theorem polled_in_turn (hbal : o.config.isBalanced = false) (hsize : o.config.linkAddrSize ≤ 2)
    {es : List Event} (hrun : (machine o).run (new o) es = some t) :
    (∀ k < (polled o es).length, (polled o es)[k]? = o.addresses[k % o.addresses.length]?) ∧
      (∀ j, j + o.addresses.length ≤ (polled o es).length → ∀ a ∈ o.addresses,
        a ∈ ((polled o es).drop j).take o.addresses.length) ∧
      ∀ now i, turnAt o t (.tick now) = some i → t.outOpen = true →
        ∃ a p raw, o.addresses[i]? = some a ∧ p.addr = a ∧
          p.frame = .fixed (.primary (asks (t.secs a)).1 (asks (t.secs a)).2 (t.secs a).fcb false)
            a ∧
          p.frame.marshal o.config.linkAddrSize = .ok raw ∧
          (t.tick o now).log = t.log ++ [.began p raw] := by
  -- the stations are what stands at the places, and the places go round
  obtain ⟨hround, hwindow⟩ := in_order_of_places addresses_length_pos
    ((roundRobin hbal).outputs_eq hrun)
  refine ⟨hround, hwindow, fun now i hturn hopen => ?_⟩
  -- one tick on: it takes its turn, and what it transmits is written
  obtain ⟨horder, hidx⟩ := inRing_of_reach (Machine.reach_of_run .init hrun)
  rcases tick_cases hbal now hidx with ⟨hnone, -⟩ | ⟨hturn', -, m, hlog, hout, hsecs, htick⟩
  · rw [show turnAt o t (.tick now) = none from hnone] at hturn
    cases hturn
  · rw [show turnAt o t (.tick now) = some t.pollIdx from hturn'] at hturn
    cases hturn
    obtain ⟨p, raw, haddr, hframe, hraw, hbegan⟩ :=
      @sendPrimConfirmed_written _ _ o.profile m.toPrimary (hout.trans hopen) hsize
        t.order[t.pollIdx] (asks (t.secs t.order[t.pollIdx])).1
        (asks (t.secs t.order[t.pollIdx])).2 now
    have hdir : o.profile.dir = false := hbal
    refine ⟨t.order[t.pollIdx], p, raw, ?_, haddr, ?_, hraw, ?_⟩
    · rw [← horder]
      exact List.getElem?_eq_getElem hidx
    · rw [hframe, hsecs, hdir]
      rfl
    · rw [htick, ← hlog]
      exact hbegan

/-- Three stations, polled. -/
def threeStations : ClientOption := ⟨.default, [5, 6, 7]⟩

/-- A tick that finds a transaction outstanding serves nobody; two stations refuse, and
the next turn asks the third for its status. -/
theorem polled_in_turn_threeStations :
    ∃ t p, (machine threeStations).run (new threeStations)
        [.tick 0, .tick 10, .frame (.fixed (.secondary SecFc.RESP_LINK_NF false false) 5) 20,
          .tick 30, .frame (.fixed (.secondary SecFc.RESP_LINK_NF false false) 6) 40] = some t ∧
      polled threeStations
        [.tick 0, .tick 10, .frame (.fixed (.secondary SecFc.RESP_LINK_NF false false) 5) 20,
          .tick 30, .frame (.fixed (.secondary SecFc.RESP_LINK_NF false false) 6) 40] = [5, 6] ∧
      (∀ k < 2, ([5, 6] : List UInt16)[k]? = threeStations.addresses[k % 3]?) ∧
      (t.tick threeStations 50).log = t.log ++ [.began p [0x10, 0x49, 7, 0x50, 0x16]] := by
  have hrun : (machine threeStations).run (new threeStations)
      [.tick 0, .tick 10, .frame (.fixed (.secondary SecFc.RESP_LINK_NF false false) 5) 20,
        .tick 30, .frame (.fixed (.secondary SecFc.RESP_LINK_NF false false) 6) 40] =
          some _ := rfl
  obtain ⟨hround, -, hturn⟩ := polled_in_turn rfl (by decide) hrun
  obtain ⟨a, p, raw, ha, -, hframe, hraw, hlog⟩ := hturn 50 2 rfl rfl
  cases ha
  rw [hframe] at hraw
  cases hraw
  exact ⟨_, p, hrun, rfl, hround, hlog⟩

end LinkState

end Cs101
end Iec60870
