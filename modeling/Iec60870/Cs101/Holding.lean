import Iec60870.Cs101.Steps

/-!
# Flow control

A secondary station whose buffers are full says so with DFC in any of its frames.
From then on the primary holds back the user data for it, in order and complete,
until the station has said something else or is given up.

## Main definitions

* `Primary.Holds` — what a primary does for a station that has nothing to say.
* `LinkState.hears` — the event is a frame of that station.

## Main results

* `LinkState.holds_of_step` — every step holds back what is queued for such a station.
* `LinkState.user_data_held` — **so does every run.**
-/

namespace Iec60870
namespace Cs101

open PrimFc

namespace Primary

variable {α A : Type} [DecidableEq α] {prof : Profile α A} {s t m : Primary α A} {a : α}

/-- No user data is begun for the station `a`, nothing queued for it is taken out,
and its DFC stays as it was. -/
def Holds (prof : Profile α A) (a : α) (s t : Primary α A) : Prop :=
  ∃ rest, t.log = s.log ++ rest ∧ t.order = s.order ∧
    (t.secs a).busy = (s.secs a).busy ∧ sentTo a rest = [] ∧
      waitingFor prof a t.queue = waitingFor prof a s.queue ++ queuedFor prof a rest

theorem Holds.refl (s : Primary α A) : Holds prof a s s :=
  ⟨[], (List.append_nil _).symm, rfl, rfl, rfl, (List.append_nil _).symm⟩

theorem Holds.trans (h : Holds prof a s m) (h' : Holds prof a m t) : Holds prof a s t := by
  obtain ⟨r, hlog, horder, hbusy, hsent, hwait⟩ := h
  obtain ⟨r', hlog', horder', hbusy', hsent', hwait'⟩ := h'
  refine ⟨r ++ r', ?_, horder'.trans horder, hbusy'.trans hbusy, ?_, ?_⟩
  · rw [hlog', hlog, List.append_assoc]
  · show List.filterMap _ _ = _
    rw [List.filterMap_append]
    exact List.append_eq_nil_iff.mpr ⟨hsent, hsent'⟩
  · rw [hwait', hwait, List.append_assoc]
    exact congrArg _ List.filterMap_append.symm

/-- What leaves the queue alone, and the DFC of the station. -/
theorem Holds.of_entries (rest : List (Obs α A)) (hlog : t.log = s.log ++ rest)
    (horder : t.order = s.order) (hbusy : (t.secs a).busy = (s.secs a).busy)
    (hqueue : t.queue = s.queue) (hsent : sentTo a rest = []) (hqueued : queuedFor prof a rest = []) :
    Holds prof a s t :=
  ⟨rest, hlog, horder, hbusy, hsent, by rw [hqueue, hqueued, List.append_nil]⟩

theorem Holds.of_same (hlog : t.log = s.log) (horder : t.order = s.order)
    (hbusy : (t.secs a).busy = (s.secs a).busy) (hqueue : t.queue = s.queue) :
    Holds prof a s t :=
  .of_entries [] (by rw [hlog, List.append_nil]) horder hbusy hqueue rfl rfl

/-- A station is changed in something else than its DFC. -/
theorem holds_modify (addr : α) {f : Secondary → Secondary}
    (hf : addr = a → (f (s.secs addr)).busy = (s.secs addr).busy) :
    Holds prof a s (s.modify addr f) := by
  refine .of_same rfl rfl ?_ rfl
  by_cases ha : a = addr
  · subst ha
    simpa [modify] using hf rfl
  · simp [modify, Function.update_of_ne ha]

/-! ### Beginning a transaction -/

/-- A frame is written that carries no user data to the station. -/
theorem holds_transmit {p : Pending α} (hp : p.addr = a → p.payload = none) (now : ℕ) :
    Holds prof a s (s.transmit prof p now).2 := by
  rcases @transmit_cases _ _ prof s p now with h | ⟨raw, -, -, h⟩
  · rw [h]
    exact .refl s
  · rw [h]
    have hsent : sentTo a [Obs.began (A := A) p raw] = [] := by
      by_cases ha : p.addr = a
      · simp [sentTo, Obs.firstData, ha, hp ha]
      · simp [sentTo, Obs.firstData, ha]
    exact .of_entries _ rfl rfl rfl rfl hsent rfl

theorem holds_sendPrimConfirmed {addr : α} {func : UInt8} {fcv : Bool} (now : ℕ)
    (hfunc : func ≠ USER_DATA_CONF) :
    Holds prof a s (s.sendPrimConfirmed prof addr func fcv now).2 :=
  holds_transmit (p := s.request prof addr func fcv) (fun _ => if_neg hfunc) now

/-- Nothing is taken out of the queue for a station that is held. -/
theorem waitingFor_takeQueued (hbusy : (s.secs a).busy = true) (hknown : a ∈ s.order)
    (queue : List (Outgoing α A)) :
    waitingFor prof a (s.takeQueued queue).2 = waitingFor prof a queue := by
  have hfilter : (s.takeQueued queue).2.filter (·.addr = a) = queue.filter (·.addr = a) := by
    induction queue with
    | nil => rfl
    | cons out queue ih =>
      rw [takeQueued]
      split
      · next hunknown =>
        have hne : out.addr ≠ a := fun he => hunknown (he ▸ hknown)
        rw [ih, List.filter_cons_of_neg (by simpa using hne)]
      · split
        · next hready =>
          have hne : out.addr ≠ a := by
            rintro rfl
            rw [hready.2] at hbusy
            cases hbusy
          rw [List.filter_cons_of_neg (by simpa using hne)]
        · dsimp only
          rw [List.filter_cons, List.filter_cons, ih]
  unfold waitingFor
  rw [hfilter]

/-- User data goes to another station. -/
theorem holds_trySendQueued (hbusy : (s.secs a).busy = true) (hknown : a ∈ s.order) (now : ℕ) :
    Holds prof a s (s.trySendQueued prof now).2 := by
  have hwait : waitingFor prof a (s.takeQueued s.queue).2 = waitingFor prof a s.queue :=
    waitingFor_takeQueued hbusy hknown s.queue
  have htake : ∀ {queue}, waitingFor prof a queue = waitingFor prof a s.queue →
      Holds prof a s { s with queue } := fun hq =>
    ⟨[], (List.append_nil _).symm, rfl, rfl, rfl, hq.trans (List.append_nil _).symm⟩
  unfold trySendQueued
  rcases hq : s.takeQueued s.queue with ⟨_ | out, queue⟩
  · rw [hq] at hwait
    exact htake hwait
  · rw [hq] at hwait
    obtain ⟨hready, -⟩ := takeQueued_eq_some hq
    have hne : out.addr ≠ a := by
      rintro rfl
      rw [hready.2.2] at hbusy
      cases hbusy
    dsimp only
    cases prof.marshal out.asdu with
    | error e => exact htake hwait
    | ok raw => exact (htake hwait).trans (holds_transmit (fun h => absurd h hne) now)

/-! ### Ending a transaction -/

omit [DecidableEq α] in
theorem busy_confirmStation (ctrl : ControlField) (sec : Secondary) :
    (confirmStation prof ctrl sec).busy = sec.busy := by
  unfold confirmStation
  dsimp only
  split_ifs <;> rfl

theorem holds_complete (p : Pending α) : Holds prof a s (s.complete prof p) := by
  have hmodify : Holds prof a s (s.modify p.addr (confirmStation prof p.ctrl)) :=
    holds_modify p.addr fun _ => busy_confirmStation _ _
  obtain ⟨-, -, -, hbusy, -, -⟩ := hmodify
  exact .of_entries [.completed p] rfl rfl hbusy rfl rfl rfl

theorem holds_confirmPositive (sender : Option α) :
    Holds prof a s (s.confirmPositive prof sender).2 := by
  unfold confirmPositive
  cases s.lastSent with
  | none => exact .refl s
  | some p =>
    dsimp only
    split
    · exact .refl s
    · exact holds_complete p

theorem holds_confirm (sender : Option α) : Holds prof a s (s.confirm prof sender).2 := by
  have h : Holds prof a s (s.confirmPositive prof sender).2 := holds_confirmPositive sender
  unfold confirm
  rcases hp : s.confirmPositive prof sender with ⟨_ | c, q⟩ <;> rw [hp] at h <;> exact h

theorem holds_confirmData (addr : α) (raw : Octets) :
    Holds prof a s (s.confirmData prof addr raw).2 := by
  have h : Holds prof a s (s.confirmPositive prof (some addr)).2 :=
    holds_confirmPositive (some addr)
  unfold confirmData
  rcases hp : s.confirmPositive prof (some addr) with ⟨_ | c, q⟩ <;> rw [hp] at h
  · exact h
  · dsimp only
    split
    · exact h.trans (.of_entries [.delivered addr raw] rfl rfl rfl rfl rfl rfl)
    · exact h

/-- The outstanding transaction of another station ends without a confirmation. -/
theorem holds_abort {p : Pending α} (hne : p.addr ≠ a) {o : Obs α A} (hsent : sentTo a [o] = [])
    (hqueued : queuedFor prof a [o] = []) : Holds prof a s (s.abort p o) := by
  have hmodify : Holds prof a s (s.modify p.addr restartStation) :=
    holds_modify p.addr fun h => absurd h hne
  obtain ⟨-, -, -, hbusy, -, -⟩ := hmodify
  exact .of_entries [o] rfl rfl hbusy rfl hsent hqueued

theorem holds_failTransaction {addr : α} (hne : addr ≠ a) :
    Holds prof a s (s.failTransaction addr) := by
  unfold failTransaction
  cases s.lastSent with
  | none => exact .refl s
  | some p =>
    dsimp only
    split
    · exact .refl s
    · next hp =>
      have hown : p.addr ≠ a := by rwa [not_not.mp hp]
      exact holds_abort hown rfl rfl

theorem holds_answer {frame : Frame} {ctrl : ControlField} {addr : α} (hne : addr ≠ a) :
    Holds prof a s (s.answer prof frame ctrl addr).2 := by
  cases frame with
  | singleCharAck => exact .refl s
  | fixed =>
    simp only [answer]
    split_ifs
    · exact holds_confirm _
    · exact .refl s
    · exact holds_confirm _
    · exact holds_confirm _
    · exact holds_failTransaction hne
    · exact .refl s
  | variable' _ _ raw =>
    simp only [answer]
    split_ifs
    · exact holds_confirmData _ _
    · exact holds_confirm _
    · exact .refl s

theorem holds_accessDemand (ctrl : ControlField) (addr : α) (now : ℕ) :
    Holds prof a s (s.accessDemand prof ctrl addr now) := by
  have hmodify : Holds prof a s (s.modify addr fun sec => { sec with wantClass1 := true }) :=
    holds_modify addr fun _ => rfl
  unfold accessDemand
  dsimp only
  split_ifs
  · exact hmodify.trans (holds_sendPrimConfirmed now (by decide))
  · exact hmodify
  · exact .refl s

/-- A frame of another station. -/
theorem holds_handleSecondary {frame : Frame} {ctrl : ControlField} {addr : α} (hne : addr ≠ a)
    (now : ℕ) : Holds prof a s (s.handleSecondary prof frame ctrl addr now).2 := by
  have hnote : Holds prof a s (s.modify addr fun sec => { sec with busy := ctrl.dfc }) :=
    holds_modify addr fun h => absurd h hne
  exact hnote.trans ((holds_answer hne).trans (holds_accessDemand _ _ _))

/-- A frame with DFC holds its station, unless it refuses the outstanding transaction. -/
theorem busy_handleSecondary {frame : Frame} {ctrl : ControlField} (now : ℕ)
    (hctrl : frame.control = some ctrl) (hprm : ctrl.prm = false) (hdfc : ctrl.dfc = true)
    (hrefusal : frame.refusal = false) :
    ((s.handleSecondary prof frame ctrl a now).2.secs a).busy = true := by
  -- DFC is noted first, and no answer takes it back
  have hnoted : ((s.modify a fun sec => { sec with busy := ctrl.dfc }).secs a).busy = true := by
    simpa [modify] using hdfc
  have hanswer (m : Primary α A) : Holds prof a m (m.answer prof frame ctrl a).2 := by
    cases frame with
    | singleCharAck => exact .refl _
    | fixed c b =>
      cases hctrl
      -- a frame that is no refusal confirms the outstanding transaction or leaves it alone
      have hrefused : ¬(ctrl.func = SecFc.RESP_LINK_NF ∨ ctrl.func = SecFc.RESP_LINK_NI) := by
        simpa [Frame.refusal, hprm] using hrefusal
      simp only [answer, if_neg hrefused]
      split_ifs
      · exact holds_confirm _
      · exact .refl _
      · exact holds_confirm _
      · exact holds_confirm _
      · exact .refl _
    | variable' c b raw =>
      simp only [answer]
      split_ifs
      · exact holds_confirmData _ _
      · exact holds_confirm _
      · exact .refl _
  obtain ⟨-, -, -, hbusy, -⟩ := (hanswer _).trans (holds_accessDemand ctrl a now)
  exact hbusy.trans hnoted

/-- An expired t₁: either the station is given up, or it is held. -/
theorem holds_onT1Timeout {now : ℕ} (h : s.onT1Timeout prof now = .ok t) :
    (∃ p, t.log = s.log ++ [.gaveUp p] ∧ p.addr = a ∧ t.order = s.order) ∨
      Holds prof a s t := by
  rcases onT1Timeout_cases h with ⟨-, rfl⟩ | ⟨p, -, ⟨raw, -, -, -, rfl⟩ | ⟨-, -, rfl⟩⟩
  · exact .inr (.of_same rfl rfl rfl rfl)
  · exact .inr (.of_entries [.repeated p raw] rfl rfl rfl rfl rfl rfl)
  · by_cases hp : p.addr = a
    · exact .inl ⟨p, rfl, hp, rfl⟩
    · exact .inr (holds_abort hp rfl rfl)

/-! ### The application -/

theorem holds_askReset (addr : α) : Holds prof a s (s.askReset addr) := by
  have hmodify : Holds prof a s (s.modify addr fun sec => { sec with phase := .reset }) :=
    holds_modify addr fun _ => rfl
  obtain ⟨-, -, -, hbusy, -, -⟩ := hmodify
  exact .of_entries [.resetAsked addr] rfl rfl hbusy rfl rfl rfl

/-- What the application queues for the station comes last. -/
theorem holds_push (out : Outgoing α A) : Holds prof a s (s.push out) := by
  refine ⟨[.queued out], rfl, rfl, rfl, rfl, ?_⟩
  unfold waitingFor queuedFor
  show ((s.queue ++ [out]).filter _).filterMap _ = _
  rw [List.filter_append, List.filterMap_append]
  congr 1
  by_cases ha : out.addr = a
  · cases hraw : (prof.marshal out.asdu).toOption <;> simp [Obs.queuedData, ha, hraw]
  · simp [Obs.queuedData, ha]

/-- The history only grows, and the stations are always the same. -/
theorem Act.grows (h : Act prof s t) : (∃ rest, t.log = s.log ++ rest) ∧ t.order = s.order := by
  cases h with
  | note h => exact ⟨⟨[], by rw [h.log, List.append_nil]⟩, h.order⟩
  | complete => exact ⟨⟨_, List.append_assoc _ _ _⟩, rfl⟩
  | disarm => exact ⟨⟨[], (List.append_nil _).symm⟩, rfl⟩
  | close => exact ⟨⟨[], (List.append_nil _).symm⟩, rfl⟩
  | _ => exact ⟨⟨_, rfl⟩, rfl⟩

theorem grows_of_acts (h : Acts prof s t) :
    (∃ rest, t.log = s.log ++ rest) ∧ t.order = s.order := by
  induction h with
  | refl => exact ⟨⟨[], (List.append_nil _).symm⟩, rfl⟩
  | tail _ hact ih =>
    obtain ⟨⟨rest, hlog⟩, horder⟩ := ih
    obtain ⟨⟨last, hlast⟩, hlast'⟩ := hact.grows
    exact ⟨⟨rest ++ last, by rw [hlast, hlog, List.append_assoc]⟩, hlast'.trans horder⟩

/-! ### Runs -/

/-- The entries tell of the station `a` being given up. -/
def GivenUp (a : α) (rest : List (Obs α A)) : Prop := ∃ p, .gaveUp p ∈ rest ∧ p.addr = a

/-- The station `a` was held back from `s` to `t`: no user data was begun for it before
it was given up, and unless it was given up, what was queued for it is still there, in
order, followed by what has been queued since. -/
def HeldBack (prof : Profile α A) (a : α) (s t : Primary α A) : Prop :=
  ∃ rest, t.log = s.log ++ rest ∧
    Trace.Each (fun past x => GivenUp a past ∨ Obs.firstData a x = none) rest ∧
    (GivenUp a rest ∨
      ((t.secs a).busy = true ∧ a ∈ t.order) ∧
        waitingFor prof a t.queue = waitingFor prof a s.queue ++ queuedFor prof a rest)

theorem heldBack_refl (hbusy : (s.secs a).busy = true) (hknown : a ∈ s.order) :
    HeldBack prof a s s :=
  ⟨[], (List.append_nil _).symm, Trace.each_nil,
    .inr ⟨⟨hbusy, hknown⟩, (List.append_nil _).symm⟩⟩

omit [DecidableEq α] in
theorem GivenUp.append {rest : List (Obs α A)} (h : GivenUp a rest) (last : List (Obs α A)) :
    GivenUp a (rest ++ last) := by
  obtain ⟨p, hp, ha⟩ := h
  exact ⟨p, List.mem_append_left _ hp, ha⟩

/-- Once it was given up the station may be sent anything. -/
theorem each_of_givenUp {rest : List (Obs α A)}
    (h : Trace.Each (fun past x => GivenUp a past ∨ Obs.firstData a x = none) rest)
    (hup : GivenUp a rest) (last : List (Obs α A)) :
    Trace.Each (fun past x => GivenUp a past ∨ Obs.firstData a x = none) (rest ++ last) := by
  induction last using List.reverseRecOn with
  | nil => rwa [List.append_nil]
  | append_singleton last x ih =>
    rw [← List.append_assoc]
    exact Trace.each_concat.mpr ⟨ih, .inl (hup.append last)⟩

/-- One step more. -/
theorem HeldBack.step (h : HeldBack prof a s m) (hacts : Acts prof m t)
    (hstep : (m.secs a).busy = true → a ∈ m.order →
      (∃ p, t.log = m.log ++ [.gaveUp p] ∧ p.addr = a) ∨ Holds prof a m t) :
    HeldBack prof a s t := by
  obtain ⟨rest, hlog, heach, hup | ⟨⟨hbusy, hknown⟩, hwait⟩⟩ := h
  · obtain ⟨⟨last, hlast⟩, -⟩ := grows_of_acts hacts
    exact ⟨rest ++ last, by rw [hlast, hlog, List.append_assoc], each_of_givenUp heach hup last,
      .inl (hup.append last)⟩
  · rcases hstep hbusy hknown with ⟨p, hgave, hp⟩ | ⟨last, hlast, horder, hbusy', hsent, hwait'⟩
    · refine ⟨rest ++ [.gaveUp p], by rw [hgave, hlog, List.append_assoc], ?_, .inl ⟨p, ?_, hp⟩⟩
      · exact Trace.each_concat.mpr ⟨heach, .inr rfl⟩
      · exact List.mem_append_right _ List.mem_cons_self
    · refine ⟨rest ++ last, by rw [hlast, hlog, List.append_assoc], ?_,
        .inr ⟨⟨hbusy'.trans hbusy, horder ▸ hknown⟩, ?_⟩⟩
      · exact heach.append fun x hx _ => .inr (List.filterMap_eq_nil_iff.mp hsent x hx)
      · rw [hwait', hwait, List.append_assoc]
        exact congrArg _ List.filterMap_append.symm

/-- A run none of whose events is a frame of the station. -/
theorem heldBack_of_run {σ ι : Type} (M : Machine σ ι) (prim : σ → Primary α A)
    (heard : ι → Bool) (hacts : ∀ u e v, M.next u e = some v → Acts prof (prim u) (prim v))
    (hstep : ∀ u e v, ((prim u).secs a).busy = true → a ∈ (prim u).order → heard e = false →
      M.next u e = some v →
        (∃ p, (prim v).log = (prim u).log ++ [.gaveUp p] ∧ p.addr = a) ∨
          Holds prof a (prim u) (prim v))
    {es : List ι} (hquiet : ∀ e ∈ es, heard e = false) :
    ∀ {u v : σ}, HeldBack prof a s (prim u) → M.run u es = some v →
      HeldBack prof a s (prim v) := by
  induction es with
  | nil =>
    intro u v hu hrun
    cases hrun
    exact hu
  | cons e es ih =>
    intro u v hu hrun
    rw [Machine.run, Machine.runIf, if_pos trivial] at hrun
    obtain ⟨w, hw, hrun⟩ := Option.bind_eq_some_iff.mp hrun
    have hfirst := hquiet e List.mem_cons_self
    exact ih (fun e he => hquiet e (List.mem_cons_of_mem _ he))
      (hu.step (hacts u e w hw) fun hbusy hknown => hstep u e w hbusy hknown hfirst hw) hrun

end Primary

/-! ### The 101 primary -/

namespace LinkState

open Primary

variable {o : ClientOption} {s t : LinkState} {a : UInt16}

/-- The event is a frame of the station `a`, in its secondary role. -/
def hears (a : UInt16) : Event → Bool
  | .frame f _ => f.linkAddr = some a && f.control.any (!·.prm)
  | _ => false

theorem holds_spoke (h : Spoke s t) : Holds o.profile a s.toPrimary t.toPrimary := by
  obtain ⟨rest, hrest, ht⟩ := h
  rw [ht]
  refine .of_entries rest rfl rfl rfl rfl ?_ ?_
  · refine List.filterMap_eq_nil_iff.mpr fun x hx => ?_
    obtain ⟨f, raw, rfl⟩ | ⟨b, raw, rfl⟩ := hrest x hx <;> rfl
  · refine List.filterMap_eq_nil_iff.mpr fun x hx => ?_
    obtain ⟨f, raw, rfl⟩ | ⟨b, raw, rfl⟩ := hrest x hx <;> rfl

/-- A frame that is not one of the station. -/
theorem holds_handleFrame {f : Frame} {now : ℕ} (hquiet : hears a (.frame f now) = false) :
    Holds o.profile a s.toPrimary (s.handleFrame o f now).2.toPrimary := by
  have haddressed : ∀ ctrl addr, f.control = some ctrl → f.linkAddr = some addr →
      Holds o.profile a s.toPrimary (s.handleAddressed o f ctrl addr now).2.toPrimary := by
    intro ctrl addr hctrl haddr
    have hpeer := spoke_handlePeerPrimaryFrame (o := o) (s := s) ctrl addr
    unfold handleAddressed
    split_ifs with hknown hprm hbal
    · exact .refl _
    · dsimp only
      split_ifs
      · exact holds_spoke (hpeer.trans (spoke_report f addr))
      · exact holds_spoke hpeer
    · exact .refl _
    · have hne : addr ≠ a := by
        rintro rfl
        have hheard : hears addr (.frame f now) = true := by
          simp [hears, haddr, hctrl, hprm]
        rw [hheard] at hquiet
        cases hquiet
      exact holds_handleSecondary hne now
  cases f with
  | singleCharAck => exact holds_confirm none
  | fixed ctrl addr => exact haddressed ctrl addr rfl rfl
  | variable' ctrl addr raw => exact haddressed ctrl addr rfl rfl

theorem holds_request (s : LinkState) (addr : UInt16) {func : UInt8} (fcv : Bool) (now : ℕ)
    (hfunc : func ≠ USER_DATA_CONF) :
    Holds o.profile a s.toPrimary (s.sendPrimConfirmed o addr func fcv now).toPrimary :=
  holds_sendPrimConfirmed now hfunc

theorem holds_poll (now n : ℕ) :
    Holds o.profile a s.toPrimary (s.poll o now n).toPrimary := by
  induction n generalizing s with
  | zero => exact .refl _
  | succ n ih =>
    rw [poll]
    rcases s.order[s.pollIdx]? with _ | addr
    · exact .refl _
    · have hnext : Holds o.profile a s.toPrimary
          { s.toPrimary with pollIdx := (s.pollIdx + 1) % s.order.length } :=
        .of_same rfl rfl rfl rfl
      dsimp only
      split
      · exact hnext.trans (holds_request _ addr false now (by decide))
      · exact hnext.trans (holds_request _ addr false now (by decide))
      · split
        · exact hnext.trans
            (ih (s := { s with pollIdx := (s.pollIdx + 1) % s.order.length }))
        · refine hnext.trans (holds_request _ addr true now ?_)
          split <;> decide

theorem holds_tick (hbusy : (s.secs a).busy = true) (hknown : a ∈ s.order) (now : ℕ) :
    Holds o.profile a s.toPrimary (s.tick o now).toPrimary := by
  unfold tick
  split
  · exact .refl _
  · have hsend : Holds o.profile a s.toPrimary (s.toPrimary.trySendQueued o.profile now).2 :=
      holds_trySendQueued hbusy hknown now
    rcases hr : s.trySendQueued o.profile now with ⟨sent, p⟩
    rw [hr] at hsend
    dsimp only
    split
    · exact hsend
    · exact hsend.trans (holds_poll (s := { s with toPrimary := p }) now _)

theorem holds_handleLinkRequest (func : UInt8) (now : ℕ) :
    Holds o.profile a s.toPrimary (s.handleLinkRequest o func now).toPrimary := by
  have hask : Holds o.profile a s.toPrimary (s.askReset o.defaultAddr) := holds_askReset _
  unfold handleLinkRequest
  dsimp only
  split_ifs
  · exact .refl _
  · exact hask.trans
      (holds_request { s with toPrimary := s.askReset o.defaultAddr } _ false now (by decide))
  · exact holds_request s _ false now (by decide)
  · exact holds_request s _ true now (by decide)
  · exact .refl _
  · exact .refl _

/-- A step that is not a frame of the station gives it up, or holds what is queued
for it. -/
theorem holds_of_step {e : Event} (hbusy : (s.secs a).busy = true) (hknown : a ∈ s.order)
    (hquiet : hears a e = false) (h : s.step o e = some t) :
    (∃ p, t.log = s.log ++ [.gaveUp p] ∧ p.addr = a) ∨
      Holds o.profile a s.toPrimary t.toPrimary := by
  cases e with
  | frame f now =>
    cases h
    exact .inr (holds_handleFrame hquiet)
  | linkRequest func now =>
    cases h
    exact .inr (holds_handleLinkRequest func now)
  -- an expired timer gives its own station up, or changes nothing of this one
  | t1 now =>
    rcases holds_onT1Timeout (a := a) (onT1Timeout_of_step h) with ⟨p, hlog, hp, -⟩ | hholds
    · exact .inl ⟨p, hlog, hp⟩
    · exact .inr hholds
  | t3 now =>
    cases h
    -- the idle poll asks for a status, never with user data
    refine .inr ?_
    unfold onT3Timeout
    split
    · exact .refl _
    · split
      · exact .refl _
      · exact holds_request s _ true now (by decide)
  | tick now =>
    cases h
    -- a tick sends user data only for a station that is not held
    exact .inr (holds_tick hbusy hknown now)
  | send asdu addr =>
    rw [step, sendTo] at h
    split at h
    · cases h
    · cases h
      exact .inr (holds_push _)
  | outClosed =>
    cases h
    exact .inr (.of_same rfl rfl rfl rfl)

/-- The stations are those of the configuration. -/
theorem order_of_reach (h : (machine o).Reachable s) : s.order = o.addresses :=
  h.invariant (P := fun s => s.order = o.addresses) rfl
    fun _ _ _ hs _ hn => (grows_of_acts (acts_of_step hn)).2.trans hs

/-- **User data for a station that has set DFC is held back.**  In every run, from such
a frame on and as long as the station says nothing else, no user data is begun for it
before it is given up, and its queue keeps everything in order.  What is begun for it is
what the frames to its link address carry. -/
theorem user_data_held (hs : (machine o).Reachable s) {f : Frame} {ctrl : ControlField} {now : ℕ}
    (hctrl : f.control = some ctrl) (haddr : f.linkAddr = some a) (hprm : ctrl.prm = false)
    (hdfc : ctrl.dfc = true) (hrefusal : f.refusal = false) (hknown : a ∈ o.addresses)
    {es : List Event} (hquiet : ∀ e ∈ es, hears a e = false)
    (hrun : (machine o).run s (.frame f now :: es) = some t) :
    HeldBack o.profile a (s.handleFrame o f now).2.toPrimary t.toPrimary ∧
      ∀ x ∈ t.log, x.firstData a = x.dataTo o.profile a := by
  have hlawful := (disciplined_of_reach (Machine.reach_of_run hs hrun)).lawful
  refine ⟨?_, firstData_eq_dataTo (fun _ _ h => h) hlawful a⟩
  -- the frame is of a configured station, so it is handled as that station's
  have hmem : a ∈ s.order := (order_of_reach hs).symm ▸ hknown
  have haddressed : (s.handleFrame o f now).2.toPrimary =
      (s.toPrimary.handleSecondary o.profile f ctrl a now).2 := by
    rw [handleFrame_addressed now hctrl haddr]
    unfold handleAddressed
    rw [if_neg (fun h => h.2 hmem), if_neg (by rw [hprm]; decide)]
  have hbusy : ((s.handleFrame o f now).2.secs a).busy = true := by
    rw [haddressed]
    exact busy_handleSecondary now hctrl hprm hdfc hrefusal
  have horder : (s.handleFrame o f now).2.order = s.order := (grows_of_acts (acts_handleFrame f now)).2
  -- from the state behind the frame on, `heldBack_of_run` carries the hold to the end of the run
  rw [Machine.run, Machine.runIf, if_pos trivial] at hrun
  obtain ⟨u, hu, hrun⟩ := Option.bind_eq_some_iff.mp hrun
  cases hu
  exact heldBack_of_run (machine o) toPrimary (hears a)
    (fun _ _ _ h => acts_of_step h)
    (fun _ _ _ hbusy hknown hquiet h => holds_of_step hbusy hknown hquiet h) hquiet
    (heldBack_refl hbusy (horder ▸ hmem)) hrun

/-- The acknowledgement of station 1 when its buffers are full. -/
def busyAck : Frame :=
  .fixed { ControlField.secondary SecFc.CONF_ACK false false with dfc := true } 1

/-- A line whose station is being reset. -/
def resetting : LinkState :=
  (((new oneStation).tick oneStation 0).handleFrame oneStation
    (response SecFc.RESP_STATUS) 10).2.tick oneStation 20

/-- A station acknowledges the reset with DFC set: the ASDU queued for it is held back. -/
theorem user_data_held_resetBusy :
    ∃ t, (machine oneStation).run resetting
        [.frame busyAck 30, .send (indication 7) 1, .tick 40] = some t ∧
      HeldBack oneStation.profile 1 (resetting.handleFrame oneStation busyAck 30).2.toPrimary
        t.toPrimary ∧
      waitingFor oneStation.profile 1 t.queue = [[1, 1, 3, 1, 7, 0, 1]] := by
  have hrun : (machine oneStation).run (new oneStation)
      [.tick 0, .frame (response SecFc.RESP_STATUS) 10, .tick 20] = some resetting := rfl
  have hnext : (machine oneStation).run resetting
      [.frame busyAck 30, .send (indication 7) 1, .tick 40] = some _ := rfl
  exact ⟨_, hnext, (user_data_held (Machine.reach_of_run .init hrun) rfl rfl rfl rfl rfl
    (by decide) (by decide) hnext).1, by decide +kernel⟩

end LinkState

end Cs101
end Iec60870
