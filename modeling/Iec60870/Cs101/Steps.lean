import Iec60870.Cs101.Client
import Iec60870.Cs101.Discipline

/-!
# The handlers of the 101 primary, taken apart

Each handler of the link state machine launches at most one transaction, after
what it does to the outstanding one.

## Main results

* `LinkState.launches_tick`, `launches_onT3Timeout`, `handleLinkRequest_cases` — the
  handlers that begin a transaction.
* `LinkState.handleFrame_cases` — what a received frame can do.
* `LinkState.disciplined_of_reach` — every run keeps the discipline of a primary.
-/

namespace Iec60870
namespace Cs101

open PrimFc
open Primary (Launch Noted Begin Answered launch_sendPrimConfirmed launch_trySendQueued
  noted_pollIdx answered_handleSecondary answered_confirm_none Acts acts_onT1Timeout
  disciplined_new)

namespace LinkState

variable {o : ClientOption} {s t m : LinkState}

/-- A link is activated by a reset only. -/
theorem mem_resets {f : UInt8} : f ∈ o.profile.resets ↔ f = RESET_LINK := by
  show f ∈ [RESET_LINK] ↔ _
  simp

theorem not_mem_resets {f : UInt8} (h : f ≠ RESET_LINK) : f ∉ o.profile.resets :=
  fun hf => h (mem_resets.mp hf)

/-- At most one transaction is begun, and nothing happens to the secondary role. -/
def Launches (o : ClientOption) (s t : LinkState) : Prop :=
  Launch o.profile s.toPrimary t.toPrimary ∧ t.fcbExpected = s.fcbExpected

theorem Launches.refl (s : LinkState) : Launches o s s := ⟨.note (.refl _), rfl⟩

theorem Launches.of_noted (h : Noted s.toPrimary m.toPrimary)
    (hf : m.fcbExpected = s.fcbExpected) (h' : Launches o m t) : Launches o s t :=
  ⟨.of_noted h h'.1, h'.2.trans hf⟩

theorem launches_sendPrimConfirmed {addr : UInt16} {func : UInt8} {fcv : Bool} (now : ℕ)
    (hidle : s.lastSent = none)
    (hb : Begin o.profile s.toPrimary (s.request o.profile addr func fcv) s.queue) :
    Launches o s (s.sendPrimConfirmed o addr func fcv now) :=
  ⟨launch_sendPrimConfirmed now hidle hb, rfl⟩

/-- A counted request to an active station may be begun. -/
theorem begin_counted {addr : UInt16} {func : UInt8} (hknown : addr ∈ s.order)
    (hfcv : fcvRequired func = some true)
    (hdata : func ≠ USER_DATA_CONF ∧ func ≠ USER_DATA_NO_CONF)
    (hact : (s.secs addr).phase = .active)
    (hpoll : func = REQ_DATA1 ∨ func = REQ_DATA2 → o.config.isBalanced = false) :
    Begin o.profile s.toPrimary (s.request o.profile addr func true) s.queue := by
  refine .request hknown hfcv hdata (fun _ => hact) (fun h => ?_) fun h => ?_
  · rw [mem_resets.mp h] at hfcv
    cases hfcv
  · exact congrArg (! ·) (hpoll h)

/-- A status request may be begun in any phase. -/
theorem begin_status {addr : UInt16} (hknown : addr ∈ s.order) :
    Begin o.profile s.toPrimary (s.request o.profile addr REQ_STATUS false) s.queue :=
  .request hknown rfl (by decide) (fun h => by cases h)
    (fun h => absurd h (not_mem_resets (by decide))) fun h => absurd h (by decide)

/-- A reset may be begun once it is due. -/
theorem begin_reset {addr : UInt16} (hknown : addr ∈ s.order)
    (hph : (s.secs addr).phase = .reset) :
    Begin o.profile s.toPrimary (s.request o.profile addr RESET_LINK false) s.queue :=
  .request hknown rfl (by decide) (fun h => by cases h) (fun _ => hph)
    fun h => absurd h (by decide)

theorem launches_poll (now n : ℕ) (hidle : s.lastSent = none) :
    Launches o s (poll o now n s) := by
  induction n generalizing s with
  | zero => exact .refl s
  | succ n ih =>
    rw [poll]
    rcases ha : s.order[s.pollIdx]? with _ | addr
    · exact .refl s
    · have hknown : addr ∈ s.order := List.mem_of_getElem? ha
      refine .of_noted (m := { s with pollIdx := (s.pollIdx + 1) % s.order.length })
        (noted_pollIdx _) rfl ?_
      dsimp only
      rcases hph : (s.secs addr).phase
      · exact launches_sendPrimConfirmed now hidle (begin_status hknown)
      · exact launches_sendPrimConfirmed now hidle (begin_reset hknown hph)
      · dsimp only
        split
        · -- balanced mode looks at the next station
          exact ih hidle
        · next hbal =>
          refine launches_sendPrimConfirmed now hidle (begin_counted hknown ?_ ?_ hph fun _ => ?_)
          · split <;> rfl
          · split <;> decide
          · exact eq_false_of_ne_true hbal

theorem launches_tick (now : ℕ) : Launches o s (s.tick o now) := by
  unfold tick
  split
  · exact .refl s
  · next hidle =>
    rw [Option.not_isSome_iff_eq_none] at hidle
    obtain ⟨hsend, hnone⟩ := @launch_trySendQueued _ _ o.profile _ _ now hidle
    rcases hr : s.trySendQueued o.profile now with ⟨_ | _, p⟩
    · -- nothing was sent, so the stations are polled
      rw [hr] at hnone
      have hp : Noted s.toPrimary p := hnone rfl
      have hidle' : p.lastSent = none := hp.lastSent.trans hidle
      dsimp only
      exact .of_noted (m := { s with toPrimary := p }) hp rfl (launches_poll now _ hidle')
    · rw [hr] at hsend
      exact ⟨hsend, rfl⟩

theorem launches_onT3Timeout (now : ℕ) : Launches o s (s.onT3Timeout o now) := by
  unfold onT3Timeout
  split
  · exact .refl s
  · next hidle =>
    rw [Option.not_isSome_iff_eq_none] at hidle
    split
    · exact .refl s
    · next addr hfirst =>
      have hknown : addr ∈ s.order := List.mem_of_find?_eq_some hfirst
      have hact : (s.secs addr).phase = .active := by simpa using List.find?_some hfirst
      exact launches_sendPrimConfirmed now hidle (begin_counted hknown rfl (by decide) hact
        fun h => absurd h (by decide))

/-- A manual request begins a transaction, after a reset request sent the station
back to the reset phase. -/
theorem handleLinkRequest_cases (func : UInt8) (now : ℕ) :
    Launches o s (s.handleLinkRequest o func now) ∨
      s.lastSent = none ∧
        Launches o { s with toPrimary := s.askReset o.defaultAddr }
          (s.handleLinkRequest o func now) := by
  unfold handleLinkRequest
  dsimp only
  split
  · exact .inl (.refl s)
  · next hidle =>
    rw [Option.not_isSome_iff_eq_none] at hidle
    split
    · exact .inl (.refl s)
    · next hknown =>
      rw [not_not] at hknown
      split_ifs with hreset hstatus hpoll
      · have hph : ((s.askReset o.defaultAddr).secs o.defaultAddr).phase = .reset := by
          simp [Primary.askReset, Primary.modify]
        exact .inr ⟨hidle, launches_sendPrimConfirmed now hidle (begin_reset hknown hph)⟩
      · exact .inl (launches_sendPrimConfirmed now hidle (begin_status hknown))
      · exact .inl (launches_sendPrimConfirmed now hidle
          (begin_counted hknown rfl (by decide) hpoll.2.1 fun _ => eq_false_of_ne_true hpoll.2.2))
      · exact .inl (.refl s)

/-- What the application and the writer do to a primary. -/
inductive Stir (s : Primary UInt16 Asdu) : Primary UInt16 Asdu → Prop
  | nothing : Stir s s
  | askReset {addr : UInt16} (hidle : s.lastSent = none) : Stir s (s.askReset addr)
  | push (out : Outgoing UInt16 Asdu) : Stir s (s.push out)
  | close : Stir s { s with outOpen := false }

/-- What the primary does of its own accord: what it is told, then a launch. -/
theorem moves_cases {e : Event} (hframe : ∀ f now, e ≠ .frame f now) (ht1 : ∀ now, e ≠ .t1 now)
    (h : s.step o e = some t) :
    ∃ m, Stir s.toPrimary m ∧ Launch o.profile m t.toPrimary := by
  cases e with
  | frame f now => exact absurd rfl (hframe f now)
  | t1 now => exact absurd rfl (ht1 now)
  | linkRequest func now =>
    cases h
    rcases handleLinkRequest_cases (o := o) (s := s) func now with h | ⟨hidle, h⟩
    · exact ⟨_, .nothing, h.1⟩
    · exact ⟨_, .askReset hidle, h.1⟩
  | t3 now =>
    cases h
    exact ⟨_, .nothing, (launches_onT3Timeout now).1⟩
  | tick now =>
    cases h
    exact ⟨_, .nothing, (launches_tick now).1⟩
  -- a full queue refuses the ASDU
  | send asdu addr =>
    rw [step, sendTo] at h
    split at h
    · cases h
    · cases h
      exact ⟨_, .push _, .note (.refl _)⟩
  | outClosed =>
    cases h
    exact ⟨_, .close, .note (.refl _)⟩

/-- An expired t₁ is the primary's. -/
theorem onT1Timeout_of_step {now : ℕ} (h : s.step o (.t1 now) = some t) :
    s.toPrimary.onT1Timeout o.profile now = .ok t.toPrimary := by
  rw [step] at h
  split at h
  · unfold onT1Timeout at h
    rcases hr : s.toPrimary.onT1Timeout o.profile now with e | p
    · rw [hr] at h
      cases h
    · rw [hr] at h
      cases h
      rfl
  · cases h

/-! ### Received frames -/

/-- What a frame can do that is not a peer's command: it may settle the outstanding
transaction and launch another. -/
def Answers (o : ClientOption) (f : Frame) (s t : LinkState) : Prop :=
  t.fcbExpected = s.fcbExpected ∧ Answered o.profile f f.linkAddr s.toPrimary t.toPrimary

theorem Answers.refl (f : Frame) (s : LinkState) : Answers o f s s :=
  ⟨rfl, .refl _ _ _⟩

/-- Entries that only the secondary role of a station makes. -/
def PeerEntries (rest : List (Obs UInt16 Asdu)) : Prop :=
  ∀ x ∈ rest, (∃ f raw, x = .replied f raw) ∨ ∃ a raw, x = .delivered a raw

/-- `t` differs from `s` in the secondary role only: what it has recorded, and the
FCB it expects. -/
def Spoke (s t : LinkState) : Prop :=
  ∃ rest, PeerEntries rest ∧ t.toPrimary = { s.toPrimary with log := s.log ++ rest }

theorem Spoke.refl (s : LinkState) : Spoke s s := ⟨[], by simp [PeerEntries], by simp⟩

theorem Spoke.trans (h : Spoke s m) (h' : Spoke m t) : Spoke s t := by
  obtain ⟨r, hr, hm⟩ := h
  obtain ⟨r', hr', ht⟩ := h'
  refine ⟨r ++ r', fun x hx => (List.mem_append.mp hx).elim (hr x) (hr' x), ?_⟩
  rw [ht, hm, List.append_assoc]

theorem spoke_sendSecFixed (func : UInt8) (addr : UInt16) :
    Spoke s (s.sendSecFixed o func addr) := by
  unfold sendSecFixed
  dsimp only
  split
  · exact .refl s
  · exact ⟨[_], fun x hx => .inl ⟨_, _, List.mem_singleton.mp hx⟩, rfl⟩

theorem spoke_servePeer (ctrl : ControlField) (addr : UInt16) :
    Spoke s (s.servePeer o ctrl addr).2 := by
  unfold servePeer
  split_ifs
  · exact spoke_sendSecFixed (s := { s with fcbExpected := true }) _ _
  · exact spoke_sendSecFixed _ _
  · exact spoke_sendSecFixed _ _
  · exact .refl s
  · exact spoke_sendSecFixed _ _
  · exact spoke_sendSecFixed _ _

theorem spoke_handlePeerPrimaryFrame (ctrl : ControlField) (addr : UInt16) :
    Spoke s (s.handlePeerPrimaryFrame o ctrl addr).2 := by
  unfold handlePeerPrimaryFrame
  split_ifs
  · exact .refl s
  · exact spoke_sendSecFixed _ _
  · exact spoke_servePeer (s := { s with fcbExpected := !s.fcbExpected }) _ _
  · exact spoke_servePeer _ _

theorem spoke_report (f : Frame) (addr : UInt16) : Spoke s (s.report f addr) := by
  unfold report
  split
  · exact ⟨[_], fun x hx => .inr ⟨_, _, List.mem_singleton.mp hx⟩, rfl⟩
  · exact .refl s

/-- A command of the peer, in balanced mode. -/
def IsCommand (o : ClientOption) (f : Frame) : Prop :=
  o.config.isBalanced = true ∧ ∃ ctrl, f.control = some ctrl ∧ ctrl.prm = true

theorem handleAddressed_cases {f : Frame} {ctrl : ControlField} {addr : UInt16} (now : ℕ)
    (hctrl : f.control = some ctrl) (haddr : f.linkAddr = some addr) :
    Answers o f s (s.handleAddressed o f ctrl addr now).2 ∨
      IsCommand o f ∧ Spoke s (s.handleAddressed o f ctrl addr now).2 := by
  unfold handleAddressed
  split
  · exact .inl (.refl f s)
  · split
    · next hprm =>
      split
      · next hbal =>
        refine .inr ⟨⟨hbal, ctrl, hctrl, hprm⟩, ?_⟩
        dsimp only
        have hpeer := spoke_handlePeerPrimaryFrame (o := o) (s := s) ctrl addr
        split
        · exact hpeer.trans (spoke_report f addr)
        · exact hpeer
      · exact .inl (.refl f s)
    · next hprm =>
      refine .inl ⟨rfl, ?_⟩
      rw [haddr]
      exact answered_handleSecondary addr now hctrl (by simpa using hprm)
        (not_mem_resets (by decide))

/-- **What a received frame can do.** -/
theorem handleFrame_cases (f : Frame) (now : ℕ) :
    Answers o f s (s.handleFrame o f now).2 ∨
      IsCommand o f ∧ Spoke s (s.handleFrame o f now).2 := by
  cases f with
  | singleCharAck =>
    exact .inl ⟨rfl, answered_confirm_none⟩
  | fixed ctrl addr => exact handleAddressed_cases now rfl rfl
  | variable' ctrl addr raw => exact handleAddressed_cases now rfl rfl

/-! ### Runs -/

/-- The entries of the secondary role are acts of a balanced station. -/
theorem acts_peerEntries {p : Primary UInt16 Asdu} {rest : List (Obs UInt16 Asdu)}
    (hbal : o.config.isBalanced = true) (hrest : PeerEntries rest) :
    Acts o.profile p { p with log := p.log ++ rest } := by
  have hpolls : o.profile.polls = false := congrArg (! ·) hbal
  induction rest generalizing p with
  | nil => rw [List.append_nil]
  | cons x rest ih =>
    have hx := hrest x List.mem_cons_self
    have htail := ih (p := { p with log := p.log ++ [x] }) fun y hy =>
      hrest y (List.mem_cons_of_mem _ hy)
    rw [List.append_cons]
    exact .trans (.single (.peer hpolls hx)) htail

theorem acts_handleFrame (f : Frame) (now : ℕ) :
    Acts o.profile s.toPrimary (s.handleFrame o f now).2.toPrimary := by
  rcases handleFrame_cases (o := o) (s := s) f now with ⟨-, h⟩ | ⟨hcmd, rest, hrest, ht⟩
  · exact h.acts
  · rw [ht]
    exact acts_peerEntries hcmd.1 hrest

theorem Stir.acts {p q : Primary UInt16 Asdu} (h : Stir p q) : Acts o.profile p q := by
  cases h with
  | nothing => exact .refl
  | askReset hidle => exact .single (.askReset hidle)
  | push out => exact .single (.push out)
  | close => exact .single .close

/-- What a step can do. -/
theorem acts_of_step {e : Event} (h : s.step o e = some t) :
    Acts o.profile s.toPrimary t.toPrimary := by
  by_cases hframe : ∃ f now, e = .frame f now
  · obtain ⟨f, now, rfl⟩ := hframe
    cases h
    exact acts_handleFrame f now
  · by_cases ht1 : ∃ now, e = .t1 now
    · obtain ⟨now, rfl⟩ := ht1
      exact acts_onT1Timeout (onT1Timeout_of_step h)
    · push Not at hframe ht1
      obtain ⟨m, hm, ht⟩ := moves_cases hframe ht1 h
      exact hm.acts.trans ht.acts

/-- In every run the history is lawful and says what the state says. -/
theorem disciplined_of_reach (h : (machine o).Reachable s) : s.Disciplined o.profile :=
  h.invariant (P := fun s => s.Disciplined o.profile) (disciplined_new _ _)
    fun _ _ _ hs _ hn => hs.acts (acts_of_step hn)

end LinkState

end Cs101
end Iec60870
