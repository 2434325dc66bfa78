import Iec60870.Cs101.Exchange

/-!
# The other direction of a balanced link

In balanced mode the secondary station sends too, in its primary role, and the primary
station answers.  The two roles are written separately from those of the first
direction; their transactions are those of an alternating bit all the same, whose
receiver keeps no response but always acknowledges.

## Main definitions

* `PeerSends`, `PeerHears` — the two ends of the alternating bit.
* `PeerLinked` — both stations and what is in flight are those of an alternating bit.

## Main results

* `PeerLinked.ticked`, `answered` — what the sending station does keeps the link.
* `PeerLinked.heard` — what the receiving station does keeps it.
-/

namespace Iec60870
namespace Cs101

open PrimFc

/-! ### Reading the history -/

/-- The user data of a transaction an entry begins in the primary role. -/
def SecObs.beganData : SecObs → Option Octets
  | .began f => f.asdu
  | _ => none

/-- The user data of a transaction of the primary role an entry completes. -/
def SecObs.completedData : SecObs → Option Octets
  | .completed f => f.asdu
  | _ => none

/-- The octets of the ASDU an entry queues for the primary role. -/
def SecObs.queuedData : SecObs → Option Octets
  | .queued a => a.marshalBinary.toOption
  | _ => none

/-- The user data first transmitted in the primary role, in order. -/
def sentBy (log : List SecObs) : List Octets := log.filterMap SecObs.beganData

/-- The user data transactions of the primary role completed positively, in order. -/
def completedBy (log : List SecObs) : List Octets := log.filterMap SecObs.completedData

/-- The octets of the encodable ASDUs queued for the primary role, in order. -/
def queuedBy (log : List SecObs) : List Octets := log.filterMap SecObs.queuedData

@[simp] theorem sentBy_append (log rest : List SecObs) :
    sentBy (log ++ rest) = sentBy log ++ sentBy rest := List.filterMap_append

@[simp] theorem completedBy_append (log rest : List SecObs) :
    completedBy (log ++ rest) = completedBy log ++ completedBy rest := List.filterMap_append

@[simp] theorem queuedBy_append (log rest : List SecObs) :
    queuedBy (log ++ rest) = queuedBy log ++ queuedBy rest := List.filterMap_append

/-- The response an entry hands to the writer in the secondary role. -/
def Obs.reply {α A : Type} : Obs α A → Option Frame
  | .replied f _ => some f
  | _ => none

/-- The responses handed to the writer between `s` and `t`. -/
def replies {α A : Type} (s t : Primary α A) : List Frame :=
  (t.log.drop s.log.length).filterMap Obs.reply

theorem replies_eq {α A : Type} {s t : Primary α A} {rest : List (Obs α A)}
    (h : t.log = s.log ++ rest) : replies s t = rest.filterMap Obs.reply := by
  rw [replies, h, List.drop_left]

/-! ### What the sending station does -/

namespace SecondaryState

variable {cfg : Config} {s t : SecondaryState}

/-- `t` differs from `s` in nothing the outstanding transaction of the primary role
depends on. -/
structure RoleSame (s t : SecondaryState) : Prop where
  primOut : t.primOut = s.primOut
  primOutCtrl : t.primOutCtrl = s.primOutCtrl
  primFcb : t.primFcb = s.primFcb
  primActive : t.primActive = s.primActive
  sent : sentBy t.log = sentBy s.log
  completed : completedBy t.log = completedBy s.log

/-- The commands of the primary role: the reset of the link and, once it is
active, user data with the bit that is due. -/
inductive PeerCommand (cfg : Config) (s : SecondaryState) : Frame → ControlField → Prop
  | reset : PeerCommand cfg s
      (.fixed (.primary RESET_LINK false false false) cfg.linkAddress)
      (.primary RESET_LINK false false false)
  | data (raw : Octets) : PeerCommand cfg s
      (.variable' (.primary USER_DATA_CONF true s.primFcb false) cfg.linkAddress raw)
      (.primary USER_DATA_CONF true s.primFcb false)

/-- What a tick of the primary role can do. -/
inductive Ticked (cfg : Config) (s : SecondaryState) (now : ℕ) : SecondaryState → Prop
  /-- Nothing is written; an ASDU may have been dropped. -/
  | idle {t : SecondaryState} (hout : t.primOut = s.primOut)
      (hctrl : t.primOutCtrl = s.primOutCtrl) (hfcb : t.primFcb = s.primFcb)
      (hact : t.primActive = s.primActive)
      (hqueue : (encodable t.shared.primQueue).Sublist (encodable s.shared.primQueue))
      (hexp : t.fcbExpected = s.fcbExpected) (hlast : t.lastResp = s.lastResp)
      (hbuf : ∀ c, t.shared.buffer c = s.shared.buffer c) (hlog : t.log = s.log) :
      Ticked cfg s now t
  | again {frame : Frame} {retry due : ℕ} (hout : s.primOut = some frame)
      (hdue : s.primDeadline.any (· ≤ now) = true) :
      Ticked cfg s now { s with
        primRetry := retry
        primDeadline := some due
        log := s.log ++ written cfg frame }
  | gaveUp {frame : Frame} {next : ℕ} (hout : s.primOut = some frame)
      (hdue : s.primDeadline.any (· ≤ now) = true) :
      Ticked cfg s now { s with
        primOut := none
        primRetry := 0
        primDeadline := none
        primActive := false
        primNextInit := next }
  | began {frame : Frame} {ctrl : ControlField} {sh : Shared} {next due : ℕ}
      (hout : s.primOut = none) (hcmd : PeerCommand cfg s frame ctrl)
      (hact : ctrl.func = RESET_LINK ↔ s.primActive = false)
      (hqueue : encodable s.shared.primQueue = frame.asdu.toList ++ encodable sh.primQueue)
      (hbuf : ∀ c, sh.buffer c = s.shared.buffer c) :
      Ticked cfg s now { s with
        primNextInit := next
        shared := sh
        primOut := some frame
        primOutCtrl := ctrl
        primRetry := 0
        primDeadline := some due
        log := s.log ++ [.wrote frame, .began frame] }

/-- The timer of the outstanding transaction of the primary role has expired. -/
def expired (s : SecondaryState) (now : ℕ) : Bool :=
  s.primOut.isSome && s.primDeadline.any (· ≤ now)

@[simp] theorem sentBy_written (f : Frame) : sentBy (written cfg f) = [] := by
  unfold written
  split <;> rfl

@[simp] theorem completedBy_written (f : Frame) : completedBy (written cfg f) = [] := by
  unfold written
  split <;> rfl

@[simp] theorem queuedBy_written (f : Frame) : queuedBy (written cfg f) = [] := by
  unfold written
  split <;> rfl

/-- What a positive confirmation does. -/
theorem primConfirm_eq {frame : Frame} (hout : s.primOut = some frame) :
    s.primConfirm true = { s with
      primOut := none
      primFcb := if s.primOutCtrl.func = RESET_LINK then true
        else if s.primOutCtrl.fcv then !s.primOutCtrl.fcb else s.primFcb
      primActive := if s.primOutCtrl.func = RESET_LINK then true else s.primActive
      primRetry := 0
      primDeadline := none
      log := s.log ++ [.completed frame] } := by
  unfold primConfirm note
  rw [hout]
  simp only [↓reduceIte]
  split_ifs <;> rfl

/-- A transaction is begun if its frame can be written. -/
theorem primSendConfirmed_eq (cfg : Config) (s : SecondaryState) (frame : Frame) (ctrl : ControlField) (now : ℕ) :
    s.primSendConfirmed cfg frame ctrl now = s ∨
      s.primSendConfirmed cfg frame ctrl now = { s with
        primOut := some frame
        primOutCtrl := ctrl
        primRetry := 0
        primDeadline := some (now + cfg.timeoutResponseT1)
        log := s.log ++ [.wrote frame, .began frame] } := by
  unfold primSendConfirmed write
  rcases frame.marshal cfg.linkAddrSize with e | raw
  · exact .inl rfl
  · refine .inr ?_
    simp [note]

/-- **What a tick of the primary role can do.** -/
theorem ticked_primTick (now : ℕ) : Ticked cfg s now (s.primTick cfg now) := by
  have hidle : Ticked cfg s now s :=
    .idle rfl rfl rfl rfl (List.Sublist.refl _) rfl rfl (fun _ => rfl) rfl
  unfold primTick
  rcases hout : s.primOut with _ | frame
  · dsimp only
    split
    · next hact =>
      unfold primSend
      -- the line is free and the link active: the oldest ASDU that can be marshalled is sent
      rcases hq : s.shared.primQueue with _ | ⟨next, rest⟩
      · exact hidle
      · dsimp only
        have hbuf : ∀ c, ({ s.shared with primQueue := rest } : Shared).buffer c =
            s.shared.buffer c := fun c => by cases c <;> rfl
        -- an ASDU leaves the queue in either case; only one that is written is begun
        have hdrop : Ticked cfg s now { s with shared := { s.shared with primQueue := rest } } := by
          refine .idle rfl rfl rfl rfl ?_ rfl rfl hbuf rfl
          rw [hq]
          exact (List.sublist_cons_self _ _).filterMap _
        rcases hraw : next.marshalBinary with e | raw
        · exact hdrop
        · rcases primSendConfirmed_eq cfg { s with shared := { s.shared with primQueue := rest } }
            (.variable' (.primary USER_DATA_CONF true s.primFcb false) cfg.linkAddress raw)
            (.primary USER_DATA_CONF true s.primFcb false) now with h | h
          · dsimp only
            rw [h]
            exact hdrop
          · dsimp only
            rw [h]
            refine .began hout (.data raw) ?_ ?_ hbuf
            · show USER_DATA_CONF = RESET_LINK ↔ s.primActive = false
              rw [hact]
              decide
            · rw [hq, encodable_cons_ok hraw]
              rfl
    · -- the link is down: it is reset, but not before the last attempt has run out
      next hact =>
      split
      · unfold primReset
        dsimp only
        rcases primSendConfirmed_eq cfg
          { s with primNextInit := now + 2 * cfg.timeoutResponseT1 }
          (.fixed (.primary RESET_LINK false false false) cfg.linkAddress)
          (.primary RESET_LINK false false false) now with h | h
        · rw [h]
          exact .idle rfl rfl rfl rfl (List.Sublist.refl _) rfl rfl (fun _ => rfl) rfl
        · rw [h]
          refine .began hout .reset ?_ rfl fun _ => rfl
          exact ⟨fun _ => eq_false_of_ne_true hact, fun _ => rfl⟩
      · exact hidle
  · -- a command is outstanding: it is repeated or given up when its timer has expired
    dsimp only
    split
    · next hdue =>
      unfold primExpire
      split
      · rw [write_eq]
        exact .again hout hdue
      · exact .gaveUp hout hdue
    · exact hidle

/-- What a response of the peer can do. -/
inductive Answered (s : SecondaryState) : SecondaryState → Prop
  | ignored : Answered s s
  | confirmed : Answered s (s.primConfirm true)
  | refused (next : ℕ) : Answered s { s with
      primOut := none
      primRetry := 0
      primDeadline := none
      primActive := false
      primNextInit := next }

/-- **What a response of the peer can do.** -/
theorem answered_receive {f : Frame} (hbal : cfg.isBalanced = true) (hf : f.IsResponse) (now : ℕ) :
    s.Answered (s.receive cfg f now) := by
  have hpeer : ∀ (ctrl : ControlField) (addr : UInt16), ctrl.prm = false →
      s.Answered (handed (s.handleAddressed cfg f ctrl addr now)) := by
    intro ctrl addr hprm
    unfold handleAddressed
    split
    · exact .ignored
    · show s.Answered (s.handlePeerSecondaryFrame cfg ctrl now)
      unfold handlePeerSecondaryFrame
      split_ifs
      · exact .confirmed
      · exact .ignored
      · exact .refused _
      · exact .ignored
  rw [receive_eq]
  cases f with
  | singleCharAck =>
    show s.Answered (if cfg.isBalanced then s.primConfirm true else s)
    rw [if_pos hbal]
    exact .confirmed
  | fixed ctrl addr => exact hpeer ctrl addr (hf ctrl rfl)
  | variable' ctrl addr raw => exact hpeer ctrl addr (hf ctrl rfl)

end SecondaryState

/-! ### What the receiving station does -/

namespace LinkState

variable {o : ClientOption} {s t : LinkState}

/-- Entries of at most one response: what the other station may note when it hears
a command. -/
def IsReply (rest : List (Obs UInt16 Asdu)) : Prop :=
  rest = [] ∨ ∃ g raw, rest = [.replied g raw] ∧ g.IsResponse

/-- What a command of the peer can do; `raw` is its user data. -/
inductive PeerHeard (s : LinkState) (f : Frame) (ctrl : ControlField) (a : UInt16) :
    LinkState → Prop
  | ignored : PeerHeard s f ctrl a s
  | reset {rest : List (Obs UInt16 Asdu)} (hrest : IsReply rest) (hfunc : ctrl.func = RESET_LINK) :
      PeerHeard s f ctrl a { s with fcbExpected := true, log := s.log ++ rest }
  /-- User data with the FCB that was expected is delivered. -/
  | taken {rest : List (Obs UInt16 Asdu)} {raw : Octets} (hrest : IsReply rest)
      (hfunc : ctrl.func ≠ RESET_LINK) (hbit : ctrl.fcb = s.fcbExpected) (hraw : f.asdu = some raw) :
      PeerHeard s f ctrl a { s with
        fcbExpected := !s.fcbExpected
        log := s.log ++ rest ++ [.delivered a raw] }
  | repeated {rest : List (Obs UInt16 Asdu)} (hrest : IsReply rest)
      (hfunc : ctrl.func ≠ RESET_LINK) (hbit : ctrl.fcb ≠ s.fcbExpected) :
      PeerHeard s f ctrl a { s with log := s.log ++ rest }

theorem deliveredFrom_reply {rest log : List (Obs UInt16 Asdu)} {a : UInt16} (h : IsReply rest) :
    deliveredFrom a (log ++ rest) = deliveredFrom a log := by
  obtain rfl | ⟨g, raw, rfl, -⟩ := h
  · rw [List.append_nil]
  · rw [deliveredFrom_concat]
    exact List.append_nil _

theorem sendSecFixed_eq (o : ClientOption) (s : LinkState) (func : UInt8) (addr : UInt16) :
    ∃ rest, IsReply rest ∧ s.sendSecFixed o func addr = { s with log := s.log ++ rest } := by
  have hresp : ∀ g : Frame, g = .singleCharAck ∨
      g = .fixed (.secondary func false o.config.isBalanced) addr → g.IsResponse := by
    rintro g (rfl | rfl) c hc <;> cases hc
    rfl
  unfold sendSecFixed
  dsimp only
  split
  · exact ⟨[], .inl rfl, by rw [List.append_nil]⟩
  · refine ⟨[_], .inr ⟨_, _, rfl, hresp _ ?_⟩, rfl⟩
    split
    · exact .inl rfl
    · exact .inr rfl

theorem handleAddressed_command {f : Frame} {ctrl : ControlField} {addr : UInt16} (now : ℕ)
    (hbal : o.config.isBalanced = true) (hprm : ctrl.prm = true)
    (haddr : ¬(o.config.linkAddrSize > 0 ∧ addr ∉ s.order)) :
    (s.handleAddressed o f ctrl addr now).2 =
      if (s.handlePeerPrimaryFrame o ctrl addr).1 then
        (s.handlePeerPrimaryFrame o ctrl addr).2.report f addr
      else (s.handlePeerPrimaryFrame o ctrl addr).2 := by
  unfold handleAddressed
  rw [if_neg haddr, if_pos hprm, if_pos hbal]

/-- User data is new when it carries the FCB that is expected. -/
theorem handlePeerPrimaryFrame_data {ctrl : ControlField} (addr : UInt16)
    (hfunc : ctrl.func = USER_DATA_CONF) (hfcv : ctrl.fcv = true) :
    s.handlePeerPrimaryFrame o ctrl addr =
      if ctrl.fcb ≠ s.fcbExpected then (false, s.sendSecFixed o SecFc.CONF_ACK addr)
      else (true, { s with fcbExpected := !s.fcbExpected }.sendSecFixed o SecFc.CONF_ACK addr) := by
  unfold handlePeerPrimaryFrame servePeer
  rw [hfunc, hfcv]
  rfl

/-- **What a command of the peer can do.** -/
theorem peerHeard_handleFrame {cfg : Config} {sec : SecondaryState} {f : Frame}
    {ctrl : ControlField} (hbal : o.config.isBalanced = true)
    (hcmd : sec.PeerCommand cfg f ctrl) (now : ℕ) :
    PeerHeard s f ctrl cfg.linkAddress (s.handleFrame o f now).2 := by
  -- a station that is not in the configuration is not listened to
  by_cases haddr : o.config.linkAddrSize > 0 ∧ cfg.linkAddress ∉ s.order
  · have hnot : ∀ f ctrl, s.handleAddressed o f ctrl cfg.linkAddress now = ({}, s) :=
      fun f ctrl => if_pos haddr
    cases hcmd with
    | reset =>
      show PeerHeard s _ _ _ (s.handleAddressed o _ _ _ now).2
      rw [hnot]
      exact .ignored
    | data raw =>
      show PeerHeard s _ _ _ (s.handleAddressed o _ _ _ now).2
      rw [hnot]
      exact .ignored
  · cases hcmd with
    | reset =>
      show PeerHeard s _ _ _ (s.handleAddressed o _ _ _ now).2
      rw [handleAddressed_command now hbal rfl haddr]
      obtain ⟨rest, hrest, heq⟩ := sendSecFixed_eq o { s with fcbExpected := true }
        SecFc.CONF_ACK cfg.linkAddress
      show PeerHeard s _ _ _ (sendSecFixed o _ _ _)
      rw [heq]
      exact .reset hrest rfl
    | data raw =>
      show PeerHeard s _ _ _ (s.handleAddressed o _ _ _ now).2
      rw [handleAddressed_command now hbal rfl haddr]
      rw [handlePeerPrimaryFrame_data _ rfl rfl]
      have hfunc : (ControlField.primary USER_DATA_CONF true sec.primFcb false).func ≠
          RESET_LINK := (by decide : USER_DATA_CONF ≠ RESET_LINK)
      split
      · -- the bit of the command before: it is answered again and its data is not taken
        next hbit =>
        obtain ⟨rest, hrest, heq⟩ := sendSecFixed_eq o s SecFc.CONF_ACK cfg.linkAddress
        show PeerHeard s _ _ _ (sendSecFixed o _ _ _)
        rw [heq]
        exact .repeated hrest hfunc hbit
      · -- the expected bit: the data is taken and the bit flips
        next hbit =>
        obtain ⟨rest, hrest, heq⟩ := sendSecFixed_eq o { s with fcbExpected := !s.fcbExpected }
          SecFc.CONF_ACK cfg.linkAddress
        dsimp only
        rw [if_pos rfl, heq]
        exact .taken hrest hfunc (not_not.mp hbit) rfl

end LinkState

/-! ### The exchange in the other direction -/

/-- Any acknowledgement answers any command. -/
def Acknowledges (_ : Frame) (_ : Unit) : Prop := True

/-- The outstanding request of the primary role. -/
def SecondaryState.peerAsked (s : SecondaryState) : Option (Request Frame) :=
  s.primOut.map fun f => if s.primOutCtrl.func = RESET_LINK then .reset else .counted f

/-- The sender of `l` is the primary role of the station `s`. -/
structure PeerSends (s : SecondaryState) (l : AltBit Frame Unit) : Prop where
  active : l.active = s.primActive
  bit : l.bit = s.primFcb
  out : l.out = s.peerAsked
  begun : l.sent.begun.filterMap Frame.asdu = sentBy s.log
  completed : l.sent.completed.filterMap Frame.asdu = completedBy s.log

/-- The receiver of `l` is the secondary role of the station `p`. -/
structure PeerHears (p : LinkState) (a : UInt16) (l : AltBit Frame Unit) : Prop where
  expected : l.expected = p.fcbExpected
  delivered : l.sent.delivered.filterMap Frame.asdu = deliveredFrom a p.log

/-- The two stations and what is in flight between them in this direction are those of
the alternating bit `l`. -/
structure PeerLinked (cfg : Config) (s : SecondaryState) (p : LinkState)
    (down up : Option Frame) (l : AltBit Frame Unit) : Prop where
  inv : l.Inv Acknowledges
  sends : PeerSends s l
  hears : PeerHears p cfg.linkAddress l
  command : ∀ f, s.primOut = some f → s.PeerCommand cfg f s.primOutCtrl
  req : ∀ f, down = some f → l.req = true ∧ s.primOut = some f
  rep : ∀ g, up = some g → l.rep = some () ∧ g.IsResponse

/-- Some alternating bit links the two stations. -/
def PeerPaired (cfg : Config) (s : SecondaryState) (p : LinkState) (down up : Option Frame) :
    Prop := ∃ l, PeerLinked cfg s p down up l

namespace PeerSends

variable {s t : SecondaryState} {l l' : AltBit Frame Unit}

theorem same (h : PeerSends s l) (hs : s.RoleSame t) : PeerSends t l where
  active := h.active.trans hs.primActive.symm
  bit := h.bit.trans hs.primFcb.symm
  out := by
    rw [h.out, SecondaryState.peerAsked, SecondaryState.peerAsked, hs.primOut, hs.primOutCtrl]
  begun := h.begun.trans hs.sent.symm
  completed := h.completed.trans hs.completed.symm

/-- What the receiver and the line do is not the sender's doing. -/
theorem of_eq (h : PeerSends s l) (hactive : l'.active = l.active) (hbit : l'.bit = l.bit)
    (hout : l'.out = l.out) (hbegun : l'.sent.begun = l.sent.begun)
    (hdone : l'.sent.completed = l.sent.completed) : PeerSends s l' where
  active := hactive.trans h.active
  bit := hbit.trans h.bit
  out := hout.trans h.out
  begun := by rw [hbegun, h.begun]
  completed := by rw [hdone, h.completed]

end PeerSends

namespace PeerHears

variable {p q : LinkState} {a : UInt16} {l l' : AltBit Frame Unit}

theorem same (h : PeerHears p a l) (hexp : q.fcbExpected = p.fcbExpected)
    (hgot : deliveredFrom a q.log = deliveredFrom a p.log) : PeerHears q a l where
  expected := h.expected.trans hexp.symm
  delivered := h.delivered.trans hgot.symm

/-- What the sender and the line do is not the receiver's doing. -/
theorem of_eq (h : PeerHears p a l) (hexp : l'.expected = l.expected)
    (hdone : l'.sent.delivered = l.sent.delivered) : PeerHears p a l' where
  expected := hexp.trans h.expected
  delivered := by rw [hdone, h.delivered]

theorem start (h : PeerHears p a l) (r : Request Frame) : PeerHears p a (l.start r) := by
  cases r with
  | reset => exact h.of_eq rfl rfl
  | probe => exact h.of_eq rfl rfl
  | counted f => exact h.of_eq rfl Ledger.delivered_start

theorem complete (h : PeerHears p a l) (r : Request Frame) : PeerHears p a (l.complete r) := by
  cases r with
  | reset => exact h.of_eq rfl rfl
  | probe => exact h.of_eq rfl rfl
  | counted f => exact h.of_eq rfl Ledger.delivered_finish

end PeerHears

namespace PeerLinked

variable {cfg : Config} {s t : SecondaryState} {p q : LinkState} {down up : Option Frame}
  {l : AltBit Frame Unit} {o : ClientOption}

/-- Both ends before anything was sent. -/
theorem init (shared : Shared) (now : ℕ) :
    PeerLinked cfg (.new shared [] now) (.new o) none none .init where
  inv := AltBit.inv_init
  sends := ⟨rfl, rfl, rfl, rfl, rfl⟩
  hears := ⟨rfl, rfl⟩
  command := fun _ hf => by cases hf
  req := fun _ hf => by cases hf
  rep := fun _ hf => by cases hf

variable (h : PeerLinked cfg s p down up l)

include h

/-- Nothing is in flight without an outstanding request. -/
theorem quiet (hout : s.primOut = none) : down = none ∧ up = none := by
  have hnone : l.out = none := h.sends.out.trans (by rw [SecondaryState.peerAsked, hout]; rfl)
  obtain ⟨hreq, hrep, -⟩ := h.inv.idle hnone
  constructor
  · rcases hd : down with _ | f
    · rfl
    · have hr := (h.req f hd).1
      rw [hreq] at hr
      cases hr
  · rcases hu : up with _ | g
    · rfl
    · have hr := (h.rep g hu).1
      rw [hrep] at hr
      cases hr

/-- The command and its acknowledgement are not in flight together. -/
theorem up_of_down {f : Frame} (hf : down = some f) : up = none := by
  rcases hu : up with _ | g
  · rfl
  · have hnone := h.inv.single (h.req f hf).1
    rw [(h.rep g hu).1] at hnone
    cases hnone

theorem down_of_up {g : Frame} (hg : up = some g) : down = none := by
  rcases hd : down with _ | f
  · rfl
  · have hnone := h.up_of_down hd
    rw [hg] at hnone
    cases hnone

/-- The other roles of the two stations act. -/
theorem same (hs : s.RoleSame t) (hexp : q.fcbExpected = p.fcbExpected)
    (hgot : deliveredFrom cfg.linkAddress q.log = deliveredFrom cfg.linkAddress p.log) :
    PeerLinked cfg t q down up l where
  inv := h.inv
  sends := h.sends.same hs
  hears := h.hears.same hexp hgot
  command := fun f hf => by
    rw [hs.primOutCtrl]
    have hcmd := h.command f (hs.primOut ▸ hf)
    generalize s.primOutCtrl = ctrl at hcmd ⊢
    cases hcmd with
    | reset => exact .reset
    | data raw => exact hs.primFcb ▸ .data raw
  req := hs.primOut ▸ h.req
  rep := h.rep

/-- The command in flight is lost. -/
theorem loseDown : PeerLinked cfg s p none up { l with req := false } where
  inv := h.inv.loseReq
  sends := h.sends.of_eq rfl rfl rfl rfl rfl
  hears := h.hears.of_eq rfl rfl
  command := h.command
  req := fun _ hf => by cases hf
  rep := h.rep

/-- The acknowledgement in flight is lost. -/
theorem loseUp : PeerLinked cfg s p down none { l with rep := none } where
  inv := h.inv.loseRep
  sends := h.sends.of_eq rfl rfl rfl rfl rfl
  hears := h.hears.of_eq rfl rfl
  command := h.command
  req := h.req
  rep := fun _ hf => by cases hf

/-- Neither the command nor the acknowledgement arrives any more. -/
theorem silent : PeerLinked cfg s p none none { l with req := false, rep := none } :=
  h.loseDown.loseUp

/-! ### What the sending station does -/

/-- The outstanding command is written once more on the silent line. -/
theorem again {f : Frame} {retry due : ℕ} (hf : s.primOut = some f) :
    PeerPaired cfg { s with
        primRetry := retry
        primDeadline := some due
        log := s.log ++ SecondaryState.written cfg f } p
      (carry ((SecondaryState.written cfg f).filterMap SecObs.frame) none) none := by
  have hsame : s.RoleSame { s with
      primRetry := retry
      primDeadline := some due
      log := s.log ++ SecondaryState.written cfg f } := by
    refine ⟨rfl, rfl, rfl, rfl, ?_, ?_⟩
    · show sentBy (s.log ++ _) = _
      rw [sentBy_append, SecondaryState.sentBy_written, List.append_nil]
    · show completedBy (s.log ++ _) = _
      rw [completedBy_append, SecondaryState.completedBy_written, List.append_nil]
  obtain ⟨r, hr⟩ : ∃ r, l.out = some r := by
    rw [h.sends.out, SecondaryState.peerAsked, hf]
    exact ⟨_, rfl⟩
  unfold SecondaryState.written at hsame ⊢
  split
  · -- the frame is in flight again
    rw [if_pos (by assumption)] at hsame
    have hq := h.silent.same (q := p) hsame rfl rfl
    exact ⟨{ l with req := true, rep := none }, h.inv.again hr, hq.sends.of_eq rfl rfl rfl rfl rfl,
      hq.hears.of_eq rfl rfl, hq.command, fun g hg => ⟨rfl, by cases hg; exact hf⟩,
      fun g hg => by cases hg⟩
  · rw [if_neg (by assumption)] at hsame
    exact ⟨_, h.silent.same hsame rfl rfl⟩

/-- The sending station gives up. -/
theorem gaveUp {next : ℕ} : PeerPaired cfg { s with
      primOut := none
      primRetry := 0
      primDeadline := none
      primActive := false
      primNextInit := next } p none none :=
  ⟨l.abandon, h.inv.abandon, {
    active := rfl
    bit := h.sends.bit
    out := rfl
    begun := by
      show l.sent.abandon.begun.filterMap _ = _
      rw [Ledger.begun_abandon, h.sends.begun]
    completed := by
      show l.sent.abandon.completed.filterMap _ = _
      rw [Ledger.completed_abandon, h.sends.completed] },
    h.hears.of_eq rfl Ledger.delivered_abandon, fun _ hf => (by cases hf),
    fun _ hf => (by cases hf), fun _ hf => by cases hf⟩

/-- A transaction is begun. -/
theorem began {f : Frame} {ctrl : ControlField} {sh : Shared} {next due : ℕ}
    (hout : s.primOut = none) (hcmd : s.PeerCommand cfg f ctrl)
    (hact : ctrl.func = RESET_LINK ↔ s.primActive = false) :
    PeerPaired cfg { s with
      primNextInit := next
      shared := sh
      primOut := some f
      primOutCtrl := ctrl
      primRetry := 0
      primDeadline := some due
      log := s.log ++ [.wrote f, .began f] } p (some f) up := by
  have hnone : l.out = none := h.sends.out.trans (by rw [SecondaryState.peerAsked, hout]; rfl)
  have hup := (h.quiet hout).2
  cases hcmd with
  | reset =>
    -- a reset is begun only while the link is down, and it carries no data
    have hoff : s.primActive = false := hact.mp rfl
    refine ⟨l.start .reset, h.inv.start hnone fun x hx => (by cases hx), {
      active := hoff.symm
      bit := h.sends.bit
      out := rfl
      begun := ?_
      completed := ?_ }, h.hears.start _, ?_, ?_, ?_⟩
    · show l.sent.begun.filterMap _ = sentBy (s.log ++ _)
      rw [h.sends.begun, sentBy_append]
      exact (List.append_nil _).symm
    · show l.sent.completed.filterMap _ = completedBy (s.log ++ _)
      rw [h.sends.completed, completedBy_append]
      exact (List.append_nil _).symm
    · rintro g ⟨⟩
      exact .reset
    · rintro g ⟨⟩
      exact ⟨rfl, rfl⟩
    · intro g hg
      rw [hup] at hg
      cases hg
  | data raw =>
    -- user data is begun only while the link is up, so the frame count bit is in step
    have hon : s.primActive = true := by
      rcases ha : s.primActive with _ | _
      · have hfunc : USER_DATA_CONF = RESET_LINK := hact.mpr ha
        exact absurd hfunc (by decide)
      · rfl
    refine ⟨l.start (.counted _), h.inv.start hnone fun _ _ => h.sends.active.trans hon, {
      active := h.sends.active
      bit := h.sends.bit
      out := rfl
      begun := ?_
      completed := ?_ }, h.hears.start _, ?_, ?_, ?_⟩
    · show (l.sent.start _).begun.filterMap _ = sentBy (s.log ++ _)
      rw [Ledger.begun_start, List.filterMap_append, h.sends.begun, sentBy_append]
      rfl
    · show (l.sent.start _).completed.filterMap _ = completedBy (s.log ++ _)
      rw [Ledger.completed_start, h.sends.completed, completedBy_append]
      exact (List.append_nil _).symm
    · rintro g ⟨⟩
      exact .data raw
    · rintro g ⟨⟩
      exact ⟨rfl, rfl⟩
    · intro g hg
      rw [hup] at hg
      cases hg

/-- **What a tick of the sending station does keeps the link.**  When its timer has
expired nothing is in flight any more. -/
theorem ticked {now : ℕ} (ht : SecondaryState.Ticked cfg s now t) :
    PeerPaired cfg t p (carry (responses s t) (if s.expired now then none else down))
      (if s.expired now then none else up) := by
  cases ht with
  | idle hout hctrl hfcb hact hqueue hexp hlast hbuf hlog =>
    -- nothing is written; frames on the line are lost when the timer has expired
    rw [responses_none hlog, carry_nil]
    have hsame : s.RoleSame t :=
      ⟨hout, hctrl, hfcb, hact, congrArg sentBy hlog, congrArg completedBy hlog⟩
    split
    · exact ⟨_, h.silent.same hsame rfl rfl⟩
    · exact ⟨_, h.same hsame rfl rfl⟩
  | again hout hdue =>
    -- the timer has expired, so the line is silent before the repetition
    have hexp : s.expired now = true := by rw [SecondaryState.expired, hout, hdue]; rfl
    rw [hexp, if_pos rfl, if_pos rfl,
      responses_eq (show _ = s.log ++ SecondaryState.written cfg _ from rfl)]
    exact h.again hout
  | gaveUp hout hdue =>
    have hexp : s.expired now = true := by rw [SecondaryState.expired, hout, hdue]; rfl
    rw [hexp, if_pos rfl, if_pos rfl]
    show PeerPaired cfg _ p (carry ((s.log.drop s.log.length).filterMap SecObs.frame) none) none
    rw [List.drop_length]
    exact h.gaveUp
  | @began frame ctrl sh next due hout hcmd hact hqueue hbuf =>
    have hexp : s.expired now = false := by rw [SecondaryState.expired, hout]; rfl
    rw [hexp, if_neg (by decide), if_neg (by decide),
      responses_eq (show _ = s.log ++ [.wrote frame, .began frame] from rfl)]
    exact h.began hout hcmd hact

/-- The acknowledgement `g` completes the outstanding transaction. -/
theorem confirmed {g : Frame} (hup : up = some g) :
    PeerPaired cfg (s.primConfirm true) p down none := by
  have hrep := (h.rep g hup).1
  have hdown := h.down_of_up hup
  rcases hout : s.primOut with _ | f
  · -- an acknowledgement answers the outstanding transaction
    have hnone := (h.quiet hout).2
    rw [hup] at hnone
    cases hnone
  · have hcmd := h.command f hout
    have hask : l.out = some (if s.primOutCtrl.func = RESET_LINK then .reset else .counted f) := by
      rw [h.sends.out, SecondaryState.peerAsked, hout]
      rfl
    generalize hctrl : s.primOutCtrl = ctrl at hcmd hask
    rw [hdown, SecondaryState.primConfirm_eq hout, hctrl]
    cases hcmd with
    | reset =>
      refine ⟨l.complete .reset, h.inv.complete hask hrep, {
        active := rfl
        bit := rfl
        out := rfl
        begun := ?_
        completed := ?_ }, h.hears.complete _, fun _ hf => (by cases hf),
        fun _ hf => (by cases hf), fun _ hf => by cases hf⟩
      · show l.sent.begun.filterMap _ = sentBy (s.log ++ _)
        rw [h.sends.begun, sentBy_append]
        exact (List.append_nil _).symm
      · show l.sent.completed.filterMap _ = completedBy (s.log ++ _)
        rw [h.sends.completed, completedBy_append]
        exact (List.append_nil _).symm
    | data raw =>
      have htaken := h.inv.taken hask hrep
      refine ⟨l.complete (.counted _), h.inv.complete hask hrep, {
        active := h.sends.active
        bit := congrArg (! ·) h.sends.bit
        out := rfl
        begun := ?_
        completed := ?_ }, h.hears.complete _, fun _ hf => (by cases hf),
        fun _ hf => (by cases hf), fun _ hf => by cases hf⟩
      · show l.sent.finish.begun.filterMap _ = sentBy (s.log ++ _)
        rw [Ledger.begun_finish, h.sends.begun, sentBy_append]
        exact (List.append_nil _).symm
      · show l.sent.finish.completed.filterMap _ = completedBy (s.log ++ _)
        rw [Ledger.completed_finish htaken.sent, List.filterMap_append, h.sends.completed,
          completedBy_append]
        rfl

/-- **What an acknowledgement does to the sending station keeps the link.** -/
theorem answered {g : Frame} (hup : up = some g) (ht : s.Answered t) :
    PeerPaired cfg t p down none := by
  cases ht with
  | ignored => exact ⟨_, h.loseUp⟩
  | confirmed => exact h.confirmed hup
  | refused next =>
    rw [h.down_of_up hup]
    exact h.gaveUp

/-! ### What the receiving station does -/

/-- The receiving station has answered, if its acknowledgement could be written. -/
theorem replied {l' : AltBit Frame Unit} {rest : List (Obs UInt16 Asdu)}
    (hinv : l'.Inv Acknowledges) (hsends : PeerSends s l') (hhears : PeerHears q cfg.linkAddress l')
    (hrep : l'.rep = some ()) (hrest : LinkState.IsReply rest) :
    PeerPaired cfg s q none (carry (rest.filterMap Obs.reply) none) := by
  obtain rfl | ⟨g, raw, rfl, hg⟩ := hrest
  · exact ⟨_, hinv.loseRep, hsends.of_eq rfl rfl rfl rfl rfl, hhears.of_eq rfl rfl, h.command,
      fun _ hf => (by cases hf), fun _ hf => by cases hf⟩
  · refine ⟨l', hinv, hsends, hhears, h.command, fun _ hf => (by cases hf), fun f hf => ?_⟩
    cases hf
    exact ⟨hrep, hg⟩

/-- **What a command does to the receiving station keeps the link.** -/
theorem heard {f : Frame} (hdown : down = some f)
    (hq : LinkState.PeerHeard p f s.primOutCtrl cfg.linkAddress q) :
    PeerPaired cfg s q none (carry (replies p.toPrimary q.toPrimary) up) := by
  -- the frame on the line is the outstanding command, with the bit of the abstract sender
  have hout := (h.req f hdown).2
  have hask : l.out = some (if s.primOutCtrl.func = RESET_LINK then .reset else .counted f) := by
    rw [h.sends.out, SecondaryState.peerAsked, hout]
    rfl
  have hfcb : s.primOutCtrl.func ≠ RESET_LINK → s.primOutCtrl.fcb = l.bit := by
    have hcmd := h.command f hout
    rw [h.sends.bit]
    generalize s.primOutCtrl = ctrl at hcmd
    intro hne
    cases hcmd with
    | reset => exact absurd rfl hne
    | data raw => rfl
  rw [h.up_of_down hdown]
  cases hq with
  | ignored =>
    have hnone : replies p.toPrimary p.toPrimary = [] := replies_eq (List.append_nil _).symm
    rw [hnone, carry_nil]
    -- the station is deaf to it, which is as good as a lost frame
    exact ⟨_, h.up_of_down hdown ▸ h.loseDown⟩
  | @reset rest hrest hfunc =>
    rw [if_pos hfunc] at hask
    -- the reset sets the expected bit, and nothing is delivered
    have hinv := h.inv.hear (y := ()) hask fun x hx => by cases hx
    rw [replies_eq (show _ = p.log ++ rest from rfl)]
    refine h.replied hinv (h.sends.of_eq rfl rfl rfl rfl rfl) ⟨rfl, ?_⟩ rfl hrest
    show l.sent.delivered.filterMap _ = deliveredFrom _ (p.log ++ rest)
    rw [h.hears.delivered, LinkState.deliveredFrom_reply hrest]
  | @taken rest raw hrest hfunc hbit hraw =>
    rw [if_neg hfunc] at hask
    -- the bit is the expected one, so the data is new to the receiver
    have hexp : l.expected = l.bit := by rw [h.hears.expected, ← hbit, hfcb hfunc]
    have hinv := h.inv.take (y := ()) hask hexp trivial
    have hfresh := h.inv.fresh hask hexp
    have hnews : (rest ++ [Obs.delivered cfg.linkAddress raw]).filterMap Obs.reply =
        rest.filterMap Obs.reply := by
      rw [List.filterMap_append]
      exact List.append_nil _
    rw [replies_eq (show _ = p.log ++ (rest ++ [Obs.delivered cfg.linkAddress raw]) from
      List.append_assoc _ _ _), hnews]
    refine h.replied hinv (h.sends.of_eq rfl rfl rfl Ledger.begun_deliver
      Ledger.completed_deliver) ⟨?_, ?_⟩ rfl hrest
    · show (!l.expected) = !p.fcbExpected
      rw [h.hears.expected]
    · show l.sent.deliver.delivered.filterMap _ = deliveredFrom _ (p.log ++ rest ++ _)
      rw [Ledger.delivered_deliver hfresh.sent, List.filterMap_append, h.hears.delivered,
        deliveredFrom_concat, LinkState.deliveredFrom_reply hrest]
      simp [hraw, Obs.gotData]
  | @repeated rest hrest hfunc hbit =>
    rw [if_neg hfunc] at hask
    -- the bit is not the expected one: the data was delivered when the first copy came
    have hne : l.expected ≠ l.bit := by
      rw [h.hears.expected, ← hfcb hfunc]
      exact hbit.symm
    have hinv := h.inv.resend hask hne
    obtain ⟨y, htaken⟩ := h.inv.repeated hask hne
    rw [replies_eq (show _ = p.log ++ rest from rfl)]
    refine h.replied hinv (h.sends.of_eq rfl rfl rfl rfl rfl) ⟨h.hears.expected, ?_⟩
      htaken.cached hrest
    show l.sent.delivered.filterMap _ = deliveredFrom _ (p.log ++ rest)
    rw [h.hears.delivered, LinkState.deliveredFrom_reply hrest]

end PeerLinked

end Cs101
end Iec60870
