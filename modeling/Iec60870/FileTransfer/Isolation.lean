import Iec60870.FileTransfer.Replies

/-!
# What leaves a transfer alone

Whether a failed request leaves the receiver as it was, and whether an ASDU
about another file disturbs a running transfer, at either end.

## Main definitions

* `Foreign` — an ASDU about another file than that of a transfer.
* `Receiver.Spares`, `Sender.Spares` — what an ASDU must not be.

## Main results

* `Receiver.requestFile_unchanged_iff` — **which failed requests leave the
  receiver as it was.**
* `undisturbed_iff` — **which ASDUs about another file disturb neither end.**
-/

namespace Iec60870
namespace FileTransfer

/-! ### A failed request -/

namespace Receiver

/-- **A failed request leaves the receiver as it was** when a transfer was already
running, or the select can be built.  Otherwise it is left marked busy. -/
theorem requestFile_unchanged_iff (conn : Connect) (r : Receiver) (ca : UInt16) (ioa : InfoObjAddr)
    (nof : NameOfFile) :
    (∀ e, (requestFile conn r ca ioa nof).1 = .error e →
        (requestFile conn r ca ioa nof).2.inProgress = r.inProgress) ↔
      (r.inProgress ∨ conn.params.Carries ioa) := by
  unfold requestFile
  -- the request is refused at once, and nothing is touched
  cases hactive : r.active with
  | some t =>
    have hbusy : r.inProgress := by
      unfold inProgress
      rw [hactive]
      rfl
    exact iff_of_true (fun _ _ => rfl) (.inl hbusy)
  | none =>
    have hidle : r.inProgress = false := by
      unfold inProgress
      rw [hactive]
      rfl
    rw [hidle, if_neg (by decide)]
    dsimp only
    -- the receiver is marked busy before the select is built: here the `?` of the source leaves it
    -- so
    cases hbuilt : (Active.start ca ioa nof).call conn.params 0 .SELECT_FILE with
    | error e =>
      have hc : ¬conn.params.Carries ioa := by
        intro hc
        rw [(call_eq_ok (t := .start ca ioa nof)).mpr ⟨hc, rfl⟩] at hbuilt
        cases hbuilt
      refine iff_of_false (fun h => ?_) fun h => ?_
      · have hleft := h e rfl
        cases hleft
      · exact h.elim nofun hc
    -- the select is built; a send that fails resets the receiver, one that succeeds is no error
    | ok a =>
      refine iff_of_true (fun e h => ?_) (.inr (call_eq_ok.mp hbuilt).1)
      dsimp only at h ⊢
      cases hsend : conn.send [] a with
      | error e' => rfl
      | ok u =>
        rw [hsend] at h
        cases h

/-- An address of three octets under parameters with two: the receiver is left
busy with a transfer that never started, and refuses the next request. -/
theorem requestFile_left_busy :
    let conn : Connect := ⟨paramsStandard101, fun _ _ => .ok ()⟩
    let r := (requestFile conn ⟨true, none⟩ 1 70000 1).2
    (requestFile conn ⟨true, none⟩ 1 70000 1).1 = .error .infoObjAddrFit ∧ r.inProgress = true ∧
      (requestFile conn r 1 100 1).1 = .error .transferBusy := by
  decide

end Receiver

/-! ### An ASDU about another file -/

/-- An ASDU is about another file than `nof` at `ioa` of `ca`: its common address,
or the address or the name of its object differs.  A directory is about none. -/
def Foreign (ca : UInt16) (ioa : InfoObjAddr) (nof : NameOfFile) (a : Asdu) : Prop :=
  a.identifier.typeId = .F_DR_TA_1 ∨ a.identifier.commonAddr ≠ ca ∨
    ∃ m, Message.read a = .ok m ∧ (m.ioa ≠ ioa ∨ m.nof ≠ nof)

variable {ca : UInt16} {ioa : InfoObjAddr} {nof : NameOfFile} {a : Asdu}

/-- The object of a foreign ASDU does not match all three. -/
theorem Foreign.not_match (h : Foreign ca ioa nof a) (hdir : a.identifier.typeId ≠ .F_DR_TA_1)
    {m : Message} (hread : Message.read a = .ok m) :
    ¬(nof = m.nof ∧ ioa = m.ioa ∧ ca = a.identifier.commonAddr) := by
  rintro ⟨rfl, rfl, rfl⟩
  rcases h with h | h | ⟨m', hm', h⟩
  · exact hdir h
  · exact h rfl
  · cases hread.symm.trans hm'
    exact h.elim (· rfl) (· rfl)

namespace Receiver

/-- The transfer runs on as it was, and nothing is delivered. -/
def Undisturbed (t : Active) (o : Outcome) : Prop := o.receiver.active = some t ∧ o.file = none

/-- Neither a negative file ready, nor the refusal of a file of the same address
and name. -/
def Spares (t : Active) (a : Asdu) : Prop :=
  (a.identifier.typeId = .F_FR_NA_1 → ∀ info, a.getFileReady = .ok info → info.frq.isNegative = false) ∧
    (a.identifier.typeId = .F_SC_NA_1 → a.identifier.coa.isNegative →
      ∀ info, a.getCallOrSelectFile = .ok info → ¬(t.ioa = info.ioa ∧ t.nof = info.nof))

/-- With every send succeeding the outcome is that of the transition. -/
theorem finish_of_takes {conn : Connect} (hconn : conn.Takes) (store : Option Store) (r : Receiver)
    (reply : Reply) :
    (finish store conn r reply).receiver = r ∧ (finish store conn r reply).file = reply.file ∧
      (finish store conn r reply).sent = reply.send := by
  unfold finish
  rw [hconn.sendAll]
  exact ⟨rfl, rfl, rfl⟩

theorem activeFor_foreign {r : Receiver} {t : Active} (hr : r.active = some t) {ca : UInt16}
    {ioa : InfoObjAddr} {nof : NameOfFile} (h : ¬(t.nof = nof ∧ t.ioa = ioa ∧ t.ca = ca)) :
    r.activeFor ca ioa nof = none := by
  unfold activeFor
  rw [hr]
  exact if_neg (by simpa using h)

variable {r : Receiver} {t : Active} {params : Params}

/-- A file ready of another file ends the transfer when it is negative. -/
theorem onFileReady_foreign (hr : r.active = some t) (hf : Foreign t.ca t.ioa t.nof a)
    (ht : a.identifier.typeId = .F_FR_NA_1) :
    ((onFileReady params r a).1.active = some t ∧ (onFileReady params r a).2.file = none) ↔
      ∀ info, a.getFileReady = .ok info → info.frq.isNegative = false := by
  unfold onFileReady
  cases hget : a.getFileReady with
  | error e => exact iff_of_true ⟨hr, rfl⟩ nofun
  | ok info =>
    have hread : Message.read a = .ok (.fileReady info) := by
      rw [Message.read_fileReady ht, hget]
      rfl
    have hno := hf.not_match (ht ▸ by decide) hread
    dsimp only
    -- the refusal is looked at before the file it is about
    cases hneg : info.frq.isNegative with
    | true =>
      refine iff_of_false (fun h => ?_) fun h => ?_
      · cases h.1
      · have hfalse := h info rfl
        rw [hneg] at hfalse
        cases hfalse
    -- a positive one must be of the file that was asked for
    | false =>
      have hother : t.ca ≠ a.identifier.commonAddr ∨ t.ioa ≠ info.ioa ∨ t.nof ≠ info.nof ∨
          t.called := by
        by_contra hsame
        simp only [not_or, not_not] at hsame
        exact hno ⟨hsame.2.2.1, hsame.2.1, hsame.1⟩
      rw [if_neg (by decide), hr]
      dsimp only
      rw [if_pos hother]
      refine iff_of_true ⟨hr, rfl⟩ fun info' h => ?_
      cases h
      exact hneg

/-- A refusal ends the transfer when it has its address and name. -/
theorem onRefused_foreign (hr : r.active = some t) :
    ((onRefused r a).1.active = some t ∧ (onRefused r a).2.file = none) ↔
      ∀ info, a.getCallOrSelectFile = .ok info → ¬(t.ioa = info.ioa ∧ t.nof = info.nof) := by
  unfold onRefused
  cases hget : a.getCallOrSelectFile with
  | error e => exact iff_of_true ⟨hr, rfl⟩ nofun
  | ok info =>
    dsimp only
    rw [hr]
    by_cases hsame : t.ioa = info.ioa ∧ t.nof = info.nof
    · rw [Option.filter, if_pos (by simpa using hsame)]
      refine iff_of_false (fun h => ?_) fun h => h info rfl hsame
      cases h.1
    · rw [Option.filter, if_neg (by simpa using hsame)]
      refine iff_of_true ⟨hr, rfl⟩ fun info' h => ?_
      cases h
      exact hsame

/-- What is matched by all three fields leaves the transfer alone. -/
theorem matched_foreign (hr : r.active = some t) (hf : Foreign t.ca t.ioa t.nof a)
    (ht : a.identifier.typeId = .F_SR_NA_1 ∨ a.identifier.typeId = .F_SG_NA_1 ∨
      a.identifier.typeId = .F_LS_NA_1) (host : Host) :
    (step params r host a).1 = r ∧ (step params r host a).2.file = none := by
  -- no transfer of these three fields is active
  have hnone {m : Message} (hread : Message.read a = .ok m) :
      r.activeFor a.identifier.commonAddr m.ioa m.nof = none := by
    refine activeFor_foreign hr (hf.not_match ?_ hread)
    rcases ht with ht | ht | ht <;> rw [ht] <;> decide
  rcases ht with ht | ht | ht
  · rw [step_sectionReady ht]
    unfold onSectionReady
    cases hget : a.getSectionReady with
    | error e => exact ⟨rfl, rfl⟩
    | ok info =>
      have hmatch : r.activeFor a.identifier.commonAddr info.ioa info.nof = none :=
        hnone (m := .sectionReady info) (by rw [Message.read_sectionReady ht, hget]; rfl)
      dsimp only
      rw [hmatch]
      exact ⟨rfl, rfl⟩
  · rw [step_segment ht]
    unfold onSegment
    cases hget : a.getFileSegment with
    | error e => exact ⟨rfl, rfl⟩
    | ok info =>
      have hmatch : r.activeFor a.identifier.commonAddr info.ioa info.nof = none :=
        hnone (m := .segment info) (by rw [Message.read_segment ht, hget]; rfl)
      dsimp only
      rw [hmatch]
      exact ⟨rfl, rfl⟩
  · rw [step_marker ht]
    unfold onLastSectionOrSegment
    cases hget : a.getLastSectionOrSegment with
    | error e => exact ⟨rfl, rfl⟩
    | ok info =>
      have hmatch : r.activeFor a.identifier.commonAddr info.ioa info.nof = none :=
        hnone (m := .marker info) (by rw [Message.read_marker ht, hget]; rfl)
      dsimp only
      rw [hmatch]
      exact ⟨rfl, rfl⟩

/-- **What an ASDU about another file leaves of a transfer.** -/
theorem undisturbed_iff_spares {host : Host} {store : Option Store} {conn : Connect}
    (hconn : conn.Takes) (hr : r.active = some t) (hf : Foreign t.ca t.ioa t.nof a) :
    Undisturbed t (handle host store conn r a) ↔ Spares t a := by
  unfold handle
  by_cases hfile : isFileAsdu a.identifier.typeId
  · rw [hfile, if_neg (by decide)]
    obtain ⟨hrec, hdelivered, -⟩ := finish_of_takes hconn store (step conn.params r host a).1
      (step conn.params r host a).2
    show _ = some t ∧ _ = none ↔ _
    rw [hrec, hdelivered]
    unfold Spares
    -- one case for each type of file transfer
    have hcases : a.identifier.typeId = .F_FR_NA_1 ∨ a.identifier.typeId = .F_SR_NA_1 ∨
        a.identifier.typeId = .F_SC_NA_1 ∨ a.identifier.typeId = .F_LS_NA_1 ∨
        a.identifier.typeId = .F_AF_NA_1 ∨ a.identifier.typeId = .F_SG_NA_1 ∨
        a.identifier.typeId = .F_DR_TA_1 := by
      simpa [isFileAsdu] using hfile
    have hspared (hfr : a.identifier.typeId ≠ .F_FR_NA_1)
        (hsc : a.identifier.typeId = .F_SC_NA_1 → a.identifier.coa.isNegative = false)
        (h : (step conn.params r host a).1 = r ∧ (step conn.params r host a).2.file = none) :
        ((step conn.params r host a).1.active = some t ∧
            (step conn.params r host a).2.file = none) ↔
          (a.identifier.typeId = .F_FR_NA_1 →
              ∀ info, a.getFileReady = .ok info → info.frq.isNegative = false) ∧
            (a.identifier.typeId = .F_SC_NA_1 → a.identifier.coa.isNegative →
              ∀ info, a.getCallOrSelectFile = .ok info →
                ¬(t.ioa = info.ioa ∧ t.nof = info.nof)) := by
      refine iff_of_true ⟨by rw [h.1]; exact hr, h.2⟩ ⟨fun ht => absurd ht hfr, fun ht hn => ?_⟩
      rw [hsc ht] at hn
      cases hn
    rcases hcases with ht | ht | ht | ht | ht | ht | ht
    -- a file ready
    · rw [step_fileReady ht, onFileReady_foreign hr hf ht]
      refine ⟨fun h => ⟨fun _ => h, fun hsc => ?_⟩, fun h => h.1 ht⟩
      rw [ht] at hsc
      exact absurd hsc (by decide)
    · exact hspared (ht ▸ by decide) (fun h => absurd (ht.symm.trans h) (by decide))
        (matched_foreign hr hf (.inl ht) host)
    -- a file call, which is a refused select when it is negative
    · by_cases hn : a.identifier.coa.isNegative
      · rw [step_refused ht hn, onRefused_foreign hr]
        refine ⟨fun h => ⟨fun hfr => ?_, fun _ _ => h⟩, fun h => h.2 ht hn⟩
        rw [ht] at hfr
        exact absurd hfr (by decide)
      · have hpos : a.identifier.coa.isNegative = false := Bool.eq_false_iff.mpr hn
        refine hspared (ht ▸ by decide) (fun _ => hpos) ?_
        rw [step_unsupported (.inr ht) fun _ => hpos]
        exact ⟨rfl, rfl⟩
    · exact hspared (ht ▸ by decide) (fun h => absurd (ht.symm.trans h) (by decide))
        (matched_foreign hr hf (.inr (.inr ht)) host)
    -- an acknowledgement is not for a receiver
    · have hsc : a.identifier.typeId = .F_SC_NA_1 → a.identifier.coa.isNegative = false :=
        fun h => absurd (ht.symm.trans h) (by decide)
      refine hspared (ht ▸ by decide) hsc ?_
      rw [step_unsupported (.inl ht) hsc]
      exact ⟨rfl, rfl⟩
    · exact hspared (ht ▸ by decide) (fun h => absurd (ht.symm.trans h) (by decide))
        (matched_foreign hr hf (.inr (.inl ht)) host)
    · exact hspared (ht ▸ by decide) (fun h => absurd (ht.symm.trans h) (by decide))
        (step_directory ht)
  -- other types are not file transfer, and neither end looks at them
  · rw [Bool.not_eq_true] at hfile
    rw [hfile, if_pos (by decide)]
    refine iff_of_true ⟨hr, rfl⟩ ⟨fun ht => ?_, fun ht => ?_⟩
    · rw [ht] at hfile
      exact absurd hfile (by decide)
    · rw [ht] at hfile
      exact absurd hfile (by decide)

end Receiver

namespace Sender

/-- The types that carry a file. -/
def serviceTypes : List TypeId := [.F_SG_NA_1, .F_SR_NA_1, .F_LS_NA_1]

/-- A section call, a deactivation or an acknowledgement. -/
def Steers (a : Asdu) : Prop :=
  (a.identifier.typeId = .F_AF_NA_1 ∧ ∃ ack, a.getAckFileOrSection = .ok ack) ∨
    (a.identifier.typeId = .F_SC_NA_1 ∧ ∃ req, a.getCallOrSelectFile = .ok req ∧
      req.scq.action ∈ [ScqAction.SELECT_SECTION, .REQUEST_SECTION, .DEACTIVATE_FILE,
        .DEACTIVATE_SECTION])

/-- The transfer runs on as it was, and nothing of its file is sent. -/
def Undisturbed (t : Active) (o : Option Outcome) : Prop :=
  ∃ o', o = some o' ∧ o'.sender.active = some t ∧ ∀ b ∈ o'.sent, b.identifier.typeId ∉ serviceTypes

/-- The refusal of a section call: of the section when the file is the one being
served, of the file otherwise. -/
def refusal (t : Active) (req : CallOrSelectFileInfo) : Message :=
  .ack ⟨req.ioa, req.nof, req.nos,
    if t.nof = req.nof then ⟨.NEG_ACK_SECTION, .UNEXPECTED_NAME_OF_SECTION⟩
    else ⟨.NEG_ACK_FILE, .UNEXPECTED_NAME_OF_FILE⟩⟩

/-- The current section cannot be sent under these parameters. -/
def Mute (params : Params) (t : Active) (action : ScqAction) : Prop :=
  ∃ sec, t.sections[t.cur]? = some sec ∧ (params.Carries t.ioa → action = .SELECT_SECTION ∧
    ¬UInt32.ofNat sec.length ≤ LENGTH_OF_FILE_MAX)

/-- A section call that names another file or no section, and whose refusal, if it
can be built, is taken; or one of the current section, which cannot be sent. -/
def SparesCall (conn : Connect) (t : Active) (ca : UInt16) (req : CallOrSelectFileInfo) : Prop :=
  (req.scq.action = .SELECT_SECTION ∨ req.scq.action = .REQUEST_SECTION) ∧
    if t.nof = req.nof ∧ namedSection t req ≠ none then
      namedSection t req = some t.cur ∧ Mute conn.params t req.scq.action
    else conn.params.Carries req.ioa → conn.send [] ((refusal t req).asdu conn.params ca) = .ok ()

/-- No acknowledgement of a section or a file, a negative one of a section that
cannot be sent apart. -/
def SparesAck (params : Params) (t : Active) (action : AfqAction) : Prop :=
  action ∉ [AfqAction.POS_ACK_SECTION, .POS_ACK_FILE, .NEG_ACK_FILE] ∧
    (action = .NEG_ACK_SECTION → Mute params t .REQUEST_SECTION)

/-- What an ASDU about another file must not be, for the transfer to run on. -/
def Spares (conn : Connect) (t : Active) (a : Asdu) : Prop :=
  (a.identifier.typeId = .F_AF_NA_1 → ∀ ack, a.getAckFileOrSection = .ok ack →
      SparesAck conn.params t ack.afq.action) ∧
    (a.identifier.typeId = .F_SC_NA_1 → ∀ req, a.getCallOrSelectFile = .ok req →
      SparesCall conn t a.identifier.commonAddr req)

variable {s : Sender} {t t' : Active} {conn : Connect} {params : Params}

/-- What is sent of a file disturbs its transfer, also when the send fails. -/
theorem not_undisturbed_of_sent {as : List Asdu} (hne : as ≠ [])
    (hall : ∀ b ∈ as, b.identifier.typeId ∈ serviceTypes) :
    ¬Undisturbed t (some (finish conn s (.ofSend as))) := by
  obtain ⟨b, rest, rfl⟩ := List.exists_cons_of_ne_nil hne
  rintro ⟨o, ho, hactive, hsent⟩
  cases ho
  unfold finish at hactive hsent
  rw [show (Reply.ofSend (b :: rest)).send = b :: rest from rfl, Connect.sendAll] at hactive hsent
  cases hsend : conn.send [] b with
  | error e =>
    rw [hsend] at hactive
    cases hactive
  | ok u =>
    rw [hsend] at hactive hsent
    have hmem : b ∈ (conn.sendAll ([] ++ [b]) rest).1 :=
      (conn.prefix_sendAll _ rest).subset List.mem_cons_self
    dsimp only at hactive hsent
    rcases hr : conn.sendAll ([] ++ [b]) rest with ⟨sent, _ | e⟩
    · rw [hr] at hsent hmem
      exact hsent b hmem (hall b List.mem_cons_self)
    · rw [hr] at hactive
      cases hactive

/-- An error that is only reported disturbs nothing, when the cursor stands. -/
theorem undisturbed_of_failed (hs : s.active = some t') (e : Error) :
    Undisturbed t (some (finish conn s (.failed e))) ↔ t' = t := by
  constructor
  · rintro ⟨o, ho, hactive, -⟩
    cases ho
    exact Option.some.inj (hs.symm.trans hactive)
  · rintro rfl
    exact ⟨_, rfl, hs, nofun⟩

/-- A refusal disturbs the transfer when its send fails. -/
theorem undisturbed_of_refusal (hs : s.active = some t) {ca : UInt16} {req : CallOrSelectFileInfo}
    {action : AfqAction} {error : FileError} :
    Undisturbed t (some (finish conn s (negAckReply conn.params ca req action error .noTransfer))) ↔
      (conn.params.Carries req.ioa → conn.send [] ((Message.ack
        ⟨req.ioa, req.nof, req.nos, ⟨action, error⟩⟩).asdu conn.params ca) = .ok ()) := by
  unfold negAckReply
  cases hbuilt : Asdu.ackFileOrSection conn.params transfer ca
      ⟨req.ioa, req.nof, req.nos, ⟨action, error⟩⟩ with
  -- the refusal cannot be built for this address, so only the error is reported
  | error e =>
    refine iff_of_true ((undisturbed_of_failed hs _).mpr rfl) fun hc => ?_
    have hok : (Message.ack ⟨req.ioa, req.nof, req.nos, ⟨action, error⟩⟩).build conn.params ca = _ :=
      Message.build_eq_ok.mpr ⟨hc, trivial, rfl⟩
    cases hbuilt.symm.trans hok
  -- it is built, and the send decides
  | ok a =>
    obtain ⟨hc, -, rfl⟩ := (Message.build_eq_ok
      (m := .ack ⟨req.ioa, req.nof, req.nos, ⟨action, error⟩⟩)).mp hbuilt
    dsimp only
    unfold finish
    rw [show (Reply.sendAndFail _ Error.noTransfer).send = [_] from rfl, Connect.sendAll]
    cases hsend : conn.send [] ((Message.ack
        ⟨req.ioa, req.nof, req.nos, ⟨action, error⟩⟩).asdu conn.params ca) with
    | error e =>
      refine iff_of_false ?_ fun h => by cases h hc
      rintro ⟨o, ho, hactive, -⟩
      cases ho
      cases hactive
    | ok u =>
      refine iff_of_true ⟨_, rfl, hs, ?_⟩ fun _ => rfl
      intro b hb
      rw [List.mem_singleton.mp hb]
      show TypeId.F_AF_NA_1 ∉ serviceTypes
      decide

/-- The data of the current section disturbs its transfer, when it can be sent. -/
theorem undisturbed_of_data (hs : s.active = some t') :
    Undisturbed t ((sectionData conn.params t').map fun built => finish conn s (.ofBuilt built)) ↔
      t' = t ∧ Mute conn.params t' .REQUEST_SECTION := by
  unfold sectionData Mute
  cases t'.sections[t'.cur]? with
  | none => exact iff_of_false (fun ⟨_, ho, _⟩ => by cases ho) (fun ⟨_, _, h, _⟩ => by cases h)
  | some sec =>
    cases hbuilt : serveSection conn.params t' sec with
    -- nothing can be sent of it
    | error e =>
      rw [Option.map_some, Option.map_some, hbuilt]
      refine (undisturbed_of_failed hs e).trans ?_
      refine ⟨fun h => ⟨h, sec, rfl, fun hc => ?_⟩, fun h => h.1⟩
      exact absurd (hbuilt.symm.trans (serveSection_eq_ok.mpr ⟨hc, rfl⟩)) nofun
    -- segments and their marker go out
    | ok as =>
      obtain ⟨hc, rfl⟩ := serveSection_eq_ok.mp hbuilt
      rw [Option.map_some, Option.map_some, hbuilt]
      refine iff_of_false (not_undisturbed_of_sent ?_ ?_) ?_
      · exact List.map_eq_nil_iff.not.mpr (List.append_ne_nil_of_right_ne_nil _ (List.cons_ne_nil _ _))
      · intro b hb
        obtain ⟨m, hm, rfl⟩ := List.mem_map.mp hb
        rcases List.mem_append.mp hm with hm | hm
        · obtain ⟨c, -, rfl⟩ := List.mem_map.mp hm
          show TypeId.F_SG_NA_1 ∈ serviceTypes
          decide
        · rw [List.mem_singleton.mp hm]
          show TypeId.F_LS_NA_1 ∈ serviceTypes
          decide
      · rintro ⟨-, _, -, hmute⟩
        exact absurd (hmute hc).1 (by decide)

/-- The announcement of the current section disturbs its transfer, when it can be
sent. -/
theorem undisturbed_of_ready (hs : s.active = some t') :
    Undisturbed t ((sectionReady conn.params t').map fun built => finish conn s (.ofBuilt built)) ↔
      t' = t ∧ Mute conn.params t' .SELECT_SECTION := by
  unfold sectionReady Mute
  cases t'.sections[t'.cur]? with
  | none => exact iff_of_false (fun ⟨_, ho, _⟩ => by cases ho) (fun ⟨_, _, h, _⟩ => by cases h)
  | some sec =>
    cases hbuilt : announceSection conn.params t' sec with
    | error e =>
      rw [Option.map_some, Option.map_some, hbuilt]
      refine (undisturbed_of_failed hs e).trans ?_
      refine ⟨fun h => ⟨h, sec, rfl, fun hc => ⟨rfl, fun hl => ?_⟩⟩, fun h => h.1⟩
      exact absurd (hbuilt.symm.trans (announceSection_eq_ok.mpr ⟨hc, hl, rfl⟩)) nofun
    | ok as =>
      obtain ⟨hc, hl, rfl⟩ := announceSection_eq_ok.mp hbuilt
      rw [Option.map_some, Option.map_some, hbuilt]
      refine iff_of_false (not_undisturbed_of_sent (List.cons_ne_nil _ _) ?_) ?_
      · intro b hb
        rw [List.mem_singleton.mp hb]
        show TypeId.F_SR_NA_1 ∈ serviceTypes
        decide
      · rintro ⟨-, sec', hsec, hmute⟩
        cases hsec
        exact (hmute hc).2 hl

/-- Handling a request of the sender, after its transition. -/
theorem handle_of_step {host : Host} {store : Store} (hfile : isFileAsdu a.identifier.typeId) :
    handle host store conn s a =
      (step store conn.params s host a).map fun p => finish conn p.1 p.2 := by
  unfold handle
  rw [hfile, if_neg (by decide)]
  cases step store conn.params s host a with
  | none => rfl
  | some p => rfl

/-- **What an acknowledgement of another file leaves of a transfer.** -/
theorem undisturbed_onAck (hs : s.active = some t) {ack : AckFileOrSectionInfo}
    (hget : a.getAckFileOrSection = .ok ack) :
    Undisturbed t ((onAck conn.params s a).map fun p => finish conn p.1 p.2) ↔
      SparesAck conn.params t ack.afq.action := by
  unfold onAck SparesAck
  rw [hget]
  dsimp only
  rw [hs]
  dsimp only
  -- the cursor moves on, whatever section the acknowledgement is about
  by_cases hpos : ack.afq.action = .POS_ACK_SECTION
  · rw [if_pos hpos]
    refine iff_of_false ?_ fun h => h.1 (by rw [hpos]; decide)
    have hmoved : ({ t with cur := t.cur + 1 } : Active) ≠ t := by
      intro h
      have hcur := congrArg Active.cur h
      dsimp only at hcur
      omega
    split
    · rw [Option.map_map]
      intro h
      exact hmoved ((undisturbed_of_ready (s := { s with active := some _ }) rfl).mp h).1
    -- behind the last section the end of the file is announced instead
    · rintro ⟨o, ho, hactive, hsent⟩
      cases ho
      cases hbuilt : lastSection conn.params { t with cur := t.cur + 1 } with
      | error e =>
        rw [hbuilt] at hactive
        exact hmoved (Option.some.inj hactive)
      | ok as =>
        obtain ⟨-, rfl⟩ := lastSection_eq_ok.mp hbuilt
        rw [hbuilt] at hactive hsent
        refine not_undisturbed_of_sent (List.cons_ne_nil _ _) (fun b hb => ?_)
          ⟨_, rfl, hactive, hsent⟩
        rw [List.mem_singleton.mp hb]
        show TypeId.F_LS_NA_1 ∈ serviceTypes
        decide
  · rw [if_neg hpos]
    -- the current section is sent again
    by_cases hneg : ack.afq.action = .NEG_ACK_SECTION
    · rw [if_pos hneg, Option.map_map]
      refine (undisturbed_of_data hs).trans ?_
      rw [hneg]
      exact ⟨fun h => ⟨by decide, fun _ => h.2⟩, fun h => ⟨rfl, h.2 rfl⟩⟩
    · rw [if_neg hneg]
      -- the end of the transfer
      by_cases hfile : ack.afq.action = .POS_ACK_FILE ∨ ack.afq.action = .NEG_ACK_FILE
      · rw [if_pos hfile]
        refine iff_of_false ?_ fun h => h.1 ?_
        · rintro ⟨o, ho, hactive, -⟩
          cases ho
          cases hactive
        · rcases hfile with h | h <;> rw [h] <;> decide
      · rw [if_neg hfile]
        -- any other action is ignored
        refine iff_of_true ⟨_, rfl, hs, nofun⟩ ⟨?_, fun h => absurd h hneg⟩
        intro hmem
        simp only [List.mem_cons, List.not_mem_nil, or_false] at hmem
        rcases hmem with h | h | h
        · exact hpos h
        · exact hfile (.inl h)
        · exact hfile (.inr h)

/-- What a section call leaves of a transfer. -/
theorem undisturbed_onSectionCall (hs : s.active = some t) {req : CallOrSelectFileInfo}
    (haction : req.scq.action = .SELECT_SECTION ∨ req.scq.action = .REQUEST_SECTION) :
    Undisturbed t ((onSectionCall conn.params s a req).map fun p => finish conn p.1 p.2) ↔
      SparesCall conn t a.identifier.commonAddr req := by
  unfold onSectionCall SparesCall refusal
  rw [hs, and_iff_right haction]
  -- the name is the only thing of the file that is compared
  by_cases hnof : t.nof = req.nof
  · rw [Option.filter, if_pos (decide_eq_true hnof), if_pos hnof]
    dsimp only
    cases hnamed : namedSection t req with
    | none =>
      rw [if_neg fun h => h.2 rfl]
      exact undisturbed_of_refusal hs
    | some cur =>
      rw [if_pos ⟨hnof, nofun⟩]
      dsimp only
      -- the cursor has moved to the named section before it is sent
      have hmoved {action : ScqAction} :
          ({ t with cur } : Active) = t ∧ Mute conn.params { t with cur } action ↔
            some cur = some t.cur ∧ Mute conn.params t action := by
        constructor
        · rintro ⟨h, hmute⟩
          rw [h] at hmute
          exact ⟨congrArg some (congrArg Active.cur h), hmute⟩
        · rintro ⟨h, hmute⟩
          cases h
          exact ⟨rfl, hmute⟩
      rcases haction with h | h
      · rw [h, if_neg (by decide)]
        refine Iff.trans ?_ hmoved
        refine Iff.trans (iff_of_eq (congrArg _ ?_))
          (undisturbed_of_ready (s := { s with active := some { t with cur } }) rfl)
        cases sectionReady conn.params { t with cur } with
        | none => rfl
        | some built => rfl
      · rw [h, if_pos rfl]
        refine Iff.trans ?_ hmoved
        refine Iff.trans (iff_of_eq (congrArg _ ?_))
          (undisturbed_of_data (s := { s with active := some { t with cur } }) rfl)
        cases sectionData conn.params { t with cur } with
        | none => rfl
        | some built => rfl
  · rw [Option.filter, if_neg (by simpa using hnof), if_neg hnof, if_neg fun h => hnof h.1]
    exact undisturbed_of_refusal hs

/-- **What an ASDU that steers a transfer leaves of it,** whatever file it is
about. -/
theorem undisturbed_iff_spares {host : Host} {store : Store} (hs : s.active = some t)
    (hsteers : Steers a) : Undisturbed t (handle host store conn s a) ↔ Spares conn t a := by
  unfold Spares
  rcases hsteers with ⟨ht, ack, hget⟩ | ⟨ht, req, hget, haction⟩
  · rw [handle_of_step (by rw [ht]; decide), step_ack ht, undisturbed_onAck hs hget]
    -- the acknowledgement
    refine ⟨fun h => ⟨fun _ ack' hget' => ?_, fun hsc => ?_⟩, fun h => h.1 ht ack hget⟩
    · cases hget.symm.trans hget'
      exact h
    · exact absurd (ht.symm.trans hsc) (by decide)
  · rw [handle_of_step (by rw [ht]; decide), step_call ht]
    have hcall : Undisturbed t ((onCallOrSelect store conn.params s host a).map fun p =>
        finish conn p.1 p.2) ↔ SparesCall conn t a.identifier.commonAddr req := by
      unfold onCallOrSelect
      rw [hget]
      dsimp only
      by_cases hsec : req.scq.action = .SELECT_SECTION ∨ req.scq.action = .REQUEST_SECTION
      · have hno : req.scq.action ≠ .DEFAULT ∧
            ¬(req.scq.action = .SELECT_FILE ∨ req.scq.action = .REQUEST_FILE) := by
          rcases hsec with h | h <;> rw [h] <;> decide
        rw [if_neg hno.1, if_neg hno.2, if_pos hsec]
        exact undisturbed_onSectionCall hs hsec
      -- a deactivation ends the transfer, of whatever file
      · have hdeactivate : req.scq.action = .DEACTIVATE_FILE ∨
            req.scq.action = .DEACTIVATE_SECTION := by
          simp only [List.mem_cons, List.not_mem_nil, or_false] at haction
          tauto
        have hno : req.scq.action ≠ .DEFAULT ∧
            ¬(req.scq.action = .SELECT_FILE ∨ req.scq.action = .REQUEST_FILE) := by
          rcases hdeactivate with h | h <;> rw [h] <;> decide
        rw [if_neg hno.1, if_neg hno.2, if_neg hsec, if_pos hdeactivate]
        refine iff_of_false ?_ fun h => hsec h.1
        rintro ⟨o, ho, hactive, -⟩
        cases ho
        cases hactive
    rw [hcall]
    refine ⟨fun h => ⟨fun haf => ?_, fun _ req' hget' => ?_⟩, fun h => h.2 ht req hget⟩
    · exact absurd (ht.symm.trans haf) (by decide)
    · cases hget.symm.trans hget'
      exact h

end Sender

/-- **Which ASDUs about another file disturb neither end.**  The receiver's
transfer ends with a negative file ready of any file, and with the refusal of a
file of the same address and name at another station.  The sender's is moved by
every acknowledgement, ended by every deactivation, and served on by a section
call with its name. -/
theorem undisturbed_iff {a : Asdu} (host : Host) :
    (∀ (store : Option Store) (conn : Connect) (r : Receiver) (t : Receiver.Active), conn.Takes →
        r.active = some t → Foreign t.ca t.ioa t.nof a →
          (Receiver.Undisturbed t (Receiver.handle host store conn r a) ↔ Receiver.Spares t a)) ∧
      (∀ (store : Store) (conn : Connect) (s : Sender) (t : Sender.Active),
        s.active = some t → Foreign t.ca t.ioa t.nof a → Sender.Steers a →
          (Sender.Undisturbed t (Sender.handle host store conn s a) ↔ Sender.Spares conn t a)) :=
  ⟨fun _ _ _ _ hconn hr hf => Receiver.undisturbed_iff_spares hconn hr hf,
    fun _ _ _ _ hs _ hsteers => Sender.undisturbed_iff_spares hs hsteers⟩

/-- A segment of another station's file of the same address and name leaves the
receiver alone, and a call of a section of another file the sender, which refuses it. -/
theorem undisturbed_iff_strayStation :
    let host := Host.utc ⟨2026, 3, 4, 5, 6, 7, 0, by decide⟩
    let conn : Connect := ⟨paramsWide, fun _ _ => .ok ()⟩
    let t : Receiver.Active := ⟨1, 100, 1, 1, true, [7], []⟩
    let s : Sender.Active := ⟨1, 100, 1, [[1], [2]], 1⟩
    Receiver.Undisturbed t (Receiver.handle host none conn ⟨true, some t⟩
        ((Message.segment ⟨100, 1, 1, [255]⟩).asdu paramsWide 2)) ∧
      ∀ store, Sender.Undisturbed s (Sender.handle host store conn ⟨4096, some s⟩
        ((Message.call ⟨100, 2, 1, ⟨.REQUEST_SECTION, .NONE⟩⟩).asdu paramsWide 1)) := by
  have hconn : (Connect.mk paramsWide fun _ _ => .ok ()).Takes := fun _ _ => rfl
  have hcarries : paramsWide.Carries 100 := ⟨Params.paramsWide_wellFormed, by decide⟩
  have hcall : Message.read
      ((Message.call ⟨100, 2, 1, ⟨.REQUEST_SECTION, .NONE⟩⟩).asdu paramsWide 1) = _ :=
    Message.read_asdu hcarries trivial (by decide)
  have hreq : ((Message.call ⟨100, 2, 1, ⟨.REQUEST_SECTION, .NONE⟩⟩).asdu paramsWide
      1).getCallOrSelectFile = .ok ⟨100, 2, 1, ⟨.REQUEST_SECTION, .NONE⟩⟩ := rfl
  constructor
  · refine ((undisturbed_iff _).1 none _ ⟨true, some _⟩ _ hconn rfl (.inr (.inl ?_))).mpr
      ⟨fun h => ?_, fun h => ?_⟩
    · decide
    · exact absurd h (by decide)
    · exact absurd h (by decide)
  · intro store
    refine ((undisturbed_iff _).2 store _ ⟨4096, some _⟩ _ rfl
      (.inr (.inr ⟨_, hcall, .inr ?_⟩)) (.inr ⟨rfl, _, hreq, ?_⟩)).mpr ⟨fun h => ?_, ?_⟩
    · decide
    · decide
    · exact absurd h (by decide)
    · -- the call names file 2, so it is refused, and the connection takes the refusal
      intro _ req hget
      obtain rfl := Except.ok.inj (hreq.symm.trans hget)
      exact ⟨.inr rfl, by rw [if_neg (by decide)]; exact fun _ => rfl⟩

/-- A negative file ready of another file ends the receiver's transfer, and the
acknowledgement of another file's section moves the sender to the next section,
which it announces. -/
theorem not_undisturbed_otherFile :
    let host := Host.utc ⟨2026, 3, 4, 5, 6, 7, 0, by decide⟩
    let conn : Connect := ⟨paramsWide, fun _ _ => .ok ()⟩
    let r : Receiver.Active := ⟨1, 100, 1, 1, true, [7], []⟩
    let refused := (Message.fileReady ⟨100, 2, 0, ⟨0, true⟩⟩).asdu paramsWide 1
    let s : Sender.Active := ⟨1, 100, 1, [[1], [2]], 0⟩
    let ack := (Message.ack ⟨100, 2, 1, ⟨.POS_ACK_SECTION, .NONE⟩⟩).asdu paramsWide 1
    (Foreign r.ca r.ioa r.nof refused ∧
        (Receiver.handle host none conn ⟨true, some r⟩ refused).receiver.active = none ∧
        ¬Receiver.Undisturbed r (Receiver.handle host none conn ⟨true, some r⟩ refused)) ∧
      Foreign s.ca s.ioa s.nof ack ∧ Sender.Steers ack ∧
        ∀ store, (∃ o, Sender.handle host store conn ⟨4096, some s⟩ ack = some o ∧
            o.sender.active = some { s with cur := 1 }) ∧
          ¬Sender.Undisturbed s (Sender.handle host store conn ⟨4096, some s⟩ ack) := by
  have hcarries : paramsWide.Carries 100 := ⟨Params.paramsWide_wellFormed, by decide⟩
  have hrefused : Message.read ((Message.fileReady ⟨100, 2, 0, ⟨0, true⟩⟩).asdu paramsWide 1) = _ :=
    Message.read_asdu hcarries (by decide) (by decide)
  have hack : Message.read ((Message.ack ⟨100, 2, 1, ⟨.POS_ACK_SECTION, .NONE⟩⟩).asdu paramsWide 1) =
      _ := Message.read_asdu hcarries trivial (by decide)
  refine ⟨⟨.inr (.inr ⟨_, hrefused, .inr (by decide)⟩), rfl, fun h => ?_⟩,
    .inr (.inr ⟨_, hack, .inr (by decide)⟩), .inl ⟨rfl, _, rfl⟩, fun store => ⟨⟨_, rfl, rfl⟩, ?_⟩⟩
  · cases h.1
  · rintro ⟨o, ho, hactive, -⟩
    cases ho
    cases hactive

end FileTransfer
end Iec60870
