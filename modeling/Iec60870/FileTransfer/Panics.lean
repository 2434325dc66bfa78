import Iec60870.FileTransfer.Replies

/-!
# Where the sender reads past its sections

The cursor of a sender passes the last section when that one is acknowledged, and
stays there until the transfer ends.  Two requests then read the section list at
the cursor, and the call panics.

## Main definitions

* `Sender.run` — a sequence of ASDUs, or `none` after a panic.
* `Sender.Safe` — an ASDU the sender survives.

## Main results

* `Sender.handle_isSome_iff` — one ASDU.
* `Sender.run_isSome_iff` — **which sequences of ASDUs the sender survives.**
-/

namespace Iec60870
namespace FileTransfer
namespace Sender

/-- One ASDU, with what the environment answers while it is handled. -/
structure Input where
  host : Host
  store : Store
  conn : Connect
  asdu : Asdu

/-- The inputs one after another; `none` after a panic. -/
def run : List Input → Sender → Option Sender
  | [], s => some s
  | i :: rest, s => (handle i.host i.store i.conn s i.asdu).bind fun o => run rest o.sender

/-- A transfer has sections. -/
def Sectioned (s : Sender) : Prop := ∀ t, s.active = some t → t.sections ≠ []

/-- While every section of the transfer is acknowledged, the ASDU neither refuses
a section nor requests the announced one. -/
def Safe (s : Sender) (a : Asdu) : Prop :=
  ∀ t, s.active = some t → t.sections.length ≤ t.cur →
    (a.identifier.typeId = .F_AF_NA_1 → ∀ ack, a.getAckFileOrSection = .ok ack →
      ack.afq.action ≠ .NEG_ACK_SECTION) ∧
    (a.identifier.typeId = .F_SC_NA_1 → ∀ req, a.getCallOrSelectFile = .ok req →
      ¬(req.scq.action = .REQUEST_SECTION ∧ req.nos = 0 ∧ t.nof = req.nof))

/-- Every input is safe in the state it meets. -/
def SafeRun : List Input → Sender → Prop
  | [], _ => True
  | i :: rest, s => Safe s i.asdu ∧
      ∀ o, handle i.host i.store i.conn s i.asdu = some o → SafeRun rest o.sender

variable {host : Host} {store : Store} {conn : Connect} {params : Params} {s s' : Sender} {a : Asdu}
  {t : Active} {reply : Reply}

/-! ### The invariant -/

theorem Sectioned.abort (s : Sender) : s.abort.Sectioned := nofun

/-- The cursor may move. -/
theorem Sectioned.moved (hs : s.Sectioned) (ht : s.active = some t) (cur : ℕ) :
    ({ s with active := some { t with cur } } : Sender).Sectioned := by
  intro t' h
  cases h
  exact hs t ht

theorem sectioned_onFileCall (hs : s.Sectioned) {req : CallOrSelectFileInfo}
    (h : onFileCall store params s a req = some (s', reply)) : s'.Sectioned := by
  -- a file that is opened is cut into sections, and there is at least one
  have hopen {select : Bool} (h : openFile store params s a req select = some (s', reply)) :
      s'.Sectioned := by
    unfold openFile at h
    cases hread : store.read req.ioa req.nof with
    | error e =>
      rw [hread] at h
      cases h
      exact hs
    | ok data =>
      rw [hread] at h
      have hactive : Sectioned ⟨s.sectionSize, some
          ⟨a.identifier.commonAddr, req.ioa, req.nof, splitSections data s.sectionSize, 0⟩⟩ := by
        intro t ht
        cases ht
        exact splitSections_ne_nil
      dsimp only at h
      split at h
      · cases h
        exact hactive
      · obtain ⟨built, -, h⟩ := Option.bind_eq_some_iff.mp h
        cases h
        exact hactive
  unfold onFileCall at h
  split at h
  · exact hopen h
  · cases hcalled : s.called a req with
    | none =>
      rw [hcalled] at h
      exact hopen h
    -- a call of the file that is served only moves the cursor back
    | some t =>
      rw [hcalled] at h
      obtain ⟨built, -, h⟩ := Option.bind_eq_some_iff.mp h
      cases h
      exact hs.moved (Option.filter_eq_some_iff.mp hcalled).1 0

theorem sectioned_onSectionCall (hs : s.Sectioned) {req : CallOrSelectFileInfo}
    (h : onSectionCall params s a req = some (s', reply)) : s'.Sectioned := by
  unfold onSectionCall at h
  dsimp only at h
  split at h
  · cases h
    exact hs
  · next t ht =>
    split at h
    · cases h
      exact hs
    · next cur hcur =>
      have hmoved := hs.moved (Option.filter_eq_some_iff.mp ht).1 cur
      split at h
      · obtain ⟨built, -, h⟩ := Option.bind_eq_some_iff.mp h
        cases h
        exact hmoved
      · obtain ⟨built, -, h⟩ := Option.bind_eq_some_iff.mp h
        cases h
        exact hmoved

theorem sectioned_onDeleteFile (hs : s.Sectioned) (req : CallOrSelectFileInfo) :
    (onDeleteFile store params s a req).1.Sectioned := by
  unfold onDeleteFile
  split
  · exact hs
  · intro t ht
    exact hs t (Option.filter_eq_some_iff.mp ht).1

/-- A transfer keeps its sections. -/
theorem sectioned_step (hs : s.Sectioned) (h : step store params s host a = some (s', reply)) :
    s'.Sectioned := by
  unfold step at h
  split at h
  -- a call or a select: by its action, in the order the source tests them
  · unfold onCallOrSelect at h
    split at h
    · cases h
      exact hs
    · next req hreq =>
      dsimp only at h
      split at h
      · obtain ⟨reply', -, h⟩ := Option.map_eq_some_iff.mp h
        cases h
        exact hs
      · split at h
        · exact sectioned_onFileCall hs h
        · split at h
          · exact sectioned_onSectionCall hs h
          · split at h
            · cases h
              exact .abort s
            · split at h
              · have hdeleted : (onDeleteFile store params s a req).1 = s' :=
                  congrArg Prod.fst (Option.some.inj h)
                exact hdeleted ▸ sectioned_onDeleteFile hs req
              · cases h
                exact hs
  -- an acknowledgement moves the cursor, ends the transfer, or is ignored
  · split at h
    · unfold onAck at h
      split at h
      · cases h
        exact hs
      · next ack hack =>
        cases hactive : s.active with
        | none =>
          rw [hactive] at h
          cases h
          exact hs
        | some t =>
          rw [hactive] at h
          dsimp only at h
          split at h
          · split at h
            · obtain ⟨built, -, h⟩ := Option.map_eq_some_iff.mp h
              cases h
              exact hs.moved hactive _
            · cases h
              exact hs.moved hactive _
          · split at h
            · obtain ⟨built, -, h⟩ := Option.map_eq_some_iff.mp h
              cases h
              exact hs
            · split at h
              · cases h
                exact .abort s
              · cases h
                exact hs
    · cases h
      exact hs

/-- The sends change nothing but end the transfer. -/
theorem sectioned_finish (hs : s.Sectioned) (conn : Connect) (reply : Reply) :
    (finish conn s reply).sender.Sectioned := by
  unfold finish
  split
  · exact .abort s
  · split
    · exact hs
    · exact hs

theorem sectioned_handle (hs : s.Sectioned) {o : Outcome}
    (h : handle host store conn s a = some o) : o.sender.Sectioned := by
  unfold handle at h
  split at h
  · cases h
    exact hs
  · obtain ⟨⟨s', reply⟩, hstep, h⟩ := Option.bind_eq_some_iff.mp h
    cases h
    exact sectioned_finish (sectioned_step hs hstep) conn reply

/-! ### One ASDU -/

theorem directory_isSome (hw : params.WellFormed) (ca : UInt16) :
    (directory host store params ca).isSome := by
  unfold directory
  split
  · rfl
  · split
    · rfl
    · rw [if_neg (directoryCapacity_pos hw).ne']
      rfl

/-- The current section is read when the cursor is at one. -/
theorem sectionReady_isSome_iff : (sectionReady params t).isSome ↔ t.cur < t.sections.length := by
  unfold sectionReady
  rw [Option.isSome_map, isSome_getElem?]

theorem sectionData_isSome_iff : (sectionData params t).isSome ↔ t.cur < t.sections.length := by
  unfold sectionData
  rw [Option.isSome_map, isSome_getElem?]

theorem sectionIndex_lt {nos : UInt8} {len idx : ℕ} (h : sectionIndex nos len = some idx) :
    idx < len := by
  unfold sectionIndex at h
  split at h
  · cases h
  · split at h
    · next hlt =>
      cases h
      exact hlt
    · cases h

/-- A call of a file reads its first section. -/
theorem onFileCall_isSome (hs : s.Sectioned) (req : CallOrSelectFileInfo) :
    (onFileCall store params s a req).isSome := by
  have hopen (select : Bool) : (openFile store params s a req select).isSome := by
    unfold openFile
    cases store.read req.ioa req.nof with
    | error e => rfl
    | ok data =>
      dsimp only
      split
      -- the announcement reads the section at the cursor, which is the first
      · rfl
      · have hready : (sectionReady params ⟨a.identifier.commonAddr, req.ioa, req.nof,
            splitSections data s.sectionSize, 0⟩).isSome ↔ _ := sectionReady_isSome_iff
        obtain ⟨built, hbuilt⟩ := Option.isSome_iff_exists.mp
          (hready.mpr (List.length_pos_iff.mpr splitSections_ne_nil))
        rw [hbuilt]
        rfl
  unfold onFileCall
  split
  · exact hopen true
  · cases hcalled : s.called a req with
    | none => exact hopen false
    | some t =>
      have hne := hs t (Option.filter_eq_some_iff.mp hcalled).1
      have hready : (sectionReady params { t with cur := 0 }).isSome ↔ _ := sectionReady_isSome_iff
      obtain ⟨built, hbuilt⟩ := Option.isSome_iff_exists.mp
        (hready.mpr (List.length_pos_iff.mpr hne))
      dsimp only
      unfold recallFile
      dsimp only
      rw [hbuilt]
      rfl

/-- A section call reads past the sections when it requests the announced one. -/
theorem onSectionCall_isSome_iff {req : CallOrSelectFileInfo} :
    (onSectionCall params s a req).isSome ↔ ∀ t, s.active = some t → t.sections.length ≤ t.cur →
      ¬(req.scq.action = .REQUEST_SECTION ∧ req.nos = 0 ∧ t.nof = req.nof) := by
  unfold onSectionCall
  dsimp only
  -- a call of another file is refused and reads nothing
  cases hfilter : s.active.filter (·.nof = req.nof) with
  | none =>
    refine iff_of_true rfl fun t ht _ h => ?_
    rw [ht] at hfilter
    have hne := Option.filter_eq_none_iff.mp hfilter t rfl
    exact hne (decide_eq_true h.2.2)
  | some t =>
    obtain ⟨ht, hnof⟩ := Option.filter_eq_some_iff.mp hfilter
    have hnof : t.nof = req.nof := of_decide_eq_true hnof
    dsimp only
    cases hnamed : namedSection t req with
    | none =>
      refine iff_of_true rfl fun t' ht' _ h => ?_
      unfold namedSection at hnamed
      rw [if_pos ⟨h.1, h.2.1⟩] at hnamed
      cases hnamed
    | some cur =>
      -- only the announced section can lie past the last one
      have hcur : cur < t.sections.length ↔ (t.sections.length ≤ t.cur →
          ¬(req.scq.action = .REQUEST_SECTION ∧ req.nos = 0)) := by
        unfold namedSection at hnamed
        split at hnamed
        · next h0 =>
          cases hnamed
          exact ⟨fun hlt hle => absurd hlt (Nat.not_lt.mpr hle),
            fun h => Nat.not_le.mp fun hle => h hle h0⟩
        · next h0 => exact iff_of_true (sectionIndex_lt hnamed) fun _ => h0
      have hactive : (∀ t', s.active = some t' → t'.sections.length ≤ t'.cur →
          ¬(req.scq.action = .REQUEST_SECTION ∧ req.nos = 0 ∧ t'.nof = req.nof)) ↔
          cur < t.sections.length := by
        rw [hcur]
        constructor
        · intro h hle hreq
          exact h t ht hle ⟨hreq.1, hreq.2, hnof⟩
        · intro h t' ht' hle hreq
          cases ht.symm.trans ht'
          exact h hle ⟨hreq.1, hreq.2.1⟩
      rw [hactive]
      dsimp only
      split
      · have hdata : (sectionData params { t with cur }).isSome ↔ cur < t.sections.length :=
          sectionData_isSome_iff
        rw [← hdata]
        cases sectionData params { t with cur } with
        | none => exact Iff.rfl
        | some built => exact Iff.rfl
      · have hready : (sectionReady params { t with cur }).isSome ↔ cur < t.sections.length :=
          sectionReady_isSome_iff
        rw [← hready]
        cases sectionReady params { t with cur } with
        | none => exact Iff.rfl
        | some built => exact Iff.rfl

/-- An acknowledgement reads past the sections when it refuses one. -/
theorem onAck_isSome_iff :
    (onAck params s a).isSome ↔ ∀ t, s.active = some t → t.sections.length ≤ t.cur →
      ∀ ack, a.getAckFileOrSection = .ok ack → ack.afq.action ≠ .NEG_ACK_SECTION := by
  unfold onAck
  cases hget : a.getAckFileOrSection with
  | error e => exact iff_of_true rfl fun _ _ _ => nofun
  | ok ack =>
    cases hactive : s.active with
    | none => exact iff_of_true rfl nofun
    | some t =>
      dsimp only
      by_cases hneg : ack.afq.action = .NEG_ACK_SECTION
      -- the section at the cursor is sent again, so there must be one
      · rw [if_neg (by rw [hneg]; decide), if_pos hneg, Option.isSome_map, sectionData_isSome_iff]
        constructor
        · intro hlt t' ht' hle
          cases ht'
          exact absurd hlt (Nat.not_lt.mpr hle)
        · intro h
          exact Nat.not_le.mp fun hle => h t rfl hle ack rfl hneg
      -- a positive acknowledgement looks before it reads
      · refine iff_of_true ?_ fun t' _ _ ack' hack' => ?_
        · split
          · split
            · next hlt =>
              rw [Option.isSome_map]
              exact sectionReady_isSome_iff.mpr hlt
            · rfl
          · split
            · rfl
            · rfl
        · cases hack'
          exact hneg

/-- Sending a reply does not panic. -/
theorem isSome_finish (x : Option (Sender × Reply)) :
    ((do
      let (s', reply) ← x
      return finish conn s' reply) : Option Outcome).isSome ↔ x.isSome := by
  cases x with
  | none => exact Iff.rfl
  | some p => exact Iff.rfl

/-- **Which ASDUs the sender survives.** -/
theorem handle_isSome_iff (hw : conn.params.WellFormed) (hs : s.Sectioned) :
    (handle host store conn s a).isSome ↔ s.Safe a := by
  unfold handle Safe
  by_cases hfile : isFileAsdu a.identifier.typeId
  · rw [hfile, if_neg (by decide)]
    rw [isSome_finish]
    -- the two types whose transition can read past the sections
    by_cases hsc : a.identifier.typeId = .F_SC_NA_1
    · have haf : a.identifier.typeId ≠ .F_AF_NA_1 := by
        rw [hsc]
        decide
      rw [step_call hsc]
      unfold onCallOrSelect
      cases hget : a.getCallOrSelectFile with
      | error e =>
        refine iff_of_true rfl fun _ _ _ => ⟨fun h => absurd h haf, fun _ req hreq => ?_⟩
        cases hreq
      | ok req =>
        dsimp only
        -- an action other than REQUEST_SECTION reads no further than it has looked
        have hsafe (h : req.scq.action ≠ .REQUEST_SECTION) :
            ∀ t, s.active = some t → t.sections.length ≤ t.cur →
              (a.identifier.typeId = .F_AF_NA_1 → ∀ ack, a.getAckFileOrSection = .ok ack →
                ack.afq.action ≠ .NEG_ACK_SECTION) ∧
              (a.identifier.typeId = .F_SC_NA_1 → ∀ req', (.ok req : Except Error CallOrSelectFileInfo) = .ok req' →
                ¬(req'.scq.action = .REQUEST_SECTION ∧ req'.nos = 0 ∧ t.nof = req'.nof)) := by
          intro t _ _
          refine ⟨fun h' => absurd h' haf, fun _ req' hreq' hbad => ?_⟩
          cases hreq'
          exact h hbad.1
        split
        · next h =>
          rw [Option.isSome_map]
          exact iff_of_true (directory_isSome hw _) (hsafe (by rw [h]; decide))
        · split
          · next h =>
            refine iff_of_true (onFileCall_isSome hs req) (hsafe ?_)
            rcases h with h | h <;> rw [h] <;> decide
          · split
            · rw [onSectionCall_isSome_iff]
              refine forall_congr' fun t => forall_congr' fun _ => forall_congr' fun _ => ?_
              refine ⟨fun h => ⟨fun h' => absurd h' haf, fun _ req' hreq' => ?_⟩,
                fun h => h.2 hsc req rfl⟩
              cases hreq'
              exact h
            · next hsec =>
              have hno : req.scq.action ≠ .REQUEST_SECTION := fun h => hsec (.inr h)
              split
              · exact iff_of_true rfl (hsafe hno)
              · split
                · exact iff_of_true rfl (hsafe hno)
                · exact iff_of_true rfl (hsafe hno)
    · by_cases haf : a.identifier.typeId = .F_AF_NA_1
      · rw [step_ack haf, onAck_isSome_iff]
        refine forall_congr' fun t => forall_congr' fun _ => forall_congr' fun _ => ?_
        exact ⟨fun h => ⟨fun _ => h, fun h' => absurd h' hsc⟩, fun h => h.1 haf⟩
      · unfold step
        rw [if_neg hsc, if_neg haf]
        exact iff_of_true rfl fun _ _ _ => ⟨fun h => absurd h haf, fun h => absurd h hsc⟩
  -- other types are not handled at all
  · rw [Bool.not_eq_true] at hfile
    rw [hfile, if_pos (by decide)]
    refine iff_of_true rfl fun _ _ _ => ⟨fun h => ?_, fun h => ?_⟩
    · rw [h] at hfile
      exact absurd hfile (by decide)
    · rw [h] at hfile
      exact absurd hfile (by decide)

/-! ### Sequences of ASDUs -/

/-- **Which sequences of ASDUs the sender survives:** those that neither refuse a
section nor request the announced one while every section of the transfer is
acknowledged. -/
theorem run_isSome_iff (sectionSize : ℕ) (inputs : List Input)
    (hw : ∀ i ∈ inputs, i.conn.params.WellFormed) :
    (run inputs ⟨sectionSize, none⟩).isSome ↔ SafeRun inputs ⟨sectionSize, none⟩ := by
  have hrun (inputs : List Input) (hw : ∀ i ∈ inputs, i.conn.params.WellFormed) (s : Sender)
      (hs : s.Sectioned) : (run inputs s).isSome ↔ SafeRun inputs s := by
    induction inputs generalizing s with
    | nil => exact iff_of_true rfl trivial
    | cons i rest ih =>
      unfold run SafeRun
      have hone : (handle i.host i.store i.conn s i.asdu).isSome ↔ s.Safe i.asdu :=
        handle_isSome_iff (hw i List.mem_cons_self) hs
      rw [← hone]
      cases hhandle : handle i.host i.store i.conn s i.asdu with
      | none => exact iff_of_false Bool.false_ne_true fun h => Bool.false_ne_true h.1
      | some o =>
        rw [Option.bind_some, ih (fun i' hi' => hw i' (List.mem_cons_of_mem _ hi')) o.sender
          (sectioned_handle hs hhandle)]
        refine ⟨fun h => ⟨rfl, fun o' ho' => ?_⟩, fun h => h.2 o rfl⟩
        cases ho'
        exact h
  exact hrun inputs hw _ nofun

/-- An outstation with one file of three octets, and a connection that takes
everything. -/
def oneFile (m : Message) : Input where
  host := .utc ⟨2026, 3, 4, 5, 6, 7, 0, by decide⟩
  store := ⟨.ok [], fun _ _ => .ok [1, 2, 3], fun _ _ _ => .ok (), fun _ _ => .ok ()⟩
  conn := ⟨paramsWide, fun _ _ => .ok ()⟩
  asdu := m.asdu paramsWide 1

/-- A file of one section is selected, called, requested and acknowledged. -/
def servedOnce : List Input :=
  [oneFile (.call ⟨100, 1, 0, ⟨.SELECT_FILE, .NONE⟩⟩),
    oneFile (.call ⟨100, 1, 0, ⟨.REQUEST_FILE, .NONE⟩⟩),
    oneFile (.call ⟨100, 1, 1, ⟨.REQUEST_SECTION, .NONE⟩⟩),
    oneFile (.ack ⟨100, 1, 1, ⟨.POS_ACK_SECTION, .NONE⟩⟩)]

/-- That sequence is survived. -/
theorem run_isSome_iff_servedOnce : SafeRun servedOnce ⟨4096, none⟩ := by
  have hw : ∀ i ∈ servedOnce, i.conn.params.WellFormed := by
    intro i hi
    simp only [servedOnce, List.mem_cons, List.not_mem_nil, or_false] at hi
    rcases hi with rfl | rfl | rfl | rfl <;> exact Params.paramsWide_wellFormed
  exact (run_isSome_iff 4096 servedOnce hw).mp (by decide +kernel)

/-- Afterwards the section is refused, or requested again without its number: each
is an ASDU the station accepts, and a panic. -/
theorem run_panics :
    (∀ m : Message, m = .ack ⟨100, 1, 1, ⟨.NEG_ACK_SECTION, .NONE⟩⟩ ∨
        m = .call ⟨100, 1, 0, ⟨.REQUEST_SECTION, .NONE⟩⟩ →
      run (servedOnce ++ [oneFile m]) ⟨4096, none⟩ = none) ∧
    ∀ i ∈ servedOnce ++ [oneFile (.ack ⟨100, 1, 1, ⟨.NEG_ACK_SECTION, .NONE⟩⟩),
        oneFile (.call ⟨100, 1, 0, ⟨.REQUEST_SECTION, .NONE⟩⟩)],
      ∃ raw, Asdu.unmarshalBinary paramsWide raw = .ok i.asdu := by
  have haccepted {m : Message} (hl : m.LengthFits paramsWide) :
      ∃ raw, Asdu.unmarshalBinary paramsWide raw = .ok (oneFile m).asdu := by
    have hca : paramsWide.EncodesCommonAddr 1 := by decide
    obtain ⟨raw, -, -, hraw⟩ := Message.unmarshal_marshal Params.paramsWide_wellFormed hl hca
    exact ⟨raw, hraw⟩
  constructor
  · rintro m (rfl | rfl)
    · decide +kernel
    · decide +kernel
  · intro i hi
    simp only [servedOnce, List.cons_append, List.nil_append, List.mem_cons, List.not_mem_nil,
      or_false] at hi
    rcases hi with rfl | rfl | rfl | rfl | rfl | rfl <;> exact haccepted trivial

end Sender
end FileTransfer
end Iec60870
