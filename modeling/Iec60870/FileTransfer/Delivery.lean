import Iec60870.FileTransfer.Script

/-!
# An undisturbed transfer

Once a file is requested and nobody interferes, a transfer goes through a fixed
script: the select and its confirmation, the call of the file, and for each section
its announcement, its call, its segments with their marker and the acknowledgement;
last the end of the file and its acknowledgement.  At every moment one channel is
empty, so that the order of the deliveries is no choice.

## Main definitions

* `Stage` — where in the script the two ends are, and how many ASDUs are to come.
* `exchangeLength` — how many ASDUs a transfer takes.

## Main results

* `InStage.next` — a delivery takes the ends one ASDU further in the script.
* `Ends.delivers` — **an undisturbed transfer ends, and delivers the file.**
-/

namespace Iec60870
namespace FileTransfer

open Message
open Sender (serving served)
open Receiver (busy)

/-- How many ASDUs the sections of a file take: its announcement, its call, its
segments, their marker and the acknowledgement of each. -/
def sectionAsdus (max : ℕ) (secs : List Octets) : ℕ :=
  (secs.map fun sec => 4 + (sec.chunks max).length).sum

/-- How many ASDUs the transfer of a file takes. -/
def exchangeLength (params : Params) (data : Octets) (sectionSize : ℕ) : ℕ :=
  3 + sectionAsdus params.maxSegmentSize (splitSections data sectionSize) + 2

/-- The entry of a file that was received. -/
def received (ioa : InfoObjAddr) (nof : NameOfFile) (data : Octets) : Entry × Octets :=
  (⟨ioa, nof, .ofNat data.length, none, false⟩, data)

section script

variable (max : ℕ) (ca : UInt16) (ioa : InfoObjAddr) (nof : NameOfFile) (data : Octets)
  (sectionSize : ℕ) (autoAccept : Bool)

/-- The receiver with the first `i` sections, while it assembles another one. -/
def assembling (nos : UInt8) (called : Bool) (sectionBuf : Octets) (i : ℕ) : Receiver :=
  busy autoAccept
    ⟨ca, ioa, nof, nos, called, sectionBuf, ((splitSections data sectionSize).take i).flatten⟩

/-- The ASDUs to come from the announcement of the section `i` on. -/
def toCome (i : ℕ) : ℕ := sectionAsdus max ((splitSections data sectionSize).drop i) + 2

/-- The script of a transfer: the two ends, the messages on their way to the sender
and to the receiver, the files delivered, and the number of ASDUs to come. -/
inductive Stage : Sender → Receiver → List Message → List Message → List (Entry × Octets) → ℕ → Prop
  | selecting : Stage ⟨sectionSize, none⟩
      (assembling ca ioa nof data sectionSize autoAccept 0 false [] 0)
      [request ioa nof 0 .SELECT_FILE] [] [] (3 + toCome max data sectionSize 0)
  | selected : Stage (served ca ioa nof data sectionSize 0)
      (assembling ca ioa nof data sectionSize autoAccept 0 false [] 0)
      [] [(serving ca ioa nof data sectionSize 0).confirmation data.length] []
      (2 + toCome max data sectionSize 0)
  | calling : Stage (served ca ioa nof data sectionSize 0)
      (assembling ca ioa nof data sectionSize autoAccept 0 true [] 0)
      [request ioa nof 0 .REQUEST_FILE] [] [] (1 + toCome max data sectionSize 0)
  | announced {i : ℕ} {sec : Octets} (nos : UInt8)
      (hsec : (splitSections data sectionSize)[i]? = some sec) :
      Stage (served ca ioa nof data sectionSize i)
        (assembling ca ioa nof data sectionSize autoAccept nos true [] i)
        [] [(serving ca ioa nof data sectionSize i).announcement sec] []
        (toCome max data sectionSize i)
  | requested {i : ℕ} {sec : Octets} (hsec : (splitSections data sectionSize)[i]? = some sec) :
      Stage (served ca ioa nof data sectionSize i)
        (assembling ca ioa nof data sectionSize autoAccept (.ofNat (i + 1)) true [] i)
        [request ioa nof (.ofNat (i + 1)) .REQUEST_SECTION] [] []
        (3 + (sec.chunks max).length + toCome max data sectionSize (i + 1))
  | sending {i : ℕ} {sec : Octets} {pre post : List Octets}
      (hsec : (splitSections data sectionSize)[i]? = some sec)
      (hchunks : sec.chunks max = pre ++ post) :
      Stage (served ca ioa nof data sectionSize i)
        (assembling ca ioa nof data sectionSize autoAccept (.ofNat (i + 1)) true pre.flatten i)
        [] (post.map (serving ca ioa nof data sectionSize i).segment ++
          [(serving ca ioa nof data sectionSize i).sectionEnd sec]) []
        (2 + post.length + toCome max data sectionSize (i + 1))
  | acked {i : ℕ} {sec : Octets} (hsec : (splitSections data sectionSize)[i]? = some sec) :
      Stage (served ca ioa nof data sectionSize i)
        (assembling ca ioa nof data sectionSize autoAccept (.ofNat (i + 1)) true [] (i + 1))
        [accept ioa nof (.ofNat (i + 1)) .POS_ACK_SECTION] [] []
        (1 + toCome max data sectionSize (i + 1))
  | closing {i : ℕ} (nos : UInt8) (hlast : (splitSections data sectionSize).length ≤ i) :
      Stage (served ca ioa nof data sectionSize i)
        (assembling ca ioa nof data sectionSize autoAccept nos true [] i)
        [] [(serving ca ioa nof data sectionSize i).fileEnd] [] 2
  | closed {i : ℕ} (nos : UInt8) : Stage (served ca ioa nof data sectionSize i)
      ⟨autoAccept, none⟩ [accept ioa nof nos .POS_ACK_FILE] [] [received ioa nof data] 1
  | done : Stage ⟨sectionSize, none⟩ ⟨autoAccept, none⟩ [] [] [received ioa nof data] 0

/-- The two ends and their channels are in a stage of the script, and every call of
`handle` has succeeded. -/
def InStage (plant : Plant) (s : Ends) (n : ℕ) : Prop :=
  ∃ ms ms', Stage plant.params.maxSegmentSize ca ioa nof data sectionSize autoAccept
      s.sender s.receiver ms ms' s.files n ∧
    s.toSender = ms.map (packet plant.params ca 1) ∧
    s.toReceiver = ms'.map (packet plant.params ca 1) ∧
    s.transfers = 1 ∧ ∀ r ∈ s.results, r = .ok true

/-- One ASDU further: exactly one channel has something to deliver, and delivering it
leads to the stage with an ASDU less to come. -/
def Advances (plant : Plant) (s : Ends) (n : ℕ) : Prop :=
  ∃ k t, n = k + 1 ∧ InStage ca ioa nof data sectionSize autoAccept plant t k ∧
    (s.toReceiver = [] ∧ s.step plant .toSender = some t ∨
      s.toSender = [] ∧ s.step plant .toReceiver = some t)

end script

/-! ### Counting -/

section counting

variable {max : ℕ} {data : Octets} {sectionSize i : ℕ} {sec : Octets}

theorem toCome_section (hsec : (splitSections data sectionSize)[i]? = some sec) :
    toCome max data sectionSize i =
      4 + (sec.chunks max).length + toCome max data sectionSize (i + 1) := by
  obtain ⟨hi, rfl⟩ := List.getElem?_eq_some_iff.mp hsec
  unfold toCome sectionAsdus
  rw [List.drop_eq_getElem_cons hi, List.map_cons, List.sum_cons, Nat.add_assoc]

theorem toCome_end (hlast : (splitSections data sectionSize).length ≤ i) :
    toCome max data sectionSize i = 2 := by
  unfold toCome
  rw [List.drop_eq_nil_of_le hlast]
  rfl

theorem flatten_take_succ (hsec : (splitSections data sectionSize)[i]? = some sec) :
    ((splitSections data sectionSize).take (i + 1)).flatten =
      ((splitSections data sectionSize).take i).flatten ++ sec := by
  rw [List.take_add_one, hsec, List.flatten_append]
  exact congrArg _ (List.append_nil sec)

end counting

/-! ### One ASDU further -/

section moves

variable {plant : Plant} {ca : UInt16} {ioa : InfoObjAddr} {nof : NameOfFile} {data : Octets}
  {sectionSize : ℕ} {autoAccept : Bool} {s : Ends} {n k : ℕ} {m : Message} {out : List Message}

/-- A move of the sender along the script. -/
theorem next_toSender (hk : n = k + 1) (h : plant.Serves ca ioa nof data) {sender : Sender}
    (hS : s.toSender = [m].map (packet plant.params ca 1)) (hR : s.toReceiver = [])
    (hn : s.transfers = 1) (hok : ∀ r ∈ s.results, r = .ok true)
    (hstep : Sender.step plant.store plant.params s.sender plant.host (m.asdu plant.params ca) =
      some (sender, .ofSend (out.map (asdu plant.params ca))))
    (hstage : Stage plant.params.maxSegmentSize ca ioa nof data sectionSize autoAccept
      sender s.receiver [] out s.files k)
    (hl : m.LengthFits plant.params) (hout : ∀ m ∈ out, m.LengthFits plant.params) :
    Advances ca ioa nof data sectionSize autoAccept plant s n := by
  have hnext := Ends.step_toSender h.carries.1 h.encodes hl hout hS hstep
  refine ⟨k, _, hk, ?_, .inl ⟨hR, hnext⟩⟩
  refine ⟨[], out, hstage, rfl, ?_, hn, ?_⟩
  · show s.toReceiver ++ _ = _
    rw [hR, List.nil_append]
  · intro r hr
    rcases List.mem_append.mp hr with hr | hr
    · exact hok r hr
    · exact List.mem_singleton.mp hr

/-- A move of the receiver along the script. -/
theorem next_toReceiver (hk : n = k + 1) (h : plant.Serves ca ioa nof data) {rest : List Message}
    {receiver : Receiver} {file : Option (Entry × Octets)} (hS : s.toSender = [])
    (hR : s.toReceiver = (m :: rest).map (packet plant.params ca 1)) (hn : s.transfers = 1)
    (hok : ∀ r ∈ s.results, r = .ok true) (hbusy : s.receiver.inProgress = true)
    (hstep : Receiver.step plant.params s.receiver plant.host (m.asdu plant.params ca) =
      (receiver, ⟨out.map (asdu plant.params ca), file, none, none⟩))
    (hstored : (Receiver.Reply.mk (out.map (asdu plant.params ca)) file none none).stored
      plant.archive = none)
    (hstage : Stage plant.params.maxSegmentSize ca ioa nof data sectionSize autoAccept
      s.sender receiver out rest (s.files ++ file.toList) k)
    (hl : m.LengthFits plant.params) (hout : ∀ m ∈ out, m.LengthFits plant.params) :
    Advances ca ioa nof data sectionSize autoAccept plant s n := by
  have hnext := Ends.step_toReceiver h.carries.1 h.encodes hl hout hR hstep hstored
  have hsame : s.transfers + begun s.receiver receiver = 1 := by
    unfold begun
    rw [hbusy, hn]
    rfl
  refine ⟨k, _, hk, ?_, .inr ⟨hS, hnext⟩⟩
  refine ⟨out, rest, hstage, ?_, rfl, hsame, ?_⟩
  · show s.toSender ++ _ = _
    rw [hS, List.nil_append, hsame]
  · intro r hr
    rcases List.mem_append.mp hr with hr | hr
    · exact hok r hr
    · exact List.mem_singleton.mp hr

/-- The store of the receiver takes the file. -/
def Plant.Archives (plant : Plant) (ioa : InfoObjAddr) (nof : NameOfFile) (data : Octets) : Prop :=
  ∀ archive ∈ plant.archive, archive.write ioa nof data = .ok ()

theorem stored_received (harch : plant.Archives ioa nof data) (sent : List Asdu) :
    (Receiver.Reply.mk sent (some (received ioa nof data)) none none).stored plant.archive =
      none := by
  unfold Receiver.Reply.stored
  rcases ha : plant.archive with _ | archive
  · rfl
  · simp only [received, harch archive ha]

theorem stored_nothing (sent : List Asdu) :
    (Receiver.Reply.mk sent none none none).stored plant.archive = none := by
  cases plant.archive <;> rfl

theorem fits_single (hl : m.LengthFits plant.params) :
    ∀ m' ∈ [m], m'.LengthFits plant.params := by
  intro m' hm'
  rw [List.mem_singleton.mp hm']
  exact hl

theorem fits_data {i : ℕ} {sec : Octets} :
    ∀ m ∈ (serving ca ioa nof data sectionSize i).data plant.params.maxSegmentSize sec,
      m.LengthFits plant.params := by
  intro m hm
  rcases List.mem_append.mp hm with hm | hm
  · obtain ⟨c, hc, rfl⟩ := List.mem_map.mp hm
    exact List.length_le_of_mem_chunks hc
  · rw [List.mem_singleton.mp hm]
    trivial

/-- A segment of the called section is appended. -/
theorem step_segment (h : plant.Serves ca ioa nof data) {i : ℕ} {pre : List Octets} {c : Octets}
    (hc : c.length ≤ plant.params.maxSegmentSize) :
    Receiver.step plant.params
        (assembling ca ioa nof data sectionSize autoAccept (.ofNat (i + 1)) true pre.flatten i)
        plant.host (((serving ca ioa nof data sectionSize i).segment c).asdu plant.params ca) =
      (assembling ca ioa nof data sectionSize autoAccept (.ofNat (i + 1)) true (pre ++ [c]).flatten i,
        .nothing) := by
  have hpre : (pre ++ [c]).flatten = pre.flatten ++ c := by simp
  rw [hpre]
  exact Receiver.step_data (t := ⟨ca, ioa, nof, _, true, pre.flatten, _⟩) h.carries hc

/-- The marker of the called section: it is complete. -/
theorem step_marker (h : plant.Serves ca ioa nof data) {i : ℕ} {sec : Octets}
    (hsec : (splitSections data sectionSize)[i]? = some sec) :
    Receiver.step plant.params
        (assembling ca ioa nof data sectionSize autoAccept (.ofNat (i + 1)) true sec i)
        plant.host (((serving ca ioa nof data sectionSize i).sectionEnd sec).asdu plant.params ca) =
      (assembling ca ioa nof data sectionSize autoAccept (.ofNat (i + 1)) true [] (i + 1),
        ⟨[accept ioa nof (.ofNat (i + 1)) .POS_ACK_SECTION].map (asdu plant.params ca),
          none, none, none⟩) := by
  unfold assembling
  rw [flatten_take_succ hsec]
  exact Receiver.step_sectionEnd (t := ⟨ca, ioa, nof, _, true, sec, _⟩) h.carries

/-- The end of the file: it is delivered. -/
theorem step_fileEnd (h : plant.Serves ca ioa nof data) {i : ℕ} {nos : UInt8}
    (hlast : (splitSections data sectionSize).length ≤ i) :
    Receiver.step plant.params
        (assembling ca ioa nof data sectionSize autoAccept nos true [] i)
        plant.host ((serving ca ioa nof data sectionSize i).fileEnd.asdu plant.params ca) =
      (⟨autoAccept, none⟩,
        ⟨[accept ioa nof (.ofNat (splitSections data sectionSize).length) .POS_ACK_FILE].map
          (asdu plant.params ca), some (received ioa nof data), none, none⟩) := by
  unfold assembling
  rw [List.take_of_length_le hlast, flatten_splitSections]
  exact Receiver.step_fileEnd (t := ⟨ca, ioa, nof, nos, true, [], data⟩) h.carries

/-- **A delivery takes the ends one ASDU further in the script**, and until the end
there is exactly one channel that has something to deliver. -/
theorem InStage.next (h : plant.Serves ca ioa nof data) (harch : plant.Archives ioa nof data)
    (hs : InStage ca ioa nof data sectionSize autoAccept plant s n) :
    (n = 0 ∧ s.toSender = [] ∧ s.toReceiver = []) ∨
      Advances ca ioa nof data sectionSize autoAccept plant s n := by
  have hpos := maxSegmentSize_pos h.carries.1
  obtain ⟨ms, ms', hstage, hS, hR, hn, hok⟩ := hs
  obtain ⟨sender, receiver, toSender, toReceiver, transfers, files, results⟩ := s
  dsimp only at hstage hS hR hn hok
  cases hstage with
  | selecting =>
    -- every case gives the step of the script it belongs to, with one ASDU less to come
    have hk : 3 + toCome plant.params.maxSegmentSize data sectionSize 0 =
        2 + toCome plant.params.maxSegmentSize data sectionSize 0 + 1 := by
      ring
    exact .inr (next_toSender hk h hS hR hn hok (Sender.select_confirmed h) .selected trivial
      (fits_single (ofNat_le_max h.short)))
  | selected =>
    have hk : 2 + toCome plant.params.maxSegmentSize data sectionSize 0 =
        1 + toCome plant.params.maxSegmentSize data sectionSize 0 + 1 := by
      ring
    exact .inr (next_toReceiver hk h hS hR hn hok rfl
      (Receiver.step_confirmed h.carries (ofNat_le_max h.short) rfl) (stored_nothing _) .calling
      (ofNat_le_max h.short) (fits_single trivial))
  -- the file is called: the sender cuts it into sections, of which there is at least one, and
  -- announces the first
  | calling =>
    obtain ⟨sec, hsec⟩ : ∃ sec, (splitSections data sectionSize)[0]? = some sec :=
      ⟨_, List.getElem?_eq_getElem (List.length_pos_iff.mpr splitSections_ne_nil)⟩
    have hlen := (length_le_of_mem_splitSections (List.mem_of_getElem? hsec)).trans h.short
    exact .inr (next_toSender (Nat.add_comm _ _) h hS hR hn hok (Sender.callFile_announced h hsec)
      (.announced 0 hsec) trivial (fits_single (ofNat_le_max hlen)))
  | @announced i sec nos hsec =>
    have hlen := (length_le_of_mem_splitSections (List.mem_of_getElem? hsec)).trans h.short
    have hk : toCome plant.params.maxSegmentSize data sectionSize i =
        3 + (sec.chunks plant.params.maxSegmentSize).length +
          toCome plant.params.maxSegmentSize data sectionSize (i + 1) + 1 := by
      rw [toCome_section hsec]
      ring
    exact .inr (next_toReceiver hk h hS hR hn hok rfl
      (Receiver.step_announced h.carries (ofNat_le_max hlen)) (stored_nothing _) (.requested hsec)
      (ofNat_le_max hlen) (fits_single trivial))
  -- the section is called: all its segments go out with their marker
  | @requested i sec hsec =>
    have hk : 3 + (sec.chunks plant.params.maxSegmentSize).length +
        toCome plant.params.maxSegmentSize data sectionSize (i + 1) =
        2 + (sec.chunks plant.params.maxSegmentSize).length +
          toCome plant.params.maxSegmentSize data sectionSize (i + 1) + 1 := by
      ring
    exact .inr (next_toSender hk h hS hR hn hok (Sender.step_requestSection h.carries hsec)
      (.sending hsec (List.nil_append _).symm) trivial fits_data)
  | @sending i sec pre post hsec hchunks =>
    cases post with
    | nil =>
      -- the marker: the section is complete
      have hflat : pre.flatten = sec := by
        rw [List.append_nil] at hchunks
        rw [← hchunks, List.flatten_chunks hpos]
      rw [hflat]
      have hk : 2 + ([] : List Octets).length +
          toCome plant.params.maxSegmentSize data sectionSize (i + 1) =
          1 + toCome plant.params.maxSegmentSize data sectionSize (i + 1) + 1 := by
        rw [List.length_nil]
        ring
      exact .inr (next_toReceiver hk h hS hR hn hok rfl (step_marker h hsec) (stored_nothing _)
        (.acked hsec) trivial (fits_single trivial))
    -- one more segment: the receiver appends it and says nothing
    | cons c post =>
      have hc : c ∈ sec.chunks plant.params.maxSegmentSize := by
        rw [hchunks]
        exact List.mem_append_right _ List.mem_cons_self
      have hfits : c.length ≤ plant.params.maxSegmentSize := List.length_le_of_mem_chunks hc
      have hrest : sec.chunks plant.params.maxSegmentSize = (pre ++ [c]) ++ post := by
        rw [hchunks, List.append_assoc]
        rfl
      have hk : 2 + (c :: post).length +
          toCome plant.params.maxSegmentSize data sectionSize (i + 1) =
          2 + post.length + toCome plant.params.maxSegmentSize data sectionSize (i + 1) + 1 := by
        rw [List.length_cons]
        ring
      have hout : ∀ m ∈ ([] : List Message), m.LengthFits plant.params :=
        fun m hm => absurd hm List.not_mem_nil
      exact .inr (next_toReceiver hk h hS hR hn hok rfl (step_segment h hfits) (stored_nothing _)
        (.sending hsec hrest) hfits hout)
  | @acked i sec hsec =>
    -- the section is acknowledged: the next one is announced, or the end of the file
    rcases hnext : (splitSections data sectionSize)[i + 1]? with _ | sec'
    · have hlast : (splitSections data sectionSize).length ≤ i + 1 :=
        List.getElem?_eq_none_iff.mp hnext
      rw [toCome_end hlast]
      exact .inr (next_toSender rfl h hS hR hn hok (Sender.step_lastAck h.carries hlast)
        (.closing _ hlast) trivial (fits_single trivial))
    · have hlen := (length_le_of_mem_splitSections (List.mem_of_getElem? hnext)).trans h.short
      exact .inr (next_toSender (Nat.add_comm _ _) h hS hR hn hok (Sender.posAck_announced h hnext)
        (.announced _ hnext) trivial (fits_single (ofNat_le_max hlen)))
  -- the checksum of the whole file agrees: it is stored and acknowledged
  | @closing i nos hlast =>
    exact .inr (next_toReceiver rfl h hS hR hn hok rfl (step_fileEnd h hlast)
      (stored_received harch _) (.closed _) trivial (fits_single trivial))
  | closed nos =>
    have hout : ∀ m ∈ ([] : List Message), m.LengthFits plant.params :=
      fun m hm => absurd hm List.not_mem_nil
    exact .inr (next_toSender rfl h hS hR hn hok (Sender.step_fileAck h.carries) .done trivial hout)
  | done => exact .inl ⟨rfl, hS, hR⟩

/-! ### The messages of the script -/

/-- The section a message of the sender is about. -/
def Message.sectionNumber : Message → Option UInt8
  | .sectionReady info => some info.nos
  | .segment info => some info.nos
  | .marker info => some info.nos
  | _ => none

/-- What is under way is an ASDU that `marshal_binary` has accepted, and if it is about a
section, that has a number. -/
def Packet.Accepted (params : Params) (p : Packet) : Prop :=
  ∃ a, Asdu.unmarshalBinary params p.octets = .ok a ∧ a.marshalBinary = .ok p.octets ∧
    p.octets.length ≤ ASDU_SIZE_MAX ∧
      ∃ m, Message.read a = .ok m ∧ ∀ nos, m.sectionNumber = some nos → 1 ≤ nos

/-- A message of the script: it can be built, its receiver decodes all of it, and
it names no section by zero. -/
structure Message.Scripted (params : Params) (m : Message) : Prop where
  carries : params.Carries m.ioa
  fits : m.LengthFits params
  reduced : m.Reduced
  numbered : ∀ nos, m.sectionNumber = some nos → nos ≠ 0

theorem Message.Scripted.accepted (hm : m.Scripted plant.params)
    (hca : plant.params.EncodesCommonAddr ca) (n : ℕ) :
    (m.packet plant.params ca n).Accepted plant.params := by
  obtain ⟨hraw, hlen, hback⟩ := octets_spec hm.carries.1 hca hm.fits
  refine ⟨_, hback, hraw, hlen, m, read_asdu hm.carries hm.fits hm.reduced, fun nos hnos => ?_⟩
  have hpos : nos.toNat ≠ 0 := fun h0 => hm.numbered nos hnos (UInt8.toNat_inj.mp h0)
  exact UInt8.le_iff_toNat_le.mpr (Nat.one_le_iff_ne_zero.mpr hpos)

theorem scripted_request (hc : plant.params.Carries ioa) (nos : UInt8) {action : ScqAction}
    (haction : action < 8) : (request ioa nof nos action).Scripted plant.params :=
  ⟨hc, trivial, reduced_request ioa nof nos haction, fun nos hnos => by cases hnos⟩

theorem scripted_accept (hc : plant.params.Carries ioa) (nos : UInt8) {action : AfqAction}
    (haction : action < 8) : (accept ioa nof nos action).Scripted plant.params :=
  ⟨hc, trivial, reduced_accept ioa nof nos haction, fun nos hnos => by cases hnos⟩

/-- Every message of the script can be sent. -/
theorem Stage.scripted (h : plant.Serves ca ioa nof data) {sender : Sender} {receiver : Receiver}
    {ms ms' : List Message} {files : List (Entry × Octets)}
    (hs : Stage plant.params.maxSegmentSize ca ioa nof data sectionSize autoAccept sender receiver
      ms ms' files n) :
    ∀ m ∈ ms ++ ms', m.Scripted plant.params := by
  have hnumber {i : ℕ} {sec : Octets} (hsec : (splitSections data sectionSize)[i]? = some sec) :
      UInt8.ofNat (i + 1) ≠ 0 :=
    sectionNumber_ne_zero (List.getElem?_eq_some_iff.mp hsec).1 length_splitSections_le
  have hlen {i : ℕ} {sec : Octets} (hsec : (splitSections data sectionSize)[i]? = some sec) :
      UInt32.ofNat sec.length ≤ LENGTH_OF_FILE_MAX :=
    ofNat_le_max ((length_le_of_mem_splitSections (List.mem_of_getElem? hsec)).trans h.short)
  -- the segments of a section fit, its number is none of a file, and the other messages carry no
  -- length of their own
  cases hs with
  | selecting => simpa using scripted_request h.carries 0 (by decide)
  | selected =>
    simpa using ⟨h.carries, ofNat_le_max h.short,
      show FileReadyQualifier.parse (FileReadyQualifier.mk 0 false).value = ⟨0, false⟩ by decide,
      fun nos hnos => by cases hnos⟩
  | calling => simpa using scripted_request h.carries 0 (by decide)
  | announced nos hsec =>
    refine fun m hm => ?_
    rw [List.nil_append, List.mem_singleton] at hm
    subst hm
    refine ⟨h.carries, hlen hsec,
      show SectionReadyQualifier.parse (SectionReadyQualifier.mk 0 false).value = ⟨0, false⟩ by
        decide, fun nos hnos => ?_⟩
    cases hnos
    exact hnumber hsec
  | requested hsec => simpa using scripted_request h.carries _ (by decide)
  | @sending i sec pre post hsec hchunks =>
    refine fun m hm => ?_
    rw [List.nil_append] at hm
    rcases List.mem_append.mp hm with hm | hm
    · obtain ⟨c, hc, rfl⟩ := List.mem_map.mp hm
      have hmem : c ∈ sec.chunks plant.params.maxSegmentSize := by
        rw [hchunks]
        exact List.mem_append_right _ hc
      refine ⟨h.carries, List.length_le_of_mem_chunks hmem, trivial, fun nos hnos => ?_⟩
      cases hnos
      exact hnumber hsec
    · rw [List.mem_singleton.mp hm]
      refine ⟨h.carries, trivial, trivial, fun nos hnos => ?_⟩
      cases hnos
      exact hnumber hsec
  | acked hsec => simpa using scripted_accept h.carries _ (by decide)
  | closing nos hlast =>
    refine fun m hm => ?_
    rw [List.nil_append, List.mem_singleton] at hm
    subst hm
    refine ⟨h.carries, trivial, trivial, fun nos hnos => ?_⟩
    cases hnos
    have hpos : 0 < (splitSections data sectionSize).length :=
      List.length_pos_iff.mpr splitSections_ne_nil
    have hne := sectionNumber_ne_zero (Nat.sub_lt hpos Nat.one_pos) length_splitSections_le
    rwa [Nat.sub_add_cancel hpos] at hne
  | closed nos => simpa using scripted_accept h.carries nos (by decide)
  | done => simp

/-- A file is delivered at most once. -/
theorem Stage.files_eq {max : ℕ} {sender : Sender} {receiver : Receiver} {ms ms' : List Message}
    {files : List (Entry × Octets)}
    (hs : Stage max ca ioa nof data sectionSize autoAccept sender receiver ms ms' files n) :
    files = [] ∨ files = [received ioa nof data] := by
  cases hs <;> simp

/-- When nothing is to come both ends are idle, and the file is delivered. -/
theorem Stage.done_of_zero {max : ℕ} {sender : Sender} {receiver : Receiver}
    {ms ms' : List Message} {files : List (Entry × Octets)}
    (hs : Stage max ca ioa nof data sectionSize autoAccept sender receiver ms ms' files n)
    (hn : n = 0) :
    sender.inProgress = false ∧ receiver.inProgress = false ∧ files = [received ioa nof data] := by
  have hcome (i : ℕ) : toCome max data sectionSize i ≠ 0 := Nat.succ_ne_zero _
  cases hs with
  | announced => exact absurd hn (hcome _)
  | done => exact ⟨rfl, rfl, rfl⟩
  | _ => omega

/-! ### Runs -/

theorem Ends.stepToSender_nil (h : s.toSender = []) : s.step plant .toSender = none := by
  show s.stepToSender plant = none
  unfold stepToSender
  rw [h]

theorem Ends.stepToReceiver_nil (h : s.toReceiver = []) : s.step plant .toReceiver = none := by
  show s.stepToReceiver plant = none
  unfold stepToReceiver
  rw [h]

/-- A delivery is the next move of the script. -/
theorem InStage.delivery (h : plant.Serves ca ioa nof data) (harch : plant.Archives ioa nof data)
    (hs : InStage ca ioa nof data sectionSize autoAccept plant s n) {e : Ends.Event}
    (he : e.isDelivery) {t : Ends} (ht : s.step plant e = some t) :
    ∃ k, n = k + 1 ∧ InStage ca ioa nof data sectionSize autoAccept plant t k := by
  have hne {u : Option Ends} (hu : u = none) : u ≠ some t := by
    rw [hu]
    exact Option.some_ne_none t |>.symm
  rcases hs.next h harch with ⟨-, hS, hR⟩ | ⟨k, u, hk, hu, ⟨hR, hstep⟩ | ⟨hS, hstep⟩⟩
  · cases e with
    | toSender => exact absurd ht (hne (Ends.stepToSender_nil hS))
    | toReceiver => exact absurd ht (hne (Ends.stepToReceiver_nil hR))
    | _ => cases he
  · cases e with
    | toSender =>
      rw [hstep] at ht
      cases ht
      exact ⟨k, hk, hu⟩
    | toReceiver => exact absurd ht (hne (Ends.stepToReceiver_nil hR))
    | _ => cases he
  · cases e with
    | toSender => exact absurd ht (hne (Ends.stepToSender_nil hS))
    | toReceiver =>
      rw [hstep] at ht
      cases ht
      exact ⟨k, hk, hu⟩
    | _ => cases he

/-- A run of deliveries follows the script. -/
theorem InStage.run (h : plant.Serves ca ioa nof data) (harch : plant.Archives ioa nof data)
    {es : List Ends.Event} (hes : ∀ e ∈ es, e.isDelivery = true) :
    ∀ {s t : Ends} {n : ℕ}, InStage ca ioa nof data sectionSize autoAccept plant s n →
      (Ends.machine plant sectionSize autoAccept).run s es = some t →
      ∃ k, n = k + es.length ∧ InStage ca ioa nof data sectionSize autoAccept plant t k := by
  induction es with
  | nil =>
    intro s t n hs hrun
    cases hrun
    exact ⟨n, rfl, hs⟩
  | cons e es ih =>
    intro s t n hs hrun
    rw [Machine.run, Machine.runIf, if_pos trivial] at hrun
    obtain ⟨u, hu, hrun⟩ := Option.bind_eq_some_iff.mp hrun
    obtain ⟨k, hk, hstage⟩ := hs.delivery h harch (hes e List.mem_cons_self) hu
    obtain ⟨l, hl, hstage'⟩ := ih (fun e he => hes e (List.mem_cons_of_mem _ he)) hstage hrun
    exact ⟨l, by rw [hk, hl, List.length_cons, Nat.add_assoc], hstage'⟩

/-- The request of the file starts the script. -/
theorem inStage_request (h : plant.Serves ca ioa nof data) :
    InStage ca ioa nof data sectionSize autoAccept plant
      ((Ends.idle sectionSize autoAccept).request plant ca ioa nof)
      (exchangeLength plant.params data sectionSize) := by
  have hselect : (Receiver.Active.start ca ioa nof).call plant.params 0 .SELECT_FILE =
      .ok ((request ioa nof 0 .SELECT_FILE).asdu plant.params ca) :=
    Receiver.call_eq_ok.mpr ⟨h.carries, rfl⟩
  have hraw := (octets_spec (m := request ioa nof 0 .SELECT_FILE) h.carries.1 h.encodes
    trivial).1
  have hrequest : Receiver.requestFile (wire plant.params) ⟨autoAccept, none⟩ ca ioa nof =
      (.ok [(request ioa nof 0 .SELECT_FILE).asdu plant.params ca],
        busy autoAccept (.start ca ioa nof)) := by
    -- the receiver is idle, and its connection takes the request
    have hidle : ¬(Receiver.mk autoAccept none).active.isSome = true := Bool.false_ne_true
    unfold Receiver.requestFile
    rw [if_neg hidle]
    dsimp only
    rw [show (wire plant.params).params = plant.params from rfl, hselect]
    dsimp only
    rw [show (wire plant.params).send [] _ = Except.ok () by
      show Except.map _ (Asdu.marshalBinary _) = _
      rw [hraw]
      rfl]
    rfl
  have hfits : ∀ m ∈ [request ioa nof 0 .SELECT_FILE], m.LengthFits plant.params :=
    fits_single trivial
  have hpackets := packets_map h.carries.1 h.encodes hfits 1
  unfold Ends.request
  rw [show (Ends.idle sectionSize autoAccept).receiver = ⟨autoAccept, none⟩ from rfl, hrequest]
  refine ⟨[request ioa nof 0 .SELECT_FILE], [], .selecting, ?_, rfl, rfl, ?_⟩
  · exact hpackets
  · intro r hr
    cases hr

/-- **An undisturbed transfer ends, and delivers the file.**  After a request every
run of deliveries has at most `exchangeLength` steps; as long as something is under way it
goes on; every ASDU is one that `marshal_binary` accepts; no call of `handle` fails; and
when nothing is under way any more both ends are idle, and the receiver has passed on the
stored content, once. -/
theorem Ends.delivers (h : plant.Serves ca ioa nof data) (harch : plant.Archives ioa nof data)
    {es : List Event} (hes : ∀ e ∈ es, e.isDelivery = true) {s : Ends}
    (hrun : (machine plant sectionSize autoAccept).run (idle sectionSize autoAccept)
      (.requestFile ca ioa nof :: es) = some s) :
    es.length ≤ exchangeLength plant.params data sectionSize ∧
      (∀ r ∈ s.results, r = .ok true) ∧
      (∀ p ∈ s.toSender ++ s.toReceiver, p.Accepted plant.params) ∧
      (s.toSender ≠ [] → (s.step plant .toSender).isSome) ∧
      (s.toReceiver ≠ [] → (s.step plant .toReceiver).isSome) ∧
      (s.files = [] ∨ s.files = [received ioa nof data]) ∧
      (s.toSender = [] ∧ s.toReceiver = [] → s.files = [received ioa nof data] ∧
        s.sender.inProgress = false ∧ s.receiver.inProgress = false) := by
  rw [Machine.run, Machine.runIf, if_pos trivial] at hrun
  obtain ⟨u, hu, hrun⟩ := Option.bind_eq_some_iff.mp hrun
  cases hu
  -- the run is some way down the script
  obtain ⟨k, hk, hstage⟩ := (inStage_request h).run h harch hes hrun
  have hnext := hstage.next h harch
  obtain ⟨ms, ms', hscript, hS, hR, -, hok⟩ := hstage
  refine ⟨by omega, hok, fun p hp => ?_, fun hne => ?_, fun hne => ?_, hscript.files_eq,
    fun hempty => ?_⟩
  -- what is under way are messages of the script
  · rw [hS, hR, ← List.map_append] at hp
    obtain ⟨m, hm, rfl⟩ := List.mem_map.mp hp
    exact (hscript.scripted h m hm).accepted h.encodes 1
  -- a channel that is not empty is the one the script goes on with
  · rcases hnext with ⟨-, hS0, -⟩ | ⟨l, t, -, -, ⟨-, hstep⟩ | ⟨hS0, -⟩⟩
    · exact absurd hS0 hne
    · rw [hstep]
      rfl
    · exact absurd hS0 hne
  · rcases hnext with ⟨-, -, hR0⟩ | ⟨l, t, -, -, ⟨hR0, -⟩ | ⟨-, hstep⟩⟩
    · exact absurd hR0 hne
    · exact absurd hR0 hne
    · rw [hstep]
      rfl
  -- nothing under way means that the script is at its end
  · obtain ⟨hS0, hR0⟩ := hempty
    have hzero : k = 0 := by
      rcases hnext with ⟨h0, -⟩ | ⟨l, t, -, -, ⟨-, hstep⟩ | ⟨-, hstep⟩⟩
      · exact h0
      · rw [Ends.stepToSender_nil hS0] at hstep
        cases hstep
      · rw [Ends.stepToReceiver_nil hR0] at hstep
        cases hstep
    obtain ⟨hsender, hreceiver, hfiles⟩ := hscript.done_of_zero hzero
    exact ⟨hfiles, hsender, hreceiver⟩

end moves

/-- A store with one content for every file. -/
def storing (data : Octets) : Store where
  list := .ok []
  read _ _ := .ok data
  write _ _ _ := .ok ()
  delete _ _ := .ok ()

/-- Two ends with that store. -/
def plantOf (data : Octets) : Plant where
  params := paramsWide
  host := .utc ⟨2026, 3, 4, 8, 15, 0, 0, by decide⟩
  store := storing data
  archive := none

/-- A file of two sections of 240 octets, too long for one segment each. -/
def twoSections : Octets := (List.range 480).map UInt8.ofNat

/-- The select and the call of the file, two sections, and the end of the file. -/
def twoSectionRun : List Ends.Event :=
  let section' : List Ends.Event :=
    [.toReceiver, .toSender, .toReceiver, .toReceiver, .toReceiver, .toSender]
  [.toSender, .toReceiver, .toSender] ++ section' ++ section' ++ [.toReceiver, .toSender]

/-- Each section goes in two segments, the transfer in seventeen ASDUs, and what
arrives is the file. -/
theorem Ends.delivers_twoSections :
    (splitSections twoSections 240).map (fun sec =>
        (sec.chunks paramsWide.maxSegmentSize).map List.length) = [[236, 4], [236, 4]] ∧
      exchangeLength paramsWide twoSections 240 = 17 ∧
      ∃ s, (machine (plantOf twoSections) 240 true).run (idle 240 true)
          (.requestFile 1 100 1 :: twoSectionRun) = some s ∧
        s.files = [received 100 1 twoSections] ∧ s.sender.inProgress = false ∧
        s.receiver.inProgress = false := by
  have hserves : (plantOf twoSections).Serves 1 100 1 twoSections :=
    ⟨⟨Params.paramsWide_wellFormed, by decide⟩, by decide, rfl, by decide +kernel⟩
  have harch : (plantOf twoSections).Archives 100 1 twoSections := by
    intro archive h
    cases h
  -- the run exists and leaves nothing under way
  have hends : ((machine (plantOf twoSections) 240 true).run (idle 240 true)
      (.requestFile 1 100 1 :: twoSectionRun)).map (fun s => (s.toSender, s.toReceiver)) =
        some ([], []) := by
    decide +kernel
  obtain ⟨s, hrun, hempty⟩ := Option.map_eq_some_iff.mp hends
  obtain ⟨hS, hR⟩ := Prod.mk.inj hempty
  have hend := (Ends.delivers hserves harch (by decide) hrun).2.2.2.2.2.2 ⟨hS, hR⟩
  exact ⟨by decide +kernel, by decide +kernel, s, hrun, hend⟩

end FileTransfer
end Iec60870
