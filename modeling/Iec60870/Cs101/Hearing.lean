import Iec60870.Cs101.Server
import Iec60870.Cs101.Transactions

/-!
# What a secondary does on hearing a request

A request to one station is a frame of a primary to its link address, with the FCV
its function code requires, that asks for an answer.  However the secondary takes
it, it remembers the response and hands it to the writer; what else it does depends
on the FCB alone.

## Main definitions

* `dispatchedData`, `servedData`, `bufferedData` — what a history says of user data.
* `SecondaryState.Heard` — what a request can do.
* `SecondaryState.InStock` — what was served and what is left are in order.

## Main results

* `SecondaryState.heard_receive` — what a request can do.
* `SecondaryState.Heard.inStock` — it takes its data from the front of the buffers.
-/

namespace Iec60870
namespace Cs101

open PrimFc

/-- A frame of a secondary station: the single character, or a control field
without PRM. -/
def Frame.IsResponse (f : Frame) : Prop := ∀ c ∈ f.control, c.prm = false

/-! ### Reading the history -/

namespace SecObs

/-- The frame an entry hands to the writer. -/
def frame : SecObs → Option Frame
  | .wrote f => some f
  | _ => none

/-- The user data an entry hands to the dispatcher. -/
def userData : SecObs → Option Octets
  | .dispatched raw => some raw
  | _ => none

/-- The user data an entry puts into a response, with the class it was buffered in. -/
def classData : SecObs → Option (DataClass × Octets)
  | .served c raw => some (c, raw)
  | _ => none

/-- The octets of the ASDU an entry puts into the buffer of the class `c`. -/
def buffered? (c : DataClass) : SecObs → Option Octets
  | .buffered c' a => if c' = c then a.marshalBinary.toOption else none
  | _ => none

end SecObs

/-- The user data handed to the dispatcher, in order. -/
def dispatchedData (log : List SecObs) : List Octets := log.filterMap SecObs.userData

/-- The user data put into responses, in order. -/
def servedData (log : List SecObs) : List (DataClass × Octets) := log.filterMap SecObs.classData

/-- The octets of the encodable ASDUs put into the buffer of the class `c`, in order. -/
def bufferedData (c : DataClass) (log : List SecObs) : List Octets :=
  log.filterMap (SecObs.buffered? c)

/-- The octets of the encodable ASDUs among `asdus`. -/
def encodable (asdus : List Asdu) : List Octets :=
  asdus.filterMap fun a => a.marshalBinary.toOption

/-- The part of `data` that comes from the buffer of the class `c`. -/
def ofClass (c : DataClass) (data : List (DataClass × Octets)) : List Octets :=
  (data.filter (·.1 = c)).map (·.2)

@[simp] theorem dispatchedData_append (log rest : List SecObs) :
    dispatchedData (log ++ rest) = dispatchedData log ++ dispatchedData rest :=
  List.filterMap_append

@[simp] theorem servedData_append (log rest : List SecObs) :
    servedData (log ++ rest) = servedData log ++ servedData rest := List.filterMap_append

@[simp] theorem bufferedData_append (c : DataClass) (log rest : List SecObs) :
    bufferedData c (log ++ rest) = bufferedData c log ++ bufferedData c rest :=
  List.filterMap_append

@[simp] theorem ofClass_append (c : DataClass) (data rest : List (DataClass × Octets)) :
    ofClass c (data ++ rest) = ofClass c data ++ ofClass c rest := by simp [ofClass]

theorem encodable_append (xs ys : List Asdu) :
    encodable (xs ++ ys) = encodable xs ++ encodable ys := List.filterMap_append

theorem encodable_cons_ok {a : Asdu} {raw : Octets} (h : a.marshalBinary = .ok raw)
    (xs : List Asdu) : encodable (a :: xs) = raw :: encodable xs := by
  simp [encodable, h, Except.toOption]

theorem encodable_cons_error {a : Asdu} {e : Error} (h : a.marshalBinary = .error e)
    (xs : List Asdu) : encodable (a :: xs) = encodable xs := by
  simp [encodable, h, Except.toOption]

/-! ### Taking data from the buffers -/

namespace Shared

/-- The buffer of the class `c`. -/
def buffer (sh : Shared) : DataClass → List Asdu
  | .class1 => sh.class1
  | .class2 => sh.class2

/-- `sh'` is `sh` with `data` taken from the front of its buffer; what could not be
encoded may have been dropped. -/
structure Popped (sh : Shared) (data : Option (DataClass × Octets)) (sh' : Shared) : Prop where
  buffers : ∀ c, encodable (sh.buffer c) = ofClass c data.toList ++ encodable (sh'.buffer c)
  primQueue : sh'.primQueue = sh.primQueue

theorem Popped.refl (sh : Shared) : Popped sh none sh := ⟨fun _ => rfl, rfl⟩

/-- `popClass` takes the first ASDU of one buffer. -/
theorem popClass_eq_some {sh sh' : Shared} {c origin : DataClass} {a : Asdu}
    (h : sh.popClass c = (some (origin, a), sh')) :
    sh.buffer origin = a :: sh'.buffer origin ∧
      (∀ c', c' ≠ origin → sh'.buffer c' = sh.buffer c') ∧ sh'.primQueue = sh.primQueue := by
  obtain ⟨l1, l2, q⟩ := sh
  cases c
  · rcases l1 with _ | ⟨b, rest⟩
    · rcases l2 with _ | ⟨b, rest⟩
      · cases h
      · cases h
        exact ⟨rfl, fun c' hc => by cases c' <;> [rfl; exact absurd rfl hc], rfl⟩
    · cases h
      exact ⟨rfl, fun c' hc => by cases c' <;> [exact absurd rfl hc; rfl], rfl⟩
  · rcases l2 with _ | ⟨b, rest⟩
    · rcases l1 with _ | ⟨b, rest⟩
      · cases h
      · cases h
        exact ⟨rfl, fun c' hc => by cases c' <;> [exact absurd rfl hc; rfl], rfl⟩
    · cases h
      exact ⟨rfl, fun c' hc => by cases c' <;> [rfl; exact absurd rfl hc], rfl⟩

/-- An encodable ASDU is taken to be served. -/
theorem popped_ok {sh sh' : Shared} {c origin : DataClass} {a : Asdu} {raw : Octets}
    (h : sh.popClass c = (some (origin, a), sh')) (hraw : a.marshalBinary = .ok raw) :
    Popped sh (some (origin, raw)) sh' := by
  obtain ⟨hfront, hother, hprim⟩ := popClass_eq_some h
  refine ⟨fun c' => ?_, hprim⟩
  by_cases hc : c' = origin
  · subst hc
    rw [hfront, encodable_cons_ok hraw]
    simp [ofClass]
  · rw [hother c' hc]
    simp [ofClass, Ne.symm hc]

/-- An ASDU that cannot be encoded is dropped. -/
theorem popped_error {sh sh' : Shared} {c origin : DataClass} {a : Asdu} {e : Error}
    (h : sh.popClass c = (some (origin, a), sh')) (hraw : a.marshalBinary = .error e) :
    Popped sh none sh' := by
  obtain ⟨hfront, hother, hprim⟩ := popClass_eq_some h
  refine ⟨fun c' => ?_, hprim⟩
  by_cases hc : c' = origin
  · subst hc
    rw [hfront, encodable_cons_error hraw]
    rfl
  · rw [hother c' hc]
    rfl

end Shared

namespace SecondaryState

variable {cfg : Config} {s t : SecondaryState}

/-! ### Responses -/

/-- `s` after the response `f`, which left it expecting the FCB `e`, with the buffers
`sh` and `rest` recorded. -/
def replied (s : SecondaryState) (e : Bool) (f : Frame) (sh : Shared) (rest : List SecObs) :
    SecondaryState :=
  { s with fcbExpected := e, lastResp := some f, shared := sh, log := s.log ++ rest }

/-- What `write` records of the frame `f`: the frame itself when it can be
encoded, and nothing otherwise. -/
def written (cfg : Config) (f : Frame) : List SecObs :=
  if (f.marshal cfg.linkAddrSize).isOk then [.wrote f] else []

theorem write_eq (f : Frame) :
    (s.write cfg f).2 = { s with log := s.log ++ written cfg f } := by
  unfold write written
  rcases f.marshal cfg.linkAddrSize with e | raw
  · simp [Except.isOk, Except.toBool]
  · rfl

theorem sendResp_eq (f : Frame) :
    s.sendResp cfg f = s.replied s.fcbExpected f s.shared (written cfg f) := write_eq f

theorem isResponse_secFrame (func : UInt8) (acd : Bool) : (secFrame cfg func acd).IsResponse := by
  rintro c ⟨⟩
  rfl

theorem isResponse_ackFrame (func : UInt8) (acd : Bool) : (ackFrame cfg func acd).IsResponse := by
  unfold ackFrame
  split
  · exact fun c hc => by cases hc
  · exact isResponse_secFrame func acd

/-- The response to a class 1 or class 2 request. -/
theorem respondClassData_eq (cfg : Config) (s : SecondaryState) (c : DataClass) :
    ∃ f data sh, f.IsResponse ∧ s.shared.Popped data sh ∧ f.classData = data.map (·.2) ∧
      s.respondClassData cfg c =
        s.replied s.fcbExpected f sh ((data.map fun d => .served d.1 d.2).toList ++
          written cfg f) := by
  unfold respondClassData
  rcases hpop : s.shared.popClass c with ⟨_ | ⟨origin, a⟩, sh⟩
  · refine ⟨ackFrame cfg SecFc.USER_DATA_NO_REP false, none, s.shared, isResponse_ackFrame _ _,
      .refl _, ?_, sendResp_eq _⟩
    unfold ackFrame
    split <;> rfl
  · rcases hraw : a.marshalBinary with e | raw
    · refine ⟨secFrame cfg SecFc.USER_DATA_NO_REP sh.class1Pending, none, sh,
        isResponse_secFrame _ _, Shared.popped_error hpop hraw, rfl, ?_⟩
      simp only [hraw]
      exact sendResp_eq _
    · refine ⟨.variable' (.secondary SecFc.USER_DATA_CONF sh.class1Pending false)
        cfg.linkAddress raw, some (origin, raw), sh, ?_, Shared.popped_ok hpop hraw, rfl, ?_⟩
      · rintro c ⟨⟩
        rfl
      simp only [hraw]
      rw [sendResp_eq]
      simp [replied, note]

/-! ### Requests -/

/-- What a request can do to a secondary, and what it answers.  One constructor
for each way `handle_frame` can go. -/
inductive Heard (cfg : Config) (s : SecondaryState) (frame : Frame) (ctrl : ControlField) :
    SecondaryState → Prop
  /-- Requests to all stations are not answered. -/
  | ignored (h : broadcastAddr cfg = some cfg.linkAddress) : Heard cfg s frame ctrl s
  | reset (f : Frame) (hf : f.IsResponse) (hfunc : ctrl.func = RESET_LINK) :
      Heard cfg s frame ctrl (s.replied true f s.shared (.reset :: written cfg f))
  | probe (f : Frame) (hf : f.IsResponse) (hfcv : ctrl.fcv = false)
      (hfunc : ctrl.func ≠ RESET_LINK) :
      Heard cfg s frame ctrl (s.replied s.fcbExpected f s.shared (written cfg f))
  /-- A counted request with the FCB that was expected is acted on. -/
  | counted (f : Frame) (data : Option (DataClass × Octets)) (sh : Shared) (hf : f.IsResponse)
      (hfcv : ctrl.fcv = true) (hbit : ctrl.fcb = s.fcbExpected) (hpop : s.shared.Popped data sh)
      (hdata : (if ctrl.func = REQ_DATA1 ∨ ctrl.func = REQ_DATA2 then f.classData else none) =
        data.map (·.2)) :
      Heard cfg s frame ctrl (s.replied (!s.fcbExpected) f sh
        ((data.map fun d => .served d.1 d.2).toList ++ written cfg f ++
          ((if ctrl.func = USER_DATA_CONF then frame.asdu else none).map .dispatched).toList))
  /-- Any other counted request is answered as the last one was. -/
  | repeated (f : Frame) (hfcv : ctrl.fcv = true) (hbit : ctrl.fcb ≠ s.fcbExpected)
      (hlast : ∀ g, s.lastResp = some g → f = g) (hf : s.lastResp = none → f.IsResponse) :
      Heard cfg s frame ctrl (s.replied s.fcbExpected f s.shared (written cfg f))

/-- A repeated request is answered as the last one was. -/
theorem resend_eq (cfg : Config) (s : SecondaryState) : ∃ f, (∀ g, s.lastResp = some g → f = g) ∧
    (s.lastResp = none → f.IsResponse) ∧
    s.resend cfg = s.replied s.fcbExpected f s.shared (written cfg f) := by
  unfold resend
  rcases hlast : s.lastResp with _ | g
  · exact ⟨_, fun g hg => (by cases hg), fun _ => isResponse_ackFrame _ _, sendResp_eq _⟩
  · refine ⟨g, fun g' hg' => Option.some_inj.mp hg', fun hf => (by cases hf), ?_⟩
    dsimp only
    rw [write_eq, replied, ← hlast]

/-- The end of `receive`: user data goes to the dispatcher. -/
def handed (r : Outcome × SecondaryState) : SecondaryState :=
  match r.1.asdu with
  | some raw => r.2.note (.dispatched raw)
  | none => r.2

theorem receive_eq (frame : Frame) (now : ℕ) :
    s.receive cfg frame now = handed (s.handleFrame cfg frame now) := rfl

theorem handed_eq (out : Outcome) :
    handed (out, s) = { s with log := s.log ++ (out.asdu.map SecObs.dispatched).toList } := by
  rcases out with ⟨b, _ | raw⟩
  · simp [handed]
  · rfl

variable {frame : Frame} {ctrl : ControlField}

theorem heard_probe (f : Frame) (hf : f.IsResponse) (hfcv : ctrl.fcv = false) (hfunc : ctrl.func ≠ RESET_LINK) :
    Heard cfg s frame ctrl (s.sendResp cfg f) := by
  rw [sendResp_eq]
  exact .probe f hf hfcv hfunc

/-- A request that is not counted is answered; only a reset changes the FCB. -/
theorem heard_uncounted (hfcv : ctrl.fcv = false) (hreq : fcvRequired ctrl.func = some false)
    (hans : ctrl.func ≠ USER_DATA_NO_CONF) :
    Heard cfg s frame ctrl (handed (s.serve cfg frame ctrl)) := by
  have hne : ∀ {f}, fcvRequired f = some true → ctrl.func ≠ f := by
    intro f hf he
    rw [he, hf] at hreq
    cases hreq
  unfold serve
  split_ifs with h0 h1 h3 h8 h10 h11
  · have heq : ({ s with fcbExpected := true, lastResp := none }.note .reset).sendLinkAck cfg =
        s.replied true (ackFrame cfg SecFc.CONF_ACK s.shared.class1Pending) s.shared
          (.reset :: written cfg (ackFrame cfg SecFc.CONF_ACK s.shared.class1Pending)) := by
      rw [sendLinkAck, sendResp_eq]
      simp [replied, note]
    show Heard cfg s frame ctrl (sendLinkAck _ _)
    rw [heq]
    exact .reset _ (isResponse_ackFrame _ _) h0
  · exact heard_probe _ (isResponse_ackFrame _ _) hfcv h0
  · exact absurd h3 (hne rfl)
  · exact heard_probe _ (isResponse_secFrame _ _) hfcv h0
  · exact absurd h10 (hne rfl)
  · exact absurd h11 (hne rfl)
  · exact heard_probe _ (isResponse_secFrame _ _) hfcv h0

/-- The services that are counted. -/
theorem counted_func {func : UInt8} (h : fcvRequired func = some true) :
    func = TEST_LINK ∨ func = USER_DATA_CONF ∨ func = REQ_DATA1 ∨ func = REQ_DATA2 := by
  unfold fcvRequired at h
  split_ifs at h with _ _ hcounted
  · cases h
  · cases h
  · exact hcounted

/-- A counted request is acted on: a poll takes data from the buffers, user data goes
to the dispatcher. -/
theorem heard_counted (hfcv : ctrl.fcv = true) (hreq : fcvRequired ctrl.func = some true)
    (hbit : ctrl.fcb = s.fcbExpected) :
    Heard cfg s frame ctrl
      (handed ({ s with fcbExpected := !s.fcbExpected }.serve cfg frame ctrl)) := by
  have hne : ∀ {f}, fcvRequired f ≠ some true → ctrl.func ≠ f := fun hf he => hf (he ▸ hreq)
  -- the two shapes an answer has: a poll is answered from the buffers, anything else acknowledged
  have hpoll : ∀ c, (ctrl.func = REQ_DATA1 ∨ ctrl.func = REQ_DATA2) →
      Heard cfg s frame ctrl ({ s with fcbExpected := !s.fcbExpected }.respondClassData cfg c) := by
    intro c hclass
    have hnot : ctrl.func ≠ USER_DATA_CONF := by
      rcases hclass with h | h <;> rw [h] <;> decide
    obtain ⟨f, data, sh, hf, hpop, hdata, heq⟩ := respondClassData_eq cfg
      { s with fcbExpected := !s.fcbExpected } c
    rw [heq]
    have hheard : Heard cfg s frame ctrl _ := .counted f data sh hf hfcv hbit hpop
      (by rw [if_pos hclass, hdata])
    rwa [if_neg hnot, Option.map_none, Option.toList_none, List.append_nil] at hheard
  have hack : ∀ (out : Outcome), ¬(ctrl.func = REQ_DATA1 ∨ ctrl.func = REQ_DATA2) →
      out.asdu = (if ctrl.func = USER_DATA_CONF then frame.asdu else none) →
      Heard cfg s frame ctrl
        (handed (out, { s with fcbExpected := !s.fcbExpected }.sendLinkAck cfg)) := by
    intro out hclass hout
    have hheard : Heard cfg s frame ctrl _ := .counted
      (ackFrame cfg SecFc.CONF_ACK s.shared.class1Pending) none s.shared
      (isResponse_ackFrame _ _) hfcv hbit (.refl _)
      (by rw [if_neg hclass]; rfl)
    rw [handed_eq, hout, sendLinkAck, sendResp_eq]
    simpa [replied] using hheard
  -- `serve` tests one function after the other; those that are never counted cannot occur
  unfold serve
  split_ifs with h0 h1 h3 h4 h8 h10 h11
  · exact absurd h0 (hne (by decide))
  · rcases h1 with h1 | h1
    · exact absurd h1 (hne (by decide))
    · exact hack _ (by rw [h1]; decide) (by rw [h1]; rfl)
  · exact hack _ (by rw [h3]; decide) (if_pos h3).symm
  · exact absurd h4 (hne (by decide))
  · rcases h8 with h8 | h8 <;> exact absurd h8 (hne (by decide))
  · exact hpoll .class1 (.inl h10)
  · exact hpoll .class2 (.inr h11)
  · rcases counted_func hreq with h | h | h | h
    · exact absurd (.inr h) h1
    · exact absurd h h3
    · exact absurd h h10
    · exact absurd h h11

/-- **What a request can do.** -/
theorem heard_receive (now : ℕ) (hctrl : frame.control = some ctrl)
    (haddr : frame.linkAddr = some cfg.linkAddress) (hprm : ctrl.prm = true)
    (hreq : fcvRequired ctrl.func = some ctrl.fcv) (hans : ctrl.func ≠ USER_DATA_NO_CONF) :
    Heard cfg s frame ctrl (s.receive cfg frame now) := by
  -- the frame carries the address of this station
  have hus : addressedToUs cfg cfg.linkAddress = true := by
    unfold addressedToUs
    split <;> simp
  have hcommand : Heard cfg s frame ctrl (handed (s.handleCommand cfg frame ctrl)) := by
    unfold handleCommand
    rw [hreq, if_neg (by simp)]
    -- a counted request with the wrong bit is a repetition, one with the right bit is served, and
    -- the rest do not count
    split_ifs with hfcv hbit
    · obtain ⟨f, hlast, hf, heq⟩ := resend_eq cfg s
      show Heard cfg s frame ctrl (s.resend cfg)
      rw [heq]
      exact .repeated f hfcv hbit hlast hf
    · exact heard_counted hfcv (hreq.trans (congrArg some hfcv)) (not_not.mp hbit)
    · rw [Bool.not_eq_true] at hfcv
      exact heard_uncounted hfcv (hreq.trans (congrArg some hfcv)) hans
  rw [receive_eq, handleFrame_addressed now hctrl haddr]
  unfold handleAddressed
  rw [if_neg (by simp [hus]), if_neg (by simp [hprm])]
  split
  · next hall => exact .ignored hall
  · exact hcommand

/-- A frame of a primary to another station is not heard. -/
theorem receive_other (now : ℕ) {addr : UInt16} (hctrl : frame.control = some ctrl)
    (haddr : frame.linkAddr = some addr) (hne : addr ≠ cfg.linkAddress) (hsize : cfg.WellFormed)
    (hprm : ctrl.prm = true) (hans : ctrl.func ≠ USER_DATA_NO_CONF) :
    s.receive cfg frame now = s := by
  rw [receive_eq, handleFrame_addressed now hctrl haddr]
  unfold handleAddressed
  split
  · rfl
  · next hus =>
    -- neither the station's own address nor, as it turns out, an address to ignore: the broadcast
    -- address, to which only user data without reply is sent
    rw [if_neg (by simp [hprm])]
    have hpos : cfg.linkAddrSize > 0 :=
      UInt8.lt_of_lt_of_le (show (0 : UInt8) < 1 by decide) hsize.size_pos
    have hus' : addressedToUs cfg addr = true := not_and_not_right.mp hus hpos
    rcases hb : broadcastAddr cfg with _ | b
    · -- a link address has one or two octets
      unfold broadcastAddr at hb
      split_ifs at hb with hone htwo
      exact absurd hsize.size (not_or.mpr ⟨hone, htwo⟩)
    · have hall : addr = b := by simpa [addressedToUs, hb, hne] using hus'
      rw [if_pos (congrArg some hall.symm)]
      rfl

/-! ### The buffers -/

section Entries

variable (cfg) (f : Frame) (data : Option (DataClass × Octets)) (user : Option Octets)
  (c : DataClass)

@[simp] theorem servedData_reset (log : List SecObs) :
    servedData (.reset :: log) = servedData log := rfl

@[simp] theorem dispatchedData_reset (log : List SecObs) :
    dispatchedData (.reset :: log) = dispatchedData log := rfl

@[simp] theorem bufferedData_reset (log : List SecObs) :
    bufferedData c (.reset :: log) = bufferedData c log := rfl

@[simp] theorem servedData_written : servedData (written cfg f) = [] := by
  unfold written
  split <;> rfl

@[simp] theorem dispatchedData_written : dispatchedData (written cfg f) = [] := by
  unfold written
  split <;> rfl

@[simp] theorem bufferedData_written : bufferedData c (written cfg f) = [] := by
  unfold written
  split <;> rfl

@[simp] theorem servedData_served :
    servedData (data.map fun d => .served d.1 d.2).toList = data.toList := by
  cases data <;> rfl

@[simp] theorem dispatchedData_served :
    dispatchedData (data.map fun d => .served d.1 d.2).toList = [] := by cases data <;> rfl

@[simp] theorem bufferedData_served :
    bufferedData c (data.map fun d => .served d.1 d.2).toList = [] := by cases data <;> rfl

@[simp] theorem servedData_dispatched :
    servedData (user.map .dispatched).toList = [] := by cases user <;> rfl

@[simp] theorem dispatchedData_dispatched :
    dispatchedData (user.map .dispatched).toList = user.toList := by cases user <;> rfl

@[simp] theorem bufferedData_dispatched :
    bufferedData c (user.map .dispatched).toList = [] := by cases user <;> rfl

end Entries

/-- What was served from a buffer, followed by what it still holds, was put into it in
that order. -/
def InStock (s : SecondaryState) : Prop :=
  ∀ c, (ofClass c (servedData s.log) ++ encodable (s.shared.buffer c)).Sublist
    (bufferedData c s.log)

/-- Every request leaves the buffers in order. -/
theorem Heard.inStock (hh : Heard cfg s frame ctrl t) (h : s.InStock) : t.InStock := by
  intro c
  have hc := h c
  cases hh with
  | ignored _ => exact hc
  | reset f _ _ => simpa [replied] using hc
  | probe f _ _ _ => simpa [replied] using hc
  | repeated f _ _ _ _ => simpa [replied] using hc
  | counted f data sh _ _ _ hpop _ =>
    rw [hpop.buffers c] at hc
    simpa [replied] using hc

/-- One more ASDU at the end of a buffer. -/
theorem InStock.put {a : Asdu} {c : DataClass} {sh : Shared} (h : s.InStock)
    (hsame : sh.buffer c = s.shared.buffer c ++ [a])
    (hother : ∀ d, d ≠ c → sh.buffer d = s.shared.buffer d) :
    ({ s with shared := sh }.note (.buffered c a)).InStock := by
  intro d
  have hserved : servedData [.buffered c a] = [] := rfl
  simp only [note, servedData_append, hserved, List.append_nil, bufferedData_append]
  by_cases hd : d = c
  · subst hd
    have hput : bufferedData d [.buffered d a] = encodable [a] := by
      simp [bufferedData, SecObs.buffered?, encodable, List.filterMap_cons]
    rw [hsame, encodable_append, hput, ← List.append_assoc]
    exact (h d).append_right _
  · have hnone : bufferedData d [.buffered c a] = [] := by
      simp [bufferedData, SecObs.buffered?, Ne.symm hd]
    rw [hother d hd, hnone, List.append_nil]
    exact h d

/-- The application puts an ASDU at the end of a buffer. -/
theorem inStock_send {a : Asdu} (h : s.InStock) (hs : s.send cfg a = .ok t) : t.InStock := by
  unfold send at hs
  split_ifs at hs
  · cases hs
    intro c
    have hserved : servedData [.queued a] = [] := rfl
    have hput : bufferedData c [.queued a] = [] := rfl
    have hbuffer : ∀ q, ({ s.shared with primQueue := q } : Shared).buffer c =
        s.shared.buffer c := fun q => by cases c <;> rfl
    simpa [note, hserved, hput, hbuffer] using h c
  · cases hs
    exact h.put (c := .class2) rfl fun d hd => by cases d <;> [rfl; exact absurd rfl hd]
  · cases hs
    exact h.put (c := .class1) rfl fun d hd => by cases d <;> [exact absurd rfl hd; rfl]

end SecondaryState

end Cs101
end Iec60870
