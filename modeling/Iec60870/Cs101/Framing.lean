import Iec60870.Cs101.Frame
import Iec60870.Lib.LittleEndian

/-!
# Reading FT1.2 frames from a stream

`read_frame` takes one frame from the octets received.  It does not resynchronise: on
a malformed frame it fails, with what it has read consumed, and is called again.

## Main definitions

* `readFrame`, `readFrames` — one frame, and a number of them in a row.
* `Frame.Fits` — the frames a link address size can carry.

## Main results

* `readFrame_marshal` — a frame that fits is read back.
* `marshal_readFrame` — a frame that was read is marshalled to the octets it came from.
* `framing` — **both, with the bounds on what is written and consumed.**
-/

namespace Iec60870
namespace Cs101

/-- The stream has ended. -/
def endOfStream : Error := .io "UnexpectedEof"

/-- `ControlField::parse`: FCB and FCV share their bits with ACD and DFC, so only one
pair is ever set. -/
def ControlField.parse (b : UInt8) : ControlField :=
  let prm := b &&& CTRL_PRM != 0
  { dir := b &&& CTRL_DIR != 0
    prm
    fcb := prm && b &&& CTRL_FCB != 0
    fcv := prm && b &&& CTRL_FCV != 0
    acd := !prm && b &&& CTRL_ACD != 0
    dfc := !prm && b &&& CTRL_DFC != 0
    func := b &&& CTRL_FUNC_MASK }

/-- `decode_link_addr`: one octet or two, the low one first. -/
def decodeLinkAddr : Octets → UInt16
  | [b] => b.toUInt16
  | [lo, hi] => LittleEndian.ofOctets lo hi
  | _ => 0

/-- `read_exact`: the next `n` octets.  A stream that ends before is consumed. -/
def readExact (n : ℕ) (s : Octets) : Except Error Octets × Octets :=
  if s.length < n then (.error endOfStream, []) else (.ok (s.take n), s.drop n)

/-- The fixed-length frame in `buf`: control field, link address, checksum and end. -/
def fixedFrame (addrLen : ℕ) (buf : Octets) : Except Error Frame :=
  let control := buf.getD 0 0
  let addr := (buf.drop 1).take addrLen
  if buf.getD (buf.length - 1) 0 ≠ END_CHAR then .error (.frame "invalid end character")
  else if checksum control addr [] ≠ buf.getD (buf.length - 2) 0 then
    .error (.frame "checksum mismatch")
  else .ok (.fixed (.parse control) (decodeLinkAddr addr))

/-- The variable-length frame with the control octet `control` and the remaining octets
`body`: link address, ASDU, checksum and end. -/
def variableFrame (addrLen : ℕ) (control : UInt8) (body : Octets) : Except Error Frame :=
  let addr := body.take addrLen
  let asdu := (body.take (body.length - 2)).drop addrLen
  if body.getD (body.length - 1) 0 ≠ END_CHAR then .error (.frame "invalid end character")
  else if checksum control addr asdu ≠ body.getD (body.length - 2) 0 then
    .error (.frame "checksum mismatch")
  else .ok (.variable' (.parse control) (decodeLinkAddr addr) asdu)

/-- `read_frame` after the start character of a fixed-length frame. -/
def readFixed (addrLen : ℕ) (s : Octets) : Except Error Frame × Octets :=
  match readExact (1 + addrLen + 2) s with
  | (.error e, s) => (.error e, s)
  | (.ok buf, s) => (fixedFrame addrLen buf, s)

/-- `read_frame` after the start character of a variable-length frame. -/
def readVariable (addrLen : ℕ) (s : Octets) : Except Error Frame × Octets :=
  match readExact 4 s with
  | (.error e, s) => (.error e, s)
  | (.ok header, s) =>
    let l1 := header.getD 0 0
    if l1 ≠ header.getD 1 0 then (.error (.frame "length fields do not match"), s)
    else if header.getD 2 0 ≠ START_VARIABLE then
      (.error (.frame "invalid second start character"), s)
    else if l1.toNat < 1 + addrLen then
      (.error (.frame "frame is too short for its header"), s)
    else
      -- the control octet has been read; checksum and end follow
      match readExact (l1.toNat + 1) s with
      | (.error e, s) => (.error e, s)
      | (.ok body, s) => (variableFrame addrLen (header.getD 3 0) body, s)

/-- `read_frame` on the octets received up to the end of the stream: the outcome, and
the octets that are not consumed. -/
def readFrame (linkAddrSize : UInt8) (s : Octets) : Except Error Frame × Octets :=
  if linkAddrSize > 2 then (.error (.frame "link address size must be 0, 1 or 2"), s)
  else
    match readExact 1 s with
    | (.error e, s) => (.error e, s)
    | (.ok start, s) =>
      if start.getD 0 0 = SINGLE_CHAR_ACK then (.ok .singleCharAck, s)
      else if start.getD 0 0 = START_FIXED then readFixed linkAddrSize.toNat s
      else if start.getD 0 0 = START_VARIABLE then readVariable linkAddrSize.toNat s
      else (.error (.frame "invalid start character"), s)

/-- `n` calls of `readFrame` in a row, each of them successful. -/
def readFrames (linkAddrSize : UInt8) : ℕ → Octets → Except Error (List Frame) × Octets
  | 0, s => (.ok [], s)
  | n + 1, s =>
    match readFrame linkAddrSize s with
    | (.error e, s) => (.error e, s)
    | (.ok f, s) =>
      match readFrames linkAddrSize n s with
      | (.error e, s) => (.error e, s)
      | (.ok fs, s) => (.ok (f :: fs), s)

/-- The octets of a list of frames, one after the other. -/
def marshalAll (linkAddrSize : UInt8) : List Frame → Except Error Octets
  | [] => .ok []
  | f :: fs => do
    let raw ← f.marshal linkAddrSize
    let rest ← marshalAll linkAddrSize fs
    return raw ++ rest

/-! ### The control field -/

/-- A function code of four bits, and no flags of the other direction. -/
structure ControlField.WellFormed (c : ControlField) : Prop where
  func : c.func < 16
  primary : c.prm = true → c.acd = false ∧ c.dfc = false
  secondary : c.prm = false → c.fcb = false ∧ c.fcv = false

namespace ControlField

/-- A control field that was parsed is sent again. -/
theorem value_parse (b : UInt8) : (parse b).value = b := by
  revert b
  decide +kernel

theorem parse_value {c : ControlField} (h : c.WellFormed) : parse c.value = c := by
  have hprim : ∀ f : UInt8, f < 16 → ∀ d fcb fcv,
      parse (value ⟨d, true, fcb, fcv, false, false, f⟩) =
        ⟨d, true, fcb, fcv, false, false, f⟩ := by decide +kernel
  have hsec : ∀ f : UInt8, f < 16 → ∀ d acd dfc,
      parse (value ⟨d, false, false, false, acd, dfc, f⟩) =
        ⟨d, false, false, false, acd, dfc, f⟩ := by decide +kernel
  obtain ⟨d, prm, fcb, fcv, acd, dfc, f⟩ := c
  cases prm with
  | true =>
    obtain ⟨rfl, rfl⟩ := h.primary rfl
    exact hprim f h.func d fcb fcv
  | false =>
    obtain ⟨rfl, rfl⟩ := h.secondary rfl
    exact hsec f h.func d acd dfc

end ControlField

/-! ### The link address -/

/-- The link address fits `size` octets, so that none of its bits is lost. -/
def AddrFits (size : UInt8) (addr : UInt16) : Prop := size = 1 → addr ≤ 0xff

theorem length_encodeLinkAddr {size : UInt8} (h : size ≤ 2) (addr : UInt16) :
    (encodeLinkAddr addr size).length = size.toNat := by
  have hall : ∀ size : UInt8, size ≤ 2 → size = 0 ∨ size = 1 ∨ size = 2 := by decide +kernel
  obtain rfl | rfl | rfl := hall size h <;> rfl

theorem decode_encodeLinkAddr {size : UInt8} {addr : UInt16} (h : size = 1 ∨ size = 2)
    (hfit : AddrFits size addr) : decodeLinkAddr (encodeLinkAddr addr size) = addr := by
  obtain rfl | rfl := h
  · have hle : addr.toNat ≤ 255 := UInt16.le_iff_toNat_le.mp (hfit rfl)
    show addr.toUInt8.toUInt16 = addr
    apply UInt16.toNat_inj.mp
    simp only [UInt8.toNat_toUInt16, UInt16.toNat_toUInt8]
    omega
  · exact LittleEndian.ofOctets_split addr

theorem encode_decodeLinkAddr {size : UInt8} {addr : Octets} (h : size ≤ 2)
    (hlen : addr.length = size.toNat) : encodeLinkAddr (decodeLinkAddr addr) size = addr := by
  have hall : ∀ size : UInt8, size ≤ 2 → size = 0 ∨ size = 1 ∨ size = 2 := by decide +kernel
  obtain rfl | rfl | rfl := hall size h
  · rw [List.eq_nil_of_length_eq_zero hlen]
    rfl
  · obtain ⟨b, rfl⟩ := List.length_eq_one_iff.mp hlen
    have hnarrow : ∀ b : UInt8, b.toUInt16.toUInt8 = b := by decide +kernel
    exact congrArg (fun b => [b]) (hnarrow b)
  · obtain ⟨lo, hi, rfl⟩ := List.length_eq_two.mp hlen
    exact LittleEndian.octets_ofOctets lo hi

/-! ### Reading octets -/

theorem readExact_append {n : ℕ} {a : Octets} (h : a.length = n) (s : Octets) :
    readExact n (a ++ s) = (.ok a, s) := by
  rw [readExact, if_neg (by rw [List.length_append]; omega), List.take_left' h, List.drop_left' h]

theorem readExact_eq_ok {n : ℕ} {s a rest : Octets} (h : readExact n s = (.ok a, rest)) :
    s = a ++ rest ∧ a.length = n := by
  unfold readExact at h
  split at h
  · cases h
  · cases h
    exact ⟨(List.take_append_drop n s).symm, List.length_take_of_le (by omega)⟩

/-- What is consumed of a stream: at most `k` octets from its front, the rest left
as it was. -/
def Consumes (k : ℕ) (s rest : Octets) : Prop := ∃ a, s = a ++ rest ∧ a.length ≤ k

theorem Consumes.trans {j k : ℕ} {s m rest : Octets} (h : Consumes j s m)
    (h' : Consumes k m rest) : Consumes (j + k) s rest := by
  obtain ⟨a, rfl, ha⟩ := h
  obtain ⟨b, rfl, hb⟩ := h'
  refine ⟨a ++ b, (List.append_assoc _ _ _).symm, ?_⟩
  rw [List.length_append]
  omega

theorem Consumes.mono {j k : ℕ} {s rest : Octets} (h : Consumes j s rest) (hjk : j ≤ k) :
    Consumes k s rest := by
  obtain ⟨a, ha, hlen⟩ := h
  exact ⟨a, ha, hlen.trans hjk⟩

theorem consumes_readExact (n : ℕ) (s : Octets) : Consumes n s (readExact n s).2 := by
  unfold readExact
  split
  · exact ⟨s, (List.append_nil s).symm, by omega⟩
  · exact ⟨s.take n, (List.take_append_drop n s).symm, List.length_take_le _ _⟩

/-- Octets whose number is known, with the last two apart. -/
theorem exists_split_last_two {n : ℕ} {buf : Octets} (h : buf.length = n + 2) :
    ∃ front cs last, buf = front ++ [cs, last] ∧ front.length = n := by
  have htail : (buf.drop n).length = 2 := by
    rw [List.length_drop]
    omega
  obtain ⟨cs, last, he⟩ := List.length_eq_two.mp htail
  refine ⟨buf.take n, cs, last, ?_, List.length_take_of_le (by omega)⟩
  rw [← he, List.take_append_drop]

/-! ### Fixed-length frames -/

theorem fixedFrame_eq (control : UInt8) (addr : Octets) (cs last : UInt8) :
    fixedFrame addr.length (control :: addr ++ [cs, last]) =
      if last ≠ END_CHAR then .error (.frame "invalid end character")
      else if checksum control addr [] ≠ cs then .error (.frame "checksum mismatch")
      else .ok (.fixed (.parse control) (decodeLinkAddr addr)) := by
  unfold fixedFrame
  simp

/-- What is accepted as a fixed-length frame. -/
theorem fixedFrame_eq_ok {n : ℕ} {buf : Octets} {f : Frame} (hlen : buf.length = 1 + n + 2)
    (h : fixedFrame n buf = .ok f) :
    ∃ control addr, addr.length = n ∧
      buf = control :: addr ++ [checksum control addr [], END_CHAR] ∧
      f = .fixed (.parse control) (decodeLinkAddr addr) := by
  obtain ⟨front, cs, last, rfl, hfront⟩ := exists_split_last_two hlen
  obtain ⟨control, addr, rfl, rfl⟩ : ∃ control addr, front = control :: addr ∧ addr.length = n := by
    cases front with
    | nil => simp at hfront; omega
    | cons control addr => exact ⟨control, addr, rfl, by simp at hfront; omega⟩
  rw [fixedFrame_eq] at h
  split_ifs at h with hend hcs
  cases h
  exact ⟨control, addr, rfl, by rw [not_not.mp hend, not_not.mp hcs], rfl⟩

/-! ### Variable-length frames -/

theorem variableFrame_eq (control : UInt8) (addr asdu : Octets) (cs last : UInt8) :
    variableFrame addr.length control (addr ++ asdu ++ [cs, last]) =
      if last ≠ END_CHAR then .error (.frame "invalid end character")
      else if checksum control addr asdu ≠ cs then .error (.frame "checksum mismatch")
      else .ok (.variable' (.parse control) (decodeLinkAddr addr) asdu) := by
  have hlen : (addr ++ asdu ++ [cs, last]).length - 2 = (addr ++ asdu).length := by simp; omega
  have hlast : (addr ++ asdu ++ [cs, last]).length - 1 = (addr ++ asdu).length + 1 := by
    simp
    omega
  unfold variableFrame
  rw [hlen, hlast, List.take_left' rfl, List.drop_left' rfl, List.append_assoc,
    List.take_left' rfl, ← List.append_assoc, List.getD_append_right _ _ _ _ (by simp),
    List.getD_append_right _ _ _ _ (by simp)]
  simp

/-- What is accepted as a variable-length frame. -/
theorem variableFrame_eq_ok {n k : ℕ} {control : UInt8} {body : Octets} {f : Frame}
    (hlen : body.length = k + 2) (hk : n ≤ k) (h : variableFrame n control body = .ok f) :
    ∃ addr asdu, addr.length = n ∧ addr.length + asdu.length = k ∧
      body = addr ++ asdu ++ [checksum control addr asdu, END_CHAR] ∧
      f = .variable' (.parse control) (decodeLinkAddr addr) asdu := by
  obtain ⟨front, cs, last, rfl, hfront⟩ := exists_split_last_two hlen
  have haddr : (front.take n).length = n := List.length_take_of_le (by omega)
  have hsplit : front = front.take n ++ front.drop n := (List.take_append_drop n front).symm
  rw [hsplit] at h
  have heq := variableFrame_eq control (front.take n) (front.drop n) cs last
  rw [haddr] at heq
  rw [heq] at h
  split_ifs at h with hend hcs
  cases h
  refine ⟨_, _, haddr, ?_, ?_, rfl⟩
  · rw [haddr, List.length_drop]
    omega
  · rw [not_not.mp hend, not_not.mp hcs, ← hsplit]

/-! ### Frames -/

namespace Frame

/-- A frame that a link address of `size` octets can carry. -/
def Fits (size : UInt8) : Frame → Prop
  | .singleCharAck => True
  | .fixed c addr => c.WellFormed ∧ AddrFits size addr
  | .variable' c addr asdu => c.WellFormed ∧ AddrFits size addr ∧ asdu.length ≤ maxAsduLen size

/-- The frame a control octet, the octets of a link address and an ASDU stand for. -/
theorem marshal_decoded {size control : UInt8} {addr asdu : Octets} (hsize : size ≤ 2)
    (hlen : addr.length = size.toNat) (hfit : 1 + addr.length + asdu.length ≤ 255) :
    (variable' (.parse control) (decodeLinkAddr addr) asdu).marshal size =
      .ok ([START_VARIABLE, UInt8.ofNat (1 + addr.length + asdu.length),
        UInt8.ofNat (1 + addr.length + asdu.length), START_VARIABLE, control] ++ addr ++ asdu ++
        [checksum control addr asdu, END_CHAR]) := by
  have h' : ¬size > 2 := UInt8.not_lt.mpr hsize
  rw [marshal, if_neg h']
  dsimp only
  rw [encode_decodeLinkAddr hsize hlen, if_neg (by simp only [MAX_LENGTH_FIELD]; omega),
    ControlField.value_parse]

/-- A longer ASDU than fits is refused. -/
theorem marshal_too_long {size : UInt8} {control : ControlField} {addr : UInt16} {asdu : Octets}
    (h : maxAsduLen size < asdu.length) :
    ∃ e, (variable' control addr asdu).marshal size = .error e := by
  unfold marshal
  split
  · exact ⟨_, rfl⟩
  · next hsize =>
    have hlen := length_encodeLinkAddr (UInt8.not_lt.mp hsize) addr
    dsimp only
    rw [if_pos]
    · exact ⟨_, rfl⟩
    · simp only [maxAsduLen, MAX_LENGTH_FIELD] at h ⊢
      omega

end Frame

theorem size_le {size : UInt8} (h : size = 1 ∨ size = 2) : size ≤ 2 := by
  obtain rfl | rfl := h <;> decide

/-- A frame is told by its start character. -/
theorem readFrame_cons {size : UInt8} (h : ¬size > 2) (b : UInt8) (s : Octets) :
    readFrame size (b :: s) =
      if b = SINGLE_CHAR_ACK then (.ok .singleCharAck, s)
      else if b = START_FIXED then readFixed size.toNat s
      else if b = START_VARIABLE then readVariable size.toNat s
      else (.error (.frame "invalid start character"), s) := by
  have hstart : readExact 1 (b :: s) = (.ok [b], s) := readExact_append (a := [b]) rfl s
  rw [readFrame, if_neg h, hstart]
  rfl

/-- **A frame that fits is read back, and nothing else is consumed.** -/
theorem readFrame_marshal {size : UInt8} {f : Frame} (hsize : size = 1 ∨ size = 2)
    (hf : f.Fits size) :
    ∃ raw, f.marshal size = .ok raw ∧ ∀ s, readFrame size (raw ++ s) = (.ok f, s) := by
  have hle : ¬size > 2 := UInt8.not_lt.mpr (size_le hsize)
  have hsize' : size.toNat ≤ 2 := UInt8.le_iff_toNat_le.mp (size_le hsize)
  unfold Frame.marshal
  rw [if_neg hle]
  cases f with
  | singleCharAck =>
    refine ⟨_, rfl, fun s => ?_⟩
    rw [List.singleton_append, readFrame_cons hle, if_pos rfl]
  | fixed c addr =>
    obtain ⟨hc, haddr⟩ := hf
    have hlen := length_encodeLinkAddr (size_le hsize) addr
    refine ⟨_, rfl, fun s => ?_⟩
    have hbuf : (c.value :: encodeLinkAddr addr size ++
        [checksum c.value (encodeLinkAddr addr size) [], END_CHAR]).length =
          1 + size.toNat + 2 := by
      simp [hlen]
      omega
    -- the two exact reads get back what was written, and the decoder splits it at the same places
    have hread := readExact_append hbuf s
    have hframe := fixedFrame_eq c.value (encodeLinkAddr addr size)
      (checksum c.value (encodeLinkAddr addr size) []) END_CHAR
    rw [hlen, if_neg (not_not.mpr rfl), if_neg (not_not.mpr rfl), ControlField.parse_value hc,
      decode_encodeLinkAddr hsize haddr] at hframe
    show readFrame size (START_FIXED :: (c.value :: encodeLinkAddr addr size ++
      [checksum c.value (encodeLinkAddr addr size) [], END_CHAR] ++ s)) = _
    rw [readFrame_cons hle, if_neg (by decide), if_pos rfl, readFixed, hread]
    exact congrArg (·, s) hframe
  | variable' c addr asdu =>
    obtain ⟨hc, haddr, hasdu⟩ := hf
    have hlen := length_encodeLinkAddr (size_le hsize) addr
    simp only [maxAsduLen, MAX_LENGTH_FIELD] at hasdu
    dsimp only
    rw [if_neg (by simp only [MAX_LENGTH_FIELD]; omega)]
    refine ⟨_, rfl, fun s => ?_⟩
    generalize hl : UInt8.ofNat (1 + (encodeLinkAddr addr size).length + asdu.length) = l
    -- the length field counts the control field, the address and the ASDU, and does not wrap
    have hlnat : l.toNat = 1 + size.toNat + asdu.length := by
      rw [← hl, UInt8.toNat_ofNat_of_lt' (by rw [UInt8.size]; omega), hlen]
    generalize hcs : checksum c.value (encodeLinkAddr addr size) asdu = cs
    have hheader := readExact_append (a := [l, l, START_VARIABLE, c.value]) (n := 4) rfl
      (encodeLinkAddr addr size ++ asdu ++ [cs, END_CHAR] ++ s)
    have hbody := readExact_append (a := encodeLinkAddr addr size ++ asdu ++ [cs, END_CHAR])
      (n := l.toNat + 1) (by simp [hlen, hlnat]; omega) s
    have hframe := variableFrame_eq c.value (encodeLinkAddr addr size) asdu cs END_CHAR
    rw [hlen, if_neg (not_not.mpr rfl), if_neg (not_not.mpr hcs), ControlField.parse_value hc,
      decode_encodeLinkAddr hsize haddr] at hframe
    have hall : [START_VARIABLE, l, l, START_VARIABLE, c.value] ++ encodeLinkAddr addr size ++
        -- the same octets, grouped as the reader takes them: a start, a header of four, and a body
        asdu ++ [cs, END_CHAR] ++ s = START_VARIABLE :: ([l, l, START_VARIABLE, c.value] ++
          (encodeLinkAddr addr size ++ asdu ++ [cs, END_CHAR] ++ s)) := by simp
    rw [hall, readFrame_cons hle, if_neg (by decide), if_neg (by decide), if_pos rfl,
      readVariable, hheader]
    simp only [List.getD_cons_zero, List.getD_cons_succ]
    rw [if_neg (not_not.mpr rfl), if_neg (not_not.mpr rfl), if_neg (by omega), hbody]
    exact congrArg (·, s) hframe

/-- **A frame that was read is marshalled to the octets it came from.** -/
theorem marshal_readFrame {size : UInt8} {s rest : Octets} {f : Frame}
    (h : readFrame size s = (.ok f, rest)) : ∃ raw, f.marshal size = .ok raw ∧ s = raw ++ rest := by
  by_cases hle : size > 2
  · rw [readFrame, if_pos hle] at h
    cases h
  · have hsize : size ≤ 2 := UInt8.not_lt.mp hle
    cases s with
    | nil =>
      rw [readFrame, if_neg hle] at h
      cases h
    | cons b s =>
      rw [readFrame_cons hle] at h
      split_ifs at h with hack hfixed hvar
      -- the single character acknowledgement
      · cases h
        subst hack
        exact ⟨_, by rw [Frame.marshal, if_neg hle], rfl⟩
      -- a fixed-length frame: one exact read, then the checks of the decoder
      · subst hfixed
        unfold readFixed at h
        split at h
        · cases h
        · next buf s'' hbuf =>
          obtain ⟨rfl, hlen⟩ := readExact_eq_ok hbuf
          obtain ⟨hframe, rfl⟩ := Prod.mk.inj h
          obtain ⟨control, addr, haddr, rfl, rfl⟩ := fixedFrame_eq_ok hlen hframe
          refine ⟨_, by rw [Frame.marshal, if_neg hle], ?_⟩
          rw [encode_decodeLinkAddr hsize haddr, ControlField.value_parse]
          simp
      -- a variable-length frame: the header says how long the body is, and both length octets and
      -- both start octets agree
      · subst hvar
        unfold readVariable at h
        split at h
        · cases h
        · next header s'' hheader =>
          obtain ⟨rfl, hfour⟩ := readExact_eq_ok hheader
          obtain ⟨l1, l2, start2, control, rfl⟩ := List.length_eq_four.mp hfour
          simp only [List.getD_cons_zero, List.getD_cons_succ] at h
          split_ifs at h with hl hstart2 hshort
          · cases h
          · cases h
          · cases h
          · obtain rfl := not_not.mp hl
            obtain rfl := not_not.mp hstart2
            split at h
            · cases h
            · next body s3 hbody =>
              obtain ⟨rfl, hlen⟩ := readExact_eq_ok hbody
              obtain ⟨hframe, rfl⟩ := Prod.mk.inj h
              have hlen' : body.length = (l1.toNat - 1) + 2 := by omega
              obtain ⟨addr, asdu, haddr, hsum, rfl, rfl⟩ :=
                variableFrame_eq_ok hlen' (by omega) hframe
              have hl1 := l1.toNat_lt
              -- what the marshaller writes as the length is the length octet that was read
              have hfield : UInt8.ofNat (1 + addr.length + asdu.length) = l1 := by
                rw [show 1 + addr.length + asdu.length = l1.toNat by omega, UInt8.ofNat_toNat]
              refine ⟨_, Frame.marshal_decoded hsize haddr (by omega), ?_⟩
              rw [hfield]
              simp
      · cases h

/-- **One call consumes 261 octets at most.** -/
theorem consumes_readFrame (size : UInt8) (s : Octets) : Consumes 261 s (readFrame size s).2 := by
  have hsame : ∀ s : Octets, Consumes 0 s s := fun s => ⟨[], rfl, Nat.le_refl 0⟩
  have hexact : ∀ {n s r}, readExact n s = r → Consumes n s r.2 := by
    rintro n s r rfl
    exact consumes_readExact n s
  unfold readFrame
  split
  · exact (hsame s).mono (by omega)
  · next hle =>
    have hsize : size.toNat ≤ 2 := UInt8.le_iff_toNat_le.mp (UInt8.not_lt.mp hle)
    split
    · next hstart => exact (hexact hstart).mono (by omega)
    · next start s' hstart =>
      have h1 := hexact hstart
      split_ifs
      -- one octet for the acknowledgement, at most five for a fixed-length frame
      · exact h1.mono (by omega)
      · have hfixed : Consumes (1 + size.toNat + 2) s' (readFixed size.toNat s').2 := by
          unfold readFixed
          split
          · next hbuf => exact hexact hbuf
          · next hbuf => exact hexact hbuf
        exact (h1.trans hfixed).mono (by omega)
      -- the length octet bounds the body of a variable-length frame
      · have hvar : Consumes 260 s' (readVariable size.toNat s').2 := by
          unfold readVariable
          split
          · next hheader => exact (hexact hheader).mono (by omega)
          · next header s'' hheader =>
            have h4 := hexact hheader
            dsimp only
            split_ifs
            · exact h4.mono (by omega)
            · exact h4.mono (by omega)
            · exact h4.mono (by omega)
            · have hl := (header.getD 0 0).toNat_lt
              split
              · next hbody => exact (h4.trans (hexact hbody)).mono (by omega)
              · next hbody => exact (h4.trans (hexact hbody)).mono (by omega)
        exact (h1.trans hvar).mono (by omega)
      · exact h1.mono (by omega)

/-- Frames that fit are read back one by one. -/
theorem readFrames_marshalAll {size : UInt8} {frames : List Frame} (hsize : size = 1 ∨ size = 2)
    (hf : ∀ f ∈ frames, f.Fits size) :
    ∃ raw, marshalAll size frames = .ok raw ∧
      ∀ s, readFrames size frames.length (raw ++ s) = (.ok frames, s) := by
  induction frames with
  | nil => exact ⟨[], rfl, fun s => rfl⟩
  | cons f fs ih =>
    obtain ⟨raw, hraw, hread⟩ := readFrame_marshal hsize (hf f List.mem_cons_self)
    obtain ⟨raws, hraws, hreads⟩ := ih fun g hg => hf g (List.mem_cons_of_mem _ hg)
    refine ⟨raw ++ raws, ?_, fun s => ?_⟩
    · rw [marshalAll, hraw, hraws]
      rfl
    · rw [List.length_cons, readFrames, List.append_assoc, hread]
      dsimp only
      rw [hreads]

/-- **FT1.2 framing.**  Frames that fit are read back from their octets, in order and
with nothing left over; a longer ASDU is refused; whatever octets a frame is read from
are its octets; and one call consumes 261 octets at most. -/
theorem framing {size : UInt8} (hsize : size = 1 ∨ size = 2) :
    (∀ frames : List Frame, (∀ f ∈ frames, f.Fits size) →
      ∃ raw, marshalAll size frames = .ok raw ∧
        readFrames size frames.length raw = (.ok frames, [])) ∧
    (∀ (control : ControlField) (addr : UInt16) (asdu : Octets), maxAsduLen size < asdu.length →
      ∃ e, (Frame.variable' control addr asdu).marshal size = .error e) ∧
    (∀ (s rest : Octets) (f : Frame), readFrame size s = (.ok f, rest) →
      ∃ raw, f.marshal size = .ok raw ∧ s = raw ++ rest) ∧
    ∀ s, Consumes 261 s (readFrame size s).2 := by
  refine ⟨fun frames hf => ?_, fun control addr asdu h => Frame.marshal_too_long h,
    fun s rest f h => marshal_readFrame h, consumes_readFrame size⟩
  obtain ⟨raw, hraw, hread⟩ := readFrames_marshalAll hsize hf
  have hnil := hread []
  rw [List.append_nil] at hnil
  exact ⟨raw, hraw, hnil⟩

/-- An acknowledgement and a frame of user data with a two-octet link address. -/
theorem framing_ackAndData :
    let frames : List Frame :=
      [.fixed (.secondary 0 true false) 0x1234, .variable' (.primary 3 true true true) 0x1234 [7, 8]]
    let raw : Octets := [0x10, 0x20, 0x34, 0x12, 0x66, 0x16,
      0x68, 5, 5, 0x68, 0xf3, 0x34, 0x12, 7, 8, 0x48, 0x16]
    marshalAll 2 frames = .ok raw ∧ readFrames 2 2 raw = (.ok frames, []) := by
  have h := (framing (.inr rfl)).1
    [.fixed (.secondary 0 true false) 0x1234,
      .variable' (.primary 3 true true true) 0x1234 [7, 8]] ?_
  · obtain ⟨raw, hraw, hread⟩ := h
    have hval : raw = [0x10, 0x20, 0x34, 0x12, 0x66, 0x16,
        0x68, 5, 5, 0x68, 0xf3, 0x34, 0x12, 7, 8, 0x48, 0x16] := by
      cases hraw
      decide
    exact ⟨hval ▸ hraw, hval ▸ hread⟩
  · intro f hf
    simp only [List.mem_cons, List.not_mem_nil, or_false] at hf
    obtain rfl | rfl := hf
    · exact ⟨⟨by decide, fun h => (by cases h), fun _ => ⟨rfl, rfl⟩⟩, fun h => by cases h⟩
    · exact ⟨⟨by decide, fun _ => ⟨rfl, rfl⟩, fun h => by cases h⟩, (fun h => by cases h),
        by decide⟩

end Cs101
end Iec60870
