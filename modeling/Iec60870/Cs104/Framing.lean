import Iec60870.Cs104.Apci

/-!
# Reading APDUs from a stream

`read_apdu` takes one APDU after the other from the octets received, skipping
what is no APDU, and `parse` splits each into its control field and its ASDU.
Together they invert the three encoders.

## Main definitions

* `readApdu`, `readApdus` — one APDU, and a number of them in a row.
* `Built` — the frames the encoders produce, with what they are built from.
* `Garbage` — octets between frames that `readApdu` skips.

## Main results

* `readApdu_append` — reading does not look beyond the APDU it returns.
* `built_of_parse` — **what `parse` accepts an encoder has built.**
* `reads_back` — **the reader and the parser invert the encoders.**
-/

namespace Iec60870
namespace Cs104

/-- Maximum APDU size: start, length, control field and ASDU. -/
def APDU_SIZE_MAX : ℕ := 255

/-- Maximum of the length octet: control field and ASDU. -/
def APDU_FIELD_SIZE_MAX : ℕ := APCI_CTL_FIELD_SIZE + ASDU_SIZE_MAX

/-- The error of a read after the peer has closed the connection. -/
def eof : Error := .io "UnexpectedEof"

/-- The length octet of an APDU is in range. -/
def FieldLen (l : UInt8) : Prop := APCI_CTL_FIELD_SIZE ≤ l.toNat ∧ l.toNat ≤ APDU_FIELD_SIZE_MAX

instance (l : UInt8) : Decidable (FieldLen l) := inferInstanceAs (Decidable (_ ∧ _))

/-- `read_apdu` on the octets received up to the end of the stream: the first
complete APDU and what follows it. -/
def readApdu : Octets → Except Error (Octets × Octets)
  | [] => .error eof
  | [_] => .error eof
  | b :: l :: rest =>
    -- resynchronise: skip everything until a start character
    if b ≠ START_FRAME then readApdu (l :: rest)
    else if ¬FieldLen l then readApdu rest
    else if rest.length < l.toNat then .error eof
    else .ok (b :: l :: rest.take l.toNat, rest.drop l.toNat)

/-- `n` calls of `readApdu` in a row: the frames, and what of the stream is left
behind them. -/
def readApdus : ℕ → Octets → Except Error (List Octets × Octets)
  | 0, s => .ok ([], s)
  | n + 1, s =>
    match readApdu s with
    | .error e => .error e
    | .ok (f, s) =>
      match readApdus n s with
      | .error e => .error e
      | .ok (fs, s) => .ok (f :: fs, s)

/-- The frames the encoders produce from 15-bit sequence numbers, and from at
least one octet of ASDU in the I format. -/
inductive Built : Apci → Octets → Octets → Prop
  | i {s r : UInt16} {asdu frame : Octets} (hs : s.toNat < 32768) (hr : r.toNat < 32768)
      (hne : asdu ≠ []) (h : newIFrame s r asdu = .ok frame) : Built (.i s r) asdu frame
  | s {r : UInt16} (hr : r.toNat < 32768) : Built (.s r) [] (newSFrame r)
  | u (function : UFunction) : Built (.u function) [] (newUFrame function)

/-- Octets other than the start character, and start characters with a length
out of range. -/
inductive Garbage : Octets → Prop
  | nil : Garbage []
  | octet {b : UInt8} {g : Octets} (hb : b ≠ START_FRAME) (hg : Garbage g) : Garbage (b :: g)
  | pair {l : UInt8} {g : Octets} (hl : ¬FieldLen l) (hg : Garbage g) :
      Garbage (START_FRAME :: l :: g)

/-! ### The reader -/

theorem readApdu_cons_ne {b : UInt8} (hb : b ≠ START_FRAME) (s : Octets) :
    readApdu (b :: s) = readApdu s := by
  cases s with
  | nil => rfl
  | cons l rest => rw [readApdu, if_pos hb]

/-- Garbage is skipped. -/
theorem readApdu_garbage {g : Octets} (hg : Garbage g) (s : Octets) :
    readApdu (g ++ s) = readApdu s := by
  induction hg with
  | nil => rfl
  | octet hb _ ih => rw [List.cons_append, readApdu_cons_ne hb, ih]
  | pair hl _ ih =>
    rw [List.cons_append, List.cons_append, readApdu, if_neg (not_not.mpr rfl), if_pos hl, ih]

/-- A complete APDU is returned whole. -/
theorem readApdu_frame {l : UInt8} {body : Octets} (hl : FieldLen l) (hlen : body.length = l.toNat)
    (s : Octets) :
    readApdu (START_FRAME :: l :: body ++ s) = .ok (START_FRAME :: l :: body, s) := by
  have hshort : ¬(body ++ s).length < l.toNat := by
    rw [List.length_append]
    omega
  rw [List.cons_append, List.cons_append, readApdu, if_neg (not_not.mpr rfl),
    if_neg (not_not.mpr hl), if_neg hshort, List.take_left' hlen, List.drop_left' hlen]

/-- What `readApdu` returns: octets skipped, one APDU, and the rest. -/
theorem readApdu_eq_ok {s f rest : Octets} (h : readApdu s = .ok (f, rest)) :
    ∃ g l body, s = g ++ f ++ rest ∧ Garbage g ∧ f = START_FRAME :: l :: body ∧ FieldLen l ∧
      body.length = l.toNat := by
  induction s using readApdu.induct with
  | case1 => cases h
  | case2 => cases h
  | case3 b l s hb ih =>
    rw [readApdu, if_pos hb] at h
    obtain ⟨g, l', body, he, hg, hf, hl, hlen⟩ := ih h
    exact ⟨b :: g, l', body, by rw [he]; rfl, .octet hb hg, hf, hl, hlen⟩
  | case4 b l s hb hl ih =>
    rw [readApdu, if_neg hb, if_pos hl] at h
    obtain rfl := not_not.mp hb
    obtain ⟨g, l', body, he, hg, hf, hl', hlen⟩ := ih h
    exact ⟨START_FRAME :: l :: g, l', body, by rw [he]; rfl, .pair hl hg, hf, hl', hlen⟩
  | case5 b l s hb hl hshort =>
    rw [readApdu, if_neg hb, if_neg hl, if_pos hshort] at h
    cases h
  | case6 b l s hb hl hlong =>
    rw [readApdu, if_neg hb, if_neg hl, if_neg hlong] at h
    obtain rfl := not_not.mp hb
    cases h
    refine ⟨[], l, s.take l.toNat, ?_, .nil, rfl, not_not.mp hl, ?_⟩
    · simp
    · rw [List.length_take]
      omega

/-- What is received later does not change what has been read. -/
theorem readApdu_append {s f rest : Octets} (h : readApdu s = .ok (f, rest)) (later : Octets) :
    readApdu (s ++ later) = .ok (f, rest ++ later) := by
  obtain ⟨g, l, body, rfl, hg, rfl, hl, hlen⟩ := readApdu_eq_ok h
  rw [List.append_assoc, List.append_assoc, readApdu_garbage hg]
  exact readApdu_frame hl hlen (rest ++ later)

/-- The buffer of `read_apdu` is not overrun, and `parse` finds the six octets
it indexes. -/
theorem length_of_readApdu {s f rest : Octets} (h : readApdu s = .ok (f, rest)) :
    6 ≤ f.length ∧ f.length ≤ APDU_SIZE_MAX := by
  obtain ⟨g, l, body, -, -, rfl, ⟨hmin, hmax⟩, hlen⟩ := readApdu_eq_ok h
  simp only [APDU_FIELD_SIZE_MAX, APCI_CTL_FIELD_SIZE, ASDU_SIZE_MAX] at hmin hmax
  simp only [List.length_cons, APDU_SIZE_MAX]
  omega

/-! ### The parser -/

theorem toNat_seqNoOf (lo hi : UInt8) :
    (seqNoOf lo hi).toNat = lo.toNat / 2 + 128 * hi.toNat := by
  have hlo := lo.toNat_lt
  have hhi := hi.toNat_lt
  have h1 : (lo.toUInt16 >>> 1).toNat = lo.toNat / 2 := by
    rw [UInt16.toNat_shiftRight, UInt8.toNat_toUInt16]
    simp [Nat.shiftRight_eq_div_pow]
  have h2 : (hi.toUInt16 <<< 7).toNat = hi.toNat * 2 ^ 7 := by
    rw [UInt16.toNat_shiftLeft, UInt8.toNat_toUInt16]
    simp [Nat.shiftLeft_eq]
    omega
  rw [seqNoOf, UInt16.toNat_or, h1, h2, Nat.or_comm, ← Nat.shiftLeft_eq,
    ← Nat.shiftLeft_add_eq_or_of_lt (by omega), Nat.shiftLeft_eq]
  omega

/-- The octets of the sequence number two octets stand for, the low bit of the
first being clear. -/
theorem shift_seqNoOf {lo : UInt8} (hi : UInt8) (h : lo &&& 0x01 = 0) :
    (seqNoOf lo hi <<< 1).toUInt8 = lo ∧ (seqNoOf lo hi >>> 7).toUInt8 = hi := by
  have heven : ∀ b : UInt8, b &&& 0x01 = 0 → b.toNat % 2 = 0 := by decide +kernel
  have h2 := heven lo h
  have hlo := lo.toNat_lt
  constructor
  · apply UInt8.toNat_inj.mp
    rw [toNat_shiftLeft_one, toNat_seqNoOf]
    omega
  · apply UInt8.toNat_inj.mp
    rw [toNat_shiftRight_seven (toNat_seqNoOf_lt lo hi), toNat_seqNoOf]
    omega

/-- The first control octet of a U format. -/
theorem bits_of_fromBits {c : UInt8} {f : UFunction} (h0 : c &&& 0x01 ≠ 0) (h1 : c &&& 0x03 ≠ 0x01)
    (h : UFunction.fromBits (c &&& 0xfc) = some f) : f.bits ||| 0x03 = c := by
  have hall : ∀ c : UInt8, c &&& 0x01 ≠ 0 → c &&& 0x03 ≠ 0x01 →
      ((UFunction.fromBits (c &&& 0xfc)).all fun f => f.bits ||| 0x03 == c) := by decide +kernel
  have hf := hall c h0 h1
  rw [h] at hf
  simpa using hf

/-- An I format of the right length is rebuilt from its control octets. -/
theorem newIFrame_seqNoOf {l c1 c2 c3 c4 : UInt8} {asdu : Octets} (hl : FieldLen l)
    (hlen : asdu.length + 4 = l.toNat) (h1 : c1 &&& 0x01 = 0) (h3 : c3 &&& 0x01 = 0) :
    newIFrame (seqNoOf c1 c2) (seqNoOf c3 c4) asdu =
      .ok (START_FRAME :: l :: c1 :: c2 :: c3 :: c4 :: asdu) := by
  have hmax := hl.2
  have hfield : UInt8.ofNat (asdu.length + APCI_CTL_FIELD_SIZE) = l := by
    rw [APCI_CTL_FIELD_SIZE, hlen, UInt8.ofNat_toNat]
  simp only [APDU_FIELD_SIZE_MAX, APCI_CTL_FIELD_SIZE] at hmax
  obtain ⟨hs1, hs2⟩ := shift_seqNoOf c2 h1
  obtain ⟨hr1, hr2⟩ := shift_seqNoOf c4 h3
  rw [newIFrame, if_neg (by omega), hfield, hs1, hs2, hr1, hr2]
  rfl

/-- **What `parse` accepts of the frames that were read an encoder has built**,
octet for octet, from the control field and the ASDU that `parse` returns. -/
theorem built_of_parse {l : UInt8} {body asdu : Octets} {apci : Apci} (hl : FieldLen l)
    (hlen : body.length = l.toNat)
    (h : parse (START_FRAME :: l :: body) = .ok (apci, asdu)) :
    Built apci asdu (START_FRAME :: l :: body) := by
  -- a shorter body has no room for the four control octets, against the length field
  match body, hlen with
  | [], hlen => exact absurd hl.1 (by simp [← hlen, APCI_CTL_FIELD_SIZE])
  | [_], hlen => exact absurd hl.1 (by simp [← hlen, APCI_CTL_FIELD_SIZE])
  | [_, _], hlen => exact absurd hl.1 (by simp [← hlen, APCI_CTL_FIELD_SIZE])
  | [_, _, _], hlen => exact absurd hl.1 (by simp [← hlen, APCI_CTL_FIELD_SIZE])
  | c1 :: c2 :: c3 :: c4 :: info, hlen =>
    have hinfo : info.length + 4 = l.toNat := hlen
    -- the length octet of the S and U formats leaves no room for an ASDU
    have hempty : ¬l.toNat ≠ APCI_CTL_FIELD_SIZE → info = [] := by
      intro h4
      have : l.toNat = 4 := not_not.mp h4
      exact List.eq_nil_of_length_eq_zero (by omega)
    have hfour : ¬l.toNat ≠ APCI_CTL_FIELD_SIZE → l = 4 := by
      intro h4
      exact UInt8.toNat_inj.mp (not_not.mp h4)
    unfold parse at h
    dsimp only at h
    split at h
    · cases h
    · split at h
      -- the I format: the send number keeps its last bit free, and there is an ASDU
      · next hi =>
        split at h
        · cases h
        · next hpay =>
          split at h
          · cases h
          · next hodd =>
            cases h
            refine .i (toNat_seqNoOf_lt _ _) (toNat_seqNoOf_lt _ _) ?_
              (newIFrame_seqNoOf hl hinfo hi (not_not.mp hodd))
            rintro rfl
            simp only [APCI_CTL_FIELD_SIZE, List.length_nil] at hpay hinfo
            omega
      · split at h
        · split at h
          · cases h
          -- the S format: the two octets before the receive number are fixed, and its last bit is
          -- free
          · next h4 =>
            split at h
            · cases h
            · next hbits =>
              cases h
              obtain ⟨hc1, hbits⟩ := not_or.mp hbits
              obtain ⟨hc2, hc3⟩ := not_or.mp hbits
              obtain ⟨hr1, hr2⟩ := shift_seqNoOf c4 (not_not.mp hc3)
              have hframe : newSFrame (seqNoOf c3 c4) = [START_FRAME, l, c1, c2, c3, c4] := by
                rw [newSFrame, hr1, hr2, not_not.mp hc1, not_not.mp hc2, hfour h4]
              rw [hempty h4, ← hframe]
              exact .s (toNat_seqNoOf_lt _ _)
        · split at h
          · cases h
          -- the U format: the three octets behind the function are zero
          · next hnots h4 =>
            split at h
            · cases h
            · next hres =>
              split at h
              · cases h
              · next hne f hf =>
                cases h
                obtain ⟨hc2, hres⟩ := not_or.mp hres
                obtain ⟨hc3, hc4⟩ := not_or.mp hres
                have hframe : newUFrame f = [START_FRAME, l, c1, c2, c3, c4] := by
                  rw [newUFrame, bits_of_fromBits ‹_› hnots hf, not_not.mp hc2, not_not.mp hc3,
                    not_not.mp hc4, hfour h4]
                rw [hempty h4, ← hframe]
                exact .u f

/-- What `parse` does not accept it rejects with an error of its own. -/
theorem parse_error {apdu : Octets} {e : Error} (h : parse apdu = .error e) :
    ∃ what, e = .apci what := by
  unfold parse at h
  split at h
  · split_ifs at h
    all_goals first
      | (cases h; exact ⟨_, rfl⟩)
      | (split at h <;> cases h; exact ⟨_, rfl⟩)
  · cases h
    exact ⟨_, rfl⟩

/-! ### The reader and the parser together -/

theorem parse_of_built {apci : Apci} {asdu frame : Octets} (h : Built apci asdu frame) :
    parse frame = .ok (apci, asdu) := by
  cases h with
  | i hs hr hne h => exact parse_newIFrame hs hr hne h
  | s hr => exact parse_newSFrame hr
  | u function => exact parse_newUFrame function

/-- The length octet of a built frame is in range and describes it. -/
theorem Built.shape {apci : Apci} {asdu frame : Octets} (h : Built apci asdu frame) :
    ∃ l body, frame = START_FRAME :: l :: body ∧ FieldLen l ∧ body.length = l.toNat := by
  cases h with
  | i hs hr hne h =>
    have hlen := newIFrame_eq_ok h
    rw [newIFrame, if_neg (by omega)] at h
    cases h
    have hfield : (UInt8.ofNat (asdu.length + APCI_CTL_FIELD_SIZE)).toNat = asdu.length + 4 := by
      simp [APCI_CTL_FIELD_SIZE, ASDU_SIZE_MAX] at *
      omega
    refine ⟨_, _, rfl, ?_, ?_⟩
    · rw [FieldLen, hfield, APDU_FIELD_SIZE_MAX, APCI_CTL_FIELD_SIZE]
      omega
    · rw [hfield]
      simp
  | s hr => exact ⟨_, _, rfl, by decide, rfl⟩
  | u function => exact ⟨_, _, rfl, by decide, rfl⟩

theorem readApdu_built {apci : Apci} {asdu frame g : Octets} (hg : Garbage g)
    (h : Built apci asdu frame) (s : Octets) : readApdu (g ++ frame ++ s) = .ok (frame, s) := by
  obtain ⟨l, body, rfl, hl, hlen⟩ := h.shape
  rw [List.append_assoc, readApdu_garbage hg]
  exact readApdu_frame hl hlen s

/-- Frames with garbage before each of them are read one by one. -/
theorem readApdus_built {parts : List (Octets × Octets)}
    (hparts : ∀ p ∈ parts, Garbage p.1 ∧ ∃ apci asdu, Built apci asdu p.2) (tail : Octets) :
    readApdus parts.length ((parts.map fun p => p.1 ++ p.2).flatten ++ tail) =
      .ok (parts.map Prod.snd, tail) := by
  induction parts with
  | nil => rfl
  | cons p parts ih =>
    obtain ⟨hg, apci, asdu, hb⟩ := hparts p List.mem_cons_self
    have ih := ih fun q hq => hparts q (List.mem_cons_of_mem p hq)
    simp only [List.length_cons, List.map_cons, List.flatten_cons, readApdus]
    rw [List.append_assoc, readApdu_built hg hb]
    dsimp only
    rw [ih]

/-- **The reader and the parser invert the encoders.**  Frames an encoder has
built are read back in order from among garbage, and `parse` returns what they
were built from.  Conversely every frame read is parsed to what an encoder builds
it from, or rejected; it has the six octets `parse` indexes. -/
theorem reads_back :
    (∀ (parts : List (Octets × Octets)) (tail : Octets), Garbage tail →
      (∀ p ∈ parts, Garbage p.1 ∧ ∃ apci asdu, Built apci asdu p.2) →
        readApdus parts.length ((parts.map fun p => p.1 ++ p.2).flatten ++ tail) =
          .ok (parts.map Prod.snd, tail) ∧ readApdu tail = .error eof ∧
        ∀ p ∈ parts, ∀ apci asdu, Built apci asdu p.2 → parse p.2 = .ok (apci, asdu)) ∧
    (∀ s f rest, readApdu s = .ok (f, rest) → 6 ≤ f.length ∧ f.length ≤ APDU_SIZE_MAX ∧
      ((∃ apci asdu, parse f = .ok (apci, asdu) ∧ Built apci asdu f) ∨
        ∃ what, parse f = .error (.apci what))) := by
  constructor
  · intro parts tail htail hparts
    refine ⟨readApdus_built hparts tail, ?_, fun p _ apci asdu hb => parse_of_built hb⟩
    have := readApdu_garbage htail []
    rwa [List.append_nil] at this
  · intro s f rest h
    obtain ⟨hmin, hmax⟩ := length_of_readApdu h
    obtain ⟨g, l, body, -, -, rfl, hl, hlen⟩ := readApdu_eq_ok h
    refine ⟨hmin, hmax, ?_⟩
    rcases hp : parse (START_FRAME :: l :: body) with e | ⟨apci, asdu⟩
    · obtain ⟨what, rfl⟩ := parse_error hp
      exact .inr ⟨what, rfl⟩
    · exact .inl ⟨apci, asdu, rfl, built_of_parse hl hlen hp⟩

/-- An S format after an octet of noise and a start character with a length of
three. -/
theorem reads_back_supervisory :
    readApdus 1 [0x00, 0x68, 0x03, 0x68, 0x04, 0x01, 0x00, 0x0a, 0x00, 0xff] =
      .ok ([newSFrame 5], [0xff]) ∧ parse (newSFrame 5) = .ok (.s 5, []) := by
  have hbuilt : Built (.s 5) [] (newSFrame 5) := .s (by decide)
  have hnoise : Garbage [0x00, 0x68, 0x03] := .octet (by decide) (.pair (by decide) .nil)
  have h := reads_back.1 [([0x00, 0x68, 0x03], newSFrame 5)] [0xff] (.octet (by decide) .nil)
    (by simpa using ⟨hnoise, _, _, hbuilt⟩)
  exact ⟨h.1, h.2.2 _ List.mem_cons_self _ _ hbuilt⟩

end Cs104
end Iec60870
