import Mathlib

/-!
# Lossy UTF-8

Octets received from a line need not be well-formed text.  A lossy decoder reads the
characters that are there, and one replacement character for every sequence that is
none: an octet that begins no character, together with the octets after it that could
still have belonged to one.

## Main definitions

* `Utf8.encode` — the octets of some characters.
* `Utf8.char?` — the character some octets begin with.
* `Utf8.broken` — how many octets make up an ill-formed sequence.
* `Utf8.lossy` — the characters read from some octets.

## Main results

* `Utf8.lossy_encode_append` — **characters are read back from their octets**, whatever
  follows them.
-/

namespace Utf8

/-- What stands for a sequence that is no character. -/
def REPLACEMENT_CHARACTER : Char := Char.ofNat 0xFFFD

/-- The octets of some characters. -/
def encode (cs : List Char) : List UInt8 := cs.flatMap String.utf8EncodeChar

/-- The character some octets begin with, if they begin with one. -/
def char? (bs : List UInt8) : Option Char := bs.toByteArray.utf8DecodeChar? 0

/-- An octet that can stand after the first one of a character. -/
def isContinuation (b : UInt8) : Bool := 0x80 ≤ b && b ≤ 0xBF

/-- The octets `b` and `c` begin some character of three or four octets: no shorter
sequence says the same, it is no surrogate, and it is not beyond the last character. -/
def leads (b c : UInt8) : Bool :=
  (b == 0xE0 && 0xA0 ≤ c && c ≤ 0xBF) ||
  (0xE1 ≤ b && b ≤ 0xEC && isContinuation c) ||
  (b == 0xED && 0x80 ≤ c && c ≤ 0x9F) ||
  (0xEE ≤ b && b ≤ 0xEF && isContinuation c) ||
  (b == 0xF0 && 0x90 ≤ c && c ≤ 0xBF) ||
  (0xF1 ≤ b && b ≤ 0xF3 && isContinuation c) ||
  (b == 0xF4 && 0x80 ≤ c && c ≤ 0x8F)

/-- How many octets make up the sequence that octets beginning with no character begin
with: the first one, and those after it up to the one that spoils the character. -/
def broken : List UInt8 → ℕ
  | b :: c :: rest =>
    if leads b c then
      -- only a character of four octets has a third one to spare
      if 0xF0 ≤ b && rest.head?.any isContinuation then 3 else 2
    else 1
  | _ => 1

/-- The characters read from some octets, `n` of them at most. -/
def lossyAux : ℕ → List UInt8 → List Char
  | 0, _ => []
  | _ + 1, [] => []
  | n + 1, b :: bs =>
    match char? (b :: bs) with
    | some c => c :: lossyAux n ((b :: bs).drop c.utf8Size)
    | none => REPLACEMENT_CHARACTER :: lossyAux n ((b :: bs).drop (broken (b :: bs)))

/-- The characters read from some octets.  There are no more of them than octets. -/
def lossy (bs : List UInt8) : List Char := lossyAux bs.length bs

theorem broken_pos (bs : List UInt8) : 0 < broken bs := by
  unfold broken
  split
  · split_ifs <;> decide
  · decide

/-- More steps than octets read nothing more. -/
theorem lossyAux_eq {n m : ℕ} {bs : List UInt8} (hn : bs.length ≤ n) (hm : bs.length ≤ m) :
    lossyAux n bs = lossyAux m bs := by
  -- every step takes an octet at least, whether it reads a character or not
  induction n generalizing m bs with
  | zero =>
    have hnil : bs = [] := List.eq_nil_of_length_eq_zero (Nat.le_zero.mp hn)
    subst hnil
    cases m <;> rfl
  | succ n ih =>
    cases bs with
    | nil => cases m <;> rfl
    | cons b bs =>
      obtain ⟨m, rfl⟩ : ∃ k, m = k + 1 := Nat.exists_eq_succ_of_ne_zero (by rintro rfl; cases hm)
      have hrest (k : ℕ) (hk : 0 < k) :
          lossyAux n ((b :: bs).drop k) = lossyAux m ((b :: bs).drop k) := by
        apply ih
        · rw [List.length_drop]
          omega
        · rw [List.length_drop]
          omega
      rw [lossyAux, lossyAux]
      cases char? (b :: bs) with
      | some c => exact congrArg (c :: ·) (hrest _ c.utf8Size_pos)
      | none => exact congrArg (REPLACEMENT_CHARACTER :: ·) (hrest _ (broken_pos _))

/-- Octets that begin with those of a character begin with that character. -/
theorem char?_encode (c : Char) (bs : List UInt8) :
    char? (String.utf8EncodeChar c ++ bs) = some c := by
  unfold char?
  rw [List.toByteArray_append]
  exact ByteArray.utf8DecodeChar?_utf8EncodeChar_append

/-- A character is read from its octets. -/
theorem lossy_encodeChar_append (c : Char) (bs : List UInt8) :
    lossy (String.utf8EncodeChar c ++ bs) = c :: lossy bs := by
  have hlen : (String.utf8EncodeChar c).length = c.utf8Size := String.length_utf8EncodeChar c
  have hpos := c.utf8Size_pos
  have hchar := char?_encode c bs
  have hdrop : (String.utf8EncodeChar c ++ bs).drop c.utf8Size = bs := List.drop_left' hlen
  have htotal : (String.utf8EncodeChar c ++ bs).length = c.utf8Size + bs.length := by
    rw [List.length_append, hlen]
  unfold lossy
  -- There is an octet to read, since a character has one at least.
  rcases hall : String.utf8EncodeChar c ++ bs with _ | ⟨b, rest⟩
  · rw [hall] at htotal
    simp at htotal
    omega
  · rw [hall] at hchar hdrop htotal
    rw [List.length_cons] at htotal ⊢
    rw [lossyAux, hchar]
    dsimp only
    rw [hdrop]
    exact congrArg (c :: ·) (lossyAux_eq (by omega) le_rfl)

/-- **Characters are read back from their octets**, whatever follows them. -/
theorem lossy_encode_append (cs : List Char) (bs : List UInt8) :
    lossy (encode cs ++ bs) = cs ++ lossy bs := by
  induction cs with
  | nil => rfl
  | cons c cs ih =>
    show lossy ((String.utf8EncodeChar c ++ encode cs) ++ bs) = _
    rw [List.append_assoc, lossy_encodeChar_append, ih]
    rfl

/-- Octets that are nothing else than some characters. -/
theorem lossy_encode (cs : List Char) : lossy (encode cs) = cs := by
  have h := lossy_encode_append cs []
  rwa [List.append_nil, show lossy [] = [] from rfl, List.append_nil] at h

theorem encode_append (cs ds : List Char) : encode (cs ++ ds) = encode cs ++ encode ds :=
  List.flatMap_append

/-- Three octets of a character of four are one ill-formed sequence. -/
example : lossy [0x41, 0xF0, 0x90, 0x80, 0x57] =
    [Char.ofNat 0x41, REPLACEMENT_CHARACTER, Char.ofNat 0x57] := by decide

/-- A surrogate is none at all. -/
example : lossy [0xED, 0xA0, 0x80] =
    [REPLACEMENT_CHARACTER, REPLACEMENT_CHARACTER, REPLACEMENT_CHARACTER] := by decide

end Utf8
