import Mathlib

/-!
# Decoders with a cursor

A decoder takes symbols from the front of what is left to read, and may keep a
note beside it.  Two facts about a decoder compose along its binds: what it
yields on a word it was written for, and how many symbols it takes whatever they
are.

## Main definitions

* `Cursor`, `Decoder` — the unread symbols with the note; a decoder.
* `Decoder.Yields` — on this word, this result.
* `Decoder.Takes` — so many symbols, if there are as many.

## Main results

* `Decoder.Yields.bind`, `Decoder.Takes.bind` — **both facts compose.**
* `Decoder.run_bind_eq_ok` — a run that succeeds, taken apart.
-/

/-- What is left to read, and the note kept beside it. -/
structure Cursor (β τ : Type) where
  rest : List β
  note : τ

/-- A computation that reads from a cursor and may fail. -/
abbrev Decoder (ε β τ α : Type) := StateT (Cursor β τ) (Except ε) α

namespace Decoder

variable {ε β τ α γ : Type}

/-- Take the next `n` symbols, or fail with `e` when there are fewer. -/
def take (e : ε) (n : ℕ) : Decoder ε β τ (List β) := fun c =>
  if n ≤ c.rest.length then .ok (c.rest.take n, { c with rest := c.rest.drop n }) else .error e

/-- The note, as it stands. -/
def note : Decoder ε β τ τ := fun c => .ok (c.note, c)

/-- Replace the note. -/
def setNote (t : τ) : Decoder ε β τ Unit := fun c => .ok ((), { c with note := t })

/-- Give up. -/
def fail (e : ε) : Decoder ε β τ α := fun _ => .error e

/-- On the word `w`, whatever follows, `m` yields `a` and turns the note `t`
into `t'`. -/
def Yields (m : Decoder ε β τ α) (w : List β) (t : τ) (a : α) (t' : τ) : Prop :=
  ∀ rest, m.run ⟨w ++ rest, t⟩ = .ok (a, ⟨rest, t'⟩)

/-- Where `k` symbols are left, `m` takes them and yields something. -/
def Takes (k : ℕ) (m : Decoder ε β τ α) : Prop :=
  ∀ c : Cursor β τ, k ≤ c.rest.length → ∃ a t', m.run c = .ok (a, ⟨c.rest.drop k, t'⟩)

/-! ### Taking a run apart -/

theorem run_bind_eq_ok {m : Decoder ε β τ α} {f : α → Decoder ε β τ γ} {c c' : Cursor β τ} {b : γ} :
    (m >>= f).run c = .ok (b, c') ↔ ∃ a d, m.run c = .ok (a, d) ∧ (f a).run d = .ok (b, c') := by
  rw [StateT.run_bind]
  cases m.run c with
  | error e =>
    constructor
    · intro h
      cases h
    · rintro ⟨a, d, h, -⟩
      cases h
  | ok r =>
    constructor
    · intro h
      exact ⟨r.1, r.2, rfl, h⟩
    · rintro ⟨a, d, h, hf⟩
      cases h
      exact hf

theorem run_map_eq_ok {m : Decoder ε β τ α} {f : α → γ} {c c' : Cursor β τ} {b : γ} :
    (f <$> m).run c = .ok (b, c') ↔ ∃ a, m.run c = .ok (a, c') ∧ f a = b := by
  rw [StateT.run_map]
  cases m.run c with
  | error e =>
    constructor
    · intro h
      cases h
    · rintro ⟨a, h, -⟩
      cases h
  | ok r =>
    constructor
    · intro h
      cases h
      exact ⟨r.1, rfl, rfl⟩
    · rintro ⟨a, h, hf⟩
      cases h
      exact congrArg (fun b => Except.ok (b, c')) hf

/-! ### What a decoder yields -/

theorem Yields.pure (a : α) (t : τ) : Yields (pure a : Decoder ε β τ α) [] t a t := by
  intro rest
  rfl

theorem Yields.bind {m : Decoder ε β τ α} {f : α → Decoder ε β τ γ} {w w' : List β} {t t' t'' : τ}
    {a : α} {b : γ} (h : Yields m w t a t') (hf : Yields (f a) w' t' b t'') :
    Yields (m >>= f) (w ++ w') t b t'' := by
  intro rest
  rw [StateT.run_bind, List.append_assoc, h (w' ++ rest)]
  exact hf rest

/-- A decoder that reads nothing more. -/
theorem Yields.map {m : Decoder ε β τ α} {f : α → γ} {w : List β} {t t' : τ} {a : α}
    (h : Yields m w t a t') : Yields (f <$> m) w t (f a) t' := by
  intro rest
  rw [StateT.run_map, h rest]
  rfl

theorem Yields.take (e : ε) (w : List β) (t : τ) :
    Yields (take e w.length : Decoder ε β τ (List β)) w t w t := by
  intro rest
  show Decoder.take e w.length ⟨w ++ rest, t⟩ = _
  rw [Decoder.take, if_pos (by simp)]
  simp

theorem Yields.setNote (t t' : τ) : Yields (setNote t' : Decoder ε β τ Unit) [] t () t' := by
  intro rest
  rfl

/-- A decoder run on exactly its word. -/
theorem Yields.run {m : Decoder ε β τ α} {w : List β} {t t' : τ} {a : α} (h : Yields m w t a t') :
    m.run ⟨w, t⟩ = .ok (a, ⟨[], t'⟩) := by
  have hw := h []
  rwa [List.append_nil] at hw

/-! ### How much a decoder takes -/

theorem Takes.pure (a : α) : Takes 0 (pure a : Decoder ε β τ α) := by
  intro c _
  exact ⟨a, c.note, rfl⟩

theorem Takes.bind {m : Decoder ε β τ α} {f : α → Decoder ε β τ γ} {k l : ℕ} (h : Takes k m)
    (hf : ∀ a, Takes l (f a)) : Takes (k + l) (m >>= f) := by
  intro c hc
  obtain ⟨a, t', hm⟩ := h c (by omega)
  have hrest : l ≤ (c.rest.drop k).length := by
    rw [List.length_drop]
    omega
  obtain ⟨b, t'', hb⟩ := hf a ⟨c.rest.drop k, t'⟩ hrest
  refine ⟨b, t'', ?_⟩
  rw [StateT.run_bind, hm]
  show (f a).run _ = _
  rw [hb, List.drop_drop]

theorem Takes.map {m : Decoder ε β τ α} {f : α → γ} {k : ℕ} (h : Takes k m) :
    Takes k (f <$> m) := by
  intro c hc
  obtain ⟨a, t', hm⟩ := h c hc
  refine ⟨f a, t', ?_⟩
  rw [StateT.run_map, hm]
  rfl

theorem Takes.take (e : ε) (n : ℕ) : Takes n (take e n : Decoder ε β τ (List β)) := by
  intro c hc
  refine ⟨c.rest.take n, c.note, ?_⟩
  show Decoder.take e n c = _
  rw [Decoder.take, if_pos hc]

theorem Takes.setNote (t : τ) : Takes 0 (setNote t : Decoder ε β τ Unit) := by
  intro c _
  exact ⟨(), t, rfl⟩

/-- A decoder run on exactly as many symbols as it takes. -/
theorem Takes.run {m : Decoder ε β τ α} {k : ℕ} (h : Takes k m) {w : List β} (t : τ)
    (hw : w.length = k) : ∃ a t', m.run ⟨w, t⟩ = .ok (a, ⟨[], t'⟩) := by
  obtain ⟨a, t', hm⟩ := h ⟨w, t⟩ hw.ge
  refine ⟨a, t', ?_⟩
  rw [hm, List.drop_eq_nil_of_le hw.le]

end Decoder
