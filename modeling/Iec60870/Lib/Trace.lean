import Mathlib

/-!
# Properties of traces

A trace lists what has happened, oldest first, and grows at its end.  Two shapes
of temporal property suffice for most safety laws: every entry stands in some
relation to what precedes it, and something has happened with nothing of a given
kind since.

## Main definitions

* `Trace.Each Q t` — every entry satisfies `Q` together with what precedes it.
* `Trace.Since p q t` — some entry satisfies `p`, and no later one satisfies `q`.
* `Trace.outputs f t` — what the entries give out, in view of what precedes them.
* `Trace.Ends q ps t` — the trace ends with given entries, the latest first, and
  nothing but `q` between and after them.
-/

namespace Trace

universe u v

variable {α : Type u} {β : Type v} {t u : List α} {x : α}

/-! ### Every entry, with what precedes it -/

/-- Every entry of `t` satisfies `Q` together with the entries before it. -/
def Each (Q : List α → α → Prop) (t : List α) : Prop := ∀ a x b, t = a ++ x :: b → Q a x

variable {Q Q' : List α → α → Prop}

@[simp] theorem each_nil : Each Q [] := by
  intro a x b h
  simp at h

theorem each_concat : Each Q (t ++ [x]) ↔ Each Q t ∧ Q t x := by
  constructor
  · intro h
    exact ⟨fun a y b hab => h a y (b ++ [x]) (by simp [hab]), h t x [] rfl⟩
  · rintro ⟨h, hx⟩ a y b hab
    rcases List.eq_nil_or_concat b with rfl | ⟨b', z, rfl⟩
    · obtain ⟨rfl, he⟩ := List.append_inj' hab rfl
      cases he
      exact hx
    · rw [List.concat_eq_append, ← List.cons_append, ← List.append_assoc] at hab
      obtain ⟨rfl, -⟩ := List.append_inj' hab rfl
      exact h a y b' rfl

/-- Entries that satisfy `Q` wherever they stand may be added. -/
theorem Each.append (h : Each Q t) (hu : ∀ x ∈ u, ∀ a, Q a x) : Each Q (t ++ u) := by
  induction u generalizing t with
  | nil => simpa using h
  | cons y u ih =>
    have hy : Each Q (t ++ [y]) := each_concat.mpr ⟨h, hu y (by simp) t⟩
    simpa using ih hy fun x hx => hu x (by simp [hx])

theorem Each.mono (h : Each Q t) (hQ : ∀ a x, Q a x → Q' a x) : Each Q' t :=
  fun a x b hab => hQ a x (h a x b hab)

/-! ### Something has happened, and nothing since -/

/-- Some entry satisfies `p`, and none after it satisfies `q`. -/
def Since (p q : α → Prop) (t : List α) : Prop := ∃ a x b, t = a ++ x :: b ∧ p x ∧ ∀ y ∈ b, ¬q y

variable {p q : α → Prop}

theorem not_since_nil : ¬Since p q [] := by
  rintro ⟨a, x, b, h, -⟩
  simp at h

theorem since_cons : Since p q (x :: t) ↔ (p x ∧ ∀ y ∈ t, ¬q y) ∨ Since p q t := by
  constructor
  · rintro ⟨a, y, b, h, hy, hb⟩
    cases a with
    | nil =>
      cases h
      exact .inl ⟨hy, hb⟩
    | cons z a =>
      cases h
      exact .inr ⟨a, y, b, rfl, hy, hb⟩
  · rintro (⟨hx, ht⟩ | ⟨a, y, b, rfl, hy, hb⟩)
    · exact ⟨[], x, t, rfl, hx, ht⟩
    · exact ⟨x :: a, y, b, rfl, hy, hb⟩

instance decidableSince [DecidablePred p] [DecidablePred q] : ∀ t, Decidable (Since p q t)
  | [] => .isFalse not_since_nil
  | _ :: t =>
    have := decidableSince t
    decidable_of_iff _ since_cons.symm

theorem since_concat : Since p q (t ++ [x]) ↔ p x ∨ (Since p q t ∧ ¬q x) := by
  constructor
  · rintro ⟨a, y, b, hab, hy, hb⟩
    -- The last entry is the one looked for, or stands behind it.
    rcases List.eq_nil_or_concat b with rfl | ⟨b', z, rfl⟩
    · obtain ⟨rfl, he⟩ := List.append_inj' hab rfl
      cases he
      exact .inl hy
    · rw [List.concat_eq_append] at hab hb
      rw [← List.cons_append, ← List.append_assoc] at hab
      obtain ⟨rfl, he⟩ := List.append_inj' hab rfl
      cases he
      exact .inr ⟨⟨a, y, b', rfl, hy, fun z hz => hb z (by simp [hz])⟩, hb _ (by simp)⟩
  · rintro (hx | ⟨⟨a, y, b, rfl, hy, hb⟩, hx⟩)
    · exact ⟨t, x, [], rfl, hx, by simp⟩
    · refine ⟨a, y, b ++ [x], by simp, hy, fun z hz => ?_⟩
      rcases List.mem_append.mp hz with hz | hz
      · exact hb z hz
      · exact List.mem_singleton.mp hz ▸ hx

/-- Entries that do not satisfy `p` cannot be the one that has happened. -/
theorem Since.of_append (h : Since p q (t ++ u)) (hu : ∀ x ∈ u, ¬p x) : Since p q t := by
  induction u using List.reverseRecOn with
  | nil => simpa using h
  | append_singleton u x ih =>
    rw [← List.append_assoc, since_concat] at h
    rcases h with h | ⟨h, -⟩
    · exact absurd h (hu x (by simp))
    · exact ih h fun y hy => hu y (by simp [hy])

theorem Since.append (h : Since p q t) (hu : ∀ x ∈ u, ¬q x) : Since p q (t ++ u) := by
  obtain ⟨a, y, b, rfl, hy, hb⟩ := h
  refine ⟨a, y, b ++ u, by simp, hy, fun z hz => ?_⟩
  rcases List.mem_append.mp hz with hz | hz
  · exact hb z hz
  · exact hu z hz

/-! ### Outputs -/

/-- What the entries of `t` give out; `f` sees the entries before each. -/
def outputs (f : List α → α → Option β) (t : List α) : List β :=
  go [] t
where
  /-- The outputs of `u` after `t`. -/
  go (t : List α) : List α → List β
    | [] => []
    | x :: u => (f t x).toList ++ go (t ++ [x]) u

variable {f : List α → α → Option β}

@[simp] theorem outputs_nil : outputs f [] = [] := rfl

private theorem go_append (s t u : List α) :
    outputs.go f s (t ++ u) = outputs.go f s t ++ outputs.go f (s ++ t) u := by
  induction t generalizing s with
  | nil => simp [outputs.go]
  | cons x t ih =>
    rw [List.cons_append, outputs.go, outputs.go, ih, List.append_assoc, List.append_assoc]
    rfl

@[simp] theorem outputs_concat : outputs f (t ++ [x]) = outputs f t ++ (f t x).toList := by
  rw [outputs, go_append]
  simp [outputs, outputs.go]

/-- Outputs are only ever added. -/
theorem outputs_initial (t u : List α) : outputs f t <+: outputs f (t ++ u) :=
  ⟨outputs.go f ([] ++ t) u, (go_append [] t u).symm⟩

/-- Each output was given out by an entry, after those before it. -/
theorem exists_of_outputs_getElem? {i : ℕ} {y : β} (h : (outputs f t)[i]? = some y) :
    ∃ a x b, t = a ++ x :: b ∧ outputs f a = (outputs f t).take i ∧ f a x = some y := by
  induction t using List.reverseRecOn with
  | nil => simp at h
  | append_singleton t x ih =>
    rw [outputs_concat] at h ⊢
    -- The output is one of those before the last entry, or the last entry gives it out.
    by_cases hi : i < (outputs f t).length
    · rw [List.getElem?_append_left hi] at h
      obtain ⟨a, z, b, rfl, ha, hz⟩ := ih h
      refine ⟨a, z, b ++ [x], by simp, ?_, hz⟩
      rw [ha, List.take_append_of_le_length hi.le]
    · rw [List.getElem?_append_right (by omega)] at h
      rcases hx : f t x with _ | y'
      · rw [hx] at h
        simp at h
      · rw [hx] at h
        have hlen : i = (outputs f t).length := by
          have := List.getElem?_eq_some_iff.mp h
          simp at this
          omega
        subst hlen
        simp only [Nat.sub_self, Option.toList_some, List.getElem?_cons_zero, Option.some.injEq] at h
        refine ⟨t, x, [], rfl, ?_, by rw [hx, h]⟩
        rw [List.take_left]

/-! ### The end of a trace -/

/-- Entries that satisfy the members of `ps`, the latest first, stand at the end of the
trace, with nothing but entries that satisfy `q` between and after them. -/
def Ends (q : α → Prop) : List (α → Prop) → List α → Prop
  | [], _ => True
  | p :: ps, t => ∃ a x b, t = a ++ x :: b ∧ p x ∧ (∀ y ∈ b, q y) ∧ Ends q ps a

variable {ps : List (α → Prop)}

theorem Ends.concat (h : Ends q ps t) (hx : p x) : Ends q (p :: ps) (t ++ [x]) :=
  ⟨t, x, [], rfl, hx, by simp, h⟩

theorem Ends.append (h : Ends q (p :: ps) t) (hu : ∀ y ∈ u, q y) : Ends q (p :: ps) (t ++ u) := by
  obtain ⟨a, x, b, rfl, hx, hb, ha⟩ := h
  refine ⟨a, x, b ++ u, by simp, hx, fun y hy => ?_, ha⟩
  rcases List.mem_append.mp hy with hy | hy
  · exact hb y hy
  · exact hu y hy

end Trace
