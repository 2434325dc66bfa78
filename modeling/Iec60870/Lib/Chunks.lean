import Mathlib

/-!
# Cutting a list into pieces

`chunks n xs` cuts a list into pieces of `n` elements, of which the last may be
shorter.  For `0 < n` no element is lost, none is empty and none is longer than
`n`.

## Main results

* `flatten_chunks` — **the pieces are the list.**
* `length_chunks_le` — how many pieces there are at most.
-/

namespace List

variable {α : Type*} {n : ℕ}

/-- The pieces, at most `k` of them. -/
def chunksUpTo (n : ℕ) : ℕ → List α → List (List α)
  | 0, _ => []
  | _ + 1, [] => []
  | k + 1, x :: xs => (x :: xs).take n :: chunksUpTo n k ((x :: xs).drop n)

/-- The pieces of a list: one for every element is always enough. -/
def chunks (n : ℕ) (xs : List α) : List (List α) := chunksUpTo n xs.length xs

theorem length_drop_lt (hn : 0 < n) {k : ℕ} {x : α} {xs : List α} (h : (x :: xs).length ≤ k + 1) :
    ((x :: xs).drop n).length ≤ k := by
  rw [length_drop]
  omega

/-- **The pieces are the list.** -/
theorem flatten_chunks (hn : 0 < n) (xs : List α) : (chunks n xs).flatten = xs := by
  have h (k : ℕ) (xs : List α) (hk : xs.length ≤ k) : (chunksUpTo n k xs).flatten = xs := by
    induction k generalizing xs with
    | zero =>
      obtain rfl := length_eq_zero_iff.mp (Nat.le_zero.mp hk)
      rfl
    | succ k ih =>
      cases xs with
      | nil => rfl
      | cons x xs =>
        rw [chunksUpTo, flatten_cons, ih _ (length_drop_lt hn hk)]
        exact take_append_drop n _
  exact h _ _ le_rfl

/-- No piece is longer than `n`. -/
theorem length_le_of_mem_chunks {xs c : List α} (hc : c ∈ chunks n xs) : c.length ≤ n := by
  have h (k : ℕ) (xs : List α) (hc : c ∈ chunksUpTo n k xs) : c.length ≤ n := by
    induction k generalizing xs with
    | zero => cases hc
    | succ k ih =>
      cases xs with
      | nil => cases hc
      | cons x xs =>
        rcases mem_cons.mp hc with rfl | hc
        · exact length_take_le _ _
        · exact ih _ hc
  exact h _ _ hc

/-- A list that is not empty has a piece. -/
theorem chunks_ne_nil {xs : List α} (h : xs ≠ []) : chunks n xs ≠ [] := by
  cases xs with
  | nil => exact absurd rfl h
  | cons x xs => exact cons_ne_nil _ _

/-- No piece is empty. -/
theorem ne_nil_of_mem_chunks (hn : 0 < n) {xs c : List α} (hc : c ∈ chunks n xs) : c ≠ [] := by
  have h (k : ℕ) (xs : List α) (hc : c ∈ chunksUpTo n k xs) : c ≠ [] := by
    induction k generalizing xs with
    | zero => cases hc
    | succ k ih =>
      cases xs with
      | nil => cases hc
      | cons x xs =>
        rcases mem_cons.mp hc with rfl | hc
        · obtain ⟨n, rfl⟩ := Nat.exists_eq_succ_of_ne_zero hn.ne'
          exact cons_ne_nil _ _
        · exact ih _ hc
  exact h _ _ hc

/-- `m` pieces of `n` elements hold the list. -/
theorem length_chunks_le {xs : List α} {m : ℕ} (h : xs.length ≤ m * n) :
    (chunks n xs).length ≤ m := by
  -- The same with the steps of the definition bounded, by induction on that bound.
  have hk (k : ℕ) (xs : List α) (m : ℕ) (h : xs.length ≤ m * n) :
      (chunksUpTo n k xs).length ≤ m := by
    induction k generalizing xs m with
    | zero => exact Nat.zero_le _
    | succ k ih =>
      cases xs with
      | nil => exact Nat.zero_le _
      | cons x xs =>
        cases m with
        | zero =>
          rw [Nat.zero_mul, length_cons] at h
          omega
        | succ m =>
          rw [chunksUpTo, length_cons]
          refine Nat.succ_le_succ (ih _ m ?_)
          rw [length_drop]
          rw [Nat.succ_mul] at h
          omega
  exact hk _ _ _ h

end List
