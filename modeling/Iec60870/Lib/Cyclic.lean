import Mathlib

/-!
# Windows of counters on a circle

A protocol numbers its messages `0, 1, 2, …` but transmits the numbers modulo
`M`.  As long as the counters in use lie less than `M` apart, their residues
determine them; this module is the arithmetic of that.

## Main definitions

* `Cyclic.residues M m n` — the residues of `m, m + 1, …, n - 1`.
* `Cyclic.dist M a b` — the steps forward on the circle from `a` to `b`.

## Main results

* `Cyclic.dist_mod` — `dist` recovers the distance of two counters.
* `Cyclic.dist_le_iff` — comparing distances decides membership in a window.
* `Cyclic.findIdx?_residues` — where a window shows a given residue.
-/

namespace Cyclic

variable {M m n : ℕ}

/-! ### Distances -/

/-- The steps forward on a circle of size `M` from `a` to `b`. -/
def dist (M a b : ℕ) : ℕ := (b + M - a) % M

/-- A residue a little further on, without or with one wrap. -/
theorem add_mod_cases {d : ℕ} (hd : d < M) :
    (m + d) % M = m % M + d ∧ m % M + d < M ∨ (m + d) % M + M = m % M + d := by
  have hr : m % M < M := Nat.mod_lt _ (by omega)
  rw [← Nat.mod_add_mod]
  by_cases hlt : m % M + d < M
  · exact .inl ⟨Nat.mod_eq_of_lt hlt, hlt⟩
  · right
    rw [Nat.mod_eq_sub_mod (by omega), Nat.mod_eq_of_lt (by omega)]
    omega

/-- **Counters less than `M` apart are recovered from their residues.** -/
theorem dist_mod (hmn : m ≤ n) (hlt : n - m < M) : dist M (m % M) (n % M) = n - m := by
  have hr : m % M < M := Nat.mod_lt _ (by omega)
  have hn : m + (n - m) = n := by omega
  rcases add_mod_cases (m := m) hlt with ⟨h, -⟩ | h <;> rw [hn] at h
  · rw [dist, h, show m % M + (n - m) + M - m % M = n - m + M by omega, Nat.add_mod_right,
      Nat.mod_eq_of_lt hlt]
  · rw [dist, h, show m % M + (n - m) - m % M = n - m by omega, Nat.mod_eq_of_lt hlt]

/-- Residues repeat only after `M` steps. -/
theorem eq_of_mod_eq {i j : ℕ} (hmi : m ≤ i) (hin : i ≤ n) (hmj : m ≤ j) (hjn : j ≤ n)
    (hlt : n - m < M) (h : i % M = j % M) : i = j := by
  have hi := dist_mod hin (show n - i < M by omega)
  have hj := dist_mod hjn (show n - j < M by omega)
  rw [h] at hi
  omega

/-- **Membership in a window.**  A residue shows a counter between `m` and `n`
exactly when it is no further from `n` than `m` is. -/
theorem dist_le_iff {x : ℕ} (hx : x < M) (hmn : m ≤ n) (hlt : n - m < M) :
    dist M x (n % M) ≤ n - m ↔ ∃ i, m ≤ i ∧ i ≤ n ∧ x = i % M := by
  constructor
  · -- The counter is as far behind `n` as the residue.
    intro h
    have hd : dist M x (n % M) < M := Nat.mod_lt _ (by omega)
    refine ⟨n - dist M x (n % M), by omega, by omega, ?_⟩
    have hn : n - dist M x (n % M) + dist M x (n % M) = n := by omega
    have hr : n % M < M := Nat.mod_lt _ (by omega)
    have hy : (n - dist M x (n % M)) % M < M := Nat.mod_lt _ (by omega)
    -- Counted forwards from the residue, with or without passing zero.
    have hxd : dist M x (n % M) = n % M - x ∧ x ≤ n % M ∨ dist M x (n % M) = n % M + M - x ∧
        n % M < x := by
      by_cases hle : x ≤ n % M
      · left
        rw [dist, show n % M + M - x = n % M - x + M by omega, Nat.add_mod_right,
          Nat.mod_eq_of_lt (by omega)]
        exact ⟨rfl, hle⟩
      · right
        rw [dist, Nat.mod_eq_of_lt (by omega)]
        exact ⟨rfl, by omega⟩
    rcases add_mod_cases (m := n - dist M x (n % M)) hd with ⟨h', -⟩ | h' <;> rw [hn] at h' <;> omega
  · rintro ⟨i, hmi, hin, rfl⟩
    rw [dist_mod hin (by omega)]
    omega

/-! ### Windows -/

/-- The residues of `m, m + 1, …, n - 1`. -/
def residues (M m n : ℕ) : List ℕ := (List.range' m (n - m)).map (· % M)

@[simp] theorem length_residues : (residues M m n).length = n - m := by simp [residues]

@[simp] theorem residues_self : residues M m m = [] := by simp [residues]

theorem residues_succ (hmn : m ≤ n) : residues M m (n + 1) = residues M m n ++ [n % M] := by
  have hlen : n + 1 - m = n - m + 1 := by omega
  have hlast : m + (n - m) = n := by omega
  simp [residues, hlen, List.range'_concat, hlast]

theorem drop_residues (i : ℕ) : (residues M m n).drop i = residues M (m + i) n := by
  simp only [residues, ← List.map_drop, List.drop_range']
  congr 2
  all_goals omega

theorem getElem_residues {i : ℕ} (hi : i < (residues M m n).length) :
    (residues M m n)[i] = (m + i) % M := by simp [residues]

/-- A window no longer than the circle shows no residue twice. -/
theorem nodup_residues (hlen : n - m ≤ M) : (residues M m n).Nodup := by
  rw [List.nodup_iff_injective_getElem]
  intro i j hij
  have hi : i.val < n - m := by simpa using i.isLt
  have hj : j.val < n - m := by simpa using j.isLt
  simp only [getElem_residues] at hij
  have := eq_of_mod_eq (m := m) (n := n - 1) (by omega) (by omega) (by omega) (by omega) (by omega)
    hij
  exact Fin.ext (by omega)

/-- **Where a window shows a residue.** -/
theorem findIdx?_residues {i : ℕ} (hi : i < n - m) (hlen : n - m ≤ M) :
    (residues M m n).findIdx? (· == (m + i) % M) = some i := by
  rw [List.findIdx?_eq_some_iff_getElem]
  refine ⟨by simpa using hi, by simp [getElem_residues], fun j hj => ?_⟩
  have hne : j ≠ i := by omega
  simp only [getElem_residues, beq_iff_eq]
  intro h
  have := eq_of_mod_eq (m := m) (n := n - 1) (by omega) (by omega) (by omega) (by omega) (by omega) h
  omega

end Cyclic
