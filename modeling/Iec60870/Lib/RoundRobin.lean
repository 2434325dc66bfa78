import Iec60870.Lib.Cyclic
import Iec60870.Lib.Machine

/-!
# Round robin

A machine that now and then serves the next of `n` places on a ring serves them in
cyclic order, whatever else it does, so any `n` turns in a row serve every place.

## Main definitions

* `Machine.outputs` — what the steps of a run give out.
* `Machine.RoundRobin` — each turn is for the place of a cursor, and advances it.

## Main results

* `Machine.RoundRobin.outputs_eq` — **the turns of a run go round the ring.**
* `Cyclic.mem_window` — a window as long as the ring shows every place.
-/

universe u v w

namespace Cyclic

/-- A window as long as the circle shows every residue. -/
theorem mem_window {M i j k : ℕ} (hi : i < M) (hjk : j + M ≤ k) :
    i ∈ ((residues M 0 k).drop j).take M := by
  -- the turn of `i` in the window is as far from `j` as `i` is on the circle
  have hd : dist M (j % M) i < M := Nat.mod_lt _ (Nat.zero_lt_of_lt hi)
  have hmod : (j + dist M (j % M) i) % M = i := by
    have hj : j % M < M := Nat.mod_lt _ (Nat.zero_lt_of_lt hi)
    rw [dist, Nat.add_mod_mod, ← Nat.mod_add_mod, show j % M + (i + M - j % M) = i + M by omega,
      Nat.add_mod_right, Nat.mod_eq_of_lt hi]
  have hlen : dist M (j % M) i < (((residues M 0 k).drop j).take M).length := by
    rw [List.length_take, List.length_drop, length_residues]
    omega
  refine List.mem_iff_getElem.mpr ⟨dist M (j % M) i, hlen, ?_⟩
  rw [List.getElem_take, List.getElem_drop, getElem_residues, Nat.zero_add, hmod]

end Cyclic

namespace Machine

variable {σ : Type u} {ι : Type v} {β : Type w} {M : Machine σ ι}

/-- What the steps of a run give out, in order. -/
def outputs (M : Machine σ ι) (out : σ → ι → Option β) : σ → List ι → List β
  | _, [] => []
  | s, l :: ls => (out s l).toList ++ (M.next s l).elim [] fun t => outputs M out t ls

/-- Whenever `turn` gives out a place it is that of the cursor, which then moves on; no
other step moves it. -/
structure RoundRobin (M : Machine σ ι) (n : ℕ) (cursor : σ → ℕ) (turn : σ → ι → Option ℕ) :
    Prop where
  start : cursor M.init = 0
  step : ∀ s l t, M.Reachable s → M.next s l = some t →
    (turn s l = none ∧ cursor t = cursor s) ∨
      (turn s l = some (cursor s) ∧ cursor t = (cursor s + 1) % n)

variable {n : ℕ} {cursor : σ → ℕ} {turn : σ → ι → Option ℕ}

/-- The turns of a run go round from the place of the cursor. -/
private theorem RoundRobin.outputs_from (h : M.RoundRobin n cursor turn) {ls : List ι} :
    ∀ {s t : σ} {k : ℕ}, M.Reachable s → cursor s = k % n → M.run s ls = some t →
      M.outputs turn s ls = Cyclic.residues n k (k + (M.outputs turn s ls).length) := by
  -- The induction is on the labels of the run, and carries the place of the cursor along.
  induction ls with
  | nil =>
    intro s t k _ _ _
    exact (Cyclic.residues_self).symm
  | cons l ls ih =>
    intro s t k hs hk hrun
    rw [run, runIf, if_pos trivial] at hrun
    obtain ⟨u, hu, hrun⟩ := Option.bind_eq_some_iff.mp hrun
    have hreach : M.Reachable u := hs.step trivial hu
    rw [outputs, hu, Option.elim_some]
    -- This step serves nobody, and the cursor stays.
    rcases h.step s l u hs hu with ⟨hturn, hcur⟩ | ⟨hturn, hcur⟩
    · rw [hturn]
      exact ih hreach (hcur.trans hk) hrun
    · -- It serves the place of the cursor, and the rest goes round from the next one.
      have hnext : cursor u = (k + 1) % n := by rw [hcur, hk, Nat.mod_add_mod]
      have htail := ih hreach hnext hrun
      rw [hturn, hk, Option.toList_some, List.singleton_append, List.length_cons]
      have hlen : k + ((M.outputs turn u ls).length + 1) = k + 1 + (M.outputs turn u ls).length := by
        omega
      rw [hlen]
      generalize (M.outputs turn u ls).length = d at htail ⊢
      rw [htail]
      have hsub : k + 1 + d - k = d + 1 := by omega
      have hsub' : k + 1 + d - (k + 1) = d := by omega
      rw [Cyclic.residues, Cyclic.residues, hsub, hsub', List.range'_succ, List.map_cons]

/-- **The turns of a run go round the ring.** -/
theorem RoundRobin.outputs_eq (h : M.RoundRobin n cursor turn) {ls : List ι} {t : σ}
    (hrun : M.run M.init ls = some t) :
    M.outputs turn M.init ls = Cyclic.residues n 0 (M.outputs turn M.init ls).length := by
  have hstart : cursor M.init = 0 % n := h.start.trans (Nat.zero_mod n).symm
  have heq := h.outputs_from .init hstart hrun
  rwa [Nat.zero_add] at heq

end Machine
