import Mathlib

/-!
# Labelled machines

A machine takes labels one at a time; a label that is not enabled in a state has
no successor.  Runs may be restricted by a condition on the state before a step
and the label of the step.

## Main definitions

* `Machine.Reach M ok s` — some run, all of whose steps satisfy `ok`, ends in `s`.
* `Machine.run`, `Machine.runIf` — the state a list of labels leads to.

## Main results

* `Machine.Reach.invariant` — what holds at the start and is kept by every step
  holds in every state reached.
* `Machine.reach_of_runIf` — a computed run is a run.
-/

universe u v

/-- A deterministic labelled transition system. -/
structure Machine (σ : Type u) (ι : Type v) where
  /-- The state every run starts in. -/
  init : σ
  /-- The successor under a label, when the label is enabled. -/
  next : σ → ι → Option σ

namespace Machine

variable {σ : Type u} {ι : Type v} {M : Machine σ ι}

/-- The states reached by runs whose steps all satisfy `ok`. -/
inductive Reach (M : Machine σ ι) (ok : σ → ι → Prop) : σ → Prop
  | init : Reach M ok M.init
  | step {s t : σ} {l : ι} : Reach M ok s → ok s l → M.next s l = some t → Reach M ok t

/-- The states reached by arbitrary runs. -/
abbrev Reachable (M : Machine σ ι) (s : σ) : Prop := M.Reach (fun _ _ => True) s

/-- A restricted run is a run under any weaker restriction. -/
theorem Reach.mono {ok ok' : σ → ι → Prop} (hok : ∀ s l, ok s l → ok' s l) {s : σ}
    (h : M.Reach ok s) : M.Reach ok' s := by
  induction h with
  | init => exact .init
  | step _ hl hn ih => exact .step ih (hok _ _ hl) hn

theorem Reach.reachable {ok : σ → ι → Prop} {s : σ} (h : M.Reach ok s) : M.Reachable s :=
  h.mono fun _ _ _ => trivial

/-- **The invariant rule.**  What holds at the start and is kept by every step
holds in every state reached. -/
theorem Reach.invariant {ok : σ → ι → Prop} {P : σ → Prop} (h0 : P M.init)
    (hstep : ∀ s l t, P s → ok s l → M.next s l = some t → P t) {s : σ}
    (h : M.Reach ok s) : P s := by
  induction h with
  | init => exact h0
  | step _ hl hn ih => exact hstep _ _ _ ih hl hn

/-- The state a list of labels leads to, if every step satisfies `ok`. -/
def runIf (M : Machine σ ι) (ok : σ → ι → Prop) [∀ s l, Decidable (ok s l)] :
    σ → List ι → Option σ
  | s, [] => some s
  | s, l :: ls => if ok s l then (M.next s l).bind fun t => runIf M ok t ls else none

/-- The state a list of labels leads to. -/
abbrev run (M : Machine σ ι) : σ → List ι → Option σ := M.runIf fun _ _ => True

theorem run_cons (s : σ) (l : ι) (ls : List ι) :
    M.run s (l :: ls) = (M.next s l).bind fun t => M.run t ls := if_pos trivial

/-- Runs follow one another. -/
theorem run_append (ls ls' : List ι) (s : σ) :
    M.run s (ls ++ ls') = (M.run s ls).bind fun t => M.run t ls' := by
  induction ls generalizing s with
  | nil => rfl
  | cons l ls ih =>
    rw [List.cons_append, run_cons, run_cons, Option.bind_assoc]
    congr 1
    funext t
    exact ih t

/-- A computed run is a run. -/
theorem reach_of_runIf {ok : σ → ι → Prop} [∀ s l, Decidable (ok s l)] {ls : List ι} :
    ∀ {s t : σ}, M.Reach ok s → M.runIf ok s ls = some t → M.Reach ok t := by
  induction ls with
  | nil =>
    intro s t hs h
    cases h
    exact hs
  | cons l ls ih =>
    intro s t hs h
    rw [runIf] at h
    split at h
    · next hok =>
      obtain ⟨u, hu, h⟩ := Option.bind_eq_some_iff.mp h
      exact ih (hs.step hok hu) h
    · cases h

theorem reach_of_run {ls : List ι} {s t : σ} (hs : M.Reachable s) (h : M.run s ls = some t) :
    M.Reachable t := reach_of_runIf hs h

end Machine
