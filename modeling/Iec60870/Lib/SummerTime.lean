import Mathlib

/-!
# Clocks that are put forward and back

A local clock reads an instant `s` as `s + offset s`.  This module is about
offsets that are constant, or that change twice a year, at least a day apart and
at least a day away from New Year.  A reading such a clock shows twice is shown
first with the larger offset, and no day sees more than one change.

Instants are counted in seconds.  What a year is, is a parameter.

## Main definitions

* `Years` — when each year begins.
* `SummerTime` — the rules of a clock that is changed twice a year.
* `Clock`, `Clock.offset` — a clock with a constant offset, or with such rules.

## Main results

* `SummerTime.shown_twice` — **what distinguishes the two instants of a reading
  that is shown twice.**
* `Clock.once_a_day` — **within a day a clock changes at most once.**
* `Clock.firstShown_eq_some` — **the first instant at which a reading is shown.**
-/

/-- A calendar: when each year begins, and the year of an instant. -/
structure Years where
  start : ℤ → ℤ
  yearOf : ℤ → ℤ
  start_le : ∀ s, start (yearOf s) ≤ s
  lt_start : ∀ s, s < start (yearOf s + 1)
  lt_succ : ∀ y, start y < start (y + 1)

namespace Years

variable (years : Years) {y y' s : ℤ}

theorem start_mono (h : y ≤ y') : years.start y ≤ years.start y' :=
  (strictMono_int_of_lt_succ years.lt_succ).monotone h

theorem yearOf_eq (h : years.start y ≤ s) (h' : s < years.start (y + 1)) : years.yearOf s = y := by
  have hle := years.start_le s
  have hlt := years.lt_start s
  rcases lt_trichotomy (years.yearOf s) y with hy | hy | hy
  · have hmono := years.start_mono (show years.yearOf s + 1 ≤ y by omega)
    omega
  · exact hy
  · have hmono := years.start_mono (show y + 1 ≤ years.yearOf s by omega)
    omega

end Years

/-- The rules of a clock whose offset takes two values in each year.  The
instants `july` are in the middle part of their years. -/
structure SummerTime (years : Years) (july : ℤ → ℤ) where
  /-- The offset around New Year. -/
  outer : ℤ
  /-- The offset between the two changes of a year. -/
  inner : ℤ → ℤ
  /-- The first change of a year. -/
  first : ℤ → ℤ
  /-- The second change of a year. -/
  second : ℤ → ℤ
  outer_lt : |outer| < 86400
  inner_lt : ∀ y, |inner y| < 86400
  /-- Summer time is half an hour, one hour or two. -/
  shift : ∀ y, |inner y - outer| = 1800 ∨ |inner y - outer| = 3600 ∨ |inner y - outer| = 7200
  start_first : ∀ y, years.start y + 86400 ≤ first y
  first_second : ∀ y, first y + 86400 ≤ second y
  second_start : ∀ y, second y + 86400 ≤ years.start (y + 1)
  first_july : ∀ y, first y ≤ july y
  july_second : ∀ y, july y < second y

namespace SummerTime

variable {years : Years} {july : ℤ → ℤ} (rules : SummerTime years july) {s s' y : ℤ}

/-- Seconds the clock is ahead at an instant. -/
def offset (s : ℤ) : ℤ :=
  if rules.first (years.yearOf s) ≤ s ∧ s < rules.second (years.yearOf s) then
    rules.inner (years.yearOf s)
  else rules.outer

/-- The middle part of a year. -/
theorem offset_inner (h : rules.first y ≤ s) (h' : s < rules.second y) :
    years.yearOf s = y ∧ rules.offset s = rules.inner y := by
  have hlow := rules.start_first y
  have hhigh := rules.second_start y
  have hy : years.yearOf s = y := years.yearOf_eq (by omega) (by omega)
  refine ⟨hy, ?_⟩
  rw [offset, hy, if_pos ⟨h, h'⟩]

theorem offset_cases (s : ℤ) :
    rules.offset s = rules.outer ∨
      ∃ y, rules.first y ≤ s ∧ s < rules.second y ∧ rules.offset s = rules.inner y := by
  by_cases h : rules.first (years.yearOf s) ≤ s ∧ s < rules.second (years.yearOf s)
  · exact .inr ⟨_, h.1, h.2, if_pos h⟩
  · exact .inl (if_neg h)

theorem inner_ne_outer (y : ℤ) : rules.inner y ≠ rules.outer := by
  intro heq
  have h := rules.shift y
  rw [heq, sub_self, abs_zero] at h
  omega

theorem offset_ne_outer (h : rules.first y ≤ s) (h' : s < rules.second y) :
    rules.offset s ≠ rules.outer := by
  rw [(rules.offset_inner h h').2]
  exact rules.inner_ne_outer y

/-- On the first of January the clock shows the outer offset. -/
theorem offset_start (y : ℤ) : rules.offset (years.start y) = rules.outer := by
  have hy : years.yearOf (years.start y) = y := years.yearOf_eq le_rfl (years.lt_succ y)
  have hfirst := rules.start_first y
  rw [offset, hy, if_neg]
  omega

/-- On the first of July it shows the inner one. -/
theorem offset_july (y : ℤ) : rules.offset (july y) = rules.inner y :=
  (rules.offset_inner (rules.first_july y) (rules.july_second y)).2

/-- In the middle part of a year the clock shows that year. -/
theorem shown_year (h : rules.first y ≤ s) (h' : s < rules.second y) :
    years.yearOf (s + rules.offset s) = y := by
  have hlow := rules.start_first y
  have hhigh := rules.second_start y
  have hinner := abs_lt.mp (rules.inner_lt y)
  rw [(rules.offset_inner h h').2]
  exact years.yearOf_eq (by omega) (by omega)

/-- **What distinguishes the two instants of a reading that is shown twice.**
The first has the larger of the two offsets of the year it shows, the second the
smaller. -/
theorem shown_twice (hlt : s < s') (h : s + rules.offset s = s' + rules.offset s') :
    rules.offset s = max rules.outer (rules.inner (years.yearOf (s + rules.offset s))) ∧
      rules.offset s' = min rules.outer (rules.inner (years.yearOf (s + rules.offset s))) := by
  have hoff : rules.offset s' < rules.offset s := by omega
  -- Both instants have the outer offset of their year or the inner one; they cannot have the same,
  -- since the first shows as much as the second and is before it.
  rcases rules.offset_cases s with hs | ⟨y, hy, hy', hs⟩
  · rcases rules.offset_cases s' with hs' | ⟨y', hz, hz', hs'⟩
    · omega
    · have hyear := rules.shown_year hz hz'
      rw [h, hyear, hs, hs']
      rw [hs, hs'] at hoff
      rw [max_eq_left hoff.le, min_eq_right hoff.le]
      exact ⟨rfl, rfl⟩
  · have hyear := rules.shown_year hy hy'
    rcases rules.offset_cases s' with hs' | ⟨y', hz, hz', hs'⟩
    · rw [hyear, hs, hs']
      rw [hs, hs'] at hoff
      rw [max_eq_right hoff.le, min_eq_left hoff.le]
      exact ⟨rfl, rfl⟩
    · have hyear' := rules.shown_year hz hz'
      rw [h, hyear'] at hyear
      rw [hyear] at hs'
      omega

/-- The two instants lie half an hour, one hour or two apart. -/
theorem gap_of_shown_twice (hlt : s < s') (h : s + rules.offset s = s' + rules.offset s') :
    s' - s = 1800 ∨ s' - s = 3600 ∨ s' - s = 7200 := by
  obtain ⟨hs, hs'⟩ := rules.shown_twice hlt h
  have hshift := rules.shift (years.yearOf (s + rules.offset s))
  have hgap : s' - s = |rules.inner (years.yearOf (s + rules.offset s)) - rules.outer| := by
    rw [← max_sub_min_eq_abs, ← hs, ← hs']
    omega
  rw [hgap]
  exact hshift

/-- **Within a day the clock is changed at most once.** -/
theorem once_a_day {a b c : ℤ} (hab : a ≤ b) (hbc : b ≤ c) (hday : c ≤ a + 86400) :
    rules.offset b = rules.offset a ∨ rules.offset b = rules.offset c := by
  rcases rules.offset_cases b with hb | ⟨y, hy, hy', hb⟩
  · -- In the outer part, with `a` and `c` both in a middle part.
    rcases rules.offset_cases a with ha | ⟨z, hz, hz', ha⟩
    · exact .inl (hb.trans ha.symm)
    rcases rules.offset_cases c with hc | ⟨x, hx, hx', hc⟩
    · exact .inr (hb.trans hc.symm)
    -- The middle parts of `a` and `c` are less than a day apart, so they are one.
    have hzx : z = x := by
      have hlow := rules.start_first x
      have hhigh := rules.second_start z
      have hlow' := rules.start_first z
      have hhigh' := rules.second_start x
      have h₁ : years.yearOf a = z := (rules.offset_inner hz hz').1
      have h₂ : years.yearOf c = x := (rules.offset_inner hx hx').1
      rcases lt_trichotomy z x with h | h | h
      · have hmono := years.start_mono (show z + 1 ≤ x by omega)
        omega
      · exact h
      · have hmono := years.start_mono (show x + 1 ≤ z by omega)
        omega
    subst hzx
    exact absurd hb (rules.offset_ne_outer (hz.trans hab) (by omega))
  · -- In the middle part of the year `y`, which is longer than a day: `a` lies in it too, or `c`.
    by_cases ha : rules.first y ≤ a
    · exact .inl (hb.trans (rules.offset_inner ha (by omega)).2.symm)
    · have hlength := rules.first_second y
      exact .inr (hb.trans (rules.offset_inner (by omega) (by omega)).2.symm)

/-- All offsets are near the one of New Year. -/
theorem offset_near (s : ℤ) : |rules.offset s - rules.outer| ≤ 7200 := by
  rcases rules.offset_cases s with h | ⟨y, -, -, h⟩
  · rw [h, sub_self, abs_zero]
    omega
  · have hshift := rules.shift y
    rw [h]
    omega

end SummerTime

/-- A local clock: at a constant offset, or put forward and back. -/
inductive Clock (years : Years) (july : ℤ → ℤ)
  | fixed (offset : ℤ)
  | summer (rules : SummerTime years july)

namespace Clock

variable {years : Years} {july : ℤ → ℤ} (clock : Clock years july)

/-- Seconds the clock is ahead at an instant. -/
def offset (s : ℤ) : ℤ :=
  match clock with
  | .fixed o => o
  | .summer rules => rules.offset s

/-- The local reading of an instant, in seconds. -/
def shown (s : ℤ) : ℤ := s + clock.offset s

/-- **Within a day a clock changes at most once.** -/
theorem once_a_day {a b c : ℤ} (hab : a ≤ b) (hbc : b ≤ c) (hday : c ≤ a + 86400) :
    clock.offset b = clock.offset a ∨ clock.offset b = clock.offset c := by
  cases clock with
  | fixed o => exact .inl rfl
  | summer rules => exact rules.once_a_day hab hbc hday

/-- Two offsets of a clock differ by four hours at most. -/
theorem offset_sub_le (s s' : ℤ) : |clock.offset s - clock.offset s'| ≤ 14400 := by
  cases clock with
  | fixed o =>
    show |o - o| ≤ 14400
    rw [sub_self, abs_zero]
    omega
  | summer rules =>
    have h := abs_le.mp (rules.offset_near s)
    have h' := abs_le.mp (rules.offset_near s')
    show |rules.offset s - rules.offset s'| ≤ 14400
    exact abs_le.mpr ⟨by omega, by omega⟩

/-- A clock that shows a reading twice is put forward and back. -/
theorem summer_of_shown_twice {s s' : ℤ} (hlt : s < s') (h : clock.shown s = clock.shown s') :
    ∃ rules, clock = .summer rules ∧ s + rules.offset s = s' + rules.offset s' := by
  cases clock with
  | fixed o =>
    have h' : s + o = s' + o := h
    omega
  | summer rules => exact ⟨rules, rfl, h⟩

/-- The offsets of a year, the larger first. -/
def larger (y : ℤ) : ℤ :=
  match clock with
  | .fixed o => o
  | .summer rules => max rules.outer (rules.inner y)

def smaller (y : ℤ) : ℤ :=
  match clock with
  | .fixed o => o
  | .summer rules => min rules.outer (rules.inner y)

/-- An instant has one of the offsets of the year it shows. -/
theorem offset_eq_or (s : ℤ) :
    clock.offset s = clock.larger (years.yearOf (clock.shown s)) ∨
      clock.offset s = clock.smaller (years.yearOf (clock.shown s)) := by
  cases clock with
  | fixed o => exact .inl rfl
  | summer rules =>
    show rules.offset s = max _ _ ∨ rules.offset s = min _ _
    -- An instant has the outer offset, or the inner one of the year it shows; which of the two is
    -- the larger depends on the hemisphere.
    rcases rules.offset_cases s with h | ⟨y, hy, hy', h⟩
    · rcases le_total rules.outer (rules.inner (years.yearOf (shown (.summer rules) s))) with
        hle | hle
      · exact .inr (h.trans (min_eq_left hle).symm)
      · exact .inl (h.trans (max_eq_left hle).symm)
    · have hyear : years.yearOf (shown (.summer rules) s) = y := rules.shown_year hy hy'
      rw [hyear, h]
      rcases le_total rules.outer (rules.inner y) with hle | hle
      · exact .inl (max_eq_right hle).symm
      · exact .inr (min_eq_right hle).symm

theorem smaller_le_larger (y : ℤ) : clock.smaller y ≤ clock.larger y := by
  cases clock with
  | fixed o => exact le_rfl
  | summer rules => exact min_le_max

/-- The first instant at which a reading is shown. -/
def firstShown (r : ℤ) : Option ℤ :=
  let large := clock.larger (years.yearOf r)
  let small := clock.smaller (years.yearOf r)
  if clock.offset (r - large) = large then some (r - large)
  else if clock.offset (r - small) = small then some (r - small)
  else none

theorem isLeast_of_firstShown {r s : ℤ} (h : clock.firstShown r = some s) :
    IsLeast {x | clock.shown x = r} s := by
  have hle := clock.smaller_le_larger (years.yearOf r)
  have hshown : ∀ x, clock.shown x = x + clock.offset x := fun _ => rfl
  unfold firstShown at h
  dsimp only at h
  split at h
  · -- The larger offset leads to the instant: no instant of this reading comes before it.
    next hlarge =>
    obtain rfl := Option.some.inj h
    refine ⟨show clock.shown _ = r by rw [hshown, hlarge]; omega, ?_⟩
    rintro x (hx : clock.shown x = r)
    have hoff := clock.offset_eq_or x
    rw [hx] at hoff
    rw [hshown] at hx
    omega
  next hlarge =>
  split at h
  · -- Only the smaller one does, so no other instant has this reading.
    next hsmall =>
    obtain rfl := Option.some.inj h
    refine ⟨show clock.shown _ = r by rw [hshown, hsmall]; omega, ?_⟩
    rintro x (hx : clock.shown x = r)
    rcases hx ▸ clock.offset_eq_or x with hoff | hoff
    · rw [hshown, hoff] at hx
      exact absurd hoff (by rw [show x = r - clock.larger (years.yearOf r) by omega]; exact hlarge)
    · rw [hshown, hoff] at hx
      omega
  · cases h

theorem exists_firstShown (x : ℤ) : ∃ s, clock.firstShown (clock.shown x) = some s := by
  have hshown : clock.shown x = x + clock.offset x := rfl
  unfold firstShown
  dsimp only
  split
  · exact ⟨_, rfl⟩
  next hlarge =>
  rw [if_pos]
  · exact ⟨_, rfl⟩
  rcases clock.offset_eq_or x with hoff | hoff
  · exact absurd (by rw [← hoff, hshown, add_sub_cancel_right]) hlarge
  · rw [← hoff, hshown, add_sub_cancel_right]

/-- **A reading that is shown has a first instant at which it is.** -/
theorem firstShown_eq_some {r s : ℤ} :
    clock.firstShown r = some s ↔ IsLeast {x | clock.shown x = r} s := by
  constructor
  · exact clock.isLeast_of_firstShown
  · intro h
    obtain ⟨s', hs'⟩ := clock.exists_firstShown s
    rw [show clock.shown s = r from h.1] at hs'
    rw [hs', (clock.isLeast_of_firstShown hs').unique h]

/-- A clock that shows the same time of day a day later shows it then for the
first time. -/
theorem isLeast_day_later {s : ℤ} (h : clock.shown (s + 86400) = clock.shown s + 86400) :
    IsLeast {x | clock.shown x = clock.shown s + 86400} (s + 86400) := by
  refine ⟨h, ?_⟩
  rintro x (hx : clock.shown x = clock.shown s + 86400)
  by_contra hlt
  have hshown : ∀ x, clock.shown x = x + clock.offset x := fun _ => rfl
  have hnear := abs_le.mp (clock.offset_sub_le x s)
  have hday := clock.once_a_day (show s ≤ x by rw [hshown, hshown] at hx; omega)
    (show x ≤ s + 86400 by omega) le_rfl
  rw [hshown, hshown] at h hx
  omega

/-- Of the instants with one reading, a day later only the last can show the same
time of day. -/
theorem le_of_day_later {s s' : ℤ} (hsame : clock.shown s' = clock.shown s)
    (h : clock.shown (s' + 86400) = clock.shown s' + 86400) : s ≤ s' := by
  by_contra hlt
  have hshown : ∀ x, clock.shown x = x + clock.offset x := fun _ => rfl
  have hnear := abs_le.mp (clock.offset_sub_le s s')
  rw [hshown, hshown] at hsame h
  have hday := clock.once_a_day (show s' ≤ s by omega) (show s ≤ s' + 86400 by omega) le_rfl
  omega

end Clock
