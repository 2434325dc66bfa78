import Iec60870.Asdu.Zones

/-!
# Time tags in zones with summer time

A CP56Time2a tag says whether its reading is in summer time, so it is read back
also where the clocks were put back and a reading occurs twice.

## Main definitions

* `Host.ticking` — a host that converts exactly to the zone of a clock.

## Main results

* `TimeZone.parseCp56time2a_of_exact` — **a tag is read back to the millisecond
  in every zone with a constant offset or with summer time.**
-/

namespace Iec60870

namespace TimeZone

variable {host : Host} {z : TimeZone} {clock : ZoneClock}

/-- The truncated reading of an instant has a first instant, and from it the SU
bit leads back to the instant. -/
theorem resolve_reading (hz : host.Exact z clock.offset) (t : DateTime) :
    ∃ first, z.earliest host (z.reading host t).truncated = some first ∧
      first.nano = t.truncated.nano ∧
      IsLeast {x | clock.shown x = clock.shown t.stamp} first.stamp ∧
      z.resolveSummerTime host first (z.isDst host t) = t.truncated := by
  -- A local time can be shown twice; `earliest` gives the first of the two instants, and the SU bit
  -- of the tag tells which of them was meant.
  obtain ⟨s, hs⟩ := clock.exists_firstShown t.stamp
  have hleast := clock.isLeast_of_firstShown hs
  have hnano : (z.reading host t).truncated.nano = t.truncated.nano := by
    show (z.reading host t).milli * NANOS_PER_MILLI = t.milli * NANOS_PER_MILLI
    rw [hz.milli_reading]
  have hstamp : (z.reading host t).truncated.stamp = clock.shown t.stamp := hz.stamp_reading t
  have hsame : (DateTime.ofStamp s t.truncated.nano t.nano_truncated_lt).stamp = s :=
    DateTime.stamp_ofStamp ..
  refine ⟨.ofStamp s t.truncated.nano t.nano_truncated_lt, ?_, DateTime.nano_ofStamp .., ?_, ?_⟩
  · rw [hz.earliest (DateTime.nano_truncated_lt _), hsame, hstamp]
    exact ⟨hnano.symm, hleast⟩
  · rw [hsame]
    exact hleast
  · have hdst : z.isDst host t.truncated = z.isDst host t := by
      rw [isDst_eq hz, isDst_eq hz]
      rfl
    have hshown : clock.shown t.truncated.stamp =
        clock.shown (DateTime.ofStamp s t.truncated.nano t.nano_truncated_lt).stamp := by
      rw [hsame]
      exact hleast.1.symm
    rw [← hdst]
    exact resolveSummerTime_eq hz t.nano_truncated_lt (DateTime.nano_ofStamp ..).symm hshown

/-- The calendar fields of a tag lead back to the instant. -/
theorem decodeCp56_of_exact (hz : host.Exact z clock.offset) {t : DateTime}
    (ht : (z.reading host t).InCentury) (flags : TimeTagFlags) :
    decodeCp56 host (cp56time2aTag host (some t) flags z) z = some t.truncated := by
  obtain ⟨first, hfirst, -, -, hresolve⟩ := resolve_reading hz t
  have hinstant := instantFrom_eq host z (z.reading host t).truncated
    (z.reading host t).milli_le rfl
  rw [decodeCp56_tag host ht]
  exact (congrArg (Option.map _) (hinstant.trans hfirst)).trans (congrArg some hresolve)

end TimeZone

/-! ### Hosts that convert exactly -/

theorem min_nano_lt (n : ℕ) : min n (NANOS_PER_SEC - 1) < NANOS_PER_SEC :=
  Nat.lt_of_le_of_lt (Nat.min_le_right _ _) (by decide)

/-- A host whose zones all show `clock`. -/
def Host.ticking (clock : ZoneClock) (now : DateTime) : Host where
  now := now
  wall _ t := .ofStamp (clock.shown t.stamp) (min t.nano (NANOS_PER_SEC - 1)) (min_nano_lt _)
  earliest _ naive :=
    if h : naive.nano < NANOS_PER_SEC then
      (clock.firstShown naive.stamp).map fun s => .ofStamp s naive.nano h
    else none
  offsetSecs _ t := clock.offset t.stamp
  addMinutes t m := some (t.addSecs (60 * m))
  hourBefore t := t.addSecs (-3600)

theorem Host.earliest_ticking (clock : ZoneClock) (now : DateTime) {naive : DateTime}
    (h : naive.nano < NANOS_PER_SEC) (z : TimeZone) (t : DateTime) :
    (Host.ticking clock now).earliest z naive = some t ↔
      t.nano = naive.nano ∧ IsLeast {s | s + clock.offset s = naive.stamp} t.stamp := by
  have hfirst (s : ℤ) := clock.firstShown_eq_some (r := naive.stamp) (s := s)
  show (dite _ _ _ = some t) ↔ _
  rw [dif_pos h, Option.map_eq_some_iff]
  constructor
  · rintro ⟨s, hs, rfl⟩
    rw [DateTime.stamp_ofStamp]
    exact ⟨DateTime.nano_ofStamp .., (hfirst s).mp hs⟩
  · rintro ⟨hnano, hleast⟩
    exact ⟨t.stamp, (hfirst t.stamp).mpr hleast,
      DateTime.eq_of_stamp (DateTime.stamp_ofStamp ..) hnano.symm⟩

/-- Every clock is the clock of a zone. -/
theorem Host.exact_local (clock : ZoneClock) (now : DateTime) :
    (Host.ticking clock now).Exact .local clock.offset where
  addMinutes _ _ := rfl
  hourBefore _ := rfl
  stamp_reading t := DateTime.stamp_ofStamp (clock.shown t.stamp) _ (min_nano_lt t.nano)
  milli_reading t := by
    show min (min t.nano (NANOS_PER_SEC - 1) / NANOS_PER_MILLI) 999 =
      min (t.nano / NANOS_PER_MILLI) 999
    unfold NANOS_PER_SEC NANOS_PER_MILLI
    omega
  offsetSecs _ := rfl
  earliest h t := Host.earliest_ticking clock now h .local t

/-- UTC is never ahead of itself. -/
theorem Host.exact_utc (now : DateTime) :
    (Host.ticking (.fixed 0) now).Exact .utc (Clock.offset (.fixed 0 : ZoneClock)) where
  addMinutes _ _ := rfl
  hourBefore _ := rfl
  stamp_reading t := (add_zero t.stamp).symm
  milli_reading _ := rfl
  offsetSecs _ := rfl
  earliest {naive} h t := by
    show some naive = some t ↔ t.nano = naive.nano ∧ IsLeast {s | s + 0 = naive.stamp} t.stamp
    simp only [add_zero, Set.ofPred_eq_eq_singleton, Option.some.injEq]
    constructor
    · rintro rfl
      exact ⟨rfl, isLeast_singleton⟩
    · rintro ⟨hnano, hleast⟩
      exact (DateTime.eq_of_stamp hleast.1 hnano).symm

/-- The minutes octet of a tag carries its flags. -/
theorem getD_cp56time2aTag (host : Host) (t : DateTime) (flags : TimeTagFlags) (z : TimeZone) :
    (cp56time2aTag host (some t) flags z).getD 2 0 =
      (z.reading host t).minute.toUInt8 ||| flags.minutesBits := rfl

theorem invalid_minutes (flags : TimeTagFlags) {n : ℕ} (h : n < 60) :
    (n.toUInt8 ||| flags.minutesBits) &&& 0x80 = 0x80 ↔ flags.invalid = true := by
  have hall : ∀ b : UInt8, b < 60 → ∀ inv sub,
      ((b ||| TimeTagFlags.minutesBits ⟨inv, sub⟩) &&& 0x80 = 0x80 ↔ inv = true) := by
    decide +kernel
  have hn := toNat_toUInt8 (show n < 256 by omega)
  exact hall n.toUInt8 (UInt8.lt_iff_toNat_lt.mpr (by rw [hn]; exact h)) _ _

/-- **A tag is read back to the millisecond in every zone with a constant offset
or with summer time**, with its flags; the reading that trusts only valid tags
returns it exactly when it is not marked invalid. -/
theorem TimeZone.parseCp56time2a_of_exact {host : Host} {z : TimeZone} {clock : ZoneClock}
    (hz : host.Exact z clock.offset) {t : DateTime} (ht : (z.reading host t).InCentury)
    (flags : TimeTagFlags) :
    parseCp56time2aTag host (cp56time2aTag host (some t) flags z) z = (some t.truncated, flags) ∧
      parseCp56time2a host (cp56time2aTag host (some t) flags z) z =
        if flags.invalid then none else some t.truncated := by
  have hlength : ¬(cp56time2aTag host (some t) flags z).length < CP56TIME2A_SIZE := by
    rw [length_cp56time2aTag]
    exact Nat.lt_irrefl _
  obtain ⟨-, -, -, hminute, -⟩ := (z.reading host t).valid
  constructor
  · rw [parseCp56time2aTag, if_neg hlength, decodeCp56_of_exact hz ht, getD_cp56time2aTag,
      (minute_flags flags hminute).2]
  · rw [parseCp56time2a, decodeCp56_of_exact hz ht, getD_cp56time2aTag]
    by_cases hinvalid : flags.invalid = true
    · rw [if_pos (.inr ((invalid_minutes flags hminute).mpr hinvalid)), if_pos hinvalid]
    · rw [if_neg (not_or.mpr ⟨hlength, mt (invalid_minutes flags hminute).mp hinvalid⟩),
        if_neg hinvalid]

theorem newYear_succ_bounds (y : ℤ) : newYear y + 365 * DAY ≤ newYear (y + 1) := by
  have hsucc := daysBeforeYear_succ y
  rw [daysBeforeMonth_end] at hsucc
  unfold newYear DAY
  split at hsucc <;> omega

theorem july_bounds (y : ℤ) : newYear y + 181 * DAY ≤ july y ∧ july y ≤ newYear y + 182 * DAY := by
  have hmonths : 181 ≤ daysBeforeMonth y 7 ∧ daysBeforeMonth y 7 ≤ 182 := by
    simp only [daysBeforeMonth, daysInMonth]
    split <;> decide
  unfold july newYear DAY
  omega

theorem spring_before_autumn (y : ℤ) :
    newYear y + 86 * DAY + 3600 + 86400 ≤ newYear y + 297 * DAY + 3600 := by
  unfold DAY
  omega

theorem autumn_before_newYear (y : ℤ) :
    newYear y + 297 * DAY + 3600 + 86400 ≤ calendar.start (y + 1) := by
  have h := newYear_succ_bounds y
  show _ ≤ newYear (y + 1)
  unfold DAY at *
  omega

theorem newYear_before_spring (y : ℤ) : calendar.start y + 86400 ≤ newYear y + 86 * DAY + 3600 := by
  show newYear y + 86400 ≤ _
  unfold DAY
  omega

theorem spring_before_july (y : ℤ) : newYear y + 86 * DAY + 3600 ≤ july y := by
  have h := (july_bounds y).1
  unfold DAY at *
  omega

theorem july_before_autumn (y : ℤ) : july y < newYear y + 297 * DAY + 3600 := by
  have h := (july_bounds y).2
  unfold DAY at *
  omega

theorem hour_shift : |(7200 : ℤ) - 3600| = 3600 := by decide

theorem hour_lt_day : |(3600 : ℤ)| < 86400 := by decide

theorem two_hours_lt_day : |(7200 : ℤ)| < 86400 := by decide

/-- Rules as in Central Europe, changed on fixed days at one o'clock UTC. -/
def centralEuropean : SummerTime calendar july where
  outer := 3600
  inner _ := 7200
  first y := newYear y + 86 * DAY + 3600
  second y := newYear y + 297 * DAY + 3600
  outer_lt := hour_lt_day
  inner_lt _ := two_hours_lt_day
  shift _ := .inr (.inl hour_shift)
  start_first := newYear_before_spring
  first_second := spring_before_autumn
  second_start := autumn_before_newYear
  first_july := spring_before_july
  july_second := july_before_autumn

/-- A host in Central Europe at half past two, seen for the first or the second
time in the night the clocks are put back. -/
def halfPastTwo (again : Bool) : DateTime :=
  .ofStamp (centralEuropean.second 2026 + if again then 1800 else -1800) 250_000_000 (by decide)

theorem TimeZone.parseCp56time2a_of_exact_halfPastTwo :
    let host := Host.ticking (.summer centralEuropean) (halfPastTwo false)
    TimeZone.local.parts host (halfPastTwo false) = TimeZone.local.parts host (halfPastTwo true) ∧
      parseCp56time2aTag host (cp56time2aTag host (some (halfPastTwo false)) .GOOD .local) .local =
        (some (halfPastTwo false), .GOOD) ∧
      parseCp56time2aTag host (cp56time2aTag host (some (halfPastTwo true)) .GOOD .local) .local =
        (some (halfPastTwo true), .GOOD) := by
  refine ⟨by decide +kernel, ?_, ?_⟩
  · have hsame : (halfPastTwo false).truncated = halfPastTwo false := by decide +kernel
    have h := (TimeZone.parseCp56time2a_of_exact (Host.exact_local (.summer centralEuropean)
      (halfPastTwo false)) (t := halfPastTwo false) (by decide +kernel) .GOOD).1
    rw [hsame] at h
    exact h
  · have hsame : (halfPastTwo true).truncated = halfPastTwo true := by decide +kernel
    have h := (TimeZone.parseCp56time2a_of_exact (Host.exact_local (.summer centralEuropean)
      (halfPastTwo false)) (t := halfPastTwo true) (by decide +kernel) .GOOD).1
    rw [hsame] at h
    exact h

end Iec60870
