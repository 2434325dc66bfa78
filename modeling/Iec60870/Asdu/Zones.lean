import Iec60870.Asdu.Calendar
import Iec60870.Lib.SummerTime

/-!
# Time zones that are converted exactly

What a time tag says depends on the zone it is read in.  This module states what
it means that a host converts to and from a zone exactly, for a zone with a
constant offset and for one with summer time, and what the SU bit then does for a
reading that is shown twice.

## Main definitions

* `calendar`, `july` — the years of the calendar and the instants at which the
  summer time test of a zone samples its offsets.
* `Host.Exact` — the host's clock arithmetic and conversions are exact.

## Main results

* `TimeZone.isDst_of_shown_twice` — the first of two instants with one reading
  is in summer time, the second is not.
* `TimeZone.resolveSummerTime_eq` — **among the instants of a reading the SU bit
  finds the one it was made from.**
-/

namespace Iec60870

/-- The years of the calendar, in seconds. -/
def calendar : Years where
  start := newYear
  yearOf s := yearOfDay (s / DAY)
  start_le s := by
    have h := (yearOfDay_spec (s / DAY)).1
    unfold newYear DAY at *
    omega
  lt_start s := by
    have h := (yearOfDay_spec (s / DAY)).2
    unfold newYear DAY at *
    omega
  lt_succ := newYear_lt_succ

/-- The first of July. -/
def july (year : ℤ) : ℤ := (daysBeforeYear year + daysBeforeMonth year 7) * DAY

theorem DateTime.yearOf_stamp (t : DateTime) : calendar.yearOf t.stamp = t.year :=
  calendar.yearOf_eq t.newYear_le_stamp t.stamp_lt_newYear

/-! ### Readings -/

/-- A tag cannot tell an instant from the truncated one. -/
theorem Parts.split_truncated (t : DateTime) : Parts.split t.truncated = Parts.split t := by
  have hmilli : t.truncated.milli = t.milli := by
    show min (t.milli * NANOS_PER_MILLI / NANOS_PER_MILLI) 999 = t.milli
    rw [Nat.mul_div_cancel _ (show 0 < NANOS_PER_MILLI by decide), min_eq_left t.milli_le]
  unfold split
  rw [hmilli]
  rfl

theorem DateTime.stamp_truncated (t : DateTime) : t.truncated.stamp = t.stamp := rfl

theorem DateTime.nano_truncated_lt (t : DateTime) : t.truncated.nano < NANOS_PER_SEC := by
  have hmilli := t.milli_le
  show t.milli * NANOS_PER_MILLI < NANOS_PER_SEC
  unfold NANOS_PER_MILLI NANOS_PER_SEC
  omega

/-- The fields are the seconds and the milliseconds. -/
theorem Parts.split_eq_iff {t u : DateTime} :
    Parts.split t = Parts.split u ↔ t.stamp = u.stamp ∧ t.milli = u.milli := by
  constructor
  · intro h
    simp only [split, Parts.mk.injEq] at h
    obtain ⟨hyear, hmonth, hday, -, hhour, hminute, hsecond, hmilli⟩ := h
    refine ⟨?_, hmilli⟩
    unfold DateTime.stamp DateTime.dayNumber DateTime.dayOfYear DateTime.secondOfDay
    rw [hyear, hmonth, hday, hhour, hminute, hsecond]
  · rintro ⟨hstamp, hmilli⟩
    have hnano : t.truncated.nano = u.truncated.nano := by
      show t.milli * NANOS_PER_MILLI = u.milli * NANOS_PER_MILLI
      rw [hmilli]
    have heq : t.truncated = u.truncated := DateTime.eq_of_stamp hstamp hnano
    rw [← split_truncated t, heq, split_truncated]

/-- The earliest instant with this reading. -/
def TimeZone.earliest (host : Host) (z : TimeZone) (naive : DateTime) : Option DateTime :=
  match z with
  | .utc => some naive
  | _ => host.earliest z naive

/-- `instantFrom` looks for the earliest instant with the reading it is given. -/
theorem TimeZone.instantFrom_eq (host : Host) (z : TimeZone) (r : DateTime) {milli : ℕ}
    (hmilli : milli ≤ 999) (hnano : r.nano = milli * NANOS_PER_MILLI) :
    z.instantFrom host r.year r.month r.day r.hour r.minute r.second milli =
      z.earliest host r := by
  have hfields : DateTime.ofFields r.year r.month r.day r.hour r.minute r.second
      (milli * NANOS_PER_MILLI) = some r := by
    rw [← hnano]
    exact dif_pos r.valid
  rw [instantFrom, if_pos (by unfold NANOS_PER_MILLI; omega), hfields]
  rfl

/-! ### Exact hosts -/

/-- The host adds durations exactly and converts exactly to and from a zone that
is `offset` seconds ahead of UTC. -/
structure Host.Exact (host : Host) (z : TimeZone) (offset : ℤ → ℤ) : Prop where
  addMinutes {t : DateTime} (h : t.nano < NANOS_PER_SEC) (m : ℤ) :
    host.addMinutes t m = some (t.addSecs (60 * m))
  hourBefore {t : DateTime} (h : t.nano < NANOS_PER_SEC) : host.hourBefore t = t.addSecs (-3600)
  stamp_reading (t : DateTime) : (z.reading host t).stamp = t.stamp + offset t.stamp
  milli_reading (t : DateTime) : (z.reading host t).milli = t.milli
  offsetSecs (t : DateTime) : z.offsetSecs host t = offset t.stamp
  earliest {naive : DateTime} (h : naive.nano < NANOS_PER_SEC) (t : DateTime) :
    z.earliest host naive = some t ↔
      t.nano = naive.nano ∧ IsLeast {s | s + offset s = naive.stamp} t.stamp

namespace TimeZone

variable {host : Host} {z : TimeZone} {offset : ℤ → ℤ}

/-- Two instants have the same fields in a zone exactly when their readings
agree to the millisecond. -/
theorem parts_eq_iff (hz : host.Exact z offset) {t u : DateTime} :
    z.parts host t = z.parts host u ↔
      t.stamp + offset t.stamp = u.stamp + offset u.stamp ∧ t.milli = u.milli := by
  unfold parts
  rw [Parts.split_eq_iff, hz.stamp_reading, hz.stamp_reading, hz.milli_reading, hz.milli_reading]

/-- The offset of every instant is the one the zone has. -/
theorem offset_const_of_utc (hz : host.Exact .utc offset) (s : ℤ) : offset s = 0 := by
  have h := hz.stamp_reading (.ofStamp s 0 (by decide))
  rw [DateTime.stamp_ofStamp] at h
  have hstamp : (TimeZone.utc.reading host (.ofStamp s 0 (by decide))).stamp = s :=
    DateTime.stamp_ofStamp s 0 (by decide)
  omega

theorem offset_const_of_fixed {o : ℤ} (hz : host.Exact (.fixed o) offset) (s : ℤ) :
    offset s = o := by
  have h := hz.offsetSecs (.ofStamp s 0 (by decide))
  rw [DateTime.stamp_ofStamp] at h
  exact h.symm

/-- The year of a reading. -/
theorem year_reading (hz : host.Exact z offset) (t : DateTime) :
    (z.reading host t).year = calendar.yearOf (t.stamp + offset t.stamp) := by
  rw [← DateTime.yearOf_stamp, hz.stamp_reading]

/-- The first of a month is an instant. -/
theorem ofFields_first (year : ℤ) {month : ℕ} (hlow : 1 ≤ month) (hhigh : month ≤ 12) :
    ∃ t, DateTime.ofFields year month 1 0 0 0 0 = some t ∧
      t.stamp = (daysBeforeYear year + daysBeforeMonth year month) * DAY := by
  have hdays : 1 ≤ daysInMonth year month := by
    unfold daysInMonth
    split <;> try split
    all_goals decide
  have hvalid : IsInstant year month 1 0 0 0 0 :=
    ⟨⟨hlow, hhigh⟩, ⟨le_rfl, hdays⟩, by decide, by decide, by decide, .inl (by decide)⟩
  refine ⟨⟨year, month, 1, 0, 0, 0, 0, hvalid⟩, dif_pos hvalid, ?_⟩
  simp [DateTime.stamp, DateTime.dayNumber, DateTime.dayOfYear, DateTime.secondOfDay]

/-- The offsets sampled in January and July are those of the zone. -/
theorem sampled_eq (hz : host.Exact z offset) (t : DateTime) :
    (match (DateTime.ofFields (z.reading host t).year 1 1 0 0 0 0).map (z.offsetSecs host),
        (DateTime.ofFields (z.reading host t).year 7 1 0 0 0 0).map (z.offsetSecs host) with
      | some jan, some jul => decide (z.offsetSecs host t ≠ min jan jul)
      | _, _ => false) =
    decide (offset t.stamp ≠ min (offset (newYear (z.reading host t).year))
      (offset (july (z.reading host t).year))) := by
  obtain ⟨jan, hjan, hstamp⟩ := ofFields_first (z.reading host t).year (le_refl 1) (by decide)
  obtain ⟨jul, hjul, hstamp'⟩ :=
    ofFields_first (z.reading host t).year (show 1 ≤ 7 by decide) (by decide)
  have hnew : jan.stamp = newYear (z.reading host t).year := by
    rw [hstamp]
    show (daysBeforeYear _ + ((0 : ℕ) : ℤ)) * DAY = daysBeforeYear _ * DAY
    rw [Nat.cast_zero, add_zero]
  rw [hjan, hjul, Option.map_some, Option.map_some, hz.offsetSecs, hz.offsetSecs, hz.offsetSecs,
    hnew, hstamp']
  rfl

/-- The summer time test compares with the offsets of January and July. -/
theorem isDst_eq (hz : host.Exact z offset) (t : DateTime) :
    z.isDst host t = decide (offset t.stamp ≠
      min (offset (newYear (calendar.yearOf (t.stamp + offset t.stamp))))
        (offset (july (calendar.yearOf (t.stamp + offset t.stamp))))) := by
  rw [← year_reading hz]
  cases z with
  | utc =>
    simp only [offset_const_of_utc hz, min_self, ne_eq, not_true_eq_false, decide_false]
    rfl
  | fixed o =>
    simp only [offset_const_of_fixed hz, min_self, ne_eq, not_true_eq_false, decide_false]
    rfl
  | «local» => exact sampled_eq hz t
  | named tz => exact sampled_eq hz t

end TimeZone

/-! ### Readings that are shown twice -/

/-- The clock of a zone. -/
abbrev ZoneClock := Clock calendar july

namespace TimeZone

variable {host : Host} {z : TimeZone} {clock : ZoneClock}

/-- **Of two instants with one reading the first is in summer time, the second
is not.** -/
theorem isDst_of_shown_twice (hz : host.Exact z clock.offset) {t u : DateTime}
    (hlt : t.stamp < u.stamp) (h : clock.shown t.stamp = clock.shown u.stamp) :
    z.isDst host t = true ∧ z.isDst host u = false := by
  obtain ⟨rules, rfl, hshown⟩ := clock.summer_of_shown_twice hlt h
  obtain ⟨hmax, hmin⟩ := rules.shown_twice hlt hshown
  have hz' : host.Exact z rules.offset := hz
  rw [isDst_eq hz', isDst_eq hz', ← hshown, show newYear = calendar.start from rfl,
    rules.offset_start, rules.offset_july]
  have hgap : rules.offset u.stamp < rules.offset t.stamp := by omega
  rw [← hmin]
  exact ⟨decide_eq_true hgap.ne', decide_eq_false fun hne => hne rfl⟩

/-- A reading that is in summer time or not as `t` is, is that of `t` only. -/
theorem eq_of_isDst (hz : host.Exact z clock.offset) {t u : DateTime} (hnano : t.nano = u.nano)
    (h : clock.shown t.stamp = clock.shown u.stamp) (hdst : z.isDst host t = z.isDst host u) :
    t = u := by
  rcases lt_trichotomy t.stamp u.stamp with hlt | heq | hgt
  · obtain ⟨ht, hu⟩ := isDst_of_shown_twice hz hlt h
    rw [ht, hu] at hdst
    cases hdst
  · exact DateTime.eq_of_stamp heq hnano
  · obtain ⟨hu, ht⟩ := isDst_of_shown_twice hz hgt h.symm
    rw [ht, hu] at hdst
    cases hdst

/-- Two instants with one reading are a shift apart that `resolveSummerTime`
tries. -/
theorem exists_shift {t u : DateTime} (hne : t.stamp ≠ u.stamp)
    (h : clock.shown t.stamp = clock.shown u.stamp) :
    ∃ m ∈ ([-60, 60, -30, 30, -120, 120] : List ℤ), u.stamp = t.stamp + 60 * m := by
  rcases lt_or_gt_of_ne hne with hlt | hgt
  · obtain ⟨rules, rfl, hshown⟩ := clock.summer_of_shown_twice hlt h
    rcases rules.gap_of_shown_twice hlt hshown with hgap | hgap | hgap
    · exact ⟨30, by decide, by omega⟩
    · exact ⟨60, by decide, by omega⟩
    · exact ⟨120, by decide, by omega⟩
  · obtain ⟨rules, rfl, hshown⟩ := clock.summer_of_shown_twice hgt h.symm
    rcases rules.gap_of_shown_twice hgt hshown with hgap | hgap | hgap
    · exact ⟨-30, by decide, by omega⟩
    · exact ⟨-60, by decide, by omega⟩
    · exact ⟨-120, by decide, by omega⟩

/-- What the search of `resolveSummerTime` accepts. -/
theorem agrees_eq_some (hz : host.Exact z clock.offset) {t alt : DateTime} {su : Bool} {m : ℤ}
    (hnano : t.nano < NANOS_PER_SEC) :
    (match host.addMinutes t m with
      | none => none
      | some alt =>
        if z.isDst host alt = su ∧ z.parts host alt = z.parts host t then some alt else none) =
      some alt ↔
    alt.stamp = t.stamp + 60 * m ∧ alt.nano = t.nano ∧ z.isDst host alt = su ∧
      clock.shown alt.stamp = clock.shown t.stamp := by
  rw [hz.addMinutes hnano, DateTime.addSecs_of_lt hnano]
  dsimp only
  constructor
  · intro h
    split at h
    · next hagree =>
      obtain rfl := Option.some.inj h
      exact ⟨DateTime.stamp_ofStamp _ _ _, DateTime.nano_ofStamp _ _ _, hagree.1,
        ((parts_eq_iff hz).mp hagree.2).1⟩
    · cases h
  · rintro ⟨hstamp, hnano', hdst, hshown⟩
    -- The instant is determined by its seconds and nanoseconds.
    obtain rfl : alt = .ofStamp (t.stamp + 60 * m) t.nano hnano :=
      DateTime.eq_of_stamp (by rw [hstamp, DateTime.stamp_ofStamp]) hnano'
    refine if_pos ⟨hdst, (parts_eq_iff hz).mpr ⟨hshown, ?_⟩⟩
    unfold DateTime.milli
    rw [hnano']

/-- **Among the instants of a reading the SU bit finds the one it was made
from.** -/
theorem resolveSummerTime_eq (hz : host.Exact z clock.offset) {t u : DateTime}
    (hnano : t.nano < NANOS_PER_SEC) (hsame : u.nano = t.nano)
    (h : clock.shown u.stamp = clock.shown t.stamp) :
    z.resolveSummerTime host t (z.isDst host u) = u := by
  unfold resolveSummerTime
  split
  · next hdst => exact eq_of_isDst hz hsame.symm h.symm hdst
  next hdst =>
  have hne : t.stamp ≠ u.stamp := by
    intro heq
    rw [DateTime.eq_of_stamp heq hsame.symm] at hdst
    exact hdst rfl
  obtain ⟨m, hm, hstamp⟩ := exists_shift hne h.symm
  dsimp only
  -- The search succeeds at this shift, and whatever it accepts is `u`.
  cases hfind : ([-60, 60, -30, 30, -120, 120] : List ℤ).findSome? fun m =>
      (match host.addMinutes t m with
      | none => none
      | some alt =>
        if z.isDst host alt = z.isDst host u ∧ z.parts host alt = z.parts host t then some alt
        else none : Option DateTime) with
  | none =>
    have hnone := List.findSome?_eq_none_iff.mp hfind m hm
    rw [(agrees_eq_some hz hnano).mpr ⟨hstamp, hsame, rfl, h⟩] at hnone
    cases hnone
  | some alt =>
    obtain ⟨k, -, hk⟩ := List.exists_of_findSome?_eq_some hfind
    obtain ⟨-, hnano', hdst', hshown⟩ := (agrees_eq_some hz hnano).mp hk
    exact eq_of_isDst hz (hnano'.trans hsame.symm) (hshown.trans h.symm) hdst'

/-- Whatever the SU bit says, the reading stays. -/
theorem shown_resolveSummerTime (hz : host.Exact z clock.offset) {t : DateTime} (su : Bool)
    (hnano : t.nano < NANOS_PER_SEC) :
    clock.shown (z.resolveSummerTime host t su).stamp = clock.shown t.stamp := by
  unfold resolveSummerTime
  split
  · rfl
  dsimp only
  cases hfind : ([-60, 60, -30, 30, -120, 120] : List ℤ).findSome? fun m =>
      (match host.addMinutes t m with
      | none => none
      | some alt =>
        if z.isDst host alt = su ∧ z.parts host alt = z.parts host t then some alt
        else none : Option DateTime) with
  | none => rfl
  | some alt =>
    obtain ⟨k, -, hk⟩ := List.exists_of_findSome?_eq_some hfind
    exact ((agrees_eq_some hz hnano).mp hk).2.2.2

end TimeZone

end Iec60870
