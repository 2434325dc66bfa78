import Iec60870.Asdu.TimeTag

/-!
# Seconds of the calendar

The instants counted in seconds from the first of January of year 1, the way
back from a count to the calendar fields, and the arithmetic on instants that
goes through the count.

A leap second keeps the count of the second before it and stands after all of
its nanoseconds, so that the count and the nanoseconds order the instants.

## Main definitions

* `DateTime.stamp`, `DateTime.ofStamp` — the count of an instant, and the
  instant of a count.
* `DateTime.addSecs` — `DateTime + Duration` for whole seconds.

## Main results

* `DateTime.stamp_ofStamp`, `DateTime.eq_of_stamp` — **the count and the
  nanoseconds are the instant.**
* `DateTime.newYear_le_stamp`, `DateTime.stamp_lt_newYear` — an instant lies
  between the two New Years of its year.
-/

namespace Iec60870

/-! ### Days -/

/-- Days from the first of January of year 1 to that of `year`. -/
def daysBeforeYear (year : ℤ) : ℤ :=
  365 * (year - 1) + (year - 1) / 4 - (year - 1) / 100 + (year - 1) / 400

/-- Days from the first of January to the first of `month`; those of the whole
year for the month after December. -/
def daysBeforeMonth (year : ℤ) : ℕ → ℕ
  | 0 | 1 => 0
  | m + 2 => daysBeforeMonth year (m + 1) + daysInMonth year (m + 1)

theorem daysBeforeMonth_succ (year : ℤ) {month : ℕ} (h : 1 ≤ month) :
    daysBeforeMonth year (month + 1) = daysBeforeMonth year month + daysInMonth year month := by
  cases month with
  | zero => omega
  | succ m => rfl

theorem daysBeforeMonth_mono (year : ℤ) {m n : ℕ} (h : m ≤ n) :
    daysBeforeMonth year m ≤ daysBeforeMonth year n := by
  induction n, h using Nat.le_induction with
  | base => rfl
  | succ n hmn ih =>
    cases n with
    | zero => exact ih
    | succ n =>
      rw [daysBeforeMonth_succ year (by omega)]
      omega

theorem isLeapYear_iff (year : ℤ) :
    isLeapYear year = true ↔ (year % 4 = 0 ∧ year % 100 ≠ 0) ∨ year % 400 = 0 := by
  unfold isLeapYear
  exact decide_eq_true_iff

/-- The days of the months add up to 365, or 366 in a leap year. -/
theorem daysBeforeMonth_end (year : ℤ) :
    daysBeforeMonth year 13 = if isLeapYear year then 366 else 365 := by
  simp only [daysBeforeMonth, daysInMonth]
  split <;> rfl

theorem daysBeforeYear_succ (year : ℤ) :
    daysBeforeYear (year + 1) = daysBeforeYear year + daysBeforeMonth year 13 := by
  rw [daysBeforeMonth_end]
  have hleap := isLeapYear_iff year
  unfold daysBeforeYear
  split
  · have h := hleap.mp ‹_›
    push_cast
    omega
  · have h := mt hleap.mpr ‹_›
    push_cast
    omega

theorem daysBeforeYear_lt_succ (year : ℤ) : daysBeforeYear year < daysBeforeYear (year + 1) := by
  rw [daysBeforeYear_succ, daysBeforeMonth_end]
  split <;> omega

/-- The year a day falls in.  The mean length of a year gives it up to one. -/
def yearOfDay (n : ℤ) : ℤ :=
  let y := n * 400 / 146097 + 1
  if n < daysBeforeYear y then y - 1
  else if daysBeforeYear (y + 1) ≤ n then y + 1
  else y

theorem yearOfDay_spec (n : ℤ) :
    daysBeforeYear (yearOfDay n) ≤ n ∧ n < daysBeforeYear (yearOfDay n + 1) := by
  unfold yearOfDay
  dsimp only
  split
  · unfold daysBeforeYear at *
    omega
  · split
    · unfold daysBeforeYear at *
      omega
    · unfold daysBeforeYear at *
      omega

/-- The month of a day of the year. -/
def monthOfDay (year : ℤ) (n : ℕ) : ℕ := Nat.findGreatest (fun m => daysBeforeMonth year m ≤ n) 12

theorem monthOfDay_spec {year : ℤ} {n : ℕ} (h : n < daysBeforeMonth year 13) :
    (1 ≤ monthOfDay year n ∧ monthOfDay year n ≤ 12) ∧
      daysBeforeMonth year (monthOfDay year n) ≤ n ∧
        n < daysBeforeMonth year (monthOfDay year n) + daysInMonth year (monthOfDay year n) := by
  have hfirst : daysBeforeMonth year 1 ≤ n := Nat.zero_le n
  have hlow : 1 ≤ monthOfDay year n := Nat.le_findGreatest (by decide) hfirst
  have hhigh : monthOfDay year n ≤ 12 := Nat.findGreatest_le 12
  refine ⟨⟨hlow, hhigh⟩, Nat.findGreatest_spec (P := fun m => daysBeforeMonth year m ≤ n)
    (show 1 ≤ 12 by decide) hfirst, ?_⟩
  rw [← daysBeforeMonth_succ year hlow]
  rcases Nat.lt_or_ge (monthOfDay year n) 12 with hlt | hge
  · exact Nat.lt_of_not_le (Nat.findGreatest_is_greatest (P := fun m => daysBeforeMonth year m ≤ n)
      (Nat.lt_succ_self _) hlt)
  · rw [le_antisymm hhigh hge]
    exact h

/-! ### Seconds -/

/-- Seconds of a day. -/
def DAY : ℤ := 86400

/-- Nanoseconds of a second. -/
def NANOS_PER_SEC : ℕ := 1_000_000_000

/-- The New Year at which `year` begins. -/
def newYear (year : ℤ) : ℤ := daysBeforeYear year * DAY

theorem newYear_lt_succ (year : ℤ) : newYear year < newYear (year + 1) := by
  have h := daysBeforeYear_lt_succ year
  unfold newYear DAY
  omega

theorem newYear_strictMono : StrictMono newYear := strictMono_int_of_lt_succ newYear_lt_succ

/-- A count lies in one year only. -/
theorem year_unique {y y' s : ℤ} (h : newYear y ≤ s) (h' : s < newYear (y + 1))
    (k : newYear y' ≤ s) (k' : s < newYear (y' + 1)) : y = y' := by
  have hle : y < y' + 1 := newYear_strictMono.lt_iff_lt.mp (h.trans_lt k')
  have hge : y' < y + 1 := newYear_strictMono.lt_iff_lt.mp (k.trans_lt h')
  omega

namespace DateTime

/-- The second of the day. -/
def secondOfDay (t : DateTime) : ℕ := t.hour * 3600 + t.minute * 60 + t.second

theorem secondOfDay_lt (t : DateTime) : (t.secondOfDay : ℤ) < DAY := by
  obtain ⟨-, -, hhour, hminute, hsecond, -⟩ := t.valid
  unfold secondOfDay DAY
  push_cast
  omega

/-- The day of the year, counted from 0. -/
def dayOfYear (t : DateTime) : ℕ := daysBeforeMonth t.year t.month + (t.day - 1)

theorem dayOfYear_lt (t : DateTime) : t.dayOfYear < daysBeforeMonth t.year 13 := by
  obtain ⟨⟨hlow, hhigh⟩, ⟨hfirst, hlast⟩, -⟩ := t.valid
  have hmonth := daysBeforeMonth_succ t.year hlow
  have hend := daysBeforeMonth_mono t.year (show t.month + 1 ≤ 13 by omega)
  unfold dayOfYear
  omega

/-- The day, counted from the first of January of year 1. -/
def dayNumber (t : DateTime) : ℤ := daysBeforeYear t.year + t.dayOfYear

/-- The seconds from the first of January of year 1. -/
def stamp (t : DateTime) : ℤ := t.dayNumber * DAY + t.secondOfDay

theorem newYear_le_stamp (t : DateTime) : newYear t.year ≤ t.stamp := by
  unfold newYear stamp dayNumber DAY
  omega

theorem stamp_lt_newYear (t : DateTime) : t.stamp < newYear (t.year + 1) := by
  have hday := t.dayOfYear_lt
  have hsec := t.secondOfDay_lt
  have hyear := daysBeforeYear_succ t.year
  unfold newYear stamp dayNumber DAY at *
  omega

theorem year_eq {t : DateTime} {y : ℤ} (h : newYear y ≤ t.stamp) (h' : t.stamp < newYear (y + 1)) :
    t.year = y :=
  year_unique t.newYear_le_stamp t.stamp_lt_newYear h h'

theorem dayNumber_eq (t : DateTime) : t.dayNumber = t.stamp / DAY := by
  have hsec := t.secondOfDay_lt
  unfold stamp DAY at *
  omega

theorem secondOfDay_eq (t : DateTime) : (t.secondOfDay : ℤ) = t.stamp % DAY := by
  have hsec := t.secondOfDay_lt
  unfold stamp DAY at *
  omega

/-- The month is the one the day of the year falls in. -/
theorem month_unique {t u : DateTime} (hyear : t.year = u.year) (hday : t.dayOfYear = u.dayOfYear) :
    t.month = u.month := by
  obtain ⟨⟨hlow, -⟩, ⟨hfirst, hlast⟩, -⟩ := t.valid
  obtain ⟨⟨hlow', -⟩, ⟨hfirst', hlast'⟩, -⟩ := u.valid
  have ht := daysBeforeMonth_succ t.year hlow
  have hu := daysBeforeMonth_succ u.year hlow'
  unfold dayOfYear at hday
  rw [hyear] at ht hlast hday
  rcases Nat.lt_trichotomy t.month u.month with hlt | heq | hgt
  · have hmono := daysBeforeMonth_mono u.year (show t.month + 1 ≤ u.month by omega)
    omega
  · exact heq
  · have hmono := daysBeforeMonth_mono u.year (show u.month + 1 ≤ t.month by omega)
    omega

/-- **The count and the nanoseconds are the instant.** -/
theorem eq_of_stamp {t u : DateTime} (h : t.stamp = u.stamp) (hnano : t.nano = u.nano) : t = u := by
  have hyear : t.year = u.year :=
    year_eq (h ▸ u.newYear_le_stamp) (h ▸ u.stamp_lt_newYear)
  have hnumber : t.dayNumber = u.dayNumber := by rw [dayNumber_eq, dayNumber_eq, h]
  have hday : t.dayOfYear = u.dayOfYear := by
    unfold dayNumber at hnumber
    rw [hyear] at hnumber
    omega
  have hmonth := month_unique hyear hday
  have hsec : (t.secondOfDay : ℤ) = u.secondOfDay := by rw [secondOfDay_eq, secondOfDay_eq, h]
  obtain ⟨-, ⟨hfirst, -⟩, -, hminute, hsecond, -⟩ := t.valid
  obtain ⟨-, ⟨hfirst', -⟩, -, hminute', hsecond', -⟩ := u.valid
  have hfields : t.day = u.day ∧ t.hour = u.hour ∧ t.minute = u.minute ∧ t.second = u.second := by
    unfold dayOfYear at hday
    unfold secondOfDay at hsec
    rw [hyear, hmonth] at hday
    push_cast at hsec
    omega
  obtain ⟨hd, hh, hm, hs⟩ := hfields
  cases t
  cases u
  simp only [mk.injEq]
  exact ⟨hyear, hmonth, hd, hh, hm, hs, hnano⟩

/-- The day of the year of a day, counted from 0. -/
def dayInYear (n : ℤ) : ℕ := (n - daysBeforeYear (yearOfDay n)).toNat

theorem dayInYear_spec (n : ℤ) :
    daysBeforeYear (yearOfDay n) + dayInYear n = n ∧
      dayInYear n < daysBeforeMonth (yearOfDay n) 13 := by
  obtain ⟨hlow, hhigh⟩ := yearOfDay_spec n
  rw [daysBeforeYear_succ] at hhigh
  unfold dayInYear
  omega

/-- The fields of a count name a real instant. -/
theorem isInstant_ofStamp (s : ℤ) {nano : ℕ} (h : nano < NANOS_PER_SEC) :
    IsInstant (yearOfDay (s / DAY)) (monthOfDay (yearOfDay (s / DAY)) (dayInYear (s / DAY)))
      (dayInYear (s / DAY) - daysBeforeMonth (yearOfDay (s / DAY))
        (monthOfDay (yearOfDay (s / DAY)) (dayInYear (s / DAY))) + 1)
      ((s % DAY).toNat / 3600) ((s % DAY).toNat / 60 % 60) ((s % DAY).toNat % 60) nano := by
  obtain ⟨hmonth, hle, hlt⟩ := monthOfDay_spec (dayInYear_spec (s / DAY)).2
  have hsec : (s % DAY).toNat < 86400 := by unfold DAY; omega
  exact ⟨hmonth, ⟨by omega, by omega⟩, by omega, by omega, by omega, .inl h⟩

/-- The instant of a count, with its nanoseconds. -/
def ofStamp (s : ℤ) (nano : ℕ) (h : nano < NANOS_PER_SEC) : DateTime where
  year := yearOfDay (s / DAY)
  month := monthOfDay (yearOfDay (s / DAY)) (dayInYear (s / DAY))
  day := dayInYear (s / DAY) - daysBeforeMonth (yearOfDay (s / DAY))
    (monthOfDay (yearOfDay (s / DAY)) (dayInYear (s / DAY))) + 1
  hour := (s % DAY).toNat / 3600
  minute := (s % DAY).toNat / 60 % 60
  second := (s % DAY).toNat % 60
  nano := nano
  valid := isInstant_ofStamp s h

@[simp] theorem nano_ofStamp (s : ℤ) (nano : ℕ) (h : nano < NANOS_PER_SEC) :
    (ofStamp s nano h).nano = nano := rfl

/-- The instant of a count has this count. -/
@[simp] theorem stamp_ofStamp (s : ℤ) (nano : ℕ) (h : nano < NANOS_PER_SEC) :
    (ofStamp s nano h).stamp = s := by
  obtain ⟨hn, hday⟩ := dayInYear_spec (s / DAY)
  obtain ⟨-, hle, -⟩ := monthOfDay_spec hday
  have hnumber : (ofStamp s nano h).dayNumber = s / DAY := by
    unfold dayNumber dayOfYear ofStamp
    rw [Nat.add_sub_cancel, Nat.add_sub_cancel' hle]
    exact hn
  have hsecond : ((ofStamp s nano h).secondOfDay : ℤ) = s % DAY := by
    unfold secondOfDay ofStamp DAY
    dsimp only
    omega
  rw [stamp, hnumber, hsecond]
  unfold DAY
  omega

/-! ### Order and arithmetic -/

/-- `DateTime` in order of time. -/
instance : LE DateTime := ⟨fun t u => t.stamp < u.stamp ∨ t.stamp = u.stamp ∧ t.nano ≤ u.nano⟩

instance : LT DateTime := ⟨fun t u => t.stamp < u.stamp ∨ t.stamp = u.stamp ∧ t.nano < u.nano⟩

instance (t u : DateTime) : Decidable (t ≤ u) := inferInstanceAs (Decidable (_ ∨ _))

instance (t u : DateTime) : Decidable (t < u) := inferInstanceAs (Decidable (_ ∨ _))

theorem le_def {t u : DateTime} :
    t ≤ u ↔ t.stamp < u.stamp ∨ t.stamp = u.stamp ∧ t.nano ≤ u.nano := Iff.rfl

theorem lt_def {t u : DateTime} :
    t < u ↔ t.stamp < u.stamp ∨ t.stamp = u.stamp ∧ t.nano < u.nano := Iff.rfl

theorem stamp_le {t u : DateTime} (h : t ≤ u) : t.stamp ≤ u.stamp := by
  rw [le_def] at h
  omega

theorem nano_lt (t : DateTime) : t.nano < 2 * NANOS_PER_SEC := by
  obtain ⟨-, -, -, -, -, h⟩ := t.valid
  unfold NANOS_PER_SEC
  omega

/-- `DateTime + Duration` for whole seconds.  A step forward from a leap second
starts at its second 59, a step back at the second after it. -/
def addSecs (t : DateTime) (d : ℤ) : DateTime :=
  if h : t.nano < NANOS_PER_SEC then ofStamp (t.stamp + d) t.nano h
  else if d = 0 then t
  else ofStamp (t.stamp + d + if d < 0 then 1 else 0) (t.nano - NANOS_PER_SEC)
    (by have := t.nano_lt; omega)

theorem addSecs_of_lt {t : DateTime} (h : t.nano < NANOS_PER_SEC) (d : ℤ) :
    t.addSecs d = ofStamp (t.stamp + d) t.nano h := dif_pos h

theorem addSecs_ofStamp (s : ℤ) {nano : ℕ} (h : nano < NANOS_PER_SEC) (d : ℤ) :
    (ofStamp s nano h).addSecs d = ofStamp (s + d) nano h := by
  rw [addSecs_of_lt (show (ofStamp s nano h).nano < NANOS_PER_SEC from h)]
  exact eq_of_stamp (by rw [stamp_ofStamp, stamp_ofStamp, stamp_ofStamp]) rfl

/-- A step back counts at most its length. -/
theorem stamp_addSecs_neg (t : DateTime) {d : ℤ} (h : d < 0) :
    t.stamp + d ≤ (t.addSecs d).stamp := by
  unfold addSecs
  split
  · rw [stamp_ofStamp]
  · rw [if_neg h.ne, stamp_ofStamp]
    omega

/-- A step forward counts its whole length. -/
theorem stamp_addSecs_pos (t : DateTime) {d : ℤ} (h : 0 < d) :
    (t.addSecs d).stamp = t.stamp + d := by
  unfold addSecs
  split
  · rw [stamp_ofStamp]
  · rw [if_neg h.ne', if_neg (by omega), stamp_ofStamp, add_zero]

end DateTime

end Iec60870
