import Iec60870.Asdu.ZoneTrip

/-!
# The hour of a CP24Time2a tag

A CP24Time2a tag holds the minutes and milliseconds of an instant.  The decoder
takes the hour from the host's clock, or the hour before where the minute is
more than five ahead of the clock's.  In a zone with a constant offset that is
the right one for an instant of the last 54 minutes, and of the next five as
long as these do not reach into the next hour.

## Main definitions

* `DateTime.Near` — an instant in a window around the host's time.
* `DateTime.hourNumber` — the hour, counted through the days.

## Main results

* `decodeCp24_of_near` — what a tag from the window is decoded to.
* `TimeZone.parseCp24time2a_iff` — **it is the instant exactly when its hour is
  not after the host's.**
-/

namespace Iec60870

namespace DateTime

/-- From `back` seconds before `now` to `ahead` seconds after it. -/
def Near (now : DateTime) (back ahead : ℤ) (t : DateTime) : Prop :=
  now.addSecs (-back) ≤ t ∧ t ≤ now.addSecs ahead

instance (now : DateTime) (back ahead : ℤ) (t : DateTime) : Decidable (now.Near back ahead t) :=
  inferInstanceAs (Decidable (_ ∧ _))

theorem Near.stamp {now t : DateTime} {back ahead : ℤ} (h : now.Near back ahead t)
    (hback : 0 < back) (hahead : 0 < ahead) :
    now.stamp - back ≤ t.stamp ∧ t.stamp ≤ now.stamp + ahead := by
  obtain ⟨hlow, hhigh⟩ := h
  have hfrom := now.stamp_addSecs_neg (neg_lt_zero.mpr hback)
  have hto := now.stamp_addSecs_pos hahead
  have hle := stamp_le hlow
  have hle' := stamp_le hhigh
  omega

/-- The hour, counted through the days. -/
def hourNumber (t : DateTime) : ℤ := t.dayNumber * 24 + t.hour

theorem hourNumber_eq (t : DateTime) : t.hourNumber = t.stamp / 3600 := by
  obtain ⟨-, -, hhour, hminute, hsecond, -⟩ := t.valid
  unfold hourNumber stamp secondOfDay DAY
  push_cast
  omega

theorem minute_eq (t : DateTime) : (t.minute : ℤ) = t.stamp / 60 % 60 := by
  obtain ⟨-, -, hhour, hminute, hsecond, -⟩ := t.valid
  unfold stamp secondOfDay DAY
  push_cast
  omega

/-- The hour of `t` at the minute, second and milliseconds of `r`. -/
def atMinuteOf (t r : DateTime) : DateTime where
  __ := t
  minute := r.minute
  second := r.second
  nano := r.milli * NANOS_PER_MILLI
  valid := by
    obtain ⟨hmonth, hday, hhour, -⟩ := t.valid
    obtain ⟨-, -, -, hminute, hsecond, -⟩ := r.valid
    have hmilli := r.milli_le
    exact ⟨hmonth, hday, hhour, hminute, hsecond, .inl (by unfold NANOS_PER_MILLI; omega)⟩

theorem stamp_atMinuteOf (t r : DateTime) :
    (t.atMinuteOf r).stamp = t.stamp / 3600 * 3600 + r.stamp % 3600 := by
  have hsame : (t.atMinuteOf r).dayNumber = t.dayNumber := rfl
  have hnumber := t.hourNumber_eq
  have hother := r.hourNumber_eq
  unfold hourNumber at hnumber hother
  unfold stamp secondOfDay DAY at *
  rw [hsame]
  show t.dayNumber * 86400 + ((t.hour * 3600 + r.minute * 60 + r.second : ℕ) : ℤ) = _
  push_cast at *
  omega

theorem truncated_le {t u : DateTime} (h : t ≤ u) : t.truncated ≤ u.truncated := by
  rw [le_def] at h
  show t.stamp < u.stamp ∨ t.stamp = u.stamp ∧
    t.milli * NANOS_PER_MILLI ≤ u.milli * NANOS_PER_MILLI
  unfold milli NANOS_PER_MILLI
  omega

end DateTime

/-- `parse_cp24time2a`: only a time that can be trusted. -/
def parseCp24time2a (host : Host) (b : Octets) (zone : TimeZone) : Option DateTime :=
  if b.length < CP24TIME2A_SIZE ∨ b.getD 2 0 &&& 0x80 = 0x80 then none else decodeCp24 host b zone

/-- The octets of a tag. -/
theorem cp24time2aTag_some (host : Host) (t : DateTime) (flags : TimeTagFlags) (z : TimeZone) :
    cp24time2aTag host (some t) flags z =
      LittleEndian.encode 2 ((z.reading host t).milli + (z.reading host t).second * 1000) ++
        [(z.reading host t).minute.toUInt8 ||| flags.minutesBits] := rfl

/-- The definition as a function: where both sides are one, checking the equation
does not evaluate the calendar. -/
theorem decodeCp24_def : decodeCp24 = fun (host : Host) (b : Octets) (zone : TimeZone) =>
    let x := LittleEndian.decode (b.take 2)
    let minute := (b.getD 2 0 &&& 0x3f).toNat
    let now := zone.parts host host.now
    match zone.instantFrom host now.year now.month now.day now.hour minute (x / 1000)
        (x % 1000) with
    | none => none
    | some val => if minute > now.minute + 5 then some (host.hourBefore val) else some val := rfl

/-- The hour a tag is put into is the host's, or the one before. -/
theorem decodeCp24_tag (host : Host) (t : DateTime) (flags : TimeTagFlags) (z : TimeZone) :
    decodeCp24 host (cp24time2aTag host (some t) flags z) z =
      (z.earliest host ((z.reading host host.now).atMinuteOf (z.reading host t))).map fun val =>
        if (z.reading host t).minute > (z.reading host host.now).minute + 5 then
          host.hourBefore val
        else val := by
  obtain ⟨-, -, -, hminute, -⟩ := (z.reading host t).valid
  obtain ⟨lo, hi, henc, hsec, hmilli⟩ := (z.reading host t).decode_msec
  have htake (m : UInt8) : List.take 2 ([lo, hi] ++ [m]) = [lo, hi] := rfl
  have hget (m : UInt8) : List.getD ([lo, hi] ++ [m]) 2 0 = m := rfl
  have hinstant : z.instantFrom host (z.parts host host.now).year (z.parts host host.now).month
      (z.parts host host.now).day (z.parts host host.now).hour (z.reading host t).minute
      (z.reading host t).second (z.reading host t).milli =
        z.earliest host ((z.reading host host.now).atMinuteOf (z.reading host t)) :=
    TimeZone.instantFrom_eq host z ((z.reading host host.now).atMinuteOf (z.reading host t))
      (z.reading host t).milli_le rfl
  rw [cp24time2aTag_some, henc, decodeCp24_def]
  dsimp only
  rw [htake, hget, hsec, hmilli, (minute_flags flags hminute).1, hinstant]
  cases z.earliest host ((z.reading host host.now).atMinuteOf (z.reading host t)) with
  | none => rfl
  | some val => exact (apply_ite some _ _ _).symm

section

variable {host : Host} {z : TimeZone} {o : ℤ}

theorem TimeZone.earliest_fixed (hz : host.Exact z fun _ => o) {naive : DateTime}
    (h : naive.nano < NANOS_PER_SEC) :
    z.earliest host naive = some (.ofStamp (naive.stamp - o) naive.nano h) := by
  rw [hz.earliest h, DateTime.stamp_ofStamp]
  refine ⟨DateTime.nano_ofStamp .., show naive.stamp - o + o = naive.stamp by omega, ?_⟩
  rintro s (hs : s + o = naive.stamp)
  omega

/-- Whether the tag of `e` is put into its own hour. -/
def InHour (host : Host) (z : TimeZone) (e : DateTime) : Prop :=
  (z.reading host e).hourNumber ≤ (z.reading host host.now).hourNumber

instance (host : Host) (z : TimeZone) (e : DateTime) : Decidable (InHour host z e) :=
  inferInstanceAs (Decidable (_ ≤ _))

theorem inHour_iff (hz : host.Exact z fun _ => o) {e : DateTime} :
    InHour host z e ↔ (e.stamp + o) / 3600 ≤ (host.now.stamp + o) / 3600 := by
  unfold InHour
  rw [DateTime.hourNumber_eq, DateTime.hourNumber_eq, hz.stamp_reading, hz.stamp_reading]

/-- An instant of the window is put into its own hour or the one before. -/
theorem decodeCp24_of_near (hz : host.Exact z fun _ => o) {e : DateTime}
    (h : host.now.Near 3240 300 e) (flags : TimeTagFlags) :
    decodeCp24 host (cp24time2aTag host (some e) flags z) z =
      some (if InHour host z e then e.truncated else e.truncated.addSecs (-3600)) := by
  -- The tag carries minute, second and millisecond; the hour is the one of the host, so the decoded
  -- instant differs from `e` by whole hours.
  have hnano : ((z.reading host host.now).atMinuteOf (z.reading host e)).nano =
      e.truncated.nano := by
    show (z.reading host e).milli * NANOS_PER_MILLI = e.milli * NANOS_PER_MILLI
    rw [hz.milli_reading]
  have hlt := e.nano_truncated_lt
  rw [← hnano] at hlt
  have hstamp := (z.reading host host.now).stamp_atMinuteOf (z.reading host e)
  have hminute := (z.reading host e).minute_eq
  have hminute' := (z.reading host host.now).minute_eq
  obtain ⟨hlow, hhigh⟩ := h.stamp (by decide) (by decide)
  rw [decodeCp24_tag, TimeZone.earliest_fixed hz hlt, Option.map_some]
  have hhour := inHour_iff hz (e := e)
  rw [hz.stamp_reading] at hminute hminute'
  rw [hz.stamp_reading, hz.stamp_reading] at hstamp
  -- The source puts a minute more than five ahead of the host's into the hour before.  Within the
  -- window that is the hour of `e`; a minute it leaves in place is an hour early exactly if `e`
  -- lies in the next hour.
  refine congrArg some ?_
  split
  · rw [hz.hourBefore (by rw [DateTime.nano_ofStamp]; exact hlt), DateTime.addSecs_ofStamp,
      if_pos (hhour.mpr (by omega))]
    refine DateTime.eq_of_stamp ?_ hnano
    rw [DateTime.stamp_ofStamp, hstamp, DateTime.stamp_truncated]
    omega
  · split
    · next hin =>
      have hle := hhour.mp hin
      refine DateTime.eq_of_stamp ?_ hnano
      rw [DateTime.stamp_ofStamp, hstamp, DateTime.stamp_truncated]
      omega
    · next hin =>
      have hgt := mt hhour.mpr hin
      rw [DateTime.addSecs_of_lt e.nano_truncated_lt]
      refine DateTime.eq_of_stamp ?_ hnano
      rw [DateTime.stamp_ofStamp, DateTime.stamp_ofStamp, hstamp, DateTime.stamp_truncated]
      omega

/-- The tag of an instant, whatever trust is put in it. -/
theorem parseCp24time2aTag_of_near (hz : host.Exact z fun _ => o) {e : DateTime}
    (h : host.now.Near 3240 300 e) (flags : TimeTagFlags) :
    parseCp24time2aTag host (cp24time2aTag host (some e) flags z) z =
      (some (if InHour host z e then e.truncated else e.truncated.addSecs (-3600)), flags) := by
  obtain ⟨-, -, -, hminute, -⟩ := (z.reading host e).valid
  have hoctet : (cp24time2aTag host (some e) flags z).getD 2 0 =
      (z.reading host e).minute.toUInt8 ||| flags.minutesBits := rfl
  rw [parseCp24time2aTag, if_neg (by rw [length_cp24time2aTag]; exact Nat.lt_irrefl _),
    decodeCp24_of_near hz h, hoctet, (minute_flags flags hminute).2]

theorem parseCp24time2a_of_near (hz : host.Exact z fun _ => o) {e : DateTime}
    (h : host.now.Near 3240 300 e) (flags : TimeTagFlags) :
    parseCp24time2a host (cp24time2aTag host (some e) flags z) z =
      if flags.invalid then none
      else some (if InHour host z e then e.truncated else e.truncated.addSecs (-3600)) := by
  obtain ⟨-, -, -, hminute, -⟩ := (z.reading host e).valid
  have hoctet : (cp24time2aTag host (some e) flags z).getD 2 0 =
      (z.reading host e).minute.toUInt8 ||| flags.minutesBits := rfl
  have hlength : ¬(cp24time2aTag host (some e) flags z).length < CP24TIME2A_SIZE := by
    rw [length_cp24time2aTag]
    exact Nat.lt_irrefl _
  rw [parseCp24time2a, decodeCp24_of_near hz h, hoctet]
  by_cases hinvalid : flags.invalid = true
  · rw [if_pos (.inr ((invalid_minutes flags hminute).mpr hinvalid)), if_pos hinvalid]
  · rw [if_neg (not_or.mpr ⟨hlength, mt (invalid_minutes flags hminute).mp hinvalid⟩),
      if_neg hinvalid]

/-- An hour earlier is another instant. -/
theorem DateTime.addSecs_truncated_ne (e : DateTime) : e.truncated.addSecs (-3600) ≠ e.truncated := by
  intro heq
  have hstamp := congrArg DateTime.stamp heq
  rw [DateTime.addSecs_of_lt e.nano_truncated_lt, DateTime.stamp_ofStamp] at hstamp
  omega

/-- **A tag from the window is decoded to its instant exactly when the hour of
that instant is not after the host's.**  Two such instants keep their order,
unless the later one only is in the hour after. -/
theorem TimeZone.parseCp24time2a_iff (hz : host.Exact z fun _ => o) :
    (∀ e, host.now.Near 3240 300 e → ∀ flags,
      ((parseCp24time2aTag host (cp24time2aTag host (some e) flags z) z =
            (some e.truncated, flags) ∧
          parseCp24time2a host (cp24time2aTag host (some e) flags z) z =
            if flags.invalid then none else some e.truncated) ↔
        InHour host z e)) ∧
    ∀ e₁ e₂, host.now.Near 3240 300 e₁ → host.now.Near 3240 300 e₂ → e₁ ≤ e₂ →
      ∀ f₁ f₂, ∃ d₁ d₂,
        parseCp24time2aTag host (cp24time2aTag host (some e₁) f₁ z) z = (some d₁, f₁) ∧
        parseCp24time2aTag host (cp24time2aTag host (some e₂) f₂ z) z = (some d₂, f₂) ∧
        (d₁ ≤ d₂ ↔ (InHour host z e₁ → InHour host z e₂)) := by
  constructor
  · intro e h flags
    -- The decoded instant is the event itself or an hour early, and never both.
    rw [parseCp24time2aTag_of_near hz h, parseCp24time2a_of_near hz h]
    constructor
    · rintro ⟨htag, -⟩
      by_contra hin
      rw [if_neg hin] at htag
      exact e.addSecs_truncated_ne (Option.some.inj (congrArg Prod.fst htag))
    · intro hin
      rw [if_pos hin]
      exact ⟨rfl, rfl⟩
  · intro e₁ e₂ h₁ h₂ hle f₁ f₂
    refine ⟨_, _, parseCp24time2aTag_of_near hz h₁ f₁, parseCp24time2aTag_of_near hz h₂ f₂, ?_⟩
    have hle' := DateTime.truncated_le hle
    have hstamp := DateTime.stamp_le hle
    have hhour := inHour_iff hz (e := e₁)
    have hhour' := inHour_iff hz (e := e₂)
    obtain ⟨hlow, -⟩ := h₁.stamp (by decide) (by decide)
    obtain ⟨-, hhigh⟩ := h₂.stamp (by decide) (by decide)
    by_cases hin : InHour host z e₁
    · rw [if_pos hin]
      by_cases hin' : InHour host z e₂
      · rw [if_pos hin']
        exact iff_of_true hle' fun _ => hin'
      · -- An hour too early, the later event is before the window.
        rw [if_neg hin', DateTime.le_def, DateTime.addSecs_of_lt e₂.nano_truncated_lt,
          DateTime.stamp_ofStamp, DateTime.stamp_truncated, DateTime.stamp_truncated]
        exact iff_of_false (by omega) fun h => hin' (h hin)
    · -- If the earlier event is already in the next hour, so is the later one, and both come an
      -- hour too early.
      have hin' : ¬InHour host z e₂ := by
        rw [hhour] at hin
        rw [hhour']
        omega
      rw [if_neg hin, if_neg hin', DateTime.le_def, DateTime.addSecs_of_lt e₁.nano_truncated_lt,
        DateTime.addSecs_of_lt e₂.nano_truncated_lt, DateTime.stamp_ofStamp,
        DateTime.stamp_ofStamp, DateTime.nano_ofStamp, DateTime.nano_ofStamp]
      rw [DateTime.le_def] at hle'
      exact iff_of_true (by omega) fun h => absurd h hin

end

/-- Three minutes into the year. -/
def threePastNewYear : DateTime := ⟨2027, 1, 1, 0, 3, 0, 0, by decide⟩

/-- Half a second after the last half minute of the year before. -/
def lastOfYear : DateTime := ⟨2026, 12, 31, 23, 59, 30, 500_000_000, by decide⟩

theorem TimeZone.parseCp24time2a_iff_newYear :
    let host := Host.ticking (.fixed 0) threePastNewYear
    parseCp24time2aTag host (cp24time2aTag host (some lastOfYear) .GOOD .utc) .utc =
        (some lastOfYear, .GOOD) ∧
      ∃ d₁ d₂,
        parseCp24time2aTag host (cp24time2aTag host (some lastOfYear) .GOOD .utc) .utc =
          (some d₁, .GOOD) ∧
        parseCp24time2aTag host (cp24time2aTag host (some threePastNewYear) .GOOD .utc) .utc =
          (some d₂, .GOOD) ∧
        d₁ ≤ d₂ := by
  have h := TimeZone.parseCp24time2a_iff (z := .utc) (o := 0) (Host.exact_utc threePastNewYear)
  have hlast : threePastNewYear.Near 3240 300 lastOfYear := by decide +kernel
  have hpast : threePastNewYear.Near 3240 300 threePastNewYear := by decide +kernel
  have hin : InHour (Host.ticking (.fixed 0) threePastNewYear) .utc lastOfYear := by
    decide +kernel
  have hin' : InHour (Host.ticking (.fixed 0) threePastNewYear) .utc threePastNewYear := by
    decide +kernel
  obtain ⟨d₁, d₂, h₁, h₂, horder⟩ :=
    h.2 lastOfYear threePastNewYear hlast hpast (by decide +kernel) .GOOD .GOOD
  exact ⟨((h.1 lastOfYear hlast .GOOD).mpr hin).1, d₁, d₂, h₁, h₂, horder.mpr fun _ => hin'⟩

/-- Two minutes before an hour. -/
def twoToEleven : DateTime := ⟨2026, 6, 5, 10, 58, 0, 0, by decide⟩

/-- The same time after it. -/
def twoPastEleven : DateTime := ⟨2026, 6, 5, 11, 2, 0, 0, by decide⟩

/-- A sender four minutes ahead of the host is an hour behind it once its hour has
begun. -/
theorem TimeZone.parseCp24time2a_nextHour :
    let host := Host.ticking (.fixed 0) twoToEleven
    host.Exact .utc (fun _ => 0) ∧ host.now.Near 3240 300 twoToEleven ∧
      host.now.Near 3240 300 twoPastEleven ∧
      parseCp24time2aTag host (cp24time2aTag host (some twoToEleven) .GOOD .utc) .utc =
        (some twoToEleven, .GOOD) ∧
      parseCp24time2aTag host (cp24time2aTag host (some twoPastEleven) .GOOD .utc) .utc =
        (some (twoPastEleven.addSecs (-3600)), .GOOD) ∧
      twoPastEleven.truncated = twoPastEleven ∧
      twoPastEleven.addSecs (-3600) < twoToEleven ∧ twoToEleven < twoPastEleven :=
  ⟨Host.exact_utc twoToEleven, by decide +kernel, by decide +kernel, by decide +kernel,
    by decide +kernel, by decide +kernel, by decide +kernel, by decide +kernel⟩

end Iec60870
