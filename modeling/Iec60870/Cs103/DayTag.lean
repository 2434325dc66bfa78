import Iec60870.Asdu.HourTag

/-!
# The date of a CP32Time2a tag

A CP32Time2a tag holds the time of day of an instant and whether that is summer
time.  The decoder takes the date from the host's clock, or the day before where
the time of day is more than five minutes ahead of the clock's.

## Main definitions

* `cp32time2aTag`, `parseCp32time2aTag`, `decodeCp32` — the tag.
* `InDay` — the date the decoder tries is the one of the instant.

## Main results

* `parseCp32time2aTag_iff` — **for an instant of the last 23 hours and 50 minutes
  or the next five minutes the tag is decoded to it exactly when it is in the host's
  day, or in the day before and its time of day comes back after 24 hours.**
-/

namespace Iec60870

namespace DateTime

/-- The date of `t` with the time of day of `r`. -/
def atTimeOf (t r : DateTime) : DateTime where
  __ := r.truncated
  year := t.year
  month := t.month
  day := t.day
  valid := by
    obtain ⟨hmonth, hday, -⟩ := t.valid
    obtain ⟨-, -, htime⟩ := r.truncated.valid
    exact ⟨hmonth, hday, htime⟩

theorem stamp_atTimeOf (t r : DateTime) :
    (t.atTimeOf r).stamp = r.stamp + (t.dayNumber - r.dayNumber) * DAY := by
  have hday : (t.atTimeOf r).dayNumber = t.dayNumber := rfl
  have hsec : (t.atTimeOf r).secondOfDay = r.secondOfDay := rfl
  unfold stamp
  rw [hday, hsec]
  ring

end DateTime

namespace Cs103

/-- Octet length of a CP32Time2a tag. -/
def CP32TIME2A_SIZE : ℕ := 4

section

variable (host : Host)

/-- `cp32time2a`: milliseconds, minutes and hours of the reading, with the SU bit;
the date is left out. -/
def cp32time2a (t : Option DateTime) (zone : TimeZone) : Octets :=
  match t with
  | none => [0, 0, 0x80, 0]
  | some t =>
    let p := zone.parts host t
    LittleEndian.encode 2 (p.milli + p.second * 1000) ++
      [p.minute.toUInt8, p.hour.toUInt8 ||| (if zone.isDst host t then 0x80 else 0)]

/-- `cp32time2a_tag`: the flags of the tag are put into the octet of the minutes. -/
def cp32time2aTag (t : Option DateTime) (flags : TimeTagFlags) (zone : TimeZone) : Octets :=
  (cp32time2a host t zone).modify 2 (· ||| flags.minutesBits)

/-- `decode_cp32`: the date comes from the host's clock, and a time of day well
ahead of it belongs to the day before. -/
def decodeCp32 (b : Octets) (zone : TimeZone) : Option DateTime :=
  let x := LittleEndian.decode (b.take 2)
  let minute := (b.getD 2 0 &&& 0x3f).toNat
  let hour := (b.getD 3 0 &&& 0x1f).toNat
  let now := zone.parts host host.now
  (zone.instantFrom host now.year now.month now.day hour minute (x / 1000) (x % 1000)).map
    fun val =>
      let val := if host.now.addSecs (5 * 60) < val then val.addSecs (-DAY) else val
      zone.resolveSummerTime host val (b.getD 3 0 &&& 0x80 != 0)

/-- `parse_cp32time2a_tag`: the flags, and the instant that the host's clock
completes the time of day to. -/
def parseCp32time2aTag (b : Octets) (zone : TimeZone) : Option DateTime × TimeTagFlags :=
  if b.length < CP32TIME2A_SIZE then (none, .GOOD)
  else (decodeCp32 host b zone, .fromMinutesOctet (b.getD 2 0))

end

/-! ### What a tag is decoded to -/

variable {host : Host} {z : TimeZone} {clock : ZoneClock}

/-- The octets of a tag. -/
theorem cp32time2aTag_some (t : DateTime) (flags : TimeTagFlags) :
    cp32time2aTag host (some t) flags z =
      LittleEndian.encode 2 ((z.reading host t).milli + (z.reading host t).second * 1000) ++
        [(z.reading host t).minute.toUInt8 ||| flags.minutesBits,
          (z.reading host t).hour.toUInt8 ||| (if z.isDst host t then 0x80 else 0)] := rfl

/-- The date of the host, or the day before. -/
def candidate (host : Host) (val : DateTime) : DateTime :=
  if host.now.addSecs (5 * 60) < val then val.addSecs (-DAY) else val

theorem decodeCp32_tag (t : DateTime) (flags : TimeTagFlags) :
    decodeCp32 host (cp32time2aTag host (some t) flags z) z =
      (z.earliest host ((z.reading host host.now).atTimeOf (z.reading host t))).map fun val =>
        z.resolveSummerTime host (candidate host val) (z.isDst host t) := by
  obtain ⟨-, -, hhour, hminute, -⟩ := (z.reading host t).valid
  obtain ⟨lo, hi, henc, hsec, hmilli⟩ := (z.reading host t).decode_msec
  obtain ⟨hmask, hsu⟩ := mask_hour (z.isDst host t) hhour
  have htake (m h : UInt8) : List.take 2 ([lo, hi] ++ [m, h]) = [lo, hi] := rfl
  have hget (m h : UInt8) : List.getD ([lo, hi] ++ [m, h]) 2 0 = m := rfl
  have hget' (m h : UInt8) : List.getD ([lo, hi] ++ [m, h]) 3 0 = h := rfl
  have hinstant : z.instantFrom host (z.parts host host.now).year (z.parts host host.now).month
      (z.parts host host.now).day (z.reading host t).hour (z.reading host t).minute
      (z.reading host t).second (z.reading host t).milli =
        z.earliest host ((z.reading host host.now).atTimeOf (z.reading host t)) :=
    TimeZone.instantFrom_eq host z ((z.reading host host.now).atTimeOf (z.reading host t))
      (z.reading host t).milli_le rfl
  rw [cp32time2aTag_some, henc, decodeCp32]
  dsimp only
  rw [htake, hget, hget', hsec, hmilli, (minute_flags flags hminute).1, hmask, hsu, hinstant]
  rfl

/-- The date the decoder tries is the one of `e`: the host's, or the one before
where the clock comes back to the reading of `e` after 24 hours. -/
def InDay (host : Host) (z : TimeZone) (clock : ZoneClock) (e : DateTime) : Prop :=
  (z.reading host e).dayNumber = (z.reading host host.now).dayNumber ∨
    (z.reading host e).dayNumber + 1 = (z.reading host host.now).dayNumber ∧
      ∃ s, clock.shown s = clock.shown e.stamp ∧ clock.shown (s + DAY) = clock.shown s + DAY

theorem nano_candidate {val : DateTime} (h : val.nano < NANOS_PER_SEC) :
    (candidate host val).nano = val.nano := by
  unfold candidate
  split
  · rw [DateTime.addSecs_of_lt h, DateTime.nano_ofStamp]
  · rfl

/-- The time of day of `e` on the date of the host. -/
theorem reading_atTimeOf (hz : host.Exact z clock.offset) (e : DateTime) :
    ((z.reading host host.now).atTimeOf (z.reading host e)).nano = e.truncated.nano ∧
      ((z.reading host host.now).atTimeOf (z.reading host e)).stamp =
        clock.shown e.stamp +
          ((z.reading host host.now).dayNumber - (z.reading host e).dayNumber) * DAY := by
  constructor
  · show (z.reading host e).milli * NANOS_PER_MILLI = e.milli * NANOS_PER_MILLI
    rw [hz.milli_reading]
  · rw [DateTime.stamp_atTimeOf, hz.stamp_reading]
    rfl

/-- What is decoded on the date of the host leads to `e` only from its own day. -/
theorem inDay_of_decodeCp32 (hz : host.Exact z clock.offset) {e : DateTime} {flags : TimeTagFlags}
    (h : decodeCp32 host (cp32time2aTag host (some e) flags z) z = some e.truncated) :
    InDay host z clock e := by
  obtain ⟨hnano, hstamp⟩ := reading_atTimeOf hz e
  rw [decodeCp32_tag] at h
  obtain ⟨val, hval, hresolve⟩ := Option.map_eq_some_iff.mp h
  -- the decoder's instant shows the time of day of `e` on the date of the host
  rw [hz.earliest (by rw [hnano]; exact e.nano_truncated_lt)] at hval
  obtain ⟨hnano', hleast⟩ := hval
  have hlt : val.nano < NANOS_PER_SEC := by
    rw [hnano', hnano]
    exact e.nano_truncated_lt
  have hshown : clock.shown val.stamp =
      ((z.reading host host.now).atTimeOf (z.reading host e)).stamp := hleast.1
  have hsame := TimeZone.shown_resolveSummerTime hz (t := candidate host val) (z.isDst host e)
    (by rw [nano_candidate hlt]; exact hlt)
  rw [hresolve, DateTime.stamp_truncated] at hsame
  unfold candidate at hsame
  unfold InDay
  split at hsame
  · -- A day was taken off: it cannot be the date of the host.
    rw [DateTime.addSecs_of_lt hlt, DateTime.stamp_ofStamp] at hsame
    have hnear := abs_le.mp (clock.offset_sub_le val.stamp (val.stamp + -DAY))
    have hback : clock.shown (val.stamp + -DAY) =
        val.stamp + -DAY + clock.offset (val.stamp + -DAY) := rfl
    have hval : clock.shown val.stamp = val.stamp + clock.offset val.stamp := rfl
    have hday : (z.reading host e).dayNumber + 1 = (z.reading host host.now).dayNumber := by
      unfold DAY at *
      omega
    refine .inr ⟨hday, val.stamp + -DAY, hsame.symm, ?_⟩
    rw [neg_add_cancel_right, hshown, hstamp, ← hsame, ← hday]
    ring
  -- no day was taken off, so `e` has the date of the host
  · rw [hshown, hstamp] at hsame
    left
    unfold DAY at hsame
    omega

/-- In its own day `e` is the instant the decoder tries, or the other one with its
reading. -/
theorem decodeCp32_of_inDay (hz : host.Exact z clock.offset) {e : DateTime}
    (hnear : host.now.Near 85800 300 e) (h : InDay host z clock e) (flags : TimeTagFlags) :
    decodeCp32 host (cp32time2aTag host (some e) flags z) z = some e.truncated := by
  obtain ⟨hnano, hstamp⟩ := reading_atTimeOf hz e
  rw [decodeCp32_tag]
  rcases h with hday | ⟨hday, s, hsame, hlater⟩
  · -- The first instant with the reading of `e` is not after `e`.
    obtain ⟨first, hfirst, hnano', hleast, hresolve⟩ := TimeZone.resolve_reading hz e
    have hnaive : (z.reading host host.now).atTimeOf (z.reading host e) =
        (z.reading host e).truncated := by
      refine DateTime.eq_of_stamp ?_ rfl
      rw [DateTime.stamp_atTimeOf, hday, DateTime.stamp_truncated]
      ring
    have hkept : candidate host first = first := by
      apply if_neg
      have hle : first.stamp ≤ e.stamp := hleast.2 rfl
      have hmilli : first.nano ≤ e.nano := by
        rw [hnano']
        show e.milli * NANOS_PER_MILLI ≤ e.nano
        unfold DateTime.milli NANOS_PER_MILLI
        omega
      have hahead := hnear.2
      rw [DateTime.le_def] at hahead
      rw [show (5 * 60 : ℤ) = 300 by norm_num, DateTime.lt_def]
      omega
    rw [hnaive, hfirst, Option.map_some, hkept, hresolve]
  · -- A day later the clock shows the reading for the first time.
    have hleast := clock.isLeast_day_later hlater
    have hle := clock.le_of_day_later hsame hlater
    have hlt := e.nano_truncated_lt
    have hearliest : z.earliest host ((z.reading host host.now).atTimeOf (z.reading host e)) =
        some (.ofStamp (s + DAY) e.truncated.nano hlt) := by
      rw [hz.earliest (by rw [hnano]; exact hlt), DateTime.stamp_ofStamp, hnano, hstamp, ← hday,
        ← hsame]
      refine ⟨DateTime.nano_ofStamp .., ?_⟩
      rw [add_sub_cancel_left, one_mul]
      exact hleast
    have htaken : candidate host (.ofStamp (s + DAY) e.truncated.nano hlt) =
        .ofStamp s e.truncated.nano hlt := by
      unfold candidate
      rw [if_pos, DateTime.addSecs_ofStamp]
      · congr 1
        omega
      · have hlow := (hnear.stamp (by decide) (by decide)).1
        rw [DateTime.lt_def, DateTime.stamp_ofStamp, DateTime.stamp_addSecs_pos _ (by decide)]
        unfold DAY
        omega
    have hdst : z.isDst host e = z.isDst host e.truncated := by
      rw [TimeZone.isDst_eq hz, TimeZone.isDst_eq hz]
      rfl
    rw [hearliest, Option.map_some, htaken, hdst]
    refine congrArg some (TimeZone.resolveSummerTime_eq hz hlt rfl ?_)
    rw [DateTime.stamp_ofStamp, DateTime.stamp_truncated]
    exact hsame.symm

/-- The tag of an instant carries its flags whatever it is decoded to. -/
theorem parseCp32time2aTag_eq (e : DateTime) (flags : TimeTagFlags) :
    parseCp32time2aTag host (cp32time2aTag host (some e) flags z) z =
      (decodeCp32 host (cp32time2aTag host (some e) flags z) z, flags) := by
  obtain ⟨-, -, -, hminute, -⟩ := (z.reading host e).valid
  have hlength : (cp32time2aTag host (some e) flags z).length = CP32TIME2A_SIZE := rfl
  have hoctet : (cp32time2aTag host (some e) flags z).getD 2 0 =
      (z.reading host e).minute.toUInt8 ||| flags.minutesBits := rfl
  rw [parseCp32time2aTag, if_neg (by rw [hlength]; exact Nat.lt_irrefl _), hoctet,
    (minute_flags flags hminute).2]

/-- At a constant offset the own day of `e` is the host's or an earlier one. -/
theorem inDay_fixed_iff {o : ℤ} (hz : host.Exact z (Clock.offset (.fixed o : ZoneClock)))
    {e : DateTime} (h : host.now.Near 85800 300 e) :
    InDay host z (.fixed o) e ↔
      (z.reading host e).dayNumber ≤ (z.reading host host.now).dayNumber := by
  have hlow := (h.stamp (by decide) (by decide)).1
  have hday := (z.reading host e).dayNumber_eq
  have hday' := (z.reading host host.now).dayNumber_eq
  rw [hz.stamp_reading] at hday hday'
  have hafter : (z.reading host host.now).dayNumber ≤ (z.reading host e).dayNumber + 1 := by
    rw [hday, hday']
    show (host.now.stamp + o) / DAY ≤ (e.stamp + o) / DAY + 1
    unfold DAY
    omega
  constructor
  · rintro (heq | ⟨heq, -⟩) <;> omega
  · intro hle
    rcases hle.eq_or_lt with heq | hlt
    · exact .inl heq
    · refine .inr ⟨by omega, e.stamp, rfl, ?_⟩
      show e.stamp + DAY + o = e.stamp + o + DAY
      ring

/-- **A tag from the window is decoded to its instant, with its flags, exactly when
the instant is in the host's day, or in the day before and the clock comes back to
its reading after 24 hours.**  Such instants keep their order. -/
theorem parseCp32time2aTag_iff (hz : host.Exact z clock.offset) :
    (∀ e, host.now.Near 85800 300 e → ∀ flags,
      (parseCp32time2aTag host (cp32time2aTag host (some e) flags z) z =
          (some e.truncated, flags) ↔
        InDay host z clock e)) ∧
    ∀ e₁ e₂, host.now.Near 85800 300 e₁ → host.now.Near 85800 300 e₂ →
      InDay host z clock e₁ → InDay host z clock e₂ → e₁ ≤ e₂ →
      ∀ f₁ f₂, ∃ d₁ d₂,
        parseCp32time2aTag host (cp32time2aTag host (some e₁) f₁ z) z = (some d₁, f₁) ∧
        parseCp32time2aTag host (cp32time2aTag host (some e₂) f₂ z) z = (some d₂, f₂) ∧
        d₁ ≤ d₂ := by
  constructor
  · intro e h flags
    rw [parseCp32time2aTag_eq]
    constructor
    · intro htag
      exact inDay_of_decodeCp32 hz (congrArg Prod.fst htag)
    · intro hin
      rw [decodeCp32_of_inDay hz h hin]
  · intro e₁ e₂ h₁ h₂ hin₁ hin₂ hle f₁ f₂
    refine ⟨e₁.truncated, e₂.truncated, ?_, ?_, DateTime.truncated_le hle⟩
    · rw [parseCp32time2aTag_eq, decodeCp32_of_inDay hz h₁ hin₁]
    · rw [parseCp32time2aTag_eq, decodeCp32_of_inDay hz h₂ hin₂]

/-- Half past three in the night the clocks are put back. -/
def halfPastThree : DateTime := (halfPastTwo true).addSecs 3600

theorem parseCp32time2aTag_iff_halfPastTwo :
    let host := Host.ticking (.summer centralEuropean) halfPastThree
    parseCp32time2aTag host (cp32time2aTag host (some (halfPastTwo false)) .GOOD .local) .local =
        (some (halfPastTwo false), .GOOD) ∧
      ∃ d₁ d₂,
        parseCp32time2aTag host (cp32time2aTag host (some (halfPastTwo false)) .GOOD .local)
          .local = (some d₁, .GOOD) ∧
        parseCp32time2aTag host (cp32time2aTag host (some (halfPastTwo true)) .GOOD .local)
          .local = (some d₂, .GOOD) ∧
        d₁ ≤ d₂ := by
  have h := parseCp32time2aTag_iff (Host.exact_local (.summer centralEuropean) halfPastThree)
  have hfirst : halfPastThree.Near 85800 300 (halfPastTwo false) := by decide +kernel
  have hagain : halfPastThree.Near 85800 300 (halfPastTwo true) := by decide +kernel
  have hin : InDay (Host.ticking (.summer centralEuropean) halfPastThree) .local
      (.summer centralEuropean) (halfPastTwo false) := .inl (by decide +kernel)
  have hin' : InDay (Host.ticking (.summer centralEuropean) halfPastThree) .local
      (.summer centralEuropean) (halfPastTwo true) := .inl (by decide +kernel)
  exact ⟨(h.1 _ hfirst .GOOD).mpr hin,
    h.2 _ _ hfirst hagain hin hin' (by decide +kernel) .GOOD .GOOD⟩

/-- Two minutes before midnight. -/
def twoToMidnight : DateTime := ⟨2026, 6, 5, 23, 58, 0, 0, by decide⟩

/-- The same time after it. -/
def twoPastMidnight : DateTime := ⟨2026, 6, 6, 0, 2, 0, 0, by decide⟩

/-- An hour and a half before the clocks are put forward, half past midnight. -/
def halfPastMidnight : DateTime := .ofStamp (centralEuropean.first 2026 - 5400) 0 (by decide)

/-- Half past two of the day before: a time that is left out the next day. -/
def halfPastTwoBefore : DateTime := .ofStamp (centralEuropean.first 2026 + 1800 - DAY) 0 (by decide)

def lateHost : Host := .ticking (.fixed 0) twoToMidnight

def springHost : Host := .ticking (.summer centralEuropean) halfPastMidnight

/-- A sender four minutes ahead of the host is a day behind it once its day has
begun, and a time of yesterday that is left out today is not decoded at all. -/
theorem parseCp32time2aTag_midnight :
    lateHost.Exact .utc (fun _ => 0) ∧ lateHost.now.Near 85800 300 twoPastMidnight ∧
      twoPastMidnight.truncated = twoPastMidnight ∧
      parseCp32time2aTag lateHost (cp32time2aTag lateHost (some twoPastMidnight) .GOOD .utc) .utc =
        (some (twoPastMidnight.addSecs (-DAY)), .GOOD) ∧
      twoPastMidnight.addSecs (-DAY) < twoPastMidnight ∧
      springHost.Exact .local centralEuropean.offset ∧
      springHost.now.Near 85800 300 halfPastTwoBefore ∧
      parseCp32time2aTag springHost
        (cp32time2aTag springHost (some halfPastTwoBefore) .GOOD .local) .local = (none, .GOOD) :=
  ⟨Host.exact_utc twoToMidnight, by decide +kernel, by decide +kernel, by decide +kernel,
    by decide +kernel, Host.exact_local (.summer centralEuropean) halfPastMidnight,
    by decide +kernel, by decide +kernel⟩

end Cs103
end Iec60870
