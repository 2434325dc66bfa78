import Iec60870.Asdu.Params
import Iec60870.Lib.LittleEndian

/-!
# Binary time tags

The CP56Time2a, CP24Time2a and CP16Time2a tags and the zones they are read in.
An instant is kept as its reading in UTC.  What the clock of the host and the
rules of zones other than UTC say is a parameter.

## Main definitions

* `DateTime`, `DateTime.truncated` — an instant, and the one a tag can hold.
* `Host` — the clock and the rules of the zones.
* `cp56time2a`, `cp56time2aTag`, `parseCp56time2a`, `parseCp56time2aTag` and
  their three-octet companions.

## Main results

* `parseCp56time2aTag_cp56time2aTag` — **a tag in UTC is read back to the
  millisecond, with its flags.**
-/

namespace Iec60870

/-! ### Instants -/

/-- Nanoseconds of a millisecond. -/
def NANOS_PER_MILLI : ℕ := 1_000_000

/-- Leap years of the Gregorian calendar. -/
def isLeapYear (year : ℤ) : Bool := (year % 4 = 0 ∧ year % 100 ≠ 0) ∨ year % 400 = 0

/-- Days of a month of the Gregorian calendar. -/
def daysInMonth (year : ℤ) (month : ℕ) : ℕ :=
  match month with
  | 2 => if isLeapYear year then 29 else 28
  | 4 | 6 | 9 | 11 => 30
  | _ => 31

/-- The calendar fields name a real instant.  A leap second is a second 59 of
more than a thousand million nanoseconds. -/
def IsInstant (year : ℤ) (month day hour minute second nano : ℕ) : Prop :=
  (1 ≤ month ∧ month ≤ 12) ∧ (1 ≤ day ∧ day ≤ daysInMonth year month) ∧
    hour < 24 ∧ minute < 60 ∧ second < 60 ∧
    (nano < 1_000_000_000 ∨ (second = 59 ∧ nano < 2_000_000_000))

instance (y : ℤ) (mo d h mi s n : ℕ) : Decidable (IsInstant y mo d h mi s n) :=
  inferInstanceAs (Decidable (_ ∧ _ ∧ _))

/-- An instant, as its reading in UTC. -/
structure DateTime where
  year : ℤ
  month : ℕ
  day : ℕ
  hour : ℕ
  minute : ℕ
  second : ℕ
  nano : ℕ
  valid : IsInstant year month day hour minute second nano
  deriving DecidableEq, Repr

namespace DateTime

/-- `from_ymd_opt` followed by `and_hms_nano_opt`. -/
def ofFields (year : ℤ) (month day hour minute second nano : ℕ) : Option DateTime :=
  if h : IsInstant year month day hour minute second nano then
    some ⟨year, month, day, hour, minute, second, nano, h⟩
  else none

/-- The day of the week, from 1 = Monday to 7 = Sunday. -/
def weekday (t : DateTime) : ℕ :=
  let shift := [0, 3, 2, 5, 0, 3, 5, 1, 4, 6, 2, 4].getD (t.month - 1) 0
  let y := if t.month < 3 then t.year - 1 else t.year
  let w := ((y + y / 4 - y / 100 + y / 400 + (shift : ℤ) + (t.day : ℤ)) % 7).toNat
  if w = 0 then 7 else w

example : (ofFields 2019 6 5 21 17 45 678000000).map weekday = some 3 := by decide

/-- The milliseconds of the second, at most 999 in a leap second. -/
def milli (t : DateTime) : ℕ := min (t.nano / NANOS_PER_MILLI) 999

theorem milli_le (t : DateTime) : t.milli ≤ 999 := Nat.min_le_right _ _

/-- The latest instant a tag can hold that is not after `t`: whole milliseconds,
and the last one of the minute for a leap second. -/
def truncated (t : DateTime) : DateTime where
  __ := t
  nano := t.milli * NANOS_PER_MILLI
  valid := by
    obtain ⟨hmonth, hday, hhour, hminute, hsecond, -⟩ := t.valid
    have hmilli := t.milli_le
    exact ⟨hmonth, hday, hhour, hminute, hsecond, .inl (by unfold NANOS_PER_MILLI; omega)⟩

end DateTime

/-! ### Zones -/

/-- The clock of the host and the rules of the zones other than UTC. -/
structure Host where
  /-- The instant the host's clock shows. -/
  now : DateTime
  /-- The wall clock reading of an instant. -/
  wall : TimeZone → DateTime → DateTime
  /-- The earliest instant with this wall clock reading. -/
  earliest : TimeZone → DateTime → Option DateTime
  /-- Seconds east of UTC at an instant. -/
  offsetSecs : TimeZone → DateTime → ℤ
  /-- The instant so many minutes later, when there is one. -/
  addMinutes : DateTime → ℤ → Option DateTime
  /-- The instant an hour earlier. -/
  hourBefore : DateTime → DateTime

/-- A host in UTC, whatever zone it is asked for. -/
def Host.utc (now : DateTime) : Host := ⟨now, fun _ t => t, fun _ t => some t, fun _ _ => 0,
  fun t _ => some t, fun t => t⟩

/-- The broken-down calendar fields of an instant. -/
structure Parts where
  year : ℤ
  month : ℕ
  day : ℕ
  weekday : ℕ
  hour : ℕ
  minute : ℕ
  second : ℕ
  milli : ℕ
  deriving DecidableEq, Repr

/-- The fields of a reading. -/
def Parts.split (t : DateTime) : Parts :=
  ⟨t.year, t.month, t.day, t.weekday, t.hour, t.minute, t.second, t.milli⟩

namespace TimeZone

variable (host : Host)

/-- The reading of an instant in a zone. -/
def reading (z : TimeZone) (t : DateTime) : DateTime :=
  match z with
  | .utc => t
  | _ => host.wall z t

/-- `TimeZone::parts`. -/
def parts (z : TimeZone) (t : DateTime) : Parts := .split (z.reading host t)

/-- `TimeZone::instant_from`. -/
def instantFrom (z : TimeZone) (year : ℤ) (month day hour minute second milli : ℕ) :
    Option DateTime :=
  if milli * NANOS_PER_MILLI < 2 ^ 32 then
    match DateTime.ofFields year month day hour minute second (milli * NANOS_PER_MILLI) with
    | none => none
    | some naive =>
      match z with
      | .utc => some naive
      | _ => host.earliest z naive
  else none

/-- `TimeZone::offset_secs`. -/
def offsetSecs (z : TimeZone) (t : DateTime) : ℤ :=
  match z with
  | .utc => 0
  | .fixed offset => offset
  | _ => host.offsetSecs z t

/-- `TimeZone::is_dst`: the offset differs from the smallest one of the year. -/
def isDst (z : TimeZone) (t : DateTime) : Bool :=
  match z with
  | .utc | .fixed _ => false
  | _ =>
    let year := (z.parts host t).year
    let at' (month : ℕ) := (DateTime.ofFields year month 1 0 0 0 0).map (z.offsetSecs host)
    match at' 1, at' 7 with
    | some jan, some jul => z.offsetSecs host t ≠ min jan jul
    | _, _ => false

/-- `TimeZone::resolve_summer_time`: the instant with the same reading that
agrees with the SU bit, if there is one. -/
def resolveSummerTime (z : TimeZone) (t : DateTime) (su : Bool) : DateTime :=
  if z.isDst host t = su then t
  else
    let wall := z.parts host t
    let agrees (minutes : ℤ) : Option DateTime :=
      match host.addMinutes t minutes with
      | none => none
      | some alt => if z.isDst host alt = su ∧ z.parts host alt = wall then some alt else none
    (([-60, 60, -30, 30, -120, 120] : List ℤ).findSome? agrees).getD t

/-- In UTC there is no summer time to resolve. -/
theorem resolveSummerTime_utc (t : DateTime) (su : Bool) :
    TimeZone.utc.resolveSummerTime host t su = t := by
  cases su with
  | false => rfl
  | true =>
    unfold resolveSummerTime
    rw [if_neg (by simp [isDst])]
    have hnone : ∀ m ∈ ([-60, 60, -30, 30, -120, 120] : List ℤ),
        (match host.addMinutes t m with
          | none => none
          | some alt =>
            if TimeZone.utc.isDst host alt = true ∧
              TimeZone.utc.parts host alt = TimeZone.utc.parts host t then some alt else none) =
          (none : Option DateTime) := by
      intro m _
      split
      · rfl
      · rw [if_neg]
        rintro ⟨h, -⟩
        cases h
    dsimp only
    rw [List.findSome?_eq_none_iff.mpr hnone]
    rfl

end TimeZone

/-! ### The tags -/

/-- The IV and SB flags of a time tag. -/
structure TimeTagFlags where
  invalid : Bool
  substituted : Bool
  deriving DecidableEq, Repr

namespace TimeTagFlags

/-- Neither invalid nor substituted. -/
def GOOD : TimeTagFlags := ⟨false, false⟩

/-- `TimeTagFlags::from_minutes_octet`. -/
def fromMinutesOctet (b : UInt8) : TimeTagFlags where
  invalid := b &&& 0x80 != 0
  substituted := b &&& 0x40 != 0

/-- `TimeTagFlags::minutes_bits`. -/
def minutesBits (f : TimeTagFlags) : UInt8 :=
  (if f.invalid then 0x80 else 0) ||| (if f.substituted then 0x40 else 0)

end TimeTagFlags

/-- Octet length of a CP56Time2a tag. -/
def CP56TIME2A_SIZE : ℕ := 7

/-- Octet length of a CP24Time2a tag. -/
def CP24TIME2A_SIZE : ℕ := 3

/-- Octet length of a CP16Time2a tag. -/
def CP16TIME2A_SIZE : ℕ := 2

section

variable (host : Host)

/-- `cp56time2a`. -/
def cp56time2a (t : Option DateTime) (zone : TimeZone) : Octets :=
  match t with
  | none => [0, 0, 0x80, 0, 0, 0, 0]
  | some t =>
    let p := zone.parts host t
    LittleEndian.encode 2 (p.milli + p.second * 1000) ++
      [p.minute.toUInt8, p.hour.toUInt8 ||| (if zone.isDst host t then 0x80 else 0),
        p.weekday.toUInt8 <<< 5 ||| p.day.toUInt8, p.month.toUInt8,
        ((p.year - 2000) % 100).toNat.toUInt8]

/-- `cp56time2a_tag`. -/
def cp56time2aTag (t : Option DateTime) (flags : TimeTagFlags) (zone : TimeZone) : Octets :=
  (cp56time2a host t zone).modify 2 (· ||| flags.minutesBits)

/-- `decode_cp56`. -/
def decodeCp56 (b : Octets) (zone : TimeZone) : Option DateTime :=
  let x := LittleEndian.decode (b.take 2)
  let at' (i : ℕ) : UInt8 := b.getD i 0
  let year : ℤ := 2000 + (at' 6 &&& 0x7f).toNat
  if year > 2099 then none
  else
    match zone.instantFrom host year (at' 5 &&& 0x0f).toNat (at' 4 &&& 0x1f).toNat
        (at' 3 &&& 0x1f).toNat (at' 2 &&& 0x3f).toNat (x / 1000) (x % 1000) with
    | none => none
    | some t => some (zone.resolveSummerTime host t (at' 3 &&& 0x80 != 0))

/-- `parse_cp56time2a`: only a time that can be trusted. -/
def parseCp56time2a (b : Octets) (zone : TimeZone) : Option DateTime :=
  if b.length < CP56TIME2A_SIZE ∨ b.getD 2 0 &&& 0x80 = 0x80 then none else decodeCp56 host b zone

/-- `parse_cp56time2a_tag`: the reading whatever its validity, with its flags. -/
def parseCp56time2aTag (b : Octets) (zone : TimeZone) : Option DateTime × TimeTagFlags :=
  if b.length < CP56TIME2A_SIZE then (none, .GOOD)
  else (decodeCp56 host b zone, .fromMinutesOctet (b.getD 2 0))

/-- `cp24time2a`. -/
def cp24time2a (t : Option DateTime) (zone : TimeZone) : Octets :=
  match t with
  | none => [0, 0, 0x80]
  | some t =>
    let p := zone.parts host t
    LittleEndian.encode 2 (p.milli + p.second * 1000) ++ [p.minute.toUInt8]

/-- `cp24time2a_tag`. -/
def cp24time2aTag (t : Option DateTime) (flags : TimeTagFlags) (zone : TimeZone) : Octets :=
  (cp24time2a host t zone).modify 2 (· ||| flags.minutesBits)

/-- `decode_cp24`: the date and the hour come from the host's clock, and a
minute well ahead of it belongs to the previous hour. -/
def decodeCp24 (b : Octets) (zone : TimeZone) : Option DateTime :=
  let x := LittleEndian.decode (b.take 2)
  let minute := (b.getD 2 0 &&& 0x3f).toNat
  let now := zone.parts host host.now
  match zone.instantFrom host now.year now.month now.day now.hour minute (x / 1000)
      (x % 1000) with
  | none => none
  | some val => if minute > now.minute + 5 then some (host.hourBefore val) else some val

/-- `parse_cp24time2a_tag`. -/
def parseCp24time2aTag (b : Octets) (zone : TimeZone) : Option DateTime × TimeTagFlags :=
  if b.length < CP24TIME2A_SIZE then (none, .GOOD)
  else (decodeCp24 host b zone, .fromMinutesOctet (b.getD 2 0))

end

/-- `cp16time2a`. -/
def cp16time2a (msec : UInt16) : Octets := LittleEndian.encode 2 msec.toNat

/-- `parse_cp16time2a`. -/
def parseCp16time2a (b : Octets) : UInt16 :=
  if b.length < CP16TIME2A_SIZE then 0 else .ofNat (LittleEndian.decode (b.take 2))

/-! ### Reading a tag back -/

theorem toNat_toUInt8 {n : ℕ} (h : n < 256) : n.toUInt8.toNat = n := by
  rw [Nat.toUInt8, UInt8.toNat_ofNat', Nat.mod_eq_of_lt h]

/-- A field of fewer bits than its octet, with the flags above it. -/
theorem minute_flags (f : TimeTagFlags) {n : ℕ} (h : n < 60) :
    ((n.toUInt8 ||| f.minutesBits) &&& 0x3f).toNat = n ∧
      TimeTagFlags.fromMinutesOctet (n.toUInt8 ||| f.minutesBits) = f := by
  obtain ⟨inv, sub⟩ := f
  have hall : ∀ b : UInt8, b < 60 → ∀ inv sub,
      (b ||| TimeTagFlags.minutesBits ⟨inv, sub⟩) &&& 0x3f = b ∧
        TimeTagFlags.fromMinutesOctet (b ||| TimeTagFlags.minutesBits ⟨inv, sub⟩) =
          ⟨inv, sub⟩ := by
    decide +kernel
  have hn := toNat_toUInt8 (show n < 256 by omega)
  have hlt : n.toUInt8 < 60 := UInt8.lt_iff_toNat_lt.mpr (by rw [hn]; exact h)
  obtain ⟨hmask, hflags⟩ := hall n.toUInt8 hlt inv sub
  exact ⟨by rw [hmask, hn], hflags⟩

/-- The hour stands below the SU bit. -/
theorem mask_hour (su : Bool) {n : ℕ} (h : n < 24) :
    ((n.toUInt8 ||| if su then 0x80 else 0) &&& 0x1f).toNat = n ∧
      ((n.toUInt8 ||| if su then 0x80 else 0) &&& 0x80 != 0) = su := by
  have hall : ∀ b : UInt8, b < 24 → ∀ su,
      (b ||| if su then 0x80 else 0) &&& 0x1f = b ∧
        ((b ||| if su then 0x80 else 0) &&& 0x80 != 0) = su := by
    decide +kernel
  have hn := toNat_toUInt8 (show n < 256 by omega)
  obtain ⟨hmask, hsu⟩ :=
    hall n.toUInt8 (UInt8.lt_iff_toNat_lt.mpr (by rw [hn]; exact h)) su
  exact ⟨by rw [hmask, hn], hsu⟩

/-- A mask on two fields of one octet. -/
theorem or_and_octet (x y z : UInt8) : (x ||| y) &&& z = (x &&& z) ||| (y &&& z) :=
  UInt8.toBitVec_inj.mp BitVec.and_or_distrib_right

/-- The day of the week stands above the day of the month. -/
theorem mask_day (w : UInt8) {n : ℕ} (h : n < 32) :
    ((w <<< 5 ||| n.toUInt8) &&& 0x1f).toNat = n := by
  have hall : ∀ w b : UInt8, b < 32 → (w <<< 5 ||| b) &&& 0x1f = b := by
    intro w b hb
    have hbits : ∀ b : UInt8, b < 32 → b &&& 0x1f = b := by decide +kernel
    have hzero : ∀ w : UInt8, w <<< 5 &&& 0x1f = 0 := by decide +kernel
    rw [or_and_octet, hzero w, hbits b hb, UInt8.zero_or]
  have hn := toNat_toUInt8 (show n < 256 by omega)
  rw [hall w n.toUInt8 (UInt8.lt_iff_toNat_lt.mpr (by rw [hn]; exact h)), hn]

theorem mask_month {n : ℕ} (h : n ≤ 12) : (n.toUInt8 &&& 0x0f).toNat = n := by
  have hall : ∀ b : UInt8, b ≤ 12 → b &&& 0x0f = b := by decide +kernel
  have hn := toNat_toUInt8 (show n < 256 by omega)
  rw [hall n.toUInt8 (UInt8.le_iff_toNat_le.mpr (by rw [hn]; exact h)), hn]

theorem mask_year {n : ℕ} (h : n < 100) : (n.toUInt8 &&& 0x7f).toNat = n := by
  have hall : ∀ b : UInt8, b < 100 → b &&& 0x7f = b := by decide +kernel
  have hn := toNat_toUInt8 (show n < 256 by omega)
  rw [hall n.toUInt8 (UInt8.lt_iff_toNat_lt.mpr (by rw [hn]; exact h)), hn]

namespace DateTime

/-- The years a tag can name. -/
def InCentury (t : DateTime) : Prop := 2000 ≤ t.year ∧ t.year ≤ 2099

instance (t : DateTime) : Decidable t.InCentury := inferInstanceAs (Decidable (_ ∧ _))

theorem day_lt (t : DateTime) : t.day < 32 := by
  obtain ⟨-, ⟨-, hday⟩, -⟩ := t.valid
  have hdays : daysInMonth t.year t.month ≤ 31 := by
    unfold daysInMonth
    split <;> try split
    all_goals omega
  omega

/-- The milliseconds of the minute take two octets. -/
theorem msec_lt (t : DateTime) : t.milli + t.second * 1000 < 60000 := by
  obtain ⟨-, -, -, -, hsecond, -⟩ := t.valid
  have hmilli := t.milli_le
  omega

theorem ofFields_truncated (t : DateTime) :
    ofFields t.year t.month t.day t.hour t.minute t.second (t.milli * NANOS_PER_MILLI) =
      some t.truncated := by
  unfold ofFields
  exact dif_pos t.truncated.valid

end DateTime

section

variable (host : Host)

@[simp] theorem length_cp56time2aTag (t : Option DateTime) (flags : TimeTagFlags)
    (zone : TimeZone) : (cp56time2aTag host t flags zone).length = CP56TIME2A_SIZE := by
  cases t <;> rfl

@[simp] theorem length_cp24time2aTag (t : Option DateTime) (flags : TimeTagFlags)
    (zone : TimeZone) : (cp24time2aTag host t flags zone).length = CP24TIME2A_SIZE := by
  cases t <;> rfl

/-- The octets of a tag. -/
theorem cp56time2aTag_some (t : DateTime) (flags : TimeTagFlags) (z : TimeZone) :
    cp56time2aTag host (some t) flags z =
      LittleEndian.encode 2 ((z.reading host t).milli + (z.reading host t).second * 1000) ++
        [(z.reading host t).minute.toUInt8 ||| flags.minutesBits,
          (z.reading host t).hour.toUInt8 ||| (if z.isDst host t then 0x80 else 0),
          (z.reading host t).weekday.toUInt8 <<< 5 ||| (z.reading host t).day.toUInt8,
          (z.reading host t).month.toUInt8,
          (((z.reading host t).year - 2000) % 100).toNat.toUInt8] := rfl

/-- The milliseconds of the minute are read back as seconds and milliseconds. -/
theorem DateTime.decode_msec (t : DateTime) :
    ∃ lo hi, LittleEndian.encode 2 (t.milli + t.second * 1000) = [lo, hi] ∧
      LittleEndian.decode [lo, hi] / 1000 = t.second ∧
      LittleEndian.decode [lo, hi] % 1000 = t.milli := by
  have hmsec := t.msec_lt
  have hmilli := t.milli_le
  have hx : LittleEndian.decode (LittleEndian.encode 2 (t.milli + t.second * 1000)) =
      t.milli + t.second * 1000 := LittleEndian.decode_encode (by omega)
  obtain ⟨lo, hi, henc⟩ :
      ∃ lo hi, LittleEndian.encode 2 (t.milli + t.second * 1000) = [lo, hi] := ⟨_, _, rfl⟩
  rw [henc] at hx
  exact ⟨lo, hi, henc, by omega, by omega⟩

/-- The calendar fields of a tag are those of the reading it was made from. -/
theorem decodeCp56_tag {t : DateTime} {z : TimeZone} (ht : (z.reading host t).InCentury)
    (flags : TimeTagFlags) :
    decodeCp56 host (cp56time2aTag host (some t) flags z) z =
      (z.instantFrom host (z.reading host t).year (z.reading host t).month
        (z.reading host t).day (z.reading host t).hour (z.reading host t).minute
        (z.reading host t).second (z.reading host t).milli).map
          fun u => z.resolveSummerTime host u (z.isDst host t) := by
  rw [cp56time2aTag_some]
  -- Each octet carries a field and some flags, and the masks take the field out.
  obtain ⟨hmonth, -, hhour, hminute, -⟩ := (z.reading host t).valid
  obtain ⟨hlo, hhi⟩ := ht
  obtain ⟨lo, hi, henc, hsec, hmilli⟩ := (z.reading host t).decode_msec
  obtain ⟨hmask, hsu⟩ := mask_hour (z.isDst host t) hhour
  have hyear : (2000 + ((((z.reading host t).year - 2000) % 100).toNat : ℤ)) =
      (z.reading host t).year := by omega
  rw [henc, decodeCp56]
  simp only [List.cons_append, List.nil_append, List.take_succ_cons, List.take_zero,
    List.getD_cons_zero, List.getD_cons_succ, hsec, hmilli, (minute_flags flags hminute).1,
    hmask, hsu, mask_day (z.reading host t).weekday.toUInt8 (z.reading host t).day_lt,
    mask_month hmonth.2,
    mask_year (show (((z.reading host t).year - 2000) % 100).toNat < 100 by omega), hyear]
  rw [if_neg (by omega)]
  cases z.instantFrom host (z.reading host t).year (z.reading host t).month
    (z.reading host t).day (z.reading host t).hour (z.reading host t).minute
    (z.reading host t).second (z.reading host t).milli with
  | none => rfl
  | some u => rfl

/-- The calendar fields of a tag in UTC, whatever its flags. -/
theorem decodeCp56_cp56time2aTag {t : DateTime} (ht : t.InCentury) (flags : TimeTagFlags) :
    decodeCp56 host (cp56time2aTag host (some t) flags .utc) .utc = some t.truncated := by
  have hmilli := t.milli_le
  have hinstant : TimeZone.utc.instantFrom host t.year t.month t.day t.hour t.minute t.second
      t.milli = some t.truncated := by
    rw [TimeZone.instantFrom, if_pos (by unfold NANOS_PER_MILLI; omega), t.ofFields_truncated]
  rw [decodeCp56_tag host (z := .utc) ht]
  show Option.map _ (TimeZone.utc.instantFrom host t.year t.month t.day t.hour t.minute t.second
    t.milli) = _
  rw [hinstant, Option.map_some, TimeZone.resolveSummerTime_utc]

/-- A tag whose month is 0 holds no time. -/
theorem decodeCp56_noTime (b : UInt8) : decodeCp56 host [0, 0, b, 0, 0, 0, 0] .utc = none := by
  have hnot (minute second nano : ℕ) : ¬IsInstant 2000 0 0 0 minute second nano := by
    rintro ⟨⟨hmonth, -⟩, -⟩
    omega
  simp [decodeCp56, TimeZone.instantFrom, DateTime.ofFields, hnot]

theorem minutesBits_invalid (f : TimeTagFlags) :
    TimeTagFlags.fromMinutesOctet (0x80 ||| f.minutesBits) = { f with invalid := true } := by
  obtain ⟨inv, sub⟩ := f
  cases inv <;> cases sub <;> rfl

/-- **A tag in UTC is read back to the millisecond, with its flags.**  A missing
time is read back as missing and marked invalid. -/
theorem parseCp56time2aTag_cp56time2aTag {t : Option DateTime}
    (ht : ∀ t' ∈ t, DateTime.InCentury t') (flags : TimeTagFlags) :
    parseCp56time2aTag host (cp56time2aTag host t flags .utc) .utc =
      (t.map DateTime.truncated, if t.isSome then flags else { flags with invalid := true }) := by
  unfold parseCp56time2aTag
  rw [if_neg (by rw [length_cp56time2aTag]; omega)]
  cases t with
  | none =>
    have htag : cp56time2aTag host none flags .utc =
        [0, 0, 0x80 ||| flags.minutesBits, 0, 0, 0, 0] := rfl
    rw [htag, decodeCp56_noTime]
    exact congrArg _ (minutesBits_invalid flags)
  | some t =>
    obtain ⟨-, -, -, hminute, -⟩ := t.valid
    rw [decodeCp56_cp56time2aTag host (ht t rfl) flags]
    exact congrArg _ (minute_flags flags hminute).2

/-- A clock synchronization is read back to the millisecond. -/
theorem parseCp56time2a_cp56time2a {t : DateTime} (ht : t.InCentury) :
    parseCp56time2a host (cp56time2a host (some t) .utc) .utc = some t.truncated := by
  obtain ⟨-, -, -, hminute, -⟩ := t.valid
  have hgood : cp56time2aTag host (some t) .GOOD .utc = cp56time2a host (some t) .utc := by
    show [_, _, t.minute.toUInt8 ||| TimeTagFlags.minutesBits .GOOD, _, _, _, _] = _
    rw [show TimeTagFlags.minutesBits .GOOD = 0 from rfl, UInt8.or_zero]
    rfl
  have hiv : ∀ b : UInt8, b < 60 → ¬b &&& 0x80 = 0x80 := by decide +kernel
  have hn := toNat_toUInt8 (show t.minute < 256 by omega)
  unfold parseCp56time2a
  rw [if_neg, ← hgood, decodeCp56_cp56time2aTag host ht]
  rintro (hlen | h)
  · exact absurd hlen (by rw [← hgood, length_cp56time2aTag]; omega)
  · exact hiv t.minute.toUInt8 (UInt8.lt_iff_toNat_lt.mpr (by rw [hn]; exact hminute)) h

end

theorem parseCp16time2a_cp16time2a (msec : UInt16) : parseCp16time2a (cp16time2a msec) = msec := by
  have hlt := msec.toNat_lt
  have hdecode : LittleEndian.decode (LittleEndian.encode 2 msec.toNat) = msec.toNat :=
    LittleEndian.decode_encode (by omega)
  have htake : (cp16time2a msec).take 2 = LittleEndian.encode 2 msec.toNat := rfl
  unfold parseCp16time2a
  rw [if_neg (by rw [cp16time2a, LittleEndian.length_encode]; exact Nat.lt_irrefl 2), htake,
    hdecode,
    UInt16.ofNat_toNat]

end Iec60870
