import FileServer.Text.Decimal

/-!
# The calendar

Dates of the Gregorian calendar as days since the first of January 1970. A year is counted from
March here, so that the leap day is its last day and every month but the last has a fixed length.

* `Date.toDays_ofDays`, `DateTime.toSeconds_ofSeconds`: a number of days is recovered from its
  date, and a number of seconds from its point of time;
* `Date.ofDays_add_era`, `DateTime.ofSeconds_add_era`: the calendar repeats itself every 400 years.
-/

namespace FileServer

/-- A date; January is month 1. -/
structure Date where
  year : Nat
  month : Nat
  day : Nat
  deriving DecidableEq, Repr

namespace Date

/-- The days from the first of March of the year 0 to the first of January 1970. -/
def epoch : Nat := 719468

/-- The days of an era of 400 years before one of its years begins. -/
def daysBeforeYear (year : Nat) : Nat := 365 * year + year / 4 - year / 100

/-- The days of a year before one of its months begins; March is month 0. -/
def daysBeforeMonth (march : Nat) : Nat := (153 * march + 2) / 5

/-- The year of a day of an era. A full century has 36524 days, four full years have 1461 and a
full year has 365; the leap day at the end of four years or of the era opens no new year. -/
def yearOfEra (day : Nat) : Nat :=
  let century := min (day / 36524) 3
  let day := day - century * 36524
  century * 100 + day / 1461 * 4 + min (day % 1461 / 365) 3

/-- The month of a day of a year; March is month 0. -/
def monthOfYear (day : Nat) : Nat := (5 * day + 2) / 153

/-- The date of a day of a month of a year; March is month 0, and a day is counted from 0. -/
def ofMarch (year march day : Nat) : Date :=
  if march < 10 then ⟨year, march + 3, day + 1⟩ else ⟨year + 1, march - 9, day + 1⟩

/-- The date a number of days after the first of January 1970. -/
def ofDays (n : Nat) : Date :=
  let era := (epoch + n) / 146097
  let day := (epoch + n) % 146097
  let year := yearOfEra day
  let day := day - daysBeforeYear year
  let march := monthOfYear day
  ofMarch (era * 400 + year) march (day - daysBeforeMonth march)

/-- The days from the first of January 1970 to a date that does not lie before it. -/
def toDays (date : Date) : Nat :=
  let year := if date.month ≤ 2 then date.year - 1 else date.year
  let march := if date.month ≤ 2 then date.month + 9 else date.month - 3
  year / 400 * 146097 + daysBeforeYear (year % 400) + daysBeforeMonth march + (date.day - 1) - epoch

/-- The day of the week a number of days after the first of January 1970, a Thursday. Sunday is
day 0. -/
def weekday (days : Nat) : Nat := (days + 4) % 7

end Date

/-- The three letters of a month; January is month 1. -/
def monthNames : List Text :=
  ["Jan".toList, "Feb".toList, "Mar".toList, "Apr".toList, "May".toList, "Jun".toList,
    "Jul".toList, "Aug".toList, "Sep".toList, "Oct".toList, "Nov".toList, "Dec".toList]

/-- The name of a month. -/
def monthName (month : Nat) : Text := monthNames.getD (month - 1) []

/-- A day and a time of that day. -/
structure DateTime where
  date : Date
  hour : Nat
  minute : Nat
  second : Nat
  deriving DecidableEq, Repr

namespace DateTime

/-- The point of time a number of seconds after the beginning of 1970. -/
def ofSeconds (n : Nat) : DateTime :=
  ⟨.ofDays (n / 86400), n % 86400 / 3600, n % 3600 / 60, n % 60⟩

/-- The seconds from the beginning of 1970 to a point of time. -/
def toSeconds (t : DateTime) : Nat :=
  t.date.toDays * 86400 + t.hour * 3600 + t.minute * 60 + t.second

/-- The seconds of an era of 400 years. -/
def secondsPerEra : Nat := 146097 * 86400

/-- The time of day as `hh:mm:ss`. -/
def clock (t : DateTime) : Text :=
  Decimal.padded 2 t.hour ++ [':'] ++ Decimal.padded 2 t.minute ++ [':'] ++
    Decimal.padded 2 t.second

end DateTime

/-! ## Days and dates -/

namespace Date

theorem quarter_spec {day : Nat} (h : day < 1461) :
    min (day / 365) 3 * 365 ≤ day ∧ day - min (day / 365) 3 * 365 < 366 := by
  omega

theorem century_spec {day : Nat} (h : day < 146097) :
    min (day / 36524) 3 * 36524 ≤ day ∧ day - min (day / 36524) 3 * 36524 < 36525 := by
  omega

theorem yearOfEra_spec {day : Nat} (h : day < 146097) :
    yearOfEra day < 400 ∧ daysBeforeYear (yearOfEra day) ≤ day ∧
      day - daysBeforeYear (yearOfEra day) < 366 := by
  unfold yearOfEra
  obtain ⟨hcle, hclt⟩ := century_spec h
  have hc3 : min (day / 36524) 3 ≤ 3 := Nat.min_le_right _ _
  simp only
  generalize min (day / 36524) 3 = c at *
  obtain ⟨rest, rfl⟩ : ∃ rest, day = c * 36524 + rest := ⟨_, (Nat.add_sub_of_le hcle).symm⟩
  rw [Nat.add_sub_cancel_left] at *
  have hmod : rest % 1461 < 1461 := Nat.mod_lt _ (by decide)
  have hrest := Nat.div_add_mod rest 1461
  have hq : rest / 1461 ≤ 24 := Nat.le_of_lt_succ (Nat.div_lt_of_lt_mul hclt)
  obtain ⟨hyle, hylt⟩ := quarter_spec hmod
  have hy3 : min (rest % 1461 / 365) 3 ≤ 3 := Nat.min_le_right _ _
  generalize min (rest % 1461 / 365) 3 = y at *
  generalize rest / 1461 = q at *
  generalize rest % 1461 = t at *
  have hdiv : (c * 100 + q * 4 + y) / 4 = c * 25 + q := by omega
  have hdiv100 : (c * 100 + q * 4 + y) / 100 = c := by omega
  rw [daysBeforeYear, hdiv, hdiv100]
  omega

theorem monthOfYear_spec {day : Nat} (h : day < 366) :
    monthOfYear day < 12 ∧ daysBeforeMonth (monthOfYear day) ≤ day := by
  unfold monthOfYear daysBeforeMonth
  omega

theorem toDays_ofMarch {year march : Nat} (h : march < 12) (day : Nat) :
    (ofMarch year march day).toDays =
      year / 400 * 146097 + daysBeforeYear (year % 400) + daysBeforeMonth march + day - epoch := by
  unfold ofMarch toDays
  split
  · simp
  · have : march - 9 ≤ 2 := by omega
    simp [this, show march - 9 + 9 = march by omega]

/-- A number of days is recovered from its date. -/
theorem toDays_ofDays (n : Nat) : (ofDays n).toDays = n := by
  have hday : (epoch + n) % 146097 < 146097 := Nat.mod_lt _ (by decide)
  obtain ⟨hyear, hle, hlt⟩ := yearOfEra_spec hday
  obtain ⟨hmonth, hmle⟩ := monthOfYear_spec hlt
  have hera : ∀ era, (era * 400 + yearOfEra ((epoch + n) % 146097)) / 400 = era := by omega
  have hrest : ∀ era, (era * 400 + yearOfEra ((epoch + n) % 146097)) % 400 =
      yearOfEra ((epoch + n) % 146097) := by omega
  unfold ofDays
  rw [toDays_ofMarch hmonth, hera, hrest]
  have := Nat.div_add_mod (epoch + n) 146097
  omega

theorem ofMarch_add_year (year more march day : Nat) :
    ofMarch (year + more) march day =
      { ofMarch year march day with year := (ofMarch year march day).year + more } := by
  unfold ofMarch
  split
  · rfl
  · rw [Nat.add_right_comm]

/-- The calendar repeats itself every 400 years. -/
theorem ofDays_add_era (n k : Nat) :
    ofDays (n + 146097 * k) = { ofDays n with year := (ofDays n).year + 400 * k } := by
  have hday : (epoch + (n + 146097 * k)) % 146097 = (epoch + n) % 146097 := by omega
  have hera : (epoch + (n + 146097 * k)) / 146097 = (epoch + n) / 146097 + k := by omega
  have hyear : ∀ era year : Nat, (era + k) * 400 + year = era * 400 + year + 400 * k := by
    omega
  unfold ofDays
  simp only
  rw [hday, hera, hyear, ofMarch_add_year]

end Date

namespace DateTime

/-- A number of seconds is recovered from its point of time. -/
theorem toSeconds_ofSeconds (n : Nat) : (ofSeconds n).toSeconds = n := by
  simp only [toSeconds, ofSeconds, Date.toDays_ofDays]
  omega

theorem ofSeconds_add_era (n k : Nat) :
    ofSeconds (n + secondsPerEra * k) = { ofSeconds n with
      date := { (ofSeconds n).date with year := (ofSeconds n).date.year + 400 * k } } := by
  have hdays : (n + secondsPerEra * k) / 86400 = n / 86400 + 146097 * k := by
    unfold secondsPerEra
    omega
  have hclock : (n + secondsPerEra * k) % 86400 = n % 86400 := by
    unfold secondsPerEra
    omega
  have hhour : (n + secondsPerEra * k) % 3600 = n % 3600 := by omega
  have hminute : (n + secondsPerEra * k) % 60 = n % 60 := by omega
  simp only [ofSeconds, hdays, Date.ofDays_add_era, hclock, hhour, hminute]

end DateTime

end FileServer
