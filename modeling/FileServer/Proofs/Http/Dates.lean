import FileServer.Http.Date
import FileServer.Proofs.Text.Readers

/-!
# Dates are read back

What is written as the date of a point of time is read as this point of time. Each reader takes off
the front of a text what the writer has put there, whatever follows; the fields of the date are
within their ranges until the year 10000.

* `ofDays_bounds`: the ranges of the fields of a date;
* `fixedForm_render`, `parse?_render`: a date is read back.
-/

namespace FileServer

/-! ## The ranges of a date -/

namespace Date

/-- The days that count from the first of January 1970 up to the year 10000. -/
def daysBefore10000 : Nat := 2932897

theorem ofMarch_bounds {year march day : Nat} (hmarch : march < 12) (hday : day < 31)
    (hfirst : 1970 ≤ year ∨ year = 1969 ∧ 10 ≤ march)
    (hlast : year < 9999 ∨ year = 9999 ∧ march < 10) :
    let date := ofMarch year march day
    1970 ≤ date.year ∧ date.year ≤ 9999 ∧ 1 ≤ date.month ∧ date.month ≤ 12 ∧
      1 ≤ date.day ∧ date.day ≤ 31 := by
  unfold ofMarch
  split
  · simp only
    omega
  · simp only
    omega

theorem day_lt (day : Nat) : day - daysBeforeMonth (monthOfYear day) < 31 := by
  unfold monthOfYear daysBeforeMonth
  omega

/-- The fields of a date before the year 10000 are within their ranges. -/
theorem ofDays_bounds {n : Nat} (h : n < daysBefore10000) :
    1970 ≤ (ofDays n).year ∧ (ofDays n).year ≤ 9999 ∧ 1 ≤ (ofDays n).month ∧
      (ofDays n).month ≤ 12 ∧ 1 ≤ (ofDays n).day ∧ (ofDays n).day ≤ 31 := by
  have hera := Nat.div_add_mod (epoch + n) 146097
  have hday : (epoch + n) % 146097 < 146097 := Nat.mod_lt _ (by decide)
  unfold ofDays
  simp only
  generalize (epoch + n) / 146097 = era at *
  generalize (epoch + n) % 146097 = day at *
  obtain ⟨hyear, hle, hlt⟩ := yearOfEra_spec hday
  generalize yearOfEra day = year at *
  have hmonth := (monthOfYear_spec hlt).1
  refine ofMarch_bounds hmonth (day_lt _) ?_ ?_
  · clear hmonth
    unfold monthOfYear epoch daysBeforeYear at *
    have hfour : 4 ≤ era := by omega
    obtain rfl | hfive : era = 4 ∨ 5 ≤ era := by omega
    · omega
    · omega
  · clear hmonth
    unfold monthOfYear epoch daysBeforeYear daysBefore10000 at *
    have hlast : era ≤ 24 := by omega
    obtain rfl | hless : era = 24 ∨ era < 24 := by omega
    · omega
    · omega

end Date

namespace HttpDate

open Reader

variable {n : Nat}

theorem inRange_ofSeconds (h : n < secondsBefore10000) : (Fields.ofSeconds n).inRange := by
  have hdays : n / 86400 < Date.daysBefore10000 := by
    unfold secondsBefore10000 at h
    unfold Date.daysBefore10000
    omega
  obtain ⟨hfirst, hlast, hmonth, hmonthle, hday, hdayle⟩ := Date.ofDays_bounds hdays
  have hsecond : n % 60 < 60 := Nat.mod_lt _ (by decide)
  have hminute : n % 3600 / 60 < 60 := by omega
  have hhour : n % 86400 / 3600 < 24 := by omega
  simp [Fields.inRange, Fields.ofSeconds, DateTime.ofSeconds, *]

/-! ## The fixed form -/

theorem month_monthName {m : Nat} (hm : 1 ≤ m) (hm' : m ≤ 12) (rest : Text) :
    month (monthName m ++ rest) = some (m, rest) := by
  have hlength : m - 1 < monthNames.length := by
    simp only [monthNames, List.length_cons, List.length_nil]
    omega
  have hread := @oneOf_getD monthNames 3 (by decide) (by decide) (m - 1) hlength rest
  rw [month, monthName, map_of_eq hread, Nat.sub_add_cancel hm]

theorem timeOn_clock {t : DateTime} (hhour : t.hour < 100) (hminute : t.minute < 100)
    (hsecond : t.second < 100) (rest : Text) :
    timeOn t.date (t.clock ++ rest) = some (t, rest) := by
  simp only [timeOn, DateTime.clock, List.append_assoc]
  rw [bind_of_eq (number_padded (by decide) hhour _), bind_of_eq (literal_append _ _),
    bind_of_eq (number_padded (by decide) hminute _), bind_of_eq (literal_append _ _),
    bind_of_eq (number_padded (by decide) hsecond _)]
  rfl

/-- A date is taken off the front of a text that goes on. -/
theorem fixedForm_render (h : n < secondsBefore10000) (rest : Text) :
    fixedForm (render n ++ rest) = some (.ofSeconds n, rest) := by
  have hrange := inRange_ofSeconds h
  simp only [Fields.inRange, Bool.and_eq_true, decide_eq_true_eq, and_assoc] at hrange
  obtain ⟨hsecond, hminute, hhour, -, hday, hmonth, hmonth', -, hyear⟩ := hrange
  have hweekday : (Fields.ofSeconds n).weekday < shortWeekdays.length :=
    Nat.mod_lt _ (by decide)
  have hname := @oneOf_getD shortWeekdays 3 (by decide) (by decide) _ hweekday
  simp only [render, fixedForm, List.append_assoc]
  generalize Fields.ofSeconds n = fields at *
  rw [bind_of_eq (hname _), bind_of_eq (literal_append _ _),
    bind_of_eq (number_padded (by decide) (by omega) _), bind_of_eq (literal_append _ _),
    bind_of_eq (month_monthName hmonth hmonth' _), bind_of_eq (literal_append _ _),
    bind_of_eq (number_padded (by decide) (by omega) _), bind_of_eq (literal_append _ _),
    bind_of_eq (timeOn_clock (by omega) (by omega) (by omega) _),
    bind_of_eq (literal_append _ _)]
  rfl

/-! ## Dates as texts -/

/-- The characters of a date that are no digits. -/
def signs : Text := (shortWeekdays ++ monthNames).flatten ++ ",: GMT".toList

/-- Whether a text consists of digits, of the letters of names and of signs. -/
def IsDateText (t : Text) : Prop := ∀ c ∈ t, c.isDigit ∨ c ∈ signs

instance (t : Text) : Decidable (IsDateText t) := List.decidableBAll _ t

theorem isDateText_append {s t : Text} : IsDateText (s ++ t) ↔ IsDateText s ∧ IsDateText t :=
  List.forall_mem_append

theorem isDateText_padded (width k : Nat) : IsDateText (Decimal.padded width k) :=
  fun _ hc => .inl (Decimal.isDigit_of_mem_padded hc)

theorem isDateText_getD {names : List Text} (h : names.flatten ⊆ signs) (k : Nat) :
    IsDateText (names.getD k []) := by
  rw [List.getD_eq_getElem?_getD]
  cases hname : names[k]? with
  | none => exact List.forall_mem_nil _
  | some name =>
    exact fun c hc => .inr (h (List.mem_flatten.2 ⟨name, List.mem_of_getElem? hname, hc⟩))

theorem isDateText_render (n : Nat) : IsDateText (render n) := by
  have hday : ∀ k, IsDateText (shortWeekdays.getD k []) := isDateText_getD (by decide)
  have hmonth : ∀ k, IsDateText (monthName k) := fun k => isDateText_getD (by decide) _
  have hspace : IsDateText [' '] := by decide
  have hcolon : IsDateText [':'] := by decide
  have hcomma : IsDateText ", ".toList := by decide
  have hzone : IsDateText " GMT".toList := by decide
  simp only [render, DateTime.clock, isDateText_append, hday, hmonth, hspace, hcolon, hcomma,
    hzone, isDateText_padded, and_self]

/-- A date begins with a letter and ends with one. -/
theorem exists_render_eq (n : Nat) :
    ∃ c between, render n = c :: (between ++ ['T']) ∧ Text.isBlank c = false := by
  have hfirst : ∀ k < 7, ((shortWeekdays.getD k []).head?.map Text.isBlank) = some false := by
    decide
  have hk : (Fields.ofSeconds n).weekday < 7 := Nat.mod_lt _ (by decide)
  have hzone : " GMT".toList = " GM".toList ++ ['T'] := rfl
  simp only [render]
  have := hfirst _ hk
  cases hname : shortWeekdays.getD (Fields.ofSeconds n).weekday [] with
  | nil => rw [hname] at this; cases this
  | cons c name =>
    rw [hname] at this
    rw [hzone, ← List.append_assoc]
    exact ⟨c, _, rfl, Option.some.inj this⟩

/-- A date can be the value of a field: there is nothing at its ends that reading strips. -/
theorem trimEnd_render (n : Nat) : Text.trimEnd (render n) = render n := by
  obtain ⟨c, between, hrender, -⟩ := exists_render_eq n
  have hlast : Text.isBlank 'T' = false := by decide
  rw [hrender, Text.trimEnd, ← List.cons_append, List.reverse_append, List.reverse_singleton,
    List.singleton_append, List.dropWhile_cons_of_neg (by simp [hlast]), List.reverse_cons,
    List.reverse_reverse]

theorem dropWhile_render {p : Char → Bool} (hp : ∀ c, p c → Text.isBlank c) (n : Nat) :
    (render n).dropWhile p = render n := by
  obtain ⟨c, between, hrender, hc⟩ := exists_render_eq n
  rw [hrender, List.dropWhile_cons_of_neg fun h => by simp [hp c h] at hc]

/-- A date is read back. -/
theorem parse?_render (h : n < secondsBefore10000) : parse? (render n) = some n := by
  have hascii : (render n).all fun c => c.toNat < 128 := by
    refine List.all_eq_true.2 fun c hc => decide_eq_true ?_
    have hsigns : signs.all fun c => c.toNat < 128 := by decide
    obtain hdigit | hsign := isDateText_render n c hc
    · simp only [Char.isDigit, Bool.and_eq_true, decide_eq_true_eq] at hdigit
      exact Nat.lt_of_le_of_lt (UInt32.le_iff_toNat_le.1 hdigit.2) (by decide)
    · exact of_decide_eq_true (List.all_eq_true.1 hsigns c hsign)
  have htrim : Text.trim (render n) = render n := by
    rw [Text.trim, dropWhile_render fun _ => id, trimEnd_render]
  have hread : readAll fixedForm (render n) = some (.ofSeconds n) := by
    have := fixedForm_render h []
    rw [List.append_nil] at this
    rw [readAll, this]
  rw [parse?, if_pos hascii]
  simp only [htrim, hread]
  exact Fields.asSeconds?_of_seconds (inRange_ofSeconds h)

end HttpDate

end FileServer
