import Mathlib.Tactic.IntervalCases
import TrayIndicator.Calendar

/-!
# Moments by their texts

Every day has a date of its own, and the texts of a date and of a time of day tell the
second again. A year may have more than four digits; the other parts always have two.
-/

namespace TrayIndicator.Calendar

section Digits

/-- The characters of a number with at least so many digits. -/
theorem toList_padded (width number : Nat) :
    (padded width number).toList =
      List.replicate (width - (Nat.toDigits 10 number).length) '0' ++ Nat.toDigits 10 number := by
  rw [padded, String.toList_append, String.toList_ofList, Nat.toString_eq_repr,
    Nat.toList_repr, ← String.length_toList, Nat.toList_repr]

/-- Zeros in front do not change a number. -/
theorem padded_injective {width first second : Nat}
    (h : (padded width first).toList = (padded width second).toList) : first = second := by
  have hvalue : ∀ number, Nat.ofDigitChars 10 (padded width number).toList 0 = number := by
    intro number
    rw [toList_padded, Nat.ofDigitChars_append, Nat.ofDigitChars_replicate_zero, Nat.mul_zero,
      Nat.ofDigitChars_ten_toDigits]
  rw [← hvalue first, h, hvalue]

/-- A number below a hundred has two digits, if zeros are put in front. -/
theorem length_padded_two {number : Nat} (h : number < 100) :
    (padded 2 number).toList.length = 2 := by
  have hdigits : (Nat.toDigits 10 number).length ≤ 2 :=
    (Nat.length_toDigits_le_iff (by decide) (by decide)).mpr h
  rw [toList_padded, List.length_append, List.length_replicate]
  omega

/-- All characters of a number are digits. -/
theorem isDigit_of_mem_padded {width number : Nat} {c : Char}
    (h : c ∈ (padded width number).toList) : c.isDigit = true := by
  rw [toList_padded, List.mem_append] at h
  rcases h with hzero | hdigit
  · rw [List.eq_of_mem_replicate hzero]
    rfl
  · exact Nat.isDigit_of_mem_toDigits (by decide) (by decide) hdigit

end Digits

section Dates

/-- The year of a day of a period, counted from March. -/
def yearOf (inPeriod : Nat) : Nat :=
  (inPeriod - inPeriod / 1460 + inPeriod / 36524 - inPeriod / 146096) / 365

/-- The days of a period before a year. -/
def daysBefore (year : Nat) : Nat := 365 * year + year / 4 - year / 100

/-- The year of a day begins no later than the day, and ends no earlier. -/
theorem yearOf_bounds {inPeriod : Nat} (h : inPeriod < daysOfPeriod) :
    yearOf inPeriod < 400 ∧ daysBefore (yearOf inPeriod) ≤ inPeriod ∧
      inPeriod ≤ daysBefore (yearOf inPeriod) + 365 := by
  rw [daysOfPeriod] at h
  have hyear : yearOf inPeriod =
    (inPeriod - inPeriod / 1460 + inPeriod / 36524 - inPeriod / 146096) / 365 := rfl
  unfold daysBefore
  generalize yearOf inPeriod = year at *
  have hfour : 1460 * (inPeriod / 1460) ≤ inPeriod ∧
      inPeriod < 1460 * (inPeriod / 1460) + 1460 := by
    omega
  -- the century of the year is that of the day, but for the last day of the period
  have hcentury : year / 100 = inPeriod / 36524 - inPeriod / 146096 := by
    have hbound : inPeriod / 36524 ≤ 4 := by omega
    have hlast : inPeriod / 146096 ≤ 1 := by omega
    generalize hc : inPeriod / 36524 = century at *
    generalize hl : inPeriod / 146096 = last at *
    interval_cases century <;> interval_cases last <;> omega
  -- of every four years the day count skips one day for the leap day
  have hleap : year / 4 ≤ inPeriod / 1460 ∧ inPeriod / 1460 ≤ year / 4 + 1 := by
    have hbound : inPeriod / 36524 ≤ 4 := by omega
    have hlast : inPeriod / 146096 ≤ 1 := by omega
    have hskipped : inPeriod / 1460 ≤ 100 := by omega
    constructor
    · omega
    · omega
  omega

/-- The date of a day, given by its period, year and day of the year, counted from March. -/
def dateIn (period year inYear : Nat) : Date :=
  let fromMarch := (5 * inYear + 2) / 153
  let month := if fromMarch < 10 then fromMarch + 3 else fromMarch - 9
  ⟨period * 400 + year + (if month ≤ 2 then 1 else 0), month,
    inYear - (153 * fromMarch + 2) / 5 + 1⟩

/-- A date tells its period, year and day of the year. -/
theorem dateIn_injective {period period' year year' inYear inYear' : Nat}
    (hyear : year < 400) (hyear' : year' < 400) (hday : inYear ≤ 365) (hday' : inYear' ≤ 365)
    (h : dateIn period year inYear = dateIn period' year' inYear') :
    period = period' ∧ year = year' ∧ inYear = inYear' := by
  simp only [dateIn, Date.mk.injEq] at h
  obtain ⟨hyears, hmonths, hdays⟩ := h
  have hmonth : (5 * inYear + 2) / 153 = (5 * inYear' + 2) / 153 := by
    split at hmonths <;> split at hmonths <;> omega
  rw [hmonth] at hyears hdays
  have hsame : inYear = inYear' := by omega
  refine ⟨?_, ?_, hsame⟩ <;> omega

/-- Every day lies in a period and a year. -/
theorem exists_dateIn (days : Nat) :
    ∃ period year inYear, year < 400 ∧ inYear ≤ 365 ∧
      days + daysBefore1970 = period * daysOfPeriod + daysBefore year + inYear ∧
        dateOf days = dateIn period year inYear := by
  have hinPeriod : (days + daysBefore1970) % daysOfPeriod < daysOfPeriod :=
    Nat.mod_lt _ (by decide)
  obtain ⟨hyear, hbegun, hended⟩ := yearOf_bounds hinPeriod
  have hperiod := Nat.div_add_mod (days + daysBefore1970) daysOfPeriod
  refine ⟨(days + daysBefore1970) / daysOfPeriod, yearOf ((days + daysBefore1970) % daysOfPeriod),
    (days + daysBefore1970) % daysOfPeriod -
      daysBefore (yearOf ((days + daysBefore1970) % daysOfPeriod)), hyear, ?_, ?_, rfl⟩
  · omega
  · rw [Nat.mul_comm] at hperiod
    omega

/-- Days with the same date are the same. -/
theorem dateOf_injective {first second : Nat} (h : dateOf first = dateOf second) :
    first = second := by
  obtain ⟨period, year, inYear, hyear, hday, hdays, hdate⟩ := exists_dateIn first
  obtain ⟨period', year', inYear', hyear', hday', hdays', hdate'⟩ := exists_dateIn second
  rw [hdate, hdate'] at h
  obtain ⟨rfl, rfl, rfl⟩ := dateIn_injective hyear hyear' hday hday' h
  omega

/-- A date has at most twelve months and 31 days. -/
theorem dateOf_bounds (days : Nat) : (dateOf days).month < 100 ∧ (dateOf days).day < 100 := by
  obtain ⟨period, year, inYear, -, hday, -, hdate⟩ := exists_dateIn days
  rw [hdate]
  dsimp only [dateIn]
  constructor
  · split <;> omega
  · omega

end Dates

/-- The text of a date tells the day. -/
theorem dateText_injective {mark : String} {first second : Nat}
    (h : (dateText mark first).toList = (dateText mark second).toList) :
    first / 86400 = second / 86400 := by
  obtain ⟨hmonth, hday⟩ := dateOf_bounds (first / 86400)
  obtain ⟨hmonth', hday'⟩ := dateOf_bounds (second / 86400)
  simp only [dateText, String.toList_append] at h
  -- the year may be of any length, so the parts are taken off from the end
  obtain ⟨h, hdays⟩ := List.append_inj' h (by rw [length_padded_two hday, length_padded_two hday'])
  obtain ⟨h, -⟩ := List.append_inj' h rfl
  obtain ⟨h, hmonths⟩ :=
    List.append_inj' h (by rw [length_padded_two hmonth, length_padded_two hmonth'])
  obtain ⟨hyears, -⟩ := List.append_inj' h rfl
  exact dateOf_injective ((Date.mk.injEq ..).mpr
    ⟨padded_injective hyears, padded_injective hmonths, padded_injective hdays⟩)

/-- The parts of a time of day have two digits each. -/
theorem timeOfDay_bounds (seconds : Nat) :
    seconds / 3600 % 24 < 100 ∧ seconds / 60 % 60 < 100 ∧ seconds % 60 < 100 := by
  omega

/-- The text of a time of day is always of the same length. -/
theorem length_timeText (mark : String) (seconds : Nat) :
    (timeText mark seconds).toList.length = 6 + 2 * mark.toList.length := by
  obtain ⟨hhour, hminute, hsecond⟩ := timeOfDay_bounds seconds
  simp only [timeText, String.toList_append, List.length_append, length_padded_two hhour,
    length_padded_two hminute, length_padded_two hsecond]
  omega

/-- The text of a time of day tells the second of the day. -/
theorem timeText_injective {mark : String} {first second : Nat}
    (h : (timeText mark first).toList = (timeText mark second).toList) :
    first % 86400 = second % 86400 := by
  obtain ⟨-, hminute, hsecond⟩ := timeOfDay_bounds first
  obtain ⟨-, hminute', hsecond'⟩ := timeOfDay_bounds second
  simp only [timeText, String.toList_append] at h
  obtain ⟨h, hseconds⟩ :=
    List.append_inj' h (by rw [length_padded_two hsecond, length_padded_two hsecond'])
  obtain ⟨h, -⟩ := List.append_inj' h rfl
  obtain ⟨h, hminutes⟩ :=
    List.append_inj' h (by rw [length_padded_two hminute, length_padded_two hminute'])
  obtain ⟨hhours, -⟩ := List.append_inj' h rfl
  have hhour := padded_injective hhours
  have hminute := padded_injective hminutes
  have hsecond := padded_injective hseconds
  omega

/-- A date and a time of day are written with digits and their marks. -/
theorem not_mem_dateText_timeText {c : Char} (hdigit : c.isDigit = false) {mark : String}
    (hmark : c ∉ mark.toList) (seconds : Nat) :
    c ∉ (dateText mark seconds).toList ∧ c ∉ (timeText mark seconds).toList := by
  have hpadded : ∀ width number, c ∉ (padded width number).toList := by
    intro width number hmem
    rw [isDigit_of_mem_padded hmem] at hdigit
    cases hdigit
  simp [dateText, timeText, hpadded, hmark]

/-- The texts of a date and of a time of day, one after the other, tell the second. -/
theorem dateTimeText_injective {dateMark mark timeMark : String} {first second : Nat}
    (h : dateText dateMark first ++ mark ++ timeText timeMark first =
      dateText dateMark second ++ mark ++ timeText timeMark second) : first = second := by
  have hchars := congrArg String.toList h
  simp only [String.toList_append] at hchars
  obtain ⟨hchars, htimes⟩ :=
    List.append_inj' hchars (by rw [length_timeText, length_timeText])
  obtain ⟨hdates, -⟩ := List.append_inj' hchars rfl
  have hday := dateText_injective hdates
  have htime := timeText_injective htimes
  omega

end TrayIndicator.Calendar
