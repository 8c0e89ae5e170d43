import Mathlib.Order.Monotone.Basic
import Provision.Time.Calendar

/-!
# The calendar gives dates

A day number has a date whose day is one of its month (`dateOfDays_valid`). Within a period of four
centuries the year of a day is found by a quotient that grows with the day (`yearOfEra_mono`), so
that it is enough to look at the first day of each year; the day of the year then fixes the month.
-/

namespace Provision.Time

/-- A date of the calendar with a year of four digits. -/
structure Date.Valid (d : Date) : Prop where
  year : d.year ≤ 9999
  day : ∃ most, daysInMonth? d.year d.month = some most ∧ 1 ≤ d.day ∧ d.day ≤ most

/-! ## Years of a period -/

/-- The year of a day of a period. -/
def yearOfEra (day : ℕ) : ℕ := (day - day / 1460 + day / 36524 - day / 146096) / 365

/-- The days of a period before a year. -/
def daysBefore (year : ℕ) : ℕ := 365 * year + year / 4 - year / 100 + year / 400

theorem yearOfEra_mono : Monotone yearOfEra := by
  refine monotone_nat_of_le_succ fun day => ?_
  unfold yearOfEra
  omega

/-- The first and the last day of a year are days of that year. -/
theorem yearOfEra_ends : ∀ year < 400, yearOfEra (daysBefore year) = year ∧
    yearOfEra (daysBefore (year + 1) - 1) = year := by decide +kernel

/-- **The year of a day** starts on or before it and ends after it. -/
theorem yearOfEra_spec {day : ℕ} (h : day < 146097) :
    yearOfEra day < 400 ∧ daysBefore (yearOfEra day) ≤ day ∧
      day < daysBefore (yearOfEra day + 1) := by
  have hlast : yearOfEra 146096 = 399 := by decide
  have hyear : yearOfEra day < 400 := by
    have hmono := yearOfEra_mono (show day ≤ 146096 by omega)
    omega
  refine ⟨hyear, ?_, ?_⟩
  · by_contra hlt
    -- the day would come before the last day of the year before
    obtain ⟨year, hprev⟩ : ∃ year, yearOfEra day = year + 1 := by
      refine ⟨yearOfEra day - 1, (Nat.sub_add_cancel (Nat.pos_of_ne_zero fun hzero => ?_)).symm⟩
      rw [hzero] at hlt
      exact hlt (Nat.zero_le day)
    have hends := (yearOfEra_ends year (by omega)).2
    have hmono := yearOfEra_mono (show day ≤ daysBefore (year + 1) - 1 by rw [hprev] at hlt; omega)
    omega
  · by_contra hge
    -- the day would come after the first day of the next year
    by_cases hnext : yearOfEra day + 1 < 400
    · have hends := (yearOfEra_ends _ hnext).1
      have hmono := yearOfEra_mono (Nat.not_lt.1 hge)
      omega
    · have hfull : daysBefore (yearOfEra day + 1) = 146097 := by
        rw [show yearOfEra day + 1 = 400 by omega]
        rfl
      omega

/-- A year that starts in March is a day longer if the next year is a leap year. -/
theorem daysBefore_succ : ∀ year < 400,
    daysBefore (year + 1) = daysBefore year + 365 + if isLeap (year + 1) then 1 else 0 := by
  decide +kernel

/-- Leap years come again after four centuries. -/
theorem isLeap_congr {m n : ℕ} (h : m % 400 = n % 400) : isLeap m = isLeap n := by
  have hfour : m % 4 = n % 4 := by omega
  have hcentury : m % 100 = n % 100 := by omega
  unfold isLeap
  rw [h, hfour, hcentury]

/-! ## Months of a year -/

/-- The month of a day of a year that starts in March, counted from there. -/
def shiftedMonth (dayOfYear : ℕ) : ℕ := (5 * dayOfYear + 2) / 153

/-- The month of a day of a year that starts in March. -/
def monthOf (dayOfYear : ℕ) : ℕ :=
  if shiftedMonth dayOfYear < 10 then shiftedMonth dayOfYear + 3 else shiftedMonth dayOfYear - 9

/-- The day of the month of a day of a year that starts in March. -/
def dayOf (dayOfYear : ℕ) : ℕ := dayOfYear - (153 * shiftedMonth dayOfYear + 2) / 5 + 1

/-- The months with their last days; the last day of a leap year is the 29th of February. -/
theorem monthOf_spec : ∀ dayOfYear < 366, (153 * shiftedMonth dayOfYear + 2) / 5 ≤ dayOfYear ∧
    if monthOf dayOfYear = 2 then dayOf dayOfYear ≤ 28 + (if dayOfYear = 365 then 1 else 0)
    else ∃ most ∈ daysInMonth? 1 (monthOf dayOfYear), dayOf dayOfYear ≤ most := by
  decide +kernel

/-- Only the length of February depends on the year. -/
theorem daysInMonth?_year {month : ℕ} (h : month ≠ 2) (year other : ℕ) :
    daysInMonth? year month = daysInMonth? other month := by
  unfold daysInMonth?
  rw [if_neg h, if_neg h]

theorem day_valid {dayOfYear year : ℕ} (hday : dayOfYear < 366)
    (hleap : dayOfYear = 365 → isLeap year = true) :
    ∃ most, daysInMonth? year (monthOf dayOfYear) = some most ∧ 1 ≤ dayOf dayOfYear ∧
      dayOf dayOfYear ≤ most := by
  obtain ⟨-, hspec⟩ := monthOf_spec dayOfYear hday
  have hpos : 1 ≤ dayOf dayOfYear := Nat.le_add_left 1 _
  split at hspec
  · rename_i hfebruary
    refine ⟨if isLeap year then 29 else 28, ?_, hpos, ?_⟩
    · unfold daysInMonth?
      rw [if_pos hfebruary]
    · by_cases hlast : dayOfYear = 365
      · rw [if_pos hlast] at hspec
        rw [if_pos (hleap hlast)]
        exact hspec
      · rw [if_neg hlast] at hspec
        split <;> omega
  · rename_i hother
    obtain ⟨most, hmost, hle⟩ := hspec
    exact ⟨most, (daysInMonth?_year hother year 1).trans hmost, hpos, hle⟩

/-! ## Dates -/

theorem yearOfEra_cast (day : ℕ) :
    ((day : ℤ) - day / 1460 + day / 36524 - day / 146096) / 365 = yearOfEra day := by
  have hcast : ∀ n : ℕ, (day : ℤ) / (n : ℤ) = (day / n : ℕ) :=
    fun n => (Int.natCast_ediv day n).symm
  have h₁ : day / 1460 ≤ day := Nat.div_le_self _ _
  have h₂ : day / 146096 ≤ day / 36524 := Nat.div_le_div_left (by decide) (by decide)
  have e₁ := hcast 1460
  have e₂ := hcast 36524
  have e₃ := hcast 146096
  unfold yearOfEra
  generalize day / 1460 = a at *
  generalize day / 36524 = b at *
  generalize day / 146096 = c at *
  omega

theorem daysBefore_cast {year : ℕ} (h : year < 400) :
    365 * (year : ℤ) + year / 4 - year / 100 = daysBefore year := by
  unfold daysBefore
  omega

/-- The date of a day of a period. -/
theorem dateOfDays_eq {days era : ℤ} {day dayOfYear : ℕ}
    (hdays : days + 719468 = era * 146097 + day) (hday : day < 146097)
    (hyear : day = daysBefore (yearOfEra day) + dayOfYear) (hlong : dayOfYear < 366) :
    dateOfDays days = ⟨(yearOfEra day + era * 400 + if monthOf dayOfYear ≤ 2 then 1 else 0).toNat,
      monthOf dayOfYear, dayOf dayOfYear⟩ := by
  have hera : (days + 719468) / 146097 = era := by omega
  have hmod : (days + 719468) % 146097 = day := by omega
  have hbefore := daysBefore_cast (yearOfEra_spec hday).1
  obtain ⟨hle, -⟩ := monthOf_spec dayOfYear hlong
  have hrest : (day : ℤ) - daysBefore (yearOfEra day) = dayOfYear := by omega
  have hshifted : (5 * (dayOfYear : ℤ) + 2) / 153 = shiftedMonth dayOfYear := by
    unfold shiftedMonth
    omega
  have hmonth : (if (shiftedMonth dayOfYear : ℤ) < 10 then (shiftedMonth dayOfYear : ℤ) + 3
      else shiftedMonth dayOfYear - 9) = monthOf dayOfYear := by
    unfold monthOf
    split <;> split <;> omega
  have hdayOf : (dayOfYear : ℤ) - (153 * (shiftedMonth dayOfYear : ℤ) + 2) / 5 + 1 =
      dayOf dayOfYear := by
    unfold dayOf
    omega
  unfold dateOfDays
  have hcond : (monthOf dayOfYear : ℤ) ≤ 2 ↔ monthOf dayOfYear ≤ 2 := by omega
  simp only [hera, hmod, yearOfEra_cast, hbefore, hrest, hshifted, hmonth, hdayOf, hcond,
    Int.toNat_natCast]

/-- The year that starts in March ends in January and February of the next one. -/
theorem monthOf_le_two {dayOfYear : ℕ} (h : dayOfYear < 366) :
    monthOf dayOfYear ≤ 2 ↔ 306 ≤ dayOfYear := by
  unfold monthOf shiftedMonth
  split <;> omega

/-- **A day number has a date of the calendar**, from the first day of the year zero to the last day
of the year 9999. -/
theorem dateOfDays_valid {days : ℤ} (hfirst : -719528 ≤ days) (hlast : days ≤ 2932896) :
    (dateOfDays days).Valid := by
  obtain ⟨day, hday, hdays⟩ : ∃ day < 146097,
      days + 719468 = (days + 719468) / 146097 * 146097 + (day : ℕ) :=
    ⟨((days + 719468) % 146097).toNat, by omega, by omega⟩
  obtain ⟨hyear, hstart, hend⟩ := yearOfEra_spec hday
  have hsucc := daysBefore_succ _ hyear
  obtain ⟨dayOfYear, hrest⟩ := Nat.exists_eq_add_of_le hstart
  have hlong : dayOfYear < 366 := by
    split at hsucc <;> omega
  have hleap : dayOfYear = 365 → isLeap (yearOfEra day + 1) = true := by
    intro hfull
    by_contra hcommon
    rw [if_neg hcommon] at hsucc
    omega
  have hmonth := monthOf_le_two hlong
  rw [dateOfDays_eq hdays hday hrest hlong]
  generalize (days + 719468) / 146097 = era at hdays
  -- the first and the last period are cut off at the ends of the calendar
  have hpast : yearOfEra day = 399 → day = 145731 + dayOfYear := by
    intro h
    rw [h] at hrest
    exact hrest
  have hlate : 146036 < day → yearOfEra day = 399 := by
    intro h
    by_contra hne
    have hmono := yearOfEra_mono (show 145731 ≤ day by omega)
    have hvalue : yearOfEra 145731 = 399 := by decide
    omega
  refine ⟨?_, day_valid hlong fun hfull => ?_⟩
  · simp only
    split <;> omega
  · rw [← hleap hfull]
    refine isLeap_congr ?_
    simp only [if_pos (hmonth.2 (show 306 ≤ dayOfYear by omega))]
    omega

end Provision.Time
