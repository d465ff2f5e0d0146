import QueryWarden.Time.Calendar
import Mathlib.Tactic.IntervalCases

/-!
# Dates and days

A day has one date, and counting the days to that date gives the day back. The day is taken apart
into its era of 400 years, a century of the era, a cycle of four years of the century, a year of the
cycle and a day of the year; years begin in March, so that a leap day is the last day of its year.
-/

namespace QueryWarden.Time

/-! ## Days of an era -/

/-- A place in an era. Only the last year of a cycle has a day 365, and of the last cycle of a
century only if the century is the last. -/
structure IsPlace (century cycle year day : Int) : Prop where
  century_mem : 0 ≤ century ∧ century ≤ 3
  cycle_mem : 0 ≤ cycle ∧ cycle ≤ 24
  year_mem : 0 ≤ year ∧ year ≤ 3
  day_mem : 0 ≤ day ∧ day ≤ 365
  leap : day = 365 → year = 3 ∧ (cycle < 24 ∨ century = 3)

theorem exists_isPlace {dayOfEra : Int} (hstart : 0 ≤ dayOfEra) (hend : dayOfEra < 146097) :
    ∃ century cycle year day, IsPlace century cycle year day ∧
      dayOfEra = 36524 * century + 1461 * cycle + 365 * year + day := by
  -- The last century of an era and the last year of a cycle may be a day longer than the others,
  -- so these two quotients are capped.
  obtain ⟨century, hcentury, hcenturyDay⟩ : ∃ century : Int, (0 ≤ century ∧ century ≤ 3) ∧
      0 ≤ dayOfEra - 36524 * century ∧ dayOfEra - 36524 * century ≤ 36524 ∧
        (dayOfEra - 36524 * century = 36524 → century = 3) :=
    ⟨min (dayOfEra / 36524) 3, by omega⟩
  obtain ⟨cycle, hcycle, hcycleDay⟩ : ∃ cycle : Int, (0 ≤ cycle ∧ cycle ≤ 24) ∧
      0 ≤ dayOfEra - 36524 * century - 1461 * cycle ∧
        dayOfEra - 36524 * century - 1461 * cycle < 1461 :=
    ⟨(dayOfEra - 36524 * century) / 1461, by omega⟩
  obtain ⟨year, hyear, hyearDay⟩ : ∃ year : Int, (0 ≤ year ∧ year ≤ 3) ∧
      0 ≤ dayOfEra - 36524 * century - 1461 * cycle - 365 * year ∧
        dayOfEra - 36524 * century - 1461 * cycle - 365 * year ≤ 365 ∧
        (dayOfEra - 36524 * century - 1461 * cycle - 365 * year = 365 → year = 3) :=
    ⟨min ((dayOfEra - 36524 * century - 1461 * cycle) / 365) 3, by omega⟩
  refine ⟨century, cycle, year, dayOfEra - 36524 * century - 1461 * cycle - 365 * year,
    ⟨hcentury, hcycle, hyear, ⟨hyearDay.1, hyearDay.2.1⟩, fun hleap => ?_⟩, by omega⟩
  exact ⟨hyearDay.2.2 hleap, by omega⟩

/-- The year of an era that a day of the era falls in. -/
def yearOfDay (dayOfEra : Int) : Int :=
  (dayOfEra - dayOfEra / 1460 + dayOfEra / 36524 - dayOfEra / 146096) / 365

/-- The days of an era in front of one of its years. -/
def daysBefore (yearOfEra : Int) : Int :=
  365 * yearOfEra + yearOfEra / 4 - yearOfEra / 100

theorem yearOfDay_eq {century cycle year day : Int} (hplace : IsPlace century cycle year day) :
    yearOfDay (36524 * century + 1461 * cycle + 365 * year + day) =
      100 * century + 4 * cycle + year := by
  obtain ⟨hcentury, hcycle, hyear, hday, hleap⟩ := hplace
  generalize hdays : 36524 * century + 1461 * cycle + 365 * year + day = days
  have hcenturies : days / 36524 - days / 146096 = century := by
    -- Only the last day of an era is a century's worth of days from the start of its century.
    have hrest : 1461 * cycle + 365 * year + day < 36524 ∨ century = 3 ∧ days = 146096 := by
      by_cases hlast : day = 365
      · have hwhere := hleap hlast
        omega
      · omega
    rcases hrest with hrest | ⟨hcentury, hdays⟩
    · have hquotient : days / 36524 = century := by omega
      omega
    · omega
  -- A leap day that is not counted yet is the last day of its cycle.
  have hcycles : days / 1460 = 25 * century + cycle ∧ day < 365 ∨
      days / 1460 = 25 * century + cycle + 1 ∧ 0 < day := by omega
  unfold yearOfDay
  omega

theorem daysBefore_eq {century cycle year day : Int} (hplace : IsPlace century cycle year day) :
    daysBefore (100 * century + 4 * cycle + year) =
      36524 * century + 1461 * cycle + 365 * year := by
  obtain ⟨hcentury, hcycle, hyear, -, -⟩ := hplace
  unfold daysBefore
  omega

theorem isLeapYear_of_isPlace {century cycle year : Int} (hplace : IsPlace century cycle year 365)
    (era : Int) : isLeapYear (400 * era + (100 * century + 4 * cycle + year) + 1) = true := by
  obtain ⟨hcentury, hcycle, hyear, -, hleap⟩ := hplace
  have hwhere := hleap rfl
  simp only [isLeapYear, Bool.and_eq_true, Bool.or_eq_true, decide_eq_true_eq]
  omega

/-! ## Days of a year -/

/-- The date of a day of a year that begins in March. -/
def dateInYear (year dayOfYear : Int) : Date :=
  let month := (5 * dayOfYear + 2) / 153
  let day := dayOfYear - (153 * month + 2) / 5 + 1
  if month < 10 then ⟨year, (month + 3).toNat, day.toNat⟩
  else ⟨year + 1, (month - 9).toNat, day.toNat⟩

theorem Date.isValid_iff (date : Date) : date.isValid = true ↔
    (1 ≤ date.month ∧ date.month ≤ 12) ∧ 1 ≤ date.day ∧
      date.day ≤ daysInMonth date.year date.month := by
  simp only [Date.isValid, Bool.and_eq_true, decide_eq_true_eq, and_assoc]

theorem daysInMonth_le (year : Int) (month : Nat) : daysInMonth year month ≤ 31 := by
  rw [daysInMonth]
  split
  · split <;> decide
  · split <;> decide

/-- A date counted from March exists if its year has a leap day when one is asked for. -/
theorem isValid_dateInYear {year dayOfYear : Int} (hday : 0 ≤ dayOfYear ∧ dayOfYear ≤ 365)
    (hleap : dayOfYear = 365 → isLeapYear (year + 1) = true) :
    (dateInYear year dayOfYear).isValid = true := by
  obtain ⟨month, hmonth⟩ : ∃ month, month = (5 * dayOfYear + 2) / 153 := ⟨_, rfl⟩
  have hlow : 0 ≤ month := by omega
  have hhigh : month ≤ 11 := by omega
  rw [Date.isValid_iff, dateInYear, ← hmonth]
  by_cases hfebruary : month = 11
  · -- February is the last month, and the only one whose length hangs on the year.
    subst hfebruary
    have hlength : 28 ≤ daysInMonth (year + 1) 2 ∧
        (dayOfYear = 365 → daysInMonth (year + 1) 2 = 29) := by
      simp only [daysInMonth, if_true]
      refine ⟨by split <;> decide, fun hlast => by rw [if_pos (hleap hlast)]⟩
    simp only [Int.reduceLT, if_false, Int.reduceSub, Int.reduceToNat]
    omega
  · interval_cases month
    all_goals
      simp [daysInMonth]
      omega

theorem toDays_dateInYear {year dayOfYear : Int} (hday : 0 ≤ dayOfYear ∧ dayOfYear ≤ 365) :
    (dateInYear year dayOfYear).toDays =
      year / 400 * 146097 + (daysBefore (year % 400) + dayOfYear) - 719468 := by
  obtain ⟨month, hmonth⟩ : ∃ month, month = (5 * dayOfYear + 2) / 153 := ⟨_, rfl⟩
  have hbounds : 0 ≤ month ∧ month ≤ 11 := by omega
  have hdate : ((dayOfYear - (153 * month + 2) / 5 + 1).toNat : Int) =
      dayOfYear - (153 * month + 2) / 5 + 1 := by omega
  simp only [dateInYear, ← hmonth, daysBefore]
  split
  next hmarch =>
    have hlate : ¬ (month + 3).toNat ≤ 2 := by omega
    have hcount : ((month + 3).toNat : Int) - 3 = month := by omega
    simp only [Date.toDays, if_neg hlate, hcount, hdate]
    omega
  next hjanuary =>
    have hearly : (month - 9).toNat ≤ 2 := by omega
    have hcount : ((month - 9).toNat : Int) + 9 = month := by omega
    simp only [Date.toDays, if_pos hearly, hcount, hdate, Int.add_sub_cancel]
    omega

/-! ## All days -/

theorem Date.ofDays_eq (days : Int) :
    Date.ofDays days =
      dateInYear (yearOfDay ((days + 719468) % 146097) + (days + 719468) / 146097 * 400)
        ((days + 719468) % 146097 - daysBefore (yearOfDay ((days + 719468) % 146097))) := rfl

/-- Every day has its place in an era, and its date is found from there. -/
theorem Date.exists_ofDays_eq (days : Int) :
    ∃ era century cycle year day, IsPlace century cycle year day ∧
      days + 719468 = 146097 * era + (36524 * century + 1461 * cycle + 365 * year + day) ∧
      Date.ofDays days = dateInYear (400 * era + (100 * century + 4 * cycle + year)) day := by
  obtain ⟨century, cycle, year, day, hplace, hday⟩ := exists_isPlace
    (Int.emod_nonneg (days + 719468) (by decide)) (Int.emod_lt_of_pos (days + 719468) (by decide))
  refine ⟨(days + 719468) / 146097, century, cycle, year, day, hplace, ?_, ?_⟩
  · rw [← hday, Int.mul_ediv_add_emod]
  · rw [Date.ofDays_eq, hday, yearOfDay_eq hplace, daysBefore_eq hplace]
    congr 1 <;> omega

/-- The date of a day exists. -/
theorem Date.isValid_ofDays (days : Int) : (Date.ofDays days).isValid = true := by
  obtain ⟨era, century, cycle, year, day, hplace, -, hdate⟩ := Date.exists_ofDays_eq days
  rw [hdate]
  refine isValid_dateInYear hplace.day_mem ?_
  rintro rfl
  exact isLeapYear_of_isPlace hplace era

/-- The days counted to the date of a day are that day. -/
theorem Date.toDays_ofDays (days : Int) : (Date.ofDays days).toDays = days := by
  obtain ⟨era, century, cycle, year, day, hplace, hdays, hdate⟩ := Date.exists_ofDays_eq days
  have hbefore := daysBefore_eq hplace
  obtain ⟨hcentury, hcycle, hyear, hday, -⟩ := hplace
  have hera : (400 * era + (100 * century + 4 * cycle + year)) / 400 = era := by omega
  have hyearOfEra : (400 * era + (100 * century + 4 * cycle + year)) % 400 =
      100 * century + 4 * cycle + year := by omega
  rw [hdate, toDays_dateInYear hday, hera, hyearOfEra, hbefore]
  omega

end QueryWarden.Time
