import MetricBench.Time.Calendar
import Mathlib.Tactic.IntervalCases

/-!
# The calendar in both directions

Main statements: the date that lies a number of days after the first of January 1970 is a date the
calendar has, and the days up to it are that number again.

An era of four hundred years is taken apart into centuries, spans of four years, years and days.
Only the last year of a span can have a day more, and of the last spans of the centuries only the
one that ends the era.
-/

namespace MetricBench.Time.Date

theorem isValid_iff {date : Date} :
    date.isValid = true ↔ 1 ≤ date.month ∧ date.month ≤ 12 ∧ 1 ≤ date.day ∧
      date.day ≤ daysInMonth date.year date.month := by
  simp [isValid, and_assoc]

/-- The whole centuries, spans of four years and years before a day of an era, and its number in its
own year, which is counted from March. -/
structure IsPlace (dayOfEra century span year day : Int) : Prop where
  eq_sum : dayOfEra = 36524 * century + 1461 * span + 365 * year + day
  century_mem : 0 ≤ century ∧ century ≤ 3
  span_mem : 0 ≤ span ∧ span ≤ 24
  year_mem : 0 ≤ year ∧ year ≤ 3
  day_mem : 0 ≤ day ∧ day ≤ 365
  leap : day = 365 → year = 3 ∧ (span < 24 ∨ century = 3)

theorem exists_isPlace (dayOfEra : Int) (hlow : 0 ≤ dayOfEra) (hhigh : dayOfEra < eraDays) :
    ∃ century span year day, IsPlace dayOfEra century span year day := by
  simp only [eraDays] at hhigh
  obtain ⟨century, hcentury⟩ : ∃ century, century = min 3 (dayOfEra / 36524) := ⟨_, rfl⟩
  obtain ⟨span, hspan⟩ : ∃ span, span = (dayOfEra - 36524 * century) / 1461 := ⟨_, rfl⟩
  obtain ⟨year, hyear⟩ :
      ∃ year, year = min 3 ((dayOfEra - 36524 * century - 1461 * span) / 365) := ⟨_, rfl⟩
  exact ⟨century, span, year, dayOfEra - 36524 * century - 1461 * span - 365 * year,
    by omega, by omega, by omega, by omega, by omega, by omega⟩

namespace IsPlace

variable {dayOfEra century span year day : Int}

theorem centuries_eq (h : IsPlace dayOfEra century span year day) :
    dayOfEra / 36524 - dayOfEra / 146096 = century := by
  obtain ⟨hsum, hcentury, hspan, hyear, hday, hleap⟩ := h
  by_cases hlast : dayOfEra = 146096
  · omega
  · have hwhole : dayOfEra / 36524 = century :=
      ((Int.ediv_emod_unique (r := 1461 * span + 365 * year + day) (by decide)).2
        ⟨by omega, by omega, by omega⟩).1
    omega

/-- One leap day for every four years before, and one more from the day on at which the corrections
have added up to a day. -/
theorem leapDays_eq (h : IsPlace dayOfEra century span year day) :
    dayOfEra / 1460 =
      25 * century + span + if 24 * century + span + 365 * year + day < 1460 then 0 else 1 := by
  obtain ⟨hsum, hcentury, hspan, hyear, hday, hleap⟩ := h
  split <;> omega

/-- The year of the era: without the leap days before it all years count 365 days. -/
theorem yearOfEra_eq (h : IsPlace dayOfEra century span year day) :
    (dayOfEra - dayOfEra / 1460 + dayOfEra / 36524 - dayOfEra / 146096) / 365 =
      100 * century + 4 * span + year := by
  have hcenturies := h.centuries_eq
  have hleapDays := h.leapDays_eq
  obtain ⟨hsum, hcentury, hspan, hyear, hday, hleap⟩ := h
  split at hleapDays <;> omega

theorem dayOfYear_eq (h : IsPlace dayOfEra century span year day) :
    dayOfEra - (365 * (100 * century + 4 * span + year) +
      (100 * century + 4 * span + year) / 4 - (100 * century + 4 * span + year) / 100) = day := by
  obtain ⟨hsum, hcentury, hspan, hyear, hday, hleap⟩ := h
  omega

theorem yearOfEra_mem (h : IsPlace dayOfEra century span year day) :
    0 ≤ 100 * century + 4 * span + year ∧ 100 * century + 4 * span + year < 400 := by
  obtain ⟨-, hcentury, hspan, hyear, -, -⟩ := h
  omega

/-- A year with a day more comes before the end of February of a leap year. -/
theorem isLeapYear_of_day (h : IsPlace dayOfEra century span year day) (hday : day = 365)
    (era : Int) : isLeapYear (100 * century + 4 * span + year + era * 400 + 1) = true := by
  obtain ⟨hsum, hcentury, hspan, hyear, -, hleap⟩ := h
  simp only [isLeapYear, Bool.and_eq_true, Bool.or_eq_true, decide_eq_true_eq]
  omega

end IsPlace

/-- The date of a day of a year that is counted from March. -/
def ofDayOfYear (year dayOfYear : Int) : Date :=
  let month := (5 * dayOfYear + 2) / 153
  { year := if month < 10 then year else year + 1
    month := (if month < 10 then month + 3 else month - 9).toNat
    day := (dayOfYear - (153 * month + 2) / 5 + 1).toNat }

theorem ofDays_eq {days century span year day : Int}
    (h : IsPlace ((days + epochOffset) % eraDays) century span year day) :
    ofDays days = ofDayOfYear
      (100 * century + 4 * span + year + (days + epochOffset) / eraDays * 400) day := by
  simp only [ofDays, h.yearOfEra_eq, h.dayOfYear_eq, ofDayOfYear]

section DayOfYear

variable {year dayOfYear : Int}

/-- The month, counted from March, with the days before it, and the day in it. -/
theorem month_mem (hlow : 0 ≤ dayOfYear) (hhigh : dayOfYear ≤ 365) :
    0 ≤ (5 * dayOfYear + 2) / 153 ∧ (5 * dayOfYear + 2) / 153 ≤ 11 ∧
      (153 * ((5 * dayOfYear + 2) / 153) + 2) / 5 ≤ dayOfYear := by
  omega

theorem toDays_ofDayOfYear (hlow : 0 ≤ dayOfYear) (hhigh : dayOfYear ≤ 365) :
    (ofDayOfYear year dayOfYear).toDays =
      year / 400 * eraDays +
        (365 * (year % 400) + year % 400 / 4 - year % 400 / 100 + dayOfYear) - epochOffset := by
  have hmonth := month_mem hlow hhigh
  by_cases hturn : (5 * dayOfYear + 2) / 153 < 10
  · have hlate : ¬ ((5 * dayOfYear + 2) / 153 + 3).toNat ≤ 2 := by omega
    simp only [ofDayOfYear, toDays, hturn, if_true, hlate, if_false]
    omega
  · have hearly : ((5 * dayOfYear + 2) / 153 - 9).toNat ≤ 2 := by omega
    simp only [ofDayOfYear, toDays, hturn, if_false, hearly, if_true]
    rw [show year + 1 - 1 = year by omega]
    omega

theorem isValid_ofDayOfYear (hlow : 0 ≤ dayOfYear) (hhigh : dayOfYear ≤ 365)
    (hleap : dayOfYear = 365 → isLeapYear (year + 1) = true) :
    (ofDayOfYear year dayOfYear).isValid = true := by
  have hmonth := month_mem hlow hhigh
  rw [isValid_iff]
  simp only [ofDayOfYear]
  generalize hm : (5 * dayOfYear + 2) / 153 = month at hmonth ⊢
  obtain ⟨hmonthLow, hmonthHigh, hstart⟩ := hmonth
  obtain rfl | hother : month = 11 ∨ month ≤ 10 := by omega
  · -- February is the only month whose length depends on the year.
    by_cases hday : dayOfYear = 365
    · simp [daysInMonth, hleap hday]
      omega
    · simp only [daysInMonth]
      split <;> simp <;> omega
  · interval_cases month <;> simp [daysInMonth] <;> omega

end DayOfYear

/-- The days up to a date that lies a number of days after 1970 are that number. -/
theorem toDays_ofDays (days : Int) : (ofDays days).toDays = days := by
  obtain ⟨century, span, year, day, hplace⟩ :=
    exists_isPlace ((days + epochOffset) % eraDays)
      (Int.emod_nonneg _ (by decide)) (Int.emod_lt_of_pos _ (by decide))
  obtain ⟨hera, hyearOfEra⟩ :=
    (Int.ediv_emod_unique (a := 100 * century + 4 * span + year + (days + epochOffset) / eraDays * 400)
      (b := 400) (q := (days + epochOffset) / eraDays) (by decide)).2
      ⟨by omega, hplace.yearOfEra_mem.1, hplace.yearOfEra_mem.2⟩
  have hdayOfYear := hplace.dayOfYear_eq
  have hdays := Int.ediv_mul_add_emod (days + epochOffset) eraDays
  rw [ofDays_eq hplace, toDays_ofDayOfYear hplace.day_mem.1 hplace.day_mem.2, hera, hyearOfEra]
  omega

/-- The days of the years 0 to 9999. -/
theorem year_ofDays_mem {days : Int} (hfirst : toDays ⟨0, 1, 1⟩ ≤ days)
    (hlast : days ≤ toDays ⟨9999, 12, 31⟩) :
    0 ≤ (ofDays days).year ∧ (ofDays days).year ≤ 9999 := by
  obtain ⟨century, span, year, day, hplace⟩ :=
    exists_isPlace ((days + epochOffset) % eraDays)
      (Int.emod_nonneg _ (by decide)) (Int.emod_lt_of_pos _ (by decide))
  rw [show toDays ⟨0, 1, 1⟩ = -719528 by decide] at hfirst
  rw [show toDays ⟨9999, 12, 31⟩ = 2932896 by decide] at hlast
  rw [ofDays_eq hplace]
  obtain ⟨hsum, hcentury, hspan, hyear, hday, -⟩ := hplace
  simp only [ofDayOfYear, eraDays, epochOffset] at *
  obtain hbefore | hwithin | hlate : (days + 719468) / 146097 = -1 ∨
      (0 ≤ (days + 719468) / 146097 ∧ (days + 719468) / 146097 ≤ 23) ∨
      (days + 719468) / 146097 = 24 := by omega
  · -- The first two months of the year 0 are the last of the era before.
    have hplace : 100 * century + 4 * span + year = 399 ∧ 306 ≤ day := by omega
    split <;> omega
  · split <;> omega
  · -- The era after has begun, but for its last two months.
    have hplace : 100 * century + 4 * span + year < 399 ∨ day < 306 := by omega
    split <;> omega

theorem isValid_ofDays (days : Int) : (ofDays days).isValid = true := by
  obtain ⟨century, span, year, day, hplace⟩ :=
    exists_isPlace ((days + epochOffset) % eraDays)
      (Int.emod_nonneg _ (by decide)) (Int.emod_lt_of_pos _ (by decide))
  rw [ofDays_eq hplace]
  exact isValid_ofDayOfYear hplace.day_mem.1 hplace.day_mem.2 fun hday =>
    hplace.isLeapYear_of_day hday _

end MetricBench.Time.Date
