import EntityQuery.Time.Date
import Mathlib.Tactic.IntervalCases

/-!
# Day numbers and dates

The calendar repeats after four hundred years.  Years are counted from March here, so that a leap
day ends its year: `yearStart` is the day on which a year begins and `monthStart` the day of the
year on which a month begins.
-/

namespace EntityQuery.Date

/-- The calendar has the date, and its year is supported. -/
def IsValid (date : Date) : Prop :=
  ofNumbers? date.year date.month date.day = some date

theorem isValid_of_ofNumbers? {year : Int} {month day : Nat} {date : Date}
    (h : ofNumbers? year month day = some date) : date.IsValid := by
  have hdate := h
  unfold ofNumbers? at h
  split at h
  · cases h
    exact hdate
  · cases h

theorem IsValid.two_digits {date : Date} (h : date.IsValid) :
    date.month < 100 ∧ date.day < 100 := by
  unfold IsValid ofNumbers? at h
  split at h
  next hbounds =>
    have hlast : daysInMonth date.year date.month ≤ 31 := by
      unfold daysInMonth
      split
      · split <;> decide
      · split <;> decide
    omega
  next => cases h

/-- Days from the first of March of the year zero to the one of a year. -/
def yearStart (year : Int) : Int :=
  365 * year + year / 4 - year / 100 + year / 400

/-- Days from the first of March to the first of a month, where March has number zero. -/
def monthStart (month : Int) : Int :=
  (153 * month + 2) / 5

theorem yearStart_add_one (year : Int) :
    yearStart (year + 1) = yearStart year + 365 + if isLeapYear (year + 1) then 1 else 0 := by
  simp only [yearStart, isLeapYear, Bool.and_eq_true, Bool.or_eq_true, beq_iff_eq, bne_iff_ne]
  split <;> omega

theorem yearStart_le {first later : Int} (h : first ≤ later) :
    yearStart first ≤ yearStart later := by
  obtain ⟨years, rfl⟩ := Int.le.dest h
  induction years with
  | zero => exact Int.le_of_eq (congrArg yearStart (Int.add_zero first).symm)
  | succ years ih =>
      have hstep := yearStart_add_one (first + years)
      rw [Int.natCast_succ, ← Int.add_assoc, hstep]
      split <;> omega

theorem lt_of_yearStart_lt {first later : Int} (h : yearStart first < yearStart later) :
    first < later :=
  Int.not_le.mp fun hle => Int.not_le.mpr h (yearStart_le hle)

theorem yearStart_add_eras (year eras : Int) :
    yearStart (year + 400 * eras) = yearStart year + 146097 * eras := by
  unfold yearStart
  omega

theorem isLeapYear_add_eras (year eras : Int) :
    isLeapYear (year + 400 * eras) = isLeapYear year := by
  have hfour : (year + 400 * eras) % 4 = year % 4 := by omega
  have hhundred : (year + 400 * eras) % 100 = year % 100 := by omega
  have hall : (year + 400 * eras) % 400 = year % 400 := by omega
  rw [isLeapYear, hfour, hhundred, hall]
  rfl

/-- A day of four hundred years.  Four years end with a leap day, except the last ones of a century,
and these do in the last century. -/
structure Position where
  century : Int
  fourYears : Int
  year : Int
  day : Int
  century_bounds : 0 ≤ century ∧ century ≤ 3
  fourYears_bounds : 0 ≤ fourYears ∧ fourYears ≤ 24
  year_bounds : 0 ≤ year ∧ year ≤ 3
  day_bounds : 0 ≤ day ∧ day ≤ 365
  leapDay : day = 365 → year = 3 ∧ (fourYears = 24 → century = 3)

namespace Position

def dayOfEra (p : Position) : Int :=
  36524 * p.century + 1461 * p.fourYears + 365 * p.year + p.day

def yearOfEra (p : Position) : Int :=
  100 * p.century + 4 * p.fourYears + p.year

theorem exists_dayOfEra_eq {number : Int} (h : 0 ≤ number) (h' : number < 146097) :
    ∃ p : Position, p.dayOfEra = number := by
  obtain ⟨century, hcentury⟩ : ∃ century, century = min (number / 36524) 3 := ⟨_, rfl⟩
  obtain ⟨dayOfCentury, hdayOfCentury⟩ : ∃ day, day = number - 36524 * century := ⟨_, rfl⟩
  obtain ⟨year, hyear⟩ : ∃ year, year = min (dayOfCentury % 1461 / 365) 3 := ⟨_, rfl⟩
  refine ⟨⟨century, dayOfCentury / 1461, year, dayOfCentury % 1461 - 365 * year,
    ?_, ?_, ?_, ?_, ?_⟩, ?_⟩
  · omega
  · omega
  · omega
  · omega
  · omega
  · unfold dayOfEra
    dsimp only
    omega

variable (p : Position)

theorem yearOfEra_bounds : 0 ≤ p.yearOfEra ∧ p.yearOfEra ≤ 399 := by
  have hcentury := p.century_bounds
  have hfourYears := p.fourYears_bounds
  have hyear := p.year_bounds
  unfold yearOfEra
  omega

theorem yearStart_yearOfEra : yearStart p.yearOfEra = p.dayOfEra - p.day := by
  have hcentury := p.century_bounds
  have hfourYears := p.fourYears_bounds
  have hyear := p.year_bounds
  have hfour : p.yearOfEra / 4 = 25 * p.century + p.fourYears := by
    unfold yearOfEra
    omega
  have hhundred : p.yearOfEra / 100 = p.century := by
    unfold yearOfEra
    omega
  have hall : p.yearOfEra / 400 = 0 := by
    unfold yearOfEra
    omega
  rw [yearStart, hfour, hhundred, hall, yearOfEra, dayOfEra]
  omega

theorem isLeapYear_of_day (h : p.day = 365) : isLeapYear (p.yearOfEra + 1) = true := by
  obtain ⟨hyear, hlast⟩ := p.leapDay h
  have hcentury := p.century_bounds
  have hfourYears := p.fourYears_bounds
  simp only [isLeapYear, Bool.and_eq_true, Bool.or_eq_true, beq_iff_eq, bne_iff_ne]
  unfold yearOfEra
  by_cases hcase : p.fourYears = 24
  · have := hlast hcase
    omega
  · omega

/-- The quotient that counts the years as if all had 365 days, after the leap days are taken out. -/
theorem yearOfEra_eq :
    (p.dayOfEra - p.dayOfEra / 1460 + p.dayOfEra / 36524 - p.dayOfEra / 146096) / 365 =
      p.yearOfEra := by
  obtain ⟨century, fourYears, year, day, hcentury, hfourYears, hyear, hday, hleap⟩ := p
  obtain ⟨dayOfEra, hdayOfEra⟩ :
    ∃ number, number = 36524 * century + 1461 * fourYears + 365 * year + day := ⟨_, rfl⟩
  unfold Position.dayOfEra Position.yearOfEra
  dsimp only
  rw [← hdayOfEra]
  -- the last year may count one more leap day than have been, which does not complete a year
  have hleapDays : dayOfEra / 1460 = 25 * century + fourYears ∨
      dayOfEra / 1460 = 25 * century + fourYears + 1 ∧ year = 3 := by
    omega
  have hcenturies : dayOfEra / 36524 - dayOfEra / 146096 = century := by
    have hlast : dayOfEra < 36524 * (century + 1) ∨ century = 3 ∧ dayOfEra = 146096 := by omega
    rcases hlast with hlast | ⟨rfl, rfl⟩
    · have hquotient : dayOfEra / 36524 = century := by omega
      have hzero : dayOfEra / 146096 = 0 := by omega
      omega
    · rfl
  omega

end Position

/-- The date of a day of a year that begins in March. -/
def ofYearDay (year day : Int) : Date :=
  let month := (5 * day + 2) / 153
  let monthOfYear := if month < 10 then month + 3 else month - 9
  let dayOfMonth := day - monthStart month + 1
  ⟨if monthOfYear ≤ 2 then year + 1 else year, monthOfYear.toNat, dayOfMonth.toNat⟩

/-- A day of a year that begins in March; only a leap year has the last one. -/
structure IsYearDay (year day : Int) : Prop where
  nonneg : 0 ≤ day
  le : day ≤ 365
  leap (h : day = 365) : isLeapYear (year + 1) = true

theorem exists_ofDayNumber_eq (number : Int) :
    ∃ year day, IsYearDay year day ∧ yearStart year + day = number + 719468 ∧
      ofDayNumber number = ofYearDay year day := by
  obtain ⟨eras, heras⟩ : ∃ eras, eras = (number + 719468) / 146097 := ⟨_, rfl⟩
  obtain ⟨p, hp⟩ : ∃ p : Position, p.dayOfEra = (number + 719468) % 146097 :=
    Position.exists_dayOfEra_eq (by omega) (by omega)
  have hyear := p.yearOfEra_bounds
  have hstart := p.yearStart_yearOfEra
  refine ⟨p.yearOfEra + 400 * eras, p.day, ⟨p.day_bounds.1, p.day_bounds.2, fun h => ?_⟩, ?_, ?_⟩
  · rw [Int.add_right_comm, isLeapYear_add_eras]
    exact p.isLeapYear_of_day h
  · rw [yearStart_add_eras, hstart]
    omega
  · have hday : p.dayOfEra - (365 * p.yearOfEra + p.yearOfEra / 4 - p.yearOfEra / 100) = p.day := by
      unfold yearStart at hstart
      omega
    unfold ofDayNumber
    dsimp only
    rw [← hp, p.yearOfEra_eq, hday, ← heras]
    rfl

/-- The months from March to December begin one length after the other. -/
theorem daysInMonth_add_three (year : Int) {month : Nat} (h : month < 10) :
    (daysInMonth year (month + 3) : Int) = monthStart (month + 1) - monthStart month := by
  interval_cases month <;> rfl

namespace IsYearDay

variable {year day : Int} (h : IsYearDay year day)

include h

/-- A day of a year is in a month of it.  January and February are months of the next year. -/
theorem exists_month :
    ∃ month dayOfMonth : Nat, month ≤ 11 ∧ 1 ≤ dayOfMonth ∧
      day = monthStart month + dayOfMonth - 1 ∧ day < monthStart (month + 1) ∧
      ofYearDay year day =
        if month < 10 then ⟨year, month + 3, dayOfMonth⟩
        else ⟨year + 1, month - 9, dayOfMonth⟩ := by
  obtain ⟨hnonneg, hle, -⟩ := h
  obtain ⟨month, hmonth⟩ : ∃ month : Nat, (month : Int) = (5 * day + 2) / 153 :=
    ⟨((5 * day + 2) / 153).toNat, by omega⟩
  have hstart : monthStart month ≤ day := by
    unfold monthStart
    omega
  obtain ⟨dayOfMonth, hday⟩ : ∃ dayOfMonth : Nat, (dayOfMonth : Int) = day - monthStart month + 1 :=
    ⟨(day - monthStart month + 1).toNat, by omega⟩
  refine ⟨month, dayOfMonth, by omega, by omega, by omega, ?_, ?_⟩
  · unfold monthStart
    omega
  · rw [ofYearDay, ← hmonth, ← hday]
    by_cases hcase : month < 10
    · have hspring : (month : Int) < 10 := by omega
      have hlate : ¬ (month : Int) + 3 ≤ 2 := by omega
      rw [if_pos hcase, if_pos hspring, if_neg hlate]
      rfl
    · have hwinter : ¬ (month : Int) < 10 := by omega
      have hearly : (month : Int) - 9 ≤ 2 := by omega
      have hnumber : ((month : Int) - 9).toNat = month - 9 := by omega
      rw [if_neg hcase, if_neg hwinter, if_pos hearly, hnumber]
      rfl

theorem dayNumber_ofYearDay :
    dayNumber (ofYearDay year day) = yearStart year + day - 719468 := by
  obtain ⟨month, dayOfMonth, hmonth, hpos, hday, -, heq⟩ := h.exists_month
  rw [heq]
  by_cases hcase : month < 10
  · have hmod : (month + 3 + 9) % 12 = month := by omega
    rw [if_pos hcase, dayNumber]
    dsimp only
    rw [if_neg (by omega), hmod]
    unfold yearStart
    unfold monthStart at hday
    omega
  · have hmod : (month - 9 + 9) % 12 = month := by omega
    rw [if_neg hcase, dayNumber]
    dsimp only
    rw [if_pos (by omega), hmod, Int.add_sub_cancel]
    unfold yearStart
    unfold monthStart at hday
    omega

theorem le_daysInMonth :
    1 ≤ (ofYearDay year day).month ∧ (ofYearDay year day).month ≤ 12 ∧
      1 ≤ (ofYearDay year day).day ∧
      (ofYearDay year day).day ≤
        daysInMonth (ofYearDay year day).year (ofYearDay year day).month := by
  obtain ⟨month, dayOfMonth, hmonth, hpos, hday, hend, heq⟩ := h.exists_month
  rw [heq]
  by_cases hcase : month < 10
  · have hlength := daysInMonth_add_three year hcase
    rw [if_pos hcase]
    dsimp only
    omega
  · have hwinter : month = 10 ∨ month = 11 := by omega
    rw [if_neg hcase]
    dsimp only
    rcases hwinter with rfl | rfl
    · have hjanuary : daysInMonth (year + 1) (10 - 9) = 31 := rfl
      unfold monthStart at hday hend
      omega
    · have hfebruary : daysInMonth (year + 1) (11 - 9) =
          if isLeapYear (year + 1) then 29 else 28 := rfl
      have hle := h.le
      unfold monthStart at hday
      by_cases hleap : isLeapYear (year + 1) = true
      · rw [if_pos hleap] at hfebruary
        omega
      · have hne : day ≠ 365 := mt h.leap hleap
        rw [if_neg hleap] at hfebruary
        omega

theorem year_eq :
    (ofYearDay year day).year = if day < 306 then year else year + 1 := by
  obtain ⟨month, dayOfMonth, hmonth, hpos, hday, hend, heq⟩ := h.exists_month
  unfold monthStart at hday hend
  rw [heq]
  by_cases hcase : month < 10
  · rw [if_pos hcase, if_pos (by omega)]
  · rw [if_neg hcase, if_neg (by omega)]

theorem supported_year {number : Int}
    (hday : yearStart year + day = number + 719468) (hnumber : isSupportedDayNumber number = true) :
    firstYear ≤ (ofYearDay year day).year ∧ (ofYearDay year day).year ≤ lastYear := by
  have hfirst : dayNumber ⟨firstYear, 1, 1⟩ = yearStart (firstYear - 1) + 306 - 719468 := rfl
  have hlast : dayNumber ⟨lastYear, 12, 31⟩ = yearStart lastYear + 305 - 719468 := rfl
  rw [isSupportedDayNumber, hfirst, hlast, Bool.and_eq_true, decide_eq_true_eq,
    decide_eq_true_eq] at hnumber
  have hle := h.le
  have hnonneg := h.nonneg
  rw [h.year_eq]
  by_cases hcase : day < 306
  · have hyear : firstYear - 1 < year := lt_of_yearStart_lt (by omega)
    have hyear' : year < lastYear + 1 :=
      lt_of_yearStart_lt (by rw [yearStart_add_one]; split <;> omega)
    rw [if_pos hcase]
    omega
  · have hyear : firstYear - 1 < year + 1 :=
      lt_of_yearStart_lt (by rw [yearStart_add_one]; split <;> omega)
    have hyear' : year < lastYear := lt_of_yearStart_lt (by omega)
    rw [if_neg hcase]
    omega

end IsYearDay

theorem dayNumber_ofDayNumber (number : Int) : dayNumber (ofDayNumber number) = number := by
  obtain ⟨year, day, h, hday, heq⟩ := exists_ofDayNumber_eq number
  rw [heq, h.dayNumber_ofYearDay]
  omega

example : ofDayNumber 19782 = ⟨2024, 2, 29⟩ := by decide

/-- The date of a supported day number is one of the calendar. -/
theorem isValid_ofDayNumber {number : Int} (h : isSupportedDayNumber number = true) :
    (ofDayNumber number).IsValid := by
  obtain ⟨year, day, hday, hnumber, heq⟩ := exists_ofDayNumber_eq number
  obtain ⟨hmonth, hmonth', hpos, hlast⟩ := hday.le_daysInMonth
  have hsupported : firstYear ≤ (ofYearDay year day).year ∧ (ofYearDay year day).year ≤ lastYear :=
    hday.supported_year hnumber h
  rw [IsValid, heq, ofNumbers?,
    if_pos ⟨hsupported.1, hsupported.2, hmonth, hmonth', hpos, hlast⟩]

end EntityQuery.Date
