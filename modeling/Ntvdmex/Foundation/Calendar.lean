import Mathlib

/-!
# The Gregorian calendar

Years are counted from 0 and follow the Gregorian rule backwards.  A date is the
number of days from the first of January of year 0, which was a Saturday.  An era
is four hundred years counted from the first of March; the second half takes the
days of an era apart into centuries, four-year spans, years and days.
-/

namespace Ntvdmex.Foundation.Calendar

open Nat

/-! ## Dates -/

def IsLeapYear (year : Nat) : Prop :=
  year % 4 = 0 ∧ year % 100 ≠ 0 ∨ year % 400 = 0
deriving Decidable

def monthLength (year month : Nat) : Nat :=
  if month = 2 then if IsLeapYear year then 29 else 28
  else if month = 4 ∨ month = 6 ∨ month = 9 ∨ month = 11 then 30
  else if 1 ≤ month ∧ month ≤ 12 then 31
  else 0

def yearLength (year : Nat) : Nat :=
  if IsLeapYear year then 366 else 365

/-- The days of the years in front of `year`. -/
def daysBeforeYear : Nat → Nat
  | 0 => 0
  | year + 1 => daysBeforeYear year + yearLength year

/-- The days of the months in front of `month`. -/
def daysBeforeMonth (year : Nat) : Nat → Nat
  | 0 => 0
  | month + 1 => daysBeforeMonth year month + monthLength year month

def IsDate (year month day : Nat) : Prop :=
  1 ≤ month ∧ month ≤ 12 ∧ 1 ≤ day ∧ day ≤ monthLength year month
deriving Decidable

def dayNumber (year month day : Nat) : Nat :=
  daysBeforeYear year + daysBeforeMonth year month + (day - 1)

/-- Sunday is 0. -/
def weekday (number : Nat) : Nat :=
  (number + 6) % 7

/-- The first of January 2000 was a Saturday. -/
example : weekday (dayNumber 2000 1 1) = 6 := by decide +kernel

theorem daysBeforeMonth_of_january_february (year : Nat) :
    daysBeforeMonth year 1 = 0 ∧ daysBeforeMonth year 2 = 31 := by
  simp [daysBeforeMonth, monthLength]

/-- From March on the days in front of a month depend on the length of February alone. -/
theorem daysBeforeMonth_of_march {year month : Nat} (hlow : 3 ≤ month) (hhigh : month ≤ 12) :
    daysBeforeMonth year month = 31 + monthLength year 2 + (153 * (month - 3) + 2) / 5 := by
  generalize hfebruary : monthLength year 2 = february
  have hmarch : daysBeforeMonth year 3 = 31 + february := by
    rw [← hfebruary]
    simp [daysBeforeMonth, monthLength]
  interval_cases month <;>
    simp [daysBeforeMonth, monthLength] at hmarch ⊢ <;> omega

theorem daysBeforeMonth_end (year : Nat) : daysBeforeMonth year 13 = yearLength year := by
  unfold yearLength
  split_ifs with hleap <;> simp [daysBeforeMonth, monthLength, hleap]

theorem daysBeforeMonth_le (year : Nat) {month later : Nat} (hle : month ≤ later) :
    daysBeforeMonth year month ≤ daysBeforeMonth year later := by
  induction later, hle using le_induction with
  | base => exact Nat.le_refl _
  | succ later _ ih => exact ih.trans (Nat.le_add_right _ _)

theorem daysBeforeYear_le {year later : Nat} (hle : year ≤ later) :
    daysBeforeYear year ≤ daysBeforeYear later := by
  induction later, hle using le_induction with
  | base => exact Nat.le_refl _
  | succ later _ ih => exact ih.trans (Nat.le_add_right _ _)

theorem dayNumber_lt_next_month {year month day : Nat} (hdate : IsDate year month day) :
    daysBeforeMonth year month + (day - 1) < daysBeforeMonth year (month + 1) := by
  obtain ⟨-, -, hday, hlength⟩ := hdate
  rw [daysBeforeMonth]
  omega

theorem dayNumber_lt_next_year {year month day : Nat} (hdate : IsDate year month day) :
    dayNumber year month day < daysBeforeYear (year + 1) := by
  have hmonth := dayNumber_lt_next_month hdate
  have hend := daysBeforeMonth_le year (Nat.add_le_add_right hdate.2.1 1)
  rw [daysBeforeMonth_end] at hend
  rw [dayNumber, daysBeforeYear]
  omega

section

variable {year month day year' month' day' : Nat} (hdate : IsDate year month day)
    (hdate' : IsDate year' month' day')

include hdate hdate'

theorem dayNumber_lt
    (hlt : year < year' ∨ year = year' ∧ (month < month' ∨ month = month' ∧ day < day')) :
    dayNumber year month day < dayNumber year' month' day' := by
  rcases hlt with hyear | ⟨rfl, hmonth | ⟨rfl, hday⟩⟩
  · have hnext := dayNumber_lt_next_year hdate
    have hle : daysBeforeYear (year + 1) ≤ daysBeforeYear year' := daysBeforeYear_le hyear
    unfold dayNumber at hnext ⊢
    lia
  · have hnext := dayNumber_lt_next_month hdate
    have hle : daysBeforeMonth year (month + 1) ≤ daysBeforeMonth year month' :=
      daysBeforeMonth_le year hmonth
    unfold dayNumber
    lia
  · have hfirst := hdate.2.2.1
    unfold dayNumber
    lia

theorem dayNumber_injective (heq : dayNumber year month day = dayNumber year' month' day') :
    year = year' ∧ month = month' ∧ day = day' := by
  by_contra hne
  have hcases : (year < year' ∨ year = year' ∧ (month < month' ∨ month = month' ∧ day < day')) ∨
      (year' < year ∨ year' = year ∧ (month' < month ∨ month' = month ∧ day' < day)) := by
    lia
  rcases hcases with hlt | hlt
  · exact absurd heq (Nat.ne_of_lt (dayNumber_lt hdate hdate' hlt))
  · exact absurd heq.symm (Nat.ne_of_lt (dayNumber_lt hdate' hdate hlt))

end

theorem era_split {day : Nat} (hday : day < 146096) :
    ∃ century span year rest, day = 36524 * century + 1461 * span + 365 * year + rest ∧
      century < 4 ∧ span < 25 ∧ year < 4 ∧ rest ≤ 365 ∧
      (rest = 365 → year = 3 ∧ span ≠ 24) := by
  by_cases hlast : day % 36524 % 1461 = 1460
  · exact ⟨day / 36524, day % 36524 / 1461, 3, 365, by omega⟩
  · exact ⟨day / 36524, day % 36524 / 1461, day % 36524 % 1461 / 365,
      day % 36524 % 1461 % 365, by omega⟩

def eraYear (day : Nat) : Nat :=
  (day - day / 1460 + day / 36524 - day / 146096) / 365

def eraYearStart (year : Nat) : Nat :=
  365 * year + year / 4 - year / 100

theorem eraYear_of_split {century span year rest : Nat} (hcentury : century < 4)
    (hspan : span < 25) (hyear : year < 4) (hrest : rest ≤ 365)
    (hleap : rest = 365 → year = 3 ∧ span ≠ 24) :
    eraYear (36524 * century + 1461 * span + 365 * year + rest) =
      100 * century + 4 * span + year := by
  obtain ⟨four, hfour⟩ : ∃ four,
      (36524 * century + 1461 * span + 365 * year + rest) / 1460 = four := ⟨_, rfl⟩
  have hera : (36524 * century + 1461 * span + 365 * year + rest) / 146096 = 0 := by lia
  have hcenturies : (36524 * century + 1461 * span + 365 * year + rest) / 36524 = century := by
    lia
  rw [eraYear, hera, hcenturies, hfour]
  omega

theorem eraYearStart_of_split (century : Nat) {span year : Nat} (hspan : span <
    25) (hyear : year < 4) :
    eraYearStart (100 * century + 4 * span + year) =
      36524 * century + 1461 * span + 365 * year := by
  unfold eraYearStart
  lia

theorem eraYear_spec {day : Nat} (hday : day < 146097) :
    eraYear day ≤ 399 ∧ eraYearStart (eraYear day) ≤ day ∧
      day ≤ eraYearStart (eraYear day) + 365 ∧
      (day = eraYearStart (eraYear day) + 365 → IsLeapYear (eraYear day + 1)) := by
  by_cases hlast : day = 146096
  · rw [hlast]
    decide
  · obtain ⟨century, span, year, rest, hsplit, hcentury, hspan, hyear, hrest, hleap⟩ :=
      era_split (Nat.lt_of_le_of_ne (le_of_lt_succ hday) hlast)
    have hera := eraYear_of_split hcentury hspan hyear hrest hleap
    have hstart := eraYearStart_of_split century hspan hyear
    rw [hsplit, hera, hstart]
    refine ⟨by lia, by lia, by lia, fun hfull => ?_⟩
    have hrestFull : rest = 365 := by lia
    obtain ⟨hthird, hnotLast⟩ := hleap hrestFull
    unfold IsLeapYear
    lia

/-! ## Years from the first of March -/

def marchYearStart (year : Nat) : Nat :=
  365 * year + year / 4 - year / 100 + year / 400

def marchMonthStart (month : Nat) : Nat :=
  (153 * month + 2) / 5

theorem marchYearStart_add_eras (year eras : Nat) :
    marchYearStart (year + 400 * eras) = marchYearStart year + 146097 * eras := by
  have hfour : (year + 400 * eras) / 4 = year / 4 + 100 * eras := by lia
  have hhundred : (year + 400 * eras) / 100 = year / 100 + 4 * eras := by lia
  have hera : (year + 400 * eras) / 400 = year / 400 + eras := by lia
  have hle : year / 100 ≤ year / 4 := div_le_div_left (by decide) (by decide)
  rw [marchYearStart, marchYearStart, hfour, hhundred, hera]
  generalize year / 4 = fours, year / 100 = hundreds, year / 400 = eraCount at *
  clear hfour hhundred hera
  lia

theorem marchYearStart_era {year : Nat} (hyear : year ≤ 399) (era : Nat) :
    marchYearStart (year + 400 * era) = 146097 * era + eraYearStart year := by
  rw [marchYearStart_add_eras, marchYearStart, div_eq_of_lt (lt_succ_of_le hyear),
    Nat.add_comm]
  rfl

theorem isLeapYear_iff_dvd (year : Nat) :
    IsLeapYear year ↔ 4 ∣ year ∧ ¬100 ∣ year ∨ 400 ∣ year := by
  simp only [IsLeapYear, dvd_iff_mod_eq_zero, ne_eq]

theorem marchYearStart_succ (year : Nat) :
    marchYearStart (year + 1) = marchYearStart year + yearLength (year + 1) := by
  have hle : year / 100 ≤ year / 4 := div_le_div_left (by decide) (by decide)
  have hfour : 100 ∣ year + 1 → 4 ∣ year + 1 := Nat.dvd_trans (by decide)
  have hhundred : 400 ∣ year + 1 → 100 ∣ year + 1 := Nat.dvd_trans (by decide)
  rw [marchYearStart, marchYearStart, yearLength, if_congr (isLeapYear_iff_dvd _) rfl rfl,
    Nat.succ_div, Nat.succ_div, Nat.succ_div]
  generalize year / 4 = fours, year / 100 = hundreds, year / 400 = eras at *
  by_cases hera : 400 ∣ year + 1
  · lia
  · by_cases hcentury : 100 ∣ year + 1
    · lia
    · split <;> lia

theorem yearLength_eq (year : Nat) : yearLength year = 337 + monthLength year 2 := by
  rw [yearLength, monthLength, if_pos rfl]
  split <;> rfl

theorem daysBeforeYear_add_february (year : Nat) :
    daysBeforeYear year + monthLength year 2 = 29 + marchYearStart year := by
  induction year with
  | zero => rfl
  | succ year ih =>
    have hlength := yearLength_eq year
    have hnext := yearLength_eq (year + 1)
    rw [marchYearStart_succ, daysBeforeYear]
    lia

theorem daysBeforeYear_succ (year : Nat) :
    daysBeforeYear (year + 1) = 366 + marchYearStart year := by
  have hfebruary := daysBeforeYear_add_february year
  have hlength := yearLength_eq year
  rw [daysBeforeYear]
  omega

theorem daysBeforeYear_eq (year : Nat) :
    daysBeforeYear year = 365 * year + (year + 3) / 4 - (year + 99) / 100 + (year + 399) / 400 := by
  cases year with
  | zero => rfl
  | succ year =>
    rw [daysBeforeYear_succ, marchYearStart]
    lia

theorem dayNumber_of_january_february (year : Nat) {month day : Nat}
    (hmonth : month = 1 ∨ month = 2) :
    dayNumber (year + 1) month day =
      60 + (marchYearStart year + marchMonthStart (month + 9) + (day - 1)) := by
  obtain ⟨hjanuary, hfebruary⟩ := daysBeforeMonth_of_january_february (year + 1)
  unfold dayNumber marchMonthStart
  rw [daysBeforeYear_succ]
  rcases hmonth with rfl | rfl
  · rw [hjanuary]
    lia
  · rw [hfebruary]
    lia

theorem dayNumber_of_march (year : Nat) {month day : Nat} (hlow : 3 ≤ month) (hhigh : month ≤ 12) :
    dayNumber year month day =
      60 + (marchYearStart year + marchMonthStart (month - 3) + (day - 1)) := by
  have hfirst := daysBeforeYear_add_february year
  have hmonth : daysBeforeMonth year month = 31 + monthLength year 2 + marchMonthStart (month - 3) :=
    daysBeforeMonth_of_march hlow hhigh
  unfold dayNumber
  lia

variable (dayOfYear : Nat)

def marchMonth : Nat :=
  (5 * dayOfYear + 2) / 153

def civilDate (days : Nat) : Nat × Nat × Nat :=
  let yearOfEra := eraYear (days % 146097)
  let dayOfYear := days % 146097 - eraYearStart yearOfEra
  let month := marchMonth dayOfYear
  let day := dayOfYear - marchMonthStart month + 1
  let year := yearOfEra + 400 * (days / 146097)
  if month < 10 then (year, month + 3, day) else (year + 1, month - 9, day)

theorem monthLength_of_march (year : Nat) {month : Nat} (hmonth : month < 10) :
    marchMonthStart month + monthLength year (month + 3) = marchMonthStart (month + 1) := by
  interval_cases month <;> rfl

theorem marchMonth_spec : marchMonthStart (marchMonth dayOfYear) ≤ dayOfYear ∧
      dayOfYear < marchMonthStart (marchMonth dayOfYear + 1) := by
  unfold marchMonth marchMonthStart
  lia

theorem day_le_monthLength {year dayOfYear : Nat} (hday : dayOfYear ≤ 365)
    (hleap : dayOfYear = 365 → IsLeapYear (year + 1)) :
    marchMonth dayOfYear ≤ 11 ∧
      dayOfYear - marchMonthStart (marchMonth dayOfYear) + 1 ≤
        if marchMonth dayOfYear < 10 then monthLength year (marchMonth dayOfYear + 3)
        else monthLength (year + 1) (marchMonth dayOfYear - 9) := by
  obtain ⟨hstart, hend⟩ := marchMonth_spec dayOfYear
  have hbound : marchMonth dayOfYear ≤ 11 := by
    unfold marchMonth
    lia
  refine ⟨hbound, ?_⟩
  by_cases hten : marchMonth dayOfYear < 10
  · have hlength := monthLength_of_march year hten
    rw [if_pos hten]
    lia
  · rw [if_neg hten]
    by_cases hjanuary : marchMonth dayOfYear = 10
    · have hlength : monthLength (year + 1) 1 = 31 := rfl
      rw [hjanuary] at hstart hend ⊢
      unfold marchMonthStart at hstart hend ⊢
      rw [show 10 - 9 = 1 by rfl, hlength]
      lia
    · have hfebruary : marchMonth dayOfYear = 11 := by lia
      rw [hfebruary] at hstart hend ⊢
      unfold marchMonthStart at hstart ⊢
      rw [show 11 - 9 = 2 by rfl, monthLength, if_pos rfl]
      by_cases hfull : dayOfYear = 365
      · rw [if_pos (hleap hfull)]
        lia
      · split_ifs <;> lia

theorem civilDate_spec (days : Nat) :
    IsDate (civilDate days).1 (civilDate days).2.1 (civilDate days).2.2 ∧
      dayNumber (civilDate days).1 (civilDate days).2.1 (civilDate days).2.2 = days + 60 := by
  have hera : days % 146097 < 146097 := mod_lt _ (by decide)
  obtain ⟨hyear, hstart, hend, hleap⟩ := eraYear_spec hera
  unfold civilDate
  set yearOfEra := eraYear (days % 146097) with hyearOfEra
  set dayOfYear := days % 146097 - eraYearStart yearOfEra with hdayOfYear
  have hlast : dayOfYear ≤ 365 := by lia
  have hleapYear : dayOfYear = 365 → IsLeapYear (yearOfEra + 400 * (days / 146097) + 1) := by
    intro hfull
    have hcase := hleap (by lia)
    unfold IsLeapYear at hcase ⊢
    lia
  obtain ⟨hmonth, hlength⟩ := day_le_monthLength hlast hleapYear
  have hmonthStart := (marchMonth_spec dayOfYear).1
  have hsum := marchYearStart_era hyear (days / 146097)
  set month := marchMonth dayOfYear with hmonthDef
  by_cases hten : month < 10
  · rw [if_pos hten] at hlength ⊢
    refine ⟨⟨by dsimp only; lia, by dsimp only; lia, by dsimp only; lia, hlength⟩, ?_⟩
    rw [dayNumber_of_march _ (by lia) (by lia), hsum, Nat.add_sub_cancel]
    lia
  · rw [if_neg hten] at hlength ⊢
    refine ⟨⟨by dsimp only; lia, by dsimp only; lia, by dsimp only; lia, hlength⟩, ?_⟩
    rw [dayNumber_of_january_february _ (by lia), hsum,
      show month - 9 + 9 = month by lia]
    lia

/-! ## In C's division -/

theorem tdiv_of_nonneg {value : Int} (hvalue : 0 ≤ value) (divisor : Int) :
    value.tdiv divisor = value / divisor :=
  Int.tdiv_eq_ediv_of_nonneg hvalue

theorem tmod_of_nonneg {value : Int} (hvalue : 0 ≤ value) (divisor : Int) :
    value.tmod divisor = value % divisor :=
  Int.tmod_eq_emod_of_nonneg hvalue

theorem tdiv_natCast (n divisor : Nat) :
    (n : Int).tdiv (divisor : Int) = ((n / divisor : Nat) : Int) :=
  (Int.ofNat_tdiv n divisor).symm

/-- The year of the era, the day of the year and the month, in `INT64`. -/
theorem eraYear_cast {day : Nat} :
    ((day : Int) - (day : Int).tdiv 1460 + (day : Int).tdiv 36524 - (day : Int).tdiv 146096).tdiv
      365 = (eraYear day : Int) := by
  have hfour : (day : Int).tdiv 1460 = ((day / 1460 : Nat) : Int) := tdiv_natCast day 1460
  have hhundred : (day : Int).tdiv 36524 = ((day / 36524 : Nat) : Int) := tdiv_natCast day 36524
  have hera : (day : Int).tdiv 146096 = ((day / 146096 : Nat) : Int) := tdiv_natCast day 146096
  have hsum : (day : Int) - ((day / 1460 : Nat) : Int) + ((day / 36524 : Nat) : Int)
      - ((day / 146096 : Nat) : Int) =
      ((day - day / 1460 + day / 36524 - day / 146096 : Nat) : Int) := by
    lia
  rw [hfour, hhundred, hera, hsum]
  exact tdiv_natCast _ 365

theorem eraYearStart_cast (year : Nat) :
    365 * (year : Int) + (year : Int).tdiv 4 - (year : Int).tdiv 100 =
      (eraYearStart year : Int) := by
  have hfour : (year : Int).tdiv 4 = ((year / 4 : Nat) : Int) := tdiv_natCast year 4
  have hhundred : (year : Int).tdiv 100 = ((year / 100 : Nat) : Int) := tdiv_natCast year 100
  rw [hfour, hhundred, eraYearStart]
  lia

theorem marchMonth_cast : (5 * (dayOfYear : Int) + 2).tdiv 153 = (marchMonth dayOfYear : Int) :=
  tdiv_natCast (5 * dayOfYear + 2) 153

theorem marchMonthStart_cast (month : Nat) :
    (153 * (month : Int) + 2).tdiv 5 = (marchMonthStart month : Int) :=
  tdiv_natCast (153 * month + 2) 5

/-!
## The calendar before year 0

The Gregorian rule repeats every four hundred years, so it goes on below year 0.  A date of any
year is numbered by its era and by the date of the same month and day in the first era.
-/

theorem isLeapYear_add_eras (year eras : Nat) :
    IsLeapYear (year + 400 * eras) ↔ IsLeapYear year := by
  have hfour : (year + 400 * eras) % 4 = year % 4 := by lia
  have hhundred : (year + 400 * eras) % 100 = year % 100 := by lia
  rw [IsLeapYear, hfour, hhundred, add_mul_mod_self_left]
  rfl

theorem monthLength_add_eras (year eras month : Nat) :
    monthLength (year + 400 * eras) month = monthLength year month := by
  unfold monthLength
  simp only [isLeapYear_add_eras]

theorem daysBeforeMonth_add_eras (year eras month : Nat) :
    daysBeforeMonth (year + 400 * eras) month = daysBeforeMonth year month := by
  induction month with
  | zero => rfl
  | succ month ih => rw [daysBeforeMonth, daysBeforeMonth, ih, monthLength_add_eras]

theorem daysBeforeYear_add_eras (year eras : Nat) :
    daysBeforeYear (year + 400 * eras) = daysBeforeYear year + 146097 * eras := by
  have hnow := daysBeforeYear_add_february year
  have hthen := daysBeforeYear_add_february (year + 400 * eras)
  rw [monthLength_add_eras, marchYearStart_add_eras] at hthen
  omega

theorem dayNumber_add_eras (year eras month day : Nat) :
    dayNumber (year + 400 * eras) month day = dayNumber year month day + 146097 * eras := by
  unfold dayNumber
  rw [daysBeforeYear_add_eras, daysBeforeMonth_add_eras]
  omega

/-! ## Dates of any year -/

def IsCivilLeapYear (year : Int) : Prop :=
  year % 4 = 0 ∧ year % 100 ≠ 0 ∨ year % 400 = 0
deriving Decidable

def civilMonthLength (year : Int) (month : Nat) : Nat :=
  if month = 2 then if IsCivilLeapYear year then 29 else 28
  else if month = 4 ∨ month = 6 ∨ month = 9 ∨ month = 11 then 30
  else if 1 ≤ month ∧ month ≤ 12 then 31
  else 0

def IsCivilDate (year : Int) (month day : Nat) : Prop :=
  1 ≤ month ∧ month ≤ 12 ∧ 1 ≤ day ∧ day ≤ civilMonthLength year month
deriving Decidable

def nextCivilDate (date : Int × Nat × Nat) : Int × Nat × Nat :=
  if date.2.2 < civilMonthLength date.1 date.2.1 then (date.1, date.2.1, date.2.2 + 1)
  else if date.2.1 < 12 then (date.1, date.2.1 + 1, 1)
  else (date.1 + 1, 1, 1)

def civilNumber (year : Int) (month day : Nat) : Int :=
  dayNumber (year % 400).toNat month day + 146097 * (year / 400)

theorem civilYear_split (year : Int) :
    ∃ base : Nat, base < 400 ∧ year = (base : Int) + 400 * (year / 400) ∧
      (year % 400).toNat = base := by
  refine ⟨(year % 400).toNat, ?_, ?_, rfl⟩
  · lia
  · lia

theorem civilMonthLength_eq (base : Nat) (era : Int) (month : Nat) :
    civilMonthLength ((base : Int) + 400 * era) month = monthLength base month := by
  have hleap : IsCivilLeapYear ((base : Int) + 400 * era) ↔ IsLeapYear base := by
    have hfour : ((base : Int) + 400 * era) % 4 = (base % 4 : Nat) := by lia
    have hhundred : ((base : Int) + 400 * era) % 100 = (base % 100 : Nat) := by lia
    have hera : ((base : Int) + 400 * era) % 400 = (base % 400 : Nat) := by lia
    rw [IsCivilLeapYear, hfour, hhundred, hera]
    exact_mod_cast Iff.rfl
  unfold civilMonthLength monthLength
  simp only [hleap]

theorem isCivilDate_iff (base : Nat) (era : Int) (month day : Nat) :
    IsCivilDate ((base : Int) + 400 * era) month day ↔ IsDate base month day := by
  unfold IsCivilDate IsDate
  rw [civilMonthLength_eq]

theorem civilNumber_eq (base : Nat) (era : Int) (month day : Nat) :
    civilNumber ((base : Int) + 400 * era) month day =
      dayNumber base month day + 146097 * era := by
  have hbase : base = base % 400 + 400 * (base / 400) := (mod_add_div base 400).symm
  have hyear : (((base : Int) + 400 * era) % 400).toNat = base % 400 := by lia
  have hera : ((base : Int) + 400 * era) / 400 = ((base / 400 : Nat) : Int) + era := by lia
  have hnumber := dayNumber_add_eras (base % 400) (base / 400) month day
  rw [← hbase] at hnumber
  unfold civilNumber
  rw [hyear, hera, hnumber]
  push_cast
  ring

theorem dayNumber_lt_era {year month day : Nat} (hyear : year < 400)
    (hdate : IsDate year month day) : dayNumber year month day < 146097 := by
  have hnext := dayNumber_lt_next_year hdate
  have hlast : daysBeforeYear (year + 1) ≤ daysBeforeYear 400 := daysBeforeYear_le hyear
  have hera : daysBeforeYear 400 = 146097 := by
    rw [daysBeforeYear_eq]
  omega

theorem civilNumber_injective {year year' : Int} {month day month' day' : Nat}
    (hdate : IsCivilDate year month day) (hdate' : IsCivilDate year' month' day')
    (heq : civilNumber year month day = civilNumber year' month' day') :
    year = year' ∧ month = month' ∧ day = day' := by
  obtain ⟨base, hbase, hyear, -⟩ := civilYear_split year
  obtain ⟨base', hbase', hyear', -⟩ := civilYear_split year'
  rw [hyear] at hdate heq ⊢
  rw [hyear'] at hdate' heq ⊢
  rw [isCivilDate_iff] at hdate hdate'
  rw [civilNumber_eq, civilNumber_eq] at heq
  have hlt := dayNumber_lt_era hbase hdate
  have hlt' := dayNumber_lt_era hbase' hdate'
  have hera : year / 400 = year' / 400 := by lia
  have hnumber : dayNumber base month day = dayNumber base' month' day' := by lia
  obtain ⟨rfl, rfl, rfl⟩ := dayNumber_injective hdate hdate' hnumber
  exact ⟨by rw [hera], rfl, rfl⟩

theorem nextCivilDate_spec {year : Int} {month day : Nat} (hdate : IsCivilDate year month day) :
    IsCivilDate (nextCivilDate (year, month, day)).1 (nextCivilDate (year, month, day)).2.1
        (nextCivilDate (year, month, day)).2.2 ∧
      civilNumber (nextCivilDate (year, month, day)).1 (nextCivilDate (year, month, day)).2.1
          (nextCivilDate (year, month, day)).2.2 = civilNumber year month day + 1 := by
  obtain ⟨base, hbase, hyear, -⟩ := civilYear_split year
  obtain ⟨hlow, hhigh, hfirst, hlength⟩ := hdate
  have hsame := civilMonthLength_eq base (year / 400)
  rw [← hyear] at hsame
  unfold nextCivilDate
  by_cases hday : day < civilMonthLength year month
  · rw [if_pos hday]
    refine ⟨⟨hlow, hhigh, Nat.le_add_left 1 day, hday⟩, ?_⟩
    rw [hyear, civilNumber_eq, civilNumber_eq]
    unfold dayNumber
    lia
  · rw [if_neg hday]
    have hlast : day = monthLength base month := by
      rw [← hsame]
      lia
    by_cases hmonth : month < 12
    · have hpositive : 1 ≤ civilMonthLength year (month + 1) := by
        unfold civilMonthLength
        split_ifs <;> lia
      rw [if_pos hmonth]
      refine ⟨⟨Nat.le_add_left 1 month, hmonth, le_rfl, hpositive⟩, ?_⟩
      rw [hyear, civilNumber_eq, civilNumber_eq]
      unfold dayNumber
      rw [daysBeforeMonth, ← hlast]
      lia
    · rw [if_neg hmonth]
      have hdecember : month = 12 := by lia
      have hlength : civilMonthLength (year + 1) 1 = 31 := rfl
      have hnewYear : IsCivilDate (year + 1) 1 1 := by
        refine ⟨le_rfl, by decide, le_rfl, ?_⟩
        rw [hlength]
        decide
      refine ⟨hnewYear, ?_⟩
      have hnext : year + 1 = ((base + 1 : Nat) : Int) + 400 * (year / 400) := by
        push_cast
        lia
      have hend := daysBeforeMonth_end base
      rw [daysBeforeMonth] at hend
      have hjanuary := (daysBeforeMonth_of_january_february (base + 1)).1
      have hnow := civilNumber_eq base (year / 400) month day
      rw [← hyear] at hnow
      rw [hnext, civilNumber_eq, hnow]
      unfold dayNumber
      rw [hdecember] at hlast ⊢
      rw [daysBeforeYear, hjanuary, hlast]
      lia

end Ntvdmex.Foundation.Calendar
