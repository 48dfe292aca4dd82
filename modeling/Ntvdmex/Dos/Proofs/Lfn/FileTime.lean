import Ntvdmex.Dos.Lfn
import Ntvdmex.Foundation.Calendar

/-!
# Days, dates and file times

The day numbers whose sum with the epoch days stays in 64 bits are the numbers of the calendar,
and the two conversions are inverse on them.  A date is split into its era and a date of the first
era, where the calendar of the natural numbers answers.
-/

namespace Ntvdmex.Dos.Lfn

open Foundation Foundation.Calendar Nat Option DosStamp

theorem int64_eq {value : Int} (hlow : -9223372036854775808 ≤ value)
    (hhigh : value < 9223372036854775808) : int64 value = some value :=
  if_pos ⟨hlow, hhigh⟩

theorem uint_natCast {n : Nat} (hn : n < 4294967296) : uint n = n := by
  unfold uint
  lia

variable {days year : Int}

theorem eraNumerator_years (hlow : -9223372036854775808 ≤ year - 399) :
    ∃ numerator, eraNumerator year 399 = some numerator ∧ numerator.tdiv 400 = year / 400 := by
  unfold eraNumerator
  by_cases hyear : 0 ≤ year
  · rw [if_pos hyear]
    exact ⟨year, rfl, tdiv_of_nonneg hyear 400⟩
  · rw [if_neg hyear, int64_eq hlow (by lia)]
    refine ⟨year - 399, rfl, ?_⟩
    have hneg : year - 399 = -(399 - year) := by ring
    rw [hneg, Int.neg_tdiv, tdiv_of_nonneg (by lia)]
    lia

theorem eraNumerator_days (hlow : -9223372036854775808 ≤ days - 146096) :
    ∃ numerator, eraNumerator days 146096 = some numerator ∧
      numerator.tdiv 146097 = days / 146097 := by
  unfold eraNumerator
  by_cases hdays : 0 ≤ days
  · rw [if_pos hdays]
    exact ⟨days, rfl, tdiv_of_nonneg hdays 146097⟩
  · rw [if_neg hdays, int64_eq hlow (by lia)]
    refine ⟨days - 146096, rfl, ?_⟩
    have hneg : days - 146096 = -(146096 - days) := by ring
    rw [hneg, Int.neg_tdiv, tdiv_of_nonneg (by lia)]
    lia

/-! ## Dates from days -/

def IsDayNumber (days : Int) : Prop :=
  -9223372036854775808 ≤ days ∧ days < 9223372036854056340
deriving Decidable

/-- The first of January 1970. -/
def unixNumber : Int := 719528

theorem dosLfnCivilFromDays_eq (hdays : IsDayNumber days) : dosLfnCivilFromDays days =
      some ((civilDate ((days + 719468) % 146097).toNat).1 + 400 * ((days + 719468) / 146097),
        (civilDate ((days + 719468) % 146097).toNat).2) := by
  obtain ⟨hlow, hhigh⟩ := hdays
  obtain ⟨numerator, hnumerator, hera⟩ :=
    @eraNumerator_days (days + 719468) (by lia)
  unfold dosLfnCivilFromDays dosLfnCivilEpochDays
  rw [int64_eq (by lia) (by lia)]
  dsimp only [bind_eq_bind, bind_some]
  rw [hnumerator]
  dsimp only [bind_some]
  rw [hera]
  obtain ⟨day, hday⟩ : ∃ day : Nat, (days + 719468) % 146097 = day :=
    ⟨((days + 719468) % 146097).toNat, by lia⟩
  have hdayOfEra : days + 719468 - (days + 719468) / 146097 * 146097 = (day : Int) := by lia
  have hdayLt : day < 146097 := by lia
  rw [hdayOfEra, hday, Int.toNat_natCast]
  generalize (days + 719468) / 146097 = era
  obtain ⟨hyear, hstart, hend, -⟩ := eraYear_spec hdayLt
  have hdayOfYear : (day : Int) - (eraYearStart (eraYear day) : Int) =
      ((day - eraYearStart (eraYear day) : Nat) : Int) := by lia
  have hmonth := marchMonth_spec (day - eraYearStart (eraYear day))
  unfold civilDate
  simp only [eraYear_cast, eraYearStart_cast, hdayOfYear, marchMonth_cast, marchMonthStart_cast,
    mod_eq_of_lt hdayLt, div_eq_of_lt hdayLt, Nat.mul_zero, Nat.add_zero]
  have hlast : day - eraYearStart (eraYear day) ≤ 365 := by lia
  generalize eraYear day = yearOfEra at *
  generalize day - eraYearStart yearOfEra = dayOfYear at *
  have hlastMonth : marchMonth dayOfYear ≤ 11 := by
    unfold marchMonth
    lia
  have hdayCast : uint ((dayOfYear : Int) - (marchMonthStart (marchMonth dayOfYear) : Int) + 1) =
      dayOfYear - marchMonthStart (marchMonth dayOfYear) + 1 := by
    unfold uint
    lia
  by_cases hten : marchMonth dayOfYear < 10
  · have hten' : ((marchMonth dayOfYear : Nat) : Int) < 10 := by lia
    have hmonthCast : uint ((marchMonth dayOfYear : Int) + 3) = marchMonth dayOfYear + 3 := by
      unfold uint
      lia
    rw [if_pos hten, if_pos hten', hmonthCast, hdayCast, if_neg (by lia), pure_def]
    dsimp only
    congr 2
    ring
  · have hten' : ¬ ((marchMonth dayOfYear : Nat) : Int) < 10 := by lia
    have hmonthCast : uint ((marchMonth dayOfYear : Int) - 9) = marchMonth dayOfYear - 9 := by
      unfold uint
      lia
    rw [if_neg hten, if_neg hten', hmonthCast, hdayCast, if_pos (by lia), pure_def]
    dsimp only
    congr 2
    push_cast
    ring

theorem dosLfnCivilFromDays_spec (hdays : IsDayNumber days) :
    ∃ year month day, dosLfnCivilFromDays days = some (year, month, day) ∧
      IsCivilDate year month day ∧ civilNumber year month day = days + unixNumber := by
  obtain ⟨hdate, hnumber⟩ := civilDate_spec ((days + 719468) % 146097).toNat
  refine ⟨_, _, _, dosLfnCivilFromDays_eq hdays, ?_, ?_⟩
  · rw [isCivilDate_iff]
    exact hdate
  · rw [civilNumber_eq, hnumber]
    unfold unixNumber
    lia

theorem civilNumber_of_march {month day : Nat} (hdate : IsCivilDate year month day) :
    ∃ (yearOfEra shiftedMonth : Nat) (era : Int), yearOfEra < 400 ∧ shiftedMonth ≤ 11 ∧
      year - (if month ≤ 2 then 1 else 0) = yearOfEra + 400 * era ∧
      (month : Int) + (if 2 < month then -3 else 9) = shiftedMonth ∧
      civilNumber year month day = 146097 * era +
        ((60 + (eraYearStart yearOfEra + marchMonthStart shiftedMonth + (day - 1)) : Nat) : Int) := by
  obtain ⟨hlow, hhigh, hday, -⟩ := hdate
  have hstart : ∀ yearOfEra < 400, marchYearStart yearOfEra = eraYearStart yearOfEra := by
    intro yearOfEra hlt
    have hsum := marchYearStart_era (le_of_lt_succ hlt) 0
    simpa using hsum
  by_cases hmonth : month ≤ 2
  · obtain ⟨base, hbase, hyear, -⟩ := civilYear_split (year - 1)
    have hnext : year = ((base + 1 : Nat) : Int) + 400 * ((year - 1) / 400) := by
      push_cast
      lia
    refine ⟨base, month + 9, (year - 1) / 400, hbase, by lia, ?_, ?_, ?_⟩
    · rw [if_pos hmonth]
      exact hyear
    · rw [if_neg (by lia)]
      push_cast
      ring
    · have hnumber := @dayNumber_of_january_february base month day (by lia)
      have hcivil := civilNumber_eq (base + 1) ((year - 1) / 400) month day
      rw [← hnext, hnumber, hstart base hbase] at hcivil
      rw [hcivil]
      ring
  · obtain ⟨base, hbase, hyear, -⟩ := civilYear_split year
    refine ⟨base, month - 3, year / 400, hbase, by lia, ?_, ?_, ?_⟩
    · rw [if_neg hmonth, sub_zero]
      exact hyear
    · rw [if_pos (by lia)]
      lia
    · have hnumber := @dayNumber_of_march base month day (by lia) hhigh
      have hcivil := civilNumber_eq base (year / 400) month day
      rw [← hyear, hnumber, hstart base hbase] at hcivil
      rw [hcivil]
      ring

theorem dosLfnDaysFromCivil_eq {month day : Nat} (hdate : IsCivilDate year month day)
    (hdays : IsDayNumber (civilNumber year month day - unixNumber)) :
    dosLfnDaysFromCivil year month day = some (civilNumber year month day - unixNumber) := by
  obtain ⟨yearOfEra, shiftedMonth, era, hyearOfEra, hshiftedMonth, hyear, hmonth, hnumber⟩ :=
    civilNumber_of_march hdate
  have hdayRange : 1 ≤ day ∧ day ≤ 31 := by
    obtain ⟨-, -, hday, hlength⟩ := hdate
    have hmost : civilMonthLength year month ≤ 31 := by
      unfold civilMonthLength
      split_ifs <;> lia
    lia
  have hyearStart : eraYearStart yearOfEra ≤ 145732 := by
    unfold eraYearStart
    lia
  have hmonthStart : marchMonthStart shiftedMonth ≤ 337 := by
    unfold marchMonthStart
    lia
  rw [hnumber] at hdays ⊢
  unfold IsDayNumber unixNumber at hdays
  have hshiftedCast : uint (shiftedMonth : Int) = shiftedMonth := uint_natCast (by lia)
  have hdword : dword (153 * shiftedMonth + 2) = 153 * shiftedMonth + 2 := dword_of_lt (by lia)
  have hdayOfYear : uint (((marchMonthStart shiftedMonth + day : Nat) : Int) - 1) =
      marchMonthStart shiftedMonth + (day - 1) := by
    unfold uint
    lia
  obtain ⟨numerator, hnumerator, hera⟩ :=
    @eraNumerator_years ((yearOfEra : Int) + 400 * era) (by lia)
  have heraEq : ((yearOfEra : Int) + 400 * era) / 400 = era := by lia
  have hrest : (yearOfEra : Int) + 400 * era - era * 400 = yearOfEra := by ring
  have hstart := eraYearStart_cast yearOfEra
  unfold dosLfnDaysFromCivil dosLfnCivilEpochDays
  rw [hyear, int64_eq (by lia) (by lia)]
  dsimp only [bind_eq_bind, bind_some]
  rw [hnumerator]
  dsimp only [bind_some]
  rw [hera, heraEq, hrest, hmonth, hshiftedCast, hdword]
  rw [show (153 * shiftedMonth + 2) / 5 = marchMonthStart shiftedMonth from rfl, hdayOfYear,
    mul_comm (yearOfEra : Int) 365, hstart, int64_eq (by lia) (by lia)]
  dsimp only [bind_some]
  rw [int64_eq (by lia) (by lia)]
  dsimp only [bind_some]
  rw [int64_eq (by lia) (by lia)]
  unfold unixNumber
  congr 1
  lia

/-- The two conversions are inverse between the day numbers and the dates that have one, day 0 is
the first of January 1970, and the next day number has the next date. -/
structure CivilInverse : Prop where
  epoch : dosLfnCivilFromDays 0 = some (1970, 1, 1)
  dates : ∀ days, IsDayNumber days → ∃ year month day,
    dosLfnCivilFromDays days = some (year, month, day) ∧ IsCivilDate year month day ∧
      dosLfnDaysFromCivil year month day = some days
  numbers : ∀ year month day, IsCivilDate year month day →
    IsDayNumber (civilNumber year month day - unixNumber) →
    ∃ days, dosLfnDaysFromCivil year month day = some days ∧ IsDayNumber days ∧
      dosLfnCivilFromDays days = some (year, month, day)
  next : ∀ days, IsDayNumber days → IsDayNumber (days + 1) →
    dosLfnCivilFromDays (days + 1) = (dosLfnCivilFromDays days).map nextCivilDate

theorem civilInverse : CivilInverse := by
  refine ⟨by decide, fun days hdays => ?_, fun year month day hdate hdays => ?_,
    fun days hdays hnext => ?_⟩
  · obtain ⟨year, month, day, hresult, hdate, hnumber⟩ := dosLfnCivilFromDays_spec hdays
    refine ⟨year, month, day, hresult, hdate, ?_⟩
    have hsame : civilNumber year month day - unixNumber = days := by lia
    rw [dosLfnDaysFromCivil_eq hdate (by rwa [hsame]), hsame]
  · refine ⟨_, dosLfnDaysFromCivil_eq hdate hdays, hdays, ?_⟩
    obtain ⟨year', month', day', hresult, hdate', hnumber⟩ := dosLfnCivilFromDays_spec hdays
    obtain ⟨rfl, rfl, rfl⟩ := civilNumber_injective hdate' hdate (by lia)
    exact hresult
  · obtain ⟨year, month, day, hresult, hdate, hnumber⟩ := dosLfnCivilFromDays_spec hdays
    obtain ⟨year', month', day', hresult', hdate', hnumber'⟩ := dosLfnCivilFromDays_spec hnext
    obtain ⟨hnextDate, hnextNumber⟩ := nextCivilDate_spec hdate
    obtain ⟨rfl, hmonth, hday⟩ := civilNumber_injective hdate' hnextDate (by lia)
    rw [hresult, hresult', hmonth, hday]
    rfl

end Ntvdmex.Dos.Lfn

/-!
## File times

A stamp that DOS can hold counts units of 10 ms from the first of January 1601.  The file time of a
stamp is that count in ticks, the stamp of a file time is the one with its count, and the count
keeps the order of the stamps.
-/

namespace Ntvdmex.Dos.Lfn

open Foundation Foundation.Calendar Nat Option DosStamp

variable (n : Nat)

theorem shiftRight_9 : n >>> 9 = n / 512 :=
  shiftRight_eq_div_pow n 9

theorem shiftRight_11 : n >>> 11 = n / 2048 :=
  shiftRight_eq_div_pow n 11

theorem shiftRight_5_and_15 : n >>> 5 &&& 0x0F = n / 32 % 16 := by
  rw [shiftRight_eq_div_pow]
  exact and_two_pow_sub_one_eq_mod _ 4

theorem shiftRight_5_and_63 : n >>> 5 &&& 0x3F = n / 32 % 64 := by
  rw [shiftRight_eq_div_pow]
  exact and_two_pow_sub_one_eq_mod _ 6

theorem and_31 : n &&& 0x1F = n % 32 :=
  and_two_pow_sub_one_eq_mod n 5

/-- Fields that do not overlap are added. -/
theorem or_fields {middle low bits : Nat} (high : Nat) (hlow : low < 32) (hmiddle : middle <
    2 ^ bits) :
    high <<< (bits + 5) ||| middle <<< 5 ||| low = (high * 2 ^ bits + middle) * 32 + low := by
  have hmiddleShift : middle <<< 5 < 2 ^ (bits + 5) := by
    rw [shiftLeft_eq, Nat.pow_add]
    exact Nat.mul_lt_mul_of_pos_right hmiddle (by decide)
  have hhigh : high <<< (bits + 5) ||| middle <<< 5 = (high * 2 ^ bits + middle) <<< 5 := by
    rw [← shiftLeft_add_eq_or_of_lt hmiddleShift, shiftLeft_eq, shiftLeft_eq,
      shiftLeft_eq, Nat.pow_add]
    ring
  rw [hhigh, ← shiftLeft_add_eq_or_of_lt hlow, shiftLeft_eq]

/-! ## Stamps -/

namespace DosStamp

def year (stamp : DosStamp) : Nat := 1980 + stamp.dosDate.toNat / 512
def month (stamp : DosStamp) : Nat := stamp.dosDate.toNat / 32 % 16
def day (stamp : DosStamp) : Nat := stamp.dosDate.toNat % 32
def hour (stamp : DosStamp) : Nat := stamp.dosTime.toNat / 2048
def minute (stamp : DosStamp) : Nat := stamp.dosTime.toNat / 32 % 64
def second (stamp : DosStamp) : Nat := stamp.dosTime.toNat % 32 * 2

/-- A date of the calendar and a time of the day. -/
structure IsValid (stamp : DosStamp) : Prop where
  date : IsDate stamp.year stamp.month stamp.day
  hour_le : stamp.hour ≤ 23
  minute_le : stamp.minute ≤ 59
  second_le : stamp.second ≤ 58
  tenMs_le : stamp.tenMs.toNat ≤ 199

/-- Units of 10 ms from midnight. -/
def timeOfDay (stamp : DosStamp) : Nat :=
  (stamp.hour * 3600 + stamp.minute * 60 + stamp.second) * 100 + stamp.tenMs.toNat

/-- Units of 10 ms from the first of January 1601. -/
def count (stamp : DosStamp) : Nat :=
  (dayNumber stamp.year stamp.month stamp.day - 584754) * 8640000 + stamp.timeOfDay

/-- The lexicographic order of the three numbers. -/
def Before (first second : DosStamp) : Prop :=
  first.dosDate < second.dosDate ∨ first.dosDate = second.dosDate ∧
    (first.dosTime < second.dosTime ∨ first.dosTime = second.dosTime ∧ first.tenMs < second.tenMs)

end DosStamp

section Stamps

variable {stamp : DosStamp}

theorem DosStamp.IsValid.timeOfDay_lt (hvalid : stamp.IsValid) : stamp.timeOfDay < 8640000 := by
  have hhour := hvalid.hour_le
  have hminute := hvalid.minute_le
  have hsecond := hvalid.second_le
  have htenMs := hvalid.tenMs_le
  unfold DosStamp.timeOfDay
  omega

theorem daysBeforeYear_values :
    daysBeforeYear 1980 = 723180 ∧ daysBeforeYear 2108 = 769931 := by
  rw [daysBeforeYear_eq, daysBeforeYear_eq]
  decide

theorem dayNumber_range {year month day : Nat} (hdate : IsDate year month day)
    (hlow : 1980 ≤ year) (hhigh : year ≤ 2107) :
    723180 ≤ dayNumber year month day ∧ dayNumber year month day < 769931 := by
  obtain ⟨hfirst, hlast⟩ := daysBeforeYear_values
  have hstart := daysBeforeYear_le hlow
  have hnext := dayNumber_lt_next_year hdate
  have hend : daysBeforeYear (year + 1) ≤ daysBeforeYear 2108 :=
    daysBeforeYear_le (succ_le_succ hhigh)
  refine ⟨?_, ?_⟩
  · rw [dayNumber]
    lia
  · lia

theorem DosStamp.year_le (stamp : DosStamp) : 1980 ≤ stamp.year ∧ stamp.year ≤ 2107 := by
  have hlt : stamp.dosDate.toNat < 65536 := stamp.dosDate.toNat_lt
  unfold DosStamp.year
  omega

theorem DosStamp.dosTime_eq (stamp : DosStamp) :
    stamp.dosTime.toNat = stamp.hour * 2048 + stamp.minute * 32 + stamp.second / 2 ∧
      stamp.minute < 64 ∧ stamp.second / 2 < 32 ∧ stamp.second = stamp.second / 2 * 2 := by
  unfold DosStamp.hour DosStamp.minute DosStamp.second
  have hhour : stamp.dosTime.toNat / 2048 = stamp.dosTime.toNat / 32 / 64 := by
    rw [Nat.div_div_eq_div_mul]
  rw [hhour]
  omega

theorem DosStamp.count_lt {first second : DosStamp} (hfirst : first.IsValid)
    (hsecond : second.IsValid) (hbefore : first.Before second) : first.count < second.count := by
  have hrest := hfirst.timeOfDay_lt
  have hrange := dayNumber_range hfirst.date first.year_le.1 first.year_le.2
  unfold DosStamp.count
  rcases hbefore with hdate | ⟨hdate, htime⟩
  · rw [UInt16.lt_iff_toNat_lt] at hdate
    have hlex : first.year < second.year ∨ first.year = second.year ∧
        (first.month < second.month ∨ first.month = second.month ∧ first.day < second.day) := by
      unfold DosStamp.year DosStamp.month DosStamp.day
      omega
    have hnumber := dayNumber_lt hfirst.date hsecond.date hlex
    omega
  · have hday : dayNumber first.year first.month first.day =
        dayNumber second.year second.month second.day := by
      unfold DosStamp.year DosStamp.month DosStamp.day
      rw [hdate]
    have htimes : first.timeOfDay < second.timeOfDay := by
      have hminute := hfirst.minute_le
      have hminute' := hsecond.minute_le
      have hseconds := hfirst.second_le
      have htenMs := hfirst.tenMs_le
      rcases htime with htime | ⟨htime, htenMs'⟩
      · obtain ⟨htimeEq, -, -, heven⟩ := first.dosTime_eq
        obtain ⟨htimeEq', -, -, heven'⟩ := second.dosTime_eq
        have hseconds' := hsecond.second_le
        rw [UInt16.lt_iff_toNat_lt, htimeEq, htimeEq'] at htime
        unfold DosStamp.timeOfDay
        omega
      · rw [UInt8.lt_iff_toNat_lt] at htenMs'
        unfold DosStamp.timeOfDay DosStamp.hour DosStamp.minute DosStamp.second
        rw [htime]
        omega
    rw [hday]
    omega

theorem DosStamp.before_trichotomy (first second : DosStamp) :
    first.Before second ∨ first = second ∨ second.Before first := by
  unfold DosStamp.Before
  simp only [UInt16.lt_iff_toNat_lt, UInt8.lt_iff_toNat_lt, ← UInt16.toNat_inj]
  by_cases hsame : first = second
  · exact Or.inr (Or.inl hsame)
  · have hne : ¬ (first.dosDate.toNat = second.dosDate.toNat ∧
        first.dosTime.toNat = second.dosTime.toNat ∧ first.tenMs.toNat = second.tenMs.toNat) := by
      rintro ⟨hdate, htime, htenMs⟩
      rw [UInt16.toNat_inj] at hdate htime
      rw [UInt8.toNat_inj] at htenMs
      apply hsame
      cases first
      cases second
      cases hdate
      cases htime
      cases htenMs
      rfl
    lia

theorem DosStamp.count_injective {first second : DosStamp} (hfirst : first.IsValid)
    (hsecond : second.IsValid) (hcount : first.count = second.count) : first = second := by
  rcases before_trichotomy first second with hbefore | hsame | hbefore
  · exact absurd hcount (Nat.ne_of_lt (DosStamp.count_lt hfirst hsecond hbefore))
  · exact hsame
  · exact absurd hcount.symm (Nat.ne_of_lt (DosStamp.count_lt hsecond hfirst hbefore))

end Stamps

/-! ## File times of stamps -/

section FileTimes

theorem dosLfnDaysInMonth_eq (year month : Nat) :
    dosLfnDaysInMonth year month = monthLength year month := by
  have hleap : ((year : Int).tmod 4 = 0 ∧ (year : Int).tmod 100 ≠ 0 ∨ (year : Int).tmod 400 = 0) ↔
      IsLeapYear year := by
    rw [tmod_of_nonneg (Int.natCast_nonneg year), tmod_of_nonneg (Int.natCast_nonneg year),
      tmod_of_nonneg (Int.natCast_nonneg year)]
    unfold IsLeapYear
    lia
  unfold dosLfnDaysInMonth
  simp only [hleap]
  by_cases hmonth : 1 ≤ month ∧ month ≤ 12
  · obtain ⟨hlow, hhigh⟩ := hmonth
    interval_cases month <;> simp [monthLength, daysInMonth]
  · rw [if_neg hmonth, if_neg (by lia)]
    unfold monthLength
    rw [if_neg (by lia), if_neg (by lia), if_neg hmonth]

theorem isCivilDate_natCast (year month day : Nat) :
    IsCivilDate year month day ↔ IsDate year month day := by
  have hiff := isCivilDate_iff year 0 month day
  rwa [mul_zero, add_zero] at hiff

theorem civilNumber_natCast (year month day : Nat) :
    civilNumber year month day = dayNumber year month day := by
  have heq := civilNumber_eq year 0 month day
  rwa [mul_zero, mul_zero, add_zero, add_zero] at heq

variable {stamp : DosStamp}

theorem DosStamp.IsValid.count_lt (hvalid : stamp.IsValid) :
    stamp.count * 100000 < 18446744073709551616 := by
  have hrest := hvalid.timeOfDay_lt
  have hrange := dayNumber_range hvalid.date stamp.year_le.1 stamp.year_le.2
  unfold DosStamp.count
  omega

theorem dosLfnDosToFileTime_eq (stamp : DosStamp) :
    dosLfnDosToFileTime stamp = fileTimeOfFields stamp.year stamp.month stamp.day stamp.hour
      stamp.minute stamp.second stamp.tenMs.toNat := by
  unfold dosLfnDosToFileTime
  simp only [shiftRight_9, shiftRight_11, shiftRight_5_and_15, shiftRight_5_and_63, and_31]
  rfl

theorem dosLfnDosToFileTime_valid (hvalid : stamp.IsValid) :
    dosLfnDosToFileTime stamp = some (some (UInt64.ofNat (stamp.count * 100000))) := by
  have hrange := dayNumber_range hvalid.date stamp.year_le.1 stamp.year_le.2
  have hcivil := civilNumber_natCast stamp.year stamp.month stamp.day
  have hdays : IsDayNumber (civilNumber stamp.year stamp.month stamp.day - unixNumber) := by
    unfold IsDayNumber unixNumber
    lia
  have hresult :=
    dosLfnDaysFromCivil_eq ((isCivilDate_natCast _ _ _).mpr hvalid.date) hdays
  obtain ⟨hlow, hhigh, hday, hlength⟩ := hvalid.date
  have hhour := hvalid.hour_le
  have hminute := hvalid.minute_le
  have hsecond := hvalid.second_le
  have htenMs := hvalid.tenMs_le
  have hdate : ¬ (stamp.month < 1 ∨ 12 < stamp.month ∨ stamp.day < 1 ∨
      dosLfnDaysInMonth stamp.year stamp.month < stamp.day) := by
    rw [dosLfnDaysInMonth_eq]
    lia
  have htime : ¬ (23 < stamp.hour ∨ 59 < stamp.minute ∨ 58 < stamp.second ∨
      199 < stamp.tenMs.toNat) := by
    lia
  rw [dosLfnDosToFileTime_eq]
  unfold fileTimeOfFields
  rw [if_neg hdate, if_neg htime, hresult]
  unfold unixNumber dosLfnFileTimeUnixDays dosLfnFileTimeTicksPerSecond dosLfnFileTimeTicksPer10Ms
  dsimp only [bind_eq_bind, bind_some, pure_def]
  rw [hcivil, int64_eq (by lia) (by lia)]
  dsimp only [bind_some]
  have hdaysCast : (((dayNumber stamp.year stamp.month stamp.day : Int) - 719528 +
      ((134774 : Nat) : Int)) % 18446744073709551616).toNat =
      dayNumber stamp.year stamp.month stamp.day - 584754 := by
    lia
  have hticks : ((dayNumber stamp.year stamp.month stamp.day - 584754) * 86400 +
      stamp.hour * 3600 + stamp.minute * 60 + stamp.second) * 10000000 +
        stamp.tenMs.toNat * 100000 = stamp.count * 100000 := by
    unfold DosStamp.count DosStamp.timeOfDay
    ring
  rw [hdaysCast, hticks]

theorem dosLfnDosToFileTime_invalid (hvalid : ¬ stamp.IsValid) :
    dosLfnDosToFileTime stamp = some none := by
  rw [dosLfnDosToFileTime_eq]
  unfold fileTimeOfFields
  by_cases hdate : stamp.month < 1 ∨ 12 < stamp.month ∨ stamp.day < 1 ∨
      dosLfnDaysInMonth stamp.year stamp.month < stamp.day
  · exact if_pos hdate
  · have htime : 23 < stamp.hour ∨ 59 < stamp.minute ∨ 58 < stamp.second ∨
        199 < stamp.tenMs.toNat := by
      by_contra htime
      rw [dosLfnDaysInMonth_eq] at hdate
      push Not at hdate htime
      obtain ⟨hlow, hhigh, hday, hlength⟩ := hdate
      obtain ⟨hhour, hminute, hsecond, htenMs⟩ := htime
      exact hvalid ⟨⟨hlow, hhigh, hday, hlength⟩, hhour, hminute, hsecond, htenMs⟩
    exact (if_neg hdate).trans (if_pos htime)

end FileTimes

section StampsOfFileTimes

theorem packed_fields {year month day hour minute second tenMs : Nat}
    (hyear : year < 128) (hmonth : month < 16) (hday : day < 32) (hhour : hour < 32)
    (hminute : minute < 64) (hsecond : second < 64) (htenMs : tenMs < 256) :
    let stamp : DosStamp :=
      { dosDate := UInt16.ofNat (year <<< 9 ||| month <<< 5 ||| day)
        dosTime := UInt16.ofNat (hour <<< 11 ||| minute <<< 5 ||| second / 2)
        tenMs := UInt8.ofNat tenMs }
    stamp.year = 1980 + year ∧ stamp.month = month ∧ stamp.day = day ∧ stamp.hour = hour ∧
      stamp.minute = minute ∧ stamp.second = second / 2 * 2 ∧ stamp.tenMs.toNat = tenMs := by
  have hdate : year <<< 9 ||| month <<< 5 ||| day = (year * 16 + month) * 32 + day :=
    @or_fields month day 4 year hday hmonth
  have htime : hour <<< 11 ||| minute <<< 5 ||| second / 2 =
      (hour * 64 + minute) * 32 + second / 2 :=
    @or_fields minute (second / 2) 6 hour (by lia) hminute
  have hdateCast : (UInt16.ofNat ((year * 16 + month) * 32 + day)).toNat =
      (year * 16 + month) * 32 + day := by
    rw [UInt16.toNat_ofNat']
    exact mod_eq_of_lt (by lia)
  have htimeCast : (UInt16.ofNat ((hour * 64 + minute) * 32 + second / 2)).toNat =
      (hour * 64 + minute) * 32 + second / 2 := by
    rw [UInt16.toNat_ofNat']
    exact mod_eq_of_lt (by lia)
  have htenMsCast : (UInt8.ofNat tenMs).toNat = tenMs := by
    rw [UInt8.toNat_ofNat']
    exact mod_eq_of_lt htenMs
  dsimp only
  unfold DosStamp.year DosStamp.month DosStamp.day DosStamp.hour DosStamp.minute DosStamp.second
  dsimp only
  rw [hdate, htime, hdateCast, htimeCast, htenMsCast]
  lia

theorem dosLfnFileTimeToDos_spec (fileTime : UInt64) :
    (∃ stamp, dosLfnFileTimeToDos fileTime = some (some stamp) ∧ stamp.IsValid ∧
      stamp.count = fileTime.toNat / 100000) ∨
    (dosLfnFileTimeToDos fileTime = some none ∧
      ∀ stamp : DosStamp, stamp.IsValid → stamp.count ≠ fileTime.toNat / 100000) := by
  have hlt : fileTime.toNat < 18446744073709551616 := fileTime.toNat_lt
  obtain ⟨count, hcount⟩ : ∃ count, fileTime.toNat / 100000 = count := ⟨_, rfl⟩
  have hseconds : fileTime.toNat / 10000000 = count / 100 := by
    rw [← hcount, Nat.div_div_eq_div_mul]
  have hremainder : fileTime.toNat % 10000000 / 100000 = count % 100 := by
    rw [← hcount]
    exact mod_mul_right_div_self fileTime.toNat 100000 100
  have hnumber : count / 100 / 86400 = count / 8640000 := Nat.div_div_eq_div_mul count 100 86400
  have hdays : IsDayNumber (((count / 8640000 : Nat) : Int) - ((134774 : Nat) : Int)) := by
    unfold IsDayNumber
    omega
  obtain ⟨year, month, day, hcivil, hdate, hcivilNumber⟩ := dosLfnCivilFromDays_spec hdays
  unfold unixNumber at hcivilNumber
  rw [hcount]
  unfold dosLfnFileTimeToDos dosLfnFileTimeTicksPerSecond dosLfnFileTimeTicksPer10Ms
    dosLfnFileTimeUnixDays dosLfnDosEpochYear dosLfnDosLastYear
  dsimp only
  rw [hseconds, hremainder, hnumber, hcivil]
  dsimp only [bind_eq_bind, bind_some]
  by_cases hout : year < ((1980 : Nat) : Int) ∨ ((2107 : Nat) : Int) < year
  · rw [if_pos hout]
    refine Or.inr ⟨rfl, fun stamp hvalid hsame => ?_⟩
    have hrest := hvalid.timeOfDay_lt
    have hrange := dayNumber_range hvalid.date stamp.year_le.1 stamp.year_le.2
    have hyears := stamp.year_le
    have hstampDate := (isCivilDate_natCast _ _ _).mpr hvalid.date
    have hstampNumber := civilNumber_natCast stamp.year stamp.month stamp.day
    unfold DosStamp.count at hsame
    have hyear := (civilNumber_injective hdate hstampDate (by omega)).1
    omega
  · rw [if_neg hout]
    obtain ⟨since, hsince⟩ : ∃ since : Nat, year = ((1980 + since : Nat) : Int) :=
      ⟨(year - 1980).toNat, by omega⟩
    rw [hsince, isCivilDate_natCast] at hdate
    rw [hsince, civilNumber_natCast] at hcivilNumber
    have hrange := dayNumber_range hdate (by omega) (by omega)
    obtain ⟨hlow, hhigh, hday, hlength⟩ := hdate
    have hmost : monthLength (1980 + since) month ≤ 31 := by
      unfold monthLength
      split_ifs <;> omega
    have huint : uint (year - ((1980 : Nat) : Int)) = since := by
      unfold uint
      omega
    have hodd : count / 100 % 86400 % 60 &&& 1 = count / 100 % 86400 % 60 % 2 := and_one_is_mod _
    rw [huint, hodd]
    refine Or.inl ⟨_, rfl, ?_⟩
    obtain ⟨hstampYear, hstampMonth, hstampDay, hstampHour, hstampMinute, hstampSecond,
        hstampTenMs⟩ :=
      @packed_fields since month day (count / 100 % 86400 / 3600) (count / 100 % 86400 / 60 % 60)
        (count / 100 % 86400 % 60) (count / 100 % 86400 % 60 % 2 * 100 + count % 100)
        (by omega) (by omega) (by omega) (by omega) (by omega) (by omega) (by omega)
    refine ⟨⟨?_, ?_, ?_, ?_, ?_⟩, ?_⟩
    · rw [hstampYear, hstampMonth, hstampDay]
      exact ⟨hlow, hhigh, hday, hlength⟩
    · rw [hstampHour]
      omega
    · rw [hstampMinute]
      omega
    · rw [hstampSecond]
      omega
    · rw [hstampTenMs]
      omega
    · unfold DosStamp.count DosStamp.timeOfDay
      rw [hstampYear, hstampMonth, hstampDay, hstampHour, hstampMinute, hstampSecond, hstampTenMs]
      omega

end StampsOfFileTimes

/-! ## The conversions -/

/-- The two conversions of times are inverse up to 10 ms and keep the order. -/
structure TimesInverse : Prop where
  stamps : ∀ stamp fileTime, dosLfnDosToFileTime stamp = some (some fileTime) →
    dosLfnFileTimeToDos fileTime = some (some stamp)
  fileTimes : ∀ fileTime stamp, dosLfnFileTimeToDos fileTime = some (some stamp) →
    ∃ rounded, dosLfnDosToFileTime stamp = some (some rounded) ∧
      rounded.toNat = fileTime.toNat / 100000 * 100000
  stampsOrder : ∀ first second firstTime secondTime,
    dosLfnDosToFileTime first = some (some firstTime) →
    dosLfnDosToFileTime second = some (some secondTime) →
    (first.Before second ↔ firstTime < secondTime)
  fileTimesOrder : ∀ firstTime secondTime first second,
    dosLfnFileTimeToDos firstTime = some (some first) →
    dosLfnFileTimeToDos secondTime = some (some second) →
    (first.Before second ↔ firstTime.toNat / 100000 < secondTime.toNat / 100000) ∧
      (first = second ↔ firstTime.toNat / 100000 = secondTime.toNat / 100000)
  noFault : ∀ fileTime stamp,
    (dosLfnFileTimeToDos fileTime).isSome ∧ (dosLfnDosToFileTime stamp).isSome

theorem dosLfnDosToFileTime_some {stamp : DosStamp} {fileTime : UInt64}
    (h : dosLfnDosToFileTime stamp = some (some fileTime)) :
    stamp.IsValid ∧ fileTime.toNat = stamp.count * 100000 := by
  by_cases hvalid : stamp.IsValid
  · rw [dosLfnDosToFileTime_valid hvalid] at h
    have hticks := some.inj (some.inj h)
    refine ⟨hvalid, ?_⟩
    rw [← hticks, UInt64.toNat_ofNat']
    exact mod_eq_of_lt hvalid.count_lt
  · rw [dosLfnDosToFileTime_invalid hvalid] at h
    cases h

theorem dosLfnFileTimeToDos_some {fileTime : UInt64} {stamp : DosStamp}
    (h : dosLfnFileTimeToDos fileTime = some (some stamp)) :
    stamp.IsValid ∧ stamp.count = fileTime.toNat / 100000 := by
  rcases dosLfnFileTimeToDos_spec fileTime with ⟨found, hfound, hvalid, hcount⟩ | ⟨hnone, -⟩
  · rw [hfound] at h
    cases h
    exact ⟨hvalid, hcount⟩
  · rw [hnone] at h
    cases h

/-- Valid stamps are in the order of their counts. -/
theorem DosStamp.before_iff {first second : DosStamp} (hfirst : first.IsValid)
    (hsecond : second.IsValid) : first.Before second ↔ first.count < second.count := by
  refine ⟨DosStamp.count_lt hfirst hsecond, fun hlt => ?_⟩
  rcases before_trichotomy first second with hbefore | hsame | hbefore
  · exact hbefore
  · rw [hsame] at hlt
    exact absurd hlt (lt_irrefl _)
  · exact absurd (DosStamp.count_lt hsecond hfirst hbefore) (Nat.lt_asymm hlt)

theorem timesInverse : TimesInverse := by
  refine ⟨?_, ?_, ?_, ?_, ?_⟩
  · intro stamp fileTime h
    obtain ⟨hvalid, hticks⟩ := dosLfnDosToFileTime_some h
    have hcount : stamp.count = fileTime.toNat / 100000 := by lia
    rcases dosLfnFileTimeToDos_spec fileTime with ⟨found, hfound, hfoundValid, hsame⟩ | ⟨-, hnone⟩
    · rw [hfound, count_injective hfoundValid hvalid (hsame.trans hcount.symm)]
    · exact absurd hcount (hnone stamp hvalid)
  · intro fileTime stamp h
    obtain ⟨hvalid, hcount⟩ := dosLfnFileTimeToDos_some h
    refine ⟨_, dosLfnDosToFileTime_valid hvalid, ?_⟩
    rw [UInt64.toNat_ofNat', mod_eq_of_lt hvalid.count_lt, hcount]
  · intro first second firstTime secondTime hfirst hsecond
    obtain ⟨hvalid, hticks⟩ := dosLfnDosToFileTime_some hfirst
    obtain ⟨hvalid', hticks'⟩ := dosLfnDosToFileTime_some hsecond
    rw [before_iff hvalid hvalid', UInt64.lt_iff_toNat_lt, hticks, hticks']
    omega
  · intro firstTime secondTime first second hfirst hsecond
    obtain ⟨hvalid, hcount⟩ := dosLfnFileTimeToDos_some hfirst
    obtain ⟨hvalid', hcount'⟩ := dosLfnFileTimeToDos_some hsecond
    rw [before_iff hvalid hvalid', ← hcount, ← hcount']
    refine ⟨Iff.rfl, fun hsame => by rw [hsame], count_injective hvalid hvalid'⟩
  · intro fileTime stamp
    constructor
    · rcases dosLfnFileTimeToDos_spec fileTime with ⟨found, hfound, -⟩ | ⟨hnone, -⟩
      · rw [hfound]
        rfl
      · rw [hnone]
        rfl
    · by_cases hvalid : stamp.IsValid
      · rw [dosLfnDosToFileTime_valid hvalid]
        rfl
      · rw [dosLfnDosToFileTime_invalid hvalid]
        rfl

theorem dos_lfn_times_inverse : TimesInverse ∧ CivilInverse :=
  ⟨timesInverse, civilInverse⟩

theorem dos_lfn_times_not_strict :
    dosLfnFileTimeToDos 119600064000000000 = some (some ⟨33, 0, 0⟩) ∧
      dosLfnFileTimeToDos 119600064000000001 = some (some ⟨33, 0, 0⟩) ∧
      dosLfnCivilFromDays 9223372036854775807 = none := by
  refine ⟨by decide, by decide, by decide⟩

end Ntvdmex.Dos.Lfn
