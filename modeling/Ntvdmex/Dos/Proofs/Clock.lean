import Ntvdmex.Dos.Clock
import Ntvdmex.Foundation.Calendar
import Ntvdmex.Foundation.Runs

/-!
# Packed times and the clock that is set from them

From the first of March of year 0 on, the day count of the code is the calendar's
and unpacking gives the calendar date back, so packing and unpacking are inverse
on valid times and packing keeps their order.
-/

namespace Ntvdmex.Dos.Clock

open Foundation.Calendar Int Nat DosClockTime

theorem unpackDays_eq (packed : Int) : unpackDays packed = (packed / 8640000, packed % 8640000) := by
  unfold unpackDays dosClockHundredthsPerDay
  by_cases hpacked : 0 ≤ packed
  · rw [tdiv_of_nonneg hpacked, tmod_of_nonneg hpacked]
    have hrest : 0 ≤ packed % 8640000 := emod_nonneg _ (by decide)
    rw [if_neg (not_lt.mpr hrest)]
  · have hneg : packed.tmod 8640000 = -((-packed) % 8640000) := by
      rw [← neg_neg packed, neg_tmod, neg_neg,
        tmod_eq_emod_of_nonneg (by lia)]
    by_cases hrest : packed.tmod 8640000 < 0
    · rw [if_pos hrest]
      ext <;> dsimp only <;> lia
    · rw [if_neg hrest]
      ext <;> dsimp only <;> lia

theorem dosClockDaysInMonth_eq (year month : Nat) :
    dosClockDaysInMonth year month = monthLength year month := by
  by_cases hmonth : month < 1 ∨ 12 < month
  · unfold dosClockDaysInMonth monthLength
    rw [if_pos hmonth, if_neg (by lia), if_neg (by lia), if_neg (by lia)]
  · have hhigh : month ≤ 12 := by lia
    have hleap : DosClockIsLeapYear year ↔ IsLeapYear year := Iff.rfl
    interval_cases month <;>
      simp [dosClockDaysInMonth, monthLength, daysInMonth, hleap]

theorem dosClockDays_eq {year month day : Nat} (hdate : IsDate year month day)
    (hfirst : month ≤ 2 → 1 ≤ year) :
    dosClockDays year month day = (dayNumber year month day : Int) - 60 := by
  obtain ⟨hlow, hhigh, hday, -⟩ := hdate
  obtain ⟨shiftedYear, hshiftedYear⟩ : ∃ shiftedYear : Nat,
      (year : Int) - (if month ≤ 2 then 1 else 0) = shiftedYear := by
    by_cases hmonth : month ≤ 2
    · rw [if_pos hmonth]
      exact ⟨year - 1, by lia⟩
    · rw [if_neg hmonth]
      exact ⟨year, by lia⟩
  obtain ⟨shiftedMonth, hshiftedMonth⟩ : ∃ shiftedMonth : Nat,
      (if 2 < month then (month : Int) - 3 else (month : Int) + 9) = shiftedMonth := by
    by_cases hmonth : 2 < month
    · rw [if_pos hmonth]
      exact ⟨month - 3, by lia⟩
    · rw [if_neg hmonth]
      exact ⟨month + 9, by lia⟩
  have hnumber : dayNumber year month day =
      60 + (marchYearStart shiftedYear + marchMonthStart shiftedMonth + (day - 1)) := by
    by_cases hmonth : month ≤ 2
    · rw [if_pos hmonth] at hshiftedYear
      rw [if_neg (by lia)] at hshiftedMonth
      have hyear : year = shiftedYear + 1 := by lia
      have hshift : shiftedMonth = month + 9 := by lia
      rw [hyear, hshift]
      exact dayNumber_of_january_february shiftedYear (by lia)
    · rw [if_neg hmonth] at hshiftedYear
      rw [if_pos (by lia)] at hshiftedMonth
      have hyear : year = shiftedYear := by lia
      have hshift : shiftedMonth = month - 3 := by lia
      rw [hyear, hshift]
      exact dayNumber_of_march shiftedYear (by lia) hhigh
  have hera : (shiftedYear : Int).tdiv 400 = ((shiftedYear / 400 : Nat) : Int) := by
    rw [tdiv_of_nonneg (by lia)]
    lia
  have hyearOfEra : (shiftedYear : Int) - ((shiftedYear / 400 : Nat) : Int) * 400 =
      ((shiftedYear % 400 : Nat) : Int) := by
    lia
  have hstart : marchYearStart shiftedYear =
      146097 * (shiftedYear / 400) + eraYearStart (shiftedYear % 400) := by
    have hspan := marchYearStart_era (le_of_lt_succ (mod_lt shiftedYear (by decide)))
      (shiftedYear / 400)
    rwa [mod_add_div] at hspan
  unfold dosClockDays
  simp only [dosClockMarchShift, dosClockMarchWrap, hshiftedYear, hshiftedMonth, hera, hyearOfEra,
    dosClockMonthDaysNumerator, dosClockMonthDaysRounding, dosClockMonthDaysDenominator,
    dosClockDaysPerYear, dosClockDaysPerEra]
  rw [tdiv_of_nonneg (by lia), tdiv_of_nonneg (by lia), tdiv_of_nonneg (by lia), hnumber,
    hstart]
  unfold eraYearStart marchMonthStart
  lia

/-- The day counts whose years fit a `UINT`, beyond all an `INT64` of hundredths can hold. -/
def dayLimit : Nat := 1099511627776

variable {days : Nat} {first time second : DosClockTime}

theorem civilDate_year_lt (hdays : days < dayLimit) : (civilDate days).1 < 4294967296 := by
  obtain ⟨hyear, -, -, -⟩ := eraYear_spec (mod_lt days (by decide : 0 < 146097))
  unfold dayLimit at hdays
  unfold civilDate
  dsimp only
  split_ifs <;> dsimp only <;> lia

theorem unpackDate_eq (hdays : days < dayLimit) : unpackDate (days : Int) = civilDate days := by
  have hyearLt := civilDate_year_lt hdays
  obtain ⟨hdate, -⟩ := civilDate_spec days
  obtain ⟨hyear, hstart, hend, hleap⟩ :=
    eraYear_spec (mod_lt days (by decide : 0 < 146097))
  have hera : (days : Int).tdiv 146097 = ((days / 146097 : Nat) : Int) :=
    tdiv_natCast days 146097
  have hdayOfEra : (days : Int) - ((days / 146097 : Nat) : Int) * 146097 =
      ((days % 146097 : Nat) : Int) := by
    lia
  have hdayOfYear : ((days % 146097 : Nat) : Int) - (eraYearStart (eraYear (days % 146097)) : Int) =
      ((days % 146097 - eraYearStart (eraYear (days % 146097)) : Nat) : Int) := by
    lia
  have hmonth := marchMonth_spec (days % 146097 - eraYearStart (eraYear (days % 146097)))
  unfold unpackDate civilDate
  unfold civilDate at hyearLt hdate
  simp only [natCast_nonneg, if_true, dosClockDaysPerEra, hera, hdayOfEra,
    dosClockDaysPerFourYearsLessOne, dosClockDaysPerCentury, dosClockDaysPerEraLessOne,
    dosClockDaysPerYear, eraYear_cast, eraYearStart_cast, hdayOfYear,
    dosClockMonthDaysDenominator, dosClockMonthDaysRounding, dosClockMonthDaysNumerator,
    marchMonth_cast, marchMonthStart_cast, dosClockShiftedJanuary, dosClockMarchShift,
    dosClockMarchWrap] at hyearLt hdate ⊢
  generalize eraYear (days % 146097) = yearOfEra at *
  generalize days % 146097 - eraYearStart yearOfEra = dayOfYear at *
  have hlastMonth : marchMonth dayOfYear ≤ 11 := by
    unfold marchMonth
    lia
  have hday : toUint ((dayOfYear : Int) - (marchMonthStart (marchMonth dayOfYear) : Int) + 1) =
      dayOfYear - marchMonthStart (marchMonth dayOfYear) + 1 := by
    unfold toUint
    lia
  by_cases hten : marchMonth dayOfYear < 10
  · have hten' : ((marchMonth dayOfYear : Nat) : Int) < 10 := by lia
    have hmonthCast : toUint ((marchMonth dayOfYear : Int) + 3) = marchMonth dayOfYear + 3 := by
      unfold toUint
      lia
    rw [if_pos hten] at hyearLt ⊢
    rw [if_pos hten', hmonthCast, hday, if_neg (by lia)]
    unfold toUint
    ext <;> dsimp only
    lia
  · have hten' : ¬ ((marchMonth dayOfYear : Nat) : Int) < 10 := by lia
    have hmonthCast : toUint ((marchMonth dayOfYear : Int) - 9) = marchMonth dayOfYear - 9 := by
      unfold toUint
      lia
    rw [if_neg hten] at hyearLt ⊢
    rw [if_neg hten', hmonthCast, hday, if_pos (by lia)]
    unfold toUint
    ext <;> dsimp only
    lia

/-! ## Date-times -/

def timeOfDay (time : DosClockTime) : Nat :=
  ((time.hour * 60 + time.minute) * 60 + time.second) * 100 + time.hundredths

def instant (time : DosClockTime) : Int :=
  (dayNumber time.year time.month time.day : Int) * 8640000 + timeOfDay time

/-- A date and a time of day, not before the first of March of year 0. -/
structure IsDateTime (time : DosClockTime) : Prop where
  date : IsDate time.year time.month time.day
  year : time.month ≤ 2 → 1 ≤ time.year
  time : DosClockIsTimeValid time.hour time.minute time.second time.hundredths

/-- The first date-time is earlier than the second. -/
def Earlier (first second : DosClockTime) : Prop :=
  (first.year < second.year ∨ first.year = second.year ∧
    (first.month < second.month ∨ first.month = second.month ∧ first.day < second.day)) ∨
  (first.year = second.year ∧ first.month = second.month ∧ first.day = second.day ∧
    timeOfDay first < timeOfDay second)

theorem timeOfDay_lt
    (htime : DosClockIsTimeValid time.hour time.minute time.second time.hundredths) :
    timeOfDay time < 8640000 := by
  obtain ⟨hhour, hminute, hsecond, hhundredths⟩ := htime
  unfold timeOfDay
  lia

theorem dayNumber_ge (htime : IsDateTime time) : 60 ≤ dayNumber time.year time.month time.day := by
  obtain ⟨⟨hlow, hhigh, hday, -⟩, hyear, -⟩ := htime
  by_cases hmonth : time.month ≤ 2
  · obtain ⟨year, hyear⟩ := Nat.exists_eq_add_of_le' (hyear hmonth)
    rw [hyear, dayNumber_of_january_february year (by lia)]
    exact Nat.le_add_right _ _
  · rw [dayNumber_of_march time.year (by lia) hhigh]
    exact Nat.le_add_right _ _

theorem dosClockPack_eq (htime : IsDateTime time) :
    dosClockPack time = instant time - 518400000 := by
  unfold dosClockPack instant timeOfDay dosClockHundredthsPerDay
  rw [dosClockDays_eq htime.date htime.year]
  push_cast
  ring

theorem dosClockPack_lt (hfirst : IsDateTime first) (hsecond : IsDateTime second)
    (hearlier : Earlier first second) : dosClockPack first < dosClockPack second := by
  have hfirstTime := timeOfDay_lt hfirst.time
  rw [dosClockPack_eq hfirst, dosClockPack_eq hsecond]
  unfold instant
  rcases hearlier with hdate | ⟨hyear, hmonth, hday, htime⟩
  · have hdays := dayNumber_lt hfirst.date hsecond.date hdate
    lia
  · rw [hyear, hmonth, hday]
    lia

/-! ## Unpacking -/

theorem dosClockUnpack_time (packed : Int) :
    DosClockIsTimeValid (dosClockUnpack packed).hour (dosClockUnpack packed).minute
      (dosClockUnpack packed).second (dosClockUnpack packed).hundredths ∧
    (timeOfDay (dosClockUnpack packed) : Int) = packed % 8640000 := by
  have hlow : 0 ≤ packed % 8640000 := emod_nonneg _ (by decide)
  obtain ⟨rest, hrest⟩ := eq_ofNat_of_zero_le hlow
  have hseconds : (rest : Int).tdiv 100 = ((rest / 100 : Nat) : Int) := tdiv_natCast rest 100
  have hminutes : ((rest / 100 : Nat) : Int).tdiv 60 = ((rest / 100 / 60 : Nat) : Int) :=
    tdiv_natCast _ 60
  have hhours : ((rest / 100 / 60 : Nat) : Int).tdiv 60 = ((rest / 100 / 60 / 60 : Nat) : Int) :=
    tdiv_natCast _ 60
  unfold dosClockUnpack DosClockIsTimeValid timeOfDay
  rw [unpackDays_eq]
  dsimp only
  rw [hrest, hseconds, hminutes, hhours, tmod_of_nonneg (natCast_nonneg _),
    tmod_of_nonneg (natCast_nonneg _), tmod_of_nonneg (natCast_nonneg _)]
  unfold toUint
  omega

theorem civilDate_year_pos (hmonth : (civilDate days).2.1 ≤ 2) : 1 ≤ (civilDate days).1 := by
  unfold civilDate at hmonth ⊢
  dsimp only at hmonth ⊢
  split_ifs at hmonth ⊢
  · dsimp only at hmonth
    omega
  · exact succ_le_succ (Nat.zero_le _)

theorem dosClockUnpack_spec {packed : Int} (hlow : 0 ≤ packed)
    (hhigh : packed < (dayLimit : Int) * 8640000) :
    IsDateTime (dosClockUnpack packed) ∧
      instant (dosClockUnpack packed) = packed + 518400000 ∧
      (dosClockUnpack packed).dayOfWeek =
        weekday (dayNumber (dosClockUnpack packed).year (dosClockUnpack packed).month
          (dosClockUnpack packed).day) := by
  obtain ⟨htime, hrest⟩ := dosClockUnpack_time packed
  have hdaysLow : 0 ≤ packed / 8640000 := ediv_nonneg hlow (by decide)
  obtain ⟨days, hdays⟩ := eq_ofNat_of_zero_le hdaysLow
  have hlimit : days < dayLimit := by
    omega
  have hdate : ((dosClockUnpack packed).year, (dosClockUnpack packed).month,
      (dosClockUnpack packed).day) = civilDate days := by
    unfold dosClockUnpack
    rw [unpackDays_eq]
    dsimp only
    rw [hdays, unpackDate_eq hlimit]
  obtain ⟨hisDate, hnumber⟩ := civilDate_spec days
  have hyear : (dosClockUnpack packed).month ≤ 2 → 1 ≤ (dosClockUnpack packed).year := by
    intro hmonth
    have hpos := @civilDate_year_pos days
    rw [← hdate] at hpos
    exact hpos hmonth
  rw [← hdate] at hisDate hnumber
  refine ⟨⟨hisDate, hyear, htime⟩, ?_, ?_⟩
  · unfold instant
    rw [hnumber, hrest]
    omega
  · rw [hnumber]
    unfold dosClockUnpack weekday dosClockDay0Weekday
    rw [unpackDays_eq]
    dsimp only
    rw [hdays, tmod_of_nonneg (natCast_nonneg _), tmod_of_nonneg (by omega)]
    unfold toUint
    omega

theorem eq_of_timeOfDay_eq
    (hfirst : DosClockIsTimeValid first.hour first.minute first.second first.hundredths)
    (hsecond : DosClockIsTimeValid second.hour second.minute second.second second.hundredths)
    (heq : timeOfDay first = timeOfDay second) :
    first.hour = second.hour ∧ first.minute = second.minute ∧ first.second = second.second ∧
      first.hundredths = second.hundredths := by
  obtain ⟨-, hminute, hseconds, hhundredths⟩ := hfirst
  obtain ⟨-, hminute', hseconds', hhundredths'⟩ := hsecond
  unfold timeOfDay at heq
  have hsame : (first.hour * 60 + first.minute) * 60 + first.second =
      (second.hour * 60 + second.minute) * 60 + second.second := by
    lia
  have hsameMinutes : first.hour * 60 + first.minute = second.hour * 60 + second.minute := by
    lia
  lia

theorem eq_of_instant_eq (hfirst : IsDateTime first) (hsecond : IsDateTime second)
    (heq : instant first = instant second) :
    first = { second with dayOfWeek := first.dayOfWeek } := by
  have hfirstTime := timeOfDay_lt hfirst.time
  have hsecondTime := timeOfDay_lt hsecond.time
  unfold instant at heq
  have hdays : dayNumber first.year first.month first.day =
      dayNumber second.year second.month second.day := by lia
  have htimes : timeOfDay first = timeOfDay second := by lia
  obtain ⟨hyear, hmonth, hday⟩ := dayNumber_injective hfirst.date hsecond.date hdays
  obtain ⟨hhour, hminute, hseconds, hhundredths⟩ :=
    eq_of_timeOfDay_eq hfirst.time hsecond.time htimes
  obtain ⟨year, month, day, hour, minute, seconds, hundredths, dayOfWeek⟩ := first
  simp only [mk.injEq]
  exact ⟨hyear, hmonth, hday, hhour, hminute, hseconds, hhundredths, trivial⟩

theorem dosClockUnpack_pack (htime : IsDateTime time)
    (hlimit : dayNumber time.year time.month time.day < dayLimit) :
    dosClockUnpack (dosClockPack time) =
      { time with dayOfWeek := weekday (dayNumber time.year time.month time.day) } := by
  have hge := dayNumber_ge htime
  have htimeLt := timeOfDay_lt htime.time
  have hpack := dosClockPack_eq htime
  have hinstant : instant time =
      (dayNumber time.year time.month time.day : Int) * 8640000 + timeOfDay time := rfl
  have hlow : 0 ≤ dosClockPack time := by lia
  have hhigh : dosClockPack time < (dayLimit : Int) * 8640000 := by lia
  obtain ⟨hisDateTime, hunpacked, hweekday⟩ := dosClockUnpack_spec hlow hhigh
  have heq := eq_of_instant_eq hisDateTime htime (by lia)
  have hyear := congrArg year heq
  have hmonth := congrArg month heq
  have hday := congrArg day heq
  rw [hyear, hmonth, hday] at hweekday
  rw [hweekday] at heq
  exact heq

theorem dosClockPack_unpack {packed : Int} (hlow : 0 ≤ packed)
    (hhigh : packed < (dayLimit : Int) * 8640000) :
    dosClockPack (dosClockUnpack packed) = packed := by
  obtain ⟨hisDateTime, hinstant, -⟩ := dosClockUnpack_spec hlow hhigh
  rw [dosClockPack_eq hisDateTime, hinstant]
  omega

/-!
## Setting the clock

A set makes the guest read what was set, and from there on the reading runs with
the host.  The time of day can only be set while the guest reads a date the day
count is right for; with a host clock that never runs backwards it always does.
-/

open Foundation

/-! ## Sequences of sets -/

def IsHostTime (time : DosClockTime) : Prop :=
  DosClockIsRealDate time.year time.month time.day ∧
    DosClockIsTimeValid time.hour time.minute time.second time.hundredths
deriving Decidable

inductive ClockEvent
  | setDate (hostNow : DosClockTime) (year month day : Nat)
  | setTime (hostNow : DosClockTime) (hour minute second hundredths : Nat)
  deriving DecidableEq

namespace ClockEvent

def hostNow : ClockEvent → DosClockTime
  | setDate hostNow _ _ _ => hostNow
  | setTime hostNow _ _ _ _ => hostNow

def IsValid : ClockEvent → Prop
  | setDate hostNow year month day => IsHostTime hostNow ∧ DosClockIsDosDateValid year month day
  | setTime hostNow hour minute second hundredths =>
    IsHostTime hostNow ∧ DosClockIsTimeValid hour minute second hundredths

def apply (offset : Int) : ClockEvent → Int
  | setDate hostNow year month day => dosClockSetDate hostNow offset year month day
  | setTime hostNow hour minute second hundredths =>
    dosClockSetTime hostNow offset hour minute second hundredths

end ClockEvent

def SetStep (offset : Int) (event : ClockEvent) (offset' : Int) : Prop :=
  event.IsValid ∧ offset' = event.apply offset

/-- At every host instant from `hostNow` on, the reading is a date-time with its weekday, and
has advanced as the host has. -/
def RunsWithHost (hostNow : DosClockTime) (offset : Int) : Prop :=
  ∀ later, IsHostTime later → instant hostNow ≤ instant later →
    IsDateTime (dosClockApplyOffset later offset) ∧
    instant (dosClockApplyOffset later offset) =
      instant (dosClockApplyOffset hostNow offset) + (instant later - instant hostNow) ∧
    (dosClockApplyOffset later offset).dayOfWeek =
      weekday (dayNumber (dosClockApplyOffset later offset).year
        (dosClockApplyOffset later offset).month (dosClockApplyOffset later offset).day)

/-- Right after the set the guest reads what was set and keeps the rest, and then runs with
the host. -/
def Kept (offset : Int) : ClockEvent → Prop
  | .setDate hostNow year month day =>
    let before := dosClockApplyOffset hostNow offset
    let after := dosClockApplyOffset hostNow (dosClockSetDate hostNow offset year month day)
    (after.year = year ∧ after.month = month ∧ after.day = day ∧
      after.hour = before.hour ∧ after.minute = before.minute ∧
      after.second = before.second ∧ after.hundredths = before.hundredths) ∧
    RunsWithHost hostNow (dosClockSetDate hostNow offset year month day)
  | .setTime hostNow hour minute second hundredths =>
    let before := dosClockApplyOffset hostNow offset
    let after := dosClockApplyOffset hostNow
      (dosClockSetTime hostNow offset hour minute second hundredths)
    (after.hour = hour ∧ after.minute = minute ∧ after.second = second ∧
      after.hundredths = hundredths ∧
      after.year = before.year ∧ after.month = before.month ∧ after.day = before.day) ∧
    RunsWithHost hostNow (dosClockSetTime hostNow offset hour minute second hundredths)

/-- Where the time of day can be set: the reading is not before the first of March of year 0
and well inside an `INT64`. -/
def ReadingInRange (offset : Int) : ClockEvent → Prop
  | .setDate _ _ _ _ => True
  | .setTime hostNow _ _ _ _ =>
    0 ≤ dosClockPack hostNow + offset ∧ dosClockPack hostNow + offset < 4611686018427387904

variable {offset : Int} {year : Nat} {event : ClockEvent} {month day : Nat}

theorem IsHostTime.isDateTime (htime : IsHostTime time) : IsDateTime time := by
  obtain ⟨⟨hfirst, -, hlow, hhigh, hday, hlength⟩, hvalid⟩ := htime
  rw [dosClockDaysInMonth_eq] at hlength
  exact ⟨⟨hlow, hhigh, hday, hlength⟩, fun _ => hfirst, hvalid⟩

theorem dayNumber_lt_of_year_le {last : Nat} (hdate : IsDate year month day)
    (hyear : year ≤ last) : dayNumber year month day < daysBeforeYear (last + 1) :=
  (dayNumber_lt_next_year hdate).trans_le (daysBeforeYear_le (succ_le_succ hyear))

theorem IsHostTime.dayNumber_lt (htime : IsHostTime time) :
    dayNumber time.year time.month time.day < 3652425 := by
  have hlt := dayNumber_lt_of_year_le htime.isDateTime.date htime.1.2.1
  rw [daysBeforeYear_eq] at hlt
  exact hlt

theorem IsHostTime.instant_lt (htime : IsHostTime time) : instant time < 31556952000000 := by
  have hdays := htime.dayNumber_lt
  have htimeOfDay := timeOfDay_lt htime.2
  unfold instant
  omega

/-! ## One set -/

/-- The offset that makes the host read as `target`. -/
theorem reading_of_target (hostNow : DosClockTime) {target : DosClockTime} (htarget : IsDateTime
    target)
    (hlimit : dayNumber target.year target.month target.day < dayLimit) :
    dosClockApplyOffset hostNow (dosClockPack target - dosClockPack hostNow) =
      { target with
        dayOfWeek := weekday (dayNumber target.year target.month target.day) } := by
  have hsum : dosClockPack hostNow + (dosClockPack target - dosClockPack hostNow) =
      dosClockPack target := by
    omega
  rw [dosClockApplyOffset, hsum]
  exact dosClockUnpack_pack htarget hlimit

theorem runsWithHost_of_target {hostNow target : DosClockTime} (hhost : IsHostTime hostNow)
    (htarget : IsDateTime target)
    (hlimit : dayNumber target.year target.month target.day < 600000000000) :
    RunsWithHost hostNow (dosClockPack target - dosClockPack hostNow) := by
  intro later hlater hle
  have hlaterPack := dosClockPack_eq hlater.isDateTime
  have hhostPack := dosClockPack_eq hhost.isDateTime
  have htargetPack := dosClockPack_eq htarget
  have hge := dayNumber_ge htarget
  have hlaterLt := hlater.instant_lt
  have htargetTime := timeOfDay_lt htarget.time
  have htargetInstant : instant target =
      (dayNumber target.year target.month target.day : Int) * 8640000 + timeOfDay target := rfl
  have hhostInstant : instant hostNow =
      (dayNumber hostNow.year hostNow.month hostNow.day : Int) * 8640000 + timeOfDay hostNow := rfl
  have hlimitInt : ((dayLimit : Nat) : Int) = 1099511627776 := rfl
  have hlow : 0 ≤ dosClockPack later + (dosClockPack target - dosClockPack hostNow) := by lia
  have hhigh : dosClockPack later + (dosClockPack target - dosClockPack hostNow) <
      (dayLimit : Int) * 8640000 := by
    lia
  have hsmall : dayNumber target.year target.month target.day < dayLimit := by
    lia
  obtain ⟨hisDateTime, hinstant, hweekday⟩ := dosClockUnpack_spec hlow hhigh
  refine ⟨hisDateTime, ?_, hweekday⟩
  have hafter : instant (dosClockApplyOffset hostNow
      (dosClockPack target - dosClockPack hostNow)) = instant target := by
    rw [reading_of_target hostNow htarget hsmall]
    rfl
  rw [hafter]
  unfold dosClockApplyOffset
  lia

theorem dosDate_isDate (hdate : DosClockIsDosDateValid year month day) :
    IsDate year month day ∧ 1980 ≤ year ∧ dayNumber year month day < 767010 := by
  obtain ⟨hfirst, hlast, -, -, hlow, hhigh, hday, hlength⟩ := hdate
  rw [dosClockDaysInMonth_eq] at hlength
  have hisDate : IsDate year month day := ⟨hlow, hhigh, hday, hlength⟩
  have hlt := dayNumber_lt_of_year_le hisDate hlast
  rw [daysBeforeYear_eq] at hlt
  exact ⟨hisDate, hfirst, hlt⟩

def dateTarget (hostNow : DosClockTime) (offset : Int) (year month day : Nat) : DosClockTime :=
  { dosClockApplyOffset hostNow offset with year, month, day }

def timeTarget (hostNow : DosClockTime) (offset : Int) (hour minute second hundredths : Nat) :
    DosClockTime :=
  { dosClockApplyOffset hostNow offset with
    hour, minute, second, hundredths }

theorem dateTarget_isDateTime (hostNow : DosClockTime) (offset : Int)
    (hdate : DosClockIsDosDateValid year month day) :
    IsDateTime (dateTarget hostNow offset year month day) := by
  obtain ⟨hisDate, hfirst, -⟩ := dosDate_isDate hdate
  obtain ⟨htime, -⟩ := dosClockUnpack_time (dosClockPack hostNow + offset)
  exact ⟨hisDate, fun _ => (by decide : 1 ≤ 1980).trans hfirst, htime⟩

theorem setDate_kept {hostNow : DosClockTime} (hhost : IsHostTime hostNow) (offset : Int)
    (hdate : DosClockIsDosDateValid year month day) :
    Kept offset (.setDate hostNow year month day) := by
  obtain ⟨-, -, hlimit⟩ := dosDate_isDate hdate
  have htarget := dateTarget_isDateTime hostNow offset hdate
  have hreading := reading_of_target hostNow htarget (Nat.lt_trans hlimit (by decide))
  refine ⟨?_, runsWithHost_of_target hhost htarget (Nat.lt_trans hlimit (by decide))⟩
  rw [show dosClockSetDate hostNow offset year month day =
    dosClockPack (dateTarget hostNow offset year month day) - dosClockPack hostNow from rfl, hreading]
  exact ⟨rfl, rfl, rfl, rfl, rfl, rfl, rfl⟩

theorem reading_in_range {hostNow : DosClockTime} (hlow : 0 ≤ dosClockPack hostNow + offset)
    (hhigh : dosClockPack hostNow + offset < 4611686018427387904) :
    IsDateTime (dosClockApplyOffset hostNow offset) ∧
      dayNumber (dosClockApplyOffset hostNow offset).year
        (dosClockApplyOffset hostNow offset).month
        (dosClockApplyOffset hostNow offset).day < 600000000000 := by
  have hlimitInt : ((dayLimit : Nat) : Int) = 1099511627776 := rfl
  obtain ⟨hisDateTime, hinstant, -⟩ := dosClockUnpack_spec hlow (by omega)
  refine ⟨hisDateTime, ?_⟩
  unfold instant at hinstant
  unfold dosClockApplyOffset
  omega

theorem setTime_kept {hostNow : DosClockTime} (hhost : IsHostTime hostNow)
    {hour minute second hundredths : Nat}
    (htime : DosClockIsTimeValid hour minute second hundredths)
    (hrange : ReadingInRange offset (.setTime hostNow hour minute second hundredths)) :
    Kept offset (.setTime hostNow hour minute second hundredths) := by
  obtain ⟨hbefore, hlimit⟩ := reading_in_range hrange.1 hrange.2
  have htarget : IsDateTime (timeTarget hostNow offset hour minute second hundredths) :=
    ⟨hbefore.date, hbefore.year, htime⟩
  have hreading := reading_of_target hostNow htarget (Nat.lt_trans hlimit (by decide))
  refine ⟨?_, runsWithHost_of_target hhost htarget hlimit⟩
  rw [show dosClockSetTime hostNow offset hour minute second hundredths =
    dosClockPack (timeTarget hostNow offset hour minute second hundredths)
      - dosClockPack hostNow from rfl, hreading]
  exact ⟨rfl, rfl, rfl, rfl, rfl, rfl, rfl⟩

theorem kept_of_inRange (hvalid : event.IsValid) (hrange : ReadingInRange offset event) :
    Kept offset event := by
  cases event with
  | setDate hostNow year month day => exact setDate_kept hvalid.1 offset hvalid.2
  | setTime hostNow hour minute second hundredths => exact setTime_kept hvalid.1 hvalid.2 hrange

/-! ## A host clock that never runs backwards -/

/-- The offset, and the instant of the last set. -/
structure ClockState where
  offset : Int
  last : Int

/-- One set, not before the last one, on a reading well inside an `INT64`. -/
def OrderedStep (state : ClockState) (event : ClockEvent) (state' : ClockState) : Prop :=
  event.IsValid ∧ state.last ≤ instant event.hostNow ∧
    dosClockPack event.hostNow + state.offset < 4611686018427387904 ∧
    state' = { offset := event.apply state.offset, last := instant event.hostNow }

def clockStart : ClockState where
  offset := 0
  last := instant { year := 1, month := 1, day := 1, hour := 0, minute := 0, second := 0,
                    hundredths := 0, dayOfWeek := 1 }

/-- The guest has never read a date before year 1. -/
def ReadsRealDates (state : ClockState) : Prop :=
  3162240000 ≤ state.last + state.offset

theorem clockStart_last : clockStart.last = 3162240000 := by decide

theorem OrderedStep.inRange {state state' : ClockState} (hstep : OrderedStep state event state')
    (hreads : ReadsRealDates state) : ReadingInRange state.offset event := by
  obtain ⟨hvalid, hlast, hlimit, -⟩ := hstep
  cases event with
  | setDate hostNow year month day => exact trivial
  | setTime hostNow hour minute second hundredths =>
    have hpack := dosClockPack_eq hvalid.1.isDateTime
    have hlast : state.last ≤ instant hostNow := hlast
    unfold ReadsRealDates at hreads
    exact ⟨by omega, hlimit⟩

theorem OrderedStep.readsRealDates {state state' : ClockState} (hreads : ReadsRealDates state)
    (hstep : OrderedStep state event state') : ReadsRealDates state' := by
  have hrange := hstep.inRange hreads
  obtain ⟨hvalid, hlast, hlimit, rfl⟩ := hstep
  unfold ReadsRealDates at hreads ⊢
  cases event with
  | setDate hostNow year month day =>
    obtain ⟨-, hfirst, -⟩ := dosDate_isDate hvalid.2
    have htargetPack := dosClockPack_eq (dateTarget_isDateTime hostNow state.offset hvalid.2)
    have hhostPack := dosClockPack_eq hvalid.1.isDateTime
    have hyears := daysBeforeYear_le hfirst
    have hinstant : instant (dateTarget hostNow state.offset year month day) =
        ((daysBeforeYear year + daysBeforeMonth year month + (day - 1) : Nat) : Int) * 8640000
          + timeOfDay (dateTarget hostNow state.offset year month day) := rfl
    rw [daysBeforeYear_eq 1980] at hyears
    change 3162240000 ≤ instant hostNow
      + (dosClockPack (dateTarget hostNow state.offset year month day) - dosClockPack hostNow)
    lia
  | setTime hostNow hour minute second hundredths =>
    have hlast : state.last ≤ instant hostNow := hlast
    have hlimitInt : ((dayLimit : Nat) : Int) = 1099511627776 := rfl
    obtain ⟨hlow, hhigh⟩ := hrange
    obtain ⟨hbefore, hbeforeInstant, -⟩ := dosClockUnpack_spec hlow (by lia)
    have htarget : IsDateTime (timeTarget hostNow state.offset hour minute second hundredths) :=
      ⟨hbefore.date, hbefore.year, hvalid.2⟩
    have htargetPack := dosClockPack_eq htarget
    have hhostPack := dosClockPack_eq hvalid.1.isDateTime
    have hbeforeTime := timeOfDay_lt hbefore.time
    have hsameDay : instant (timeTarget hostNow state.offset hour minute second hundredths) =
        instant (dosClockUnpack (dosClockPack hostNow + state.offset))
          - timeOfDay (dosClockUnpack (dosClockPack hostNow + state.offset))
          + timeOfDay (timeTarget hostNow state.offset hour minute second hundredths) := by
      rw [instant, instant, Int.add_sub_cancel]
      rfl
    have hdays : instant (dosClockUnpack (dosClockPack hostNow + state.offset)) =
        (dayNumber (dosClockUnpack (dosClockPack hostNow + state.offset)).year
          (dosClockUnpack (dosClockPack hostNow + state.offset)).month
          (dosClockUnpack (dosClockPack hostNow + state.offset)).day : Int) * 8640000
        + timeOfDay (dosClockUnpack (dosClockPack hostNow + state.offset)) := rfl
    change 3162240000 ≤ instant hostNow
      + (dosClockPack (timeTarget hostNow state.offset hour minute second hundredths)
        - dosClockPack hostNow)
    lia

theorem clock_keeps_what_was_set :
    (∀ time, IsHostTime time → dosClockUnpack (dosClockPack time) =
      { time with dayOfWeek := weekday (dayNumber time.year time.month time.day) }) ∧
    (∀ first second, IsHostTime first → IsHostTime second → Earlier first second →
      dosClockPack first < dosClockPack second) ∧
    (∀ events offset event offset', Run SetStep 0 events offset →
      SetStep offset event offset' → ReadingInRange offset event → Kept offset event) ∧
    (∀ events state event state', Run OrderedStep clockStart events state →
      OrderedStep state event state' → Kept state.offset event) := by
  refine ⟨?_, ?_, ?_, ?_⟩
  · intro time htime
    have hlimit := htime.dayNumber_lt
    exact dosClockUnpack_pack htime.isDateTime (Nat.lt_trans hlimit (by decide))
  · intro first second hfirst hsecond hearlier
    exact dosClockPack_lt hfirst.isDateTime hsecond.isDateTime hearlier
  · intro events offset event offset' _ hstep hrange
    exact kept_of_inRange hstep.1 hrange
  · intro events state event state' hrun hstep
    have hstart : ReadsRealDates clockStart := by
      unfold ReadsRealDates
      rw [clockStart_last]
      exact le_refl _
    have hreads := hrun.invariant ReadsRealDates
      (fun _ _ _ hreads hstep => hstep.readsRealDates hreads) hstart
    exact kept_of_inRange hstep.1 (hstep.inRange hreads)

def newYear (year : Nat) : DosClockTime where
  year
  month := 1
  day := 1
  hour := 0
  minute := 0
  second := 0
  hundredths := 0
  dayOfWeek := 0

/-- With the host at 0020 after a date was set at 2000, the guest reads year 0, and setting
the time moves its date by a day. -/
theorem clock_not_always_kept :
    ∃ offset, Run SetStep 0 [.setDate (newYear 2000) 1980 1 1] offset ∧
      (∃ offset', SetStep offset (.setTime (newYear 20) 12 0 0 0) offset') ∧
      ¬ Kept offset (.setTime (newYear 20) 12 0 0 0) := by
  have hvalid : (ClockEvent.setDate (newYear 2000) 1980 1 1).IsValid := by
    exact ⟨by decide, by decide⟩
  have hvalid' : (ClockEvent.setTime (newYear 20) 12 0 0 0).IsValid := by
    exact ⟨by decide, by decide⟩
  refine ⟨_, Run.single ⟨hvalid, rfl⟩, ⟨_, hvalid', rfl⟩, ?_⟩
  rintro ⟨⟨-, -, -, -, -, -, hday⟩, -⟩
  revert hday
  decide

end Ntvdmex.Dos.Clock
