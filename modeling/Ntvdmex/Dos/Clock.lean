import Mathlib

/-!
# The VDM's own clock (`dos_clock.h`)

The clock is an offset in hundredths of a second from the host's local time.  An
`INT64` is an integer; its division and remainder are C's, towards zero, and the
casts to `UINT` are taken modulo 2^32.
-/

namespace Ntvdmex.Dos.Clock

def dosClockDosFirstYear : Nat := 1980
def dosClockDosLastYear : Nat := 2099
def dosClockFirstYear : Nat := 1
def dosClockLastYear : Nat := 9999

def dosClockDaysPerEra : Int := 146097
def dosClockDaysPerEraLessOne : Int := 146096
def dosClockDaysPerCentury : Int := 36524
def dosClockDaysPerFourYearsLessOne : Int := 1460
def dosClockDaysPerYear : Int := 365
def dosClockMarchShift : Int := 3
def dosClockMarchWrap : Int := 9
def dosClockShiftedJanuary : Int := 10
def dosClockMonthDaysNumerator : Int := 153
def dosClockMonthDaysRounding : Int := 2
def dosClockMonthDaysDenominator : Int := 5
def dosClockDay0Weekday : Int := 3
def dosClockHundredthsPerDay : Int := 8640000

/-- `(UINT)value`. -/
def toUint (value : Int) : Nat := (value % 4294967296).toNat

structure DosClockTime where
  year : Nat
  month : Nat
  day : Nat
  hour : Nat
  minute : Nat
  second : Nat
  hundredths : Nat
  dayOfWeek : Nat
  deriving DecidableEq, Repr

/-! ## Validity -/

def DosClockIsLeapYear (year : Nat) : Prop :=
  year % 4 = 0 ∧ year % 100 ≠ 0 ∨ year % 400 = 0
deriving Decidable

def daysInMonth : List Nat := [31, 28, 31, 30, 31, 30, 31, 31, 30, 31, 30, 31]

def dosClockDaysInMonth (year month : Nat) : Nat :=
  if month < 1 ∨ 12 < month then 0
  else if month = 2 ∧ DosClockIsLeapYear year then 29
  else daysInMonth.getD (month - 1) 0

def DosClockIsRealDate (year month day : Nat) : Prop :=
  dosClockFirstYear ≤ year ∧ year ≤ dosClockLastYear ∧ 1 ≤ month ∧ month ≤ 12 ∧
    1 ≤ day ∧ day ≤ dosClockDaysInMonth year month
deriving Decidable

def DosClockIsDosDateValid (year month day : Nat) : Prop :=
  dosClockDosFirstYear ≤ year ∧ year ≤ dosClockDosLastYear ∧ DosClockIsRealDate year month day
deriving Decidable

def DosClockIsTimeValid (hour minute second hundredths : Nat) : Prop :=
  hour < 24 ∧ minute < 60 ∧ second < 60 ∧ hundredths < 100
deriving Decidable

/-! ## Packing -/

def dosClockDays (year month day : Nat) : Int :=
  let shiftedYear : Int := (year : Int) - (if month ≤ 2 then 1 else 0)
  let era := shiftedYear.tdiv 400
  let yearOfEra := shiftedYear - era * 400
  let shiftedMonth : Int :=
    if 2 < month then (month : Int) - dosClockMarchShift else (month : Int) + dosClockMarchWrap
  let dayOfYear :=
    (dosClockMonthDaysNumerator * shiftedMonth + dosClockMonthDaysRounding).tdiv
      dosClockMonthDaysDenominator + (day : Int) - 1
  let dayOfEra :=
    yearOfEra * dosClockDaysPerYear + yearOfEra.tdiv 4 - yearOfEra.tdiv 100 + dayOfYear
  era * dosClockDaysPerEra + dayOfEra

def dosClockPack (time : DosClockTime) : Int :=
  dosClockDays time.year time.month time.day * dosClockHundredthsPerDay
    + (((time.hour : Int) * 60 + time.minute) * 60 + time.second) * 100 + time.hundredths

def unpackDays (packed : Int) : Int × Int :=
  let days := packed.tdiv dosClockHundredthsPerDay
  let remainder := packed.tmod dosClockHundredthsPerDay
  if remainder < 0 then (days - 1, remainder + dosClockHundredthsPerDay) else (days, remainder)

def unpackDate (days : Int) : Nat × Nat × Nat :=
  let era :=
    (if 0 ≤ days then days else days - dosClockDaysPerEraLessOne).tdiv dosClockDaysPerEra
  let dayOfEra := days - era * dosClockDaysPerEra
  let yearOfEra :=
    (dayOfEra - dayOfEra.tdiv dosClockDaysPerFourYearsLessOne
      + dayOfEra.tdiv dosClockDaysPerCentury
      - dayOfEra.tdiv dosClockDaysPerEraLessOne).tdiv dosClockDaysPerYear
  let year := yearOfEra + era * 400
  let dayOfYear :=
    dayOfEra - (dosClockDaysPerYear * yearOfEra + yearOfEra.tdiv 4 - yearOfEra.tdiv 100)
  let shiftedMonth :=
    (dosClockMonthDaysDenominator * dayOfYear + dosClockMonthDaysRounding).tdiv
      dosClockMonthDaysNumerator
  let day := toUint (dayOfYear
    - (dosClockMonthDaysNumerator * shiftedMonth + dosClockMonthDaysRounding).tdiv
      dosClockMonthDaysDenominator + 1)
  let month := toUint
    (if shiftedMonth < dosClockShiftedJanuary then shiftedMonth + dosClockMarchShift
      else shiftedMonth - dosClockMarchWrap)
  (toUint (year + (if month ≤ 2 then 1 else 0)), month, day)

def dosClockUnpack (packed : Int) : DosClockTime :=
  let days := (unpackDays packed).1
  let hundredths := (unpackDays packed).2
  let seconds := hundredths.tdiv 100
  let minutes := seconds.tdiv 60
  let hours := minutes.tdiv 60
  { year := (unpackDate days).1
    month := (unpackDate days).2.1
    day := (unpackDate days).2.2
    hour := toUint hours
    minute := toUint (minutes.tmod 60)
    second := toUint (seconds.tmod 60)
    hundredths := toUint (hundredths.tmod 100)
    dayOfWeek := toUint ((days.tmod 7 + 7 + dosClockDay0Weekday).tmod 7) }

/-- The guest's reading: the host's now, moved by `offset`. -/
def dosClockApplyOffset (hostNow : DosClockTime) (offset : Int) : DosClockTime :=
  dosClockUnpack (dosClockPack hostNow + offset)

def dosClockSetDate (hostNow : DosClockTime) (offset : Int) (year month day : Nat) : Int :=
  let guestNow := dosClockApplyOffset hostNow offset
  dosClockPack { guestNow with year, month, day } - dosClockPack hostNow

def dosClockSetTime (hostNow : DosClockTime) (offset : Int)
    (hour minute second hundredths : Nat) : Int :=
  let guestNow := dosClockApplyOffset hostNow offset
  dosClockPack
      { guestNow with hour, minute, second, hundredths }
    - dosClockPack hostNow

end Ntvdmex.Dos.Clock
