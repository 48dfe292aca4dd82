import Ntvdmex.Foundation.MachineWords
import Ntvdmex.Foundation.SizedBytes
import Ntvdmex.Foundation.Strings

/-!
# Long file names (`dos_lfn.h`)

The two clocks of a long file name, and its short name.  An `INT64` sum that leaves 64 bits is a
fault; a `UINT` or a `UINT64` wraps.  A name is its bytes in front of the NUL, and the two forms of
the short name are written into buffers of a given size, where a write at or past the size is a
fault.
-/

namespace Ntvdmex.Dos.Lfn

open Foundation

/-! ## The calendar -/

def dosLfnFileTimeTicksPerSecond : Nat := 10000000
def dosLfnFileTimeUnixDays : Nat := 134774
def dosLfnFileTimeTicksPer10Ms : Nat := 100000

def dosLfnDosEpochYear : Nat := 1980
def dosLfnDosLastYear : Nat := 2107

def dosLfnCivilEpochDays : Int := 719468

variable (character : UInt8) (component : List UInt8) (value year : Int) (month : Nat)

/-- A signed sum of 64 bits. -/
def int64 : Option Int :=
  if -9223372036854775808 ≤ value ∧ value < 9223372036854775808 then some value else none

/-- `(UINT)value`. -/
def uint : Nat := (value % 4294967296).toNat

/-- What is divided for the era: a negative value is moved so that the division rounds down. -/
def eraNumerator (lessOne : Int) : Option Int :=
  if 0 ≤ value then some value else int64 (value - lessOne)

def dosLfnDaysFromCivil (day : Nat) : Option Int := do
  let year ← int64 (year - if month ≤ 2 then 1 else 0)
  let numerator ← eraNumerator year 399
  let era := numerator.tdiv 400
  let yearOfEra := year - era * 400
  let shiftedMonth := uint ((month : Int) + if 2 < month then -3 else 9)
  let dayOfYear := uint (((dword (153 * shiftedMonth + 2) / 5 + day : Nat) : Int) - 1)
  let dayOfEra := yearOfEra * 365 + yearOfEra.tdiv 4 - yearOfEra.tdiv 100 + dayOfYear
  let eraDays ← int64 (era * 146097)
  let days ← int64 (eraDays + dayOfEra)
  int64 (days - dosLfnCivilEpochDays)

def dosLfnCivilFromDays (days : Int) : Option (Int × Nat × Nat) := do
  let days ← int64 (days + dosLfnCivilEpochDays)
  let numerator ← eraNumerator days 146096
  let era := numerator.tdiv 146097
  let dayOfEra := days - era * 146097
  let yearOfEra :=
    (dayOfEra - dayOfEra.tdiv 1460 + dayOfEra.tdiv 36524 - dayOfEra.tdiv 146096).tdiv 365
  let dayOfYear := dayOfEra - (365 * yearOfEra + yearOfEra.tdiv 4 - yearOfEra.tdiv 100)
  let shiftedMonth := (5 * dayOfYear + 2).tdiv 153
  let day := uint (dayOfYear - (153 * shiftedMonth + 2).tdiv 5 + 1)
  let month := uint (if shiftedMonth < 10 then shiftedMonth + 3 else shiftedMonth - 9)
  return (yearOfEra + era * 400 + (if month ≤ 2 then 1 else 0), month, day)

def daysInMonth : List Nat := [31, 28, 31, 30, 31, 30, 31, 31, 30, 31, 30, 31]

def dosLfnDaysInMonth : Nat :=
  if month = 2 ∧ (year.tmod 4 = 0 ∧ year.tmod 100 ≠ 0 ∨ year.tmod 400 = 0) then 29
  else if 1 ≤ month ∧ month ≤ 12 then daysInMonth.getD (month - 1) 0
  else 0

/-- A DOS date, a DOS time and the units of 10 ms behind it. -/
structure DosStamp where
  dosDate : UInt16
  dosTime : UInt16
  tenMs : UInt8
  deriving DecidableEq, Repr

/-- No stamp when the year is out of DOS's range. -/
def dosLfnFileTimeToDos (fileTime : UInt64) : Option (Option DosStamp) := do
  let seconds := fileTime.toNat / dosLfnFileTimeTicksPerSecond
  let remainder := fileTime.toNat % dosLfnFileTimeTicksPerSecond
  let secondOfDay := seconds % 86400
  let date ← dosLfnCivilFromDays ((seconds / 86400 : Nat) - (dosLfnFileTimeUnixDays : Int))
  let year := date.1
  let month := date.2.1
  let day := date.2.2
  if year < dosLfnDosEpochYear ∨ dosLfnDosLastYear < year then some none
  else
    let hour := secondOfDay / 3600
    let minute := secondOfDay / 60 % 60
    let second := secondOfDay % 60
    some (some
      { dosDate := UInt16.ofNat (uint (year - dosLfnDosEpochYear) <<< 9 ||| month <<< 5 ||| day)
        dosTime := UInt16.ofNat (hour <<< 11 ||| minute <<< 5 ||| second / 2)
        tenMs := UInt8.ofNat ((second &&& 1) * 100 + remainder / dosLfnFileTimeTicksPer10Ms) })

def fileTimeOfFields (day hour minute second tenMs : Nat) : Option (Option UInt64) :=
  if month < 1 ∨ 12 < month ∨ day < 1 ∨ dosLfnDaysInMonth year month < day then some none
  else if 23 < hour ∨ 59 < minute ∨ 58 < second ∨ 199 < tenMs then some none
  else do
    let civil ← dosLfnDaysFromCivil year month day
    let days ← int64 (civil + dosLfnFileTimeUnixDays)
    let seconds := (days % 18446744073709551616).toNat * 86400 + hour * 3600 + minute * 60 + second
    return some (UInt64.ofNat
      (seconds * dosLfnFileTimeTicksPerSecond + tenMs * dosLfnFileTimeTicksPer10Ms))

def dosLfnDosToFileTime (stamp : DosStamp) : Option (Option UInt64) :=
  let dosDate := stamp.dosDate.toNat
  let dosTime := stamp.dosTime.toNat
  fileTimeOfFields (dosLfnDosEpochYear + dosDate >>> 9 : Nat) (dosDate >>> 5 &&& 0x0F)
    (dosDate &&& 0x1F) (dosTime >>> 11) (dosTime >>> 5 &&& 0x3F) ((dosTime &&& 0x1F) * 2)
    stamp.tenMs.toNat

/-! ## Characters -/

def asciiSpace : UInt8 := 0x20
def asciiCaseBit : UInt8 := 0x20
def dosLfnExtensionDot : UInt8 := 0x2E
def dosLfnAliasTilde : UInt8 := 0x7E
def dosLfnAliasTail : UInt8 := 0x31
def dosLfnReplacementChar : UInt8 := 0x5F
def dosLfnFcbPad : UInt8 := 0x20

def dosLfnBaseChars : Nat := 8
def dosLfnExtensionChars : Nat := 3
def dosLfnAliasBaseChars : Nat := 6
def dosLfnNoExtension : Int := -1

def dosShortNameSize : Nat := 13
def dosFcbNameSize : Nat := 11

/-- A control character or one of `"*+,/:;<=>?[\]|`. -/
def dosLfnIsBadShortNameChar : Bool :=
  character < asciiSpace || character == 0x22 || character == 0x2A || character == 0x2B
    || character == 0x2C || character == 0x2F || character == 0x3A || character == 0x3B
    || character == 0x3C || character == 0x3D || character == 0x3E || character == 0x3F
    || character == 0x5B || character == 0x5C || character == 0x5D || character == 0x7C

def dosLfnUpperCase : UInt8 :=
  if 0x61 ≤ character ∧ character ≤ 0x7A then character - asciiCaseBit else character

/-- `+,;=[]` become the replacement character. -/
def dosLfnCleanShortNameChar : UInt8 :=
  if character = 0x2B ∨ character = 0x2C ∨ character = 0x3B ∨ character = 0x3D
      ∨ character = 0x5B ∨ character = 0x5D then
    dosLfnReplacementChar
  else dosLfnUpperCase character

/-- A blank, a dot, a control character or one of `"*/:<>?\|`. -/
def isDroppedChar : Bool :=
  character == 0x20 || character == dosLfnExtensionDot || character < asciiSpace
    || character == 0x22 || character == 0x2A || character == 0x2F || character == 0x3A
    || character == 0x3C || character == 0x3E || character == 0x3F || character == 0x5C
    || character == 0x7C

def isComponentEnd : Bool :=
  character == 0x5C || character == 0x2F || character == 0x3A

def shortNameLoop (baseLength extensionLength : Int) : List UInt8 → Bool
  | [] => decide (0 < baseLength ∧ extensionLength ≠ 0)
  | character :: name =>
    if character = dosLfnExtensionDot then
      if 0 ≤ extensionLength then false else shortNameLoop baseLength 0 name
    else if character = 0x20 ∨ dosLfnIsBadShortNameChar character then false
    else if 0 ≤ extensionLength then
      if dosLfnExtensionChars < extensionLength + 1 then false
      else shortNameLoop baseLength (extensionLength + 1) name
    else if dosLfnBaseChars < baseLength + 1 then false
    else shortNameLoop (baseLength + 1) extensionLength name

def dosLfnIsShortName (name : List UInt8) : Bool :=
  match name.head? with
  | none => false
  | some first =>
    if first = dosLfnExtensionDot then false else shortNameLoop 0 dosLfnNoExtension name

/-! ## The short name -/

/-- What is behind the last separator of a path, or all of it. -/
def lastComponent : List UInt8 → List UInt8 → List UInt8
  | [], component => component
  | character :: rest, component =>
    if isComponentEnd character then lastComponent rest rest else lastComponent rest component

def lastDot : Option Nat :=
  component.zipIdx.foldl
    (fun last entry =>
      if entry.1 = dosLfnExtensionDot ∧ entry.2 ≠ 0 then some entry.2 else last)
    none

/-- The cleaned characters of a text behind those kept so far, up to `limit` in all. -/
def cleanChars (limit : Nat) : List UInt8 → List UInt8 → List UInt8
  | [], kept => kept
  | character :: text, kept =>
    if limit ≤ kept.length then kept
    else if isDroppedChar character then cleanChars limit text kept
    else cleanChars limit text (kept ++ [dosLfnCleanShortNameChar character])

def upperParts : List UInt8 × List UInt8 :=
  let base := component.takeWhile (· ≠ dosLfnExtensionDot)
  let extension := (component.dropWhile (· ≠ dosLfnExtensionDot)).drop 1
  ((base.take dosLfnBaseChars).map dosLfnUpperCase,
    (extension.take dosLfnExtensionChars).map dosLfnUpperCase)

def aliasFront : List UInt8 :=
  match lastDot component with
  | some place => component.take place
  | none => component

def aliasBehind : List UInt8 :=
  match lastDot component with
  | some place => component.drop (place + 1)
  | none => []

def aliasParts : List UInt8 × List UInt8 :=
  let base := cleanChars dosLfnAliasBaseChars (aliasFront component) []
  let base := if base = [] then [dosLfnReplacementChar] else base
  (base ++ [dosLfnAliasTilde, dosLfnAliasTail],
    cleanChars dosLfnExtensionChars (aliasBehind component) [])

def shortNameParts : List UInt8 × List UInt8 :=
  if dosLfnIsShortName component then upperParts component else aliasParts component

/-- The name padded with blanks and without a dot. -/
def writeFcbName (fcbName : SizedBytes) (base extension : List UInt8) : Option SizedBytes := do
  let fcbName ← fcbName.writeAll 0 (List.replicate dosFcbNameSize dosLfnFcbPad)
  let fcbName ← fcbName.writeAll 0 base
  fcbName.writeAll dosLfnBaseChars extension

def writeShortName (shortName : SizedBytes) (base extension : List UInt8) : Option SizedBytes := do
  let shortName ← shortName.writeAll 0 base
  if extension.length ≠ 0 then do
    let shortName ← shortName.write base.length dosLfnExtensionDot
    let shortName ← shortName.writeAll (base.length + 1) extension
    shortName.write (base.length + 1 + extension.length) 0
  else shortName.write base.length 0

/-- The two buffers after the call. -/
def dosLfnShortName (longName : CString) (shortName fcbName : SizedBytes) :
    Option (SizedBytes × SizedBytes) := do
  let parts := shortNameParts (lastComponent longName.bytes longName.bytes)
  let fcbName ← writeFcbName fcbName parts.1 parts.2
  let shortName ← writeShortName shortName parts.1 parts.2
  return (shortName, fcbName)

end Ntvdmex.Dos.Lfn
