import Mathlib

/-!
# The real-time clock (`vdd_cmos.c`)

The MC146818: clock and alarm registers, the four status registers, the CMOS RAM behind ports
70h and 71h, and the interrupts of the passing clocks.  The clock itself is the host's: the
hooks read and set it in a host state of any type, and it stands still during a call.
-/

namespace Ntvdmex.Vdd.Cmos

local instance neZero128 : NeZero 128 := ⟨by decide⟩

def cmosBSet : UInt8 := 0x80
def cmosBPie : UInt8 := 0x40
def cmosBAie : UInt8 := 0x20
def cmosBUie : UInt8 := 0x10
def cmosBUieOrAie : UInt8 := 0x30
def cmosBBinary : UInt8 := 0x04
def cmosB24Hour : UInt8 := 0x02

def cmosCIrqf : UInt8 := 0x80
def cmosCPf : UInt8 := 0x40
def cmosCPfAndIrqf : UInt8 := 0xC0
def cmosCAf : UInt8 := 0x20
def cmosCUf : UInt8 := 0x10

def cmosARateMask : UInt8 := 0x0F
def cmosAWritableBits : UInt8 := 0x7F
def cmosHourValueBits : UInt8 := 0x7F
def cmosDVrt : UInt8 := 0x80
def cmosNmiMaskBit : UInt8 := 0x80
def cmosAlarmDontCare : UInt8 := 0xC0
def cmosHourPmBit : UInt8 := 0x80
def cmosHoursPerHalfDay : Nat := 12

def cmosTimeBaseHz : Nat := 32768
def cmosSecondEdgeGuard : Nat := 1000
def cmosPeriodicGuard : Nat := 100000
def pitInputHz : Nat := 1193182

def cmosSeconds : Fin 128 := 0x00
def cmosSecondsAlarm : Fin 128 := 0x01
def cmosMinutes : Fin 128 := 0x02
def cmosMinutesAlarm : Fin 128 := 0x03
def cmosHours : Fin 128 := 0x04
def cmosHoursAlarm : Fin 128 := 0x05
def cmosDayOfWeek : Fin 128 := 0x06
def cmosDayOfMonth : Fin 128 := 0x07
def cmosMonth : Fin 128 := 0x08
def cmosYear : Fin 128 := 0x09
def cmosStatusA : Fin 128 := 0x0A
def cmosStatusB : Fin 128 := 0x0B
def cmosStatusC : Fin 128 := 0x0C
def cmosStatusD : Fin 128 := 0x0D
def cmosCentury : Fin 128 := 0x32

def cmosIndexPort : Nat := 0x70
def cmosDataPort : Nat := 0x71
def cmosUndrivenBus : UInt8 := 0xFF

/-- `PIT_RTC_READING`. -/
structure RtcReading where
  century : Nat
  year : Nat
  month : Nat
  day : Nat
  hour : Nat
  minute : Nat
  second : Nat
  dayOfWeek : Nat
  deriving DecidableEq, Repr

/-- The hooks of the host, where it has them: `RtcNow` fills in a reading, `RtcSet` takes the
time of day or, when told so, the date. -/
structure RtcHooks (σ : Type) where
  rtcNow : Option (σ → RtcReading → RtcReading)
  rtcSet : Option (σ → RtcReading → Bool → σ)

structure CmosState where
  isOnBus : Bool
  irqs : Nat
  index : Fin 128
  isNmiDisabled : Bool
  nmiMaskWrites : Nat
  ram : Fin 128 → UInt8
  statusA : UInt8
  statusB : UInt8
  statusC : UInt8
  periodicAccumulator : UInt64
  periodicRaised : Nat
  secondAccumulator : UInt64
  updateEndedRaised : Nat
  alarmRaised : Nat
  isSetHeld : Bool
  shadow : RtcReading

variable (state : CmosState)

def CmosState.hasB (bits : UInt8) : Bool := state.statusB &&& bits ≠ 0

/-! ## The clock registers -/

def cmosToBcd (value : Nat) : UInt8 := UInt8.ofNat (value / 10 % 10 * 16 + value % 10)

def cmosClockValue (value : Nat) : UInt8 :=
  if state.hasB cmosBBinary then UInt8.ofNat value else cmosToBcd value

def cmosClockDecode (value : UInt8) : Nat :=
  if state.hasB cmosBBinary then value.toNat
  else (value >>> 4).toNat * 10 + (value &&& 0x0F).toNat

/-- What a reading holds before the host fills it in. -/
def cmosDefaultReading : RtcReading := ⟨20, 0, 1, 1, 0, 0, 0, 0⟩

def cmosHoursValue (hour : Nat) : UInt8 :=
  if state.hasB cmosB24Hour then cmosClockValue state hour
  else
    let half := if hour % 12 = 0 then cmosHoursPerHalfDay else hour % 12
    cmosClockValue state half ||| if hour ≥ cmosHoursPerHalfDay then cmosHourPmBit else 0

def cmosHoursDecode (value : UInt8) : Nat :=
  if state.hasB cmosB24Hour then cmosClockDecode state value
  else
    cmosClockDecode state (value &&& cmosHourValueBits) % 12 +
      if value &&& cmosHourPmBit ≠ 0 then 12 else 0

def vddCmosPeriodicHz : Nat :=
  let rateSelect := (state.statusA &&& cmosARateMask).toNat
  if rateSelect = 0 then 0
  else if rateSelect = 1 then 256
  else if rateSelect = 2 then 128
  else cmosTimeBaseHz >>> (rateSelect - 1)

def cmosAlarmFieldMatches (alarm current : UInt8) : Bool :=
  alarm &&& cmosAlarmDontCare = cmosAlarmDontCare || alarm = current

section Host

variable {σ : Type} (hooks : RtcHooks σ) (host : σ)
variable (state : CmosState) (register : Fin 128) (clocks : UInt32) (value : UInt8)

/-- The clock as the chip shows it: the frozen copy while SET is held. -/
def cmosReading : Option RtcReading :=
  if state.isSetHeld then some state.shadow
  else hooks.rtcNow.map fun rtcNow => rtcNow host cmosDefaultReading

/-- `none` for a register that is not the clock's. -/
def cmosClockRegister : Option UInt8 :=
  match cmosReading hooks host state with
  | none => none
  | some reading =>
    if register = cmosSeconds then some (cmosClockValue state reading.second)
    else if register = cmosMinutes then some (cmosClockValue state reading.minute)
    else if register = cmosHours then some (cmosHoursValue state reading.hour)
    else if register = cmosDayOfMonth then some (cmosClockValue state reading.day)
    else if register = cmosMonth then some (cmosClockValue state reading.month)
    else if register = cmosYear then some (cmosClockValue state reading.year)
    else if register = cmosCentury then some (cmosClockValue state reading.century)
    else if register = cmosDayOfWeek then
      if reading.dayOfWeek = 0 then none else some (cmosClockValue state reading.dayOfWeek)
    else none

/-! ## The interrupts -/

def CmosState.raiseIrq : CmosState :=
  { state with irqs := if state.isOnBus then state.irqs + 1 else state.irqs }

/-- The clock stands at the programmed time. -/
def cmosAlarmMatches : Bool :=
  match cmosClockRegister hooks host state cmosSeconds,
    cmosClockRegister hooks host state cmosMinutes,
    cmosClockRegister hooks host state cmosHours with
  | some seconds, some minutes, some hours =>
    cmosAlarmFieldMatches (state.ram cmosSecondsAlarm) seconds &&
      cmosAlarmFieldMatches (state.ram cmosMinutesAlarm) minutes &&
      cmosAlarmFieldMatches (state.ram cmosHoursAlarm) hours
  | _, _, _ => false

def cmosSecondEdge : CmosState × Bool :=
  if state.isSetHeld then (state, false)
  else
    let (updated, hasUpdated) :=
      if state.hasB cmosBUie then
        ({ state with
          statusC := state.statusC ||| cmosCUf
          updateEndedRaised := state.updateEndedRaised + 1 }, true)
      else (state, false)
    if updated.hasB cmosBAie && cmosAlarmMatches hooks host updated then
      ({ updated with
        statusC := updated.statusC ||| cmosCAf
        alarmRaised := updated.alarmRaised + 1 }, true)
    else (updated, hasUpdated)

def cmosSecondLoop : Nat → CmosState → CmosState
  | 0, state => state
  | rounds + 1, state =>
    if pitInputHz ≤ state.secondAccumulator.toNat then
      let taken :=
        { state with secondAccumulator := state.secondAccumulator - UInt64.ofNat pitInputHz }
      let (edged, hasFired) := cmosSecondEdge hooks host taken
      cmosSecondLoop rounds
        (if hasFired then { edged with statusC := edged.statusC ||| cmosCIrqf }.raiseIrq else edged)
    else state

def cmosPeriodicLoop (period : Nat) : Nat → CmosState → CmosState
  | 0, state => state
  | rounds + 1, state =>
    if period ≤ state.periodicAccumulator.toNat then
      cmosPeriodicLoop period rounds
        { state with
          periodicAccumulator := state.periodicAccumulator - UInt64.ofNat period
          statusC := state.statusC ||| cmosCPfAndIrqf
          periodicRaised := state.periodicRaised + 1 }.raiseIrq
    else state

/-- The update-ended and alarm edges of the clocks. -/
def cmosAddSeconds : CmosState :=
  if state.hasB cmosBUieOrAie then
    cmosSecondLoop hooks host cmosSecondEdgeGuard
      { state with secondAccumulator := state.secondAccumulator + clocks.toUInt64 }
  else { state with secondAccumulator := 0 }

def cmosAddTicks : CmosState :=
  if state.hasB cmosBPie = false then { state with periodicAccumulator := 0 }
  else if vddCmosPeriodicHz state = 0 then { state with periodicAccumulator := 0 }
  else
    let period := pitInputHz / vddCmosPeriodicHz state
    if period = 0 then state
    else
      cmosPeriodicLoop period cmosPeriodicGuard
        { state with periodicAccumulator := state.periodicAccumulator + clocks.toUInt64 }

def vddCmosAddClocks : CmosState :=
  cmosAddTicks (cmosAddSeconds hooks host state clocks) clocks

/-! ## The ports -/

def cmosRead : CmosState × UInt8 :=
  match cmosClockRegister hooks host state register with
  | some value => (state, value)
  | none =>
    if register = cmosStatusA then (state, state.statusA)
    else if register = cmosStatusB then (state, state.statusB)
    else if register = cmosStatusC then ({ state with statusC := 0 }, state.statusC)
    else if register = cmosStatusD then (state, cmosDVrt)
    else (state, state.ram register)

def CmosState.setRam : CmosState :=
  { state with ram := Function.update state.ram register value }

/-- `RtcSet`, where there is one. -/
def RtcHooks.set (reading : RtcReading) (isDate : Bool) : σ :=
  match hooks.rtcSet with
  | some rtcSet => rtcSet host reading isDate
  | none => host

/-- A write of Status B: SET going high freezes the clock, going low commits the copy. -/
def cmosWriteStatusB : CmosState × σ :=
  let (held, value, host) :=
    if value &&& cmosBSet ≠ 0 ∧ state.isSetHeld = false then
      (match cmosReading hooks host state with
        | some reading => { state with shadow := reading, isSetHeld := true }
        | none => state,
        value &&& ~~~ cmosBUie, host)
    else if value &&& cmosBSet = 0 ∧ state.isSetHeld = true then
      ({ state with isSetHeld := false }, value,
        hooks.set (hooks.set host state.shadow true) state.shadow false)
    else (state, value, host)
  let written := { held with statusB := value }
  (if value &&& cmosBPie = 0 then { written with periodicAccumulator := 0 } else written, host)

def isClockRegister : Bool :=
  register = cmosSeconds || register = cmosMinutes || register = cmosHours ||
    register = cmosDayOfMonth || register = cmosMonth || register = cmosYear ||
    register = cmosCentury

def RtcReading.write (reading : RtcReading) (state : CmosState) (register : Fin 128)
    (value : UInt8) : RtcReading :=
  if register = cmosSeconds then { reading with second := cmosClockDecode state value }
  else if register = cmosMinutes then { reading with minute := cmosClockDecode state value }
  else if register = cmosHours then { reading with hour := cmosHoursDecode state value }
  else if register = cmosDayOfMonth then { reading with day := cmosClockDecode state value }
  else if register = cmosMonth then { reading with month := cmosClockDecode state value }
  else if register = cmosYear then { reading with year := cmosClockDecode state value }
  else { reading with century := cmosClockDecode state value }

/-- A write of a clock register: into the frozen copy, or committed at once. -/
def cmosWriteClock : CmosState × σ :=
  match hooks.rtcSet, cmosReading hooks host state with
  | some rtcSet, some reading =>
    let written := reading.write state state.index value
    if state.isSetHeld then ({ state with shadow := written }, host)
    else (state, rtcSet host written (decide (cmosDayOfMonth ≤ state.index)))
  | _, _ => (state, host)

def cmosPortOut (port : Nat) (value : UInt8) : CmosState × σ :=
  if port = cmosIndexPort then
    let isMasked : Bool := value &&& cmosNmiMaskBit ≠ 0
    ({ state with
      nmiMaskWrites := if isMasked then state.nmiMaskWrites + 1 else state.nmiMaskWrites
      isNmiDisabled := isMasked
      index := Fin.ofNat 128 value.toNat }, host)
  else if state.index = cmosStatusA then
    ({ state with statusA := value &&& cmosAWritableBits }, host)
  else if state.index = cmosStatusB then cmosWriteStatusB hooks host state value
  else if state.index = cmosSecondsAlarm ∨ state.index = cmosMinutesAlarm ∨
      state.index = cmosHoursAlarm then
    (state.setRam state.index value, host)
  else if isClockRegister state.index then cmosWriteClock hooks host state value
  else if state.index ≤ cmosStatusD then (state, host)
  else (state.setRam state.index value, host)

def cmosPortIn (port : Nat) : CmosState × UInt8 :=
  if port = cmosIndexPort then (state, cmosUndrivenBus) else cmosRead hooks host state state.index

end Host

/-- The configuration bytes POST leaves, without their checksum. -/
def cmosPostRam (baseKb : UInt16) : Fin 128 → UInt8 :=
  let base := if baseKb = 0 then 640 else baseKb
  fun register =>
    match register.val with
    | 0x06 => 0x01
    | 0x10 => 0x40
    | 0x14 => 0x25
    | 0x15 => base.toUInt8
    | 0x16 => (base >>> 8).toUInt8
    | 0x17 => 0x00
    | 0x18 => 0x3C
    | 0x30 => 0x00
    | 0x31 => 0x3C
    | _ => 0

def cmosChecksum (ram : Fin 128 → UInt8) : Nat :=
  ((List.finRange 128).filter fun register => 0x10 ≤ register.val ∧ register.val ≤ 0x2D).foldl
    (fun sum register => sum + (ram register).toNat) 0

def vddCmosReset (isOnBus : Bool) (baseKb : UInt16) : CmosState where
  isOnBus
  irqs := 0
  index := 0
  isNmiDisabled := false
  nmiMaskWrites := 0
  ram :=
    let ram := cmosPostRam baseKb
    let checksum := cmosChecksum ram
    Function.update (Function.update ram 0x2E (UInt8.ofNat (checksum / 256))) 0x2F
      (UInt8.ofNat checksum)
  statusA := 0x26
  statusB := 0x02
  statusC := 0
  periodicAccumulator := 0
  periodicRaised := 0
  secondAccumulator := 0
  updateEndedRaised := 0
  alarmRaised := 0
  isSetHeld := false
  shadow := ⟨0, 0, 0, 0, 0, 0, 0, 0⟩

end Ntvdmex.Vdd.Cmos
