import Mathlib

/-!
# The 8254 (`vdd_pit.c`)

Counter 0 with its IRQ0 engine, counters 1 and 2 as counters, and ports 40h to 43h.  The
clock totals are 64-bit words, a count is a 16-bit word; a count is converted from and to
BCD where its bytes cross the port.
-/

namespace Ntvdmex.Vdd.Pit

local instance neZero3 : NeZero 3 := ⟨by decide⟩

def pitMode0 : Nat := 0
def pitMode1 : Nat := 1
def pitMode2 : Nat := 2
def pitMode3 : Nat := 3
def pitMode4 : Nat := 4
def pitMode5 : Nat := 5
def pitModeAliasFirst : Nat := 6
def pitModeAliasOffset : Nat := 4

def pitSelectCounter1 : Nat := 1
def pitSelectCounter2 : Nat := 2
def pitSelectReadBack : Nat := 3

def pitAccessLatch : Nat := 0
def pitAccessLow : Nat := 1
def pitAccessHigh : Nat := 2
def pitAccessLowHigh : Nat := 3

def pitReadBackNoStatus : UInt8 := 0x10
def pitReadBackNoCount : UInt8 := 0x20

def pitCounter0Port : Nat := 0x40
def pitCounter1Port : Nat := 0x41
def pitCounter2Port : Nat := 0x42
def pitControlPort : Nat := 0x43

def pitBinaryWrap : Nat := 0x10000
def pitBcdWrap : Nat := 10000
def pitCatchUpGuard : Nat := 100000
def pitRefreshDivisor : UInt16 := 18

/-- Counter 1 or 2. -/
structure PitCounter where
  reload : UInt16
  access : Nat
  mode : Nat
  programmedMode : Nat
  isBcd : Bool
  isWriteHighNext : Bool
  writeLow : UInt8
  isReadHighNext : Bool
  isLatched : Bool
  latch : UInt16
  loadClocks : UInt64
  isNullCount : Bool
  gate : Bool
  gateElapsed : UInt64
  isTriggered : Bool
  deriving DecidableEq, Repr

structure PitState where
  reload : UInt16
  access : Nat
  mode : Nat
  programmedMode : Nat
  isWriteHighNext : Bool
  writeLow : UInt8
  isReadHighNext : Bool
  isLatched : Bool
  latch : UInt16
  totalClocks : UInt64
  loadClocks : UInt64
  accumulator : UInt64
  isControlWordArmed : Bool
  isNextPending : Bool
  nextReload : UInt16
  isIrqArmed : Bool
  oneShotLoads : UInt32
  restarts : UInt32
  counter2Reload : UInt16
  counter2Access : Nat
  counter2IsWriteHighNext : Bool
  counter2WriteLow : UInt8
  isBcd : Bool
  statusLatched : Fin 3 → Bool
  statusLatch : Fin 3 → UInt8
  counter1 : PitCounter
  counter2 : PitCounter
  deriving DecidableEq, Repr

/-! ## The count -/

def pitWrap (isBcd : Bool) : Nat := if isBcd then pitBcdWrap else pitBinaryWrap

def pitFromBcd (value : UInt16) : Nat :=
  let word := value.toNat
  word % 16 + word / 16 % 16 * 10 + word / 256 % 16 * 100 + word / 4096 * 1000

def pitToBcd (value : Nat) : UInt16 :=
  let decimal := value % pitBcdWrap
  UInt16.ofNat
    (decimal / 1000 % 10 * 4096 + decimal / 100 % 10 * 256 + decimal / 10 % 10 * 16 + decimal % 10)

def pitCountBytes (isBcd : Bool) (count : Nat) : UInt16 :=
  if isBcd then pitToBcd count else UInt16.ofNat count

def pitCountValue (isBcd : Bool) (written : UInt16) : UInt16 :=
  if isBcd then UInt16.ofNat (pitFromBcd written) else written

def effectiveReload (reload : UInt16) (isBcd : Bool) : Nat :=
  if reload = 0 then pitWrap isBcd else reload.toNat

variable (state : PitState) (port : Nat) (counter : PitCounter) (controlWord : UInt8)
  (count : UInt16) (counterIndex : Fin 3) (byteValue : UInt8)

def vddPitEffectiveReload : Nat := effectiveReload state.reload state.isBcd

def vddPitCounterEffectiveReload : Nat :=
  effectiveReload counter.reload counter.isBcd

def IsOneShot (mode : Nat) : Prop :=
  mode = pitMode0 ∨ mode = pitMode1 ∨ mode = pitMode4 ∨ mode = pitMode5
deriving Decidable

/-- The counting element `elapsed` clocks after the load. -/
def pitCountLaw (mode reload elapsed wrap : Nat) : Nat :=
  if IsOneShot mode then
    let remainder := elapsed % wrap
    (if reload ≥ remainder then reload - remainder else reload + wrap - remainder) % wrap
  else if mode = pitMode3 then
    let half := (reload + 1) / 2
    (reload - 2 * (elapsed % half)) % wrap
  else (reload - elapsed % reload) % wrap

def PitState.elapsed : Nat :=
  if state.totalClocks ≥ state.loadClocks then (state.totalClocks - state.loadClocks).toNat else 0

def pitCurrentCount : Nat :=
  pitCountLaw state.mode (vddPitEffectiveReload state) state.elapsed (pitWrap state.isBcd)

/-- The clocks counter 1 or 2 has counted: none while its gate is low, unless the gate is a
trigger. -/
def pitCounterElapsed : UInt64 :=
  if counter.gate = false ∧ counter.mode ≠ pitMode1 ∧ counter.mode ≠ pitMode5 then
    counter.gateElapsed
  else if state.totalClocks ≥ counter.loadClocks then state.totalClocks - counter.loadClocks
  else 0

def pitCounterCount : Nat :=
  pitCountLaw counter.mode (vddPitCounterEffectiveReload counter)
    (pitCounterElapsed state counter).toNat (pitWrap counter.isBcd)

def pitOutPin (mode reload elapsed : Nat) : Bool :=
  if mode = pitMode0 ∨ mode = pitMode1 then elapsed ≥ reload
  else if mode = pitMode2 then elapsed % reload ≠ reload - 1
  else if mode = pitMode3 then elapsed % reload < (reload + 1) / 2
  else if mode = pitMode4 ∨ mode = pitMode5 then elapsed ≠ reload
  else true

def pitCounterOut : Bool :=
  if (counter.mode = pitMode1 ∨ counter.mode = pitMode5) ∧ counter.isTriggered = false then true
  else if (counter.mode = pitMode2 ∨ counter.mode = pitMode3) ∧ counter.gate = false then true
  else
    pitOutPin counter.mode (vddPitCounterEffectiveReload counter)
      (pitCounterElapsed state counter).toNat

def vddPitCounter2Out : Bool := pitCounterOut state state.counter2

def PitState.outPin : Bool :=
  pitOutPin state.mode (vddPitEffectiveReload state) state.elapsed

/-- `VddPitCounter2Gate`, the level given having changed. -/
def gateEdge (isHigh : Bool) : PitCounter :=
  if counter.mode = pitMode1 ∨ counter.mode = pitMode5 then
    if isHigh then
      { counter with loadClocks := state.totalClocks, isTriggered := true, gate := true }
    else { counter with gate := false }
  else if isHigh then
    { counter with
      loadClocks :=
        if counter.mode = pitMode2 ∨ counter.mode = pitMode3 then state.totalClocks
        else state.totalClocks - counter.gateElapsed
      gate := true }
  else { counter with gateElapsed := pitCounterElapsed state counter, gate := false }

def vddPitCounter2Gate (isHigh : Bool) : PitState :=
  if isHigh = state.counter2.gate then state
  else { state with counter2 := gateEdge state state.counter2 isHigh }

def IsPeriodic (mode : Nat) : Prop := mode = pitMode2 ∨ mode = pitMode3
deriving Decidable

def periodEnd : PitState :=
  let accumulator := state.accumulator - UInt64.ofNat (vddPitEffectiveReload state)
  if state.isNextPending then
    { state with
      accumulator
      reload := state.nextReload
      isNextPending := false
      loadClocks := state.totalClocks - accumulator }
  else { state with accumulator }

/-- The loop of `VddPitAddClocks` with the rounds its guard leaves, and the raises of IRQ0. -/
def pitCatchUp : Nat → PitState → PitState × Nat
  | 0, state => (state, 0)
  | rounds + 1, state =>
    if state.accumulator.toNat ≥ vddPitEffectiveReload state then
      let rest := pitCatchUp rounds (periodEnd state)
      (rest.1, rest.2 + 1)
    else (state, 0)

def vddPitAddClocks (clocks : UInt32) : PitState × Nat :=
  let advanced := { state with totalClocks := state.totalClocks + clocks.toUInt64 }
  if IsPeriodic state.mode then
    pitCatchUp pitCatchUpGuard
      { advanced with accumulator := state.accumulator + clocks.toUInt64 }
  else
    let idle := { advanced with accumulator := 0 }
    if state.isIrqArmed = true ∧
        (idle.totalClocks - state.loadClocks).toNat ≥ vddPitEffectiveReload state then
      ({ idle with isIrqArmed := false }, 1)
    else (idle, 0)

/-! ## Count writes -/

def pitLoad (written : UInt16) : PitState :=
  let count := pitCountValue state.isBcd written
  if IsPeriodic state.mode ∧ state.isControlWordArmed = false then
    { state with nextReload := count, isNextPending := true }
  else
    { state with
      reload := count
      loadClocks := state.totalClocks
      accumulator := 0
      isControlWordArmed := false
      isNextPending := false
      isIrqArmed := state.mode = pitMode0 ∨ state.mode = pitMode4
      oneShotLoads :=
        if IsPeriodic state.mode then state.oneShotLoads else state.oneShotLoads + 1
      restarts := state.restarts + 1 }

def countWord (high low : UInt8) : UInt16 := high.toUInt16 <<< 8 ||| low.toUInt16

def counterLoad : PitCounter :=
  { counter with
    reload := pitCountValue counter.isBcd count
    isTriggered :=
      if counter.mode = pitMode1 ∨ counter.mode = pitMode5 then false else counter.isTriggered
    isNullCount := false
    loadClocks := state.totalClocks
    gateElapsed := 0 }

def pitCounterWriteCount : PitCounter :=
  if counter.access = pitAccessLow then counterLoad state counter byteValue.toUInt16
  else if counter.access = pitAccessHigh then counterLoad state counter (countWord byteValue 0)
  else if counter.isWriteHighNext = false then
    { counter with writeLow := byteValue, isWriteHighNext := true }
  else
    counterLoad state { counter with isWriteHighNext := false }
      (countWord byteValue counter.writeLow)

def accessInForce (access : Nat) : Nat := if access = 0 then pitAccessLowHigh else access

def pitCounter0Write : PitState :=
  let access := accessInForce state.access
  if access = pitAccessLow then pitLoad state byteValue.toUInt16
  else if access = pitAccessHigh then pitLoad state (countWord byteValue 0)
  else if state.isWriteHighNext = false then
    { state with writeLow := byteValue, isWriteHighNext := true }
  else
    { pitLoad state (countWord byteValue state.writeLow) with isWriteHighNext := false }

def pitCounter2Write : PitState :=
  let access := accessInForce state.counter2Access
  let toned :=
    if access = pitAccessLow then { state with counter2Reload := byteValue.toUInt16 }
    else if access = pitAccessHigh then { state with counter2Reload := countWord byteValue 0 }
    else if state.counter2IsWriteHighNext = false then
      { state with counter2WriteLow := byteValue, counter2IsWriteHighNext := true }
    else
      { state with
        counter2Reload := countWord byteValue state.counter2WriteLow
        counter2IsWriteHighNext := false }
  { toned with
    counter2 := pitCounterWriteCount state { state.counter2 with access } byteValue }

/-! ## The Control Word -/

def controlAccess : Nat := controlWord.toNat / 16 % 4
def controlMode : Nat := controlWord.toNat / 2 % 8
def controlIsBcd : Bool := controlWord.toNat % 2 = 1

/-- Modes 6 and 7 are modes 2 and 3. -/
def effectiveMode (programmedMode : Nat) : Nat :=
  if programmedMode ≥ pitModeAliasFirst then programmedMode - pitModeAliasOffset
  else programmedMode

def pitCounterControl : PitCounter :=
  if controlAccess controlWord = pitAccessLatch then
    { counter with
      latch := UInt16.ofNat (pitCounterCount state counter)
      isLatched := true
      isReadHighNext := false }
  else
    { counter with
      access := controlAccess controlWord
      isTriggered := false
      programmedMode := controlMode controlWord
      mode := effectiveMode (controlMode controlWord)
      isBcd := controlIsBcd controlWord
      isWriteHighNext := false
      isNullCount := true
      loadClocks := state.totalClocks
      gateElapsed := 0 }

def statusByte (outPin isNullCount : Bool) (access programmedMode : Nat) (isBcd : Bool) : UInt8 :=
  UInt8.ofNat (outPin.toNat * 128 + isNullCount.toNat * 64 + access % 4 * 16 +
    programmedMode % 8 * 2 + isBcd.toNat)

def pitStatusOf : UInt8 :=
  if counterIndex = 0 then
    statusByte state.outPin (state.isControlWordArmed || state.isNextPending)
      (accessInForce state.access) state.programmedMode state.isBcd
  else
    let counter := if counterIndex = 1 then state.counter1 else state.counter2
    statusByte (pitCounterOut state counter) counter.isNullCount (accessInForce counter.access)
      counter.programmedMode counter.isBcd

def latchCounter0 : PitState :=
  { state with
    latch := UInt16.ofNat (pitCurrentCount state)
    isLatched := true
    isReadHighNext := false }

def readBackCount : PitCounter :=
  if counter.isLatched then counter
  else
    { counter with
      latch := UInt16.ofNat (pitCounterCount state counter)
      isLatched := true
      isReadHighNext := false }

def readBackStatus : PitState :=
  if state.statusLatched counterIndex then state
  else
    { state with
      statusLatch := Function.update state.statusLatch counterIndex (pitStatusOf state counterIndex)
      statusLatched := Function.update state.statusLatched counterIndex true }

def readBackLatch : PitState :=
  if counterIndex = 0 then if state.isLatched then state else latchCounter0 state
  else if counterIndex = 1 then { state with counter1 := readBackCount state state.counter1 }
  else { state with counter2 := readBackCount state state.counter2 }

def readBackCounter (command : UInt8) (state : PitState) (counterIndex : Fin 3) : PitState :=
  if command.toNat / 2 ^ (counterIndex.val + 1) % 2 = 0 then state
  else
    let withStatus :=
      if command &&& pitReadBackNoStatus = 0 then readBackStatus state counterIndex else state
    if command &&& pitReadBackNoCount = 0 then readBackLatch withStatus counterIndex
    else withStatus

def pitReadBack (command : UInt8) : PitState :=
  [0, 1, 2].foldl (readBackCounter command) state

def pitCounter0Control : PitState :=
  { state with
    programmedMode := controlMode controlWord
    mode := effectiveMode (controlMode controlWord)
    access := controlAccess controlWord
    isBcd := controlIsBcd controlWord
    isWriteHighNext := false
    isControlWordArmed := true
    isNextPending := false
    isIrqArmed := false }

def pitControlWrite : PitState :=
  let counterIndex := controlWord.toNat / 64
  if counterIndex = pitSelectCounter2 then
    let tuned :=
      if controlAccess controlWord = pitAccessLatch then state
      else
        { state with
          counter2Access := controlAccess controlWord
          counter2IsWriteHighNext := false }
    { tuned with counter2 := pitCounterControl state state.counter2 controlWord }
  else if counterIndex = pitSelectCounter1 then
    { state with counter1 := pitCounterControl state state.counter1 controlWord }
  else if counterIndex = pitSelectReadBack then pitReadBack state controlWord
  else if controlAccess controlWord = pitAccessLatch then latchCounter0 state
  else pitCounter0Control state controlWord

def pitPortOut : PitState :=
  if port = pitControlPort then pitControlWrite state byteValue
  else if port = pitCounter0Port then pitCounter0Write state byteValue
  else if port = pitCounter2Port then pitCounter2Write state byteValue
  else if port = pitCounter1Port then
    { state with counter1 := pitCounterWriteCount state state.counter1 byteValue }
  else state

/-! ## Reads of the ports -/

def pitUndrivenBus : UInt8 := 0xFF

/-- `count & PIT_LOW_BYTE`. -/
def lowByte : UInt8 := count.toUInt8

/-- `(count >> BYTE_SHIFT) & PIT_LOW_BYTE`. -/
def highByte : UInt8 := (count >>> 8).toUInt8

def counterReadValue : UInt16 :=
  pitCountBytes counter.isBcd
    (if counter.isLatched then counter.latch.toNat else pitCounterCount state counter)

def pitCounterReadCount : UInt8 × PitCounter :=
  let count := counterReadValue state counter
  let access := accessInForce counter.access
  if access = pitAccessLow then (lowByte count, { counter with isLatched := false })
  else if access = pitAccessHigh then (highByte count, { counter with isLatched := false })
  else if counter.isReadHighNext = false then
    (lowByte count, { counter with isReadHighNext := true })
  else (highByte count, { counter with isReadHighNext := false, isLatched := false })

def counter0ReadValue : UInt16 :=
  pitCountBytes state.isBcd (if state.isLatched then state.latch.toNat else pitCurrentCount state)

def pitCounter0Read : UInt8 × PitState :=
  let count := counter0ReadValue state
  let access := accessInForce state.access
  if access = pitAccessLow then (lowByte count, { state with isLatched := false })
  else if access = pitAccessHigh then (highByte count, { state with isLatched := false })
  else if state.isReadHighNext = false then (lowByte count, { state with isReadHighNext := true })
  else (highByte count, { state with isReadHighNext := false, isLatched := false })

def portCounter : Option (Fin 3) :=
  if port = pitCounter0Port then some 0
  else if port = pitCounter1Port then some 1
  else if port = pitCounter2Port then some 2
  else none

def pitCountRead : UInt8 × PitState :=
  if counterIndex = 1 then
    let read := pitCounterReadCount state state.counter1
    (read.1, { state with counter1 := read.2 })
  else if counterIndex = 2 then
    let read := pitCounterReadCount state state.counter2
    (read.1, { state with counter2 := read.2 })
  else pitCounter0Read state

def pitPortIn : UInt8 × PitState :=
  match portCounter port with
  | none => (pitUndrivenBus, state)
  | some counterIndex =>
    if state.statusLatched counterIndex then
      (state.statusLatch counterIndex,
        { state with statusLatched := Function.update state.statusLatched counterIndex false })
    else pitCountRead state counterIndex

def pitInputHz : Nat := 1193182

def speakerReload : Nat :=
  if state.counter2.isBcd then pitFromBcd state.counter2Reload else state.counter2Reload.toNat

def vddPitCounter2Hz : Nat :=
  let reload := speakerReload state
  pitInputHz / (if reload = 0 then pitWrap state.counter2.isBcd else reload)

/-- Counter 2 as `VddPitReset` leaves it. -/
def resetCounter2 : PitCounter where
  reload := 0
  access := pitAccessLowHigh
  mode := 0
  programmedMode := 0
  isBcd := false
  isWriteHighNext := false
  writeLow := 0
  isReadHighNext := false
  isLatched := false
  latch := 0
  loadClocks := 0
  isNullCount := false
  gate := false
  gateElapsed := 0
  isTriggered := false

def resetCounter1 : PitCounter :=
  { resetCounter2 with
    reload := pitRefreshDivisor
    mode := pitMode2
    programmedMode := pitMode2
    gate := true }

def vddPitReset : PitState where
  reload := 0
  access := pitAccessLowHigh
  mode := pitMode3
  programmedMode := pitMode3
  isWriteHighNext := false
  writeLow := 0
  isReadHighNext := false
  isLatched := false
  latch := 0
  totalClocks := 0
  loadClocks := 0
  accumulator := 0
  isControlWordArmed := false
  isNextPending := false
  nextReload := 0
  isIrqArmed := false
  oneShotLoads := 0
  restarts := 0
  counter2Reload := 0
  counter2Access := 0
  counter2IsWriteHighNext := false
  counter2WriteLow := 0
  isBcd := false
  statusLatched := fun _ => false
  statusLatch := fun _ => 0
  counter1 := resetCounter1
  counter2 := resetCounter2

inductive PitEvent where
  | addClocks (clocks : UInt32)
  | portOut (port : Nat) (byteValue : UInt8)
  deriving DecidableEq, Repr

def pitEvent : PitEvent → PitState × Nat
  | .addClocks clocks => vddPitAddClocks state clocks
  | .portOut port byteValue => (pitPortOut state port byteValue, 0)

def pitRun (events : List PitEvent) : PitState :=
  events.foldl (fun state event => (pitEvent state event).1) state

/-- What a guest and the host's clock do to the chip, reads included. -/
inductive PitAccess where
  | addClocks (clocks : UInt32)
  | portOut (port : Nat) (byteValue : UInt8)
  | portIn (port : Nat)
  | counter2Gate (isHigh : Bool)
  deriving DecidableEq, Repr

def pitAccess : PitAccess → PitState
  | .addClocks clocks => (vddPitAddClocks state clocks).1
  | .portOut port byteValue => pitPortOut state port byteValue
  | .portIn port => (pitPortIn state port).2
  | .counter2Gate isHigh => vddPitCounter2Gate state isHigh

end Ntvdmex.Vdd.Pit
