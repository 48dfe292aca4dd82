import Ntvdmex.Foundation.Ring

/-!
# The serial ports (`vdd_comm.c`)

The 8250 and 16550A: the registers of four ports, the receive ring the host fills, the interrupt
line behind OUT2, and INT 14h.  The bus is of any type, with what `VddRaiseIrq` does to it.
-/

namespace Ntvdmex.Vdd.Comm

open Foundation

local instance neZero8 : NeZero 8 := ⟨by decide⟩

def commMaxPorts : Nat := 4
def commRegisters : UInt16 := 8
def commReceiveRingSize : Nat := 256
def commFifoDepth : Nat := 16

instance : NeZero commMaxPorts := ⟨by decide⟩

instance : NeZero commReceiveRingSize := ⟨by decide⟩

def commRbr : UInt16 := 0
def commIer : UInt16 := 1
def commIir : UInt16 := 2
def commLcr : UInt16 := 3
def commMcr : UInt16 := 4
def commLsr : UInt16 := 5
def commMsr : UInt16 := 6
def commScr : UInt16 := 7

def commLcrDlab : UInt8 := 0x80
def commLcrBreak : UInt8 := 0x40
def commIerValidBits : UInt8 := 0x0F
def commMcrValidBits : UInt8 := 0x1F
def commMsrLines : UInt8 := 0xF0
def commMsrDeltas : UInt8 := 0x0F
def commUndrivenBus : UInt8 := 0xFF
def commDefaultDivisor : UInt8 := 12

def commIirLineStatus : UInt8 := 0x06
def commIirReceivedData : UInt8 := 0x04
def commIirCharacterTimeout : UInt8 := 0x0C
def commIirThrEmpty : UInt8 := 0x02
def commIirModemStatus : UInt8 := 0x00
def commIirNoInterrupt : UInt8 := 0x01
def commIirFifosEnabled : UInt8 := 0xC0

def commLsrDataReady : UInt8 := 0x01
def commLsrOverrun : UInt8 := 0x02
def commLsrBreak : UInt8 := 0x10
def commLsrThrEmpty : UInt8 := 0x20
def commLsrTransmitterEmpty : UInt8 := 0x40
def commLsrFifoError : UInt8 := 0x80
def commLsrErrors : UInt8 := 0x1E
/-- The errors and the FIFO's. -/
def commLsrCleared : UInt8 := 0x9E

def commFcrEnable : UInt8 := 0x01
def commFcrRxReset : UInt8 := 0x02

def commMcrDtr : UInt8 := 0x01
def commMcrRts : UInt8 := 0x02
def commMcrOut1 : UInt8 := 0x04
def commMcrOut2 : UInt8 := 0x08
def commMcrLoop : UInt8 := 0x10

def commMsrTrailingRi : UInt8 := 0x04
def commMsrCts : UInt8 := 0x10
def commMsrDsr : UInt8 := 0x20
def commMsrRi : UInt8 := 0x40
def commMsrDcd : UInt8 := 0x80

def commIerReceivedData : UInt8 := 0x01
def commIerThrEmpty : UInt8 := 0x02
def commIerLineStatus : UInt8 := 0x04
def commIerModemStatus : UInt8 := 0x08

def commInt14Timeout : UInt16 := 0x8000
def commInt14LineStatusBits : UInt8 := 0x7F
def commInt14LineBits : UInt8 := 0x1F

structure CommPort where
  basePort : UInt16
  irq : UInt8
  isFitted : Bool
  ier : UInt8
  lcr : UInt8
  mcr : UInt8
  scr : UInt8
  fcr : UInt8
  lsr : UInt8
  msr : UInt8
  divisorLow : UInt8
  divisorHigh : UInt8
  rbr : UInt8
  isThrePending : Bool
  receive : Vector UInt8 commReceiveRingSize
  receiveHead : Nat
  receiveLength : Nat
  transmitCount : UInt32
  receiveCount : UInt32
  overruns : UInt32
  breaks : UInt32

/-- The four ports on their bus, and the bytes the host's sink has been given. -/
structure CommState (β : Type) where
  bus : Option β
  ports : Fin commMaxPorts → CommPort
  hasSink : Bool
  sent : List (Fin commMaxPorts × UInt8)

def CommState.setPort {β : Type} (state : CommState β) (index : Fin commMaxPorts)
    (uart : CommPort) : CommState β :=
  { state with ports := Function.update state.ports index uart }

def triggerLevels : Fin 4 → Nat
  | 0 => 1
  | 1 => 4
  | 2 => 8
  | 3 => 14

variable (uart : CommPort)

def commReceiveTrigger : Nat :=
  if uart.fcr &&& commFcrEnable ≠ 0 then triggerLevels (Fin.ofNat 4 (uart.fcr >>> 6).toNat) else 1

def commInterruptIdentification : UInt8 :=
  if uart.ier &&& commIerLineStatus ≠ 0 ∧ uart.lsr &&& commLsrErrors ≠ 0 then commIirLineStatus
  else if uart.ier &&& commIerReceivedData ≠ 0 ∧ uart.lsr &&& commLsrDataReady ≠ 0 then
    let fifoCount := min uart.receiveLength commFifoDepth
    if uart.fcr &&& commFcrEnable = 0 ∨ commReceiveTrigger uart ≤ fifoCount then
      commIirReceivedData
    else commIirCharacterTimeout
  else if uart.ier &&& commIerThrEmpty ≠ 0 ∧ uart.isThrePending then commIirThrEmpty
  else if uart.ier &&& commIerModemStatus ≠ 0 ∧ uart.msr &&& commMsrDeltas ≠ 0 then
    commIirModemStatus
  else commIirNoInterrupt

/-- OUT2 lets the interrupt pin through, loopback does not. -/
def isGateOpen : Bool :=
  uart.mcr &&& commMcrOut2 ≠ 0 && uart.mcr &&& commMcrLoop = 0

section Bus

variable {β : Type} (raiseIrq : β → UInt8 → β)
variable (state : CommState β) (uart : CommPort) (index : Fin commMaxPorts) (port : UInt16)
  (value : UInt8)

def commUpdateIrq : CommState β :=
  let uart := state.ports index
  match state.bus with
  | none => state
  | some bus =>
    if uart.isFitted = false then state
    else if isGateOpen uart = false then state
    else if commInterruptIdentification uart &&& commIirNoInterrupt ≠ 0 then state
    else { state with bus := some (raiseIrq bus uart.irq) }

def commLoopbackModemStatus (modemControl : UInt8) : UInt8 :=
  (if modemControl &&& commMcrDtr ≠ 0 then commMsrDsr else 0) |||
    (if modemControl &&& commMcrRts ≠ 0 then commMsrCts else 0) |||
    (if modemControl &&& commMcrOut1 ≠ 0 then commMsrRi else 0) |||
    if modemControl &&& commMcrOut2 ≠ 0 then commMsrDcd else 0

def commSetModemStatus (lines : UInt8) : CommPort :=
  let oldLines := uart.msr &&& commMsrLines
  let changed := (oldLines ^^^ (lines &&& commMsrLines)) >>> 4
  let deltas :=
    if changed &&& commMsrTrailingRi ≠ 0 ∧ oldLines &&& commMsrRi = 0 then
      changed &&& ~~~commMsrTrailingRi
    else changed
  { uart with msr := lines &&& commMsrLines ||| (uart.msr &&& commMsrDeltas ||| deltas) }

def commPushReceive : CommPort :=
  if uart.receiveLength ≥ commReceiveRingSize then
    { uart with lsr := uart.lsr ||| commLsrOverrun }
  else
    { uart with
      receive := Ring.store uart.receive (uart.receiveHead + uart.receiveLength) value
      receiveLength := uart.receiveLength + 1
      lsr := uart.lsr ||| commLsrDataReady
      receiveCount := uart.receiveCount + 1 }

/-- An empty ring answers with the byte it gave last. -/
def commPopReceive : CommPort × UInt8 :=
  if uart.receiveLength = 0 then (uart, uart.rbr)
  else
    let value := Ring.slot uart.receive uart.receiveHead
    ({ uart with
      receiveHead := (uart.receiveHead + 1) % commReceiveRingSize
      receiveLength := uart.receiveLength - 1
      lsr := if uart.receiveLength - 1 = 0 then uart.lsr &&& ~~~commLsrDataReady else uart.lsr
      rbr := value }, value)

/-! ## The port registers -/

def commFind : Option (Fin commMaxPorts × UInt16) :=
  (List.finRange commMaxPorts).findSome? fun index =>
    let uart := state.ports index
    if uart.isFitted ∧ uart.basePort ≤ port ∧ port < uart.basePort + commRegisters then
      some (index, port - uart.basePort)
    else none

def commRegisterIn (register : UInt16) : CommPort × UInt8 :=
  if register = commRbr then
    if uart.lcr &&& commLcrDlab ≠ 0 then (uart, uart.divisorLow) else commPopReceive uart
  else if register = commIer then
    (uart, if uart.lcr &&& commLcrDlab ≠ 0 then uart.divisorHigh else uart.ier)
  else if register = commIir then
    let identification := commInterruptIdentification uart
    (if identification = commIirThrEmpty then { uart with isThrePending := false } else uart,
      if uart.fcr &&& commFcrEnable ≠ 0 then identification ||| commIirFifosEnabled
      else identification)
  else if register = commLcr then (uart, uart.lcr)
  else if register = commMcr then (uart, uart.mcr)
  else if register = commLsr then
    ({ uart with lsr := uart.lsr &&& ~~~commLsrCleared }, uart.lsr)
  else if register = commMsr then ({ uart with msr := uart.msr &&& commMsrLines }, uart.msr)
  else if register = commScr then (uart, uart.scr)
  else (uart, commUndrivenBus)

def commPortIn : CommState β × UInt8 :=
  match commFind state port with
  | none => (state, commUndrivenBus)
  | some (index, register) =>
    let read := commRegisterIn (state.ports index) register
    (state.setPort index read.1, read.2)

/-- A byte for the transmitter: back into the ring in loopback, else to the sink. -/
def commTransmit : CommState β :=
  let uart :=
    { state.ports index with transmitCount := (state.ports index).transmitCount + 1 }
  let delivered :=
    if uart.mcr &&& commMcrLoop ≠ 0 then state.setPort index (commPushReceive uart value)
    else if state.hasSink then
      { state.setPort index uart with sent := state.sent ++ [(index, value)] }
    else state.setPort index uart
  commUpdateIrq raiseIrq
    (delivered.setPort index { delivered.ports index with isThrePending := true }) index

def commWriteIer : CommPort :=
  { uart with
    isThrePending :=
      if uart.ier &&& commIerThrEmpty = 0 ∧ value &&& commIerThrEmpty ≠ 0 ∧
          uart.lsr &&& commLsrThrEmpty ≠ 0 then true
      else uart.isThrePending
    ier := value &&& commIerValidBits }

def commWriteFcr : CommPort :=
  if value &&& commFcrRxReset ≠ 0 then
    { uart with
      fcr := value
      receiveHead := 0
      receiveLength := 0
      lsr := uart.lsr &&& ~~~commLsrDataReady }
  else { uart with fcr := value }

def commWriteLcr : CommState β :=
  let uart := state.ports index
  let written := { uart with lcr := value }
  if uart.lcr &&& commLcrBreak = 0 ∧ value &&& commLcrBreak ≠ 0 then
    let broken := { written with breaks := uart.breaks + 1 }
    if broken.mcr &&& commMcrLoop ≠ 0 then
      let pushed := commPushReceive broken 0
      commUpdateIrq raiseIrq (state.setPort index
        { pushed with
          lsr := pushed.lsr ||| commLsrBreak |||
            if pushed.fcr &&& commFcrEnable ≠ 0 then commLsrFifoError else 0 }) index
    else state.setPort index broken
  else state.setPort index written

def commWriteMcr : CommPort :=
  let written := { uart with mcr := value &&& commMcrValidBits }
  commSetModemStatus written
    (if written.mcr &&& commMcrLoop ≠ 0 then commLoopbackModemStatus written.mcr else 0)

def commPortOut : CommState β :=
  match commFind state port with
  | none => state
  | some (index, register) =>
    let uart := state.ports index
    if register = commRbr then
      if uart.lcr &&& commLcrDlab ≠ 0 then
        state.setPort index { uart with divisorLow := value }
      else commTransmit raiseIrq state index value
    else if register = commIer then
      if uart.lcr &&& commLcrDlab ≠ 0 then
        state.setPort index { uart with divisorHigh := value }
      else commUpdateIrq raiseIrq (state.setPort index (commWriteIer uart value)) index
    else if register = commIir then state.setPort index (commWriteFcr uart value)
    else if register = commLcr then commWriteLcr raiseIrq state index value
    else if register = commMcr then
      commUpdateIrq raiseIrq (state.setPort index (commWriteMcr uart value)) index
    else if register = commScr then state.setPort index { uart with scr := value }
    else state

/-! ## INT 14h -/

def commLineStatus : UInt8 := uart.lsr &&& commInt14LineStatusBits

def lineStatusAnd (low : UInt8) : UInt16 :=
  (commLineStatus uart).toUInt16 <<< 8 ||| low.toUInt16

def baudDivisors : Fin 8 → UInt16
  | 0 => 1047
  | 1 => 768
  | 2 => 384
  | 3 => 192
  | 4 => 96
  | 5 => 48
  | 6 => 24
  | 7 => 12

def commInt14 (ax dx : UInt16) : CommState β × UInt16 :=
  let argumentByte := ax.toUInt8
  if h : dx.toNat < commMaxPorts then
    let index : Fin commMaxPorts := ⟨dx.toNat, h⟩
    let uart := state.ports index
    if uart.isFitted = false then (state, commInt14Timeout)
    else
      match (ax >>> 8).toNat with
      | 0x00 =>
        let divisor := baudDivisors (Fin.ofNat 8 (argumentByte >>> 5).toNat)
        (state.setPort index
          { uart with
            divisorLow := divisor.toUInt8
            divisorHigh := (divisor >>> 8).toUInt8
            lcr := argumentByte &&& commInt14LineBits },
          lineStatusAnd uart uart.msr)
      | 0x01 =>
        let sent := commTransmit raiseIrq state index argumentByte
        (sent, lineStatusAnd (sent.ports index) argumentByte)
      | 0x02 =>
        if uart.receiveLength = 0 then (state, commInt14Timeout)
        else
          let popped := commPopReceive uart
          (state.setPort index popped.1, lineStatusAnd popped.1 popped.2)
      | 0x03 => (state, lineStatusAnd uart uart.msr)
      | _ => (state, commInt14Timeout)
  else (state, commInt14Timeout)

def vddCommReceive (port : Int) (byte : UInt8) : CommState β × Bool :=
  if h : 0 ≤ port ∧ port.toNat < commMaxPorts then
    let index : Fin commMaxPorts := ⟨port.toNat, h.2⟩
    let uart := state.ports index
    if uart.isFitted = false then (state, false)
    else if uart.receiveLength ≥ commReceiveRingSize then
      (state.setPort index
        { uart with lsr := uart.lsr ||| commLsrOverrun, overruns := uart.overruns + 1 }, false)
    else
      (commUpdateIrq raiseIrq (state.setPort index (commPushReceive uart byte)) index, true)
  else (state, false)

end Bus

def commPortReset : CommPort :=
  { uart with
    ier := 0
    lcr := 0
    mcr := 0
    scr := 0
    fcr := 0
    divisorLow := commDefaultDivisor
    divisorHigh := 0
    rbr := 0
    isThrePending := false
    receiveHead := 0
    receiveLength := 0
    transmitCount := 0
    receiveCount := 0
    overruns := 0
    breaks := 0
    lsr := commLsrThrEmpty ||| commLsrTransmitterEmpty
    msr := 0 }

def vddCommReset {β : Type} (state : CommState β) : CommState β :=
  { state with ports := fun index => commPortReset (state.ports index) }

end Ntvdmex.Vdd.Comm
