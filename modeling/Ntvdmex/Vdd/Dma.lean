import Mathlib

/-!
# The 8237 pair (`vdd_dma.c`)

The registers of the eight channels, the guest memory as `VddMapLinear` hands it out,
and the transfers: those a device pulls, and those the controllers carry out for a
software request.  A loop of at most `n` rounds takes `n` as its first argument.
-/

namespace Ntvdmex.Vdd.Dma

def dmaChannels : Nat := 8
def dmaCascadeChannel : Fin 8 := 4
def dmaPhysicalLimit : Nat := 0x110000
def dmaMaxTransfers : Nat := 0x10001
def dmaCountExpired : UInt16 := 0xFFFF
def dmaFloatingByte : UInt8 := 0xFF

def dmaModeTransfer : UInt8 := 0x0C
def dmaModeTransferWrite : UInt8 := 0x04
def dmaModeTransferRead : UInt8 := 0x08
def dmaModeAutoinit : UInt8 := 0x10
def dmaModeDecrement : UInt8 := 0x20
def dmaModeSelect : UInt8 := 0xC0

def dmaCommandMemoryToMemory : UInt8 := 0x01
def dmaCommandAddressHold : UInt8 := 0x02
def dmaCommandDisable : UInt8 := 0x04

structure DmaChannel where
  baseAddress : UInt16
  currentAddress : UInt16
  baseCount : UInt16
  currentCount : UInt16
  page : UInt8
  mode : UInt8
  isMasked : Bool
  isTerminalCount : Bool
  deriving DecidableEq, Repr

structure DmaState where
  channels : Fin 8 → DmaChannel
  flipFlop : Fin 2 → Bool
  sparePage : Fin 16 → UInt8
  command : Fin 2 → UInt8
  request : Fin 2 → UInt8
  temporary : Fin 2 → UInt8

/-- Guest memory by linear address, and the addresses read or written, the last first. -/
structure LinearMemory where
  bytes : Nat → UInt8
  touched : List Nat

def LinearMemory.load (memory : LinearMemory) (linear : Nat) : UInt8 × LinearMemory :=
  (memory.bytes linear, { memory with touched := linear :: memory.touched })

def LinearMemory.store (memory : LinearMemory) (linear : Nat) (value : UInt8) : LinearMemory where
  bytes := Function.update memory.bytes linear value
  touched := linear :: memory.touched

/-! ## Channels -/

variable (n : Fin 8) (channel : DmaChannel)

def DmaChannel.hasMode (bits : UInt8) : Bool := channel.mode &&& bits ≠ 0

def DmaState.setChannel (state : DmaState) (n : Fin 8) (channel : DmaChannel) : DmaState :=
  { state with channels := Function.update state.channels n channel }

def DmaState.setRequest (state : DmaState) (controller : Fin 2) (value : UInt8) : DmaState :=
  { state with request := Function.update state.request controller value }

/-- A channel of the first controller moves bytes, one of the second words. -/
def IsByteChannel : Prop := n.val < 4
deriving Decidable

def controllerOf : Fin 2 := ⟨n.val / 4, by omega⟩

def lineBit : UInt8 := 1 <<< UInt8.ofNat (n.val % 4)

def unitBytes : Nat := if IsByteChannel n then 1 else 2

def vddDmaCurrentPhysical (state : DmaState) (n : Fin 8) : Nat :=
  let channel := state.channels n
  if IsByteChannel n then (channel.page.toNat <<< 16) ||| channel.currentAddress.toNat
  else ((channel.page &&& 0xFE).toNat <<< 16) ||| (channel.currentAddress.toNat <<< 1)

def vddDmaRemaining (state : DmaState) (n : Fin 8) : Nat :=
  let units := (state.channels n).currentCount.toNat + 1
  if IsByteChannel n then units else units * 2

def DmaChannel.stepAddress : UInt16 :=
  if channel.hasMode dmaModeDecrement then channel.currentAddress - 1
  else channel.currentAddress + 1

def DmaChannel.expire : DmaChannel :=
  if channel.hasMode dmaModeAutoinit then
    { channel with
      isTerminalCount := true
      currentAddress := channel.baseAddress
      currentCount := channel.baseCount }
  else
    { channel with
      isTerminalCount := true
      currentCount := dmaCountExpired
      isMasked := true }

def DmaChannel.advance : DmaChannel :=
  let walked := { channel with currentAddress := channel.stepAddress }
  if channel.currentCount = 0 then walked.expire
  else { walked with currentCount := channel.currentCount - 1 }

/-- The state, and whether this was the terminal unit. -/
def dmaAdvance (state : DmaState) (n : Fin 8) : DmaState × Bool :=
  let channel := state.channels n
  let advanced := state.setChannel n channel.advance
  if channel.currentCount = 0 then
    (advanced.setRequest (controllerOf n) (state.request (controllerOf n) &&& ~~~ lineBit n), true)
  else (advanced, false)

/-! ## Transfers a device pulls -/

/-- A transfer on its way: what a read has put into the destination, how many bytes are
through, and whether terminal count was reached. -/
structure DmaProgress where
  state : DmaState
  memory : LinearMemory
  destination : List UInt8
  transferred : Nat
  isTerminalCount : Bool

/-- The bytes of one unit, read. -/
def loadBytes (memory : LinearMemory) (linear : Nat) : Nat → List UInt8 × LinearMemory
  | 0 => ([], memory)
  | count + 1 =>
    let loaded := memory.load linear
    let rest := loadBytes loaded.2 (linear + 1) count
    (loaded.1 :: rest.1, rest.2)

def storeBytes (memory : LinearMemory) (linear : Nat) (source : Nat → UInt8) :
    Nat → LinearMemory
  | 0 => memory
  | count + 1 => storeBytes (memory.store linear (source 0)) (linear + 1) (fun i => source (i + 1)) count

/-- One unit; with no source, memory is read.  The flag is false when the channel stopped at
terminal count. -/
def dmaStep (source : Option (Nat → UInt8)) (progress : DmaProgress) : DmaProgress × Bool :=
  let linear := vddDmaCurrentPhysical progress.state n
  let advanced := dmaAdvance progress.state n
  let moved : DmaProgress :=
    match source with
    | none =>
      let loaded := loadBytes progress.memory linear (unitBytes n)
      { progress with
        memory := loaded.2
        destination := progress.destination ++ loaded.1 }
    | some source =>
      { progress with
        memory := storeBytes progress.memory linear (fun i => source (progress.transferred + i))
          (unitBytes n) }
  ({ moved with
      state := advanced.1
      transferred := progress.transferred + unitBytes n
      isTerminalCount := progress.isTerminalCount || advanced.2 },
    !(advanced.2 && !(advanced.1.channels n).hasMode dmaModeAutoinit))

def dmaControllerGrants (state : DmaState) (n : Fin 8) : Bool :=
  !(state.channels n).isMasked && state.command (controllerOf n) &&& dmaCommandDisable = 0

def dmaIsCascadeUp (state : DmaState) : Bool :=
  !(state.channels dmaCascadeChannel).isMasked && state.command 1 &&& dmaCommandDisable = 0

def vddDmaGrants (state : DmaState) (n : Fin 8) : Bool :=
  dmaControllerGrants state n && (!(IsByteChannel n) || dmaIsCascadeUp state)

def dmaTransferLoop (n : Fin 8) (source : Option (Nat → UInt8)) (byteCount : Nat) :
    Nat → DmaProgress → DmaProgress
  | 0, progress => progress
  | rounds + 1, progress =>
    if progress.transferred + unitBytes n ≤ byteCount then
      let stepped := dmaStep n source progress
      if stepped.2 then dmaTransferLoop n source byteCount rounds stepped.1 else stepped.1
    else progress

def dmaTransfer (state : DmaState) (memory : LinearMemory) (n : Fin 8)
    (source : Option (Nat → UInt8)) (byteCount : Nat) : DmaProgress :=
  let start : DmaProgress :=
    { state, memory, destination := [], transferred := 0
      isTerminalCount := false }
  if vddDmaGrants state n then dmaTransferLoop n source byteCount byteCount start else start

/-- The loop of `DmaTransfer` on its 32-bit counter; `none` is a loop that has not ended. -/
def dmaTransferLoop32 (n : Fin 8) (source : Option (Nat → UInt8)) (byteCount : UInt32) :
    Nat → DmaProgress → Option DmaProgress
  | 0, _ => none
  | rounds + 1, progress =>
    if (progress.transferred + unitBytes n) % 2 ^ 32 ≤ byteCount.toNat then
      let stepped := dmaStep n source progress
      let counted := { stepped.1 with transferred := stepped.1.transferred % 2 ^ 32 }
      if stepped.2 then dmaTransferLoop32 n source byteCount rounds counted else some counted
    else some progress

/-- `DmaTransfer` as its counter has it.  `dmaTransfer` is the same while the counter cannot
overflow. -/
def dmaTransfer32 (rounds : Nat) (state : DmaState) (memory : LinearMemory) (n : Fin 8)
    (source : Option (Nat → UInt8)) (byteCount : UInt32) : Option DmaProgress :=
  let start : DmaProgress :=
    { state, memory, destination := [], transferred := 0
      isTerminalCount := false }
  if vddDmaGrants state n then dmaTransferLoop32 n source byteCount rounds start else some start

def vddDmaRead (state : DmaState) (memory : LinearMemory) (n : Fin 8) (byteCount : Nat) :
    DmaProgress :=
  dmaTransfer state memory n none byteCount

def vddDmaWrite (state : DmaState) (memory : LinearMemory) (n : Fin 8) (source : Nat → UInt8)
    (byteCount : Nat) : DmaProgress :=
  dmaTransfer state memory n (some source) byteCount

/-- The bytes moved or left, and what the transfer did.  A null buffer is `none`; otherwise
the buffer is given by its bytes. -/
def vddDmaRequest (state : DmaState) (memory : LinearMemory) (channelNumber : Nat)
    (buffer : Option (Nat → UInt8)) (length : Nat) : Nat × Option DmaProgress :=
  if h : channelNumber < 8 then
    let n : Fin 8 := ⟨channelNumber, h⟩
    if n = dmaCascadeChannel then (0, none)
    else
      match buffer with
      | none => (vddDmaRemaining state n, none)
      | some source =>
        if length = 0 then (vddDmaRemaining state n, none)
        else
          let transfer := (state.channels n).mode &&& dmaModeTransfer
          if transfer = dmaModeTransferRead then
            let progress := vddDmaRead state memory n length
            (progress.transferred, some progress)
          else if transfer = dmaModeTransferWrite then
            let progress := vddDmaWrite state memory n source length
            (progress.transferred, some progress)
          else (0, none)
  else (0, none)

/-! ## Transfers the controllers carry out -/

/-- `DmaMemory`: no address outside the VDM. -/
def dmaMemory (physical : Nat) : Option Nat :=
  if physical ≥ dmaPhysicalLimit then none else some physical

def dmaSoftwareBlock (n : Fin 8) : Nat → DmaState → LinearMemory → DmaState × LinearMemory
  | 0, state, memory => (state, memory)
  | rounds + 1, state, memory =>
    let written :=
      if (state.channels n).mode &&& dmaModeTransfer = dmaModeTransferWrite then
        match dmaMemory (vddDmaCurrentPhysical state n) with
        | some linear => storeBytes memory linear (fun _ => dmaFloatingByte) (unitBytes n)
        | none => memory
      else memory
    let advanced := dmaAdvance state n
    if advanced.2 then (advanced.1, written) else dmaSoftwareBlock n rounds advanced.1 written

def dmaCopyByte (state : DmaState) (memory : LinearMemory) : UInt8 × LinearMemory :=
  let loaded :=
    match dmaMemory (vddDmaCurrentPhysical state 0) with
    | some linear => memory.load linear
    | none => (dmaFloatingByte, memory)
  match dmaMemory (vddDmaCurrentPhysical state 1) with
  | some linear => (loaded.1, loaded.2.store linear loaded.1)
  | none => loaded

/-- Both addresses of a copy after one byte. -/
def dmaCopyStep (state : DmaState) (value : UInt8) : DmaState :=
  let channel0 := state.channels 0
  let channel1 := state.channels 1
  let held : DmaState :=
    if state.command 0 &&& dmaCommandAddressHold = 0 then
      state.setChannel 0 { channel0 with currentAddress := channel0.stepAddress }
    else state
  { held.setChannel 1 { channel1 with currentAddress := channel1.stepAddress } with
    temporary := Function.update state.temporary 0 value }

def dmaCopyLoop : Nat → DmaState → LinearMemory → DmaState × LinearMemory
  | 0, state, memory => (state, memory)
  | rounds + 1, state, memory =>
    let copied := dmaCopyByte state memory
    let stepped := dmaCopyStep state copied.1
    let channel1 := stepped.channels 1
    if channel1.currentCount = 0 then (stepped, copied.2)
    else
      dmaCopyLoop rounds
        (stepped.setChannel 1 { channel1 with currentCount := channel1.currentCount - 1 }) copied.2

def dmaCopyEnd (state : DmaState) : DmaState :=
  let channel0 := state.channels 0
  let channel1 := { state.channels 1 with isTerminalCount := true }
  let ended0 : DmaChannel :=
    if channel0.hasMode dmaModeAutoinit then
      { channel0 with currentAddress := channel0.baseAddress, currentCount := channel0.baseCount }
    else { channel0 with isMasked := true }
  ((state.setRequest 0 (state.request 0 &&& ~~~ 0x03)).setChannel 0 ended0).setChannel 1
    channel1.expire

def dmaMemoryToMemory (state : DmaState) (memory : LinearMemory) : DmaState × LinearMemory :=
  let copied := dmaCopyLoop dmaMaxTransfers state memory
  (dmaCopyEnd copied.1, copied.2)

/-- Channel `n` of the service loop. -/
def dmaServiceLine (state : DmaState) (memory : LinearMemory) : DmaState × LinearMemory :=
  if state.request (controllerOf n) &&& lineBit n = 0 then (state, memory)
  else if n = dmaCascadeChannel then (state, memory)
  else if (state.channels n).mode &&& dmaModeSelect = dmaModeSelect then (state, memory)
  else if IsByteChannel n ∧ state.command 0 &&& dmaCommandMemoryToMemory ≠ 0 ∧ n.val ≤ 1 then
    if n.val = 0 then dmaMemoryToMemory state memory else (state, memory)
  else dmaSoftwareBlock n dmaMaxTransfers state memory

def dmaServiceController (controller : Fin 2) (state : DmaState) (memory : LinearMemory) :
    DmaState × LinearMemory :=
  if state.request controller = 0 then (state, memory)
  else if state.command controller &&& dmaCommandDisable ≠ 0 then (state, memory)
  else if controller = 0 ∧ dmaIsCascadeUp state = false then (state, memory)
  else
    (List.range 4).foldl
      (fun served line =>
        dmaServiceLine ⟨(controller.val * 4 + line) % 8, Nat.mod_lt _ (by decide)⟩ served.1 served.2)
      (state, memory)

def dmaSoftwareService (state : DmaState) (memory : LinearMemory) : DmaState × LinearMemory :=
  let first := dmaServiceController 0 state memory
  dmaServiceController 1 first.1 first.2

/-! ## The register file -/

def dmaPageChannel (port : Nat) : Option (Fin 8) :=
  match port with
  | 0x87 => some 0
  | 0x83 => some 1
  | 0x81 => some 2
  | 0x82 => some 3
  | 0x8B => some 5
  | 0x89 => some 6
  | 0x8A => some 7
  | _ => none

def dmaWriteHalf (register : UInt16) (flipFlop : Bool) (value : UInt8) : UInt16 :=
  if flipFlop then (register &&& (0x00FF : UInt16)) ||| (value.toUInt16 <<< 8)
  else (register &&& 0xFF00) ||| value.toUInt16

def DmaState.toggle (state : DmaState) (controller : Fin 2) : DmaState :=
  { state with
    flipFlop := Function.update state.flipFlop controller (!state.flipFlop controller) }

def channelAt (controller : Fin 2) (line : Nat) : Fin 8 :=
  ⟨(controller.val * 4 + line % 4) % 8, Nat.mod_lt _ (by decide)⟩

def DmaState.mapController (state : DmaState) (controller : Fin 2)
    (change : Nat → DmaChannel → DmaChannel) : DmaState :=
  { state with
    channels := fun n =>
      if controllerOf n = controller then change (n.val % 4) (state.channels n)
      else state.channels n }

def dmaMasterClear (state : DmaState) (controller : Fin 2) : DmaState :=
  { state with
    flipFlop := Function.update state.flipFlop controller false
    command := Function.update state.command controller 0
    request := Function.update state.request controller 0
    temporary := Function.update state.temporary controller 0 }.mapController controller
      fun _ channel => { channel with isMasked := true, isTerminalCount := false }

def dmaWriteChannelRegister (state : DmaState) (controller : Fin 2) (registerIndex : Nat)
    (value : UInt8) : DmaState :=
  let n := channelAt controller (registerIndex / 2)
  let channel := state.channels n
  let half := fun register => dmaWriteHalf register (state.flipFlop controller) value
  let written : DmaChannel :=
    if registerIndex % 2 = 1 then
      { channel with baseCount := half channel.baseCount, currentCount := half channel.baseCount }
    else
      { channel with
        baseAddress := half channel.baseAddress
        currentAddress := half channel.baseAddress }
  (state.setChannel n written).toggle controller

def dmaWriteRegister (state : DmaState) (controller : Fin 2) (registerIndex : Nat)
    (value : UInt8) : DmaState :=
  let bit : UInt8 := 1 <<< (value &&& 3)
  let n := channelAt controller (value &&& 3).toNat
  let channel := state.channels n
  match registerIndex with
  | 0x8 => { state with command := Function.update state.command controller value }
  | 0x9 =>
    state.setRequest controller
      (if value &&& 4 ≠ 0 then state.request controller ||| bit
        else state.request controller &&& ~~~ bit)
  | 0xA => state.setChannel n { channel with isMasked := value &&& 4 ≠ 0 }
  | 0xB => state.setChannel n { channel with mode := value }
  | 0xC => { state with flipFlop := Function.update state.flipFlop controller false }
  | 0xD => dmaMasterClear state controller
  | 0xE => state.mapController controller fun _ channel => { channel with isMasked := false }
  | 0xF =>
    state.mapController controller fun line channel =>
      { channel with isMasked := (value >>> UInt8.ofNat line) &&& 1 ≠ 0 }
  | _ => state

def dmaPortOut (state : DmaState) (memory : LinearMemory) (port : Nat) (value : UInt8) :
    DmaState × LinearMemory :=
  if 0x80 ≤ port ∧ port ≤ 0x8F then
    match dmaPageChannel port with
    | some n => (state.setChannel n { state.channels n with page := value }, memory)
    | none =>
      ({ state with
          sparePage := Function.update state.sparePage ⟨port % 16, Nat.mod_lt _ (by decide)⟩ value },
        memory)
  else
    let controller : Fin 2 := if port ≥ 0xC0 then 1 else 0
    let registerIndex := if port ≥ 0xC0 then (port - 0xC0) / 2 else port
    if registerIndex < 8 then
      (dmaWriteChannelRegister state controller registerIndex value, memory)
    else
      let written := dmaWriteRegister state controller registerIndex value
      if written.request 0 ||| written.request 1 ≠ 0 then dmaSoftwareService written memory
      else (written, memory)

def dmaPost (state : DmaState) : DmaState :=
  state.setChannel dmaCascadeChannel
    { state.channels dmaCascadeChannel with mode := dmaModeSelect, isMasked := false }

def clearChannel : DmaChannel where
  baseAddress := 0
  currentAddress := 0
  baseCount := 0
  currentCount := 0
  page := 0
  mode := 0
  isMasked := false
  isTerminalCount := false

def vddDmaReset : DmaState :=
  dmaPost (dmaMasterClear (dmaMasterClear
    { channels := fun _ => clearChannel
      flipFlop := fun _ => false
      sparePage := fun _ => 0
      command := fun _ => 0
      request := fun _ => 0
      temporary := fun _ => 0 } 0) 1)

end Ntvdmex.Vdd.Dma
