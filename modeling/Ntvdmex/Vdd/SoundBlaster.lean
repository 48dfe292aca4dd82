import Mathlib

/-!
# The Sound Blaster's DSP (`vdd_sb.c`)

The command state machine behind port 2xC and the transfer engine it programs.  The bytes of a
frame come from the 8237, whose part in a frame is a parameter.
-/

namespace Ntvdmex.Vdd.SoundBlaster

inductive SbModel where
  | sb16
  | awe32
  | sbPro
deriving DecidableEq

inductive SbTransfer where
  | idle
  | single
  | auto
deriving DecidableEq

inductive SbGate where
  | off
  | ack
  | poll
deriving DecidableEq

/-- What is fitted and configured: the model, the version, the gate asked for, the 8237. -/
structure SbCard where
  model : SbModel
  versionMajor : UInt8
  versionMinor : UInt8
  gate : SbGate
  hasDma : Bool

/-- `arguments` are the bytes collected, `ArgumentCount` their number; `stereoSwitch` is
`Mixer[SB_MIXER_STEREO_SWITCH]`; `irqs` counts the calls of `VddRaiseIrq`. -/
structure SbState where
  command : UInt8
  arguments : List UInt8
  argumentsWanted : Nat
  outputQueue : List UInt8
  isSpeakerOn : Bool
  transferMode : SbTransfer
  is16Bit : Bool
  isStereo : Bool
  isLegacyTransfer : Bool
  isSigned : Bool
  isPaused : Bool
  blockLength : UInt32
  blockRemaining : UInt32
  rateHz : UInt32
  isIrqPending : Bool
  gateMode : SbGate
  gateMark : UInt32
  gateWait : UInt32
  stereoSwitch : UInt8
  irqs : Nat

def sbOutputQueueMax : Nat := 8
def sbArgumentsMax : Nat := 4
def sbDefaultRateHz : UInt32 := 22050
def sbGateSafetyBlocks : UInt32 := 2

variable (card : SbCard) (state : SbState) (value : UInt8)

def sbOutputQueuePush : SbState :=
  if sbOutputQueueMax ≤ state.outputQueue.length then state
  else { state with outputQueue := state.outputQueue ++ [value] }

def vddSbReset : SbState where
  command := 0
  arguments := []
  argumentsWanted := 0
  outputQueue := []
  isSpeakerOn := false
  transferMode := .idle
  is16Bit := false
  isStereo := false
  isLegacyTransfer := false
  isSigned := false
  isPaused := false
  blockLength := 1
  blockRemaining := 0
  rateHz := sbDefaultRateHz
  isIrqPending := false
  gateMode := .off
  gateMark := 0
  gateWait := 0
  stereoSwitch := 0
  irqs := 0

/-! ## Commands -/

def sbGateMode : SbGate :=
  if card.gate = .ack ∧ 4 ≤ card.versionMajor then .ack
  else if card.gate = .poll then .poll else .off

def sbStartBlock (bytes : UInt32) (mode : SbTransfer) : SbState :=
  let blockLength := if bytes ≠ 0 then bytes else 1
  { state with
    gateMode := sbGateMode card
    gateWait := 0
    blockLength
    blockRemaining := blockLength
    transferMode := mode
    isPaused := false }

def sbRateFromTimeConstant (timeConstant : UInt8) : UInt32 :=
  let divisor := 256 - timeConstant.toUInt32
  if divisor ≠ 0 then 1000000 / divisor else 4000

/-- `SB_DSP_PROGRAMMED_FIRST` to `SB_DSP_PROGRAMMED_LAST`: an SB16's programmed transfers. -/
def IsProgrammed (command : UInt8) : Prop := 0xB0 ≤ command ∧ command ≤ 0xCF
deriving Decidable

def SbIsSb16Only (command : UInt8) : Prop :=
  IsProgrammed command ∨ command ∈ [0x41, 0x42, 0xD5, 0xD6, 0xD9]
deriving Decidable

def SbIgnores (command : UInt8) : Prop :=
  card.model = .sbPro ∧ SbIsSb16Only command
deriving Decidable

def sbCommandArguments (command : UInt8) : Nat :=
  if SbIgnores card command then 0
  else if IsProgrammed command then 3
  else if command = 0x10 ∨ command = 0x40 ∨ command = 0xE0 ∨ command = 0xE4 then 1
  else if command ∈ [0x14, 0x16, 0x17, 0x41, 0x42, 0x48, 0x80] then 2
  else 0

/-- `arguments[low] | (arguments[high] << BYTE_SHIFT)`. -/
def argumentWord (arguments : List UInt8) (low high : Nat) : UInt32 :=
  (arguments.getD low 0).toUInt32 ||| ((arguments.getD high 0).toUInt32 <<< 8)

def programmedLength (command : UInt8) (arguments : List UInt8) : UInt32 :=
  (argumentWord arguments 1 2 + 1) * if command &&& 0xF0 = 0xB0 then 2 else 1

def sbProgrammed : SbState :=
  let mode := state.arguments.getD 0 0
  let state := { state with
    is16Bit := state.command &&& 0xF0 = 0xB0
    isSigned := mode &&& 0x10 ≠ 0
    isStereo := mode &&& 0x20 ≠ 0
    isLegacyTransfer := false }
  if state.command &&& 0x08 ≠ 0 then { state with transferMode := .idle }
  else
    sbStartBlock card state (programmedLength state.command state.arguments)
      (if state.command &&& 0x04 ≠ 0 then .auto else .single)

/-- The settings that the commands of a DSP 1.x-3.x start a transfer with. -/
def sbLegacy : SbState :=
  { state with
    is16Bit := false
    isSigned := false
    isLegacyTransfer := true
    isStereo := state.stereoSwitch &&& 0x02 ≠ 0 }

/-- The switch of `SbExecute`. -/
def sbSwitch : SbState :=
  let command := state.command
  let arguments := state.arguments
  if command = 0x14 ∨ command = 0x16 ∨ command = 0x17 then
    sbStartBlock card (sbLegacy state) (argumentWord arguments 0 1 + 1) .single
  else if command = 0x1C ∨ command = 0x2C ∨ command = 0x90 then
    sbStartBlock card (sbLegacy state) state.blockLength .auto
  else if command = 0x91 then sbStartBlock card (sbLegacy state) state.blockLength .single
  else if command = 0x40 then
    { state with rateHz := sbRateFromTimeConstant (arguments.getD 0 0) }
  else if command = 0x41 ∨ command = 0x42 then { state with rateHz := argumentWord arguments 1 0 }
  else if command = 0x48 then { state with blockLength := argumentWord arguments 0 1 + 1 }
  else if command = 0xD0 ∨ command = 0xD5 then { state with isPaused := true }
  else if command = 0xD1 then { state with isSpeakerOn := true }
  else if command = 0xD3 then { state with isSpeakerOn := false }
  else if command = 0xD4 ∨ command = 0xD6 then { state with isPaused := false }
  else if command = 0xDA ∨ command = 0xD9 then
    { state with
      transferMode := if state.transferMode = .auto then .single else state.transferMode }
  else if command = 0xE0 then sbOutputQueuePush state (~~~arguments.getD 0 0)
  else if command = 0xE1 then
    sbOutputQueuePush (sbOutputQueuePush state card.versionMajor) card.versionMinor
  else if command = 0xE3 then sbOutputQueuePush state 0
  else if command = 0xF2 ∨ command = 0xF3 then
    { state with isIrqPending := true, irqs := state.irqs + 1 }
  else state

def sbExecute : SbState :=
  if SbIgnores card state.command then state
  else if IsProgrammed state.command then sbProgrammed card state
  else sbSwitch card state

def sbCollect : SbState :=
  if state.argumentsWanted ≠ 0 then
    { state with
      arguments :=
        if state.arguments.length < sbArgumentsMax then state.arguments ++ [value]
        else state.arguments }
  else
    { state with
      command := value, arguments := [], argumentsWanted := sbCommandArguments card value }

def sbDspWrite : SbState :=
  let state := sbCollect card state value
  if state.argumentsWanted ≤ state.arguments.length then
    { sbExecute card state with command := 0, arguments := [], argumentsWanted := 0 }
  else state

/-- The 8237's part in a frame: whether it grants the channel, the polls of its count so far,
and whether it hands over all the bytes. -/
structure SbDmaFrame where
  grants : Bool
  countReads : UInt32
  isServed : Bool

/-- The gate holds the frame back. -/
def SbGateHolds (dma : SbDmaFrame) : Prop :=
  state.is16Bit = false ∧ state.gateWait < state.blockLength * sbGateSafetyBlocks ∧
    (state.gateMode = .poll ∧ card.hasDma = true ∧ state.gateMark ≠ 0 ∧
        dma.countReads = state.gateMark ∨
      state.gateMode = .ack ∧ state.isIrqPending = true)
deriving Decidable

def sbFetchSample : SbState :=
  let bytesWanted : UInt32 := (if state.is16Bit then 2 else 1) * if state.isStereo then 2 else 1
  { state with
    blockRemaining :=
      if bytesWanted < state.blockRemaining then state.blockRemaining - bytesWanted else 0 }

/-- One round of the loop of `SbRender`. -/
def sbRenderFrame (dma : SbDmaFrame) : SbState :=
  if state.transferMode = .idle ∨ state.isPaused then state
  else if SbGateHolds card state dma then { state with gateWait := state.gateWait + 1 }
  else
    let state := { state with gateWait := 0 }
    if card.hasDma ∧ ¬dma.grants then state
    else
      let isEnded := card.hasDma && !dma.isServed
      let state := if card.hasDma ∧ dma.isServed then sbFetchSample state else state
      if state.blockRemaining = 0 ∨ isEnded then
        let reloads := state.transferMode = .auto ∧ ¬isEnded
        { state with
          isIrqPending := true
          irqs := state.irqs + 1
          gateMark := if card.hasDma then dma.countReads else state.gateMark
          blockRemaining := if reloads then state.blockLength else state.blockRemaining
          transferMode := if reloads then state.transferMode else .idle }
      else state

end Ntvdmex.Vdd.SoundBlaster
