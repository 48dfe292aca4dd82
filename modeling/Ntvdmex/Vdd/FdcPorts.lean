import Ntvdmex.Vdd.Fdc

/-!
# The ports of the floppy controller (`vdd_fdc.c`)

The command, result and execution phases as the ports drive them, with both resets and the
non-DMA transfers.  The medium and the 8237 are the host's: they are functions of a host
state of any type, and may fail at any time.  `none` is an index outside `Command`, `Result`
or `ExecBuffer`, or a loop that does not end within its budget.
-/

namespace Ntvdmex.Vdd.FdcPorts

open Ntvdmex.Vdd.Fdc

local instance neZero4 : NeZero 4 := ⟨by decide⟩
local instance neZero16 : NeZero 16 := ⟨by decide⟩

def fdcDor : Nat := 0x3F2
def fdcTdr : Nat := 0x3F3
def fdcMsr : Nat := 0x3F4
def fdcFifo : Nat := 0x3F5
def fdcDir : Nat := 0x3F7

def fdcCmdSpecify : Nat := 0x03
def fdcCmdSenseDriveStatus : Nat := 0x04
def fdcCmdRecalibrate : Nat := 0x07
def fdcCmdSenseInterrupt : Nat := 0x08
def fdcCmdReadId : Nat := 0x0A
def fdcCmdFormatTrack : Nat := 0x0D
def fdcCmdDumpreg : Nat := 0x0E
def fdcCmdSeek : Nat := 0x0F
def fdcCmdVersion : Nat := 0x10
def fdcCmdPerpendicular : Nat := 0x12
def fdcCmdConfigure : Nat := 0x13
def fdcCmdLock : Nat := 0x14

def fdcBufferSize : Nat := 16
def fdcIdBytes : Nat := 4
def fdcMsrRqm : UInt8 := 0x80
def fdcMsrDio : UInt8 := 0x40
def fdcMsrNdma : UInt8 := 0x20
def fdcMsrCb : UInt8 := 0x10
def fdcSt0InvalidCommand : Nat := 0x80
def fdcSt0ReadyChanged : Nat := 0xC0
def fdcSt0SeekEnd : Nat := 0x20

/-- The callbacks of the host: the medium (`MediaGeometry`, `MediaTransfer`), channel 2 of the
8237, and what the buffer of a DMA round holds at first. -/
structure FdcCallbacks (σ : Type) where
  geometry : σ → Fin 4 → Option FdcGeometry
  readSector : σ → FdcSector → σ × Option SectorBytes
  writeSector : σ → FdcSector → SectorBytes → σ × Bool
  isDmaPresent : Bool
  dmaRead : σ → Nat → σ × List UInt8 × Bool
  dmaWrite : σ → SectorBytes → σ × Nat × Bool
  stack : σ → SectorBytes

/-- The registers beside those the data commands use. -/
structure FdcChip where
  fdc : FdcState
  dor : UInt8
  tdr : UInt8
  dsr : UInt8
  ccr : UInt8
  isInReset : Bool
  commandWanted : Nat
  pollDrive : Nat
  isPollDisabled : Bool
  stepRateHeadUnload : UInt8
  headLoadNonDma : UInt8
  configureByte2 : UInt8
  configurePrecompTrack : UInt8
  perpendicular : UInt8
  isLocked : Bool
  execFill : UInt8
  execSectorsLeft : UInt8
  commands : Nat
  invalidCommands : Nat
  resets : Nat
  tracksFormatted : Nat

/-- The chip and the host behind it. -/
structure FdcBoard (σ : Type) where
  chip : FdcChip
  host : σ

/-- `VddFdcReset`. -/
def vddFdcReset (isDmaPresent : Bool) : FdcChip where
  fdc :=
    { isDmaGateOpen := true
      isDmaPresent
      isNonDma := false
      phase := .command
      command := fun _ => 0
      commandLength := 0
      result := []
      resultPosition := 0
      presentCylinder := fun _ => 0
      isIrqPending := false
      pendingSt0 := 0
      lastEot := 0
      execOpcode := 0
      execDrive := 0
      execHead := 0
      execCylinder := 0
      execHeadAddress := 0
      execSector := 0
      execSizeCode := 0
      execEot := 0
      execIsMultiTrack := false
      execPosition := 0
      execLength := 0
      execBuffer := fun _ => 0
      irqs := 0
      irqsOnBus := 0
      sectorsRead := 0
      sectorsWritten := 0 }
  dor := 0x0C
  tdr := 0
  dsr := 0
  ccr := 0
  isInReset := false
  commandWanted := 0
  pollDrive := 4
  isPollDisabled := false
  stepRateHeadUnload := 0
  headLoadNonDma := 0
  configureByte2 := 0
  configurePrecompTrack := 0
  perpendicular := 0
  isLocked := false
  execFill := 0
  execSectorsLeft := 0
  commands := 0
  invalidCommands := 0
  resets := 0
  tracksFormatted := 0

/-! ## Status, results and resets -/

def vddFdcMainStatus (chip : FdcChip) : UInt8 :=
  if chip.isInReset then 0
  else
    match chip.fdc.phase with
    | .execution =>
      fdcMsrRqm ||| fdcMsrNdma ||| fdcMsrCb |||
        if fdcIsReadCommand chip.fdc.execOpcode then fdcMsrDio else 0
    | .result => fdcMsrRqm ||| fdcMsrDio ||| fdcMsrCb
    | .command => if chip.fdc.commandLength ≠ 0 then fdcMsrRqm ||| fdcMsrCb else fdcMsrRqm

def fdcCommandLength (opcode : UInt8) : Nat :=
  match opcode.toNat % 32 with
  | 0x03 => 3
  | 0x04 => 2
  | 0x07 => 2
  | 0x08 => 1
  | 0x0A => 2
  | 0x0E => 1
  | 0x0F => 3
  | 0x10 => 1
  | 0x12 => 2
  | 0x13 => 4
  | 0x14 => 1
  | 0x02 => 9
  | 0x05 => 9
  | 0x06 => 9
  | 0x09 => 9
  | 0x0C => 9
  | 0x0D => 6
  | _ => 1

/-- The registers of the data path replaced. -/
def FdcChip.withFdc (chip : FdcChip) (fdc : FdcState) : FdcChip := { chip with fdc }

def FdcChip.respond (chip : FdcChip) (bytes : List Nat) : FdcChip :=
  chip.withFdc (fdcResult chip.fdc bytes)

def fdcInvalid (chip : FdcChip) : FdcChip :=
  { chip.respond [fdcSt0InvalidCommand] with invalidCommands := chip.invalidCommands + 1 }

def fdcSoftReset (chip : FdcChip) : FdcChip :=
  let cleared :=
    { chip.fdc with
      phase := .command
      commandLength := 0
      result := []
      resultPosition := 0
      isIrqPending := false
      pendingSt0 := 0 }
  { chip with
    resets := chip.resets + 1
    fdc := fdcRaiseIrq cleared
    commandWanted := 0
    configureByte2 := if chip.isLocked then chip.configureByte2 else 0
    configurePrecompTrack := if chip.isLocked then chip.configurePrecompTrack else 0
    perpendicular := if chip.isLocked then chip.perpendicular else 0
    pollDrive := if chip.isPollDisabled then 4 else 0 }

def fdcSenseInterrupt (chip : FdcChip) : FdcChip :=
  if chip.fdc.isIrqPending then
    chip.withFdc (fdcResult { chip.fdc with isIrqPending := false }
      [chip.fdc.pendingSt0, chip.fdc.presentCylinder (Fin.ofNat 4 chip.fdc.pendingSt0)])
  else if chip.pollDrive < 4 then
    { chip.respond [fdcSt0ReadyChanged ||| chip.pollDrive,
        chip.fdc.presentCylinder (Fin.ofNat 4 chip.pollDrive)] with
      pollDrive := chip.pollDrive + 1 }
  else fdcInvalid chip

def fdcSeekDone (chip : FdcChip) (drive : Fin 4) (head : Nat) : FdcChip :=
  chip.withFdc (fdcRaiseIrq
    { chip.fdc with
      pendingSt0 := fdcSt0SeekEnd ||| (head <<< 2) ||| drive.val
      isIrqPending := true })

/-! ## The data commands -/

section Commands

variable {σ : Type} (callbacks : FdcCallbacks σ)

def FdcCallbacks.medium (host : σ) : FdcMedium where
  geometry := callbacks.geometry host
  contents := fun _ _ => 0
  isWritable := false

variable (board : FdcBoard σ) (value : UInt8)

def FdcBoard.search : Option (Nat × Nat) :=
  fdcFindSector board.chip.fdc (callbacks.medium board.host)

def FdcBoard.withFdc (fdc : FdcState) : FdcBoard σ :=
  { board with chip := board.chip.withFdc fdc }

/-- `FdcDataDone`. -/
def FdcBoard.done (interruptCode status1 status2 : Nat) : FdcBoard σ :=
  board.withFdc (fdcDataDone board.chip.fdc interruptCode status1 status2)

def fdcDmaSector : FdcBoard σ ⊕ FdcBoard σ × Bool :=
  if fdcIsReadCommand board.chip.fdc.execOpcode then
    match callbacks.readSector board.host board.chip.fdc.sector with
    | (host, none) =>
      .inl ({ board with host }.done fdcSt0Abnormal fdcSt1NoData fdcSt2Clear)
    | (host, some buffer) =>
      let (host, moved, isTerminalCount) := callbacks.dmaWrite host buffer
      let pushed := { board with host }
      if moved < fdcSectorSize ∧ isTerminalCount = false then
        .inl (pushed.done fdcSt0Abnormal fdcSt1Overrun fdcSt2Clear)
      else
        .inr (pushed.withFdc
          { board.chip.fdc with sectorsRead := board.chip.fdc.sectorsRead + 1 }, isTerminalCount)
  else
    let (host, bytes, isTerminalCount) := callbacks.dmaRead board.host fdcSectorSize
    let pulled := { board with host }
    if bytes.length < fdcSectorSize ∧ isTerminalCount = false then
      .inl (pulled.done fdcSt0Abnormal fdcSt1Overrun fdcSt2Clear)
    else
      match callbacks.writeSector host board.chip.fdc.sector
          (fillBuffer (callbacks.stack board.host) bytes) with
      | (host, false) =>
        .inl ({ board with host }.done fdcSt0Abnormal fdcSt1NotWritable fdcSt2Clear)
      | (host, true) =>
        .inr ({ board with host }.withFdc
          { board.chip.fdc with sectorsWritten := board.chip.fdc.sectorsWritten + 1 },
          isTerminalCount)

/-- `FdcRunDma`. -/
def fdcRunDma : Nat → FdcBoard σ → Option (FdcBoard σ)
  | 0, _ => none
  | rounds + 1, board =>
    match board.search callbacks with
    | some (status1, status2) => some (board.done fdcSt0Abnormal status1 status2)
    | none =>
      if fdcDmaConnected board.chip.fdc = false then
        some (board.done fdcSt0Abnormal fdcSt1Overrun fdcSt2Clear)
      else
        match fdcDmaSector callbacks board with
        | .inl ended => some ended
        | .inr (moved, isTerminalCount) =>
          let (advanced, isEndOfCylinder) := fdcAdvance moved.chip.fdc
          if isTerminalCount then some ((moved.withFdc advanced).done fdcSt0Normal 0 fdcSt2Clear)
          else if isEndOfCylinder then
            some ((moved.withFdc advanced).done fdcSt0Abnormal fdcSt1EndOfCylinder fdcSt2Clear)
          else fdcRunDma rounds (moved.withFdc advanced)

def FdcState.opened (fdc : FdcState) (buffer : SectorBytes) : FdcState :=
  { fdc with
    execBuffer := buffer
    execPosition := 0
    execLength := fdcSectorSize
    phase := .execution }

def fdcOpenSector : FdcBoard σ :=
  match board.search callbacks with
  | some (status1, status2) => board.done fdcSt0Abnormal status1 status2
  | none =>
    if fdcIsReadCommand board.chip.fdc.execOpcode then
      match callbacks.readSector board.host board.chip.fdc.sector with
      | (host, none) =>
        { board with host }.done fdcSt0Abnormal fdcSt1NoData fdcSt2Clear
      | (host, some buffer) =>
        { board with host }.withFdc (FdcState.opened board.chip.fdc buffer)
    else board.withFdc (FdcState.opened board.chip.fdc board.chip.fdc.execBuffer)

/-- What `FdcSectorDone` does after the sector has been moved. -/
def fdcNextSector : FdcBoard σ :=
  let (advanced, isEndOfCylinder) := fdcAdvance board.chip.fdc
  if isEndOfCylinder then
    (board.withFdc advanced).done fdcSt0Abnormal fdcSt1EndOfCylinder fdcSt2Clear
  else fdcOpenSector callbacks (board.withFdc advanced)

def fdcSectorDone : FdcBoard σ :=
  if fdcIsReadCommand board.chip.fdc.execOpcode then
    fdcNextSector callbacks
      (board.withFdc { board.chip.fdc with sectorsRead := board.chip.fdc.sectorsRead + 1 })
  else
    match callbacks.writeSector board.host board.chip.fdc.sector board.chip.fdc.execBuffer with
    | (host, false) =>
      { board with host }.done fdcSt0Abnormal fdcSt1NotWritable fdcSt2Clear
    | (host, true) =>
      fdcNextSector callbacks
        ({ board with host }.withFdc
          { board.chip.fdc with sectorsWritten := board.chip.fdc.sectorsWritten + 1 })

def fdcFormatSector (identity : Fin 4 → UInt8) : FdcBoard σ × Bool :=
  let fdc := board.chip.fdc
  let placed :=
    board.withFdc
      { fdc with
        execCylinder := fdc.presentCylinder fdc.execDrive
        execHeadAddress := fdc.execHead
        execSector := (identity 2).toNat
        execSizeCode := (identity 3).toNat }
  match placed.search callbacks with
  | some (status1, status2) => (placed.done fdcSt0Abnormal status1 status2, false)
  | none =>
    let filled :=
      placed.withFdc { placed.chip.fdc with execBuffer := fun _ => board.chip.execFill }
    match callbacks.writeSector filled.host filled.chip.fdc.sector filled.chip.fdc.execBuffer with
    | (host, false) =>
      ({ filled with host }.done fdcSt0Abnormal fdcSt1NotWritable fdcSt2Clear, false)
    | (host, true) =>
      let named :=
        { filled.chip.fdc with
          execCylinder := (identity 0).toNat
          execHeadAddress := (identity 1).toNat }
      let left := board.chip.execSectorsLeft - 1
      let counted := { board.chip with fdc := named, execSectorsLeft := left }
      if left = 0 then
        (({ chip := { counted with tracksFormatted := board.chip.tracksFormatted + 1 }
            host } : FdcBoard σ).done fdcSt0Normal 0 fdcSt2Clear, false)
      else ({ chip := counted, host }, true)

/-- The loop of `FdcFormat` over the DMA channel. -/
def fdcFormatDma : Nat → FdcBoard σ → Option (FdcBoard σ)
  | 0, _ => none
  | rounds + 1, board =>
    if fdcDmaConnected board.chip.fdc = false then
      some (board.done fdcSt0Abnormal fdcSt1Overrun fdcSt2Clear)
    else
      let (host, bytes, _) := callbacks.dmaRead board.host fdcIdBytes
      let pulled := { board with host }
      if bytes.length < fdcIdBytes then
        some (pulled.done fdcSt0Abnormal fdcSt1Overrun fdcSt2Clear)
      else
        match fdcFormatSector callbacks pulled fun i => bytes.getD i.val 0 with
        | (ended, false) => some ended
        | (next, true) => fdcFormatDma rounds next

def FdcChip.formatStarted (chip : FdcChip) : FdcChip :=
  let fdc := chip.fdc
  { chip with
    fdc :=
      { fdc with
        execOpcode := fdcCmdFormatTrack
        execSizeCode := (fdc.command 2).toNat
        execCylinder := fdc.presentCylinder fdc.execDrive
        execHeadAddress := fdc.execHead
        execSector := fdcFirstSector
        lastEot := (fdc.command 3).toNat }
    execSectorsLeft := fdc.command 3
    execFill := fdc.command 5 }

def fdcFormat : Option (FdcBoard σ) :=
  let started := { board with chip := board.chip.formatStarted }
  if board.chip.fdc.command 3 = 0 then some (started.done fdcSt0Normal 0 fdcSt2Clear)
  else if board.chip.fdc.isNonDma then
    some (started.withFdc
      { started.chip.fdc with
        execPosition := 0
        execLength := fdcIdBytes
        phase := .execution })
  else fdcFormatDma callbacks 256 started

/-! ## The commands -/

/-- `FdcDataCommand`; a command visits each sector of at most two sides. -/
def fdcDataCommand (opcode : Nat) : Option (FdcBoard σ) :=
  let started := board.withFdc (fdcDataRegisters board.chip.fdc opcode)
  if opcode = fdcCmdReadDeletedData then
    match started.search callbacks with
    | some (status1, status2) => some (started.done fdcSt0Abnormal status1 status2)
    | none => some (started.done fdcSt0Abnormal fdcSt1NoData fdcSt2ControlMark)
  else if board.chip.fdc.isNonDma then some (fdcOpenSector callbacks started)
  else fdcRunDma callbacks 514 started

def FdcState.parameterDrive (fdc : FdcState) : Fin 4 := Fin.ofNat 4 (fdc.command 1).toNat
def FdcState.parameterHead (fdc : FdcState) : Nat := (fdc.command 1).toNat / 4 % 2

def fdcSenseDriveStatus (chip : FdcChip) : FdcChip :=
  let drive := FdcState.parameterDrive chip.fdc
  let status3 := 0x28 ||| (FdcState.parameterHead chip.fdc <<< 2) ||| drive.val
  chip.respond [if chip.fdc.presentCylinder drive = 0 then status3 ||| 0x10 else status3]

def fdcDumpreg (chip : FdcChip) : FdcChip :=
  chip.respond
    [chip.fdc.presentCylinder 0, chip.fdc.presentCylinder 1, chip.fdc.presentCylinder 2,
      chip.fdc.presentCylinder 3, chip.stepRateHeadUnload.toNat, chip.headLoadNonDma.toNat,
      chip.fdc.lastEot,
      ((if chip.isLocked then 0x80 else 0) ||| chip.perpendicular &&& 0x7F).toNat,
      chip.configureByte2.toNat, chip.configurePrecompTrack.toNat]

/-- RECALIBRATE and SEEK: no result phase, the interrupt is the report. -/
def fdcSeek (chip : FdcChip) (drive : Fin 4) (cylinder head : Nat) : FdcChip :=
  let moved :=
    chip.withFdc
      { chip.fdc with
        presentCylinder := Function.update chip.fdc.presentCylinder drive cylinder }
  fdcSeekDone (moved.respond []) drive head

def fdcReadId (chip : FdcChip) : FdcChip :=
  let drive := FdcState.parameterDrive chip.fdc
  let head := FdcState.parameterHead chip.fdc
  let status0 := head <<< 2 ||| drive.val
  chip.withFdc (fdcRaiseIrq
    { fdcDataResult chip.fdc status0 0 0 (chip.fdc.presentCylinder drive) head 1
        fdcSizeCode512 with
      pendingSt0 := status0
      isIrqPending := true })

def fdcExecuteControl (chip : FdcChip) (opcode : Nat) : FdcChip :=
  if opcode = fdcCmdVersion then chip.respond [0x90]
  else if opcode = fdcCmdSenseInterrupt then fdcSenseInterrupt chip
  else if opcode = fdcCmdSpecify then
    { chip with
      stepRateHeadUnload := chip.fdc.command 1
      headLoadNonDma := chip.fdc.command 2
      fdc := fdcResult { chip.fdc with isNonDma := chip.fdc.command 2 &&& 1 ≠ 0 } [] }
  else if opcode = fdcCmdConfigure then
    { chip.respond [] with
      configureByte2 := chip.fdc.command 2
      configurePrecompTrack := chip.fdc.command 3
      isPollDisabled := chip.fdc.command 2 &&& 0x10 ≠ 0 }
  else if opcode = fdcCmdPerpendicular then
    { chip.respond [] with perpendicular := chip.fdc.command 1 }
  else if opcode = fdcCmdLock then
    let isLocked := chip.fdc.command 0 &&& 0x80 ≠ 0
    { chip.respond [if isLocked then 0x10 else 0x00] with isLocked }
  else if opcode = fdcCmdSenseDriveStatus then fdcSenseDriveStatus chip
  else if opcode = fdcCmdDumpreg then fdcDumpreg chip
  else if opcode = fdcCmdRecalibrate then
    fdcSeek chip (FdcState.parameterDrive chip.fdc) 0 0
  else if opcode = fdcCmdSeek then
    fdcSeek chip (FdcState.parameterDrive chip.fdc) (chip.fdc.command 2).toNat
      (FdcState.parameterHead chip.fdc)
  else if opcode = fdcCmdReadId then fdcReadId chip
  else fdcInvalid chip

def fdcIsDataCommand (opcode : Nat) : Bool :=
  opcode = fdcCmdReadTrack ∨ opcode = fdcCmdWriteData ∨ opcode = fdcCmdReadData ∨
    opcode = fdcCmdWriteDeletedData ∨ opcode = fdcCmdReadDeletedData

def fdcExecute : Option (FdcBoard σ) :=
  let opcode := (board.chip.fdc.command 0).toNat % 32
  let counted := { board.chip with commands := board.chip.commands + 1 }
  let addressed :=
    { board with
      chip := counted.withFdc
        { counted.fdc with
          execDrive := FdcState.parameterDrive counted.fdc
          execHead := FdcState.parameterHead counted.fdc } }
  if fdcIsDataCommand opcode then fdcDataCommand callbacks addressed opcode
  else if opcode = fdcCmdFormatTrack then fdcFormat callbacks addressed
  else some { board with chip := fdcExecuteControl counted opcode }

/-- A byte the host supplies in the execution phase. -/
def fdcFifoWriteData : Option (FdcBoard σ) :=
  let fdc := board.chip.fdc
  if fdcIsReadCommand fdc.execOpcode then some board
  else if hposition : fdc.execPosition < 512 then
    let written :=
      board.withFdc
        { fdc with
          execBuffer := Function.update fdc.execBuffer ⟨fdc.execPosition, hposition⟩ value
          execPosition := fdc.execPosition + 1 }
    if fdc.execPosition + 1 < fdc.execLength then some written
    else if fdc.execOpcode = fdcCmdFormatTrack then
      match fdcFormatSector callbacks written fun i =>
          bufferByte written.chip.fdc.execBuffer i.val with
      | (ended, false) => some ended
      | (next, true) => some (next.withFdc { next.chip.fdc with execPosition := 0 })
    else some (fdcSectorDone callbacks written)
  else none

/-- How many bytes the command under way takes. -/
def FdcChip.wantedWith (chip : FdcChip) (value : UInt8) : Nat :=
  if chip.fdc.commandLength = 0 then fdcCommandLength value else chip.commandWanted

/-- The byte stored at the end of the command. -/
def FdcChip.store (chip : FdcChip) (value : UInt8) : FdcChip :=
  { chip with
    commandWanted := chip.wantedWith value
    fdc :=
      { chip.fdc with
        command :=
          if hposition : chip.fdc.commandLength < 16 then
            Function.update chip.fdc.command ⟨chip.fdc.commandLength, hposition⟩ value
          else chip.fdc.command
        commandLength := chip.fdc.commandLength + 1 } }

def fdcFifoWriteCommand : Option (FdcBoard σ) :=
  let taken := { board with chip := board.chip.store value }
  if taken.chip.commandWanted ≤ taken.chip.fdc.commandLength then fdcExecute callbacks taken
  else some taken

def fdcFifoWrite : Option (FdcBoard σ) :=
  match board.chip.fdc.phase with
  | .result => some board
  | .execution => fdcFifoWriteData callbacks board value
  | .command => fdcFifoWriteCommand callbacks board value

def fdcFifoRead : Option (FdcBoard σ × Nat) :=
  let fdc := board.chip.fdc
  match fdc.phase with
  | .execution =>
    if fdcIsReadCommand fdc.execOpcode = false then some (board, 0)
    else if hposition : fdc.execPosition < 512 then
      let value := (fdc.execBuffer ⟨fdc.execPosition, hposition⟩).toNat
      let read := board.withFdc { fdc with execPosition := fdc.execPosition + 1 }
      if fdc.execLength ≤ fdc.execPosition + 1 then some (fdcSectorDone callbacks read, value)
      else some (read, value)
    else none
  | .command =>
    some (board, fdc.result.getLast?.getD fdcSt0InvalidCommand)
  | .result =>
    match fdc.result[fdc.resultPosition]? with
    | none => none
    | some value =>
      if fdc.result.length ≤ fdc.resultPosition + 1 then
        some (board.withFdc { fdc with phase := .command, resultPosition := 0 }, value)
      else some (board.withFdc { fdc with resultPosition := fdc.resultPosition + 1 }, value)

def fdcWriteDor (chip : FdcChip) (value : UInt8) : FdcChip :=
  let driven :=
    { chip with
      dor := value
      fdc := { chip.fdc with isDmaGateOpen := value &&& 0x08 ≠ 0 } }
  if value &&& 0x04 = 0 then { driven with isInReset := true }
  else if chip.isInReset ∨ chip.dor &&& 0x04 = 0 then
    fdcSoftReset { driven with isInReset := false }
  else driven

def fdcWriteDsr (chip : FdcChip) (value : UInt8) : FdcChip :=
  if value &&& 0x80 ≠ 0 then
    fdcSoftReset { chip with dsr := value &&& 0x7F, isInReset := false }
  else { chip with dsr := value }

def vddFdcPortOut (port : Nat) (value : UInt8) : Option (FdcBoard σ) :=
  if port = fdcDor then some { board with chip := fdcWriteDor board.chip value }
  else if port = fdcTdr then some { board with chip := { board.chip with tdr := value } }
  else if port = fdcMsr then some { board with chip := fdcWriteDsr board.chip value }
  else if port = fdcFifo then fdcFifoWrite callbacks board value
  else if port = fdcDir then
    some { board with chip := { board.chip with ccr := value &&& 0x03 } }
  else some board

def vddFdcPortIn (port : Nat) : Option (FdcBoard σ × Nat) :=
  if port = fdcDor then some (board, board.chip.dor.toNat)
  else if port = fdcTdr then some (board, board.chip.tdr.toNat)
  else if port = fdcMsr then some (board, (vddFdcMainStatus board.chip).toNat)
  else if port = fdcFifo then fdcFifoRead callbacks board
  else if port = fdcDir then some (board, 0)
  else some (board, 0xFF)

end Commands

end Ntvdmex.Vdd.FdcPorts
