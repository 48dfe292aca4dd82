import Ntvdmex.Vdd.Dma

/-!
# The data commands of the floppy controller (`vdd_fdc.c`)

The chip, the 8237 and the guest memory it moves bytes through, and the medium the host
lends.  A byte register is a number; the loop over the sectors of a command takes its
round budget as a number, and what its stack buffer holds at the start of each round.
-/

namespace Ntvdmex.Vdd.Fdc

open Ntvdmex.Vdd.Dma

local instance neZero8 : NeZero 8 := ⟨by decide⟩

def fdcCmdReadTrack : Nat := 0x02
def fdcCmdWriteData : Nat := 0x05
def fdcCmdReadData : Nat := 0x06
def fdcCmdWriteDeletedData : Nat := 0x09
def fdcCmdReadDeletedData : Nat := 0x0C

def fdcSt0Normal : Nat := 0x00
def fdcSt0Abnormal : Nat := 0x40
def fdcSt1EndOfCylinder : Nat := 0x80
def fdcSt1Overrun : Nat := 0x10
def fdcSt1NoData : Nat := 0x04
def fdcSt1NotWritable : Nat := 0x02
def fdcSt1MissingAddressMark : Nat := 0x01
def fdcSt2Clear : Nat := 0x00
def fdcSt2WrongCylinder : Nat := 0x10
def fdcSt2ControlMark : Nat := 0x40

def fdcFirstSector : Nat := 1
def fdcSizeCode512 : Nat := 2
def fdcSectorSize : Nat := 512
def fdcDmaChannel : Fin 8 := 2

inductive FdcPhase where
  | command
  | result
  | execution
  deriving DecidableEq, Repr

abbrev SectorBytes := Fin 512 → UInt8

structure FdcGeometry where
  cylinders : Nat
  heads : Nat
  sectorsPerTrack : Nat
  deriving DecidableEq, Repr

/-- A sector of the medium. -/
structure FdcSector where
  drive : Fin 4
  cylinder : Nat
  head : Nat
  sector : Nat
  deriving DecidableEq, Repr

/-- The medium behind the drives: a geometry where there is one, and its sectors. -/
structure FdcMedium where
  geometry : Fin 4 → Option FdcGeometry
  contents : FdcSector → SectorBytes
  isWritable : Bool

structure FdcState where
  isDmaGateOpen : Bool
  isDmaPresent : Bool
  isNonDma : Bool
  phase : FdcPhase
  command : Fin 16 → UInt8
  commandLength : Nat
  result : List Nat
  resultPosition : Nat
  presentCylinder : Fin 4 → Nat
  isIrqPending : Bool
  pendingSt0 : Nat
  lastEot : Nat
  execOpcode : Nat
  execDrive : Fin 4
  execHead : Nat
  execCylinder : Nat
  execHeadAddress : Nat
  execSector : Nat
  execSizeCode : Nat
  execEot : Nat
  execIsMultiTrack : Bool
  execPosition : Nat
  execLength : Nat
  execBuffer : SectorBytes
  irqs : Nat
  irqsOnBus : Nat
  sectorsRead : Nat
  sectorsWritten : Nat

/-- The chip with what it reaches. -/
structure FdcMachine where
  fdc : FdcState
  dma : DmaState
  memory : LinearMemory
  medium : FdcMedium

variable (stack : SectorBytes) (state : FdcState) (machine : FdcMachine) (interruptCode : Nat)

def fdcRaiseIrq : FdcState :=
  { state with
    irqs := state.irqs + 1
    irqsOnBus := if state.isDmaGateOpen then state.irqsOnBus + 1 else state.irqsOnBus }

def fdcResult (bytes : List Nat) : FdcState :=
  { state with
    result := bytes.take 16
    resultPosition := 0
    phase := if bytes = [] then .command else .result
    commandLength := 0 }

def fdcDataResult (status0 status1 status2 cylinder headAddress sector sizeCode : Nat) : FdcState :=
  fdcResult state [status0, status1, status2, cylinder, headAddress, sector, sizeCode]

def fdcStatus0 : Nat :=
  interruptCode ||| (state.execHead <<< 2) ||| state.execDrive.val

def fdcDataDone (status1 status2 : Nat) : FdcState :=
  let status0 := fdcStatus0 state interruptCode
  fdcRaiseIrq
    { fdcDataResult state status0 status1 status2 state.execCylinder state.execHeadAddress
        state.execSector state.execSizeCode with
      pendingSt0 := status0
      isIrqPending := true }

/-! ## The sector under the head -/

def fdcIsReadCommand (opcode : Nat) : Bool := opcode = fdcCmdReadData || opcode = fdcCmdReadTrack

/-- The next C, H, R, and whether the command has run off its cylinder. -/
def fdcAdvance : FdcState × Bool :=
  if state.execSector < state.execEot then
    ({ state with execSector := state.execSector + 1 }, false)
  else if state.execIsMultiTrack = true ∧ state.execHeadAddress &&& 1 = 0 then
    ({ state with
        execSector := fdcFirstSector
        execHeadAddress := state.execHeadAddress ^^^ 1
        execHead := state.execHead ^^^ 1 }, false)
  else
    ({ state with
        execSector := fdcFirstSector
        execHeadAddress :=
          if state.execIsMultiTrack then state.execHeadAddress ^^^ 1 else state.execHeadAddress
        execCylinder := (state.execCylinder + 1) % 256 }, true)

/-- ST1 and ST2 of a failed search; `none` when the sector is under the head. -/
def fdcFindSector (medium : FdcMedium) : Option (Nat × Nat) :=
  let track := state.presentCylinder state.execDrive
  match medium.geometry state.execDrive with
  | none => some (fdcSt1MissingAddressMark, fdcSt2Clear)
  | some geometry =>
    if track ≥ geometry.cylinders ∨ state.execHead ≥ geometry.heads then
      some (fdcSt1MissingAddressMark, fdcSt2Clear)
    else if state.execCylinder ≠ track then some (fdcSt1NoData, fdcSt2WrongCylinder)
    else if state.execHeadAddress ≠ state.execHead ∨ state.execSizeCode ≠ fdcSizeCode512 ∨
        state.execSector < fdcFirstSector ∨ state.execSector > geometry.sectorsPerTrack then
      some (fdcSt1NoData, fdcSt2Clear)
    else none

def FdcState.sector : FdcSector where
  drive := state.execDrive
  cylinder := state.presentCylinder state.execDrive
  head := state.execHead
  sector := state.execSector

/-- `FdcSectorIo`, reading: the transfer of a sector that is there succeeds. -/
def fdcSectorRead (medium : FdcMedium) : SectorBytes :=
  medium.contents state.sector

/-- `FdcSectorIo`, writing: it fails on a medium that is not writable. -/
def fdcSectorWrite (medium : FdcMedium) (buffer : SectorBytes) : Option FdcMedium :=
  if medium.isWritable then
    some { medium with contents := Function.update medium.contents state.sector buffer }
  else none

def fdcDmaConnected : Bool := state.isDmaPresent && state.isDmaGateOpen

/-! ## The transfer over channel 2 -/

def FdcMachine.done (status1 status2 : Nat) : FdcMachine :=
  { machine with fdc := fdcDataDone machine.fdc interruptCode status1 status2 }

/-- The buffer after `destination` has been put at its start. -/
def fillBuffer (destination : List UInt8) : SectorBytes :=
  fun i => destination.getD i.val (stack i)

/-- One sector of a write: the bytes come from the 8237.  The flag says whether terminal count
was reached; `none` with the machine as the command ended. -/
def fdcWriteSector : FdcMachine ⊕ FdcMachine × Bool :=
  let progress := vddDmaRead machine.dma machine.memory fdcDmaChannel fdcSectorSize
  let pulled := { machine with dma := progress.state, memory := progress.memory }
  if progress.transferred < fdcSectorSize ∧ progress.isTerminalCount = false then
    .inl (pulled.done fdcSt0Abnormal fdcSt1Overrun fdcSt2Clear)
  else
    match fdcSectorWrite machine.fdc machine.medium (fillBuffer stack progress.destination) with
    | none => .inl (pulled.done fdcSt0Abnormal fdcSt1NotWritable fdcSt2Clear)
    | some medium =>
      .inr ({ pulled with
          medium
          fdc := { machine.fdc with sectorsWritten := machine.fdc.sectorsWritten + 1 } },
        progress.isTerminalCount)

def bufferByte (buffer : SectorBytes) (i : Nat) : UInt8 :=
  if h : i < 512 then buffer ⟨i, h⟩ else 0

def fdcReadSector : FdcMachine ⊕ FdcMachine × Bool :=
  let buffer := fdcSectorRead machine.fdc machine.medium
  let progress :=
    vddDmaWrite machine.dma machine.memory fdcDmaChannel (bufferByte buffer) fdcSectorSize
  let pushed := { machine with dma := progress.state, memory := progress.memory }
  if progress.transferred < fdcSectorSize ∧ progress.isTerminalCount = false then
    .inl (pushed.done fdcSt0Abnormal fdcSt1Overrun fdcSt2Clear)
  else
    .inr ({ pushed with
        fdc := { machine.fdc with sectorsRead := machine.fdc.sectorsRead + 1 } },
      progress.isTerminalCount)

/-- One round of `FdcRunDma`: `inl` when the command has ended. -/
def fdcRunDmaRound : FdcMachine ⊕ FdcMachine :=
  match fdcFindSector machine.fdc machine.medium with
  | some (status1, status2) => .inl (machine.done fdcSt0Abnormal status1 status2)
  | none =>
    if fdcDmaConnected machine.fdc = false then
      .inl (machine.done fdcSt0Abnormal fdcSt1Overrun fdcSt2Clear)
    else
      let moved :=
        if fdcIsReadCommand machine.fdc.execOpcode then fdcReadSector machine
        else fdcWriteSector stack machine
      match moved with
      | .inl ended => .inl ended
      | .inr (after, isTerminalCount) =>
        let advanced := fdcAdvance after.fdc
        let next := { after with fdc := advanced.1 }
        if isTerminalCount then .inl (next.done fdcSt0Normal 0 fdcSt2Clear)
        else if advanced.2 then .inl (next.done fdcSt0Abnormal fdcSt1EndOfCylinder fdcSt2Clear)
        else .inr next

/-- `FdcRunDma`; `stack` is what the buffer holds at the start of each round. -/
def fdcRunDma (stack : Nat → SectorBytes) : Nat → FdcMachine → Option FdcMachine
  | 0, _ => none
  | rounds + 1, machine =>
    match fdcRunDmaRound (stack 0) machine with
    | .inl ended => some ended
    | .inr next => fdcRunDma (fun round => stack (round + 1)) rounds next

def fdcOpenSector : FdcMachine :=
  match fdcFindSector machine.fdc machine.medium with
  | some (status1, status2) => machine.done fdcSt0Abnormal status1 status2
  | none =>
    let buffer :=
      if fdcIsReadCommand machine.fdc.execOpcode then fdcSectorRead machine.fdc machine.medium
      else machine.fdc.execBuffer
    { machine with
      fdc := { machine.fdc with
        execBuffer := buffer
        execPosition := 0
        execLength := fdcSectorSize
        phase := .execution } }

def fdcDataRegisters (opcode : Nat) : FdcState :=
  { state with
    execOpcode := if opcode = fdcCmdWriteDeletedData then fdcCmdWriteData else opcode
    execCylinder := (state.command 2).toNat
    execHeadAddress := (state.command 3).toNat
    execSector := if opcode = fdcCmdReadTrack then fdcFirstSector else (state.command 4).toNat
    execSizeCode := (state.command 5).toNat
    execEot := (state.command 6).toNat
    execIsMultiTrack :=
      if opcode = fdcCmdReadTrack then false else (state.command 0 &&& 0x80) ≠ 0
    lastEot := (state.command 6).toNat }

def fdcDataCommand (stack : Nat → SectorBytes) (rounds : Nat) (machine : FdcMachine)
    (opcode : Nat) : Option FdcMachine :=
  let started := { machine with fdc := fdcDataRegisters machine.fdc opcode }
  if opcode = fdcCmdReadDeletedData then
    match fdcFindSector started.fdc started.medium with
    | some (status1, status2) => some (started.done fdcSt0Abnormal status1 status2)
    | none => some (started.done fdcSt0Abnormal fdcSt1NoData fdcSt2ControlMark)
  else if machine.fdc.isNonDma then some (fdcOpenSector started)
  else fdcRunDma stack rounds started

/-- `FdcExecute` on a data command. -/
def fdcExecuteData (stack : Nat → SectorBytes) (rounds : Nat) (machine : FdcMachine) :
    Option FdcMachine :=
  let opcode := (machine.fdc.command 0).toNat % 32
  let addressed :=
    { machine.fdc with
      execDrive := ⟨(machine.fdc.command 1).toNat % 4, Nat.mod_lt _ (by decide)⟩
      execHead := (machine.fdc.command 1).toNat / 4 % 2 }
  fdcDataCommand stack rounds { machine with fdc := addressed } opcode

end Ntvdmex.Vdd.Fdc
