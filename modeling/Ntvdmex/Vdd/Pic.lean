import Ntvdmex.Foundation.PriorityLines

/-!
# The 8259A pair (`vdd_pic.c`)

The three registers of a chip are bytes, a line is a number.  The flags are the
bytes the source keeps at 0 or 1.
-/

namespace Ntvdmex.Vdd.Pic

open Foundation

def picLines : Nat := 16
def picLinesPerChip : Nat := 8
def picCascadeLine : Nat := 2
def picFixedLowest : Nat := 7
def picMasterVectorBase : BitVec 8 := 0x08
def picSlaveVectorBase : BitVec 8 := 0x70

inductive IcwStep where
  | running
  | expectIcw2
  | expectIcw3
  | expectIcw4
  deriving DecidableEq, Repr

structure PicChip where
  imr : BitVec 8
  irr : BitVec 8
  isr : BitVec 8
  vectorBase : BitVec 8
  icwStep : IcwStep
  isIcw4Needed : Bool
  isIsrSelected : Bool
  isAutoEoi : Bool
  isPollArmed : Bool
  lowestPriority : Nat
  isRotateInAutoEoi : Bool
  isSpecialMaskMode : Bool
  isSpecialFullyNested : Bool
  deriving DecidableEq, Repr

structure PicState where
  master : PicChip
  slave : PicChip
  deriving DecidableEq, Repr

/-- Which of the two chips. -/
inductive ChipName where
  | master
  | slave
  deriving DecidableEq, Repr

variable (state : PicState) (irq : Nat)

def PicState.chip : ChipName → PicChip
  | .master => state.master
  | .slave => state.slave

def PicState.setChip (name : ChipName) (chip : PicChip) : PicState :=
  match name with
  | .master => { state with master := chip }
  | .slave => { state with slave := chip }

def picRank (chip : PicChip) (line : Nat) : Nat :=
  (((line : Int) - chip.lowestPriority - 1) % 8).toNat

/-- The highest-priority line of `mask` in the chip's rotation. -/
def picTopLine (chip : PicChip) (mask : BitVec 8) : Option Nat :=
  ((List.range picLinesPerChip).map fun rank => (chip.lowestPriority + 1 + rank) % 8).find?
    fun line => mask.getLsbD line

def picBlockers (chip : PicChip) (line : Nat) (isMaster : Bool) : BitVec 8 :=
  let effective := if chip.isSpecialMaskMode then chip.isr &&& ~~~ chip.imr else chip.isr
  (List.range picLinesPerChip).foldl (fun blockers otherLine =>
    if effective.getLsbD otherLine = false then blockers
    else if isMaster ∧ chip.isSpecialFullyNested ∧ line = picCascadeLine ∧
        otherLine = picCascadeLine then blockers
    else if picRank chip otherLine ≤ picRank chip line then blockers ||| lineBit otherLine
    else blockers) 0

def picIsLineOpen (chip : PicChip) (line : Nat) (isMaster : Bool) : Bool :=
  if chip.imr.getLsbD line then false else picBlockers chip line isMaster = 0

def picChipReset (chip : PicChip) (base : BitVec 8) : PicChip :=
  { chip with
    imr := 0xFF
    irr := 0
    isr := 0
    vectorBase := base
    icwStep := .running
    isIcw4Needed := false
    isIsrSelected := false
    isAutoEoi := false
    isPollArmed := false
    lowestPriority := picFixedLowest
    isRotateInAutoEoi := false
    isSpecialMaskMode := false
    isSpecialFullyNested := false }

def PicChip.isrSet (chip : PicChip) (line : Nat) : PicChip :=
  { chip with isr := chip.isr ||| lineBit line }

def PicChip.isrClear (chip : PicChip) (line : Nat) : PicChip :=
  { chip with isr := chip.isr &&& ~~~ lineBit line }

def PicChip.irrClear (chip : PicChip) (line : Nat) : PicChip :=
  { chip with irr := chip.irr &&& ~~~ lineBit line }

def picInterruptAcknowledge (chip : PicChip) (line : Nat) : PicChip :=
  if chip.isAutoEoi = false then chip.isrSet line
  else if chip.isRotateInAutoEoi then { chip with lowestPriority := line }
  else chip

/-! ## The port side -/

def picInitialize (chip : PicChip) (value : BitVec 8) : PicChip :=
  let isIcw4Needed := value.getLsbD 0
  { chip with
    icwStep := .expectIcw2
    isIcw4Needed
    isr := 0
    irr := 0
    imr := 0
    isIsrSelected := false
    lowestPriority := picFixedLowest
    isSpecialMaskMode := false
    isRotateInAutoEoi := false
    isAutoEoi := if isIcw4Needed then chip.isAutoEoi else false
    isSpecialFullyNested := if isIcw4Needed then chip.isSpecialFullyNested else false }

def picOcw3 (chip : PicChip) (value : BitVec 8) : PicChip :=
  { chip with
    isIsrSelected := if value.getLsbD 1 then value.getLsbD 0 else chip.isIsrSelected
    isSpecialMaskMode := if value.getLsbD 6 then value.getLsbD 5 else chip.isSpecialMaskMode
    isPollArmed := if value.getLsbD 2 then true else chip.isPollArmed }

def ocw2Line (value : BitVec 8) : Nat := value.toNat % 8

def ocw2Command (value : BitVec 8) : BitVec 8 := value &&& 0xE0

def picOcw2 (chip : PicChip) (value : BitVec 8) : PicChip :=
  if ocw2Command value = 0x20 then
    match picTopLine chip chip.isr with
    | some topLine => chip.isrClear topLine
    | none => chip
  else if ocw2Command value = 0x60 then chip.isrClear (ocw2Line value)
  else if ocw2Command value = 0xA0 then
    match picTopLine chip chip.isr with
    | some topLine => { chip.isrClear topLine with lowestPriority := topLine }
    | none => chip
  else if ocw2Command value = 0xE0 then
    { chip.isrClear (ocw2Line value) with lowestPriority := ocw2Line value }
  else if ocw2Command value = 0xC0 then { chip with lowestPriority := ocw2Line value }
  else if ocw2Command value = 0x80 then { chip with isRotateInAutoEoi := true }
  else if ocw2Command value = 0x00 then { chip with isRotateInAutoEoi := false }
  else chip

def picCommandWrite (chip : PicChip) (value : BitVec 8) : PicChip :=
  if value.getLsbD 4 then picInitialize chip value
  else if value.getLsbD 3 then picOcw3 chip value
  else picOcw2 chip value

def picDataWrite (chip : PicChip) (value : BitVec 8) : PicChip :=
  match chip.icwStep with
  | .expectIcw2 => { chip with vectorBase := value, icwStep := .expectIcw3 }
  | .expectIcw3 =>
    { chip with icwStep := if chip.isIcw4Needed then .expectIcw4 else .running }
  | .expectIcw4 =>
    { chip with
      isAutoEoi := value.getLsbD 1
      isSpecialFullyNested := value.getLsbD 4
      icwStep := .running }
  | .running => { chip with imr := value }

def picPollLine (chip : PicChip) (isMaster : Bool) : Option Nat :=
  (picTopLine chip (chip.irr &&& ~~~ chip.imr)).filter fun topLine =>
    picIsLineOpen chip topLine isMaster

def picPollRead (chip : PicChip) (isMaster : Bool) : BitVec 8 × PicChip :=
  match picPollLine chip isMaster with
  | none => (0, chip)
  | some topLine =>
    (0x80 ||| BitVec.ofNat 8 topLine,
      picInterruptAcknowledge (chip.irrClear topLine) topLine)

def picDataRead (chip : PicChip) : BitVec 8 := chip.imr

def picCommandRead (chip : PicChip) (isMaster : Bool) : BitVec 8 × PicChip :=
  if chip.isPollArmed then picPollRead { chip with isPollArmed := false } isMaster
  else (if chip.isIsrSelected then chip.isr else chip.irr, chip)

/-! ## The host side -/

def vddPicRaise : PicState :=
  if irq < picLinesPerChip then
    { state with master := { state.master with irr := state.master.irr ||| lineBit irq } }
  else if irq < picLines then
    { state with slave :=
        { state.slave with irr := state.slave.irr ||| lineBit (irq - picLinesPerChip) } }
  else state

def chipOf : ChipName := if irq < picLinesPerChip then .master else .slave

def vddPicCanDeliver : Bool :=
  if irq ≥ picLines then false
  else if picIsLineOpen (state.chip (chipOf irq)) (irq % 8) (irq < picLinesPerChip) = false then
    false
  else if irq ≥ picLinesPerChip ∧ picIsLineOpen state.master picCascadeLine true = false then
    false
  else true

def vddPicAcknowledge : PicState :=
  if irq ≥ picLines then state
  else
    let chip := picInterruptAcknowledge ((state.chip (chipOf irq)).irrClear (irq % 8)) (irq % 8)
    let acknowledged := state.setChip (chipOf irq) chip
    if irq ≥ picLinesPerChip then
      { acknowledged with
        master := picInterruptAcknowledge acknowledged.master picCascadeLine }
    else acknowledged

def vddPicEndOfInterrupt : PicState :=
  if irq ≥ picLines then state
  else if irq < picLinesPerChip then { state with master := state.master.isrClear irq }
  else
    let slave := state.slave.isrClear (irq - picLinesPerChip)
    { state with
      slave
      master := if slave.isr = 0 then state.master.isrClear picCascadeLine else state.master }

def vddPicAcknowledgeAutoEoi : PicState :=
  if irq ≥ picLinesPerChip then vddPicEndOfInterrupt (vddPicAcknowledge state irq) irq
  else
    let master := state.master.irrClear irq
    { state with
      master :=
        if master.isAutoEoi ∧ master.isRotateInAutoEoi then { master with lowestPriority := irq }
        else master }

def vddPicReset : PicState where
  master := { picChipReset state.master picMasterVectorBase with imr := 0xFC }
  slave := { picChipReset state.slave picSlaveVectorBase with imr := 0xFF }

end Ntvdmex.Vdd.Pic
