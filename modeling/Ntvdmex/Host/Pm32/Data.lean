import Ntvdmex.Host.Pm32.Decode

/-!
# The data instructions of the 32-bit interpreter

The blocks of `Pm32Step` that compute and move, in its order.  `offset` is the position after
the opcode byte.
-/

namespace Ntvdmex.Host.Pm32

open Foundation Interp

variable (host : Pm32Host) (instruction : Pm32Instruction) (opcode : Byte) (offset : Nat)

/-! ## The arithmetic and logic group -/

/-- `AL, imm8` and `eAX, imm`. -/
def pm32AluAccumulator (operation : Nat) (width : Width) : Pm32Action Unit := do
  let second ← pm32CodeImmediate host instruction offset width
  let cpu ← getCpu
  let computed :=
    pm32Alu cpu.flags operation (pm32GetRegister cpu x86RegAx width) second width
  onlyIf (operation ≠ x86AluCmp) (setRegister x86RegAx width computed.value)
  setFlags computed.flags
  advance (offset + width.bytes)

/-- `r/m, r` (forms 0 and 1) and `r, r/m` (forms 2 and 3). -/
def pm32AluRm (operation form : Nat) (width : Width) : Pm32Action Unit := do
  let modrm ← pm32Decode host instruction offset
  pm32ProbeRm host modrm width (form < pm32FormFromRegisterEnd ∧ operation ≠ x86AluCmp)
  let rmValue ← pm32ReadRm host modrm width
  let cpu ← getCpu
  let registerValue := pm32GetRegister cpu modrm.register width
  let computed :=
    pm32Alu cpu.flags operation
      (if form < pm32FormFromRegisterEnd then rmValue else registerValue)
      (if form < pm32FormFromRegisterEnd then registerValue else rmValue) width
  onlyIf (operation ≠ x86AluCmp)
    (if form < pm32FormFromRegisterEnd then pm32WriteRm modrm width computed.value
    else setRegister modrm.register width computed.value)
  setFlags computed.flags
  advance (offset + modrm.length)

def pm32AluForm : Pm32Action Unit :=
  let operation := opcode.toNat / 8
  let form := opcodeLow opcode
  if form = pm32FormAccumulatorByte ∨ form = pm32FormAccumulator then
    pm32AluAccumulator host instruction offset operation (instruction.widthOf opcode)
  else pm32AluRm host instruction offset operation form (instruction.widthOf opcode)

/-- `INC` and `DEC` of a register. -/
def pm32IncDec : Pm32Action Unit := do
  let cpu ← getCpu
  let width := instruction.operandSize
  let stepped := pm32StepByOne (x86OpDecFirst ≤ opcode) cpu.flags
    (pm32GetRegister cpu (opcodeLow opcode) width) width
  setFlags stepped.flags
  setRegister (opcodeLow opcode) width stepped.value
  advance offset

/-- `PUSH r`. -/
def pm32PushRegister : Pm32Action Unit := do
  let cpu ← getCpu
  pm32CanPush host cpu instruction.operandSize
  pm32Push cpu instruction.operandSize
    (pm32GetRegister cpu (opcodeLow opcode) instruction.operandSize)
  advance offset

/-- `POP r`. -/
def pm32PopRegister : Pm32Action Unit := do
  let cpu ← getCpu
  probe host.canAccess (pm32StackTop cpu) instruction.operandSize.bytes false
  let value ← pm32Pop host cpu instruction.operandSize
  setRegister (opcodeLow opcode) instruction.operandSize value
  advance offset

/-- The pushes of `PUSHAD`, from a register and a stack pointer on. -/
def pm32PushadLoop (original : Pm32Cpu) : List Nat → Dword → Pm32Action Unit
  | [], _ => return ()
  | index :: indices, stackPointer => do
    pm32PushFrom (original.segmentBases x86SregSs) stackPointer .dword (original.registers index)
    pm32PushadLoop original indices (stackPointer - 4)

/-- `PUSHAD`. -/
def pm32Pushad : Pm32Action Unit := do
  let cpu ← getCpu
  declineIf instruction.isOperand16
  probe host.canAccess (pm32StackTop cpu - BitVec.ofNat 32 pm32PushadBytes) pm32PushadBytes true
  pm32PushadLoop cpu (List.range x86GeneralRegisters) (cpu.registers x86RegSp)
  advance offset

/-- The pops of `POPAD`, from a register and a stack pointer on, into `saved`. -/
def pm32PopadLoop (original : Pm32Cpu) :
    List Nat → Dword → (Nat → Dword) → Pm32Action (Nat → Dword)
  | [], _, saved => return saved
  | index :: indices, stackPointer, saved => do
    let value ← pm32PopFrom host (original.segmentBases x86SregSs) stackPointer .dword
    pm32PopadLoop original indices (stackPointer + 4) (Function.update saved index value)

/-- `POPAD`: the saved stack pointer is discarded. -/
def pm32Popad : Pm32Action Unit := do
  let cpu ← getCpu
  declineIf instruction.isOperand16
  probe host.canAccess (pm32StackTop cpu) pm32PushadBytes false
  let saved ← pm32PopadLoop host cpu (List.range x86GeneralRegisters).reverse
    (cpu.registers x86RegSp) fun _ => 0
  forEach (fun index => onlyIf (index ≠ x86RegSp) (assignRegister index (saved index)))
    (List.range x86GeneralRegisters)
  advance offset

/-- The immediate of `PUSH`: full width, or a sign-extended byte. -/
def pm32PushedImmediate : Pm32Action Dword :=
  if opcode = x86OpPushImm then pm32CodeImmediate host instruction offset instruction.operandSize
  else pm32CodeSigned host instruction offset

/-- `PUSH imm`. -/
def pm32PushImmediate : Pm32Action Unit := do
  let value ← pm32PushedImmediate host instruction opcode offset
  let cpu ← getCpu
  pm32CanPush host cpu instruction.operandSize
  pm32Push cpu instruction.operandSize value
  advance (offset + (if opcode = x86OpPushImm then instruction.operandSize.bytes else 1))

/-- The flags of an `IMUL` into a register. -/
def pm32ImulFlags (flags : Dword) (product : Int) (result : Dword) (width : Width) : Dword :=
  flags &&& ~~~(eflagsCf ||| eflagsOf) |||
    flagIf (product ≠ signedValue width result) (eflagsCf ||| eflagsOf)

variable (cpu : Pm32Cpu) (modrm : Pm32Modrm) (position : Nat) (string : Pm32String)
  (indices : Pm32Indices) (index : Nat)

/-- The register and the flags of an `IMUL`. -/
def pm32StoreProduct (width : Width) (product : Int) : Pm32Action Unit := do
  let cpu ← getCpu
  let result := BitVec.ofInt 32 product &&& widthMask width
  setRegister modrm.register width result
  setFlags (pm32ImulFlags cpu.flags product result width)

/-- The signed immediate of `IMUL`. -/
def pm32ImulImmediate (width : Width) : Pm32Action Int :=
  if opcode = x86OpImulImm8 then do
    let immediate ← pm32CodeByte host instruction position
    return immediate.toInt
  else do
    let immediate ← pm32CodeImmediate host instruction position width
    return signedValue width immediate

/-- `IMUL r, r/m, imm`. -/
def pm32Imul : Pm32Action Unit := do
  let width := instruction.operandSize
  let modrm ← pm32Decode host instruction offset
  pm32ProbeRm host modrm width false
  let first ← pm32ReadRm host modrm width
  let second ← pm32ImulImmediate host instruction opcode (offset + modrm.length) width
  pm32StoreProduct modrm width (signedValue width first * second)
  advance (offset + modrm.length + (if opcode = x86OpImulImm8 then 1 else width.bytes))

def pm32Group1Immediate (width : Width) : Pm32Action Dword :=
  if opcode = x86OpGroup1Imm then pm32CodeImmediate host instruction position width
  else pm32CodeSigned host instruction position

def pm32Group1 : Pm32Action Unit := do
  let width : Width := if opcode = x86OpGroup1Imm8 then .byte else instruction.operandSize
  let modrm ← pm32Decode host instruction offset
  let second ← pm32Group1Immediate host instruction opcode (offset + modrm.length) width
  pm32ProbeRm host modrm width (modrm.register ≠ x86AluCmp)
  let first ← pm32ReadRm host modrm width
  let cpu ← getCpu
  let computed := pm32Alu cpu.flags modrm.register first second width
  onlyIf (modrm.register ≠ x86AluCmp) (pm32WriteRm modrm width computed.value)
  setFlags computed.flags
  advance (offset + modrm.length + (if opcode = x86OpGroup1Imm then width.bytes else 1))

/-- `TEST r/m, r`. -/
def pm32Test : Pm32Action Unit := do
  let width := instruction.widthOf opcode
  let modrm ← pm32Decode host instruction offset
  pm32ProbeRm host modrm width false
  let operand ← pm32ReadRm host modrm width
  let cpu ← getCpu
  setFlags (pm32Logic cpu.flags (operand &&& pm32GetRegister cpu modrm.register width) width).flags
  advance (offset + modrm.length)

/-! ## Moves -/

/-- `XCHG r/m, r`. -/
def pm32Xchg : Pm32Action Unit := do
  let width := instruction.widthOf opcode
  let modrm ← pm32Decode host instruction offset
  pm32ProbeRm host modrm width true
  let first ← pm32ReadRm host modrm width
  let cpu ← getCpu
  pm32WriteRm modrm width (pm32GetRegister cpu modrm.register width)
  setRegister modrm.register width first
  advance (offset + modrm.length)

/-- `MOV r/m, r` and `MOV r, r/m`. -/
def pm32Mov : Pm32Action Unit := do
  let width := instruction.widthOf opcode
  let modrm ← pm32Decode host instruction offset
  pm32ProbeRm host modrm width (opcode < x86OpMovFromRmByte)
  let cpu ← getCpu
  (if opcode < x86OpMovFromRmByte then
    pm32WriteRm modrm width (pm32GetRegister cpu modrm.register width)
  else do
    let value ← pm32ReadRm host modrm width
    setRegister modrm.register width value)
  advance (offset + modrm.length)

/-- The segment base that `Pm32Decode` added to a SIB operand of `LEA`. -/
def pm32LeaSibBase (mode : Nat) (sib : Byte) (segmentBase : Dword) : Dword :=
  if modrmRegisterMemory sib = x86RegSp ∨ (modrmRegisterMemory sib = x86RegBp ∧ mode ≠ 0) then
    cpu.segmentBases x86SregSs
  else segmentBase

/-- The segment base that `Pm32Decode` added to the operand of `LEA`, from the code bytes. -/
def pm32LeaBase : Pm32Action Dword := do
  let modrmByte ← pm32CodeByte host instruction offset
  let mode := modrmMode modrmByte
  let segmentBase :=
    if modrmRegisterMemory modrmByte = pm32RmDisp32 ∧ mode ≠ 0 then cpu.segmentBases x86SregSs
    else cpu.segmentBases x86SregDs
  if modrmRegisterMemory modrmByte = pm32RmSib then do
    let sib ← pm32CodeByte host instruction (offset + 1)
    return pm32LeaSibBase cpu mode sib segmentBase
  else return segmentBase

/-- `LEA`. -/
def pm32Lea : Pm32Action Unit := do
  let modrm ← pm32Decode host { instruction with segmentOverride := none } offset
  declineIf (modrm.isMemory = false)
  let cpu ← getCpu
  let segmentBase ← pm32LeaBase host instruction offset cpu
  setRegister modrm.register instruction.operandSize (modrm.linear - segmentBase)
  advance (offset + modrm.length)

/-- `NOP`; `PAUSE` is declined. -/
def pm32Nop : Pm32Action Unit := do
  declineIf (instruction.repeated ≠ 0)
  advance offset

/-- `XCHG eAX, r`. -/
def pm32XchgAccumulator : Pm32Action Unit := do
  let width := instruction.operandSize
  let cpu ← getCpu
  setRegister x86RegAx width (pm32GetRegister cpu (opcodeLow opcode) width)
  setRegister (opcodeLow opcode) width (pm32GetRegister cpu x86RegAx width)
  advance offset

/-- `CWDE`, or `CBW`. -/
def pm32Cwde : Pm32Action Unit := do
  let cpu ← getCpu
  let accumulator := cpu.registers x86RegAx
  (if instruction.isOperand16 then setRegister x86RegAx .word (signExtendFrom .byte accumulator)
  else assignRegister x86RegAx (signExtendFrom .word accumulator))
  advance offset

/-- `CDQ`, or `CWD`. -/
def pm32Cdq : Pm32Action Unit := do
  let cpu ← getCpu
  let accumulator := cpu.registers x86RegAx
  (if instruction.isOperand16 then
    setRegister x86RegDx .word (if hasFlag accumulator (widthSignBit .word) then 0xFFFF else 0)
  else
    assignRegister x86RegDx (if hasFlag accumulator (widthSignBit .dword) then 0xFFFFFFFF else 0))
  advance offset

/-- `MOV` between the accumulator and an absolute offset. -/
def pm32MovMoffs : Pm32Action Unit := do
  let width := instruction.widthOf opcode
  let address ← pm32CodeImmediate host instruction offset .dword
  let cpu ← getCpu
  let linear := cpu.segmentBases (instruction.segmentOr x86SregDs) + address
  probe host.canAccess linear width.bytes (x86OpMovToMoffsByte ≤ opcode)
  (if opcode < x86OpMovToMoffsByte then do
    let value ← readMemory host.toHost linear width
    setRegister x86RegAx width value
  else writeMemory linear (pm32GetRegister cpu x86RegAx width) width)
  advance (offset + 4)

/-- `TEST` of the accumulator. -/
def pm32TestImmediate : Pm32Action Unit := do
  let width := instruction.widthOf opcode
  let second ← pm32CodeImmediate host instruction offset width
  let cpu ← getCpu
  setFlags (pm32Logic cpu.flags (pm32GetRegister cpu x86RegAx width &&& second) width).flags
  advance (offset + width.bytes)

/-- `MOV r, imm`. -/
def pm32MovImmediate (width : Width) : Pm32Action Unit := do
  let value ← pm32CodeImmediate host instruction offset width
  setRegister (opcodeLow opcode) width value
  advance (offset + width.bytes)

/-- `MOV r/m, imm`. -/
def pm32MovImmediateRm : Pm32Action Unit := do
  let width := instruction.widthOf opcode
  let modrm ← pm32Decode host instruction offset
  declineIf (modrm.register ≠ 0)
  let value ← pm32CodeImmediate host instruction (offset + modrm.length) width
  pm32ProbeRm host modrm width true
  pm32WriteRm modrm width value
  advance (offset + modrm.length + width.bytes)

/-! ## Strings -/

/-- What a string instruction moves, and how far a step goes. -/
structure Pm32String where
  opcode : Byte
  width : Width
  delta : Dword
  sourceBase : Dword
  destinationBase : Dword

/-- `MOVS` and `LODS` read at the source. -/
def Pm32String.readsSource : Bool :=
  string.opcode ≤ x86OpMovs || x86OpLodsb ≤ string.opcode

/-- `MOVS` and `STOS` write at the destination. -/
def Pm32String.writesDestination : Bool := string.opcode ≤ x86OpStos

/-- The offsets of an element of a string instruction. -/
structure Pm32Indices where
  source : Dword
  destination : Dword

def Pm32String.sourceAt : Dword :=
  string.sourceBase + (indices.source + string.delta * BitVec.ofNat 32 index)

def Pm32String.destinationAt : Dword :=
  string.destinationBase + (indices.destination + string.delta * BitVec.ofNat 32 index)

/-- The probes of one element. -/
def pm32ProbeElement : Pm32Action Unit := do
  onlyIf string.readsSource
    (probe host.canAccess (string.sourceAt indices index) string.width.bytes false)
  onlyIf string.writesDestination
    (probe host.canAccess (string.destinationAt indices index) string.width.bytes true)

def pm32MoveElement : Pm32Action Unit :=
  if string.opcode = x86OpMovsb ∨ string.opcode = x86OpMovs then do
    let value ← readMemory host.toHost (string.sourceBase + indices.source) string.width
    writeMemory (string.destinationBase + indices.destination) value string.width
  else if string.opcode = x86OpStosb ∨ string.opcode = x86OpStos then do
    let cpu ← getCpu
    writeMemory (string.destinationBase + indices.destination)
      (pm32GetRegister cpu x86RegAx string.width) string.width
  else do
    let value ← readMemory host.toHost (string.sourceBase + indices.source) string.width
    setRegister x86RegAx string.width value

def Pm32String.next : Pm32Indices where
  source := if string.readsSource then indices.source + string.delta else indices.source
  destination :=
    if string.writesDestination then indices.destination + string.delta else indices.destination

def pm32StringLoop (string : Pm32String) : Nat → Pm32Indices → Pm32Action Unit
  | 0, _ => return ()
  | count + 1, indices => do
    pm32MoveElement host string indices
    onlyIf string.readsSource (assignRegister x86RegSi (string.next indices).source)
    onlyIf string.writesDestination
      (assignRegister x86RegDi (string.next indices).destination)
    pm32StringLoop string count (string.next indices)

def pm32StringOf : Pm32String where
  opcode
  width := instruction.widthOf opcode
  delta :=
    if hasFlag cpu.flags eflagsDf then -BitVec.ofNat 32 (instruction.widthOf opcode).bytes
    else BitVec.ofNat 32 (instruction.widthOf opcode).bytes
  sourceBase := cpu.segmentBases (instruction.segmentOr x86SregDs)
  destinationBase := cpu.segmentBases x86SregEs

/-- `MOVS`, `STOS` and `LODS`: the whole range is probed first. -/
def pm32StringOpcode : Pm32Action Unit := do
  let cpu ← getCpu
  let count : Dword := if instruction.repeated ≠ 0 then cpu.registers x86RegCx else 1
  let string := pm32StringOf instruction opcode cpu
  let indices : Pm32Indices :=
    { source := cpu.registers x86RegSi, destination := cpu.registers x86RegDi }
  declineIf (instruction.repeated = x86RepeatRepne)
  declineIf (pm32MaxStringCount < count)
  forEach (pm32ProbeElement host string indices) (List.range count.toNat)
  pm32StringLoop host string count.toNat indices
  onlyIf (instruction.repeated ≠ 0) (assignRegister x86RegCx 0)
  advance offset

/-! ## Shifts, ports and group 3 -/

/-- An immediate byte, one, or `CL`. -/
def pm32ShiftCount : Pm32Action Nat :=
  if opcode ≤ x86OpShiftImm then do
    let count ← pm32CodeByte host instruction position
    return count.toNat
  else if opcode ≤ x86OpShiftOne then return 1
  else do
    let cpu ← getCpu
    return (cpu.registers x86RegCx &&& 0xFF).toNat

def pm32StoreShifted (width : Width) : Option Pm32Result → Pm32Action Unit
  | none => decline
  | some shifted => do
    pm32WriteRm modrm width shifted.value
    setFlags shifted.flags

def pm32Group2 : Pm32Action Unit := do
  let width := instruction.widthOf opcode
  let modrm ← pm32Decode host instruction offset
  let count ← pm32ShiftCount host instruction opcode (offset + modrm.length)
  pm32ProbeRm host modrm width true
  let operand ← pm32ReadRm host modrm width
  let cpu ← getCpu
  pm32StoreShifted modrm width (pm32Shift cpu.flags modrm.register operand count width)
  advance (offset + modrm.length + (if opcode ≤ x86OpShiftImm then 1 else 0))

/-- The port of `IN` and `OUT`, an immediate byte or `DX`. -/
def pm32Port : Pm32Action Word :=
  if x86OpInDxByte ≤ opcode then do
    let cpu ← getCpu
    return (cpu.registers x86RegDx).setWidth 16
  else do
    let port ← pm32CodeByte host instruction offset
    return port.setWidth 16

/-- `IN` and `OUT`. -/
def pm32InOut : Pm32Action Unit := do
  let width := instruction.widthOf opcode
  let port ← pm32Port host instruction opcode offset
  (if opcode.getLsbD 1 then do
    let cpu ← getCpu
    portOut port width.bytes (pm32GetRegister cpu x86RegAx width)
  else do
    let value ← portIn host.toHost port width.bytes
    setRegister x86RegAx width value)
  advance (offset + (if x86OpInDxByte ≤ opcode then 0 else 1))

def pm32FlagInstruction (change : Dword → Dword) : Pm32Action Unit := do
  let cpu ← getCpu
  setFlags (change cpu.flags)
  advance offset

/-- The accumulator pair: `AX`, `DX:AX` or `EDX:EAX`. -/
def setAccumulatorPair (width : Width) (low high : Dword) : Pm32Action Unit :=
  match width with
  | .byte => setRegister x86RegAx .word (low &&& 0xFF ||| (high &&& 0xFF) <<< 8)
  | .word => do
    setRegister x86RegAx .word low
    setRegister x86RegDx .word high
  | .dword => do
    assignRegister x86RegAx low
    assignRegister x86RegDx high

/-- `MUL` and `IMUL` of the accumulator. -/
def pm32Multiply (isSigned : Bool) (width : Width) (operand : Dword) : Pm32Action Unit := do
  let cpu ← getCpu
  let product := pm32Product isSigned width (cpu.registers x86RegAx) operand
  setAccumulatorPair width (product.setWidth 32) ((product >>> width.bits).setWidth 32)
  setFlags (cpu.flags &&& ~~~(eflagsCf ||| eflagsOf) |||
    flagIf (pm32ProductOverflows isSigned width product) (eflagsCf ||| eflagsOf))

/-- The dividend: `AX`, `DX:AX` or `EDX:EAX`. -/
def pm32Dividend : Width → BitVec 64
  | .byte => (cpu.registers x86RegAx &&& 0xFFFF).setWidth 64
  | .word =>
    ((cpu.registers x86RegDx &&& 0xFFFF) <<< 16 ||| (cpu.registers x86RegAx &&& 0xFFFF)).setWidth 64
  | .dword =>
    (cpu.registers x86RegDx).setWidth 64 <<< 32 ||| (cpu.registers x86RegAx).setWidth 64

def pm32SignedDividend (width : Width) (dividend : BitVec 64) : Int :=
  match width with
  | .byte => (dividend.setWidth 16).toInt
  | .word => (dividend.setWidth 32).toInt
  | .dword => dividend.toInt

/-- `DIV`. -/
def pm32Divide (width : Width) (operand : Dword) : Pm32Action Unit := do
  let cpu ← getCpu
  let dividend := pm32Dividend cpu width
  let divisor := operand.setWidth 64
  declineIf ((widthMask width).setWidth 64 < dividend / divisor)
  setAccumulatorPair width ((dividend / divisor).setWidth 32) ((dividend % divisor).setWidth 32)

/-- `IDIV`.  The one quotient of the word form that `INT` does not hold traps the host; that of
the dword form is declined. -/
def pm32SignedDivide (width : Width) (operand : Dword) : Pm32Action Unit := do
  let cpu ← getCpu
  let dividend := pm32SignedDividend width (pm32Dividend cpu width)
  let divisor := signedValue width operand
  declineIf (width = .dword ∧ divisor = -1 ∧ dividend = -2 ^ 63)
  trapIf (width = .word ∧ divisor = -1 ∧ dividend = -2 ^ 31)
  let quotient := dividend.tdiv divisor
  declineIf (2 ^ (width.bits - 1) - 1 < quotient ∨ quotient < -2 ^ (width.bits - 1))
  setAccumulatorPair width (BitVec.ofInt 32 quotient) (BitVec.ofInt 32 (dividend.tmod divisor))

/-- `NEG`. -/
def pm32Negate (width : Width) (operand : Dword) : Pm32Action Unit := do
  let cpu ← getCpu
  let negated := pm32Subtract cpu.flags 0 operand false width
  pm32WriteRm modrm width negated.value
  setFlags (if operand &&& widthMask width ≠ 0 then negated.flags ||| eflagsCf
    else negated.flags &&& ~~~eflagsCf)

/-- What group 3 does with its operand, past `TEST`. -/
def pm32Group3Operation (width : Width) (operand : Dword) : Pm32Action Unit :=
  if modrm.register = x86Group3Not then
    pm32WriteRm modrm width (~~~operand &&& widthMask width)
  else if modrm.register = x86Group3Neg then pm32Negate modrm width operand
  else if modrm.register = x86Group3Mul ∨ modrm.register = x86Group3Imul then
    pm32Multiply (modrm.register = x86Group3Imul) width operand
  else do
    declineIf (operand &&& widthMask width = 0)
    if modrm.register = x86Group3Div then pm32Divide width operand
    else pm32SignedDivide width operand

/-- `TEST r/m, imm` of group 3. -/
def pm32Group3Test (width : Width) (operand : Dword) : Pm32Action Unit := do
  let second ← pm32CodeImmediate host instruction (offset + modrm.length) width
  let cpu ← getCpu
  setFlags (pm32Logic cpu.flags (operand &&& second) width).flags
  advance (offset + modrm.length + width.bytes)

/-- `NOT` to `IDIV`. -/
def pm32Group3Unary (width : Width) (operand : Dword) : Pm32Action Unit := do
  pm32Group3Operation modrm width operand
  advance (offset + modrm.length)

def pm32Group3 : Pm32Action Unit := do
  let width : Width := if opcode = x86OpGroup3Byte then .byte else instruction.operandSize
  let modrm ← pm32Decode host instruction offset
  pm32ProbeRm host modrm width
    (modrm.register = x86Group3Not ∨ modrm.register = x86Group3Neg)
  let operand ← pm32ReadRm host modrm width
  if modrm.register = 0 ∨ modrm.register = 1 then
    pm32Group3Test host instruction offset modrm width operand
  else pm32Group3Unary offset modrm width operand

end Ntvdmex.Host.Pm32
