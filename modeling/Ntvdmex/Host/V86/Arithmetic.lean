import Ntvdmex.Host.V86.Decode

/-!
# The arithmetic of the 16-bit interpreter

The blocks of `V86Step` that compute.  `offset` is the position after the opcode byte.
-/

namespace Ntvdmex.Host.V86

open Foundation Interp

variable (host : V86Host) (instruction : V86Instruction) (opcode : Byte) (offset : Nat)

/-! ## The arithmetic and logic group -/

/-- `r/m, r` (forms 0 and 1) and `r, r/m` (forms 2 and 3). -/
def v86AluRm (operation form : Nat) (width : Width) : V86Action Unit := do
  let modrm ← v86DecodeModrm host instruction offset
  modrm.declineBeyondGuest
  let rmValue ← v86ReadRm host modrm width
  let cpu ← getCpu
  let registerValue := v86GetRegister cpu modrm.register width
  let result ← alu operation (if form ≤ 1 then rmValue else registerValue)
    (if form ≤ 1 then registerValue else rmValue) width
  onlyIf (operation ≠ x86AluCmp)
    (if form ≤ 1 then v86WriteRm modrm width result
    else setRegister modrm.register width result)
  advance (offset + modrm.length)

/-- `AL, imm8` and `eAX, imm`. -/
def v86AluAccumulator (operation : Nat) (width : Width) : V86Action Unit := do
  let cpu ← getCpu
  let second ← v86Immediate host instruction offset width
  let result ← alu operation (v86GetRegister cpu x86RegAx width) second width
  onlyIf (operation ≠ x86AluCmp) (setRegister x86RegAx width result)
  advance (offset + width.bytes)

def v86AluForm : V86Action Unit :=
  let operation := opcode.toNat / 8 % 8
  let form := opcodeLow opcode
  if form ≤ 3 then
    v86AluRm host instruction offset operation form (instruction.widthOf opcode)
  else v86AluAccumulator host instruction offset operation (instruction.widthOf opcode)

variable (isSigned : Bool) (modrm : V86Modrm) (position : Nat) (width : Width) (operand : Dword)

def v86Group1Immediate : V86Action Dword :=
  if opcode = x86OpGroup1Imm then v86Immediate host instruction position width
  else do
    let immediate ← v86CodeByte host instruction position
    return immediate.signExtend 32 &&& widthMask width

def v86Group1 : V86Action Unit := do
  let width : Width := if opcode = x86OpGroup1Imm8 then .byte else instruction.operandSize
  let modrm ← v86DecodeModrm host instruction offset
  modrm.declineBeyondGuest
  let first ← v86ReadRm host modrm width
  let second ← v86Group1Immediate host instruction opcode (offset + modrm.length) width
  let result ← alu modrm.register first second width
  onlyIf (modrm.register ≠ x86AluCmp) (v86WriteRm modrm width result)
  advance (offset + modrm.length + (if opcode = x86OpGroup1Imm then width.bytes else 1))

/-- `INC` and `DEC` of a register. -/
def v86IncDec : V86Action Unit := do
  let cpu ← getCpu
  let index := opcodeLow opcode
  let result ← stepByOne (x86OpDecFirst ≤ opcode)
    (v86GetRegister cpu index instruction.operandSize) instruction.operandSize
  setRegister index instruction.operandSize result
  advance offset

/-- `INC` and `DEC` of groups 4 and 5. -/
def v86IncDecRm : V86Action Unit := do
  let first ← v86ReadRm host modrm width
  let result ← stepByOne (modrm.register = 1) first width
  v86WriteRm modrm width result
  advance (offset + modrm.length)

/-- `TEST r/m, r`. -/
def v86Test : V86Action Unit := do
  let width := instruction.widthOf opcode
  let modrm ← v86DecodeModrm host instruction offset
  modrm.declineBeyondGuest
  let operand ← v86ReadRm host modrm width
  let cpu ← getCpu
  logic (operand &&& v86GetRegister cpu modrm.register width) width
  advance (offset + modrm.length)

/-- `TEST` of the accumulator. -/
def v86TestImmediate : V86Action Unit := do
  let width := instruction.widthOf opcode
  let second ← v86Immediate host instruction offset width
  let cpu ← getCpu
  logic (v86GetRegister cpu x86RegAx width &&& second) width
  advance (offset + width.bytes)

/-! ## Group 3 -/

/-- `CF` and `OF` of a product. -/
def setProductFlags (isOverflow : Bool) : V86Action Unit :=
  setFlags fun flags =>
    flags &&& ~~~(eflagsCf ||| eflagsOf) ||| flagIf isOverflow (eflagsCf ||| eflagsOf)

def v86Product (first second : Dword) : BitVec 64 :=
  if isSigned then BitVec.ofInt 64 (signedValue width first * signedValue width second)
  else (first &&& widthMask width).setWidth 64 * (second &&& widthMask width).setWidth 64

def v86ProductOverflows (first second : Dword) : Bool :=
  let product := v86Product isSigned width first second
  if isSigned then
    signedValue width first * signedValue width second ≠
      signedValue width (product.setWidth 32)
  else product >>> width.bits ≠ 0

/-- Bits 31 to 0 of the accumulator pair: `AX`, `DX:AX` or `EDX:EAX`. -/
def setAccumulatorPair (low high : Dword) : V86Action Unit :=
  match width with
  | .byte => set16 x86RegAx ((low &&& 0xFF ||| (high &&& 0xFF) <<< 8).setWidth 16)
  | .word => do
    set16 x86RegAx (low.setWidth 16)
    set16 x86RegDx (high.setWidth 16)
  | .dword => do
    assignRegister x86RegAx low
    assignRegister x86RegDx high

/-- `MUL` and `IMUL` of the accumulator. -/
def v86Multiply : V86Action Unit := do
  let cpu ← getCpu
  let product := v86Product isSigned width (cpu.registers x86RegAx) operand
  setAccumulatorPair width (product.setWidth 32) ((product >>> width.bits).setWidth 32)
  setProductFlags (v86ProductOverflows isSigned width (cpu.registers x86RegAx) operand)

/-- The dividend: `AX`, `DX:AX` or `EDX:EAX`. -/
def v86Dividend (cpu : V86Cpu) : Width → BitVec 64
  | .byte => (cpu.registers x86RegAx &&& 0xFFFF).setWidth 64
  | .word =>
    ((cpu.registers x86RegDx &&& 0xFFFF) <<< 16 ||| (cpu.registers x86RegAx &&& 0xFFFF)).setWidth 64
  | .dword =>
    (cpu.registers x86RegDx).setWidth 64 <<< 32 ||| (cpu.registers x86RegAx).setWidth 64

def v86SignedDividend (dividend : BitVec 64) : Int :=
  match width with
  | .byte => (dividend.setWidth 16).toInt
  | .word => (dividend.setWidth 32).toInt
  | .dword => dividend.toInt

/-- `DIV`. -/
def v86Divide : V86Action Unit := do
  let cpu ← getCpu
  let dividend := v86Dividend cpu width
  let divisor := (operand &&& widthMask width).setWidth 64
  let quotient := dividend / divisor
  declineIf ((widthMask width).setWidth 64 < quotient)
  setAccumulatorPair width (quotient.setWidth 32) ((dividend % divisor).setWidth 32)

/-- The C type in which the quotient of an `IDIV` is computed holds it: `INT` for bytes and
words, `INT64` for dwords. -/
def v86HostQuotientFits (quotient : Int) : Prop :=
  match width with
  | .dword => quotient < 2 ^ 63
  | _ => quotient < 2 ^ 31

instance (quotient : Int) : Decidable (v86HostQuotientFits width quotient) := by
  cases width <;> exact inferInstanceAs (Decidable (_ < _))

/-- `IDIV`.  The quotient whose C type does not hold it traps the host. -/
def v86SignedDivide : V86Action Unit := do
  let cpu ← getCpu
  let dividend := v86SignedDividend width (v86Dividend cpu width)
  let divisor := signedValue width operand
  let quotient := dividend.tdiv divisor
  let remainder := dividend.tmod divisor
  trapIf ¬v86HostQuotientFits width quotient
  declineIf (2 ^ (width.bits - 1) - 1 < quotient ∨ quotient < -2 ^ (width.bits - 1))
  setAccumulatorPair width (BitVec.ofInt 32 quotient) (BitVec.ofInt 32 remainder)

/-- What group 3 does with its operand, past `TEST`. -/
def v86Group3Operation : V86Action Unit :=
  if modrm.register = x86Group3Not then
    v86WriteRm modrm width (~~~operand &&& widthMask width)
  else if modrm.register = x86Group3Neg then do
    let result ← subtract 0 operand false width
    v86WriteRm modrm width result
  else if modrm.register = x86Group3Mul ∨ modrm.register = x86Group3Imul then
    v86Multiply (modrm.register = x86Group3Imul) width operand
  else do
    declineIf (operand = 0)
    if modrm.register = x86Group3Div then v86Divide width operand
    else v86SignedDivide width operand

/-- `TEST r/m, imm` of group 3. -/
def v86Group3Test : V86Action Unit := do
  let operand ← v86ReadRm host modrm width
  let second ← v86Immediate host instruction (offset + modrm.length) width
  logic (operand &&& second) width
  advance (offset + modrm.length + width.bytes)

/-- `NOT` to `IDIV`. -/
def v86Group3Unary : V86Action Unit := do
  let operand ← v86ReadRm host modrm width
  v86Group3Operation modrm width operand
  advance (offset + modrm.length)

def v86Group3 : V86Action Unit := do
  let width : Width := if opcode = x86OpGroup3Byte then .byte else instruction.operandSize
  let modrm ← v86DecodeModrm host instruction offset
  modrm.declineBeyondGuest
  if modrm.register = 0 ∨ modrm.register = 1 then
    v86Group3Test host instruction offset modrm width
  else v86Group3Unary host offset modrm width

/-- One, `CL` or an immediate byte. -/
def v86ShiftCount : V86Action Nat :=
  if opcode = x86OpShiftOneByte ∨ opcode = x86OpShiftOne then return 1
  else if opcode = x86OpShiftClByte ∨ opcode = x86OpShiftCl then do
    let cpu ← getCpu
    return (v86Get8 cpu x86RegCx).toNat
  else do
    let count ← v86CodeByte host instruction position
    return count.toNat

def v86Group2 : V86Action Unit := do
  let width := instruction.widthOf opcode
  let modrm ← v86DecodeModrm host instruction offset
  modrm.declineBeyondGuest
  let count ← v86ShiftCount host instruction opcode (offset + modrm.length)
  let value ← v86ReadRm host modrm width
  let result ← shiftRotate modrm.register value count width
  v86WriteRm modrm width result
  advance (offset + modrm.length +
    (if opcode = x86OpShiftImmByte ∨ opcode = x86OpShiftImm then 1 else 0))

/-- `CBW`, or `CWDE`. -/
def v86Cbw : V86Action Unit := do
  let cpu ← getCpu
  let accumulator := cpu.registers x86RegAx
  (if instruction.isOperand32 then assignRegister x86RegAx (signExtendFrom .word accumulator)
  else set16 x86RegAx ((signExtendFrom .byte accumulator).setWidth 16))
  advance offset

/-- `CWD`, or `CDQ`. -/
def v86Cwd : V86Action Unit := do
  let cpu ← getCpu
  let accumulator := cpu.registers x86RegAx
  (if instruction.isOperand32 then
    assignRegister x86RegDx (if hasFlag accumulator (widthSignBit .dword) then 0xFFFFFFFF else 0)
  else set16 x86RegDx (if hasFlag accumulator (widthSignBit .word) then 0xFFFF else 0))
  advance offset

/-- The signed immediate of `IMUL`. -/
def v86ImulImmediate : V86Action Int :=
  if opcode = x86OpImulImm8 then do
    let immediate ← v86Immediate host instruction position .byte
    return signedValue .byte immediate
  else do
    let immediate ← v86Immediate host instruction position width
    return signedValue width immediate

/-- `IMUL r, r/m, imm`. -/
def v86Imul : V86Action Unit := do
  let width := instruction.operandSize
  let modrm ← v86DecodeModrm host instruction offset
  modrm.declineBeyondGuest
  let operand ← v86ReadRm host modrm width
  let second ← v86ImulImmediate host instruction opcode (offset + modrm.length) width
  let product := signedValue width operand * second
  let result := BitVec.ofInt 32 product &&& widthMask width
  setRegister modrm.register width result
  setProductFlags (product ≠ signedValue width result)
  advance (offset + modrm.length + (if opcode = x86OpImulImm8 then 1 else width.bytes))

end Ntvdmex.Host.V86
