import Ntvdmex.Host.Pm32.Data

/-!
# One step of the 32-bit interpreter (`Pm32Step` of `pm32interp.h`)

The transfers of control, the two-byte opcodes, the prefixes and the ladder.  A step that ends
is a return of 1, a declined one a return of 0.
-/

namespace Ntvdmex.Host.Pm32

open Foundation Interp

variable (host : Pm32Host) (instruction : Pm32Instruction) (opcode opcode2 : Byte) (offset : Nat)

/-! ## Transfers of control -/

/-- `Jcc rel8`. -/
def pm32JccShort : Pm32Action Unit := do
  let displacement ← pm32CodeSigned host instruction offset
  let cpu ← getCpu
  setEip (cpu.eip + BitVec.ofNat 32 (offset + 1) +
    (if pm32Condition cpu.flags (conditionOf opcode) then displacement else 0))

/-- The bytes that `RET` pops past its frame. -/
def pm32ExtraPop : Pm32Action Dword :=
  if opcode = x86OpRetImm then pm32CodeImmediate host instruction offset .word else return 0

/-- `RET`. -/
def pm32Ret : Pm32Action Unit := do
  let extraPop ← pm32ExtraPop host instruction opcode offset
  let cpu ← getCpu
  declineIf instruction.isOperand16
  probe host.canAccess (pm32StackTop cpu) (Width.dword.bytes) false
  let target ← pm32Pop host cpu .dword
  assignRegister x86RegSp (cpu.registers x86RegSp + 4 + extraPop)
  setEip target

/-- `CALL rel32`. -/
def pm32Call : Pm32Action Unit := do
  let displacement ← pm32CodeImmediate host instruction offset .dword
  let cpu ← getCpu
  declineIf instruction.isOperand16
  pm32CanPush host cpu .dword
  pm32Push cpu .dword (cpu.eip + BitVec.ofNat 32 (offset + 4))
  setEip (cpu.eip + (BitVec.ofNat 32 (offset + 4) + displacement))

/-- `JMP rel32`. -/
def pm32Jmp : Pm32Action Unit := do
  declineIf instruction.isOperand16
  let displacement ← pm32CodeImmediate host instruction offset .dword
  let cpu ← getCpu
  setEip (cpu.eip + (BitVec.ofNat 32 (offset + 4) + displacement))

/-- `JMP rel8`. -/
def pm32JmpShort : Pm32Action Unit := do
  let displacement ← pm32CodeSigned host instruction offset
  let cpu ← getCpu
  setEip (cpu.eip + (BitVec.ofNat 32 (offset + 1) + displacement))

variable (modrm : Pm32Modrm)

/-- `INC` and `DEC` of groups 4 and 5. -/
def pm32IncDecRm (width : Width) : Pm32Action Unit := do
  pm32ProbeRm host modrm width true
  let operand ← pm32ReadRm host modrm width
  let cpu ← getCpu
  let stepped := pm32StepByOne (modrm.register = 1) cpu.flags operand width
  pm32WriteRm modrm width stepped.value
  setFlags stepped.flags
  advance (offset + modrm.length)

def pm32PushReturn (cpu : Pm32Cpu) (position : Nat) : Pm32Action Unit := do
  pm32CanPush host cpu .dword
  pm32Push cpu .dword (cpu.eip + BitVec.ofNat 32 position)

/-- `CALL r/m` and `JMP r/m`. -/
def pm32TransferRm : Pm32Action Unit := do
  pm32ProbeRm host modrm .dword false
  let target ← pm32ReadRm host modrm .dword
  let cpu ← getCpu
  onlyIf (modrm.register = x86Group5Call) (pm32PushReturn host cpu (offset + modrm.length))
  setEip target

/-- `PUSH r/m`. -/
def pm32PushRm : Pm32Action Unit := do
  let cpu ← getCpu
  pm32ProbeRm host modrm instruction.operandSize false
  pm32CanPush host cpu instruction.operandSize
  let value ← pm32ReadRm host modrm instruction.operandSize
  pm32Push cpu instruction.operandSize value
  advance (offset + modrm.length)

def pm32Group45 : Pm32Action Unit := do
  let width : Width := if opcode = x86OpGroup4 then .byte else instruction.operandSize
  let modrm ← pm32Decode host instruction offset
  if modrm.register ≤ 1 then pm32IncDecRm host offset modrm width
  else if opcode = x86OpGroup5 ∧
      (modrm.register = x86Group5Call ∨ modrm.register = x86Group5Jmp) ∧
      instruction.isOperand16 = false then
    pm32TransferRm host offset modrm
  else if opcode = x86OpGroup5 ∧ modrm.register = x86Group5Push then
    pm32PushRm host instruction offset modrm
  else decline

/-! ## The two-byte opcodes -/

/-- `Jcc rel32`. -/
def pm32JccNear : Pm32Action Unit := do
  let displacement ← pm32CodeImmediate host instruction offset .dword
  declineIf instruction.isOperand16
  let cpu ← getCpu
  setEip (cpu.eip + BitVec.ofNat 32 (offset + 4) +
    (if pm32Condition cpu.flags (conditionOf opcode2) then displacement else 0))

/-- `SETcc`. -/
def pm32Setcc : Pm32Action Unit := do
  let cpu ← getCpu
  let value : Dword := if pm32Condition cpu.flags (conditionOf opcode2) then 1 else 0
  let modrm ← pm32Decode host instruction offset
  pm32ProbeRm host modrm .byte true
  pm32WriteRm modrm .byte value
  advance (offset + modrm.length)

/-- `MOVZX` and `MOVSX`. -/
def pm32MoveExtend : Pm32Action Unit := do
  let sourceWidth : Width := if isWide opcode2 then .word else .byte
  let modrm ← pm32Decode host instruction offset
  pm32ProbeRm host modrm sourceWidth false
  let value ← pm32ReadRm host modrm sourceWidth
  setRegister modrm.register instruction.operandSize
    (if x86Op2MovsxByte ≤ opcode2 then signExtendFrom sourceWidth value else value)
  advance (offset + modrm.length)

/-- `IMUL r, r/m`. -/
def pm32ImulRm : Pm32Action Unit := do
  let width := instruction.operandSize
  let modrm ← pm32Decode host instruction offset
  pm32ProbeRm host modrm width false
  let operand ← pm32ReadRm host modrm width
  let cpu ← getCpu
  pm32StoreProduct modrm width
    (signedValue width (cpu.registers modrm.register) * signedValue width operand)
  advance (offset + modrm.length)

/-- A value of the instruction stream, and the bytes it takes. -/
structure Pm32Operand where
  value : Nat
  length : Nat

/-- An immediate byte, or `CL`. -/
def pm32DoubleShiftCount (position : Nat) : Pm32Action Pm32Operand :=
  if opcode2 = pm32Op2ShldImm ∨ opcode2 = pm32Op2ShrdImm then do
    let count ← pm32CodeByte host instruction position
    return { value := count.toNat % 32, length := 1 }
  else do
    let cpu ← getCpu
    return { value := (cpu.registers x86RegCx).toNat % 32, length := 0 }

def pm32DoubleShiftBy (count : Nat) : Pm32Action Unit := do
  let width := instruction.operandSize
  declineIf (width.bits < count)
  let destination ← pm32ReadRm host modrm width
  let cpu ← getCpu
  let shifted := pm32DoubleShift cpu.flags (opcode2 ≤ pm32Op2ShldCl) destination
    (pm32GetRegister cpu modrm.register width) count width
  pm32WriteRm modrm width shifted.value
  setFlags shifted.flags

/-- `SHLD` and `SHRD`. -/
def pm32ShldShrd : Pm32Action Unit := do
  let modrm ← pm32Decode host instruction offset
  let count ← pm32DoubleShiftCount host instruction opcode2 (offset + modrm.length)
  pm32ProbeRm host modrm instruction.operandSize true
  onlyIf (count.value ≠ 0) (pm32DoubleShiftBy host instruction opcode2 modrm count.value)
  advance (offset + modrm.length + count.length)

def pm32TwoByte : Pm32Action Unit :=
  if x86JccNearFirst ≤ opcode2 ∧ opcode2 ≤ x86JccNearLast then
    pm32JccNear host instruction opcode2 offset
  else if x86Op2SetccFirst ≤ opcode2 ∧ opcode2 ≤ x86Op2SetccLast then
    pm32Setcc host instruction opcode2 offset
  else if opcode2 = x86Op2MovzxByte ∨ opcode2 = x86Op2MovzxWord ∨ opcode2 = x86Op2MovsxByte ∨
      opcode2 = x86Op2MovsxWord then
    pm32MoveExtend host instruction opcode2 offset
  else if opcode2 = pm32Op2Imul then pm32ImulRm host instruction offset
  else if opcode2 = pm32Op2ShldImm ∨ opcode2 = pm32Op2ShldCl ∨ opcode2 = pm32Op2ShrdImm ∨
      opcode2 = pm32Op2ShrdCl then
    pm32ShldShrd host instruction opcode2 offset
  else decline

def pm32Escape : Pm32Action Unit := do
  let opcode2 ← pm32CodeByte host instruction offset
  pm32TwoByte host instruction opcode2 (offset + 1)

def pm32ControlOpcode : Pm32Action Unit :=
  if opcode = x86OpCall then pm32Call host instruction offset
  else if opcode = x86OpJmp then pm32Jmp host instruction offset
  else if opcode = x86OpJmpShort then pm32JmpShort host instruction offset
  else if opcode = x86OpCmc then pm32FlagInstruction offset fun flags => flags ^^^ eflagsCf
  else if opcode = x86OpClc then pm32FlagInstruction offset fun flags => flags &&& ~~~eflagsCf
  else if opcode = x86OpStc then pm32FlagInstruction offset fun flags => flags ||| eflagsCf
  else if opcode = x86OpCld then pm32FlagInstruction offset fun flags => flags &&& ~~~eflagsDf
  else if opcode = x86OpStd then pm32FlagInstruction offset fun flags => flags ||| eflagsDf
  else if opcode = x86OpGroup3Byte ∨ opcode = x86OpGroup3 then
    pm32Group3 host instruction opcode offset
  else if opcode = x86OpGroup4 ∨ opcode = x86OpGroup5 then
    pm32Group45 host instruction opcode offset
  else if opcode = x86Escape then pm32Escape host instruction offset
  else decline

/-- The blocks from `LEA` to the ports. -/
def pm32DataOpcode : Pm32Action Unit :=
  if opcode = x86OpLea then pm32Lea host instruction offset
  else if opcode = x86OpNop then pm32Nop instruction offset
  else if x86OpNop < opcode ∧ opcode ≤ x86OpXchgLast then
    pm32XchgAccumulator instruction opcode offset
  else if opcode = x86OpCbw then pm32Cwde instruction offset
  else if opcode = x86OpCwd then pm32Cdq instruction offset
  else if x86OpMovFromMoffsByte ≤ opcode ∧ opcode ≤ x86OpMovToMoffs then
    pm32MovMoffs host instruction opcode offset
  else if opcode = x86OpTestImmByte ∨ opcode = x86OpTestImm then
    pm32TestImmediate host instruction opcode offset
  else if opcode = x86OpMovsb ∨ opcode = x86OpMovs ∨ opcode = x86OpStosb ∨ opcode = x86OpStos ∨
      opcode = x86OpLodsb ∨ opcode = x86OpLods then
    pm32StringOpcode host instruction opcode offset
  else if x86OpMovImmByteFirst ≤ opcode ∧ opcode ≤ x86OpMovImmByteLast then
    pm32MovImmediate host instruction opcode offset .byte
  else if x86OpMovImmFirst ≤ opcode ∧ opcode ≤ x86OpMovImmLast then
    pm32MovImmediate host instruction opcode offset instruction.operandSize
  else if opcode = x86OpShiftImmByte ∨ opcode = x86OpShiftImm ∨
      (x86OpShiftOneByte ≤ opcode ∧ opcode ≤ x86OpShiftCl) then
    pm32Group2 host instruction opcode offset
  else if opcode = x86OpRet ∨ opcode = x86OpRetImm then pm32Ret host instruction opcode offset
  else if opcode = x86OpMovImmRmByte ∨ opcode = x86OpMovImmRm then
    pm32MovImmediateRm host instruction opcode offset
  else if (x86OpInImmByte ≤ opcode ∧ opcode ≤ x86OpOutImm) ∨
      (x86OpInDxByte ≤ opcode ∧ opcode ≤ x86OpOutDx) then
    pm32InOut host instruction opcode offset
  else pm32ControlOpcode host instruction opcode offset

def pm32OneByte : Pm32Action Unit :=
  if opcode < x86OpIncFirst ∧ opcodeLow opcode < pm32AluForms then
    pm32AluForm host instruction opcode offset
  else if x86OpIncFirst ≤ opcode ∧ opcode ≤ x86OpDecLast then
    pm32IncDec instruction opcode offset
  else if x86OpPushFirst ≤ opcode ∧ opcode ≤ x86OpPushLast then
    pm32PushRegister host instruction opcode offset
  else if x86OpPopFirst ≤ opcode ∧ opcode ≤ x86OpPopLast then
    pm32PopRegister host instruction opcode offset
  else if opcode = x86OpPusha then pm32Pushad host instruction offset
  else if opcode = x86OpPopa then pm32Popad host instruction offset
  else if opcode = x86OpPushImm ∨ opcode = x86OpPushImm8 then
    pm32PushImmediate host instruction opcode offset
  else if opcode = x86OpImulImm ∨ opcode = x86OpImulImm8 then
    pm32Imul host instruction opcode offset
  else if x86OpJccShortFirst ≤ opcode ∧ opcode ≤ x86OpJccShortLast then
    pm32JccShort host instruction opcode offset
  else if opcode = x86OpGroup1Imm8 ∨ opcode = x86OpGroup1Imm ∨ opcode = x86OpGroup1Simm8 then
    pm32Group1 host instruction opcode offset
  else if opcode = x86OpTestByte ∨ opcode = x86OpTest then
    pm32Test host instruction opcode offset
  else if opcode = x86OpXchgByte ∨ opcode = x86OpXchg then
    pm32Xchg host instruction opcode offset
  else if x86OpMovToRmByte ≤ opcode ∧ opcode ≤ x86OpMovFromRm then
    pm32Mov host instruction opcode offset
  else pm32DataOpcode host instruction opcode offset

/-- The instruction with a prefix byte; `none` when the byte is not a prefix it goes on from. -/
def pm32TakePrefix (instruction : Pm32Instruction) (byte : Byte) : Option Pm32Instruction :=
  if byte = x86PrefixOperandSize then some { instruction with isOperand16 := true }
  else if byte = x86PrefixEs then some { instruction with segmentOverride := some x86SregEs }
  else if byte = x86PrefixCs then some { instruction with segmentOverride := some x86SregCs }
  else if byte = x86PrefixSs then some { instruction with segmentOverride := some x86SregSs }
  else if byte = x86PrefixDs then some { instruction with segmentOverride := some x86SregDs }
  else if byte = x86PrefixFs then some { instruction with segmentOverride := some x86SregFs }
  else if byte = x86PrefixGs then some { instruction with segmentOverride := some x86SregGs }
  else if byte = x86PrefixRep then some { instruction with repeated := x86RepeatRep }
  else if byte = x86PrefixRepne then some { instruction with repeated := x86RepeatRepne }
  else none

/-- The prefixes of an instruction, its opcode, and the position after it. -/
structure Pm32Prefixed where
  instruction : Pm32Instruction
  opcode : Byte
  offset : Nat

/-- The prefix loop, which gives up after `X86_PREFIXES_MAX` prefixes. -/
def pm32TakePrefixes : Nat → Pm32Instruction → Nat → Pm32Action Pm32Prefixed
  | 0, _, _ => decline
  | rounds + 1, instruction, offset => do
    let byte ← pm32CodeByte host instruction offset
    match pm32TakePrefix instruction byte with
    | some taken => do
      declineIf (x86PrefixesMax < offset + 1)
      pm32TakePrefixes rounds taken (offset + 1)
    | none => do
      declineIf (byte = x86PrefixAddressSize ∨ byte = x86PrefixLock)
      return { instruction, opcode := byte, offset := offset + 1 }

/-- The instruction at `CS:EIP`, before any prefix. -/
def pm32Bare (cpu : Pm32Cpu) : Pm32Instruction where
  codeLinear := cpu.segmentBases x86SregCs + cpu.eip
  segmentOverride := none
  repeated := 0
  isOperand16 := false

def pm32Step : Pm32Action Unit := do
  let cpu ← getCpu
  let prefixed ← pm32TakePrefixes host (x86PrefixesMax + 1) (pm32Bare cpu) 0
  pm32OneByte host prefixed.instruction prefixed.opcode prefixed.offset

end Ntvdmex.Host.Pm32
