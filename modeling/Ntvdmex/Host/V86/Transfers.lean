import Ntvdmex.Host.V86.Arithmetic

/-!
# The stack and the transfers of control of the 16-bit interpreter

The blocks of `V86Step` that push, pop, jump, call and return.  `offset` is the position after
the opcode byte.
-/

namespace Ntvdmex.Host.V86

open Foundation Interp

variable (host : V86Host) (instruction : V86Instruction) (opcode : Byte) (offset : Nat)

/-! ## Pushes and pops -/

/-- `PUSH r`. -/
def v86PushRegister : V86Action Unit := do
  let cpu ← getCpu
  v86Push host instruction.operandSize
    (v86GetRegister cpu (opcodeLow opcode) instruction.operandSize)
  advance offset

/-- `POP r`.  The stack pointer is stored last. -/
def v86PopRegister : V86Action Unit := do
  let width := instruction.operandSize
  let cpu ← getCpu
  let stackPointer := v86Get16 cpu x86RegSp
  let value ← v86ReadMemory host (v86StackLinear host cpu stackPointer) width
  setRegister (opcodeLow opcode) width value
  setStackPointer (stackPointer + BitVec.ofNat 16 width.bytes)
  advance offset

/-- The immediate of `PUSH`: full width, or a sign-extended byte. -/
def v86PushedImmediate : V86Action Dword :=
  if opcode = x86OpPushImm then v86Immediate host instruction offset instruction.operandSize
  else do
    let immediate ← v86CodeByte host instruction offset
    return immediate.signExtend 32 &&& widthMask instruction.operandSize

/-- `PUSH imm`. -/
def v86PushImmediate : V86Action Unit := do
  let value ← v86PushedImmediate host instruction opcode offset
  v86Push host instruction.operandSize value
  advance (offset + (if opcode = x86OpPushImm then instruction.operandSize.bytes else 1))

/-- `PUSHF` and `PUSHFD`. -/
def v86Pushf : V86Action Unit := do
  let cpu ← getCpu
  v86Push host instruction.operandSize (v86FlagsImage host cpu instruction.operandSize)
  advance offset

/-- `POPF` and `POPFD`. -/
def v86Popf : V86Action Unit := do
  let value ← v86Pop host instruction.operandSize
  loadFlags value instruction.operandSize
  advance offset

/-- The pushes of `PUSHA`, from a register on; the stack pointer after them. -/
def v86PushaLoop (original : V86Cpu) (width : Width) : List Nat → Word → V86Action Word
  | [], stackPointer => return stackPointer
  | index :: indices, stackPointer => do
    let below := stackPointer - BitVec.ofNat 16 width.bytes
    v86WriteMemory (v86StackLinear host original below) width (v86GetRegister original index width)
    v86PushaLoop original width indices below

/-- `PUSHA` and `PUSHAD`. -/
def v86Pusha : V86Action Unit := do
  let cpu ← getCpu
  let stackPointer ← v86PushaLoop host cpu instruction.operandSize
    (List.range x86GeneralRegisters) (v86Get16 cpu x86RegSp)
  setStackPointer stackPointer
  advance offset

/-- The pops of `POPA`, where the slot of the stack pointer is passed over. -/
def v86PopaLoop (original : V86Cpu) (width : Width) : List Nat → Word → V86Action Word
  | [], stackPointer => return stackPointer
  | index :: indices, stackPointer => do
    onlyIf (index ≠ x86RegSp) (do
      let value ← v86ReadMemory host (v86StackLinear host original stackPointer) width
      setRegister index width value)
    v86PopaLoop original width indices (stackPointer + BitVec.ofNat 16 width.bytes)

/-- `POPA` and `POPAD`. -/
def v86Popa : V86Action Unit := do
  let cpu ← getCpu
  let stackPointer ← v86PopaLoop host cpu instruction.operandSize
    (List.range x86GeneralRegisters).reverse (v86Get16 cpu x86RegSp)
  setStackPointer stackPointer
  advance offset

/-- `PUSH` of the segment register that the opcode names. -/
def v86PushSreg : V86Action Unit := do
  let segment :=
    if opcode = x86OpPushEs then x86SregEs
    else if opcode = x86OpPushCs then x86SregCs
    else if opcode = x86OpPushSs then x86SregSs else x86SregDs
  let cpu ← getCpu
  v86PushSegment host instruction.operandSize (cpu.segments segment)
  advance offset

/-- `POP` of the segment register that the opcode names, at operand size 32. -/
def v86PopSreg32 (segment : Nat) : V86Action Unit := do
  let value ← v86Pop host .dword
  setSegment segment (value.setWidth 16)
  advance offset

/-- `POP` of the segment register that the opcode names, at operand size 16. -/
def v86PopSreg16 (segment : Nat) : V86Action Unit := do
  let cpu ← getCpu
  let stackPointer := v86Get16 cpu x86RegSp
  let value ← v86ReadMemory host (v86StackLinear host cpu stackPointer) .word
  setSegment segment (value.setWidth 16)
  setStackPointer (stackPointer + 2)
  advance offset

def v86PopSreg : V86Action Unit :=
  let segment :=
    if opcode = x86OpPopEs then x86SregEs
    else if opcode = x86OpPopSs then x86SregSs else x86SregDs
  if instruction.isOperand32 then v86PopSreg32 host offset segment
  else v86PopSreg16 host offset segment

/-- `POP r/m`.  The stack pointer is stored before the operand. -/
def v86PopRm : V86Action Unit := do
  let width := instruction.operandSize
  declineIf host.segmentToLinear.isSome
  let modrm ← v86DecodeModrm host instruction offset
  declineIf (modrm.register ≠ 0 ∨
    (modrm.isMemory ∧ v86GuestLimit < modrm.linear + BitVec.ofNat 32 width.bytes))
  let value ← v86Pop host width
  v86WriteRm modrm width value
  advance (offset + modrm.length)

/-- The frame pointers that `ENTER` copies. -/
def v86EnterLoop (stackBase : Dword) (width : Width) : Nat → V86Action Unit
  | 0 => return ()
  | count + 1 => do
    let cpu ← getCpu
    let framePointer := v86Get16 cpu x86RegBp - BitVec.ofNat 16 width.bytes
    set16 x86RegBp framePointer
    let value ← v86ReadMemory host (stackBase + framePointer.setWidth 32) width
    v86Push host width value
    v86EnterLoop stackBase width count

/-- The nested levels of `ENTER`. -/
def v86EnterLevels (stackBase : Dword) (width : Width) (frameTemp : Word) (level : Nat) :
    V86Action Unit := do
  v86EnterLoop host stackBase width (level - 1)
  v86Push host width (frameTemp.setWidth 32)

/-- `ENTER`. -/
def v86Enter : V86Action Unit := do
  let width := instruction.operandSize
  let frameSize ← v86CodeWord host instruction offset
  let levelByte ← v86CodeByte host instruction (offset + 2)
  let level := levelByte.toNat % 32
  let cpu ← getCpu
  let stackBase := v86SegmentBase host (cpu.segments x86SregSs)
  v86Push host width (v86GetRegister cpu x86RegBp width)
  let pushed ← getCpu
  let frameTemp := v86Get16 pushed x86RegSp
  onlyIf (0 < level) (v86EnterLevels host stackBase width frameTemp level)
  set16 x86RegBp frameTemp
  let nested ← getCpu
  setStackPointer (v86Get16 nested x86RegSp - frameSize)
  advance (offset + 3)

/-- `LEAVE`. -/
def v86Leave : V86Action Unit := do
  let width := instruction.operandSize
  let cpu ← getCpu
  let stackPointer := v86Get16 cpu x86RegBp
  let value ← v86ReadMemory host (v86StackLinear host cpu stackPointer) width
  setRegister x86RegBp width value
  setStackPointer (stackPointer + BitVec.ofNat 16 width.bytes)
  advance offset

/-! ## Jumps and calls -/

/-- A word pushed with `Registers[X86_REG_SP] = stackPointer`, as `CALL` and `PUSH` of group 5
store it. -/
def v86PushWordWhole (value : Word) : V86Action Unit := do
  let cpu ← getCpu
  let stackPointer := v86Below cpu .word
  v86WriteMemory (v86StackLinear host cpu stackPointer) .word (value.setWidth 32)
  assignRegister x86RegSp (stackPointer.setWidth 32)

/-- `CS` and a return offset pushed as two words, the stack pointer stored after both. -/
def v86PushFarFrame (nextIp : Word) : V86Action Unit := do
  let cpu ← getCpu
  let first := v86Below cpu .word
  v86WriteMemory (v86StackLinear host cpu first) .word ((cpu.segments x86SregCs).setWidth 32)
  let second := first - 2
  v86WriteMemory (v86StackLinear host cpu second) .word (nextIp.setWidth 32)
  setStackPointer second

/-- `CS` and a return offset pushed as two dwords. -/
def v86PushFarFrame32 (nextIp : Word) : V86Action Unit := do
  let cpu ← getCpu
  v86Push host .dword ((cpu.segments x86SregCs).setWidth 32)
  v86Push host .dword (nextIp.setWidth 32)

def v86JumpFar (segment target : Word) : V86Action Unit := do
  setSegment x86SregCs segment
  setIp target

/-- Group 5 past `INC` and `DEC`, at operand size 32. -/
def v86Group5Wide (modrm : V86Modrm) : V86Action Unit := do
  let value ← v86ReadRm host modrm .dword
  let cpu ← getCpu
  let nextIp := cpu.ip + BitVec.ofNat 16 (offset + modrm.length)
  if modrm.register = x86Group5Call ∨ modrm.register = x86Group5Jmp then do
    declineIf (v86OffsetMax < value)
    onlyIf (modrm.register = x86Group5Call) (v86Push host .dword (nextIp.setWidth 32))
    setIp (value.setWidth 16)
  else if modrm.register = x86Group5Push then do
    v86Push host .dword value
    setIp nextIp
  else if (modrm.register = 3 ∨ modrm.register = 5) ∧ modrm.isMemory ∧
      host.segmentToLinear.isNone then do
    let segment ← v86ReadMemory host (modrm.linear + 4) .word
    declineIf (v86OffsetMax < value)
    onlyIf (modrm.register = 3) (v86PushFarFrame32 host nextIp)
    v86JumpFar (segment.setWidth 16) (value.setWidth 16)
  else decline

/-- Group 5 past `INC` and `DEC`, at operand size 16. -/
def v86Group5Narrow (modrm : V86Modrm) : V86Action Unit := do
  let operand ← v86ReadRm host modrm .word
  let value : Word := operand.setWidth 16
  let cpu ← getCpu
  let nextIp := cpu.ip + BitVec.ofNat 16 (offset + modrm.length)
  if modrm.register = x86Group5Call then do
    v86PushWordWhole host nextIp
    setIp value
  else if modrm.register = x86Group5Jmp then setIp value
  else if modrm.register = x86Group5Push then do
    v86PushWordWhole host value
    setIp nextIp
  else if (modrm.register = 3 ∨ modrm.register = 5) ∧ modrm.isMemory ∧
      host.segmentToLinear.isNone then do
    let segment ← v86ReadMemory host (modrm.linear + 2) .word
    onlyIf (modrm.register = 3) (v86PushFarFrame host nextIp)
    v86JumpFar (segment.setWidth 16) value
  else decline

def v86Group45 : V86Action Unit := do
  let width : Width := if opcode = x86OpGroup4 then .byte else instruction.operandSize
  let modrm ← v86DecodeModrm host instruction offset
  modrm.declineBeyondGuest
  if modrm.register = 0 ∨ modrm.register = 1 then v86IncDecRm host offset modrm width
  else if opcode ≠ x86OpGroup5 then decline
  else if instruction.isOperand32 then v86Group5Wide host offset modrm
  else v86Group5Narrow host offset modrm

/-- `Jcc rel8`. -/
def v86JccShort : V86Action Unit := do
  let relative ← v86CodeByte host instruction offset
  let cpu ← getCpu
  let isTaken := v86Condition cpu (conditionOf opcode)
  setIp (cpu.ip + BitVec.ofNat 16 (offset + 1) +
    (if isTaken then relative.signExtend 16 else 0))

/-- `JMP rel8`. -/
def v86JmpShort : V86Action Unit := do
  let relative ← v86CodeByte host instruction offset
  let cpu ← getCpu
  setIp (cpu.ip + BitVec.ofNat 16 (offset + 1) + relative.signExtend 16)

/-- `JMP rel32` and `CALL rel32`. -/
def v86JmpCall32 : V86Action Unit := do
  let cpu ← getCpu
  let nextIp := (cpu.ip + BitVec.ofNat 16 (offset + 4)).setWidth 32
  let relative ←
    v86ReadMemory host (instruction.codeLinear + BitVec.ofNat 32 offset) .dword
  let target := nextIp + relative
  declineIf (v86OffsetMax < target)
  onlyIf (opcode = x86OpCall) (v86Push host .dword nextIp)
  setIp (target.setWidth 16)

/-- `JMP rel16`. -/
def v86Jmp16 : V86Action Unit := do
  let relative ← v86CodeWord host instruction offset
  let cpu ← getCpu
  setIp (cpu.ip + BitVec.ofNat 16 (offset + 2) + relative)

/-- `CALL rel16`. -/
def v86Call16 : V86Action Unit := do
  let relative ← v86CodeWord host instruction offset
  let cpu ← getCpu
  let nextIp := cpu.ip + BitVec.ofNat 16 (offset + 2)
  v86Push host .word (nextIp.setWidth 32)
  setIp (nextIp + relative)

/-- `LOOPNE`, `LOOPE`, `LOOP` and `JCXZ`, given the counter after its decrement. -/
def v86LoopTaken (cpu : V86Cpu) : Bool :=
  let isCountNonZero : Bool := v86Get16 cpu x86RegCx ≠ 0
  if opcode = x86OpJcxz then !isCountNonZero
  else if opcode = x86OpLoop then isCountNonZero
  else if opcode = x86OpLoope then isCountNonZero && hasFlag cpu.flags eflagsZf
  else isCountNonZero && !hasFlag cpu.flags eflagsZf

def v86Loop : V86Action Unit := do
  let relative ← v86CodeByte host instruction offset
  let cpu ← getCpu
  onlyIf (opcode ≠ x86OpJcxz) (set16 x86RegCx (v86Get16 cpu x86RegCx - 1))
  let counted ← getCpu
  setIp (counted.ip + BitVec.ofNat 16 (offset + 1) +
    (if v86LoopTaken opcode counted then relative.signExtend 16 else 0))

/-! ## Returns -/

def v86ExtraPop (immediateOpcode : Byte) : V86Action Word :=
  if opcode = immediateOpcode then v86CodeWord host instruction offset else return 0

/-- `RET`, at operand size 32. -/
def v86Ret32 : V86Action Unit := do
  let cpu ← getCpu
  let stackPointer := v86Get16 cpu x86RegSp
  let target ← v86ReadMemory host (v86StackLinear host cpu stackPointer) .dword
  declineIf (v86OffsetMax < target)
  let extraPop ← v86ExtraPop host instruction opcode offset x86OpRetImm
  setStackPointer (stackPointer + 4 + extraPop)
  setIp (target.setWidth 16)

/-- `RET`, at operand size 16. -/
def v86Ret16 : V86Action Unit := do
  let cpu ← getCpu
  let stackPointer := v86Get16 cpu x86RegSp
  let target ← v86ReadMemory host (v86StackLinear host cpu stackPointer) .word
  let extraPop ← v86ExtraPop host instruction opcode offset x86OpRetImm
  setStackPointer (stackPointer + 2 + extraPop)
  setIp (target.setWidth 16)

def v86Ret : V86Action Unit :=
  if instruction.isOperand32 then v86Ret32 host instruction opcode offset
  else v86Ret16 host instruction opcode offset

/-- `RETF`, at operand size 32. -/
def v86Retf32 : V86Action Unit := do
  let cpu ← getCpu
  let stackPointer := v86Get16 cpu x86RegSp
  let target ← v86ReadMemory host (v86StackLinear host cpu stackPointer) .dword
  let selector ← v86ReadMemory host (v86StackLinear host cpu (stackPointer + 4)) .word
  declineIf (if host.segmentToLinear.isSome then
      v86IsFarTargetValid host cpu (selector.setWidth 16) target = false
    else v86OffsetMax < target)
  let extraPop ← v86ExtraPop host instruction opcode offset x86OpRetfImm
  setStackPointer (stackPointer + 8 + extraPop)
  v86JumpFar (selector.setWidth 16) (target.setWidth 16)

/-- `RETF`, at operand size 16. -/
def v86Retf16 : V86Action Unit := do
  let cpu ← getCpu
  let stackPointer := v86Get16 cpu x86RegSp
  let target ← v86ReadMemory host (v86StackLinear host cpu stackPointer) .word
  let selector ← v86ReadMemory host (v86StackLinear host cpu (stackPointer + 2)) .word
  declineIf (host.segmentToLinear.isSome ∧
    v86IsFarTargetValid host cpu (selector.setWidth 16) target = false)
  let extraPop ← v86ExtraPop host instruction opcode offset x86OpRetfImm
  setStackPointer (stackPointer + 4 + extraPop)
  v86JumpFar (selector.setWidth 16) (target.setWidth 16)

def v86Retf : V86Action Unit :=
  if instruction.isOperand32 then v86Retf32 host instruction opcode offset
  else v86Retf16 host instruction opcode offset

/-! ## Interrupts -/

/-- The vector of `INT n` and `INT3`. -/
def v86Vector : V86Action Byte :=
  if opcode = x86OpInt3 then return 3 else v86CodeByte host instruction offset

def v86PushInterruptFrame (nextIp : Word) : V86Action Unit := do
  let cpu ← getCpu
  let first := v86Below cpu .word
  v86WriteMemory (v86StackLinear host cpu first) .word
    (cpu.flags &&& v86FlagsModelled ||| eflagsReservedOne)
  let second := first - 2
  v86WriteMemory (v86StackLinear host cpu second) .word ((cpu.segments x86SregCs).setWidth 32)
  let third := second - 2
  v86WriteMemory (v86StackLinear host cpu third) .word (nextIp.setWidth 32)
  setStackPointer third

/-- `INT n` and `INT3`. -/
def v86Int : V86Action Unit := do
  declineIf host.segmentToLinear.isSome
  let vector ← v86Vector host instruction opcode offset
  let cpu ← getCpu
  v86PushInterruptFrame host
    (cpu.ip + BitVec.ofNat 16 (offset + (if opcode = x86OpInt3 then 0 else 1)))
  setFlags fun flags => flags &&& ~~~(eflagsIf ||| eflagsTf)
  let target ← v86ReadMemory host (vector.setWidth 32 * 4) .word
  setIp (target.setWidth 16)
  let segment ← v86ReadMemory host (vector.setWidth 32 * 4 + 2) .word
  setSegment x86SregCs (segment.setWidth 16)

/-- `IRETD` in V86 mode. -/
def v86Iret32 : V86Action Unit := do
  let cpu ← getCpu
  let stackPointer := v86Get16 cpu x86RegSp
  let target ← v86ReadMemory host (v86StackLinear host cpu stackPointer) .dword
  let segment ← v86ReadMemory host (v86StackLinear host cpu (stackPointer + 4)) .word
  let newFlags ← v86ReadMemory host (v86StackLinear host cpu (stackPointer + 8)) .dword
  declineIf (v86OffsetMax < target)
  setIp (target.setWidth 16)
  setSegment x86SregCs (segment.setWidth 16)
  loadFlags newFlags .dword
  setStackPointer (stackPointer + 12)

/-- `IRET` in protected mode. -/
def v86IretProtected : V86Action Unit := do
  let cpu ← getCpu
  let stackPointer := v86Get16 cpu x86RegSp
  let target ← v86ReadMemory host (v86StackLinear host cpu stackPointer) .word
  let selector ← v86ReadMemory host (v86StackLinear host cpu (stackPointer + 2)) .word
  let newFlags ← v86ReadMemory host (v86StackLinear host cpu (stackPointer + 4)) .word
  declineIf (v86IsFarTargetValid host cpu (selector.setWidth 16) target = false)
  setIp (target.setWidth 16)
  setSegment x86SregCs (selector.setWidth 16)
  loadFlags newFlags .word
  setStackPointer (stackPointer + 6)

/-- `IRET` in V86 mode. -/
def v86Iret16 : V86Action Unit := do
  let cpu ← getCpu
  let stackPointer := v86Get16 cpu x86RegSp
  let target ← v86ReadMemory host (v86StackLinear host cpu stackPointer) .word
  setIp (target.setWidth 16)
  let segment ← v86ReadMemory host (v86StackLinear host cpu (stackPointer + 2)) .word
  setSegment x86SregCs (segment.setWidth 16)
  let newFlags ← v86ReadMemory host (v86StackLinear host cpu (stackPointer + 4)) .word
  loadFlags newFlags .word
  setStackPointer (stackPointer + 6)

/-- `IRET`. -/
def v86Iret : V86Action Unit :=
  if instruction.isOperand32 ∧ host.segmentToLinear.isNone then v86Iret32 host
  else if instruction.isOperand32 then decline
  else if host.segmentToLinear.isSome then v86IretProtected host
  else v86Iret16 host

/-- `JMP ptr16:32` and `CALL ptr16:32` in V86 mode. -/
def v86Far32 : V86Action Unit := do
  let target ← v86ReadMemory host (instruction.codeLinear + BitVec.ofNat 32 offset) .dword
  let segment ← v86CodeWord host instruction (offset + 4)
  let cpu ← getCpu
  declineIf (v86OffsetMax < target)
  onlyIf (opcode = x86OpCallFar)
    (v86PushFarFrame32 host (cpu.ip + BitVec.ofNat 16 (offset + 6)))
  v86JumpFar segment (target.setWidth 16)

/-- `JMP ptr16:16` and `CALL ptr16:16`. -/
def v86Far16 : V86Action Unit := do
  declineIf (instruction.isOperand32 ∨ host.segmentToLinear.isSome)
  let target ← v86CodeWord host instruction offset
  let segment ← v86CodeWord host instruction (offset + 2)
  let cpu ← getCpu
  onlyIf (opcode = x86OpCallFar)
    (v86PushFarFrame host (cpu.ip + BitVec.ofNat 16 (offset + 4)))
  v86JumpFar segment target

def v86Far : V86Action Unit :=
  if instruction.isOperand32 ∧ host.segmentToLinear.isNone then
    v86Far32 host instruction opcode offset
  else v86Far16 host instruction opcode offset

end Ntvdmex.Host.V86
