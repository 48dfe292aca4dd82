import Ntvdmex.Host.V86.TwoByte
import Ntvdmex.Host.V86.Moves
import Ntvdmex.Host.V86.Transfers

/-!
# One step of the 16-bit interpreter (`V86Step` of `v86interp.h`)

The prefixes, what `LOCK` and 0x67 allow, and the ladder of opcodes.  A step that ends is a
return of 1, a declined one a return of 0.
-/

namespace Ntvdmex.Host.V86

open Foundation Interp

variable (host : V86Host)

/-- The instruction with a prefix byte; `none` when the byte is not a prefix. -/
def v86TakePrefix (instruction : V86Instruction) (byte : Byte) : Option V86Instruction :=
  if byte = x86PrefixEs then some { instruction with segmentOverride := some x86SregEs }
  else if byte = x86PrefixCs then some { instruction with segmentOverride := some x86SregCs }
  else if byte = x86PrefixSs then some { instruction with segmentOverride := some x86SregSs }
  else if byte = x86PrefixDs then some { instruction with segmentOverride := some x86SregDs }
  else if byte = x86PrefixFs then some { instruction with segmentOverride := some x86SregFs }
  else if byte = x86PrefixGs then some { instruction with segmentOverride := some x86SregGs }
  else if byte = x86PrefixRep then some { instruction with repeated := x86RepeatRep }
  else if byte = x86PrefixRepne then some { instruction with repeated := x86RepeatRepne }
  else if byte = x86PrefixOperandSize then some { instruction with isOperand32 := true }
  else if byte = x86PrefixAddressSize then some { instruction with isAddress32 := true }
  else if byte = x86PrefixLock then some { instruction with isLocked := true }
  else none

/-- The prefixes of an instruction, and the position of its opcode. -/
structure V86Prefixed where
  instruction : V86Instruction
  offset : Nat

/-- The prefix loop, which gives up after `X86_PREFIXES_MAX` prefixes. -/
def v86TakePrefixes : Nat → V86Instruction → Nat → V86Action V86Prefixed
  | 0, _, _ => decline
  | rounds + 1, instruction, offset => do
    let byte ← v86CodeByte host instruction offset
    declineIf (byte = x86PrefixAddressSize ∧ host.segmentToLinear.isSome)
    match v86TakePrefix instruction byte with
    | none => return { instruction, offset }
    | some taken => do
      declineIf (x86PrefixesMax < offset + 1)
      v86TakePrefixes rounds taken (offset + 1)

def v86HasImplicitAddress (opcode : Byte) : Bool :=
  (x86OpMovFromMoffsByte ≤ opcode && opcode ≤ x86OpCmps) ||
    (x86OpStosb ≤ opcode && opcode ≤ x86OpScas) ||
    (x86OpInsb ≤ opcode && opcode ≤ x86OpOuts) || opcode == x86OpXlat ||
    (x86OpLoopne ≤ opcode && opcode ≤ x86OpJcxz)

/-- Whether `LOCK` is legal on a two-byte opcode with a memory operand. -/
def v86IsLockableTwoByte (opcode2 : Byte) (operation : Nat) : Bool :=
  opcode2 == v86Op2Bts || opcode2 == v86Op2Btr || opcode2 == v86Op2Btc ||
    (opcode2 == v86Op2BtGroup && v86BtGroupFirst < operation) ||
    opcode2 == v86Op2CmpxchgByte || opcode2 == v86Op2Cmpxchg ||
    opcode2 == v86Op2XaddByte || opcode2 == v86Op2Xadd ||
    (opcode2 == v86Op2Group9 && operation == 1)

/-- Whether `LOCK` is legal on a one-byte opcode with a memory operand. -/
def v86IsLockableOneByte (opcode : Byte) (operation : Nat) : Bool :=
  if opcode < x86OpIncFirst ∧ opcodeLow opcode ≤ 1 then opcode.toNat / 8 ≠ x86AluCmp
  else if opcode = x86OpGroup1Imm8 ∨ opcode = x86OpGroup1Imm ∨ opcode = x86OpGroup1Simm8 then
    operation ≠ x86AluCmp
  else if opcode = x86OpGroup3Byte ∨ opcode = x86OpGroup3 then
    operation = x86Group3Not ∨ operation = x86Group3Neg
  else if opcode = x86OpGroup4 ∨ opcode = x86OpGroup5 then operation ≤ 1
  else opcode = x86OpXchgByte ∨ opcode = x86OpXchg

/-- `V86IsLockable`: `offset` is the position after the opcode. -/
def v86IsLockable (instruction : V86Instruction) (opcode : Byte) (offset : Nat) :
    V86Action Bool :=
  if opcode = x86Escape then do
    let opcode2 ← v86CodeByte host instruction offset
    let modrmByte ← v86CodeByte host instruction (offset + 1)
    return modrmMode modrmByte ≠ x86ModeRegister &&
      v86IsLockableTwoByte opcode2 (modrmRegister modrmByte)
  else do
    let modrmByte ← v86CodeByte host instruction offset
    return modrmMode modrmByte ≠ x86ModeRegister &&
      v86IsLockableOneByte opcode (modrmRegister modrmByte)

/-- Declines a `LOCK` that is not legal. -/
def v86JudgeLock (instruction : V86Instruction) (opcode : Byte) (offset : Nat) :
    V86Action Unit := do
  let isLockable ← v86IsLockable host instruction opcode offset
  declineIf (isLockable = false)

/-! ## The ladder -/

variable (instruction : V86Instruction) (opcode : Byte) (offset : Nat)

/-- `LES` and `LDS` with a memory operand that is not a BOP. -/
def v86LesLdsUnlessBop : V86Action Unit := do
  let second ← v86CodeByte host instruction offset
  declineIf (second = vdmBop1)
  let modrmByte ← v86CodeByte host instruction offset
  declineIf (modrmMode modrmByte = x86ModeRegister)
  v86LesLds host instruction opcode offset

/-- The last blocks of the ladder: flags, interrupts and far transfers. -/
def v86SystemOpcode : V86Action Unit :=
  if opcode = x86OpNop then advance offset
  else if opcode = x86OpClc then v86FlagInstruction offset fun flags => flags &&& ~~~eflagsCf
  else if opcode = x86OpStc then v86FlagInstruction offset fun flags => flags ||| eflagsCf
  else if opcode = x86OpCmc then v86FlagInstruction offset fun flags => flags ^^^ eflagsCf
  else if opcode = x86OpCld then v86FlagInstruction offset fun flags => flags &&& ~~~eflagsDf
  else if opcode = x86OpStd then v86FlagInstruction offset fun flags => flags ||| eflagsDf
  else if opcode = x86OpInt ∨ opcode = x86OpInt3 then v86Int host instruction opcode offset
  else if opcode = x86OpIret then v86Iret host instruction
  else if opcode = x86OpJmpFar ∨ opcode = x86OpCallFar then v86Far host instruction opcode offset
  else if opcode = x86OpCli then v86FlagInstruction offset fun flags => flags &&& ~~~eflagsIf
  else if opcode = x86OpSti then v86FlagInstruction offset fun flags => flags ||| eflagsIf
  else decline

/-- The near transfers of control, and what stands among them in the ladder. -/
def v86ControlOpcode : V86Action Unit :=
  if x86OpJccShortFirst ≤ opcode ∧ opcode ≤ x86OpJccShortLast then
    v86JccShort host instruction opcode offset
  else if opcode = x86OpJmpShort then v86JmpShort host instruction offset
  else if (opcode = x86OpJmp ∨ opcode = x86OpCall) ∧ instruction.isOperand32 then
    v86JmpCall32 host instruction opcode offset
  else if opcode = x86OpJmp then v86Jmp16 host instruction offset
  else if opcode = x86OpCall then v86Call16 host instruction offset
  else if opcode = x86OpRet ∨ opcode = x86OpRetImm then v86Ret host instruction opcode offset
  else if opcode = x86OpRetf ∨ opcode = x86OpRetfImm then v86Retf host instruction opcode offset
  else if opcode = x86OpEnter then v86Enter host instruction offset
  else if opcode = x86OpLeave then v86Leave host instruction offset
  else if opcode = x86OpPopRm then v86PopRm host instruction offset
  else if opcode = x86OpWait then advance offset
  else if opcode = x86OpLahf then v86Lahf offset
  else if opcode = x86OpSahf then v86Sahf offset
  else if opcode = x86OpCbw then v86Cbw instruction offset
  else if opcode = x86OpCwd then v86Cwd instruction offset
  else if opcode = x86OpImulImm ∨ opcode = x86OpImulImm8 then
    v86Imul host instruction opcode offset
  else if opcode = x86OpXlat then v86Xlat host instruction offset
  else if opcode = x86OpLes ∨ opcode = x86OpLds then
    v86LesLdsUnlessBop host instruction opcode offset
  else if x86OpLoopne ≤ opcode ∧ opcode ≤ x86OpJcxz then v86Loop host instruction opcode offset
  else if x86OpXchgFirst ≤ opcode ∧ opcode ≤ x86OpXchgLast then
    v86XchgAccumulator instruction opcode offset
  else v86SystemOpcode host instruction opcode offset

/-- The segment registers, `LEA`, shifts, ports, immediate moves and strings. -/
def v86DataOpcode : V86Action Unit :=
  if opcode = x86OpMovFromSreg ∨ opcode = x86OpMovToSreg then
    v86MovSreg host instruction opcode offset
  else if opcode = x86OpLea then v86Lea host instruction offset
  else if opcode = x86OpShiftOneByte ∨ opcode = x86OpShiftOne ∨ opcode = x86OpShiftClByte ∨
      opcode = x86OpShiftCl ∨ opcode = x86OpShiftImmByte ∨ opcode = x86OpShiftImm then
    v86Group2 host instruction opcode offset
  else if opcode = x86OpInImmByte ∨ opcode = x86OpInImm ∨ opcode = x86OpInDxByte ∨
      opcode = x86OpInDx then
    v86In host instruction opcode offset
  else if opcode = x86OpOutImmByte ∨ opcode = x86OpOutImm ∨ opcode = x86OpOutDxByte ∨
      opcode = x86OpOutDx then
    v86Out host instruction opcode offset
  else if opcode = x86OpInsb ∨ opcode = x86OpIns then v86Ins host instruction opcode offset
  else if opcode = x86OpOutsb ∨ opcode = x86OpOuts then v86Outs host instruction opcode offset
  else if x86OpMovImmByteFirst ≤ opcode ∧ opcode ≤ x86OpMovImmByteLast then
    v86MovImmediate host instruction opcode offset .byte
  else if x86OpMovImmFirst ≤ opcode ∧ opcode ≤ x86OpMovImmLast then
    v86MovImmediate host instruction opcode offset instruction.operandSize
  else if x86OpMovFromMoffsByte ≤ opcode ∧ opcode ≤ x86OpMovToMoffs then
    v86MovMoffs host instruction opcode offset
  else if opcode = x86OpStosb ∨ opcode = x86OpStos then v86Stos host instruction opcode offset
  else if opcode = x86OpMovsb ∨ opcode = x86OpMovs then v86Movs host instruction opcode offset
  else if opcode = x86OpCmpsb ∨ opcode = x86OpCmps ∨ opcode = x86OpScasb ∨
      opcode = x86OpScas then
    v86Compare host instruction opcode offset
  else if opcode = x86OpLodsb ∨ opcode = x86OpLods then v86Lods host instruction opcode offset
  else v86ControlOpcode host instruction opcode offset

def v86StackOpcode : V86Action Unit :=
  if x86OpPushFirst ≤ opcode ∧ opcode ≤ x86OpPushLast then
    v86PushRegister host instruction opcode offset
  else if x86OpPopFirst ≤ opcode ∧ opcode ≤ x86OpPopLast then
    v86PopRegister host instruction opcode offset
  else if opcode = x86OpPushImm ∨ opcode = x86OpPushImm8 then
    v86PushImmediate host instruction opcode offset
  else if opcode = x86OpPushf then v86Pushf host instruction offset
  else if opcode = x86OpPopf then v86Popf host instruction offset
  else if opcode = x86OpPusha then v86Pusha host instruction offset
  else if opcode = x86OpPopa then v86Popa host instruction offset
  else if opcode = x86OpPushEs ∨ opcode = x86OpPushCs ∨ opcode = x86OpPushSs ∨
      opcode = x86OpPushDs then
    v86PushSreg host instruction opcode offset
  else if opcode = x86OpPopEs ∨ opcode = x86OpPopSs ∨ opcode = x86OpPopDs then
    v86PopSreg host instruction opcode offset
  else v86DataOpcode host instruction opcode offset

def v86OneByte : V86Action Unit :=
  if opcode < x86OpIncFirst ∧ opcodeLow opcode < 6 then
    v86AluForm host instruction opcode offset
  else if opcode = x86OpGroup1Imm8 ∨ opcode = x86OpGroup1Imm ∨ opcode = x86OpGroup1Simm8 then
    v86Group1 host instruction opcode offset
  else if x86OpIncFirst ≤ opcode ∧ opcode ≤ x86OpDecLast then
    v86IncDec instruction opcode offset
  else if opcode = x86OpGroup4 ∨ opcode = x86OpGroup5 then
    v86Group45 host instruction opcode offset
  else if opcode = x86OpTestByte ∨ opcode = x86OpTest then v86Test host instruction opcode offset
  else if opcode = x86OpTestImmByte ∨ opcode = x86OpTestImm then
    v86TestImmediate host instruction opcode offset
  else if opcode = x86OpGroup3Byte ∨ opcode = x86OpGroup3 then
    v86Group3 host instruction opcode offset
  else if opcode = x86OpMovToRmByte ∨ opcode = x86OpMovToRm ∨ opcode = x86OpMovFromRmByte ∨
      opcode = x86OpMovFromRm then
    v86Mov host instruction opcode offset
  else if opcode = x86OpMovImmRmByte ∨ opcode = x86OpMovImmRm then
    v86MovImmediateRm host instruction opcode offset
  else if opcode = x86OpXchgByte ∨ opcode = x86OpXchg then v86Xchg host instruction opcode offset
  else v86StackOpcode host instruction opcode offset

def v86Opcode : V86Action Unit := do
  let opcode ← v86CodeByte host instruction offset
  declineIf (instruction.isAddress32 ∧ v86HasImplicitAddress opcode)
  onlyIf instruction.isLocked (v86JudgeLock host instruction opcode (offset + 1))
  if opcode = x86Escape then do
    let opcode2 ← v86CodeByte host instruction (offset + 1)
    v86TwoByte host instruction opcode2 (offset + 2)
  else v86OneByte host instruction opcode (offset + 1)

/-- The instruction at `CS:IP`, before any prefix. -/
def v86Bare (cpu : V86Cpu) : V86Instruction where
  codeLinear := v86SegmentBase host (cpu.segments x86SregCs) + cpu.ip.setWidth 32
  segmentOverride := none
  repeated := 0
  isOperand32 := false
  isAddress32 := false
  isLocked := false

def v86Step : V86Action Unit := do
  let cpu ← getCpu
  declineIf (hasFlag cpu.flags eflagsTf)
  let prefixed ← v86TakePrefixes host (x86PrefixesMax + 1) (v86Bare host cpu) 0
  v86Opcode host prefixed.instruction prefixed.offset

end Ntvdmex.Host.V86
