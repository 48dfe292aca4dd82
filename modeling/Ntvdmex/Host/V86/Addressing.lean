import Ntvdmex.Host.V86.Step

/-!
# The memory operand of an instruction

What the instruction at `CS:IP` addresses with a ModRM byte or with an absolute offset, decoded as
`V86Step` decodes it, and the bytes of the segment it is in.
-/

namespace Ntvdmex.Host.V86

open Foundation Interp

/-- A memory operand.  `reach` is how many bytes from the effective address on the instruction
reads or writes without a look at the end of the segment.  The reads and the writes that are not
the operand's are the stack's. -/
structure V86Addressing where
  linear : Dword
  effectiveAddress : Dword
  reach : Nat
  ownsReads : Bool
  ownsWrites : Bool

namespace V86Addressing

variable (addressing : V86Addressing)

def owns (isWrite : Bool) : Bool :=
  if isWrite then addressing.ownsWrites else addressing.ownsReads

/-- What a read or a write of the operand may touch: the bytes `segment * 16 + e`, with `e` up to
FFFFh, of the segment that the operand's address is in. -/
def segmentBytes (cpu : V86Cpu) : Set (Dword × Bool) :=
  {byte | addressing.owns byte.2 = true → ∃ index e : Nat, e ≤ 0xFFFF ∧
    addressing.linear =
      (cpu.segments index).setWidth 32 * 16 + addressing.effectiveAddress ∧
    byte.1 = (cpu.segments index).setWidth 32 * 16 + BitVec.ofNat 32 e}

/-- The operand ends by the end of its segment, or starts past it. -/
def Fits : Prop :=
  0xFFFF < addressing.effectiveAddress.toNat ∨
    addressing.effectiveAddress.toNat + addressing.reach ≤ 0x10000
deriving Decidable

end V86Addressing

def V86Modrm.addressing (modrm : V86Modrm) (reach : Nat) (ownsReads ownsWrites : Bool) :
    Option V86Addressing :=
  if modrm.isMemory then
    some {
      linear := modrm.linear
      effectiveAddress := modrm.effectiveAddress
      reach, ownsReads, ownsWrites }
  else none

variable (host : V86Host) (instruction : V86Instruction) (opcode opcode2 : Byte) (offset : Nat)

/-- The opcodes with a ModRM byte, `LES` and `LDS` apart. -/
def v86HasModrm : Bool :=
  (opcode < x86OpIncFirst && opcodeLow opcode ≤ 3) ||
    (x86OpTestByte ≤ opcode && opcode ≤ x86OpPopRm) ||
    (x86OpShiftOneByte ≤ opcode && opcode ≤ x86OpShiftCl) ||
    opcode ∈ [x86OpGroup1Imm8, x86OpGroup1Imm, x86OpGroup1Simm8, x86OpImulImm, x86OpImulImm8,
      x86OpShiftImmByte, x86OpShiftImm, x86OpMovImmRmByte, x86OpMovImmRm, x86OpGroup3Byte,
      x86OpGroup3, x86OpGroup4, x86OpGroup5]

/-- How far an opcode reaches, given the reg field; 0 where it declines. -/
def v86Reach (register : Nat) : Nat :=
  let width := (instruction.widthOf opcode).bytes
  if opcode = x86OpLea then 0
  else if opcode = x86OpMovFromSreg then (if register ≤ x86SregGs then 2 else 0)
  else if opcode = x86OpMovToSreg then
    (if register ≤ x86SregGs ∧ register ≠ x86SregCs then 2 else 0)
  else if opcode = x86OpMovImmRmByte ∨ opcode = x86OpMovImmRm ∨ opcode = x86OpPopRm then
    (if register = 0 then width else 0)
  else if opcode = x86OpGroup4 then (if register ≤ 1 then width else 0)
  else if opcode = x86OpGroup5 then (if register = 3 ∨ register = 5 then width + 2 else width)
  else width

/-- `POP r/m` reads the stack, and group 5 past `INC` and `DEC` writes it. -/
def v86ModrmAddressing : V86Action (Option V86Addressing) := do
  let modrm ← v86DecodeModrm host instruction offset
  return modrm.addressing (v86Reach instruction opcode modrm.register) (opcode ≠ x86OpPopRm)
    (opcode ≠ x86OpGroup5 ∨ modrm.register ≤ 1)

/-- The far pointer of `LES` and `LDS`, after a look at the bytes of a BOP. -/
def v86FarPointerAddressing : V86Action (Option V86Addressing) := do
  let second ← v86CodeByte host instruction offset
  declineIf (second = vdmBop1)
  let modrmByte ← v86CodeByte host instruction offset
  declineIf (modrmMode modrmByte = x86ModeRegister)
  let modrm ← v86DecodeModrm host instruction offset
  return modrm.addressing (instruction.operandSize.bytes + 2) true true

def v86MoffsAddressing : V86Action (Option V86Addressing) := do
  let address ← v86CodeWord host instruction offset
  let cpu ← getCpu
  return some {
    linear := v86SegmentBase host (cpu.segments (instruction.segmentOr x86SregDs)) +
      address.setWidth 32
    effectiveAddress := address.setWidth 32
    reach := (instruction.widthOf opcode).bytes
    ownsReads := true
    ownsWrites := true }

def v86OneByteAddressing : V86Action (Option V86Addressing) :=
  if x86OpMovFromMoffsByte ≤ opcode ∧ opcode ≤ x86OpMovToMoffs then
    v86MoffsAddressing host instruction opcode offset
  else if opcode = x86OpLes ∨ opcode = x86OpLds then
    v86FarPointerAddressing host instruction offset
  else if v86HasModrm opcode then v86ModrmAddressing host instruction opcode offset
  else return none

def v86HasModrmTwoByte : Bool :=
  (x86Op2SetccFirst ≤ opcode2 && opcode2 ≤ x86Op2SetccLast) ||
    opcode2 ∈ [x86Op2MovzxByte, x86Op2MovzxWord, x86Op2MovsxByte, x86Op2MovsxWord, v86Op2Lar,
      v86Op2Lsl, v86Op2Bt, v86Op2Bts, v86Op2Btr, v86Op2Btc, v86Op2BtGroup, v86Op2Bsf, v86Op2Bsr,
      v86Op2ShldImm, v86Op2ShldCl, v86Op2ShrdImm, v86Op2ShrdCl, v86Op2Lss, v86Op2Lfs, v86Op2Lgs]

def v86DoubleShiftReach (modrm : V86Modrm) : V86Action Nat := do
  let count ← v86DoubleShiftCount host instruction opcode2 (offset + modrm.length)
  return if count.value = 0 ∨ instruction.operandSize.bits < count.value then 0
    else instruction.operandSize.bytes

def v86TwoByteReach (modrm : V86Modrm) : V86Action Nat :=
  if x86Op2SetccFirst ≤ opcode2 ∧ opcode2 ≤ x86Op2SetccLast then return 1
  else if opcode2 = x86Op2MovzxByte ∨ opcode2 = x86Op2MovsxByte then return 1
  else if opcode2 = x86Op2MovzxWord ∨ opcode2 = x86Op2MovsxWord then return 2
  else if opcode2 = v86Op2Lar ∨ opcode2 = v86Op2Lsl then
    return if host.selectorDescriptor.isSome then 2 else 0
  else if opcode2 = v86Op2Bsf ∨ opcode2 = v86Op2Bsr then return instruction.operandSize.bytes
  else if opcode2 = v86Op2ShldImm ∨ opcode2 = v86Op2ShldCl ∨ opcode2 = v86Op2ShrdImm ∨
      opcode2 = v86Op2ShrdCl then
    v86DoubleShiftReach host instruction opcode2 offset modrm
  else if opcode2 = v86Op2Lss ∨ opcode2 = v86Op2Lfs ∨ opcode2 = v86Op2Lgs then
    return instruction.operandSize.bytes + 2
  else return 0

def v86TwoByteAddressing : V86Action (Option V86Addressing) :=
  if v86HasModrmTwoByte opcode2 then do
    let modrm ← v86DecodeModrm host instruction offset
    let reach ← v86TwoByteReach host instruction opcode2 offset modrm
    return modrm.addressing reach true true
  else return none

/-- The operand of the instruction after its prefixes. -/
def v86OpcodeAddressing : V86Action (Option V86Addressing) := do
  let opcode ← v86CodeByte host instruction offset
  declineIf (instruction.isAddress32 ∧ v86HasImplicitAddress opcode)
  onlyIf instruction.isLocked (v86JudgeLock host instruction opcode (offset + 1))
  if opcode = x86Escape then do
    let opcode2 ← v86CodeByte host instruction (offset + 1)
    v86TwoByteAddressing host instruction opcode2 (offset + 2)
  else v86OneByteAddressing host instruction opcode (offset + 1)

/-- The memory operand of the instruction at `CS:IP`, `none` where it has none. -/
def v86Addressing : V86Action (Option V86Addressing) := do
  let cpu ← getCpu
  declineIf (hasFlag cpu.flags eflagsTf)
  let prefixed ← v86TakePrefixes host (x86PrefixesMax + 1) (v86Bare host cpu) 0
  v86OpcodeAddressing host prefixed.instruction prefixed.offset

end Ntvdmex.Host.V86
