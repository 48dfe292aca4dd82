import Ntvdmex.Host.Pm32.Cpu

/-!
# Operands of the 32-bit interpreter

What every instruction of `Pm32Step` is made of: the code bytes, the ModRM operand and its
probe, the stack, and the changes of the processor.
-/

namespace Ntvdmex.Host.Pm32

open Foundation Interp

def setRegister (index : Nat) (width : Width) (value : Dword) : Pm32Action Unit :=
  modifyCpu fun cpu => pm32SetRegister cpu index value width

/-- `Registers[index] = value`. -/
def assignRegister (index : Nat) (value : Dword) : Pm32Action Unit :=
  modifyCpu fun cpu => cpu.assign index value

def setFlags (flags : Dword) : Pm32Action Unit := modifyCpu fun cpu => { cpu with flags }

def setEip (eip : Dword) : Pm32Action Unit := modifyCpu fun cpu => { cpu with eip }

/-- `PM32_DONE(offset)`. -/
def advance (offset : Nat) : Pm32Action Unit :=
  modifyCpu fun cpu => { cpu with eip := cpu.eip + BitVec.ofNat 32 offset }

/-! ## The instruction stream -/

/-- What the prefixes of an instruction leave, and the linear address of its first byte. -/
structure Pm32Instruction where
  codeLinear : Dword
  segmentOverride : Option Nat
  repeated : Nat
  isOperand16 : Bool

def Pm32Instruction.operandSize (instruction : Pm32Instruction) : Width :=
  if instruction.isOperand16 then .word else .dword

/-- The width of an opcode whose bit 0 selects byte or operand size. -/
def Pm32Instruction.widthOf (instruction : Pm32Instruction) (opcode : Byte) : Width :=
  if isWide opcode then instruction.operandSize else .byte

def Pm32Instruction.segmentOr (instruction : Pm32Instruction) (default : Nat) : Nat :=
  instruction.segmentOverride.getD default

variable (host : Pm32Host) (instruction : Pm32Instruction)

def pm32CodeByte (position : Nat) : Pm32Action Byte :=
  fetch host.toHost (instruction.codeLinear + BitVec.ofNat 32 position)

def pm32CodeImmediate (position : Nat) (width : Width) : Pm32Action Dword :=
  fetchMemory host.toHost (instruction.codeLinear + BitVec.ofNat 32 position) width

/-- A code byte, `(UINT32)(INT32)(INT8)`. -/
def pm32CodeSigned (position : Nat) : Pm32Action Dword := do
  let byte ← pm32CodeByte host instruction position
  return byte.signExtend 32

/-! ## ModRM -/

/-- `PM32_MODRM`. -/
structure Pm32Modrm where
  isMemory : Bool
  linear : Dword
  register : Nat
  registerMemory : Nat
  length : Nat

/-- An effective address, whether it defaults to the stack segment, and the bytes it takes. -/
structure Pm32Address where
  address : Dword
  isStackBased : Bool
  length : Nat

def pm32RegisterOperand (modrmByte : Byte) : Pm32Modrm where
  isMemory := false
  linear := 0
  register := modrmRegister modrmByte
  registerMemory := modrmRegisterMemory modrmByte
  length := 1

/-- The operand at an address. -/
def pm32MemoryOperand (cpu : Pm32Cpu) (modrmByte : Byte) (address : Pm32Address) : Pm32Modrm where
  isMemory := true
  linear :=
    cpu.segmentBases
        (instruction.segmentOr (if address.isStackBased then x86SregSs else x86SregDs)) +
      address.address
  register := modrmRegister modrmByte
  registerMemory := modrmRegisterMemory modrmByte
  length := address.length

/-- The base of a SIB byte at `position`. -/
def pm32SibBase (cpu : Pm32Cpu) (sib : Byte) (mode position : Nat) : Pm32Action Pm32Address :=
  if modrmRegisterMemory sib = x86RegBp ∧ mode = 0 then do
    let displacement ← pm32CodeImmediate host instruction (position + 1) .dword
    return { address := displacement, isStackBased := false, length := 6 }
  else
    return {
      address := cpu.registers (modrmRegisterMemory sib)
      isStackBased :=
        modrmRegisterMemory sib = x86RegSp ∨ modrmRegisterMemory sib = x86RegBp
      length := 2 }

def pm32BaseAddress (cpu : Pm32Cpu) (modrmByte : Byte) (offset : Nat) : Pm32Action Pm32Address :=
  if modrmRegisterMemory modrmByte = pm32RmSib then do
    let sib ← pm32CodeByte host instruction (offset + 1)
    let base ← pm32SibBase host instruction cpu sib (modrmMode modrmByte) (offset + 1)
    return { base with
      address := base.address +
        (if modrmRegister sib = pm32SibNoIndex then 0
        else cpu.registers (modrmRegister sib) <<< modrmMode sib) }
  else if modrmRegisterMemory modrmByte = pm32RmDisp32 ∧ modrmMode modrmByte = 0 then do
    let displacement ← pm32CodeImmediate host instruction (offset + 1) .dword
    return { address := displacement, isStackBased := false, length := 5 }
  else
    return {
      address := cpu.registers (modrmRegisterMemory modrmByte)
      isStackBased := modrmRegisterMemory modrmByte = pm32RmDisp32
      length := 1 }

def pm32Displace (mode offset : Nat) (base : Pm32Address) : Pm32Action Pm32Address :=
  if mode = x86ModeDisp8 then do
    let displacement ← pm32CodeSigned host instruction (offset + base.length)
    return { base with address := base.address + displacement, length := base.length + 1 }
  else if mode = pm32ModeDispFull then do
    let displacement ← pm32CodeImmediate host instruction (offset + base.length) .dword
    return { base with address := base.address + displacement, length := base.length + 4 }
  else return base

def pm32Decode (offset : Nat) : Pm32Action Pm32Modrm := do
  let modrmByte ← pm32CodeByte host instruction offset
  if modrmMode modrmByte = x86ModeRegister then return pm32RegisterOperand modrmByte
  else
    let cpu ← getCpu
    let base ← pm32BaseAddress host instruction cpu modrmByte offset
    let address ← pm32Displace host instruction (modrmMode modrmByte) offset base
    return pm32MemoryOperand instruction cpu modrmByte address

variable (cpu : Pm32Cpu) (modrm : Pm32Modrm) (width : Width)

/-- `if (modrm.IsMemory && !Pm32HostCanAccess(modrm.Linear, width, isWrite)) return 0`. -/
def pm32ProbeRm (isWrite : Bool) : Pm32Action Unit :=
  onlyIf modrm.isMemory (probe host.canAccess modrm.linear width.bytes isWrite)

/-- The operand's value. -/
def pm32ReadRm : Pm32Action Dword :=
  if modrm.isMemory then readMemory host.toHost modrm.linear width
  else do
    let cpu ← getCpu
    return pm32GetRegister cpu modrm.registerMemory width

def pm32WriteRm (value : Dword) : Pm32Action Unit :=
  if modrm.isMemory then writeMemory modrm.linear value width
  else setRegister modrm.registerMemory width value

/-- `SegmentBases[X86_SREG_SS] + Registers[X86_REG_SP]`. -/
def pm32StackTop : Dword := cpu.segmentBases x86SregSs + cpu.registers x86RegSp

/-- `Pm32CanPush`. -/
def pm32CanPush : Pm32Action Unit :=
  probe host.canAccess (pm32StackTop cpu - BitVec.ofNat 32 width.bytes) width.bytes true

/-- `Pm32Push`, from the stack pointer given. -/
def pm32PushFrom (stackBase stackPointer : Dword) (width : Width) (value : Dword) :
    Pm32Action Unit := do
  assignRegister x86RegSp (stackPointer - BitVec.ofNat 32 width.bytes)
  writeMemory (stackBase + (stackPointer - BitVec.ofNat 32 width.bytes)) value width

def pm32Push (value : Dword) : Pm32Action Unit :=
  pm32PushFrom (cpu.segmentBases x86SregSs) (cpu.registers x86RegSp) width value

/-- `Pm32Pop`, from the stack pointer given. -/
def pm32PopFrom (stackBase stackPointer : Dword) (width : Width) : Pm32Action Dword := do
  let value ← readMemory host.toHost (stackBase + stackPointer) width
  assignRegister x86RegSp (stackPointer + BitVec.ofNat 32 width.bytes)
  return value

def pm32Pop : Pm32Action Dword :=
  pm32PopFrom host (cpu.segmentBases x86SregSs) (cpu.registers x86RegSp) width

end Ntvdmex.Host.Pm32
