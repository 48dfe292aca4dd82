import Ntvdmex.Host.V86.Cpu

/-!
# Operands of the 16-bit interpreter

What every instruction of `V86Step` is made of: the code bytes, the ModRM operand, the stack,
and the changes of the processor, one action each.
-/

namespace Ntvdmex.Host.V86

open Foundation Interp

/-! ## Changes of the processor -/

def setRegister (index : Nat) (width : Width) (value : Dword) : V86Action Unit :=
  modifyCpu fun cpu => v86SetRegister cpu index value width

/-- `Registers[index] = value`. -/
def assignRegister (index : Nat) (value : Dword) : V86Action Unit :=
  modifyCpu fun cpu => cpu.assign index value

def set16 (index : Nat) (value : Word) : V86Action Unit :=
  modifyCpu fun cpu => v86Set16 cpu index value

def setStackPointer (stackPointer : Word) : V86Action Unit :=
  modifyCpu fun cpu => cpu.withStackPointer stackPointer

def setSegment (index : Nat) (value : Word) : V86Action Unit :=
  modifyCpu fun cpu => { cpu with segments := Function.update cpu.segments index value }

def setFlags (change : Dword → Dword) : V86Action Unit :=
  modifyCpu fun cpu => { cpu with flags := change cpu.flags }

def loadFlags (value : Dword) (width : Width) : V86Action Unit :=
  modifyCpu fun cpu => v86FlagsLoad cpu value width

def setIp (ip : Word) : V86Action Unit := modifyCpu fun cpu => { cpu with ip }

/-- `Ip = (WORD)(Ip + offset)`. -/
def advance (offset : Nat) : V86Action Unit :=
  modifyCpu fun cpu => { cpu with ip := cpu.ip + BitVec.ofNat 16 offset }

def add (first second : Dword) (carryIn : Bool) (width : Width) : V86Action Dword :=
  updateCpu fun cpu => v86Add cpu first second carryIn width

def subtract (first second : Dword) (borrowIn : Bool) (width : Width) : V86Action Dword :=
  updateCpu fun cpu => v86Subtract cpu first second borrowIn width

def logic (result : Dword) (width : Width) : V86Action Unit :=
  modifyCpu fun cpu => v86Logic cpu result width

def alu (operation : Nat) (first second : Dword) (width : Width) : V86Action Dword :=
  updateCpu fun cpu => v86Alu cpu operation first second width

def shiftRotate (operation : Nat) (value : Dword) (count : Nat) (width : Width) :
    V86Action Dword :=
  updateCpu fun cpu => v86ShiftRotate cpu operation value count width

/-- `INC` or `DEC`: the carry is kept. -/
def stepByOne (isDecrement : Bool) (value : Dword) (width : Width) : V86Action Dword :=
  updateCpu fun cpu =>
    let stepped :=
      if isDecrement then v86Subtract cpu value 1 false width else v86Add cpu value 1 false width
    (stepped.1,
      { stepped.2 with
        flags := stepped.2.flags &&& ~~~eflagsCf ||| (cpu.flags &&& eflagsCf) })

/-! ## The instruction stream -/

/-- What the prefixes of an instruction leave, and the linear address of its first byte. -/
structure V86Instruction where
  codeLinear : Dword
  segmentOverride : Option Nat
  repeated : Nat
  isOperand32 : Bool
  isAddress32 : Bool
  isLocked : Bool

def V86Instruction.operandSize (instruction : V86Instruction) : Width :=
  if instruction.isOperand32 then .dword else .word

/-- The width of an opcode whose bit 0 selects byte or operand size. -/
def V86Instruction.widthOf (instruction : V86Instruction) (opcode : Byte) : Width :=
  if isWide opcode then instruction.operandSize else .byte

def V86Instruction.segmentOr (instruction : V86Instruction) (default : Nat) : Nat :=
  instruction.segmentOverride.getD default

variable (host : V86Host) (instruction : V86Instruction)

/-- `V86_CODE_BYTE(position)`. -/
def v86CodeByte (position : Nat) : V86Action Byte :=
  fetch host.toHost (instruction.codeLinear + BitVec.ofNat 32 position)

/-- `V86_IMMEDIATE(position, width)`. -/
def v86Immediate (position : Nat) (width : Width) : V86Action Dword :=
  fetchMemory host.toHost (instruction.codeLinear + BitVec.ofNat 32 position) width

def v86CodeWord (position : Nat) : V86Action Word := do
  let low ← v86CodeByte host instruction position
  let high ← v86CodeByte host instruction (position + 1)
  return low.setWidth 16 ||| high.setWidth 16 <<< 8

def v86ReadMemory (linear : Dword) (width : Width) : V86Action Dword :=
  readMemory host.toHost linear width

def v86WriteMemory (linear : Dword) (width : Width) (value : Dword) : V86Action Unit :=
  writeMemory linear value width

/-! ## ModRM -/

structure V86Modrm where
  isMemory : Bool
  linear : Dword
  effectiveAddress : Dword
  register : Nat
  registerMemory : Nat
  length : Nat

/-- An effective address, whether it defaults to the stack segment, and the bytes it takes. -/
structure V86Address where
  address : Dword
  isStackBased : Bool
  length : Nat

def v86RegisterOperand (modrmByte : Byte) : V86Modrm where
  isMemory := false
  linear := 0
  effectiveAddress := 0
  register := modrmRegister modrmByte
  registerMemory := modrmRegisterMemory modrmByte
  length := 1

/-- The operand at an address. -/
def v86MemoryOperand (cpu : V86Cpu) (modrmByte : Byte) (address : V86Address) : V86Modrm where
  isMemory := true
  linear :=
    v86SegmentBase host (cpu.segments
        (instruction.segmentOr (if address.isStackBased then x86SregSs else x86SregDs))) +
      address.address
  effectiveAddress := address.address
  register := modrmRegister modrmByte
  registerMemory := modrmRegisterMemory modrmByte
  length := address.length

/-- Under 0x67, an operand past the 64 KB segment is at the guest limit. -/
def V86Modrm.limited (modrm : V86Modrm) : V86Modrm :=
  if v86OffsetMax < modrm.effectiveAddress then { modrm with linear := v86GuestLimit } else modrm

/-- The base of a SIB byte at `position`. -/
def v86SibBase (cpu : V86Cpu) (sib : Byte) (mode position : Nat) : V86Action V86Address :=
  if modrmRegisterMemory sib = x86RegBp ∧ mode = 0 then do
    let displacement ← v86Immediate host instruction (position + 1) .dword
    return { address := displacement, isStackBased := false, length := 6 }
  else
    return {
      address := cpu.registers (modrmRegisterMemory sib)
      isStackBased :=
        modrmRegisterMemory sib = x86RegSp ∨ modrmRegisterMemory sib = x86RegBp
      length := 2 }

def v86BaseAddress32 (cpu : V86Cpu) (modrmByte : Byte) (offset : Nat) : V86Action V86Address :=
  if modrmRegisterMemory modrmByte = 4 then do
    let sib ← v86CodeByte host instruction (offset + 1)
    let base ← v86SibBase host instruction cpu sib (modrmMode modrmByte) (offset + 1)
    return { base with
      address := base.address +
        (if modrmRegister sib = 4 then 0 else cpu.registers (modrmRegister sib) <<< modrmMode sib) }
  else if modrmRegisterMemory modrmByte = 5 ∧ modrmMode modrmByte = 0 then do
    let displacement ← v86Immediate host instruction (offset + 1) .dword
    return { address := displacement, isStackBased := false, length := 5 }
  else
    return {
      address := cpu.registers (modrmRegisterMemory modrmByte)
      isStackBased := modrmRegisterMemory modrmByte = x86RegBp
      length := 1 }

def v86Displace32 (mode offset : Nat) (base : V86Address) : V86Action V86Address :=
  if mode = x86ModeDisp8 then do
    let displacement ← v86CodeByte host instruction (offset + base.length)
    return { base with
      address := base.address + displacement.signExtend 32, length := base.length + 1 }
  else if mode = 2 then do
    let displacement ← v86Immediate host instruction (offset + base.length) .dword
    return { base with address := base.address + displacement, length := base.length + 4 }
  else return base

def v86DecodeModrm32 (offset : Nat) : V86Action V86Modrm := do
  let modrmByte ← v86CodeByte host instruction offset
  if modrmMode modrmByte = x86ModeRegister then return v86RegisterOperand modrmByte
  else
    let cpu ← getCpu
    let base ← v86BaseAddress32 host instruction cpu modrmByte offset
    let address ← v86Displace32 host instruction (modrmMode modrmByte) offset base
    return (v86MemoryOperand host instruction cpu modrmByte address).limited

def v86BaseAddress16 (cpu : V86Cpu) (modrmByte : Byte) (offset : Nat) : V86Action V86Address :=
  let bx := v86Get16 cpu x86RegBx
  let bp := v86Get16 cpu x86RegBp
  let si := v86Get16 cpu x86RegSi
  let di := v86Get16 cpu x86RegDi
  let plain (address : Word) : V86Action V86Address :=
    return { address := address.setWidth 32, isStackBased := false, length := 1 }
  let stack (address : Word) : V86Action V86Address :=
    return { address := address.setWidth 32, isStackBased := true, length := 1 }
  match modrmRegisterMemory modrmByte with
  | 0 => plain (bx + si)
  | 1 => plain (bx + di)
  | 2 => stack (bp + si)
  | 3 => stack (bp + di)
  | 4 => plain si
  | 5 => plain di
  | 6 =>
    if modrmMode modrmByte = 0 then do
      let displacement ← v86CodeWord host instruction (offset + 1)
      return { address := displacement.setWidth 32, isStackBased := false, length := 3 }
    else stack bp
  | _ => plain bx

def v86Displace16 (mode offset : Nat) (base : V86Address) : V86Action V86Address :=
  if mode = x86ModeDisp8 then do
    let displacement ← v86CodeByte host instruction (offset + base.length)
    return { base with
      address := (base.address.setWidth 16 + displacement.signExtend 16).setWidth 32
      length := base.length + 1 }
  else if mode = 2 then do
    let displacement ← v86CodeWord host instruction (offset + base.length)
    return { base with
      address := (base.address.setWidth 16 + displacement).setWidth 32, length := base.length + 2 }
  else return base

def v86DecodeModrm16 (offset : Nat) : V86Action V86Modrm := do
  let modrmByte ← v86CodeByte host instruction offset
  if modrmMode modrmByte = x86ModeRegister then return v86RegisterOperand modrmByte
  else
    let cpu ← getCpu
    let base ← v86BaseAddress16 host instruction cpu modrmByte offset
    let address ← v86Displace16 host instruction (modrmMode modrmByte) offset base
    return v86MemoryOperand host instruction cpu modrmByte address

def v86DecodeModrm (offset : Nat) : V86Action V86Modrm :=
  if instruction.isAddress32 then v86DecodeModrm32 host instruction offset
  else v86DecodeModrm16 host instruction offset

/-- `if (modrm.IsMemory && modrm.Linear >= V86_GUEST_LIMIT) return 0`. -/
def V86Modrm.declineBeyondGuest (modrm : V86Modrm) : V86Action Unit :=
  declineIf (modrm.isMemory ∧ v86GuestLimit ≤ modrm.linear)

/-- The operand's value. -/
def v86ReadRm (modrm : V86Modrm) (width : Width) : V86Action Dword :=
  if modrm.isMemory then v86ReadMemory host modrm.linear width
  else do
    let cpu ← getCpu
    return v86GetRegister cpu modrm.registerMemory width

def v86WriteRm (modrm : V86Modrm) (width : Width) (value : Dword) : V86Action Unit :=
  if modrm.isMemory then v86WriteMemory modrm.linear width value
  else setRegister modrm.registerMemory width value

/-- `V86SegmentBase(Segments[X86_SREG_SS]) + stackPointer`. -/
def v86StackLinear (cpu : V86Cpu) (stackPointer : Word) : Dword :=
  v86SegmentBase host (cpu.segments x86SregSs) + stackPointer.setWidth 32

/-- `(WORD)(Registers[X86_REG_SP] - width)`. -/
def v86Below (cpu : V86Cpu) (width : Width) : Word :=
  (cpu.registers x86RegSp - BitVec.ofNat 32 width.bytes).setWidth 16

def v86Push (width : Width) (value : Dword) : V86Action Unit := do
  let cpu ← getCpu
  let stackPointer := v86Below cpu width
  v86WriteMemory (v86StackLinear host cpu stackPointer) width value
  setStackPointer stackPointer

def v86Pop (width : Width) : V86Action Dword := do
  let cpu ← getCpu
  let stackPointer := v86Get16 cpu x86RegSp
  let value ← v86ReadMemory host (v86StackLinear host cpu stackPointer) width
  setStackPointer (stackPointer + BitVec.ofNat 16 width.bytes)
  return value

/-- A selector in a slot of `width`: a word is stored. -/
def v86PushSegment (width : Width) (value : Word) : V86Action Unit := do
  let cpu ← getCpu
  let stackPointer := v86Below cpu width
  v86WriteMemory (v86StackLinear host cpu stackPointer) .word (value.setWidth 32)
  setStackPointer stackPointer

/-- The bytes of an element from `index` on, each at its own offset of the segment. -/
def v86WriteElement (base : Dword) (index : Word) (width : Width) (value : Dword) :
    V86Action Unit :=
  forEach
    (fun position =>
      write (base + (index + BitVec.ofNat 16 position).setWidth 32)
        ((value >>> (8 * position)).setWidth 8))
    (List.range width.bytes)

def v86ReadElement (base : Dword) (index : Word) : Nat → V86Action Dword
  | 0 => return 0
  | position + 1 => do
    let low ← v86ReadElement base index position
    let byte ← read host.toHost (base + (index + BitVec.ofNat 16 position).setWidth 32)
    return low ||| byte.setWidth 32 <<< (8 * position)

/-- `(Flags & EFLAGS_DF_U) ? -width : width`. -/
def v86Direction (cpu : V86Cpu) (width : Width) : Word :=
  if hasFlag cpu.flags eflagsDf then -BitVec.ofNat 16 width.bytes
  else BitVec.ofNat 16 width.bytes

/-- `repeat ? (WORD)Registers[X86_REG_CX] : 1`. -/
def v86StringCount (cpu : V86Cpu) : Nat :=
  if instruction.repeated ≠ 0 then (v86Get16 cpu x86RegCx).toNat else 1

/-- `if (repeat) V86Set16(cpu, X86_REG_CX, (WORD)count)`. -/
def v86StoreCount (count : Nat) : V86Action Unit :=
  onlyIf (instruction.repeated ≠ 0) (set16 x86RegCx (BitVec.ofNat 16 count))

end Ntvdmex.Host.V86
