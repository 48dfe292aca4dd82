import Ntvdmex.Host.V86.Decode

/-!
# The two-byte opcodes of the 16-bit interpreter

The blocks of `V86Step` under `X86_ESCAPE`, in its order.  `offset` is the position after the
second opcode byte.
-/

namespace Ntvdmex.Host.V86

open Foundation Interp

def v86Op2Lar : Byte := 0x02
def v86Op2Lsl : Byte := 0x03
def v86Op2PushFs : Byte := 0xA0
def v86Op2PopFs : Byte := 0xA1
def v86Op2Bt : Byte := 0xA3
def v86Op2ShldImm : Byte := 0xA4
def v86Op2ShldCl : Byte := 0xA5
def v86Op2PushGs : Byte := 0xA8
def v86Op2PopGs : Byte := 0xA9
def v86Op2Bts : Byte := 0xAB
def v86Op2ShrdImm : Byte := 0xAC
def v86Op2ShrdCl : Byte := 0xAD
def v86Op2CmpxchgByte : Byte := 0xB0
def v86Op2Cmpxchg : Byte := 0xB1
def v86Op2Lss : Byte := 0xB2
def v86Op2Btr : Byte := 0xB3
def v86Op2Lfs : Byte := 0xB4
def v86Op2Lgs : Byte := 0xB5
def v86Op2BtGroup : Byte := 0xBA
def v86Op2Btc : Byte := 0xBB
def v86Op2Bsf : Byte := 0xBC
def v86Op2Bsr : Byte := 0xBD
def v86Op2XaddByte : Byte := 0xC0
def v86Op2Xadd : Byte := 0xC1
def v86Op2Group9 : Byte := 0xC7
def v86BtGroupFirst : Nat := 4

variable (host : V86Host) (instruction : V86Instruction) (opcode2 : Byte) (offset : Nat)

/-- `MOVZX` and `MOVSX`. -/
def v86MoveExtend : V86Action Unit := do
  let sourceWidth : Width := if isWide opcode2 then .word else .byte
  let modrm ← v86DecodeModrm host instruction offset
  modrm.declineBeyondGuest
  let value ← v86ReadRm host modrm sourceWidth
  let extended :=
    if x86Op2MovsxByte ≤ opcode2 ∧ hasFlag value (widthSignBit sourceWidth) then
      value ||| ~~~widthMask sourceWidth
    else value
  setRegister modrm.register instruction.operandSize
    (extended &&& widthMask instruction.operandSize)
  advance (offset + modrm.length)

variable (modrm : V86Modrm)

/-- The destination and ZF of `LAR` or `LSL`, from the descriptor. -/
def v86LoadDescriptor (descriptor : Option (Dword × Dword)) : V86Action Unit :=
  match descriptor with
  | some (accessRights, limit) => do
    setRegister modrm.register instruction.operandSize
      ((if opcode2 = v86Op2Lar then accessRights else limit) &&&
        widthMask instruction.operandSize)
    setFlags fun flags => flags ||| eflagsZf
  | none => setFlags fun flags => flags &&& ~~~eflagsZf

/-- `LAR` and `LSL`, where there is a descriptor table. -/
def v86DescribeSelector (describe : Word → Option (Dword × Dword)) : V86Action Unit := do
  let modrm ← v86DecodeModrm host instruction offset
  modrm.declineBeyondGuest
  let selector ← v86ReadRm host modrm .word
  v86LoadDescriptor instruction opcode2 modrm (describe (selector.setWidth 16))
  advance (offset + modrm.length)

def v86LarLsl : V86Action Unit :=
  match host.selectorDescriptor with
  | none => decline
  | some describe => v86DescribeSelector host instruction opcode2 offset describe

/-- `PUSH FS` and `PUSH GS`. -/
def v86PushFsGs : V86Action Unit := do
  let cpu ← getCpu
  v86PushSegment host instruction.operandSize
    (cpu.segments (if opcode2 = v86Op2PushFs then x86SregFs else x86SregGs))
  advance offset

/-- `POP FS` and `POP GS`. -/
def v86PopFsGs : V86Action Unit := do
  let value ← v86Pop host instruction.operandSize
  setSegment (if opcode2 = v86Op2PopFs then x86SregFs else x86SregGs) (value.setWidth 16)
  advance offset

/-- `Jcc rel32`. -/
def v86JccNear32 : V86Action Unit := do
  let cpu ← getCpu
  let isTaken := v86Condition cpu (conditionOf opcode2)
  let nextIp := (cpu.ip + BitVec.ofNat 16 (offset + 4)).setWidth 32
  let relative ←
    v86ReadMemory host (instruction.codeLinear + BitVec.ofNat 32 offset) .dword
  let target := nextIp + relative
  declineIf (isTaken ∧ v86OffsetMax < target)
  setIp ((if isTaken then target else nextIp).setWidth 16)

/-- `Jcc rel16`. -/
def v86JccNear16 : V86Action Unit := do
  let cpu ← getCpu
  let isTaken := v86Condition cpu (conditionOf opcode2)
  let relative ← v86CodeWord host instruction offset
  setIp (cpu.ip + BitVec.ofNat 16 (offset + 2) + (if isTaken then relative else 0))

def v86JccNear : V86Action Unit :=
  if instruction.isOperand32 then v86JccNear32 host instruction opcode2 offset
  else v86JccNear16 host instruction opcode2 offset

/-- `SETcc`. -/
def v86Setcc : V86Action Unit := do
  let cpu ← getCpu
  let value : Dword := if v86Condition cpu (conditionOf opcode2) then 1 else 0
  let modrm ← v86DecodeModrm host instruction offset
  modrm.declineBeyondGuest
  v86WriteRm modrm .byte value
  advance (offset + modrm.length)

/-! ## Bit tests -/

/-- What a bit test does, to which bit, and the bytes from the operand's address to the one
tested, with the immediate's length. -/
structure V86BitSelection where
  operation : Nat
  bitOffset : Int
  displacement : Int
  immediateLength : Nat

/-- The bit of the register forms: into memory, a signed offset. -/
def v86RegisterBit (offsetValue : Dword) : V86BitSelection :=
  let bitCount : Int := instruction.operandSize.bits
  let bitOffset := signedValue instruction.operandSize offsetValue
  let operation := opcode2.toNat / 8 % 4
  if modrm.isMemory then
    { operation := operation
      bitOffset := bitOffset % bitCount
      displacement := bitOffset / bitCount * instruction.operandSize.bytes
      immediateLength := 0 }
  else
    { operation, bitOffset, displacement := 0, immediateLength := 0 }

/-- Which bit the instruction tests; `BA /0` to `/3` are declined. -/
def v86SelectBit : V86Action V86BitSelection :=
  if opcode2 = v86Op2BtGroup then do
    declineIf (modrm.register < v86BtGroupFirst)
    let immediate ← v86CodeByte host instruction (offset + modrm.length)
    return {
      operation := modrm.register - v86BtGroupFirst
      bitOffset := (immediate.toNat % instruction.operandSize.bits : Nat)
      displacement := 0
      immediateLength := 1 }
  else do
    let cpu ← getCpu
    return v86RegisterBit instruction opcode2 modrm
      (v86GetRegister cpu modrm.register instruction.operandSize)

def v86BitOperand (selection : V86BitSelection) : V86Action V86Modrm :=
  if modrm.isMemory then do
    let effectiveAddress := modrm.effectiveAddress.toInt + selection.displacement
    declineIf (v86GuestLimit ≤ modrm.linear ∨ effectiveAddress < 0 ∨
      0xFFFF < effectiveAddress + instruction.operandSize.bytes - 1)
    let linear := modrm.linear + BitVec.ofInt 32 selection.displacement
    declineIf (v86GuestLimit ≤ linear)
    return { modrm with linear }
  else return modrm

def v86ChangeBit (operation : Nat) (value bit : Dword) : Dword :=
  if operation = 1 then value ||| bit
  else if operation = 2 then value &&& ~~~bit else value ^^^ bit

/-- `BT`, `BTS`, `BTR` and `BTC`. -/
def v86BitTest : V86Action Unit := do
  let modrm ← v86DecodeModrm host instruction offset
  let selection ← v86SelectBit host instruction opcode2 offset modrm
  let operand ← v86BitOperand instruction modrm selection
  let value ← v86ReadRm host operand instruction.operandSize
  let bit : Dword := 1#32 <<< (selection.bitOffset % instruction.operandSize.bits).toNat
  setFlags fun flags => flags &&& ~~~eflagsCf ||| flagIf (hasFlag value bit) eflagsCf
  onlyIf (selection.operation ≠ 0)
    (v86WriteRm operand instruction.operandSize (v86ChangeBit selection.operation value bit))
  advance (offset + modrm.length + selection.immediateLength)

/-- The lowest or the highest set bit below `bits`. -/
def v86ScanBit (isForward : Bool) (source : Dword) (bits : Nat) : Nat :=
  let positions := if isForward then List.range bits else (List.range bits).reverse
  (positions.find? fun position => source.getLsbD position).getD 0

/-- `BSF` and `BSR`. -/
def v86BitScan : V86Action Unit := do
  let modrm ← v86DecodeModrm host instruction offset
  modrm.declineBeyondGuest
  let value ← v86ReadRm host modrm instruction.operandSize
  let source := value &&& widthMask instruction.operandSize
  onlyIf (source ≠ 0)
    (setRegister modrm.register instruction.operandSize
      (BitVec.ofNat 32
        (v86ScanBit (opcode2 = v86Op2Bsf) source instruction.operandSize.bits)))
  setFlags fun flags => flags &&& ~~~eflagsZf ||| (if source ≠ 0 then 0 else eflagsZf)
  advance (offset + modrm.length)

/-! ## Double shifts -/

/-- A value of the instruction stream, and the bytes it takes. -/
structure V86Operand where
  value : Nat
  length : Nat

/-- An immediate byte, or `CL`. -/
def v86DoubleShiftCount (position : Nat) : V86Action V86Operand :=
  if opcode2 = v86Op2ShldImm ∨ opcode2 = v86Op2ShrdImm then do
    let count ← v86CodeByte host instruction position
    return { value := count.toNat % 32, length := 1 }
  else do
    let cpu ← getCpu
    return { value := (cpu.registers x86RegCx).toNat % 32, length := 0 }

def v86DoubleShift (isLeft : Bool) (width : Width) (destination source : Dword) (count : Nat) :
    Dword × Bool :=
  if isLeft then
    ((((destination.setWidth 64 <<< width.bits ||| source.setWidth 64) >>>
        (width.bits - count)).setWidth 32) &&& widthMask width,
      destination.getLsbD (width.bits - count))
  else
    ((((source.setWidth 64 <<< width.bits ||| destination.setWidth 64) >>> count).setWidth 32) &&&
        widthMask width,
      destination.getLsbD (count - 1))

def v86DoubleShiftFlags (flags : Dword) (width : Width) (destination result : Dword)
    (carry : Bool) (count : Nat) : Dword :=
  let shifted :=
    flags &&& ~~~(eflagsCf ||| eflagsSf ||| eflagsZf ||| eflagsPf) ||| flagIf carry eflagsCf |||
      resultFlags result width
  if count = 1 then
    shifted &&& ~~~eflagsOf |||
      flagIf (hasFlag (result ^^^ destination) (widthSignBit width)) eflagsOf
  else shifted

def v86DoubleShiftBy (count : Nat) : V86Action Unit := do
  let width := instruction.operandSize
  let value ← v86ReadRm host modrm width
  let destination := value &&& widthMask width
  let cpu ← getCpu
  let source := v86GetRegister cpu modrm.register width &&& widthMask width
  let shifted := v86DoubleShift (opcode2 ≤ v86Op2ShldCl) width destination source count
  v86WriteRm modrm width shifted.1
  setFlags fun flags =>
    v86DoubleShiftFlags flags width destination shifted.1 shifted.2 count

/-- `SHLD` and `SHRD`. -/
def v86ShldShrd : V86Action Unit := do
  let modrm ← v86DecodeModrm host instruction offset
  modrm.declineBeyondGuest
  let count ← v86DoubleShiftCount host instruction opcode2 (offset + modrm.length)
  declineIf (instruction.operandSize.bits < count.value)
  onlyIf (count.value ≠ 0) (v86DoubleShiftBy host instruction opcode2 modrm count.value)
  advance (offset + modrm.length + count.length)

/-- `LSS`, `LFS` and `LGS`. -/
def v86LoadFarPointer : V86Action Unit := do
  let modrm ← v86DecodeModrm host instruction offset
  declineIf (modrm.isMemory = false ∨ v86GuestLimit ≤ modrm.linear)
  let value ← v86ReadMemory host modrm.linear instruction.operandSize
  setRegister modrm.register instruction.operandSize value
  let selector ←
    v86ReadMemory host (modrm.linear + BitVec.ofNat 32 instruction.operandSize.bytes) .word
  setSegment
    (if opcode2 = v86Op2Lss then x86SregSs
      else if opcode2 = v86Op2Lfs then x86SregFs else x86SregGs)
    (selector.setWidth 16)
  advance (offset + modrm.length)

def v86TwoByte : V86Action Unit :=
  if opcode2 = x86Op2MovzxByte ∨ opcode2 = x86Op2MovzxWord ∨ opcode2 = x86Op2MovsxByte ∨
      opcode2 = x86Op2MovsxWord then
    v86MoveExtend host instruction opcode2 offset
  else if opcode2 = v86Op2Lar ∨ opcode2 = v86Op2Lsl then
    v86LarLsl host instruction opcode2 offset
  else if opcode2 = v86Op2PushFs ∨ opcode2 = v86Op2PushGs then
    v86PushFsGs host instruction opcode2 offset
  else if opcode2 = v86Op2PopFs ∨ opcode2 = v86Op2PopGs then
    v86PopFsGs host instruction opcode2 offset
  else if x86JccNearFirst ≤ opcode2 ∧ opcode2 ≤ x86JccNearLast then
    v86JccNear host instruction opcode2 offset
  else if x86Op2SetccFirst ≤ opcode2 ∧ opcode2 ≤ x86Op2SetccLast then
    v86Setcc host instruction opcode2 offset
  else if opcode2 = v86Op2Bt ∨ opcode2 = v86Op2Bts ∨ opcode2 = v86Op2Btr ∨
      opcode2 = v86Op2Btc ∨ opcode2 = v86Op2BtGroup then
    v86BitTest host instruction opcode2 offset
  else if opcode2 = v86Op2Bsf ∨ opcode2 = v86Op2Bsr then
    v86BitScan host instruction opcode2 offset
  else if opcode2 = v86Op2ShldImm ∨ opcode2 = v86Op2ShldCl ∨ opcode2 = v86Op2ShrdImm ∨
      opcode2 = v86Op2ShrdCl then
    v86ShldShrd host instruction opcode2 offset
  else if opcode2 = v86Op2Lss ∨ opcode2 = v86Op2Lfs ∨ opcode2 = v86Op2Lgs then
    v86LoadFarPointer host instruction opcode2 offset
  else decline

end Ntvdmex.Host.V86
