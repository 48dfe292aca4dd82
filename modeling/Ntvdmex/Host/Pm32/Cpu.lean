import Ntvdmex.Host.X86

/-!
# The 32-bit interpreter's processor (`pm32cpu.h`, and the helpers of `pm32interp.h`)

Register views, the flag-computing primitives and the shifts.
-/

namespace Ntvdmex.Host.Pm32

open Foundation

def pm32PushadBytes : Nat := 32
def pm32AuxiliaryBit : Dword := 0x10
def pm32ModeDispFull : Nat := 2
def pm32RmSib : Nat := 4
def pm32RmDisp32 : Nat := 5
def pm32SibNoIndex : Nat := 4
def pm32AluForms : Nat := 6
def pm32FormFromRegisterEnd : Nat := 2
def pm32FormAccumulatorByte : Nat := 4
def pm32FormAccumulator : Nat := 5
def pm32MaxStringCount : Dword := 0x10000
def pm32Op2ShldImm : Byte := 0xA4
def pm32Op2ShldCl : Byte := 0xA5
def pm32Op2ShrdImm : Byte := 0xAC
def pm32Op2ShrdCl : Byte := 0xAD
def pm32Op2Imul : Byte := 0xAF

/-- `PM32_CPU`. -/
structure Pm32Cpu where
  registers : Nat → Dword
  eip : Dword
  flags : Dword
  segmentBases : Nat → Dword

/-- The host, and `Pm32HostCanAccess`. -/
structure Pm32Host extends Host where
  canAccess : Dword → Nat → Bool → Bool

abbrev Pm32Action := Interp Pm32Cpu

variable (cpu : Pm32Cpu) (index : Nat)

def Pm32Cpu.assign (value : Dword) : Pm32Cpu :=
  { cpu with registers := Function.update cpu.registers index value }

def pm32GetRegister (width : Width) : Dword :=
  if width = .byte then
    if index < x86ByteRegisters then cpu.registers index &&& 0xFF
    else cpu.registers (index - x86ByteRegisters) >>> 8 &&& 0xFF
  else cpu.registers (index % 8) &&& widthMask width

def pm32SetRegister (value : Dword) : Width → Pm32Cpu
  | .byte =>
    if index < x86ByteRegisters then
      cpu.assign index (cpu.registers index &&& ~~~widthMask .byte ||| (value &&& 0xFF))
    else
      cpu.assign (index - x86ByteRegisters)
        (cpu.registers (index - x86ByteRegisters) &&& ~~~highByteMask ||| (value &&& 0xFF) <<< 8)
  | .word =>
    cpu.assign (index % 8) (cpu.registers (index % 8) &&& highWordMask ||| (value &&& 0xFFFF))
  | .dword => cpu.assign (index % 8) value

/-! ## Flags -/

/-- Even parity of the low byte. -/
def pm32Parity (value : Dword) : Bool :=
  let low := value &&& 0xFF
  let nibble := low ^^^ low >>> 4
  let pair := nibble ^^^ nibble >>> 2
  !((pair ^^^ pair >>> 1).getLsbD 0)

def pm32SzpFlags (result : Dword) (width : Width) : Dword :=
  let masked := result &&& widthMask width
  flagIf (masked = 0) eflagsZf ||| flagIf (hasFlag masked (widthSignBit width)) eflagsSf |||
    flagIf (pm32Parity masked) eflagsPf

/-- A value, and the flags with it. -/
structure Pm32Result where
  value : Dword
  flags : Dword

def pm32Add (flags first second : Dword) (carryIn : Bool) (width : Width) : Pm32Result :=
  let mask := widthMask width
  let full : BitVec 64 := (first &&& mask).setWidth 64 + (second &&& mask).setWidth 64 +
    (if carryIn then 1 else 0)
  let result := full.setWidth 32 &&& mask
  { value := result
    flags := flags &&& ~~~arithmeticFlags ||| pm32SzpFlags result width |||
      flagIf (full >>> width.bits ≠ 0) eflagsCf |||
      flagIf (hasFlag (first ^^^ second ^^^ result) pm32AuxiliaryBit) eflagsAf |||
      flagIf (hasFlag (~~~(first ^^^ second) &&& (first ^^^ result)) (widthSignBit width))
        eflagsOf }

def pm32Subtract (flags first second : Dword) (borrowIn : Bool) (width : Width) : Pm32Result :=
  let mask := widthMask width
  let result := first - second - (if borrowIn then 1 else 0) &&& mask
  let borrowed : BitVec 64 := (second &&& mask).setWidth 64 + (if borrowIn then 1 else 0)
  { value := result
    flags := flags &&& ~~~arithmeticFlags ||| pm32SzpFlags result width |||
      flagIf ((first &&& mask).setWidth 64 < borrowed) eflagsCf |||
      flagIf (hasFlag (first ^^^ second ^^^ result) pm32AuxiliaryBit) eflagsAf |||
      flagIf (hasFlag ((first ^^^ second) &&& (first ^^^ result)) (widthSignBit width)) eflagsOf }

def pm32Logic (flags result : Dword) (width : Width) : Pm32Result where
  value := result &&& widthMask width
  flags := flags &&& ~~~arithmeticFlags ||| pm32SzpFlags (result &&& widthMask width) width

def pm32Alu (flags : Dword) (operation : Nat) (first second : Dword) (width : Width) :
    Pm32Result :=
  let carry := hasFlag flags eflagsCf
  if operation = x86AluAdd then pm32Add flags first second false width
  else if operation = x86AluOr then pm32Logic flags (first ||| second) width
  else if operation = x86AluAdc then pm32Add flags first second carry width
  else if operation = x86AluSbb then pm32Subtract flags first second carry width
  else if operation = x86AluAnd then pm32Logic flags (first &&& second) width
  else if operation = x86AluSub then pm32Subtract flags first second false width
  else if operation = x86AluXor then pm32Logic flags (first ^^^ second) width
  else pm32Subtract flags first second false width

/-- `INC` or `DEC`: the carry is kept. -/
def pm32StepByOne (isDecrement : Bool) (flags value : Dword) (width : Width) : Pm32Result :=
  let stepped :=
    if isDecrement then pm32Subtract flags value 1 false width
    else pm32Add flags value 1 false width
  { stepped with flags := stepped.flags &&& ~~~eflagsCf ||| (flags &&& eflagsCf) }

def pm32Condition (flags : Dword) (condition : Nat) : Bool :=
  let carry := hasFlag flags eflagsCf
  let zero := hasFlag flags eflagsZf
  let sign := hasFlag flags eflagsSf
  let overflow := hasFlag flags eflagsOf
  let isTrue : Bool :=
    match condition / 2 with
    | 0 => overflow
    | 1 => carry
    | 2 => zero
    | 3 => hasFlag flags (eflagsCf ||| eflagsZf)
    | 4 => sign
    | 5 => hasFlag flags eflagsPf
    | 6 => sign != overflow
    | _ => zero || sign != overflow
  if condition % 2 = 1 then !isTrue else isTrue

/-! ## Shifts -/

/-- `ROL` and `ROR`, by a count that is not 0. -/
def pm32Rotate (flags : Dword) (isLeft : Bool) (value : Dword) (count : Nat) (width : Width) :
    Pm32Result :=
  let rotate := count % width.bits
  let signBit := widthSignBit width
  let rotated :=
    if isLeft then (value <<< rotate ||| value >>> (width.bits - rotate)) &&& widthMask width
    else (value >>> rotate ||| value <<< (width.bits - rotate)) &&& widthMask width
  let result := if rotate ≠ 0 then rotated else value
  let carry : Bool := if isLeft then result.getLsbD 0 else hasFlag result signBit
  let overflow : Bool :=
    if isLeft then hasFlag result signBit != carry
    else hasFlag result signBit != hasFlag result (signBit >>> 1)
  { value := result
    flags := flags &&& ~~~(eflagsCf ||| eflagsOf) ||| flagIf carry eflagsCf |||
      flagIf overflow eflagsOf }

def pm32ShiftFlags (flags result : Dword) (carry overflow : Bool) (width : Width) : Dword :=
  flags &&& ~~~arithmeticFlags ||| pm32SzpFlags result width ||| flagIf carry eflagsCf |||
    flagIf overflow eflagsOf

/-- `SHL`, by a count that is not 0. -/
def pm32ShiftLeft (flags value : Dword) (count : Nat) (width : Width) : Pm32Result :=
  let carry : Bool := count ≤ width.bits && (value >>> (width.bits - count)).getLsbD 0
  let result := value <<< count &&& widthMask width
  { value := result
    flags := pm32ShiftFlags flags result carry
      (hasFlag result (widthSignBit width) != carry) width }

/-- `SHR`, by a count that is not 0. -/
def pm32ShiftRight (flags value : Dword) (count : Nat) (width : Width) : Pm32Result where
  value := value >>> count
  flags := pm32ShiftFlags flags (value >>> count) ((value >>> (count - 1)).getLsbD 0)
    (hasFlag value (widthSignBit width)) width

/-- `SAR`, by a count that is not 0. -/
def pm32ShiftArithmetic (flags value : Dword) (count : Nat) (width : Width) : Pm32Result :=
  let extended := signExtendFrom width value
  let result := extended.sshiftRight count &&& widthMask width
  { value := result
    flags := pm32ShiftFlags flags result ((extended.sshiftRight (count - 1)).getLsbD 0) false
      width }

/-- `Pm32Shift`, where `none` declines `RCL` and `RCR`. -/
def pm32Shift (flags : Dword) (operation : Nat) (value : Dword) (count : Nat) (width : Width) :
    Option Pm32Result :=
  let masked := value &&& widthMask width
  let shiftCount := count % 32
  if shiftCount = 0 then some { value := masked, flags }
  else if operation = x86ShiftRol ∨ operation = x86ShiftRor then
    some (pm32Rotate flags (operation = x86ShiftRol) masked shiftCount width)
  else if operation = x86ShiftRcl ∨ operation = x86ShiftRcr then none
  else if operation = x86ShiftShl ∨ operation = x86ShiftSal then
    some (pm32ShiftLeft flags masked shiftCount width)
  else if operation = x86ShiftShr then some (pm32ShiftRight flags masked shiftCount width)
  else some (pm32ShiftArithmetic flags masked shiftCount width)

def pm32Product (isSigned : Bool) (width : Width) (first second : Dword) : BitVec 64 :=
  if isSigned then BitVec.ofInt 64 (signedValue width first * signedValue width second)
  else (first &&& widthMask width).setWidth 64 * second.setWidth 64

def pm32ProductOverflows (isSigned : Bool) (width : Width) (product : BitVec 64) : Bool :=
  if isSigned then
    match width with
    | .byte => (product.setWidth 16).toInt ≠ (product.setWidth 8).toInt
    | .word => (product.setWidth 32).toInt ≠ (product.setWidth 16).toInt
    | .dword => product.toInt ≠ (product.setWidth 32).toInt
  else product >>> width.bits ≠ 0

/-- `SHLD` or `SHRD`, by a count that is not 0. -/
def pm32DoubleShift (flags : Dword) (isLeft : Bool) (destination source : Dword) (count : Nat)
    (width : Width) : Pm32Result :=
  let concatenated : BitVec 64 :=
    if isLeft then destination.setWidth 64 <<< width.bits ||| source.setWidth 64
    else source.setWidth 64 <<< width.bits ||| destination.setWidth 64
  let shifted := if isLeft then concatenated <<< count >>> width.bits else concatenated >>> count
  let result := shifted.setWidth 32 &&& widthMask width
  let carry : Bool :=
    if isLeft then (destination >>> (width.bits - count)).getLsbD 0
    else (destination >>> (count - 1)).getLsbD 0
  { value := result
    flags := pm32ShiftFlags flags result carry
      (hasFlag (result ^^^ destination) (widthSignBit width)) width }

end Ntvdmex.Host.Pm32
