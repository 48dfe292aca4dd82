import Ntvdmex.Host.X86

/-!
# The 16-bit interpreter's processor (`v86cpu.h`, and the helpers of `v86interp.h`)

Register views, the flag-computing primitives, and what the host gives the interpreter.
-/

namespace Ntvdmex.Host.V86

open Foundation

def v86GuestLimit : Dword := 0x110000
def v86FlagsModelled : Dword := 0x0FD5
def v86LahfFlags : Dword := 0xD5
def v86OffsetMax : Dword := 0xFFFF
def v86EflHi : Dword := 0x00240000

/-- `V86_CPU`. -/
structure V86Cpu where
  registers : Nat → Dword
  segments : Nat → Word
  ip : Word
  flags : Dword

/-- The host, with the two hooks of protected mode: the base of a selector, and the access
rights and the limit of its descriptor. -/
structure V86Host extends Host where
  segmentToLinear : Option (Word → Dword)
  selectorDescriptor : Option (Word → Option (Dword × Dword))

abbrev V86Action := Interp V86Cpu

def v86SegmentBase (host : V86Host) (segment : Word) : Dword :=
  match host.segmentToLinear with
  | some resolve => resolve segment
  | none => segment.setWidth 32 <<< 4

/-! ## Registers -/

variable (cpu : V86Cpu) (operation index : Nat) (first second : Dword) (width : Width)
  (value : Dword)

def v86Get16 : Word := (cpu.registers (index % 8)).setWidth 16

def V86Cpu.assign : V86Cpu :=
  { cpu with registers := Function.update cpu.registers index value }

def v86Set16 (value : Word) : V86Cpu :=
  cpu.assign (index % 8) (cpu.registers (index % 8) &&& highWordMask ||| value.setWidth 32)

def v86Get8 : Byte :=
  if index < x86ByteRegisters then (cpu.registers index).setWidth 8
  else (cpu.registers (index - x86ByteRegisters) >>> 8).setWidth 8

def v86Set8 (value : Byte) : V86Cpu :=
  if index < x86ByteRegisters then
    cpu.assign index (cpu.registers index &&& ~~~widthMask .byte ||| value.setWidth 32)
  else
    cpu.assign (index - x86ByteRegisters)
      (cpu.registers (index - x86ByteRegisters) &&& ~~~highByteMask ||| value.setWidth 32 <<< 8)

def v86GetRegister : Width → Dword
  | .byte => (v86Get8 cpu index).setWidth 32
  | .word => (v86Get16 cpu index).setWidth 32
  | .dword => cpu.registers (index % 8)

def v86SetRegister : Width → V86Cpu
  | .byte => v86Set8 cpu index (value.setWidth 8)
  | .word => v86Set16 cpu index (value.setWidth 16)
  | .dword => cpu.assign (index % 8) value

/-- `Registers[X86_REG_SP] = (Registers[X86_REG_SP] & HIGH_WORD_MASK_U) | stackPointer`. -/
def V86Cpu.withStackPointer (stackPointer : Word) : V86Cpu :=
  v86Set16 cpu x86RegSp stackPointer

/-! ## Flags -/

def v86Parity (value : Byte) : Bool :=
  let folded := value ^^^ value >>> 4
  !((0x6996#32 >>> (folded &&& 0x0F).toNat).getLsbD 0)

def resultFlags (result : Dword) (width : Width) : Dword :=
  flagIf (result = 0) eflagsZf ||| flagIf (hasFlag result (widthSignBit width)) eflagsSf |||
    flagIf (v86Parity (result.setWidth 8)) eflagsPf

def v86Add (carryIn : Bool) (width : Width) : Dword × V86Cpu :=
  let maskedFirst := first &&& widthMask width
  let maskedSecond := second &&& widthMask width
  let full := maskedFirst + maskedSecond + (if carryIn then 1 else 0)
  let result := full &&& widthMask width
  let carry : Bool :=
    if width = .dword then (if carryIn then full ≤ maskedFirst else full < maskedFirst)
    else widthMask width < full
  let overflow := ~~~(maskedFirst ^^^ maskedSecond) &&& (maskedFirst ^^^ result)
  (result,
    { cpu with
      flags := cpu.flags &&& ~~~arithmeticFlags ||| flagIf carry eflagsCf |||
        flagIf (hasFlag (maskedFirst ^^^ maskedSecond ^^^ result) eflagsAf) eflagsAf |||
        resultFlags result width |||
        flagIf (hasFlag overflow (widthSignBit width)) eflagsOf })

def v86Subtract (borrowIn : Bool) (width : Width) : Dword × V86Cpu :=
  let maskedFirst := first &&& widthMask width
  let maskedSecond := second &&& widthMask width
  let result := maskedFirst - maskedSecond - (if borrowIn then 1 else 0) &&& widthMask width
  let borrow : Bool := if borrowIn then maskedFirst ≤ maskedSecond else maskedFirst < maskedSecond
  let overflow := (maskedFirst ^^^ maskedSecond) &&& (maskedFirst ^^^ result)
  (result,
    { cpu with
      flags := cpu.flags &&& ~~~arithmeticFlags ||| flagIf borrow eflagsCf |||
        flagIf (hasFlag (maskedFirst ^^^ maskedSecond ^^^ result) eflagsAf) eflagsAf |||
        resultFlags result width |||
        flagIf (hasFlag overflow (widthSignBit width)) eflagsOf })

def v86Logic (result : Dword) (width : Width) : V86Cpu :=
  { cpu with
    flags := cpu.flags &&& ~~~arithmeticFlags ||| resultFlags (result &&& widthMask width) width }

def v86Alu : Dword × V86Cpu :=
  let carry := hasFlag cpu.flags eflagsCf
  if operation = x86AluAdd then v86Add cpu first second false width
  else if operation = x86AluOr then (first ||| second, v86Logic cpu (first ||| second) width)
  else if operation = x86AluAdc then v86Add cpu first second carry width
  else if operation = x86AluSbb then v86Subtract cpu first second carry width
  else if operation = x86AluAnd then (first &&& second, v86Logic cpu (first &&& second) width)
  else if operation = x86AluSub then v86Subtract cpu first second false width
  else if operation = x86AluXor then (first ^^^ second, v86Logic cpu (first ^^^ second) width)
  else (0, (v86Subtract cpu first second false width).2)

def v86ShiftOne (carry : Bool) : Dword × Bool :=
  let mask := widthMask width
  let signBit := widthSignBit width
  let high := hasFlag value signBit
  let low := value.getLsbD 0
  if operation = x86ShiftRol then ((value <<< 1 ||| flagIf high 1) &&& mask, high)
  else if operation = x86ShiftRor then ((value >>> 1 ||| flagIf low signBit) &&& mask, low)
  else if operation = x86ShiftRcl then ((value <<< 1 ||| flagIf carry 1) &&& mask, high)
  else if operation = x86ShiftRcr then ((value >>> 1 ||| flagIf carry signBit) &&& mask, low)
  else if operation = x86ShiftShl ∨ operation = x86ShiftSal then (value <<< 1 &&& mask, high)
  else if operation = x86ShiftShr then (value >>> 1 &&& mask, low)
  else ((value >>> 1 ||| (value &&& signBit)) &&& mask, low)

def v86ShiftTimes (operation : Nat) (width : Width) : Nat → Dword × Bool → Dword × Bool
  | 0, state => state
  | count + 1, (value, carry) =>
    v86ShiftTimes operation width count (v86ShiftOne operation width value carry)

def v86ShiftOverflow (original value : Dword) (carry : Bool) : Bool :=
  let signBit := widthSignBit width
  if operation = x86ShiftShr then hasFlag original signBit
  else if operation = x86ShiftSar then false
  else if operation = x86ShiftRor ∨ operation = x86ShiftRcr then
    hasFlag value signBit ^^ hasFlag value (signBit >>> 1)
  else hasFlag value signBit ^^ carry

def v86ShiftFlags (flags : Dword) (operation count : Nat) (width : Width)
    (original value : Dword) (carry : Bool) : Dword :=
  let carried := flags &&& ~~~eflagsCf ||| flagIf carry eflagsCf
  let overflowed :=
    if count = 1 then
      carried &&& ~~~eflagsOf |||
        flagIf (v86ShiftOverflow operation width original value carry) eflagsOf
    else carried
  if x86ShiftShl ≤ operation then
    overflowed &&& ~~~(eflagsSf ||| eflagsZf ||| eflagsPf) ||| resultFlags value width
  else overflowed

def v86ShiftRotate (count : Nat) (width : Width) : Dword × V86Cpu :=
  let original := value &&& widthMask width
  if count % 32 = 0 then (original, cpu)
  else
    let shifted := v86ShiftTimes operation width (count % 32)
      (original, hasFlag cpu.flags eflagsCf)
    (shifted.1,
      { cpu with
        flags := v86ShiftFlags cpu.flags operation (count % 32) width original shifted.1 shifted.2 })

def v86Condition (condition : Nat) : Bool :=
  let carry := hasFlag cpu.flags eflagsCf
  let zero := hasFlag cpu.flags eflagsZf
  let sign := hasFlag cpu.flags eflagsSf
  let overflow := hasFlag cpu.flags eflagsOf
  let parity := hasFlag cpu.flags eflagsPf
  match condition % 16 with
  | 0x0 => overflow
  | 0x1 => !overflow
  | 0x2 => carry
  | 0x3 => !carry
  | 0x4 => zero
  | 0x5 => !zero
  | 0x6 => carry || zero
  | 0x7 => !(carry || zero)
  | 0x8 => sign
  | 0x9 => !sign
  | 0xA => parity
  | 0xB => !parity
  | 0xC => sign != overflow
  | 0xD => sign == overflow
  | 0xE => zero || sign != overflow
  | _ => !(zero || sign != overflow)

/-- The image `PUSHF` and `PUSHFD` write. -/
def v86FlagsImage (host : V86Host) (cpu : V86Cpu) (width : Width) : Dword :=
  let low := cpu.flags &&& v86FlagsModelled ||| eflagsReservedOne
  if width = .dword then
    low ||| (cpu.flags &&& v86EflHi) |||
      (if host.segmentToLinear.isNone then
        eflagsRf ||| eflagsVm ||| flagIf (hasFlag cpu.flags eflagsIf) eflagsVif
      else 0)
  else low

def v86FlagsLoad (width : Width) : V86Cpu :=
  let low := value &&& v86FlagsModelled ||| eflagsReservedOne
  if width = .word then { cpu with flags := cpu.flags &&& ~~~widthMask .word ||| low }
  else
    { cpu with
      flags := cpu.flags &&& ~~~(widthMask .word ||| v86EflHi) ||| (value &&& v86EflHi) ||| low }

/-- A protected-mode far transfer the interpreter can follow. -/
def v86IsFarTargetValid (host : V86Host) (cpu : V86Cpu) (selector : Word) (offset : Dword) :
    Bool :=
  match host.selectorDescriptor.bind fun describe => describe selector with
  | none => false
  | some (accessRights, limit) =>
    hasFlag accessRights 0x8000 && hasFlag accessRights 0x0800 &&
      !hasFlag accessRights 0x400000 &&
      selector &&& 3 == cpu.segments x86SregCs &&& 3 && offset ≤ limit

end Ntvdmex.Host.V86
