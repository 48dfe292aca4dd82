import Ntvdmex.Foundation.Interpreter

/-!
# The x86 encodings the interpreters share (`ntvdmex_x86.h`)
-/

namespace Ntvdmex.Host

open Foundation

/-! ## Registers -/

def x86RegAx : Nat := 0
def x86RegCx : Nat := 1
def x86RegDx : Nat := 2
def x86RegBx : Nat := 3
def x86RegSp : Nat := 4
def x86RegBp : Nat := 5
def x86RegSi : Nat := 6
def x86RegDi : Nat := 7
def x86GeneralRegisters : Nat := 8

def x86SregEs : Nat := 0
def x86SregCs : Nat := 1
def x86SregSs : Nat := 2
def x86SregDs : Nat := 3
def x86SregFs : Nat := 4
def x86SregGs : Nat := 5

/-! ## Flags -/

def eflagsCf : Dword := 0x0001
def eflagsReservedOne : Dword := 0x0002
def eflagsPf : Dword := 0x0004
def eflagsAf : Dword := 0x0010
def eflagsZf : Dword := 0x0040
def eflagsSf : Dword := 0x0080
def eflagsTf : Dword := 0x0100
def eflagsIf : Dword := 0x0200
def eflagsDf : Dword := 0x0400
def eflagsOf : Dword := 0x0800
def eflagsRf : Dword := 0x00010000
def eflagsVm : Dword := 0x00020000
def eflagsVif : Dword := 0x00080000

def arithmeticFlags : Dword :=
  eflagsCf ||| eflagsPf ||| eflagsAf ||| eflagsZf ||| eflagsSf ||| eflagsOf

def flagIf (c : Bool) (flag : Dword) : Dword := if c then flag else 0

/-- Whether any bit of `flag` is set. -/
def hasFlag (flags flag : Dword) : Bool := flags &&& flag ≠ 0

def widthMask : Width → Dword
  | .byte => 0xFF
  | .word => 0xFFFF
  | .dword => 0xFFFFFFFF

def widthSignBit : Width → Dword
  | .byte => 0x80
  | .word => 0x8000
  | .dword => 0x80000000

def highWordMask : Dword := 0xFFFF0000
def highByteMask : Dword := 0xFF00

/-- `(UINT32)(INT32)value`, of the value's low bytes. -/
def signExtendFrom (width : Width) (value : Dword) : Dword :=
  match width with
  | .byte => (value.setWidth 8).signExtend 32
  | .word => (value.setWidth 16).signExtend 32
  | .dword => value

/-- `(INT64)` of the value's low bytes, as a signed number. -/
def signedValue (width : Width) (value : Dword) : Int :=
  match width with
  | .byte => (value.setWidth 8).toInt
  | .word => (value.setWidth 16).toInt
  | .dword => value.toInt

variable (modrm opcode : Byte)

def modrmMode : Nat := modrm.toNat / 64
def modrmRegister : Nat := modrm.toNat / 8 % 8
def modrmRegisterMemory : Nat := modrm.toNat % 8

def x86ModeDisp8 : Nat := 1
def x86ModeRegister : Nat := 3
def x86ByteRegisters : Nat := 4

/-! ## Operations that the reg field selects -/

def x86AluAdd : Nat := 0
def x86AluOr : Nat := 1
def x86AluAdc : Nat := 2
def x86AluSbb : Nat := 3
def x86AluAnd : Nat := 4
def x86AluSub : Nat := 5
def x86AluXor : Nat := 6
def x86AluCmp : Nat := 7
def x86ShiftRol : Nat := 0
def x86ShiftRor : Nat := 1
def x86ShiftRcl : Nat := 2
def x86ShiftRcr : Nat := 3
def x86ShiftShl : Nat := 4
def x86ShiftShr : Nat := 5
def x86ShiftSal : Nat := 6
def x86ShiftSar : Nat := 7
def x86Group3Not : Nat := 2
def x86Group3Neg : Nat := 3
def x86Group3Mul : Nat := 4
def x86Group3Imul : Nat := 5
def x86Group3Div : Nat := 6
def x86Group5Call : Nat := 2
def x86Group5Jmp : Nat := 4
def x86Group5Push : Nat := 6
def x86RepeatRep : Nat := 1
def x86RepeatRepne : Nat := 2

/-! ## Prefixes and opcodes -/

def x86PrefixEs : Byte := 0x26
def x86PrefixCs : Byte := 0x2E
def x86PrefixSs : Byte := 0x36
def x86PrefixDs : Byte := 0x3E
def x86PrefixFs : Byte := 0x64
def x86PrefixGs : Byte := 0x65
def x86PrefixOperandSize : Byte := 0x66
def x86PrefixAddressSize : Byte := 0x67
def x86PrefixLock : Byte := 0xF0
def x86PrefixRepne : Byte := 0xF2
def x86PrefixRep : Byte := 0xF3
def x86PrefixesMax : Nat := 4

def x86Escape : Byte := 0x0F
def x86JccNearFirst : Byte := 0x80
def x86JccNearLast : Byte := 0x8F
def x86Op2SetccFirst : Byte := 0x90
def x86Op2SetccLast : Byte := 0x9F
def x86Op2MovzxByte : Byte := 0xB6
def x86Op2MovzxWord : Byte := 0xB7
def x86Op2MovsxByte : Byte := 0xBE
def x86Op2MovsxWord : Byte := 0xBF

def x86OpPushEs : Byte := 0x06
def x86OpPopEs : Byte := 0x07
def x86OpPushCs : Byte := 0x0E
def x86OpPushSs : Byte := 0x16
def x86OpPopSs : Byte := 0x17
def x86OpPushDs : Byte := 0x1E
def x86OpPopDs : Byte := 0x1F
def x86OpIncFirst : Byte := 0x40
def x86OpDecFirst : Byte := 0x48
def x86OpDecLast : Byte := 0x4F
def x86OpPushFirst : Byte := 0x50
def x86OpPushLast : Byte := 0x57
def x86OpPopFirst : Byte := 0x58
def x86OpPopLast : Byte := 0x5F
def x86OpPusha : Byte := 0x60
def x86OpPopa : Byte := 0x61
def x86OpPushImm : Byte := 0x68
def x86OpImulImm : Byte := 0x69
def x86OpPushImm8 : Byte := 0x6A
def x86OpImulImm8 : Byte := 0x6B
def x86OpInsb : Byte := 0x6C
def x86OpIns : Byte := 0x6D
def x86OpOutsb : Byte := 0x6E
def x86OpOuts : Byte := 0x6F
def x86OpJccShortFirst : Byte := 0x70
def x86OpJccShortLast : Byte := 0x7F
def x86OpGroup1Imm8 : Byte := 0x80
def x86OpGroup1Imm : Byte := 0x81
def x86OpGroup1Simm8 : Byte := 0x83
def x86OpTestByte : Byte := 0x84
def x86OpTest : Byte := 0x85
def x86OpXchgByte : Byte := 0x86
def x86OpXchg : Byte := 0x87
def x86OpMovToRmByte : Byte := 0x88
def x86OpMovToRm : Byte := 0x89
def x86OpMovFromRmByte : Byte := 0x8A
def x86OpMovFromRm : Byte := 0x8B
def x86OpMovFromSreg : Byte := 0x8C
def x86OpLea : Byte := 0x8D
def x86OpMovToSreg : Byte := 0x8E
def x86OpPopRm : Byte := 0x8F
def x86OpNop : Byte := 0x90
def x86OpXchgFirst : Byte := 0x91
def x86OpXchgLast : Byte := 0x97
def x86OpCbw : Byte := 0x98
def x86OpCwd : Byte := 0x99
def x86OpCallFar : Byte := 0x9A
def x86OpWait : Byte := 0x9B
def x86OpPushf : Byte := 0x9C
def x86OpPopf : Byte := 0x9D
def x86OpSahf : Byte := 0x9E
def x86OpLahf : Byte := 0x9F
def x86OpMovFromMoffsByte : Byte := 0xA0
def x86OpMovFromMoffs : Byte := 0xA1
def x86OpMovToMoffsByte : Byte := 0xA2
def x86OpMovToMoffs : Byte := 0xA3
def x86OpMovsb : Byte := 0xA4
def x86OpMovs : Byte := 0xA5
def x86OpCmpsb : Byte := 0xA6
def x86OpCmps : Byte := 0xA7
def x86OpTestImmByte : Byte := 0xA8
def x86OpTestImm : Byte := 0xA9
def x86OpStosb : Byte := 0xAA
def x86OpStos : Byte := 0xAB
def x86OpLodsb : Byte := 0xAC
def x86OpLods : Byte := 0xAD
def x86OpScasb : Byte := 0xAE
def x86OpScas : Byte := 0xAF
def x86OpMovImmByteFirst : Byte := 0xB0
def x86OpMovImmByteLast : Byte := 0xB7
def x86OpMovImmFirst : Byte := 0xB8
def x86OpMovImmLast : Byte := 0xBF
def x86OpShiftImmByte : Byte := 0xC0
def x86OpShiftImm : Byte := 0xC1
def x86OpRetImm : Byte := 0xC2
def x86OpRet : Byte := 0xC3
def x86OpLes : Byte := 0xC4
def x86OpLds : Byte := 0xC5
def x86OpMovImmRmByte : Byte := 0xC6
def x86OpMovImmRm : Byte := 0xC7
def x86OpEnter : Byte := 0xC8
def x86OpLeave : Byte := 0xC9
def x86OpRetfImm : Byte := 0xCA
def x86OpRetf : Byte := 0xCB
def x86OpInt3 : Byte := 0xCC
def x86OpInt : Byte := 0xCD
def x86OpIret : Byte := 0xCF
def x86OpShiftOneByte : Byte := 0xD0
def x86OpShiftOne : Byte := 0xD1
def x86OpShiftClByte : Byte := 0xD2
def x86OpShiftCl : Byte := 0xD3
def x86OpXlat : Byte := 0xD7
def x86OpLoopne : Byte := 0xE0
def x86OpLoope : Byte := 0xE1
def x86OpLoop : Byte := 0xE2
def x86OpJcxz : Byte := 0xE3
def x86OpInImmByte : Byte := 0xE4
def x86OpInImm : Byte := 0xE5
def x86OpOutImmByte : Byte := 0xE6
def x86OpOutImm : Byte := 0xE7
def x86OpCall : Byte := 0xE8
def x86OpJmp : Byte := 0xE9
def x86OpJmpFar : Byte := 0xEA
def x86OpJmpShort : Byte := 0xEB
def x86OpInDxByte : Byte := 0xEC
def x86OpInDx : Byte := 0xED
def x86OpOutDxByte : Byte := 0xEE
def x86OpOutDx : Byte := 0xEF
def x86OpCmc : Byte := 0xF5
def x86OpGroup3Byte : Byte := 0xF6
def x86OpGroup3 : Byte := 0xF7
def x86OpClc : Byte := 0xF8
def x86OpStc : Byte := 0xF9
def x86OpCli : Byte := 0xFA
def x86OpSti : Byte := 0xFB
def x86OpCld : Byte := 0xFC
def x86OpStd : Byte := 0xFD
def x86OpGroup4 : Byte := 0xFE
def x86OpGroup5 : Byte := 0xFF

def vdmBop1 : Byte := 0xC4

/-- Bit 0 of an opcode: the operand is of the operand size, not a byte. -/
def isWide : Bool := opcode.getLsbD 0

def opcodeLow : Nat := opcode.toNat % 8

def conditionOf : Nat := opcode.toNat % 16

end Ntvdmex.Host
