import Ntvdmex.Host.X86

/-!
# X86 instruction lengths (`x86len.c`)

The bytes are an array, and a read past its end is a fault.  Positions are `UINT`s.
-/

namespace Ntvdmex.Host.X86Len

open Foundation

local instance byteLawfulBEq : LawfulBEq Byte := inferInstance

/-! ## The opcode maps -/

def xlNone : Nat := 0
def xlIb : Nat := 1
def xlIz : Nat := 2
def xlIw : Nat := 3
def xlMoff : Nat := 4
def xlEnter : Nat := 5
def xlFar : Nat := 6
def xlG3b : Nat := 7
def xlG3z : Nat := 8
def xlMr : Nat := 0x10

def x86ModeDispFull : Nat := 2
def x86RmSib : Nat := 4
def x86RmDisp32 : Nat := 5
def x86Rm16Disp16 : Nat := 6
def x86Disp16Size : Dword := 2
def x86Disp32Size : Dword := 4
def x86Imm16Size : Dword := 2
def x86Imm32Size : Dword := 4
def x86SelectorSize : Dword := 2
def x86EnterImmediateSize : Dword := 3
def x86Group3ImmediateForms : Nat := 2
def x86MaxPrefixes : Nat := 8
def x86Escape38 : Byte := 0x38
def x86Escape3a : Byte := 0x3A

/-- `g_X86OneByteTable`: `XL_MR` and the kind of the immediate. -/
def x86OneByteTable : List Nat := [
  0x10, 0x10, 0x10, 0x10, 1, 2, 0, 0,
  0x10, 0x10, 0x10, 0x10, 1, 2, 0, 0,
  0x10, 0x10, 0x10, 0x10, 1, 2, 0, 0,
  0x10, 0x10, 0x10, 0x10, 1, 2, 0, 0,
  0x10, 0x10, 0x10, 0x10, 1, 2, 0, 0,
  0x10, 0x10, 0x10, 0x10, 1, 2, 0, 0,
  0x10, 0x10, 0x10, 0x10, 1, 2, 0, 0,
  0x10, 0x10, 0x10, 0x10, 1, 2, 0, 0,
  0, 0, 0, 0, 0, 0, 0, 0,
  0, 0, 0, 0, 0, 0, 0, 0,
  0, 0, 0, 0, 0, 0, 0, 0,
  0, 0, 0, 0, 0, 0, 0, 0,
  0, 0, 0x10, 0x10, 0, 0, 0, 0,
  2, 0x12, 1, 0x11, 0, 0, 0, 0,
  1, 1, 1, 1, 1, 1, 1, 1,
  1, 1, 1, 1, 1, 1, 1, 1,
  0x11, 0x12, 0x11, 0x11, 0x10, 0x10, 0x10, 0x10,
  0x10, 0x10, 0x10, 0x10, 0x10, 0x10, 0x10, 0x10,
  0, 0, 0, 0, 0, 0, 0, 0,
  0, 0, 6, 0, 0, 0, 0, 0,
  4, 4, 4, 4, 0, 0, 0, 0,
  1, 2, 0, 0, 0, 0, 0, 0,
  1, 1, 1, 1, 1, 1, 1, 1,
  2, 2, 2, 2, 2, 2, 2, 2,
  0x11, 0x11, 3, 0, 0x10, 0x10, 0x11, 0x12,
  5, 0, 3, 0, 0, 1, 0, 0,
  0x10, 0x10, 0x10, 0x10, 1, 1, 0, 0,
  0x10, 0x10, 0x10, 0x10, 0x10, 0x10, 0x10, 0x10,
  1, 1, 1, 1, 1, 1, 1, 1,
  2, 2, 6, 1, 0, 0, 0, 0,
  0, 0, 0, 0, 0, 0, 0x17, 0x18,
  0, 0, 0, 0, 0, 0, 0x10, 0x10]

def x86OneByteEntry (opcode : Byte) : Nat := x86OneByteTable.getD opcode.toNat 0

def x86IsPrefix (opcode : Byte) : Bool :=
  opcode == x86PrefixEs || opcode == x86PrefixCs || opcode == x86PrefixSs ||
    opcode == x86PrefixDs || opcode == x86PrefixFs || opcode == x86PrefixGs ||
    opcode == x86PrefixOperandSize || opcode == x86PrefixAddressSize ||
    opcode == x86PrefixLock || opcode == x86PrefixRepne || opcode == x86PrefixRep

def x86TwoByteNone : List Byte := [
  0x05, 0x06, 0x07, 0x08, 0x09, 0x0B, 0x0E, 0x30, 0x31, 0x32, 0x33, 0x34, 0x35, 0x77, 0xA0, 0xA1,
  0xA2, 0xA8, 0xA9, 0xAA, 0xC8, 0xC9, 0xCA, 0xCB, 0xCC, 0xCD, 0xCE, 0xCF]

def x86TwoByteImmediate : List Byte := [
  0x70, 0x71, 0x72, 0x73, 0xA4, 0xAC, 0xBA, 0xC2, 0xC4, 0xC5, 0xC6]

def x86TwoByteEntry (opcode : Byte) : Nat :=
  if opcode ∈ x86TwoByteNone then xlNone
  else if opcode ∈ x86TwoByteImmediate then xlMr + xlIb
  else if x86JccNearFirst ≤ opcode ∧ opcode ≤ x86JccNearLast then xlIz
  else xlMr + xlNone

def x86ModeDisplacement (mode : Nat) (isAddress32 : Bool) : Dword :=
  if mode = x86ModeDisp8 then 1
  else if mode = x86ModeDispFull then (if isAddress32 then x86Disp32Size else x86Disp16Size)
  else 0

variable (bytes : List Byte)

def x86SibDisplacement (offset : Dword) (mode : Nat) : Option Dword :=
  if mode = 0 then do
    let sib ← bytes[offset.toNat]?
    return if modrmRegisterMemory sib = x86RmDisp32 then x86Disp32Size else 0
  else some 0

def x86ModrmLength32 (offset length : Dword) (modrm : Byte) : Option Dword :=
  if modrmRegisterMemory modrm = x86RmSib then
    if length ≤ offset + 1 then some 0
    else do
      let displacement ← x86SibDisplacement bytes (offset + 1) (modrmMode modrm)
      return 1 + displacement + 1 + x86ModeDisplacement (modrmMode modrm) true
  else
    some (1 +
      (if modrmMode modrm = 0 ∧ modrmRegisterMemory modrm = x86RmDisp32 then x86Disp32Size else 0) +
      x86ModeDisplacement (modrmMode modrm) true)

def x86ModrmLength16 (modrm : Byte) : Dword :=
  1 + (if modrmMode modrm = 0 ∧ modrmRegisterMemory modrm = x86Rm16Disp16 then x86Disp16Size
    else 0) +
    x86ModeDisplacement (modrmMode modrm) false

/-- The bytes of a ModRM byte with what follows it; 0 where it runs off the end. -/
def x86ModrmLength (offset length : Dword) (isAddress32 : Bool) : Option Dword :=
  if length ≤ offset then some 0
  else do
    let modrm ← bytes[offset.toNat]?
    if modrmMode modrm = x86ModeRegister then return 1
    else if isAddress32 then x86ModrmLength32 bytes offset length modrm
    else return x86ModrmLength16 modrm

/-! ## Instructions -/

/-- The sizes that the prefixes leave, and the position they end at. -/
structure X86Prefixed where
  isOperand32 : Bool
  isAddress32 : Bool
  offset : Dword

/-- The sizes and the position after a prefix byte. -/
def X86Prefixed.take (prefixed : X86Prefixed) (isDefault32 : Bool) (byte : Byte) : X86Prefixed where
  isOperand32 := if byte = x86PrefixOperandSize then !isDefault32 else prefixed.isOperand32
  isAddress32 := if byte = x86PrefixAddressSize then !isDefault32 else prefixed.isAddress32
  offset := prefixed.offset + 1

/-- The prefix loop; `some none` is the return of 0 past `X86_MAX_PREFIXES`. -/
def x86SkipPrefixes (length : Dword) (isDefault32 : Bool) :
    Nat → X86Prefixed → Option (Option X86Prefixed)
  | 0, _ => some none
  | rounds + 1, prefixed =>
    if length ≤ prefixed.offset then some (some prefixed)
    else do
      let byte ← bytes[prefixed.offset.toNat]?
      if x86IsPrefix byte then
        x86SkipPrefixes length isDefault32 rounds (prefixed.take isDefault32 byte)
      else return some prefixed

/-- `(offset <= length) ? offset - start : 0`. -/
def x86LengthFrom (start length offset : Dword) : Dword :=
  if offset ≤ length then offset - start else 0

/-- The bytes of an immediate; `none` where the kind is not one. -/
def x86ImmediateSize (kind : Nat) (prefixed : X86Prefixed) (registerField : Option Nat) :
    Option Dword :=
  let immediateSize := if prefixed.isOperand32 then x86Imm32Size else x86Imm16Size
  let isImmediateForm : Bool := registerField.any fun field => field < x86Group3ImmediateForms
  if kind = xlNone then some 0
  else if kind = xlIb then some 1
  else if kind = xlIz then some immediateSize
  else if kind = xlIw then some x86Imm16Size
  else if kind = xlMoff then
    some (if prefixed.isAddress32 then x86Imm32Size else x86Imm16Size)
  else if kind = xlEnter then some x86EnterImmediateSize
  else if kind = xlFar then some (immediateSize + x86SelectorSize)
  else if kind = xlG3b then some (if isImmediateForm then 1 else 0)
  else if kind = xlG3z then some (if isImmediateForm then immediateSize else 0)
  else none

/-- The length, from the end of the opcode and the ModRM byte on. -/
def x86FinishLength (start length : Dword) (prefixed : X86Prefixed) (offset : Dword) (kind : Nat)
    (registerField : Option Nat) : Dword :=
  match x86ImmediateSize kind prefixed registerField with
  | some size => x86LengthFrom start length (offset + size)
  | none => 0

def x86EntryLength (start length : Dword) (prefixed : X86Prefixed) (offset : Dword)
    (entry : Nat) : Option Dword :=
  if entry / 16 = 1 then
    if length ≤ offset then some 0
    else do
      let modrm ← bytes[offset.toNat]?
      let modrmLength ← x86ModrmLength bytes offset length prefixed.isAddress32
      if modrmLength = 0 then some 0
      else some (x86FinishLength start length prefixed (offset + modrmLength) (entry % 16)
        (some (modrmRegister modrm)))
  else some (x86FinishLength start length prefixed offset (entry % 16) none)

def x86ThreeByteLength (start length : Dword) (prefixed : X86Prefixed) (offset : Dword)
    (opcode2 : Byte) : Option Dword :=
  if length ≤ offset then some 0
  else do
    let modrmLength ← x86ModrmLength bytes (offset + 1) length prefixed.isAddress32
    if modrmLength = 0 then some 0
    else some (x86LengthFrom start length
      (offset + 1 + modrmLength + (if opcode2 = x86Escape3a then 1 else 0)))

def x86EscapedLength (start length : Dword) (prefixed : X86Prefixed) (offset : Dword) :
    Option Dword :=
  if length ≤ offset then some 0
  else do
    let opcode2 ← bytes[offset.toNat]?
    if opcode2 = x86Escape38 ∨ opcode2 = x86Escape3a then
      x86ThreeByteLength bytes start length prefixed (offset + 1) opcode2
    else x86EntryLength bytes start length prefixed (offset + 1) (x86TwoByteEntry opcode2)

def x86OpcodeLength (start length : Dword) (prefixed : X86Prefixed) : Option Dword :=
  if length ≤ prefixed.offset then some 0
  else do
    let opcode ← bytes[prefixed.offset.toNat]?
    if opcode = x86Escape then
      x86EscapedLength bytes start length prefixed (prefixed.offset + 1)
    else
      x86EntryLength bytes start length prefixed (prefixed.offset + 1) (x86OneByteEntry opcode)

def x86InstructionLength (offset length : Dword) (isDefault32 : Bool) : Option Dword := do
  let skipped ← x86SkipPrefixes bytes length isDefault32 (x86MaxPrefixes + 1)
    { isOperand32 := isDefault32, isAddress32 := isDefault32, offset }
  match skipped with
  | none => return 0
  | some prefixed => x86OpcodeLength bytes offset length prefixed

/-! ## Instruction boundaries -/

def x86BoundarySpan : Dword := 48
def x86VoteFraction : Nat := 4
def x86MaxInstruction : Nat := 16

/-- The inner loop of `X86IsInstructionStart`, the instructions from `position` up to `offset`: the
position it ends at, `some none` when the rounds do not suffice. -/
def x86Stream (offset length : Dword) (isDefault32 : Bool) : Nat → Dword → Option (Option Dword)
  | 0, _ => some none
  | rounds + 1, position =>
    if position < offset then do
      let instructionLength ← x86InstructionLength bytes position length isDefault32
      if instructionLength = 0 then return some position
      else x86Stream offset length isDefault32 rounds (position + instructionLength)
    else some (some position)

/-- The votes of the streams that start at `streamStart` and at the positions after it. -/
def x86Votes (rounds : Nat) (offset length : Dword) (isDefault32 : Bool) :
    Nat → Dword → Option (Option Nat)
  | 0, _ => some (some 0)
  | tries + 1, streamStart => do
    let ended ← x86Stream bytes offset length isDefault32 rounds streamStart
    match ended with
    | none => return none
    | some position => do
      let votes ← x86Votes rounds offset length isDefault32 tries (streamStart + 1)
      return votes.map fun votes => (if position = offset then 1 else 0) + votes

/-- `X86IsInstructionStart`; the rounds are those of each stream. -/
def x86IsInstructionStart (rounds : Nat) (offset length : Dword) (isDefault32 : Bool) :
    Option (Option Bool) :=
  let span := if offset < x86BoundarySpan then offset else x86BoundarySpan
  if length ≤ offset then some (some false)
  else do
    let votes ← x86Votes bytes rounds offset length isDefault32 span.toNat (offset - span)
    return votes.map fun votes =>
      if span = 0 then true else decide (span.toNat ≤ votes * x86VoteFraction)

/-- The loop of `X86IsIntSiteReal` over the positions before the site; the verdict. -/
def x86IsUnowned (rounds : Nat) (offset length : Dword) (isDefault32 : Bool) :
    Nat → Nat → Option (Option Bool)
  | 0, _ => some (some true)
  | steps + 1, back =>
    if back ≤ offset.toNat then do
      let before := offset - BitVec.ofNat 32 back
      let instructionLength ← x86InstructionLength bytes before length isDefault32
      if back < instructionLength.toNat then do
        let isStart ← x86IsInstructionStart bytes rounds before length isDefault32
        match isStart with
        | none => return none
        | some true => return some false
        | some false => x86IsUnowned rounds offset length isDefault32 steps (back + 1)
      else x86IsUnowned rounds offset length isDefault32 steps (back + 1)
    else some (some true)

/-- `X86IsIntSiteReal`. -/
def x86IsIntSiteReal (rounds : Nat) (offset length : Dword) (isDefault32 : Bool) :
    Option (Option Bool) := do
  let isStart ← x86IsInstructionStart bytes rounds offset length isDefault32
  match isStart with
  | none => return none
  | some true => return some true
  | some false =>
    x86IsUnowned bytes rounds offset length isDefault32 (x86MaxInstruction - 1) 1

end Ntvdmex.Host.X86Len
