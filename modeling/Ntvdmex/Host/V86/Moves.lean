import Ntvdmex.Host.V86.Decode

/-!
# The moves, ports and strings of the 16-bit interpreter

The blocks of `V86Step` that move data without the stack.  `offset` is the position after the
opcode byte.
-/

namespace Ntvdmex.Host.V86

open Foundation Interp

variable (host : V86Host) (instruction : V86Instruction) (opcode : Byte) (offset : Nat)

/-! ## Moves -/

/-- `MOV r/m, r` and `MOV r, r/m`. -/
def v86Mov : V86Action Unit := do
  let width := instruction.widthOf opcode
  let modrm ← v86DecodeModrm host instruction offset
  modrm.declineBeyondGuest
  let cpu ← getCpu
  (if opcode = x86OpMovFromRmByte ∨ opcode = x86OpMovFromRm then do
    let value ← v86ReadRm host modrm width
    setRegister modrm.register width value
  else v86WriteRm modrm width (v86GetRegister cpu modrm.register width))
  advance (offset + modrm.length)

/-- `MOV r/m, imm`. -/
def v86MovImmediateRm : V86Action Unit := do
  let width := instruction.widthOf opcode
  let modrm ← v86DecodeModrm host instruction offset
  declineIf (modrm.register ≠ 0)
  modrm.declineBeyondGuest
  let value ← v86Immediate host instruction (offset + modrm.length) width
  v86WriteRm modrm width value
  advance (offset + modrm.length + width.bytes)

/-- `XCHG r/m, r`. -/
def v86Xchg : V86Action Unit := do
  let width := instruction.widthOf opcode
  let modrm ← v86DecodeModrm host instruction offset
  modrm.declineBeyondGuest
  let cpu ← getCpu
  let registerValue := v86GetRegister cpu modrm.register width
  let rmValue ← v86ReadRm host modrm width
  v86WriteRm modrm width registerValue
  setRegister modrm.register width rmValue
  advance (offset + modrm.length)

/-- `MOV r/m, Sreg`. -/
def v86MovFromSreg (modrm : V86Modrm) : V86Action Unit := do
  let cpu ← getCpu
  let value := (cpu.segments modrm.register).setWidth 32
  (if modrm.isMemory then v86WriteMemory modrm.linear .word value
  else if instruction.isOperand32 then assignRegister modrm.registerMemory value
  else set16 modrm.registerMemory (value.setWidth 16))
  advance (offset + modrm.length)

/-- `MOV Sreg, r/m`. -/
def v86MovToSreg (modrm : V86Modrm) : V86Action Unit := do
  declineIf (modrm.register = x86SregCs)
  let value ← v86ReadRm host modrm .word
  setSegment modrm.register (value.setWidth 16)
  advance (offset + modrm.length)

def v86MovSreg : V86Action Unit := do
  let modrm ← v86DecodeModrm host instruction offset
  modrm.declineBeyondGuest
  declineIf (x86SregGs < modrm.register)
  if opcode = x86OpMovFromSreg then v86MovFromSreg instruction offset modrm
  else v86MovToSreg host offset modrm

/-- `LEA`. -/
def v86Lea : V86Action Unit := do
  let modrm ← v86DecodeModrm host instruction offset
  declineIf (modrm.isMemory = false)
  setRegister modrm.register instruction.operandSize modrm.effectiveAddress
  advance (offset + modrm.length)

/-- `MOV r, imm`. -/
def v86MovImmediate (width : Width) : V86Action Unit := do
  let value ← v86Immediate host instruction offset width
  setRegister (opcodeLow opcode) width value
  advance (offset + width.bytes)

/-- `MOV` between the accumulator and an absolute offset. -/
def v86MovMoffs : V86Action Unit := do
  let address ← v86CodeWord host instruction offset
  let cpu ← getCpu
  let linear := v86SegmentBase host (cpu.segments (instruction.segmentOr x86SregDs)) +
    address.setWidth 32
  let width := instruction.widthOf opcode
  declineIf (v86GuestLimit ≤ linear)
  (if opcode ≤ x86OpMovFromMoffs then do
    let value ← v86ReadMemory host linear width
    setRegister x86RegAx width value
  else v86WriteMemory linear width (v86GetRegister cpu x86RegAx width))
  advance (offset + 2)

/-- `XLAT`. -/
def v86Xlat : V86Action Unit := do
  let cpu ← getCpu
  let index := v86Get16 cpu x86RegBx + (v86Get8 cpu x86RegAx).setWidth 16
  let linear := v86SegmentBase host (cpu.segments (instruction.segmentOr x86SregDs)) +
    index.setWidth 32
  declineIf (v86GuestLimit ≤ linear)
  let value ← read host.toHost linear
  setRegister x86RegAx .byte (value.setWidth 32)
  advance offset

/-- `LES` and `LDS`. -/
def v86LesLds : V86Action Unit := do
  declineIf host.segmentToLinear.isSome
  let modrm ← v86DecodeModrm host instruction offset
  declineIf (modrm.isMemory = false ∨
    v86GuestLimit < modrm.linear + BitVec.ofNat 32 (instruction.operandSize.bytes + 2))
  let value ← v86ReadMemory host modrm.linear instruction.operandSize
  setRegister modrm.register instruction.operandSize value
  let selector ←
    v86ReadMemory host (modrm.linear + BitVec.ofNat 32 instruction.operandSize.bytes) .word
  setSegment (if opcode = x86OpLes then x86SregEs else x86SregDs) (selector.setWidth 16)
  advance (offset + modrm.length)

/-- `XCHG AX, r`. -/
def v86XchgAccumulator : V86Action Unit := do
  let width := instruction.operandSize
  let cpu ← getCpu
  let index := opcodeLow opcode
  setRegister x86RegAx width (v86GetRegister cpu index width)
  setRegister index width (v86GetRegister cpu x86RegAx width)
  advance offset

/-- `LAHF`. -/
def v86Lahf : V86Action Unit := do
  let cpu ← getCpu
  setRegister x86RegSp .byte (cpu.flags &&& v86LahfFlags ||| eflagsReservedOne)
  advance offset

/-- `SAHF`. -/
def v86Sahf : V86Action Unit := do
  let cpu ← getCpu
  setFlags fun flags =>
    flags &&& ~~~v86LahfFlags ||| ((v86Get8 cpu x86RegSp).setWidth 32 &&& v86LahfFlags)
  advance offset

def v86FlagInstruction (change : Dword → Dword) : V86Action Unit := do
  setFlags change
  advance offset

/-- The port of `IN` and `OUT`, an immediate byte or `DX`. -/
def v86Port (isImmediate : Bool) : V86Action Word :=
  if isImmediate then do
    let port ← v86CodeByte host instruction offset
    return port.setWidth 16
  else do
    let cpu ← getCpu
    return v86Get16 cpu x86RegDx

/-- `IN`. -/
def v86In : V86Action Unit := do
  let width := instruction.widthOf opcode
  let isImmediate : Bool := opcode ≤ x86OpInImm
  let port ← v86Port host instruction offset isImmediate
  let value ← portIn host.toHost port width.bytes
  setRegister x86RegAx width (value &&& widthMask width)
  advance (offset + (if isImmediate then 1 else 0))

/-- `OUT`. -/
def v86Out : V86Action Unit := do
  let width := instruction.widthOf opcode
  let isImmediate : Bool := opcode ≤ x86OpOutImm
  let port ← v86Port host instruction offset isImmediate
  let cpu ← getCpu
  portOut port width.bytes (v86GetRegister cpu x86RegAx width)
  advance (offset + (if isImmediate then 1 else 0))

/-! ## Strings -/

/-- The elements of `INS`; the index after them. -/
def v86InsLoop (port : Word) (base : Dword) (width : Width) (direction : Word) :
    Nat → Word → V86Action Word
  | 0, index => return index
  | count + 1, index => do
    let value ← portIn host.toHost port width.bytes
    v86WriteElement base index width value
    v86InsLoop port base width direction count (index + direction)

/-- `INS`. -/
def v86Ins : V86Action Unit := do
  let width := instruction.widthOf opcode
  let cpu ← getCpu
  let base := v86SegmentBase host (cpu.segments x86SregEs)
  let index ← v86InsLoop host (v86Get16 cpu x86RegDx) base width (v86Direction cpu width)
    (v86StringCount instruction cpu) (v86Get16 cpu x86RegDi)
  set16 x86RegDi index
  v86StoreCount instruction 0
  advance offset

/-- The elements of `OUTS`; the index after them. -/
def v86OutsLoop (port : Word) (base : Dword) (width : Width) (direction : Word) :
    Nat → Word → V86Action Word
  | 0, index => return index
  | count + 1, index => do
    let value ← v86ReadElement host base index width.bytes
    portOut port width.bytes value
    v86OutsLoop port base width direction count (index + direction)

/-- `OUTS`. -/
def v86Outs : V86Action Unit := do
  let width := instruction.widthOf opcode
  let cpu ← getCpu
  let base := v86SegmentBase host (cpu.segments (instruction.segmentOr x86SregDs))
  let index ← v86OutsLoop host (v86Get16 cpu x86RegDx) base width (v86Direction cpu width)
    (v86StringCount instruction cpu) (v86Get16 cpu x86RegSi)
  set16 x86RegSi index
  v86StoreCount instruction 0
  advance offset

/-- The elements of `STOS`; the index after them. -/
def v86StosLoop (base accumulator : Dword) (width : Width) (direction : Word) :
    Nat → Word → V86Action Word
  | 0, index => return index
  | count + 1, index => do
    v86WriteElement base index width accumulator
    v86StosLoop base accumulator width direction count (index + direction)

/-- `STOS`. -/
def v86Stos : V86Action Unit := do
  let width := instruction.widthOf opcode
  let cpu ← getCpu
  let base := v86SegmentBase host (cpu.segments x86SregEs)
  let index ← v86StosLoop base (cpu.registers x86RegAx) width (v86Direction cpu width)
    (v86StringCount instruction cpu) (v86Get16 cpu x86RegDi)
  set16 x86RegDi index
  v86StoreCount instruction 0
  advance offset

/-- The source and destination indices of a string instruction. -/
structure V86Indices where
  source : Word
  destination : Word

/-- One element of `MOVS`, a byte read and written at a time. -/
def v86MoveElement (sourceBase extraBase : Dword) (indices : V86Indices) (width : Width) :
    V86Action Unit :=
  forEach
    (fun position => do
      let byte ← read host.toHost
        (sourceBase + (indices.source + BitVec.ofNat 16 position).setWidth 32)
      write (extraBase + (indices.destination + BitVec.ofNat 16 position).setWidth 32) byte)
    (List.range width.bytes)

def v86MovsLoop (sourceBase extraBase : Dword) (width : Width) (direction : Word) :
    Nat → V86Indices → V86Action V86Indices
  | 0, indices => return indices
  | count + 1, indices => do
    v86MoveElement host sourceBase extraBase indices width
    v86MovsLoop sourceBase extraBase width direction count
      { source := indices.source + direction, destination := indices.destination + direction }

/-- `MOVS`. -/
def v86Movs : V86Action Unit := do
  let width := instruction.widthOf opcode
  let cpu ← getCpu
  let sourceBase := v86SegmentBase host (cpu.segments (instruction.segmentOr x86SregDs))
  let extraBase := v86SegmentBase host (cpu.segments x86SregEs)
  let indices ← v86MovsLoop host sourceBase extraBase width (v86Direction cpu width)
    (v86StringCount instruction cpu)
    { source := v86Get16 cpu x86RegSi, destination := v86Get16 cpu x86RegDi }
  set16 x86RegSi indices.source
  set16 x86RegDi indices.destination
  v86StoreCount instruction 0
  advance offset

/-- Where a comparison has come to: the indices, and the count that is left. -/
structure V86Compared where
  indices : V86Indices
  count : Nat

/-- The element of `CMPS`, or the accumulator of `SCAS`. -/
def v86CompareFirst (isScas : Bool) (sourceBase : Dword) (indices : V86Indices) (width : Width) :
    V86Action Dword :=
  if isScas then do
    let cpu ← getCpu
    return v86GetRegister cpu x86RegAx width
  else v86ReadElement host sourceBase indices.source width.bytes

/-- `REPE` ends on ZF clear, `REPNE` on ZF set. -/
def v86CompareEnds (cpu : V86Cpu) : Bool :=
  (instruction.repeated = x86RepeatRep && !hasFlag cpu.flags eflagsZf) ||
    (instruction.repeated = x86RepeatRepne && hasFlag cpu.flags eflagsZf)

def v86CompareLoop (isScas : Bool) (sourceBase extraBase : Dword) (width : Width)
    (direction : Word) : Nat → V86Indices → V86Action V86Compared
  | 0, indices => return { indices, count := 0 }
  | count + 1, indices => do
    let second ← v86ReadElement host extraBase indices.destination width.bytes
    let first ← v86CompareFirst host isScas sourceBase indices width
    let _ ← subtract first second false width
    let cpu ← getCpu
    let next : V86Indices := {
      source := if isScas then indices.source else indices.source + direction
      destination := indices.destination + direction }
    if v86CompareEnds instruction cpu then return { indices := next, count }
    else v86CompareLoop isScas sourceBase extraBase width direction count next

/-- `CMPS` and `SCAS`. -/
def v86Compare : V86Action Unit := do
  let width := instruction.widthOf opcode
  let isScas : Bool := x86OpScasb ≤ opcode
  let cpu ← getCpu
  let sourceBase := v86SegmentBase host (cpu.segments (instruction.segmentOr x86SregDs))
  let extraBase := v86SegmentBase host (cpu.segments x86SregEs)
  let compared ← v86CompareLoop host instruction isScas sourceBase extraBase width
    (v86Direction cpu width) (v86StringCount instruction cpu)
    { source := v86Get16 cpu x86RegSi, destination := v86Get16 cpu x86RegDi }
  onlyIf (isScas = false) (set16 x86RegSi compared.indices.source)
  set16 x86RegDi compared.indices.destination
  v86StoreCount instruction compared.count
  advance offset

/-- The elements of `LODS`; the index after them. -/
def v86LodsLoop (base : Dword) (width : Width) (direction : Word) : Nat → Word → V86Action Word
  | 0, index => return index
  | count + 1, index => do
    let value ← v86ReadElement host base index width.bytes
    setRegister x86RegAx width value
    v86LodsLoop base width direction count (index + direction)

/-- `LODS`. -/
def v86Lods : V86Action Unit := do
  let width := instruction.widthOf opcode
  let cpu ← getCpu
  let base := v86SegmentBase host (cpu.segments (instruction.segmentOr x86SregDs))
  let index ← v86LodsLoop host base width (v86Direction cpu width)
    (v86StringCount instruction cpu) (v86Get16 cpu x86RegSi)
  set16 x86RegSi index
  v86StoreCount instruction 0
  advance offset

end Ntvdmex.Host.V86
