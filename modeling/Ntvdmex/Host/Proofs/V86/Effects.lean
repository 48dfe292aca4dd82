import Ntvdmex.Host.V86.Step

/-!
# What the actions of the 16-bit interpreter do

Operands are decoded and read by actions that only read.  What an instruction does after its
last way to decline is made of actions that never stop.
-/

namespace Ntvdmex.Host.V86

open Foundation Interp

variable (host : V86Host) (instruction : V86Instruction) (opcode opcode2 : Byte) (offset : Nat)

/-! ## Actions that only read -/

section Reads

deriving instance Leaves OnlyReads for v86CodeByte

variable (cpu : V86Cpu) (modrm : V86Modrm) (width : Width)

deriving instance Leaves OnlyReads for v86Immediate, v86CodeWord, v86ReadMemory, v86SibBase,
  v86BaseAddress32, v86Displace32

instance (modrmByte : Byte) :
    Leaves OnlyReads (v86BaseAddress16 host instruction cpu modrmByte offset) := by
  unfold v86BaseAddress16
  split <;> infer_instance

deriving instance Leaves OnlyReads for v86Displace16

deriving instance Leaves OnlyReads for v86DecodeModrm16, v86DecodeModrm32, v86DecodeModrm

deriving instance Leaves OnlyReads for V86Modrm.declineBeyondGuest, v86ReadRm

instance (base : Dword) (index : Word) (count : Nat) :
    Leaves OnlyReads (v86ReadElement host base index count) := by
  induction count with
  | zero => exact leaves_pure 0
  | succ count ih =>
    unfold v86ReadElement
    infer_instance

deriving instance Leaves OnlyReads for v86Group1Immediate, v86ShiftCount, v86ImulImmediate,
  v86SelectBit, v86BitOperand, v86DoubleShiftCount, v86Port, v86PushedImmediate, v86ExtraPop,
  v86Vector, v86IsLockable, v86JudgeLock

instance (rounds : Nat) : Leaves OnlyReads (v86TakePrefixes host rounds instruction offset) := by
  induction rounds generalizing instruction offset with
  | zero => exact leaves_decline
  | succ rounds ih =>
    unfold v86TakePrefixes
    have hmatch : ∀ byte, Leaves OnlyReads
        (match v86TakePrefix instruction byte with
        | none => (return { instruction, offset } : V86Action V86Prefixed)
        | some taken => do
          declineIf (x86PrefixesMax < offset + 1)
          v86TakePrefixes host rounds taken (offset + 1)) := by
      intro byte
      cases v86TakePrefix instruction byte with
      | none => exact leaves_pure _
      | some taken => dsimp only; infer_instance
    infer_instance

end Reads

/-! ## Actions that never stop -/

section Completes

deriving instance Completes for setRegister, assignRegister, set16, setStackPointer, setSegment,
  setFlags

variable (base : Dword) (modrm : V86Modrm) (nextIp : Word) (width : Width) (value : Dword)

deriving instance Completes for loadFlags, setIp, advance, subtract, logic, alu, shiftRotate,
  stepByOne, v86CodeByte, v86CodeWord, v86Immediate, v86ReadMemory, v86WriteMemory, v86ReadRm,
  v86WriteRm, v86Push, v86Pop, v86PushSegment, v86WriteElement

instance (index : Word) (count : Nat) : Completes (v86ReadElement host base index count) := by
  induction count with
  | zero => exact completes_pure 0
  | succ count ih =>
    unfold v86ReadElement
    infer_instance

deriving instance Completes for v86StoreCount

instance (descriptor : Option (Dword × Dword)) :
    Completes (v86LoadDescriptor instruction opcode2 modrm descriptor) := by
  unfold v86LoadDescriptor
  cases descriptor <;> dsimp only <;> infer_instance

deriving instance Completes for v86DoubleShiftBy, setProductFlags

instance setAccumulatorPair_completes (low high : Dword) :
    Completes (setAccumulatorPair width low high) := by
  unfold setAccumulatorPair
  cases width <;> dsimp only <;> infer_instance

deriving instance Completes for v86Multiply, v86MoveElement, v86CompareFirst, v86PushWordWhole,
  v86PushFarFrame, v86PushFarFrame32, v86JumpFar, v86PushInterruptFrame

instance (port : Word) (base : Dword) (width : Width) (direction : Word)
    (count : Nat) (index : Word) :
    Completes (v86InsLoop host port base width direction count index) := by
  induction count generalizing index with
  | zero => exact completes_pure _
  | succ count ih =>
    unfold v86InsLoop
    infer_instance

instance (port : Word) (base : Dword) (width : Width) (direction : Word)
    (count : Nat) (index : Word) :
    Completes (v86OutsLoop host port base width direction count index) := by
  induction count generalizing index with
  | zero => exact completes_pure _
  | succ count ih =>
    unfold v86OutsLoop
    infer_instance

instance (accumulator : Dword) (width : Width) (direction : Word) (count : Nat) (index : Word) :
    Completes (v86StosLoop base accumulator width direction count index) := by
  induction count generalizing index with
  | zero => exact completes_pure _
  | succ count ih =>
    unfold v86StosLoop
    infer_instance

instance (sourceBase extraBase : Dword) (width : Width) (direction : Word)
    (count : Nat) (indices : V86Indices) :
    Completes (v86MovsLoop host sourceBase extraBase width direction count indices) := by
  induction count generalizing indices with
  | zero => exact completes_pure _
  | succ count ih =>
    unfold v86MovsLoop
    infer_instance

instance (isScas : Bool) (sourceBase extraBase : Dword) (width : Width)
    (direction : Word) (count : Nat) (indices : V86Indices) :
    Completes (v86CompareLoop host instruction isScas sourceBase extraBase width direction count
      indices) := by
  induction count generalizing indices with
  | zero => exact completes_pure _
  | succ count ih =>
    unfold v86CompareLoop
    infer_instance

instance (direction : Word) (count : Nat) (index : Word) :
    Completes (v86LodsLoop host base width direction count index) := by
  induction count generalizing index with
  | zero => exact completes_pure _
  | succ count ih =>
    unfold v86LodsLoop
    infer_instance

instance (stackBase : Dword) (width : Width) (count : Nat) :
    Completes (v86EnterLoop host stackBase width count) := by
  induction count with
  | zero => exact completes_pure _
  | succ count ih =>
    unfold v86EnterLoop
    infer_instance

deriving instance Completes for v86EnterLevels

instance (original : V86Cpu) (width : Width) (indices : List Nat) (stackPointer : Word) :
    Completes (v86PushaLoop host original width indices stackPointer) := by
  induction indices generalizing stackPointer with
  | nil => exact completes_pure _
  | cons index indices ih =>
    unfold v86PushaLoop
    infer_instance

instance (original : V86Cpu) (width : Width) (indices : List Nat) (stackPointer : Word) :
    Completes (v86PopaLoop host original width indices stackPointer) := by
  induction indices generalizing stackPointer with
  | nil => exact completes_pure _
  | cons index indices ih =>
    unfold v86PopaLoop
    infer_instance

end Completes

/-!
## Fetching and executing (`V86Step`)

A step decodes the prefixes and the opcode, and leaves the rest to the ladder.
-/

/-- An opcode, its prefixes, and the position after it. -/
structure V86Fetched where
  instruction : V86Instruction
  opcode : Byte
  offset : Nat

/-- The step up to its opcode, with the checks that come before the ladder. -/
def v86Fetch : V86Action V86Fetched := do
  let cpu ← getCpu
  declineIf (hasFlag cpu.flags eflagsTf)
  let prefixed ← v86TakePrefixes host (x86PrefixesMax + 1) (v86Bare host cpu) 0
  let opcode ← v86CodeByte host prefixed.instruction prefixed.offset
  declineIf (prefixed.instruction.isAddress32 ∧ v86HasImplicitAddress opcode)
  onlyIf prefixed.instruction.isLocked
    (v86JudgeLock host prefixed.instruction opcode (prefixed.offset + 1))
  return { instruction := prefixed.instruction, opcode, offset := prefixed.offset + 1 }

def v86Execute (fetched : V86Fetched) : V86Action Unit :=
  if fetched.opcode = x86Escape then do
    let opcode2 ← v86CodeByte host fetched.instruction fetched.offset
    v86TwoByte host fetched.instruction opcode2 (fetched.offset + 1)
  else v86OneByte host fetched.instruction fetched.opcode fetched.offset

theorem v86Step_eq : v86Step host = v86Fetch host >>= v86Execute host := by
  unfold v86Step v86Fetch v86Opcode v86Execute
  simp only [bind_assoc, pure_bind]

deriving instance Leaves OnlyReads for v86Fetch

variable {host} {machine between : Machine V86Cpu} {fetched : V86Fetched}

theorem v86Step_of_fetch (h : v86Fetch host machine = .ok fetched between) :
    v86Step host machine = v86Execute host fetched between := by
  rw [v86Step_eq]
  exact bind_of_ok h

theorem onlyReads_of_fetch (h : v86Fetch host machine = .ok fetched between) :
    OnlyReads machine between := Leaves.of_ok h

end Ntvdmex.Host.V86
