import Ntvdmex.Host.Pm32.Step

/-!
# What the actions of the 32-bit interpreter do, and leave undone

Operands are decoded, probed and read by actions that only read.  What an instruction does
after its last way to decline is made of actions that never stop.
-/

namespace Ntvdmex.Host.Pm32

open Foundation Interp

variable (host : Pm32Host) (instruction : Pm32Instruction) (opcode opcode2 : Byte) (offset : Nat)

/-! ## Actions that only read -/

section Reads

deriving instance Leaves OnlyReads for pm32CodeByte

variable (width : Width)

deriving instance Leaves OnlyReads for pm32CodeImmediate, pm32CodeSigned

deriving instance Leaves OnlyReads for pm32Displace, pm32SibBase, pm32BaseAddress, pm32Decode

deriving instance Leaves OnlyReads for pm32ProbeRm, pm32ReadRm, pm32CanPush, pm32PushedImmediate,
  pm32ImulImmediate, pm32Group1Immediate, pm32LeaBase, pm32ProbeElement, pm32ShiftCount, pm32Port,
  pm32ExtraPop, pm32DoubleShiftCount

instance (rounds : Nat) : Leaves OnlyReads (pm32TakePrefixes host rounds instruction offset) := by
  induction rounds generalizing instruction offset with
  | zero => exact leaves_decline
  | succ rounds ih =>
    unfold pm32TakePrefixes
    have hmatch : ∀ byte, Leaves OnlyReads
        (match pm32TakePrefix instruction byte with
        | some taken => (do
          declineIf (x86PrefixesMax < offset + 1)
          pm32TakePrefixes host rounds taken (offset + 1) : Pm32Action Pm32Prefixed)
        | none => do
          declineIf (byte = x86PrefixAddressSize ∨ byte = x86PrefixLock)
          return { instruction, opcode := byte, offset := offset + 1 }) := by
      intro byte
      cases pm32TakePrefix instruction byte <;> dsimp only <;> infer_instance
    infer_instance

end Reads

/-! ## Actions that never stop -/

section Completes

deriving instance Completes for setRegister, assignRegister, setFlags, setEip, advance

variable (modrm : Pm32Modrm) (width : Width)

deriving instance Completes for pm32CodeImmediate, pm32ReadRm, pm32WriteRm, pm32PushFrom, pm32Push,
  pm32PopFrom, pm32Pop, pm32StoreProduct, pm32MoveElement

instance setAccumulatorPair_completes (low high : Dword) :
    Completes (setAccumulatorPair width low high) := by
  unfold setAccumulatorPair
  cases width <;> dsimp only <;> infer_instance

deriving instance Completes for pm32Multiply, pm32Negate

instance (original : Pm32Cpu) (indices : List Nat)
    (stackPointer : Dword) : Completes (pm32PushadLoop original indices stackPointer) := by
  induction indices generalizing stackPointer with
  | nil => exact completes_pure ()
  | cons index indices ih =>
    unfold pm32PushadLoop
    infer_instance

instance (original : Pm32Cpu) (indices : List Nat) (stackPointer : Dword) (saved : Nat → Dword) :
    Completes (pm32PopadLoop host original indices stackPointer saved) := by
  induction indices generalizing stackPointer saved with
  | nil => exact completes_pure saved
  | cons index indices ih =>
    unfold pm32PopadLoop
    infer_instance

instance (string : Pm32String) (count : Nat) (indices : Pm32Indices) :
    Completes (pm32StringLoop host string count indices) := by
  induction count generalizing indices with
  | zero => exact completes_pure ()
  | succ count ih =>
    unfold pm32StringLoop
    infer_instance

end Completes

end Ntvdmex.Host.Pm32

/-!
## A declined instruction has changed nothing (`Pm32Step`)

Each block of the ladder declines into a machine that has only been read and probed, and so
does the step.
-/

set_option synthInstance.maxSize 2000

namespace Ntvdmex.Host.Pm32

open Foundation Interp

variable (host : Pm32Host) (instruction : Pm32Instruction) (opcode opcode2 : Byte) (offset : Nat)

/-! ## The groups -/

instance (modrm : Pm32Modrm) (width : Width) (shifted : Option Pm32Result) :
    DeclinesInto OnlyReads (pm32StoreShifted modrm width shifted) := by
  unfold pm32StoreShifted
  cases shifted <;> dsimp only <;> infer_instance

deriving instance DeclinesInto OnlyReads for pm32SignedDivide, pm32Divide, pm32Group3Operation,
  pm32Group3Unary, pm32Group3Test, pm32Group3

deriving instance DeclinesInto OnlyReads for pm32PushRm, pm32PushReturn, pm32TransferRm,
  pm32IncDecRm, pm32Group45

/-! ## The ladder -/

deriving instance DeclinesInto OnlyReads for pm32DoubleShiftBy, pm32ShldShrd, pm32ImulRm,
  pm32MoveExtend, pm32Setcc, pm32JccNear, pm32TwoByte

deriving instance DeclinesInto OnlyReads for pm32Escape, pm32JmpShort, pm32Jmp, pm32Call,
  pm32FlagInstruction, pm32ControlOpcode

deriving instance DeclinesInto OnlyReads for pm32Ret, pm32InOut, pm32Group2, pm32StringOpcode,
  pm32MovImmediateRm, pm32MovImmediate, pm32TestImmediate, pm32MovMoffs, pm32Cdq, pm32Cwde,
  pm32XchgAccumulator, pm32Nop, pm32Lea, pm32DataOpcode

deriving instance DeclinesInto OnlyReads for pm32JccShort, pm32Mov, pm32Xchg, pm32Test, pm32Group1,
  pm32Imul, pm32PushImmediate, pm32Popad, pm32Pushad, pm32PopRegister, pm32PushRegister, pm32IncDec,
  pm32AluRm, pm32AluAccumulator, pm32AluForm, pm32OneByte

instance pm32Step_exact : DeclinesInto OnlyReads (pm32Step host) := by
  unfold pm32Step
  infer_instance

end Ntvdmex.Host.Pm32
