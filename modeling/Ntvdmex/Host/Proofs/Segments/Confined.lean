import Ntvdmex.Foundation.GuardedAccess
import Ntvdmex.Host.Proofs.V86.Effects

/-!
# What the parts of an instruction touch

The code bytes are fetched, and no decoding reads or writes data.  What an instruction does to the
processor touches nothing.
-/

namespace Ntvdmex.Host.V86

open Foundation Interp

variable (host : V86Host) (instruction : V86Instruction) (opcode opcode2 : Byte) (offset : Nat)
  {canAccess : Dword → Nat → Bool → Bool} {granted : Set (Dword × Bool)}

/-! ## Changes of the processor -/

variable (index : Nat) (modrm : V86Modrm) (width : Width)

deriving instance Guarded canAccess granted for setRegister, assignRegister, set16, setStackPointer,
  setSegment, setFlags, setIp, advance, subtract, logic, alu, shiftRotate, stepByOne,
  setProductFlags

instance setAccumulatorPair_guarded (low high : Dword) :
    Guarded canAccess granted (setAccumulatorPair width low high) := by
  unfold setAccumulatorPair
  cases width <;> dsimp only <;> infer_instance

deriving instance Guarded canAccess granted for v86Multiply, v86Divide, v86SignedDivide

instance (descriptor : Option (Dword × Dword)) :
    Guarded canAccess granted (v86LoadDescriptor instruction opcode2 modrm descriptor) := by
  unfold v86LoadDescriptor
  cases descriptor <;> dsimp only <;> infer_instance

deriving instance Guarded canAccess granted for v86JumpFar

/-! ## The instruction stream -/

deriving instance Guarded canAccess granted for v86CodeByte, v86Immediate, v86CodeWord

instance (cpu : V86Cpu) (modrmByte : Byte) :
    Guarded canAccess granted (v86BaseAddress16 host instruction cpu modrmByte offset) := by
  unfold v86BaseAddress16
  split <;> infer_instance

deriving instance Guarded canAccess granted for v86Displace16, v86Displace32, v86SibBase,
  v86BaseAddress32, v86DecodeModrm16, v86DecodeModrm32, v86DecodeModrm

deriving instance Guarded canAccess granted for V86Modrm.declineBeyondGuest, v86Group1Immediate,
  v86ShiftCount, v86ImulImmediate, v86SelectBit, v86DoubleShiftCount

deriving instance Guarded canAccess granted for v86IsLockable, v86JudgeLock

instance (rounds : Nat) :
    Guarded canAccess granted (v86TakePrefixes host rounds instruction offset) := by
  induction rounds generalizing instruction offset with
  | zero => exact guarded_decline
  | succ rounds ih =>
    unfold v86TakePrefixes
    have hmatch : ∀ byte, Guarded canAccess granted
        (match v86TakePrefix instruction byte with
        | none => (return { instruction, offset } : V86Action V86Prefixed)
        | some taken => do
          declineIf (x86PrefixesMax < offset + 1)
          v86TakePrefixes host rounds taken (offset + 1)) := by
      intro byte
      cases v86TakePrefix instruction byte with
      | none => exact guarded_pure _
      | some taken => dsimp only; infer_instance
    infer_instance

section Stack

variable {host} (hwrites : ∀ address, (address, true) ∈ granted)
include hwrites

theorem v86Push_guarded (width : Width) (value : Dword) :
    Guarded canAccess granted (v86Push host width value) := by
  have hwrite : ∀ linear : Dword, Guarded canAccess granted (v86WriteMemory linear width value) :=
    fun _ => guarded_writeMemory_of_mem fun _ _ => hwrites _
  unfold v86Push
  infer_instance

theorem v86PushWordWhole_guarded (value : Word) :
    Guarded canAccess granted (v86PushWordWhole host value) := by
  have hwrite : ∀ linear word : Dword,
      Guarded canAccess granted (v86WriteMemory linear .word word) :=
    fun _ _ => guarded_writeMemory_of_mem fun _ _ => hwrites _
  unfold v86PushWordWhole
  infer_instance

theorem v86PushFarFrame_guarded (nextIp : Word) :
    Guarded canAccess granted (v86PushFarFrame host nextIp) := by
  have hwrite : ∀ linear word : Dword,
      Guarded canAccess granted (v86WriteMemory linear .word word) :=
    fun _ _ => guarded_writeMemory_of_mem fun _ _ => hwrites _
  unfold v86PushFarFrame
  infer_instance

theorem v86PushFarFrame32_guarded (nextIp : Word) :
    Guarded canAccess granted (v86PushFarFrame32 host nextIp) := by
  have hpush : ∀ value, Guarded canAccess granted (v86Push host .dword value) :=
    v86Push_guarded hwrites .dword
  unfold v86PushFarFrame32
  infer_instance

end Stack

end Ntvdmex.Host.V86
