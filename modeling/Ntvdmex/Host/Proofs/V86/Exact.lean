import Ntvdmex.Host.Proofs.V86.Effects

/-!
# A declined instruction has changed nothing (`V86Step`)

Each block of the ladder declines into a machine that has only been read, and so does the step.
-/

set_option synthInstance.maxSize 2000

namespace Ntvdmex.Host.V86

open Foundation Interp

variable (host : V86Host) (instruction : V86Instruction) (opcode opcode2 : Byte) (offset : Nat)

/-! ## The two-byte opcodes -/

instance : DeclinesInto OnlyReads (v86LarLsl host instruction opcode2 offset) := by
  unfold v86LarLsl v86DescribeSelector
  cases host.selectorDescriptor <;> dsimp only <;> infer_instance

deriving instance DeclinesInto OnlyReads for v86LoadFarPointer, v86ShldShrd, v86BitScan, v86BitTest,
  v86Setcc, v86JccNear16, v86JccNear32, v86JccNear, v86PopFsGs, v86PushFsGs, v86MoveExtend,
  v86TwoByte

/-! ## The one-byte opcodes -/

deriving instance DeclinesInto OnlyReads for v86Far16, v86Far32, v86Far, v86Iret16,
  v86IretProtected, v86Iret32, v86Iret, v86Int, v86FlagInstruction, v86SystemOpcode

deriving instance DeclinesInto OnlyReads for v86XchgAccumulator, v86Loop, v86LesLds,
  v86LesLdsUnlessBop, v86Xlat, v86Imul, v86Cwd, v86Cbw, v86Sahf, v86Lahf, v86PopRm, v86Leave,
  v86Enter, v86Retf16, v86Retf32, v86Retf, v86Ret16, v86Ret32, v86Ret, v86Call16, v86Jmp16,
  v86JmpCall32, v86JmpShort, v86JccShort, v86ControlOpcode

deriving instance DeclinesInto OnlyReads for v86Lods, v86Compare, v86Movs, v86Stos, v86MovMoffs,
  v86MovImmediate, v86Outs, v86Ins, v86Out, v86In, v86Group2, v86Lea, v86MovToSreg, v86MovFromSreg,
  v86MovSreg, v86DataOpcode

deriving instance DeclinesInto OnlyReads for v86PopSreg16, v86PopSreg32, v86PopSreg, v86PushSreg,
  v86Popa, v86Pusha, v86Popf, v86Pushf, v86PushImmediate, v86PopRegister, v86PushRegister,
  v86StackOpcode

deriving instance DeclinesInto OnlyReads for v86SignedDivide, v86Divide, v86Group3Operation

deriving instance DeclinesInto OnlyReads for v86Group5Narrow, v86Group5Wide, v86IncDecRm, v86Group45

deriving instance DeclinesInto OnlyReads for v86Xchg, v86MovImmediateRm, v86Mov, v86Group3Test,
  v86Group3Unary, v86Group3, v86TestImmediate, v86Test, v86IncDec, v86Group1, v86AluAccumulator,
  v86AluRm, v86AluForm, v86OneByte

instance v86Step_exact : DeclinesInto OnlyReads (v86Step host) := by
  unfold v86Step v86Opcode
  infer_instance

/-- When the step declines, every register, segment, the instruction pointer and the flags are
those of entry, and the host was only asked for bytes. -/
theorem v86Step_declined_changes_nothing (machine machine' : Machine V86Cpu)
    (hdeclined : v86Step host machine = .error .declined machine') :
    machine'.cpu = machine.cpu ∧
      ∃ reads, machine'.calls = reads ++ machine.calls ∧ ∀ call ∈ reads, call.IsRead :=
  (v86Step_exact host).related machine machine' hdeclined

/-- A host of `HLT` instructions, without the hooks of protected mode. -/
def haltingHost : V86Host where
  read8 _ _ := 0xF4
  portIn _ _ _ := 0
  segmentToLinear := none
  selectorDescriptor := none

def clearedCpu : V86Cpu where
  registers _ := 0
  segments _ := 0
  ip := 0
  flags := 0

theorem halt_changes_nothing :
    v86Step haltingHost { cpu := clearedCpu, calls := [] } =
        .error .declined { cpu := clearedCpu, calls := [.fetch 0, .fetch 0] } ∧
      ∃ reads, ([.fetch 0, .fetch 0] : List HostCall) = reads ++ [] ∧
        ∀ call ∈ reads, call.IsRead :=
  have hdeclined : v86Step haltingHost { cpu := clearedCpu, calls := [] } =
      .error .declined { cpu := clearedCpu, calls := [.fetch 0, .fetch 0] } := rfl
  ⟨hdeclined, (v86Step_declined_changes_nothing haltingHost _ _ hdeclined).2⟩

end Ntvdmex.Host.V86
