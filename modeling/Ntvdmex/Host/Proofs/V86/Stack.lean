import Ntvdmex.Foundation.MemoryHost
import Ntvdmex.Host.Proofs.Registers
import Ntvdmex.Host.Proofs.V86.Effects

/-!
# The stack of the 16-bit interpreter

What the actions that push and pop leave of the stack pointer.
-/

namespace Ntvdmex.Host.V86

open Foundation Interp Function List Nat V86Instruction

/-! ## The stack pointer -/

/-- `SP` is `target`, and the upper half of `ESP` is that of `base`. -/
def AtStack (base : V86Cpu) (target : Word) (cpu : V86Cpu) : Prop :=
  cpu.registers x86RegSp = base.registers x86RegSp &&& highWordMask ||| target.setWidth 32

section AtStack

variable {base cpu : V86Cpu} {target : Word} (h : AtStack base target cpu)

theorem setWidth_sub_bytes (value : Dword) (width : Width) :
    (value - BitVec.ofNat 32 width.bytes).setWidth 16 =
      value.setWidth 16 - BitVec.ofNat 16 width.bytes := by
  have hbytes : BitVec.ofNat 16 width.bytes = (BitVec.ofNat 32 width.bytes).setWidth 16 := by
    cases width <;> rfl
  rw [hbytes, eq_sub_iff_add_eq, ← BitVec.setWidth_add _ _ (by decide), sub_add_cancel]

theorem sub_ofNat_add (target : Word) (first second : Nat) :
    target - BitVec.ofNat 16 (first + second) =
      target - BitVec.ofNat 16 first - BitVec.ofNat 16 second := by
  rw [BitVec.ofNat_add, sub_sub]

theorem atStack_self (cpu : V86Cpu) : AtStack cpu (v86Get16 cpu x86RegSp) cpu :=
  (storeWord_self (cpu.registers x86RegSp)).symm

include h

theorem AtStack.get16 : v86Get16 cpu x86RegSp = target := by
  have hsp : (cpu.registers x86RegSp).setWidth 16 = target := by
    rw [h]
    exact setWidth_storeWord _ _
  exact hsp

theorem AtStack.below (width : Width) :
    v86Below cpu width = target - BitVec.ofNat 16 width.bytes := by
  unfold v86Below
  rw [setWidth_sub_bytes, ← h.get16]
  rfl

theorem AtStack.store (moved : Word) : AtStack base moved (cpu.withStackPointer moved) := by
  have hstored : (cpu.withStackPointer moved).registers x86RegSp =
      cpu.registers x86RegSp &&& highWordMask ||| moved.setWidth 32 := rfl
  unfold AtStack
  rw [hstored, h, highWord_storeWord]

theorem AtStack.keep {cpu' : V86Cpu}
    (hkept : cpu'.registers x86RegSp = cpu.registers x86RegSp) : AtStack base target cpu' :=
  hkept.trans h

end AtStack

/-! ## Pushing and popping -/

variable {host : V86Host} (hmemory : host.toHost.IsMemory) {base cpu : V86Cpu}
  {memory : Dword → Byte} {target : Word} (h : AtStack base target cpu)

section Actions

/-- The action ends with `SP` at `target`. -/
abbrev EndsAtStack (host : V86Host) (cpu : V86Cpu) (memory : Dword → Byte) (base : V86Cpu)
    (target : Word) (action : V86Action Unit) : Prop :=
  EndsIn host.toHost cpu memory action fun _ cpu' _ => AtStack base target cpu'

include h

theorem setStackPointer_stack (moved : Word) :
    EndsAtStack host cpu memory base moved (setStackPointer moved) :=
  endsIn_modifyCpu (h.store moved)

theorem modifyCpu_stack {change : V86Cpu → V86Cpu}
    (hkept : ∀ cpu, (change cpu).registers x86RegSp = cpu.registers x86RegSp) :
    EndsAtStack host cpu memory base target (modifyCpu change) :=
  endsIn_modifyCpu (h.keep (hkept cpu))

theorem advance_stack (length : Nat) :
    EndsAtStack host cpu memory base target (advance length) :=
  modifyCpu_stack h fun _ => rfl

theorem setIp_stack (ip : Word) :
    EndsAtStack host cpu memory base target (setIp ip) :=
  modifyCpu_stack h fun _ => rfl

omit h in
theorem advance_after {action : V86Action Unit}
    (haction : EndsAtStack host cpu memory base target action) (length : Nat) :
    EndsAtStack host cpu memory base target (action >>= fun _ => advance length) :=
  endsIn_seq haction fun _ _ _ hmoved => advance_stack hmoved length

omit h in
theorem setIp_after {action : V86Action Unit}
    (haction : EndsAtStack host cpu memory base target action) (ip : Word) :
    EndsAtStack host cpu memory base target (action >>= fun _ => setIp ip) :=
  endsIn_seq haction fun _ _ _ hmoved => setIp_stack hmoved ip

theorem setSegment_stack (index : Nat) (value : Word) :
    EndsAtStack host cpu memory base target (setSegment index value) :=
  modifyCpu_stack h fun _ => rfl

theorem set16_stack {index : Nat} (hindex : index % 8 ≠ x86RegSp) (value : Word) :
    EndsAtStack host cpu memory base target (set16 index value) :=
  modifyCpu_stack h fun _ => update_of_ne (Ne.symm hindex) _ _

theorem setRegister_stack {index : Nat} (hindex : index % 8 ≠ x86RegSp) {width : Width}
    (hwidth : width ≠ .byte) (value : Dword) :
    EndsAtStack host cpu memory base target (setRegister index width value) := by
  apply modifyCpu_stack h
  intro cpu
  cases width with
  | byte => exact absurd rfl hwidth
  | word => exact update_of_ne (Ne.symm hindex) _ _
  | dword => exact update_of_ne (Ne.symm hindex) _ _

theorem setFlags_stack (change : Dword → Dword) :
    EndsAtStack host cpu memory base target (setFlags change) :=
  modifyCpu_stack h fun _ => rfl

theorem loadFlags_stack (value : Dword) (width : Width) :
    EndsAtStack host cpu memory base target (loadFlags value width) := by
  apply modifyCpu_stack h
  intro cpu
  unfold v86FlagsLoad
  split <;> rfl

theorem v86JumpFar_stack (segment ip : Word) :
    EndsAtStack host cpu memory base target (v86JumpFar segment ip) := by
  exact setIp_after (setSegment_stack h _ _) _

include hmemory

variable (width : Width)

theorem v86Push_stack (value : Dword) :
    EndsAtStack host cpu memory base (target - BitVec.ofNat 16 width.bytes)
      (v86Push host width value) := by
  apply endsIn_getCpu
  apply endsIn_bind
  apply endsIn_writeMemory hmemory
  rw [h.below]
  exact setStackPointer_stack h _

theorem v86PushSegment_stack (value : Word) :
    EndsAtStack host cpu memory base (target - BitVec.ofNat 16 width.bytes)
      (v86PushSegment host width value) := by
  apply endsIn_getCpu
  apply endsIn_bind
  apply endsIn_writeMemory hmemory
  rw [h.below]
  exact setStackPointer_stack h _

theorem v86Pop_stack : EndsIn host.toHost cpu memory (v86Pop host width) fun value cpu' _ =>
      value = valueAt memory (v86StackLinear host cpu target) width ∧
        AtStack base (target + BitVec.ofNat 16 width.bytes) cpu' := by
  apply endsIn_getCpu
  rw [h.get16]
  apply endsIn_readMemory hmemory.keeps
  apply endsIn_seq (setStackPointer_stack h _)
  intro _ popped memory' hpopped
  exact endsIn_pure ⟨rfl, hpopped⟩

end Actions

/-! ## Code bytes -/

def V86Instruction.byteAt (instruction : V86Instruction) (memory : Dword → Byte) (position : Nat) :
    Byte := memory (instruction.codeLinear + BitVec.ofNat 32 position)

def V86Instruction.wordAt (instruction : V86Instruction) (memory : Dword → Byte) (position : Nat) :
    Word :=
  (instruction.byteAt memory position).setWidth 16 |||
    (instruction.byteAt memory (position + 1)).setWidth 16 <<< 8

theorem operandSize_ne_byte (instruction : V86Instruction) : instruction.operandSize ≠ .byte := by
  unfold operandSize
  split <;> decide

section Code

variable {instruction : V86Instruction} {position : Nat} (hkeeps : host.toHost.KeepsMemory)

include hkeeps

theorem endsIn_v86CodeByte {Q : Byte → V86Cpu → (Dword → Byte) → Prop}
    (hQ : Q (instruction.byteAt memory position) cpu memory) :
    EndsIn host.toHost cpu memory (v86CodeByte host instruction position) Q :=
  endsIn_fetch hkeeps hQ

theorem endsIn_v86CodeWord {Q : Word → V86Cpu → (Dword → Byte) → Prop}
    (hQ : Q (instruction.wordAt memory position) cpu memory) :
    EndsIn host.toHost cpu memory (v86CodeWord host instruction position) Q := by
  apply endsIn_bind
  apply endsIn_v86CodeByte hkeeps
  apply endsIn_bind
  apply endsIn_v86CodeByte hkeeps
  exact endsIn_pure hQ

end Code

/-!
## The instructions that push (`V86Step`)
-/

variable (instruction : V86Instruction) (opcode opcode2 : Byte) (offset : Nat)

/-- The nesting level of `ENTER`. -/
def V86Instruction.enterLevel (instruction : V86Instruction) (memory : Dword → Byte)
    (position : Nat) : Nat := (instruction.byteAt memory (position + 2)).toNat % 32

include hmemory h

theorem v86PushRegister_stack :
    EndsAtStack host cpu memory base (target - BitVec.ofNat 16 instruction.operandSize.bytes)
      (v86PushRegister host instruction opcode offset) := by
  apply endsIn_getCpu
  exact advance_after (v86Push_stack hmemory h _ _) _

theorem v86PushImmediate_stack :
    EndsAtStack host cpu memory base (target - BitVec.ofNat 16 instruction.operandSize.bytes)
      (v86PushImmediate host instruction opcode offset) := by
  apply endsIn_anyRead hmemory.keeps
  intro value
  exact advance_after (v86Push_stack hmemory h _ _) _

theorem v86Pushf_stack :
    EndsAtStack host cpu memory base (target - BitVec.ofNat 16 instruction.operandSize.bytes)
      (v86Pushf host instruction offset) := by
  apply endsIn_getCpu
  exact advance_after (v86Push_stack hmemory h _ _) _

theorem v86PushSreg_stack :
    EndsAtStack host cpu memory base (target - BitVec.ofNat 16 instruction.operandSize.bytes)
      (v86PushSreg host instruction opcode offset) := by
  apply endsIn_getCpu
  exact advance_after (v86PushSegment_stack hmemory h _ _) _

theorem v86PushFsGs_stack :
    EndsAtStack host cpu memory base (target - BitVec.ofNat 16 instruction.operandSize.bytes)
      (v86PushFsGs host instruction opcode2 offset) := by
  apply endsIn_getCpu
  exact advance_after (v86PushSegment_stack hmemory h _ _) _

theorem v86PushaLoop_stack (original : V86Cpu) (width : Width) (indices : List Nat)
    (stackPointer : Word) :
    EndsIn host.toHost cpu memory (v86PushaLoop host original width indices stackPointer)
      fun below cpu' _ =>
        below = stackPointer - BitVec.ofNat 16 (indices.length * width.bytes) ∧
          AtStack base target cpu' := by
  induction indices generalizing stackPointer memory with
  | nil =>
    apply endsIn_pure
    simp [h]
  | cons index indices ih =>
    apply endsIn_bind
    apply endsIn_writeMemory hmemory
    apply (ih _).mono
    rintro below cpu' memory' ⟨rfl, hstack⟩
    refine ⟨?_, hstack⟩
    rw [length_cons, succ_mul, Nat.add_comm, sub_ofNat_add]

theorem v86Pusha_stack :
    EndsAtStack host cpu memory base (target - BitVec.ofNat 16 (8 * instruction.operandSize.bytes))
      (v86Pusha host instruction offset) := by
  apply endsIn_getCpu
  rw [h.get16]
  apply endsIn_seq (v86PushaLoop_stack hmemory h cpu _ _ target)
  rintro below pushed memory' ⟨rfl, hpushed⟩
  rw [length_range]
  exact advance_after (setStackPointer_stack hpushed _) _

theorem v86EnterLoop_stack (stackBase : Dword) (width : Width) (count : Nat) :
    EndsAtStack host cpu memory base (target - BitVec.ofNat 16 (count * width.bytes))
      (v86EnterLoop host stackBase width count) := by
  induction count generalizing cpu memory target with
  | zero =>
    apply endsIn_pure
    simpa using h
  | succ count ih =>
    apply endsIn_getCpu
    apply endsIn_seq (set16_stack h (by decide) _)
    intro _ framed memory' hframed
    apply endsIn_readMemory hmemory.keeps
    apply endsIn_seq (v86Push_stack hmemory hframed _ _)
    intro _ pushed memory'' hpushed
    apply (ih hpushed).mono
    intro _ cpu' _ hstack
    rw [succ_mul, Nat.add_comm, sub_ofNat_add]
    exact hstack

theorem v86EnterLevels_stack (stackBase : Dword) (width : Width) (frameTemp : Word) {level : Nat}
    (hlevel : 0 < level) :
    EndsAtStack host cpu memory base (target - BitVec.ofNat 16 (level * width.bytes))
      (v86EnterLevels host stackBase width frameTemp level) := by
  apply endsIn_seq (v86EnterLoop_stack hmemory h stackBase width (level - 1))
  intro _ copied memory' hcopied
  have hbytes : level * width.bytes = (level - 1) * width.bytes + width.bytes := by
    rw [← succ_mul, succ_eq_add_one, Nat.sub_add_cancel hlevel]
  rw [hbytes, sub_ofNat_add]
  exact v86Push_stack hmemory hcopied width _

theorem v86Enter_stack :
    EndsAtStack host cpu memory base
      (target - BitVec.ofNat 16
          ((1 + instruction.enterLevel memory offset) * instruction.operandSize.bytes) -
        instruction.wordAt memory offset)
      (v86Enter host instruction offset) := by
  apply endsIn_bind
  apply endsIn_v86CodeWord hmemory.keeps
  apply endsIn_bind
  apply endsIn_v86CodeByte hmemory.keeps
  apply endsIn_getCpu
  apply endsIn_seq (v86Push_stack hmemory h _ _)
  intro _ pushed memory' hpushed
  apply endsIn_getCpu
  have hlevels : EndsAtStack host pushed memory' base (target - BitVec.ofNat 16
      ((1 + instruction.enterLevel memory offset) * instruction.operandSize.bytes))
    (onlyIf (0 < instruction.enterLevel memory offset)
        (v86EnterLevels host (v86SegmentBase host (cpu.segments x86SregSs))
          instruction.operandSize (v86Get16 pushed x86RegSp)
          (instruction.enterLevel memory offset))) := by
    rw [Nat.add_mul, Nat.one_mul, sub_ofNat_add]
    apply endsIn_onlyIf
    · exact v86EnterLevels_stack hmemory hpushed _ _ _
    · intro hlevel
      rw [Nat.eq_zero_of_not_pos hlevel]
      simpa using hpushed
  apply endsIn_seq hlevels
  intro _ nested memory'' hnested
  apply endsIn_seq (set16_stack hnested (by decide) _)
  intro _ framed memory₃ hframed
  apply endsIn_getCpu
  rw [hframed.get16]
  exact advance_after (setStackPointer_stack hframed _) _

theorem v86PushFarFrame_stack (nextIp : Word) :
    EndsAtStack host cpu memory base (target - 2 - 2) (v86PushFarFrame host nextIp) := by
  apply endsIn_getCpu
  rw [h.below]
  apply endsIn_bind
  apply endsIn_writeMemory hmemory
  apply endsIn_bind
  apply endsIn_writeMemory hmemory
  exact setStackPointer_stack h _

theorem v86PushFarFrame32_stack (nextIp : Word) :
    EndsAtStack host cpu memory base (target - 4 - 4) (v86PushFarFrame32 host nextIp) := by
  apply endsIn_getCpu
  apply endsIn_seq (v86Push_stack hmemory h .dword _)
  intro _ pushed memory' hpushed
  exact v86Push_stack hmemory hpushed .dword _

theorem v86Call16_stack :
    EndsAtStack host cpu memory base (target - 2) (v86Call16 host instruction offset) := by
  apply endsIn_bind
  apply endsIn_v86CodeWord hmemory.keeps
  apply endsIn_getCpu
  exact setIp_after (v86Push_stack hmemory h .word _) _

theorem v86JmpCall32_stack (hopcode : opcode = x86OpCall) :
    EndsAtStack host cpu memory base (target - 4)
      (v86JmpCall32 host instruction opcode offset) := by
  apply endsIn_getCpu
  apply endsIn_readMemory hmemory.keeps
  apply endsIn_declineIf
  intro _
  have hcall : EndsAtStack host cpu memory base (target - 4)
    (onlyIf (opcode = x86OpCall)
        (v86Push host .dword ((cpu.ip + BitVec.ofNat 16 (offset + 4)).setWidth 32))) := by
    apply endsIn_onlyIf
    · exact fun _ => v86Push_stack hmemory h .dword _
    · exact fun hjump => absurd hopcode hjump
  exact setIp_after hcall _

theorem v86Far_stack (hopcode : opcode = x86OpCallFar) :
    EndsAtStack host cpu memory base (target - BitVec.ofNat 16 (2 * instruction.operandSize.bytes))
      (v86Far host instruction opcode offset) := by
  apply endsIn_ite
  · rintro ⟨hwide, -⟩
    have hbytes : target - BitVec.ofNat 16 (2 * instruction.operandSize.bytes) =
        target - 4 - 4 := by
      unfold operandSize
      rw [if_pos hwide]
      exact sub_ofNat_add target 4 4
    rw [hbytes]
    apply endsIn_readMemory hmemory.keeps
    apply endsIn_bind
    apply endsIn_v86CodeWord hmemory.keeps
    apply endsIn_getCpu
    apply endsIn_declineIf
    intro _
    apply endsIn_bind
    apply endsIn_onlyIf
    · intro _
      apply (v86PushFarFrame32_stack hmemory h _).mono
      intro _ pushed memory' hpushed
      exact v86JumpFar_stack hpushed _ _
    · exact fun hjump => absurd hopcode hjump
  · intro _
    apply endsIn_declineIf
    intro hallowed
    have hbytes : target - BitVec.ofNat 16 (2 * instruction.operandSize.bytes) =
        target - 2 - 2 := by
      unfold operandSize
      rw [if_neg fun hwide => hallowed (Or.inl hwide)]
      exact sub_ofNat_add target 2 2
    rw [hbytes]
    apply endsIn_bind
    apply endsIn_v86CodeWord hmemory.keeps
    apply endsIn_bind
    apply endsIn_v86CodeWord hmemory.keeps
    apply endsIn_getCpu
    apply endsIn_bind
    apply endsIn_onlyIf
    · intro _
      apply (v86PushFarFrame_stack hmemory h _).mono
      intro _ pushed memory' hpushed
      exact v86JumpFar_stack hpushed _ _
    · exact fun hjump => absurd hopcode hjump

theorem v86Int_stack :
    EndsAtStack host cpu memory base (target - 6) (v86Int host instruction opcode offset) := by
  have hbytes : target - 6 = target - 2 - 2 - 2 :=
    (sub_ofNat_add target 4 2).trans (congrArg (· - 2) (sub_ofNat_add target 2 2))
  rw [hbytes]
  apply endsIn_declineIf
  intro _
  apply endsIn_anyRead hmemory.keeps
  intro vector
  apply endsIn_getCpu
  apply endsIn_bind
  apply endsIn_getCpu
  rw [h.below]
  apply endsIn_bind
  apply endsIn_writeMemory hmemory
  apply endsIn_bind
  apply endsIn_writeMemory hmemory
  apply endsIn_bind
  apply endsIn_writeMemory hmemory
  apply (setStackPointer_stack h _).mono
  intro _ moved memory' hmoved
  apply endsIn_seq (setFlags_stack hmoved _)
  intro _ cleared memory'' hcleared
  apply endsIn_readMemory hmemory.keeps
  apply endsIn_seq (setIp_stack hcleared _)
  intro _ jumped memory₃ hjumped
  apply endsIn_readMemory hmemory.keeps
  exact setSegment_stack hjumped _ _

end Ntvdmex.Host.V86

/-!
## The instructions that pop (`V86Step`)
-/

namespace Ntvdmex.Host.V86

open Foundation Interp List Nat V86Instruction

variable {host : V86Host} (hmemory : host.toHost.IsMemory) {base cpu : V86Cpu}
  {memory : Dword → Byte} {target : Word} (h : AtStack base target cpu)
  (instruction : V86Instruction) (opcode opcode2 : Byte) (offset : Nat)

include hmemory h

theorem v86Popf_stack :
    EndsAtStack host cpu memory base (target + BitVec.ofNat 16 instruction.operandSize.bytes)
      (v86Popf host instruction offset) := by
  apply endsIn_seq (v86Pop_stack hmemory h _)
  rintro value popped memory' ⟨-, hpopped⟩
  exact advance_after (loadFlags_stack hpopped _ _) _

theorem v86PopFsGs_stack :
    EndsAtStack host cpu memory base (target + BitVec.ofNat 16 instruction.operandSize.bytes)
      (v86PopFsGs host instruction opcode2 offset) := by
  apply endsIn_seq (v86Pop_stack hmemory h _)
  rintro value popped memory' ⟨-, hpopped⟩
  exact advance_after (setSegment_stack hpopped _ _) _

theorem v86PopSreg_stack :
    EndsAtStack host cpu memory base (target + BitVec.ofNat 16 instruction.operandSize.bytes)
      (v86PopSreg host instruction opcode offset) := by
  unfold v86PopSreg operandSize
  apply endsIn_ite
  · intro hwide
    rw [if_pos hwide]
    apply endsIn_seq (v86Pop_stack hmemory h _)
    rintro value popped memory' ⟨-, hpopped⟩
    exact advance_after (setSegment_stack hpopped _ _) _
  · intro hnarrow
    rw [if_neg hnarrow]
    apply endsIn_getCpu
    rw [h.get16]
    apply endsIn_readMemory hmemory.keeps
    apply endsIn_seq (setSegment_stack h _ _)
    intro _ loaded memory' hloaded
    exact advance_after (setStackPointer_stack hloaded _) _

theorem v86PopaLoop_stack (original : V86Cpu) {width : Width} (hwidth : width ≠ .byte)
    {indices : List Nat} (hindices : ∀ index ∈ indices, index < 8) (stackPointer : Word) :
    EndsIn host.toHost cpu memory (v86PopaLoop host original width indices stackPointer)
      fun above cpu' _ =>
        above = stackPointer + BitVec.ofNat 16 (indices.length * width.bytes) ∧
          AtStack base target cpu' := by
  induction indices generalizing stackPointer memory cpu with
  | nil =>
    apply endsIn_pure
    simp [h]
  | cons index indices ih =>
    have hslot : EndsAtStack host cpu memory base target
      (onlyIf (index ≠ x86RegSp) (do
          let value ← v86ReadMemory host (v86StackLinear host original stackPointer) width
          setRegister index width value)) := by
      apply endsIn_onlyIf
      · intro hindex
        apply endsIn_readMemory hmemory.keeps
        have hlt : index < 8 := hindices index mem_cons_self
        exact setRegister_stack h (by rw [mod_eq_of_lt hlt]; exact hindex) hwidth _
      · exact fun _ => h
    apply endsIn_seq hslot
    intro _ loaded memory' hloaded
    apply (ih hloaded (fun other hother => hindices other (mem_cons_of_mem index hother))
      _).mono
    rintro above cpu' memory'' ⟨rfl, hstack⟩
    refine ⟨?_, hstack⟩
    rw [length_cons, succ_mul, Nat.add_comm, BitVec.ofNat_add, ← add_assoc]

theorem v86Popa_stack :
    EndsAtStack host cpu memory base (target + BitVec.ofNat 16 (8 * instruction.operandSize.bytes))
      (v86Popa host instruction offset) := by
  apply endsIn_getCpu
  rw [h.get16]
  have hindices : ∀ index ∈ (range x86GeneralRegisters).reverse, index < 8 := by decide
  apply endsIn_seq (v86PopaLoop_stack hmemory h cpu (operandSize_ne_byte instruction) hindices target)
  rintro above loaded memory' ⟨rfl, hloaded⟩
  exact advance_after (setStackPointer_stack hloaded _) _

/-! ## Returns -/

omit h in
theorem endsIn_v86ExtraPop {immediateOpcode : Byte} {Q : Word → V86Cpu → (Dword → Byte) → Prop}
    (hQ : Q (if opcode = immediateOpcode then instruction.wordAt memory offset else 0) cpu memory) :
    EndsIn host.toHost cpu memory (v86ExtraPop host instruction opcode offset immediateOpcode) Q := by
  unfold v86ExtraPop
  by_cases himmediate : opcode = immediateOpcode
  · rw [if_pos himmediate] at hQ ⊢
    exact endsIn_v86CodeWord hmemory.keeps hQ
  · rw [if_neg himmediate] at hQ ⊢
    exact endsIn_pure hQ

theorem v86Ret_stack :
    EndsAtStack host cpu memory base
      (target + BitVec.ofNat 16 instruction.operandSize.bytes +
        if opcode = x86OpRetImm then instruction.wordAt memory offset else 0)
      (v86Ret host instruction opcode offset) := by
  unfold v86Ret operandSize
  apply endsIn_ite
  · intro hwide
    rw [if_pos hwide]
    apply endsIn_getCpu
    rw [h.get16]
    apply endsIn_readMemory hmemory.keeps
    apply endsIn_declineIf
    intro _
    apply endsIn_bind
    apply endsIn_v86ExtraPop hmemory
    exact setIp_after (setStackPointer_stack h _) _
  · intro hnarrow
    rw [if_neg hnarrow]
    apply endsIn_getCpu
    rw [h.get16]
    apply endsIn_readMemory hmemory.keeps
    apply endsIn_bind
    apply endsIn_v86ExtraPop hmemory
    exact setIp_after (setStackPointer_stack h _) _

theorem v86Retf_stack :
    EndsAtStack host cpu memory base
      (target + BitVec.ofNat 16 (2 * instruction.operandSize.bytes) +
        if opcode = x86OpRetfImm then instruction.wordAt memory offset else 0)
      (v86Retf host instruction opcode offset) := by
  unfold v86Retf operandSize
  apply endsIn_ite
  · intro hwide
    rw [if_pos hwide]
    apply endsIn_getCpu
    rw [h.get16]
    apply endsIn_readMemory hmemory.keeps
    apply endsIn_readMemory hmemory.keeps
    apply endsIn_declineIf
    intro _
    apply endsIn_bind
    apply endsIn_v86ExtraPop hmemory
    apply endsIn_seq (setStackPointer_stack h _)
    intro _ moved memory' hmoved
    exact v86JumpFar_stack hmoved _ _
  · intro hnarrow
    rw [if_neg hnarrow]
    apply endsIn_getCpu
    rw [h.get16]
    apply endsIn_readMemory hmemory.keeps
    apply endsIn_readMemory hmemory.keeps
    apply endsIn_declineIf
    intro _
    apply endsIn_bind
    apply endsIn_v86ExtraPop hmemory
    apply endsIn_seq (setStackPointer_stack h _)
    intro _ moved memory' hmoved
    exact v86JumpFar_stack hmoved _ _

theorem v86Iret32_stack :
    EndsAtStack host cpu memory base (target + 12) (v86Iret32 host) := by
  apply endsIn_getCpu
  rw [h.get16]
  iterate 3 apply endsIn_readMemory hmemory.keeps
  apply endsIn_declineIf
  intro _
  apply endsIn_seq (setIp_stack h _)
  intro _ jumped memory' hjumped
  apply endsIn_seq (setSegment_stack hjumped _ _)
  intro _ loaded memory'' hloaded
  apply endsIn_seq (loadFlags_stack hloaded _ _)
  intro _ flagged memory₃ hflagged
  exact setStackPointer_stack hflagged _

theorem v86IretProtected_stack :
    EndsAtStack host cpu memory base (target + 6) (v86IretProtected host) := by
  apply endsIn_getCpu
  rw [h.get16]
  iterate 3 apply endsIn_readMemory hmemory.keeps
  apply endsIn_declineIf
  intro _
  apply endsIn_seq (setIp_stack h _)
  intro _ jumped memory' hjumped
  apply endsIn_seq (setSegment_stack hjumped _ _)
  intro _ loaded memory'' hloaded
  apply endsIn_seq (loadFlags_stack hloaded _ _)
  intro _ flagged memory₃ hflagged
  exact setStackPointer_stack hflagged _

theorem v86Iret16_stack :
    EndsAtStack host cpu memory base (target + 6) (v86Iret16 host) := by
  apply endsIn_getCpu
  rw [h.get16]
  apply endsIn_readMemory hmemory.keeps
  apply endsIn_seq (setIp_stack h _)
  intro _ jumped memory' hjumped
  apply endsIn_readMemory hmemory.keeps
  apply endsIn_seq (setSegment_stack hjumped _ _)
  intro _ loaded memory'' hloaded
  apply endsIn_readMemory hmemory.keeps
  apply endsIn_seq (loadFlags_stack hloaded _ _)
  intro _ flagged memory₃ hflagged
  exact setStackPointer_stack hflagged _

theorem v86Iret_stack :
    EndsAtStack host cpu memory base (target + BitVec.ofNat 16 (3 * instruction.operandSize.bytes))
      (v86Iret host instruction) := by
  unfold v86Iret operandSize
  apply endsIn_ite
  · rintro ⟨hwide, -⟩
    rw [if_pos hwide]
    exact v86Iret32_stack hmemory h
  · intro hother
    apply endsIn_ite
    · exact fun _ => endsIn_decline
    · intro hnarrow
      rw [if_neg hnarrow]
      apply endsIn_ite
      · exact fun _ => v86IretProtected_stack hmemory h
      · exact fun _ => v86Iret16_stack hmemory h

theorem v86Leave_stack :
    EndsAtStack host cpu memory base
      (v86Get16 cpu x86RegBp + BitVec.ofNat 16 instruction.operandSize.bytes)
      (v86Leave host instruction offset) := by
  apply endsIn_getCpu
  apply endsIn_readMemory hmemory.keeps
  apply endsIn_seq (setRegister_stack h (by decide) (operandSize_ne_byte instruction) _)
  intro _ loaded memory' hloaded
  exact advance_after (setStackPointer_stack hloaded _) _

end Ntvdmex.Host.V86
