import Ntvdmex.Host.Proofs.V86.StackSteps

/-!
# The stack instructions, and when they are exact (`V86Step`)

Every block but `POP r`, `POP r/m` and the word forms of group 5 that push leaves `ESP` as it
is to be.
-/

namespace Ntvdmex.Host.V86

open Foundation Interp V86Fetched Or Function Option Bool BitVec

variable {host : V86Host} (hmemory : host.toHost.IsMemory) {cpu : V86Cpu}
  {memory : Dword → Byte} {move : V86StackMove}

theorem stackTarget_pushesOne (fetched : V86Fetched) :
    fetched.stackTarget memory cpu (.pushes 1) =
      v86Get16 cpu x86RegSp - BitVec.ofNat 16 fetched.instruction.operandSize.bytes := by
  unfold stackTarget
  dsimp only
  rw [Nat.one_mul]
  rfl

theorem stackTarget_popsOne (fetched : V86Fetched) :
    fetched.stackTarget memory cpu (.pops 1) =
      v86Get16 cpu x86RegSp + BitVec.ofNat 16 fetched.instruction.operandSize.bytes := by
  unfold stackTarget
  dsimp only
  rw [Nat.one_mul]
  rfl

theorem stackTarget_returnsOne (fetched : V86Fetched) :
    fetched.stackTarget memory cpu (.returns 1) =
      v86Get16 cpu x86RegSp + BitVec.ofNat 16 fetched.instruction.operandSize.bytes +
        fetched.instruction.wordAt memory fetched.offset := by
  unfold stackTarget
  dsimp only
  rw [Nat.one_mul]
  rfl

theorem forall_of_ite {α : Type} {p : Prop} [Decidable p] {first : α} {rest : Option α}
    {P : α → Prop} (hfirst : p → P first) (hrest : ∀ found, rest = some found → P found) :
    ∀ found, (if p then some first else rest) = some found → P found := by
  intro found h
  by_cases hp : p
  · rw [if_pos hp] at h
    exact some.inj h ▸ hfirst hp
  · rw [if_neg hp] at h
    exact hrest found h

include hmemory in
theorem v86TwoByte_atStack (instruction : V86Instruction) (offset : Nat) {opcode2 : Byte}
    (hmove : v86TwoByteMove opcode2 = some move) (fetched : V86Fetched)
    (hinstruction : fetched.instruction = instruction) :
    EndsIn host.toHost cpu memory (v86TwoByte host instruction opcode2 offset) fun _ cpu' _ =>
      AtStack cpu (fetched.stackTarget memory cpu move) cpu' := by
  revert move
  refine @forall_of_ite _ _ _ _ _ _ (fun hopcode => ?_) (forall_of_ite (fun hopcode => ?_) nofun)
  · rw [stackTarget_pushesOne, hinstruction]
    rcases hopcode with rfl | rfl
    · exact v86PushFsGs_stack hmemory (atStack_self cpu) instruction v86Op2PushFs offset
    · exact v86PushFsGs_stack hmemory (atStack_self cpu) instruction v86Op2PushGs offset
  · rw [stackTarget_popsOne, hinstruction]
    rcases hopcode with rfl | rfl
    · exact v86PopFsGs_stack hmemory (atStack_self cpu) instruction v86Op2PopFs offset
    · exact v86PopFsGs_stack hmemory (atStack_self cpu) instruction v86Op2PopGs offset

/-! ## The one-byte opcodes -/

theorem pushRegister_cases {opcode : Byte}
    (hopcode : x86OpPushFirst ≤ opcode ∧ opcode ≤ x86OpPushLast) :
    opcode = 0x50 ∨ opcode = 0x51 ∨ opcode = 0x52 ∨ opcode = 0x53 ∨ opcode = 0x54 ∨
      opcode = 0x55 ∨ opcode = 0x56 ∨ opcode = 0x57 := by
  revert opcode
  decide

theorem popRegister_cases {opcode : Byte}
    (hopcode : x86OpPopFirst ≤ opcode ∧ opcode ≤ x86OpPopLast) :
    opcode = 0x58 ∨ opcode = 0x59 ∨ opcode = 0x5A ∨ opcode = 0x5B ∨ opcode = 0x5C ∨
      opcode = 0x5D ∨ opcode = 0x5E ∨ opcode = 0x5F := by
  revert opcode
  decide

theorem v86OneByte_pushRegister (instruction : V86Instruction) (offset : Nat) {opcode : Byte}
    (hopcode : x86OpPushFirst ≤ opcode ∧ opcode ≤ x86OpPushLast) :
    v86OneByte host instruction opcode offset = v86PushRegister host instruction opcode offset := by
  rcases pushRegister_cases hopcode with rfl | rfl | rfl | rfl | rfl | rfl | rfl | rfl <;> rfl

section OneByte

variable (instruction : V86Instruction) (offset : Nat) {opcode : Byte}

include hmemory

theorem v86OneByte_pushesOne
    (hopcode : (x86OpPushFirst ≤ opcode ∧ opcode ≤ x86OpPushLast) ∨ opcode = x86OpPushImm ∨
      opcode = x86OpPushImm8 ∨ opcode = x86OpPushf ∨ opcode = x86OpPushEs ∨
      opcode = x86OpPushCs ∨ opcode = x86OpPushSs ∨ opcode = x86OpPushDs ∨ opcode = x86OpCall) :
    EndsIn host.toHost cpu memory (v86OneByte host instruction opcode offset) fun _ cpu' _ =>
      AtStack cpu (v86Get16 cpu x86RegSp - BitVec.ofNat 16 instruction.operandSize.bytes) cpu' := by
  have hstack := atStack_self cpu
  rcases hopcode with hrange | rfl | rfl | rfl | rfl | rfl | rfl | rfl | rfl
  · rw [v86OneByte_pushRegister instruction offset hrange]
    exact v86PushRegister_stack hmemory hstack instruction opcode offset
  · exact v86PushImmediate_stack hmemory hstack instruction x86OpPushImm offset
  · exact v86PushImmediate_stack hmemory hstack instruction x86OpPushImm8 offset
  · exact v86Pushf_stack hmemory hstack instruction offset
  · exact v86PushSreg_stack hmemory hstack instruction x86OpPushEs offset
  · exact v86PushSreg_stack hmemory hstack instruction x86OpPushCs offset
  · exact v86PushSreg_stack hmemory hstack instruction x86OpPushSs offset
  · exact v86PushSreg_stack hmemory hstack instruction x86OpPushDs offset
  · have hcall : v86OneByte host instruction x86OpCall offset =
        if (x86OpCall = x86OpJmp ∨ x86OpCall = x86OpCall) ∧ instruction.isOperand32 then
          v86JmpCall32 host instruction x86OpCall offset
        else v86Call16 host instruction offset := rfl
    rw [hcall]
    unfold V86Instruction.operandSize
    apply endsIn_ite
    · rintro ⟨-, hwide⟩
      rw [if_pos hwide]
      exact v86JmpCall32_stack hmemory hstack instruction x86OpCall offset rfl
    · intro hnarrow
      rw [if_neg fun hwide => hnarrow ⟨inr rfl, hwide⟩]
      exact v86Call16_stack hmemory hstack instruction offset

/-- The opcodes that pop one slot, but for `POP r` and `POP r/m`. -/
theorem v86OneByte_popsOne
    (hopcode : opcode = x86OpPopf ∨ opcode = x86OpPopEs ∨ opcode = x86OpPopSs ∨
      opcode = x86OpPopDs ∨ opcode = x86OpRet) :
    EndsIn host.toHost cpu memory (v86OneByte host instruction opcode offset) fun _ cpu' _ =>
      AtStack cpu (v86Get16 cpu x86RegSp + BitVec.ofNat 16 instruction.operandSize.bytes) cpu' := by
  have hstack := atStack_self cpu
  rcases hopcode with rfl | rfl | rfl | rfl | rfl
  · exact v86Popf_stack hmemory hstack instruction offset
  · exact v86PopSreg_stack hmemory hstack instruction x86OpPopEs offset
  · exact v86PopSreg_stack hmemory hstack instruction x86OpPopSs offset
  · exact v86PopSreg_stack hmemory hstack instruction x86OpPopDs offset
  · apply (v86Ret_stack hmemory hstack instruction x86OpRet offset).mono
    intro _ cpu' _ hret
    rw [if_neg (by decide)] at hret
    have hadd : v86Get16 cpu x86RegSp + BitVec.ofNat 16 instruction.operandSize.bytes + 0 =
        v86Get16 cpu x86RegSp + BitVec.ofNat 16 instruction.operandSize.bytes :=
      BitVec.add_zero _
    rw [hadd] at hret
    exact hret

end OneByte

theorem isOperand32_of_not_group5Push {fetched : V86Fetched} (hopcode : fetched.opcode = x86OpGroup5)
    (hoperation : modrmRegister (fetched.nextByte memory) = x86Group5Call ∨
      modrmRegister (fetched.nextByte memory) = x86Group5Push)
    (hgroup5 : fetched.isGroup5Push memory = false) :
    fetched.instruction.isOperand32 = true := by
  have hpush : (modrmRegister (fetched.nextByte memory) == x86Group5Call ||
      modrmRegister (fetched.nextByte memory) == x86Group5Push) = true := by
    rw [or_eq_true, beq_iff_eq, beq_iff_eq]
    exact hoperation
  unfold isGroup5Push at hgroup5
  rw [hopcode, beq_self_eq_true, Bool.true_and, hpush, Bool.and_true] at hgroup5
  simpa only [not_eq_false'] using hgroup5

include hmemory in
/-- Every stack instruction but `POP r`, `POP r/m` and the word forms of group 5. -/
theorem v86Execute_atStack {fetched : V86Fetched} (hmove : fetched.stackMove memory = some move)
    (hpopRegister : ¬(x86OpPopFirst ≤ fetched.opcode ∧ fetched.opcode ≤ x86OpPopLast))
    (hpopRm : fetched.opcode ≠ x86OpPopRm) (hgroup5 : fetched.isGroup5Push memory = false) :
    EndsIn host.toHost cpu memory (v86Execute host fetched) fun _ cpu' _ =>
      AtStack cpu (fetched.stackTarget memory cpu move) cpu' := by
  obtain ⟨instruction, opcode, offset⟩ := fetched
  have hstack := atStack_self cpu
  unfold v86Execute
  apply endsIn_ite
  · intro hescape
    apply endsIn_bind
    apply endsIn_v86CodeByte hmemory.keeps
    unfold stackMove at hmove
    rw [if_pos hescape] at hmove
    exact v86TwoByte_atStack hmemory instruction (offset + 1) hmove _ rfl
  · intro hescape
    unfold stackMove at hmove
    rw [if_neg hescape] at hmove
    revert move
    refine @forall_of_ite _ _ _ _ _ _ (fun hopcode => ?_) ?_
    · rw [stackTarget_pushesOne]
      exact v86OneByte_pushesOne hmemory instruction offset hopcode
    refine forall_of_ite (fun hopcode => ?_) ?_
    · rw [stackTarget_popsOne]
      apply v86OneByte_popsOne hmemory instruction offset
      rcases hopcode with hrange | h | h | h | h | h | h
      · exact absurd hrange hpopRegister
      · exact inl h
      · exact inr (inl h)
      · exact inr (inr (inl h))
      · exact inr (inr (inr (inl h)))
      · exact absurd h hpopRm
      · exact inr (inr (inr (inr h)))
    refine forall_of_ite (fun hopcode => ?_) ?_
    · subst hopcode
      exact v86Pusha_stack hmemory hstack instruction offset
    refine forall_of_ite (fun hopcode => ?_) ?_
    · subst hopcode
      exact v86Popa_stack hmemory hstack instruction offset
    refine forall_of_ite (fun hopcode => ?_) ?_
    · subst hopcode
      exact v86Far_stack hmemory hstack instruction x86OpCallFar offset rfl
    refine forall_of_ite (fun hopcode => ?_) ?_
    · subst hopcode
      apply (v86Retf_stack hmemory hstack instruction x86OpRetf offset).mono
      intro _ cpu' _ hretf
      rw [if_neg (by decide)] at hretf
      have hadd : v86Get16 cpu x86RegSp + BitVec.ofNat 16 (2 * instruction.operandSize.bytes) + 0 =
          v86Get16 cpu x86RegSp + BitVec.ofNat 16 (2 * instruction.operandSize.bytes) :=
        BitVec.add_zero _
      rw [hadd] at hretf
      exact hretf
    refine forall_of_ite (fun hopcode => ?_) ?_
    · subst hopcode
      exact v86Iret_stack hmemory hstack instruction
    refine forall_of_ite (fun hopcode => ?_) ?_
    · subst hopcode
      apply (v86Ret_stack hmemory hstack instruction x86OpRetImm offset).mono
      intro _ cpu' _ hret
      rw [if_pos rfl] at hret
      rw [stackTarget_returnsOne]
      exact hret
    refine forall_of_ite (fun hopcode => ?_) ?_
    · subst hopcode
      apply (v86Retf_stack hmemory hstack instruction x86OpRetfImm offset).mono
      intro _ cpu' _ hretf
      rw [if_pos rfl] at hretf
      exact hretf
    refine forall_of_ite (fun hopcode => ?_) ?_
    · rcases hopcode with rfl | rfl
      · exact v86Int_stack hmemory hstack instruction x86OpInt offset
      · exact v86Int_stack hmemory hstack instruction x86OpInt3 offset
    refine forall_of_ite (fun hopcode => ?_) ?_
    · subst hopcode
      exact v86Enter_stack hmemory hstack instruction offset
    refine forall_of_ite (fun hopcode => ?_) ?_
    · subst hopcode
      exact v86Leave_stack hmemory hstack instruction offset
    refine forall_of_ite (fun hopcode => ?_) ?_
    · obtain ⟨rfl, hoperation⟩ := hopcode
      have hwide : instruction.isOperand32 = true :=
        isOperand32_of_not_group5Push rfl hoperation hgroup5
      have hsize : instruction.operandSize = .dword := if_pos hwide
      apply (v86Group45_push hmemory instruction x86OpGroup5 offset rfl hoperation).mono
      intro _ cpu' _ hpushed
      rw [if_pos hwide] at hpushed
      rw [stackTarget_pushesOne, hsize]
      exact hpushed
    refine forall_of_ite (fun hopcode => ?_) nofun
    obtain ⟨rfl, hoperation⟩ := hopcode
    exact v86Group45_far hmemory instruction x86OpGroup5 offset rfl hoperation

/-!
## When a stack instruction is exact (`V86Step`)

For each kind of block, the condition under which it moves only `SP` and delivers what it popped.
-/

theorem valueAt_lt (memory : Dword → Byte) (linear : Dword) (width : Width) :
    (valueAt memory linear width).toNat < 2 ^ width.bits := by
  cases width with
  | byte => exact toNat_setWidth_lt _
  | word =>
    have hhigh : ((memory (linear + 1)).setWidth 32 <<< 8).toNat < 2 ^ 16 := by
      have := toNat_setWidth_lt (memory (linear + 1))
      rw [toNat_shiftLeft, Nat.shiftLeft_eq]
      omega
    have hlow : ((memory linear).setWidth 32).toNat < 2 ^ 16 :=
      lt_trans (toNat_setWidth_lt _) (by decide)
    unfold valueAt
    rw [toNat_or]
    exact Nat.or_lt_two_pow hlow hhigh
  | dword => exact isLt _

theorem setWidth_of_word {value : Dword} (h : value.toNat < 2 ^ 16) :
    (value.setWidth 16).setWidth 32 = value := by
  bv_omega

variable {index : Nat} {width : Width}

theorem v86GetRegister_congr {cpu cpu' : V86Cpu}
    (h : cpu.registers (index % 8) = cpu'.registers (index % 8)) (hwidth : width ≠ .byte) :
    v86GetRegister cpu index width = v86GetRegister cpu' index width := by
  cases width with
  | byte => exact absurd rfl hwidth
  | word => simp only [v86GetRegister, v86Get16, h]
  | dword => exact h

theorem v86GetRegister_setRegister (cpu : V86Cpu) (index : Nat) {value : Dword}
    (hwidth : width ≠ .byte) (hvalue : value.toNat < 2 ^ width.bits) :
    v86GetRegister (v86SetRegister cpu index value width) index width = value := by
  cases width with
  | byte => exact absurd rfl hwidth
  | word =>
    have hget : v86Get16 (v86Set16 cpu index (value.setWidth 16)) index = value.setWidth 16 := by
      unfold v86Get16 v86Set16 V86Cpu.assign
      dsimp only
      rw [update_self, setWidth_storeWord]
    simp only [v86GetRegister, v86SetRegister, hget]
    exact setWidth_of_word hvalue
  | dword => exact update_self _ _ _

/-! ## The stack pointer -/

theorem withStackPointer_esp (cpu : V86Cpu) (stackPointer : Word) :
    (cpu.withStackPointer stackPointer).registers x86RegSp =
      cpu.registers x86RegSp &&& highWordMask ||| stackPointer.setWidth 32 :=
  rfl

theorem withStackPointer_of_ne (cpu : V86Cpu) (stackPointer : Word) (h : index ≠ x86RegSp) :
    (cpu.withStackPointer stackPointer).registers index = cpu.registers index :=
  update_of_ne h _ _

theorem v86SetRegister_esp (cpu : V86Cpu) (value : Dword) (hwidth : width ≠ .byte) :
    ((v86SetRegister cpu x86RegSp value width).registers x86RegSp).setWidth 16 =
      value.setWidth 16 := by
  cases width with
  | byte => exact absurd rfl hwidth
  | word => exact setWidth_storeWord _ _
  | dword => rfl

theorem v86SetRegister_keeps_esp (cpu : V86Cpu) (value : Dword) (h : index % 8 ≠ x86RegSp)
    (hwidth : width ≠ .byte) :
    (v86SetRegister cpu index value width).registers x86RegSp = cpu.registers x86RegSp := by
  cases width with
  | byte => exact absurd rfl hwidth
  | word => exact update_of_ne (Ne.symm h) _ _
  | dword => exact update_of_ne (Ne.symm h) _ _

/-- What is stored in `SP` does not depend on the `SP` before. -/
theorem v86SetRegister_withStackPointer_esp (cpu : V86Cpu) (stackPointer : Word) (value : Dword)
    (hwidth : width ≠ .byte) :
    (v86SetRegister (cpu.withStackPointer stackPointer) x86RegSp value width).registers x86RegSp =
      (v86SetRegister cpu x86RegSp value width).registers x86RegSp := by
  cases width with
  | byte => exact absurd rfl hwidth
  | word =>
    have hstored : (v86Set16 (cpu.withStackPointer stackPointer) x86RegSp
        (value.setWidth 16)).registers x86RegSp =
        (cpu.withStackPointer stackPointer).registers x86RegSp &&& highWordMask |||
          (value.setWidth 16).setWidth 32 := rfl
    simp only [v86SetRegister, hstored, withStackPointer_esp, highWord_storeWord]
    rfl
  | dword => rfl

theorem storeWord_eq_self_iff (kept : Dword) (value : Word) :
    kept &&& highWordMask ||| value.setWidth 32 = kept ↔ kept.setWidth 16 = value := by
  constructor
  · intro h
    rw [← h]
    exact setWidth_storeWord _ _
  · intro h
    rw [← h]
    exact storeWord_self kept

theorem storeWord_eq_setWidth_iff (kept : Dword) (value : Word) :
    value.setWidth 32 = kept &&& highWordMask ||| value.setWidth 32 ↔ kept &&& highWordMask = 0 := by
  constructor
  · intro h
    have hclear : (0 : Dword) &&& highWordMask ||| value.setWidth 32 = value.setWidth 32 := by
      simp
    have hzero := highWord_storeWord 0 value
    rw [hclear, h, highWord_storeWord] at hzero
    simpa using hzero
  · intro h
    rw [h]
    simp

/-! ## The four kinds of block -/

variable {fetched : V86Fetched} {m m' : Machine V86Cpu}

/-- A block that leaves `SP` where it is to be, and pops into no operand. -/
theorem stackExact_of_atStack
    (hstack : AtStack m.cpu (fetched.stackTarget (host.memory m) m.cpu move) m'.cpu)
    (hpopRegister : ¬(x86OpPopFirst ≤ fetched.opcode ∧ fetched.opcode ≤ x86OpPopLast))
    (hpopRm : fetched.opcode ≠ x86OpPopRm) : StackExact host fetched move m m' := by
  have hnone : fetched.poppedRegister (host.memory m) = none := by
    unfold poppedRegister
    rw [if_neg hpopRegister, if_neg fun h => hpopRm h.1]
  refine ⟨?_, ?_, fun _ _ hopcode => absurd hopcode hpopRm⟩
  · rw [hnone, if_neg (by decide)]
    exact hstack
  · intro index hindex
    rw [hnone] at hindex
    cases hindex

theorem stackRegular_of_plain
    (hpopRegister : ¬(x86OpPopFirst ≤ fetched.opcode ∧ fetched.opcode ≤ x86OpPopLast))
    (hpopRm : fetched.opcode ≠ x86OpPopRm)
    (hgroup5 : fetched.isGroup5Push (host.memory m) = false) : StackRegular host fetched m where
  popSp hopcode := absurd (hopcode ▸ by decide) hpopRegister
  group5 hpush := absurd (hgroup5.symm.trans hpush) (by decide)
  espBased hopcode := absurd hopcode hpopRm

section PopRegister

variable (hrange : x86OpPopFirst ≤ fetched.opcode ∧ fetched.opcode ≤ x86OpPopLast)

include hrange

theorem popRegister_ne_popRm : fetched.opcode ≠ x86OpPopRm := by
  intro h
  rw [h] at hrange
  exact absurd hrange (by decide)

theorem popRegister_not_group5 (memory : Dword → Byte) :
    ¬fetched.isGroup5Push memory = true := by
  intro h
  simp only [isGroup5Push, and_eq_true, beq_iff_eq] at h
  rw [h.1.1] at hrange
  exact absurd hrange (by decide)

theorem poppedRegister_popRegister (memory : Dword → Byte) :
    fetched.poppedRegister memory = some (opcodeLow fetched.opcode) :=
  if_pos hrange

end PopRegister

/-- `POP SP` is exact when it finds its own stack pointer, which is stored last, on the stack. -/
theorem stackExact_popSp_iff (hopcode : fetched.opcode = x86OpPopFirst + 4)
    (hregisters : m'.cpu.registers =
      ((v86SetRegister m.cpu (opcodeLow fetched.opcode)
        (fetched.popped (host.memory m) host m.cpu) fetched.width).withStackPointer
          (v86Get16 m.cpu x86RegSp + BitVec.ofNat 16 fetched.width.bytes)).registers) :
    StackExact host fetched move m m' ↔ StackRegular host fetched m := by
  have hrange : x86OpPopFirst ≤ fetched.opcode ∧ fetched.opcode ≤ x86OpPopLast := by
    rw [hopcode]
    decide
  have hlow : opcodeLow fetched.opcode = x86RegSp := by
    rw [hopcode]
    rfl
  have hwidth : fetched.width ≠ .byte := operandSize_ne_byte _
  obtain ⟨popped, hpopped⟩ : ∃ popped, fetched.popped (host.memory m) host m.cpu = popped :=
    ⟨_, rfl⟩
  have hvalue : popped.toNat < 2 ^ fetched.width.bits := by
    rw [← hpopped]
    exact valueAt_lt _ _ _
  have hsome := poppedRegister_popRegister hrange (host.memory m)
  rw [hlow] at hsome hregisters
  rw [hpopped] at hregisters
  have hesp : m'.cpu.registers x86RegSp =
      (v86SetRegister m.cpu x86RegSp popped fetched.width).registers x86RegSp &&& highWordMask |||
        (v86Get16 m.cpu x86RegSp + BitVec.ofNat 16 fetched.width.bytes).setWidth 32 := by
    rw [hregisters]
    exact withStackPointer_esp _ _
  constructor
  · intro hexact
    refine ⟨fun _ => ?_, fun h => absurd h (popRegister_not_group5 hrange _),
      fun h => absurd h (popRegister_ne_popRm hrange)⟩
    have hpointer := hexact.pointer
    rw [hsome, if_pos rfl, hpopped, hesp, storeWord_eq_self_iff,
      v86SetRegister_esp _ _ hwidth] at hpointer
    rw [hpopped]
    exact hpointer
  · intro hregular
    have hpop := hregular.popSp hopcode
    rw [hpopped, ← v86SetRegister_esp m.cpu popped hwidth, ← storeWord_eq_self_iff] at hpop
    rw [hpop] at hesp
    refine ⟨?_, ?_, fun _ _ h => absurd h (popRegister_ne_popRm hrange)⟩
    · rw [hsome, if_pos rfl, hpopped]
      exact hesp
    · intro index hindex
      obtain rfl : x86RegSp = index := some.inj (hsome.symm.trans hindex)
      rw [hpopped, v86GetRegister_congr hesp hwidth]
      exact v86GetRegister_setRegister _ _ hwidth hvalue

/-- `POP r` into another register. -/
theorem stackExact_popRegister
    (hrange : x86OpPopFirst ≤ fetched.opcode ∧ fetched.opcode ≤ x86OpPopLast)
    (hother : fetched.opcode ≠ x86OpPopFirst + 4)
    (hregisters : m'.cpu.registers =
      ((v86SetRegister m.cpu (opcodeLow fetched.opcode)
        (fetched.popped (host.memory m) host m.cpu) fetched.width).withStackPointer
          (v86Get16 m.cpu x86RegSp + BitVec.ofNat 16 fetched.width.bytes)).registers) :
    StackExact host fetched (.pops 1) m m' := by
  have hlow : opcodeLow fetched.opcode % 8 ≠ x86RegSp := by
    unfold opcodeLow x86RegSp
    unfold x86OpPopFirst x86OpPopLast at hrange
    unfold x86OpPopFirst at hother
    bv_omega
  have hlow' : opcodeLow fetched.opcode ≠ x86RegSp := fun h => hlow (by rw [h]; rfl)
  have hwidth : fetched.width ≠ .byte := operandSize_ne_byte _
  have hsome := poppedRegister_popRegister hrange (host.memory m)
  have hvalue := valueAt_lt (host.memory m)
    (v86StackLinear host m.cpu (v86Get16 m.cpu x86RegSp)) fetched.width
  refine ⟨?_, ?_, fun _ _ h => absurd h (popRegister_ne_popRm hrange)⟩
  · rw [hsome, if_neg fun h => hlow' (some.inj h), hregisters, withStackPointer_esp,
      withStackPointer_esp, v86SetRegister_keeps_esp _ _ hlow hwidth]
    unfold stackTarget
    dsimp only
    rw [Nat.one_mul]
  · intro index hindex
    obtain rfl : opcodeLow fetched.opcode = index := some.inj (hsome.symm.trans hindex)
    rw [v86GetRegister_congr (congrFun hregisters _) hwidth]
    have hkept : v86GetRegister
        ((v86SetRegister m.cpu (opcodeLow fetched.opcode)
          (fetched.popped (host.memory m) host m.cpu) fetched.width).withStackPointer
            (v86Get16 m.cpu x86RegSp + BitVec.ofNat 16 fetched.width.bytes))
          (opcodeLow fetched.opcode) fetched.width =
        v86GetRegister
          (v86SetRegister m.cpu (opcodeLow fetched.opcode)
            (fetched.popped (host.memory m) host m.cpu) fetched.width)
          (opcodeLow fetched.opcode) fetched.width :=
      v86GetRegister_congr (withStackPointer_of_ne _ _ hlow) hwidth
    rw [hkept]
    exact v86GetRegister_setRegister _ _ hwidth hvalue

/-- `CALL` and `PUSH` of group 5 at operand size 16 are exact when the upper half of `ESP`, which
they clear, is clear. -/
theorem stackExact_group5_iff (hgroup5 : fetched.isGroup5Push (host.memory m) = true)
    (hesp : m'.cpu.registers x86RegSp = (v86Get16 m.cpu x86RegSp - 2).setWidth 32) :
    StackExact host fetched (.pushes 1) m m' ↔ StackRegular host fetched m := by
  have hfields := hgroup5
  simp only [isGroup5Push, and_eq_true, beq_iff_eq, not_eq_true'] at hfields
  obtain ⟨⟨hopcode, hnarrow⟩, -⟩ := hfields
  have hnotPop : ¬(x86OpPopFirst ≤ fetched.opcode ∧ fetched.opcode ≤ x86OpPopLast) := by
    rw [hopcode]
    decide
  have hnotRm : fetched.opcode ≠ x86OpPopRm := by
    rw [hopcode]
    decide
  have hnone : fetched.poppedRegister (host.memory m) = none := by
    unfold poppedRegister
    rw [if_neg hnotPop, if_neg fun h => hnotRm h.1]
  have htarget : fetched.stackTarget (host.memory m) m.cpu (.pushes 1) =
      v86Get16 m.cpu x86RegSp - 2 := by
    have hsize : fetched.instruction.operandSize = .word := if_neg (by rw [hnarrow]; decide)
    rw [stackTarget_pushesOne, hsize]
    rfl
  constructor
  · intro hexact
    refine ⟨fun hpop => absurd (hopcode.symm.trans hpop) (by decide), fun _ => ?_,
      fun h => absurd h hnotRm⟩
    have hpointer := hexact.pointer
    rw [hnone, if_neg (by decide), withStackPointer_esp, hesp, htarget,
      storeWord_eq_setWidth_iff] at hpointer
    exact hpointer
  · intro hregular
    refine ⟨?_, ?_, fun _ _ h => absurd h hnotRm⟩
    · rw [hnone, if_neg (by decide), withStackPointer_esp, hesp, htarget,
        storeWord_eq_setWidth_iff]
      exact hregular.group5 hgroup5
    · intro index hindex
      rw [hnone] at hindex
      cases hindex

/-! ## `POP r/m` -/

theorem sub_of_espLinear (base esp moved index displacement : Dword) :
    base + (moved + index + displacement) - (base + (esp + index + displacement)) = moved - esp := by
  rw [add_sub_add_left_eq_sub, add_sub_add_right_eq_sub, add_sub_add_right_eq_sub]

theorem setWidth_ofNat_bytes (width : Width) :
    (BitVec.ofNat 16 width.bytes).setWidth 32 = BitVec.ofNat 32 width.bytes := by
  cases width <;> rfl

/-- An address based on `ESP` is above its address before the pop by what was popped. -/
theorem espLinear_sub (host : V86Host) (fetched : V86Fetched) (memory : Dword → Byte)
    (cpu : V86Cpu) :
    fetched.instruction.espLinear host memory fetched.offset cpu (fetched.poppedEsp cpu) -
        fetched.instruction.espLinear host memory fetched.offset cpu (cpu.registers x86RegSp) =
        BitVec.ofNat 32 fetched.width.bytes ∨
      fetched.instruction.espLinear host memory fetched.offset cpu (fetched.poppedEsp cpu) -
        fetched.instruction.espLinear host memory fetched.offset cpu (cpu.registers x86RegSp) =
        BitVec.ofNat 32 fetched.width.bytes - 65536 := by
  unfold V86Instruction.espLinear
  rw [sub_of_espLinear]
  have hesp : fetched.poppedEsp cpu =
      cpu.registers x86RegSp &&& highWordMask |||
        (v86Get16 cpu x86RegSp + BitVec.ofNat 16 fetched.width.bytes).setWidth 32 :=
    withStackPointer_esp _ _
  rw [hesp, ← setWidth_ofNat_bytes]
  exact storeWord_sub_self (cpu.registers x86RegSp) (BitVec.ofNat 16 fetched.width.bytes)

theorem apart_of_sub {before after : Dword}
    (h : after - before = BitVec.ofNat 32 width.bytes ∨
      after - before = BitVec.ofNat 32 width.bytes - 65536) :
    width.bytes ≤ (after - before).toNat ∧ width.bytes ≤ (before - after).toNat := by
  have hneg : before - after = -(after - before) := (neg_sub after before).symm
  rw [hneg]
  rcases h with h | h
  · rw [h]
    cases width <;> decide
  · rw [h]
    cases width <;> decide

section PopRm

variable (hopcode : fetched.opcode = x86OpPopRm)

include hopcode

theorem popRm_not_popRegister :
    ¬(x86OpPopFirst ≤ fetched.opcode ∧ fetched.opcode ≤ x86OpPopLast) := by
  rw [hopcode]
  decide

theorem poppedRegister_popRm (memory : Dword → Byte) :
    fetched.poppedRegister memory =
      if modrmMode (fetched.nextByte memory) = x86ModeRegister then
        some (modrmRegisterMemory (fetched.nextByte memory))
      else none := by
  unfold poppedRegister
  rw [if_neg (popRm_not_popRegister hopcode)]
  by_cases hmode : modrmMode (fetched.nextByte memory) = x86ModeRegister
  · rw [if_pos ⟨hopcode, hmode⟩, if_pos hmode]
  · rw [if_neg fun h => hmode h.2, if_neg hmode]

variable {after : Machine V86Cpu}

/-- `POP r/m` of a register. -/
theorem stackExact_popRm_register {modrm : V86Modrm}
    (hdecode : v86DecodeModrm host fetched.instruction fetched.offset m = .ok modrm after)
    (hfields : modrm.HasFields (fetched.nextByte (host.memory m)))
    (hregister : modrm.isMemory = false)
    (hregisters : m'.cpu.registers = (v86SetRegister (m.cpu.withStackPointer (v86Get16 m.cpu
      x86RegSp + BitVec.ofNat 16 fetched.width.bytes)) modrm.registerMemory (fetched.popped
      (host.memory m) host m.cpu) fetched.width).registers) :
    StackExact host fetched (.pops 1) m m' := by
  have hmode : modrmMode (fetched.nextByte (host.memory m)) = x86ModeRegister := by
    have hmemory := hfields.isMemory
    rw [hregister] at hmemory
    simpa using hmemory
  have hwidth : fetched.width ≠ .byte := operandSize_ne_byte _
  have hvalue := valueAt_lt (host.memory m)
    (v86StackLinear host m.cpu (v86Get16 m.cpu x86RegSp)) fetched.width
  have hsome : fetched.poppedRegister (host.memory m) = some modrm.registerMemory := by
    rw [poppedRegister_popRm hopcode, if_pos hmode, hfields.registerMemory]
  have hindex : modrm.registerMemory % 8 = modrm.registerMemory := by
    rw [hfields.registerMemory]
    exact Nat.mod_mod _ 8
  refine ⟨?_, ?_, ?_⟩
  · rw [hsome, hregisters]
    by_cases hsp : modrm.registerMemory = x86RegSp
    · rw [hsp, if_pos rfl]
      exact v86SetRegister_withStackPointer_esp _ _ _ hwidth
    · rw [if_neg fun h => hsp (some.inj h),
        v86SetRegister_keeps_esp _ _ (by rw [hindex]; exact hsp) hwidth]
      unfold stackTarget
      dsimp only
      rw [Nat.one_mul]
  · intro index hfound
    obtain rfl : modrm.registerMemory = index := some.inj (hsome.symm.trans hfound)
    rw [v86GetRegister_congr (congrFun hregisters _) hwidth]
    exact v86GetRegister_setRegister _ _ hwidth hvalue
  · intro other after' _ hother hmemory
    obtain ⟨rfl, -⟩ : modrm = other ∧ after = after' := by
      rw [hdecode] at hother
      cases hother
      exact ⟨rfl, rfl⟩
    exact absurd (hregister.symm.trans hmemory) (by decide)

theorem stackRegular_popRm
    (hbased : fetched.instruction.isEspBased (host.memory m) fetched.offset = true →
      valueAt (host.memory m)
        (fetched.instruction.espLinear host (host.memory m) fetched.offset m.cpu
          (fetched.poppedEsp m.cpu)) fetched.width =
        fetched.popped (host.memory m) host m.cpu) :
    StackRegular host fetched m where
  popSp h := absurd (hopcode.symm.trans h) (by decide)
  group5 h := by
    simp only [isGroup5Push, and_eq_true, beq_iff_eq] at h
    exact absurd (hopcode.symm.trans h.1.1) (by decide)
  espBased _ := hbased

/-- `POP r/m` of memory. -/
theorem stackExact_popRm_memory_iff {modrm : V86Modrm}
    (hdecode : v86DecodeModrm host fetched.instruction fetched.offset m = .ok modrm after)
    (hfields : modrm.HasFields (fetched.nextByte (host.memory m)))
    (hisMemory : modrm.isMemory = true)
    (hlinear : fetched.instruction.isEspBased (host.memory m) fetched.offset = true →
      modrm.linear = fetched.instruction.espLinear host (host.memory m) fetched.offset m.cpu
      (m.cpu.registers x86RegSp))
    (hstack : AtStack m.cpu (v86Get16 m.cpu x86RegSp + BitVec.ofNat 16 fetched.width.bytes) m'.cpu)
    (hstored : host.memory m' = storeAt (host.memory m) modrm.linear (fetched.popped (host.memory
      m) host m.cpu) fetched.width) :
    StackExact host fetched (.pops 1) m m' ↔ StackRegular host fetched m := by
  have hmode : modrmMode (fetched.nextByte (host.memory m)) ≠ x86ModeRegister := by
    have hmemory := hfields.isMemory
    rw [hisMemory] at hmemory
    simpa using hmemory
  have hnone : fetched.poppedRegister (host.memory m) = none := by
    rw [poppedRegister_popRm hopcode, if_neg hmode]
  have hvalue := valueAt_lt (host.memory m)
    (v86StackLinear host m.cpu (v86Get16 m.cpu x86RegSp)) fetched.width
  -- what the destination holds afterwards decides
  have hexact : StackExact host fetched (.pops 1) m m' ↔
      valueAt (host.memory m') (fetched.popLinear (host.memory m) host m.cpu modrm)
        fetched.width = fetched.popped (host.memory m) host m.cpu := by
    constructor
    · intro hexact
      exact hexact.operand modrm after hopcode hdecode hisMemory
    · intro hdelivered
      refine ⟨?_, ?_, ?_⟩
      · rw [hnone, if_neg (by decide)]
        unfold stackTarget
        dsimp only
        rw [Nat.one_mul]
        exact hstack
      · intro index hindex
        rw [hnone] at hindex
        cases hindex
      · intro other after' _ hother _
        rw [hdecode] at hother
        cases hother
        exact hdelivered
  rw [hexact]
  by_cases hbased : fetched.instruction.isEspBased (host.memory m) fetched.offset = true
  · have happart :=
      apart_of_sub (espLinear_sub host fetched (host.memory m) m.cpu)
    rw [← hlinear hbased] at happart
    have hkept : valueAt (host.memory m')
        (fetched.instruction.espLinear host (host.memory m) fetched.offset m.cpu
          (fetched.poppedEsp m.cpu)) fetched.width =
        valueAt (host.memory m)
          (fetched.instruction.espLinear host (host.memory m) fetched.offset m.cpu
            (fetched.poppedEsp m.cpu)) fetched.width := by
      rw [hstored]
      exact valueAt_storeAt_of_disjoint _ happart.1 happart.2
    unfold popLinear
    rw [if_pos hbased, hkept]
    constructor
    · intro hdelivered
      exact stackRegular_popRm hopcode fun _ => hdelivered
    · intro hregular
      exact hregular.espBased hopcode hbased
  · unfold popLinear
    rw [if_neg hbased, hstored]
    constructor
    · intro _
      exact stackRegular_popRm hopcode fun h => absurd h hbased
    · intro _
      exact valueAt_storeAt _ hvalue

end PopRm

end Ntvdmex.Host.V86
