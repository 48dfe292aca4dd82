import Ntvdmex.Host.Proofs.V86.Stack

/-!
# The stack instructions and their operands

What the ModRM byte says of the operand, and where it is when its address is based on `ESP`.
-/

namespace Ntvdmex.Host.V86

open Foundation Interp V86Instruction

variable {host : V86Host} (hkeeps : host.toHost.KeepsMemory) {cpu : V86Cpu}
  {memory : Dword → Byte} (instruction : V86Instruction) (offset : Nat)

/-- What a decoded operand has of its ModRM byte. -/
structure V86Modrm.HasFields (modrm : V86Modrm) (modrmByte : Byte) : Prop where
  isMemory : modrm.isMemory = decide (modrmMode modrmByte ≠ x86ModeRegister)
  register : modrm.register = modrmRegister modrmByte
  registerMemory : modrm.registerMemory = modrmRegisterMemory modrmByte

variable {modrmByte : Byte}

theorem hasFields_registerOperand (hmode : modrmMode modrmByte = x86ModeRegister) :
    (v86RegisterOperand modrmByte).HasFields modrmByte :=
  ⟨by simp [v86RegisterOperand, hmode], rfl, rfl⟩

theorem hasFields_memoryOperand (hmode : modrmMode modrmByte ≠ x86ModeRegister)
    (address : V86Address) :
    (v86MemoryOperand host instruction cpu modrmByte address).HasFields modrmByte :=
  ⟨by simp [v86MemoryOperand, hmode], rfl, rfl⟩

theorem V86Modrm.HasFields.limited {modrm : V86Modrm} (h : modrm.HasFields modrmByte) :
    modrm.limited.HasFields modrmByte := by
  unfold V86Modrm.limited
  split
  · exact ⟨h.isMemory, h.register, h.registerMemory⟩
  · exact h

include hkeeps in
theorem v86DecodeModrm_hasFields :
    EndsIn host.toHost cpu memory (v86DecodeModrm host instruction offset)
      fun modrm cpu' memory' =>
        modrm.HasFields (instruction.byteAt memory offset) ∧ cpu' = cpu ∧ memory' = memory := by
  apply endsIn_ite
  · intro _
    apply endsIn_bind
    apply endsIn_v86CodeByte hkeeps
    apply endsIn_ite
    · intro hmode
      exact endsIn_pure ⟨hasFields_registerOperand hmode, rfl, rfl⟩
    · intro hmode
      apply endsIn_getCpu
      apply endsIn_anyRead hkeeps
      intro base
      apply endsIn_anyRead hkeeps
      intro address
      exact endsIn_pure ⟨(hasFields_memoryOperand instruction hmode address).limited, rfl, rfl⟩
  · intro _
    apply endsIn_bind
    apply endsIn_v86CodeByte hkeeps
    apply endsIn_ite
    · intro hmode
      exact endsIn_pure ⟨hasFields_registerOperand hmode, rfl, rfl⟩
    · intro hmode
      apply endsIn_getCpu
      apply endsIn_anyRead hkeeps
      intro base
      apply endsIn_anyRead hkeeps
      intro address
      exact endsIn_pure ⟨hasFields_memoryOperand instruction hmode address, rfl, rfl⟩

/-- The operand is in memory, and a SIB byte names `ESP` as its base. -/
def V86Instruction.isEspBased (instruction : V86Instruction) (memory : Dword → Byte)
    (position : Nat) : Bool :=
  instruction.isAddress32 &&
    modrmMode (instruction.byteAt memory position) != x86ModeRegister &&
    modrmRegisterMemory (instruction.byteAt memory position) == 4 &&
    modrmRegisterMemory (instruction.byteAt memory (position + 1)) == x86RegSp

def V86Instruction.scaledIndex (instruction : V86Instruction) (memory : Dword → Byte)
    (position : Nat) (cpu : V86Cpu) : Dword :=
  let sib := instruction.byteAt memory (position + 1)
  if modrmRegister sib = 4 then 0 else cpu.registers (modrmRegister sib) <<< modrmMode sib

def V86Instruction.displacement (instruction : V86Instruction) (memory : Dword → Byte)
    (position : Nat) : Dword :=
  let mode := modrmMode (instruction.byteAt memory position)
  if mode = x86ModeDisp8 then (instruction.byteAt memory (position + 2)).signExtend 32
  else if mode = 2 then
    valueAt memory (instruction.codeLinear + BitVec.ofNat 32 (position + 2)) .dword
  else 0

/-- The linear address of an operand `ESP + index + displacement`. -/
def V86Instruction.espLinear (host : V86Host) (instruction : V86Instruction)
    (memory : Dword → Byte) (position : Nat) (cpu : V86Cpu) (esp : Dword) : Dword :=
  v86SegmentBase host (cpu.segments (instruction.segmentOr x86SregSs)) +
    (esp + instruction.scaledIndex memory position cpu + instruction.displacement memory position)

include hkeeps in
theorem v86DecodeModrm_espBased (hbased : instruction.isEspBased memory offset = true) :
    EndsIn host.toHost cpu memory (v86DecodeModrm host instruction offset)
      fun modrm _ _ =>
        modrm.linear = v86GuestLimit ∨
          modrm.linear =
            instruction.espLinear host memory offset cpu (cpu.registers x86RegSp) := by
  simp only [isEspBased, Bool.and_eq_true, bne_iff_ne, beq_iff_eq] at hbased
  obtain ⟨⟨⟨hwide, hmode⟩, hrm⟩, hsib⟩ := hbased
  unfold v86DecodeModrm
  rw [if_pos hwide]
  apply endsIn_bind
  apply endsIn_v86CodeByte hkeeps
  rw [if_neg hmode]
  apply endsIn_getCpu
  apply endsIn_bind
  unfold v86BaseAddress32
  rw [if_pos hrm]
  apply endsIn_bind
  apply endsIn_v86CodeByte hkeeps
  apply endsIn_bind
  unfold v86SibBase
  rw [if_neg fun hbp => absurd (hsib.symm.trans hbp.1) (by decide), hsib]
  apply endsIn_pure
  apply endsIn_pure
  apply endsIn_bind
  have hlimited : ∀ address : V86Address, address.isStackBased = true →
      address.address = cpu.registers x86RegSp + instruction.scaledIndex memory offset cpu +
        instruction.displacement memory offset →
      (v86MemoryOperand host instruction cpu (instruction.byteAt memory offset)
          address).limited.linear = v86GuestLimit ∨
        (v86MemoryOperand host instruction cpu (instruction.byteAt memory offset)
          address).limited.linear =
          instruction.espLinear host memory offset cpu (cpu.registers x86RegSp) := by
    intro address hstack haddress
    unfold V86Modrm.limited
    split
    · exact Or.inl rfl
    · right
      simp only [v86MemoryOperand, espLinear, hstack, haddress, if_true]
  apply endsIn_ite
  · intro hdisp8
    apply endsIn_bind
    apply endsIn_v86CodeByte hkeeps
    apply endsIn_pure
    apply endsIn_pure
    apply hlimited
    · rfl
    · simp only [displacement, if_pos hdisp8]
      rfl
  · intro hnarrow
    apply endsIn_ite
    · intro hdisp32
      apply endsIn_fetchMemory hkeeps
      apply endsIn_pure
      apply endsIn_pure
      apply hlimited
      · rfl
      · simp only [displacement, if_neg hnarrow, if_pos hdisp32]
        rfl
    · intro hnone
      apply endsIn_pure
      apply endsIn_pure
      apply hlimited
      · rfl
      · simp only [displacement, if_neg hnarrow, if_neg hnone]
        exact (BitVec.add_zero _).symm

/-!
## What a stack instruction is to do

How far each instruction moves the stack pointer, and where it delivers what it pops.
-/

/-! ## Moves of the stack pointer -/

/-- What an instruction does to the stack pointer, in slots of its operand size. -/
inductive V86StackMove where
  | pushes (count : Nat)
  | pops (count : Nat)
  /-- A return that pops the bytes of its immediate past its frame. -/
  | returns (count : Nat)
  /-- The three words of an interrupt. -/
  | interrupt
  | enter
  | leave
deriving DecidableEq

/-- The move of a one-byte opcode, with the reg field of its ModRM byte. -/
def v86OneByteMove (opcode : Byte) (operation : Nat) : Option V86StackMove :=
  if (x86OpPushFirst ≤ opcode ∧ opcode ≤ x86OpPushLast) ∨ opcode = x86OpPushImm ∨
      opcode = x86OpPushImm8 ∨ opcode = x86OpPushf ∨ opcode = x86OpPushEs ∨
      opcode = x86OpPushCs ∨ opcode = x86OpPushSs ∨ opcode = x86OpPushDs ∨ opcode = x86OpCall then
    some (.pushes 1)
  else if (x86OpPopFirst ≤ opcode ∧ opcode ≤ x86OpPopLast) ∨ opcode = x86OpPopf ∨
      opcode = x86OpPopEs ∨ opcode = x86OpPopSs ∨ opcode = x86OpPopDs ∨ opcode = x86OpPopRm ∨
      opcode = x86OpRet then
    some (.pops 1)
  else if opcode = x86OpPusha then some (.pushes 8)
  else if opcode = x86OpPopa then some (.pops 8)
  else if opcode = x86OpCallFar then some (.pushes 2)
  else if opcode = x86OpRetf then some (.pops 2)
  else if opcode = x86OpIret then some (.pops 3)
  else if opcode = x86OpRetImm then some (.returns 1)
  else if opcode = x86OpRetfImm then some (.returns 2)
  else if opcode = x86OpInt ∨ opcode = x86OpInt3 then some .interrupt
  else if opcode = x86OpEnter then some .enter
  else if opcode = x86OpLeave then some .leave
  else if opcode = x86OpGroup5 ∧ (operation = x86Group5Call ∨ operation = x86Group5Push) then
    some (.pushes 1)
  else if opcode = x86OpGroup5 ∧ operation = 3 then some (.pushes 2)
  else none

def v86TwoByteMove (opcode2 : Byte) : Option V86StackMove :=
  if opcode2 = v86Op2PushFs ∨ opcode2 = v86Op2PushGs then some (.pushes 1)
  else if opcode2 = v86Op2PopFs ∨ opcode2 = v86Op2PopGs then some (.pops 1)
  else none

namespace V86Fetched

variable (fetched : V86Fetched) (memory : Dword → Byte)

def width : Width := fetched.instruction.operandSize

def nextByte : Byte := fetched.instruction.byteAt memory fetched.offset

/-- The move of a stack instruction; `none` when the instruction is not one. -/
def stackMove : Option V86StackMove :=
  if fetched.opcode = x86Escape then v86TwoByteMove (fetched.nextByte memory)
  else v86OneByteMove fetched.opcode (modrmRegister (fetched.nextByte memory))

def stackTarget (cpu : V86Cpu) : V86StackMove → Word
  | .pushes count => v86Get16 cpu x86RegSp - BitVec.ofNat 16 (count * fetched.width.bytes)
  | .pops count => v86Get16 cpu x86RegSp + BitVec.ofNat 16 (count * fetched.width.bytes)
  | .returns count =>
    v86Get16 cpu x86RegSp + BitVec.ofNat 16 (count * fetched.width.bytes) +
      fetched.instruction.wordAt memory fetched.offset
  | .interrupt => v86Get16 cpu x86RegSp - 6
  | .enter =>
    v86Get16 cpu x86RegSp -
        BitVec.ofNat 16
          ((1 + fetched.instruction.enterLevel memory fetched.offset) * fetched.width.bytes) -
      fetched.instruction.wordAt memory fetched.offset
  | .leave => v86Get16 cpu x86RegBp + BitVec.ofNat 16 fetched.width.bytes

/-! ## Popped values -/

def popped (host : V86Host) (cpu : V86Cpu) : Dword :=
  valueAt memory (v86StackLinear host cpu (v86Get16 cpu x86RegSp)) fetched.width

def poppedRegister : Option Nat :=
  if x86OpPopFirst ≤ fetched.opcode ∧ fetched.opcode ≤ x86OpPopLast then
    some (opcodeLow fetched.opcode)
  else if fetched.opcode = x86OpPopRm ∧
      modrmMode (fetched.nextByte memory) = x86ModeRegister then
    some (modrmRegisterMemory (fetched.nextByte memory))
  else none

/-- `ESP` after a pop. -/
def poppedEsp (cpu : V86Cpu) : Dword :=
  (cpu.withStackPointer
    (v86Get16 cpu x86RegSp + BitVec.ofNat 16 fetched.width.bytes)).registers x86RegSp

/-- Where `POP r/m` stores: an address based on `ESP` is that of `ESP` after the pop. -/
def popLinear (host : V86Host) (cpu : V86Cpu) (modrm : V86Modrm) : Dword :=
  if fetched.instruction.isEspBased memory fetched.offset then
    fetched.instruction.espLinear host memory fetched.offset cpu (fetched.poppedEsp cpu)
  else modrm.linear

end V86Fetched

/-- A step that fetched `fetched` at `m`, and ended at `m'`, moved only `SP`, by the bytes it
pushed or popped, and delivered what it popped. -/
structure StackExact (host : V86Host) (fetched : V86Fetched) (move : V86StackMove)
    (m m' : Machine V86Cpu) : Prop where
  pointer : m'.cpu.registers x86RegSp =
    if fetched.poppedRegister (host.memory m) = some x86RegSp then
      (v86SetRegister m.cpu x86RegSp (fetched.popped (host.memory m) host m.cpu)
        fetched.width).registers x86RegSp
    else
      (m.cpu.withStackPointer
        (fetched.stackTarget (host.memory m) m.cpu move)).registers x86RegSp
  register : ∀ index, fetched.poppedRegister (host.memory m) = some index →
    v86GetRegister m'.cpu index fetched.width = fetched.popped (host.memory m) host m.cpu
  operand : ∀ modrm after, fetched.opcode = x86OpPopRm →
    v86DecodeModrm host fetched.instruction fetched.offset m = .ok modrm after →
      modrm.isMemory = true →
        valueAt (host.memory m') (fetched.popLinear (host.memory m) host m.cpu modrm)
          fetched.width = fetched.popped (host.memory m) host m.cpu

/-- `CALL` and `PUSH` of group 5 at operand size 16. -/
def V86Fetched.isGroup5Push (fetched : V86Fetched) (memory : Dword → Byte) : Bool :=
  fetched.opcode == x86OpGroup5 && !fetched.instruction.isOperand32 &&
    (modrmRegister (fetched.nextByte memory) == x86Group5Call ||
      modrmRegister (fetched.nextByte memory) == x86Group5Push)

/-- `POP SP` as a one-byte opcode finds its own stack pointer on the stack, group 5 finds the
upper half of `ESP` clear, and `POP r/m` finds the popped value at an address based on `ESP`. -/
structure StackRegular (host : V86Host) (fetched : V86Fetched) (m : Machine V86Cpu) : Prop where
  popSp : fetched.opcode = x86OpPopFirst + 4 →
    (fetched.popped (host.memory m) host m.cpu).setWidth 16 =
      v86Get16 m.cpu x86RegSp + BitVec.ofNat 16 fetched.width.bytes
  group5 : fetched.isGroup5Push (host.memory m) = true →
    m.cpu.registers x86RegSp &&& highWordMask = 0
  espBased : fetched.opcode = x86OpPopRm →
    fetched.instruction.isEspBased (host.memory m) fetched.offset = true →
      valueAt (host.memory m)
        (fetched.instruction.espLinear host (host.memory m) fetched.offset m.cpu
          (fetched.poppedEsp m.cpu)) fetched.width =
        fetched.popped (host.memory m) host m.cpu

/-!
## The stack instructions whose operand matters

`POP r`, which stores the stack pointer last; `POP r/m`; and group 5.
-/

variable {host : V86Host} (hmemory : host.toHost.IsMemory) {cpu : V86Cpu}
  {memory : Dword → Byte} (instruction : V86Instruction) (opcode : Byte) (offset : Nat)

/-- The value on top of the stack. -/
def topOfStack (host : V86Host) (cpu : V86Cpu) (memory : Dword → Byte) (width : Width) : Dword :=
  valueAt memory (v86StackLinear host cpu (v86Get16 cpu x86RegSp)) width

include hmemory

theorem v86PopRegister_ends :
    EndsIn host.toHost cpu memory (v86PopRegister host instruction opcode offset) fun _ cpu' _ =>
      cpu'.registers =
        ((v86SetRegister cpu (opcodeLow opcode)
          (topOfStack host cpu memory instruction.operandSize)
          instruction.operandSize).withStackPointer
            (v86Get16 cpu x86RegSp +
              BitVec.ofNat 16 instruction.operandSize.bytes)).registers := by
  apply endsIn_getCpu
  apply endsIn_readMemory hmemory.keeps
  apply endsIn_bind
  apply endsIn_modifyCpu
  apply endsIn_bind
  apply endsIn_modifyCpu
  apply endsIn_modifyCpu
  rfl

/-- `POP r/m` past its operand. -/
def v86PopInto (host : V86Host) (modrm : V86Modrm) (width : Width) (length : Nat) :
    V86Action Unit := do
  let value ← v86Pop host width
  v86WriteRm modrm width value
  advance length

variable {modrm : V86Modrm}

theorem v86PopInto_register (hregister : modrm.isMemory = false) (width : Width) (length : Nat) :
    EndsIn host.toHost cpu memory (v86PopInto host modrm width length) fun _ cpu' _ =>
      cpu'.registers =
        (v86SetRegister
          (cpu.withStackPointer (v86Get16 cpu x86RegSp + BitVec.ofNat 16 width.bytes))
          modrm.registerMemory (topOfStack host cpu memory width) width).registers := by
  unfold v86PopInto v86Pop v86WriteRm
  apply endsIn_bind
  apply endsIn_getCpu
  apply endsIn_readMemory hmemory.keeps
  apply endsIn_bind
  apply endsIn_modifyCpu
  apply endsIn_pure
  apply endsIn_bind
  rw [if_neg (by rw [hregister]; decide)]
  apply endsIn_modifyCpu
  apply endsIn_modifyCpu
  rfl

theorem v86PopInto_memory (hisMemory : modrm.isMemory = true) (width : Width) (length : Nat) :
    EndsIn host.toHost cpu memory (v86PopInto host modrm width length) fun _ cpu' memory' =>
      AtStack cpu (v86Get16 cpu x86RegSp + BitVec.ofNat 16 width.bytes) cpu' ∧
        memory' = storeAt memory modrm.linear (topOfStack host cpu memory width) width := by
  unfold v86PopInto v86Pop v86WriteRm
  apply endsIn_bind
  apply endsIn_getCpu
  apply endsIn_readMemory hmemory.keeps
  apply endsIn_bind
  apply endsIn_modifyCpu
  apply endsIn_pure
  apply endsIn_bind
  rw [if_pos hisMemory]
  apply endsIn_writeMemory hmemory
  apply endsIn_modifyCpu
  exact ⟨(atStack_self cpu).store _, rfl⟩

/-! ## Group 5 -/

theorem v86PushWordWhole_ends (value : Word) :
    EndsIn host.toHost cpu memory (v86PushWordWhole host value) fun _ cpu' _ =>
      cpu'.registers x86RegSp = (v86Get16 cpu x86RegSp - 2).setWidth 32 := by
  apply endsIn_getCpu
  rw [(atStack_self cpu).below]
  apply endsIn_bind
  apply endsIn_writeMemory hmemory
  apply endsIn_modifyCpu
  simp [V86Cpu.assign, Width.bytes]

theorem v86Group5Narrow_push
    (hregister : modrm.register = x86Group5Call ∨ modrm.register = x86Group5Push) :
    EndsIn host.toHost cpu memory (v86Group5Narrow host offset modrm) fun _ cpu' _ =>
      cpu'.registers x86RegSp = (v86Get16 cpu x86RegSp - 2).setWidth 32 := by
  apply endsIn_anyRead hmemory.keeps
  intro operand
  apply endsIn_getCpu
  rcases hregister with hcall | hpush
  · rw [if_pos hcall]
    apply endsIn_seq (v86PushWordWhole_ends hmemory _)
    intro _ pushed memory' hpushed
    exact endsIn_modifyCpu hpushed
  · rw [if_neg (by rw [hpush]; decide), if_neg (by rw [hpush]; decide), if_pos hpush]
    apply endsIn_seq (v86PushWordWhole_ends hmemory _)
    intro _ pushed memory' hpushed
    exact endsIn_modifyCpu hpushed

theorem v86Group5Narrow_far (hregister : modrm.register = 3) :
    EndsIn host.toHost cpu memory (v86Group5Narrow host offset modrm) fun _ cpu' _ =>
      AtStack cpu (v86Get16 cpu x86RegSp - 2 - 2) cpu' := by
  apply endsIn_anyRead hmemory.keeps
  intro operand
  apply endsIn_getCpu
  rw [if_neg (by rw [hregister]; decide), if_neg (by rw [hregister]; decide),
    if_neg (by rw [hregister]; decide)]
  apply endsIn_ite
  · intro _
    apply endsIn_readMemory hmemory.keeps
    apply endsIn_bind
    apply endsIn_onlyIf
    · intro _
      apply (v86PushFarFrame_stack hmemory (atStack_self cpu) _).mono
      intro _ pushed memory' hpushed
      exact v86JumpFar_stack hpushed _ _
    · exact fun hjump => absurd hregister hjump
  · exact fun _ => endsIn_decline

theorem v86Group5Wide_push
    (hregister : modrm.register = x86Group5Call ∨ modrm.register = x86Group5Push) :
    EndsIn host.toHost cpu memory (v86Group5Wide host offset modrm) fun _ cpu' _ =>
      AtStack cpu (v86Get16 cpu x86RegSp - 4) cpu' := by
  apply endsIn_anyRead hmemory.keeps
  intro operand
  apply endsIn_getCpu
  rcases hregister with hcall | hpush
  · rw [if_pos (Or.inl hcall)]
    apply endsIn_declineIf
    intro _
    apply endsIn_bind
    apply endsIn_onlyIf
    · intro _
      apply (v86Push_stack hmemory (atStack_self cpu) .dword _).mono
      intro _ pushed memory' hpushed
      exact setIp_stack hpushed _
    · exact fun hjump => absurd hcall hjump
  · rw [if_neg (by rw [hpush]; decide), if_pos hpush]
    apply endsIn_seq (v86Push_stack hmemory (atStack_self cpu) .dword _)
    intro _ pushed memory' hpushed
    exact setIp_stack hpushed _

theorem v86Group5Wide_far (hregister : modrm.register = 3) :
    EndsIn host.toHost cpu memory (v86Group5Wide host offset modrm) fun _ cpu' _ =>
      AtStack cpu (v86Get16 cpu x86RegSp - 4 - 4) cpu' := by
  apply endsIn_anyRead hmemory.keeps
  intro operand
  apply endsIn_getCpu
  rw [if_neg (by rw [hregister]; decide), if_neg (by rw [hregister]; decide)]
  apply endsIn_ite
  · intro _
    apply endsIn_readMemory hmemory.keeps
    apply endsIn_declineIf
    intro _
    apply endsIn_bind
    apply endsIn_onlyIf
    · intro _
      apply (v86PushFarFrame32_stack hmemory (atStack_self cpu) _).mono
      intro _ pushed memory' hpushed
      exact v86JumpFar_stack hpushed _ _
    · exact fun hjump => absurd hregister hjump
  · exact fun _ => endsIn_decline

/-- `CALL` and `PUSH` of group 5. -/
theorem v86Group45_push (hnotStep : opcode = x86OpGroup5)
    (hoperation : modrmRegister (instruction.byteAt memory offset) = x86Group5Call ∨
      modrmRegister (instruction.byteAt memory offset) = x86Group5Push) :
    EndsIn host.toHost cpu memory (v86Group45 host instruction opcode offset) fun _ cpu' _ =>
      if instruction.isOperand32 = true then AtStack cpu (v86Get16 cpu x86RegSp - 4) cpu'
      else cpu'.registers x86RegSp = (v86Get16 cpu x86RegSp - 2).setWidth 32 := by
  apply endsIn_seq (v86DecodeModrm_hasFields hmemory.keeps instruction offset)
  rintro modrm cpu memory ⟨hfields, rfl, rfl⟩
  rw [← hfields.register] at hoperation
  apply endsIn_declineIf
  intro _
  rw [if_neg (by rcases hoperation with h | h <;> rw [h] <;> decide),
    if_neg (not_not.mpr hnotStep)]
  apply endsIn_ite
  · intro hwide
    simp only [hwide, if_true]
    exact v86Group5Wide_push hmemory offset hoperation
  · intro hnarrow
    simp only [hnarrow, if_false]
    exact v86Group5Narrow_push hmemory offset hoperation

/-- `CALL FAR` of group 5. -/
theorem v86Group45_far (hnotStep : opcode = x86OpGroup5)
    (hoperation : modrmRegister (instruction.byteAt memory offset) = 3) :
    EndsIn host.toHost cpu memory (v86Group45 host instruction opcode offset) fun _ cpu' _ =>
      AtStack cpu
        (v86Get16 cpu x86RegSp - BitVec.ofNat 16 (2 * instruction.operandSize.bytes)) cpu' := by
  apply endsIn_seq (v86DecodeModrm_hasFields hmemory.keeps instruction offset)
  rintro modrm cpu memory ⟨hfields, rfl, rfl⟩
  rw [← hfields.register] at hoperation
  apply endsIn_declineIf
  intro _
  rw [if_neg (by rw [hoperation]; decide), if_neg (not_not.mpr hnotStep)]
  unfold V86Instruction.operandSize
  apply endsIn_ite
  · intro hwide
    have hbytes : v86Get16 cpu x86RegSp - BitVec.ofNat 16 (2 * Width.dword.bytes) =
        v86Get16 cpu x86RegSp - 4 - 4 := by
      simp only [Width.bytes]
      bv_omega
    rw [if_pos hwide, hbytes]
    exact v86Group5Wide_far hmemory offset hoperation
  · intro hnarrow
    have hbytes : v86Get16 cpu x86RegSp - BitVec.ofNat 16 (2 * Width.word.bytes) =
        v86Get16 cpu x86RegSp - 2 - 2 := by
      simp only [Width.bytes]
      bv_omega
    rw [if_neg hnarrow, hbytes]
    exact v86Group5Narrow_far hmemory offset hoperation

end Ntvdmex.Host.V86
