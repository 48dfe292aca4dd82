import Ntvdmex.Foundation.GuardedAccess
import Ntvdmex.Host.Proofs.Pm32.Exact

/-!
# A step touches only the memory it was allowed to (`Pm32Step`)

Each block of the ladder probes for the bytes it then reads or writes.
-/

set_option synthInstance.maxSize 2000

namespace Ntvdmex.Host.Pm32

open Foundation Interp Or Pm32String

variable (host : Pm32Host) (instruction : Pm32Instruction) (opcode opcode2 : Byte) (offset : Nat)
  {granted : Set (Dword × Bool)}

/-! ## Operands -/

def Pm32Modrm.bytes (modrm : Pm32Modrm) (width : Width) (isWrite : Bool) : Set (Dword × Bool) :=
  {byte | modrm.isMemory = true ∧ byte ∈ accessBytes modrm.linear width.bytes isWrite}

variable (cpu : Pm32Cpu) (modrm : Pm32Modrm) (string : Pm32String) (indices : Pm32Indices)
  (index : Nat) (width : Width) (operand value : Dword) (isWrite : Bool)

instance :
    Grants host.canAccess (pm32ProbeRm host modrm width isWrite) (modrm.bytes width isWrite) := by
  exact grants_onlyIf (grants_probe modrm.linear width.bytes isWrite)

instance : Grants host.canAccess (pm32CanPush host cpu width)
      (accessBytes (pm32StackTop cpu - BitVec.ofNat 32 width.bytes) width.bytes true) := by
  unfold pm32CanPush
  infer_instance

instance : Covers (granted ∪ modrm.bytes width isWrite) (modrm.bytes width false) where
  subset := by
    rintro byte ⟨hmemory, hbyte⟩
    exact Or.inr ⟨hmemory, accessBytes_read_subset isWrite hbyte⟩

theorem covers_of_isMemory {modrm : Pm32Modrm} {width : Width} {isWrite : Bool}
    (h : Covers granted (modrm.bytes width isWrite)) (hmemory : modrm.isMemory = true) :
    Covers granted (accessBytes modrm.linear width.bytes isWrite) :=
  ⟨fun _ hbyte => h.subset ⟨hmemory, hbyte⟩⟩

instance [h : Covers granted (modrm.bytes width false)] :
    Guarded host.canAccess granted (pm32ReadRm host modrm width) := by
  refine guarded_ite (fun hmemory => ?_) fun _ => inferInstance
  have hcovers := covers_of_isMemory h hmemory
  infer_instance

deriving instance Guarded host.canAccess granted for setRegister, assignRegister, setFlags, setEip,
  advance, pm32CodeByte, pm32CodeImmediate, pm32CodeSigned

deriving instance Guarded host.canAccess granted for pm32Displace, pm32SibBase, pm32BaseAddress,
  pm32Decode

deriving instance Guarded host.canAccess granted for pm32ProbeRm host, pm32CanPush host,
  pm32StoreProduct, pm32LeaBase

instance setAccumulatorPair_guarded (low high : Dword) :
    Guarded host.canAccess granted (setAccumulatorPair width low high) := by
  unfold setAccumulatorPair
  cases width <;> dsimp only <;> infer_instance

deriving instance Guarded host.canAccess granted for pm32Multiply, pm32Divide, pm32SignedDivide

instance [h : Covers granted (modrm.bytes width true)] :
    Guarded host.canAccess granted (pm32WriteRm modrm width value) := by
  refine guarded_ite (fun hmemory => ?_) fun _ => inferInstance
  have hcovers := covers_of_isMemory h hmemory
  infer_instance

theorem pm32WriteRm_guarded_of {modrm : Pm32Modrm} {width : Width} {c : Prop} [Decidable c]
    (hc : c) (value : Dword) :
    Guarded host.canAccess (granted ∪ modrm.bytes width (decide c))
      (pm32WriteRm modrm width value) := by
  rw [decide_eq_true hc]
  infer_instance

/-! ## Blocks with one operand -/

/-! ## Blocks that write under a condition -/

instance (operation form : Nat) (width : Width) : Guarded host.canAccess granted
      (pm32AluRm host instruction offset operation form width) := by
  have hstore : ∀ (modrm : Pm32Modrm) (value : Dword), Guarded host.canAccess
      (granted ∪ modrm.bytes width
        (decide (form < pm32FormFromRegisterEnd ∧ operation ≠ x86AluCmp)))
      (onlyIf (operation ≠ x86AluCmp)
        (if form < pm32FormFromRegisterEnd then pm32WriteRm modrm width value
        else setRegister modrm.register width value)) := by
    intro modrm value
    refine guarded_onlyIf fun hcmp => guarded_ite (fun hform => ?_) fun _ => inferInstance
    exact pm32WriteRm_guarded_of host ⟨hform, hcmp⟩ value
  unfold pm32AluRm
  infer_instance

instance : Guarded host.canAccess granted (pm32Group1 host instruction opcode offset) := by
  have hstore : ∀ (modrm : Pm32Modrm) (width : Width) (value : Dword), Guarded host.canAccess
      (granted ∪ modrm.bytes width (decide (modrm.register ≠ x86AluCmp)))
      (onlyIf (modrm.register ≠ x86AluCmp) (pm32WriteRm modrm width value)) :=
    fun modrm width value => guarded_onlyIf fun hcmp => pm32WriteRm_guarded_of host hcmp value
  unfold pm32Group1 pm32Group1Immediate
  infer_instance

instance : Guarded host.canAccess granted (pm32Mov host instruction opcode offset) := by
  have hmove : ∀ (modrm : Pm32Modrm) (width : Width) (value : Dword), Guarded host.canAccess
      (granted ∪ modrm.bytes width (decide (opcode < x86OpMovFromRmByte)))
      (if opcode < x86OpMovFromRmByte then pm32WriteRm modrm width value
      else do
        let value ← pm32ReadRm host modrm width
        setRegister modrm.register width value) := by
    intro modrm width value
    refine guarded_ite (fun hto => ?_) fun _ => inferInstance
    exact pm32WriteRm_guarded_of host hto value
  unfold pm32Mov
  infer_instance

instance : Guarded host.canAccess granted (pm32MovMoffs host instruction opcode offset) := by
  have hmove : ∀ (linear : Dword) (width : Width) (value : Dword), Guarded host.canAccess
      (granted ∪ accessBytes linear width.bytes (decide (x86OpMovToMoffsByte ≤ opcode)))
      (if opcode < x86OpMovToMoffsByte then do
        let value ← readMemory host.toHost linear width
        setRegister x86RegAx width value
      else writeMemory linear value width) := by
    intro linear width value
    refine guarded_ite (fun _ => inferInstance) fun hto => ?_
    rw [decide_eq_true (BitVec.not_lt.mp hto)]
    infer_instance
  unfold pm32MovMoffs
  infer_instance

theorem pm32Group3Operation_guarded : Guarded host.canAccess
      (granted ∪ modrm.bytes width
        (decide (modrm.register = x86Group3Not ∨ modrm.register = x86Group3Neg)))
      (pm32Group3Operation modrm width operand) := by
  refine guarded_ite (fun hnot => ?_) fun _ => guarded_ite (fun hneg => ?_) fun _ => inferInstance
  · exact pm32WriteRm_guarded_of host (inl hnot) _
  · have hwrite : ∀ value, Guarded host.canAccess
        (granted ∪ modrm.bytes width
          (decide (modrm.register = x86Group3Not ∨ modrm.register = x86Group3Neg)))
        (pm32WriteRm modrm width value) :=
      pm32WriteRm_guarded_of host (inr hneg)
    unfold pm32Negate
    infer_instance

instance : Guarded host.canAccess granted (pm32Group3 host instruction opcode offset) := by
  have hoperation := @pm32Group3Operation_guarded host granted
  unfold pm32Group3 pm32Group3Test pm32Group3Unary
  infer_instance

instance : Guarded host.canAccess granted (pm32Group2 host instruction opcode offset) := by
  have hstore : ∀ (modrm : Pm32Modrm) (width : Width) (shifted : Option Pm32Result),
      Guarded host.canAccess (granted ∪ modrm.bytes width true)
        (pm32StoreShifted modrm width shifted) := by
    intro modrm width shifted
    unfold pm32StoreShifted
    cases shifted <;> dsimp only <;> infer_instance
  unfold pm32Group2 pm32ShiftCount
  infer_instance

/-! ## The stack -/

theorem accessBytes_part {linear : Dword} {position length total : Nat} {isWrite : Bool}
    (h : position + length ≤ total) :
    accessBytes (linear + BitVec.ofNat 32 position) length isWrite ⊆
      accessBytes linear total isWrite := by
  rintro byte ⟨hwrite, index, hindex, hbyte⟩
  refine ⟨hwrite, position + index, by omega, ?_⟩
  rw [hbyte, BitVec.ofNat_add, BitVec.add_assoc]

instance
    [h : Covers granted (accessBytes (pm32StackTop cpu - BitVec.ofNat 32 width.bytes) width.bytes
      true)] :
    Guarded host.canAccess granted (pm32Push cpu width value) := by
  have haddress : pm32StackTop cpu - BitVec.ofNat 32 width.bytes =
      cpu.segmentBases x86SregSs + (cpu.registers x86RegSp - BitVec.ofNat 32 width.bytes) :=
    add_sub_assoc _ _ _
  rw [haddress] at h
  unfold pm32Push pm32PushFrom
  infer_instance

instance [h : Covers granted (accessBytes (pm32StackTop cpu) width.bytes false)] :
    Guarded host.canAccess granted (pm32Pop host cpu width) := by
  unfold pm32StackTop at h
  unfold pm32Pop pm32PopFrom
  infer_instance

/-- The slot that is pushed after `pushed` others, in the block that was probed. -/
theorem pushad_slot (stackBase stackPointer : Dword) {pushed : Nat} (h : pushed < 8) :
    stackBase +
        (stackPointer - BitVec.ofNat 32 (4 * pushed) - BitVec.ofNat 32 Width.dword.bytes) =
      stackBase + stackPointer - BitVec.ofNat 32 pm32PushadBytes +
        BitVec.ofNat 32 (28 - 4 * pushed) := by
  have hbytes : pm32PushadBytes = 28 - 4 * pushed + 4 * pushed + Width.dword.bytes := by
    have hdword : Width.dword.bytes = 4 := rfl
    unfold pm32PushadBytes
    omega
  rw [hbytes, BitVec.ofNat_add, BitVec.ofNat_add]
  ring

theorem pm32PushadLoop_guarded (original : Pm32Cpu)
    (h : Covers granted (accessBytes (pm32StackTop original - BitVec.ofNat 32 pm32PushadBytes)
      pm32PushadBytes true)) (indices : List Nat) (pushed : Nat)
    (hpushed : pushed + indices.length ≤ 8) :
    Guarded host.canAccess granted (pm32PushadLoop original indices
      (original.registers x86RegSp - BitVec.ofNat 32 (4 * pushed))) := by
  induction indices generalizing pushed with
  | nil => exact guarded_pure ()
  | cons index indices ih =>
    rw [List.length_cons] at hpushed
    have hnext := ih (pushed + 1) (by omega)
    have hslot : Covers granted (accessBytes (original.segmentBases x86SregSs +
        (original.registers x86RegSp - BitVec.ofNat 32 (4 * pushed) -
          BitVec.ofNat 32 Width.dword.bytes)) Width.dword.bytes true) := by
      rw [pushad_slot _ _ (by omega)]
      refine ⟨(accessBytes_part ?_).trans h.subset⟩
      change 28 - 4 * pushed + 4 ≤ 32
      omega
    have hpointer : original.registers x86RegSp - BitVec.ofNat 32 (4 * pushed) - 4 =
        original.registers x86RegSp - BitVec.ofNat 32 (4 * (pushed + 1)) := by
      rw [Nat.mul_add, BitVec.ofNat_add]
      exact sub_sub _ _ _
    rw [← hpointer] at hnext
    unfold pm32PushadLoop pm32PushFrom
    infer_instance

instance : Guarded host.canAccess granted (pm32Pushad host instruction offset) := by
  have hloop : ∀ cpu : Pm32Cpu, Guarded host.canAccess
      (granted ∪ accessBytes (pm32StackTop cpu - BitVec.ofNat 32 pm32PushadBytes)
        pm32PushadBytes true)
      (pm32PushadLoop cpu (List.range x86GeneralRegisters) (cpu.registers x86RegSp)) := by
    intro cpu
    have hcovers : Covers (granted ∪ accessBytes
          (pm32StackTop cpu - BitVec.ofNat 32 pm32PushadBytes) pm32PushadBytes true)
        (accessBytes (pm32StackTop cpu - BitVec.ofNat 32 pm32PushadBytes) pm32PushadBytes true) :=
      inferInstance
    have hrun := pm32PushadLoop_guarded host cpu hcovers (List.range x86GeneralRegisters) 0
      (by decide)
    rwa [Nat.mul_zero, BitVec.sub_zero] at hrun
  unfold pm32Pushad
  infer_instance

theorem pm32PopadLoop_guarded (original : Pm32Cpu)
    (h : Covers granted (accessBytes (pm32StackTop original) pm32PushadBytes false))
    (indices : List Nat) (popped : Nat) (saved : Nat → Dword)
    (hpopped : popped + indices.length ≤ 8) :
    Guarded host.canAccess granted (pm32PopadLoop host original indices
      (original.registers x86RegSp + BitVec.ofNat 32 (4 * popped)) saved) := by
  induction indices generalizing popped saved with
  | nil => exact guarded_pure saved
  | cons index indices ih =>
    rw [List.length_cons] at hpopped
    have hnext := fun saved => ih (popped + 1) saved (by omega)
    have hslot : Covers granted (accessBytes (original.segmentBases x86SregSs +
        (original.registers x86RegSp + BitVec.ofNat 32 (4 * popped)))
        Width.dword.bytes false) := by
      rw [← BitVec.add_assoc]
      refine ⟨(accessBytes_part ?_).trans h.subset⟩
      change 4 * popped + 4 ≤ 32
      omega
    have hpointer : original.registers x86RegSp + BitVec.ofNat 32 (4 * popped) + 4 =
        original.registers x86RegSp + BitVec.ofNat 32 (4 * (popped + 1)) := by
      rw [Nat.mul_add, BitVec.ofNat_add]
      exact BitVec.add_assoc _ _ _
    rw [← hpointer] at hnext
    unfold pm32PopadLoop pm32PopFrom
    infer_instance

instance : Guarded host.canAccess granted (pm32Popad host instruction offset) := by
  have hloop : ∀ cpu : Pm32Cpu, Guarded host.canAccess
      (granted ∪ accessBytes (pm32StackTop cpu) pm32PushadBytes false)
      (pm32PopadLoop host cpu (List.range x86GeneralRegisters).reverse
        (cpu.registers x86RegSp) fun _ => 0) := by
    intro cpu
    have hcovers : Covers (granted ∪ accessBytes (pm32StackTop cpu) pm32PushadBytes false)
        (accessBytes (pm32StackTop cpu) pm32PushadBytes false) := inferInstance
    have hrun := pm32PopadLoop_guarded host cpu hcovers
      (List.range x86GeneralRegisters).reverse 0 (fun _ => 0) (by decide)
    rwa [Nat.mul_zero, BitVec.add_zero] at hrun
  unfold pm32Popad
  infer_instance

/-! ## Strings -/

def Pm32String.elementBytes (string : Pm32String) (indices : Pm32Indices) (index : Nat) :
    Set (Dword × Bool) :=
  {byte | string.readsSource = true ∧
      byte ∈ accessBytes (string.sourceAt indices index) string.width.bytes false} ∪
    {byte | string.writesDestination = true ∧
      byte ∈ accessBytes (string.destinationAt indices index) string.width.bytes true}

def Pm32String.bytes (string : Pm32String) (indices : Pm32Indices) (count : Nat) :
    Set (Dword × Bool) :=
  {byte | ∃ index ∈ List.range count, byte ∈ string.elementBytes indices index}

instance (count : Nat) :
    Grants host.canAccess (forEach (pm32ProbeElement host string indices) (List.range count))
      (string.bytes indices count) := by
  have helement : ∀ index, Grants host.canAccess (pm32ProbeElement host string indices index)
      (string.elementBytes indices index) := by
    intro index
    exact grants_bind (grants_onlyIf (grants_probe _ _ _))
      fun _ => grants_onlyIf (grants_probe _ _ _)
  exact grants_forEach helement (List.range count)

deriving instance Guarded host.canAccess granted for pm32ProbeElement host

/-- The offsets of an element, as the instruction has counted them. -/
def Pm32String.indicesAt (string : Pm32String) (indices : Pm32Indices) (index : Nat) :
    Pm32Indices where
  source :=
    if string.readsSource then indices.source + string.delta * BitVec.ofNat 32 index
    else indices.source
  destination :=
    if string.writesDestination then indices.destination + string.delta * BitVec.ofNat 32 index
    else indices.destination

theorem Pm32String.indicesAt_zero : string.indicesAt indices 0 = indices := by
  unfold indicesAt
  rw [BitVec.mul_zero, BitVec.add_zero, BitVec.add_zero, ite_self, ite_self]

theorem Pm32String.next_indicesAt :
    string.next (string.indicesAt indices index) = string.indicesAt indices (index + 1) := by
  have hstep : ∀ start : Dword, start + string.delta * BitVec.ofNat 32 index + string.delta =
      start + string.delta * BitVec.ofNat 32 (index + 1) := by
    intro start
    have hone : BitVec.ofNat 32 1 = 1 := rfl
    rw [BitVec.ofNat_add, hone]
    ring
  unfold next indicesAt
  cases string.readsSource <;> cases string.writesDestination <;>
    simp only [if_true, Bool.false_eq_true, if_false, hstep]

/-- The instructions that are strings. -/
def Pm32String.IsString (string : Pm32String) : Prop :=
  string.opcode = x86OpMovsb ∨ string.opcode = x86OpMovs ∨ string.opcode = x86OpStosb ∨
    string.opcode = x86OpStos ∨ string.opcode = x86OpLodsb ∨ string.opcode = x86OpLods

theorem pm32MoveElement_guarded {string : Pm32String} {indices : Pm32Indices}
    (hstring : string.IsString)
    (hsource : string.readsSource = true → Covers granted
      (accessBytes (string.sourceBase + indices.source) string.width.bytes false))
    (hdestination : string.writesDestination = true → Covers granted
      (accessBytes (string.destinationBase + indices.destination) string.width.bytes true)) :
    Guarded host.canAccess granted (pm32MoveElement host string indices) := by
  unfold readsSource at hsource
  unfold writesDestination at hdestination
  refine guarded_ite (fun hmovs => ?_) fun hmovs => guarded_ite (fun hstos => ?_) fun hstos => ?_
  · have hread := hsource (by rcases hmovs with h | h <;> rw [h] <;> decide)
    have hwrite := hdestination (by rcases hmovs with h | h <;> rw [h] <;> decide)
    infer_instance
  · have hwrite := hdestination (by rcases hstos with h | h <;> rw [h] <;> decide)
    infer_instance
  · have hlods : string.opcode = x86OpLodsb ∨ string.opcode = x86OpLods := by
      unfold Pm32String.IsString at hstring
      tauto
    have hread := hsource (by rcases hlods with h | h <;> rw [h] <;> decide)
    infer_instance

theorem pm32StringLoop_guarded {string : Pm32String} (hstring : string.IsString)
    (indices : Pm32Indices) (total : Nat) (count index : Nat) (htotal : index + count = total) :
    Guarded host.canAccess (granted ∪ string.bytes indices total)
      (pm32StringLoop host string count (string.indicesAt indices index)) := by
  induction count generalizing index with
  | zero => exact guarded_pure ()
  | succ count ih =>
    have hnext := ih (index + 1) (by lia)
    have hindex : index ∈ List.range total := List.mem_range.mpr (by lia)
    have hmove : Guarded host.canAccess (granted ∪ string.bytes indices total)
        (pm32MoveElement host string (string.indicesAt indices index)) := by
      refine pm32MoveElement_guarded host hstring (fun hreads => ⟨fun byte hbyte => ?_⟩)
        fun hwrites => ⟨fun byte hbyte => ?_⟩
      · unfold indicesAt at hbyte
        rw [if_pos hreads] at hbyte
        exact inr ⟨index, hindex, inl ⟨hreads, hbyte⟩⟩
      · unfold indicesAt at hbyte
        rw [if_pos hwrites] at hbyte
        exact inr ⟨index, hindex, inr ⟨hwrites, hbyte⟩⟩
    unfold pm32StringLoop
    rw [string.next_indicesAt]
    infer_instance

theorem pm32StringOpcode_guarded
    (hopcode : opcode = x86OpMovsb ∨ opcode = x86OpMovs ∨ opcode = x86OpStosb ∨
      opcode = x86OpStos ∨ opcode = x86OpLodsb ∨ opcode = x86OpLods) :
    Guarded host.canAccess granted (pm32StringOpcode host instruction opcode offset) := by
  have hloop : ∀ (cpu : Pm32Cpu) (indices : Pm32Indices) (count : Nat), Guarded host.canAccess
      (granted ∪ (pm32StringOf instruction opcode cpu).bytes indices count)
      (pm32StringLoop host (pm32StringOf instruction opcode cpu) count indices) := by
    intro cpu indices count
    have hstring : (pm32StringOf instruction opcode cpu).IsString := hopcode
    have hrun : Guarded host.canAccess
        (granted ∪ (pm32StringOf instruction opcode cpu).bytes indices count)
        (pm32StringLoop host (pm32StringOf instruction opcode cpu) count
          ((pm32StringOf instruction opcode cpu).indicesAt indices 0)) :=
      pm32StringLoop_guarded host hstring indices count count 0 (Nat.zero_add count)
    rwa [indicesAt_zero] at hrun
  unfold pm32StringOpcode
  infer_instance

/-! ## The ladder -/

deriving instance Guarded host.canAccess granted for pm32PushRm host, pm32PushReturn host,
  pm32TransferRm host, pm32IncDecRm host, pm32Group45 host

instance : Guarded host.canAccess granted (pm32Escape host instruction offset) := by
  unfold pm32Escape pm32TwoByte pm32JccNear pm32Setcc pm32MoveExtend pm32ImulRm pm32ShldShrd
    pm32DoubleShiftBy pm32DoubleShiftCount
  infer_instance

deriving instance Guarded host.canAccess granted for pm32Call host, pm32JmpShort, pm32Jmp,
  pm32FlagInstruction, pm32ControlOpcode host

instance : Guarded host.canAccess granted (pm32DataOpcode host instruction opcode offset) := by
  have hstrings : ∀ (rest : Pm32Action Unit) [Guarded host.canAccess granted rest],
      Guarded host.canAccess granted
        (if opcode = x86OpMovsb ∨ opcode = x86OpMovs ∨ opcode = x86OpStosb ∨ opcode = x86OpStos ∨
            opcode = x86OpLodsb ∨ opcode = x86OpLods then
          pm32StringOpcode host instruction opcode offset
        else rest) :=
    fun rest hrest => guarded_ite (pm32StringOpcode_guarded host instruction opcode offset)
      fun _ => hrest
  unfold pm32DataOpcode pm32Lea pm32Nop pm32XchgAccumulator pm32Cwde pm32Cdq pm32TestImmediate
    pm32MovImmediate pm32MovImmediateRm pm32InOut pm32Port pm32Ret pm32ExtraPop
  infer_instance

deriving instance Guarded host.canAccess granted for pm32PushedImmediate, pm32PushImmediate host,
  pm32PopRegister host, pm32PushRegister host, pm32AluAccumulator, pm32AluForm host, pm32JccShort,
  pm32Xchg host, pm32Test host, pm32ImulImmediate, pm32Imul host, pm32IncDec, pm32OneByte host

instance (rounds : Nat) :
    Guarded host.canAccess granted (pm32TakePrefixes host rounds instruction offset) := by
  induction rounds generalizing instruction offset with
  | zero => exact guarded_decline
  | succ rounds ih =>
    unfold pm32TakePrefixes
    have hmatch : ∀ byte, Guarded host.canAccess granted
        (match pm32TakePrefix instruction byte with
        | some taken => (do
          declineIf (x86PrefixesMax < offset + 1)
          pm32TakePrefixes host rounds taken (offset + 1) : Pm32Action Pm32Prefixed)
        | none => do
          declineIf (byte = x86PrefixAddressSize ∨ byte = x86PrefixLock)
          return { instruction, opcode := byte, offset := offset + 1 }) := by
      intro byte
      cases pm32TakePrefix instruction byte <;> dsimp only <;> infer_instance
    infer_instance

deriving instance Guarded host.canAccess granted for pm32Step host

/-- A declined step has changed nothing and has only asked the host for bytes and for leave.
Each byte that an executed step reads or writes, code apart, was granted to it by the host. -/
theorem pm32Step_exact_and_granted (machine : Machine Pm32Cpu) :
    (∀ machine', pm32Step host machine = .error .declined machine' →
      machine'.cpu = machine.cpu ∧
        ∃ reads, machine'.calls = reads ++ machine.calls ∧ ∀ call ∈ reads, call.IsRead) ∧
    (∀ machine', pm32Step host machine = .ok () machine' →
      ∃ made, machine'.calls = made ++ machine.calls ∧
        ∀ call ∈ made, call.IsWithin (grantedBytes host.canAccess made)) := by
  refine ⟨(pm32Step_exact host).related machine, fun machine' hexecuted => ?_⟩
  have hguarded : Guarded host.canAccess ∅ (pm32Step host) := inferInstance
  obtain ⟨made, hcalls, hwithin⟩ := hguarded.within machine
  unfold after at hcalls
  rw [hexecuted] at hcalls
  refine ⟨made, hcalls, fun call hcall => ?_⟩
  have hcall := hwithin call hcall
  rwa [Set.empty_union] at hcall

/-- A host of `PUSH EAX` instructions that lets memory be touched, or does not. -/
def pushingHost (mayAccess : Bool) : Pm32Host where
  read8 _ _ := 0x50
  portIn _ _ _ := 0
  canAccess _ _ _ := mayAccess

def stackedCpu : Pm32Cpu where
  registers _ := 0x100
  eip := 0
  flags := 0
  segmentBases _ := 0

theorem push_exact_and_granted :
    (∃ machine', pm32Step (pushingHost false) { cpu := stackedCpu, calls := [] } =
        .error .declined machine' ∧ machine'.cpu = stackedCpu) ∧
      ∃ machine', pm32Step (pushingHost true) { cpu := stackedCpu, calls := [] } =
          .ok () machine' ∧
        ∃ made, machine'.calls = made ++ [] ∧
          ∀ call ∈ made, call.IsWithin (grantedBytes (pushingHost true).canAccess made) := by
  have hdeclined : pm32Step (pushingHost false) { cpu := stackedCpu, calls := [] } =
      .error .declined { cpu := stackedCpu, calls := [.probe 0xFC 4 true, .fetch 0] } := rfl
  have hexecuted : ∃ machine', pm32Step (pushingHost true) { cpu := stackedCpu, calls := [] } =
      .ok () machine' := ⟨_, rfl⟩
  obtain ⟨machine', hexecuted⟩ := hexecuted
  exact ⟨⟨_, hdeclined, ((pm32Step_exact_and_granted _ _).1 _ hdeclined).1⟩,
    machine', hexecuted, (pm32Step_exact_and_granted _ _).2 machine' hexecuted⟩

end Ntvdmex.Host.Pm32
