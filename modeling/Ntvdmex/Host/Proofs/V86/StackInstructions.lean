import Ntvdmex.Host.Proofs.V86.StackExact

/-!
# Stack instructions move only `SP`, and deliver what they pop (`V86Step`)

The condition under which they do, for one instruction and for `PUSH r` followed by `POP r'`.
-/

namespace Ntvdmex.Host.V86

open Foundation Interp Bool Option V86Fetched V86StackMove

variable {host : V86Host} (hmemory : host.toHost.IsMemory) {fetched : V86Fetched}
  {move : V86StackMove} {m m' : Machine V86Cpu}

/-! ## One instruction -/

section Moves

variable {instruction : V86Instruction} {opcode : Byte} {offset : Nat} {memory : Dword → Byte}

theorem stackMove_popRegister (hrange : x86OpPopFirst ≤ opcode ∧ opcode ≤ x86OpPopLast) :
    stackMove ⟨instruction, opcode, offset⟩ memory = some (.pops 1) := by
  rcases popRegister_cases hrange with rfl | rfl | rfl | rfl | rfl | rfl | rfl | rfl <;> rfl

theorem v86Execute_popRegister (hrange : x86OpPopFirst ≤ opcode ∧ opcode ≤ x86OpPopLast) :
    v86Execute host ⟨instruction, opcode, offset⟩ =
      v86PopRegister host instruction opcode offset := by
  rcases popRegister_cases hrange with rfl | rfl | rfl | rfl | rfl | rfl | rfl | rfl <;> rfl

theorem v86Execute_pushRegister (hrange : x86OpPushFirst ≤ opcode ∧ opcode ≤ x86OpPushLast) :
    v86Execute host ⟨instruction, opcode, offset⟩ =
      v86PushRegister host instruction opcode offset := by
  rcases pushRegister_cases hrange with rfl | rfl | rfl | rfl | rfl | rfl | rfl | rfl <;> rfl

theorem stackMove_group5 {fetched : V86Fetched} (hgroup5 : fetched.isGroup5Push memory = true) :
    fetched.stackMove memory = some (.pushes 1) := by
  simp only [isGroup5Push, and_eq_true, or_eq_true, beq_iff_eq] at hgroup5
  obtain ⟨⟨hopcode, -⟩, hoperation⟩ := hgroup5
  unfold stackMove
  rw [hopcode, if_neg (by decide)]
  rcases hoperation with h | h
  · rw [h]
    rfl
  · rw [h]
    rfl

end Moves

include hmemory

/-- `POP r/m`. -/
theorem stackExact_popRm_iff (hopcode : fetched.opcode = x86OpPopRm)
    (hrun : v86Execute host fetched m = .ok () m') :
    StackExact host fetched (.pops 1) m m' ↔ StackRegular host fetched m := by
  have hexecute : v86Execute host fetched =
      v86PopRm host fetched.instruction fetched.offset := by
    obtain ⟨instruction, opcode, offset⟩ := fetched
    obtain rfl : opcode = x86OpPopRm := hopcode
    rfl
  rw [hexecute] at hrun
  obtain ⟨-, hrun⟩ := of_declineIf_bind hrun
  obtain ⟨modrm, after, hdecode, hrun⟩ := bind_ok hrun
  obtain ⟨hfields, hcpu, hmemoryKept⟩ :=
    (v86DecodeModrm_hasFields hmemory.keeps fetched.instruction fetched.offset).of_ok hdecode
  obtain ⟨hwithin, hrun⟩ := of_declineIf_bind hrun
  have hinto : v86PopInto host modrm fetched.width (fetched.offset + modrm.length) after =
      .ok () m' := hrun
  by_cases hisMemory : modrm.isMemory = true
  · obtain ⟨hstack, hstored⟩ :=
      (v86PopInto_memory hmemory hisMemory fetched.width (fetched.offset + modrm.length)).of_ok hinto
    rw [hcpu] at hstack hstored
    rw [hmemoryKept] at hstored
    apply stackExact_popRm_memory_iff hopcode hdecode hfields hisMemory ?_ hstack hstored
    intro hbased
    have hlinear :=
      (v86DecodeModrm_espBased hmemory.keeps fetched.instruction fetched.offset hbased).of_ok hdecode
    rcases hlinear with hlimit | hlinear
    · exfalso
      apply hwithin
      right
      refine ⟨hisMemory, ?_⟩
      rw [hlimit]
      cases fetched.instruction.operandSize <;> decide
    · exact hlinear
  · have hregisters :=
      (v86PopInto_register hmemory (eq_false_iff.mpr hisMemory) fetched.width
        (fetched.offset + modrm.length)).of_ok hinto
    rw [hcpu, hmemoryKept] at hregisters
    have hnotBased : ¬fetched.instruction.isEspBased (host.memory m) fetched.offset = true := by
      intro hbased
      simp only [V86Instruction.isEspBased, and_eq_true, bne_iff_ne] at hbased
      apply hisMemory
      rw [hfields.isMemory, decide_eq_true_iff]
      exact hbased.1.1.2
    constructor
    · intro _
      exact stackRegular_popRm hopcode fun h => absurd h hnotBased
    · intro _
      exact stackExact_popRm_register hopcode hdecode hfields (eq_false_iff.mpr hisMemory)
        hregisters

theorem stackExact_iff (hmove : fetched.stackMove (host.memory m) = some move)
    (hrun : v86Execute host fetched m = .ok () m') :
    StackExact host fetched move m m' ↔ StackRegular host fetched m := by
  by_cases hpopRegister : x86OpPopFirst ≤ fetched.opcode ∧ fetched.opcode ≤ x86OpPopLast
  · obtain ⟨instruction, opcode, offset⟩ := fetched
    obtain rfl : pops 1 = move :=
      some.inj ((stackMove_popRegister hpopRegister).symm.trans hmove)
    rw [v86Execute_popRegister hpopRegister] at hrun
    have hregisters := (v86PopRegister_ends hmemory instruction opcode offset).of_ok hrun
    by_cases hsp : opcode = x86OpPopFirst + 4
    · exact stackExact_popSp_iff hsp hregisters
    · constructor
      · intro _
        exact ⟨fun h => absurd h hsp, fun h => absurd h (popRegister_not_group5 hpopRegister _),
          fun h => absurd h (popRegister_ne_popRm hpopRegister)⟩
      · intro _
        exact stackExact_popRegister hpopRegister hsp hregisters
  by_cases hpopRm : fetched.opcode = x86OpPopRm
  · obtain rfl : pops 1 = move := by
      obtain ⟨instruction, opcode, offset⟩ := fetched
      obtain rfl : opcode = x86OpPopRm := hpopRm
      exact some.inj hmove
    exact stackExact_popRm_iff hmemory hpopRm hrun
  by_cases hgroup5 : fetched.isGroup5Push (host.memory m) = true
  · obtain rfl : pushes 1 = move :=
      some.inj ((stackMove_group5 hgroup5).symm.trans hmove)
    apply stackExact_group5_iff hgroup5
    obtain ⟨instruction, opcode, offset⟩ := fetched
    simp only [isGroup5Push, and_eq_true, or_eq_true, beq_iff_eq,
      not_eq_true'] at hgroup5
    obtain ⟨⟨rfl, hnarrow⟩, hoperation⟩ := hgroup5
    have hended :=
      (v86Group45_push hmemory instruction x86OpGroup5 offset rfl hoperation).of_ok hrun
    rw [if_neg (by rw [hnarrow]; decide)] at hended
    exact hended
  · have hstack :=
      (v86Execute_atStack hmemory hmove hpopRegister hpopRm (eq_false_iff.mpr hgroup5)).of_ok
        hrun
    constructor
    · intro _
      exact stackRegular_of_plain hpopRegister hpopRm (eq_false_iff.mpr hgroup5)
    · intro _
      exact stackExact_of_atStack hstack hpopRegister hpopRm

/-- A step fetches without changing the processor or the memory, and then moves only `SP` and
delivers what it pops just when `StackRegular` holds. -/
theorem v86Step_stackExact_iff {between : Machine V86Cpu}
    (hfetch : v86Fetch host m = .ok fetched between)
    (hmove : fetched.stackMove (host.memory m) = some move) (hstep : v86Step host m = .ok () m') :
    (between.cpu = m.cpu ∧ host.memory between = host.memory m) ∧
      (StackExact host fetched move between m' ↔ StackRegular host fetched between) := by
  have hcpu : between.cpu = m.cpu := (onlyReads_of_fetch hfetch).1
  have hkept : host.memory between = host.memory m := onlyReads_memory hmemory.keeps
    (onlyReads_of_fetch hfetch)
  refine ⟨⟨hcpu, hkept⟩, ?_⟩
  rw [v86Step_of_fetch hfetch] at hstep
  rw [← hkept] at hmove
  exact stackExact_iff hmemory hmove hstep

theorem v86PushRegister_ends (instruction : V86Instruction) (opcode : Byte) (offset : Nat)
    {cpu : V86Cpu} {memory : Dword → Byte} :
    EndsIn host.toHost cpu memory (v86PushRegister host instruction opcode offset)
      fun _ cpu' memory' =>
        (AtStack cpu (v86Get16 cpu x86RegSp - BitVec.ofNat 16 instruction.operandSize.bytes) cpu' ∧
            cpu'.segments = cpu.segments) ∧
          memory' =
            storeAt memory
              (v86StackLinear host cpu
                (v86Get16 cpu x86RegSp - BitVec.ofNat 16 instruction.operandSize.bytes))
              (v86GetRegister cpu (opcodeLow opcode) instruction.operandSize)
              instruction.operandSize := by
  apply endsIn_getCpu
  apply endsIn_bind
  apply endsIn_getCpu
  rw [(atStack_self cpu).below]
  apply endsIn_bind
  apply endsIn_writeMemory hmemory
  apply endsIn_modifyCpu
  apply endsIn_modifyCpu
  exact ⟨⟨(atStack_self cpu).store _, rfl⟩, rfl⟩

omit hmemory in
/-- What `POP SP` leaves in `SP` is the popped value when the two agree. -/
theorem v86GetRegister_popSp_iff (cpu : V86Cpu) (stackPointer : Word) {value : Dword}
    {width : Width} (hwidth : width ≠ .byte) (hvalue : value.toNat < 2 ^ width.bits) :
    v86GetRegister ((v86SetRegister cpu x86RegSp value width).withStackPointer stackPointer)
        x86RegSp width = value ↔
      value.setWidth 16 = stackPointer := by
  have hesp := withStackPointer_esp (v86SetRegister cpu x86RegSp value width) stackPointer
  cases width with
  | byte => exact absurd rfl hwidth
  | word =>
    have hget : v86GetRegister
        ((v86SetRegister cpu x86RegSp value .word).withStackPointer stackPointer) x86RegSp .word =
        stackPointer.setWidth 32 := by
      unfold v86GetRegister v86Get16
      have hindex : x86RegSp % 8 = x86RegSp := rfl
      rw [hindex, hesp, setWidth_storeWord]
    rw [hget]
    constructor
    · intro h
      rw [← h]
      bv_omega
    · intro h
      rw [← h]
      exact setWidth_of_word hvalue
  | dword =>
    have hset : (v86SetRegister cpu x86RegSp value .dword).registers x86RegSp = value := rfl
    rw [hset] at hesp
    have hget : v86GetRegister
        ((v86SetRegister cpu x86RegSp value .dword).withStackPointer stackPointer) x86RegSp
          .dword = value &&& highWordMask ||| stackPointer.setWidth 32 := hesp
    rw [hget]
    exact storeWord_eq_self_iff value stackPointer

/-- `PUSH r` and `POP r'` copy `r`, unless `r'` is `SP`, which keeps its low word. -/
theorem v86Step_pushPop_iff {between m'' between' : Machine V86Cpu} {fetched' : V86Fetched}
    (hfetch : v86Fetch host m = .ok fetched between) (hstep : v86Step host m = .ok () m')
    (hpush : x86OpPushFirst ≤ fetched.opcode ∧ fetched.opcode ≤ x86OpPushLast)
    (hfetch' : v86Fetch host m' = .ok fetched' between') (hstep' : v86Step host m' = .ok () m'')
    (hpop : x86OpPopFirst ≤ fetched'.opcode ∧ fetched'.opcode ≤ x86OpPopLast)
    (hwidths : fetched'.width = fetched.width) :
    v86GetRegister m''.cpu (opcodeLow fetched'.opcode) fetched.width =
        v86GetRegister m.cpu (opcodeLow fetched.opcode) fetched.width ↔
      (opcodeLow fetched'.opcode ≠ x86RegSp ∨
        (v86GetRegister m.cpu (opcodeLow fetched.opcode) fetched.width).setWidth 16 =
          v86Get16 m.cpu x86RegSp) := by
  obtain ⟨instruction, opcode, offset⟩ := fetched
  obtain ⟨instruction', opcode', offset'⟩ := fetched'
  have hwidth : instruction.operandSize ≠ .byte := operandSize_ne_byte _
  have hsizes : instruction'.operandSize = instruction.operandSize := hwidths
  have hcpu : between.cpu = m.cpu := (onlyReads_of_fetch hfetch).1
  have hcpu' : between'.cpu = m'.cpu := (onlyReads_of_fetch hfetch').1
  have hkept' : host.memory between' = host.memory m' := onlyReads_memory hmemory.keeps
    (onlyReads_of_fetch hfetch')
  rw [v86Step_of_fetch hfetch, v86Execute_pushRegister hpush] at hstep
  rw [v86Step_of_fetch hfetch', v86Execute_popRegister hpop] at hstep'
  obtain ⟨⟨hstack, hsegments⟩, hstored⟩ :=
    (v86PushRegister_ends hmemory instruction opcode offset).of_ok hstep
  have hregisters := (v86PopRegister_ends hmemory instruction' opcode' offset').of_ok hstep'
  rw [hcpu] at hstack hsegments hstored
  rw [hcpu', hkept', hsizes] at hregisters
  obtain ⟨value, hvalue⟩ : ∃ value,
      v86GetRegister m.cpu (opcodeLow opcode) instruction.operandSize = value := ⟨_, rfl⟩
  have hbound : value.toNat < 2 ^ instruction.operandSize.bits := by
    rw [← hvalue]
    exact v86GetRegister_lt _ _ _
  have htop : topOfStack host m'.cpu (host.memory m') instruction.operandSize = value := by
    have hlinear : v86StackLinear host m'.cpu (v86Get16 m'.cpu x86RegSp) =
        v86StackLinear host m.cpu
          (v86Get16 m.cpu x86RegSp - BitVec.ofNat 16 instruction.operandSize.bytes) := by
      unfold v86StackLinear
      rw [hstack.get16, hsegments]
    unfold topOfStack
    rw [hlinear, hstored, hvalue]
    exact valueAt_storeAt _ hbound
  have hback : v86Get16 m'.cpu x86RegSp + BitVec.ofNat 16 instruction.operandSize.bytes =
      v86Get16 m.cpu x86RegSp := by
    rw [hstack.get16]
    exact BitVec.sub_add_cancel _ _
  rw [htop, hback] at hregisters
  have hread : v86GetRegister m''.cpu (opcodeLow opcode') instruction.operandSize =
      v86GetRegister
        ((v86SetRegister m'.cpu (opcodeLow opcode') value
          instruction.operandSize).withStackPointer (v86Get16 m.cpu x86RegSp))
        (opcodeLow opcode') instruction.operandSize :=
    v86GetRegister_congr (congrFun hregisters _) hwidth
  unfold width
  rw [hread, hvalue]
  by_cases hsp : opcodeLow opcode' = x86RegSp
  · rw [hsp, v86GetRegister_popSp_iff _ _ hwidth hbound]
    constructor
    · exact Or.inr
    · rintro (h | h)
      · exact absurd rfl h
      · exact h
  · constructor
    · exact fun _ => Or.inl hsp
    · intro _
      have hindex : opcodeLow opcode' % 8 = opcodeLow opcode' := Nat.mod_mod _ 8
      have hkeptRegister := withStackPointer_of_ne
        (v86SetRegister m'.cpu (opcodeLow opcode') value instruction.operandSize)
        (v86Get16 m.cpu x86RegSp) (hindex.symm ▸ hsp)
      rw [v86GetRegister_congr hkeptRegister hwidth]
      exact v86GetRegister_setRegister _ _ hwidth hbound

/-- A step that executes a stack instruction is exact just when it is regular, and the steps of
`PUSH r` and `POP r'` copy `r` just when `r'` is not `SP` or `r` has the word of `SP`. -/
theorem v86Step_stack_iff {between : Machine V86Cpu} (hfetch : v86Fetch host m = .ok fetched between)
    (hstep : v86Step host m = .ok () m') :
    (∀ move, fetched.stackMove (host.memory m) = some move →
      (between.cpu = m.cpu ∧ host.memory between = host.memory m) ∧
        (StackExact host fetched move between m' ↔ StackRegular host fetched between)) ∧
      ∀ (fetched' : V86Fetched) (between' m'' : Machine V86Cpu),
        v86Fetch host m' = .ok fetched' between' → v86Step host m' = .ok () m'' →
        (x86OpPushFirst ≤ fetched.opcode ∧ fetched.opcode ≤ x86OpPushLast) →
        (x86OpPopFirst ≤ fetched'.opcode ∧ fetched'.opcode ≤ x86OpPopLast) →
        fetched'.width = fetched.width →
          (v86GetRegister m''.cpu (opcodeLow fetched'.opcode) fetched.width =
              v86GetRegister m.cpu (opcodeLow fetched.opcode) fetched.width ↔
            (opcodeLow fetched'.opcode ≠ x86RegSp ∨
              (v86GetRegister m.cpu (opcodeLow fetched.opcode) fetched.width).setWidth 16 =
                v86Get16 m.cpu x86RegSp)) :=
  ⟨fun _ hmove => v86Step_stackExact_iff hmemory hfetch hmove hstep,
    fun _ _ _ hfetch' hstep' hpush hpop hwidths =>
      v86Step_pushPop_iff hmemory hfetch hstep hpush hfetch' hstep' hpop hwidths⟩

omit hmemory

def stackHost (code : List Byte) : V86Host where
  toHost := memoryHost (fun linear => code.getD linear.toNat 0) fun _ _ _ => 0
  segmentToLinear := none
  selectorDescriptor := none

/-- `ESP` is 00010040h, and every other register is 1234h. -/
def stackMachine : Machine V86Cpu where
  cpu :=
    { registers := fun index => if index = x86RegSp then 0x00010040 else 0x1234
      segments := fun _ => 0
      ip := 0
      flags := 2 }
  calls := []

theorem stackHost_isMemory (code : List Byte) : (stackHost code).toHost.IsMemory :=
  memoryHost_isMemory _ _

theorem v86Step_stack_pushAx_popBx :
    ∃ (fetched : V86Fetched) (between m' : Machine V86Cpu) (fetched' : V86Fetched)
      (between' m'' : Machine V86Cpu),
      v86Fetch (stackHost [0x50, 0x5B]) stackMachine = .ok fetched between ∧
        v86Step (stackHost [0x50, 0x5B]) stackMachine = .ok () m' ∧
        v86Fetch (stackHost [0x50, 0x5B]) m' = .ok fetched' between' ∧
        v86Step (stackHost [0x50, 0x5B]) m' = .ok () m'' ∧
        (StackExact (stackHost [0x50, 0x5B]) fetched (.pushes 1) between m' ↔
          StackRegular (stackHost [0x50, 0x5B]) fetched between) ∧
        (v86GetRegister m''.cpu (opcodeLow fetched'.opcode) fetched.width =
            v86GetRegister stackMachine.cpu (opcodeLow fetched.opcode) fetched.width ↔
          (opcodeLow fetched'.opcode ≠ x86RegSp ∨
            (v86GetRegister stackMachine.cpu (opcodeLow fetched.opcode) fetched.width).setWidth 16 =
              v86Get16 stackMachine.cpu x86RegSp)) := by
  refine ⟨_, _, _, _, _, _, rfl, rfl, rfl, rfl, ?_, ?_⟩
  · exact ((v86Step_stack_iff (m := stackMachine) (stackHost_isMemory [0x50, 0x5B]) rfl rfl).1
      (.pushes 1) rfl).2
  · exact (v86Step_stack_iff (m := stackMachine) (stackHost_isMemory [0x50, 0x5B]) rfl rfl).2
      _ _ _ rfl rfl (by decide) (by decide) rfl

/-- `POP SP` does not leave the zero that it pops, and `PUSH AX` as FF F0 clears `ESP[31:16]`. -/
theorem v86Step_popSp_not_exact :
    (∃ fetched between m',
      v86Fetch (stackHost [0x5C]) stackMachine = .ok fetched between ∧
        fetched.stackMove ((stackHost [0x5C]).memory stackMachine) = some (.pops 1) ∧
        v86Step (stackHost [0x5C]) stackMachine = .ok () m' ∧
        ¬StackExact (stackHost [0x5C]) fetched (.pops 1) between m') ∧
      ∃ fetched between m',
        v86Fetch (stackHost [0xFF, 0xF0]) stackMachine = .ok fetched between ∧
          fetched.stackMove ((stackHost [0xFF, 0xF0]).memory stackMachine) = some (.pushes 1) ∧
          v86Step (stackHost [0xFF, 0xF0]) stackMachine = .ok () m' ∧
          ¬StackExact (stackHost [0xFF, 0xF0]) fetched (.pushes 1) between m' := by
  constructor
  · exact ⟨_, _, _, rfl, rfl, rfl, fun hexact => absurd hexact.pointer (by decide)⟩
  · exact ⟨_, _, _, rfl, rfl, rfl, fun hexact => absurd hexact.pointer (by decide)⟩

end Ntvdmex.Host.V86
