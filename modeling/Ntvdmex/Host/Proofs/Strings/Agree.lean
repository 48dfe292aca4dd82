import Ntvdmex.Host.Proofs.Pm32.Exact
import Ntvdmex.Host.Proofs.Shifts.V86
import Ntvdmex.Host.Proofs.Strings.Memory

/-!
# String instructions of the two interpreters, element by element

Each element is read whole before it is written.
-/

namespace Ntvdmex.Host.Pm32

open Foundation Interp V86 Function BitVec Or

variable {host : Pm32Host} {cpu : Pm32Cpu} {memory : Dword → Byte} {opcode : Byte}

theorem isStos_of_moveOf (h : moveOf opcode = .store) : IsStos opcode := by
  unfold moveOf at h
  by_contra hstos
  rw [if_neg hstos] at h
  split at h
  · cases h
  · cases h

theorem pm32GetRegister_accumulator {cpu' : Pm32Cpu} {width : Width}
    (h : cpu'.registers x86RegAx = cpu.registers x86RegAx) :
    pm32GetRegister cpu' x86RegAx width = pm32GetRegister cpu x86RegAx width := by
  have hlow : x86RegAx < x86ByteRegisters := by decide
  have hindex : x86RegAx % 8 = x86RegAx := rfl
  unfold pm32GetRegister
  rw [if_pos hlow, if_pos hlow, hindex, h]

section Element

variable {string : Pm32String} {indices : Pm32Indices} {source destination : Dword}

theorem readsSource_iff (hopcode : IsMove string.opcode) :
    string.readsSource = true ↔ ¬IsStos string.opcode := by
  unfold Pm32String.readsSource
  rcases hopcode with (h | h) | (h | h) | (h | h) <;> rw [h] <;> decide

theorem writesDestination_iff (hopcode : IsMove string.opcode) :
    string.writesDestination = true ↔ ¬IsLods string.opcode := by
  unfold Pm32String.writesDestination
  rcases hopcode with (h | h) | (h | h) | (h | h) <;> rw [h] <;> decide

theorem registers_pm32SetRegister_of_ne {index : Nat} (hindex : index ≠ 0) (value : Dword)
    (width : Width) :
    (pm32SetRegister cpu x86RegAx value width).registers index = cpu.registers index := by
  cases width with
  | byte => exact update_of_ne hindex _ _
  | word => exact update_of_ne hindex _ _
  | dword => exact update_of_ne hindex _ _

theorem endsIn_pm32MoveElement (hmemory : host.IsMemory) (hopcode : IsMove string.opcode)
    (hsource : string.readsSource = true → indices.source = source)
    (hdestination : string.writesDestination = true → indices.destination = destination) :
    EndsIn host.toHost cpu memory (pm32MoveElement host string indices) fun _ cpu' memory' =>
      memory' = (moveOf string.opcode).once string.width
          (pm32GetRegister cpu x86RegAx string.width)
          (string.destinationBase + destination) (string.sourceBase + source) memory ∧
        (∀ index, index ≠ 0 → cpu'.registers index = cpu.registers index) ∧
        (IsStos string.opcode → cpu' = cpu) := by
  rw [readsSource_iff hopcode] at hsource
  rw [writesDestination_iff hopcode] at hdestination
  unfold pm32MoveElement moveOf
  by_cases hstos : IsStos string.opcode
  · have hwords : string.opcode = x86OpStosb ∨ string.opcode = x86OpStos := hstos
    have hmovs : ¬(string.opcode = x86OpMovsb ∨ string.opcode = x86OpMovs) := by
      rcases hstos with h | h <;> rw [h] <;> decide
    have hlods : ¬IsLods string.opcode := by
      rcases hstos with h | h <;> rw [h] <;> decide
    rw [if_pos hstos, if_neg hmovs, if_pos hwords, hdestination hlods]
    apply endsIn_getCpu
    apply endsIn_writeMemory hmemory
    exact ⟨rfl, fun _ _ => rfl, fun _ => rfl⟩
  have hothers : ¬(string.opcode = x86OpStosb ∨ string.opcode = x86OpStos) := hstos
  rw [if_neg hstos]
  by_cases hmovs : IsMovs string.opcode
  · have hwords : string.opcode = x86OpMovsb ∨ string.opcode = x86OpMovs := hmovs
    have hlods : ¬IsLods string.opcode := by
      rcases hmovs with h | h <;> rw [h] <;> decide
    rw [if_pos hmovs, if_pos hwords, hsource hstos, hdestination hlods]
    apply endsIn_readMemory hmemory.keeps
    apply endsIn_writeMemory hmemory
    exact ⟨rfl, fun _ _ => rfl, fun _ => rfl⟩
  · have hwords : ¬(string.opcode = x86OpMovsb ∨ string.opcode = x86OpMovs) := hmovs
    rw [if_neg hmovs, if_neg hwords, if_neg hothers]
    apply endsIn_anyRead hmemory.keeps
    intro value
    apply endsIn_modifyCpu
    exact ⟨rfl, fun index hindex => registers_pm32SetRegister_of_ne hindex _ _,
      fun h => absurd h hstos⟩

end Element

/-! ## The loop -/

section Loop

variable {string : Pm32String} {indices : Pm32Indices} {source destination : Dword}

/-- The registers hold the offsets. -/
structure PmAt (indices : Pm32Indices) (cpu : Pm32Cpu) : Prop where
  source : cpu.registers x86RegSi = indices.source
  destination : cpu.registers x86RegDi = indices.destination

/-- The offsets of the next element stored. -/
def storeOffsets (string : Pm32String) (next : Pm32Indices) (cpu : Pm32Cpu) : Pm32Cpu :=
  let stored := if string.readsSource then cpu.assign x86RegSi next.source else cpu
  if string.writesDestination then stored.assign x86RegDi next.destination else stored

theorem storeOffsets_registers (string : Pm32String) (next : Pm32Indices) (cpu : Pm32Cpu) :
    (storeOffsets string next cpu).registers x86RegAx = cpu.registers x86RegAx ∧
      (storeOffsets string next cpu).registers x86RegSi =
        (if string.readsSource then next.source else cpu.registers x86RegSi) ∧
      (storeOffsets string next cpu).registers x86RegDi =
        (if string.writesDestination then next.destination else cpu.registers x86RegDi) := by
  unfold storeOffsets
  cases string.readsSource <;> cases string.writesDestination <;> exact ⟨rfl, rfl, rfl⟩

theorem storeOffsets_bind (string : Pm32String) (next : Pm32Indices) {α : Type}
    (p : Pm32Action α) :
    (onlyIf string.readsSource (assignRegister x86RegSi next.source) >>= fun _ =>
      onlyIf string.writesDestination (assignRegister x86RegDi next.destination) >>= fun _ => p) =
      (modifyCpu (storeOffsets string next) >>= fun _ => p) := by
  unfold storeOffsets
  cases string.readsSource <;> cases string.writesDestination <;> rfl

theorem endsIn_pm32StringLoop (hmemory : host.IsMemory) (hopcode : IsMove string.opcode)
    (count : Nat) (hat : PmAt indices cpu)
    (hsource : string.readsSource = true → indices.source = source)
    (hdestination : string.writesDestination = true → indices.destination = destination) :
    EndsIn host.toHost cpu memory (pm32StringLoop host string count indices) fun _ cpu' memory' =>
      memory' = (moveOf string.opcode).times string.width
          (pm32GetRegister cpu x86RegAx string.width) string.delta count
          (string.destinationBase + destination) (string.sourceBase + source) memory ∧
        cpu'.registers x86RegSi =
          (if string.readsSource then source + string.delta * BitVec.ofNat 32 count
            else indices.source) ∧
        cpu'.registers x86RegDi =
          (if string.writesDestination then destination + string.delta * BitVec.ofNat 32 count
            else indices.destination) := by
  induction count generalizing cpu memory indices source destination with
  | zero =>
    apply endsIn_pure
    refine ⟨rfl, ?_, ?_⟩
    · rw [hat.source]
      split
      · rename_i hreads
        rw [hsource hreads]
        simp
      · rfl
    · rw [hat.destination]
      split
      · rename_i hwrites
        rw [hdestination hwrites]
        simp
      · rfl
  | succ count ih =>
    refine endsIn_seq (endsIn_pm32MoveElement hmemory hopcode hsource hdestination) ?_
    rintro _ cpu' memory' ⟨rfl, hregisters, hstore⟩
    obtain ⟨hax, hsi, hdi⟩ := storeOffsets_registers string (string.next indices) cpu'
    rw [storeOffsets_bind]
    apply endsIn_bind
    apply endsIn_modifyCpu
    have hnextSource : (string.next indices).source =
        if string.readsSource then indices.source + string.delta else indices.source := rfl
    have hnextDestination : (string.next indices).destination =
        if string.writesDestination then indices.destination + string.delta
        else indices.destination := rfl
    have hnextAt : PmAt (string.next indices) (storeOffsets string (string.next indices) cpu') := by
      constructor
      · rw [hsi, hregisters x86RegSi (by decide), hat.source, hnextSource]
        split
        · rfl
        · rfl
      · rw [hdi, hregisters x86RegDi (by decide), hat.destination, hnextDestination]
        split
        · rfl
        · rfl
    have hsourceRest : string.readsSource = true →
        (string.next indices).source = source + string.delta := by
      intro hreads
      rw [hnextSource, if_pos hreads, hsource hreads]
    have hdestinationRest : string.writesDestination = true →
        (string.next indices).destination = destination + string.delta := by
      intro hwrites
      rw [hnextDestination, if_pos hwrites, hdestination hwrites]
    refine (ih hnextAt hsourceRest hdestinationRest).mono ?_
    rintro _ cpu'' memory'' ⟨rfl, hsi', hdi'⟩
    have hvalue : moveOf string.opcode = .store → ∀ memory linear,
        storeAt memory linear (pm32GetRegister (storeOffsets string (string.next indices) cpu')
          x86RegAx string.width) string.width =
        storeAt memory linear (pm32GetRegister cpu x86RegAx string.width) string.width := by
      intro hmove memory linear
      rw [pm32GetRegister_accumulator hax, hstore (isStos_of_moveOf hmove)]
    refine ⟨?_, ?_, ?_⟩
    · rw [ElementMove.times_congr hvalue, ← BitVec.add_assoc, ← BitVec.add_assoc]
      rfl
    · rw [hsi', hnextSource]
      split
      · exact stride_succ _ _ _
      · rfl
    · rw [hdi', hnextDestination]
      split
      · exact stride_succ _ _ _
      · rfl

end Loop

section Run

variable {instruction : Pm32Instruction}

/-- What the 32-bit interpreter leaves in `ESI`, `EDI` and `ECX`. -/
structure HasOffsets (source destination count : Dword) (cpu : Pm32Cpu) : Prop where
  source : cpu.registers x86RegSi = source
  destination : cpu.registers x86RegDi = destination
  count : cpu.registers x86RegCx = count

/-- The stride of a string instruction. -/
def pm32Stride (cpu : Pm32Cpu) (width : Width) : Dword :=
  if hasFlag cpu.flags eflagsDf then -BitVec.ofNat 32 width.bytes else BitVec.ofNat 32 width.bytes

theorem endsIn_pm32String (cpu : Pm32Cpu) (memory : Dword →
    Byte) (hmemory : host.IsMemory) (hopcode : IsMove opcode)
    (hrepeated : instruction.repeated ≠ 0) (offset : Nat) :
    EndsIn host.toHost cpu memory (pm32StringOpcode host instruction opcode offset)
      fun _ cpu' memory' =>
        HasOffsets
            (if IsStos opcode then cpu.registers x86RegSi
              else cpu.registers x86RegSi + pm32Stride cpu (instruction.widthOf opcode) *
                BitVec.ofNat 32 (cpu.registers x86RegCx).toNat)
            (if IsLods opcode then cpu.registers x86RegDi
              else cpu.registers x86RegDi + pm32Stride cpu (instruction.widthOf opcode) *
                BitVec.ofNat 32 (cpu.registers x86RegCx).toNat)
            0 cpu' ∧
          memory' = (moveOf opcode).times (instruction.widthOf opcode)
            (pm32GetRegister cpu x86RegAx (instruction.widthOf opcode))
            (pm32Stride cpu (instruction.widthOf opcode)) (cpu.registers x86RegCx).toNat
            (cpu.segmentBases x86SregEs + cpu.registers x86RegDi)
            (cpu.segmentBases (instruction.segmentOr x86SregDs) + cpu.registers x86RegSi)
            memory := by
  apply endsIn_getCpu
  rw [if_pos hrepeated]
  refine endsIn_declineIf fun _ => ?_
  refine endsIn_declineIf fun _ => ?_
  apply endsIn_anyRead hmemory.keeps
  intro _
  refine endsIn_seq (endsIn_pm32StringLoop hmemory hopcode _ ⟨rfl, rfl⟩ (fun _ => rfl)
    fun _ => rfl) ?_
  rintro _ cpu' memory' ⟨rfl, hsi, hdi⟩
  apply endsIn_bind
  refine endsIn_onlyIf (fun _ => ?_) fun hnone => absurd hrepeated hnone
  apply endsIn_modifyCpu
  apply endsIn_modifyCpu
  refine ⟨⟨?_, ?_, rfl⟩, rfl⟩
  · change cpu'.registers x86RegSi = _
    rw [hsi]
    by_cases hstos : IsStos opcode
    · rw [if_pos hstos, if_neg fun hreads => (readsSource_iff hopcode).mp hreads hstos]
    · rw [if_neg hstos, if_pos ((readsSource_iff hopcode).mpr hstos)]
      rfl
  · change cpu'.registers x86RegDi = _
    rw [hdi]
    by_cases hlods : IsLods opcode
    · rw [if_pos hlods, if_neg fun hwrites => (writesDestination_iff hopcode).mp hwrites hlods]
    · rw [if_neg hlods, if_pos ((writesDestination_iff hopcode).mpr hlods)]
      rfl

end Run

end Ntvdmex.Host.Pm32

/-!
## String instructions, element by element

The 16-bit interpreter repeats the unprefixed instruction.  It copies a `MOVS` element a byte at
a time, so it leaves what the 32-bit interpreter leaves unless the destination is a few bytes
ahead of the source.
-/

namespace Ntvdmex.Host

open Foundation Interp V86 Pm32 BitVec Or

theorem storeAt_accumulator (cpu : Pm32Cpu) (memory : Dword → Byte) (linear : Dword)
    (width : Width) :
    storeAt memory linear (pm32GetRegister cpu x86RegAx width) width =
      storeAt memory linear (cpu.registers x86RegAx) width := by
  have hlow : x86RegAx < x86ByteRegisters := by decide
  have hmasked : pm32GetRegister cpu x86RegAx width =
      cpu.registers x86RegAx &&& widthMask width := by
    unfold pm32GetRegister
    cases width with
    | byte => rw [if_pos rfl, if_pos hlow]; rfl
    | word => rfl
    | dword => rfl
  rw [← storeBytes_eq, ← storeBytes_eq, hmasked]
  apply storeBytes_congr
  intro i hi
  apply eq_of_getLsbD_eq
  intro bit hbit
  have hwithin : 8 * i + bit < width.bits := by
    unfold Width.bits
    omega
  rw [getLsbD_setWidth, getLsbD_setWidth, getLsbD_ushiftRight,
    getLsbD_ushiftRight, getLsbD_and, getLsbD_widthMask, decide_eq_true hwithin,
    Bool.and_true]

/-! ## One instruction in both interpreters -/

/-- Both machines are at the same `MOVS`, `STOS` or `LODS` with a prefix, on the same flat memory,
and no element wraps. -/
structure SameString (host : V86Host) (machine : Machine V86Cpu) (fetched : V86Fetched)
    (host' : Pm32Host) (machine' : Machine Pm32Cpu) (prefixed : Pm32Prefixed) : Prop where
  isMemory : host.IsMemory
  isMemory' : host'.IsMemory
  fetch : ∃ between, v86Fetch host machine = .ok fetched between
  fetch' : ∃ between, pm32TakePrefixes host' (x86PrefixesMax + 1) (pm32Bare machine'.cpu) 0
    machine' = .ok prefixed between
  isMove : IsMove fetched.opcode
  opcode : prefixed.opcode = fetched.opcode
  width : prefixed.instruction.widthOf fetched.opcode = fetched.instruction.widthOf fetched.opcode
  repeated : fetched.instruction.repeated ≠ 0
  repeated' : prefixed.instruction.repeated ≠ 0
  memory : host'.memory machine' = host.memory machine
  sourceBase : machine'.cpu.segmentBases (prefixed.instruction.segmentOr x86SregDs) =
    v86SegmentBase host (machine.cpu.segments (fetched.instruction.segmentOr x86SregDs))
  extraBase : machine'.cpu.segmentBases x86SregEs =
    v86SegmentBase host (machine.cpu.segments x86SregEs)
  source : machine'.cpu.registers x86RegSi = (v86Get16 machine.cpu x86RegSi).setWidth 32
  destination : machine'.cpu.registers x86RegDi = (v86Get16 machine.cpu x86RegDi).setWidth 32
  count : machine'.cpu.registers x86RegCx = (v86Get16 machine.cpu x86RegCx).setWidth 32
  accumulator : machine'.cpu.registers x86RegAx = machine.cpu.registers x86RegAx
  direction : hasFlag machine'.cpu.flags eflagsDf = hasFlag machine.cpu.flags eflagsDf
  sourceNoWrap : ¬IsStos fetched.opcode →
    NoWrap (fetched.instruction.widthOf fetched.opcode)
      (pm32Stride machine'.cpu (fetched.instruction.widthOf fetched.opcode))
      (machine'.cpu.registers x86RegCx).toNat (machine'.cpu.registers x86RegSi)
  destinationNoWrap : ¬IsLods fetched.opcode →
    NoWrap (fetched.instruction.widthOf fetched.opcode)
      (pm32Stride machine'.cpu (fetched.instruction.widthOf fetched.opcode))
      (machine'.cpu.registers x86RegCx).toNat (machine'.cpu.registers x86RegDi)

/-- The memory, and the low words of `SI`, `DI` and `CX`, are the same. -/
structure SameMoved (host : V86Host) (after : Machine V86Cpu) (host' : Pm32Host)
    (after' : Machine Pm32Cpu) : Prop where
  memory : host.memory after = host'.memory after'
  source : v86Get16 after.cpu x86RegSi = (after'.cpu.registers x86RegSi).setWidth 16
  destination : v86Get16 after.cpu x86RegDi = (after'.cpu.registers x86RegDi).setWidth 16
  count : v86Get16 after.cpu x86RegCx = (after'.cpu.registers x86RegCx).setWidth 16

theorem pm32OneByte_move {host : Pm32Host} {instruction : Pm32Instruction} {opcode : Byte}
    (hopcode : IsMove opcode) (offset : Nat) :
    pm32OneByte host instruction opcode offset =
      pm32StringOpcode host instruction opcode offset := by
  rcases hopcode with (h | h) | (h | h) | (h | h) <;> rw [h] <;> rfl

theorem setWidth_pm32Stride {cpu : Pm32Cpu} {cpu' : V86Cpu}
    (h : hasFlag cpu.flags eflagsDf = hasFlag cpu'.flags eflagsDf) (width : Width) :
    (pm32Stride cpu width).setWidth 16 = v86Direction cpu' width := by
  unfold pm32Stride v86Direction
  rw [h]
  split
  · cases width <;> rfl
  · cases width <;> rfl

theorem stringUnitOf_uses (host : V86Host) (instruction : V86Instruction) {opcode : Byte}
    (hopcode : IsMove opcode) :
    ((stringUnitOf host instruction opcode).uses.source = true ↔ ¬IsStos opcode) ∧
      ((stringUnitOf host instruction opcode).uses.destination = true ↔ ¬IsLods opcode) := by
  unfold stringUnitOf
  by_cases hstos : IsStos opcode
  · have hlods : ¬IsLods opcode := by
      rcases hstos with h | h <;> rw [h] <;> decide
    rw [if_pos hstos]
    exact ⟨iff_of_false Bool.false_ne_true (not_not.mpr hstos), iff_of_true rfl hlods⟩
  rw [if_neg hstos]
  by_cases hmovs : IsMovs opcode
  · have hlods : ¬IsLods opcode := by
      rcases hmovs with h | h <;> rw [h] <;> decide
    rw [if_pos hmovs]
    exact ⟨iff_of_true rfl hstos, iff_of_true rfl hlods⟩
  · have hlods : IsLods opcode := (hopcode.resolve_left hstos).resolve_left hmovs
    rw [if_neg hmovs, if_pos hlods]
    exact ⟨iff_of_true rfl hstos, iff_of_false Bool.false_ne_true (not_not.mpr hlods)⟩

/-- Both interpreters leave the same, unless a copy runs into its own element. -/
theorem SameString.steps {host : V86Host} {machine after : Machine V86Cpu} {fetched : V86Fetched}
    {host' : Pm32Host} {machine' after' : Machine Pm32Cpu} {prefixed : Pm32Prefixed}
    (hsame : SameString host machine fetched host' machine' prefixed)
    (hapart : IsMovs fetched.opcode → Apart (fetched.instruction.widthOf fetched.opcode)
      (machine'.cpu.segmentBases x86SregEs + machine'.cpu.registers x86RegDi)
      (machine'.cpu.segmentBases (prefixed.instruction.segmentOr x86SregDs) +
        machine'.cpu.registers x86RegSi))
    (hstep : v86Step host machine = .ok () after)
    (hstep' : pm32Step host' machine' = .ok () after') :
    SameMoved host after host' after' := by
  obtain ⟨between, hfetch⟩ := hsame.fetch
  obtain ⟨between', hfetch'⟩ := hsame.fetch'
  have hreads := onlyReads_of_fetch hfetch
  have hreads' : OnlyReads machine' between' := Leaves.of_ok hfetch'
  have hstring : IsString fetched.opcode := by
    rcases hsame.isMove with h | h | h
    · exact inl h
    · exact inr (inl h)
    · exact inr (inr (inl h))
  have hdirection := setWidth_pm32Stride hsame.direction
    (fetched.instruction.widthOf fetched.opcode)
  obtain ⟨hsourceUse, hdestinationUse⟩ := stringUnitOf_uses host fetched.instruction hsame.isMove
  have hnarrow (word : Word) : (word.setWidth 32).setWidth 16 = word := by
    simp
  have hcount : (machine'.cpu.registers x86RegCx).toNat =
      (v86Get16 machine.cpu x86RegCx).toNat := by
    rw [hsame.count, toNat_setWidth_of_le (by decide)]
  have htracks : Tracks (stringUnitOf host fetched.instruction fetched.opcode).uses
      (fetched.instruction.widthOf fetched.opcode)
      (pm32Stride machine'.cpu (fetched.instruction.widthOf fetched.opcode))
      (v86Get16 machine.cpu x86RegCx).toNat
      { source := v86Get16 machine.cpu x86RegSi, destination := v86Get16 machine.cpu x86RegDi }
      (machine'.cpu.registers x86RegSi) (machine'.cpu.registers x86RegDi) := by
    rw [← hcount]
    constructor
    · intro huses
      exact ⟨by rw [hsame.source, hnarrow], hsame.sourceNoWrap (hsourceUse.mp huses)⟩
    · intro huses
      exact ⟨by rw [hsame.destination, hnarrow],
        hsame.destinationNoWrap (hdestinationUse.mp huses)⟩
  rw [hsame.extraBase, hsame.sourceBase] at hapart
  have hrun := endsIn_run (host.memory machine) hsame.isMemory hsame.isMove hsame.repeated
    fetched.offset hdirection htracks hapart
  have hrun' := endsIn_pm32String machine'.cpu (host'.memory machine') hsame.isMemory'
    hsame.isMove hsame.repeated' prefixed.offset
  rw [v86Step_of_fetch hfetch, v86Execute_string hstring] at hstep
  have hstep' : pm32StringOpcode host' prefixed.instruction fetched.opcode prefixed.offset
      between' = .ok () after' := by
    unfold pm32Step at hstep'
    rw [getCpu_bind, bind_of_ok hfetch', hsame.opcode, pm32OneByte_move hsame.isMove] at hstep'
    exact hstep'
  obtain ⟨hindices, hmemory⟩ := hrun.holds between hreads.1
    (onlyReads_memory hsame.isMemory.keeps hreads) () after hstep
  obtain ⟨hoffsets, hmemory'⟩ := hrun'.holds between' hreads'.1
    (onlyReads_memory hsame.isMemory'.keeps hreads') () after' hstep'
  have hmoved (word : Word) (offset : Dword) (hoffset : offset = word.setWidth 32) :
      word + v86Direction machine.cpu (fetched.instruction.widthOf fetched.opcode) *
          BitVec.ofNat 16 (v86Get16 machine.cpu x86RegCx).toNat =
        (offset + pm32Stride machine'.cpu (fetched.instruction.widthOf fetched.opcode) *
          BitVec.ofNat 32 (v86Get16 machine.cpu x86RegCx).toNat).setWidth 16 := by
    rw [setWidth_add _ _ (by decide), setWidth_mul _ _ (by decide), hdirection,
      hoffset, hnarrow, setWidth_ofNat_of_le (by decide)]
  refine ⟨?_, ?_, ?_, ?_⟩
  · rw [hmemory, hmemory', hsame.width, hcount, hsame.extraBase, hsame.sourceBase, hsame.memory]
    apply ElementMove.times_congr
    intro hstore memory linear
    rw [if_pos (isStos_of_moveOf hstore), storeAt_accumulator, hsame.accumulator]
  · rw [hindices.source, hoffsets.source, hsame.width, hcount]
    unfold StringUse.advanced
    by_cases hstos : IsStos fetched.opcode
    · rw [if_pos hstos, if_neg fun huses => hsourceUse.mp huses hstos, hsame.source, hnarrow]
    · rw [if_neg hstos, if_pos (hsourceUse.mpr hstos)]
      exact hmoved _ _ hsame.source
  · rw [hindices.destination, hoffsets.destination, hsame.width, hcount]
    unfold StringUse.advanced
    by_cases hlods : IsLods fetched.opcode
    · rw [if_pos hlods, if_neg fun huses => hdestinationUse.mp huses hlods, hsame.destination,
        hnarrow]
    · rw [if_neg hlods, if_pos (hdestinationUse.mpr hlods)]
      exact hmoved _ _ hsame.destination
  · rw [hindices.count, hoffsets.count]
    rfl

/-- A prefixed string instruction is the unprefixed one repeated, on any host.  A `MOVS` element is
copied a byte at a time, the low byte first and each at its own offset of the segment.  On flat
plain memory with no wrap the 32-bit interpreter leaves the same memory, `SI`, `DI` and `CX`,
unless a copy runs into its own element. -/
theorem string_steps_are_elements :
    (∀ (host : V86Host) (machine between : Machine V86Cpu) (fetched : V86Fetched),
      v86Fetch host machine = .ok fetched between → IsString fetched.opcode →
      fetched.instruction.repeated ≠ 0 →
      v86Step host machine =
        (v86RepeatString host fetched.instruction fetched.opcode
            (v86Get16 machine.cpu x86RegCx).toNat >>= fun _ => V86.advance fetched.offset)
          between) ∧
    (∀ (host : V86Host) (cpu : V86Cpu) (memory : Dword → Byte) (sourceBase extraBase : Dword)
        (indices : V86Indices) (width : Width), host.IsMemory →
      EndsIn host.toHost cpu memory (v86MoveElement host sourceBase extraBase indices width)
        fun _ cpu' memory' => cpu' = cpu ∧
          memory' = copiedElement memory sourceBase extraBase indices width.bytes) ∧
    ∀ (host : V86Host) (machine after : Machine V86Cpu) (fetched : V86Fetched)
        (host' : Pm32Host) (machine' after' : Machine Pm32Cpu) (prefixed : Pm32Prefixed),
      SameString host machine fetched host' machine' prefixed →
      (IsMovs fetched.opcode → Apart (fetched.instruction.widthOf fetched.opcode)
        (machine'.cpu.segmentBases x86SregEs + machine'.cpu.registers x86RegDi)
        (machine'.cpu.segmentBases (prefixed.instruction.segmentOr x86SregDs) +
          machine'.cpu.registers x86RegSi)) →
      v86Step host machine = .ok () after → pm32Step host' machine' = .ok () after' →
      SameMoved host after host' after' :=
  ⟨fun _ _ _ _ hfetch hopcode hrepeated => v86Step_eq_repeatString hfetch hopcode hrepeated,
    fun _ _ _ sourceBase extraBase indices _ hmemory =>
      endsIn_moveElement hmemory sourceBase extraBase indices,
    fun _ _ _ _ _ _ _ _ hsame hapart hstep hstep' => hsame.steps hapart hstep hstep'⟩

/-! ## `REP MOVSW` -/

/-- Two words, and then the instruction for the one interpreter and for the other. -/
def movswMemory (linear : Dword) : Byte :=
  [0x11, 0x22, 0x33, 0x44, 0xF3, 0xA5, 0x66, 0xF3, 0xA5].getD linear.toNat 0

def movswHost : V86Host where
  toHost := memoryHost movswMemory fun _ _ _ => 0
  segmentToLinear := none
  selectorDescriptor := none

def movswHost32 : Pm32Host where
  toHost := memoryHost movswMemory fun _ _ _ => 0
  canAccess _ _ _ := true

variable (isAhead : Bool)

/-- `SI` is 0 and `CX` is 1; `DI` is 1 or 2. -/
def movswRegisters : Nat → Dword
  | 1 => 1
  | 7 => if isAhead then 1 else 2
  | _ => 0

def movswMachine : Machine V86Cpu where
  cpu := { registers := movswRegisters isAhead, segments := fun _ => 0, ip := 4, flags := 0 }
  calls := []

def movswMachine32 : Machine Pm32Cpu where
  cpu :=
    { registers := movswRegisters isAhead, eip := 6, flags := 0, segmentBases := fun _ => 0 }
  calls := []

def movswFetched : V86Fetched where
  instruction :=
    { codeLinear := 4, segmentOverride := none, repeated := 1, isOperand32 := false,
      isAddress32 := false, isLocked := false }
  opcode := 0xA5
  offset := 2

def movswPrefixed : Pm32Prefixed where
  instruction := { codeLinear := 6, segmentOverride := none, repeated := 1, isOperand16 := true }
  opcode := 0xA5
  offset := 3

theorem movsw_sameString : SameString movswHost (movswMachine isAhead) movswFetched movswHost32
      (movswMachine32 isAhead) movswPrefixed where
  isMemory := memoryHost_isMemory _ _
  isMemory' := memoryHost_isMemory _ _
  fetch := by cases isAhead <;> exact ⟨_, rfl⟩
  fetch' := by cases isAhead <;> exact ⟨_, rfl⟩
  isMove := inr (inl (inr rfl))
  opcode := rfl
  width := rfl
  repeated := by decide
  repeated' := by decide
  memory := rfl
  sourceBase := rfl
  extraBase := rfl
  source := rfl
  destination := by cases isAhead <;> rfl
  count := rfl
  accumulator := rfl
  direction := rfl
  sourceNoWrap := by
    intro _ i hi
    obtain rfl : i = 0 := Nat.lt_one_iff.mp hi
    cases isAhead <;> decide
  destinationNoWrap := by
    intro _ i hi
    obtain rfl : i = 0 := Nat.lt_one_iff.mp hi
    cases isAhead <;> decide

theorem string_steps_are_elements_movsw :
    (v86Step movswHost (movswMachine false) =
      (v86RepeatString movswHost movswFetched.instruction 0xA5 1 >>= fun _ => V86.advance 2)
        ((v86Fetch movswHost).after (movswMachine false))) ∧
      SameMoved movswHost ((v86Step movswHost).after (movswMachine false)) movswHost32
        ((pm32Step movswHost32).after (movswMachine32 false)) :=
  ⟨string_steps_are_elements.1 movswHost (movswMachine false) _ movswFetched rfl
      (Or.inr (Or.inl (Or.inr rfl))) (by decide),
    string_steps_are_elements.2.2 movswHost (movswMachine false) _ movswFetched movswHost32
      (movswMachine32 false) _ movswPrefixed (movsw_sameString false) (fun _ => Or.inr (by decide))
      rfl rfl⟩

/-- `REP MOVSW` with one word, one past the word it copies. -/
theorem movsw_copies_low_byte_twice :
    SameString movswHost (movswMachine true) movswFetched movswHost32 (movswMachine32 true)
        movswPrefixed ∧
      valueAt (movswHost.memory (movswMachine true)) 0 .word = 0x2211 ∧
      valueAt (movswHost.memory ((v86Step movswHost).after (movswMachine true))) 1 .word =
        0x1111 ∧
      valueAt (movswHost32.memory ((pm32Step movswHost32).after (movswMachine32 true))) 1 .word =
        0x2211 :=
  ⟨movsw_sameString true, by decide, by decide, by decide⟩

end Ntvdmex.Host
