import Ntvdmex.Foundation.MemoryHost
import Ntvdmex.Host.Proofs.Strings.Units

/-!
# String instructions of the 16-bit interpreter on a memory

Where no element wraps, an instruction stores, copies or loads its elements one after another.
-/

namespace Ntvdmex.Host.V86

open Foundation Interp BitVec StringUse Or

section Elements

variable {host : V86Host} {cpu : V86Cpu} {memory : Dword → Byte} {width : Width}

/-- The element of `MOVS` so far, each byte at its own offset of the segment. -/
def copiedElement (memory : Dword → Byte) (sourceBase extraBase : Dword) (indices : V86Indices) :
    Nat → Dword → Byte
  | 0 => memory
  | n + 1 =>
    Function.update (copiedElement memory sourceBase extraBase indices n)
      (extraBase + (indices.destination + BitVec.ofNat 16 n).setWidth 32)
      (copiedElement memory sourceBase extraBase indices n
        (sourceBase + (indices.source + BitVec.ofNat 16 n).setWidth 32))

theorem endsIn_moveElement (hmemory : host.IsMemory) (sourceBase extraBase : Dword)
    (indices : V86Indices) :
    EndsIn host.toHost cpu memory (v86MoveElement host sourceBase extraBase indices width)
      fun _ cpu' memory' => cpu' = cpu ∧
        memory' = copiedElement memory sourceBase extraBase indices width.bytes := by
  apply endsIn_forEach_range (copiedElement memory sourceBase extraBase indices) rfl
  intro i _
  apply endsIn_bind
  apply endsIn_read hmemory.keeps
  apply endsIn_write hmemory
  exact ⟨rfl, rfl⟩

theorem offset_eq {base : Dword} {index : Word} (hfits : index.toNat + width.bytes ≤ 65536)
    {i : Nat} (hi : i < width.bytes) :
    base + (index + BitVec.ofNat 16 i).setWidth 32 =
      base + index.setWidth 32 + BitVec.ofNat 32 i := by
  have hsum : (index + BitVec.ofNat 16 i).setWidth 32 = index.setWidth 32 + BitVec.ofNat 32 i := by
    apply eq_of_toNat_eq
    rw [toNat_setWidth, toNat_add, toNat_add, toNat_setWidth,
      toNat_ofNat, toNat_ofNat]
    lia
  rw [hsum, add_assoc]

theorem copiedElement_eq {sourceBase extraBase : Dword} {indices : V86Indices}
    (hsource : indices.source.toNat + width.bytes ≤ 65536)
    (hdestination : indices.destination.toNat + width.bytes ≤ 65536) {n : Nat}
    (hn : n ≤ width.bytes) :
    copiedElement memory sourceBase extraBase indices n =
      copyBytes memory (extraBase + indices.destination.setWidth 32)
        (sourceBase + indices.source.setWidth 32) n := by
  induction n with
  | zero => rfl
  | succ n ih =>
    unfold copiedElement copyBytes
    rw [ih (Nat.le_of_succ_le hn), offset_eq hsource hn, offset_eq hdestination hn]

theorem endsIn_writeElement (hmemory : host.IsMemory) {base value : Dword} {index : Word}
    (hfits : index.toNat + width.bytes ≤ 65536) :
    EndsIn host.toHost cpu memory (v86WriteElement base index width value)
      fun _ cpu' memory' => cpu' = cpu ∧
        memory' = storeAt memory (base + index.setWidth 32) value width := by
  rw [← storeBytes_eq]
  apply endsIn_forEach_range (storeBytes memory (base + index.setWidth 32) value) rfl
  intro i hi
  apply endsIn_write hmemory
  rw [offset_eq hfits hi]
  exact ⟨rfl, rfl⟩

theorem endsIn_and_keeps {δ α : Type} (f : V86Cpu → δ) {p : V86Action α}
    {Q : α → V86Cpu → (Dword → Byte) → Prop} [hkeeps : Leaves (SameCpu f) p]
    (h : EndsIn host.toHost cpu memory p Q) :
    EndsIn host.toHost cpu memory p fun a cpu' memory' => Q a cpu' memory' ∧ f cpu' = f cpu := by
  constructor
  rintro m rfl rfl a m' hp
  exact ⟨h.of_ok hp, Leaves.of_ok (R := SameCpu f) hp⟩

end Elements

/-! ## Elements in their segments -/

def NoWrap (width : Width) (stride : Dword) (count : Nat) (offset : Dword) : Prop :=
  ∀ i < count, (offset + stride * BitVec.ofNat 32 i).toNat + width.bytes ≤ 65536

theorem NoWrap.first {width : Width} {stride offset : Dword} {count : Nat}
    (h : NoWrap width stride (count + 1) offset) : offset.toNat + width.bytes ≤ 65536 := by
  have hfirst := h 0 (Nat.succ_pos count)
  have hzero : offset + stride * BitVec.ofNat 32 0 = offset := by simp
  rwa [hzero] at hfirst

theorem stride_succ (offset stride : Dword) (i : Nat) :
    offset + stride + stride * BitVec.ofNat 32 i = offset + stride * BitVec.ofNat 32 (i + 1) := by
  rw [ofNat_add, mul_add, add_assoc, add_comm stride]
  simp

section

variable {width : Width} {stride offset : Dword} {count : Nat}
    (h : NoWrap width stride (count + 1) offset)

include h

theorem NoWrap.rest : NoWrap width stride count (offset + stride) := by
  intro i hi
  rw [stride_succ]
  exact h (i + 1) (Nat.succ_lt_succ hi)

theorem setWidth_of_noWrap :
    (offset.setWidth 16).setWidth 32 = offset ∧
      (offset.setWidth 16).toNat + width.bytes ≤ 65536 := by
  have hpos : 0 < width.bytes := by cases width <;> decide
  have hfirst := h.first
  have hword : (offset.setWidth 16).toNat = offset.toNat := by
    rw [toNat_setWidth]
    lia
  refine ⟨?_, by rwa [hword]⟩
  apply eq_of_toNat_eq
  rw [toNat_setWidth, hword]
  lia

end

/-- The offsets a string instruction is at, of the registers it moves along. -/
structure Tracks (uses : StringUse) (width : Width) (stride : Dword) (count : Nat)
    (indices : V86Indices) (source destination : Dword) : Prop where
  source : uses.source = true →
    indices.source = source.setWidth 16 ∧ NoWrap width stride count source
  destination : uses.destination = true →
    indices.destination = destination.setWidth 16 ∧ NoWrap width stride count destination

/-- The indices after elements. -/
def StringUse.advanced (uses : StringUse) (direction : Word) (count : Nat) (indices : V86Indices) :
    V86Indices where
  source :=
    if uses.source then indices.source + direction * BitVec.ofNat 16 count else indices.source
  destination :=
    if uses.destination then indices.destination + direction * BitVec.ofNat 16 count
    else indices.destination

def moveOf (opcode : Byte) : ElementMove :=
  if IsStos opcode then .store else if IsMovs opcode then .copy else .load

/-- `STOS`, `MOVS` and `LODS`. -/
def IsMove (opcode : Byte) : Prop := IsStos opcode ∨ IsMovs opcode ∨ IsLods opcode

section Loop

variable {host : V86Host} {instruction : V86Instruction} {opcode : Byte} {cpu : V86Cpu}
  {memory : Dword → Byte} {parameters : StringParameters} {indices : V86Indices}
  {source destination stride : Dword} {count : Nat}

/-- The destination is not a few bytes ahead of the source. -/
def Apart (width : Width) (linear source : Dword) : Prop :=
  linear = source ∨ width.bytes ≤ (linear - source).toNat

theorem endsIn_element (hmemory : host.IsMemory) (hopcode : IsMove opcode)
    (htracks : Tracks (stringUnitOf host instruction opcode).uses (instruction.widthOf opcode)
      stride (count + 1) indices source destination)
    (hapart : IsMovs opcode → Apart (instruction.widthOf opcode)
      (parameters.extraBase + destination) (parameters.sourceBase + source)) :
    EndsIn host.toHost cpu memory
      ((stringUnitOf host instruction opcode).element parameters indices)
      fun next _ memory' =>
        next = (stringUnitOf host instruction opcode).uses.advanced parameters.direction 1
            indices ∧
          memory' = (moveOf opcode).once (instruction.widthOf opcode) parameters.accumulator
            (parameters.extraBase + destination) (parameters.sourceBase + source) memory := by
  by_cases hstos : IsStos opcode
  · have hunit : stringUnitOf host instruction opcode =
        stosUnit host instruction (instruction.widthOf opcode) := if_pos hstos
    rw [hunit] at htracks ⊢
    obtain ⟨hindex, hnowrap⟩ := htracks.destination rfl
    obtain ⟨hflat, hfits⟩ := setWidth_of_noWrap hnowrap
    unfold moveOf
    rw [if_pos hstos]
    rw [← hindex] at hflat hfits
    refine endsIn_seq (endsIn_writeElement hmemory hfits) ?_
    rintro _ cpu' memory' ⟨-, rfl⟩
    apply endsIn_pure
    rw [hflat]
    refine ⟨?_, rfl⟩
    unfold advanced stosUnit
    simp
  by_cases hmovs : IsMovs opcode
  · have hunit : stringUnitOf host instruction opcode =
        movsUnit host instruction (instruction.widthOf opcode) := by
      unfold stringUnitOf
      rw [if_neg hstos, if_pos hmovs]
    rw [hunit] at htracks ⊢
    obtain ⟨hsource, hsourceNoWrap⟩ := htracks.source rfl
    obtain ⟨hdestination, hdestinationNoWrap⟩ := htracks.destination rfl
    obtain ⟨hsourceFlat, hsourceFits⟩ := setWidth_of_noWrap hsourceNoWrap
    obtain ⟨hdestinationFlat, hdestinationFits⟩ := setWidth_of_noWrap hdestinationNoWrap
    rw [← hsource] at hsourceFlat hsourceFits
    rw [← hdestination] at hdestinationFlat hdestinationFits
    unfold moveOf
    rw [if_neg hstos, if_pos hmovs]
    refine endsIn_seq (endsIn_moveElement hmemory _ _ _) ?_
    rintro _ cpu' memory' ⟨-, rfl⟩
    apply endsIn_pure
    rw [copiedElement_eq hsourceFits hdestinationFits (Nat.le_refl _), hsourceFlat,
      hdestinationFlat, copyBytes_eq_storeBytes (hapart hmovs) (Nat.le_refl _), storeBytes_eq]
    refine ⟨?_, rfl⟩
    unfold advanced movsUnit
    simp
  · have hunit : stringUnitOf host instruction opcode =
        lodsUnit host instruction (instruction.widthOf opcode) := by
      have hlods : IsLods opcode := (hopcode.resolve_left hstos).resolve_left hmovs
      unfold stringUnitOf
      rw [if_neg hstos, if_neg hmovs, if_pos hlods]
    rw [hunit]
    unfold moveOf
    rw [if_neg hstos, if_neg hmovs]
    apply endsIn_anyRead hmemory.keeps
    intro value
    apply endsIn_bind
    apply endsIn_modifyCpu
    apply endsIn_pure
    refine ⟨?_, rfl⟩
    unfold advanced lodsUnit
    simp

theorem stringUnitOf_move_ends (hopcode : IsMove opcode) (cpu : V86Cpu) :
    (stringUnitOf host instruction opcode).ends instruction cpu = false := by
  have hstring : IsString opcode := by
    rcases hopcode with h | h | h
    · exact inl h
    · exact inr (inl h)
    · exact inr (inr (inl h))
  apply Bool.eq_false_of_not_eq_true
  rw [stringUnitOf_ends hstring]
  rintro ⟨hcompare, -⟩
  rcases hopcode with (h | h) | (h | h) | (h | h) <;> rw [h] at hcompare <;>
    exact absurd hcompare (by decide)

theorem StringUse.advanced_succ (uses : StringUse) (direction : Word) (count : Nat)
    (indices : V86Indices) :
    uses.advanced direction count (uses.advanced direction 1 indices) =
      uses.advanced direction (count + 1) indices := by
  have hsum (index : Word) : index + direction * BitVec.ofNat 16 1 +
      direction * BitVec.ofNat 16 count = index + direction * BitVec.ofNat 16 (count + 1) := by
    rw [add_assoc, ← mul_add, ← ofNat_add, Nat.add_comm 1]
  unfold advanced
  cases uses.source <;> cases uses.destination <;> simp only [hsum, if_true, if_false,
    Bool.false_eq_true]

theorem Tracks.rest {uses : StringUse} {width : Width} {direction : Word}
    (htracks : Tracks uses width stride (count + 1) indices source destination)
    (hdirection : stride.setWidth 16 = direction) :
    Tracks uses width stride count (uses.advanced direction 1 indices) (source + stride)
      (destination + stride) := by
  have hnext (index : Word) (offset : Dword) (hindex : index = offset.setWidth 16) :
      index + direction * BitVec.ofNat 16 1 = (offset + stride).setWidth 16 := by
    rw [hindex, ← hdirection, setWidth_add _ _ (by decide)]
    simp
  constructor
  · intro huses
    obtain ⟨hindex, hnowrap⟩ := htracks.source huses
    refine ⟨?_, hnowrap.rest⟩
    unfold advanced
    rw [if_pos huses]
    exact hnext _ _ hindex
  · intro huses
    obtain ⟨hindex, hnowrap⟩ := htracks.destination huses
    refine ⟨?_, hnowrap.rest⟩
    unfold advanced
    rw [if_pos huses]
    exact hnext _ _ hindex

theorem Apart.rest {width : Width} {base base' linear linear' : Dword}
    (hapart : Apart width (base + linear) (base' + linear')) :
    Apart width (base + (linear + stride)) (base' + (linear' + stride)) := by
  unfold Apart at *
  have hdifference : base + (linear + stride) - (base' + (linear' + stride)) =
      base + linear - (base' + linear') := by
    rw [← add_assoc, ← add_assoc, add_sub_add_right_eq_sub]
  rw [hdifference]
  rcases hapart with hsame | hapart
  · left
    rw [← add_assoc, hsame, add_assoc]
  · exact inr hapart

theorem endsIn_loop (hmemory : host.IsMemory) (hopcode : IsMove opcode)
    (hdirection : stride.setWidth 16 = parameters.direction)
    (htracks : Tracks (stringUnitOf host instruction opcode).uses (instruction.widthOf opcode)
      stride count indices source destination)
    (hapart : IsMovs opcode → Apart (instruction.widthOf opcode)
      (parameters.extraBase + destination) (parameters.sourceBase + source)) :
    EndsIn host.toHost cpu memory
      ((stringUnitOf host instruction opcode).loop instruction parameters count indices)
      fun done _ memory' =>
        done = { indices := (stringUnitOf host instruction opcode).uses.advanced
                    parameters.direction count indices
                 count := 0 } ∧
          memory' = (moveOf opcode).times (instruction.widthOf opcode) parameters.accumulator
            stride count (parameters.extraBase + destination) (parameters.sourceBase + source)
            memory := by
  induction count generalizing cpu memory indices source destination with
  | zero =>
    apply endsIn_pure
    refine ⟨?_, rfl⟩
    unfold advanced
    simp
  | succ count ih =>
    rw [StringUnit.loop_succ]
    refine endsIn_seq (endsIn_element hmemory hopcode htracks hapart) ?_
    rintro next cpu' memory' ⟨rfl, rfl⟩
    apply endsIn_getCpu
    rw [stringUnitOf_move_ends hopcode, if_neg Bool.false_ne_true]
    refine (ih (htracks.rest hdirection) fun hmovs => (hapart hmovs).rest).mono ?_
    rintro done cpu'' memory'' ⟨rfl, rfl⟩
    rw [advanced_succ, ← add_assoc, ← add_assoc]
    exact ⟨rfl, rfl⟩

end Loop

section Run

variable {host : V86Host} {instruction : V86Instruction} {opcode : Byte} {cpu : V86Cpu}
  {memory : Dword → Byte} {source destination stride : Dword}

theorem stringUnitOf_parameters (cpu : V86Cpu) :
    (stringUnitOf host instruction opcode).parameters cpu =
      stringParameters host instruction (instruction.widthOf opcode)
        (if IsStos opcode then cpu.registers x86RegAx else 0) cpu := by
  unfold stringUnitOf
  split_ifs <;> rfl

/-- The words a string instruction leaves in `SI`, `DI` and `CX`. -/
structure HasIndices (indices : V86Indices) (count : Word) (cpu : V86Cpu) : Prop where
  source : v86Get16 cpu x86RegSi = indices.source
  destination : v86Get16 cpu x86RegDi = indices.destination
  count : v86Get16 cpu x86RegCx = count

/-- A prefixed instruction on a memory. -/
theorem endsIn_run (memory : Dword → Byte) (hmemory : host.IsMemory) (hopcode : IsMove opcode)
    (hrepeated : instruction.repeated ≠ 0) (offset : Nat)
    (hdirection : stride.setWidth 16 = v86Direction cpu (instruction.widthOf opcode))
    (htracks : Tracks (stringUnitOf host instruction opcode).uses (instruction.widthOf opcode)
      stride (v86Get16 cpu x86RegCx).toNat
      { source := v86Get16 cpu x86RegSi, destination := v86Get16 cpu x86RegDi }
      source destination)
    (hapart : IsMovs opcode → Apart (instruction.widthOf opcode)
      (v86SegmentBase host (cpu.segments x86SregEs) + destination)
      (v86SegmentBase host (cpu.segments (instruction.segmentOr x86SregDs)) + source)) :
    EndsIn host.toHost cpu memory (v86OneByte host instruction opcode offset)
      fun _ cpu' memory' =>
        HasIndices
            ((stringUnitOf host instruction opcode).uses.advanced
              (v86Direction cpu (instruction.widthOf opcode)) (v86Get16 cpu x86RegCx).toNat
              { source := v86Get16 cpu x86RegSi, destination := v86Get16 cpu x86RegDi })
            0 cpu' ∧
          memory' = (moveOf opcode).times (instruction.widthOf opcode)
            (if IsStos opcode then cpu.registers x86RegAx else 0) stride
            (v86Get16 cpu x86RegCx).toNat
            (v86SegmentBase host (cpu.segments x86SregEs) + destination)
            (v86SegmentBase host (cpu.segments (instruction.segmentOr x86SregDs)) + source)
            memory := by
  have hcount : v86StringCount instruction cpu = (v86Get16 cpu x86RegCx).toNat := if_pos hrepeated
  have hstring : IsString opcode := by
    rcases hopcode with h | h | h
    · exact inl h
    · exact inr (inl h)
    · exact inr (inr (inl h))
  rw [v86OneByte_eq_run hstring]
  apply endsIn_getCpu
  rw [hcount, stringUnitOf_parameters]
  have hkeeps := StringUnit.keepsIndices_loop
    (stringUnitOf_lawful host instruction opcode)
    (stringParameters host instruction (instruction.widthOf opcode)
      (if IsStos opcode then cpu.registers x86RegAx else 0) cpu)
    (v86Get16 cpu x86RegCx).toNat
    { source := v86Get16 cpu x86RegSi, destination := v86Get16 cpu x86RegDi }
  refine endsIn_seq (endsIn_and_keeps
    (fun cpu => (v86Get16 cpu x86RegSi, v86Get16 cpu x86RegDi))
    (endsIn_loop hmemory hopcode hdirection htracks hapart)) ?_
  rintro done cpu' memory' ⟨⟨rfl, rfl⟩, hindices⟩
  obtain ⟨hsi, hdi⟩ := Prod.mk.inj hindices
  apply endsIn_bind
  apply endsIn_modifyCpu
  apply endsIn_bind
  refine endsIn_onlyIf (fun _ => ?_) fun hnone => absurd hrepeated hnone
  apply endsIn_modifyCpu
  apply endsIn_modifyCpu
  refine ⟨?_, rfl⟩
  have hat := place_at (stringUnitOf host instruction opcode).uses
    ((stringUnitOf host instruction opcode).uses.advanced
      (v86Direction cpu (instruction.widthOf opcode)) (v86Get16 cpu x86RegCx).toNat
      { source := v86Get16 cpu x86RegSi, destination := v86Get16 cpu x86RegDi })
    cpu'
    (fun huses => by
      unfold advanced
      rw [huses, if_neg Bool.false_ne_true]
      exact hsi)
    (fun huses => by
      unfold advanced
      rw [huses, if_neg Bool.false_ne_true]
      exact hdi)
    0
  exact ⟨hat.source, hat.destination, place_count _ 0 cpu'⟩

end Run

end Ntvdmex.Host.V86
