import Ntvdmex.Host.Proofs.Segments.Blocks

/-!
# The other blocks with a memory operand

Blocks whose operand is wider than their width, whose accesses are the stack's in part, or that
look at the operand first.
-/

set_option synthInstance.maxSize 400

namespace Ntvdmex.Host.V86

open Foundation Interp BitVec Or Set V86Modrm

variable {host : V86Host} {instruction : V86Instruction} {opcode opcode2 : Byte} {offset : Nat}
  {m : Machine V86Cpu} {modrm : V86Modrm} {reach : Nat} {ownsReads ownsWrites : Bool}

/-! ## Operands in parts -/

theorem V86Modrm.IsLocated.fits {cpu : V86Cpu} (hlocated : modrm.IsLocated cpu)
    (hmemory : modrm.isMemory = true) : (modrm.operand 0 ownsReads ownsWrites).Fits := by
  rcases hlocated hmemory with hplace | ⟨hend, -⟩
  · exact inr (hplace.1.trans (by decide))
  · exact inl hend

theorem operatesAt_nothing {block : V86Action Unit} (hlocated : modrm.IsLocated m.cpu)
    (hblock : Confined ∅ block) :
    OperatesAt block (return modrm.addressing 0 ownsReads ownsWrites) m := by
  refine operatesAt_addressing fun hmemory => ?_
  exact operatesAt_of_confined (hlocated.fits hmemory) (hblock.mono (empty_subset _))

variable {width : Width}

theorem reached_read (position : Nat) (h : position + width.bytes ≤ reach) :
    Confined (modrm.operand reach ownsReads ownsWrites).reached
      (v86ReadMemory host (modrm.linear + BitVec.ofNat 32 position) width) := by
  refine guarded_readMemory_of_mem host.toHost fun next hnext => ?_
  rw [BitVec.add_assoc, ← ofNat_add]
  exact mem_reached (by omega)

theorem last_read (position : Nat) (h : position + width.bytes = reach) :
    Touches (modrm.operand reach true ownsWrites).last
      (v86ReadMemory host (modrm.linear + BitVec.ofNat 32 position) width) := by
  have hpositive : 1 ≤ width.bytes := by cases width <;> decide
  refine touches_readMemory host.toHost ?_
  have hlast : position + (width.bytes - 1) = reach - 1 := by lia
  rw [BitVec.add_assoc, ← ofNat_add, hlast]
  exact mem_last rfl

theorem reached_first (h : width.bytes ≤ reach) :
    Confined (modrm.operand reach ownsReads ownsWrites).reached
      (v86ReadMemory host modrm.linear width) := by
  refine guarded_readMemory_of_mem host.toHost fun position hposition => mem_reached ?_
  exact Nat.lt_of_lt_of_le hposition h

theorem reached_readRm (h : width.bytes ≤ reach) :
    Confined (modrm.operand reach ownsReads ownsWrites).reached (v86ReadRm host modrm width) := by
  have hread : Confined (modrm.operand reach ownsReads ownsWrites).reached
      (v86ReadMemory host modrm.linear width) := reached_first h
  unfold v86ReadRm
  infer_instance

theorem write_mem_reached (address : Dword) :
    (address, true) ∈ (modrm.operand reach ownsReads false).reached :=
  fun howns => absurd howns Bool.false_ne_true

theorem read_mem_reached (address : Dword) :
    (address, false) ∈ (modrm.operand reach false ownsWrites).reached :=
  fun howns => absurd howns Bool.false_ne_true

theorem operatesAt_whole (host : V86Host) (width : Width) {operand : V86Addressing}
    {work : V86Action Unit}
    (hplace : IsInSegment m.cpu operand.linear operand.effectiveAddress)
    (hreach : operand.reach = width.bytes) (howns : ∀ isWrite, operand.owns isWrite = true)
    (hwork : ∀ bytes : Set (Dword × Bool),
      Confined bytes (v86ReadMemory host operand.linear width) →
      (∀ value, Confined bytes (v86WriteMemory operand.linear width value)) → Confined bytes work)
    (htouches : ∀ bytes : Set (Dword × Bool),
      Touches bytes (v86ReadMemory host operand.linear width) →
      (∀ value, Touches bytes (v86WriteMemory operand.linear width value)) → Touches bytes work) :
    OperatesAt work (return some operand) m := by
  refine operatesAt_of_reached ?_ hplace (hwork _ ?_ fun value => ?_) fun _ =>
    htouches _ ?_ fun _ => ?_
  · rw [hreach]
    exact (width_bytes_le width).trans (by decide)
  · refine guarded_readMemory_of_mem host.toHost fun position hposition => ?_
    exact operand.mem_reached false (hreach ▸ hposition)
  · refine guarded_writeMemory_of_mem fun position hposition => ?_
    exact operand.mem_reached true (hreach ▸ hposition)
  · exact touches_readMemory host.toHost (hreach ▸ operand.mem_last (howns false))
  · exact touches_writeMemory (hreach ▸ operand.mem_last (howns true))

theorem operatesAt_onlyDeclines {addressing : V86Action (Option V86Addressing)}
    (hfits : ∀ operand m', addressing m = .ok (some operand) m' → operand.Fits) :
    OperatesAt decline addressing m where
  keeps := fun _ _ _ _ => ⟨[], rfl, fun _ hcall => absurd hcall List.not_mem_nil⟩
  overruns := fun operand m' hoperand hoverruns => absurd (hfits operand m' hoperand) hoverruns

/-! ## Moves -/

section Moves

variable (hmode : host.segmentToLinear = none)
include hmode

theorem v86Lea_operates :
    OperatesAt (v86Lea host instruction offset)
      (v86DecodeModrm host instruction offset >>= fun modrm =>
        return modrm.addressing 0 true true) m := by
  refine operatesAt_decode hmode fun modrm between hlocated => operatesAt_nothing hlocated ?_
  infer_instance

/-- `MOV r/m, imm` declines a reg field that is not 0. -/
theorem v86MovImmediateRm_operates :
    OperatesAt (v86MovImmediateRm host instruction opcode offset)
      (v86DecodeModrm host instruction offset >>= fun modrm : V86Modrm =>
        return modrm.addressing
          (if modrm.register = 0 then (instruction.widthOf opcode).bytes else 0) true true) m := by
  refine operatesAt_decode hmode fun modrm between hlocated => ?_
  by_cases hregister : modrm.register = 0
  · rw [declineIf_of_false (not_not.mpr hregister), if_pos hregister]
    refine operatesAt_check hlocated ((width_bytes_le _).trans (by decide))
      (fun hplace => hplace.not_beyondGuest)
      (fun hmemory hlimit => ⟨hmemory, hlimit ▸ BitVec.le_refl _⟩)
      (fun _ => inferInstance) fun hmemory _ => ?_
    have hwrite : ∀ value,
        Touches (modrm.operand (instruction.widthOf opcode).bytes true true).last
          (v86WriteRm modrm (instruction.widthOf opcode) value) :=
      v86WriteRm_touches hmemory (mem_last rfl)
    infer_instance
  · rw [declineIf_of_true hregister, if_neg hregister]
    exact operatesAt_nothing hlocated guarded_decline

theorem v86MovFromSreg_operates :
    OperatesAt (v86MovSreg host instruction x86OpMovFromSreg offset)
      (v86DecodeModrm host instruction offset >>= fun modrm : V86Modrm =>
        return modrm.addressing (if modrm.register ≤ x86SregGs then 2 else 0) true true) m := by
  refine operatesAt_decode hmode fun modrm between hlocated => ?_
  by_cases hregister : modrm.register ≤ x86SregGs
  · rw [if_pos hregister, declineIf_of_false (Nat.not_lt.mpr hregister), if_pos rfl]
    refine operatesAt_check hlocated (by decide) (fun hplace => hplace.not_beyondGuest)
      (fun hmemory hlimit => ⟨hmemory, hlimit ▸ BitVec.le_refl _⟩) (fun _ => ?_)
      fun hmemory _ => ?_
    · have hwrite : ∀ value, Confined (modrm.operand 2 true true).reached
          (v86WriteMemory modrm.linear .word value) := fun value =>
        guarded_writeMemory_of_mem fun _ => mem_reached
      unfold v86MovFromSreg
      infer_instance
    · have hwrite : ∀ value, Touches (modrm.operand 2 true true).last
          (v86WriteMemory modrm.linear .word value) := fun value =>
        touches_writeMemory (mem_last rfl)
      unfold v86MovFromSreg
      simp only [if_pos hmemory]
      infer_instance
  · rw [if_neg hregister, declineIf_of_true (Nat.not_le.mp hregister)]
    exact operatesAt_nothing hlocated inferInstance

theorem v86MovToSreg_operates :
    OperatesAt (v86MovSreg host instruction x86OpMovToSreg offset)
      (v86DecodeModrm host instruction offset >>= fun modrm : V86Modrm =>
        return modrm.addressing
          (if modrm.register ≤ x86SregGs ∧ modrm.register ≠ x86SregCs then 2 else 0)
          true true) m := by
  refine operatesAt_decode hmode fun modrm between hlocated => ?_
  by_cases hregister : modrm.register ≤ x86SregGs
  · rw [declineIf_of_false (Nat.not_lt.mpr hregister), if_neg (by decide)]
    unfold v86MovToSreg
    by_cases hcode : modrm.register = x86SregCs
    · rw [declineIf_of_true hcode, if_neg fun h => h.2 hcode]
      exact operatesAt_nothing hlocated inferInstance
    · rw [declineIf_of_false hcode, if_pos ⟨hregister, hcode⟩]
      refine operatesAt_check hlocated (by decide) (fun hplace => hplace.not_beyondGuest)
        (fun hmemory hlimit => ⟨hmemory, hlimit ▸ BitVec.le_refl _⟩) (fun _ => ?_)
        fun hmemory _ => ?_
      · have hread : Confined (modrm.operand 2 true true).reached
            (v86ReadRm host modrm .word) := reached_readRm (by decide)
        infer_instance
      · have hread : Touches (modrm.operand 2 true true).last (v86ReadRm host modrm .word) :=
          v86ReadRm_touches hmemory (mem_last rfl)
        infer_instance
  · have hneither : ¬(modrm.register ≤ x86SregGs ∧ modrm.register ≠ x86SregCs) :=
      fun h => hregister h.1
    rw [if_neg hneither, declineIf_of_true (Nat.not_le.mp hregister)]
    exact operatesAt_nothing hlocated inferInstance

theorem v86MovMoffs_operates :
    OperatesAt (v86MovMoffs host instruction opcode offset)
      (v86MoffsAddressing host instruction opcode offset) m := by
  refine operatesAt_bind fun address between _ => operatesAt_bind fun cpu between' hcpu => ?_
  cases hcpu
  have hplace : IsInSegment between.cpu
      (v86SegmentBase host (between.cpu.segments (instruction.segmentOr x86SregDs)) +
        address.setWidth 32) (address.setWidth 32) := by
    refine ⟨toNat_word_le address, instruction.segmentOr x86SregDs, ?_⟩
    rw [v86SegmentBase_of_none hmode]
  have hlimit := hplace.lt_guestLimit
  rw [declineIf_of_false (by rw [le_def]; omega)]
  refine operatesAt_whole host (instruction.widthOf opcode) hplace rfl
    (fun isWrite => by cases isWrite <;> rfl) (fun bytes hread hwrite => ?_)
    fun bytes hread hwrite => ?_
  · infer_instance
  · infer_instance

/-- What `LES` and its like do once the operand is decoded. -/
def v86FarPointerWork (host : V86Host) (width : Width) (segment : Nat) (offset : Nat)
    (modrm : V86Modrm) : V86Action Unit := do
  let value ← v86ReadMemory host modrm.linear width
  setRegister modrm.register width value
  let selector ← v86ReadMemory host (modrm.linear + BitVec.ofNat 32 width.bytes) .word
  setSegment segment (selector.setWidth 16)
  advance (offset + modrm.length)

omit hmode in
theorem operatesAt_farPointer {c : Prop} [Decidable c] (width : Width) (segment : Nat)
    (hlocated : modrm.IsLocated m.cpu)
    (hinside : IsInSegment m.cpu modrm.linear modrm.effectiveAddress → modrm.isMemory = true → ¬c)
    (hpast : modrm.linear = v86GuestLimit → c) :
    OperatesAt (declineIf c >>= fun _ => v86FarPointerWork host width segment offset modrm)
      (return modrm.addressing (width.bytes + 2) true true) m := by
  have hwidth := width_bytes_le width
  refine operatesAt_addressing fun hmemory => ?_
  rcases hlocated hmemory with hplace | ⟨hend, hlimit⟩
  · rw [declineIf_of_false (hinside hplace hmemory)]
    unfold v86FarPointerWork
    refine operatesAt_of_reached (by change width.bytes + 2 ≤ 6; omega) hplace ?_ fun _ => ?_
    · have hfirst : Confined (modrm.operand (width.bytes + 2) true true).reached
          (v86ReadMemory host modrm.linear width) := reached_first (Nat.le_add_right _ 2)
      have hsecond : Confined (modrm.operand (width.bytes + 2) true true).reached
          (v86ReadMemory host (modrm.linear + BitVec.ofNat 32 width.bytes) .word) :=
        reached_read width.bytes (le_refl (width.bytes + 2))
      infer_instance
    · have hlast : Touches (modrm.operand (width.bytes + 2) true true).last
          (v86ReadMemory host (modrm.linear + BitVec.ofNat 32 width.bytes) .word) :=
        last_read width.bytes rfl
      infer_instance
  · rw [declineIf_of_true (hpast hlimit)]
    exact operatesAt_of_confined (inl hend) guarded_decline

/-- `LES` and `LDS`. -/
theorem v86LesLds_operates :
    OperatesAt (v86LesLdsUnlessBop host instruction opcode offset)
      (v86FarPointerAddressing host instruction offset) m := by
  refine operatesAt_bind fun second m1 _ => operatesAt_bind fun _ m2 _ => ?_
  refine operatesAt_bind fun modrmByte m3 _ => operatesAt_bind fun _ m4 _ => ?_
  unfold v86LesLds
  rw [declineIf_of_false (by rw [hmode]; exact Bool.false_ne_true)]
  refine operatesAt_decode hmode fun modrm between hlocated => ?_
  have hwidth := width_bytes_le instruction.operandSize
  refine operatesAt_farPointer instruction.operandSize _ hlocated ?_ ?_
  · rintro hplace hmemory (hregister | hlimit)
    · exact Bool.false_ne_true (hregister.symm.trans hmemory)
    · have hend := hplace.lt_guestLimit
      rw [lt_def, toNat_add, toNat_ofNat] at hlimit
      lia
  · intro hlimit
    refine inr ?_
    rw [hlimit]
    cases instruction.operandSize <;> decide

/-- `LSS`, `LFS` and `LGS`. -/
theorem v86LoadFarPointer_operates :
    OperatesAt (v86LoadFarPointer host instruction opcode2 offset)
      (v86DecodeModrm host instruction offset >>= fun modrm : V86Modrm =>
        return modrm.addressing (instruction.operandSize.bytes + 2) true true) m := by
  refine operatesAt_decode hmode fun modrm between hlocated => ?_
  refine operatesAt_farPointer instruction.operandSize _ hlocated ?_ ?_
  · rintro hplace hmemory (hregister | hlimit)
    · exact Bool.false_ne_true (hregister.symm.trans hmemory)
    · exact hplace.not_beyondGuest ⟨hmemory, hlimit⟩
  · intro hlimit
    exact inr (hlimit ▸ BitVec.le_refl _)

end Moves

/-! ## The stack -/

section Stack

deriving instance Confined Set.univ for v86Pop

theorem v86IncDecRm_confined {bytes : Set (Dword × Bool)} {width : Width}
    (hread : Confined bytes (v86ReadRm host modrm width))
    (hwrite : ∀ value, Confined bytes (v86WriteRm modrm width value)) :
    Confined bytes (v86IncDecRm host offset modrm width) := by
  unfold v86IncDecRm
  infer_instance

theorem v86IncDecRm_touches {bytes : Set (Dword × Bool)} {width : Width}
    (hread : Touches bytes (v86ReadRm host modrm width)) :
    Touches bytes (v86IncDecRm host offset modrm width) := by
  unfold v86IncDecRm
  infer_instance

variable (hmode : host.segmentToLinear = none)
include hmode

/-- `POP r/m` reads the stack and writes its operand. -/
theorem v86PopRm_operates :
    OperatesAt (v86PopRm host instruction offset)
      (v86DecodeModrm host instruction offset >>= fun modrm : V86Modrm =>
        return modrm.addressing (if modrm.register = 0 then instruction.operandSize.bytes else 0)
          false true) m := by
  unfold v86PopRm
  rw [declineIf_of_false (by rw [hmode]; exact Bool.false_ne_true)]
  refine operatesAt_decode hmode fun modrm between hlocated => ?_
  have hwidth := width_bytes_le instruction.operandSize
  by_cases hregister : modrm.register = 0
  · rw [if_pos hregister]
    refine operatesAt_check hlocated (hwidth.trans (by decide)) ?_ ?_ (fun _ => ?_)
      fun hmemory _ => ?_
    · rintro hplace (hne | ⟨-, hlimit⟩)
      · exact hne hregister
      · have hend := hplace.lt_guestLimit
        rw [lt_def, toNat_add, toNat_ofNat] at hlimit
        lia
    · intro hmemory hlimit
      refine inr ⟨hmemory, ?_⟩
      rw [hlimit]
      cases instruction.operandSize <;> decide
    · have hpop : Confined (modrm.operand instruction.operandSize.bytes false true).reached
          (v86Pop host instruction.operandSize) := by
        have hread : ∀ linear,
            Confined (modrm.operand instruction.operandSize.bytes false true).reached
              (v86ReadMemory host linear instruction.operandSize) := fun linear =>
          guarded_readMemory_of_mem host.toHost fun _ _ => read_mem_reached _
        unfold v86Pop
        infer_instance
      infer_instance
    · have hwrite : ∀ value,
          Touches (modrm.operand instruction.operandSize.bytes false true).last
            (v86WriteRm modrm instruction.operandSize value) :=
        v86WriteRm_touches hmemory (mem_last rfl)
      infer_instance
  · rw [if_neg hregister, declineIf_of_true (inl hregister)]
    exact operatesAt_nothing hlocated guarded_decline

/-- `INC` and `DEC` of a byte; group 4 has no more. -/
theorem v86Group4_operates :
    OperatesAt (v86Group45 host instruction x86OpGroup4 offset)
      (v86DecodeModrm host instruction offset >>= fun modrm : V86Modrm =>
        return modrm.addressing (if modrm.register ≤ 1 then 1 else 0) true true) m := by
  unfold v86Group45
  rw [if_pos rfl]
  refine operatesAt_decode hmode fun modrm between hlocated => ?_
  by_cases hregister : modrm.register ≤ 1
  · rw [if_pos hregister, if_pos (by omega)]
    refine operatesAt_check hlocated (by decide) (fun hplace => hplace.not_beyondGuest)
      (fun hmemory hlimit => ⟨hmemory, hlimit ▸ BitVec.le_refl _⟩) (fun _ => ?_) fun hmemory _ => ?_
    · refine v86IncDecRm_confined (reached_readRm (by decide)) fun value => ?_
      have hcovers : Covers (modrm.operand 1 true true).reached
          (accessBytes modrm.linear Width.byte.bytes true) := covers_reached true
      infer_instance
    · exact v86IncDecRm_touches (v86ReadRm_touches hmemory (mem_last rfl))
  · rw [if_neg hregister, if_neg (by omega), if_pos (by decide)]
    exact operatesAt_nothing hlocated inferInstance

section

variable {modrm : V86Modrm} (hmemory : modrm.isMemory = true)
    (hplace : IsInSegment m.cpu modrm.linear modrm.effectiveAddress)

include hmemory hplace

/-- Group 5 past `INC` and `DEC`, at operand size 32: the pushes are the stack's. -/
theorem v86Group5Wide_operates :
    OperatesAt (v86Group5Wide host offset modrm)
      (return some (modrm.operand (if modrm.register = 3 ∨ modrm.register = 5 then 6 else 4)
        true false)) m := by
  have hnone : host.segmentToLinear.isNone = true := by rw [hmode]; rfl
  have hpush : ∀ reach value, Confined (modrm.operand reach true false).reached
      (v86Push host .dword value) := fun reach => v86Push_guarded write_mem_reached .dword
  have hframe : ∀ reach nextIp, Confined (modrm.operand reach true false).reached
      (v86PushFarFrame32 host nextIp) := fun reach => v86PushFarFrame32_guarded write_mem_reached
  have hpush' : ∀ value, Confined univ (v86Push host .dword value) :=
    v86Push_guarded (fun _ => mem_univ _) .dword
  have hframe' : ∀ nextIp, Confined univ (v86PushFarFrame32 host nextIp) :=
    v86PushFarFrame32_guarded fun _ => mem_univ _
  unfold v86Group5Wide
  by_cases hfar : modrm.register = 3 ∨ modrm.register = 5
  · have hnear : ¬(modrm.register = x86Group5Call ∨ modrm.register = x86Group5Jmp) := by
      unfold x86Group5Call x86Group5Jmp
      lia
    have hnotPush : ¬modrm.register = x86Group5Push := by
      unfold x86Group5Push
      lia
    rw [if_pos hfar]
    simp only [if_neg hnear, if_neg hnotPush, if_pos (And.intro hfar (And.intro hmemory hnone))]
    refine operatesAt_of_reached (le_refl 6) hplace ?_ fun _ => ?_
    · have hread : Confined (modrm.operand 6 true false).reached (v86ReadRm host modrm .dword) :=
        reached_readRm (by decide)
      have hsegment : Confined (modrm.operand 6 true false).reached
          (v86ReadMemory host (modrm.linear + 4) .word) := reached_read 4 (by decide)
      infer_instance
    · have hlast : Touches (modrm.operand 6 true false).last
          (v86ReadMemory host (modrm.linear + 4) .word) := last_read 4 (by decide)
      infer_instance
  · rw [if_neg hfar]
    simp only [if_neg fun h : _ ∧ _ => hfar h.1]
    refine operatesAt_of_reached (by change 4 ≤ 6; decide) hplace ?_ fun _ => ?_
    · have hread : Confined (modrm.operand 4 true false).reached (v86ReadRm host modrm .dword) :=
        reached_readRm (by decide)
      infer_instance
    · have hlast : Touches (modrm.operand 4 true false).last (v86ReadRm host modrm .dword) :=
        v86ReadRm_touches hmemory (mem_last rfl)
      infer_instance

/-- Group 5 past `INC` and `DEC`, at operand size 16. -/
theorem v86Group5Narrow_operates :
    OperatesAt (v86Group5Narrow host offset modrm)
      (return some (modrm.operand (if modrm.register = 3 ∨ modrm.register = 5 then 4 else 2)
        true false)) m := by
  have hnone : host.segmentToLinear.isNone = true := by rw [hmode]; rfl
  have hpush : ∀ reach value, Confined (modrm.operand reach true false).reached
      (v86PushWordWhole host value) := fun reach => v86PushWordWhole_guarded write_mem_reached
  have hframe : ∀ reach nextIp, Confined (modrm.operand reach true false).reached
      (v86PushFarFrame host nextIp) := fun reach => v86PushFarFrame_guarded write_mem_reached
  have hpush' : ∀ value, Confined univ (v86PushWordWhole host value) :=
    v86PushWordWhole_guarded fun _ => mem_univ _
  have hframe' : ∀ nextIp, Confined univ (v86PushFarFrame host nextIp) :=
    v86PushFarFrame_guarded fun _ => mem_univ _
  unfold v86Group5Narrow
  by_cases hfar : modrm.register = 3 ∨ modrm.register = 5
  · have hnotCall : ¬modrm.register = x86Group5Call := by
      unfold x86Group5Call
      lia
    have hnotJmp : ¬modrm.register = x86Group5Jmp := by
      unfold x86Group5Jmp
      lia
    have hnotPush : ¬modrm.register = x86Group5Push := by
      unfold x86Group5Push
      lia
    rw [if_pos hfar]
    simp only [if_neg hnotCall, if_neg hnotJmp, if_neg hnotPush,
      if_pos (And.intro hfar (And.intro hmemory hnone))]
    refine operatesAt_of_reached (by change 4 ≤ 6; decide) hplace ?_ fun _ => ?_
    · have hread : Confined (modrm.operand 4 true false).reached (v86ReadRm host modrm .word) :=
        reached_readRm (by decide)
      have hsegment : Confined (modrm.operand 4 true false).reached
          (v86ReadMemory host (modrm.linear + 2) .word) := reached_read 2 (by decide)
      infer_instance
    · have hlast : Touches (modrm.operand 4 true false).last
          (v86ReadMemory host (modrm.linear + 2) .word) := last_read 2 (by decide)
      infer_instance
  · rw [if_neg hfar]
    simp only [if_neg fun h : _ ∧ _ => hfar h.1]
    refine operatesAt_of_reached (by change 2 ≤ 6; decide) hplace ?_ fun _ => ?_
    · have hread : Confined (modrm.operand 2 true false).reached (v86ReadRm host modrm .word) :=
        reached_readRm (by decide)
      infer_instance
    · have hlast : Touches (modrm.operand 2 true false).last (v86ReadRm host modrm .word) :=
        v86ReadRm_touches hmemory (mem_last rfl)
      infer_instance

end

theorem v86Group5_operates :
    OperatesAt (v86Group45 host instruction x86OpGroup5 offset)
      (v86DecodeModrm host instruction offset >>= fun modrm : V86Modrm =>
        return modrm.addressing
          (if modrm.register = 3 ∨ modrm.register = 5 then instruction.operandSize.bytes + 2
            else instruction.operandSize.bytes) true (decide (modrm.register ≤ 1))) m := by
  unfold v86Group45
  rw [if_neg (by decide)]
  refine operatesAt_decode hmode fun modrm between hlocated =>
    operatesAt_addressing fun hmemory => ?_
  rcases hlocated hmemory with hplace | ⟨hend, hlimit⟩
  · have hwidth := width_bytes_le instruction.operandSize
    unfold declineBeyondGuest
    rw [declineIf_of_false hplace.not_beyondGuest]
    by_cases hregister : modrm.register ≤ 1
    · rw [if_pos (show modrm.register = 0 ∨ modrm.register = 1 by lia),
        if_neg (show ¬(modrm.register = 3 ∨ modrm.register = 5) by lia), decide_eq_true hregister]
      refine operatesAt_of_reached (hwidth.trans (by decide)) hplace ?_ fun _ => ?_
      · have hcovers : Covers (modrm.operand instruction.operandSize.bytes true true).reached
            (accessBytes modrm.linear instruction.operandSize.bytes true) := covers_reached true
        exact v86IncDecRm_confined (reached_readRm (le_refl _)) fun value => inferInstance
      · exact v86IncDecRm_touches (v86ReadRm_touches hmemory (mem_last rfl))
    · rw [if_neg (show ¬(modrm.register = 0 ∨ modrm.register = 1) by lia),
        if_neg (not_not.mpr rfl), decide_eq_false hregister]
      unfold V86Instruction.operandSize
      by_cases hwide : instruction.isOperand32 = true
      · rw [if_pos hwide, if_pos hwide]
        exact v86Group5Wide_operates hmode hmemory hplace
      · rw [if_neg hwide, if_neg hwide]
        exact v86Group5Narrow_operates hmode hmemory hplace
  · unfold declineBeyondGuest
    rw [declineIf_of_true ⟨hmemory, hlimit ▸ BitVec.le_refl _⟩]
    exact operatesAt_of_confined (inl hend) guarded_decline

end Stack

section Checked

variable (hmode : host.segmentToLinear = none)
include hmode

omit hmode in
theorem addressing_of_ok {reach : V86Action Nat} {m' : Machine V86Cpu} {operand : V86Addressing}
    (h : (reach >>= fun reach => return modrm.addressing reach true true) m =
      .ok (some operand) m') :
    modrm.isMemory = true ∧ operand.effectiveAddress = modrm.effectiveAddress := by
  obtain ⟨count, between, -, hreturn⟩ := bind_ok h
  have hoperand : modrm.addressing count true true = some operand := by
    injection hreturn
  unfold addressing at hoperand
  by_cases hmemory : modrm.isMemory = true
  · rw [if_pos hmemory] at hoperand
    cases hoperand
    exact ⟨hmemory, rfl⟩
  · rw [if_neg hmemory] at hoperand
    cases hoperand

omit hmode in
theorem v86DoubleShift_operates (hmemory : modrm.isMemory = true)
    (hplace : IsInSegment m.cpu modrm.linear modrm.effectiveAddress) (count : V86Operand) :
    OperatesAt
      (do
        declineIf (instruction.operandSize.bits < count.value)
        onlyIf (count.value ≠ 0) (v86DoubleShiftBy host instruction opcode2 modrm count.value)
        advance (offset + modrm.length + count.length))
      (return modrm.addressing
        (if count.value = 0 ∨ instruction.operandSize.bits < count.value then 0
          else instruction.operandSize.bytes) true true) m := by
  have hwidth := width_bytes_le instruction.operandSize
  by_cases hmany : instruction.operandSize.bits < count.value
  · rw [declineIf_of_true hmany, if_pos (inr hmany)]
    exact operatesAt_nothing (fun _ => inl hplace) guarded_decline
  · rw [declineIf_of_false hmany]
    unfold onlyIf
    by_cases hzero : count.value = 0
    · rw [if_neg (not_not.mpr hzero), if_pos (inl hzero)]
      exact operatesAt_nothing (fun _ => inl hplace) inferInstance
    · rw [if_pos hzero, if_neg fun h => h.elim hzero hmany]
      refine operatesAt_addressing fun _ => ?_
      refine operatesAt_of_reached (hwidth.trans (by decide)) hplace ?_ fun _ => ?_
      · have hblock : Confined (modrm.operand instruction.operandSize.bytes true true).reached
            (v86DoubleShiftBy host instruction opcode2 modrm count.value) := by
          unfold v86DoubleShiftBy
          infer_instance
        infer_instance
      · have hread : Touches (modrm.operand instruction.operandSize.bytes true true).last
            (v86ReadRm host modrm instruction.operandSize) :=
          v86ReadRm_touches hmemory (mem_last rfl)
        have hblock : Touches (modrm.operand instruction.operandSize.bytes true true).last
            (v86DoubleShiftBy host instruction opcode2 modrm count.value) := by
          unfold v86DoubleShiftBy
          infer_instance
        infer_instance

theorem v86ShldShrd_operates :
    OperatesAt (v86ShldShrd host instruction opcode2 offset)
      (v86DecodeModrm host instruction offset >>= fun modrm : V86Modrm => do
        let reach ← v86DoubleShiftReach host instruction opcode2 offset modrm
        return modrm.addressing reach true true) m := by
  refine operatesAt_decode hmode fun modrm between hlocated => ?_
  by_cases hmemory : modrm.isMemory = true
  · unfold declineBeyondGuest
    rcases hlocated hmemory with hplace | ⟨hend, hlimit⟩
    · unfold v86DoubleShiftReach
      rw [declineIf_of_false hplace.not_beyondGuest, bind_assoc]
      refine operatesAt_bind fun count between' hcount => ?_
      have hcpu : between'.cpu = between.cpu := (Leaves.of_ok (R := OnlyReads) hcount).1
      rw [pure_bind]
      exact v86DoubleShift_operates hmemory (hcpu ▸ hplace) count
    · rw [declineIf_of_true ⟨hmemory, hlimit ▸ BitVec.le_refl _⟩]
      refine operatesAt_onlyDeclines fun operand m' hoperand => inl ?_
      rwa [(addressing_of_ok hoperand).2]
  · constructor <;>
    · intro operand m' hoperand
      exact absurd (addressing_of_ok hoperand).1 hmemory

omit hmode in
theorem displaced_mem_segmentBytes (hplace : IsInSegment m.cpu modrm.linear modrm.effectiveAddress)
    {displacement : Int} {position : Nat} (isWrite : Bool)
    (hfirst : 0 ≤ modrm.effectiveAddress.toInt + displacement)
    (hlast : modrm.effectiveAddress.toInt + displacement + position ≤ 0xFFFF) :
    (modrm.linear + BitVec.ofInt 32 displacement + BitVec.ofNat 32 position, isWrite) ∈
      (modrm.operand reach ownsReads ownsWrites).segmentBytes m.cpu := by
  obtain ⟨haddress, index, hlinear⟩ := hplace
  have htoInt : modrm.effectiveAddress.toInt = modrm.effectiveAddress.toNat :=
    toInt_eq_toNat_of_lt (by lia)
  rw [htoInt] at hfirst hlast
  intro _
  refine ⟨index, (modrm.effectiveAddress.toNat + displacement + position).toNat, by lia,
    hlinear, ?_⟩
  dsimp only
  rw [hlinear, BitVec.add_assoc, BitVec.add_assoc]
  congr 1
  have hoffset : BitVec.ofInt 32 modrm.effectiveAddress.toNat = modrm.effectiveAddress := by
    rw [ofInt_natCast, ofNat_toNat, setWidth_eq]
  rw [← ofInt_natCast 32 (Int.toNat _), Int.toNat_of_nonneg (by lia), ofInt_add,
    ofInt_add, hoffset, ofInt_natCast, BitVec.add_assoc]

theorem v86BitTest_operates :
    OperatesAt (v86BitTest host instruction opcode2 offset)
      (v86DecodeModrm host instruction offset >>= fun modrm : V86Modrm =>
        return modrm.addressing 0 true true) m := by
  refine operatesAt_decode hmode fun modrm between hlocated =>
    operatesAt_addressing fun hmemory => ?_
  refine operatesAt_of_confined (hlocated.fits hmemory)
    (@guarded_bind _ _ _ _ _ _ _ inferInstance fun selection => ?_)
  unfold v86BitOperand
  rw [if_pos hmemory]
  rw [bind_assoc]
  by_cases hleaves : v86GuestLimit ≤ modrm.linear ∨
      modrm.effectiveAddress.toInt + selection.displacement < 0 ∨
      0xFFFF < modrm.effectiveAddress.toInt + selection.displacement +
        instruction.operandSize.bytes - 1
  · rw [declineIf_of_true hleaves]
    exact guarded_decline
  rw [declineIf_of_false hleaves, bind_assoc]
  have hplace : IsInSegment between.cpu modrm.linear modrm.effectiveAddress := by
    rcases hlocated hmemory with hplace | ⟨-, hlimit⟩
    · exact hplace
    · exact absurd (inl (hlimit ▸ BitVec.le_refl _)) hleaves
  have hmem : ∀ (isWrite : Bool) (position : Nat), position < instruction.operandSize.bytes →
      (modrm.linear + BitVec.ofInt 32 selection.displacement + BitVec.ofNat 32 position, isWrite) ∈
        (modrm.operand 0 true true).segmentBytes between.cpu := by
    intro isWrite position hposition
    exact displaced_mem_segmentBytes hplace isWrite (by omega) (by omega)
  by_cases hbeyond : v86GuestLimit ≤ modrm.linear + BitVec.ofInt 32 selection.displacement
  · rw [declineIf_of_true hbeyond]
    exact guarded_decline
  rw [declineIf_of_false hbeyond, pure_bind]
  have hcovers : ∀ isWrite, Covers ((modrm.operand 0 true true).segmentBytes between.cpu)
      (accessBytes (modrm.linear + BitVec.ofInt 32 selection.displacement)
        instruction.operandSize.bytes isWrite) := by
    intro isWrite
    refine ⟨?_⟩
    rintro ⟨address, isWrite'⟩ ⟨-, position, hposition, rfl⟩
    exact hmem isWrite' position hposition
  have hread : Confined ((modrm.operand 0 true true).segmentBytes between.cpu)
      (v86ReadRm host
        { modrm with linear := modrm.linear + BitVec.ofInt 32 selection.displacement }
        instruction.operandSize) := by
    have := hcovers false
    infer_instance
  have hwrite : ∀ value, Confined ((modrm.operand 0 true true).segmentBytes between.cpu)
      (v86WriteRm { modrm with linear := modrm.linear + BitVec.ofInt 32 selection.displacement }
        instruction.operandSize value) := by
    intro value
    have := hcovers true
    infer_instance
  infer_instance

end Checked

end Ntvdmex.Host.V86
