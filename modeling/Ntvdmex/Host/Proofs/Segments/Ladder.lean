import Ntvdmex.Host.Proofs.Segments.Special
import Ntvdmex.Host.Proofs.V86.Exact

/-!
# No operand that fits leaves its segment (`V86Step`)

The ladder of opcodes, and the step.  A step keeps to the segment of its memory operand just when
the bytes it reaches of the operand end by the end of the segment.
-/

set_option synthInstance.maxSize 400

namespace Ntvdmex.Host.V86

open Foundation Interp List BitVec

variable {host : V86Host} {instruction : V86Instruction} {opcode opcode2 : Byte} {offset : Nat}
  {m : Machine V86Cpu}

theorem v86ModrmAddressing_eq {reach : Nat}
    (hreach : ∀ register, v86Reach instruction opcode register = reach)
    (hpop : opcode ≠ x86OpPopRm) (hgroup : opcode ≠ x86OpGroup5) :
    v86ModrmAddressing host instruction opcode offset =
      v86DecodeModrm host instruction offset >>= fun modrm : V86Modrm =>
        return modrm.addressing reach true true := by
  unfold v86ModrmAddressing
  simp only [hreach, decide_true, ne_eq, hpop, hgroup, not_false_eq_true, true_or]

theorem operatesAt_branches {c : Prop} [Decidable c] {x y : V86Action Unit}
    {addressing : V86Action (Option V86Addressing)} (hx : c → OperatesAt x addressing m)
    (hy : ¬c → OperatesAt y addressing m) : OperatesAt (if c then x else y) addressing m := by
  by_cases hc : c
  · rw [if_pos hc]
    exact hx hc
  · rw [if_neg hc]
    exact hy hc

theorem operatesAt_noModrm {block : V86Action Unit} (h : v86HasModrmTwoByte opcode2 = false) :
    OperatesAt block (v86TwoByteAddressing host instruction opcode2 offset) m := by
  unfold v86TwoByteAddressing
  rw [h, if_neg Bool.false_ne_true]
  exact operatesAt_none

section Ladder

variable (hmode : host.segmentToLinear = none)
include hmode

theorem v86LarLsl_operates :
    OperatesAt (v86LarLsl host instruction opcode2 offset)
      (v86DecodeModrm host instruction offset >>= fun modrm : V86Modrm =>
        return modrm.addressing (if host.selectorDescriptor.isSome then 2 else 0) true true) m := by
  unfold v86LarLsl
  cases hdescribe : host.selectorDescriptor with
  | none =>
    refine operatesAt_onlyDeclines fun operand m' hoperand => ?_
    obtain ⟨modrm, between, hdecoded, hreturn⟩ := bind_ok hoperand
    have hlocated := v86DecodeModrm_isLocated hmode hdecoded
    have haddressing : modrm.addressing 0 true true = some operand := by
      injection hreturn
    unfold V86Modrm.addressing at haddressing
    by_cases hmemory : modrm.isMemory = true
    · rw [if_pos hmemory] at haddressing
      exact Option.some.inj haddressing ▸ hlocated.fits hmemory
    · rw [if_neg hmemory] at haddressing
      exact nomatch haddressing
  | some describe => exact v86DescribeSelector_operates hmode describe

theorem v86TwoByte_operates :
    OperatesAt (v86TwoByte host instruction opcode2 offset)
      (v86TwoByteAddressing host instruction opcode2 offset) m := by
  refine operatesAt_branches (fun h => ?_) fun h1 => ?_
  · rcases h with rfl | rfl | rfl | rfl <;> exact v86MoveExtend_operates hmode
  refine operatesAt_branches (fun h => ?_) fun h2 => ?_
  · rcases h with rfl | rfl <;> exact v86LarLsl_operates hmode
  refine operatesAt_branches (fun h => ?_) fun _ => ?_
  · exact operatesAt_noModrm (by rcases h with rfl | rfl <;> decide)
  refine operatesAt_branches (fun h => ?_) fun _ => ?_
  · exact operatesAt_noModrm (by rcases h with rfl | rfl <;> decide)
  refine operatesAt_branches (fun h => ?_) fun _ => ?_
  · exact operatesAt_noModrm (by revert h; revert opcode2; decide)
  refine operatesAt_branches (fun h => ?_) fun h3 => ?_
  · have hhas : v86HasModrmTwoByte opcode2 = true := by
      revert h
      revert opcode2
      decide
    unfold v86TwoByteAddressing v86TwoByteReach
    rw [if_pos hhas]
    simp only [if_pos h, pure_bind]
    exact v86Setcc_operates hmode
  refine operatesAt_branches (fun h => ?_) fun h4 => ?_
  · rcases h with rfl | rfl | rfl | rfl | rfl <;> exact v86BitTest_operates hmode
  refine operatesAt_branches (fun h => ?_) fun h5 => ?_
  · rcases h with rfl | rfl <;> exact v86BitScan_operates hmode
  refine operatesAt_branches (fun h => ?_) fun h6 => ?_
  · rcases h with rfl | rfl | rfl | rfl <;> exact v86ShldShrd_operates hmode
  refine operatesAt_branches (fun h => ?_) fun h7 => ?_
  · rcases h with rfl | rfl | rfl <;> exact v86LoadFarPointer_operates hmode
  · refine operatesAt_noModrm ?_
    revert opcode2
    decide

/-! ## The one-byte opcodes -/

def v86HasOperand (opcode : Byte) : Bool :=
  (x86OpMovFromMoffsByte ≤ opcode && opcode ≤ x86OpMovToMoffs) || opcode == x86OpLes ||
    opcode == x86OpLds || v86HasModrm opcode

omit hmode in
theorem operatesAt_noOperand {block : V86Action Unit} (h : v86HasOperand opcode = false) :
    OperatesAt block (v86OneByteAddressing host instruction opcode offset) m := by
  have hnone : v86OneByteAddressing host instruction opcode offset = return none := by
    unfold v86HasOperand at h
    simp only [Bool.or_eq_false_iff, Bool.and_eq_false_iff, decide_eq_false_iff_not,
      beq_eq_false_iff_ne] at h
    obtain ⟨⟨⟨hmoffs, hles⟩, hlds⟩, hmodrm⟩ := h
    unfold v86OneByteAddressing
    rw [if_neg fun h => hmoffs.elim (fun hfirst => hfirst h.1) fun hlast => hlast h.2,
      if_neg fun h => h.elim hles hlds, hmodrm, if_neg Bool.false_ne_true]
  rw [hnone]
  exact operatesAt_none

omit hmode in
theorem operatesAt_passes {c : Prop} [Decidable c] {x y : V86Action Unit}
    (hnone : c → v86HasOperand opcode = false)
    (hy : ¬c → OperatesAt y (v86OneByteAddressing host instruction opcode offset) m) :
    OperatesAt (if c then x else y) (v86OneByteAddressing host instruction opcode offset) m :=
  operatesAt_branches (fun h => operatesAt_noOperand (hnone h)) hy

omit hmode in
theorem noOperand_of_range {first last : Byte}
    (h : ∀ n ≤ last.toNat - first.toNat,
      v86HasOperand (BitVec.ofNat 8 (first.toNat + n)) = false)
    (hrange : first ≤ opcode ∧ opcode ≤ last) : v86HasOperand opcode = false := by
  obtain ⟨hfirst, hlast⟩ := hrange
  rw [le_def] at hfirst hlast
  have hopcode := h (opcode.toNat - first.toNat) (by omega)
  rwa [Nat.add_sub_of_le hfirst, ofNat_toNat, setWidth_eq] at hopcode

/-- The opcodes with an operand that the ladder leaves to its last blocks. -/
def v86LateOpcodes : List Byte :=
  [x86OpPopRm, x86OpImulImm, x86OpImulImm8, x86OpLes, x86OpLds]

theorem v86ControlOpcode_operates
    (hlate : v86HasOperand opcode = true → opcode ∈ v86LateOpcodes) :
    OperatesAt (v86ControlOpcode host instruction opcode offset)
      (v86OneByteAddressing host instruction opcode offset) m := by
  refine operatesAt_passes (noOperand_of_range (by decide)) fun _ => ?_
  refine operatesAt_passes (by rintro rfl; rfl) fun _ => ?_
  refine operatesAt_branches (fun h => ?_) fun _ => ?_
  · exact operatesAt_noOperand (by rcases h.1 with rfl | rfl <;> decide)
  refine operatesAt_passes (by rintro rfl; rfl) fun _ => ?_
  refine operatesAt_passes (by rintro rfl; rfl) fun _ => ?_
  refine operatesAt_passes (by rintro (rfl | rfl) <;> rfl) fun _ => ?_
  refine operatesAt_passes (by rintro (rfl | rfl) <;> rfl) fun _ => ?_
  refine operatesAt_passes (by rintro rfl; rfl) fun _ => ?_
  refine operatesAt_passes (by rintro rfl; rfl) fun _ => ?_
  refine operatesAt_branches (fun h => ?_) fun hpop => ?_
  · subst h
    exact v86PopRm_operates hmode
  refine operatesAt_passes (by rintro rfl; rfl) fun _ => ?_
  refine operatesAt_passes (by rintro rfl; rfl) fun _ => ?_
  refine operatesAt_passes (by rintro rfl; rfl) fun _ => ?_
  refine operatesAt_passes (by rintro rfl; rfl) fun _ => ?_
  refine operatesAt_passes (by rintro rfl; rfl) fun _ => ?_
  refine operatesAt_branches (fun h => ?_) fun himul => ?_
  · rcases h with rfl | rfl <;> exact v86Imul_operates hmode
  refine operatesAt_passes (by rintro rfl; rfl) fun _ => ?_
  refine operatesAt_branches (fun h => ?_) fun hfar => ?_
  · rcases h with rfl | rfl <;> exact v86LesLds_operates hmode
  refine operatesAt_passes (noOperand_of_range (by decide)) fun _ => ?_
  refine operatesAt_passes (noOperand_of_range (by decide)) fun _ => ?_
  refine operatesAt_noOperand (Bool.eq_false_iff.mpr fun hhas => ?_)
  have hmem := hlate hhas
  unfold v86LateOpcodes at hmem
  simp only [mem_cons, not_mem_nil, or_false] at hmem
  rcases hmem with h | h | h | h | h
  · exact hpop h
  · exact himul (Or.inl h)
  · exact himul (Or.inr h)
  · exact hfar (Or.inl h)
  · exact hfar (Or.inr h)

def v86MiddleOpcodes : List Byte :=
  [x86OpMovFromSreg, x86OpMovToSreg, x86OpLea, x86OpShiftOneByte, x86OpShiftOne, x86OpShiftClByte,
    x86OpShiftCl, x86OpShiftImmByte, x86OpShiftImm, x86OpMovFromMoffsByte, x86OpMovFromMoffs,
    x86OpMovToMoffsByte, x86OpMovToMoffs] ++ v86LateOpcodes

theorem v86DataOpcode_operates
    (hmiddle : v86HasOperand opcode = true → opcode ∈ v86MiddleOpcodes) :
    OperatesAt (v86DataOpcode host instruction opcode offset)
      (v86OneByteAddressing host instruction opcode offset) m := by
  refine operatesAt_branches (fun h => ?_) fun hsreg => ?_
  · rcases h with rfl | rfl
    · exact v86MovFromSreg_operates hmode
    · exact v86MovToSreg_operates hmode
  refine operatesAt_branches (fun h => ?_) fun hlea => ?_
  · subst h
    exact v86Lea_operates hmode
  refine operatesAt_branches (fun h => ?_) fun hshift => ?_
  · rcases h with rfl | rfl | rfl | rfl | rfl | rfl <;> exact v86Group2_operates hmode
  refine operatesAt_passes (by rintro (rfl | rfl | rfl | rfl) <;> rfl) fun _ => ?_
  refine operatesAt_passes (by rintro (rfl | rfl | rfl | rfl) <;> rfl) fun _ => ?_
  refine operatesAt_passes (by rintro (rfl | rfl) <;> rfl) fun _ => ?_
  refine operatesAt_passes (by rintro (rfl | rfl) <;> rfl) fun _ => ?_
  refine operatesAt_passes (noOperand_of_range (by decide)) fun _ => ?_
  refine operatesAt_passes (noOperand_of_range (by decide)) fun _ => ?_
  refine operatesAt_branches (fun h => ?_) fun hmoffs => ?_
  · unfold v86OneByteAddressing
    rw [if_pos h]
    exact v86MovMoffs_operates hmode
  refine operatesAt_passes (by rintro (rfl | rfl) <;> rfl) fun _ => ?_
  refine operatesAt_passes (by rintro (rfl | rfl) <;> rfl) fun _ => ?_
  refine operatesAt_passes (by rintro (rfl | rfl | rfl | rfl) <;> rfl) fun _ => ?_
  refine operatesAt_passes (by rintro (rfl | rfl) <;> rfl) fun _ => ?_
  refine v86ControlOpcode_operates hmode fun hhas => ?_
  have hmem := hmiddle hhas
  clear hmiddle
  revert opcode
  decide

theorem v86StackOpcode_operates
    (hmiddle : v86HasOperand opcode = true → opcode ∈ v86MiddleOpcodes) :
    OperatesAt (v86StackOpcode host instruction opcode offset)
      (v86OneByteAddressing host instruction opcode offset) m := by
  refine operatesAt_passes (noOperand_of_range (by decide)) fun _ => ?_
  refine operatesAt_passes (noOperand_of_range (by decide)) fun _ => ?_
  refine operatesAt_passes (by rintro (rfl | rfl) <;> rfl) fun _ => ?_
  refine operatesAt_passes (by rintro rfl; rfl) fun _ => ?_
  refine operatesAt_passes (by rintro rfl; rfl) fun _ => ?_
  refine operatesAt_passes (by rintro rfl; rfl) fun _ => ?_
  refine operatesAt_passes (by rintro rfl; rfl) fun _ => ?_
  refine operatesAt_passes (by rintro (rfl | rfl | rfl | rfl) <;> rfl) fun _ => ?_
  refine operatesAt_passes (by rintro (rfl | rfl | rfl) <;> rfl) fun _ => ?_
  exact v86DataOpcode_operates hmode hmiddle

theorem v86AluForm_operates (h : opcode < x86OpIncFirst ∧ opcodeLow opcode < 6) :
    OperatesAt (v86AluForm host instruction opcode offset)
      (v86OneByteAddressing host instruction opcode offset) m := by
  unfold v86AluForm
  by_cases hform : opcodeLow opcode ≤ 3
  · have hplain : ∀ opcode : Byte, opcode < x86OpIncFirst ∧ opcodeLow opcode ≤ 3 →
        ¬(x86OpMovFromMoffsByte ≤ opcode ∧ opcode ≤ x86OpMovToMoffs) ∧
          ¬(opcode = x86OpLes ∨ opcode = x86OpLds) ∧ v86HasModrm opcode = true ∧
          opcode ≠ x86OpPopRm ∧ opcode ≠ x86OpGroup5 := by
      decide
    have hreach : ∀ opcode : Byte, opcode < x86OpIncFirst ∧ opcodeLow opcode ≤ 3 →
        opcode ≠ x86OpLea ∧ opcode ≠ x86OpMovFromSreg ∧ opcode ≠ x86OpMovToSreg ∧
          ¬(opcode = x86OpMovImmRmByte ∨ opcode = x86OpMovImmRm ∨ opcode = x86OpPopRm) ∧
          opcode ≠ x86OpGroup4 ∧ opcode ≠ x86OpGroup5 := by
      decide
    obtain ⟨hmoffs, hfar, hhas, hpop, hgroup5⟩ := hplain opcode ⟨h.1, hform⟩
    obtain ⟨hlea, hfrom, hto, himmediate, hgroup4, -⟩ := hreach opcode ⟨h.1, hform⟩
    rw [if_pos hform]
    unfold v86OneByteAddressing
    rw [if_neg hmoffs, if_neg hfar, if_pos hhas]
    rw [v86ModrmAddressing_eq (fun register => by
      unfold v86Reach
      rw [if_neg hlea, if_neg hfrom, if_neg hto, if_neg himmediate, if_neg hgroup4,
        if_neg hgroup5]) hpop hgroup5]
    exact v86AluRm_operates hmode _ _ _
  · have haccumulator : ∀ opcode : Byte, opcode < x86OpIncFirst ∧ ¬opcodeLow opcode ≤ 3 →
        v86HasOperand opcode = false := by
      decide
    exact operatesAt_noOperand (haccumulator opcode ⟨h.1, hform⟩)

omit hmode in
theorem v86ModrmAddressing_group5 :
    v86ModrmAddressing host instruction x86OpGroup5 offset =
      v86DecodeModrm host instruction offset >>= fun modrm : V86Modrm =>
        return modrm.addressing
          (if modrm.register = 3 ∨ modrm.register = 5 then instruction.operandSize.bytes + 2
            else instruction.operandSize.bytes) true (decide (modrm.register ≤ 1)) := by
  have howns : ∀ register : Nat,
      decide (x86OpGroup5 ≠ x86OpGroup5 ∨ register ≤ 1) = decide (register ≤ 1) := by
    intro register
    rw [decide_eq_decide]
    exact or_iff_right (not_not.mpr rfl)
  unfold v86ModrmAddressing
  simp only [howns]
  rfl

theorem v86OneByte_operates :
    OperatesAt (v86OneByte host instruction opcode offset)
      (v86OneByteAddressing host instruction opcode offset) m := by
  refine operatesAt_branches (fun h => ?_) fun halu => ?_
  · exact v86AluForm_operates hmode h
  refine operatesAt_branches (fun h => ?_) fun hgroup1 => ?_
  · rcases h with rfl | rfl | rfl <;> exact v86Group1_operates hmode rfl
  refine operatesAt_passes (noOperand_of_range (by decide)) fun _ => ?_
  refine operatesAt_branches (fun h => ?_) fun hgroup45 => ?_
  · rcases h with rfl | rfl
    · exact v86Group4_operates hmode
    · change OperatesAt _ (v86ModrmAddressing host instruction x86OpGroup5 offset) m
      rw [v86ModrmAddressing_group5]
      exact v86Group5_operates hmode
  refine operatesAt_branches (fun h => ?_) fun htest => ?_
  · rcases h with rfl | rfl <;> exact v86Test_operates hmode
  refine operatesAt_passes (by rintro (rfl | rfl) <;> rfl) fun _ => ?_
  refine operatesAt_branches (fun h => ?_) fun hgroup3 => ?_
  · rcases h with rfl | rfl <;> exact v86Group3_operates hmode rfl
  refine operatesAt_branches (fun h => ?_) fun hmov => ?_
  · rcases h with rfl | rfl | rfl | rfl <;> exact v86Mov_operates hmode
  refine operatesAt_branches (fun h => ?_) fun himmediate => ?_
  · rcases h with rfl | rfl <;> exact v86MovImmediateRm_operates hmode
  refine operatesAt_branches (fun h => ?_) fun hxchg => ?_
  · rcases h with rfl | rfl <;> exact v86Xchg_operates hmode
  refine v86StackOpcode_operates hmode fun hhas => ?_
  revert opcode
  decide

/-! ## The step -/

theorem v86Opcode_operates :
    OperatesAt (v86Opcode host instruction offset)
      (v86OpcodeAddressing host instruction offset) m := by
  refine operatesAt_bind fun opcode m1 _ => operatesAt_bind fun _ m2 _ => ?_
  refine operatesAt_bind fun _ m3 _ => operatesAt_ite (fun _ => ?_) fun _ => ?_
  · exact operatesAt_bind fun opcode2 m4 _ => v86TwoByte_operates hmode
  · exact v86OneByte_operates hmode

theorem v86Step_operates : OperatesAt (v86Step host) (v86Addressing host) m := by
  refine operatesAt_bind fun cpu m1 _ => operatesAt_bind fun _ m2 _ => ?_
  exact operatesAt_bind fun prefixed m3 _ => v86Opcode_operates hmode

end Ladder

/-- The step's reads and writes of its memory operand, however the step goes, are at
`segment * 16 + e` with `e` up to FFFFh. -/
def KeepsSegment (host : V86Host) (m : Machine V86Cpu) : Prop :=
  ∀ operand m', v86Addressing host m = .ok (some operand) m' →
    ∃ made, ((v86Step host).after m).calls = made ++ m.calls ∧
      ∀ call ∈ made, call.IsWithin (operand.segmentBytes m.cpu)

/-- The bytes that the instruction reaches of its memory operand end by the end of the segment, or
its address is past the end under 0x67. -/
def OperandFits (host : V86Host) (m : Machine V86Cpu) : Prop :=
  ∀ operand m', v86Addressing host m = .ok (some operand) m' → operand.Fits

/-- In V86 mode a step keeps to the segment of its memory operand just when the operand fits. -/
theorem v86Step_keeps_segment_iff (hmode : host.segmentToLinear = none) (m : Machine V86Cpu) :
    KeepsSegment host m ↔ OperandFits host m := by
  constructor
  · intro hkeeps operand m' hoperand
    exact ((v86Step_operates hmode).keeps_iff hoperand).mp (hkeeps operand m' hoperand)
  · intro hfits operand m' hoperand
    exact ((v86Step_operates hmode).keeps_iff hoperand).mpr (hfits operand m' hoperand)

/-- A host with `MOV AX, [offset]` at address 0. -/
def moffsHost (low high : Byte) : V86Host where
  read8 _ linear :=
    if linear = 0 then 0xA1 else if linear = 1 then low else if linear = 2 then high else 0
  portIn _ _ _ := 0
  segmentToLinear := none
  selectorDescriptor := none

def clearedMachine : Machine V86Cpu where
  cpu := clearedCpu
  calls := []

theorem v86Addressing_moffs (low high : Byte) (h : (low, high) ∈ [(0xFE, 0xFF), (0xFF, 0xFF)]) :
    ∃ m', v86Addressing (moffsHost low high) clearedMachine =
      .ok (some {
        linear := (low.setWidth 16 ||| high.setWidth 16 <<< 8 : Word).setWidth 32
        effectiveAddress := (low.setWidth 16 ||| high.setWidth 16 <<< 8 : Word).setWidth 32
        reach := 2
        ownsReads := true
        ownsWrites := true }) m' := by
  simp only [mem_cons, Prod.mk.injEq, not_mem_nil, or_false] at h
  rcases h with ⟨rfl, rfl⟩ | ⟨rfl, rfl⟩ <;> exact ⟨_, rfl⟩

theorem v86Step_keeps_segment_moffs : KeepsSegment (moffsHost 0xFE 0xFF) clearedMachine := by
  refine (v86Step_keeps_segment_iff rfl clearedMachine).mpr fun operand m' hoperand => ?_
  obtain ⟨last, hlast⟩ := v86Addressing_moffs 0xFE 0xFF (by decide)
  rw [hlast] at hoperand
  cases hoperand
  decide

theorem v86Step_leaves_segment_moffs : ¬KeepsSegment (moffsHost 0xFF 0xFF) clearedMachine := by
  intro hkeeps
  obtain ⟨last, hlast⟩ := v86Addressing_moffs 0xFF 0xFF (by decide)
  obtain ⟨made, hcalls, hwithin⟩ := hkeeps _ _ hlast
  have hmade : made = [.read 0x10000, .read 0xFFFF, .fetch 2, .fetch 1, .fetch 0, .fetch 0] := by
    have hrun : ((v86Step (moffsHost 0xFF 0xFF)).after clearedMachine).calls =
        [.read 0x10000, .read 0xFFFF, .fetch 2, .fetch 1, .fetch 0, .fetch 0] := rfl
    rw [hrun] at hcalls
    exact (List.append_nil made).symm.trans hcalls.symm
  have hread : (.read 0x10000 : HostCall) ∈ made := by
    rw [hmade]
    exact List.mem_cons_self
  obtain ⟨index, e, he, -, hbyte⟩ := hwithin _ hread rfl
  have hzero : clearedMachine.cpu.segments index = 0 := rfl
  have htoNat := congrArg BitVec.toNat hbyte
  rw [hzero, BitVec.toNat_add, BitVec.toNat_ofNat] at htoNat
  have hbase : (BitVec.setWidth 32 (0 : Word) * 16).toNat = 0 := rfl
  have hend : (0x10000 : Dword).toNat = 0x10000 := rfl
  rw [hbase] at htoNat
  dsimp only at htoNat
  omega

end Ntvdmex.Host.V86
