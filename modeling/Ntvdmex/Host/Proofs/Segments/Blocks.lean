import Ntvdmex.Host.Proofs.Segments.Operands

/-!
# Instructions with one operand of their width

Each block reads or writes its operand whole, and nothing else.
-/

set_option synthInstance.maxSize 400

namespace Ntvdmex.Host.V86

open Foundation Interp

variable {host : V86Host} {instruction : V86Instruction} {opcode opcode2 : Byte} {offset : Nat}
  {canAccess : Dword → Nat → Bool → Bool} {granted bytes : Set (Dword × Bool)}

variable {modrm : V86Modrm} {c : Prop} {α : Type} {position : Nat} {isWrite : Bool}

instance (linear : Dword) (width : Width) [Covers granted (accessBytes linear width.bytes false)] :
    Guarded canAccess granted (v86ReadMemory host linear width) := by
  unfold v86ReadMemory
  infer_instance

instance (linear : Dword) (width : Width) (value : Dword)
    [Covers granted (accessBytes linear width.bytes true)] :
    Guarded canAccess granted (v86WriteMemory linear width value) := by
  unfold v86WriteMemory
  infer_instance

instance (modrm : V86Modrm) (width : Width)
    [Covers granted (accessBytes modrm.linear width.bytes false)] :
    Guarded canAccess granted (v86ReadRm host modrm width) := by
  unfold v86ReadRm
  infer_instance

instance (modrm : V86Modrm) (width : Width) (value : Dword)
    [Covers granted (accessBytes modrm.linear width.bytes true)] :
    Guarded canAccess granted (v86WriteRm modrm width value) := by
  unfold v86WriteRm
  infer_instance

theorem v86ReadRm_touches {width : Width} (hmemory : modrm.isMemory = true)
    (hlast : (modrm.linear + BitVec.ofNat 32 (width.bytes - 1), false) ∈ bytes) :
    Touches bytes (v86ReadRm host modrm width) := by
  unfold v86ReadRm
  rw [if_pos hmemory]
  exact touches_readMemory host.toHost hlast

theorem v86WriteRm_touches {width : Width} (hmemory : modrm.isMemory = true)
    (hlast : (modrm.linear + BitVec.ofNat 32 (width.bytes - 1), true) ∈ bytes) (value : Dword) :
    Touches bytes (v86WriteRm modrm width value) := by
  unfold v86WriteRm
  rw [if_pos hmemory]
  exact touches_writeMemory hlast

/-! ## Decoded operands -/

section Decoded

variable {m : Machine V86Cpu} {modrm : V86Modrm} {reach : Nat} {ownsReads ownsWrites : Bool}

def V86Modrm.operand (modrm : V86Modrm) (reach : Nat) (ownsReads ownsWrites : Bool) :
    V86Addressing where
  linear := modrm.linear
  effectiveAddress := modrm.effectiveAddress
  reach
  ownsReads
  ownsWrites

theorem operatesAt_addressing {block : V86Action Unit}
    (h : modrm.isMemory = true →
      OperatesAt block (return some (modrm.operand reach ownsReads ownsWrites)) m) :
    OperatesAt block (return modrm.addressing reach ownsReads ownsWrites) m := by
  unfold V86Modrm.addressing
  by_cases hmemory : modrm.isMemory = true
  · rw [if_pos hmemory]
    exact h hmemory
  · rw [if_neg hmemory]
    exact operatesAt_none

theorem operatesAt_decode (hmode : host.segmentToLinear = none) {rest : V86Modrm → V86Action Unit}
    {addressing : V86Modrm → V86Action (Option V86Addressing)}
    (h : ∀ modrm between, modrm.IsLocated between.cpu →
      OperatesAt (rest modrm) (addressing modrm) between) :
    OperatesAt (v86DecodeModrm host instruction offset >>= rest)
      (v86DecodeModrm host instruction offset >>= addressing) m := by
  refine operatesAt_bind fun modrm between hdecoded => h modrm between ?_
  rw [(Leaves.of_ok (R := OnlyReads) hdecoded).1]
  exact v86DecodeModrm_isLocated hmode hdecoded

theorem operatesAt_getCpu {f : V86Cpu → V86Action Unit}
    {addressing : V86Action (Option V86Addressing)} (h : OperatesAt (f m.cpu) addressing m) :
    OperatesAt (getCpu >>= f) addressing m :=
  ⟨h.keeps, h.overruns⟩

theorem declineIf_of_true [Decidable c] (hc : c) (f : Unit → V86Action α)
    : (declineIf c >>= f) = decline := by
  unfold declineIf
  rw [if_pos hc]
  rfl

theorem declineIf_of_false [Decidable c] (hc : ¬c) (f : Unit → V86Action α)
    : (declineIf c >>= f) = f () := by
  unfold declineIf
  rw [if_neg hc]
  rfl

theorem operatesAt_check [Decidable c] {work : Unit → V86Action Unit}
    (hlocated : modrm.IsLocated m.cpu) (hreach : reach ≤ 6)
    (hinside : IsInSegment m.cpu modrm.linear modrm.effectiveAddress → ¬c)
    (hpast : modrm.isMemory = true → modrm.linear = v86GuestLimit → c)
    (hwork : modrm.isMemory = true → Confined (modrm.operand reach ownsReads ownsWrites).reached
      (work ()))
    (htouches : modrm.isMemory = true → 0 < reach →
      Touches (modrm.operand reach ownsReads ownsWrites).last (work ())) :
    OperatesAt (declineIf c >>= work)
      (return modrm.addressing reach ownsReads ownsWrites) m := by
  refine operatesAt_addressing fun hmemory => ?_
  rcases hlocated hmemory with hplace | ⟨hend, hlimit⟩
  · rw [declineIf_of_false (hinside hplace)]
    exact operatesAt_of_reached hreach hplace (hwork hmemory) (htouches hmemory)
  · rw [declineIf_of_true (hpast hmemory hlimit)]
    exact operatesAt_of_confined (Or.inl hend) guarded_decline

theorem IsInSegment.not_beyondGuest (h : IsInSegment m.cpu modrm.linear modrm.effectiveAddress) :
    ¬(modrm.isMemory = true ∧ v86GuestLimit ≤ modrm.linear) := by
  rintro ⟨-, hbeyond⟩
  have hlinear := h.lt_guestLimit
  rw [BitVec.le_def] at hbeyond
  omega

theorem V86Addressing.mem_reached (operand : V86Addressing) (isWrite : Bool)
    (hposition : position < operand.reach) :
    (operand.linear + BitVec.ofNat 32 position, isWrite) ∈ operand.reached :=
  fun _ => ⟨position, hposition, rfl⟩

theorem V86Addressing.mem_last (operand : V86Addressing) (howns : operand.owns isWrite = true) :
    (operand.linear + BitVec.ofNat 32 (operand.reach - 1), isWrite) ∈ operand.last :=
  ⟨howns, rfl⟩

theorem mem_reached (hposition : position < reach) :
    (modrm.linear + BitVec.ofNat 32 position, isWrite) ∈
      (modrm.operand reach ownsReads ownsWrites).reached :=
  (modrm.operand reach ownsReads ownsWrites).mem_reached isWrite hposition

theorem mem_last (howns : (modrm.operand reach ownsReads ownsWrites).owns isWrite = true) :
    (modrm.linear + BitVec.ofNat 32 (reach - 1), isWrite) ∈
      (modrm.operand reach ownsReads ownsWrites).last :=
  (modrm.operand reach ownsReads ownsWrites).mem_last howns

instance covers_reached (isWrite : Bool) :
    Covers (modrm.operand reach ownsReads ownsWrites).reached
      (accessBytes modrm.linear reach isWrite) where
  subset := by
    rintro byte ⟨-, position, hposition, hlocation⟩ _
    exact ⟨position, hposition, hlocation⟩

theorem width_bytes_le (width : Width) : width.bytes ≤ 4 := by
  cases width <;> decide

theorem operatesAt_width (hmode : host.segmentToLinear = none) (width : Width)
    {work : V86Modrm → V86Action Unit}
    (hwork : ∀ modrm bytes,
      (∀ isWrite, Covers bytes (accessBytes modrm.linear width.bytes isWrite)) →
      Confined bytes (work modrm))
    (htouches : ∀ modrm bytes, Touches bytes (v86ReadRm host modrm width) →
      (∀ value, Touches bytes (v86WriteRm modrm width value)) →
      Touches bytes (work modrm)) :
    OperatesAt
      (v86DecodeModrm host instruction offset >>= fun modrm =>
        modrm.declineBeyondGuest >>= fun _ => work modrm)
      (v86DecodeModrm host instruction offset >>= fun modrm =>
        return modrm.addressing width.bytes true true) m := by
  refine operatesAt_decode hmode fun modrm between hlocated => ?_
  refine operatesAt_check hlocated ((width_bytes_le width).trans (by decide))
    (fun hplace => hplace.not_beyondGuest)
    (fun hmemory hlimit => ⟨hmemory, hlimit ▸ BitVec.le_refl _⟩)
    (fun _ => hwork modrm _ fun _ => inferInstance) fun hmemory _ => ?_
  exact htouches modrm _ (v86ReadRm_touches hmemory (mem_last rfl))
    (v86WriteRm_touches hmemory (mem_last rfl))

end Decoded

/-! ## The blocks -/

section Blocks

variable {m : Machine V86Cpu} (hmode : host.segmentToLinear = none)

def v86WidthAddressing (host : V86Host) (instruction : V86Instruction) (offset : Nat)
    (width : Width) : V86Action (Option V86Addressing) := do
  let modrm ← v86DecodeModrm host instruction offset
  return modrm.addressing width.bytes true true

include hmode

theorem v86AluRm_operates (operation form : Nat) (width : Width) :
    OperatesAt (v86AluRm host instruction offset operation form width)
      (v86WidthAddressing host instruction offset width) m :=
  operatesAt_width hmode width (by intros; infer_instance) (by intros; infer_instance)

theorem v86Group1_operates (hopcode : (if opcode = x86OpGroup1Imm8 then .byte else
      instruction.operandSize) = instruction.widthOf opcode) :
    OperatesAt (v86Group1 host instruction opcode offset)
      (v86WidthAddressing host instruction offset (instruction.widthOf opcode)) m := by
  unfold v86Group1
  rw [hopcode]
  exact operatesAt_width hmode _ (by intros; infer_instance) (by intros; infer_instance)

theorem v86Test_operates :
    OperatesAt (v86Test host instruction opcode offset)
      (v86WidthAddressing host instruction offset (instruction.widthOf opcode)) m :=
  operatesAt_width hmode _ (by intros; infer_instance) (by intros; infer_instance)

theorem v86Mov_operates :
    OperatesAt (v86Mov host instruction opcode offset)
      (v86WidthAddressing host instruction offset (instruction.widthOf opcode)) m :=
  operatesAt_width hmode _ (by intros; infer_instance) (by intros; infer_instance)

theorem v86Xchg_operates :
    OperatesAt (v86Xchg host instruction opcode offset)
      (v86WidthAddressing host instruction offset (instruction.widthOf opcode)) m :=
  operatesAt_width hmode _ (by intros; infer_instance) (by intros; infer_instance)

theorem v86Group2_operates :
    OperatesAt (v86Group2 host instruction opcode offset)
      (v86WidthAddressing host instruction offset (instruction.widthOf opcode)) m := by
  have hcount : ∀ position, Completes (v86ShiftCount host instruction opcode position) := by
    intro position
    unfold v86ShiftCount
    infer_instance
  exact operatesAt_width hmode _ (by intros; infer_instance) (by intros; infer_instance)

theorem v86Imul_operates :
    OperatesAt (v86Imul host instruction opcode offset)
      (v86WidthAddressing host instruction offset instruction.operandSize) m :=
  operatesAt_width hmode _ (by intros; infer_instance) (by intros; infer_instance)

theorem v86MoveExtend_operates :
    OperatesAt (v86MoveExtend host instruction opcode2 offset)
      (v86WidthAddressing host instruction offset (if isWide opcode2 then .word else .byte)) m :=
  operatesAt_width hmode _ (by intros; infer_instance) (by intros; infer_instance)

theorem v86BitScan_operates :
    OperatesAt (v86BitScan host instruction opcode2 offset)
      (v86WidthAddressing host instruction offset instruction.operandSize) m :=
  operatesAt_width hmode _ (by intros; infer_instance) (by intros; infer_instance)

theorem v86DescribeSelector_operates (describe : Word → Option (Dword × Dword)) :
    OperatesAt (v86DescribeSelector host instruction opcode2 offset describe)
      (v86WidthAddressing host instruction offset .word) m :=
  operatesAt_width hmode _ (by intros; infer_instance) (by intros; infer_instance)

theorem v86Setcc_operates :
    OperatesAt (v86Setcc host instruction opcode2 offset)
      (v86WidthAddressing host instruction offset .byte) m := by
  refine operatesAt_getCpu ?_
  exact operatesAt_width hmode _ (by intros; infer_instance) (by intros; infer_instance)

theorem v86Group3_operates (hopcode : (if opcode = x86OpGroup3Byte then .byte else
      instruction.operandSize) = instruction.widthOf opcode) :
    OperatesAt (v86Group3 host instruction opcode offset)
      (v86WidthAddressing host instruction offset (instruction.widthOf opcode)) m := by
  unfold v86Group3 v86Group3Test v86Group3Unary
  rw [hopcode]
  refine operatesAt_width hmode _ (fun modrm bytes hcovers => ?_) fun modrm bytes hread hwrite => ?_
  · have hoperation : ∀ operand, Confined bytes
        (v86Group3Operation modrm (instruction.widthOf opcode) operand) := by
      intro operand
      unfold v86Group3Operation
      infer_instance
    infer_instance
  · have hoperation : ∀ operand, Confined Set.univ
        (v86Group3Operation modrm (instruction.widthOf opcode) operand) := by
      intro operand
      unfold v86Group3Operation
      infer_instance
    infer_instance

end Blocks

end Ntvdmex.Host.V86
