import Ntvdmex.Host.Proofs.Division.Steps
import Ntvdmex.Host.Proofs.Shifts.Pm32

/-!
# Double shifts, and the two shift units

Both interpreters shift a pair of operands of 64 bits, the one to the right only.
-/

namespace Ntvdmex.Host

open Foundation Interp V86 Pm32 Option Leaves Pm32Cpu

/-- What a `SHLD` or a `SHRD` is given. -/
structure DoubleShift where
  isLeft : Bool
  width : Width
  destination : Dword
  source : Dword
  count : Nat

namespace DoubleShift

variable (shift : DoubleShift)

/-- The result and the carry. -/
def shifted : Dword × Bool :=
  v86DoubleShift shift.isLeft shift.width shift.destination shift.source shift.count

theorem shifted_eq_embed :
    shift.shifted.1 = (lowBits shift.width shift.shifted.1).setWidth 32 := by
  have hself : shift.shifted.1 &&& widthMask shift.width = shift.shifted.1 := by
    unfold shifted v86DoubleShift
    cases shift.isLeft
    · simp only [Bool.false_eq_true, if_false, BitVec.and_assoc, BitVec.and_self]
    · simp only [if_true, BitVec.and_assoc, BitVec.and_self]
  rw [← and_widthMask_eq, hself]

theorem shiftLeft_pair (width : Width) (pair : BitVec 64) {count : Nat} (hle : count ≤ width.bits) :
    (pair <<< count >>> width.bits).setWidth 32 &&& widthMask width =
      (pair >>> (width.bits - count)).setWidth 32 &&& widthMask width := by
  have hbits := bits_le width
  apply BitVec.eq_of_getLsbD_eq
  intro bit hbit
  rw [BitVec.getLsbD_and, BitVec.getLsbD_and, getLsbD_widthMask, BitVec.getLsbD_setWidth,
    BitVec.getLsbD_setWidth, BitVec.getLsbD_ushiftRight, BitVec.getLsbD_ushiftRight,
    BitVec.getLsbD_shiftLeft]
  by_cases hlt : bit < width.bits
  · have hindex : width.bits + bit - count = width.bits - count + bit := by lia
    rw [decide_eq_true (by lia : width.bits + bit < 64),
      decide_eq_false (by lia : ¬width.bits + bit < count), hindex, Bool.not_false,
      Bool.true_and, Bool.true_and]
  · rw [decide_eq_false hlt, Bool.and_false, Bool.and_false]

theorem pm32DoubleShift_eq (hle : shift.count ≤ shift.width.bits) (flags : Dword) :
    let doubled := pm32DoubleShift flags shift.isLeft shift.destination shift.source shift.count
      shift.width
    doubled.value = shift.shifted.1 ∧
      doubled.flags = pm32ShiftFlags flags shift.shifted.1 shift.shifted.2
        (hasFlag (shift.shifted.1 ^^^ shift.destination) (widthSignBit shift.width))
        shift.width := by
  intro doubled
  have hdoubled : doubled = pm32DoubleShift flags shift.isLeft shift.destination shift.source
    shift.count shift.width := rfl
  have hcarry : ∀ places, (shift.destination >>> places).getLsbD 0 =
      shift.destination.getLsbD places := by
    intro places
    rw [BitVec.getLsbD_ushiftRight, Nat.add_zero]
  rw [hdoubled]
  unfold pm32DoubleShift shifted v86DoubleShift
  cases shift.isLeft
  · simp only [Bool.false_eq_true, if_false, hcarry, and_self]
  · simp only [if_true, hcarry, shiftLeft_pair _ _ hle, and_self]

/-- CF, ZF, SF and PF of the shift. -/
structure HasFlags (flags : Dword) : Prop where
  carry : hasFlag flags eflagsCf = shift.shifted.2
  zero : hasFlag flags eflagsZf = decide (lowBits shift.width shift.shifted.1 = 0)
  sign : hasFlag flags eflagsSf = (lowBits shift.width shift.shifted.1).msb
  parity : hasFlag flags eflagsPf = decide (IsEvenByte shift.shifted.1)

theorem pm32ShiftFlags_hasFlags (flags : Dword) (overflow : Bool) :
    shift.HasFlags (pm32ShiftFlags flags shift.shifted.1 shift.shifted.2 overflow shift.width) := by
  have hembed := shift.shifted_eq_embed
  obtain ⟨hcf, hzf, hsf, hpf, -⟩ := hasFlag_pm32ShiftFlags flags
    (lowBits shift.width shift.shifted.1) shift.shifted.2 overflow
  rw [← hembed] at hcf hzf hsf hpf
  exact ⟨hcf, hzf, hsf, hpf⟩

theorem v86DoubleShiftFlags_hasFlags (flags : Dword) :
    shift.HasFlags (v86DoubleShiftFlags flags shift.width shift.destination shift.shifted.1
      shift.shifted.2 shift.count) := by
  have hembed := shift.shifted_eq_embed
  have hbits : ∀ bit, bit ≠ 11 → eflagsOf.getLsbD bit = false →
      (v86DoubleShiftFlags flags shift.width shift.destination shift.shifted.1 shift.shifted.2
        shift.count).getLsbD bit =
      (flags &&& ~~~(eflagsCf ||| eflagsSf ||| eflagsZf ||| eflagsPf) |||
        flagIf shift.shifted.2 eflagsCf |||
        resultFlags ((lowBits shift.width shift.shifted.1).setWidth 32) shift.width).getLsbD
          bit := by
    intro bit hbit hof
    rw [← hembed]
    unfold v86DoubleShiftFlags
    split_ifs
    · rw [BitVec.getLsbD_or, BitVec.getLsbD_and, BitVec.getLsbD_not, getLsbD_flagIf, hof,
        Bool.and_false, Bool.or_false, Bool.not_false, Bool.and_true]
      by_cases hlt : bit < 32
      · rw [decide_eq_true hlt, Bool.and_true]
      · rw [decide_eq_false hlt, Bool.and_false, BitVec.getLsbD_of_ge _ bit (by omega)]
    · rfl
  refine ⟨?_, ?_, ?_, ?_⟩
  · rw [hasFlag_cf, hbits 0 (by decide) rfl]
    simp only [BitVec.getLsbD_or, BitVec.getLsbD_and, BitVec.getLsbD_not, getLsbD_flagIf,
      getLsbD_resultFlags]
    simp [eflagsCf, eflagsPf, eflagsZf, eflagsSf]
  · rw [hasFlag_zf, hbits 6 (by decide) rfl]
    simp only [BitVec.getLsbD_or, BitVec.getLsbD_and, BitVec.getLsbD_not, getLsbD_flagIf,
      getLsbD_resultFlags]
    simp [eflagsCf, eflagsPf, eflagsZf, eflagsSf]
  · rw [hasFlag_sf, hbits 7 (by decide) rfl]
    simp only [BitVec.getLsbD_or, BitVec.getLsbD_and, BitVec.getLsbD_not, getLsbD_flagIf,
      getLsbD_resultFlags]
    simp [eflagsCf, eflagsPf, eflagsZf, eflagsSf]
  · rw [hasFlag_pf, hbits 2 (by decide) rfl]
    simp only [BitVec.getLsbD_or, BitVec.getLsbD_and, BitVec.getLsbD_not, getLsbD_flagIf,
      getLsbD_resultFlags]
    simp [eflagsCf, eflagsPf, eflagsZf, eflagsSf, ← hembed]

end DoubleShift

/-! ## The steps -/

/-- What a step that shifts a pair of operands leaves: its operand, and the flags.  By a count of 0
it leaves both alone. -/
structure ShiftsPair {γ : Type} (shift : DoubleShift) (write : Dword → Interp γ Unit)
    (registersOf : γ → Nat → Dword) (flagsOf : γ → Dword) (machine after : Machine γ) : Prop where
  none : shift.count = 0 →
    (∃ between, OnlyReads machine between ∧ after.calls = between.calls) ∧
      registersOf after.cpu = registersOf machine.cpu ∧ flagsOf after.cpu = flagsOf machine.cpu
  some : shift.count ≠ 0 →
    (∃ between stored, OnlyReads machine between ∧
      write shift.shifted.1 between = .ok () stored ∧ after.calls = stored.calls ∧
        registersOf after.cpu = registersOf stored.cpu) ∧
      shift.HasFlags (flagsOf after.cpu)

theorem and_widthMask_of_lt {width : Width} {value : Dword} (h : value.toNat < 2 ^ width.bits) :
    value &&& widthMask width = value := by
  apply BitVec.eq_of_toNat_eq
  rw [toNat_and_widthMask, BitVec.toNat_setWidth, Nat.mod_eq_of_lt h]

section V86

/-- The step decodes a `SHLD` or a `SHRD`, and these are its operands. -/
def V86DoubleShifts (host : V86Host) (machine : Machine V86Cpu) (modrm : V86Modrm)
    (shift : DoubleShift) : Prop :=
  ∃ fetched opcode2 count atEscape atModrm atOperand allowed atCount,
    v86Fetch host machine = .ok fetched atEscape ∧ fetched.opcode = x86Escape ∧
      v86CodeByte host fetched.instruction fetched.offset atEscape = .ok opcode2 atModrm ∧
      (opcode2 = v86Op2ShldImm ∨ opcode2 = v86Op2ShldCl ∨ opcode2 = v86Op2ShrdImm ∨
        opcode2 = v86Op2ShrdCl) ∧
      v86DecodeModrm host fetched.instruction (fetched.offset + 1) atModrm =
        .ok modrm atOperand ∧
      modrm.declineBeyondGuest atOperand = .ok () allowed ∧
      v86DoubleShiftCount host fetched.instruction opcode2 (fetched.offset + 1 + modrm.length)
        allowed = .ok count atCount ∧
      (shift.count ≠ 0 → ∃ ready, v86ReadRm host modrm shift.width atCount =
        .ok shift.destination ready) ∧
      shift.source = v86GetRegister machine.cpu modrm.register shift.width ∧
      shift.isLeft = decide (opcode2 ≤ v86Op2ShldCl) ∧
      shift.width = fetched.instruction.operandSize ∧ shift.count = count.value

theorem v86TwoByte_doubleShift {host : V86Host} {instruction : V86Instruction} {opcode2 : Byte}
    (hopcode : opcode2 = v86Op2ShldImm ∨ opcode2 = v86Op2ShldCl ∨ opcode2 = v86Op2ShrdImm ∨
      opcode2 = v86Op2ShrdCl) (offset : Nat) :
    v86TwoByte host instruction opcode2 offset =
      v86ShldShrd host instruction opcode2 offset := by
  rcases hopcode with rfl | rfl | rfl | rfl <;> rfl

theorem v86Step_shiftsPair {host : V86Host} {machine after : Machine V86Cpu} {modrm : V86Modrm}
    {shift : DoubleShift} (hshifts : V86DoubleShifts host machine modrm shift)
    (hstep : v86Step host machine = .ok () after) :
    shift.count ≤ shift.width.bits ∧
      ShiftsPair shift (v86WriteRm modrm shift.width) V86Cpu.registers V86Cpu.flags machine
        after := by
  obtain ⟨fetched, opcode2, count, atEscape, atModrm, atOperand, allowed, atCount, hfetch,
    hescape, hopcode2, hopcode, hmodrm, hallowed, hcount, hread, hsource, hleft, hwidth,
    hshiftCount⟩ := hshifts
  have hatCount : OnlyReads machine atCount :=
    trans_of OnlyReads
      (trans_of OnlyReads (trans_of OnlyReads (onlyReads_of_fetch hfetch) (of_ok hopcode2))
        (trans_of OnlyReads (of_ok hmodrm) (of_ok hallowed)))
      (of_ok hcount)
  rw [v86Step_of_fetch hfetch] at hstep
  unfold v86Execute at hstep
  rw [if_pos hescape, bind_of_ok hopcode2, v86TwoByte_doubleShift hopcode] at hstep
  unfold v86ShldShrd at hstep
  rw [bind_of_ok hmodrm, bind_of_ok hallowed, bind_of_ok hcount] at hstep
  obtain ⟨hle, hstep⟩ := of_declineIf_bind hstep
  obtain ⟨_, shifted, hshifted, hadvance⟩ := bind_ok hstep
  cases hadvance
  rw [← hwidth, ← hshiftCount] at hle
  refine ⟨Nat.le_of_not_lt hle, fun hnone => ?_, fun hsome => ?_⟩
  · rw [hshiftCount] at hnone
    unfold onlyIf at hshifted
    rw [if_neg (not_not.mpr hnone)] at hshifted
    cases hshifted
    have hregisters := congrArg V86Cpu.registers hatCount.1
    have hflags := congrArg V86Cpu.flags hatCount.1
    exact ⟨⟨atCount, hatCount, rfl⟩, hregisters, hflags⟩
  · obtain ⟨ready, hread⟩ := hread hsome
    have hready : OnlyReads machine ready := trans_of OnlyReads hatCount (of_ok hread)
    rw [hshiftCount] at hsome
    unfold onlyIf at hshifted
    rw [if_pos hsome] at hshifted
    unfold v86DoubleShiftBy at hshifted
    rw [← hwidth, ← hshiftCount, ← hleft, bind_of_ok hread, getCpu_bind, hready.1, ← hsource,
      and_widthMask_of_lt (toNat_lt_of_v86ReadRm hread),
      and_widthMask_of_lt (by rw [hsource]; exact v86GetRegister_lt _ _ _)] at hshifted
    obtain ⟨_, stored, hstored, hflags⟩ := bind_ok hshifted
    cases hflags
    exact ⟨⟨ready, stored, hready, hstored, rfl, rfl⟩, shift.v86DoubleShiftFlags_hasFlags _⟩

end V86

section Pm32

/-- The step decodes a `SHLD` or a `SHRD`, and these are its operands. -/
def Pm32DoubleShifts (host : Pm32Host) (machine : Machine Pm32Cpu) (modrm : Pm32Modrm)
    (shift : DoubleShift) : Prop :=
  ∃ prefixed opcode2 count atEscape atModrm atOperand atCount allowed,
    pm32TakePrefixes host (x86PrefixesMax + 1) (pm32Bare machine.cpu) 0 machine =
        .ok prefixed atEscape ∧ prefixed.opcode = x86Escape ∧
      pm32CodeByte host prefixed.instruction prefixed.offset atEscape = .ok opcode2 atModrm ∧
      (opcode2 = pm32Op2ShldImm ∨ opcode2 = pm32Op2ShldCl ∨ opcode2 = pm32Op2ShrdImm ∨
        opcode2 = pm32Op2ShrdCl) ∧
      pm32Decode host prefixed.instruction (prefixed.offset + 1) atModrm =
        .ok modrm atOperand ∧
      pm32DoubleShiftCount host prefixed.instruction opcode2 (prefixed.offset + 1 + modrm.length)
        atOperand = .ok count atCount ∧
      pm32ProbeRm host modrm shift.width true atCount = .ok () allowed ∧
      (shift.count ≠ 0 → ∃ ready, pm32ReadRm host modrm shift.width allowed =
        .ok shift.destination ready) ∧
      shift.source = pm32GetRegister machine.cpu modrm.register shift.width ∧
      shift.isLeft = decide (opcode2 ≤ pm32Op2ShldCl) ∧
      shift.width = prefixed.instruction.operandSize ∧ shift.count = count.value

theorem pm32TwoByte_doubleShift {host : Pm32Host} {instruction : Pm32Instruction} {opcode2 : Byte}
    (hopcode : opcode2 = pm32Op2ShldImm ∨ opcode2 = pm32Op2ShldCl ∨ opcode2 = pm32Op2ShrdImm ∨
      opcode2 = pm32Op2ShrdCl) (offset : Nat) :
    pm32TwoByte host instruction opcode2 offset =
      pm32ShldShrd host instruction opcode2 offset := by
  rcases hopcode with rfl | rfl | rfl | rfl <;> rfl

theorem pm32OneByte_escape {host : Pm32Host} (instruction : Pm32Instruction) (offset : Nat) :
    pm32OneByte host instruction x86Escape offset = pm32Escape host instruction offset := rfl

theorem pm32Step_shiftsPair {host : Pm32Host} {machine after : Machine Pm32Cpu}
    {modrm : Pm32Modrm} {shift : DoubleShift}
    (hshifts : Pm32DoubleShifts host machine modrm shift)
    (hstep : pm32Step host machine = .ok () after) :
    (shift.count ≠ 0 → shift.count ≤ shift.width.bits) ∧
      ShiftsPair shift (pm32WriteRm modrm shift.width) registers flags machine
        after := by
  obtain ⟨prefixed, opcode2, count, atEscape, atModrm, atOperand, atCount, allowed, hfetch,
    hescape, hopcode2, hopcode, hmodrm, hcount, hallowed, hread, hsource, hleft, hwidth,
    hshiftCount⟩ := hshifts
  have hreads : OnlyReads machine allowed :=
    trans_of OnlyReads
      (trans_of OnlyReads (trans_of OnlyReads (of_ok hfetch) (of_ok hopcode2))
        (trans_of OnlyReads (of_ok hmodrm) (of_ok hcount)))
      (of_ok hallowed)
  unfold pm32Step at hstep
  rw [getCpu_bind, bind_of_ok hfetch, hescape, pm32OneByte_escape] at hstep
  unfold pm32Escape at hstep
  rw [bind_of_ok hopcode2, pm32TwoByte_doubleShift hopcode] at hstep
  unfold pm32ShldShrd at hstep
  rw [bind_of_ok hmodrm, bind_of_ok hcount, ← hwidth, bind_of_ok hallowed] at hstep
  obtain ⟨_, shifted, hshifted, hadvance⟩ := bind_ok hstep
  cases hadvance
  by_cases hsome : shift.count = 0
  · refine ⟨fun h => absurd hsome h, fun _ => ?_, fun h => absurd hsome h⟩
    rw [hshiftCount] at hsome
    unfold onlyIf at hshifted
    rw [if_neg (not_not.mpr hsome)] at hshifted
    cases hshifted
    have hregisters := congrArg registers hreads.1
    have hflags := congrArg flags hreads.1
    exact ⟨⟨allowed, hreads, rfl⟩, hregisters, hflags⟩
  · obtain ⟨ready, hread⟩ := hread hsome
    have hready : OnlyReads machine ready := trans_of OnlyReads hreads (of_ok hread)
    have hcountSome := hsome
    rw [hshiftCount] at hcountSome
    unfold onlyIf at hshifted
    rw [if_pos hcountSome] at hshifted
    unfold pm32DoubleShiftBy at hshifted
    rw [← hwidth, ← hshiftCount, ← hleft] at hshifted
    obtain ⟨hle, hshifted⟩ := of_declineIf_bind hshifted
    have hbits := Nat.le_of_not_lt hle
    obtain ⟨hvalue, hflags⟩ := shift.pm32DoubleShift_eq hbits ready.cpu.flags
    rw [bind_of_ok hread, getCpu_bind, congrArg pm32GetRegister hready.1, ← hsource, hvalue,
      hflags] at hshifted
    obtain ⟨_, stored, hstored, hset⟩ := bind_ok hshifted
    cases hset
    exact ⟨fun _ => hbits, fun h => absurd h hsome, fun _ =>
      ⟨⟨ready, stored, hready, hstored, rfl, rfl⟩, shift.pm32ShiftFlags_hasFlags _ _⟩⟩

end Pm32

/-!
## The two shift units agree

Group 2 and the double shifts of the 16-bit interpreter and of the 32-bit one.
-/

/-- CF, SF, ZF and PF are the same. -/
structure SameShiftFlags (flags flags' : Dword) : Prop where
  carry : hasFlag flags eflagsCf = hasFlag flags' eflagsCf
  sign : hasFlag flags eflagsSf = hasFlag flags' eflagsSf
  zero : hasFlag flags eflagsZf = hasFlag flags' eflagsZf
  parity : hasFlag flags eflagsPf = hasFlag flags' eflagsPf

/-- A shift or rotate by the count modulo 32 as it is defined on bit vectors.  By 0 it leaves its
operand and the flags. -/
structure IsShiftModulo (operation count : Nat) (width : Width) (value flags result flags' : Dword) :
    Prop where
  none : count % 32 = 0 → result = (lowBits width value).setWidth 32 ∧ flags' = flags
  some : count % 32 ≠ 0 → ∃ kind, shiftKind operation = some kind ∧
    IsShift kind (count % 32) width (lowBits width value) flags result flags'

/-! ## Group 2 -/

section Group2

variable {operation count : Nat} {width : Width} {value flags result flags' result' flags'' : Dword}

section

variable (h : IsShiftModulo operation count width value flags result flags')
    (h' : IsShiftModulo operation count width value flags result' flags'')

include h h'

theorem IsShiftModulo.result_eq : result = result' := by
  by_cases hcount : count % 32 = 0
  · exact (h.none hcount).1.trans (h'.none hcount).1.symm
  · obtain ⟨kind, hkind, hshift⟩ := h.some hcount
    obtain ⟨kind', hkind', hshift'⟩ := h'.some hcount
    obtain rfl := some.inj (hkind.symm.trans hkind')
    exact hshift.value.trans hshift'.value.symm

theorem IsShiftModulo.flags_eq :
    SameShiftFlags flags' flags'' ∧
      (count % 32 = 1 → hasFlag flags' eflagsOf = hasFlag flags'' eflagsOf) := by
  have hresult := h.result_eq h'
  by_cases hcount : count % 32 = 0
  · obtain rfl := (h.none hcount).2
    obtain rfl := (h'.none hcount).2
    exact ⟨⟨rfl, rfl, rfl, rfl⟩, fun _ => rfl⟩
  · obtain ⟨kind, hkind, hshift⟩ := h.some hcount
    obtain ⟨kind', hkind', hshift'⟩ := h'.some hcount
    obtain rfl := some.inj (hkind.symm.trans hkind')
    subst hresult
    refine ⟨⟨?_, ?_, ?_, ?_⟩, fun hone => ?_⟩
    · exact hshift.carry.trans hshift'.carry.symm
    · exact hshift.sign.trans hshift'.sign.symm
    · exact hshift.zero.trans hshift'.zero.symm
    · exact hshift.parity.trans hshift'.parity.symm
    · exact (hshift.overflow hone).trans (hshift'.overflow hone).symm

end

/-- What the 32-bit interpreter accepts is not through the carry. -/
theorem exists_kind_of_pm32Shift {result : Pm32Result} (hoperation : operation ≤ 7)
    (hcount : count % 32 ≠ 0) (hshift : pm32Shift flags operation value count width = some result) :
    ∃ kind, shiftKind operation = some kind := by
  have hcarry : operation ≠ x86ShiftRcl ∧ operation ≠ x86ShiftRcr := by
    unfold pm32Shift at hshift
    rw [if_neg hcount] at hshift
    constructor
    · rintro rfl
      cases hshift
    · rintro rfl
      cases hshift
  have hrcl : x86ShiftRcl = 2 := rfl
  have hrcr : x86ShiftRcr = 3 := rfl
  obtain rfl | rfl | rfl | rfl | rfl | rfl : operation = 0 ∨ operation = 1 ∨ operation = 4 ∨
      operation = 5 ∨ operation = 6 ∨ operation = 7 := by lia
  · exact ⟨.rotateLeft, rfl⟩
  · exact ⟨.rotateRight, rfl⟩
  · exact ⟨.left, rfl⟩
  · exact ⟨.right, rfl⟩
  · exact ⟨.left, rfl⟩
  · exact ⟨.arithmetic, rfl⟩

theorem pm32Shift_isShiftModulo {result : Pm32Result} (hoperation : operation ≤ 7)
    (hshift : pm32Shift flags operation value count width = some result) :
    IsShiftModulo operation count width value flags result.value result.flags := by
  refine ⟨fun hcount => ?_, fun hcount => ?_⟩
  · unfold pm32Shift at hshift
    rw [if_pos hcount, and_widthMask_eq] at hshift
    obtain rfl := some.inj hshift
    exact ⟨rfl, rfl⟩
  · obtain ⟨kind, hkind⟩ := exists_kind_of_pm32Shift hoperation hcount hshift
    exact ⟨kind, hkind, pm32Shift_isShift flags hcount hshift hkind⟩

theorem v86ShiftRotate_isShiftModulo {result : Pm32Result} (cpu : V86Cpu) (hoperation : operation ≤ 7)
    (hshift : pm32Shift cpu.flags operation value count width = some result) :
    let shifted := v86ShiftRotate cpu operation value count width
    IsShiftModulo operation count width value cpu.flags shifted.1 shifted.2.flags := by
  intro shifted
  refine ⟨fun hcount => ?_, fun hcount => ?_⟩
  · have hshifted : shifted = ((lowBits width value).setWidth 32, cpu) := by
      change v86ShiftRotate cpu operation value count width = _
      unfold v86ShiftRotate
      rw [if_pos hcount, and_widthMask_eq]
    rw [hshifted]
    exact ⟨rfl, rfl⟩
  · obtain ⟨kind, hkind⟩ := exists_kind_of_pm32Shift hoperation hcount hshift
    exact ⟨kind, hkind, v86ShiftRotate_isShift cpu value hkind hcount⟩

end Group2

theorem ShiftsPair.flags_eq {γ δ : Type} {shift : DoubleShift} {write : Dword → Interp γ Unit}
    {registersOf : γ → Nat → Dword} {flagsOf : γ → Dword} {machine after : Machine γ}
    {write' : Dword → Interp δ Unit} {registersOf' : δ → Nat → Dword} {flagsOf' : δ → Dword}
    {machine' after' : Machine δ}
    (h : ShiftsPair shift write registersOf flagsOf machine after)
    (h' : ShiftsPair shift write' registersOf' flagsOf' machine' after')
    (hflags : flagsOf machine.cpu = flagsOf' machine'.cpu) :
    SameShiftFlags (flagsOf after.cpu) (flagsOf' after'.cpu) := by
  by_cases hcount : shift.count = 0
  · obtain ⟨-, -, hkept⟩ := h.none hcount
    obtain ⟨-, -, hkept'⟩ := h'.none hcount
    rw [hkept, hkept', hflags]
    exact ⟨rfl, rfl, rfl, rfl⟩
  · obtain ⟨-, hset⟩ := h.some hcount
    obtain ⟨-, hset'⟩ := h'.some hcount
    refine ⟨?_, ?_, ?_, ?_⟩
    · exact hset.carry.trans hset'.carry.symm
    · exact hset.sign.trans hset'.sign.symm
    · exact hset.zero.trans hset'.zero.symm
    · exact hset.parity.trans hset'.parity.symm

/-- A shift or rotate that both units do has one result and the same flags, those of the bit
vectors, and so has a `SHLD` or a `SHRD` that both interpreters execute. -/
theorem shift_units_agree :
    (∀ (operation count : Nat) (width : Width) (value : Dword) (cpu : V86Cpu)
        (result : Pm32Result), operation ≤ 7 →
      pm32Shift cpu.flags operation value count width = some result →
      let shifted := v86ShiftRotate cpu operation value count width
      shifted.1 = result.value ∧ SameShiftFlags shifted.2.flags result.flags ∧
        (count % 32 = 1 →
          hasFlag shifted.2.flags eflagsOf = hasFlag result.flags eflagsOf) ∧
        IsShiftModulo operation count width value cpu.flags result.value result.flags) ∧
    ∀ (host : V86Host) (machine after : Machine V86Cpu) (modrm : V86Modrm) (host' : Pm32Host)
        (machine' after' : Machine Pm32Cpu) (modrm' : Pm32Modrm) (shift : DoubleShift),
      V86DoubleShifts host machine modrm shift → v86Step host machine = .ok () after →
      Pm32DoubleShifts host' machine' modrm' shift → pm32Step host' machine' = .ok () after' →
      machine.cpu.flags = machine'.cpu.flags →
      ShiftsPair shift (v86WriteRm modrm shift.width) V86Cpu.registers V86Cpu.flags machine
          after ∧
        ShiftsPair shift (pm32WriteRm modrm' shift.width) Pm32Cpu.registers Pm32Cpu.flags
          machine' after' ∧
        SameShiftFlags after.cpu.flags after'.cpu.flags := by
  refine ⟨fun operation count width value cpu result hoperation hshift => ?_,
    fun host machine after modrm host' machine' after' modrm' shift hshifts hstep hshifts' hstep'
      hflags => ?_⟩
  · have hpm32 := pm32Shift_isShiftModulo hoperation hshift
    have hv86 := v86ShiftRotate_isShiftModulo cpu hoperation hshift
    obtain ⟨hsame, hoverflow⟩ := hv86.flags_eq hpm32
    exact ⟨hv86.result_eq hpm32, hsame, hoverflow, hpm32⟩
  · obtain ⟨-, hpair⟩ := v86Step_shiftsPair hshifts hstep
    obtain ⟨-, hpair'⟩ := pm32Step_shiftsPair hshifts' hstep'
    exact ⟨hpair, hpair', hpair.flags_eq hpair' hflags⟩

/-! ## `SHLD DX, AX, 4` -/

def shldHost : V86Host where
  read8 _ := codeBytes [0x0F, 0xA4, 0xC2, 0x04]
  portIn _ _ _ := 0
  segmentToLinear := none
  selectorDescriptor := none

def shldHost32 : Pm32Host where
  read8 _ := codeBytes [0x66, 0x0F, 0xA4, 0xC2, 0x04]
  portIn _ _ _ := 0
  canAccess _ _ _ := true

/-- `AX` is B000h and `DX` 1234h. -/
def shldRegisters : Nat → Dword
  | 0 => 0xB000
  | 2 => 0x1234
  | _ => 0

def shldMachine : Machine V86Cpu where
  cpu := { clearedCpu with registers := shldRegisters }
  calls := []

def shldMachine32 : Machine Pm32Cpu where
  cpu := { registers := shldRegisters, eip := 0, flags := 0, segmentBases := fun _ => 0 }
  calls := []

def shldShift : DoubleShift where
  isLeft := true
  width := .word
  destination := 0x1234
  source := 0xB000
  count := 4

theorem shldMachine_shifts :
    V86DoubleShifts shldHost shldMachine (v86RegisterOperand 0xC2) shldShift :=
  ⟨_, _, _, _, _, _, _, _, rfl, rfl, rfl, Or.inl rfl, rfl, rfl, rfl, fun _ => ⟨_, rfl⟩, rfl, rfl,
    rfl, rfl⟩

theorem shldMachine32_shifts :
    Pm32DoubleShifts shldHost32 shldMachine32 (pm32RegisterOperand 0xC2) shldShift :=
  ⟨_, _, _, _, _, _, _, _, rfl, rfl, rfl, Or.inl rfl, rfl, rfl, rfl, fun _ => ⟨_, rfl⟩, rfl, rfl,
    rfl, rfl⟩

/-- Both units rotate a byte by 9 alike, and both interpreters shift `AX` into `DX` alike. -/
theorem shift_units_agree_shld :
    (pm32Shift 0 x86ShiftRol 0x81 9 .byte = some { value := 3, flags := 0x801 } ∧
      (v86ShiftRotate clearedCpu x86ShiftRol 0x81 9 .byte).1 = 3) ∧
    SameShiftFlags ((v86Step shldHost).after shldMachine).cpu.flags
      ((pm32Step shldHost32).after shldMachine32).cpu.flags := by
  have hrotated : pm32Shift clearedCpu.flags x86ShiftRol 0x81 9 .byte =
      some { value := 3, flags := 0x801 } := rfl
  have hgroup2 := shift_units_agree.1 x86ShiftRol 9 .byte 0x81 clearedCpu _ (by decide) hrotated
  have hdouble := shift_units_agree.2 shldHost shldMachine _ (v86RegisterOperand 0xC2) shldHost32
    shldMachine32 _ (pm32RegisterOperand 0xC2) shldShift shldMachine_shifts rfl
    shldMachine32_shifts rfl rfl
  exact ⟨⟨hrotated, hgroup2.1⟩, hdouble.2.2⟩

end Ntvdmex.Host
