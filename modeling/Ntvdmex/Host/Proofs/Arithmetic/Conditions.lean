import Ntvdmex.Foundation.CarryChain
import Ntvdmex.Host.Proofs.Arithmetic.Sums

/-!
# Comparisons and carry chains

The conditions after `CMP` compare the operands, and `ADC` and `SBB` carry sums and differences on
to the next limb.
-/

namespace Ntvdmex.Host

open Foundation V86 Pm32 List

/-! ## Comparisons -/

/-- What a condition says of the operands of a `CMP`. -/
def Compares (condition : Nat) (width : Width) (first second : Dword) : Prop :=
  match condition with
  | 0x0 => ¬FitsSigned width (signedOperand width first - signedOperand width second)
  | 0x1 => FitsSigned width (signedOperand width first - signedOperand width second)
  | 0x2 => unsignedOperand width first < unsignedOperand width second
  | 0x3 => unsignedOperand width second ≤ unsignedOperand width first
  | 0x4 => unsignedOperand width first = unsignedOperand width second
  | 0x5 => unsignedOperand width first ≠ unsignedOperand width second
  | 0x6 => unsignedOperand width first ≤ unsignedOperand width second
  | 0x7 => unsignedOperand width second < unsignedOperand width first
  | 0x8 => signedOperand width (first - second) < 0
  | 0x9 => 0 ≤ signedOperand width (first - second)
  | 0xA => IsEvenByte (first - second)
  | 0xB => ¬IsEvenByte (first - second)
  | 0xC => signedOperand width first < signedOperand width second
  | 0xD => signedOperand width second ≤ signedOperand width first
  | 0xE => signedOperand width first ≤ signedOperand width second
  | _ => signedOperand width second < signedOperand width first

section Comparison

variable {width : Width} {first second flags result flags' : Dword}

theorem signedOperand_neg_iff (width : Width) (value : Dword) :
    signedOperand width value < 0 ↔ 2 ^ (width.bits - 1) ≤ unsignedOperand width value := by
  have hlt := unsignedOperand_lt width value
  rw [two_pow_bits_eq] at hlt
  rw [signedOperand_eq_half]
  split_ifs <;> omega

theorem signedOperand_inj (width : Width) (first second : Dword) :
    signedOperand width first = signedOperand width second ↔
      unsignedOperand width first = unsignedOperand width second := by
  have hfirst := unsignedOperand_lt width first
  have hsecond := unsignedOperand_lt width second
  rw [two_pow_bits_eq] at hfirst hsecond
  rw [signedOperand_eq_half, signedOperand_eq_half]
  generalize 2 ^ (width.bits - 1) = half at *
  split_ifs <;> lia

section

variable (h : IsDifference width first second false flags result flags')

include h

/-- The result of a `CMP` is the low bytes of the difference. -/
theorem IsDifference.result_eq :
    result.toNat = unsignedOperand width (first - second) := by
  have hvalue := h.value
  have hdifference := toNat_difference first second false width first second rfl rfl
  rw [← hvalue, toNat_and_mask] at hdifference
  have hzero : first - second - (if false = true then (1 : Dword) else 0) = first - second :=
    BitVec.sub_zero _
  rw [hzero] at hdifference
  exact_mod_cast hdifference.symm

theorem IsDifference.below :
    hasFlag flags' eflagsCf = true ↔
      unsignedOperand width first < unsignedOperand width second := by
  have hcarry := h.carry
  rwa [Bool.toNat_false, Nat.add_zero] at hcarry

/-- The subtrahend and the difference add up to the minuend, perhaps past the range. -/
theorem IsDifference.reduced :
    result.toNat < 2 * 2 ^ (width.bits - 1) ∧
      unsignedOperand width first =
        if unsignedOperand width second + result.toNat < 2 * 2 ^ (width.bits - 1) then
          unsignedOperand width second + result.toNat
        else unsignedOperand width second + result.toNat - 2 * 2 ^ (width.bits - 1) := by
  have hsecond := unsignedOperand_lt width second
  have hresult := unsignedOperand_lt width (first - second)
  have hsum := minuend_eq_sum h.value
  rw [← h.result_eq] at hresult
  rw [unsignedOperand_of_lt hresult, Bool.toNat_false] at hsum
  rw [two_pow_bits_eq] at hsecond hresult hsum
  rw [sum_reduced hsecond hresult (Nat.zero_le 1), Nat.add_zero] at hsum
  exact ⟨hresult, hsum⟩

theorem IsDifference.equal :
    hasFlag flags' eflagsZf = true ↔
      unsignedOperand width first = unsignedOperand width second := by
  have hsecond := unsignedOperand_lt width second
  obtain ⟨hresult, hsum⟩ := h.reduced
  rw [h.zero, hsum]
  rw [two_pow_bits_eq] at hsecond
  generalize 2 ^ (width.bits - 1) = half at *
  clear hsum h
  split_ifs <;> lia

theorem IsDifference.outOfRange :
    hasFlag flags' eflagsOf = true ↔
      ¬FitsSigned width (signedOperand width first - signedOperand width second) := by
  have hoverflow := h.overflow
  simpa using hoverflow

theorem IsDifference.negative :
    hasFlag flags' eflagsSf = true ↔ signedOperand width (first - second) < 0 := by
  rw [signedOperand_neg_iff, ← h.result_eq]
  exact h.sign

theorem IsDifference.even :
    hasFlag flags' eflagsPf = true ↔ IsEvenByte (first - second) := by
  refine h.parity.trans ?_
  have hlow : ∀ bit < 8, result.getLsbD bit = (first - second).getLsbD bit := by
    intro bit hbit
    have hresult : result = (first - second) &&& widthMask width := by
      apply BitVec.eq_of_toNat_eq
      rw [h.result_eq, toNat_and_mask]
    have hbits : bit < width.bits := by
      revert hbit
      cases width <;> simp only [Width.bits, Width.bytes] <;> omega
    rw [hresult, getLsbD_and_widthMask width hbits]
  have hcount : (range 8).countP (result.getLsbD ·) =
      (range 8).countP ((first - second).getLsbD ·) := by
    apply countP_congr
    intro bit hbit
    rw [hlow bit (mem_range.mp hbit)]
  unfold IsEvenByte
  rw [hcount]

theorem IsDifference.less :
    (hasFlag flags' eflagsSf != hasFlag flags' eflagsOf) = true ↔
      signedOperand width first < signedOperand width second := by
  have hfirst := unsignedOperand_lt width first
  have hsecond := unsignedOperand_lt width second
  obtain ⟨hresult, hsum⟩ := h.reduced
  rw [bne_iff_ne, ne_eq, Bool.eq_iff_iff, h.sign, h.outOfRange, fitsSigned_iff,
    signedOperand_eq_half, signedOperand_eq_half]
  rw [two_pow_bits_eq] at hfirst hsecond
  generalize 2 ^ (width.bits - 1) = half at *
  clear h
  split_ifs at hsum ⊢ <;> omega

end

theorem hasFlag_or (value first second : Dword) :
    hasFlag value (first ||| second) = (hasFlag value first || hasFlag value second) := by
  have hzero : (value &&& first) ||| (value &&& second) = 0 ↔
      value &&& first = 0 ∧ value &&& second = 0 := BitVec.or_eq_zero_iff
  unfold hasFlag
  rw [BitVec.and_or_distrib_left, Bool.eq_iff_iff]
  simp only [Bool.or_eq_true, decide_eq_true_eq, ne_eq, hzero]
  tauto

/-- The flags of a `CMP`, as comparisons. -/
structure ComparisonFlags (width : Width) (first second flags' : Dword) : Prop where
  below : hasFlag flags' eflagsCf = true ↔
    unsignedOperand width first < unsignedOperand width second
  equal : hasFlag flags' eflagsZf = true ↔
    unsignedOperand width first = unsignedOperand width second
  outOfRange : hasFlag flags' eflagsOf = true ↔
    ¬FitsSigned width (signedOperand width first - signedOperand width second)
  negative : hasFlag flags' eflagsSf = true ↔ signedOperand width (first - second) < 0
  even : hasFlag flags' eflagsPf = true ↔ IsEvenByte (first - second)
  less : (hasFlag flags' eflagsSf != hasFlag flags' eflagsOf) = true ↔
    signedOperand width first < signedOperand width second

theorem IsDifference.comparison (h : IsDifference width first second false flags result flags') :
    ComparisonFlags width first second flags' :=
  ⟨h.below, h.equal, h.outOfRange, h.negative, h.even, h.less⟩

theorem not_eq_true_iff (b : Bool) (p : Prop) (h : b = true ↔ p) : (!b) = true ↔ ¬p := by
  rw [Bool.not_eq_true', ← Bool.not_eq_true, h]

theorem or_eq_true_iff (a b : Bool) (p q : Prop) (hp : a = true ↔ p) (hq : b = true ↔ q) :
    (a || b) = true ↔ p ∨ q := by
  rw [Bool.or_eq_true, hp, hq]

namespace ComparisonFlags

variable (h : ComparisonFlags width first second flags')
include h

theorem belowOrEqual :
    (hasFlag flags' eflagsCf || hasFlag flags' eflagsZf) = true ↔
      unsignedOperand width first ≤ unsignedOperand width second :=
  (or_eq_true_iff _ _ _ _ h.below h.equal).trans Nat.le_iff_lt_or_eq.symm

theorem lessOrEqual :
    (hasFlag flags' eflagsZf || (hasFlag flags' eflagsSf != hasFlag flags' eflagsOf)) = true ↔
      signedOperand width first ≤ signedOperand width second := by
  rw [or_eq_true_iff _ _ _ _ (h.equal.trans (signedOperand_inj width first second).symm) h.less,
    le_iff_lt_or_eq, or_comm]

/-- The sixteen conditions of the 32-bit interpreter. -/
theorem pm32Condition_iff (condition : Fin 16) :
    pm32Condition flags' condition = true ↔ Compares condition width first second := by
  have hor := hasFlag_or flags' eflagsCf eflagsZf
  unfold pm32Condition Compares
  rw [hor]
  fin_cases condition
  · exact h.outOfRange
  · exact (not_eq_true_iff _ _ h.outOfRange).trans not_not
  · exact h.below
  · exact (not_eq_true_iff _ _ h.below).trans not_lt
  · exact h.equal
  · exact not_eq_true_iff _ _ h.equal
  · exact h.belowOrEqual
  · exact (not_eq_true_iff _ _ h.belowOrEqual).trans not_le
  · exact h.negative
  · exact (not_eq_true_iff _ _ h.negative).trans not_lt
  · exact h.even
  · exact not_eq_true_iff _ _ h.even
  · exact h.less
  · exact (not_eq_true_iff _ _ h.less).trans not_lt
  · exact h.lessOrEqual
  · exact (not_eq_true_iff _ _ h.lessOrEqual).trans not_le

omit h in
/-- The two interpreters have the same conditions. -/
theorem v86Condition_eq (cpu : V86Cpu) (condition : Fin 16) :
    v86Condition cpu condition = pm32Condition cpu.flags condition := by
  unfold v86Condition pm32Condition
  rw [hasFlag_or]
  generalize hasFlag cpu.flags eflagsCf = carry
  generalize hasFlag cpu.flags eflagsZf = zero
  generalize hasFlag cpu.flags eflagsSf = sign
  generalize hasFlag cpu.flags eflagsOf = overflow
  generalize hasFlag cpu.flags eflagsPf = parity
  revert carry zero sign overflow parity condition
  decide

end ComparisonFlags

end Comparison

/-! ## Limbs -/

section Limbs

variable (width : Width)

/-- An operation of the 16-bit interpreter's arithmetic unit, as a step of a chain. -/
def v86Limb (operation : Nat) (cpu : V86Cpu) (first second : Dword) : Dword × V86Cpu :=
  v86Alu cpu operation first second width

/-- The same of the 32-bit interpreter. -/
def pm32Limb (operation : Nat) (flags first second : Dword) : Dword × Dword :=
  ((pm32Alu flags operation first second width).value,
    (pm32Alu flags operation first second width).flags)

def v86Carry (cpu : V86Cpu) : Bool := hasFlag cpu.flags eflagsCf

def pm32Carry (flags : Dword) : Bool := hasFlag flags eflagsCf

variable {width} {first second flags result flags' : Dword} {carryIn : Bool}

theorem IsSum.total (h : IsSum width first second carryIn flags result flags') :
    unsignedOperand width result + 2 ^ width.bits * (hasFlag flags' eflagsCf).toNat =
      unsignedOperand width first + unsignedOperand width second + carryIn.toNat := by
  have hfirst := unsignedOperand_lt width first
  have hsecond := unsignedOperand_lt width second
  have hone : carryIn.toNat ≤ 1 := Bool.toNat_le carryIn
  have hcarry := h.carry
  rw [unsignedOperand_eq_mod h.value]
  generalize unsignedOperand width first = a at *
  generalize unsignedOperand width second = b at *
  cases hflag : hasFlag flags' eflagsCf with
  | false =>
    rw [hflag] at hcarry
    have hlt : a + b + carryIn.toNat < 2 ^ width.bits :=
      Nat.lt_of_not_le fun hle => absurd (hcarry.mpr hle) (by decide)
    rw [Nat.mod_eq_of_lt hlt, Bool.toNat_false, Nat.mul_zero, Nat.add_zero]
  | true =>
    have hle := hcarry.mp hflag
    rw [Nat.mod_eq_sub_mod hle, Nat.mod_eq_of_lt (by omega), Bool.toNat_true, Nat.mul_one]
    omega

theorem IsDifference.total (h : IsDifference width first second carryIn flags result flags') :
    unsignedOperand width result + unsignedOperand width second + carryIn.toNat =
      unsignedOperand width first + 2 ^ width.bits * (hasFlag flags' eflagsCf).toNat := by
  have hfirst := unsignedOperand_lt width first
  have hsecond := unsignedOperand_lt width second
  have hone : carryIn.toNat ≤ 1 := Bool.toNat_le carryIn
  have hcarry := h.carry
  have hresult := unsignedOperand_lt width result
  have hsum := minuend_eq_sum h.value
  rw [two_pow_bits_eq] at hfirst hsecond hresult hsum ⊢
  rw [sum_reduced hsecond hresult hone] at hsum
  generalize 2 ^ (width.bits - 1) = half at *
  clear h
  cases hflag : hasFlag flags' eflagsCf with
  | false =>
    rw [hflag, Bool.false_eq_true, false_iff] at hcarry
    rw [Bool.toNat_false]
    split_ifs at hsum <;> lia
  | true =>
    rw [hflag, eq_self, true_iff] at hcarry
    rw [Bool.toNat_true]
    split_ifs at hsum <;> lia

theorem v86Limb_adds :
    AddsLimbs (2 ^ width.bits) (unsignedOperand width) v86Carry (v86Limb width x86AluAdd)
        (fun _ => false) ∧
      AddsLimbs (2 ^ width.bits) (unsignedOperand width) v86Carry (v86Limb width x86AluAdc)
        v86Carry :=
  ⟨fun cpu first second => (v86Add_isSum cpu first second false width).total,
    fun cpu first second =>
      (v86Add_isSum cpu first second (hasFlag cpu.flags eflagsCf) width).total⟩

theorem v86Limb_subtracts :
    SubtractsLimbs (2 ^ width.bits) (unsignedOperand width) v86Carry (v86Limb width x86AluSub)
        (fun _ => false) ∧
      SubtractsLimbs (2 ^ width.bits) (unsignedOperand width) v86Carry (v86Limb width x86AluSbb)
        v86Carry :=
  ⟨fun cpu first second => (v86Subtract_isDifference cpu first second false width).total,
    fun cpu first second =>
      (v86Subtract_isDifference cpu first second (hasFlag cpu.flags eflagsCf) width).total⟩

theorem pm32Limb_adds :
    AddsLimbs (2 ^ width.bits) (unsignedOperand width) pm32Carry (pm32Limb width x86AluAdd)
        (fun _ => false) ∧
      AddsLimbs (2 ^ width.bits) (unsignedOperand width) pm32Carry (pm32Limb width x86AluAdc)
        pm32Carry :=
  ⟨fun flags first second => (pm32Add_isSum flags first second false width).total,
    fun flags first second =>
      (pm32Add_isSum flags first second (hasFlag flags eflagsCf) width).total⟩

theorem pm32Limb_subtracts :
    SubtractsLimbs (2 ^ width.bits) (unsignedOperand width) pm32Carry (pm32Limb width x86AluSub)
        (fun _ => false) ∧
      SubtractsLimbs (2 ^ width.bits) (unsignedOperand width) pm32Carry (pm32Limb width x86AluSbb)
        pm32Carry :=
  ⟨fun flags first second => (pm32Subtract_isDifference flags first second false width).total,
    fun flags first second =>
      (pm32Subtract_isDifference flags first second (hasFlag flags eflagsCf) width).total⟩

end Limbs

/-- Sums and differences have the flags of the exact numbers and change no other part of the
processor; the conditions after `CMP` are comparisons of its operands; and chains of `ADD` and
`ADC`, or of `SUB` and `SBB`, compute exact sums and differences of any number of limbs. -/
theorem arithmetic_is_exact :
    (∀ (cpu : V86Cpu) (first second : Dword) (carryIn : Bool) (width : Width),
      let sum := v86Add cpu first second carryIn width
      let difference := v86Subtract cpu first second carryIn width
      IsSum width first second carryIn cpu.flags sum.1 sum.2.flags ∧
        sum.2 = { cpu with flags := sum.2.flags } ∧
        IsDifference width first second carryIn cpu.flags difference.1 difference.2.flags ∧
        difference.2 = { cpu with flags := difference.2.flags }) ∧
    (∀ (flags first second : Dword) (carryIn : Bool) (width : Width),
      let sum := pm32Add flags first second carryIn width
      let difference := pm32Subtract flags first second carryIn width
      IsSum width first second carryIn flags sum.value sum.flags ∧
        IsDifference width first second carryIn flags difference.value difference.flags) ∧
    (∀ (cpu : V86Cpu) (flags first second : Dword) (width : Width) (condition : Fin 16),
      (v86Condition (v86Alu cpu x86AluCmp first second width).2 condition = true ↔
        Compares condition width first second) ∧
      (pm32Condition (pm32Alu flags x86AluCmp first second width).flags condition = true ↔
        Compares condition width first second)) ∧
    ∀ (cpu : V86Cpu) (flags : Dword) (width : Width) (low : Dword × Dword)
      (rest : List (Dword × Dword)),
      let base := 2 ^ width.bits
      let number := limbsValue base (unsignedOperand width)
      let limbs := low :: rest
      (let sum := carryChain (v86Limb width x86AluAdd) (v86Limb width x86AluAdc) cpu low rest
       number sum.1 + base ^ limbs.length * (v86Carry sum.2).toNat =
        number (limbs.map Prod.fst) + number (limbs.map Prod.snd)) ∧
      (let sum := carryChain (pm32Limb width x86AluAdd) (pm32Limb width x86AluAdc) flags low rest
       number sum.1 + base ^ limbs.length * (pm32Carry sum.2).toNat =
        number (limbs.map Prod.fst) + number (limbs.map Prod.snd)) ∧
      (let difference :=
        carryChain (v86Limb width x86AluSub) (v86Limb width x86AluSbb) cpu low rest
       number difference.1 + number (limbs.map Prod.snd) =
        number (limbs.map Prod.fst) + base ^ limbs.length * (v86Carry difference.2).toNat) ∧
      (let difference :=
        carryChain (pm32Limb width x86AluSub) (pm32Limb width x86AluSbb) flags low rest
       number difference.1 + number (limbs.map Prod.snd) =
        number (limbs.map Prod.fst) + base ^ limbs.length * (pm32Carry difference.2).toNat) := by
  refine ⟨?_, ?_, ?_, ?_⟩
  · intro cpu first second carryIn width
    exact ⟨v86Add_isSum cpu first second carryIn width, rfl,
      v86Subtract_isDifference cpu first second carryIn width, rfl⟩
  · intro flags first second carryIn width
    exact ⟨pm32Add_isSum flags first second carryIn width,
      pm32Subtract_isDifference flags first second carryIn width⟩
  · intro cpu flags first second width condition
    have hv86 := v86Subtract_isDifference cpu first second false width
    have hpm32 := pm32Subtract_isDifference flags first second false width
    exact ⟨by rw [ComparisonFlags.v86Condition_eq]; exact hv86.comparison.pm32Condition_iff condition,
      hpm32.comparison.pm32Condition_iff condition⟩
  · intro cpu flags width low rest
    exact ⟨carryChain_adds v86Limb_adds.1 v86Limb_adds.2 cpu low rest,
      carryChain_adds pm32Limb_adds.1 pm32Limb_adds.2 flags low rest,
      carryChain_subtracts v86Limb_subtracts.1 v86Limb_subtracts.2 cpu low rest,
      carryChain_subtracts pm32Limb_subtracts.1 pm32Limb_subtracts.2 flags low rest⟩

end Ntvdmex.Host
