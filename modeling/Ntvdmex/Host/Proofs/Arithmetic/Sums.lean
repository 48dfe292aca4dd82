import Ntvdmex.Host.Pm32.Cpu
import Ntvdmex.Host.Proofs.Division.Exact

/-!
# The arithmetic flags of sums and differences

What each flag of a sum or a difference is to say, and the flag words that both interpreters build.
-/

namespace Ntvdmex.Host

open Foundation BitVec Nat Bool List Pm32 Width V86

variable (value : Dword)

theorem hasFlag_bit (flag : Dword) (bit : Nat) (hflag : flag = twoPow 32 bit)
    (hbit : bit < 32) : hasFlag value flag = value.getLsbD bit := by
  unfold hasFlag
  rw [hflag, and_twoPow]
  cases value.getLsbD bit with
  | false => simp
  | true =>
    rw [if_pos rfl, decide_eq_true_eq]
    intro h
    have hgetLsbD := congrArg (fun word => word.getLsbD bit) h
    simp [hbit] at hgetLsbD

def signPosition (width : Width) : Nat := width.bits - 1

theorem hasFlag_widthSignBit (width : Width) :
    hasFlag value (widthSignBit width) = value.getLsbD (signPosition width) := by
  cases width with
  | byte => exact hasFlag_bit value _ 7 rfl (by decide)
  | word => exact hasFlag_bit value _ 15 rfl (by decide)
  | dword => exact hasFlag_bit value _ 31 rfl (by decide)

theorem getLsbD_flagIf (c : Bool) (flag : Dword) (bit : Nat) :
    (flagIf c flag).getLsbD bit = (c && flag.getLsbD bit) := by
  cases c <;> simp [flagIf]

/-! ## A word of flags -/

/-- The six flags of a result. -/
structure ArithmeticFlags where
  carry : Bool
  parity : Bool
  auxiliary : Bool
  zero : Bool
  sign : Bool
  overflow : Bool

open ArithmeticFlags

namespace ArithmeticFlags

variable (f : ArithmeticFlags) (flags : Dword)

/-- The six flags in a word, the other bits from the old one. -/
def on : Dword :=
  flags &&& ~~~arithmeticFlags ||| flagIf f.carry eflagsCf ||| flagIf f.parity eflagsPf |||
    flagIf f.auxiliary eflagsAf ||| flagIf f.zero eflagsZf ||| flagIf f.sign eflagsSf |||
    flagIf f.overflow eflagsOf

theorem getLsbD_on (bit : Nat) (hbit : (~~~arithmeticFlags).getLsbD bit = false) :
    (f.on flags).getLsbD bit =
      (f.carry && eflagsCf.getLsbD bit || f.parity && eflagsPf.getLsbD bit ||
        f.auxiliary && eflagsAf.getLsbD bit || f.zero && eflagsZf.getLsbD bit ||
        f.sign && eflagsSf.getLsbD bit || f.overflow && eflagsOf.getLsbD bit) := by
  simp only [on, getLsbD_or, getLsbD_and, getLsbD_flagIf, hbit, Bool.and_false,
    Bool.false_or]

theorem hasFlag_on_carry : hasFlag (f.on flags) eflagsCf = f.carry := by
  rw [hasFlag_bit _ eflagsCf 0 rfl (by decide), getLsbD_on _ _ _ (by decide)]
  simp [eflagsCf, eflagsPf, eflagsAf, eflagsZf, eflagsSf, eflagsOf]

theorem hasFlag_on_parity : hasFlag (f.on flags) eflagsPf = f.parity := by
  rw [hasFlag_bit _ eflagsPf 2 rfl (by decide), getLsbD_on _ _ _ (by decide)]
  simp [eflagsCf, eflagsPf, eflagsAf, eflagsZf, eflagsSf, eflagsOf]

theorem hasFlag_on_auxiliary : hasFlag (f.on flags) eflagsAf = f.auxiliary := by
  rw [hasFlag_bit _ eflagsAf 4 rfl (by decide), getLsbD_on _ _ _ (by decide)]
  simp [eflagsCf, eflagsPf, eflagsAf, eflagsZf, eflagsSf, eflagsOf]

theorem hasFlag_on_zero : hasFlag (f.on flags) eflagsZf = f.zero := by
  rw [hasFlag_bit _ eflagsZf 6 rfl (by decide), getLsbD_on _ _ _ (by decide)]
  simp [eflagsCf, eflagsPf, eflagsAf, eflagsZf, eflagsSf, eflagsOf]

theorem hasFlag_on_sign : hasFlag (f.on flags) eflagsSf = f.sign := by
  rw [hasFlag_bit _ eflagsSf 7 rfl (by decide), getLsbD_on _ _ _ (by decide)]
  simp [eflagsCf, eflagsPf, eflagsAf, eflagsZf, eflagsSf, eflagsOf]

theorem hasFlag_on_overflow : hasFlag (f.on flags) eflagsOf = f.overflow := by
  rw [hasFlag_bit _ eflagsOf 11 rfl (by decide), getLsbD_on _ _ _ (by decide)]
  simp [eflagsCf, eflagsPf, eflagsAf, eflagsZf, eflagsSf, eflagsOf]

theorem on_others : f.on flags &&& ~~~arithmeticFlags = flags &&& ~~~arithmeticFlags := by
  apply eq_of_getLsbD_eq
  intro bit hbit
  rw [getLsbD_and, getLsbD_and]
  cases hmask : (~~~arithmeticFlags).getLsbD bit with
  | false => rw [Bool.and_false, Bool.and_false]
  | true =>
    have hclear : ∀ flag : Dword, flag &&& ~~~arithmeticFlags = 0 → flag.getLsbD bit = false := by
      intro flag hflag
      have hgetLsbD := congrArg (fun word => word.getLsbD bit) hflag
      simpa [hmask] using hgetLsbD
    simp only [on, getLsbD_or, getLsbD_and, getLsbD_flagIf, hmask,
      hclear eflagsCf (by decide), hclear eflagsPf (by decide), hclear eflagsAf (by decide),
      hclear eflagsZf (by decide), hclear eflagsSf (by decide), hclear eflagsOf (by decide),
      Bool.and_false, Bool.and_true, Bool.or_false]

end ArithmeticFlags

/-- An even number of the low eight bits are set. -/
def IsEvenByte (value : Dword) : Prop := (List.range 8).countP (value.getLsbD ·) % 2 = 0
deriving Decidable

theorem isEvenByte_setWidth : IsEvenByte ((value.setWidth 8).setWidth 32) ↔ IsEvenByte value := by
  unfold IsEvenByte
  have hcount : (range 8).countP (((value.setWidth 8).setWidth 32).getLsbD ·) =
      (range 8).countP (value.getLsbD ·) := by
    apply countP_congr
    intro bit hbit
    have hlt : bit < 8 := mem_range.mp hbit
    simp [hlt]
    omega
  rw [hcount]

theorem v86Parity_eq : v86Parity (value.setWidth 8) = decide (IsEvenByte value) := by
  have hbyte : ∀ low : Byte, v86Parity low = decide (IsEvenByte (low.setWidth 32)) := by
    decide
  rw [hbyte]
  exact decide_eq_decide.mpr (isEvenByte_setWidth value)

theorem pm32Parity_eq : pm32Parity value = decide (IsEvenByte value) := by
  have hbyte : ∀ low : Byte,
      pm32Parity (low.setWidth 32) = decide (IsEvenByte (low.setWidth 32)) := by
    decide
  have hlow : pm32Parity value = pm32Parity ((value.setWidth 8).setWidth 32) := by
    have hmask : value &&& 0xFF = (value.setWidth 8).setWidth 32 &&& 0xFF := by
      apply eq_of_getLsbD_eq
      intro i hi
      interval_cases i <;> simp
    unfold pm32Parity
    rw [hmask]
  rw [hlow, hbyte]
  exact decide_eq_decide.mpr (isEvenByte_setWidth value)

/-!
## Sums and differences

`ADD`, `ADC`, `SUB`, `SBB` and `CMP` of both interpreters compute the sum or the difference
modulo the operand's width, and six flags that say how it compares with the exact one.
-/

/-! ## The numbers -/

def unsignedOperand (width : Width) (value : Dword) : Nat := value.toNat % 2 ^ width.bits

/-- The same as a number in two's complement. -/
def signedOperand (width : Width) (value : Dword) : Int := operandValue true width value

def FitsSigned (width : Width) (number : Int) : Prop :=
  -2 ^ (width.bits - 1) ≤ number ∧ number < 2 ^ (width.bits - 1)
deriving Decidable

/-- ZF, SF and PF of a result, and the flags that are none of the six. -/
structure IsResult (width : Width) (flags result flags' : Dword) : Prop where
  zero : hasFlag flags' eflagsZf = true ↔ result.toNat = 0
  sign : hasFlag flags' eflagsSf = true ↔ 2 ^ (width.bits - 1) ≤ result.toNat
  parity : hasFlag flags' eflagsPf = true ↔ IsEvenByte result
  others : flags' &&& ~~~arithmeticFlags = flags &&& ~~~arithmeticFlags

/-- The sum of two operands and a carry, and its flags. -/
structure IsSum (width : Width) (first second : Dword) (carryIn : Bool)
    (flags result flags' : Dword) : Prop extends IsResult width flags result flags' where
  value : result.toNat =
    (unsignedOperand width first + unsignedOperand width second + carryIn.toNat) % 2 ^ width.bits
  carry : hasFlag flags' eflagsCf = true ↔
    2 ^ width.bits ≤ unsignedOperand width first + unsignedOperand width second + carryIn.toNat
  auxiliary : hasFlag flags' eflagsAf = true ↔
    16 ≤ first.toNat % 16 + second.toNat % 16 + carryIn.toNat
  overflow : hasFlag flags' eflagsOf = true ↔
    ¬FitsSigned width (signedOperand width first + signedOperand width second + carryIn.toNat)

/-- The difference of two operands less a borrow, and its flags. -/
structure IsDifference (width : Width) (first second : Dword) (borrowIn : Bool)
    (flags result flags' : Dword) : Prop extends IsResult width flags result flags' where
  value : (result.toNat : Int) =
    ((unsignedOperand width first : Int) - unsignedOperand width second - borrowIn.toNat) %
      2 ^ width.bits
  carry : hasFlag flags' eflagsCf = true ↔
    unsignedOperand width first < unsignedOperand width second + borrowIn.toNat
  auxiliary : hasFlag flags' eflagsAf = true ↔
    first.toNat % 16 < second.toNat % 16 + borrowIn.toNat
  overflow : hasFlag flags' eflagsOf = true ↔
    ¬FitsSigned width (signedOperand width first - signedOperand width second - borrowIn.toNat)

theorem getLsbD_iff_div (value : Dword) (bit : Nat) :
    value.getLsbD bit = true ↔ value.toNat / 2 ^ bit % 2 = 1 := by
  rw [← testBit_toNat, testBit_eq_decide_div_mod_eq, decide_eq_true_eq]

theorem toNat_and_mask (value : Dword) (width : Width) :
    (value &&& widthMask width).toNat = unsignedOperand width value := by
  rw [toNat_and_widthMask, toNat_setWidth]
  rfl

theorem unsignedOperand_lt (width : Width) (value : Dword) :
    unsignedOperand width value < 2 ^ width.bits :=
  mod_lt _ (Nat.two_pow_pos _)

theorem unsignedOperand_of_lt {width : Width} {value : Dword}
    (h : value.toNat < 2 ^ width.bits) : unsignedOperand width value = value.toNat :=
  mod_eq_of_lt h

theorem signedOperand_eq (width : Width) (value : Dword) :
    signedOperand width value =
      if 2 * unsignedOperand width value < 2 ^ width.bits then
        (unsignedOperand width value : Int)
      else unsignedOperand width value - 2 ^ width.bits := by
  have htoNat : (value.setWidth width.bits).toNat = unsignedOperand width value :=
    toNat_setWidth _ _
  unfold signedOperand operandValue
  rw [if_pos rfl, toInt_eq_toNat_cond, htoNat]
  norm_num

/-! ## The flags from the bits -/

/-- The flags as the interpreters compute them: by the carry, and by bits of the operands and the
result. -/
def bitFlags (width : Width) (carry : Bool) (sides overflows result : Dword) :
    ArithmeticFlags where
  carry
  parity := IsEvenByte result
  auxiliary := sides.getLsbD 4
  zero := result = 0
  sign := result.getLsbD (signPosition width)
  overflow := overflows.getLsbD (signPosition width)

theorem resultFlags_or (width : Width) (carry : Bool) (sides overflows result flags : Dword) :
    flags &&& ~~~arithmeticFlags ||| flagIf carry eflagsCf |||
        flagIf (hasFlag sides eflagsAf) eflagsAf ||| resultFlags result width |||
        flagIf (hasFlag overflows (widthSignBit width)) eflagsOf =
      (bitFlags width carry sides overflows result).on flags := by
  unfold resultFlags bitFlags on
  rw [v86Parity_eq, hasFlag_widthSignBit, hasFlag_widthSignBit,
    hasFlag_bit sides eflagsAf 4 rfl (by decide)]
  dsimp only
  ac_rfl

theorem and_widthMask_self {width : Width} {result : Dword} (h : result.toNat < 2 ^ width.bits) :
    result &&& widthMask width = result := by
  apply eq_of_toNat_eq
  rw [toNat_and_mask, unsignedOperand_of_lt h]

theorem pm32SzpFlags_or {width : Width} {result : Dword} (h : result.toNat < 2 ^ width.bits)
    (carry : Bool) (sides overflows flags : Dword) :
    flags &&& ~~~arithmeticFlags ||| pm32SzpFlags result width ||| flagIf carry eflagsCf |||
        flagIf (hasFlag sides pm32AuxiliaryBit) eflagsAf |||
        flagIf (hasFlag overflows (widthSignBit width)) eflagsOf =
      (bitFlags width carry sides overflows result).on flags := by
  unfold pm32SzpFlags bitFlags on
  dsimp only
  rw [and_widthMask_self h, pm32Parity_eq, hasFlag_widthSignBit, hasFlag_widthSignBit,
    hasFlag_bit sides pm32AuxiliaryBit 4 rfl (by decide)]
  ac_rfl

section Results

variable {width : Width} {first second result sides overflows : Dword} {carryIn carry : Bool}

theorem isResult_on (hlt : result.toNat < 2 ^ width.bits) (flags : Dword) :
    IsResult width flags result ((bitFlags width carry sides overflows result).on flags) where
  zero := by
    rw [hasFlag_on_zero]
    exact decide_eq_true_iff.trans ⟨fun h => by rw [h]; rfl, fun h => eq_of_toNat_eq h⟩
  sign := by
    rw [hasFlag_on_sign]
    refine (getLsbD_iff_div result _).trans ?_
    revert hlt
    cases width <;> simp only [signPosition, Width.bits, bytes] <;> omega
  parity := by
    rw [hasFlag_on_parity]
    exact decide_eq_true_iff
  others := on_others _ flags

/-- The bit where two operands and their sum or difference meet is the carry into it. -/
theorem getLsbD_xor_iff (first second result : Dword) (bit : Nat) :
    (first ^^^ second ^^^ result).getLsbD bit = true ↔
      (first.toNat / 2 ^ bit + second.toNat / 2 ^ bit + result.toNat / 2 ^ bit) % 2 = 1 := by
  have hodd : ∀ value : Dword, value.toNat / 2 ^ bit % 2 = (value.getLsbD bit).toNat := by
    intro value
    rw [← testBit_toNat, toNat_testBit]
  rw [getLsbD_xor, getLsbD_xor, add_mod, add_mod (_ / _) (_ / _), hodd, hodd,
    hodd]
  cases first.getLsbD bit <;> cases second.getLsbD bit <;> cases result.getLsbD bit <;> decide

theorem thirtyTwo_dvd (width : Width) : 32 ∣ 2 ^ width.bits :=
  pow_dvd_pow 2 (by cases width <;> decide : 5 ≤ width.bits)

theorem two_pow_bits_dvd (width : Width) : 2 ^ width.bits ∣ 2 ^ 32 :=
  pow_dvd_pow 2 (by cases width <;> decide)

theorem two_pow_bits_eq (width : Width) : 2 ^ width.bits = 2 * 2 ^ (width.bits - 1) := by
  cases width <;> rfl

theorem unsignedOperand_eq_mod {number : Nat} (hvalue : result.toNat = number % 2 ^ width.bits) :
    unsignedOperand width result = number % 2 ^ width.bits := by
  unfold unsignedOperand
  rw [hvalue, mod_mod]

/-- A minuend is the sum of the difference and what was taken away. -/
theorem minuend_eq_sum
    (hvalue : (result.toNat : Int) =
      ((unsignedOperand width first : Int) - unsignedOperand width second - carryIn.toNat) %
        2 ^ width.bits) :
    unsignedOperand width first =
      (unsignedOperand width second + unsignedOperand width result + carryIn.toNat) %
        2 ^ width.bits := by
  have hfirst := mod_eq_of_lt (unsignedOperand_lt width first)
  have hresult : (unsignedOperand width result : Int) =
      ((unsignedOperand width first : Int) - unsignedOperand width second - carryIn.toNat) %
        2 ^ width.bits := by
    unfold unsignedOperand at hvalue ⊢
    push_cast at hvalue ⊢
    rw [hvalue, Int.emod_emod_of_dvd _ dvd_rfl]
  zify at hfirst ⊢
  rw [hresult, add_right_comm, Int.add_emod_emod, ← hfirst]
  congr 1
  rw [hfirst]
  ring

theorem sum_mod
    (hvalue : unsignedOperand width result =
      (unsignedOperand width first + unsignedOperand width second + carryIn.toNat) %
        2 ^ width.bits) :
    result.toNat % 32 = (first.toNat + second.toNat + carryIn.toNat) % 32 := by
  have hmod : ∀ value, unsignedOperand width value % 32 = value.toNat % 32 :=
    fun _ => mod_mod_of_dvd _ (thirtyTwo_dvd width)
  rw [← hmod, hvalue, mod_mod_of_dvd _ (thirtyTwo_dvd width), add_mod, add_mod (_ + _),
    add_mod (unsignedOperand _ _), add_mod first.toNat, hmod, hmod]

/-- What comes out of the low nibble of a sum shows in the lowest bits above it. -/
theorem odd_iff_carry {first second result : Nat} (hcarry : carryIn.toNat ≤ 1)
    (hlow : result % 32 = (first + second + carryIn.toNat) % 32) :
    (first / 16 + second / 16 + result / 16) % 2 = 1 ↔
      16 ≤ first % 16 + second % 16 + carryIn.toNat := by
  have hnibbles : first % 16 + second % 16 + carryIn.toNat < 32 := by omega
  have hsum : first + second + carryIn.toNat =
      16 * (first / 16 + second / 16) + (first % 16 + second % 16 + carryIn.toNat) := by
    omega
  rw [hsum] at hlow
  generalize first / 16 + second / 16 = high at *
  generalize first % 16 + second % 16 + carryIn.toNat = nibbles at *
  clear hsum hcarry
  omega

theorem borrow_from_nibble_difference
    (hvalue : unsignedOperand width first =
      (unsignedOperand width second + unsignedOperand width result + carryIn.toNat) %
        2 ^ width.bits) :
    (first.toNat / 16 + second.toNat / 16 + result.toNat / 16) % 2 = 1 ↔
      first.toNat % 16 < second.toNat % 16 + carryIn.toNat := by
  have hcarry := toNat_le carryIn
  have hlow := sum_mod hvalue
  have hnibble : first.toNat % 16 = (second.toNat % 16 + result.toNat % 16 + carryIn.toNat) % 16 := by
    have hmod := congrArg (· % 16) hlow
    simp only [mod_mod_of_dvd _ (by decide : 16 ∣ 32)] at hmod
    rw [hmod, add_mod, add_mod second.toNat, ← add_mod]
  have hresult := mod_lt result.toNat (by decide : 0 < 16)
  rw [Nat.add_assoc, Nat.add_comm, odd_iff_carry hcarry hlow, hnibble]
  generalize second.toNat % 16 = low at *
  generalize result.toNat % 16 = low' at *
  clear hnibble hlow hvalue
  omega

/-- Whether a number is negative in two's complement. -/
theorem sign_iff (width : Width) (value : Dword) :
    value.getLsbD (signPosition width) = true ↔
      2 ^ (width.bits - 1) ≤ unsignedOperand width value := by
  refine (getLsbD_iff_div value _).trans ?_
  unfold unsignedOperand
  cases width <;> simp only [signPosition, Width.bits, bytes] <;> omega

theorem sum_reduced {half a b c : Nat} (ha : a < 2 * half) (hb : b < 2 * half) (hc : c ≤ 1) :
    (a + b + c) % (2 * half) =
      if a + b + c < 2 * half then a + b + c else a + b + c - 2 * half := by
  split_ifs with h
  · exact mod_eq_of_lt h
  · rw [mod_eq_sub_mod (Nat.le_of_not_lt h), mod_eq_of_lt (by omega)]

theorem signedOperand_eq_half (width : Width) (value : Dword) :
    signedOperand width value =
      if unsignedOperand width value < 2 ^ (width.bits - 1) then
        (unsignedOperand width value : Int)
      else unsignedOperand width value - 2 * (2 ^ (width.bits - 1) : Nat) := by
  rw [signedOperand_eq, two_pow_bits_eq]
  have hpow : (2 : Int) ^ width.bits = 2 * (2 ^ (width.bits - 1) : Nat) := by
    exact_mod_cast two_pow_bits_eq width
  rw [hpow]
  exact if_congr (by omega) rfl rfl

theorem fitsSigned_iff (width : Width) (number : Int) :
    FitsSigned width number ↔
      -(2 ^ (width.bits - 1) : Nat) ≤ number ∧ number < (2 ^ (width.bits - 1) : Nat) := by
  push_cast
  rfl

theorem sum_overflows_iff
    (hvalue : unsignedOperand width result =
      (unsignedOperand width first + unsignedOperand width second + carryIn.toNat) %
        2 ^ width.bits) :
    (~~~(first ^^^ second) &&& (first ^^^ result)).getLsbD (signPosition width) = true ↔
      ¬FitsSigned width (signedOperand width first + signedOperand width second +
        carryIn.toNat) := by
  have hcarry := toNat_le carryIn
  have hposition : signPosition width < 32 := by cases width <;> decide
  have hbits : ∀ x y z : Bool, (!(x ^^ y) && (x ^^ z)) = true ↔
      ((x = true ↔ y = true) ∧ ¬(x = true ↔ z = true)) := by decide
  have hfirstLt := unsignedOperand_lt width first
  have hsecondLt := unsignedOperand_lt width second
  rw [getLsbD_and, getLsbD_not, getLsbD_xor, getLsbD_xor,
    decide_eq_true hposition, Bool.true_and, hbits, sign_iff, sign_iff, sign_iff,
    fitsSigned_iff, signedOperand_eq_half, signedOperand_eq_half]
  rw [two_pow_bits_eq] at hfirstLt hsecondLt hvalue
  rw [sum_reduced hfirstLt hsecondLt hcarry] at hvalue
  generalize 2 ^ (width.bits - 1) = half at *
  clear hbits
  split_ifs at hvalue ⊢ <;> omega

theorem difference_overflows_iff
    (hvalue : unsignedOperand width first =
      (unsignedOperand width second + unsignedOperand width result + carryIn.toNat) %
        2 ^ width.bits) :
    ((first ^^^ second) &&& (first ^^^ result)).getLsbD (signPosition width) = true ↔
      ¬FitsSigned width (signedOperand width first - signedOperand width second -
        carryIn.toNat) := by
  have hcarry := toNat_le carryIn
  have hbits : ∀ x y z : Bool, ((x ^^ y) && (x ^^ z)) = true ↔
      (¬(x = true ↔ y = true) ∧ ¬(x = true ↔ z = true)) := by decide
  have hsecondLt := unsignedOperand_lt width second
  have hresultLt := unsignedOperand_lt width result
  rw [getLsbD_and, getLsbD_xor, getLsbD_xor, hbits, sign_iff, sign_iff,
    sign_iff, fitsSigned_iff, signedOperand_eq_half, signedOperand_eq_half]
  rw [two_pow_bits_eq] at hsecondLt hresultLt hvalue
  rw [sum_reduced hsecondLt hresultLt hcarry] at hvalue
  generalize 2 ^ (width.bits - 1) = half at *
  clear hbits
  split_ifs at hvalue ⊢ <;> omega

theorem isSum_on
    (hvalue : result.toNat =
      (unsignedOperand width first + unsignedOperand width second + carryIn.toNat) %
        2 ^ width.bits)
    (hcarry : carry = true ↔
      2 ^ width.bits ≤ unsignedOperand width first + unsignedOperand width second + carryIn.toNat)
    (hsides : sides.getLsbD 4 = (first ^^^ second ^^^ result).getLsbD 4)
    (hoverflows : overflows.getLsbD (signPosition width) =
      (~~~(first ^^^ second) &&& (first ^^^ result)).getLsbD (signPosition width))
    (flags : Dword) :
    IsSum width first second carryIn flags result
      ((bitFlags width carry sides overflows result).on flags) where
  toIsResult := isResult_on (by rw [hvalue]; exact mod_lt _ (Nat.two_pow_pos _)) flags
  value := hvalue
  carry := by
    rw [hasFlag_on_carry]
    exact hcarry
  auxiliary := by
    rw [hasFlag_on_auxiliary]
    exact ((iff_of_eq (congrArg (· = true) hsides)).trans
      (getLsbD_xor_iff first second result 4)).trans (odd_iff_carry (toNat_le carryIn) (sum_mod (unsignedOperand_eq_mod hvalue)))
  overflow := by
    rw [hasFlag_on_overflow]
    exact (iff_of_eq (congrArg (· = true) hoverflows)).trans (sum_overflows_iff (unsignedOperand_eq_mod hvalue))

theorem isDifference_on
    (hvalue : (result.toNat : Int) =
      ((unsignedOperand width first : Int) - unsignedOperand width second - carryIn.toNat) %
        2 ^ width.bits)
    (hcarry : carry = true ↔
      unsignedOperand width first < unsignedOperand width second + carryIn.toNat)
    (hsides : sides.getLsbD 4 = (first ^^^ second ^^^ result).getLsbD 4)
    (hoverflows : overflows.getLsbD (signPosition width) =
      ((first ^^^ second) &&& (first ^^^ result)).getLsbD (signPosition width))
    (flags : Dword) :
    IsDifference width first second carryIn flags result
      ((bitFlags width carry sides overflows result).on flags) where
  toIsResult := by
    apply isResult_on
    have hlt := Int.emod_lt_of_pos ((unsignedOperand width first : Int) -
      unsignedOperand width second - carryIn.toNat) (b := 2 ^ width.bits) (by positivity)
    rw [← hvalue] at hlt
    exact_mod_cast hlt
  value := hvalue
  carry := by
    rw [hasFlag_on_carry]
    exact hcarry
  auxiliary := by
    rw [hasFlag_on_auxiliary]
    exact ((iff_of_eq (congrArg (· = true) hsides)).trans
      (getLsbD_xor_iff first second result 4)).trans
      (borrow_from_nibble_difference (minuend_eq_sum hvalue))
  overflow := by
    rw [hasFlag_on_overflow]
    exact (iff_of_eq (congrArg (· = true) hoverflows)).trans (difference_overflows_iff (minuend_eq_sum hvalue))

end Results

/-! ## The 16-bit interpreter -/

section V86

open V86

variable (cpu : V86Cpu) (first second : Dword) (carryIn : Bool) (width : Width)

theorem getLsbD_and_widthMask {bit : Nat} (hbit : bit < width.bits) (value : Dword) :
    (value &&& widthMask width).getLsbD bit = value.getLsbD bit := by
  have hmask : (widthMask width).getLsbD bit = true := by
    cases width <;> simp only [Width.bits, bytes] at hbit <;> interval_cases bit <;> rfl
  rw [getLsbD_and, hmask, Bool.and_true]

theorem four_lt_bits : 4 < width.bits := by cases width <;> decide

theorem signPosition_lt_bits : signPosition width < width.bits := by cases width <;> decide

theorem toNat_carryIn : (if carryIn then (1 : Dword) else 0).toNat = carryIn.toNat := by
  cases carryIn <;> rfl

theorem toNat_fullSum :
    ((first &&& widthMask width) + (second &&& widthMask width) +
        (if carryIn then (1 : Dword) else 0)).toNat =
      (unsignedOperand width first + unsignedOperand width second + carryIn.toNat) % 2 ^ 32 := by
  rw [toNat_add, toNat_add, toNat_and_mask, toNat_and_mask, toNat_carryIn,
    mod_add_mod]

theorem v86Add_carry_iff :
    let full := (first &&& widthMask width) + (second &&& widthMask width) +
      (if carryIn then 1 else 0)
    ((if width = .dword then
          (if carryIn then full ≤ first &&& widthMask width else full < first &&& widthMask width)
        else widthMask width < full : Bool) = true) ↔
      2 ^ width.bits ≤
        unsignedOperand width first + unsignedOperand width second + carryIn.toNat := by
  intro full
  have hfull : full.toNat =
      (unsignedOperand width first + unsignedOperand width second + carryIn.toNat) % 2 ^ 32 :=
    toNat_fullSum first second carryIn width
  have hfirst := toNat_and_mask first width
  have hfirstLt := unsignedOperand_lt width first
  have hsecondLt := unsignedOperand_lt width second
  by_cases hwidth : width = .dword
  · subst hwidth
    simp only [Width.bits, bytes] at *
    rw [if_pos trivial]
    cases carryIn with
    | false =>
      rw [if_neg (by decide), decide_eq_true_iff, lt_def, hfirst, hfull, toNat_false]
      lia
    | true =>
      rw [if_pos rfl, decide_eq_true_iff, le_def, hfirst, hfull, toNat_true]
      lia
  · have hone : carryIn.toNat ≤ 1 := toNat_le carryIn
    have hmask : (widthMask width).toNat + 1 = 2 ^ width.bits ∧ 2 ^ width.bits ≤ 65536 := by
      revert hwidth
      cases width <;> decide
    rw [if_neg hwidth, decide_eq_true_iff, lt_def, hfull, mod_eq_of_lt (by lia)]
    lia

theorem v86Add_isSum :
    IsSum width first second carryIn cpu.flags (v86Add cpu first second carryIn width).1
      (v86Add cpu first second carryIn width).2.flags := by
  have hfour := four_lt_bits width
  have hsign := signPosition_lt_bits width
  unfold v86Add
  dsimp only
  rw [resultFlags_or]
  apply isSum_on
  · rw [toNat_and_mask, unsignedOperand, toNat_fullSum, mod_mod_of_dvd _ (two_pow_bits_dvd width)]
  · exact v86Add_carry_iff first second carryIn width
  · simp only [getLsbD_xor, getLsbD_and_widthMask width hfour]
  · simp only [getLsbD_xor, getLsbD_and (x := ~~~_),
      getLsbD_not, getLsbD_and_widthMask width hsign]

theorem toNat_sub_emod (x y : Dword) :
    ((x - y).toNat : Int) = ((x.toNat : Int) - y.toNat) % 2 ^ 32 := by
  have hy := y.isLt
  rw [toNat_sub]
  lia

theorem toNat_difference (minuend subtrahend : Dword)
    (hminuend : unsignedOperand width minuend = unsignedOperand width first)
    (hsubtrahend : unsignedOperand width subtrahend = unsignedOperand width second) :
    ((minuend - subtrahend - (if carryIn then (1 : Dword) else 0) &&& widthMask width).toNat : Int) =
      ((unsignedOperand width first : Int) - unsignedOperand width second - carryIn.toNat) %
        2 ^ width.bits := by
  have hdvd : (2 : Int) ^ width.bits ∣ 2 ^ 32 := by exact_mod_cast two_pow_bits_dvd width
  rw [toNat_and_mask, ← hminuend, ← hsubtrahend]
  unfold unsignedOperand
  rw [Int.natCast_mod, toNat_sub_emod, toNat_sub_emod, toNat_carryIn, Int.emod_sub_emod]
  push_cast
  rw [show (4294967296 : Int) = 2 ^ 32 from rfl, Int.emod_emod_of_dvd _ hdvd, ← Int.emod_sub_emod,
    Int.sub_emod minuend.toNat, Int.emod_sub_emod]

theorem unsignedOperand_and_widthMask (value : Dword) :
    unsignedOperand width (value &&& widthMask width) = unsignedOperand width value := by
  have htoNat := toNat_and_mask value width
  rw [unsignedOperand_of_lt (by rw [htoNat]; exact unsignedOperand_lt width value), htoNat]

theorem v86Subtract_borrow_iff :
    ((if carryIn then first &&& widthMask width ≤ second &&& widthMask width
        else first &&& widthMask width < second &&& widthMask width : Bool) = true) ↔
      unsignedOperand width first < unsignedOperand width second + carryIn.toNat := by
  have hfirst := toNat_and_mask first width
  have hsecond := toNat_and_mask second width
  cases carryIn with
  | false =>
    rw [if_neg (by decide), decide_eq_true_iff, lt_def, hfirst, hsecond, toNat_false]
    omega
  | true =>
    rw [if_pos rfl, decide_eq_true_iff, le_def, hfirst, hsecond, toNat_true]
    omega

theorem v86Subtract_isDifference :
    IsDifference width first second carryIn cpu.flags
      (v86Subtract cpu first second carryIn width).1
      (v86Subtract cpu first second carryIn width).2.flags := by
  have hfour := four_lt_bits width
  have hsign := signPosition_lt_bits width
  unfold v86Subtract
  dsimp only
  rw [resultFlags_or]
  apply isDifference_on
  · exact toNat_difference first second carryIn width _ _
      (unsignedOperand_and_widthMask width first) (unsignedOperand_and_widthMask width second)
  · exact v86Subtract_borrow_iff first second carryIn width
  · simp only [getLsbD_xor, getLsbD_and_widthMask width hfour]
  · simp only [getLsbD_xor, getLsbD_and (x := _ ^^^ _),
      getLsbD_and_widthMask width hsign]

end V86

section Pm32

open Pm32

variable (flags first second : Dword) (carryIn : Bool) (width : Width)

theorem toNat_wideOperand (value : Dword) :
    ((value &&& widthMask width).setWidth 64).toNat = unsignedOperand width value ∧
      unsignedOperand width value < 2 ^ 32 := by
  have hlt := (value &&& widthMask width).isLt
  rw [toNat_and_mask] at hlt
  rw [toNat_setWidth, toNat_and_mask, mod_eq_of_lt (hlt.trans (by decide))]
  exact ⟨rfl, hlt⟩

theorem toNat_wideCarry : (if carryIn then (1 : BitVec 64) else 0).toNat = carryIn.toNat := by
  cases carryIn <;> rfl

theorem toNat_fullSum64 :
    ((first &&& widthMask width).setWidth 64 + (second &&& widthMask width).setWidth 64 +
        (if carryIn then (1 : BitVec 64) else 0)).toNat =
      unsignedOperand width first + unsignedOperand width second + carryIn.toNat := by
  have hone : carryIn.toNat ≤ 1 := toNat_le carryIn
  obtain ⟨hfirst, hfirstLt⟩ := toNat_wideOperand width first
  obtain ⟨hsecond, hsecondLt⟩ := toNat_wideOperand width second
  rw [toNat_add, toNat_add, hfirst, hsecond, toNat_wideCarry, mod_add_mod,
    mod_eq_of_lt (by lia)]

theorem pm32Add_isSum :
    IsSum width first second carryIn flags (pm32Add flags first second carryIn width).value
      (pm32Add flags first second carryIn width).flags := by
  have hfull := toNat_fullSum64 first second carryIn width
  have hvalue : (((first &&& widthMask width).setWidth 64 +
      (second &&& widthMask width).setWidth 64 + (if carryIn then (1 : BitVec 64) else 0)).setWidth
        32 &&& widthMask width).toNat =
        (unsignedOperand width first + unsignedOperand width second + carryIn.toNat) %
          2 ^ width.bits := by
    rw [toNat_and_mask, unsignedOperand, toNat_setWidth, hfull,
      mod_mod_of_dvd _ (two_pow_bits_dvd width)]
  unfold pm32Add
  dsimp only
  rw [pm32SzpFlags_or (by rw [hvalue]; exact mod_lt _ (Nat.two_pow_pos _))]
  apply isSum_on hvalue
  · rw [decide_eq_true_iff, ne_eq, ← toNat_inj, toNat_ushiftRight, hfull,
      shiftRight_eq_div_pow]
    have hpos := Nat.two_pow_pos width.bits
    constructor
    · intro hquotient
      by_contra hlt
      exact hquotient (div_eq_of_lt (Nat.lt_of_not_le hlt))
    · intro hle hzero
      have hone := Nat.div_pos hle hpos
      rw [hzero] at hone
      exact absurd hone (by decide)
  · rfl
  · rfl

theorem pm32Subtract_isDifference :
    IsDifference width first second carryIn flags
      (pm32Subtract flags first second carryIn width).value
      (pm32Subtract flags first second carryIn width).flags := by
  have hvalue := toNat_difference first second carryIn width first second rfl rfl
  have hlt : (first - second - (if carryIn then (1 : Dword) else 0) &&& widthMask width).toNat <
      2 ^ width.bits := by
    rw [toNat_and_mask]
    exact unsignedOperand_lt _ _
  unfold pm32Subtract
  dsimp only
  rw [pm32SzpFlags_or hlt]
  apply isDifference_on hvalue
  · have hone : carryIn.toNat ≤ 1 := toNat_le carryIn
    obtain ⟨hsecond, hsecondLt⟩ := toNat_wideOperand width second
    rw [decide_eq_true_iff, lt_def, toNat_add, (toNat_wideOperand width first).1,
      hsecond, toNat_wideCarry, mod_eq_of_lt (by lia)]
  · rfl
  · rfl

end Pm32

end Ntvdmex.Host
