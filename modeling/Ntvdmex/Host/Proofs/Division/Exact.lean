import Ntvdmex.Foundation.TruncatedDivision
import Ntvdmex.Host.Proofs.Registers

/-!
# What `DIV` and `IDIV` are to do

A double-width dividend of an accumulator pair, an operand to divide by, and a quotient and a
remainder that go back into the pair.  Both interpreters compute in 64 bits, or in the C type
of the width; here is the arithmetic they share.
-/

namespace Ntvdmex.Host

open Foundation BitVec Width

/-! ## The division of an instruction -/

def operandValue (isSigned : Bool) (width : Width) (value : Dword) : Int :=
  if isSigned then (value.setWidth width.bits).toInt else (value.setWidth width.bits).toNat

/-- The register that holds `AH`, `DX` or `EDX`, shifted to its low bytes. -/
def upperHalf (registers : Nat → Dword) : Width → Dword
  | .byte => registers x86RegAx >>> 8
  | .word => registers x86RegDx
  | .dword => registers x86RegDx

/-- The ModRM field of `IDIV`, the last of group 3. -/
def x86Group3Idiv : Nat := 7

/-- A `DIV` or an `IDIV`, and the operand that it divides by. -/
structure Division where
  isSigned : Bool
  width : Width
  operand : Dword

namespace Division

def value (division : Division) : Dword → Int := operandValue division.isSigned division.width

def divisor (division : Division) : Int := division.value division.operand

/-- `AX`, `DX:AX` or `EDX:EAX`. -/
def dividend (division : Division) (registers : Nat → Dword) : Int :=
  division.value (upperHalf registers division.width) * 2 ^ division.width.bits +
    operandValue false division.width (registers x86RegAx)

def quotient (division : Division) (registers : Nat → Dword) : Int :=
  (division.dividend registers).tdiv division.divisor

def Fits (division : Division) (number : Int) : Prop :=
  if division.isSigned then
    -2 ^ (division.width.bits - 1) ≤ number ∧ number < 2 ^ (division.width.bits - 1)
  else 0 ≤ number ∧ number < 2 ^ division.width.bits

/-- A processor raises a divide error. -/
def Faults (division : Division) (registers : Nat → Dword) : Prop :=
  division.divisor = 0 ∨ ¬division.Fits (division.quotient registers)

/-- The registers hold the quotient and the remainder. -/
def Done (division : Division) (registers registers' : Nat → Dword) : Prop :=
  IsTruncatedDivision (division.dividend registers) division.divisor
    (division.value (registers' x86RegAx)) (division.value (upperHalf registers' division.width))

def IsMinimumByMinusOne (division : Division) (registers : Nat → Dword) : Prop :=
  division.isSigned = true ∧ division.dividend registers = -2 ^ (2 * division.width.bits - 1) ∧
    division.divisor = -1

end Division

/-- A step declines with nothing changed when a processor faults, else it divides; the host is
not trapped. -/
def DividesOrDeclines {γ : Type} (division : Division) (registersOf : γ → Nat → Dword)
    (machine : Machine γ) (outcome : EStateM.Result Stop (Machine γ) Unit) : Prop :=
  (division.Faults (registersOf machine.cpu) →
      ∃ machine', outcome = .error .declined machine' ∧ OnlyReads machine machine') ∧
    (¬division.Faults (registersOf machine.cpu) →
      ∃ machine', outcome = .ok () machine' ∧
        division.Done (registersOf machine.cpu) (registersOf machine'.cpu)) ∧
    ∀ machine', outcome ≠ .error .trapped machine'

section Outcomes

variable {γ : Type} {division : Division} {registersOf : γ → Nat → Dword} {m m' : Machine γ}
  {outcome : EStateM.Result Stop (Machine γ) Unit}

theorem dividesOrDeclines_done (hdivisor : division.divisor ≠ 0)
    (hfits : division.Fits (division.quotient (registersOf m.cpu)))
    (hdone : division.Done (registersOf m.cpu) (registersOf m'.cpu)) :
    DividesOrDeclines division registersOf m (.ok () m') := by
  refine ⟨fun hfaults => ?_, fun _ => ⟨m', rfl, hdone⟩, fun _ htrap => nomatch htrap⟩
  rcases hfaults with hzero | hunfit
  · exact absurd hzero hdivisor
  · exact absurd hfits hunfit

theorem dividesOrDeclines_declined (hfaults : division.Faults (registersOf m.cpu))
    (hreads : OnlyReads m m') : DividesOrDeclines division registersOf m (.error .declined m') :=
  ⟨fun _ => ⟨m', rfl, hreads⟩, fun hnofault => absurd hfaults hnofault,
    fun _ htrap => nomatch htrap⟩

theorem not_dividesOrDeclines_trapped :
    ¬DividesOrDeclines division registersOf m (.error .trapped m') :=
  fun h => h.2.2 m' rfl

theorem DividesOrDeclines.of_onlyReads {machine : Machine γ} (hreads : OnlyReads machine m)
    (h : DividesOrDeclines division registersOf m outcome) :
    DividesOrDeclines division registersOf machine outcome := by
  obtain ⟨hfaults, hdivides, htrap⟩ := h
  rw [hreads.1] at hfaults hdivides
  refine ⟨fun hfault => ?_, hdivides, htrap⟩
  obtain ⟨machine', houtcome, hdeclined⟩ := hfaults hfault
  exact ⟨machine', houtcome, trans_of OnlyReads hreads hdeclined⟩

end Outcomes

/-! ## The dividend in 64 bits -/

def accumulatorPair (registers : Nat → Dword) : Width → BitVec 64
  | .byte => (registers x86RegAx &&& 0xFFFF).setWidth 64
  | .word => ((registers x86RegDx &&& 0xFFFF) <<< 16 ||| (registers x86RegAx &&& 0xFFFF)).setWidth 64
  | .dword => (registers x86RegDx).setWidth 64 <<< 32 ||| (registers x86RegAx).setWidth 64

variable (registers registers' : Nat → Dword) (operand : Dword)

theorem toNat_and_word (value : Dword) : (value &&& 0xFFFF).toNat = value.toNat % 65536 := by
  rw [toNat_and]
  exact Nat.and_two_pow_sub_one_eq_mod value.toNat 16

theorem toNat_and_widthMask (value : Dword) (width : Width) :
    (value &&& widthMask width).toNat = (value.setWidth width.bits).toNat := by
  rw [toNat_and, toNat_setWidth]
  cases width with
  | byte => exact Nat.and_two_pow_sub_one_eq_mod value.toNat 8
  | word => exact Nat.and_two_pow_sub_one_eq_mod value.toNat 16
  | dword => exact Nat.and_two_pow_sub_one_eq_mod value.toNat 32

theorem toNat_shiftLeft_or {n k : Nat} {high low : BitVec n} (hlow : low.toNat < 2 ^ k)
    (hhigh : high.toNat * 2 ^ k < 2 ^ n) :
    (high <<< k ||| low).toNat = high.toNat * 2 ^ k + low.toNat := by
  rw [toNat_or, toNat_shiftLeft, Nat.shiftLeft_eq, Nat.mod_eq_of_lt hhigh,
    ← Nat.shiftLeft_eq, ← Nat.shiftLeft_add_eq_or_of_lt hlow, Nat.shiftLeft_eq]

theorem accumulatorPair_toNat (width : Width) :
    (accumulatorPair registers width).toNat =
      ((upperHalf registers width).setWidth width.bits).toNat * 2 ^ width.bits +
        ((registers x86RegAx).setWidth width.bits).toNat := by
  cases width with
  | byte =>
    have hlow : (registers x86RegAx &&& 0xFFFF).toNat = (registers x86RegAx).toNat % 65536 :=
      toNat_and_word _
    simp only [accumulatorPair, upperHalf, bits, bytes, toNat_setWidth, hlow,
      toNat_ushiftRight, Nat.shiftRight_eq_div_pow]
    lia
  | word =>
    have hhigh : (registers x86RegDx &&& 0xFFFF).toNat = (registers x86RegDx).toNat % 65536 :=
      toNat_and_word _
    have hlow : (registers x86RegAx &&& 0xFFFF).toNat = (registers x86RegAx).toNat % 65536 :=
      toNat_and_word _
    simp only [accumulatorPair, upperHalf, bits, bytes, toNat_setWidth]
    rw [toNat_shiftLeft_or (by lia) (by lia), hhigh, hlow]
    lia
  | dword =>
    have hlow : (registers x86RegAx).toNat < 2 ^ 32 := (registers x86RegAx).isLt
    have hhigh : (registers x86RegDx).toNat < 2 ^ 32 := (registers x86RegDx).isLt
    simp only [accumulatorPair, upperHalf, bits, bytes, setWidth_eq]
    rw [toNat_shiftLeft_or (by rw [toNat_setWidth]; lia)
      (by rw [toNat_setWidth]; lia), toNat_setWidth, toNat_setWidth]
    lia

def signedPair (width : Width) (pair : BitVec 64) : Int :=
  match width with
  | .byte => (pair.setWidth 16).toInt
  | .word => (pair.setWidth 32).toInt
  | .dword => pair.toInt

theorem signedPair_accumulatorPair (width : Width) :
    signedPair width (accumulatorPair registers width) =
      ((upperHalf registers width).setWidth width.bits).toInt * 2 ^ width.bits +
        ((registers x86RegAx).setWidth width.bits).toNat := by
  have hpair := accumulatorPair_toNat registers width
  have hlow := ((registers x86RegAx).setWidth width.bits).isLt
  have hhigh := ((upperHalf registers width).setWidth width.bits).isLt
  rw [toInt_eq_toNat_cond]
  cases width with
  | byte =>
    simp only [signedPair, bits, bytes, Nat.mul_one] at *
    rw [toInt_eq_toNat_cond, toNat_setWidth, hpair]
    split_ifs <;> lia
  | word =>
    simp only [signedPair, bits, bytes] at *
    rw [toInt_eq_toNat_cond, toNat_setWidth, hpair]
    split_ifs <;> lia
  | dword =>
    simp only [signedPair, bits, bytes] at *
    rw [toInt_eq_toNat_cond, hpair]
    split_ifs <;> lia

/-! ## The division of the pair -/

variable {registers registers'}

/-- The accumulator pair holds `low` and `high`. -/
def HoldsPair (registers : Nat → Dword) (width : Width) (low high : Dword) : Prop :=
  (registers x86RegAx).setWidth width.bits = low.setWidth width.bits ∧
    (upperHalf registers width).setWidth width.bits = high.setWidth width.bits

/-- `AX` packed from the two bytes. -/
theorem holdsPair_byte {low high : Dword}
    (h : (registers x86RegAx).setWidth 16 =
      (low &&& 0xFF ||| (high &&& 0xFF) <<< 8).setWidth 16) : HoldsPair registers .byte low high := by
  have hlow : (registers x86RegAx).setWidth 8 = low.setWidth 8 := by
    rw [← setWidth_setWidth_of_le (registers x86RegAx) (show 8 ≤ 16 by decide), h]
    apply eq_of_getElem_eq
    intro i hi
    interval_cases i <;> simp
  have hhigh : (registers x86RegAx >>> 8).setWidth 8 = high.setWidth 8 := by
    have hshift : (registers x86RegAx >>> 8).setWidth 8 =
        ((registers x86RegAx).setWidth 16 >>> 8).setWidth 8 := by
      apply eq_of_getElem_eq
      intro i hi
      interval_cases i <;> simp
    rw [hshift, h]
    apply eq_of_getElem_eq
    intro i hi
    interval_cases i <;> simp
  exact ⟨hlow, hhigh⟩

namespace Division

variable {division : Division}

theorem toNat_setWidth_narrow {width : Width} {number : BitVec 64}
    (h : number.toNat < 2 ^ width.bits) :
    ((number.setWidth 32).setWidth width.bits).toNat = number.toNat := by
  have hbits : width.bits ≤ 32 := by cases width <;> decide
  rw [setWidth_setWidth_of_le _ hbits, toNat_setWidth, Nat.mod_eq_of_lt h]

theorem value_unsigned (hsigned : division.isSigned = false) (number : Dword) :
    division.value number = (number.setWidth division.width.bits).toNat := by
  simp [value, operandValue, hsigned]

theorem value_signed (hsigned : division.isSigned = true) (number : Dword) :
    division.value number = (number.setWidth division.width.bits).toInt := by
  simp [value, operandValue, hsigned]

theorem value_congr {number number' : Dword}
    (h : number.setWidth division.width.bits = number'.setWidth division.width.bits) :
    division.value number = division.value number' := by
  simp only [value, operandValue, h]

theorem divisor_eq_zero_iff (hoperand : division.operand.toNat < 2 ^ division.width.bits) :
    division.divisor = 0 ↔ division.operand = 0 := by
  have hnarrow : (division.operand.setWidth division.width.bits).toNat = division.operand.toNat := by
    rw [toNat_setWidth, Nat.mod_eq_of_lt hoperand]
  have hzero : division.operand = 0 ↔ division.operand.toNat = 0 := by
    rw [← toNat_inj]
    rfl
  rw [hzero, ← hnarrow]
  cases hsigned : division.isSigned with
  | false => rw [divisor, value_unsigned hsigned, Int.natCast_eq_zero]
  | true =>
    rw [divisor, value_signed hsigned]
    constructor
    · intro hint
      have hnull : division.operand.setWidth division.width.bits = 0 := by
        rw [← toInt_inj, hint]
        exact toInt_zero.symm
      rw [hnull]
      rfl
    · intro hnat
      have hnull : division.operand.setWidth division.width.bits = 0 := eq_of_toNat_eq hnat
      rw [hnull]
      exact toInt_zero

theorem done_of_holdsPair {low high : Dword} (hdivisor : division.divisor ≠ 0)
    (hholds : HoldsPair registers' division.width low high)
    (hlow : division.value low = division.quotient registers)
    (hhigh : division.value high = (division.dividend registers).tmod division.divisor) :
    division.Done registers registers' := by
  unfold Done
  rw [value_congr hholds.1, value_congr hholds.2, hlow, hhigh]
  exact isTruncatedDivision hdivisor

/-! ## `DIV` -/

section Unsigned

variable {divisor64 : BitVec 64} (hsigned : division.isSigned = false)
  (hdivisor64 : divisor64.toNat = (division.operand.setWidth division.width.bits).toNat)

include hsigned

theorem dividend_unsigned :
    division.dividend registers = (accumulatorPair registers division.width).toNat := by
  rw [accumulatorPair_toNat, dividend, value_unsigned hsigned]
  simp [operandValue]

include hdivisor64

theorem divisor_unsigned : division.divisor = divisor64.toNat := by
  rw [divisor, value_unsigned hsigned, hdivisor64]

theorem quotient_unsigned :
    division.quotient registers =
      (accumulatorPair registers division.width / divisor64).toNat := by
  rw [quotient, dividend_unsigned hsigned, divisor_unsigned hsigned hdivisor64, toNat_udiv]
  exact (Int.ofNat_tdiv _ _).symm

theorem remainder_unsigned :
    (division.dividend registers).tmod division.divisor =
      (accumulatorPair registers division.width % divisor64).toNat := by
  rw [dividend_unsigned hsigned, divisor_unsigned hsigned hdivisor64, toNat_umod]
  exact (Int.ofNat_tmod _ _).symm

variable (registers) in
theorem fits_unsigned_iff :
    division.Fits (division.quotient registers) ↔
      ¬(widthMask division.width).setWidth 64 <
        accumulatorPair registers division.width / divisor64 := by
  rw [quotient_unsigned hsigned hdivisor64, lt_def]
  simp only [Fits, hsigned, Bool.false_eq_true, if_false]
  cases division.width with
  | byte =>
    have hmask : ((widthMask .byte).setWidth 64).toNat = 255 := rfl
    simp only [bits, bytes, hmask]
    omega
  | word =>
    have hmask : ((widthMask .word).setWidth 64).toNat = 65535 := rfl
    simp only [bits, bytes, hmask]
    omega
  | dword =>
    have hmask : ((widthMask .dword).setWidth 64).toNat = 4294967295 := rfl
    simp only [bits, bytes, hmask]
    omega

theorem value_quotient_unsigned (hfits : division.Fits (division.quotient registers)) :
    division.value ((accumulatorPair registers division.width / divisor64).setWidth 32) =
      division.quotient registers := by
  simp only [Fits, hsigned, Bool.false_eq_true, if_false] at hfits
  rw [quotient_unsigned hsigned hdivisor64] at hfits ⊢
  obtain ⟨quotient64, hquotient⟩ :
    ∃ number, accumulatorPair registers division.width / divisor64 = number := ⟨_, rfl⟩
  rw [hquotient] at hfits ⊢
  rw [value_unsigned hsigned, toNat_setWidth_narrow (by exact_mod_cast hfits.2)]

theorem value_remainder_unsigned (hdivisor : division.divisor ≠ 0) :
    division.value ((accumulatorPair registers division.width % divisor64).setWidth 32) =
      (division.dividend registers).tmod division.divisor := by
  rw [remainder_unsigned hsigned hdivisor64, value_unsigned hsigned]
  rw [divisor_unsigned hsigned hdivisor64] at hdivisor
  have hlt : (accumulatorPair registers division.width % divisor64).toNat < divisor64.toNat := by
    rw [toNat_umod]
    exact Nat.mod_lt _ (by lia)
  have hwidth := (division.operand.setWidth division.width.bits).isLt
  rw [toNat_setWidth_narrow (by lia)]

end Unsigned

/-! ## `IDIV` -/

section Signed

variable (hsigned : division.isSigned = true)

include hsigned

theorem dividend_signed :
    division.dividend registers =
      signedPair division.width (accumulatorPair registers division.width) := by
  rw [signedPair_accumulatorPair, dividend, value_signed hsigned]
  simp [operandValue]

theorem divisor_signed : division.divisor = signedValue division.width division.operand := by
  rw [divisor, value_signed hsigned]
  cases division.width with
  | byte => rfl
  | word => rfl
  | dword =>
    simp only [bits, bytes, signedValue]
    rw [setWidth_eq]

theorem divisor_range :
    -2 ^ (division.width.bits - 1) ≤ division.divisor ∧
      division.divisor < 2 ^ (division.width.bits - 1) := by
  rw [divisor, value_signed hsigned]
  exact ⟨le_toInt _, toInt_lt⟩

theorem value_ofInt {number : Int} (hlow : -2 ^ (division.width.bits - 1) ≤ number)
    (hhigh : number < 2 ^ (division.width.bits - 1)) :
    division.value (BitVec.ofInt 32 number) = number := by
  rw [value_signed hsigned, toInt_eq_toNat_cond, toNat_setWidth, toNat_ofInt]
  revert hlow hhigh
  cases division.width with
  | byte =>
    simp only [bits, bytes]
    intro hlow hhigh
    split_ifs <;> lia
  | word =>
    simp only [bits, bytes]
    intro hlow hhigh
    split_ifs <;> lia
  | dword =>
    simp only [bits, bytes]
    intro hlow hhigh
    split_ifs <;> lia

theorem fits_signed_iff (number : Int) :
    division.Fits number ↔
      ¬(2 ^ (division.width.bits - 1) - 1 < number ∨
        number < -2 ^ (division.width.bits - 1)) := by
  simp only [Fits, hsigned, if_true]
  omega

variable (registers) in
theorem value_quotient_signed (hfits : division.Fits (division.quotient registers)) :
    division.value (BitVec.ofInt 32 (division.quotient registers)) =
      division.quotient registers := by
  simp only [Fits, hsigned, if_true] at hfits
  exact value_ofInt hsigned hfits.1 hfits.2

variable (registers) in
theorem value_remainder_signed (hdivisor : division.divisor ≠ 0) :
    division.value (BitVec.ofInt 32 ((division.dividend registers).tmod division.divisor)) =
      (division.dividend registers).tmod division.divisor := by
  have hsmall : |(division.dividend registers).tmod division.divisor| < |division.divisor| :=
    abs_tmod_lt hdivisor
  have hlow : -2 ^ (division.width.bits - 1) ≤ division.divisor :=
    (divisor_range hsigned).1
  have hhigh : division.divisor < 2 ^ (division.width.bits - 1) := (divisor_range hsigned).2
  have hbound : |division.divisor| ≤ 2 ^ (division.width.bits - 1) := by
    rw [abs_le]
    omega
  obtain ⟨hbelow, habove⟩ := abs_lt.mp (lt_of_lt_of_le hsmall hbound)
  exact value_ofInt hsigned (by omega) habove

variable (registers) in
theorem dividend_range :
    -2 ^ (2 * division.width.bits - 1) ≤ division.dividend registers ∧
      division.dividend registers < 2 ^ (2 * division.width.bits - 1) := by
  rw [dividend_signed hsigned]
  cases division.width with
  | byte => exact ⟨le_toInt _, toInt_lt⟩
  | word => exact ⟨le_toInt _, toInt_lt⟩
  | dword => exact ⟨le_toInt _, toInt_lt⟩

variable (registers) in
theorem quotient_range :
    division.quotient registers ≤ 2 ^ (2 * division.width.bits - 1) := by
  obtain ⟨hlow, hhigh⟩ := dividend_range registers hsigned
  have habs := Int.natAbs_tdiv_le_natAbs (division.dividend registers) division.divisor
  unfold quotient
  omega

theorem isMinimumByMinusOne_signed :
    division.IsMinimumByMinusOne registers ↔
      division.divisor = -1 ∧
        division.dividend registers = -2 ^ (2 * division.width.bits - 1) := by
  unfold IsMinimumByMinusOne
  rw [and_iff_right hsigned]
  exact and_comm

theorem isMinimumByMinusOne_iff (hdivisor : division.divisor ≠ 0) :
    division.IsMinimumByMinusOne registers ↔
      2 ^ (2 * division.width.bits - 1) ≤ division.quotient registers := by
  obtain ⟨hlow, hhigh⟩ := dividend_range registers hsigned
  have hrange := bound_le_tdiv_iff hdivisor hlow hhigh
  unfold IsMinimumByMinusOne quotient
  rw [hrange]
  exact and_iff_right hsigned

theorem not_fits_of_isMinimumByMinusOne (hminimum : division.IsMinimumByMinusOne registers) :
    ¬division.Fits (division.quotient registers) := by
  have hdivisor : division.divisor ≠ 0 := by
    rw [hminimum.2.2]
    decide
  have hpast := (isMinimumByMinusOne_iff hsigned hdivisor).mp hminimum
  have hbits : division.width.bits - 1 ≤ 2 * division.width.bits - 1 := by lia
  have hwider : (2 : Int) ^ (division.width.bits - 1) ≤ 2 ^ (2 * division.width.bits - 1) :=
    pow_le_pow_right₀ (by decide) hbits
  simp only [Fits, hsigned, if_true]
  lia

end Signed

end Division

end Ntvdmex.Host
