import Mathlib

/-!
# Division that truncates towards zero

The quotient and the remainder of a processor's signed division, and the one quotient that is
out of the range of its dividend.
-/

namespace Ntvdmex.Foundation

open Int

/-- The quotient rounds towards zero: what remains is smaller than the divisor, and has the
sign of the dividend. -/
structure IsTruncatedDivision (dividend divisor quotient remainder : Int) : Prop where
  exact : dividend = quotient * divisor + remainder
  small : |remainder| < |divisor|
  sign : remainder = 0 ∨ remainder.sign = dividend.sign

variable {dividend divisor bound : Int}

theorem abs_tmod_lt (hdivisor : divisor ≠ 0) : |dividend.tmod divisor| < |divisor| := by
  have hpos : 0 < divisor.natAbs := natAbs_pos.mpr hdivisor
  have hlt : dividend.natAbs % divisor.natAbs < divisor.natAbs := Nat.mod_lt _ hpos
  have hremainder : (dividend.tmod divisor).natAbs < divisor.natAbs := by
    rw [natAbs_tmod]
    exact hlt
  rw [abs_eq_natAbs, abs_eq_natAbs]
  exact_mod_cast hremainder

theorem sign_tmod : dividend.tmod divisor = 0 ∨ (dividend.tmod divisor).sign = dividend.sign := by
  by_cases hzero : dividend.tmod divisor = 0
  · exact Or.inl hzero
  · right
    rcases Int.lt_trichotomy dividend 0 with hneg | hnull | hpos
    · have hmod : 0 ≤ (-dividend).tmod divisor := tmod_nonneg divisor (by omega)
      rw [neg_tmod] at hmod
      rw [sign_eq_neg_one_of_neg hneg, sign_eq_neg_one_of_neg (by omega)]
    · rw [hnull, zero_tmod] at hzero
      exact absurd rfl hzero
    · have hmod : 0 ≤ dividend.tmod divisor := tmod_nonneg divisor (by omega)
      rw [sign_eq_one_of_pos hpos, sign_eq_one_of_pos (by omega)]

theorem isTruncatedDivision (hdivisor : divisor ≠ 0) :
    IsTruncatedDivision dividend divisor (dividend.tdiv divisor) (dividend.tmod divisor) where
  exact := by
    have hexact := mul_tdiv_add_tmod dividend divisor
    calc dividend = divisor * dividend.tdiv divisor + dividend.tmod divisor := hexact.symm
      _ = dividend.tdiv divisor * divisor + dividend.tmod divisor := by ring
  small := abs_tmod_lt hdivisor
  sign := sign_tmod

/-- Only the minimum divided by -1 has a quotient past the range of the dividend. -/
theorem bound_le_tdiv_iff (hdivisor : divisor ≠ 0) (hlow : -bound ≤ dividend)
    (hhigh : dividend < bound) :
    bound ≤ dividend.tdiv divisor ↔ dividend = -bound ∧ divisor = -1 := by
  constructor
  · intro hpast
    have habs : (dividend.tdiv divisor).natAbs ≤ dividend.natAbs :=
      natAbs_tdiv_le_natAbs dividend divisor
    have hmin : dividend = -bound := by lia
    refine ⟨hmin, ?_⟩
    by_contra hother
    have hdivided : (dividend.tdiv divisor).natAbs = dividend.natAbs / divisor.natAbs :=
      natAbs_tdiv dividend divisor
    have hone : ¬divisor.natAbs ≤ 1 := by
      intro hle
      have hunit : divisor = 1 := by lia
      rw [hunit, Int.tdiv_one] at hpast
      lia
    have hhalf : dividend.natAbs / divisor.natAbs ≤ dividend.natAbs / 2 :=
      Nat.div_le_div_left (by lia) (by decide)
    lia
  · rintro ⟨rfl, rfl⟩
    rw [Int.tdiv_neg, Int.tdiv_one]
    lia

end Ntvdmex.Foundation
