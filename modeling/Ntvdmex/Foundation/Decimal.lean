import Mathlib

/-!
# Decimal text

The digits of a number as ASCII bytes, at most a given count of them.  The text
has only digits in it and determines the number whenever the count is enough.
-/

namespace Ntvdmex.Foundation

open List

/-- At most `count` decimal digits of `value`, the last digit first. -/
def decimalDigits : Nat → Nat → List UInt8
  | 0, _ => []
  | count + 1, value =>
    if value = 0 then []
    else UInt8.ofNat (0x30 + value % 10) :: decimalDigits count (value / 10)

def decimalValue : List UInt8 → Nat
  | [] => 0
  | digit :: digits => digit.toNat - 0x30 + 10 * decimalValue digits

def decimalText (count value : Nat) : List UInt8 :=
  if value = 0 then [0x30] else (decimalDigits count value).reverse

/-- `'0'` to `'9'`. -/
def IsDigit (c : UInt8) : Prop :=
  ∃ digit < 10, c = UInt8.ofNat (0x30 + digit)

variable {count value : Nat}

theorem isDigit_of_mem_decimalDigits {c : UInt8} (hc : c ∈ decimalDigits count value) :
    IsDigit c := by
  induction count generalizing value with
  | zero => cases hc
  | succ count ih =>
    unfold decimalDigits at hc
    by_cases hvalue : value = 0
    · rw [if_pos hvalue] at hc
      cases hc
    · rw [if_neg hvalue, mem_cons] at hc
      rcases hc with hfirst | hrest
      · exact ⟨value % 10, Nat.mod_lt value (by decide), hfirst⟩
      · exact ih hrest

theorem isDigit_of_mem_decimalText {c : UInt8} (hc : c ∈ decimalText count value) : IsDigit c := by
  unfold decimalText at hc
  by_cases hvalue : value = 0
  · rw [if_pos hvalue, mem_singleton] at hc
    exact ⟨0, by decide, hc⟩
  · rw [if_neg hvalue, mem_reverse] at hc
    exact isDigit_of_mem_decimalDigits hc

theorem length_decimalDigits_le (count value : Nat) :
    (decimalDigits count value).length ≤ count := by
  induction count generalizing value with
  | zero => exact Nat.le_refl 0
  | succ count ih =>
    unfold decimalDigits
    by_cases hvalue : value = 0
    · rw [if_pos hvalue]
      exact Nat.zero_le _
    · rw [if_neg hvalue, length_cons]
      exact Nat.succ_le_succ (ih _)

theorem length_decimalText_le (hcount : 0 < count) (value : Nat) :
    (decimalText count value).length ≤ count := by
  unfold decimalText
  by_cases hvalue : value = 0
  · rw [if_pos hvalue]
    exact hcount
  · rw [if_neg hvalue, length_reverse]
    exact length_decimalDigits_le count value

theorem decimalValue_decimalDigits (hvalue : value < 10 ^ count) :
    decimalValue (decimalDigits count value) = value := by
  induction count generalizing value with
  | zero =>
    have hzero : value = 0 := Nat.lt_one_iff.mp hvalue
    rw [hzero]
    rfl
  | succ count ih =>
    unfold decimalDigits
    by_cases hzero : value = 0
    · rw [if_pos hzero, hzero]
      rfl
    · have hrest : value / 10 < 10 ^ count := by
        rw [Nat.div_lt_iff_lt_mul (by decide), ← Nat.pow_succ]
        exact hvalue
      have hdigit : (UInt8.ofNat (0x30 + value % 10)).toNat = 0x30 + value % 10 := by
        rw [UInt8.toNat_ofNat']
        lia
      rw [if_neg hzero, decimalValue, ih hrest, hdigit]
      lia

theorem decimalText_injective {m n : Nat} (hm : m < 10 ^ count) (hn : n < 10 ^ count)
    (hmpos : 0 < m) (hnpos : 0 < n) (htext : decimalText count m = decimalText count n) :
    m = n := by
  unfold decimalText at htext
  rw [if_neg (Nat.ne_of_gt hmpos), if_neg (Nat.ne_of_gt hnpos)] at htext
  have hdigits := reverse_injective htext
  rw [← decimalValue_decimalDigits hm, hdigits, decimalValue_decimalDigits hn]

end Ntvdmex.Foundation
