import Mathlib

/-!
# Fixed-width unsigned arithmetic

The C casts to 16 and 32 bits as functions on natural numbers.  A sum or a
difference is written out in full and cast once, where the source casts it, so
that the only place a value can wrap is a visible `word` or `dword`.
-/

namespace Ntvdmex.Foundation

/-- `(WORD)n`. -/
def word (n : Nat) : Nat := n % 65536

/-- `(DWORD)n`. -/
def dword (n : Nat) : Nat := n % 4294967296

/-- `(WORD)(a - b)`. -/
def wordSub (a b : Nat) : Nat := word (a + 65536 - b % 65536)

theorem word_of_lt {n : Nat} (h : n < 65536) : word n = n :=
  Nat.mod_eq_of_lt h

theorem dword_of_lt {n : Nat} (h : n < 4294967296) : dword n = n :=
  Nat.mod_eq_of_lt h

theorem dword_le (n : Nat) : dword n ≤ n :=
  Nat.mod_le _ _

theorem wordSub_of_le {a b : Nat} (hba : b ≤ a) (ha : a < 65536) :
    wordSub a b = a - b := by
  unfold wordSub word
  lia

end Ntvdmex.Foundation
