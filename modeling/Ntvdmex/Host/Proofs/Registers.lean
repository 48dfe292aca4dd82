import Ntvdmex.Host.V86.Cpu

/-!
# Words in registers

A word is stored in the low half of a register whose upper half is kept.
-/

namespace Ntvdmex.Host

open Foundation BitVec Nat

theorem getElem_highWordMask : ∀ {i : Nat} (hi : i < 32), highWordMask[i] = decide (16 ≤ i) := by
  decide

variable (kept : Dword)

theorem setWidth_storeWord (value : Word) :
    (kept &&& highWordMask ||| value.setWidth 32).setWidth 16 = value := by
  apply eq_of_getElem_eq
  intro i hi
  have hmask : highWordMask.getLsbD i = false := by
    rw [getLsbD_eq_getElem (by omega), getElem_highWordMask]
    exact decide_eq_false (Nat.not_le.mpr hi)
  simp [hmask]

theorem setWidth_storeMasked (value : Dword) :
    (kept &&& highWordMask ||| (value &&& 0xFFFF)).setWidth 16 = value.setWidth 16 := by
  have hmask : value &&& 0xFFFF = (value.setWidth 16).setWidth 32 := by
    apply eq_of_toNat_eq
    rw [toNat_and, toNat_setWidth, toNat_setWidth]
    exact (and_two_pow_sub_one_eq_mod _ 16).trans (mod_eq_of_lt (by omega)).symm
  rw [hmask, setWidth_storeWord]

theorem highWord_storeWord (value : Word) :
    (kept &&& highWordMask ||| value.setWidth 32) &&& highWordMask = kept &&& highWordMask := by
  apply eq_of_getElem_eq
  intro i hi
  rw [getElem_and, getElem_or, getElem_and, getElem_highWordMask,
    getElem_setWidth]
  by_cases h : 16 ≤ i
  · rw [getLsbD_of_ge value i h]
    simp
  · simp [h]

theorem storeWord_self (value : Dword) :
    value &&& highWordMask ||| (value.setWidth 16).setWidth 32 = value := by
  apply eq_of_getElem_eq
  intro i hi
  rw [getElem_or, getElem_and, getElem_highWordMask, getElem_setWidth,
    getLsbD_setWidth, getLsbD_eq_getElem hi]
  by_cases h : 16 ≤ i
  · simp [h]
  · simp [h]
    omega

theorem storeWord_eq_add (value : Word) :
    kept &&& highWordMask ||| value.setWidth 32 = (kept &&& highWordMask) + value.setWidth 32 := by
  symm
  apply add_eq_or_of_and_eq_zero
  apply eq_of_getElem_eq
  intro i hi
  rw [getElem_and, getElem_and, getElem_highWordMask, getElem_setWidth]
  by_cases h : 16 ≤ i
  · rw [getLsbD_of_ge value i h]
    simp
  · simp [h]

theorem storeWord_sub_self (value : Dword) (bytes : Word) :
    let moved := value &&& highWordMask ||| (value.setWidth 16 + bytes).setWidth 32
    moved - value = bytes.setWidth 32 ∨ moved - value = bytes.setWidth 32 - 65536 := by
  intro moved
  have hself : (value &&& highWordMask) + (value.setWidth 16).setWidth 32 = value := by
    rw [← storeWord_eq_add, storeWord_self]
  have hmoved : moved - value =
      (value.setWidth 16 + bytes).setWidth 32 - (value.setWidth 16).setWidth 32 := by
    rw [← add_sub_add_left_eq_sub _ (setWidth 32 _) (value &&& highWordMask), hself,
      ← storeWord_eq_add]
  rw [hmoved]
  generalize value.setWidth 16 = low
  rw [← ofNat_toNat, ← ofNat_toNat, ← ofNat_toNat]
  by_cases hwraps : low.toNat + bytes.toNat < 65536
  · left
    rw [toNat_add_of_lt hwraps, ofNat_add, add_sub_cancel_left]
  · right
    have hsum : low.toNat + bytes.toNat = (low + bytes).toNat + 65536 := by
      rw [toNat_add, mod_eq_sub_mod (by omega), mod_eq_of_lt (by omega)]
      omega
    have hsum := congrArg (BitVec.ofNat 32) hsum
    rw [ofNat_add, ofNat_add] at hsum
    rw [sub_eq_sub_iff_add_eq_add, add_comm (BitVec.ofNat 32 bytes.toNat)]
    exact hsum.symm

theorem toNat_setWidth_lt {n : Nat} (value : BitVec n) : (value.setWidth 32).toNat < 2 ^ n := by
  rw [toNat_setWidth]
  exact lt_of_le_of_lt (mod_le _ _) value.isLt

theorem V86.v86GetRegister_lt (cpu : V86Cpu) (index : Nat) (width : Width) :
    (v86GetRegister cpu index width).toNat < 2 ^ width.bits := by
  cases width with
  | byte => exact toNat_setWidth_lt _
  | word => exact toNat_setWidth_lt _
  | dword => exact isLt _

end Ntvdmex.Host
