import Mathlib

/-!
# Numbered search

A search that counts up until a candidate is free.  It succeeds when the
candidates are pairwise different and there are more of them than refusals.
-/

namespace Ntvdmex.Foundation

open List

/-- The first number from `number` on that is free, or the last of the `count` behind it. -/
def searchNumber (isFree : Nat → Bool) : Nat → Nat → Nat
  | 0, number => number
  | count + 1, number =>
    if isFree number then number else searchNumber isFree count (number + 1)

section Search

variable {isFree : Nat → Bool}

theorem le_searchNumber (count number : Nat) : number ≤ searchNumber isFree count number := by
  induction count generalizing number with
  | zero => exact Nat.le_refl number
  | succ count ih =>
    unfold searchNumber
    by_cases hfree : isFree number = true
    · rw [if_pos hfree]
    · rw [if_neg hfree]
      exact Nat.le_of_succ_le (ih (number + 1))

theorem searchNumber_le (count number : Nat) :
    searchNumber isFree count number ≤ number + count := by
  induction count generalizing number with
  | zero => exact Nat.le_refl number
  | succ count ih =>
    unfold searchNumber
    by_cases hfree : isFree number = true
    · rw [if_pos hfree]
      exact Nat.le_add_right _ _
    · rw [if_neg hfree]
      have hnext := ih (number + 1)
      omega

theorem searchNumber_free {count number found : Nat} (hlow : number ≤ found)
    (hhigh : found ≤ number + count) (hfound : isFree found = true) :
    isFree (searchNumber isFree count number) = true := by
  induction count generalizing number with
  | zero =>
    have heq : found = number := by lia
    rw [heq] at hfound
    exact hfound
  | succ count ih =>
    unfold searchNumber
    by_cases hfree : isFree number = true
    · rw [if_pos hfree]
      exact hfree
    · rw [if_neg hfree]
      have hne : number ≠ found := by
        intro heq
        rw [heq] at hfree
        exact hfree hfound
      exact ih (by lia) (by lia)

theorem searchNumber_lower {count number lower : Nat} (hlow : number ≤ lower)
    (hlower : lower < searchNumber isFree count number) : isFree lower = false := by
  induction count generalizing number with
  | zero =>
    unfold searchNumber at hlower
    omega
  | succ count ih =>
    unfold searchNumber at hlower
    by_cases hfree : isFree number = true
    · rw [if_pos hfree] at hlower
      omega
    · rw [if_neg hfree] at hlower
      by_cases heq : lower = number
      · rw [heq]
        exact Bool.not_eq_true _ ▸ hfree
      · exact ih (by omega) hlower

end Search

theorem exists_candidate_not_mem {α : Type*} {candidate : Nat → α} {refused : List α}
    {start count : Nat}
    (hinjective : ∀ m n, start ≤ m → m < start + count → start ≤ n → n < start + count →
      candidate m = candidate n → m = n)
    (hlength : refused.length < count) :
    ∃ n, start ≤ n ∧ n < start + count ∧ candidate n ∉ refused := by
  by_contra hall
  push Not at hall
  have hnodup : ((range' start count).map candidate).Nodup := by
    refine List.Nodup.map_on (fun m hm n hn heq => ?_) nodup_range'
    rw [mem_range'_1] at hm hn
    exact hinjective m n hm.1 hm.2 hn.1 hn.2 heq
  have hsubset : (range' start count).map candidate ⊆ refused := by
    intro value hvalue
    obtain ⟨n, hn, rfl⟩ := mem_map.mp hvalue
    rw [mem_range'_1] at hn
    exact hall n hn.1 hn.2
  have hle := (subperm_of_subset hnodup hsubset).length_le
  rw [length_map, length_range'] at hle
  omega

end Ntvdmex.Foundation
