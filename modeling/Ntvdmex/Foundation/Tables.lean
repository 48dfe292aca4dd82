import Mathlib

/-!
# Fixed tables of slots

A table of `n` slots searched from the first slot on and updated one slot at a
time: which slot a search finds, how an update changes the sum of a size over
the slots, and when an update keeps a relation between any two slots.
-/

namespace Ntvdmex.Foundation

open Function Finset List

variable {n : Nat} {α : Type*}

/-- The first slot that satisfies `p`. -/
def firstSlot (p : Fin n → Bool) : Option (Fin n) :=
  (List.finRange n).find? p

variable {slot : Fin n}

theorem firstSlot_some {p : Fin n → Bool} (h : firstSlot p = some slot) : p slot = true :=
  find?_some h

theorem firstSlot_none {p : Fin n → Bool} (h : firstSlot p = none) (slot : Fin n) :
    p slot = false := by
  have hall := find?_eq_none.1 h slot (mem_finRange slot)
  simpa using hall

variable (size : α → Nat) (table : Fin n → α)

def tableSum : Nat :=
  ∑ slot, size (table slot)

theorem tableSum_update (slot : Fin n) (entry : α) :
    tableSum size (Function.update table slot entry) + size (table slot) =
      tableSum size table + size entry := by
  have hsplit : ∀ t : Fin n → α,
      tableSum size t =
        size (t slot) + ∑ other ∈ univ.erase slot, size (t other) := by
    intro t
    exact (add_sum_erase _ _ (mem_univ slot)).symm
  have hrest : ∑ other ∈ univ.erase slot, size (Function.update table slot entry other)
      = ∑ other ∈ univ.erase slot, size (table other) := by
    apply sum_congr rfl
    intro other hother
    rw [update_of_ne (ne_of_mem_erase hother)]
  rw [hsplit table, hsplit (Function.update table slot entry), hrest, update_self]
  omega

theorem size_le_tableSum (slot : Fin n) : size (table slot) ≤ tableSum size table :=
  single_le_sum (f := fun other => size (table other)) (fun _ _ => Nat.zero_le _)
    (mem_univ slot)

theorem tableSum_of_zero {size : α → Nat} {table : Fin n → α}
    (h : ∀ slot, size (table slot) = 0) : tableSum size table = 0 :=
  sum_eq_zero fun slot _ => h slot

theorem forall_update {p : α → Prop} {table : Fin n → α} {entry : α}
    (h : ∀ other, p (table other)) (hentry : p entry) (other : Fin n) :
    p (Function.update table slot entry other) := by
  by_cases hother : other = slot
  · subst hother
    rwa [update_self]
  · rw [update_of_ne hother]
    exact h other

/-- A symmetric relation between different slots survives an update by an entry
that is related to every other slot. -/
theorem pairwise_update {r : α → α → Prop} (hsymm : ∀ a b, r a b → r b a) {table : Fin n → α}
    {entry : α} (h : ∀ left right, left ≠ right → r (table left) (table right))
    (hentry : ∀ other, other ≠ slot → r entry (table other)) (left right : Fin n)
    (hne : left ≠ right) :
    r (Function.update table slot entry left) (Function.update table slot entry right) := by
  by_cases hleft : left = slot
  · subst hleft
    rw [update_self, update_of_ne (Ne.symm hne)]
    exact hentry right (Ne.symm hne)
  · rw [update_of_ne hleft]
    by_cases hright : right = slot
    · subst hright
      rw [update_self]
      exact hsymm _ _ (hentry left hleft)
    · rw [update_of_ne hright]
      exact h left right hne

/-- A loop over different slots that rewrites each one from its own entry. -/
theorem foldl_update (f : α → α) {slots : List (Fin n)} (hslots : slots.Nodup)
    (table : Fin n → α) :
    slots.foldl (fun table slot => Function.update table slot (f (table slot))) table =
      fun slot => if slot ∈ slots then f (table slot) else table slot := by
  induction slots generalizing table with
  | nil =>
    funext slot
    rw [foldl_nil, if_neg not_mem_nil]
  | cons first slots ih =>
    obtain ⟨hfirst, hrest⟩ := nodup_cons.1 hslots
    rw [foldl_cons, ih hrest]
    funext slot
    by_cases hslot : slot = first
    · subst hslot
      rw [if_neg hfirst, update_self, if_pos List.mem_cons_self]
    · rw [update_of_ne hslot]
      simp only [List.mem_cons, hslot, false_or]

theorem foldl_finRange_update (f : α → α) (table : Fin n → α) :
    (finRange n).foldl
        (fun table slot => Function.update table slot (f (table slot))) table =
      fun slot => f (table slot) := by
  rw [foldl_update f (nodup_finRange n)]
  funext slot
  rw [if_pos (mem_finRange slot)]

end Ntvdmex.Foundation
