import Mathlib

/-!
# Rings

A circular buffer: slots indexed modulo their number, and the list that a head and a
count read out of them.  Appending writes the slot behind the last; an entry leaves the
middle when the entries ahead of it each move one slot on and the head follows.
-/

namespace Ntvdmex.Foundation.Ring

open Nat

variable {α : Type*} {capacity : Nat} [NeZero capacity]

/-- The slot at `index` modulo the capacity. -/
def slot (slots : Vector α capacity) (index : Nat) : α :=
  slots[Fin.ofNat capacity index]

/-- `value` stored in the slot at `index` modulo the capacity. -/
def store (slots : Vector α capacity) (index : Nat) (value : α) : Vector α capacity :=
  slots.set (Fin.ofNat capacity index).val value (Fin.ofNat capacity index).isLt

/-- The entries from `head` on, `count` of them. -/
def contents (slots : Vector α capacity) (head count : Nat) : List α :=
  (List.range count).map fun offset => slot slots (head + offset)

/-- The entries ahead of `position`, each moved one slot on: the entry at `position` is
overwritten and the slot at `head` is free. -/
def closeUp (slots : Vector α capacity) (head : Nat) : Nat → Vector α capacity
  | 0 => slots
  | position + 1 =>
    closeUp (store slots (head + position + 1) (slot slots (head + position))) head position

variable (slots : Vector α capacity) {tail : Nat} (index : Nat) (value : α)

theorem slot_store (other : Nat) (value : α) : slot (store slots index value) other =
      if index % capacity = other % capacity then value else slot slots other := by
  simp only [slot, store, Fin.getElem_fin, Fin.val_ofNat]
  rw [Vector.getElem_set]

theorem slot_mod : slot slots (index % capacity) = slot slots index := by
  simp [slot]

theorem store_mod : store slots (index % capacity) value = store slots index value := by
  simp [store]

theorem slot_add_mod (head offset : Nat) :
    slot slots (head % capacity + offset) = slot slots (head + offset) := by
  rw [← slot_mod, mod_add_mod, slot_mod]

omit [NeZero capacity] in
theorem offset_ne {head first second : Nat} (hlt : first < second)
    (hturn : second < first + capacity) :
    (head + first) % capacity ≠ (head + second) % capacity := by
  intro heq
  have hmod : first ≡ second [MOD capacity] := Nat.ModEq.add_left_cancel' head heq
  have hdvd : capacity ∣ second - first := (modEq_iff_dvd' hlt.le).mp hmod
  have hle : capacity ≤ second - first := le_of_dvd (by omega) hdvd
  omega

/-! ## What the contents are -/

@[simp]
theorem contents_length (head count : Nat) : (contents slots head count).length = count := by
  simp [contents]

@[simp]
theorem contents_zero (head : Nat) : contents slots head 0 = [] := rfl

@[simp]
theorem getElem?_contents (head count offset : Nat) : (contents slots head count)[offset]? =
      if offset < count then some (slot slots (head + offset)) else none := by
  unfold contents
  rw [List.getElem?_map]
  by_cases hlt : offset < count
  · rw [if_pos hlt, List.getElem?_range hlt, Option.map_some]
  · rw [if_neg hlt, List.getElem?_eq_none (by rw [List.length_range]; omega), Option.map_none]

theorem contents_succ (head count : Nat) :
    contents slots head (count + 1) = contents slots head count ++ [slot slots (head + count)] := by
  simp [contents, List.range_succ]

theorem contents_cons (head count : Nat) :
    contents slots head (count + 1) = slot slots head :: contents slots (head + 1) count := by
  apply List.ext_getElem?
  intro offset
  cases offset with
  | zero => rw [getElem?_contents, if_pos (succ_pos count)]; rfl
  | succ offset => simp [Nat.add_comm, Nat.add_left_comm]

theorem contents_mod (head count : Nat) :
    contents slots (head % capacity) count = contents slots head count := by
  unfold contents
  simp only [slot_add_mod]

theorem contents_store_outside {slots : Vector α capacity} {head count index : Nat} {value : α}
    (houtside : ∀ offset < count, index % capacity ≠ (head + offset) % capacity) :
    contents (store slots index value) head count = contents slots head count := by
  apply List.ext_getElem?
  intro offset
  rw [getElem?_contents, getElem?_contents]
  by_cases hlt : offset < count
  · rw [if_pos hlt, if_pos hlt, slot_store, if_neg (houtside offset hlt)]
  · rw [if_neg hlt, if_neg hlt]

theorem contents_append {slots : Vector α capacity} {head count : Nat}
    (hcount : count < capacity) : contents (store slots (head + count) value) head (count + 1) =
      contents slots head count ++ [value] := by
  rw [contents_succ, slot_store, if_pos rfl, contents_store_outside]
  intro offset hoffset
  exact (offset_ne hoffset (by omega)).symm

/-- Writing the newest entry replaces it. -/
theorem contents_replace_last {slots : Vector α capacity} {head count : Nat}
    (hcount : count < capacity) : contents (store slots (head + count) value) head (count + 1) =
      (contents slots head (count + 1)).dropLast ++ [value] := by
  rw [contents_append value hcount, contents_succ, List.dropLast_concat]

/-- The entry at `position` is gone and the others keep their order. -/
theorem contents_closeUp {head count position : Nat} (hposition : position < count + 1)
    (hcount : count < capacity) : contents (closeUp slots head position) (head + 1) count =
      (contents slots head (count + 1)).eraseIdx position := by
  induction position generalizing slots with
  | zero => rw [contents_cons, List.eraseIdx_zero, List.tail_cons]; rfl
  | succ position ih =>
    unfold closeUp
    rw [ih _ (by lia)]
    apply List.ext_getElem?
    intro offset
    have hnext : ∀ other, slot (store slots (head + position + 1) (slot slots (head + position)))
        (head + other) = if other = position + 1 ∨ (head + position + 1) % capacity =
          (head + other) % capacity then slot slots (head + position)
          else slot slots (head + other) := by
      intro other
      rw [slot_store]
      by_cases hother : other = position + 1
      · rw [hother, if_pos (by rw [Nat.add_assoc]), if_pos (.inl rfl)]
      · by_cases hmod : (head + position + 1) % capacity = (head + other) % capacity
        · rw [if_pos hmod, if_pos (.inr hmod)]
        · rw [if_neg hmod, if_neg (by simp [hother, hmod])]
    have hapart : ∀ other, other < count + 1 → other ≠ position + 1 →
        (head + position + 1) % capacity ≠ (head + other) % capacity := by
      intro other hlt hne
      rw [Nat.add_assoc]
      rcases Nat.lt_or_gt_of_ne hne with hbelow | habove
      · exact (offset_ne hbelow (by lia)).symm
      · exact offset_ne habove (by lia)
    simp only [List.getElem?_eraseIdx, getElem?_contents, hnext]
    rcases Nat.lt_trichotomy offset position with hbelow | hat | habove
    · have hfalse := hapart offset (by lia) (by lia)
      rw [if_pos hbelow, if_pos (by lia), if_pos (by lia : offset < position + 1),
        if_neg (by simp [hfalse]; lia), if_pos (by lia)]
    · rw [hat, if_neg (Nat.lt_irrefl _), if_pos (by lia), if_pos (.inl rfl),
        if_pos (by lia), if_pos (by lia)]
    · rw [if_neg (by lia), if_neg (by lia : ¬offset < position + 1)]
      by_cases hlt : offset + 1 < count + 1
      · have hfalse := hapart (offset + 1) hlt (by lia)
        rw [if_pos hlt, if_pos hlt, if_neg (by simp [hfalse]; lia)]
      · rw [if_neg hlt, if_neg hlt]

/-! ## Two indices

A ring that keeps where the next entry goes and where the oldest one is, and no count: equal
indices are the empty ring, so one slot always stays free. -/

/-- How many entries stand between the two indices. -/
def gap (capacity head tail : Nat) : Nat :=
  if head < tail then head + capacity - tail else head - tail

/-- The entries between the two indices, oldest first. -/
def between (slots : Vector α capacity) (head tail : Nat) : List α :=
  contents slots tail (gap capacity head tail)

omit [NeZero capacity] in
theorem next_of_lt {index : Nat} (hindex : index < capacity) :
    (index + 1) % capacity = if index + 1 = capacity then 0 else index + 1 := by
  by_cases hlast : index + 1 = capacity
  · rw [if_pos hlast, hlast, mod_self]
  · rw [if_neg hlast, mod_eq_of_lt (by omega)]

omit [NeZero capacity] in
theorem tail_add_gap {head : Nat} (hhead : head < capacity) (htail : tail < capacity) :
    (tail + gap capacity head tail) % capacity = head := by
  unfold gap
  by_cases hlt : head < tail
  · rw [if_pos hlt, show tail + (head + capacity - tail) = head + capacity by lia,
      add_mod_right, mod_eq_of_lt hhead]
  · rw [if_neg hlt, show tail + (head - tail) = head by lia, mod_eq_of_lt hhead]

theorem between_self : between slots index index = [] := by
  simp [between, gap]

theorem between_push {slots : Vector α capacity} {head : Nat} (hhead : head < capacity)
    (htail : tail < capacity) (hfree : (head + 1) % capacity ≠ tail) :
    between (store slots head value) ((head + 1) % capacity) tail =
      between slots head tail ++ [value] := by
  have hgap : gap capacity ((head + 1) % capacity) tail = gap capacity head tail + 1 ∧
      gap capacity head tail < capacity := by
    rw [next_of_lt hhead] at hfree ⊢
    unfold gap
    split_ifs at hfree ⊢ <;> lia
  have hstore : store slots head value = store slots (tail + gap capacity head tail) value := by
    rw [← store_mod slots (tail + gap capacity head tail), tail_add_gap hhead htail]
  unfold between
  rw [hgap.1, hstore, contents_append value hgap.2]

theorem between_pop {head : Nat} (hhead : head < capacity) (htail : tail < capacity)
    (hne : head ≠ tail) :
    between slots head tail = slot slots tail :: between slots head ((tail + 1) % capacity) := by
  have hgap : gap capacity head tail = gap capacity head ((tail + 1) % capacity) + 1 := by
    rw [next_of_lt htail]
    unfold gap
    split_ifs <;> lia
  unfold between
  rw [hgap, contents_cons, contents_mod]

end Ntvdmex.Foundation.Ring
