import Mathlib

/-!
# Lines and their priorities

A register with one bit for each line, and the list of lines it stands for.
-/

namespace Ntvdmex.Foundation

open List BitVec Int

variable {width : Nat}

/-- The register with the bit of `line` alone. -/
def lineBit (line : Nat) : BitVec width := BitVec.ofNat width 1 <<< line

theorem getLsbD_lineBit (line other : Nat) :
    (lineBit line : BitVec width).getLsbD other = (decide (other < width) && decide (other =
      line)) := by
  rw [lineBit, getLsbD_shiftLeft, BitVec.getLsbD_one]
  by_cases hother : other < width <;> by_cases heq : other = line <;>
    by_cases hlt : other < line <;> simp [hother, heq, hlt] <;> lia

/-- The bits of `register` are exactly `lines`. -/
def Holds (register : BitVec width) (lines : List Nat) : Prop :=
  ∀ line, register.getLsbD line = true ↔ line ∈ lines

theorem holds_zero : Holds (BitVec.ofNat width 0) [] := by
  intro line
  simp

section

variable {register : BitVec width} {lines : List Nat} (h : Holds register lines)

include h

theorem Holds.lt_width {line : Nat} (hline : line ∈ lines) : line < width :=
  lt_of_getLsbD ((h line).mpr hline)

theorem Holds.set
    {line : Nat} (hline : line < width) : Holds (register ||| lineBit line) (line :: lines) := by
  intro other
  rw [getLsbD_or, getLsbD_lineBit, mem_cons, ← h other]
  by_cases heq : other = line
  · subst heq
    simp [hline]
  · simp [heq]

theorem Holds.clear
    (line : Nat) : Holds (register &&& ~~~ lineBit line) (lines.filter (· ≠ line)) := by
  intro other
  rw [getLsbD_and, getLsbD_not, getLsbD_lineBit, mem_filter, ← h other]
  by_cases hother : other < width
  · by_cases heq : other = line <;> simp [hother, heq]
  · have hbit : register.getLsbD other = false := getLsbD_of_ge _ _ (by omega)
    simp [hbit]

theorem Holds.eq_zero_iff : register = BitVec.ofNat width 0 ↔ lines = [] := by
  constructor
  · rintro rfl
    refine eq_nil_iff_forall_not_mem.mpr fun line hline => ?_
    have hbit := (h line).mpr hline
    simp at hbit
  · rintro rfl
    apply eq_of_getLsbD_eq
    intro line _
    have hbit : ¬ register.getLsbD line = true := fun hbit => by simpa using (h line).mp hbit
    simpa using hbit

end

/-! ## Lines nested by priority

The line entered last stands first, and the lower line has the higher priority. -/

def Nested (lines : List Nat) : Prop := lines.Pairwise (· < ·)

theorem Nested.push {lines : List Nat} (h : Nested lines) {line : Nat}
    (hline : ∀ other ∈ lines, line < other) : Nested (line :: lines) :=
  pairwise_cons.mpr ⟨hline, h⟩

theorem Nested.filter {lines : List Nat} (h : Nested lines) (p : Nat → Bool) :
    Nested (lines.filter p) :=
  List.Pairwise.filter p h

theorem Nested.filter_head {line : Nat} {lines : List Nat} (h : Nested (line :: lines)) :
    (line :: lines).filter (· ≠ line) = lines := by
  have hlines := (pairwise_cons.mp h).1
  rw [filter_cons_of_neg (by simp)]
  refine filter_eq_self.mpr fun other hother => ?_
  have := hlines other hother
  simp
  omega

/-!
## Priorities in a ring

Lines in a ring of which one is the lowest: the line after it comes first, and so on around to
the lowest line itself.
-/

variable (size lowest : Nat)

/-- The place of a line, counted from the highest priority. -/
def ringRank (line : Nat) : Nat := (((line : Int) - lowest - 1) % size).toNat

def ringLines : List Nat := (List.range size).map fun rank => (lowest + 1 + rank) % size

variable {size lowest}

theorem ringRank_lt (hsize : 0 < size) (line : Nat) : ringRank size lowest line < size := by
  unfold ringRank
  have hlt : ((line : Int) - lowest - 1) % size < size := emod_lt_of_pos _ (by omega)
  omega

theorem ringRank_ringLine {rank : Nat} (hrank : rank < size) :
    ringRank size lowest ((lowest + 1 + rank) % size) = rank := by
  unfold ringRank
  have hmod : (((lowest + 1 + rank) % size : Nat) - (lowest : Int) - 1) % (size : Int) = rank := by
    have hcast : (((lowest + 1 + rank) % size : Nat) : Int) =
        ((lowest : Int) + 1 + rank) % (size : Int) := by push_cast; rfl
    have hback : ((lowest : Int) + 1 + rank) % (size : Int) - lowest - 1 =
        ((lowest : Int) + 1 + rank) % (size : Int) - (lowest + 1) := by ring
    rw [hcast, hback, emod_sub_emod]
    have hrest : (lowest : Int) + 1 + rank - (lowest + 1) = rank := by ring
    rw [hrest]
    exact emod_eq_of_lt (by omega) (by omega)
  rw [hmod]
  exact toNat_natCast rank

theorem ringLine_ringRank {line : Nat} (hline : line < size) :
    (lowest + 1 + ringRank size lowest line) % size = line := by
  have hnonneg : 0 ≤ ((line : Int) - lowest - 1) % size := emod_nonneg _ (by omega)
  have hrank : ((ringRank size lowest line : Nat) : Int) = ((line : Int) - lowest - 1) % size :=
    toNat_of_nonneg hnonneg
  have hcast : (((lowest + 1 + ringRank size lowest line) % size : Nat) : Int) = line := by
    push_cast
    rw [hrank, add_emod_emod]
    have hrest : (lowest : Int) + 1 + ((line : Int) - lowest - 1) = line := by ring
    rw [hrest]
    exact emod_eq_of_lt (by omega) (by omega)
  exact_mod_cast hcast

theorem mem_ringLines {line : Nat} : line ∈ ringLines size lowest ↔ line < size := by
  unfold ringLines
  rw [mem_map]
  constructor
  · rintro ⟨rank, hrank, rfl⟩
    exact Nat.mod_lt _ (by have := mem_range.mp hrank; omega)
  · intro hline
    exact ⟨ringRank size lowest line, mem_range.mpr (ringRank_lt (by omega) line),
      ringLine_ringRank hline⟩

variable {wanted : Nat → Bool}

theorem ringLines_find?_eq_none :
    (ringLines size lowest).find? wanted = none ↔ ∀ line < size, wanted line = false := by
  rw [find?_eq_none]
  constructor
  · intro h line hline
    exact Bool.eq_false_iff.mpr (h line (mem_ringLines.mpr hline))
  · intro h line hline
    rw [h line (mem_ringLines.mp hline)]
    decide

theorem ringLines_find?_eq_some {line : Nat} (h : (ringLines size lowest).find? wanted = some line) :
    line < size ∧ wanted line = true ∧
      ∀ other < size, wanted other = true → other ≠ line →
        ringRank size lowest line < ringRank size lowest other := by
  have hline : line < size := mem_ringLines.mp (mem_of_find?_eq_some h)
  refine ⟨hline, find?_some h, ?_⟩
  intro other hother hwanted hne
  unfold ringLines at h
  rw [find?_map, Option.map_eq_some_iff] at h
  obtain ⟨rank, hrank, rfl⟩ := h
  obtain ⟨-, hmem, hbefore⟩ := find?_range_eq_some.mp hrank
  rw [ringRank_ringLine (mem_range.mp hmem)]
  have hneq : ringRank size lowest other ≠ rank := by
    intro heq
    rw [← heq, ringLine_ringRank hother] at hne
    exact hne rfl
  by_contra hle
  have hfirst := hbefore (ringRank size lowest other) (by omega)
  rw [Function.comp_apply, ringLine_ringRank hother, hwanted] at hfirst
  exact absurd hfirst (by decide)

end Ntvdmex.Foundation
