import Mathlib

/-!
# Tilings of an interval

A list of tiles, each with a length, laid end to end from a starting point.
`extent` is the ground they cover and `placed` pairs each tile with the point
where it starts.  The facts here are the geometric half of a contiguous heap:
tiles never overlap and together they leave no point out.
-/

namespace Ntvdmex.Foundation.Tiling

open List Prod

variable {α : Type} (len : α → Nat)

/-- The ground a list of tiles covers. -/
def extent : List α → Nat
  | [] => 0
  | x :: xs => len x + extent xs

/-- Each tile with its starting point. -/
def placed : Nat → List α → List (Nat × α)
  | _, [] => []
  | start, x :: xs => (start, x) :: placed (start + len x) xs

@[simp] theorem extent_nil : extent len [] = 0 := rfl

@[simp] theorem extent_cons (x : α) (xs : List α) :
    extent len (x :: xs) = len x + extent len xs := rfl

theorem extent_append (xs ys : List α) :
    extent len (xs ++ ys) = extent len xs + extent len ys := by
  induction xs with
  | nil => simp
  | cons x xs ih =>
    rw [cons_append, extent_cons, extent_cons, ih]
    omega

@[simp] theorem placed_nil (start : Nat) : placed len start [] = [] := rfl

@[simp] theorem placed_cons (start : Nat) (x : α) (xs : List α) :
    placed len start (x :: xs) = (start, x) :: placed len (start + len x) xs := rfl

theorem placed_append (start : Nat) (xs ys : List α) :
    placed len start (xs ++ ys) =
      placed len start xs ++ placed len (start + extent len xs) ys := by
  induction xs generalizing start with
  | nil => simp
  | cons x xs ih =>
    rw [cons_append, placed_cons, placed_cons, ih, extent_cons,
      cons_append, Nat.add_assoc]

theorem exists_append_of_mem_placed {start p : Nat} {x : α} {xs : List α}
    (h : (p, x) ∈ placed len start xs) :
    ∃ pre suf, xs = pre ++ x :: suf ∧ p = start + extent len pre := by
  induction xs generalizing start with
  | nil => simp at h
  | cons y ys ih =>
    rw [placed_cons, mem_cons] at h
    rcases h with h | h
    · obtain ⟨rfl, rfl⟩ := mk.inj h
      exact ⟨[], ys, rfl, rfl⟩
    · obtain ⟨pre, suf, rfl, rfl⟩ := ih h
      exact ⟨y :: pre, suf, rfl, by rw [extent_cons]; omega⟩

theorem placed_bounds {start p : Nat} {x : α} {xs : List α}
    (h : (p, x) ∈ placed len start xs) :
    start ≤ p ∧ p + len x ≤ start + extent len xs := by
  obtain ⟨pre, suf, rfl, rfl⟩ := exists_append_of_mem_placed len h
  rw [extent_append, extent_cons]
  omega

/-- Of two placed tiles, one ends before the other starts, unless they are the
same tile. -/
theorem placed_disjoint {start p q : Nat} {x y : α} {xs : List α}
    (hx : (p, x) ∈ placed len start xs) (hy : (q, y) ∈ placed len start xs) :
    (p = q ∧ x = y) ∨ p + len x ≤ q ∨ q + len y ≤ p := by
  induction xs generalizing start with
  | nil => simp at hx
  | cons z zs ih =>
    rw [placed_cons, mem_cons] at hx hy
    rcases hx with hx | hx <;> rcases hy with hy | hy
    · obtain ⟨rfl, rfl⟩ := mk.inj hx
      obtain ⟨rfl, rfl⟩ := mk.inj hy
      exact Or.inl ⟨rfl, rfl⟩
    · obtain ⟨rfl, rfl⟩ := mk.inj hx
      exact Or.inr (Or.inl (placed_bounds len hy).1)
    · obtain ⟨rfl, rfl⟩ := mk.inj hy
      exact Or.inr (Or.inr (placed_bounds len hx).1)
    · exact ih hx hy

theorem exists_placed_of_lt {start point : Nat} {xs : List α}
    (hlow : start ≤ point) (hhigh : point < start + extent len xs) :
    ∃ p x, (p, x) ∈ placed len start xs ∧ p ≤ point ∧ point < p + len x := by
  induction xs generalizing start with
  | nil =>
    rw [extent_nil] at hhigh
    lia
  | cons z zs ih =>
    rw [extent_cons] at hhigh
    by_cases hz : point < start + len z
    · exact ⟨start, z, by simp, hlow, hz⟩
    · have hstart : start + len z ≤ point := by lia
      obtain ⟨p, x, hmem, hle, hlt⟩ := ih hstart (by lia)
      exact ⟨p, x, by rw [placed_cons]; exact mem_cons_of_mem _ hmem, hle, hlt⟩

end Ntvdmex.Foundation.Tiling
