import Mathlib

/-!
# Announcements

A trace of events in which some announce an item and some take one.  The announcements
alternate with the takes when no stretch without a take holds two of them; a flag that is set
with every announcement and cleared with every take keeps them so.
-/

namespace Ntvdmex.Foundation.Announcements

open List

variable {ε : Type*} (isRaise isTake : ε → Bool)

/-- The announcements since the last take. -/
def outstanding (trace : List ε) : Nat :=
  trace.foldl (fun count event =>
    if isTake event then 0 else if isRaise event then count + 1 else count) 0

/-- No stretch without a take holds two announcements. -/
def Alternates (trace : List ε) : Prop :=
  ∀ before stretch after, trace = before ++ stretch ++ after →
    (∀ event ∈ stretch, isTake event = false) → stretch.countP isRaise ≤ 1

/-- An announcement that no take follows. -/
def Standing (trace : List ε) : Prop :=
  ∃ before event after, trace = before ++ event :: after ∧ isRaise event = true ∧
    ∀ later ∈ after, isTake later = false

/-- The flag of the device: clear only when nothing is outstanding. -/
structure Announces (trace : List ε) (flag : Bool) : Prop where
  alternates : Alternates isRaise isTake trace
  outstanding_le : outstanding isRaise isTake trace ≤ flag.toNat

variable {isRaise isTake} {trace : List ε} {event : ε} {flag : Bool}

@[simp]
theorem outstanding_nil : outstanding isRaise isTake [] = 0 := rfl

theorem outstanding_concat (trace : List ε) (event : ε) :
    outstanding isRaise isTake (trace ++ [event]) =
      if isTake event then 0
      else if isRaise event then outstanding isRaise isTake trace + 1
      else outstanding isRaise isTake trace := by
  simp [outstanding, foldl_append]

theorem outstanding_append (before : List ε) {stretch : List ε}
    (hstretch : ∀ event ∈ stretch, isTake event = false) :
    outstanding isRaise isTake (before ++ stretch) =
      outstanding isRaise isTake before + stretch.countP isRaise := by
  induction stretch using reverseRecOn with
  | nil => simp
  | append_singleton stretch event ih =>
    have hlast : isTake event = false := hstretch event (by simp)
    have hfront := ih fun other hother => hstretch other (by simp [hother])
    rw [← append_assoc, outstanding_concat, hlast, hfront, countP_append,
      countP_singleton]
    by_cases hraise : isRaise event
    · simp [hraise, Nat.add_assoc]
    · simp [hraise]

theorem standing_of_outstanding (h : outstanding isRaise isTake trace ≠ 0) :
    Standing isRaise isTake trace := by
  induction trace using reverseRecOn with
  | nil => exact absurd outstanding_nil h
  | append_singleton trace event ih =>
    rw [outstanding_concat] at h
    by_cases htake : isTake event
    · simp [htake] at h
    · by_cases hraise : isRaise event
      · exact ⟨trace, event, [], rfl, hraise, by simp⟩
      · simp only [htake, hraise, if_false, Bool.false_eq_true] at h
        obtain ⟨before, first, after, hsplit, hfirst, hafter⟩ := ih h
        refine ⟨before, first, after ++ [event], by simp [hsplit], hfirst, ?_⟩
        intro later hlater
        rcases mem_append.mp hlater with hin | hat
        · exact hafter later hin
        · rw [mem_singleton.mp hat]
          exact Bool.eq_false_of_not_eq_true htake

theorem Alternates.concat (h : Alternates isRaise isTake trace)
    (hone : outstanding isRaise isTake (trace ++ [event]) ≤ 1) :
    Alternates isRaise isTake (trace ++ [event]) := by
  intro before stretch after hsplit hstretch
  rcases eq_nil_or_concat after with rfl | ⟨front, last, rfl⟩
  · rw [hsplit, append_nil, outstanding_append before hstretch] at hone
    omega
  · have hfront : trace = before ++ stretch ++ front := by
      rw [concat_eq_append, ← append_assoc] at hsplit
      exact append_inj_left' hsplit rfl
    exact h before stretch front hfront hstretch

theorem announces_nil (flag : Bool) : Announces isRaise isTake [] flag where
  alternates := by
    intro before stretch after hsplit _
    have hnil : stretch = [] :=
      (append_eq_nil_iff.mp (append_eq_nil_iff.mp hsplit.symm).1).2
    simp [hnil]
  outstanding_le := by simp

theorem Announces.set (h : Announces isRaise isTake trace flag) :
    Announces isRaise isTake trace true :=
  ⟨h.alternates, h.outstanding_le.trans (by cases flag <;> simp)⟩

theorem Announces.other (h : Announces isRaise isTake trace flag) (hraise : isRaise event = false)
    (htake : isTake event = false) : Announces isRaise isTake (trace ++ [event]) flag := by
  have hsame : outstanding isRaise isTake (trace ++ [event]) =
      outstanding isRaise isTake trace := by
    rw [outstanding_concat, htake, hraise]
    rfl
  have hle := h.outstanding_le
  refine ⟨h.alternates.concat ?_, by rw [hsame]; exact hle⟩
  rw [hsame]
  exact hle.trans (Bool.toNat_le flag)

theorem Announces.raise (h : Announces isRaise isTake trace false) (event : ε) :
    Announces isRaise isTake (trace ++ [event]) true := by
  have hnone : outstanding isRaise isTake trace = 0 := Nat.le_zero.mp h.outstanding_le
  have hone : outstanding isRaise isTake (trace ++ [event]) ≤ 1 := by
    rw [outstanding_concat, hnone]
    split_ifs <;> simp
  exact ⟨h.alternates.concat hone, hone⟩

theorem Announces.take (h : Announces isRaise isTake trace flag) (htake : isTake event = true) :
    Announces isRaise isTake (trace ++ [event]) false := by
  have hnone : outstanding isRaise isTake (trace ++ [event]) = 0 := by
    rw [outstanding_concat, htake]
    rfl
  exact ⟨h.alternates.concat (by omega), hnone.le⟩

end Ntvdmex.Foundation.Announcements
