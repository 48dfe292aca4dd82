import Ntvdmex.Host.CpuSpeed

/-!
# What slicing costs the instruction pacer

A charge drops the fraction of a microsecond that its division leaves, so the time a run of
slices loses is the sum of these fractions.
-/

namespace Ntvdmex.Host.CpuSpeed

/-- The instructions of a slice, and the time they took. -/
structure Slice where
  ran : Nat
  elapsedUs : Int

variable (rate : Nat)

/-- The pace after the slices, and the milliseconds slept for them. -/
def paceAfter : CpuSpeedPace → List Slice → Int × CpuSpeedPace
  | pace, [] => (0, pace)
  | pace, slice :: slices =>
    let charged := cpuSpeedCharge pace slice.ran rate slice.elapsedUs
    let rest := paceAfter charged.2 slices
    (charged.1 + rest.1, rest.2)

/-- Neither the floor nor the ceiling of the debt is met. -/
def Unclamped : CpuSpeedPace → List Slice → Prop
  | _, [] => True
  | pace, slice :: slices =>
    (if slice.ran = 0 then 0 ≤ pace.owedUs
      else 0 ≤ pace.debt slice.ran rate slice.elapsedUs ∧
        pace.debt slice.ran rate slice.elapsedUs ≤ cpuSpeedMaxDebtUs) ∧
      Unclamped (cpuSpeedCharge pace slice.ran rate slice.elapsedUs).2 slices

/-- What a charge leaves out, in parts of a microsecond of which `rate` make a whole one: the
rest of its division, or the time of a slice that ran nothing. -/
def Slice.leftOut (slice : Slice) : Int :=
  if slice.ran = 0 then -(rate * slice.elapsedUs)
  else (slice.ran * microsecondsPerSecond).tmod rate

def leftOut (slices : List Slice) : Int := (slices.map (Slice.leftOut rate)).sum

/-- The milliseconds slept and the debt that stays are the time the instructions should have
taken, to within a microsecond. -/
def LosesNoTime (pace : CpuSpeedPace) (slices : List Slice) : Prop :=
  |(1000 * (paceAfter rate pace slices).1 + (paceAfter rate pace slices).2.owedUs : ℚ) -
    ((slices.map fun slice => (slice.ran : ℚ)).sum * 10 ^ 6 / rate -
      (slices.map fun slice => (slice.elapsedUs : ℚ)).sum + pace.owedUs)| < 1

/-- A debt below a millisecond. -/
def CpuSpeedPace.IsSettled (pace : CpuSpeedPace) : Prop := 0 ≤ pace.owedUs ∧ pace.owedUs < 1000

variable {rate}

theorem cpuSpeedCharge_settles {pace : CpuSpeedPace} (h : pace.IsSettled) (ran : Nat)
    (elapsedUs : Int) :
    (cpuSpeedCharge pace ran rate elapsedUs).2.IsSettled ∧
      0 ≤ (cpuSpeedCharge pace ran rate elapsedUs).1 ∧
      (cpuSpeedCharge pace ran rate elapsedUs).1 ≤ 100 := by
  unfold CpuSpeedPace.IsSettled at h ⊢
  unfold cpuSpeedCharge cpuSpeedMaxDebtUs microsecondsPerMillisecond
  split_ifs with hnone hnegative
  · omega
  · exact ⟨h, by simp⟩
  dsimp only
  generalize pace.debt ran rate elapsedUs = debt
  rw [Int.tdiv_eq_ediv_of_nonneg (by split_ifs <;> omega)]
  split_ifs <;> omega

theorem cpuSpeedCharge_leaves {pace : CpuSpeedPace} {slice : Slice} (hrate : rate ≠ 0)
    (h : if slice.ran = 0 then 0 ≤ pace.owedUs
      else 0 ≤ pace.debt slice.ran rate slice.elapsedUs ∧
        pace.debt slice.ran rate slice.elapsedUs ≤ cpuSpeedMaxDebtUs) :
    rate * (1000 * (cpuSpeedCharge pace slice.ran rate slice.elapsedUs).1 +
        (cpuSpeedCharge pace slice.ran rate slice.elapsedUs).2.owedUs) + slice.leftOut rate =
      slice.ran * 10 ^ 6 - rate * slice.elapsedUs + rate * pace.owedUs := by
  unfold cpuSpeedCharge Slice.leftOut
  by_cases hran : slice.ran = 0
  · rw [if_pos hran] at h
    rw [if_pos (.inr hran), if_pos hran, hran]
    simp only [if_neg (Int.not_lt.mpr h)]
    push_cast
    ring
  · rw [if_neg hran] at h
    have hdivide := Int.mul_tdiv_add_tmod (slice.ran * microsecondsPerSecond) rate
    rw [if_neg (not_or.mpr ⟨hrate, hran⟩), if_neg hran]
    simp only [if_neg (Int.not_lt.mpr h.1), if_neg (Int.not_lt.mpr h.2)]
    unfold CpuSpeedPace.debt microsecondsPerMillisecond
    unfold microsecondsPerSecond at hdivide ⊢
    linear_combination hdivide

theorem paceAfter_leaves (hrate : rate ≠ 0) (slices : List Slice) :
    ∀ pace, Unclamped rate pace slices →
      rate * (1000 * (paceAfter rate pace slices).1 + (paceAfter rate pace slices).2.owedUs) +
          leftOut rate slices =
        (slices.map fun slice => (slice.ran : Int)).sum * 10 ^ 6 -
          rate * (slices.map Slice.elapsedUs).sum + rate * pace.owedUs := by
  induction slices with
  | nil =>
    intro pace _
    simp [paceAfter, leftOut]
  | cons slice slices ih =>
    intro pace h
    have hcharged := cpuSpeedCharge_leaves hrate h.1
    have hrest := ih _ h.2
    simp only [paceAfter, leftOut, List.map_cons, List.sum_cons] at hrest ⊢
    linear_combination hcharged + hrest

def StaysSettled (rate : Nat) (pace : CpuSpeedPace) (slices : List Slice) : Prop :=
  ∀ before slice after, slices = before ++ slice :: after →
    (cpuSpeedCharge (paceAfter rate pace before).2 slice.ran rate slice.elapsedUs).2.IsSettled ∧
    0 ≤ (cpuSpeedCharge (paceAfter rate pace before).2 slice.ran rate slice.elapsedUs).1 ∧
    (cpuSpeedCharge (paceAfter rate pace before).2 slice.ran rate slice.elapsedUs).1 ≤ 100

theorem paceAfter_settled (slices : List Slice) :
    ∀ pace : CpuSpeedPace, pace.IsSettled → (paceAfter rate pace slices).2.IsSettled := by
  induction slices with
  | nil => exact fun pace h => h
  | cons slice slices ih => exact fun pace h => ih _ (cpuSpeedCharge_settles h _ _).1

/-- The debt and the sleeps stay within their bounds, and a run that is not clamped loses no
time just when what its slices leave out comes to less than a microsecond. -/
theorem slices_lose_no_time_iff {index : Nat} (hindex : 0 < index ∧ index < cpuSpeedCount)
    (pace : CpuSpeedPace) (slices : List Slice) :
    (pace.IsSettled → StaysSettled (cpuSpeedInstructionsPerSecond index) pace slices) ∧
      (Unclamped (cpuSpeedInstructionsPerSecond index) pace slices →
        (LosesNoTime (cpuSpeedInstructionsPerSecond index) pace slices ↔
          |leftOut (cpuSpeedInstructionsPerSecond index) slices| <
            cpuSpeedInstructionsPerSecond index)) := by
  refine ⟨fun hpace before slice after _ =>
    cpuSpeedCharge_settles (paceAfter_settled before pace hpace) _ _, fun h => ?_⟩
  have hpositive : 0 < cpuSpeedInstructionsPerSecond index := by
    obtain ⟨hfirst, hlast⟩ := hindex
    unfold cpuSpeedCount at hlast
    interval_cases index <;> decide
  revert h
  generalize cpuSpeedInstructionsPerSecond index = rate at hpositive ⊢
  intro h
  have hleaves := congrArg (Int.cast : Int → ℚ)
    (paceAfter_leaves (Nat.ne_of_gt hpositive) slices pace h)
  have hrate : (0 : ℚ) < rate := Nat.cast_pos.mpr hpositive
  push_cast [List.map_map, Function.comp_def] at hleaves
  unfold LosesNoTime
  have hlost : (1000 * (paceAfter rate pace slices).1 +
      (paceAfter rate pace slices).2.owedUs : ℚ) -
        ((slices.map fun slice => (slice.ran : ℚ)).sum * 10 ^ 6 / rate -
          (slices.map fun slice => (slice.elapsedUs : ℚ)).sum + pace.owedUs) =
      -(leftOut rate slices / rate) := by
    field_simp
    linear_combination hleaves
  rw [hlost, abs_neg, abs_div, abs_of_pos hrate, div_lt_one hrate]
  exact_mod_cast Iff.rfl

theorem slices_lose_no_time_whole : Unclamped (cpuSpeedInstructionsPerSecond 9) ⟨0⟩
      (List.replicate 10 ⟨3300, 0⟩) ∧
    LosesNoTime (cpuSpeedInstructionsPerSecond 9) ⟨0⟩ (List.replicate 10 ⟨3300, 0⟩) := by
  have hfree : Unclamped (cpuSpeedInstructionsPerSecond 9) ⟨0⟩
      (List.replicate 10 ⟨3300, 0⟩) := by
    simp only [List.replicate, Unclamped]
    decide
  exact ⟨hfree, ((slices_lose_no_time_iff (by decide) ⟨0⟩ _).2 hfree).mpr (by decide)⟩

theorem single_instructions_lose_time : Unclamped (cpuSpeedInstructionsPerSecond 9) ⟨0⟩
      (List.replicate 12 ⟨1, 0⟩) ∧
    ¬LosesNoTime (cpuSpeedInstructionsPerSecond 9) ⟨0⟩ (List.replicate 12 ⟨1, 0⟩) := by
  have hrate : cpuSpeedInstructionsPerSecond 9 = 11000000 := by decide
  have hpace : (paceAfter 11000000 ⟨0⟩ (List.replicate 12 ⟨1, 0⟩)).1 = 0 ∧
      (paceAfter 11000000 ⟨0⟩ (List.replicate 12 ⟨1, 0⟩)).2.owedUs = 0 := by decide
  rw [hrate]
  refine ⟨by simp only [List.replicate, Unclamped]; decide, fun h => ?_⟩
  unfold LosesNoTime at h
  rw [hpace.1, hpace.2] at h
  norm_num [abs_lt] at h

end Ntvdmex.Host.CpuSpeed
