import Mathlib

/-!
# Edges sampled against a clock

Two counters of one passing time: edges that come due, and seconds of a clock.  The edges are
handled step by step, each of a step against the second the clock then shows.  When every second
is met by exactly one edge.
-/

namespace Ntvdmex.Foundation

open Finset Nat

/-- Two counters of the same time, which differ in their phase. -/
structure SamePace (edges seconds : ℕ → ℕ) : Prop where
  edges_mono : Monotone edges
  seconds_mono : Monotone seconds
  edges_zero : edges 0 = 0
  seconds_zero : seconds 0 = 0
  phase : (∀ i, edges i ≤ seconds i ∧ seconds i ≤ edges i + 1) ∨
    ∀ i, seconds i ≤ edges i ∧ edges i ≤ seconds i + 1
  drift : ∀ ⦃i k⦄, i ≤ k → seconds k + edges i ≤ seconds i + edges k + 1

/-- Counters of whole periods, from two phases below one. -/
theorem samePace_of_phases {period first second : ℕ} (hfirst : first < period)
    (hsecond : second < period) {elapsed : ℕ → ℕ} (helapsed : Monotone elapsed)
    (hstart : elapsed 0 = 0) :
    SamePace (fun i => (first + elapsed i) / period) fun i => (second + elapsed i) / period where
  edges_mono := fun _ _ h => Nat.div_le_div_right (Nat.add_le_add_left (helapsed h) _)
  seconds_mono := fun _ _ h => Nat.div_le_div_right (Nat.add_le_add_left (helapsed h) _)
  edges_zero := by rw [hstart]; exact div_eq_of_lt hfirst
  seconds_zero := by rw [hstart]; exact div_eq_of_lt hsecond
  phase := by
    have hnext : ∀ {low high : ℕ}, high < period → ∀ passed,
        (high + passed) / period ≤ (low + passed) / period + 1 := by
      intro low high hhigh passed
      rw [← add_div_right _ (zero_lt_of_lt hhigh)]
      exact Nat.div_le_div_right (by lia)
    rcases le_total first second with horder | horder
    · exact .inl fun i => ⟨Nat.div_le_div_right (by lia), hnext hsecond _⟩
    · exact .inr fun i => ⟨Nat.div_le_div_right (by lia), hnext hfirst _⟩
  drift := by
    intro i k hik
    have hpositive : 0 < period := zero_lt_of_lt hfirst
    have hdivFirst := div_add_mod (first + elapsed i) period
    have hdivSecond := div_add_mod (second + elapsed i) period
    have hmodSecond := mod_lt (second + elapsed i) hpositive
    have hdivFirst' := div_add_mod (first + elapsed k) period
    have hdivSecond' := div_add_mod (second + elapsed k) period
    have hmodFirst' := mod_lt (first + elapsed k) hpositive
    by_contra hfar
    have hmul := Nat.mul_le_mul_left period (succ_le_of_lt (Nat.lt_of_not_le hfar))
    lia

section Sampling

variable (edges seconds : ℕ → ℕ)
variable (inQuestion : ℕ → Prop)

def sampled [DecidablePred inQuestion] (i k : ℕ) : ℕ :=
  ∑ j ∈ Ico i k, if inQuestion (seconds (j + 1)) then edges (j + 1) - edges j else 0

/-- In every stretch there is an edge for each second in question that begins and ends within
it, and none but for those it touches. -/
def EachOnce [DecidablePred inQuestion] : Prop :=
  ∀ i k, i ≤ k →
    #{second ∈ Ioo (seconds i) (seconds k) | inQuestion second} ≤
        sampled edges seconds inQuestion i k ∧
      sampled edges seconds inQuestion i k ≤
        #{second ∈ Icc (seconds i) (seconds k) | inQuestion second}

/-- Every step has at most one edge, handled in its own second, or every time in the one
before. -/
def Steady : Prop :=
  ∃ lead ≤ 1, ∀ i, edges i < edges (i + 1) →
    edges (i + 1) = edges i + 1 ∧ seconds (i + 1) + lead = edges (i + 1)

variable {edges seconds}

theorem exists_last_edge (hmono : Monotone edges) {i : ℕ} (h : edges 0 < edges i) :
    ∃ j < i, edges j < edges (j + 1) ∧ edges (j + 1) = edges i := by
  induction i with
  | zero => exact absurd h (lt_irrefl _)
  | succ i ih =>
    rcases (hmono (Nat.le_add_right i 1)).lt_or_eq with hedge | hnone
    · exact ⟨i, lt_succ_self i, hedge, rfl⟩
    · obtain ⟨j, hj, hedge, hlast⟩ := ih (hnone ▸ h)
      exact ⟨j, hj.trans (lt_succ_self i), hedge, hlast.trans hnone⟩

theorem sampled_succ [DecidablePred inQuestion] {i k : ℕ} (h : i ≤ k) :
    sampled edges seconds inQuestion i (k + 1) =
      sampled edges seconds inQuestion i k +
        if inQuestion (seconds (k + 1)) then edges (k + 1) - edges k else 0 :=
  sum_Ico_succ_top h _

theorem sampled_append [DecidablePred inQuestion] {i j k : ℕ} (hij : i ≤ j) (hjk : j ≤ k) :
    sampled edges seconds inQuestion i k =
      sampled edges seconds inQuestion i j + sampled edges seconds inQuestion j k :=
  (sum_Ico_consecutive _ hij hjk).symm

theorem EachOnce.congr {first second : ℕ → Prop} [DecidablePred first] [DecidablePred second]
    (hiff : ∀ value, first value ↔ second value) (h : EachOnce edges seconds first) :
    EachOnce edges seconds second := by
  obtain rfl : first = second := funext fun value => propext (hiff value)
  convert h

theorem sampled_of_steady (hmono : Monotone edges) {lead : ℕ} (hlead : lead ≤ 1)
    (hsteady : ∀ i, edges i < edges (i + 1) →
      edges (i + 1) = edges i + 1 ∧ seconds (i + 1) + lead = edges (i + 1))
    (inQuestion : ℕ → Prop) [DecidablePred inQuestion] {i k : ℕ} (hik : i ≤ k) :
    sampled edges seconds inQuestion i k =
      #{second ∈ Ico (edges i + 1 - lead) (edges k + 1 - lead) | inQuestion second} := by
  induction k, hik using le_induction with
  | base =>
    rw [Ico_self, filter_empty, card_empty]
    unfold sampled
    rw [Ico_self, sum_empty]
  | succ k hik ih =>
    rw [sampled_succ inQuestion hik, ih]
    have hle : edges i ≤ edges k := hmono hik
    rcases (hmono (Nat.le_add_right k 1)).lt_or_eq with hedge | hnone
    · obtain ⟨hone, hsecond⟩ := hsteady k hedge
      have hthis : seconds (k + 1) = edges k + 1 - lead := by lia
      have hnext : edges (k + 1) + 1 - lead = edges k + 1 - lead + 1 := by lia
      have hdiff : edges (k + 1) - edges k = 1 := by lia
      rw [hthis, hdiff, hnext, ← insert_Ico_right_eq_Ico_add_one (by lia), filter_insert]
      split_ifs
      · rw [card_insert_of_notMem (by simp)]
      · rfl
    · rw [hnone, Nat.sub_self, ite_self, Nat.add_zero]

theorem SamePace.near (h : SamePace edges seconds) {lead : ℕ} (hlead : lead ≤ 1)
    (hsteady : ∀ i, edges i < edges (i + 1) →
      edges (i + 1) = edges i + 1 ∧ seconds (i + 1) + lead = edges (i + 1))
    (hsome : lead = 0 ∨ ∃ i, edges i < edges (i + 1)) (i : ℕ) :
    edges i ≤ seconds i + lead ∧ seconds i + lead ≤ edges i + 1 := by
  have hapart : edges i ≤ seconds i + 1 ∧ seconds i ≤ edges i + 1 := by
    rcases h.phase with hlate | hearly
    · have := hlate i
      lia
    · have := hearly i
      lia
  by_cases hzero : lead = 0
  · refine ⟨?_, by lia⟩
    rcases Nat.eq_zero_or_pos (edges i) with hnone | hpositive
    · lia
    · obtain ⟨last, hlast, hedge, hequal⟩ :=
        exists_last_edge h.edges_mono (h.edges_zero.symm ▸ hpositive)
      have hsecond := (hsteady last hedge).2
      have hmono := h.seconds_mono (show last + 1 ≤ i from hlast)
      lia
  · obtain ⟨j, hj⟩ := hsome.resolve_left hzero
    obtain ⟨-, hsecond⟩ := hsteady j hj
    rcases h.phase with hlate | hearly
    · have := hlate (j + 1)
      have := hlate i
      lia
    · have := hearly i
      lia

theorem SamePace.eachOnce_of_steady (h : SamePace edges seconds) (hsteady : Steady edges seconds)
    (inQuestion : ℕ → Prop) [DecidablePred inQuestion] : EachOnce edges seconds inQuestion := by
  have hlead : ∃ lead ≤ 1, (∀ i, edges i < edges (i + 1) →
      edges (i + 1) = edges i + 1 ∧ seconds (i + 1) + lead = edges (i + 1)) ∧
      (lead = 0 ∨ ∃ i, edges i < edges (i + 1)) := by
    obtain ⟨lead, hle, hsteady⟩ := hsteady
    by_cases hsome : ∃ i, edges i < edges (i + 1)
    · exact ⟨lead, hle, hsteady, .inr hsome⟩
    · exact ⟨0, Nat.zero_le 1, fun i hedge => absurd ⟨i, hedge⟩ hsome, .inl rfl⟩
  obtain ⟨lead, hle, hsteady, hsome⟩ := hlead
  intro i k hik
  have hfirst := h.near hle hsteady hsome i
  have hlast := h.near hle hsteady hsome k
  rw [sampled_of_steady h.edges_mono hle hsteady inQuestion hik]
  constructor
  · refine card_le_card (filter_subset_filter _ fun second hsecond => ?_)
    rw [mem_Ioo] at hsecond
    rw [mem_Ico]
    lia
  · refine card_le_card (filter_subset_filter _ fun second hsecond => ?_)
    rw [mem_Ico] at hsecond
    rw [mem_Icc]
    lia

/-! ## Seconds met once are met steadily -/

variable {day : ℕ}

def SameTime (day second other : ℕ) : Prop := other % day = second % day
deriving Decidable

theorem sameTime_self (second : ℕ) : SameTime day second second := rfl

theorem eq_of_sameTime {second other : ℕ} (h : SameTime day second other)
    (hafter : second < other + day) (hbefore : other < second + day) : other = second := by
  unfold SameTime at h
  have hdivSecond := div_add_mod second day
  have hdivOther := div_add_mod other day
  rcases lt_trichotomy (other / day) (second / day) with hlt | heq | hgt
  · have hmul := Nat.mul_le_mul_left day (succ_le_of_lt hlt)
    rw [mul_succ] at hmul
    lia
  · rw [heq, h] at hdivOther
    lia
  · have hmul := Nat.mul_le_mul_left day (succ_le_of_lt hgt)
    rw [mul_succ] at hmul
    lia

section

variable {second : ℕ} (h : EachOnce edges seconds (SameTime day second)) {i k : ℕ} (hik : i ≤ k)

include h hik

theorem EachOnce.sampled_le_one (hbefore : second < seconds i + day)
    (hafter : seconds k < second + day) :
    sampled edges seconds (SameTime day second) i k ≤ 1 := by
  refine (h i k hik).2.trans (card_le_one.mpr fun first hfirst other hother => ?_)
  rw [mem_filter, mem_Icc] at hfirst hother
  rw [eq_of_sameTime hfirst.2 (by lia) (by lia), eq_of_sameTime hother.2 (by lia) (by lia)]

theorem EachOnce.sampled_pos (hbefore : seconds i < second) (hafter : second < seconds k) :
    0 < sampled edges seconds (SameTime day second) i k := by
  refine Nat.lt_of_lt_of_le (card_pos.mpr ⟨second, ?_⟩) (h i k hik).1
  rw [mem_filter, mem_Ioo]
  exact ⟨⟨hbefore, hafter⟩, rfl⟩

end

theorem SamePace.one_edge (h : SamePace edges seconds)
    (hshort : ∀ i, seconds (i + 1) < seconds i + day)
    (honce : ∀ second, EachOnce edges seconds (SameTime day second)) {i : ℕ}
    (hedge : edges i < edges (i + 1)) : edges (i + 1) = edges i + 1 := by
  have hle := (honce (seconds (i + 1))).sampled_le_one (Nat.le_add_right i 1) (hshort i)
    (by have := hshort i; have := h.seconds_mono (Nat.le_add_right i 1); lia)
  rw [sampled_succ _ le_rfl, if_pos (sameTime_self _)] at hle
  lia

section

variable (h : SamePace edges seconds) (hday : 3 < day)
    (honce : ∀ second, EachOnce edges seconds (SameTime day second))

include h hday honce

theorem SamePace.next_second {i k : ℕ} (hik : i < k)
    (hfirst : edges (i + 1) = edges i + 1) (hnone : edges (i + 1) = edges k)
    (hnext : edges (k + 1) = edges k + 1) : seconds (k + 1) = seconds (i + 1) + 1 := by
  have hle : i + 1 ≤ k := hik
  have hmono := h.seconds_mono (show i + 1 ≤ k + 1 by lia)
  have hfirstDrift := h.drift (show i ≤ k + 1 by lia)
  have hnextDrift := h.drift (show i + 1 ≤ k + 1 by lia)
  have hquiet : ∀ inQuestion : ℕ → Prop, ∀ _ : DecidablePred inQuestion,
      sampled edges seconds inQuestion (i + 1) k = 0 := by
    intro inQuestion _
    refine sum_eq_zero fun j hj => ?_
    rw [mem_Ico] at hj
    have hlow := h.edges_mono hj.1
    have hhigh := h.edges_mono (show j + 1 ≤ _ from hj.2)
    rw [show edges (j + 1) - edges j = 0 by lia, ite_self]
  rcases hmono.lt_or_eq with hlater | hsame
  · by_contra hskipped
    have hpositive := (honce (seconds (i + 1) + 1)).sampled_pos (show i + 1 ≤ k + 1 by lia)
      (lt_succ_self _) (by lia)
    rw [sampled_succ _ hle, hquiet] at hpositive
    have hother : ¬SameTime day (seconds (i + 1) + 1) (seconds (k + 1)) := fun htime =>
      hskipped (eq_of_sameTime htime (by lia) (by lia))
    rw [if_neg hother] at hpositive
    exact absurd hpositive (lt_irrefl _)
  · have htwice := (honce (seconds (i + 1))).sampled_le_one (show i ≤ k + 1 by lia)
      (by lia) (by lia)
    rw [sampled_succ _ hik.le, sampled_append _ (Nat.le_add_right i 1) hle, hquiet,
      sampled_succ _ le_rfl, ← hsame,
      if_pos (sameTime_self _), if_pos (sameTime_self _)] at htwice
    lia

theorem SamePace.first_second {i : ℕ}
    (hzero : edges i = 0) (hfirst : edges (i + 1) = 1) : seconds (i + 1) ≤ 1 := by
  by_contra hlate
  have hdrift := h.drift (Nat.zero_le (i + 1))
  rw [h.edges_zero, h.seconds_zero] at hdrift
  have hquiet : sampled edges seconds (SameTime day 1) 0 i = 0 := by
    refine sum_eq_zero fun j hj => ?_
    rw [mem_Ico] at hj
    have hhigh := h.edges_mono (show j + 1 ≤ _ from hj.2)
    rw [show edges (j + 1) - edges j = 0 by lia, ite_self]
  have hpositive := (honce 1).sampled_pos (Nat.zero_le (i + 1))
    (by rw [h.seconds_zero]; exact Nat.one_pos) (by lia)
  have hother : ¬SameTime day 1 (seconds (i + 1)) := fun htime =>
    hlate (eq_of_sameTime htime (by lia) (by lia)).le
  rw [sampled_succ _ (Nat.zero_le i), hquiet, if_neg hother] at hpositive
  exact absurd hpositive (lt_irrefl _)

end

theorem SamePace.steady_of_eachOnce (h : SamePace edges seconds) (hday : 3 < day)
    (hshort : ∀ i, seconds (i + 1) < seconds i + day)
    (honce : ∀ second, EachOnce edges seconds (SameTime day second)) :
    Steady edges seconds := by
  by_cases hsome : ∃ i, edges i < edges (i + 1)
  · obtain ⟨first, hedge, hfirst⟩ : ∃ first, edges first < edges (first + 1) ∧
        ∀ i, edges i < edges (i + 1) → first ≤ i :=
      ⟨Nat.find hsome, Nat.find_spec hsome, fun i hi => find_le hi⟩
    have hone := h.one_edge hshort honce hedge
    have hzero : edges first = 0 := by
      by_contra hpositive
      obtain ⟨j, hj, hearlier, -⟩ := exists_last_edge h.edges_mono
        (h.edges_zero.symm ▸ Nat.pos_of_ne_zero hpositive)
      exact absurd (hfirst j hearlier) (Nat.not_le.mpr hj)
    have hsecond := h.first_second hday honce hzero (by lia)
    refine ⟨1 - seconds (first + 1), sub_le _ _, fun i => ?_⟩
    induction i using Nat.strong_induction_on with
    | _ i ih =>
      intro hi
      have hnext := h.one_edge hshort honce hi
      refine ⟨hnext, ?_⟩
      rcases Nat.eq_zero_or_pos (edges i) with hnone | hpositive
      · have hle := hfirst i hi
        have hsame : i = first := by
          by_contra hother
          have hmono := h.edges_mono (show first + 1 ≤ i by lia)
          lia
        rw [hsame]
        lia
      · obtain ⟨last, hlast, hearlier, hequal⟩ := exists_last_edge h.edges_mono
          (h.edges_zero.symm ▸ hpositive)
        obtain ⟨hlastOne, hlastSecond⟩ := ih last hlast hearlier
        have := h.next_second hday honce hlast hlastOne hequal hnext
        lia
  · exact ⟨0, Nat.zero_le 1, fun i hedge => absurd ⟨i, hedge⟩ hsome⟩

end Sampling

end Ntvdmex.Foundation
