import Mathlib

/-!
# Carry chains

A number of several limbs is added or subtracted limb by limb, low limb first, each step taking
the carry that the one before it left in the state.
-/

namespace Ntvdmex.Foundation

open List Prod

variable {σ α : Type*}

def limbChain (step : σ → α → α → α × σ) : σ → List (α × α) → List α × σ
  | state, [] => ([], state)
  | state, limbs :: rest =>
    let done := step state limbs.1 limbs.2
    let later := limbChain step done.2 rest
    (done.1 :: later.1, later.2)

/-- An operation on the low limbs that takes no carry, and another on all above them. -/
def carryChain (start next : σ → α → α → α × σ) (state : σ) (low : α × α) (rest : List (α × α)) :
    List α × σ :=
  let done := start state low.1 low.2
  let later := limbChain next done.2 rest
  (done.1 :: later.1, later.2)

section Chains

variable (base : Nat) (value : α → Nat) (carry : σ → Bool)

def limbsValue (limbs : List α) : Nat := Nat.ofDigits base (limbs.map value)

theorem limbsValue_cons (limb : α) (rest : List α) :
    limbsValue base value (limb :: rest) = value limb + base * limbsValue base value rest := by
  unfold limbsValue
  rw [map_cons, Nat.ofDigits_cons]

variable (step : σ → α → α → α × σ)

def AddsLimbs (carryIn : σ → Bool) : Prop :=
  ∀ state first second,
    value (step state first second).1 + base * (carry (step state first second).2).toNat =
      value first + value second + (carryIn state).toNat

def SubtractsLimbs (borrowIn : σ → Bool) : Prop :=
  ∀ state first second,
    value (step state first second).1 + value second + (borrowIn state).toNat =
      value first + base * (carry (step state first second).2).toNat

variable {base value carry} {start next : σ → α → α → α × σ}

/-- A limb below a sum. -/
theorem adds_cons {low out first second carryIn high power last firsts seconds : Nat}
    (hlow : low + base * out = first + second + carryIn)
    (hhigh : high + power * last = firsts + seconds + out) :
    low + base * high + base * power * last =
      first + base * firsts + (second + base * seconds) + carryIn := by
  calc
    _ = low + base * (high + power * last) := by ring
    _ = low + base * out + base * (firsts + seconds) := by rw [hhigh]; ring
    _ = _ := by rw [hlow]; ring

/-- A limb below a difference. -/
theorem subtracts_cons {low out first second carryIn high power last firsts seconds : Nat}
    (hlow : low + second + carryIn = first + base * out)
    (hhigh : high + seconds + out = firsts + power * last) :
    low + base * high + (second + base * seconds) + carryIn =
      first + base * firsts + base * power * last := by
  calc
    _ = low + second + carryIn + base * (high + seconds) := by ring
    _ = first + base * (high + seconds + out) := by rw [hlow]; ring
    _ = _ := by rw [hhigh]; ring

theorem limbChain_adds (hnext : AddsLimbs base value carry next carry) (state : σ)
    (limbs : List (α × α)) :
    limbsValue base value (limbChain next state limbs).1 +
        base ^ limbs.length * (carry (limbChain next state limbs).2).toNat =
      limbsValue base value (limbs.map fst) + limbsValue base value (limbs.map snd) +
        (carry state).toNat := by
  induction limbs generalizing state with
  | nil => simp [limbChain, limbsValue]
  | cons pair rest ih =>
    simp only [limbChain, map_cons, limbsValue_cons, length_cons, pow_succ']
    exact adds_cons (hnext state pair.1 pair.2) (ih (next state pair.1 pair.2).2)

theorem limbChain_subtracts (hnext : SubtractsLimbs base value carry next carry) (state : σ)
    (limbs : List (α × α)) :
    limbsValue base value (limbChain next state limbs).1 +
        limbsValue base value (limbs.map snd) + (carry state).toNat =
      limbsValue base value (limbs.map fst) +
        base ^ limbs.length * (carry (limbChain next state limbs).2).toNat := by
  induction limbs generalizing state with
  | nil => simp [limbChain, limbsValue]
  | cons pair rest ih =>
    simp only [limbChain, map_cons, limbsValue_cons, length_cons, pow_succ']
    exact subtracts_cons (hnext state pair.1 pair.2) (ih (next state pair.1 pair.2).2)

theorem carryChain_adds (hstart : AddsLimbs base value carry start fun _ => false)
    (hnext : AddsLimbs base value carry next carry) (state : σ) (low : α × α)
    (rest : List (α × α)) :
    limbsValue base value (carryChain start next state low rest).1 +
        base ^ (low :: rest).length * (carry (carryChain start next state low rest).2).toNat =
      limbsValue base value ((low :: rest).map fst) +
        limbsValue base value ((low :: rest).map snd) := by
  simp only [carryChain, map_cons, limbsValue_cons, length_cons, pow_succ']
  exact adds_cons (hstart state low.1 low.2) (limbChain_adds hnext (start state low.1 low.2).2 rest)

theorem carryChain_subtracts (hstart : SubtractsLimbs base value carry start fun _ => false)
    (hnext : SubtractsLimbs base value carry next carry) (state : σ) (low : α × α)
    (rest : List (α × α)) :
    limbsValue base value (carryChain start next state low rest).1 +
        limbsValue base value ((low :: rest).map snd) =
      limbsValue base value ((low :: rest).map fst) +
        base ^ (low :: rest).length *
          (carry (carryChain start next state low rest).2).toNat := by
  simp only [carryChain, map_cons, limbsValue_cons, length_cons, pow_succ']
  exact subtracts_cons (hstart state low.1 low.2)
    (limbChain_subtracts hnext (start state low.1 low.2).2 rest)

end Chains

end Ntvdmex.Foundation
