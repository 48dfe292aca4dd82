import Mathlib

/-!
# A stack in an array

The first `depth` slots of an array as a stack: the list of what the slots stand for, the last
one pushed first.  Slots above the depth do not matter.
-/

namespace Ntvdmex.Foundation

variable {α β : Type*}

def Stacked (stands : α → β → Prop) (slots : Nat → α) : List β → Prop
  | [] => True
  | top :: rest => stands (slots rest.length) top ∧ Stacked stands slots rest

variable {stands : α → β → Prop} {slots : Nat → α} {frames : List β}

variable (hstacked : Stacked stands slots frames)

include hstacked

theorem Stacked.congr {other : Nat → α}
    (hsame : ∀ depth < frames.length, ∀ frame, stands (slots depth) frame →
      stands (other depth) frame) :
    Stacked stands other frames := by
  induction frames with
  | nil => trivial
  | cons frame rest ih =>
    refine ⟨hsame _ (Nat.lt_succ_self _) _ hstacked.1, ih hstacked.2 fun depth hdepth => ?_⟩
    exact hsame depth (Nat.lt_succ_of_lt hdepth)

theorem Stacked.update_above {depth : Nat} (hdepth : frames.length ≤ depth) (slot : α) :
    Stacked stands (Function.update slots depth slot) frames := by
  refine hstacked.congr fun other hother frame hstands => ?_
  rw [Function.update_of_ne (by omega)]
  exact hstands

theorem Stacked.push {slot : α} {frame : β} (hstands : stands slot frame) :
    Stacked stands (Function.update slots frames.length slot) (frame :: frames) := by
  refine ⟨?_, hstacked.update_above (Nat.le_refl _) slot⟩
  rw [Function.update_self]
  exact hstands

end Ntvdmex.Foundation
