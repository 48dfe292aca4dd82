import Mathlib

/-!
# Counted loops that store into a buffer

A store fails outside the buffer and on a cell that is not free, so that a loop that ends has kept
to the buffer, and to cells of its own where only a cell without a value is free.
-/

namespace Ntvdmex.Foundation.Filling

open Nat

variable {σ β : Type}

/-- The loop `for (n = 0; n < count; ++n)`; a turn that fails ends it. -/
def countUp (body : Nat → σ → Option σ) : Nat → σ → Option σ
  | 0, state => some state
  | count + 1, state => countUp body count state >>= body count

theorem countUp_spec {body : Nat → σ → Option σ} (holds : Nat → σ → Prop) {start : σ} (count : Nat)
    (hstart : holds 0 start)
    (hturn : ∀ n < count, ∀ state, holds n state →
      ∃ next, body n state = some next ∧ holds (n + 1) next) :
    ∃ last, countUp body count start = some last ∧ holds count last := by
  induction count with
  | zero => exact ⟨start, rfl, hstart⟩
  | succ count ih =>
    obtain ⟨state, hloop, hstate⟩ := ih fun n hn => hturn n (by omega)
    obtain ⟨next, hnext, hholds⟩ := hturn count (by omega) state hstate
    refine ⟨next, ?_, hholds⟩
    rw [countUp, hloop]
    exact hnext

variable (free : β → Prop)

def store [DecidablePred free] (size : Nat) (cells : Nat → β) (offset : Nat) (value : β) :
    Option (Nat → β) :=
  if offset < size ∧ free (cells offset) then some (Function.update cells offset value) else none

/-- Where the region is free the step ends, with `value` on the region and the rest as it was. -/
def Fills (region : Nat → Prop) (value : Nat → β) (step : (Nat → β) → Option (Nat → β)) : Prop :=
  ∀ cells, (∀ offset, region offset → free (cells offset)) → ∃ filled, step cells = some filled ∧
    (∀ offset, region offset → filled offset = value offset) ∧
    ∀ offset, ¬region offset → filled offset = cells offset

variable {free} {value : Nat → β} {step : (Nat → β) → Option (Nat → β)}

theorem fills_store [DecidablePred free] {size offset : Nat} {stored : β} (hsize : offset < size)
    (hstored : stored = value offset) :
    Fills free (· = offset) value fun cells => store free size cells offset stored := by
  intro cells hfree
  refine ⟨_, if_pos ⟨hsize, hfree offset rfl⟩, fun other hother => ?_, fun other hother => ?_⟩
  · rw [hother, Function.update_self, hstored]
  · exact Function.update_of_ne hother _ _

/-- A loop whose turns fill regions apart from each other fills their union. -/
theorem Fills.countUp {body : Nat → (Nat → β) → Option (Nat → β)} (region : Nat → Nat → Prop)
    {whole : Nat → Prop} {count : Nat} (hbody : ∀ n < count, Fills free (region n) value (body n))
    (hapart : ∀ m n, m < n → n < count → ∀ offset, region m offset → ¬region n offset)
    (hwhole : ∀ offset, whole offset ↔ ∃ n < count, region n offset) :
    Fills free whole value (countUp body count) := by
  obtain rfl : whole = fun offset => ∃ n < count, region n offset :=
    funext fun offset => propext (hwhole offset)
  intro cells hfree
  refine countUp_spec (fun n (filled : Nat → β) =>
      (∀ offset, (∃ m < n, region m offset) → filled offset = value offset) ∧
      ∀ offset, ¬(∃ m < n, region m offset) → filled offset = cells offset) count
    ⟨fun offset ⟨m, hm, _⟩ => absurd hm m.not_lt_zero, fun _ _ => rfl⟩ fun n hn filled hfilled => ?_
  have hbefore : ∀ offset, region n offset → filled offset = cells offset :=
    fun offset hoffset => hfilled.2 offset fun ⟨m, hm, hregion⟩ =>
      hapart m n hm hn offset hregion hoffset
  obtain ⟨next, hnext, hinside, houtside⟩ := hbody n hn filled fun offset hoffset => by
    rw [hbefore offset hoffset]
    exact hfree offset ⟨n, hn, hoffset⟩
  refine ⟨next, hnext, fun offset ⟨m, hm, hregion⟩ => ?_, fun offset hnone => ?_⟩
  · by_cases hoffset : region n offset
    · exact hinside offset hoffset
    · have hne : m ≠ n := fun h => hoffset (h ▸ hregion)
      rw [houtside offset hoffset]
      exact hfilled.1 offset ⟨m, by omega, hregion⟩
  · rw [houtside offset fun hoffset => hnone ⟨n, n.lt_succ_self, hoffset⟩]
    exact hfilled.2 offset fun ⟨m, hm, hregion⟩ => hnone ⟨m, by omega, hregion⟩

/-- The second step has the last word on a part of what the first one filled. -/
theorem Fills.andThen {region : Nat → Prop} (inner : Nat → Prop) {first : Nat → β}
    {second : (Nat → β) → Option (Nat → β)} (hfirst : Fills (fun _ => True) region first step)
    (hsecond : Fills (fun _ => True) inner value second)
    (hinner : ∀ offset, inner offset → region offset)
    (hvalue : ∀ offset, region offset → ¬inner offset → first offset = value offset) :
    Fills (fun _ => True) region value fun cells => step cells >>= second := by
  intro cells _
  obtain ⟨filled, hstep, hinside, houtside⟩ := hfirst cells fun _ _ => trivial
  obtain ⟨last, hlast, hlastInside, hlastOutside⟩ := hsecond filled fun _ _ => trivial
  refine ⟨last, (congrArg (· >>= second) hstep).trans hlast, fun offset hoffset => ?_,
    fun offset hoffset => ?_⟩
  · by_cases hpart : inner offset
    · exact hlastInside offset hpart
    · rw [hlastOutside offset hpart, hinside offset hoffset, hvalue offset hoffset hpart]
  · rw [hlastOutside offset fun hpart => hoffset (hinner offset hpart), houtside offset hoffset]

/-! ## Buffers of lines -/

section

variable {stride position line lines n : Nat}

theorem line_position (line : Nat) (h : position < stride) :
    (line * stride + position) / stride = line ∧ (line * stride + position) % stride = position := by
  have hpos : 0 < stride := zero_lt_of_lt h
  rw [Nat.mul_comm, mul_add_div hpos, div_eq_of_lt h, mul_add_mod, mod_eq_of_lt h]
  exact ⟨rfl, rfl⟩

theorem line_position_lt (hline : line < lines) (h : position < stride) :
    line * stride + position < lines * stride := by
  rw [← Nat.div_lt_iff_lt_mul (zero_lt_of_lt h), (line_position line h).1]
  exact hline

theorem eq_line_position_iff (h : position < stride) :
    n = line * stride + position ↔ n / stride = line ∧ n % stride = position := by
  constructor
  · rintro rfl
    exact line_position line h
  · rintro ⟨rfl, rfl⟩
    exact (div_add_mod' n stride).symm

theorem line_iff (hpos : 0 < stride) :
    n / stride = line ↔ ∃ position < stride, n = line * stride + position := by
  constructor
  · exact fun hline => ⟨n % stride, mod_lt n hpos,
      (eq_line_position_iff (mod_lt n hpos)).mpr ⟨hline, rfl⟩⟩
  · rintro ⟨position, hposition, rfl⟩
    exact (line_position line hposition).1

theorem lines_iff (hpos : 0 < stride) : n < lines * stride ↔ ∃ line < lines, n / stride = line := by
  rw [← Nat.div_lt_iff_lt_mul hpos]
  exact ⟨fun hline => ⟨_, hline, rfl⟩, fun ⟨_, hless, hline⟩ => hline ▸ hless⟩

end

end Ntvdmex.Foundation.Filling
