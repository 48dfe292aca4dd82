import Ntvdmex.Foundation.Interpreter

/-!
# Running a program step by step

What a program does at a machine, one rule for each action that may come first.
-/

namespace Ntvdmex.Foundation

open BitVec Width

variable {γ α : Type}

namespace Interp

/-! ## The first action -/

section First

variable {f : Unit → Interp γ α} {m : Machine γ}

theorem getCpu_bind {f : γ → Interp γ α} : (getCpu >>= f) m = f m.cpu m := rfl

theorem modifyCpu_bind {change : γ → γ} :
    (modifyCpu change >>= f) m = f () { m with cpu := change m.cpu } := rfl

section

variable {c : Prop} [Decidable c]

theorem declineIf_bind_of (h : c) :
    (declineIf c >>= f) m = .error .declined m := by
  unfold declineIf
  rw [if_pos h]
  rfl

theorem declineIf_bind_of_not (h : ¬c) :
    (declineIf c >>= f) m = f () m := by
  unfold declineIf
  rw [if_neg h]
  rfl

/-- A program past a check that declines. -/
theorem of_declineIf_bind {m' : Machine γ} {a : α}
    (h : (declineIf c >>= f) m = .ok a m') : ¬c ∧ f () m = .ok a m' := by
  by_cases hc : c
  · rw [declineIf_bind_of hc] at h
    cases h
  · rw [declineIf_bind_of_not hc] at h
    exact ⟨hc, h⟩

theorem trapIf_bind_of (h : c) :
    (trapIf c >>= f) m = .error .trapped m := by
  unfold trapIf
  rw [if_pos h]
  rfl

theorem trapIf_bind_of_not (h : ¬c) : (trapIf c >>= f) m = f () m := by
  unfold trapIf
  rw [if_neg h]
  rfl

end

end First

/-! ## Operands in memory -/

theorem toNat_lt_of_readMemory {host : Host} {linear value : Dword} {width : Width}
    {m m' : Machine γ} (h : readMemory host linear width m = .ok value m') :
    value.toNat < 2 ^ width.bits := by
  cases width with
  | byte =>
    cases h
    rw [toNat_setWidth]
    exact lt_of_le_of_lt (Nat.mod_le _ _) (isLt _)
  | word =>
    cases h
    rw [toNat_or]
    apply Nat.or_lt_two_pow
    · rw [toNat_setWidth]
      simp only [bits, bytes]
      omega
    · rw [toNat_shiftLeft, toNat_setWidth, Nat.shiftLeft_eq]
      simp only [bits, bytes]
      omega
  | dword => exact value.isLt

end Interp

/-!
## Programs and changes of the processor

A program commutes with a change of the processor that it neither sees nor undoes.
-/

variable {γ α β : Type}

def Machine.onCpu (change : γ → γ) (m : Machine γ) : Machine γ := { m with cpu := change m.cpu }

namespace Interp

/-- What a program came to, with the processor it left changed. -/
def onCpu (change : γ → γ) :
    EStateM.Result Stop (Machine γ) α → EStateM.Result Stop (Machine γ) α
  | .ok a m => .ok a (m.onCpu change)
  | .error stop m => .error stop (m.onCpu change)

/-- A change before the program is a change after it. -/
class Commutes (change : γ → γ) (p : Interp γ α) : Prop where
  eq : ∀ m : Machine γ, p (m.onCpu change) = onCpu change (p m)

section Commutes

variable {change : γ → γ}

theorem Commutes.of_ok {p : Interp γ α} [h : Commutes change p] {m m' : Machine γ} {a : α}
    (hp : p m = .ok a m') : p (m.onCpu change) = .ok a (m'.onCpu change) := by
  rw [h.eq, hp]
  rfl

theorem Commutes.of_error {p : Interp γ α} [h : Commutes change p] {m m' : Machine γ}
    {stop : Stop} (hp : p m = .error stop m') :
    p (m.onCpu change) = .error stop (m'.onCpu change) := by
  rw [h.eq, hp]
  rfl

instance commutes_pure (a : α) : Commutes change (pure a : Interp γ α) := ⟨fun _ => rfl⟩

instance (host : Host) (linear : Dword) :
    Commutes change (read host linear : Interp γ Byte) := ⟨fun _ => rfl⟩

instance (linear : Dword) (value : Byte) :
    Commutes change (write linear value : Interp γ Unit) := ⟨fun _ => rfl⟩

instance {x : Interp γ α} {f : α → Interp γ β} [hx : Commutes change x]
    [hf : ∀ a, Commutes change (f a)] : Commutes change (x >>= f) := by
  constructor
  intro m
  cases hxm : x m with
  | ok a between => rw [bind_of_ok hxm, bind_of_ok (Commutes.of_ok hxm), (hf a).eq]
  | error stop between =>
    rw [bind_of_error hxm, bind_of_error (Commutes.of_error hxm)]
    rfl

instance {c : Prop} [Decidable c] {x y : Interp γ α} [hx : Commutes change x]
    [hy : Commutes change y] : Commutes change (if c then x else y) := by
  by_cases hc : c
  · rw [if_pos hc]
    exact hx
  · rw [if_neg hc]
    exact hy

instance {action : α → Interp γ Unit} {xs : List α}
    [hx : ∀ x, Commutes change (action x)] : Commutes change (forEach action xs) := by
  induction xs with
  | nil => exact commutes_pure ()
  | cons x xs ih =>
    unfold forEach
    infer_instance

theorem commutes_modifyCpu {update : γ → γ} (h : ∀ cpu, update (change cpu) = change (update cpu)) :
    Commutes change (modifyCpu update) := by
  constructor
  intro m
  change EStateM.Result.ok () { m with cpu := update (change m.cpu) } =
    .ok () { m with cpu := change (update m.cpu) }
  rw [h]

theorem commutes_updateCpu {update : γ → α × γ}
    (hvalue : ∀ cpu, (update (change cpu)).1 = (update cpu).1)
    (hcpu : ∀ cpu, (update (change cpu)).2 = change (update cpu).2) :
    Commutes change (updateCpu update) := by
  constructor
  intro m
  change EStateM.Result.ok (update (change m.cpu)).1 { m with cpu := (update (change m.cpu)).2 } =
    .ok (update m.cpu).1 { m with cpu := change (update m.cpu).2 }
  rw [hvalue, hcpu]

/-- A value of the processor that the change leaves. -/
theorem commutes_getCpu_bind {f : γ → Interp γ α} (hf : ∀ cpu, f (change cpu) = f cpu)
    [hcommutes : ∀ cpu, Commutes change (f cpu)] : Commutes change (getCpu >>= f) := by
  constructor
  intro m
  rw [getCpu_bind, getCpu_bind]
  change f (change m.cpu) (m.onCpu change) = _
  rw [hf, (hcommutes m.cpu).eq]

end Commutes

end Interp

end Ntvdmex.Foundation
