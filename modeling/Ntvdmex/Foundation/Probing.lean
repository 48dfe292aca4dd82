import Mathlib

/-!
# Tables with linear probing

A table of `n` slots holds keys.  A key is looked for from the slot its hash names on, slot by slot
around the table, up to the key or an empty slot.  While every key is held once and no slot between
its hash and itself is empty, the search finds every key that is held, and for a key that is not a
slot it can be put into.
-/

namespace Ntvdmex.Foundation.Probing

open Finset Function Fin

section Count

variable {n : Nat} {κ : Type*} {keys : Fin n → Option κ} {key : κ} {slot : Fin n}

theorem exists_empty (h : (univ.filter fun slot => keys slot ≠ none).card < n) :
    ∃ slot, keys slot = none := by
  by_contra hfull
  push Not at hfull
  rw [filter_true_of_mem fun slot _ => hfull slot, card_univ, Fintype.card_fin] at h
  exact lt_irrefl n h

theorem card_put (hnone : keys slot = none) :
    (univ.filter fun other => Function.update keys slot (some key) other ≠ none).card =
      (univ.filter fun other => keys other ≠ none).card + 1 := by
  have hset : (univ.filter fun other => Function.update keys slot (some key) other ≠ none) =
      insert slot (univ.filter fun other => keys other ≠ none) := by
    ext other
    simp only [mem_filter, mem_univ, true_and, mem_insert]
    by_cases hother : other = slot
    · simp [hother]
    · rw [update_of_ne hother]
      simp [hother]
  rw [hset, card_insert_of_notMem]
  simp [hnone]

end Count

variable {n : Nat} [NeZero n]

/-- The first of the next `rounds` slots that stops the search. -/
def probe (stops : Fin n → Bool) : Nat → Fin n → Option (Fin n)
  | 0, _ => none
  | rounds + 1, slot => if stops slot then some slot else probe stops rounds (slot + 1)

def ahead (slot : Fin n) (steps : Nat) : Fin n := slot + Fin.ofNat n steps

theorem ahead_zero (slot : Fin n) : ahead slot 0 = slot := by
  apply Fin.ext
  simp [ahead]

theorem ahead_succ (slot : Fin n) (steps : Nat) :
    ahead (slot + 1) steps = ahead slot (steps + 1) := by
  apply Fin.ext
  simp only [ahead, val_add, val_ofNat, coe_ofNat_eq_mod, Nat.add_mod_mod,
    Nat.mod_add_mod, Nat.add_assoc]
  rw [Nat.add_comm 1 steps]

theorem ahead_inj {slot : Fin n} {i j : Nat} (hi : i < n) (hj : j < n)
    (h : ahead slot i = ahead slot j) : i = j := by
  have hval := congrArg Fin.val (add_left_cancel h)
  simp only [val_ofNat] at hval
  rwa [Nat.mod_eq_of_lt hi, Nat.mod_eq_of_lt hj] at hval

theorem exists_ahead (slot target : Fin n) : ∃ steps < n, ahead slot steps = target := by
  refine ⟨(target - slot).val, (target - slot).isLt, ?_⟩
  rw [ahead, ofNat_val_eq_self]
  abel

theorem probe_holds {stops : Fin n → Bool} {rounds : Nat} {slot found : Fin n}
    (h : probe stops rounds slot = some found) : stops found = true := by
  induction rounds generalizing slot with
  | zero => cases h
  | succ rounds ih =>
    rw [probe] at h
    split at h
    · rename_i hstop
      exact Option.some.inj h ▸ hstop
    · exact ih h

theorem probe_eq {stops : Fin n → Bool} {rounds steps : Nat} {slot : Fin n}
    (hsteps : steps < rounds) (hstop : stops (ahead slot steps) = true)
    (hbefore : ∀ j < steps, stops (ahead slot j) = false) :
    probe stops rounds slot = some (ahead slot steps) := by
  induction rounds generalizing slot steps with
  | zero => omega
  | succ rounds ih =>
    cases steps with
    | zero =>
      rw [ahead_zero] at hstop ⊢
      rw [probe, if_pos hstop]
    | succ steps =>
      have hfirst := hbefore 0 (Nat.succ_pos steps)
      rw [ahead_zero] at hfirst
      rw [probe, hfirst, if_neg Bool.false_ne_true, ← ahead_succ]
      refine ih (Nat.lt_of_succ_lt_succ hsteps) ?_ ?_
      · rwa [ahead_succ]
      · intro j hj
        rw [ahead_succ]
        exact hbefore (j + 1) (Nat.succ_lt_succ hj)

section Keys

variable {κ : Type*} (hash : κ → Fin n)

structure Probed (keys : Fin n → Option κ) : Prop where
  once : ∀ {i j : Fin n} {key : κ}, keys i = some key → keys j = some key → i = j
  reached : ∀ {slot : Fin n} {key : κ}, keys slot = some key →
    ∃ steps < n, ahead (hash key) steps = slot ∧
      ∀ j < steps, keys (ahead (hash key) j) ≠ none

theorem probed_empty : Probed hash (fun _ => (none : Option κ)) where
  once h := nomatch h
  reached h := nomatch h

variable {hash} {keys : Fin n → Option κ} {key : κ} {slot : Fin n}

theorem Probed.put (h : Probed hash keys) (habsent : ∀ slot, keys slot ≠ some key) {steps : Nat}
    (hsteps : steps < n) (hnone : keys (ahead (hash key) steps) = none)
    (hbefore : ∀ j < steps, keys (ahead (hash key) j) ≠ none) :
    Probed hash (Function.update keys (ahead (hash key) steps) (some key)) := by
  have hkeep : ∀ slot, keys slot ≠ none →
      Function.update keys (ahead (hash key) steps) (some key) slot = keys slot := by
    intro slot hslot
    refine update_of_ne (fun hsame => hslot ?_) _ _
    rw [hsame, hnone]
  have hold : ∀ {slot other},
      Function.update keys (ahead (hash key) steps) (some key) slot = some other →
        slot = ahead (hash key) steps ∧ other = key ∨ keys slot = some other := by
    intro slot other hother
    by_cases hslot : slot = ahead (hash key) steps
    · rw [hslot, update_self] at hother
      exact .inl ⟨hslot, (Option.some.inj hother).symm⟩
    · rw [update_of_ne hslot] at hother
      exact .inr hother
  constructor
  · intro i j other hi hj
    rcases hold hi with ⟨hiNew, hkeyI⟩ | hiOld
    · rcases hold hj with ⟨hjNew, -⟩ | hjOld
      · rw [hiNew, hjNew]
      · rw [hkeyI] at hjOld
        exact absurd hjOld (habsent j)
    · rcases hold hj with ⟨-, hkeyJ⟩ | hjOld
      · rw [hkeyJ] at hiOld
        exact absurd hiOld (habsent i)
      · exact h.once hiOld hjOld
  · intro slot other hother
    rcases hold hother with ⟨rfl, rfl⟩ | hheld
    · refine ⟨steps, hsteps, rfl, fun j hj => ?_⟩
      rw [hkeep _ (hbefore j hj)]
      exact hbefore j hj
    · obtain ⟨far, hfar, hslot, hreach⟩ := h.reached hheld
      refine ⟨far, hfar, hslot, fun j hj => ?_⟩
      rw [hkeep _ (hreach j hj)]
      exact hreach j hj

variable [DecidableEq κ]

variable (hash) in
def search (keys : Fin n → Option κ) (key : κ) : Option (Fin n) :=
  probe (fun slot => keys slot = none ∨ keys slot = some key) n (hash key)

theorem Probed.search_held (h : Probed hash keys) (hkey : keys slot = some key) :
    search hash keys key = some slot := by
  obtain ⟨steps, hsteps, rfl, hbefore⟩ := h.reached hkey
  refine probe_eq hsteps (decide_eq_true (.inr hkey)) fun j hj => ?_
  refine decide_eq_false ?_
  rintro (hnone | hsame)
  · exact hbefore j hj hnone
  · have hij := ahead_inj (hj.trans hsteps) hsteps (h.once hsame hkey)
    omega

theorem search_absent (habsent : ∀ slot, keys slot ≠ some key) (hroom : ∃ slot, keys slot = none) :
    ∃ steps < n, search hash keys key = some (ahead (hash key) steps) ∧
      keys (ahead (hash key) steps) = none ∧
        ∀ j < steps, keys (ahead (hash key) j) ≠ none := by
  obtain ⟨empty, hempty⟩ := hroom
  obtain ⟨far, hfar, rfl⟩ := exists_ahead (hash key) empty
  have hexists : ∃ steps, keys (ahead (hash key) steps) = none := ⟨far, hempty⟩
  have hfirst := Nat.find_spec hexists
  have hlt : Nat.find hexists < n := (Nat.find_le hempty).trans_lt hfar
  refine ⟨Nat.find hexists, hlt, ?_, hfirst, fun j hj => Nat.find_min hexists hj⟩
  refine probe_eq hlt (decide_eq_true (.inl hfirst)) fun j hj => decide_eq_false ?_
  rintro (hnone | hsame)
  · exact Nat.find_min hexists hj hnone
  · exact habsent _ hsame

end Keys

end Ntvdmex.Foundation.Probing
