import Ntvdmex.Host.Patch

/-!
# The patch map as a table

The map keeps the probing invariant and counts its addresses.  Setting an address, clearing it and
dropping its slot change the answer for that address and for no other; setting is refused once the
headroom is reached.
-/

namespace Ntvdmex.Host.Patch

open Foundation.Probing Function Finset PatchMap

def PatchMap.keys (map : PatchMap) (slot : Fin dpmiPmapSlots) : Option (BitVec 32) :=
  if map.linear slot = 0 then none else some (map.linear slot)

/-- A set is still taken. -/
def PatchMap.HasRoom (map : PatchMap) : Prop := map.count < dpmiPmapSlots - patchMapHeadroom
deriving Decidable

structure MapKept (map : PatchMap) : Prop where
  probed : Probed patchMapHash map.keys
  count : map.count = (Finset.univ.filter fun slot => map.keys slot ≠ none).card
  bounded : map.count ≤ dpmiPmapSlots - patchMapHeadroom

variable {map : PatchMap} {linear : BitVec 32} {slot : Fin dpmiPmapSlots}

theorem keys_eq_none_iff : map.keys slot = none ↔ map.linear slot = 0 := by
  unfold keys
  split <;> simp_all

theorem keys_eq_some_iff (hlinear : linear ≠ 0) :
    map.keys slot = some linear ↔ map.linear slot = linear := by
  unfold keys
  split
  · rename_i hzero
    rw [hzero]
    exact ⟨(fun h => nomatch h), fun h => absurd h.symm hlinear⟩
  · rw [Option.some.injEq]

theorem keys_congr {other : PatchMap} (h : other.linear slot = map.linear slot) :
    other.keys slot = map.keys slot := by
  simp only [keys, h]

theorem mapKept_empty : MapKept patchMapEmpty where
  probed := probed_empty _
  count := by
    have hnone : ∀ slot, patchMapEmpty.keys slot = none := fun slot => keys_eq_none_iff.mpr rfl
    rw [filter_false_of_mem fun slot _ => not_not.mpr (hnone slot)]
    rfl
  bounded := Nat.zero_le _

theorem patchMapProbe_eq (hlinear : linear ≠ 0) :
    patchMapProbe map linear = search patchMapHash map.keys linear := by
  unfold patchMapProbe search
  congr 1
  funext slot
  rw [decide_eq_decide, keys_eq_none_iff, keys_eq_some_iff hlinear]

namespace MapKept

section

variable (h : MapKept map)

include h

theorem probe_held (hlinear : linear ≠ 0) (hslot : map.linear slot = linear) :
    patchMapProbe map linear = some slot := by
  rw [patchMapProbe_eq hlinear]
  exact h.probed.search_held ((keys_eq_some_iff hlinear).mpr hslot)

theorem probe_absent (hlinear : linear ≠ 0)
    (habsent : ∀ slot, map.linear slot ≠ linear) :
    ∃ steps < dpmiPmapSlots,
      patchMapProbe map linear = some (ahead (patchMapHash linear) steps) ∧
        map.keys (ahead (patchMapHash linear) steps) = none ∧
          ∀ j < steps, map.keys (ahead (patchMapHash linear) j) ≠ none := by
  rw [patchMapProbe_eq hlinear]
  refine search_absent (fun slot hslot => habsent slot ((keys_eq_some_iff hlinear).mp hslot)) ?_
  refine exists_empty ?_
  rw [← h.count]
  exact h.bounded.trans_lt (by decide)

theorem get_held (hlinear : linear ≠ 0) (hslot : map.linear slot = linear) :
    patchMapGet map linear = map.vector slot := by
  rw [patchMapGet, if_neg hlinear, h.probe_held hlinear hslot]
  dsimp only
  rw [if_neg (hslot ▸ hlinear)]

theorem get_absent (hlinear : linear ≠ 0)
    (habsent : ∀ slot, map.linear slot ≠ linear) : patchMapGet map linear = 0 := by
  obtain ⟨steps, -, hprobe, hnone, -⟩ := h.probe_absent hlinear habsent
  rw [patchMapGet, if_neg hlinear, hprobe]
  exact if_pos (keys_eq_none_iff.mp hnone)

theorem slot_of_get (hget : patchMapGet map linear ≠ 0) :
    ∃ slot, map.linear slot = linear ∧ map.vector slot = patchMapGet map linear := by
  have hlinear : linear ≠ 0 := by
    rintro rfl
    exact hget (if_pos rfl)
  by_contra hno
  push Not at hno
  refine hget (h.get_absent hlinear fun slot hslot => hno slot hslot ?_)
  exact (h.get_held hlinear hslot).symm

theorem slot_unique {i j : Fin dpmiPmapSlots} (hi : map.linear i ≠ 0)
    (hij : map.linear i = map.linear j) : i = j :=
  h.probed.once ((keys_eq_some_iff hi).mpr rfl) ((keys_eq_some_iff hi).mpr hij.symm)

theorem setVector (slot : Fin dpmiPmapSlots) (vector : BitVec 8) :
    MapKept { map with vector := update map.vector slot vector } :=
  ⟨h.probed, h.count, h.bounded⟩

theorem get_setVector (slot : Fin dpmiPmapSlots) (vector : BitVec 8)
    (hlinear : linear ≠ 0) :
    patchMapGet { map with vector := update map.vector slot vector } linear =
      if linear = map.linear slot then vector else patchMapGet map linear := by
  have hkept := h.setVector slot vector
  by_cases hheld : ∃ other, map.linear other = linear
  · obtain ⟨other, hother⟩ := hheld
    rw [hkept.get_held hlinear hother, h.get_held hlinear hother]
    dsimp only
    by_cases hsame : linear = map.linear slot
    · have heq : other = slot := h.slot_unique (hother ▸ hlinear) (hother.trans hsame)
      rw [if_pos hsame, heq, update_self]
    · have hne : other ≠ slot := fun heq => hsame (heq ▸ hother.symm)
      rw [if_neg hsame, update_of_ne hne]
  · push Not at hheld
    rw [hkept.get_absent hlinear hheld, h.get_absent hlinear hheld,
      if_neg (hheld slot).symm]

end

theorem set_absent (h : MapKept map) (hlinear : linear ≠ 0) (hroom : map.HasRoom)
    (vector : BitVec 8) (habsent : ∀ slot, map.linear slot ≠ linear) :
    ∃ slot, map.linear slot = 0 ∧
      patchMapSet map linear vector =
        { linear := update map.linear slot linear
          vector := update map.vector slot vector
          count := map.count + 1 } ∧
      MapKept (patchMapSet map linear vector) := by
  obtain ⟨steps, hsteps, hprobe, hnone, hbefore⟩ := h.probe_absent hlinear habsent
  have hempty := keys_eq_none_iff.mp hnone
  have hset : patchMapSet map linear vector =
      { linear := update map.linear (ahead (patchMapHash linear) steps) linear
        vector := update map.vector (ahead (patchMapHash linear) steps) vector
        count := map.count + 1 } := by
    rw [patchMapSet, if_neg (not_or.mpr ⟨hlinear, Nat.not_le.mpr hroom⟩), hprobe]
    exact if_pos hempty
  refine ⟨_, hempty, hset, ?_⟩
  have hkeys : (patchMapSet map linear vector).keys =
      update map.keys (ahead (patchMapHash linear) steps) (some linear) := by
    rw [hset]
    funext slot
    by_cases hslot : slot = ahead (patchMapHash linear) steps
    · rw [hslot, update_self]
      exact (keys_eq_some_iff hlinear).mpr (update_self _ _ _)
    · rw [update_of_ne hslot]
      exact keys_congr (update_of_ne hslot _ _)
  refine ⟨?_, ?_, ?_⟩
  · rw [hkeys]
    refine h.probed.put (fun slot hslot => ?_) hsteps hnone hbefore
    exact habsent slot ((keys_eq_some_iff hlinear).mp hslot)
  · rw [hkeys, card_put hnone, ← h.count, hset]
  · rw [hset]
    exact hroom

theorem set_held (h : MapKept map) (hlinear : linear ≠ 0) (hroom : map.HasRoom)
    (vector : BitVec 8) (hslot : map.linear slot = linear) :
    patchMapSet map linear vector =
      { map with vector := update map.vector slot vector } := by
  rw [patchMapSet, if_neg (not_or.mpr ⟨hlinear, Nat.not_le.mpr hroom⟩),
    h.probe_held hlinear hslot]
  exact if_neg (hslot ▸ hlinear)

theorem set_refused (hfull : ¬map.HasRoom) (linear : BitVec 32) (vector : BitVec 8) :
    patchMapSet map linear vector = map := by
  rw [patchMapSet, if_pos (.inr (Nat.le_of_not_lt hfull))]

variable (h : MapKept map)

include h

theorem set (linear : BitVec 32) (vector : BitVec 8) : MapKept (patchMapSet map linear vector) := by
  by_cases hroom : map.HasRoom
  · by_cases hlinear : linear = 0
    · rwa [patchMapSet, if_pos (.inl hlinear)]
    · by_cases hheld : ∃ slot, map.linear slot = linear
      · obtain ⟨slot, hslot⟩ := hheld
        rw [h.set_held hlinear hroom vector hslot]
        exact h.setVector slot vector
      · push Not at hheld
        obtain ⟨-, -, -, hkept⟩ := h.set_absent hlinear hroom vector hheld
        exact hkept
  · rwa [set_refused hroom]

variable (hlinear : linear ≠ 0)

include hlinear

theorem get_set {address : BitVec 32} (haddress : address ≠ 0) (hroom : map.HasRoom)
    (vector : BitVec 8) : patchMapGet (patchMapSet map linear vector) address =
      if address = linear then vector else patchMapGet map address := by
  by_cases hheld : ∃ slot, map.linear slot = linear
  · obtain ⟨slot, hslot⟩ := hheld
    rw [h.set_held hlinear hroom vector hslot,
      h.get_setVector slot vector haddress, hslot]
  · push Not at hheld
    obtain ⟨slot, hempty, hset, hkept⟩ := h.set_absent hlinear hroom vector hheld
    have hslots : ∀ other, (patchMapSet map linear vector).linear other =
        if other = slot then linear else map.linear other := by
      intro other
      rw [hset]
      exact update_apply _ _ _ _
    by_cases hsame : address = linear
    · have hat : (patchMapSet map linear vector).linear slot = address := by
        rw [hslots, if_pos rfl, hsame]
      rw [if_pos hsame, hkept.get_held haddress hat, hset]
      exact update_self _ _ _
    · rw [if_neg hsame]
      by_cases hother : ∃ other, map.linear other = address
      · obtain ⟨other, hother⟩ := hother
        have hne : other ≠ slot := by
          rintro rfl
          exact haddress (hother.symm.trans hempty)
        have hat : (patchMapSet map linear vector).linear other = address := by
          rw [hslots, if_neg hne, hother]
        rw [hkept.get_held haddress hat, h.get_held haddress hother, hset]
        exact update_of_ne hne _ _
      · push Not at hother
        refine (hkept.get_absent haddress fun other => ?_).trans
          (h.get_absent haddress hother).symm
        rw [hslots]
        split
        · exact Ne.symm hsame
        · exact hother other

/-! ## `PatchMapClear` -/

theorem clear_held (hslot : map.linear slot = linear) :
    patchMapClear map linear = map.drop slot := by
  rw [patchMapClear, h.probe_held hlinear hslot]
  exact if_neg (hslot ▸ hlinear)

theorem clear_absent (habsent : ∀ slot, map.linear slot ≠ linear) :
    patchMapClear map linear = map := by
  obtain ⟨steps, -, hprobe, hnone, -⟩ := h.probe_absent hlinear habsent
  rw [patchMapClear, hprobe]
  exact if_pos (keys_eq_none_iff.mp hnone)

theorem clear : MapKept (patchMapClear map linear) := by
  by_cases hheld : ∃ slot, map.linear slot = linear
  · obtain ⟨slot, hslot⟩ := hheld
    rw [h.clear_held hlinear hslot]
    exact h.setVector slot 0
  · push Not at hheld
    rwa [h.clear_absent hlinear hheld]

theorem get_clear {address : BitVec 32} (haddress : address ≠ 0) :
    patchMapGet (patchMapClear map linear) address =
      if address = linear then 0 else patchMapGet map address := by
  by_cases hheld : ∃ slot, map.linear slot = linear
  · obtain ⟨slot, hslot⟩ := hheld
    rw [h.clear_held hlinear hslot]
    exact (h.get_setVector slot 0 haddress).trans (by rw [hslot])
  · push Not at hheld
    rw [h.clear_absent hlinear hheld]
    split
    · rename_i hsame
      rw [hsame]
      exact h.get_absent hlinear hheld
    · rfl

end MapKept

/-!
## The map as the table of what has been set

Over any calls of `PatchMapSet` and `PatchMapClear` the map answers as a table with the vector last
set and not since cleared.  A set counts while fewer addresses than the headroom leaves have ever
been set; a cleared address still takes its place.
-/

inductive MapCall where
  | set (linear : BitVec 32) (vector : BitVec 8)
  | clear (linear : BitVec 32)

def patchMapCall (map : PatchMap) : MapCall → PatchMap
  | .set linear vector => patchMapSet map linear vector
  | .clear linear => patchMapClear map linear

/-- The addresses ever set and the vector of every address. -/
structure VectorTable where
  held : Finset (BitVec 32)
  vector : BitVec 32 → BitVec 8

namespace VectorTable

def empty : VectorTable := ⟨∅, fun _ => 0⟩

def isFull (table : VectorTable) : Prop :=
  dpmiPmapSlots - patchMapHeadroom ≤ table.held.card
deriving Decidable

def call (table : VectorTable) : MapCall → VectorTable
  | .set linear vector =>
    if linear = 0 ∨ table.isFull then table
    else
      { held := insert linear table.held
        vector := Function.update table.vector linear vector }
  | .clear linear => { table with vector := Function.update table.vector linear 0 }

end VectorTable

/-- The map answers as the table. -/
structure Tabled (map : PatchMap) (table : VectorTable) : Prop where
  kept : MapKept map
  count : map.count = table.held.card
  held : ∀ linear, linear ∈ table.held ↔ linear ≠ 0 ∧ ∃ slot, map.linear slot = linear
  get : ∀ linear, patchMapGet map linear = table.vector linear

theorem get_empty (address : BitVec 32) : patchMapGet patchMapEmpty address = 0 := by
  by_cases h : address = 0
  · exact if_pos h
  · exact mapKept_empty.get_absent h fun _ hslot => h hslot.symm

theorem tabled_empty : Tabled patchMapEmpty .empty where
  kept := mapKept_empty
  count := rfl
  held linear := by
    refine iff_of_false (notMem_empty _) fun h => ?_
    obtain ⟨hlinear, slot, hslot⟩ := h
    exact hlinear hslot.symm
  get := get_empty

variable {table : VectorTable}

namespace Tabled

theorem isFull_iff (h : Tabled map table) : table.isFull ↔ ¬map.HasRoom := by
  rw [VectorTable.isFull, PatchMap.HasRoom, h.count, Nat.not_lt]

theorem set (h : Tabled map table) (linear : BitVec 32) (vector : BitVec 8) :
    Tabled (patchMapSet map linear vector) (table.call (.set linear vector)) := by
  rw [VectorTable.call]
  by_cases hlinear : linear = 0
  · rwa [if_pos (.inl hlinear), patchMapSet, if_pos (.inl hlinear)]
  · by_cases hroom : map.HasRoom
    · have htaken : ¬(linear = 0 ∨ table.isFull) :=
        not_or.mpr ⟨hlinear, fun hfull => h.isFull_iff.mp hfull hroom⟩
      rw [if_neg htaken]
      have hget : ∀ address, patchMapGet (patchMapSet map linear vector) address =
          Function.update table.vector linear vector address := by
        intro address
        by_cases haddress : address = 0
        · rw [haddress, update_of_ne (Ne.symm hlinear), ← h.get 0]
          exact (if_pos rfl).trans (if_pos rfl).symm
        · rw [h.kept.get_set hlinear haddress hroom, update_apply, h.get]
      by_cases hheld : ∃ slot, map.linear slot = linear
      · have hmem : linear ∈ table.held := (h.held linear).mpr ⟨hlinear, hheld⟩
        refine ⟨h.kept.set _ _, ?_, ?_, hget⟩
        · obtain ⟨slot, hslot⟩ := hheld
          rw [insert_eq_of_mem hmem, h.kept.set_held hlinear hroom vector hslot]
          exact h.count
        · obtain ⟨slot, hslot⟩ := hheld
          rw [insert_eq_of_mem hmem, h.kept.set_held hlinear hroom vector hslot]
          exact h.held
      · have hmem : linear ∉ table.held := fun hin => hheld ((h.held linear).mp hin).2
        push Not at hheld
        obtain ⟨slot, hempty, hset, hkept⟩ := h.kept.set_absent hlinear hroom vector hheld
        refine ⟨hkept, ?_, ?_, hget⟩
        · rw [card_insert_of_notMem hmem, ← h.count, hset]
        · intro address
          rw [mem_insert, h.held, hset]
          constructor
          · rintro (rfl | ⟨haddress, other, hother⟩)
            · exact ⟨hlinear, slot, update_self _ _ _⟩
            · refine ⟨haddress, other, ?_⟩
              have hne : other ≠ slot := by
                rintro rfl
                exact haddress (hother.symm.trans hempty)
              exact (update_of_ne hne _ _).trans hother
          · rintro ⟨haddress, other, hother⟩
            by_cases hslot : other = slot
            · rw [hslot] at hother
              exact .inl (hother.symm.trans (update_self _ _ _))
            · exact .inr ⟨haddress, other,
                (update_of_ne hslot _ _).symm.trans hother⟩
    · rwa [if_pos (.inr (h.isFull_iff.mpr hroom)), MapKept.set_refused hroom]

theorem clear_zero (map : PatchMap) : patchMapClear map 0 = map := by
  unfold patchMapClear
  split
  · rfl
  · rename_i slot hprobe
    have hstop := Foundation.Probing.probe_holds hprobe
    rw [decide_eq_true_iff, or_self] at hstop
    exact if_pos hstop

theorem clear (h : Tabled map table) (linear : BitVec 32) :
    Tabled (patchMapClear map linear) (table.call (.clear linear)) := by
  rw [VectorTable.call]
  by_cases hlinear : linear = 0
  · rw [hlinear, clear_zero]
    refine ⟨h.kept, h.count, h.held, fun address => ?_⟩
    dsimp only
    rw [h.get, update_apply]
    split
    · rename_i haddress
      rw [← h.get, haddress]
      exact if_pos rfl
    · rfl
  · have hsame : (patchMapClear map linear).linear = map.linear ∧
        (patchMapClear map linear).count = map.count := by
      unfold patchMapClear
      split
      · exact ⟨rfl, rfl⟩
      · split <;> exact ⟨rfl, rfl⟩
    refine ⟨h.kept.clear hlinear, ?_, ?_, fun address => ?_⟩
    · rw [hsame.2]
      exact h.count
    · rw [hsame.1]
      exact h.held
    · dsimp only
      rw [update_apply]
      by_cases haddress : address = 0
      · rw [haddress, if_neg (Ne.symm hlinear), ← h.get 0]
        exact (if_pos rfl).trans (if_pos rfl).symm
      · rw [h.kept.get_clear hlinear haddress, h.get]

theorem call (h : Tabled map table) (made : MapCall) :
    Tabled (patchMapCall map made) (table.call made) := by
  cases made with
  | set linear vector => exact h.set linear vector
  | clear linear => exact h.clear linear

theorem calls (h : Tabled map table) (made : List MapCall) :
    Tabled (made.foldl patchMapCall map) (made.foldl VectorTable.call table) := by
  induction made generalizing map table with
  | nil => exact h
  | cons first rest ih => exact ih (h.call first)

end Tabled

end Ntvdmex.Host.Patch
