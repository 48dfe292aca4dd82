import Ntvdmex.Foundation.Runs
import Ntvdmex.Host.Proofs.Patch.Map

/-!
# A pass over the map

Where no two of the sites that a pass writes overlap, and no write decides about another site,
the order of the slots does not matter: every site is written or dropped by what its bytes were
when the pass began.
-/

namespace Ntvdmex.Host.Patch

open Foundation Function List Memory PatchMap

theorem Memory.put_first (memory : Memory) (linear : BitVec 32) (first second : BitVec 8) :
    memory.put linear first second linear = first := by
  have hne : linear ≠ linear + 1 := by bv_omega
  rw [put, update_of_ne hne, update_self]

theorem Memory.put_second (memory : Memory) (linear : BitVec 32) (first second : BitVec 8) :
    memory.put linear first second (linear + 1) = second := by
  rw [put, update_self]

theorem Memory.put_other {memory : Memory} {linear address : BitVec 32} (first second : BitVec 8)
    (hfirst : address ≠ linear) (hsecond : address ≠ linear + 1) :
    memory.put linear first second address = memory address := by
  rw [put, update_of_ne hsecond, update_of_ne hfirst]

section Pass

variable (test : Memory → BitVec 32 → BitVec 8 → Bool) (write : BitVec 8 → BitVec 8 × BitVec 8)
  (state : PatchState)

def Chosen (slot : Fin dpmiPmapSlots) : Prop :=
  state.map.isSite slot ∧
    test state.memory (state.map.linear slot) (state.map.vector slot) = true

/-- The address is none of a site's two. -/
def Outside (slot : Fin dpmiPmapSlots) (address : BitVec 32) : Prop :=
  address ≠ state.map.linear slot ∧ address ≠ state.map.linear slot + 1

/-- What the slots gone through leave. -/
structure PassedOver (done : List (Fin dpmiPmapSlots)) (now : PatchState) : Prop where
  linear : now.map.linear = state.map.linear
  count : now.map.count = state.map.count
  kept : ∀ slot, slot ∉ done ∨ ¬state.map.isSite slot ∨ Chosen test state slot →
    now.map.vector slot = state.map.vector slot
  dropped : ∀ slot ∈ done, state.map.isSite slot → ¬Chosen test state slot →
    now.map.vector slot = 0
  written : ∀ slot ∈ done, Chosen test state slot →
    now.memory (state.map.linear slot) = (write (state.map.vector slot)).1 ∧
      now.memory (state.map.linear slot + 1) = (write (state.map.vector slot)).2
  untouched : ∀ address,
    (∀ slot ∈ done, Chosen test state slot → Outside state slot address) →
      now.memory address = state.memory address

/-- What the pass writes elsewhere leaves the test of this slot alone. -/
abbrev Stable (slot : Fin dpmiPmapSlots) : Prop :=
  state.map.isSite slot → ∀ memory : Memory,
    (∀ address, (∀ other, other ≠ slot → Chosen test state other →
      Outside state other address) → memory address = state.memory address) →
        test memory (state.map.linear slot) (state.map.vector slot) =
          test state.memory (state.map.linear slot) (state.map.vector slot)

variable {test write state}

section

variable (hapart : ∀ i j, i ≠ j → Chosen test state i → Chosen test state j →
    Outside state i (state.map.linear j) ∧ Outside state i (state.map.linear j + 1))

include hapart

theorem dpmiPassSlot_passedOver {done : List (Fin dpmiPmapSlots)} {slot : Fin dpmiPmapSlots}
    {now : PatchState} (h : PassedOver test write state done now) (hslot : slot ∉ done)
    (hstable : Stable test state slot) :
    PassedOver test write state (done ++ [slot]) (dpmiPassSlot test write now slot) := by
  have hvector : now.map.vector slot = state.map.vector slot := h.kept slot (.inl hslot)
  have hlinear : now.map.linear slot = state.map.linear slot := congrFun h.linear slot
  have hsite : now.map.isSite slot ↔ state.map.isSite slot := by
    unfold isSite
    rw [hvector, hlinear]
  have hwritten (hnot : ¬Chosen test state slot) (other) (hother : other ∈ done ++ [slot])
      (hchosen : Chosen test state other) :=
    h.written other ((mem_append.mp hother).resolve_right fun hnew =>
      hnot (mem_singleton.mp hnew ▸ hchosen)) hchosen
  have huntouched (address) (haddress : ∀ other ∈ done ++ [slot], Chosen test state other →
      Outside state other address) :=
    h.untouched address fun other hother => haddress other (mem_append_left _ hother)
  unfold dpmiPassSlot
  rw [hvector, hlinear]
  by_cases hissite : state.map.isSite slot
  · have htest := hstable hissite now.memory fun address haddress =>
      h.untouched address fun other hother hchosen =>
        haddress other (fun heq => hslot (heq ▸ hother)) hchosen
    rw [if_pos (hsite.mpr hissite), htest]
    by_cases hchosen : test state.memory (state.map.linear slot) (state.map.vector slot) = true
    · rw [if_pos hchosen]
      have hslotChosen : Chosen test state slot := ⟨hissite, hchosen⟩
      refine ⟨h.linear, h.count, ?_, ?_, ?_, ?_⟩
      · intro other hother
        refine h.kept other (hother.imp_left fun hnot hmem => hnot ?_)
        exact mem_append_left _ hmem
      · intro other hother hothersite hnot
        rcases mem_append.mp hother with hold | hnew
        · exact h.dropped other hold hothersite hnot
        · rw [mem_singleton.mp hnew] at hnot
          exact absurd hslotChosen hnot
      · intro other hother hotherChosen
        by_cases heq : other = slot
        · rw [heq]
          exact ⟨put_first _ _ _ _, put_second _ _ _ _⟩
        · have hold := (mem_append.mp hother).resolve_right fun hnew =>
            heq (mem_singleton.mp hnew)
          obtain ⟨hfirst, hsecond⟩ := hapart slot other (Ne.symm heq) hslotChosen hotherChosen
          dsimp only
          rw [put_other _ _ hfirst.1 hfirst.2, put_other _ _ hsecond.1 hsecond.2]
          exact h.written other hold hotherChosen
      · intro address haddress
        obtain ⟨hfirst, hsecond⟩ :=
          haddress slot (mem_append_right _ mem_cons_self) hslotChosen
        dsimp only
        rw [put_other _ _ hfirst hsecond]
        exact huntouched address haddress
    · rw [if_neg hchosen]
      have hnotChosen : ¬Chosen test state slot := fun hc => hchosen hc.2
      refine ⟨h.linear, h.count, ?_, ?_, hwritten hnotChosen, huntouched⟩
      · intro other hother
        have hne : other ≠ slot := by
          rintro rfl
          rcases hother with hnot | hnot | hc
          · exact hnot (mem_append_right _ mem_cons_self)
          · exact hnot hissite
          · exact hnotChosen hc
        refine (update_of_ne hne _ _).trans (h.kept other ?_)
        exact hother.imp_left fun hnot hmem => hnot (mem_append_left _ hmem)
      · intro other hother hothersite hnot
        by_cases heq : other = slot
        · rw [heq]
          exact update_self _ _ _
        · have hold := (mem_append.mp hother).resolve_right fun hnew =>
            heq (mem_singleton.mp hnew)
          exact (update_of_ne heq _ _).trans (h.dropped other hold hothersite hnot)
  · rw [if_neg fun hnow => hissite (hsite.mp hnow)]
    have hnotChosen : ¬Chosen test state slot := fun hc => hissite hc.1
    refine ⟨h.linear, h.count, ?_, ?_, hwritten hnotChosen, huntouched⟩
    · intro other hother
      by_cases heq : other = slot
      · rw [heq, hvector]
      · refine h.kept other (hother.imp_left fun hnot hmem => hnot ?_)
        exact mem_append_left _ hmem
    · intro other hother hothersite hnot
      have hold := (mem_append.mp hother).resolve_right fun hnew =>
        hissite (mem_singleton.mp hnew ▸ hothersite)
      exact h.dropped other hold hothersite hnot

theorem dpmiPass_passedOver (hstable : ∀ slot, Stable test state slot) :
    PassedOver test write state (finRange dpmiPmapSlots)
      ((finRange dpmiPmapSlots).foldl (dpmiPassSlot test write) state) := by
  refine foldl_invariant (PassedOver test write state) ?_ ?_
  · exact ⟨rfl, rfl, fun _ _ => rfl, fun _ h => absurd h not_mem_nil,
      fun _ h => absurd h not_mem_nil, fun _ _ => rfl⟩
  · intro before slot later now hslots hbefore
    have hnodup := nodup_finRange dpmiPmapSlots
    rw [hslots] at hnodup
    have hslot : slot ∉ before := fun hmem =>
      (nodup_append.mp hnodup).2.2 slot hmem slot mem_cons_self rfl
    exact dpmiPassSlot_passedOver hapart hbefore hslot (hstable slot)

end

/-! ## The pass by address -/

/-- The address has a vector that is not the breakpoints'. -/
def PatchMap.Live (map : PatchMap) (address : BitVec 32) : Prop :=
  patchMapGet map address ≠ 0 ∧ patchMapGet map address ≠ dpmiBpVec
deriving Decidable

theorem MapKept.isSite_iff {map : PatchMap} (h : MapKept map) {slot : Fin dpmiPmapSlots}
    (hslot : map.linear slot ≠ 0) : map.isSite slot ↔ map.Live (map.linear slot) := by
  rw [PatchMap.Live, h.get_held hslot rfl]
  exact ⟨fun hsite => hsite.2, fun hlive => ⟨hslot, hlive⟩⟩

theorem PatchMap.Live.slot {map : PatchMap} (hkept : MapKept map) {address : BitVec 32}
    (h : map.Live address) : ∃ slot, map.linear slot = address ∧
      map.vector slot = patchMapGet map address ∧ map.isSite slot := by
  obtain ⟨slot, hslot, hvector⟩ := hkept.slot_of_get h.1
  refine ⟨slot, hslot, hvector, ?_⟩
  have hlinear : map.linear slot ≠ 0 := by
    rw [hslot]
    rintro rfl
    exact h.1 (if_pos rfl)
  rw [hkept.isSite_iff hlinear, hslot]
  exact h

variable (test write state) in
def Passes (address : BitVec 32) : Prop :=
  state.map.Live address ∧
    test state.memory address (patchMapGet state.map address) = true

variable (test write state) in
/-- What the whole pass leaves. -/
structure Passed (now : PatchState) : Prop where
  kept : MapKept now.map
  get : ∀ address, patchMapGet now.map address =
    if state.map.Live address ∧
        test state.memory address (patchMapGet state.map address) = false then 0
    else patchMapGet state.map address
  written : ∀ address, Passes test state address →
    now.memory address = (write (patchMapGet state.map address)).1 ∧
      now.memory (address + 1) = (write (patchMapGet state.map address)).2
  untouched : ∀ address,
    (∀ site, Passes test state site → address ≠ site ∧ address ≠ site + 1) →
      now.memory address = state.memory address

theorem chosen_iff (hkept : MapKept state.map) {slot : Fin dpmiPmapSlots}
    (hslot : state.map.linear slot ≠ 0) :
    Chosen test state slot ↔ Passes test state (state.map.linear slot) := by
  rw [Chosen, Passes, hkept.isSite_iff hslot, hkept.get_held hslot rfl]

theorem Chosen.passes (hkept : MapKept state.map) {slot : Fin dpmiPmapSlots}
    (h : Chosen test state slot) : Passes test state (state.map.linear slot) :=
  (chosen_iff hkept h.1.1).mp h

theorem dpmiPass_passed (hkept : MapKept state.map)
    (hapart : ∀ p q, Passes test state p → Passes test state q → p ≠ q + 1)
    (hstable : ∀ p, state.map.Live p → ∀ memory : Memory,
      (∀ address, (∀ q, q ≠ p → Passes test state q → address ≠ q ∧ address ≠ q + 1) →
        memory address = state.memory address) →
          test memory p (patchMapGet state.map p) =
            test state.memory p (patchMapGet state.map p)) :
    Passed test write state
      ((finRange dpmiPmapSlots).foldl (dpmiPassSlot test write) state) := by
  have hover : PassedOver test write state (finRange dpmiPmapSlots)
      ((finRange dpmiPmapSlots).foldl (dpmiPassSlot test write) state) := by
    refine dpmiPass_passedOver ?_ ?_
    · intro i j hij hi hj
      have hne : state.map.linear j ≠ state.map.linear i := fun heq =>
        hij (hkept.slot_unique hi.1.1 heq.symm)
      have hpi := hi.passes hkept
      have hpj := hj.passes hkept
      refine ⟨⟨hne, hapart _ _ hpj hpi⟩, ⟨(hapart _ _ hpi hpj).symm, ?_⟩⟩
      intro heq
      exact hne (by bv_omega)
    · intro slot hsite memory hmemory
      have hlinear := hsite.1
      have hlive := (hkept.isSite_iff hlinear).mp hsite
      have hstays := hstable (state.map.linear slot) hlive memory fun address haddress =>
        hmemory address fun other hne hchosen =>
          haddress (state.map.linear other)
            (fun heq => hne (hkept.slot_unique hchosen.1.1 heq)) (hchosen.passes hkept)
      rwa [hkept.get_held hlinear rfl] at hstays
  generalize (finRange dpmiPmapSlots).foldl (dpmiPassSlot test write) state = now at hover
  have hkeys : now.map.keys = state.map.keys := by
    funext slot
    exact keys_congr (congrFun hover.linear slot)
  have hnow : MapKept now.map := by
    refine ⟨?_, ?_, ?_⟩
    · rw [hkeys]
      exact hkept.probed
    · rw [hkeys, hover.count]
      exact hkept.count
    · rw [hover.count]
      exact hkept.bounded
  refine ⟨hnow, ?_, ?_, ?_⟩
  · intro address
    by_cases haddress : address = 0
    · have hzero : ¬state.map.Live address := fun hlive => hlive.1 (if_pos haddress)
      have hget : ∀ map : PatchMap, patchMapGet map address = 0 := fun map => if_pos haddress
      rw [if_neg fun h => hzero h.1, hget, hget]
    · by_cases hheld : ∃ slot, state.map.linear slot = address
      · obtain ⟨slot, hslot⟩ := hheld
        have hlinear : state.map.linear slot ≠ 0 := hslot ▸ haddress
        have hthere : now.map.linear slot = address := (congrFun hover.linear slot).trans hslot
        rw [hnow.get_held haddress hthere]
        split
        · rename_i hdrop
          rw [← hslot] at hdrop
          refine hover.dropped slot (mem_finRange slot)
            ((hkept.isSite_iff hlinear).mpr hdrop.1) fun hchosen => ?_
          have htrue := (hchosen.passes hkept).2
          rw [hdrop.2] at htrue
          cases htrue
        · rename_i hstay
          rw [hkept.get_held haddress hslot]
          refine hover.kept slot (.inr ?_)
          by_cases hlive : state.map.Live (state.map.linear slot)
          · refine .inr ((chosen_iff hkept hlinear).mpr ⟨hlive, ?_⟩)
            rw [hslot] at hlive ⊢
            simpa [hlive] using hstay
          · exact .inl fun hsite => hlive ((hkept.isSite_iff hlinear).mp hsite)
      · push Not at hheld
        have habsent : ∀ slot, now.map.linear slot ≠ address := fun slot => by
          rw [hover.linear]
          exact hheld slot
        rw [hnow.get_absent haddress habsent, hkept.get_absent haddress hheld, ite_self]
  · intro address hpasses
    obtain ⟨slot, hslot, hvector, hsite⟩ := hpasses.1.slot hkept
    have hchosen : Chosen test state slot := by
      rw [chosen_iff hkept hsite.1, hslot]
      exact hpasses
    rw [← hslot, hkept.get_held hsite.1 rfl]
    exact hover.written slot (mem_finRange slot) hchosen
  · intro address haddress
    exact hover.untouched address fun slot _ hchosen => haddress _ (hchosen.passes hkept)

end Pass

/-- The restore leaves the memory as `DpmiUnpatch` does. -/
theorem dpmiTeardownRestore_memory (state : PatchState) :
    (dpmiTeardownRestore state).memory = (dpmiUnpatch state).memory := by
  have hloop : ∀ {slots : List (Fin dpmiPmapSlots)} {now : PatchState}, slots.Nodup →
      now.map.linear = state.map.linear →
      (∀ slot ∈ slots, now.map.vector slot = state.map.vector slot) →
        slots.foldl (dpmiTeardownSlot state.map) now.memory =
          (slots.foldl dpmiUnpatchSlot now).memory := by
    intro slots
    induction slots with
    | nil => exact fun _ _ _ => rfl
    | cons slot rest ih =>
      intro now hnodup hlinear hvector
      have hrest := nodup_cons.mp hnodup
      have hsame := hvector slot mem_cons_self
      have hsite : now.map.isSite slot ↔ state.map.isSite slot := by
        rw [isSite, isSite, hlinear, hsame]
      have hstep : dpmiTeardownSlot state.map now.memory slot =
          (dpmiUnpatchSlot now slot).memory := by
        rw [dpmiUnpatchSlot, dpmiPassSlot, dpmiTeardownSlot, hlinear, hsame]
        by_cases hissite : state.map.isSite slot
        · rw [if_pos (hsite.mpr hissite)]
          by_cases hbop : now.memory.isBop (state.map.linear slot)
          · rw [if_pos ⟨hissite, hbop⟩, if_pos (decide_eq_true hbop)]
          · rw [if_neg fun h => hbop h.2, if_neg fun h => hbop (of_decide_eq_true h)]
        · rw [if_neg fun h => hissite h.1, if_neg fun h => hissite (hsite.mp h)]
      have hkept : (dpmiUnpatchSlot now slot).map.linear = now.map.linear ∧
          ∀ other, other ≠ slot →
            (dpmiUnpatchSlot now slot).map.vector other = now.map.vector other := by
        rw [dpmiUnpatchSlot, dpmiPassSlot]
        split
        · split
          · exact ⟨rfl, fun _ _ => rfl⟩
          · exact ⟨rfl, fun other hother => update_of_ne hother _ _⟩
        · exact ⟨rfl, fun _ _ => rfl⟩
      rw [foldl_cons, foldl_cons, hstep]
      refine ih hrest.2 (hkept.1.trans hlinear) fun other hother => ?_
      have hne : other ≠ slot := fun heq => hrest.1 (heq ▸ hother)
      rw [hkept.2 other hne]
      exact hvector other (mem_cons_of_mem slot hother)
  have hnodup := nodup_finRange dpmiPmapSlots
  rw [dpmiTeardownRestore, dpmiUnpatch]
  generalize finRange dpmiPmapSlots = slots at hnodup
  exact hloop hnodup rfl fun _ _ => rfl

end Ntvdmex.Host.Patch
