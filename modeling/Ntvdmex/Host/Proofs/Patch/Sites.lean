import Ntvdmex.Host.Proofs.Patch.Passes

/-!
# What the sites of a run leave of the guest's bytes

Beside the machine a run carries what only an observer knows: the bytes as the guest last had
them, the site each byte of the machine stands for, the vector each site was planted over and the
bytes left behind when an overwritten site was dropped.  A site is intact while both its bytes
stand for it.
-/

namespace Ntvdmex.Host.Patch

open Foundation Function Option Memory

/-- A function changed at an address and the one after it. -/
def setPair {β : Type} (f : BitVec 32 → β) (linear : BitVec 32) (value : β) : BitVec 32 → β :=
  Function.update (Function.update f linear value) (linear + 1) value

theorem setPair_at {β : Type} (f : BitVec 32 → β) {linear address : BitVec 32} (value : β)
    (h : address = linear ∨ address = linear + 1) : setPair f linear value address = value := by
  rcases h with rfl | rfl
  · have hne : address ≠ address + 1 := by bv_omega
    rw [setPair, update_of_ne hne, update_self]
  · rw [setPair, update_self]

theorem setPair_other {β : Type} (f : BitVec 32 → β) {linear address : BitVec 32} (value : β)
    (h : ¬(address = linear ∨ address = linear + 1)) :
    setPair f linear value address = f address := by
  rw [not_or] at h
  rw [setPair, update_of_ne h.2, update_of_ne h.1]

structure SiteWorld where
  state : PatchState
  /-- Every byte as the guest last stored it, or as it was. -/
  guest : Memory
  /-- The site whose `C4` this byte is. -/
  owner : BitVec 32 → Option (BitVec 32)
  /-- The vector the site was planted over. -/
  planted : BitVec 32 → BitVec 8
  /-- The byte is the rest of a site dropped with its other byte overwritten. -/
  lost : BitVec 32 → Bool
  isPatched : Bool

inductive SiteEvent where
  | plant (linear : BitVec 32)
  | store (linear : BitVec 32) (byte : BitVec 8)
  | unpatch
  | repatch

namespace SiteWorld

variable (memory : Memory)

def start : SiteWorld where
  state := ⟨patchMapEmpty, memory⟩
  guest := memory
  owner _ := none
  planted _ := 0
  lost _ := false
  isPatched := true

/-- Neither byte of the site has been overwritten since it was planted. -/
def Intact (w : SiteWorld) (linear : BitVec 32) : Prop :=
  w.owner linear = some linear ∧ w.owner (linear + 1) = some linear
deriving Decidable

def isRest (w : SiteWorld) (address : BitVec 32) : Bool :=
  match w.owner address with
  | none => false
  | some site => decide (¬w.Intact site)

/-- A live site that reads its `CD vec`. -/
def Reads (w : SiteWorld) (linear : BitVec 32) : Prop :=
  w.state.map.Live linear ∧ w.state.memory.isInt linear (patchMapGet w.state.map linear)
deriving Decidable

/-- The site a byte stands for after `DpmiRepatch`. -/
def repatchOwner (w : SiteWorld) (address : BitVec 32) : Option (BitVec 32) :=
  if w.Reads address then some address
  else if w.Reads (address - 1) then some (address - 1)
  else none

def next (w : SiteWorld) : SiteEvent → SiteWorld
  | .plant linear =>
    { w with
      state := dpmiPatchSite w.state linear
      owner := setPair w.owner linear (some linear)
      planted := Function.update w.planted linear (w.state.memory (linear + 1))
      lost := setPair w.lost linear false }
  | .store linear byte =>
    { w with
      state := { w.state with memory := Function.update w.state.memory linear byte }
      guest := Function.update w.guest linear byte
      owner := Function.update w.owner linear none
      lost := Function.update w.lost linear false }
  | .unpatch =>
    { w with
      state := dpmiUnpatch w.state
      owner := fun _ => none
      lost := fun address => w.lost address || w.isRest address
      isPatched := false }
  | .repatch =>
    { w with
      state := dpmiRepatch w.state
      owner := w.repatchOwner
      isPatched := true }

/-- `DpmiUnpatch` and `DpmiRepatch` alternate, a site is planted while patched over the guest's own
`CD vec`, and the guest never stores a `C4`. -/
def Legal (w : SiteWorld) : SiteEvent → Prop
  | .plant linear =>
    w.isPatched = true ∧ linear ≠ 0 ∧
      w.state.memory.isInt linear (w.state.memory (linear + 1)) ∧
      w.guest.isInt linear (w.state.memory (linear + 1)) ∧
      w.state.memory (linear + 1) ≠ 0 ∧ w.state.memory (linear + 1) ≠ dpmiBpVec
  | .store _ byte => byte ≠ vdmBop0
  | .unpatch => w.isPatched = true
  | .repatch => w.isPatched = false

/-- Only intact sites read `C4 C4`. -/
def BopsIntact (w : SiteWorld) : Prop :=
  ∀ linear, w.state.map.Live linear → w.state.memory.isBop linear → w.Intact linear

/-- A site is planted while the map has room, and `DpmiUnpatch` finds no overwritten site that
plants over its neighbours have made read `C4 C4` again. -/
def Orderly (w : SiteWorld) : SiteEvent → Prop
  | .plant _ => w.state.map.HasRoom
  | .unpatch => w.BopsIntact
  | _ => True

/-! ## The invariant -/

structure SiteKept (w : SiteWorld) : Prop where
  map : MapKept w.state.map
  notBp : ∀ site, patchMapGet w.state.map site ≠ dpmiBpVec
  plain : ∀ address, w.owner address = none → w.lost address = false →
    w.state.memory address = w.guest address
  owned : ∀ address site, w.owner address = some site →
    w.state.memory address = vdmBop0 ∧ w.lost address = false ∧
      patchMapGet w.state.map site = w.planted site ∧ patchMapGet w.state.map site ≠ 0 ∧
      (address = site ∧ w.guest address = x86OpInt ∨
        address = site + 1 ∧ w.guest address = w.planted site)
  away : w.isPatched = false → ∀ address, w.owner address = none
  restored : w.isPatched = false → ∀ site, w.state.map.Live site →
    w.lost site = false ∧ w.lost (site + 1) = false ∧
      patchMapGet w.state.map site = w.planted site
  apart : w.isPatched = false → ∀ site other, w.state.map.Live site → w.state.map.Live other →
    site ≠ other + 1

theorem siteKept_start : SiteKept (start memory) where
  map := mapKept_empty
  notBp site := by
    rw [show (start memory).state.map = patchMapEmpty from rfl, get_empty]
    decide
  plain _ _ _ := rfl
  owned _ _ h := nomatch h
  away h := nomatch h
  restored h := nomatch h
  apart h := nomatch h

variable {w : SiteWorld}

namespace SiteKept

theorem live_iff (h : SiteKept w) (site : BitVec 32) :
    w.state.map.Live site ↔ patchMapGet w.state.map site ≠ 0 :=
  and_iff_left (h.notBp site)

section

variable (h : SiteKept w) {site : BitVec 32} (hintact : w.Intact site)

include h hintact

theorem intact_live :
    w.state.map.Live site :=
  (h.live_iff site).mpr (h.owned site site hintact.1).2.2.2.1

theorem intact_isBop :
    w.state.memory.isBop site :=
  ⟨(h.owned _ site hintact.1).1, (h.owned _ site hintact.2).1⟩

theorem intact_get :
    patchMapGet w.state.map site = w.planted site :=
  (h.owned site site hintact.1).2.2.1

end

theorem intact_apart (_ : SiteKept w) {site other : BitVec 32} (hsite : w.Intact site)
    (hother : w.Intact other) : site ≠ other + 1 := by
  rintro rfl
  have hsame : other + 1 = other := some.inj (hsite.1.symm.trans hother.2)
  bv_omega

theorem intact_guest (h : SiteKept w) {site : BitVec 32} (hintact : w.Intact site) :
    w.guest.isInt site (w.planted site) := by
  obtain ⟨-, -, -, -, hfirst⟩ := h.owned site site hintact.1
  obtain ⟨-, -, -, -, hsecond⟩ := h.owned (site + 1) site hintact.2
  constructor
  · rcases hfirst with ⟨-, hguest⟩ | ⟨hsame, -⟩
    · exact hguest
    · bv_omega
  · rcases hsecond with ⟨hsame, -⟩ | ⟨-, hguest⟩
    · bv_omega
    · exact hguest

end SiteKept

theorem SiteKept.plant (h : SiteKept w) {linear : BitVec 32} (hlegal : w.Legal (.plant linear))
    (hroom : w.state.map.HasRoom) : SiteKept (w.next (.plant linear)) := by
  obtain ⟨hpatched, hlinear, -, hguest, hzero, hbp⟩ := hlegal
  have hget : ∀ site, patchMapGet (w.next (.plant linear)).state.map site =
      if site = linear then w.state.memory (linear + 1) else patchMapGet w.state.map site := by
    intro site
    by_cases hsite : site = 0
    · rw [hsite, if_neg (Ne.symm hlinear)]
      exact (if_pos rfl).trans (if_pos rfl).symm
    · exact h.map.get_set hlinear hsite hroom _
  refine ⟨h.map.set _ _, ?_, ?_, ?_, ?_, ?_, ?_⟩
  · intro site
    rw [hget]
    split
    · exact hbp
    · exact h.notBp site
  · intro address howner hlost
    by_cases hat : address = linear ∨ address = linear + 1
    · have hself : (w.next (.plant linear)).owner address = some linear := setPair_at _ _ hat
      rw [hself] at howner
      cases howner
    · have hmemory : (w.next (.plant linear)).state.memory address = w.state.memory address :=
        put_other _ _ (not_or.mp hat).1 (not_or.mp hat).2
      rw [hmemory]
      refine h.plain address ?_ ?_
      · exact (setPair_other _ _ hat).symm.trans howner
      · exact (setPair_other _ _ hat).symm.trans hlost
  · intro address site howner
    by_cases hat : address = linear ∨ address = linear + 1
    · have hself : (w.next (.plant linear)).owner address = some linear := setPair_at _ _ hat
      obtain rfl : linear = site := some.inj (hself.symm.trans howner)
      have hplanted : (w.next (.plant linear)).planted linear = w.state.memory (linear + 1) :=
        update_self _ _ _
      refine ⟨?_, setPair_at _ _ hat, ?_, ?_, ?_⟩
      · rcases hat with rfl | rfl
        · exact put_first _ _ _ _
        · exact put_second _ _ _ _
      · rw [hget, if_pos rfl, hplanted]
      · rwa [hget, if_pos rfl]
      · rw [hplanted]
        rcases hat with rfl | rfl
        · exact .inl ⟨rfl, hguest.1⟩
        · exact .inr ⟨rfl, hguest.2⟩
    · have hbefore : w.owner address = some site := (setPair_other _ _ hat).symm.trans howner
      obtain ⟨hbop, hlost, hown, hnonzero, hplace⟩ := h.owned address site hbefore
      have hne : site ≠ linear := by
        rintro rfl
        exact hat (hplace.imp And.left And.left)
      have hplanted : (w.next (.plant linear)).planted site = w.planted site :=
        update_of_ne hne _ _
      have hmemory : (w.next (.plant linear)).state.memory address = w.state.memory address :=
        put_other _ _ (not_or.mp hat).1 (not_or.mp hat).2
      rw [hmemory, hget, if_neg hne, hplanted]
      exact ⟨hbop, (setPair_other _ _ hat).trans hlost, hown, hnonzero, hplace⟩
  iterate 3
    · intro haway
      rw [show (w.next (.plant linear)).isPatched = w.isPatched from rfl, hpatched] at haway
      cases haway

theorem SiteKept.store (h : SiteKept w) (linear : BitVec 32) (byte : BitVec 8) :
    SiteKept (w.next (.store linear byte)) := by
  have howner : ∀ {address : BitVec 32} {site : BitVec 32},
      (w.next (.store linear byte)).owner address = some site →
        address ≠ linear ∧ w.owner address = some site := by
    intro address site hsome
    have hne : address ≠ linear := by
      rintro rfl
      rw [show (w.next (.store address byte)).owner address = none from
        update_self _ _ _] at hsome
      cases hsome
    exact ⟨hne, (update_of_ne hne _ _).symm.trans hsome⟩
  refine ⟨h.map, h.notBp, ?_, ?_, ?_, ?_, h.apart⟩
  · intro address hnone hlost
    by_cases hat : address = linear
    · show update w.state.memory linear byte address =
        update w.guest linear byte address
      rw [hat, update_self, update_self]
    · show update w.state.memory linear byte address =
        update w.guest linear byte address
      rw [update_of_ne hat, update_of_ne hat]
      refine h.plain address ?_ ?_
      · exact (update_of_ne hat _ _).symm.trans hnone
      · exact (update_of_ne hat _ _).symm.trans hlost
  · intro address site hsome
    obtain ⟨hne, hbefore⟩ := howner hsome
    obtain ⟨hbop, hlost, hown, hnonzero, hplace⟩ := h.owned address site hbefore
    have hguest : (w.next (.store linear byte)).guest address = w.guest address :=
      update_of_ne hne _ _
    rw [hguest]
    exact ⟨(update_of_ne hne _ _).trans hbop, (update_of_ne hne _ _).trans hlost,
      hown, hnonzero, hplace⟩
  · intro haway address
    by_cases hat : address = linear
    · rw [hat]
      exact update_self _ _ _
    · exact (update_of_ne hat _ _).trans (h.away haway address)
  · intro haway site hlive
    obtain ⟨hfirst, hsecond, hget⟩ := h.restored haway site hlive
    have hlost : ∀ address, w.lost address = false →
        (w.next (.store linear byte)).lost address = false := by
      intro address hclear
      by_cases hat : address = linear
      · rw [hat]
        exact update_self _ _ _
      · exact (update_of_ne hat _ _).trans hclear
    exact ⟨hlost _ hfirst, hlost _ hsecond, hget⟩

/-! ## `DpmiUnpatch` -/

theorem next_unpatch_state : (w.next .unpatch).state = dpmiUnpatch w.state := by
  rw [next]

theorem next_repatch_state : (w.next .repatch).state = dpmiRepatch w.state := by
  rw [next]

/-- The test of the pass. -/
abbrev readsBop (linear : BitVec 32) (_ : BitVec 8) : Bool :=
  memory.isBop linear

/-- The test of the pass back. -/
abbrev readsInt (linear : BitVec 32) (vector : BitVec 8) : Bool :=
  memory.isInt linear vector

namespace SiteKept

section

variable (h : SiteKept w) (hbops : w.BopsIntact)

include h hbops

theorem passes_bop (site : BitVec 32) :
    Passes readsBop w.state site ↔ w.Intact site := by
  constructor
  · rintro ⟨hlive, htest⟩
    exact hbops site hlive (of_decide_eq_true htest)
  · intro hintact
    exact ⟨h.intact_live hintact, decide_eq_true (h.intact_isBop hintact)⟩

/-- Nothing written to the intact sites decides about another site. -/
theorem readsBop_stable {site : BitVec 32}
    (hlive : w.state.map.Live site) {memory : Memory}
    (hmemory : ∀ address, (∀ other, other ≠ site → Passes readsBop w.state other →
      address ≠ other ∧ address ≠ other + 1) → memory address = w.state.memory address) :
    readsBop memory site (patchMapGet w.state.map site) =
      readsBop w.state.memory site (patchMapGet w.state.map site) := by
  rw [decide_eq_decide]
  by_cases hbop : w.state.memory.isBop site
  · have hintact := hbops site hlive hbop
    have hsame : ∀ address, w.owner address = some site →
        memory address = w.state.memory address := by
      intro address howner
      refine hmemory address fun other hother hpasses => ?_
      have hpair := (h.passes_bop hbops other).mp hpasses
      constructor
      · rintro rfl
        exact hother (some.inj (hpair.1.symm.trans howner))
      · rintro rfl
        exact hother (some.inj (hpair.2.symm.trans howner))
    unfold isBop
    rw [hsame _ hintact.1, hsame _ hintact.2]
  · have hsame : ∀ address, w.state.memory address ≠ vdmBop0 →
        memory address = w.state.memory address := by
      intro address hplain
      refine hmemory address fun other _ hpasses => ?_
      have hread : w.state.memory.isBop other := of_decide_eq_true hpasses.2
      constructor
      · rintro rfl
        exact hplain hread.1
      · rintro rfl
        exact hplain hread.2
    refine ⟨fun hnow => ?_, fun hthen => absurd hthen hbop⟩
    rcases not_and_or.mp hbop with hfirst | hsecond
    · rw [← hsame site hfirst] at hfirst
      exact absurd hnow.1 hfirst
    · rw [← hsame (site + 1) hsecond] at hsecond
      exact absurd hnow.2 hsecond

theorem unpatch_passed :
    Passed readsBop (fun vector => (x86OpInt, vector)) w.state (dpmiUnpatch w.state) := by
  refine dpmiPass_passed h.map ?_ ?_
  · intro site other hsite hother
    exact h.intact_apart ((h.passes_bop hbops site).mp hsite)
      ((h.passes_bop hbops other).mp hother)
  · intro site hlive memory hmemory
    exact h.readsBop_stable hbops hlive hmemory

/-- The map and the memory after `DpmiUnpatch`. -/
theorem get_unpatch (site : BitVec 32) :
    patchMapGet (dpmiUnpatch w.state).map site =
      if w.Intact site then patchMapGet w.state.map site else 0 := by
  have hpasses := h.passes_bop hbops site
  rw [(h.unpatch_passed hbops).get]
  by_cases hlive : w.state.map.Live site
  · by_cases hintact : w.Intact site
    · have htrue := (hpasses.mpr hintact).2
      rw [if_pos hintact, if_neg fun hdrop => by simp [htrue] at hdrop]
    · have hfalse : readsBop w.state.memory site (patchMapGet w.state.map site) = false :=
        Bool.eq_false_iff.mpr fun htrue => hintact (hpasses.mp ⟨hlive, htrue⟩)
      rw [if_neg hintact, if_pos ⟨hlive, hfalse⟩]
  · rw [if_neg fun hdrop => hlive hdrop.1, if_neg fun hintact => hlive (h.intact_live hintact)]
    exact not_not.mp fun hget => hlive ((h.live_iff site).mpr hget)

theorem unpatch_intact {site : BitVec 32}
    (hintact : w.Intact site) :
    (dpmiUnpatch w.state).memory.isInt site (w.planted site) := by
  rw [← h.intact_get hintact]
  exact (h.unpatch_passed hbops).written site ((h.passes_bop hbops site).mpr hintact)

theorem unpatch_other {address : BitVec 32}
    (hother : ∀ site, w.Intact site → address ≠ site ∧ address ≠ site + 1) :
    (dpmiUnpatch w.state).memory address = w.state.memory address :=
  (h.unpatch_passed hbops).untouched address fun site hpasses =>
    hother site ((h.passes_bop hbops site).mp hpasses)

theorem live_unpatch (site : BitVec 32) :
    (dpmiUnpatch w.state).map.Live site ↔ w.Intact site := by
  unfold PatchMap.Live
  rw [h.get_unpatch hbops]
  by_cases hintact : w.Intact site
  · rw [if_pos hintact]
    exact iff_of_true (h.intact_live hintact) hintact
  · rw [if_neg hintact]
    exact iff_of_false (fun hlive => hlive.1 rfl) hintact

theorem unpatch_guest {address : BitVec 32}
    (hplain : w.owner address = none → w.state.memory address = w.guest address)
    (hrest : w.isRest address = false) :
    (dpmiUnpatch w.state).memory address = w.guest address := by
  rcases howner : w.owner address with _ | site
  · rw [h.unpatch_other hbops, hplain howner]
    intro site hintact
    constructor
    · rintro rfl
      rw [hintact.1] at howner
      cases howner
    · rintro rfl
      rw [hintact.2] at howner
      cases howner
  · have hintact : w.Intact site := by
      rw [isRest, howner] at hrest
      exact not_not.mp (of_decide_eq_false hrest)
    have hint := h.unpatch_intact hbops hintact
    have hguest := h.intact_guest hintact
    obtain ⟨-, -, -, -, ⟨rfl, -⟩ | ⟨rfl, -⟩⟩ := h.owned address site howner
    · rw [hint.1, hguest.1]
    · rw [hint.2, hguest.2]

end

theorem intact_notRest {site address : BitVec 32} (hintact : w.Intact site)
    (howner : w.owner address = some site) : w.isRest address = false := by
  rw [isRest, howner]
  exact decide_eq_false (not_not.mpr hintact)

theorem unpatch (h : SiteKept w) (hbops : w.BopsIntact) : SiteKept (w.next .unpatch) where
  map := by
    rw [next_unpatch_state]
    exact (h.unpatch_passed hbops).kept
  notBp site := by
    rw [next_unpatch_state, h.get_unpatch hbops]
    split
    · exact h.notBp site
    · decide
  plain address _ hlost := by
    obtain ⟨hkept, hrest⟩ := Bool.or_eq_false_iff.mp hlost
    rw [next_unpatch_state]
    exact h.unpatch_guest hbops (fun hnone => h.plain address hnone hkept) hrest
  owned _ _ howner := nomatch howner
  away _ _ := rfl
  restored _ site hlive := by
    rw [next_unpatch_state] at hlive ⊢
    have hintact := (h.live_unpatch hbops site).mp hlive
    refine ⟨?_, ?_, ?_⟩
    · exact Bool.or_eq_false_iff.mpr
        ⟨(h.owned _ _ hintact.1).2.1, intact_notRest hintact hintact.1⟩
    · exact Bool.or_eq_false_iff.mpr
        ⟨(h.owned _ _ hintact.2).2.1, intact_notRest hintact hintact.2⟩
    · rw [h.get_unpatch hbops, if_pos hintact]
      exact h.intact_get hintact
  apart _ site other hsite hother := by
    rw [next_unpatch_state] at hsite hother
    exact h.intact_apart ((h.live_unpatch hbops site).mp hsite) ((h.live_unpatch hbops other).mp hother)

/-! ## `DpmiRepatch` -/

theorem passes_int (site : BitVec 32) : Passes readsInt w.state site ↔ w.Reads site :=
  and_congr_right fun _ => decide_eq_true_iff

section

variable (h : SiteKept w) (haway : w.isPatched = false)

include h haway

theorem repatch_passed :
    Passed readsInt (fun _ => (vdmBop0, vdmBop1)) w.state (dpmiRepatch w.state) := by
  refine dpmiPass_passed h.map ?_ ?_
  · intro site other hsite hother
    exact h.apart haway site other hsite.1 hother.1
  · intro site hlive memory hmemory
    have hfirst : memory site = w.state.memory site := by
      refine hmemory site fun other hne hpasses => ?_
      exact ⟨hne.symm, h.apart haway site other hlive hpasses.1⟩
    have hsecond : memory (site + 1) = w.state.memory (site + 1) := by
      refine hmemory (site + 1) fun other hne hpasses => ?_
      refine ⟨(h.apart haway other site hpasses.1 hlive).symm, fun heq => hne ?_⟩
      bv_omega
    rw [decide_eq_decide, isInt, isInt, hfirst, hsecond]

theorem get_repatch (site : BitVec 32) :
    patchMapGet (dpmiRepatch w.state).map site =
      if w.Reads site then patchMapGet w.state.map site else 0 := by
  rw [(h.repatch_passed haway).get]
  by_cases hlive : w.state.map.Live site
  · by_cases hreads : w.Reads site
    · have htrue := ((passes_int site).mpr hreads).2
      rw [if_pos hreads, if_neg fun hdrop => by simp [htrue] at hdrop]
    · have hfalse : readsInt w.state.memory site (patchMapGet w.state.map site) = false :=
        Bool.eq_false_iff.mpr fun htrue => hreads ((passes_int site).mp ⟨hlive, htrue⟩)
      rw [if_neg hreads, if_pos ⟨hlive, hfalse⟩]
  · rw [if_neg fun hdrop => hlive hdrop.1, if_neg fun hreads => hlive hreads.1]
    exact not_not.mp fun hget => hlive ((h.live_iff site).mpr hget)

theorem repatch_reads {site : BitVec 32}
    (hreads : w.Reads site) : (dpmiRepatch w.state).memory.isBop site :=
  (h.repatch_passed haway).written site ((passes_int site).mpr hreads)

theorem repatch_other {address : BitVec 32}
    (hother : ∀ site, w.Reads site → address ≠ site ∧ address ≠ site + 1) :
    (dpmiRepatch w.state).memory address = w.state.memory address :=
  (h.repatch_passed haway).untouched address fun site hpasses =>
    hother site ((passes_int site).mp hpasses)

end

theorem repatchOwner_eq_none {address : BitVec 32} (hnone : w.repatchOwner address = none) :
    ∀ site, w.Reads site → address ≠ site ∧ address ≠ site + 1 := by
  intro site hreads
  rw [repatchOwner] at hnone
  constructor
  · rintro rfl
    rw [if_pos hreads] at hnone
    cases hnone
  · rintro rfl
    rw [show site + 1 - 1 = site by bv_omega, if_pos hreads] at hnone
    split at hnone <;> cases hnone

theorem repatchOwner_eq_some {address site : BitVec 32}
    (hsome : w.repatchOwner address = some site) :
    w.Reads site ∧ (address = site ∨ address = site + 1) := by
  rw [repatchOwner] at hsome
  split at hsome
  · rename_i hreads
    obtain rfl := some.inj hsome
    exact ⟨hreads, .inl rfl⟩
  · split at hsome
    · rename_i hreads
      obtain rfl := some.inj hsome
      exact ⟨hreads, .inr (by bv_omega)⟩
    · cases hsome

theorem repatch (h : SiteKept w) (haway : w.isPatched = false) : SiteKept (w.next .repatch) where
  map := by
    rw [next_repatch_state]
    exact (h.repatch_passed haway).kept
  notBp site := by
    rw [next_repatch_state, h.get_repatch haway]
    split
    · exact h.notBp site
    · decide
  plain address hnone hlost := by
    rw [next_repatch_state, h.repatch_other haway (repatchOwner_eq_none hnone)]
    exact h.plain address (h.away haway address) hlost
  owned address site hsome := by
    obtain ⟨hreads, hat⟩ := repatchOwner_eq_some hsome
    obtain ⟨hfirst, hsecond, hget⟩ := h.restored haway site hreads.1
    have hbop := h.repatch_reads haway hreads
    rw [next_repatch_state, h.get_repatch haway, if_pos hreads]
    have hbytes : w.guest site = x86OpInt ∧ w.guest (site + 1) = w.planted site := by
      rw [← h.plain site (h.away haway _) hfirst, ← h.plain (site + 1) (h.away haway _) hsecond,
        ← hget]
      exact hreads.2
    rcases hat with rfl | rfl
    · exact ⟨hbop.1, hfirst, hget, hreads.1.1, .inl ⟨rfl, hbytes.1⟩⟩
    · exact ⟨hbop.2, hsecond, hget, hreads.1.1, .inr ⟨rfl, hbytes.2⟩⟩
  away hpatched := nomatch hpatched
  restored hpatched := nomatch hpatched
  apart hpatched := nomatch hpatched

theorem next (h : SiteKept w) {event : SiteEvent} (hlegal : w.Legal event)
    (horderly : w.Orderly event) : SiteKept (w.next event) := by
  cases event with
  | plant linear => exact h.plant hlegal horderly
  | store linear byte => exact h.store linear byte
  | unpatch => exact h.unpatch horderly
  | repatch => exact h.repatch hlegal

theorem run {memory : Memory} {events : List SiteEvent}
    (hlegal : Throughout SiteWorld.next (start memory) Legal events)
    (horderly : Throughout SiteWorld.next (start memory) Orderly events) :
    SiteKept (events.foldl SiteWorld.next (start memory)) :=
  (hlegal.and horderly).holds SiteKept (siteKept_start memory) fun _ _ h he => h.next he.1 he.2

end SiteKept

end SiteWorld

end Ntvdmex.Host.Patch
