import Ntvdmex.Host.Proofs.Patch.Sites

/-!
# Patched sites are undone

In every run the intact sites have their vectors, what `DpmiUnpatch` leaves is what the guest has
stored but for the rest of overwritten sites, a pass there and back forgets overwritten sites and
changes nothing else, and no byte of the guest's is lost elsewhere than at a live site.
-/

namespace Ntvdmex.Host.Patch

open Foundation Finset Function BitVec VectorTable

namespace SiteWorld

/-- What holds of the sites in every state of a run. -/
structure SitesUndone (w : SiteWorld) : Prop where
  own : ∀ site, w.Intact site →
    w.state.memory.isBop site ∧ patchMapGet w.state.map site = w.planted site
  back : w.isPatched = false → ∀ address, w.lost address = false →
    w.state.memory address = w.guest address
  torn : w.BopsIntact → ∀ address, (w.next .unpatch).lost address = false →
    (dpmiTeardownRestore w.state).memory address = w.guest address
  again : w.BopsIntact →
    ((w.next .unpatch).next .repatch).state.memory = w.state.memory ∧
      ∀ site, patchMapGet ((w.next .unpatch).next .repatch).state.map site =
        if w.state.map.Live site ∧ ¬w.Intact site then 0 else patchMapGet w.state.map site
  bytes : ∀ event, w.Legal event → w.Orderly event → ∀ address,
    w.state.memory address = w.guest address →
      (w.next event).state.memory address ≠ (w.next event).guest address →
        ∃ site, (address = site ∨ address = site + 1) ∧ (w.next event).state.map.Live site ∧
          w.state.memory.isInt site (patchMapGet (w.next event).state.map site)

variable {w : SiteWorld}

namespace SiteKept

variable {address : BitVec 32}

theorem back (h : SiteKept w) (haway : w.isPatched = false) (hlost : w.lost address = false) :
    w.state.memory address = w.guest address :=
  h.plain address (h.away haway address) hlost

section

variable (h : SiteKept w) (hbops : w.BopsIntact)

include h hbops

theorem unpatch_back {address : BitVec 32}
    (hlost : (w.next .unpatch).lost address = false) :
    (dpmiUnpatch w.state).memory address = w.guest address := by
  have hback := (h.unpatch hbops).back rfl hlost
  rwa [next_unpatch_state] at hback

/-- After `DpmiUnpatch` the intact sites are the ones that read their `CD vec`. -/
theorem reads_unpatch (site : BitVec 32) :
    (w.next .unpatch).Reads site ↔ w.Intact site := by
  rw [Reads, next_unpatch_state, h.live_unpatch hbops, h.get_unpatch hbops]
  refine ⟨And.left, fun hintact => ⟨hintact, ?_⟩⟩
  rw [if_pos hintact, h.intact_get hintact]
  exact h.unpatch_intact hbops hintact

theorem again_memory :
    ((w.next .unpatch).next .repatch).state.memory = w.state.memory := by
  have hunpatched := h.unpatch hbops
  rw [next_repatch_state]
  funext address
  by_cases hat : ∃ site, w.Intact site ∧ (address = site ∨ address = site + 1)
  · obtain ⟨site, hintact, hbyte⟩ := hat
    have hreads := (h.reads_unpatch hbops site).mpr hintact
    have hafter := hunpatched.repatch_reads rfl hreads
    have hbefore := h.intact_isBop hintact
    rcases hbyte with rfl | rfl
    · rw [hafter.1, hbefore.1]
    · rw [hafter.2, hbefore.2]
  · have hother : ∀ site, w.Intact site → address ≠ site ∧ address ≠ site + 1 := fun site hintact =>
      not_or.mp fun hbyte => hat ⟨site, hintact, hbyte⟩
    calc (dpmiRepatch (w.next .unpatch).state).memory address
        = (w.next .unpatch).state.memory address :=
          hunpatched.repatch_other rfl fun site hreads =>
            hother site ((h.reads_unpatch hbops site).mp hreads)
      _ = (dpmiUnpatch w.state).memory address := by rw [next_unpatch_state]
      _ = w.state.memory address := h.unpatch_other hbops hother

theorem again_get (site : BitVec 32) :
    patchMapGet ((w.next .unpatch).next .repatch).state.map site =
      if w.state.map.Live site ∧ ¬w.Intact site then 0 else patchMapGet w.state.map site := by
  have hunpatched := h.unpatch hbops
  rw [next_repatch_state, hunpatched.get_repatch rfl]
  by_cases hintact : w.Intact site
  · rw [if_pos ((h.reads_unpatch hbops site).mpr hintact), if_neg fun hdrop => hdrop.2 hintact,
      next_unpatch_state, h.get_unpatch hbops, if_pos hintact]
  · rw [if_neg fun hreads => hintact ((h.reads_unpatch hbops site).mp hreads)]
    split
    · rfl
    · rename_i hstay
      by_contra hget
      exact hstay ⟨(h.live_iff site).mpr (Ne.symm hget), hintact⟩

theorem bytes_unpatch {address : BitVec 32}
    (hsame : w.state.memory address = w.guest address) :
    (w.next .unpatch).state.memory address = (w.next .unpatch).guest address := by
  rw [next_unpatch_state]
  by_cases hat : ∃ site, w.Intact site ∧ (address = site ∨ address = site + 1)
  · obtain ⟨site, hintact, hbyte⟩ := hat
    have hafter := h.unpatch_intact hbops hintact
    have hguest := h.intact_guest hintact
    rcases hbyte with rfl | rfl
    · exact hafter.1.trans hguest.1.symm
    · exact hafter.2.trans hguest.2.symm
  · have hother : ∀ site, w.Intact site → address ≠ site ∧ address ≠ site + 1 := fun site hintact =>
      not_or.mp fun hbyte => hat ⟨site, hintact, hbyte⟩
    exact (h.unpatch_other hbops hother).trans hsame

end

theorem bytes_repatch (h : SiteKept w) (haway : w.isPatched = false)
    (hsame : w.state.memory address = w.guest address)
    (hchanged : (w.next .repatch).state.memory address ≠ (w.next .repatch).guest address) :
    ∃ site, (address = site ∨ address = site + 1) ∧ (w.next .repatch).state.map.Live site ∧
      w.state.memory.isInt site (patchMapGet (w.next .repatch).state.map site) := by
  rw [next_repatch_state] at hchanged ⊢
  by_cases hat : ∃ site, w.Reads site ∧ (address = site ∨ address = site + 1)
  · obtain ⟨site, hreads, hbyte⟩ := hat
    have hget : patchMapGet (dpmiRepatch w.state).map site = patchMapGet w.state.map site := by
      rw [h.get_repatch haway, if_pos hreads]
    refine ⟨site, hbyte, ?_, ?_⟩
    · rw [PatchMap.Live, hget]
      exact hreads.1
    · rw [hget]
      exact hreads.2
  · have hother : ∀ site, w.Reads site → address ≠ site ∧ address ≠ site + 1 := fun site hreads =>
      not_or.mp fun hbyte => hat ⟨site, hreads, hbyte⟩
    exact absurd ((h.repatch_other haway hother).trans hsame) hchanged

theorem bytes_plant (h : SiteKept w) {linear : BitVec 32} (hlegal : w.Legal (.plant linear))
    (hroom : w.state.map.HasRoom) (hsame : w.state.memory address = w.guest address)
    (hchanged : (w.next (.plant linear)).state.memory address ≠ (w.next (.plant linear)).guest
      address) :
    ∃ site, (address = site ∨ address = site + 1) ∧
      (w.next (.plant linear)).state.map.Live site ∧
        w.state.memory.isInt site (patchMapGet (w.next (.plant linear)).state.map site) := by
  obtain ⟨-, hlinear, hint, -, hzero, hbp⟩ := hlegal
  have hget : patchMapGet (w.next (.plant linear)).state.map linear =
      w.state.memory (linear + 1) := by
    refine (h.map.get_set hlinear hlinear hroom _).trans (if_pos rfl)
  by_cases hat : address = linear ∨ address = linear + 1
  · refine ⟨linear, hat, ?_, ?_⟩
    · rw [PatchMap.Live, hget]
      exact ⟨hzero, hbp⟩
    · rw [hget]
      exact hint
  · obtain ⟨hfirst, hsecond⟩ := not_or.mp hat
    exact absurd ((Memory.put_other _ _ hfirst hsecond).trans hsame) hchanged

theorem bytes_store {linear : BitVec 32} {byte : BitVec 8}
    (hsame : w.state.memory address = w.guest address) :
    (w.next (.store linear byte)).state.memory address =
      (w.next (.store linear byte)).guest address := by
  show Function.update w.state.memory linear byte address =
    Function.update w.guest linear byte address
  rw [update_apply, update_apply, hsame]

theorem undone (h : SiteKept w) : SitesUndone w where
  own site hintact := ⟨h.intact_isBop hintact, h.intact_get hintact⟩
  back haway _ hlost := h.back haway hlost
  torn hbops address hlost := by
    rw [dpmiTeardownRestore_memory]
    exact h.unpatch_back hbops hlost
  again hbops := ⟨h.again_memory hbops, h.again_get hbops⟩
  bytes event hlegal horderly address hsame hchanged := by
    cases event with
    | plant linear => exact h.bytes_plant hlegal horderly hsame hchanged
    | store linear byte => exact absurd (bytes_store hsame) hchanged
    | unpatch => exact absurd (h.bytes_unpatch horderly hsame) hchanged
    | repatch => exact h.bytes_repatch hlegal hsame hchanged

end SiteKept

end SiteWorld

open SiteWorld

/-- The sites of every run, and the answers of the map over any calls. -/
theorem patched_sites_undone (memory : Memory) (events : List SiteEvent)
    (hlegal : Throughout SiteWorld.next (start memory) Legal events)
    (horderly : Throughout SiteWorld.next (start memory) Orderly events) :
    SitesUndone (events.foldl SiteWorld.next (start memory)) ∧
      ∀ (calls : List MapCall) (linear : BitVec 32),
        patchMapGet (calls.foldl patchMapCall patchMapEmpty) linear =
          (calls.foldl VectorTable.call .empty).vector linear :=
  ⟨(SiteKept.run hlegal horderly).undone, fun calls => (tabled_empty.calls calls).get⟩

/-! ## One site -/

/-- `CD 21` at 100h. -/
def siteMemory : Memory := Memory.put (fun _ => 0) 0x100 x86OpInt 0x21

def plantedSite : SiteWorld := (start siteMemory).next (.plant 0x100)

theorem hasRoom_empty : patchMapEmpty.HasRoom := by decide

theorem plant_legal : (start siteMemory).Legal (.plant 0x100) := by
  refine ⟨rfl, ?_, ?_, ?_, ?_, ?_⟩ <;> decide

theorem siteKept_planted : SiteKept plantedSite :=
  (siteKept_start siteMemory).plant plant_legal hasRoom_empty

theorem get_planted {site : BitVec 32} (hsite : site ≠ 0) :
    patchMapGet plantedSite.state.map site = if site = 0x100 then 0x21 else 0 := by
  have hlinear : (0x100 : BitVec 32) ≠ 0 := by decide
  refine (mapKept_empty.get_set hlinear hsite hasRoom_empty _).trans ?_
  rw [get_empty]
  rfl

theorem planted_live {site : BitVec 32} (hlive : plantedSite.state.map.Live site) :
    site = 0x100 := by
  by_contra hne
  have hsite : site ≠ 0 := by
    rintro rfl
    exact hlive.1 (if_pos rfl)
  refine hlive.1 ?_
  rw [get_planted hsite, if_neg hne]

theorem planted_bopsIntact : plantedSite.BopsIntact := by
  intro site hlive _
  rw [planted_live hlive]
  decide

theorem patched_site_undone :
    SitesUndone ([.plant 0x100, .unpatch, .repatch].foldl SiteWorld.next (start siteMemory)) ∧
      ∀ (calls : List MapCall) (linear : BitVec 32),
        patchMapGet (calls.foldl patchMapCall patchMapEmpty) linear =
          (calls.foldl VectorTable.call .empty).vector linear := by
  refine patched_sites_undone siteMemory [.plant 0x100, .unpatch, .repatch] ?_ ?_
  · have hplanted : Throughout SiteWorld.next (start siteMemory) Legal [.plant 0x100] :=
      (throughout_nil _).concat plant_legal
    have hunpatched : Throughout SiteWorld.next (start siteMemory) Legal [.plant 0x100, .unpatch] :=
      hplanted.concat rfl
    exact hunpatched.concat rfl
  · have hplanted : Throughout SiteWorld.next (start siteMemory) Orderly [.plant 0x100] :=
      (throughout_nil _).concat hasRoom_empty
    have hunpatched :
        Throughout SiteWorld.next (start siteMemory) Orderly [.plant 0x100, .unpatch] :=
      hplanted.concat planted_bopsIntact
    exact hunpatched.concat trivial

/-! ## An overwritten site, and a map without room -/

def overwrittenSite : SiteWorld := plantedSite.next (.store 0x100 0x90)

theorem siteKept_overwritten : SiteKept overwrittenSite := siteKept_planted.store 0x100 0x90

theorem overwritten_bopsIntact : overwrittenSite.BopsIntact := by
  intro site hlive hbop
  rw [planted_live hlive] at hbop
  have hread : ¬overwrittenSite.state.memory.isBop 0x100 := by decide
  exact absurd hbop hread

theorem overwritten_not_intact (site : BitVec 32) : ¬overwrittenSite.Intact site := by
  intro hintact
  have hsite := planted_live (siteKept_overwritten.intact_live hintact)
  rw [hsite] at hintact
  have howner : ¬overwrittenSite.Intact 0x100 := by decide
  exact howner hintact

def setFirst (n : Nat) : List MapCall :=
  (List.range n).map fun i => .set (BitVec.ofNat 32 (i + 1)) 1

def firstAddresses (n : Nat) : Finset (BitVec 32) :=
  (Finset.range n).image fun i => BitVec.ofNat 32 (i + 1)

theorem card_firstAddresses {n : Nat} (hn : n ≤ dpmiPmapSlots - patchMapHeadroom) :
    (firstAddresses n).card = n := by
  have hle : n ≤ 65520 := hn
  rw [firstAddresses, card_image_of_injOn, card_range]
  intro i hi j hj hij
  have hi' : i < n := mem_range.mp hi
  have hj' : j < n := mem_range.mp hj
  have hval := congrArg BitVec.toNat hij
  simp only [toNat_ofNat] at hval
  lia

theorem setFirst_table {n : Nat} (hn : n ≤ dpmiPmapSlots - patchMapHeadroom) :
    (setFirst n).foldl call .empty =
      { held := firstAddresses n
        vector := fun linear => if linear ∈ firstAddresses n then 1 else 0 } := by
  induction n with
  | zero => rfl
  | succ n ih =>
    have hlt : n < 65520 := hn
    have hzero : BitVec.ofNat 32 (n + 1) ≠ 0 := by
      intro h
      have hval := congrArg BitVec.toNat h
      simp only [toNat_ofNat, ofNat_eq_ofNat] at hval
      omega
    rw [setFirst, List.range_succ, List.map_append, List.foldl_append, ← setFirst,
      ih (Nat.le_of_lt hn), List.map_singleton, List.foldl_cons, List.foldl_nil,
      call, if_neg (not_or.mpr ⟨hzero, ?_⟩)]
    · have hinsert : firstAddresses (n + 1) =
          insert (BitVec.ofNat 32 (n + 1)) (firstAddresses n) := by
        rw [firstAddresses, range_add_one, image_insert, ← firstAddresses]
      rw [hinsert]
      congr 1
      funext linear
      rw [update_apply]
      by_cases heq : linear = BitVec.ofNat 32 (n + 1)
      · rw [if_pos heq, if_pos (mem_insert.mpr (.inl heq))]
      · rw [if_neg heq]
        refine if_congr ?_ rfl rfl
        rw [mem_insert, or_iff_right heq]
    · rw [isFull, card_firstAddresses (Nat.le_of_lt hn), Nat.not_le]
      exact hn

/-- A site whose first byte the guest has overwritten keeps the `C4` in its second and loses its
vector, and the map that holds its 65520 addresses takes no new vector for one of them. -/
theorem overwritten_site_keeps_bop :
    Throughout SiteWorld.next (start siteMemory) Legal
        [.plant 0x100, .store 0x100 0x90, .unpatch, .repatch] ∧
      (overwrittenSite.next .unpatch).state.memory 0x101 ≠
        (overwrittenSite.next .unpatch).guest 0x101 ∧
      patchMapGet ((overwrittenSite.next .unpatch).next .repatch).state.map 0x100 ≠
        patchMapGet overwrittenSite.state.map 0x100 ∧
      patchMapGet ((setFirst 65520 ++ [MapCall.set 1 2]).foldl patchMapCall patchMapEmpty) 1 ≠ 2 := by
  have hlost : (dpmiUnpatch overwrittenSite.state).memory 0x101 =
      overwrittenSite.state.memory 0x101 := siteKept_overwritten.unpatch_other overwritten_bopsIntact
    fun site hintact => absurd hintact (overwritten_not_intact site)
  refine ⟨?_, ?_, ?_, ?_⟩
  · have hplanted : Throughout SiteWorld.next (start siteMemory) Legal [.plant 0x100] :=
      (throughout_nil _).concat plant_legal
    have hstored : Throughout SiteWorld.next (start siteMemory) Legal
        [.plant 0x100, .store 0x100 0x90] := hplanted.concat (show (0x90 : BitVec 8) ≠ _ by decide)
    have hunpatched : Throughout SiteWorld.next (start siteMemory) Legal
        [.plant 0x100, .store 0x100 0x90, .unpatch] := hstored.concat rfl
    exact hunpatched.concat rfl
  · rw [next_unpatch_state, hlost]
    decide
  · have hlive : overwrittenSite.state.map.Live 0x100 := by
      rw [PatchMap.Live, show overwrittenSite.state.map = plantedSite.state.map from rfl,
        get_planted (by decide)]
      decide
    rw [siteKept_overwritten.again_get overwritten_bopsIntact,
      if_pos ⟨hlive, overwritten_not_intact _⟩]
    exact hlive.1.symm
  · have hfull : 65520 ≤ dpmiPmapSlots - patchMapHeadroom := by decide
    have hmem : 1 ∈ firstAddresses 65520 :=
      Finset.mem_image.mpr ⟨0, Finset.mem_range.mpr (by omega), rfl⟩
    rw [(tabled_empty.calls _).get, List.foldl_append, setFirst_table hfull, List.foldl_cons,
      List.foldl_nil, VectorTable.call, if_pos (.inr (card_firstAddresses hfull).ge)]
    dsimp only
    rw [if_pos hmem]
    decide

end Ntvdmex.Host.Patch
