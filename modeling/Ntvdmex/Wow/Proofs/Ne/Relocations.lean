import Ntvdmex.Foundation.LocalEdits
import Ntvdmex.Wow.Proofs.Ne.Resolve
import Ntvdmex.Wow.Proofs.Ne.Safety

/-!
# What the relocations write

A chain is threaded through the words it overwrites.  When its sites are apart from each
other and from those of the other records, each link is still the one the file has when the
walk comes to it, so the relocations are edits of separate places.
-/

namespace Ntvdmex.Wow.Ne

open Foundation SizedBytes Option ByteMemory Function NeModule List Edit

namespace NeRelocation

variable (record : NeRelocation) (target : Nat × Nat) (site : Nat)

/-- The bytes of a site, the link it holds among them. -/
def width : Nat := if record.addressType = neAddrFarAddr then 4 else 2

def IsKnown : Prop :=
  record.addressType ∈ [neAddrSegment, neAddrOffset16, neAddrFarAddr, neAddrLoByte]

theorem two_le_width : 2 ≤ record.width := by
  unfold width
  split
  · decide
  · rfl

/-- The offset of the target, added to what the site holds or in place of it. -/
def added (old : Nat) : Nat := if record.isAdditive then old + target.2 else target.2

/-- The memory after the fixup of a site. -/
def fixup (memory : ByteMemory) : ByteMemory :=
  let offset := word (record.added target (memory.readWord site))
  if record.addressType = neAddrSegment then memory.writeWord site target.1
  else if record.addressType = neAddrOffset16 then memory.writeWord site offset
  else if record.addressType = neAddrFarAddr then
    (memory.writeWord site offset).writeWord (site + 2) target.1
  else memory.store site (lowByte (record.added target (memory site).toNat))

variable {site}

theorem fixup_keeps {memory : ByteMemory} {address : Nat}
    (h : address < site ∨ site + record.width ≤ address) :
    record.fixup target site memory address = memory address := by
  unfold width at h
  have hnear : address ≠ site ∧ address ≠ site + 1 := by
    split at h
    · lia
    · lia
  have hword (value) := writeWord_other memory value hnear
  unfold fixup
  split
  · exact hword _
  split
  · exact hword _
  split
  · rename_i hfar
    rw [if_pos hfar] at h
    exact (writeWord_other _ _ (by lia)).trans (hword _)
  · exact store_other _ _ hnear.1

def fixupEdit (site : Nat) : Edit Nat UInt8 where
  place := Set.Ico site (site + record.width)
  edit := record.fixup target site
  keeps := fun h => record.fixup_keeps target (by rw [Set.mem_Ico] at h; lia)
  congr := by
    intro memory other h address haddress
    have hwidth := record.two_le_width
    have hlow : memory site = other site := h site ⟨le_rfl, by lia⟩
    have hword := readWord_congr hlow (h (site + 1) ⟨by lia, by lia⟩)
    unfold fixup
    rw [hlow, hword]
    split_ifs <;> simp only [ByteMemory.writeWord, store, h address haddress]

/-- From `site` on the links come to each of the sites, and then to the end of the chain or
of the segment. -/
def HasSites (size : Nat) (memory : ByteMemory) : Nat → List Nat → Prop
  | site, [] => site + 2 > size
  | site, first :: rest => first = site ∧ site + record.width ≤ size ∧
    if record.isAdditive ∨ memory.readWord site = neChainEnd then rest = []
    else HasSites size memory (memory.readWord site) rest

theorem HasSites.congr {record : NeRelocation} {size : Nat} {memory other : ByteMemory}
    {sites : List Nat} (hsame : ∀ site ∈ sites, other.readWord site = memory.readWord site) :
    ∀ {site}, record.HasSites size memory site sites → record.HasSites size other site sites := by
  induction sites with
  | nil => exact id
  | cons first rest ih =>
    rintro site ⟨rfl, hinside, hrest⟩
    rw [forall_mem_cons] at hsame
    refine ⟨rfl, hinside, ?_⟩
    rw [hsame.1]
    split
    · rwa [if_pos (by assumption)] at hrest
    · rw [if_neg (by assumption)] at hrest
      exact ih hsame.2 hrest

end NeRelocation

variable {record : NeRelocation} {target : Nat × Nat} {size : Nat}

theorem nePatchSite_eq (hkind : record.IsKnown) {memory : ByteMemory}
    {site : Nat} (hsite : site + record.width ≤ size) :
    nePatchSite ⟨memory, size⟩ record target.1 target.2 site (memory.readWord site) =
      some (.ok ⟨record.fixup target site memory, size⟩) := by
  unfold NeRelocation.width at hsite
  unfold nePatchSite NeRelocation.fixup NeRelocation.added
  dsimp only
  split
  · rw [writeWord_eq (by split at hsite <;> lia)]
    rfl
  split
  · rw [writeWord_eq (by split at hsite <;> lia)]
    rfl
  split
  · rename_i hfar
    rw [if_pos hfar] at hsite
    rw [if_neg (by lia), writeWord_eq (by lia), bind_eq_bind, bind_some, writeWord_eq (by lia)]
    rfl
  split
  · rw [if_neg (by assumption)] at hsite
    rw [read_eq (by lia), bind_eq_bind, bind_some, write_eq (by lia)]
    rfl
  · simp_all [NeRelocation.IsKnown]

theorem neWalkChain_eq (hkind : record.IsKnown) :
    ∀ {sites : List Nat} {rounds site count : Nat} {memory : ByteMemory},
      record.HasSites size memory site sites →
      (sites.map (record.fixupEdit target)).Pairwise Edit.Apart → sites.length < rounds →
      neWalkChain record target.1 target.2 rounds site (⟨memory, size⟩, count) =
        some (.done (⟨run (sites.map (record.fixupEdit target)) memory, size⟩,
          count + sites.length)) := by
  intro sites
  induction sites with
  | nil =>
    rintro (_ | rounds) site count memory hsites - hrounds
    · cases hrounds
    · exact if_pos hsites
  | cons first rest ih =>
    rintro (_ | rounds) site count memory ⟨rfl, hinside, hrest⟩ hapart hrounds
    · cases hrounds
    have hwidth := record.two_le_width
    rw [neWalkChain, if_neg (by lia), readWord_eq (by lia), bind_eq_bind, bind_some,
      nePatchSite_eq hkind hinside, bind_eq_bind, bind_some]
    dsimp only
    split at hrest
    · subst hrest
      rw [if_pos (by assumption)]
      rfl
    · rw [if_neg (by assumption)]
      obtain ⟨hfirst, hapart⟩ := pairwise_cons.mp hapart
      have hlink : record.HasSites size (record.fixup target first memory)
          (memory.readWord first) rest := by
        refine NeRelocation.HasSites.congr (fun site hsite => ?_) hrest
        have hout := hfirst _ (mem_map_of_mem hsite)
        apply readWord_congr
        · exact (record.fixupEdit target first).keeps fun h => hout _ h ⟨le_rfl, by lia⟩
        · exact (record.fixupEdit target first).keeps fun h => hout _ h ⟨by lia, by lia⟩
      refine (ih hlink hapart (Nat.lt_of_succ_lt_succ hrounds)).trans ?_
      rw [length_cons, Nat.add_comm rest.length, ← Nat.add_assoc]
      rfl

/-! ## The records of a segment -/

/-- A record with its target and its sites. -/
structure Relocated where
  record : NeRelocation
  target : Nat × Nat
  sites : List Nat

def Relocated.edits (relocated : Relocated) : List (Edit Nat UInt8) :=
  relocated.sites.map (relocated.record.fixupEdit relocated.target)

section

variable {σ : Type} (importer : Option (NeImport σ)) (module : NeModule) (index : Nat)

/-- The importer does not look at the loaded bytes of the module. -/
def IgnoresBytes : Prop :=
  ∀ resolve, importer = some resolve → ∀ context index after,
    resolve context (module.patched index after) = resolve context module

theorem neRegistryResolve_ignoresBytes : IgnoresBytes (some neRegistryResolve) module := by
  rintro _ ⟨⟩ context index after
  rfl

/-- The records from `position` on, with what each resolves to in its turn. -/
def HasRecords : Nat → σ → List Relocated → σ → Prop
  | _, context, [], last => context = last
  | position, context, relocated :: rest, last =>
    neReadRelocation module.image position = some relocated.record ∧ relocated.record.IsKnown ∧
      relocated.record.HasSites (module.segments index).length (module.segments index).memory
        relocated.record.site relocated.sites ∧
      ∃ after, neRelocationTarget importer module context relocated.record =
          some (.ok relocated.target, after) ∧
        HasRecords (position + neRelocSize) after rest last

variable {importer module index}

theorem neRelocationTarget_patched (hbytes : IgnoresBytes importer module) (context : σ)
    (record : NeRelocation) (after : SizedBytes × Nat) :
    neRelocationTarget importer (module.patched index after) context record =
      neRelocationTarget importer module context record := by
  have hsegment : ∀ n offset : Nat, ((module.patched index after).segmentAt n >>= fun segment =>
      pure ((.ok (segment.selector, offset) : Except Nat (Nat × Nat)), context)) =
      (module.segmentAt n >>= fun segment => pure (.ok (segment.selector, offset), context)) := by
    intro n offset
    unfold segmentAt patched
    dsimp only
    by_cases hn : n = index
    · rw [hn, update_self]
      split
      · rfl
      · rfl
    · rw [update_of_ne hn]
  have hlookup : neEntryLookup (module.patched index after) = neEntryLookup module := rfl
  have hcount : (module.patched index after).segmentCount = module.segmentCount := rfl
  unfold neRelocationTarget
  cases importer with
  | none => simp only [hsegment, hlookup, hcount]
  | some resolve => simp only [hsegment, hlookup, hcount, hbytes resolve rfl]

/-- The module after `edits` of the segment, of which `count` more sites are known. -/
def NeModule.edited (module : NeModule) (index : Nat) (edits : List (Edit Nat UInt8))
    (count : Nat) : NeModule :=
  module.patched index (⟨run edits (module.segments index).memory,
    (module.segments index).length⟩, module.sites + count)

theorem neApplyRecords_eq (hbytes : IgnoresBytes importer module)
    (hindex : index < module.segmentCount) {rounds : Nat} {plan : List Relocated} :
    ∀ {done position context last count}, HasRecords importer module index position context plan
        last → (done ++ plan.flatMap Relocated.edits).Pairwise Edit.Apart →
      (∀ relocated ∈ plan, relocated.sites.length < rounds) →
      neApplyRecords importer rounds index plan.length position
          (module.edited index done count, context) =
        some (.done (module.edited index (done ++ plan.flatMap Relocated.edits)
          (count + (plan.map fun relocated => relocated.sites.length).sum), last)) := by
  induction plan with
  | nil =>
    rintro done position context last count ⟨⟩ - -
    rw [flatMap_nil, append_nil]
    rfl
  | cons relocated plan ih =>
    rintro done position context last count ⟨hrecord, hkind, hsites, after, htarget, hrest⟩
      hapart hrounds
    rw [forall_mem_cons] at hrounds
    rw [flatMap_cons, ← append_assoc] at hapart ⊢
    obtain ⟨-, hown, hseparate⟩ :=
      pairwise_append.mp (pairwise_append.mp hapart).1
    have hlinks : relocated.record.HasSites (module.segments index).length
        (run done (module.segments index).memory) relocated.record.site relocated.sites := by
      refine hsites.congr fun site hsite => ?_
      have hwidth := relocated.record.two_le_width
      have hout := fun edit hedit => hseparate edit hedit _ (mem_map_of_mem hsite)
      apply readWord_congr
      · exact run_keeps fun edit hedit h => hout edit hedit _ h ⟨le_rfl, by lia⟩
      · exact run_keeps fun edit hedit h => hout edit hedit _ h ⟨by lia, by lia⟩
    have himage : (module.edited index done count).image = module.image := rfl
    have hbefore : ((module.edited index done count).segments index).bytes =
        ⟨run done (module.segments index).memory, (module.segments index).length⟩ := by
      simp only [NeModule.edited, patched, NeSegment.bytes, update_self]
    have hafter (count more) : (module.edited index done count).patched index
        (⟨run (relocated.sites.map (relocated.record.fixupEdit relocated.target))
            (run done (module.segments index).memory), (module.segments index).length⟩,
          module.sites + count + more) =
        module.edited index (done ++ relocated.edits) (count + more) := by
      simp only [NeModule.edited, patched, update_self, update_idem,
        run_append, Nat.add_assoc]
      rfl
    have hresolved : neRelocationTarget importer (module.edited index done count) context
        relocated.record = some (.ok relocated.target, after) :=
      (neRelocationTarget_patched hbytes _ _ _).trans htarget
    have hsegment := @segmentAt_eq (module.edited index done count) index hindex
    have hcount : (module.edited index done count).sites = module.sites + count := rfl
    rw [length_cons, neApplyRecords, himage, hrecord, bind_eq_bind, bind_some, hresolved,
      bind_eq_bind, bind_some]
    dsimp only
    rw [hsegment, bind_eq_bind, bind_some, hbefore, hcount,
      neWalkChain_eq hkind hlinks hown hrounds.1, bind_eq_bind, bind_some]
    dsimp only
    rw [hafter, ih hrest hapart hrounds.2, map_cons, sum_cons, Nat.add_assoc]

/-- The place of the relocations in the file. -/
abbrev NeSegment.relocations (segment : NeSegment) : Nat :=
  dword (segment.fileOffset + segment.length)

/-- The relocations are all in the file, their sites apart from each other. -/
structure IsRelocatable (importer : Option (NeImport σ)) (module : NeModule) (index : Nat)
    (context : σ) (plan : List Relocated) (last : σ) : Prop where
  index_lt : index < module.segmentCount
  marked : (module.segments index).flags &&& neSegRelocs ≠ 0
  present : (module.segments index).sector ≠ 0
  counted : neInBounds module.image (module.segments index).relocations 2 = true
  count : module.image.readWord (module.segments index).relocations = some plan.length
  inside : neInBounds module.image (dword ((module.segments index).relocations + 2))
    (dword (plan.length * neRelocSize)) = true
  records : HasRecords importer module index (dword ((module.segments index).relocations + 2))
    context plan last
  apart : (plan.flatMap Relocated.edits).Pairwise Edit.Apart

/-- The relocations end, with each site of each record fixed up over what the file has there,
every other byte as it was, and every site counted. -/
theorem relocation_patches_every_site (hbytes : IgnoresBytes importer module) {context last : σ}
    {plan : List Relocated} (h : IsRelocatable importer module index context plan last)
    {rounds : Nat} (hrounds : ∀ relocated ∈ plan, relocated.sites.length < rounds) :
    ∃ memory, neApplyRelocations importer rounds module index context = some (.done
        (module.patched index (⟨memory, (module.segments index).length⟩,
          module.sites + (plan.map fun relocated => relocated.sites.length).sum), last)) ∧
      (∀ relocated ∈ plan, ∀ site ∈ relocated.sites,
        ∀ address ∈ Set.Ico site (site + relocated.record.width),
          memory address = relocated.record.fixup relocated.target site
            (module.segments index).memory address) ∧
      ∀ address, (∀ relocated ∈ plan, ∀ site ∈ relocated.sites,
          address ∉ Set.Ico site (site + relocated.record.width)) →
        memory address = (module.segments index).memory address := by
  have hedit (relocated) (hrelocated : relocated ∈ plan) (site) (hsite : site ∈ relocated.sites) :
      relocated.record.fixupEdit relocated.target site ∈ plan.flatMap Relocated.edits :=
    mem_flatMap_of_mem hrelocated (mem_map_of_mem hsite)
  refine ⟨run (plan.flatMap Relocated.edits) (module.segments index).memory, ?_,
    fun relocated hrelocated site hsite address haddress =>
      run_edits h.apart (hedit relocated hrelocated site hsite) haddress,
    fun address haddress => run_keeps fun edit hmem => ?_⟩
  · have hstart : module = module.edited index [] 0 := by
      unfold NeModule.edited patched run
      rw [foldl_nil, update_eq_self]
      rfl
    have hrun := @neApplyRecords_eq _ _ _ _ hbytes h.index_lt rounds plan [] _ context last 0
      h.records h.apart hrounds
    rw [← hstart, nil_append, Nat.zero_add] at hrun
    unfold neApplyRelocations
    rw [segmentAt_eq h.index_lt, bind_eq_bind, bind_some, if_neg (not_or.mpr ⟨h.marked, h.present⟩)]
    dsimp only
    rw [h.counted, if_neg Bool.true_eq_false_eq_False, h.count, bind_eq_bind, bind_some, h.inside,
      if_neg Bool.true_eq_false_eq_False]
    exact hrun
  · obtain ⟨relocated, hrelocated, hedit⟩ := mem_flatMap.mp hmem
    obtain ⟨site, hsite, rfl⟩ := mem_map.mp hedit
    exact haddress relocated hrelocated site hsite

end

/-- A segment of two words, the first linked to the second, and an internal record of an
offset for them. -/
def chainModule : NeModule :=
  { libraryModule with
    image := ⟨fun index => [0, 0, 0, 0, 1, 0, 5, 0, 0, 0, 1, 0, 0x34, 0x12].getD index 0, 14⟩
    segments := fun _ =>
      { emptySegment with
        sector := 1
        flags := neSegRelocs
        length := 4
        memory := fun index => [2, 0, 0xFF, 0xFF].getD index 0 } }

theorem chainModule_isRelocatable : IsRelocatable (some neRegistryResolve) chainModule 0
    (emptyRegistry libraryModule) [⟨⟨5, 0, 0, 1, 0x1234⟩, (0, 0x1234), [0, 2]⟩]
    (emptyRegistry libraryModule) where
  index_lt := by decide
  marked := by decide
  present := by decide
  counted := by decide
  count := by decide
  inside := by decide
  records := ⟨rfl, mem_cons_of_mem _ mem_cons_self,
    ⟨rfl, by decide, rfl, by decide, rfl⟩, _, rfl, rfl⟩
  apart := pairwise_pair.mpr fun address hfirst hsecond =>
    absurd (hsecond.1.trans_lt hfirst.2) (by decide)

theorem relocation_patches_every_site_chain : ∃ memory,
    neApplyRelocations (some neRegistryResolve) 3 chainModule 0 (emptyRegistry libraryModule) =
      some (.done (chainModule.patched 0 (⟨memory, 4⟩, 2), emptyRegistry libraryModule)) ∧
      memory 0 = 0x34 ∧ memory 3 = 0x12 := by
  obtain ⟨memory, hdone, hsites, -⟩ := relocation_patches_every_site
    (neRegistryResolve_ignoresBytes chainModule) chainModule_isRelocatable
    (show ∀ relocated : Relocated, relocated ∈ _ → relocated.sites.length < 3 by decide)
  exact ⟨memory, hdone, hsites _ mem_cons_self 0 (by decide) 0 (by decide),
    hsites _ mem_cons_self 2 (by decide) 3 (by decide)⟩

end Ntvdmex.Wow.Ne
