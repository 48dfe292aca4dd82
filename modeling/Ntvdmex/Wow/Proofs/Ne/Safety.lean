import Ntvdmex.Wow.Proofs.Ne.Lookups

/-!
# Relocations, imports and the safety of the loader

A chain follows links held in bytes that were already patched, so nothing is assumed of the
links: each site is compared with the length of the segment before it is read.  A chain may
go on for ever, and what is proved holds of every number of rounds of it.
-/

namespace Ntvdmex.Wow.Ne

open Foundation SizedBytes Option Or

variable {σ : Type}

theorem nePatchSite_isSome {bytes : SizedBytes} (record : NeRelocation)
    (selector offset next : Nat) {site : Nat} (hsite : site + 2 ≤ bytes.size) :
    (nePatchSite bytes record selector offset site next).isSome := by
  unfold nePatchSite
  dsimp only
  split
  · rw [writeWord_eq (by lia)]
    rfl
  split
  · rw [writeWord_eq (by lia)]
    rfl
  split
  · split
    · rfl
    · rw [writeWord_eq (by lia), bind_eq_bind, bind_some, writeWord_eq (by lia)]
      rfl
  split
  · refine bind_isSome (read_isSome_iff.mpr (by lia)) fun before _ => ?_
    rw [write_eq (by lia)]
    rfl
  · rfl

theorem neWalkChain_isSome (record : NeRelocation) (selector offset : Nat) :
    ∀ rounds site patched, (neWalkChain record selector offset rounds site patched).isSome := by
  intro rounds
  induction rounds with
  | zero =>
    intro site patched
    rfl
  | succ rounds ih =>
    intro site patched
    obtain ⟨bytes, sites⟩ := patched
    unfold neWalkChain
    split
    · rfl
    · rename_i hsite
      refine bind_isSome (readWord_isSome (by omega)) fun next _ => ?_
      refine bind_isSome (nePatchSite_isSome record selector offset next (by omega))
        fun patched _ => ?_
      cases patched with
      | error line => rfl
      | ok after =>
        dsimp only
        split
        · rfl
        · exact ih _ _

/-- An importer that ends without a fault for a module of `image`, from every context that is
sound, and leaves a sound one. -/
def ImportsSafely (image : SizedBytes) (sound : σ → Prop) (resolve : NeImport σ) : Prop :=
  ∀ context module reference ordinalOrName isByName, module.image = image → sound context →
    ∃ target after, resolve context module reference ordinalOrName isByName =
      some (target, after) ∧ sound after

theorem segmentAt_eq {module : NeModule} {index : Nat} (hindex : index < module.segmentCount) :
    module.segmentAt index = some (module.segments index) :=
  if_pos hindex

variable {importer : Option (NeImport σ)} {image : SizedBytes} {sound : σ → Prop}

theorem neRelocationTarget_sound {module : NeModule} (himage : module.image.size < 2147483648)
    (himporter : ∀ resolve, importer = some resolve → ImportsSafely module.image sound resolve)
    {context : σ} (hcontext : sound context) (record : NeRelocation) :
    ∃ target after, neRelocationTarget importer module context record = some (target, after) ∧
      sound after := by
  unfold neRelocationTarget
  dsimp only
  split
  · split
    · obtain ⟨found, hfound⟩ := isSome_iff_exists.mp
        (neEntryLookup_isSome himage record.fieldB)
      rw [hfound, bind_eq_bind, bind_some]
      cases found with
      | none => exact ⟨_, _, rfl, hcontext⟩
      | some entry =>
        dsimp only
        split
        · exact ⟨_, _, rfl, hcontext⟩
        · rename_i hnumber
          rw [segmentAt_eq (by lia)]
          exact ⟨_, _, rfl, hcontext⟩
    · split
      · exact ⟨_, _, rfl, hcontext⟩
      · rename_i hnumber
        rw [segmentAt_eq (by lia)]
        exact ⟨_, _, rfl, hcontext⟩
  · split
    · cases importer with
      | none => exact ⟨_, _, rfl, hcontext⟩
      | some resolve =>
        obtain ⟨target, after, hresolve, hafter⟩ := himporter resolve rfl context module
          record.fieldA record.fieldB (decide (record.relocationType.toNat % 4 = neRelImportName))
          rfl hcontext
        dsimp only
        rw [hresolve, bind_eq_bind, bind_some]
        cases target with
        | none => exact ⟨_, _, rfl, hafter⟩
        | some target => exact ⟨_, _, rfl, hafter⟩
    · exact ⟨_, _, rfl, hcontext⟩

theorem neReadRelocation_isSome {record : Nat} (hrecord : record + 8 ≤ image.size) :
    (neReadRelocation image record).isSome := by
  refine bind_isSome (read_isSome_iff.mpr (by lia)) fun addressType _ => ?_
  refine bind_isSome (read_isSome_iff.mpr (by lia)) fun relocationType _ => ?_
  refine bind_isSome (readWord_isSome (by lia)) fun site _ => ?_
  refine bind_isSome (readWord_isSome (by lia)) fun fieldA _ => ?_
  exact bind_isSome (readWord_isSome (by lia)) fun fieldB _ => rfl

theorem neApplyRecords_isSome (himage : image.size < 2147483648)
    (himporter : ∀ resolve, importer = some resolve → ImportsSafely image sound resolve)
    (rounds index : Nat) :
    ∀ remaining position module context, module.image = image → index < module.segmentCount →
      sound context → position + remaining * 8 ≤ image.size →
      (neApplyRecords importer rounds index remaining position (module, context)).isSome := by
  intro remaining
  induction remaining with
  | zero =>
    intro position module context _ _ _ _
    rfl
  | succ remaining ih =>
    intro position module context hmodule hindex hcontext hposition
    subst hmodule
    refine bind_isSome (neReadRelocation_isSome (by lia)) fun record _ => ?_
    obtain ⟨target, after, htarget, hafter⟩ :=
      neRelocationTarget_sound himage himporter hcontext record
    rw [htarget, bind_eq_bind, bind_some]
    cases target with
    | error line => rfl
    | ok target =>
      dsimp only
      rw [segmentAt_eq hindex, bind_eq_bind, bind_some]
      refine bind_isSome (neWalkChain_isSome record target.1 target.2 rounds record.site _)
        fun chain _ => ?_
      cases chain with
      | done patched =>
        have height : neRelocSize = 8 := rfl
        exact ih _ _ _ rfl hindex hafter (by lia)
      | failed line patched => rfl
      | running patched => rfl

theorem neApplyRelocations_isSome {module : NeModule} (himage : module.image.size < 2147483648)
    (himporter : ∀ resolve, importer = some resolve → ImportsSafely module.image sound resolve)
    (rounds : Nat) {index : Nat} (hindex : index < module.segmentCount) {context : σ}
    (hcontext : sound context) :
    (neApplyRelocations importer rounds module index context).isSome := by
  unfold neApplyRelocations
  rw [segmentAt_eq hindex, bind_eq_bind, bind_some]
  dsimp only
  split
  · rfl
  split
  · rfl
  · rename_i hposition
    have hcount := neInBounds_false hposition
    rw [readWord_eq (by lia), bind_eq_bind, bind_some]
    have hword := module.image.data.readWord_lt
      (dword ((module.segments index).fileOffset + (module.segments index).length))
    have height : neRelocSize = 8 := rfl
    split
    · rfl
    · rename_i hrecords
      have hinside := neInBounds_false hrecords
      rw [height, dword_of_lt (show _ * 8 < 4294967296 by lia)] at hinside
      exact neApplyRecords_isSome himage himporter rounds index _ _ _ _ rfl hindex hcontext
        hinside

/-! ## The registry -/

/-- Every module of the registry is over an image shorter than `2 ^ 31`. -/
def NeRegistry.IsLoaded (registry : NeRegistry) : Prop :=
  ∀ index < registry.count, (registry.modules index).image.size < 2147483648

theorem neRegistryFind_image {registry : NeRegistry} (hloaded : registry.IsLoaded)
    {name : List UInt8} {target : NeModule} (h : neRegistryFind registry name = some target) :
    target.image.size < 2147483648 := by
  obtain ⟨index, hindex, htarget⟩ := map_eq_some_iff.mp h
  have hmem := List.mem_of_find?_eq_some hindex
  rw [List.mem_range] at hmem
  rw [← htarget]
  exact hloaded index hmem

theorem neResolveExport_isSome {target : NeModule} (himage : target.image.size < 2147483648)
    (ordinal : Nat) : (neResolveExport target ordinal).isSome := by
  refine bind_isSome (neExportByOrdinal_isSome himage ordinal) fun found _ => ?_
  cases found with
  | none => rfl
  | some entry =>
    dsimp only
    split
    · rfl
    split
    · rfl
    · rename_i hzero hcount
      rw [segmentAt_eq (by omega), bind_eq_bind, bind_some]
      split
      · rfl
      · rfl

section

variable {registry : NeRegistry} (hloaded : registry.IsLoaded) {module target : NeModule}
    (himage : module.image.size < 2147483648) (htarget : target.image.size < 2147483648)

include hloaded himage htarget

theorem neResolveName_loaded (nameOffset : Nat) :
    ∃ ordinal after, neResolveName registry module target nameOffset = some (ordinal, after) ∧
      after.IsLoaded := by
  unfold neResolveName
  obtain ⟨isName, functionName, hname, -⟩ :=
    neImportedName_writesName himage nameOffset nameBuffer
  rw [hname, bind_eq_bind, bind_some]
  dsimp only
  split
  · exact ⟨none, registry, rfl, hloaded⟩
  · obtain ⟨ordinal, hordinal⟩ := isSome_iff_exists.mp
      (neExportByName_isSome htarget (cString functionName))
    rw [hordinal]
    exact ⟨ordinal, _, rfl, hloaded⟩

theorem neResolveOrdinal_loaded (ordinalOrName : Nat) (isByName : Bool) :
    ∃ ordinal after, neResolveOrdinal registry module target ordinalOrName isByName =
      some (ordinal, after) ∧ after.IsLoaded := by
  cases isByName with
  | false => exact ⟨some ordinalOrName, registry, rfl, hloaded⟩
  | true => exact neResolveName_loaded hloaded himage htarget ordinalOrName

end

theorem neRegistryResolve_importsSafely (himage : image.size < 2147483648) :
    ImportsSafely image NeRegistry.IsLoaded neRegistryResolve := by
  intro registry module reference ordinalOrName isByName hmodule hloaded
  subst hmodule
  unfold neRegistryResolve
  obtain ⟨isName, moduleName, hname, -⟩ := neRefName_writesName himage reference nameBuffer
  rw [hname, bind_eq_bind, bind_some]
  dsimp only
  split
  · exact ⟨none, _, rfl, hloaded⟩
  cases hfind : neRegistryFind _ (cString moduleName) with
  | none => exact ⟨none, _, rfl, hloaded⟩
  | some target =>
    have htarget := neRegistryFind_image (by exact hloaded) hfind
    dsimp only
    have hnamed : NeRegistry.IsLoaded
        { registry with failedModule := cString moduleName, failedFunction := []
                        failedOrdinal := 0 } := hloaded
    obtain ⟨ordinal, after, hordinal, hafter⟩ :=
      neResolveOrdinal_loaded hnamed himage htarget ordinalOrName isByName
    rw [hordinal, bind_eq_bind, bind_some]
    cases ordinal with
    | none => exact ⟨none, after, rfl, hafter⟩
    | some ordinal =>
      obtain ⟨resolved, hresolved⟩ := isSome_iff_exists.mp
        (neResolveExport_isSome htarget ordinal)
      dsimp only
      rw [hresolved]
      exact ⟨resolved, _, rfl, hafter⟩

/-!
## The loader is safe on every file whose alignment shift fits

The parse checks every offset and count of the header before it uses it, except the
alignment shift, which it applies to a 32-bit value as the file has it.  A file whose segment
table is reached with a shift of 32 or more makes it shift too far; on every other file the
parse, the lookups, the relocations and the imports stay inside the image and the segments.
-/

def NeModule.loaded (module : NeModule) (selector : Nat → Nat) (memory : Nat → ByteMemory)
    (sites : Nat) : NeModule :=
  { module with
    segments := fun index =>
      { module.segments index with selector := selector index, memory := memory index }
    sites }

/-- Each operation on the module ends without a fault, and the names it writes end inside
their buffers. -/
structure NeModule.IsSafe (module : NeModule) : Prop where
  entryLookup : ∀ ordinal, (neEntryLookup module ordinal).isSome
  exportByOrdinal : ∀ ordinal, (neExportByOrdinal module ordinal).isSome
  ownName : WritesName (neOwnName module)
  refName : ∀ reference, WritesName (neRefName module reference)
  importedName : ∀ nameOffset, WritesName (neImportedName module nameOffset)
  exportByName : ∀ name, (neExportByName module name).isSome
  registryResolve : ∀ registry : NeRegistry, registry.IsLoaded →
    ∀ reference ordinalOrName isByName,
      (neRegistryResolve registry module reference ordinalOrName isByName).isSome
  applyRelocations : ∀ {σ : Type} (importer : Option (NeImport σ)) (sound : σ → Prop),
    (∀ resolve, importer = some resolve → ImportsSafely module.image sound resolve) →
    ∀ rounds index context, index < module.segmentCount → sound context →
      (neApplyRelocations importer rounds module index context).isSome

theorem isSafe_of_size {module : NeModule} (himage : module.image.size < 2147483648) :
    module.IsSafe where
  entryLookup := neEntryLookup_isSome himage
  exportByOrdinal := neExportByOrdinal_isSome himage
  ownName := neOwnName_writesName himage
  refName := neRefName_writesName himage
  importedName := neImportedName_writesName himage
  exportByName := neExportByName_isSome himage
  registryResolve := by
    intro registry hloaded reference ordinalOrName isByName
    obtain ⟨target, after, hresolve, -⟩ := neRegistryResolve_importsSafely himage registry module
      reference ordinalOrName isByName rfl hloaded
    rw [hresolve]
    rfl
  applyRelocations := fun _ _ himporter rounds _ _ hindex hcontext =>
    neApplyRelocations_isSome himage himporter rounds hindex hcontext

/-! ## The parse -/

variable {shift : Nat}

theorem shiftLeft32_isSome_iff {value : Nat} : (shiftLeft32 value shift).isSome ↔ shift < 32 := by
  unfold shiftLeft32
  by_cases hshift : shift < 32
  · simp [hshift]
  · simp [hshift]

theorem neParseSegment_isSome_iff {entry : Nat} (hentry : entry + 8 ≤ image.size) :
    (neParseSegment image shift entry).isSome ↔ shift < 32 := by
  unfold neParseSegment
  rw [SizedBytes.readWord_eq (by lia), SizedBytes.readWord_eq (by lia),
    SizedBytes.readWord_eq (by lia), SizedBytes.readWord_eq (by lia)]
  simp only [bind_eq_bind, bind_some]
  by_cases hshift : shift < 32
  · obtain ⟨fileOffset, hoffset⟩ := isSome_iff_exists.mp
      (shiftLeft32_isSome_iff.mpr hshift : (shiftLeft32 (image.data.readWord entry) shift).isSome)
    rw [hoffset, bind_some]
    refine iff_of_true ?_ hshift
    split
    · split
      · rfl
      · rfl
    · split
      · rfl
      · rfl
  · have hnone : shiftLeft32 (image.data.readWord entry) shift = none := if_neg hshift
    rw [hnone]
    exact iff_of_false Bool.false_ne_true hshift

/-- The table is parsed unless its first entry shifts too far. -/
theorem neParseSegments_isSome_iff {table : Nat} :
    ∀ remaining index segments, table + (index + remaining) * 8 ≤ image.size →
      ((neParseSegments image shift table remaining index segments).isSome ↔
        (remaining = 0 ∨ shift < 32)) := by
  intro remaining
  induction remaining with
  | zero =>
    intro index segments _
    exact iff_of_true rfl (inl rfl)
  | succ remaining ih =>
    intro index segments htable
    have height : neSegentSize = 8 := rfl
    have hentry : table + index * neSegentSize + 8 ≤ image.size := by
      rw [height]
      lia
    unfold neParseSegments
    by_cases hshift : shift < 32
    · refine iff_of_true ?_ (inr hshift)
      refine bind_isSome ((neParseSegment_isSome_iff hentry).mpr hshift) fun parsed _ => ?_
      cases parsed with
      | error line => rfl
      | ok segment => exact (ih _ _ (by lia)).mpr (inr hshift)
    · have hnone : neParseSegment image shift (table + index * neSegentSize) = none := by
        rw [← not_isSome_iff_eq_none, neParseSegment_isSome_iff hentry]
        exact hshift
      rw [hnone]
      exact iff_of_false Bool.false_ne_true (by lia)

theorem neReadHeader_eq {header : Nat} (hheader : header + 64 ≤ image.size) :
    ∃ fields, neReadHeader image header = some fields ∧ fields.image = image ∧
      fields.header = header ∧
      fields.segmentCount = image.data.readWord (header + 0x1C) ∧
      fields.segmentTable = image.data.readWord (header + 0x22) ∧
      fields.alignShift = image.data.readWord (header + 0x32) := by
  unfold neReadHeader
  simp (disch := lia) only [SizedBytes.readWord_eq, SizedBytes.readDword_eq, SizedBytes.read_eq,
    bind_eq_bind, bind_some]
  exact ⟨_, rfl, rfl, rfl, rfl, rfl, rfl⟩

theorem alignShiftInForce_lt_iff {alignShift : Nat} :
    alignShiftInForce alignShift < 32 ↔ alignShift < 32 := by
  unfold alignShiftInForce
  have hnine : neDefaultAlignShift = 9 := rfl
  split
  · omega
  · rfl

def NeModule.ShiftsTooFar (fields : NeModule) : Prop :=
  0 < fields.segmentCount ∧ fields.segmentCount ≤ neMaxSeg ∧
    fields.header + fields.segmentTable + fields.segmentCount * neSegentSize ≤ fields.image.size ∧
    32 ≤ fields.alignShift

theorem neParseTables_isSome_iff (himage : image.size < 2147483648) {fields : NeModule}
    (hfields : fields.image = image) (hsum : fields.header + fields.segmentTable < 4294967296) :
    (neParseTables image fields).isSome ↔ ¬fields.ShiftsTooFar := by
  subst hfields
  unfold neParseTables NeModule.ShiftsTooFar
  by_cases hcount : fields.segmentCount > neMaxSeg
  · rw [if_pos hcount]
    exact iff_of_true rfl fun h => by lia
  rw [if_neg hcount, dword_of_lt hsum]
  by_cases htable : neInBounds fields.image (fields.header + fields.segmentTable)
      (fields.segmentCount * neSegentSize) = false
  · rw [if_pos htable]
    refine iff_of_true rfl fun h => ?_
    rw [neInBounds_iff.mpr h.2.2.1] at htable
    cases htable
  rw [if_neg htable]
  have hinside := neInBounds_false htable
  have height : neSegentSize = 8 := rfl
  rw [height] at hinside
  have hsegments : (neParseSegments fields.image (alignShiftInForce fields.alignShift)
      (fields.header + fields.segmentTable) fields.segmentCount 0 fields.segments).isSome ↔
      (fields.segmentCount = 0 ∨ alignShiftInForce fields.alignShift < 32) :=
    neParseSegments_isSome_iff _ _ _ (by lia)
  by_cases hparsed : fields.segmentCount = 0 ∨ alignShiftInForce fields.alignShift < 32
  · refine iff_of_true ?_ ?_
    · refine bind_isSome (hsegments.mpr hparsed) fun parsed _ => ?_
      cases parsed with
      | error line => rfl
      | ok segments => rfl
    · rw [alignShiftInForce_lt_iff] at hparsed
      lia
  · have hnone := not_isSome_iff_eq_none.mp (mt hsegments.mp hparsed)
    rw [hnone]
    rw [alignShiftInForce_lt_iff] at hparsed
    exact iff_of_false Bool.false_ne_true fun h =>
      h ⟨by lia, by lia, by rw [height]; lia, by lia⟩

theorem neParseTables_image {fields module : NeModule}
    (h : neParseTables image fields = some (.ok module)) : module.image = fields.image := by
  unfold neParseTables at h
  dsimp only at h
  split at h
  · cases h
  split at h
  · cases h
  · obtain ⟨parsed, -, hparsed⟩ := bind_eq_some_iff.mp h
    cases parsed with
    | error line => cases hparsed
    | ok segments =>
      cases hparsed
      rfl

/-- The place of the second header, by the `LONG` of the first. -/
def neHeaderOf (image : SizedBytes) : Nat :=
  image.data.readWord neMzLfanew + 65536 * image.data.readWord (neMzLfanew + 2)

/-- The parse of the file comes to the checks of its segment table. -/
def HasHeader (image : SizedBytes) : Prop :=
  neMzHeaderSize ≤ image.size ∧ image.data 0 = 0x4D ∧ image.data 1 = 0x5A ∧
    neHeaderOf image + neHeaderSize ≤ image.size ∧ image.data (neHeaderOf image) = 0x4E ∧
    image.data (neHeaderOf image + 1) = 0x45

/-- The file has segments to parse, in bounds, and an alignment shift of 32 or more. -/
def ShiftsTooFar (image : SizedBytes) : Prop :=
  HasHeader image ∧
    0 < image.data.readWord (neHeaderOf image + 0x1C) ∧
    image.data.readWord (neHeaderOf image + 0x1C) ≤ neMaxSeg ∧
    neHeaderOf image + image.data.readWord (neHeaderOf image + 0x22) +
      image.data.readWord (neHeaderOf image + 0x1C) * neSegentSize ≤ image.size ∧
    32 ≤ image.data.readWord (neHeaderOf image + 0x32)

theorem neParse_cases (image : SizedBytes) :
    (¬HasHeader image ∧ ∃ line, neParse image = some (.error line)) ∨
      (HasHeader image ∧ ∃ fields, neParse image = neParseTables image fields ∧
        fields.image = image ∧ fields.header = neHeaderOf image ∧
        fields.segmentCount = image.data.readWord (neHeaderOf image + 0x1C) ∧
        fields.segmentTable = image.data.readWord (neHeaderOf image + 0x22) ∧
        fields.alignShift = image.data.readWord (neHeaderOf image + 0x32)) := by
  have hsize : neMzHeaderSize = 64 := rfl
  have hheaderSize : neHeaderSize = 64 := rfl
  have hlfanew : neMzLfanew = 60 := rfl
  unfold neParse
  by_cases hshort : image.size < neMzHeaderSize
  · rw [if_pos hshort]
    exact inl ⟨fun h => by have := h.1; lia, 51, rfl⟩
  rw [if_neg hshort, SizedBytes.read_eq (by lia), SizedBytes.read_eq (by lia),
    bind_eq_bind, bind_some, bind_eq_bind, bind_some]
  by_cases hmz : image.data 0 ≠ 0x4D ∨ image.data 1 ≠ 0x5A
  · rw [if_pos hmz]
    refine inl ⟨fun h => ?_, 51, rfl⟩
    exact hmz.elim (fun hfirst => hfirst h.2.1) fun hsecond => hsecond h.2.2.1
  rw [if_neg hmz, SizedBytes.readDword_eq (by lia), bind_eq_bind, bind_some]
  rw [not_or, not_not, not_not] at hmz
  by_cases hheader : neInBounds image (neHeaderOf image) neHeaderSize = false
  · refine inl ⟨fun h => ?_, 59, if_pos hheader⟩
    rw [neInBounds_iff.mpr h.2.2.2.1] at hheader
    cases hheader
  have hinside := neInBounds_false hheader
  have hplace : image.data.readWord neMzLfanew + 65536 * image.data.readWord (neMzLfanew + 2) =
    neHeaderOf image := rfl
  rw [hplace, if_neg hheader, SizedBytes.read_eq (by lia), SizedBytes.read_eq (by lia),
    bind_some, bind_some]
  by_cases hne : image.data (neHeaderOf image) ≠ 0x4E ∨ image.data (neHeaderOf image + 1) ≠ 0x45
  · rw [if_pos hne]
    refine inl ⟨fun h => ?_, 65, rfl⟩
    exact hne.elim (fun hthird => hthird h.2.2.2.2.1) fun hfourth => hfourth h.2.2.2.2.2
  rw [if_neg hne]
  rw [not_or, not_not, not_not] at hne
  obtain ⟨fields, hfields, hrest⟩ := neReadHeader_eq (show neHeaderOf image + 64 ≤ image.size
    by lia)
  rw [hfields]
  exact inr ⟨⟨by lia, hmz.1, hmz.2, hinside, hne.1, hne.2⟩, fields, rfl, hrest⟩

theorem neParse_isSome_iff (himage : image.size < 2147483648) :
    (neParse image).isSome ↔ ¬ShiftsTooFar image := by
  rcases neParse_cases image with ⟨hheader, line, hparse⟩ |
    ⟨hheader, fields, hparse, hfields, hplace, hcount, htable, hshift⟩
  · rw [hparse]
    exact iff_of_true rfl fun h => hheader h.1
  · have hword := image.data.readWord_lt (neHeaderOf image + 0x22)
    have hinside := hheader.2.2.2.1
    rw [hparse, neParseTables_isSome_iff himage hfields (by lia)]
    unfold NeModule.ShiftsTooFar ShiftsTooFar
    rw [hfields, hplace, hcount, htable, hshift]
    exact not_congr ⟨fun h => ⟨hheader, h⟩, fun h => h.2⟩

theorem neParse_image {module : NeModule} (h : neParse image = some (.ok module)) :
    module.image = image := by
  rcases neParse_cases image with ⟨-, line, hparse⟩ | ⟨-, fields, hparse, hfields, -⟩
  · rw [hparse] at h
    cases h
  · rw [hparse] at h
    rw [neParseTables_image h, hfields]

def NeSafe (image : SizedBytes) : Prop :=
  ∃ result, neParse image = some result ∧
    ∀ module, result = .ok module →
      ∀ selector memory sites, (module.loaded selector memory sites).IsSafe

theorem neSafe_iff {image : SizedBytes} (himage : image.size < 2147483648) :
    NeSafe image ↔ ¬ShiftsTooFar image := by
  rw [← neParse_isSome_iff himage]
  constructor
  · rintro ⟨result, hresult, -⟩
    rw [hresult]
    rfl
  · intro hparse
    obtain ⟨result, hresult⟩ := Option.isSome_iff_exists.mp hparse
    refine ⟨result, hresult, fun module hmodule selector memory sites => isSafe_of_size ?_⟩
    subst hmodule
    have hsame : module.image = image := neParse_image hresult
    have hloaded : (module.loaded selector memory sites).image = module.image := rfl
    rw [hloaded, hsame]
    exact himage

/-- A file of one empty segment, with an alignment shift. -/
def imageOfShift (shift : UInt8) : SizedBytes where
  data := fun index =>
    if index = 0x00 then 0x4D
    else if index = 0x01 then 0x5A
    else if index = 0x3C then 0x40
    else if index = 0x40 then 0x4E
    else if index = 0x41 then 0x45
    else if index = 0x5C then 1
    else if index = 0x62 then 0x40
    else if index = 0x72 then shift
    else 0
  size := 0x88

theorem imageOfShift_safe : (imageOfShift 4).size < 2147483648 ∧ NeSafe (imageOfShift 4) :=
  ⟨by decide, (neSafe_iff (by decide)).mpr fun h => absurd h.2.2.2.2 (by decide)⟩

theorem shift_of_32_not_safe : ¬∀ image : SizedBytes, image.size < 2147483648 → NeSafe image := by
  intro h
  obtain ⟨result, hresult, -⟩ := h (imageOfShift 32) (by decide)
  have hfault : (neParse (imageOfShift 32)).isNone = true := by decide
  rw [hresult] at hfault
  cases hfault

end Ntvdmex.Wow.Ne
