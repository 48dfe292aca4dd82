import Ntvdmex.Wow.Proofs.Ne.EntryTable
import Ntvdmex.Wow.Proofs.Ne.NameTables

/-!
# Imports between modules

A registry of modules, each under its own name, and what an import resolves to: the module
named, the export it asks for by ordinal or by name, and the address of that export.
-/

namespace Ntvdmex.Wow.Ne

open Foundation Option Function

/-! ## The registry -/

/-- Every module stands under the name it gives itself. -/
structure IsRegistry (registry : NeRegistry) : Prop where
  count_le : registry.count ≤ neMaxMod
  named : ∀ index < registry.count,
    ownName (registry.modules index) = some (registry.names index)

/-- The empty registry. -/
def emptyRegistry (module : NeModule) : NeRegistry := ⟨fun _ => module, fun _ => [], 0, [], [], 0⟩

theorem emptyRegistry_isRegistry (module : NeModule) : IsRegistry (emptyRegistry module) :=
  ⟨Nat.zero_le _, fun _ hindex => absurd hindex (Nat.not_lt_zero _)⟩

theorem neRegistryAdd_isRegistry {registry : NeRegistry} (h : IsRegistry registry)
    {module : NeModule} (himage : module.image.size + 3 < 4294967296) :
    ∃ added after, neRegistryAdd registry module = some (added, after) ∧ IsRegistry after := by
  obtain ⟨buffer, hown, hstring⟩ := neOwnName_eq himage
  unfold neRegistryAdd
  by_cases hfull : registry.count ≥ neMaxMod
  · rw [if_pos hfull]
    exact ⟨false, registry, rfl, h⟩
  rw [if_neg hfull, hown, bind_eq_bind, bind_some]
  dsimp only
  cases hname : ownName module with
  | none =>
    rw [if_pos (show (none : Option (List UInt8)).isSome = false from rfl)]
    refine ⟨false, _, rfl, h.count_le, fun index hindex => ?_⟩
    dsimp only at hindex ⊢
    rw [update_of_ne (Nat.ne_of_lt hindex)]
    exact h.named index hindex
  | some name =>
    rw [if_neg (show ¬(some name).isSome = false from Bool.true_eq_false_eq_False)]
    refine ⟨true, _, rfl, Nat.lt_of_not_le hfull, fun index hindex => ?_⟩
    dsimp only at hindex ⊢
    by_cases hlast : index = registry.count
    · rw [hlast, update_self, update_self, hname, hstring name hname]
    · rw [update_of_ne hlast, update_of_ne hlast]
      exact h.named index (by omega)

/-- The first module registered whose own name is `name`, without regard to case. -/
structure IsRegistered (registry : NeRegistry) (name : List UInt8) (index : Nat) : Prop where
  lt : index < registry.count
  named : ∃ own, ownName (registry.modules index) = some own ∧
    neEqualIgnoreCase own name = true
  first : ∀ earlier < index, ∀ own, ownName (registry.modules earlier) = some own →
    neEqualIgnoreCase own name = false

variable {registry : NeRegistry}

theorem IsRegistered.unique {name : List UInt8} {index other : Nat}
    (h : IsRegistered registry name index) (hother : IsRegistered registry name other) :
    index = other := by
  have hnot : ∀ {first second : Nat}, IsRegistered registry name first →
      IsRegistered registry name second → ¬first < second := by
    intro first second hfirst hsecond hlt
    obtain ⟨own, hown, hequal⟩ := hfirst.named
    exact Bool.false_ne_true ((hsecond.first first hlt own hown).symm.trans hequal)
  exact Nat.le_antisymm (Nat.le_of_not_lt (hnot hother h)) (Nat.le_of_not_lt (hnot h hother))

theorem IsRegistry.find (h : IsRegistry registry) (name : List UInt8) (target : NeModule) :
    neRegistryFind registry name = some target ↔
      ∃ index, IsRegistered registry name index ∧ registry.modules index = target := by
  unfold neRegistryFind
  rw [map_eq_some_iff]
  refine exists_congr fun index => and_congr_left fun _ => ?_
  rw [List.find?_range_eq_some]
  constructor
  · rintro ⟨hmatches, hindex, hfirst⟩
    have hlt := List.mem_range.mp hindex
    refine ⟨hlt, ⟨_, h.named index hlt, hmatches⟩, fun earlier hearlier own hown => ?_⟩
    rw [h.named earlier (hearlier.trans hlt)] at hown
    have hnot := hfirst earlier hearlier
    rw [← some.inj hown]
    simpa using hnot
  · rintro ⟨hlt, ⟨own, hown, hmatches⟩, hfirst⟩
    rw [h.named index hlt] at hown
    refine ⟨by rwa [some.inj hown], List.mem_range.mpr hlt, fun earlier hearlier => ?_⟩
    have hnot := hfirst earlier hearlier _ (h.named earlier (hearlier.trans hlt))
    simpa using hnot

/-! ## What an import names -/

/-- The address of an export: an absolute value in both halves, or a selector that is not 0 and
the offset there. -/
def IsAddress (target : NeModule) (entry : NeEntry) (selector offset : Nat) : Prop :=
  entry.segmentNumber = 0 ∧ selector = entry.offset ∧ offset = entry.offset ∨
    (1 ≤ entry.segmentNumber ∧ entry.segmentNumber ≤ target.segmentCount) ∧
      selector = (target.segments (entry.segmentNumber - 1)).selector ∧ selector ≠ 0 ∧
        offset = entry.offset

/-- The ordinal an import asks `target` for. -/
def AsksFor (module target : NeModule) (ordinalOrName : Nat) (isByName : Bool) (ordinal : Nat) :
    Prop :=
  if isByName then
    ∃ name, importedName module ordinalOrName = some name ∧
      namedOrdinal target name = some ordinal
  else ordinal = ordinalOrName

def ResolvesTo (registry : NeRegistry) (tables : Nat → List NeBundle) (module : NeModule)
    (reference ordinalOrName : Nat) (isByName : Bool) (selector offset : Nat) : Prop :=
  ∃ name index ordinal entry, refName module reference = some name ∧
    IsRegistered registry name index ∧
    AsksFor module (registry.modules index) ordinalOrName isByName ordinal ∧
    entryMap (tables index) ordinal = some entry ∧ entry.flags &&& neEntExported ≠ 0 ∧
    IsAddress (registry.modules index) entry selector offset

/-- A registry of modules whose entry tables are well formed. -/
structure HasTables (registry : NeRegistry) (tables : Nat → List NeBundle) : Prop where
  isRegistry : IsRegistry registry
  image : ∀ index < registry.count, (registry.modules index).image.size + 3 < 4294967296
  table : ∀ index < registry.count, HasEntryTable (registry.modules index) (tables index)

theorem HasEntryTable.resolveExport {target : NeModule} {bundles : List NeBundle}
    (h : HasEntryTable target bundles) (himage : target.image.size + 3 < 4294967296)
    (ordinal : Nat) :
    ∃ result, neResolveExport target ordinal = some result ∧ ∀ selector offset,
      result = some (selector, offset) ↔ ∃ entry, entryMap bundles ordinal = some entry ∧
        entry.flags &&& neEntExported ≠ 0 ∧ IsAddress target entry selector offset := by
  unfold neResolveExport
  rw [h.exportByOrdinal himage, bind_eq_bind, bind_some]
  cases hentry : entryMap bundles ordinal with
  | none =>
    refine ⟨none, rfl, fun selector offset => iff_of_false (by simp) ?_⟩
    rintro ⟨entry, hsome, -⟩
    cases hsome
  | some entry =>
    have hthis : ∀ result selector offset,
        (result = some (selector, offset) ↔ entry.flags &&& neEntExported ≠ 0 ∧
          IsAddress target entry selector offset) →
        (result = some (selector, offset) ↔ ∃ found, some entry = some found ∧
          found.flags &&& neEntExported ≠ 0 ∧ IsAddress target found selector offset) := by
      intro result selector offset hresult
      rw [hresult]
      constructor
      · exact fun haddress => ⟨entry, rfl, haddress⟩
      · rintro ⟨found, hfound, haddress⟩
        rwa [some.inj hfound]
    by_cases hexported : entry.flags &&& neEntExported ≠ 0
    · rw [filter_some, if_pos (decide_eq_true hexported)]
      dsimp only
      unfold IsAddress at hthis ⊢
      by_cases habsolute : entry.segmentNumber = 0
      · rw [if_pos habsolute]
        refine ⟨_, rfl, fun selector offset => hthis _ _ _ ?_⟩
        simp [habsolute, hexported, eq_comm]
      · have hnumber : 1 ≤ entry.segmentNumber := Nat.one_le_iff_ne_zero.mpr habsolute
        rw [if_neg habsolute]
        by_cases hcount : entry.segmentNumber > target.segmentCount
        · rw [if_pos hcount]
          refine ⟨none, rfl, fun selector offset => hthis _ _ _ ?_⟩
          simp [habsolute, Nat.not_le.mpr hcount]
        · have hsegment : target.segmentAt (entry.segmentNumber - 1) =
              some (target.segments (entry.segmentNumber - 1)) := if_pos (by omega)
          rw [if_neg hcount, hsegment, bind_eq_bind, bind_some]
          by_cases hselector : (target.segments (entry.segmentNumber - 1)).selector = 0
          · rw [if_pos hselector]
            refine ⟨none, rfl, fun selector offset => hthis _ _ _ (iff_of_false (by simp) ?_)⟩
            rintro ⟨-, hzero | ⟨-, rfl, hnonzero, -⟩⟩
            · exact absurd hzero.1 habsolute
            · exact absurd hselector hnonzero
          · rw [if_neg hselector]
            refine ⟨_, rfl, fun selector offset => hthis _ _ _ ⟨fun hresult => ?_, fun hresult => ?_⟩⟩
            · obtain ⟨rfl, rfl⟩ := Prod.mk.inj (some.inj hresult)
              exact ⟨hexported, .inr ⟨⟨hnumber, Nat.le_of_not_lt hcount⟩, rfl, hselector, rfl⟩⟩
            · obtain ⟨-, hzero | ⟨-, rfl, -, rfl⟩⟩ := hresult
              · exact absurd hzero.1 habsolute
              · rfl
    · rw [filter_some, if_neg (by simpa using hexported)]
      exact ⟨none, rfl, fun selector offset => hthis _ _ _
        (iff_of_false (by simp) fun haddress => hexported haddress.1)⟩

/-- The search for the ordinal of an import ends, at the ordinal it asks for. -/
theorem neResolveOrdinal_eq {module target : NeModule}
    (himage : module.image.size + 3 < 4294967296) (htarget : target.image.size + 3 < 4294967296)
    (ordinalOrName : Nat) (isByName : Bool) :
    ∃ found searched, neResolveOrdinal registry module target ordinalOrName isByName =
        some (found, searched) ∧
      ∀ ordinal, found = some ordinal ↔ AsksFor module target ordinalOrName isByName ordinal := by
  unfold neResolveOrdinal AsksFor
  cases isByName with
  | false =>
    refine ⟨some ordinalOrName, registry, rfl, fun ordinal => ?_⟩
    rw [if_neg Bool.false_ne_true, some_inj]
    exact eq_comm
  | true =>
    obtain ⟨buffer, hname, hstring⟩ := neImportedName_eq himage ordinalOrName
    unfold neResolveName
    rw [if_pos rfl, hname, bind_eq_bind, bind_some]
    dsimp only
    cases himported : importedName module ordinalOrName with
    | none =>
      rw [if_pos (show (none : Option (List UInt8)).isSome = false from rfl)]
      refine ⟨none, registry, rfl, fun ordinal => iff_of_false (by simp) ?_⟩
      rw [if_pos rfl]
      rintro ⟨name, hnone, -⟩
      cases hnone
    | some name =>
      rw [if_neg (show ¬(some name).isSome = false from Bool.true_eq_false_eq_False),
        hstring name himported, neExportByName_eq htarget, bind_eq_bind,
        bind_some]
      refine ⟨_, _, rfl, fun ordinal => ?_⟩
      rw [if_pos rfl]
      constructor
      · exact fun hordinal => ⟨name, rfl, hordinal⟩
      · rintro ⟨other, hother, hordinal⟩
        rwa [← some.inj hother] at hordinal

theorem HasTables.resolve {tables : Nat → List NeBundle} (h : HasTables registry tables)
    {module : NeModule} (himage : module.image.size + 3 < 4294967296)
    (reference ordinalOrName : Nat) (isByName : Bool) :
    ∃ result after, neRegistryResolve registry module reference ordinalOrName isByName =
        some (result, after) ∧
      ∀ selector offset, result = some (selector, offset) ↔
        ResolvesTo registry tables module reference ordinalOrName isByName selector offset := by
  obtain ⟨buffer, hreference, hstring⟩ := neRefName_eq himage reference
  unfold neRegistryResolve
  rw [hreference, bind_eq_bind, bind_some]
  dsimp only
  cases hname : refName module reference with
  | none =>
    rw [if_pos (show (none : Option (List UInt8)).isSome = false from rfl)]
    refine ⟨none, _, rfl, fun selector offset => iff_of_false (by simp) ?_⟩
    rintro ⟨name, index, ordinal, entry, hsome, -⟩
    rw [hname] at hsome
    cases hsome
  | some name =>
    rw [if_neg (show ¬(some name).isSome = false from Bool.true_eq_false_eq_False),
      hstring name hname]
    have hfind : ∀ target, neRegistryFind { registry with
        failedModule := name, failedFunction := [], failedOrdinal := 0 } name = some target ↔
          ∃ index, IsRegistered registry name index ∧ registry.modules index = target :=
      h.isRegistry.find name
    cases htarget : neRegistryFind { registry with
        failedModule := name, failedFunction := [], failedOrdinal := 0 } name with
    | none =>
      refine ⟨none, _, rfl, fun selector offset => iff_of_false (by simp) ?_⟩
      rintro ⟨other, index, ordinal, entry, hother, hregistered, -⟩
      rw [hname] at hother
      rw [← some.inj hother] at hregistered
      have hsome := (hfind _).mpr ⟨index, hregistered, rfl⟩
      rw [htarget] at hsome
      cases hsome
    | some target =>
      obtain ⟨index, hregistered, rfl⟩ := (hfind target).mp htarget
      have hbound := h.image index hregistered.lt
      obtain ⟨found, searched, hordinal, hasks⟩ := @neResolveOrdinal_eq { registry with
        failedModule := name, failedFunction := [], failedOrdinal := 0 } module _ himage hbound
        ordinalOrName isByName
      dsimp only
      rw [hordinal, bind_eq_bind, bind_some]
      have hresolves : ∀ selector offset, ResolvesTo registry tables module reference
          ordinalOrName isByName selector offset ↔ ∃ ordinal, found = some ordinal ∧
            ∃ entry, entryMap (tables index) ordinal = some entry ∧
              entry.flags &&& neEntExported ≠ 0 ∧
                IsAddress (registry.modules index) entry selector offset := by
        intro selector offset
        constructor
        · rintro ⟨other, place, ordinal, entry, hother, hplace, hask, hentry⟩
          rw [hname] at hother
          rw [← some.inj hother] at hplace
          rw [hplace.unique hregistered] at hask hentry
          exact ⟨ordinal, (hasks ordinal).mpr hask, entry, hentry⟩
        · rintro ⟨ordinal, hfound, entry, hentry⟩
          exact ⟨name, index, ordinal, entry, hname, hregistered, (hasks ordinal).mp hfound,
            hentry⟩
      cases found with
      | none =>
        refine ⟨none, _, rfl, fun selector offset => ?_⟩
        rw [hresolves]
        refine iff_of_false (by simp) ?_
        rintro ⟨ordinal, hnone, -⟩
        cases hnone
      | some ordinal =>
        obtain ⟨result, hresult, hiff⟩ :=
          (h.table index hregistered.lt).resolveExport hbound ordinal
        dsimp only
        rw [hresult, bind_eq_bind, bind_some]
        refine ⟨result, _, rfl, fun selector offset => ?_⟩
        rw [hiff, hresolves]
        constructor
        · exact fun hentry => ⟨ordinal, rfl, hentry⟩
        · rintro ⟨other, hother, hentry⟩
          rwa [some.inj hother]

/-- Lookups and exports are the map of the entry table, and an import resolves exactly to the
address of the export it names. -/
theorem exports_are_the_entry_table {registry : NeRegistry} {tables : Nat → List NeBundle}
    (hregistry : HasTables registry tables) {module : NeModule} {bundles : List NeBundle}
    (htable : HasEntryTable module bundles) (himage : module.image.size + 3 < 4294967296) :
    (∀ ordinal, neEntryLookup module ordinal = some (entryMap bundles ordinal) ∧
      neExportByOrdinal module ordinal = some ((entryMap bundles ordinal).filter fun entry =>
        entry.flags &&& neEntExported ≠ 0)) ∧
    ∀ importing : NeModule, importing.image.size + 3 < 4294967296 →
      ∀ reference ordinalOrName isByName, ∃ result after,
        neRegistryResolve registry importing reference ordinalOrName isByName =
          some (result, after) ∧
        ∀ selector offset, result = some (selector, offset) ↔
          ResolvesTo registry tables importing reference ordinalOrName isByName selector offset :=
  ⟨fun ordinal => ⟨htable.lookup himage ordinal, htable.exportByOrdinal himage ordinal⟩,
    fun _ himporting reference ordinalOrName isByName =>
      hregistry.resolve himporting reference ordinalOrName isByName⟩

/-- The bundles of a small library: two ordinals left out, a fixed bundle of segment 1, an
absolute value and a moveable entry. -/
def libraryBundles : List NeBundle :=
  [.null 2, .fixed 1 [⟨1, 0x10⟩, ⟨0, 0x20⟩], .absolute [⟨1, 3⟩], .moveable [⟨1, 0xCD, 0x3F, 1, 0x30⟩]]

/-- Its resident name `LIB`, its entry table, and a module table and the imported name, of
itself. -/
def libraryBytes : List UInt8 :=
  [3, 76, 73, 66, 0, 0, 0] ++
    (libraryBundles.flatMap NeBundle.bytes ++ [0]) ++ [2, 0, 3, 108, 105, 98]

def libraryModule : NeModule where
  image := ⟨fun index => libraryBytes.getD index 0, libraryBytes.length⟩
  header := 0
  programFlags := 0
  autoData := 0
  heap := 0
  stack := 0
  csIp := 0
  ssSp := 0
  segmentCount := 1
  moduleCount := 1
  movableCount := 1
  alignShift := 9
  expectedVersion := 0
  entryTable := 7
  entryLength := 24
  segmentTable := 0
  resourceTable := 0
  residentTable := 0
  moduleTable := 31
  importTable := 31
  nonResidentOffset := 0
  nonResidentLength := 0
  targetOs := 0
  otherFlags := 0
  segments := fun _ => { emptySegment with selector := 0x107 }
  sites := 0

def libraryRegistry : NeRegistry :=
  ((neRegistryAdd (emptyRegistry libraryModule) libraryModule).map Prod.snd).getD
    (emptyRegistry libraryModule)

theorem libraryModule_hasEntryTable : HasEntryTable libraryModule libraryBundles where
  inside := by decide
  wellFormed := by
    intro bundle hbundle
    fin_cases hbundle
    · exact ⟨by decide, by decide, fun _ _ h => by cases h⟩
    · exact ⟨by decide, by decide, fun _ _ h => by cases h; decide⟩
    · exact ⟨by decide, by decide, fun _ _ h => by cases h⟩
    · exact ⟨by decide, by decide, fun _ _ h => by cases h⟩
  stands := by
    refine ⟨[0], .inr rfl, by decide, fun i c hi => ?_⟩
    have hlt : i < 24 := (List.getElem?_eq_some_iff.mp hi).1
    rw [← hi]
    interval_cases i <;> rfl
  ordinals := by decide

theorem libraryRegistry_hasTables : HasTables libraryRegistry fun _ => libraryBundles := by
  have hcount : libraryRegistry.count = 1 := by decide
  have hmodule : ∀ index < libraryRegistry.count,
      libraryRegistry.modules index = libraryModule := by
    intro index hindex
    rw [hcount] at hindex
    rw [Nat.lt_one_iff.mp hindex]
    rfl
  obtain ⟨added, after, hadd, hregistry⟩ :=
    @neRegistryAdd_isRegistry _ (emptyRegistry_isRegistry libraryModule) libraryModule (by decide)
  have hafter : libraryRegistry = after := by
    unfold libraryRegistry
    rw [hadd]
    rfl
  refine ⟨hafter ▸ hregistry, fun index hindex => ?_, fun index hindex => ?_⟩
  · rw [hmodule index hindex]
    decide
  · rw [hmodule index hindex]
    exact libraryModule_hasEntryTable

theorem exports_are_the_entry_table_library :
    HasTables libraryRegistry (fun _ => libraryBundles) ∧
      neEntryLookup libraryModule 3 = some (some ⟨1, 0x10, 1⟩) ∧
      ∃ after, neRegistryResolve libraryRegistry libraryModule 1 3 false =
        some (some (0x107, 0x10), after) := by
  obtain ⟨hlookup, hresolve⟩ := exports_are_the_entry_table libraryRegistry_hasTables
    libraryModule_hasEntryTable (by decide)
  refine ⟨libraryRegistry_hasTables, (hlookup 3).1, ?_⟩
  obtain ⟨result, after, hresult, hiff⟩ := hresolve libraryModule (by decide) 1 3 false
  have hregistered : IsRegistered libraryRegistry [108, 105, 98] 0 :=
    ⟨by decide, ⟨[76, 73, 66], by decide, by decide⟩,
      fun earlier hearlier => absurd hearlier (Nat.not_lt_zero earlier)⟩
  have hto : ResolvesTo libraryRegistry (fun _ => libraryBundles) libraryModule 1 3 false
      0x107 0x10 :=
    ⟨[108, 105, 98], 0, 3, ⟨1, 0x10, 1⟩, by decide, hregistered, rfl, rfl, by decide,
      .inr ⟨by decide, by decide, by decide, rfl⟩⟩
  exact ⟨after, by rw [hresult, (hiff _ _).mpr hto]⟩

end Ntvdmex.Wow.Ne
