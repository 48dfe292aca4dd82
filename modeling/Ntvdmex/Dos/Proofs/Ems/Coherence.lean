import Ntvdmex.Dos.Proofs.Ems.Accounting

/-!
# Windows as views of logical pages

The logical pages as the guest means them: arrays that hold the hook's bytes when
they are allocated and change only when the guest stores through a window.  The
driver keeps a page in its buffer or in the windows that hold it, so a window
shows the page as long as a page is only copied out of a buffer that is up to
date and the guest does not store through one of several windows of a page.
-/

namespace Ntvdmex.Dos.Ems

open Foundation List EmsEvent Function UInt16 Option DosEmsHandle

variable {other : Fin dosEmsPhysicalPages} {i : Nat} {memory : ByteMemory}
    {logicalPage handle newPages : UInt16} {entry : DosEmsHandle} {buffer : Option ByteMemory}

/-! ## The logical pages -/

/-- The bytes of every logical page, by slot, page and offset. -/
abbrev EmsContents := Fin dosEmsMaxHandles → Nat → Nat → UInt8

/-- The logical pages after an event: pages that are new hold the bytes of the hook's
buffer, and a store through a window changes the page it is mapped to. -/
def EmsEvent.contents (state : DosEmsState) (contents : EmsContents) : EmsEvent → EmsContents
  | .allocate _ buffer => fun slot page i =>
    if (state.handles slot).inUse then contents slot page i
    else (buffer.getD fun _ => 0) (pageStart page + i)
  | .reallocate handle _ buffer => fun slot page i =>
    if dosEmsGetHandle state handle = some slot ∧ (state.handles slot).pages.toNat ≤ page then
      (buffer.getD fun _ => 0) (pageStart page + i)
    else contents slot page i
  | .write window offset value => fun slot page i =>
    if Holds state window slot page ∧ i = offset then value else contents slot page i
  | _ => contents

/-- The windows show the pages they hold, and the buffers hold the other pages. -/
structure Coherent (state : DosEmsState) (contents : EmsContents) : Prop where
  windows : ∀ window slot page, Holds state window slot page →
    ∀ i < dosEmsPageSize, windowByte state window i = contents slot page i
  buffers : ∀ slot page, page < (state.handles slot).pages.toNat →
    (∀ window, ¬ Holds state window slot page) →
    ∀ i < dosEmsPageSize, bufferByte state slot page i = contents slot page i

/-- The page's buffer is up to date. -/
def Fresh (state : DosEmsState) (contents : EmsContents) (slot : Fin dosEmsMaxHandles)
    (page : Nat) : Prop :=
  ∀ i < dosEmsPageSize, bufferByte state slot page i = contents slot page i

def InSync (state : DosEmsState) (slot : Fin dosEmsMaxHandles) (page : Nat) : Prop :=
  ∀ window, Holds state window slot page →
    ∀ i < dosEmsPageSize, windowByte state window i = bufferByte state slot page i

/-- The event copies a page in only from a buffer that is up to date, and stores
through a window only what the page's other windows show already.

A map call reads the buffer after writing back the window it replaces.  A restore does
so window by window, so a page may also have been written back from an earlier window
whose own saved mapping can be restored. -/
def EmsEvent.AvoidsStale (state : DosEmsState) : EmsEvent → Prop
  | .map physicalPage logicalPage handle =>
    ∀ (window : Fin dosEmsPhysicalPages) slot, window.val = physicalPage.toNat →
      dosEmsGetHandle state handle = some slot →
      logicalPage < (state.handles slot).pages →
      Holds state window slot logicalPage.toNat ∨ InSync state slot logicalPage.toNat
  | .restore handle =>
    ∀ owner, dosEmsGetHandle state handle = some owner →
      (state.handles owner).isMapSaved = true →
      ∀ (window : Fin dosEmsPhysicalPages) slot,
        ((state.handles owner).savedMap window).isMapped = true →
        dosEmsGetHandle state ((state.handles owner).savedMap window).handle = some slot →
        ((state.handles owner).savedMap window).logicalPage < (state.handles slot).pages →
        (∃ earlier ≤ window,
          Holds state earlier slot
            ((state.handles owner).savedMap window).logicalPage.toNat ∧
          ValidMapping state ((state.handles owner).savedMap earlier)) ∨
        InSync state slot ((state.handles owner).savedMap window).logicalPage.toNat
  | .write window offset value =>
    ∀ slot page, Holds state window slot page →
      ∀ other, other ≠ window → Holds state other slot page →
        windowByte state other offset = value
  | _ => True

section Coherence

variable {state state' : DosEmsState} {contents contents' : EmsContents}
  {window : Fin dosEmsPhysicalPages} {slot : Fin dosEmsMaxHandles} {page : Nat}

theorem Coherent.fresh_of_inSync (h : Coherent state contents)
    (hpage : page < (state.handles slot).pages.toNat) (hsync : InSync state slot page) :
    Fresh state contents slot page := by
  intro i hi
  by_cases hheld : ∃ window, Holds state window slot page
  · obtain ⟨window, hholds⟩ := hheld
    rw [← hsync window hholds i hi]
    exact h.windows window slot page hholds i hi
  · exact h.buffers slot page hpage (fun window hholds => hheld ⟨window, hholds⟩) i hi

theorem EmsInvariant.of_holds (hinv : EmsInvariant state)
    (h : Holds state window slot page) :
    (state.handles slot).memory ≠ none ∧ page < (state.handles slot).pages.toNat := by
  obtain ⟨hmapped, hslot, hpage⟩ := h
  obtain ⟨slot', hslot', hlt⟩ := hinv.windows window hmapped
  cases hslot.symm.trans hslot'
  have hnat := lt_iff_toNat_lt.1 hlt
  rw [hpage] at hnat
  refine ⟨fun hnone => ?_, hnat⟩
  rw [(hinv.slots slot).backed.1 hnone, UInt16.toNat_zero] at hnat
  exact absurd hnat (Nat.not_lt_zero page)

theorem Fresh.writeBack (h : Coherent state contents) (hinv : EmsInvariant state)
    (hfresh : Fresh state contents slot page ∨ Holds state window slot page) :
    Fresh (dosEmsWriteBackWindow state window) contents slot page := by
  intro i hi
  by_cases hholds : Holds state window slot page
  · obtain ⟨hmemory, hpage⟩ := hinv.of_holds hholds
    rw [bufferByte_writeBack_held hi hholds hmemory hpage]
    exact h.windows window slot page hholds i hi
  · rw [bufferByte_writeBack_other hi hholds]
    exact hfresh.resolve_right hholds i hi

theorem Coherent.writeBack (h : Coherent state contents) (hinv : EmsInvariant state)
    (window : Fin dosEmsPhysicalPages) :
    Coherent (dosEmsWriteBackWindow state window) contents := by
  have hbytes := dosEmsWriteBackWindow_onlyBytes state window
  constructor
  · intro other slot page hholds i hi
    rw [hbytes.windowByte_eq]
    exact h.windows other slot page ((hbytes.holds_iff _ _ _).1 hholds) i hi
  · intro slot page hpage hunheld
    rw [(hbytes.handles slot).pages] at hpage
    have hunheld' : ∀ other, ¬ Holds state other slot page := fun other hholds =>
      hunheld other ((hbytes.holds_iff _ _ _).2 hholds)
    exact Fresh.writeBack h hinv (.inl (h.buffers slot page hpage hunheld'))

theorem holds_setWindow_of_ne {mapping : DosEmsWindowMapping} (hne : other ≠ window) :
    Holds (setWindow state window mapping) other slot page ↔ Holds state other slot page := by
  have hkept : (setWindow state window mapping).physicalPages other =
      state.physicalPages other := update_of_ne hne _ _
  unfold Holds
  rw [hkept]
  rfl

theorem not_holds_dropWindow : ¬ Holds (dropWindow state window) window slot page := by
  intro hholds
  have hmapped := hholds.1
  unfold dropWindow setWindow at hmapped
  dsimp only at hmapped
  rw [update_self] at hmapped
  cases hmapped

theorem Coherent.dropWindow (h : Coherent state contents)
    (hfresh : ∀ slot page, Holds state window slot page → Fresh state contents slot page) :
    Coherent (dropWindow state window) contents := by
  constructor
  · intro other slot page hholds i hi
    by_cases hother : other = window
    · subst hother
      exact absurd hholds not_holds_dropWindow
    · exact h.windows other slot page ((holds_setWindow_of_ne hother).1 hholds) i hi
  · intro slot page hpage hunheld
    by_cases hheld : Holds state window slot page
    · exact hfresh slot page hheld
    · refine h.buffers slot page hpage fun other hholds => ?_
      by_cases hother : other = window
      · subst hother
        exact hheld hholds
      · exact hunheld other ((holds_setWindow_of_ne hother).2 hholds)

theorem windowByte_loadWindow_self (memory : ByteMemory) (logicalPage handle : UInt16)
    (hi : i < dosEmsPageSize) :
    windowByte (loadWindow state window memory logicalPage handle) window i =
      memory (pageStart logicalPage.toNat + i) :=
  ByteMemory.copyFrom_apply _ _ _ hi

theorem windowByte_loadWindow_other (hne : other ≠ window) (memory : ByteMemory)
    (logicalPage handle : UInt16) (hi : i < dosEmsPageSize) :
    windowByte (loadWindow state window memory logicalPage handle) other i =
      windowByte state other i := by
  apply ByteMemory.copyFrom_other
  unfold pageStart dosEmsPageSize at *
  omega

/-- A page that is up to date in its buffer can be copied into a window whose own page
is. -/
theorem Coherent.loadWindow (h : Coherent state contents)
    (hslot : dosEmsGetHandle state handle = some slot)
    (hmemory : (state.handles slot).memory = some memory)
    (hnew : Fresh state contents slot logicalPage.toNat)
    (hold : ∀ slot page, Holds state window slot page → Fresh state contents slot page) :
    Coherent (loadWindow state window memory logicalPage handle) contents := by
  have hself : ∀ slot' page',
      Holds (Ems.loadWindow state window memory logicalPage handle) window slot' page' →
        slot' = slot ∧ page' = logicalPage.toNat := by
    rintro slot' page' ⟨-, hslot', hpage'⟩
    unfold Ems.loadWindow setWindow at hslot' hpage'
    dsimp only at hslot' hpage'
    rw [update_self] at hslot' hpage'
    exact ⟨some.inj (hslot'.symm.trans hslot), hpage'.symm⟩
  constructor
  · intro other slot' page' hholds i hi
    by_cases hother : other = window
    · subst hother
      obtain ⟨rfl, rfl⟩ := hself slot' page' hholds
      rw [windowByte_loadWindow_self memory logicalPage handle hi, ← hnew i hi, bufferByte,
        byteOf, hmemory]
      rfl
    · rw [windowByte_loadWindow_other hother memory logicalPage handle hi]
      exact h.windows other slot' page' ((holds_setWindow_of_ne hother).1 hholds) i hi
  · intro slot' page' hpage hunheld
    by_cases hheld : Holds state window slot' page'
    · exact hold slot' page' hheld
    · refine h.buffers slot' page' hpage fun other hholds => ?_
      by_cases hother : other = window
      · subst hother
        exact hheld hholds
      · exact hunheld other ((holds_setWindow_of_ne hother).2 hholds)

/-! ## Map and restore -/

/-- What a step of a map or of a restore keeps: coherence and the buffers that were up to
date, and it touches no window but its own. -/
structure KeepsPages (state : DosEmsState) (contents : EmsContents)
    (window : Fin dosEmsPhysicalPages) (state' : DosEmsState) : Prop where
  coherent : Coherent state' contents
  fresh : ∀ slot page, Fresh state contents slot page → Fresh state' contents slot page
  others : ∀ other, other ≠ window → ∀ slot page,
    Holds state' other slot page ↔ Holds state other slot page

variable (h : Coherent state contents)

include h

theorem KeepsPages.refl (window : Fin dosEmsPhysicalPages) :
    KeepsPages state contents window state :=
  ⟨h, fun _ _ hfresh => hfresh, fun _ _ _ _ => Iff.rfl⟩

/-- Writing a window back brings its page's buffer up to date. -/
theorem Coherent.writeBack_keeps (hinv : EmsInvariant state) (window : Fin dosEmsPhysicalPages) :
    KeepsPages state contents window (dosEmsWriteBackWindow state window) ∧
      ∀ slot page, Holds state window slot page →
        Fresh (dosEmsWriteBackWindow state window) contents slot page := by
  have hbytes := dosEmsWriteBackWindow_onlyBytes state window
  refine ⟨⟨h.writeBack hinv window, ?_, ?_⟩, ?_⟩
  · intro slot page hfresh
    exact Fresh.writeBack h hinv (.inl hfresh)
  · intro other _ slot page
    exact hbytes.holds_iff other slot page
  · intro slot page hholds
    exact Fresh.writeBack h hinv (.inr hholds)

theorem Coherent.writeBack_dropWindow (hinv : EmsInvariant state)
    (window : Fin dosEmsPhysicalPages) : KeepsPages state contents window
        (Ems.dropWindow (dosEmsWriteBackWindow state window) window) ∧
      ∀ slot page, Holds state window slot page →
        Fresh (Ems.dropWindow (dosEmsWriteBackWindow state window) window) contents slot
          page := by
  have hbytes := dosEmsWriteBackWindow_onlyBytes state window
  obtain ⟨hkeeps, hwritten⟩ := h.writeBack_keeps hinv window
  refine ⟨⟨?_, hkeeps.fresh, ?_⟩, hwritten⟩
  · apply hkeeps.coherent.dropWindow
    intro slot page hholds
    exact hwritten slot page ((hbytes.holds_iff _ _ _).1 hholds)
  · intro other hother slot page
    exact (holds_setWindow_of_ne hother).trans (hkeeps.others other hother slot page)

/-- A map keeps coherence if the page it maps is held by the window it replaces or is up
to date; unless it is refused, it writes the window it replaces back. -/
theorem Coherent.mapPage (hinv : EmsInvariant state) {physicalPage : UInt8}
    (hwindow : window.val = physicalPage.toNat)
    (hready : ∀ slot, dosEmsGetHandle state handle = some slot →
      logicalPage < (state.handles slot).pages →
      Holds state window slot logicalPage.toNat ∨ Fresh state contents slot logicalPage.toNat) :
    KeepsPages state contents window
        (dosEmsMapPage state physicalPage logicalPage handle).state ∧
      ((∃ slot, dosEmsGetHandle state handle = some slot ∧
          logicalPage < (state.handles slot).pages) →
        ∀ slot page, Holds state window slot page →
          Fresh (dosEmsMapPage state physicalPage logicalPage handle).state contents slot
            page) := by
  obtain ⟨error, hrefused, hwhy⟩ | ⟨window', slot, hwindow', -, -, hunmapped⟩ |
      ⟨window', slot, hwindow', hslot, -, hpage, hloaded⟩ :=
    dosEmsMapPage_cases state physicalPage logicalPage handle
  · rw [hrefused]
    refine ⟨.refl h window, ?_⟩
    rintro ⟨slot, hslot, hpage⟩
    rcases hwhy with hphysical | hnone | ⟨slot', hslot', hpages, -⟩
    · omega
    · rw [hslot] at hnone
      cases hnone
    · cases hslot.symm.trans hslot'
      exact absurd hpage (UInt16.not_lt.2 hpages)
  · have heq : window' = window := Fin.ext (hwindow'.trans hwindow.symm)
    subst heq
    rw [hunmapped]
    obtain ⟨hkeeps, hwritten⟩ := h.writeBack_dropWindow hinv window'
    exact ⟨hkeeps, fun _ => hwritten⟩
  · have heq : window' = window := Fin.ext (hwindow'.trans hwindow.symm)
    subst heq
    have hbytes := dosEmsWriteBackWindow_onlyBytes state window'
    obtain ⟨hkeeps, hwritten⟩ := h.writeBack_keeps hinv window'
    obtain ⟨-, hnothing⟩ | ⟨memory, hmemory, hdone⟩ := hloaded
    · rw [hnothing]
      exact ⟨hkeeps, fun _ => hwritten⟩
    · rw [hdone]
      refine ⟨⟨?_, hkeeps.fresh, ?_⟩, fun _ => hwritten⟩
      · have hslot' : dosEmsGetHandle (dosEmsWriteBackWindow state window') handle =
            some slot := (hbytes.getHandle handle).trans hslot
        refine hkeeps.coherent.loadWindow hslot' hmemory ?_ ?_
        · rcases hready slot hslot hpage with hholds | hfresh
          · exact hwritten slot _ hholds
          · exact hkeeps.fresh slot _ hfresh
        · intro slot' page' hholds
          exact hwritten slot' page' ((hbytes.holds_iff _ _ _).1 hholds)
      · intro other hother slot' page'
        exact (holds_setWindow_of_ne hother).trans (hkeeps.others other hother slot' page')

omit h

theorem restoreWindow_physicalPage (window : Fin dosEmsPhysicalPages) :
    window.val = (UInt8.ofNat window.val).toNat := by
  have hlt : window.val < 4 := window.isLt
  rw [UInt8.toNat_ofNat']
  exact (Nat.mod_eq_of_lt (by omega)).symm

theorem Coherent.restoreWindow (h : Coherent state contents) (hinv : EmsInvariant state)
    (window : Fin dosEmsPhysicalPages) {saved : DosEmsWindowMapping}
    (hready : ∀ slot, saved.isMapped = true → dosEmsGetHandle state saved.handle = some slot →
      saved.logicalPage < (state.handles slot).pages →
      Holds state window slot saved.logicalPage.toNat ∨
        Fresh state contents slot saved.logicalPage.toNat) :
    KeepsPages state contents window (restoreWindow state window saved) ∧
      (ValidMapping state saved → ∀ slot page, Holds state window slot page →
        Fresh (Ems.restoreWindow state window saved) contents slot page) := by
  unfold Ems.restoreWindow
  by_cases hmapped : saved.isMapped = true
  · rw [if_pos hmapped]
    obtain ⟨hkeeps, hwritten⟩ := h.mapPage hinv (restoreWindow_physicalPage window)
      fun slot => hready slot hmapped
    exact ⟨hkeeps, fun hvalid => hwritten (hvalid hmapped)⟩
  · rw [if_neg hmapped]
    obtain ⟨hkeeps, hwritten⟩ := h.writeBack_dropWindow hinv window
    exact ⟨hkeeps, fun _ => hwritten⟩

theorem Coherent.restoreWindows (h : Coherent state contents) (hinv : EmsInvariant state)
    (savedMap : Fin dosEmsPhysicalPages → DosEmsWindowMapping)
    {xs : List (Fin dosEmsPhysicalPages)} (hnodup : xs.Nodup)
    (hready : ∀ pre window post, xs = pre ++ window :: post →
      ∀ slot, (savedMap window).isMapped = true →
        dosEmsGetHandle state (savedMap window).handle = some slot →
        (savedMap window).logicalPage < (state.handles slot).pages →
        (∃ earlier, (earlier ∈ pre ∨ earlier = window) ∧
          Holds state earlier slot (savedMap window).logicalPage.toNat ∧
          ValidMapping state (savedMap earlier)) ∨
        Fresh state contents slot (savedMap window).logicalPage.toNat) :
    Coherent (restoreWindows state xs savedMap) contents := by
  induction xs generalizing state with
  | nil => exact h
  | cons first xs ih =>
    obtain ⟨hfirst, hrest⟩ := nodup_cons.1 hnodup
    have hshape := restoreWindow_handles state first (savedMap first)
    have hget : ∀ handle, dosEmsGetHandle
        (Ems.restoreWindow state first (savedMap first)) handle =
        dosEmsGetHandle state handle :=
      dosEmsGetHandle_congr fun slot => (hshape slot).inUse
    obtain ⟨hkeeps, hwritten⟩ := h.restoreWindow hinv first
      (by
        intro slot hmapped hslot hpage
        refine (hready [] first xs rfl slot hmapped hslot hpage).imp_left ?_
        rintro ⟨earlier, hearlier, hholds, -⟩
        rwa [hearlier.resolve_left not_mem_nil] at hholds)
    refine ih hkeeps.coherent (restoreWindow_invariant hinv first _).1 hrest ?_
    intro pre window post hsplit slot hmapped hslot hpage
    rw [hget] at hslot
    rw [(hshape slot).pages] at hpage
    rcases hready (first :: pre) window post (by rw [hsplit]; rfl) slot hmapped hslot hpage
      with ⟨earlier, hearlier, hholds, hvalid⟩ | hfresh
    · by_cases heq : earlier = first
      · subst heq
        exact .inr (hwritten hvalid _ _ hholds)
      · refine .inl ⟨earlier, ?_, (hkeeps.others earlier heq _ _).2 hholds, ?_⟩
        · refine hearlier.imp_left fun hmem => ?_
          exact (mem_cons.1 hmem).resolve_left heq
        · intro hearlierMapped
          obtain ⟨slot', hslot', hpage'⟩ := hvalid hearlierMapped
          refine ⟨slot', (hget _).trans hslot', ?_⟩
          rwa [(hshape slot').pages]
    · exact .inr (hkeeps.fresh _ _ hfresh)

/-! ## The other services -/

theorem Coherent.of_same (h : Coherent state contents)
    (hframe : state'.frame = state.frame)
    (hwindows : state'.physicalPages = state.physicalPages)
    (hhandles : ∀ slot, (state'.handles slot).inUse = (state.handles slot).inUse ∧
      (state'.handles slot).pages = (state.handles slot).pages ∧
      (state'.handles slot).memory = (state.handles slot).memory) :
    Coherent state' contents := by
  have hholds : ∀ window slot page,
      Holds state' window slot page ↔ Holds state window slot page := by
    intro window slot page
    unfold Holds
    rw [hwindows, dosEmsGetHandle_congr fun slot => (hhandles slot).1]
  constructor
  · intro window slot page hheld i hi
    rw [windowByte, hframe]
    exact h.windows window slot page ((hholds _ _ _).1 hheld) i hi
  · intro slot page hpage hunheld i hi
    rw [(hhandles slot).2.1] at hpage
    rw [bufferByte, byteOf, (hhandles slot).2.2]
    exact h.buffers slot page hpage (fun window hheld => hunheld window ((hholds _ _ _).2 hheld))
      i hi

theorem setSaved_same {savedMap : Fin dosEmsPhysicalPages → DosEmsWindowMapping}
    {isMapSaved : Bool} (other : Fin dosEmsMaxHandles) :
    ((setHandle state slot
      { state.handles slot with savedMap, isMapSaved }).handles
        other).inUse = (state.handles other).inUse ∧
    ((setHandle state slot
      { state.handles slot with savedMap, isMapSaved }).handles
        other).pages = (state.handles other).pages ∧
    ((setHandle state slot
      { state.handles slot with savedMap, isMapSaved }).handles
        other).memory = (state.handles other).memory := by
  unfold setHandle
  dsimp only
  by_cases hother : other = slot
  · subst hother
    rw [update_self]
    exact ⟨rfl, rfl, rfl⟩
  · rw [update_of_ne hother]
    exact ⟨rfl, rfl, rfl⟩

theorem Coherent.savePageMap (h : Coherent state contents) (handle : UInt16) :
    Coherent (dosEmsSavePageMap state handle).state contents := by
  obtain ⟨error, hrefused⟩ | ⟨slot, -, hdone⟩ := dosEmsSavePageMap_cases state handle
  · rw [hrefused]
    exact h
  · rw [hdone]
    exact h.of_same rfl rfl setSaved_same

theorem Coherent.restorePageMap (h : Coherent state contents) (hinv : EmsInvariant state)
    (havoid : (restore handle).AvoidsStale state) :
    Coherent (dosEmsRestorePageMap state handle).state contents := by
  obtain ⟨error, hrefused⟩ | ⟨owner, howner, hsaved, hdone⟩ :=
    dosEmsRestorePageMap_cases state handle
  · rw [hrefused]
    exact h
  rw [hdone]
  suffices hloop : Coherent
      (Ems.restoreWindows state Ems.windows (state.handles owner).savedMap) contents from
    hloop.of_same rfl rfl setSaved_same
  apply h.restoreWindows hinv _ (nodup_finRange _)
  intro pre window post hsplit slot hmapped hslot hpage
  rcases havoid owner howner hsaved window slot hmapped hslot hpage with
    ⟨earlier, hle, hholds, hvalid⟩ | hsync
  · refine .inl ⟨earlier, ?_, hholds, hvalid⟩
    have hmem : earlier ∈ pre ++ window :: post := by
      rw [← hsplit]
      exact mem_finRange earlier
    have hsorted := pairwise_lt_finRange dosEmsPhysicalPages
    rw [hsplit, pairwise_append, pairwise_cons] at hsorted
    rcases mem_append.1 hmem with hpre | hrest
    · exact .inl hpre
    · rcases mem_cons.1 hrest with heq | hpost
      · exact .inr heq
      · exact absurd (hsorted.2.1.1 earlier hpost) (not_lt.2 hle)
  · exact .inr (h.fresh_of_inSync (lt_iff_toNat_lt.1 hpage) hsync)

theorem Coherent.transfer (h : Coherent state contents) (hframe : state'.frame = state.frame)
    (hholds : ∀ window slot page, Holds state' window slot page →
      Holds state window slot page ∧
        ∀ i < dosEmsPageSize, contents' slot page i = contents slot page i)
    (hbuffers : ∀ slot page, page < (state'.handles slot).pages.toNat →
      (∀ window, ¬ Holds state' window slot page) →
      ∀ i < dosEmsPageSize, bufferByte state' slot page i = contents' slot page i) :
    Coherent state' contents' := by
  refine ⟨fun window slot page hheld i hi => ?_, hbuffers⟩
  obtain ⟨hbefore, hsame⟩ := hholds window slot page hheld
  rw [windowByte, hframe, hsame i hi]
  exact h.windows window slot page hbefore i hi

theorem setHandle_handles_of_ne {other : Fin dosEmsMaxHandles} (hne : other ≠ slot)
    : (setHandle state slot entry).handles other = state.handles other :=
  update_of_ne hne _ _

theorem setHandle_handles_self : (setHandle state slot entry).handles slot = entry :=
  update_self _ _ _

theorem holds_of_handles {other : Fin dosEmsMaxHandles}
    (hhandle : (state'.handles other).inUse = (state.handles other).inUse)
    (hwindow : state'.physicalPages window = state.physicalPages window) :
    Holds state' window other page ↔ Holds state window other page := by
  unfold Holds
  rw [hwindow, dosEmsGetHandle_eq_some, dosEmsGetHandle_eq_some, hhandle]

theorem EmsInvariant.inUse_of_pages (hinv : EmsInvariant state)
    (hpage : page < (state.handles slot).pages.toNat) : (state.handles slot).inUse = true := by
  by_contra hunused
  rw [((hinv.slots slot).unused (Bool.eq_false_iff.2 hunused)).1, UInt16.toNat_zero] at hpage
  exact absurd hpage (Nat.not_lt_zero page)

theorem allocateHook_eq_some (h : state.allocateHook buffer = some memory)
    : buffer = some memory := by
  unfold DosEmsState.allocateHook at h
  rw [ite_none_right_eq_some] at h
  exact h.2

theorem Coherent.allocatePages (h : Coherent state contents) (hinv : EmsInvariant state)
    (pages : UInt16) (buffer : Option ByteMemory) :
    Coherent (dosEmsAllocatePages state pages buffer).state
      ((allocate pages buffer).contents state contents) := by
  have hsame : ∀ slot page i, (state.handles slot).inUse = true →
      (allocate pages buffer).contents state contents slot page i =
        contents slot page i := fun _ _ _ huse => if_pos huse
  have hinUse : ∀ {window slot page}, Holds state window slot page →
      (state.handles slot).inUse = true := fun hholds =>
    (dosEmsGetHandle_eq_some.1 hholds.2.1).2
  obtain ⟨error, hrefused⟩ | ⟨slot, memory, -, -, hunused, hhook, hdone⟩ :=
    dosEmsAllocatePages_cases state pages buffer
  · rw [hrefused]
    refine h.transfer rfl (fun window slot page hholds => ?_) fun slot page hpage hunheld i hi => ?_
    · exact ⟨hholds, fun i _ => hsame slot page i (hinUse hholds)⟩
    · rw [hsame slot page i (hinv.inUse_of_pages hpage)]
      exact h.buffers slot page hpage hunheld i hi
  rw [hdone]
  have hother : ∀ entry window other page, other ≠ slot →
      (Holds (setHandle state slot entry) window other page ↔
        Holds state window other page) := fun entry window other page hne =>
    holds_of_handles (by rw [setHandle_handles_of_ne hne]) rfl
  refine h.transfer rfl (fun window other page hholds => ?_) fun other page hpage hunheld i hi => ?_
  · by_cases hne : other = slot
    · subst hne
      obtain ⟨other', hslot', -⟩ := hinv.windows window hholds.1
      obtain ⟨hval', huse'⟩ := dosEmsGetHandle_eq_some.1 hslot'
      have hval : other.val = (state.physicalPages window).handle.toNat :=
        (dosEmsGetHandle_eq_some.1 hholds.2.1).1
      have heq : other' = other := Fin.ext (hval'.trans hval.symm)
      rw [heq, hunused] at huse'
      cases huse'
    · have hbefore := (hother _ window other page hne).1 hholds
      exact ⟨hbefore, fun i _ => hsame other page i (hinUse hbefore)⟩
  · by_cases hne : other = slot
    · subst hne
      have hnew : (allocate pages buffer).contents state contents other page i =
          (buffer.getD fun _ => 0) (pageStart page + i) :=
        if_neg (by rw [hunused]; exact Bool.false_ne_true)
      rw [hnew, allocateHook_eq_some hhook]
      change ((setHandle state other _).handles other).byteOf page i = _
      rw [setHandle_handles_self]
      rfl
    · change ((setHandle state slot _).handles other).byteOf page i = _
      rw [setHandle_handles_of_ne hne] at hpage ⊢
      rw [hsame other page i (hinv.inUse_of_pages hpage)]
      refine h.buffers other page hpage (fun window hholds => hunheld window ?_) i hi
      exact (hother _ window other page hne).2 hholds

theorem Coherent.deallocatePages (h : Coherent state contents) (handle : UInt16) :
    Coherent (dosEmsDeallocatePages state handle).state contents := by
  obtain ⟨error, hrefused⟩ | ⟨slot, hslot, hdone⟩ := dosEmsDeallocatePages_cases state handle
  · rw [hrefused]
    exact h
  rw [hdone]
  have hhandle := (dosEmsGetHandle_eq_some.1 hslot).1
  refine h.transfer rfl (fun window other page hholds => ?_) fun other page hpage hunheld i hi => ?_
  · obtain ⟨hkept, -⟩ := dropIf_isMapped hholds.1
    have hne : other ≠ slot := by
      rintro rfl
      have huse := (dosEmsGetHandle_eq_some.1 hholds.2.1).2
      rw [setHandle_handles_self] at huse
      cases huse
    refine ⟨(holds_of_handles ?_ hkept).1 hholds, fun _ _ => rfl⟩
    rw [setHandle_handles_of_ne hne]
  · have hne : other ≠ slot := by
      rintro rfl
      rw [setHandle_handles_self] at hpage
      exact absurd hpage (Nat.not_lt_zero page)
    change ((setHandle _ slot _).handles other).byteOf page i = _
    rw [setHandle_handles_of_ne hne] at hpage ⊢
    refine h.buffers other page hpage (fun window hholds => hunheld window ?_) i hi
    have hkept : dropIf (fun mapping => mapping.isMapped ∧ mapping.handle = handle)
        (state.physicalPages window) = state.physicalPages window := by
      refine if_neg fun hdrop => hne (Fin.ext ?_)
      rw [(dosEmsGetHandle_eq_some.1 hholds.2.1).1, hdrop.2, hhandle]
    refine (holds_of_handles ?_ hkept).2 hholds
    rw [setHandle_handles_of_ne hne]

theorem KeepsPages.flushStep (h : Coherent state contents) (hinv : EmsInvariant state)
    (handle : UInt16) (window : Fin dosEmsPhysicalPages) :
    KeepsPages state contents window (flushStep handle state window) := by
  unfold Ems.flushStep
  split
  · exact (h.writeBack_keeps hinv window).1
  · exact .refl h window

section

variable {handle : UInt16} (h : Coherent state contents) (hinv : EmsInvariant state)
    (hslot : dosEmsGetHandle state handle = some slot)

include h hinv hslot

theorem Coherent.foldl_flush (xs : List (Fin dosEmsPhysicalPages)) :
    Coherent (xs.foldl (flushStep handle) state) contents ∧
      ∀ page, (Fresh state contents slot page ∨ ∃ window ∈ xs, Holds state window slot page) →
        Fresh (xs.foldl (flushStep handle) state) contents slot page := by
  induction xs generalizing state with
  | nil =>
    refine ⟨h, fun page hready => hready.resolve_right ?_⟩
    rintro ⟨window, hmem, -⟩
    exact absurd hmem not_mem_nil
  | cons first xs ih =>
    rw [foldl_cons]
    have hbytes := flushStep_onlyBytes handle state first
    have hkeeps := KeepsPages.flushStep h hinv handle first
    have hslot' := (hbytes.getHandle handle).trans hslot
    obtain ⟨hcoherent, hfresh⟩ := ih hkeeps.coherent (hbytes.invariant hinv) hslot'
    refine ⟨hcoherent, fun page hready => hfresh page ?_⟩
    rcases hready with hbefore | ⟨window, hmem, hholds⟩
    · exact .inl (hkeeps.fresh slot page hbefore)
    · rcases mem_cons.1 hmem with rfl | hrest
      · refine .inl ?_
        have hhandle : (state.physicalPages window).handle = handle :=
          UInt16.toNat_inj.1 ((dosEmsGetHandle_eq_some.1 hholds.2.1).1.symm.trans
            (dosEmsGetHandle_eq_some.1 hslot).1)
        rw [Ems.flushStep, if_pos ⟨hholds.1, hhandle⟩]
        exact Fresh.writeBack h hinv (.inr hholds)
      · exact .inr ⟨window, hrest, (hbytes.holds_iff window slot page).2 hholds⟩

theorem Coherent.flushHandle :
    Coherent (flushHandle state handle) contents ∧
      ∀ page < (state.handles slot).pages.toNat,
        Fresh (Ems.flushHandle state handle) contents slot page := by
  obtain ⟨hcoherent, hfresh⟩ := h.foldl_flush hinv hslot Ems.windows
  refine ⟨hcoherent, fun page hpage => hfresh page ?_⟩
  by_cases hheld : ∃ window, Holds state window slot page
  · obtain ⟨window, hholds⟩ := hheld
    exact .inr ⟨window, List.mem_finRange window, hholds⟩
  · exact .inl (h.buffers slot page hpage fun window hholds => hheld ⟨window, hholds⟩)

end

/-- The new buffer has the old bytes of the pages kept and the hook's bytes of the pages
that are new. -/
theorem reallocatedMemory_byte (hi : i < dosEmsPageSize) (hpage : page < newPages.toNat) :
    ((reallocatedMemory entry newPages (some memory)).getD fun _ => 0) (pageStart page + i) =
      if page < entry.pages.toNat then entry.byteOf page i
      else memory (pageStart page + i) := by
  have hpos : 0 < newPages := by
    rw [lt_iff_toNat_lt, UInt16.toNat_zero]
    lia
  have hkept : page < (if newPages < entry.pages then newPages else entry.pages).toNat ↔
      page < entry.pages.toNat := by
    by_cases hshrink : newPages < entry.pages
    · have hnat := lt_iff_toNat_lt.1 hshrink
      rw [if_pos hshrink]
      lia
    · rw [if_neg hshrink]
  unfold reallocatedMemory
  rw [if_pos hpos, map_some, getD_some]
  generalize (if newPages < entry.pages then newPages else entry.pages).toNat = kept at hkept
  unfold ByteMemory.copyFrom byteOf pageStart dosEmsPageSize at *
  by_cases hin : page < entry.pages.toNat
  · rw [if_pos hin, if_pos (by lia), Nat.zero_add, Nat.sub_zero]
  · rw [if_neg hin, if_neg (by lia)]

theorem reallocate_contents_of_lt (hpage : page < (state.handles slot).pages.toNat) :
    (reallocate handle newPages buffer).contents state contents slot page i =
      contents slot page i :=
  if_neg fun h => absurd hpage (Nat.not_lt.2 h.2)

theorem Coherent.of_contents (h : Coherent state contents) (hinv : EmsInvariant state)
    (hsame : ∀ slot page, page < (state.handles slot).pages.toNat →
      ∀ i < dosEmsPageSize, contents' slot page i = contents slot page i) :
    Coherent state contents' := by
  refine h.transfer rfl (fun window slot page hholds => ?_) fun slot page hpage hunheld i hi => ?_
  · exact ⟨hholds, hsame slot page (hinv.of_holds hholds).2⟩
  · rw [hsame slot page hpage i hi]
    exact h.buffers slot page hpage hunheld i hi

theorem Coherent.reallocatePages (h : Coherent state contents) (hinv : EmsInvariant state)
    (handle newPages : UInt16) (buffer : Option ByteMemory) :
    Coherent (dosEmsReallocatePages state handle newPages buffer).state
      ((reallocate handle newPages buffer).contents state contents) := by
  have hflush := flushHandle_onlyBytes state handle
  have hpages := fun slot => (hflush.handles slot).pages
  obtain ⟨error, hrefused⟩ | hkept | ⟨slot, error, hslot, hfailed⟩ |
      ⟨slot, hslot, -, hhook, hdone⟩ :=
    dosEmsReallocatePages_cases state handle newPages buffer
  · rw [hrefused]
    exact h.of_contents hinv fun _ _ hpage _ _ => reallocate_contents_of_lt hpage
  · rw [hkept]
    exact h.of_contents hinv fun _ _ hpage _ _ => reallocate_contents_of_lt hpage
  · rw [hfailed]
    refine (h.flushHandle hinv hslot).1.of_contents (hflush.invariant hinv)
      fun slot page hpage i _ => ?_
    rw [hpages] at hpage
    exact reallocate_contents_of_lt hpage
  rw [hdone]
  obtain ⟨hcoherent, hfresh⟩ := h.flushHandle hinv hslot
  have hflushed := hflush.invariant hinv
  have hnumber := (dosEmsGetHandle_eq_some.1 hslot).1
  have hsame : ∀ other page i,
      page < ((Ems.flushHandle state handle).handles other).pages.toNat →
      (reallocate handle newPages buffer).contents state contents other page i =
        contents other page i := fun other page i hpage => by
    rw [hpages] at hpage
    exact reallocate_contents_of_lt hpage
  have hinUse : ∀ other,
      ((reallocated (Ems.flushHandle state handle) slot handle newPages
        (reallocatedMemory ((Ems.flushHandle state handle).handles slot) newPages
          ((Ems.flushHandle state handle).allocateHook buffer))).handles other).inUse =
      ((Ems.flushHandle state handle).handles other).inUse := by
    intro other
    change ((setHandle _ slot _).handles other).inUse = _
    by_cases hne : other = slot
    · subst hne
      rw [setHandle_handles_self]
    · rw [setHandle_handles_of_ne hne]
  refine hcoherent.transfer rfl (fun window other page hholds => ?_)
    fun other page hpage hunheld i hi => ?_
  · obtain ⟨hkept, -⟩ := dropIf_isMapped hholds.1
    have hbefore := (holds_of_handles (hinUse other) hkept).1 hholds
    exact ⟨hbefore, fun i _ => hsame other page i (hflushed.of_holds hbefore).2⟩
  · by_cases hne : other = slot
    · subst hne
      change page < ((setHandle _ other _).handles other).pages.toNat at hpage
      change ((setHandle _ other _).handles other).byteOf page i = _
      rw [setHandle_handles_self] at hpage ⊢
      have hpos : 0 < newPages := by
        rw [lt_iff_toNat_lt, UInt16.toNat_zero]
        lia
      obtain ⟨memory, hmemory⟩ := ne_none_iff_exists'.1 fun hnone => hhook ⟨hpos, hnone⟩
      rw [hmemory]
      change ((reallocatedMemory _ newPages (some memory)).getD fun _ => 0) _ = _
      rw [reallocatedMemory_byte hi hpage]
      by_cases hold : page < ((Ems.flushHandle state handle).handles other).pages.toNat
      · rw [if_pos hold, hsame other page i hold]
        rw [hpages] at hold
        exact hfresh page hold i hi
      · rw [if_neg hold]
        rw [hpages] at hold
        have hnew : (reallocate handle newPages buffer).contents state contents other
            page i = (buffer.getD fun _ => 0) (pageStart page + i) :=
          if_pos ⟨hslot, Nat.le_of_not_lt hold⟩
        rw [hnew, allocateHook_eq_some hmemory]
        rfl
    · change page < ((setHandle _ slot _).handles other).pages.toNat at hpage
      change ((setHandle _ slot _).handles other).byteOf page i = _
      rw [setHandle_handles_of_ne hne] at hpage ⊢
      rw [hsame other page i hpage]
      refine hcoherent.buffers other page hpage (fun window hholds => hunheld window ?_) i hi
      have hkept : dropIf (fun mapping => mapping.isMapped ∧ mapping.handle = handle ∧
          newPages ≤ mapping.logicalPage)
          ((Ems.flushHandle state handle).physicalPages window) =
          (Ems.flushHandle state handle).physicalPages window := by
        refine if_neg fun hdrop => hne (Fin.ext ?_)
        rw [(dosEmsGetHandle_eq_some.1 hholds.2.1).1, hdrop.2.1, hnumber]
      exact (holds_of_handles (hinUse other) hkept).2 hholds

theorem Coherent.guestWrite (h : Coherent state contents) {offset : Fin dosEmsPageSize}
    {value : UInt8} (havoid : (write window offset value).AvoidsStale state) :
    Coherent (guestWrite state window offset value)
      ((write window offset value).contents state contents) := by
  constructor
  · intro other slot page hholds i hi
    have hbefore : Holds state other slot page := hholds
    change (state.frame.store (pageStart window + offset) value) (pageStart other + i) = _
    by_cases hother : other = window
    · subst hother
      by_cases hoffset : i = offset
      · subst hoffset
        rw [ByteMemory.store_same]
        exact (if_pos ⟨hbefore, rfl⟩).symm
      · rw [ByteMemory.store_other _ _ (by lia)]
        refine (h.windows other slot page hbefore i hi).trans ?_
        exact (if_neg fun hwritten => hoffset hwritten.2).symm
    · rw [ByteMemory.store_other _ _ (by unfold pageStart dosEmsPageSize at *; lia)]
      by_cases hwritten : Holds state window slot page ∧ i = offset
      · refine Eq.trans ?_ (if_pos hwritten).symm
        rw [hwritten.2]
        exact havoid slot page hwritten.1 other hother hbefore
      · refine (h.windows other slot page hbefore i hi).trans ?_
        exact (if_neg hwritten).symm
  · intro slot page hpage hunheld i hi
    have hunheld' : ∀ other, ¬ Holds state other slot page := hunheld
    refine (h.buffers slot page hpage hunheld' i hi).trans ?_
    exact (if_neg fun hwritten => hunheld' window hwritten.1).symm

end Coherence

/-! ## Whole runs -/

/-- The driver and the logical pages as the guest means them. -/
structure EmsWorld where
  state : DosEmsState
  contents : EmsContents

variable (world : EmsWorld) (event : EmsEvent)

def EmsWorld.after : EmsWorld :=
  ⟨(event.outcome world.state).state, event.contents world.state world.contents⟩

def EmsWorldStep (world' : EmsWorld) : Prop :=
  world' = world.after event

/-- A step that copies no stale page and stores through no stale window. -/
def EmsFreshStep (world' : EmsWorld) : Prop :=
  event.AvoidsStale world.state ∧ EmsWorldStep world event world'

theorem EmsEvent.outcome_coherent {state : DosEmsState} {contents : EmsContents}
    (hinv : EmsInvariant state) (h : Coherent state contents) (event : EmsEvent)
    (havoid : event.AvoidsStale state) :
    Coherent (event.outcome state).state (event.contents state contents) := by
  cases event with
  | allocate pages buffer => exact h.allocatePages hinv pages buffer
  | map physicalPage logicalPage handle =>
    by_cases hphysical : physicalPage.toNat < dosEmsPhysicalPages
    · have hready : ∀ slot, dosEmsGetHandle state handle = some slot →
          logicalPage < (state.handles slot).pages →
          Holds state ⟨physicalPage.toNat, hphysical⟩ slot logicalPage.toNat ∨
            Fresh state contents slot logicalPage.toNat := by
        intro slot hslot hpage
        refine (havoid ⟨physicalPage.toNat, hphysical⟩ slot rfl hslot hpage).imp_right ?_
        exact h.fresh_of_inSync (lt_iff_toNat_lt.1 hpage)
      exact (h.mapPage hinv rfl hready).1.coherent
    · have hrefused : dosEmsMapPage state physicalPage logicalPage handle =
          .refuse state .invalidPhysicalPage := dif_neg hphysical
      change Coherent (dosEmsMapPage state physicalPage logicalPage handle).state contents
      rw [hrefused]
      exact h
  | deallocate handle => exact h.deallocatePages handle
  | reallocate handle newPages buffer => exact h.reallocatePages hinv handle newPages buffer
  | save handle => exact h.savePageMap handle
  | restore handle => exact h.restorePageMap hinv havoid
  | write window offset value => exact h.guestWrite havoid

theorem dosEmsInitialize_coherent (raw : DosEmsState) (frameSegment totalPages : UInt16)
    (frame : ByteMemory) (hasAllocate : Bool) (contents : EmsContents) :
    Coherent (dosEmsInitialize raw frameSegment totalPages frame hasAllocate) contents := by
  constructor
  · intro window slot page hholds
    exact Bool.noConfusion hholds.1
  · intro slot page hpage
    exact absurd hpage (Nat.not_lt_zero page)

/-- In every run whose events avoid stale pages, a window that holds a logical page shows
the bytes the guest last stored in the page through any window, and the hook's bytes
where it stored none; a page no window holds has them in its buffer. -/
theorem ems_windows_coherent {raw : DosEmsState} {frameSegment totalPages : UInt16}
    {frame : ByteMemory} {hasAllocate : Bool} {contents : EmsContents}
    {events : List EmsEvent} {world : EmsWorld}
    (hrun : Run EmsFreshStep
      ⟨dosEmsInitialize raw frameSegment totalPages frame hasAllocate, contents⟩ events world) :
    (∀ window slot page, Holds world.state window slot page →
      ∀ i < dosEmsPageSize,
        windowByte world.state window i = world.contents slot page i) ∧
    ∀ slot page, page < (world.state.handles slot).pages.toNat →
      (∀ window, ¬ Holds world.state window slot page) →
      ∀ i < dosEmsPageSize,
        bufferByte world.state slot page i = world.contents slot page i := by
  have hworld : EmsInvariant world.state ∧ Coherent world.state world.contents := by
    apply hrun.invariant
      (fun world => EmsInvariant world.state ∧ Coherent world.state world.contents)
    · rintro world event world' ⟨hinv, hcoherent⟩ ⟨havoid, rfl⟩
      exact ⟨(event.outcome_keeps hinv).invariant, event.outcome_coherent hinv hcoherent havoid⟩
    · exact ⟨dosEmsInitialize_invariant raw frameSegment totalPages frame hasAllocate,
        dosEmsInitialize_coherent raw frameSegment totalPages frame hasAllocate contents⟩
  exact ⟨hworld.2.windows, hworld.2.buffers⟩

section Examples

def firstWindow : Fin dosEmsPhysicalPages := ⟨0, by decide⟩
def secondWindow : Fin dosEmsPhysicalPages := ⟨1, by decide⟩
def firstHandle : Fin dosEmsMaxHandles := ⟨0, by decide⟩
def firstByte : Fin dosEmsPageSize := ⟨0, by decide⟩

/-- A handle of two pages, allocated with a zeroed buffer. -/
def worldWithHandle : EmsWorld :=
  EmsWorld.after ⟨zeroedDriver, fun _ _ _ => 0⟩ (.allocate 2 (some fun _ => 0))

/-- Its page 0 mapped into window 0, where the guest stores 7. -/
def worldMapped : EmsWorld := worldWithHandle.after (.map 0 0 0)

def worldWritten : EmsWorld := worldMapped.after (.write firstWindow firstByte 7)

theorem ems_windows_coherent_one_window : windowByte worldWritten.state firstWindow 0 = 7 := by
  have hunmapped : ∀ window, (worldWithHandle.state.physicalPages window).isMapped = false := by
    decide
  have halone : ∀ window, window ≠ firstWindow →
      (worldMapped.state.physicalPages window).isMapped = false := by decide
  have hallocate : EmsFreshStep ⟨zeroedDriver, fun _ _ _ => 0⟩ (.allocate 2 (some fun _ => 0))
      worldWithHandle := ⟨trivial, rfl⟩
  have hmap : EmsFreshStep worldWithHandle (.map 0 0 0) worldMapped := by
    refine ⟨fun window slot _ _ _ => .inr fun other hholds => ?_, rfl⟩
    have hmapped := hholds.1
    rw [hunmapped] at hmapped
    cases hmapped
  have hwrite : EmsFreshStep worldMapped (.write firstWindow firstByte 7) worldWritten := by
    refine ⟨fun slot page _ other hne hholds => ?_, rfl⟩
    have hmapped := hholds.1
    rw [halone other hne] at hmapped
    cases hmapped
  have hrun := ((Run.single hallocate).snoc hmap).snoc hwrite
  have hholds : Holds worldWritten.state firstWindow firstHandle 0 := by decide
  have hcontents : worldWritten.contents firstHandle 0 0 = 7 := by decide
  rw [← hcontents]
  exact (ems_windows_coherent hrun).1 firstWindow firstHandle 0 hholds 0 (by decide)

theorem run_after (events : List EmsEvent) (world : EmsWorld) :
    Run EmsWorldStep world events (events.foldl EmsWorld.after world) := by
  induction events using List.reverseRecOn with
  | nil => exact .nil world
  | append_singleton events event ih =>
    rw [foldl_append]
    exact ih.snoc rfl

def exchangedPages : List EmsEvent :=
  [.allocate 2 (some fun _ => 0), .map 0 0 0, .map 1 1 0, .save 0,
    .map 0 dosEmsUnmapLogicalPage 0, .map 1 dosEmsUnmapLogicalPage 0, .map 0 1 0, .map 1 0 0,
    .write secondWindow firstByte 7, .restore 0]

/-- Window 0 gets page 0 back from its buffer while the page is live in window 1: the
stored 7 is not shown. -/
theorem ems_windows_not_always_coherent :
    ¬ ∀ events world, Run EmsWorldStep ⟨zeroedDriver, fun _ _ _ => 0⟩ events world →
      ∀ window slot page, Holds world.state window slot page →
        ∀ i < dosEmsPageSize,
          windowByte world.state window i = world.contents slot page i := by
  intro hcoherent
  have hshown := hcoherent _ _ (run_after exchangedPages _) firstWindow firstHandle 0
    (by decide +kernel) 0 (by decide)
  have hstored : (exchangedPages.foldl EmsWorld.after
      ⟨zeroedDriver, fun _ _ _ => 0⟩).contents firstHandle 0 0 = 7 := by decide
  have hstale : windowByte (exchangedPages.foldl EmsWorld.after
      ⟨zeroedDriver, fun _ _ _ => 0⟩).state firstWindow 0 = 0 := by decide +kernel
  rw [hstored, hstale] at hshown
  exact absurd hshown (by decide)

end Examples

end Ntvdmex.Dos.Ems
