import Ntvdmex.Dos.Proofs.Ems.Services
import Ntvdmex.Foundation.Runs

/-!
# EMS page accounting over whole runs

The pages in use are the sum over the handles, every mapped window names a page
of a handle in use, and a refused call changes nothing that can be seen through
a window or, for a page no window holds, in its buffer.
-/

namespace Ntvdmex.Dos.Ems

open Foundation DosEmsHandle UInt16 Option

/-! ## The invariant -/

def DosEmsHandle.heldPages (entry : DosEmsHandle) : Nat :=
  if entry.inUse then entry.pages.toNat else 0

structure SlotInvariant (entry : DosEmsHandle) : Prop where
  unused : entry.inUse = false → entry.pages = 0 ∧ entry.isMapSaved = false
  backed : entry.memory = none ↔ entry.pages = 0

def ValidMapping (state : DosEmsState) (mapping : DosEmsWindowMapping) : Prop :=
  mapping.isMapped = true →
    ∃ slot, dosEmsGetHandle state mapping.handle = some slot ∧
      mapping.logicalPage < (state.handles slot).pages

structure EmsInvariant (state : DosEmsState) : Prop where
  used_eq : tableSum DosEmsHandle.heldPages state.handles = state.usedPages.toNat
  used_le : state.usedPages ≤ state.totalPages
  slots : ∀ slot, SlotInvariant (state.handles slot)
  windows : ∀ window, ValidMapping state (state.physicalPages window)

theorem dosEmsInitialize_invariant (state : DosEmsState) (frameSegment totalPages : UInt16)
    (frame : ByteMemory) (hasAllocate : Bool) :
    EmsInvariant (dosEmsInitialize state frameSegment totalPages frame hasAllocate) where
  used_eq := tableSum_of_zero fun _ => rfl
  used_le := le_iff_toNat_le.2 (Nat.zero_le _)
  slots := fun _ => ⟨fun _ => ⟨rfl, rfl⟩, by simp [dosEmsInitialize, dosEmsClearHandleName]⟩
  windows := fun _ hmapped => Bool.noConfusion hmapped

theorem SameShape.slotInvariant {entry entry' : DosEmsHandle} (h : SameShape entry entry')
    (hslot : SlotInvariant entry) : SlotInvariant entry' where
  unused := by
    rw [h.inUse, h.pages, h.isMapSaved]
    exact hslot.unused
  backed := by
    rw [h.pages, ← not_isSome_iff_eq_none, h.memory, not_isSome_iff_eq_none]
    exact hslot.backed

theorem SameShape.heldPages {entry entry' : DosEmsHandle} (h : SameShape entry entry') :
    entry'.heldPages = entry.heldPages := by
  unfold DosEmsHandle.heldPages
  rw [h.inUse, h.pages]

theorem OnlyBytesDiffer.validMapping {state state' : DosEmsState}
    (h : OnlyBytesDiffer state state') {mapping : DosEmsWindowMapping}
    (hmapping : ValidMapping state mapping) : ValidMapping state' mapping := by
  intro hmapped
  obtain ⟨slot, hslot, hpage⟩ := hmapping hmapped
  refine ⟨slot, (h.getHandle _).trans hslot, ?_⟩
  rwa [(h.handles slot).pages]

theorem OnlyBytesDiffer.invariant {state state' : DosEmsState}
    (h : OnlyBytesDiffer state state') (hinv : EmsInvariant state) : EmsInvariant state' where
  used_eq := by
    have hsum : tableSum heldPages state'.handles =
        tableSum heldPages state.handles :=
      Finset.sum_congr rfl fun slot _ => (h.handles slot).heldPages
    rw [hsum, h.used]
    exact hinv.used_eq
  used_le := by
    rw [h.used, h.total]
    exact hinv.used_le
  slots := fun slot => (h.handles slot).slotInvariant (hinv.slots slot)
  windows := fun window => by
    rw [h.windows]
    exact h.validMapping (hinv.windows window)

namespace EmsInvariant

variable {state : DosEmsState} {slot : Fin dosEmsMaxHandles} {entry : DosEmsHandle}
  {usedPages : UInt16}

/-- Rewriting one slot and the used count keeps the invariant when the count moves with
the slot and every window still names a page. -/
theorem update (h : EmsInvariant state)
    (hused : usedPages.toNat + (state.handles slot).heldPages =
      state.usedPages.toNat + entry.heldPages)
    (hle : usedPages ≤ state.totalPages) (hslot : SlotInvariant entry)
    (hwindows : ∀ window,
      ValidMapping (setHandle state slot entry) (state.physicalPages window)) :
    EmsInvariant { setHandle state slot entry with usedPages } where
  used_eq := by
    have hsum := tableSum_update heldPages state.handles slot entry
    have hbefore := h.used_eq
    unfold setHandle
    lia
  used_le := hle
  slots := forall_update h.slots hslot
  windows := hwindows

theorem setWindow (h : EmsInvariant state) {window : Fin dosEmsPhysicalPages}
    {mapping : DosEmsWindowMapping} (hmapping : ValidMapping state mapping) :
    EmsInvariant (setWindow state window mapping) where
  used_eq := h.used_eq
  used_le := h.used_le
  slots := h.slots
  windows := forall_update h.windows hmapping

theorem dropWindow (h : EmsInvariant state) (window : Fin dosEmsPhysicalPages) :
    EmsInvariant (dropWindow state window) :=
  h.setWindow fun hmapped => Bool.noConfusion hmapped

theorem setFrame (h : EmsInvariant state) (frame : ByteMemory) :
    EmsInvariant { state with frame } :=
  ⟨h.used_eq, h.used_le, h.slots, h.windows⟩

theorem heldPages_le (h : EmsInvariant state) (slot : Fin dosEmsMaxHandles) :
    (state.handles slot).heldPages ≤ state.usedPages.toNat := by
  rw [← h.used_eq]
  exact size_le_tableSum _ _ _

theorem heldPages_eq (h : EmsInvariant state) (slot : Fin dosEmsMaxHandles) :
    (state.handles slot).heldPages = (state.handles slot).pages.toNat := by
  unfold heldPages
  by_cases huse : (state.handles slot).inUse = true
  · rw [if_pos huse]
  · rw [if_neg huse, ((h.slots slot).unused (Bool.eq_false_iff.2 huse)).1]
    rfl

end EmsInvariant

def visibleByte (state : DosEmsState) (slot : Fin dosEmsMaxHandles) (page i : Nat) : UInt8 :=
  match firstSlot fun window => decide (Holds state window slot page) with
  | some window => windowByte state window i
  | none => bufferByte state slot page i

/-- The table, the windows, the frame and what can be seen of every page are the same. -/
structure Unchanged (state state' : DosEmsState) : Prop where
  table : OnlyBytesDiffer state state'
  visible : ∀ slot page, ∀ i < dosEmsPageSize,
    visibleByte state' slot page i = visibleByte state slot page i

theorem Unchanged.refl (state : DosEmsState) : Unchanged state state :=
  ⟨.refl state, fun _ _ _ _ => rfl⟩

/-- Buffers may change where a window holds the page. -/
theorem OnlyBytesDiffer.unchanged {state state' : DosEmsState}
    (h : OnlyBytesDiffer state state')
    (hbytes : ∀ slot page, ∀ i < dosEmsPageSize, (∀ window, ¬ Holds state window slot page) →
      bufferByte state' slot page i = bufferByte state slot page i) :
    Unchanged state state' := by
  refine ⟨h, fun slot page i hi => ?_⟩
  unfold visibleByte
  simp only [h.holds_iff]
  cases hwindow : firstSlot fun window => decide (Holds state window slot page) with
  | some window => exact h.windowByte_eq window i
  | none =>
    apply hbytes slot page i hi
    intro window
    simpa using firstSlot_none hwindow window

theorem foldl_writeBack_other {slot : Fin dosEmsMaxHandles} {page i : Nat}
    (hi : i < dosEmsPageSize) (handle : UInt16) (xs : List (Fin dosEmsPhysicalPages))
    (state : DosEmsState) (h : ∀ window, ¬ Holds state window slot page) :
    bufferByte (xs.foldl (flushStep handle) state) slot page i = bufferByte state slot page i := by
  induction xs generalizing state with
  | nil => rfl
  | cons window xs ih =>
    have hstep := flushStep_onlyBytes handle state window
    rw [List.foldl_cons, ih _ fun window' => by rw [hstep.holds_iff]; exact h window']
    unfold flushStep
    split
    · exact bufferByte_writeBack_other hi (h window)
    · rfl

theorem flushHandle_unchanged (state : DosEmsState) (handle : UInt16) :
    Unchanged state (flushHandle state handle) :=
  (flushHandle_onlyBytes state handle).unchanged fun _ _ _ hi h =>
    foldl_writeBack_other hi handle windows state h

/-! ## What each service keeps -/

/-- The invariant holds behind the call, and a refused call changes nothing. -/
structure KeepsEms {α : Type} (state : DosEmsState) (outcome : EmsOutcome α) : Prop where
  invariant : EmsInvariant outcome.state
  total_eq : outcome.state.totalPages = state.totalPages
  refused : ∀ error, outcome.result = .error error → Unchanged state outcome.state

section Services

variable {state : DosEmsState}

theorem KeepsEms.refuse {α : Type} (h : EmsInvariant state) (error : DosEmsError) :
    KeepsEms state (.refuse state error : EmsOutcome α) :=
  ⟨h, rfl, fun _ _ => .refl state⟩

theorem KeepsEms.succeed {α : Type} {state' : DosEmsState} {value : α}
    (h : EmsInvariant state') (htotal : state'.totalPages = state.totalPages) :
    KeepsEms state (⟨state', .ok value⟩ : EmsOutcome α) :=
  ⟨h, htotal, fun _ herror => by cases herror⟩

variable {mapping : DosEmsWindowMapping}

/-- Rewriting a slot leaves the mappings of the other handles valid. -/
theorem ValidMapping.setHandle_of_ne {slot : Fin dosEmsMaxHandles} {entry : DosEmsHandle}
    (h : ValidMapping state mapping)
    (hne : mapping.isMapped = true → slot.val ≠ mapping.handle.toNat) :
    ValidMapping (setHandle state slot entry) mapping := by
  intro hmapped
  obtain ⟨other, hslot, hpage⟩ := h hmapped
  obtain ⟨hval, huse⟩ := dosEmsGetHandle_eq_some.1 hslot
  have hother : other ≠ slot := by
    rintro rfl
    exact hne hmapped hval
  have hkept : (setHandle state slot entry).handles other = state.handles other :=
    Function.update_of_ne hother _ _
  refine ⟨other, dosEmsGetHandle_eq_some.2 ⟨hval, ?_⟩, ?_⟩
  · rwa [hkept]
  · rwa [hkept]

/-- Rewriting a slot that stays in use leaves the mappings valid that name a page it
still has. -/
theorem ValidMapping.setHandle_of_pages {slot : Fin dosEmsMaxHandles} {entry : DosEmsHandle}
    (h : ValidMapping state mapping) (huse : entry.inUse = true)
    (hpages : mapping.isMapped = true → slot.val = mapping.handle.toNat →
      mapping.logicalPage < entry.pages) :
    ValidMapping (setHandle state slot entry) mapping := by
  by_cases hslot : slot.val = mapping.handle.toNat
  · intro hmapped
    have hself : (setHandle state slot entry).handles slot = entry := Function.update_self _ _ _
    refine ⟨slot, dosEmsGetHandle_eq_some.2 ⟨hslot, ?_⟩, ?_⟩
    · rwa [hself]
    · rw [hself]
      exact hpages hmapped hslot
  · exact h.setHandle_of_ne fun _ => hslot

variable (h : EmsInvariant state)

include h

theorem dosEmsAllocatePages_keeps (pages : UInt16) (buffer : Option ByteMemory) :
    KeepsEms state (dosEmsAllocatePages state pages buffer) := by
  obtain ⟨error, hrefused⟩ | ⟨slot, memory, hpages, hquota, hunused, -, hdone⟩ :=
    dosEmsAllocatePages_cases state pages buffer
  · rw [hrefused]
    exact .refuse h error
  rw [hdone]
  have hheld : (state.handles slot).heldPages = 0 := by
    unfold heldPages
    rw [if_neg (by rw [hunused]; exact Bool.false_ne_true)]
  have htotal := state.totalPages.toNat_lt
  have hsum : (state.usedPages + pages).toNat = state.usedPages.toNat + pages.toNat := by
    rw [UInt16.toNat_add]
    exact Nat.mod_eq_of_lt (by omega)
  refine .succeed (h.update ?_ ?_ ?_ ?_) rfl
  · rw [hsum, hheld]
    rfl
  · rw [le_iff_toNat_le, hsum]
    exact hquota
  · refine ⟨fun hfree => Bool.noConfusion hfree, ?_⟩
    exact ⟨fun hnone => absurd hnone (some_ne_none memory), fun hzero => absurd hzero hpages⟩
  · intro window
    refine (h.windows window).setHandle_of_ne fun hmapped hslot => ?_
    obtain ⟨other, hother, -⟩ := h.windows window hmapped
    obtain ⟨hval, huse⟩ := dosEmsGetHandle_eq_some.1 hother
    have heq : other = slot := Fin.ext (hval.trans hslot.symm)
    rw [heq, hunused] at huse
    cases huse

variable (window : Fin dosEmsPhysicalPages)

theorem writeBack_invariant : EmsInvariant (dosEmsWriteBackWindow state window) :=
  (dosEmsWriteBackWindow_onlyBytes state window).invariant h

theorem writeBack_dropWindow_invariant :
    EmsInvariant (dropWindow (dosEmsWriteBackWindow state window) window) :=
  (writeBack_invariant h window).dropWindow window

theorem dosEmsMapPage_keeps (physicalPage : UInt8) (logicalPage handle : UInt16) :
    KeepsEms state (dosEmsMapPage state physicalPage logicalPage handle) := by
  obtain ⟨error, hrefused, -⟩ | ⟨window, slot, -, -, -, hunmapped⟩ |
      ⟨window, slot, -, hslot, -, hpage, hloaded⟩ :=
    dosEmsMapPage_cases state physicalPage logicalPage handle
  · rw [hrefused]
    exact .refuse h error
  · rw [hunmapped]
    exact .succeed (writeBack_dropWindow_invariant h window)
      (dosEmsWriteBackWindow_onlyBytes state window).total
  · have hbytes := dosEmsWriteBackWindow_onlyBytes state window
    have hwritten := writeBack_invariant h window
    obtain ⟨-, hnothing⟩ | ⟨memory, -, hdone⟩ := hloaded
    · rw [hnothing]
      exact .succeed hwritten hbytes.total
    · rw [hdone]
      refine .succeed ((hwritten.setFrame _).setWindow ?_) hbytes.total
      intro _
      refine ⟨slot, (hbytes.getHandle handle).trans hslot, ?_⟩
      rwa [(hbytes.handles slot).pages]

theorem dosEmsDeallocatePages_keeps (handle : UInt16) :
    KeepsEms state (dosEmsDeallocatePages state handle) := by
  obtain ⟨error, hrefused⟩ | ⟨slot, hslot, hdone⟩ :=
    dosEmsDeallocatePages_cases state handle
  · rw [hrefused]
    exact .refuse h error
  rw [hdone]
  have hheld := h.heldPages_le slot
  rw [h.heldPages_eq] at hheld
  have hle := le_iff_toNat_le.1 h.used_le
  have hused : (state.usedPages - (state.handles slot).pages).toNat =
      state.usedPages.toNat - (state.handles slot).pages.toNat :=
    UInt16.toNat_sub_of_le _ _ (le_iff_toNat_le.2 hheld)
  have hdropped : EmsInvariant
      { state with
        physicalPages := fun window =>
          dropIf (fun mapping => mapping.isMapped ∧ mapping.handle = handle)
            (state.physicalPages window) } := by
    refine ⟨h.used_eq, h.used_le, h.slots, fun window hmapped => ?_⟩
    obtain ⟨hsame, -⟩ := dropIf_isMapped hmapped
    dsimp only at hmapped ⊢
    rw [hsame] at hmapped ⊢
    exact h.windows window hmapped
  refine .succeed (hdropped.update ?_ ?_ ?_ ?_) rfl
  · have hzero : (releasedHandle (state.handles slot)).heldPages = 0 := rfl
    rw [hused, h.heldPages_eq, hzero]
    lia
  · rw [le_iff_toNat_le, hused]
    lia
  · exact ⟨fun _ => ⟨rfl, rfl⟩, ⟨fun _ => rfl, fun _ => rfl⟩⟩
  · intro window
    refine (hdropped.windows window).setHandle_of_ne fun hmapped hval => ?_
    obtain ⟨hsame, hkept⟩ := dropIf_isMapped hmapped
    dsimp only at hmapped hval
    rw [hsame] at hmapped hval
    have hhandle := (dosEmsGetHandle_eq_some.1 hslot).1
    exact hkept ⟨hmapped, UInt16.toNat_inj.1 (hval.symm.trans hhandle)⟩

omit h

theorem reallocatedMemory_eq_none_iff {entry : DosEmsHandle} {newPages : UInt16}
    {answer : Option ByteMemory} (hhook : ¬ (0 < newPages ∧ answer = none)) :
    reallocatedMemory entry newPages answer = none ↔ newPages = 0 := by
  unfold reallocatedMemory
  by_cases hpos : 0 < newPages
  · rw [if_pos hpos, map_eq_none_iff]
    constructor
    · intro hnone
      exact absurd ⟨hpos, hnone⟩ hhook
    · rintro rfl
      exact absurd hpos (UInt16.lt_irrefl 0)
  · rw [if_neg hpos]
    refine ⟨fun _ => ?_, fun _ => rfl⟩
    have hzero := lt_iff_toNat_lt.not.1 hpos
    rw [UInt16.toNat_zero] at hzero
    exact UInt16.toNat_inj.1 (by rw [UInt16.toNat_zero]; omega)

variable (h : EmsInvariant state)

include h

theorem dosEmsReallocatePages_keeps (handle newPages : UInt16) (buffer : Option ByteMemory) :
    KeepsEms state (dosEmsReallocatePages state handle newPages buffer) := by
  have hflush := flushHandle_onlyBytes state handle
  have hflushed := hflush.invariant h
  obtain ⟨error, hrefused⟩ | hsame | ⟨-, error, -, hfailed⟩ | ⟨slot, hslot, hquota, hhook, hdone⟩ :=
    dosEmsReallocatePages_cases state handle newPages buffer
  · rw [hrefused]
    exact .refuse h error
  · rw [hsame]
    exact .succeed h rfl
  · rw [hfailed]
    exact ⟨hflushed, hflush.total, fun _ _ => flushHandle_unchanged state handle⟩
  rw [hdone]
  rw [← (hflush.handles slot).pages, ← hflush.total, ← hflush.used] at hquota
  rw [← hflush.getHandle] at hslot
  generalize flushHandle state handle = flushed at *
  have huse := (dosEmsGetHandle_eq_some.1 hslot).2
  have hheld := hflushed.heldPages_le slot
  rw [hflushed.heldPages_eq] at hheld
  have hle := le_iff_toNat_le.1 hflushed.used_le
  have htotal := flushed.totalPages.toNat_lt
  have hsum : flushed.usedPages.toNat - (flushed.handles slot).pages.toNat + newPages.toNat ≤
      flushed.totalPages.toNat := by
    by_cases hgrow : (flushed.handles slot).pages < newPages
    · have hfits : ¬ ((flushed.totalPages.toNat : Int) <
          flushed.usedPages.toNat - (flushed.handles slot).pages.toNat + newPages.toNat) :=
        fun hlt => hquota ⟨hgrow, hlt⟩
      omega
    · have hshrink := le_iff_toNat_le.1 (UInt16.not_lt.1 hgrow)
      omega
  have hused : (flushed.usedPages - (flushed.handles slot).pages + newPages).toNat =
      flushed.usedPages.toNat - (flushed.handles slot).pages.toNat + newPages.toNat := by
    rw [UInt16.toNat_add, UInt16.toNat_sub_of_le _ _ (le_iff_toNat_le.2 hheld)]
    exact Nat.mod_eq_of_lt (by omega)
  have hdropped : EmsInvariant
      { flushed with
        physicalPages := fun window =>
          dropIf (fun mapping => mapping.isMapped ∧ mapping.handle = handle ∧
            newPages ≤ mapping.logicalPage) (flushed.physicalPages window) } := by
    refine ⟨hflushed.used_eq, hflushed.used_le, hflushed.slots, fun window hmapped => ?_⟩
    obtain ⟨hsame, -⟩ := dropIf_isMapped hmapped
    dsimp only at hmapped ⊢
    rw [hsame] at hmapped ⊢
    exact hflushed.windows window hmapped
  refine .succeed (hdropped.update ?_ ?_ ?_ ?_) hflush.total
  · have hnew : ∀ memory, ({ flushed.handles slot with
        memory, pages := newPages } : DosEmsHandle).heldPages = newPages.toNat :=
      fun _ => if_pos huse
    dsimp only
    rw [hused, hflushed.heldPages_eq, hnew]
    omega
  · rw [le_iff_toNat_le, hused]
    exact hsum
  · refine ⟨fun hfree => ?_, ?_⟩
    · rw [huse] at hfree
      cases hfree
    · exact reallocatedMemory_eq_none_iff hhook
  · intro window
    refine (hdropped.windows window).setHandle_of_pages huse fun hmapped hval => ?_
    obtain ⟨hsame, hkept⟩ := dropIf_isMapped hmapped
    dsimp only at hmapped hval ⊢
    rw [hsame] at hmapped hval ⊢
    have hhandle := (dosEmsGetHandle_eq_some.1 hslot).1
    apply UInt16.not_le.1
    intro hpast
    exact hkept ⟨hmapped, UInt16.toNat_inj.1 (hval.symm.trans hhandle), hpast⟩

theorem EmsInvariant.setSaved {handle : UInt16} {slot : Fin dosEmsMaxHandles}
    (hslot : dosEmsGetHandle state handle = some slot)
    (savedMap : Fin dosEmsPhysicalPages → DosEmsWindowMapping) (isMapSaved : Bool) : EmsInvariant
      (setHandle state slot
        { state.handles slot with savedMap, isMapSaved }) := by
  have huse := (dosEmsGetHandle_eq_some.1 hslot).2
  refine h.update rfl h.used_le ?_ fun window => ?_
  · refine ⟨fun hfree => ?_, (h.slots slot).backed⟩
    rw [huse] at hfree
    cases hfree
  · refine (h.windows window).setHandle_of_pages huse fun hmapped hval => ?_
    obtain ⟨other, hother, hpage⟩ := h.windows window hmapped
    have heq : other = slot := Fin.ext ((dosEmsGetHandle_eq_some.1 hother).1.trans hval.symm)
    rwa [heq] at hpage

theorem dosEmsSavePageMap_keeps (handle : UInt16) :
    KeepsEms state (dosEmsSavePageMap state handle) := by
  obtain ⟨error, hrefused⟩ | ⟨slot, hslot, hdone⟩ := dosEmsSavePageMap_cases state handle
  · rw [hrefused]
    exact .refuse h error
  rw [hdone]
  exact .succeed (h.setSaved hslot _ _) rfl

theorem restoreWindow_invariant (saved : DosEmsWindowMapping) :
    EmsInvariant (restoreWindow state window saved) ∧
      (restoreWindow state window saved).totalPages = state.totalPages := by
  unfold restoreWindow
  split
  · have hkeeps := dosEmsMapPage_keeps h (UInt8.ofNat window) saved.logicalPage saved.handle
    exact ⟨hkeeps.invariant, hkeeps.total_eq⟩
  · exact ⟨writeBack_dropWindow_invariant h window,
      (dosEmsWriteBackWindow_onlyBytes state window).total⟩

omit h

theorem restoreWindows_inUse (state : DosEmsState) (xs : List (Fin dosEmsPhysicalPages))
    (savedMap : Fin dosEmsPhysicalPages → DosEmsWindowMapping) (slot : Fin dosEmsMaxHandles) :
    ((restoreWindows state xs savedMap).handles slot).inUse = (state.handles slot).inUse := by
  unfold restoreWindows
  induction xs generalizing state with
  | nil => rfl
  | cons window xs ih =>
    rw [List.foldl_cons, ih]
    exact (restoreWindow_handles state window (savedMap window) slot).inUse

theorem restoreWindows_invariant (h : EmsInvariant state)
    (xs : List (Fin dosEmsPhysicalPages))
    (savedMap : Fin dosEmsPhysicalPages → DosEmsWindowMapping) :
    EmsInvariant (restoreWindows state xs savedMap) ∧
      (restoreWindows state xs savedMap).totalPages = state.totalPages := by
  induction xs generalizing state with
  | nil => exact ⟨h, rfl⟩
  | cons window xs ih =>
    obtain ⟨hstep, htotal⟩ := restoreWindow_invariant h window (savedMap window)
    obtain ⟨hrest, hrestTotal⟩ := ih hstep
    exact ⟨hrest, hrestTotal.trans htotal⟩

theorem dosEmsRestorePageMap_keeps (h : EmsInvariant state) (handle : UInt16) :
    KeepsEms state (dosEmsRestorePageMap state handle) := by
  obtain ⟨error, hrefused⟩ | ⟨slot, hslot, -, hdone⟩ :=
    dosEmsRestorePageMap_cases state handle
  · rw [hrefused]
    exact .refuse h error
  rw [hdone]
  obtain ⟨hrestored, htotal⟩ :=
    restoreWindows_invariant h windows (state.handles slot).savedMap
  have hslot' : dosEmsGetHandle
      (restoreWindows state windows (state.handles slot).savedMap) handle = some slot := by
    rw [← hslot]
    exact dosEmsGetHandle_congr (restoreWindows_inUse state windows _) handle
  exact .succeed (hrestored.setSaved hslot' _ false) htotal

end Services

/-! ## Whole runs -/

/-- A call of the driver, or a byte the guest stores in the page frame. -/
inductive EmsEvent
  | allocate (pages : UInt16) (buffer : Option ByteMemory)
  | map (physicalPage : UInt8) (logicalPage handle : UInt16)
  | deallocate (handle : UInt16)
  | reallocate (handle newPages : UInt16) (buffer : Option ByteMemory)
  | save (handle : UInt16)
  | restore (handle : UInt16)
  | write (window : Fin dosEmsPhysicalPages) (offset : Fin dosEmsPageSize) (value : UInt8)

def EmsOutcome.withoutResult {α : Type} (outcome : EmsOutcome α) : EmsOutcome Unit :=
  ⟨outcome.state, outcome.result.map fun _ => ()⟩

def EmsEvent.outcome (state : DosEmsState) : EmsEvent → EmsOutcome Unit
  | .allocate pages buffer => (dosEmsAllocatePages state pages buffer).withoutResult
  | .map physicalPage logicalPage handle => dosEmsMapPage state physicalPage logicalPage handle
  | .deallocate handle => dosEmsDeallocatePages state handle
  | .reallocate handle newPages buffer => dosEmsReallocatePages state handle newPages buffer
  | .save handle => dosEmsSavePageMap state handle
  | .restore handle => dosEmsRestorePageMap state handle
  | .write window offset value => ⟨guestWrite state window offset value, .ok ()⟩

def EmsStep (state : DosEmsState) (event : EmsEvent) (state' : DosEmsState) : Prop :=
  state' = (event.outcome state).state

theorem KeepsEms.withoutResult {α : Type} {state : DosEmsState} {outcome : EmsOutcome α}
    (h : KeepsEms state outcome) : KeepsEms state outcome.withoutResult where
  invariant := h.invariant
  total_eq := h.total_eq
  refused := by
    intro error herror
    unfold EmsOutcome.withoutResult at herror
    cases hresult : outcome.result with
    | error e => exact h.refused e hresult
    | ok value =>
      rw [hresult] at herror
      cases herror

theorem EmsEvent.outcome_keeps {state : DosEmsState} (h : EmsInvariant state)
    (event : EmsEvent) : KeepsEms state (event.outcome state) := by
  cases event with
  | allocate pages buffer => exact (dosEmsAllocatePages_keeps h pages buffer).withoutResult
  | map physicalPage logicalPage handle =>
    exact dosEmsMapPage_keeps h physicalPage logicalPage handle
  | deallocate handle => exact dosEmsDeallocatePages_keeps h handle
  | reallocate handle newPages buffer =>
    exact dosEmsReallocatePages_keeps h handle newPages buffer
  | save handle => exact dosEmsSavePageMap_keeps h handle
  | restore handle => exact dosEmsRestorePageMap_keeps h handle
  | write window offset value => exact .succeed (h.setFrame _) rfl

theorem run_invariant {totalPages : UInt16} {start state : DosEmsState}
    {events : List EmsEvent} (hstart : EmsInvariant start ∧ start.totalPages = totalPages)
    (hrun : Run EmsStep start events state) :
    EmsInvariant state ∧ state.totalPages = totalPages := by
  apply hrun.invariant (fun state => EmsInvariant state ∧ state.totalPages = totalPages)
  · rintro state event state' ⟨hinvariant, htotal⟩ rfl
    have hkeeps := event.outcome_keeps hinvariant
    exact ⟨hkeeps.invariant, hkeeps.total_eq.trans htotal⟩
  · exact hstart

/-- After every run the used count is the sum over the handles in use and within the pool,
mapped windows name pages of handles in use, unused handles own nothing, and a further
call that fails changes neither the tables nor what can be seen of any page. -/
theorem ems_accounting {raw : DosEmsState} {frameSegment totalPages : UInt16}
    {frame : ByteMemory} {hasAllocate : Bool} {events : List EmsEvent} {state : DosEmsState}
    (hrun : Run EmsStep (dosEmsInitialize raw frameSegment totalPages frame hasAllocate)
      events state) :
    (∑ slot, if (state.handles slot).inUse then (state.handles slot).pages.toNat else 0) =
      state.usedPages.toNat ∧
    state.usedPages ≤ state.totalPages ∧ state.totalPages = totalPages ∧
    (∀ window, (state.physicalPages window).isMapped = true →
      ∃ slot, dosEmsGetHandle state (state.physicalPages window).handle = some slot ∧
        (state.physicalPages window).logicalPage < (state.handles slot).pages) ∧
    (∀ slot, (state.handles slot).inUse = false →
      (state.handles slot).pages = 0 ∧ (state.handles slot).memory = none ∧
      (state.handles slot).isMapSaved = false) ∧
    ∀ (event : EmsEvent) (error : DosEmsError),
      (event.outcome state).result = .error error →
      OnlyBytesDiffer state (event.outcome state).state ∧
      ∀ slot page, ∀ i < dosEmsPageSize,
        visibleByte (event.outcome state).state slot page i = visibleByte state slot page i := by
  obtain ⟨hinvariant, htotal⟩ :=
    run_invariant ⟨dosEmsInitialize_invariant raw frameSegment totalPages frame hasAllocate,
      rfl⟩ hrun
  refine ⟨hinvariant.used_eq, hinvariant.used_le, htotal, hinvariant.windows, ?_, ?_⟩
  · intro slot hunused
    obtain ⟨hpages, hsaved⟩ := (hinvariant.slots slot).unused hunused
    exact ⟨hpages, (hinvariant.slots slot).backed.2 hpages, hsaved⟩
  · intro event error herror
    have hunchanged := (event.outcome_keeps hinvariant).refused error herror
    exact ⟨hunchanged.table, hunchanged.visible⟩

def zeroedDriver : DosEmsState :=
  dosEmsInitialize
    ⟨0, 0, 0, fun _ => ⟨0, 0, false⟩, fun _ => 0,
      fun _ => ⟨false, 0, none, false, fun _ => ⟨0, 0, false⟩, fun _ => 0⟩, true⟩
    0xE000 64 (fun _ => 0) true

theorem ems_accounting_one_handle :
    (∑ slot,
      if (((EmsEvent.allocate 2 (some fun _ => 0)).outcome zeroedDriver).state.handles
        slot).inUse then
        (((EmsEvent.allocate 2 (some fun _ => 0)).outcome zeroedDriver).state.handles
          slot).pages.toNat
      else 0) = 2 := by
  have hstep : EmsStep zeroedDriver (.allocate 2 (some fun _ => 0))
      ((EmsEvent.allocate 2 (some fun _ => 0)).outcome zeroedDriver).state := rfl
  exact (ems_accounting (.single hstep)).1

end Ntvdmex.Dos.Ems
