import Ntvdmex.Dos.Ems

/-!
# Windows, buffers and the EMS services

A write-back changes the bytes of one page in one buffer and nothing else.  The
bytes of a logical page are read either from its buffer or from a window that
holds it.
-/

namespace Ntvdmex.Dos.Ems

open Foundation Function Option List UInt16 DosEmsHandle

/-! ## Reading pages and windows -/

/-- Window `window` holds page `page` of the handle in `slot`. -/
def Holds (state : DosEmsState) (window : Fin dosEmsPhysicalPages)
    (slot : Fin dosEmsMaxHandles) (page : Nat) : Prop :=
  (state.physicalPages window).isMapped = true ∧
    dosEmsGetHandle state (state.physicalPages window).handle = some slot ∧
    (state.physicalPages window).logicalPage.toNat = page
deriving Decidable

theorem Holds.unique {state : DosEmsState} {window : Fin dosEmsPhysicalPages}
    {slot slot' : Fin dosEmsMaxHandles} {page page' : Nat} (h : Holds state window slot page)
    (h' : Holds state window slot' page') : slot = slot' ∧ page = page' :=
  ⟨some.inj (h.2.1.symm.trans h'.2.1), h.2.2.symm.trans h'.2.2⟩

def windowByte (state : DosEmsState) (window : Fin dosEmsPhysicalPages) (i : Nat) : UInt8 :=
  state.frame (pageStart window + i)

def DosEmsHandle.byteOf (entry : DosEmsHandle) (page i : Nat) : UInt8 :=
  (entry.memory.getD fun _ => 0) (pageStart page + i)

def bufferByte (state : DosEmsState) (slot : Fin dosEmsMaxHandles) (page i : Nat) : UInt8 :=
  (state.handles slot).byteOf page i

theorem dosEmsGetHandle_eq_some {state : DosEmsState} {handle : UInt16}
    {slot : Fin dosEmsMaxHandles} :
    dosEmsGetHandle state handle = some slot ↔
      slot.val = handle.toNat ∧ (state.handles slot).inUse = true := by
  unfold dosEmsGetHandle
  constructor
  · intro h
    by_cases hlt : handle.toNat < dosEmsMaxHandles
    · rw [dif_pos hlt, ite_none_right_eq_some] at h
      obtain ⟨huse, hslot⟩ := h
      cases hslot
      exact ⟨rfl, huse⟩
    · rw [dif_neg hlt] at h
      cases h
  · rintro ⟨hslot, huse⟩
    have hlt : handle.toNat < dosEmsMaxHandles := by
      rw [← hslot]
      exact slot.isLt
    have heq : (⟨handle.toNat, hlt⟩ : Fin dosEmsMaxHandles) = slot := Fin.ext hslot.symm
    rw [dif_pos hlt, heq, if_pos huse]

theorem dosEmsGetHandle_congr {state state' : DosEmsState}
    (h : ∀ slot, (state'.handles slot).inUse = (state.handles slot).inUse) (handle : UInt16) :
    dosEmsGetHandle state' handle = dosEmsGetHandle state handle := by
  unfold dosEmsGetHandle
  by_cases hlt : handle.toNat < dosEmsMaxHandles
  · rw [dif_pos hlt, dif_pos hlt, h]
  · rw [dif_neg hlt, dif_neg hlt]

/-! ## States that differ in buffer bytes only -/

/-- Everything of a handle but the bytes of its buffer. -/
structure SameShape (entry entry' : DosEmsHandle) : Prop where
  inUse : entry'.inUse = entry.inUse
  pages : entry'.pages = entry.pages
  memory : entry'.memory.isSome = entry.memory.isSome
  isMapSaved : entry'.isMapSaved = entry.isMapSaved
  savedMap : entry'.savedMap = entry.savedMap
  name : entry'.name = entry.name

theorem SameShape.refl (entry : DosEmsHandle) : SameShape entry entry :=
  ⟨rfl, rfl, rfl, rfl, rfl, rfl⟩

/-- The two states differ at most in the bytes of their buffers. -/
structure OnlyBytesDiffer (state state' : DosEmsState) : Prop where
  total : state'.totalPages = state.totalPages
  used : state'.usedPages = state.usedPages
  windows : state'.physicalPages = state.physicalPages
  frame : state'.frame = state.frame
  allocate : state'.hasAllocate = state.hasAllocate
  handles : ∀ slot, SameShape (state.handles slot) (state'.handles slot)

namespace OnlyBytesDiffer

variable {state state' state'' : DosEmsState}

theorem refl (state : DosEmsState) : OnlyBytesDiffer state state :=
  ⟨rfl, rfl, rfl, rfl, rfl, fun _ => .refl _⟩

section

variable (h : OnlyBytesDiffer state state')

include h

theorem trans (h' : OnlyBytesDiffer state' state'') :
    OnlyBytesDiffer state state'' where
  total := h'.total.trans h.total
  used := h'.used.trans h.used
  windows := h'.windows.trans h.windows
  frame := h'.frame.trans h.frame
  allocate := h'.allocate.trans h.allocate
  handles := fun slot =>
    { inUse := (h'.handles slot).inUse.trans (h.handles slot).inUse
      pages := (h'.handles slot).pages.trans (h.handles slot).pages
      memory := (h'.handles slot).memory.trans (h.handles slot).memory
      isMapSaved := (h'.handles slot).isMapSaved.trans (h.handles slot).isMapSaved
      savedMap := (h'.handles slot).savedMap.trans (h.handles slot).savedMap
      name := (h'.handles slot).name.trans (h.handles slot).name }

theorem getHandle (handle : UInt16) :
    dosEmsGetHandle state' handle = dosEmsGetHandle state handle :=
  dosEmsGetHandle_congr (fun slot => (h.handles slot).inUse) handle

theorem holds_iff (window : Fin dosEmsPhysicalPages)
    (slot : Fin dosEmsMaxHandles) (page : Nat) :
    Holds state' window slot page ↔ Holds state window slot page := by
  unfold Holds
  rw [h.windows, h.getHandle]

theorem windowByte_eq (window : Fin dosEmsPhysicalPages)
    (i : Nat) : windowByte state' window i = windowByte state window i := by
  rw [windowByte, windowByte, h.frame]

end

/-- A loop of steps that change buffer bytes only. -/
theorem foldl {α : Type*} {step : DosEmsState → α → DosEmsState}
    (hstep : ∀ state x, OnlyBytesDiffer state (step state x)) (xs : List α)
    (state : DosEmsState) : OnlyBytesDiffer state (xs.foldl step state) := by
  induction xs generalizing state with
  | nil => exact refl state
  | cons x xs ih => exact (hstep state x).trans (ih _)

end OnlyBytesDiffer

theorem dosEmsWriteBackWindow_cases (state : DosEmsState)
    (window : Fin dosEmsPhysicalPages) :
    (dosEmsWriteBackWindow state window = state ∧
      ∀ slot page, Holds state window slot page →
        (state.handles slot).memory = none ∨ (state.handles slot).pages.toNat ≤ page) ∨
    ∃ slot page memory, Holds state window slot page ∧
      (state.handles slot).memory = some memory ∧
      page < (state.handles slot).pages.toNat ∧
      dosEmsWriteBackWindow state window =
        setHandle state slot
          { state.handles slot with
            memory := some (dosEmsCopyPage memory (pageStart page) state.frame
              (pageStart window)) } := by
  unfold dosEmsWriteBackWindow
  by_cases hmapped : (state.physicalPages window).isMapped = true
  · rw [if_pos hmapped]
    cases hslot : dosEmsGetHandle state (state.physicalPages window).handle with
    | none =>
      refine .inl ⟨rfl, fun slot page hholds => ?_⟩
      have hsome := hholds.2.1
      rw [hslot] at hsome
      cases hsome
    | some slot =>
      dsimp only
      have hholds : Holds state window slot
          (state.physicalPages window).logicalPage.toNat := ⟨hmapped, hslot, rfl⟩
      cases hmemory : (state.handles slot).memory with
      | none =>
        refine .inl ⟨rfl, fun slot' page hholds' => .inl ?_⟩
        rwa [← (hholds.unique hholds').1]
      | some memory =>
        dsimp only
        by_cases hpage : (state.physicalPages window).logicalPage <
            (state.handles slot).pages
        · rw [if_pos hpage]
          exact .inr ⟨slot, _, memory, hholds, hmemory,
            lt_iff_toNat_lt.1 hpage, rfl⟩
        · rw [if_neg hpage]
          refine .inl ⟨rfl, fun slot' page hholds' => .inr ?_⟩
          rw [← (hholds.unique hholds').1, ← (hholds.unique hholds').2]
          exact le_iff_toNat_le.1 (UInt16.not_lt.1 hpage)
  · rw [if_neg hmapped]
    exact .inl ⟨rfl, fun slot page hholds => absurd hholds.1 hmapped⟩

theorem dosEmsWriteBackWindow_onlyBytes (state : DosEmsState)
    (window : Fin dosEmsPhysicalPages) :
    OnlyBytesDiffer state (dosEmsWriteBackWindow state window) := by
  obtain ⟨hsame, -⟩ | ⟨slot, page, memory, -, hmemory, -, hwritten⟩ :=
    dosEmsWriteBackWindow_cases state window
  · rw [hsame]
    exact .refl state
  · rw [hwritten]
    refine ⟨rfl, rfl, rfl, rfl, rfl, fun other => ?_⟩
    unfold setHandle
    dsimp only
    by_cases hother : other = slot
    · subst hother
      rw [update_self]
      exact ⟨rfl, rfl, by rw [hmemory]; rfl, rfl, rfl, rfl⟩
    · rw [update_of_ne hother]
      exact .refl _

section

variable {state : DosEmsState} {window : Fin dosEmsPhysicalPages} {slot : Fin dosEmsMaxHandles}
    {page i : Nat} (hi : i < dosEmsPageSize)

include hi

theorem bufferByte_writeBack_other (h : ¬ Holds state window slot page) :
    bufferByte (dosEmsWriteBackWindow state window) slot page i =
      bufferByte state slot page i := by
  obtain ⟨hsame, -⟩ | ⟨slot', page', memory, hholds, hmemory, -, hwritten⟩ :=
    dosEmsWriteBackWindow_cases state window
  · rw [hsame]
  · rw [hwritten, bufferByte, bufferByte, setHandle]
    dsimp only
    by_cases hslot : slot = slot'
    · subst hslot
      have hpage : page ≠ page' := by
        rintro rfl
        exact h hholds
      rw [update_self, byteOf, byteOf, hmemory]
      dsimp only [getD_some]
      rw [dosEmsCopyPage, ByteMemory.copyFrom_other]
      unfold pageStart dosEmsPageSize at *
      lia
    · rw [update_of_ne hslot]

theorem bufferByte_writeBack_held (h : Holds state window slot page)
    (hmemory : (state.handles slot).memory ≠ none)
    (hpage : page < (state.handles slot).pages.toNat) :
    bufferByte (dosEmsWriteBackWindow state window) slot page i =
      windowByte state window i := by
  obtain ⟨-, hnothing⟩ | ⟨slot', page', memory, hholds, -, -, hwritten⟩ :=
    dosEmsWriteBackWindow_cases state window
  · rcases hnothing slot page h with hnone | hpast
    · exact absurd hnone hmemory
    · omega
  · obtain ⟨rfl, rfl⟩ := hholds.unique h
    rw [hwritten, bufferByte, setHandle]
    dsimp only
    rw [update_self, byteOf]
    dsimp only [getD_some]
    rw [dosEmsCopyPage, ByteMemory.copyFrom_apply _ _ _ hi]
    rfl

end

/-!
## What each EMS service can do

One case lemma for each service: it is refused, or it leaves one explicit state.
-/

/-! ## Dropping windows -/

/-- A mapping after the windows whose mappings satisfy `p` are dropped. -/
def dropIf (p : DosEmsWindowMapping → Prop) [DecidablePred p]
    (mapping : DosEmsWindowMapping) : DosEmsWindowMapping :=
  if p mapping then { mapping with isMapped := false } else mapping

theorem dropIf_isMapped {p : DosEmsWindowMapping → Prop} [DecidablePred p]
    {mapping : DosEmsWindowMapping} (h : (dropIf p mapping).isMapped = true) :
    dropIf p mapping = mapping ∧ ¬ p mapping := by
  unfold dropIf at h ⊢
  by_cases hp : p mapping
  · rw [if_pos hp] at h
    cases h
  · rw [if_neg hp]
    exact ⟨rfl, hp⟩

variable (p : DosEmsWindowMapping → Prop)

theorem foldl_dropWindow [DecidablePred p] (xs : List (Fin dosEmsPhysicalPages))
    (state : DosEmsState) : xs.foldl
        (fun state window =>
          if p (state.physicalPages window) then dropWindow state window else state) state =
      { state with
        physicalPages :=
          xs.foldl (fun table window => Function.update table window (dropIf p (table window)))
            state.physicalPages } := by
  induction xs generalizing state with
  | nil => rfl
  | cons window xs ih =>
    rw [foldl_cons, foldl_cons, ih]
    unfold dropIf
    by_cases hp : p (state.physicalPages window)
    · rw [if_pos hp, if_pos hp]
      rfl
    · rw [if_neg hp, if_neg hp, update_eq_self]

theorem foldl_windows_dropWindow [DecidablePred p] (state : DosEmsState) : windows.foldl
        (fun state window =>
          if p (state.physicalPages window) then dropWindow state window else state) state =
      { state with physicalPages := fun window => dropIf p (state.physicalPages window) } := by
  rw [foldl_dropWindow, windows, foldl_finRange_update]

/-- The loop of `DosEmsReallocatePages` that writes the handle's windows back. -/
def flushHandle (state : DosEmsState) (handle : UInt16) : DosEmsState :=
  windows.foldl
    (fun state window =>
      if (state.physicalPages window).isMapped ∧
          (state.physicalPages window).handle = handle then
        dosEmsWriteBackWindow state window
      else state) state

abbrev flushStep (handle : UInt16) (state : DosEmsState) (window : Fin dosEmsPhysicalPages) :
    DosEmsState :=
  if (state.physicalPages window).isMapped ∧ (state.physicalPages window).handle = handle then
    dosEmsWriteBackWindow state window
  else state

theorem flushStep_onlyBytes (handle : UInt16) (state : DosEmsState)
    (window : Fin dosEmsPhysicalPages) :
    OnlyBytesDiffer state (flushStep handle state window) := by
  unfold flushStep
  split
  · exact dosEmsWriteBackWindow_onlyBytes state window
  · exact .refl state

theorem flushHandle_onlyBytes (state : DosEmsState) (handle : UInt16) :
    OnlyBytesDiffer state (flushHandle state handle) :=
  .foldl (flushStep_onlyBytes handle) windows state

/-! ## The cases of each service -/

section Cases

variable (state : DosEmsState)

theorem dosEmsAllocatePages_cases (pages : UInt16) (buffer : Option ByteMemory) :
    (∃ error, dosEmsAllocatePages state pages buffer = .refuse state error) ∨
    ∃ slot memory, pages ≠ 0 ∧
      state.usedPages.toNat + pages.toNat ≤ state.totalPages.toNat ∧
      (state.handles slot).inUse = false ∧ state.allocateHook buffer = some memory ∧
      dosEmsAllocatePages state pages buffer =
        ⟨{ setHandle state slot
            (dosEmsClearHandleName
              { state.handles slot with
                inUse := true, pages, memory := some memory, isMapSaved := false }) with
            usedPages := state.usedPages + pages },
          .ok (ofNat slot)⟩ := by
  unfold dosEmsAllocatePages
  by_cases hzero : pages = 0
  · rw [if_pos hzero]
    exact .inl ⟨_, rfl⟩
  rw [if_neg hzero]
  by_cases hmany : state.totalPages < pages
  · rw [if_pos hmany]
    exact .inl ⟨_, rfl⟩
  rw [if_neg hmany]
  by_cases hquota : state.totalPages.toNat < state.usedPages.toNat + pages.toNat
  · rw [if_pos hquota]
    exact .inl ⟨_, rfl⟩
  rw [if_neg hquota]
  cases hslot : firstFreeHandle state with
  | none => exact .inl ⟨_, rfl⟩
  | some slot =>
    cases hhook : state.allocateHook buffer with
    | none => exact .inl ⟨_, rfl⟩
    | some memory =>
      have hunused : (state.handles slot).inUse = false := by
        have hfree := firstSlot_some hslot
        simpa using hfree
      exact .inr ⟨slot, memory, hzero, by omega, hunused, rfl, rfl⟩

def loadWindow (window : Fin dosEmsPhysicalPages) (memory : ByteMemory)
    (logicalPage handle : UInt16) : DosEmsState :=
  setWindow
    { state with
      frame := dosEmsCopyPage state.frame (pageStart window) memory
        (pageStart logicalPage.toNat) }
    window ⟨handle, logicalPage, true⟩

theorem dosEmsMapPage_cases (physicalPage : UInt8) (logicalPage handle : UInt16) :
    (∃ error, dosEmsMapPage state physicalPage logicalPage handle = .refuse state error ∧
      (dosEmsPhysicalPages ≤ physicalPage.toNat ∨ dosEmsGetHandle state handle = none ∨
        ∃ slot, dosEmsGetHandle state handle = some slot ∧
          (state.handles slot).pages ≤ logicalPage ∧
          logicalPage ≠ dosEmsUnmapLogicalPage)) ∨
    (∃ window slot, window.val = physicalPage.toNat ∧
      dosEmsGetHandle state handle = some slot ∧ logicalPage = dosEmsUnmapLogicalPage ∧
      dosEmsMapPage state physicalPage logicalPage handle =
        ⟨dropWindow (dosEmsWriteBackWindow state window) window, .ok ()⟩) ∨
    ∃ window slot, window.val = physicalPage.toNat ∧
      dosEmsGetHandle state handle = some slot ∧ logicalPage ≠ dosEmsUnmapLogicalPage ∧
      logicalPage < (state.handles slot).pages ∧
      ((((dosEmsWriteBackWindow state window).handles slot).memory = none ∧
        dosEmsMapPage state physicalPage logicalPage handle =
          ⟨dosEmsWriteBackWindow state window, .ok ()⟩) ∨
      ∃ memory, ((dosEmsWriteBackWindow state window).handles slot).memory = some memory ∧
        dosEmsMapPage state physicalPage logicalPage handle =
          ⟨loadWindow (dosEmsWriteBackWindow state window) window memory logicalPage handle,
            .ok ()⟩) := by
  unfold dosEmsMapPage
  by_cases hphysical : physicalPage.toNat < dosEmsPhysicalPages
  · rw [dif_pos hphysical]
    cases hslot : dosEmsGetHandle state handle with
    | none => exact .inl ⟨_, rfl, .inr (.inl rfl)⟩
    | some slot =>
      dsimp only
      by_cases hunmap : logicalPage = dosEmsUnmapLogicalPage
      · rw [if_pos hunmap]
        exact .inr (.inl ⟨_, slot, rfl, rfl, hunmap, rfl⟩)
      rw [if_neg hunmap]
      by_cases hpages : (state.handles slot).pages ≤ logicalPage
      · rw [if_pos hpages]
        exact .inl ⟨_, rfl, .inr (.inr ⟨slot, rfl, hpages, hunmap⟩)⟩
      rw [if_neg hpages]
      refine .inr (.inr ⟨⟨physicalPage.toNat, hphysical⟩, slot, rfl, rfl, hunmap,
        UInt16.not_le.1 hpages, ?_⟩)
      cases hmemory :
          ((dosEmsWriteBackWindow state ⟨physicalPage.toNat, hphysical⟩).handles slot).memory with
      | none => exact .inl ⟨rfl, rfl⟩
      | some memory => exact .inr ⟨memory, rfl, rfl⟩
  · rw [dif_neg hphysical]
    exact .inl ⟨_, rfl, .inl (Nat.le_of_not_lt hphysical)⟩

def releasedHandle (entry : DosEmsHandle) : DosEmsHandle :=
  dosEmsClearHandleName
    { entry with inUse := false, pages := 0, memory := none, isMapSaved := false }

theorem dosEmsDeallocatePages_cases (handle : UInt16) :
    (∃ error, dosEmsDeallocatePages state handle = .refuse state error) ∨
    ∃ slot, dosEmsGetHandle state handle = some slot ∧
      dosEmsDeallocatePages state handle =
        ⟨{ setHandle
            { state with
              physicalPages := fun window =>
                dropIf (fun mapping => mapping.isMapped ∧ mapping.handle = handle)
                  (state.physicalPages window) }
            slot (releasedHandle (state.handles slot)) with
            usedPages := state.usedPages - (state.handles slot).pages },
          .ok ()⟩ := by
  unfold dosEmsDeallocatePages
  cases hslot : dosEmsGetHandle state handle with
  | none => exact .inl ⟨_, rfl⟩
  | some slot =>
    rw [foldl_windows_dropWindow
      (fun mapping => mapping.isMapped ∧ mapping.handle = handle)]
    exact .inr ⟨slot, rfl, rfl⟩

/-- The buffer after a reallocation. -/
def reallocatedMemory (entry : DosEmsHandle) (newPages : UInt16)
    (answer : Option ByteMemory) : Option ByteMemory :=
  if 0 < newPages then
    answer.map fun memory =>
      memory.copyFrom 0 (entry.memory.getD fun _ => 0) 0
        (pageStart (if newPages < entry.pages then newPages else entry.pages).toNat)
  else none

def reallocated (slot : Fin dosEmsMaxHandles) (handle newPages : UInt16)
    (memory : Option ByteMemory) : DosEmsState :=
  { setHandle
      { state with
        physicalPages := fun window =>
          dropIf
            (fun mapping => mapping.isMapped ∧ mapping.handle = handle ∧
              newPages ≤ mapping.logicalPage)
            (state.physicalPages window) }
      slot { state.handles slot with memory, pages := newPages } with
    usedPages := state.usedPages - (state.handles slot).pages + newPages }

theorem dosEmsReallocatePages_cases (handle newPages : UInt16) (buffer : Option ByteMemory) :
    (∃ error, dosEmsReallocatePages state handle newPages buffer = .refuse state error) ∨
    dosEmsReallocatePages state handle newPages buffer = ⟨state, .ok ()⟩ ∨
    (∃ slot error, dosEmsGetHandle state handle = some slot ∧
      dosEmsReallocatePages state handle newPages buffer =
        .refuse (flushHandle state handle) error) ∨
    ∃ slot, dosEmsGetHandle state handle = some slot ∧
      ¬ ((state.handles slot).pages < newPages ∧
        (state.totalPages.toNat : Int) <
          state.usedPages.toNat - (state.handles slot).pages.toNat + newPages.toNat) ∧
      ¬ (0 < newPages ∧ (flushHandle state handle).allocateHook buffer = none) ∧
      dosEmsReallocatePages state handle newPages buffer =
        ⟨reallocated (flushHandle state handle) slot handle newPages
            (reallocatedMemory ((flushHandle state handle).handles slot) newPages
              ((flushHandle state handle).allocateHook buffer)),
          .ok ()⟩ := by
  unfold dosEmsReallocatePages
  cases hslot : dosEmsGetHandle state handle with
  | none => exact .inl ⟨_, rfl⟩
  | some slot =>
    dsimp only
    by_cases hsame : newPages = (state.handles slot).pages
    · rw [if_pos hsame]
      exact .inr (.inl rfl)
    rw [if_neg hsame]
    by_cases hquota : (state.handles slot).pages < newPages ∧
        (state.totalPages.toNat : Int) <
          state.usedPages.toNat - (state.handles slot).pages.toNat + newPages.toNat
    · rw [if_pos hquota]
      exact .inl ⟨_, rfl⟩
    rw [if_neg hquota, ← flushHandle]
    by_cases hhook : 0 < newPages ∧ (flushHandle state handle).allocateHook buffer = none
    · rw [if_pos hhook]
      exact .inr (.inr (.inl ⟨slot, _, rfl, rfl⟩))
    rw [if_neg hhook, foldl_windows_dropWindow
      (fun mapping => mapping.isMapped ∧ mapping.handle = handle ∧
        newPages ≤ mapping.logicalPage)]
    exact .inr (.inr (.inr ⟨slot, rfl, hquota, hhook, rfl⟩))

theorem dosEmsSavePageMap_cases (handle : UInt16) :
    (∃ error, dosEmsSavePageMap state handle = .refuse state error) ∨
    ∃ slot, dosEmsGetHandle state handle = some slot ∧
      dosEmsSavePageMap state handle =
        ⟨setHandle state slot
          { state.handles slot with savedMap := state.physicalPages, isMapSaved := true },
          .ok ()⟩ := by
  unfold dosEmsSavePageMap
  cases hslot : dosEmsGetHandle state handle with
  | none => exact .inl ⟨_, rfl⟩
  | some slot =>
    dsimp only
    by_cases hsaved : (state.handles slot).isMapSaved = true
    · rw [if_pos hsaved]
      exact .inl ⟨_, rfl⟩
    · rw [if_neg hsaved]
      exact .inr ⟨slot, rfl, rfl⟩

theorem dosEmsMapPage_handles (physicalPage : UInt8) (logicalPage handle : UInt16)
    (slot : Fin dosEmsMaxHandles) :
    SameShape (state.handles slot)
      ((dosEmsMapPage state physicalPage logicalPage handle).state.handles slot) := by
  obtain ⟨error, hrefused, -⟩ | ⟨window, slot', -, -, -, hunmapped⟩ |
      ⟨window, slot', -, -, -, -, ⟨-, hwritten⟩ | ⟨memory, -, hloaded⟩⟩ :=
    dosEmsMapPage_cases state physicalPage logicalPage handle
  · rw [hrefused]
    exact .refl _
  · rw [hunmapped]
    exact (dosEmsWriteBackWindow_onlyBytes state window).handles slot
  · rw [hwritten]
    exact (dosEmsWriteBackWindow_onlyBytes state window).handles slot
  · rw [hloaded]
    exact (dosEmsWriteBackWindow_onlyBytes state window).handles slot

theorem restoreWindow_handles (window : Fin dosEmsPhysicalPages)
    (saved : DosEmsWindowMapping) (slot : Fin dosEmsMaxHandles) :
    SameShape (state.handles slot) ((restoreWindow state window saved).handles slot) := by
  unfold restoreWindow
  split
  · exact dosEmsMapPage_handles state _ _ _ slot
  · exact (dosEmsWriteBackWindow_onlyBytes state window).handles slot

/-- The loop of `DosEmsRestorePageMap` over a fixed saved map. -/
def restoreWindows (xs : List (Fin dosEmsPhysicalPages))
    (savedMap : Fin dosEmsPhysicalPages → DosEmsWindowMapping) : DosEmsState :=
  xs.foldl (fun current window => restoreWindow current window (savedMap window)) state

theorem foldl_restoreWindow (slot : Fin dosEmsMaxHandles)
    (xs : List (Fin dosEmsPhysicalPages)) :
    xs.foldl
        (fun current window =>
          restoreWindow current window ((current.handles slot).savedMap window)) state =
      restoreWindows state xs (state.handles slot).savedMap := by
  unfold restoreWindows
  induction xs generalizing state with
  | nil => rfl
  | cons window xs ih =>
    rw [foldl_cons, foldl_cons, ih, (restoreWindow_handles state _ _ slot).savedMap]

theorem dosEmsRestorePageMap_cases (handle : UInt16) :
    (∃ error, dosEmsRestorePageMap state handle = .refuse state error) ∨
    ∃ slot, dosEmsGetHandle state handle = some slot ∧
      (state.handles slot).isMapSaved = true ∧
      dosEmsRestorePageMap state handle =
        ⟨setHandle (restoreWindows state windows (state.handles slot).savedMap) slot
          { (restoreWindows state windows (state.handles slot).savedMap).handles slot with
            isMapSaved := false },
          .ok ()⟩ := by
  unfold dosEmsRestorePageMap
  cases hslot : dosEmsGetHandle state handle with
  | none => exact .inl ⟨_, rfl⟩
  | some slot =>
    dsimp only
    by_cases hsaved : (state.handles slot).isMapSaved = true
    · rw [if_pos hsaved, foldl_restoreWindow]
      exact .inr ⟨slot, rfl, hsaved, rfl⟩
    · rw [if_neg hsaved]
      exact .inl ⟨_, rfl⟩

end Cases

end Ntvdmex.Dos.Ems
