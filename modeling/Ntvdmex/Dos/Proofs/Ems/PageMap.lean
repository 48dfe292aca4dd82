import Ntvdmex.Dos.Proofs.Ems.Coherence

/-!
# What a restored page map shows

A saved map names the pages it had in the windows by handle and number.  To say whether a page is
still the one it was, every page is numbered by the call it came into being with.  A restore puts
back exactly what was saved if and only if none of the saved pages has been given up since.
-/

namespace Ntvdmex.Dos.Ems

open Foundation List Function UInt16 EmsEvent

/-- The driver, the call each logical page came into being with, and the calls so far. -/
structure EmsPages where
  state : DosEmsState
  born : Fin dosEmsMaxHandles → Nat → Nat
  clock : Nat

def HasPage (state : DosEmsState) (slot : Fin dosEmsMaxHandles) (page : Nat) : Prop :=
  page < (state.handles slot).pages.toNat
deriving Decidable

namespace EmsPages

def start (raw : DosEmsState) (frameSegment totalPages : UInt16) (frame : ByteMemory)
    (hasAllocate : Bool) : EmsPages where
  state := dosEmsInitialize raw frameSegment totalPages frame hasAllocate
  born _ _ := 0
  clock := 0

def after (world : EmsPages) (event : EmsEvent) : EmsPages where
  state := (event.outcome world.state).state
  born slot page :=
    if HasPage world.state slot page then world.born slot page else world.clock + 1
  clock := world.clock + 1

/-- A window after a restore shows what it showed when the map was saved: the same page, or
nothing. -/
def Shows (saved world : EmsPages) (restored : DosEmsState)
    (window : Fin dosEmsPhysicalPages) : Prop :=
  if (saved.state.physicalPages window).isMapped then
    restored.physicalPages window = saved.state.physicalPages window ∧
      ∀ slot page, Holds saved.state window slot page → world.born slot page = saved.born slot page
  else (restored.physicalPages window).isMapped = false

def RestoresExactly (saved world : EmsPages) (handle : UInt16) : Prop :=
  (dosEmsRestorePageMap world.state handle).result = .ok () →
    ∀ window, Shows saved world (dosEmsRestorePageMap world.state handle).state window

def HasSavedMap (world : EmsPages) (handle : UInt16) : Prop :=
  ∃ slot, dosEmsGetHandle world.state handle = some slot ∧
    (world.state.handles slot).isMapSaved = true

/-- Every page that was in a window when the map was saved has been there ever since. -/
def PagesStay (saved : EmsPages) (handle : UInt16) (events : List EmsEvent) : Prop :=
  ∀ window slot page, Holds saved.state window slot page →
    ∀ before later, events = before ++ later →
      HasPage (before.foldl after (saved.after (.save handle))).state slot page

def SavesNot (handle : UInt16) (world : EmsPages) (event : EmsEvent) : Prop :=
  match event with
  | .save other => other = handle → (dosEmsSavePageMap world.state other).result ≠ .ok ()
  | _ => True

variable {world : EmsPages} {slot : Fin dosEmsMaxHandles} {page : Nat}

theorem born_le_after (h : ∀ slot page, world.born slot page ≤ world.clock) (event : EmsEvent)
    (slot : Fin dosEmsMaxHandles) (page : Nat) :
    (world.after event).born slot page ≤ (world.after event).clock := by
  show (if HasPage world.state slot page then world.born slot page else world.clock + 1) ≤
    world.clock + 1
  split
  · exact Nat.le_succ_of_le (h slot page)
  · exact Nat.le_refl _

theorem born_le_run (h : ∀ slot page, world.born slot page ≤ world.clock)
    (events : List EmsEvent) : ∀ slot page,
      (events.foldl after world).born slot page ≤ (events.foldl after world).clock := by
  induction events generalizing world with
  | nil => exact h
  | cons event rest ih => exact ih (born_le_after h event)

variable (events : List EmsEvent)

theorem clock_le_run (world : EmsPages) : world.clock ≤ (events.foldl after world).clock := by
  induction events generalizing world with
  | nil => exact Nat.le_refl _
  | cons event rest ih => exact (Nat.le_succ world.clock).trans (ih (world.after event))

theorem reborn (hgone : ¬HasPage world.state slot page) (events : List EmsEvent)
    (hthere : HasPage (events.foldl after world).state slot page) :
    world.clock < (events.foldl after world).born slot page := by
  induction events using reverseRecOn with
  | nil => exact absurd hthere hgone
  | append_singleton events event ih =>
    rw [foldl_append, foldl_cons, foldl_nil] at hthere ⊢
    show world.clock < if HasPage (events.foldl after world).state slot page then
      (events.foldl after world).born slot page else (events.foldl after world).clock + 1
    split
    · rename_i hbefore
      exact ih hbefore
    · exact Nat.lt_succ_of_le (clock_le_run events world)

theorem born_kept
    (hthere : ∀ before later, events = before ++ later →
      HasPage (before.foldl after world).state slot page) :
    (events.foldl after world).born slot page = world.born slot page := by
  induction events using reverseRecOn with
  | nil => rfl
  | append_singleton events event ih =>
    rw [foldl_append, foldl_cons, foldl_nil]
    have hbefore : HasPage (events.foldl after world).state slot page := hthere events [event] rfl
    refine (if_pos hbefore).trans (ih fun before later hevents => ?_)
    refine hthere before (later ++ [event]) ?_
    rw [hevents, append_assoc]

theorem run_keeps (h : EmsInvariant world.state) (events : List EmsEvent) :
    EmsInvariant (events.foldl after world).state := by
  induction events generalizing world with
  | nil => exact h
  | cons event rest ih =>
    have hnext : EmsInvariant (world.after event).state := (event.outcome_keeps h).invariant
    exact ih hnext

end EmsPages

/-! ## The saved map stays -/

def KeepsSavedMap (entry entry' : DosEmsHandle) : Prop :=
  entry'.isMapSaved = true → entry.isMapSaved = true ∧ entry'.savedMap = entry.savedMap

theorem SameShape.keepsSavedMap {entry entry' : DosEmsHandle} (h : SameShape entry entry') :
    KeepsSavedMap entry entry' := by
  intro hsaved
  rw [h.isMapSaved] at hsaved
  exact ⟨hsaved, h.savedMap⟩

theorem SameShape.trans {entry entry' entry'' : DosEmsHandle} (h : SameShape entry entry')
    (h' : SameShape entry' entry'') : SameShape entry entry'' where
  inUse := h'.inUse.trans h.inUse
  pages := h'.pages.trans h.pages
  memory := h'.memory.trans h.memory
  isMapSaved := h'.isMapSaved.trans h.isMapSaved
  savedMap := h'.savedMap.trans h.savedMap
  name := h'.name.trans h.name

theorem restoreWindows_handles (state : DosEmsState) (xs : List (Fin dosEmsPhysicalPages))
    (savedMap : Fin dosEmsPhysicalPages → DosEmsWindowMapping) (slot : Fin dosEmsMaxHandles) :
    SameShape (state.handles slot) ((restoreWindows state xs savedMap).handles slot) := by
  unfold restoreWindows
  induction xs generalizing state with
  | nil => exact .refl _
  | cons window xs ih =>
    rw [foldl_cons]
    exact (restoreWindow_handles state window (savedMap window) slot).trans (ih _)

section Kept

variable {state : DosEmsState}

theorem keepsSavedMap_setHandle {slot other : Fin dosEmsMaxHandles} {entry : DosEmsHandle}
    (hother : KeepsSavedMap (state.handles other) entry) :
    KeepsSavedMap (state.handles slot) ((setHandle state other entry).handles slot) := by
  by_cases heq : slot = other
  · subst heq
    rw [show (setHandle state slot entry).handles slot = entry from update_self _ _ _]
    exact hother
  · rw [show (setHandle state other entry).handles slot = state.handles slot from
      update_of_ne heq _ _]
    exact fun hsaved => ⟨hsaved, rfl⟩

theorem keepsSavedMap_unsaved (entry : DosEmsHandle) {entry' : DosEmsHandle}
    (h : entry'.isMapSaved = false) : KeepsSavedMap entry entry' := by
  intro hsaved
  rw [h] at hsaved
  cases hsaved

theorem EmsEvent.keepsSavedMap {handle : UInt16} {event : EmsEvent} {slot : Fin dosEmsMaxHandles}
    (hslot : slot.val = handle.toNat)
    (hnot : ∀ world : EmsPages, world.state = state → EmsPages.SavesNot handle world event) :
    KeepsSavedMap (state.handles slot) ((event.outcome state).state.handles slot) := by
  have hsame : KeepsSavedMap (state.handles slot) (state.handles slot) :=
    fun hsaved => ⟨hsaved, rfl⟩
  cases event with
  | allocate pages buffer =>
    show KeepsSavedMap _ ((dosEmsAllocatePages state pages buffer).state.handles slot)
    obtain ⟨error, hrefused⟩ | ⟨other, memory, -, -, -, -, hdone⟩ :=
      dosEmsAllocatePages_cases state pages buffer
    · rw [hrefused]
      exact hsame
    · rw [hdone]
      exact keepsSavedMap_setHandle (keepsSavedMap_unsaved _ rfl)
  | map physicalPage logicalPage other =>
    exact (dosEmsMapPage_handles state physicalPage logicalPage other slot).keepsSavedMap
  | deallocate other =>
    show KeepsSavedMap _ ((dosEmsDeallocatePages state other).state.handles slot)
    obtain ⟨error, hrefused⟩ | ⟨freed, -, hdone⟩ := dosEmsDeallocatePages_cases state other
    · rw [hrefused]
      exact hsame
    · have hreleased : KeepsSavedMap (state.handles freed) (releasedHandle (state.handles freed)) :=
        keepsSavedMap_unsaved _ rfl
      rw [hdone]
      exact keepsSavedMap_setHandle hreleased
  | reallocate other newPages buffer =>
    show KeepsSavedMap _ ((dosEmsReallocatePages state other newPages buffer).state.handles slot)
    have hflushed := ((flushHandle_onlyBytes state other).handles slot).keepsSavedMap
    obtain ⟨error, hrefused⟩ | hsize | ⟨resized, error, -, hrefused⟩ | ⟨resized, -, -, -, hdone⟩ :=
      dosEmsReallocatePages_cases state other newPages buffer
    · rw [hrefused]
      exact hsame
    · rw [hsize]
      exact hsame
    · rw [hrefused]
      exact hflushed
    · rw [hdone]
      intro hsaved
      have hkept : KeepsSavedMap ((flushHandle state other).handles slot)
          ((reallocated (flushHandle state other) resized other newPages
            (reallocatedMemory ((flushHandle state other).handles resized) newPages
              ((flushHandle state other).allocateHook buffer))).handles slot) :=
        @keepsSavedMap_setHandle (flushHandle state other) slot resized _
          fun hsaved => ⟨hsaved, rfl⟩
      obtain ⟨hbefore, hmap⟩ := hkept hsaved
      obtain ⟨hfirst, hfirstMap⟩ := hflushed hbefore
      exact ⟨hfirst, hmap.trans hfirstMap⟩
  | save other =>
    show KeepsSavedMap _ ((dosEmsSavePageMap state other).state.handles slot)
    obtain ⟨error, hrefused⟩ | ⟨saved, hsaved, hdone⟩ := dosEmsSavePageMap_cases state other
    · rw [hrefused]
      exact hsame
    · have hne : slot ≠ saved := by
        rintro rfl
        have hhandle : other = handle := UInt16.toNat_inj.mp
          ((dosEmsGetHandle_eq_some.1 hsaved).1.symm.trans hslot)
        refine hnot ⟨state, fun _ _ => 0, 0⟩ rfl hhandle ?_
        rw [hdone]
      rw [hdone, show (setHandle state saved _).handles slot = state.handles slot from
        update_of_ne hne _ _]
      exact hsame
  | restore other =>
    show KeepsSavedMap _ ((dosEmsRestorePageMap state other).state.handles slot)
    obtain ⟨error, hrefused⟩ | ⟨restored, -, -, hdone⟩ := dosEmsRestorePageMap_cases state other
    · rw [hrefused]
      exact hsame
    · rw [hdone]
      intro hsaved
      have hshape := restoreWindows_handles state windows (state.handles restored).savedMap slot
      generalize restoreWindows state windows (state.handles restored).savedMap = current at *
      have hunsaved : KeepsSavedMap (current.handles restored)
          { current.handles restored with isMapSaved := false } := keepsSavedMap_unsaved _ rfl
      obtain ⟨hbefore, hmap⟩ := @keepsSavedMap_setHandle current slot restored _ hunsaved hsaved
      obtain ⟨hfirst, hfirstMap⟩ := hshape.keepsSavedMap hbefore
      exact ⟨hfirst, hmap.trans hfirstMap⟩
  | write window offset value => exact hsame

end Kept

section Restore

variable {state : DosEmsState}

theorem ValidMapping.of_handles {state' : DosEmsState} {mapping : DosEmsWindowMapping}
    (h : ValidMapping state mapping)
    (hsame : ∀ slot, SameShape (state.handles slot) (state'.handles slot)) :
    ValidMapping state' mapping := by
  intro hmapped
  obtain ⟨slot, hslot, hpage⟩ := h hmapped
  refine ⟨slot, ?_, ?_⟩
  · rw [← hslot]
    exact dosEmsGetHandle_congr (fun other => (hsame other).inUse) _
  · rw [(hsame slot).pages]
    exact hpage

variable {window : Fin dosEmsPhysicalPages}

theorem restoreWindow_other {other : Fin dosEmsPhysicalPages} (hne : other ≠ window)
    (saved : DosEmsWindowMapping) :
    (restoreWindow state window saved).physicalPages other = state.physicalPages other := by
  have hwritten := (dosEmsWriteBackWindow_onlyBytes state window).windows
  unfold restoreWindow
  split
  · obtain ⟨error, hrefused, -⟩ | ⟨mapped, slot, hmapped, -, -, hdone⟩ |
        ⟨mapped, slot, hmapped, -, -, -, ⟨-, hdone⟩ | ⟨memory, -, hdone⟩⟩ :=
      dosEmsMapPage_cases state (UInt8.ofNat window) saved.logicalPage saved.handle
    · rw [hrefused]
      rfl
    all_goals
      obtain rfl : mapped = window := Fin.ext (hmapped.trans (restoreWindow_physicalPage window).symm)
      rw [hdone]
    · exact (update_of_ne hne _ _).trans (congrFun hwritten other)
    · exact congrFun hwritten other
    · exact (update_of_ne hne _ _).trans (congrFun hwritten other)
  · exact (update_of_ne hne _ _).trans (congrFun hwritten other)

theorem restoreWindow_unmapped {saved : DosEmsWindowMapping} (h : saved.isMapped = false) :
    ((restoreWindow state window saved).physicalPages window).isMapped = false := by
  have hunmapped : ¬saved.isMapped = true := Bool.eq_false_iff.mp h
  rw [restoreWindow, if_neg hunmapped, dropWindow, setWindow]
  dsimp only
  rw [update_self]

theorem restoreWindow_mapped (hinv : EmsInvariant state) {saved : DosEmsWindowMapping}
    (hmapped : saved.isMapped = true) (hvalid : ValidMapping state saved) :
    (restoreWindow state window saved).physicalPages window = saved := by
  obtain ⟨slot, hslot, hpage⟩ := hvalid hmapped
  have hlimit : saved.logicalPage ≠ dosEmsUnmapLogicalPage := by
    intro hunmap
    have hlt := lt_iff_toNat_lt.1 hpage
    rw [hunmap, show dosEmsUnmapLogicalPage.toNat = 65535 from rfl] at hlt
    have hmax := (state.handles slot).pages.toNat_lt
    omega
  rw [restoreWindow, if_pos hmapped]
  obtain ⟨error, -, hphysical | hnone | ⟨other, hother, hpages, -⟩⟩ |
      ⟨written, other, -, -, hunmap, -⟩ |
      ⟨written, other, hwritten, hother, -, -, ⟨hmemory, -⟩ | ⟨memory, -, hdone⟩⟩ :=
    dosEmsMapPage_cases state (UInt8.ofNat window) saved.logicalPage saved.handle
  · rw [← restoreWindow_physicalPage] at hphysical
    exact absurd window.isLt (Nat.not_lt.mpr hphysical)
  · rw [hslot] at hnone
    cases hnone
  · cases hslot.symm.trans hother
    exact absurd hpage (UInt16.not_lt.2 hpages)
  · exact absurd hunmap hlimit
  · cases hslot.symm.trans hother
    have hheld : ((state.handles slot).memory).isSome = false := by
      rw [← ((dosEmsWriteBackWindow_onlyBytes state written).handles slot).memory, hmemory]
      rfl
    have hzero := (hinv.slots slot).backed.1 (Option.isSome_eq_false_iff.mp hheld |> Option.isNone_iff_eq_none.mp)
    rw [hzero] at hpage
    exact absurd (lt_iff_toNat_lt.1 hpage) (Nat.not_lt_zero _)
  · obtain rfl : written = window := Fin.ext (hwritten.trans (restoreWindow_physicalPage window).symm)
    rw [hdone]
    refine (update_self _ _ _).trans ?_
    rw [← hmapped]

theorem restoreWindows_window (hinv : EmsInvariant state)
    {savedMap : Fin dosEmsPhysicalPages → DosEmsWindowMapping}
    {xs : List (Fin dosEmsPhysicalPages)} (hnodup : xs.Nodup) {window : Fin dosEmsPhysicalPages} :
    (window ∉ xs → (restoreWindows state xs savedMap).physicalPages window =
      state.physicalPages window) ∧
    (window ∈ xs → (savedMap window).isMapped = false →
      ((restoreWindows state xs savedMap).physicalPages window).isMapped = false) ∧
    (window ∈ xs → (savedMap window).isMapped = true → ValidMapping state (savedMap window) →
      (restoreWindows state xs savedMap).physicalPages window = savedMap window) := by
  unfold restoreWindows
  induction xs generalizing state with
  | nil =>
    exact ⟨fun _ => rfl, fun h => absurd h not_mem_nil, fun h => absurd h not_mem_nil⟩
  | cons first xs ih =>
    obtain ⟨hfirst, hrest⟩ := nodup_cons.1 hnodup
    obtain ⟨hkept, hunmapped, hmapped⟩ :=
      ih (restoreWindow_invariant hinv first (savedMap first)).1 hrest
    rw [foldl_cons]
    refine ⟨fun hmem => ?_, fun hmem hnot => ?_, fun hmem hsaved hvalid => ?_⟩
    · obtain ⟨hne, hout⟩ := not_or.mp (mt mem_cons.mpr hmem)
      rw [hkept hout, restoreWindow_other hne]
    · by_cases hin : window ∈ xs
      · exact hunmapped hin hnot
      · obtain rfl := (mem_cons.1 hmem).resolve_right hin
        rw [hkept hin]
        exact restoreWindow_unmapped hnot
    · by_cases hin : window ∈ xs
      · refine hmapped hin hsaved (hvalid.of_handles fun slot => ?_)
        exact restoreWindow_handles state first (savedMap first) slot
      · obtain rfl := (mem_cons.1 hmem).resolve_right hin
        rw [hkept hin]
        exact restoreWindow_mapped hinv hsaved hvalid

end Restore

/-! ## Save and restore -/

theorem setHandle_pages {state : DosEmsState} {slot : Fin dosEmsMaxHandles} {entry : DosEmsHandle}
    (h : entry.pages = (state.handles slot).pages) (other : Fin dosEmsMaxHandles) :
    ((setHandle state slot entry).handles other).pages = (state.handles other).pages := by
  by_cases heq : other = slot
  · rw [heq, setHandle_handles_self]
    exact h
  · rw [setHandle_handles_of_ne heq]

namespace EmsPages

variable {saved world : EmsPages} {handle : UInt16}

theorem hasPage_of_restored (handle : UInt16) (slot : Fin dosEmsMaxHandles) (page : Nat) :
    HasPage (dosEmsRestorePageMap world.state handle).state slot page ↔
      HasPage world.state slot page := by
  obtain ⟨error, hrefused⟩ | ⟨restored, -, -, hdone⟩ :=
    dosEmsRestorePageMap_cases world.state handle
  · rw [hrefused]
    rfl
  · rw [hdone]
    have hshape := restoreWindows_handles world.state windows
      (world.state.handles restored).savedMap
    generalize restoreWindows world.state windows (world.state.handles restored).savedMap =
      current at *
    have hpages : ((setHandle current restored
        { current.handles restored with isMapSaved := false }).handles slot).pages =
          (world.state.handles slot).pages := by
      rw [← (hshape slot).pages]
      exact setHandle_pages (by rfl) slot
    unfold HasPage
    rw [hpages]

theorem restored_windows (hinv : EmsInvariant world.state) (hsaved : HasSavedMap world handle) :
    ∃ slot, dosEmsGetHandle world.state handle = some slot ∧
      (dosEmsRestorePageMap world.state handle).result = .ok () ∧
      EmsInvariant (dosEmsRestorePageMap world.state handle).state ∧
      ∀ window,
        (((world.state.handles slot).savedMap window).isMapped = false →
          ((dosEmsRestorePageMap world.state handle).state.physicalPages window).isMapped =
            false) ∧
        (((world.state.handles slot).savedMap window).isMapped = true →
          ValidMapping world.state ((world.state.handles slot).savedMap window) →
            (dosEmsRestorePageMap world.state handle).state.physicalPages window =
              (world.state.handles slot).savedMap window) := by
  obtain ⟨slot, hslot, hmap⟩ := hsaved
  have hkeeps := dosEmsRestorePageMap_keeps hinv handle
  obtain ⟨error, hrefused⟩ | ⟨restored, hrestored, -, hdone⟩ :=
    dosEmsRestorePageMap_cases world.state handle
  · unfold dosEmsRestorePageMap at hrefused
    rw [hslot] at hrefused
    dsimp only at hrefused
    rw [if_pos hmap] at hrefused
    have hresult := congrArg EmsOutcome.result hrefused
    cases hresult
  · cases hslot.symm.trans hrestored
    refine ⟨slot, hslot, ?_, hkeeps.invariant, fun window => ?_⟩
    · rw [hdone]
    · obtain ⟨-, hunmapped, hmapped⟩ := @restoreWindows_window world.state hinv
        (world.state.handles slot).savedMap windows (nodup_finRange _) window
      rw [hdone]
      exact ⟨hunmapped (mem_finRange window), hmapped (mem_finRange window)⟩

variable {events : List EmsEvent}

theorem savedMap_run {slot : Fin dosEmsMaxHandles} (hslot : slot.val = handle.toNat)
    (hnot : Throughout after world (SavesNot handle) events)
    (hsaved : ((events.foldl after world).state.handles slot).isMapSaved = true) :
    ((events.foldl after world).state.handles slot).savedMap =
      (world.state.handles slot).savedMap := by
  induction events using reverseRecOn with
  | nil => rfl
  | append_singleton events event ih =>
    rw [foldl_append, foldl_cons, foldl_nil] at hsaved ⊢
    have hlast := hnot.last
    have hkeeps : KeepsSavedMap ((events.foldl after world).state.handles slot)
        (((events.foldl after world).after event).state.handles slot) := by
      refine keepsSavedMap hslot fun other hother => ?_
      cases event with
      | save named =>
        intro hnamed
        rw [hother]
        exact hlast hnamed
      | _ => trivial
    obtain ⟨hbefore, hmap⟩ := hkeeps hsaved
    exact hmap.trans (ih hnot.initial hbefore)

theorem after_save (hsave : (dosEmsSavePageMap saved.state handle).result = .ok ()) :
    ∃ slot, slot.val = handle.toNat ∧
      ((saved.after (.save handle)).state.handles slot).savedMap = saved.state.physicalPages ∧
      ∀ other page, HasPage (saved.after (.save handle)).state other page ↔
        HasPage saved.state other page := by
  obtain ⟨error, hrefused⟩ | ⟨slot, hslot, hdone⟩ := dosEmsSavePageMap_cases saved.state handle
  · rw [hrefused] at hsave
    cases hsave
  · have hstate : (saved.after (.save handle)).state = setHandle saved.state slot
        { saved.state.handles slot with
          savedMap := saved.state.physicalPages, isMapSaved := true } := by
      show (dosEmsSavePageMap saved.state handle).state = _
      rw [hdone]
    refine ⟨slot, (dosEmsGetHandle_eq_some.1 hslot).1, ?_, fun other page => ?_⟩
    · rw [hstate, setHandle_handles_self]
    · have hpages : ((saved.after (.save handle)).state.handles other).pages =
          (saved.state.handles other).pages := by
        rw [hstate]
        exact setHandle_pages (by rfl) other
      unfold HasPage
      rw [hpages]

theorem hasPage_of_holds {state : DosEmsState} (hinv : EmsInvariant state)
    {window : Fin dosEmsPhysicalPages} {slot : Fin dosEmsMaxHandles} {page : Nat}
    (h : Holds state window slot page) : HasPage state slot page :=
  (hinv.of_holds h).2

theorem validMapping_of_hasPage {state : DosEmsState} (hinv : EmsInvariant state)
    {mapping : DosEmsWindowMapping} {slot : Fin dosEmsMaxHandles}
    (hslot : slot.val = mapping.handle.toNat)
    (hpage : HasPage state slot mapping.logicalPage.toNat) : ValidMapping state mapping := by
  intro _
  refine ⟨slot, dosEmsGetHandle_eq_some.2 ⟨hslot, ?_⟩, lt_iff_toNat_lt.2 hpage⟩
  by_contra hunused
  have hzero := ((hinv.slots slot).unused (Bool.eq_false_iff.mpr hunused)).1
  unfold HasPage at hpage
  rw [hzero] at hpage
  exact absurd hpage (Nat.not_lt_zero _)

theorem exact_of_pagesStay (hsavedInv : EmsInvariant saved.state)
    (hsave : (dosEmsSavePageMap saved.state handle).result = .ok ())
    (hnot : Throughout after (saved.after (.save handle)) (SavesNot handle) events)
    (hstay : HasSavedMap (events.foldl after (saved.after (.save handle))) handle →
      PagesStay saved handle events) :
    RestoresExactly saved (events.foldl after (saved.after (.save handle))) handle := by
  intro hok window
  obtain ⟨slot, hslotVal, hsavedMap, hsame⟩ := after_save hsave
  have hinv : EmsInvariant (saved.after (.save handle)).state :=
    (outcome_keeps hsavedInv (.save handle)).invariant
  have hworldInv := run_keeps hinv events
  have hmap : HasSavedMap (events.foldl after (saved.after (.save handle))) handle := by
    obtain ⟨error, hrefused⟩ | ⟨restored, hrestored, hisSaved, -⟩ :=
      dosEmsRestorePageMap_cases (events.foldl after (saved.after (.save handle))).state handle
    · rw [hrefused] at hok
      cases hok
    · exact ⟨restored, hrestored, hisSaved⟩
  obtain ⟨owner, howner, hisSaved⟩ := hmap
  obtain ⟨found, hfound, -, -, hwindows⟩ := restored_windows hworldInv ⟨owner, howner, hisSaved⟩
  cases howner.symm.trans hfound
  have hownerSlot : owner = slot :=
    Fin.ext ((dosEmsGetHandle_eq_some.1 howner).1.trans hslotVal.symm)
  subst hownerSlot
  have hsavedIs : ((events.foldl after (saved.after (.save handle))).state.handles owner).savedMap =
      saved.state.physicalPages := (savedMap_run hslotVal hnot hisSaved).trans hsavedMap
  obtain ⟨hunmapped, hmapped⟩ := hwindows window
  rw [hsavedIs] at hunmapped hmapped
  unfold Shows
  split
  · rename_i hwas
    obtain ⟨held, hheld, hpage⟩ := hsavedInv.windows window hwas
    have hholds : Holds saved.state window held
        (saved.state.physicalPages window).logicalPage.toNat := ⟨hwas, hheld, rfl⟩
    have hthere := hstay ⟨owner, howner, hisSaved⟩ window held _ hholds
    have hlast := hthere events [] (append_nil _).symm
    refine ⟨hmapped hwas ?_, fun other page hother => ?_⟩
    · exact validMapping_of_hasPage hworldInv (dosEmsGetHandle_eq_some.1 hheld).1 hlast
    · obtain ⟨rfl, rfl⟩ := hholds.unique hother
      rw [born_kept events hthere]
      exact if_pos (hasPage_of_holds hsavedInv hholds)
  · rename_i hwas
    exact hunmapped (Bool.eq_false_iff.mpr hwas)

theorem pagesStay_of_exact (hsavedInv : EmsInvariant saved.state)
    (hborn : ∀ slot page, saved.born slot page ≤ saved.clock)
    (hexact : RestoresExactly saved (events.foldl after (saved.after (.save handle))) handle)
    (hmap : HasSavedMap (events.foldl after (saved.after (.save handle))) handle) :
    PagesStay saved handle events := by
  intro window slot page hholds before later hevents
  have hinv : EmsInvariant (saved.after (.save handle)).state :=
    (outcome_keeps hsavedInv (.save handle)).invariant
  have hworldInv := run_keeps hinv events
  obtain ⟨owner, -, hok, hrestoredInv, -⟩ := restored_windows hworldInv hmap
  have hshows := hexact hok window
  unfold Shows at hshows
  rw [if_pos hholds.1] at hshows
  obtain ⟨hwindow, hsame⟩ := hshows
  by_contra hgone
  have hmapped : ((dosEmsRestorePageMap (events.foldl after (saved.after (.save handle))).state
      handle).state.physicalPages window).isMapped = true := by
    rw [hwindow]
    exact hholds.1
  obtain ⟨other, hother, hlt⟩ := hrestoredInv.windows window hmapped
  have hslot : other = slot := by
    rw [hwindow] at hother
    exact Fin.ext ((dosEmsGetHandle_eq_some.1 hother).1.trans
      (dosEmsGetHandle_eq_some.1 hholds.2.1).1.symm)
  have hthere : HasPage (events.foldl after (saved.after (.save handle))).state slot page := by
    refine (hasPage_of_restored handle slot page).mp ?_
    rw [hwindow] at hlt
    rw [← hslot, ← hholds.2.2]
    exact lt_iff_toNat_lt.1 hlt
  have hnew : (before.foldl after (saved.after (.save handle))).clock <
      (events.foldl after (saved.after (.save handle))).born slot page := by
    rw [hevents, foldl_append] at hthere ⊢
    exact reborn hgone later hthere
  have hlater : saved.clock < (before.foldl after (saved.after (.save handle))).clock :=
    Nat.lt_of_lt_of_le (Nat.lt_succ_self saved.clock)
      (clock_le_run before (saved.after (.save handle)))
  have hold := hborn slot page
  rw [hsame slot page hholds] at hnew
  omega

end EmsPages

open EmsPages

/-- In every run, a restore of the map that a handle has saved is exact or fails if and only if
the map is no longer the handle's to restore, or every page that was in a window at the save has
been there ever since. -/
theorem restore_exact_iff (raw : DosEmsState) (frameSegment totalPages : UInt16)
    (frame : ByteMemory) (hasAllocate : Bool) (earlier events : List EmsEvent) (handle : UInt16)
    (hsave : (dosEmsSavePageMap (earlier.foldl after
      (start raw frameSegment totalPages frame hasAllocate)).state handle).result = .ok ())
    (hnot : Throughout after ((earlier.foldl after
      (start raw frameSegment totalPages frame hasAllocate)).after (.save handle))
        (SavesNot handle) events) :
    RestoresExactly (earlier.foldl after (start raw frameSegment totalPages frame hasAllocate))
        (events.foldl after ((earlier.foldl after
          (start raw frameSegment totalPages frame hasAllocate)).after (.save handle))) handle ↔
      (HasSavedMap (events.foldl after ((earlier.foldl after
          (start raw frameSegment totalPages frame hasAllocate)).after (.save handle))) handle →
        PagesStay (earlier.foldl after (start raw frameSegment totalPages frame hasAllocate))
          handle events) := by
  have hinv : EmsInvariant (start raw frameSegment totalPages frame hasAllocate).state :=
    dosEmsInitialize_invariant raw frameSegment totalPages frame hasAllocate
  have hsavedInv := run_keeps hinv earlier
  have hborn : ∀ slot page,
      (earlier.foldl after (start raw frameSegment totalPages frame hasAllocate)).born slot page ≤
        (earlier.foldl after (start raw frameSegment totalPages frame hasAllocate)).clock :=
    born_le_run (fun _ _ => Nat.le_refl 0) earlier
  exact ⟨fun hexact hmap => pagesStay_of_exact hsavedInv hborn hexact hmap,
    fun hstay => exact_of_pagesStay hsavedInv hsave hnot hstay⟩

def zeroedPages : EmsPages :=
  start
    ⟨0, 0, 0, fun _ => ⟨0, 0, false⟩, fun _ => 0,
      fun _ => ⟨false, 0, none, false, fun _ => ⟨0, 0, false⟩, fun _ => 0⟩, true⟩
    0xE000 64 (fun _ => 0) true

/-- Handles 0 and 1 of a page each, and handle 1's page in window 0. -/
def pagesInWindow : List EmsEvent :=
  [.allocate 1 (some fun _ => 0), .allocate 1 (some fun _ => 0), .map 0 0 1]

/-- Handle 0's page mapped over it. -/
def windowBorrowed : List EmsEvent := [.map 0 0 0]

/-- The same, with handle 1 given back. -/
def windowLost : List EmsEvent := [.deallocate 1, .map 0 0 0]

theorem restore_exact_borrowed :
    RestoresExactly (pagesInWindow.foldl after zeroedPages)
        (windowBorrowed.foldl after ((pagesInWindow.foldl after zeroedPages).after (.save 0))) 0 ↔
      (HasSavedMap (windowBorrowed.foldl after
          ((pagesInWindow.foldl after zeroedPages).after (.save 0))) 0 →
        PagesStay (pagesInWindow.foldl after zeroedPages) 0 windowBorrowed) := by
  refine restore_exact_iff _ _ _ _ _ pagesInWindow windowBorrowed 0 (by decide) ?_
  intro before event later hevents
  cases before with
  | nil =>
    cases hevents
    exact trivial
  | cons first rest =>
    obtain ⟨-, hrest⟩ := List.cons.inj hevents
    simp at hrest

theorem restore_shows_other_page :
    ¬RestoresExactly (pagesInWindow.foldl after zeroedPages)
      (windowLost.foldl after ((pagesInWindow.foldl after zeroedPages).after (.save 0))) 0 := by
  intro hexact
  have hshows := hexact (by decide) firstWindow
  unfold Shows at hshows
  rw [if_pos (by decide)] at hshows
  have hdiffers : (dosEmsRestorePageMap (windowLost.foldl after
      ((pagesInWindow.foldl after zeroedPages).after (.save 0))).state 0).state.physicalPages
          firstWindow ≠
        (pagesInWindow.foldl after zeroedPages).state.physicalPages firstWindow := by decide
  exact hdiffers hshows.1

end Ntvdmex.Dos.Ems
