import Ntvdmex.Foundation.ByteMemory
import Ntvdmex.Foundation.Tables

/-!
# Expanded memory: the EMS driver (`dos_ems.h`)

A handle owns logical pages of 16 KB in a host buffer.  Mapping a page into one
of the four windows of the page frame writes the window's bytes back to the page
it held and copies the new page in; in between, the guest reads and writes the
frame.  A buffer is its bytes, so two buffers never share one, and what the
`Allocate` hook answers is an input of each call.
-/

namespace Ntvdmex.Dos.Ems

open Foundation

def dosEmsPageSize : Nat := 0x4000
def dosEmsPhysicalPages : Nat := 4
def dosEmsMaxHandles : Nat := 64
def dosEmsHandleNameSize : Nat := 8

def dosEmsUnmapLogicalPage : UInt16 := 0xFFFF

inductive DosEmsError
  | invalidHandle
  | noHandles
  | tooManyPages
  | notEnoughPages
  | zeroPages
  | invalidLogicalPage
  | invalidPhysicalPage
  | mapAlreadySaved
  | mapNotSaved
  deriving DecidableEq, Repr

def DosEmsError.code : DosEmsError → UInt8
  | invalidHandle => 0x83
  | noHandles => 0x85
  | tooManyPages => 0x87
  | notEnoughPages => 0x88
  | zeroPages => 0x89
  | invalidLogicalPage => 0x8A
  | invalidPhysicalPage => 0x8B
  | mapAlreadySaved => 0x8D
  | mapNotSaved => 0x8E

structure DosEmsWindowMapping where
  handle : UInt16
  logicalPage : UInt16
  isMapped : Bool
  deriving DecidableEq, Repr

structure DosEmsHandle where
  inUse : Bool
  pages : UInt16
  memory : Option ByteMemory
  isMapSaved : Bool
  savedMap : Fin dosEmsPhysicalPages → DosEmsWindowMapping
  name : Fin dosEmsHandleNameSize → UInt8

structure DosEmsState where
  frameSegment : UInt16
  totalPages : UInt16
  usedPages : UInt16
  physicalPages : Fin dosEmsPhysicalPages → DosEmsWindowMapping
  frame : ByteMemory
  handles : Fin dosEmsMaxHandles → DosEmsHandle
  hasAllocate : Bool

/-- What a service leaves behind. -/
structure EmsOutcome (α : Type) where
  state : DosEmsState
  result : Except DosEmsError α

def EmsOutcome.refuse {α : Type} (state : DosEmsState) (error : DosEmsError) : EmsOutcome α :=
  ⟨state, .error error⟩

def dosEmsClearHandleName (entry : DosEmsHandle) : DosEmsHandle :=
  { entry with name := fun _ => 0 }

/-- The saved maps are not written and keep what the memory held. -/
def dosEmsInitialize (state : DosEmsState) (frameSegment totalPages : UInt16)
    (frame : ByteMemory) (hasAllocate : Bool) : DosEmsState where
  frameSegment
  totalPages
  usedPages := 0
  physicalPages := fun _ => ⟨0, 0, false⟩
  frame
  handles := fun slot =>
    dosEmsClearHandleName
      { state.handles slot with inUse := false, pages := 0, memory := none, isMapSaved := false }
  hasAllocate

def dosEmsGetHandle (state : DosEmsState) (handle : UInt16) : Option (Fin dosEmsMaxHandles) :=
  if h : handle.toNat < dosEmsMaxHandles then
    if (state.handles ⟨handle.toNat, h⟩).inUse then some ⟨handle.toNat, h⟩ else none
  else
    none

def pageStart (index : Nat) : Nat := index * dosEmsPageSize

def dosEmsCopyPage (destination : ByteMemory) (target : Nat) (source : ByteMemory)
    (origin : Nat) : ByteMemory :=
  destination.copyFrom target source origin dosEmsPageSize

def setHandle (state : DosEmsState) (slot : Fin dosEmsMaxHandles) (entry : DosEmsHandle) :
    DosEmsState :=
  { state with handles := Function.update state.handles slot entry }

def setWindow (state : DosEmsState) (window : Fin dosEmsPhysicalPages)
    (mapping : DosEmsWindowMapping) : DosEmsState :=
  { state with physicalPages := Function.update state.physicalPages window mapping }

def dosEmsWriteBackWindow (state : DosEmsState) (window : Fin dosEmsPhysicalPages) :
    DosEmsState :=
  let mapping := state.physicalPages window
  if mapping.isMapped then
    match dosEmsGetHandle state mapping.handle with
    | none => state
    | some slot =>
      match (state.handles slot).memory with
      | none => state
      | some memory =>
        if mapping.logicalPage < (state.handles slot).pages then
          setHandle state slot
            { state.handles slot with
              memory := some (dosEmsCopyPage memory (pageStart mapping.logicalPage.toNat)
                state.frame (pageStart window)) }
        else state
  else state

/-- `IsMapped = 0`. -/
def dropWindow (state : DosEmsState) (window : Fin dosEmsPhysicalPages) : DosEmsState :=
  setWindow state window { state.physicalPages window with isMapped := false }

/-- What `state->Allocate` answers, `NULL` when there is no hook. -/
def DosEmsState.allocateHook (state : DosEmsState) (buffer : Option ByteMemory) :
    Option ByteMemory :=
  if state.hasAllocate then buffer else none

def firstFreeHandle (state : DosEmsState) : Option (Fin dosEmsMaxHandles) :=
  firstSlot fun slot => !(state.handles slot).inUse

def dosEmsAllocatePages (state : DosEmsState) (pages : UInt16) (buffer : Option ByteMemory) :
    EmsOutcome UInt16 :=
  if pages = 0 then
    .refuse state .zeroPages
  else if state.totalPages < pages then
    .refuse state .tooManyPages
  else if state.totalPages.toNat < state.usedPages.toNat + pages.toNat then
    .refuse state .notEnoughPages
  else
    match firstFreeHandle state with
    | none => .refuse state .noHandles
    | some slot =>
      match state.allocateHook buffer with
      | none => .refuse state .notEnoughPages
      | some memory =>
        let entry :=
          dosEmsClearHandleName
            { state.handles slot with
              inUse := true, pages, memory := some memory, isMapSaved := false }
        ⟨{ setHandle state slot entry with usedPages := state.usedPages + pages },
          .ok (UInt16.ofNat slot)⟩

def dosEmsMapPage (state : DosEmsState) (physicalPage : UInt8) (logicalPage handle : UInt16) :
    EmsOutcome Unit :=
  if h : physicalPage.toNat < dosEmsPhysicalPages then
    let window : Fin dosEmsPhysicalPages := ⟨physicalPage.toNat, h⟩
    match dosEmsGetHandle state handle with
    | none => .refuse state .invalidHandle
    | some slot =>
      if logicalPage = dosEmsUnmapLogicalPage then
        ⟨dropWindow (dosEmsWriteBackWindow state window) window, .ok ()⟩
      else if (state.handles slot).pages ≤ logicalPage then
        .refuse state .invalidLogicalPage
      else
        let written := dosEmsWriteBackWindow state window
        match (written.handles slot).memory with
        | none => ⟨written, .ok ()⟩
        | some memory =>
          ⟨setWindow
            { written with
              frame := dosEmsCopyPage written.frame (pageStart window) memory
                (pageStart logicalPage.toNat) }
            window ⟨handle, logicalPage, true⟩, .ok ()⟩
  else
    .refuse state .invalidPhysicalPage

/-- The windows, in the order the loops take them. -/
def windows : List (Fin dosEmsPhysicalPages) := List.finRange dosEmsPhysicalPages

def dosEmsDeallocatePages (state : DosEmsState) (handle : UInt16) : EmsOutcome Unit :=
  match dosEmsGetHandle state handle with
  | none => .refuse state .invalidHandle
  | some slot =>
    let dropped := windows.foldl
      (fun state window =>
        if (state.physicalPages window).isMapped ∧
            (state.physicalPages window).handle = handle then
          dropWindow state window
        else state) state
    let entry := dropped.handles slot
    ⟨{ setHandle dropped slot
          (dosEmsClearHandleName
            { entry with inUse := false, pages := 0, memory := none, isMapSaved := false }) with
        usedPages := dropped.usedPages - entry.pages }, .ok ()⟩

def dosEmsReallocatePages (state : DosEmsState) (handle newPages : UInt16)
    (buffer : Option ByteMemory) : EmsOutcome Unit :=
  match dosEmsGetHandle state handle with
  | none => .refuse state .invalidHandle
  | some slot =>
    if newPages = (state.handles slot).pages then
      ⟨state, .ok ()⟩
    else if (state.handles slot).pages < newPages ∧
        (state.totalPages.toNat : Int) <
          state.usedPages.toNat - (state.handles slot).pages.toNat + newPages.toNat then
      .refuse state .notEnoughPages
    else
      let flushed := windows.foldl
        (fun state window =>
          if (state.physicalPages window).isMapped ∧
              (state.physicalPages window).handle = handle then
            dosEmsWriteBackWindow state window
          else state) state
      let entry := flushed.handles slot
      if 0 < newPages ∧ flushed.allocateHook buffer = none then
        .refuse flushed .notEnoughPages
      else
        let kept := if newPages < entry.pages then newPages else entry.pages
        let newBuffer :=
          if 0 < newPages then
            (flushed.allocateHook buffer).map fun memory =>
              memory.copyFrom 0 (entry.memory.getD fun _ => 0) 0 (pageStart kept.toNat)
          else none
        let dropped := windows.foldl
          (fun state window =>
            if (state.physicalPages window).isMapped ∧
                (state.physicalPages window).handle = handle ∧
                newPages ≤ (state.physicalPages window).logicalPage then
              dropWindow state window
            else state) flushed
        ⟨{ setHandle dropped slot { entry with memory := newBuffer, pages := newPages } with
            usedPages := dropped.usedPages - entry.pages + newPages }, .ok ()⟩

def dosEmsSavePageMap (state : DosEmsState) (handle : UInt16) : EmsOutcome Unit :=
  match dosEmsGetHandle state handle with
  | none => .refuse state .invalidHandle
  | some slot =>
    if (state.handles slot).isMapSaved then
      .refuse state .mapAlreadySaved
    else
      ⟨setHandle state slot
        { state.handles slot with savedMap := state.physicalPages, isMapSaved := true },
        .ok ()⟩

/-- One turn of the loop of `DosEmsRestorePageMap`. -/
def restoreWindow (state : DosEmsState) (window : Fin dosEmsPhysicalPages)
    (saved : DosEmsWindowMapping) : DosEmsState :=
  if saved.isMapped then
    (dosEmsMapPage state (UInt8.ofNat window) saved.logicalPage saved.handle).state
  else
    dropWindow (dosEmsWriteBackWindow state window) window

def dosEmsRestorePageMap (state : DosEmsState) (handle : UInt16) : EmsOutcome Unit :=
  match dosEmsGetHandle state handle with
  | none => .refuse state .invalidHandle
  | some slot =>
    if (state.handles slot).isMapSaved then
      let restored := windows.foldl
        (fun current window =>
          restoreWindow current window ((current.handles slot).savedMap window))
        state
      ⟨setHandle restored slot { restored.handles slot with isMapSaved := false }, .ok ()⟩
    else
      .refuse state .mapNotSaved

def guestWrite (state : DosEmsState) (window : Fin dosEmsPhysicalPages)
    (offset : Fin dosEmsPageSize) (value : UInt8) : DosEmsState :=
  { state with frame := state.frame.store (pageStart window + offset) value }

end Ntvdmex.Dos.Ems
