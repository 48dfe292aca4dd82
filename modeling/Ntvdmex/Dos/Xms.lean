import Ntvdmex.Foundation.ByteMemory
import Ntvdmex.Foundation.Tables

/-!
# Extended memory: the XMS driver (`dos_xms.h`)

Up to 64 extended memory blocks, each backed by a host buffer, share one quota
counted in kilobytes.  Quota and bounds are computed in the source's 32-bit
arithmetic.  A buffer is its host address, 0 being `NULL`; what the `Allocate`
hook answers is an input of each call, and the blocks given to the `Free` hook
are part of a call's outcome.
-/

namespace Ntvdmex.Dos.Xms

open Foundation

def dosXmsMaxHandles : Nat := 64

def dosXmsConventionalHandle : UInt16 := 0
def dosXmsFirstHandle : Nat := 1
def dosXmsBytesPerKb : UInt32 := 1024
def dosXmsMaxLockCount : UInt8 := 0xFF
def dosXmsOddLengthMask : UInt32 := 1
def dosXmsFarSegmentShift : UInt32 := 16
def paragraphShift : UInt32 := 4
def wordMask : UInt32 := 0xFFFF

/-- One past the highest address a real-mode far pointer reaches. -/
def dosXmsConventionalLimit : UInt32 := 0x10FFF0

inductive DosXmsError
  | outOfMemory
  | noHandles
  | invalidHandle
  | invalidSourceHandle
  | invalidSourceOffset
  | invalidDestinationHandle
  | invalidDestinationOffset
  | invalidLength
  | notLocked
  | locked
  | lockOverflow
  deriving DecidableEq, Repr

def DosXmsError.code : DosXmsError → UInt8
  | outOfMemory => 0xA0
  | noHandles => 0xA1
  | invalidHandle => 0xA2
  | invalidSourceHandle => 0xA3
  | invalidSourceOffset => 0xA4
  | invalidDestinationHandle => 0xA5
  | invalidDestinationOffset => 0xA6
  | invalidLength => 0xA7
  | notLocked => 0xAA
  | locked => 0xAB
  | lockOverflow => 0xAC

structure DosXmsHandle where
  inUse : Bool
  lockCount : UInt8
  sizeKb : UInt32
  memory : Nat
  deriving DecidableEq, Repr

structure DosXmsState where
  isA20Enabled : Bool
  isHmaAllocated : Bool
  totalKb : UInt32
  usedKb : UInt32
  handles : Fin dosXmsMaxHandles → DosXmsHandle
  hasAllocate : Bool
  hasFree : Bool

/-- The driver's state and the host memory its buffers lie in. -/
structure XmsMachine where
  pool : DosXmsState
  heap : ByteMemory

/-- What a service leaves behind: the machine, the blocks given to the `Free` hook
and the result. -/
structure XmsOutcome (α : Type) where
  machine : XmsMachine
  freed : List (Nat × UInt32)
  result : Except DosXmsError α

def XmsOutcome.refuse {α : Type} (machine : XmsMachine) (error : DosXmsError) : XmsOutcome α :=
  ⟨machine, [], .error error⟩

def unusedHandle : DosXmsHandle := ⟨false, 0, 0, 0⟩

def dosXmsInitialize (totalKb : UInt32) (hasAllocate hasFree : Bool) : DosXmsState where
  isA20Enabled := true
  isHmaAllocated := false
  totalKb
  usedKb := 0
  handles := fun _ => unusedHandle
  hasAllocate
  hasFree

/-- The slot of a handle in use. -/
def dosXmsGetHandle (pool : DosXmsState) (handle : UInt16) : Option (Fin dosXmsMaxHandles) :=
  if h : handle = dosXmsConventionalHandle ∨ dosXmsMaxHandles < handle.toNat then
    none
  else
    let slot : Fin dosXmsMaxHandles := ⟨handle.toNat - dosXmsFirstHandle, by
      have hle : ¬ dosXmsMaxHandles < handle.toNat := fun hlt => h (.inr hlt)
      unfold dosXmsFirstHandle
      have hpos : 0 < dosXmsMaxHandles := by decide
      omega⟩
    if (pool.handles slot).inUse then some slot else none

/-- What `state->Allocate` answers, `NULL` when there is no hook. -/
def DosXmsState.allocateHook (pool : DosXmsState) (buffer : Nat) : Nat :=
  if pool.hasAllocate then buffer else 0

/-- The call of `state->Free` for a slot that has a buffer. -/
def DosXmsState.freeHook (pool : DosXmsState) (entry : DosXmsHandle) : List (Nat × UInt32) :=
  if entry.memory ≠ 0 ∧ pool.hasFree then [(entry.memory, entry.sizeKb)] else []

def blockBytes (kilobytes : UInt32) : Nat := kilobytes.toNat * 1024

def firstFreeHandle (pool : DosXmsState) : Option (Fin dosXmsMaxHandles) :=
  firstSlot fun slot => !(pool.handles slot).inUse

def dosXmsAllocate (machine : XmsMachine) (kilobytes : UInt32) (buffer : Nat) :
    XmsOutcome UInt16 :=
  let pool := machine.pool
  if 0 < kilobytes ∧ pool.totalKb < pool.usedKb + kilobytes then
    .refuse machine .outOfMemory
  else
    match firstFreeHandle pool with
    | none => .refuse machine .noHandles
    | some slot =>
      if 0 < kilobytes ∧ pool.allocateHook buffer = 0 then
        .refuse machine .outOfMemory
      else
        let memory := if 0 < kilobytes then pool.allocateHook buffer else 0
        let heap :=
          if 0 < kilobytes then machine.heap.zeroFill memory (blockBytes kilobytes)
          else machine.heap
        { machine :=
            { pool :=
                { pool with
                  handles := Function.update pool.handles slot ⟨true, 0, kilobytes, memory⟩
                  usedKb := pool.usedKb + kilobytes }
              heap }
          freed := []
          result := .ok (UInt16.ofNat (slot + dosXmsFirstHandle)) }

def dosXmsFree (machine : XmsMachine) (handle : UInt16) : XmsOutcome Unit :=
  let pool := machine.pool
  match dosXmsGetHandle pool handle with
  | none => .refuse machine .invalidHandle
  | some slot =>
    let entry := pool.handles slot
    if entry.lockCount ≠ 0 then
      .refuse machine .locked
    else
      { machine :=
          { machine with
            pool :=
              { pool with
                handles := Function.update pool.handles slot unusedHandle
                usedKb := pool.usedKb - entry.sizeKb } }
        freed := pool.freeHook entry
        result := .ok () }

/-- The bytes the copy loop of `DosXmsReallocate` keeps. -/
def bytesToKeep (oldKb newKb : UInt32) : UInt32 :=
  (if newKb < oldKb then newKb else oldKb) * dosXmsBytesPerKb

def dosXmsReallocate (machine : XmsMachine) (handle : UInt16) (newKb : UInt32)
    (buffer : Nat) : XmsOutcome Unit :=
  let pool := machine.pool
  match dosXmsGetHandle pool handle with
  | none => .refuse machine .invalidHandle
  | some slot =>
    let entry := pool.handles slot
    if entry.lockCount ≠ 0 then
      .refuse machine .locked
    else if newKb = entry.sizeKb then
      ⟨machine, [], .ok ()⟩
    else if entry.sizeKb < newKb ∧ pool.totalKb < pool.usedKb - entry.sizeKb + newKb then
      .refuse machine .outOfMemory
    else if 0 < newKb ∧ pool.allocateHook buffer = 0 then
      .refuse machine .outOfMemory
    else
      let memory := if 0 < newKb then pool.allocateHook buffer else 0
      let heap :=
        if 0 < newKb then
          (machine.heap.zeroFill memory (blockBytes newKb)).copyUp memory entry.memory
            (bytesToKeep entry.sizeKb newKb).toNat
        else machine.heap
      { machine :=
          { pool :=
              { pool with
                handles :=
                  Function.update pool.handles slot
                    { entry with memory, sizeKb := newKb }
                usedKb := pool.usedKb - entry.sizeKb + newKb }
            heap }
        freed := pool.freeHook entry
        result := .ok () }

/-- Answers the block's host address cut to 32 bits. -/
def dosXmsLock (machine : XmsMachine) (handle : UInt16) : XmsOutcome UInt32 :=
  let pool := machine.pool
  match dosXmsGetHandle pool handle with
  | none => .refuse machine .invalidHandle
  | some slot =>
    let entry := pool.handles slot
    if entry.lockCount = dosXmsMaxLockCount then
      .refuse machine .lockOverflow
    else
      { machine :=
          { machine with
            pool :=
              { pool with
                handles :=
                  Function.update pool.handles slot
                    { entry with lockCount := entry.lockCount + 1 } } }
        freed := []
        result := .ok (UInt32.ofNat entry.memory) }

def dosXmsUnlock (machine : XmsMachine) (handle : UInt16) : XmsOutcome Unit :=
  let pool := machine.pool
  match dosXmsGetHandle pool handle with
  | none => .refuse machine .invalidHandle
  | some slot =>
    let entry := pool.handles slot
    if entry.lockCount = 0 then
      .refuse machine .notLocked
    else
      { machine :=
          { machine with
            pool :=
              { pool with
                handles :=
                  Function.update pool.handles slot
                    { entry with lockCount := entry.lockCount - 1 } } }
        freed := []
        result := .ok () }

structure DosXmsMoveStructure where
  length : UInt32
  sourceHandle : UInt16
  sourceOffset : UInt32
  destinationHandle : UInt16
  destinationOffset : UInt32
  deriving DecidableEq, Repr

/-- What a move leaves behind: the memory, the addresses it read and wrote in order,
and the result. -/
structure XmsMoveOutcome where
  heap : ByteMemory
  accesses : List (Nat × Nat)
  result : Except DosXmsError Unit

/-- `(segment << 4) + offset` of the far pointer a conventional endpoint is given by. -/
def farLinear (farPointer : UInt32) : UInt32 :=
  (((farPointer >>> dosXmsFarSegmentShift) &&& wordMask) <<< paragraphShift)
    + (farPointer &&& wordMask)

/-- One end of a move, as `DosXmsMove` resolves the source and the destination. -/
def dosXmsMoveEndpoint (pool : DosXmsState) (conventionalBase : Nat) (handle : UInt16)
    (offset length : UInt32) (handleError offsetError : DosXmsError) :
    Except DosXmsError Nat :=
  if handle = dosXmsConventionalHandle then
    if dosXmsConventionalLimit < farLinear offset + length then
      .error offsetError
    else
      .ok (conventionalBase + (farLinear offset).toNat)
  else
    match dosXmsGetHandle pool handle with
    | none => .error handleError
    | some slot =>
      let entry := pool.handles slot
      if entry.sizeKb * dosXmsBytesPerKb < offset ∨
          entry.sizeKb * dosXmsBytesPerKb - offset < length then
        .error offsetError
      else
        .ok (entry.memory + offset.toNat)

/-- The address pairs of the two copy loops. -/
def moveAccesses (source destination length : Nat) : List (Nat × Nat) :=
  let up := (List.range length).map fun i => (source + i, destination + i)
  if destination ≤ source then up else up.reverse

def dosXmsMove (machine : XmsMachine) (conventionalBase : Nat) (move : DosXmsMoveStructure) :
    XmsMoveOutcome :=
  if move.length = 0 then
    ⟨machine.heap, [], .ok ()⟩
  else if move.length &&& dosXmsOddLengthMask ≠ 0 then
    ⟨machine.heap, [], .error .invalidLength⟩
  else
    match dosXmsMoveEndpoint machine.pool conventionalBase move.sourceHandle move.sourceOffset
        move.length .invalidSourceHandle .invalidSourceOffset with
    | .error error => ⟨machine.heap, [], .error error⟩
    | .ok source =>
      match dosXmsMoveEndpoint machine.pool conventionalBase move.destinationHandle
          move.destinationOffset move.length .invalidDestinationHandle
          .invalidDestinationOffset with
      | .error error => ⟨machine.heap, [], .error error⟩
      | .ok destination =>
        { heap :=
            if destination ≤ source then
              machine.heap.copyUp destination source move.length.toNat
            else machine.heap.copyDown destination source move.length.toNat
          accesses := moveAccesses source destination move.length.toNat
          result := .ok () }

end Ntvdmex.Dos.Xms
