import Ntvdmex.Foundation.ByteMemory
import Ntvdmex.Foundation.MachineWords

/-!
# Conventional memory: the MCB chain (`dos_mcb.h`)

Each block of conventional memory is preceded by a 16-byte header holding a
signature, the owner's PSP segment and the block's size in paragraphs.  The
allocator keeps no other state: it walks and rewrites the headers in place.

`DosMcbAllocate` and the coalescing loop of `DosMcbFree` have no iteration
bound in the source, so their models take a step budget and answer `none` when
it runs out.
-/

namespace Ntvdmex.Dos.Mcb

open Foundation

def dosPspSeg : Nat := 0x0100
def dosMemTop : Nat := 0x9FC0
def dosFirstMcb : Nat := 0x007E
def dosEnvParas : Nat := 0x0010
def dosResblkMcb : Nat := 0x008F
def dosResblkParas : Nat := dosPspSeg - 1 - dosResblkMcb - 1

/-- Offsets of the header's fields. -/
def dosMcbSignature : Nat := 0
def dosMcbOwner : Nat := 1
def dosMcbSize : Nat := 3
def dosMcbName : Nat := 8

/-- `'M'`: another header follows the block. -/
def dosMcbMember : UInt8 := 0x4D
/-- `'Z'`: the block is the last one. -/
def dosMcbLast : UInt8 := 0x5A

def dosMcbOwnerFree : Nat := 0
def dosMcbOwnerDos : Nat := 0x0008
def dosMcbWalkLimit : Nat := 0x1000
def dosMcbNoSegment : Nat := 0

variable (memory : ByteMemory) (segment : Nat)

def dosMcbSegmentAddress : Nat := segment <<< 4

/-- The three header fields the allocator reads, by the header's segment. -/
def mcbSignature : UInt8 :=
  memory (dosMcbSegmentAddress segment + dosMcbSignature)

def mcbOwner : Nat :=
  memory.readWord (dosMcbSegmentAddress segment + dosMcbOwner)

def mcbSize : Nat :=
  memory.readWord (dosMcbSegmentAddress segment + dosMcbSize)

def setMcbSignature (signature : UInt8) : ByteMemory :=
  memory.store (dosMcbSegmentAddress segment + dosMcbSignature) signature

def setMcbOwner (owner : Nat) : ByteMemory :=
  memory.writeWord (dosMcbSegmentAddress segment + dosMcbOwner) owner

def setMcbSize (paragraphs : Nat) : ByteMemory :=
  memory.writeWord (dosMcbSegmentAddress segment + dosMcbSize) paragraphs

def clearMcbName : ByteMemory :=
  memory.store (dosMcbSegmentAddress segment + dosMcbName) 0

def dosMcbWriteHeader (mcbSegment : Nat) (signature : UInt8) (owner paragraphs : Nat) :
    ByteMemory :=
  clearMcbName
    (setMcbSize
      (setMcbOwner (setMcbSignature memory mcbSegment signature) mcbSegment owner)
      mcbSegment paragraphs)
    mcbSegment

def isMcbSignature (signature : UInt8) : Bool :=
  signature = dosMcbMember || signature = dosMcbLast

/-- What the services report beside `DOS_MCB_SUCCESS`, with the out-parameter
written on that path. -/
inductive DosMcbError where
  /-- Error 8, with the largest size available. -/
  | insufficientMemory (largest : Nat)
  /-- Error 9. -/
  | invalidBlock
  deriving DecidableEq, Repr

def dosMcbInitializeWithTop (top : Nat) : ByteMemory :=
  dosMcbWriteHeader
    (dosMcbWriteHeader
      (dosMcbWriteHeader memory dosFirstMcb dosMcbMember dosPspSeg dosEnvParas)
      dosResblkMcb dosMcbMember dosMcbOwnerDos dosResblkParas)
    (dosPspSeg - 1) dosMcbLast dosPspSeg (wordSub top dosPspSeg)

/-- The walk of `DosMcbReserveTop`: `remaining` is how often `++walkCount` stays
within the limit, `previous` the block before this one, once there is one. -/
def dosMcbReserveTopWalk (paragraphs remaining : Nat) (memory : ByteMemory)
    (mcbSegment : Nat) (previous : Option Nat) : ByteMemory × Nat :=
  let blockSize := mcbSize memory mcbSegment
  if mcbSignature memory mcbSegment = dosMcbLast then
    match if mcbOwner memory mcbSegment = dosMcbOwnerDos then previous else none with
    | some previousSegment =>
      let previousSize := mcbSize memory previousSegment
      if previousSize < word (paragraphs + 2) then
        (memory, dosMcbNoSegment)
      else
        let kept := wordSub (wordSub previousSize paragraphs) 1
        let newSegment := word (previousSegment + 1 + kept)
        (dosMcbWriteHeader (setMcbSize memory previousSegment kept)
          newSegment dosMcbMember dosMcbOwnerDos paragraphs, word (newSegment + 1))
    | none =>
      if blockSize < word (paragraphs + 2) then
        (memory, dosMcbNoSegment)
      else
        let kept := wordSub (wordSub blockSize paragraphs) 1
        let newTop := word (mcbSegment + 1 + kept)
        (dosMcbWriteHeader
          (setMcbSignature (setMcbSize memory mcbSegment kept) mcbSegment dosMcbMember)
          newTop dosMcbLast dosMcbOwnerDos paragraphs, word (newTop + 1))
  else if mcbSignature memory mcbSegment ≠ dosMcbMember then
    (memory, dosMcbNoSegment)
  else
    match remaining with
    | 0 => (memory, dosMcbNoSegment)
    | remaining + 1 =>
      dosMcbReserveTopWalk paragraphs remaining memory
        (word (mcbSegment + 1 + blockSize)) (some mcbSegment)

def dosMcbReserveTop (firstMcb paragraphs : Nat) : ByteMemory × Nat :=
  dosMcbReserveTopWalk paragraphs dosMcbWalkLimit memory firstMcb none

/-- The inner loop of `DosMcbAllocate`: absorb the free blocks that follow a
free block, keeping its size and signature in step with the header. -/
def dosMcbAllocateMerge : Nat → ByteMemory → Nat → Nat → UInt8 →
    Option (ByteMemory × Nat × UInt8)
  | 0, _, _, _, _ => none
  | fuel + 1, memory, mcbSegment, blockSize, signature =>
    if signature = dosMcbMember then
      let nextMcb := word (mcbSegment + 1 + blockSize)
      if mcbOwner memory nextMcb ≠ dosMcbOwnerFree then
        some (memory, blockSize, signature)
      else if ¬ isMcbSignature (mcbSignature memory nextMcb) then
        some (memory, blockSize, signature)
      else
        let blockSize := word (blockSize + 1 + mcbSize memory nextMcb)
        let memory := setMcbSize memory mcbSegment blockSize
        let signature := mcbSignature memory nextMcb
        dosMcbAllocateMerge fuel (setMcbSignature memory mcbSegment signature)
          mcbSegment blockSize signature
    else
      some (memory, blockSize, signature)

/-- Give a free block that is large enough to the program, leaving what it does
not need as a free tail with the block's old signature. -/
def dosMcbAllocateTake (mcbSegment requested blockSize : Nat) (signature : UInt8) : ByteMemory :=
  let memory :=
    if word (requested + 1) ≤ blockSize then
      let nextMcb := word (mcbSegment + 1 + requested)
      setMcbSize
        (setMcbSignature
          (dosMcbWriteHeader memory nextMcb signature dosMcbOwnerFree
            (wordSub (wordSub blockSize requested) 1))
          mcbSegment dosMcbMember)
        mcbSegment requested
    else memory
  setMcbOwner memory mcbSegment dosPspSeg

def dosMcbAllocateWalk (requested : Nat) : Nat → ByteMemory → Nat → Nat →
    Option (ByteMemory × Except DosMcbError Nat)
  | 0, _, _, _ => none
  | fuel + 1, memory, mcbSegment, biggest =>
    let signature := mcbSignature memory mcbSegment
    let blockSize := mcbSize memory mcbSegment
    if mcbOwner memory mcbSegment = dosMcbOwnerFree then
      match dosMcbAllocateMerge fuel memory mcbSegment blockSize signature with
      | none => none
      | some (memory, blockSize, signature) =>
        let biggest := if biggest < blockSize then blockSize else biggest
        if requested ≤ blockSize then
          some (dosMcbAllocateTake memory mcbSegment requested blockSize signature,
            .ok (word (mcbSegment + 1)))
        else if signature = dosMcbLast then
          some (memory, .error (.insufficientMemory biggest))
        else
          dosMcbAllocateWalk requested fuel memory
            (word (mcbSegment + 1 + blockSize)) biggest
    else if signature = dosMcbLast then
      some (memory, .error (.insufficientMemory biggest))
    else
      dosMcbAllocateWalk requested fuel memory
        (word (mcbSegment + 1 + blockSize)) biggest

/-- AH=48h. -/
def dosMcbAllocate (fuel : Nat) (memory : ByteMemory) (firstMcb requested : Nat) :
    Option (ByteMemory × Except DosMcbError Nat) :=
  dosMcbAllocateWalk requested fuel memory firstMcb 0

/-- The loop of `DosMcbFree`, which re-reads the header on every turn. -/
def dosMcbFreeCoalesce : Nat → ByteMemory → Nat → Option ByteMemory
  | 0, _, _ => none
  | fuel + 1, memory, mcbSegment =>
    if mcbSignature memory mcbSegment = dosMcbMember then
      let blockSize := mcbSize memory mcbSegment
      let nextMcb := word (mcbSegment + 1 + blockSize)
      if mcbOwner memory nextMcb ≠ dosMcbOwnerFree then
        some memory
      else if ¬ isMcbSignature (mcbSignature memory nextMcb) then
        some memory
      else
        let memory :=
          setMcbSize memory mcbSegment (word (blockSize + 1 + mcbSize memory nextMcb))
        dosMcbFreeCoalesce fuel
          (setMcbSignature memory mcbSegment (mcbSignature memory nextMcb)) mcbSegment
    else
      some memory

/-- AH=49h. -/
def dosMcbFree (fuel : Nat) (memory : ByteMemory) (blockSegment : Nat) :
    Option (ByteMemory × Except DosMcbError Unit) :=
  let mcbSegment := wordSub blockSegment 1
  if ¬ isMcbSignature (mcbSignature memory mcbSegment) then
    some (memory, .error .invalidBlock)
  else
    match dosMcbFreeCoalesce fuel (setMcbOwner memory mcbSegment dosMcbOwnerFree)
        mcbSegment with
    | none => none
    | some memory => some (memory, .ok ())

/-- AH=4Ah.  A shrink frees the tail; a growth takes from the one block that
follows. -/
def dosMcbResize (blockSegment requested : Nat) : ByteMemory × Except DosMcbError Unit :=
  let mcbSegment := wordSub blockSegment 1
  let signature := mcbSignature memory mcbSegment
  let currentSize := mcbSize memory mcbSegment
  let nextMcb := word (mcbSegment + 1 + currentSize)
  let tailMcb := word (mcbSegment + 1 + requested)
  if ¬ isMcbSignature signature then
    (memory, .error .invalidBlock)
  else if requested ≤ currentSize then
    if 1 ≤ wordSub currentSize requested then
      (setMcbSize
        (setMcbSignature
          (dosMcbWriteHeader memory tailMcb signature dosMcbOwnerFree
            (wordSub (wordSub currentSize requested) 1))
          mcbSegment dosMcbMember)
        mcbSegment requested, .ok ())
    else
      (memory, .ok ())
  else if signature = dosMcbMember ∧ mcbOwner memory nextMcb = dosMcbOwnerFree then
    let available := word (currentSize + 1 + mcbSize memory nextMcb)
    if requested ≤ available then
      if 1 ≤ wordSub available requested then
        (setMcbSignature
          (setMcbSize
            (dosMcbWriteHeader memory tailMcb (mcbSignature memory nextMcb)
              dosMcbOwnerFree (wordSub (wordSub available requested) 1))
            mcbSegment requested)
          mcbSegment dosMcbMember, .ok ())
      else
        let memory := setMcbSize memory mcbSegment available
        (setMcbSignature memory mcbSegment (mcbSignature memory nextMcb), .ok ())
    else
      (memory, .error (.insufficientMemory available))
  else
    (memory, .error (.insufficientMemory currentSize))

inductive DosMcbChainStatus where
  | ok
  | runaway
  | corruptSignature
  | overrunsTop
  | lastMisplaced
  deriving DecidableEq, Repr

def dosMcbCheckChainWalk (memory : ByteMemory) (topParagraph : Nat) :
    Nat → Nat → DosMcbChainStatus
  | 0, _ => .runaway
  | remaining + 1, mcbSegment =>
    let signature := mcbSignature memory mcbSegment
    let nextSegment := mcbSegment + 1 + mcbSize memory mcbSegment
    if ¬ isMcbSignature signature then .corruptSignature
    else if topParagraph < nextSegment then .overrunsTop
    else if signature = dosMcbLast then
      if nextSegment = topParagraph then .ok else .lastMisplaced
    else dosMcbCheckChainWalk memory topParagraph remaining (word nextSegment)

def dosMcbCheckChain (firstMcb topParagraph : Nat) : DosMcbChainStatus :=
  dosMcbCheckChainWalk memory topParagraph dosMcbWalkLimit firstMcb

end Ntvdmex.Dos.Mcb
