import Ntvdmex.Foundation.ByteMemory
import Ntvdmex.Foundation.MachineWords

/-!
# Loading a program image (`dos_loader.h`)

An MZ file states its size twice over: EXEC reserves the page count in
paragraphs, and the loader copies the bytes the pages hold, clipped to the file.
A file is the memory its bytes are read from and the count of bytes read;
conventional memory starts at linear address 0.
-/

namespace Ntvdmex.Dos.Loader

open Foundation

/-! ## The MZ header -/

def dosMzLastPageBytes : Nat := 2
def dosMzPageCount : Nat := 4
def dosMzRelocationCount : Nat := 6
def dosMzHeaderParagraphs : Nat := 8
def dosMzMinAlloc : Nat := 10
def dosMzMaxAlloc : Nat := 12
def dosMzInitialSs : Nat := 14
def dosMzInitialSp : Nat := 16
def dosMzInitialIp : Nat := 20
def dosMzInitialCs : Nat := 22
def dosMzRelocationTable : Nat := 24

def dosMzHeaderMin : Nat := 0x1C
def dosMzPageBytes : Nat := 512
def dosMzPageParagraphs : Nat := 32
def dosMzRelocationEntry : Nat := 4
def dosMzRelocationSegment : Nat := 2

def dosComMaxBytes : Nat := 0xFE00
def dosComEntry : Nat := 0x100
def dosComInitialSp : Nat := 0xFFFE

def dosPspParagraphs : Nat := 0x10
def paragraphSize : Nat := 16

variable (file : ByteMemory) (loadSegment : Nat) (memory : ByteMemory) (bytesRead : Nat)

def dosLoaderReadWord (offset : Nat) : Nat := file.readWord offset

/-- `bytesRead >= DOS_MZ_HEADER_MIN && file[0] == 'M' && file[1] == 'Z'`. -/
def IsMzFile : Prop :=
  dosMzHeaderMin ≤ bytesRead ∧ file 0 = 0x4D ∧ file 1 = 0x5A
deriving Decidable

/-! ## Loading -/

structure DosImage where
  codeSegment : Nat
  instructionPointer : Nat
  stackSegment : Nat
  stackPointer : Nat
  isExe : Bool
  imageSize : Nat
  deriving DecidableEq, Repr

def segmentAddress (segment : Nat) : Nat := segment <<< 4

def mzLoadSegment (pspSegment requestedSegment : Nat) : Nat :=
  if requestedSegment ≠ 0 then requestedSegment else word (pspSegment + dosPspParagraphs)

def mzTotalUsed : Nat :=
  let lastPageBytes := dosLoaderReadWord file dosMzLastPageBytes
  let pageCount := dosLoaderReadWord file dosMzPageCount
  let totalUsed :=
    if pageCount ≠ 0 then
      (pageCount - 1) * dosMzPageBytes
        + (if lastPageBytes ≠ 0 then lastPageBytes else dosMzPageBytes)
    else bytesRead
  if bytesRead < totalUsed then bytesRead else totalUsed

def mzHeaderSize : Nat :=
  dosLoaderReadWord file dosMzHeaderParagraphs * paragraphSize

/-- The bytes of the load module that are copied. -/
def mzImageSize : Nat :=
  if mzHeaderSize file < mzTotalUsed file bytesRead then
    mzTotalUsed file bytesRead - mzHeaderSize file
  else 0

def applyRelocation (relocationTable : Nat) (memory : ByteMemory) (index : Nat) : ByteMemory :=
  let entry := relocationTable + index * dosMzRelocationEntry
  let fixupOffset := dosLoaderReadWord file entry
  let fixupSegment := dosLoaderReadWord file (entry + dosMzRelocationSegment)
  let fixup := segmentAddress (loadSegment + fixupSegment) + fixupOffset
  memory.writeWord fixup (word (memory.readWord fixup + loadSegment))

def dosLoadImageAt (file : ByteMemory) (bytesRead pspSegment requestedSegment : Nat) :
    ByteMemory × DosImage :=
  if IsMzFile file bytesRead then
    let relocationCount := dosLoaderReadWord file dosMzRelocationCount
    let relocationTable := dosLoaderReadWord file dosMzRelocationTable
    let loadSegment := mzLoadSegment pspSegment requestedSegment
    let imageSize := mzImageSize file bytesRead
    let loaded := memory.copyFrom (segmentAddress loadSegment) file (mzHeaderSize file) imageSize
    let relocated :=
      (List.range relocationCount).foldl (applyRelocation file loadSegment relocationTable) loaded
    (relocated,
      { codeSegment := word (loadSegment + dosLoaderReadWord file dosMzInitialCs)
        instructionPointer := dosLoaderReadWord file dosMzInitialIp
        stackSegment := word (loadSegment + dosLoaderReadWord file dosMzInitialSs)
        stackPointer := dosLoaderReadWord file dosMzInitialSp
        isExe := true
        imageSize })
  else
    let comSize := if dosComMaxBytes < bytesRead then dosComMaxBytes else bytesRead
    (memory.copyFrom (segmentAddress pspSegment + dosComEntry) file 0 comSize,
      { codeSegment := pspSegment
        instructionPointer := dosComEntry
        stackSegment := pspSegment
        stackPointer := dosComInitialSp
        isExe := false
        imageSize := comSize })

def applyOverlayRelocation (relocationFactor relocationTable : Nat) (memory : ByteMemory)
    (index : Nat) : ByteMemory :=
  let entry := relocationTable + index * dosMzRelocationEntry
  let fixupOffset := dosLoaderReadWord file entry
  let fixupSegment := dosLoaderReadWord file (entry + dosMzRelocationSegment)
  let fixup := segmentAddress (loadSegment + fixupSegment) + fixupOffset
  memory.writeWord fixup (word (memory.readWord fixup + relocationFactor))

def dosLoadOverlay (file : ByteMemory) (bytesRead loadSegment relocationFactor : Nat) :
    ByteMemory × Nat :=
  if IsMzFile file bytesRead then
    let relocationCount := dosLoaderReadWord file dosMzRelocationCount
    let relocationTable := dosLoaderReadWord file dosMzRelocationTable
    let imageSize := mzImageSize file bytesRead
    let loaded := memory.copyFrom (segmentAddress loadSegment) file (mzHeaderSize file) imageSize
    ((List.range relocationCount).foldl
      (applyOverlayRelocation file loadSegment relocationFactor relocationTable) loaded, imageSize)
  else (memory.copyFrom (segmentAddress loadSegment) file 0 bytesRead, bytesRead)

def isMzFileLogged : Logged Bool := do
  if bytesRead < dosMzHeaderMin then pure false
  else
    let first ← Logged.byte file 0
    if first ≠ 0x4D then pure false
    else
      let second ← Logged.byte file 1
      pure (decide (second = 0x5A))

/-- The header size, the relocation count and table and the image size, as both loaders read
them. -/
def mzHeaderLogged : Logged (Nat × Nat × Nat × Nat) := do
  let headerParagraphs ← Logged.word file dosMzHeaderParagraphs
  let relocationCount ← Logged.word file dosMzRelocationCount
  let relocationTable ← Logged.word file dosMzRelocationTable
  let lastPageBytes ← Logged.word file dosMzLastPageBytes
  let pageCount ← Logged.word file dosMzPageCount
  let headerSize := headerParagraphs * paragraphSize
  let totalUsed :=
    if pageCount ≠ 0 then
      (pageCount - 1) * dosMzPageBytes
        + (if lastPageBytes ≠ 0 then lastPageBytes else dosMzPageBytes)
    else bytesRead
  let totalUsed := if bytesRead < totalUsed then bytesRead else totalUsed
  pure (headerSize, relocationCount, relocationTable,
    if headerSize < totalUsed then totalUsed - headerSize else 0)

def copyLogged (origin target size : Nat) (memory : ByteMemory) : Logged ByteMemory :=
  Logged.loop
    (fun memory index => do
      let byte ← Logged.byte file (origin + index)
      pure (memory.store (target + index) byte))
    (List.range size) memory

def relocateLogged (factor relocationTable count : Nat) (memory : ByteMemory) : Logged ByteMemory :=
  Logged.loop
    (fun memory index => do
      let entry := relocationTable + index * dosMzRelocationEntry
      let fixupOffset ← Logged.word file entry
      let fixupSegment ← Logged.word file (entry + dosMzRelocationSegment)
      let fixup := segmentAddress (loadSegment + fixupSegment) + fixupOffset
      pure (memory.writeWord fixup (word (memory.readWord fixup + factor))))
    (List.range count) memory

def dosLoadImageAtLogged (file : ByteMemory) (bytesRead pspSegment requestedSegment : Nat) :
    Logged (ByteMemory × DosImage) := do
  let isMz ← isMzFileLogged file bytesRead
  if isMz then
    let (headerSize, relocationCount, relocationTable, imageSize) ← mzHeaderLogged file bytesRead
    let loadSegment := mzLoadSegment pspSegment requestedSegment
    let loaded ← copyLogged file headerSize (segmentAddress loadSegment) imageSize memory
    let relocated ←
      relocateLogged file loadSegment loadSegment relocationTable relocationCount loaded
    let initialCs ← Logged.word file dosMzInitialCs
    let initialIp ← Logged.word file dosMzInitialIp
    let initialSs ← Logged.word file dosMzInitialSs
    let initialSp ← Logged.word file dosMzInitialSp
    pure (relocated,
      { codeSegment := word (loadSegment + initialCs)
        instructionPointer := initialIp
        stackSegment := word (loadSegment + initialSs)
        stackPointer := initialSp
        isExe := true
        imageSize })
  else
    let comSize := if dosComMaxBytes < bytesRead then dosComMaxBytes else bytesRead
    let loaded ← copyLogged file 0 (segmentAddress pspSegment + dosComEntry) comSize memory
    pure (loaded,
      { codeSegment := pspSegment
        instructionPointer := dosComEntry
        stackSegment := pspSegment
        stackPointer := dosComInitialSp
        isExe := false
        imageSize := comSize })

def dosLoadOverlayLogged (file : ByteMemory) (bytesRead loadSegment relocationFactor : Nat) :
    Logged (ByteMemory × Nat) := do
  let isMz ← isMzFileLogged file bytesRead
  if isMz then
    let (headerSize, relocationCount, relocationTable, imageSize) ← mzHeaderLogged file bytesRead
    let loaded ← copyLogged file headerSize (segmentAddress loadSegment) imageSize memory
    let relocated ←
      relocateLogged file loadSegment relocationFactor relocationTable relocationCount loaded
    pure (relocated, imageSize)
  else
    let loaded ← copyLogged file 0 (segmentAddress loadSegment) bytesRead memory
    pure (loaded, bytesRead)

def dosImageParagraphs : Nat :=
  if IsMzFile file bytesRead then
    let pageParagraphs := dosLoaderReadWord file dosMzPageCount * dosMzPageParagraphs
    let headerParagraphs := dosLoaderReadWord file dosMzHeaderParagraphs
    word (if headerParagraphs < pageParagraphs then pageParagraphs - headerParagraphs else 0)
  else 0

inductive DosExecError
  | insufficientMemory
  deriving DecidableEq, Repr

/-- The paragraphs to allocate, PSP included, and whether the image is loaded high. -/
def dosExecSize (largest : Nat) : Except DosExecError (Nat × Bool) :=
  if IsMzFile file bytesRead then
    let imageParagraphs := dosImageParagraphs file bytesRead
    let minimumAlloc := dosLoaderReadWord file dosMzMinAlloc
    let maximumAlloc := dosLoaderReadWord file dosMzMaxAlloc
    let needed := dosPspParagraphs + imageParagraphs + minimumAlloc
    if largest < needed then
      .error .insufficientMemory
    else if minimumAlloc = 0 ∧ maximumAlloc = 0 then
      .ok (largest, true)
    else
      let wanted := dosPspParagraphs + imageParagraphs + maximumAlloc
      let wanted := if wanted < needed then needed else wanted
      .ok (word (if wanted < largest then wanted else largest), false)
  else
    .ok (largest, false)

def execRequestedSegment (pspSegment allocation : Nat) (loadHigh : Bool) : Nat :=
  if loadHigh then word (pspSegment + allocation + 65536 - dosImageParagraphs file bytesRead)
  else 0

end Ntvdmex.Dos.Loader
