import Ntvdmex.Foundation.SizedBytes
import Ntvdmex.Foundation.MachineWords

/-!
# The New Executable loader (`ne.c`)

The parse of a module, its entry table and names, its relocations, and the registry that
resolves imports.  `none` is a fault: a read of the image at or past its length, a name
written past its capacity, a segment touched at or past its length, a segment number past
the count, or a shift of a 32-bit value by 32 or more.  An error is the source line that
the code leaves in `Error`.
-/

namespace Ntvdmex.Wow.Ne

open Foundation

def neMaxSeg : Nat := 96
def neMaxMod : Nat := 24
def neMaxName : Nat := 32

def neMzHeaderSize : Nat := 0x40
def neMzLfanew : Nat := 0x3C
def neHeaderSize : Nat := 0x40
def neDefaultAlignShift : Nat := 9
def neSegentSize : Nat := 8
def neSegment64K : Nat := 0x10000
def neBundleHeaderSize : Nat := 2
def neEntryMoveableSize : Nat := 6
def neEntryFixedSize : Nat := 3
def neNameMinRecord : Nat := 3
def neOrdinalBytes : Nat := 2
def neRelocSize : Nat := 8
def neChainEnd : Nat := 0xFFFF

def neEntExported : UInt8 := 0x01
def neEntAbsolute : UInt8 := 0xFE
def neEntMoveable : UInt8 := 0xFF
def neSegRelocs : Nat := 0x0100

def neRelInternal : Nat := 0
def neRelImportOrd : Nat := 1
def neRelImportName : Nat := 2
def neRelAdditive : UInt8 := 0x04

def neAddrLoByte : UInt8 := 0
def neAddrSegment : UInt8 := 2
def neAddrFarAddr : UInt8 := 3
def neAddrOffset16 : UInt8 := 5

/-- A segment; `memory` are its loaded bytes. -/
structure NeSegment where
  sector : Nat
  flags : Nat
  minAlloc : Nat
  fileOffset : Nat
  length : Nat
  selector : Nat
  memory : ByteMemory

structure NeModule where
  image : SizedBytes
  header : Nat
  programFlags : Nat
  autoData : Nat
  heap : Nat
  stack : Nat
  csIp : Nat
  ssSp : Nat
  segmentCount : Nat
  moduleCount : Nat
  movableCount : Nat
  alignShift : Nat
  expectedVersion : Nat
  entryTable : Nat
  entryLength : Nat
  segmentTable : Nat
  resourceTable : Nat
  residentTable : Nat
  moduleTable : Nat
  importTable : Nat
  nonResidentOffset : Nat
  nonResidentLength : Nat
  targetOs : UInt8
  otherFlags : UInt8
  segments : Nat → NeSegment
  sites : Nat

variable (registry : NeRegistry) (module : NeModule) (name : List UInt8) (target : NeModule)
  (ordinal : Nat)

/-- `Segments[index]`, by the count of the module. -/
def NeModule.segmentAt (index : Nat) : Option NeSegment :=
  if index < module.segmentCount then some (module.segments index) else none

/-! ## The parse -/

def neInBounds (image : SizedBytes) (offset length : Nat) : Bool :=
  offset ≤ image.size ∧ length ≤ image.size - offset

/-- `(UINT32)value << shift`. -/
def shiftLeft32 (value shift : Nat) : Option Nat :=
  if shift < 32 then some (dword (value <<< shift)) else none

def emptySegment : NeSegment where
  sector := 0
  flags := 0
  minAlloc := 0
  fileOffset := 0
  length := 0
  selector := 0
  memory := fun _ => 0

/-- The fields of the header, as they stand in the file. -/
def neReadHeader (image : SizedBytes) (header : Nat) : Option NeModule := do
  let entryTable ← image.readWord (header + 0x04)
  let entryLength ← image.readWord (header + 0x06)
  let programFlags ← image.readWord (header + 0x0C)
  let autoData ← image.readWord (header + 0x0E)
  let heap ← image.readWord (header + 0x10)
  let stack ← image.readWord (header + 0x12)
  let csIp ← image.readDword (header + 0x14)
  let ssSp ← image.readDword (header + 0x18)
  let segmentCount ← image.readWord (header + 0x1C)
  let moduleCount ← image.readWord (header + 0x1E)
  let nonResidentLength ← image.readWord (header + 0x20)
  let nonResidentOffset ← image.readDword (header + 0x2C)
  let segmentTable ← image.readWord (header + 0x22)
  let resourceTable ← image.readWord (header + 0x24)
  let residentTable ← image.readWord (header + 0x26)
  let moduleTable ← image.readWord (header + 0x28)
  let importTable ← image.readWord (header + 0x2A)
  let movableCount ← image.readWord (header + 0x30)
  let alignShift ← image.readWord (header + 0x32)
  let targetOs ← image.read (header + 0x36)
  let otherFlags ← image.read (header + 0x37)
  let expectedVersion ← image.readWord (header + 0x3E)
  return { image, header, programFlags, autoData, heap, stack, csIp, ssSp, segmentCount
           moduleCount, movableCount, alignShift, expectedVersion, entryTable, entryLength
           segmentTable, resourceTable, residentTable, moduleTable, importTable
           nonResidentOffset, nonResidentLength, targetOs, otherFlags
           segments := fun _ => emptySegment, sites := 0 }

def alignShiftInForce (alignShift : Nat) : Nat :=
  if alignShift = 0 then neDefaultAlignShift else alignShift

def neParseSegment (image : SizedBytes) (shift entry : Nat) : Option (Except Nat NeSegment) := do
  let sector ← image.readWord entry
  let fileLength ← image.readWord (entry + 2)
  let flags ← image.readWord (entry + 4)
  let minAlloc ← image.readWord (entry + 6)
  let length := if fileLength = 0 ∧ sector ≠ 0 then neSegment64K else fileLength
  let fileOffset ← shiftLeft32 sector shift
  if sector ≠ 0 ∧ neInBounds image fileOffset length = false then return .error 125
  else
    return .ok
      { sector, flags, minAlloc, fileOffset := fileOffset
        length, selector := 0, memory := fun _ => 0 }

/-- The entries of the segment table from `index` on. -/
def neParseSegments (image : SizedBytes) (shift table : Nat) :
    Nat → Nat → (Nat → NeSegment) → Option (Except Nat (Nat → NeSegment))
  | 0, _, segments => some (.ok segments)
  | remaining + 1, index, segments => do
    let parsed ← neParseSegment image shift (table + index * neSegentSize)
    match parsed with
    | .error line => return .error line
    | .ok segment =>
      neParseSegments image shift table remaining (index + 1)
        (Function.update segments index segment)

def neParseTables (image : SizedBytes) (fields : NeModule) : Option (Except Nat NeModule) :=
  let module := { fields with alignShift := alignShiftInForce fields.alignShift }
  if module.segmentCount > neMaxSeg then some (.error 99)
  else if neInBounds image (dword (module.header + module.segmentTable))
      (module.segmentCount * neSegentSize) = false then some (.error 105)
  else do
    let parsed ← neParseSegments image module.alignShift (module.header + module.segmentTable)
      module.segmentCount 0 module.segments
    match parsed with
    | .error line => return .error line
    | .ok segments => return .ok { module with segments }

def neParse (image : SizedBytes) : Option (Except Nat NeModule) :=
  if image.size < neMzHeaderSize then some (.error 51)
  else do
    let first ← image.read 0
    let second ← image.read 1
    if first ≠ 0x4D ∨ second ≠ 0x5A then return .error 51
    else
      let header ← image.readDword neMzLfanew
      if neInBounds image header neHeaderSize = false then return .error 59
      else
        let third ← image.read header
        let fourth ← image.read (header + 1)
        if third ≠ 0x4E ∨ fourth ≠ 0x45 then return .error 65
        else
          let fields ← neReadHeader image header
          neParseTables image fields

structure NeEntry where
  segmentNumber : Nat
  offset : Nat
  flags : UInt8

def entryStep (indicator : UInt8) : Nat :=
  if indicator = neEntMoveable then neEntryMoveableSize
  else if indicator = 0 then 0 else neEntryFixedSize

/-- The entry at `entry`. -/
def neReadEntry (image : SizedBytes) (indicator : UInt8) (entry : Nat) : Option NeEntry := do
  let flags ← image.read entry
  if indicator = neEntMoveable then do
    let segmentNumber ← image.read (entry + 3)
    let offset ← image.readWord (entry + 4)
    some { segmentNumber := segmentNumber.toNat, offset, flags }
  else do
    let offset ← image.readWord (entry + 1)
    some
      { segmentNumber := if indicator = neEntAbsolute then 0 else indicator.toNat
        offset, flags }

/-- The bundles of the entry table from `position` on; a bundle is at least two bytes. -/
def neEntryBundles (image : SizedBytes) (ordinal limit : Nat) :
    Nat → Nat → Nat → Option (Option NeEntry)
  | 0, _, _ => some none
  | rounds + 1, position, current =>
    if limit < dword (position + neBundleHeaderSize) then some none
    else do
      let count ← image.read position
      let indicator ← image.read (dword (position + 1))
      let record := dword (position + neBundleHeaderSize)
      let step := entryStep indicator
      if count = 0 then return none
      else if step = 0 then
        neEntryBundles image ordinal limit rounds record (word (current + count.toNat))
      else if current ≤ ordinal ∧ ordinal < current + count.toNat then
        let entry := dword (record + dword ((ordinal - current) * step))
        if neInBounds image entry step = false then return none
        else
          let found ← neReadEntry image indicator entry
          return some found
      else
        neEntryBundles image ordinal limit rounds (dword (record + count.toNat * step))
          (word (current + count.toNat))

/-- `NeEntryLookupEx`; `NeEntryLookup` drops the flags. -/
def neEntryLookup : Option (Option NeEntry) :=
  let position := dword (module.header + module.entryTable)
  if ordinal = 0 ∨ neInBounds module.image position module.entryLength = false then some none
  else
    neEntryBundles module.image ordinal (dword (position + module.entryLength))
      (module.entryLength + 1) position 1

def neExportByOrdinal : Option (Option NeEntry) := do
  let found ← neEntryLookup module ordinal
  return found.filter fun entry => entry.flags &&& neEntExported ≠ 0

/-! ## Names -/

/-- The bytes of a length-prefixed name into `output`, from `offset` on. -/
def neCopyName (image : SizedBytes) (offset length : Nat) (output : SizedBytes) :
    Option SizedBytes :=
  (List.range length).foldlM
    (fun output index => do
      let value ← image.read (dword (offset + index))
      output.write index value)
    output

/-- `NeNameAt`: whether it found a name, and the buffer, whose size is its capacity. -/
def neNameAt (image : SizedBytes) (offset : Nat) (output : SizedBytes) :
    Option (Bool × SizedBytes) :=
  if output.size = 0 then some (false, output)
  else do
    let cleared ← output.write 0 0
    if neInBounds image offset 1 = false then return (false, cleared)
    else
      let length ← image.read offset
      if neInBounds image (dword (offset + 1)) length.toNat = false ∨
          output.size ≤ length.toNat then
        return (false, cleared)
      else
        let copied ← neCopyName image (dword (offset + 1)) length.toNat cleared
        let terminated ← copied.write length.toNat 0
        return (true, terminated)

def neOwnName (output : SizedBytes) : Option (Bool × SizedBytes) :=
  neNameAt module.image (dword (module.header + module.residentTable)) output

def neImportedName (nameOffset : Nat) (output : SizedBytes) : Option (Bool × SizedBytes) :=
  neNameAt module.image (dword (module.header + module.importTable + nameOffset)) output

/-- `if (capacity > 0) output[0] = 0`. -/
def neClearName (output : SizedBytes) : Option SizedBytes :=
  if output.size = 0 then some output else output.write 0 0

def neRefName (reference : Nat) (output : SizedBytes) : Option (Bool × SizedBytes) := do
  let cleared ← neClearName output
  if reference = 0 ∨ reference > module.moduleCount then return (false, cleared)
  else
    let entry := dword (module.header + module.moduleTable + (reference - 1) * 2)
    if neInBounds module.image entry 2 = false then return (false, cleared)
    else
      let name ← module.image.readWord entry
      neNameAt module.image (dword (module.header + module.importTable + name)) cleared

def neUpper (character : UInt8) : UInt8 :=
  if 0x61 ≤ character ∧ character ≤ 0x7A then character - 0x20 else character

def neEqualIgnoreCase : List UInt8 → List UInt8 → Bool
  | [], [] => true
  | left :: lefts, right :: rights => neUpper left = neUpper right && neEqualIgnoreCase lefts rights
  | _, _ => false

def cString (bytes : SizedBytes) : List UInt8 :=
  ((List.range bytes.size).map bytes.data).takeWhile (· ≠ 0)

/-- A local `CHAR[NE_MAX_NAME]`. -/
def nameBuffer : SizedBytes where
  data := fun _ => 0
  size := neMaxName

/-- The records of a name table from `position` on. -/
def neNameRecords (image : SizedBytes) (limit : Nat) (wanted : List UInt8) :
    Nat → Nat → Bool → Option (Option Nat)
  | 0, _, _ => some none
  | rounds + 1, position, isFirst =>
    if limit < dword (position + neNameMinRecord) then some none
    else do
      let length ← image.read position
      if length = 0 then return none
      else if neInBounds image (dword (position + 1)) (length.toNat + neOrdinalBytes) = false then
        return none
      else
        let (isName, name) ← neNameAt image position nameBuffer
        if isName ∧ isFirst = false ∧ neEqualIgnoreCase (cString name) wanted then
          let ordinal ← image.readWord (dword (position + 1 + length.toNat))
          return some ordinal
        else
          neNameRecords image limit wanted rounds
            (dword (position + (1 + length.toNat + neOrdinalBytes))) false

def neNamesFind (image : SizedBytes) (offset length : Nat) (wanted : List UInt8) :
    Option (Option Nat) :=
  if length = 0 ∨ neInBounds image offset length = false then some none
  else neNameRecords image (dword (offset + length)) wanted (length + 1) offset true

def neResidentFind : Option (Option Nat) :=
  let residentTable := dword (module.header + module.residentTable)
  if residentTable < module.image.size then
    neNamesFind module.image residentTable (module.image.size - residentTable) name
  else some none

def neExportByName : Option (Option Nat) := do
  let resident ← neResidentFind module name
  match resident with
  | some ordinal => return some ordinal
  | none => neNamesFind module.image module.nonResidentOffset module.nonResidentLength name

/-! ## Relocations -/

structure NeRelocation where
  addressType : UInt8
  relocationType : UInt8
  site : Nat
  fieldA : Nat
  fieldB : Nat

def NeRelocation.isAdditive (record : NeRelocation) : Bool :=
  record.relocationType &&& neRelAdditive ≠ 0

def neReadRelocation (image : SizedBytes) (record : Nat) : Option NeRelocation := do
  let addressType ← image.read record
  let relocationType ← image.read (record + 1)
  let site ← image.readWord (record + 2)
  let fieldA ← image.readWord (record + 4)
  let fieldB ← image.readWord (record + 6)
  return { addressType, relocationType, site, fieldA, fieldB }

/-- An importer: from its context, the module, the two fields of a record, and whether it is
asked by name, a selector and an offset, or a refusal. -/
abbrev NeImport (σ : Type) := σ → NeModule → Nat → Nat → Bool → Option (Option (Nat × Nat) × σ)

def neRelocationTarget {σ : Type} (importer : Option (NeImport σ)) (module : NeModule)
    (context : σ) (record : NeRelocation) : Option (Except Nat (Nat × Nat) × σ) :=
  let kind := record.relocationType.toNat % 4
  if kind = neRelInternal then
    if record.fieldA % 256 = neEntMoveable.toNat then do
      let found ← neEntryLookup module record.fieldB
      match found with
      | none => return (.error 420, context)
      | some entry =>
        if entry.segmentNumber = 0 ∨ entry.segmentNumber > module.segmentCount then
          return (.error 426, context)
        else
          let segment ← module.segmentAt (entry.segmentNumber - 1)
          return (.ok (segment.selector, entry.offset), context)
    else if record.fieldA = 0 ∨ record.fieldA > module.segmentCount then
      some (.error 436, context)
    else do
      let segment ← module.segmentAt (record.fieldA - 1)
      return (.ok (segment.selector, record.fieldB), context)
  else if kind = neRelImportOrd ∨ kind = neRelImportName then
    match importer with
    | none => some (.error 455, context)
    | some resolve => do
      let (target, after) ←
        resolve context module record.fieldA record.fieldB (kind = neRelImportName)
      match target with
      | none => return (.error 455, after)
      | some target => return (.ok target, after)
  else some (.error 462, context)

def NeSegment.bytes (segment : NeSegment) : SizedBytes where
  data := segment.memory
  size := segment.length

def nePatchSite (bytes : SizedBytes) (record : NeRelocation) (selector offset site next : Nat) :
    Option (Except Nat SizedBytes) :=
  let offsetWord := word (if record.isAdditive then next + offset else offset)
  if record.addressType = neAddrSegment then do
    let patched ← bytes.writeWord site selector
    return .ok patched
  else if record.addressType = neAddrOffset16 then do
    let patched ← bytes.writeWord site offsetWord
    return .ok patched
  else if record.addressType = neAddrFarAddr then
    if site + 4 > bytes.size then some (.ok bytes)
    else do
      let patched ← bytes.writeWord site offsetWord
      let patched ← patched.writeWord (site + 2) selector
      return .ok patched
  else if record.addressType = neAddrLoByte then do
    let before ← bytes.read site
    let patched ← bytes.write site
      (lowByte (if record.isAdditive then before.toNat + offset else offset))
    return .ok patched
  else some (.error 519)

/-- How far a chain, or a segment's relocations, has come. -/
inductive NeProgress (α : Type) where
  | done (result : α)
  | failed (line : Nat) (result : α)
  | running (result : α)

/-- The sites of one record, at most `rounds` of them: the bytes and the sites patched. -/
def neWalkChain (record : NeRelocation) (selector offset : Nat) :
    Nat → Nat → SizedBytes × Nat → Option (NeProgress (SizedBytes × Nat))
  | 0, _, patched => some (.running patched)
  | rounds + 1, site, (bytes, sites) =>
    if site + 2 > bytes.size then some (.done (bytes, sites))
    else do
      let next ← bytes.readWord site
      let patched ← nePatchSite bytes record selector offset site next
      match patched with
      | .error line => return .failed line (bytes, sites)
      | .ok after =>
        if record.isAdditive ∨ next = neChainEnd then return .done (after, sites + 1)
        else neWalkChain record selector offset rounds next (after, sites + 1)

/-- The module with the bytes of segment `index`, and its sites, after a chain. -/
def NeModule.patched (index : Nat) (after : SizedBytes × Nat) : NeModule :=
  { module with
    segments := Function.update module.segments index
      { module.segments index with memory := after.1.data }
    sites := after.2 }

/-- The records of segment `index` from the one at `position` on. -/
def neApplyRecords {σ : Type} (importer : Option (NeImport σ)) (rounds index : Nat) :
    Nat → Nat → NeModule × σ → Option (NeProgress (NeModule × σ))
  | 0, _, relocated => some (.done relocated)
  | remaining + 1, position, (module, context) => do
    let record ← neReadRelocation module.image position
    let (target, after) ← neRelocationTarget importer module context record
    match target with
    | .error line => return .failed line (module, after)
    | .ok (selector, offset) =>
      let segment ← module.segmentAt index
      let chain ← neWalkChain record selector offset rounds record.site
        (segment.bytes, module.sites)
      match chain with
      | .done patched =>
        neApplyRecords importer rounds index remaining (position + neRelocSize)
          (module.patched index patched, after)
      | .failed line patched => return .failed line (module.patched index patched, after)
      | .running patched => return .running (module.patched index patched, after)

/-- `NeApplyRelocations`, with at most `rounds` sites to a chain. -/
def neApplyRelocations {σ : Type} (importer : Option (NeImport σ)) (rounds : Nat)
    (module : NeModule) (index : Nat) (context : σ) : Option (NeProgress (NeModule × σ)) := do
  let segment ← module.segmentAt index
  if segment.flags &&& neSegRelocs = 0 ∨ segment.sector = 0 then
    return .done (module, context)
  else
    let position := dword (segment.fileOffset + segment.length)
    if neInBounds module.image position 2 = false then return .failed 387 (module, context)
    else
      let count ← module.image.readWord position
      let records := dword (position + 2)
      if neInBounds module.image records (dword (count * neRelocSize)) = false then
        return .failed 396 (module, context)
      else neApplyRecords importer rounds index count records (module, context)

/-! ## The registry -/

structure NeRegistry where
  modules : Nat → NeModule
  names : Nat → List UInt8
  count : Nat
  failedModule : List UInt8
  failedFunction : List UInt8
  failedOrdinal : Nat

def neRegistryAdd : Option (Bool × NeRegistry) :=
  if registry.count ≥ neMaxMod then some (false, registry)
  else do
    let (isName, name) ← neOwnName module nameBuffer
    let named :=
      { registry with names := Function.update registry.names registry.count (cString name) }
    if isName = false then return (false, named)
    else
      return (true,
        { named with
          modules := Function.update registry.modules registry.count module
          count := registry.count + 1 })

def neRegistryFind : Option NeModule :=
  ((List.range registry.count).find? fun index =>
    neEqualIgnoreCase (registry.names index) name).map registry.modules

/-- What an export of `target` resolves to. -/
def neResolveExport : Option (Option (Nat × Nat)) := do
  let found ← neExportByOrdinal target ordinal
  match found with
  | none => return none
  | some entry =>
    if entry.segmentNumber = 0 then return some (entry.offset, entry.offset)
    else if entry.segmentNumber > target.segmentCount then return none
    else
      let segment ← target.segmentAt (entry.segmentNumber - 1)
      if segment.selector = 0 then return none
      else return some (segment.selector, entry.offset)

def neResolveName (nameOffset : Nat) : Option (Option Nat × NeRegistry) := do
  let (isName, functionName) ← neImportedName module nameOffset nameBuffer
  if isName = false then return (none, registry)
  else
    let named := { registry with failedFunction := cString functionName }
    let ordinal ← neExportByName target (cString functionName)
    return (ordinal, named)

def neResolveOrdinal (ordinalOrName : Nat) (isByName : Bool) : Option (Option Nat × NeRegistry) :=
  if isByName then neResolveName registry module target ordinalOrName
  else some (some ordinalOrName, registry)

def neRegistryResolve : NeImport NeRegistry :=
    fun registry module reference ordinalOrName isByName => do
  let cleared := { registry with failedModule := [], failedFunction := [], failedOrdinal := 0 }
  let (isName, moduleName) ← neRefName module reference nameBuffer
  if isName = false then return (none, cleared)
  else
    let named := { cleared with failedModule := cString moduleName }
    match neRegistryFind named (cString moduleName) with
    | none => return (none, named)
    | some target =>
      let (ordinal, searched) ← neResolveOrdinal named module target ordinalOrName isByName
      match ordinal with
      | none => return (none, searched)
      | some ordinal =>
        let resolved ← neResolveExport target ordinal
        return (resolved, { searched with failedOrdinal := ordinal })

end Ntvdmex.Wow.Ne
