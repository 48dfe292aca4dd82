import Ntvdmex.Foundation.MachineWords
import Ntvdmex.Foundation.SizedBytes
import Ntvdmex.Foundation.Strings

/-!
# A FAT12/FAT16 disk image (`dos_fatimg.c`)

The image is bytes with a size, and every access to it is a read that faults at
or past the size.  The geometry is the 32-bit numbers mounting computes from the
boot sector.  A directory or a chain is walked with a budget of steps, the
cluster count and one, counted down where the source counts up.
-/

namespace Ntvdmex.Dos.FatImg

open Foundation

/-! ## The boot sector -/

def fatBpbBytesPerSector : Nat := 11
def fatBpbSectorsPerCluster : Nat := 13
def fatBpbReservedSectors : Nat := 14
def fatBpbFatCount : Nat := 16
def fatBpbRootEntries : Nat := 17
def fatBpbTotalSectors16 : Nat := 19
def fatBpbMedia : Nat := 21
def fatBpbSectorsPerFat : Nat := 22
def fatBpbTotalSectors32 : Nat := 32

def fatImageSectorSize : Nat := 512
def fatImageEntrySize : Nat := 32
def fatImageRawNameSize : Nat := 11

def fatFirstDataCluster : Nat := 2
def fat12MaxClusters : Nat := 4084
def fat16MaxClusters : Nat := 65524
def fat12EndOfChain : Nat := 0xFF8
def fat16EndOfChain : Nat := 0xFFF8
def fat12EntryMask : Nat := 0xFFF
def fat12OddShift : Nat := 4

def fatDword (data : ByteMemory) (index : Nat) : Nat :=
  data.readWord index + 65536 * data.readWord (index + 2)

/-- The sixteen-bit sector count, or the thirty-two-bit one when that is zero. -/
def bpbTotalSectors (data : ByteMemory) : Nat :=
  if data.readWord fatBpbTotalSectors16 ≠ 0 then data.readWord fatBpbTotalSectors16
  else fatDword data fatBpbTotalSectors32

structure FatImage where
  data : ByteMemory
  size : Nat
  bytesPerSector : Nat
  sectorsPerCluster : Nat
  fatCount : Nat
  media : UInt8
  isFat16 : Bool
  reservedSectors : Nat
  rootEntries : Nat
  sectorsPerFat : Nat
  totalSectors : Nat
  fatOffset : Nat
  rootOffset : Nat
  dataOffset : Nat
  clusterSize : Nat
  clusterCount : Nat

def FatImage.bytes (image : FatImage) : SizedBytes where
  data := image.data
  size := image.size

def fatImageMount (data : ByteMemory) (size : Nat) : Option FatImage :=
  if size < fatImageSectorSize then none
  else
    let bytesPerSector := data.readWord fatBpbBytesPerSector
    let sectorsPerCluster := (data fatBpbSectorsPerCluster).toNat
    let reservedSectors := data.readWord fatBpbReservedSectors
    let fatCount := (data fatBpbFatCount).toNat
    let rootEntries := data.readWord fatBpbRootEntries
    let sectorsPerFat := data.readWord fatBpbSectorsPerFat
    let totalSectors := bpbTotalSectors data
    if bytesPerSector ≠ fatImageSectorSize ∨ sectorsPerCluster = 0
        ∨ sectorsPerCluster &&& (sectorsPerCluster - 1) ≠ 0 ∨ fatCount = 0
        ∨ rootEntries = 0 ∨ sectorsPerFat = 0 ∨ reservedSectors = 0 ∨ totalSectors = 0 then
      none
    else
      let rootBytes := rootEntries * fatImageEntrySize
      let fatOffset := reservedSectors * fatImageSectorSize
      let rootOffset := dword (fatOffset + fatCount * sectorsPerFat * fatImageSectorSize)
      let firstDataSector := rootOffset / fatImageSectorSize
        + (rootBytes + fatImageSectorSize - 1) / fatImageSectorSize
      let dataOffset := dword (firstDataSector * fatImageSectorSize)
      let clusterSize := sectorsPerCluster * fatImageSectorSize
      if totalSectors ≤ firstDataSector ∨ size < dataOffset then none
      else
        let dataSectors := totalSectors - firstDataSector
        let clusterCount := dataSectors / sectorsPerCluster
        if clusterCount = 0 ∨ fat16MaxClusters < clusterCount then none
        else
          let isFat16 := decide (fat12MaxClusters < clusterCount)
          let fatBytes :=
            if isFat16 then (clusterCount + fatFirstDataCluster) * 2
            else ((clusterCount + fatFirstDataCluster) * 3 + 1) / 2
          if sectorsPerFat * fatImageSectorSize < fatBytes ∨ size < dword (rootOffset + rootBytes)
          then none
          else
            some
              { data := data
                size, bytesPerSector, sectorsPerCluster, fatCount
                media := data fatBpbMedia
                isFat16, reservedSectors, rootEntries, sectorsPerFat, totalSectors, fatOffset
                rootOffset, dataOffset, clusterSize, clusterCount }

/-! ## Clusters -/

def FatImageIsDataCluster (image : FatImage) (cluster : Nat) : Prop :=
  fatFirstDataCluster ≤ cluster ∧ cluster < image.clusterCount + fatFirstDataCluster
deriving Decidable

def fatImageNextCluster (image : FatImage) (cluster : Nat) : Option Nat :=
  if image.isFat16 then
    image.bytes.readWord (image.fatOffset + cluster * 2)
  else do
    let packed ← image.bytes.readWord (image.fatOffset + (cluster + cluster / 2))
    return if cluster &&& 1 ≠ 0 then packed >>> fat12OddShift else packed &&& fat12EntryMask

def FatIsEndOfChain (image : FatImage) (cluster : Nat) : Prop :=
  (if image.isFat16 then fat16EndOfChain else fat12EndOfChain) ≤ cluster
deriving Decidable

def clusterOffset (image : FatImage) (cluster : Nat) : Nat :=
  dword (image.dataOffset + (cluster - fatFirstDataCluster) * image.clusterSize)

/-- `clusterOffset + image->ClusterSize > image->Size`, in 32 bits. -/
def ClusterOutside (image : FatImage) (cluster : Nat) : Prop :=
  image.size < dword (clusterOffset image cluster + image.clusterSize)
deriving Decidable

/-! ## Directory entries -/

def fatEntryAttributes : Nat := 11
def fatEntryTime : Nat := 22
def fatEntryDate : Nat := 24
def fatEntryFirstCluster : Nat := 26
def fatEntrySize : Nat := 28
def fatEntryBaseNameSize : Nat := 8
def fatEntryEnd : UInt8 := 0x00
def fatEntryDeleted : UInt8 := 0xE5
def fatEntryKanjiE5 : UInt8 := 0x05
def fatEntryDot : UInt8 := 0x2E
def fatNamePad : UInt8 := 0x20

def fatAttributeVolume : UInt8 := 0x08
def fatAttributeDirectory : UInt8 := 0x10
def fatAttributeLongName : UInt8 := 0x0F

structure FatEntry where
  name : List UInt8
  rawName : List UInt8
  attributes : UInt8
  time : UInt16
  date : UInt16
  firstCluster : UInt16
  size : UInt32
  deriving DecidableEq, Repr

/-- `text` without the padding at its end. -/
def trimPad (text : List UInt8) : List UInt8 :=
  text.rdropWhile (· == fatNamePad)

/-- `"NAME    EXT"` to `"NAME.EXT"`. -/
def fatEntryName (raw : List UInt8) : List UInt8 :=
  let base := trimPad (raw.take fatEntryBaseNameSize)
  let extension := trimPad (raw.drop fatEntryBaseNameSize)
  let base :=
    match base with
    | first :: rest => (if first = fatEntryKanjiE5 then fatEntryDeleted else first) :: rest
    | [] => []
  if extension = [] then base else base ++ 0x2E :: extension

def fatEntryRead (image : FatImage) (raw : Nat) : Option FatEntry := do
  let rawName ← image.bytes.readBytes raw fatImageRawNameSize
  let attributes ← image.bytes.read (raw + fatEntryAttributes)
  let time ← image.bytes.readWord (raw + fatEntryTime)
  let date ← image.bytes.readWord (raw + fatEntryDate)
  let firstCluster ← image.bytes.readWord (raw + fatEntryFirstCluster)
  let size ← image.bytes.readDword (raw + fatEntrySize)
  return {
    name := fatEntryName rawName
    rawName, attributes
    time := UInt16.ofNat time
    date := UInt16.ofNat date
    firstCluster := UInt16.ofNat firstCluster
    size := UInt32.ofNat size }

section Walk

variable {σ : Type} (image : FatImage)

/-- What is done with one raw entry: the context after it, and whether to go on. -/
abbrev FatVisit (σ : Type) := Nat → σ → Option (σ × Bool)

/-- `count` raw entries from `raw` on. -/
def visitEntries (visit : FatVisit σ) : Nat → Nat → σ → Option (σ × Bool)
  | 0, _, context => some (context, true)
  | count + 1, raw, context => do
    let visited ← visit raw context
    if visited.2 then visitEntries visit count (raw + fatImageEntrySize) visited.1
    else some visited

/-- A cluster chain from `cluster` on, for as many clusters as there are steps left. -/
def walkClusters (visit : FatVisit σ) : Nat → Nat → σ → Option σ
  | 0, _, context => some context
  | steps + 1, cluster, context =>
    if ¬ FatImageIsDataCluster image cluster then some context
    else if ClusterOutside image cluster then some context
    else do
      let visited ← visitEntries visit (image.clusterSize / fatImageEntrySize)
        (clusterOffset image cluster) context
      if visited.2 then do
        let next ← fatImageNextCluster image cluster
        walkClusters visit steps next visited.1
      else some visited.1

def fatWalkDirectory (firstCluster : Nat) (visit : FatVisit σ) (context : σ) : Option σ :=
  if firstCluster = 0 then do
    let visited ← visitEntries visit image.rootEntries image.rootOffset context
    return visited.1
  else walkClusters image visit (image.clusterCount + 1) firstCluster context

end Walk

/-- An entry a listing leaves out: deleted, `.` or `..`, a long name, a volume label. -/
def IsHiddenEntry (first attributes : UInt8) : Prop :=
  first = fatEntryDeleted ∨ first = fatEntryDot
    ∨ attributes &&& fatAttributeLongName = fatAttributeLongName
    ∨ attributes &&& fatAttributeVolume ≠ 0
deriving Decidable

structure FatListContext where
  entries : List FatEntry
  count : Nat

def fatListVisit (image : FatImage) (capacity : Nat) : FatVisit FatListContext :=
  fun raw list => do
    let attributes ← image.bytes.read (raw + fatEntryAttributes)
    let first ← image.bytes.read raw
    if first = fatEntryEnd then some (list, false)
    else if IsHiddenEntry first attributes then some (list, true)
    else if list.count < capacity then do
      let entry ← fatEntryRead image raw
      return ({ entries := list.entries ++ [entry], count := list.count + 1 }, true)
    else some ({ list with count := list.count + 1 }, true)

/-- The entries that fit and the count of all.  No `entries` is a capacity of zero. -/
def fatImageListDirectory (image : FatImage) (firstCluster capacity : Nat) :
    Option FatListContext :=
  fatWalkDirectory image firstCluster (fatListVisit image capacity)
    { entries := [], count := 0 }

/-! ## Looking a path up -/

def upperCase (c : UInt8) : UInt8 :=
  if 0x61 ≤ c ∧ c ≤ 0x7A then c &&& ~~~0x20 else c

def fatNameMatches : List UInt8 → List UInt8 → Bool
  | [], [] => true
  | [], n :: _ => n == 0
  | _ :: _, [] => false
  | c :: component, n :: name =>
    if n = 0 then false
    else if upperCase c ≠ upperCase n then false
    else fatNameMatches component name

def fatFindVisit (image : FatImage) (component : List UInt8) : FatVisit (Option FatEntry) :=
  fun raw found => do
    let attributes ← image.bytes.read (raw + fatEntryAttributes)
    let first ← image.bytes.read raw
    if first = fatEntryEnd then some (found, false)
    else if IsHiddenEntry first attributes then some (found, true)
    else do
      let entry ← fatEntryRead image raw
      if fatNameMatches component entry.name then some (some entry, false)
      else some (found, true)

def isPathSeparator (c : UInt8) : Bool :=
  c == 0x5C || c == 0x2F

def rootEntry : FatEntry where
  name := []
  rawName := []
  attributes := fatAttributeDirectory
  time := 0
  date := 0
  firstCluster := 0
  size := 0

def lookupFrom (image : FatImage) (current : FatEntry) : List UInt8 → Option (Option FatEntry)
  | [] => some (some current)
  | c :: path =>
    if isPathSeparator c then lookupFrom image current path
    else if current.attributes &&& fatAttributeDirectory = 0 then some none
    else do
      let component := c :: path.takeWhile fun c => !isPathSeparator c
      let found ← fatWalkDirectory image current.firstCluster.toNat
        (fatFindVisit image component) none
      match found with
      | none => some none
      | some entry => lookupFrom image entry (path.dropWhile fun c => !isPathSeparator c)
  termination_by path => path.length
  decreasing_by
  · simp
  · have hle := (List.dropWhile_sublist (l := path) fun c => !isPathSeparator c).length_le
    simp only [List.length_cons]
    omega

def fatImageLookup (image : FatImage) (path : CString) : Option (Option FatEntry) :=
  lookupFrom image rootEntry path.bytes

/-- The cluster `skip` links behind `cluster` with the steps left, or none for a broken
chain. -/
def skipClusters (image : FatImage) : Nat → Nat → Nat → Option (Option (Nat × Nat))
  | 0, steps, cluster => some (some (cluster, steps))
  | skip + 1, steps, cluster =>
    if ¬ FatImageIsDataCluster image cluster ∨ steps = 0 then some none
    else do
      let next ← fatImageNextCluster image cluster
      skipClusters image skip (steps - 1) next

/-- Copies from `cluster` on until `count` bytes are copied or the chain ends. -/
def copyClusters (image : FatImage) : Nat → Nat → Nat → Nat → List UInt8 → Option (List UInt8)
  | 0, _, _, _, copied => some copied
  | steps + 1, cluster, offset, count, copied =>
    if count ≤ copied.length then some copied
    else if ¬ FatImageIsDataCluster image cluster then some copied
    else if ClusterOutside image cluster then some copied
    else do
      let chunk := min (image.clusterSize - offset) (count - copied.length)
      let bytes ← (List.range chunk).mapM fun index =>
        image.bytes.read (dword (clusterOffset image cluster + offset + index))
      let next ← fatImageNextCluster image cluster
      if FatIsEndOfChain image next ∧ (copied ++ bytes).length < count then
        some (copied ++ bytes)
      else copyClusters image steps next 0 count (copied ++ bytes)

/-- The bytes copied.  The count of them is returned. -/
def fatImageReadFile (image : FatImage) (entry : FatEntry) (offset count : UInt32) :
    Option (List UInt8) :=
  if entry.size ≤ offset ∨ count = 0 then some []
  else do
    let count := min count.toNat (entry.size.toNat - offset.toNat)
    let start ← skipClusters image (offset.toNat / image.clusterSize) (image.clusterCount + 1)
      entry.firstCluster.toNat
    match start with
    | none => some []
    | some (cluster, steps) =>
      copyClusters image steps cluster (offset.toNat % image.clusterSize) count []

def fatImageFreeClusters (image : FatImage) : Option Nat :=
  (List.range image.clusterCount).foldlM
    (fun freeClusters index => do
      let next ← fatImageNextCluster image (fatFirstDataCluster + index)
      return if next = 0 then freeClusters + 1 else freeClusters)
    0

def fatLabelVisit (image : FatImage) : FatVisit (Option (List UInt8)) :=
  fun raw label => do
    let attributes ← image.bytes.read (raw + fatEntryAttributes)
    let first ← image.bytes.read raw
    if first = fatEntryEnd then some (label, false)
    else if first = fatEntryDeleted
        ∨ attributes &&& fatAttributeLongName = fatAttributeLongName
        ∨ attributes &&& fatAttributeVolume = 0 then
      some (label, true)
    else do
      let rawName ← image.bytes.readBytes raw fatImageRawNameSize
      return (some (trimPad rawName), false)

def fatImageVolumeLabel (image : FatImage) : Option (Option (List UInt8)) :=
  fatWalkDirectory image 0 (fatLabelVisit image) none

/-! ## Resolving a path -/

def fatPathSeparator : UInt8 := 0x5C

/-- The buffer a path is resolved in, and the length of the text in it. -/
structure FatResolved where
  bytes : SizedBytes
  length : Nat

/-- Back from the end of the text to behind the last separator in it. -/
def scanSeparator (bytes : SizedBytes) : Nat → Option Nat
  | 0 => some 0
  | length + 1 => do
    let last ← bytes.read length
    if last ≠ fatPathSeparator then scanSeparator bytes length else some (length + 1)

def appendSeparator (resolved : FatResolved) : Option FatResolved :=
  if resolved.length ≠ 0 then do
    let bytes ← resolved.bytes.write resolved.length fatPathSeparator
    return { bytes, length := resolved.length + 1 }
  else some resolved

def appendUpperCase : List UInt8 → FatResolved → Option FatResolved
  | [], resolved => some resolved
  | character :: component, resolved => do
    let bytes ← resolved.bytes.write resolved.length (upperCase character)
    appendUpperCase component { bytes, length := resolved.length + 1 }

/-- One component, appended or a level up.  The buffer has `capacity` bytes. -/
def fatResolveComponent (capacity : Int) (component : List UInt8) (resolved : FatResolved) :
    Option (Bool × FatResolved) :=
  if component = [0x2E] then some (true, resolved)
  else if component = [0x2E, 0x2E] then do
    let start ← scanSeparator resolved.bytes resolved.length
    let length := if 0 < start then start - 1 else start
    let bytes ← resolved.bytes.write length 0
    return (true, { bytes, length })
  else if capacity ≤
      ((resolved.length + (if resolved.length ≠ 0 then 1 else 0) + component.length : Nat) : Int) then
    some (false, resolved)
  else do
    let separated ← appendSeparator resolved
    let appended ← appendUpperCase component separated
    let bytes ← appended.bytes.write appended.length 0
    return (true, { appended with bytes })

def fatResolveAppend (capacity : Int) : List UInt8 → FatResolved → Option (Bool × FatResolved)
  | [], resolved => some (true, resolved)
  | c :: path, resolved =>
    let component := (c :: path).takeWhile fun c => !isPathSeparator c
    let rest := ((c :: path).dropWhile fun c => !isPathSeparator c).drop 1
    if component = [] then fatResolveAppend capacity rest resolved
    else do
      let next ← fatResolveComponent capacity component resolved
      if next.1 then fatResolveAppend capacity rest next.2 else some next
  termination_by path => path.length
  decreasing_by
  all_goals
    have hle := (List.dropWhile_sublist (l := c :: path) fun c => !isPathSeparator c).length_le
    simp only [List.length_drop, List.length_cons] at hle ⊢
    omega

def fatResolveStart (current path : CString) (capacity : Int) (empty : FatResolved) :
    Option (Bool × FatResolved) :=
  if path.bytes.head?.any isPathSeparator then some (true, empty)
  else fatResolveAppend capacity current.bytes empty

def fatImageResolvePath (current path : CString) (resolved : SizedBytes) (capacity : Int) :
    Option (Bool × SizedBytes) :=
  if capacity < 1 then some (false, resolved)
  else do
    let bytes ← resolved.write 0 0
    let start ← fatResolveStart current path capacity { bytes, length := 0 }
    if start.1 then do
      let last ← fatResolveAppend capacity path.bytes start.2
      return (last.1, last.2.bytes)
    else some (false, start.2.bytes)

end Ntvdmex.Dos.FatImg
