import Mathlib

/-!
# A disk image's geometry (`dos_disk.c`)

The geometry a boot sector declares, the block of a cylinder, head and sector, and the last
address packed as `INT 13h` reports it.
-/

namespace Ntvdmex.Dos.Disk

abbrev dosSectorSize : Nat := 512

def dosBpbBytesPerSector : Fin dosSectorSize := 11
def dosBpbTotalSectors16 : Fin dosSectorSize := 19
def dosBpbSectorsPerTrack : Fin dosSectorSize := 24
def dosBpbHeads : Fin dosSectorSize := 26
def dosBpbTotalSectors32 : Fin dosSectorSize := 32
def dosDiskMaxSectorsPerTrack : UInt16 := 63
def dosDiskMaxHeads : UInt16 := 255
def dosFloppyHeads : UInt16 := 2
def dosFloppy1440kSectors : UInt16 := 18
def dosFloppy1200kSectors : UInt16 := 15
def dosFloppy720kSectors : UInt16 := 9
def dosDiskNoSector : UInt16 := 0
def dosDiskFirstSector : UInt32 := 1
def dosDiskCxCylinderLowMask : UInt16 := 0xFF
def dosDiskCxCylinderHighMask : UInt16 := 0x300
def dosDiskCxSectorMask : UInt16 := 0x3F
def biosChsSectorMask : UInt16 := 0x3F
def biosChsCylinderHighMask : UInt16 := 0xC0
def byteMask : UInt16 := 0xFF

/-- What `AH=08h` reports of a drive. -/
inductive DriveType
  | drive360k
  | drive1200k
  | drive720k
  | drive1440k
  deriving DecidableEq

structure DosDiskGeometry where
  bytesPerSector : UInt16
  sectorsPerTrack : UInt16
  heads : UInt16
  totalSectors : UInt32
  cylinders : UInt16
  driveType : DriveType
  isValid : Bool

abbrev BootSector := Fin dosSectorSize → UInt8

variable (bootSector : BootSector)

def bpbWord (offset : Fin dosSectorSize) : UInt16 :=
  (bootSector offset).toUInt16 ||| (bootSector (offset + 1)).toUInt16 <<< 8

/-- The 16-bit count, or the 32-bit one where that is 0. -/
def bpbTotalSectors : UInt32 :=
  let totalSectors := (bpbWord bootSector dosBpbTotalSectors16).toUInt32
  if totalSectors = 0 then
    (bootSector dosBpbTotalSectors32).toUInt32
      ||| (bootSector (dosBpbTotalSectors32 + 1)).toUInt32 <<< 8
      ||| (bootSector (dosBpbTotalSectors32 + 2)).toUInt32 <<< 16
      ||| (bootSector (dosBpbTotalSectors32 + 3)).toUInt32 <<< 24
  else totalSectors

def driveTypeOf (sectorsPerTrack heads : UInt16) : DriveType :=
  if sectorsPerTrack = dosFloppy1440kSectors ∧ heads = dosFloppyHeads then .drive1440k
  else if sectorsPerTrack = dosFloppy720kSectors ∧ heads = dosFloppyHeads then .drive720k
  else if sectorsPerTrack = dosFloppy1200kSectors ∧ heads = dosFloppyHeads then .drive1200k
  else .drive360k

def dosDiskGeometryFromBpb (bootSector : Option BootSector) (imageSize : UInt32)
    (geometry : DosDiskGeometry) : Bool × DosDiskGeometry :=
  let geometry := { geometry with isValid := false }
  match bootSector with
  | none => (false, geometry)
  | some bootSector =>
    let geometry := { geometry with
      bytesPerSector := bpbWord bootSector dosBpbBytesPerSector
      sectorsPerTrack := bpbWord bootSector dosBpbSectorsPerTrack
      heads := bpbWord bootSector dosBpbHeads }
    let totalSectors := bpbTotalSectors bootSector
    if geometry.bytesPerSector ≠ 512 then (false, geometry)
    else if geometry.sectorsPerTrack = 0 ∨
        geometry.sectorsPerTrack > dosDiskMaxSectorsPerTrack then (false, geometry)
    else if geometry.heads = 0 ∨ geometry.heads > dosDiskMaxHeads then (false, geometry)
    else if totalSectors = 0 then (false, geometry)
    else if imageSize / 512 < totalSectors then (false, geometry)
    else
      let geometry := { geometry with
        totalSectors
        cylinders := (totalSectors /
          (geometry.sectorsPerTrack.toUInt32 * geometry.heads.toUInt32)).toUInt16 }
      if geometry.cylinders = 0 then (false, geometry)
      else
        (true, { geometry with
          driveType := driveTypeOf geometry.sectorsPerTrack geometry.heads
          isValid := true })

variable (geometry : DosDiskGeometry)

def dosDiskChsToLba (cylinder head sector : UInt16) : Option UInt32 :=
  if geometry.isValid = false ∨ sector = dosDiskNoSector then none
  else if cylinder ≥ geometry.cylinders ∨ head ≥ geometry.heads ∨
      sector > geometry.sectorsPerTrack then none
  else
    some ((cylinder.toUInt32 * geometry.heads.toUInt32 + head.toUInt32) *
      geometry.sectorsPerTrack.toUInt32 + (sector.toUInt32 - dosDiskFirstSector))

def dosDiskPackCx : UInt16 :=
  let lastCylinder : UInt16 := geometry.cylinders - 1
  ((lastCylinder &&& dosDiskCxCylinderLowMask) <<< 8) |||
    ((lastCylinder &&& dosDiskCxCylinderHighMask) >>> 2) |||
    (geometry.sectorsPerTrack &&& dosDiskCxSectorMask)

/-- The sector and the cylinder `INT 13h` takes from a guest's `CX` (`host_bios.c`). -/
def int13Sector (cx : UInt16) : UInt16 := cx &&& biosChsSectorMask

def int13Cylinder (cx : UInt16) : UInt16 :=
  ((cx >>> 8) &&& byteMask) ||| ((cx &&& biosChsCylinderHighMask) <<< 2)

end Ntvdmex.Dos.Disk
