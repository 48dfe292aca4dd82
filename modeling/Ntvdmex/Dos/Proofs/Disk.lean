import Ntvdmex.Dos.Disk

/-!
# The addresses of a mounted disk

Addresses and blocks answer to one another by two divisions.  The count of cylinders is a
quotient cut to a word, and ten bits of it are reported.
-/

namespace Ntvdmex.Dos.Disk

open UInt16 Nat DosDiskGeometry

/-! ## Division by the heads and by the sectors of a track -/

section Blocks

variable {heads sectors cylinders : Nat}

theorem block_lt {cylinder head sector : Nat} (hcylinder : cylinder < cylinders)
    (hhead : head < heads) (hsector : sector < sectors) :
    (cylinder * heads + head) * sectors + sector < cylinders * heads * sectors := by
  have htracks : cylinder * heads + head + 1 ≤ cylinders * heads := by
    calc cylinder * heads + head + 1 ≤ (cylinder + 1) * heads := by rw [add_mul]; lia
      _ ≤ cylinders * heads := Nat.mul_le_mul_right _ hcylinder
  calc (cylinder * heads + head) * sectors + sector
      < (cylinder * heads + head + 1) * sectors := by rw [add_mul _ 1]; lia
    _ ≤ cylinders * heads * sectors := Nat.mul_le_mul_right _ htracks

theorem quotient_unique {quotient quotient' rest rest' divisor : Nat} (hrest : rest < divisor)
    (hrest' : rest' < divisor) (h : quotient * divisor + rest = quotient' * divisor + rest') :
    quotient = quotient' ∧ rest = rest' := by
  have hdiv := congrArg (· / divisor) h
  have hpos : 0 < divisor := by omega
  simp only [mul_comm _ divisor, mul_add_div hpos, div_eq_of_lt hrest,
    div_eq_of_lt hrest', Nat.add_zero] at hdiv
  subst hdiv
  exact ⟨rfl, Nat.add_left_cancel h⟩

theorem exists_word {value : Nat} (h : value < 65536) : ∃ word : UInt16, word.toNat = value :=
  ⟨_, toNat_ofNat_of_lt' h⟩

end Blocks

/-! ## What is accepted -/

def wholeCylinders (bootSector : BootSector) : UInt32 :=
  bpbTotalSectors bootSector / ((bpbWord bootSector dosBpbSectorsPerTrack).toUInt32 *
    (bpbWord bootSector dosBpbHeads).toUInt32)

/-- A geometry taken from a boot sector. -/
structure Accepted (bootSector : BootSector) (imageSize : UInt32) (geometry : DosDiskGeometry) :
    Prop where
  isValid : geometry.isValid = true
  sectors_pos : 0 < geometry.sectorsPerTrack.toNat
  sectors_le : geometry.sectorsPerTrack.toNat ≤ 63
  heads_pos : 0 < geometry.heads.toNat
  total_le : geometry.totalSectors.toNat ≤ imageSize.toNat / 512
  cylinders : geometry.cylinders.toNat = (wholeCylinders bootSector).toNat % 65536
  cylinders_pos : 0 < geometry.cylinders.toNat
  whole : (wholeCylinders bootSector).toNat =
    geometry.totalSectors.toNat / (geometry.heads.toNat * geometry.sectorsPerTrack.toNat)

variable {bootSector : BootSector} {imageSize : UInt32} {initial geometry : DosDiskGeometry}

theorem Accepted.of_answer
    (h : dosDiskGeometryFromBpb (some bootSector) imageSize initial = (true, geometry)) :
    Accepted bootSector imageSize geometry := by
  simp only [dosDiskGeometryFromBpb] at h
  split_ifs at h with _ hsectors hheads htotal himage hcylinders <;>
    simp only [Prod.mk.injEq, Bool.false_eq_true, false_and, true_and] at h
  subst h
  simp only [not_or, ← UInt16.toNat_inj, lt_iff_toNat_lt, gt_iff_lt, not_lt]
    at hsectors hheads hcylinders
  rw [UInt32.lt_iff_toNat_lt, not_lt, UInt32.toNat_div] at himage
  have hproduct : (bpbWord bootSector dosBpbHeads).toNat *
      (bpbWord bootSector dosBpbSectorsPerTrack).toNat ≤ 255 * 63 :=
    Nat.mul_le_mul hheads.2 hsectors.2
  refine ⟨rfl, Nat.pos_of_ne_zero hsectors.1, hsectors.2, Nat.pos_of_ne_zero hheads.1,
    himage, UInt32.toNat_toUInt16 _, Nat.pos_of_ne_zero hcylinders, ?_⟩
  rw [wholeCylinders, UInt32.toNat_div, UInt32.toNat_mul, toNat_toUInt32,
    toNat_toUInt32, mul_comm (UInt16.toNat _), mod_eq_of_lt (by omega)]

/-! ## The blocks of a geometry -/

def DosDiskGeometry.blocks (geometry : DosDiskGeometry) : Nat :=
  geometry.cylinders.toNat * geometry.heads.toNat * geometry.sectorsPerTrack.toNat

theorem Accepted.blocks_le (h : Accepted bootSector imageSize geometry) :
    geometry.blocks ≤ geometry.totalSectors.toNat := by
  calc geometry.blocks
      = geometry.cylinders.toNat * (geometry.heads.toNat * geometry.sectorsPerTrack.toNat) :=
        mul_assoc _ _ _
    _ ≤ (wholeCylinders bootSector).toNat *
          (geometry.heads.toNat * geometry.sectorsPerTrack.toNat) :=
        Nat.mul_le_mul_right _ (h.cylinders ▸ mod_le _ _)
    _ ≤ geometry.totalSectors.toNat := h.whole ▸ div_mul_le_self _ _

abbrev Address := UInt16 × UInt16 × UInt16

/-- A cylinder, head and sector of the disk. -/
def DosDiskGeometry.addresses (geometry : DosDiskGeometry) : Set Address :=
  {address | address.1 < geometry.cylinders ∧ address.2.1 < geometry.heads ∧
    1 ≤ address.2.2 ∧ address.2.2 ≤ geometry.sectorsPerTrack}

def lbaAt (geometry : DosDiskGeometry) (address : Address) : Option UInt32 :=
  dosDiskChsToLba geometry address.1 address.2.1 address.2.2

def DosDiskGeometry.blockOf (geometry : DosDiskGeometry) (address : Address) : Nat :=
  (address.1.toNat * geometry.heads.toNat + address.2.1.toNat) *
    geometry.sectorsPerTrack.toNat + (address.2.2.toNat - 1)

variable {address : Address}

theorem mem_addresses : address ∈ geometry.addresses ↔
    address.1.toNat < geometry.cylinders.toNat ∧ address.2.1.toNat < geometry.heads.toNat ∧
      1 ≤ address.2.2.toNat ∧ address.2.2.toNat ≤ geometry.sectorsPerTrack.toNat := by
  simp only [addresses, Set.mem_ofPred_eq, le_iff_toNat_le,
    lt_iff_toNat_lt, reduceToNat]

theorem blockOf_lt (h : address ∈ geometry.addresses) :
    geometry.blockOf address < geometry.blocks := by
  obtain ⟨hcylinder, hhead, hsector, hlast⟩ := mem_addresses.mp h
  exact block_lt hcylinder hhead (by omega)

variable (h : Accepted bootSector imageSize geometry)

include h

theorem Accepted.blocks_lt : geometry.blocks < 2 ^ 32 :=
  h.blocks_le.trans_lt geometry.totalSectors.toNat_lt

theorem lbaAt_eq_some_iff {lba : UInt32} : lbaAt geometry address = some lba ↔
      address ∈ geometry.addresses ∧ lba.toNat = geometry.blockOf address := by
  obtain ⟨cylinder, head, sector⟩ := address
  have hzero : sector = dosDiskNoSector ↔ sector.toNat = 0 := UInt16.toNat_inj.symm
  simp only [lbaAt, dosDiskChsToLba, h.isValid, Bool.true_eq_false, false_or, ge_iff_le,
    gt_iff_lt, mem_addresses, le_iff_toNat_le, lt_iff_toNat_lt, hzero]
  split_ifs with hsector houtside
  · lia
  · lia
  · have hmem : (cylinder, head, sector) ∈ geometry.addresses :=
      mem_addresses.mpr (by simp only; lia)
    have hbound := (blockOf_lt hmem).trans h.blocks_lt
    have htracks := Nat.le_mul_of_pos_right
      (cylinder.toNat * geometry.heads.toNat + head.toNat) h.sectors_pos
    have hone : dosDiskFirstSector ≤ sector.toUInt32 := by
      rw [UInt32.le_iff_toNat_le, toNat_toUInt32]
      exact Nat.pos_of_ne_zero hsector
    have hfirst : (sector.toUInt32 - dosDiskFirstSector).toNat = sector.toNat - 1 :=
      UInt32.toNat_sub_of_le _ _ hone
    simp only [blockOf] at hbound ⊢
    rw [Option.some_inj, ← UInt32.toNat_inj]
    simp only [UInt32.toNat_add, UInt32.toNat_mul, toNat_toUInt32, hfirst]
    rw [mod_eq_of_lt (a := cylinder.toNat * _) (by lia),
      mod_eq_of_lt (a := _ + head.toNat) (by lia),
      mod_eq_of_lt (a := _ * geometry.sectorsPerTrack.toNat) (by lia),
      mod_eq_of_lt (by lia)]
    lia

theorem Accepted.exists_lba (haddress : address ∈ geometry.addresses) :
    ∃ lba, lbaAt geometry address = some lba ∧ lba.toNat = geometry.blockOf address := by
  have hvalue := UInt32.toNat_ofNat_of_lt' ((blockOf_lt haddress).trans h.blocks_lt)
  exact ⟨_, (lbaAt_eq_some_iff h).mpr ⟨haddress, hvalue⟩, hvalue⟩

omit h

theorem blockOf_injOn : Set.InjOn geometry.blockOf geometry.addresses := by
  rintro ⟨cylinder, head, sector⟩ h ⟨cylinder', head', sector'⟩ h' heq
  obtain ⟨-, hhead, hsector, hlast⟩ := mem_addresses.mp h
  obtain ⟨-, hhead', hsector', hlast'⟩ := mem_addresses.mp h'
  simp only [blockOf] at *
  obtain ⟨htrack, hrest⟩ := quotient_unique (by lia) (by lia) heq
  obtain ⟨hcylinder, hhead⟩ := quotient_unique hhead hhead' htrack
  rw [UInt16.toNat_inj.mp hcylinder, UInt16.toNat_inj.mp hhead,
    UInt16.toNat_inj.mp (show sector.toNat = sector'.toNat by lia)]

theorem lbaAt_bijOn (h : Accepted bootSector imageSize geometry) :
    Set.BijOn (lbaAt geometry) geometry.addresses
      (some '' {lba | lba.toNat < geometry.blocks}) := by
  refine ⟨?_, ?_, ?_⟩
  · intro address haddress
    obtain ⟨lba, hlba, hvalue⟩ := h.exists_lba haddress
    exact ⟨lba, hvalue.trans_lt (blockOf_lt haddress), hlba.symm⟩
  · intro address haddress other hother heq
    obtain ⟨lba, hlba, hvalue⟩ := h.exists_lba haddress
    obtain ⟨-, hvalue'⟩ := (lbaAt_eq_some_iff h).mp (heq ▸ hlba)
    exact blockOf_injOn haddress hother (hvalue.symm.trans hvalue')
  · rintro - ⟨lba, hlba, rfl⟩
    have hsectors := h.sectors_pos
    have hheads := h.heads_pos
    have hcylinder : lba.toNat / geometry.sectorsPerTrack.toNat / geometry.heads.toNat <
        geometry.cylinders.toNat := by
      rw [Nat.div_lt_iff_lt_mul hheads, Nat.div_lt_iff_lt_mul hsectors]
      exact hlba
    have hhead := mod_lt (lba.toNat / geometry.sectorsPerTrack.toNat) hheads
    have hsector := mod_lt lba.toNat hsectors
    obtain ⟨cylinder, hc⟩ := exists_word (hcylinder.trans geometry.cylinders.toNat_lt)
    obtain ⟨head, hh⟩ := exists_word (hhead.trans geometry.heads.toNat_lt)
    obtain ⟨sector, hs⟩ := exists_word
      (show lba.toNat % geometry.sectorsPerTrack.toNat + 1 < 65536 by have := h.sectors_le; lia)
    have hmem : (cylinder, head, sector) ∈ geometry.addresses :=
      mem_addresses.mpr (by simp only [hc, hh, hs]; lia)
    refine ⟨_, hmem, (lbaAt_eq_some_iff h).mpr ⟨hmem, ?_⟩⟩
    simp only [blockOf, hc, hh, hs, Nat.add_sub_cancel]
    rw [div_add_mod', div_add_mod']

theorem blocks_isGreatest_iff (h : Accepted bootSector imageSize geometry) :
    IsGreatest {count | geometry.heads.toNat * geometry.sectorsPerTrack.toNat ∣ count ∧
      count ≤ geometry.totalSectors.toNat} geometry.blocks ↔
      geometry.cylinders.toNat = (wholeCylinders bootSector).toNat := by
  have hpos := Nat.mul_pos h.heads_pos h.sectors_pos
  have hblocks : geometry.blocks = geometry.cylinders.toNat *
      (geometry.heads.toNat * geometry.sectorsPerTrack.toNat) := mul_assoc _ _ _
  constructor
  · intro hgreatest
    have hwhole := hgreatest.2 (show (wholeCylinders bootSector).toNat *
      (geometry.heads.toNat * geometry.sectorsPerTrack.toNat) ∈ _ from
      ⟨Nat.dvd_mul_left _ _, h.whole ▸ div_mul_le_self _ _⟩)
    rw [hblocks] at hwhole
    have hle := Nat.le_of_mul_le_mul_right hwhole hpos
    have hmod := h.cylinders
    lia
  · intro heq
    refine ⟨⟨hblocks ▸ Nat.dvd_mul_left _ _, h.blocks_le⟩, ?_⟩
    rintro count ⟨⟨cylinders, rfl⟩, hle⟩
    rw [hblocks, heq, h.whole, mul_comm]
    exact Nat.mul_le_mul_right _ ((Nat.le_div_iff_mul_le hpos).mpr (by rwa [mul_comm]))

/-! ## The last address, packed -/

theorem int13_pack (geometry : DosDiskGeometry) :
    int13Sector (dosDiskPackCx geometry) = geometry.sectorsPerTrack &&& 63 ∧
      int13Cylinder (dosDiskPackCx geometry) = (geometry.cylinders - 1) &&& 1023 := by
  simp only [← UInt16.toBitVec_inj]
  constructor <;> apply BitVec.eq_of_getElem_eq <;> intro i hi
  · simp [int13Sector, dosDiskPackCx, dosDiskCxCylinderLowMask, dosDiskCxCylinderHighMask,
      dosDiskCxSectorMask, biosChsSectorMask]
    interval_cases i <;> simp
  · simp [int13Cylinder, dosDiskPackCx, dosDiskCxCylinderLowMask, dosDiskCxCylinderHighMask,
      dosDiskCxSectorMask, biosChsCylinderHighMask, byteMask]
    interval_cases i <;> simp

theorem int13Sector_pack (h : Accepted bootSector imageSize geometry) :
    int13Sector (dosDiskPackCx geometry) = geometry.sectorsPerTrack := by
  rw [(int13_pack geometry).1, ← UInt16.toNat_inj, UInt16.toNat_and]
  exact (and_two_pow_sub_one_eq_mod _ 6).trans
    (mod_eq_of_lt (lt_succ_of_le h.sectors_le))

theorem int13Cylinder_pack_iff (h : Accepted bootSector imageSize geometry) :
    int13Cylinder (dosDiskPackCx geometry) = geometry.cylinders - 1 ↔
      geometry.cylinders.toNat ≤ 1024 := by
  have hpos := h.cylinders_pos
  have hlast : (geometry.cylinders - 1).toNat = geometry.cylinders.toNat - 1 :=
    UInt16.toNat_sub_of_le _ _ (le_iff_toNat_le.mpr hpos)
  rw [(int13_pack geometry).2, ← UInt16.toNat_inj, UInt16.toNat_and, hlast]
  have hmod : (geometry.cylinders.toNat - 1) &&& UInt16.toNat 1023 =
      (geometry.cylinders.toNat - 1) % 1024 := and_two_pow_sub_one_eq_mod _ 10
  lia

/-! ## Covering the image -/

/-- The addresses name the blocks of the image's whole cylinders, each once, and the last of
them is what a guest is told. -/
structure CoversImage (imageSize : UInt32) (geometry : DosDiskGeometry) : Prop where
  bijective : Set.BijOn (lbaAt geometry) geometry.addresses
    (some '' {lba | lba.toNat < geometry.blocks})
  inside : ∀ address lba, lbaAt geometry address = some lba →
    lba < geometry.totalSectors ∧ (lba.toNat + 1) * dosSectorSize ≤ imageSize.toNat
  greatest : IsGreatest {count | geometry.heads.toNat * geometry.sectorsPerTrack.toNat ∣ count ∧
    count ≤ geometry.totalSectors.toNat} geometry.blocks
  cylinder_told : int13Cylinder (dosDiskPackCx geometry) = geometry.cylinders - 1
  sector_told : int13Sector (dosDiskPackCx geometry) = geometry.sectorsPerTrack

theorem lbaAt_inside (h : Accepted bootSector imageSize geometry) {lba : UInt32}
    (hlba : lbaAt geometry address = some lba) :
    lba < geometry.totalSectors ∧ (lba.toNat + 1) * dosSectorSize ≤ imageSize.toNat := by
  obtain ⟨hmem, hvalue⟩ := (lbaAt_eq_some_iff h).mp hlba
  have hlt := (blockOf_lt hmem).trans_le h.blocks_le
  have htotal := h.total_le
  exact ⟨UInt32.lt_iff_toNat_lt.mpr (by lia), by rw [dosSectorSize]; lia⟩

theorem coversImage_iff
    (h : dosDiskGeometryFromBpb (some bootSector) imageSize initial = (true, geometry)) :
    CoversImage imageSize geometry ↔ wholeCylinders bootSector ≤ 1024 := by
  have haccepted := Accepted.of_answer h
  have hcylinders := haccepted.cylinders
  rw [UInt32.le_iff_toNat_le]
  constructor
  · intro hcovers
    have heq := (blocks_isGreatest_iff haccepted).mp hcovers.greatest
    have hle := (int13Cylinder_pack_iff haccepted).mp hcovers.cylinder_told
    lia
  · intro hle
    exact ⟨lbaAt_bijOn haccepted, fun _ _ => lbaAt_inside haccepted,
      (blocks_isGreatest_iff haccepted).mpr (by lia),
      (int13Cylinder_pack_iff haccepted).mpr (by lia), int13Sector_pack haccepted⟩

/-- A boot sector of 512-byte sectors and a 32-bit count of them. -/
def bootSectorOf (sectorsPerTrack heads total0 total1 total2 : UInt8) : BootSector := fun offset =>
  match offset.val with
  | 12 => 2
  | 24 => sectorsPerTrack
  | 26 => heads
  | 32 => total0
  | 33 => total1
  | 34 => total2
  | _ => 0

def unread : DosDiskGeometry := ⟨0, 0, 0, 0, 0, .drive360k, false⟩

theorem coversImage_floppy : CoversImage 1474560
    (dosDiskGeometryFromBpb (some (bootSectorOf 18 2 0x40 0x0B 0)) 1474560 unread).2 :=
  (coversImage_iff (Prod.ext (by decide) rfl)).mpr (by decide)

/-- A disk of 1025 cylinders is taken, and its last cylinder is told as cylinder 0. -/
theorem thousandCylinders_exceeded :
    (dosDiskGeometryFromBpb (some (bootSectorOf 63 16 0xF0 0xC3 0x0F)) 528998400 unread).1 =
        true ∧
      ¬CoversImage 528998400
        (dosDiskGeometryFromBpb (some (bootSectorOf 63 16 0xF0 0xC3 0x0F)) 528998400 unread).2 :=
  ⟨by decide, fun h => absurd h.cylinder_told (by decide)⟩

end Ntvdmex.Dos.Disk
