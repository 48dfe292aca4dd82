import Ntvdmex.Dos.FatImg

/-!
# A mounted image and its reads

Mounting computes the geometry in 32 bits, so every number is known only up to a
multiple of 4 GB.  When the volume the boot sector describes ends below 4 GB the
numbers are the true ones and the layout lies inside the image.  When it does
not, some sum has wrapped and a check has let it pass.
-/

namespace Ntvdmex.Dos.FatImg

open Foundation Option Nat

/-! ## What mounting checks -/

def bpbRootSector (data : ByteMemory) : Nat :=
  data.readWord fatBpbReservedSectors
    + (data fatBpbFatCount).toNat * data.readWord fatBpbSectorsPerFat

def bpbRootBytes (data : ByteMemory) : Nat :=
  data.readWord fatBpbRootEntries * fatImageEntrySize

def bpbDataSector (data : ByteMemory) : Nat :=
  bpbRootSector data + (bpbRootBytes data + fatImageSectorSize - 1) / fatImageSectorSize

def volumeEnd (data : ByteMemory) : Nat :=
  let sectorsPerCluster := (data fatBpbSectorsPerCluster).toNat
  (bpbDataSector data
    + (bpbTotalSectors data - bpbDataSector data) / sectorsPerCluster * sectorsPerCluster)
    * fatImageSectorSize

def fatBytes (image : FatImage) : Nat :=
  if image.isFat16 then (image.clusterCount + 2) * 2 else ((image.clusterCount + 2) * 3 + 1) / 2

/-- What is known of an image that was mounted. -/
structure Mounted (data : ByteMemory) (size : Nat) (image : FatImage) : Prop where
  size_eq : image.size = size
  rootBytes_eq : image.rootEntries * 32 = bpbRootBytes data
  sectorsPerCluster_eq : image.sectorsPerCluster = (data fatBpbSectorsPerCluster).toNat
  sectorsPerCluster_pos : 0 < image.sectorsPerCluster
  sectorsPerCluster_power : image.sectorsPerCluster &&& (image.sectorsPerCluster - 1) = 0
  clusterSize_eq : image.clusterSize = image.sectorsPerCluster * 512
  fatOffset_eq : image.fatOffset = data.readWord fatBpbReservedSectors * 512
  rootOffset_eq : image.rootOffset = dword (bpbRootSector data * 512)
  dataOffset_eq : image.dataOffset =
    dword ((image.rootOffset / 512 + (bpbRootBytes data + 511) / 512) * 512)
  clusterCount_eq : image.clusterCount =
    (bpbTotalSectors data - (image.rootOffset / 512 + (bpbRootBytes data + 511) / 512))
      / image.sectorsPerCluster
  dataOffset_le : image.dataOffset ≤ size
  fatBytes_le : fatBytes image ≤ (data.readWord fatBpbSectorsPerFat) * 512
  fatCount_pos : 0 < (data fatBpbFatCount).toNat
  rootEnd_le : dword (image.rootOffset + bpbRootBytes data) ≤ size

section

variable {data : ByteMemory} {size : Nat} {image : FatImage}
    (hmount : fatImageMount data size = some image)

include hmount

theorem fatImageMount_cases : Mounted data size image := by
  unfold fatImageMount at hmount
  simp only [ite_none_left_eq_some] at hmount
  obtain ⟨-, hbpb, hdata, -, hroom, himage⟩ := hmount
  have himage := some.inj himage
  push Not at hbpb hdata hroom
  obtain ⟨-, hspc, hpower, hfats, -, -, -, -⟩ := hbpb
  rw [← himage]
  have hroot : data.readWord fatBpbReservedSectors * fatImageSectorSize
      + (data fatBpbFatCount).toNat * data.readWord fatBpbSectorsPerFat * fatImageSectorSize =
      bpbRootSector data * 512 := by
    rw [bpbRootSector, fatImageSectorSize, Nat.add_mul]
  rw [hroot] at hdata hroom ⊢
  exact
    { size_eq := rfl
      rootBytes_eq := rfl
      sectorsPerCluster_eq := rfl
      sectorsPerCluster_pos := Nat.pos_of_ne_zero hspc
      sectorsPerCluster_power := hpower
      clusterSize_eq := rfl
      fatOffset_eq := rfl
      rootOffset_eq := rfl
      dataOffset_eq := rfl
      clusterCount_eq := rfl
      dataOffset_le := hdata.2
      fatBytes_le := hroom.1
      fatCount_pos := Nat.pos_of_ne_zero hfats
      rootEnd_le := hroom.2 }

/-- The numbers of data clusters stay below the marks for the end of a chain. -/
theorem not_endOfChain_of_mount {cluster : Nat}
    (hcluster : FatImageIsDataCluster image cluster) : ¬ FatIsEndOfChain image cluster := by
  unfold fatImageMount at hmount
  simp only [ite_none_left_eq_some] at hmount
  obtain ⟨-, -, -, hcount, -, himage⟩ := hmount
  have himage := some.inj himage
  rw [← himage] at hcluster ⊢
  unfold FatImageIsDataCluster fatFirstDataCluster at hcluster
  unfold FatIsEndOfChain fat16EndOfChain fat12EndOfChain
  unfold fat12MaxClusters fat16MaxClusters at *
  dsimp only at hcluster ⊢
  split_ifs with h16
  · omega
  · rw [decide_eq_true_eq] at h16
    omega

end

theorem sectorsPerCluster_dvd {sectors : Nat} (hpos : 0 < sectors) (hlt : sectors < 256)
    (hpower : sectors &&& (sectors - 1) = 0) : sectors * 512 ∣ 4294967296 := by
  have hall : ∀ n < 256, 0 < n → n &&& (n - 1) = 0 → n * 512 ∣ 4294967296 := by decide +kernel
  exact hall sectors hlt hpos hpower

theorem Mounted.clusterSize_dvd {data : ByteMemory} {size : Nat} {image : FatImage}
    (hmounted : Mounted data size image) : image.clusterSize ∣ 4294967296 := by
  have hlt : image.sectorsPerCluster < 256 := by
    rw [hmounted.sectorsPerCluster_eq]
    exact (data fatBpbSectorsPerCluster).toNat_lt
  rw [hmounted.clusterSize_eq]
  exact sectorsPerCluster_dvd hmounted.sectorsPerCluster_pos hlt hmounted.sectorsPerCluster_power

theorem Mounted.clusterSize_pos {data : ByteMemory} {size : Nat} {image : FatImage}
    (hmounted : Mounted data size image) : 0 < image.clusterSize := by
  rw [hmounted.clusterSize_eq]
  exact Nat.mul_pos hmounted.sectorsPerCluster_pos (by decide)

/-! ## When no sum wraps -/

/-- The 32-bit sums are the true ones, and a cluster that passes the check lies inside. -/
structure SumsDoNotWrap (data : ByteMemory) (image : FatImage) : Prop where
  fatOffset_eq : image.fatOffset = data.readWord fatBpbReservedSectors * fatImageSectorSize
  rootOffset_eq : image.rootOffset = bpbRootSector data * fatImageSectorSize
  dataOffset_eq : image.dataOffset = bpbDataSector data * fatImageSectorSize
  cluster_le : ∀ cluster, FatImageIsDataCluster image cluster → ¬ ClusterOutside image cluster →
    image.dataOffset + (cluster - fatFirstDataCluster) * image.clusterSize + image.clusterSize ≤
      image.size

theorem dword_clusterEnd (image : FatImage) (cluster : Nat) :
    dword (clusterOffset image cluster + image.clusterSize) =
      dword (image.dataOffset + (cluster - fatFirstDataCluster) * image.clusterSize
        + image.clusterSize) := by
  unfold clusterOffset dword
  rw [mod_add_mod]

section Geometry

variable {data : ByteMemory} {size : Nat} {image : FatImage}

/-- With the true first data sector the volume ends behind the last cluster. -/
theorem volumeEnd_eq (hmounted : Mounted data size image)
    (hroot : image.rootOffset = bpbRootSector data * 512) :
    volumeEnd data = bpbDataSector data * 512 + image.clusterCount * image.clusterSize := by
  have hsector : image.rootOffset / 512 + (bpbRootBytes data + 511) / 512 =
      bpbDataSector data := by
    rw [hroot, Nat.mul_div_cancel _ (by decide), bpbDataSector, fatImageSectorSize]
    rfl
  have hcount := hmounted.clusterCount_eq
  rw [hsector] at hcount
  unfold volumeEnd
  dsimp only
  rw [← hmounted.sectorsPerCluster_eq, ← hcount, hmounted.clusterSize_eq, fatImageSectorSize,
    Nat.add_mul, Nat.mul_assoc]

/-- The first cluster whose end wraps has the rest of the data offset for its end, so it
passes the check. -/
theorem wrapped_cluster_passes (hmounted : Mounted data size image)
    (hoffset : image.dataOffset < 4294967296)
    (hend : 4294967296 ≤ image.dataOffset + image.clusterCount * image.clusterSize) :
    ∃ cluster, FatImageIsDataCluster image cluster ∧ ¬ ClusterOutside image cluster ∧
      4294967296 ≤ image.dataOffset + (cluster - fatFirstDataCluster) * image.clusterSize
        + image.clusterSize := by
  have hpos := hmounted.clusterSize_pos
  obtain ⟨total, htotal⟩ := hmounted.clusterSize_dvd
  set clusterSize := image.clusterSize with hclusterSize
  set before := image.dataOffset / clusterSize with hbefore
  have hsplit : image.dataOffset = clusterSize * before + image.dataOffset % clusterSize :=
    (div_add_mod _ _).symm
  have hrest : image.dataOffset % clusterSize < clusterSize := mod_lt _ hpos
  have hlt : before < total := by
    rw [hbefore, Nat.div_lt_iff_lt_mul hpos, Nat.mul_comm, ← htotal]
    exact hoffset
  have hcount : total ≤ before + image.clusterCount := by
    by_contra hcount
    have hle : (before + image.clusterCount + 1) * clusterSize ≤ total * clusterSize :=
      Nat.mul_le_mul_right clusterSize (by lia)
    have hexpand : (before + image.clusterCount + 1) * clusterSize =
        clusterSize * before + image.clusterCount * clusterSize + clusterSize := by ring
    lia
  have hends : image.dataOffset + (total - before + 1 - fatFirstDataCluster) * clusterSize
      + clusterSize = 4294967296 + image.dataOffset % clusterSize := by
    obtain ⟨extra, hextra⟩ := Nat.exists_eq_add_of_lt hlt
    have hindex : total - before + 1 - fatFirstDataCluster = extra := by
      unfold fatFirstDataCluster
      lia
    have hexpand : clusterSize * total =
        clusterSize * before + extra * clusterSize + clusterSize := by
      rw [hextra]
      ring
    rw [hindex]
    lia
  refine ⟨total - before + 1, ?_, ?_, ?_⟩
  · unfold FatImageIsDataCluster fatFirstDataCluster
    lia
  · have hsmall : image.dataOffset % clusterSize ≤ size :=
      (mod_le _ _).trans hmounted.dataOffset_le
    have hword : dword (4294967296 + image.dataOffset % clusterSize) =
        image.dataOffset % clusterSize := by
      unfold dword
      lia
    unfold ClusterOutside
    rw [dword_clusterEnd, ← hclusterSize, hends, hword, hmounted.size_eq]
    lia
  · rw [hends]
    exact Nat.le_add_right _ _

theorem sumsDoNotWrap_iff (hmounted : Mounted data size image) (hsize : size < 4294967296) :
    SumsDoNotWrap data image ↔ volumeEnd data < 4294967296 := by
  constructor
  · intro hsums
    have hoffset := hmounted.dataOffset_le
    have hend := volumeEnd_eq hmounted hsums.rootOffset_eq
    have hdata := hsums.dataOffset_eq
    unfold fatImageSectorSize at hdata
    rw [← hdata] at hend
    by_contra hwraps
    have hdataLt : image.dataOffset < 4294967296 := Nat.lt_of_le_of_lt hoffset hsize
    have hclustersEnd : 4294967296 ≤ image.dataOffset + image.clusterCount * image.clusterSize := by
      rw [← hend]
      exact Nat.le_of_not_lt hwraps
    obtain ⟨cluster, hcluster, hpasses, hover⟩ :=
      wrapped_cluster_passes hmounted hdataLt hclustersEnd
    have hle := hsums.cluster_le cluster hcluster hpasses
    rw [hmounted.size_eq] at hle
    lia
  · intro hend
    have hsectors : bpbDataSector data * 512 ≤ volumeEnd data := by
      exact Nat.mul_le_mul_right 512 (Nat.le_add_right _ _)
    have hrootSector : bpbRootSector data ≤ bpbDataSector data := Nat.le_add_right _ _
    have hroot : image.rootOffset = bpbRootSector data * 512 := by
      rw [hmounted.rootOffset_eq, dword_of_lt]
      lia
    have hdata : image.dataOffset = bpbDataSector data * 512 := by
      have hsector : image.rootOffset / 512 + (bpbRootBytes data + 511) / 512 =
          bpbDataSector data := by
        rw [hroot, Nat.mul_div_cancel _ (by decide), bpbDataSector, fatImageSectorSize]
        rfl
      rw [hmounted.dataOffset_eq, hsector, dword_of_lt]
      lia
    have hvolume := volumeEnd_eq hmounted hroot
    refine ⟨hmounted.fatOffset_eq, hroot, hdata, fun cluster hcluster hpasses => ?_⟩
    unfold FatImageIsDataCluster fatFirstDataCluster at hcluster
    have hclusters : (cluster - fatFirstDataCluster) * image.clusterSize + image.clusterSize ≤
        image.clusterCount * image.clusterSize := by
      rw [← succ_mul]
      refine Nat.mul_le_mul_right image.clusterSize ?_
      unfold fatFirstDataCluster
      lia
    unfold ClusterOutside at hpasses
    rw [dword_clusterEnd, dword_of_lt (by lia)] at hpasses
    lia

/-- The FAT, the root directory and every cluster the check lets pass lie inside the image. -/
structure LaidInside (image : FatImage) : Prop where
  fat_le : image.fatOffset + fatBytes image ≤ image.size
  root_le : image.rootOffset + image.rootEntries * fatImageEntrySize ≤ image.size
  cluster_le : ∀ cluster, FatImageIsDataCluster image cluster → ¬ ClusterOutside image cluster →
    clusterOffset image cluster + image.clusterSize ≤ image.size
  size_lt : image.size < 4294967296
  clusterSize_pos : 0 < image.clusterSize

theorem laidInside_of_sumsDoNotWrap (hmounted : Mounted data size image)
    (hsize : size < 4294967296) (hsums : SumsDoNotWrap data image) : LaidInside image := by
  have hroot := hsums.rootOffset_eq
  have hdata := hsums.dataOffset_eq
  have hoffset := hmounted.dataOffset_le
  have hfits := hmounted.fatBytes_le
  unfold fatImageSectorSize at hroot hdata
  have hrootBytes : image.rootOffset + bpbRootBytes data ≤ image.dataOffset := by
    rw [hroot, hdata, bpbDataSector, fatImageSectorSize]
    lia
  have hrootInside : image.rootOffset + bpbRootBytes data ≤ size := Nat.le_trans hrootBytes hoffset
  refine ⟨?_, ?_, ?_, ?_, hmounted.clusterSize_pos⟩
  · have hone : data.readWord fatBpbSectorsPerFat ≤
        (data fatBpbFatCount).toNat * data.readWord fatBpbSectorsPerFat :=
      Nat.le_mul_of_pos_left _ hmounted.fatCount_pos
    rw [hmounted.fatOffset_eq, hmounted.size_eq]
    unfold bpbRootSector at hroot
    lia
  · rw [fatImageEntrySize, hmounted.rootBytes_eq, hmounted.size_eq]
    exact hrootInside
  · intro cluster hcluster hpasses
    have hle := hsums.cluster_le cluster hcluster hpasses
    exact (Nat.add_le_add_right (dword_le _) _).trans hle
  · rw [hmounted.size_eq]
    exact hsize

end Geometry

/-!
## No read outside the image

A layout inside the image keeps every read inside: the FAT entry of a data
cluster lies in the FAT, a raw entry in the root directory or in a cluster, and
the bytes of a file in the clusters the check lets pass.  A mounted image has
such a layout exactly when the volume it describes ends below 4 GB.
-/

section Laid

variable {image : FatImage}

theorem fatImageNextCluster_isSome (hlaid : LaidInside image) {cluster : Nat}
    (hcluster : FatImageIsDataCluster image cluster) :
    (fatImageNextCluster image cluster).isSome := by
  have hfat := hlaid.fat_le
  unfold FatImageIsDataCluster fatFirstDataCluster at hcluster
  have hsize : image.bytes.size = image.size := rfl
  unfold fatBytes at hfat
  unfold fatImageNextCluster
  by_cases h16 : image.isFat16 = true
  · rw [if_pos h16] at hfat ⊢
    refine SizedBytes.readWord_isSome ?_
    lia
  · rw [if_neg h16] at hfat ⊢
    have hword : (image.bytes.readWord (image.fatOffset + (cluster + cluster / 2))).isSome := by
      refine SizedBytes.readWord_isSome ?_
      lia
    exact bind_isSome hword fun packed _ => rfl

theorem fatImageFreeClusters_isSome (hlaid : LaidInside image) :
    (fatImageFreeClusters image).isSome := by
  refine foldlM_isSome (fun freeClusters index hindex => ?_) 0
  rw [List.mem_range] at hindex
  have hcluster : FatImageIsDataCluster image (fatFirstDataCluster + index) := by
    unfold FatImageIsDataCluster
    omega
  exact bind_isSome (fatImageNextCluster_isSome hlaid hcluster) fun next _ => rfl

/-! ## Directories -/

theorem readByte_isSome {index : Nat} (hindex : index < image.size) :
    (image.bytes.read index).isSome :=
  SizedBytes.read_isSome_iff.mpr hindex

theorem fatEntryRead_isSome {raw : Nat} (hraw : raw + fatImageEntrySize ≤ image.size) :
    (fatEntryRead image raw).isSome := by
  have hsize : image.bytes.size = image.size := rfl
  unfold fatImageEntrySize at hraw
  have hname : (image.bytes.readBytes raw fatImageRawNameSize).isSome :=
    SizedBytes.readBytes_isSome (by unfold fatImageRawNameSize; lia)
  have hattributes : (image.bytes.read (raw + fatEntryAttributes)).isSome :=
    readByte_isSome (by unfold fatEntryAttributes; lia)
  have htime : (image.bytes.readWord (raw + fatEntryTime)).isSome :=
    SizedBytes.readWord_isSome (by unfold fatEntryTime; lia)
  have hdate : (image.bytes.readWord (raw + fatEntryDate)).isSome :=
    SizedBytes.readWord_isSome (by unfold fatEntryDate; lia)
  have hcluster : (image.bytes.readWord (raw + fatEntryFirstCluster)).isSome :=
    SizedBytes.readWord_isSome (by unfold fatEntryFirstCluster; lia)
  have hbytes : (image.bytes.readDword (raw + fatEntrySize)).isSome :=
    SizedBytes.readDword_isSome (by unfold fatEntrySize; lia)
  refine bind_isSome hname fun rawName _ => bind_isSome hattributes fun attributes _ => ?_
  refine bind_isSome htime fun time _ => bind_isSome hdate fun date _ => ?_
  exact bind_isSome hcluster fun cluster _ => bind_isSome hbytes fun bytes _ => rfl

/-- A visit that never faults on a raw entry inside the image. -/
def VisitsInside (image : FatImage) {σ : Type} (visit : FatVisit σ) : Prop :=
  ∀ raw context, raw + fatImageEntrySize ≤ image.size → (visit raw context).isSome

variable {σ : Type} {visit : FatVisit σ}

theorem visitsInside_of_bytes {rest : UInt8 → UInt8 → FatVisit σ}
    (hrest : ∀ attributes first, VisitsInside image (rest attributes first)) :
    VisitsInside image (fun raw context => do
      let attributes ← image.bytes.read (raw + fatEntryAttributes)
      let first ← image.bytes.read raw
      rest attributes first raw context) := by
  intro raw context hraw
  have hinside := hraw
  unfold fatImageEntrySize at hinside
  have hattributes : (image.bytes.read (raw + fatEntryAttributes)).isSome :=
    readByte_isSome (by unfold fatEntryAttributes; omega)
  have hfirst : (image.bytes.read raw).isSome := readByte_isSome (by omega)
  refine bind_isSome hattributes fun attributes _ => bind_isSome hfirst fun first _ => ?_
  exact hrest attributes first raw context hraw

theorem fatListVisit_inside (capacity : Nat) : VisitsInside image (fatListVisit image capacity) := by
  refine visitsInside_of_bytes fun attributes first raw list hraw => ?_
  by_cases hend : first = fatEntryEnd
  · rw [if_pos hend]
    rfl
  · rw [if_neg hend]
    by_cases hhidden : IsHiddenEntry first attributes
    · rw [if_pos hhidden]
      rfl
    · rw [if_neg hhidden]
      by_cases hroom : list.count < capacity
      · rw [if_pos hroom]
        exact bind_isSome (fatEntryRead_isSome hraw) fun entry _ => rfl
      · rw [if_neg hroom]
        rfl

theorem fatFindVisit_inside (component : List UInt8) :
    VisitsInside image (fatFindVisit image component) := by
  refine visitsInside_of_bytes fun attributes first raw found hraw => ?_
  by_cases hend : first = fatEntryEnd
  · rw [if_pos hend]
    rfl
  · rw [if_neg hend]
    by_cases hhidden : IsHiddenEntry first attributes
    · rw [if_pos hhidden]
      rfl
    · rw [if_neg hhidden]
      refine bind_isSome (fatEntryRead_isSome hraw) fun entry _ => ?_
      by_cases hmatch : fatNameMatches component entry.name = true
      · rw [if_pos hmatch]
        rfl
      · rw [if_neg hmatch]
        rfl

theorem fatLabelVisit_inside : VisitsInside image (fatLabelVisit image) := by
  refine visitsInside_of_bytes fun attributes first raw label hraw => ?_
  have hname : (image.bytes.readBytes raw fatImageRawNameSize).isSome := by
    refine SizedBytes.readBytes_isSome (Nat.le_trans (Nat.add_le_add_left ?_ raw) hraw)
    decide
  by_cases hend : first = fatEntryEnd
  · rw [if_pos hend]
    rfl
  · rw [if_neg hend]
    split_ifs
    · rfl
    · exact bind_isSome hname fun rawName _ => rfl

theorem visitEntries_isSome (hvisit : VisitsInside image visit) {count raw : Nat}
    (hraw : raw + count * fatImageEntrySize ≤ image.size) (context : σ) :
    (visitEntries visit count raw context).isSome := by
  induction count generalizing raw context with
  | zero => rfl
  | succ count ih =>
    rw [succ_mul] at hraw
    have hfirst : raw + fatImageEntrySize ≤ image.size := by lia
    have hnext : raw + fatImageEntrySize + count * fatImageEntrySize ≤ image.size := by lia
    refine bind_isSome (hvisit raw context hfirst) fun visited _ => ?_
    by_cases hmore : visited.2 = true
    · rw [if_pos hmore]
      exact ih hnext visited.1
    · rw [if_neg hmore]
      rfl

variable (hlaid : LaidInside image)

include hlaid

theorem walkClusters_isSome (hvisit : VisitsInside image visit) (steps cluster : Nat)
    (context : σ) : (walkClusters image visit steps cluster context).isSome := by
  induction steps generalizing cluster context with
  | zero => rfl
  | succ steps ih =>
    unfold walkClusters
    by_cases hcluster : FatImageIsDataCluster image cluster
    · rw [if_neg (not_not_intro hcluster)]
      by_cases houtside : ClusterOutside image cluster
      · rw [if_pos houtside]
        rfl
      · have hinside := hlaid.cluster_le cluster hcluster houtside
        have hentries : image.clusterSize / fatImageEntrySize * fatImageEntrySize ≤
            image.clusterSize := div_mul_le_self _ _
        rw [if_neg houtside]
        refine bind_isSome (visitEntries_isSome hvisit (by omega) context) fun visited _ => ?_
        by_cases hmore : visited.2 = true
        · rw [if_pos hmore]
          exact bind_isSome (fatImageNextCluster_isSome hlaid hcluster) fun next _ =>
            ih next visited.1
        · rw [if_neg hmore]
          rfl
    · rw [if_pos hcluster]
      rfl

theorem fatWalkDirectory_isSome (hvisit : VisitsInside image visit) (firstCluster : Nat)
    (context : σ) : (fatWalkDirectory image firstCluster visit context).isSome := by
  unfold fatWalkDirectory
  by_cases hroot : firstCluster = 0
  · rw [if_pos hroot]
    exact bind_isSome (visitEntries_isSome hvisit hlaid.root_le context) fun visited _ => rfl
  · rw [if_neg hroot]
    exact walkClusters_isSome hlaid hvisit _ _ context

theorem lookupFrom_isSome (current : FatEntry) (path : List UInt8) :
    (lookupFrom image current path).isSome := by
  induction current, path using lookupFrom.induct with
  | case1 current => simp [lookupFrom]
  | case2 current c path hseparator ih =>
    rw [lookupFrom, if_pos hseparator]
    exact ih
  | case3 current c path hseparator hfile =>
    rw [lookupFrom, if_neg hseparator, if_pos hfile]
    rfl
  | case4 current c path hseparator hdirectory ih =>
    rw [lookupFrom, if_neg hseparator, if_neg hdirectory]
    refine bind_isSome (fatWalkDirectory_isSome hlaid (fatFindVisit_inside _) _ none) ?_
    intro found _
    cases found with
    | none => rfl
    | some entry => exact ih entry

theorem skipClusters_isSome (skip steps cluster : Nat) :
    (skipClusters image skip steps cluster).isSome := by
  induction skip generalizing steps cluster with
  | zero => rfl
  | succ skip ih =>
    unfold skipClusters
    by_cases hbroken : ¬ FatImageIsDataCluster image cluster ∨ steps = 0
    · rw [if_pos hbroken]
      rfl
    · rw [if_neg hbroken]
      push Not at hbroken
      exact bind_isSome (fatImageNextCluster_isSome hlaid hbroken.1) fun next _ =>
        ih (steps - 1) next

theorem copyChunk_isSome {cluster offset chunk : Nat}
    (hcluster : FatImageIsDataCluster image cluster) (hinside : ¬ ClusterOutside image cluster)
    (hchunk : chunk ≤ image.clusterSize - offset) : ((List.range chunk).mapM fun index =>
      image.bytes.read (dword (clusterOffset image cluster + offset + index))).isSome := by
  have hle := hlaid.cluster_le cluster hcluster hinside
  refine mapM_isSome fun index hindex => ?_
  rw [List.mem_range] at hindex
  refine readByte_isSome (Nat.lt_of_le_of_lt (dword_le _) ?_)
  lia

theorem copyClusters_isSome (steps cluster offset count : Nat) (copied : List UInt8) :
    (copyClusters image steps cluster offset count copied).isSome := by
  induction steps generalizing cluster offset copied with
  | zero => rfl
  | succ steps ih =>
    unfold copyClusters
    by_cases hdone : count ≤ copied.length
    · rw [if_pos hdone]
      rfl
    · rw [if_neg hdone]
      by_cases hcluster : FatImageIsDataCluster image cluster
      · rw [if_neg (not_not_intro hcluster)]
        by_cases houtside : ClusterOutside image cluster
        · rw [if_pos houtside]
          rfl
        · rw [if_neg houtside]
          refine bind_isSome (copyChunk_isSome hlaid hcluster houtside (Nat.min_le_left _ _)) ?_
          intro bytes _
          refine bind_isSome (fatImageNextCluster_isSome hlaid hcluster) fun next _ => ?_
          split_ifs
          · rfl
          · exact ih next 0 (copied ++ bytes)
      · rw [if_pos hcluster]
        rfl

theorem fatImageReadFile_isSome (entry : FatEntry) (offset count : UInt32) :
    (fatImageReadFile image entry offset count).isSome := by
  unfold fatImageReadFile
  by_cases hnothing : entry.size ≤ offset ∨ count = 0
  · rw [if_pos hnothing]
    rfl
  · rw [if_neg hnothing]
    refine bind_isSome (skipClusters_isSome hlaid _ _ _) fun start _ => ?_
    cases start with
    | none => rfl
    | some start => exact copyClusters_isSome hlaid _ _ _ _ []

end Laid

/-! ## The whole reader -/

/-- No function of the reader faults on the image, whatever it is asked for. -/
structure ReadsInside (image : FatImage) : Prop where
  nextCluster : ∀ cluster, FatImageIsDataCluster image cluster →
    (fatImageNextCluster image cluster).isSome
  listDirectory : ∀ (firstCluster : UInt16) capacity,
    (fatImageListDirectory image firstCluster.toNat capacity).isSome
  lookup : ∀ path, (fatImageLookup image path).isSome
  readFile : ∀ entry offset count, (fatImageReadFile image entry offset count).isSome
  freeClusters : (fatImageFreeClusters image).isSome
  volumeLabel : (fatImageVolumeLabel image).isSome

theorem readsInside_of_laidInside {image : FatImage} (hlaid : LaidInside image) :
    ReadsInside image where
  nextCluster := fun _ hcluster => fatImageNextCluster_isSome hlaid hcluster
  listDirectory := fun _ capacity =>
    fatWalkDirectory_isSome hlaid (fatListVisit_inside capacity) _ _
  lookup := fun path => lookupFrom_isSome hlaid rootEntry path.bytes
  readFile := fatImageReadFile_isSome hlaid
  freeClusters := fatImageFreeClusters_isSome hlaid
  volumeLabel := fatWalkDirectory_isSome hlaid fatLabelVisit_inside 0 none

theorem fat_image_reads_inside_iff (data : ByteMemory) (size : Nat) (image : FatImage)
    (hsize : size < 4294967296) (hmount : fatImageMount data size = some image) :
    (ReadsInside image ∧ SumsDoNotWrap data image) ↔ volumeEnd data < 4294967296 := by
  have hmounted := fatImageMount_cases hmount
  rw [← sumsDoNotWrap_iff hmounted hsize]
  constructor
  · exact fun h => h.2
  · intro hsums
    have hlaid := laidInside_of_sumsDoNotWrap hmounted hsize hsums
    exact ⟨readsInside_of_laidInside hlaid, hsums⟩

/-- A sector with the given bytes at the offsets from 11 on, and zeros elsewhere. -/
def bootSector (fields : List UInt8) : ByteMemory :=
  fun index => if index < fatBpbBytesPerSector then 0 else fields.getD (index - 11) 0

def floppyData : ByteMemory :=
  bootSector [0x00, 0x02, 1, 1, 0, 2, 224, 0, 0x40, 0x0B, 0xF0, 9, 0]

theorem fat_image_reads_inside_floppy :
    ∃ image, fatImageMount floppyData 1474560 = some image ∧
      ReadsInside image ∧ SumsDoNotWrap floppyData image := by
  have hmounts : (fatImageMount floppyData 1474560).isSome := by decide
  obtain ⟨image, himage⟩ := Option.isSome_iff_exists.mp hmounts
  have hend : volumeEnd floppyData < 4294967296 := by decide
  exact ⟨image, himage,
    (fat_image_reads_inside_iff floppyData 1474560 image (by decide) himage).mpr hend⟩

/-- 129 FATs of 65028 sectors each: the root directory comes out at 2560. -/
def hostileData : ByteMemory :=
  bootSector [0x00, 0x02, 1, 1, 0, 129, 16, 0, 0xEE, 0xFD, 0xF0, 0x04, 0xFE]

/-- An image of 3072 bytes is mounted with 65000 clusters, and the FAT entry of the last
one is read behind its end. -/
theorem fat_image_not_always_inside :
    ∃ image, fatImageMount hostileData 3072 = some image ∧
      ¬ ReadsInside image ∧ ¬ SumsDoNotWrap hostileData image := by
  have hfaults : ∃ image, fatImageMount hostileData 3072 = some image ∧
      FatImageIsDataCluster image 65001 ∧ fatImageNextCluster image 65001 = none ∧
      image.rootOffset = 2560 := by
    refine ⟨(fatImageMount hostileData 3072).get (by decide), ?_, ?_, ?_, ?_⟩
    · exact (Option.some_get _).symm
    · decide
    · decide
    · decide
  obtain ⟨image, himage, hcluster, hnone, hroot⟩ := hfaults
  refine ⟨image, himage, fun hreads => ?_, fun hsums => ?_⟩
  · have hsome := hreads.nextCluster 65001 hcluster
    rw [hnone] at hsome
    cases hsome
  · have hsector : bpbRootSector hostileData * fatImageSectorSize ≠ 2560 := by decide +kernel
    exact hsector (hsums.rootOffset_eq ▸ hroot)

end Ntvdmex.Dos.FatImg
