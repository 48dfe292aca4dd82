import Ntvdmex.Dos.Proofs.FatImg.Reads

/-!
# The bytes of a file

The content of a file is its clusters one after the other, cut to its size.  Reading skips the
whole clusters in front of the offset, copies the rest of the first one, then whole clusters, and
the front of the last one, so what it copies is a slice of the content.  The steps allow for every
data cluster once: enough for a chain without a repeated cluster, and an end for a cyclic one.
-/

namespace Ntvdmex.Dos.FatImg

open Foundation List Option UInt32

variable {offset cluster steps : Nat} {chain : List Nat} {copied : List UInt8}

section Slices

variable {α β : Type} {f : α → List β} {length : Nat}

theorem drop_flatMap_of_length (hlength : ∀ x, (f x).length = length) (whole rest : Nat)
    (xs : List α) :
    (xs.flatMap f).drop (whole * length + rest) = ((xs.drop whole).flatMap f).drop rest := by
  induction whole generalizing xs with
  | zero => simp
  | succ whole ih =>
    cases xs with
    | nil => simp
    | cons x xs =>
      have hskip : (whole + 1) * length + rest = (f x).length + (whole * length + rest) := by
        rw [hlength]
        ring
      rw [flatMap_cons, hskip, drop_append, Nat.add_sub_cancel_left, ih]
      simp

theorem take_drop_append {xs ys : List β} (hoffset : offset ≤ xs.length) (count : Nat) :
    ((xs ++ ys).drop offset).take count =
      (xs.drop offset).take (min (xs.length - offset) count) ++
        ys.take (count - min (xs.length - offset) count) := by
  have hdropped : (xs ++ ys).drop offset = xs.drop offset ++ ys := by
    rw [drop_append_of_le_length hoffset]
  rw [hdropped, take_append, length_drop]
  by_cases hle : count ≤ xs.length - offset
  · rw [Nat.min_eq_right hle, Nat.sub_eq_zero_of_le hle, Nat.sub_self]
  · have hge : xs.length - offset ≤ count := by omega
    have hall : (xs.drop offset).length ≤ xs.length - offset := by simp
    rw [Nat.min_eq_left hge, take_of_length_le hall, take_of_length_le (by omega)]

end Slices

/-! ## The content of a file -/

section Content

variable (image : FatImage)

def clusterBytes (cluster : Nat) : List UInt8 :=
  (List.range image.clusterSize).map fun index =>
    image.data (image.dataOffset + (cluster - fatFirstDataCluster) * image.clusterSize + index)

def fileContent (chain : List Nat) (size : Nat) : List UInt8 :=
  (chain.flatMap (clusterBytes image)).take size

def ClusterInside (cluster : Nat) : Prop :=
  FatImageIsDataCluster image cluster ∧
    image.dataOffset + (cluster - fatFirstDataCluster) * image.clusterSize + image.clusterSize ≤
      image.size

/-- Each cluster is linked to the one behind it, and all lie inside the image. -/
structure LinkedChain (chain : List Nat) : Prop where
  links : chain.IsChain fun cluster next => fatImageNextCluster image cluster = some next
  inside : ∀ cluster ∈ chain, ClusterInside image cluster

/-- Distinct data clusters from the first one of the entry on, enough of them for its size. -/
structure FileChain (entry : FatEntry) (chain : List Nat) : Prop extends
    LinkedChain image chain where
  first : ∀ cluster ∈ chain.head?, cluster = entry.firstCluster.toNat
  distinct : chain.Nodup
  covers : (entry.size.toNat + image.clusterSize - 1) / image.clusterSize ≤ chain.length

/-- The pieces of a file read one behind the other, each from where the one before it ended. -/
def readPieces (entry : FatEntry) : UInt32 → List UInt32 → Option (List UInt8)
  | _, [] => some []
  | offset, count :: counts => do
    let bytes ← fatImageReadFile image entry offset count
    let rest ← readPieces entry (offset + UInt32.ofNat bytes.length) counts
    return bytes ++ rest

end Content

section Clusters

variable {image : FatImage}

@[simp] theorem length_clusterBytes (cluster : Nat) :
    (clusterBytes image cluster).length = image.clusterSize := by
  simp [clusterBytes]

theorem length_flatMap_clusterBytes (chain : List Nat) :
    (chain.flatMap (clusterBytes image)).length = chain.length * image.clusterSize := by
  simp [length_flatMap]

theorem ClusterInside.clusterOffset_eq (hlaid : LaidInside image)
    (hinside : ClusterInside image cluster) :
    clusterOffset image cluster =
      image.dataOffset + (cluster - fatFirstDataCluster) * image.clusterSize := by
  have hsize := hlaid.size_lt
  have hend := hinside.2
  exact dword_of_lt (by omega)

theorem ClusterInside.not_outside (hlaid : LaidInside image) (hinside : ClusterInside image cluster)
    : ¬ ClusterOutside image cluster := by
  have hsize := hlaid.size_lt
  have hend := hinside.2
  unfold ClusterOutside
  rw [hinside.clusterOffset_eq hlaid, dword_of_lt (by omega)]
  omega

theorem copyChunk_eq (hlaid : LaidInside image) {chunk : Nat}
    (hinside : ClusterInside image cluster) (hchunk : offset + chunk ≤ image.clusterSize) :
    ((range chunk).mapM fun index =>
      image.bytes.read (dword (clusterOffset image cluster + offset + index))) =
      some (((clusterBytes image cluster).drop offset).take chunk) := by
  have hsize := hlaid.size_lt
  have hend := hinside.2
  have hread : ∀ index ∈ range chunk,
      image.bytes.read (dword (clusterOffset image cluster + offset + index)) =
        some (image.data (image.dataOffset
          + (cluster - fatFirstDataCluster) * image.clusterSize + offset + index)) := by
    intro index hindex
    rw [mem_range] at hindex
    rw [hinside.clusterOffset_eq hlaid, dword_of_lt (by lia)]
    exact SizedBytes.read_eq (by unfold FatImage.bytes; dsimp only; lia)
  rw [mapM_eq_some hread]
  congr 1
  apply ext_getElem
  · simp
    lia
  · intro index _ hindex
    simp [clusterBytes, Nat.add_assoc]

theorem LinkedChain.tail (hchain : LinkedChain image (cluster :: chain))
    : LinkedChain image chain where
  links := hchain.links.tail
  inside := fun next hnext => hchain.inside next (mem_cons_of_mem cluster hnext)

theorem skipClusters_eq (hchain : LinkedChain image chain) {skip : Nat}
    (hskip : skip < chain.length) (hsteps : skip ≤ steps)
    (hfirst : ∀ first ∈ chain.head?, first = cluster) :
    ∃ next, (∀ first ∈ (chain.drop skip).head?, first = next) ∧
      skipClusters image skip steps cluster = some (some (next, steps - skip)) := by
  induction skip generalizing chain steps cluster with
  | zero => exact ⟨cluster, by simpa using hfirst, rfl⟩
  | succ skip ih =>
    cases chain with
    | nil => simp at hskip
    | cons first chain =>
      have hcluster : first = cluster := hfirst first rfl
      have hinside := hchain.inside first mem_cons_self
      have hlinks := isChain_cons.mp hchain.links
      rw [length_cons] at hskip
      have hpositive : 0 < chain.length := by lia
      obtain ⟨next, hnext⟩ : ∃ next, chain.head? = some next :=
        ⟨chain.head (length_pos_iff.mp hpositive), head?_eq_some_head _⟩
      have hlink : fatImageNextCluster image first = some next := hlinks.1 next hnext
      have hrest : ∀ second ∈ chain.head?, second = next := by
        intro second hsecond
        rw [hnext] at hsecond
        exact (mem_some.mp hsecond).symm
      have hfewer : skip ≤ steps - 1 := by lia
      obtain ⟨target, htarget, hresult⟩ := ih hchain.tail (by lia) hfewer hrest
      refine ⟨target, by simpa using htarget, ?_⟩
      have hdata : ¬ (¬ FatImageIsDataCluster image cluster ∨ steps = 0) := by
        rw [← hcluster]
        rintro (hbroken | hempty)
        · exact hbroken hinside.1
        · lia
      rw [skipClusters, if_neg hdata, ← hcluster, hlink]
      rw [show steps - (skip + 1) = steps - 1 - skip by lia]
      exact hresult

theorem copyClusters_done (steps cluster offset : Nat) {count : Nat} (hdone : count ≤ copied.length) :
    copyClusters image steps cluster offset count copied = some copied := by
  cases steps with
  | zero => rfl
  | succ steps => rw [copyClusters, if_pos hdone]

def DataIsNotEnd (image : FatImage) : Prop :=
  ∀ cluster, FatImageIsDataCluster image cluster → ¬ FatIsEndOfChain image cluster

theorem copyClusters_eq (hlaid : LaidInside image) (hends : DataIsNotEnd image)
    (hchain : LinkedChain image chain) {count : Nat}
    (hfirst : ∀ first ∈ chain.head?, first = cluster) (hsteps : chain.length ≤ steps)
    (hoffset : offset ≤ image.clusterSize)
    (hcount : offset + (count - copied.length) ≤ chain.length * image.clusterSize) :
    copyClusters image steps cluster offset count copied =
      some (copied ++
        ((chain.flatMap (clusterBytes image)).drop offset).take (count - copied.length)) := by
  induction chain generalizing steps cluster offset copied with
  | nil =>
    simp only [length_nil, Nat.zero_mul] at hcount
    rw [copyClusters_done steps cluster offset (by lia)]
    simp
  | cons first chain ih =>
    by_cases hdone : count ≤ copied.length
    · rw [copyClusters_done steps cluster offset hdone, Nat.sub_eq_zero_of_le hdone]
      simp
    · have hcluster : first = cluster := hfirst first rfl
      have hinside : ClusterInside image cluster := by
        rw [← hcluster]
        exact hchain.inside first mem_cons_self
      have hlinks := isChain_cons.mp hchain.links
      rw [length_cons] at hsteps hcount
      obtain ⟨steps, rfl⟩ : ∃ fewer, steps = fewer + 1 := ⟨steps - 1, by lia⟩
      set chunk := min (image.clusterSize - offset) (count - copied.length) with hchunk
      have hfits : offset + chunk ≤ image.clusterSize := by lia
      have hbytes := copyChunk_eq hlaid hinside hfits
      set bytes := ((clusterBytes image cluster).drop offset).take chunk with hbytesEq
      have hlength : bytes.length = chunk := by
        rw [hbytesEq, length_take, length_drop, length_clusterBytes]
        lia
      obtain ⟨next, hnext⟩ :=
        isSome_iff_exists.mp (fatImageNextCluster_isSome hlaid hinside.1)
      have hrest : ∀ second ∈ chain.head?, second = next := by
        intro second hsecond
        have hlink := hlinks.1 second hsecond
        rw [hcluster, hnext] at hlink
        exact (some.inj hlink).symm
      have hleft : (copied ++ bytes).length = copied.length + chunk := by
        rw [length_append, hlength]
      have hexpand : (chain.length + 1) * image.clusterSize =
          chain.length * image.clusterSize + image.clusterSize := by ring
      have hgoes : ¬ (FatIsEndOfChain image next ∧ (copied ++ bytes).length < count) := by
        rintro ⟨hend, hmore⟩
        cases chain with
        | nil =>
          rw [length_nil, Nat.zero_add, Nat.one_mul] at hcount
          lia
        | cons second chain =>
          have hsecond : second = next := hrest second rfl
          rw [← hsecond] at hend
          have hdata := (hchain.inside second (by simp)).1
          exact hends second hdata hend
      have hfewer : chain.length ≤ steps := by lia
      have hmore : 0 + (count - (copied ++ bytes).length) ≤ chain.length * image.clusterSize := by
        lia
      have hcopied := ih hchain.tail hrest hfewer (Nat.zero_le _) hmore
      rw [copyClusters, if_neg hdone, if_neg (not_not_intro hinside.1),
        if_neg (hinside.not_outside hlaid)]
      dsimp only
      rw [← hchunk, hbytes]
      dsimp only [bind_eq_bind, bind_some]
      rw [hnext]
      dsimp only [bind_some]
      rw [if_neg hgoes, hcopied, flatMap_cons, hcluster,
        take_drop_append (by rw [length_clusterBytes]; exact hoffset), length_clusterBytes,
        ← hchunk, ← hbytesEq, drop_zero, hleft, append_assoc, Nat.sub_sub]

/-! ## The whole read -/

theorem LinkedChain.length_le (hchain : LinkedChain image chain) (hdistinct : chain.Nodup)
    : chain.length ≤ image.clusterCount := by
  have hsubset : chain ⊆ range' fatFirstDataCluster image.clusterCount := by
    intro cluster hcluster
    have hdata := (hchain.inside cluster hcluster).1
    unfold FatImageIsDataCluster at hdata
    rw [mem_range'_1]
    omega
  have hle := (subperm_of_subset hdistinct hsubset).length_le
  rwa [length_range'] at hle

theorem LinkedChain.drop (hchain : LinkedChain image chain) (skip : Nat) :
    LinkedChain image (chain.drop skip) where
  links := hchain.links.drop skip
  inside := fun cluster hcluster => hchain.inside cluster (mem_of_mem_drop hcluster)

section

variable (hlaid : LaidInside image) {entry : FatEntry} {chain : List Nat}
    (hchain : FileChain image entry chain)

include hlaid hchain

theorem FileChain.size_le :
    entry.size.toNat ≤ chain.length * image.clusterSize := by
  have hpos := hlaid.clusterSize_pos
  have hcovers := Nat.mul_le_mul_right image.clusterSize hchain.covers
  have hceil := @Nat.lt_div_mul_add (entry.size.toNat + image.clusterSize - 1) _ hpos
  omega

theorem length_fileContent :
    (fileContent image chain entry.size.toNat).length = entry.size.toNat := by
  rw [fileContent, length_take, length_flatMap_clusterBytes]
  exact Nat.min_eq_left (hchain.size_le hlaid)

end

theorem slice_fileContent (chain : List Nat) (size offset count : Nat) :
    ((fileContent image chain size).drop offset).take count =
      (((chain.drop (offset / image.clusterSize)).flatMap (clusterBytes image)).drop
        (offset % image.clusterSize)).take (min count (size - offset)) := by
  have hoffset : offset =
      offset / image.clusterSize * image.clusterSize + offset % image.clusterSize := by
    rw [Nat.mul_comm, Nat.div_add_mod]
  rw [fileContent, drop_take, take_take,
    ← drop_flatMap_of_length length_clusterBytes, ← hoffset]

section

variable (hlaid : LaidInside image) (hends : DataIsNotEnd image) {entry : FatEntry}
    {chain : List Nat} (hchain : FileChain image entry chain)

include hlaid hends hchain

theorem fatImageReadFile_eq (offset count : UInt32) :
    fatImageReadFile image entry offset count =
      some (((fileContent image chain entry.size.toNat).drop offset.toNat).take count.toNat) := by
  rw [slice_fileContent]
  unfold fatImageReadFile
  by_cases hnothing : entry.size ≤ offset ∨ count = 0
  · have hzero : min count.toNat (entry.size.toNat - offset.toNat) = 0 := by
      rcases hnothing with hpast | hzero
      · rw [le_iff_toNat_le] at hpast
        lia
      · rw [hzero]
        exact Nat.zero_min _
    rw [if_pos hnothing, hzero, take_zero]
  · rw [if_neg hnothing]
    push Not at hnothing
    have hpast := hnothing.1
    rw [le_iff_toNat_le] at hpast
    have hsize := hchain.size_le hlaid
    have hpos := hlaid.clusterSize_pos
    have hall := hchain.toLinkedChain.length_le hchain.distinct
    have hskip : offset.toNat / image.clusterSize < chain.length := by
      rw [Nat.div_lt_iff_lt_mul hpos]
      lia
    set skip := offset.toNat / image.clusterSize with hskipEq
    set wanted := min count.toNat (entry.size.toNat - offset.toNat) with hwanted
    have hsteps : skip ≤ image.clusterCount + 1 := by lia
    obtain ⟨cluster, hfirst, hstart⟩ :=
      skipClusters_eq hchain.toLinkedChain hskip hsteps hchain.first
    have hsplit : chain.length * image.clusterSize =
        skip * image.clusterSize + (chain.drop skip).length * image.clusterSize := by
      rw [length_drop, ← Nat.add_mul, Nat.add_sub_cancel' hskip.le]
    have hoffset : skip * image.clusterSize + offset.toNat % image.clusterSize = offset.toNat := by
      rw [Nat.mul_comm, hskipEq, Nat.div_add_mod]
    have hleft : (chain.drop skip).length ≤ image.clusterCount + 1 - skip := by
      rw [length_drop]
      lia
    have hcovered : offset.toNat % image.clusterSize + (wanted - ([] : List UInt8).length) ≤
        (chain.drop skip).length * image.clusterSize := by
      rw [length_nil]
      lia
    have hcopied := copyClusters_eq hlaid hends (hchain.toLinkedChain.drop skip) hfirst hleft
      (Nat.mod_lt _ hpos).le hcovered
    rw [hstart]
    dsimp only [bind_eq_bind, bind_some]
    rw [hcopied, nil_append, length_nil, Nat.sub_zero]

theorem readPieces_eq (offset : UInt32) (counts : List UInt32) :
    readPieces image entry offset counts =
      some (((fileContent image chain entry.size.toNat).drop offset.toNat).take
        (counts.map UInt32.toNat).sum) := by
  induction counts generalizing offset with
  | nil => simp [readPieces]
  | cons count counts ih =>
    set content := fileContent image chain entry.size.toNat with hcontent
    set bytes := (content.drop offset.toNat).take count.toNat with hbytes
    have hread : fatImageReadFile image entry offset count = some bytes :=
      fatImageReadFile_eq hlaid hends hchain offset count
    have hsize : content.length = entry.size.toNat := length_fileContent hlaid hchain
    have hlength : bytes.length = min count.toNat (content.length - offset.toNat) := by
      rw [hbytes, length_take, length_drop]
    have hnext : content.drop (offset + ofNat bytes.length).toNat =
        (content.drop offset.toNat).drop count.toNat := by
      rw [drop_drop]
      have hword : entry.size.toNat < 4294967296 := entry.size.toNat_lt
      have hoffset : offset.toNat < 4294967296 := offset.toNat_lt
      by_cases hpast : content.length ≤ offset.toNat
      · have hzero : bytes.length = 0 := by lia
        have hsame : (offset + ofNat bytes.length).toNat = offset.toNat := by
          rw [hzero, UInt32.toNat_add, toNat_ofNat', Nat.zero_mod, Nat.add_zero,
            Nat.mod_eq_of_lt hoffset]
        rw [hsame, drop_of_length_le hpast, drop_of_length_le (by lia)]
      · have hsum : (offset + ofNat bytes.length).toNat = offset.toNat + bytes.length := by
          rw [UInt32.toNat_add, toNat_ofNat', Nat.mod_eq_of_lt (by lia),
            Nat.mod_eq_of_lt (by lia)]
        rw [hsum]
        by_cases hall : count.toNat ≤ content.length - offset.toNat
        · rw [hlength, Nat.min_eq_left hall]
        · rw [drop_of_length_le (by lia), drop_of_length_le (by lia)]
    rw [readPieces, hread]
    dsimp only [bind_eq_bind, bind_some, Option.pure_def]
    rw [ih]
    dsimp only [bind_some]
    rw [hnext, map_cons, sum_cons, take_add]

end

/-! ## Any entry -/

theorem length_copyClusters_le {count : Nat} {bytes : List UInt8}
    (h : copyClusters image steps cluster offset count copied = some bytes)
    (hcopied : copied.length ≤ count) : bytes.length ≤ count := by
  induction steps generalizing cluster offset copied with
  | zero =>
    cases h
    exact hcopied
  | succ steps ih =>
    rw [copyClusters] at h
    by_cases hstops : count ≤ copied.length ∨ ¬ FatImageIsDataCluster image cluster ∨
        ClusterOutside image cluster
    · have hsame : copied = bytes := by
        rcases hstops with hdone | hdata | houtside
        · rw [if_pos hdone] at h
          exact some.inj h
        · rw [if_pos hdata, ite_self] at h
          exact some.inj h
        · rw [if_pos houtside, ite_self, ite_self] at h
          exact some.inj h
      rwa [← hsame]
    · push Not at hstops
      rw [if_neg (Nat.not_le.mpr hstops.1), if_neg (not_not_intro hstops.2.1),
        if_neg hstops.2.2] at h
      obtain ⟨chunk, hchunk, h⟩ := bind_eq_some_iff.mp h
      obtain ⟨next, -, h⟩ := bind_eq_some_iff.mp h
      have hlength := length_of_mapM_some hchunk
      rw [length_range] at hlength
      have hfits : (copied ++ chunk).length ≤ count := by
        rw [length_append, hlength]
        lia
      by_cases hend : FatIsEndOfChain image next ∧ (copied ++ chunk).length < count
      · rw [if_pos hend] at h
        rwa [← some.inj h]
      · rw [if_neg hend] at h
        exact ih h hfits

theorem length_fatImageReadFile_le {entry : FatEntry} {offset count : UInt32}
    {bytes : List UInt8} (h : fatImageReadFile image entry offset count = some bytes) :
    bytes.length ≤ min count.toNat (entry.size.toNat - offset.toNat) := by
  unfold fatImageReadFile at h
  by_cases hnothing : entry.size ≤ offset ∨ count = 0
  · rw [if_pos hnothing] at h
    rw [← some.inj h]
    exact Nat.zero_le _
  · rw [if_neg hnothing] at h
    obtain ⟨start, -, h⟩ := bind_eq_some_iff.mp h
    cases start with
    | none =>
      rw [← some.inj h]
      exact Nat.zero_le _
    | some start => exact length_copyClusters_le h (Nat.zero_le _)

end Clusters

/-- What reading a file of the image gives. -/
structure ReadsContent (image : FatImage) : Prop where
  slice : ∀ entry chain, FileChain image entry chain → ∀ offset count,
    fatImageReadFile image entry offset count =
      some (((fileContent image chain entry.size.toNat).drop offset.toNat).take count.toNat)
  pieces : ∀ entry chain, FileChain image entry chain → ∀ offset counts,
    readPieces image entry offset counts =
      some (((fileContent image chain entry.size.toNat).drop offset.toNat).take
        (counts.map UInt32.toNat).sum)
  bounded : ∀ entry offset count, ∃ bytes,
    fatImageReadFile image entry offset count = some bytes ∧
      bytes.length ≤ min count.toNat (entry.size.toNat - offset.toNat)

theorem fat_image_read_file_content (data : ByteMemory) (size : Nat) (image : FatImage)
    (hsize : size < 4294967296) (hend : volumeEnd data < 4294967296)
    (hmount : fatImageMount data size = some image) : ReadsContent image := by
  have hmounted := fatImageMount_cases hmount
  have hsums := (sumsDoNotWrap_iff hmounted hsize).mpr hend
  have hlaid := laidInside_of_sumsDoNotWrap hmounted hsize hsums
  have hends : DataIsNotEnd image := fun _ hdata => not_endOfChain_of_mount hmount hdata
  refine ⟨fun entry chain hchain => ?_, fun entry chain hchain => ?_, fun entry offset count => ?_⟩
  · exact fatImageReadFile_eq hlaid hends hchain
  · exact readPieces_eq hlaid hends hchain
  · obtain ⟨bytes, hbytes⟩ :=
      isSome_iff_exists.mp (fatImageReadFile_isSome hlaid entry offset count)
    exact ⟨bytes, hbytes, length_fatImageReadFile_le hbytes⟩

/-- The floppy with a chain of clusters 2 and 3, and one byte in the second of them. -/
def chainedData : ByteMemory :=
  (floppyData.store 515 3).store 17408 0x41

def chainedEntry : FatEntry where
  name := []
  rawName := []
  attributes := 0
  time := 0
  date := 0
  firstCluster := 2
  size := 600

def chainedImage : FatImage :=
  (fatImageMount chainedData 1474560).get (by decide)

theorem fat_image_read_file_chained :
    fatImageMount chainedData 1474560 = some chainedImage ∧ ReadsContent chainedImage ∧
      FileChain chainedImage chainedEntry [2, 3] ∧
      fatImageReadFile chainedImage chainedEntry 510 4 = some [0, 0, 0x41, 0] := by
  have hmount : fatImageMount chainedData 1474560 = some chainedImage :=
    (some_get _).symm
  have hreads := fat_image_read_file_content chainedData 1474560 chainedImage (by decide)
    (by decide) hmount
  have hchain : FileChain chainedImage chainedEntry [2, 3] := by
    refine { links := ?_, inside := ?_, first := ?_, distinct := ?_, covers := ?_ }
    · decide
    · unfold ClusterInside
      decide
    · decide
    · decide
    · decide
  refine ⟨hmount, hreads, hchain, ?_⟩
  rw [hreads.slice chainedEntry [2, 3] hchain]
  decide +kernel

end Ntvdmex.Dos.FatImg
