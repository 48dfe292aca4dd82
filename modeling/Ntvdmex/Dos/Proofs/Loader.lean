import Ntvdmex.Dos.Loader

/-!
# What the loaders read, where they relocate and what they write

The header and the image lie inside the file by the checks that the loaders make.  The relocation
table is read where the header says, up to the count the header gives, and neither is compared with
the length of the file.  Where the relocated words lie inside the image and apart from one another,
each is increased once and nothing else is changed.
-/

namespace Ntvdmex.Dos.Loader

open Foundation Logged List

section Values

variable (file memory : ByteMemory) (bytesRead : Nat)

theorem value_isMzFileLogged :
    (isMzFileLogged file bytesRead).value = decide (IsMzFile file bytesRead) := by
  unfold isMzFileLogged
  by_cases hshort : bytesRead < dosMzHeaderMin
  · rw [if_pos hshort]
    exact (decide_eq_false fun hmz => absurd hmz.1 (Nat.not_le.mpr hshort)).symm
  · rw [if_neg hshort, value_bind, value_byte]
    by_cases hfirst : file 0 = 0x4D
    · rw [if_neg (not_not.mpr hfirst), value_bind, value_byte, value_pure]
      refine decide_eq_decide.mpr ⟨fun hsecond => ?_, fun hmz => hmz.2.2⟩
      exact ⟨Nat.le_of_not_lt hshort, hfirst, hsecond⟩
    · rw [if_pos hfirst]
      exact (decide_eq_false fun hmz => hfirst hmz.2.1).symm

theorem value_mzHeaderLogged :
    (mzHeaderLogged file bytesRead).value =
      (mzHeaderSize file, dosLoaderReadWord file dosMzRelocationCount,
        dosLoaderReadWord file dosMzRelocationTable, mzImageSize file bytesRead) :=
  rfl

theorem value_copyLogged (origin target size : Nat) :
    (copyLogged file origin target size memory).value =
      memory.copyFrom target file origin size := by
  rw [copyLogged, value_loop, ByteMemory.copyFrom_eq_loop]
  rfl

theorem value_relocateLogged (loadSegment factor relocationTable count : Nat) :
    (relocateLogged file loadSegment factor relocationTable count memory).value =
      (range count).foldl
        (applyOverlayRelocation file loadSegment factor relocationTable) memory := by
  rw [relocateLogged, value_loop]
  rfl

theorem value_dosLoadImageAtLogged (pspSegment requestedSegment : Nat) :
    (dosLoadImageAtLogged memory file bytesRead pspSegment requestedSegment).value =
      dosLoadImageAt memory file bytesRead pspSegment requestedSegment := by
  unfold dosLoadImageAtLogged dosLoadImageAt
  rw [value_bind, value_isMzFileLogged]
  by_cases hmz : IsMzFile file bytesRead
  · rw [if_pos hmz, if_pos (decide_eq_true hmz)]
    simp only [value_bind, value_copyLogged, value_relocateLogged]
    rfl
  · rw [if_neg hmz, if_neg fun h => hmz (of_decide_eq_true h)]
    simp only [value_bind, value_copyLogged]
    rfl

theorem value_dosLoadOverlayLogged (loadSegment relocationFactor : Nat) :
    (dosLoadOverlayLogged memory file bytesRead loadSegment relocationFactor).value =
      dosLoadOverlay memory file bytesRead loadSegment relocationFactor := by
  unfold dosLoadOverlayLogged dosLoadOverlay
  rw [value_bind, value_isMzFileLogged]
  by_cases hmz : IsMzFile file bytesRead
  · rw [if_pos hmz, if_pos (decide_eq_true hmz)]
    simp only [value_bind, value_copyLogged, value_relocateLogged]
    rfl
  · rw [if_neg hmz, if_neg fun h => hmz (of_decide_eq_true h)]
    simp only [value_bind, value_copyLogged]
    rfl

end Values

/-! ## What is read -/

def ReadsOnlyFile {α : Type} (outcome : Logged α) (bytesRead : Nat) : Prop :=
  ∀ index ∈ outcome.reads, index < bytesRead

def TableInside (file : ByteMemory) (bytesRead : Nat) : Prop :=
  IsMzFile file bytesRead → dosLoaderReadWord file dosMzRelocationCount ≠ 0 →
    dosLoaderReadWord file dosMzRelocationTable
      + dosLoaderReadWord file dosMzRelocationCount * dosMzRelocationEntry ≤ bytesRead

section Reads

variable {file memory : ByteMemory} {bytesRead : Nat}

theorem isMzFileLogged_reads : ReadsOnlyFile (isMzFileLogged file bytesRead) bytesRead := by
  intro index hindex
  unfold isMzFileLogged at hindex
  split at hindex
  · simp at hindex
  · rename_i hlong
    have hmin : dosMzHeaderMin = 28 := rfl
    have hle : index ≤ 1 := by
      rw [reads_bind, mem_append] at hindex
      rcases hindex with hfirst | hsecond
      · simp at hfirst
        lia
      · split at hsecond <;> simp at hsecond
        lia
    lia

theorem mzHeaderLogged_reads (hmz : IsMzFile file bytesRead) :
    ReadsOnlyFile (mzHeaderLogged file bytesRead) bytesRead := by
  intro index hindex
  have hlong : 28 ≤ bytesRead := hmz.1
  have hmem : index ∈ [8, 9, 6, 7, 24, 25, 2, 3, 4, 5] := hindex
  simp only [mem_cons, not_mem_nil, or_false] at hmem
  lia

theorem mem_reads_copyLogged {origin target size index : Nat} :
    index ∈ (copyLogged file origin target size memory).reads ↔
      origin ≤ index ∧ index < origin + size := by
  unfold copyLogged
  rw [mem_reads_loop (fun i => [origin + i]) fun _ _ => rfl]
  simp only [mem_range, mem_singleton]
  constructor
  · rintro ⟨i, hi, rfl⟩
    lia
  · intro h
    exact ⟨index - origin, by lia, by lia⟩

theorem mem_reads_relocateLogged {loadSegment factor relocationTable count index : Nat} :
    index ∈ (relocateLogged file loadSegment factor relocationTable count memory).reads ↔
      relocationTable ≤ index ∧ index < relocationTable + count * dosMzRelocationEntry := by
  unfold relocateLogged dosMzRelocationEntry dosMzRelocationSegment
  rw [mem_reads_loop (fun i =>
    [relocationTable + i * 4, relocationTable + i * 4 + 1, relocationTable + i * 4 + 2,
      relocationTable + i * 4 + 2 + 1]) fun _ _ => rfl]
  simp only [mem_range, mem_cons, not_mem_nil, or_false]
  constructor
  · rintro ⟨i, hi, hread⟩
    lia
  · intro h
    exact ⟨(index - relocationTable) / 4, by lia, by lia⟩

theorem mzImage_inside : mzImageSize file bytesRead = 0 ∨
    mzHeaderSize file + mzImageSize file bytesRead ≤ bytesRead := by
  have hclipped : ∀ used, (if bytesRead < used then bytesRead else used) ≤ bytesRead := by
    intro used
    split <;> lia
  have hused : mzTotalUsed file bytesRead ≤ bytesRead := hclipped _
  unfold mzImageSize
  split
  · right
    lia
  · exact .inl rfl

theorem copyLogged_reads {target : Nat} :
    ReadsOnlyFile (copyLogged file (mzHeaderSize file) target (mzImageSize file bytesRead) memory)
      bytesRead := by
  intro index hindex
  rw [mem_reads_copyLogged] at hindex
  rcases mzImage_inside with hempty | hinside
  · rw [hempty] at hindex
    omega
  · omega

theorem relocateLogged_reads {loadSegment factor : Nat} (hmz : IsMzFile file bytesRead) :
    ReadsOnlyFile (relocateLogged file loadSegment factor
        (dosLoaderReadWord file dosMzRelocationTable)
        (dosLoaderReadWord file dosMzRelocationCount) memory) bytesRead ↔
      TableInside file bytesRead := by
  constructor
  · intro hreads _ hcount
    have hentry : dosMzRelocationEntry = 4 := rfl
    have hlast := hreads (dosLoaderReadWord file dosMzRelocationTable
      + dosLoaderReadWord file dosMzRelocationCount * dosMzRelocationEntry - 1)
      (mem_reads_relocateLogged.mpr (by rw [hentry]; lia))
    rw [hentry] at hlast ⊢
    lia
  · intro htable index hindex
    rw [mem_reads_relocateLogged] at hindex
    have hcount : dosLoaderReadWord file dosMzRelocationCount ≠ 0 := by
      intro hzero
      rw [hzero] at hindex
      lia
    have hinside := htable hmz hcount
    lia

theorem readsOnlyFile_bind {α β : Type} {x : Logged α} {f : α → Logged β} :
    ReadsOnlyFile (x >>= f) bytesRead ↔
      ReadsOnlyFile x bytesRead ∧ ReadsOnlyFile (f x.value) bytesRead := by
  unfold ReadsOnlyFile
  simp only [reads_bind, mem_append]
  exact ⟨fun h => ⟨fun index hindex => h index (.inl hindex),
    fun index hindex => h index (.inr hindex)⟩,
    fun h index hindex => hindex.elim (h.1 index) (h.2 index)⟩

theorem readsOnlyFile_pure {α : Type} (value : α) :
    ReadsOnlyFile (pure value : Logged α) bytesRead :=
  fun _ hindex => absurd hindex not_mem_nil

theorem readsOnlyFile_word {offset : Nat} (h : offset + 1 < bytesRead) :
    ReadsOnlyFile (word file offset) bytesRead := by
  intro index hindex
  simp only [reads_word, mem_cons, not_mem_nil, or_false] at hindex
  omega

theorem dosLoadImageAt_reads_iff {pspSegment requestedSegment : Nat} :
    ReadsOnlyFile (dosLoadImageAtLogged memory file bytesRead pspSegment requestedSegment)
        bytesRead ↔
      TableInside file bytesRead := by
  unfold dosLoadImageAtLogged
  rw [readsOnlyFile_bind, and_iff_right isMzFileLogged_reads, value_isMzFileLogged]
  by_cases hmz : IsMzFile file bytesRead
  · have hlong : 28 ≤ bytesRead := hmz.1
    rw [if_pos (decide_eq_true hmz), readsOnlyFile_bind, and_iff_right (mzHeaderLogged_reads hmz)]
    rw [value_mzHeaderLogged]
    rw [readsOnlyFile_bind, and_iff_right copyLogged_reads, readsOnlyFile_bind]
    refine Iff.trans (and_iff_left ?_) (relocateLogged_reads hmz)
    simp only [readsOnlyFile_bind]
    exact ⟨readsOnlyFile_word (by unfold dosMzInitialCs; lia),
      readsOnlyFile_word (by unfold dosMzInitialIp; lia),
      readsOnlyFile_word (by unfold dosMzInitialSs; lia),
      readsOnlyFile_word (by unfold dosMzInitialSp; lia), readsOnlyFile_pure _⟩
  · rw [if_neg fun h => hmz (of_decide_eq_true h), readsOnlyFile_bind]
    refine iff_of_true ⟨fun index hindex => ?_, readsOnlyFile_pure _⟩ fun h => absurd h hmz
    rw [mem_reads_copyLogged] at hindex
    split at hindex <;> lia

theorem dosLoadOverlay_reads_iff {loadSegment relocationFactor : Nat} :
    ReadsOnlyFile (dosLoadOverlayLogged memory file bytesRead loadSegment relocationFactor)
        bytesRead ↔
      TableInside file bytesRead := by
  unfold dosLoadOverlayLogged
  rw [readsOnlyFile_bind, and_iff_right isMzFileLogged_reads, value_isMzFileLogged]
  by_cases hmz : IsMzFile file bytesRead
  · rw [if_pos (decide_eq_true hmz), readsOnlyFile_bind, and_iff_right (mzHeaderLogged_reads hmz)]
    rw [value_mzHeaderLogged]
    rw [readsOnlyFile_bind, and_iff_right copyLogged_reads, readsOnlyFile_bind]
    exact (and_iff_left (readsOnlyFile_pure _)).trans (relocateLogged_reads hmz)
  · rw [if_neg fun h => hmz (of_decide_eq_true h), readsOnlyFile_bind]
    refine iff_of_true ⟨fun index hindex => ?_, readsOnlyFile_pure _⟩ fun h => absurd h hmz
    rw [mem_reads_copyLogged] at hindex
    omega

end Reads

end Ntvdmex.Dos.Loader

/-!
## The image in memory

What the copy and the relocation loop leave, word by word: the image of the file with the relocated
words increased by the factor.
-/

namespace Ntvdmex.Dos.Loader

open Foundation List

/-- Words of an image, by offset, that do not overlap and lie inside it. -/
structure WordsApart (fixups : List Nat) (size : Nat) : Prop where
  apart : fixups.Pairwise fun first second => first + 2 ≤ second ∨ second + 2 ≤ first
  inside : ∀ fixup ∈ fixups, fixup + 2 ≤ size

/-- The relocation loop by the offsets of the words. -/
def relocateWords (base factor : Nat) (fixups : List Nat) (memory : ByteMemory) : ByteMemory :=
  fixups.foldl
    (fun memory fixup =>
      memory.writeWord (base + fixup) (word (memory.readWord (base + fixup) + factor)))
    memory

variable {base factor : Nat} {fixups : List Nat}

theorem relocateWords_other {address : Nat}
    (h : ∀ fixup ∈ fixups, address ≠ base + fixup ∧ address ≠ base + fixup + 1)
    (memory : ByteMemory) : relocateWords base factor fixups memory address = memory address := by
  induction fixups generalizing memory with
  | nil => rfl
  | cons fixup fixups ih =>
    have hrest := ih fun other hother => h other (mem_cons_of_mem fixup hother)
    calc relocateWords base factor (fixup :: fixups) memory address
        = memory.writeWord (base + fixup) (word (memory.readWord (base + fixup) + factor))
            address := hrest _
      _ = memory address := ByteMemory.writeWord_other _ _ (h fixup mem_cons_self)

theorem relocateWords_readWord_other {fixup : Nat}
    (h : ∀ other ∈ fixups, fixup + 2 ≤ other ∨ other + 2 ≤ fixup) (memory : ByteMemory) :
    (relocateWords base factor fixups memory).readWord (base + fixup) =
      memory.readWord (base + fixup) := by
  apply ByteMemory.readWord_congr
  · apply relocateWords_other
    intro other hother
    have hapart := h other hother
    lia
  · apply relocateWords_other
    intro other hother
    have hapart := h other hother
    lia

theorem relocateWords_word
    (happart : fixups.Pairwise fun first second => first + 2 ≤ second ∨ second + 2 ≤ first)
    {fixup : Nat} (hfixup : fixup ∈ fixups) (memory : ByteMemory) :
    (relocateWords base factor fixups memory).readWord (base + fixup) =
      word (memory.readWord (base + fixup) + factor) := by
  induction fixups generalizing memory with
  | nil => exact absurd hfixup not_mem_nil
  | cons first fixups ih =>
    obtain ⟨hfirst, hrest⟩ := pairwise_cons.mp happart
    have hstep : relocateWords base factor (first :: fixups) memory =
        relocateWords base factor fixups
          (memory.writeWord (base + first) (word (memory.readWord (base + first) + factor))) :=
      rfl
    rw [hstep]
    by_cases hin : fixup ∈ fixups
    · have hdisjoint := hfirst fixup hin
      rw [ih hrest hin, ByteMemory.readWord_writeWord_disjoint _ _ (by omega)]
    · obtain rfl := (mem_cons.mp hfixup).resolve_right hin
      rw [relocateWords_readWord_other hfirst, ByteMemory.readWord_writeWord_same]
      exact Nat.mod_mod _ _

/-! ## The placed image -/

/-- The image `file[origin ..]` of so many bytes lies at `base`, each of the words increased by the
factor, and nothing else has changed. -/
structure Placed (memory after file : ByteMemory) (base origin size : Nat) (fixups : List Nat)
    (factor : Nat) : Prop where
  words : ∀ fixup ∈ fixups,
    after.readWord (base + fixup) = word (file.readWord (origin + fixup) + factor)
  bytes : ∀ offset < size, (∀ fixup ∈ fixups, offset ≠ fixup ∧ offset ≠ fixup + 1) →
    after (base + offset) = file (origin + offset)
  others : ∀ address, address < base ∨ base + size ≤ address → after address = memory address

theorem placed_relocateWords (memory file : ByteMemory) (base origin : Nat) {size : Nat}
    (factor : Nat) (h : WordsApart fixups size) :
    Placed memory (relocateWords base factor fixups (memory.copyFrom base file origin size)) file
      base origin size fixups factor where
  words fixup hfixup := by
    have hinside := h.inside fixup hfixup
    have hcopied : (memory.copyFrom base file origin size).readWord (base + fixup) =
        file.readWord (origin + fixup) := by
      rw [ByteMemory.readWord, ByteMemory.readWord, Nat.add_assoc, Nat.add_assoc,
        ByteMemory.copyFrom_apply _ _ _ (by lia), ByteMemory.copyFrom_apply _ _ _ (by lia)]
    rw [relocateWords_word h.apart hfixup, hcopied]
  bytes offset hoffset hclear := by
    rw [relocateWords_other fun fixup hfixup => by have := hclear fixup hfixup; lia,
      ByteMemory.copyFrom_apply _ _ _ hoffset]
  others address haddress := by
    rw [relocateWords_other fun fixup hfixup => by have := h.inside fixup hfixup; lia,
      ByteMemory.copyFrom_other _ _ _ haddress]

/-- The offset into the image of the word a relocation entry names. -/
def fixupOffset (file : ByteMemory) (index : Nat) : Nat :=
  let entry := dosLoaderReadWord file dosMzRelocationTable + index * dosMzRelocationEntry
  segmentAddress (dosLoaderReadWord file (entry + dosMzRelocationSegment))
    + dosLoaderReadWord file entry

/-- The words an MZ file asks to relocate.  A file of another kind has none. -/
def fixupOffsets (file : ByteMemory) (bytesRead : Nat) : List Nat :=
  if IsMzFile file bytesRead then
    (List.range (dosLoaderReadWord file dosMzRelocationCount)).map (fixupOffset file)
  else []

theorem foldl_applyOverlayRelocation (file memory : ByteMemory) (loadSegment factor count : Nat) :
    (range count).foldl (applyOverlayRelocation file loadSegment factor
        (dosLoaderReadWord file dosMzRelocationTable)) memory =
      relocateWords (segmentAddress loadSegment) factor
        ((range count).map (fixupOffset file)) memory := by
  unfold relocateWords
  rw [foldl_map]
  congr 1
  funext memory index
  have hfixup : ∀ segment offset, segmentAddress (loadSegment + segment) + offset =
      segmentAddress loadSegment + (segmentAddress segment + offset) := by
    intro segment offset
    simp only [segmentAddress, Nat.shiftLeft_eq]
    omega
  unfold applyOverlayRelocation fixupOffset
  dsimp only
  rw [hfixup]

def imageBase (file : ByteMemory) (bytesRead pspSegment requestedSegment : Nat) : Nat :=
  if IsMzFile file bytesRead then segmentAddress (mzLoadSegment pspSegment requestedSegment)
  else segmentAddress pspSegment + dosComEntry

def imageOrigin (file : ByteMemory) (bytesRead : Nat) : Nat :=
  if IsMzFile file bytesRead then mzHeaderSize file else 0

theorem dosLoadImageAt_placed (memory file : ByteMemory)
    {bytesRead pspSegment requestedSegment : Nat}
    (h : WordsApart (fixupOffsets file bytesRead)
      (dosLoadImageAt memory file bytesRead pspSegment requestedSegment).2.imageSize) :
    Placed memory (dosLoadImageAt memory file bytesRead pspSegment requestedSegment).1 file
      (imageBase file bytesRead pspSegment requestedSegment) (imageOrigin file bytesRead)
      (dosLoadImageAt memory file bytesRead pspSegment requestedSegment).2.imageSize
      (fixupOffsets file bytesRead) (mzLoadSegment pspSegment requestedSegment) := by
  unfold dosLoadImageAt fixupOffsets imageBase imageOrigin at *
  by_cases hmz : IsMzFile file bytesRead
  · simp only [if_pos hmz] at h ⊢
    have hloop := foldl_applyOverlayRelocation file
      (memory.copyFrom (segmentAddress (mzLoadSegment pspSegment requestedSegment)) file
        (mzHeaderSize file) (mzImageSize file bytesRead))
      (mzLoadSegment pspSegment requestedSegment) (mzLoadSegment pspSegment requestedSegment)
      (dosLoaderReadWord file dosMzRelocationCount)
    have hplaced := placed_relocateWords memory file
      (segmentAddress (mzLoadSegment pspSegment requestedSegment)) (mzHeaderSize file)
      (mzLoadSegment pspSegment requestedSegment) h
    rw [← hloop] at hplaced
    exact hplaced
  · simp only [if_neg hmz] at h ⊢
    exact placed_relocateWords memory file _ 0 _ h

theorem dosLoadOverlay_placed (memory file : ByteMemory)
    {bytesRead loadSegment relocationFactor : Nat}
    (h : WordsApart (fixupOffsets file bytesRead)
      (dosLoadOverlay memory file bytesRead loadSegment relocationFactor).2) :
    Placed memory (dosLoadOverlay memory file bytesRead loadSegment relocationFactor).1 file
      (segmentAddress loadSegment) (imageOrigin file bytesRead)
      (dosLoadOverlay memory file bytesRead loadSegment relocationFactor).2
      (fixupOffsets file bytesRead) relocationFactor := by
  unfold dosLoadOverlay fixupOffsets imageOrigin at *
  by_cases hmz : IsMzFile file bytesRead
  · simp only [if_pos hmz] at h ⊢
    have hplaced := placed_relocateWords memory file (segmentAddress loadSegment)
      (mzHeaderSize file) relocationFactor h
    rw [← foldl_applyOverlayRelocation] at hplaced
    exact hplaced
  · simp only [if_neg hmz] at h ⊢
    exact placed_relocateWords memory file _ 0 _ h

/-! ## Both loaders -/

/-- A load reads the file only and relocates once. -/
structure LoadsExactly (memory file : ByteMemory)
    (bytesRead pspSegment requestedSegment : Nat) : Prop where
  reads : ReadsOnlyFile
    (dosLoadImageAtLogged memory file bytesRead pspSegment requestedSegment) bytesRead
  placed : WordsApart (fixupOffsets file bytesRead)
      (dosLoadImageAt memory file bytesRead pspSegment requestedSegment).2.imageSize →
    Placed memory (dosLoadImageAtLogged memory file bytesRead pspSegment requestedSegment).value.1
      file (imageBase file bytesRead pspSegment requestedSegment) (imageOrigin file bytesRead)
      (dosLoadImageAt memory file bytesRead pspSegment requestedSegment).2.imageSize
      (fixupOffsets file bytesRead) (mzLoadSegment pspSegment requestedSegment)

/-- The same of an overlay. -/
structure OverlayLoadsExactly (memory file : ByteMemory)
    (bytesRead loadSegment relocationFactor : Nat) : Prop where
  reads : ReadsOnlyFile
    (dosLoadOverlayLogged memory file bytesRead loadSegment relocationFactor) bytesRead
  placed : WordsApart (fixupOffsets file bytesRead)
      (dosLoadOverlay memory file bytesRead loadSegment relocationFactor).2 →
    Placed memory (dosLoadOverlayLogged memory file bytesRead loadSegment relocationFactor).value.1
      file (segmentAddress loadSegment) (imageOrigin file bytesRead)
      (dosLoadOverlay memory file bytesRead loadSegment relocationFactor).2
      (fixupOffsets file bytesRead) relocationFactor

/-- The loaders read the file only, and relocate every word once, if and only if the relocation
table of the file ends inside it. -/
theorem loaders_exact_iff (memory file : ByteMemory)
    (bytesRead pspSegment requestedSegment loadSegment relocationFactor : Nat) :
    (LoadsExactly memory file bytesRead pspSegment requestedSegment ∧
        OverlayLoadsExactly memory file bytesRead loadSegment relocationFactor) ↔
      TableInside file bytesRead := by
  constructor
  · rintro ⟨hload, -⟩
    exact dosLoadImageAt_reads_iff.mp hload.reads
  · intro htable
    refine ⟨⟨dosLoadImageAt_reads_iff.mpr htable, fun hapart => ?_⟩,
      ⟨dosLoadOverlay_reads_iff.mpr htable, fun hapart => ?_⟩⟩
    · rw [value_dosLoadImageAtLogged]
      exact dosLoadImageAt_placed memory file hapart
    · rw [value_dosLoadOverlayLogged]
      exact dosLoadOverlay_placed memory file hapart

/-- An MZ header of 32 bytes whose one relocation entry would follow it. -/
def headerOnly : ByteMemory := fun index =>
  [0x4D, 0x5A, 0x20, 0, 1, 0, 1, 0, 2, 0, 0, 0, 0, 0, 0, 0, 0, 0, 0, 0, 0, 0, 0, 0, 0x20].getD
    index 0

theorem loader_reads_behind_file : ¬LoadsExactly (fun _ => 0) headerOnly 32 0x100 0 := by
  intro hload
  have htable := dosLoadImageAt_reads_iff.mp hload.reads (by decide) (by decide)
  revert htable
  decide

end Ntvdmex.Dos.Loader

/-!
## The memory EXEC reserves against the bytes the loader writes

The loader copies the file up to the end the header gives, and EXEC reserves the
header's page count in paragraphs.  The image fits the block exactly when one of
the two ends of the image, the file's and the header's, lies within the header
and the paragraphs reserved behind the PSP.
-/

namespace Ntvdmex.Dos.Loader

open Foundation List

/-- Every byte of the image lies in the block of `allocation` paragraphs. -/
def ImageInsideBlock (file : ByteMemory) (bytesRead pspSegment allocation : Nat)
    (loadHigh : Bool) : Prop :=
  ∀ index < mzImageSize file bytesRead,
    segmentAddress pspSegment ≤
      segmentAddress (mzLoadSegment pspSegment
        (execRequestedSegment file bytesRead pspSegment allocation loadHigh)) + index ∧
    segmentAddress (mzLoadSegment pspSegment
        (execRequestedSegment file bytesRead pspSegment allocation loadHigh)) + index <
      segmentAddress (pspSegment + allocation)

/-- If EXEC sizes the program, the image fits the paragraphs reserved for it, and in any
block of that size in the first megabyte it is written inside the block. -/
def ExecReservesEnough (file : ByteMemory) (bytesRead largest : Nat) : Prop :=
  ∀ allocation loadHigh, dosExecSize file bytesRead largest = .ok (allocation, loadHigh) →
    (if loadHigh then mzImageSize file bytesRead ≤ 16 * dosImageParagraphs file bytesRead
      else dosPspParagraphs + (mzImageSize file bytesRead + 15) / 16 ≤ allocation) ∧
    ∀ pspSegment, pspSegment + allocation ≤ 0x10000 →
      ImageInsideBlock file bytesRead pspSegment allocation loadHigh

/-! ## The condition -/

/-- The paragraphs of the block that the image can use: its page count when it is loaded
high, else all that is reserved behind the PSP. -/
def execRoom (file : ByteMemory) (bytesRead largest : Nat) : Nat :=
  if dosLoaderReadWord file dosMzMinAlloc = 0 ∧ dosLoaderReadWord file dosMzMaxAlloc = 0 then
    dosImageParagraphs file bytesRead
  else
    min (dosImageParagraphs file bytesRead
        + max (dosLoaderReadWord file dosMzMinAlloc) (dosLoaderReadWord file dosMzMaxAlloc))
      (largest - dosPspParagraphs)

def mzHeaderEnd (file : ByteMemory) : Nat :=
  (dosLoaderReadWord file dosMzPageCount - 1) * dosMzPageBytes
    + (if dosLoaderReadWord file dosMzLastPageBytes ≠ 0 then
        dosLoaderReadWord file dosMzLastPageBytes
      else dosMzPageBytes)

/-- EXEC refuses the program, or the file ends within the header and the room, or the
header gives a page count and an end within them. -/
def ImageEndsInRoom (file : ByteMemory) (bytesRead largest : Nat) : Prop :=
  largest < dosPspParagraphs + dosImageParagraphs file bytesRead
      + dosLoaderReadWord file dosMzMinAlloc ∨
  bytesRead ≤ 16 * (dosLoaderReadWord file dosMzHeaderParagraphs
      + execRoom file bytesRead largest) ∨
  (dosLoaderReadWord file dosMzPageCount ≠ 0 ∧
    mzHeaderEnd file ≤ 16 * (dosLoaderReadWord file dosMzHeaderParagraphs
      + execRoom file bytesRead largest))

section Reservation

variable {file : ByteMemory} {bytesRead largest : Nat}

theorem mzImageSize_le_iff (room : Nat) :
    mzImageSize file bytesRead ≤ 16 * room ↔
      bytesRead ≤ 16 * (dosLoaderReadWord file dosMzHeaderParagraphs + room) ∨
      (dosLoaderReadWord file dosMzPageCount ≠ 0 ∧
        mzHeaderEnd file ≤ 16 * (dosLoaderReadWord file dosMzHeaderParagraphs + room)) := by
  have hsize : mzImageSize file bytesRead = mzTotalUsed file bytesRead - mzHeaderSize file := by
    unfold mzImageSize
    split <;> lia
  have hheader : mzHeaderSize file = 16 * dosLoaderReadWord file dosMzHeaderParagraphs := by
    rw [mzHeaderSize, paragraphSize, Nat.mul_comm]
  have hused : mzTotalUsed file bytesRead =
      min bytesRead (if dosLoaderReadWord file dosMzPageCount ≠ 0 then mzHeaderEnd file
        else bytesRead) := by
    unfold mzTotalUsed mzHeaderEnd
    dsimp only
    generalize (if dosLoaderReadWord file dosMzPageCount ≠ 0 then _ else bytesRead) = used
    split <;> lia
  rw [hsize, hheader, hused]
  by_cases hcount : dosLoaderReadWord file dosMzPageCount ≠ 0
  · rw [if_pos hcount]
    lia
  · rw [if_neg hcount]
    lia

/-- EXEC refuses an MZ program, or gives it the largest block to load high, or reserves
the room behind the PSP. -/
theorem dosExecSize_cases (hmz : IsMzFile file bytesRead) (hlargest : largest < 65536) :
    (largest < dosPspParagraphs + dosImageParagraphs file bytesRead
        + dosLoaderReadWord file dosMzMinAlloc ∧
      dosExecSize file bytesRead largest = .error .insufficientMemory) ∨
    (dosPspParagraphs + dosImageParagraphs file bytesRead
        + dosLoaderReadWord file dosMzMinAlloc ≤ largest ∧
      ((dosExecSize file bytesRead largest = .ok (largest, true) ∧
        execRoom file bytesRead largest = dosImageParagraphs file bytesRead) ∨
      dosExecSize file bytesRead largest =
        .ok (dosPspParagraphs + execRoom file bytesRead largest, false))) := by
  unfold dosExecSize execRoom
  rw [if_pos hmz]
  dsimp only
  generalize dosImageParagraphs file bytesRead = paragraphs
  generalize dosLoaderReadWord file dosMzMinAlloc = minimumAlloc
  generalize dosLoaderReadWord file dosMzMaxAlloc = maximumAlloc
  by_cases hrefused : largest < dosPspParagraphs + paragraphs + minimumAlloc
  · rw [if_pos hrefused]
    exact .inl ⟨hrefused, rfl⟩
  · rw [if_neg hrefused]
    refine .inr ⟨by lia, ?_⟩
    by_cases hhigh : minimumAlloc = 0 ∧ maximumAlloc = 0
    · rw [if_pos hhigh, if_pos hhigh]
      exact .inl ⟨rfl, rfl⟩
    · rw [if_neg hhigh, if_neg hhigh]
      refine .inr ?_
      congr 2
      have hwanted : ∀ wanted, word (if wanted < largest then wanted else largest) =
          min wanted largest := by
        intro wanted
        rw [word_of_lt (by split <;> lia)]
        split <;> lia
      rw [hwanted]
      split <;> lia

theorem segmentAddress_eq (segment : Nat) : segmentAddress segment = 16 * segment := by
  rw [segmentAddress, Nat.shiftLeft_eq, Nat.mul_comm]

/-- An image no larger than its paragraphs is written inside the block when it is loaded
high. -/
theorem imageInsideBlock_high {pspSegment : Nat}
    (hroom : dosPspParagraphs + dosImageParagraphs file bytesRead ≤ largest)
    (hblock : pspSegment + largest ≤ 0x10000)
    (hfits : mzImageSize file bytesRead ≤ 16 * dosImageParagraphs file bytesRead) :
    ImageInsideBlock file bytesRead pspSegment largest true := by
  intro index hindex
  have hpsp : dosPspParagraphs = 16 := rfl
  have hrequested : execRequestedSegment file bytesRead pspSegment largest true =
      pspSegment + largest - dosImageParagraphs file bytesRead := by
    unfold execRequestedSegment word
    rw [if_pos rfl]
    lia
  rw [hrequested, mzLoadSegment, if_pos (by lia), segmentAddress_eq, segmentAddress_eq,
    segmentAddress_eq]
  lia

theorem imageInsideBlock_low {pspSegment room : Nat}
    (hblock : pspSegment + (dosPspParagraphs + room) ≤ 0x10000)
    (hfits : mzImageSize file bytesRead ≤ 16 * room) :
    ImageInsideBlock file bytesRead pspSegment (dosPspParagraphs + room) false := by
  intro index hindex
  have hrequested : execRequestedSegment file bytesRead pspSegment (dosPspParagraphs + room)
      false = 0 := rfl
  rw [hrequested, mzLoadSegment, if_neg (by lia), word_of_lt (by lia), segmentAddress_eq,
    segmentAddress_eq, segmentAddress_eq]
  lia

/-- A header with at least one page, at most a page in its last page, and a page count
that fits a word of paragraphs reserves enough. -/
theorem imageEndsInRoom_of_regular (hmz : IsMzFile file bytesRead)
    (hcount : dosLoaderReadWord file dosMzPageCount ≠ 0)
    (hlast : dosLoaderReadWord file dosMzLastPageBytes ≤ dosMzPageBytes)
    (hword : dosLoaderReadWord file dosMzPageCount * dosMzPageParagraphs <
      dosLoaderReadWord file dosMzHeaderParagraphs + 65536) :
    ImageEndsInRoom file bytesRead largest := by
  have hpage : dosMzPageBytes = 512 := rfl
  have hparagraphs : dosMzPageParagraphs = 32 := rfl
  rw [hpage] at hlast
  rw [hparagraphs] at hword
  have himage : dosLoaderReadWord file dosMzPageCount * 32 ≤
      dosLoaderReadWord file dosMzHeaderParagraphs + dosImageParagraphs file bytesRead := by
    unfold dosImageParagraphs
    rw [if_pos hmz]
    rw [hparagraphs, word_of_lt (by split <;> lia)]
    split <;> lia
  have hend : mzHeaderEnd file ≤ dosLoaderReadWord file dosMzPageCount * 512 := by
    rw [mzHeaderEnd, hpage]
    split <;> lia
  by_cases hrefused : largest < dosPspParagraphs + dosImageParagraphs file bytesRead
      + dosLoaderReadWord file dosMzMinAlloc
  · exact .inl hrefused
  · have hroom : dosImageParagraphs file bytesRead ≤ execRoom file bytesRead largest := by
      unfold execRoom
      split <;> lia
    exact .inr (.inr ⟨hcount, by lia⟩)

/-- The image fits the block EXEC reserves if and only if EXEC refuses the program or one
end of the image lies within the header and the room. -/
theorem exec_reserves_enough_iff (hmz : IsMzFile file bytesRead) (hlargest : largest < 65536) :
    ExecReservesEnough file bytesRead largest ↔ ImageEndsInRoom file bytesRead largest := by
  unfold ExecReservesEnough ImageEndsInRoom
  rw [← mzImageSize_le_iff]
  obtain ⟨hrefused, hexec⟩ | ⟨henough, ⟨hexec, hroom⟩ | hexec⟩ :=
    dosExecSize_cases hmz hlargest
  · refine iff_of_true (fun allocation loadHigh hok => ?_) (.inl hrefused)
    rw [hexec] at hok
    cases hok
  · rw [hexec, hroom]
    constructor
    · intro hfits
      exact .inr (hfits largest true rfl).1
    · rintro (hrefused | hfits) allocation loadHigh hok
      · lia
      · cases hok
        refine ⟨hfits, fun pspSegment hblock => ?_⟩
        exact imageInsideBlock_high (by lia) hblock hfits
  · rw [hexec]
    constructor
    · intro hfits
      have hlow := (hfits _ false rfl).1
      rw [if_neg Bool.false_ne_true] at hlow
      exact .inr (by lia)
    · rintro (hrefused | hfits) allocation loadHigh hok
      · lia
      · cases hok
        refine ⟨?_, fun pspSegment hblock => imageInsideBlock_low hblock hfits⟩
        rw [if_neg Bool.false_ne_true]
        lia

end Reservation

def fileOf (bytes : List UInt8) : ByteMemory := fun index => bytes.getD index 0

def onePageHeader : ByteMemory :=
  fileOf [0x4D, 0x5A, 0x50, 1, 1, 0, 0, 0, 2, 0, 0, 1, 0, 2]

/-- A page count of 0 and a maximum of one paragraph. -/
def noPagesHeader : ByteMemory :=
  fileOf [0x4D, 0x5A, 0, 0, 0, 0, 0, 0, 0, 0, 0, 0, 1, 0]

theorem exec_reserves_enough_one_page : ExecReservesEnough onePageHeader 0x150 0x8000 := by
  have hmz : IsMzFile onePageHeader 0x150 := by decide
  refine (exec_reserves_enough_iff hmz (by decide)).2 ?_
  exact imageEndsInRoom_of_regular hmz (by decide) (by decide) (by decide)

theorem exec_not_always_reserves_enough : ¬ ExecReservesEnough noPagesHeader 28 0x1000 := by
  intro hfits
  have hreserved := (hfits 17 false (by decide)).1
  revert hreserved
  decide

end Ntvdmex.Dos.Loader
