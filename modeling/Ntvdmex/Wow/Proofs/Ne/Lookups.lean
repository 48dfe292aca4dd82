import Ntvdmex.Wow.Ne

/-!
# The lookups of a module read inside its image

Every offset of the file is checked before the bytes at it are read, and the checks are made
in 32-bit arithmetic.  For an image shorter than `2 ^ 31` the sums that pass a check do not
wrap, so what was checked is what is read.
-/

namespace Ntvdmex.Wow.Ne

open Foundation SizedBytes Option List

variable {image : SizedBytes} {offset length limit : Nat} {module : NeModule}

theorem neInBounds_iff : neInBounds image offset length = true ↔ offset + length ≤ image.size := by
  unfold neInBounds
  rw [decide_eq_true_iff]
  lia

theorem neInBounds_false (h : ¬neInBounds image offset length = false)
    : offset + length ≤ image.size := by
  rw [Bool.not_eq_false] at h
  exact neInBounds_iff.mp h

theorem dword_of_lt {value : Nat} (h : value < 4294967296) : dword value = value :=
  Nat.mod_eq_of_lt h

variable {image : SizedBytes}

/-! ## Entries -/

theorem entryStep_moveable : entryStep neEntMoveable = neEntryMoveableSize := rfl

theorem entryStep_other {indicator : UInt8} (hmoveable : indicator ≠ neEntMoveable)
    (hstep : entryStep indicator ≠ 0) : entryStep indicator = neEntryFixedSize := by
  unfold entryStep at hstep ⊢
  rw [if_neg hmoveable] at hstep ⊢
  by_cases hzero : indicator = 0
  · rw [if_pos hzero] at hstep
    exact absurd rfl hstep
  · rw [if_neg hzero]

theorem entryStep_le (indicator : UInt8) : entryStep indicator ≤ neEntryMoveableSize := by
  unfold entryStep
  split
  · exact Nat.le_refl _
  · split
    · exact Nat.zero_le _
    · decide

theorem neReadEntry_isSome {indicator : UInt8} {entry : Nat} (hstep : entryStep indicator ≠ 0)
    (hentry : entry + entryStep indicator ≤ image.size) :
    (neReadEntry image indicator entry).isSome := by
  by_cases hmoveable : indicator = neEntMoveable
  · rw [hmoveable, entryStep_moveable] at hentry
    have hsix : neEntryMoveableSize = 6 := rfl
    refine bind_isSome (read_isSome_iff.mpr (by lia)) fun flags _ => ?_
    rw [if_pos hmoveable]
    refine bind_isSome (read_isSome_iff.mpr (by lia)) fun segmentNumber _ => ?_
    exact bind_isSome (readWord_isSome (by lia)) fun offset _ => rfl
  · rw [entryStep_other hmoveable hstep] at hentry
    have hthree : neEntryFixedSize = 3 := rfl
    refine bind_isSome (read_isSome_iff.mpr (by lia)) fun flags _ => ?_
    rw [if_neg hmoveable]
    exact bind_isSome (readWord_isSome (by lia)) fun offset _ => rfl

/-- A walk of the bundles stays inside the image: the position past a bundle may lie past the
limit, by at most the 255 entries of the bundle, and is compared before it is read. -/
theorem neEntryBundles_isSome {ordinal : Nat} (himage : image.size < 2147483648)
    (hlimit : limit ≤ image.size) :
    ∀ rounds position current, position ≤ limit + 1532 →
      (neEntryBundles image ordinal limit rounds position current).isSome := by
  intro rounds
  induction rounds with
  | zero =>
    intro position current _
    rfl
  | succ rounds ih =>
    intro position current hposition
    have htwo : neBundleHeaderSize = 2 := rfl
    have hsum : dword (position + neBundleHeaderSize) = position + 2 :=
      dword_of_lt (by lia)
    have hnext : dword (position + 1) = position + 1 := dword_of_lt (by lia)
    unfold neEntryBundles
    by_cases hpast : limit < dword (position + neBundleHeaderSize)
    · rw [if_pos hpast]
      rfl
    rw [if_neg hpast]
    rw [hsum] at hpast
    refine bind_isSome (read_isSome_iff.mpr (by lia)) fun count _ => ?_
    rw [hnext]
    refine bind_isSome (read_isSome_iff.mpr (by lia)) fun indicator _ => ?_
    dsimp only
    rw [hsum]
    by_cases hcount : count = 0
    · rw [if_pos hcount]
      rfl
    rw [if_neg hcount]
    by_cases hstep : entryStep indicator = 0
    · rw [if_pos hstep]
      exact ih _ _ (by lia)
    rw [if_neg hstep]
    split
    · split
      · rfl
      · rename_i hentry
        exact bind_isSome (neReadEntry_isSome hstep (neInBounds_false hentry)) fun found _ => rfl
    · apply ih
      have hcount : count.toNat < 256 := count.toNat_lt
      have hproduct : count.toNat * entryStep indicator ≤ 255 * 6 :=
        Nat.mul_le_mul (by lia) (entryStep_le indicator)
      rw [dword_of_lt (by lia)]
      lia

theorem neEntryLookup_isSome (himage : module.image.size < 2147483648) (ordinal : Nat)
    : (neEntryLookup module ordinal).isSome := by
  unfold neEntryLookup
  dsimp only
  split
  · rfl
  · rename_i hchecked
    rw [not_or] at hchecked
    have hinside := neInBounds_false hchecked.2
    apply neEntryBundles_isSome himage
    · rw [dword_of_lt (by omega)]
      exact hinside
    · rw [dword_of_lt (show dword (module.header + module.entryTable) + module.entryLength
        < 4294967296 by omega)]
      omega

theorem neExportByOrdinal_isSome (himage : module.image.size < 2147483648) (ordinal : Nat)
    : (neExportByOrdinal module ordinal).isSome :=
  bind_isSome (neEntryLookup_isSome himage ordinal) fun _ _ => rfl

/-! ## Names -/

/-- A name function leaves a buffer of the capacity it was given, with a NUL inside it when
the capacity is not 0. -/
def IsTerminated (capacity : Nat) (output : SizedBytes) : Prop :=
  output.size = capacity ∧ (0 < capacity → ∃ index < capacity, output.data index = 0)

def WritesName (f : SizedBytes → Option (Bool × SizedBytes)) : Prop :=
  ∀ output, ∃ found after, f output = some (found, after) ∧ IsTerminated output.size after

theorem neCopyName_size (himage : image.size < 2147483648) (hname : offset + length ≤ image.size)
    (output : SizedBytes) (houtput : length ≤ output.size) :
    ∃ copied, neCopyName image offset length output = some copied ∧
      copied.size = output.size := by
  induction length with
  | zero => exact ⟨output, rfl, rfl⟩
  | succ length ih =>
    obtain ⟨copied, hcopied, hsize⟩ := ih (by lia) (by lia)
    unfold neCopyName at hcopied ⊢
    rw [range_succ, foldlM_append, hcopied]
    have hwrap : dword (offset + length) = offset + length := dword_of_lt (by lia)
    refine ⟨{ copied with data := copied.data.store length (image.data (offset + length)) }, ?_,
      hsize⟩
    simp only [foldlM_cons, foldlM_nil, bind_eq_bind, bind_some, hwrap]
    rw [read_eq (by lia), bind_some, write_eq (by lia)]
    rfl

theorem isTerminated_cleared {output : SizedBytes} :
    IsTerminated output.size { output with data := output.data.store 0 0 } :=
  ⟨rfl, fun hcapacity => ⟨0, hcapacity, ByteMemory.store_same output.data 0 0⟩⟩

theorem neClearName_eq (output : SizedBytes) :
    ∃ cleared, neClearName output = some cleared ∧ IsTerminated output.size cleared := by
  unfold neClearName
  by_cases hempty : output.size = 0
  · rw [if_pos hempty]
    exact ⟨output, rfl, rfl, fun hcapacity => by omega⟩
  · rw [if_neg hempty, write_eq (Nat.pos_of_ne_zero hempty)]
    exact ⟨_, rfl, isTerminated_cleared⟩

theorem neNameAt_writesName (himage : image.size < 2147483648) (offset : Nat) :
    WritesName (neNameAt image offset) := by
  intro output
  unfold neNameAt
  by_cases hempty : output.size = 0
  · rw [if_pos hempty]
    exact ⟨false, output, rfl, rfl, fun hcapacity => by lia⟩
  rw [if_neg hempty, write_eq (Nat.pos_of_ne_zero hempty)]
  simp only [bind_eq_bind, bind_some]
  split
  · exact ⟨false, _, rfl, isTerminated_cleared⟩
  · rename_i hoffset
    have hfirst := neInBounds_false hoffset
    rw [read_eq (by lia), bind_some]
    split
    · exact ⟨false, _, rfl, isTerminated_cleared⟩
    · rename_i hrest
      rw [not_or, Nat.not_le] at hrest
      obtain ⟨copied, hcopied, hsize⟩ := neCopyName_size himage (neInBounds_false hrest.1)
        { output with data := output.data.store 0 0 } (Nat.le_of_lt hrest.2)
      have hinside : (image.data offset).toNat < copied.size := by
        rw [hsize]
        exact hrest.2
      rw [hcopied, bind_some, write_eq hinside]
      refine ⟨true, _, rfl, hsize, fun _ => ⟨_, hrest.2, ByteMemory.store_same _ _ _⟩⟩

theorem WritesName.isSome {f : SizedBytes → Option (Bool × SizedBytes)} (h : WritesName f)
    (output : SizedBytes) : (f output).isSome := by
  obtain ⟨found, after, hf, -⟩ := h output
  rw [hf]
  rfl

section

variable {module : NeModule} (himage : module.image.size < 2147483648)

include himage

theorem neOwnName_writesName :
    WritesName (neOwnName module) :=
  neNameAt_writesName himage _

theorem neImportedName_writesName
    (nameOffset : Nat) : WritesName (neImportedName module nameOffset) :=
  neNameAt_writesName himage _

theorem neRefName_writesName (reference : Nat) : WritesName (neRefName module reference) := by
  intro output
  obtain ⟨cleared, hcleared, hterminated⟩ := neClearName_eq output
  unfold neRefName
  rw [hcleared]
  simp only [bind_eq_bind, bind_some]
  split
  · exact ⟨false, cleared, rfl, hterminated⟩
  · split
    · exact ⟨false, cleared, rfl, hterminated⟩
    · rename_i hentry
      have hinside := neInBounds_false hentry
      rw [readWord_eq (by omega), bind_some, ← hterminated.1]
      exact neNameAt_writesName himage _ cleared

end

theorem neNameRecords_isSome (himage : image.size < 2147483648) (hlimit : limit ≤ image.size)
    (wanted : List UInt8) :
    ∀ rounds position isFirst, position ≤ image.size →
      (neNameRecords image limit wanted rounds position isFirst).isSome := by
  intro rounds
  induction rounds with
  | zero =>
    intro position isFirst _
    rfl
  | succ rounds ih =>
    intro position isFirst hposition
    have hthree : neNameMinRecord = 3 := rfl
    have htwo : neOrdinalBytes = 2 := rfl
    have hsum : dword (position + neNameMinRecord) = position + 3 := dword_of_lt (by lia)
    have hnext : dword (position + 1) = position + 1 := dword_of_lt (by lia)
    unfold neNameRecords
    by_cases hpast : limit < dword (position + neNameMinRecord)
    · rw [if_pos hpast]
      rfl
    rw [if_neg hpast]
    rw [hsum] at hpast
    refine bind_isSome (read_isSome_iff.mpr (by lia)) fun length _ => ?_
    by_cases hlength : length = 0
    · rw [if_pos hlength]
      rfl
    rw [if_neg hlength]
    split
    · rfl
    · rename_i hrecord
      have hinside := neInBounds_false hrecord
      rw [hnext] at hinside
      refine bind_isSome ((neNameAt_writesName himage position).isSome nameBuffer) fun found _ => ?_
      obtain ⟨isName, name⟩ := found
      have hordinal : dword (position + 1 + length.toNat) = position + 1 + length.toNat :=
        dword_of_lt (by lia)
      have hafter : dword (position + (1 + length.toNat + neOrdinalBytes)) =
          position + (1 + length.toNat + neOrdinalBytes) := dword_of_lt (by lia)
      dsimp only
      split
      · rw [hordinal]
        exact bind_isSome (readWord_isSome (by lia)) fun ordinal _ => rfl
      · rw [hafter]
        exact ih _ _ (by lia)

theorem neNamesFind_isSome (himage : image.size < 2147483648) (offset length : Nat)
    (wanted : List UInt8) : (neNamesFind image offset length wanted).isSome := by
  unfold neNamesFind
  split
  · rfl
  · rename_i hchecked
    rw [not_or] at hchecked
    have hinside := neInBounds_false hchecked.2
    apply neNameRecords_isSome himage
    · rw [dword_of_lt (by omega)]
      exact hinside
    · omega

theorem neExportByName_isSome (himage : module.image.size < 2147483648) (name : List UInt8)
    : (neExportByName module name).isSome := by
  have hresident : (neResidentFind module name).isSome := by
    unfold neResidentFind
    dsimp only
    split
    · exact neNamesFind_isSome himage _ _ _
    · rfl
  refine bind_isSome hresident fun resident _ => ?_
  cases resident with
  | some ordinal => rfl
  | none => exact neNamesFind_isSome himage _ _ _

end Ntvdmex.Wow.Ne
