import Ntvdmex.Dos.ExtMem

/-!
# One region for a range

Every byte has one home: direct memory comes first, then the blocks in use, then the raw
buffer.  A range that a block holds only in part is taken for raw memory.
-/

namespace Ntvdmex.Dos.ExtMem

open Dos.Xms UInt32

/-! ## The home of a byte -/

section Homes

variable (xmsState : Option DosXmsState) (conventionalBase rawBuffer : Nat)

def blockBytesOf (slot : Fin dosXmsMaxHandles) : Set Nat :=
  {byte | ∃ xms ∈ xmsState, ((xms.handles slot).inUse = true ∧ (xms.handles slot).memory ≠ 0 ∧
    (xms.handles slot).sizeKb ≠ 0) ∧ (xms.handles slot).memory ≤ byte ∧
      byte < (xms.handles slot).memory + blockBytes (xms.handles slot).sizeKb}

/-- The blocks in use lie apart, above direct memory and below 4 GB. -/
structure BlocksApart : Prop where
  above : ∀ slot, ∀ byte ∈ blockBytesOf xmsState slot, dosExtMemDirectEnd.toNat ≤ byte
  bounded : ∀ slot, ∀ byte ∈ blockBytesOf xmsState slot, byte + 1 < 2 ^ 32
  disjoint : ∀ slot other, slot ≠ other →
    Disjoint (blockBytesOf xmsState slot) (blockBytesOf xmsState other)

inductive Home
  | direct
  | emb (slot : Fin dosXmsMaxHandles)
  | raw

def Home.region : Home → DosExtMemRegion
  | direct => .direct
  | emb _ => .emb
  | raw => .raw

/-- The linear bytes at home, by the precedence of the regions. -/
def Home.bytes : Home → Set Nat
  | direct => {byte | byte < dosExtMemDirectEnd.toNat}
  | emb slot => {byte | dosExtMemDirectEnd.toNat ≤ byte ∧ byte ∈ blockBytesOf xmsState slot}
  | raw => {byte | dosExtMemDirectEnd.toNat ≤ byte ∧ byte < dosExtMemRawEnd.toNat ∧
      ∀ slot, byte ∉ blockBytesOf xmsState slot}

/-- The host bytes of a home: the guest's memory, the block, or the raw buffer. -/
def Home.hostBytes : Home → Set Nat
  | direct => Set.Ico conventionalBase (conventionalBase + dosExtMemDirectEnd.toNat)
  | emb slot => blockBytesOf xmsState slot
  | raw => Set.Ico rawBuffer (rawBuffer + dosExtMemRawLength.toNat)

open Classical in
/-- The host byte of a linear byte, whichever range it is part of. -/
noncomputable def hostByte (byte : Nat) : Nat :=
  if byte < dosExtMemDirectEnd.toNat then conventionalBase + byte
  else if ∃ slot, byte ∈ blockBytesOf xmsState slot then byte
  else rawBuffer + (byte - dosExtMemRawBase.toNat)

variable (linearAddress length : UInt32)

def rangeBytes : Set Nat := Set.Ico linearAddress.toNat (linearAddress.toNat + length.toNat)

/-- The range lies in one home, of the region that is answered, and resolves to the host bytes
of its bytes, inside that home.  A raw range resolves to `NULL` while there is no buffer. -/
def ResolvesToOneHome : Prop :=
  ∃ home : Home, home.region = dosExtMemClassify xmsState linearAddress length ∧
    ∀ byte ∈ rangeBytes linearAddress length, byte ∈ home.bytes xmsState ∧
      ((home.region = .raw → rawBuffer ≠ 0) →
        dosExtMemResolve xmsState conventionalBase rawBuffer linearAddress length +
            (byte - linearAddress.toNat) = hostByte xmsState conventionalBase rawBuffer byte ∧
          hostByte xmsState conventionalBase rawBuffer byte ∈
            home.hostBytes xmsState conventionalBase rawBuffer)

/-- A block in use holds some of the range, and not all of it. -/
def StraddlesBlock : Prop :=
  ∃ slot, (∃ byte ∈ rangeBytes linearAddress length, byte ∈ blockBytesOf xmsState slot) ∧
    ¬rangeBytes linearAddress length ⊆ blockBytesOf xmsState slot

end Homes

/-! ## What is classified -/

variable {xmsState : Option DosXmsState} {linearAddress length : UInt32}

theorem rangeEnd_toNat (h : dosExtMemClassify xmsState linearAddress length ≠ .none) :
    0 < length.toNat ∧
      (linearAddress + length).toNat = linearAddress.toNat + length.toNat := by
  have hrange : ¬(length = 0 ∨ linearAddress + length < linearAddress) := fun hnone =>
    h (if_pos hnone)
  rw [← UInt32.toNat_inj, lt_iff_toNat_lt, UInt32.toNat_add] at hrange
  rw [UInt32.toNat_add]
  have hlinear := linearAddress.toNat_lt
  have hlength := length.toNat_lt
  have hzero : UInt32.toNat 0 = 0 := rfl
  omega

/-- Some block in use passes the check of its handle. -/
def IsHeld (xmsState : Option DosXmsState) (linearAddress rangeEnd : UInt32) : Prop :=
  ∃ xms ∈ xmsState, ∃ slot, blockHolds (xms.handles slot) linearAddress rangeEnd = true

theorem classify_cases (h : dosExtMemClassify xmsState linearAddress length ≠ .none) :
    (dosExtMemClassify xmsState linearAddress length = .direct ∧
        linearAddress.toNat + length.toNat ≤ dosExtMemDirectEnd.toNat) ∨
      (dosExtMemClassify xmsState linearAddress length = .emb ∧
        dosExtMemDirectEnd.toNat < linearAddress.toNat + length.toNat ∧
          IsHeld xmsState linearAddress (linearAddress + length)) ∨
      (dosExtMemClassify xmsState linearAddress length = .raw ∧
        dosExtMemDirectEnd.toNat ≤ linearAddress.toNat ∧
          linearAddress.toNat + length.toNat ≤ dosExtMemRawEnd.toNat ∧
            ¬IsHeld xmsState linearAddress (linearAddress + length)) := by
  have hrange : ¬(length = 0 ∨ linearAddress + length < linearAddress) := fun hnone =>
    h (if_pos hnone)
  have hend := (rangeEnd_toNat h).2
  have hheld : (xmsState.any fun xms => (List.finRange dosXmsMaxHandles).any fun handleIndex =>
      blockHolds (xms.handles handleIndex) linearAddress (linearAddress + length)) = true ↔
      IsHeld xmsState linearAddress (linearAddress + length) := by
    cases xmsState with
    | none => simp [IsHeld]
    | some xms => simp [IsHeld]
  revert h
  unfold dosExtMemClassify
  rw [if_neg hrange]
  simp only [le_iff_toNat_le, ge_iff_le, hend]
  split_ifs with hdirect hheld' hraw
  · exact fun _ => Or.inl ⟨rfl, hdirect⟩
  · exact fun _ => Or.inr (Or.inl ⟨rfl, not_le.mp hdirect, hheld.mp hheld'⟩)
  · exact fun _ => Or.inr (Or.inr ⟨rfl, hraw.1, hraw.2, hheld' ∘ hheld.mpr⟩)
  · exact fun hnone => absurd rfl hnone

variable {slot : Fin dosXmsMaxHandles}

theorem blockEnd_toNat (hblocks : BlocksApart xmsState) {xms : DosXmsState}
    (hxms : xms ∈ xmsState) {entry : DosXmsHandle} (hentry : xms.handles slot = entry)
    (hused : entry.inUse = true ∧ entry.memory ≠ 0 ∧ entry.sizeKb ≠ 0) :
    (ofNat entry.memory).toNat = entry.memory ∧
      (ofNat entry.memory + entry.sizeKb * dosXmsBytesPerKb).toNat =
        entry.memory + blockBytes entry.sizeKb ∧ 0 < blockBytes entry.sizeKb := by
  have hsize : 0 < entry.sizeKb.toNat :=
    Nat.pos_of_ne_zero fun h => hused.2.2 (UInt32.toNat_inj.mp h)
  have hpos : 0 < blockBytes entry.sizeKb := Nat.mul_pos hsize (by decide)
  have hlast := hblocks.bounded slot (entry.memory + blockBytes entry.sizeKb - 1)
    ⟨xms, hxms, hentry ▸ hused, by rw [hentry]; omega, by rw [hentry]; omega⟩
  have hmemory : (ofNat entry.memory).toNat = entry.memory :=
    toNat_ofNat_of_lt' (show entry.memory < 2 ^ 32 by omega)
  have hkilobytes : dosXmsBytesPerKb.toNat = 1024 := rfl
  refine ⟨hmemory, ?_, hpos⟩
  unfold blockBytes at hlast ⊢
  rw [UInt32.toNat_add, UInt32.toNat_mul, hmemory, hkilobytes]
  omega

theorem blockHolds_iff (hblocks : BlocksApart xmsState) {xms : DosXmsState}
    (hxms : xms ∈ xmsState) (slot : Fin dosXmsMaxHandles)
    (h : dosExtMemClassify xmsState linearAddress length ≠ .none) :
    blockHolds (xms.handles slot) linearAddress (linearAddress + length) = true ↔
      rangeBytes linearAddress length ⊆ blockBytesOf xmsState slot := by
  obtain ⟨hpos, hend⟩ := rangeEnd_toNat h
  simp only [blockHolds, decide_eq_true_eq, ge_iff_le, gt_iff_lt, le_iff_toNat_le,
    lt_iff_toNat_lt, hend]
  constructor
  · rintro ⟨hinUse, hmemory, hsize, hbase, hlast, -⟩ byte ⟨hfrom, hto⟩
    have hused := And.intro hinUse (And.intro hmemory hsize)
    obtain ⟨hbaseNat, hendNat, -⟩ := blockEnd_toNat hblocks hxms rfl hused
    rw [hbaseNat] at hbase
    rw [hendNat] at hlast
    exact ⟨xms, hxms, hused, hbase.trans hfrom, hto.trans_le hlast⟩
  · intro hsubset
    obtain ⟨xms', hxms', hused, hbase, -⟩ := hsubset (Set.left_mem_Ico.mpr (by omega))
    obtain ⟨xms'', hxms'', -, -, hlast⟩ := hsubset
      (show linearAddress.toNat + length.toNat - 1 ∈ _ from ⟨by omega, by omega⟩)
    rw [Option.mem_unique hxms' hxms] at hused hbase
    rw [Option.mem_unique hxms'' hxms] at hlast
    obtain ⟨hbaseNat, hendNat, hbytes⟩ := blockEnd_toNat hblocks hxms rfl hused
    rw [hbaseNat, hendNat]
    exact ⟨hused.1, hused.2.1, hused.2.2, hbase, by omega, by omega⟩

theorem isHeld_iff (hblocks : BlocksApart xmsState)
    (h : dosExtMemClassify xmsState linearAddress length ≠ .none) :
    IsHeld xmsState linearAddress (linearAddress + length) ↔
      ∃ slot, rangeBytes linearAddress length ⊆ blockBytesOf xmsState slot := by
  constructor
  · rintro ⟨xms, hxms, slot, hholds⟩
    exact ⟨slot, (blockHolds_iff hblocks hxms slot h).mp hholds⟩
  · rintro ⟨slot, hsubset⟩
    obtain ⟨xms, hxms, -⟩ := hsubset (Set.left_mem_Ico.mpr (by have := rangeEnd_toNat h; omega))
    exact ⟨xms, hxms, slot, (blockHolds_iff hblocks hxms slot h).mpr hsubset⟩

/-! ## One home -/

variable {conventionalBase rawBuffer : Nat}

theorem hostByte_of_emb {byte : Nat} (hblocks : BlocksApart xmsState)
    (hbyte : byte ∈ blockBytesOf xmsState slot) :
    hostByte xmsState conventionalBase rawBuffer byte = byte := by
  unfold hostByte
  rw [if_neg (not_lt.mpr (hblocks.above slot byte hbyte)), if_pos ⟨slot, hbyte⟩]

theorem resolvesToOneHome_of_direct
    (h : dosExtMemClassify xmsState linearAddress length = .direct)
    (hend : linearAddress.toNat + length.toNat ≤ dosExtMemDirectEnd.toNat) :
    ResolvesToOneHome xmsState conventionalBase rawBuffer linearAddress length := by
  refine ⟨.direct, h.symm, fun byte ⟨hfrom, hto⟩ => ⟨hto.trans_le hend, fun _ => ?_⟩⟩
  have hhost : hostByte xmsState conventionalBase rawBuffer byte = conventionalBase + byte :=
    if_pos (hto.trans_le hend)
  rw [hhost]
  unfold dosExtMemResolve
  rw [h]
  refine ⟨?_, Nat.le_add_right _ _, by omega⟩
  dsimp only
  omega

theorem resolvesToOneHome_of_emb (hblocks : BlocksApart xmsState)
    (h : dosExtMemClassify xmsState linearAddress length = .emb)
    (hsubset : rangeBytes linearAddress length ⊆ blockBytesOf xmsState slot) :
    ResolvesToOneHome xmsState conventionalBase rawBuffer linearAddress length := by
  refine ⟨.emb slot, h.symm, fun byte hbyte => ?_⟩
  have hblock := hsubset hbyte
  refine ⟨⟨hblocks.above slot byte hblock, hblock⟩, fun _ => ?_⟩
  rw [hostByte_of_emb hblocks hblock]
  unfold dosExtMemResolve
  rw [h]
  exact ⟨Nat.add_sub_cancel' hbyte.1, hblock⟩

theorem resolvesToOneHome_of_raw
    (h : dosExtMemClassify xmsState linearAddress length = .raw)
    (hfrom : dosExtMemDirectEnd.toNat ≤ linearAddress.toNat)
    (hend : linearAddress.toNat + length.toNat ≤ dosExtMemRawEnd.toNat)
    (hoff : ∀ slot, ∀ byte ∈ rangeBytes linearAddress length, byte ∉ blockBytesOf xmsState slot) :
    ResolvesToOneHome xmsState conventionalBase rawBuffer linearAddress length := by
  refine ⟨.raw, h.symm, fun byte hbyte => ?_⟩
  have hdirect : dosExtMemDirectEnd.toNat ≤ byte := hfrom.trans hbyte.1
  refine ⟨⟨hdirect, hbyte.2.trans_le hend, fun slot => hoff slot byte hbyte⟩, fun hbuffer => ?_⟩
  have hhost : hostByte xmsState conventionalBase rawBuffer byte =
      rawBuffer + (byte - dosExtMemRawBase.toNat) := by
    unfold hostByte
    rw [if_neg (not_lt.mpr hdirect), if_neg fun ⟨slot, hblock⟩ => hoff slot byte hbyte hblock]
  have hbase : dosExtMemRawBase.toNat ≤ linearAddress.toNat := le_trans (by decide) hfrom
  have hoffset : (linearAddress - dosExtMemRawBase).toNat =
      linearAddress.toNat - dosExtMemRawBase.toNat :=
    UInt32.toNat_sub_of_le _ _ (le_iff_toNat_le.mpr hbase)
  have hlength : dosExtMemRawLength.toNat = dosExtMemRawEnd.toNat - dosExtMemRawBase.toNat := rfl
  have hto := hbyte.2
  rw [hhost]
  unfold dosExtMemResolve
  rw [h]
  dsimp only
  rw [if_pos (hbuffer rfl), hoffset]
  refine ⟨?_, ?_, ?_⟩ <;> have := hbyte.1 <;> omega

/-- A range that is accepted resolves to one home, unless a block in use holds only part of
it. -/
theorem resolvesToOneHome_iff (hblocks : BlocksApart xmsState)
    (h : dosExtMemClassify xmsState linearAddress length ≠ .none) :
    ResolvesToOneHome xmsState conventionalBase rawBuffer linearAddress length ↔
      ¬StraddlesBlock xmsState linearAddress length := by
  rcases classify_cases h with ⟨hregion, hend⟩ | ⟨hregion, hend, hheld⟩ |
    ⟨hregion, hfrom, hend, hheld⟩
  · refine iff_of_true (resolvesToOneHome_of_direct hregion hend) ?_
    rintro ⟨slot, ⟨byte, hbyte, hblock⟩, -⟩
    exact absurd (hblocks.above slot byte hblock) (not_le.mpr (hbyte.2.trans_le hend))
  · obtain ⟨slot, hsubset⟩ := (isHeld_iff hblocks h).mp hheld
    refine iff_of_true (resolvesToOneHome_of_emb hblocks hregion hsubset) ?_
    rintro ⟨other, ⟨byte, hbyte, hblock⟩, hpart⟩
    by_cases hslot : slot = other
    · exact hpart (hslot ▸ hsubset)
    · exact Set.disjoint_left.mp (hblocks.disjoint slot other hslot) (hsubset hbyte) hblock
  · constructor
    · rintro ⟨home, hhome, hbytes⟩ ⟨slot, ⟨byte, hbyte, hblock⟩, -⟩
      rw [hregion] at hhome
      cases home with
      | raw => exact (hbytes byte hbyte).1.2.2 slot hblock
      | direct => cases hhome
      | emb slot => cases hhome
    · intro hwhole
      refine resolvesToOneHome_of_raw hregion hfrom hend fun slot byte hbyte hblock => ?_
      refine hwhole ⟨slot, ⟨byte, hbyte, hblock⟩, fun hsubset => ?_⟩
      exact hheld ((isHeld_iff hblocks h).mpr ⟨slot, hsubset⟩)

/-! ## A block below 16 MB -/

def oneBlock : DosXmsState :=
  { dosXmsInitialize 64 true true with
    handles := fun slot => if slot.val = 0 then ⟨true, 0, 16, 0x200000⟩ else unusedHandle }

theorem blockBytesOf_oneBlock {byte : Nat} (h : byte ∈ blockBytesOf (some oneBlock) slot) :
    slot.val = 0 ∧ 0x200000 ≤ byte ∧ byte < 0x204000 := by
  obtain ⟨xms, hxms, hused, hfrom, hto⟩ := h
  cases hxms
  by_cases hslot : slot.val = 0
  · have hentry : oneBlock.handles slot = ⟨true, 0, 16, 0x200000⟩ := if_pos hslot
    rw [hentry] at hfrom hto
    exact ⟨hslot, hfrom, hto⟩
  · have hentry : oneBlock.handles slot = unusedHandle := if_neg hslot
    rw [hentry] at hused
    exact absurd hused.1 (by decide)

theorem oneBlock_apart : BlocksApart (some oneBlock) where
  above _ _ h := le_trans (by decide) (blockBytesOf_oneBlock h).2.1
  bounded _ _ h := lt_trans (Nat.succ_lt_succ (blockBytesOf_oneBlock h).2.2) (by decide)
  disjoint _ _ hne := Set.disjoint_left.mpr fun _ h hother =>
    hne (Fin.ext ((blockBytesOf_oneBlock h).1.trans (blockBytesOf_oneBlock hother).1.symm))

theorem oneBlock_resolves : ResolvesToOneHome (some oneBlock) 0 0x5000000 0x300000 0x1000 :=
  (resolvesToOneHome_iff oneBlock_apart (by decide)).mpr fun ⟨_, ⟨_, hbyte, hblock⟩, _⟩ =>
    absurd ((blockBytesOf_oneBlock hblock).2.2.trans_le (le_trans (by decide) hbyte.1))
      (lt_irrefl _)

/-- The range from 4 KB below the block to 4 KB inside it is answered as raw memory. -/
theorem oneBlock_straddled : BlocksApart (some oneBlock) ∧
    dosExtMemClassify (some oneBlock) 0x1FF000 0x2000 = .raw ∧
      ¬ResolvesToOneHome (some oneBlock) 0 0x5000000 0x1FF000 0x2000 := by
  refine ⟨oneBlock_apart, by decide, fun ⟨home, hhome, hbytes⟩ => ?_⟩
  have hraw : home.region = .raw := hhome
  have hbyte := (hbytes 0x200000 ⟨by decide, by decide⟩).1
  cases home with
  | raw =>
    exact hbyte.2.2 ⟨0, by decide⟩
      ⟨oneBlock, rfl, ⟨rfl, by decide, by decide⟩, by decide, by decide⟩
  | direct => cases hraw
  | emb slot => cases hraw

end Ntvdmex.Dos.ExtMem
