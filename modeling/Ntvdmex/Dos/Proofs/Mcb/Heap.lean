import Ntvdmex.Dos.Proofs.Mcb.Services
import Ntvdmex.Foundation.Runs

/-!
# The conventional heap, from bring-up on

`DosMcbInitializeWithTop` lays down three blocks, `DosMcbReserveTop` carves
reservations off the top, and `DosMcbCheckChain` accepts exactly the chains of
at most `DOS_MCB_WALK_LIMIT` blocks.
-/

namespace Ntvdmex.Dos.Mcb

open Foundation Foundation.Tiling List

/-- The three blocks of a fresh chain that ends at `top`. -/
def initialBlocks (top : Nat) : List McbBlock :=
  [⟨dosPspSeg, dosEnvParas⟩, ⟨dosMcbOwnerDos, dosResblkParas⟩,
    ⟨dosPspSeg, top - dosPspSeg⟩]

theorem dosMcbInitializeWithTop_chain (memory : ByteMemory) {top : Nat}
    (hlow : dosPspSeg ≤ top) (hhigh : top < 65536) :
    McbChain (dosMcbInitializeWithTop memory top) top dosFirstMcb (initialBlocks top) := by
  have hpsp : dosPspSeg = 256 := rfl
  have hsize : word (wordSub top dosPspSeg) = top - dosPspSeg := by
    rw [wordSub_of_le hlow hhigh, word_of_lt (by lia)]
  simp only [initialBlocks, McbChain, dosMcbInitializeWithTop,
    mcbSignature_dosMcbWriteHeader, mcbOwner_dosMcbWriteHeader,
    mcbSize_dosMcbWriteHeader, hsize]
  refine ⟨rfl, rfl, rfl, rfl, rfl, rfl, rfl, rfl, rfl, ?_⟩
  have hend : dosFirstMcb + 1 + dosEnvParas + 1 + dosResblkParas + 1 = 256 := rfl
  lia

section

variable {memory : ByteMemory} {top segment paragraphs : Nat}

/-- The memory in which `paragraphs` have been carved off the top of the block
at `segment` for a block of DOS. -/
theorem McbChain.reserve {block : McbBlock} {rest : List McbBlock} {memory' : ByteMemory}
    (htop : top < 65536) (h : McbChain memory top segment (block :: rest))
    (hfits : paragraphs + 2 ≤ block.size)
    (hmemory : ∀ s, SameHeader
      (dosMcbWriteHeader
        (setMcbSignature (setMcbSize memory segment (block.size - paragraphs - 1)) segment
          dosMcbMember)
        (segment + 1 + (block.size - paragraphs - 1)) (chainSignature rest)
        dosMcbOwnerDos paragraphs) memory' s) :
    McbChain memory' top segment
      (⟨block.owner, block.size - paragraphs - 1⟩ :: ⟨dosMcbOwnerDos, paragraphs⟩ :: rest) := by
  have hend := h.block_end_le
  have hne : segment ≠ segment + 1 + (block.size - paragraphs - 1) := by lia
  obtain ⟨hsig, howner, hsize⟩ := hmemory segment
  obtain ⟨htailSig, htailOwner, htailSize⟩ :=
    hmemory (segment + 1 + (block.size - paragraphs - 1))
  apply McbChain.rebuild_two h.2.2.2
  · lia
  · simpa [hne] using hsig
  · simpa [hne, h.2.1] using howner
  · rw [hsize, mcbSize_dosMcbWriteHeader, if_neg hne, mcbSize_setMcbSignature,
      mcbSize_setMcbSize, if_pos rfl, word_of_lt (by lia)]
  · simpa using htailSig
  · rw [htailOwner, mcbOwner_dosMcbWriteHeader, if_pos rfl]
    rfl
  · rw [htailSize, mcbSize_dosMcbWriteHeader, if_pos rfl, word_of_lt (by lia)]
  · intro s hs
    have h₁ : s ≠ segment := by lia
    have h₂ : s ≠ segment + 1 + (block.size - paragraphs - 1) := by lia
    obtain ⟨ha, hb, hc⟩ := hmemory s
    simp only [mcbSignature_dosMcbWriteHeader, mcbOwner_dosMcbWriteHeader,
      mcbSize_dosMcbWriteHeader, mcbSignature_setMcbSignature, mcbOwner_setMcbSignature,
      mcbSize_setMcbSignature, mcbSignature_setMcbSize, mcbOwner_setMcbSize,
      mcbSize_setMcbSize, if_neg h₁, if_neg h₂] at ha hb hc
    exact ⟨ha, hb, hc⟩

theorem McbChain.reserve_last {block : McbBlock} (htop : top < 65536)
    (h : McbChain memory top segment [block]) (hfits : paragraphs + 2 ≤ block.size) :
    McbChain
      (dosMcbWriteHeader
        (setMcbSignature (setMcbSize memory segment (block.size - paragraphs - 1)) segment
          dosMcbMember)
        (segment + 1 + (block.size - paragraphs - 1)) dosMcbLast dosMcbOwnerDos paragraphs)
      top segment
      [⟨block.owner, block.size - paragraphs - 1⟩, ⟨dosMcbOwnerDos, paragraphs⟩] :=
  h.reserve htop hfits fun s => SameHeader.refl _ s

theorem reserve_sameHeader_below {signature : UInt8} {kept s : Nat} (hs : s < segment) :
    SameHeader memory
      (dosMcbWriteHeader
        (setMcbSignature (setMcbSize memory segment kept) segment dosMcbMember)
        (segment + 1 + kept) signature dosMcbOwnerDos paragraphs) s := by
  have h₁ : s ≠ segment := by omega
  have h₂ : s ≠ segment + 1 + kept := by omega
  simp [SameHeader, h₁, h₂]

/-- A reservation leaves a chain with the same end, whichever block it is carved
from; the walk stands at `block`, with `previous` before it. -/
theorem dosMcbReserveTopWalk_chain (htop : top < 65536)
    (hparagraphs : paragraphs + 2 < 65536) {remaining : Nat}
    {previous block : McbBlock} {rest : List McbBlock}
    (h : McbChain memory top segment (previous :: block :: rest)) :
    ∃ blocks, blocks ≠ [] ∧
      McbChain
        (dosMcbReserveTopWalk paragraphs remaining memory
          (segment + 1 + previous.size) (some segment)).1
        top segment blocks ∧
      ∀ s < segment, SameHeader memory
        (dosMcbReserveTopWalk paragraphs remaining memory
          (segment + 1 + previous.size) (some segment)).1 s := by
  have hunchanged : ∃ blocks, blocks ≠ [] ∧ McbChain memory top segment blocks ∧
      ∀ s < segment, SameHeader memory memory s :=
    ⟨_, cons_ne_nil _ _, h, fun s _ => SameHeader.refl memory s⟩
  have hblock := h.2.2.2
  have hend := hblock.block_end_le
  induction rest generalizing segment remaining previous block with
  | nil =>
    unfold dosMcbReserveTopWalk
    rw [hblock.1, chainSignature_nil, if_pos rfl, hblock.2.1]
    by_cases howner : block.owner = dosMcbOwnerDos
    · rw [if_pos howner]
      dsimp only
      rw [h.2.2.1, word_of_lt hparagraphs]
      by_cases hfits : previous.size < paragraphs + 2
      · rw [if_pos hfits]
        exact hunchanged
      · rw [if_neg hfits, wordSub_of_le (a := previous.size) (by lia) (by lia),
          wordSub_of_le (by lia) (by lia), word_of_lt (by lia)]
        have hne : segment ≠ segment + 1 + (previous.size - paragraphs - 1) := by lia
        have hroom : paragraphs + 2 ≤ previous.size := by lia
        refine ⟨_, cons_ne_nil _ _, h.reserve htop hroom fun s => ?_, ?_⟩
        · by_cases hs : s = segment
          · subst hs
            simp [SameHeader, hne, h.1]
          · simp [SameHeader, hs]
        · intro s hs
          have h₁ : s ≠ segment := by lia
          have h₂ : s ≠ segment + 1 + (previous.size - paragraphs - 1) := by lia
          simp [SameHeader, h₁, h₂]
    · rw [if_neg howner]
      dsimp only
      rw [hblock.2.2.1, word_of_lt hparagraphs]
      by_cases hfits : block.size < paragraphs + 2
      · rw [if_pos hfits]
        exact hunchanged
      · rw [if_neg hfits, wordSub_of_le (a := block.size) (by lia) (by lia),
          wordSub_of_le (by lia) (by lia), word_of_lt (by lia)]
        have hroom : paragraphs + 2 ≤ block.size := by lia
        have hlast := hblock.reserve_last htop hroom
        refine ⟨_, cons_ne_nil _ _, h.replace_tail (cons_ne_nil _ _)
          (cons_ne_nil _ _) (reserve_sameHeader_below (by lia)) hlast, ?_⟩
        intro s hs
        exact reserve_sameHeader_below (by lia)
  | cons next rest ih =>
    unfold dosMcbReserveTopWalk
    rw [hblock.1, chainSignature_cons, if_neg (by decide), if_neg (by simp),
      hblock.2.2.1]
    cases remaining with
    | zero => exact hunchanged
    | succ remaining =>
      have hnextEnd := hblock.2.2.2.block_end_le
      rw [word_of_lt (by lia)]
      obtain ⟨blocks, hne, hchain, hsame⟩ :=
        ih hblock
          ⟨_, cons_ne_nil _ _, hblock, fun s _ => SameHeader.refl memory s⟩
          hblock.2.2.2 hnextEnd
      refine ⟨previous :: blocks, cons_ne_nil _ _, ?_, fun s hs =>
        hsame s (by lia)⟩
      exact h.replace_tail (cons_ne_nil _ _) hne (hsame segment (by lia)) hchain

theorem dosMcbReserveTop_chain (htop : top < 65536)
    (hparagraphs : paragraphs + 2 < 65536) {blocks : List McbBlock} (hne : blocks ≠ [])
    (h : McbChain memory top segment blocks) :
    ∃ blocks', blocks' ≠ [] ∧
      McbChain (dosMcbReserveTop memory segment paragraphs).1 top segment blocks' := by
  obtain ⟨remaining, hlimit⟩ : ∃ n, dosMcbWalkLimit = n + 1 := ⟨4095, rfl⟩
  rw [dosMcbReserveTop, hlimit]
  unfold dosMcbReserveTopWalk
  match blocks, h with
  | [], h => exact absurd rfl hne
  | [block], h =>
    have hend := h.block_end_le
    have hnone : (if mcbOwner memory segment = dosMcbOwnerDos then (none : Option Nat)
        else none) = none := by split <;> rfl
    rw [h.1, chainSignature_nil, if_pos rfl, hnone]
    dsimp only
    rw [h.2.2.1, word_of_lt hparagraphs]
    by_cases hfits : block.size < paragraphs + 2
    · rw [if_pos hfits]
      exact ⟨[block], hne, h⟩
    · rw [if_neg hfits, wordSub_of_le (a := block.size) (by lia) (by lia),
        wordSub_of_le (by lia) (by lia), word_of_lt (by lia)]
      exact ⟨_, cons_ne_nil _ _, h.reserve_last htop (by lia)⟩
  | previous :: block :: rest, h =>
    have hend := h.2.2.2.block_end_le
    rw [h.1, chainSignature_cons, if_neg (by decide), if_neg (by simp), h.2.2.1]
    rw [word_of_lt (by lia)]
    obtain ⟨blocks', hne', hchain, -⟩ :=
      dosMcbReserveTopWalk_chain htop hparagraphs h
    exact ⟨blocks', hne', hchain⟩

end

/-! ## The validator -/

theorem dosMcbCheckChainWalk_chain {memory : ByteMemory} {top segment remaining : Nat}
    {blocks : List McbBlock} (htop : top < 65536) (hne : blocks ≠ [])
    (h : McbChain memory top segment blocks) :
    dosMcbCheckChainWalk memory top remaining segment =
      if blocks.length ≤ remaining then .ok else .runaway := by
  induction remaining generalizing segment blocks with
  | zero =>
    cases blocks with
    | nil => exact absurd rfl hne
    | cons block rest => simp [dosMcbCheckChainWalk]
  | succ remaining ih =>
    cases blocks with
    | nil => exact absurd rfl hne
    | cons block rest =>
      have hend := h.block_end_le
      rw [dosMcbCheckChainWalk, h.1, h.2.2.1,
        if_neg (chainSignature_valid _), if_neg (by lia)]
      by_cases hrest : rest = []
      · subst hrest
        have htopEq : segment + 1 + block.size = top := h.2.2.2
        rw [chainSignature_nil, if_pos rfl, if_pos htopEq, if_pos (by simp)]
      · have hlast : ¬ chainSignature rest = dosMcbLast := by
          rwa [chainSignature_eq_last]
        rw [if_neg hlast, word_of_lt (by lia), ih hrest h.2.2.2]
        simp

theorem exists_chain_of_dosMcbCheckChainWalk {memory : ByteMemory}
    {top segment remaining : Nat} (htop : top < 65536)
    (h : dosMcbCheckChainWalk memory top remaining segment = .ok) :
    ∃ blocks, blocks ≠ [] ∧ McbChain memory top segment blocks := by
  induction remaining generalizing segment with
  | zero => exact absurd h (by rw [dosMcbCheckChainWalk]; decide)
  | succ remaining ih =>
    rw [dosMcbCheckChainWalk] at h
    split_ifs at h with hsig hover hlast hend
    · refine ⟨[⟨mcbOwner memory segment, mcbSize memory segment⟩], by simp, ?_⟩
      exact ⟨hlast, rfl, rfl, hend⟩
    · rw [word_of_lt (by omega)] at h
      obtain ⟨blocks, hne, hchain⟩ := ih h
      refine ⟨⟨mcbOwner memory segment, mcbSize memory segment⟩ :: blocks,
        cons_ne_nil _ _, ?_, rfl, rfl, hchain⟩
      rw [chainSignature_eq_member.mpr hne]
      simpa [isMcbSignature, hlast] using hsig

/-- `DosMcbCheckChain` answers `DOS_MCB_CHAIN_OK` for exactly the chains of at most
`DOS_MCB_WALK_LIMIT` blocks. -/
theorem dosMcbCheckChain_eq_ok_iff {memory : ByteMemory} {top firstMcb : Nat}
    (htop : top < 65536) :
    dosMcbCheckChain memory firstMcb top = .ok ↔
      ∃ blocks, blocks ≠ [] ∧ blocks.length ≤ dosMcbWalkLimit ∧
        McbChain memory top firstMcb blocks := by
  constructor
  · intro h
    obtain ⟨blocks, hne, hchain⟩ := exists_chain_of_dosMcbCheckChainWalk htop h
    rw [dosMcbCheckChain, dosMcbCheckChainWalk_chain htop hne hchain] at h
    refine ⟨blocks, hne, ?_, hchain⟩
    by_contra hlimit
    rw [if_neg hlimit] at h
    exact absurd h (by decide)
  · rintro ⟨blocks, hne, hlimit, hchain⟩
    rw [dosMcbCheckChain, dosMcbCheckChainWalk_chain htop hne hchain, if_pos hlimit]

theorem dosMcbCheckChain_ok_last : ∃ blocks, blocks ≠ [] ∧ blocks.length ≤ dosMcbWalkLimit ∧
    McbChain (fun a => if a = 0x1000 then 0x5A else 0) 0x101 0x100 blocks :=
  (dosMcbCheckChain_eq_ok_iff (by decide)).mp (by decide)

/-!
## The conventional heap over whole runs

Any sequence of AH=48h, AH=49h and AH=4Ah calls on blocks of the chain keeps the
chain well formed and leaves every owned block that the call does not name
where it is.
-/

def ownedBlocks (segment : Nat) (blocks : List McbBlock) : List (Nat × McbBlock) :=
  (placed McbBlock.span segment blocks).filter fun p => p.2.owner ≠ dosMcbOwnerFree

section Owned

variable {segment : Nat} {block : McbBlock} {rest : List McbBlock}

theorem ownedBlocks_append (segment : Nat) (xs ys : List McbBlock) :
    ownedBlocks segment (xs ++ ys) =
      ownedBlocks segment xs ++
        ownedBlocks (segment + extent McbBlock.span xs) ys := by
  rw [ownedBlocks, placed_append, filter_append]
  rfl

theorem ownedBlocks_free (h : block.owner = dosMcbOwnerFree) :
    ownedBlocks segment (block :: rest) = ownedBlocks (segment + 1 + block.size) rest := by
  rw [ownedBlocks, placed_cons, filter_cons_of_neg (by simpa using h),
    McbBlock.span, ← Nat.add_assoc]
  rfl

theorem ownedBlocks_owned (h : block.owner ≠ dosMcbOwnerFree) :
    ownedBlocks segment (block :: rest) =
      (segment, block) :: ownedBlocks (segment + 1 + block.size) rest := by
  rw [ownedBlocks, placed_cons, filter_cons_of_pos (by simpa using h),
    McbBlock.span, ← Nat.add_assoc]
  rfl

theorem ownedBlocks_mergeFree (h : block.owner = dosMcbOwnerFree) :
    ownedBlocks segment ((mergeFree block rest).1 :: (mergeFree block rest).2) =
      ownedBlocks (segment + 1 + block.size) rest := by
  induction rest generalizing block with
  | nil => exact ownedBlocks_free h
  | cons next rest ih =>
    rw [mergeFree]
    by_cases hnext : next.owner = dosMcbOwnerFree
    · have howner : (⟨block.owner, block.size + 1 + next.size⟩ : McbBlock).owner =
          dosMcbOwnerFree := h
      rw [if_pos hnext, ih howner, ownedBlocks_free hnext]
      congr 1
      dsimp only
      omega
    · rw [if_neg hnext, ownedBlocks_free h]

theorem ownedBlocks_cons (segment : Nat) (block : McbBlock) (rest : List McbBlock) :
    ownedBlocks segment (block :: rest) =
      ownedBlocks segment [block] ++ ownedBlocks (segment + 1 + block.size) rest := by
  have happend := ownedBlocks_append segment [block] rest
  rwa [extent_cons, extent_nil, Nat.add_zero, McbBlock.span, ← Nat.add_assoc] at happend

theorem dosPspSeg_ne_free : dosPspSeg ≠ dosMcbOwnerFree := by decide

theorem ownedBlocks_takeBlock {requested : Nat} (hfits : requested ≤ block.size) :
    ownedBlocks segment (takeBlock requested block ++ rest) =
      (segment, ⟨dosPspSeg, requested⟩) ::
        ownedBlocks (segment + 1 + block.size) rest := by
  rw [takeBlock]
  split
  · rw [cons_append, ownedBlocks_owned dosPspSeg_ne_free, cons_append,
      ownedBlocks_free rfl, nil_append]
    congr 2
    lia
  · have heq : block.size = requested := by lia
    rw [heq, cons_append, ownedBlocks_owned dosPspSeg_ne_free, nil_append]

/-- First fit adds the block it hands out, of exactly the size asked for, and
touches no other owned block. -/
theorem ownedBlocks_allocateBlocks (requested segment biggest : Nat)
    (blocks : List McbBlock) :
    ∃ before behind, ownedBlocks segment blocks = before ++ behind ∧
      ownedBlocks segment (allocateBlocks requested segment biggest blocks).1 =
        match (allocateBlocks requested segment biggest blocks).2 with
        | .ok allocated => before ++ (allocated - 1, ⟨dosPspSeg, requested⟩) :: behind
        | .error _ => before ++ behind := by
  induction segment, biggest, blocks using allocateBlocks.induct requested with
  | case1 => exact ⟨[], [], rfl, by rw [allocateBlocks]; rfl⟩
  | case2 segment biggest block rest howner hfits =>
    refine ⟨[], ownedBlocks (segment + 1 + block.size) rest,
      ownedBlocks_free howner, ?_⟩
    rw [allocateBlocks, if_pos howner, if_pos hfits]
    have hmerged := @ownedBlocks_mergeFree segment block rest howner
    rw [ownedBlocks_free ((mergeFree_owner block rest).trans howner)] at hmerged
    rw [ownedBlocks_takeBlock hfits, hmerged]
    rfl
  | case3 segment biggest block rest howner hfits ih =>
    obtain ⟨before, behind, hsplit, hafter⟩ := ih
    have hmergedOwner := (mergeFree_owner block rest).trans howner
    refine ⟨before, behind, ?_, ?_⟩
    · rw [← hsplit, ownedBlocks_free howner, ← ownedBlocks_mergeFree howner,
        ownedBlocks_free hmergedOwner]
    · rw [allocateBlocks, if_pos howner, if_neg hfits]
      rw [ownedBlocks_free hmergedOwner, hafter]
  | case4 segment biggest block rest howner ih =>
    obtain ⟨before, behind, hsplit, hafter⟩ := ih
    refine ⟨(segment, block) :: before, behind, ?_, ?_⟩
    · rw [ownedBlocks_owned howner, hsplit, cons_append]
    · rw [allocateBlocks, if_neg howner]
      dsimp only
      rw [ownedBlocks_owned howner, hafter]
      split <;> rfl

theorem ownedBlocks_resizeBlocks (requested segment : Nat) (block : McbBlock)
    (rest : List McbBlock) :
    ∃ size, ownedBlocks segment (resizeBlocks requested block rest).1 =
      ownedBlocks segment [⟨block.owner, size⟩] ++
        ownedBlocks (segment + 1 + block.size) rest := by
  unfold resizeBlocks
  split_ifs with hle hlt
  · refine ⟨requested, ?_⟩
    have howner : (⟨dosMcbOwnerFree, block.size - requested - 1⟩ : McbBlock).owner =
        dosMcbOwnerFree := rfl
    rw [ownedBlocks_cons, ownedBlocks_free howner]
    congr 2
    lia
  · exact ⟨block.size, ownedBlocks_cons _ _ _⟩
  · split
    · exact ⟨block.size, ownedBlocks_cons _ _ _⟩
    · next next behind =>
      split_ifs with hfree hfits hlt
      · refine ⟨requested, ?_⟩
        have htail : (⟨dosMcbOwnerFree, block.size + 1 + next.size - requested - 1⟩ :
            McbBlock).owner = dosMcbOwnerFree := rfl
        rw [ownedBlocks_cons, ownedBlocks_free htail, ownedBlocks_free hfree]
        congr 2
        lia
      · refine ⟨block.size + 1 + next.size, ?_⟩
        rw [ownedBlocks_cons, ownedBlocks_free hfree]
        congr 2
        lia
      · exact ⟨block.size, ownedBlocks_cons _ _ _⟩
      · exact ⟨block.size, ownedBlocks_cons _ _ _⟩

end Owned

/-! ## Calls -/

/-- A call of a guest on the heap. -/
inductive McbCall where
  | allocate (requested : UInt16)
  | free (blockSegment : Nat)
  | resize (blockSegment : Nat) (requested : UInt16)

/-- `blockSegment` is the data segment of a block on the chain. -/
def IsDataSegment (memory : ByteMemory) (top blockSegment : Nat) : Prop :=
  ∃ blocks, blocks ≠ [] ∧ McbChain memory top dosFirstMcb blocks ∧
    ∃ p block, (p, block) ∈ placed McbBlock.span dosFirstMcb blocks ∧ blockSegment = p + 1

def McbCall.IsValid (memory : ByteMemory) (top : Nat) : McbCall → Prop
  | allocate _ => True
  | free blockSegment => IsDataSegment memory top blockSegment
  | resize blockSegment _ => IsDataSegment memory top blockSegment

/-- The call names the block whose header is at `segment`. -/
def McbCall.Names (segment : Nat) : McbCall → Prop
  | allocate _ => False
  | free blockSegment => blockSegment = segment + 1
  | resize blockSegment _ => blockSegment = segment + 1

/-- The memory a call leaves when it returns. -/
inductive McbStep (memory : ByteMemory) : McbCall → ByteMemory → Prop
  | allocate {requested : UInt16} {memory' : ByteMemory}
      {result : Except DosMcbError Nat} :
      Returns (fun fuel => dosMcbAllocate fuel memory dosFirstMcb requested.toNat)
        (memory', result) →
      McbStep memory (.allocate requested) memory'
  | free {blockSegment : Nat} {memory' : ByteMemory} {result : Except DosMcbError Unit} :
      Returns (fun fuel => dosMcbFree fuel memory blockSegment) (memory', result) →
      McbStep memory (.free blockSegment) memory'
  | resize {blockSegment : Nat} {requested : UInt16} :
      McbStep memory (.resize blockSegment requested)
        (dosMcbResize memory blockSegment requested.toNat).1

theorem McbStep.unique {memory left right : ByteMemory} {call : McbCall}
    (hleft : McbStep memory call left) (hright : McbStep memory call right) :
    left = right := by
  cases hleft with
  | allocate hl =>
    cases hright with
    | allocate hr => exact (Prod.mk.inj (hl.unique hr)).1
  | free hl =>
    cases hright with
    | free hr => exact (Prod.mk.inj (hl.unique hr)).1
  | resize =>
    cases hright with
    | resize => rfl

/-- What a call leaves of a chain: a chain with the same end, on which every owned
block the call does not name stands unchanged. -/
def KeepsHeap (top : Nat) (blocks : List McbBlock) (call : McbCall)
    (memory' : ByteMemory) : Prop :=
  ∃ blocks', blocks' ≠ [] ∧ McbChain memory' top dosFirstMcb blocks' ∧
    ∀ p block, (p, block) ∈ ownedBlocks dosFirstMcb blocks → ¬ call.Names p →
      (p, block) ∈ ownedBlocks dosFirstMcb blocks'

section Calls

variable {memory : ByteMemory} {top : Nat} {blocks : List McbBlock}

theorem allocate_step (htop : top < 65536) (hne : blocks ≠ [])
    (h : McbChain memory top dosFirstMcb blocks) (requested : UInt16) :
    ∃ memory', McbStep memory (.allocate requested) memory' ∧
      KeepsHeap top blocks (.allocate requested) memory' := by
  obtain ⟨memory', hrun, hchain, hne', -⟩ :=
    dosMcbAllocateWalk_spec requested.toNat 0 htop hne h
  obtain ⟨before, behind, hsplit, hafter⟩ :=
    ownedBlocks_allocateBlocks requested.toNat dosFirstMcb 0 blocks
  have hreturns : Returns
      (fun fuel => dosMcbAllocate fuel memory dosFirstMcb requested.toNat) (memory', _) :=
    ⟨blocks.length + 1, fun fuel hfuel => hrun fuel (by omega)⟩
  refine ⟨memory', .allocate hreturns, _, hne', hchain, ?_⟩
  intro p block hmem _
  rw [hsplit, mem_append] at hmem
  rw [hafter]
  split
  · rw [mem_append, mem_cons]
    tauto
  · rw [mem_append]
    exact hmem

theorem IsDataSegment.split {blockSegment : Nat} (hne : blocks ≠ [])
    (h : McbChain memory top dosFirstMcb blocks)
    (hvalid : IsDataSegment memory top blockSegment) :
    ∃ pre block suf, blocks = pre ++ block :: suf ∧
      blockSegment = dosFirstMcb + extent McbBlock.span pre + 1 := by
  obtain ⟨named, hnamed, hchain, p, block, hmem, rfl⟩ := hvalid
  have heq := McbChain.unique hnamed hne hchain h
  subst heq
  obtain ⟨pre, suf, rfl, rfl⟩ := exists_append_of_mem_placed McbBlock.span hmem
  exact ⟨pre, block, suf, rfl, rfl⟩

/-- An edit of the chain from one header on keeps the heap if the blocks it leaves
there contain every owned block behind that header. -/
theorem keepsHeap_of_edit {pre suf suf' : List McbBlock} {block : McbBlock}
    {call : McbCall} {memory' : ByteMemory}
    (h : McbChain memory top dosFirstMcb (pre ++ block :: suf)) (hsuf' : suf' ≠ [])
    (hnames : call.Names (dosFirstMcb + extent McbBlock.span pre))
    (hchain : McbChain memory' top (dosFirstMcb + extent McbBlock.span pre) suf')
    (hsame : ∀ s < dosFirstMcb + extent McbBlock.span pre, SameHeader memory memory' s)
    (howned : ∀ x ∈ ownedBlocks (dosFirstMcb + extent McbBlock.span pre + 1 + block.size) suf,
      x ∈ ownedBlocks (dosFirstMcb + extent McbBlock.span pre) suf') :
    KeepsHeap top (pre ++ block :: suf) call memory' := by
  refine ⟨pre ++ suf', append_ne_nil_of_right_ne_nil pre hsuf',
    h.replace_suffix _ (cons_ne_nil _ _) hsuf' hsame hchain, ?_⟩
  intro p b hmem hother
  rw [ownedBlocks_append, mem_append] at hmem ⊢
  rcases hmem with hmem | hmem
  · exact Or.inl hmem
  · right
    by_cases hfree : block.owner = dosMcbOwnerFree
    · rw [ownedBlocks_free hfree] at hmem
      exact howned _ hmem
    · rw [ownedBlocks_owned hfree, mem_cons] at hmem
      rcases hmem with hmem | hmem
      · obtain ⟨rfl, rfl⟩ := Prod.mk.inj hmem
        exact absurd hnames hother
      · exact howned _ hmem

section

variable (htop : top < 65536) (hne : blocks ≠ []) (h : McbChain memory top dosFirstMcb blocks)

include htop hne h

theorem free_step {blockSegment : Nat} (hvalid : IsDataSegment memory top blockSegment) :
    ∃ memory', McbStep memory (.free blockSegment) memory' ∧
      KeepsHeap top blocks (.free blockSegment) memory' := by
  obtain ⟨pre, block, suf, rfl, rfl⟩ := hvalid.split hne h
  obtain ⟨memory', hrun, hchain, hsame⟩ := dosMcbFree_spec htop h.suffix
  refine ⟨memory', .free ⟨suf.length + 1, fun fuel hfuel => hrun fuel (by omega)⟩, ?_⟩
  apply keepsHeap_of_edit h (cons_ne_nil _ _) _ hchain
  · intro s hs
    exact hsame s (by omega)
  · intro x hx
    rwa [ownedBlocks_mergeFree rfl]
  · exact rfl

theorem resize_step {blockSegment : Nat} (requested : UInt16)
    (hvalid : IsDataSegment memory top blockSegment) :
    ∃ memory', McbStep memory (.resize blockSegment requested) memory' ∧
      KeepsHeap top blocks (.resize blockSegment requested) memory' := by
  obtain ⟨pre, block, suf, rfl, rfl⟩ := hvalid.split hne h
  obtain ⟨-, hchain, hsame⟩ :=
    dosMcbResize_spec requested.toNat htop h.suffix
  refine ⟨_, .resize, ?_⟩
  apply keepsHeap_of_edit h (resizeBlocks_ne_nil _ _ _) _ hchain hsame
  · intro x hx
    obtain ⟨size, howned⟩ := ownedBlocks_resizeBlocks requested.toNat
      (dosFirstMcb + extent McbBlock.span pre) block suf
    rw [howned, mem_append]
    exact Or.inr hx
  · exact rfl

theorem mcbStep_keepsHeap (call : McbCall)
    (hvalid : call.IsValid memory top) :
    ∃ memory', McbStep memory call memory' ∧ KeepsHeap top blocks call memory' := by
  cases call with
  | allocate requested => exact allocate_step htop hne h requested
  | free blockSegment => exact free_step htop hne h hvalid
  | resize blockSegment requested => exact resize_step htop hne h requested hvalid

end

end Calls

/-! ## Runs -/

/-- A heap as the host sets it up: a fresh chain up to `top` and any number of
reservations at its top, none of them so large that its size wraps a WORD. -/
def IsFreshHeap (top : Nat) (memory : ByteMemory) : Prop :=
  ∃ (blank : ByteMemory) (reservations : List UInt16),
    (∀ paragraphs ∈ reservations, paragraphs.toNat + 2 < 65536) ∧
    memory = reservations.foldl
      (fun memory paragraphs => (dosMcbReserveTop memory dosFirstMcb paragraphs.toNat).1)
      (dosMcbInitializeWithTop blank top)

/-- One call on a block of the chain as it stands. -/
def McbRunStep (top : Nat) (memory : ByteMemory) (call : McbCall)
    (memory' : ByteMemory) : Prop :=
  call.IsValid memory top ∧ McbStep memory call memory'

theorem IsFreshHeap.chain {top : Nat} {memory : ByteMemory} (hlow : dosPspSeg ≤ top)
    (htop : top < 65536) (h : IsFreshHeap top memory) :
    ∃ blocks, blocks ≠ [] ∧ McbChain memory top dosFirstMcb blocks := by
  obtain ⟨blank, reservations, hsmall, rfl⟩ := h
  have hstart : ∃ blocks, blocks ≠ [] ∧
      McbChain (dosMcbInitializeWithTop blank top) top dosFirstMcb blocks :=
    ⟨_, cons_ne_nil _ _, dosMcbInitializeWithTop_chain blank hlow htop⟩
  generalize dosMcbInitializeWithTop blank top = memory at hstart
  induction reservations generalizing memory with
  | nil => exact hstart
  | cons paragraphs reservations ih =>
    obtain ⟨blocks, hne, hchain⟩ := hstart
    rw [foldl_cons]
    apply ih
    · intro q hq
      exact hsmall q (mem_cons_of_mem _ hq)
    · exact dosMcbReserveTop_chain htop (hsmall paragraphs mem_cons_self) hne hchain

theorem run_chain {top : Nat} {start memory : ByteMemory} {calls : List McbCall}
    (hlow : dosPspSeg ≤ top) (htop : top < 65536) (hfresh : IsFreshHeap top start)
    (hrun : Run (McbRunStep top) start calls memory) :
    ∃ blocks, blocks ≠ [] ∧ McbChain memory top dosFirstMcb blocks := by
  apply hrun.invariant
    (fun memory => ∃ blocks, blocks ≠ [] ∧ McbChain memory top dosFirstMcb blocks)
  · rintro memory call memory' ⟨blocks, hne, hchain⟩ ⟨hvalid, hstep⟩
    obtain ⟨memory'', hstep', blocks', hne', hchain', -⟩ :=
      mcbStep_keepsHeap htop hne hchain call hvalid
    rw [hstep.unique hstep']
    exact ⟨blocks', hne', hchain'⟩
  · exact hfresh.chain hlow htop

/-- After any run on a fresh heap the headers from `DOS_FIRST_MCB` on describe blocks
that tile the memory up to `top`, no two of them overlapping and no paragraph left
out; the validator accepts the chain unless it has more than `DOS_MCB_WALK_LIMIT`
blocks, which it reports as a runaway; and any further call on a block of the chain
returns and leaves every owned block it does not name unchanged. -/
theorem mcb_heap_invariant {top : Nat} {start memory : ByteMemory}
    {calls : List McbCall} (hlow : 0x101 ≤ top) (hhigh : top ≤ dosMemTop)
    (hfresh : IsFreshHeap top start) (hrun : Run (McbRunStep top) start calls memory) :
    ∃ blocks, McbChain memory top dosFirstMcb blocks ∧
      dosMcbCheckChain memory dosFirstMcb top =
        (if blocks.length ≤ dosMcbWalkLimit then .ok else .runaway) ∧
      dosFirstMcb + extent McbBlock.span blocks = top ∧
      (∀ p block q block',
        (p, block) ∈ placed McbBlock.span dosFirstMcb blocks →
        (q, block') ∈ placed McbBlock.span dosFirstMcb blocks →
        (p = q ∧ block = block') ∨ p + block.span ≤ q ∨ q + block'.span ≤ p) ∧
      (∀ paragraph, dosFirstMcb ≤ paragraph → paragraph < top →
        ∃ p block, (p, block) ∈ placed McbBlock.span dosFirstMcb blocks ∧
          p ≤ paragraph ∧ paragraph < p + block.span) ∧
      ∀ call : McbCall, call.IsValid memory top →
        (∃ memory', McbStep memory call memory') ∧
        ∀ memory', McbStep memory call memory' → KeepsHeap top blocks call memory' := by
  have htop : top < 65536 := by
    have hmem : dosMemTop = 40896 := rfl
    lia
  have hpsp : dosPspSeg = 256 := rfl
  obtain ⟨blocks, hne, hchain⟩ := run_chain (by lia) htop hfresh hrun
  have hextent := hchain.top_eq
  refine ⟨blocks, hchain, dosMcbCheckChainWalk_chain htop hne hchain, hextent.symm,
    ?_, ?_, ?_⟩
  · intro p block q block' hp hq
    exact placed_disjoint McbBlock.span hp hq
  · intro paragraph hparagraph hlt
    exact exists_placed_of_lt McbBlock.span hparagraph (by lia)
  · intro call hvalid
    obtain ⟨memory', hstep, hkeeps⟩ := mcbStep_keepsHeap htop hne hchain call hvalid
    refine ⟨⟨memory', hstep⟩, fun memory'' hstep' => ?_⟩
    rwa [hstep'.unique hstep]

theorem isDataSegment_program (blank : ByteMemory) {top : Nat} (hlow : dosPspSeg ≤ top)
    (htop : top < 65536) :
    IsDataSegment (dosMcbInitializeWithTop blank top) top dosPspSeg := by
  refine ⟨initialBlocks top, cons_ne_nil _ _,
    dosMcbInitializeWithTop_chain blank hlow htop, 0xFF, ⟨dosPspSeg, top - dosPspSeg⟩, ?_,
    rfl⟩
  simp [initialBlocks, McbBlock.span, dosFirstMcb, dosEnvParas, dosResblkParas, dosPspSeg,
    dosResblkMcb]

theorem mcb_heap_invariant_shrunk :
    ∃ blocks,
      McbChain
        (dosMcbResize (dosMcbInitializeWithTop (fun _ => 0) dosMemTop) dosPspSeg 0x10).1
        dosMemTop dosFirstMcb blocks := by
  have hrun : Run (McbRunStep dosMemTop)
      (dosMcbInitializeWithTop (fun _ => 0) dosMemTop) [.resize dosPspSeg 0x10]
      (dosMcbResize (dosMcbInitializeWithTop (fun _ => 0) dosMemTop) dosPspSeg 0x10).1 :=
    .single ⟨isDataSegment_program _ (by decide) (by decide), .resize⟩
  obtain ⟨blocks, hchain, -⟩ := mcb_heap_invariant (by decide) (by decide)
    ⟨fun _ => 0, [], by simp, rfl⟩ hrun
  exact ⟨blocks, hchain⟩

/-! ## More blocks than the validator walks

A zero-paragraph allocation still costs a header, so a program that has shrunk its
block can make the chain longer than the validator's limit one call at a time.
-/

theorem allocateBlocks_skip_owned {pre : List McbBlock} {size segment biggest : Nat}
    (hpre : ∀ block ∈ pre, block.owner ≠ dosMcbOwnerFree) (hsize : 0 < size) :
    (allocateBlocks 0 segment biggest (pre ++ [⟨dosMcbOwnerFree, size⟩])).1 =
      pre ++ [⟨dosPspSeg, 0⟩, ⟨dosMcbOwnerFree, size - 1⟩] := by
  induction pre generalizing segment with
  | nil =>
    rw [nil_append, allocateBlocks, if_pos rfl, if_pos (Nat.zero_le _), mergeFree,
      takeBlock, if_pos hsize]
    rfl
  | cons block pre ih =>
    rw [cons_append, allocateBlocks, if_neg (hpre block mem_cons_self)]
    rw [ih fun b hb => hpre b (mem_cons_of_mem _ hb), cons_append]

/-- The heap of the 640 KB machine after the program gave everything back and made
`count` allocations of zero paragraphs. -/
theorem exists_run_of_zero_blocks (count : Nat) (hcount : count < 0x9000) :
    ∃ calls memory,
      Run (McbRunStep dosMemTop) (dosMcbInitializeWithTop (fun _ => 0) dosMemTop)
        calls memory ∧
      McbChain memory dosMemTop dosFirstMcb
        ((⟨dosPspSeg, dosEnvParas⟩ :: ⟨dosMcbOwnerDos, dosResblkParas⟩ ::
          replicate (count + 1) ⟨dosPspSeg, 0⟩) ++
          [⟨dosMcbOwnerFree, 40639 - count⟩]) := by
  have htop : dosMemTop < 65536 := by decide
  induction count with
  | zero =>
    have hlow : dosPspSeg ≤ dosMemTop := by decide
    have hfresh := dosMcbInitializeWithTop_chain (fun _ => 0) hlow htop
    have hprogram : McbChain (dosMcbInitializeWithTop (fun _ => 0) dosMemTop) dosMemTop
        0xFF [⟨dosPspSeg, dosMemTop - dosPspSeg⟩] := hfresh.2.2.2.2.2.2
    obtain ⟨-, hchain, hsame⟩ := dosMcbResize_spec 0 htop hprogram
    refine ⟨[.resize dosPspSeg 0], _,
      .single ⟨isDataSegment_program _ (by decide) htop, .resize⟩, ?_⟩
    exact hfresh.replace_suffix [⟨dosPspSeg, dosEnvParas⟩,
      ⟨dosMcbOwnerDos, dosResblkParas⟩] (cons_ne_nil _ _) (cons_ne_nil _ _)
      hsame hchain
  | succ count ih =>
    obtain ⟨calls, memory, hrun, hchain⟩ := ih (by lia)
    obtain ⟨memory', hwalk, hchain', -⟩ :=
      dosMcbAllocateWalk_spec 0 0 htop (by simp) hchain
    have hreturns : Returns
        (fun fuel => dosMcbAllocate fuel memory dosFirstMcb (0 : UInt16).toNat)
        (memory', _) :=
      ⟨_, fun fuel hfuel => hwalk fuel hfuel⟩
    have hstep : McbRunStep dosMemTop memory (.allocate 0) memory' :=
      ⟨trivial, .allocate hreturns⟩
    refine ⟨_, memory', .snoc hrun hstep, ?_⟩
    rw [allocateBlocks_skip_owned _ (by lia)] at hchain'
    · rw [replicate_succ']
      simpa [Nat.sub_sub] using hchain'
    · intro block hblock
      simp only [mem_cons, mem_replicate] at hblock
      rcases hblock with rfl | rfl | ⟨-, rfl⟩
      · exact dosPspSeg_ne_free
      · exact show dosMcbOwnerDos ≠ dosMcbOwnerFree by decide
      · exact dosPspSeg_ne_free

theorem mcb_chain_not_always_accepted :
    ¬ ∀ start memory calls, IsFreshHeap dosMemTop start →
      Run (McbRunStep dosMemTop) start calls memory →
      dosMcbCheckChain memory dosFirstMcb dosMemTop = .ok := by
  intro haccepted
  obtain ⟨calls, memory, hrun, hchain⟩ := exists_run_of_zero_blocks 4096 (by decide)
  have hok := haccepted _ memory calls ⟨fun _ => 0, [], by simp, rfl⟩ hrun
  generalize hcount : 4096 = count at hchain
  rw [dosMcbCheckChain, dosMcbCheckChainWalk_chain (by decide) (by simp) hchain,
    if_neg] at hok
  · exact absurd hok (by decide)
  · simp only [List.length_append, List.length_cons, List.length_replicate, List.length_nil,
      dosMcbWalkLimit]
    omega

end Ntvdmex.Dos.Mcb
