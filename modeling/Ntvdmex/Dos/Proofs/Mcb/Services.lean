import Ntvdmex.Dos.Proofs.Mcb.Chain

/-!
# The services as edits of the block list

`mergeFree`, `takeBlock` and `allocateBlocks` say in terms of blocks what the
walks over headers compute; the `_spec` theorems show that each service, run on
a chain that describes a list of blocks, returns and leaves a chain that
describes the edited list.
-/

namespace Ntvdmex.Dos.Mcb

open Foundation Foundation.Tiling List McbChain

/-- Absorb the free blocks that directly follow `block`. -/
def mergeFree (block : McbBlock) : List McbBlock → McbBlock × List McbBlock
  | [] => (block, [])
  | next :: rest =>
    if next.owner = dosMcbOwnerFree then
      mergeFree ⟨block.owner, block.size + 1 + next.size⟩ rest
    else
      (block, next :: rest)

def takeBlock (requested : Nat) (block : McbBlock) : List McbBlock :=
  if requested < block.size then
    [⟨dosPspSeg, requested⟩, ⟨dosMcbOwnerFree, block.size - requested - 1⟩]
  else
    [⟨dosPspSeg, block.size⟩]

theorem mergeFree_length (block : McbBlock) (rest : List McbBlock) :
    (mergeFree block rest).2.length ≤ rest.length := by
  induction rest generalizing block with
  | nil => simp [mergeFree]
  | cons next rest ih =>
    rw [mergeFree]
    split
    · exact (ih _).trans (Nat.le_succ _)
    · exact Nat.le_refl _

theorem mergeFree_owner (block : McbBlock) (rest : List McbBlock) :
    (mergeFree block rest).1.owner = block.owner := by
  induction rest generalizing block with
  | nil => rfl
  | cons next rest ih =>
    rw [mergeFree]
    split
    · rw [ih]
    · rfl

/-- First fit over a list of blocks whose first header is at `segment`. -/
def allocateBlocks (requested : Nat) (segment biggest : Nat) :
    List McbBlock → List McbBlock × Except DosMcbError Nat
  | [] => ([], .error (.insufficientMemory biggest))
  | block :: rest =>
    if block.owner = dosMcbOwnerFree then
      if requested ≤ (mergeFree block rest).1.size then
        (takeBlock requested (mergeFree block rest).1 ++ (mergeFree block rest).2,
          .ok (segment + 1))
      else
        ((mergeFree block rest).1 ::
            (allocateBlocks requested (segment + 1 + (mergeFree block rest).1.size)
              (max biggest (mergeFree block rest).1.size) (mergeFree block rest).2).1,
          (allocateBlocks requested (segment + 1 + (mergeFree block rest).1.size)
              (max biggest (mergeFree block rest).1.size) (mergeFree block rest).2).2)
    else
      (block :: (allocateBlocks requested (segment + 1 + block.size) biggest rest).1,
        (allocateBlocks requested (segment + 1 + block.size) biggest rest).2)
  termination_by blocks => blocks.length
  decreasing_by
    all_goals
      have hlength := mergeFree_length block rest
      simp only [List.length_cons]
      omega

namespace McbChain

variable {memory memory' : ByteMemory} {top segment total owner requested : Nat}
  {rest : List McbBlock}

theorem rebuild_one (h : McbChain memory top (segment + 1 + total) rest)
    (hsig : mcbSignature memory' segment = chainSignature rest)
    (howner : mcbOwner memory' segment = owner)
    (hsize : mcbSize memory' segment = total)
    (hsame : ∀ s, segment + 1 + total ≤ s → SameHeader memory memory' s) :
    McbChain memory' top segment (⟨owner, total⟩ :: rest) := by
  refine ⟨hsig, howner, hsize, ?_⟩
  exact h.congr fun s hlow _ => hsame s hlow

theorem rebuild_two {tail : McbBlock} (h : McbChain memory top (segment + 1 + total) rest)
    (htotal : requested + 1 + tail.size = total)
    (hsig : mcbSignature memory' segment = dosMcbMember)
    (howner : mcbOwner memory' segment = owner)
    (hsize : mcbSize memory' segment = requested)
    (htailSig : mcbSignature memory' (segment + 1 + requested) = chainSignature rest)
    (htailOwner : mcbOwner memory' (segment + 1 + requested) = tail.owner)
    (htailSize : mcbSize memory' (segment + 1 + requested) = tail.size)
    (hsame : ∀ s, segment + 1 + total ≤ s → SameHeader memory memory' s) :
    McbChain memory' top segment (⟨owner, requested⟩ :: tail :: rest) := by
  refine ⟨hsig, howner, hsize, ?_⟩
  have hend : segment + 1 + requested + 1 + tail.size = segment + 1 + total := by lia
  apply rebuild_one _ htailSig htailOwner htailSize
  · rwa [hend]
  · rwa [hend]

end McbChain

/-! ## Allocation -/

section

variable {memory : ByteMemory} {top segment : Nat}

theorem McbChain.absorb {block next : McbBlock} {rest : List McbBlock}
    (htop : top < 65536)
    (h : McbChain memory top segment (block :: next :: rest)) :
    McbChain
      (setMcbSignature (setMcbSize memory segment (block.size + 1 + next.size)) segment
        (chainSignature rest))
      top segment (⟨block.owner, block.size + 1 + next.size⟩ :: rest) := by
  have hend := block_end_le h.2.2.2
  have hnext := h.2.2.2.2.2.2
  rw [show segment + 1 + block.size + 1 + next.size =
    segment + 1 + (block.size + 1 + next.size) by lia] at hnext
  apply rebuild_one hnext
  · simp
  · simpa using h.2.1
  · simpa using word_of_lt (by lia)
  · intro s hs
    have hne : s ≠ segment := by lia
    simp [SameHeader, hne]

/-- The memory in which the block at `segment` has been cut down to `requested`
paragraphs, the rest of its `total` becoming a free tail. -/
def cutBlock (memory : ByteMemory) (segment requested total : Nat)
    (signature : UInt8) : ByteMemory :=
  setMcbSize
    (setMcbSignature
      (dosMcbWriteHeader memory (segment + 1 + requested) signature dosMcbOwnerFree
        (total - requested - 1))
      segment dosMcbMember)
    segment requested

theorem cutBlock_sameHeader {requested total s : Nat} {signature : UInt8}
    (hs : s < segment ∨ segment + 1 + requested < s) :
    SameHeader memory (cutBlock memory segment requested total signature) s := by
  have hhead : s ≠ segment := by lia
  have htail : s ≠ segment + 1 + requested := by lia
  simp [SameHeader, cutBlock, hhead, htail]

theorem cutBlock_owner {requested total : Nat} {signature : UInt8} :
    mcbOwner (cutBlock memory segment requested total signature) segment =
      mcbOwner memory segment := by
  have hne : segment ≠ segment + 1 + requested := by omega
  simp [cutBlock, hne]

theorem McbChain.cut {requested total : Nat} {rest : List McbBlock}
    (htop : top < 65536) (h : McbChain memory top (segment + 1 + total) rest)
    (hlt : requested < total) :
    McbChain (cutBlock memory segment requested total (chainSignature rest)) top segment
      (⟨mcbOwner memory segment, requested⟩ ::
        ⟨dosMcbOwnerFree, total - requested - 1⟩ :: rest) := by
  have hend := h.segment_le
  have hne : segment + 1 + requested ≠ segment := by lia
  apply rebuild_two h
  · lia
  · simp [cutBlock]
  · exact cutBlock_owner
  · simpa [cutBlock] using word_of_lt (by lia)
  · simp [cutBlock, hne]
  · simp [cutBlock, dosMcbOwnerFree, word]
  · simpa [cutBlock, hne] using word_of_lt (by lia)
  · intro s hs
    exact cutBlock_sameHeader (by lia)

theorem dosMcbAllocateMerge_spec {block : McbBlock} {rest : List McbBlock}
    (htop : top < 65536) (h : McbChain memory top segment (block :: rest)) :
    ∃ memory',
      (∀ fuel, rest.length < fuel →
        dosMcbAllocateMerge fuel memory segment block.size (chainSignature rest) =
          some (memory', (mergeFree block rest).1.size,
            chainSignature (mergeFree block rest).2)) ∧
      McbChain memory' top segment ((mergeFree block rest).1 :: (mergeFree block rest).2) ∧
      ∀ s ≠ segment, SameHeader memory memory' s := by
  induction rest generalizing block memory with
  | nil =>
    refine ⟨memory, fun | fuel + 1, hfuel => ?_, h, fun s _ => SameHeader.refl memory s⟩
    rw [dosMcbAllocateMerge, if_neg (by decide)]
    rfl
  | cons next rest ih =>
    have hend := block_end_le h.2.2.2
    have hnext := h.2.2.2
    have hturn : ∀ fuel, dosMcbAllocateMerge (fuel + 1) memory segment block.size
        dosMcbMember =
          if next.owner ≠ dosMcbOwnerFree then some (memory, block.size, dosMcbMember)
          else
            dosMcbAllocateMerge fuel
              (setMcbSignature
                (setMcbSize memory segment (block.size + 1 + next.size)) segment
                (chainSignature rest))
              segment (block.size + 1 + next.size) (chainSignature rest) := by
      intro fuel
      rw [dosMcbAllocateMerge, if_pos rfl, word_of_lt (by lia)]
      dsimp only
      rw [hnext.2.1, hnext.1, hnext.2.2.1,
        if_neg (chainSignature_valid rest),
        word_of_lt (n := block.size + 1 + next.size) (by lia),
        mcbSignature_setMcbSize, hnext.1]
    rw [chainSignature_cons, mergeFree]
    by_cases howner : next.owner = dosMcbOwnerFree
    · obtain ⟨memory', hrun, hchain, hsame⟩ := ih (h.absorb htop)
      rw [if_pos howner]
      refine ⟨memory', fun | fuel + 1, hfuel => ?_, hchain,
        fun s hs => SameHeader.trans ?_ (hsame s hs)⟩
      · rw [length_cons] at hfuel
        rw [hturn, if_neg (by simpa using howner)]
        exact hrun fuel (by lia)
      · simp [SameHeader, hs]
    · rw [if_neg howner]
      refine ⟨memory, fun | fuel + 1, hfuel => ?_, h, fun s _ => SameHeader.refl memory s⟩
      rw [hturn, if_pos howner]
      rfl

theorem McbChain.setOwner {block : McbBlock} {rest : List McbBlock} {owner : Nat}
    (h : McbChain memory top segment (block :: rest)) (howner : owner < 65536) :
    McbChain (setMcbOwner memory segment owner) top segment
      (⟨owner, block.size⟩ :: rest) := by
  apply rebuild_one h.2.2.2
  · simpa using h.1
  · simpa using word_of_lt howner
  · simpa using h.2.2.1
  · intro s hs
    have hne : s ≠ segment := by omega
    simp [SameHeader, hne]

theorem setMcbOwner_sameHeader {owner s : Nat} (hs : s ≠ segment) :
    SameHeader memory (setMcbOwner memory segment owner) s := by
  simp [SameHeader, hs]

theorem dosMcbAllocateTake_spec {requested : Nat} {block : McbBlock}
    {rest : List McbBlock} (htop : top < 65536)
    (h : McbChain memory top segment (block :: rest)) (hfits : requested ≤ block.size) :
    McbChain
      (dosMcbAllocateTake memory segment requested block.size (chainSignature rest))
      top segment (takeBlock requested block ++ rest) ∧
    ∀ s < segment, SameHeader memory
      (dosMcbAllocateTake memory segment requested block.size (chainSignature rest)) s := by
  have hend := h.block_end_le
  have hpsp : dosPspSeg < 65536 := by decide
  rw [dosMcbAllocateTake, takeBlock, word_of_lt (n := requested + 1) (by lia),
    word_of_lt (n := segment + 1 + requested) (by lia)]
  by_cases hlt : requested < block.size
  · rw [if_pos hlt, if_pos (by lia), wordSub_of_le hfits (by lia),
      wordSub_of_le (by lia) (by lia)]
    have hcut := cut htop h.2.2.2 hlt
    refine ⟨hcut.setOwner hpsp, fun s hs => ?_⟩
    exact SameHeader.trans (cutBlock_sameHeader (Or.inl hs))
      (setMcbOwner_sameHeader (Nat.ne_of_lt hs))
  · rw [if_neg hlt, if_neg (by lia)]
    exact ⟨h.setOwner hpsp, fun s hs => setMcbOwner_sameHeader (Nat.ne_of_lt hs)⟩

theorem takeBlock_ne_nil (requested : Nat) (block : McbBlock) :
    takeBlock requested block ≠ [] := by
  rw [takeBlock]
  split <;> simp

/-- The allocation walk returns, and rewrites the chain as first fit rewrites
the list of blocks. -/
theorem dosMcbAllocateWalk_spec (requested biggest : Nat) (htop : top < 65536)
    {blocks : List McbBlock} (hne : blocks ≠ [])
    (h : McbChain memory top segment blocks) :
    ∃ memory',
      (∀ fuel, blocks.length < fuel →
        dosMcbAllocateWalk requested fuel memory segment biggest =
          some (memory', (allocateBlocks requested segment biggest blocks).2)) ∧
      McbChain memory' top segment (allocateBlocks requested segment biggest blocks).1 ∧
      ((allocateBlocks requested segment biggest blocks).1 ≠ []) ∧
      ∀ s < segment, SameHeader memory memory' s := by
  induction segment, biggest, blocks using allocateBlocks.induct requested
    generalizing memory with
  | case1 => exact absurd rfl hne
  | case2 segment biggest block rest howner hfits =>
    obtain ⟨merged, hmerge, hchain, hsame⟩ := dosMcbAllocateMerge_spec htop h
    obtain ⟨htake, hbelow⟩ := dosMcbAllocateTake_spec htop hchain hfits
    have hend := hchain.block_end_le
    rw [allocateBlocks, if_pos howner, if_pos hfits]
    refine ⟨_, fun | fuel + 1, hfuel => ?_, htake, ?_, ?_⟩
    · rw [length_cons] at hfuel
      rw [dosMcbAllocateWalk, h.2.1, if_pos howner, h.1, h.2.2.1,
        hmerge fuel (by lia)]
      dsimp only
      rw [if_pos hfits, word_of_lt (n := segment + 1) (by lia)]
    · exact append_ne_nil_of_left_ne_nil (takeBlock_ne_nil _ _) _
    · intro s hs
      exact (hsame s (by lia)).trans (hbelow s hs)
  | case3 segment biggest block rest howner hfits ih =>
    obtain ⟨memory₁, hmerge, hchain, hsame⟩ := dosMcbAllocateMerge_spec htop h
    have hend := hchain.block_end_le
    have hlength := mergeFree_length block rest
    have hbiggest : (if biggest < (mergeFree block rest).1.size
        then (mergeFree block rest).1.size else biggest) =
          max biggest (mergeFree block rest).1.size := by
      split <;> lia
    have hturn : ∀ fuel, rest.length < fuel →
        dosMcbAllocateWalk requested (fuel + 1) memory segment biggest =
          if chainSignature (mergeFree block rest).2 = dosMcbLast then
            some (memory₁, .error (.insufficientMemory
              (max biggest (mergeFree block rest).1.size)))
          else
            dosMcbAllocateWalk requested fuel memory₁
              (segment + 1 + (mergeFree block rest).1.size)
              (max biggest (mergeFree block rest).1.size) := by
      intro fuel hfuel
      rw [dosMcbAllocateWalk, h.2.1, if_pos howner, h.1, h.2.2.1, hmerge fuel hfuel]
      dsimp only
      rw [if_neg hfits, hbiggest,
        word_of_lt (n := segment + 1 + (mergeFree block rest).1.size) (by lia)]
    rw [allocateBlocks, if_pos howner, if_neg hfits]
    by_cases hrest : (mergeFree block rest).2 = []
    · rw [hrest] at hchain hturn ⊢
      rw [allocateBlocks]
      refine ⟨memory₁, fun | fuel + 1, hfuel => ?_, hchain, cons_ne_nil _ _, ?_⟩
      · rw [length_cons] at hfuel
        rw [hturn fuel (by lia), chainSignature_nil, if_pos rfl]
      · intro s hs
        exact hsame s (by lia)
    · have hlast : ¬ chainSignature (mergeFree block rest).2 = dosMcbLast := by
        rwa [chainSignature_eq_last]
      obtain ⟨memory₂, hrun, htail, htailNe, hbelow⟩ := ih hrest hchain.2.2.2
      refine ⟨memory₂, fun | fuel + 1, hfuel => ?_, ?_, cons_ne_nil _ _, ?_⟩
      · rw [length_cons] at hfuel
        rw [hturn fuel (by lia), if_neg hlast, hrun fuel (by lia)]
      · exact hchain.replace_tail hrest htailNe (hbelow segment (by lia)) htail
      · intro s hs
        exact (hsame s (by lia)).trans (hbelow s (by lia))
  | case4 segment biggest block rest howner ih =>
    have hend := h.block_end_le
    have hturn : ∀ fuel, dosMcbAllocateWalk requested (fuel + 1) memory segment biggest =
        if chainSignature rest = dosMcbLast then
          some (memory, .error (.insufficientMemory biggest))
        else
          dosMcbAllocateWalk requested fuel memory (segment + 1 + block.size) biggest := by
      intro fuel
      rw [dosMcbAllocateWalk, h.2.1, if_neg howner, h.1, h.2.2.1,
        word_of_lt (n := segment + 1 + block.size) (by lia)]
    rw [allocateBlocks, if_neg howner]
    by_cases hrest : rest = []
    · subst hrest
      rw [allocateBlocks]
      refine ⟨memory, fun | fuel + 1, hfuel => ?_, h, cons_ne_nil _ _,
        fun s _ => SameHeader.refl memory s⟩
      rw [hturn, chainSignature_nil, if_pos rfl]
    · have hlast : ¬ chainSignature rest = dosMcbLast := by
        rwa [chainSignature_eq_last]
      obtain ⟨memory₂, hrun, htail, htailNe, hbelow⟩ := ih hrest h.2.2.2
      refine ⟨memory₂, fun | fuel + 1, hfuel => ?_, ?_, cons_ne_nil _ _,
        fun s hs => hbelow s (by lia)⟩
      · rw [length_cons] at hfuel
        rw [hturn, if_neg hlast, hrun fuel (by lia)]
      · exact h.replace_tail hrest htailNe (hbelow segment (by lia)) htail

/-- The walk of AH=49h is that of AH=48h, which also keeps the size and the signature. -/
theorem dosMcbFreeCoalesce_eq (fuel : Nat) (memory : ByteMemory) (segment : Nat) :
    dosMcbFreeCoalesce fuel memory segment =
      (dosMcbAllocateMerge fuel memory segment (mcbSize memory segment)
        (mcbSignature memory segment)).map (·.1) := by
  induction fuel generalizing memory with
  | zero => rfl
  | succ fuel ih =>
    rw [dosMcbFreeCoalesce, dosMcbAllocateMerge]
    dsimp only
    split_ifs <;> simp [ih, word]

theorem dosMcbFreeCoalesce_spec {block : McbBlock} {rest : List McbBlock}
    (htop : top < 65536) (h : McbChain memory top segment (block :: rest)) :
    ∃ memory',
      (∀ fuel, rest.length < fuel →
        dosMcbFreeCoalesce fuel memory segment = some memory') ∧
      McbChain memory' top segment ((mergeFree block rest).1 :: (mergeFree block rest).2) ∧
      ∀ s ≠ segment, SameHeader memory memory' s := by
  obtain ⟨memory', hrun, hchain, hsame⟩ := dosMcbAllocateMerge_spec htop h
  refine ⟨memory', fun fuel hfuel => ?_, hchain, hsame⟩
  rw [dosMcbFreeCoalesce_eq, h.1, h.2.2.1, hrun fuel hfuel]
  rfl

/-- `DosMcbFree` on a block of the chain returns and frees exactly that block,
with the free blocks behind it. -/
theorem dosMcbFree_spec {block : McbBlock} {rest : List McbBlock}
    (htop : top < 65536) (h : McbChain memory top segment (block :: rest)) :
    ∃ memory',
      (∀ fuel, rest.length < fuel →
        dosMcbFree fuel memory (segment + 1) = some (memory', .ok ())) ∧
      McbChain memory' top segment
        ((mergeFree ⟨dosMcbOwnerFree, block.size⟩ rest).1 ::
          (mergeFree ⟨dosMcbOwnerFree, block.size⟩ rest).2) ∧
      ∀ s ≠ segment, SameHeader memory memory' s := by
  have hend := h.block_end_le
  have hat : wordSub (segment + 1) 1 = segment := by
    rw [wordSub_of_le (by omega) (by omega), Nat.add_sub_cancel]
  have hfree : dosMcbOwnerFree < 65536 := by decide
  have hfreed := h.setOwner hfree
  obtain ⟨memory', hrun, hchain, hsame⟩ := dosMcbFreeCoalesce_spec htop hfreed
  refine ⟨memory', fun fuel hfuel => ?_, hchain, fun s hs => ?_⟩
  · rw [dosMcbFree, hat, h.1, if_neg (chainSignature_valid _),
      hrun fuel hfuel]
  · exact (setMcbOwner_sameHeader hs).trans (hsame s hs)

/-- `DosMcbResize` on a block and the blocks behind it. -/
def resizeBlocks (requested : Nat) (block : McbBlock) (rest : List McbBlock) :
    List McbBlock × Except DosMcbError Unit :=
  if requested ≤ block.size then
    if requested < block.size then
      (⟨block.owner, requested⟩ ::
        ⟨dosMcbOwnerFree, block.size - requested - 1⟩ :: rest, .ok ())
    else
      (block :: rest, .ok ())
  else
    match rest with
    | [] => (block :: rest, .error (.insufficientMemory block.size))
    | next :: behind =>
      if next.owner = dosMcbOwnerFree then
        if requested ≤ block.size + 1 + next.size then
          if requested < block.size + 1 + next.size then
            (⟨block.owner, requested⟩ ::
              ⟨dosMcbOwnerFree, block.size + 1 + next.size - requested - 1⟩ :: behind,
              .ok ())
          else
            (⟨block.owner, block.size + 1 + next.size⟩ :: behind, .ok ())
        else
          (block :: rest, .error (.insufficientMemory (block.size + 1 + next.size)))
      else
        (block :: rest, .error (.insufficientMemory block.size))

theorem resizeBlocks_ne_nil (requested : Nat) (block : McbBlock)
    (rest : List McbBlock) : (resizeBlocks requested block rest).1 ≠ [] := by
  unfold resizeBlocks
  split_ifs
  · simp
  · simp
  · split
    · simp
    · split_ifs <;> simp

theorem setMcbSignature_setMcbSize_comm (size : Nat) (signature : UInt8) :
    setMcbSignature (setMcbSize memory segment size) segment signature =
      setMcbSize (setMcbSignature memory segment signature) segment size := by
  funext a
  unfold setMcbSignature setMcbSize ByteMemory.writeWord ByteMemory.store
  have hsignature : dosMcbSignature = 0 := rfl
  have hsize : dosMcbSize = 3 := rfl
  split_ifs <;> first | rfl | lia

/-- What `dosMcbResize` does to a chain that starts with the block. -/
abbrev ResizesAs (memory : ByteMemory) (top segment requested : Nat) (block : McbBlock)
    (rest : List McbBlock) : Prop :=
    (dosMcbResize memory (segment + 1) requested).2 = (resizeBlocks requested block rest).2 ∧
    McbChain (dosMcbResize memory (segment + 1) requested).1 top segment
      (resizeBlocks requested block rest).1 ∧
    ∀ s < segment,
      SameHeader memory (dosMcbResize memory (segment + 1) requested).1 s

section

variable {requested : Nat} {block : McbBlock} {rest : List McbBlock} (htop : top < 65536)
    (h : McbChain memory top segment (block :: rest))

include htop h

theorem dosMcbResize_shrink_spec (hle : requested ≤ block.size) :
    ResizesAs memory top segment requested block rest := by
  have hend := h.block_end_le
  have hat : wordSub (segment + 1) 1 = segment := by
    rw [wordSub_of_le (by lia) (by lia), Nat.add_sub_cancel]
  unfold ResizesAs resizeBlocks
  rw [dosMcbResize, hat]
  rw [h.1, h.2.2.1, if_neg (chainSignature_valid _), if_pos hle,
    if_pos hle, word_of_lt (n := segment + 1 + requested) (by lia),
    wordSub_of_le hle (by lia)]
  by_cases hlt : requested < block.size
  · rw [if_pos (by lia), if_pos hlt, wordSub_of_le (by lia) (by lia)]
    have hcut := cut htop h.2.2.2 hlt
    rw [h.2.1] at hcut
    exact ⟨rfl, hcut, fun s hs => cutBlock_sameHeader (Or.inl hs)⟩
  · rw [if_neg (by lia), if_neg hlt]
    exact ⟨rfl, h, fun s _ => SameHeader.refl memory s⟩

theorem dosMcbResize_grow_spec (hgt : ¬ requested ≤ block.size) :
    ResizesAs memory top segment requested block rest := by
  have hend := h.block_end_le
  have hat : wordSub (segment + 1) 1 = segment := by
    rw [wordSub_of_le (by lia) (by lia), Nat.add_sub_cancel]
  unfold ResizesAs resizeBlocks
  rw [dosMcbResize, hat]
  rw [h.1, h.2.2.1, if_neg (chainSignature_valid _), if_neg hgt,
    if_neg hgt, word_of_lt (n := segment + 1 + block.size) (by lia)]
  cases rest with
  | nil =>
    rw [if_neg (fun hcase => absurd hcase.1 (by decide))]
    exact ⟨rfl, h, fun s _ => SameHeader.refl memory s⟩
  | cons next behind =>
    have hnext := h.2.2.2
    have hnextEnd := hnext.block_end_le
    dsimp only
    rw [hnext.1, hnext.2.1, hnext.2.2.1]
    by_cases howner : next.owner = dosMcbOwnerFree
    · rw [if_pos ⟨chainSignature_cons next behind, howner⟩, if_pos howner,
        word_of_lt (n := block.size + 1 + next.size) (by lia)]
      by_cases hfits : requested ≤ block.size + 1 + next.size
      · rw [if_pos hfits, if_pos hfits, wordSub_of_le hfits (by lia),
          word_of_lt (n := segment + 1 + requested) (by lia)]
        by_cases hlt : requested < block.size + 1 + next.size
        · have hbehind := hnext.2.2.2
          rw [show segment + 1 + block.size + 1 + next.size =
            segment + 1 + (block.size + 1 + next.size) by lia] at hbehind
          have hcut := cut htop hbehind hlt
          rw [h.2.1] at hcut
          rw [if_pos (by lia), if_pos hlt, wordSub_of_le (by lia) (by lia),
            setMcbSignature_setMcbSize_comm]
          exact ⟨rfl, hcut, fun s hs => cutBlock_sameHeader (Or.inl hs)⟩
        · rw [if_neg (by lia), if_neg hlt, mcbSignature_setMcbSize, hnext.1]
          refine ⟨rfl, h.absorb htop, fun s hs => ?_⟩
          have hne : s ≠ segment := by lia
          simp [SameHeader, hne]
      · rw [if_neg hfits, if_neg hfits]
        exact ⟨rfl, h, fun s _ => SameHeader.refl memory s⟩
    · rw [if_neg (fun hcase => howner hcase.2), if_neg howner]
      exact ⟨rfl, h, fun s _ => SameHeader.refl memory s⟩

end

theorem dosMcbResize_spec (requested : Nat) {block : McbBlock} {rest : List McbBlock}
    (htop : top < 65536) (h : McbChain memory top segment (block :: rest)) :
    ResizesAs memory top segment requested block rest := by
  by_cases hle : requested ≤ block.size
  · exact dosMcbResize_shrink_spec htop h hle
  · exact dosMcbResize_grow_spec htop h hle

end

end Ntvdmex.Dos.Mcb
