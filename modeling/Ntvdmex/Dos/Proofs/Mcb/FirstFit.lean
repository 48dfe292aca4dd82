import Ntvdmex.Dos.Proofs.Mcb.Heap

/-!
# First fit, and growing a block

The maximal runs of free blocks, with the size each has once its headers are merged away,
decide what AH=48h answers: the first run that is large enough, or the largest there is.
-/

namespace Ntvdmex.Dos.Mcb

open Foundation Foundation.Tiling McbBlock List

def McbBlock.isFree (block : McbBlock) : Bool := block.owner = dosMcbOwnerFree

def freeRun (rest : List McbBlock) : List McbBlock := rest.takeWhile McbBlock.isFree

def behindRun (rest : List McbBlock) : List McbBlock := rest.dropWhile McbBlock.isFree

def mergedSize (block : McbBlock) (rest : List McbBlock) : Nat :=
  block.size + extent McbBlock.span (freeRun rest)

theorem mergedSize_of_freeRun_nil {block : McbBlock} {rest : List McbBlock}
    (h : freeRun rest = []) : mergedSize block rest = block.size := by
  rw [mergedSize, h, extent_nil, Nat.add_zero]

/-- The maximal runs of free blocks: the header segment each starts at, and its size with the
headers inside it merged away. -/
def freeRuns (segment : Nat) : List McbBlock → List (Nat × Nat)
  | [] => []
  | block :: rest =>
    if block.isFree then
      (segment, mergedSize block rest) ::
        freeRuns (segment + 1 + mergedSize block rest) (behindRun rest)
    else freeRuns (segment + 1 + block.size) rest
  termination_by blocks => blocks.length
  decreasing_by
    · have hle := (List.dropWhile_sublist (l := rest) McbBlock.isFree).length_le
      simp only [behindRun, List.length_cons]
      omega
    · simp

def runSizes (segment : Nat) (blocks : List McbBlock) : List Nat :=
  (freeRuns segment blocks).map Prod.snd

@[simp]
theorem freeRuns_nil (segment : Nat) : freeRuns segment [] = [] := by
  rw [freeRuns]

variable {segment : Nat} {blocks : List McbBlock}

theorem freeRuns_free {block : McbBlock} {rest : List McbBlock}
    (hfree : block.owner = dosMcbOwnerFree) :
    freeRuns segment (block :: rest) = (segment, mergedSize block rest) ::
      freeRuns (segment + 1 + mergedSize block rest) (behindRun rest) := by
  rw [freeRuns, if_pos (by simp [isFree, hfree])]

theorem freeRuns_owned {block : McbBlock} {rest : List McbBlock}
    (howned : block.owner ≠ dosMcbOwnerFree) :
    freeRuns segment (block :: rest) = freeRuns (segment + 1 + block.size) rest := by
  rw [freeRuns, if_neg (by simp [isFree, howned])]

theorem freeRuns_ne_nil :
    freeRuns segment blocks ≠ [] ↔ ∃ block ∈ blocks, block.owner = dosMcbOwnerFree := by
  induction blocks generalizing segment with
  | nil => simp
  | cons block rest ih =>
    by_cases hfree : block.owner = dosMcbOwnerFree
    · rw [freeRuns_free hfree]
      exact iff_of_true (cons_ne_nil _ _) ⟨block, mem_cons_self, hfree⟩
    · rw [freeRuns_owned hfree, ih]
      simp [hfree]

/-! ## Merging walks over a run -/

theorem mergeFree_eq (block : McbBlock) (rest : List McbBlock) :
    mergeFree block rest = (⟨block.owner, mergedSize block rest⟩, behindRun rest) := by
  induction rest generalizing block with
  | nil => rfl
  | cons next rest ih =>
    rw [mergeFree]
    by_cases hfree : next.owner = dosMcbOwnerFree
    · have hnext : next.isFree = true := by simp [isFree, hfree]
      rw [if_pos hfree, ih]
      unfold mergedSize freeRun behindRun
      rw [takeWhile_cons_of_pos hnext, dropWhile_cons_of_pos hnext, extent_cons,
        McbBlock.span]
      simp only [Prod.mk.injEq, mk.injEq, true_and, and_true]
      omega
    · have hnext : ¬next.isFree = true := by simp [isFree, hfree]
      rw [if_neg hfree]
      unfold mergedSize freeRun behindRun
      rw [takeWhile_cons_of_neg hnext, dropWhile_cons_of_neg hnext, extent_nil,
        Nat.add_zero]

def fittingRun (requested segment : Nat) (blocks : List McbBlock) : Option (Nat × Nat) :=
  (freeRuns segment blocks).find? fun run => requested ≤ run.2

theorem allocateBlocks_answer (requested segment biggest : Nat) (blocks : List McbBlock) :
    (allocateBlocks requested segment biggest blocks).2 =
      match fittingRun requested segment blocks with
      | some run => .ok (run.1 + 1)
      | none => .error (.insufficientMemory ((runSizes segment blocks).foldl max biggest)) := by
  unfold fittingRun runSizes
  induction segment, biggest, blocks using allocateBlocks.induct requested with
  | case1 => rw [allocateBlocks]; simp
  | case2 segment biggest block rest howner hfits =>
    rw [mergeFree_eq] at hfits
    rw [allocateBlocks, if_pos howner, mergeFree_eq, if_pos hfits, freeRuns_free howner,
      find?_cons_of_pos (by simpa using hfits)]
  | case3 segment biggest block rest howner hfits ih =>
    rw [mergeFree_eq] at hfits ih
    rw [allocateBlocks, if_pos howner, mergeFree_eq, if_neg hfits, freeRuns_free howner,
      find?_cons_of_neg (by simpa using hfits), map_cons, foldl_cons]
    exact ih
  | case4 segment biggest block rest howner ih =>
    rw [allocateBlocks, if_neg howner, freeRuns_owned howner]
    exact ih

theorem behindRun_owned (rest : List McbBlock) :
    behindRun rest = [] ∨ ∃ owned behind, behindRun rest = owned :: behind ∧
      owned.owner ≠ dosMcbOwnerFree := by
  induction rest with
  | nil => exact .inl rfl
  | cons next rest ih =>
    unfold behindRun
    by_cases hfree : next.isFree = true
    · rw [dropWhile_cons_of_pos hfree]
      exact ih
    · rw [dropWhile_cons_of_neg hfree]
      exact .inr ⟨next, rest, rfl, by simpa [isFree] using hfree⟩

def StartsOwned (blocks : List McbBlock) : Prop :=
  blocks = [] ∨ ∃ owned behind, blocks = owned :: behind ∧ owned.owner ≠ dosMcbOwnerFree

theorem StartsOwned.freeRun (h : StartsOwned blocks) :
    freeRun blocks = [] ∧ behindRun blocks = blocks := by
  rcases h with rfl | ⟨owned, behind, rfl, howned⟩
  · exact ⟨rfl, rfl⟩
  · have hfree : ¬owned.isFree = true := by simp [isFree, howned]
    exact ⟨takeWhile_cons_of_neg hfree, dropWhile_cons_of_neg hfree⟩

theorem StartsOwned.allocateBlocks (h : StartsOwned blocks) (requested segment biggest : Nat) :
    StartsOwned (allocateBlocks requested segment biggest blocks).1 := by
  rcases h with rfl | ⟨owned, behind, rfl, howned⟩
  · rw [Mcb.allocateBlocks]
    exact .inl rfl
  · rw [Mcb.allocateBlocks, if_neg howned]
    exact .inr ⟨owned, _, rfl, howned⟩

theorem freeRuns_allocateBlocks {requested segment biggest : Nat} {blocks : List McbBlock}
    (hnone : fittingRun requested segment blocks = none) :
    freeRuns segment (allocateBlocks requested segment biggest blocks).1 =
      freeRuns segment blocks := by
  unfold fittingRun at hnone
  induction segment, biggest, blocks using allocateBlocks.induct requested with
  | case1 => rw [allocateBlocks]
  | case2 segment biggest block rest howner hfits =>
    rw [mergeFree_eq] at hfits
    rw [freeRuns_free howner, find?_cons_of_pos (by simpa using hfits)] at hnone
    cases hnone
  | case3 segment biggest block rest howner hfits ih =>
    rw [mergeFree_eq] at hfits ih
    rw [freeRuns_free howner, find?_cons_of_neg (by simpa using hfits)] at hnone
    have hrest := ih hnone
    have hstarts : StartsOwned (behindRun rest) := behindRun_owned rest
    have hafter := (hstarts.allocateBlocks requested (segment + 1 + mergedSize block rest)
      (max biggest (mergedSize block rest))).freeRun
    rw [allocateBlocks, if_pos howner, mergeFree_eq, if_neg hfits, freeRuns_free howner]
    dsimp only at hrest ⊢
    have hmerged : (⟨block.owner, mergedSize block rest⟩ : McbBlock).owner =
        dosMcbOwnerFree := howner
    rw [freeRuns_free hmerged, mergedSize_of_freeRun_nil hafter.1, hafter.2, hrest]
  | case4 segment biggest block rest howner ih =>
    rw [freeRuns_owned howner] at hnone
    rw [allocateBlocks, if_neg howner, freeRuns_owned howner, freeRuns_owned howner]
    exact ih hnone

theorem le_foldl_max (sizes : List Nat) (biggest : Nat) :
    biggest ≤ sizes.foldl max biggest ∧ ∀ size ∈ sizes, size ≤ sizes.foldl max biggest := by
  induction sizes generalizing biggest with
  | nil => simp
  | cons size sizes ih =>
    obtain ⟨hbiggest, hsizes⟩ := ih (max biggest size)
    rw [foldl_cons]
    refine ⟨(le_max_left _ _).trans hbiggest, fun other hother => ?_⟩
    rcases mem_cons.mp hother with rfl | hother
    · exact (le_max_right _ _).trans hbiggest
    · exact hsizes other hother

theorem foldl_max_mem (sizes : List Nat) (biggest : Nat) :
    sizes.foldl max biggest = biggest ∨ sizes.foldl max biggest ∈ sizes := by
  induction sizes generalizing biggest with
  | nil => exact .inl rfl
  | cons size sizes ih =>
    rw [foldl_cons]
    rcases ih (max biggest size) with h | h
    · rw [h]
      rcases max_choice biggest size with hmax | hmax
      · exact .inl hmax
      · rw [hmax]
        exact .inr mem_cons_self
    · exact .inr (mem_cons_of_mem _ h)

/-- The largest run a failing call reports: nothing when no block is free. -/
structure IsLargestRun (runs : List (Nat × Nat)) (largest : Nat) : Prop where
  upper : ∀ run ∈ runs, run.2 ≤ largest
  none : runs = [] → largest = 0
  attained : runs ≠ [] → ∃ run ∈ runs, run.2 = largest

theorem isLargestRun_foldl (runs : List (Nat × Nat)) :
    IsLargestRun runs ((runs.map Prod.snd).foldl max 0) where
  upper run hrun := (le_foldl_max _ 0).2 _ (mem_map_of_mem hrun)
  none h := by rw [h]; rfl
  attained h := by
    rcases foldl_max_mem (runs.map Prod.snd) 0 with hzero | hmem
    · obtain ⟨run, hrun⟩ := exists_mem_of_ne_nil runs h
      have hle := (le_foldl_max (runs.map Prod.snd) 0).2 _ (mem_map_of_mem hrun)
      exact ⟨run, hrun, by omega⟩
    · obtain ⟨run, hrun, hsize⟩ := mem_map.mp hmem
      exact ⟨run, hrun, hsize⟩

/-! ## The call -/

/-- What AH=48h answered on a chain of `blocks`, and the chain of `after` it left. -/
structure AllocatesFirstFit (firstMcb requested : Nat) (blocks after : List McbBlock)
    (answer : Except DosMcbError Nat) : Prop where
  succeeds : (∃ allocated, answer = .ok allocated) ↔
    ∃ run ∈ freeRuns firstMcb blocks, requested ≤ run.2
  first : ∀ allocated, answer = .ok allocated → ∃ earlier run later,
    freeRuns firstMcb blocks = earlier ++ run :: later ∧ requested ≤ run.2 ∧
    (∀ other ∈ earlier, other.2 < requested) ∧ allocated = run.1 + 1
  owned : ∀ allocated, answer = .ok allocated → ∃ before behind,
    ownedBlocks firstMcb blocks = before ++ behind ∧
    ownedBlocks firstMcb after =
      before ++ (allocated - 1, ⟨dosPspSeg, requested⟩) :: behind
  fails : ∀ error, answer = .error error →
    (∃ largest, error = .insufficientMemory largest ∧
      IsLargestRun (freeRuns firstMcb blocks) largest) ∧
    ownedBlocks firstMcb after = ownedBlocks firstMcb blocks

theorem allocateBlocks_firstFit (requested firstMcb : Nat) (blocks : List McbBlock) :
    AllocatesFirstFit firstMcb requested blocks
      (allocateBlocks requested firstMcb 0 blocks).1
      (allocateBlocks requested firstMcb 0 blocks).2 := by
  have hanswer := allocateBlocks_answer requested firstMcb 0 blocks
  obtain ⟨before, behind, hsplit, hafter⟩ :=
    ownedBlocks_allocateBlocks requested firstMcb 0 blocks
  cases hfit : fittingRun requested firstMcb blocks with
  | some run =>
    rw [hfit] at hanswer
    rw [hanswer] at hafter ⊢
    obtain ⟨hfits, earlier, later, hruns, hearlier⟩ :=
      find?_eq_some_iff_append.mp hfit
    refine ⟨iff_of_true ⟨_, rfl⟩ ⟨run, by rw [hruns]; simp, by simpa using hfits⟩,
      ?_, ?_, ?_⟩
    · rintro allocated hallocated
      refine ⟨earlier, run, later, hruns, by simpa using hfits, ?_,
        (Except.ok.inj hallocated).symm⟩
      intro other hother
      simpa using hearlier other hother
    · rintro allocated hallocated
      cases hallocated
      exact ⟨before, behind, hsplit, hafter⟩
    · intro error herror
      cases herror
  | none =>
    rw [hfit] at hanswer
    rw [hanswer] at hafter ⊢
    have hnone := find?_eq_none.mp hfit
    refine ⟨iff_of_false (fun ⟨_, h⟩ => by cases h) ?_, ?_, ?_, ?_⟩
    · rintro ⟨run, hrun, hfits⟩
      exact hnone run hrun (by simpa using hfits)
    · intro allocated hallocated
      cases hallocated
    · intro allocated hallocated
      cases hallocated
    · intro error herror
      cases herror
      exact ⟨⟨_, rfl, isLargestRun_foldl _⟩, hafter.trans hsplit.symm⟩

/-- AH=48h on any chain the validator accepts is exactly first fit over the merged free runs,
and after a failure the size it reported can be had. -/
theorem allocate_is_first_fit (memory : ByteMemory) (firstMcb top requested : UInt16)
    (hcheck : dosMcbCheckChain memory firstMcb.toNat top.toNat = .ok) :
    ∃ blocks memory' answer after,
      McbChain memory top.toNat firstMcb.toNat blocks ∧
      Returns (fun fuel => dosMcbAllocate fuel memory firstMcb.toNat requested.toNat)
        (memory', answer) ∧
      McbChain memory' top.toNat firstMcb.toNat after ∧
      AllocatesFirstFit firstMcb.toNat requested.toNat blocks after answer ∧
      ∀ largest, answer = .error (.insufficientMemory largest) →
        (∃ block ∈ blocks, block.owner = dosMcbOwnerFree) →
        ∃ memory'' allocated,
          Returns (fun fuel => dosMcbAllocate fuel memory' firstMcb.toNat largest)
            (memory'', .ok allocated) := by
  have htop : top.toNat < 65536 := top.toNat_lt
  obtain ⟨blocks, hne, hchain⟩ := exists_chain_of_dosMcbCheckChainWalk htop hcheck
  obtain ⟨memory', hwalk, hafter, hafterNe, -⟩ :=
    dosMcbAllocateWalk_spec requested.toNat 0 htop hne hchain
  refine ⟨blocks, memory', _, _, hchain, ⟨_, fun fuel hfuel => hwalk fuel hfuel⟩, hafter,
    allocateBlocks_firstFit _ _ _, fun largest hanswer hfree => ?_⟩
  obtain ⟨memory'', hagain, -⟩ := dosMcbAllocateWalk_spec largest 0 htop hafterNe hafter
  have hfirst := allocateBlocks_firstFit requested.toNat firstMcb.toNat blocks
  obtain ⟨⟨reported, hreported, hlargest⟩, -⟩ := hfirst.fails _ hanswer
  cases hreported
  have hnone : fittingRun requested.toNat firstMcb.toNat blocks = none := by
    have hresult := allocateBlocks_answer requested.toNat firstMcb.toNat 0 blocks
    cases hfit : fittingRun requested.toNat firstMcb.toNat blocks with
    | none => rfl
    | some run =>
      rw [hfit, hanswer] at hresult
      cases hresult
  obtain ⟨run, hrun, hsize⟩ := hlargest.attained (freeRuns_ne_nil.mpr hfree)
  have hsame := @freeRuns_allocateBlocks _ _ 0 _ hnone
  rw [← hsame] at hrun
  obtain ⟨allocated, hallocated⟩ :=
    (allocateBlocks_firstFit largest firstMcb.toNat
      (allocateBlocks requested.toNat firstMcb.toNat 0 blocks).1).succeeds.mpr
        ⟨run, hrun, hsize.ge⟩
  rw [hallocated] at hagain
  exact ⟨memory'', allocated, _, fun fuel hfuel => hagain fuel hfuel⟩

theorem allocate_is_first_fit_shrunk :
    ∃ answer memory', Returns (fun fuel => dosMcbAllocate fuel
      (dosMcbInitializeWithTop (fun _ => 0) dosMemTop) 0x7E 0x10) (memory', answer) := by
  obtain ⟨-, memory', answer, -, -, hreturns, -⟩ := allocate_is_first_fit
    (dosMcbInitializeWithTop (fun _ => 0) dosMemTop) 0x7E 0x9FC0 0x10 (by decide)
  exact ⟨answer, memory', hreturns⟩

/-!
## Growing a block

AH=4Ah grows a block into the one free block that follows it.  Shrinks leave free neighbours
that nothing merges, so the growth is exact only while the run behind the block is one block,
or the request stays within the first of them.
-/

/-- How far the source grows a block: into the first block of the run. -/
def reach (block : McbBlock) (rest : List McbBlock) : Nat :=
  block.size + extent McbBlock.span ((freeRun rest).take 1)

theorem reach_le_mergedSize (block : McbBlock) (rest : List McbBlock) :
    reach block rest ≤ mergedSize block rest := by
  unfold reach mergedSize
  cases freeRun rest with
  | nil => exact le_refl _
  | cons next run =>
    rw [take_succ_cons, take_zero, extent_cons, extent_cons, extent_nil]
    omega

theorem reach_eq_mergedSize (block : McbBlock) (rest : List McbBlock) :
    reach block rest = mergedSize block rest ↔ (freeRun rest).length ≤ 1 := by
  unfold reach mergedSize
  rcases freeRun rest with _ | ⟨next, _ | ⟨other, run⟩⟩
  · simp
  · simp
  · rw [take_succ_cons, take_zero, extent_cons, extent_cons, extent_cons, extent_nil]
    refine iff_of_false ?_ (by simp)
    have hspan : other.span = 1 + other.size := rfl
    omega

variable (requested : Nat)

theorem resizeBlocks_answer (block : McbBlock) (rest : List McbBlock) :
    (resizeBlocks requested block rest).2 =
      if requested ≤ reach block rest then .ok ()
      else .error (.insufficientMemory (reach block rest)) := by
  unfold resizeBlocks reach freeRun
  by_cases hle : requested ≤ block.size
  · rw [if_pos hle, if_pos (Nat.le_add_right_of_le hle)]
    split_ifs <;> rfl
  · rw [if_neg hle]
    cases rest with
    | nil =>
      dsimp only
      rw [takeWhile_nil, take_nil, extent_nil, Nat.add_zero, if_neg hle]
    | cons next behind =>
      dsimp only
      by_cases hfree : next.owner = dosMcbOwnerFree
      · have hnext : next.isFree = true := by simp [isFree, hfree]
        rw [if_pos hfree, takeWhile_cons_of_pos hnext, take_succ_cons,
          take_zero, extent_cons, extent_nil, McbBlock.span,
          show block.size + (1 + next.size + 0) = block.size + 1 + next.size by lia]
        split_ifs <;> rfl
      · have hnext : ¬next.isFree = true := by simp [isFree, hfree]
        rw [if_neg hfree, takeWhile_cons_of_neg hnext, take_nil, extent_nil,
          Nat.add_zero, if_neg hle]

theorem resizeBlocks_keeps (block : McbBlock) (rest : List McbBlock) :
    ∃ block' rest', (resizeBlocks requested block rest).1 = block' :: rest' ∧
      block'.owner = block.owner ∧ mergedSize block' rest' = mergedSize block rest := by
  have htail : ∀ size, (⟨dosMcbOwnerFree, size⟩ : McbBlock).isFree = true := fun _ => rfl
  unfold resizeBlocks
  by_cases hle : requested ≤ block.size
  · rw [if_pos hle]
    by_cases hlt : requested < block.size
    · rw [if_pos hlt]
      refine ⟨_, _, rfl, rfl, ?_⟩
      unfold mergedSize freeRun
      rw [takeWhile_cons_of_pos (htail _), extent_cons, McbBlock.span]
      lia
    · rw [if_neg hlt]
      exact ⟨_, _, rfl, rfl, rfl⟩
  · rw [if_neg hle]
    cases rest with
    | nil => exact ⟨_, _, rfl, rfl, rfl⟩
    | cons next behind =>
      dsimp only
      by_cases hfree : next.owner = dosMcbOwnerFree
      · have hnext : next.isFree = true := by simp [isFree, hfree]
        have hwhole : mergedSize block (next :: behind) =
            block.size + (1 + next.size) + extent McbBlock.span (freeRun behind) := by
          unfold mergedSize freeRun
          rw [takeWhile_cons_of_pos hnext, extent_cons, McbBlock.span, ← Nat.add_assoc]
        rw [if_pos hfree, hwhole]
        by_cases hfits : requested ≤ block.size + 1 + next.size
        · rw [if_pos hfits]
          by_cases hlt : requested < block.size + 1 + next.size
          · rw [if_pos hlt]
            refine ⟨_, _, rfl, rfl, ?_⟩
            unfold mergedSize freeRun
            rw [takeWhile_cons_of_pos (htail _), extent_cons, McbBlock.span]
            lia
          · rw [if_neg hlt]
            refine ⟨_, _, rfl, rfl, ?_⟩
            unfold mergedSize
            lia
        · rw [if_neg hfits]
          exact ⟨_, _, rfl, rfl, hwhole⟩
      · rw [if_neg hfree]
        exact ⟨_, _, rfl, rfl, rfl⟩

/-! ## The call -/

/-- What a growth that used all the free memory behind the block would answer. -/
structure ResizesFully (available requested : Nat) (answer : Except DosMcbError Unit) : Prop where
  succeeds : answer = .ok () ↔ requested ≤ available
  reports : ∀ error, answer = .error error → error = .insufficientMemory available

theorem resizesFully_iff (block : McbBlock) (rest : List McbBlock) :
    ResizesFully (mergedSize block rest) requested (resizeBlocks requested block rest).2 ↔
      (freeRun rest).length ≤ 1 ∨ requested ≤ reach block rest := by
  have hle := reach_le_mergedSize block rest
  rw [resizeBlocks_answer]
  by_cases hfits : requested ≤ reach block rest
  · rw [if_pos hfits]
    refine iff_of_true ⟨iff_of_true rfl (hfits.trans hle), fun error h => ?_⟩ (.inr hfits)
    cases h
  · rw [if_neg hfits, ← reach_eq_mergedSize block rest]
    constructor
    · intro h
      exact .inl (DosMcbError.insufficientMemory.inj (h.reports _ rfl))
    · rintro (heq | hreach)
      · rw [heq]
        rw [heq] at hfits
        refine ⟨iff_of_false (fun h => by cases h) hfits, fun error h => ?_⟩
        exact (Except.error.inj h).symm
      · exact absurd hreach hfits

section Growth

variable {memory : ByteMemory} {top firstMcb : Nat} {pre rest : List McbBlock} {block : McbBlock}

theorem dosMcbResize_on_chain (requested : Nat) (htop : top < 65536)
    (h : McbChain memory top firstMcb (pre ++ block :: rest)) :
    (dosMcbResize memory (firstMcb + extent McbBlock.span pre + 1) requested).2 =
        (resizeBlocks requested block rest).2 ∧
      McbChain (dosMcbResize memory (firstMcb + extent McbBlock.span pre + 1) requested).1 top
        firstMcb (pre ++ (resizeBlocks requested block rest).1) := by
  obtain ⟨hanswer, hchain, hsame⟩ := dosMcbResize_spec requested htop h.suffix
  exact ⟨hanswer, h.replace_suffix pre (cons_ne_nil _ _) (resizeBlocks_ne_nil _ _ _) hsame
    hchain⟩

/-- One AH=4Ah on the block whose data is at `blockSegment`. -/
def ResizeStep (blockSegment : Nat) (memory : ByteMemory) (requested : UInt16)
    (memory' : ByteMemory) : Prop :=
  (dosMcbResize memory blockSegment requested.toNat).1 = memory'

theorem resizeRun_chain {start : ByteMemory} {requests : List UInt16} (htop : top < 65536)
    (h : McbChain start top firstMcb (pre ++ block :: rest))
    (hrun : Run (ResizeStep (firstMcb + extent McbBlock.span pre + 1)) start requests memory) :
    ∃ block' rest', McbChain memory top firstMcb (pre ++ block' :: rest') ∧
      block'.owner = block.owner ∧ mergedSize block' rest' = mergedSize block rest := by
  refine hrun.invariant (fun reached => ∃ block' rest',
    McbChain reached top firstMcb (pre ++ block' :: rest') ∧ block'.owner = block.owner ∧
      mergedSize block' rest' = mergedSize block rest) ?_ ⟨block, rest, h, rfl, rfl⟩
  rintro before requested after ⟨now, behind, hchain, howner, hsize⟩ rfl
  obtain ⟨next, others, hresized, hnextOwner, hnextSize⟩ :=
    resizeBlocks_keeps requested.toNat now behind
  have hafter := (dosMcbResize_on_chain requested.toNat htop hchain).2
  rw [hresized] at hafter
  exact ⟨next, others, hafter, hnextOwner.trans howner, hnextSize.trans hsize⟩

end Growth

/-- AH=4Ah on an owned block of a chain the validator accepts answers as one that uses the
whole free run behind the block exactly when that run is at most one block or the request stays
within its first block; and after any number of resizes of the block alone, growing it back to
its size succeeds exactly under the same condition on the run that they left. -/
theorem resize_uses_free_run_iff (memory : ByteMemory) (firstMcb top : UInt16)
    (hcheck : dosMcbCheckChain memory firstMcb.toNat top.toNat = .ok) :
    ∃ blocks, McbChain memory top.toNat firstMcb.toNat blocks ∧
      ∀ pre block rest, blocks = pre ++ block :: rest → block.owner ≠ dosMcbOwnerFree →
        (∀ requested : UInt16,
          ResizesFully (mergedSize block rest) requested.toNat
              (dosMcbResize memory (firstMcb.toNat + extent McbBlock.span pre + 1)
                requested.toNat).2 ↔
            (freeRun rest).length ≤ 1 ∨ requested.toNat ≤ reach block rest) ∧
        ∀ requests memory',
          Run (ResizeStep (firstMcb.toNat + extent McbBlock.span pre + 1)) memory requests
            memory' →
          ∃ block' rest', McbChain memory' top.toNat firstMcb.toNat (pre ++ block' :: rest') ∧
            ((dosMcbResize memory' (firstMcb.toNat + extent McbBlock.span pre + 1)
                block.size).2 = .ok () ↔
              (freeRun rest').length ≤ 1 ∨ block.size ≤ reach block' rest') := by
  have htop : top.toNat < 65536 := top.toNat_lt
  obtain ⟨blocks, -, hchain⟩ := exists_chain_of_dosMcbCheckChainWalk htop hcheck
  refine ⟨blocks, hchain, ?_⟩
  rintro pre block rest rfl -
  refine ⟨fun requested => ?_, fun requests memory' hrun => ?_⟩
  · rw [(dosMcbResize_on_chain requested.toNat htop hchain).1]
    exact resizesFully_iff _ _ _
  · obtain ⟨block', rest', hreached, -, hsize⟩ := resizeRun_chain htop hchain hrun
    refine ⟨block', rest', hreached, ?_⟩
    have hfits : block.size ≤ mergedSize block' rest' := by
      rw [hsize]
      exact Nat.le_add_right _ _
    rw [(dosMcbResize_on_chain block.size htop hreached).1, ← resizesFully_iff]
    constructor
    · intro hok
      refine ⟨iff_of_true hok hfits, fun error herror => ?_⟩
      rw [hok] at herror
      cases herror
    · exact fun h => h.succeeds.mpr hfits

def programHeap : ByteMemory := dosMcbInitializeWithTop (fun _ => 0) dosMemTop

theorem resize_uses_free_run_iff_program :
    ∃ blocks, McbChain programHeap 0x9FC0 0x7E blocks := by
  obtain ⟨blocks, hchain, -⟩ :=
    resize_uses_free_run_iff programHeap 0x7E 0x9FC0 (by decide)
  exact ⟨blocks, hchain⟩

theorem resize_leaves_free_run :
    let shrunk := (dosMcbResize programHeap 0x100 0x20).1
    let again := (dosMcbResize shrunk 0x100 0x10).1
    dosMcbCheckChain again dosFirstMcb dosMemTop = .ok ∧
      (dosMcbResize again 0x100 0x9EC0).2 = .error (.insufficientMemory 0x20) := by
  refine ⟨by decide, by rfl⟩

end Ntvdmex.Dos.Mcb
