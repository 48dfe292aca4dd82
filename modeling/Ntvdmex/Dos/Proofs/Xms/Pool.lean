import Ntvdmex.Dos.Xms
import Ntvdmex.Foundation.Runs

/-!
# The XMS quota over whole runs

The quota check adds in 32 bits, so it is right exactly while the sum it checks
fits in 32 bits.  A call avoids the wrap when it is refused or its sum fits; in
a run of such calls the kilobytes in use are the sum over the handles, and no
call touches a locked block.
-/

namespace Ntvdmex.Dos.Xms

open Foundation Function List DosXmsState

/-! ## The invariant of the pool -/

/-- The kilobytes a slot holds. -/
def DosXmsHandle.heldKb (entry : DosXmsHandle) : Nat :=
  if entry.inUse then entry.sizeKb.toNat else 0

/-- Two buffers share no byte. -/
def DisjointBlocks (left right : DosXmsHandle) : Prop :=
  left.memory ≠ 0 → right.memory ≠ 0 →
    left.memory + blockBytes left.sizeKb ≤ right.memory ∨
      right.memory + blockBytes right.sizeKb ≤ left.memory

theorem DisjointBlocks.symm (left right : DosXmsHandle) (h : DisjointBlocks left right) :
    DisjointBlocks right left := by
  intro hright hleft
  exact (h hleft hright).symm

structure SlotInvariant (entry : DosXmsHandle) : Prop where
  unused : entry.inUse = false →
    entry.lockCount = 0 ∧ entry.sizeKb = 0 ∧ entry.memory = 0
  backed : entry.memory = 0 ↔ entry.sizeKb = 0

structure PoolInvariant (pool : DosXmsState) : Prop where
  used_eq : tableSum DosXmsHandle.heldKb pool.handles = pool.usedKb.toNat
  used_le : pool.usedKb ≤ pool.totalKb
  slots : ∀ slot, SlotInvariant (pool.handles slot)
  disjoint : ∀ left right, left ≠ right →
    DisjointBlocks (pool.handles left) (pool.handles right)

theorem unusedHandle_slotInvariant : SlotInvariant unusedHandle :=
  ⟨fun _ => ⟨rfl, rfl, rfl⟩, by simp [unusedHandle]⟩

theorem unusedHandle_disjoint (entry : DosXmsHandle) : DisjointBlocks unusedHandle entry :=
  fun h => absurd rfl h

theorem dosXmsInitialize_invariant (totalKb : UInt32) (hasAllocate hasFree : Bool) :
    PoolInvariant (dosXmsInitialize totalKb hasAllocate hasFree) where
  used_eq := tableSum_of_zero fun _ => rfl
  used_le := UInt32.le_iff_toNat_le.2 (Nat.zero_le _)
  slots := fun _ => unusedHandle_slotInvariant
  disjoint := fun _ _ _ => unusedHandle_disjoint _

namespace PoolInvariant

variable {pool : DosXmsState} {slot : Fin dosXmsMaxHandles} {entry : DosXmsHandle}
  {usedKb : UInt32}

variable (h : PoolInvariant pool)

include h

/-- Rewriting one slot and the used count keeps the invariant when the count moves
with the slot and the slot's new buffer is its own. -/
theorem update
    (hused : usedKb.toNat + (pool.handles slot).heldKb = pool.usedKb.toNat + entry.heldKb)
    (hle : usedKb ≤ pool.totalKb) (hslot : SlotInvariant entry)
    (hdisjoint : ∀ other, other ≠ slot → DisjointBlocks entry (pool.handles other)) : PoolInvariant
      { pool with handles := Function.update pool.handles slot entry, usedKb } where
  used_eq := by
    have hsum := tableSum_update DosXmsHandle.heldKb pool.handles slot entry
    have hbefore := h.used_eq
    lia
  used_le := hle
  slots := forall_update h.slots hslot
  disjoint := pairwise_update DisjointBlocks.symm h.disjoint hdisjoint

theorem heldKb_le (slot : Fin dosXmsMaxHandles) :
    (pool.handles slot).heldKb ≤ pool.usedKb.toNat := by
  rw [← h.used_eq]
  exact size_le_tableSum _ _ _

theorem heldKb_eq (slot : Fin dosXmsMaxHandles) :
    (pool.handles slot).heldKb = (pool.handles slot).sizeKb.toNat := by
  unfold DosXmsHandle.heldKb
  by_cases huse : (pool.handles slot).inUse
  · rw [if_pos huse]
  · rw [if_neg huse, ((h.slots slot).unused (by simpa using huse)).2.1]
    rfl

theorem memory_ne {left right : Fin dosXmsMaxHandles} (hne : left ≠ right)
    (hleft : (pool.handles left).memory ≠ 0) :
    (pool.handles left).memory ≠ (pool.handles right).memory := by
  intro heq
  have hright : (pool.handles right).memory ≠ 0 := by rwa [← heq]
  have hsizeLeft : (pool.handles left).sizeKb ≠ 0 := by
    rwa [Ne, ← (h.slots left).backed]
  have hsizeRight : (pool.handles right).sizeKb ≠ 0 := by
    rwa [Ne, ← (h.slots right).backed]
  have hposLeft : 0 < (pool.handles left).sizeKb.toNat :=
    Nat.pos_of_ne_zero fun hzero => hsizeLeft (UInt32.toNat_inj.1 hzero)
  have hposRight : 0 < (pool.handles right).sizeKb.toNat :=
    Nat.pos_of_ne_zero fun hzero => hsizeRight (UInt32.toNat_inj.1 hzero)
  have hdisjoint := h.disjoint left right hne hleft hright
  unfold blockBytes at hdisjoint
  omega

/-- Rewriting a slot that is not locked, and giving back no buffer but its own,
leaves every locked block alone. -/
theorem locked_update (hslot : (pool.handles slot).lockCount = 0) {freed : List (Nat × UInt32)}
    (hfreed : ∀ block ∈ freed, block.1 = (pool.handles slot).memory ∧ block.1 ≠ 0)
    (other : Fin dosXmsMaxHandles) (hlocked : (pool.handles other).lockCount ≠ 0) :
    (Function.update pool.handles slot entry other).inUse = (pool.handles other).inUse ∧
    (Function.update pool.handles slot entry other).sizeKb = (pool.handles other).sizeKb ∧
    (Function.update pool.handles slot entry other).memory = (pool.handles other).memory ∧
    ∀ block ∈ freed, block.1 ≠ (pool.handles other).memory := by
  have hne : other ≠ slot := by
    rintro rfl
    exact hlocked hslot
  rw [update_of_ne hne]
  refine ⟨rfl, rfl, rfl, fun block hmem => ?_⟩
  obtain ⟨heq, hnonzero⟩ := hfreed block hmem
  rw [heq] at hnonzero ⊢
  exact h.memory_ne hne.symm hnonzero

omit h

theorem lockCount_update (lockCount : UInt8) (other : Fin dosXmsMaxHandles) :
    (Function.update pool.handles slot
        { pool.handles slot with lockCount } other).inUse =
      (pool.handles other).inUse ∧
    (Function.update pool.handles slot
        { pool.handles slot with lockCount } other).sizeKb =
      (pool.handles other).sizeKb ∧
    (Function.update pool.handles slot
        { pool.handles slot with lockCount } other).memory =
      (pool.handles other).memory := by
  by_cases hother : other = slot
  · subst hother
    rw [update_self]
    exact ⟨rfl, rfl, rfl⟩
  · rw [update_of_ne hother]
    exact ⟨rfl, rfl, rfl⟩

end PoolInvariant

theorem mem_freeHook {pool : DosXmsState} {entry : DosXmsHandle} {block : Nat × UInt32}
    (h : block ∈ pool.freeHook entry) : block.1 = entry.memory ∧ block.1 ≠ 0 := by
  unfold freeHook at h
  by_cases hhook : entry.memory ≠ 0 ∧ pool.hasFree
  · rw [if_pos hhook, mem_singleton] at h
    rw [h]
    exact ⟨rfl, hhook.1⟩
  · rw [if_neg hhook] at h
    exact absurd h not_mem_nil

/-! ## The calls -/

inductive XmsCall
  | allocate (kilobytes : UInt32) (buffer : Nat)
  | free (handle : UInt16)
  | reallocate (handle : UInt16) (newKb : UInt32) (buffer : Nat)
  | lock (handle : UInt16)
  | unlock (handle : UInt16)

def XmsOutcome.withoutResult {α : Type} (outcome : XmsOutcome α) : XmsOutcome Unit :=
  ⟨outcome.machine, outcome.freed, outcome.result.map fun _ => ()⟩

def XmsCall.outcome (machine : XmsMachine) : XmsCall → XmsOutcome Unit
  | .allocate kilobytes buffer => (dosXmsAllocate machine kilobytes buffer).withoutResult
  | .free handle => dosXmsFree machine handle
  | .reallocate handle newKb buffer => dosXmsReallocate machine handle newKb buffer
  | .lock handle => (dosXmsLock machine handle).withoutResult
  | .unlock handle => dosXmsUnlock machine handle

def IsFreshBuffer (pool : DosXmsState) (buffer : Nat) (kilobytes : UInt32) : Prop :=
  ∀ slot, (pool.handles slot).memory ≠ 0 →
    buffer + blockBytes kilobytes ≤ (pool.handles slot).memory ∨
      (pool.handles slot).memory + blockBytes (pool.handles slot).sizeKb ≤ buffer

/-- What an allocator promises: a buffer it hands out is not part of one in use. -/
def XmsCall.HookIsFresh (pool : DosXmsState) : XmsCall → Prop
  | .allocate kilobytes buffer => IsFreshBuffer pool buffer kilobytes
  | .reallocate _ newKb buffer => IsFreshBuffer pool buffer newKb
  | _ => True

/-- The call is refused before its sum is added to the used count, or the sum it
checks against the quota, and for a reallocation the byte count it copies, fit in
32 bits. -/
def XmsCall.AvoidsWrap (pool : DosXmsState) : XmsCall → Prop
  | .allocate kilobytes buffer =>
    pool.totalKb < pool.usedKb + kilobytes ∨ firstFreeHandle pool = none ∨
      pool.allocateHook buffer = 0 ∨ pool.usedKb.toNat + kilobytes.toNat < 2 ^ 32
  | .reallocate handle newKb buffer =>
    ∀ slot, dosXmsGetHandle pool handle = some slot →
      (pool.handles slot).lockCount ≠ 0 ∨ newKb = (pool.handles slot).sizeKb ∨
      ((pool.handles slot).sizeKb < newKb ∧
        pool.totalKb < pool.usedKb - (pool.handles slot).sizeKb + newKb) ∨
      (0 < newKb ∧ pool.allocateHook buffer = 0) ∨
      (pool.usedKb.toNat - (pool.handles slot).sizeKb.toNat + newKb.toNat < 2 ^ 32 ∧
        min (pool.handles slot).sizeKb.toNat newKb.toNat < 2 ^ 22)
  | _ => True

section NewBuffer

variable {pool : DosXmsState} {kilobytes : UInt32} {buffer : Nat}

theorem newBuffer_eq_zero_iff (hhook : ¬ (0 < kilobytes ∧ pool.allocateHook buffer = 0)) :
    (if 0 < kilobytes then pool.allocateHook buffer else 0) = 0 ↔ kilobytes = 0 := by
  by_cases hpos : 0 < kilobytes
  · rw [if_pos hpos]
    constructor
    · intro hzero
      exact absurd ⟨hpos, hzero⟩ hhook
    · rintro rfl
      exact absurd hpos (UInt32.lt_irrefl 0)
  · rw [if_neg hpos]
    refine ⟨fun _ => ?_, fun _ => rfl⟩
    have hzero := UInt32.lt_iff_toNat_lt.not.1 hpos
    simp only [UInt32.toNat_zero] at hzero
    exact UInt32.toNat_inj.1 (by rw [UInt32.toNat_zero]; omega)

theorem newBuffer_disjoint {inUse : Bool} {lockCount : UInt8}
    (hfresh : IsFreshBuffer pool buffer kilobytes) (slot : Fin dosXmsMaxHandles) :
    DisjointBlocks
      ⟨inUse, lockCount, kilobytes, if 0 < kilobytes then pool.allocateHook buffer else 0⟩
      (pool.handles slot) := by
  intro hnonzero hslot
  dsimp only at hnonzero ⊢
  by_cases hpos : 0 < kilobytes
  · rw [if_pos hpos] at hnonzero ⊢
    unfold allocateHook at hnonzero ⊢
    by_cases hhook : pool.hasAllocate = true
    · rw [if_pos hhook]
      exact hfresh slot hslot
    · rw [if_neg hhook] at hnonzero
      exact absurd rfl hnonzero
  · rw [if_neg hpos] at hnonzero
    exact absurd rfl hnonzero

end NewBuffer

def XmsStep (machine : XmsMachine) (call : XmsCall) (machine' : XmsMachine) : Prop :=
  call.HookIsFresh machine.pool ∧ machine' = (call.outcome machine).machine

def XmsBoundedStep (machine : XmsMachine) (call : XmsCall) (machine' : XmsMachine) : Prop :=
  call.AvoidsWrap machine.pool ∧ XmsStep machine call machine'

/-! ## What one call keeps -/

/-- The invariant holds behind the call, a locked block keeps its place and size and
is not given back, and a refused call changes nothing. -/
structure KeepsPool {α : Type} (machine : XmsMachine) (outcome : XmsOutcome α) : Prop where
  invariant : PoolInvariant outcome.machine.pool
  total_eq : outcome.machine.pool.totalKb = machine.pool.totalKb
  locked : ∀ slot, (machine.pool.handles slot).lockCount ≠ 0 →
    (outcome.machine.pool.handles slot).inUse = (machine.pool.handles slot).inUse ∧
    (outcome.machine.pool.handles slot).sizeKb = (machine.pool.handles slot).sizeKb ∧
    (outcome.machine.pool.handles slot).memory = (machine.pool.handles slot).memory ∧
    ∀ block ∈ outcome.freed, block.1 ≠ (machine.pool.handles slot).memory
  refused : ∀ error, outcome.result = .error error → outcome.machine = machine

theorem KeepsPool.refuse {α : Type} {machine : XmsMachine} (h : PoolInvariant machine.pool)
    (error : DosXmsError) : KeepsPool machine (.refuse machine error : XmsOutcome α) where
  invariant := h
  total_eq := rfl
  locked := fun _ _ => ⟨rfl, rfl, rfl, fun _ hmem => absurd hmem (not_mem_nil)⟩
  refused := fun _ _ => rfl

theorem KeepsPool.withoutResult {α : Type} {machine : XmsMachine} {outcome : XmsOutcome α}
    (h : KeepsPool machine outcome) : KeepsPool machine outcome.withoutResult where
  invariant := h.invariant
  total_eq := h.total_eq
  locked := h.locked
  refused := by
    intro error herror
    unfold XmsOutcome.withoutResult at herror
    cases hresult : outcome.result with
    | error e => exact h.refused e hresult
    | ok value =>
      rw [hresult] at herror
      cases herror

theorem dosXmsGetHandle_inUse {pool : DosXmsState} {handle : UInt16}
    {slot : Fin dosXmsMaxHandles} (h : dosXmsGetHandle pool handle = some slot) :
    (pool.handles slot).inUse = true := by
  unfold dosXmsGetHandle at h
  by_cases hbad : handle = dosXmsConventionalHandle ∨ dosXmsMaxHandles < handle.toNat
  · rw [dif_pos hbad] at h
    cases h
  · rw [dif_neg hbad] at h
    rw [Option.ite_none_right_eq_some] at h
    obtain ⟨huse, hslot⟩ := h
    rwa [← Option.some.inj hslot]

theorem firstFreeHandle_inUse {pool : DosXmsState} {slot : Fin dosXmsMaxHandles}
    (h : firstFreeHandle pool = some slot) : (pool.handles slot).inUse = false := by
  have hfree := firstSlot_some h
  simpa using hfree

section Calls

variable {machine : XmsMachine}

theorem allocate_sum_lt {kilobytes : UInt32} {buffer : Nat}
    {slot : Fin dosXmsMaxHandles} (hslot : firstFreeHandle machine.pool = some slot)
    (hquota : ¬ (0 < kilobytes ∧ machine.pool.totalKb < machine.pool.usedKb + kilobytes))
    (hhook : ¬ (0 < kilobytes ∧ machine.pool.allocateHook buffer = 0))
    (havoid : (XmsCall.allocate kilobytes buffer).AvoidsWrap machine.pool) :
    machine.pool.usedKb.toNat + kilobytes.toNat < 2 ^ 32 := by
  have hused := machine.pool.usedKb.toNat_lt
  by_cases hpos : 0 < kilobytes
  · rcases havoid with hlt | hnone | hfail | hsum
    · exact absurd ⟨hpos, hlt⟩ hquota
    · rw [hnone] at hslot
      cases hslot
    · exact absurd ⟨hpos, hfail⟩ hhook
    · exact hsum
  · have hzero := UInt32.lt_iff_toNat_lt.not.1 hpos
    simp only [UInt32.toNat_zero] at hzero
    omega

variable {newKb : UInt32}

/-- The used count after a reallocation that avoids the wrap. -/
theorem PoolInvariant.reallocate_sum (h : PoolInvariant machine.pool) {handle : UInt16}
    {buffer : Nat} {slot : Fin dosXmsMaxHandles}
    (hslot : dosXmsGetHandle machine.pool handle = some slot)
    (hlock : ¬ (machine.pool.handles slot).lockCount ≠ 0)
    (hsame : newKb ≠ (machine.pool.handles slot).sizeKb)
    (hquota : ¬ ((machine.pool.handles slot).sizeKb < newKb ∧
      machine.pool.totalKb < machine.pool.usedKb - (machine.pool.handles slot).sizeKb + newKb))
    (hhook : ¬ (0 < newKb ∧ machine.pool.allocateHook buffer = 0))
    (havoid : (XmsCall.reallocate handle newKb buffer).AvoidsWrap machine.pool) :
    (machine.pool.usedKb - (machine.pool.handles slot).sizeKb + newKb).toNat =
      machine.pool.usedKb.toNat - (machine.pool.handles slot).sizeKb.toNat + newKb.toNat := by
  have hheld := h.heldKb_le slot
  rw [h.heldKb_eq] at hheld
  have hsub : (machine.pool.usedKb - (machine.pool.handles slot).sizeKb).toNat =
      machine.pool.usedKb.toNat - (machine.pool.handles slot).sizeKb.toNat :=
    UInt32.toNat_sub_of_le _ _ (UInt32.le_iff_toNat_le.2 hheld)
  rw [UInt32.toNat_add, hsub]
  apply Nat.mod_eq_of_lt
  rcases havoid slot hslot with hlocked | heq | hlt | hfail | hsum
  · exact absurd hlocked hlock
  · exact absurd heq hsame
  · exact absurd hlt hquota
  · exact absurd hfail hhook
  · exact hsum.1

theorem dosXmsAllocate_keeps (h : PoolInvariant machine.pool) {kilobytes : UInt32}
    {buffer : Nat} (hfresh : IsFreshBuffer machine.pool buffer kilobytes)
    (havoid : (XmsCall.allocate kilobytes buffer).AvoidsWrap machine.pool) :
    KeepsPool machine (dosXmsAllocate machine kilobytes buffer) := by
  unfold dosXmsAllocate
  by_cases hquota : 0 < kilobytes ∧
      machine.pool.totalKb < machine.pool.usedKb + kilobytes
  · rw [if_pos hquota]
    exact .refuse h _
  rw [if_neg hquota]
  cases hslot : firstFreeHandle machine.pool with
  | none => exact .refuse h _
  | some slot =>
    dsimp only
    by_cases hhook : 0 < kilobytes ∧ machine.pool.allocateHook buffer = 0
    · rw [if_pos hhook]
      exact .refuse h _
    rw [if_neg hhook]
    have hempty := (h.slots slot).unused (firstFreeHandle_inUse hslot)
    have hheld : (machine.pool.handles slot).heldKb = 0 := by
      rw [h.heldKb_eq, hempty.2.1]
      rfl
    have hsum : (machine.pool.usedKb + kilobytes).toNat =
        machine.pool.usedKb.toNat + kilobytes.toNat := by
      rw [UInt32.toNat_add]
      apply Nat.mod_eq_of_lt
      exact allocate_sum_lt hslot hquota hhook havoid
    constructor
    · apply h.update
      · rw [hsum, hheld]
        rfl
      · by_cases hpos : 0 < kilobytes
        · exact UInt32.not_lt.1 fun hlt => hquota ⟨hpos, hlt⟩
        · rw [UInt32.le_iff_toNat_le, hsum]
          have hzero := UInt32.lt_iff_toNat_lt.not.1 hpos
          have hle := UInt32.le_iff_toNat_le.1 h.used_le
          lia
      · exact ⟨fun hunused => Bool.noConfusion hunused, newBuffer_eq_zero_iff hhook⟩
      · exact fun other _ => newBuffer_disjoint hfresh other
    · rfl
    · exact h.locked_update hempty.1 (fun block hmem => absurd hmem not_mem_nil)
    · intro error herror
      cases herror

theorem dosXmsFree_keeps (h : PoolInvariant machine.pool) (handle : UInt16) :
    KeepsPool machine (dosXmsFree machine handle) := by
  unfold dosXmsFree
  dsimp only
  cases hslot : dosXmsGetHandle machine.pool handle with
  | none => exact .refuse h _
  | some slot =>
    dsimp only
    by_cases hlock : (machine.pool.handles slot).lockCount ≠ 0
    · rw [if_pos hlock]
      exact .refuse h _
    rw [if_neg hlock]
    rw [not_not] at hlock
    have hheld := h.heldKb_le slot
    rw [h.heldKb_eq] at hheld
    have hused : (machine.pool.usedKb - (machine.pool.handles slot).sizeKb).toNat =
        machine.pool.usedKb.toNat - (machine.pool.handles slot).sizeKb.toNat :=
      UInt32.toNat_sub_of_le _ _ (UInt32.le_iff_toNat_le.2 hheld)
    constructor
    · apply h.update
      · rw [hused, h.heldKb_eq]
        have hunused : unusedHandle.heldKb = 0 := rfl
        lia
      · have hle := UInt32.le_iff_toNat_le.1 h.used_le
        rw [UInt32.le_iff_toNat_le, hused]
        lia
      · exact unusedHandle_slotInvariant
      · exact fun _ _ => unusedHandle_disjoint _
    · rfl
    · exact h.locked_update hlock fun _ => mem_freeHook
    · intro error herror
      cases herror

def XmsMachine.resized (machine : XmsMachine) (slot : Fin dosXmsMaxHandles)
    (newKb : UInt32) (memory : Nat) : XmsMachine where
  pool :=
    { machine.pool with
      handles :=
        Function.update machine.pool.handles slot
          { machine.pool.handles slot with memory, sizeKb := newKb }
      usedKb := machine.pool.usedKb - (machine.pool.handles slot).sizeKb + newKb }
  heap :=
    if 0 < newKb then
      (machine.heap.zeroFill memory (blockBytes newKb)).copyUp memory
        (machine.pool.handles slot).memory
        (bytesToKeep (machine.pool.handles slot).sizeKb newKb).toNat
    else machine.heap

/-- A reallocation is refused, finds the size unchanged, or moves the block. -/
theorem dosXmsReallocate_cases (machine : XmsMachine) (handle : UInt16) (newKb : UInt32)
    (buffer : Nat) :
    (∃ error, dosXmsReallocate machine handle newKb buffer = .refuse machine error) ∨
    (∃ slot, dosXmsGetHandle machine.pool handle = some slot ∧
      newKb = (machine.pool.handles slot).sizeKb ∧
      dosXmsReallocate machine handle newKb buffer = ⟨machine, [], .ok ()⟩) ∨
    ∃ slot, dosXmsGetHandle machine.pool handle = some slot ∧
      ¬ (machine.pool.handles slot).lockCount ≠ 0 ∧
      newKb ≠ (machine.pool.handles slot).sizeKb ∧
      ¬ ((machine.pool.handles slot).sizeKb < newKb ∧
        machine.pool.totalKb <
          machine.pool.usedKb - (machine.pool.handles slot).sizeKb + newKb) ∧
      ¬ (0 < newKb ∧ machine.pool.allocateHook buffer = 0) ∧
      dosXmsReallocate machine handle newKb buffer =
        ⟨machine.resized slot newKb
            (if 0 < newKb then machine.pool.allocateHook buffer else 0),
          machine.pool.freeHook (machine.pool.handles slot), .ok ()⟩ := by
  unfold dosXmsReallocate
  dsimp only
  cases hslot : dosXmsGetHandle machine.pool handle with
  | none => exact .inl ⟨_, rfl⟩
  | some slot =>
    dsimp only
    by_cases hlock : (machine.pool.handles slot).lockCount ≠ 0
    · rw [if_pos hlock]
      exact .inl ⟨_, rfl⟩
    rw [if_neg hlock]
    by_cases hsame : newKb = (machine.pool.handles slot).sizeKb
    · rw [if_pos hsame]
      exact .inr (.inl ⟨slot, rfl, hsame, rfl⟩)
    rw [if_neg hsame]
    by_cases hquota : (machine.pool.handles slot).sizeKb < newKb ∧
        machine.pool.totalKb <
          machine.pool.usedKb - (machine.pool.handles slot).sizeKb + newKb
    · rw [if_pos hquota]
      exact .inl ⟨_, rfl⟩
    rw [if_neg hquota]
    by_cases hhook : 0 < newKb ∧ machine.pool.allocateHook buffer = 0
    · rw [if_pos hhook]
      exact .inl ⟨_, rfl⟩
    rw [if_neg hhook]
    exact .inr (.inr ⟨slot, rfl, hlock, hsame, hquota, hhook, rfl⟩)

variable (h : PoolInvariant machine.pool)

include h

theorem dosXmsReallocate_keeps {handle : UInt16} {buffer : Nat}
    (hfresh : IsFreshBuffer machine.pool buffer newKb)
    (havoid : (XmsCall.reallocate handle newKb buffer).AvoidsWrap machine.pool) :
    KeepsPool machine (dosXmsReallocate machine handle newKb buffer) := by
  obtain ⟨error, hrefused⟩ | ⟨slot, hslot, hsame, hkept⟩ |
      ⟨slot, hslot, hlock, hsame, hquota, hhook, hmoved⟩ :=
    dosXmsReallocate_cases machine handle newKb buffer
  · rw [hrefused]
    exact .refuse h _
  · rw [hkept]
    exact ⟨h, rfl, fun _ _ => ⟨rfl, rfl, rfl, fun _ hmem => absurd hmem not_mem_nil⟩,
      fun _ _ => rfl⟩
  · rw [hmoved]
    have huse := dosXmsGetHandle_inUse hslot
    have hheld := h.heldKb_le slot
    rw [h.heldKb_eq] at hheld
    have hused := h.reallocate_sum hslot hlock hsame hquota hhook havoid
    rw [not_not] at hlock
    constructor
    · apply h.update
      · have hnew : ({ machine.pool.handles slot with
            memory := if 0 < newKb then machine.pool.allocateHook buffer else 0
            sizeKb := newKb } : DosXmsHandle).heldKb = newKb.toNat := if_pos huse
        rw [hused, h.heldKb_eq, hnew]
        lia
      · by_cases hgrow : (machine.pool.handles slot).sizeKb < newKb
        · exact UInt32.not_lt.1 fun hlt => hquota ⟨hgrow, hlt⟩
        · have hshrink := UInt32.le_iff_toNat_le.1 (UInt32.not_lt.1 hgrow)
          have hle := UInt32.le_iff_toNat_le.1 h.used_le
          rw [UInt32.le_iff_toNat_le, hused]
          lia
      · refine ⟨fun hunused => ?_, newBuffer_eq_zero_iff hhook⟩
        rw [huse] at hunused
        cases hunused
      · exact fun other _ => newBuffer_disjoint hfresh other
    · rfl
    · exact h.locked_update hlock fun _ => mem_freeHook
    · intro error herror
      cases herror

theorem setLockCount_keeps {α : Type} {slot : Fin dosXmsMaxHandles}
    (huse : (machine.pool.handles slot).inUse = true) (lockCount : UInt8) (value : α) :
    KeepsPool machine
      { machine :=
          { machine with
            pool :=
              { machine.pool with
                handles :=
                  Function.update machine.pool.handles slot
                    { machine.pool.handles slot with lockCount } } }
        freed := []
        result := .ok value } where
  invariant := by
    refine h.update ?_ h.used_le ⟨fun hunused => ?_, (h.slots slot).backed⟩ fun other hne => ?_
    · rfl
    · rw [huse] at hunused
      cases hunused
    · exact h.disjoint slot other hne.symm
  total_eq := rfl
  locked := by
    intro other _
    obtain ⟨hinUse, hsize, hmemory⟩ :=
      @PoolInvariant.lockCount_update machine.pool slot lockCount other
    exact ⟨hinUse, hsize, hmemory, fun _ hmem => absurd hmem not_mem_nil⟩
  refused := by
    intro error herror
    cases herror

theorem dosXmsLock_keeps (handle : UInt16) : KeepsPool machine (dosXmsLock machine handle) := by
  unfold dosXmsLock
  dsimp only
  cases hslot : dosXmsGetHandle machine.pool handle with
  | none => exact .refuse h _
  | some slot =>
    dsimp only
    split
    · exact .refuse h _
    · exact setLockCount_keeps h (dosXmsGetHandle_inUse hslot) _ _

theorem dosXmsUnlock_keeps (handle : UInt16) : KeepsPool machine (dosXmsUnlock machine handle) := by
  unfold dosXmsUnlock
  dsimp only
  cases hslot : dosXmsGetHandle machine.pool handle with
  | none => exact .refuse h _
  | some slot =>
    dsimp only
    split
    · exact .refuse h _
    · exact setLockCount_keeps h (dosXmsGetHandle_inUse hslot) _ _

omit h

theorem bytesToKeep_toNat {oldKb : UInt32} (h : min oldKb.toNat newKb.toNat < 2 ^ 22) :
    (bytesToKeep oldKb newKb).toNat = min oldKb.toNat newKb.toNat * 1024 := by
  have hkilobytes : (if newKb < oldKb then newKb else oldKb).toNat =
      min oldKb.toNat newKb.toNat := by
    by_cases hlt : newKb < oldKb
    · rw [if_pos hlt]
      have hnat := UInt32.lt_iff_toNat_lt.1 hlt
      lia
    · rw [if_neg hlt]
      have hnat := UInt32.lt_iff_toNat_lt.not.1 hlt
      lia
  have hunit : dosXmsBytesPerKb.toNat = 1024 := rfl
  rw [bytesToKeep, UInt32.toNat_mul, hkilobytes, hunit]
  apply Nat.mod_eq_of_lt
  lia

theorem dosXmsReallocate_keeps_bytes (h : PoolInvariant machine.pool) {handle : UInt16}
    {buffer : Nat} {slot : Fin dosXmsMaxHandles}
    (hslot : dosXmsGetHandle machine.pool handle = some slot)
    (hfresh : IsFreshBuffer machine.pool buffer newKb)
    (havoid : (XmsCall.reallocate handle newKb buffer).AvoidsWrap machine.pool)
    (hok : (dosXmsReallocate machine handle newKb buffer).result = .ok ()) :
    ((dosXmsReallocate machine handle newKb buffer).machine.pool.handles slot).sizeKb = newKb ∧
    ∀ i < min (machine.pool.handles slot).sizeKb.toNat newKb.toNat * 1024,
      (dosXmsReallocate machine handle newKb buffer).machine.heap
          (((dosXmsReallocate machine handle newKb buffer).machine.pool.handles slot).memory
            + i) =
        machine.heap ((machine.pool.handles slot).memory + i) := by
  obtain ⟨error, hrefused⟩ | ⟨slot', hslot', hsame, hkept⟩ |
      ⟨slot', hslot', hlock, hsame, hquota, hhook, hmoved⟩ :=
    dosXmsReallocate_cases machine handle newKb buffer
  · rw [hrefused] at hok
    cases hok
  · cases hslot.symm.trans hslot'
    rw [hkept]
    exact ⟨hsame.symm, fun i _ => rfl⟩
  cases hslot.symm.trans hslot'
  rw [hmoved, XmsMachine.resized]
  dsimp only
  rw [update_self]
  refine ⟨rfl, fun i hi => ?_⟩
  have hpos : 0 < newKb := by
    rw [UInt32.lt_iff_toNat_lt, UInt32.toNat_zero]
    lia
  have hmin : min (machine.pool.handles slot).sizeKb.toNat newKb.toNat < 2 ^ 22 := by
    rcases havoid slot hslot with hlocked | heq | hlt | hfail | hsum
    · exact absurd hlocked hlock
    · exact absurd heq hsame
    · exact absurd hlt hquota
    · exact absurd hfail hhook
    · exact hsum.2
  have hbacked : (machine.pool.handles slot).memory ≠ 0 := by
    intro hzero
    rw [(h.slots slot).backed.1 hzero, UInt32.toNat_zero, Nat.zero_min, Nat.zero_mul] at hi
    exact absurd hi (Nat.not_lt_zero i)
  have happart : machine.pool.allocateHook buffer + blockBytes newKb ≤
      (machine.pool.handles slot).memory ∨
      (machine.pool.handles slot).memory + blockBytes (machine.pool.handles slot).sizeKb ≤
        machine.pool.allocateHook buffer := by
    have hnonzero : machine.pool.allocateHook buffer ≠ 0 := fun hzero => hhook ⟨hpos, hzero⟩
    unfold allocateHook at hnonzero ⊢
    by_cases hinstalled : machine.pool.hasAllocate = true
    · rw [if_pos hinstalled]
      exact hfresh slot hbacked
    · rw [if_neg hinstalled] at hnonzero
      exact absurd rfl hnonzero
  unfold blockBytes at happart
  rw [if_pos hpos, if_pos hpos, bytesToKeep_toNat hmin,
    ByteMemory.copyUp_apply _ (by lia) hi, ByteMemory.zeroFill_other]
  unfold blockBytes
  lia

theorem XmsCall.outcome_keeps (h : PoolInvariant machine.pool) (call : XmsCall)
    (hfresh : call.HookIsFresh machine.pool) (havoid : call.AvoidsWrap machine.pool) :
    KeepsPool machine (call.outcome machine) := by
  cases call with
  | allocate kilobytes buffer => exact (dosXmsAllocate_keeps h hfresh havoid).withoutResult
  | free handle => exact dosXmsFree_keeps h handle
  | reallocate handle newKb buffer => exact dosXmsReallocate_keeps h hfresh havoid
  | lock handle => exact (dosXmsLock_keeps h handle).withoutResult
  | unlock handle => exact dosXmsUnlock_keeps h handle

end Calls

/-! ## Whole runs -/

theorem run_invariant {totalKb : UInt32} {start machine : XmsMachine} {calls : List XmsCall}
    (hstart : PoolInvariant start.pool ∧ start.pool.totalKb = totalKb)
    (hrun : Run XmsBoundedStep start calls machine) :
    PoolInvariant machine.pool ∧ machine.pool.totalKb = totalKb := by
  apply hrun.invariant
    (fun machine => PoolInvariant machine.pool ∧ machine.pool.totalKb = totalKb)
  · rintro machine call machine' ⟨hinvariant, htotal⟩ ⟨havoid, hfresh, rfl⟩
    have hkeeps := call.outcome_keeps hinvariant hfresh havoid
    exact ⟨hkeeps.invariant, hkeeps.total_eq.trans htotal⟩
  · exact hstart

section Example

def smallPool : XmsMachine := ⟨dosXmsInitialize 16 true true, fun _ => 0⟩

def smallPoolWithBlock : XmsMachine :=
  ((XmsCall.allocate 1 0x10000).outcome smallPool).machine

theorem smallPool_step :
    XmsStep smallPool (.allocate 1 0x10000) smallPoolWithBlock := by
  refine ⟨fun slot hslot => ?_, rfl⟩
  exact absurd rfl hslot

end Example

end Ntvdmex.Dos.Xms
