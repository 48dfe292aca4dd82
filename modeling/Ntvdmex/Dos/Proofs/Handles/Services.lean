import Ntvdmex.Dos.Handles

/-!
# Who holds a host handle, and what the services keep of it

A handle is held by a slot of the running program's table or of a waiting program's.  Each
service keeps the accounts: the open handles are exactly the held ones, and what it closes was
open, is closed once and is held no more.
-/

namespace Ntvdmex.Dos.Handles

open Foundation Function List

/-! ## Holding -/

variable (table : DosHandleFrame)

def DosHandleFrame.Holds (handle : Nat) : Prop :=
  handle ≠ 0 ∧ ∃ slot, table.fileHandles slot = handle

def HeldBelow (machine : DosHandles) (depth handle : Nat) : Prop :=
  ∃ below < depth, (machine.handleStack below).Holds handle

def Held (machine : DosHandles) (handle : Nat) : Prop :=
  machine.table.Holds handle ∨ HeldBelow machine machine.handleDepth handle

theorem has_iff (handle : Nat) :
    table.has handle = true ↔ ∃ slot, table.fileHandles slot = handle := by
  unfold DosHandleFrame.has
  rw [any_eq_true]
  constructor
  · rintro ⟨slot, -, hslot⟩
    exact ⟨slot, of_decide_eq_true hslot⟩
  · rintro ⟨slot, hslot⟩
    exact ⟨slot, mem_finRange slot, decide_eq_true hslot⟩

theorem heldByParent_iff {machine : DosHandles} (hdepth : machine.handleDepth ≤ 8) (handle : Nat) :
    dosHandleIsHeldByParent machine handle = true ↔
      HeldBelow machine machine.handleDepth handle := by
  have hmin : min machine.handleDepth dosHandleStackDepth = machine.handleDepth :=
    Nat.min_eq_left hdepth
  unfold dosHandleIsHeldByParent
  rw [decide_eq_true_iff, hmin, any_eq_true]
  constructor
  · rintro ⟨hzero, below, hbelow, hhas⟩
    exact ⟨below, mem_range.mp hbelow, hzero, (has_iff _ _).mp hhas⟩
  · rintro ⟨below, hbelow, hzero, hhas⟩
    exact ⟨hzero, below, mem_range.mpr hbelow, (has_iff _ _).mpr hhas⟩

theorem not_heldByParent {machine : DosHandles} (hdepth : machine.handleDepth ≤ 8) {handle : Nat}
    (hnot : dosHandleIsHeldByParent machine handle = false) :
    ¬HeldBelow machine machine.handleDepth handle := by
  rw [← heldByParent_iff hdepth, hnot]
  exact Bool.false_ne_true

theorem HeldBelow.mono {machine : DosHandles} {few many handle : Nat} (hle : few ≤ many)
    (hheld : HeldBelow machine few handle) : HeldBelow machine many handle := by
  obtain ⟨below, hbelow, hholds⟩ := hheld
  exact ⟨below, Nat.lt_of_lt_of_le hbelow hle, hholds⟩

/-- Two slots of a table hold one handle only if a waiting program holds it too. -/
def Unshared (machine : DosHandles) (depth : Nat) : Prop :=
  ∀ left right, left ≠ right → table.fileHandles left = table.fileHandles right →
    table.fileHandles left ≠ 0 → HeldBelow machine depth (table.fileHandles left)

/-- The open host handles are the held ones, and no table shares one on its own. -/
structure Sound (machine : DosHandles) (live : Set Nat) : Prop where
  depth_le : machine.handleDepth ≤ 8
  live_iff : ∀ handle, handle ∈ live ↔ Held machine handle
  unshared : Unshared machine.table machine machine.handleDepth
  unsharedBelow : ∀ depth < machine.handleDepth, Unshared (machine.handleStack depth) machine depth

/-- The tables of the waiting programs are the same. -/
structure SameStack (before after : DosHandles) : Prop where
  stack : after.handleStack = before.handleStack
  depth : after.handleDepth = before.handleDepth

theorem SameStack.refl (machine : DosHandles) : SameStack machine machine := ⟨rfl, rfl⟩

theorem SameStack.trans {first second third : DosHandles} (hfirst : SameStack first second)
    (hsecond : SameStack second third) : SameStack first third :=
  ⟨hsecond.stack.trans hfirst.stack, hsecond.depth.trans hfirst.depth⟩

/-- All the tables bind the same handles. -/
structure SameHandles (before after : DosHandles) : Prop extends SameStack before after where
  handles : after.table.fileHandles = before.table.fileHandles

theorem SameHandles.refl (machine : DosHandles) : SameHandles machine machine := ⟨⟨rfl, rfl⟩, rfl⟩

theorem SameHandles.trans {first second third : DosHandles} (hfirst : SameHandles first second)
    (hsecond : SameHandles second third) : SameHandles first third :=
  ⟨hfirst.toSameStack.trans hsecond.toSameStack, hsecond.handles.trans hfirst.handles⟩

/-- Only the handles matter. -/
theorem Sound.congr {before after : DosHandles} {live : Set Nat} (hsound : Sound before live)
    (hsame : SameHandles before after) : Sound after live := by
  obtain ⟨⟨hstack, hdepth⟩, hhandles⟩ := hsame
  have hbelow : ∀ depth handle, HeldBelow after depth handle ↔ HeldBelow before depth handle := by
    intro depth handle
    unfold HeldBelow
    rw [hstack]
  refine ⟨hdepth ▸ hsound.depth_le, fun handle => ?_, ?_, ?_⟩
  · rw [hsound.live_iff]
    unfold Held DosHandleFrame.Holds
    rw [hhandles, hdepth, hbelow]
  · intro left right hne hsame hzero
    rw [hhandles] at hsame hzero ⊢
    rw [hdepth, hbelow]
    exact hsound.unshared left right hne hsame hzero
  · intro depth hlt left right hne hsame hzero
    rw [hstack] at hsame hzero ⊢
    rw [hbelow]
    exact hsound.unsharedBelow depth (hdepth ▸ hlt) left right hne hsame hzero

/-- What a service did: it closed only open handles, each once, and the accounts are in order. -/
structure Accounts (live : Set Nat) (result : DosHandles × List Nat) : Prop where
  nodup : result.2.Nodup
  closes_open : ∀ handle ∈ result.2, handle ∈ live
  sound : Sound result.1 (live \ {handle | handle ∈ result.2})

theorem accounts_nil {machine : DosHandles} {live : Set Nat} (hsound : Sound machine live) :
    Accounts live (machine, []) := by
  refine ⟨nodup_nil, fun handle h => absurd h not_mem_nil, ?_⟩
  simpa using hsound

/-- A handle the host closes at once after it could not be bound. -/
theorem accounts_refused {machine : DosHandles} {live : Set Nat} {handle : Nat}
    (hsound : Sound machine live) (hfresh : handle ∉ live) :
    Accounts (insert handle live) (machine, [handle]) := by
  refine ⟨nodup_singleton _, fun other h => ?_, ?_⟩
  · rw [mem_singleton.mp h]
    exact Set.mem_insert _ _
  · have hlive : insert handle live \ {other | other ∈ [handle]} = live := by
      ext other
      simp only [Set.mem_sdiff, Set.mem_insert_iff, Set.mem_ofPred_eq, mem_singleton]
      constructor
      · rintro ⟨h | h, hne⟩
        · exact absurd h hne
        · exact h
      · intro h
        exact ⟨.inr h, fun heq => hfresh (heq ▸ h)⟩
    rw [hlive]
    exact hsound

theorem Accounts.congr {live : Set Nat} {before after : DosHandles} {closes : List Nat}
    (haccounts : Accounts live (before, closes)) (hsame : SameHandles before after) :
    Accounts live (after, closes) :=
  ⟨haccounts.nodup, haccounts.closes_open, haccounts.sound.congr hsame⟩

/-! ## Binding and releasing -/

section

variable (machine : DosHandles) (slot : Fin 128) (handle : Nat)

include machine slot handle

theorem bind_fileHandles :
    (machine.bind slot handle).table.fileHandles =
      Function.update machine.table.fileHandles slot handle := rfl

end

theorem Sound.bind_fresh {machine : DosHandles} {live : Set Nat} {slot : Fin 128} {handle : Nat}
    (hsound : Sound machine live) (hfree : machine.table.fileHandles slot = 0)
    (hzero : handle ≠ 0) (hfresh : handle ∉ live) :
    Sound (machine.bind slot handle) (insert handle live) := by
  rw [hsound.live_iff] at hfresh
  have hother : ∀ other, other ≠ slot → machine.table.fileHandles other ≠ handle :=
    fun other _ heq => hfresh (.inl ⟨hzero, other, heq⟩)
  refine ⟨hsound.depth_le, fun other => ?_, ?_, hsound.unsharedBelow⟩
  · rw [Set.mem_insert_iff, hsound.live_iff]
    constructor
    · rintro (rfl | ⟨hother0, place, hplace⟩ | hbelow)
      · refine .inl ⟨hzero, slot, ?_⟩
        rw [bind_fileHandles, update_self]
      · refine .inl ⟨hother0, place, ?_⟩
        have hne : place ≠ slot := fun heq => hother0 (by rw [← hplace, heq, hfree])
        rw [bind_fileHandles, update_of_ne hne]
        exact hplace
      · exact .inr hbelow
    · rintro (⟨hother0, place, hplace⟩ | hbelow)
      · rw [bind_fileHandles] at hplace
        by_cases hplaceSlot : place = slot
        · rw [hplaceSlot, update_self] at hplace
          exact .inl hplace.symm
        · rw [update_of_ne hplaceSlot] at hplace
          exact .inr (.inl ⟨hother0, place, hplace⟩)
      · exact .inr (.inr hbelow)
  · intro left right hne hsame hnonzero
    rw [bind_fileHandles] at hsame hnonzero ⊢
    by_cases hleft : left = slot
    · have hright : right ≠ slot := fun heq => hne (hleft.trans heq.symm)
      rw [hleft, update_self, update_of_ne hright] at hsame
      exact absurd hsame.symm (hother right hright)
    · rw [update_of_ne hleft] at hsame hnonzero ⊢
      by_cases hright : right = slot
      · rw [hright, update_self] at hsame
        exact absurd hsame (hother left hleft)
      · rw [update_of_ne hright] at hsame
        exact hsound.unshared left right hne hsame hnonzero

theorem holds_unbound {machine : DosHandles} {slot : Fin 128} {handle : Nat} :
    (machine.bind slot 0).table.Holds handle ↔
      handle ≠ 0 ∧ ∃ other ≠ slot, machine.table.fileHandles other = handle := by
  refine and_congr_right fun hzero => ⟨?_, ?_⟩
  · rintro ⟨other, hother⟩
    rw [bind_fileHandles] at hother
    by_cases hslot : other = slot
    · rw [hslot, update_self] at hother
      exact absurd hother.symm hzero
    · rw [update_of_ne hslot] at hother
      exact ⟨other, hslot, hother⟩
  · rintro ⟨other, hslot, hother⟩
    refine ⟨other, ?_⟩
    rw [bind_fileHandles, update_of_ne hslot]
    exact hother

theorem unshared_unbound {machine : DosHandles} {slot : Fin 128}
    (hunshared : Unshared machine.table machine machine.handleDepth) :
    Unshared (machine.bind slot 0).table (machine.bind slot 0) machine.handleDepth := by
  intro left right hne hsame hnonzero
  rw [bind_fileHandles] at hsame hnonzero ⊢
  have hleft : left ≠ slot := fun heq => hnonzero (by rw [heq, update_self])
  have hright : right ≠ slot := fun heq => hnonzero (by rw [hsame, heq, update_self])
  rw [update_of_ne hleft] at hsame hnonzero ⊢
  rw [update_of_ne hright] at hsame
  exact hunshared left right hne hsame hnonzero

theorem dosHandleRelease_stack (machine : DosHandles) (slot : Nat) :
    SameStack machine (dosHandleRelease machine slot).1 := by
  unfold dosHandleRelease
  split
  · dsimp only
    split <;> exact ⟨rfl, rfl⟩
  · exact SameStack.refl _

theorem dosHandleRelease_accounts {machine : DosHandles} {live : Set Nat}
    (hsound : Sound machine live) (slot : Nat) :
    Accounts live (dosHandleRelease machine slot) := by
  unfold dosHandleRelease
  split
  · rename_i hslot
    by_cases hzero : machine.table.fileHandles ⟨slot, hslot⟩ = 0
    · rw [if_pos hzero]
      exact accounts_nil hsound
    rw [if_neg hzero]
    generalize hhandle : machine.table.fileHandles ⟨slot, hslot⟩ = handle at hzero ⊢
    have hlive : handle ∈ live := (hsound.live_iff handle).mpr (.inl ⟨hzero, _, hhandle⟩)
    cases hheld : dosHandleIsHeldByParent machine handle with
    | true =>
      rw [if_pos rfl]
      have hbelow := (heldByParent_iff hsound.depth_le handle).mp hheld
      refine accounts_nil ⟨hsound.depth_le, fun other => ?_, unshared_unbound hsound.unshared,
        hsound.unsharedBelow⟩
      rw [hsound.live_iff]
      constructor
      · rintro (⟨hother0, place, hplace⟩ | hotherBelow)
        · by_cases hplaceSlot : place = ⟨slot, hslot⟩
          · rw [hplaceSlot, hhandle] at hplace
            exact .inr (hplace ▸ hbelow)
          · exact .inl (holds_unbound.mpr ⟨hother0, place, hplaceSlot, hplace⟩)
        · exact .inr hotherBelow
      · rintro (hholds | hotherBelow)
        · obtain ⟨hother0, place, -, hplace⟩ := holds_unbound.mp hholds
          exact .inl ⟨hother0, place, hplace⟩
        · exact .inr hotherBelow
    | false =>
      rw [if_neg Bool.false_ne_true]
      have hnotBelow := not_heldByParent hsound.depth_le hheld
      have hnotOther : ∀ place, place ≠ ⟨slot, hslot⟩ →
          machine.table.fileHandles place ≠ handle := by
        intro place hne hplace
        refine hnotBelow (hplace ▸ hsound.unshared place _ hne ?_ ?_)
        · rw [hplace, hhandle]
        · rw [hplace]
          exact hzero
      refine ⟨nodup_singleton _, fun other h => ?_, hsound.depth_le, fun other => ?_,
        unshared_unbound hsound.unshared, hsound.unsharedBelow⟩
      · rw [mem_singleton.mp h]
        exact hlive
      · simp only [Set.mem_sdiff, Set.mem_ofPred_eq, mem_singleton, hsound.live_iff]
        constructor
        · rintro ⟨⟨hother0, place, hplace⟩ | hotherBelow, hne⟩
          · refine .inl (holds_unbound.mpr ⟨hother0, place, fun heq => hne ?_, hplace⟩)
            rw [← hplace, heq, hhandle]
          · exact .inr hotherBelow
        · rintro (hholds | hotherBelow)
          · obtain ⟨hother0, place, hne, hplace⟩ := holds_unbound.mp hholds
            exact ⟨.inl ⟨hother0, place, hplace⟩, fun heq => hnotOther place hne (hplace.trans heq)⟩
          · exact ⟨.inr hotherBelow, fun heq => hnotBelow (heq ▸ hotherBelow)⟩
  · exact accounts_nil hsound

/-!
## The handle services keep the accounts

Opens, closes and duplicates, whether or not the job file table is told.  A handle the host
gives is not open at the time.
-/

theorem dosSftValue_same (machine : DosHandles) (handle : Nat) :
    SameHandles machine (dosSftValue machine handle).1 := by
  unfold dosSftValue
  split
  · dsimp only
    split
    · exact SameHandles.refl _
    · split <;> exact ⟨⟨rfl, rfl⟩, rfl⟩
  · split <;> exact SameHandles.refl _

theorem dosJftPut_same (machine : DosHandles) (handle : Nat) (value : UInt8) :
    SameHandles machine (dosJftPut machine handle value) := by
  unfold dosJftPut
  split
  · exact SameHandles.refl _
  · split <;> exact ⟨⟨rfl, rfl⟩, rfl⟩

theorem tell_same (machine : DosHandles) (isTold : Bool) (handle source : Nat) :
    SameHandles machine (machine.tell isTold handle source) := by
  cases isTold with
  | false => exact SameHandles.refl _
  | true => exact (dosSftValue_same machine source).trans (dosJftPut_same _ _ _)

theorem dosHandleSetDevice_handles {table after : DosHandleFrame} {handle : Nat} {isDevice : Bool}
    (hset : dosHandleSetDevice table handle isDevice = some after) :
    after.fileHandles = table.fileHandles := by
  unfold dosHandleSetDevice at hset
  split at hset
  · cases hset
  · cases hset
    rfl

theorem setDevice_same (machine : DosHandles) (handle : Nat) (isDevice : Bool) :
    SameHandles machine
      { machine with
        table := (dosHandleSetDevice machine.table handle isDevice).getD machine.table } := by
  refine ⟨⟨rfl, rfl⟩, ?_⟩
  cases hset : dosHandleSetDevice machine.table handle isDevice with
  | none => rfl
  | some table => exact dosHandleSetDevice_handles hset

section Opens

variable {machine : DosHandles} {live : Set Nat}

theorem dosHandleAllocate_free {table : DosHandleFrame} {slot : Fin 128}
    (hslot : dosHandleAllocate table = some slot) : table.fileHandles slot = 0 := by
  have hfound := find?_some hslot
  exact (decide_eq_true_iff.mp hfound).1

variable (hsound : Sound machine live)

include hsound

theorem accounts_bound {slot : Fin 128} {handle : Nat}
    (hfree : machine.table.fileHandles slot = 0) (hzero : handle ≠ 0) (hfresh : handle ∉ live) :
    Accounts (insert handle live) (machine.bind slot handle, []) :=
  accounts_nil (hsound.bind_fresh hfree hzero hfresh)

theorem int21Open_accounts {file : Nat} (hzero : file ≠ 0) (hfresh : file ∉ live) (isTold : Bool) :
    Accounts (insert file live) (int21Open machine file isTold) := by
  unfold int21Open
  split
  · exact accounts_refused hsound hfresh
  · rename_i slot hslot
    exact (accounts_bound hsound (dosHandleAllocate_free hslot) hzero hfresh).congr
      (tell_same _ _ _ _)

theorem dpmiInt21Open_accounts {file : Nat} (hzero : file ≠ 0) (hfresh : file ∉ live) :
    Accounts (insert file live) (dpmiInt21Open machine file) := by
  unfold dpmiInt21Open
  split
  · exact accounts_refused hsound hfresh
  · rename_i slot hslot
    have hfound := find?_some hslot
    exact accounts_bound hsound (decide_eq_true_iff.mp hfound).2 hzero hfresh

theorem int21Close_accounts (handle : Nat) (isTold : Bool) :
    Accounts live (int21Close machine handle isTold) := by
  unfold int21Close
  have hput : ∀ released : DosHandles, SameHandles released
      (if isTold then dosJftPut released handle dosPspJftClosed else released) := by
    intro released
    cases isTold with
    | false => exact SameHandles.refl _
    | true => exact dosJftPut_same _ _ _
  split
  rename_i released closes hreleased
  refine Accounts.congr ?_ (hput released)
  rw [← hreleased]
  split
  · exact dosHandleRelease_accounts hsound handle
  · exact (accounts_nil hsound).congr (setDevice_same machine handle false)

omit hsound

theorem bind_zero_same {slot : Fin 128} (hfree : machine.table.fileHandles slot = 0) :
    SameHandles machine (machine.bind slot 0) := by
  refine ⟨⟨rfl, rfl⟩, ?_⟩
  rw [bind_fileHandles, ← hfree, update_eq_self]

theorem dosHandleRelease_slot (machine : DosHandles) (slot : Fin 128) :
    (dosHandleRelease machine slot.val).1.table.fileHandles slot = 0 := by
  unfold dosHandleRelease
  rw [dif_pos slot.isLt]
  dsimp only
  split
  · assumption
  · rw [bind_fileHandles, update_self]

variable {source duplicate : Nat}

variable (hsound : Sound machine live)

include hsound

variable (isTold : Bool)

theorem int21Dup_device (hdevice : dosHandleIsDevice machine.table source = true) :
    Accounts live (int21Dup machine source duplicate isTold) := by
  unfold int21Dup
  rw [if_pos hdevice]
  split
  · exact accounts_nil hsound
  · rename_i target htarget
    split
    · exact accounts_nil hsound
    · rename_i table htable
      have hhandles := dosHandleSetDevice_handles htable
      have hfree := dosHandleAllocate_free htarget
      refine (accounts_nil hsound).congr (SameHandles.trans ?_ (tell_same _ _ _ _))
      refine ⟨⟨rfl, rfl⟩, ?_⟩
      have hbound : Function.update table.fileHandles target 0 = machine.table.fileHandles := by
        rw [hhandles, ← hfree, update_eq_self]
      split
      · exact hbound
      · exact hbound

theorem int21Dup_file (hnot : dosHandleIsDevice machine.table source = false)
    (hfile : dosHandleIsFile machine.table source = true) (hzero : duplicate ≠ 0)
    (hfresh : duplicate ∉ live) :
    Accounts (insert duplicate live) (int21Dup machine source duplicate isTold) := by
  unfold int21Dup
  rw [if_neg (by rw [hnot]; exact Bool.false_ne_true), if_pos hfile]
  split
  · exact accounts_refused hsound hfresh
  · rename_i target htarget
    exact (accounts_bound hsound (dosHandleAllocate_free htarget) hzero hfresh).congr
      (tell_same _ _ _ _)

theorem int21Dup2_device {target : Nat} (hdevice : dosHandleIsDevice machine.table source = true) :
    Accounts live (int21Dup2 machine source target duplicate isTold) := by
  unfold int21Dup2
  rw [if_pos hdevice]
  split
  · rename_i htarget
    split
    · exact accounts_nil hsound
    · rename_i table htable
      have hset : Sound { machine with table } live :=
        hsound.congr ⟨⟨rfl, rfl⟩, dosHandleSetDevice_handles htable⟩
      have hreleased := dosHandleRelease_accounts hset target
      have hfree := dosHandleRelease_slot { machine with table } ⟨target, htarget⟩
      dsimp only at hfree ⊢
      generalize dosHandleRelease { machine with table } target = result
        at hreleased hfree ⊢
      obtain ⟨released, closes⟩ := result
      refine hreleased.congr (SameHandles.trans ?_ (tell_same _ _ _ _))
      have hsame := bind_zero_same hfree
      refine ⟨⟨hsame.stack, hsame.depth⟩, ?_⟩
      split
      · exact hsame.handles
      · exact hsame.handles
  · exact accounts_nil hsound

theorem int21Dup2_file {target : Nat} (hnot : dosHandleIsDevice machine.table source = false)
    (hfile : dosHandleIsFile machine.table source = true) (hzero : duplicate ≠ 0)
    (hfresh : duplicate ∉ live) :
    Accounts (insert duplicate live) (int21Dup2 machine source target duplicate isTold) := by
  unfold int21Dup2
  rw [if_neg (by rw [hnot]; exact Bool.false_ne_true), if_pos hfile]
  split
  · rename_i htarget
    obtain ⟨hnodup, hopen, hsound'⟩ := dosHandleRelease_accounts hsound target
    have hfree := dosHandleRelease_slot machine ⟨target, htarget⟩
    dsimp only at hfree ⊢
    generalize dosHandleRelease machine target = result at hnodup hopen hsound' hfree ⊢
    obtain ⟨released, closes⟩ := result
    dsimp only at hnodup hopen hsound' hfree ⊢
    have hbound := hsound'.bind_fresh hfree hzero fun h => hfresh h.1
    have hlive : insert duplicate (live \ {handle | handle ∈ closes}) =
        insert duplicate live \ {handle | handle ∈ closes} := by
      ext other
      constructor
      · rintro (rfl | ⟨h, hnot⟩)
        · exact ⟨.inl rfl, fun h => hfresh (hopen _ h)⟩
        · exact ⟨.inr h, hnot⟩
      · rintro ⟨h | h, hnot⟩
        · exact .inl h
        · exact .inr ⟨h, hnot⟩
    rw [hlive] at hbound
    have hopened : Accounts (insert duplicate live)
        (released.bind ⟨target, htarget⟩ duplicate, closes) :=
      ⟨hnodup, fun handle h => Set.mem_insert_of_mem _ (hopen handle h), hbound⟩
    exact hopened.congr ((setDevice_same _ target false).trans (tell_same _ _ _ _))
  · exact accounts_refused hsound hfresh

omit hsound

theorem tell_stack {before bound : DosHandles} (hstack : SameStack before bound) (isTold : Bool)
    (handle source : Nat) : SameStack before (bound.tell isTold handle source) :=
  hstack.trans (tell_same bound isTold handle source).toSameStack

theorem int21Open_stack (machine : DosHandles) (file : Nat) (isTold : Bool) :
    SameStack machine (int21Open machine file isTold).1 := by
  unfold int21Open
  split
  · exact SameStack.refl _
  · refine tell_stack ?_ _ _ _
    exact ⟨rfl, rfl⟩

theorem dpmiInt21Open_stack (machine : DosHandles) (file : Nat) :
    SameStack machine (dpmiInt21Open machine file).1 := by
  unfold dpmiInt21Open
  split <;> exact ⟨rfl, rfl⟩

theorem int21Close_stack (machine : DosHandles) (handle : Nat) (isTold : Bool) :
    SameStack machine (int21Close machine handle isTold).1 := by
  unfold int21Close
  split
  rename_i released closes hreleased
  have hstack : SameStack machine released := by
    split at hreleased
    · have hrelease := dosHandleRelease_stack machine handle
      rw [hreleased] at hrelease
      exact hrelease
    · cases hreleased
      exact ⟨rfl, rfl⟩
  cases isTold with
  | false => exact hstack
  | true => exact hstack.trans (dosJftPut_same _ _ _).toSameStack

theorem int21Dup_stack (machine : DosHandles) (source duplicate : Nat) (isTold : Bool) :
    SameStack machine (int21Dup machine source duplicate isTold).1 := by
  unfold int21Dup
  split
  · split
    · exact SameStack.refl _
    · split
      · exact SameStack.refl _
      · refine tell_stack ?_ _ _ _
        exact ⟨rfl, rfl⟩
  · split
    · split
      · exact SameStack.refl _
      · refine tell_stack ?_ _ _ _
        exact ⟨rfl, rfl⟩
    · exact SameStack.refl _

theorem int21Dup2_stack (machine : DosHandles) (source target duplicate : Nat) (isTold : Bool) :
    SameStack machine (int21Dup2 machine source target duplicate isTold).1 := by
  unfold int21Dup2
  split
  · split
    · split
      · exact SameStack.refl _
      · rename_i table _
        have hrelease := dosHandleRelease_stack { machine with table } target
        generalize dosHandleRelease { machine with table } target = result
          at hrelease ⊢
        obtain ⟨released, closes⟩ := result
        refine tell_stack ?_ _ _ _
        exact ⟨hrelease.stack, hrelease.depth⟩
    · exact SameStack.refl _
  · split
    · split
      · have hrelease := dosHandleRelease_stack machine target
        generalize dosHandleRelease machine target = result at hrelease ⊢
        obtain ⟨released, closes⟩ := result
        refine tell_stack ?_ _ _ _
        exact ⟨hrelease.stack, hrelease.depth⟩
      · exact SameStack.refl _
    · exact SameStack.refl _

end Opens

end Ntvdmex.Dos.Handles
