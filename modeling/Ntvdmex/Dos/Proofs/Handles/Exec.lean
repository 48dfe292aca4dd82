import Ntvdmex.Foundation.FrameStack
import Ntvdmex.Foundation.Runs
import Ntvdmex.Dos.Proofs.Handles.Services

/-!
# Handles across EXEC

A child works on a copy of its parent's table.  While every JFT byte an EXEC takes over names a
handle some program still holds, each host handle is closed once, after its last holder let it
go, and a parent finds its own table again.
-/

namespace Ntvdmex.Dos.Handles

open Foundation Function List

variable {table : DosHandleFrame} {handle depth : Nat} {event : HandleEvent} {before : HandleRun}

/-! ## The child starts -/

theorem standard_le : 5 ≤ 20 := by decide

def takenOver (machine : DosHandles) (handle : Fin 5) : Option Nat :=
  match dosJftOf machine machine.pspSegment with
  | none => none
  | some (jft, count) =>
    let value := machine.memory (jft + handle.val)
    if handle.val < count ∧ value ≠ machine.table.jftKnown (handle.castLE standard_le) ∧
        value ≠ dosPspJftClosed ∧ dosPspJftPrnEntry < value ∧ machine.sftHost value.toNat ≠ 0 then
      some (machine.sftHost value.toNat)
    else none

def ExecIsSound (machine : DosHandles) : Prop :=
  ∀ handle host, takenOver machine handle = some host → Held machine host

section Exec

variable {machine : DosHandles} {live : Set Nat}

def HandlesBelow (table : DosHandleFrame) (machine : DosHandles) : Prop :=
  ∀ slot, table.fileHandles slot ≠ 0 →
    HeldBelow machine machine.handleDepth (table.fileHandles slot)

theorem HandlesBelow.bind (htable : HandlesBelow table machine) {slot : Fin 128}
    (hhandle : handle ≠ 0 → HeldBelow machine machine.handleDepth handle) :
    HandlesBelow (table.bind slot handle) machine := by
  intro other hother
  unfold DosHandleFrame.bind at hother ⊢
  dsimp only at hother ⊢
  by_cases hslot : other = slot
  · rw [hslot, update_self] at hother ⊢
    exact hhandle hother
  · rw [update_of_ne hslot] at hother ⊢
    exact htable other hother

theorem dosJftApply_below (htable : HandlesBelow table machine) {sftHost : Nat → Nat}
    {value : UInt8} {handle : Fin 5}
    (hvalue : value ≠ table.jftKnown (handle.castLE (by decide)) → value ≠ dosPspJftClosed →
      dosPspJftPrnEntry < value → sftHost value.toNat ≠ 0 →
      HeldBelow machine machine.handleDepth (sftHost value.toNat)) :
    HandlesBelow (dosJftApply sftHost value table handle) machine := by
  unfold dosJftApply
  split
  · exact htable
  · rename_i hknown
    split
    · exact htable.bind fun h => absurd rfl h
    · rename_i hclosed
      split
      · exact htable.bind fun h => absurd rfl h
      · rename_i hdevice
        split
        · rename_i hhost
          exact htable.bind fun _ => hvalue hknown hclosed (UInt8.not_le.mp hdevice) hhost
        · exact htable

theorem dosJftApply_jftKnown (sftHost : Nat → Nat) (value : UInt8) (table : DosHandleFrame)
    (handle : Fin 5) : (dosJftApply sftHost value table handle).jftKnown = table.jftKnown := by
  unfold dosJftApply DosHandleFrame.bind
  split
  · rfl
  · split
    · rfl
    · split
      · rfl
      · split <;> rfl

theorem dosJftStandard_below (htable : HandlesBelow machine.table machine) {jft count : Nat}
    (hjft : dosJftOf machine machine.pspSegment = some (jft, count))
    (hsound : ∀ handle host, takenOver machine handle = some host →
      HeldBelow machine machine.handleDepth host) :
    HandlesBelow (dosJftStandard machine jft count) machine := by
  have hfold : ∀ (handles : List (Fin 5)) (table : DosHandleFrame),
      HandlesBelow table machine → table.jftKnown = machine.table.jftKnown →
      HandlesBelow (handles.foldl
        (fun table handle =>
          if handle.val < count then
            dosJftApply machine.sftHost (machine.memory (jft + handle.val)) table handle
          else table) table) machine := by
    intro handles
    induction handles with
    | nil => exact fun _ hbelow _ => hbelow
    | cons handle handles ih =>
      intro table hbelow hknown
      rw [foldl_cons]
      by_cases hcount : handle.val < count
      · rw [if_pos hcount]
        refine ih _ (dosJftApply_below hbelow fun hne hclosed hdevice hhost => ?_)
          ((dosJftApply_jftKnown _ _ _ _).trans hknown)
        refine hsound handle _ ?_
        unfold takenOver
        rw [hjft]
        exact if_pos ⟨hcount, hknown ▸ hne, hclosed, hdevice, hhost⟩
      · rw [if_neg hcount]
        exact ih _ hbelow hknown
  exact hfold _ _ htable rfl

theorem dosHandlesPush_eq (hdepth : machine.handleDepth < 8) :
    dosHandlesPush machine =
      { machine with
        handleStack := update machine.handleStack machine.handleDepth machine.table
        handleDepth := machine.handleDepth + 1 } := by
  exact if_neg (Nat.not_le_of_lt hdepth)

theorem push_heldBelow (hdepth : machine.handleDepth < 8) (handle : Nat) :
    HeldBelow (dosHandlesPush machine) (dosHandlesPush machine).handleDepth handle ↔
      Held machine handle := by
  rw [dosHandlesPush_eq hdepth]
  constructor
  · rintro ⟨below, hbelow, hholds⟩
    dsimp only at hbelow hholds
    by_cases htop : below = machine.handleDepth
    · rw [htop, update_self] at hholds
      exact .inl hholds
    · rw [update_of_ne htop] at hholds
      exact .inr ⟨below, by omega, hholds⟩
  · rintro (hholds | ⟨below, hbelow, hholds⟩)
    · refine ⟨machine.handleDepth, Nat.lt_succ_self _, ?_⟩
      dsimp only
      rw [update_self]
      exact hholds
    · refine ⟨below, Nat.lt_succ_of_lt hbelow, ?_⟩
      dsimp only
      rw [update_of_ne (Nat.ne_of_lt hbelow)]
      exact hholds

theorem push_heldBelow_old (hdepth : machine.handleDepth < 8) (hle : depth ≤ machine.handleDepth)
    (handle : Nat) :
    HeldBelow (dosHandlesPush machine) depth handle ↔ HeldBelow machine depth handle := by
  rw [dosHandlesPush_eq hdepth]
  refine exists_congr fun below => and_congr_right fun hbelow => ?_
  dsimp only
  rw [update_of_ne (by omega)]

theorem dosJftExec_stack (machine : DosHandles) (childPsp : Nat) :
    (dosJftExec machine childPsp).handleStack = machine.handleStack ∧
      (dosJftExec machine childPsp).handleDepth = machine.handleDepth := by
  unfold dosJftExec
  split
  · exact ⟨rfl, rfl⟩
  · split <;> exact ⟨rfl, rfl⟩

theorem dosJftExec_below (htable : HandlesBelow machine.table machine)
    (hsound : ∀ handle host, takenOver machine handle = some host →
      HeldBelow machine machine.handleDepth host) (childPsp : Nat) :
    HandlesBelow (dosJftExec machine childPsp).table machine := by
  unfold dosJftExec
  split
  · exact htable
  · rename_i jft count hjft
    have hstandard := dosJftStandard_below htable hjft hsound
    split <;> exact hstandard

theorem int21Exec_stack (hdepth : machine.handleDepth < 8) (childPsp : Nat) :
    (int21Exec machine childPsp).handleStack =
        update machine.handleStack machine.handleDepth machine.table ∧
      (int21Exec machine childPsp).handleDepth = machine.handleDepth + 1 := by
  obtain ⟨hstack, hcount⟩ := dosJftExec_stack (dosHandlesPush machine) childPsp
  unfold int21Exec
  rw [hstack, hcount, dosHandlesPush_eq hdepth]
  exact ⟨rfl, rfl⟩

theorem int21Exec_sound (hsound : Sound machine live) (hdepth : machine.handleDepth < 8)
    (hexec : ExecIsSound machine) (childPsp : Nat) : Sound (int21Exec machine childPsp) live := by
  have hpush := push_heldBelow hdepth
  have htable : HandlesBelow (dosHandlesPush machine).table (dosHandlesPush machine) := by
    intro slot hslot
    have hsame : (dosHandlesPush machine).table = machine.table := by
      rw [dosHandlesPush_eq hdepth]
    rw [hsame] at hslot ⊢
    exact (hpush _).mpr (.inl ⟨hslot, slot, rfl⟩)
  have htaken : ∀ handle host, takenOver (dosHandlesPush machine) handle = some host →
      HeldBelow (dosHandlesPush machine) (dosHandlesPush machine).handleDepth host := by
    intro handle host htake
    have hsame : takenOver (dosHandlesPush machine) handle = takenOver machine handle := by
      rw [dosHandlesPush_eq hdepth]
      rfl
    exact (hpush _).mpr (hexec handle host (hsame ▸ htake))
  have hbelow := dosJftExec_below htable htaken childPsp
  obtain ⟨hstack, hcount⟩ := dosJftExec_stack (dosHandlesPush machine) childPsp
  have hheldBelow : ∀ depth handle, HeldBelow (int21Exec machine childPsp) depth handle ↔
      HeldBelow (dosHandlesPush machine) depth handle := by
    intro depth handle
    unfold HeldBelow int21Exec
    rw [hstack]
  have hnewDepth := (int21Exec_stack hdepth childPsp).2
  have hpushDepth : (dosHandlesPush machine).handleDepth = machine.handleDepth + 1 := by
    rw [dosHandlesPush_eq hdepth]
  refine ⟨by lia, fun handle => ?_, ?_, ?_⟩
  · rw [hsound.live_iff, ← hpush]
    unfold Held
    rw [hheldBelow, hnewDepth, ← hpushDepth]
    constructor
    · exact .inr
    · rintro (⟨hzero, slot, hslot⟩ | hheld)
      · exact hslot ▸ hbelow slot (hslot ▸ hzero)
      · exact hheld
  · intro left right _ _ hzero
    rw [hheldBelow, hnewDepth, ← hpushDepth]
    exact hbelow left hzero
  · intro depth hlt left right hne hsame hzero
    rw [hnewDepth] at hlt
    rw [(int21Exec_stack hdepth childPsp).1] at hsame hzero ⊢
    rw [hheldBelow, push_heldBelow_old hdepth (by lia)]
    by_cases htop : depth = machine.handleDepth
    · rw [htop, update_self] at hsame hzero ⊢
      exact hsound.unshared left right hne hsame hzero
    · rw [update_of_ne htop] at hsame hzero ⊢
      exact hsound.unsharedBelow depth (by lia) left right hne hsame hzero

theorem mem_dosHandlesLeft {parent : DosHandleFrame} (hdepth : machine.handleDepth ≤ 8)
    (handle : Nat) :
    handle ∈ dosHandlesLeft machine parent ↔
      machine.table.Holds handle ∧ ¬HeldBelow machine machine.handleDepth handle ∧
        ¬parent.Holds handle := by
  unfold dosHandlesLeft
  rw [mem_map]
  constructor
  · rintro ⟨index, hmem, rfl⟩
    have hindex := of_decide_eq_true (mem_filter.mp hmem).2
    obtain ⟨hzero, hparent, hhas, -⟩ := hindex
    refine ⟨⟨hzero, index, rfl⟩, not_heldByParent hdepth hparent, fun hholds => ?_⟩
    rw [(has_iff parent _).mpr hholds.2] at hhas
    cases hhas
  · rintro ⟨⟨hzero, hslots⟩, hbelow, hnot⟩
    -- the first slot that has the handle is the one it is closed through
    have hfirst := Fin.find_spec hslots
    refine ⟨Fin.find _ hslots, mem_filter.mpr ⟨mem_finRange _, ?_⟩, hfirst⟩
    refine decide_eq_true ⟨by rw [hfirst]; exact hzero, ?_, ?_, ?_⟩
    · rw [hfirst]
      refine Bool.eq_false_of_not_eq_true fun hheld => hbelow ?_
      exact (heldByParent_iff hdepth handle).mp hheld
    · rw [hfirst]
      refine Bool.eq_false_of_not_eq_true fun hhas => hnot ⟨hzero, (has_iff parent handle).mp hhas⟩
    · rintro ⟨earlier, hlt, hearlier⟩
      exact Fin.find_min hslots hlt (hearlier.trans hfirst)

theorem dosHandlesLeft_nodup (parent : DosHandleFrame) : (dosHandlesLeft machine parent).Nodup := by
  refine List.Nodup.map_on ?_ ((nodup_finRange 128).filter _)
  intro left hleft right hright hsame
  have hleftFirst := (of_decide_eq_true (mem_filter.mp hleft).2).2.2.2
  have hrightFirst := (of_decide_eq_true (mem_filter.mp hright).2).2.2.2
  rcases lt_trichotomy left right with hlt | heq | hgt
  · exact absurd ⟨left, hlt, hsame⟩ hrightFirst
  · exact heq
  · exact absurd ⟨right, hgt, hsame.symm⟩ hleftFirst

theorem dosHandlesPop_eq (hmachine : machine.handleDepth = depth + 1) (hdepth : depth < 8) :
    dosHandlesPop machine false =
      ({ machine with handleDepth := depth, table := machine.handleStack depth },
        dosHandlesLeft { machine with handleDepth := depth } (machine.handleStack depth)) := by
  unfold dosHandlesPop
  rw [hmachine]
  dsimp only
  rw [if_neg (show ¬dosHandleStackDepth ≤ depth from Nat.not_le_of_lt hdepth),
    if_neg Bool.false_ne_true]

theorem heldBelow_succ :
    HeldBelow machine (depth + 1) handle ↔
      (machine.handleStack depth).Holds handle ∨ HeldBelow machine depth handle := by
  constructor
  · rintro ⟨below, hbelow, hholds⟩
    by_cases htop : below = depth
    · exact .inl (htop ▸ hholds)
    · exact .inr ⟨below, by omega, hholds⟩
  · rintro (hholds | hbelow)
    · exact ⟨depth, Nat.lt_succ_self _, hholds⟩
    · exact hbelow.mono (Nat.le_succ _)

theorem int21Terminate_accounts (hsound : Sound machine live) (parentPsp : Nat) :
    Accounts live (int21Terminate machine parentPsp) := by
  unfold int21Terminate
  cases hdepth : machine.handleDepth with
  | zero =>
    have hpop : dosHandlesPop machine false = (machine, []) := by
      unfold dosHandlesPop
      rw [hdepth]
    rw [hpop]
    exact (accounts_nil hsound).congr ⟨⟨rfl, rfl⟩, rfl⟩
  | succ depth =>
    have hle := hsound.depth_le
    rw [dosHandlesPop_eq hdepth (by lia)]
    have hleft := fun handle => @mem_dosHandlesLeft { machine with handleDepth := depth }
      (machine.handleStack depth) (show depth ≤ 8 by lia) handle
    have hheld : ∀ handle, handle ∈ live ↔ machine.table.Holds handle ∨
        (machine.handleStack depth).Holds handle ∨ HeldBelow machine depth handle := by
      intro handle
      rw [hsound.live_iff, Held, hdepth, heldBelow_succ]
    refine ⟨dosHandlesLeft_nodup _, fun handle hmem => ?_, show depth ≤ 8 by lia,
      fun handle => ?_, ?_, fun below hlt => ?_⟩
    · exact (hheld handle).mpr (.inl ((hleft handle).mp hmem).1)
    · simp only [Set.mem_sdiff, Set.mem_ofPred_eq, hheld, hleft]
      constructor
      · rintro ⟨hholds | hparent | hbelow, hnot⟩
        · by_contra hnotHeld
          refine hnot ⟨hholds, fun hbelow => hnotHeld (.inr hbelow), fun hparent => ?_⟩
          exact hnotHeld (.inl hparent)
        · exact .inl hparent
        · exact .inr hbelow
      · rintro (hparent | hbelow)
        · exact ⟨.inr (.inl hparent), fun hclosed => hclosed.2.2 hparent⟩
        · exact ⟨.inr (.inr hbelow), fun hclosed => hclosed.2.1 hbelow⟩
    · exact hsound.unsharedBelow depth (by lia)
    · exact hsound.unsharedBelow below (by dsimp only at hlt; lia)

theorem int21Terminate_table (hmachine : machine.handleDepth = depth + 1) (hdepth : depth < 8)
    (parentPsp : Nat) : (int21Terminate machine parentPsp).1.table = machine.handleStack depth := by
  unfold int21Terminate
  rw [dosHandlesPop_eq hmachine hdepth]

end Exec

/-! ## Runs -/

/-- A service of INT 21h, or the guest writing its memory or choosing another PSP. -/
inductive HandleEvent where
  | openFile (file : Nat) (isTold : Bool)
  | openProtected (file : Nat)
  | close (handle : Nat) (isTold : Bool)
  | release (slot : Nat)
  | dup (source duplicate : Nat) (isTold : Bool)
  | dup2 (source target duplicate : Nat) (isTold : Bool)
  | exec (childPsp : Nat)
  | terminate (parentPsp : Nat)
  | guest (memory : ByteMemory) (pspSegment : Nat)

/-- The machine after a service, and what it closed. -/
def handleService (machine : DosHandles) : HandleEvent → DosHandles × List Nat
  | .openFile file isTold => int21Open machine file isTold
  | .openProtected file => dpmiInt21Open machine file
  | .close handle isTold => int21Close machine handle isTold
  | .release slot => int21Release machine slot
  | .dup source duplicate isTold => int21Dup machine source duplicate isTold
  | .dup2 source target duplicate isTold => int21Dup2 machine source target duplicate isTold
  | .exec childPsp => (int21Exec machine childPsp, [])
  | .terminate parentPsp => int21Terminate machine parentPsp
  | .guest memory pspSegment => ({ machine with memory, pspSegment }, [])

def handleOpened (machine : DosHandles) : HandleEvent → Option Nat
  | .openFile file _ => some file
  | .openProtected file => some file
  | .dup source duplicate _ => duplicateOf source duplicate
  | .dup2 source _ duplicate _ => duplicateOf source duplicate
  | _ => none
where
  duplicateOf (source duplicate : Nat) : Option Nat :=
    if dosHandleIsDevice machine.table source then none
    else if dosHandleIsFile machine.table source then some duplicate
    else none

/-- The machine, the open host handles, and the tables of the programs that wait. -/
structure HandleRun where
  machine : DosHandles
  live : Set Nat
  waiting : List DosHandleFrame

/-- The open handles once a service has opened its own. -/
def HandleRun.opened (run : HandleRun) (event : HandleEvent) : Set Nat :=
  run.live ∪ {handle | handleOpened run.machine event = some handle}

def HandleRun.next (run : HandleRun) (event : HandleEvent) : HandleRun where
  machine := (handleService run.machine event).1
  live := run.opened event \ {handle | handle ∈ (handleService run.machine event).2}
  waiting :=
    match event with
    | .exec _ => run.machine.table :: run.waiting
    | .terminate _ => run.waiting.tail
    | _ => run.waiting

/-- The host gives handles that are not open, EXEC nests at most eight deep, and takes over
handles that are held. -/
def HandleStep (before : HandleRun) (event : HandleEvent) (after : HandleRun) : Prop :=
  after = before.next event ∧
    (∀ handle, handleOpened before.machine event = some handle →
      handle ≠ 0 ∧ handle ∉ before.live) ∧
    ∀ childPsp, event = .exec childPsp →
      before.machine.handleDepth < dosHandleStackDepth ∧ ExecIsSound before.machine

theorem opened_none {run : HandleRun} (hnone : handleOpened run.machine event = none)
    : run.opened event = run.live := by
  unfold HandleRun.opened
  rw [hnone]
  simp

theorem opened_some {run : HandleRun} (hsome : handleOpened run.machine event = some handle) :
    run.opened event = insert handle run.live := by
  unfold HandleRun.opened
  rw [hsome]
  ext other
  simp [eq_comm]

theorem handleStep_accounts {after : HandleRun} (hsound : Sound before.machine before.live)
    (hstep : HandleStep before event after) :
    Accounts (before.opened event) (handleService before.machine event) := by
  obtain ⟨-, hfresh, hexec⟩ := hstep
  cases event with
  | openFile file isTold =>
    obtain ⟨hzero, hnew⟩ := hfresh file rfl
    rw [opened_some rfl]
    exact int21Open_accounts hsound hzero hnew isTold
  | openProtected file =>
    obtain ⟨hzero, hnew⟩ := hfresh file rfl
    rw [opened_some rfl]
    exact dpmiInt21Open_accounts hsound hzero hnew
  | close handle isTold =>
    rw [opened_none rfl]
    exact int21Close_accounts hsound handle isTold
  | release slot =>
    rw [opened_none rfl]
    exact dosHandleRelease_accounts hsound slot
  | dup source duplicate isTold =>
    cases hdevice : dosHandleIsDevice before.machine.table source with
    | true =>
      have hopened : handleOpened before.machine (.dup source duplicate isTold) = none :=
        if_pos hdevice
      rw [opened_none hopened]
      exact int21Dup_device hsound isTold hdevice
    | false =>
      cases hfile : dosHandleIsFile before.machine.table source with
      | true =>
        have hopened : handleOpened before.machine (.dup source duplicate isTold) =
            some duplicate := by
          simp [handleOpened, handleOpened.duplicateOf, hdevice, hfile]
        obtain ⟨hzero, hnew⟩ := hfresh duplicate hopened
        rw [opened_some hopened]
        exact int21Dup_file hsound isTold hdevice hfile hzero hnew
      | false =>
        have hopened : handleOpened before.machine (.dup source duplicate isTold) = none := by
          simp [handleOpened, handleOpened.duplicateOf, hdevice, hfile]
        have hnothing : int21Dup before.machine source duplicate isTold =
            (before.machine, []) := by
          simp [int21Dup, hdevice, hfile]
        rw [opened_none hopened]
        show Accounts _ (int21Dup before.machine source duplicate isTold)
        rw [hnothing]
        exact accounts_nil hsound
  | dup2 source target duplicate isTold =>
    cases hdevice : dosHandleIsDevice before.machine.table source with
    | true =>
      have hopened : handleOpened before.machine (.dup2 source target duplicate isTold) = none :=
        if_pos hdevice
      rw [opened_none hopened]
      exact int21Dup2_device hsound isTold hdevice
    | false =>
      cases hfile : dosHandleIsFile before.machine.table source with
      | true =>
        have hopened : handleOpened before.machine (.dup2 source target duplicate isTold) =
            some duplicate := by
          simp [handleOpened, handleOpened.duplicateOf, hdevice, hfile]
        obtain ⟨hzero, hnew⟩ := hfresh duplicate hopened
        rw [opened_some hopened]
        exact int21Dup2_file hsound isTold hdevice hfile hzero hnew
      | false =>
        have hopened : handleOpened before.machine (.dup2 source target duplicate isTold) =
            none := by
          simp [handleOpened, handleOpened.duplicateOf, hdevice, hfile]
        have hnothing : int21Dup2 before.machine source target duplicate isTold =
            (before.machine, []) := by
          simp [int21Dup2, hdevice, hfile]
        rw [opened_none hopened]
        show Accounts _ (int21Dup2 before.machine source target duplicate isTold)
        rw [hnothing]
        exact accounts_nil hsound
  | exec childPsp =>
    obtain ⟨hdepth, htaken⟩ := hexec childPsp rfl
    rw [opened_none rfl]
    exact accounts_nil (int21Exec_sound hsound hdepth htaken childPsp)
  | terminate parentPsp =>
    rw [opened_none rfl]
    exact int21Terminate_accounts hsound parentPsp
  | guest memory pspSegment =>
    rw [opened_none rfl]
    exact (accounts_nil hsound).congr ⟨⟨rfl, rfl⟩, rfl⟩

/-- The saved tables are those of the waiting programs. -/
structure Waits (run : HandleRun) : Prop where
  depth : run.machine.handleDepth = run.waiting.length
  stacked : Stacked Eq run.machine.handleStack run.waiting

theorem waits_of_sameStack (hwaits : Waits before)
    (hsame : SameStack before.machine (handleService before.machine event).1)
    (hwaiting : (before.next event).waiting = before.waiting) : Waits (before.next event) := by
  refine ⟨?_, ?_⟩
  · rw [hwaiting]
    exact hsame.depth.trans hwaits.depth
  · rw [hwaiting]
    show Stacked Eq (handleService before.machine event).1.handleStack before.waiting
    rw [hsame.stack]
    exact hwaits.stacked

theorem handleStep_waits (hwaits : Waits before)
    (hdepth : ∀ childPsp, event = .exec childPsp → before.machine.handleDepth < 8)
    (hle : before.machine.handleDepth ≤ 8) : Waits (before.next event) := by
  cases event with
  | openFile file isTold => exact waits_of_sameStack hwaits (int21Open_stack _ _ _) rfl
  | openProtected file => exact waits_of_sameStack hwaits (dpmiInt21Open_stack _ _) rfl
  | close handle isTold => exact waits_of_sameStack hwaits (int21Close_stack _ _ _) rfl
  | release slot => exact waits_of_sameStack hwaits (dosHandleRelease_stack _ _) rfl
  | dup source duplicate isTold => exact waits_of_sameStack hwaits (int21Dup_stack _ _ _ _) rfl
  | dup2 source target duplicate isTold =>
    exact waits_of_sameStack hwaits (int21Dup2_stack _ _ _ _ _) rfl
  | exec childPsp =>
    obtain ⟨hstack, hcount⟩ := int21Exec_stack (hdepth childPsp rfl) childPsp
    refine ⟨hcount.trans (congrArg (· + 1) hwaits.depth), ?_⟩
    show Stacked Eq (int21Exec before.machine childPsp).handleStack
      (before.machine.table :: before.waiting)
    rw [hstack, hwaits.depth]
    exact hwaits.stacked.push rfl
  | terminate parentPsp =>
    cases hwaiting : before.waiting with
    | nil =>
      have hzero : before.machine.handleDepth = 0 := by rw [hwaits.depth, hwaiting]; rfl
      have hpop : dosHandlesPop before.machine false = (before.machine, []) := by
        unfold dosHandlesPop
        rw [hzero]
      refine ⟨?_, ?_⟩
      · show (int21Terminate before.machine parentPsp).1.handleDepth = before.waiting.tail.length
        unfold int21Terminate
        rw [hpop, hwaiting]
        exact hzero
      · show Stacked Eq _ before.waiting.tail
        rw [hwaiting]
        trivial
    | cons table waiting =>
      have hsucc : before.machine.handleDepth = waiting.length + 1 := by
        rw [hwaits.depth, hwaiting]
        rfl
      have hstacked := hwaits.stacked
      rw [hwaiting] at hstacked
      have hpop := dosHandlesPop_eq hsucc (by omega)
      refine ⟨?_, ?_⟩
      · show (int21Terminate before.machine parentPsp).1.handleDepth = before.waiting.tail.length
        unfold int21Terminate
        rw [hpop, hwaiting]
        rfl
      · show Stacked Eq (int21Terminate before.machine parentPsp).1.handleStack before.waiting.tail
        unfold int21Terminate
        rw [hpop, hwaiting]
        exact hstacked.2
  | guest memory pspSegment => exact waits_of_sameStack hwaits ⟨rfl, rfl⟩ rfl

/-- A machine with nothing open but the standard devices. -/
def DosHandles.initial (jftKnown : Fin 20 → UInt8) (handleStack : Nat → DosHandleFrame)
    (pspSegment : Nat) (memory : ByteMemory) : DosHandles where
  table :=
    { fileHandles := fun _ => 0
      stdOpen := 0x1F
      deviceKind := fun handle => dosDeviceDefault handle.val
      jftKnown }
  handleStack
  handleDepth := 0
  sftHost := fun _ => 0
  pspSegment
  memory

section Run

variable {jftKnown : Fin 20 → UInt8} {handleStack : Nat → DosHandleFrame} {pspSegment : Nat}
  {memory : ByteMemory} {events : List HandleEvent} {reached : HandleRun}

theorem handleRun_sound
    (hrun : Run HandleStep ⟨.initial jftKnown handleStack pspSegment memory, ∅, []⟩ events
      reached) : Sound reached.machine reached.live ∧ Waits reached := by
  refine hrun.invariant (fun run => Sound run.machine run.live ∧ Waits run) ?_ ⟨?_, rfl, trivial⟩
  · intro before event after ⟨hsound, hwaits⟩ hstep
    have haccounts := handleStep_accounts hsound hstep
    obtain ⟨rfl, -, hexec⟩ := hstep
    exact ⟨haccounts.sound, handleStep_waits hwaits (fun childPsp heq => (hexec childPsp heq).1)
      hsound.depth_le⟩
  · refine ⟨Nat.zero_le _, fun handle => ?_, fun _ _ _ _ hzero => absurd rfl hzero, fun _ h => ?_⟩
    · refine iff_of_false (Set.notMem_empty _) ?_
      rintro (⟨hzero, _, hslot⟩ | ⟨below, hbelow, -⟩)
      · exact hzero hslot.symm
      · exact absurd hbelow (Nat.not_lt_zero _)
    · exact absurd h (Nat.not_lt_zero _)

/-- In every run: the open host handles are the held ones; what a service closes was open, is
closed once and is held by nobody after; and the end of a program gives its parent back the table
it had when the program was started. -/
theorem handles_survive_exec
    (hrun : Run HandleStep ⟨.initial jftKnown handleStack pspSegment memory, ∅, []⟩ events
      reached) :
    (∀ handle, handle ∈ reached.live ↔ Held reached.machine handle) ∧
    (∀ event after, HandleStep reached event after →
      (handleService reached.machine event).2.Nodup ∧
      ∀ handle ∈ (handleService reached.machine event).2,
        handle ∈ reached.opened event ∧ ¬Held after.machine handle) ∧
    reached.machine.handleDepth = reached.waiting.length ∧
    ∀ parentPsp table waiting, reached.waiting = table :: waiting →
      (int21Terminate reached.machine parentPsp).1.table = table := by
  obtain ⟨hsound, hwaits⟩ := handleRun_sound hrun
  refine ⟨hsound.live_iff, fun event after hstep => ?_, hwaits.depth,
    fun parentPsp table waiting hwaiting => ?_⟩
  · obtain ⟨hnodup, hopen, hafter⟩ := handleStep_accounts hsound hstep
    refine ⟨hnodup, fun handle hmem => ⟨hopen handle hmem, fun hheld => ?_⟩⟩
    obtain ⟨rfl, -, -⟩ := hstep
    exact ((hafter.live_iff handle).mpr hheld).2 hmem
  · have hsucc : reached.machine.handleDepth = waiting.length + 1 := by
      rw [hwaits.depth, hwaiting]
      rfl
    have hle := hsound.depth_le
    have hstacked := hwaits.stacked
    rw [hwaiting] at hstacked
    rw [int21Terminate_table hsucc (by omega)]
    exact hstacked.1

end Run

/-- Two PSPs at 10h and 20h, the first with these first bytes of its JFT. -/
def shellMemory (jft : List UInt8) : ByteMemory := fun address =>
  if address = 0x132 ∨ address = 0x232 then 20
  else if address = 0x134 ∨ address = 0x234 then 0x18
  else if address = 0x136 then 0x10
  else if address = 0x236 then 0x20
  else if 0x118 ≤ address ∧ address < 0x12C then jft.getD (address - 0x118) 0xFF
  else 0

def shellMachine : DosHandles :=
  .initial (fun handle => [1, 1, 1, 0, 2].getD handle.val 0xFF)
    (fun _ =>
      { fileHandles := fun _ => 0, stdOpen := 0, deviceKind := fun _ => 0, jftKnown := fun _ => 0 })
    0x10 (shellMemory [1, 1, 1, 0, 2])

def shellRun : HandleRun :=
  ((⟨shellMachine, ∅, []⟩ : HandleRun).next (.openFile 0x100 true)).next (.exec 0x20)

theorem handles_survive_exec_shell :
    (int21Terminate shellRun.machine 0x10).1.table = (int21Open shellMachine 0x100 true).1.table ∧
      0x100 ∈ shellRun.live := by
  have hopen : HandleStep ⟨shellMachine, ∅, []⟩ (.openFile 0x100 true)
      ((⟨shellMachine, ∅, []⟩ : HandleRun).next (.openFile 0x100 true)) := by
    refine ⟨rfl, fun handle h => ?_, (fun _ h => by cases h)⟩
    obtain rfl := Option.some.inj h
    exact ⟨by decide, Set.notMem_empty _⟩
  have hnone : ∀ handle : Fin 5,
      takenOver (int21Open shellMachine 0x100 true).1 handle = none := by decide
  have hexec : HandleStep ((⟨shellMachine, ∅, []⟩ : HandleRun).next (.openFile 0x100 true))
      (.exec 0x20) shellRun := by
    refine ⟨rfl, fun _ h => (Option.some_ne_none _ h.symm).elim, fun _ _ => ⟨by decide, ?_⟩⟩
    intro handle host h
    exact (Option.some_ne_none host (h.symm.trans (hnone handle))).elim
  have hrun := (Run.single hopen).snoc hexec
  obtain ⟨hlive, -, -, htable⟩ := handles_survive_exec hrun
  refine ⟨htable 0x10 _ [] rfl, (hlive 0x100).mpr (.inr ⟨0, by decide, by decide, 5, ?_⟩)⟩
  decide

def handleCloses : DosHandles → List HandleEvent → List Nat
  | _, [] => []
  | machine, event :: events =>
    (handleService machine event).2 ++ handleCloses (handleService machine event).1 events

/-- A file is opened as handle 5, duplicated as 6 and closed as 5; the JFT byte of 6, whose index
still names the closed host handle, is copied to standard output by the guest, and a child is run:
the host handle is closed a second time when the child ends. -/
theorem duplicate_outlives_its_index :
    handleCloses shellMachine
      [.openFile 0x100 true, .dup 5 0x101 true, .close 5 true,
        .guest (shellMemory [1, 3, 1, 0, 2, 0xFF, 3]) 0x10, .exec 0x20, .terminate 0x10] =
      [0x100, 0x100] := by
  decide +kernel

end Ntvdmex.Dos.Handles
