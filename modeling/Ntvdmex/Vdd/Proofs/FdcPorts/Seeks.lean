import Ntvdmex.Vdd.Proofs.FdcPorts.Reports

/-!
# Completed seeks and their reports

What SENSE INTERRUPT STATUS has still to report, kept in one account over a whole run: a seek is
owed from the moment it completes until a sense has named its drive.
-/

namespace Ntvdmex.Vdd.FdcPorts

open Vdd.Fdc Function FdcState
open Foundation (Throughout throughout_of_checkRun)

local instance neZeroSeek4 : NeZero 4 := ⟨by decide⟩
local instance neZeroSeek16 : NeZero 16 := ⟨by decide⟩

/-! ## The account -/

/-- What is still to be reported: the cylinder each drive has sought, the drives left to poll,
and the status of the last command that moved data. -/
structure Owed where
  seeks : Fin 4 → Option Nat
  polls : Nat
  isDataUnread : Bool

def Owed.isNothing (owed : Owed) : Prop :=
  (∀ drive, owed.seeks drive = none) ∧ owed.polls = 0 ∧ owed.isDataUnread = false
deriving Decidable

/-- After a reset only the poll of the drives is owed. -/
def Owed.atReset (chip : FdcChip) : Owed := ⟨fun _ => none, 4 - chip.pollDrive, false⟩

def Owed.sought (owed : Owed) (drive : Fin 4) (cylinder : Nat) : Owed :=
  { owed with
    seeks := Function.update owed.seeks drive (some cylinder)
    isDataUnread := false }

/-- The answer to a sense settles what it names. -/
def Owed.sensed (owed : Owed) (result : List Nat) : Owed :=
  match result with
  | [status0, _] =>
    if status0 &&& fdcSt0SeekEnd ≠ 0 then
      { owed with seeks := Function.update owed.seeks (Fin.ofNat 4 status0) none }
    else if status0 &&& fdcSt0InvalidCommand ≠ 0 then { owed with polls := owed.polls - 1 }
    else { owed with isDataUnread := false }
  | _ => owed

section Boards

variable {σ : Type} (callbacks : FdcCallbacks σ)

/-- The account after an event that has taken the chip from `before` to `after`. -/
def Owed.follow (owed : Owed) (before : FdcChip) (event : FdcEvent σ) (after : FdcChip) : Owed :=
  match event.executes before with
  | some stored =>
    if stored.opcode = fdcCmdSeek then
      owed.sought (FdcState.parameterDrive stored.fdc) (stored.fdc.command 2).toNat
    else if stored.opcode = fdcCmdRecalibrate then
      owed.sought (FdcState.parameterDrive stored.fdc) 0
    else if stored.opcode = fdcCmdSenseInterrupt then owed.sensed after.fdc.result
    else if EndsWithStatus stored.opcode ∧ after.fdc.phase = .result then
      { owed with isDataUnread := true }
    else owed
  | none =>
    if before.fdc.phase = .execution ∧ after.fdc.phase = .result then
      { owed with isDataUnread := true }
    else owed

variable (state : FdcBoard σ × Owed) (event : FdcEvent σ)

def followStep : FdcBoard σ × Owed :=
  match fdcAccess callbacks state.1 event with
  | some (after, _) => (after, state.2.follow state.1.chip event after.chip)
  | none => state

def NoReset : Prop :=
  ¬event.isReset state.1.chip
deriving Decidable

/-- No seek of another drive, and no command with a status of its own, is executed over a seek
that is still owed. -/
def SensesFirst : Prop :=
  ∀ stored ∈ event.executes state.1.chip,
    (stored.opcode = fdcCmdSeek ∨ stored.opcode = fdcCmdRecalibrate →
      ∀ drive, drive ≠ FdcState.parameterDrive stored.fdc → state.2.seeks drive = none) ∧
    (EndsWithStatus stored.opcode → ∀ drive, state.2.seeks drive = none)
deriving Decidable

/-- The answer to a sense reports what is owed and nothing else. -/
structure SenseAnswered (owed : Owed) (result : List Nat) : Prop where
  seek : ∀ drive cylinder, owed.seeks drive = some cylinder →
    ∃ head ≤ 1, result = [fdcSt0SeekEnd ||| head <<< 2 ||| drive.val, cylinder]
  onlyOwed : ∀ status0 cylinder, result = [status0, cylinder] → status0 &&& fdcSt0SeekEnd ≠ 0 →
    owed.seeks (Fin.ofNat 4 status0) = some cylinder
  nothing : result = [fdcSt0InvalidCommand] ↔ owed.isNothing

/-! ## The pending status -/

/-- What the one pending status stands for. -/
inductive Slot (chip : FdcChip) (owed : Owed) : Prop
  | empty (hpending : chip.fdc.isIrqPending = false) (hseeks : ∀ drive, owed.seeks drive = none)
      (hdata : owed.isDataUnread = false)
  | status (hpending : chip.fdc.isIrqPending = true) (hstatus : IsDataStatus chip.fdc.pendingSt0)
      (hseeks : ∀ drive, owed.seeks drive = none) (hdata : owed.isDataUnread = true)
  | seek (drive : Fin 4) (head : Nat) (hhead : head ≤ 1) (hpending : chip.fdc.isIrqPending = true)
      (hstatus : chip.fdc.pendingSt0 = fdcSt0SeekEnd ||| head <<< 2 ||| drive.val)
      (hseeks : owed.seeks =
        Function.update (fun _ => none) drive (some (chip.fdc.presentCylinder drive)))
      (hdata : owed.isDataUnread = false)

variable {before after : FdcChip}

theorem Slot.congr {owed : Owed} (h : Slot before owed) (hkeeps : KeepsReports before after) :
    Slot after owed := by
  cases h with
  | empty hpending hseeks hdata =>
    exact .empty (hkeeps.isIrqPending.trans hpending) hseeks hdata
  | status hpending hstatus hseeks hdata =>
    exact .status (hkeeps.isIrqPending.trans hpending) (hkeeps.pendingSt0 ▸ hstatus) hseeks hdata
  | seek drive head hhead hpending hstatus hseeks hdata =>
    refine .seek drive head hhead (hkeeps.isIrqPending.trans hpending)
      (hkeeps.pendingSt0.trans hstatus) ?_ hdata
    rw [hkeeps.presentCylinder, hseeks]

theorem LeavesStatus.slot {owed : Owed} (h : LeavesStatus before after)
    (hseeks : ∀ drive, owed.seeks drive = none) : Slot after { owed with isDataUnread := true } :=
  .status h.isIrqPending h.pendingSt0 hseeks rfl

theorem fdcSeek_slot (chip : FdcChip) {owed : Owed} {drive : Fin 4} (cylinder : Nat) {head : Nat}
    (hhead : head ≤ 1) (hothers : ∀ other, other ≠ drive → owed.seeks other = none) :
    Slot (fdcSeek chip drive cylinder head) (owed.sought drive cylinder) := by
  refine .seek drive head hhead rfl rfl ?_ rfl
  have hcylinder : (fdcSeek chip drive cylinder head).fdc.presentCylinder drive = cylinder :=
    update_self ..
  rw [hcylinder]
  funext other
  change update owed.seeks drive (some cylinder) other = _
  by_cases hother : other = drive
  · rw [hother, update_self, update_self]
  · rw [update_of_ne hother, update_of_ne hother, hothers other hother]

theorem seekEnd_status {head : Nat} (hhead : head ≤ 1) (drive : Fin 4) :
    Fin.ofNat 4 (fdcSt0SeekEnd ||| head <<< 2 ||| drive.val) = drive ∧
      (fdcSt0SeekEnd ||| head <<< 2 ||| drive.val) &&& fdcSt0SeekEnd ≠ 0 := by
  have hheads : head = 0 ∨ head = 1 := by omega
  rcases hheads with rfl | rfl <;> revert drive <;> decide

theorem dataStatus_bits {status0 : Nat} (h : IsDataStatus status0) :
    status0 &&& fdcSt0SeekEnd = 0 ∧ status0 &&& fdcSt0InvalidCommand = 0 := by
  constructor
  · calc status0 &&& 0x20 = status0 &&& 0xA0 &&& 0x20 := (Nat.land_assoc status0 0xA0 0x20).symm
      _ = 0 := by rw [h, Nat.zero_and]
  · calc status0 &&& 0x80 = status0 &&& 0xA0 &&& 0x80 := (Nat.land_assoc status0 0xA0 0x80).symm
      _ = 0 := by rw [h, Nat.zero_and]

theorem pollStatus_bits {drive : Nat} (h : drive < 4) :
    (fdcSt0ReadyChanged ||| drive) &&& fdcSt0SeekEnd = 0 ∧
      (fdcSt0ReadyChanged ||| drive) &&& fdcSt0InvalidCommand ≠ 0 := by
  interval_cases drive <;> decide

variable {chip : FdcChip} {owed : Owed}

/-- What a sense answers, and what it leaves. -/
structure SenseReports (chip : FdcChip) (owed : Owed) : Prop where
  answered : SenseAnswered owed (fdcSenseInterrupt chip).fdc.result
  settled : ∀ drive, (owed.sensed (fdcSenseInterrupt chip).fdc.result).seeks drive = none
  slot : Slot (fdcSenseInterrupt chip) (owed.sensed (fdcSenseInterrupt chip).fdc.result)
  polls : (owed.sensed (fdcSenseInterrupt chip).fdc.result).polls =
    4 - (fdcSenseInterrupt chip).pollDrive

theorem senseReports_seek {drive : Fin 4} {head : Nat} (hhead : head ≤ 1)
    (hpending : chip.fdc.isIrqPending = true)
    (hstatus : chip.fdc.pendingSt0 = fdcSt0SeekEnd ||| head <<< 2 ||| drive.val)
    (hseeks : owed.seeks =
      update (fun _ => none) drive (some (chip.fdc.presentCylinder drive)))
    (hdata : owed.isDataUnread = false) (hpolls : owed.polls = 4 - chip.pollDrive) :
    SenseReports chip owed := by
  obtain ⟨hdrive, hbit⟩ := seekEnd_status hhead drive
  have hsense : fdcSenseInterrupt chip =
      chip.withFdc (fdcResult { chip.fdc with isIrqPending := false }
        [chip.fdc.pendingSt0, chip.fdc.presentCylinder (Fin.ofNat 4 chip.fdc.pendingSt0)]) :=
    if_pos hpending
  have hresult : (fdcSenseInterrupt chip).fdc.result =
      [fdcSt0SeekEnd ||| head <<< 2 ||| drive.val, chip.fdc.presentCylinder drive] := by
    rw [hsense, hstatus, hdrive]
    rfl
  have hsettled : owed.sensed (fdcSenseInterrupt chip).fdc.result =
      { owed with seeks := fun _ => none } := by
    rw [hresult]
    unfold Owed.sensed
    dsimp only
    rw [if_pos hbit, hdrive, hseeks, update_idem]
    congr
    exact update_eq_self drive fun _ => none
  refine ⟨⟨fun other cylinder hother => ?_, fun status0 cylinder heq _ => ?_, ?_⟩, ?_, ?_, ?_⟩
  · rw [hseeks] at hother
    by_cases hsame : other = drive
    · rw [hsame, update_self, Option.some.injEq] at hother
      exact ⟨head, hhead, by rw [hresult, hsame, hother]⟩
    · rw [update_of_ne hsame] at hother
      cases hother
  · rw [hresult] at heq
    cases heq
    rw [hdrive, hseeks, update_self]
  · rw [hresult]
    refine iff_of_false (by simp) fun hnothing => ?_
    have hnone := hnothing.1 drive
    rw [hseeks, update_self] at hnone
    cases hnone
  · intro other
    rw [hsettled]
  · rw [hsettled, hsense]
    exact .empty rfl (fun _ => rfl) hdata
  · rw [hsettled, hsense]
    exact hpolls

theorem senseReports_of_result {status0 cylinder : Nat} (settled : Owed)
    (hsense : fdcSenseInterrupt chip = after) (hresult : after.fdc.result = [status0, cylinder])
    (hbit : status0 &&& fdcSt0SeekEnd = 0) (hseeks : ∀ drive, owed.seeks drive = none)
    (howing : ¬owed.isNothing) (hsettled : owed.sensed [status0, cylinder] = settled)
    (hnone : ∀ drive, settled.seeks drive = none) (hslot : Slot after settled)
    (hpolls : settled.polls = 4 - after.pollDrive) : SenseReports chip owed := by
  refine ⟨⟨fun other cylinder hother => ?_, fun status cylinder heq hend => ?_, ?_⟩, ?_, ?_, ?_⟩
  · rw [hseeks] at hother
    cases hother
  · rw [hsense, hresult] at heq
    cases heq
    exact absurd hbit hend
  · rw [hsense, hresult]
    exact iff_of_false (by simp) howing
  all_goals rw [hsense, hresult, hsettled]
  · exact hnone
  · exact hslot
  · exact hpolls

theorem senseReports_status (hpending : chip.fdc.isIrqPending = true)
    (hstatus : IsDataStatus chip.fdc.pendingSt0) (hseeks : ∀ drive, owed.seeks drive = none)
    (hdata : owed.isDataUnread = true) (hpolls : owed.polls = 4 - chip.pollDrive) :
    SenseReports chip owed := by
  obtain ⟨hseekEnd, hinvalid⟩ := dataStatus_bits hstatus
  refine senseReports_of_result { owed with isDataUnread := false } (if_pos hpending)
    rfl hseekEnd hseeks ?_ ?_ hseeks (.empty rfl hseeks rfl) hpolls
  · intro hnothing
    rw [hnothing.2.2] at hdata
    cases hdata
  · exact (if_neg (not_not_intro hseekEnd)).trans (if_neg (not_not_intro hinvalid))

theorem senseReports_empty (hpending : chip.fdc.isIrqPending = false)
    (hseeks : ∀ drive, owed.seeks drive = none) (hdata : owed.isDataUnread = false)
    (hpolls : owed.polls = 4 - chip.pollDrive) : SenseReports chip owed := by
  have hnot : ¬chip.fdc.isIrqPending = true := by rw [hpending]; decide
  by_cases hpoll : chip.pollDrive < 4
  · obtain ⟨hseekEnd, hinvalid⟩ := pollStatus_bits hpoll
    refine senseReports_of_result { owed with polls := owed.polls - 1 }
      ((if_neg hnot).trans (if_pos hpoll)) rfl hseekEnd hseeks ?_ ?_ hseeks
      (.empty hpending hseeks hdata) ?_
    · intro hnothing
      have hzero := hnothing.2.1
      lia
    · exact (if_neg (not_not_intro hseekEnd)).trans (if_pos hinvalid)
    · lia
  · have hsense : fdcSenseInterrupt chip = fdcInvalid chip := (if_neg hnot).trans (if_neg hpoll)
    refine ⟨⟨fun other cylinder hother => ?_, fun status0 cylinder heq _ => ?_, ?_⟩, ?_, ?_, ?_⟩
    · rw [hseeks] at hother
      cases hother
    · rw [hsense] at heq
      cases heq
    · rw [hsense]
      exact iff_of_true rfl ⟨hseeks, by lia, hdata⟩
    all_goals rw [hsense]
    · exact hseeks
    · exact .empty hpending hseeks hdata
    · exact hpolls

theorem Slot.senseReports (h : Slot chip owed) (hpolls : owed.polls = 4 - chip.pollDrive) :
    SenseReports chip owed := by
  cases h with
  | empty hpending hseeks hdata => exact senseReports_empty hpending hseeks hdata hpolls
  | status hpending hstatus hseeks hdata =>
    exact senseReports_status hpending hstatus hseeks hdata hpolls
  | seek drive head hhead hpending hstatus hseeks hdata =>
    exact senseReports_seek hhead hpending hstatus hseeks hdata hpolls

/-! ## One event -/

/-- The chip and the account agree. -/
structure Accounts (chip : FdcChip) (owed : Owed) : Prop where
  place : InPlace chip
  head : chip.fdc.phase = .execution → chip.fdc.execHead ≤ 1
  polls : owed.polls = 4 - chip.pollDrive
  slot : Slot chip owed
  moving : chip.fdc.phase = .execution → ∀ drive, owed.seeks drive = none

theorem DataStep.accounts (h : DataStep before after) (hplace : InPlace after)
    (hpolls : owed.polls = 4 - before.pollDrive) (hslot : Slot before owed)
    (hseeks : ∀ drive, owed.seeks drive = none) : Accounts after
      (if after.fdc.phase = .result then { owed with isDataUnread := true } else owed) := by
  rcases h with hended | ⟨hkeeps, hphase, hhead⟩
  · have hmoving : after.fdc.phase ≠ .execution := by
      rw [hended.phase]
      decide
    rw [if_pos hended.phase]
    refine ⟨hplace, fun h => absurd h hmoving, ?_, hended.slot hseeks, fun _ => hseeks⟩
    rw [hended.pollDrive]
    exact hpolls
  · have hnot : ¬after.fdc.phase = .result := by
      rw [hphase]
      decide
    rw [if_neg hnot]
    refine ⟨hplace, fun _ => hhead, ?_, hslot.congr hkeeps, fun _ => hseeks⟩
    rw [hkeeps.pollDrive]
    exact hpolls

theorem KeepsReports.accounts (h : KeepsReports before after) (hplace : InPlace after)
    (hpolls : owed.polls = 4 - before.pollDrive) (hslot : Slot before owed)
    (hphase : after.fdc.phase ≠ .execution) : Accounts after owed := by
  refine ⟨hplace, fun h' => absurd h' hphase, ?_, hslot.congr h, fun h' => absurd h' hphase⟩
  rw [h.pollDrive]
  exact hpolls

/-- An executed command keeps the account, when seeks are sensed first. -/
theorem executed_accounts {stored : FdcChip} {board : FdcBoard σ} (hplace : InPlace board.chip)
    (hpolls : owed.polls = 4 - stored.pollDrive) (hslot : Slot stored owed)
    (hseek : stored.opcode = fdcCmdSeek ∨ stored.opcode = fdcCmdRecalibrate →
      ∀ drive, drive ≠ parameterDrive stored.fdc → owed.seeks drive = none)
    (hstatus : EndsWithStatus stored.opcode → ∀ drive, owed.seeks drive = none) {host : σ}
    (hexecuted : fdcExecute callbacks ⟨stored, host⟩ = some board) (hafter : after = board.chip) :
    Accounts after
      (if stored.opcode = fdcCmdSeek then
        owed.sought (parameterDrive stored.fdc) (stored.fdc.command 2).toNat
      else if stored.opcode = fdcCmdRecalibrate then
        owed.sought (parameterDrive stored.fdc) 0
      else if stored.opcode = fdcCmdSenseInterrupt then owed.sensed after.fdc.result
      else if EndsWithStatus stored.opcode ∧ after.fdc.phase = .result then
        { owed with isDataUnread := true }
      else owed) := by
  subst hafter
  by_cases hdata : fdcIsDataCommand stored.opcode = true ∨ stored.opcode = fdcCmdFormatTrack
  · have hends : EndsWithStatus stored.opcode := hdata.elim .inl fun h => .inr (.inl h)
    have hother : stored.opcode ≠ fdcCmdSeek ∧ stored.opcode ≠ fdcCmdRecalibrate ∧
        stored.opcode ≠ fdcCmdSenseInterrupt := by
      refine ⟨?_, ?_, ?_⟩ <;>
        · intro heq
          rw [heq] at hdata
          revert hdata
          decide
    rw [if_neg hother.1, if_neg hother.2.1, if_neg hother.2.2,
      if_congr (and_iff_right hends) rfl rfl]
    exact (fdcExecute_data callbacks hdata hexecuted).accounts hplace hpolls hslot (hstatus hends)
  · obtain ⟨hnotData, hnotFormat⟩ := not_or.mp hdata
    have hcontrol := fdcExecute_control callbacks ⟨stored, host⟩ hnotData hnotFormat
      hexecuted
    have hmoving : board.chip.fdc.phase ≠ .execution := by
      rw [hcontrol]
      exact (fdcExecuteControl_answers _ _).answered.not_execution
    have hcounted : KeepsReports stored stored.counted := ⟨rfl, rfl, rfl, rfl⟩
    have hslot' := hslot.congr hcounted
    by_cases hisSeek : stored.opcode = fdcCmdSeek
    · rw [if_pos hisSeek]
      rw [hisSeek, fdcExecuteControl_seek] at hcontrol
      refine ⟨hplace, fun h => absurd h hmoving, ?_, ?_, fun h => absurd h hmoving⟩
      · rw [hcontrol]
        exact hpolls
      · rw [hcontrol]
        exact fdcSeek_slot stored.counted _ (parameterHead_le _) (hseek (.inl hisSeek))
    rw [if_neg hisSeek]
    by_cases hisRecalibrate : stored.opcode = fdcCmdRecalibrate
    · rw [if_pos hisRecalibrate]
      rw [hisRecalibrate, fdcExecuteControl_recalibrate] at hcontrol
      refine ⟨hplace, fun h => absurd h hmoving, ?_, ?_, fun h => absurd h hmoving⟩
      · rw [hcontrol]
        exact hpolls
      · rw [hcontrol]
        exact fdcSeek_slot stored.counted _ (Nat.zero_le 1) (hseek (.inr hisRecalibrate))
    rw [if_neg hisRecalibrate]
    by_cases hisSense : stored.opcode = fdcCmdSenseInterrupt
    · rw [if_pos hisSense]
      rw [hisSense, fdcExecuteControl_sense] at hcontrol
      have hreports := hslot'.senseReports hpolls
      refine ⟨hplace, fun h => absurd h hmoving, ?_, ?_, fun h => absurd h hmoving⟩
      · rw [hcontrol]
        exact hreports.polls
      · rw [hcontrol]
        exact hreports.slot
    rw [if_neg hisSense]
    by_cases hisReadId : stored.opcode = fdcCmdReadId
    · have hends : EndsWithStatus stored.opcode := .inr (.inr hisReadId)
      rw [if_congr (and_iff_right hends) rfl rfl]
      rw [hisReadId] at hcontrol
      have hleaves : LeavesStatus stored.counted board.chip := by
        rw [hcontrol]
        exact fdcReadId_leavesStatus stored.counted
      exact DataStep.accounts (.inl hleaves) hplace hpolls hslot' (hstatus hends)
    · have hnot : ¬EndsWithStatus stored.opcode := by
        rintro (h | h | h)
        · exact hnotData h
        · exact hnotFormat h
        · exact hisReadId h
      rw [if_neg fun h => hnot h.1]
      have hkeeps : KeepsReports stored.counted board.chip := by
        rw [hcontrol]
        exact fdcExecuteControl_keepsReports _ hisSense hisRecalibrate hisSeek hisReadId
      exact hkeeps.accounts hplace hpolls hslot' hmoving

theorem followStep_accounts {state : FdcBoard σ × Owed} {event : FdcEvent σ}
    (h : Accounts state.1.chip state.2) (hreset : NoReset state event)
    (hcareful : SensesFirst state event) :
    Accounts (followStep callbacks state event).1.chip (followStep callbacks state event).2 := by
  obtain ⟨board, owed⟩ := state
  obtain ⟨after, value, hafter, haccess⟩ := fdcAccess_access callbacks event h.place
  have hplace := haccess.inPlace h.place
  have hstep : followStep callbacks (board, owed) event =
      (after, owed.follow board.chip event after.chip) := by
    unfold followStep
    rw [hafter]
  rw [hstep]
  unfold Owed.follow
  cases hexecutes : event.executes board.chip with
  | some stored =>
    obtain ⟨hkeeps, hexecuted⟩ := executes_access callbacks hexecutes hafter
    obtain ⟨hseek, hstatus⟩ := hcareful stored hexecutes
    refine executed_accounts callbacks hplace ?_ (h.slot.congr hkeeps) hseek hstatus hexecuted rfl
    rw [hkeeps.pollDrive]
    exact h.polls
  | none =>
    by_cases hphase : board.chip.fdc.phase = .execution
    · rw [if_congr (and_iff_right hphase) rfl rfl]
      by_cases hfifo : event.isFifo
      · exact (access_execution callbacks hfifo hphase (h.head hphase) hafter).accounts hplace
          h.polls h.slot (h.moving hphase)
      · obtain ⟨hkeeps, hsame, hhead⟩ := access_elsewhere callbacks hfifo hreset hafter
        have hdata : DataStep board.chip after.chip :=
          .inr ⟨hkeeps, hsame.trans hphase, hhead ▸ h.head hphase⟩
        exact hdata.accounts hplace h.polls h.slot (h.moving hphase)
    · rw [if_neg fun hmoving => hphase hmoving.1]
      by_cases hfifo : event.isFifo
      · obtain ⟨hkeeps, hmoving⟩ := access_fifo_quiet callbacks hfifo hexecutes hphase hafter
        exact hkeeps.accounts hplace h.polls h.slot hmoving
      · obtain ⟨hkeeps, hsame, -⟩ := access_elsewhere callbacks hfifo hreset hafter
        exact hkeeps.accounts hplace h.polls h.slot (hsame ▸ hphase)

def AtReset (chip : FdcChip) : Prop :=
  (∃ isDmaPresent, chip = vddFdcReset isDmaPresent) ∨ ∃ before, chip = fdcSoftReset before

theorem AtReset.accounts {chip : FdcChip} (h : AtReset chip) :
    Accounts chip (Owed.atReset chip) := by
  have hidle : chip.fdc.phase = .command ∧ chip.fdc.commandLength = 0 ∧
      chip.fdc.isIrqPending = false := by
    rcases h with ⟨isDmaPresent, rfl⟩ | ⟨before, rfl⟩ <;> exact ⟨rfl, rfl, rfl⟩
  have hmoving : chip.fdc.phase ≠ .execution := by
    rw [hidle.1]
    decide
  exact ⟨inPlace_of_idle hidle.1 hidle.2.1, fun h => absurd h hmoving, rfl,
    .empty hidle.2.2 (fun _ => rfl) rfl, fun h => absurd h hmoving⟩

end Boards

/-- No drive has a medium and no 8237 answers. -/
def emptyDrives : FdcCallbacks Unit where
  geometry _ _ := none
  readSector _ _ := ((), none)
  writeSector _ _ _ := ((), false)
  isDmaPresent := false
  dmaRead _ _ := ((), [], false)
  dmaWrite _ _ := ((), 0, false)
  stack _ := fun _ => 0

def atPowerOn : FdcBoard Unit × Owed :=
  (⟨vddFdcReset false, ()⟩, Owed.atReset (vddFdcReset false))

def fifoBytes (bytes : List UInt8) : List (FdcEvent Unit) := bytes.map (.write fdcFifo)

theorem executes_write {chip : FdcChip} {value : UInt8}
    (h : chip.fdc.phase = .command ∧ chip.wantedWith value ≤ chip.fdc.commandLength + 1) :
    (FdcEvent.write fdcFifo value : FdcEvent Unit).executes chip = some (chip.store value) :=
  if_pos ⟨rfl, h⟩

end Ntvdmex.Vdd.FdcPorts
