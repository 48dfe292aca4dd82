import Ntvdmex.Vdd.Proofs.FdcPorts.Driver

/-!
# What SENSE INTERRUPT STATUS reports from

The pending status, the cylinders and the poll of the drives: which commands leave a status, and
which keep all of it.
-/

namespace Ntvdmex.Vdd.FdcPorts

open Vdd.Fdc Option FdcState

local instance neZeroReport16 : NeZero 16 := ⟨by decide⟩

/-! ## The registers the reports come from -/

/-- ST0 of a command that moves data: neither SEEK END nor an answer to polling. -/
def IsDataStatus (status0 : Nat) : Prop := status0 &&& 0xA0 = 0
deriving Decidable

structure KeepsReports (before after : FdcChip) : Prop where
  presentCylinder : after.fdc.presentCylinder = before.fdc.presentCylinder
  pollDrive : after.pollDrive = before.pollDrive
  isIrqPending : after.fdc.isIrqPending = before.fdc.isIrqPending
  pendingSt0 : after.fdc.pendingSt0 = before.fdc.pendingSt0

theorem KeepsReports.refl (chip : FdcChip) : KeepsReports chip chip := ⟨rfl, rfl, rfl, rfl⟩

variable {first second third : FdcChip}

theorem KeepsReports.trans (h : KeepsReports first second) (h' : KeepsReports second third) :
    KeepsReports first third :=
  ⟨h'.presentCylinder.trans h.presentCylinder, h'.pollDrive.trans h.pollDrive,
    h'.isIrqPending.trans h.isIrqPending, h'.pendingSt0.trans h.pendingSt0⟩

/-- A data command has ended, its status pending. -/
structure LeavesStatus (before after : FdcChip) : Prop where
  presentCylinder : after.fdc.presentCylinder = before.fdc.presentCylinder
  pollDrive : after.pollDrive = before.pollDrive
  isIrqPending : after.fdc.isIrqPending = true
  pendingSt0 : IsDataStatus after.fdc.pendingSt0
  phase : after.fdc.phase = .result

/-- A step of a data command: it has ended, or goes on with the reports untouched. -/
def DataStep (before after : FdcChip) : Prop :=
  LeavesStatus before after ∨
    KeepsReports before after ∧ after.fdc.phase = .execution ∧ after.fdc.execHead ≤ 1

theorem LeavesStatus.after (h : LeavesStatus second third) (hkeeps : KeepsReports first second) :
    LeavesStatus first third :=
  ⟨h.presentCylinder.trans hkeeps.presentCylinder, h.pollDrive.trans hkeeps.pollDrive,
    h.isIrqPending, h.pendingSt0, h.phase⟩

theorem DataStep.after (h : DataStep second third) (hkeeps : KeepsReports first second) :
    DataStep first third := by
  rcases h with hended | ⟨hmore, hphase, hhead⟩
  · exact .inl (hended.after hkeeps)
  · exact .inr ⟨hkeeps.trans hmore, hphase, hhead⟩

theorem status_isData {interruptCode head : Nat} (hcode : interruptCode = 0 ∨ interruptCode = 0x40)
    (hhead : head ≤ 1) (drive : Fin 4) :
    IsDataStatus (interruptCode ||| head <<< 2 ||| drive.val) := by
  have hheads : head = 0 ∨ head = 1 := by omega
  rcases hcode with rfl | rfl <;> rcases hheads with rfl | rfl <;> revert drive <;> decide

section Boards

variable {σ : Type} (callbacks : FdcCallbacks σ)

theorem done_leavesStatus (board : FdcBoard σ) (hhead : board.chip.fdc.execHead ≤ 1)
    {interruptCode : Nat} (hcode : interruptCode = 0 ∨ interruptCode = 0x40)
    (status1 status2 : Nat) :
    LeavesStatus board.chip (board.done interruptCode status1 status2).chip :=
  ⟨rfl, rfl, rfl, status_isData hcode hhead _, rfl⟩

section

variable {before : FdcChip} (board : FdcBoard σ) (hkeeps : KeepsReports before board.chip)
    (hhead : board.chip.fdc.execHead ≤ 1) (status1 status2 : Nat)

include board hkeeps hhead status1 status2

theorem abnormal_leavesStatus :
    LeavesStatus before (board.done fdcSt0Abnormal status1 status2).chip :=
  (done_leavesStatus board hhead (.inr rfl) status1 status2).after hkeeps

theorem normal_leavesStatus :
    LeavesStatus before (board.done fdcSt0Normal status1 status2).chip :=
  (done_leavesStatus board hhead (.inl rfl) status1 status2).after hkeeps

end

theorem fdcAdvance_head {fdc : FdcState} (hhead : fdc.execHead ≤ 1) :
    (fdcAdvance fdc).1.execHead ≤ 1 := by
  have hflip : fdc.execHead ^^^ 1 ≤ 1 := by
    have hheads : fdc.execHead = 0 ∨ fdc.execHead = 1 := by omega
    rcases hheads with h | h <;> rw [h] <;> decide
  unfold fdcAdvance
  split_ifs
  · exact hhead
  · exact hflip
  · exact hhead
  · exact hhead

variable (chip : FdcChip)

theorem fdcAdvance_keepsReports : KeepsReports chip (chip.withFdc (fdcAdvance chip.fdc).1) := by
  unfold fdcAdvance
  split_ifs <;> exact ⟨rfl, rfl, rfl, rfl⟩

theorem fdcDmaSector_reports {board : FdcBoard σ} (hhead : board.chip.fdc.execHead ≤ 1) :
    (∀ ended, fdcDmaSector callbacks board = .inl ended → LeavesStatus board.chip ended.chip) ∧
      ∀ moved isTerminalCount, fdcDmaSector callbacks board = .inr (moved, isTerminalCount) →
        KeepsReports board.chip moved.chip ∧ moved.chip.fdc.execHead ≤ 1 := by
  unfold fdcDmaSector
  by_cases hread : fdcIsReadCommand board.chip.fdc.execOpcode = true
  · rw [if_pos hread]
    rcases callbacks.readSector board.host board.chip.fdc.sector with ⟨host, buffer⟩
    cases buffer with
    | none =>
      refine ⟨fun ended hended => ?_, fun _ _ hmoved => by cases hmoved⟩
      cases hended
      exact abnormal_leavesStatus ({ board with host }) (.refl _) hhead _ _
    | some buffer =>
      dsimp only
      split
      · refine ⟨fun ended hended => ?_, fun _ _ hmoved => by cases hmoved⟩
        cases hended
        exact abnormal_leavesStatus
          ({ board with host := (callbacks.dmaWrite host buffer).1 }) (.refl _) hhead _ _
      · refine ⟨fun _ hended => by (cases hended), fun moved _ hmoved => ?_⟩
        cases hmoved
        exact ⟨⟨rfl, rfl, rfl, rfl⟩, hhead⟩
  · rw [if_neg hread]
    dsimp only
    split
    · refine ⟨fun ended hended => ?_, fun _ _ hmoved => by cases hmoved⟩
      cases hended
      exact abnormal_leavesStatus
        ({ board with host := (callbacks.dmaRead board.host fdcSectorSize).1 })
        (.refl _) hhead _ _
    · rcases callbacks.writeSector (callbacks.dmaRead board.host fdcSectorSize).1
        board.chip.fdc.sector
        (fillBuffer (callbacks.stack board.host) (callbacks.dmaRead board.host fdcSectorSize).2.1)
        with ⟨host, isWritten⟩
      cases isWritten with
      | false =>
        refine ⟨fun ended hended => ?_, fun _ _ hmoved => by cases hmoved⟩
        cases hended
        exact abnormal_leavesStatus ({ board with host }) (.refl _) hhead _ _
      | true =>
        refine ⟨fun _ hended => by (cases hended), fun moved _ hmoved => ?_⟩
        cases hmoved
        exact ⟨⟨rfl, rfl, rfl, rfl⟩, hhead⟩

theorem fdcRunDma_reports (rounds : Nat) (board : FdcBoard σ) {after : FdcBoard σ}
    (hhead : board.chip.fdc.execHead ≤ 1)
    (hafter : fdcRunDma callbacks rounds board = some after) :
    LeavesStatus board.chip after.chip := by
  induction rounds generalizing board with
  | zero => cases hafter
  | succ rounds ih =>
    unfold fdcRunDma at hafter
    cases hsearch : board.search callbacks with
    | some status =>
      rw [hsearch] at hafter
      cases hafter
      exact abnormal_leavesStatus _ (.refl _) hhead _ _
    | none =>
      rw [hsearch] at hafter
      by_cases hconnected : fdcDmaConnected board.chip.fdc = false
      · rw [if_pos hconnected] at hafter
        cases hafter
        exact abnormal_leavesStatus _ (.refl _) hhead _ _
      rw [if_neg hconnected] at hafter
      obtain ⟨hends, hmoves⟩ := fdcDmaSector_reports callbacks hhead
      cases hsector : fdcDmaSector callbacks board with
      | inl ended =>
        rw [hsector] at hafter
        cases hafter
        exact hends _ hsector
      | inr moved =>
        obtain ⟨moved, isTerminalCount⟩ := moved
        rw [hsector] at hafter
        dsimp only at hafter
        obtain ⟨hkeeps, hhead'⟩ := hmoves moved isTerminalCount hsector
        have hadvanced := hkeeps.trans (fdcAdvance_keepsReports moved.chip)
        have hhead'' := fdcAdvance_head hhead'
        by_cases hterminal : isTerminalCount = true
        · rw [if_pos hterminal] at hafter
          cases hafter
          exact normal_leavesStatus (moved.withFdc (fdcAdvance moved.chip.fdc).1)
            hadvanced hhead'' _ _
        · rw [if_neg hterminal] at hafter
          by_cases hend : (fdcAdvance moved.chip.fdc).2 = true
          · rw [if_pos hend] at hafter
            cases hafter
            exact abnormal_leavesStatus (moved.withFdc (fdcAdvance moved.chip.fdc).1)
              hadvanced hhead'' _ _
          · rw [if_neg hend] at hafter
            exact (ih _ hhead'' hafter).after hadvanced

theorem fdcOpenSector_reports (board : FdcBoard σ) (hhead : board.chip.fdc.execHead ≤ 1) :
    DataStep board.chip (fdcOpenSector callbacks board).chip := by
  unfold fdcOpenSector
  cases board.search callbacks with
  | some status => exact .inl (abnormal_leavesStatus _ (.refl _) hhead _ _)
  | none =>
    by_cases hread : fdcIsReadCommand board.chip.fdc.execOpcode = true
    · rw [if_pos hread]
      rcases callbacks.readSector board.host board.chip.fdc.sector with ⟨host, buffer⟩
      cases buffer with
      | none =>
        exact .inl (abnormal_leavesStatus ({ board with host })
          (.refl _) hhead _ _)
      | some buffer => exact .inr ⟨⟨rfl, rfl, rfl, rfl⟩, rfl, hhead⟩
    · rw [if_neg hread]
      exact .inr ⟨⟨rfl, rfl, rfl, rfl⟩, rfl, hhead⟩

theorem fdcNextSector_reports {board : FdcBoard σ} (hhead : board.chip.fdc.execHead ≤ 1) :
    DataStep board.chip (fdcNextSector callbacks board).chip := by
  have hkeeps := fdcAdvance_keepsReports board.chip
  have hadvanced := fdcAdvance_head hhead
  unfold fdcNextSector
  dsimp only
  split
  · exact .inl (abnormal_leavesStatus (board.withFdc (fdcAdvance board.chip.fdc).1)
      hkeeps hadvanced _ _)
  · exact (fdcOpenSector_reports callbacks
      (board.withFdc (fdcAdvance board.chip.fdc).1) hadvanced).after hkeeps

theorem fdcSectorDone_reports {board : FdcBoard σ} (hhead : board.chip.fdc.execHead ≤ 1) :
    DataStep board.chip (fdcSectorDone callbacks board).chip := by
  unfold fdcSectorDone
  by_cases hread : fdcIsReadCommand board.chip.fdc.execOpcode = true
  · rw [if_pos hread]
    exact DataStep.after (fdcNextSector_reports callbacks hhead) ⟨rfl, rfl, rfl, rfl⟩
  · rw [if_neg hread]
    rcases callbacks.writeSector board.host board.chip.fdc.sector board.chip.fdc.execBuffer with
      ⟨host, isWritten⟩
    cases isWritten with
    | false =>
      exact .inl (abnormal_leavesStatus ({ board with host })
        (.refl _) hhead _ _)
    | true => exact DataStep.after (fdcNextSector_reports callbacks hhead) ⟨rfl, rfl, rfl, rfl⟩

theorem fdcFormatSector_reports (board : FdcBoard σ) (hhead : board.chip.fdc.execHead ≤ 1)
    (identity : Fin 4 → UInt8) :
    (∀ ended, fdcFormatSector callbacks board identity = (ended, false) →
      LeavesStatus board.chip ended.chip) ∧
    ∀ next, fdcFormatSector callbacks board identity = (next, true) →
      KeepsReports board.chip next.chip ∧ next.chip.fdc.phase = board.chip.fdc.phase ∧
        next.chip.fdc.execHead ≤ 1 := by
  unfold fdcFormatSector
  dsimp only
  split
  · refine ⟨fun ended hended => ?_, fun _ hnext => by cases hnext⟩
    cases hended
    exact ⟨rfl, rfl, rfl, status_isData (.inr rfl) hhead _, rfl⟩
  · split
    · refine ⟨fun ended hended => ?_, fun _ hnext => by cases hnext⟩
      cases hended
      exact ⟨rfl, rfl, rfl, status_isData (.inr rfl) hhead _, rfl⟩
    · split
      · refine ⟨fun ended hended => ?_, fun _ hnext => by cases hnext⟩
        cases hended
        exact ⟨rfl, rfl, rfl, status_isData (.inl rfl) hhead _, rfl⟩
      · refine ⟨fun _ hended => by (cases hended), fun next hnext => ?_⟩
        cases hnext
        exact ⟨⟨rfl, rfl, rfl, rfl⟩, rfl, hhead⟩

theorem fdcFormatDma_reports (rounds : Nat) (board : FdcBoard σ) {after : FdcBoard σ}
    (hhead : board.chip.fdc.execHead ≤ 1)
    (hafter : fdcFormatDma callbacks rounds board = some after) :
    LeavesStatus board.chip after.chip := by
  induction rounds generalizing board with
  | zero => cases hafter
  | succ rounds ih =>
    unfold fdcFormatDma at hafter
    by_cases hconnected : fdcDmaConnected board.chip.fdc = false
    · rw [if_pos hconnected] at hafter
      cases hafter
      exact abnormal_leavesStatus _ (.refl _) hhead _ _
    rw [if_neg hconnected] at hafter
    generalize callbacks.dmaRead board.host fdcIdBytes = read at hafter
    obtain ⟨host, bytes, isTerminalCount⟩ := read
    dsimp only at hafter
    split at hafter
    · cases hafter
      exact abnormal_leavesStatus ({ board with host }) (.refl _) hhead _ _
    · obtain ⟨hends, hmoves⟩ := fdcFormatSector_reports callbacks
        ({ board with host }) hhead fun i => bytes.getD i.val 0
      split at hafter
      · next ended hended =>
        cases hafter
        exact hends _ hended
      · next next hnext =>
        obtain ⟨hkeeps, -, hhead'⟩ := hmoves next hnext
        exact (ih _ hhead' hafter).after hkeeps

section

variable {board after : FdcBoard σ}

theorem fdcFormat_reports (hhead : board.chip.fdc.execHead ≤ 1)
    (hafter : fdcFormat callbacks board = some after) : DataStep board.chip after.chip := by
  have hstarted : KeepsReports board.chip board.chip.formatStarted := ⟨rfl, rfl, rfl, rfl⟩
  unfold fdcFormat at hafter
  by_cases hzero : board.chip.fdc.command 3 = 0
  · rw [if_pos hzero] at hafter
    cases hafter
    exact .inl (normal_leavesStatus ({ board with chip := board.chip.formatStarted })
      hstarted hhead _ _)
  rw [if_neg hzero] at hafter
  by_cases hnonDma : board.chip.fdc.isNonDma = true
  · rw [if_pos hnonDma] at hafter
    cases hafter
    exact .inr ⟨⟨rfl, rfl, rfl, rfl⟩, rfl, hhead⟩
  · rw [if_neg hnonDma] at hafter
    exact .inl ((fdcFormatDma_reports callbacks 256
      ({ board with chip := board.chip.formatStarted }) hhead hafter).after hstarted)

theorem fdcDataCommand_reports (hhead : board.chip.fdc.execHead ≤ 1)
    (opcode : Nat) (hafter : fdcDataCommand callbacks board opcode = some after) :
    DataStep board.chip after.chip := by
  have hstarted : KeepsReports board.chip
      (board.withFdc (fdcDataRegisters board.chip.fdc opcode)).chip := ⟨rfl, rfl, rfl, rfl⟩
  unfold fdcDataCommand at hafter
  by_cases hdeleted : opcode = fdcCmdReadDeletedData
  · rw [if_pos hdeleted] at hafter
    split at hafter
    all_goals
      cases hafter
      exact .inl (abnormal_leavesStatus
        (board.withFdc (fdcDataRegisters board.chip.fdc opcode)) hstarted hhead _ _)
  rw [if_neg hdeleted] at hafter
  by_cases hnonDma : board.chip.fdc.isNonDma = true
  · rw [if_pos hnonDma] at hafter
    cases hafter
    exact (fdcOpenSector_reports callbacks
      (board.withFdc (fdcDataRegisters board.chip.fdc opcode)) hhead).after hstarted
  · rw [if_neg hnonDma] at hafter
    exact .inl ((fdcRunDma_reports callbacks 514
      (board.withFdc (fdcDataRegisters board.chip.fdc opcode))
      hhead hafter).after hstarted)

theorem fdcFifoWriteData_reports (value : UInt8)
    (hphase : board.chip.fdc.phase = .execution) (hhead : board.chip.fdc.execHead ≤ 1)
    (hafter : fdcFifoWriteData callbacks board value = some after) :
    DataStep board.chip after.chip := by
  unfold fdcFifoWriteData at hafter
  by_cases hread : fdcIsReadCommand board.chip.fdc.execOpcode = true
  · rw [if_pos hread] at hafter
    cases hafter
    exact .inr ⟨.refl _, hphase, hhead⟩
  rw [if_neg hread] at hafter
  by_cases hposition : board.chip.fdc.execPosition < 512
  · rw [dif_pos hposition] at hafter
    by_cases hmore : board.chip.fdc.execPosition + 1 < board.chip.fdc.execLength
    · rw [if_pos hmore] at hafter
      cases hafter
      exact .inr ⟨⟨rfl, rfl, rfl, rfl⟩, hphase, hhead⟩
    rw [if_neg hmore] at hafter
    by_cases hformat : board.chip.fdc.execOpcode = fdcCmdFormatTrack
    · rw [if_pos hformat] at hafter
      split at hafter
      · next ended hended =>
        cases hafter
        refine .inl (((fdcFormatSector_reports callbacks _ ?_ _).1 _ hended).after
          ⟨rfl, rfl, rfl, rfl⟩)
        exact hhead
      · next next hnext =>
        cases hafter
        have hformatted := fun h => (fdcFormatSector_reports callbacks _ h _).2 next hnext
        obtain ⟨hkeeps, hsame, hhead'⟩ := hformatted hhead
        exact .inr ⟨⟨hkeeps.presentCylinder, hkeeps.pollDrive, hkeeps.isIrqPending,
          hkeeps.pendingSt0⟩, hsame.trans hphase, hhead'⟩
    · rw [if_neg hformat] at hafter
      cases hafter
      exact DataStep.after (fdcSectorDone_reports callbacks hhead) ⟨rfl, rfl, rfl, rfl⟩
  · rw [dif_neg hposition] at hafter
    cases hafter

theorem fdcFifoRead_reports {value : Nat}
    (hphase : board.chip.fdc.phase = .execution) (hhead : board.chip.fdc.execHead ≤ 1)
    (hafter : fdcFifoRead callbacks board = some (after, value)) :
    DataStep board.chip after.chip := by
  unfold fdcFifoRead at hafter
  dsimp only at hafter
  rw [hphase] at hafter
  by_cases hwrite : fdcIsReadCommand board.chip.fdc.execOpcode = false
  · rw [if_pos hwrite] at hafter
    cases hafter
    exact .inr ⟨.refl _, hphase, hhead⟩
  rw [if_neg hwrite] at hafter
  by_cases hposition : board.chip.fdc.execPosition < 512
  · rw [dif_pos hposition] at hafter
    by_cases hlast : board.chip.fdc.execLength ≤ board.chip.fdc.execPosition + 1
    · rw [if_pos hlast] at hafter
      cases hafter
      exact DataStep.after (fdcSectorDone_reports callbacks hhead) ⟨rfl, rfl, rfl, rfl⟩
    · rw [if_neg hlast] at hafter
      cases hafter
      exact .inr ⟨⟨rfl, rfl, rfl, rfl⟩, rfl, hhead⟩
  · rw [dif_neg hposition] at hafter
    cases hafter

end

/-! ## Executed commands -/

def FdcChip.opcode (chip : FdcChip) : Nat := (chip.fdc.command 0).toNat % 32

def FdcEvent.executes (chip : FdcChip) : FdcEvent σ → Option FdcChip
  | .write port value =>
    if port = fdcFifo ∧ chip.fdc.phase = .command ∧
        chip.wantedWith value ≤ chip.fdc.commandLength + 1 then
      some (chip.store value)
    else none
  | _ => none

def EndsWithStatus (opcode : Nat) : Prop :=
  fdcIsDataCommand opcode = true ∨ opcode = fdcCmdFormatTrack ∨ opcode = fdcCmdReadId
deriving Decidable

theorem executes_access {board after : FdcBoard σ} {event : FdcEvent σ} {stored : FdcChip}
    {value : Nat} (hexecutes : event.executes board.chip = some stored)
    (hafter : fdcAccess callbacks board event = some (after, value)) :
    KeepsReports board.chip stored ∧
      fdcExecute callbacks { board with chip := stored } = some after := by
  cases event with
  | write port byte =>
    unfold FdcEvent.executes at hexecutes
    dsimp only at hexecutes
    split at hexecutes
    · next hwrite =>
      cases hexecutes
      refine ⟨⟨rfl, rfl, rfl, rfl⟩, ?_⟩
      obtain ⟨rfl, hphase, hlast⟩ := hwrite
      change (vddFdcPortOut callbacks board fdcFifo byte).map _ = _ at hafter
      unfold vddFdcPortOut fdcFifoWrite at hafter
      rw [if_neg (by decide), if_neg (by decide), if_neg (by decide), if_pos rfl, hphase] at hafter
      unfold fdcFifoWriteCommand at hafter
      rw [if_pos (show (board.chip.store byte).commandWanted ≤
        (board.chip.store byte).fdc.commandLength from hlast)] at hafter
      obtain ⟨executed, hexecuted, heq⟩ := map_eq_some_iff.mp hafter
      cases heq
      exact hexecuted
    · cases hexecutes
  | read port => cases hexecutes
  | host change => cases hexecutes

theorem parameterHead_le (fdc : FdcState) : parameterHead fdc ≤ 1 := by
  unfold parameterHead
  omega

theorem fdcExecute_data {board after : FdcBoard σ}
    (hopcode : fdcIsDataCommand board.chip.opcode = true ∨ board.chip.opcode = fdcCmdFormatTrack)
    (hafter : fdcExecute callbacks board = some after) : DataStep board.chip after.chip := by
  have hhead := parameterHead_le board.chip.fdc
  unfold FdcChip.opcode at hopcode
  unfold fdcExecute at hafter
  by_cases hdata : fdcIsDataCommand ((board.chip.fdc.command 0).toNat % 32) = true
  · rw [if_pos hdata] at hafter
    refine DataStep.after (fdcDataCommand_reports callbacks ?_ _ hafter) ⟨rfl, rfl, rfl, rfl⟩
    exact hhead
  · rw [if_neg hdata, if_pos (hopcode.resolve_left hdata)] at hafter
    refine DataStep.after (fdcFormat_reports callbacks ?_ hafter) ⟨rfl, rfl, rfl, rfl⟩
    exact hhead

def FdcChip.counted (chip : FdcChip) : FdcChip := { chip with commands := chip.commands + 1 }

theorem fdcExecute_control (board : FdcBoard σ) {after : FdcBoard σ}
    (hdata : ¬fdcIsDataCommand board.chip.opcode = true)
    (hformat : board.chip.opcode ≠ fdcCmdFormatTrack)
    (hafter : fdcExecute callbacks board = some after) :
    after.chip = fdcExecuteControl board.chip.counted board.chip.opcode := by
  unfold fdcExecute at hafter
  rw [if_neg (show ¬fdcIsDataCommand ((board.chip.fdc.command 0).toNat % 32) = true from hdata),
    if_neg (show ¬(board.chip.fdc.command 0).toNat % 32 = fdcCmdFormatTrack from hformat)] at hafter
  cases hafter
  rfl

theorem fdcExecuteControl_keepsReports {opcode : Nat} (hsense : opcode ≠ fdcCmdSenseInterrupt)
    (hrecalibrate : opcode ≠ fdcCmdRecalibrate) (hseek : opcode ≠ fdcCmdSeek)
    (hreadId : opcode ≠ fdcCmdReadId) : KeepsReports chip (fdcExecuteControl chip opcode) := by
  refine iteInduction (fun _ => ⟨rfl, rfl, rfl, rfl⟩) fun _ => ?_
  rw [if_neg hsense]
  iterate 6 refine iteInduction (fun _ => ⟨rfl, rfl, rfl, rfl⟩) fun _ => ?_
  rw [if_neg hrecalibrate, if_neg hseek, if_neg hreadId]
  exact ⟨rfl, rfl, rfl, rfl⟩

theorem fdcExecuteControl_sense :
    fdcExecuteControl chip fdcCmdSenseInterrupt = fdcSenseInterrupt chip := rfl

theorem fdcExecuteControl_recalibrate : fdcExecuteControl chip fdcCmdRecalibrate =
      fdcSeek chip (parameterDrive chip.fdc) 0 0 := rfl

theorem fdcExecuteControl_seek : fdcExecuteControl chip fdcCmdSeek =
      fdcSeek chip (parameterDrive chip.fdc) (chip.fdc.command 2).toNat
        (parameterHead chip.fdc) := rfl

theorem fdcReadId_leavesStatus : LeavesStatus chip (fdcReadId chip) := by
  have hstatus := status_isData (.inl rfl) (parameterHead_le chip.fdc)
    (parameterDrive chip.fdc)
  rw [Nat.zero_or] at hstatus
  exact ⟨rfl, rfl, rfl, hstatus, rfl⟩

section

variable {board after : FdcBoard σ} {event : FdcEvent σ} {value : Nat}

theorem access_elsewhere (hfifo : ¬event.isFifo) (hreset : ¬event.isReset board.chip)
    (hafter : fdcAccess callbacks board event = some (after, value)) :
    KeepsReports board.chip after.chip ∧ after.chip.fdc.phase = board.chip.fdc.phase ∧
      after.chip.fdc.execHead = board.chip.fdc.execHead := by
  cases event with
  | write port byte =>
    obtain ⟨written, hwritten, heq⟩ := map_eq_some_iff.mp hafter
    cases heq
    unfold vddFdcPortOut at hwritten
    by_cases hdor : port = fdcDor
    · rw [if_pos hdor] at hwritten
      cases hwritten
      have hlow : ¬byte &&& 0x04 = 0 := fun h => hreset (.inl ⟨hdor, .inl h⟩)
      have hrise : ¬(board.chip.isInReset = true ∨ board.chip.dor &&& 0x04 = 0) := fun h =>
        hreset (.inl ⟨hdor, .inr h⟩)
      unfold fdcWriteDor
      rw [if_neg hlow, if_neg hrise]
      exact ⟨⟨rfl, rfl, rfl, rfl⟩, rfl, rfl⟩
    rw [if_neg hdor] at hwritten
    by_cases htdr : port = fdcTdr
    · rw [if_pos htdr] at hwritten
      cases hwritten
      exact ⟨⟨rfl, rfl, rfl, rfl⟩, rfl, rfl⟩
    rw [if_neg htdr] at hwritten
    by_cases hmsr : port = fdcMsr
    · rw [if_pos hmsr] at hwritten
      cases hwritten
      have hbit : ¬byte &&& 0x80 ≠ 0 := fun h => hreset (.inr ⟨hmsr, h⟩)
      unfold fdcWriteDsr
      rw [if_neg hbit]
      exact ⟨⟨rfl, rfl, rfl, rfl⟩, rfl, rfl⟩
    rw [if_neg hmsr, if_neg (show ¬port = fdcFifo from hfifo)] at hwritten
    by_cases hdir : port = fdcDir
    · rw [if_pos hdir] at hwritten
      cases hwritten
      exact ⟨⟨rfl, rfl, rfl, rfl⟩, rfl, rfl⟩
    · rw [if_neg hdir] at hwritten
      cases hwritten
      exact ⟨.refl _, rfl, rfl⟩
  | read port =>
    have hsame : ∃ value, vddFdcPortIn callbacks board port = some (board, value) := by
      unfold vddFdcPortIn
      have hnot : ¬port = fdcFifo := hfifo
      split_ifs <;> exact ⟨_, rfl⟩
    obtain ⟨read, hread⟩ := hsame
    cases (hread.symm.trans hafter)
    exact ⟨.refl _, rfl, rfl⟩
  | host change =>
    cases hafter
    exact ⟨.refl _, rfl, rfl⟩

theorem access_fifo_quiet (hfifo : event.isFifo) (hnone : event.executes board.chip = none)
    (hphase : board.chip.fdc.phase ≠ .execution)
    (hafter : fdcAccess callbacks board event = some (after, value)) :
    KeepsReports board.chip after.chip ∧ after.chip.fdc.phase ≠ .execution := by
  cases event with
  | write port byte =>
    obtain rfl : port = fdcFifo := hfifo
    obtain ⟨written, hwritten, heq⟩ := map_eq_some_iff.mp hafter
    cases heq
    unfold vddFdcPortOut fdcFifoWrite at hwritten
    rw [if_neg (by decide), if_neg (by decide), if_neg (by decide), if_pos rfl] at hwritten
    cases hplace : board.chip.fdc.phase with
    | execution => exact absurd hplace hphase
    | result =>
      rw [hplace] at hwritten
      cases hwritten
      refine ⟨.refl _, ?_⟩
      rw [hplace]
      decide
    | command =>
      rw [hplace] at hwritten
      unfold FdcEvent.executes at hnone
      dsimp only at hnone hwritten
      unfold fdcFifoWriteCommand at hwritten
      by_cases hlast : board.chip.wantedWith byte ≤ board.chip.fdc.commandLength + 1
      · rw [if_pos ⟨rfl, hplace, hlast⟩] at hnone
        cases hnone
      · rw [if_neg (show ¬(board.chip.store byte).commandWanted ≤
          (board.chip.store byte).fdc.commandLength from hlast)] at hwritten
        cases hwritten
        exact ⟨⟨rfl, rfl, rfl, rfl⟩, hphase⟩
  | read port =>
    obtain rfl : port = fdcFifo := hfifo
    change vddFdcPortIn callbacks board fdcFifo = _ at hafter
    unfold vddFdcPortIn fdcFifoRead at hafter
    rw [if_neg (by decide), if_neg (by decide), if_neg (by decide), if_pos rfl] at hafter
    dsimp only at hafter
    cases hplace : board.chip.fdc.phase with
    | execution => exact absurd hplace hphase
    | command =>
      rw [hplace] at hafter
      cases hafter
      exact ⟨.refl _, hphase⟩
    | result =>
      rw [hplace] at hafter
      cases hbyte : board.chip.fdc.result[board.chip.fdc.resultPosition]? with
      | none =>
        rw [hbyte] at hafter
        cases hafter
      | some byte =>
        rw [hbyte] at hafter
        dsimp only at hafter
        split at hafter
        · cases hafter
          exact ⟨⟨rfl, rfl, rfl, rfl⟩, by rintro ⟨⟩⟩
        · cases hafter
          exact ⟨⟨rfl, rfl, rfl, rfl⟩, by rintro ⟨⟩⟩
  | host change => exact hfifo.elim

theorem access_execution (hfifo : event.isFifo) (hphase : board.chip.fdc.phase = .execution)
    (hhead : board.chip.fdc.execHead ≤ 1)
    (hafter : fdcAccess callbacks board event = some (after, value)) :
    DataStep board.chip after.chip := by
  cases event with
  | write port byte =>
    obtain rfl : port = fdcFifo := hfifo
    obtain ⟨written, hwritten, heq⟩ := map_eq_some_iff.mp hafter
    cases heq
    unfold vddFdcPortOut fdcFifoWrite at hwritten
    rw [if_neg (by decide), if_neg (by decide), if_neg (by decide), if_pos rfl, hphase] at hwritten
    exact fdcFifoWriteData_reports callbacks byte hphase hhead hwritten
  | read port =>
    obtain rfl : port = fdcFifo := hfifo
    change vddFdcPortIn callbacks board fdcFifo = _ at hafter
    unfold vddFdcPortIn at hafter
    rw [if_neg (by decide), if_neg (by decide), if_neg (by decide), if_pos rfl] at hafter
    exact fdcFifoRead_reports callbacks hphase hhead hafter
  | host change => exact hfifo.elim

end

end Boards

end Ntvdmex.Vdd.FdcPorts
