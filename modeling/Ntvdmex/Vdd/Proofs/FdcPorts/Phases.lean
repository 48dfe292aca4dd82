import Ntvdmex.Vdd.FdcPorts

/-!
# How a command ends

Every command, once all its bytes have arrived, either answers at once or opens a non-DMA
transfer; a transfer goes on or ends in seven result bytes.  The loops over sectors return.
-/

namespace Ntvdmex.Vdd.FdcPorts

open Vdd.Fdc Nat

/-- What no part of a command's execution changes. -/
structure Keeps (before after : FdcChip) : Prop where
  isInReset : after.isInReset = before.isInReset
  commands : after.commands = before.commands
  command : after.fdc.command = before.fdc.command

theorem Keeps.refl (chip : FdcChip) : Keeps chip chip := ⟨rfl, rfl, rfl⟩

theorem Keeps.trans {first second third : FdcChip} (hfirst : Keeps first second)
    (hsecond : Keeps second third) : Keeps first third :=
  ⟨hsecond.isInReset.trans hfirst.isInReset, hsecond.commands.trans hfirst.commands,
    hsecond.command.trans hfirst.command⟩

/-- The command is over: its result, if any, waits to be read. -/
structure Answered (chip : FdcChip) : Prop where
  phase : chip.fdc.phase = if chip.fdc.result = [] then .command else .result
  commandLength : chip.fdc.commandLength = 0
  resultPosition : chip.fdc.resultPosition = 0
  result_le : chip.fdc.result.length ≤ 10

/-- Bytes move through 3F5h. -/
structure Transferring (chip : FdcChip) : Prop where
  phase : chip.fdc.phase = .execution
  position_lt : chip.fdc.execPosition < chip.fdc.execLength
  length_le : chip.fdc.execLength ≤ 512

/-- The end of a data command: a result of seven bytes. -/
structure Concluded (chip : FdcChip) : Prop where
  answered : Answered chip
  result_length : chip.fdc.result.length = 7

theorem Concluded.phase {chip : FdcChip} (h : Concluded chip) : chip.fdc.phase = .result := by
  rw [h.answered.phase, if_neg]
  intro hnil
  have hlength := h.result_length
  rw [hnil] at hlength
  exact absurd hlength (by decide)

theorem respond_answered (chip : FdcChip) {bytes : List Nat} (hlength : bytes.length ≤ 10) :
    Answered (chip.respond bytes) := by
  have htake : bytes.take 16 = bytes := List.take_of_length_le (by omega)
  refine ⟨?_, rfl, rfl, ?_⟩
  · show (if bytes = [] then FdcPhase.command else .result) =
      if bytes.take 16 = [] then .command else .result
    rw [htake]
  · show (bytes.take 16).length ≤ 10
    rw [htake]
    exact hlength

section Boards

variable {σ : Type} (callbacks : FdcCallbacks σ)
variable (board : FdcBoard σ) (chip : FdcChip) (interruptCode status1 status2 : Nat)

theorem done_keeps :
    Keeps board.chip (board.done interruptCode status1 status2).chip := ⟨rfl, rfl, rfl⟩

theorem done_concluded : Concluded (board.done interruptCode status1 status2).chip :=
  ⟨⟨rfl, rfl, rfl, le_of_ble_eq_true rfl⟩, rfl⟩

/-- A step of a data command: it has ended or moves bytes through 3F5h. -/
structure Proceeds (before after : FdcChip) : Prop where
  keeps : Keeps before after
  outcome : Concluded after ∨ Transferring after

theorem done_proceeds : Proceeds board.chip (board.done interruptCode status1 status2).chip :=
  ⟨done_keeps _ _ _ _, .inl (done_concluded _ _ _ _)⟩

theorem Proceeds.after {first second third : FdcChip} (hproceeds : Proceeds second third)
    (hkeeps : Keeps first second) : Proceeds first third :=
  ⟨hkeeps.trans hproceeds.keeps, hproceeds.outcome⟩

/-! ## The sectors of a DMA command -/

variable (fdc : FdcState) (opcode : Nat)

/-- The sectors a command may still visit, on the side it is on and on the other. -/
def sectorsAhead : Nat :=
  (if fdc.execIsMultiTrack = true ∧ fdc.execHeadAddress &&& 1 = 0 then fdc.execEot + 1 else 0) +
    (fdc.execEot - fdc.execSector) + 1

theorem xor_one_and_one {head : Nat} (heven : head &&& 1 = 0) : (head ^^^ 1) &&& 1 ≠ 0 := by
  rw [and_one_is_mod] at heven ⊢
  rw [xor_mod_two_eq]
  omega

theorem fdcAdvance_ahead {fdc : FdcState} (hon : (fdcAdvance fdc).2 = false) :
    sectorsAhead (fdcAdvance fdc).1 < sectorsAhead fdc := by
  unfold fdcAdvance at hon ⊢
  by_cases hnext : fdc.execSector < fdc.execEot
  · rw [if_pos hnext]
    simp only [sectorsAhead]
    omega
  rw [if_neg hnext] at hon ⊢
  by_cases hside : fdc.execIsMultiTrack = true ∧ fdc.execHeadAddress &&& 1 = 0
  · rw [if_pos hside]
    have hodd := xor_one_and_one hside.2
    simp only [sectorsAhead, if_pos hside, hodd, and_false, if_false]
    omega
  · rw [if_neg hside] at hon
    simp at hon

theorem fdcAdvance_command : (fdcAdvance fdc).1.command = fdc.command := by
  unfold fdcAdvance
  split
  · rfl
  · split <;> rfl

theorem withFdc_keeps {chip : FdcChip} {fdc : FdcState} (hcommand : fdc.command = chip.fdc.command) :
    Keeps chip (chip.withFdc fdc) := ⟨rfl, rfl, hcommand⟩

theorem fdcDmaSector_cases :
    (∃ ended, fdcDmaSector callbacks board = .inl ended ∧ Keeps board.chip ended.chip ∧
      Concluded ended.chip) ∨
    ∃ moved isTerminalCount, fdcDmaSector callbacks board = .inr (moved, isTerminalCount) ∧
      Keeps board.chip moved.chip ∧
      sectorsAhead moved.chip.fdc = sectorsAhead board.chip.fdc := by
  unfold fdcDmaSector
  by_cases hread : fdcIsReadCommand board.chip.fdc.execOpcode = true
  · rw [if_pos hread]
    rcases callbacks.readSector board.host board.chip.fdc.sector with ⟨host, buffer⟩
    cases buffer with
    | none => exact .inl ⟨_, rfl, ⟨rfl, rfl, rfl⟩, done_concluded _ _ _ _⟩
    | some buffer =>
      dsimp only
      split
      · exact .inl ⟨_, rfl, ⟨rfl, rfl, rfl⟩, done_concluded _ _ _ _⟩
      · exact .inr ⟨_, _, rfl, ⟨rfl, rfl, rfl⟩, rfl⟩
  · rw [if_neg hread]
    dsimp only
    split
    · exact .inl ⟨_, rfl, ⟨rfl, rfl, rfl⟩, done_concluded _ _ _ _⟩
    · rcases callbacks.writeSector (callbacks.dmaRead board.host fdcSectorSize).1
        board.chip.fdc.sector
        (fillBuffer (callbacks.stack board.host) (callbacks.dmaRead board.host fdcSectorSize).2.1)
        with ⟨host, isWritten⟩
      cases isWritten with
      | false => exact .inl ⟨_, rfl, ⟨rfl, rfl, rfl⟩, done_concluded _ _ _ _⟩
      | true => exact .inr ⟨_, _, rfl, ⟨rfl, rfl, rfl⟩, rfl⟩

theorem fdcRunDma_concludes (rounds : Nat) :
    ∀ board : FdcBoard σ, sectorsAhead board.chip.fdc ≤ rounds →
      ∃ after, fdcRunDma callbacks rounds board = some after ∧ Keeps board.chip after.chip ∧
        Concluded after.chip := by
  induction rounds with
  | zero =>
    intro board hrounds
    unfold sectorsAhead at hrounds
    lia
  | succ rounds ih =>
    intro board hrounds
    unfold fdcRunDma
    cases board.search callbacks with
    | some status => exact ⟨_, rfl, done_keeps _ _ _ _, done_concluded _ _ _ _⟩
    | none =>
      by_cases hconnected : fdcDmaConnected board.chip.fdc = false
      · rw [if_pos hconnected]
        exact ⟨_, rfl, done_keeps _ _ _ _, done_concluded _ _ _ _⟩
      rw [if_neg hconnected]
      rcases fdcDmaSector_cases callbacks board with
        ⟨ended, hended, hkeeps, hconcluded⟩ | ⟨moved, isTerminalCount, hmoved, hkeeps, hahead⟩
      · rw [hended]
        exact ⟨ended, rfl, hkeeps, hconcluded⟩
      · rw [hmoved]
        dsimp only
        have hadvanced : Keeps board.chip (moved.withFdc (fdcAdvance moved.chip.fdc).1).chip :=
          hkeeps.trans (withFdc_keeps (fdcAdvance_command _))
        cases isTerminalCount with
        | true =>
          rw [if_pos rfl]
          exact ⟨_, rfl, hadvanced.trans (done_keeps _ _ _ _), done_concluded _ _ _ _⟩
        | false =>
          rw [if_neg Bool.false_ne_true]
          by_cases hend : (fdcAdvance moved.chip.fdc).2 = true
          · rw [if_pos hend]
            exact ⟨_, rfl, hadvanced.trans (done_keeps _ _ _ _), done_concluded _ _ _ _⟩
          · rw [if_neg hend]
            have hless := fdcAdvance_ahead (Bool.eq_false_of_not_eq_true hend)
            obtain ⟨after, hafter, hrest, hconcluded⟩ :=
              ih (moved.withFdc (fdcAdvance moved.chip.fdc).1)
                (show sectorsAhead (fdcAdvance moved.chip.fdc).1 ≤ rounds by lia)
            exact ⟨after, hafter, hadvanced.trans hrest, hconcluded⟩

theorem opened_transferring (host : σ) (buffer : SectorBytes) : Proceeds board.chip
      ({ board with host }.withFdc (FdcState.opened board.chip.fdc buffer)).chip :=
  ⟨⟨rfl, rfl, rfl⟩, .inr ⟨rfl, le_of_ble_eq_true rfl, le_of_ble_eq_true rfl⟩⟩

theorem fdcOpenSector_proceeds : Proceeds board.chip (fdcOpenSector callbacks board).chip := by
  unfold fdcOpenSector
  cases board.search callbacks with
  | some status => exact done_proceeds _ _ _ _
  | none =>
    by_cases hread : fdcIsReadCommand board.chip.fdc.execOpcode = true
    · rw [if_pos hread]
      rcases callbacks.readSector board.host board.chip.fdc.sector with ⟨host, buffer⟩
      cases buffer with
      | none => exact done_proceeds { board with host } _ _ _
      | some buffer => exact opened_transferring board host buffer
    · rw [if_neg hread]
      exact opened_transferring board board.host _

theorem fdcNextSector_proceeds : Proceeds board.chip (fdcNextSector callbacks board).chip := by
  have hadvanced : Keeps board.chip (board.withFdc (fdcAdvance board.chip.fdc).1).chip :=
    withFdc_keeps (fdcAdvance_command _)
  unfold fdcNextSector
  dsimp only
  split
  · exact (done_proceeds _ _ _ _).after hadvanced
  · exact (fdcOpenSector_proceeds callbacks _).after hadvanced

theorem fdcSectorDone_proceeds : Proceeds board.chip (fdcSectorDone callbacks board).chip := by
  unfold fdcSectorDone
  by_cases hread : fdcIsReadCommand board.chip.fdc.execOpcode = true
  · rw [if_pos hread]
    exact Proceeds.after (fdcNextSector_proceeds callbacks _) ⟨rfl, rfl, rfl⟩
  · rw [if_neg hread]
    rcases callbacks.writeSector board.host board.chip.fdc.sector board.chip.fdc.execBuffer with
      ⟨host, isWritten⟩
    cases isWritten with
    | false => exact done_proceeds { board with host } _ _ _
    | true => exact Proceeds.after (fdcNextSector_proceeds callbacks _) ⟨rfl, rfl, rfl⟩

theorem fdcFormatSector_cases (identity : Fin 4 → UInt8) :
    (∃ ended, fdcFormatSector callbacks board identity = (ended, false) ∧
      Keeps board.chip ended.chip ∧ Concluded ended.chip) ∨
    ∃ next, fdcFormatSector callbacks board identity = (next, true) ∧
      Keeps board.chip next.chip ∧ next.chip.fdc.phase = board.chip.fdc.phase ∧
      next.chip.fdc.execLength = board.chip.fdc.execLength ∧
      next.chip.execSectorsLeft = board.chip.execSectorsLeft - 1 ∧
      next.chip.execSectorsLeft ≠ 0 := by
  unfold fdcFormatSector
  dsimp only
  split
  · exact .inl ⟨_, rfl, ⟨rfl, rfl, rfl⟩, done_concluded _ _ _ _⟩
  · split
    · exact .inl ⟨_, rfl, ⟨rfl, rfl, rfl⟩, done_concluded _ _ _ _⟩
    · split
      · exact .inl ⟨_, rfl, ⟨rfl, rfl, rfl⟩, done_concluded _ _ _ _⟩
      · rename_i hleft
        exact .inr ⟨_, rfl, ⟨rfl, rfl, rfl⟩, rfl, rfl, rfl, hleft⟩

theorem fdcFormatDma_concludes (rounds : Nat) :
    ∀ board : FdcBoard σ, board.chip.execSectorsLeft ≠ 0 →
      board.chip.execSectorsLeft.toNat ≤ rounds →
      ∃ after, fdcFormatDma callbacks rounds board = some after ∧ Keeps board.chip after.chip ∧
        Concluded after.chip := by
  induction rounds with
  | zero =>
    intro board hleft hrounds
    exact absurd (UInt8.toNat_inj.mp (le_zero.mp hrounds)) hleft
  | succ rounds ih =>
    intro board hleft hrounds
    unfold fdcFormatDma
    by_cases hconnected : fdcDmaConnected board.chip.fdc = false
    · rw [if_pos hconnected]
      exact ⟨_, rfl, done_keeps _ _ _ _, done_concluded _ _ _ _⟩
    rw [if_neg hconnected]
    rcases callbacks.dmaRead board.host fdcIdBytes with ⟨host, bytes, isTerminalCount⟩
    dsimp only
    split
    · exact ⟨_, rfl, ⟨rfl, rfl, rfl⟩, done_concluded _ _ _ _⟩
    · rcases fdcFormatSector_cases callbacks { board with host }
          (fun i => bytes.getD i.val 0) with
        ⟨ended, hended, hkeeps, hconcluded⟩ | ⟨next, hnext, hkeeps, -, -, hcount, hmore⟩
      · rw [hended]
        exact ⟨ended, rfl, hkeeps, hconcluded⟩
      · rw [hnext]
        have hpositive : 0 < board.chip.execSectorsLeft.toNat :=
          Nat.pos_of_ne_zero fun hzero => hleft (UInt8.toNat_inj.mp hzero)
        have hless : next.chip.execSectorsLeft.toNat ≤ rounds := by
          rw [hcount]
          have hone : (1 : UInt8) ≤ board.chip.execSectorsLeft := UInt8.le_iff_toNat_le.mpr hpositive
          have hsub : (board.chip.execSectorsLeft - 1).toNat =
              board.chip.execSectorsLeft.toNat - 1 := UInt8.toNat_sub_of_le _ _ hone
          show (board.chip.execSectorsLeft - 1).toNat ≤ rounds
          omega
        obtain ⟨after, hafter, hrest, hconcluded⟩ := ih next hmore hless
        exact ⟨after, hafter, hkeeps.trans hrest, hconcluded⟩

theorem formatStarted_keeps : Keeps chip chip.formatStarted :=
  ⟨rfl, rfl, rfl⟩

theorem fdcFormat_proceeds :
    ∃ after, fdcFormat callbacks board = some after ∧ Proceeds board.chip after.chip := by
  have hstarted := formatStarted_keeps board.chip
  unfold fdcFormat
  by_cases hzero : board.chip.fdc.command 3 = 0
  · rw [if_pos hzero]
    exact ⟨_, rfl, Proceeds.after (done_proceeds _ _ _ _) hstarted⟩
  rw [if_neg hzero]
  by_cases hnonDma : board.chip.fdc.isNonDma = true
  · rw [if_pos hnonDma]
    exact ⟨_, rfl, ⟨rfl, rfl, rfl⟩,
      .inr ⟨rfl, le_of_ble_eq_true rfl, le_of_ble_eq_true rfl⟩⟩
  · rw [if_neg hnonDma]
    obtain ⟨after, hafter, hkeeps, hconcluded⟩ :=
      fdcFormatDma_concludes callbacks 256 { board with chip := board.chip.formatStarted } hzero
        (Nat.le_of_lt (UInt8.toNat_lt _))
    exact ⟨after, hafter, hstarted.trans hkeeps, .inl hconcluded⟩

/-! ## All the commands -/

theorem sectorsAhead_le : sectorsAhead (fdcDataRegisters fdc opcode) ≤ 514 := by
  have heot : (fdcDataRegisters fdc opcode).execEot < 256 := UInt8.toNat_lt _
  unfold sectorsAhead
  split <;> lia

theorem fdcDataCommand_proceeds : ∃ after, fdcDataCommand callbacks board opcode = some after ∧
      Proceeds board.chip after.chip := by
  have hstarted : Keeps board.chip
      (board.withFdc (fdcDataRegisters board.chip.fdc opcode)).chip := ⟨rfl, rfl, rfl⟩
  unfold fdcDataCommand
  by_cases hdeleted : opcode = fdcCmdReadDeletedData
  · rw [if_pos hdeleted]
    split
    · exact ⟨_, rfl, Proceeds.after (done_proceeds _ _ _ _) hstarted⟩
    · exact ⟨_, rfl, Proceeds.after (done_proceeds _ _ _ _) hstarted⟩
  rw [if_neg hdeleted]
  by_cases hnonDma : board.chip.fdc.isNonDma = true
  · rw [if_pos hnonDma]
    exact ⟨_, rfl, Proceeds.after (fdcOpenSector_proceeds callbacks _) hstarted⟩
  · rw [if_neg hnonDma]
    obtain ⟨after, hafter, hkeeps, hconcluded⟩ :=
      fdcRunDma_concludes callbacks 514
        (board.withFdc (fdcDataRegisters board.chip.fdc opcode))
        (sectorsAhead_le board.chip.fdc opcode)
    exact ⟨after, hafter, hstarted.trans hkeeps, .inl hconcluded⟩

/-- A control command answers at once. -/
structure Answers (before after : FdcChip) : Prop where
  keeps : Keeps before after
  answered : Answered after

theorem respond_answers {bytes : List Nat} (hlength : bytes.length ≤ 10) :
    Answers chip (chip.respond bytes) :=
  ⟨⟨rfl, rfl, rfl⟩, respond_answered chip hlength⟩

/-- Registers beside the conversation do not matter to an answer. -/
theorem Answers.congr {before after other : FdcChip} (hanswers : Answers before after)
    (hfdc : other.fdc = after.fdc) (hreset : other.isInReset = after.isInReset)
    (hcommands : other.commands = after.commands) :
    Answers before other := by
  obtain ⟨hkeeps, hanswered⟩ := hanswers
  refine ⟨⟨?_, ?_, ?_⟩, ?_, ?_, ?_, ?_⟩
  · rw [hreset, hkeeps.isInReset]
  · rw [hcommands, hkeeps.commands]
  · rw [hfdc, hkeeps.command]
  · rw [hfdc, hanswered.phase]
  · rw [hfdc, hanswered.commandLength]
  · rw [hfdc, hanswered.resultPosition]
  · rw [hfdc]
    exact hanswered.result_le

theorem fdcInvalid_answers : Answers chip (fdcInvalid chip) :=
  (@respond_answers chip [fdcSt0InvalidCommand] (by decide)).congr rfl rfl rfl

theorem fdcSenseInterrupt_answers : Answers chip (fdcSenseInterrupt chip) := by
  unfold fdcSenseInterrupt
  split
  · exact ⟨⟨rfl, rfl, rfl⟩, ⟨rfl, rfl, rfl, le_of_ble_eq_true rfl⟩⟩
  · split
    · exact ⟨⟨rfl, rfl, rfl⟩, ⟨rfl, rfl, rfl, le_of_ble_eq_true rfl⟩⟩
    · exact fdcInvalid_answers chip

theorem fdcExecuteControl_answers : Answers chip (fdcExecuteControl chip opcode) := by
  refine iteInduction (fun _ => respond_answers chip (le_of_ble_eq_true rfl)) fun _ => ?_
  refine iteInduction (fun _ => fdcSenseInterrupt_answers chip) fun _ => ?_
  iterate 4
    refine iteInduction (fun _ => ⟨⟨rfl, rfl, rfl⟩, ⟨rfl, rfl, rfl, le_of_ble_eq_true rfl⟩⟩)
      fun _ => ?_
  refine iteInduction (fun _ => respond_answers chip (le_of_ble_eq_true rfl)) fun _ => ?_
  refine iteInduction (fun _ => respond_answers chip (le_of_ble_eq_true rfl)) fun _ => ?_
  iterate 3
    refine iteInduction (fun _ => ⟨⟨rfl, rfl, rfl⟩, ⟨rfl, rfl, rfl, le_of_ble_eq_true rfl⟩⟩)
      fun _ => ?_
  exact fdcInvalid_answers chip

/-- An executed command has answered, or moves bytes through 3F5h. -/
structure Executes (before after : FdcChip) : Prop where
  isInReset : after.isInReset = before.isInReset
  commands : after.commands = before.commands + 1
  command : after.fdc.command = before.fdc.command
  outcome : Answered after ∨ Transferring after

theorem fdcExecute_executes :
    ∃ after, fdcExecute callbacks board = some after ∧ Executes board.chip after.chip := by
  unfold fdcExecute
  by_cases hdata : fdcIsDataCommand ((board.chip.fdc.command 0).toNat % 32) = true
  · rw [if_pos hdata]
    obtain ⟨after, hafter, hkeeps, houtcome⟩ := fdcDataCommand_proceeds callbacks _ _
    exact ⟨after, hafter, hkeeps.isInReset, hkeeps.commands, hkeeps.command,
      houtcome.imp Concluded.answered id⟩
  rw [if_neg hdata]
  by_cases hformat : (board.chip.fdc.command 0).toNat % 32 = fdcCmdFormatTrack
  · rw [if_pos hformat]
    obtain ⟨after, hafter, hkeeps, houtcome⟩ := fdcFormat_proceeds callbacks _
    exact ⟨after, hafter, hkeeps.isInReset, hkeeps.commands, hkeeps.command,
      houtcome.imp Concluded.answered id⟩
  · rw [if_neg hformat]
    obtain ⟨hkeeps, hanswered⟩ := fdcExecuteControl_answers
      { board.chip with commands := board.chip.commands + 1 }
      ((board.chip.fdc.command 0).toNat % 32)
    exact ⟨_, rfl, hkeeps.isInReset, hkeeps.commands, hkeeps.command,
      .inl hanswered⟩

end Boards

end Ntvdmex.Vdd.FdcPorts
