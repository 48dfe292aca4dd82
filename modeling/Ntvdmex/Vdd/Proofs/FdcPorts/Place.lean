import Ntvdmex.Foundation.Runs
import Ntvdmex.Vdd.Proofs.FdcPorts.Phases

/-!
# The place in the protocol

One access of any port at any moment returns and keeps the indices of the three phases in
range.  Between two accesses the medium and the 8237 may change in any way.
-/

namespace Ntvdmex.Vdd.FdcPorts

open Vdd.Fdc List
open Foundation (Run)

/-- The chip's place: how far a command has come in, a result gone out, a sector moved. -/
structure InPlace (chip : FdcChip) : Prop where
  command : chip.fdc.phase = .command → chip.fdc.commandLength = 0 ∨
    chip.fdc.commandLength < chip.commandWanted ∧
      chip.commandWanted = fdcCommandLength (chip.fdc.command 0)
  result : chip.fdc.phase = .result → chip.fdc.commandLength = 0 ∧
    chip.fdc.resultPosition < chip.fdc.result.length ∧ chip.fdc.result.length ≤ 10
  execution : chip.fdc.phase = .execution →
    chip.fdc.execPosition < chip.fdc.execLength ∧ chip.fdc.execLength ≤ 512

theorem fdcCommandLength_le (opcode : UInt8) : fdcCommandLength opcode ≤ 9 := by
  unfold fdcCommandLength
  split <;> decide

theorem fdcCommandLength_pos (opcode : UInt8) : 0 < fdcCommandLength opcode := by
  unfold fdcCommandLength
  split <;> decide

variable {chip : FdcChip}

theorem InPlace.commandLength_le (hplace : InPlace chip) (hphase : chip.fdc.phase = .command) :
    chip.fdc.commandLength < 9 := by
  rcases hplace.command hphase with hzero | ⟨hlt, hwanted⟩
  · omega
  · have hle := fdcCommandLength_le (chip.fdc.command 0)
    omega

theorem inPlace_of_idle (hphase : chip.fdc.phase = .command)
    (hlength : chip.fdc.commandLength = 0) : InPlace chip where
  command _ := .inl hlength
  result h := by rw [hphase] at h; cases h
  execution h := by rw [hphase] at h; cases h

theorem Answered.inPlace (hanswered : Answered chip) : InPlace chip where
  command _ := .inl hanswered.commandLength
  result h := by
    have hnonempty : chip.fdc.result ≠ [] := by
      intro hnil
      rw [hanswered.phase, if_pos hnil] at h
      cases h
    rw [hanswered.resultPosition]
    exact ⟨hanswered.commandLength, length_pos_of_ne_nil hnonempty, hanswered.result_le⟩
  execution h := by
    rw [hanswered.phase] at h
    split at h <;> cases h

theorem Transferring.inPlace (htransferring : Transferring chip) : InPlace chip where
  command h := by rw [htransferring.phase] at h; cases h
  result h := by rw [htransferring.phase] at h; cases h
  execution _ := ⟨htransferring.position_lt, htransferring.length_le⟩

/-- The registers of the conversation. -/
structure SamePlace (before after : FdcChip) : Prop where
  phase : after.fdc.phase = before.fdc.phase
  command : after.fdc.command = before.fdc.command
  commandLength : after.fdc.commandLength = before.fdc.commandLength
  commandWanted : after.commandWanted = before.commandWanted
  commands : after.commands = before.commands
  result : after.fdc.result = before.fdc.result
  resultPosition : after.fdc.resultPosition = before.fdc.resultPosition
  execPosition : after.fdc.execPosition = before.fdc.execPosition
  execLength : after.fdc.execLength = before.fdc.execLength

theorem SamePlace.refl (chip : FdcChip) : SamePlace chip chip :=
  (by constructor <;> rfl)

theorem SamePlace.inPlace {before after : FdcChip} (hsame : SamePlace before after)
    (hplace : InPlace before) : InPlace after where
  command := by
    rw [hsame.phase, hsame.commandLength, hsame.commandWanted, hsame.command]
    exact hplace.command
  result := by
    rw [hsame.phase, hsame.commandLength, hsame.resultPosition, hsame.result]
    exact hplace.result
  execution := by
    rw [hsame.phase, hsame.execPosition, hsame.execLength]
    exact hplace.execution

section Boards

variable {σ : Type} (callbacks : FdcCallbacks σ)

theorem Proceeds.refl {chip : FdcChip} (hplace : InPlace chip)
    (hphase : chip.fdc.phase = .execution) : Proceeds chip chip :=
  ⟨Keeps.refl chip, .inr ⟨hphase, (hplace.execution hphase).1, (hplace.execution hphase).2⟩⟩

variable {board : FdcBoard σ}

theorem fdcFifoWriteData_proceeds (value : UInt8) (hplace : InPlace board.chip)
    (hphase : board.chip.fdc.phase = .execution) :
    ∃ after, fdcFifoWriteData callbacks board value = some after ∧
      Proceeds board.chip after.chip := by
  obtain ⟨hlt, hle⟩ := hplace.execution hphase
  unfold fdcFifoWriteData
  by_cases hread : fdcIsReadCommand board.chip.fdc.execOpcode = true
  · rw [if_pos hread]
    exact ⟨board, rfl, Proceeds.refl hplace hphase⟩
  rw [if_neg hread, dif_pos (show board.chip.fdc.execPosition < 512 by omega)]
  by_cases hmore : board.chip.fdc.execPosition + 1 < board.chip.fdc.execLength
  · rw [if_pos hmore]
    exact ⟨_, rfl, ⟨rfl, rfl, rfl⟩, .inr ⟨hphase, hmore, hle⟩⟩
  rw [if_neg hmore]
  by_cases hformat : board.chip.fdc.execOpcode = fdcCmdFormatTrack
  · rw [if_pos hformat]
    split
    all_goals rename_i formatted hformatted
    · rcases fdcFormatSector_cases callbacks _ _ with
        ⟨ended, hended, hkeeps, hconcluded⟩ | ⟨next, hnext, -⟩
      · obtain rfl : ended = formatted := (Prod.mk.inj (hended.symm.trans hformatted)).1
        exact ⟨_, rfl, ⟨hkeeps.isInReset, hkeeps.commands, hkeeps.command⟩, .inl hconcluded⟩
      · cases hnext.symm.trans hformatted
    · rcases fdcFormatSector_cases callbacks _ _ with
        ⟨ended, hended, -⟩ | ⟨next, hnext, hkeeps, hsame, hlength, -⟩
      · cases hended.symm.trans hformatted
      · obtain rfl : next = formatted := (Prod.mk.inj (hnext.symm.trans hformatted)).1
        refine ⟨_, rfl, ⟨hkeeps.isInReset, hkeeps.commands, hkeeps.command⟩,
          .inr ⟨hsame.trans hphase, ?_, ?_⟩⟩
        · exact Nat.lt_of_lt_of_eq (Nat.zero_lt_of_lt hlt) hlength.symm
        · exact Nat.le_trans (Nat.le_of_eq hlength) hle
  · rw [if_neg hformat]
    exact ⟨_, rfl, Proceeds.after (fdcSectorDone_proceeds callbacks _) ⟨rfl, rfl, rfl⟩⟩

theorem fdcFifoRead_proceeds (hplace : InPlace board.chip)
    (hphase : board.chip.fdc.phase = .execution) :
    ∃ after value, fdcFifoRead callbacks board = some (after, value) ∧
      Proceeds board.chip after.chip := by
  obtain ⟨hlt, hle⟩ := hplace.execution hphase
  unfold fdcFifoRead
  dsimp only
  rw [hphase]
  by_cases hwrite : fdcIsReadCommand board.chip.fdc.execOpcode = false
  · rw [if_pos hwrite]
    exact ⟨board, 0, rfl, Proceeds.refl hplace hphase⟩
  rw [if_neg hwrite, dif_pos (show board.chip.fdc.execPosition < 512 by omega)]
  by_cases hlast : board.chip.fdc.execLength ≤ board.chip.fdc.execPosition + 1
  · rw [if_pos hlast]
    exact ⟨_, _, rfl, Proceeds.after (fdcSectorDone_proceeds callbacks _) ⟨rfl, rfl, rfl⟩⟩
  · rw [if_neg hlast]
    exact ⟨_, _, rfl, ⟨rfl, rfl, rfl⟩, .inr ⟨rfl, Nat.lt_of_not_le hlast, hle⟩⟩

theorem Proceeds.inPlace {before after : FdcChip} (hproceeds : Proceeds before after) :
    InPlace after := by
  rcases hproceeds.outcome with hconcluded | htransferring
  · exact hconcluded.answered.inPlace
  · exact htransferring.inPlace

/-! ## An access of a port -/

/-- What happens to the board: a port is written or read, or the host changes. -/
inductive FdcEvent (σ : Type) where
  | write (port : Nat) (value : UInt8)
  | read (port : Nat)
  | host (change : σ → σ)

def fdcAccess (board : FdcBoard σ) : FdcEvent σ → Option (FdcBoard σ × Nat)
  | .write port value => (vddFdcPortOut callbacks board port value).map fun after => (after, 0)
  | .read port => vddFdcPortIn callbacks board port
  | .host change => some ({ board with host := change board.host }, 0)

/-- The two reset doors: DOR bit 2 going low, held low or let go, and DSR bit 7. -/
def FdcEvent.isReset (chip : FdcChip) : FdcEvent σ → Prop
  | .write port value =>
    port = fdcDor ∧ (value &&& 0x04 = 0 ∨ chip.isInReset = true ∨ chip.dor &&& 0x04 = 0) ∨
      port = fdcMsr ∧ value &&& 0x80 ≠ 0
  | _ => False

def FdcEvent.isFifo : FdcEvent σ → Prop
  | .write port _ => port = fdcFifo
  | .read port => port = fdcFifo
  | .host _ => False

/-- A command byte stored. -/
structure StoresByte (before after : FdcChip) (value : UInt8) : Prop where
  position_lt : before.fdc.commandLength < 16
  command : after.fdc.command =
    Function.update before.fdc.command ⟨before.fdc.commandLength, position_lt⟩ value
  isInReset : after.isInReset = before.isInReset

/-- Everything one event can do to the chip. -/
inductive Access (before after : FdcChip) : FdcEvent σ → Nat → Prop
  | elsewhere {event value} (hnot : ¬event.isFifo) (hreset : ¬event.isReset before)
      (hsame : SamePlace before after) (hisInReset : after.isInReset = before.isInReset) :
      Access before after event value
  | held {event value} (hnot : ¬event.isFifo) (hreset : event.isReset before)
      (hsame : SamePlace before after) (hisInReset : after.isInReset = true) :
      Access before after event value
  | reset {event value} (hnot : ¬event.isFifo) (hreset : event.isReset before)
      (hphase : after.fdc.phase = .command) (hlength : after.fdc.commandLength = 0)
      (hcommands : after.commands = before.commands) (hisInReset : after.isInReset = false) :
      Access before after event value
  | transfer {event value} (hfifo : event.isFifo) (hphase : before.fdc.phase = .execution)
      (hproceeds : Proceeds before after) : Access before after event value
  | part {value} (hphase : before.fdc.phase = .command) (hstores : StoresByte before after value)
      (hmore : before.fdc.commandLength + 1 < before.wantedWith value)
      (hafter : after.fdc.phase = .command)
      (hlength : after.fdc.commandLength = before.fdc.commandLength + 1)
      (hwanted : after.commandWanted = before.wantedWith value)
      (hcommands : after.commands = before.commands) : Access before after (.write fdcFifo value) 0
  | whole {value} (hphase : before.fdc.phase = .command) (hstores : StoresByte before after value)
      (hlast : before.wantedWith value ≤ before.fdc.commandLength + 1)
      (hcommands : after.commands = before.commands + 1)
      (houtcome : Answered after ∨ Transferring after) :
      Access before after (.write fdcFifo value) 0
  | deaf {value} (hphase : before.fdc.phase = .result) (heq : after = before) :
      Access before after (.write fdcFifo value) 0
  | mute {value} (hphase : before.fdc.phase = .command) (heq : after = before) :
      Access before after (.read fdcFifo) value
  | more {value rest} (hphase : before.fdc.phase = .result)
      (hvalue : before.fdc.result.drop before.fdc.resultPosition = value :: rest)
      (hrest : rest ≠ [])
      (hafter : after.fdc.phase = .result) (hresult : after.fdc.result = before.fdc.result)
      (hposition : after.fdc.resultPosition = before.fdc.resultPosition + 1)
      (hkeeps : Keeps before after)
      (hlength : after.fdc.commandLength = before.fdc.commandLength) :
      Access before after (.read fdcFifo) value
  | last {value} (hphase : before.fdc.phase = .result)
      (hvalue : before.fdc.result.drop before.fdc.resultPosition = [value])
      (heq : after = before.withFdc { before.fdc with phase := .command, resultPosition := 0 }) :
      Access before after (.read fdcFifo) value

theorem fdcFifoWriteCommand_access (value : UInt8) (hplace : InPlace board.chip)
    (hphase : board.chip.fdc.phase = .command) :
    ∃ after, fdcFifoWriteCommand callbacks board value = some after ∧
      Access (σ := σ) board.chip after.chip (.write fdcFifo value) 0 := by
  have hposition : board.chip.fdc.commandLength < 16 := by
    have hlt := hplace.commandLength_le hphase
    omega
  have hcommand : (board.chip.store value).fdc.command =
      Function.update board.chip.fdc.command ⟨board.chip.fdc.commandLength, hposition⟩ value :=
    dif_pos hposition
  unfold fdcFifoWriteCommand
  by_cases hlast : board.chip.wantedWith value ≤ board.chip.fdc.commandLength + 1
  · rw [if_pos (show (board.chip.store value).commandWanted ≤
      (board.chip.store value).fdc.commandLength from hlast)]
    obtain ⟨after, hafter, hexecutes⟩ :=
      fdcExecute_executes callbacks { board with chip := board.chip.store value }
    exact ⟨after, hafter, .whole hphase
      ⟨hposition, hexecutes.command.trans hcommand, hexecutes.isInReset⟩ hlast
      hexecutes.commands hexecutes.outcome⟩
  · rw [if_neg (show ¬(board.chip.store value).commandWanted ≤
      (board.chip.store value).fdc.commandLength from hlast)]
    exact ⟨_, rfl, .part hphase ⟨hposition, hcommand, rfl⟩ (Nat.lt_of_not_le hlast) hphase
      rfl rfl rfl⟩

theorem fdcFifoWrite_access (value : UInt8) (hplace : InPlace board.chip) :
    ∃ after, fdcFifoWrite callbacks board value = some after ∧
      Access (σ := σ) board.chip after.chip (.write fdcFifo value) 0 := by
  unfold fdcFifoWrite
  cases hphase : board.chip.fdc.phase with
  | command => exact fdcFifoWriteCommand_access callbacks value hplace hphase
  | execution =>
    obtain ⟨after, hafter, hproceeds⟩ := fdcFifoWriteData_proceeds callbacks value hplace hphase
    exact ⟨after, hafter, .transfer rfl hphase hproceeds⟩
  | result => exact ⟨board, rfl, .deaf hphase rfl⟩

theorem fdcFifoRead_access (hplace : InPlace board.chip) :
    ∃ after value, fdcFifoRead callbacks board = some (after, value) ∧
      Access (σ := σ) board.chip after.chip (.read fdcFifo) value := by
  cases hphase : board.chip.fdc.phase with
  | command =>
    unfold fdcFifoRead
    simp only [hphase]
    exact ⟨board, _, rfl, .mute hphase rfl⟩
  | execution =>
    obtain ⟨after, value, hafter, hproceeds⟩ := fdcFifoRead_proceeds callbacks hplace hphase
    exact ⟨after, value, hafter, .transfer rfl hphase hproceeds⟩
  | result =>
    obtain ⟨-, hposition, -⟩ := hplace.result hphase
    have hdrop := drop_eq_getElem_cons hposition
    unfold fdcFifoRead
    simp only [hphase, getElem?_eq_getElem hposition]
    by_cases hlast : board.chip.fdc.result.length ≤ board.chip.fdc.resultPosition + 1
    · rw [if_pos hlast]
      rw [drop_eq_nil_of_le hlast] at hdrop
      exact ⟨_, _, rfl, .last hphase hdrop rfl⟩
    · rw [if_neg hlast]
      refine ⟨_, _, rfl, .more hphase hdrop ?_ rfl rfl rfl ⟨rfl, rfl, rfl⟩ rfl⟩
      rw [Ne, drop_eq_nil_iff]
      exact hlast

theorem fdcWriteDor_access (chip : FdcChip) (value : UInt8) :
    Access (σ := σ) chip (fdcWriteDor chip value) (.write fdcDor value) 0 := by
  have hnot : ¬FdcEvent.isFifo (σ := σ) (.write fdcDor value) := by
    show ¬fdcDor = fdcFifo
    decide
  unfold fdcWriteDor
  by_cases hlow : value &&& 0x04 = 0
  · rw [if_pos hlow]
    exact .held hnot (.inl ⟨rfl, .inl hlow⟩) (by constructor <;> rfl) rfl
  rw [if_neg hlow]
  by_cases hrise : chip.isInReset = true ∨ chip.dor &&& 0x04 = 0
  · rw [if_pos hrise]
    exact .reset hnot (.inl ⟨rfl, .inr hrise⟩) rfl rfl rfl rfl
  · rw [if_neg hrise]
    refine .elsewhere hnot ?_ (by constructor <;> rfl) rfl
    rintro (⟨-, hdown | hup⟩ | ⟨hport, -⟩)
    · exact hlow hdown
    · exact hrise hup
    · exact absurd hport (by decide)

theorem fdcWriteDsr_access (chip : FdcChip) (value : UInt8) :
    Access (σ := σ) chip (fdcWriteDsr chip value) (.write fdcMsr value) 0 := by
  have hnot : ¬FdcEvent.isFifo (σ := σ) (.write fdcMsr value) := by
    show ¬fdcMsr = fdcFifo
    decide
  unfold fdcWriteDsr
  by_cases hreset : value &&& 0x80 ≠ 0
  · rw [if_pos hreset]
    exact .reset hnot (.inr ⟨rfl, hreset⟩) rfl rfl rfl rfl
  · rw [if_neg hreset]
    refine .elsewhere hnot ?_ (by constructor <;> rfl) rfl
    rintro (⟨hport, -⟩ | ⟨-, hbit⟩)
    · exact absurd hport (by decide)
    · exact hreset hbit

theorem vddFdcPortOut_access (port : Nat) (value : UInt8) (hplace : InPlace board.chip) :
    ∃ after, vddFdcPortOut callbacks board port value = some after ∧
      Access (σ := σ) board.chip after.chip (.write port value) 0 := by
  unfold vddFdcPortOut
  by_cases hdor : port = fdcDor
  · rw [if_pos hdor, hdor]
    exact ⟨_, rfl, fdcWriteDor_access board.chip value⟩
  rw [if_neg hdor]
  by_cases htdr : port = fdcTdr
  · rw [if_pos htdr, htdr]
    refine ⟨_, rfl, .elsewhere ?_ ?_ (by constructor <;> rfl) rfl⟩
    · show ¬fdcTdr = fdcFifo
      decide
    · rintro (⟨hport, -⟩ | ⟨hport, -⟩) <;> exact absurd hport (by decide)
  rw [if_neg htdr]
  by_cases hmsr : port = fdcMsr
  · rw [if_pos hmsr, hmsr]
    exact ⟨_, rfl, fdcWriteDsr_access board.chip value⟩
  rw [if_neg hmsr]
  by_cases hfifo : port = fdcFifo
  · rw [if_pos hfifo, hfifo]
    exact fdcFifoWrite_access callbacks value hplace
  rw [if_neg hfifo]
  have hreset : ¬FdcEvent.isReset board.chip (.write port value : FdcEvent σ) := by
    rintro (⟨hport, -⟩ | ⟨hport, -⟩)
    · exact hdor hport
    · exact hmsr hport
  by_cases hdir : port = fdcDir
  · rw [if_pos hdir]
    exact ⟨_, rfl, .elsewhere hfifo hreset (by constructor <;> rfl) rfl⟩
  · rw [if_neg hdir]
    exact ⟨board, rfl, .elsewhere hfifo hreset (SamePlace.refl _) rfl⟩

theorem vddFdcPortIn_access (port : Nat) (hplace : InPlace board.chip) :
    ∃ after value, vddFdcPortIn callbacks board port = some (after, value) ∧
      Access (σ := σ) board.chip after.chip (.read port) value := by
  by_cases hfifo : port = fdcFifo
  · rw [hfifo]
    exact fdcFifoRead_access callbacks hplace
  · have hsame : ∃ value, vddFdcPortIn callbacks board port = some (board, value) := by
      unfold vddFdcPortIn
      split_ifs <;> exact ⟨_, rfl⟩
    obtain ⟨value, hvalue⟩ := hsame
    exact ⟨board, value, hvalue, .elsewhere hfifo id (SamePlace.refl _) rfl⟩

/-- From a chip in its place every event returns, and does one of the things above. -/
theorem fdcAccess_access (event : FdcEvent σ) (hplace : InPlace board.chip) :
    ∃ after value, fdcAccess callbacks board event = some (after, value) ∧
      Access board.chip after.chip event value := by
  cases event with
  | write port value =>
    obtain ⟨after, hafter, haccess⟩ := vddFdcPortOut_access callbacks port value hplace
    refine ⟨after, 0, ?_, ?_⟩
    · show (vddFdcPortOut callbacks board port value).map _ = _
      rw [hafter]
      rfl
    · exact haccess
  | read port => exact vddFdcPortIn_access callbacks port hplace
  | host change => exact ⟨_, 0, rfl, .elsewhere id id (SamePlace.refl _) rfl⟩

theorem StoresByte.command_zero {before after : FdcChip} {value : UInt8}
    (hstores : StoresByte before after value) (hplace : InPlace before)
    (hphase : before.fdc.phase = .command) :
    before.wantedWith value = fdcCommandLength (after.fdc.command 0) := by
  rw [hstores.command, FdcChip.wantedWith]
  by_cases hzero : before.fdc.commandLength = 0
  · have hindex : (⟨before.fdc.commandLength, hstores.position_lt⟩ : Fin 16) = 0 :=
      Fin.ext hzero
    rw [if_pos hzero, hindex, Function.update_self]
  · have hindex : (0 : Fin 16) ≠ ⟨before.fdc.commandLength, hstores.position_lt⟩ :=
      fun heq => hzero (congrArg Fin.val heq).symm
    rw [if_neg hzero, Function.update_of_ne hindex]
    exact ((hplace.command hphase).resolve_left hzero).2

variable {before after : FdcChip} {event : FdcEvent σ} {value : Nat}

theorem Access.inPlace (haccess : Access before after event value) (hplace : InPlace before) :
    InPlace after := by
  cases haccess with
  | elsewhere _ _ hsame _ => exact hsame.inPlace hplace
  | held _ _ hsame _ => exact hsame.inPlace hplace
  | reset _ _ hphase hlength _ _ => exact inPlace_of_idle hphase hlength
  | transfer _ _ hproceeds => exact hproceeds.inPlace
  | part hphase hstores hmore hafter hlength hwanted _ =>
    refine ⟨fun _ => .inr ⟨?_, ?_⟩, fun h => ?_, fun h => ?_⟩
    · rw [hlength, hwanted]
      exact hmore
    · rw [hwanted]
      exact hstores.command_zero hplace hphase
    · rw [hafter] at h
      cases h
    · rw [hafter] at h
      cases h
  | whole _ _ _ _ houtcome =>
    rcases houtcome with hanswered | htransferring
    · exact hanswered.inPlace
    · exact htransferring.inPlace
  | deaf _ heq => exact heq ▸ hplace
  | mute _ heq => exact heq ▸ hplace
  | more hphase hvalue hrest hafter hresult hposition _ hlength =>
    obtain ⟨hzero, -, hle⟩ := hplace.result hphase
    refine ⟨fun h => ?_, fun _ => ⟨hlength.trans hzero, ?_, ?_⟩, fun h => ?_⟩
    · rw [hafter] at h
      cases h
    · have hcount := congrArg List.length hvalue
      have hpositive := length_pos_of_ne_nil hrest
      rw [length_drop, length_cons] at hcount
      rw [hresult, hposition]
      omega
    · rw [hresult]
      exact hle
    · rw [hafter] at h
      cases h
  | last hphase _ heq =>
    rw [heq]
    exact inPlace_of_idle rfl (hplace.result hphase).1

theorem Access.phase_ends (haccess : Access before after event value) (hplace : InPlace before)
    (hphase : before.fdc.phase ≠ .command) (hends : after.fdc.phase ≠ before.fdc.phase) :
    after.fdc.commandLength = 0 := by
  cases haccess with
  | elsewhere _ _ hsame _ => exact absurd hsame.phase hends
  | held _ _ hsame _ => exact absurd hsame.phase hends
  | reset _ _ _ hlength _ _ => exact hlength
  | transfer _ hexecution hproceeds =>
    rcases hproceeds.outcome with hconcluded | htransferring
    · exact hconcluded.answered.commandLength
    · exact absurd (htransferring.phase.trans hexecution.symm) hends
  | part hcommand _ _ _ _ _ _ => exact absurd hcommand hphase
  | whole hcommand _ _ _ _ => exact absurd hcommand hphase
  | deaf _ heq => exact absurd (heq ▸ rfl) hends
  | mute _ heq => exact absurd (heq ▸ rfl) hends
  | more hresult _ _ hafter _ _ _ _ => exact absurd (hafter.trans hresult.symm) hends
  | last hresult _ heq =>
    rw [heq]
    exact (hplace.result hresult).1

theorem vddFdcReset_inPlace (isDmaPresent : Bool) : InPlace (vddFdcReset isDmaPresent) :=
  inPlace_of_idle rfl rfl

def FdcStep (callbacks : FdcCallbacks σ) (board : FdcBoard σ) (event : FdcEvent σ)
    (after : FdcBoard σ) : Prop :=
  ∃ value, fdcAccess callbacks board event = some (after, value)

theorem fdcRun_inPlace {host : σ} {events : List (FdcEvent σ)}
    (hrun : Run (FdcStep callbacks) ⟨vddFdcReset callbacks.isDmaPresent, host⟩ events board) :
    InPlace board.chip := by
  refine hrun.invariant (fun board => InPlace board.chip) ?_ (vddFdcReset_inPlace _)
  intro board event after hplace ⟨value, hstep⟩
  obtain ⟨other, _, hother, haccess⟩ :=
    fdcAccess_access callbacks event hplace
  obtain ⟨rfl, rfl⟩ := Prod.mk.inj (Option.some.inj (hother.symm.trans hstep))
  exact haccess.inPlace hplace

end Boards

end Ntvdmex.Vdd.FdcPorts
