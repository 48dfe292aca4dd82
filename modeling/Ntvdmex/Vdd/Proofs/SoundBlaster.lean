import Ntvdmex.Foundation.Runs
import Ntvdmex.Vdd.SoundBlaster

/-!
# The block size of the DSP

The bytes written to the DSP are cut into commands by their argument counts.  `BlockLength` is the
length of the last command that sets one, so a start without a length of its own runs with that.
-/

namespace Ntvdmex.Vdd.SoundBlaster

open Foundation List Option UInt8 SbState

variable {card : SbCard} {state : SbState} {log : SbLog} {size : UInt32}

structure SbCommand where
  opcode : UInt8
  arguments : List UInt8
deriving DecidableEq

variable (command : SbCommand)

def SbCommand.bytes : List UInt8 := command.opcode :: command.arguments

/-- The length that a command leaves in `BlockLength`: a block size, or that of a transfer. -/
def SbCommand.length (card : SbCard) (command : SbCommand) : Option UInt32 :=
  if SbIgnores card command.opcode then none
  else if IsProgrammed command.opcode then
    if command.opcode &&& 0x08 ≠ 0 then none
    else some (programmedLength command.opcode command.arguments)
  else if command.opcode ∈ [0x14, 0x16, 0x17, 0x48] then
    some (argumentWord command.arguments 0 1 + 1)
  else none

def SbCommand.blockSize : Option UInt32 :=
  if command.opcode = 0x48 then some (argumentWord command.arguments 0 1 + 1) else none

def lastLength (card : SbCard) (commands : List SbCommand) : Option UInt32 :=
  (commands.filterMap (SbCommand.length card)).getLast?

def lastBlockSize (commands : List SbCommand) : Option UInt32 :=
  (commands.filterMap SbCommand.blockSize).getLast?

/-- The 8-bit starts that take the block size as it stands. -/
def SbCommand.IsBareStart : Prop :=
  command.opcode ∈ [0x1C, 0x2C, 0x90, 0x91]

def sbExecuted (card : SbCard) (state : SbState) (value : UInt8) : Option SbCommand :=
  let state := sbCollect card state value
  if state.argumentsWanted ≤ state.arguments.length then
    some ⟨state.command, state.arguments⟩
  else none

theorem argumentWord_lt (arguments : List UInt8) (low high : Nat) :
    (argumentWord arguments low high).toNat < 65536 := by
  unfold argumentWord
  generalize arguments.getD low 0 = lower
  generalize arguments.getD high 0 = upper
  have hlower := lower.toNat_lt
  have hupper := upper.toNat_lt
  have hshift : (upper.toUInt32 <<< 8).toNat < 2 ^ 16 := by
    rw [UInt32.toNat_shiftLeft, toNat_toUInt32, Nat.shiftLeft_eq]
    exact Nat.mod_lt_of_lt (by simp; omega)
  rw [UInt32.toNat_or, toNat_toUInt32]
  exact Nat.or_lt_two_pow (by omega) hshift

theorem SbCommand.length_ne_zero {command : SbCommand} {length : UInt32}
    (h : command.length card = some length) : length ≠ 0 := by
  have hword := argumentWord_lt command.arguments
  unfold SbCommand.length at h
  split_ifs at h <;> obtain rfl := some_inj.mp h
  · intro hzero
    have hvalue := congrArg UInt32.toNat hzero
    have hlow := hword 1 2
    unfold programmedLength at hvalue
    split_ifs at hvalue <;>
      simp only [UInt32.toNat_mul, UInt32.toNat_add, UInt32.reduceToNat] at hvalue <;> omega
  · intro hzero
    have hvalue := congrArg UInt32.toNat hzero
    have hlow := hword 0 1
    simp only [UInt32.toNat_add, UInt32.reduceToNat] at hvalue
    omega

theorem sbSwitch_blockLength (hcommand : state.command ∉ [(0x14 : UInt8), 0x16, 0x17, 0x48])
    (hlength : state.blockLength ≠ 0) : (sbSwitch card state).blockLength = state.blockLength := by
  have hblock : (if state.blockLength ≠ 0 then state.blockLength else 1) = state.blockLength :=
    if_pos hlength
  have hpush : ∀ (state : SbState) (value : UInt8),
      (sbOutputQueuePush state value).blockLength = state.blockLength := by
    intro state value
    unfold sbOutputQueuePush
    split_ifs <;> rfl
  simp only [mem_cons, not_mem_nil, or_false, not_or] at hcommand
  obtain ⟨h14, h16, h17, h48⟩ := hcommand
  unfold sbSwitch
  simp only [apply_ite blockLength, sbStartBlock, sbLegacy, h14, h16, h17, h48, hblock,
    hpush, or_false, if_false, ite_self]

theorem sbExecute_blockLength (hlength : state.blockLength ≠ 0) :
    (sbExecute card state).blockLength =
      (SbCommand.length card ⟨state.command, state.arguments⟩).getD state.blockLength := by
  have hnonzero := @SbCommand.length_ne_zero card ⟨state.command, state.arguments⟩
  unfold SbCommand.length at hnonzero ⊢
  unfold sbExecute
  dsimp only at hnonzero ⊢
  by_cases hignores : SbIgnores card state.command
  · rw [if_pos hignores, if_pos hignores]
    rfl
  rw [if_neg hignores] at hnonzero ⊢
  rw [if_neg hignores]
  by_cases hprogrammed : IsProgrammed state.command
  · rw [if_pos hprogrammed] at hnonzero ⊢
    rw [if_pos hprogrammed]
    unfold sbProgrammed
    by_cases hinput : state.command &&& 0x08 ≠ 0
    · rw [if_pos hinput, if_pos hinput]
      rfl
    · rw [if_neg hinput] at hnonzero ⊢
      rw [if_neg hinput]
      exact if_pos (hnonzero rfl)
  · rw [if_neg hprogrammed] at hnonzero ⊢
    rw [if_neg hprogrammed]
    by_cases hword : state.command ∈ [(0x14 : UInt8), 0x16, 0x17, 0x48]
    · rw [if_pos hword] at hnonzero ⊢
      rw [getD_some]
      have hblock := hnonzero rfl
      simp only [mem_cons, not_mem_nil, or_false] at hword
      unfold sbSwitch
      rcases hword with h | h | h | h <;> simp [h, sbStartBlock, hblock]
    · rw [if_neg hword]
      exact sbSwitch_blockLength hword hlength

theorem sbExecute_bareStart (hlength : state.blockLength ≠ 0)
    (hstart : SbCommand.IsBareStart ⟨state.command, state.arguments⟩) :
    (sbExecute card state).blockRemaining = state.blockLength ∧
      (sbExecute card state).blockLength = state.blockLength := by
  simp only [SbCommand.IsBareStart, mem_cons, not_mem_nil, or_false] at hstart
  unfold sbExecute sbSwitch
  rcases hstart with h | h | h | h <;>
    simp [h, sbStartBlock, hlength, SbIgnores, SbIsSb16Only, IsProgrammed, le_iff_toNat_le]

/-! ## Runs -/

inductive SbEvent where
  | write (value : UInt8)
  | frame (dma : SbDmaFrame)

/-- The card, the bytes written to it and the commands it has executed. -/
structure SbLog where
  state : SbState
  bytes : List UInt8
  executed : List SbCommand

def SbLog.next (card : SbCard) (log : SbLog) : SbEvent → SbLog
  | .write value =>
    ⟨sbDspWrite card log.state value, log.bytes ++ [value],
      log.executed ++ (sbExecuted card log.state value).toList⟩
  | .frame dma => { log with state := sbRenderFrame card log.state dma }

/-- The bytes of the command that waits for arguments. -/
def SbState.pending (state : SbState) : List UInt8 :=
  if state.argumentsWanted = 0 then [] else state.command :: state.arguments

structure SbLog.Sound (card : SbCard) (log : SbLog) : Prop where
  length : log.state.blockLength = (lastLength card log.executed).getD 1
  ne_zero : log.state.blockLength ≠ 0
  bytes : log.bytes = log.executed.flatMap SbCommand.bytes ++ log.state.pending
  counts : ∀ command ∈ log.executed,
    command.arguments.length = sbCommandArguments card command.opcode
  waits : log.state.argumentsWanted ≠ 0 →
    log.state.argumentsWanted = sbCommandArguments card log.state.command ∧
      log.state.arguments.length < log.state.argumentsWanted

theorem sbCommandArguments_le (card : SbCard) (command : UInt8) :
    sbCommandArguments card command ≤ 3 := by
  unfold sbCommandArguments
  split_ifs <;> omega

theorem sbCollect_spec (h : log.Sound card) (value : UInt8) :
    (sbCollect card log.state value).blockLength = log.state.blockLength ∧
    (sbCollect card log.state value).command :: (sbCollect card log.state value).arguments =
      log.state.pending ++ [value] ∧
    (sbCollect card log.state value).argumentsWanted =
      sbCommandArguments card (sbCollect card log.state value).command ∧
    (sbCollect card log.state value).arguments.length ≤
      (sbCollect card log.state value).argumentsWanted := by
  unfold sbCollect pending
  by_cases hwanted : log.state.argumentsWanted = 0
  · rw [if_neg (not_not.mpr hwanted), if_pos hwanted]
    exact ⟨rfl, rfl, rfl, Nat.zero_le _⟩
  · obtain ⟨hcount, hlt⟩ := h.waits hwanted
    have hroom : log.state.arguments.length < sbArgumentsMax := by
      have hmax := sbCommandArguments_le card log.state.command
      have hsize : sbArgumentsMax = 4 := rfl
      lia
    rw [if_pos hwanted, if_neg hwanted, if_pos hroom]
    refine ⟨rfl, rfl, hcount, ?_⟩
    rw [length_append, length_singleton]
    exact hlt

theorem lastLength_append (card : SbCard) (commands : List SbCommand) (command : SbCommand) :
    (lastLength card (commands ++ [command])).getD 1 =
      (command.length card).getD ((lastLength card commands).getD 1) := by
  unfold lastLength
  rw [filterMap_append]
  cases h : command.length card with
  | none => simp [h]
  | some length => simp [h]

theorem SbLog.Sound.write (h : log.Sound card) (value : UInt8) :
    (log.next card (.write value)).Sound card := by
  obtain ⟨hlength, hbytes, hcount, hle⟩ := sbCollect_spec h value
  have hnonzero : (sbCollect card log.state value).blockLength ≠ 0 := hlength ▸ h.ne_zero
  simp only [SbLog.next, sbDspWrite, sbExecuted]
  generalize sbCollect card log.state value = state at *
  by_cases hfull : state.argumentsWanted ≤ state.arguments.length
  · have hblock := @sbExecute_blockLength card state hnonzero
    simp only [if_pos hfull, toList_some]
    refine ⟨?_, ?_, ?_, ?_, fun hwanted => absurd rfl hwanted⟩
    · rw [lastLength_append, ← h.length, ← hlength]
      exact hblock
    · cases hset : SbCommand.length card ⟨state.command, state.arguments⟩ with
      | none => exact hblock ▸ hset ▸ hnonzero
      | some length => exact hblock ▸ hset ▸ SbCommand.length_ne_zero hset
    · rw [h.bytes, flatMap_append, flatMap_singleton, append_assoc, ← hbytes]
      exact (append_nil _).symm
    · intro command hcommand
      rcases mem_append.mp hcommand with hold | hnew
      · exact h.counts command hold
      · rw [mem_singleton.mp hnew]
        exact (Nat.le_antisymm hle hfull).trans hcount
  · simp only [if_neg hfull, toList_none, append_nil]
    refine ⟨hlength.trans h.length, hnonzero, ?_, h.counts, fun _ => ⟨hcount, not_le.mp hfull⟩⟩
    rw [h.bytes, append_assoc, ← hbytes, pending, if_neg]
    exact Nat.ne_of_gt (Nat.zero_lt_of_lt (not_le.mp hfull))

theorem sbRenderFrame_keeps (card : SbCard) (state : SbState) (dma : SbDmaFrame) :
    (sbRenderFrame card state dma).blockLength = state.blockLength ∧
    (sbRenderFrame card state dma).command = state.command ∧
    (sbRenderFrame card state dma).arguments = state.arguments ∧
    (sbRenderFrame card state dma).argumentsWanted = state.argumentsWanted := by
  unfold sbRenderFrame sbFetchSample
  simp only [apply_ite blockLength, apply_ite command,
    apply_ite arguments, apply_ite argumentsWanted, ite_self, and_self]

theorem SbLog.Sound.frame (h : log.Sound card) (dma : SbDmaFrame) :
    (log.next card (.frame dma)).Sound card := by
  obtain ⟨hlength, hcommand, harguments, hwanted⟩ := sbRenderFrame_keeps card log.state dma
  refine ⟨hlength.trans h.length, hlength ▸ h.ne_zero, ?_, h.counts, ?_⟩
  · rw [pending, SbLog.next, hcommand, harguments, hwanted]
    exact h.bytes
  · rw [SbLog.next, hcommand, harguments, hwanted]
    exact h.waits

theorem SbLog.sound_run (card : SbCard) (events : List SbEvent) :
    (events.foldl (SbLog.next card) ⟨vddSbReset, [], []⟩).Sound card := by
  induction events using reverseRecOn with
  | nil => exact ⟨rfl, UInt32.zero_ne_one.symm, rfl, by simp, fun hwanted => absurd rfl hwanted⟩
  | append_singleton events event ih =>
    rw [foldl_append, foldl_cons, foldl_nil]
    cases event with
    | write value => exact ih.write value
    | frame dma => exact ih.frame dma

/-! ## The size a start runs with -/

def RunsWithBlocksOf (card : SbCard) (size : UInt32) (state : SbState) : Prop :=
  state.blockRemaining = size ∧
    ∀ frames : List SbDmaFrame, (frames.foldl (sbRenderFrame card) state).blockLength = size

/-- The byte starts an 8-bit transfer without a length of its own, and `size` is that of the last
block size command. -/
def SbLog.StartsBare (card : SbCard) (log : SbLog) (event : SbEvent) (value : UInt8)
    (size : UInt32) : Prop :=
  event = .write value ∧ lastBlockSize log.executed = some size ∧
    ∃ command ∈ sbExecuted card log.state value, command.IsBareStart

def SbLog.KeepsSize (card : SbCard) (log : SbLog) (event : SbEvent) : Prop :=
  ∀ value size, log.StartsBare card event value size →
    RunsWithBlocksOf card size (sbDspWrite card log.state value)

def SbLog.SizeStands (card : SbCard) (log : SbLog) (event : SbEvent) : Prop :=
  ∀ value size, log.StartsBare card event value size →
    lastLength card log.executed = some size

theorem lastLength_isSome {commands : List SbCommand} (h : lastBlockSize commands = some size)
    : ∃ length, lastLength card commands = some length := by
  obtain ⟨command, hcommand, hsize⟩ := mem_filterMap.mp (mem_of_getLast? h)
  have hopcode : command.opcode = 0x48 := by
    by_contra hother
    rw [SbCommand.blockSize, if_neg hother] at hsize
    exact absurd hsize (by simp)
  have hlength : command.length card = some (argumentWord command.arguments 0 1 + 1) := by
    simp [SbCommand.length, hopcode, SbIgnores, SbIsSb16Only, IsProgrammed,
      le_iff_toNat_le]
  exact ⟨_, getLast?_eq_some_getLast
    (ne_nil_of_mem (mem_filterMap.mpr ⟨command, hcommand, hlength⟩))⟩

theorem sbDspWrite_bareStart (h : log.Sound card) {event : SbEvent} {value : UInt8}
    (hstart : log.StartsBare card event value size) :
    RunsWithBlocksOf card size (sbDspWrite card log.state value) ↔
      log.state.blockLength = size := by
  obtain ⟨-, -, command, hexecuted, hbare⟩ := hstart
  obtain ⟨hlength, -⟩ := sbCollect_spec h value
  have hnonzero : (sbCollect card log.state value).blockLength ≠ 0 := hlength ▸ h.ne_zero
  have hframes : ∀ (frames : List SbDmaFrame) (state : SbState),
      (frames.foldl (sbRenderFrame card) state).blockLength = state.blockLength := by
    intro frames
    induction frames with
    | nil => exact fun state => rfl
    | cons dma frames ih => exact fun state => (ih _).trans (sbRenderFrame_keeps card state dma).1
  unfold sbExecuted at hexecuted
  by_cases hfull : (sbCollect card log.state value).argumentsWanted ≤
      (sbCollect card log.state value).arguments.length
  · rw [if_pos hfull] at hexecuted
    obtain rfl := mem_some_iff.mp hexecuted
    obtain ⟨hremaining, hblock⟩ := @sbExecute_bareStart card _ hnonzero hbare
    simp only [RunsWithBlocksOf, sbDspWrite, if_pos hfull, hframes, hremaining, hblock, hlength,
      forall_const, and_self]
  · rw [if_neg hfull] at hexecuted
    exact absurd hexecuted (by simp)

theorem SbLog.keepsSize_iff (h : log.Sound card) (event : SbEvent) :
    log.KeepsSize card event ↔ log.SizeStands card event := by
  refine forall₃_congr fun value size hstart => ?_
  obtain ⟨length, hlast⟩ := @lastLength_isSome card _ _ hstart.2.1
  rw [sbDspWrite_bareStart h hstart, h.length, hlast, getD_some, some_inj]

def sb16Card : SbCard := ⟨.sb16, 4, 5, .off, true⟩

/-- A block size of 2048, a single transfer of 16 bytes, an auto-init start. -/
def doomedStart : List SbEvent :=
  [0x48, 0xFF, 0x07, 0x14, 0x0F, 0x00, 0x1C].map .write

end Ntvdmex.Vdd.SoundBlaster
