import Ntvdmex.Foundation.Runs
import Ntvdmex.Vdd.Proofs.Fdc.Rounds

/-!
# The sector data of a command

What a data command leaves in the medium, in the memory and in its result bytes, over the
whole run of its rounds.
-/

namespace Ntvdmex.Vdd.Fdc

open Foundation FdcMachine List
open Vdd.Dma

/-- The command of `machine` has moved its sectors; a write has left `byteAt k` at byte `k`
of them. -/
structure DataTransferred (byteAt : Nat → UInt8) (machine final : FdcMachine) : Prop where
  dma : final.dma = dmaWalk fdcDmaChannel machine.streamLength machine.dma
  delivered : machine.isRead = true →
    final.memory = deliver fdcDmaChannel (machine.sectorData.take machine.streamLength)
      machine.dma machine.memory
  kept : machine.isRead = true → final.medium = machine.medium
  untouched : machine.isRead = false → final.memory.bytes = machine.memory.bytes
  stored : machine.isRead = false → ∀ (i : Nat) (position : FdcPosition),
    machine.sectorsMoved[i]? = some position → ∀ j : Fin 512,
      final.medium.contents (machine.fdc.sectorAt position) j = byteAt (fdcSectorSize * i + j.val)
  others : ∀ sector, (∀ position ∈ machine.sectorsMoved, sector ≠ machine.fdc.sectorAt position) →
    final.medium.contents sector = machine.medium.contents sector
  result : ∃ interruptCode status1 status2,
    final.fdc.result =
        [interruptCode ||| machine.endPosition.head <<< 2 ||| machine.fdc.execDrive.val, status1,
          status2, machine.endPosition.cylinder, machine.endPosition.headAddress,
          machine.endPosition.sector, machine.fdc.execSizeCode] ∧
      (machine.EndsAtTerminalCount → interruptCode = fdcSt0Normal ∧ status1 = 0 ∧ status2 = 0) ∧
      (¬ machine.EndsAtTerminalCount → interruptCode = fdcSt0Abnormal ∧ status1 ≠ 0)

/-- The bytes a write leaves: those supplied up to terminal count, then zeros. -/
def FdcMachine.exactByte (machine : FdcMachine) (k : Nat) : UInt8 :=
  if k < machine.terminalCount then machine.supplied k else 0

def DataExact (machine final : FdcMachine) : Prop :=
  DataTransferred machine.exactByte machine final

/-- The bytes a write leaves when its buffer holds `stack` before each round. -/
def FdcMachine.storedByte (machine : FdcMachine) (stack : Nat → SectorBytes) (k : Nat) : UInt8 :=
  if k < machine.streamLength then machine.supplied k
  else bufferByte (stack (k / fdcSectorSize)) (k % fdcSectorSize)

/-! ## The sectors of a command, round by round -/

theorem commandSectors_cons (state : FdcState) :
    ∃ rest, commandSectors state = state.position :: rest := by
  cases h : (fdcAdvance state).2 with
  | false => exact ⟨_, commandSectors_advance h⟩
  | true => exact ⟨_, commandSectors_last h⟩

theorem counted_sectors (machine : FdcMachine) :
    commandSectors machine.counted = commandSectors machine.fdc := by
  unfold counted
  split <;> rfl

theorem counted_position (machine : FdcMachine) :
    machine.counted.position = machine.fdc.position := by
  unfold counted
  split <;> rfl

section

variable (machine : FdcMachine) (stack : SectorBytes)

include machine stack

theorem afterSector_fdc :
    (machine.afterSector stack).fdc =
      machine.counted.moveTo (followingPosition machine.fdc machine.fdc.position) := by
  change (fdcAdvance machine.counted).1 = _
  rw [fdcAdvance_position, counted_position]
  unfold counted
  split <;> rfl

theorem afterSector_isFound :
    (machine.afterSector stack).fdc.isFound (machine.afterSector stack).medium =
      machine.fdc.isFound machine.medium := by
  funext position
  rw [afterSector_fdc]
  unfold counted afterSector
  split <;> rfl

theorem afterSector_sectorAt :
    (machine.afterSector stack).fdc.sectorAt = machine.fdc.sectorAt := by
  funext position
  rw [afterSector_fdc]
  unfold counted
  split <;> rfl

theorem afterSector_following :
    followingPosition (machine.afterSector stack).fdc = followingPosition machine.fdc := by
  funext position
  rw [afterSector_fdc]
  unfold counted
  split <;> rfl

theorem afterSector_position :
    (machine.afterSector stack).fdc.position =
      followingPosition machine.fdc machine.fdc.position := by
  rw [afterSector_fdc]
  rfl

theorem afterSector_isRead :
    (machine.afterSector stack).isRead = machine.isRead := by
  unfold isRead
  rw [afterSector_fdc]
  unfold counted
  split <;> rfl

theorem afterSector_address :
    (machine.afterSector stack).fdc.execDrive = machine.fdc.execDrive ∧
      (machine.afterSector stack).fdc.execSizeCode = machine.fdc.execSizeCode := by
  rw [afterSector_fdc]
  unfold counted
  split <;> exact ⟨rfl, rfl⟩

theorem afterSector_connected :
    fdcDmaConnected (machine.afterSector stack).fdc = fdcDmaConnected machine.fdc := by
  rw [afterSector_fdc]
  unfold counted
  split <;> rfl

end

section

variable {machine : FdcMachine}

theorem afterSector_isMediumReady (stack : SectorBytes)
    (h : machine.IsMediumReady) : (machine.afterSector stack).IsMediumReady := by
  intro hwrite
  rw [afterSector_isRead] at hwrite
  have hnot : ¬ machine.isRead = true := by rw [hwrite]; decide
  unfold afterSector
  dsimp only
  rw [if_neg hnot]
  exact h hwrite

theorem sectorsFound_of_unfound
    (h : fdcFindSector machine.fdc machine.medium ≠ none) : machine.sectorsFound = [] := by
  obtain ⟨rest, hrest⟩ := commandSectors_cons machine.fdc
  have hnot : ¬ machine.fdc.isFound machine.medium machine.fdc.position = true :=
    fun hfound => h (Option.isNone_iff_eq_none.mp hfound)
  unfold sectorsFound
  rw [hrest, takeWhile_cons_of_neg hnot]

theorem isFound_position (h : fdcFindSector machine.fdc machine.medium = none) :
    machine.fdc.isFound machine.medium machine.fdc.position = true :=
  Option.isNone_iff_eq_none.mpr h

theorem sectorsFound_last (hfound : fdcFindSector machine.fdc machine.medium = none)
    (hlast : (fdcAdvance machine.counted).2 = true) :
    machine.sectorsFound = [machine.fdc.position] := by
  unfold sectorsFound
  rw [← counted_sectors, commandSectors_last hlast, counted_position,
    takeWhile_cons_of_pos (isFound_position hfound), takeWhile_nil]

theorem sectorsFound_next (stack : SectorBytes)
    (hfound : fdcFindSector machine.fdc machine.medium = none)
    (hnext : (fdcAdvance machine.counted).2 = false) :
    machine.sectorsFound =
      machine.fdc.position :: (machine.afterSector stack).sectorsFound := by
  unfold sectorsFound
  rw [afterSector_isFound, ← counted_sectors, commandSectors_advance hnext, counted_position,
    takeWhile_cons_of_pos (isFound_position hfound)]
  rfl

end

section

variable {machine : FdcMachine} (stack : SectorBytes) (h : fdcSectorSize < machine.terminalCount)

include stack h

theorem afterSector_channel :
    (machine.afterSector stack).channel = machine.channel.walk fdcSectorSize := by
  change (dmaWalk fdcDmaChannel machine.sectorUnits machine.dma).channels fdcDmaChannel = _
  rw [dmaWalk_channel, sectorUnits_of_not_terminal h]
  rfl

theorem afterSector_terminalCount :
    (machine.afterSector stack).terminalCount = machine.terminalCount - fdcSectorSize := by
  unfold terminalCount at h ⊢
  rw [afterSector_channel stack h, (machine.channel.walk_of_le (by lia)).2]
  lia

theorem afterSector_answers :
    (machine.afterSector stack).answers = machine.answers := by
  have hunits : fdcSectorSize ≤ (machine.dma.channels fdcDmaChannel).currentCount.toNat := by
    unfold terminalCount channel at h
    omega
  have hdma : (machine.afterSector stack).dma =
      dmaWalk fdcDmaChannel fdcSectorSize machine.dma := by
    rw [← sectorUnits_of_not_terminal h]
    rfl
  unfold answers
  rw [afterSector_connected, hdma, vddDmaGrants_walk isByteChannel_fdc hunits]

theorem afterSector_streamLength (sectors : Nat) :
    machine.channel.unitsWithin (fdcSectorSize * (sectors + 1)) =
      fdcSectorSize +
        (machine.afterSector stack).channel.unitsWithin (fdcSectorSize * sectors) := by
  unfold terminalCount at h
  rw [afterSector_channel stack h]
  unfold DmaChannel.unitsWithin
  rw [DmaChannel.hasMode_eq (DmaChannel.walk_mode machine.channel fdcSectorSize),
    (machine.channel.walk_of_le (by lia)).2, Nat.mul_succ]
  split <;> lia

end

/-! ## A round that goes on -/

section Next

variable {machine : FdcMachine} (stack : SectorBytes)
  (hfound : fdcFindSector machine.fdc machine.medium = none)
  (hanswers : machine.answers = true)
  (hterminal : fdcSectorSize < machine.terminalCount)
  (hnext : (fdcAdvance machine.counted).2 = false)

include hfound hanswers hterminal hnext

theorem sectorsMoved_next : machine.sectorsMoved =
    machine.fdc.position :: (machine.afterSector stack).sectorsMoved := by
  unfold sectorsMoved
  rw [afterSector_answers stack hterminal, if_pos hanswers, if_pos hanswers,
    sectorsFound_next stack hfound hnext, afterSector_terminalCount stack hterminal]
  have hcount : (machine.terminalCount + (fdcSectorSize - 1)) / fdcSectorSize =
      (machine.terminalCount - fdcSectorSize + (fdcSectorSize - 1)) / fdcSectorSize + 1 := by
    unfold fdcSectorSize at hterminal ⊢
    lia
  rw [hcount, take_succ_cons]

theorem streamLength_next : machine.streamLength =
    fdcSectorSize + (machine.afterSector stack).streamLength := by
  unfold streamLength
  rw [sectorsMoved_next stack hfound hanswers hterminal hnext, length_cons]
  exact afterSector_streamLength stack hterminal _

omit hanswers in
theorem endsAtTerminalCount_next :
    machine.EndsAtTerminalCount ↔ (machine.afterSector stack).EndsAtTerminalCount := by
  unfold FdcMachine.EndsAtTerminalCount
  rw [afterSector_answers stack hterminal, afterSector_terminalCount stack hterminal,
    sectorsFound_next stack hfound hnext, length_cons, Nat.mul_succ]
  refine and_congr_right fun _ => ?_
  omega

theorem endPosition_next : machine.endPosition = (machine.afterSector stack).endPosition := by
  unfold endPosition
  rw [sectorsMoved_next stack hfound hanswers hterminal hnext, afterSector_following,
    afterSector_position]
  cases hmoved : (machine.afterSector stack).sectorsMoved with
  | nil => rfl
  | cons position rest =>
    obtain ⟨last, hlast⟩ : ∃ last, (position :: rest).getLast? = some last :=
      ⟨_, getLast?_eq_some_getLast (cons_ne_nil _ _)⟩
    rw [getLast?_cons_cons, hlast]

omit hfound hanswers hnext in
theorem afterSector_dma :
    (machine.afterSector stack).dma = dmaWalk fdcDmaChannel fdcSectorSize machine.dma := by
  rw [← sectorUnits_of_not_terminal hterminal]
  rfl

omit hfound hanswers hterminal hnext in
theorem afterSector_bytes (hwrite : machine.isRead = false) :
    (machine.afterSector stack).memory.bytes = machine.memory.bytes := by
  have hnot : ¬ machine.isRead = true := by rw [hwrite]; decide
  unfold afterSector
  rw [if_neg hnot]
  exact (vddDmaRead_spec isByteChannel_fdc machine.dma machine.memory fdcSectorSize).2.2.2.1

omit hfound hanswers hnext in
theorem afterSector_supplied (hwrite : machine.isRead = false) (k : Nat) :
    (machine.afterSector stack).supplied k = machine.supplied (fdcSectorSize + k) := by
  unfold supplied
  rw [afterSector_dma stack hterminal, afterSector_bytes stack hwrite, streamByte_walk]

theorem storedByte_next (buffers : Nat → SectorBytes) (hwrite : machine.isRead = false) (k : Nat) :
    machine.storedByte buffers (fdcSectorSize + k) =
      (machine.afterSector stack).storedByte (fun round => buffers (round + 1)) k := by
  have hdiv : (fdcSectorSize + k) / fdcSectorSize = k / fdcSectorSize + 1 := by
    unfold fdcSectorSize
    lia
  have hmod : (fdcSectorSize + k) % fdcSectorSize = k % fdcSectorSize := Nat.add_mod_left _ _
  unfold storedByte
  rw [streamLength_next stack hfound hanswers hterminal hnext,
    afterSector_supplied stack hterminal hwrite, hdiv, hmod]
  split
  · rw [if_pos (by lia)]
  · rw [if_neg (by lia)]

end Next

section

variable {machine : FdcMachine} (stack : SectorBytes)

include stack

theorem afterSector_kept
    (hread : machine.isRead = true) : (machine.afterSector stack).medium = machine.medium := by
  exact if_pos hread

theorem afterSector_contents_other {sector : FdcSector} (h : sector ≠ machine.fdc.sector) :
    (machine.afterSector stack).medium.contents sector = machine.medium.contents sector := by
  unfold afterSector
  split
  · rfl
  · exact Function.update_of_ne h ..

theorem afterSector_contents (hwrite : machine.isRead = false) :
    (machine.afterSector stack).medium.contents machine.fdc.sector =
      machine.sectorWritten stack := by
  have hnot : ¬ machine.isRead = true := by rw [hwrite]; decide
  unfold afterSector
  dsimp only
  rw [if_neg hnot]
  exact Function.update_self ..

theorem sectorAt_ne_sector (hnext : (fdcAdvance machine.counted).2 = false) {position : FdcPosition}
    (hposition : position ∈ (machine.afterSector stack).sectorsMoved) :
    machine.fdc.sector ≠ machine.fdc.sectorAt position := by
  intro hsame
  have hmem : position ∈ commandSectors (fdcAdvance machine.counted).1 := by
    unfold sectorsMoved at hposition
    split at hposition
    · exact (takeWhile_sublist _).subset (mem_of_mem_take hposition)
    · exact absurd hposition (by simp)
  have hhead : machine.fdc.execHead = position.head := congrArg FdcSector.head hsame
  have hsector : machine.fdc.execSector = position.sector := congrArg FdcSector.sector hsame
  have hcounted := counted_position machine
  refine commandSectors_fresh hnext hmem ⟨?_, ?_⟩
  · exact hhead.symm.trans (congrArg FdcPosition.head hcounted).symm
  · exact hsector.symm.trans (congrArg FdcPosition.sector hcounted).symm

end

end Ntvdmex.Vdd.Fdc
