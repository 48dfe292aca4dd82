import Ntvdmex.Vdd.Fdc
import Ntvdmex.Vdd.Proofs.Dma.Transfer

/-!
# The sectors and the rounds of a data command

The sectors a command goes through, the part of them it moves, and what one round of
the transfer does with its sector.
-/

namespace Ntvdmex.Vdd.Fdc

open Vdd.Dma List Bool FdcMachine DmaChannel

/-! ## The order of the sectors -/

/-- Where a command stands: C, H, R as it reports them, and the physical head. -/
structure FdcPosition where
  cylinder : Nat
  headAddress : Nat
  head : Nat
  sector : Nat
  deriving DecidableEq, Repr

def FdcState.position (state : FdcState) : FdcPosition where
  cylinder := state.execCylinder
  headAddress := state.execHeadAddress
  head := state.execHead
  sector := state.execSector

def FdcState.moveTo (state : FdcState) (position : FdcPosition) : FdcState :=
  { state with
    execCylinder := position.cylinder
    execHeadAddress := position.headAddress
    execHead := position.head
    execSector := position.sector }

/-- R, R+1, ... up to EOT. -/
def trackSectors (first eot : Nat) : List Nat := first :: List.range' (first + 1) (eot - first)

def FdcState.SwitchesSide (state : FdcState) : Prop :=
  state.execIsMultiTrack = true ∧ state.execHeadAddress &&& 1 = 0
deriving Decidable

def commandSectors (state : FdcState) : List FdcPosition :=
  (trackSectors state.execSector state.execEot).map
      (fun sector => { state.position with sector }) ++
    if state.SwitchesSide then
      (trackSectors fdcFirstSector state.execEot).map fun sector =>
        { cylinder := state.execCylinder
          headAddress := state.execHeadAddress ^^^ 1
          head := state.execHead ^^^ 1
          sector }
    else []

/-- The C, H, R after a sector, by the datasheet's table. -/
def followingPosition (state : FdcState) (position : FdcPosition) : FdcPosition :=
  if position.sector < state.execEot then { position with sector := position.sector + 1 }
  else if state.execIsMultiTrack = true ∧ position.headAddress &&& 1 = 0 then
    { position with
      headAddress := position.headAddress ^^^ 1
      head := position.head ^^^ 1
      sector := 1 }
  else if state.execIsMultiTrack then
    { position with
      cylinder := (position.cylinder + 1) % 256
      headAddress := position.headAddress ^^^ 1
      sector := 1 }
  else { position with cylinder := (position.cylinder + 1) % 256, sector := 1 }

theorem fdcAdvance_position (state : FdcState) :
    (fdcAdvance state).1 = state.moveTo (followingPosition state state.position) := by
  unfold fdcAdvance followingPosition
  by_cases hnext : state.execSector < state.execEot
  · have hposition : state.position.sector < state.execEot := hnext
    rw [if_pos hnext, if_pos hposition]
    rfl
  have hposition : ¬ state.position.sector < state.execEot := hnext
  rw [if_neg hnext, if_neg hposition]
  by_cases hside : state.execIsMultiTrack = true ∧ state.execHeadAddress &&& 1 = 0
  · have hside' : state.execIsMultiTrack = true ∧ state.position.headAddress &&& 1 = 0 := hside
    rw [if_pos hside, if_pos hside']
    rfl
  have hside' : ¬ (state.execIsMultiTrack = true ∧ state.position.headAddress &&& 1 = 0) := hside
  rw [if_neg hside, if_neg hside']
  by_cases hmulti : state.execIsMultiTrack = true
  · rw [if_pos hmulti, if_pos hmulti]
    rfl
  · rw [if_neg hmulti, if_neg hmulti]
    rfl

theorem xor_one_odd {value : Nat} (h : value &&& 1 = 0) : (value ^^^ 1) &&& 1 ≠ 0 := by
  rw [Nat.and_one_is_mod] at h ⊢
  rw [Nat.xor_mod_two_eq]
  omega

theorem xor_one_ne (value : Nat) : value ^^^ 1 ≠ value := by
  intro h
  have hmod : (value ^^^ 1) % 2 = value % 2 := congrArg (· % 2) h
  rw [Nat.xor_mod_two_eq] at hmod
  omega

theorem trackSectors_of_lt {first eot : Nat} (h : first < eot) :
    trackSectors first eot = first :: trackSectors (first + 1) eot := by
  unfold trackSectors
  obtain ⟨rest, hrest⟩ : ∃ rest, eot - first = rest + 1 := ⟨eot - first - 1, by lia⟩
  rw [hrest, range'_succ, show eot - (first + 1) = rest by lia]

theorem trackSectors_of_ge {first eot : Nat} (h : ¬ first < eot) :
    trackSectors first eot = [first] := by
  unfold trackSectors
  rw [show eot - first = 0 by omega]
  rfl

theorem commandSectors_of_lt {state : FdcState} (h : state.execSector < state.execEot) :
    commandSectors state =
      state.position :: commandSectors { state with execSector := state.execSector + 1 } := by
  unfold commandSectors
  rw [trackSectors_of_lt h, map_cons, cons_append]
  rfl

def FdcState.onSide1 (state : FdcState) : FdcState :=
  { state with
    execSector := fdcFirstSector
    execHeadAddress := state.execHeadAddress ^^^ 1
    execHead := state.execHead ^^^ 1 }

section

variable {state : FdcState}

theorem not_switchesSide_onSide1 (h : state.SwitchesSide) :
    ¬ state.onSide1.SwitchesSide := fun hboth => xor_one_odd h.2 hboth.2

theorem commandSectors_of_not_switchesSide (h : ¬ state.SwitchesSide) :
    commandSectors state = (trackSectors state.execSector state.execEot).map
      fun sector => { state.position with sector } := by
  unfold commandSectors
  rw [if_neg h, append_nil]

theorem commandSectors_of_switchesSide (h : state.SwitchesSide) :
    commandSectors state = (trackSectors state.execSector state.execEot).map
        (fun sector => { state.position with sector }) ++ commandSectors state.onSide1 := by
  rw [commandSectors_of_not_switchesSide (not_switchesSide_onSide1 h)]
  unfold commandSectors
  rw [if_pos h]
  rfl

theorem fdcAdvance_of_lt (h : state.execSector < state.execEot) :
    fdcAdvance state = ({ state with execSector := state.execSector + 1 }, false) := by
  unfold fdcAdvance
  rw [if_pos h]

theorem fdcAdvance_of_switchesSide (hlast : ¬ state.execSector < state.execEot)
    (hside : state.SwitchesSide) : fdcAdvance state = (state.onSide1, false) := by
  unfold fdcAdvance
  rw [if_neg hlast]
  exact if_pos hside

theorem fdcAdvance_of_end (hlast : ¬ state.execSector < state.execEot)
    (hside : ¬ state.SwitchesSide) : (fdcAdvance state).2 = true := by
  unfold fdcAdvance
  rw [if_neg hlast]
  exact congrArg Prod.snd (if_neg hside)

theorem commandSectors_advance (h : (fdcAdvance state).2 = false) :
    commandSectors state = state.position :: commandSectors (fdcAdvance state).1 := by
  by_cases hnext : state.execSector < state.execEot
  · rw [fdcAdvance_of_lt hnext, commandSectors_of_lt hnext]
  by_cases hside : state.SwitchesSide
  · rw [fdcAdvance_of_switchesSide hnext hside, commandSectors_of_switchesSide hside,
      trackSectors_of_ge hnext]
    rfl
  · rw [fdcAdvance_of_end hnext hside] at h
    exact absurd h (by simp)

theorem commandSectors_last (h : (fdcAdvance state).2 = true) :
    commandSectors state = [state.position] := by
  by_cases hnext : state.execSector < state.execEot
  · rw [fdcAdvance_of_lt hnext] at h
    exact absurd h (by simp)
  by_cases hside : state.SwitchesSide
  · rw [fdcAdvance_of_switchesSide hnext hside] at h
    exact absurd h (by simp)
  · rw [commandSectors_of_not_switchesSide hside, trackSectors_of_ge hnext]
    rfl

end

/-- A sector of the rest of a command is on the other side, or has the same head and is
not behind. -/
theorem mem_commandSectors {state : FdcState} {position : FdcPosition}
    (h : position ∈ commandSectors state) :
    position.head = state.execHead ^^^ 1 ∧ state.SwitchesSide ∨
      position.head = state.execHead ∧ state.execSector ≤ position.sector := by
  rcases mem_append.mp h with hsame | hother
  · obtain ⟨sector, hmem, rfl⟩ := mem_map.mp hsame
    refine Or.inr ⟨rfl, ?_⟩
    unfold trackSectors at hmem
    rw [mem_cons, mem_range'_1] at hmem
    change state.execSector ≤ sector
    omega
  · by_cases hside : state.SwitchesSide
    · rw [if_pos hside] at hother
      obtain ⟨sector, -, rfl⟩ := mem_map.mp hother
      exact Or.inl ⟨rfl, hside⟩
    · rw [if_neg hside] at hother
      exact absurd hother (by simp)

theorem commandSectors_fresh {state : FdcState} (h : (fdcAdvance state).2 = false)
    {position : FdcPosition} (hposition : position ∈ commandSectors (fdcAdvance state).1) :
    ¬ (position.head = state.execHead ∧ position.sector = state.execSector) := by
  rintro ⟨hhead, hsector⟩
  by_cases hnext : state.execSector < state.execEot
  · rw [fdcAdvance_of_lt hnext] at hposition
    rcases mem_commandSectors hposition with ⟨hother, -⟩ | ⟨-, hle⟩
    · exact xor_one_ne _ (hother.symm.trans hhead)
    · dsimp only at hle
      omega
  by_cases hside : state.SwitchesSide
  · rw [fdcAdvance_of_switchesSide hnext hside] at hposition
    rcases mem_commandSectors hposition with ⟨-, hagain⟩ | ⟨hother, -⟩
    · exact not_switchesSide_onSide1 hside hagain
    · exact xor_one_ne _ (hother.symm.trans hhead)
  · rw [fdcAdvance_of_end hnext hside] at h
    exact absurd h (by simp)

/-!
## The rounds of a data command

What a command is to move, and what one round does towards it.
-/

/-! ## What a command moves -/

def FdcState.sectorAt (state : FdcState) (position : FdcPosition) : FdcSector :=
  (state.moveTo position).sector

def FdcState.isFound (state : FdcState) (medium : FdcMedium) (position : FdcPosition) : Bool :=
  (fdcFindSector (state.moveTo position) medium).isNone

def FdcMachine.isRead (machine : FdcMachine) : Bool := fdcIsReadCommand machine.fdc.execOpcode

def FdcMachine.channel (machine : FdcMachine) : DmaChannel := machine.dma.channels fdcDmaChannel

/-- The 8237 acknowledges the requests of the chip. -/
def FdcMachine.answers (machine : FdcMachine) : Bool :=
  fdcDmaConnected machine.fdc && vddDmaGrants machine.dma fdcDmaChannel

def FdcMachine.terminalCount (machine : FdcMachine) : Nat := machine.channel.currentCount.toNat + 1

def FdcMachine.sectorsFound (machine : FdcMachine) : List FdcPosition :=
  (commandSectors machine.fdc).takeWhile (machine.fdc.isFound machine.medium)

def FdcMachine.sectorsMoved (machine : FdcMachine) : List FdcPosition :=
  if machine.answers then
    machine.sectorsFound.take ((machine.terminalCount + (fdcSectorSize - 1)) / fdcSectorSize)
  else []

def FdcMachine.EndsAtTerminalCount (machine : FdcMachine) : Prop :=
  machine.answers = true ∧
    machine.terminalCount ≤ fdcSectorSize * machine.sectorsFound.length

def FdcMachine.streamLength (machine : FdcMachine) : Nat :=
  machine.channel.unitsWithin (fdcSectorSize * machine.sectorsMoved.length)

/-- Byte `k` of what the 8237 supplies. -/
def FdcMachine.supplied (machine : FdcMachine) (k : Nat) : UInt8 :=
  streamByte fdcDmaChannel machine.memory.bytes machine.dma k

def FdcMachine.sectorData (machine : FdcMachine) : List UInt8 :=
  machine.sectorsMoved.flatMap fun position =>
    List.ofFn (machine.medium.contents (machine.fdc.sectorAt position))

def FdcMachine.endPosition (machine : FdcMachine) : FdcPosition :=
  match machine.sectorsMoved.getLast? with
  | none => machine.fdc.position
  | some position => followingPosition machine.fdc position

def FdcMachine.IsMediumReady (machine : FdcMachine) : Prop :=
  machine.isRead = false → machine.medium.isWritable = true

/-! ## One round -/

/-- The registers once the sector under the head has been counted. -/
def FdcMachine.counted (machine : FdcMachine) : FdcState :=
  if machine.isRead then { machine.fdc with sectorsRead := machine.fdc.sectorsRead + 1 }
  else { machine.fdc with sectorsWritten := machine.fdc.sectorsWritten + 1 }

/-- The bytes the 8237 moves for the sector under the head. -/
def FdcMachine.sectorUnits (machine : FdcMachine) : Nat := machine.channel.unitsWithin fdcSectorSize

/-- The sector a write puts under the head. -/
def FdcMachine.sectorWritten (machine : FdcMachine) (stack : SectorBytes) : SectorBytes :=
  fun i => if i.val < machine.sectorUnits then machine.supplied i.val else stack i

def FdcMachine.afterSector (machine : FdcMachine) (stack : SectorBytes) : FdcMachine where
  fdc := (fdcAdvance machine.counted).1
  dma := dmaWalk fdcDmaChannel machine.sectorUnits machine.dma
  memory :=
    if machine.isRead then
      deliver fdcDmaChannel
        ((List.ofFn (machine.medium.contents machine.fdc.sector)).take machine.sectorUnits)
        machine.dma machine.memory
    else (vddDmaRead machine.dma machine.memory fdcDmaChannel fdcSectorSize).memory
  medium :=
    if machine.isRead then machine.medium
    else
      { machine.medium with
        contents := Function.update machine.medium.contents machine.fdc.sector
          (machine.sectorWritten stack) }

theorem isByteChannel_fdc : IsByteChannel fdcDmaChannel := by decide

variable {machine : FdcMachine} (stack : SectorBytes)

theorem unitsMoved_of_answers (h : machine.answers = true) :
    unitsMoved machine.dma fdcDmaChannel fdcSectorSize = machine.sectorUnits := by
  have hgrants : vddDmaGrants machine.dma fdcDmaChannel = true := (and_eq_true_iff.mp h).2
  unfold unitsMoved
  rw [if_pos hgrants, unitBytes_of_byteChannel isByteChannel_fdc]
  rfl

theorem sectorUnits_le (machine : FdcMachine) : machine.sectorUnits ≤ fdcSectorSize := by
  unfold sectorUnits unitsWithin
  split
  · exact le_rfl
  · exact min_le_left _ _

theorem sectorUnits_of_not_terminal (h : fdcSectorSize < machine.terminalCount) :
    machine.sectorUnits = fdcSectorSize := by
  unfold sectorUnits unitsWithin
  split
  · rfl
  · unfold terminalCount at h
    omega

theorem terminal_in_sector : machine.channel.currentCount.toNat < machine.sectorUnits ↔
      machine.terminalCount ≤ fdcSectorSize := by
  unfold sectorUnits unitsWithin terminalCount
  split <;> lia

theorem sectorUnits_lt (h : machine.sectorUnits < fdcSectorSize) :
    machine.terminalCount ≤ fdcSectorSize := by
  by_contra hlt
  have hfull := sectorUnits_of_not_terminal (Nat.lt_of_not_le hlt)
  omega

theorem map_range_bufferByte (buffer : SectorBytes) {units : Nat} (h : units ≤ 512) :
    (range units).map (bufferByte buffer) = (ofFn buffer).take units := by
  have hlength : ((ofFn buffer).take units).length = units := by
    rw [length_take, length_ofFn, Nat.min_eq_left h]
  refine ext_getElem ?_ fun i hi _ => ?_
  · rw [length_map, length_range, hlength]
  have hlt : i < units := by
    rw [length_map, length_range] at hi
    exact hi
  rw [getElem_map, getElem_range, getElem_take, List.getElem_ofFn]
  exact dif_pos (by omega)

theorem fillBuffer_supply (machine : FdcMachine) (stack : SectorBytes) :
    fillBuffer stack (supply fdcDmaChannel machine.memory.bytes machine.sectorUnits machine.dma) =
      machine.sectorWritten stack := by
  funext i
  unfold fillBuffer sectorWritten
  rw [getD_eq_getElem?_getD]
  split
  · rename_i hlt
    rw [supply_getElem? _ _ hlt]
    rfl
  · rename_i hge
    rw [getElem?_eq_none (by rw [length_supply]; omega)]
    rfl

theorem fdcReadSector_of_answers (hread : machine.isRead = true) (h : machine.answers = true) :
    ∃ isTerminalCount,
      fdcReadSector machine = .inr
        ({ machine.afterSector stack with fdc := machine.counted }, isTerminalCount) ∧
      (isTerminalCount = true ↔ machine.terminalCount ≤ fdcSectorSize) := by
  obtain ⟨htransferred, hstate, hmemory, hterminal⟩ :=
    vddDmaWrite_spec isByteChannel_fdc machine.dma machine.memory
      (bufferByte (fdcSectorRead machine.fdc machine.medium)) fdcSectorSize
  rw [unitsMoved_of_answers h] at htransferred hstate hmemory hterminal
  rw [map_range_bufferByte _ (sectorUnits_le machine)] at hmemory
  refine ⟨_, ?_, hterminal.trans terminal_in_sector⟩
  unfold fdcReadSector afterSector counted
  rw [if_pos hread, if_pos hread, if_pos hread, if_neg, hstate, hmemory]
  · rfl
  · rw [htransferred]
    rintro ⟨hshort, hnot⟩
    rw [(hterminal.trans terminal_in_sector).mpr (sectorUnits_lt hshort)] at hnot
    exact absurd hnot (by decide)

theorem fdcWriteSector_of_answers (hwrite : machine.isRead = false)
    (hwritable : machine.medium.isWritable = true) (h : machine.answers = true) : ∃ isTerminalCount,
      fdcWriteSector stack machine = .inr
        ({ machine.afterSector stack with fdc := machine.counted }, isTerminalCount) ∧
      (isTerminalCount = true ↔ machine.terminalCount ≤ fdcSectorSize) := by
  obtain ⟨htransferred, hstate, hdestination, -, hterminal⟩ :=
    vddDmaRead_spec isByteChannel_fdc machine.dma machine.memory fdcSectorSize
  rw [unitsMoved_of_answers h] at htransferred hstate hdestination hterminal
  have hnot : ¬ machine.isRead = true := by rw [hwrite]; decide
  refine ⟨_, ?_, hterminal.trans terminal_in_sector⟩
  unfold fdcWriteSector afterSector counted
  rw [if_neg, hdestination, fillBuffer_supply, if_neg hnot, if_neg hnot, if_neg hnot]
  · unfold fdcSectorWrite
    rw [if_pos hwritable, hstate]
  · rw [htransferred]
    rintro ⟨hshort, hnot⟩
    rw [(hterminal.trans terminal_in_sector).mpr (sectorUnits_lt hshort)] at hnot
    exact absurd hnot (by decide)

/-! ## The ways a round goes -/

theorem fdcRunDmaRound_of_unfound {status1 status2 : Nat}
    (h : fdcFindSector machine.fdc machine.medium = some (status1, status2)) :
    fdcRunDmaRound stack machine = .inl (machine.done fdcSt0Abnormal status1 status2) := by
  unfold fdcRunDmaRound
  rw [h]

theorem dmaTransfer_of_not_grants {state : DmaState} {n : Fin 8}
    (h : ¬ vddDmaGrants state n = true) (memory : LinearMemory) (source : Option (Nat → UInt8))
    (byteCount : Nat) : dmaTransfer state memory n source byteCount = transferStart state memory := by
  unfold dmaTransfer
  rw [if_neg h]
  rfl

theorem transferStart_short {state : DmaState} {memory : LinearMemory} :
    (transferStart state memory).transferred < fdcSectorSize ∧
      (transferStart state memory).isTerminalCount = false :=
  ⟨show 0 < 512 by omega, rfl⟩

theorem fdcReadSector_of_not_grants (h : ¬ vddDmaGrants machine.dma fdcDmaChannel = true) :
    fdcReadSector machine = .inl (machine.done fdcSt0Abnormal fdcSt1Overrun fdcSt2Clear) := by
  unfold fdcReadSector vddDmaWrite
  dsimp only
  rw [dmaTransfer_of_not_grants h]
  exact if_pos transferStart_short

theorem fdcWriteSector_of_not_grants (h : ¬ vddDmaGrants machine.dma fdcDmaChannel = true) :
    fdcWriteSector stack machine = .inl (machine.done fdcSt0Abnormal fdcSt1Overrun fdcSt2Clear) := by
  unfold fdcWriteSector vddDmaRead
  rw [dmaTransfer_of_not_grants h]
  exact if_pos transferStart_short

theorem fdcRunDmaRound_of_silent (hfound : fdcFindSector machine.fdc machine.medium = none)
    (h : machine.answers = false) : fdcRunDmaRound stack machine =
      .inl (machine.done fdcSt0Abnormal fdcSt1Overrun fdcSt2Clear) := by
  unfold fdcRunDmaRound
  rw [hfound]
  by_cases hconnected : fdcDmaConnected machine.fdc = false
  · rw [if_pos hconnected]
  rw [if_neg hconnected]
  have hgrants : ¬ vddDmaGrants machine.dma fdcDmaChannel = true := by
    intro hgrants
    unfold FdcMachine.answers at h
    rw [hgrants, Bool.and_true] at h
    exact hconnected h
  rw [fdcReadSector_of_not_grants hgrants, fdcWriteSector_of_not_grants stack hgrants, ite_self]

theorem fdcRunDmaRound_of_answers (hready : machine.IsMediumReady)
    (hfound : fdcFindSector machine.fdc machine.medium = none) (h : machine.answers = true) :
    fdcRunDmaRound stack machine =
      if machine.terminalCount ≤ fdcSectorSize then
        .inl ((machine.afterSector stack).done fdcSt0Normal 0 fdcSt2Clear)
      else if (fdcAdvance machine.counted).2 then
        .inl ((machine.afterSector stack).done fdcSt0Abnormal fdcSt1EndOfCylinder fdcSt2Clear)
      else .inr (machine.afterSector stack) := by
  have hconnected : ¬ fdcDmaConnected machine.fdc = false := by
    rw [(and_eq_true_iff.mp h).1]
    decide
  obtain ⟨isTerminalCount, hmoved, hterminal⟩ : ∃ isTerminalCount,
      (if fdcIsReadCommand machine.fdc.execOpcode then fdcReadSector machine
        else fdcWriteSector stack machine) =
          .inr ({ machine.afterSector stack with fdc := machine.counted }, isTerminalCount) ∧
        (isTerminalCount = true ↔ machine.terminalCount ≤ fdcSectorSize) := by
    by_cases hread : machine.isRead = true
    · obtain ⟨isTerminalCount, hmoved, hterminal⟩ := fdcReadSector_of_answers stack hread h
      exact ⟨isTerminalCount, (if_pos hread).trans hmoved, hterminal⟩
    · obtain ⟨isTerminalCount, hmoved, hterminal⟩ :=
        fdcWriteSector_of_answers stack (not_eq_true _ ▸ hread)
          (hready (not_eq_true _ ▸ hread)) h
      exact ⟨isTerminalCount, (if_neg hread).trans hmoved, hterminal⟩
  unfold fdcRunDmaRound
  rw [hfound]
  rw [if_neg hconnected, hmoved]
  dsimp only
  by_cases hends : machine.terminalCount ≤ fdcSectorSize
  · rw [if_pos hends, if_pos (hterminal.mpr hends)]
    rfl
  · rw [if_neg hends, if_neg (fun hflag => hends (hterminal.mp hflag))]
    rfl

theorem fdcRunDmaRound_inr {next : FdcMachine} {stack : SectorBytes}
    (hready : machine.IsMediumReady) (h : fdcRunDmaRound stack machine = .inr next) :
    next = machine.afterSector stack ∧ (fdcAdvance machine.counted).2 = false := by
  cases hfound : fdcFindSector machine.fdc machine.medium with
  | some statuses =>
    rw [fdcRunDmaRound_of_unfound stack hfound] at h
    exact absurd h (by simp)
  | none =>
    cases hanswers : machine.answers with
    | false =>
      rw [fdcRunDmaRound_of_silent stack hfound hanswers] at h
      exact absurd h (by simp)
    | true =>
      rw [fdcRunDmaRound_of_answers stack hready hfound hanswers] at h
      split at h
      · exact absurd h (by simp)
      split at h
      · exact absurd h (by simp)
      · rename_i hnext
        exact ⟨(Sum.inr.inj h).symm, not_eq_true _ ▸ hnext⟩

end Ntvdmex.Vdd.Fdc
