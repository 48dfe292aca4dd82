import Ntvdmex.Vdd.Proofs.Fdc.SectorData

/-!
# Data commands, run to their end

The transfer of a command from its rounds, its termination, and when the sector data is
exact: always for a read; for a write, when the last sector is supplied whole.
-/

namespace Ntvdmex.Vdd.Fdc

open Foundation FdcMachine List Option Nat Or
open Vdd.Dma

local instance neZero4 : NeZero 4 := ⟨by decide⟩
local instance neZero16 : NeZero 16 := ⟨by decide⟩

variable {status1 status2 k : Nat} {machine final : FdcMachine}

/-! ## A command that ends in its first round -/

theorem fdcFindSector_status1 {state : FdcState} {medium : FdcMedium}
    (h : fdcFindSector state medium = some (status1, status2)) : status1 ≠ 0 := by
  unfold fdcFindSector at h
  dsimp only at h
  split at h
  · cases h
    decide
  split at h
  · cases h
    decide
  split at h
  · cases h
    decide
  split at h
  · cases h
    decide
  · exact absurd h (by simp)

theorem not_endsAtTerminalCount_of_unfound (h : fdcFindSector machine.fdc machine.medium ≠ none)
    : ¬ machine.EndsAtTerminalCount := by
  rintro ⟨-, hle⟩
  rw [sectorsFound_of_unfound h] at hle
  exact absurd hle (not_succ_le_zero _)

theorem sectorsMoved_of_unfound (h : fdcFindSector machine.fdc machine.medium ≠ none)
    : machine.sectorsMoved = [] := by
  unfold sectorsMoved
  rw [sectorsFound_of_unfound h, take_nil, ite_self]

theorem sectorsMoved_of_silent (h : machine.answers = false) : machine.sectorsMoved = [] := by
  unfold sectorsMoved
  rw [h]
  rfl

theorem DataTransferred.of_nothing (byteAt : Nat → UInt8) (hmoved : machine.sectorsMoved = [])
    (hends : ¬ machine.EndsAtTerminalCount) (hstatus : status1 ≠ 0) :
    DataTransferred byteAt machine (machine.done fdcSt0Abnormal status1 status2) := by
  have hlength : machine.streamLength = 0 := by
    unfold streamLength
    rw [hmoved]
    unfold DmaChannel.unitsWithin
    split
    · rfl
    · exact Nat.zero_min _
  have hposition : machine.endPosition = machine.fdc.position := by
    unfold endPosition
    rw [hmoved]
    rfl
  exact
    { dma := by
        rw [hlength]
        rfl
      delivered := fun _ => by
        rw [hlength]
        rfl
      kept := fun _ => rfl
      untouched := fun _ => rfl
      stored := fun _ i position hposition => by
        rw [hmoved] at hposition
        exact absurd hposition (by simp)
      others := fun _ _ => rfl
      result := ⟨fdcSt0Abnormal, status1, status2, by rw [hposition]; rfl,
        fun h => absurd h hends, fun _ => ⟨rfl, hstatus⟩⟩ }

section Single

variable {machine : FdcMachine} (buffers : Nat → SectorBytes)
  (hmoved : machine.sectorsMoved = [machine.fdc.position])

include hmoved

theorem streamLength_single : machine.streamLength = machine.sectorUnits := by
  unfold streamLength
  rw [hmoved]
  rfl

theorem sectorData_single :
    machine.sectorData = ofFn (machine.medium.contents machine.fdc.sector) := by
  unfold sectorData
  rw [hmoved, flatMap_cons, flatMap_nil, append_nil]
  rfl

theorem storedByte_single (j : Fin 512) :
    machine.storedByte buffers j.val = machine.sectorWritten (buffers 0) j := by
  unfold storedByte sectorWritten
  rw [streamLength_single hmoved]
  have hdiv : j.val / fdcSectorSize = 0 := div_eq_of_lt j.isLt
  have hmod : j.val % fdcSectorSize = j.val := mod_eq_of_lt j.isLt
  rw [hdiv, hmod]
  have hbyte : bufferByte (buffers 0) j.val = buffers 0 j := dif_pos j.isLt
  rw [hbyte]

theorem DataTransferred.of_single {interruptCode : Nat}
    (hends : machine.EndsAtTerminalCount → interruptCode = fdcSt0Normal ∧ status1 = 0)
    (hnot : ¬ machine.EndsAtTerminalCount → interruptCode = fdcSt0Abnormal ∧ status1 ≠ 0) :
    DataTransferred (machine.storedByte buffers) machine
      ((machine.afterSector (buffers 0)).done interruptCode status1 fdcSt2Clear) where
  dma := by
    rw [streamLength_single hmoved]
    rfl
  delivered hread := by
    rw [streamLength_single hmoved, sectorData_single hmoved]
    exact if_pos hread
  kept hread := afterSector_kept (buffers 0) hread
  untouched hwrite := afterSector_bytes (buffers 0) hwrite
  stored hwrite i position hposition j := by
    rw [hmoved] at hposition
    cases i with
    | zero =>
      obtain rfl : machine.fdc.position = position := some.inj hposition
      rw [Nat.mul_zero, Nat.zero_add, storedByte_single buffers hmoved]
      exact congrFun (afterSector_contents (buffers 0) hwrite) j
    | succ i => exact absurd hposition (by simp)
  others sector hother := by
    refine afterSector_contents_other (buffers 0) (hother machine.fdc.position ?_)
    rw [hmoved]
    exact mem_singleton_self _
  result := by
    refine ⟨interruptCode, status1, fdcSt2Clear, ?_,
      fun h => ⟨(hends h).1, (hends h).2, rfl⟩, hnot⟩
    have hposition : machine.endPosition = (machine.afterSector (buffers 0)).fdc.position := by
      rw [afterSector_position]
      unfold endPosition
      rw [hmoved]
      rfl
    obtain ⟨hdrive, hsize⟩ := afterSector_address machine (buffers 0)
    rw [hposition, ← hdrive, ← hsize]
    rfl

end Single

theorem DataTransferred.of_next (buffers : Nat → SectorBytes)
    (hfound : fdcFindSector machine.fdc machine.medium = none) (hanswers : machine.answers = true)
    (hterminal : fdcSectorSize < machine.terminalCount)
    (hnext : (fdcAdvance machine.counted).2 = false)
    (h : DataTransferred ((machine.afterSector (buffers 0)).storedByte fun round => buffers (round
      + 1)) (machine.afterSector (buffers 0)) final) :
    DataTransferred (machine.storedByte buffers) machine final := by
  have hmoved := sectorsMoved_next (buffers 0) hfound hanswers hterminal hnext
  have hlength := streamLength_next (buffers 0) hfound hanswers hterminal hnext
  have hisRead := afterSector_isRead machine (buffers 0)
  have hsectorAt := afterSector_sectorAt machine (buffers 0)
  have hunits := sectorUnits_of_not_terminal hterminal
  exact
    { dma := by
        rw [h.dma, hlength, dmaWalk_add, afterSector_dma (buffers 0) hterminal]
      delivered := fun hread => by
        rw [h.delivered (hisRead.trans hread), afterSector_dma (buffers 0) hterminal, hlength]
        have hdata : machine.sectorData =
            ofFn (machine.medium.contents machine.fdc.sector) ++
              (machine.afterSector (buffers 0)).sectorData := by
          unfold sectorData
          rw [hmoved, flatMap_cons, hsectorAt, afterSector_kept (buffers 0) hread]
          rfl
        have hfull : (ofFn (machine.medium.contents machine.fdc.sector)).length =
            fdcSectorSize := length_ofFn
        have hmemory : (machine.afterSector (buffers 0)).memory =
            deliver fdcDmaChannel (ofFn (machine.medium.contents machine.fdc.sector))
              machine.dma machine.memory := by
          unfold afterSector
          rw [if_pos hread, hunits, ← hfull, take_length]
        rw [hdata, ← hfull, take_length_add_append, deliver_append, ← hmemory]
      kept := fun hread => by
        rw [h.kept (hisRead.trans hread), afterSector_kept (buffers 0) hread]
      untouched := fun hwrite => by
        rw [h.untouched (hisRead.trans hwrite), afterSector_bytes (buffers 0) hwrite]
      stored := fun hwrite i position hposition j => by
        rw [hmoved] at hposition
        cases i with
        | zero =>
          obtain rfl : machine.fdc.position = position := some.inj hposition
          have hkept : final.medium.contents machine.fdc.sector =
              (machine.afterSector (buffers 0)).medium.contents machine.fdc.sector := by
            refine h.others _ fun position hmem => ?_
            rw [hsectorAt]
            exact sectorAt_ne_sector (buffers 0) hnext hmem
          have hbyte : machine.storedByte buffers j.val = machine.supplied j.val := by
            have hlt : j.val < fdcSectorSize := j.isLt
            unfold storedByte
            rw [hlength, if_pos (by lia)]
          have hwritten : machine.sectorWritten (buffers 0) j = machine.supplied j.val := by
            unfold sectorWritten
            rw [hunits]
            exact if_pos j.isLt
          rw [Nat.mul_zero, Nat.zero_add, hbyte, ← hwritten]
          exact congrFun (hkept.trans (afterSector_contents (buffers 0) hwrite)) j
        | succ i =>
          have hrest := h.stored (hisRead.trans hwrite) i position
            (by rw [getElem?_cons_succ] at hposition; exact hposition) j
          rw [hsectorAt] at hrest
          rw [hrest, ← storedByte_next (buffers 0) hfound hanswers hterminal hnext buffers hwrite,
            mul_succ]
          exact congrArg _ (by lia)
      others := fun sector hother => by
        rw [hmoved] at hother
        rw [h.others sector fun position hmem => ?_]
        · exact afterSector_contents_other (buffers 0)
            (hother machine.fdc.position mem_cons_self)
        · rw [hsectorAt]
          exact hother position (mem_cons_of_mem _ hmem)
      result := by
        obtain ⟨interruptCode, status1, status2, hresult, hends, hnot⟩ := h.result
        have hiff := endsAtTerminalCount_next (buffers 0) hfound hterminal hnext
        obtain ⟨hdrive, hsize⟩ := afterSector_address machine (buffers 0)
        rw [hdrive, hsize, ← endPosition_next (buffers 0) hfound hanswers hterminal hnext] at hresult
        exact ⟨interruptCode, status1, status2, hresult, fun h => hends (hiff.mp h),
          fun h => hnot fun h' => h (hiff.mpr h')⟩ }

section

variable {machine : FdcMachine} (hfound : fdcFindSector machine.fdc machine.medium = none)
    (hanswers : machine.answers = true)

include hfound hanswers

theorem sectorsMoved_single
    (h : machine.terminalCount ≤ fdcSectorSize ∨ (fdcAdvance machine.counted).2 = true) :
    machine.sectorsMoved = [machine.fdc.position] := by
  unfold sectorsMoved
  rw [if_pos hanswers]
  have hpos : 1 ≤ (machine.terminalCount + (fdcSectorSize - 1)) / fdcSectorSize := by
    unfold terminalCount fdcSectorSize
    lia
  cases hnext : (fdcAdvance machine.counted).2 with
  | true =>
    rw [sectorsFound_last hfound hnext]
    exact take_of_length_le hpos
  | false =>
    have hone : (machine.terminalCount + (fdcSectorSize - 1)) / fdcSectorSize = 1 := by
      rw [hnext] at h
      have hle := h.resolve_right (by decide)
      unfold fdcSectorSize at hle hpos ⊢
      lia
    rw [hone, sectorsFound_next (machine.fdc.execBuffer) hfound hnext, take_succ_cons,
      take_zero]

theorem endsAtTerminalCount_of_le (h : machine.terminalCount ≤ fdcSectorSize) :
    machine.EndsAtTerminalCount := by
  have hmoved := sectorsMoved_single hfound hanswers (inl h)
  refine ⟨hanswers, h.trans ?_⟩
  have hlength : 1 ≤ machine.sectorsFound.length := by
    have htake := congrArg List.length hmoved
    unfold sectorsMoved at htake
    rw [if_pos hanswers, length_take, length_singleton] at htake
    omega
  exact Nat.le_mul_of_pos_right _ hlength

end

theorem fdcRunDma_transferred {rounds : Nat} (buffers : Nat → SectorBytes)
    (hready : machine.IsMediumReady) (h : fdcRunDma buffers rounds machine = some final) :
    DataTransferred (machine.storedByte buffers) machine final := by
  induction rounds generalizing machine buffers with
  | zero => exact absurd h (by simp [fdcRunDma])
  | succ rounds ih =>
    unfold fdcRunDma at h
    cases hfound : fdcFindSector machine.fdc machine.medium with
    | some statuses =>
      have hunfound : fdcFindSector machine.fdc machine.medium ≠ none := by rw [hfound]; simp
      rw [fdcRunDmaRound_of_unfound (buffers 0) hfound] at h
      obtain rfl := some.inj h
      exact .of_nothing _ (sectorsMoved_of_unfound hunfound)
        (not_endsAtTerminalCount_of_unfound hunfound) (fdcFindSector_status1 hfound)
    | none =>
      cases hanswers : machine.answers with
      | false =>
        rw [fdcRunDmaRound_of_silent (buffers 0) hfound hanswers] at h
        obtain rfl := some.inj h
        refine .of_nothing _ (sectorsMoved_of_silent hanswers) (fun hends => ?_) (by decide)
        rw [hends.1] at hanswers
        exact absurd hanswers (by decide)
      | true =>
        rw [fdcRunDmaRound_of_answers (buffers 0) hready hfound hanswers] at h
        by_cases hle : machine.terminalCount ≤ fdcSectorSize
        · rw [if_pos hle] at h
          obtain rfl := some.inj h
          exact .of_single buffers (sectorsMoved_single hfound hanswers (inl hle))
            (fun _ => ⟨rfl, rfl⟩)
            (fun hnot => absurd (endsAtTerminalCount_of_le hfound hanswers hle) hnot)
        rw [if_neg hle] at h
        by_cases hend : (fdcAdvance machine.counted).2 = true
        · rw [if_pos hend] at h
          obtain rfl := some.inj h
          refine .of_single buffers (sectorsMoved_single hfound hanswers (inr hend))
            (fun hends => ?_) (fun _ => ⟨rfl, by decide⟩)
          have hlength := hends.2
          rw [sectorsFound_last hfound hend, length_singleton, Nat.mul_one] at hlength
          exact absurd hlength hle
        · rw [if_neg hend] at h
          have hnext : (fdcAdvance machine.counted).2 = false := Bool.not_eq_true _ ▸ hend
          refine .of_next buffers hfound hanswers (Nat.lt_of_not_le hle) hnext ?_
          exact ih _ (afterSector_isMediumReady (buffers 0) hready) h

theorem fdcRunDma_returns (machine : FdcMachine) (buffers : Nat → SectorBytes)
    (hready : machine.IsMediumReady) :
    ∃ final, Returns (fun rounds => fdcRunDma buffers rounds machine) final := by
  suffices hlength : ∀ length, (commandSectors machine.fdc).length = length →
      ∃ final, ∀ rounds, length ≤ rounds → fdcRunDma buffers rounds machine = some final by
    obtain ⟨final, hfinal⟩ := hlength _ rfl
    exact ⟨final, _, hfinal⟩
  intro length
  induction length generalizing machine buffers with
  | zero =>
    intro hlength
    obtain ⟨rest, hrest⟩ := commandSectors_cons machine.fdc
    rw [hrest, length_cons] at hlength
    exact absurd hlength (succ_ne_zero _)
  | succ length ih =>
    intro hlength
    cases hround : fdcRunDmaRound (buffers 0) machine with
    | inl ended =>
      refine ⟨ended, fun rounds hrounds => ?_⟩
      obtain ⟨rounds, rfl⟩ : ∃ fewer, rounds = fewer + 1 := ⟨rounds - 1, by lia⟩
      unfold fdcRunDma
      rw [hround]
    | inr next =>
      obtain ⟨rfl, hnext⟩ : next = machine.afterSector (buffers 0) ∧
          (fdcAdvance machine.counted).2 = false := fdcRunDmaRound_inr hready hround
      have hrest : (commandSectors (machine.afterSector (buffers 0)).fdc).length = length := by
        rw [← counted_sectors, commandSectors_advance hnext, length_cons] at hlength
        exact succ.inj hlength
      obtain ⟨final, hfinal⟩ := ih (machine.afterSector (buffers 0)) (fun round => buffers (round + 1))
        (afterSector_isMediumReady (buffers 0) hready) hrest
      refine ⟨final, fun rounds hrounds => ?_⟩
      obtain ⟨rounds, rfl⟩ : ∃ fewer, rounds = fewer + 1 := ⟨rounds - 1, by lia⟩
      unfold fdcRunDma
      rw [hround]
      exact hfinal rounds (by lia)

/-! ## When the data is exact -/

theorem getElem?_div_sectors (h : k < fdcSectorSize * machine.sectorsMoved.length) :
    ∃ position, machine.sectorsMoved[k / fdcSectorSize]? = some position :=
  ⟨_, getElem?_eq_getElem (Nat.div_lt_of_lt_mul h)⟩

section

variable {byteAt byteAt' : Nat → UInt8} {machine final : FdcMachine}
    (h : DataTransferred byteAt machine final)

include h

theorem DataTransferred.byteAt_unique (h' : DataTransferred byteAt' machine final)
    (hwrite : machine.isRead = false) (hk : k < fdcSectorSize * machine.sectorsMoved.length)
    : byteAt k = byteAt' k := by
  obtain ⟨position, hposition⟩ := getElem?_div_sectors hk
  have hlt : k % fdcSectorSize < 512 := mod_lt _ (by decide)
  have hleft := h.stored hwrite _ _ hposition ⟨k % fdcSectorSize, hlt⟩
  have hright := h'.stored hwrite _ _ hposition ⟨k % fdcSectorSize, hlt⟩
  rw [div_add_mod] at hleft hright
  exact hleft.symm.trans hright

theorem DataTransferred.congr (heq : machine.isRead = false →
      ∀ k < fdcSectorSize * machine.sectorsMoved.length, byteAt k = byteAt' k) :
    DataTransferred byteAt' machine final :=
  { h with
    stored := fun hwrite i position hposition j => by
      rw [h.stored hwrite i position hposition j]
      refine heq hwrite _ ?_
      obtain ⟨hi, -⟩ := List.getElem?_eq_some_iff.mp hposition
      have hj : j.val < fdcSectorSize := j.isLt
      calc fdcSectorSize * i + j.val < fdcSectorSize * (i + 1) := by rw [mul_succ]; omega
        _ ≤ fdcSectorSize * machine.sectorsMoved.length := Nat.mul_le_mul_left _ hi }

end

/-- The last sector the command writes is supplied whole: terminal count is not reached, or
falls on the end of a sector, or the reloaded channel goes on with zeros. -/
def FdcMachine.FillsLastSector (machine : FdcMachine) : Prop :=
  ¬ machine.EndsAtTerminalCount ∨ fdcSectorSize ∣ machine.terminalCount ∨
    machine.channel.hasMode dmaModeAutoinit = true ∧
      ∀ k, machine.terminalCount ≤ k → k < fdcSectorSize * machine.sectorsMoved.length →
        machine.supplied k = 0

theorem sectorsMoved_length (h : machine.answers = true) :
    machine.sectorsMoved.length =
      min ((machine.terminalCount + (fdcSectorSize - 1)) / fdcSectorSize)
        machine.sectorsFound.length := by
  unfold sectorsMoved
  rw [if_pos h, length_take]

theorem fillsLastSector_iff (machine : FdcMachine) :
    machine.FillsLastSector ↔
      ∀ k, machine.terminalCount ≤ k → k < fdcSectorSize * machine.sectorsMoved.length →
        machine.channel.hasMode dmaModeAutoinit = true ∧ machine.supplied k = 0 := by
  by_cases hanswers : machine.answers = true
  swap
  · have hmoved := sectorsMoved_of_silent (Bool.not_eq_true _ ▸ hanswers)
    refine iff_of_true (inl fun hends => hanswers hends.1) fun k _ hk => ?_
    rw [hmoved, length_nil, Nat.mul_zero] at hk
    exact absurd hk (Nat.not_lt_zero _)
  have hlength := sectorsMoved_length hanswers
  unfold fdcSectorSize at hlength
  constructor
  · rintro (hnot | ⟨sectors, hsectors⟩ | ⟨hauto, hzero⟩) k hle hk
    · refine absurd ⟨hanswers, ?_⟩ hnot
      unfold fdcSectorSize at hk ⊢
      lia
    · unfold fdcSectorSize at hk hsectors
      lia
    · exact ⟨hauto, hzero k hle hk⟩
  · intro hall
    by_cases hends : machine.EndsAtTerminalCount
    swap
    · exact inl hends
    by_cases hwhole : fdcSectorSize ∣ machine.terminalCount
    · exact inr (inl hwhole)
    have hbeyond : machine.terminalCount < fdcSectorSize * machine.sectorsMoved.length := by
      have hfound := hends.2
      unfold fdcSectorSize at hfound hwhole ⊢
      lia
    exact inr (inr ⟨(hall _ le_rfl hbeyond).1, fun k hle hk => (hall k hle hk).2⟩)

theorem exactByte_eq_storedByte (h : machine.FillsLastSector) (buffers : Nat → SectorBytes)
    (hk : k < fdcSectorSize * machine.sectorsMoved.length) :
    machine.storedByte buffers k = machine.exactByte k := by
  unfold storedByte exactByte streamLength
    DmaChannel.unitsWithin
  by_cases hlt : k < machine.terminalCount
  · rw [if_pos hlt, if_pos]
    split
    · exact hk
    · exact lt_min hk hlt
  · obtain ⟨hauto, hzero⟩ := (fillsLastSector_iff machine).mp h k (Nat.le_of_not_lt hlt) hk
    rw [if_neg hlt, if_pos hauto, if_pos hk, hzero]

theorem fillsLastSector_of_storedByte
    (h : ∀ buffers : Nat → SectorBytes, ∀ k < fdcSectorSize * machine.sectorsMoved.length,
      machine.storedByte buffers k = machine.exactByte k)
    : machine.FillsLastSector := by
  rw [fillsLastSector_iff]
  intro k hle hk
  have hexact : machine.exactByte k = 0 := if_neg (Nat.not_lt_of_le hle)
  have hstored := (h (fun _ _ => 1) k hk).trans hexact
  unfold storedByte at hstored
  by_cases hauto : machine.channel.hasMode dmaModeAutoinit = true
  · refine ⟨hauto, ?_⟩
    rw [if_pos] at hstored
    · exact hstored
    · unfold streamLength DmaChannel.unitsWithin
      rw [if_pos hauto]
      exact hk
  · rw [if_neg] at hstored
    · have hbyte : bufferByte (fun _ => 1) (k % fdcSectorSize) = 1 :=
        dif_pos (mod_lt _ (by decide))
      rw [hbyte] at hstored
      exact absurd hstored (by decide)
    · unfold streamLength DmaChannel.unitsWithin
      rw [if_neg hauto]
      exact fun hlt => absurd (hlt.trans_le (min_le_right _ _)) (Nat.not_lt_of_le hle)

/-! ## The command -/

def FdcMachine.opcode (machine : FdcMachine) : Nat := (machine.fdc.command 0).toNat % 32

def FdcMachine.IsDmaTransfer (machine : FdcMachine) : Prop :=
  machine.fdc.isNonDma = false ∧
    (machine.opcode = fdcCmdReadData ∨ machine.opcode = fdcCmdWriteData ∨
      machine.opcode = fdcCmdReadTrack)

def FdcMachine.started (machine : FdcMachine) : FdcMachine :=
  { machine with
    fdc := fdcDataRegisters
      { machine.fdc with
        execDrive := ⟨(machine.fdc.command 1).toNat % 4, Nat.mod_lt _ (by decide)⟩
        execHead := (machine.fdc.command 1).toNat / 4 % 2 }
      machine.opcode }

theorem fdcExecuteData_eq (buffers : Nat → SectorBytes) (rounds : Nat) (h : machine.IsDmaTransfer) :
    fdcExecuteData buffers rounds machine = fdcRunDma buffers rounds machine.started := by
  have hdeleted : ¬ machine.opcode = fdcCmdReadDeletedData := by
    rcases h.2 with hop | hop | hop <;> rw [hop] <;> decide
  have hmode : ¬ machine.fdc.isNonDma = true := by
    rw [h.1]
    decide
  unfold fdcExecuteData fdcDataCommand
  exact (if_neg hdeleted).trans (if_neg hmode)

/-- Whatever the sector buffer holds, the command ends and its data is exact. -/
def IsExact (machine : FdcMachine) : Prop :=
  ∀ buffers, ∃ final, Returns (fun rounds => fdcExecuteData buffers rounds machine) final ∧
    DataExact machine.started final

theorem data_command_exact_iff (machine : FdcMachine) (hcommand : machine.IsDmaTransfer)
    (hready : machine.started.IsMediumReady) :
    IsExact machine ↔ machine.started.isRead = true ∨ machine.started.FillsLastSector := by
  have hexecute : ∀ buffers, (fun rounds => fdcExecuteData buffers rounds machine) =
      fun rounds => fdcRunDma buffers rounds machine.started :=
    fun buffers => funext fun rounds => fdcExecuteData_eq buffers rounds hcommand
  have htransferred : ∀ {buffers final},
      Returns (fun rounds => fdcRunDma buffers rounds machine.started) final →
        DataTransferred (machine.started.storedByte buffers) machine.started final :=
    fun {buffers _} ⟨_, hfinal⟩ => fdcRunDma_transferred buffers hready (hfinal _ le_rfl)
  constructor
  · intro hexact
    cases hread : machine.started.isRead with
    | true => exact Or.inl rfl
    | false =>
      refine Or.inr (fillsLastSector_of_storedByte fun buffers k hk => ?_)
      obtain ⟨final, hreturns, hdata⟩ := hexact buffers
      rw [hexecute] at hreturns
      exact (htransferred hreturns).byteAt_unique hdata hread hk
  · intro hwhen buffers
    obtain ⟨final, hreturns⟩ := fdcRunDma_returns machine.started buffers hready
    refine ⟨final, by rw [hexecute]; exact hreturns, ?_⟩
    refine (htransferred hreturns).congr fun hwrite k hk => ?_
    rcases hwhen with hread | hfills
    · exact absurd (hwrite.symm.trans hread) (by decide)
    · exact exactByte_eq_storedByte hfills buffers hk

/-- WRITE DATA: drive 0, C 0, H 0, R 1, N 2, EOT 18. -/
def writeParameters (i : Fin 16) : UInt8 :=
  [0x45, 0x00, 0x00, 0x00, 0x01, 0x02, 0x12, 0x1B, 0xFF].getD i.val 0

/-- WRITE DATA of side 0, cylinder 0 of a 1.44 MB medium, channel 2 programmed for `count + 1`
bytes from address 0. -/
def writeOf (count : UInt16) : FdcMachine where
  fdc :=
    { isDmaGateOpen := true, isDmaPresent := true, isNonDma := false, phase := .command
      command := writeParameters
      commandLength := 9, result := [], resultPosition := 0, presentCylinder := fun _ => 0
      isIrqPending := false, pendingSt0 := 0, lastEot := 0, execOpcode := 0, execDrive := 0
      execHead := 0, execCylinder := 0, execHeadAddress := 0, execSector := 0, execSizeCode := 0
      execEot := 0, execIsMultiTrack := false, execPosition := 0, execLength := 0
      execBuffer := fun _ => 0, irqs := 0, irqsOnBus := 0, sectorsRead := 0, sectorsWritten := 0 }
  dma :=
    { channels := fun _ =>
        { baseAddress := 0, currentAddress := 0, baseCount := count, currentCount := count
          page := 0, mode := 0x48, isMasked := false, isTerminalCount := false }
      flipFlop := fun _ => false, sparePage := fun _ => 0, command := fun _ => 0
      request := fun _ => 0, temporary := fun _ => 0 }
  memory := { bytes := fun _ => 0xE5, touched := [] }
  medium :=
    { geometry := fun _ => some { cylinders := 80, heads := 2, sectorsPerTrack := 18 }
      contents := fun _ _ => 0, isWritable := true }

theorem writeOf_isDmaTransfer (count : UInt16) : (writeOf count).IsDmaTransfer :=
  ⟨rfl, inr (inl (show (writeParameters 0).toNat % 32 = 5 by decide))⟩

theorem writeOf_sector_exact : IsExact (writeOf 511) :=
  (data_command_exact_iff (writeOf 511) (writeOf_isDmaTransfer 511) fun _ => rfl).mpr
    (Or.inr (Or.inr (Or.inl ⟨1, rfl⟩)))

theorem writeOf_byte_not_exact : ¬ IsExact (writeOf 0) := by
  intro hexact
  obtain ⟨final, ⟨least, hfinal⟩, hdata⟩ := hexact fun _ _ => 1
  have hrun := hfinal least le_rfl
  dsimp only at hrun
  rw [fdcExecuteData_eq _ _ (writeOf_isDmaTransfer 0)] at hrun
  have htransferred := fdcRunDma_transferred _ (fun _ => rfl) hrun
  have hbyte := htransferred.byteAt_unique (k := 1) hdata rfl (by decide)
  exact absurd hbyte (by decide)

end Ntvdmex.Vdd.Fdc
