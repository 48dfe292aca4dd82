import Ntvdmex.Vdd.Proofs.Pic.Nesting

/-!
# Polls (`PicPollRead`) and automatic acknowledges (`VddPicAcknowledgeAutoEoi`)

A poll looks at the highest-priority unmasked request alone.  Whatever keeps that line closed
outranks every request below it, so no line that a delivery would take is lost.
-/

namespace Ntvdmex.Vdd.Pic

open Foundation BitVec List PicChip

/-! ## The resolver in any rotation -/

variable {chip : PicChip} {isMaster : Bool} {line other : Nat}

/-- The in-service lines that count. -/
def PicChip.effectiveIsr (chip : PicChip) : BitVec 8 :=
  if chip.isSpecialMaskMode then chip.isr &&& ~~~ chip.imr else chip.isr

/-- A line in service that keeps another closed. -/
structure Blocks (chip : PicChip) (isMaster : Bool) (line other : Nat) : Prop where
  inService : chip.effectiveIsr.getLsbD other = true
  notNested : ¬(isMaster = true ∧ chip.isSpecialFullyNested = true ∧ line = picCascadeLine ∧
    other = picCascadeLine)
  outranks : picRank chip other ≤ picRank chip line

instance : Decidable (Blocks chip isMaster line other) :=
  decidable_of_iff (chip.effectiveIsr.getLsbD other = true ∧
      ¬(isMaster = true ∧ chip.isSpecialFullyNested = true ∧ line = picCascadeLine ∧
        other = picCascadeLine) ∧
      picRank chip other ≤ picRank chip line)
    ⟨fun h => ⟨h.1, h.2.1, h.2.2⟩, fun h => ⟨h.inService, h.notNested, h.outranks⟩⟩

theorem picBlockers_eq_zero_iff :
    picBlockers chip line isMaster = 0 ↔ ∀ other < 8, ¬Blocks chip isMaster line other := by
  have hfold : picBlockers chip line isMaster =
      (range 8).foldl (fun blockers other =>
        if Blocks chip isMaster line other then blockers ||| lineBit other else blockers) 0 := by
    unfold picBlockers
    refine congrArg (fun step => List.foldl step (0 : BitVec 8) (range 8)) ?_
    funext blockers other
    have heffective : (if chip.isSpecialMaskMode = true then chip.isr &&& ~~~chip.imr
        else chip.isr) = chip.effectiveIsr := rfl
    rw [heffective]
    by_cases hservice : chip.effectiveIsr.getLsbD other = true
    · rw [if_neg (by rw [hservice]; decide)]
      by_cases hnested : isMaster = true ∧ chip.isSpecialFullyNested = true ∧
          line = picCascadeLine ∧ other = picCascadeLine
      · rw [if_pos hnested, if_neg fun h : Blocks chip isMaster line other => h.notNested hnested]
      · rw [if_neg hnested]
        by_cases hrank : picRank chip other ≤ picRank chip line
        · rw [if_pos hrank, if_pos ⟨hservice, hnested, hrank⟩]
        · rw [if_neg hrank, if_neg fun h : Blocks chip isMaster line other => hrank h.outranks]
    · rw [if_pos (Bool.eq_false_iff.mpr hservice),
        if_neg fun h : Blocks chip isMaster line other => hservice h.inService]
  rw [hfold, foldl_blockers_zero (fun other hother => mem_range.mp hother)]
  simp only [mem_range, true_and]

theorem picIsLineOpen_iff :
    picIsLineOpen chip line isMaster = true ↔
      chip.imr.getLsbD line = false ∧ ∀ other < 8, ¬Blocks chip isMaster line other := by
  unfold picIsLineOpen
  rw [← picBlockers_eq_zero_iff]
  by_cases hmasked : chip.imr.getLsbD line = true
  · simp [hmasked]
  · simp [hmasked]

theorem picTopLine_eq (mask : BitVec 8) :
    picTopLine chip mask =
      (ringLines picLinesPerChip chip.lowestPriority).find? fun line => mask.getLsbD line :=
  rfl

/-- What closes a line closes every line below it. -/
theorem Blocks.of_lower {lower : Nat} (h : Blocks chip isMaster line other)
    (hrank : picRank chip line < picRank chip lower) : Blocks chip isMaster lower other where
  inService := h.inService
  notNested := by
    rintro ⟨-, -, hcascade, hcascade'⟩
    have houtranks := h.outranks
    rw [hcascade', ← hcascade] at houtranks
    omega
  outranks := le_trans h.outranks (le_of_lt hrank)

/-- A line that is requested and open. -/
structure Takeable (chip : PicChip) (isMaster : Bool) (line : Nat) : Prop where
  isLine : line < picLinesPerChip
  requested : chip.irr.getLsbD line = true
  isOpen : picIsLineOpen chip line isMaster = true

theorem picPollLine_eq_some (h : picPollLine chip isMaster = some line) :
    Takeable chip isMaster line ∧
      ∀ other, Takeable chip isMaster other → other ≠ line →
        picRank chip line < picRank chip other := by
  unfold picPollLine at h
  rw [Option.filter_eq_some_iff] at h
  obtain ⟨htop, hopen⟩ := h
  rw [picTopLine_eq] at htop
  obtain ⟨hline, hready, hleast⟩ := ringLines_find?_eq_some htop
  have hrequested : chip.irr.getLsbD line = true := by
    rw [getLsbD_and, Bool.and_eq_true] at hready
    exact hready.1
  refine ⟨⟨hline, hrequested, hopen⟩, ?_⟩
  intro other hother hne
  have hunmasked := (picIsLineOpen_iff.mp hother.isOpen).1
  apply hleast other hother.isLine _ hne
  rw [getLsbD_and, getLsbD_not, hother.requested, hunmasked]
  have hlt : other < 8 := hother.isLine
  simp [hlt]

theorem picPollLine_eq_none (h : picPollLine chip isMaster = none) (other : Nat) :
    ¬Takeable chip isMaster other := by
  intro hother
  have hlt : other < 8 := hother.isLine
  have hunmasked := (picIsLineOpen_iff.mp hother.isOpen).1
  have hready : (chip.irr &&& ~~~chip.imr).getLsbD other = true := by
    rw [getLsbD_and, getLsbD_not, hother.requested, hunmasked]
    simp [hlt]
  unfold picPollLine at h
  rw [picTopLine_eq] at h
  cases htop : (ringLines picLinesPerChip chip.lowestPriority).find?
      fun line => (chip.irr &&& ~~~chip.imr).getLsbD line with
  | none =>
    have hnone := ringLines_find?_eq_none.mp htop other hother.isLine
    rw [hready] at hnone
    exact absurd hnone (by decide)
  | some top =>
    obtain ⟨-, htopReady, hleast⟩ := ringLines_find?_eq_some htop
    rw [htop] at h
    have hclosed : ¬picIsLineOpen chip top isMaster = true := by
      intro hopen
      rw [Option.filter_some, if_pos hopen] at h
      cases h
    have hne : other ≠ top := by
      rintro rfl
      exact hclosed hother.isOpen
    -- the line that closes the highest request closes this one too
    rw [picIsLineOpen_iff] at hclosed
    have htopUnmasked : chip.imr.getLsbD top = false := by
      rw [getLsbD_and, getLsbD_not, Bool.and_eq_true, Bool.and_eq_true,
        Bool.not_eq_true'] at htopReady
      exact htopReady.2.2
    have hblocked : ∃ blocker < 8, Blocks chip isMaster top blocker := by
      by_contra hnone
      apply hclosed
      refine ⟨htopUnmasked, fun blocker hblocker hblocks => hnone ⟨blocker, hblocker, hblocks⟩⟩
    obtain ⟨blocker, hblocker, hblocks⟩ := hblocked
    have hrank := hleast other hother.isLine hready hne
    exact (picIsLineOpen_iff.mp hother.isOpen).2 blocker hblocker
      (hblocks.of_lower hrank)

/-- A poll answers `PIC_POLL_PENDING` just when some line can be taken.  It then names the
highest-priority line of these, clears its request and acknowledges it; else it changes nothing. -/
theorem picPollRead_offers (chip : PicChip) (isMaster : Bool) :
    ((picPollRead chip isMaster).1.getLsbD 7 = true ↔ ∃ line, Takeable chip isMaster line) ∧
      (∀ line, Takeable chip isMaster line →
        ∃ offered, Takeable chip isMaster offered ∧
          (∀ other, Takeable chip isMaster other → other ≠ offered →
            picRank chip offered < picRank chip other) ∧
          picPollRead chip isMaster =
            (0x80 ||| BitVec.ofNat 8 offered,
              picInterruptAcknowledge (chip.irrClear offered) offered)) ∧
      ((¬∃ line, Takeable chip isMaster line) → picPollRead chip isMaster = (0, chip)) := by
  cases hpoll : picPollLine chip isMaster with
  | none =>
    have hnone := picPollLine_eq_none hpoll
    have hread : picPollRead chip isMaster = (0, chip) := by
      unfold picPollRead
      rw [hpoll]
    refine ⟨?_, fun line hline => absurd hline (hnone line), fun _ => hread⟩
    rw [hread]
    constructor
    · intro hpending
      have hclear : (0 : BitVec 8).getLsbD 7 = true := hpending
      exact absurd hclear (by decide)
    · rintro ⟨line, hline⟩
      exact absurd hline (hnone line)
  | some offered =>
    obtain ⟨htakeable, hleast⟩ := picPollLine_eq_some hpoll
    have hread : picPollRead chip isMaster =
        (0x80 ||| BitVec.ofNat 8 offered,
          picInterruptAcknowledge (chip.irrClear offered) offered) := by
      unfold picPollRead
      rw [hpoll]
    refine ⟨?_, fun _ _ => ⟨offered, htakeable, hleast, hread⟩,
      fun hnone => absurd ⟨offered, htakeable⟩ hnone⟩
    rw [hread]
    constructor
    · exact fun _ => ⟨offered, htakeable⟩
    · intro _
      rw [getLsbD_or]
      simp

/-!
## The host's automatic acknowledge (`VddPicAcknowledgeAutoEoi`)

It is to be an acknowledge followed by an end of interrupt, and to leave what is in service.  A
line that can be delivered is not in service itself, but for the cascade in special fully nested
mode; what becomes of the cascade depends on what the slave has in service.
-/

/-! ## In-service bits -/

variable (register : BitVec 8)

theorem clear_set (line : Nat) :
    (register ||| lineBit line) &&& ~~~lineBit line = register &&& ~~~lineBit line := by
  apply eq_of_getLsbD_eq
  intro other hother
  simp only [getLsbD_and, getLsbD_or, getLsbD_not, getLsbD_lineBit]
  by_cases heq : other = line
  · simp [heq]
  · simp [heq]

theorem clear_eq_self_iff {line : Nat} (hline : line < 8) :
    register &&& ~~~lineBit line = register ↔ register.getLsbD line = false := by
  constructor
  · intro h
    rw [← h, getLsbD_and, getLsbD_not, getLsbD_lineBit]
    simp [hline]
  · intro h
    apply eq_of_getLsbD_eq
    intro other hother
    simp only [getLsbD_and, getLsbD_not, getLsbD_lineBit]
    by_cases heq : other = line
    · rw [heq, h]
      simp
    · simp [heq, hother]

theorem set_eq_self_iff {line : Nat} (hline : line < 8) :
    register ||| lineBit line = register ↔ register.getLsbD line = true := by
  constructor
  · intro h
    rw [← h, getLsbD_or, getLsbD_lineBit]
    simp [hline]
  · intro h
    apply eq_of_getLsbD_eq
    intro other hother
    simp only [getLsbD_or, getLsbD_lineBit]
    by_cases heq : other = line
    · rw [heq, h]
      simp
    · simp [heq]

/-- A line that is open is not in service, unless it is the cascade in special fully nested
mode. -/
theorem isr_of_isLineOpen {chip : PicChip} {isMaster : Bool} {line : Nat} (hline : line < 8)
    (hopen : picIsLineOpen chip line isMaster = true)
    (hnested : ¬(isMaster = true ∧ chip.isSpecialFullyNested = true ∧ line = picCascadeLine)) :
    chip.isr.getLsbD line = false := by
  obtain ⟨hunmasked, hblocked⟩ := picIsLineOpen_iff.mp hopen
  by_contra hservice
  rw [Bool.not_eq_false] at hservice
  apply hblocked line hline
  refine ⟨?_, fun h => hnested ⟨h.1, h.2.1, h.2.2.1⟩, le_refl _⟩
  unfold effectiveIsr
  by_cases hmode : chip.isSpecialMaskMode = true
  · rw [if_pos hmode, getLsbD_and, getLsbD_not, hservice, hunmasked]
    simp [hline]
  · rw [if_neg hmode]
    exact hservice

/-- The automatic acknowledge is the pair, and leaves both in-service registers. -/
structure AutoEoiExact (state : PicState) (irq : Nat) : Prop where
  pair : vddPicAcknowledgeAutoEoi state irq =
    vddPicEndOfInterrupt (vddPicAcknowledge state irq) irq
  master : (vddPicAcknowledgeAutoEoi state irq).master.isr = state.master.isr
  slave : (vddPicAcknowledgeAutoEoi state irq).slave.isr = state.slave.isr

/-- A master line is not in service; for a slave line the cascade is in service just when some
slave line is, or is left alone by an acknowledge in auto-EOI mode. -/
def InServiceAgrees (state : PicState) (irq : Nat) : Prop :=
  if irq < picLinesPerChip then state.master.isr.getLsbD irq = false
  else if state.slave.isr = 0 then state.master.isr.getLsbD picCascadeLine = false
  else state.master.isAutoEoi = true ∨ state.master.isr.getLsbD picCascadeLine = true
deriving Decidable

def PicChip.autoAcknowledge (chip : PicChip) (line : Nat) : PicChip :=
  let cleared := chip.irrClear line
  if cleared.isAutoEoi ∧ cleared.isRotateInAutoEoi then { cleared with lowestPriority := line }
  else cleared

theorem PicChip.autoAcknowledge_isr (chip : PicChip) (line : Nat) :
    (chip.autoAcknowledge line).isr = chip.isr := by
  unfold autoAcknowledge
  dsimp only
  split_ifs <;> rfl

theorem picInterruptAcknowledge_isrClear (chip : PicChip) (line : Nat) :
    (picInterruptAcknowledge (chip.irrClear line) line).isrClear line =
      { chip.autoAcknowledge line with isr := chip.isr &&& ~~~lineBit line } := by
  have hauto : (chip.irrClear line).isAutoEoi = chip.isAutoEoi := rfl
  have hrotate : (chip.irrClear line).isRotateInAutoEoi = chip.isRotateInAutoEoi := rfl
  have hisr : (chip.irrClear line).isr = chip.isr := rfl
  unfold picInterruptAcknowledge autoAcknowledge isrClear isrSet
  simp only [hauto, hrotate, hisr]
  by_cases hmode : chip.isAutoEoi = true
  · by_cases hrotating : chip.isRotateInAutoEoi = true
    · simp [hmode, hrotating]
    · simp [hmode, hrotating, hisr]
  · simp [hmode, clear_set, hauto, hrotate]

section MasterLine

variable (state : PicState) {irq : Nat} (hirq : irq < picLinesPerChip)

include hirq

theorem acknowledgeAutoEoi_master :
    vddPicAcknowledgeAutoEoi state irq =
      { state with master := state.master.autoAcknowledge irq } := by
  unfold vddPicAcknowledgeAutoEoi
  rw [if_neg (Nat.not_le_of_lt hirq)]
  rfl

theorem acknowledge_endOfInterrupt_master :
    vddPicEndOfInterrupt (vddPicAcknowledge state irq) irq =
      { state with
        master := { state.master.autoAcknowledge irq with
                    isr := state.master.isr &&& ~~~lineBit irq } } := by
  have hline : ¬irq ≥ picLines := by
    unfold picLinesPerChip at hirq
    unfold picLines
    omega
  have hmod : irq % 8 = irq := Nat.mod_eq_of_lt hirq
  have hchip : chipOf irq = .master := if_pos hirq
  unfold vddPicEndOfInterrupt vddPicAcknowledge
  rw [if_neg hline, if_pos hirq, if_neg hline]
  rw [if_neg (Nat.not_le_of_lt hirq), hchip, hmod]
  simp only [PicState.setChip, PicState.chip, picInterruptAcknowledge_isrClear]

theorem autoEoiExact_master_iff :
    AutoEoiExact state irq ↔ state.master.isr.getLsbD irq = false := by
  rw [← clear_eq_self_iff _ hirq]
  constructor
  · intro h
    have hpair := congrArg (fun state => state.master.isr) h.pair
    rw [acknowledgeAutoEoi_master state hirq, acknowledge_endOfInterrupt_master state hirq] at hpair
    exact hpair.symm.trans (state.master.autoAcknowledge_isr irq)
  · intro h
    refine ⟨?_, ?_, ?_⟩
    · rw [acknowledgeAutoEoi_master state hirq, acknowledge_endOfInterrupt_master state hirq, h,
        ← state.master.autoAcknowledge_isr irq]
    · rw [acknowledgeAutoEoi_master state hirq]
      exact state.master.autoAcknowledge_isr irq
    · rw [acknowledgeAutoEoi_master state hirq]

end MasterLine

theorem picInterruptAcknowledge_isr (chip : PicChip) (line : Nat) :
    (picInterruptAcknowledge chip line).isr =
      if chip.isAutoEoi = true then chip.isr else chip.isr ||| lineBit line := by
  unfold picInterruptAcknowledge
  by_cases hauto : chip.isAutoEoi = true
  · rw [if_neg (by rw [hauto]; decide), if_pos hauto]
    split_ifs <;> rfl
  · rw [if_pos (Bool.eq_false_iff.mpr hauto), if_neg hauto]
    rfl

section SlaveLine

variable (state : PicState) {irq : Nat} (hslave : picLinesPerChip ≤ irq) (hirq : irq < picLines)
  (hidle : state.slave.isr.getLsbD (irq % 8) = false)

include hslave

theorem acknowledgeAutoEoi_slave :
    vddPicAcknowledgeAutoEoi state irq =
      vddPicEndOfInterrupt (vddPicAcknowledge state irq) irq :=
  if_pos hslave

include hirq hidle

theorem acknowledgeAutoEoi_slave_isr :
    (vddPicAcknowledgeAutoEoi state irq).slave.isr = state.slave.isr ∧
      (vddPicAcknowledgeAutoEoi state irq).master.isr =
        if state.slave.isr = 0 then
          (picInterruptAcknowledge state.master picCascadeLine).isr &&& ~~~lineBit picCascadeLine
        else (picInterruptAcknowledge state.master picCascadeLine).isr := by
  have hline : irq - picLinesPerChip = irq % 8 := by
    unfold picLinesPerChip picLines at *
    lia
  have hmod : irq % 8 < 8 := Nat.mod_lt _ (by decide)
  have hnotMaster : ¬irq < picLinesPerChip := Nat.not_lt_of_le hslave
  have hchip : chipOf irq = .slave := if_neg hnotMaster
  have hended : ((picInterruptAcknowledge (state.slave.irrClear (irq % 8)) (irq % 8)).isrClear
      (irq % 8)).isr = state.slave.isr := by
    rw [picInterruptAcknowledge_isrClear]
    exact (clear_eq_self_iff _ hmod).mpr hidle
  rw [acknowledgeAutoEoi_slave state hslave]
  unfold vddPicEndOfInterrupt vddPicAcknowledge
  rw [if_neg (Nat.not_le_of_lt hirq), if_neg hnotMaster, if_neg (Nat.not_le_of_lt hirq)]
  rw [if_pos hslave, hchip, hline]
  refine ⟨hended, ?_⟩
  by_cases hempty : state.slave.isr = 0
  · rw [if_pos hempty]
    exact congrArg isr (if_pos (hended.trans hempty))
  · rw [if_neg hempty]
    exact congrArg isr (if_neg fun h => hempty (hended.symm.trans h))

theorem autoEoiExact_slave_iff :
    AutoEoiExact state irq ↔
      if state.slave.isr = 0 then state.master.isr.getLsbD picCascadeLine = false
      else state.master.isAutoEoi = true ∨ state.master.isr.getLsbD picCascadeLine = true := by
  obtain ⟨hslaveIsr, hmasterIsr⟩ := acknowledgeAutoEoi_slave_isr state hslave hirq hidle
  have hcascade : picCascadeLine < 8 := by decide
  have hexact : AutoEoiExact state irq ↔
      (vddPicAcknowledgeAutoEoi state irq).master.isr = state.master.isr :=
    ⟨fun h => h.master, fun h => ⟨acknowledgeAutoEoi_slave state hslave, h, hslaveIsr⟩⟩
  rw [hexact, hmasterIsr, picInterruptAcknowledge_isr]
  by_cases hempty : state.slave.isr = 0
  · rw [if_pos hempty, if_pos hempty, ← clear_eq_self_iff _ hcascade]
    by_cases hauto : state.master.isAutoEoi = true
    · rw [if_pos hauto]
    · rw [if_neg hauto, clear_set]
  · rw [if_neg hempty, if_neg hempty]
    by_cases hauto : state.master.isAutoEoi = true
    · rw [if_pos hauto]
      simp [hauto]
    · rw [if_neg hauto, set_eq_self_iff _ hcascade]
      simp [hauto]

end SlaveLine

theorem vddPicAcknowledgeAutoEoi_exact_iff (state : PicState) (irq : Nat)
    (hdeliver : vddPicCanDeliver state irq = true) :
    AutoEoiExact state irq ↔ InServiceAgrees state irq := by
  obtain ⟨hirq, hopen, -⟩ := vddPicCanDeliver_cases hdeliver
  unfold InServiceAgrees
  by_cases hmaster : irq < picLinesPerChip
  · rw [if_pos hmaster]
    exact autoEoiExact_master_iff state hmaster
  · rw [if_neg hmaster]
    apply autoEoiExact_slave_iff state (Nat.le_of_not_lt hmaster) hirq
    have hchip : chipOf irq = .slave := if_neg hmaster
    rw [hchip] at hopen
    apply isr_of_isLineOpen (Nat.mod_lt _ (by decide)) hopen
    rintro ⟨hisMaster, -⟩
    exact hmaster (of_decide_eq_true hisMaster)

theorem vddPicAcknowledgeAutoEoi_exact_timer :
    AutoEoiExact (vddPicReset ⟨blankChip, blankChip⟩) 0 ↔
      InServiceAgrees (vddPicReset ⟨blankChip, blankChip⟩) 0 :=
  vddPicAcknowledgeAutoEoi_exact_iff _ _ (by decide)

def picRun (state : PicState) (events : List PicEvent) : PicState :=
  events.foldl PicEvent.apply state

def cascadeEnded : List PicEvent :=
  [.dataWrite .master 0, .dataWrite .slave 0, .raise 12, .acknowledge 12, .commandWrite .master 0x20,
    .raise 8]

theorem vddPicAcknowledgeAutoEoi_leaves_cascade :
    vddPicCanDeliver (picRun (vddPicReset ⟨blankChip, blankChip⟩) cascadeEnded) 8 = true ∧
      ¬AutoEoiExact (picRun (vddPicReset ⟨blankChip, blankChip⟩) cascadeEnded) 8 := by
  refine ⟨by decide, fun hexact => ?_⟩
  exact absurd hexact.master (by decide)

end Ntvdmex.Vdd.Pic
