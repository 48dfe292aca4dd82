import Ntvdmex.Foundation.Runs
import Ntvdmex.Vdd.Pic

/-!
# The nesting of interrupt handlers

The handlers entered and not ended are kept beside the two chips, as the history of
acknowledges and ends gives them.  In the fixed order the in-service registers hold
exactly these handlers, nested by priority.
-/

namespace Ntvdmex.Vdd.Pic

open Foundation List

variable {line irq : Nat} {lines : List Nat} {isMaster : Bool} {name : ChipName}

/-! ## Events -/

inductive PicEvent where
  | raise (irq : Nat)
  | commandWrite (name : ChipName) (value : BitVec 8)
  | dataWrite (name : ChipName) (value : BitVec 8)
  | commandRead (name : ChipName)
  | acknowledge (irq : Nat)
  | acknowledgeAutoEoi (irq : Nat)
  | endOfInterrupt (irq : Nat)
  deriving DecidableEq, Repr

def PicEvent.apply (state : PicState) : PicEvent → PicState
  | .raise irq => vddPicRaise state irq
  | .commandWrite name value => state.setChip name (picCommandWrite (state.chip name) value)
  | .dataWrite name value => state.setChip name (picDataWrite (state.chip name) value)
  | .commandRead name =>
    state.setChip name (picCommandRead (state.chip name) (name = .master)).2
  | .acknowledge irq => vddPicAcknowledge state irq
  | .acknowledgeAutoEoi irq => vddPicAcknowledgeAutoEoi state irq
  | .endOfInterrupt irq => vddPicEndOfInterrupt state irq

/-- The line is requested, and the pair lets it through. -/
def Deliverable (state : PicState) (irq : Nat) : Prop :=
  (state.chip (chipOf irq)).irr.getLsbD (irq % 8) = true ∧ vddPicCanDeliver state irq = true
deriving Decidable

/-- An OCW3 that leaves special mask mode alone or clears it, or an OCW2 that ends an
interrupt and rotates nothing. -/
def PlainCommand (value : BitVec 8) : Prop :=
  value.getLsbD 4 = false ∧
    (value.getLsbD 3 = true ∧ ¬ (value.getLsbD 6 = true ∧ value.getLsbD 5 = true) ∨
      value.getLsbD 3 = false ∧ ocw2Command value ∈ ([0x20, 0x60, 0x40, 0x00] : List (BitVec 8)))
deriving Decidable

/-- The steps under consideration. -/
def PicEvent.Permitted (state : PicState) : PicEvent → Prop
  | .commandWrite _ value => PlainCommand value
  | .acknowledge irq => Deliverable state irq
  | .acknowledgeAutoEoi irq => Deliverable state irq
  | _ => True

instance (state : PicState) (event : PicEvent) : Decidable (event.Permitted state) :=
  match event with
  | .commandWrite _ value => inferInstanceAs (Decidable (PlainCommand value))
  | .acknowledge irq => inferInstanceAs (Decidable (Deliverable state irq))
  | .acknowledgeAutoEoi irq => inferInstanceAs (Decidable (Deliverable state irq))
  | .raise _ => isTrue trivial
  | .dataWrite _ _ => isTrue trivial
  | .commandRead _ => isTrue trivial
  | .endOfInterrupt _ => isTrue trivial

def IsNonspecificEoi (value : BitVec 8) : Prop :=
  value.getLsbD 4 = false ∧ value.getLsbD 3 = false ∧ ocw2Command value = 0x20
deriving Decidable

def IsSpecificEoi (value : BitVec 8) : Prop :=
  value.getLsbD 4 = false ∧ value.getLsbD 3 = false ∧ ocw2Command value = 0x60
deriving Decidable

/-! ## Handlers -/

/-- The lines acknowledged and not yet ended, the last one first. -/
structure Handlers where
  master : List Nat
  slave : List Nat
  deriving DecidableEq, Repr

def Handlers.chip (handlers : Handlers) : ChipName → List Nat
  | .master => handlers.master
  | .slave => handlers.slave

def Handlers.setChip (handlers : Handlers) (name : ChipName) (lines : List Nat) : Handlers :=
  match name with
  | .master => { handlers with master := lines }
  | .slave => { handlers with slave := lines }

/-- The handler of `line` is entered. -/
def Handlers.enter (handlers : Handlers) (name : ChipName) (line : Nat) : Handlers :=
  handlers.setChip name (line :: handlers.chip name)

/-- The handler of `line` is ended, wherever it stands. -/
def Handlers.leave (handlers : Handlers) (name : ChipName) (line : Nat) : Handlers :=
  handlers.setChip name ((handlers.chip name).filter (· ≠ line))

def Handlers.leaveLast (handlers : Handlers) (name : ChipName) : Handlers :=
  handlers.setChip name (handlers.chip name).tail

def Handlers.deliver (handlers : Handlers) (irq : Nat) : Handlers :=
  if irq < picLinesPerChip then handlers.enter .master irq
  else (handlers.enter .slave (irq % 8)).enter .master picCascadeLine

def Handlers.finish (handlers : Handlers) (irq : Nat) : Handlers :=
  if irq ≥ picLines then handlers
  else if irq < picLinesPerChip then handlers.leave .master irq
  else
    let rest := handlers.leave .slave (irq - picLinesPerChip)
    if rest.slave = [] then rest.leave .master picCascadeLine else rest

def Handlers.after (handlers : Handlers) (state : PicState) : PicEvent → Handlers
  | .raise _ => handlers
  | .commandWrite name value =>
    if IsNonspecificEoi value then handlers.leaveLast name
    else if IsSpecificEoi value then handlers.leave name (ocw2Line value)
    else handlers
  | .dataWrite _ _ => handlers
  | .commandRead name =>
    if (state.chip name).isPollArmed then
      match picPollLine (state.chip name) (name = .master) with
      | some line => handlers.enter name line
      | none => handlers
    else handlers
  | .acknowledge irq => handlers.deliver irq
  | .acknowledgeAutoEoi irq =>
    if irq < picLinesPerChip then handlers else (handlers.deliver irq).finish irq
  | .endOfInterrupt irq => handlers.finish irq

/-! ## One chip -/

/-- A chip in the order a PC BIOS leaves, with its initialization over. -/
structure FixedOrder (chip : PicChip) : Prop where
  lowest : chip.lowestPriority = picFixedLowest
  noRotate : chip.isRotateInAutoEoi = false
  noSpecialMask : chip.isSpecialMaskMode = false
  noSpecialNesting : chip.isSpecialFullyNested = false
  noAutoEoi : chip.isAutoEoi = false
  running : chip.icwStep = .running

/-- The chip's in-service lines are `lines`, nested. -/
structure Serves (chip : PicChip) (lines : List Nat) : Prop where
  fixed : FixedOrder chip
  holds : Holds chip.isr lines
  nested : Nested lines

theorem picRank_fixed {chip : PicChip} (h : FixedOrder chip) (hline : line < 8) :
    picRank chip line = line := by
  unfold picRank
  rw [h.lowest]
  unfold picFixedLowest
  omega

theorem picTopLine_fixed {chip : PicChip} (h : FixedOrder chip) (mask : BitVec 8) :
    picTopLine chip mask = (range 8).find? fun line => mask.getLsbD line := by
  unfold picTopLine
  rw [h.lowest]
  rfl

/-- The top line of the in-service register is the handler entered last. -/
theorem picTopLine_isr {chip : PicChip} (h : Serves chip lines) :
    picTopLine chip chip.isr = lines.head? := by
  rw [picTopLine_fixed h.fixed]
  cases hlines : lines with
  | nil =>
    rw [head?_nil, find?_eq_none]
    intro line _ hbit
    have hmem := (h.holds line).mp hbit
    simp [hlines] at hmem
  | cons top rest =>
    rw [head?_cons, find?_range_eq_some]
    have htop : top ∈ lines := by simp [hlines]
    have hnested := h.nested
    rw [hlines] at hnested
    refine ⟨(h.holds top).mpr htop, mem_range.mpr (h.holds.lt_width htop), ?_⟩
    intro other hother
    have hnot : other ∉ lines := by
      rw [hlines, mem_cons]
      rintro (rfl | hrest)
      · exact absurd hother (Nat.lt_irrefl _)
      · exact absurd ((pairwise_cons.mp hnested).1 other hrest) (by omega)
    have hbit : ¬ chip.isr.getLsbD other = true := fun hbit => hnot ((h.holds other).mp hbit)
    simpa using hbit

theorem foldl_blockers_zero {p : Nat → Prop} [DecidablePred p] (hlines : ∀ line ∈ lines, line < 8)
    (blockers : BitVec 8) :
    lines.foldl (fun blockers line => if p line then blockers ||| lineBit line else blockers)
        blockers = 0 ↔ blockers = 0 ∧ ∀ line ∈ lines, ¬ p line := by
  induction lines generalizing blockers with
  | nil => simp
  | cons line lines ih =>
    have hrest : ∀ other ∈ lines, other < 8 :=
      fun other hother => hlines other (mem_cons_of_mem _ hother)
    rw [foldl_cons, ih hrest]
    by_cases hp : p line
    · rw [if_pos hp]
      have hline := hlines line mem_cons_self
      have hne : blockers ||| lineBit line ≠ 0 := by
        intro hzero
        have hbit := congrArg (fun register => BitVec.getLsbD register line) hzero
        rw [BitVec.getLsbD_or, getLsbD_lineBit] at hbit
        simp [hline] at hbit
      constructor
      · rintro ⟨hzero, -⟩
        exact absurd hzero hne
      · rintro ⟨-, hnone⟩
        exact absurd hp (hnone line mem_cons_self)
    · rw [if_neg hp]
      simp [hp]

/-- In the fixed order a line is open when it is unmasked and everything in service lies
below it. -/
theorem picIsLineOpen_fixed {chip : PicChip} (h : FixedOrder chip) (hline : line < 8)
    (isMaster : Bool) :
    picIsLineOpen chip line isMaster = true ↔
      chip.imr.getLsbD line = false ∧ ∀ other < 8, chip.isr.getLsbD other = true →
        line < other := by
  have hblockers : picBlockers chip line isMaster = 0 ↔
      ∀ other < 8, chip.isr.getLsbD other = true → line < other := by
    have hfold : picBlockers chip line isMaster =
        (range 8).foldl (fun blockers other =>
          if chip.isr.getLsbD other = true ∧ picRank chip other ≤ picRank chip line
            then blockers ||| lineBit other else blockers) 0 := by
      unfold picBlockers
      rw [h.noSpecialMask, h.noSpecialNesting]
      rw [if_neg Bool.false_ne_true]
      refine congrArg (fun step => List.foldl step (0 : BitVec 8) (range 8)) ?_
      funext blockers other
      by_cases hbit : chip.isr.getLsbD other = true <;> simp [hbit]
    rw [hfold, foldl_blockers_zero (fun other hother => mem_range.mp hother)]
    constructor
    · rintro ⟨-, hnone⟩ other hother hbit
      have hrank := hnone other (mem_range.mpr hother)
      rw [picRank_fixed h hother, picRank_fixed h hline] at hrank
      by_contra hle
      exact hrank ⟨hbit, by omega⟩
    · intro hbelow
      refine ⟨rfl, fun other hother hboth => ?_⟩
      have hother := mem_range.mp hother
      have hlt := hbelow other hother hboth.1
      rw [picRank_fixed h hother, picRank_fixed h hline] at hboth
      omega
  unfold picIsLineOpen
  cases hmask : chip.imr.getLsbD line with
  | true => simp
  | false =>
    rw [← hblockers]
    simp

theorem Serves.lt_of_open {chip : PicChip} (h : Serves chip lines) (hline : line < 8)
    (hopen : picIsLineOpen chip line isMaster = true) : ∀ other ∈ lines, line < other := by
  intro other hother
  have hbelow := ((picIsLineOpen_fixed h.fixed hline isMaster).mp hopen).2
  exact hbelow other (h.holds.lt_width hother) ((h.holds other).mpr hother)

theorem Serves.isrClear {chip : PicChip} (h : Serves chip lines) (line : Nat)
    : Serves (chip.isrClear line) (lines.filter (· ≠ line)) where
  fixed := ⟨h.fixed.lowest, h.fixed.noRotate, h.fixed.noSpecialMask, h.fixed.noSpecialNesting,
    h.fixed.noAutoEoi, h.fixed.running⟩
  holds := h.holds.clear line
  nested := h.nested.filter _

/-- Neither requests nor masks nor the read selects take part in the nesting. -/
theorem Serves.frame {chip chip' : PicChip} (h : Serves chip lines) (hisr : chip'.isr = chip.isr)
    (hfixed : FixedOrder chip') : Serves chip' lines where
  fixed := hfixed
  holds := by
    rw [hisr]
    exact h.holds
  nested := h.nested

theorem FixedOrder.irr {chip : PicChip} (h : FixedOrder chip) (irr : BitVec 8) :
    FixedOrder { chip with irr } :=
  ⟨h.lowest, h.noRotate, h.noSpecialMask, h.noSpecialNesting, h.noAutoEoi, h.running⟩

section

variable {chip : PicChip} {lines : List Nat} (h : Serves chip lines)

include h

theorem Serves.irr (irr : BitVec 8) : Serves { chip with irr } lines :=
  h.frame rfl (h.fixed.irr irr)

theorem Serves.acknowledge (hline : line < 8) (hbelow : ∀ other ∈ lines, line < other) :
    Serves (picInterruptAcknowledge chip line) (line :: lines) := by
  unfold picInterruptAcknowledge
  rw [if_pos h.fixed.noAutoEoi]
  exact ⟨⟨h.fixed.lowest, h.fixed.noRotate, h.fixed.noSpecialMask, h.fixed.noSpecialNesting,
    h.fixed.noAutoEoi, h.fixed.running⟩, h.holds.set hline, h.nested.push hbelow⟩

theorem picOcw2_nonspecific {value : BitVec 8} (hcommand : ocw2Command value = 0x20) :
    picOcw2 chip value = match lines.head? with
      | some line => chip.isrClear line
      | none => chip := by
  have htop := picTopLine_isr h
  unfold picOcw2
  rw [if_pos hcommand]
  cases hhead : lines.head? <;> rw [hhead] at htop <;> simp only [htop]

theorem Serves.nonspecific {value : BitVec 8} (hcommand : ocw2Command value = 0x20) :
    Serves (picOcw2 chip value) lines.tail := by
  rw [picOcw2_nonspecific h hcommand]
  cases lines with
  | nil => exact h
  | cons line rest =>
    have hclear := h.isrClear line
    rw [h.nested.filter_head] at hclear
    exact hclear

end

/-! ## The pair -/

/-- Both chips serve their handlers. -/
structure Nests (state : PicState) (handlers : Handlers) : Prop where
  master : Serves state.master handlers.master
  slave : Serves state.slave handlers.slave

section

variable {state : PicState} {handlers : Handlers} (h : Nests state handlers)

include h

theorem Nests.chip (name : ChipName) : Serves (state.chip name) (handlers.chip name) := by
  cases name with
  | master => exact h.master
  | slave => exact h.slave

theorem Nests.setChip {chip : PicChip} (hchip : Serves chip lines) :
    Nests (state.setChip name chip) (handlers.setChip name lines) := by
  cases name with
  | master => exact ⟨hchip, h.slave⟩
  | slave => exact ⟨h.master, hchip⟩

/-- A chip may change behind handlers that stay. -/
theorem Nests.setState {chip : PicChip} (hchip : Serves chip (handlers.chip name)) :
    Nests (state.setChip name chip) handlers := by
  cases name with
  | master => exact ⟨hchip, h.slave⟩
  | slave => exact ⟨h.master, hchip⟩

theorem Nests.raise (irq : Nat) : Nests (vddPicRaise state irq) handlers := by
  unfold vddPicRaise
  split
  · exact ⟨h.master.irr _, h.slave⟩
  · split
    · exact ⟨h.master, h.slave.irr _⟩
    · exact h

end

variable {value : BitVec 8}

theorem Serves.ocw3 {chip : PicChip} (h : Serves chip lines)
    (hmode : ¬ (value.getLsbD 6 = true ∧ value.getLsbD 5 = true)) :
    Serves (picOcw3 chip value) lines := by
  refine h.frame rfl ⟨h.fixed.lowest, h.fixed.noRotate, ?_, h.fixed.noSpecialNesting,
    h.fixed.noAutoEoi, h.fixed.running⟩
  change (if value.getLsbD 6 then value.getLsbD 5 else chip.isSpecialMaskMode) = false
  cases hesmm : value.getLsbD 6 with
  | false => exact h.fixed.noSpecialMask
  | true =>
    cases hsmm : value.getLsbD 5 with
    | false => rfl
    | true => exact absurd ⟨hesmm, hsmm⟩ hmode

/-- The commands of `PlainCommand` that end nothing. -/
theorem Serves.idleOcw2 {chip : PicChip} (h : Serves chip lines)
    (hcommand : ocw2Command value = 0x40 ∨ ocw2Command value = 0x00) :
    Serves (picOcw2 chip value) lines := by
  unfold picOcw2
  rcases hcommand with hcommand | hcommand <;> rw [hcommand]
  · exact h
  · exact h.frame rfl ⟨h.fixed.lowest, rfl, h.fixed.noSpecialMask, h.fixed.noSpecialNesting,
      h.fixed.noAutoEoi, h.fixed.running⟩

theorem picCommandWrite_nonspecific (hvalue : IsNonspecificEoi value) (chip : PicChip) :
    picCommandWrite chip value = picOcw2 chip value := by
  unfold picCommandWrite
  rw [hvalue.1, hvalue.2.1]
  rfl

theorem Nests.commandWrite {state : PicState} {handlers : Handlers} (h : Nests state handlers)
    (name : ChipName) (hvalue : PlainCommand value) :
    Nests (state.setChip name (picCommandWrite (state.chip name) value))
      (handlers.after state (.commandWrite name value)) := by
  have hserves := h.chip name
  obtain ⟨hicw1, ⟨hocw3, hmode⟩ | ⟨hocw2, hcommand⟩⟩ := hvalue
  · have hnot : ¬ IsNonspecificEoi value ∧ ¬ IsSpecificEoi value :=
      ⟨fun hv => absurd (hocw3.symm.trans hv.2.1) (by decide),
        fun hv => absurd (hocw3.symm.trans hv.2.1) (by decide)⟩
    have hwrite : picCommandWrite (state.chip name) value = picOcw3 (state.chip name) value := by
      unfold picCommandWrite
      rw [hicw1, hocw3]
      rfl
    rw [hwrite]
    unfold Handlers.after
    dsimp only
    rw [if_neg hnot.1, if_neg hnot.2]
    exact h.setState (hserves.ocw3 hmode)
  · have hwrite : picCommandWrite (state.chip name) value = picOcw2 (state.chip name) value := by
      unfold picCommandWrite
      rw [hicw1, hocw2]
      rfl
    rw [hwrite]
    unfold Handlers.after
    dsimp only
    by_cases hnonspecific : ocw2Command value = 0x20
    · rw [if_pos ⟨hicw1, hocw2, hnonspecific⟩]
      exact h.setChip (hserves.nonspecific hnonspecific)
    · rw [if_neg fun hv => hnonspecific hv.2.2]
      by_cases hspecific : ocw2Command value = 0x60
      · rw [if_pos ⟨hicw1, hocw2, hspecific⟩]
        unfold picOcw2
        rw [if_neg hnonspecific, if_pos hspecific]
        exact h.setChip (hserves.isrClear _)
      · rw [if_neg fun hv => hspecific hv.2.2]
        have hidle : ocw2Command value = 0x40 ∨ ocw2Command value = 0x00 := by
          simp only [mem_cons, not_mem_nil, or_false] at hcommand
          rcases hcommand with hc | hc | hc | hc
          · exact absurd hc hnonspecific
          · exact absurd hc hspecific
          · exact Or.inl hc
          · exact Or.inr hc
        exact h.setState (hserves.idleOcw2 hidle)

theorem Nests.dataWrite {state : PicState} {handlers : Handlers} (h : Nests state handlers)
    (name : ChipName) (value : BitVec 8) :
    Nests (state.setChip name (picDataWrite (state.chip name) value)) handlers := by
  have hserves := h.chip name
  unfold picDataWrite
  rw [hserves.fixed.running]
  exact h.setState (hserves.frame rfl ⟨hserves.fixed.lowest, hserves.fixed.noRotate,
    hserves.fixed.noSpecialMask, hserves.fixed.noSpecialNesting, hserves.fixed.noAutoEoi, rfl⟩)

theorem picPollLine_some {chip : PicChip} (h : FixedOrder chip)
    (hline : picPollLine chip isMaster = some line) :
    line < 8 ∧ picIsLineOpen chip line isMaster = true := by
  unfold picPollLine at hline
  rw [Option.filter_eq_some_iff, picTopLine_fixed h] at hline
  obtain ⟨hfind, hopen⟩ := hline
  exact ⟨mem_range.mp (mem_of_find?_eq_some hfind), hopen⟩

theorem Nests.commandRead {state : PicState} {handlers : Handlers} (h : Nests state handlers)
    (name : ChipName) :
    Nests (state.setChip name (picCommandRead (state.chip name) (name = .master)).2)
      (handlers.after state (.commandRead name)) := by
  have hserves := h.chip name
  unfold picCommandRead Handlers.after
  dsimp only
  cases hpoll : (state.chip name).isPollArmed with
  | false => exact h.setState hserves
  | true =>
    rw [if_pos rfl, if_pos rfl]
    have hread : Serves { state.chip name with isPollArmed := false } (handlers.chip name) :=
      hserves.frame rfl ⟨hserves.fixed.lowest, hserves.fixed.noRotate,
        hserves.fixed.noSpecialMask, hserves.fixed.noSpecialNesting, hserves.fixed.noAutoEoi,
        hserves.fixed.running⟩
    unfold picPollRead
    rw [show picPollLine { state.chip name with isPollArmed := false } (decide (name = .master)) =
      picPollLine (state.chip name) (decide (name = .master)) from rfl]
    cases hline : picPollLine (state.chip name) (decide (name = .master)) with
    | none => exact h.setState hread
    | some line =>
      obtain ⟨hlt, hopen⟩ := picPollLine_some hserves.fixed hline
      exact h.setChip ((hread.irr _).acknowledge hlt (hserves.lt_of_open hlt hopen))

theorem chipOf_of_lt (h : irq < 8) : chipOf irq = .master := if_pos h

theorem chipOf_of_ge (h : ¬ irq < 8) : chipOf irq = .slave := if_neg h

theorem vddPicCanDeliver_cases {state : PicState} (h : vddPicCanDeliver state irq = true) :
    irq < 16 ∧ picIsLineOpen (state.chip (chipOf irq)) (irq % 8) (irq < picLinesPerChip) = true ∧
      (¬ irq < 8 → picIsLineOpen state.master picCascadeLine true = true) := by
  unfold vddPicCanDeliver at h
  by_cases hlines : irq ≥ picLines
  · rw [if_pos hlines] at h
    exact absurd h (by simp)
  rw [if_neg hlines] at h
  have hlt : irq < 16 := by
    unfold picLines at hlines
    omega
  by_cases hchip : picIsLineOpen (state.chip (chipOf irq)) (irq % 8) (irq < picLinesPerChip) = false
  · rw [if_pos hchip] at h
    exact absurd h (by simp)
  rw [if_neg hchip] at h
  by_cases hcascade : irq ≥ picLinesPerChip ∧
      picIsLineOpen state.master picCascadeLine true = false
  · rw [if_pos hcascade] at h
    exact absurd h (by simp)
  refine ⟨hlt, Bool.not_eq_false _ ▸ hchip, fun hslave => ?_⟩
  by_contra hclosed
  exact hcascade ⟨Nat.le_of_not_lt hslave, Bool.not_eq_true _ ▸ hclosed⟩

section

variable {state : PicState} {handlers : Handlers} (h : Nests state handlers)

include h

theorem Nests.acknowledge (hdeliver : vddPicCanDeliver state irq = true) :
    Nests (vddPicAcknowledge state irq) (handlers.deliver irq) := by
  obtain ⟨hlt, hopen, hcascade⟩ := vddPicCanDeliver_cases hdeliver
  have hlines : ¬ irq ≥ picLines := by
    unfold picLines
    omega
  have hmod : irq % 8 < 8 := Nat.mod_lt _ (by decide)
  unfold vddPicAcknowledge Handlers.deliver
  rw [if_neg hlines]
  by_cases hmaster : irq < picLinesPerChip
  · rw [if_neg (Nat.not_le_of_lt hmaster), if_pos hmaster, chipOf_of_lt hmaster]
    rw [chipOf_of_lt hmaster] at hopen
    have hserves := h.master
    have hself : irq % 8 = irq := Nat.mod_eq_of_lt hmaster
    have hline := (hserves.irr (state.master.irr &&& ~~~ lineBit (irq % 8))).acknowledge hmod
      (hserves.lt_of_open hmod hopen)
    rw [hself] at hline ⊢
    exact h.setChip hline
  · rw [if_pos (Nat.le_of_not_lt hmaster), if_neg hmaster, chipOf_of_ge hmaster]
    rw [chipOf_of_ge hmaster] at hopen
    have hline := (h.slave.irr (state.slave.irr &&& ~~~ lineBit (irq % 8))).acknowledge hmod
      (h.slave.lt_of_open hmod hopen)
    have htwo : picCascadeLine < 8 := by decide
    exact ⟨h.master.acknowledge htwo (h.master.lt_of_open htwo (hcascade hmaster)), hline⟩

theorem Nests.finish
    (irq : Nat) : Nests (vddPicEndOfInterrupt state irq) (handlers.finish irq) := by
  unfold vddPicEndOfInterrupt Handlers.finish
  by_cases hlines : irq ≥ picLines
  · rw [if_pos hlines, if_pos hlines]
    exact h
  rw [if_neg hlines, if_neg hlines]
  by_cases hmaster : irq < picLinesPerChip
  · rw [if_pos hmaster, if_pos hmaster]
    exact ⟨h.master.isrClear irq, h.slave⟩
  rw [if_neg hmaster, if_neg hmaster]
  dsimp only
  have hslave := h.slave.isrClear (irq - picLinesPerChip)
  by_cases hidle : (handlers.leave .slave (irq - picLinesPerChip)).slave = []
  · have hzero : (state.slave.isrClear (irq - picLinesPerChip)).isr = 0 :=
      hslave.holds.eq_zero_iff.mpr hidle
    rw [if_pos hzero, if_pos hidle]
    exact ⟨h.master.isrClear picCascadeLine, hslave⟩
  · have hnonzero : ¬ (state.slave.isrClear (irq - picLinesPerChip)).isr = 0 :=
      fun hzero => hidle (hslave.holds.eq_zero_iff.mp hzero)
    rw [if_neg hnonzero, if_neg hidle]
    exact ⟨h.master, hslave⟩

theorem Nests.acknowledgeAutoEoi (hdeliver : vddPicCanDeliver state irq = true) :
    Nests (vddPicAcknowledgeAutoEoi state irq)
      (handlers.after state (.acknowledgeAutoEoi irq)) := by
  unfold vddPicAcknowledgeAutoEoi Handlers.after
  dsimp only
  by_cases hmaster : irq < picLinesPerChip
  · rw [if_neg (Nat.not_le_of_lt hmaster), if_pos hmaster]
    have hirr : Serves (state.master.irrClear irq) handlers.master := h.master.irr _
    have hauto : ¬ ((state.master.irrClear irq).isAutoEoi = true ∧
        (state.master.irrClear irq).isRotateInAutoEoi = true) :=
      fun hauto => absurd (hirr.fixed.noAutoEoi.symm.trans hauto.1) (by decide)
    rw [if_neg hauto]
    exact ⟨hirr, h.slave⟩
  · rw [if_pos (Nat.le_of_not_lt hmaster), if_neg hmaster]
    exact (h.acknowledge hdeliver).finish irq

end

/-! ## Runs -/

/-- The chips, and the handlers their history has entered. -/
structure PicMachine where
  state : PicState
  handlers : Handlers
  deriving DecidableEq, Repr

def PicStep (machine : PicMachine) (event : PicEvent) (machine' : PicMachine) : Prop :=
  event.Permitted machine.state ∧
    machine' = { state := event.apply machine.state
                 handlers := machine.handlers.after machine.state event }

def afterReset (state : PicState) : PicMachine where
  state := vddPicReset state
  handlers := { master := [], slave := [] }

theorem nests_afterReset (state : PicState) :
    Nests (afterReset state).state (afterReset state).handlers :=
  ⟨⟨⟨rfl, rfl, rfl, rfl, rfl, rfl⟩, holds_zero, List.Pairwise.nil⟩,
    ⟨⟨rfl, rfl, rfl, rfl, rfl, rfl⟩, holds_zero, List.Pairwise.nil⟩⟩

theorem PicStep.nests {machine machine' : PicMachine} {event : PicEvent}
    (h : Nests machine.state machine.handlers) (hstep : PicStep machine event machine') :
    Nests machine'.state machine'.handlers := by
  obtain ⟨hpermitted, rfl⟩ := hstep
  cases event with
  | raise irq => exact h.raise irq
  | commandWrite name value => exact h.commandWrite name hpermitted
  | dataWrite name value => exact h.dataWrite name value
  | commandRead name => exact h.commandRead name
  | acknowledge irq => exact h.acknowledge hpermitted.2
  | acknowledgeAutoEoi irq => exact h.acknowledgeAutoEoi hpermitted.2
  | endOfInterrupt irq => exact h.finish irq

theorem pic_handlers_nest (initial : PicState) {events : List PicEvent} {machine : PicMachine}
    (hrun : Run PicStep (afterReset initial) events machine) :
    (∀ name, Holds (machine.state.chip name).isr (machine.handlers.chip name) ∧
      Nested (machine.handlers.chip name)) ∧
    (∀ name value, IsNonspecificEoi value →
      picCommandWrite (machine.state.chip name) value =
        match (machine.handlers.chip name).head? with
        | some line => (machine.state.chip name).isrClear line
        | none => machine.state.chip name) ∧
    (∀ irq, Deliverable machine.state irq →
      irq % 8 ∉ machine.handlers.chip (chipOf irq) ∧
      (picLinesPerChip ≤ irq → picCascadeLine ∉ machine.handlers.master ∧
        machine.state.master.isr.getLsbD picCascadeLine = false)) ∧
    (∀ name line, picPollLine (machine.state.chip name) (name = .master) = some line →
      line ∉ machine.handlers.chip name) := by
  have hnests := hrun.invariant (fun machine => Nests machine.state machine.handlers)
    (fun _ _ _ h hstep => hstep.nests h) (nests_afterReset initial)
  refine ⟨fun name => ⟨(hnests.chip name).holds, (hnests.chip name).nested⟩, ?_, ?_, ?_⟩
  · intro name value hvalue
    rw [picCommandWrite_nonspecific hvalue]
    exact picOcw2_nonspecific (hnests.chip name) hvalue.2.2
  · intro irq hdeliver
    obtain ⟨-, hopen, hcascade⟩ := vddPicCanDeliver_cases hdeliver.2
    have hmod : irq % 8 < 8 := Nat.mod_lt _ (by decide)
    refine ⟨fun hmem => ?_, fun hslave => ?_⟩
    · exact absurd ((hnests.chip _).lt_of_open hmod hopen _ hmem) (Nat.lt_irrefl _)
    · have hbelow := hnests.master.lt_of_open (by decide : picCascadeLine < 8)
        (hcascade (Nat.not_lt_of_le hslave))
      have hnot : picCascadeLine ∉ machine.handlers.master :=
        fun hmem => absurd (hbelow _ hmem) (Nat.lt_irrefl _)
      refine ⟨hnot, ?_⟩
      rw [← Bool.not_eq_true]
      exact fun hbit => hnot ((hnests.master.holds _).mp hbit)
  · intro name line hline hmem
    obtain ⟨hlt, hopen⟩ := picPollLine_some (hnests.chip name).fixed hline
    exact absurd ((hnests.chip name).lt_of_open hlt hopen _ hmem) (Nat.lt_irrefl _)

/-- A chip before any reset. -/
def blankChip : PicChip where
  imr := 0
  irr := 0
  isr := 0
  vectorBase := 0
  icwStep := .running
  isIcw4Needed := false
  isIsrSelected := false
  isAutoEoi := false
  isPollArmed := false
  lowestPriority := 0
  isRotateInAutoEoi := false
  isSpecialMaskMode := false
  isSpecialFullyNested := false

theorem pic_handlers_nest_timer_in_keyboard :
    ∃ machine : PicMachine, machine.handlers.master = [1] ∧
      ∀ name, Holds (machine.state.chip name).isr (machine.handlers.chip name) ∧
        Nested (machine.handlers.chip name) := by
  have hkeyboard : Run PicStep (afterReset ⟨blankChip, blankChip⟩) [.raise 1, .acknowledge 1] _ :=
    .snoc (.single ⟨by decide, rfl⟩) ⟨by decide, rfl⟩
  have htimer := (hkeyboard.snoc (show PicStep _ (.raise 0) _ from ⟨trivial, rfl⟩)).snoc
    (show PicStep _ (.acknowledge 0) _ from ⟨by decide, rfl⟩)
  have hended := htimer.snoc
    (show PicStep _ (.commandWrite .master 0x20) _ from ⟨by decide, rfl⟩)
  exact ⟨_, by decide, (pic_handlers_nest _ hended).1⟩

end Ntvdmex.Vdd.Pic
