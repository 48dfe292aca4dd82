import Ntvdmex.Vdd.Dma

/-!
# The walk of a channel and the transfers on it

A transfer is its units, one after another, and the registers after each of them are
given in closed form.
-/

namespace Ntvdmex.Vdd.Dma

open DmaChannel List Or Function UInt16

@[simp] theorem DmaState.setChannel_self (state : DmaState) (n : Fin 8) (channel : DmaChannel) :
    (state.setChannel n channel).channels n = channel := by
  exact update_self ..

@[simp] theorem DmaState.setChannel_of_ne (state : DmaState) {n other : Fin 8} (h : other ≠ n)
    (channel : DmaChannel) : (state.setChannel n channel).channels other = state.channels other := by
  exact update_of_ne h ..

/-! ## One channel -/

/-- An address `units` steps on, in the direction of the channel. -/
def DmaChannel.stepBy (channel : DmaChannel) (address : UInt16) (units : Nat) : UInt16 :=
  if channel.hasMode dmaModeDecrement then address - UInt16.ofNat units
  else address + UInt16.ofNat units

theorem uint16_ofNat_succ (i : Nat) : ofNat (i + 1) = ofNat i + 1 := by
  rw [ofNat_add]
  rfl

variable (channel : DmaChannel)

theorem DmaChannel.stepBy_zero (address : UInt16) : channel.stepBy address 0 = address := by
  unfold stepBy
  split <;> simp

theorem DmaChannel.stepBy_succ (address : UInt16) (units : Nat) :
    channel.stepBy address (units + 1) =
      channel.stepBy (if channel.hasMode dmaModeDecrement then address - 1 else address + 1)
        units := by
  unfold stepBy
  rw [uint16_ofNat_succ]
  split <;> grind

theorem DmaChannel.advance_of_pos {channel : DmaChannel} (h : channel.currentCount ≠ 0) :
    channel.advance =
      { channel with
        currentAddress := channel.stepAddress
        currentCount := channel.currentCount - 1 } := by
  exact if_neg h

theorem DmaChannel.advance_of_zero {channel : DmaChannel} (h : channel.currentCount = 0) :
    channel.advance = { channel with currentAddress := channel.stepAddress }.expire := by
  exact if_pos h

theorem DmaChannel.expire_mode : channel.expire.mode = channel.mode := by
  unfold expire
  split <;> rfl

theorem DmaChannel.expire_page : channel.expire.page = channel.page := by
  unfold expire
  split <;> rfl

@[simp] theorem DmaChannel.advance_mode : channel.advance.mode = channel.mode := by
  unfold advance
  split
  · exact expire_mode _
  · rfl

@[simp] theorem DmaChannel.advance_page : channel.advance.page = channel.page := by
  unfold advance
  split
  · exact expire_page _
  · rfl

/-- The channel after `units` units. -/
def DmaChannel.walk (channel : DmaChannel) (units : Nat) : DmaChannel :=
  DmaChannel.advance^[units] channel

theorem DmaChannel.walk_succ (units : Nat) :
    channel.walk (units + 1) = channel.advance.walk units := rfl

theorem DmaChannel.walk_succ' (units : Nat) :
    channel.walk (units + 1) = (channel.walk units).advance :=
  iterate_succ_apply' _ _ _

theorem DmaChannel.walk_add (first second : Nat) :
    channel.walk (first + second) = (channel.walk first).walk second := by
  unfold walk
  rw [Nat.add_comm, iterate_add_apply]

@[simp] theorem DmaChannel.walk_mode (units : Nat) : (channel.walk units).mode = channel.mode := by
  induction units with
  | zero => rfl
  | succ units ih => rw [walk_succ', advance_mode, ih]

@[simp] theorem DmaChannel.walk_page (units : Nat) : (channel.walk units).page = channel.page := by
  induction units with
  | zero => rfl
  | succ units ih => rw [walk_succ', advance_page, ih]

theorem DmaChannel.hasMode_eq {channel channel' : DmaChannel} (h : channel'.mode = channel.mode)
    (bits : UInt8) : channel'.hasMode bits = channel.hasMode bits := by
  unfold hasMode
  rw [h]

theorem toNat_ne_zero {count : UInt16} (h : count ≠ 0) : count.toNat ≠ 0 :=
  fun hzero => h (UInt16.toNat_inj.mp (hzero.trans UInt16.toNat_zero.symm))

theorem toNat_sub_one {count : UInt16} (h : count ≠ 0) : (count - 1).toNat = count.toNat - 1 := by
  have hle : (1 : UInt16) ≤ count :=
    le_iff_toNat_le.mpr (Nat.pos_of_ne_zero (toNat_ne_zero h))
  rw [UInt16.toNat_sub_of_le _ _ hle]
  rfl

theorem DmaChannel.advance_currentCount {channel : DmaChannel} (h : channel.currentCount ≠ 0) :
    channel.advance.currentCount.toNat = channel.currentCount.toNat - 1 := by
  rw [advance_of_pos h]
  exact toNat_sub_one h

theorem DmaChannel.walk_of_le {units : Nat} (h : units ≤ channel.currentCount.toNat) :
    (channel.walk units).currentAddress = channel.stepBy channel.currentAddress units ∧
      (channel.walk units).currentCount.toNat = channel.currentCount.toNat - units := by
  induction units generalizing channel with
  | zero => exact ⟨(channel.stepBy_zero _).symm, rfl⟩
  | succ units ih =>
    have hpos : channel.currentCount ≠ 0 := by
      intro hzero
      rw [hzero] at h
      exact absurd h (by simp)
    have hcount := toNat_sub_one hpos
    rw [walk_succ, advance_of_pos hpos]
    obtain ⟨haddress, hleft⟩ := ih
      { channel with
        currentAddress := channel.stepAddress
        currentCount := channel.currentCount - 1 } (by dsimp only; lia)
    refine ⟨?_, by rw [hleft]; dsimp only; lia⟩
    rw [haddress, channel.stepBy_succ]
    rfl

theorem DmaChannel.walk_reload (hauto : channel.hasMode dmaModeAutoinit = true) :
    channel.walk (channel.currentCount.toNat + 1) =
      { channel with
        isTerminalCount := true
        currentAddress := channel.baseAddress
        currentCount := channel.baseCount } := by
  generalize hcount : channel.currentCount.toNat = count
  induction count generalizing channel with
  | zero =>
    have hzero : channel.currentCount = 0 :=
      UInt16.toNat_inj.mp (hcount.trans UInt16.toNat_zero.symm)
    rw [walk_succ, advance_of_zero hzero]
    have hauto' : { channel with currentAddress := channel.stepAddress }.hasMode dmaModeAutoinit =
        true := hauto
    change expire _ = _
    unfold expire
    rw [if_pos hauto']
  | succ count ih =>
    have hpos : channel.currentCount ≠ 0 := by
      intro hzero
      rw [hzero] at hcount
      simp at hcount
    rw [walk_succ, advance_of_pos hpos]
    have hleft := toNat_sub_one hpos
    rw [ih { channel with
      currentAddress := channel.stepAddress
      currentCount := channel.currentCount - 1 } hauto (by dsimp only; lia)]

/-- The address a channel holds after `units` units: it walks to terminal count, and then
round its ring from the base. -/
def DmaChannel.walkAddress (channel : DmaChannel) (units : Nat) : UInt16 :=
  if units ≤ channel.currentCount.toNat then channel.stepBy channel.currentAddress units
  else
    channel.stepBy channel.baseAddress
      ((units - channel.currentCount.toNat - 1) % (channel.baseCount.toNat + 1))

theorem DmaChannel.walk_ring (hauto : channel.hasMode dmaModeAutoinit = true)
    (haddress : channel.currentAddress = channel.baseAddress)
    (hcount : channel.currentCount = channel.baseCount) (units : Nat) :
    (channel.walk units).currentAddress =
      channel.stepBy channel.baseAddress (units % (channel.baseCount.toNat + 1)) := by
  induction units using Nat.strong_induction_on generalizing channel with
  | _ units ih =>
    by_cases hle : units ≤ channel.currentCount.toNat
    · rw [(channel.walk_of_le hle).1, haddress, Nat.mod_eq_of_lt (by rw [← hcount]; omega)]
    · obtain ⟨rest, hunits⟩ : ∃ rest, units = channel.currentCount.toNat + 1 + rest :=
        ⟨units - (channel.currentCount.toNat + 1), by omega⟩
      rw [hunits, walk_add, channel.walk_reload hauto]
      have hring := ih rest (by omega)
        { channel with
          isTerminalCount := true
          currentAddress := channel.baseAddress
          currentCount := channel.baseCount } hauto rfl rfl
      rw [hring, hcount, Nat.add_mod_left]
      rfl

theorem DmaChannel.walk_currentAddress {units : Nat}
    (h : channel.hasMode dmaModeAutoinit = true ∨ units ≤ channel.currentCount.toNat) :
    (channel.walk units).currentAddress = channel.walkAddress units := by
  unfold walkAddress
  by_cases hle : units ≤ channel.currentCount.toNat
  · rw [if_pos hle]
    exact (channel.walk_of_le hle).1
  · have hauto : channel.hasMode dmaModeAutoinit = true := h.resolve_right hle
    obtain ⟨rest, hunits⟩ : ∃ rest, units = channel.currentCount.toNat + 1 + rest :=
      ⟨units - (channel.currentCount.toNat + 1), by omega⟩
    have hrest : units - channel.currentCount.toNat - 1 = rest := by omega
    rw [if_neg hle, hrest, hunits, walk_add, channel.walk_reload hauto]
    have hring := walk_ring
      { channel with
        isTerminalCount := true
        currentAddress := channel.baseAddress
        currentCount := channel.baseCount } hauto rfl rfl rest
    rw [hring]
    rfl

/-!
## A transfer is its units

How many units a device transfer moves, and what one unit after another does to the
registers and the memory.
-/

theorem unitBytes_pos (n : Fin 8) : 0 < unitBytes n := by
  unfold unitBytes
  split <;> decide

/-! ## The registers -/

variable (state : DmaState) (memory : LinearMemory) (linear : Nat)

theorem dmaAdvance_channel (n : Fin 8) :
    (dmaAdvance state n).1.channels n = (state.channels n).advance := by
  unfold dmaAdvance
  dsimp only
  split <;> exact DmaState.setChannel_self ..

theorem dmaAdvance_channel_ne {n other : Fin 8} (h : other ≠ n) :
    (dmaAdvance state n).1.channels other = state.channels other := by
  unfold dmaAdvance
  dsimp only
  split <;> exact DmaState.setChannel_of_ne _ h _

theorem dmaAdvance_command (n : Fin 8) : (dmaAdvance state n).1.command = state.command := by
  unfold dmaAdvance
  dsimp only
  split <;> rfl

theorem dmaAdvance_terminal (n : Fin 8) :
    (dmaAdvance state n).2 = true ↔ (state.channels n).currentCount = 0 := by
  unfold dmaAdvance
  dsimp only
  split
  · simp [*]
  · simp [*]

/-- The registers after `units` units of channel `n`. -/
def dmaWalk (n : Fin 8) (units : Nat) (state : DmaState) : DmaState :=
  (fun state => (dmaAdvance state n).1)^[units] state

theorem dmaWalk_succ (n : Fin 8) (units : Nat) (state : DmaState) :
    dmaWalk n (units + 1) state = dmaWalk n units (dmaAdvance state n).1 := rfl

theorem dmaWalk_channel (n : Fin 8) (units : Nat) (state : DmaState) :
    (dmaWalk n units state).channels n = (state.channels n).walk units := by
  induction units generalizing state with
  | zero => rfl
  | succ units ih => rw [dmaWalk_succ, ih, dmaAdvance_channel, walk_succ]

theorem dmaWalk_channel_ne {n other : Fin 8} (h : other ≠ n) (units : Nat) (state : DmaState) :
    (dmaWalk n units state).channels other = state.channels other := by
  induction units generalizing state with
  | zero => rfl
  | succ units ih => rw [dmaWalk_succ, ih, dmaAdvance_channel_ne state h]

theorem dmaWalk_command (n : Fin 8) (units : Nat) (state : DmaState) :
    (dmaWalk n units state).command = state.command := by
  induction units generalizing state with
  | zero => rfl
  | succ units ih => rw [dmaWalk_succ, ih, dmaAdvance_command]

theorem dmaWalk_add (n : Fin 8) (first second : Nat) (state : DmaState) :
    dmaWalk n (first + second) state = dmaWalk n second (dmaWalk n first state) := by
  unfold dmaWalk
  rw [Nat.add_comm, iterate_add_apply]

/-! ## The units of a transfer -/

/-- The units that move when `budget` units fit: a ring goes on, a single block stops at
its terminal count. -/
def DmaChannel.unitsWithin (channel : DmaChannel) (budget : Nat) : Nat :=
  if channel.hasMode dmaModeAutoinit then budget else min budget (channel.currentCount.toNat + 1)

def unitsMoved (state : DmaState) (n : Fin 8) (byteCount : Nat) : Nat :=
  if vddDmaGrants state n then (state.channels n).unitsWithin (byteCount / unitBytes n) else 0

section

variable (n : Fin 8) (source : Option (Nat → UInt8)) (progress : DmaProgress)

include n source progress

theorem dmaStep_state :
    (dmaStep n source progress).1.state = (dmaAdvance progress.state n).1 := rfl

theorem dmaStep_transferred :
    (dmaStep n source progress).1.transferred = progress.transferred + unitBytes n := rfl

theorem dmaStep_continues :
    (dmaStep n source progress).2 = true ↔
      (progress.state.channels n).currentCount ≠ 0 ∨
        (progress.state.channels n).hasMode dmaModeAutoinit = true := by
  have hmode : ((dmaAdvance progress.state n).1.channels n).hasMode dmaModeAutoinit =
      (progress.state.channels n).hasMode dmaModeAutoinit := by
    rw [dmaAdvance_channel]
    exact hasMode_eq (advance_mode _) _
  have hstep : (dmaStep n source progress).2 = !((dmaAdvance progress.state n).2 &&
      !(progress.state.channels n).hasMode dmaModeAutoinit) := by
    rw [← hmode]
    rfl
  have hterminal := dmaAdvance_terminal progress.state n
  rw [hstep]
  cases hadvance : (dmaAdvance progress.state n).2 <;>
    cases hauto : (progress.state.channels n).hasMode dmaModeAutoinit <;>
    simp_all

end

/-- `units` units, one after another. -/
def dmaUnits (n : Fin 8) (source : Option (Nat → UInt8)) (units : Nat)
    (progress : DmaProgress) : DmaProgress :=
  (fun progress => (dmaStep n source progress).1)^[units] progress

section

variable (n : Fin 8) (source : Option (Nat → UInt8)) (units : Nat) (progress : DmaProgress)

include n source units progress

theorem dmaUnits_succ :
    dmaUnits n source (units + 1) progress =
      dmaUnits n source units (dmaStep n source progress).1 := rfl

theorem dmaUnits_succ' :
    dmaUnits n source (units + 1) progress =
      (dmaStep n source (dmaUnits n source units progress)).1 :=
  iterate_succ_apply' _ _ _

theorem dmaUnits_state :
    (dmaUnits n source units progress).state = dmaWalk n units progress.state := by
  induction units generalizing progress with
  | zero => rfl
  | succ units ih => rw [dmaUnits_succ, ih, dmaStep_state, dmaWalk_succ]

theorem dmaUnits_transferred :
    (dmaUnits n source units progress).transferred =
      progress.transferred + units * unitBytes n := by
  induction units generalizing progress with
  | zero => simp [dmaUnits]
  | succ units ih => rw [dmaUnits_succ, ih, dmaStep_transferred, Nat.succ_mul]; omega

end

theorem unitsWithin_of_stop {channel : DmaChannel} {budget : Nat} (hbudget : 0 < budget)
    (hstop : ¬ (channel.currentCount ≠ 0 ∨ channel.hasMode dmaModeAutoinit = true)) :
    channel.unitsWithin budget = 1 := by
  obtain ⟨hzero, hauto⟩ := not_or.mp hstop
  have hcount : channel.currentCount = 0 := not_not.mp hzero
  unfold unitsWithin
  rw [if_neg hauto, hcount]
  simp
  omega

theorem unitsWithin_of_continue {channel : DmaChannel} {budget : Nat} (hbudget : 0 < budget)
    (hcontinue : channel.currentCount ≠ 0 ∨ channel.hasMode dmaModeAutoinit = true) :
    channel.unitsWithin budget = channel.advance.unitsWithin (budget - 1) + 1 := by
  unfold unitsWithin
  rw [hasMode_eq (advance_mode channel)]
  by_cases hauto : channel.hasMode dmaModeAutoinit = true
  · rw [if_pos hauto, if_pos hauto]
    lia
  · have hpos := hcontinue.resolve_right hauto
    have hnat := toNat_ne_zero hpos
    rw [if_neg hauto, if_neg hauto, advance_currentCount hpos]
    lia

theorem dmaTransferLoop_eq (n : Fin 8) (source : Option (Nat → UInt8)) (byteCount : Nat)
    (rounds : Nat) (progress : DmaProgress)
    (hrounds : byteCount < progress.transferred + (rounds + 1) * unitBytes n) :
    dmaTransferLoop n source byteCount rounds progress =
      dmaUnits n source ((progress.state.channels n).unitsWithin
        ((byteCount - progress.transferred) / unitBytes n)) progress := by
  have hunit := unitBytes_pos n
  induction rounds generalizing progress with
  | zero =>
    have hnone : (byteCount - progress.transferred) / unitBytes n = 0 :=
      Nat.div_eq_of_lt (by omega)
    rw [hnone]
    unfold unitsWithin
    split
    · rfl
    · rw [Nat.zero_min]
      rfl
  | succ rounds ih =>
    rw [dmaTransferLoop]
    by_cases hfits : progress.transferred + unitBytes n ≤ byteCount
    · rw [if_pos hfits]
      have hbudget : 0 < (byteCount - progress.transferred) / unitBytes n :=
        Nat.div_pos (by omega) hunit
      by_cases hcontinue : (progress.state.channels n).currentCount ≠ 0 ∨
          (progress.state.channels n).hasMode dmaModeAutoinit = true
      · have hsplit : (byteCount - progress.transferred) / unitBytes n - 1 =
            (byteCount - (progress.transferred + unitBytes n)) / unitBytes n := by
          rw [← Nat.sub_sub, ← Nat.sub_mul_div _ _ 1, Nat.mul_one]
        have hrest := ih (dmaStep n source progress).1 (by
          rw [dmaStep_transferred]
          rw [Nat.succ_mul] at hrounds
          omega)
        rw [if_pos ((dmaStep_continues n source progress).mpr hcontinue), hrest,
          unitsWithin_of_continue hbudget hcontinue, dmaStep_state, dmaAdvance_channel,
          dmaStep_transferred, hsplit, dmaUnits_succ]
      · have hstop : ¬ (dmaStep n source progress).2 = true :=
          fun h => hcontinue ((dmaStep_continues n source progress).mp h)
        rw [if_neg hstop, unitsWithin_of_stop hbudget hcontinue]
        rfl
    · have hnone : (byteCount - progress.transferred) / unitBytes n = 0 :=
        Nat.div_eq_of_lt (by omega)
      rw [if_neg hfits, hnone]
      unfold unitsWithin
      split
      · rfl
      · rw [Nat.zero_min]
        rfl

def transferStart (state : DmaState) (memory : LinearMemory) : DmaProgress where
  state
  memory
  destination := []
  transferred := 0
  isTerminalCount := false

theorem dmaTransfer_eq (n : Fin 8) (source : Option (Nat → UInt8)) (byteCount : Nat) :
    dmaTransfer state memory n source byteCount =
      dmaUnits n source (unitsMoved state n byteCount) (transferStart state memory) := by
  unfold dmaTransfer unitsMoved
  by_cases hgrants : vddDmaGrants state n = true
  · rw [if_pos hgrants, if_pos hgrants]
    have hunit := unitBytes_pos n
    refine (dmaTransferLoop_eq n source byteCount byteCount (transferStart state memory) ?_).trans ?_
    · have hmul := Nat.mul_le_mul_left (byteCount + 1) (Nat.succ_le_of_lt hunit)
      omega
    · rfl
  · rw [if_neg hgrants, if_neg hgrants]
    rfl

/-! ## The memory -/

theorem mem_block_succ (count address : Nat) : address ∈ linear :: memory.touched ∨
        linear + 1 ≤ address ∧ address < linear + 1 + count ↔
      address ∈ memory.touched ∨ linear ≤ address ∧ address < linear + (count + 1) := by
  rw [mem_cons]
  constructor
  · rintro ((rfl | h) | h)
    · exact inr ⟨Nat.le_refl _, by lia⟩
    · exact inl h
    · exact inr ⟨by lia, by lia⟩
  · rintro (h | h)
    · exact inl (inr h)
    · by_cases heq : address = linear
      · exact inl (inl heq)
      · exact inr ⟨by lia, by lia⟩

theorem mem_block_zero (address : Nat) : address ∈ memory.touched ↔
      address ∈ memory.touched ∨ linear ≤ address ∧ address < linear + 0 := by
  constructor
  · exact inl
  · rintro (h | h)
    · exact h
    · omega

theorem loadBytes_touched (count address : Nat) :
    address ∈ (loadBytes memory linear count).2.touched ↔
      address ∈ memory.touched ∨ linear ≤ address ∧ address < linear + count := by
  induction count generalizing memory linear with
  | zero => exact mem_block_zero memory linear address
  | succ count ih =>
    rw [← mem_block_succ]
    exact ih (memory.load linear).2 (linear + 1)

theorem storeBytes_touched (source : Nat → UInt8) (count address : Nat) :
    address ∈ (storeBytes memory linear source count).touched ↔
      address ∈ memory.touched ∨ linear ≤ address ∧ address < linear + count := by
  induction count generalizing memory linear source with
  | zero => exact mem_block_zero memory linear address
  | succ count ih =>
    rw [← mem_block_succ]
    exact ih (memory.store linear (source 0)) (linear + 1) fun i => source (i + 1)

theorem dmaStep_touched (n : Fin 8) (source : Option (Nat → UInt8)) (progress : DmaProgress)
    (address : Nat) :
    address ∈ (dmaStep n source progress).1.memory.touched ↔
      address ∈ progress.memory.touched ∨
        vddDmaCurrentPhysical progress.state n ≤ address ∧
          address < vddDmaCurrentPhysical progress.state n + unitBytes n := by
  cases source with
  | none => exact loadBytes_touched ..
  | some source => exact storeBytes_touched ..

theorem dmaUnits_touched (n : Fin 8) (source : Option (Nat → UInt8)) (units : Nat)
    (progress : DmaProgress) (address : Nat) :
    address ∈ (dmaUnits n source units progress).memory.touched ↔
      address ∈ progress.memory.touched ∨ ∃ i < units,
        vddDmaCurrentPhysical (dmaWalk n i progress.state) n ≤ address ∧
          address < vddDmaCurrentPhysical (dmaWalk n i progress.state) n + unitBytes n := by
  induction units with
  | zero => simp [dmaUnits]
  | succ units ih =>
    rw [dmaUnits_succ', dmaStep_touched, ih, dmaUnits_state]
    constructor
    · rintro ((h | ⟨i, hi, h⟩) | h)
      · exact inl h
      · exact inr ⟨i, by omega, h⟩
      · exact inr ⟨units, by omega, h⟩
    · rintro (h | ⟨i, hi, h⟩)
      · exact inl (inl h)
      · rcases Nat.lt_succ_iff_lt_or_eq.mp hi with hlt | rfl
        · exact inl (inr ⟨i, hlt, h⟩)
        · exact inr h

/-!
## A byte channel as a stream

What a byte channel supplies to a device, what it delivers to memory, and when its
terminal count falls.
-/

/-- The next `count` bytes channel `n` supplies. -/
def supply (n : Fin 8) (bytes : Nat → UInt8) : Nat → DmaState → List UInt8
  | 0, _ => []
  | count + 1, state =>
    bytes (vddDmaCurrentPhysical state n) :: supply n bytes count (dmaAdvance state n).1

/-- The memory after channel `n` has stored `values`. -/
def deliver (n : Fin 8) : List UInt8 → DmaState → LinearMemory → LinearMemory
  | [], _, memory => memory
  | value :: values, state, memory =>
    deliver n values (dmaAdvance state n).1
      (memory.store (vddDmaCurrentPhysical state n) value)

@[simp] theorem length_supply (n : Fin 8) (bytes : Nat → UInt8) (count : Nat) (state : DmaState) :
    (supply n bytes count state).length = count := by
  induction count generalizing state with
  | zero => rfl
  | succ count ih => rw [supply, length_cons, ih]

/-- Byte `k` of what channel `n` supplies. -/
def streamByte (n : Fin 8) (bytes : Nat → UInt8) (state : DmaState) (k : Nat) : UInt8 :=
  bytes (vddDmaCurrentPhysical (dmaWalk n k state) n)

theorem streamByte_walk (n : Fin 8) (bytes : Nat → UInt8) (first k : Nat) (state : DmaState) :
    streamByte n bytes (dmaWalk n first state) k = streamByte n bytes state (first + k) := by
  unfold streamByte
  rw [dmaWalk_add]

theorem supply_getElem? (n : Fin 8) (bytes : Nat → UInt8) {count k : Nat} (h : k < count)
    (state : DmaState) : (supply n bytes count state)[k]? = some (streamByte n bytes state k) := by
  induction count generalizing state k with
  | zero => exact absurd h (Nat.not_lt_zero _)
  | succ count ih =>
    rw [supply]
    cases k with
    | zero => rfl
    | succ k =>
      rw [getElem?_cons_succ, ih (by omega)]
      rfl

theorem deliver_append (n : Fin 8) (first second : List UInt8) (state : DmaState)
    (memory : LinearMemory) :
    deliver n (first ++ second) state memory =
      deliver n second (dmaWalk n first.length state) (deliver n first state memory) := by
  induction first generalizing state memory with
  | nil => rfl
  | cons value first ih => rw [cons_append, deliver, ih, deliver, length_cons, dmaWalk_succ]

variable {n : Fin 8}

theorem unitBytes_of_byteChannel (h : IsByteChannel n) : unitBytes n = 1 := if_pos h

theorem dmaUnits_isTerminalCount (source : Option (Nat → UInt8)) (units : Nat)
    (progress : DmaProgress) :
    (dmaUnits n source units progress).isTerminalCount = true ↔
      progress.isTerminalCount = true ∨
        (progress.state.channels n).currentCount.toNat < units := by
  induction units generalizing progress with
  | zero => simp [dmaUnits]
  | succ units ih =>
    have hstep : (dmaStep n source progress).1.isTerminalCount =
        (progress.isTerminalCount || (dmaAdvance progress.state n).2) := rfl
    rw [dmaUnits_succ, ih, hstep, dmaStep_state, dmaAdvance_channel, Bool.or_eq_true,
      dmaAdvance_terminal]
    by_cases hzero : (progress.state.channels n).currentCount = 0
    · simp [hzero]
    · have hpos := toNat_ne_zero hzero
      rw [advance_currentCount hzero]
      constructor
      · rintro ((h | h) | h)
        · exact inl h
        · exact absurd h hzero
        · right
          omega
      · rintro (h | h)
        · exact inl (inl h)
        · right
          omega

section

variable (h : IsByteChannel n)

include h

theorem dmaUnits_supply (units : Nat) (progress : DmaProgress) :
    (dmaUnits n none units progress).destination =
        progress.destination ++ supply n progress.memory.bytes units progress.state ∧
      (dmaUnits n none units progress).memory.bytes = progress.memory.bytes := by
  induction units generalizing progress with
  | zero => exact ⟨(append_nil _).symm, rfl⟩
  | succ units ih =>
    have hload : loadBytes progress.memory (vddDmaCurrentPhysical progress.state n) (unitBytes n) =
        ([progress.memory.bytes (vddDmaCurrentPhysical progress.state n)],
          (progress.memory.load (vddDmaCurrentPhysical progress.state n)).2) := by
      rw [unitBytes_of_byteChannel h]
      rfl
    have hdestination : (dmaStep n none progress).1.destination = progress.destination ++
        [progress.memory.bytes (vddDmaCurrentPhysical progress.state n)] := by
      change progress.destination ++ (loadBytes _ _ _).1 = _
      rw [hload]
    have hbytes : (dmaStep n none progress).1.memory.bytes = progress.memory.bytes := by
      change (loadBytes _ _ _).2.bytes = _
      rw [hload]
      rfl
    obtain ⟨hrest, hmemory⟩ := ih (dmaStep n none progress).1
    rw [dmaUnits_succ]
    refine ⟨?_, hmemory.trans hbytes⟩
    rw [hrest, hdestination, hbytes, dmaStep_state, supply, append_assoc]
    rfl

theorem dmaUnits_deliver (source : Nat → UInt8) (units : Nat)
    (progress : DmaProgress) :
    (dmaUnits n (some source) units progress).memory =
      deliver n ((range units).map fun i => source (progress.transferred + i))
        progress.state progress.memory := by
  induction units generalizing progress with
  | zero => rfl
  | succ units ih =>
    have hmemory : (dmaStep n (some source) progress).1.memory =
        progress.memory.store (vddDmaCurrentPhysical progress.state n)
          (source progress.transferred) := by
      change storeBytes _ _ _ (unitBytes n) = _
      rw [unitBytes_of_byteChannel h]
      rfl
    rw [dmaUnits_succ, ih, hmemory, dmaStep_state, dmaStep_transferred,
      unitBytes_of_byteChannel h, range_succ_eq_map, map_cons, map_map, deliver]
    have hshift : (fun i => source (progress.transferred + 1 + i)) =
        (fun i => source (progress.transferred + i)) ∘ Nat.succ := by
      funext i
      exact congrArg source (by omega)
    rw [hshift]
    rfl

theorem vddDmaRead_spec (state : DmaState) (memory : LinearMemory)
    (byteCount : Nat) :
    let units := unitsMoved state n byteCount
    let progress := vddDmaRead state memory n byteCount
    progress.transferred = units ∧ progress.state = dmaWalk n units state ∧
      progress.destination = supply n memory.bytes units state ∧
      progress.memory.bytes = memory.bytes ∧
      (progress.isTerminalCount = true ↔ (state.channels n).currentCount.toNat < units) := by
  unfold vddDmaRead
  rw [dmaTransfer_eq]
  refine ⟨?_, dmaUnits_state .., ?_, (dmaUnits_supply h _ _).2, ?_⟩
  · rw [dmaUnits_transferred, unitBytes_of_byteChannel h, Nat.mul_one]
    exact Nat.zero_add _
  · rw [(dmaUnits_supply h _ _).1]
    rfl
  · rw [dmaUnits_isTerminalCount]
    exact or_iff_right (by simp [transferStart])

theorem vddDmaWrite_spec (state : DmaState) (memory : LinearMemory)
    (source : Nat → UInt8) (byteCount : Nat) :
    let units := unitsMoved state n byteCount
    let progress := vddDmaWrite state memory n source byteCount
    progress.transferred = units ∧ progress.state = dmaWalk n units state ∧
      progress.memory = deliver n ((range units).map source) state memory ∧
      (progress.isTerminalCount = true ↔ (state.channels n).currentCount.toNat < units) := by
  unfold vddDmaWrite
  rw [dmaTransfer_eq]
  refine ⟨?_, dmaUnits_state .., ?_, ?_⟩
  · rw [dmaUnits_transferred, unitBytes_of_byteChannel h, Nat.mul_one]
    exact Nat.zero_add _
  · rw [dmaUnits_deliver h]
    have hzero : (fun i => source ((transferStart state memory).transferred + i)) = source := by
      funext i
      exact congrArg source (Nat.zero_add i)
    rw [hzero]
    rfl
  · rw [dmaUnits_isTerminalCount]
    exact or_iff_right (by simp [transferStart])

theorem vddDmaGrants_walk {units : Nat} {state : DmaState}
    (hunits : units ≤ (state.channels n).currentCount.toNat) :
    vddDmaGrants (dmaWalk n units state) n = vddDmaGrants state n := by
  have hne : dmaCascadeChannel ≠ n := by
    rintro rfl
    exact absurd h (by decide)
  have hmasked : ((dmaWalk n units state).channels n).isMasked = (state.channels n).isMasked := by
    rw [dmaWalk_channel]
    induction units with
    | zero => rfl
    | succ units ih =>
      rw [walk_succ', advance_of_pos, ih (by lia)]
      intro hzero
      have hcount := ((state.channels n).walk_of_le (by lia : units ≤ _)).2
      rw [hzero] at hcount
      have : (0 : UInt16).toNat = 0 := rfl
      lia
  unfold vddDmaGrants dmaControllerGrants dmaIsCascadeUp
  rw [hmasked, dmaWalk_channel_ne hne, dmaWalk_command]

end

end Ntvdmex.Vdd.Dma
