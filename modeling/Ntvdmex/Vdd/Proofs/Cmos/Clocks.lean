import Ntvdmex.Vdd.Cmos

/-!
# The clocks of one call

How many seconds and periodic ticks a call makes due, which flags they set and how often the
interrupt is raised.
-/

namespace Ntvdmex.Vdd.Cmos

open CmosState UInt64 Nat

section Host

variable {σ : Type} (hooks : RtcHooks σ) (host : σ)

/-! ## What is due -/

/-- The update-ended flag comes with each second. -/
def CmosState.hasUpdate (state : CmosState) : Bool := !state.isSetHeld && state.hasB cmosBUie

/-- The alarm flag comes with a second that ends now. -/
def hasAlarm (state : CmosState) : Bool :=
  !state.isSetHeld && (state.hasB cmosBAie && cmosAlarmMatches hooks host state)

def secondFlags (state : CmosState) : UInt8 :=
  (if state.hasUpdate then cmosCUf else 0) |||
    (if hasAlarm hooks host state then cmosCAf else 0) |||
    if state.hasUpdate || hasAlarm hooks host state then cmosCIrqf else 0

def secondsDue (state : CmosState) (clocks : UInt32) : Nat :=
  if state.hasB cmosBUieOrAie then
    min cmosSecondEdgeGuard ((state.secondAccumulator + clocks.toUInt64).toNat / pitInputHz)
  else 0

def periodicPeriod (state : CmosState) : Nat := pitInputHz / vddCmosPeriodicHz state

def ticksDue (state : CmosState) (clocks : UInt32) : Nat :=
  if state.hasB cmosBPie ∧ vddCmosPeriodicHz state ≠ 0 then
    min cmosPeriodicGuard
      ((state.periodicAccumulator + clocks.toUInt64).toNat / periodicPeriod state)
  else 0

def interruptsDue (state : CmosState) (clocks : UInt32) : Nat :=
  (if state.hasUpdate || hasAlarm hooks host state then secondsDue state clocks else 0) +
    ticksDue state clocks

def causesDue (state : CmosState) (clocks : UInt32) : UInt8 :=
  (if state.hasUpdate ∧ 0 < secondsDue state clocks then cmosCUf else 0) |||
    (if hasAlarm hooks host state ∧ 0 < secondsDue state clocks then cmosCAf else 0) |||
    if 0 < ticksDue state clocks then cmosCPf else 0

/-! ## Seconds -/

/-- The registers after `k` second edges. -/
def CmosState.seconds (state : CmosState) (k : Nat) : CmosState :=
  { state with
    secondAccumulator := state.secondAccumulator - UInt64.ofNat (k * pitInputHz)
    statusC := if k = 0 then state.statusC else state.statusC ||| secondFlags hooks host state
    updateEndedRaised := state.updateEndedRaised + if state.hasUpdate then k else 0
    alarmRaised := state.alarmRaised + if hasAlarm hooks host state then k else 0
    irqs := state.irqs +
      if state.isOnBus && (state.hasUpdate || hasAlarm hooks host state) then k else 0 }

variable (state : CmosState) (period : Nat) (clocks : UInt32)

theorem CmosState.seconds_zero : state.seconds hooks host 0 = state := by
  unfold seconds
  have hzero : state.secondAccumulator - ofNat (0 * pitInputHz) =
      state.secondAccumulator := by
    rw [Nat.zero_mul]
    exact UInt64.sub_zero _
  rw [hzero]
  simp only [ite_self, if_pos, Nat.add_zero]

theorem cmosAlarmMatches_congr {state state' : CmosState} (hram : state'.ram = state.ram)
    (hstatusB : state'.statusB = state.statusB) (hheld : state'.isSetHeld = state.isSetHeld)
    (hshadow : state'.shadow = state.shadow) :
    cmosAlarmMatches hooks host state' = cmosAlarmMatches hooks host state := by
  unfold cmosAlarmMatches cmosClockRegister cmosReading cmosHoursValue cmosClockValue hasB
  rw [hram, hstatusB, hheld, hshadow]

/-- The flags and the counters of one edge. -/
def CmosState.edged (state : CmosState) : CmosState :=
  { state with
    statusC := state.statusC ||| (if state.hasUpdate then cmosCUf else 0) |||
      if hasAlarm hooks host state then cmosCAf else 0
    updateEndedRaised := state.updateEndedRaised + if state.hasUpdate then 1 else 0
    alarmRaised := state.alarmRaised + if hasAlarm hooks host state then 1 else 0 }

theorem cmosSecondEdge_eq : cmosSecondEdge hooks host state =
      (state.edged hooks host, state.hasUpdate || hasAlarm hooks host state) := by
  unfold cmosSecondEdge edged
  by_cases hheld : state.isSetHeld = true
  · have hupdate : state.hasUpdate = false := by
      unfold hasUpdate
      rw [hheld]
      rfl
    have halarm : hasAlarm hooks host state = false := by
      unfold hasAlarm
      rw [hheld]
      rfl
    rw [if_pos hheld, hupdate, halarm]
    simp
  · have hfree : state.isSetHeld = false := Bool.eq_false_of_not_eq_true hheld
    have hupdate : state.hasUpdate = state.hasB cmosBUie := by
      unfold hasUpdate
      rw [hfree]
      rfl
    have halarm : hasAlarm hooks host state =
        (state.hasB cmosBAie && cmosAlarmMatches hooks host state) := by
      unfold hasAlarm
      rw [hfree]
      rfl
    have hupdated : ∀ state' : CmosState, state'.ram = state.ram → state'.statusB = state.statusB →
        state'.isSetHeld = state.isSetHeld → state'.shadow = state.shadow →
        (state'.hasB cmosBAie && cmosAlarmMatches hooks host state') =
          hasAlarm hooks host state := by
      intro state' hram hstatusB hheld' hshadow
      have hbit : state'.hasB cmosBAie = state.hasB cmosBAie := by
        unfold hasB
        rw [hstatusB]
      rw [halarm, hbit, cmosAlarmMatches_congr hooks host hram hstatusB hheld' hshadow]
    rw [if_neg hheld, hupdate]
    by_cases hbit : state.hasB cmosBUie = true
    · rw [if_pos hbit, hbit]
      by_cases hmatch : hasAlarm hooks host state = true
      · refine (if_pos ?_).trans ?_
        · rw [← hmatch]
          exact hupdated _ rfl rfl rfl rfl
        · rw [hmatch]
          simp
      · refine (if_neg ?_).trans ?_
        · refine fun h => hmatch ?_
          rw [← h]
          exact (hupdated _ rfl rfl rfl rfl).symm
        · rw [Bool.eq_false_of_not_eq_true hmatch]
          simp
    · rw [if_neg hbit, Bool.eq_false_of_not_eq_true hbit]
      by_cases hmatch : hasAlarm hooks host state = true
      · refine (if_pos ?_).trans ?_
        · rw [← hmatch]
          exact hupdated _ rfl rfl rfl rfl
        · rw [hmatch]
          simp
      · refine (if_neg ?_).trans ?_
        · refine fun h => hmatch ?_
          rw [← h]
          exact (hupdated _ rfl rfl rfl rfl).symm
        · rw [Bool.eq_false_of_not_eq_true hmatch]
          simp

theorem sub_succ_mul (accumulator : UInt64) (period k : Nat) :
    accumulator - ofNat (k * period) - ofNat period =
      accumulator - ofNat ((k + 1) * period) := by
  rw [succ_mul, ofNat_add]
  grind

theorem hasAlarm_congr {state state' : CmosState} (hram : state'.ram = state.ram)
    (hstatusB : state'.statusB = state.statusB) (hheld : state'.isSetHeld = state.isSetHeld)
    (hshadow : state'.shadow = state.shadow) :
    hasAlarm hooks host state' = hasAlarm hooks host state := by
  have hmatches := cmosAlarmMatches_congr hooks host hram hstatusB hheld hshadow
  unfold hasAlarm hasB
  rw [hmatches, hstatusB, hheld]

def secondRound (state : CmosState) : CmosState :=
  let taken :=
    { state with secondAccumulator := state.secondAccumulator - UInt64.ofNat pitInputHz }
  let (edged, hasFired) := cmosSecondEdge hooks host taken
  if hasFired then { edged with statusC := edged.statusC ||| cmosCIrqf }.raiseIrq else edged

theorem cmosSecondLoop_succ (rounds : Nat) (state : CmosState) :
    cmosSecondLoop hooks host (rounds + 1) state =
      if pitInputHz ≤ state.secondAccumulator.toNat then
        cmosSecondLoop hooks host rounds (secondRound hooks host state)
      else state := rfl

theorem seconds_round (k : Nat) :
    secondRound hooks host (state.seconds hooks host k) = state.seconds hooks host (k + 1) := by
  have halarm : ∀ accumulator : UInt64,
      hasAlarm hooks host { state.seconds hooks host k with secondAccumulator := accumulator } =
        hasAlarm hooks host state := fun _ => hasAlarm_congr hooks host rfl rfl rfl rfl
  have hupdate : ∀ accumulator : UInt64,
      ({ state.seconds hooks host k with secondAccumulator := accumulator } :
        CmosState).hasUpdate = state.hasUpdate := fun _ => rfl
  unfold secondRound
  dsimp only
  rw [cmosSecondEdge_eq]
  unfold edged
  dsimp only
  rw [halarm, hupdate]
  generalize hu : state.hasUpdate = update
  generalize ha : hasAlarm hooks host state = alarm
  have hflags : ∀ flags : UInt8, (if k = 0 then state.statusC else state.statusC ||| flags) |||
      flags = state.statusC ||| flags := by
    intro flags
    split
    · rfl
    · rw [UInt8.or_assoc, UInt8.or_self]
  unfold seconds raiseIrq secondFlags
  dsimp only
  rw [sub_succ_mul, hu, ha]
  have hirqs : (if state.isOnBus = true then
        state.irqs + ((if state.isOnBus = true then k else 0) + 1)
      else state.irqs + if state.isOnBus = true then k else 0) =
      state.irqs + if state.isOnBus = true then k + 1 else 0 := by
    by_cases hbus : state.isOnBus = true
    · simp only [if_pos hbus]
    · simp only [if_neg hbus]
  cases update <;> cases alarm <;> simp only [Bool.or_false, Bool.or_true,
    Bool.and_false, Bool.and_true, if_true, if_false, Bool.false_eq_true, UInt8.or_zero,
    UInt8.zero_or, Nat.add_zero, ite_self, succ_ne_zero, UInt8.or_assoc, hflags, hirqs,
    Nat.add_assoc]

theorem toNat_sub_mul {accumulator : UInt64} {k : Nat} (h : k * period ≤ accumulator.toNat) :
    (accumulator - UInt64.ofNat (k * period)).toNat = accumulator.toNat - k * period := by
  have hlt := accumulator.toNat_lt
  have hvalue : (ofNat (k * period)).toNat = k * period :=
    toNat_ofNat_of_lt' (Nat.lt_of_le_of_lt h hlt)
  rw [UInt64.toNat_sub_of_le, hvalue]
  rw [le_iff_toNat_le, hvalue]
  exact h

/-- A loop of so many rounds at most, each of which takes one period off an accumulator. -/
theorem drain_eq {α : Type} {loop : Nat → α → α} {after : Nat → α} {total : Nat}
    (hperiod : 0 < period) (hnone : ∀ k, loop 0 (after k) = after k)
    (hround : ∀ rounds k, k * period ≤ total → loop (rounds + 1) (after k) =
      if period ≤ total - k * period then loop rounds (after (k + 1)) else after k)
    (rounds k : Nat) (h : k * period ≤ total) :
    loop rounds (after k) = after (k + min rounds ((total - k * period) / period)) := by
  induction rounds generalizing k with
  | zero => rw [Nat.zero_min, hnone, Nat.add_zero]
  | succ rounds ih =>
    rw [hround rounds k h]
    by_cases hmore : period ≤ total - k * period
    · have hnext : (k + 1) * period ≤ total := by
        rw [succ_mul]
        omega
      have hdiv : (total - k * period) / period = (total - (k + 1) * period) / period + 1 := by
        rw [succ_mul, ← Nat.sub_sub, div_eq_sub_div hperiod hmore]
      rw [if_pos hmore, ih _ hnext, hdiv, succ_min_succ]
      congr 1
      omega
    · rw [if_neg hmore, div_eq_of_lt (by omega), Nat.min_zero, Nat.add_zero]

theorem cmosSecondLoop_seconds (rounds : Nat) (state : CmosState) (k : Nat)
    (h : k * pitInputHz ≤ state.secondAccumulator.toNat) :
    cmosSecondLoop hooks host rounds (state.seconds hooks host k) =
      state.seconds hooks host
        (k + min rounds ((state.secondAccumulator.toNat - k * pitInputHz) / pitInputHz)) := by
  refine drain_eq _ (by decide) (fun _ => rfl) (fun rounds k h => ?_) rounds k h
  have hleft : (state.seconds hooks host k).secondAccumulator.toNat =
      state.secondAccumulator.toNat - k * pitInputHz := toNat_sub_mul _ h
  rw [cmosSecondLoop_succ, hleft, seconds_round]

theorem cmosAddSeconds_eq : cmosAddSeconds hooks host state clocks =
      ({ state with
        secondAccumulator :=
          if state.hasB cmosBUieOrAie then state.secondAccumulator + clocks.toUInt64 else 0 } :
        CmosState).seconds hooks host (secondsDue state clocks) := by
  unfold cmosAddSeconds secondsDue
  by_cases hbits : state.hasB cmosBUieOrAie = true
  · rw [if_pos hbits, if_pos hbits, if_pos hbits]
    have hloop := cmosSecondLoop_seconds hooks host cmosSecondEdgeGuard
      { state with secondAccumulator := state.secondAccumulator + clocks.toUInt64 } 0
      (by rw [Nat.zero_mul]; exact Nat.zero_le _)
    rwa [seconds_zero, Nat.zero_add, Nat.zero_mul, Nat.sub_zero] at hloop
  · rw [if_neg hbits, if_neg hbits, if_neg hbits, seconds_zero]

/-! ## Ticks -/

/-- The registers after `k` periodic ticks. -/
def CmosState.ticks (state : CmosState) (period k : Nat) : CmosState :=
  { state with
    periodicAccumulator := state.periodicAccumulator - UInt64.ofNat (k * period)
    statusC := if k = 0 then state.statusC else state.statusC ||| cmosCPfAndIrqf
    periodicRaised := state.periodicRaised + k
    irqs := state.irqs + if state.isOnBus then k else 0 }

theorem CmosState.ticks_zero : state.ticks period 0 = state := by
  unfold ticks
  have hzero : state.periodicAccumulator - ofNat (0 * period) =
      state.periodicAccumulator := by
    rw [Nat.zero_mul]
    exact UInt64.sub_zero _
  rw [hzero]
  simp only [ite_self, if_pos, Nat.add_zero]

theorem ticks_round (k : Nat) : ({ state.ticks period k with
      periodicAccumulator := (state.ticks period k).periodicAccumulator - ofNat period
      statusC := (state.ticks period k).statusC ||| cmosCPfAndIrqf
      periodicRaised := (state.ticks period k).periodicRaised + 1 } : CmosState).raiseIrq =
      state.ticks period (k + 1) := by
  have hflags : (if k = 0 then state.statusC else state.statusC ||| cmosCPfAndIrqf) |||
      cmosCPfAndIrqf = state.statusC ||| cmosCPfAndIrqf := by
    split
    · rfl
    · rw [UInt8.or_assoc, UInt8.or_self]
  have hirqs : (if state.isOnBus = true then
        (state.irqs + if state.isOnBus = true then k else 0) + 1
      else state.irqs + if state.isOnBus = true then k else 0) =
      state.irqs + if state.isOnBus = true then k + 1 else 0 := by
    by_cases hbus : state.isOnBus = true
    · simp only [if_pos hbus, Nat.add_assoc]
    · simp only [if_neg hbus]
  unfold raiseIrq ticks
  dsimp only
  rw [sub_succ_mul, hflags, hirqs, if_neg (succ_ne_zero k), Nat.add_assoc]

theorem cmosPeriodicLoop_ticks {period : Nat} (hperiod : 0 < period) (rounds : Nat)
    (state : CmosState) (k : Nat) (h : k * period ≤ state.periodicAccumulator.toNat) :
    cmosPeriodicLoop period rounds (state.ticks period k) =
      state.ticks period
        (k + min rounds ((state.periodicAccumulator.toNat - k * period) / period)) := by
  refine drain_eq _ hperiod (fun _ => rfl) (fun rounds k h => ?_) rounds k h
  have hleft : (state.ticks period k).periodicAccumulator.toNat =
      state.periodicAccumulator.toNat - k * period := toNat_sub_mul _ h
  rw [cmosPeriodicLoop, hleft, ticks_round]

theorem vddCmosPeriodicHz_le : vddCmosPeriodicHz state ≤ pitInputHz := by
  unfold vddCmosPeriodicHz
  dsimp only
  split_ifs with hnone h256 h128
  · exact Nat.zero_le _
  · decide
  · decide
  · exact (shiftRight_le _ _).trans (by decide)

theorem periodicPeriod_pos {state : CmosState} (h : vddCmosPeriodicHz state ≠ 0) :
    0 < periodicPeriod state :=
  Nat.div_pos (vddCmosPeriodicHz_le state) (Nat.pos_of_ne_zero h)

theorem cmosAddTicks_eq : cmosAddTicks state clocks =
      ({ state with
        periodicAccumulator :=
          if state.hasB cmosBPie ∧ vddCmosPeriodicHz state ≠ 0 then
            state.periodicAccumulator + clocks.toUInt64
          else 0 } : CmosState).ticks (periodicPeriod state) (ticksDue state clocks) := by
  unfold cmosAddTicks ticksDue
  by_cases hpie : state.hasB cmosBPie = true
  · rw [if_neg (by rw [hpie]; decide)]
    by_cases hrate : vddCmosPeriodicHz state = 0
    · rw [if_pos hrate, if_neg fun h => h.2 hrate, if_neg fun h => h.2 hrate,
        ticks_zero]
    · have hperiod := periodicPeriod_pos hrate
      have hnonzero : ¬pitInputHz / vddCmosPeriodicHz state = 0 := Nat.pos_iff_ne_zero.mp hperiod
      have hticks : state.hasB cmosBPie = true ∧ vddCmosPeriodicHz state ≠ 0 := ⟨hpie, hrate⟩
      rw [if_neg hrate, if_pos hticks, if_pos hticks]
      dsimp only
      rw [if_neg hnonzero]
      have hloop := cmosPeriodicLoop_ticks hperiod cmosPeriodicGuard
        { state with periodicAccumulator := state.periodicAccumulator + clocks.toUInt64 } 0
        (by rw [Nat.zero_mul]; exact Nat.zero_le _)
      rwa [ticks_zero, Nat.zero_add, Nat.zero_mul, Nat.sub_zero] at hloop
  · rw [if_pos (Bool.eq_false_of_not_eq_true hpie), if_neg fun h => hpie h.1,
      if_neg fun h => hpie h.1, ticks_zero]

theorem vddCmosAddClocks_eq : vddCmosAddClocks hooks host state clocks =
      cmosAddTicks (cmosAddSeconds hooks host state clocks) clocks := rfl

/-- What a call of `VddCmosAddClocks` changes that others see. -/
structure ClocksAdded (state : CmosState) (clocks : UInt32) (after : CmosState) : Prop where
  irqs : after.irqs =
    state.irqs + if state.isOnBus then interruptsDue hooks host state clocks else 0
  statusC : after.statusC = state.statusC ||| causesDue hooks host state clocks |||
    if 0 < interruptsDue hooks host state clocks then cmosCIrqf else 0
  alarmRaised : after.alarmRaised =
    state.alarmRaised + if hasAlarm hooks host state then secondsDue state clocks else 0
  secondAccumulator : after.secondAccumulator =
    if state.hasB cmosBUieOrAie then
      state.secondAccumulator + clocks.toUInt64 -
        UInt64.ofNat (secondsDue state clocks * pitInputHz)
    else 0
  isOnBus : after.isOnBus = state.isOnBus
  index : after.index = state.index
  ram : after.ram = state.ram
  statusB : after.statusB = state.statusB
  isSetHeld : after.isSetHeld = state.isSetHeld
  shadow : after.shadow = state.shadow

/-- The flags of a call's seconds and ticks, as its causes and IRQF. -/
theorem call_flags (flags : UInt8) (update alarm : Bool) (seconds ticks : Nat) :
    (let edged :=
        if seconds = 0 then flags
        else flags ||| ((if update then cmosCUf else 0) ||| (if alarm then cmosCAf else 0) |||
          if update || alarm then cmosCIrqf else 0)
      if ticks = 0 then edged else edged ||| cmosCPfAndIrqf) =
      flags ||| ((if update = true ∧ 0 < seconds then cmosCUf else 0) |||
          (if alarm = true ∧ 0 < seconds then cmosCAf else 0) |||
          if 0 < ticks then cmosCPf else 0) |||
        if 0 < (if update || alarm then seconds else 0) + ticks then cmosCIrqf else 0 := by
  cases seconds with
  | zero =>
    cases ticks with
    | zero => cases update <;> cases alarm <;> simp
    | succ ticks =>
      have hflags : cmosCPfAndIrqf = cmosCPf ||| cmosCIrqf := by decide
      cases update <;> cases alarm <;> simp [hflags, UInt8.or_assoc]
  | succ seconds =>
    cases ticks with
    | zero => cases update <;> cases alarm <;> simp [UInt8.or_assoc]
    | succ ticks =>
      cases update <;> cases alarm <;> simp [UInt8.or_assoc] <;> congr 1

theorem vddCmosAddClocks_added :
    ClocksAdded hooks host state clocks (vddCmosAddClocks hooks host state clocks) := by
  rw [vddCmosAddClocks_eq, cmosAddTicks_eq, cmosAddSeconds_eq]
  set counting : CmosState :=
    { state with
      secondAccumulator :=
        if state.hasB cmosBUieOrAie then state.secondAccumulator + clocks.toUInt64 else 0 }
    with hcounting
  have halarm : hasAlarm hooks host counting = hasAlarm hooks host state :=
    hasAlarm_congr hooks host rfl rfl rfl rfl
  have hupdate : counting.hasUpdate = state.hasUpdate := rfl
  have hticks : ticksDue (counting.seconds hooks host (secondsDue state clocks)) clocks =
      ticksDue state clocks := rfl
  rw [hticks]
  refine ⟨?_, ?_, ?_, ?_, rfl, rfl, rfl, rfl, rfl, rfl⟩
  · change counting.irqs + (if (counting.isOnBus && (counting.hasUpdate ||
        hasAlarm hooks host counting)) = true then secondsDue state clocks else 0) +
      (if counting.isOnBus = true then ticksDue state clocks else 0) = _
    rw [halarm, hupdate, show counting.irqs = state.irqs from rfl,
      show counting.isOnBus = state.isOnBus from rfl]
    unfold interruptsDue
    cases state.isOnBus with
    | true => rw [Bool.true_and, if_pos rfl, if_pos rfl, Nat.add_assoc]
    | false => rfl
  · have hflags := call_flags state.statusC state.hasUpdate (hasAlarm hooks host state)
      (secondsDue state clocks) (ticksDue state clocks)
    rw [← hupdate, ← halarm] at hflags
    exact hflags
  · change counting.alarmRaised + (if hasAlarm hooks host counting = true then
      secondsDue state clocks else 0) = _
    rw [halarm]
  · change (if state.hasB cmosBUieOrAie = true then state.secondAccumulator + clocks.toUInt64
      else 0) - ofNat (secondsDue state clocks * pitInputHz) = _
    by_cases hbits : state.hasB cmosBUieOrAie = true
    · rw [if_pos hbits, if_pos hbits]
    · have hnone : secondsDue state clocks = 0 := by
        unfold secondsDue
        rw [if_neg hbits]
      rw [if_neg hbits, if_neg hbits, hnone, Nat.zero_mul]
      rfl

end Host

end Ntvdmex.Vdd.Cmos
