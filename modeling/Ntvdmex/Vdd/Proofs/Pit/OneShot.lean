import Ntvdmex.Vdd.Proofs.Pit.Clocks

/-!
# One interrupt for each one-shot

What a port write does to counter 0, and the interrupts of modes 0 and 4 over whole runs.
-/

namespace Ntvdmex.Vdd.Pit

open Or List

variable {state state' : PitState}

/-! ## Port writes and counter 0 -/

/-- Two states with one counting element and one IRQ0 engine. -/
structure SameCounter0 (state state' : PitState) : Prop where
  reload : state'.reload = state.reload
  mode : state'.mode = state.mode
  isBcd : state'.isBcd = state.isBcd
  totalClocks : state'.totalClocks = state.totalClocks
  loadClocks : state'.loadClocks = state.loadClocks
  accumulator : state'.accumulator = state.accumulator
  isControlWordArmed : state'.isControlWordArmed = state.isControlWordArmed
  isNextPending : state'.isNextPending = state.isNextPending
  nextReload : state'.nextReload = state.nextReload
  isIrqArmed : state'.isIrqArmed = state.isIrqArmed

theorem SameCounter0.refl (state : PitState) : SameCounter0 state state :=
  (by constructor <;> rfl)

theorem SameCounter0.trans {state'' : PitState} (h : SameCounter0 state state')
    (h' : SameCounter0 state' state'') : SameCounter0 state state'' where
  reload := h'.reload.trans h.reload
  mode := h'.mode.trans h.mode
  isBcd := h'.isBcd.trans h.isBcd
  totalClocks := h'.totalClocks.trans h.totalClocks
  loadClocks := h'.loadClocks.trans h.loadClocks
  accumulator := h'.accumulator.trans h.accumulator
  isControlWordArmed := h'.isControlWordArmed.trans h.isControlWordArmed
  isNextPending := h'.isNextPending.trans h.isNextPending
  nextReload := h'.nextReload.trans h.nextReload
  isIrqArmed := h'.isIrqArmed.trans h.isIrqArmed

theorem SameCounter0.effectiveReload (h : SameCounter0 state state') :
    vddPitEffectiveReload state' = vddPitEffectiveReload state := by
  unfold vddPitEffectiveReload
  rw [h.reload, h.isBcd]

theorem SameCounter0.sinceLoad (h : SameCounter0 state state') :
    state'.sinceLoad = state.sinceLoad := by
  unfold PitState.sinceLoad
  rw [h.totalClocks, h.loadClocks]

/-- The next byte for port 40h completes a count. -/
def PitState.CompletesCount (state : PitState) : Prop :=
  accessInForce state.access = pitAccessLow ∨ accessInForce state.access = pitAccessHigh ∨
    state.isWriteHighNext = true
deriving Decidable

def CommitsCount (state : PitState) : PitEvent → Prop
  | .addClocks _ => False
  | .portOut port _ => port = pitCounter0Port ∧ state.CompletesCount

instance (state : PitState) (event : PitEvent) : Decidable (CommitsCount state event) :=
  match event with
  | .addClocks _ => inferInstanceAs (Decidable False)
  | .portOut _ _ => inferInstanceAs (Decidable (_ ∧ _))

def IsControlWord : PitEvent → Prop
  | .addClocks _ => False
  | .portOut port byteValue =>
    port = pitControlPort ∧ byteValue.toNat / 64 = 0 ∧ controlAccess byteValue ≠ pitAccessLatch

instance (event : PitEvent) : Decidable (IsControlWord event) :=
  match event with
  | .addClocks _ => inferInstanceAs (Decidable False)
  | .portOut _ _ => inferInstanceAs (Decidable (_ ∧ _))

theorem sameCounter0_latch (state : PitState) : SameCounter0 state (latchCounter0 state) :=
  (by constructor <;> rfl)

theorem sameCounter0_readBackStatus (state : PitState) (counterIndex : Fin 3) :
    SameCounter0 state (readBackStatus state counterIndex) := by
  unfold readBackStatus
  split <;> constructor <;> rfl

theorem sameCounter0_readBackLatch (state : PitState) (counterIndex : Fin 3) :
    SameCounter0 state (readBackLatch state counterIndex) := by
  unfold readBackLatch
  split
  · split
    · exact .refl state
    · exact sameCounter0_latch state
  split <;> constructor <;> rfl

theorem sameCounter0_readBackCounter (command : UInt8) (state : PitState)
    (counterIndex : Fin 3) : SameCounter0 state (readBackCounter command state counterIndex) := by
  have hstatus := sameCounter0_readBackStatus state counterIndex
  unfold readBackCounter
  dsimp only
  split
  · exact .refl state
  split
  · split
    · exact hstatus.trans (sameCounter0_readBackLatch _ _)
    · exact sameCounter0_readBackLatch _ _
  · split
    · exact hstatus
    · exact .refl state

theorem sameCounter0_readBack (state : PitState) (command : UInt8) :
    SameCounter0 state (pitReadBack state command) := by
  unfold pitReadBack
  rw [foldl_cons, foldl_cons, foldl_cons, foldl_nil]
  exact ((sameCounter0_readBackCounter ..).trans (sameCounter0_readBackCounter ..)).trans
    (sameCounter0_readBackCounter ..)

theorem pitControlWrite_cases (state : PitState) (controlWord : UInt8) :
    pitControlWrite state controlWord = pitCounter0Control state controlWord ∧
        controlWord.toNat / 64 = 0 ∧ controlAccess controlWord ≠ pitAccessLatch ∨
      ¬ (controlWord.toNat / 64 = 0 ∧ controlAccess controlWord ≠ pitAccessLatch) ∧
        SameCounter0 state (pitControlWrite state controlWord) := by
  have hlt : controlWord.toNat < 256 := controlWord.toNat_lt
  unfold pitControlWrite
  dsimp only
  split
  · rename_i hindex
    refine inr ⟨fun h => ?_, ?_⟩
    · rw [hindex] at h
      exact absurd h.1 (by decide)
    · split <;> constructor <;> rfl
  split
  · rename_i hindex
    refine inr ⟨fun h => ?_, (by constructor <;> rfl)⟩
    rw [hindex] at h
    exact absurd h.1 (by decide)
  split
  · rename_i hindex
    refine inr ⟨fun h => ?_, sameCounter0_readBack ..⟩
    rw [hindex] at h
    exact absurd h.1 (by decide)
  split
  · rename_i hlatch
    exact inr ⟨fun h => h.2 hlatch, sameCounter0_latch _⟩
  · rename_i h2 h1 h3 hlatch
    unfold pitSelectCounter1 pitSelectCounter2 pitSelectReadBack at *
    exact inl ⟨rfl, by lia, hlatch⟩

theorem pitCounter0Write_cases (state : PitState) (byteValue : UInt8) :
    (state.CompletesCount ∧
        ∃ written, SameCounter0 (pitLoad state written) (pitCounter0Write state byteValue)) ∨
      ¬ state.CompletesCount ∧ SameCounter0 state (pitCounter0Write state byteValue) := by
  unfold pitCounter0Write PitState.CompletesCount
  dsimp only
  split
  · rename_i hlow
    exact inl ⟨inl hlow, _, .refl _⟩
  split
  · rename_i hhigh
    exact inl ⟨inr (inl hhigh), _, .refl _⟩
  split
  · rename_i hlow hhigh hfirst
    refine inr ⟨?_, (by constructor <;> rfl)⟩
    rw [hfirst]
    simp [hlow, hhigh]
  · rename_i hsecond
    exact inl ⟨inr (inr (Bool.not_eq_false _ ▸ hsecond)), _,
      (by constructor <;> rfl)⟩

theorem pitPortOut_cases (state : PitState) (port : Nat) (byteValue : UInt8) :
    (CommitsCount state (.portOut port byteValue) ∧
        ∃ written, SameCounter0 (pitLoad state written) (pitPortOut state port byteValue)) ∨
      (IsControlWord (.portOut port byteValue) ∧
        pitPortOut state port byteValue = pitCounter0Control state byteValue) ∨
      (¬ CommitsCount state (.portOut port byteValue) ∧
        ¬ IsControlWord (.portOut port byteValue) ∧
        SameCounter0 state (pitPortOut state port byteValue)) := by
  unfold pitPortOut CommitsCount IsControlWord
  dsimp only
  split
  · rename_i hport
    have hne : port ≠ pitCounter0Port := by
      rw [hport]
      decide
    rcases pitControlWrite_cases state byteValue with ⟨heq, hword⟩ | ⟨hword, hsame⟩
    · exact inr (inl ⟨⟨hport, hword⟩, heq⟩)
    · exact inr (inr ⟨fun h => hne h.1, fun h => hword h.2, hsame⟩)
  rename_i hcontrol
  split
  · rename_i hport
    rcases pitCounter0Write_cases state byteValue with ⟨hcompletes, hload⟩ | ⟨hnot, hsame⟩
    · exact inl ⟨⟨hport, hcompletes⟩, hload⟩
    · exact inr (inr ⟨fun h => hnot h.2, fun h => hcontrol h.1, hsame⟩)
  rename_i hcounter0
  refine inr (inr ⟨fun h => hcounter0 h.1, fun h => hcontrol h.1, ?_⟩)
  split
  · unfold pitCounter2Write
    dsimp only
    split
    · constructor <;> rfl
    split
    · constructor <;> rfl
    split <;> constructor <;> rfl
  split
  · constructor <;> rfl
  · exact .refl state

/-! ## The interrupts of a run -/

def RaisesAtTerminalCount (mode : Nat) : Prop := mode = pitMode0 ∨ mode = pitMode4
deriving Decidable

def PitEvent.clocks : PitEvent → Nat
  | .addClocks clocks => clocks.toNat
  | .portOut _ _ => 0

/-- The event begins a new count of counter 0, or ends the one it has. -/
def BreaksCount (state : PitState) (event : PitEvent) : Prop :=
  CommitsCount state event ∨ IsControlWord event
deriving Decidable

/-- The clocks of a run up to the next count or Control Word for counter 0. -/
def clocksBefore : PitState → List PitEvent → Nat
  | _, [] => 0
  | state, event :: events =>
    if BreaksCount state event then 0
    else event.clocks + clocksBefore (pitEvent state event).1 events

/-- The raises of IRQ0 of a run while counter 0 is in mode 0 or 4. -/
def oneShotRaises : PitState → List PitEvent → Nat
  | _, [] => 0
  | state, event :: events =>
    (if RaisesAtTerminalCount state.mode then (pitEvent state event).2 else 0) +
      oneShotRaises (pitEvent state event).1 events

/-- The counts a run loads in mode 0 or 4 whose clocks elapse before the next count or Control
Word for counter 0. -/
def elapsedLoads : PitState → List PitEvent → Nat
  | _, [] => 0
  | state, event :: events =>
    let next := (pitEvent state event).1
    (if (RaisesAtTerminalCount state.mode ∧ CommitsCount state event) ∧
        vddPitEffectiveReload next ≤ clocksBefore next events then 1 else 0) +
      elapsedLoads next events

def ArmedInTime (state : PitState) : Prop :=
  state.isIrqArmed = true →
    RaisesAtTerminalCount state.mode ∧ state.sinceLoad < vddPitEffectiveReload state

theorem not_isPeriodic_of_raises {mode : Nat} (h : RaisesAtTerminalCount mode) :
    ¬ IsPeriodic mode := by
  rintro (hmode | hmode) <;> rcases h with h | h <;> rw [h] at hmode <;>
    exact absurd hmode (by decide)

theorem SameCounter0.armedInTime (h : SameCounter0 state state') (hin : ArmedInTime state)
    : ArmedInTime state' := by
  unfold ArmedInTime at hin ⊢
  rw [h.isIrqArmed, h.mode, h.sinceLoad, h.effectiveReload]
  exact hin

theorem sinceLoad_of_loaded (h : state.loadClocks = state.totalClocks) : state.sinceLoad = 0 := by
  unfold PitState.sinceLoad
  rw [h, UInt64.sub_self]
  rfl

theorem pitLoad_terminal (h : RaisesAtTerminalCount state.mode) (written : UInt16) :
    (pitLoad state written).isIrqArmed = true ∧ (pitLoad state written).mode = state.mode ∧
      (pitLoad state written).sinceLoad = 0 := by
  have hload : ¬ (IsPeriodic state.mode ∧ state.isControlWordArmed = false) :=
    fun hboth => not_isPeriodic_of_raises h hboth.1
  unfold pitLoad
  rw [if_neg hload]
  exact ⟨decide_eq_true h, rfl, sinceLoad_of_loaded rfl⟩

theorem pitLoad_other (h : ¬ RaisesAtTerminalCount state.mode) (harmed : state.isIrqArmed = false)
    (written : UInt16) : (pitLoad state written).isIrqArmed = false := by
  unfold pitLoad
  split
  · exact harmed
  · exact decide_eq_false h

theorem pitCatchUp_isIrqArmed (rounds : Nat) (state : PitState) :
    (pitCatchUp rounds state).1.isIrqArmed = state.isIrqArmed := by
  induction rounds generalizing state with
  | zero => rfl
  | succ rounds ih =>
    by_cases h : vddPitEffectiveReload state ≤ state.accumulator.toNat
    · rw [pitCatchUp_succ h, ih]
      unfold periodEnd
      split <;> rfl
    · rw [pitCatchUp_of_caughtUp (Nat.lt_of_not_le h)]

theorem vddPitAddClocks_unarmed (h : state.isIrqArmed = false) (clocks : UInt32)
    : (vddPitAddClocks state clocks).1.isIrqArmed = false := by
  by_cases hperiodic : IsPeriodic state.mode
  · rw [vddPitAddClocks_periodic hperiodic, pitCatchUp_isIrqArmed]
    exact h
  · rw [vddPitAddClocks_waits hperiodic fun hexpires => absurd (h.symm.trans hexpires.1) (by simp)]
    exact h

theorem sinceLoad_armed (hin : ArmedInTime state) (harmed : state.isIrqArmed = true)
    (clocks : UInt32) : (state.idle clocks).sinceLoad = state.sinceLoad + clocks.toNat := by
  refine sinceLoad_idle ?_
  have hlt := (hin harmed).2
  have hle := effectiveReload_le state.reload state.isBcd
  have hclocks := clocks.toNat_lt
  unfold vddPitEffectiveReload at hlt
  unfold pitBinaryWrap at hle
  omega

theorem armedInTime_event (hin : ArmedInTime state) (event : PitEvent) :
    ArmedInTime (pitEvent state event).1 := by
  cases event with
  | addClocks clocks =>
    change ArmedInTime (vddPitAddClocks state clocks).1
    cases harmed : state.isIrqArmed with
    | false =>
      intro h
      rw [vddPitAddClocks_unarmed harmed] at h
      exact absurd h (by simp)
    | true =>
      have hmode := not_isPeriodic_of_raises (hin harmed).1
      by_cases hexpires : state.Expires clocks
      · rw [vddPitAddClocks_expires hmode hexpires]
        exact fun h => absurd h (by simp [PitState.spent])
      · rw [vddPitAddClocks_waits hmode hexpires]
        exact fun _ => ⟨(hin harmed).1, Nat.lt_of_not_le fun hle => hexpires ⟨harmed, hle⟩⟩
  | portOut port byteValue =>
    change ArmedInTime (pitPortOut state port byteValue)
    rcases pitPortOut_cases state port byteValue with
      ⟨-, written, hsame⟩ | ⟨-, heq⟩ | ⟨-, -, hsame⟩
    · refine hsame.armedInTime ?_
      by_cases hmode : RaisesAtTerminalCount state.mode
      · obtain ⟨-, hmode', hsince⟩ := pitLoad_terminal hmode written
        intro _
        rw [hmode', hsince]
        exact ⟨hmode, effectiveReload_pos _ _⟩
      · intro h
        have hunarmed : state.isIrqArmed = false := by
          cases harmed : state.isIrqArmed with
          | false => rfl
          | true => exact absurd (hin harmed).1 hmode
        rw [pitLoad_other hmode hunarmed] at h
        exact absurd h (by simp)
    · rw [heq]
      exact fun h => absurd h (by simp [pitCounter0Control])
    · exact hsame.armedInTime hin

/-- The raise an armed one-shot still owes in the run ahead. -/
def owedRaise (state : PitState) (events : List PitEvent) : Nat :=
  if state.isIrqArmed = true ∧
      vddPitEffectiveReload state ≤ state.sinceLoad + clocksBefore state events then 1
  else 0

theorem owedRaise_of_unarmed (h : state.isIrqArmed = false) (events : List PitEvent)
    : owedRaise state events = 0 := by
  exact if_neg fun hboth => absurd (h.symm.trans hboth.1) (by simp)

theorem owedRaise_of_breaks {event : PitEvent} (hin : ArmedInTime state)
    (h : BreaksCount state event) (events : List PitEvent) :
    owedRaise state (event :: events) = 0 := by
  unfold owedRaise clocksBefore
  rw [if_pos h, Nat.add_zero]
  exact if_neg fun hboth => absurd (hin hboth.1).2 (Nat.not_lt_of_le hboth.2)

theorem not_breaksCount_addClocks (state : PitState) (clocks : UInt32) :
    ¬ BreaksCount state (.addClocks clocks) := fun h => h.elim id id

theorem oneShotRaises_addClocks (hin : ArmedInTime state) (clocks : UInt32) (events : List PitEvent) :
    (if RaisesAtTerminalCount state.mode then (vddPitAddClocks state clocks).2 else 0) +
        owedRaise (vddPitAddClocks state clocks).1 events =
      owedRaise state (.addClocks clocks :: events) := by
  cases harmed : state.isIrqArmed with
  | false =>
    rw [owedRaise_of_unarmed harmed, owedRaise_of_unarmed (vddPitAddClocks_unarmed harmed clocks)]
    split
    · rename_i hmode
      rw [vddPitAddClocks_waits (not_isPeriodic_of_raises hmode) fun hexpires =>
        absurd (harmed.symm.trans hexpires.1) (by simp)]
    · rfl
  | true =>
    have hraises := (hin harmed).1
    have hmode := not_isPeriodic_of_raises hraises
    have hsince := sinceLoad_armed hin harmed clocks
    have howed : owedRaise state (.addClocks clocks :: events) =
        if vddPitEffectiveReload state ≤ state.sinceLoad +
          (clocks.toNat + clocksBefore (vddPitAddClocks state clocks).1 events) then 1 else 0 := by
      unfold owedRaise
      rw [clocksBefore, if_neg (not_breaksCount_addClocks state clocks)]
      exact if_congr (and_iff_right harmed) rfl rfl
    rw [howed, if_pos hraises]
    by_cases hexpires : state.Expires clocks
    · have hreached := hexpires.2
      rw [hsince] at hreached
      rw [vddPitAddClocks_expires hmode hexpires, owedRaise_of_unarmed rfl, if_pos (by lia)]
    · rw [vddPitAddClocks_waits hmode hexpires]
      unfold owedRaise
      rw [hsince, Nat.zero_add, Nat.add_assoc]
      exact if_congr (and_iff_right harmed) rfl rfl

theorem oneShotRaises_portOut (hin : ArmedInTime state) (port : Nat) (byteValue : UInt8)
    (events : List PitEvent) :
    owedRaise (pitPortOut state port byteValue) events =
      owedRaise state (.portOut port byteValue :: events) +
        if (RaisesAtTerminalCount state.mode ∧ CommitsCount state (.portOut port byteValue)) ∧
          vddPitEffectiveReload (pitPortOut state port byteValue) ≤
            clocksBefore (pitPortOut state port byteValue) events then 1 else 0 := by
  rcases pitPortOut_cases state port byteValue with
    ⟨hcommits, written, hsame⟩ | ⟨hword, heq⟩ | ⟨hcommits, hword, hsame⟩
  · rw [owedRaise_of_breaks hin (inl hcommits), Nat.zero_add]
    by_cases hmode : RaisesAtTerminalCount state.mode
    · obtain ⟨harmed, -, hsince⟩ := pitLoad_terminal hmode written
      unfold owedRaise
      rw [hsame.isIrqArmed, hsame.sinceLoad, hsince, Nat.zero_add]
      exact if_congr (and_congr_left fun _ => iff_of_true harmed ⟨hmode, hcommits⟩) rfl rfl
    · have hunarmed : state.isIrqArmed = false := by
        cases harmed : state.isIrqArmed with
        | false => rfl
        | true => exact absurd (hin harmed).1 hmode
      rw [owedRaise_of_unarmed (hsame.isIrqArmed.trans (pitLoad_other hmode hunarmed written)),
        if_neg fun h => hmode h.1.1]
  · have hnot : ¬ CommitsCount state (.portOut port byteValue) := by
      rintro ⟨hport, -⟩
      exact absurd (hport.symm.trans hword.1) (by decide)
    rw [owedRaise_of_breaks hin (inr hword), if_neg fun h => hnot h.1.2, heq]
    exact owedRaise_of_unarmed rfl events
  · rw [if_neg fun h => hcommits h.1.2, Nat.add_zero]
    unfold owedRaise
    rw [hsame.isIrqArmed, hsame.sinceLoad, hsame.effectiveReload, clocksBefore,
      if_neg fun h : BreaksCount _ _ => h.elim hcommits hword]
    exact if_congr (and_congr_right fun _ => by rw [PitEvent.clocks, Nat.zero_add]; rfl) rfl rfl

theorem elapsedLoads_addClocks (state : PitState) (clocks : UInt32) (events : List PitEvent) :
    elapsedLoads state (.addClocks clocks :: events) =
      elapsedLoads (vddPitAddClocks state clocks).1 events := by
  have hnot : ¬ CommitsCount state (.addClocks clocks) := id
  rw [elapsedLoads, if_neg fun h => hnot h.1.2, Nat.zero_add]
  rfl

theorem oneShotRaises_eq (hin : ArmedInTime state) (events : List PitEvent) :
    oneShotRaises state events = owedRaise state events + elapsedLoads state events := by
  induction events generalizing state with
  | nil =>
    unfold owedRaise oneShotRaises elapsedLoads clocksBefore
    rw [if_neg]
    rintro ⟨harmed, hle⟩
    exact absurd (hin harmed).2 (Nat.not_lt_of_le hle)
  | cons event events ih =>
    rw [oneShotRaises, ih (armedInTime_event hin event)]
    cases event with
    | addClocks clocks =>
      rw [elapsedLoads_addClocks, ← oneShotRaises_addClocks hin, Nat.add_assoc]
      rfl
    | portOut port byteValue =>
      rw [elapsedLoads]
      have hport := oneShotRaises_portOut hin port byteValue events
      change (if RaisesAtTerminalCount state.mode then 0 else 0) +
        (owedRaise (pitPortOut state port byteValue) events + _) = _
      rw [ite_self, Nat.zero_add, hport, Nat.add_assoc]
      rfl

/-- The run up to the next count or Control Word for counter 0. -/
def countWindow : PitState → List PitEvent → List PitEvent
  | _, [] => []
  | state, event :: events =>
    if BreaksCount state event then [] else event :: countWindow (pitEvent state event).1 events

theorem clocksBefore_countWindow (state : PitState) (events : List PitEvent) :
    clocksBefore state (countWindow state events) = clocksBefore state events := by
  induction events generalizing state with
  | nil => rfl
  | cons event events ih =>
    unfold countWindow
    by_cases h : BreaksCount state event
    · rw [if_pos h, clocksBefore, clocksBefore, if_pos h]
    · rw [if_neg h, clocksBefore, clocksBefore, if_neg h, if_neg h, ih]

theorem elapsedLoads_countWindow (state : PitState) (events : List PitEvent) :
    elapsedLoads state (countWindow state events) = 0 := by
  induction events generalizing state with
  | nil => rfl
  | cons event events ih =>
    unfold countWindow
    by_cases h : BreaksCount state event
    · rw [if_pos h]
      rfl
    · rw [if_neg h, elapsedLoads, ih, if_neg fun hload => h (inl hload.1.2)]

theorem oneShotRaises_countWindow (hin : ArmedInTime state) (port : Nat) (byteValue : UInt8)
    (hmode : RaisesAtTerminalCount state.mode)
    (hcommits : CommitsCount state (.portOut port byteValue)) (events : List PitEvent) :
    let loaded := pitPortOut state port byteValue
    oneShotRaises loaded (countWindow loaded events) =
      if vddPitEffectiveReload loaded ≤ clocksBefore loaded events then 1 else 0 := by
  dsimp only
  have hloaded : ArmedInTime (pitPortOut state port byteValue) :=
    armedInTime_event hin (.portOut port byteValue)
  rw [oneShotRaises_eq hloaded, elapsedLoads_countWindow, Nat.add_zero, oneShotRaises_portOut hin,
    owedRaise_of_breaks hin (inl hcommits), Nat.zero_add, clocksBefore_countWindow]
  exact if_congr (and_iff_right ⟨hmode, hcommits⟩) rfl rfl

/-! ## Time in any lumps -/

theorem armedInTime_reset : ArmedInTime vddPitReset := fun h => absurd h (by decide)

theorem armedInTime_run (events : List PitEvent) : ArmedInTime (pitRun vddPitReset events) := by
  unfold pitRun
  induction events using reverseRecOn with
  | nil => exact armedInTime_reset
  | append_singleton events event ih =>
    rw [foldl_append, foldl_cons, foldl_nil]
    exact armedInTime_event ih event

theorem ArmedInTime.elapsedFits (h : ArmedInTime state) {clocks : Nat} (hclocks : clocks < 2 ^ 32)
    : ElapsedFits state clocks := by
  intro _ harmed
  have hlt : state.sinceLoad < vddPitEffectiveReload state := (h harmed).2
  have hle := effectiveReload_le state.reload state.isBcd
  unfold vddPitEffectiveReload at hlt
  unfold pitBinaryWrap at hle
  change state.sinceLoad + clocks < 2 ^ 64
  omega

/-- Two deliveries of time are one of their sum. -/
def SplitsAt (state : PitState) (a b : UInt32) : Prop :=
  vddPitAddClocks state (a + b) =
    ((vddPitAddClocks (vddPitAddClocks state a).1 b).1,
      (vddPitAddClocks state a).2 + (vddPitAddClocks (vddPitAddClocks state a).1 b).2)

theorem time_in_any_lumps :
    (∀ (state : PitState) (a b : UInt32), a.toNat + b.toNat < 2 ^ 32 →
      CatchesUp state a → CatchesUp state (a + b) → ElapsedFits state (a.toNat + b.toNat) →
        SplitsAt state a b) ∧
    (∀ (events : List PitEvent) (clocks : Nat), clocks < 2 ^ 32 →
      ElapsedFits (pitRun vddPitReset events) clocks) ∧
    (∀ (events : List PitEvent) (port : Nat) (byteValue : UInt8) (rest : List PitEvent),
      RaisesAtTerminalCount (pitRun vddPitReset events).mode →
      CommitsCount (pitRun vddPitReset events) (.portOut port byteValue) →
        let loaded := pitPortOut (pitRun vddPitReset events) port byteValue
        oneShotRaises loaded (countWindow loaded rest) =
          if vddPitEffectiveReload loaded ≤ clocksBefore loaded rest then 1 else 0) ∧
    ∀ events : List PitEvent, oneShotRaises vddPitReset events = elapsedLoads vddPitReset events := by
  refine ⟨fun state a b hsum hfirst hwhole hfits => ?_,
    fun events clocks hclocks => (armedInTime_run events).elapsedFits hclocks,
    fun events port byteValue rest hmode hcommits =>
      oneShotRaises_countWindow (armedInTime_run events) port byteValue hmode hcommits rest,
    fun events => ?_⟩
  · by_cases hmode : IsPeriodic state.mode
    · exact addClocks_split_periodic hmode hsum hfirst hwhole
    · exact addClocks_split_oneShot hmode hsum hfits
  · rw [oneShotRaises_eq armedInTime_reset, owedRaise_of_unarmed rfl, Nat.zero_add]

/-- An armed mode 0 whose clocks since the load are about to leave their word. -/
def armedForever : PitState :=
  { vddPitReset with
    mode := pitMode0
    reload := 1
    totalClocks := 0xFFFFFFFFFFFFFFFF
    isIrqArmed := true }

theorem lumps_matter_past_the_word :
    ¬ ∀ (state : PitState) (a b : UInt32), a.toNat + b.toNat < 2 ^ 32 →
      CatchesUp state a → CatchesUp state (a + b) → SplitsAt state a b := by
  intro h
  have hmode : ¬ IsPeriodic armedForever.mode := by decide
  have hsplit := h armedForever 0 1 (by decide) (fun hperiodic => absurd hperiodic hmode)
    (fun hperiodic => absurd hperiodic hmode)
  have hraises := congrArg Prod.snd hsplit
  exact absurd hraises (by decide)

end Ntvdmex.Vdd.Pit
