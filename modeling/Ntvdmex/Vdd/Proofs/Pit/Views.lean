import Ntvdmex.Vdd.Proofs.Pit.OneShot

/-!
# The three views of counter 0

The count read, the OUT pin and the interrupt of a periodic counter, and the runs after
which they agree.
-/

namespace Ntvdmex.Vdd.Pit

open Nat UInt64

variable {reload mode : Nat} {clocks : UInt64} {inPhase : Prop} {state state' : PitState}

/-- The clocks since the half of the period began. -/
def halfPhase (reload elapsed : Nat) : Nat :=
  if elapsed % reload < (reload + 1) / 2 then elapsed % reload
  else elapsed % reload - (reload + 1) / 2

/-- The state `clocks` single clocks later. -/
def afterClocks (clocks : Nat) (state : PitState) : PitState :=
  (fun state => (vddPitAddClocks state 1).1)^[clocks] state

def RaisesAtEdge (state : PitState) : Prop :=
  let next := (vddPitAddClocks state 1).1
  (vddPitAddClocks state 1).2 ≤ 1 ∧
    ((vddPitAddClocks state 1).2 = 1 ↔
      pitCurrentCount next = vddPitEffectiveReload next % pitWrap next.isBcd ∧
        state.outPin = false ∧ next.outPin = true)

/-- The count, the OUT pin and the interrupts of counter 0 in a periodic mode go together. -/
structure ViewsAgree (state : PitState) : Prop where
  phase : state.accumulator.toNat = state.elapsed % vddPitEffectiveReload state
  raises : ∀ clocks, state.totalClocks.toNat + clocks + 1 < 2 ^ 64 →
    vddPitEffectiveReload (afterClocks clocks state) = vddPitEffectiveReload state →
    2 ≤ vddPitEffectiveReload (afterClocks (clocks + 1) state) →
      RaisesAtEdge (afterClocks clocks state)
  rate : state.mode = pitMode2 → ∀ elapsed,
    pitCountLaw state.mode (vddPitEffectiveReload state) elapsed (pitWrap state.isBcd) =
      (vddPitEffectiveReload state - elapsed % vddPitEffectiveReload state) % pitWrap state.isBcd
  halves : state.mode = pitMode3 → ∀ elapsed,
    pitCountLaw state.mode (vddPitEffectiveReload state) elapsed (pitWrap state.isBcd) =
      (vddPitEffectiveReload state - 2 * halfPhase (vddPitEffectiveReload state) elapsed) %
        pitWrap state.isBcd
  even : state.mode = pitMode3 → ∀ elapsed,
    pitCountLaw state.mode (vddPitEffectiveReload state) elapsed (pitWrap state.isBcd) % 2 = 0

/-! ## The count law of the periodic modes -/

theorem two_dvd_pitWrap (isBcd : Bool) : 2 ∣ pitWrap isBcd := by cases isBcd <;> decide

theorem pitCountLaw_mode2 (reload elapsed wrap : Nat) :
    pitCountLaw pitMode2 reload elapsed wrap = (reload - elapsed % reload) % wrap := by
  unfold pitCountLaw
  rw [if_neg (by decide), if_neg (by decide)]

theorem pitCountLaw_mode3 (reload elapsed wrap : Nat) :
    pitCountLaw pitMode3 reload elapsed wrap =
      (reload - 2 * (elapsed % ((reload + 1) / 2))) % wrap := by
  unfold pitCountLaw
  rw [if_neg (by decide), if_pos rfl]

theorem halfPhase_of_even (h : Even reload) (elapsed : Nat) :
    elapsed % ((reload + 1) / 2) = halfPhase reload elapsed := by
  obtain ⟨half, rfl⟩ := h
  have hhalf : (half + half + 1) / 2 = half := by lia
  have hmod : elapsed % half = elapsed % (half + half) % half := by
    rw [mod_mod_of_dvd _ ⟨2, by lia⟩]
  unfold halfPhase
  rw [hhalf]
  split
  · rename_i hlt
    rw [hmod, mod_eq_of_lt hlt]
  · rename_i hge
    rcases Nat.eq_zero_or_pos half with rfl | hpos
    · rfl
    · have hbound := mod_lt elapsed (show 0 < half + half by lia)
      rw [hmod, mod_eq_sub_mod (by lia), mod_eq_of_lt (by lia)]

theorem pitCountLaw_even (h : Even reload) (elapsed : Nat) (isBcd : Bool) :
    pitCountLaw pitMode3 reload elapsed (pitWrap isBcd) % 2 = 0 := by
  rw [pitCountLaw_mode3, mod_mod_of_dvd _ (two_dvd_pitWrap isBcd)]
  obtain ⟨half, rfl⟩ := h
  omega

theorem even_of_pitCountLaw {isBcd : Bool}
    (h : pitCountLaw pitMode3 reload 0 (pitWrap isBcd) % 2 = 0) : Even reload := by
  rw [pitCountLaw_mode3, zero_mod, mod_mod_of_dvd _ (two_dvd_pitWrap isBcd)] at h
  exact even_iff.mpr h

/-- At the start of a period the count reads as the reload. -/
theorem pitCountLaw_start {elapsed : Nat} (hmode : IsPeriodic mode)
    (hparity : mode = pitMode2 ∨ Even reload) (h : elapsed % reload = 0) (wrap : Nat) :
    pitCountLaw mode reload elapsed wrap = reload % wrap := by
  rcases hmode with rfl | rfl
  · rw [pitCountLaw_mode2, h, Nat.sub_zero]
  · have heven := hparity.resolve_left (by decide)
    rw [pitCountLaw_mode3, halfPhase_of_even heven]
    have hstart : halfPhase reload elapsed = 0 := by
      unfold halfPhase
      rw [h]
      split
      · rfl
      · exact Nat.zero_sub _
    rw [hstart, Nat.mul_zero, Nat.sub_zero]

theorem pitCountLaw_loaded (hmode : IsPeriodic mode) (reload wrap : Nat) :
    pitCountLaw mode reload 0 wrap = reload % wrap := by
  rcases hmode with rfl | rfl
  · rw [pitCountLaw_mode2, zero_mod, Nat.sub_zero]
  · rw [pitCountLaw_mode3, zero_mod, Nat.mul_zero, Nat.sub_zero]

section

variable {mode reload elapsed : Nat} (hmode : IsPeriodic mode)

include hmode

theorem pitOutPin_start
    (hreload : 2 ≤ reload) (h : elapsed % reload = 0) : pitOutPin mode reload elapsed = true := by
  unfold pitOutPin
  rcases hmode with rfl | rfl
  · rw [if_neg (by decide), if_pos rfl, h]
    exact decide_eq_true (by omega)
  · rw [if_neg (by decide), if_neg (by decide), if_pos rfl, h]
    exact decide_eq_true (by omega)

theorem pitOutPin_end (hreload : 2 ≤ reload) (h : elapsed % reload + 1 = reload) :
    pitOutPin mode reload elapsed = false := by
  unfold pitOutPin
  rcases hmode with rfl | rfl
  · rw [if_neg (by decide), if_pos rfl]
    exact decide_eq_false (by lia)
  · rw [if_neg (by decide), if_neg (by decide), if_pos rfl]
    exact decide_eq_false (by lia)

theorem pitOutPin_inside
    (h : elapsed % reload + 1 < reload) (hlow : pitOutPin mode reload elapsed = false) :
    pitOutPin mode reload (elapsed + 1) = false := by
  have hnext : (elapsed + 1) % reload = elapsed % reload + 1 := by
    rw [add_mod, mod_eq_of_lt (show 1 < reload by lia), mod_eq_of_lt h]
  unfold pitOutPin at hlow ⊢
  rcases hmode with rfl | rfl
  · rw [if_neg (by decide), if_pos rfl] at hlow
    lia
  · rw [if_neg (by decide), if_neg (by decide), if_pos rfl] at hlow ⊢
    exact decide_eq_false (by lia)

end

/-! ## The accumulator and the clocks since the load -/

/-- The accumulator and the clocks since the load are at one point of the period. -/
def PitState.InStep (state : PitState) : Prop :=
  state.accumulator.toNat % vddPitEffectiveReload state =
    state.elapsed % vddPitEffectiveReload state
deriving Decidable

/-- What a run keeps of counter 0, `inPhase` being what it owes to its Control Words. -/
structure KeepsPhase (state : PitState) (inPhase : Prop) : Prop where
  load_le : state.loadClocks.toNat ≤ state.totalClocks.toNat
  accumulator_le : state.accumulator.toNat ≤ state.totalClocks.toNat
  inStep : IsPeriodic state.mode → (state.InStep ↔ inPhase)
  loaded : state.isControlWordArmed = false → inPhase
  parked : state.isNextPending = true → state.isControlWordArmed = false

section

variable {state : PitState}

theorem elapsed_eq (h : state.loadClocks.toNat ≤ state.totalClocks.toNat) :
    state.elapsed = state.totalClocks.toNat - state.loadClocks.toNat := by
  have hle : state.loadClocks ≤ state.totalClocks := le_iff_toNat_le.mpr h
  unfold PitState.elapsed
  rw [if_pos hle, UInt64.toNat_sub_of_le _ _ hle]

theorem later_totalClocks (h : state.totalClocks.toNat + clocks.toNat < 2 ^ 64) :
    (state.later clocks).totalClocks.toNat = state.totalClocks.toNat + clocks.toNat := by
  change (state.totalClocks + clocks).toNat = _
  rw [UInt64.toNat_add]
  exact mod_eq_of_lt h

theorem later_elapsed (hload : state.loadClocks.toNat ≤ state.totalClocks.toNat)
    (h : state.totalClocks.toNat + clocks.toNat < 2 ^ 64) :
    (state.later clocks).elapsed = state.elapsed + clocks.toNat := by
  have htotal := later_totalClocks h
  have hload' : (state.later clocks).loadClocks.toNat ≤ (state.later clocks).totalClocks.toNat := by
    rw [htotal]
    exact hload.trans (Nat.le_add_right _ _)
  rw [elapsed_eq hload', htotal, elapsed_eq hload]
  change _ - state.loadClocks.toNat = _
  lia

theorem KeepsPhase.later (h : KeepsPhase state inPhase)
    (hclocks : state.totalClocks.toNat + clocks.toNat < 2 ^ 64) :
    KeepsPhase (state.later clocks) inPhase := by
  have htotal := later_totalClocks hclocks
  have haccumulator : (state.later clocks).accumulator.toNat =
      state.accumulator.toNat + clocks.toNat :=
    later_accumulator (by have := h.accumulator_le; omega)
  exact
    { load_le := by
        rw [htotal]
        exact h.load_le.trans (Nat.le_add_right _ _)
      accumulator_le := by
        rw [htotal, haccumulator]
        exact Nat.add_le_add_right h.accumulator_le _
      inStep := fun hmode => by
        rw [← h.inStep hmode]
        unfold PitState.InStep
        rw [haccumulator, later_elapsed h.load_le hclocks]
        exact ⟨Nat.ModEq.add_right_cancel' (n := vddPitEffectiveReload state) _,
          Nat.ModEq.add_right (n := vddPitEffectiveReload state) _⟩
      loaded := h.loaded
      parked := h.parked }

theorem periodEnd_parked (h : state.isNextPending = true) :
    periodEnd state =
      { state with
        accumulator := state.accumulator - ofNat (vddPitEffectiveReload state)
        reload := state.nextReload
        isNextPending := false
        loadClocks := state.totalClocks -
          (state.accumulator - ofNat (vddPitEffectiveReload state)) } := by
  exact if_pos h

theorem periodEnd_running (h : ¬ state.isNextPending = true) :
    periodEnd state =
      { state with
        accumulator := state.accumulator - ofNat (vddPitEffectiveReload state) } := by
  exact if_neg h

end

section

variable {state : PitState} {inPhase : Prop} (h : KeepsPhase state inPhase)

include h

theorem KeepsPhase.periodEnd (hreached : vddPitEffectiveReload state ≤ state.accumulator.toNat) :
    KeepsPhase (periodEnd state) inPhase := by
  have haccumulator := periodEnd_accumulator hreached
  have hbound := h.accumulator_le
  by_cases hparked : state.isNextPending = true
  · have htotal : (Pit.periodEnd state).totalClocks = state.totalClocks := by
      rw [periodEnd_parked hparked]
    have hload : (Pit.periodEnd state).loadClocks =
        state.totalClocks - (Pit.periodEnd state).accumulator := by
      rw [periodEnd_parked hparked]
    have hle : (Pit.periodEnd state).accumulator ≤ state.totalClocks := by
      rw [le_iff_toNat_le, haccumulator]
      lia
    have hloadNat : (Pit.periodEnd state).loadClocks.toNat =
        state.totalClocks.toNat - (Pit.periodEnd state).accumulator.toNat := by
      rw [hload, UInt64.toNat_sub_of_le _ _ hle]
    have hphase : inPhase := h.loaded (h.parked hparked)
    have hload_le : (Pit.periodEnd state).loadClocks.toNat ≤
        (Pit.periodEnd state).totalClocks.toNat := by
      rw [hloadNat, htotal]
      exact sub_le _ _
    exact
      { load_le := hload_le
        accumulator_le := by
          rw [htotal, haccumulator]
          lia
        inStep := fun _ => by
          refine iff_of_true ?_ hphase
          unfold PitState.InStep
          rw [elapsed_eq hload_le, hloadNat, htotal,
            Nat.sub_sub_self (le_iff_toNat_le.mp hle)]
        loaded := fun _ => hphase
        parked := fun hpending => by
          rw [periodEnd_parked hparked] at hpending
          exact absurd hpending (by simp) }
  · rw [periodEnd_running hparked] at haccumulator ⊢
    exact
      { load_le := h.load_le
        accumulator_le := by
          rw [haccumulator]
          exact (sub_le _ _).trans hbound
        inStep := fun hmode => by
          rw [← h.inStep hmode]
          unfold PitState.InStep
          rw [haccumulator]
          change (_ - vddPitEffectiveReload state) % vddPitEffectiveReload state =
            state.elapsed % vddPitEffectiveReload state ↔ _
          rw [← mod_eq_sub_mod hreached]
        loaded := h.loaded
        parked := h.parked }

theorem KeepsPhase.pitCatchUp (rounds : Nat) : KeepsPhase (pitCatchUp rounds state).1 inPhase := by
  induction rounds generalizing state with
  | zero => exact h
  | succ rounds ih =>
    by_cases hreached : vddPitEffectiveReload state ≤ state.accumulator.toNat
    · rw [pitCatchUp_succ hreached]
      exact ih (h.periodEnd hreached)
    · rw [pitCatchUp_of_caughtUp (Nat.lt_of_not_le hreached)]
      exact h

theorem KeepsPhase.idle (hmode : ¬ IsPeriodic state.mode) {clocks : UInt32}
    (hclocks : state.totalClocks.toNat + clocks.toNat < 2 ^ 64) :
    KeepsPhase (state.idle clocks) inPhase where
  load_le := by
    have htotal : (state.idle clocks).totalClocks.toNat =
        state.totalClocks.toNat + clocks.toUInt64.toNat :=
      later_totalClocks (by rw [UInt32.toNat_toUInt64]; exact hclocks)
    rw [htotal]
    exact h.load_le.trans (Nat.le_add_right _ _)
  accumulator_le := Nat.zero_le _
  inStep hperiodic := absurd hperiodic hmode
  loaded := h.loaded
  parked := h.parked

theorem KeepsPhase.addClocks
    {clocks : UInt32} (hclocks : state.totalClocks.toNat + clocks.toNat < 2 ^ 64) :
    KeepsPhase (vddPitAddClocks state clocks).1 inPhase := by
  by_cases hmode : IsPeriodic state.mode
  · rw [vddPitAddClocks_periodic hmode]
    exact (h.later (by rw [UInt32.toNat_toUInt64]; exact hclocks)).pitCatchUp _
  · by_cases hexpires : state.Expires clocks
    · rw [vddPitAddClocks_expires hmode hexpires]
      have hidle := h.idle hmode hclocks
      exact ⟨hidle.load_le, hidle.accumulator_le, hidle.inStep, hidle.loaded, hidle.parked⟩
    · rw [vddPitAddClocks_waits hmode hexpires]
      exact h.idle hmode hclocks

end

/-! ## The phase of a run -/

/-- A count committed now restarts the period. -/
def PitState.Restarts (state : PitState) : Prop :=
  ¬ (IsPeriodic state.mode ∧ state.isControlWordArmed = false)
deriving Decidable

/-- A count that restarts puts counter 0 in phase; a Control Word for a periodic mode leaves it
where the accumulator and the clocks since the load are. -/
def phaseAfter (state : PitState) (event : PitEvent) (inPhase : Prop) : Prop :=
  if CommitsCount state event ∧ state.Restarts then True
  else if IsControlWord event ∧ IsPeriodic (pitEvent state event).1.mode then
    (pitEvent state event).1.InStep
  else inPhase

def InPhase : PitState → Prop → List PitEvent → Prop
  | _, inPhase, [] => inPhase
  | state, inPhase, event :: events =>
    InPhase (pitEvent state event).1 (phaseAfter state event inPhase) events

instance (state : PitState) (event : PitEvent) (inPhase : Prop) [Decidable inPhase] :
    Decidable (phaseAfter state event inPhase) := inferInstanceAs (Decidable (ite _ _ _))

instance decidableInPhase : (state : PitState) → (inPhase : Prop) → [Decidable inPhase] →
    (events : List PitEvent) → Decidable (InPhase state inPhase events)
  | _, _, h, [] => h
  | _, _, _, _ :: events => decidableInPhase _ _ events

def runClocks (events : List PitEvent) : Nat := (events.map PitEvent.clocks).sum

theorem SameCounter0.elapsed (h : SameCounter0 state state') : state'.elapsed = state.elapsed := by
  unfold PitState.elapsed
  rw [h.totalClocks, h.loadClocks]

theorem SameCounter0.keepsPhase (hsame : SameCounter0 state state') (h : KeepsPhase state inPhase) :
    KeepsPhase state' inPhase where
  load_le := by
    rw [hsame.loadClocks, hsame.totalClocks]
    exact h.load_le
  accumulator_le := by
    rw [hsame.accumulator, hsame.totalClocks]
    exact h.accumulator_le
  inStep hmode := by
    unfold PitState.InStep
    rw [hsame.accumulator, hsame.effectiveReload, hsame.elapsed]
    exact h.inStep (hsame.mode ▸ hmode)
  loaded harmed := h.loaded (hsame.isControlWordArmed ▸ harmed)
  parked hpending := by
    rw [hsame.isControlWordArmed]
    exact h.parked (hsame.isNextPending ▸ hpending)

theorem pitLoad_parked (h : ¬ state.Restarts) (written : UInt16) :
    pitLoad state written =
      { state with
        nextReload := pitCountValue state.isBcd written
        isNextPending := true } := by
  exact if_pos (not_not.mp h)

section

variable {state : PitState} {inPhase : Prop} (h : KeepsPhase state inPhase)

include h

theorem KeepsPhase.pitLoad (written : UInt16) :
    KeepsPhase (pitLoad state written) (if state.Restarts then True else inPhase) := by
  by_cases hrestarts : state.Restarts
  · have hload : (Pit.pitLoad state written).loadClocks = state.totalClocks ∧
        (Pit.pitLoad state written).totalClocks = state.totalClocks ∧
        (Pit.pitLoad state written).accumulator = 0 ∧
        (Pit.pitLoad state written).isNextPending = false := by
      unfold Pit.pitLoad
      rw [if_neg hrestarts]
      exact ⟨rfl, rfl, rfl, rfl⟩
    obtain ⟨hloaded, htotal, haccumulator, hpending⟩ := hload
    have hload_le : (Pit.pitLoad state written).loadClocks.toNat ≤
        (Pit.pitLoad state written).totalClocks.toNat := by rw [hloaded, htotal]
    rw [if_pos hrestarts]
    exact
      { load_le := hload_le
        accumulator_le := by
          rw [haccumulator]
          exact Nat.zero_le _
        inStep := fun _ => by
          refine iff_of_true ?_ trivial
          unfold PitState.InStep
          rw [elapsed_eq hload_le, hloaded, htotal, haccumulator, Nat.sub_self]
          rfl
        loaded := fun _ => trivial
        parked := fun h => absurd (hpending.symm.trans h) (by simp) }
  · rw [if_neg hrestarts, pitLoad_parked hrestarts]
    exact
      { load_le := h.load_le
        accumulator_le := h.accumulator_le
        inStep := h.inStep
        loaded := h.loaded
        parked := fun _ => (not_not.mp hrestarts).2 }

theorem KeepsPhase.controlWord (controlWord : UInt8) :
    KeepsPhase (pitCounter0Control state controlWord)
      (if IsPeriodic (pitCounter0Control state controlWord).mode then
        (pitCounter0Control state controlWord).InStep else inPhase) where
  load_le := h.load_le
  accumulator_le := h.accumulator_le
  inStep hmode := by rw [if_pos hmode]
  loaded harmed := absurd harmed (by simp [pitCounter0Control])
  parked hpending := absurd hpending (by simp [pitCounter0Control])

theorem KeepsPhase.portOut (port : Nat) (byteValue : UInt8) :
    KeepsPhase (pitPortOut state port byteValue)
      (phaseAfter state (.portOut port byteValue) inPhase) := by
  have hnext : (pitEvent state (.portOut port byteValue)).1 = pitPortOut state port byteValue := rfl
  rcases pitPortOut_cases state port byteValue with
    ⟨hcommits, written, hsame⟩ | ⟨hword, heq⟩ | ⟨hcommits, hword, hsame⟩
  · have hnot : ¬ IsControlWord (.portOut port byteValue) := by
      rintro ⟨hport, -⟩
      exact absurd (hport.symm.trans hcommits.1) (by decide)
    have hphase : phaseAfter state (.portOut port byteValue) inPhase =
        if state.Restarts then True else inPhase := by
      unfold phaseAfter
      by_cases hrestarts : state.Restarts
      · rw [if_pos ⟨hcommits, hrestarts⟩, if_pos hrestarts]
      · rw [if_neg fun hboth => hrestarts hboth.2, if_neg fun hboth => hnot hboth.1,
          if_neg hrestarts]
    rw [hphase]
    exact hsame.keepsPhase (h.pitLoad written)
  · have hnot : ¬ CommitsCount state (.portOut port byteValue) := by
      rintro ⟨hport, -⟩
      exact absurd (hport.symm.trans hword.1) (by decide)
    have hphase : phaseAfter state (.portOut port byteValue) inPhase =
        if IsPeriodic (pitCounter0Control state byteValue).mode then
          (pitCounter0Control state byteValue).InStep else inPhase := by
      unfold phaseAfter
      rw [if_neg fun hboth => hnot hboth.1, hnext, heq]
      by_cases hmode : IsPeriodic (pitCounter0Control state byteValue).mode
      · rw [if_pos ⟨hword, hmode⟩, if_pos hmode]
      · rw [if_neg fun hboth => hmode hboth.2, if_neg hmode]
    rw [hphase, heq]
    exact h.controlWord byteValue
  · have hphase : phaseAfter state (.portOut port byteValue) inPhase = inPhase := by
      unfold phaseAfter
      rw [if_neg fun hboth => hcommits hboth.1, if_neg fun hboth => hword hboth.1]
    rw [hphase]
    exact hsame.keepsPhase h

end

theorem pitCatchUp_totalClocks (rounds : Nat) (state : PitState) :
    (pitCatchUp rounds state).1.totalClocks = state.totalClocks := by
  induction rounds generalizing state with
  | zero => rfl
  | succ rounds ih =>
    by_cases h : vddPitEffectiveReload state ≤ state.accumulator.toNat
    · rw [pitCatchUp_succ h, ih]
      unfold periodEnd
      split <;> rfl
    · rw [pitCatchUp_of_caughtUp (Nat.lt_of_not_le h)]

theorem addClocks_totalClocks (state : PitState) (clocks : UInt32) :
    (vddPitAddClocks state clocks).1.totalClocks = state.totalClocks + clocks.toUInt64 := by
  by_cases hmode : IsPeriodic state.mode
  · rw [vddPitAddClocks_periodic hmode, pitCatchUp_totalClocks]
    rfl
  · by_cases hexpires : state.Expires clocks
    · rw [vddPitAddClocks_expires hmode hexpires]
      rfl
    · rw [vddPitAddClocks_waits hmode hexpires]
      rfl

theorem portOut_totalClocks (state : PitState) (port : Nat) (byteValue : UInt8) :
    (pitPortOut state port byteValue).totalClocks = state.totalClocks := by
  rcases pitPortOut_cases state port byteValue with
    ⟨-, written, hsame⟩ | ⟨-, heq⟩ | ⟨-, -, hsame⟩
  · rw [hsame.totalClocks]
    unfold pitLoad
    split <;> rfl
  · rw [heq]
    rfl
  · exact hsame.totalClocks

theorem event_totalClocks {event : PitEvent} (h : state.totalClocks.toNat + event.clocks < 2 ^ 64) :
    (pitEvent state event).1.totalClocks.toNat = state.totalClocks.toNat + event.clocks := by
  cases event with
  | addClocks clocks =>
    change (vddPitAddClocks state clocks).1.totalClocks.toNat = _
    rw [addClocks_totalClocks, UInt64.toNat_add, UInt32.toNat_toUInt64]
    exact mod_eq_of_lt h
  | portOut port byteValue =>
    exact congrArg UInt64.toNat (portOut_totalClocks state port byteValue)

theorem KeepsPhase.event (h : KeepsPhase state inPhase) {event : PitEvent}
    (hclocks : state.totalClocks.toNat + event.clocks < 2 ^ 64) :
    KeepsPhase (pitEvent state event).1 (phaseAfter state event inPhase) := by
  cases event with
  | addClocks clocks =>
    have hphase : phaseAfter state (.addClocks clocks) inPhase = inPhase := by
      unfold phaseAfter
      rw [if_neg fun hboth => hboth.1, if_neg fun hboth => hboth.1]
    rw [hphase]
    exact h.addClocks hclocks
  | portOut port byteValue => exact h.portOut port byteValue

theorem KeepsPhase.run (h : KeepsPhase state inPhase) {events : List PitEvent}
    (hclocks : state.totalClocks.toNat + runClocks events < 2 ^ 64) :
    KeepsPhase (pitRun state events) (InPhase state inPhase events) := by
  induction events generalizing state inPhase with
  | nil => exact h
  | cons event events ih =>
    have hsum : runClocks (event :: events) = event.clocks + runClocks events := List.sum_cons
    rw [hsum] at hclocks
    have hevent : state.totalClocks.toNat + event.clocks < 2 ^ 64 := by lia
    exact ih (h.event hevent) (by rw [event_totalClocks hevent]; lia)

theorem keepsPhase_reset : KeepsPhase vddPitReset True where
  load_le := le_rfl
  accumulator_le := le_rfl
  inStep _ := iff_of_true (by unfold PitState.InStep; decide) trivial
  loaded _ := trivial
  parked h := absurd h (by decide)

theorem one_toUInt64 : (1 : UInt32).toUInt64.toNat = 1 := rfl

abbrev PitState.endedPeriod (state : PitState) : PitState :=
  periodEnd (state.later (1 : UInt32).toUInt64)

section

variable {state : PitState} (hmode : IsPeriodic state.mode)

include hmode

theorem addClocks_one (hcaught : state.IsCaughtUp) :
    (state.accumulator.toNat + 1 < vddPitEffectiveReload state ∧
        vddPitAddClocks state 1 = (state.later (1 : UInt32).toUInt64, 0)) ∨
      (state.accumulator.toNat + 1 = vddPitEffectiveReload state ∧
        vddPitAddClocks state 1 = (state.endedPeriod, 1) ∧
        state.endedPeriod.accumulator.toNat = 0) := by
  have hbound : vddPitEffectiveReload state ≤ pitBinaryWrap := effectiveReload_le _ _
  have hlt : state.accumulator.toNat < vddPitEffectiveReload state := hcaught
  have haccumulator : (state.later (1 : UInt32).toUInt64).accumulator.toNat =
      state.accumulator.toNat + 1 := by
    rw [later_accumulator, one_toUInt64]
    unfold pitBinaryWrap at hbound
    rw [one_toUInt64]
    lia
  have hreload : vddPitEffectiveReload (state.later (1 : UInt32).toUInt64) =
      vddPitEffectiveReload state := rfl
  rw [vddPitAddClocks_periodic hmode]
  rcases Nat.lt_or_ge (state.accumulator.toNat + 1) (vddPitEffectiveReload state) with
    hinside | hend
  · refine Or.inl ⟨hinside, pitCatchUp_of_caughtUp ?_⟩
    unfold PitState.IsCaughtUp
    rw [haccumulator, hreload]
    exact hinside
  · have hreached : vddPitEffectiveReload (state.later (1 : UInt32).toUInt64) ≤
        (state.later (1 : UInt32).toUInt64).accumulator.toNat := by
      rw [haccumulator, hreload]
      exact hend
    have hzero : state.endedPeriod.accumulator.toNat = 0 := by
      rw [periodEnd_accumulator hreached, haccumulator, hreload]
      lia
    have hnext : state.endedPeriod.IsCaughtUp := by
      unfold PitState.IsCaughtUp
      rw [hzero]
      exact effectiveReload_pos _ _
    have hguard : pitCatchUpGuard = 99999 + 1 := rfl
    refine Or.inr ⟨by lia, ?_, hzero⟩
    rw [hguard, pitCatchUp_succ hreached, pitCatchUp_of_caughtUp hnext]

theorem addClocks_one_caughtUp
    (hcaught : state.IsCaughtUp) : (vddPitAddClocks state 1).1.IsCaughtUp := by
  have hbound : vddPitEffectiveReload state ≤ pitBinaryWrap := effectiveReload_le _ _
  rcases addClocks_one hmode hcaught with ⟨hinside, heq⟩ | ⟨-, heq, hzero⟩
  · rw [heq]
    have haccumulator : (state.later (1 : UInt32).toUInt64).accumulator.toNat =
        state.accumulator.toNat + 1 := by
      rw [later_accumulator, one_toUInt64]
      unfold pitBinaryWrap at hbound
      rw [one_toUInt64]
      omega
    unfold PitState.IsCaughtUp
    rw [haccumulator]
    exact hinside
  · rw [heq]
    unfold PitState.IsCaughtUp
    rw [hzero]
    exact effectiveReload_pos _ _

theorem addClocks_mode (clocks : UInt32) :
    (vddPitAddClocks state clocks).1.mode = state.mode := by
  rw [vddPitAddClocks_periodic hmode, pitCatchUp_mode]
  rfl

end

theorem phase_of_inStep (h : state.InStep) (hcaught : state.IsCaughtUp) :
    state.accumulator.toNat = state.elapsed % vddPitEffectiveReload state :=
  (mod_eq_of_lt hcaught).symm.trans h

theorem raisesAtEdge (h : KeepsPhase state True) (hmode : IsPeriodic state.mode)
    (hcaught : state.IsCaughtUp) (hclocks : state.totalClocks.toNat + 1 < 2 ^ 64)
    (hreload : 2 ≤ vddPitEffectiveReload state)
    (hnext : 2 ≤ vddPitEffectiveReload (vddPitAddClocks state 1).1)
    (hparity : state.mode = pitMode2 ∨ Even (vddPitEffectiveReload state)) :
    RaisesAtEdge state := by
  have hphase := phase_of_inStep ((h.inStep hmode).mpr trivial) hcaught
  have hlater : (state.later (1 : UInt32).toUInt64).elapsed = state.elapsed + 1 := by
    rw [later_elapsed h.load_le (by rw [one_toUInt64]; exact hclocks), one_toUInt64]
  unfold RaisesAtEdge
  rcases addClocks_one hmode hcaught with ⟨hinside, heq⟩ | ⟨hend, heq, hzero⟩
  · rw [heq]
    refine ⟨Nat.zero_le _, iff_of_false Nat.zero_ne_one ?_⟩
    rintro ⟨-, hlow, hhigh⟩
    rw [hphase] at hinside
    have hstays := pitOutPin_inside hmode hinside hlow
    unfold PitState.outPin at hhigh
    rw [hlater] at hhigh
    exact absurd (hstays.symm.trans hhigh) (by decide)
  · rw [heq] at hnext
    rw [heq]
    refine ⟨le_rfl, iff_of_true rfl ?_⟩
    rw [hphase] at hend
    have hlow : state.outPin = false := pitOutPin_end hmode hreload hend
    have hmode' : IsPeriodic state.endedPeriod.mode := by
      rw [periodEnd_mode]
      exact hmode
    by_cases hparked : (state.later (1 : UInt32).toUInt64).isNextPending = true
    · have hloaded : state.endedPeriod.elapsed = 0 := by
        have hload : state.endedPeriod.loadClocks =
            state.endedPeriod.totalClocks - state.endedPeriod.accumulator := by
          rw [show state.endedPeriod = _ from periodEnd_parked hparked]
        have hnone : state.endedPeriod.accumulator = 0 :=
          UInt64.toNat_inj.mp hzero
        rw [hnone, UInt64.sub_zero] at hload
        rw [elapsed_eq (by rw [hload]), hload, Nat.sub_self]
      have hcount : pitCurrentCount state.endedPeriod =
          vddPitEffectiveReload state.endedPeriod % pitWrap state.endedPeriod.isBcd := by
        unfold pitCurrentCount
        rw [hloaded]
        exact pitCountLaw_loaded hmode' _ _
      refine ⟨hcount, hlow, ?_⟩
      unfold PitState.outPin
      rw [hloaded]
      exact pitOutPin_start hmode' hnext (zero_mod _)
    · have hrunning : state.endedPeriod = _ := periodEnd_running hparked
      have hboundary : (state.elapsed + 1) % vddPitEffectiveReload state = 0 := by
        rw [add_mod, mod_eq_of_lt (show 1 < vddPitEffectiveReload state by lia), hend,
          mod_self]
      have helapsed : state.endedPeriod.elapsed = state.elapsed + 1 := by
        rw [hrunning]
        exact hlater
      have hsame : vddPitEffectiveReload state.endedPeriod = vddPitEffectiveReload state := by
        rw [hrunning]
        rfl
      have hparity' : state.endedPeriod.mode = pitMode2 ∨
          Even (vddPitEffectiveReload state.endedPeriod) := by
        rw [periodEnd_mode, hsame]
        exact hparity
      rw [← hsame, ← helapsed] at hboundary
      exact ⟨pitCountLaw_start hmode' hparity' hboundary _, hlow,
        pitOutPin_start hmode' hnext hboundary⟩

/-! ## The clocks after a run -/

theorem afterClocks_succ (clocks : Nat) (state : PitState) :
    afterClocks (clocks + 1) state = (vddPitAddClocks (afterClocks clocks state) 1).1 :=
  Function.iterate_succ_apply' _ _ _

theorem afterClocks_keeps (h : KeepsPhase state True) (hmode : IsPeriodic state.mode)
    (hcaught : state.IsCaughtUp) (clocks : Nat)
    (hclocks : state.totalClocks.toNat + clocks < 2 ^ 64) :
    KeepsPhase (afterClocks clocks state) True ∧ (afterClocks clocks state).mode = state.mode ∧
      (afterClocks clocks state).IsCaughtUp ∧
      (afterClocks clocks state).totalClocks.toNat = state.totalClocks.toNat + clocks := by
  induction clocks with
  | zero => exact ⟨h, rfl, hcaught, rfl⟩
  | succ clocks ih =>
    obtain ⟨hkeeps, hmode', hcaught', htotal⟩ := ih (by omega)
    have hperiodic : IsPeriodic (afterClocks clocks state).mode := by
      rw [hmode']
      exact hmode
    have hone : (1 : UInt32).toNat = 1 := rfl
    rw [afterClocks_succ]
    refine ⟨hkeeps.addClocks (by rw [hone]; omega), (addClocks_mode hperiodic 1).trans hmode',
      addClocks_one_caughtUp hperiodic hcaught', ?_⟩
    rw [addClocks_totalClocks, UInt64.toNat_add, one_toUInt64, htotal]
    exact mod_eq_of_lt (by omega)

/-- Mode 2 with a count of 16, and five clocks. -/
def rateOf16 : List PitEvent :=
  [.portOut 0x43 0x34, .portOut 0x40 0x10, .portOut 0x40 0x00, .addClocks 5]

/-- Mode 3 with a count of 3. -/
def squareWaveOf3 : List PitEvent :=
  [.portOut 0x43 0x36, .portOut 0x40 0x03, .portOut 0x40 0x00]

/-- Mode 0 with a count of 16, five clocks, and mode 2 with no new count. -/
def switchedMidway : List PitEvent :=
  [.portOut 0x43 0x30, .portOut 0x40 0x10, .portOut 0x40 0x00, .addClocks 5, .portOut 0x43 0x34]

end Ntvdmex.Vdd.Pit
