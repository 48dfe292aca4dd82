import Ntvdmex.Vdd.Pit

/-!
# How time is delivered to the 8254

The catch-up loop under more clocks, and that delivering clocks in two pieces is
delivering their sum.
-/

namespace Ntvdmex.Vdd.Pit

open Nat UInt64 PitState

variable {state : PitState} {clocks a b : UInt32} {rounds : Nat}

theorem effectiveReload_pos (reload : UInt16) (isBcd : Bool) :
    0 < effectiveReload reload isBcd := by
  unfold effectiveReload
  split
  · cases isBcd <;> decide
  · rename_i hne
    exact Nat.pos_of_ne_zero fun hzero => hne (UInt16.toNat_inj.mp hzero)

theorem effectiveReload_le (reload : UInt16) (isBcd : Bool) :
    effectiveReload reload isBcd ≤ pitBinaryWrap := by
  unfold effectiveReload
  split
  · cases isBcd <;> decide
  · exact reload.toNat_lt.le

theorem toNat_ofNat_reload (state : PitState) :
    (ofNat (vddPitEffectiveReload state)).toNat = vddPitEffectiveReload state := by
  have hle := effectiveReload_le state.reload state.isBcd
  rw [toNat_ofNat']
  refine mod_eq_of_lt (lt_of_le_of_lt hle ?_)
  decide

/-! ## The catch-up loop -/

/-- Both clock totals, `clocks` later. -/
def PitState.later (state : PitState) (clocks : UInt64) : PitState :=
  { state with
    totalClocks := state.totalClocks + clocks
    accumulator := state.accumulator + clocks }

/-- The accumulator holds less than a period. -/
def PitState.IsCaughtUp (state : PitState) : Prop :=
  state.accumulator.toNat < vddPitEffectiveReload state

@[simp] theorem periodEnd_mode (state : PitState) : (periodEnd state).mode = state.mode := by
  unfold periodEnd
  split <;> rfl

theorem periodEnd_accumulator (h : vddPitEffectiveReload state ≤ state.accumulator.toNat) :
    (periodEnd state).accumulator.toNat =
      state.accumulator.toNat - vddPitEffectiveReload state := by
  have hle : ofNat (vddPitEffectiveReload state) ≤ state.accumulator := by
    rw [le_iff_toNat_le, toNat_ofNat_reload]
    exact h
  have haccumulator : (periodEnd state).accumulator =
      state.accumulator - ofNat (vddPitEffectiveReload state) := by
    unfold periodEnd
    split <;> rfl
  rw [haccumulator, UInt64.toNat_sub_of_le _ _ hle, toNat_ofNat_reload]

theorem periodEnd_later (state : PitState) (clocks : UInt64) :
    periodEnd (state.later clocks) = (periodEnd state).later clocks := by
  have haccumulator (reload : UInt64) :
      state.accumulator + clocks - reload = state.accumulator - reload + clocks := by grind
  have hload (reload : UInt64) :
      state.totalClocks + clocks - (state.accumulator - reload + clocks) =
        state.totalClocks - (state.accumulator - reload) := by grind
  unfold periodEnd later vddPitEffectiveReload
  dsimp only
  split
  · rw [haccumulator, hload]
  · rw [haccumulator]

theorem later_accumulator {clocks : UInt64} (h : state.accumulator.toNat + clocks.toNat < 2 ^ 64) :
    (state.later clocks).accumulator.toNat = state.accumulator.toNat + clocks.toNat := by
  change (state.accumulator + clocks).toNat = _
  rw [UInt64.toNat_add]
  exact mod_eq_of_lt h

theorem pitCatchUp_of_caughtUp (h : state.IsCaughtUp) : pitCatchUp rounds state = (state, 0) := by
  cases rounds with
  | zero => rfl
  | succ rounds =>
    exact if_neg (Nat.not_le_of_lt h)

theorem pitCatchUp_succ (h : vddPitEffectiveReload state ≤ state.accumulator.toNat) :
    pitCatchUp (rounds + 1) state =
      ((pitCatchUp rounds (periodEnd state)).1, (pitCatchUp rounds (periodEnd state)).2 + 1) := by
  rw [pitCatchUp, if_pos h]

@[simp] theorem pitCatchUp_mode (rounds : Nat) (state : PitState) :
    (pitCatchUp rounds state).1.mode = state.mode := by
  induction rounds generalizing state with
  | zero => rfl
  | succ rounds ih =>
    by_cases h : vddPitEffectiveReload state ≤ state.accumulator.toNat
    · rw [pitCatchUp_succ h, ih, periodEnd_mode]
    · rw [pitCatchUp_of_caughtUp (Nat.lt_of_not_le h)]

theorem accumulator_le_of_caughtUp (h : (pitCatchUp rounds state).1.IsCaughtUp) :
    state.accumulator.toNat < (rounds + 1) * pitBinaryWrap := by
  have hreload := effectiveReload_le state.reload state.isBcd
  induction rounds generalizing state with
  | zero =>
    rw [Nat.zero_add, Nat.one_mul]
    exact lt_of_lt_of_le h hreload
  | succ rounds ih =>
    by_cases hmore : vddPitEffectiveReload state ≤ state.accumulator.toNat
    · rw [pitCatchUp_succ hmore] at h
      have hrest := ih h (effectiveReload_le _ _)
      rw [periodEnd_accumulator hmore] at hrest
      unfold vddPitEffectiveReload at hrest
      rw [succ_mul]
      omega
    · have hreload' : vddPitEffectiveReload state ≤ pitBinaryWrap := hreload
      rw [succ_mul, succ_mul]
      omega

theorem pitCatchUp_later {clocks : UInt64} (h : state.accumulator.toNat + clocks.toNat < 2 ^ 64) :
    pitCatchUp rounds (state.later clocks) =
      let first := pitCatchUp rounds state
      let second := pitCatchUp (rounds - first.2) (first.1.later clocks)
      (second.1, first.2 + second.2) := by
  induction rounds generalizing state with
  | zero => rfl
  | succ rounds ih =>
    by_cases hmore : vddPitEffectiveReload state ≤ state.accumulator.toNat
    · have hlater : vddPitEffectiveReload (state.later clocks) ≤
          (state.later clocks).accumulator.toNat := by
        rw [later_accumulator h]
        exact hmore.trans (Nat.le_add_right _ _)
      have hsum : (periodEnd state).accumulator.toNat + clocks.toNat < 2 ^ 64 := by
        rw [periodEnd_accumulator hmore]
        lia
      rw [pitCatchUp_succ hlater, periodEnd_later, ih hsum, pitCatchUp_succ hmore]
      dsimp only
      rw [Nat.add_sub_add_right]
      refine Prod.ext rfl ?_
      lia
    · have hcaught : state.IsCaughtUp := Nat.lt_of_not_le hmore
      rw [pitCatchUp_of_caughtUp hcaught]
      dsimp only
      rw [Nat.sub_zero, Nat.zero_add]

theorem pitCatchUp_raises_le (rounds : Nat) (state : PitState) :
    (pitCatchUp rounds state).2 ≤ rounds := by
  induction rounds generalizing state with
  | zero => exact le_rfl
  | succ rounds ih =>
    by_cases h : vddPitEffectiveReload state ≤ state.accumulator.toNat
    · rw [pitCatchUp_succ h]
      exact succ_le_succ (ih _)
    · rw [pitCatchUp_of_caughtUp (Nat.lt_of_not_le h)]
      exact Nat.zero_le _

/-- Rounds beyond those a loop needs change nothing. -/
theorem pitCatchUp_add (h : (pitCatchUp rounds state).1.IsCaughtUp) (more : Nat) :
    pitCatchUp (rounds + more) state = pitCatchUp rounds state := by
  induction rounds generalizing state with
  | zero => exact pitCatchUp_of_caughtUp h
  | succ rounds ih =>
    by_cases hmore : vddPitEffectiveReload state ≤ state.accumulator.toNat
    · rw [pitCatchUp_succ hmore] at h ⊢
      rw [succ_add, pitCatchUp_succ hmore, ih h]
    · have hcaught : state.IsCaughtUp := Nat.lt_of_not_le hmore
      rw [pitCatchUp_of_caughtUp hcaught, pitCatchUp_of_caughtUp hcaught]

/-! ## Two pieces and their sum -/

def CatchesUp (state : PitState) (clocks : UInt32) : Prop :=
  IsPeriodic state.mode → (vddPitAddClocks state clocks).1.IsCaughtUp

def ElapsedFits (state : PitState) (clocks : Nat) : Prop :=
  ¬ IsPeriodic state.mode → state.isIrqArmed = true →
    (state.totalClocks - state.loadClocks).toNat + clocks < 2 ^ 64

theorem vddPitAddClocks_periodic (h : IsPeriodic state.mode) (clocks : UInt32) :
    vddPitAddClocks state clocks = pitCatchUp pitCatchUpGuard (state.later clocks.toUInt64) := by
  exact if_pos h

/-- The state of a one-shot after some clocks, but for its interrupt. -/
def PitState.idle (state : PitState) (clocks : UInt32) : PitState :=
  { state with totalClocks := state.totalClocks + clocks.toUInt64, accumulator := 0 }

def PitState.sinceLoad (state : PitState) : Nat := (state.totalClocks - state.loadClocks).toNat

/-- The one-shot of `state` reaches terminal count within `clocks`. -/
def PitState.Expires (state : PitState) (clocks : UInt32) : Prop :=
  state.isIrqArmed = true ∧ vddPitEffectiveReload state ≤ (state.idle clocks).sinceLoad

/-- The one-shot has raised its interrupt. -/
def PitState.spent (state : PitState) : PitState := { state with isIrqArmed := false }

theorem vddPitAddClocks_expires (hmode : ¬ IsPeriodic state.mode) (h : state.Expires clocks) :
    vddPitAddClocks state clocks = ((state.idle clocks).spent, 1) := by
  exact (if_neg hmode).trans (if_pos h)

theorem vddPitAddClocks_waits (hmode : ¬ IsPeriodic state.mode) (h : ¬ state.Expires clocks) :
    vddPitAddClocks state clocks = (state.idle clocks, 0) := by
  exact (if_neg hmode).trans (if_neg h)

theorem toUInt64_add (h : a.toNat + b.toNat < 2 ^ 32) :
    (a + b).toUInt64 = a.toUInt64 + b.toUInt64 := by
  apply UInt64.toNat_inj.mp
  rw [UInt64.toNat_add, UInt32.toNat_toUInt64, UInt32.toNat_toUInt64, UInt32.toNat_toUInt64,
    UInt32.toNat_add, mod_eq_of_lt h, mod_eq_of_lt (by omega)]

theorem later_add (state : PitState) (h : a.toNat + b.toNat < 2 ^ 32) :
    state.later (a + b).toUInt64 = (state.later a.toUInt64).later b.toUInt64 := by
  unfold later
  rw [toUInt64_add h, UInt64.add_assoc, UInt64.add_assoc]

theorem idle_add (state : PitState) (h : a.toNat + b.toNat < 2 ^ 32) :
    state.idle (a + b) = (state.idle a).idle b := by
  unfold idle
  rw [toUInt64_add h, UInt64.add_assoc]

theorem sinceLoad_idle (h : state.sinceLoad + clocks.toNat < 2 ^ 64) :
    (state.idle clocks).sinceLoad = state.sinceLoad + clocks.toNat := by
  have hsum : state.totalClocks + clocks.toUInt64 - state.loadClocks =
      state.totalClocks - state.loadClocks + clocks.toUInt64 := by grind
  change (state.totalClocks + clocks.toUInt64 - state.loadClocks).toNat = _
  rw [hsum, UInt64.toNat_add, UInt32.toNat_toUInt64]
  exact mod_eq_of_lt h

theorem addClocks_split_periodic (hperiodic : IsPeriodic state.mode)
    (hsum : a.toNat + b.toNat < 2 ^ 32) (hfirst : CatchesUp state a)
    (hwhole : CatchesUp state (a + b)) :
    vddPitAddClocks state (a + b) =
      ((vddPitAddClocks (vddPitAddClocks state a).1 b).1,
        (vddPitAddClocks state a).2 + (vddPitAddClocks (vddPitAddClocks state a).1 b).2) := by
  have hfirst := hfirst hperiodic
  have hwhole := hwhole hperiodic
  rw [vddPitAddClocks_periodic hperiodic] at hfirst hwhole ⊢
  have hbound := accumulator_le_of_caughtUp hfirst
  have hroom : (state.later a.toUInt64).accumulator.toNat + b.toUInt64.toNat < 2 ^ 64 := by
    rw [UInt32.toNat_toUInt64]
    unfold pitCatchUpGuard pitBinaryWrap at hbound
    omega
  rw [later_add state hsum, pitCatchUp_later hroom] at hwhole ⊢
  rw [vddPitAddClocks_periodic hperiodic]
  have hmode : IsPeriodic (pitCatchUp pitCatchUpGuard (state.later a.toUInt64)).1.mode := by
    rw [pitCatchUp_mode]
    exact hperiodic
  rw [vddPitAddClocks_periodic hmode]
  have hadd := pitCatchUp_add hwhole (pitCatchUp pitCatchUpGuard (state.later a.toUInt64)).2
  rw [Nat.sub_add_cancel (pitCatchUp_raises_le _ _)] at hadd
  rw [hadd]

theorem addClocks_split_oneShot (honeShot : ¬ IsPeriodic state.mode)
    (hsum : a.toNat + b.toNat < 2 ^ 32) (hfits : ElapsedFits state (a.toNat + b.toNat)) :
    vddPitAddClocks state (a + b) =
      ((vddPitAddClocks (vddPitAddClocks state a).1 b).1,
        (vddPitAddClocks state a).2 + (vddPitAddClocks (vddPitAddClocks state a).1 b).2) := by
  have hidle : ¬ IsPeriodic (state.idle a).mode := honeShot
  by_cases harmed : state.isIrqArmed = true
  swap
  · rw [vddPitAddClocks_waits honeShot (fun h => harmed h.1),
      vddPitAddClocks_waits honeShot (fun h => harmed h.1), idle_add state hsum]
    rw [vddPitAddClocks_waits hidle (fun h => harmed h.1), Nat.zero_add]
  have hlimit : state.sinceLoad + (a.toNat + b.toNat) < 2 ^ 64 := hfits honeShot harmed
  have hafterA : (state.idle a).sinceLoad = state.sinceLoad + a.toNat :=
    sinceLoad_idle (by lia)
  have hafterB : ((state.idle a).idle b).sinceLoad = state.sinceLoad + a.toNat + b.toNat := by
    rw [sinceLoad_idle (by rw [hafterA]; lia), hafterA]
  by_cases hfirst : state.Expires a
  · have hwhole : state.Expires (a + b) := by
      refine ⟨harmed, ?_⟩
      have hreached := hfirst.2
      rw [idle_add state hsum, hafterB]
      rw [hafterA] at hreached
      lia
    rw [vddPitAddClocks_expires honeShot hwhole, vddPitAddClocks_expires honeShot hfirst,
      idle_add state hsum]
    have hrest : vddPitAddClocks (state.idle a).spent b = ((state.idle a).spent.idle b, 0) :=
      vddPitAddClocks_waits honeShot fun h => absurd h.1 (by simp [spent])
    rw [hrest]
    rfl
  · rw [vddPitAddClocks_waits honeShot hfirst]
    rw [Nat.zero_add]
    by_cases hsecond : (state.idle a).Expires b
    · have hwhole : state.Expires (a + b) := by
        refine ⟨harmed, ?_⟩
        rw [idle_add state hsum]
        exact hsecond.2
      rw [vddPitAddClocks_expires honeShot hwhole, vddPitAddClocks_expires hidle hsecond,
        idle_add state hsum]
    · have hwhole : ¬ state.Expires (a + b) := by
        rintro ⟨-, hreached⟩
        rw [idle_add state hsum] at hreached
        exact hsecond ⟨harmed, hreached⟩
      rw [vddPitAddClocks_waits honeShot hwhole, vddPitAddClocks_waits hidle hsecond,
        idle_add state hsum]

end Ntvdmex.Vdd.Pit
