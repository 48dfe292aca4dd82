import Ntvdmex.Vdd.Proofs.Pit.Speaker
import Ntvdmex.Vdd.Proofs.Pit.Views

/-!
# Counter 2's gate

While the gate is low the elapsed count is a frozen number, while it is high a load instant.
Both give the clocks the gate let through.
-/

namespace Ntvdmex.Vdd.Pit

open List UInt64

/-- The gate's level, the clocks since the last count or Control Word while it was high, and
the clocks since the later of that and its last rise. -/
structure GateCount where
  isHigh : Bool
  whileHigh : Nat
  sinceRise : Nat
  deriving DecidableEq, Repr

/-- The event completes a count of counter 2, or is its Control Word. -/
def CommitsCounter2 (state : PitState) (event : PitAccess) : Prop :=
  (controlsDivisor event).isSome = true ∨
    (writesDivisor event).isSome = true ∧ CompletesDivisor state
deriving Decidable

def GateCount.add (count : GateCount) (clocks : UInt32) : GateCount :=
  { count with
    whileHigh := if count.isHigh then count.whileHigh + clocks.toNat else count.whileHigh
    sinceRise := count.sinceRise + clocks.toNat }

def GateCount.level (count : GateCount) (isHigh : Bool) : GateCount :=
  { count with
    isHigh
    sinceRise := if isHigh = true ∧ count.isHigh = false then 0 else count.sinceRise }

def GateCount.next (state : PitState) (count : GateCount) (event : PitAccess) : GateCount :=
  if CommitsCounter2 state event then { count with whileHigh := 0, sinceRise := 0 }
  else
    match event with
    | .addClocks clocks => count.add clocks
    | .counter2Gate isHigh => count.level isHigh
    | _ => count

def gateRun (events : List PitAccess) : PitState × GateCount :=
  events.foldl (fun paired event => (pitAccess paired.1 event, paired.2.next paired.1 event))
    (vddPitReset, { isHigh := false, whileHigh := 0, sinceRise := 0 })

def PitAccess.clocks : PitAccess → Nat
  | .addClocks clocks => clocks.toNat
  | _ => 0

def accessClocks (events : List PitAccess) : Nat := (events.map PitAccess.clocks).sum

/-! ## What the registers hold of it -/

def GateCount.shown (count : GateCount) (mode : Nat) : Nat :=
  if IsPeriodic mode then count.sinceRise else count.whileHigh

/-- The gate of a counter in this mode is no trigger. -/
def IsGated (mode : Nat) : Prop := mode ≠ pitMode1 ∧ mode ≠ pitMode5
deriving Decidable

/-- Counter 2 holds a gate count: as a load instant while the gate is high, as a number while
it is low. -/
structure HoldsGateCount (side : Counter2Side) (count : GateCount) : Prop where
  gate : side.gate = count.isHigh
  whileHigh_le : count.whileHigh ≤ side.totalClocks.toNat
  sinceRise_le : count.sinceRise ≤ side.totalClocks.toNat
  running : count.isHigh = true → IsGated side.mode →
    side.loadClocks.toNat + count.shown side.mode = side.totalClocks.toNat
  paused : count.isHigh = false → IsGated side.mode → ¬IsPeriodic side.mode →
    side.gateElapsed.toNat = count.whileHigh

section Step

variable {state : PitState} {count : GateCount}

theorem HoldsGateCount.elapsed_running (h : HoldsGateCount state.counter2Side count)
    (hhigh : count.isHigh = true) (hmode : IsGated state.counter2.mode) :
    (pitCounterElapsed state state.counter2).toNat = count.shown state.counter2.mode := by
  have hsum : state.counter2.loadClocks.toNat + count.shown state.counter2.mode =
      state.totalClocks.toNat := h.running hhigh hmode
  have hgate : state.counter2.gate = true := h.gate.trans hhigh
  have hle : state.counter2.loadClocks ≤ state.totalClocks :=
    le_iff_toNat_le.mpr (by lia)
  unfold pitCounterElapsed
  rw [if_neg (by simp [hgate]), if_pos hle, UInt64.toNat_sub_of_le _ _ hle]
  lia

theorem HoldsGateCount.elapsed_paused (h : HoldsGateCount state.counter2Side count)
    (hlow : count.isHigh = false) (hmode : IsGated state.counter2.mode)
    (hperiodic : ¬IsPeriodic state.counter2.mode) :
    (pitCounterElapsed state state.counter2).toNat = count.whileHigh := by
  have hgate : state.counter2.gate = false := h.gate.trans hlow
  unfold pitCounterElapsed
  rw [if_pos ⟨hgate, hmode⟩]
  exact h.paused hlow hmode hperiodic

/-- A count or a Control Word starts both counts afresh. -/
theorem HoldsGateCount.commit {side side' : Counter2Side} (h : HoldsGateCount side count)
    (hgate : side'.gate = side.gate) (htotal : side'.totalClocks = side.totalClocks)
    (hload : side'.loadClocks = side.totalClocks) (helapsed : side'.gateElapsed = 0) :
    HoldsGateCount side' { count with whileHigh := 0, sinceRise := 0 } where
  gate := hgate.trans h.gate
  whileHigh_le := Nat.zero_le _
  sinceRise_le := Nat.zero_le _
  running := by
    intro _ _
    have hshown : GateCount.shown { count with whileHigh := 0, sinceRise := 0 } side'.mode = 0 :=
      ite_self 0
    rw [hload, htotal, hshown, Nat.add_zero]
  paused := by
    intro _ _ _
    rw [helapsed]
    rfl

section

variable (h : HoldsGateCount state.counter2Side count)

include h

theorem HoldsGateCount.add {clocks : UInt32}
    (hclocks : state.totalClocks.toNat + clocks.toNat < 2 ^ 64) :
    HoldsGateCount (vddPitAddClocks state clocks).1.counter2Side (count.add clocks) := by
  obtain ⟨total, a, b, c, d, e, hframe⟩ := vddPitAddClocks_frame state clocks
  have htotal : (vddPitAddClocks state clocks).1.totalClocks.toNat =
      state.totalClocks.toNat + clocks.toNat := by
    rw [addClocks_totalClocks, UInt64.toNat_add, UInt32.toNat_toUInt64]
    exact Nat.mod_eq_of_lt hclocks
  have hside : (vddPitAddClocks state clocks).1.counter2Side =
      { state.counter2Side with
        totalClocks := (vddPitAddClocks state clocks).1.totalClocks } := by
    rw [hframe]
    rfl
  have hhigh := h.whileHigh_le
  have hrise := h.sinceRise_le
  change _ ≤ state.totalClocks.toNat at hhigh hrise
  rw [hside]
  refine ⟨h.gate, ?_, ?_, ?_, ?_⟩
  · change (if count.isHigh = true then _ else _) ≤ _
    rw [htotal]
    split <;> lia
  · change count.sinceRise + clocks.toNat ≤ _
    rw [htotal]
    lia
  · intro hlevel hmode
    have hsum := h.running hlevel hmode
    have hshown : (count.add clocks).shown state.counter2Side.mode =
        count.shown state.counter2Side.mode + clocks.toNat := by
      unfold GateCount.shown GateCount.add
      rw [if_pos (show count.isHigh = true from hlevel)]
      split <;> rfl
    rw [hshown, htotal, ← Nat.add_assoc]
    exact congrArg (· + clocks.toNat) hsum
  · intro hlevel hmode hperiodic
    have hlow : count.isHigh = false := hlevel
    change state.counter2Side.gateElapsed.toNat = if count.isHigh = true then _ else _
    rw [hlow, if_neg (by decide)]
    exact h.paused hlow hmode hperiodic

theorem HoldsGateCount.rise (hlow : count.isHigh = false) :
    HoldsGateCount { state with counter2 := gateEdge state state.counter2 true }.counter2Side
      (count.level true) := by
  have hzero : (count.level true).sinceRise = 0 := if_pos ⟨rfl, hlow⟩
  by_cases htrigger : state.counter2.mode = pitMode1 ∨ state.counter2.mode = pitMode5
  · have hedge : gateEdge state state.counter2 true =
        { state.counter2 with
          loadClocks := state.totalClocks, isTriggered := true, gate := true } := if_pos htrigger
    rw [hedge]
    refine ⟨rfl, h.whileHigh_le, hzero ▸ Nat.zero_le _, ?_, ?_⟩
    · exact fun _ hmode => (htrigger.elim hmode.1 hmode.2).elim
    · exact fun hlevel => Bool.noConfusion hlevel
  have hmode : IsGated state.counter2.mode := not_or.mp htrigger
  have hedge : gateEdge state state.counter2 true =
      { state.counter2 with
        loadClocks :=
          if IsPeriodic state.counter2.mode then state.totalClocks
          else state.totalClocks - state.counter2.gateElapsed
        gate := true } := if_neg htrigger
  rw [hedge]
  refine ⟨rfl, h.whileHigh_le, hzero ▸ Nat.zero_le _, fun _ _ => ?_, fun hlevel =>
    Bool.noConfusion hlevel⟩
  change (if IsPeriodic state.counter2.mode then _ else _ : UInt64).toNat +
    (if IsPeriodic state.counter2.mode then (count.level true).sinceRise else count.whileHigh) =
      state.totalClocks.toNat
  by_cases hperiodic : IsPeriodic state.counter2.mode
  · rw [if_pos hperiodic, if_pos hperiodic, hzero, Nat.add_zero]
  · have hfrozen : state.counter2.gateElapsed.toNat = count.whileHigh :=
      h.paused hlow hmode hperiodic
    have hbound : count.whileHigh ≤ state.totalClocks.toNat := h.whileHigh_le
    have hle : state.counter2.gateElapsed ≤ state.totalClocks :=
      le_iff_toNat_le.mpr (by lia)
    rw [if_neg hperiodic, if_neg hperiodic, UInt64.toNat_sub_of_le _ _ hle]
    lia

theorem HoldsGateCount.fall (hhigh : count.isHigh = true) :
    HoldsGateCount { state with counter2 := gateEdge state state.counter2 false }.counter2Side
      (count.level false) := by
  have hsame : (count.level false).sinceRise = count.sinceRise := by
    simp [GateCount.level]
  by_cases htrigger : state.counter2.mode = pitMode1 ∨ state.counter2.mode = pitMode5
  · have hedge : gateEdge state state.counter2 false = { state.counter2 with gate := false } :=
      if_pos htrigger
    rw [hedge]
    refine ⟨rfl, h.whileHigh_le, hsame ▸ h.sinceRise_le, fun hlevel => Bool.noConfusion hlevel, ?_⟩
    exact fun _ hmode => (htrigger.elim hmode.1 hmode.2).elim
  have hmode : IsGated state.counter2.mode := not_or.mp htrigger
  have hedge : gateEdge state state.counter2 false =
      { state.counter2 with
        gateElapsed := pitCounterElapsed state state.counter2, gate := false } :=
    if_neg htrigger
  rw [hedge]
  refine ⟨rfl, h.whileHigh_le, hsame ▸ h.sinceRise_le, fun hlevel => Bool.noConfusion hlevel, ?_⟩
  intro _ _ hperiodic
  change (pitCounterElapsed state state.counter2).toNat = count.whileHigh
  rw [h.elapsed_running hhigh hmode]
  exact if_neg hperiodic

theorem HoldsGateCount.level (isHigh : Bool) :
    HoldsGateCount (vddPitCounter2Gate state isHigh).counter2Side (count.level isHigh) := by
  have hgate : state.counter2.gate = count.isHigh := h.gate
  unfold vddPitCounter2Gate
  by_cases hrepeated : isHigh = state.counter2.gate
  · have hsame : count.level isHigh = count := by
      rw [hrepeated, hgate]
      unfold GateCount.level
      rw [if_neg fun hboth => absurd (hboth.1.symm.trans hboth.2) (by decide)]
    rw [if_pos hrepeated, hsame]
    exact h
  · rw [if_neg hrepeated]
    rw [hgate] at hrepeated
    cases isHigh with
    | true => exact h.rise (Bool.eq_false_iff.mpr fun hhigh => hrepeated hhigh.symm)
    | false => exact h.fall (Bool.not_eq_false _ ▸ fun hlow => hrepeated hlow.symm)

theorem HoldsGateCount.write {flag : Bool}
    (hstep : InStep state flag) (byteValue : UInt8) :
    HoldsGateCount (pitCounter2Write state byteValue).counter2Side
      (if CompletesDivisor state then { count with whileHigh := 0, sinceRise := 0 }
        else count) := by
  by_cases hcompletes : CompletesDivisor state
  · obtain ⟨written, speakerFlip, counterFlip, -, hwrite⟩ :=
      pitCounter2Write_completes byteValue hcompletes hstep
    rw [if_pos hcompletes, hwrite]
    exact h.commit rfl rfl rfl rfl
  · rw [if_neg hcompletes, pitCounter2Write_first byteValue hcompletes hstep]
    exact ⟨h.gate, h.whileHigh_le, h.sinceRise_le, h.running, h.paused⟩

theorem HoldsGateCount.next {flag : Bool}
    (hstep : InStep state flag) {event : PitAccess}
    (hclocks : state.totalClocks.toNat + event.clocks < 2 ^ 64) :
    HoldsGateCount (pitAccess state event).counter2Side (count.next state event) := by
  cases hcontrols : controlsDivisor event with
  | some controlWord =>
    obtain ⟨hside, -⟩ := pitAccess_controlsCounter2 state hcontrols
    have hcommits : CommitsCounter2 state event := Or.inl (by rw [hcontrols]; rfl)
    have hnext : count.next state event = { count with whileHigh := 0, sinceRise := 0 } :=
      if_pos hcommits
    rw [hnext, hside]
    exact h.commit rfl rfl rfl rfl
  | none =>
    cases hwrites : writesDivisor event with
    | some byteValue =>
      have hcommits : CommitsCounter2 state event ↔ CompletesDivisor state := by
        unfold CommitsCounter2
        rw [hcontrols, hwrites]
        simp
      have hnext : count.next state event =
          if CompletesDivisor state then { count with whileHigh := 0, sinceRise := 0 }
          else count := by
        refine if_congr hcommits rfl ?_
        cases event with
        | addClocks => cases hwrites
        | counter2Gate => cases hwrites
        | portOut => rfl
        | portIn => rfl
      rw [hnext, pitAccess_writesDivisor state hwrites]
      exact h.write hstep byteValue
    | none =>
      have hcommits : ¬CommitsCounter2 state event := by
        unfold CommitsCounter2
        rw [hcontrols, hwrites]
        simp
      unfold GateCount.next
      rw [if_neg hcommits]
      cases event with
      | addClocks clocks => exact h.add hclocks
      | counter2Gate isHigh => exact h.level isHigh
      | portIn port =>
        change HoldsGateCount (pitPortIn state port).2.counter2Side count
        rw [pitPortIn_counter2Side]
        exact h
      | portOut port byteValue =>
        change HoldsGateCount (pitPortOut state port byteValue).counter2Side count
        rw [pitPortOut_counter2Side state hwrites hcontrols]
        exact h

end

end Step

/-! ## Runs -/

theorem pitAccess_totalClocks {state : PitState} {event : PitAccess}
    (h : state.totalClocks.toNat + event.clocks < 2 ^ 64) :
    (pitAccess state event).totalClocks.toNat = state.totalClocks.toNat + event.clocks := by
  cases event with
  | addClocks clocks => exact @event_totalClocks state (.addClocks clocks) h
  | portOut port byteValue => exact @event_totalClocks state (.portOut port byteValue) h
  | portIn port =>
    exact congrArg (fun side => side.totalClocks.toNat) (pitPortIn_counter2Side state port)
  | counter2Gate isHigh =>
    change (vddPitCounter2Gate state isHigh).totalClocks.toNat = _
    unfold vddPitCounter2Gate
    split_ifs <;> rfl

variable (events : List PitAccess)

theorem gateRun_concat (event : PitAccess) : gateRun (events ++ [event]) =
      (pitAccess (gateRun events).1 event,
        (gateRun events).2.next (gateRun events).1 event) := by
  unfold gateRun
  rw [foldl_append]
  rfl

theorem accessClocks_concat (event : PitAccess) :
    accessClocks (events ++ [event]) = accessClocks events + event.clocks := by
  unfold accessClocks
  rw [map_append, sum_append, map_singleton, sum_singleton]

theorem gateRun_state : (gateRun events).1 = events.foldl pitAccess vddPitReset := by
  induction events using reverseRecOn with
  | nil => rfl
  | append_singleton events event ih => rw [gateRun_concat, foldl_append, ← ih]; rfl

theorem gateRun_holds {events : List PitAccess} (h : accessClocks events < 2 ^ 64) :
    (gateRun events).1.totalClocks.toNat = accessClocks events ∧
      HoldsGateCount (gateRun events).1.counter2Side (gateRun events).2 := by
  induction events using reverseRecOn with
  | nil =>
    refine ⟨rfl, rfl, Nat.zero_le _, Nat.zero_le _, fun hhigh => Bool.noConfusion hhigh, ?_⟩
    exact fun _ _ _ => rfl
  | append_singleton events event ih =>
    rw [accessClocks_concat] at h ⊢
    obtain ⟨htotal, hholds⟩ := ih (by omega)
    have hclocks : (gateRun events).1.totalClocks.toNat + event.clocks < 2 ^ 64 := by
      rw [htotal]
      exact h
    have hstep : InStep (gateRun events).1 (loadedBcd vddPitReset false events) := by
      rw [gateRun_state]
      exact foldl_pitAccess_inStep inStep_vddPitReset events
    rw [gateRun_concat]
    exact ⟨(pitAccess_totalClocks hclocks).trans (congrArg (· + event.clocks) htotal),
      hholds.next hstep hclocks⟩

theorem vddPitCounter2Gate_repeated (state : PitState) (isHigh : Bool) :
    vddPitCounter2Gate (vddPitCounter2Gate state isHigh) isHigh =
      vddPitCounter2Gate state isHigh := by
  have hgate : (vddPitCounter2Gate state isHigh).counter2.gate = isHigh := by
    unfold vddPitCounter2Gate gateEdge
    split
    · next hsame => exact hsame.symm
    · cases isHigh <;> split <;> rfl
  exact if_pos hgate.symm

/-- In every run whose clocks fit their 64 bits, the gate pauses and resumes exactly. -/
theorem counter2_counts_while_gate_is_high (events : List PitAccess)
    (hclocks : accessClocks events < 2 ^ 64) :
    let state := events.foldl pitAccess vddPitReset
    let count := (gateRun events).2
    (state.counter2.mode = pitMode0 ∨ state.counter2.mode = pitMode4 →
      (pitCounterElapsed state state.counter2).toNat = count.whileHigh) ∧
    (state.counter2.mode = pitMode2 ∨ state.counter2.mode = pitMode3 → count.isHigh = true →
      (pitCounterElapsed state state.counter2).toNat = count.sinceRise) ∧
    ∀ isHigh, vddPitCounter2Gate (vddPitCounter2Gate state isHigh) isHigh =
      vddPitCounter2Gate state isHigh := by
  obtain ⟨-, hholds⟩ := gateRun_holds hclocks
  rw [gateRun_state] at hholds
  refine ⟨fun hmode => ?_, fun hmode hhigh => ?_, fun isHigh => vddPitCounter2Gate_repeated _ _⟩
  · have hgated : IsGated (events.foldl pitAccess vddPitReset).counter2.mode := by
      rcases hmode with hmode | hmode <;> rw [hmode] <;> decide
    have hperiodic : ¬IsPeriodic (events.foldl pitAccess vddPitReset).counter2.mode := by
      rcases hmode with hmode | hmode <;> rw [hmode] <;> decide
    cases hlevel : (gateRun events).2.isHigh with
    | true => exact (hholds.elapsed_running hlevel hgated).trans (if_neg hperiodic)
    | false => exact hholds.elapsed_paused hlevel hgated hperiodic
  · have hgated : IsGated (events.foldl pitAccess vddPitReset).counter2.mode := by
      rcases hmode with hmode | hmode <;> rw [hmode] <;> decide
    exact (hholds.elapsed_running hhigh hgated).trans (if_pos hmode)

/-- A wait timed with counter 2: the gate opened, closed, and opened again. -/
def gatedWait : List PitAccess :=
  [.portOut 0x43 0xB0, .portOut 0x42 0x00, .portOut 0x42 0x10, .counter2Gate true, .addClocks 300,
    .counter2Gate false, .addClocks 1000, .counter2Gate true, .addClocks 21]

theorem counter2_counts_while_gate_is_high_wait :
    (pitCounterElapsed (gatedWait.foldl pitAccess vddPitReset)
      (gatedWait.foldl pitAccess vddPitReset).counter2).toNat = 321 := by
  have hcount : (gateRun gatedWait).2.whileHigh = 321 := by decide
  rw [← hcount]
  exact (counter2_counts_while_gate_is_high gatedWait (by decide)).1 (by decide)

theorem foldl_addClocks (lumps : List UInt32) (state : PitState) (count : GateCount)
    (hhigh : count.isHigh = true) :
    let run := (lumps.map PitAccess.addClocks).foldl
      (fun paired event => (pitAccess paired.1 event, paired.2.next paired.1 event)) (state, count)
    run.1.counter2 = state.counter2 ∧
      run.1.totalClocks = state.totalClocks + ofNat (lumps.map UInt32.toNat).sum ∧
      run.2.whileHigh = count.whileHigh + (lumps.map UInt32.toNat).sum := by
  induction lumps generalizing state count with
  | nil => exact ⟨rfl, (UInt64.add_zero _).symm, rfl⟩
  | cons clocks rest ih =>
    obtain ⟨total, a, b, c, d, e, hframe⟩ := vddPitAddClocks_frame state clocks
    have hcounter : (pitAccess state (.addClocks clocks)).counter2 = state.counter2 := by
      change (vddPitAddClocks state clocks).1.counter2 = _
      rw [hframe]
    have htotal : (pitAccess state (.addClocks clocks)).totalClocks =
        state.totalClocks + clocks.toUInt64 := addClocks_totalClocks state clocks
    have hnext : count.next state (.addClocks clocks) = count.add clocks :=
      if_neg (by unfold CommitsCounter2; simp [controlsDivisor, writesDivisor])
    have hword : clocks.toUInt64 = ofNat clocks.toNat :=
      UInt64.toNat_inj.mp (by simp)
    obtain ⟨hsame, hsum, hwhile⟩ := ih (pitAccess state (.addClocks clocks))
      (count.next state (.addClocks clocks)) (by rw [hnext]; exact hhigh)
    refine ⟨hsame.trans hcounter, hsum.trans ?_, hwhile.trans ?_⟩
    · rw [htotal, hword, map_cons, sum_cons, ofNat_add, UInt64.add_assoc]
    · have hadd : (count.add clocks).whileHigh = count.whileHigh + clocks.toNat := if_pos hhigh
      rw [hnext, hadd, map_cons, sum_cons, Nat.add_assoc]

def openFor (lumps : List UInt32) : List PitAccess :=
  .counter2Gate true :: lumps.map PitAccess.addClocks

theorem openFor_wraps {lumps : List UInt32} (hsum : (lumps.map UInt32.toNat).sum = 2 ^ 64) :
    (gateRun (openFor lumps)).1.counter2.mode = pitMode0 ∧
      (gateRun (openFor lumps)).2.whileHigh = 2 ^ 64 ∧
      pitCounterElapsed (gateRun (openFor lumps)).1 (gateRun (openFor lumps)).1.counter2 = 0 := by
  obtain ⟨hcounter, htotal, hwhile⟩ := foldl_addClocks lumps
    (vddPitCounter2Gate vddPitReset true) { isHigh := true, whileHigh := 0, sinceRise := 0 } rfl
  change (gateRun (openFor lumps)).1.counter2 = _ at hcounter
  change (gateRun (openFor lumps)).1.totalClocks = _ at htotal
  change (gateRun (openFor lumps)).2.whileHigh = _ at hwhile
  have hword : ofNat (2 ^ 64) = 0 := by decide
  have hzero : (gateRun (openFor lumps)).1.totalClocks = 0 := by
    rw [htotal, hsum, hword]
    rfl
  refine ⟨?_, ?_, ?_⟩
  · rw [hcounter]
    rfl
  · rw [hwhile, hsum, Nat.zero_add]
  · unfold pitCounterElapsed
    rw [hzero, hcounter]
    decide

theorem sum_lumps (n : Nat) (lump : UInt32) :
    ((replicate n lump ++ [1]).map UInt32.toNat).sum = n * lump.toNat + 1 := by
  rw [map_append, map_replicate, sum_append, sum_replicate, smul_eq_mul]
  rfl

theorem counter2_loses_clocks_past_the_total :
    ¬∀ events : List PitAccess,
      (events.foldl pitAccess vddPitReset).counter2.mode = pitMode0 →
      (pitCounterElapsed (events.foldl pitAccess vddPitReset)
        (events.foldl pitAccess vddPitReset).counter2).toNat = (gateRun events).2.whileHigh := by
  intro h
  obtain ⟨hmode, hwhile, helapsed⟩ := openFor_wraps
    (sum_lumps (2 ^ 32 + 1) 0xFFFFFFFF)
  have hclaim := h (openFor (List.replicate (2 ^ 32 + 1) 0xFFFFFFFF ++ [1]))
  rw [← gateRun_state, helapsed, hwhile] at hclaim
  exact absurd (hclaim hmode) (by decide)

end Ntvdmex.Vdd.Pit
