import Ntvdmex.Foundation.Runs
import Ntvdmex.Vdd.Proofs.Pit.Ports

/-!
# The speaker and counter 2

Port 42h drives two byte automata, the speaker's and that of counter 2.  They take the same bytes,
but the speaker decodes its count at each use and counter 2 once, at the load.
-/

namespace Ntvdmex.Vdd.Pit

open Foundation PitState

local instance neZeroSpeaker3 : NeZero 3 := ⟨by decide⟩

/-! ## Both automata over port 42h -/

/-- What the two divisors are computed from. -/
structure DivisorSide where
  speakerAccess : Nat
  speakerIsHighNext : Bool
  speakerLow : UInt8
  speakerReload : UInt16
  access : Nat
  isHighNext : Bool
  low : UInt8
  reload : UInt16
  isBcd : Bool

def PitState.divisorSide (state : PitState) : DivisorSide where
  speakerAccess := state.counter2Access
  speakerIsHighNext := state.counter2IsWriteHighNext
  speakerLow := state.counter2WriteLow
  speakerReload := state.counter2Reload
  access := state.counter2.access
  isHighNext := state.counter2.isWriteHighNext
  low := state.counter2.writeLow
  reload := state.counter2.reload
  isBcd := state.counter2.isBcd

/-- A Control Word for counter 2. -/
def DivisorSide.control (side : DivisorSide) (controlWord : UInt8) : DivisorSide :=
  { side with
    speakerAccess := controlAccess controlWord
    speakerIsHighNext := false
    access := controlAccess controlWord
    isHighNext := false
    isBcd := controlIsBcd controlWord }

/-- All of counter 2 that its reads leave alone, and the clock. -/
structure Counter2Side extends DivisorSide where
  mode : Nat
  gate : Bool
  loadClocks : UInt64
  gateElapsed : UInt64
  totalClocks : UInt64

def PitState.counter2Side (state : PitState) : Counter2Side where
  toDivisorSide := state.divisorSide
  mode := state.counter2.mode
  gate := state.counter2.gate
  loadClocks := state.counter2.loadClocks
  gateElapsed := state.counter2.gateElapsed
  totalClocks := state.totalClocks

/-- A Control Word for counter 2 starts its count afresh. -/
def Counter2Side.control (side : Counter2Side) (controlWord : UInt8) : Counter2Side where
  toDivisorSide := side.toDivisorSide.control controlWord
  mode := effectiveMode (controlMode controlWord)
  gate := side.gate
  loadClocks := side.totalClocks
  gateElapsed := 0
  totalClocks := side.totalClocks

theorem readBack_counter2Side (state : PitState) (command : UInt8) :
    (pitReadBack state command).counter2Side = state.counter2Side := by
  have hcounter : ∀ (s : PitState) (counterIndex : Fin 3),
      (readBackCounter command s counterIndex).counter2Side = s.counter2Side := by
    intro s counterIndex
    apply readBackCounter_view s counter2Side
    · unfold readBackStatus
      split_ifs <;> rfl
    · intro s
      unfold readBackLatch readBackCount latchCounter0
      split_ifs <;> rfl
  unfold pitReadBack
  simp only [List.foldl_cons, List.foldl_nil, hcounter]

theorem pitControlWrite_counter2Side (state : PitState) (controlWord : UInt8) :
    (pitControlWrite state controlWord).counter2Side =
      if controlCounter controlWord = 2 ∧ controlAccess controlWord ≠ pitAccessLatch then
        state.counter2Side.control controlWord
      else state.counter2Side := by
  rw [pitControlWrite_eq]
  rcases controlCounter_cases controlWord with h | h | h | h
  · rw [h]
    by_cases hlatch : controlAccess controlWord = pitAccessLatch
    · simp [hlatch, latchCounter0, counter2Side, divisorSide]
    · simp [hlatch, pitCounter0Control, counter2Side, divisorSide]
  · rw [h]
    simp [counter2Side, divisorSide]
  · rw [h]
    by_cases hlatch : controlAccess controlWord = pitAccessLatch
    · simp [hlatch, pitCounterControl, counter2Side, divisorSide]
    · simp [hlatch, pitCounterControl, counter2Side, divisorSide,
        Counter2Side.control, DivisorSide.control]
  · rw [h]
    simp [readBack_counter2Side]

theorem pitControlWrite_divisorSide (state : PitState) (controlWord : UInt8) :
    (pitControlWrite state controlWord).divisorSide =
      if controlCounter controlWord = 2 ∧ controlAccess controlWord ≠ pitAccessLatch then
        state.divisorSide.control controlWord
      else state.divisorSide := by
  have hside := congrArg Counter2Side.toDivisorSide (pitControlWrite_counter2Side state controlWord)
  rw [apply_ite Counter2Side.toDivisorSide] at hside
  exact hside

theorem pitCountRead_counter2Side (state : PitState) (counterIndex : Fin 3) :
    (pitCountRead state counterIndex).2.counter2Side = state.counter2Side := by
  obtain ⟨flip, latched, h⟩ := pitCountRead_frame state counterIndex
  rw [h]
  fin_cases counterIndex <;> rfl

theorem pitPortIn_counter2Side (state : PitState) (port : Nat) :
    (pitPortIn state port).2.counter2Side = state.counter2Side := by
  unfold pitPortIn
  cases portCounter port with
  | none => rfl
  | some counterIndex =>
    dsimp only
    split_ifs
    · rfl
    · exact pitCountRead_counter2Side state counterIndex

def writesDivisor : PitAccess → Option UInt8
  | .portOut port byteValue => if port = counterPort 2 then some byteValue else none
  | _ => none

def controlsDivisor : PitAccess → Option UInt8
  | .portOut port byteValue =>
    if port = pitControlPort ∧ controlCounter byteValue = 2 ∧
        controlAccess byteValue ≠ pitAccessLatch then
      some byteValue
    else none
  | _ => none

theorem pitPortOut_counter2Side (state : PitState) {port : Nat} {byteValue : UInt8}
    (hwrites : writesDivisor (.portOut port byteValue) = none)
    (hcontrols : controlsDivisor (.portOut port byteValue) = none) :
    (pitPortOut state port byteValue).counter2Side = state.counter2Side := by
  rcases pitPortOut_ports port byteValue with ⟨hport, h⟩ | ⟨-, h⟩ | ⟨hport, -⟩ | ⟨-, h⟩ |
    ⟨-, -, h⟩
  · rw [h, pitControlWrite_counter2Side]
    apply if_neg
    intro hboth
    have hsome : controlsDivisor (.portOut port byteValue) = some byteValue :=
      if_pos ⟨hport, hboth⟩
    rw [hsome] at hcontrols
    cases hcontrols
  · rw [h]
    unfold pitCounter0Write pitLoad
    dsimp only
    split_ifs <;> rfl
  · have hsome : writesDivisor (.portOut port byteValue) = some byteValue := if_pos hport
    rw [hsome] at hwrites
    cases hwrites
  · rw [h]
    rfl
  · rw [h]

section

variable (state : PitState) {event : PitAccess}

include state

theorem pitAccess_divisorSide
    (hwrites : writesDivisor event = none) (hcontrols : controlsDivisor event = none) :
    (pitAccess state event).divisorSide = state.divisorSide := by
  cases event with
  | addClocks clocks =>
    obtain ⟨a, b, c, d, e, f, h⟩ := vddPitAddClocks_frame state clocks
    unfold pitAccess
    dsimp only
    rw [h]
    rfl
  | counter2Gate isHigh =>
    unfold pitAccess vddPitCounter2Gate gateEdge
    dsimp only
    split_ifs <;> rfl
  | portIn port => exact congrArg Counter2Side.toDivisorSide (pitPortIn_counter2Side state port)
  | portOut port byteValue =>
    exact congrArg Counter2Side.toDivisorSide (pitPortOut_counter2Side state hwrites hcontrols)

theorem pitAccess_writesDivisor {byteValue : UInt8}
    (hwrites : writesDivisor event = some byteValue) :
    pitAccess state event = pitCounter2Write state byteValue := by
  cases event with
  | portOut port value =>
    unfold writesDivisor at hwrites
    dsimp only at hwrites
    split_ifs at hwrites with hport
    obtain rfl := Option.some.inj hwrites
    subst hport
    rfl
  | addClocks => cases hwrites
  | portIn => cases hwrites
  | counter2Gate => cases hwrites

theorem pitAccess_controlsCounter2 {controlWord : UInt8}
    (hcontrols : controlsDivisor event = some controlWord) :
    (pitAccess state event).counter2Side = state.counter2Side.control controlWord ∧
      controlAccess controlWord ≠ pitAccessLatch := by
  cases event with
  | portOut port byteValue =>
    unfold controlsDivisor at hcontrols
    dsimp only at hcontrols
    split_ifs at hcontrols with hcontrol
    obtain ⟨hport, hcounter, haccess⟩ := hcontrol
    obtain rfl := Option.some.inj hcontrols
    have hwrite : pitPortOut state port byteValue = pitControlWrite state byteValue := if_pos hport
    refine ⟨?_, haccess⟩
    unfold pitAccess
    dsimp only
    rw [hwrite, pitControlWrite_counter2Side]
    exact if_pos ⟨hcounter, haccess⟩
  | addClocks => cases hcontrols
  | portIn => cases hcontrols
  | counter2Gate => cases hcontrols

theorem pitAccess_controlsDivisor {controlWord : UInt8}
    (hcontrols : controlsDivisor event = some controlWord) :
    (pitAccess state event).divisorSide = state.divisorSide.control controlWord ∧
      controlAccess controlWord ≠ pitAccessLatch := by
  obtain ⟨hside, haccess⟩ := pitAccess_controlsCounter2 state hcontrols
  exact ⟨congrArg Counter2Side.toDivisorSide hside, haccess⟩

end

/-! ## The automata stay in step -/

/-- The automata agree on the bytes, and counter 2 holds the speaker's count as it was decoded when
the BCD flag was `loadedBcd`. -/
structure InStep (state : PitState) (loadedBcd : Bool) : Prop where
  access : accessInForce state.counter2Access = state.counter2.access
  phase : state.counter2IsWriteHighNext = state.counter2.isWriteHighNext
  low : state.counter2WriteLow = state.counter2.writeLow
  reload : state.counter2.reload = pitCountValue loadedBcd state.counter2Reload

theorem inStep_vddPitReset : InStep vddPitReset false := ⟨rfl, rfl, rfl, rfl⟩

theorem InStep.of_divisorSide {state state' : PitState} {loadedBcd : Bool}
    (h : InStep state loadedBcd) (hside : state'.divisorSide = state.divisorSide) :
    InStep state' loadedBcd where
  access := by
    have hspeaker := congrArg DivisorSide.speakerAccess hside
    have haccess := congrArg DivisorSide.access hside
    exact (congrArg accessInForce hspeaker).trans (h.access.trans haccess.symm)
  phase :=
    (congrArg DivisorSide.speakerIsHighNext hside).trans
      (h.phase.trans (congrArg DivisorSide.isHighNext hside).symm)
  low :=
    (congrArg DivisorSide.speakerLow hside).trans
      (h.low.trans (congrArg DivisorSide.low hside).symm)
  reload :=
    (congrArg DivisorSide.reload hside).trans
      (h.reload.trans (congrArg (pitCountValue loadedBcd)
        (congrArg DivisorSide.speakerReload hside).symm))

/-- The byte completes a count of counter 2. -/
def CompletesDivisor (state : PitState) : Prop :=
  accessInForce state.counter2Access = pitAccessLow ∨
    accessInForce state.counter2Access = pitAccessHigh ∨ state.counter2IsWriteHighNext = true
deriving Decidable

def loadedBcdAfter (state : PitState) (loadedBcd : Bool) (event : PitAccess) : Bool :=
  if (writesDivisor event).isSome = true ∧ CompletesDivisor state then state.counter2.isBcd
  else loadedBcd

section Write

variable {state : PitState} (byteValue : UInt8)
variable {flag : Bool}

theorem pitCounter2Write_completes (hcompletes : CompletesDivisor state) (h : InStep state flag) :
    ∃ written speakerFlip counterFlip, speakerFlip = counterFlip ∧
      pitCounter2Write state byteValue =
        { state with
          counter2Reload := written
          counter2IsWriteHighNext := speakerFlip
          counter2 :=
            counterLoad state
              { state.counter2 with
                access := accessInForce state.counter2Access
                isWriteHighNext := counterFlip } written } := by
  unfold pitCounter2Write pitCounterWriteCount
  dsimp only
  by_cases hlow : accessInForce state.counter2Access = pitAccessLow
  · rw [if_pos hlow, if_pos hlow]
    exact ⟨_, _, _, h.phase, rfl⟩
  · rw [if_neg hlow, if_neg hlow]
    by_cases hhigh : accessInForce state.counter2Access = pitAccessHigh
    · rw [if_pos hhigh, if_pos hhigh]
      exact ⟨_, _, _, h.phase, rfl⟩
    · have hflip : state.counter2IsWriteHighNext = true :=
        (hcompletes.resolve_left hlow).resolve_left hhigh
      have hnot : ¬state.counter2IsWriteHighNext = false := by
        rw [hflip]
        decide
      have hnot2 : ¬state.counter2.isWriteHighNext = false := by
        rw [← h.phase]
        exact hnot
      rw [if_neg hhigh, if_neg hhigh, if_neg hnot, if_neg hnot2, h.low]
      exact ⟨_, _, _, rfl, rfl⟩

theorem pitCounter2Write_first (hcompletes : ¬CompletesDivisor state) (h : InStep state flag) :
    pitCounter2Write state byteValue =
      { state with
        counter2WriteLow := byteValue
        counter2IsWriteHighNext := true
        counter2 :=
          { state.counter2 with
            access := accessInForce state.counter2Access
            writeLow := byteValue
            isWriteHighNext := true } } := by
  have hlow : ¬accessInForce state.counter2Access = pitAccessLow := fun h => hcompletes (Or.inl h)
  have hhigh : ¬accessInForce state.counter2Access = pitAccessHigh :=
    fun h => hcompletes (Or.inr (Or.inl h))
  have hflip : state.counter2IsWriteHighNext = false :=
    Bool.eq_false_iff.mpr fun h => hcompletes (Or.inr (Or.inr h))
  have hflip2 : state.counter2.isWriteHighNext = false := h.phase ▸ hflip
  unfold pitCounter2Write pitCounterWriteCount
  dsimp only
  rw [if_neg hlow, if_neg hlow, if_neg hhigh, if_neg hhigh, if_pos hflip, if_pos hflip2]

theorem pitCounter2Write_inStep (h : InStep state flag) : InStep (pitCounter2Write state byteValue)
      (if CompletesDivisor state then state.counter2.isBcd else flag) := by
  by_cases hcompletes : CompletesDivisor state
  · obtain ⟨written, speakerFlip, counterFlip, hflip, hwrite⟩ :=
      pitCounter2Write_completes byteValue hcompletes h
    rw [hwrite, if_pos hcompletes]
    exact ⟨rfl, hflip, h.low, rfl⟩
  · rw [pitCounter2Write_first byteValue hcompletes h, if_neg hcompletes]
    exact ⟨rfl, rfl, rfl, h.reload⟩

end Write

theorem InStep.control {state : PitState} {loadedBcd : Bool} (h : InStep state loadedBcd)
    {controlWord : UInt8} (haccess : controlAccess controlWord ≠ pitAccessLatch)
    {state' : PitState} (hside : state'.divisorSide = state.divisorSide.control controlWord) :
    InStep state' loadedBcd where
  access := by
    have hspeaker := congrArg DivisorSide.speakerAccess hside
    have hcounter := congrArg DivisorSide.access hside
    have hforce : accessInForce (controlAccess controlWord) = controlAccess controlWord :=
      if_neg haccess
    exact (congrArg accessInForce hspeaker).trans (hforce.trans hcounter.symm)
  phase :=
    (congrArg DivisorSide.speakerIsHighNext hside).trans
      (congrArg DivisorSide.isHighNext hside).symm
  low :=
    (congrArg DivisorSide.speakerLow hside).trans
      (h.low.trans (congrArg DivisorSide.low hside).symm)
  reload :=
    (congrArg DivisorSide.reload hside).trans
      (h.reload.trans (congrArg (pitCountValue loadedBcd)
        (congrArg DivisorSide.speakerReload hside).symm))

theorem pitAccess_inStep {state : PitState} {loadedBcd : Bool} (h : InStep state loadedBcd)
    (event : PitAccess) :
    InStep (pitAccess state event) (loadedBcdAfter state loadedBcd event) := by
  cases hwrites : writesDivisor event with
  | none =>
    have hghost : loadedBcdAfter state loadedBcd event = loadedBcd := by
      unfold loadedBcdAfter
      rw [hwrites]
      exact if_neg fun hboth => absurd hboth.1 (by decide)
    rw [hghost]
    cases hcontrols : controlsDivisor event with
    | none => exact h.of_divisorSide (pitAccess_divisorSide state hwrites hcontrols)
    | some controlWord =>
      obtain ⟨hside, haccess⟩ := pitAccess_controlsDivisor state hcontrols
      exact h.control haccess hside
  | some byteValue =>
    have hghost : loadedBcdAfter state loadedBcd event =
        if CompletesDivisor state then state.counter2.isBcd else loadedBcd := by
      unfold loadedBcdAfter
      rw [hwrites]
      exact if_congr ⟨fun hboth => hboth.2, fun hcompletes => ⟨rfl, hcompletes⟩⟩ rfl rfl
    rw [hghost, pitAccess_writesDivisor state hwrites]
    exact pitCounter2Write_inStep byteValue h

/-- The BCD flag that the count of counter 2 was decoded under, after a run. -/
def loadedBcd : PitState → Bool → List PitAccess → Bool
  | _, flag, [] => flag
  | state, flag, event :: rest =>
    loadedBcd (pitAccess state event) (loadedBcdAfter state flag event) rest

theorem foldl_pitAccess_inStep {state : PitState} {flag : Bool} (h : InStep state flag)
    (events : List PitAccess) :
    InStep (events.foldl pitAccess state) (loadedBcd state flag events) := by
  induction events generalizing state flag with
  | nil => exact h
  | cons event rest ih => exact ih (pitAccess_inStep h event)

/-! ## Where the two divisors differ -/

theorem pitFromBcd_lt (written : UInt16) : pitFromBcd written < 65536 := by
  have hlt := written.toNat_lt
  unfold pitFromBcd
  lia

theorem pitFromBcd_small {written : UInt16} (h : written.toNat < 16) :
    pitFromBcd written = written.toNat := by
  unfold pitFromBcd
  lia

/-- Decoding takes a fifth off every count with a second digit. -/
theorem pitFromBcd_bounds {written : UInt16} (h : 16 ≤ written.toNat) :
    0 < pitFromBcd written ∧ 31 * pitFromBcd written ≤ 25 * written.toNat := by
  unfold pitFromBcd
  lia

/-- A divisor a fifth smaller gives another frequency. -/
theorem pitInputHz_div_ne {small large : Nat} (hpos : 0 < small)
    (hbound : 31 * small ≤ 25 * large) (hlarge : large < 65536) :
    pitInputHz / small ≠ pitInputHz / large := by
  have hquotient : 18 ≤ pitInputHz / large := by
    rw [Nat.le_div_iff_mul_le (by lia)]
    unfold pitInputHz
    lia
  have hmul : pitInputHz / large * large ≤ pitInputHz := Nat.div_mul_le_self _ _
  have hless : pitInputHz / large + 1 ≤ pitInputHz / small := by
    rw [Nat.le_div_iff_mul_le hpos]
    nlinarith
  lia

theorem pitFromBcd_ofNat (written : UInt16) :
    (UInt16.ofNat (pitFromBcd written)).toNat = pitFromBcd written :=
  UInt16.toNat_ofNat_of_lt' (pitFromBcd_lt written)

def divisorOf (isBcd loaded : Bool) (written : UInt16) : Nat :=
  let count := if loaded then pitFromBcd written else written.toNat
  if count = 0 then pitWrap isBcd else count

theorem effectiveReload_pitCountValue (isBcd loaded : Bool) (written : UInt16) :
    effectiveReload (pitCountValue loaded written) isBcd = divisorOf isBcd loaded written := by
  unfold effectiveReload pitCountValue divisorOf
  cases loaded with
  | false =>
    simp only [Bool.false_eq_true, if_false]
    exact if_congr ⟨fun h => by rw [h]; rfl, fun h => UInt16.toNat_inj.mp h⟩ rfl rfl
  | true =>
    simp only [if_true, pitFromBcd_ofNat]
    exact if_congr
      ⟨fun h => by rw [← pitFromBcd_ofNat, h]; rfl,
        fun h => UInt16.toNat_inj.mp ((pitFromBcd_ofNat written).trans h)⟩ rfl rfl

theorem pitInputHz_divisorOf_iff (isBcd loaded : Bool) (written : UInt16) :
    pitInputHz / divisorOf isBcd isBcd written = pitInputHz / divisorOf isBcd loaded written ↔
      loaded = isBcd ∨ written.toNat < 16 := by
  constructor
  · intro h
    by_contra hnot
    rw [not_or, Nat.not_lt] at hnot
    obtain ⟨hflag, hlarge⟩ := hnot
    obtain ⟨hpos, hbound⟩ := pitFromBcd_bounds hlarge
    have hne := pitInputHz_div_ne hpos hbound written.toNat_lt
    unfold divisorOf at h
    cases isBcd with
    | false =>
      obtain rfl : loaded = true := by simpa using hflag
      simp only [Bool.false_eq_true, if_false, if_true] at h
      rw [if_neg (by omega), if_neg (by omega)] at h
      exact hne h.symm
    | true =>
      obtain rfl : loaded = false := by simpa using hflag
      simp only [Bool.false_eq_true, if_false, if_true] at h
      rw [if_neg (by omega), if_neg (by omega)] at h
      exact hne h
  · rintro (rfl | hsmall)
    · rfl
    · unfold divisorOf
      rw [pitFromBcd_small hsmall, ite_self, ite_self]

/-- After every run from reset the speaker sounds counter 2's divisor exactly when the count was
loaded under the BCD flag in force, or has one digit. -/
theorem vddPitCounter2Hz_eq_iff (events : List PitAccess) :
    vddPitCounter2Hz (events.foldl pitAccess vddPitReset) =
        pitInputHz / vddPitCounterEffectiveReload (events.foldl pitAccess vddPitReset).counter2 ↔
      loadedBcd vddPitReset false events =
          (events.foldl pitAccess vddPitReset).counter2.isBcd ∨
        (events.foldl pitAccess vddPitReset).counter2Reload.toNat < 16 := by
  have h := foldl_pitAccess_inStep inStep_vddPitReset events
  unfold vddPitCounterEffectiveReload
  rw [h.reload, effectiveReload_pitCountValue]
  exact pitInputHz_divisorOf_iff _ _ _

theorem vddPitCounter2Hz_ne_after_bcd :
    ¬∀ writes : List (Nat × UInt8),
      (∀ write ∈ writes, write.1 = pitCounter2Port ∨ write.1 = pitControlPort) →
      let state := writes.foldl (fun state write => pitPortOut state write.1 write.2) vddPitReset
      vddPitCounter2Hz state = pitInputHz / vddPitCounterEffectiveReload state.counter2 := by
  intro h
  have hsame := h [(0x43, 0xB6), (0x42, 0x00), (0x42, 0x10), (0x43, 0xB7)] (by decide)
  revert hsame
  decide

end Ntvdmex.Vdd.Pit
