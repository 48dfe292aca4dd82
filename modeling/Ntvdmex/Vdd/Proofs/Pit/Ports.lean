import Ntvdmex.Vdd.Pit

/-!
# One view of the three counters

The fields that a counter's data port is read and written through, and what leaves them alone.
-/

namespace Ntvdmex.Vdd.Pit

open Or List PitState

local instance neZeroPort3 : NeZero 3 := ⟨by decide⟩

/-! ## Views -/

/-- What a read of a counter's data port depends on, but for the count itself. -/
structure ReadSide where
  access : Nat
  isBcd : Bool
  isReadHighNext : Bool
  isLatched : Bool
  latch : UInt16

/-- What a write of a counter's data port depends on. -/
structure WriteSide where
  access : Nat
  isBcd : Bool
  isWriteHighNext : Bool
  writeLow : UInt8

def PitCounter.readSide (counter : PitCounter) : ReadSide where
  access := counter.access
  isBcd := counter.isBcd
  isReadHighNext := counter.isReadHighNext
  isLatched := counter.isLatched
  latch := counter.latch

def PitCounter.writeSide (counter : PitCounter) : WriteSide where
  access := counter.access
  isBcd := counter.isBcd
  isWriteHighNext := counter.isWriteHighNext
  writeLow := counter.writeLow

namespace PitState

variable (state : PitState)

/-- Counter 1 or 2. -/
def counter (counterIndex : Fin 3) : PitCounter :=
  if counterIndex = 1 then state.counter1 else state.counter2

def readSide (counterIndex : Fin 3) : ReadSide :=
  if counterIndex = 0 then
    { access := state.access
      isBcd := state.isBcd
      isReadHighNext := state.isReadHighNext
      isLatched := state.isLatched
      latch := state.latch }
  else (state.counter counterIndex).readSide

def writeSide (counterIndex : Fin 3) : WriteSide :=
  if counterIndex = 0 then
    { access := state.access
      isBcd := state.isBcd
      isWriteHighNext := state.isWriteHighNext
      writeLow := state.writeLow }
  else (state.counter counterIndex).writeSide

def count (counterIndex : Fin 3) : Nat :=
  if counterIndex = 0 then pitCurrentCount state
  else pitCounterCount state (state.counter counterIndex)

def reloadOf (counterIndex : Fin 3) : UInt16 :=
  if counterIndex = 0 then state.reload else (state.counter counterIndex).reload

end PitState

def counterPort (counterIndex : Fin 3) : Nat := pitCounter0Port + counterIndex.val

theorem portCounter_eq_some_iff {port : Nat} {counterIndex : Fin 3} :
    portCounter port = some counterIndex ↔ port = counterPort counterIndex := by
  unfold portCounter counterPort pitCounter0Port pitCounter1Port pitCounter2Port
  constructor
  · intro h
    split_ifs at h with h0 h1 h2 <;> cases h <;> simp [*]
  · rintro rfl
    fin_cases counterIndex <;> rfl

variable (side : ReadSide)

/-- A read of the two bytes of `count`. -/
def ReadSide.read (count : UInt16) : UInt8 × ReadSide :=
  if accessInForce side.access = pitAccessLow then (lowByte count, { side with isLatched := false })
  else if accessInForce side.access = pitAccessHigh then
    (highByte count, { side with isLatched := false })
  else if side.isReadHighNext = false then (lowByte count, { side with isReadHighNext := true })
  else (highByte count, { side with isReadHighNext := false, isLatched := false })

/-- The count whose bytes are read: the latched one, or `count`. -/
def ReadSide.value (count : Nat) : UInt16 :=
  pitCountBytes side.isBcd (if side.isLatched then side.latch.toNat else count)

theorem pitCounterReadCount_readSide (state : PitState) (counter : PitCounter) :
    (pitCounterReadCount state counter).1 =
        (counter.readSide.read (counter.readSide.value (pitCounterCount state counter))).1 ∧
      (pitCounterReadCount state counter).2.readSide =
        (counter.readSide.read (counter.readSide.value (pitCounterCount state counter))).2 := by
  unfold pitCounterReadCount ReadSide.read
  have hvalue : counterReadValue state counter =
      counter.readSide.value (pitCounterCount state counter) := rfl
  have haccess : counter.readSide.access = counter.access := rfl
  have hflip : counter.readSide.isReadHighNext = counter.isReadHighNext := rfl
  rw [hvalue, haccess, hflip]
  dsimp only
  split_ifs <;> exact ⟨rfl, rfl⟩

theorem pitCounter0Read_readSide (state : PitState) :
    (pitCounter0Read state).1 =
        ((state.readSide 0).read ((state.readSide 0).value (state.count 0))).1 ∧
      (pitCounter0Read state).2.readSide 0 =
        ((state.readSide 0).read ((state.readSide 0).value (state.count 0))).2 := by
  unfold pitCounter0Read ReadSide.read
  have hvalue : counter0ReadValue state = (state.readSide 0).value (state.count 0) := rfl
  have haccess : (state.readSide 0).access = state.access := rfl
  have hflip : (state.readSide 0).isReadHighNext = state.isReadHighNext := rfl
  rw [hvalue, haccess, hflip]
  dsimp only
  split_ifs <;> exact ⟨rfl, rfl⟩

theorem pitCountRead_readSide (state : PitState) (counterIndex : Fin 3) :
    (pitCountRead state counterIndex).1 =
        ((state.readSide counterIndex).read
          ((state.readSide counterIndex).value (state.count counterIndex))).1 ∧
      (pitCountRead state counterIndex).2.readSide counterIndex =
        ((state.readSide counterIndex).read
          ((state.readSide counterIndex).value (state.count counterIndex))).2 := by
  fin_cases counterIndex
  · exact pitCounter0Read_readSide state
  · exact pitCounterReadCount_readSide state state.counter1
  · exact pitCounterReadCount_readSide state state.counter2

/-! ## What each access may change -/

section Frames

variable (state : PitState)
variable (counter : PitCounter) (byteValue : UInt8)

theorem pitCounterReadCount_frame :
    ∃ isReadHighNext isLatched, (pitCounterReadCount state counter).2 =
      { counter with isReadHighNext, isLatched } := by
  unfold pitCounterReadCount
  dsimp only
  split_ifs <;> exact ⟨_, _, rfl⟩

theorem pitCounter0Read_frame :
    ∃ isReadHighNext isLatched, (pitCounter0Read state).2 =
      { state with isReadHighNext, isLatched } := by
  unfold pitCounter0Read
  dsimp only
  split_ifs <;> exact ⟨_, _, rfl⟩

theorem pitCatchUp_frame (rounds : Nat) :
    ∃ accumulator reload isNextPending loadClocks, (pitCatchUp rounds state).1 =
      { state with accumulator, reload, isNextPending, loadClocks } := by
  induction rounds generalizing state with
  | zero => exact ⟨_, _, _, _, rfl⟩
  | succ rounds ih =>
    unfold pitCatchUp
    split_ifs
    · obtain ⟨accumulator, reload, isNextPending, loadClocks, h⟩ := ih (periodEnd state)
      refine ⟨accumulator, reload, isNextPending, loadClocks, ?_⟩
      rw [h]
      unfold periodEnd
      split_ifs <;> rfl
    · exact ⟨_, _, _, _, rfl⟩

theorem vddPitAddClocks_frame (clocks : UInt32) :
    ∃ totalClocks accumulator reload isNextPending loadClocks isIrqArmed,
      (vddPitAddClocks state clocks).1 =
        { state with totalClocks, accumulator, reload, isNextPending, loadClocks, isIrqArmed } := by
  unfold vddPitAddClocks
  dsimp only
  split_ifs
  · obtain ⟨accumulator, reload, isNextPending, loadClocks, h⟩ := pitCatchUp_frame
      { state with
        totalClocks := state.totalClocks + clocks.toUInt64
        accumulator := state.accumulator + clocks.toUInt64 } pitCatchUpGuard
    exact ⟨_, _, _, _, _, _, h⟩
  · exact ⟨_, _, _, _, _, _, rfl⟩
  · exact ⟨_, _, _, _, _, _, rfl⟩

/-- What the two latches leave alone, a Read-Back command leaves alone. -/
theorem readBackCounter_view {α : Type} (view : PitState → α) (command : UInt8)
    (counterIndex : Fin 3) (hstatus : view (readBackStatus state counterIndex) = view state)
    (hlatch : ∀ s, view (readBackLatch s counterIndex) = view s) :
    view (readBackCounter command state counterIndex) = view state := by
  unfold readBackCounter
  dsimp only
  split_ifs
  · rfl
  · rw [hlatch, hstatus]
  · rw [hlatch]
  · exact hstatus
  · rfl

end Frames

/-! ## Latches -/

def ReadSide.latchCount (count : Nat) : ReadSide :=
  { side with latch := UInt16.ofNat count, isLatched := true, isReadHighNext := false }

def ReadSide.latchFirst (count : Nat) : ReadSide :=
  if side.isLatched then side else side.latchCount count

def LatchesCount (command : UInt8) (counterIndex : Fin 3) : Prop :=
  command.toNat / 2 ^ (counterIndex.val + 1) % 2 = 1 ∧ command &&& pitReadBackNoCount = 0
deriving Decidable

section ReadBack

variable (command : UInt8) (state : PitState)

section

variable (counterIndex other : Fin 3)

include counterIndex other

theorem readBackLatch_readSide :
    (readBackLatch state counterIndex).readSide other =
      if other = counterIndex then (state.readSide other).latchFirst (state.count other)
      else state.readSide other := by
  unfold readBackLatch readBackCount latchCounter0
  fin_cases counterIndex <;> fin_cases other <;> dsimp only <;> split_ifs <;>
    simp_all [readSide, counter, PitCounter.readSide, ReadSide.latchFirst,
      ReadSide.latchCount, PitState.count]

theorem readBackStatus_readSide :
    (readBackStatus state counterIndex).readSide other = state.readSide other ∧
      (readBackStatus state counterIndex).count other = state.count other := by
  unfold readBackStatus
  split_ifs <;> exact ⟨rfl, rfl⟩

theorem readBackCounter_readSide :
    (readBackCounter command state counterIndex).readSide other =
      if other = counterIndex ∧ LatchesCount command counterIndex then
        (state.readSide other).latchFirst (state.count other)
      else state.readSide other := by
  have hstatus : ∀ withStatus : PitState,
      withStatus =
        (if command &&& pitReadBackNoStatus = 0 then readBackStatus state counterIndex
        else state) →
      withStatus.readSide other = state.readSide other ∧
        withStatus.count other = state.count other := by
    rintro withStatus rfl
    split_ifs
    · exact readBackStatus_readSide state counterIndex other
    · exact ⟨rfl, rfl⟩
  obtain ⟨hside, hcount⟩ := hstatus _ rfl
  unfold readBackCounter
  by_cases hselected : command.toNat / 2 ^ (counterIndex.val + 1) % 2 = 0
  · rw [if_pos hselected, if_neg]
    rintro ⟨-, hlatches, -⟩
    lia
  · rw [if_neg hselected]
    by_cases hnoCount : command &&& pitReadBackNoCount = 0
    · rw [if_pos hnoCount, readBackLatch_readSide, hside, hcount]
      have hlatches : LatchesCount command counterIndex := ⟨by lia, hnoCount⟩
      exact if_congr ⟨fun h => ⟨h, hlatches⟩, fun h => h.1⟩ rfl rfl
    · rw [if_neg hnoCount, hside, if_neg (fun h : _ ∧ LatchesCount _ _ => hnoCount h.2.2)]

theorem readBackCounter_count :
    (readBackCounter command state counterIndex).count other = state.count other := by
  apply readBackCounter_view state fun s => s.count other
  · exact (readBackStatus_readSide state counterIndex other).2
  · intro s
    unfold readBackLatch readBackCount latchCounter0
    split_ifs <;> fin_cases other <;> rfl

theorem readBackCounter_writeSide :
    (readBackCounter command state counterIndex).writeSide other = state.writeSide other := by
  apply readBackCounter_view state fun s => s.writeSide other
  · unfold readBackStatus
    split_ifs <;> rfl
  · intro s
    unfold readBackLatch readBackCount latchCounter0
    split_ifs <;> fin_cases other <;> rfl

end

theorem pitReadBack_readSide (other : Fin 3) :
    (pitReadBack state command).readSide other =
      if LatchesCount command other then (state.readSide other).latchFirst (state.count other)
      else state.readSide other := by
  unfold pitReadBack
  simp only [foldl_cons, foldl_nil, readBackCounter_readSide, readBackCounter_count]
  fin_cases other <;> simp

theorem pitReadBack_writeSide (other : Fin 3) :
    (pitReadBack state command).writeSide other = state.writeSide other := by
  unfold pitReadBack
  simp only [foldl_cons, foldl_nil, readBackCounter_writeSide]

end ReadBack

section Control

variable (state : PitState) (controlWord : UInt8)

def controlCounter (controlWord : UInt8) : Nat := controlWord.toNat / 64

theorem controlCounter_cases :
    controlCounter controlWord = 0 ∨ controlCounter controlWord = 1 ∨
      controlCounter controlWord = 2 ∨ controlCounter controlWord = 3 := by
  have hlt := controlWord.toNat_lt
  unfold controlCounter
  lia

theorem pitControlWrite_eq :
    pitControlWrite state controlWord =
      if controlCounter controlWord = 2 then
        { (if controlAccess controlWord = pitAccessLatch then state
            else
              { state with
                counter2Access := controlAccess controlWord
                counter2IsWriteHighNext := false }) with
          counter2 := pitCounterControl state state.counter2 controlWord }
      else if controlCounter controlWord = 1 then
        { state with counter1 := pitCounterControl state state.counter1 controlWord }
      else if controlCounter controlWord = 3 then pitReadBack state controlWord
      else if controlAccess controlWord = pitAccessLatch then latchCounter0 state
      else pitCounter0Control state controlWord :=
  rfl

/-- A Control Word reprograms its counter, a Counter Latch latches, and a Read-Back command
latches where nothing is latched. -/
theorem pitControlWrite_readSide (counterIndex : Fin 3) :
    (pitControlWrite state controlWord).readSide counterIndex =
      if controlCounter controlWord = counterIndex.val then
        if controlAccess controlWord = pitAccessLatch then
          (state.readSide counterIndex).latchCount (state.count counterIndex)
        else
          { state.readSide counterIndex with
            access := controlAccess controlWord
            isBcd := controlIsBcd controlWord }
      else if controlCounter controlWord = 3 ∧ LatchesCount controlWord counterIndex then
        (state.readSide counterIndex).latchFirst (state.count counterIndex)
      else state.readSide counterIndex := by
  rw [pitControlWrite_eq]
  rcases controlCounter_cases controlWord with h | h | h | h
  · rw [h]
    by_cases hlatch : controlAccess controlWord = pitAccessLatch
    · fin_cases counterIndex <;> simp [hlatch, latchCounter0, readSide, counter,
        ReadSide.latchCount, PitState.count]
    · fin_cases counterIndex <;>
        simp [hlatch, pitCounter0Control, readSide, counter]
  iterate 2
    · rw [h]
      by_cases hlatch : controlAccess controlWord = pitAccessLatch
      · fin_cases counterIndex <;> simp [hlatch, pitCounterControl, readSide,
          counter, PitCounter.readSide, ReadSide.latchCount, PitState.count]
      · fin_cases counterIndex <;> simp [hlatch, pitCounterControl, readSide,
          counter, PitCounter.readSide]
  · rw [h]
    have hne : (3 : Nat) ≠ counterIndex.val := by omega
    rw [if_neg (by decide), if_neg (by decide), if_pos rfl, if_neg hne, pitReadBack_readSide]
    exact if_congr ⟨fun hlatches => ⟨rfl, hlatches⟩, fun hlatches => hlatches.2⟩ rfl rfl

theorem pitControlWrite_writeSide (counterIndex : Fin 3) :
    (pitControlWrite state controlWord).writeSide counterIndex =
      if controlCounter controlWord = counterIndex.val ∧
          controlAccess controlWord ≠ pitAccessLatch then
        { access := controlAccess controlWord
          isBcd := controlIsBcd controlWord
          isWriteHighNext := false
          writeLow := (state.writeSide counterIndex).writeLow }
      else state.writeSide counterIndex := by
  rw [pitControlWrite_eq]
  rcases controlCounter_cases controlWord with h | h | h | h
  · rw [h]
    by_cases hlatch : controlAccess controlWord = pitAccessLatch
    · fin_cases counterIndex <;>
        simp [hlatch, latchCounter0, writeSide, counter]
    · fin_cases counterIndex <;>
        simp [hlatch, pitCounter0Control, writeSide, counter]
  iterate 2
    · rw [h]
      by_cases hlatch : controlAccess controlWord = pitAccessLatch
      iterate 2
        · fin_cases counterIndex <;> simp [hlatch, pitCounterControl, writeSide,
            counter, PitCounter.writeSide]
  · rw [h]
    have hne : (3 : Nat) ≠ counterIndex.val := by omega
    rw [if_neg (by decide), if_neg (by decide), if_pos rfl, if_neg fun hboth => hne hboth.1,
      pitReadBack_writeSide]

end Control

/-! ## The data ports -/

section DataPorts

variable (state : PitState)

/-- The state with these read flags of a counter. -/
def PitState.withReads (counterIndex : Fin 3) (isReadHighNext isLatched : Bool) : PitState :=
  match counterIndex with
  | 0 => { state with isReadHighNext, isLatched }
  | 1 => { state with counter1 := { state.counter1 with isReadHighNext, isLatched } }
  | 2 => { state with counter2 := { state.counter2 with isReadHighNext, isLatched } }

theorem pitCountRead_frame (counterIndex : Fin 3) :
    ∃ isReadHighNext isLatched, (pitCountRead state counterIndex).2 =
      state.withReads counterIndex isReadHighNext isLatched := by
  match counterIndex with
  | 0 => exact pitCounter0Read_frame state
  | 1 =>
    obtain ⟨flip, latched, h⟩ := pitCounterReadCount_frame state state.counter1
    exact ⟨flip, latched, congrArg (fun counter1 => { state with counter1 }) h⟩
  | 2 =>
    obtain ⟨flip, latched, h⟩ := pitCounterReadCount_frame state state.counter2
    exact ⟨flip, latched, congrArg (fun counter2 => { state with counter2 }) h⟩

theorem pitCountRead_other {counterIndex other : Fin 3} (hother : other ≠ counterIndex) :
    (pitCountRead state counterIndex).2.readSide other = state.readSide other := by
  obtain ⟨flip, latched, h⟩ := pitCountRead_frame state counterIndex
  rw [h]
  fin_cases counterIndex <;> fin_cases other <;> first | rfl | exact absurd rfl hother

theorem pitCountRead_writeSide (counterIndex other : Fin 3) :
    (pitCountRead state counterIndex).2.writeSide other = state.writeSide other := by
  obtain ⟨flip, latched, h⟩ := pitCountRead_frame state counterIndex
  rw [h]
  fin_cases counterIndex <;> fin_cases other <;> rfl

theorem pitPortIn_writeSide (port : Nat) (other : Fin 3) :
    (pitPortIn state port).2.writeSide other = state.writeSide other := by
  unfold pitPortIn
  cases portCounter port with
  | none => rfl
  | some counterIndex =>
    dsimp only
    split_ifs
    · rfl
    · exact pitCountRead_writeSide state counterIndex other

theorem pitPortIn_status {counterIndex : Fin 3} (h : state.statusLatched counterIndex = true) :
    pitPortIn state (counterPort counterIndex) =
      (state.statusLatch counterIndex,
        { state with
          statusLatched := Function.update state.statusLatched counterIndex false }) := by
  unfold pitPortIn
  rw [portCounter_eq_some_iff.mpr rfl]
  exact if_pos h

theorem pitPortIn_count {counterIndex : Fin 3} (h : state.statusLatched counterIndex = false) :
    pitPortIn state (counterPort counterIndex) = pitCountRead state counterIndex := by
  unfold pitPortIn
  rw [portCounter_eq_some_iff.mpr rfl]
  exact if_neg (by rw [h]; decide)

theorem pitPortIn_other {port : Nat} {other : Fin 3} (hport : port ≠ counterPort other) :
    (pitPortIn state port).2.readSide other = state.readSide other := by
  unfold pitPortIn
  cases hcounter : portCounter port with
  | none => rfl
  | some counterIndex =>
    have hne : other ≠ counterIndex := by
      rintro rfl
      exact hport (portCounter_eq_some_iff.mp hcounter)
    dsimp only
    split_ifs
    · rfl
    · exact pitCountRead_other state hne

def SpeakerAgrees (state : PitState) : Prop :=
  accessInForce state.counter2Access = state.counter2.access

variable {state}

theorem pitPortOut_ports (port : Nat) (byteValue : UInt8) :
    (port = pitControlPort ∧ pitPortOut state port byteValue = pitControlWrite state byteValue) ∨
      (port = counterPort 0 ∧ pitPortOut state port byteValue = pitCounter0Write state byteValue) ∨
      (port = counterPort 2 ∧ pitPortOut state port byteValue = pitCounter2Write state byteValue) ∨
      (port = counterPort 1 ∧ pitPortOut state port byteValue =
        { state with counter1 := pitCounterWriteCount state state.counter1 byteValue }) ∨
      ((∀ counterIndex, port ≠ counterPort counterIndex) ∧ port ≠ pitControlPort ∧
        pitPortOut state port byteValue = state) := by
  by_cases hcontrol : port = pitControlPort
  · exact inl ⟨hcontrol, if_pos hcontrol⟩
  by_cases h0 : port = counterPort 0
  · refine inr (inl ⟨h0, ?_⟩)
    rw [h0]
    rfl
  by_cases h2 : port = counterPort 2
  · refine inr (inr (inl ⟨h2, ?_⟩))
    rw [h2]
    rfl
  by_cases h1 : port = counterPort 1
  · refine inr (inr (inr (inl ⟨h1, ?_⟩)))
    rw [h1]
    rfl
  refine inr (inr (inr (inr ⟨?_, hcontrol, ?_⟩)))
  · intro counterIndex
    fin_cases counterIndex
    · exact h0
    · exact h1
    · exact h2
  · have h0' : ¬port = pitCounter0Port := h0
    have h1' : ¬port = pitCounter1Port := h1
    have h2' : ¬port = pitCounter2Port := h2
    unfold pitPortOut
    rw [if_neg hcontrol, if_neg h0', if_neg h2', if_neg h1']

theorem pitPortOut_readSide {port : Nat} (hport : port ≠ pitControlPort) (byteValue : UInt8)
    {counterIndex : Fin 3}
    (hspeaker : counterIndex = 2 → port = counterPort 2 → SpeakerAgrees state) :
    (pitPortOut state port byteValue).readSide counterIndex = state.readSide counterIndex := by
  rcases pitPortOut_ports port byteValue with ⟨h, -⟩ | ⟨-, h⟩ | ⟨hport2, h⟩ | ⟨-, h⟩ | ⟨-, -, h⟩
  · exact absurd h hport
  · rw [h]
    unfold pitCounter0Write pitLoad
    dsimp only
    split_ifs <;> rfl
  · rw [h]
    unfold pitCounter2Write pitCounterWriteCount counterLoad
    fin_cases counterIndex
    · dsimp only
      split_ifs <;> rfl
    · dsimp only
      split_ifs <;> rfl
    · have hagrees : accessInForce state.counter2Access = state.counter2.access :=
        hspeaker rfl hport2
      simp only [hagrees]
      split_ifs <;> rfl
  · rw [h]
    unfold pitCounterWriteCount counterLoad
    split_ifs <;> fin_cases counterIndex <;> rfl
  · rw [h]

theorem pitPortOut_writeSide {port : Nat} (hport : port ≠ pitControlPort) (byteValue : UInt8)
    {counterIndex : Fin 3} (hother : port ≠ counterPort counterIndex) :
    (pitPortOut state port byteValue).writeSide counterIndex = state.writeSide counterIndex := by
  rcases pitPortOut_ports port byteValue with ⟨h, -⟩ | ⟨hport0, h⟩ | ⟨hport2, h⟩ | ⟨hport1, h⟩ |
    ⟨-, -, h⟩
  · exact absurd h hport
  · rw [h]
    unfold pitCounter0Write pitLoad
    dsimp only
    fin_cases counterIndex
    · exact absurd hport0 hother
    · split_ifs <;> rfl
    · split_ifs <;> rfl
  · rw [h]
    unfold pitCounter2Write
    dsimp only
    fin_cases counterIndex
    · split_ifs <;> rfl
    · split_ifs <;> rfl
    · exact absurd hport2 hother
  · rw [h]
    fin_cases counterIndex
    · rfl
    · exact absurd hport1 hother
    · rfl
  · rw [h]

end DataPorts

theorem pitAccess_addClocks_sides (state : PitState) (clocks : UInt32) (counterIndex : Fin 3) :
    (pitAccess state (.addClocks clocks)).readSide counterIndex = state.readSide counterIndex ∧
      (pitAccess state (.addClocks clocks)).writeSide counterIndex =
        state.writeSide counterIndex := by
  obtain ⟨a, b, c, d, e, f, h⟩ := vddPitAddClocks_frame state clocks
  unfold pitAccess
  dsimp only
  rw [h]
  exact ⟨rfl, rfl⟩

theorem pitAccess_counter2Gate_sides (state : PitState) (isHigh : Bool) (counterIndex : Fin 3) :
    (pitAccess state (.counter2Gate isHigh)).readSide counterIndex =
        state.readSide counterIndex ∧
      (pitAccess state (.counter2Gate isHigh)).writeSide counterIndex =
        state.writeSide counterIndex := by
  unfold pitAccess vddPitCounter2Gate gateEdge
  dsimp only
  split_ifs <;> fin_cases counterIndex <;> exact ⟨rfl, rfl⟩

end Ntvdmex.Vdd.Pit
