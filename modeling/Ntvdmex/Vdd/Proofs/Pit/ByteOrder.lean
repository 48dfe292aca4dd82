import Ntvdmex.Vdd.Proofs.Pit.Speaker

/-!
# The byte order after a Control Word

A Control Word restarts the byte order of the writes of its counter.  It leaves that of the reads
where it was.
-/

namespace Ntvdmex.Vdd.Pit

open Foundation DivisorSide Function List

variable {state : PitState} {counterIndex : Fin 3}

variable {controlWord low : UInt8} {events : List PitAccess} {event : PitAccess} {isBcd : Bool}
    {port : Nat}

variable (counter : PitCounter) (command byteValue : UInt8) (other : Fin 3)

def SelectsLowHigh (counterIndex : Fin 3) (controlWord : UInt8) : Prop :=
  controlCounter controlWord = counterIndex.val ∧ controlAccess controlWord = pitAccessLowHigh
deriving Decidable

theorem SelectsLowHigh.not_latch (h : SelectsLowHigh counterIndex controlWord) :
    controlAccess controlWord ≠ pitAccessLatch := by
  rw [h.2]
  decide

theorem accessInForce_lowHigh : accessInForce pitAccessLowHigh = pitAccessLowHigh := rfl

theorem forall_foldl_pitAccess (property : PitState → Prop) {condition : PitAccess → Prop}
    (hstep : ∀ s event, property s → condition event → property (pitAccess s event))
    (hevents : ∀ event ∈ events, condition event) (hstart : property state)
    : property (events.foldl pitAccess state) := by
  induction events generalizing state with
  | nil => exact hstart
  | cons event rest ih =>
    rw [foldl_cons]
    exact ih (fun other hother => hevents other (mem_cons_of_mem _ hother))
      (hstep state event hstart (hevents event mem_cons_self))

/-! ## Writes -/

/-- The event neither programs the counter nor writes its data port. -/
def LeavesWrites (counterIndex : Fin 3) : PitAccess → Prop
  | .portOut port byteValue =>
    port ≠ counterPort counterIndex ∧
      (port = pitControlPort → controlCounter byteValue = counterIndex.val →
        controlAccess byteValue = pitAccessLatch)
  | _ => True

/-- The counter takes a low-then-high count, with this much of it written. -/
structure Writing (counterIndex : Fin 3) (isBcd isHighNext : Bool) (low : UInt8)
    (state : PitState) : Prop where
  side : state.writeSide counterIndex =
    { access := pitAccessLowHigh, isBcd, isWriteHighNext := isHighNext, writeLow := low }
  armed : counterIndex = 0 → state.isControlWordArmed = true
  speaker : counterIndex = 2 → state.counter2Access = pitAccessLowHigh ∧
    state.counter2IsWriteHighNext = isHighNext ∧
      (isHighNext = true → state.counter2WriteLow = low)

theorem readBack_armed :
    (pitReadBack state command).isControlWordArmed = state.isControlWordArmed := by
  have hcounter : ∀ (s : PitState) (counterIndex : Fin 3),
      (readBackCounter command s counterIndex).isControlWordArmed = s.isControlWordArmed := by
    intro s counterIndex
    apply readBackCounter_view s PitState.isControlWordArmed
    · unfold readBackStatus
      split_ifs <;> rfl
    · intro s
      unfold readBackLatch latchCounter0
      split_ifs <;> rfl
  unfold pitReadBack
  simp only [foldl_cons, foldl_nil, hcounter]

theorem pitControlWrite_armed
    (hleaves : controlCounter controlWord = 0 → controlAccess controlWord = pitAccessLatch) :
    (pitControlWrite state controlWord).isControlWordArmed = state.isControlWordArmed := by
  rw [pitControlWrite_eq]
  rcases controlCounter_cases controlWord with h | h | h | h
  · rw [h]
    simp [hleaves h, latchCounter0]
  · rw [h]
    simp
  · rw [h]
    by_cases hlatch : controlAccess controlWord = pitAccessLatch
    · simp [hlatch]
    · simp [hlatch]
  · rw [h]
    simp [readBack_armed]

theorem pitPortIn_armed (port : Nat) :
    (pitPortIn state port).2.isControlWordArmed = state.isControlWordArmed := by
  unfold pitPortIn
  cases portCounter port with
  | none => rfl
  | some other =>
    obtain ⟨flip, latched, h⟩ := pitCountRead_frame state other
    dsimp only
    split_ifs
    · rfl
    · rw [h]
      fin_cases other <;> rfl

theorem pitAccess_armed (hleaves : LeavesWrites 0 event) :
    (pitAccess state event).isControlWordArmed = state.isControlWordArmed := by
  cases event with
  | addClocks clocks =>
    obtain ⟨a, b, c, d, e, f, h⟩ := vddPitAddClocks_frame state clocks
    unfold pitAccess
    dsimp only
    rw [h]
  | counter2Gate isHigh =>
    unfold pitAccess vddPitCounter2Gate gateEdge
    dsimp only
    split_ifs <;> rfl
  | portIn port => exact pitPortIn_armed port
  | portOut port byteValue =>
    unfold pitAccess
    dsimp only
    rcases pitPortOut_ports port byteValue with ⟨hport, h⟩ | ⟨hport, h⟩ | ⟨-, h⟩ | ⟨-, h⟩ |
      ⟨-, -, h⟩
    · rw [h]
      exact pitControlWrite_armed (hleaves.2 hport)
    · exact absurd hport hleaves.1
    · rw [h]
      unfold pitCounter2Write
      dsimp only
      split_ifs <;> rfl
    · rw [h]
    · rw [h]

theorem pitAccess_writeSide (hleaves : LeavesWrites counterIndex event) :
    (pitAccess state event).writeSide counterIndex = state.writeSide counterIndex := by
  cases event with
  | addClocks clocks => exact (pitAccess_addClocks_sides state clocks counterIndex).2
  | counter2Gate isHigh => exact (pitAccess_counter2Gate_sides state isHigh counterIndex).2
  | portIn port => exact pitPortIn_writeSide state port counterIndex
  | portOut port byteValue =>
    unfold pitAccess
    dsimp only
    by_cases hport : port = pitControlPort
    · have hwrite : pitPortOut state port byteValue = pitControlWrite state byteValue := if_pos hport
      rw [hwrite, pitControlWrite_writeSide]
      exact if_neg fun hboth => hboth.2 (hleaves.2 hport hboth.1)
    · exact pitPortOut_writeSide hport byteValue hleaves.1

theorem LeavesWrites.divisor (hleaves : LeavesWrites 2 event) :
    writesDivisor event = none ∧ controlsDivisor event = none := by
  cases event with
  | portOut port byteValue =>
    refine ⟨if_neg hleaves.1, if_neg ?_⟩
    rintro ⟨hport, hcounter, haccess⟩
    exact haccess (hleaves.2 hport hcounter)
  | addClocks => exact ⟨rfl, rfl⟩
  | portIn => exact ⟨rfl, rfl⟩
  | counter2Gate => exact ⟨rfl, rfl⟩

section

variable {isBcd isHighNext : Bool} {low : UInt8}
    (h : Writing counterIndex isBcd isHighNext low state)

include h

theorem Writing.step (hleaves : LeavesWrites counterIndex event) :
    Writing counterIndex isBcd isHighNext low (pitAccess state event) where
  side := (pitAccess_writeSide hleaves).trans h.side
  armed := by
    rintro rfl
    exact (pitAccess_armed hleaves).trans (h.armed rfl)
  speaker := by
    rintro rfl
    obtain ⟨hwrites, hcontrols⟩ := hleaves.divisor
    have hside := pitAccess_divisorSide state hwrites hcontrols
    obtain ⟨haccess, hphase, hlow⟩ := h.speaker rfl
    exact ⟨(congrArg speakerAccess hside).trans haccess,
      (congrArg speakerIsHighNext hside).trans hphase,
      fun hnext => (congrArg speakerLow hside).trans (hlow hnext)⟩

theorem Writing.run (hevents : ∀ event ∈ events, LeavesWrites counterIndex event) :
    Writing counterIndex isBcd isHighNext low (events.foldl pitAccess state) :=
  forall_foldl_pitAccess (Writing counterIndex isBcd isHighNext low)
    (fun _ _ hs he => hs.step he) hevents h

end

theorem writing_pitControlWrite (h : SelectsLowHigh counterIndex controlWord) :
    Writing counterIndex (controlIsBcd controlWord) false
      (state.writeSide counterIndex).writeLow (pitPortOut state pitControlPort controlWord) := by
  have hlatch := h.not_latch
  have hwrite : pitPortOut state pitControlPort controlWord = pitControlWrite state controlWord :=
    if_pos rfl
  rw [hwrite]
  constructor
  · rw [pitControlWrite_writeSide, if_pos ⟨h.1, hlatch⟩, h.2]
  · rintro rfl
    have hcounter : controlCounter controlWord = 0 := h.1
    rw [pitControlWrite_eq, hcounter]
    simp [hlatch, pitCounter0Control]
  · rintro rfl
    have hcounter : controlCounter controlWord = 2 := h.1
    have hside := pitControlWrite_divisorSide state controlWord
    rw [if_pos ⟨hcounter, hlatch⟩] at hside
    exact ⟨(congrArg speakerAccess hside).trans h.2,
      congrArg speakerIsHighNext hside, fun hnext => absurd hnext (by decide)⟩

theorem pitPortOut_counter0 :
    pitPortOut state (counterPort 0) byteValue = pitCounter0Write state byteValue :=
  rfl

theorem pitPortOut_counter1 :
    pitPortOut state (counterPort 1) byteValue =
      { state with counter1 := pitCounterWriteCount state state.counter1 byteValue } :=
  rfl

theorem pitPortOut_counter2 :
    pitPortOut state (counterPort 2) byteValue = pitCounter2Write state byteValue :=
  rfl

/-- Between the bytes of a count, a byte of counter 1 or 2 is kept. -/
theorem pitCounterWriteCount_first (haccess : counter.access = pitAccessLowHigh)
    (hphase : counter.isWriteHighNext = false) (byteValue : UInt8) :
    pitCounterWriteCount state counter byteValue =
      { counter with writeLow := byteValue, isWriteHighNext := true } := by
  unfold pitCounterWriteCount
  rw [haccess, if_neg (by decide), if_neg (by decide), if_pos hphase]

theorem pitCounterWriteCount_second (haccess : counter.access = pitAccessLowHigh)
    (hphase : counter.isWriteHighNext = true) (byteValue : UInt8) :
    pitCounterWriteCount state counter byteValue =
      counterLoad state { counter with isWriteHighNext := false }
        (countWord byteValue counter.writeLow) := by
  unfold pitCounterWriteCount
  rw [haccess, if_neg (by decide), if_neg (by decide), if_neg (by rw [hphase]; decide)]

theorem Writing.first (h : Writing counterIndex isBcd false low state) (byteValue : UInt8) :
    Writing counterIndex isBcd true byteValue
        (pitPortOut state (counterPort counterIndex) byteValue) ∧
      (pitPortOut state (counterPort counterIndex) byteValue).reloadOf counterIndex =
        state.reloadOf counterIndex := by
  have haccess := congrArg WriteSide.access h.side
  have hisBcd := congrArg WriteSide.isBcd h.side
  have hphase := congrArg WriteSide.isWriteHighNext h.side
  match counterIndex with
  | 0 =>
    have hstate : state.access = pitAccessLowHigh := haccess
    have hbcd : state.isBcd = isBcd := hisBcd
    have hnext : state.isWriteHighNext = false := hphase
    have hwrite : pitCounter0Write state byteValue =
        { state with writeLow := byteValue, isWriteHighNext := true } := by
      unfold pitCounter0Write
      rw [hstate, accessInForce_lowHigh, if_neg (by decide), if_neg (by decide), if_pos hnext]
    rw [pitPortOut_counter0, hwrite]
    refine ⟨⟨?_, fun _ => h.armed rfl, fun habsurd => absurd habsurd (by decide)⟩, rfl⟩
    rw [← hstate, ← hbcd]
    rfl
  | 1 =>
    have hstate : state.counter1.access = pitAccessLowHigh := haccess
    have hbcd : state.counter1.isBcd = isBcd := hisBcd
    rw [pitPortOut_counter1, pitCounterWriteCount_first _ hstate hphase]
    refine ⟨⟨?_, fun habsurd => absurd habsurd (by decide),
      fun habsurd => absurd habsurd (by decide)⟩, rfl⟩
    rw [← hstate, ← hbcd]
    rfl
  | 2 =>
    have hbcd : state.counter2.isBcd = isBcd := hisBcd
    have hcounter : state.counter2.isWriteHighNext = false := hphase
    obtain ⟨hspeaker, hnext, -⟩ := h.speaker rfl
    have hforce : accessInForce state.counter2Access = pitAccessLowHigh :=
      congrArg accessInForce hspeaker
    have hcount : pitCounterWriteCount state { state.counter2 with access := pitAccessLowHigh }
        byteValue =
          { state.counter2 with
            access := pitAccessLowHigh, writeLow := byteValue, isWriteHighNext := true } :=
      pitCounterWriteCount_first { state.counter2 with access := pitAccessLowHigh } rfl hcounter
        byteValue
    have hwrite : pitCounter2Write state byteValue =
        { state with
          counter2WriteLow := byteValue
          counter2IsWriteHighNext := true
          counter2 :=
            { state.counter2 with
              access := pitAccessLowHigh, writeLow := byteValue, isWriteHighNext := true } } := by
      unfold pitCounter2Write
      dsimp only
      rw [hforce, if_neg (by decide), if_neg (by decide), if_pos hnext, hcount]
    rw [pitPortOut_counter2, hwrite]
    refine ⟨⟨?_, fun habsurd => absurd habsurd (by decide), fun _ => ⟨hspeaker, rfl, fun _ => rfl⟩⟩,
      rfl⟩
    rw [← hbcd]
    rfl

theorem Writing.second (h : Writing counterIndex isBcd true low state) (byteValue : UInt8) :
    (pitPortOut state (counterPort counterIndex) byteValue).reloadOf counterIndex =
        pitCountValue isBcd (countWord byteValue low) ∧
      (counterIndex = 2 →
        (pitPortOut state (counterPort counterIndex) byteValue).counter2Reload =
          countWord byteValue low) := by
  have haccess := congrArg WriteSide.access h.side
  have hisBcd := congrArg WriteSide.isBcd h.side
  have hphase := congrArg WriteSide.isWriteHighNext h.side
  have hlow := congrArg WriteSide.writeLow h.side
  match counterIndex with
  | 0 =>
    have hstate : state.access = pitAccessLowHigh := haccess
    have hbcd : state.isBcd = isBcd := hisBcd
    have hnext : state.isWriteHighNext = true := hphase
    have hbyte : state.writeLow = low := hlow
    have harmed := h.armed rfl
    have hload : (pitLoad state (countWord byteValue low)).reload =
        pitCountValue isBcd (countWord byteValue low) := by
      unfold pitLoad
      rw [if_neg fun hboth => absurd (harmed.symm.trans hboth.2) (by decide), hbcd]
    have hwrite : (pitCounter0Write state byteValue).reload =
        (pitLoad state (countWord byteValue low)).reload := by
      unfold pitCounter0Write
      rw [hstate, accessInForce_lowHigh, if_neg (by decide), if_neg (by decide),
        if_neg (by rw [hnext]; decide), hbyte]
    exact ⟨hwrite.trans hload, fun habsurd => absurd habsurd (by decide)⟩
  | 1 =>
    have hstate : state.counter1.access = pitAccessLowHigh := haccess
    have hbcd : state.counter1.isBcd = isBcd := hisBcd
    have hbyte : state.counter1.writeLow = low := hlow
    rw [pitPortOut_counter1, pitCounterWriteCount_second _ hstate hphase, ← hbcd, ← hbyte]
    exact ⟨rfl, fun habsurd => absurd habsurd (by decide)⟩
  | 2 =>
    have hbcd : state.counter2.isBcd = isBcd := hisBcd
    have hbyte : state.counter2.writeLow = low := hlow
    have hcounter : state.counter2.isWriteHighNext = true := hphase
    obtain ⟨hspeaker, hnext, hspeakerLow⟩ := h.speaker rfl
    have hforce : accessInForce state.counter2Access = pitAccessLowHigh :=
      congrArg accessInForce hspeaker
    have hcount : pitCounterWriteCount state { state.counter2 with access := pitAccessLowHigh }
        byteValue =
          counterLoad state
            { state.counter2 with access := pitAccessLowHigh, isWriteHighNext := false }
            (countWord byteValue low) := by
      rw [← hbyte]
      exact pitCounterWriteCount_second { state.counter2 with access := pitAccessLowHigh } rfl
        hcounter byteValue
    have hwrite : pitCounter2Write state byteValue =
        { state with
          counter2Reload := countWord byteValue low
          counter2IsWriteHighNext := false
          counter2 :=
            counterLoad state
              { state.counter2 with access := pitAccessLowHigh, isWriteHighNext := false }
              (countWord byteValue low) } := by
      unfold pitCounter2Write
      dsimp only
      rw [hforce, if_neg (by decide), if_neg (by decide), if_neg (by rw [hnext]; decide),
        hspeakerLow rfl, hcount]
    rw [pitPortOut_counter2, hwrite, ← hbcd]
    exact ⟨rfl, fun _ => rfl⟩

/-! ## Reads -/

/-- The event neither programs or latches the counter nor reads its data port. -/
def LeavesReads (counterIndex : Fin 3) : PitAccess → Prop
  | .portIn port => port ≠ counterPort counterIndex
  | .portOut port byteValue =>
    port = pitControlPort → controlCounter byteValue ≠ counterIndex.val ∧
      (controlCounter byteValue = pitSelectReadBack →
        byteValue.toNat / 2 ^ (counterIndex.val + 1) % 2 = 0)
  | _ => True

def PitState.statusSide (state : PitState) (counterIndex : Fin 3) : Bool × UInt8 :=
  (state.statusLatched counterIndex, state.statusLatch counterIndex)

theorem readBackCounter_statusSide
    (h : other = counterIndex → command.toNat / 2 ^ (other.val + 1) % 2 = 0) :
    (readBackCounter command state other).statusSide counterIndex =
      state.statusSide counterIndex := by
  by_cases hsame : other = counterIndex
  · have hself : readBackCounter command state other = state := if_pos (h hsame)
    rw [hself]
  · have hne : counterIndex ≠ other := fun heq => hsame heq.symm
    have hstatus : (readBackStatus state other).statusSide counterIndex =
        state.statusSide counterIndex := by
      unfold readBackStatus
      split_ifs
      · rfl
      · exact Prod.ext (update_of_ne hne _ _) (update_of_ne hne _ _)
    have hlatch : ∀ s : PitState,
        (readBackLatch s other).statusSide counterIndex = s.statusSide counterIndex := by
      intro s
      unfold readBackLatch latchCounter0
      split_ifs <;> rfl
    exact readBackCounter_view state (·.statusSide counterIndex) command other hstatus hlatch

theorem pitReadBack_statusSide (h : command.toNat / 2 ^ (counterIndex.val + 1) % 2 = 0) :
    (pitReadBack state command).statusSide counterIndex = state.statusSide counterIndex := by
  have hcounter : ∀ (s : PitState) (other : Fin 3),
      (readBackCounter command s other).statusSide counterIndex = s.statusSide counterIndex := by
    intro s other
    apply readBackCounter_statusSide
    rintro rfl
    exact h
  unfold pitReadBack
  simp only [foldl_cons, foldl_nil, hcounter]

theorem pitControlWrite_statusSide
    (h : controlCounter controlWord = pitSelectReadBack →
      controlWord.toNat / 2 ^ (counterIndex.val + 1) % 2 = 0) :
    (pitControlWrite state controlWord).statusSide counterIndex =
      state.statusSide counterIndex := by
  rw [pitControlWrite_eq]
  rcases controlCounter_cases controlWord with hcounter | hcounter | hcounter | hcounter
  · rw [hcounter]
    by_cases hlatch : controlAccess controlWord = pitAccessLatch
    · simp [hlatch, latchCounter0, PitState.statusSide]
    · simp [hlatch, pitCounter0Control, PitState.statusSide]
  · rw [hcounter]
    rfl
  · rw [hcounter]
    by_cases hlatch : controlAccess controlWord = pitAccessLatch
    · simp [hlatch, PitState.statusSide]
    · simp [hlatch, PitState.statusSide]
  · have hclear := h hcounter
    rw [hcounter, if_neg (by decide), if_neg (by decide), if_pos rfl]
    exact pitReadBack_statusSide controlWord hclear

theorem pitCountRead_statusSide :
    (pitCountRead state other).2.statusSide counterIndex = state.statusSide counterIndex := by
  obtain ⟨flip, latched, h⟩ := pitCountRead_frame state other
  rw [h]
  fin_cases other <;> rfl

theorem pitPortIn_statusSide (hport : port ≠ counterPort counterIndex) :
    (pitPortIn state port).2.statusSide counterIndex = state.statusSide counterIndex := by
  unfold pitPortIn
  cases hcounter : portCounter port with
  | none => rfl
  | some other =>
    have hne : counterIndex ≠ other := by
      rintro rfl
      exact hport (portCounter_eq_some_iff.mp hcounter)
    dsimp only
    split_ifs
    · exact Prod.ext (update_of_ne hne _ _) rfl
    · exact pitCountRead_statusSide other

theorem pitPortOut_statusSide (hport : port ≠ pitControlPort) (byteValue : UInt8) :
    (pitPortOut state port byteValue).statusSide counterIndex = state.statusSide counterIndex := by
  rcases pitPortOut_ports port byteValue with ⟨h, -⟩ | ⟨-, h⟩ | ⟨-, h⟩ | ⟨-, h⟩ | ⟨-, -, h⟩
  · exact absurd h hport
  · rw [h]
    unfold pitCounter0Write pitLoad
    dsimp only
    split_ifs <;> rfl
  · rw [h]
    unfold pitCounter2Write
    dsimp only
    split_ifs <;> rfl
  · rw [h]
    rfl
  · rw [h]

theorem pitAccess_statusSide (hleaves : LeavesReads counterIndex event) :
    (pitAccess state event).statusSide counterIndex = state.statusSide counterIndex := by
  cases event with
  | addClocks clocks =>
    obtain ⟨a, b, c, d, e, f, h⟩ := vddPitAddClocks_frame state clocks
    unfold pitAccess
    dsimp only
    rw [h]
    rfl
  | counter2Gate isHigh =>
    unfold pitAccess vddPitCounter2Gate gateEdge
    dsimp only
    split_ifs <;> rfl
  | portIn port => exact pitPortIn_statusSide hleaves
  | portOut port byteValue =>
    by_cases hport : port = pitControlPort
    · have hwrite : pitPortOut state port byteValue = pitControlWrite state byteValue := if_pos hport
      unfold pitAccess
      dsimp only
      rw [hwrite]
      exact pitControlWrite_statusSide (hleaves hport).2
    · exact pitPortOut_statusSide hport byteValue

theorem SpeakerAgrees.pitAccess (h : SpeakerAgrees state) (event : PitAccess) :
    SpeakerAgrees (pitAccess state event) := by
  cases hwrites : writesDivisor event with
  | none =>
    cases hcontrols : controlsDivisor event with
    | none =>
      have hside := pitAccess_divisorSide state hwrites hcontrols
      have hspeaker := congrArg speakerAccess hside
      have haccess := congrArg access hside
      exact (congrArg accessInForce hspeaker).trans (h.trans haccess.symm)
    | some controlWord =>
      obtain ⟨hside, hlatch⟩ := pitAccess_controlsDivisor state hcontrols
      have hspeaker := congrArg speakerAccess hside
      have haccess := congrArg access hside
      have hforce : accessInForce (controlAccess controlWord) = controlAccess controlWord :=
        if_neg hlatch
      exact (congrArg accessInForce hspeaker).trans (hforce.trans haccess.symm)
  | some byteValue =>
    rw [pitAccess_writesDivisor state hwrites]
    unfold pitCounter2Write pitCounterWriteCount counterLoad SpeakerAgrees
    dsimp only
    split_ifs <;> rfl

/-- The counter is read live, low then high. -/
structure Reading (counterIndex : Fin 3) (isHighNext : Bool) (status : Bool × UInt8)
    (state : PitState) : Prop where
  access : (state.readSide counterIndex).access = pitAccessLowHigh
  phase : (state.readSide counterIndex).isReadHighNext = isHighNext
  live : (state.readSide counterIndex).isLatched = false
  status : state.statusSide counterIndex = status
  speaker : counterIndex = 2 → SpeakerAgrees state

theorem pitAccess_readSide (hleaves : LeavesReads counterIndex event)
    (hspeaker : counterIndex = 2 → SpeakerAgrees state) :
    (pitAccess state event).readSide counterIndex = state.readSide counterIndex := by
  cases event with
  | addClocks clocks => exact (pitAccess_addClocks_sides state clocks counterIndex).1
  | counter2Gate isHigh => exact (pitAccess_counter2Gate_sides state isHigh counterIndex).1
  | portIn port => exact pitPortIn_other state hleaves
  | portOut port byteValue =>
    by_cases hport : port = pitControlPort
    · obtain ⟨hcounter, hclear⟩ := hleaves hport
      have hwrite : pitPortOut state port byteValue = pitControlWrite state byteValue := if_pos hport
      have hnot : ¬(controlCounter byteValue = 3 ∧ LatchesCount byteValue counterIndex) := by
        rintro ⟨hreadBack, hlatches⟩
        have hone := hlatches.1
        rw [hclear hreadBack] at hone
        cases hone
      unfold pitAccess
      dsimp only
      rw [hwrite, pitControlWrite_readSide, if_neg hcounter, if_neg hnot]
    · exact pitPortOut_readSide hport byteValue fun htwo _ => hspeaker htwo

section

variable {isHighNext : Bool} {status : Bool × UInt8}
    (h : Reading counterIndex isHighNext status state)

include h

theorem Reading.step (hleaves : LeavesReads counterIndex event) :
    Reading counterIndex isHighNext status (pitAccess state event) := by
  have hside := pitAccess_readSide hleaves h.speaker
  refine ⟨?_, ?_, ?_, (pitAccess_statusSide hleaves).trans h.status,
    fun htwo => (h.speaker htwo).pitAccess event⟩
  · rw [hside]
    exact h.access
  · rw [hside]
    exact h.phase
  · rw [hside]
    exact h.live

theorem Reading.run (hevents : ∀ event ∈ events, LeavesReads counterIndex event) :
    Reading counterIndex isHighNext status (events.foldl pitAccess state) :=
  forall_foldl_pitAccess (Reading counterIndex isHighNext status)
    (fun _ _ hs he => hs.step he) hevents h

end

/-- The Control Word leaves the phase of the reads where it was. -/
theorem reading_pitControlWrite (h : SelectsLowHigh counterIndex controlWord)
    (hlive : (state.readSide counterIndex).isLatched = false) :
    Reading counterIndex (state.readSide counterIndex).isReadHighNext
      (state.statusSide counterIndex) (pitPortOut state pitControlPort controlWord) := by
  have hlatch := h.not_latch
  have hwrite : pitPortOut state pitControlPort controlWord = pitControlWrite state controlWord :=
    if_pos rfl
  have hside := pitControlWrite_readSide state controlWord counterIndex
  rw [if_pos h.1, if_neg hlatch] at hside
  rw [hwrite]
  refine ⟨?_, ?_, ?_, ?_, ?_⟩
  · rw [hside]
    exact h.2
  · rw [hside]
  · rw [hside]
    exact hlive
  · apply pitControlWrite_statusSide
    intro hreadBack
    have hcounter := h.1
    have hselect : pitSelectReadBack = 3 := rfl
    omega
  · rintro rfl
    have hcounter : controlCounter controlWord = 2 := h.1
    have hdivisor := pitControlWrite_divisorSide state controlWord
    rw [if_pos ⟨hcounter, hlatch⟩] at hdivisor
    have hspeaker := congrArg speakerAccess hdivisor
    have haccess := congrArg access hdivisor
    have hforce : accessInForce (controlAccess controlWord) = controlAccess controlWord :=
      if_neg hlatch
    exact (congrArg accessInForce hspeaker).trans (hforce.trans haccess.symm)

def PitState.countBytes (state : PitState) (counterIndex : Fin 3) : UInt16 :=
  pitCountBytes (state.readSide counterIndex).isBcd (state.count counterIndex)

def readByte (isHighNext : Bool) (status : Bool × UInt8) (count : UInt16) : UInt8 :=
  if status.1 then status.2 else if isHighNext then highByte count else lowByte count

theorem Reading.read {isHighNext : Bool} {status : Bool × UInt8}
    (h : Reading counterIndex isHighNext status state) :
    (pitPortIn state (counterPort counterIndex)).1 =
        readByte isHighNext status (state.countBytes counterIndex) ∧
      Reading counterIndex (if status.1 then isHighNext else !isHighNext) (false, status.2)
        (pitPortIn state (counterPort counterIndex)).2 := by
  obtain ⟨haccess, hphase, hlive, hstatus, hspeaker⟩ := h
  have hspeaker' : counterIndex = 2 →
      SpeakerAgrees (pitPortIn state (counterPort counterIndex)).2 :=
    fun htwo => (hspeaker htwo).pitAccess (.portIn (counterPort counterIndex))
  have hflag : state.statusLatched counterIndex = status.1 := congrArg Prod.fst hstatus
  have hbyte : state.statusLatch counterIndex = status.2 := congrArg Prod.snd hstatus
  cases hlatched : status.1 with
  | true =>
    rw [hlatched] at hflag
    have hin := pitPortIn_status state hflag
    unfold readByte
    rw [hin, hlatched, if_pos rfl]
    refine ⟨hbyte, ⟨haccess, hphase, hlive, ?_, ?_⟩⟩
    · exact Prod.ext (update_self _ _ _) hbyte
    · rw [hin] at hspeaker'
      exact hspeaker'
  | false =>
    rw [hlatched] at hflag
    have hin := pitPortIn_count state hflag
    obtain ⟨hvalue, hside⟩ := pitCountRead_readSide state counterIndex
    have hcount : (state.readSide counterIndex).value (state.count counterIndex) =
        state.countBytes counterIndex := by
      unfold ReadSide.value PitState.countBytes
      rw [hlive]
      rfl
    have hforce : accessInForce (state.readSide counterIndex).access = pitAccessLowHigh := by
      rw [haccess]
      rfl
    have hstatus' : (pitCountRead state counterIndex).2.statusSide counterIndex =
        (false, status.2) := by
      rw [pitCountRead_statusSide, hstatus, ← hlatched]
    rw [hcount] at hvalue hside
    unfold ReadSide.read at hvalue hside
    rw [hforce, if_neg (by decide), if_neg (by decide), hphase] at hvalue hside
    unfold readByte
    rw [hin, hlatched]
    rw [hin] at hspeaker'
    cases isHighNext with
    | false =>
      rw [if_pos rfl] at hvalue hside
      refine ⟨hvalue, ⟨?_, ?_, ?_, hstatus', hspeaker'⟩⟩
      · rw [hside]
        exact haccess
      · rw [hside]
        rfl
      · rw [hside]
        exact hlive
    | true =>
      rw [if_neg (by decide)] at hvalue hside
      refine ⟨hvalue, ⟨?_, ?_, ?_, hstatus', hspeaker'⟩⟩
      · rw [hside]
        exact haccess
      · rw [hside]
        rfl
      · rw [hside]

/-- The first of two reads returns the low byte of its count and the second the high byte of its
own: they start low byte first, or do not, with bytes that happen to agree. -/
def ReadsLowHigh (isHighNext : Bool) (status : Bool × UInt8) (first second : UInt16) : Prop :=
  if status.1 then
    status.2 = lowByte first ∧ (isHighNext = true ∨ lowByte second = highByte second)
  else
    isHighNext = false ∨ (highByte first = lowByte first ∧ lowByte second = highByte second)

theorem readsLowHigh_iff (isHighNext : Bool) (status : Bool × UInt8) (first second : UInt16) :
    (readByte isHighNext status first = lowByte first ∧
        readByte (if status.1 then isHighNext else !isHighNext) (false, status.2) second =
          highByte second) ↔
      ReadsLowHigh isHighNext status first second := by
  obtain ⟨isLatched, byteValue⟩ := status
  unfold readByte ReadsLowHigh
  cases isLatched <;> cases isHighNext <;> simp

/-- After a Control Word that selects low-then-high access the next two writes load one count, low
byte first.  The next two reads return the low and the high byte exactly when the phase of the
reads was clear before it and no status byte is latched, or the bytes happen to agree. -/
theorem controlWord_byteOrder_iff (state : PitState) (counterIndex : Fin 3) (controlWord : UInt8)
    (h : SelectsLowHigh counterIndex controlWord)
    (hlive : (state.readSide counterIndex).isLatched = false) :
    (∀ (before between : List PitAccess) (low high : UInt8),
      (∀ event ∈ before, LeavesWrites counterIndex event) →
      (∀ event ∈ between, LeavesWrites counterIndex event) →
      let start := before.foldl pitAccess (pitPortOut state pitControlPort controlWord)
      let first := pitPortOut start (counterPort counterIndex) low
      let second := pitPortOut (between.foldl pitAccess first) (counterPort counterIndex) high
      first.reloadOf counterIndex = start.reloadOf counterIndex ∧
        second.reloadOf counterIndex =
          pitCountValue (controlIsBcd controlWord) (countWord high low) ∧
        (counterIndex = 2 → second.counter2Reload = countWord high low)) ∧
    ∀ before between : List PitAccess,
      (∀ event ∈ before, LeavesReads counterIndex event) →
      (∀ event ∈ between, LeavesReads counterIndex event) →
      let first := before.foldl pitAccess (pitPortOut state pitControlPort controlWord)
      let second := between.foldl pitAccess (pitPortIn first (counterPort counterIndex)).2
      (((pitPortIn first (counterPort counterIndex)).1 =
            lowByte (first.countBytes counterIndex) ∧
          (pitPortIn second (counterPort counterIndex)).1 =
            highByte (second.countBytes counterIndex)) ↔
        ReadsLowHigh (state.readSide counterIndex).isReadHighNext
          (state.statusSide counterIndex) (first.countBytes counterIndex)
          (second.countBytes counterIndex)) := by
  constructor
  · intro before between low high hbefore hbetween start first second
    have hstart : Writing counterIndex (controlIsBcd controlWord) false
        (state.writeSide counterIndex).writeLow start :=
      (writing_pitControlWrite h).run hbefore
    obtain ⟨hfirst, hkept⟩ := hstart.first low
    exact ⟨hkept, (hfirst.run hbetween).second high⟩
  · intro before between hbefore hbetween first second
    have hstart : Reading counterIndex (state.readSide counterIndex).isReadHighNext
        (state.statusSide counterIndex) first :=
      (reading_pitControlWrite h hlive).run hbefore
    obtain ⟨hvalue, hread⟩ := hstart.read
    rw [hvalue, (hread.run hbetween).read.1]
    exact readsLowHigh_iff _ _ _ _

theorem controlWord_byteOrder_counter0 :
    (pitPortOut (pitPortOut (pitPortOut vddPitReset 0x43 0x34) 0x40 0x34) 0x40 0x12).reload =
        0x1234 ∧
      (pitPortIn (pitPortOut vddPitReset 0x43 0x34) 0x40).1 =
        lowByte ((pitPortOut vddPitReset 0x43 0x34).countBytes 0) :=
  ⟨((controlWord_byteOrder_iff vddPitReset 0 0x34 (by decide) (by decide)).1 [] [] 0x34 0x12
      (by simp) (by simp)).2.1,
    (((controlWord_byteOrder_iff vddPitReset 0 0x34 (by decide) (by decide)).2 [] []
      (by simp) (by simp)).mpr (Or.inl rfl)).1⟩

theorem controlWord_keeps_read_phase :
    ¬∀ (events : List PitAccess) (counterIndex : Fin 3) (controlWord low high : UInt8),
      let state := events.foldl pitAccess vddPitReset
      SelectsLowHigh counterIndex controlWord →
      (state.readSide counterIndex).isLatched = false → state.statusLatched counterIndex = false →
      let port := counterPort counterIndex
      let loaded :=
        pitPortOut (pitPortOut (pitPortOut state pitControlPort controlWord) port low) port high
      (pitPortIn loaded port).1 = lowByte (loaded.countBytes counterIndex) ∧
        (pitPortIn (pitPortIn loaded port).2 port).1 =
          highByte ((pitPortIn loaded port).2.countBytes counterIndex) := by
  intro h
  have hreads := h [.portIn 0x40] 0 0x34 0x34 0x12 (by decide) (by decide) (by decide)
  revert hreads
  decide

end Ntvdmex.Vdd.Pit
