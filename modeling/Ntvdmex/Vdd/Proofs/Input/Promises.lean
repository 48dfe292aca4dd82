import Ntvdmex.Vdd.Proofs.Input.Doors

/-!
# What the ports and the poll promise of the output buffer

The poll announces a scancode that nothing holds back, and a read of port 60h takes the byte
that a read of port 64h has just promised.
-/

namespace Ntvdmex.Vdd.Input

open Foundation Nat Option InputState Ring
open Foundation.Announcements
open Vdd.PointingDevice

/-- What looking and presenting leave alone; time may only pass. -/
structure Keeps (before after : InputState) : Prop where
  scanCodeQueue : after.scanCodeQueue = before.scanCodeQueue
  scanCodeHead : after.scanCodeHead = before.scanCodeHead
  scanCodeTail : after.scanCodeTail = before.scanCodeTail
  aux : after.aux = before.aux
  isControllerReplyReady : after.isControllerReplyReady = before.isControllerReplyReady
  controllerReply : after.controllerReply = before.controllerReply
  controllerCommandByte : after.controllerCommandByte = before.controllerCommandByte
  lastScanCode : after.lastScanCode = before.lastScanCode
  scanCodeHoldUntil : after.scanCodeHoldUntil = before.scanCodeHoldUntil
  timeMicroseconds : after.timeMicroseconds = before.timeMicroseconds
  readingsTaken_le : before.readingsTaken ≤ after.readingsTaken

theorem Keeps.refl (state : InputState) : Keeps state state :=
  ⟨rfl, rfl, rfl, rfl, rfl, rfl, rfl, rfl, rfl, rfl, le_refl _⟩

theorem Keeps.trans {first second third : InputState} (h : Keeps first second)
    (hnext : Keeps second third) : Keeps first third where
  scanCodeQueue := hnext.scanCodeQueue.trans h.scanCodeQueue
  scanCodeHead := hnext.scanCodeHead.trans h.scanCodeHead
  scanCodeTail := hnext.scanCodeTail.trans h.scanCodeTail
  aux := hnext.aux.trans h.aux
  isControllerReplyReady := hnext.isControllerReplyReady.trans h.isControllerReplyReady
  controllerReply := hnext.controllerReply.trans h.controllerReply
  controllerCommandByte := hnext.controllerCommandByte.trans h.controllerCommandByte
  lastScanCode := hnext.lastScanCode.trans h.lastScanCode
  scanCodeHoldUntil := hnext.scanCodeHoldUntil.trans h.scanCodeHoldUntil
  timeMicroseconds := hnext.timeMicroseconds.trans h.timeMicroseconds
  readingsTaken_le := h.readingsTaken_le.trans hnext.readingsTaken_le

theorem Keeps.scanCodes {before after : InputState} (h : Keeps before after) :
    scanCodes after = scanCodes before := by
  unfold Input.scanCodes
  rw [h.scanCodeQueue, h.scanCodeHead, h.scanCodeTail]

section

variable (state : InputState)

include state

theorem clockRead_keeps : Keeps state state.clockRead := by
  refine ⟨rfl, rfl, rfl, rfl, rfl, rfl, rfl, rfl, rfl, rfl, ?_⟩
  unfold clockRead
  split_ifs
  · exact le_succ _
  · exact le_refl _

theorem inputScanCodeAvailable_keeps :
    Keeps state (inputScanCodeAvailable state).2 := by
  rcases inputScanCodeAvailable_snd state with h | h <;> rw [h]
  · exact .refl state
  · exact clockRead_keeps state

theorem inputAuxAvailable_keeps :
    Keeps state (inputAuxAvailable state).2 := by
  rcases inputAuxAvailable_snd state with h | h <;> rw [h]
  · exact .refl state
  · exact clockRead_keeps state

theorem inputSources_keeps : Keeps state (inputSources state).2.2 := by
  unfold inputSources
  have hkeeps := inputScanCodeAvailable_keeps state
  rcases hresult : inputScanCodeAvailable state with ⟨available, next⟩
  rw [hresult] at hkeeps
  cases available with
  | true => exact hkeeps
  | false => exact hkeeps.trans (inputAuxAvailable_keeps next)

theorem inputScanCodePresent_keeps :
    Keeps state (inputScanCodePresent state) := by
  unfold inputScanCodePresent
  dsimp only
  split <;> exact ⟨rfl, rfl, rfl, rfl, rfl, rfl, rfl, rfl, rfl, rfl, le_refl _⟩

theorem inputAuxPresent_keeps : Keeps state (inputAuxPresent state) := by
  unfold inputAuxPresent
  dsimp only
  split <;> exact ⟨rfl, rfl, rfl, rfl, rfl, rfl, rfl, rfl, rfl, rfl, le_refl _⟩

theorem inputKeyboardPoll_keeps : Keeps state (inputKeyboardPoll state) := by
  unfold inputKeyboardPoll
  by_cases hup : state.isScanCodeIrqUp = true
  · rw [if_pos hup]
    exact .refl state
  · rw [if_neg hup]
    have hkeeps := inputScanCodeAvailable_keeps state
    rcases hresult : inputScanCodeAvailable state with ⟨available, next⟩
    rw [hresult] at hkeeps
    cases available with
    | false => exact hkeeps
    | true => exact hkeeps.trans (inputScanCodePresent_keeps next)

theorem inputAuxPoll_keeps : Keeps state (inputAuxPoll state) := by
  unfold inputAuxPoll
  by_cases hpresented : state.isAuxPresented = true
  · rw [if_pos hpresented]
    exact .refl state
  · rw [if_neg hpresented]
    have hkeeps := inputAuxAvailable_keeps state
    rcases hresult : inputAuxAvailable state with ⟨available, next⟩
    rw [hresult] at hkeeps
    cases available with
    | false => exact hkeeps
    | true => exact hkeeps.trans (inputAuxPresent_keeps next)

theorem vddInputPoll_keeps : Keeps state (vddInputPoll state) :=
  (inputKeyboardPoll_keeps state).trans (inputAuxPoll_keeps _)

end

/-! ## The poll -/

theorem inputAuxPresent_isScanCodeIrqUp (state : InputState) :
    (inputAuxPresent state).isScanCodeIrqUp = state.isScanCodeIrqUp := by
  unfold inputAuxPresent
  dsimp only
  split <;> rfl

theorem inputAuxPoll_isScanCodeIrqUp (state : InputState) :
    (inputAuxPoll state).isScanCodeIrqUp = state.isScanCodeIrqUp := by
  unfold inputAuxPoll
  by_cases hpresented : state.isAuxPresented = true
  · rw [if_pos hpresented]
  · rw [if_neg hpresented]
    have hdoor := inputAuxAvailable_door state
    rcases hresult : inputAuxAvailable state with ⟨available, next⟩
    rw [hresult] at hdoor
    have hup : next.isScanCodeIrqUp = state.isScanCodeIrqUp :=
      congrArg Door.isScanCodeIrqUp hdoor
    cases available with
    | false => exact hup
    | true => exact (inputAuxPresent_isScanCodeIrqUp next).trans hup

theorem inputAuxPoll_of_presented {state : InputState} (h : state.isAuxPresented = true) :
    inputAuxPoll state = state := by
  unfold inputAuxPoll
  rw [if_pos h]

theorem inputKeyboardPoll_of_ready {state : InputState}
    (hfree : inputScanCodeIsFree state = true) (hpassed : inputHoldPassed state = true) :
    (inputKeyboardPoll state).isScanCodeIrqUp = true := by
  unfold inputKeyboardPoll
  by_cases hup : state.isScanCodeIrqUp = true
  · rw [if_pos hup]
    exact hup
  · have havailable : inputScanCodeAvailable state = (true, state.clockRead) := by
      unfold inputScanCodeAvailable
      rw [if_pos hfree, hpassed]
    rw [if_neg hup, havailable]
    dsimp only
    rw [if_pos rfl]
    unfold inputScanCodePresent
    dsimp only
    split <;> rfl

theorem inputScanCodePresent_isAuxPresented (state : InputState) :
    (inputScanCodePresent state).isAuxPresented = state.isAuxPresented := by
  unfold inputScanCodePresent
  dsimp only
  split <;> rfl

theorem inputKeyboardPoll_isAuxPresented (state : InputState) :
    (inputKeyboardPoll state).isAuxPresented = state.isAuxPresented := by
  unfold inputKeyboardPoll
  by_cases hup : state.isScanCodeIrqUp = true
  · rw [if_pos hup]
  · rw [if_neg hup]
    rcases hresult : inputScanCodeAvailable state with ⟨available, next⟩
    have hpresented : next.isAuxPresented = state.isAuxPresented :=
      congrArg Door.isAuxPresented (available_door hresult)
    cases available with
    | false => exact hpresented
    | true => exact (inputScanCodePresent_isAuxPresented next).trans hpresented

/-- A scancode that waits for nothing is announced by the poll. -/
theorem vddInputPoll_announces {state : InputState}
    (hqueue : (vddInputPoll state).scanCodeHead ≠ (vddInputPoll state).scanCodeTail)
    (henabled : (vddInputPoll state).isKeyboardDisabled = false)
    (hpassed : inputHoldPassed state = true)
    (hmouse : (vddInputPoll state).isAuxPresented = false) :
    (vddInputPoll state).isScanCodeIrqUp = true := by
  have hkeeps := vddInputPoll_keeps state
  have hpresented : state.isAuxPresented = false := by
    by_contra hpresented
    have hkept : (inputKeyboardPoll state).isAuxPresented = true :=
      (inputKeyboardPoll_isAuxPresented state).trans (Bool.eq_true_of_not_eq_false hpresented)
    unfold vddInputPoll at hmouse
    rw [inputAuxPoll_of_presented hkept, hkept] at hmouse
    exact Bool.false_ne_true hmouse.symm
  have hfree : inputScanCodeIsFree state = true := by
    rw [inputScanCodeIsFree_iff]
    refine ⟨?_, fun _ => ⟨?_, hpresented⟩⟩
    · rw [← hkeeps.scanCodeHead, ← hkeeps.scanCodeTail]
      exact hqueue
    · unfold isKeyboardDisabled at henabled ⊢
      rw [← hkeeps.controllerCommandByte]
      exact henabled
  exact (inputAuxPoll_isScanCodeIrqUp _).trans (inputKeyboardPoll_of_ready hfree hpassed)

/-! ## Looking again while the clock stands still -/

/-- Every reading of the clock from `state` to the reading `bound` returns the same time. -/
def StandsStill (state : InputState) (bound : Nat) : Prop :=
  ∀ readings, state.timeMicroseconds = some readings →
    ∀ index, state.readingsTaken ≤ index → index < bound →
      readings index = readings state.readingsTaken

/-- Whether a scancode can be read at this time. -/
def scanCodeReady (state : InputState) : Bool :=
  inputScanCodeIsFree state && inputHoldPassed state

/-- Whether a byte of the mouse can be read at this time. -/
def auxReady (state : InputState) : Bool :=
  auxDeviceQueued state.aux ≠ 0 &&
    (state.isAuxPresented ||
      (!state.isAuxDisabled && !state.isScanCodeIrqUp && !scanCodeReady state))

/-- A state that only clock readings separate from another. -/
structure Looks (before after : InputState) : Prop where
  keeps : Keeps before after
  door_eq : door after = door before

theorem Looks.refl (state : InputState) : Looks state state :=
  ⟨.refl state, rfl⟩

theorem Looks.trans {first second third : InputState} (h : Looks first second)
    (hnext : Looks second third) : Looks first third :=
  ⟨h.keeps.trans hnext.keeps, hnext.door_eq.trans h.door_eq⟩

theorem inputScanCodeAvailable_looks (state : InputState) :
    Looks state (inputScanCodeAvailable state).2 :=
  ⟨inputScanCodeAvailable_keeps state, inputScanCodeAvailable_door state⟩

theorem inputSources_looks (state : InputState) : Looks state (inputSources state).2.2 :=
  ⟨inputSources_keeps state, inputSources_door state⟩

theorem Looks.isFree {before after : InputState} (h : Looks before after) :
    inputScanCodeIsFree after = inputScanCodeIsFree before := by
  have hup : after.isScanCodeIrqUp = before.isScanCodeIrqUp :=
    congrArg Door.isScanCodeIrqUp h.door_eq
  have hpresented : after.isAuxPresented = before.isAuxPresented :=
    congrArg Door.isAuxPresented h.door_eq
  unfold inputScanCodeIsFree isKeyboardDisabled
  rw [h.keeps.scanCodeHead, h.keeps.scanCodeTail, h.keeps.controllerCommandByte, hup, hpresented]

section

variable {before after : InputState} {bound : Nat} (h : Looks before after)
    (hstill : StandsStill before bound)

include h hstill

/-- Looking again gives the same answer. -/
theorem Looks.scanCodeAvailable (hbound : (inputScanCodeAvailable after).2.readingsTaken ≤ bound) :
    (inputScanCodeAvailable after).1 = scanCodeReady before := by
  unfold scanCodeReady
  unfold inputScanCodeAvailable at hbound ⊢
  rw [h.isFree] at hbound ⊢
  cases hfree : inputScanCodeIsFree before with
  | false => rfl
  | true =>
    rw [hfree, if_pos rfl] at hbound
    rw [if_pos rfl, Bool.true_and]
    unfold inputHoldPassed now
    rw [h.keeps.timeMicroseconds, h.keeps.scanCodeHoldUntil]
    cases hclock : before.timeMicroseconds with
    | none => rfl
    | some readings =>
      have hclock' := h.keeps.timeMicroseconds.trans hclock
      have hlt : after.readingsTaken < bound := by
        unfold clockRead at hbound
        simp only [hclock', isSome_some, if_true] at hbound
        omega
      rw [map_some, map_some,
        hstill readings hclock after.readingsTaken h.keeps.readingsTaken_le hlt]

theorem Looks.auxAvailable (hbound : (inputAuxAvailable after).2.readingsTaken ≤ bound) :
    (inputAuxAvailable after).1 = auxReady before := by
  have hup : after.isScanCodeIrqUp = before.isScanCodeIrqUp :=
    congrArg Door.isScanCodeIrqUp h.door_eq
  have hpresented : after.isAuxPresented = before.isAuxPresented :=
    congrArg Door.isAuxPresented h.door_eq
  have hdisabled : after.isAuxDisabled = before.isAuxDisabled := by
    unfold isAuxDisabled
    rw [h.keeps.controllerCommandByte]
  unfold auxReady
  unfold inputAuxAvailable at hbound ⊢
  rw [h.keeps.aux, hup, hpresented, hdisabled] at hbound ⊢
  by_cases hqueued : auxDeviceQueued before.aux = 0
  · simp [hqueued]
  · rw [if_neg hqueued] at hbound ⊢
    cases hpresented' : before.isAuxPresented with
    | true => simp [hqueued]
    | false =>
      cases hdisabled' : before.isAuxDisabled with
      | true => simp
      | false =>
        cases hup' : before.isScanCodeIrqUp with
        | true => simp
        | false =>
          simp only [hpresented', hdisabled', hup', if_false, Bool.false_eq_true] at hbound ⊢
          have hready := h.scanCodeAvailable hstill hbound
          simp [hready, hqueued]

theorem Looks.sources (hbound : (inputSources after).2.2.readingsTaken ≤ bound) :
    (inputSources after).1 = scanCodeReady before ∧
      (inputSources after).2.1 = (!scanCodeReady before && auxReady before) := by
  unfold inputSources at hbound ⊢
  have hlooks := inputScanCodeAvailable_looks after
  have hready := @Looks.scanCodeAvailable _ _ bound h hstill
  rcases hresult : inputScanCodeAvailable after with ⟨available, next⟩
  rw [hresult] at hlooks hready hbound
  cases available with
  | true =>
    have hfull := hready hbound
    exact ⟨hfull, by rw [← hfull]; rfl⟩
  | false =>
    have hnext : next.readingsTaken ≤ bound :=
      (inputAuxAvailable_keeps next).readingsTaken_le.trans hbound
    have hempty := hready hnext
    refine ⟨hempty, ?_⟩
    rw [← hempty, Bool.not_false, Bool.true_and]
    exact (h.trans hlooks).auxAvailable hstill hbound

end

/-!
## A controller with one output buffer

What a read of port 60h takes, against the status that was read before it, and what holds
after every interleaving of the doors.
-/

open Foundation
open Foundation.Announcements
open Vdd.PointingDevice
open InputEvent

/-! ## What a read took -/

/-- The read returned the head byte of the mouse and took nothing else. -/
def TakesMouseByte (before after : InputState) (value : UInt32) : Prop :=
  ∃ byte, mouseBytes before.aux = byte :: mouseBytes after.aux ∧ value = byte.toUInt32 ∧
    scanCodes after = scanCodes before ∧
    after.isControllerReplyReady = before.isControllerReplyReady

/-- The read returned the head scancode and took nothing else. -/
def TakesScanCode (before after : InputState) (value : UInt32) : Prop :=
  ∃ byte, scanCodes before = byte :: scanCodes after ∧ value = byte.toUInt32 ∧
    mouseBytes after.aux = mouseBytes before.aux ∧
    after.isControllerReplyReady = before.isControllerReplyReady

/-- The read returned the reply of the controller and took nothing else. -/
def TakesReply (before after : InputState) (value : UInt32) : Prop :=
  before.isControllerReplyReady = true ∧ after.isControllerReplyReady = false ∧
    value = before.controllerReply.toUInt32 ∧ scanCodes after = scanCodes before ∧
    mouseBytes after.aux = mouseBytes before.aux

def TakesNothing (before after : InputState) : Prop :=
  scanCodes after = scanCodes before ∧ mouseBytes after.aux = mouseBytes before.aux ∧
    after.isControllerReplyReady = before.isControllerReplyReady

theorem TakesMouseByte.ne {before after : InputState} {value : UInt32}
    (h : TakesMouseByte before after value) :
    mouseBytes after.aux ≠ mouseBytes before.aux := by
  obtain ⟨byte, hqueue, -⟩ := h
  rw [hqueue]
  exact (List.cons_ne_self byte _).symm

theorem TakesScanCode.ne {before after : InputState} {value : UInt32}
    (h : TakesScanCode before after value) : scanCodes after ≠ scanCodes before := by
  obtain ⟨byte, hqueue, -⟩ := h
  rw [hqueue]
  exact (List.cons_ne_self byte _).symm

theorem inputStatus_bits (state : InputState) (isFull isAux : Bool) :
    ((inputStatus state isFull isAux).toUInt32 &&& 0x01 ≠ 0 ↔ isFull = true ∨ isAux = true) ∧
      ((inputStatus state isFull isAux).toUInt32 &&& 0x20 ≠ 0 ↔
        isFull = false ∧ isAux = true) := by
  unfold inputStatus
  cases isFull <;> cases isAux <;> cases state.isLastWriteCommand <;> decide

theorem inputMouseIn_takes {state : InputState} (hindexed : AuxIndexed state.aux)
    (hqueued : auxDeviceQueued state.aux ≠ 0) :
    TakesMouseByte state (inputMouseIn state).2 (inputMouseIn state).1 := by
  unfold inputMouseIn
  rcases hpop : auxDevicePop state.aux with ⟨value, device⟩
  have hbytes := mouseBytes_of_queued hindexed hqueued
  rw [hpop] at hbytes
  have hkeeps := vddInputPoll_keeps
    ({ state with aux := device, isAuxPresented := false }.note (.mouseTaken value))
  refine ⟨value, ?_, rfl, hkeeps.scanCodes, hkeeps.isControllerReplyReady⟩
  rw [hkeeps.aux]
  exact hbytes

theorem inputScanCodePop_spec (state : InputState) :
    (inputScanCodePop state).2.scanCodeQueue = state.scanCodeQueue ∧
      (inputScanCodePop state).2.scanCodeHead = state.scanCodeHead ∧
      (inputScanCodePop state).2.scanCodeTail = inputNextIndex state.scanCodeTail ∧
      (inputScanCodePop state).2.lastScanCode =
        slot state.scanCodeQueue state.scanCodeTail ∧
      (inputScanCodePop state).2.aux = state.aux ∧
      (inputScanCodePop state).2.isControllerReplyReady = state.isControllerReplyReady ∧
      state.readingsTaken ≤ (inputScanCodePop state).2.readingsTaken := by
  unfold inputScanCodePop
  dsimp only
  split
  · exact ⟨rfl, rfl, rfl, rfl, rfl, rfl, le_refl _⟩
  · refine ⟨rfl, rfl, rfl, rfl, rfl, rfl, ?_⟩
    exact (clockRead_keeps _).readingsTaken_le

theorem inputKeyboardIn_takes {state : InputState} (hindexed : (door state).Indexed) :
    ((inputScanCodeAvailable state).1 = true →
      TakesScanCode state (inputKeyboardIn state).2 (inputKeyboardIn state).1) ∧
    ((inputScanCodeAvailable state).1 = false → TakesNothing state (inputKeyboardIn state).2) ∧
    (inputScanCodeAvailable state).2.readingsTaken ≤ (inputKeyboardIn state).2.readingsTaken := by
  unfold inputKeyboardIn
  have hlooks := inputScanCodeAvailable_looks state
  have hfree := @inputScanCodeAvailable_free state
  rcases hresult : inputScanCodeAvailable state with ⟨available, next⟩
  rw [hresult] at hlooks hfree
  have hkeeps := hlooks.keeps
  cases available with
  | true =>
    have hne := ((inputScanCodeIsFree_iff state).mp (hfree rfl)).1
    obtain ⟨hqueue, hhead, htail, hlast, haux, hreply, hle⟩ := inputScanCodePop_spec next
    have hpoll := vddInputPoll_keeps { (inputScanCodePop next).2 with biosScanCodesOwed := true }
    refine ⟨fun _ => ?_, fun h => absurd h.symm Bool.false_ne_true,
      hle.trans hpoll.readingsTaken_le⟩
    have hpopped : scanCodes { (inputScanCodePop next).2 with biosScanCodesOwed := true } =
        between state.scanCodeQueue state.scanCodeHead
          (inputNextIndex state.scanCodeTail) := by
      unfold scanCodes
      rw [hqueue, hhead, htail, hkeeps.scanCodeQueue, hkeeps.scanCodeHead, hkeeps.scanCodeTail]
    refine ⟨slot state.scanCodeQueue state.scanCodeTail, ?_, ?_, ?_, ?_⟩
    · refine Eq.trans ?_ (congrArg _ (hpoll.scanCodes.trans hpopped).symm)
      exact between_pop _ hindexed.head_lt hindexed.tail_lt hne
    · refine congrArg UInt8.toUInt32 (hpoll.lastScanCode.trans (hlast.trans ?_))
      rw [hkeeps.scanCodeQueue, hkeeps.scanCodeTail]
    · exact congrArg mouseBytes (hpoll.aux.trans (haux.trans hkeeps.aux))
    · exact hpoll.isControllerReplyReady.trans (hreply.trans hkeeps.isControllerReplyReady)
  | false =>
    have hheld : ∀ held : InputState, held = next ∨
        held = { next with scanCodeHeldReads := next.scanCodeHeldReads + 1 } →
        TakesNothing state held ∧ next.readingsTaken ≤ held.readingsTaken := by
      rintro held (rfl | rfl)
      · exact ⟨⟨hkeeps.scanCodes, congrArg mouseBytes hkeeps.aux,
          hkeeps.isControllerReplyReady⟩, le_refl _⟩
      · exact ⟨⟨hkeeps.scanCodes, congrArg mouseBytes hkeeps.aux,
          hkeeps.isControllerReplyReady⟩, le_refl _⟩
    have hcases := hheld (if next.scanCodeHead ≠ next.scanCodeTail then
      { next with scanCodeHeldReads := next.scanCodeHeldReads + 1 } else next) (by
        split_ifs
        · exact .inr rfl
        · exact .inl rfl)
    exact ⟨fun h => absurd h Bool.false_ne_true, fun _ => hcases.1, hcases.2⟩

theorem inputMouseIn_readings (state : InputState) :
    state.readingsTaken ≤ (inputMouseIn state).2.readingsTaken := by
  unfold inputMouseIn
  rcases auxDevicePop state.aux with ⟨value, device⟩
  exact (vddInputPoll_keeps
    ({ state with aux := device, isAuxPresented := false }.note (.mouseTaken value))).readingsTaken_le

section Reads

variable {before seen after : InputState} {value : UInt32}

theorem TakesMouseByte.of_keeps (hkeeps : Keeps before seen)
    (h : TakesMouseByte seen after value) : TakesMouseByte before after value := by
  obtain ⟨byte, hqueue, hvalue, hcodes, hreply⟩ := h
  refine ⟨byte, ?_, hvalue, hcodes.trans hkeeps.scanCodes,
    hreply.trans hkeeps.isControllerReplyReady⟩
  rw [← hkeeps.aux]
  exact hqueue

theorem TakesScanCode.of_keeps (hkeeps : Keeps before seen)
    (h : TakesScanCode seen after value) : TakesScanCode before after value := by
  obtain ⟨byte, hqueue, hvalue, hmouse, hreply⟩ := h
  refine ⟨byte, ?_, hvalue, hmouse.trans (congrArg mouseBytes hkeeps.aux),
    hreply.trans hkeeps.isControllerReplyReady⟩
  rw [← hkeeps.scanCodes]
  exact hqueue

theorem TakesNothing.of_keeps (hkeeps : Keeps before seen) (h : TakesNothing seen after) :
    TakesNothing before after :=
  ⟨h.1.trans hkeeps.scanCodes, h.2.1.trans (congrArg mouseBytes hkeeps.aux),
    h.2.2.trans hkeeps.isControllerReplyReady⟩

end Reads

theorem inputDataIn_takes {state seen : InputState} (hlooks : Looks state seen)
    (hindexed : (door state).Indexed) (hreply : state.isControllerReplyReady = false)
    (hstill : StandsStill state (inputDataIn seen).2.readingsTaken) :
    ((!scanCodeReady state && auxReady state) = true →
      TakesMouseByte state (inputDataIn seen).2 (inputDataIn seen).1) ∧
    (scanCodeReady state = true →
      TakesScanCode state (inputDataIn seen).2 (inputDataIn seen).1) ∧
    (scanCodeReady state = false → (!scanCodeReady state && auxReady state) = false →
      TakesNothing state (inputDataIn seen).2) ∧
    seen.readingsTaken ≤ (inputDataIn seen).2.readingsTaken := by
  have hseen : seen.isControllerReplyReady = false :=
    hlooks.keeps.isControllerReplyReady.trans hreply
  have hcounted : Looks state (inputCountRead seen) :=
    hlooks.trans ⟨⟨rfl, rfl, rfl, rfl, rfl, rfl, rfl, rfl, rfl, rfl, le_refl _⟩, rfl⟩
  have hle : seen.readingsTaken ≤ (inputCountRead seen).readingsTaken := le_refl _
  unfold inputDataIn at hstill ⊢
  simp only [hseen, if_false, Bool.false_eq_true] at hstill ⊢
  generalize inputCountRead seen = counted at hcounted hle hstill ⊢
  have hnext := inputSources_looks counted
  have hsources := hcounted.sources hstill
  have hqueued := @inputSources_aux counted
  rcases hresult : inputSources counted with ⟨isFull, isAux, next⟩
  rw [hresult] at hnext hsources hqueued
  rw [hresult] at hstill
  have hall := hcounted.trans hnext
  have hindexedNext : (door next).Indexed := by
    rw [hall.door_eq]
    exact hindexed
  cases isAux with
  | true =>
    have hreadings := inputMouseIn_readings next
    have hanswers := hsources hreadings
    have haux : auxDeviceQueued next.aux ≠ 0 := by
      rw [hnext.keeps.aux]
      exact hqueued rfl
    have hready : scanCodeReady state = false := by
      have hanswer := hanswers.2
      cases hcase : scanCodeReady state with
      | false => rfl
      | true =>
        rw [hcase] at hanswer
        exact absurd hanswer.symm Bool.false_ne_true
    refine ⟨fun _ => (inputMouseIn_takes hindexedNext.aux haux).of_keeps hall.keeps,
      fun h => absurd (hready.symm.trans h) Bool.false_ne_true,
      fun _ hnone => absurd (hnone.symm.trans hanswers.2.symm) Bool.false_ne_true,
      hle.trans (hnext.keeps.readingsTaken_le.trans hreadings)⟩
  | false =>
    obtain ⟨hcode, hnothing, hreadings⟩ := inputKeyboardIn_takes hindexedNext
    have hnextLe := (inputScanCodeAvailable_keeps next).readingsTaken_le.trans hreadings
    have hanswers := hsources hnextLe
    have hagain := hall.scanCodeAvailable hstill hreadings
    refine ⟨fun h => absurd (hanswers.2.trans h) Bool.false_ne_true,
      fun h => (hcode (hagain.trans h)).of_keeps hall.keeps,
      fun h _ => (hnothing (hagain.trans h)).of_keeps hall.keeps,
      hle.trans (hnext.keeps.readingsTaken_le.trans hnextLe)⟩

theorem inputDataIn_follows_status {state : InputState} (hindexed : (door state).Indexed)
    (hstill : StandsStill state
      (inputDataIn (inputStatusIn state).2).2.readingsTaken) :
    let status := (inputStatusIn state).1
    let read := inputDataIn (inputStatusIn state).2
    (status &&& 0x20 ≠ 0 ↔ TakesMouseByte state read.2 read.1) ∧
      (status &&& 0x01 ≠ 0 ∧ status &&& 0x20 = 0 ↔
        TakesReply state read.2 read.1 ∨ TakesScanCode state read.2 read.1) ∧
      (status &&& 0x01 = 0 → TakesNothing state read.2) := by
  intro status read
  cases hreply : state.isControllerReplyReady with
  | true =>
    have hstatus : inputStatusIn state = ((inputStatus state true false).toUInt32, state) := by
      unfold inputStatusIn
      rw [if_pos hreply]
    have hread : read = (state.controllerReply.toUInt32,
        { state with isControllerReplyReady := false }.note
          (.replyTaken state.controllerReply)) := by
      show inputDataIn (inputStatusIn state).2 = _
      rw [hstatus]
      unfold inputDataIn
      rw [if_pos hreply]
    obtain ⟨hfull, haux⟩ := inputStatus_bits state true false
    have hstatusValue : status = (inputStatus state true false).toUInt32 :=
      congrArg Prod.fst hstatus
    have hnotAux : ¬status &&& 0x20 ≠ 0 := by
      rw [hstatusValue, haux]
      simp
    have hisFull : status &&& 0x01 ≠ 0 := by
      rw [hstatusValue, hfull]
      simp
    rw [hread]
    refine ⟨iff_of_false hnotAux fun h => h.ne rfl, iff_of_true ⟨hisFull, ?_⟩ (.inl ?_),
      fun h => absurd h hisFull⟩
    · exact not_not.mp hnotAux
    · exact ⟨hreply, rfl, rfl, rfl, rfl⟩
  | false =>
    have hstatus : inputStatusIn state =
        ((inputStatus (inputSources state).2.2 (inputSources state).1
          (inputSources state).2.1).toUInt32, (inputSources state).2.2) := by
      unfold inputStatusIn
      rw [if_neg (by rw [hreply]; exact Bool.false_ne_true)]
    have hlooks := inputSources_looks state
    have hreads : inputDataIn (inputStatusIn state).2 = inputDataIn (inputSources state).2.2 := by
      rw [hstatus]
    have hstatusValue : status = (inputStatus (inputSources state).2.2 (inputSources state).1
        (inputSources state).2.1).toUInt32 :=
      congrArg Prod.fst hstatus
    have hread : read = inputDataIn (inputSources state).2.2 := hreads
    rw [hreads] at hstill
    obtain ⟨hmouse, hcode, hnothing, hreadings⟩ :=
      inputDataIn_takes hlooks hindexed hreply hstill
    obtain ⟨hisFull, hisAux⟩ := (Looks.refl state).sources hstill hreadings
    obtain ⟨hfullBit, hauxBit⟩ :=
      inputStatus_bits (inputSources state).2.2 (inputSources state).1 (inputSources state).2.1
    rw [← hstatusValue, hisFull, hisAux] at hfullBit hauxBit
    rw [hread]
    cases hready : scanCodeReady state with
    | true =>
      rw [hready] at hfullBit hauxBit hcode
      have htaken := hcode rfl
      obtain ⟨byte, -, -, hmouseSame, -⟩ := id htaken
      have hnotAux : ¬status &&& 0x20 ≠ 0 := by
        rw [hauxBit]
        simp
      refine ⟨iff_of_false hnotAux fun h => h.ne hmouseSame,
        iff_of_true ⟨hfullBit.mpr (.inl rfl), not_not.mp hnotAux⟩ (.inr htaken),
        fun h => absurd h (hfullBit.mpr (.inl rfl))⟩
    | false =>
      rw [hready, Bool.not_false, Bool.true_and] at hfullBit hauxBit hmouse
      have hnoReply : ¬TakesReply state (inputDataIn (inputSources state).2.2).2
          (inputDataIn (inputSources state).2.2).1 :=
        fun h => Bool.false_ne_true (hreply.symm.trans h.1)
      cases haux : auxReady state with
      | true =>
        rw [haux] at hfullBit hauxBit hmouse
        have htaken := hmouse rfl
        obtain ⟨byte, -, -, hcodesSame, -⟩ := id htaken
        have hauxSet := hauxBit.mpr ⟨rfl, rfl⟩
        refine ⟨iff_of_true hauxSet htaken, iff_of_false (fun h => hauxSet h.2) ?_,
          fun h => absurd h (hfullBit.mpr (.inr rfl))⟩
        exact fun h => h.elim hnoReply fun hcodes => hcodes.ne hcodesSame
      | false =>
        rw [hready, haux] at hnothing
        rw [haux] at hfullBit hauxBit
        have htaken := hnothing rfl rfl
        have hnotFull : ¬status &&& 0x01 ≠ 0 := by
          rw [hfullBit]
          simp
        have hnotAux : ¬status &&& 0x20 ≠ 0 := by
          rw [hauxBit]
          simp
        refine ⟨iff_of_false hnotAux fun h => h.ne htaken.2.1,
          iff_of_false (fun h => hnotFull h.1) ?_, fun _ => htaken⟩
        exact fun h => h.elim hnoReply fun hcodes => hcodes.ne htaken.1

/-! ## Every interleaving -/

def InputStep (before : InputState) (operation : InputOperation) (after : InputState) : Prop :=
  inputOperate before operation = after

theorem vddInputReset_indexed (initial : InputState) : (door (vddInputReset initial)).Indexed :=
  ⟨zero_lt_succ _, zero_lt_succ _, zero_lt_succ _, zero_lt_succ _⟩

theorem vddInputReset_orderly (initial : InputState) :
    Orderly initial.scanCodesDropped (door (vddInputReset initial)).buffer where
  exclusive := rfl
  keyboard := announces_nil false
  mouse := announces_nil false
  raised _ h := absurd h Bool.false_ne_true
  order := (between_self _ _).symm
  lost := (UInt32.add_zero _).symm

theorem inputRun_orderly {initial state : InputState} {operations : List InputOperation}
    (hrun : Run InputStep (vddInputReset initial) operations state) :
    (door state).Indexed ∧ Orderly initial.scanCodesDropped (door state).buffer := by
  refine hrun.invariant (fun reached => (door reached).Indexed ∧
    Orderly initial.scanCodesDropped (door reached).buffer) ?_
    ⟨vddInputReset_indexed initial, vddInputReset_orderly initial⟩
  rintro before operation after ⟨hindexed, horderly⟩ rfl
  obtain ⟨hafter, hsteps⟩ := inputOperate_moves before operation hindexed
  exact ⟨hafter, bufferSteps_orderly horderly hsteps⟩

/-- After a poll, a scancode that neither the keyboard's disable bit, nor the hold, nor a byte
of the mouse holds back has its IRQ1 raised. -/
def PollAnnounces (state : InputState) : Prop :=
  let polled := vddInputPoll state
  polled.scanCodeHead ≠ polled.scanCodeTail → polled.isKeyboardDisabled = false →
    inputHoldPassed state = true → polled.isAuxPresented = false →
    polled.isScanCodeIrqUp = true ∧ (polled.isBusAttached = true →
      Standing (isIrq inputKeyboardIrq) isScanCodeTaken polled.trace)

def ReadFollowsStatus (state : InputState) : Prop :=
  let status := inputKeyboardPortIn state inputPortCommand
  let read := inputKeyboardPortIn status.2 inputPortData
  StandsStill state read.2.readingsTaken →
    (status.1 &&& inputStatusAuxOutputFull.toUInt32 ≠ 0 ↔ TakesMouseByte state read.2 read.1) ∧
    (status.1 &&& inputStatusOutputFull.toUInt32 ≠ 0 ∧
        status.1 &&& inputStatusAuxOutputFull.toUInt32 = 0 ↔
      TakesReply state read.2 read.1 ∨ TakesScanCode state read.2 read.1) ∧
    (status.1 &&& inputStatusOutputFull.toUInt32 = 0 → TakesNothing state read.2)

/-- A controller that was just built, on a bus and with a clock that stands at zero. -/
def inputQuiet : InputState :=
  vddInputReset
    { isBusAttached := true
      scanCodeQueue := Vector.replicate inputScanCodeQueueSize 0
      scanCodeHead := 0
      scanCodeTail := 0
      port60Reads := 0
      scanCodesPushed := 0
      scanCodesDropped := 0
      scanCodeHighWater := 0
      keyboardPortWrites := 0
      keyboardPortLog := []
      isKeyboardRateExpected := false
      isTypematicSet := false
      typematicByte := 0
      isLedExpected := false
      isScanSetExpected := false
      ledState := 0
      lastKeyboardReply := 0
      keyboardReplies := 0
      lastScanCode := 0
      biosScanCodesOwed := false
      controllerCommand := 0
      controllerReply := 0
      isControllerReplyReady := false
      controllerCommandByte := 0
      controllerOutputPort := 0
      isLastWriteCommand := false
      controllerResetsAsked := 0
      owedScanCodesServed := 0
      timeMicroseconds := some fun _ => 0
      readingsTaken := 0
      scanCodeHoldUntil := 0
      isScanCodeIrqUp := false
      scanCodeHeldReads := 0
      aux := auxDeviceReset
      isAuxPresented := false
      auxIrqs := 0
      trace := [] }

end Ntvdmex.Vdd.Input
