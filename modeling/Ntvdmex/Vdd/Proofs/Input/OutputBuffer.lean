import Ntvdmex.Foundation.Announcements
import Ntvdmex.Foundation.Runs
import Ntvdmex.Vdd.Input

/-!
# One output buffer

The controller as two queues in front of one buffer.  A byte of the keyboard and a byte of the
mouse are each announced at most once before they are taken, and never both at a time.
-/

namespace Ntvdmex.Vdd.Input

open Foundation List
open Foundation.Announcements

namespace InputEvent

def isIrq (line : Nat) : InputEvent → Bool
  | irq other => other = line
  | _ => false

def isScanCodeTaken : InputEvent → Bool
  | scanCodeTaken _ => true
  | _ => false

def isMouseTaken : InputEvent → Bool
  | mouseTaken _ => true
  | _ => false

def pushedByte : InputEvent → Option UInt8
  | pushed scanCode => some scanCode
  | _ => none

def droppedByte : InputEvent → Option UInt8
  | dropped scanCode => some scanCode
  | _ => none

/-- The byte that left the scancode queue, to the guest or for room. -/
def removedByte : InputEvent → Option UInt8
  | scanCodeTaken scanCode => some scanCode
  | dropped scanCode => some scanCode
  | _ => none

end InputEvent

open InputEvent

/-- At most one IRQ1 before the next scancode is taken, and one stands while the line is up. -/
def KeyboardAnnounced (trace : List InputEvent) (isUp : Bool) : Prop :=
  Announces (isIrq inputKeyboardIrq) isScanCodeTaken trace isUp

def MouseAnnounced (trace : List InputEvent) (isPresented : Bool) : Prop :=
  Announces (isIrq inputAuxIrq) isMouseTaken trace isPresented

/-- The two queues, the two flags and what was seen of them. -/
structure OutputBuffer where
  isBusAttached : Bool
  scanCodes : List UInt8
  mouseBytes : List UInt8
  isScanCodeIrqUp : Bool
  isAuxPresented : Bool
  scanCodesDropped : UInt32
  trace : List InputEvent

/-- What can happen to the buffer. -/
inductive BufferStep : OutputBuffer → OutputBuffer → Prop
  | push {buffer : OutputBuffer} (scanCode : UInt8) :
      BufferStep buffer
        { buffer with
          scanCodes := buffer.scanCodes ++ [scanCode]
          trace := buffer.trace ++ [.pushed scanCode] }
  | drop {buffer : OutputBuffer} {scanCode : UInt8} {rest : List UInt8}
      (hqueue : buffer.scanCodes = scanCode :: rest) :
      BufferStep buffer
        { buffer with
          scanCodes := rest
          scanCodesDropped := buffer.scanCodesDropped + 1
          trace := buffer.trace ++ [.dropped scanCode] }
  | takeScanCode {buffer : OutputBuffer} {scanCode : UInt8} {rest : List UInt8}
      (hqueue : buffer.scanCodes = scanCode :: rest) :
      BufferStep buffer
        { buffer with
          scanCodes := rest
          isScanCodeIrqUp := false
          trace := buffer.trace ++ [.scanCodeTaken scanCode] }
  | announce {buffer : OutputBuffer} (hdown : buffer.isScanCodeIrqUp = false)
      (hfree : buffer.isAuxPresented = false) :
      BufferStep buffer
        { buffer with
          isScanCodeIrqUp := true
          trace := if buffer.isBusAttached then buffer.trace ++ [.irq inputKeyboardIrq]
            else buffer.trace }
  | present {buffer : OutputBuffer} (isEnabled : Bool) (hdown : buffer.isScanCodeIrqUp = false)
      (hfree : buffer.isAuxPresented = false) :
      BufferStep buffer
        { buffer with
          isAuxPresented := true
          trace := if isEnabled then buffer.trace ++ [.irq inputAuxIrq] else buffer.trace }
  | queueMouse {buffer : OutputBuffer} (bytes : List UInt8) :
      BufferStep buffer { buffer with mouseBytes := buffer.mouseBytes ++ bytes }
  | takeMouse {buffer : OutputBuffer} {value : UInt8} {rest : List UInt8}
      (hqueue : buffer.mouseBytes = value :: rest) :
      BufferStep buffer
        { buffer with
          mouseBytes := rest
          isAuxPresented := false
          trace := buffer.trace ++ [.mouseTaken value] }
  | takeReply {buffer : OutputBuffer} (value : UInt8) :
      BufferStep buffer { buffer with trace := buffer.trace ++ [.replyTaken value] }

/-- What every step keeps; `dropped` is the count of lost bytes at the reset. -/
structure Orderly (dropped : UInt32) (buffer : OutputBuffer) : Prop where
  exclusive : (buffer.isScanCodeIrqUp && buffer.isAuxPresented) = false
  keyboard : KeyboardAnnounced buffer.trace buffer.isScanCodeIrqUp
  mouse : MouseAnnounced buffer.trace buffer.isAuxPresented
  raised : buffer.isBusAttached = true → buffer.isScanCodeIrqUp = true →
    outstanding (isIrq inputKeyboardIrq) isScanCodeTaken buffer.trace ≠ 0
  order : buffer.trace.filterMap pushedByte =
    buffer.trace.filterMap removedByte ++ buffer.scanCodes
  lost : buffer.scanCodesDropped =
    dropped + UInt32.ofNat (buffer.trace.filterMap droppedByte).length

section Events

variable {trace : List InputEvent} {event : InputEvent} {isUp : Bool}

theorem outstanding_other (hraise : isIrq inputKeyboardIrq event = false)
    (htake : isScanCodeTaken event = false) :
    outstanding (isIrq inputKeyboardIrq) isScanCodeTaken (trace ++ [event]) =
      outstanding (isIrq inputKeyboardIrq) isScanCodeTaken trace := by
  rw [outstanding_concat, htake, hraise]
  rfl

theorem filterMap_concat (f : InputEvent → Option UInt8) :
    (trace ++ [event]).filterMap f = trace.filterMap f ++ (f event).toList := by
  rw [filterMap_append]
  cases h : f event <;> simp [h]

end Events

/-! ## Every step keeps the buffer orderly -/

section Steps

variable {dropped : UInt32} {buffer : OutputBuffer}

section

variable (h : Orderly dropped buffer)

include h

theorem Orderly.raised_other {event : InputEvent} (hraise : isIrq inputKeyboardIrq event = false)
    (htake : isScanCodeTaken event = false) (hbus : buffer.isBusAttached = true)
    (hup : buffer.isScanCodeIrqUp = true) :
    outstanding (isIrq inputKeyboardIrq) isScanCodeTaken (buffer.trace ++ [event]) ≠ 0 := by
  rw [outstanding_other hraise htake]
  exact h.raised hbus hup

theorem Orderly.order_other {event : InputEvent} (hpushed : event.pushedByte = none)
    (hremoved : event.removedByte = none) :
    (buffer.trace ++ [event]).filterMap pushedByte =
      (buffer.trace ++ [event]).filterMap removedByte ++ buffer.scanCodes := by
  rw [filterMap_concat, filterMap_concat, hpushed, hremoved, h.order]
  simp

theorem Orderly.lost_other {event : InputEvent} (hdropped : event.droppedByte = none) :
    buffer.scanCodesDropped =
      dropped + UInt32.ofNat ((buffer.trace ++ [event]).filterMap droppedByte).length := by
  rw [filterMap_concat, hdropped, h.lost]
  simp

theorem Orderly.push (scanCode : UInt8) :
    Orderly dropped
      { buffer with
        scanCodes := buffer.scanCodes ++ [scanCode]
        trace := buffer.trace ++ [.pushed scanCode] } where
  exclusive := h.exclusive
  keyboard := h.keyboard.other rfl rfl
  mouse := h.mouse.other rfl rfl
  raised := h.raised_other rfl rfl
  order := by
    have horder := h.order
    simp only [filterMap_concat, pushedByte, removedByte, Option.toList, append_nil]
    rw [horder, append_assoc]
  lost := h.lost_other rfl

variable {scanCode : UInt8} {rest : List UInt8}

variable (hqueue : buffer.scanCodes = scanCode :: rest)

include hqueue

theorem Orderly.remove {event : InputEvent} (hpushed : event.pushedByte = none)
    (hremoved : event.removedByte = some scanCode) :
    (buffer.trace ++ [event]).filterMap pushedByte =
      (buffer.trace ++ [event]).filterMap removedByte ++ rest := by
  rw [filterMap_concat, filterMap_concat, hpushed, hremoved, h.order, hqueue]
  simp

theorem Orderly.drop : Orderly dropped
      { buffer with
        scanCodes := rest
        scanCodesDropped := buffer.scanCodesDropped + 1
        trace := buffer.trace ++ [.dropped scanCode] } where
  exclusive := h.exclusive
  keyboard := h.keyboard.other rfl rfl
  mouse := h.mouse.other rfl rfl
  raised := h.raised_other rfl rfl
  order := h.remove hqueue rfl rfl
  lost := by
    have hlost := h.lost
    simp only [filterMap_concat, droppedByte, Option.toList, length_append,
      length_singleton, UInt32.ofNat_add]
    rw [hlost, UInt32.add_assoc]
    rfl

theorem Orderly.takeScanCode : Orderly dropped
      { buffer with
        scanCodes := rest
        isScanCodeIrqUp := false
        trace := buffer.trace ++ [.scanCodeTaken scanCode] } where
  exclusive := rfl
  keyboard := h.keyboard.take rfl
  mouse := h.mouse.other rfl rfl
  raised _ hup := absurd hup Bool.false_ne_true
  order := h.remove hqueue rfl rfl
  lost := h.lost_other rfl

omit hqueue

theorem Orderly.announce (hdown : buffer.isScanCodeIrqUp = false)
    (hfree : buffer.isAuxPresented = false) :
    Orderly dropped
      { buffer with
        isScanCodeIrqUp := true
        trace := if buffer.isBusAttached then buffer.trace ++ [.irq inputKeyboardIrq]
          else buffer.trace } := by
  have hkeyboard := h.keyboard
  rw [hdown] at hkeyboard
  by_cases hbus : buffer.isBusAttached = true
  · rw [if_pos hbus]
    refine ⟨by simp [hfree], hkeyboard.raise _, h.mouse.other rfl rfl, fun _ _ => ?_,
      h.order_other rfl rfl, h.lost_other rfl⟩
    simp [outstanding_concat, isIrq, isScanCodeTaken]
  · rw [if_neg hbus]
    exact ⟨by simp [hfree], hkeyboard.set, h.mouse, fun hattached _ => absurd hattached hbus,
      h.order, h.lost⟩

theorem Orderly.present (isEnabled : Bool)
    (hdown : buffer.isScanCodeIrqUp = false) (hfree : buffer.isAuxPresented = false) :
    Orderly dropped
      { buffer with
        isAuxPresented := true
        trace := if isEnabled then buffer.trace ++ [.irq inputAuxIrq] else buffer.trace } := by
  have hmouse := h.mouse
  rw [hfree] at hmouse
  have hraised : ∀ trace, buffer.isBusAttached = true → buffer.isScanCodeIrqUp = true →
      outstanding (isIrq inputKeyboardIrq) isScanCodeTaken trace ≠ 0 :=
    fun _ _ hup => absurd (hdown.symm.trans hup) Bool.false_ne_true
  cases isEnabled with
  | true =>
    rw [if_pos rfl]
    exact ⟨by simp [hdown], h.keyboard.other rfl rfl, hmouse.raise _, hraised _,
      h.order_other rfl rfl, h.lost_other rfl⟩
  | false =>
    rw [if_neg Bool.false_ne_true]
    exact ⟨by simp [hdown], h.keyboard, hmouse.set, hraised _, h.order, h.lost⟩

theorem Orderly.takeMouse (value : UInt8) (rest : List UInt8) :
    Orderly dropped
      { buffer with
        mouseBytes := rest
        isAuxPresented := false
        trace := buffer.trace ++ [.mouseTaken value] } where
  exclusive := Bool.and_false _
  keyboard := h.keyboard.other rfl rfl
  mouse := h.mouse.take rfl
  raised := h.raised_other rfl rfl
  order := h.order_other rfl rfl
  lost := h.lost_other rfl

theorem Orderly.takeReply (value : UInt8) :
    Orderly dropped { buffer with trace := buffer.trace ++ [.replyTaken value] } where
  exclusive := h.exclusive
  keyboard := h.keyboard.other rfl rfl
  mouse := h.mouse.other rfl rfl
  raised := h.raised_other rfl rfl
  order := h.order_other rfl rfl
  lost := h.lost_other rfl

end

theorem bufferStep_orderly {after : OutputBuffer} (h : Orderly dropped buffer)
    (hstep : BufferStep buffer after) : Orderly dropped after := by
  cases hstep with
  | push scanCode => exact h.push scanCode
  | drop hqueue => exact h.drop hqueue
  | takeScanCode hqueue => exact h.takeScanCode hqueue
  | announce hdown hfree => exact h.announce hdown hfree
  | present isEnabled hdown hfree => exact h.present isEnabled hdown hfree
  | queueMouse bytes => exact ⟨h.exclusive, h.keyboard, h.mouse, h.raised, h.order, h.lost⟩
  | takeMouse _ => exact h.takeMouse _ _
  | takeReply value => exact h.takeReply value

theorem bufferSteps_orderly {after : OutputBuffer} (h : Orderly dropped buffer)
    (hsteps : Relation.ReflTransGen BufferStep buffer after) : Orderly dropped after := by
  induction hsteps with
  | refl => exact h
  | tail _ hstep ih => exact bufferStep_orderly ih hstep

end Steps

end Ntvdmex.Vdd.Input
