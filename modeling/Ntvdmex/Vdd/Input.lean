import Ntvdmex.Vdd.PointingDevice

/-!
# The keyboard controller (`vdd_input.c`)

The 8042 as ports 60h and 64h drive it: the scancode FIFO with its transfer hold, the
auxiliary byte, the controller's reply, and the BIOS fetch.  The clock of the host is what
its successive readings return.  `trace` is what the world around the controller saw since
the reset: bytes that came, bytes that left, and interrupts raised.
-/

namespace Ntvdmex.Vdd.Input

open Foundation
open Ntvdmex.Vdd.PointingDevice

def inputScanCodeQueueSize : Nat := 32
def inputPortLogEntries : Nat := 16
def inputKeyboardTransferUs : UInt64 := 900

instance : NeZero inputScanCodeQueueSize := ⟨by decide⟩

def inputPortCommand : UInt16 := 0x64
def inputPortData : UInt16 := 0x60
def inputStatusIdle : UInt8 := 0x14
def inputStatusOutputFull : UInt8 := 0x01
def inputStatusLastWriteCommand : UInt8 := 0x08
def inputStatusAuxOutputFull : UInt8 := 0x20

def inputKeyboardIrq : Nat := 1
def inputAuxIrq : Nat := 12

def inputKbcReadCommandByte : UInt8 := 0x20
def inputKbcWriteCommandByte : UInt8 := 0x60
def inputKbcDisableAux : UInt8 := 0xA7
def inputKbcEnableAux : UInt8 := 0xA8
def inputKbcTestAux : UInt8 := 0xA9
def inputKbcTestAuxOk : UInt8 := 0x00
def inputKbcSelfTest : UInt8 := 0xAA
def inputKbcSelfTestPassed : UInt8 := 0x55
def inputKbcInterfaceTest : UInt8 := 0xAB
def inputKbcInterfaceTestOk : UInt8 := 0x00
def inputKbcDisableKeyboard : UInt8 := 0xAD
def inputKbcEnableKeyboard : UInt8 := 0xAE
def inputKbcReadOutputPort : UInt8 := 0xD0
def inputKbcWriteOutputPort : UInt8 := 0xD1
def inputKbcWriteKeyboardBuffer : UInt8 := 0xD2
def inputKbcWriteAux : UInt8 := 0xD4
def inputKbcPulseReset : UInt8 := 0xFE

def inputCommandByteAuxIrq : UInt8 := 0x02
def inputCommandByteKeyboardDisabled : UInt8 := 0x10
def inputCommandByteAuxDisabled : UInt8 := 0x20
def inputCommandByteTranslate : UInt8 := 0x40
def inputCommandBytePost : UInt8 := 0x45
def inputOutputPortReset : UInt8 := 0x01
def inputOutputPortPost : UInt8 := 0x03

def inputKeyboardSetLeds : UInt8 := 0xED
def inputKeyboardEcho : UInt8 := 0xEE
def inputKeyboardScanCodeSet : UInt8 := 0xF0
def inputKeyboardIdentify : UInt8 := 0xF2
def inputKeyboardSetTypematic : UInt8 := 0xF3
def inputKeyboardResend : UInt8 := 0xFE
def inputKeyboardReset : UInt8 := 0xFF
def inputKeyboardReplyAck : UInt8 := 0xFA
def inputKeyboardReplyResend : UInt8 := 0xFE
def inputKeyboardReplySelfTestOk : UInt8 := 0xAA
def inputKeyboardIdFirst : UInt8 := 0xAB
def inputKeyboardIdSecondRaw : UInt8 := 0x83
def inputKeyboardIdSecondTranslated : UInt8 := 0x41
def inputKeyboardLedBits : UInt8 := 0x07
def inputKeyboardTypematicDefault : UInt8 := 0x2B

inductive InputEvent where
  | pushed (scanCode : UInt8)
  | dropped (scanCode : UInt8)
  | scanCodeTaken (scanCode : UInt8)
  | mouseTaken (value : UInt8)
  | replyTaken (value : UInt8)
  | irq (line : Nat)
deriving DecidableEq, Repr

/-- `timeMicroseconds` is `none` for a controller without a clock; `readingsTaken` counts the
readings made so far. -/
structure InputState where
  isBusAttached : Bool
  scanCodeQueue : Vector UInt8 inputScanCodeQueueSize
  scanCodeHead : Nat
  scanCodeTail : Nat
  port60Reads : UInt32
  scanCodesPushed : UInt32
  scanCodesDropped : UInt32
  scanCodeHighWater : UInt32
  keyboardPortWrites : UInt32
  keyboardPortLog : List (UInt8 × UInt8)
  isKeyboardRateExpected : Bool
  isTypematicSet : Bool
  typematicByte : UInt8
  isLedExpected : Bool
  isScanSetExpected : Bool
  ledState : UInt8
  lastKeyboardReply : UInt8
  keyboardReplies : UInt32
  lastScanCode : UInt8
  biosScanCodesOwed : Bool
  controllerCommand : UInt8
  controllerReply : UInt8
  isControllerReplyReady : Bool
  controllerCommandByte : UInt8
  controllerOutputPort : UInt8
  isLastWriteCommand : Bool
  controllerResetsAsked : UInt32
  owedScanCodesServed : UInt32
  timeMicroseconds : Option (Nat → UInt64)
  readingsTaken : Nat
  scanCodeHoldUntil : UInt64
  isScanCodeIrqUp : Bool
  scanCodeHeldReads : UInt32
  aux : AuxDevice
  isAuxPresented : Bool
  auxIrqs : UInt32
  trace : List InputEvent

namespace InputState

variable (state : InputState)

def note (event : InputEvent) : InputState :=
  { state with trace := state.trace ++ [event] }

def isKeyboardDisabled : Bool :=
  state.controllerCommandByte &&& inputCommandByteKeyboardDisabled ≠ 0

def isAuxDisabled : Bool :=
  state.controllerCommandByte &&& inputCommandByteAuxDisabled ≠ 0

/-- What the next reading of the clock returns. -/
def now : Option UInt64 :=
  state.timeMicroseconds.map fun readings => readings state.readingsTaken

def clockRead : InputState :=
  { state with
    readingsTaken :=
      if state.timeMicroseconds.isSome then state.readingsTaken + 1 else state.readingsTaken }

end InputState

/-! ## The output buffer -/

def inputNextIndex (index : Nat) : Nat :=
  (index + 1) % inputScanCodeQueueSize

variable (state : InputState) (scanCode value : UInt8)

/-- What `InputScanCodeAvailable` tests before it looks at the clock. -/
def inputScanCodeIsFree : Bool :=
  if state.scanCodeHead = state.scanCodeTail then false
  else if state.isKeyboardDisabled ∧ ¬state.isScanCodeIrqUp then false
  else if state.isAuxPresented ∧ ¬state.isScanCodeIrqUp then false
  else true

def inputHoldPassed : Bool :=
  match state.now with
  | none => true
  | some now => ¬now < state.scanCodeHoldUntil

def inputScanCodeAvailable : Bool × InputState :=
  if inputScanCodeIsFree state then (inputHoldPassed state, state.clockRead)
  else (false, state)

def inputScanCodePop : UInt8 × InputState :=
  let scanCode := Ring.slot state.scanCodeQueue state.scanCodeTail
  let taken := { state with
    scanCodeTail := inputNextIndex state.scanCodeTail
    lastScanCode := scanCode
    isScanCodeIrqUp := false }.note (.scanCodeTaken scanCode)
  match taken.now with
  | none => (scanCode, taken)
  | some now =>
    (scanCode, { taken.clockRead with scanCodeHoldUntil := now + inputKeyboardTransferUs })

def inputAuxAvailable : Bool × InputState :=
  if auxDeviceQueued state.aux = 0 then (false, state)
  else if state.isAuxPresented then (true, state)
  else if state.isAuxDisabled then (false, state)
  else if state.isScanCodeIrqUp then (false, state)
  else
    let (available, state) := inputScanCodeAvailable state
    (!available, state)

def inputAuxPresent : InputState :=
  let state := { state with isAuxPresented := true }
  if state.controllerCommandByte &&& inputCommandByteAuxIrq ≠ 0 ∧ state.isBusAttached then
    { state with auxIrqs := state.auxIrqs + 1 }.note (.irq inputAuxIrq)
  else state

def inputAuxPoll : InputState :=
  if state.isAuxPresented then state
  else
    let (available, state) := inputAuxAvailable state
    if available then inputAuxPresent state else state

def inputScanCodePresent : InputState :=
  let state := { state with isScanCodeIrqUp := true, biosScanCodesOwed := false }
  if state.isBusAttached then state.note (.irq inputKeyboardIrq) else state

def inputKeyboardPoll : InputState :=
  if state.isScanCodeIrqUp then state
  else
    let (available, state) := inputScanCodeAvailable state
    if available then inputScanCodePresent state else state

def vddInputPoll : InputState :=
  inputAuxPoll (inputKeyboardPoll state)

def vddInputAuxMove (dx dy : Int32) (buttons : UInt8) : Bool × InputState :=
  let (queued, aux) := auxDeviceMove state.aux dx dy buttons
  (queued, inputAuxPoll { state with aux })

def vddInputScanCodesQueued : Nat :=
  if state.scanCodeHead < state.scanCodeTail then
    state.scanCodeHead + inputScanCodeQueueSize - state.scanCodeTail
  else state.scanCodeHead - state.scanCodeTail

def inputDropOldest : InputState :=
  { state with
    scanCodesDropped := state.scanCodesDropped + 1
    scanCodeTail := inputNextIndex state.scanCodeTail }.note
      (.dropped (Ring.slot state.scanCodeQueue state.scanCodeTail))

def inputStoreScanCode : InputState :=
  { state with
    scanCodeQueue := Ring.store state.scanCodeQueue state.scanCodeHead scanCode
    scanCodeHead := inputNextIndex state.scanCodeHead }.note (.pushed scanCode)

def inputWatchDepth : InputState :=
  { state with
    scanCodeHighWater :=
      if state.scanCodeHighWater < UInt32.ofNat (vddInputScanCodesQueued state) then
        UInt32.ofNat (vddInputScanCodesQueued state)
      else state.scanCodeHighWater }

def inputMakeRoom : InputState :=
  if inputNextIndex state.scanCodeHead = state.scanCodeTail then inputDropOldest state else state

def inputQueueScanCode : InputState :=
  inputWatchDepth (inputStoreScanCode (inputMakeRoom
    { state with scanCodesPushed := state.scanCodesPushed + 1 }) scanCode)

def vddInputPushScanCode : InputState :=
  if state.scanCodeHead = state.scanCodeTail then
    vddInputPoll (inputQueueScanCode state scanCode)
  else inputQueueScanCode state scanCode

/-- The byte the BIOS reads, `none` for `INPUT_NO_SCAN_CODE`. -/
def vddInputBiosFetch : Option UInt8 × InputState :=
  if state.biosScanCodesOwed then
    (some state.lastScanCode,
      { state with
        biosScanCodesOwed := false
        owedScanCodesServed := state.owedScanCodesServed + 1 })
  else
    let (available, state) := inputScanCodeAvailable state
    if available then
      let (scanCode, state) := inputScanCodePop state
      (some scanCode, vddInputPoll state)
    else (none, state)

/-! ## Reading the ports -/

def inputControllerReply : InputState :=
  { state with controllerReply := value, isControllerReplyReady := true }

def inputStatus (isFull isAux : Bool) : UInt8 :=
  inputStatusIdle |||
    (if isFull then inputStatusOutputFull
      else if isAux then inputStatusOutputFull ||| inputStatusAuxOutputFull else 0) |||
    (if state.isLastWriteCommand then inputStatusLastWriteCommand else 0)

/-- What both ports ask: is a scancode available, and if not, a byte of the mouse. -/
def inputSources : Bool × Bool × InputState :=
  let (isFull, state) := inputScanCodeAvailable state
  let (isAux, state) := if isFull then (false, state) else inputAuxAvailable state
  (isFull, isAux, state)

def inputStatusIn : UInt32 × InputState :=
  if state.isControllerReplyReady then ((inputStatus state true false).toUInt32, state)
  else
    let (isFull, isAux, state) := inputSources state
    ((inputStatus state isFull isAux).toUInt32, state)

/-- The mouse's byte leaves and what waits behind it comes. -/
def inputMouseIn : UInt32 × InputState :=
  let (value, aux) := auxDevicePop state.aux
  (value.toUInt32,
    vddInputPoll ({ state with aux, isAuxPresented := false }.note (.mouseTaken value)))

/-- The keyboard's side of port 60h: a byte that is available leaves, otherwise the last one
is read again. -/
def inputKeyboardIn : UInt32 × InputState :=
  let (available, state) := inputScanCodeAvailable state
  let state :=
    if available then
      vddInputPoll { (inputScanCodePop state).2 with biosScanCodesOwed := true }
    else if state.scanCodeHead ≠ state.scanCodeTail then
      { state with scanCodeHeldReads := state.scanCodeHeldReads + 1 }
    else state
  (state.lastScanCode.toUInt32, state)

def inputCountRead : InputState :=
  { state with port60Reads := state.port60Reads + 1 }

def inputDataIn : UInt32 × InputState :=
  if state.isControllerReplyReady then
    (state.controllerReply.toUInt32,
      { state with isControllerReplyReady := false }.note (.replyTaken state.controllerReply))
  else
    let (_, isAux, state) := inputSources (inputCountRead state)
    if isAux then inputMouseIn state else inputKeyboardIn state

def inputKeyboardPortIn (port : UInt16) : UInt32 × InputState :=
  if port = inputPortCommand then inputStatusIn state else inputDataIn state

/-! ## Writing the ports -/

def inputKeyboardReply (reply : UInt8) : InputState :=
  vddInputPushScanCode
    { state with
      lastKeyboardReply :=
        if reply ≠ inputKeyboardReplyResend then reply else state.lastKeyboardReply
      keyboardReplies := state.keyboardReplies + 1 } reply

def inputControllerOut : InputState :=
  let state := { state with controllerCommand := 0 }
  if value = inputKbcSelfTest then inputControllerReply state inputKbcSelfTestPassed
  else if value = inputKbcInterfaceTest then inputControllerReply state inputKbcInterfaceTestOk
  else if value = inputKbcReadCommandByte then
    inputControllerReply state state.controllerCommandByte
  else if value = inputKbcReadOutputPort then
    inputControllerReply state state.controllerOutputPort
  else if value = inputKbcWriteCommandByte ∨ value = inputKbcWriteOutputPort ∨
      value = inputKbcWriteKeyboardBuffer then
    { state with controllerCommand := value }
  else if value = inputKbcDisableKeyboard then
    { state with
      controllerCommandByte := state.controllerCommandByte ||| inputCommandByteKeyboardDisabled }
  else if value = inputKbcEnableKeyboard then
    vddInputPoll { state with
      controllerCommandByte :=
        state.controllerCommandByte &&& ~~~inputCommandByteKeyboardDisabled }
  else if value = inputKbcTestAux then inputControllerReply state inputKbcTestAuxOk
  else if value = inputKbcWriteAux then { state with controllerCommand := value }
  else if value = inputKbcDisableAux then
    { state with
      controllerCommandByte := state.controllerCommandByte ||| inputCommandByteAuxDisabled }
  else if value = inputKbcEnableAux then
    inputAuxPoll { state with
      controllerCommandByte := state.controllerCommandByte &&& ~~~inputCommandByteAuxDisabled }
  else if value = inputKbcPulseReset then
    { state with controllerResetsAsked := state.controllerResetsAsked + 1 }
  else state

def inputKeyboardCommand : InputState :=
  if value = inputKeyboardEcho then inputKeyboardReply state inputKeyboardEcho
  else if value = inputKeyboardIdentify then
    let state := inputKeyboardReply (inputKeyboardReply state inputKeyboardReplyAck)
      inputKeyboardIdFirst
    inputKeyboardReply state
      (if state.controllerCommandByte &&& inputCommandByteTranslate ≠ 0 then
        inputKeyboardIdSecondTranslated else inputKeyboardIdSecondRaw)
  else if value = inputKeyboardSetLeds then
    inputKeyboardReply { state with isLedExpected := true } inputKeyboardReplyAck
  else if value = inputKeyboardSetTypematic then
    inputKeyboardReply { state with isKeyboardRateExpected := true } inputKeyboardReplyAck
  else if value = inputKeyboardScanCodeSet then
    inputKeyboardReply { state with isScanSetExpected := true } inputKeyboardReplyAck
  else if value = inputKeyboardResend then inputKeyboardReply state state.lastKeyboardReply
  else if value = inputKeyboardReset then
    inputKeyboardReply
      (inputKeyboardReply
        { state with ledState := 0, typematicByte := inputKeyboardTypematicDefault }
        inputKeyboardReplyAck)
      inputKeyboardReplySelfTestOk
  else
    inputKeyboardReply state
      (if inputKeyboardSetLeds ≤ value then inputKeyboardReplyAck
        else inputKeyboardReplyResend)

def inputKeyboardOut : InputState :=
  let state := { state with
    controllerCommandByte := state.controllerCommandByte &&& ~~~inputCommandByteKeyboardDisabled }
  if state.isKeyboardRateExpected then
    inputKeyboardReply { state with
      typematicByte := value
      isTypematicSet := true
      isKeyboardRateExpected := false } inputKeyboardReplyAck
  else if state.isLedExpected then
    inputKeyboardReply { state with
      ledState := value &&& inputKeyboardLedBits
      isLedExpected := false } inputKeyboardReplyAck
  else if state.isScanSetExpected then
    inputKeyboardReply { state with isScanSetExpected := false } inputKeyboardReplyAck
  else inputKeyboardCommand state value

def inputDataOut : InputState :=
  if state.controllerCommand = inputKbcWriteCommandByte then
    inputAuxPoll (vddInputPoll
      { state with controllerCommandByte := value, controllerCommand := 0 })
  else if state.controllerCommand = inputKbcWriteAux then
    inputAuxPoll { state with controllerCommand := 0, aux := auxDeviceWrite state.aux value }
  else if state.controllerCommand = inputKbcWriteKeyboardBuffer then
    vddInputPushScanCode { state with controllerCommand := 0 } value
  else if state.controllerCommand = inputKbcWriteOutputPort then
    { state with
      controllerCommand := 0
      controllerResetsAsked :=
        if value &&& inputOutputPortReset = 0 then state.controllerResetsAsked + 1
        else state.controllerResetsAsked
      controllerOutputPort := value ||| inputOutputPortReset }
  else inputKeyboardOut state value

def inputKeyboardPortOut (port : UInt16) (value : UInt32) : InputState :=
  let state := { state with
    keyboardPortWrites := state.keyboardPortWrites + 1
    keyboardPortLog :=
      if state.keyboardPortLog.length < inputPortLogEntries then
        state.keyboardPortLog ++ [(port.toUInt8, value.toUInt8)]
      else state.keyboardPortLog
    isLastWriteCommand := port = inputPortCommand }
  if port = inputPortCommand then inputControllerOut state value.toUInt8
  else inputDataOut state value.toUInt8

/-- `VddInputReset`; what was seen before it is not part of the trace. -/
def vddInputReset : InputState :=
  { state with
    scanCodeHead := 0
    scanCodeTail := 0
    lastScanCode := 0
    biosScanCodesOwed := false
    scanCodeHoldUntil := 0
    isScanCodeIrqUp := false
    aux := auxDeviceReset
    isAuxPresented := false
    controllerCommand := 0
    controllerReply := 0
    isControllerReplyReady := false
    isLastWriteCommand := true
    controllerCommandByte := inputCommandBytePost
    controllerOutputPort := inputOutputPortPost
    trace := [] }

/-- Everything that reaches the controller, from the host and from the guest. -/
inductive InputOperation where
  | pushScanCode (scanCode : UInt8)
  | auxMove (dx dy : Int32) (buttons : UInt8)
  | poll
  | biosFetch
  | portIn (port : UInt16)
  | portOut (port : UInt16) (value : UInt32)
deriving DecidableEq

def inputOperate : InputOperation → InputState
  | .pushScanCode scanCode => vddInputPushScanCode state scanCode
  | .auxMove dx dy buttons => (vddInputAuxMove state dx dy buttons).2
  | .poll => vddInputPoll state
  | .biosFetch => (vddInputBiosFetch state).2
  | .portIn port => (inputKeyboardPortIn state port).2
  | .portOut port value => inputKeyboardPortOut state port value

end Ntvdmex.Vdd.Input
