import Ntvdmex.Foundation.WordStack

/-!
# Calling 16-bit code (`wowcall.c`)

A call parks the guest's registers, lays the arguments and the return address on the guest's
stack and enters the procedure; the return puts the registers back.  The task context is the
block of `wowsched.c`.  No hook moves a call to another task's stack.
-/

namespace Ntvdmex.Wow.Call

open Foundation.WordStack

def wowCallMaxDepth : Nat := 8
def wowCallMaxArgw : Int := 32
def wowCallMaxBlob : Int := 1024
def wowCallRetfOff : BitVec 32 := 4
def wowCallRetKeep : Int := 0
def wowCallRetResultW : Int := 2
def wowCallCreateRefused : BitVec 16 := 0xFFFF
def wmCreate16 : BitVec 16 := 1

def wowSchedCtxLo : Nat := 0x364
def wowSchedCtxLen : Nat := 0x40
def wowSchedVtibEip : Nat := 0x390
def vtibDs : Nat := 0x370
def vtibEax : Nat := 0x388
def vtibEip : Nat := 0x390
def vtibCs : Nat := 0x394
def vtibEsp : Nat := 0x39C
def vtibSs : Nat := 0x3A0

/-! ## The TIB -/

abbrev TibBytes := Nat → BitVec 8

variable (bytes : TibBytes) (call : WowCall) (calls : WowCalls) (offset : Nat)

/-- `VDM_REG` read. -/
def vdmReg : BitVec 32 :=
  bytes (offset + 3) ++ bytes (offset + 2) ++ bytes (offset + 1) ++ bytes offset

/-- `VDM_REG` written. -/
def vdmSet (value : BitVec 32) : TibBytes := fun i =>
  if i = offset then value.setWidth 8
  else if i = offset + 1 then (value >>> 8).setWidth 8
  else if i = offset + 2 then (value >>> 16).setWidth 8
  else if i = offset + 3 then (value >>> 24).setWidth 8
  else bytes i

def vdmReg16 : BitVec 16 := (vdmReg bytes offset).setWidth 16

def vdmSet16 (value : BitVec 16) : TibBytes :=
  vdmSet bytes offset ((vdmReg bytes offset &&& 0xFFFF0000) ||| value.setWidth 32)

structure WowSchedSlot where
  isUsed : Bool
  context : TibBytes
  modeLinear : BitVec 32
  task : BitVec 16
  isFresh : Bool
  isRunnable : Bool
  callbackDepth : Int
  isWaitingForMessage : Bool
  baseDepth : Int

def wowSchedSave (currentBase : Int) (tib : TibBytes) (modeLinear : BitVec 32) (task : BitVec 16)
    (eipAdjust : BitVec 32) : WowSchedSlot :=
  let copied : TibBytes := fun i => if i < wowSchedCtxLen then tib (wowSchedCtxLo + i) else 0
  let eip := wowSchedVtibEip - wowSchedCtxLo
  { isUsed := true
    context := vdmSet copied eip (vdmReg copied eip + eipAdjust)
    modeLinear, task
    isFresh := false
    isRunnable := false
    callbackDepth := 0
    isWaitingForMessage := false
    baseDepth := currentBase }

/-- The block copied back into the TIB by `WowSchedRestore`. -/
def wowSchedRestore (slot : WowSchedSlot) (tib : TibBytes) : TibBytes := fun i =>
  if wowSchedCtxLo ≤ i ∧ i < wowSchedCtxLo + wowSchedCtxLen then slot.context (i - wowSchedCtxLo)
  else tib i

/-! ## Frames -/

/-- A call in flight; `sink` is the host word the result also goes to. -/
structure WowCallFrame where
  saved : WowSchedSlot
  returnLinear : BitVec 32
  procedure : BitVec 32
  window : BitVec 16
  message : BitVec 16
  returnMode : Int
  sink : Option Nat
  written : BitVec 32
  action : Int
  actionArgument : BitVec 16
  enteredTask : BitVec 16
  previousTask : BitVec 16

/-- The host's globals, the TIB and the guest's memory. -/
structure WowCalls where
  depth : Nat
  frames : Nat → WowCallFrame
  blob2Argument : Int
  blob2Offset : Int
  blobLinear : BitVec 32
  lastResult : BitVec 32
  count : Nat
  currentBase : Int
  sinks : Nat → BitVec 16
  tib : TibBytes
  memory : LinearMemory

/-- The parameters of `WowCallEnter`; `currentTask` is what the task hook answers. -/
structure WowCall where
  stackBase : BitVec 32
  returnSelector : BitVec 16
  procedure : BitVec 32
  dataSelector : BitVec 16
  argumentWords : Nat → BitVec 16
  argumentWordCount : Int
  returnLinear : BitVec 32
  returnMode : Int
  sink : Option Nat
  window : BitVec 16
  message : BitVec 16
  blob : Option (Nat → BitVec 8)
  blobLength : Int
  blobArgument : Int
  isAbsent : Bool
  currentTask : BitVec 16

def WowCall.procedureSelector : BitVec 16 := (call.procedure >>> 16).setWidth 16
def WowCall.procedureOffset : BitVec 16 := call.procedure.setWidth 16

/-- The checks a call is refused by. -/
def WowCall.isRefused : Bool :=
  wowCallMaxDepth ≤ calls.depth ∨
    (call.stackBase = 0 ∨ call.returnSelector = 0 ∨ call.procedure >>> 16 = 0) ∨
    (call.argumentWordCount < 0 ∨ wowCallMaxArgw < call.argumentWordCount) ∨
    (call.blobLength < 0 ∨ wowCallMaxBlob < call.blobLength)

/-- The structure goes on the stack. -/
def WowCall.hasBlob : Bool :=
  call.blob.isSome ∧ 0 < call.blobLength ∧ 0 ≤ call.blobArgument ∧
    call.blobArgument + 1 < call.argumentWordCount

/-- A second far pointer into the structure was asked for. -/
def WowCall.hasBlob2 : Bool :=
  0 ≤ calls.blob2Argument ∧ calls.blob2Argument + 1 < call.argumentWordCount ∧
    0 < calls.blob2Offset ∧ calls.blob2Offset < call.blobLength

/-- A far pointer written into two argument words. -/
def setPair (arguments : Nat → BitVec 16) (index : Int) (selector offset : BitVec 16) :
    Nat → BitVec 16 :=
  Function.update (Function.update arguments index.toNat selector) (index.toNat + 1) offset

/-- The length of the structure made even. -/
def WowCall.blobBytes : Nat := (call.blobLength.toNat + 1) / 2 * 2

/-- Where the structure goes. -/
def WowCall.blobPointer : BitVec 16 :=
  vdmReg16 calls.tib vtibEsp - BitVec.ofNat 16 call.blobBytes

def WowCall.argumentPointer : BitVec 16 :=
  if call.hasBlob then call.blobPointer calls else vdmReg16 calls.tib vtibEsp

def WowCall.arguments : Nat → BitVec 16 :=
  let selector := vdmReg16 calls.tib vtibSs
  if call.hasBlob then
    let named := setPair call.argumentWords call.blobArgument selector (call.blobPointer calls)
    if call.hasBlob2 calls then
      setPair named calls.blob2Argument selector
        (call.blobPointer calls + BitVec.ofInt 16 calls.blob2Offset)
    else named
  else call.argumentWords

def WowCall.blobMemory : LinearMemory :=
  match call.hasBlob, call.blob with
  | true, some bytes =>
    storeBytes call.stackBase (call.blobPointer calls) bytes calls.memory call.blobLength.toNat
  | _, _ => calls.memory

/-- Everything pushed: the arguments, the return address, and the target of the `RETF`. -/
def WowCall.pushes : List (BitVec 16) :=
  (List.range call.argumentWordCount.toNat).map (call.arguments calls) ++
    [call.returnSelector, 0] ++
    if call.isAbsent then [call.procedureSelector, call.procedureOffset] else []

def WowCall.frame : WowCallFrame :=
  { calls.frames calls.depth with
    saved := wowSchedSave calls.currentBase calls.tib 0 0 0
    returnLinear := call.returnLinear
    procedure := call.procedure
    window := call.window
    message := call.message
    returnMode := call.returnMode
    sink := call.sink
    action := 0
    actionArgument := 0
    enteredTask := call.currentTask
    previousTask := 0 }

def WowCall.registers (tib : TibBytes) (stackPointer : BitVec 16) : TibBytes :=
  let stacked := vdmSet16 tib vtibEsp stackPointer
  let data := vdmSet16 (vdmSet16 stacked vtibEax call.dataSelector) vtibDs call.dataSelector
  if call.isAbsent then
    vdmSet (vdmSet16 data vtibCs call.returnSelector) vtibEip wowCallRetfOff
  else
    vdmSet (vdmSet16 data vtibCs call.procedureSelector) vtibEip
      (call.procedureOffset.setWidth 32)

/-- `WowCallEnter`. -/
def wowCallEnter : WowCalls × Bool :=
  if call.isRefused calls then (calls, false)
  else
    let (memory, stackPointer) :=
      pushWords call.stackBase (call.blobMemory calls, call.argumentPointer calls)
        (call.pushes calls)
    ({ calls with
        depth := calls.depth + 1
        frames := Function.update calls.frames calls.depth (call.frame calls)
        blob2Argument := -1
        blob2Offset := 0
        blobLinear :=
          if call.hasBlob then segmentAddress call.stackBase (call.blobPointer calls) else 0
        count := calls.count + 1
        tib := call.registers calls.tib stackPointer
        memory }, true)

def WowCallFrame.hole (frame : WowCallFrame) (result : BitVec 32) : Option (BitVec 32) :=
  if frame.returnMode = wowCallRetKeep then
    if frame.message = wmCreate16 ∧ result.setWidth 16 = wowCallCreateRefused then some 0
    else none
  else if frame.returnMode = wowCallRetResultW then some (result &&& 0xFFFF)
  else some result

def storeDword (memory : LinearMemory) (linear value : BitVec 32) : LinearMemory :=
  Function.update
    (Function.update
      (Function.update (Function.update memory linear (value.setWidth 8)) (linear + 1)
        ((value >>> 8).setWidth 8))
      (linear + 2) ((value >>> 16).setWidth 8))
    (linear + 3) ((value >>> 24).setWidth 8)

/-- `WowCallLeave`; `none` when no call is in flight. -/
def wowCallLeave (result : BitVec 32) : Option (WowCalls × WowCallFrame) :=
  match calls.depth with
  | 0 => none
  | depth + 1 =>
    let frame := calls.frames depth
    let restored :=
      { calls with
        depth
        tib := wowSchedRestore frame.saved calls.tib
        currentBase := frame.saved.baseDepth
        sinks :=
          match frame.sink with
          | some sink => Function.update calls.sinks sink (result.setWidth 16)
          | none => calls.sinks
        lastResult := result }
    let released := { frame with saved := { frame.saved with isUsed := false }, written := 0 }
    let hole := if frame.returnLinear = 0 then none else frame.hole result
    match hole with
    | none => some ({ restored with frames := Function.update calls.frames depth released }, released)
    | some value =>
      let answered := { released with written := value }
      some ({ restored with
          frames := Function.update calls.frames depth answered
          memory := storeDword calls.memory frame.returnLinear value }, answered)

end Ntvdmex.Wow.Call
