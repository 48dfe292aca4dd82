import Ntvdmex.Foundation.Ring

/-!
# The PS/2 pointing device (`vdd_aux.c`)

The device behind the auxiliary port of the 8042: its queue of bytes, its commands, and the
packets that movement makes.
-/

namespace Ntvdmex.Vdd.PointingDevice

open Foundation

def auxCommandSetScaling11 : UInt8 := 0xE6
def auxCommandSetScaling21 : UInt8 := 0xE7
def auxCommandSetResolution : UInt8 := 0xE8
def auxCommandStatusRequest : UInt8 := 0xE9
def auxCommandSetStreamMode : UInt8 := 0xEA
def auxCommandReadData : UInt8 := 0xEB
def auxCommandResetWrapMode : UInt8 := 0xEC
def auxCommandSetWrapMode : UInt8 := 0xEE
def auxCommandSetRemoteMode : UInt8 := 0xF0
def auxCommandGetDeviceId : UInt8 := 0xF2
def auxCommandSetSampleRate : UInt8 := 0xF3
def auxCommandEnableReporting : UInt8 := 0xF4
def auxCommandDisableReporting : UInt8 := 0xF5
def auxCommandSetDefaults : UInt8 := 0xF6
def auxCommandResend : UInt8 := 0xFE
def auxCommandReset : UInt8 := 0xFF

def auxReplyAck : UInt8 := 0xFA
def auxReplyResend : UInt8 := 0xFE
def auxReplySelfTestPassed : UInt8 := 0xAA
def auxDeviceIdStandard : UInt8 := 0x00

def auxDefaultSampleRate : UInt8 := 100
def auxDefaultResolution : UInt8 := 2
def auxResolutionMax : UInt8 := 3

def auxPacketLeft : UInt8 := 0x01
def auxPacketRight : UInt8 := 0x02
def auxPacketMiddle : UInt8 := 0x04
def auxPacketAlwaysOne : UInt8 := 0x08
def auxPacketXSign : UInt8 := 0x10
def auxPacketYSign : UInt8 := 0x20
def auxPacketXOverflow : UInt8 := 0x40
def auxPacketYOverflow : UInt8 := 0x80
def auxMovementMax : Int32 := 255

def auxStatusRight : UInt8 := 0x01
def auxStatusMiddle : UInt8 := 0x02
def auxStatusLeft : UInt8 := 0x04
def auxStatusScaling21 : UInt8 := 0x10
def auxStatusReporting : UInt8 := 0x20
def auxStatusRemote : UInt8 := 0x40

def auxQueueSize : Nat := 64

instance : NeZero auxQueueSize := ⟨by decide⟩

structure AuxDevice where
  queue : Vector UInt8 auxQueueSize
  head : Nat
  tail : Nat
  pendingCommand : UInt8
  isReporting : Bool
  isRemote : Bool
  isWrap : Bool
  isScaling21 : Bool
  resolution : UInt8
  sampleRate : UInt8
  buttons : UInt8
  lastReply : UInt8
  remoteDx : Int32
  remoteDy : Int32
  commands : UInt32
  packets : UInt32
  dropped : UInt32
deriving DecidableEq

def auxNext (index : Nat) : Nat :=
  (index + 1) % auxQueueSize

variable (device : AuxDevice) (dx : Int32) (value : UInt8) (dy : Int32)

/-- A full queue loses the byte that comes. -/
def auxPush : AuxDevice :=
  if auxNext device.head = device.tail then
    { device with dropped := device.dropped + 1 }
  else
    { device with
      queue := Ring.store device.queue device.head value
      head := auxNext device.head }

def auxDeviceQueued : Nat :=
  if device.head < device.tail then device.head + auxQueueSize - device.tail
  else device.head - device.tail

def auxDevicePop : UInt8 × AuxDevice :=
  if device.head = device.tail then (0, device)
  else (Ring.slot device.queue device.tail, { device with tail := auxNext device.tail })

/-! ## Commands -/

/-- A reply is remembered for `auxCommandResend`, unless it is the resend request. -/
def auxReply : AuxDevice :=
  auxPush { device with
    lastReply := if value ≠ auxReplyResend then value else device.lastReply } value

def auxDefaults : AuxDevice :=
  { device with
    isReporting := false
    isRemote := false
    isScaling21 := false
    resolution := auxDefaultResolution
    sampleRate := auxDefaultSampleRate
    remoteDx := 0
    remoteDy := 0 }

def auxDeviceReset : AuxDevice :=
  auxDefaults
    { queue := Vector.replicate auxQueueSize 0
      head := 0
      tail := 0
      pendingCommand := 0
      isReporting := false
      isRemote := false
      isWrap := false
      isScaling21 := false
      resolution := 0
      sampleRate := 0
      buttons := 0
      lastReply := 0
      remoteDx := 0
      remoteDy := 0
      commands := 0
      packets := 0
      dropped := 0 }

def auxClamp (value : Int32) (overflow overflowBit : UInt8) : Int32 × UInt8 :=
  if auxMovementMax < value then (auxMovementMax, overflow ||| overflowBit)
  else if value < -(auxMovementMax + 1) then (-(auxMovementMax + 1), overflow ||| overflowBit)
  else (value, overflow)

/-- The three bytes of a packet; `dy` grows downwards and the device's Y upwards. -/
def auxDevicePacket (buttons : UInt8) : List UInt8 :=
  let first := auxPacketAlwaysOne |||
    (buttons &&& (auxPacketLeft ||| auxPacketRight ||| auxPacketMiddle))
  let (movementX, first) := auxClamp dx first auxPacketXOverflow
  let (movementY, first) := auxClamp (-dy) first auxPacketYOverflow
  let first := if movementX < 0 then first ||| auxPacketXSign else first
  let first := if movementY < 0 then first ||| auxPacketYSign else first
  [first, movementX.toUInt32.toUInt8, movementY.toUInt32.toUInt8]

def auxQueuePacket : AuxDevice :=
  let queued := (auxDevicePacket dx dy device.buttons).foldl auxPush device
  { queued with packets := queued.packets + 1 }

def auxStatus : UInt8 :=
  (if device.buttons &&& auxPacketRight ≠ 0 then auxStatusRight else 0) |||
  (if device.buttons &&& auxPacketMiddle ≠ 0 then auxStatusMiddle else 0) |||
  (if device.buttons &&& auxPacketLeft ≠ 0 then auxStatusLeft else 0) |||
  (if device.isScaling21 then auxStatusScaling21 else 0) |||
  (if device.isReporting then auxStatusReporting else 0) |||
  (if device.isRemote then auxStatusRemote else 0)

def auxCommand : AuxDevice :=
  if value = auxCommandReset then
    [auxReplyAck, auxReplySelfTestPassed, auxDeviceIdStandard].foldl auxReply
      { auxDefaults device with isWrap := false, buttons := 0 }
  else if value = auxCommandResend then auxPush device device.lastReply
  else if value = auxCommandSetDefaults then auxReply (auxDefaults device) auxReplyAck
  else if value = auxCommandDisableReporting then
    auxReply { device with isReporting := false } auxReplyAck
  else if value = auxCommandEnableReporting then
    auxReply { device with isReporting := true } auxReplyAck
  else if value = auxCommandSetSampleRate ∨ value = auxCommandSetResolution then
    auxReply { device with pendingCommand := value } auxReplyAck
  else if value = auxCommandGetDeviceId then
    [auxReplyAck, auxDeviceIdStandard].foldl auxReply device
  else if value = auxCommandSetRemoteMode then
    auxReply { device with isRemote := true, remoteDx := 0, remoteDy := 0 } auxReplyAck
  else if value = auxCommandSetWrapMode then auxReply { device with isWrap := true } auxReplyAck
  else if value = auxCommandResetWrapMode then
    auxReply { device with isWrap := false } auxReplyAck
  else if value = auxCommandReadData then
    { auxQueuePacket (auxReply device auxReplyAck) device.remoteDx device.remoteDy with
      remoteDx := 0, remoteDy := 0 }
  else if value = auxCommandSetStreamMode then
    auxReply { device with isRemote := false } auxReplyAck
  else if value = auxCommandStatusRequest then
    [auxReplyAck, auxStatus device, device.resolution, device.sampleRate].foldl auxReply device
  else if value = auxCommandSetScaling21 then
    auxReply { device with isScaling21 := true } auxReplyAck
  else if value = auxCommandSetScaling11 then
    auxReply { device with isScaling21 := false } auxReplyAck
  else auxReply device auxReplyResend

/-- The byte that `auxCommandSetResolution` or `auxCommandSetSampleRate` waits for. -/
def auxParameter : AuxDevice :=
  let device :=
    if device.pendingCommand = auxCommandSetResolution then
      { device with
        resolution := if value ≤ auxResolutionMax then value else auxResolutionMax }
    else { device with sampleRate := value }
  auxReply { device with pendingCommand := 0 } auxReplyAck

/-- Wrap mode echoes every byte but its two ways out. -/
def auxDeviceWrite : AuxDevice :=
  let device := { device with commands := device.commands + 1 }
  if device.isWrap ∧ value ≠ auxCommandResetWrapMode ∧ value ≠ auxCommandReset then
    auxPush device value
  else if device.pendingCommand ≠ 0 then auxParameter device value
  else auxCommand device value

def auxDeviceMove (buttons : UInt8) : Bool × AuxDevice :=
  let newButtons := buttons &&& (auxPacketLeft ||| auxPacketRight ||| auxPacketMiddle)
  let changed := dx ≠ 0 ∨ dy ≠ 0 ∨ newButtons ≠ device.buttons
  let device := { device with buttons := newButtons }
  if device.isRemote then
    (false, { device with remoteDx := device.remoteDx + dx, remoteDy := device.remoteDy + dy })
  else if ¬device.isReporting ∨ device.isWrap ∨ ¬changed then (false, device)
  else (true, auxQueuePacket device dx dy)

end Ntvdmex.Vdd.PointingDevice
