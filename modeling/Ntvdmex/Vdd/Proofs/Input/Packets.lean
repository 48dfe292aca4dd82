import Ntvdmex.Foundation.Strings
import Ntvdmex.Vdd.Proofs.Input.Doors

/-!
# The packets of the pointing device

A packet goes into the queue byte by byte, so it stays whole as long as it finds room for all
of it, or for none.
-/

namespace Ntvdmex.Vdd.PointingDevice

open Foundation Input List AuxDevice

variable {device : AuxDevice} {dx dy : Int32} {buttons : UInt8} {log : PacketLog} {event : AuxEvent}
    {events : List AuxEvent}

inductive AuxEvent where
  | move (dx dy : Int32) (buttons : UInt8)
  | write (value : UInt8)
  | pop

def auxStep (device : AuxDevice) : AuxEvent → AuxDevice
  | .move dx dy buttons => (auxDeviceMove device dx dy buttons).2
  | .write value => auxDeviceWrite device value
  | .pop => (auxDevicePop device).2

/-- `AuxDeviceIsStreaming`. -/
def AuxDevice.isStreaming (device : AuxDevice) : Bool :=
  device.isReporting && !device.isRemote && !device.isWrap

abbrev pressed (buttons : UInt8) : UInt8 :=
  buttons &&& (auxPacketLeft ||| auxPacketRight ||| auxPacketMiddle)

/-- The move is sent as a packet. -/
def AuxDevice.Reports (device : AuxDevice) (dx dy : Int32) (buttons : UInt8) : Prop :=
  device.isStreaming = true ∧ (dx ≠ 0 ∨ dy ≠ 0 ∨ pressed buttons ≠ device.buttons)
deriving Decidable

/-- There is room for a packet. -/
def AuxDevice.Fits (device : AuxDevice) : Prop := auxDeviceQueued device + 3 < auxQueueSize
deriving Decidable

/-- The device, the bytes read from it and the packets it has queued. -/
structure PacketLog where
  device : AuxDevice
  read : List UInt8
  packets : List (List UInt8)

open PacketLog

def AuxDevice.readBytes (device : AuxDevice) : AuxEvent → List UInt8
  | .pop => if device.head = device.tail then [] else [(auxDevicePop device).1]
  | .move _ _ _ | .write _ => []

def AuxDevice.queuedPackets (device : AuxDevice) : AuxEvent → List (List UInt8)
  | .move dx dy buttons =>
    if device.Reports dx dy buttons ∧ device.Fits then
      [auxDevicePacket dx dy (pressed buttons)]
    else []
  | .write _ | .pop => []

def PacketLog.next (log : PacketLog) (event : AuxEvent) : PacketLog :=
  ⟨auxStep log.device event, log.read ++ log.device.readBytes event,
    log.packets ++ log.device.queuedPackets event⟩

/-- No command byte, and no packet that finds room for one or two of its bytes only. -/
def PacketLog.InStep (log : PacketLog) : AuxEvent → Prop
  | .move dx dy buttons => log.device.Reports dx dy buttons →
      log.device.Fits ∨ auxDeviceQueued log.device + 1 = auxQueueSize
  | .pop => True
  | .write _ => False

/-- Nor one that is dropped. -/
def PacketLog.DropsNone (log : PacketLog) : AuxEvent → Prop
  | .move dx dy buttons => log.device.Reports dx dy buttons → log.device.Fits
  | .pop => True
  | .write _ => False

/-! ## A byte, a packet -/

theorem auxPush_cases (h : AuxIndexed device) (value : UInt8) :
    (auxDeviceQueued device + 1 < auxQueueSize ∧ AuxIndexed (auxPush device value) ∧
      mouseBytes (auxPush device value) = mouseBytes device ++ [value] ∧
      auxDeviceQueued (auxPush device value) = auxDeviceQueued device + 1) ∨
    (auxDeviceQueued device + 1 = auxQueueSize ∧
      auxPush device value = { device with dropped := device.dropped + 1 }) := by
  obtain ⟨hhead, htail⟩ := h
  have hsize : auxQueueSize = 64 := rfl
  have hnext : auxNext device.head = (device.head + 1) % 64 := rfl
  unfold auxPush auxDeviceQueued
  by_cases hfull : auxNext device.head = device.tail
  · rw [if_pos hfull]
    exact .inr ⟨by split_ifs <;> lia, rfl⟩
  · rw [if_neg hfull]
    refine .inl ⟨by split_ifs <;> lia, ⟨Nat.mod_lt _ (by decide), htail⟩,
      Ring.between_push value hhead htail hfull, ?_⟩
    split_ifs <;> lia

theorem push_room (h : AuxIndexed device) (values : List UInt8)
    (hroom : auxDeviceQueued device + values.length < auxQueueSize) :
    AuxIndexed (values.foldl auxPush device) ∧
      mouseBytes (values.foldl auxPush device) = mouseBytes device ++ values := by
  induction values generalizing device with
  | nil => exact ⟨h, (append_nil _).symm⟩
  | cons value values ih =>
    rw [length_cons] at hroom
    obtain ⟨-, hindexed, hbytes, hcount⟩ :=
      (auxPush_cases h value).resolve_right (by lia)
    obtain ⟨hlast, hall⟩ := ih hindexed (by lia)
    rw [foldl_cons]
    exact ⟨hlast, by rw [hall, hbytes, append_assoc, singleton_append]⟩

theorem push_full (h : AuxIndexed device) (values : List UInt8)
    (hfull : auxDeviceQueued device + 1 = auxQueueSize) :
    AuxIndexed (values.foldl auxPush device) ∧
      mouseBytes (values.foldl auxPush device) = mouseBytes device := by
  induction values generalizing device with
  | nil => exact ⟨h, rfl⟩
  | cons value values ih =>
    obtain ⟨-, hpush⟩ := (auxPush_cases h value).resolve_left (by omega)
    rw [foldl_cons, hpush]
    obtain ⟨hlast, hall⟩ := @ih { device with dropped := device.dropped + 1 }
      ⟨h.head_lt, h.tail_lt⟩ hfull
    exact ⟨hlast, hall⟩

theorem mouseBytes_packets (device : AuxDevice) (packets : UInt32) :
    mouseBytes { device with packets } = mouseBytes device := rfl

theorem mouseBytes_buttons (device : AuxDevice) (buttons : UInt8) :
    mouseBytes { device with buttons } = mouseBytes device := rfl

theorem auxQueuePacket_isStreaming (device : AuxDevice) (dx dy : Int32) :
    (auxQueuePacket device dx dy).isStreaming = device.isStreaming := by
  have hpush : ∀ (values : List UInt8) (device : AuxDevice),
      (values.foldl auxPush device).isStreaming = device.isStreaming := by
    intro values
    induction values with
    | nil => exact fun device => rfl
    | cons value values ih =>
      intro device
      rw [foldl_cons, ih]
      unfold auxPush
      split_ifs <;> rfl
  unfold auxQueuePacket
  generalize auxDevicePacket dx dy device.buttons = values
  exact hpush values device

theorem auxDeviceMove_reports (h : device.Reports dx dy buttons)
    : (auxDeviceMove device dx dy buttons).2 =
      auxQueuePacket { device with buttons := pressed buttons } dx dy := by
  obtain ⟨hstreaming, hchanged⟩ := h
  have hmode : device.isReporting = true ∧ device.isRemote = false ∧ device.isWrap = false := by
    simpa [isStreaming, and_assoc] using hstreaming
  obtain ⟨hreporting, hremote, hwrap⟩ := hmode
  have hsend : ¬(¬device.isReporting = true ∨ device.isWrap = true ∨
      ¬(dx ≠ 0 ∨ dy ≠ 0 ∨ pressed buttons ≠ device.buttons)) := by
    rw [not_or, not_or, not_not, not_not]
    exact ⟨hreporting, by simp [hwrap], hchanged⟩
  unfold auxDeviceMove
  rw [if_neg (by rw [hremote]; exact Bool.false_ne_true), if_neg hsend]

theorem auxDeviceMove_quiet (h : ¬device.Reports dx dy buttons) :
    ∃ remoteDx remoteDy, (auxDeviceMove device dx dy buttons).2 =
      { device with
        buttons := pressed buttons, remoteDx, remoteDy } := by
  unfold auxDeviceMove
  by_cases hremote : device.isRemote = true
  · rw [if_pos hremote]
    exact ⟨_, _, rfl⟩
  · have hquiet : ¬device.isReporting = true ∨ device.isWrap = true ∨
        ¬(dx ≠ 0 ∨ dy ≠ 0 ∨ pressed buttons ≠ device.buttons) := by
      by_contra hsend
      rw [not_or, not_or, not_not, not_not] at hsend
      obtain ⟨hreporting, hwrap, hchanged⟩ := hsend
      exact h ⟨by simp [isStreaming, hreporting, hremote, hwrap], hchanged⟩
    rw [if_neg hremote, if_pos hquiet]
    exact ⟨_, _, rfl⟩

theorem auxDeviceMove_bytes (h : AuxIndexed device) (dx dy : Int32) (buttons : UInt8)
    (hstep : device.Reports dx dy buttons → device.Fits ∨ auxDeviceQueued device + 1 = auxQueueSize) :
    mouseBytes (auxDeviceMove device dx dy buttons).2 =
      mouseBytes device ++ (device.queuedPackets (.move dx dy buttons)).flatten := by
  unfold queuedPackets
  dsimp only
  by_cases hreports : device.Reports dx dy buttons
  · rw [auxDeviceMove_reports hreports]
    unfold auxQueuePacket
    have hindexed : AuxIndexed { device with buttons := pressed buttons } :=
      ⟨h.head_lt, h.tail_lt⟩
    have hlength : (auxDevicePacket dx dy (pressed buttons)).length = 3 := rfl
    generalize auxDevicePacket dx dy (pressed buttons) = packet at hlength ⊢
    by_cases hfits : device.Fits
    · have hpacket := (push_room hindexed packet (by rw [hlength]; exact hfits)).2
      rw [if_pos ⟨hreports, hfits⟩, flatten_cons, flatten_nil, append_nil]
      rw [mouseBytes_packets, hpacket, mouseBytes_buttons]
    · have hfull := (hstep hreports).resolve_left hfits
      have hpacket := (push_full hindexed packet hfull).2
      rw [if_neg fun hboth => hfits hboth.2, flatten_nil, append_nil]
      rw [mouseBytes_packets, hpacket, mouseBytes_buttons]
  · obtain ⟨remoteDx, remoteDy, hquiet⟩ := auxDeviceMove_quiet hreports
    rw [hquiet, if_neg fun hboth => hreports hboth.1, flatten_nil, append_nil]
    rfl

/-! ## What a packet says -/

/-- A movement of nine bits: the byte, and its sign among the first byte's bits. -/
def signedMovement (isNegative : Bool) (value : UInt8) : Int :=
  if isNegative then value.toNat - 256 else value.toNat

/-- The movement a driver decodes, to the right and upwards. -/
def packetMovement : List UInt8 → Int × Int
  | [first, x, y] =>
    (signedMovement (first &&& auxPacketXSign != 0) x,
      signedMovement (first &&& auxPacketYSign != 0) y)
  | _ => (0, 0)

def Overflows (packet : List UInt8) : Prop :=
  ∃ first ∈ packet.head?, first &&& (auxPacketXOverflow ||| auxPacketYOverflow) ≠ 0

/-- Three bytes, and bit 3 of the first is set. -/
def IsPacket (packet : List UInt8) : Prop :=
  packet.length = 3 ∧ ∃ first ∈ packet.head?, first &&& auxPacketAlwaysOne ≠ 0

def firstByte (buttons : UInt8) (xOver yOver xSign ySign : Bool) : UInt8 :=
  let first := auxPacketAlwaysOne ||| pressed buttons
  let first := if xOver then first ||| auxPacketXOverflow else first
  let first := if yOver then first ||| auxPacketYOverflow else first
  let first := if xSign then first ||| auxPacketXSign else first
  if ySign then first ||| auxPacketYSign else first

theorem firstByte_pressed (buttons : UInt8) (xOver yOver xSign ySign : Bool) :
    firstByte (pressed buttons) xOver yOver xSign ySign =
      firstByte buttons xOver yOver xSign ySign := by
  unfold firstByte pressed
  rw [UInt8.and_assoc, UInt8.and_self]

theorem firstByte_bits (buttons : UInt8) : ∀ xOver yOver xSign ySign,
    let first := firstByte buttons xOver yOver xSign ySign
    first &&& auxPacketAlwaysOne ≠ 0 ∧
    (first &&& auxPacketXSign != 0) = xSign ∧ (first &&& auxPacketYSign != 0) = ySign ∧
    (first &&& (auxPacketXOverflow ||| auxPacketYOverflow) ≠ 0 ↔ (xOver || yOver) = true) := by
  have hthree : ∀ n < 8, ∀ xOver yOver xSign ySign,
      let first := firstByte (UInt8.ofNat n) xOver yOver xSign ySign
      first &&& auxPacketAlwaysOne ≠ 0 ∧
      (first &&& auxPacketXSign != 0) = xSign ∧ (first &&& auxPacketYSign != 0) = ySign ∧
      (first &&& (auxPacketXOverflow ||| auxPacketYOverflow) ≠ 0 ↔ (xOver || yOver) = true) := by
    decide
  have hlt : (pressed buttons).toNat < 8 := by
    rw [UInt8.toNat_and]
    exact Nat.and_lt_two_pow (n := 3) _ (by decide)
  have hbits := hthree _ hlt
  rw [UInt8.ofNat_toNat] at hbits
  simpa only [firstByte_pressed] using hbits

theorem auxClamp_eq (value : Int32) (overflow overflowBit : UInt8) :
    ∃ isOver : Bool, auxClamp value overflow overflowBit =
        ((auxClamp value 0 0).1, if isOver then overflow ||| overflowBit else overflow) ∧
      (isOver = false → (auxClamp value 0 0).1 = value ∧ -256 ≤ value.toInt ∧ value.toInt ≤ 255) := by
  have hmax : auxMovementMax.toInt = 255 := by decide
  have hmin : (-(auxMovementMax + 1)).toInt = -256 := by decide
  unfold auxClamp
  by_cases hhigh : auxMovementMax < value
  · rw [if_pos hhigh, if_pos hhigh]
    exact ⟨true, rfl, Bool.noConfusion⟩
  · rw [if_neg hhigh, if_neg hhigh]
    by_cases hlow : value < -(auxMovementMax + 1)
    · rw [if_pos hlow, if_pos hlow]
      exact ⟨true, rfl, Bool.noConfusion⟩
    · rw [if_neg hlow, if_neg hlow]
      rw [Int32.lt_iff_toInt_lt] at hhigh hlow
      exact ⟨false, rfl, fun _ => ⟨rfl, by lia, by lia⟩⟩

theorem auxDevicePacket_eq (dx dy : Int32) (buttons : UInt8) :
    ∃ xOver yOver, ∃ movementX movementY : Int32, auxDevicePacket dx dy buttons =
        [firstByte buttons xOver yOver (movementX < 0) (movementY < 0),
          movementX.toUInt32.toUInt8, movementY.toUInt32.toUInt8] ∧
      (xOver = false → movementX = dx ∧ -256 ≤ dx.toInt ∧ dx.toInt ≤ 255) ∧
      (yOver = false → movementY = -dy ∧ -256 ≤ (-dy).toInt ∧ (-dy).toInt ≤ 255) := by
  obtain ⟨xOver, hx, hxRange⟩ := auxClamp_eq dx (auxPacketAlwaysOne ||| pressed buttons)
    auxPacketXOverflow
  obtain ⟨yOver, hy, hyRange⟩ := auxClamp_eq (-dy)
    (if xOver then (auxPacketAlwaysOne ||| pressed buttons) ||| auxPacketXOverflow
      else auxPacketAlwaysOne ||| pressed buttons) auxPacketYOverflow
  refine ⟨xOver, yOver, _, _, ?_, hxRange, hyRange⟩
  unfold auxDevicePacket
  dsimp only
  rw [hx]
  rw [hy]
  simp [firstByte]

theorem auxDevicePacket_isPacket (dx dy : Int32) (buttons : UInt8) :
    IsPacket (auxDevicePacket dx dy buttons) := by
  obtain ⟨xOver, yOver, movementX, movementY, hpacket, -⟩ := auxDevicePacket_eq dx dy buttons
  rw [hpacket]
  exact ⟨rfl, _, rfl, (firstByte_bits buttons _ _ _ _).1⟩

theorem signedMovement_eq {movement : Int32} (hlow : -256 ≤ movement.toInt)
    (hhigh : movement.toInt ≤ 255) :
    signedMovement (movement < 0) movement.toUInt32.toUInt8 = movement.toInt := by
  have hbyte : movement.toUInt32.toUInt8.toNat = movement.toBitVec.toNat % 256 := rfl
  have hvalue : movement.toInt = movement.toBitVec.toInt := rfl
  have hnegative : movement < 0 ↔ movement.toInt < 0 := Int32.lt_iff_toInt_lt
  rw [BitVec.toInt_eq_toNat_cond] at hvalue
  unfold signedMovement
  split_ifs at hvalue ⊢ <;> lia

theorem packetMovement_auxDevicePacket (h : ¬Overflows (auxDevicePacket dx dy buttons)) :
    packetMovement (auxDevicePacket dx dy buttons) = (dx.toInt, -dy.toInt) := by
  obtain ⟨xOver, yOver, movementX, movementY, hpacket, hx, hy⟩ :=
    auxDevicePacket_eq dx dy buttons
  obtain ⟨-, hxSign, hySign, hover⟩ :=
    firstByte_bits buttons xOver yOver (movementX < 0) (movementY < 0)
  have hnone : ¬(xOver || yOver) = true := by
    intro hsome
    exact h (hpacket ▸ ⟨_, rfl, hover.mpr hsome⟩)
  rw [Bool.or_eq_true, not_or, Bool.not_eq_true, Bool.not_eq_true] at hnone
  obtain ⟨rfl, hxLow, hxHigh⟩ := hx hnone.1
  obtain ⟨rfl, hyLow, hyHigh⟩ := hy hnone.2
  have hneg : (-dy).toInt = -dy.toInt := by
    have hbmod := Int32.toInt_neg dy
    have hlow := Int32.le_toInt dy
    have hhigh := Int32.toInt_lt dy
    rw [Int.bmod_def] at hbmod
    split_ifs at hbmod <;> omega
  rw [hpacket, packetMovement, hxSign, hySign, signedMovement_eq hxLow hxHigh,
    signedMovement_eq hyLow hyHigh, hneg]

/-! ## Runs -/

theorem auxStep_queues (device : AuxDevice) (event : AuxEvent) (h : AuxIndexed device) :
    AuxIndexed (auxStep device event) := by
  cases event with
  | move dx dy buttons => exact (auxDeviceMove_queues device dx dy buttons h).1
  | write value => exact (auxDeviceWrite_queues device value h).1
  | pop => exact auxDevicePop_indexed h

theorem auxIndexed_foldl (h : AuxIndexed device) (events : List AuxEvent) :
    AuxIndexed (events.foldl auxStep device) := by
  induction events generalizing device with
  | nil => exact h
  | cons event events ih => exact ih (auxStep_queues device event h)

def PacketLog.stream (log : PacketLog) : List UInt8 := log.read ++ mouseBytes log.device

theorem PacketLog.next_stream (h : AuxIndexed log.device) (hstep : log.InStep event) :
    (log.next event).stream = log.stream ++ (log.device.queuedPackets event).flatten := by
  unfold stream
  cases event with
  | move dx dy buttons =>
    have hbytes := auxDeviceMove_bytes h dx dy buttons hstep
    simp only [next, auxStep, readBytes, append_nil, hbytes,
      append_assoc]
  | write value => exact hstep.elim
  | pop =>
    simp only [next, auxStep, readBytes, queuedPackets,
      flatten_nil, append_nil]
    by_cases hempty : log.device.head = log.device.tail
    · have hpop : (auxDevicePop log.device).2 = log.device := by
        rw [auxDevicePop, if_pos hempty]
      rw [if_pos hempty, hpop, append_nil]
    · have hqueued : auxDeviceQueued log.device ≠ 0 := by
        unfold auxDeviceQueued
        have hlt := h.tail_lt
        split_ifs <;> lia
      rw [if_neg hempty, mouseBytes_of_queued h hqueued, append_assoc,
        singleton_append]

theorem auxStep_isStreaming (h : log.InStep event) :
    (auxStep log.device event).isStreaming = log.device.isStreaming := by
  cases event with
  | move dx dy buttons =>
    by_cases hreports : log.device.Reports dx dy buttons
    · rw [auxStep, auxDeviceMove_reports hreports, auxQueuePacket_isStreaming]
      rfl
    · obtain ⟨remoteDx, remoteDy, hquiet⟩ := auxDeviceMove_quiet hreports
      rw [auxStep, hquiet]
      rfl
  | write value => exact h.elim
  | pop =>
    unfold auxStep auxDevicePop
    split_ifs <;> rfl

/-- The movement given to the device, upwards as in a packet. -/
def AuxEvent.movement : AuxEvent → Int × Int
  | .move dx dy _ => (dx.toInt, -dy.toInt)
  | .write _ | .pop => (0, 0)

theorem queuedPackets_movement (hstreaming : log.device.isStreaming = true)
    (hstep : log.DropsNone event)
    (hover : ∀ packet ∈ log.device.queuedPackets event, ¬Overflows packet) :
    ((log.device.queuedPackets event).map packetMovement).sum = event.movement := by
  cases event with
  | move dx dy buttons =>
    unfold queuedPackets AuxEvent.movement at *
    dsimp only at *
    by_cases hreports : log.device.Reports dx dy buttons
    · rw [if_pos ⟨hreports, hstep hreports⟩] at hover ⊢
      have hnone := hover _ mem_cons_self
      rw [map_cons, map_nil, sum_cons, sum_nil,
        packetMovement_auxDevicePacket hnone, add_zero]
    · have hstill : dx = 0 ∧ dy = 0 := by
        by_contra hmoves
        exact hreports ⟨hstreaming, by tauto⟩
      obtain ⟨rfl, rfl⟩ := hstill
      rw [if_neg fun hboth => hreports hboth.1]
      rfl
  | write value => exact hstep.elim
  | pop => rfl

theorem packetLog_run (h : AuxIndexed device)
    (hstep : Throughout next ⟨device, [], []⟩ PacketLog.InStep events) :
    AuxIndexed (events.foldl next ⟨device, [], []⟩).device ∧
    (events.foldl next ⟨device, [], []⟩).stream =
      mouseBytes device ++ (events.foldl next ⟨device, [], []⟩).packets.flatten ∧
    ∀ packet ∈ (events.foldl next ⟨device, [], []⟩).packets, IsPacket packet := by
  induction events using reverseRecOn with
  | nil => exact ⟨h, (append_nil _).symm, fun _ hpacket => absurd hpacket (by simp)⟩
  | append_singleton events event ih =>
    obtain ⟨hindexed, hstream, hpackets⟩ := ih hstep.initial
    rw [foldl_append, foldl_cons, foldl_nil]
    generalize hlog : events.foldl next ⟨device, [], []⟩ = log at *
    have hlast : log.InStep event := hlog ▸ hstep.last
    refine ⟨auxStep_queues _ event hindexed, ?_, ?_⟩
    · rw [next_stream hindexed hlast, hstream, append_assoc,
        ← flatten_append]
      rfl
    · intro packet hpacket
      rcases mem_append.mp hpacket with hold | hnew
      · exact hpackets packet hold
      · cases event with
        | move dx dy buttons =>
          unfold queuedPackets at hnew
          dsimp only at hnew
          split_ifs at hnew
          · rw [mem_singleton.mp hnew]
            exact auxDevicePacket_isPacket _ _ _
          · exact absurd hnew (by simp)
        | write value => exact absurd hnew (by simp [queuedPackets])
        | pop => exact absurd hnew (by simp [queuedPackets])

theorem PacketLog.DropsNone.inStep (h : log.DropsNone event) : log.InStep event := by
  cases event with
  | move dx dy buttons => exact fun hreports => .inl (h hreports)
  | write value => exact h
  | pop => exact h

theorem packetLog_movement (hstreaming : device.isStreaming = true)
    (hstep : Throughout next ⟨device, [], []⟩ PacketLog.DropsNone events)
    (hover : ∀ packet ∈ (events.foldl next ⟨device, [], []⟩).packets, ¬Overflows packet) :
    (events.foldl next ⟨device, [], []⟩).device.isStreaming = true ∧
    ((events.foldl next ⟨device, [], []⟩).packets.map packetMovement).sum =
      (events.map AuxEvent.movement).sum := by
  induction events using reverseRecOn with
  | nil => exact ⟨hstreaming, rfl⟩
  | append_singleton events event ih =>
    rw [foldl_append, foldl_cons, foldl_nil] at hover ⊢
    have hlast := hstep.last
    generalize hlog : events.foldl next ⟨device, [], []⟩ = log at *
    obtain ⟨hbefore, hsum⟩ := ih hstep.initial fun packet hpacket =>
      hover packet (mem_append_left _ hpacket)
    refine ⟨(auxStep_isStreaming hlast.inStep).trans hbefore, ?_⟩
    have hnew := queuedPackets_movement hbefore hlast fun packet hpacket =>
      hover packet (mem_append_right _ hpacket)
    rw [map_append, sum_append, ← hsum, map_singleton, sum_singleton,
      ← hnew, ← sum_append, ← map_append]
    rfl

/-- In a stretch without a command byte in which every packet that is sent finds room for all of
its bytes or for none, what is read and what is still queued are the bytes queued before, then
whole packets.  Their movements add up to those of the moves when the device streams, none is
dropped and none overflows. -/
theorem mouse_stream_in_step (history events : List AuxEvent)
    (hstep : Throughout PacketLog.next ⟨history.foldl auxStep auxDeviceReset, [], []⟩
      PacketLog.InStep events) :
    let device := history.foldl auxStep auxDeviceReset
    let log := events.foldl PacketLog.next ⟨device, [], []⟩
    log.read ++ mouseBytes log.device = mouseBytes device ++ log.packets.flatten ∧
    (∀ packet ∈ log.packets, IsPacket packet) ∧
    (device.isStreaming = true →
      Throughout PacketLog.next ⟨device, [], []⟩ PacketLog.DropsNone events →
      (∀ packet ∈ log.packets, ¬Overflows packet) →
      (log.packets.map packetMovement).sum = (events.map AuxEvent.movement).sum) := by
  have hreset : AuxIndexed auxDeviceReset := ⟨by decide, by decide⟩
  obtain ⟨-, hstream, hpackets⟩ := packetLog_run (auxIndexed_foldl hreset history) hstep
  exact ⟨hstream, hpackets, fun hstreaming hnone hover =>
    (packetLog_movement hstreaming hnone hover).2⟩

instance (log : PacketLog) : DecidablePred log.InStep
  | .move _ _ _ => inferInstanceAs (Decidable (_ → _))
  | .write _ => .isFalse id
  | .pop => .isTrue trivial

def enabledHistory : List AuxEvent := [.write auxCommandEnableReporting, .pop]

theorem mouse_stream_in_step_enabled :
    let device := enabledHistory.foldl auxStep auxDeviceReset
    let events : List AuxEvent := [.move 3 4 1, .pop, .pop, .move (-5) 0 0, .pop, .pop]
    let log := events.foldl PacketLog.next ⟨device, [], []⟩
    log.read ++ mouseBytes log.device = mouseBytes device ++ log.packets.flatten := by
  exact (mouse_stream_in_step enabledHistory [.move 3 4 1, .pop, .pop, .move (-5) 0 0, .pop, .pop]
    (throughout_of_checkRun (by decide))).1

/-- A reader one byte ahead of a full queue, and the reads and the move after it. -/
def tornEvents : List AuxEvent :=
  List.replicate 21 (.move 1 0 0) ++ [.pop, .move 1 0 0] ++ List.replicate 63 .pop ++
    [.move 2 0 0, .pop, .pop, .pop]

/-- The packet that finds room for one byte leaves the groups of three behind it without bit 3. -/
theorem torn_packet_slips :
    let device := enabledHistory.foldl auxStep auxDeviceReset
    let log := tornEvents.foldl PacketLog.next ⟨device, [], []⟩
    device.isStreaming = true ∧ mouseBytes device = [] ∧
    (∀ event ∈ tornEvents, ∀ value, event ≠ .write value) ∧
    ∃ first, log.read[3 * 22]? = some first ∧ first &&& auxPacketAlwaysOne = 0 := by
  refine ⟨by decide +kernel, by decide +kernel, ?_, 0, by decide +kernel, by decide⟩
  intro event hevent value hwrite
  subst hwrite
  simp [tornEvents] at hevent

end Ntvdmex.Vdd.PointingDevice
