import Mathlib

/-!
# The MPU-401's message assembler (`vdd_mpu.c`)

A MIDI byte stream is cut into short messages and SysEx messages.  The two counters of messages
sent are left out.
-/

namespace Ntvdmex.Vdd.Mpu

def mpuSysExMax : Nat := 4096
def mpuMidiDataBytes : Nat := 2

def mpuHighNibble : UInt8 := 0xF0
def mpuProgramChange : UInt8 := 0xC0
def mpuChannelPressure : UInt8 := 0xD0
def mpuNoteOff : UInt8 := 0x80
def mpuNoteOn : UInt8 := 0x90
def mpuKeyPressure : UInt8 := 0xA0
def mpuControlChange : UInt8 := 0xB0
def mpuPitchBend : UInt8 := 0xE0
def mpuTimeCode : UInt8 := 0xF1
def mpuSongPosition : UInt8 := 0xF2
def mpuSongSelect : UInt8 := 0xF3
def mpuSysExStart : UInt8 := 0xF0
def mpuSysExEnd : UInt8 := 0xF7
def mpuRealtimeFirst : UInt8 := 0xF8
def mpuStatusBit : UInt8 := 0x80

/-- A call of one of the two sinks. -/
inductive MpuCall
  | sink (message : UInt32)
  | sysExSink (message : List UInt8)
  deriving DecidableEq

/-- The assembler's part of `MPU_STATE`; `sysEx` is as long as `SysExLength`. -/
structure MpuState where
  status : UInt8
  data : Nat → UInt8
  dataCount : Nat
  dataWanted : Nat
  isInSysEx : Bool
  hasSink : Bool
  hasSysExSink : Bool
  sysEx : List UInt8
  isSysExOverflow : Bool
  sysExDropped : UInt32

def vddMpuReset (state : MpuState) : MpuState where
  status := 0
  data := fun _ => 0
  dataCount := 0
  dataWanted := 0
  isInSysEx := false
  hasSink := state.hasSink
  hasSysExSink := state.hasSysExSink
  sysEx := []
  isSysExOverflow := false
  sysExDropped := 0

def mpuDataLength (status : UInt8) : Nat :=
  let kind := status &&& mpuHighNibble
  if kind = mpuProgramChange ∨ kind = mpuChannelPressure then 1
  else if kind = mpuNoteOff ∨ kind = mpuNoteOn ∨ kind = mpuKeyPressure ∨
      kind = mpuControlChange ∨ kind = mpuPitchBend then 2
  else if status = mpuTimeCode ∨ status = mpuSongSelect then 1
  else if status = mpuSongPosition then 2
  else 0

variable (state : MpuState) (value : UInt8)

def mpuEmit : List MpuCall :=
  let message := state.status.toUInt32 ||| (state.data 0).toUInt32 <<< 8 |||
    (state.data 1).toUInt32 <<< 16
  if state.hasSink then [.sink message] else []

def mpuSysExPut : MpuState :=
  if state.hasSysExSink = false ∨ state.isSysExOverflow = true then state
  else if state.sysEx.length ≥ mpuSysExMax then { state with isSysExOverflow := true }
  else { state with sysEx := state.sysEx ++ [value] }

def mpuSysExBegin : MpuState :=
  mpuSysExPut { state with sysEx := [], isSysExOverflow := false } mpuSysExStart

def mpuSysExFinish : MpuState × List MpuCall :=
  if state.hasSysExSink = false then (state, [])
  else
    let state := mpuSysExPut state mpuSysExEnd
    if state.isSysExOverflow then ({ state with sysExDropped := state.sysExDropped + 1 }, [])
    else (state, [.sysExSink state.sysEx])

/-- `MpuMidiByte` past its SysEx checks: a status byte, or a data byte of a short message. -/
def mpuMessageByte : MpuState × List MpuCall :=
  if value &&& mpuStatusBit ≠ 0 then
    let state :=
      { state with status := value, dataCount := 0, dataWanted := mpuDataLength value }
    if state.dataWanted = 0 then
      let state := { state with data := fun _ => 0 }
      (state, mpuEmit state)
    else (state, [])
  else if state.status = 0 then (state, [])
  else
    let data :=
      if state.dataCount < mpuMidiDataBytes then Function.update state.data state.dataCount value
      else state.data
    if state.dataCount + 1 ≥ state.dataWanted then
      let data := if state.dataWanted < mpuMidiDataBytes then Function.update data 1 0 else data
      let state := { state with data, dataCount := 0 }
      (state, mpuEmit state)
    else ({ state with data, dataCount := state.dataCount + 1 }, [])

def mpuMidiByte : MpuState × List MpuCall :=
  if value ≥ mpuRealtimeFirst then
    (state, mpuEmit { state with status := value, data := fun _ => 0 })
  else if value = mpuSysExStart then (mpuSysExBegin { state with isInSysEx := true }, [])
  else if value = mpuSysExEnd then
    let ended := if state.isInSysEx then mpuSysExFinish state else (state, [])
    ({ ended.1 with isInSysEx := false }, ended.2)
  else if state.isInSysEx then
    if state.hasSysExSink = false then (state, [])
    else if value &&& mpuStatusBit = 0 then (mpuSysExPut state value, [])
    else
      mpuMessageByte
        { state with isInSysEx := false, sysExDropped := state.sysExDropped + 1 } value
  else mpuMessageByte state value

def vddMpuFeed : MpuState × List MpuCall := mpuMidiByte state value

end Ntvdmex.Vdd.Mpu
