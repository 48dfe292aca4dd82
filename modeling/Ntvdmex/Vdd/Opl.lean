import Mathlib

/-!
# The OPL2 and OPL3 register file and envelopes (`vdd_opl.c`, `vdd_opl_synth.c`)

Register writes on both arrays, the keying of operators, and of a rendered sample what it
does to the envelopes and the phases.  What the samples sound like is left out: the
waveforms, levels and routing, and `Output1` and `Output2`, which only feed them.
-/

namespace Ntvdmex.Vdd.Opl

def oplRegisterFourOperator : Nat := 0x104
def oplRegisterNew : Nat := 0x105
def oplRegisterRhythm : Nat := 0xBD
def oplRegisterKeyBlock : Nat := 0xB0
def oplArray1Base : Nat := 0x100

inductive OplEnvelope
  | off
  | attack
  | decay
  | sustain
  | release
deriving DecidableEq, Repr

/-- The part of an operator pair that a channel plays. -/
inductive OplRole
  | ordinary
  | first
  | second
deriving DecidableEq, Repr

structure OplOperator where
  amplitudeModulation : Bool
  vibrato : Bool
  envelopeType : Bool
  keyScaleRate : Bool
  multiplier : BitVec 8
  keyScaleLevel : BitVec 8
  totalLevel : BitVec 8
  attackRate : BitVec 8
  decayRate : BitVec 8
  sustainLevel : BitVec 8
  releaseRate : BitVec 8
  waveform : BitVec 8
  phase : BitVec 32
  envelope : Int
  envelopeState : OplEnvelope
deriving DecidableEq, Repr

structure OplChannel where
  fNumber : BitVec 16
  block : BitVec 8
  isKeyOn : Bool
  feedback : BitVec 8
  connection : Bool
deriving DecidableEq, Repr

structure OplState where
  registers : Nat → BitVec 8
  isOpl3 : Bool
  operators : Fin 36 → OplOperator
  channels : Fin 18 → OplChannel
  timer1Preset : BitVec 8
  timer2Preset : BitVec 8
  isTimer1Running : Bool
  isTimer2Running : Bool
  isTimer1Masked : Bool
  isTimer2Masked : Bool
  timer1Count : BitVec 16
  timer2Count : BitVec 16
  status : BitVec 8
  timer1FractionUs : BitVec 32
  timer2FractionUs : BitVec 32
  lfoCount : BitVec 32
  noise : BitVec 32
  rhythmRestart : BitVec 8
  profileWrites : BitVec 32
  profileKeyOns : BitVec 32
  profileBdWrites : BitVec 32
  profileBdOr : BitVec 8
  profileWaveformSelect : Bool
  profileWaveMask : BitVec 8
  profileAmOperators : BitVec 32
  profileVibratoOperators : BitVec 32
  profileKeyOnAm : BitVec 32
  profileKeyOnVibrato : BitVec 32
  profileRhythmHits : Fin 5 → BitVec 32

def oplEnvelopeFull : Int := 511 * 2 ^ 20

/-- `VddOplReset`: everything zero but the noise seed and the operators' silence. -/
def vddOplReset (isOpl3 : Bool) : OplState where
  registers := fun _ => 0
  isOpl3
  operators := fun _ => ⟨false, false, false, false, 0, 0, 0, 0, 0, 0, 0, 0, 0, oplEnvelopeFull, .off⟩
  channels := fun _ => ⟨0, 0, false, 0, false⟩
  timer1Preset := 0
  timer2Preset := 0
  isTimer1Running := false
  isTimer2Running := false
  isTimer1Masked := false
  isTimer2Masked := false
  timer1Count := 0
  timer2Count := 0
  status := 0
  timer1FractionUs := 0
  timer2FractionUs := 0
  lfoCount := 0
  noise := 0x100000
  rhythmRestart := 0
  profileWrites := 0
  profileKeyOns := 0
  profileBdWrites := 0
  profileBdOr := 0
  profileWaveformSelect := false
  profileWaveMask := 0
  profileAmOperators := 0
  profileVibratoOperators := 0
  profileKeyOnAm := 0
  profileKeyOnVibrato := 0
  profileRhythmHits := fun _ => 0

variable (state : OplState) (registerNumber : Nat) (channel : Fin 18)
  (index operatorIndex : Fin 36) (operator : OplOperator) (value : BitVec 8)

/-- `VddOplOperatorIndex`; a channel is in range by its type. -/
def vddOplOperatorIndex (isCarrier : Bool) : Fin 36 :=
  Fin.ofNat 36 (channel.val / 9 * 18 + channel.val % 9 / 3 * 6 + channel.val % 9 % 3 +
    if isCarrier then 3 else 0)

def vddOplIsNewMode : Bool :=
  state.isOpl3 && (state.registers oplRegisterNew).getLsbD 0

def oplFourOperatorRole : OplRole :=
  if vddOplIsNewMode state then
    let localChannel := channel.val % 9
    let array1Bits := if 9 ≤ channel.val then 3 else 0
    if localChannel < 3 then
      if (state.registers oplRegisterFourOperator).getLsbD (localChannel + array1Bits) then .first
      else .ordinary
    else if localChannel < 6 then
      if (state.registers oplRegisterFourOperator).getLsbD (localChannel - 3 + array1Bits) then
        .second
      else .ordinary
    else .ordinary
  else .ordinary

def oplOffsetToOperator : Option Nat :=
  let offset := registerNumber % 32
  let bank := offset / 8
  let slot := offset % 8
  if 6 ≤ slot ∨ 3 ≤ bank then none else some (bank * 6 + slot)

def setOperator : OplState :=
  { state with operators := Function.update state.operators operatorIndex operator }

def setChannel (contents : OplChannel) : OplState :=
  { state with channels := Function.update state.channels channel contents }

/-! ## Keying -/

/-- `EnvelopeState = OPL_ENVELOPE_ATTACK` and `Phase = 0`. -/
def oplRestart : OplState :=
  setOperator state operatorIndex
    { state.operators operatorIndex with envelopeState := .attack, phase := 0 }

def oplRelease : OplState :=
  setOperator state operatorIndex { state.operators operatorIndex with envelopeState := .release }

def oplKeyOperator (isOn : Bool) : OplState :=
  if isOn then oplRestart state operatorIndex
  else if (state.operators operatorIndex).envelopeState ≠ .off then oplRelease state operatorIndex
  else state

/-- `g_OplRhythmBit` of operators 12 to 17, as bit numbers. -/
def oplRhythmBit : Nat :=
  match operatorIndex.val with
  | 12 => 4
  | 13 => 0
  | 14 => 2
  | 15 => 4
  | 16 => 3
  | _ => 1

def oplRhythmHeld (bd : BitVec 8) (channelKeys : Fin 3 → Bool) : Bool :=
  channelKeys (Fin.ofNat 3 (operatorIndex.val - 12)) ||
    bd.getLsbD 5 && bd.getLsbD (oplRhythmBit operatorIndex)

def oplRhythmChannelKeys (channel : Fin 3) : Bool :=
  (state.channels (Fin.ofNat 18 (6 + channel.val))).isKeyOn

def oplRhythmOperators : List (Fin 36) := [12, 13, 14, 15, 16, 17]

/-- One operator of `OplRhythmRekey`. -/
def oplRhythmRekeyOperator (bdBefore : BitVec 8) (channelKeysBefore : Fin 3 → Bool)
    (bdAfter : BitVec 8) (channelKeysAfter : Fin 3 → Bool) (state : OplState)
    (operatorIndex : Fin 36) : OplState :=
  let wasHeld := oplRhythmHeld operatorIndex bdBefore channelKeysBefore
  let isHeldNow := oplRhythmHeld operatorIndex bdAfter channelKeysAfter
  if wasHeld = isHeldNow then state
  else
    let keyed := oplKeyOperator state operatorIndex isHeldNow
    if isHeldNow ∧ (operatorIndex = 13 ∨ operatorIndex = 17) ∧ bdAfter.getLsbD 5 ∧
        keyed.lfoCount ≠ 0 then
      { keyed with
        rhythmRestart := keyed.rhythmRestart ||| if operatorIndex = 13 then 1 else 2 }
    else keyed

def oplRhythmRekey (bdBefore : BitVec 8) (channelKeysBefore : Fin 3 → Bool) (bdAfter : BitVec 8)
    (channelKeysAfter : Fin 3 → Bool) : OplState :=
  oplRhythmOperators.foldl
    (oplRhythmRekeyOperator bdBefore channelKeysBefore bdAfter channelKeysAfter) state

def oplCountRhythmHits (oldValue value : BitVec 8) : OplState :=
  let wasSet := if oldValue.getLsbD 5 then oldValue else 0
  { state with
    profileRhythmHits := fun voice =>
      if value.getLsbD 5 ∧ (value &&& ~~~wasSet).getLsbD voice.val then
        state.profileRhythmHits voice + 1
      else state.profileRhythmHits voice }

def oplRhythmWrite (oldValue value : BitVec 8) : OplState :=
  oplRhythmRekey (oplCountRhythmHits state oldValue value) oldValue (oplRhythmChannelKeys state)
    value (oplRhythmChannelKeys state)

/-- The channels whose operators the key bit of `channel` moves. -/
def oplKeyedChannels : List (Fin 18) :=
  if oplFourOperatorRole state channel = .first then [channel, channel + 3] else [channel]

/-- The operators of `channels`, the modulator of each first. -/
def oplOperatorsOf (channels : List (Fin 18)) : List (Fin 36) :=
  channels.flatMap fun channel =>
    [vddOplOperatorIndex channel false, vddOplOperatorIndex channel true]

def oplKeyChannel (isKeyOn : Bool) : OplState :=
  let operators := oplOperatorsOf (oplKeyedChannels state channel)
  let keyed :=
    if isKeyOn ∧ (state.channels channel).isKeyOn = false then
      let restarted := operators.foldl oplRestart state
      { restarted with
        profileKeyOns := state.profileKeyOns + 1
        profileKeyOnAm :=
          if operators.any fun index => (state.operators index).amplitudeModulation then
            state.profileKeyOnAm + 1
          else state.profileKeyOnAm
        profileKeyOnVibrato :=
          if operators.any fun index => (state.operators index).vibrato then
            state.profileKeyOnVibrato + 1
          else state.profileKeyOnVibrato }
    else if isKeyOn = false ∧ (state.channels channel).isKeyOn then
      operators.foldl oplRelease state
    else state
  setChannel keyed channel { keyed.channels channel with isKeyOn }

/-! ## Register writes -/

/-- Registers 0x02 to 0x04 of array 0. -/
def oplWriteTimer1 : OplState :=
  { state with
    timer1Preset := value
    timer1Count := if state.isTimer1Running then state.timer1Count else value.zeroExtend 16 }

def oplWriteTimer2 : OplState :=
  { state with
    timer2Preset := value
    timer2Count := if state.isTimer2Running then state.timer2Count else value.zeroExtend 16 }

def oplWriteTimerControl : OplState :=
  if value.getLsbD 7 then { state with status := 0 }
  else
    let starts1 := value.getLsbD 0 && !state.isTimer1Running
    let starts2 := value.getLsbD 1 && !state.isTimer2Running
    { state with
      isTimer1Masked := value.getLsbD 6
      isTimer2Masked := value.getLsbD 5
      timer1Count := if starts1 then state.timer1Preset.zeroExtend 16 else state.timer1Count
      timer1FractionUs := if starts1 then 0 else state.timer1FractionUs
      isTimer1Running := value.getLsbD 0
      timer2Count := if starts2 then state.timer2Preset.zeroExtend 16 else state.timer2Count
      timer2FractionUs := if starts2 then 0 else state.timer2FractionUs
      isTimer2Running := value.getLsbD 1 }

/-- The operator registers: `slot` in its array, `index` over both. -/
def oplWriteAmVib (slot : Nat) (index : Fin 36) (value : BitVec 8) : OplState :=
  let profiled :=
    { state with
      profileAmOperators :=
        if value.getLsbD 7 then state.profileAmOperators ||| 1 <<< slot
        else state.profileAmOperators
      profileVibratoOperators :=
        if value.getLsbD 6 then state.profileVibratoOperators ||| 1 <<< slot
        else state.profileVibratoOperators }
  setOperator profiled index
    { profiled.operators index with
      amplitudeModulation := value.getLsbD 7
      vibrato := value.getLsbD 6
      envelopeType := value.getLsbD 5
      keyScaleRate := value.getLsbD 4
      multiplier := value &&& 0x0F }

def oplWriteKslTl : OplState :=
  setOperator state index
    { state.operators index with keyScaleLevel := value >>> 6, totalLevel := value &&& 0x3F }

def oplWriteArDr : OplState :=
  setOperator state index
    { state.operators index with attackRate := value >>> 4, decayRate := value &&& 0x0F }

def oplWriteSlRr : OplState :=
  setOperator state index
    { state.operators index with sustainLevel := value >>> 4, releaseRate := value &&& 0x0F }

def oplWriteWaveform : OplState :=
  let profiled :=
    { state with profileWaveMask := state.profileWaveMask ||| 1 <<< (value &&& 7).toNat }
  setOperator profiled index { profiled.operators index with waveform := value &&& 7 }

def oplWriteFNumberLow : OplState :=
  setChannel state channel
    { state.channels channel with
      fNumber := (state.channels channel).fNumber &&& 0x300 ||| value.zeroExtend 16 }

def oplWriteFeedback : OplState :=
  setChannel state channel
    { state.channels channel with
      feedback := value >>> 1 &&& 7
      connection := value.getLsbD 0 }

def oplTune : OplState :=
  setChannel state channel
    { state.channels channel with
      fNumber := (state.channels channel).fNumber &&& 0xFF ||| (value &&& 3).zeroExtend 16 <<< 8
      block := value >>> 2 &&& 7 }

def oplWriteKeyBlock : OplState :=
  let isKeyOn := value.getLsbD 5
  let tuned := oplTune state channel value
  if 6 ≤ channel.val ∧ channel.val ≤ 8 ∧ (state.registers oplRegisterRhythm).getLsbD 5 then
    let keyed := setChannel tuned channel { tuned.channels channel with isKeyOn }
    oplRhythmRekey keyed (state.registers oplRegisterRhythm) (oplRhythmChannelKeys tuned)
      (state.registers oplRegisterRhythm) (oplRhythmChannelKeys keyed)
  else if oplFourOperatorRole tuned channel = .second then tuned
  else oplKeyChannel tuned channel isKeyOn

/-- What a write to the operator register `arrayRegister` does, nothing in the gaps. -/
def oplWriteOperator (arrayIndex arrayRegister : Nat)
    (write : OplState → Nat → Fin 36 → OplState) : OplState :=
  match oplOffsetToOperator arrayRegister with
  | none => state
  | some slot => write state slot (Fin.ofNat 36 (slot + arrayIndex * 18))

def oplWriteStored (arrayIndex arrayRegister : Nat) (oldValue value : BitVec 8) : OplState :=
  if arrayIndex ≠ 0 ∧ arrayRegister < 0x20 then state
  else if arrayRegister = 0x02 then oplWriteTimer1 state value
  else if arrayRegister = 0x03 then oplWriteTimer2 state value
  else if arrayRegister = 0x04 then oplWriteTimerControl state value
  else if 0x20 ≤ arrayRegister ∧ arrayRegister ≤ 0x35 then
    oplWriteOperator state arrayIndex arrayRegister fun state slot index =>
      oplWriteAmVib state slot index value
  else if 0x40 ≤ arrayRegister ∧ arrayRegister ≤ 0x55 then
    oplWriteOperator state arrayIndex arrayRegister fun state _ index =>
      oplWriteKslTl state index value
  else if 0x60 ≤ arrayRegister ∧ arrayRegister ≤ 0x75 then
    oplWriteOperator state arrayIndex arrayRegister fun state _ index =>
      oplWriteArDr state index value
  else if 0x80 ≤ arrayRegister ∧ arrayRegister ≤ 0x95 then
    oplWriteOperator state arrayIndex arrayRegister fun state _ index =>
      oplWriteSlRr state index value
  else if 0xE0 ≤ arrayRegister ∧ arrayRegister ≤ 0xF5 then
    oplWriteOperator state arrayIndex arrayRegister fun state _ index =>
      oplWriteWaveform state index value
  else if 0xA0 ≤ arrayRegister ∧ arrayRegister ≤ 0xA8 then
    oplWriteFNumberLow state (Fin.ofNat 18 (arrayRegister - 0xA0 + arrayIndex * 9)) value
  else if 0xB0 ≤ arrayRegister ∧ arrayRegister ≤ 0xB8 then
    oplWriteKeyBlock state (Fin.ofNat 18 (arrayRegister - 0xB0 + arrayIndex * 9)) value
  else if 0xC0 ≤ arrayRegister ∧ arrayRegister ≤ 0xC8 then
    oplWriteFeedback state (Fin.ofNat 18 (arrayRegister - 0xC0 + arrayIndex * 9)) value
  else if arrayIndex ≠ 0 then state
  else if arrayRegister = oplRegisterRhythm then
    let written := oplRhythmWrite state oldValue value
    { written with
      profileBdWrites := written.profileBdWrites + 1
      profileBdOr := written.profileBdOr ||| value }
  else if arrayRegister = 0x01 ∧ value.getLsbD 5 then
    { state with profileWaveformSelect := true }
  else state

/-- `Registers[registerNumber] = value`. -/
def oplStore : OplState :=
  { state with
    registers := Function.update state.registers registerNumber value
    profileWrites := state.profileWrites + 1 }

def vddOplWriteRegister : OplState :=
  if 0x200 ≤ registerNumber then state
  else if registerNumber / 256 ≠ 0 ∧ state.isOpl3 = false then state
  else
    oplWriteStored (oplStore state registerNumber value) (registerNumber / 256)
      (registerNumber % 256) (state.registers registerNumber) value

def oplKeyRegister : Nat :=
  channel.val / 9 * oplArray1Base + oplRegisterKeyBlock + channel.val % 9

/-- One channel of `VddOplAllNotesOff`; array 1 of an OPL2 is not reached. -/
def oplChannelOff : OplState :=
  if 9 ≤ channel.val ∧ state.isOpl3 = false then state
  else if (state.registers (oplKeyRegister channel)).getLsbD 5 then
    vddOplWriteRegister state (oplKeyRegister channel)
      (state.registers (oplKeyRegister channel) &&& ~~~0x20)
  else state

def vddOplAllNotesOff : OplState :=
  let released := (List.finRange 18).foldl oplChannelOff state
  if released.registers oplRegisterRhythm &&& 0x1F ≠ 0 then
    vddOplWriteRegister released oplRegisterRhythm
      (released.registers oplRegisterRhythm &&& ~~~0x1F)
  else released

def oplEffectiveRate (channel : OplChannel) (rate4 : BitVec 8) (keyScaleRate : Bool) : Nat :=
  let keyScaleValue := channel.block.toNat * 2 + channel.fNumber.toNat / 512 % 2
  let rateOffset := if keyScaleRate then keyScaleValue else keyScaleValue / 4
  if rate4 = 0 then 0 else min (rate4.toNat * 4 + rateOffset) 63

def oplEnvelopeStep (rate : Nat) : Int :=
  if rate = 0 then 0 else ((4 + rate % 4) * 2 ^ (5 + rate / 4) : Nat)

/-- The phase the envelope of one operator moves to, on the pitch of `channel`. -/
def oplEnvelopeMove (channel : OplChannel) (operator : OplOperator) : OplOperator :=
  let step rate4 := oplEnvelopeStep (oplEffectiveRate channel rate4 operator.keyScaleRate)
  match operator.envelopeState with
  | .attack =>
    if step operator.attackRate = 0 then operator
    else if operator.attackRate = 15 then
      { operator with envelope := 0, envelopeState := .decay }
    else
      let decrement :=
        max 1 (step operator.attackRate * (operator.envelope + 2 ^ 20) / 2 ^ 20 * 147 / 2 ^ 10)
      if operator.envelope - decrement ≤ 0 then
        { operator with envelope := 0, envelopeState := .decay }
      else { operator with envelope := operator.envelope - decrement }
  | .decay =>
    let sustainLevel : Int :=
      if operator.sustainLevel = 15 then oplEnvelopeFull
      else (operator.sustainLevel.toNat * 16 * 2 ^ 20 : Nat)
    if sustainLevel ≤ operator.envelope + step operator.decayRate then
      { operator with envelope := sustainLevel, envelopeState := .sustain }
    else { operator with envelope := operator.envelope + step operator.decayRate }
  | .sustain =>
    if operator.envelopeType then operator
    else if oplEnvelopeFull ≤ operator.envelope + step operator.releaseRate then
      { operator with envelope := oplEnvelopeFull, envelopeState := .off }
    else { operator with envelope := operator.envelope + step operator.releaseRate }
  | .release =>
    if oplEnvelopeFull ≤ operator.envelope + step operator.releaseRate then
      { operator with envelope := oplEnvelopeFull, envelopeState := .off }
    else { operator with envelope := operator.envelope + step operator.releaseRate }
  | .off => { operator with envelope := oplEnvelopeFull }

/-- The last two comparisons of `OplEnvelopeTick` keep the attenuation in its range. -/
def oplEnvelopeTick : OplState :=
  let moved := oplEnvelopeMove (state.channels channel) (state.operators operatorIndex)
  setOperator state operatorIndex
    { moved with envelope := min oplEnvelopeFull (max 0 moved.envelope) }

/-! ## Phases -/

/-- `g_OplVibratoPattern`. -/
def oplVibratoPattern (step : Nat) : Int :=
  match step % 8 with
  | 0 => 0
  | 1 => 1
  | 2 => 2
  | 3 => 1
  | 4 => 0
  | 5 => -1
  | 6 => -2
  | _ => -1

def oplVibratoOffset : Int :=
  let depthShift := if (state.registers oplRegisterRhythm).getLsbD 6 then 7 else 8
  let fullDepth : Int := ((state.channels channel).fNumber.toNat / 2 ^ depthShift : Nat)
  let patternStep := oplVibratoPattern (state.lfoCount.toNat / 2 ^ 10)
  let offset :=
    if patternStep = 2 ∨ patternStep = -2 then fullDepth
    else if patternStep ≠ 0 then fullDepth / 2
    else 0
  if patternStep < 0 then -offset else offset

/-- `g_OplMultiplier2`. -/
def oplMultiplier2 : List Nat := [1, 2, 4, 6, 8, 10, 12, 14, 16, 18, 20, 20, 24, 24, 30, 30]

def oplPhaseIncrement : BitVec 32 :=
  let fNumber : Int :=
    (state.channels channel).fNumber.toNat +
      if operator.vibrato then oplVibratoOffset state channel else 0
  let baseIncrement : BitVec 32 :=
    BitVec.ofNat 32 (max 0 fNumber).toNat <<< (state.channels channel).block.toNat
  (baseIncrement * BitVec.ofNat 32 (oplMultiplier2.getD operator.multiplier.toNat 0)) >>> 1

def oplAdvance (increment : BitVec 32) : OplState :=
  setOperator state operatorIndex
    { state.operators operatorIndex with
      phase := (state.operators operatorIndex).phase + increment }

/-- What `OplOperatorSample` changes. -/
def oplOperatorSample : OplState :=
  oplAdvance state operatorIndex
    (oplPhaseIncrement state channel (state.operators operatorIndex))

def oplIsOff : Bool :=
  (state.operators operatorIndex).envelopeState = .off

/-- One sample of each operator in turn, on the pitch of `channel`; nothing moves while
all of them are off. -/
def oplVoice (operators : List (Fin 36)) : OplState :=
  if operators.all (oplIsOff state) then state
  else
    operators.foldl (fun state operatorIndex =>
      oplEnvelopeTick (oplOperatorSample state channel operatorIndex) channel operatorIndex) state

def oplVoiceTwoOperator : OplState :=
  oplVoice state channel (oplOperatorsOf [channel])

def oplVoiceFourOperator : OplState :=
  oplVoice state channel (oplOperatorsOf [channel, channel + 3])

/-- A drum that reads a phase it does not own: only its envelope moves. -/
def oplDrum : OplState :=
  if oplIsOff state operatorIndex then state else oplEnvelopeTick state channel operatorIndex

def oplRhythmSample : OplState :=
  let bass := oplVoice state 6 [12, 15]
  let tom := oplVoice bass 8 [14]
  let hihat := oplAdvance tom 13
    (oplPhaseIncrement tom 7 (tom.operators 13) <<< (tom.rhythmRestart &&& 1).toNat)
  let cymbal := oplAdvance hihat 17
    (oplPhaseIncrement hihat 8 (hihat.operators 17) <<< (hihat.rhythmRestart >>> 1 &&& 1).toNat)
  let accumulated := { cymbal with rhythmRestart := 0 }
  oplDrum (oplDrum (oplDrum accumulated 7 13) 7 16) 8 17

def oplNoiseStep (window : BitVec 32) : BitVec 32 :=
  (List.range 8).foldl (fun window _ =>
    window >>> 9 ||| ((window >>> 14 ^^^ window) &&& 0x1FF) <<< 14)
    (if window = 0 then 0x100000 else window)

/-- One channel of `OplSampleStereo`. -/
def oplChannelSample (isNewMode isRhythm : Bool) (state : OplState) (channel : Fin 18) : OplState :=
  if (if isNewMode then 18 else 9) ≤ channel.val then state
  else if isRhythm ∧ 6 ≤ channel.val ∧ channel.val ≤ 8 then state
  else
    match if isNewMode then oplFourOperatorRole state channel else .ordinary with
    | .second => state
    | .first => oplVoiceFourOperator state channel
    | .ordinary => oplVoiceTwoOperator state channel

def oplSampleStereo : OplState :=
  let isNewMode := vddOplIsNewMode state
  let isRhythm := (state.registers oplRegisterRhythm).getLsbD 5
  let stepped := { state with noise := oplNoiseStep state.noise }
  let drummed := if isRhythm then oplRhythmSample stepped else stepped
  let counted := { drummed with lfoCount := drummed.lfoCount + 1 }
  (List.finRange 18).foldl (oplChannelSample isNewMode isRhythm) counted

/-- `VddOplRender` and `VddOplRenderStereo`. -/
def vddOplRender (state : OplState) : Nat → OplState
  | 0 => state
  | frames + 1 => vddOplRender (oplSampleStereo state) frames

end Ntvdmex.Vdd.Opl
