import Ntvdmex.Vdd.Opl

/-!
# What the OPL2 and OPL3 sound like (`vdd_opl_synth.c`, `opl_tables.h`)

The samples the chip renders, and the time and status calls beside them.  `chip` is the state of
the register file and the envelopes; `output1` and `output2` are the last two samples of each
operator, which only the feedback reads.
-/

namespace Ntvdmex.Vdd.Opl

local instance neZero36 : NeZero 36 := ⟨by decide⟩
local instance neZero18 : NeZero 18 := ⟨by decide⟩

def oplRegisterTest : Nat := 0x01
def oplRegisterFeedback : Nat := 0xC0

def oplPhaseMask : BitVec 32 := 0x3FF

/-- `g_OplLogSin`: the attenuation of a quarter sine, in log units. -/
def oplLogSin : List Nat :=
  [2137, 1731, 1543, 1419, 1326, 1252, 1190, 1137, 1091, 1050, 1013, 979, 949, 920, 894, 869, 846,
   825, 804, 785, 767, 749, 732, 717, 701, 687, 672, 659, 646, 633, 621, 609, 598, 587, 576, 566,
   556, 546, 536, 527, 518, 509, 501, 492, 484, 476, 468, 461, 453, 446, 439, 432, 425, 418, 411,
   405, 399, 392, 386, 380, 375, 369, 363, 358, 352, 347, 341, 336, 331, 326, 321, 316, 311, 307,
   302, 297, 293, 289, 284, 280, 276, 271, 267, 263, 259, 255, 251, 248, 244, 240, 236, 233, 229,
   226, 222, 219, 215, 212, 209, 205, 202, 199, 196, 193, 190, 187, 184, 181, 178, 175, 172, 169,
   167, 164, 161, 159, 156, 153, 151, 148, 146, 143, 141, 138, 136, 134, 131, 129, 127, 125, 122,
   120, 118, 116, 114, 112, 110, 108, 106, 104, 102, 100, 98, 96, 94, 92, 91, 89, 87, 85, 83, 82,
   80, 78, 77, 75, 74, 72, 70, 69, 67, 66, 64, 63, 62, 60, 59, 57, 56, 55, 53, 52, 51, 49, 48, 47,
   46, 45, 43, 42, 41, 40, 39, 38, 37, 36, 35, 34, 33, 32, 31, 30, 29, 28, 27, 26, 25, 24, 23, 23,
   22, 21, 20, 20, 19, 18, 17, 17, 16, 15, 15, 14, 13, 13, 12, 12, 11, 10, 10, 9, 9, 8, 8, 7, 7,
   7, 6, 6, 5, 5, 5, 4, 4, 4, 3, 3, 3, 2, 2, 2, 2, 1, 1, 1, 1, 1, 1, 1, 0, 0, 0, 0, 0, 0, 0, 0]

/-- `g_OplExp`: the fractional part of an attenuation, as an amplitude. -/
def oplExp : List Nat :=
  [4096, 4085, 4074, 4063, 4052, 4041, 4030, 4019, 4008, 3997, 3987, 3976, 3965, 3954, 3944, 3933,
   3922, 3912, 3901, 3891, 3880, 3870, 3859, 3849, 3838, 3828, 3818, 3807, 3797, 3787, 3776, 3766,
   3756, 3746, 3736, 3726, 3716, 3706, 3696, 3686, 3676, 3666, 3656, 3646, 3636, 3626, 3616, 3607,
   3597, 3587, 3577, 3568, 3558, 3548, 3539, 3529, 3520, 3510, 3501, 3491, 3482, 3472, 3463, 3454,
   3444, 3435, 3426, 3416, 3407, 3398, 3389, 3380, 3371, 3361, 3352, 3343, 3334, 3325, 3316, 3307,
   3298, 3289, 3280, 3272, 3263, 3254, 3245, 3236, 3228, 3219, 3210, 3201, 3193, 3184, 3176, 3167,
   3158, 3150, 3141, 3133, 3124, 3116, 3108, 3099, 3091, 3082, 3074, 3066, 3057, 3049, 3041, 3033,
   3025, 3016, 3008, 3000, 2992, 2984, 2976, 2968, 2960, 2952, 2944, 2936, 2928, 2920, 2912, 2904,
   2896, 2888, 2881, 2873, 2865, 2857, 2850, 2842, 2834, 2827, 2819, 2811, 2804, 2796, 2789, 2781,
   2774, 2766, 2759, 2751, 2744, 2736, 2729, 2721, 2714, 2707, 2699, 2692, 2685, 2678, 2670, 2663,
   2656, 2649, 2642, 2634, 2627, 2620, 2613, 2606, 2599, 2592, 2585, 2578, 2571, 2564, 2557, 2550,
   2543, 2536, 2530, 2523, 2516, 2509, 2502, 2496, 2489, 2482, 2475, 2469, 2462, 2455, 2449, 2442,
   2435, 2429, 2422, 2416, 2409, 2403, 2396, 2390, 2383, 2377, 2370, 2364, 2358, 2351, 2345, 2339,
   2332, 2326, 2320, 2313, 2307, 2301, 2295, 2288, 2282, 2276, 2270, 2264, 2258, 2252, 2245, 2239,
   2233, 2227, 2221, 2215, 2209, 2203, 2197, 2191, 2186, 2180, 2174, 2168, 2162, 2156, 2150, 2144,
   2139, 2133, 2127, 2121, 2116, 2110, 2104, 2099, 2093, 2087, 2082, 2076, 2070, 2065, 2059, 2054]

/-- `g_OplKeyScaleRom`. -/
def oplKeyScaleRom : List Nat := [0, 32, 40, 45, 48, 51, 53, 55, 56, 58, 59, 60, 61, 62, 63, 64]

/-- `g_OplKeyScaleShift`. -/
def oplKeyScaleShift : List Nat := [8, 1, 2, 0]

def oplExp2Negative (logValue : Int) : Int :=
  let logValue := logValue.toNat
  if 13 < logValue / 256 then 0 else (oplExp.getD (logValue % 256) 0 / 2 ^ (logValue / 256) : Nat)

variable (state : OplState) (isNewMode : Bool) (synth : OplSynth) (microseconds : BitVec 32)
  (channel : Fin 18) (operator : OplOperator) (operatorIndex : Fin 36) (phaseIndex : BitVec 32)

/-- The attenuation at a phase index, and whether the half is negative. -/
def oplLogSinFull : Int × Bool :=
  let index := phaseIndex.toNat % 256
  (oplLogSin.getD (if phaseIndex.getLsbD 8 then 255 - index else index) 0, phaseIndex.getLsbD 9)

def oplWaveform (waveform : BitVec 8) (phaseIndex : BitVec 32) : Option (Int × Bool) :=
  match waveform.toNat with
  | 4 =>
    if phaseIndex.getLsbD 9 then none else some (oplLogSinFull (phaseIndex <<< 1 &&& oplPhaseMask))
  | 5 =>
    if phaseIndex.getLsbD 9 then none
    else some ((oplLogSinFull (phaseIndex <<< 1 &&& oplPhaseMask)).1, false)
  | 6 => some (0, phaseIndex.getLsbD 9)
  | 7 =>
    let half := phaseIndex &&& 0x1FF
    some ((if phaseIndex.getLsbD 9 then half ^^^ 0x1FF else half).toNat * 8, phaseIndex.getLsbD 9)
  | 1 => if phaseIndex.getLsbD 9 then none else some (oplLogSinFull phaseIndex)
  | 2 => some ((oplLogSinFull phaseIndex).1, false)
  | 3 => if phaseIndex.getLsbD 8 then none else some ((oplLogSinFull phaseIndex).1, false)
  | _ => some (oplLogSinFull phaseIndex)

def oplEffectiveWaveform : BitVec 8 :=
  if state.isOpl3 then
    operator.waveform &&& if (state.registers oplRegisterNew).getLsbD 0 then 7 else 3
  else if (state.registers oplRegisterTest).getLsbD 5 then operator.waveform &&& 3
  else 0

/-! ## One operator -/

def oplTremoloUnits : Int :=
  let step := state.lfoCount.toNat / 256 % 52
  let units := if step < 26 then step else 52 - step
  if (state.registers oplRegisterRhythm).getLsbD 7 then units else (units / 4 : Nat)

def oplStaticAttenuation (channel : OplChannel) (operator : OplOperator) : Int :=
  let rom : Int := oplKeyScaleRom.getD (channel.fNumber.toNat / 64 % 16) 0
  let keyScale := max 0 (rom - 8 * (8 - channel.block.toNat))
  operator.totalLevel.toNat * 32 +
    keyScale / 2 ^ oplKeyScaleShift.getD operator.keyScaleLevel.toNat 0 * 32

def oplOperatorOutput : Int :=
  match oplWaveform (oplEffectiveWaveform state operator) (phaseIndex &&& oplPhaseMask) with
  | none => 0
  | some (logValue, isNegative) =>
    let attenuation :=
      logValue + operator.envelope / 2 ^ 20 * 8 +
        oplStaticAttenuation (state.channels channel) operator +
          if operator.amplitudeModulation then oplTremoloUnits state * 8 else 0
    let amplitude := oplExp2Negative attenuation
    if isNegative then -amplitude else amplitude

structure OplSynth where
  chip : OplState
  output1 : Fin 36 → Int
  output2 : Fin 36 → Int

def vddOplSynthReset (isOpl3 : Bool) : OplSynth where
  chip := vddOplReset isOpl3
  output1 := fun _ => 0
  output2 := fun _ => 0

/-- `OplOperatorSample` with the sample it returns. -/
def oplOperatorPlay (modulation : Int) : OplSynth × Int :=
  let chip := oplOperatorSample synth.chip channel operatorIndex
  let operator := chip.operators operatorIndex
  ({ synth with chip },
    if operator.envelopeState = .off then 0
    else
      oplOperatorOutput chip channel operator
        (operator.phase >>> 10 + BitVec.ofInt 32 modulation))

def oplPlayTick : OplSynth :=
  { synth with chip := oplEnvelopeTick synth.chip channel operatorIndex }

/-- The mean of the last two samples, as far as the channel feeds it back. -/
def oplFeedback : Int :=
  let feedback := (synth.chip.channels channel).feedback.toNat
  if feedback = 0 then 0
  else (synth.output1 operatorIndex + synth.output2 operatorIndex) / 2 ^ (9 - feedback)

def oplRemember (sample : Int) : OplSynth :=
  { synth with
    output2 := Function.update synth.output2 operatorIndex (synth.output1 operatorIndex)
    output1 := Function.update synth.output1 operatorIndex sample }

def oplPlayFirst : OplSynth × Int :=
  let (played, sample) :=
    oplOperatorPlay synth channel operatorIndex (oplFeedback synth channel operatorIndex)
  (oplPlayTick (oplRemember played operatorIndex sample) channel operatorIndex, sample)

def oplPlayNext (modulation : Int) : OplSynth × Int :=
  let (played, sample) := oplOperatorPlay synth channel operatorIndex modulation
  (oplPlayTick played channel operatorIndex, sample)

/-- Two operators on the pitch of `channel`, and what of them is heard. -/
def oplPlayPair (modulator carrier : Fin 36) : OplSynth × Int :=
  if oplIsOff synth.chip modulator && oplIsOff synth.chip carrier then (synth, 0)
  else
    let connection := (synth.chip.channels channel).connection
    let (synth, modulatorOutput) := oplPlayFirst synth channel modulator
    let (synth, carrierOutput) :=
      oplPlayNext synth channel carrier (if connection then 0 else modulatorOutput)
    (synth, if connection then modulatorOutput + carrierOutput else carrierOutput)

/-- `OplVoiceTwoOperator` with the sample it returns. -/
def oplPlayTwoOperator : OplSynth × Int :=
  oplPlayPair synth channel (vddOplOperatorIndex channel false) (vddOplOperatorIndex channel true)

/-- `OplVoiceFourOperator` with the sample it returns. -/
def oplPlayFourOperator : OplSynth × Int :=
  let operator1 := vddOplOperatorIndex channel false
  let operator2 := vddOplOperatorIndex channel true
  let operator3 := vddOplOperatorIndex (channel + 3) false
  let operator4 := vddOplOperatorIndex (channel + 3) true
  if [operator1, operator2, operator3, operator4].all (oplIsOff synth.chip) then (synth, 0)
  else
    let connection1 := (synth.chip.channels channel).connection
    let connection2 := (synth.chip.channels (channel + 3)).connection
    let (synth, sample1) := oplPlayFirst synth channel operator1
    let (synth, sample2) := oplPlayNext synth channel operator2 (if connection1 then 0 else sample1)
    let (synth, sample3) :=
      oplPlayNext synth channel operator3 (if connection2 && !connection1 then 0 else sample2)
    let (synth, sample4) :=
      oplPlayNext synth channel operator4 (if connection1 && connection2 then 0 else sample3)
    (synth,
      match connection1, connection2 with
      | false, false => sample4
      | true, false => sample1 + sample4
      | false, true => sample2 + sample4
      | true, true => sample1 + sample3 + sample4)

/-! ## Drums -/

def oplRhythmPhaseBit (phase13 phase17 : BitVec 32) : BitVec 32 :=
  (phase13 >>> 2 ^^^ phase13 >>> 7 ||| (phase13 >>> 3 ^^^ phase17 >>> 5) |||
    (phase17 >>> 3 ^^^ phase17 >>> 5)) &&& 1

def oplPlayDrum : OplSynth × Int :=
  if oplIsOff synth.chip operatorIndex then (synth, 0)
  else
    (oplPlayTick synth channel operatorIndex,
      oplOperatorOutput synth.chip channel (synth.chip.operators operatorIndex) phaseIndex * 2)

def oplPlayTom : OplSynth × Int :=
  if oplIsOff synth.chip 14 then (synth, 0) else oplPlayNext synth 8 14 0

/-- The two accumulators the other drums read. -/
def oplRhythmAccumulate : OplState :=
  let hihat := oplAdvance state 13
    (oplPhaseIncrement state 7 (state.operators 13) <<< (state.rhythmRestart &&& 1).toNat)
  let cymbal := oplAdvance hihat 17
    (oplPhaseIncrement hihat 8 (hihat.operators 17) <<< (hihat.rhythmRestart >>> 1 &&& 1).toNat)
  { cymbal with rhythmRestart := 0 }

def oplPhaseIndex : BitVec 32 :=
  (state.operators operatorIndex).phase >>> 10 &&& oplPhaseMask

def oplHihatIndex (phase17Previous : BitVec 32) : BitVec 32 :=
  let phaseBit := oplRhythmPhaseBit (oplPhaseIndex state 13) phase17Previous
  phaseBit <<< 9 ||| if (phaseBit ^^^ state.noise).getLsbD 0 then 0x0D0 else 0x034

def oplSnareIndex (phase13 : BitVec 32) : BitVec 32 :=
  let phaseBit := phase13 >>> 8 &&& 1
  phaseBit <<< 9 ||| ((phaseBit ^^^ state.noise >>> 6) &&& 1) <<< 8

/-- `OplRhythmSample`: the drums of channels 6, 7 and 8.  The hi-hat takes operator 17's index
from before its step. -/
def oplPlayRhythm : OplSynth × Int × Int × Int :=
  let (synth, bass) := oplPlayPair synth 6 12 15
  let (synth, tom) := oplPlayTom synth
  let phase17Previous := oplPhaseIndex synth.chip 17
  let synth : OplSynth := { synth with chip := oplRhythmAccumulate synth.chip }
  let phase13 := oplPhaseIndex synth.chip 13
  let phase17 := oplPhaseIndex synth.chip 17
  let (synth, hihat) := oplPlayDrum synth 7 13 (oplHihatIndex synth.chip phase17Previous)
  let (synth, snare) := oplPlayDrum synth 7 16 (oplSnareIndex synth.chip phase13)
  let (synth, cymbal) := oplPlayDrum synth 8 17 (oplRhythmPhaseBit phase13 phase17 <<< 9 ||| 0x080)
  (synth, bass * 2, hihat + snare, tom * 2 + cymbal)

/-! ## One sample -/

/-- `OplRoute`: what a channel adds to the two sides. -/
def oplRoute (value : Int) (sides : Int × Int) : Int × Int :=
  if isNewMode then
    let routing :=
      state.registers (channel.val / 9 * oplArray1Base + oplRegisterFeedback + channel.val % 9)
    (if routing.getLsbD 4 then sides.1 + value else sides.1,
      if routing.getLsbD 5 then sides.2 + value else sides.2)
  else (sides.1 + value, sides.2 + value)

/-- One channel of `OplSampleStereo`, the sides beside it. -/
def oplPlayChannel (isRhythm : Bool) (playing : OplSynth × Int × Int) (channel : Fin 18) :
    OplSynth × Int × Int :=
  if (if isNewMode then 18 else 9) ≤ channel.val then playing
  else if isRhythm ∧ 6 ≤ channel.val ∧ channel.val ≤ 8 then playing
  else
    match if isNewMode then oplFourOperatorRole playing.1.chip channel else .ordinary with
    | .second => playing
    | .first =>
      let (synth, output) := oplPlayFourOperator playing.1 channel
      (synth, oplRoute synth.chip isNewMode channel output playing.2)
    | .ordinary =>
      let (synth, output) := oplPlayTwoOperator playing.1 channel
      (synth, oplRoute synth.chip isNewMode channel output playing.2)

def oplPlayDrums (isRhythm : Bool) (synth : OplSynth) : OplSynth × Int × Int :=
  if isRhythm then
    let (synth, output6, output7, output8) := oplPlayRhythm synth
    (synth, oplRoute synth.chip isNewMode 8 output8
      (oplRoute synth.chip isNewMode 7 output7 (oplRoute synth.chip isNewMode 6 output6 (0, 0))))
  else (synth, 0, 0)

/-- `OplSampleStereo` with the two sides, unclipped. -/
def oplPlayStereo : OplSynth × Int × Int :=
  let isNewMode := vddOplIsNewMode synth.chip
  let isRhythm := (synth.chip.registers oplRegisterRhythm).getLsbD 5
  let stepped := { synth with chip := { synth.chip with noise := oplNoiseStep synth.chip.noise } }
  let drummed := oplPlayDrums isNewMode isRhythm stepped
  let counted :=
    { drummed.1 with
      chip := { drummed.1.chip with lfoCount := drummed.1.chip.lfoCount + 1 } }
  (List.finRange 18).foldl (oplPlayChannel isNewMode isRhythm) (counted, drummed.2)

def oplClip (value : Int) : Int :=
  max (-32768) (min 32767 value)

/-- `VddOplRender`, with the samples it writes. -/
def vddOplPlay (synth : OplSynth) : Nat → OplSynth × List Int
  | 0 => (synth, [])
  | frames + 1 =>
    let (sampled, left, right) := oplPlayStereo synth
    let sample :=
      if vddOplIsNewMode sampled.chip then (oplClip left + oplClip right).tdiv 2 else oplClip left
    let (played, samples) := vddOplPlay sampled frames
    (played, sample :: samples)

/-- `VddOplRenderStereo`, with the samples it writes. -/
def vddOplPlayStereo (synth : OplSynth) : Nat → OplSynth × List Int
  | 0 => (synth, [])
  | frames + 1 =>
    let (sampled, left, right) := oplPlayStereo synth
    let (played, samples) := vddOplPlayStereo sampled frames
    (played, oplClip left :: oplClip right :: samples)

/-- `OplTimerStep`: the count and the status after one tick. -/
def oplTimerStep (preset : BitVec 8) (isMasked : Bool) (flag : BitVec 8)
    (timer : BitVec 16 × BitVec 8) : BitVec 16 × BitVec 8 :=
  if 255 < (timer.1 + 1).toNat then
    (preset.zeroExtend 16, if isMasked then timer.2 else timer.2 ||| (flag ||| 0x80))
  else (timer.1 + 1, timer.2)

def oplRunTimer1 : OplState :=
  if state.isTimer1Running then
    let elapsed := state.timer1FractionUs + microseconds
    let (count, status) :=
      (oplTimerStep state.timer1Preset state.isTimer1Masked 0x40)^[elapsed.toNat / 80]
        (state.timer1Count, state.status)
    { state with
      timer1FractionUs := BitVec.ofNat 32 (elapsed.toNat % 80)
      timer1Count := count
      status }
  else state

def oplRunTimer2 : OplState :=
  if state.isTimer2Running then
    let elapsed := state.timer2FractionUs + microseconds
    let (count, status) :=
      (oplTimerStep state.timer2Preset state.isTimer2Masked 0x20)^[elapsed.toNat / 320]
        (state.timer2Count, state.status)
    { state with
      timer2FractionUs := BitVec.ofNat 32 (elapsed.toNat % 320)
      timer2Count := count
      status }
  else state

def vddOplAddMicroseconds : OplState :=
  oplRunTimer2 (oplRunTimer1 state microseconds) microseconds

/-- `VddOplReadStatus`; `isAbsent` is `g_OplAbsent`. -/
def vddOplReadStatus (isAbsent : Bool) (state : OplState) : BitVec 8 :=
  if isAbsent then 0xFF else state.status ||| if state.isOpl3 then 0 else 0x06

end Ntvdmex.Vdd.Opl
