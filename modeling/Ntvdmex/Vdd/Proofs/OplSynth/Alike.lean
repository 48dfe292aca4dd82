import Ntvdmex.Vdd.OplSynth

/-!
# An OPL3 beside an OPL2, playing

Two chips that agree on all an OPL2 has: the registers of array 0, operators 0 to 17, channels 0
to 8, the timers and the generators.  While NEW is clear, and the OPL2's waveform select is set
when samples are played, they render the same samples and stay alike.
-/

namespace Ntvdmex.Vdd.Opl

/-- The state beside registers, operators and channels. -/
structure OplClocks where
  timers : BitVec 8 × BitVec 8 × Bool × Bool × Bool × Bool × BitVec 16 × BitVec 16 × BitVec 8
  fractions : BitVec 32 × BitVec 32
  lfoCount : BitVec 32
  noise : BitVec 32
  rhythmRestart : BitVec 8

def oplClocks (state : OplState) : OplClocks where
  timers :=
    (state.timer1Preset, state.timer2Preset, state.isTimer1Running, state.isTimer2Running,
      state.isTimer1Masked, state.isTimer2Masked, state.timer1Count, state.timer2Count, state.status)
  fractions := (state.timer1FractionUs, state.timer2FractionUs)
  lfoCount := state.lfoCount
  noise := state.noise
  rhythmRestart := state.rhythmRestart

/-- An OPL3 with NEW clear and an OPL2; with `selected` the OPL2 plays its waveforms. -/
structure Alike (selected : Bool) (opl3 opl2 : OplState) : Prop where
  fitted3 : opl3.isOpl3 = true
  fitted2 : opl2.isOpl3 = false
  newClear : (opl3.registers oplRegisterNew).getLsbD 0 = false
  selects : selected = true → (opl2.registers oplRegisterTest).getLsbD 5 = true
  registers : ∀ register < oplArray1Base, opl3.registers register = opl2.registers register
  operators : ∀ index : Fin 36, index.val < 18 → opl3.operators index = opl2.operators index
  channels : ∀ channel : Fin 18, channel.val < 9 → opl3.channels channel = opl2.channels channel
  clocks : oplClocks opl3 = oplClocks opl2

section Updates

variable {selected : Bool} {opl3 opl2 : OplState}

section

variable (h : Alike selected opl3 opl2)

include h

theorem Alike.setOperator (index : Fin 36) (operator : OplOperator) :
    Alike selected (setOperator opl3 index operator) (setOperator opl2 index operator) := by
  refine { h with operators := fun other hother => ?_ }
  by_cases heq : other = index
  · subst heq
    simp [Opl.setOperator]
  · simp [Opl.setOperator, heq, h.operators other hother]

theorem Alike.setOperator_left {index : Fin 36}
    (hindex : 18 ≤ index.val) (operator : OplOperator) :
    Alike selected (Opl.setOperator opl3 index operator) opl2 := by
  refine { h with operators := fun other hother => ?_ }
  have hne : other ≠ index := by
    rintro rfl
    omega
  simp [Opl.setOperator, hne, h.operators other hother]

theorem Alike.setChannel (channel : Fin 18)
    (contents : OplChannel) :
    Alike selected (setChannel opl3 channel contents) (setChannel opl2 channel contents) := by
  refine { h with channels := fun other hother => ?_ }
  by_cases heq : other = channel
  · subst heq
    simp [Opl.setChannel]
  · simp [Opl.setChannel, heq, h.channels other hother]

theorem Alike.setChannel_left {channel : Fin 18}
    (hchannel : 9 ≤ channel.val) (contents : OplChannel) :
    Alike selected (Opl.setChannel opl3 channel contents) opl2 := by
  refine { h with channels := fun other hother => ?_ }
  have hne : other ≠ channel := by
    rintro rfl
    omega
  simp [Opl.setChannel, hne, h.channels other hother]

theorem Alike.lfoCount : opl3.lfoCount = opl2.lfoCount :=
  congrArg OplClocks.lfoCount h.clocks

theorem Alike.noise : opl3.noise = opl2.noise :=
  congrArg OplClocks.noise h.clocks

theorem Alike.rhythmRestart :
    opl3.rhythmRestart = opl2.rhythmRestart :=
  congrArg OplClocks.rhythmRestart h.clocks

theorem Alike.rhythm :
    opl3.registers oplRegisterRhythm = opl2.registers oplRegisterRhythm :=
  h.registers _ (by decide)

/-- Neither chip is in the new mode. -/
theorem Alike.notNew :
    vddOplIsNewMode opl3 = false ∧ vddOplIsNewMode opl2 = false := by
  unfold vddOplIsNewMode
  rw [h.newClear, h.fitted2]
  exact ⟨Bool.and_false _, Bool.false_and _⟩

theorem Alike.role (channel : Fin 18) :
    oplFourOperatorRole opl3 channel = .ordinary ∧ oplFourOperatorRole opl2 channel = .ordinary := by
  unfold oplFourOperatorRole
  rw [h.notNew.1, h.notNew.2]
  exact ⟨rfl, rfl⟩

end

end Updates

section Ticks

variable {selected : Bool} {opl3 opl2 : OplState} {channel : Fin 18} {index : Fin 36}

section

variable (h : Alike selected opl3 opl2)

include h

theorem Alike.envelopeTick (hchannel : channel.val < 9)
    (hindex : index.val < 18) :
    Alike selected (oplEnvelopeTick opl3 channel index) (oplEnvelopeTick opl2 channel index) := by
  unfold oplEnvelopeTick
  rw [h.channels channel hchannel, h.operators index hindex]
  exact h.setOperator index _

theorem Alike.phaseIncrement (hchannel : channel.val < 9)
    (operator : OplOperator) :
    oplPhaseIncrement opl3 channel operator = oplPhaseIncrement opl2 channel operator := by
  unfold oplPhaseIncrement oplVibratoOffset
  rw [h.channels channel hchannel, h.rhythm, h.lfoCount]

theorem Alike.advance (hindex : index.val < 18)
    (increment : BitVec 32) :
    Alike selected (oplAdvance opl3 index increment) (oplAdvance opl2 index increment) := by
  unfold oplAdvance
  rw [h.operators index hindex]
  exact h.setOperator index _

theorem Alike.operatorSample (hchannel : channel.val < 9)
    (hindex : index.val < 18) :
    Alike selected (oplOperatorSample opl3 channel index) (oplOperatorSample opl2 channel index) := by
  unfold oplOperatorSample
  rw [h.operators index hindex, h.phaseIncrement hchannel]
  exact h.advance hindex _

end

theorem Alike.effectiveWaveform (h : Alike true opl3 opl2) (operator : OplOperator) :
    oplEffectiveWaveform opl3 operator = oplEffectiveWaveform opl2 operator := by
  unfold oplEffectiveWaveform
  rw [h.fitted3, h.fitted2, h.newClear, h.selects rfl]
  rfl

theorem Alike.operatorOutput (h : Alike true opl3 opl2) (hchannel : channel.val < 9)
    (operator : OplOperator) (phaseIndex : BitVec 32) :
    oplOperatorOutput opl3 channel operator phaseIndex =
      oplOperatorOutput opl2 channel operator phaseIndex := by
  unfold oplOperatorOutput oplTremoloUnits
  rw [h.effectiveWaveform, h.channels channel hchannel, h.rhythm, h.lfoCount]

end Ticks

/-! ## Voices -/

/-- Two synths that sound alike. -/
structure SoundsAlike (opl3 opl2 : OplSynth) : Prop where
  chip : Alike true opl3.chip opl2.chip
  output1 : ∀ index : Fin 36, index.val < 18 → opl3.output1 index = opl2.output1 index
  output2 : ∀ index : Fin 36, index.val < 18 → opl3.output2 index = opl2.output2 index

/-- The same sample, and synths that still sound alike. -/
def PlaysAlike {α : Type} (first second : OplSynth × α) : Prop :=
  SoundsAlike first.1 second.1 ∧ first.2 = second.2

section Voices

variable {opl3 opl2 : OplSynth} {channel : Fin 18} {index : Fin 36}

section

variable (h : SoundsAlike opl3 opl2)

include h

theorem SoundsAlike.with_chip {chip3 chip2 : OplState}
    (hchip : Alike true chip3 chip2) :
    SoundsAlike { opl3 with chip := chip3 } { opl2 with chip := chip2 } :=
  ⟨hchip, h.output1, h.output2⟩

theorem SoundsAlike.tick (hchannel : channel.val < 9)
    (hindex : index.val < 18) :
    SoundsAlike (oplPlayTick opl3 channel index) (oplPlayTick opl2 channel index) :=
  h.with_chip (h.chip.envelopeTick hchannel hindex)

theorem SoundsAlike.isOff (hindex : index.val < 18) :
    oplIsOff opl3.chip index = oplIsOff opl2.chip index := by
  unfold oplIsOff
  rw [h.chip.operators index hindex]

theorem SoundsAlike.operatorPlay (hchannel : channel.val < 9)
    (hindex : index.val < 18) (modulation : Int) :
    PlaysAlike (oplOperatorPlay opl3 channel index modulation)
      (oplOperatorPlay opl2 channel index modulation) := by
  have hsample := h.chip.operatorSample hchannel hindex
  refine ⟨h.with_chip hsample, ?_⟩
  unfold oplOperatorPlay
  dsimp only
  rw [hsample.operators index hindex, hsample.operatorOutput hchannel]

theorem SoundsAlike.feedback (hchannel : channel.val < 9)
    (hindex : index.val < 18) :
    oplFeedback opl3 channel index = oplFeedback opl2 channel index := by
  unfold oplFeedback
  rw [h.chip.channels channel hchannel, h.output1 index hindex, h.output2 index hindex]

theorem SoundsAlike.remember (hindex : index.val < 18)
    (sample : Int) :
    SoundsAlike (oplRemember opl3 index sample) (oplRemember opl2 index sample) := by
  refine ⟨h.chip, fun other hother => ?_, fun other hother => ?_⟩ <;> unfold oplRemember <;>
    by_cases heq : other = index
  · subst heq
    simp
  · simp [heq, h.output1 other hother]
  · subst heq
    simp [h.output1 other hother]
  · simp [heq, h.output2 other hother]

theorem SoundsAlike.playFirst (hchannel : channel.val < 9)
    (hindex : index.val < 18) :
    PlaysAlike (oplPlayFirst opl3 channel index) (oplPlayFirst opl2 channel index) := by
  unfold oplPlayFirst
  rw [h.feedback hchannel hindex]
  obtain ⟨hplayed, hsample⟩ :=
    h.operatorPlay hchannel hindex (oplFeedback opl2 channel index)
  dsimp only
  refine ⟨?_, hsample⟩
  rw [hsample]
  exact (hplayed.remember hindex _).tick hchannel hindex

theorem SoundsAlike.playNext (hchannel : channel.val < 9)
    (hindex : index.val < 18) (modulation : Int) :
    PlaysAlike (oplPlayNext opl3 channel index modulation)
      (oplPlayNext opl2 channel index modulation) := by
  obtain ⟨hplayed, hsample⟩ := h.operatorPlay hchannel hindex modulation
  exact ⟨hplayed.tick hchannel hindex, hsample⟩

theorem SoundsAlike.playPair (hchannel : channel.val < 9)
    {modulator carrier : Fin 36} (hmodulator : modulator.val < 18) (hcarrier : carrier.val < 18) :
    PlaysAlike (oplPlayPair opl3 channel modulator carrier)
      (oplPlayPair opl2 channel modulator carrier) := by
  unfold oplPlayPair
  rw [h.isOff hmodulator, h.isOff hcarrier, h.chip.channels channel hchannel]
  refine iteInduction (fun hoff => ?_) fun hon => ?_
  · rw [if_pos hoff]
    exact ⟨h, rfl⟩
  · rw [if_neg hon]
    obtain ⟨hfirst, hsample⟩ := h.playFirst hchannel hmodulator
    dsimp only
    rw [hsample]
    obtain ⟨hnext, hcarried⟩ := hfirst.playNext hchannel hcarrier
      (if (opl2.chip.channels channel).connection then 0
        else (oplPlayFirst opl2 channel modulator).2)
    exact ⟨hnext, by rw [hcarried]⟩

end

end Voices

/-! ## Drums -/

section Drums

variable {opl3 opl2 : OplSynth} {channel : Fin 18} {index : Fin 36}

theorem SoundsAlike.playDrum (h : SoundsAlike opl3 opl2) (hchannel : channel.val < 9)
    (hindex : index.val < 18) (phaseIndex : BitVec 32) :
    PlaysAlike (oplPlayDrum opl3 channel index phaseIndex)
      (oplPlayDrum opl2 channel index phaseIndex) := by
  unfold oplPlayDrum
  rw [h.isOff hindex, h.chip.operatorOutput hchannel, h.chip.operators index hindex]
  refine iteInduction (fun hoff => ?_) fun hon => ?_
  · rw [if_pos hoff]
    exact ⟨h, rfl⟩
  · rw [if_neg hon]
    exact ⟨h.tick hchannel hindex, rfl⟩

theorem SoundsAlike.playTom (h : SoundsAlike opl3 opl2) :
    PlaysAlike (oplPlayTom opl3) (oplPlayTom opl2) := by
  unfold oplPlayTom
  rw [h.isOff (by decide)]
  refine iteInduction (fun hoff => ?_) fun hon => ?_
  · rw [if_pos hoff]
    exact ⟨h, rfl⟩
  · rw [if_neg hon]
    exact h.playNext (by decide) (by decide) 0

section

variable {selected : Bool} {first second : OplState} (h : Alike selected first second)

include h

theorem Alike.restarted :
    Alike selected { first with rhythmRestart := 0 } { second with rhythmRestart := 0 } :=
  { h with clocks := congrArg (fun clocks => { clocks with rhythmRestart := 0 }) h.clocks }

theorem Alike.accumulate :
    Alike selected (oplRhythmAccumulate first) (oplRhythmAccumulate second) := by
  have hhihatOperator : (13 : Fin 36).val < 18 := by decide
  have hhihatChannel : (7 : Fin 18).val < 9 := by decide
  have hcymbalChannel : (8 : Fin 18).val < 9 := by decide
  have hhihat := h.advance hhihatOperator
    (oplPhaseIncrement first 7 (first.operators 13) <<< (first.rhythmRestart &&& 1).toNat)
  unfold oplRhythmAccumulate
  dsimp only
  rw [← h.phaseIncrement hhihatChannel, ← h.operators 13 (by decide),
    ← h.rhythmRestart]
  generalize oplAdvance first 13 _ = hihat3 at *
  generalize oplAdvance second 13 _ = hihat2 at *
  rw [← hhihat.phaseIncrement hcymbalChannel, ← hhihat.operators 17 (by decide),
    ← hhihat.rhythmRestart]
  exact (hhihat.advance (by decide) _).restarted

theorem Alike.phaseIndex (hindex : index.val < 18) :
    oplPhaseIndex first index = oplPhaseIndex second index := by
  unfold oplPhaseIndex
  rw [h.operators index hindex]

theorem Alike.hihatIndex (phase17Previous : BitVec 32) :
    oplHihatIndex first phase17Previous = oplHihatIndex second phase17Previous := by
  unfold oplHihatIndex
  rw [h.phaseIndex (show (13 : Fin 36).val < 18 by decide), h.noise]

theorem Alike.snareIndex (phase13 : BitVec 32) :
    oplSnareIndex first phase13 = oplSnareIndex second phase13 := by
  unfold oplSnareIndex
  rw [h.noise]

end

theorem SoundsAlike.playRhythm (h : SoundsAlike opl3 opl2) :
    PlaysAlike (oplPlayRhythm opl3) (oplPlayRhythm opl2) := by
  have hchannel : ∀ channel : Fin 18, channel = 6 ∨ channel = 7 ∨ channel = 8 → channel.val < 9 := by
    decide
  obtain ⟨hbass, hbassOutput⟩ := h.playPair (hchannel 6 (by decide))
    (show (12 : Fin 36).val < 18 by decide) (show (15 : Fin 36).val < 18 by decide)
  unfold oplPlayRhythm
  generalize oplPlayPair opl3 6 12 15 = bass3 at *
  generalize oplPlayPair opl2 6 12 15 = bass2 at *
  obtain ⟨synth3, bassOutput3⟩ := bass3
  obtain ⟨synth2, bassOutput2⟩ := bass2
  obtain ⟨htom, htomOutput⟩ := hbass.playTom
  dsimp only at htom htomOutput hbassOutput ⊢
  generalize oplPlayTom synth3 = tom3 at *
  generalize oplPlayTom synth2 = tom2 at *
  obtain ⟨synth3, tomOutput3⟩ := tom3
  obtain ⟨synth2, tomOutput2⟩ := tom2
  have hmoved := htom.with_chip htom.chip.accumulate
  dsimp only at htomOutput hmoved ⊢
  rw [htom.chip.phaseIndex (show (17 : Fin 36).val < 18 by decide),
    htom.chip.accumulate.phaseIndex (show (13 : Fin 36).val < 18 by decide),
    htom.chip.accumulate.phaseIndex (show (17 : Fin 36).val < 18 by decide),
    htom.chip.accumulate.hihatIndex]
  generalize oplHihatIndex (oplRhythmAccumulate synth2.chip) _ = hihatIndex
  generalize oplPhaseIndex (oplRhythmAccumulate synth2.chip) 13 = phase13
  generalize oplPhaseIndex (oplRhythmAccumulate synth2.chip) 17 = phase17
  generalize ({ synth3 with chip := oplRhythmAccumulate synth3.chip } : OplSynth) = moved3 at *
  generalize ({ synth2 with chip := oplRhythmAccumulate synth2.chip } : OplSynth) = moved2 at *
  obtain ⟨hhihat, hhihatOutput⟩ := hmoved.playDrum (hchannel 7 (by decide))
    (show (13 : Fin 36).val < 18 by decide) hihatIndex
  generalize oplPlayDrum moved3 7 13 hihatIndex = hihat3 at *
  generalize oplPlayDrum moved2 7 13 hihatIndex = hihat2 at *
  obtain ⟨hsnare, hsnareOutput⟩ := hhihat.playDrum (hchannel 7 (by decide))
    (show (16 : Fin 36).val < 18 by decide) (oplSnareIndex hihat2.1.chip phase13)
  rw [hhihat.chip.snareIndex]
  generalize oplSnareIndex hihat2.1.chip phase13 = snareIndex at *
  generalize oplPlayDrum hihat3.1 7 16 snareIndex = snare3 at *
  generalize oplPlayDrum hihat2.1 7 16 snareIndex = snare2 at *
  obtain ⟨hcymbal, hcymbalOutput⟩ := hsnare.playDrum (hchannel 8 (by decide))
    (show (17 : Fin 36).val < 18 by decide) (oplRhythmPhaseBit phase13 phase17 <<< 9 ||| 0x080)
  exact ⟨hcymbal, by rw [hbassOutput, hhihatOutput, hsnareOutput, htomOutput, hcymbalOutput]⟩

end Drums

section Samples

variable {opl3 opl2 : OplSynth}

theorem oplRoute_both (state : OplState) (channel : Fin 18) (value : Int) (sides : Int × Int) :
    oplRoute state false channel value sides = (sides.1 + value, sides.2 + value) := rfl

theorem PlaysAlike.playChannel {first second : OplSynth × Int × Int}
    (h : PlaysAlike first second) (isRhythm : Bool) (channel : Fin 18) :
    PlaysAlike (oplPlayChannel false isRhythm first channel)
      (oplPlayChannel false isRhythm second channel) := by
  unfold oplPlayChannel
  refine iteInduction (fun hbeyond => ?_) fun hwithin => ?_
  · rw [if_pos hbeyond]
    exact h
  · rw [if_neg hwithin]
    refine iteInduction (fun hdrum => ?_) fun hmelodic => ?_
    · rw [if_pos hdrum]
      exact h
    · rw [if_neg hmelodic]
      have hchannel : channel.val < 9 := by
        simpa using hwithin
      have hmodulator : (vddOplOperatorIndex channel false).val < 18 := by
        unfold vddOplOperatorIndex
        simp only [Fin.ofNat, Bool.false_eq_true, if_false]
        omega
      have hcarrier : (vddOplOperatorIndex channel true).val < 18 := by
        unfold vddOplOperatorIndex
        simp only [Fin.ofNat, if_true]
        omega
      have hplayed := h.1.playPair hchannel hmodulator hcarrier
      rw [← oplPlayTwoOperator, ← oplPlayTwoOperator] at hplayed
      simp only [Bool.false_eq_true, if_false]
      generalize oplPlayTwoOperator first.1 channel = played3 at *
      generalize oplPlayTwoOperator second.1 channel = played2 at *
      refine ⟨hplayed.1, ?_⟩
      rw [oplRoute_both, oplRoute_both, hplayed.2, h.2]

variable (h : SoundsAlike opl3 opl2)

include h

theorem SoundsAlike.playDrums (isRhythm : Bool) :
    PlaysAlike (oplPlayDrums false isRhythm opl3) (oplPlayDrums false isRhythm opl2) := by
  unfold oplPlayDrums
  cases isRhythm with
  | false =>
    rw [if_neg Bool.false_ne_true, if_neg Bool.false_ne_true]
    exact ⟨h, rfl⟩
  | true =>
    have hplayed := h.playRhythm
    rw [if_pos rfl, if_pos rfl]
    generalize oplPlayRhythm opl3 = played3 at *
    generalize oplPlayRhythm opl2 = played2 at *
    obtain ⟨synth3, bass3, hihat3, tom3⟩ := played3
    obtain ⟨synth2, bass2, hihat2, tom2⟩ := played2
    obtain ⟨hsynth, houtputs⟩ := hplayed
    cases houtputs
    exact ⟨hsynth, rfl⟩

theorem SoundsAlike.playStereo : PlaysAlike (oplPlayStereo opl3) (oplPlayStereo opl2) := by
  have hstepped : SoundsAlike
      { opl3 with chip := { opl3.chip with noise := oplNoiseStep opl3.chip.noise } }
      { opl2 with chip := { opl2.chip with noise := oplNoiseStep opl2.chip.noise } } := by
    refine h.with_chip { h.chip with clocks := ?_ }
    exact congrArg (fun clocks => { clocks with noise := oplNoiseStep clocks.noise }) h.chip.clocks
  unfold oplPlayStereo
  rw [h.chip.notNew.1, h.chip.notNew.2, h.chip.rhythm]
  generalize (opl2.chip.registers oplRegisterRhythm).getLsbD 5 = isRhythm
  have hdrummed := hstepped.playDrums isRhythm
  dsimp only
  generalize oplPlayDrums false isRhythm
    { opl3 with chip := { opl3.chip with noise := oplNoiseStep opl3.chip.noise } } = drummed3 at *
  generalize oplPlayDrums false isRhythm
    { opl2 with chip := { opl2.chip with noise := oplNoiseStep opl2.chip.noise } } = drummed2 at *
  have hcounted : Alike true
      { drummed3.1.chip with lfoCount := drummed3.1.chip.lfoCount + 1 }
      { drummed2.1.chip with lfoCount := drummed2.1.chip.lfoCount + 1 } :=
    { hdrummed.1.chip with
      clocks := congrArg (fun clocks => { clocks with lfoCount := clocks.lfoCount + 1 })
        hdrummed.1.chip.clocks }
  have hplaying : ∀ (channels : List (Fin 18)) (first second : OplSynth × Int × Int),
      PlaysAlike first second →
        PlaysAlike (channels.foldl (oplPlayChannel false isRhythm) first)
          (channels.foldl (oplPlayChannel false isRhythm) second) := by
    intro channels
    induction channels with
    | nil => exact fun _ _ h => h
    | cons channel channels ih => exact fun _ _ h => ih _ _ (h.playChannel isRhythm channel)
  exact hplaying _ _ _ ⟨hdrummed.1.with_chip hcounted, hdrummed.2⟩

theorem SoundsAlike.play (frames : Nat) :
    PlaysAlike (vddOplPlay opl3 frames) (vddOplPlay opl2 frames) := by
  induction frames generalizing opl3 opl2 with
  | zero => exact ⟨h, rfl⟩
  | succ frames ih =>
    have hsampled := h.playStereo
    unfold vddOplPlay
    generalize oplPlayStereo opl3 = sampled3 at *
    generalize oplPlayStereo opl2 = sampled2 at *
    obtain ⟨synth3, left3, right3⟩ := sampled3
    obtain ⟨synth2, left2, right2⟩ := sampled2
    obtain ⟨hsynth, hsides⟩ := hsampled
    cases hsides
    dsimp only at hsynth ⊢
    have hplayed := ih hsynth
    refine ⟨hplayed.1, ?_⟩
    rw [hsynth.chip.notNew.1, hsynth.chip.notNew.2, hplayed.2]

theorem SoundsAlike.playBoth (frames : Nat) :
    PlaysAlike (vddOplPlayStereo opl3 frames) (vddOplPlayStereo opl2 frames) := by
  induction frames generalizing opl3 opl2 with
  | zero => exact ⟨h, rfl⟩
  | succ frames ih =>
    have hsampled := h.playStereo
    unfold vddOplPlayStereo
    generalize oplPlayStereo opl3 = sampled3 at *
    generalize oplPlayStereo opl2 = sampled2 at *
    obtain ⟨synth3, left3, right3⟩ := sampled3
    obtain ⟨synth2, left2, right2⟩ := sampled2
    obtain ⟨hsynth, hsides⟩ := hsampled
    cases hsides
    dsimp only at hsynth ⊢
    have hplayed := ih hsynth
    refine ⟨hplayed.1, ?_⟩
    rw [hplayed.2]

end Samples

end Ntvdmex.Vdd.Opl
