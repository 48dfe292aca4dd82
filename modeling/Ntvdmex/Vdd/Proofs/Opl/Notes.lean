import Ntvdmex.Foundation.Runs
import Ntvdmex.Vdd.Proofs.Opl.Writes

/-!
# No operator is left sounding

While channels are paired and unpaired with their keys at rest, an operator sounds only as
long as a key source that covers it is on, restarts only when those sources rise, and is
silent once all notes are off.
-/

namespace Ntvdmex.Vdd.Opl

open Foundation List Bool

/-- The write pairs no channel whose key is on, and parts no pair of which a key is on. -/
structure PairsAtRest (state : OplState) (registerNumber : Nat) (value : BitVec 8) : Prop where
  paired : ∀ channel, oplFourOperatorRole state channel ≠ .second →
    oplFourOperatorRole (oplStore state registerNumber value) channel = .second →
    keyBit state channel = false
  parted : ∀ channel, oplFourOperatorRole state channel = .second →
    oplFourOperatorRole (oplStore state registerNumber value) channel ≠ .second →
    keyBit state channel = false ∧ keyBit state (channel - 3) = false

variable {after : OplState} {registerNumber : Nat}

/-- A write that stores a register which is no key moves no operator. -/
theorem sameKeys_obeys {state : OplState} (htracked : Tracked state) {value : BitVec 8}
    (hkey : ∀ channel, oplKeyRegister channel ≠ registerNumber)
    (hrhythm : registerNumber ≠ oplRegisterRhythm)
    (hreached : registerNumber < oplArray1Base ∨ state.isOpl3 = true)
    (hsame : SameKeys (oplStore state registerNumber value) after)
    (hrest : PairsAtRest state registerNumber value) : Tracked after := by
  have hkeyBit : ∀ channel, keyBit after channel = keyBit state channel := by
    intro channel
    have hstored := @store_keyBit_other state registerNumber value hkey channel
    rw [← hstored]
    unfold keyBit
    rw [hsame.registers]
  have hrole : ∀ channel, oplFourOperatorRole after channel =
      oplFourOperatorRole (oplStore state registerNumber value) channel :=
    role_congr hsame.isOpl3 (by rw [hsame.registers]) (by rw [hsame.registers])
  have hdrum : ∀ index, drumBit after index = drumBit state index := by
    intro index
    unfold drumBit
    rw [hsame.registers]
    simp [oplStore, Ne.symm hrhythm]
  refine ⟨?_, ?_, ?_, ?_⟩
  · intro index hsounds
    rw [(hsame.voices index).1] at hsounds
    have hheld := htracked.sounding index hsounds
    unfold held at hheld ⊢
    rw [hdrum, hkeyBit]
    by_cases hbefore : oplFourOperatorRole state (channelOf index) = .second
    · by_cases hafter : oplFourOperatorRole (oplStore state registerNumber value)
          (channelOf index) = .second
      · unfold governor at hheld ⊢
        rw [hrole, if_pos hafter]
        rwa [if_pos hbefore] at hheld
      · have hleader := (hrest.parted _ hbefore hafter).2
        unfold governor at hheld
        rw [if_pos hbefore, hleader, Bool.false_or] at hheld
        rw [hheld, Bool.or_true]
    · by_cases hafter : oplFourOperatorRole (oplStore state registerNumber value)
          (channelOf index) = .second
      · have hown := hrest.paired _ hbefore hafter
        unfold governor at hheld
        rw [if_neg hbefore, hown, Bool.false_or] at hheld
        rw [hheld, Bool.or_true]
      · unfold governor at hheld ⊢
        rw [hrole, if_neg hafter]
        rwa [if_neg hbefore] at hheld
  · intro channel hown
    rw [hrole] at hown
    rw [hsame.keys, hkeyBit]
    show (state.channels channel).isKeyOn = keyBit state channel
    by_cases hbefore : oplFourOperatorRole state channel = .second
    · rw [htracked.paired channel hbefore, (hrest.parted channel hbefore hown).1]
    · exact htracked.latched channel hbefore
  · intro channel hsecond
    rw [hrole] at hsecond
    rw [hsame.keys]
    show (state.channels channel).isKeyOn = false
    by_cases hbefore : oplFourOperatorRole state channel = .second
    · exact htracked.paired channel hbefore
    · rw [htracked.latched channel hbefore, hrest.paired channel hbefore hsecond]
  · intro hopl2 register hregister
    rw [hsame.isOpl3] at hopl2
    have hlow : registerNumber < oplArray1Base := by
      rcases hreached with hlow | hopl3
      · exact hlow
      · exact absurd (hopl3.symm.trans hopl2) (by decide)
    rw [hsame.registers]
    show Function.update state.registers registerNumber value register = 0
    rw [Function.update_of_ne (by omega)]
    exact htracked.absent hopl2 register hregister

def Moves (heldBefore heldAfter : Bool) (before after : OplOperator) : Prop :=
  SameVoice before after ∨ Released before after ∨
    Restarted after ∧ heldBefore = false ∧ heldAfter = true

theorem Follows.moves {heldBefore heldAfter : Bool} {before after : OplOperator}
    (hfollows : Follows heldBefore heldAfter before after) :
    Moves heldBefore heldAfter before after := by
  cases heldBefore with
  | false =>
    cases heldAfter with
    | false => exact .inl (hfollows.steady rfl)
    | true => exact .inr (.inr ⟨hfollows.rising rfl rfl, rfl, rfl⟩)
  | true =>
    cases heldAfter with
    | false => exact .inr (.inl (hfollows.falling rfl rfl))
    | true => exact .inl (hfollows.steady rfl)

theorem keyRegister_of_number (hlt : registerNumber < 0x200)
    (hkey : 0xB0 ≤ registerNumber % 256 ∧ registerNumber % 256 ≤ 0xB8) :
    ∃ channel : Fin 18, oplKeyRegister channel = registerNumber ∧
      channel.val / 9 = registerNumber / 256 := by
  refine ⟨⟨registerNumber / 256 * 9 + (registerNumber % 256 - 0xB0), by omega⟩, ?_, ?_⟩
  · have hbase : oplArray1Base = 256 := rfl
    have hblock : oplRegisterKeyBlock = 0xB0 := rfl
    unfold oplKeyRegister
    rw [hbase, hblock]
    dsimp only
    omega
  · dsimp only
    omega

theorem vddOplWriteRegister_step {state : OplState} (htracked : Tracked state) {value : BitVec 8}
    (hrest : PairsAtRest state registerNumber value) :
    Tracked (vddOplWriteRegister state registerNumber value) ∧
      ∀ index, Moves (held state index)
        (held (vddOplWriteRegister state registerNumber value) index) (state.operators index)
        ((vddOplWriteRegister state registerNumber value).operators index) := by
  by_cases hignored : 0x200 ≤ registerNumber ∨
      registerNumber / 256 ≠ 0 ∧ state.isOpl3 = false
  · have hsame : vddOplWriteRegister state registerNumber value = state := by
      unfold vddOplWriteRegister
      rcases hignored with hhigh | habsent
      · rw [if_pos hhigh]
      · rw [if_pos habsent]
        exact ite_self _
    rw [hsame]
    exact ⟨htracked, fun _ => .inl ⟨rfl, rfl⟩⟩
  obtain ⟨hlt, hpresent⟩ := not_or.mp hignored
  have hreached : registerNumber / 256 = 0 ∨ state.isOpl3 = true := by
    by_contra hneither
    obtain ⟨harray, hopl3⟩ := not_or.mp hneither
    exact hpresent ⟨harray, eq_false_of_not_eq_true hopl3⟩
  by_cases hkey : 0xB0 ≤ registerNumber % 256 ∧ registerNumber % 256 ≤ 0xB8
  · obtain ⟨channel, rfl, harray⟩ := keyRegister_of_number (Nat.not_le.mp hlt) hkey
    have hchannel : channel.val < 9 ∨ state.isOpl3 = true := by
      rcases hreached with hzero | hopl3
      · exact .inl (by lia)
      · exact .inr hopl3
    rw [vddOplWriteRegister_key state channel value hchannel]
    have hobeys := @oplWriteKeyBlock_obeys state channel value htracked hchannel
    exact ⟨hobeys.tracked, fun index => (hobeys.follows index).moves⟩
  by_cases hrhythm : registerNumber = oplRegisterRhythm
  · subst hrhythm
    have hobeys := vddOplWriteRegister_rhythm_obeys htracked value
    exact ⟨hobeys.tracked, fun index => (hobeys.follows index).moves⟩
  have hsame : SameKeys (oplStore state registerNumber value)
      (vddOplWriteRegister state registerNumber value) := by
    unfold vddOplWriteRegister
    rw [if_neg hlt, if_neg hpresent]
    refine sameKeys_writeStored _ _ _ hkey ?_
    rintro ⟨harray, hregister⟩
    lia
  have hnotKey : ∀ channel, oplKeyRegister channel ≠ registerNumber := by
    rintro channel rfl
    obtain ⟨-, hregister, -⟩ := oplKeyRegister_facts channel
    exact hkey (by lia)
  have hbase : oplArray1Base = 256 := rfl
  refine ⟨sameKeys_obeys htracked hnotKey hrhythm (hreached.imp (by lia) id) hsame hrest,
    fun index => .inl (hsame.voices index)⟩

/-! ## Rendering -/

/-- Rendering keys nothing: what sounds after it sounded before, and no attack begins. -/
structure Renders (before after : OplState) : Prop where
  registers : after.registers = before.registers
  isOpl3 : after.isOpl3 = before.isOpl3
  channels : after.channels = before.channels
  sounding : ∀ index, (after.operators index).envelopeState.sounds = true →
    (before.operators index).envelopeState.sounds = true
  attacking : ∀ index, (after.operators index).envelopeState = .attack →
    (before.operators index).envelopeState = .attack

theorem Renders.refl (state : OplState) : Renders state state :=
  ⟨rfl, rfl, rfl, fun _ h => h, fun _ h => h⟩

theorem Renders.trans {first second third : OplState} (hfirst : Renders first second)
    (hsecond : Renders second third) : Renders first third :=
  ⟨hsecond.registers.trans hfirst.registers, hsecond.isOpl3.trans hfirst.isOpl3,
    hsecond.channels.trans hfirst.channels,
    fun index h => hfirst.sounding index (hsecond.sounding index h),
    fun index h => hfirst.attacking index (hsecond.attacking index h)⟩

theorem foldl_renders {α : Type*} {move : OplState → α → OplState}
    (hmove : ∀ state item, Renders state (move state item)) (items : List α) (state : OplState) :
    Renders state (items.foldl move state) := by
  induction items generalizing state with
  | nil => exact .refl state
  | cons item items ih => exact (hmove state item).trans (ih _)

theorem renders_setOperator {state : OplState} {index : Fin 36} {operator : OplOperator}
    (hsounding : operator.envelopeState.sounds = true →
      (state.operators index).envelopeState.sounds = true)
    (hattacking : operator.envelopeState = .attack →
      (state.operators index).envelopeState = .attack) :
    Renders state (setOperator state index operator) := by
  refine ⟨rfl, rfl, rfl, fun other => ?_, fun other => ?_⟩ <;>
  · by_cases hother : other = index
    · subst hother
      simpa [setOperator] using by assumption
    · simp [setOperator, hother]

/-- An envelope only moves on: from attack to decay, from decay to sustain, from there off. -/
theorem oplEnvelopeMove_onward (channel : OplChannel) (operator : OplOperator) :
    ((oplEnvelopeMove channel operator).envelopeState.sounds = true →
      operator.envelopeState.sounds = true) ∧
    ((oplEnvelopeMove channel operator).envelopeState = .attack →
      operator.envelopeState = .attack) := by
  unfold oplEnvelopeMove
  cases hstate : operator.envelopeState with
  | off => simp
  | attack => exact ⟨fun _ => rfl, fun _ => rfl⟩
  | decay =>
    refine ⟨fun _ => rfl, ?_⟩
    dsimp only
    split <;> split <;> simp
  | sustain =>
    refine ⟨fun _ => rfl, ?_⟩
    dsimp only
    split
    · simp [hstate]
    · split <;> simp
  | release =>
    dsimp only
    split <;> simp [OplEnvelope.sounds]

section

variable (state : OplState)

include state

variable (channel : Fin 18) (index : Fin 36)

theorem oplEnvelopeTick_renders : Renders state (oplEnvelopeTick state channel index) := by
  obtain ⟨hsounding, hattacking⟩ :=
    oplEnvelopeMove_onward (state.channels channel) (state.operators index)
  exact renders_setOperator hsounding hattacking

theorem oplAdvance_renders (increment : BitVec 32) :
    Renders state (oplAdvance state index increment) :=
  renders_setOperator (fun h => h) (fun h => h)

theorem oplVoice_renders (operators : List (Fin 36)) :
    Renders state (oplVoice state channel operators) := by
  unfold oplVoice
  split
  · exact .refl state
  · refine foldl_renders (fun state index => ?_) operators state
    exact (oplAdvance_renders state index _).trans (oplEnvelopeTick_renders _ channel index)

theorem oplDrum_renders : Renders state (oplDrum state channel index) := by
  unfold oplDrum
  split
  · exact .refl state
  · exact oplEnvelopeTick_renders state channel index

theorem rhythmRestart_renders :
    Renders state { state with rhythmRestart := 0 } :=
  ⟨rfl, rfl, rfl, fun _ h => h, fun _ h => h⟩

theorem oplRhythmSample_renders : Renders state (oplRhythmSample state) := by
  unfold oplRhythmSample
  refine Renders.trans ?_ (oplDrum_renders _ 8 17)
  refine Renders.trans ?_ (oplDrum_renders _ 7 16)
  refine Renders.trans ?_ (oplDrum_renders _ 7 13)
  refine Renders.trans ?_ (rhythmRestart_renders _)
  refine Renders.trans ?_ (oplAdvance_renders _ 17 _)
  refine Renders.trans ?_ (oplAdvance_renders _ 13 _)
  exact (oplVoice_renders state 6 _).trans (oplVoice_renders _ 8 _)

end

theorem oplChannelSample_renders (isNewMode isRhythm : Bool) (state : OplState)
    (channel : Fin 18) : Renders state (oplChannelSample isNewMode isRhythm state channel) := by
  refine iteInduction (fun _ => .refl state) fun _ => ?_
  refine iteInduction (fun _ => .refl state) fun _ => ?_
  split
  · exact .refl state
  · exact oplVoice_renders _ _ _
  · exact oplVoice_renders _ _ _

theorem oplSampleStereo_renders (state : OplState) : Renders state (oplSampleStereo state) := by
  unfold oplSampleStereo
  refine Renders.trans ?_ (foldl_renders (oplChannelSample_renders _ _) _ _)
  have hstepped : Renders state { state with noise := oplNoiseStep state.noise } :=
    ⟨rfl, rfl, rfl, fun _ h => h, fun _ h => h⟩
  split
  · have hdrummed := hstepped.trans (oplRhythmSample_renders _)
    exact ⟨hdrummed.registers, hdrummed.isOpl3, hdrummed.channels, hdrummed.sounding,
      hdrummed.attacking⟩
  · exact ⟨rfl, rfl, rfl, fun _ h => h, fun _ h => h⟩

theorem vddOplRender_renders (frames : Nat) (state : OplState) :
    Renders state (vddOplRender state frames) := by
  induction frames generalizing state with
  | zero => exact .refl state
  | succ frames ih => exact (oplSampleStereo_renders state).trans (ih _)

theorem Renders.tracked {before : OplState} (hrenders : Renders before after)
    (htracked : Tracked before) : Tracked after := by
  have hrole := role_congr hrenders.isOpl3 (by rw [hrenders.registers])
    (by rw [hrenders.registers])
  refine ⟨fun index hsounds => ?_, fun channel hown => ?_, fun channel hsecond => ?_,
    fun hopl2 register hregister => ?_⟩
  · rw [held_congr hrenders.registers hrenders.isOpl3]
    exact htracked.sounding index (hrenders.sounding index hsounds)
  · rw [hrole] at hown
    rw [hrenders.channels, htracked.latched channel hown]
    unfold keyBit
    rw [hrenders.registers]
  · rw [hrole] at hsecond
    rw [hrenders.channels, htracked.paired channel hsecond]
  · rw [hrenders.isOpl3] at hopl2
    rw [hrenders.registers]
    exact htracked.absent hopl2 register hregister

theorem oplWriteKeyBlock_registers (state : OplState) (channel : Fin 18) (value : BitVec 8) :
    (oplWriteKeyBlock state channel value).registers = state.registers ∧
      (oplWriteKeyBlock state channel value).isOpl3 = state.isOpl3 := by
  have htuned : SameKeys state (oplTune state channel value) := sameKeys_setChannel rfl
  unfold oplWriteKeyBlock
  dsimp only
  split
  · have hmoved := oplRhythmRekey_onlyOperatorsMove (state.registers oplRegisterRhythm)
      (oplRhythmChannelKeys (oplTune state channel value)) (state.registers oplRegisterRhythm)
      (oplRhythmChannelKeys (setChannel (oplTune state channel value) channel
        { (oplTune state channel value).channels channel with isKeyOn := value.getLsbD 5 }))
      (setChannel (oplTune state channel value) channel
        { (oplTune state channel value).channels channel with isKeyOn := value.getLsbD 5 })
    exact ⟨hmoved.registers, hmoved.isOpl3⟩
  split
  · exact ⟨htuned.registers, htuned.isOpl3⟩
  · have hkeyed := oplKeyChannel_keys (oplTune state channel value) channel (value.getLsbD 5)
    exact ⟨hkeyed.registers.trans htuned.registers, hkeyed.isOpl3.trans htuned.isOpl3⟩

theorem oplChannelOff_step {state : OplState} (htracked : Tracked state) (channel : Fin 18) :
    Tracked (oplChannelOff state channel) ∧
      keyBit (oplChannelOff state channel) channel = false ∧
      ∀ other, keyBit state other = false → keyBit (oplChannelOff state channel) other = false := by
  unfold oplChannelOff
  by_cases habsent : 9 ≤ channel.val ∧ state.isOpl3 = false
  · rw [if_pos habsent]
    refine ⟨htracked, ?_, fun _ hother => hother⟩
    have hhigh : ∀ channel : Fin 18, 9 ≤ channel.val →
        oplArray1Base ≤ oplKeyRegister channel := by decide
    unfold keyBit
    rw [htracked.absent habsent.2 _ (hhigh channel habsent.1)]
    rfl
  rw [if_neg habsent]
  by_cases hon : (state.registers (oplKeyRegister channel)).getLsbD 5 = true
  · rw [if_pos hon]
    have hreached : channel.val < 9 ∨ state.isOpl3 = true := by
      by_contra hneither
      obtain ⟨hhigh, hopl3⟩ := not_or.mp hneither
      exact habsent ⟨Nat.not_lt.mp hhigh, eq_false_of_not_eq_true hopl3⟩
    rw [vddOplWriteRegister_key state channel _ hreached]
    have hkeyBit : ∀ other, keyBit (oplWriteKeyBlock
        (oplStore state (oplKeyRegister channel)
          (state.registers (oplKeyRegister channel) &&& ~~~0x20)) channel
        (state.registers (oplKeyRegister channel) &&& ~~~0x20)) other =
        if other = channel then false else keyBit state other := by
      intro other
      have hstored := @store_keyBit state
        (state.registers (oplKeyRegister channel) &&& ~~~0x20) channel other
      have hcleared :
          (state.registers (oplKeyRegister channel) &&& ~~~0x20).getLsbD 5 = false := by simp
      rw [hcleared] at hstored
      rw [← hstored]
      unfold keyBit
      rw [(oplWriteKeyBlock_registers _ channel _).1]
    refine ⟨(oplWriteKeyBlock_obeys htracked hreached).tracked, ?_, fun other hother => ?_⟩
    · rw [hkeyBit, if_pos rfl]
    · rw [hkeyBit, hother, ite_self]
  · rw [if_neg hon]
    exact ⟨htracked, eq_false_of_not_eq_true hon, fun _ hother => hother⟩

theorem foldl_channelOff (channels : List (Fin 18)) :
    ∀ state, Tracked state →
      Tracked (channels.foldl oplChannelOff state) ∧
        ∀ channel, channel ∈ channels ∨ keyBit state channel = false →
          keyBit (channels.foldl oplChannelOff state) channel = false := by
  induction channels with
  | nil =>
    intro state htracked
    refine ⟨htracked, fun channel hoff => ?_⟩
    rcases hoff with hmem | hoff
    · exact absurd hmem not_mem_nil
    · exact hoff
  | cons first channels ih =>
    intro state htracked
    obtain ⟨hstep, hfirst, hothers⟩ := oplChannelOff_step htracked first
    obtain ⟨hrest, hoff⟩ := ih _ hstep
    refine ⟨hrest, fun channel hchannel => hoff channel ?_⟩
    rcases hchannel with hmem | hsilent
    · rcases mem_cons.mp hmem with rfl | hlater
      · exact .inr hfirst
      · exact .inl hlater
    · exact .inr (hothers channel hsilent)

theorem Tracked.silent {state : OplState} (htracked : Tracked state)
    (hkeys : ∀ channel, keyBit state channel = false)
    (hdrums : ∀ bit < 5, (state.registers oplRegisterRhythm).getLsbD bit = false)
    (index : Fin 36) : (state.operators index).envelopeState.sounds = false := by
  have hbit : ∀ index : Fin 36, oplRhythmBit index < 5 := by decide
  rw [← not_eq_true]
  intro hsounds
  have hheld := htracked.sounding index hsounds
  unfold held drumBit at hheld
  rw [hkeys, hdrums _ (hbit index), Bool.and_false, Bool.and_false, Bool.or_false] at hheld
  exact Bool.false_ne_true hheld

theorem vddOplAllNotesOff_silent {state : OplState} (htracked : Tracked state) (index : Fin 36) :
    ((vddOplAllNotesOff state).operators index).envelopeState.sounds = false := by
  have hclear : ∀ bd : BitVec 8, ∀ bit < 5, (bd &&& ~~~0x1F).getLsbD bit = false := by decide
  have hnone : ∀ bd : BitVec 8, bd &&& 0x1F = 0 → ∀ bit < 5, bd.getLsbD bit = false := by decide
  obtain ⟨hreleased, hoff⟩ := foldl_channelOff (finRange 18) state htracked
  have hkeys := fun channel => hoff channel (.inl (mem_finRange channel))
  unfold vddOplAllNotesOff
  generalize (finRange 18).foldl oplChannelOff state = released at hreleased hkeys
  by_cases hdrums : released.registers oplRegisterRhythm &&& 0x1F ≠ 0
  · rw [if_pos hdrums]
    obtain ⟨counted, hcounted, hwritten⟩ := vddOplWriteRegister_rhythm released
      (released.registers oplRegisterRhythm &&& ~~~0x1F)
    have hmoved := oplRhythmRekey_onlyOperatorsMove (released.registers oplRegisterRhythm)
      (oplRhythmChannelKeys released) (released.registers oplRegisterRhythm &&& ~~~0x1F)
      (oplRhythmChannelKeys released) counted
    have hregisters := hwritten.registers.trans (hmoved.registers.trans hcounted.registers)
    refine (vddOplWriteRegister_rhythm_obeys hreleased _).tracked.silent (fun channel => ?_)
      (fun bit hbit => ?_) index
    · have hstored := @store_keyBit_other released oplRegisterRhythm
        (released.registers oplRegisterRhythm &&& ~~~0x1F)
        (fun channel => (oplKeyRegister_facts channel).2.2.2.1) channel
      rw [hkeys] at hstored
      rw [← hstored]
      unfold keyBit
      rw [hregisters]
    · rw [hregisters]
      simpa [oplStore] using hclear (released.registers oplRegisterRhythm) bit hbit
  · rw [if_neg hdrums]
    exact hreleased.silent hkeys (hnone _ (not_not.mp hdrums)) index

/-! ## Every run -/

inductive OplEvent
  | write (registerNumber : Nat) (value : BitVec 8)
  | render (frames : Nat)

def OplEvent.outcome (state : OplState) : OplEvent → OplState
  | .write registerNumber value => vddOplWriteRegister state registerNumber value
  | .render frames => vddOplRender state frames

def OplStep (state : OplState) (event : OplEvent) (after : OplState) : Prop :=
  (∀ registerNumber value, event = .write registerNumber value →
    PairsAtRest state registerNumber value) ∧ after = event.outcome state

theorem vddOplReset_tracked (isOpl3 : Bool) : Tracked (vddOplReset isOpl3) := by
  refine ⟨fun index hsounds => ?_, fun channel _ => ?_, fun channel _ => rfl, fun _ _ _ => rfl⟩
  · exact absurd hsounds Bool.false_ne_true
  · simp [keyBit, vddOplReset]

theorem OplStep.tracked {state : OplState} {event : OplEvent} (htracked : Tracked state)
    (hstep : OplStep state event after) : Tracked after := by
  obtain ⟨hrest, rfl⟩ := hstep
  cases event with
  | write registerNumber value =>
    exact (vddOplWriteRegister_step htracked (hrest registerNumber value rfl)).1
  | render frames => exact (vddOplRender_renders frames state).tracked htracked

/-- In every run that changes the pairing of channels at rest only, an operator sounds only
while a key source that covers it is on, restarts only when these sources rise, is restarted
by no render, and sounds no more when all notes are off. -/
theorem opl_no_operator_left_sounding {isOpl3 : Bool} {events : List OplEvent} {state : OplState}
    (hrun : Run OplStep (vddOplReset isOpl3) events state) :
    (∀ index, (state.operators index).envelopeState.sounds = true → held state index = true) ∧
    (∀ registerNumber value, PairsAtRest state registerNumber value → ∀ index,
      Moves (held state index) (held (vddOplWriteRegister state registerNumber value) index)
        (state.operators index)
        ((vddOplWriteRegister state registerNumber value).operators index)) ∧
    (∀ frames index, ((vddOplRender state frames).operators index).envelopeState = .attack →
      (state.operators index).envelopeState = .attack) ∧
    ∀ index, ((vddOplAllNotesOff state).operators index).envelopeState.sounds = false := by
  have htracked : Tracked state :=
    hrun.invariant Tracked (fun _ _ _ htracked hstep => hstep.tracked htracked)
      (vddOplReset_tracked isOpl3)
  refine ⟨htracked.sounding, fun registerNumber value hrest => ?_, fun frames => ?_,
    vddOplAllNotesOff_silent htracked⟩
  · exact (vddOplWriteRegister_step htracked hrest).2
  · exact (vddOplRender_renders frames state).attacking

theorem opl_note_on_channel_zero :
    held (vddOplWriteRegister (vddOplReset false) 0xB0 0x20) 0 = true ∧
      ((vddOplAllNotesOff (vddOplWriteRegister (vddOplReset false) 0xB0 0x20)).operators
        0).envelopeState.sounds = false := by
  have hstep : OplStep (vddOplReset false) (.write 0xB0 0x20)
      (vddOplWriteRegister (vddOplReset false) 0xB0 0x20) := by
    refine ⟨fun registerNumber value hevent => ?_, rfl⟩
    cases hevent
    exact ⟨fun channel _ hsecond => absurd hsecond (by decide +revert),
      fun channel hsecond => absurd hsecond (by decide +revert)⟩
  obtain ⟨hsounding, -, -, hsilent⟩ := opl_no_operator_left_sounding (.single hstep)
  exact ⟨hsounding 0 (by decide), hsilent 0⟩

/-- NEW set, channels 0 and 3 paired, channel 0 keyed, the pair parted. -/
def partedWhileKeyed : List (Nat × BitVec 8) :=
  [(0x105, 0x01), (0x104, 0x01), (0xB0, 0x20), (0x104, 0x00)]

/-- The operators of channel 3 are left sounding with no key on, and all notes off does not
reach them. -/
theorem opl_operator_stranded :
    ¬∀ writes : List (Nat × BitVec 8),
      (∀ index, ((writes.foldl (fun state write =>
          vddOplWriteRegister state write.1 write.2)
          (vddOplReset true)).operators index).envelopeState.sounds = true →
        held (writes.foldl (fun state write => vddOplWriteRegister state write.1 write.2)
          (vddOplReset true)) index = true) ∧
      ∀ index, ((vddOplAllNotesOff (writes.foldl (fun state write =>
        vddOplWriteRegister state write.1 write.2)
        (vddOplReset true))).operators index).envelopeState.sounds = false := by
  intro hclaim
  have hsilent := (hclaim partedWhileKeyed).2 6
  revert hsilent
  decide +kernel

end Ntvdmex.Vdd.Opl
