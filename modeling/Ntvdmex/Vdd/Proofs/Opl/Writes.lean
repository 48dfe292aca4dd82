import Ntvdmex.Vdd.Proofs.Opl.Keys

/-!
# The register writes that key

A write to a key register or to the rhythm register makes every operator follow its hold,
and leaves the latched keys those of the registers.
-/

namespace Ntvdmex.Vdd.Opl

open Bool SameVoice

/-! ## Writes that move no key -/

theorem SameKeys.trans {first second third : OplState} (hfirst : SameKeys first second)
    (hsecond : SameKeys second third) : SameKeys first third :=
  ⟨hsecond.registers.trans hfirst.registers, hsecond.isOpl3.trans hfirst.isOpl3,
    fun index => ⟨(hsecond.voices index).1.trans (hfirst.voices index).1,
      (hsecond.voices index).2.trans (hfirst.voices index).2⟩,
    fun channel => (hsecond.keys channel).trans (hfirst.keys channel)⟩

theorem sameKeys_writeTimerControl (state : OplState) (value : BitVec 8) :
    SameKeys state (oplWriteTimerControl state value) := by
  unfold oplWriteTimerControl
  split <;> exact ⟨rfl, rfl, fun _ => ⟨rfl, rfl⟩, fun _ => rfl⟩

theorem sameKeys_writeAmVib (state : OplState) (slot : Nat) (index : Fin 36)
    (value : BitVec 8) : SameKeys state (oplWriteAmVib state slot index value) := by
  refine SameKeys.trans ?_ (sameKeys_setOperator ⟨rfl, rfl⟩)
  exact ⟨rfl, rfl, fun _ => ⟨rfl, rfl⟩, fun _ => rfl⟩

section

variable (state : OplState) (index : Fin 36) (value : BitVec 8)

include state index value

theorem sameKeys_writeKslTl :
    SameKeys state (oplWriteKslTl state index value) := by
  exact sameKeys_setOperator ⟨rfl, rfl⟩

theorem sameKeys_writeArDr :
    SameKeys state (oplWriteArDr state index value) := by
  exact sameKeys_setOperator ⟨rfl, rfl⟩

theorem sameKeys_writeSlRr :
    SameKeys state (oplWriteSlRr state index value) := by
  exact sameKeys_setOperator ⟨rfl, rfl⟩

theorem sameKeys_writeWaveform :
    SameKeys state (oplWriteWaveform state index value) := by
  refine SameKeys.trans ?_ (sameKeys_setOperator ⟨rfl, rfl⟩)
  exact ⟨rfl, rfl, fun _ => ⟨rfl, rfl⟩, fun _ => rfl⟩

end

theorem sameKeys_writeOperator {state : OplState} {write : OplState → Nat → Fin 36 → OplState}
    (hwrite : ∀ slot index, SameKeys state (write state slot index))
    (arrayIndex arrayRegister : Nat) :
    SameKeys state (oplWriteOperator state arrayIndex arrayRegister write) := by
  unfold oplWriteOperator
  cases oplOffsetToOperator arrayRegister with
  | none => exact .refl state
  | some slot => exact hwrite _ _

theorem sameKeys_writeStored (state : OplState) {arrayIndex arrayRegister : Nat}
    (oldValue value : BitVec 8) (hkey : ¬(0xB0 ≤ arrayRegister ∧ arrayRegister ≤ 0xB8))
    (hrhythm : ¬(arrayIndex = 0 ∧ arrayRegister = oplRegisterRhythm)) :
    SameKeys state (oplWriteStored state arrayIndex arrayRegister oldValue value) := by
  refine iteInduction (fun _ => .refl state) fun _ => ?_
  refine iteInduction (fun _ => ⟨rfl, rfl, fun _ => ⟨rfl, rfl⟩, fun _ => rfl⟩) fun _ => ?_
  refine iteInduction (fun _ => ⟨rfl, rfl, fun _ => ⟨rfl, rfl⟩, fun _ => rfl⟩) fun _ => ?_
  refine iteInduction (fun _ => sameKeys_writeTimerControl state value) fun _ => ?_
  refine iteInduction (fun _ => sameKeys_writeOperator
    (fun slot index => sameKeys_writeAmVib state slot index value) _ _) fun _ => ?_
  refine iteInduction (fun _ => sameKeys_writeOperator
    (fun _ index => sameKeys_writeKslTl state index value) _ _) fun _ => ?_
  refine iteInduction (fun _ => sameKeys_writeOperator
    (fun _ index => sameKeys_writeArDr state index value) _ _) fun _ => ?_
  refine iteInduction (fun _ => sameKeys_writeOperator
    (fun _ index => sameKeys_writeSlRr state index value) _ _) fun _ => ?_
  refine iteInduction (fun _ => sameKeys_writeOperator
    (fun _ index => sameKeys_writeWaveform state index value) _ _) fun _ => ?_
  refine iteInduction (fun _ => sameKeys_setChannel rfl) fun _ => ?_
  refine iteInduction (fun hin => absurd hin hkey) fun _ => ?_
  refine iteInduction (fun _ => sameKeys_setChannel rfl) fun _ => ?_
  refine iteInduction (fun _ => .refl state) fun harray => ?_
  refine iteInduction
    (fun hregister => absurd ⟨not_not.mp harray, hregister⟩ hrhythm) fun _ => ?_
  exact iteInduction (fun _ => ⟨rfl, rfl, fun _ => ⟨rfl, rfl⟩, fun _ => rfl⟩)
    fun _ => .refl state

theorem oplWriteStored_key (state : OplState) {arrayIndex arrayRegister : Nat}
    (oldValue value : BitVec 8) (hkey : 0xB0 ≤ arrayRegister ∧ arrayRegister ≤ 0xB8) :
    oplWriteStored state arrayIndex arrayRegister oldValue value =
      oplWriteKeyBlock state (Fin.ofNat 18 (arrayRegister - 0xB0 + arrayIndex * 9)) value := by
  unfold oplWriteStored
  rw [if_neg (by lia), if_neg (by lia), if_neg (by lia), if_neg (by lia),
    if_neg (by lia), if_neg (by lia), if_neg (by lia), if_neg (by lia),
    if_neg (by lia), if_neg (by lia), if_pos hkey]

theorem oplWriteStored_rhythm (state : OplState) (oldValue value : BitVec 8) :
    oplWriteStored state 0 oplRegisterRhythm oldValue value =
      { oplRhythmWrite state oldValue value with
        profileBdWrites := (oplRhythmWrite state oldValue value).profileBdWrites + 1
        profileBdOr := (oplRhythmWrite state oldValue value).profileBdOr ||| value } := rfl

theorem oplKeyRegister_facts (channel : Fin 18) :
    oplKeyRegister channel / 256 = channel.val / 9 ∧
    oplKeyRegister channel % 256 = 0xB0 + channel.val % 9 ∧
    oplKeyRegister channel < 0x200 ∧
    oplKeyRegister channel ≠ oplRegisterRhythm ∧
    oplKeyRegister channel ≠ oplRegisterFourOperator ∧
    oplKeyRegister channel ≠ oplRegisterNew := by
  revert channel
  decide

theorem oplKeyRegister_injective (first second : Fin 18)
    (heq : oplKeyRegister first = oplKeyRegister second) : first = second := by
  revert first second
  decide

/-! ## Holds -/

theorem drumBit_of_channel {state : OplState} {index : Fin 36}
    (hdrum : drumBit state index = true) :
    6 ≤ (channelOf index).val ∧ (channelOf index).val ≤ 8 ∧
      (state.registers oplRegisterRhythm).getLsbD 5 = true := by
  have hchannel : ∀ index : Fin 36, isDrum index = true →
      6 ≤ (channelOf index).val ∧ (channelOf index).val ≤ 8 := by decide
  simp only [drumBit, and_eq_true] at hdrum
  obtain ⟨hmin, hmax⟩ := hchannel index hdrum.1
  exact ⟨hmin, hmax, hdrum.2.1⟩

theorem role_ordinary (state : OplState) {channel : Fin 18} (hchannel : 6 ≤ channel.val % 9) :
    oplFourOperatorRole state channel = .ordinary := by
  unfold oplFourOperatorRole
  split
  · rw [if_neg (by lia), if_neg (by lia)]
  · rfl

theorem governor_drum (state : OplState) {index : Fin 36} (hdrum : isDrum index = true) :
    governor state (channelOf index) = channelOf index := by
  have hchannel : ∀ index : Fin 36, isDrum index = true → 6 ≤ (channelOf index).val % 9 := by
    decide
  unfold governor
  rw [role_ordinary state (hchannel index hdrum)]
  rfl

theorem held_drum {state : OplState} {index : Fin 36} (hdrum : isDrum index = true)
    {channelKeys : Fin 3 → Bool}
    (hkeys : ∀ channel : Fin 3, channelKeys channel =
      keyBit state (Fin.ofNat 18 (6 + channel.val))) :
    oplRhythmHeld index (state.registers oplRegisterRhythm) channelKeys = held state index := by
  have hchannel : ∀ index : Fin 36, isDrum index = true →
      Fin.ofNat 18 (6 + (Fin.ofNat 3 (index.val - 12)).val) = channelOf index := by decide
  unfold oplRhythmHeld held drumBit
  rw [governor_drum state hdrum, hkeys, hchannel index hdrum, hdrum, Bool.true_and]

/-- Sounding operators are held, and the latched keys are those of the registers but for
the second channels of pairs, which have none. -/
structure Tracked (state : OplState) : Prop where
  sounding : ∀ index, (state.operators index).envelopeState.sounds = true →
    held state index = true
  latched : ∀ channel, oplFourOperatorRole state channel ≠ .second →
    (state.channels channel).isKeyOn = keyBit state channel
  paired : ∀ channel, oplFourOperatorRole state channel = .second →
    (state.channels channel).isKeyOn = false
  absent : state.isOpl3 = false → ∀ register, oplArray1Base ≤ register →
    state.registers register = 0

theorem Follows.sounding {heldBefore heldAfter : Bool} {before after : OplOperator}
    (hfollows : Follows heldBefore heldAfter before after)
    (hbefore : before.envelopeState.sounds = true → heldBefore = true)
    (hsounds : after.envelopeState.sounds = true) : heldAfter = true := by
  cases heldBefore with
  | false =>
    cases heldAfter with
    | true => rfl
    | false =>
      have hsame := (hfollows.steady rfl).1
      rw [hsame] at hsounds
      exact hbefore hsounds
  | true =>
    cases heldAfter with
    | true => rfl
    | false =>
      have hreleased := (hfollows.falling rfl rfl).1
      rw [hreleased] at hsounds
      exact absurd hsounds Bool.false_ne_true

/-- The hold of an operator depends on the registers and the chip only. -/
theorem held_congr {before after : OplState} (hregisters : after.registers = before.registers)
    (hopl3 : after.isOpl3 = before.isOpl3) (index : Fin 36) :
    held after index = held before index := by
  unfold held governor keyBit drumBit
  rw [hregisters, role_congr hopl3 (by rw [hregisters]) (by rw [hregisters])]

/-! ## A write to a key register -/

section KeyWrite

abbrev oplStoreKey (state : OplState) (channel : Fin 18) (value : BitVec 8) : OplState :=
  oplStore state (oplKeyRegister channel) value

variable {state : OplState} {channel : Fin 18} {value : BitVec 8}

theorem store_role (channel other : Fin 18) :
    oplFourOperatorRole (oplStoreKey state channel value) other =
      oplFourOperatorRole state other := by
  obtain ⟨-, -, -, -, hfour, hnew⟩ := oplKeyRegister_facts channel
  refine @role_congr state (oplStoreKey state channel value) rfl ?_ ?_ other
  · simp [oplStore, Ne.symm hfour]
  · simp [oplStore, Ne.symm hnew]

theorem store_keyBit (channel other : Fin 18) :
    keyBit (oplStoreKey state channel value) other =
      if other = channel then value.getLsbD 5 else keyBit state other := by
  unfold keyBit oplStoreKey oplStore
  by_cases hother : other = channel
  · subst hother
    simp
  · have hregister : oplKeyRegister other ≠ oplKeyRegister channel :=
      fun heq => hother (oplKeyRegister_injective _ _ heq)
    simp [hother, hregister]

theorem store_rhythm (channel : Fin 18) :
    (oplStoreKey state channel value).registers oplRegisterRhythm =
      state.registers oplRegisterRhythm := by
  have hrhythm := (oplKeyRegister_facts channel).2.2.2.1
  simp [oplStore, Ne.symm hrhythm]

theorem store_held (channel : Fin 18) (index : Fin 36) :
    held (oplStoreKey state channel value) index =
      ((if governor state (channelOf index) = channel then value.getLsbD 5
        else keyBit state (governor state (channelOf index))) || drumBit state index) := by
  have hgovernor : governor (oplStoreKey state channel value) (channelOf index) =
      governor state (channelOf index) := by
    unfold governor
    rw [store_role]
  have hdrum : drumBit (oplStoreKey state channel value) index =
      drumBit state index := by
    unfold drumBit
    rw [store_rhythm]
  unfold held
  rw [hgovernor, store_keyBit, hdrum]

/-- What every write leaves: operators that follow their holds, under tracked keys. -/
structure Obeys (before after : OplState) : Prop where
  follows : ∀ index, Follows (held before index) (held after index)
    (before.operators index) (after.operators index)
  tracked : Tracked after

theorem vddOplWriteRegister_key (state : OplState) (channel : Fin 18) (value : BitVec 8)
    (hreached : channel.val < 9 ∨ state.isOpl3 = true) :
    vddOplWriteRegister state (oplKeyRegister channel) value =
      oplWriteKeyBlock (oplStoreKey state channel value) channel value := by
  obtain ⟨harray, hregister, hlt, -, -, -⟩ := oplKeyRegister_facts channel
  have hindex : ∀ channel : Fin 18, Fin.ofNat 18
      (0xB0 + channel.val % 9 - 0xB0 + channel.val / 9 * 9) = channel := by decide
  unfold vddOplWriteRegister
  have hpresent : ¬(channel.val / 9 ≠ 0 ∧ state.isOpl3 = false) := by
    rintro ⟨hhigh, hopl2⟩
    rcases hreached with hlow | hopl3
    · lia
    · rw [hopl2] at hopl3
      exact Bool.false_ne_true hopl3
  rw [if_neg (by lia), harray, if_neg hpresent, hregister,
    oplWriteStored_key _ _ _ (by lia), hindex channel]

/-- The channel keys the re-keying reads are the key bits. -/
theorem rhythmKeys_eq {state : OplState} (htracked : Tracked state) (channel : Fin 3) :
    oplRhythmChannelKeys state channel = keyBit state (Fin.ofNat 18 (6 + channel.val)) := by
  have hhigh : ∀ channel : Fin 3, 6 ≤ (Fin.ofNat 18 (6 + channel.val)).val % 9 := by decide
  apply htracked.latched
  rw [role_ordinary state (hhigh channel)]
  decide

/-- The channel that governs another one has a key of its own. -/
theorem governor_role (state : OplState) (other : Fin 18) :
    oplFourOperatorRole state (governor state other) ≠ .second := by
  unfold governor
  by_cases hother : oplFourOperatorRole state other = .second
  · rw [if_pos hother, ((role_second_iff state other).mp hother).2.2]
    decide
  · rwa [if_neg hother]

variable {after : OplState}

theorem governor_congr {before : OplState}
    (hrole : ∀ channel, oplFourOperatorRole after channel = oplFourOperatorRole before channel)
    (channel : Fin 18) : governor after channel = governor before channel := by
  unfold governor
  rw [hrole]

theorem Tracked.obeys (htracked : Tracked state) (hopl3 : after.isOpl3 = state.isOpl3)
    (hrole : ∀ other, oplFourOperatorRole after other = oplFourOperatorRole state other)
    (hlatched : ∀ other, oplFourOperatorRole state other ≠ .second →
      (after.channels other).isKeyOn = keyBit after other)
    (hpaired : ∀ other, oplFourOperatorRole state other = .second →
      (after.channels other).isKeyOn = (state.channels other).isKeyOn)
    (habsent : state.isOpl3 = false → ∀ register, oplArray1Base ≤ register →
      after.registers register = state.registers register)
    (hfollows : ∀ index, Follows (held state index) (held after index) (state.operators index)
      (after.operators index)) :
    Obeys state after := by
  refine ⟨hfollows, ?_, ?_, ?_, ?_⟩
  · intro index hsounds
    exact (hfollows index).sounding (htracked.sounding index) hsounds
  · intro other hother
    rw [hrole] at hother
    exact hlatched other hother
  · intro other hother
    rw [hrole] at hother
    rw [hpaired other hother]
    exact htracked.paired other hother
  · intro hopl2 register hregister
    rw [hopl3] at hopl2
    rw [habsent hopl2 register hregister]
    exact htracked.absent hopl2 register hregister

/-- A write that leaves the registers stored and latches the key of a channel that has
one of its own. -/
theorem Tracked.obeys_key (htracked : Tracked state)
    (hreached : channel.val < 9 ∨ state.isOpl3 = true)
    (hregisters : after.registers = (oplStoreKey state channel value).registers)
    (hopl3 : after.isOpl3 = state.isOpl3)
    (hkeys : ∀ other, (after.channels other).isKeyOn = if other = channel ∧
      oplFourOperatorRole state channel ≠ .second then value.getLsbD 5 else (state.channels
      other).isKeyOn)
    (hfollows : ∀ index, Follows (held state index) (held (oplStore state (oplKeyRegister channel)
      value) index) (state.operators index) (after.operators index)) :
    Obeys state after := by
  refine htracked.obeys hopl3 ?_ ?_ ?_ ?_ ?_
  · intro other
    have hstored := @role_congr (oplStoreKey state channel value) after hopl3
      (by rw [hregisters]) (by rw [hregisters]) other
    exact hstored.trans (store_role channel other)
  · intro other hother
    have hbit : keyBit after other =
        keyBit (oplStoreKey state channel value) other := by
      unfold keyBit
      rw [hregisters]
    rw [hkeys, hbit, store_keyBit]
    by_cases hchannel : other = channel
    · subst hchannel
      rw [if_pos ⟨rfl, hother⟩, if_pos rfl]
    · rw [if_neg fun h => hchannel h.1, if_neg hchannel]
      exact htracked.latched other hother
  · intro other hother
    rw [hkeys, if_neg]
    rintro ⟨rfl, hown⟩
    exact hown hother
  · intro hopl2 register hregister
    have hlow : channel.val < 9 := by
      rcases hreached with hlow | hopl3
      · exact hlow
      · rw [hopl2] at hopl3
        exact absurd hopl3 Bool.false_ne_true
    have hbelow : ∀ channel : Fin 18, channel.val < 9 → oplKeyRegister channel < oplArray1Base := by
      decide
    have hne : register ≠ oplKeyRegister channel := by
      have := hbelow channel hlow
      omega
    rw [hregisters]
    exact Function.update_of_ne hne _ _
  · intro index
    rw [held_congr hregisters hopl3]
    exact hfollows index

theorem Follows.of_same {heldBefore heldAfter : Bool} {first before after : OplOperator}
    (hsame : SameVoice first before) (hfollows : Follows heldBefore heldAfter before after) :
    Follows heldBefore heldAfter first after := by
  refine ⟨fun heq => ?_, hfollows.rising, fun hhigh hlow => ?_⟩
  · obtain ⟨henvelope, hphase⟩ := hfollows.steady heq
    exact ⟨henvelope.trans hsame.1, hphase.trans hsame.2⟩
  · obtain ⟨henvelope, hphase⟩ := hfollows.falling hhigh hlow
    exact ⟨henvelope, hphase.trans hsame.2⟩

theorem Follows.to_same {heldBefore heldAfter : Bool} {before after last : OplOperator}
    (hfollows : Follows heldBefore heldAfter before after) (hsame : SameVoice after last) :
    Follows heldBefore heldAfter before last := by
  refine ⟨fun heq => ?_, fun hlow hhigh => ?_, fun hhigh hlow => ?_⟩
  · obtain ⟨henvelope, hphase⟩ := hfollows.steady heq
    exact ⟨hsame.1.trans henvelope, hsame.2.trans hphase⟩
  · obtain ⟨henvelope, hphase⟩ := hfollows.rising hlow hhigh
    exact ⟨hsame.1.trans henvelope, hsame.2.trans hphase⟩
  · obtain ⟨henvelope, hphase⟩ := hfollows.falling hhigh hlow
    exact ⟨by rw [hsame.1, henvelope], hsame.2.trans hphase⟩

theorem store_held_other {index : Fin 36}
    (hgovernor : governor state (channelOf index) ≠ channel) :
    held (oplStoreKey state channel value) index = held state index := by
  rw [store_held, if_neg hgovernor]
  rfl

theorem oplWriteKeyBlock_drums (htracked : Tracked state) {tuned : OplState}
    (hsame : SameKeys (oplStoreKey state channel value) tuned)
    (hlow : 6 ≤ channel.val) (hhigh : channel.val ≤ 8) :
    Obeys state
      (oplRhythmRekey
        (setChannel tuned channel { tuned.channels channel with isKeyOn := value.getLsbD 5 })
        (state.registers oplRegisterRhythm) (oplRhythmChannelKeys tuned)
        (state.registers oplRegisterRhythm)
        (oplRhythmChannelKeys (setChannel tuned channel
          { tuned.channels channel with isKeyOn := value.getLsbD 5 }))) := by
  have hordinary : oplFourOperatorRole state channel = .ordinary :=
    role_ordinary state (by lia)
  have hown : oplFourOperatorRole state channel ≠ .second := by
    rw [hordinary]
    decide
  have hmoved := oplRhythmRekey_onlyOperatorsMove (state.registers oplRegisterRhythm)
    (oplRhythmChannelKeys tuned) (state.registers oplRegisterRhythm)
    (oplRhythmChannelKeys (setChannel tuned channel
      { tuned.channels channel with isKeyOn := value.getLsbD 5 }))
    (setChannel tuned channel { tuned.channels channel with isKeyOn := value.getLsbD 5 })
  have hkeyOn : ∀ other, ((setChannel tuned channel
      { tuned.channels channel with isKeyOn := value.getLsbD 5 }).channels other).isKeyOn =
      if other = channel then value.getLsbD 5 else (state.channels other).isKeyOn := by
    intro other
    rw [setChannel_keys rfl]
    by_cases hother : other = channel
    · rw [if_pos hother, if_pos hother]
    · rw [if_neg hother, if_neg hother]
      exact hsame.keys other
  refine htracked.obeys_key (.inl (by lia)) (hmoved.registers.trans hsame.registers)
    (hmoved.isOpl3.trans hsame.isOpl3) ?_ ?_
  · intro other
    rw [hmoved.channels, hkeyOn]
    simp [hown]
  · intro index
    obtain ⟨hdrums, hothers⟩ := oplRhythmRekey_operators (state.registers oplRegisterRhythm)
      (oplRhythmChannelKeys tuned) (state.registers oplRegisterRhythm)
      (oplRhythmChannelKeys (setChannel tuned channel
        { tuned.channels channel with isKeyOn := value.getLsbD 5 }))
      (setChannel tuned channel { tuned.channels channel with isKeyOn := value.getLsbD 5 }) index
    by_cases hdrum : isDrum index = true
    · have hbefore : oplRhythmHeld index (state.registers oplRegisterRhythm)
          (oplRhythmChannelKeys tuned) = held state index := by
        refine held_drum hdrum fun other => ?_
        rw [← rhythmKeys_eq htracked]
        exact hsame.keys _
      have hafter : oplRhythmHeld index (state.registers oplRegisterRhythm)
          (oplRhythmChannelKeys (setChannel tuned channel
            { tuned.channels channel with isKeyOn := value.getLsbD 5 })) =
          held (oplStoreKey state channel value) index := by
        rw [← @store_rhythm state value channel]
        refine held_drum hdrum fun other => ?_
        rw [store_keyBit, ← rhythmKeys_eq htracked]
        exact hkeyOn _
      have hfollows := hdrums hdrum
      rw [hbefore, hafter] at hfollows
      exact hfollows.of_same (hsame.voices index)
    · rw [not_eq_true] at hdrum
      rw [hothers hdrum]
      have hgovernor : governor state (channelOf index) ≠ channel := by
        intro hgovernor
        have hmem := (mem_keyedChannels_iff hown (channelOf index)).mpr hgovernor
        unfold oplKeyedChannels at hmem
        rw [hordinary, if_neg (by decide), List.mem_singleton] at hmem
        have hchannels : ∀ index : Fin 36, 6 ≤ (channelOf index).val →
            (channelOf index).val ≤ 8 → isDrum index = true := by decide
        rw [hchannels index (by lia) (by lia)] at hdrum
        exact absurd hdrum (by decide)
      exact follows (store_held_other hgovernor).symm (hsame.voices index)

theorem oplWriteKeyBlock_obeys (htracked : Tracked state)
    (hreached : channel.val < 9 ∨ state.isOpl3 = true) :
    Obeys state
      (oplWriteKeyBlock (oplStoreKey state channel value) channel value) := by
  have hsame : SameKeys (oplStoreKey state channel value)
      (oplTune (oplStoreKey state channel value) channel value) :=
    sameKeys_setChannel rfl
  unfold oplWriteKeyBlock
  rw [store_rhythm]
  generalize oplTune (oplStoreKey state channel value) channel value = tuned
    at hsame
  have hrole : ∀ other, oplFourOperatorRole tuned other = oplFourOperatorRole state other := by
    intro other
    have hstored := role_congr hsame.isOpl3 (by rw [hsame.registers])
      (by rw [hsame.registers]) other
    exact hstored.trans (store_role channel other)
  by_cases hrhythm : 6 ≤ channel.val ∧ channel.val ≤ 8 ∧
      (state.registers oplRegisterRhythm).getLsbD 5 = true
  · rw [if_pos hrhythm]
    exact oplWriteKeyBlock_drums htracked hsame hrhythm.1 hrhythm.2.1
  rw [if_neg hrhythm, hrole]
  by_cases hsecond : oplFourOperatorRole state channel = .second
  · rw [if_pos hsecond]
    refine htracked.obeys_key hreached hsame.registers hsame.isOpl3 ?_ ?_
    · intro other
      rw [if_neg fun h => h.2 hsecond]
      exact hsame.keys other
    · intro index
      have hgovernor : governor state (channelOf index) ≠ channel := by
        rintro hgovernor
        exact governor_role state (channelOf index) (hgovernor ▸ hsecond)
      exact follows (store_held_other hgovernor).symm (hsame.voices index)
  · rw [if_neg hsecond]
    have hkeyed := oplKeyChannel_keys tuned channel (value.getLsbD 5)
    have hown : oplFourOperatorRole tuned channel ≠ .second := by
      rw [hrole]
      exact hsecond
    refine htracked.obeys_key hreached (hkeyed.registers.trans hsame.registers)
      (hkeyed.isOpl3.trans hsame.isOpl3) ?_ ?_
    · intro other
      rw [hkeyed.keys]
      by_cases hother : other = channel
      · rw [if_pos hother, if_pos ⟨hother, hsecond⟩]
      · rw [if_neg hother, if_neg fun h => hother h.1]
        exact hsame.keys other
    · intro index
      have hmem : index ∈ oplOperatorsOf (oplKeyedChannels tuned channel) ↔
          governor state (channelOf index) = channel := by
        rw [mem_operatorsOf_iff, mem_keyedChannels_iff hown, governor_congr hrole]
      by_cases hgovernor : governor state (channelOf index) = channel
      · have hmoved := hkeyed.moved index (hmem.mpr hgovernor)
        have hdrum : drumBit state index = false := by
          rw [← not_eq_true]
          intro hdrum
          obtain ⟨hmin, hmax, hbit⟩ := drumBit_of_channel hdrum
          have hself := governor_drum state (and_eq_true _ _ ▸ hdrum).1
          rw [hgovernor] at hself
          rw [hself] at hrhythm
          exact hrhythm ⟨hmin, hmax, hbit⟩
        have hbefore : held state index = keyBit state channel := by
          unfold held
          rw [hgovernor, hdrum, Bool.or_false]
        rw [store_held, if_pos hgovernor, hdrum, Bool.or_false, hbefore,
          ← htracked.latched channel hsecond]
        have hlatched : (tuned.channels channel).isKeyOn = (state.channels channel).isKeyOn :=
          hsame.keys channel
        rw [hlatched] at hmoved
        exact hmoved.of_same (hsame.voices index)
      · have hothers := hkeyed.others index (mt hmem.mp hgovernor)
        refine follows (store_held_other hgovernor).symm ?_
        exact ⟨hothers.1.trans (hsame.voices index).1, hothers.2.trans (hsame.voices index).2⟩

end KeyWrite

theorem store_keyBit_other {state : OplState} {registerNumber : Nat} {value : BitVec 8}
    (hkey : ∀ channel, oplKeyRegister channel ≠ registerNumber) (channel : Fin 18) :
    keyBit (oplStore state registerNumber value) channel = keyBit state channel := by
  unfold keyBit
  simp [oplStore, hkey channel]

theorem vddOplWriteRegister_rhythm (state : OplState) (value : BitVec 8) :
    ∃ counted, SameKeys (oplStore state oplRegisterRhythm value) counted ∧
      SameKeys
        (oplRhythmRekey counted (state.registers oplRegisterRhythm)
          (oplRhythmChannelKeys state) value (oplRhythmChannelKeys state))
        (vddOplWriteRegister state oplRegisterRhythm value) := by
  refine ⟨oplCountRhythmHits (oplStore state oplRegisterRhythm value)
    (state.registers oplRegisterRhythm) value, ?_, ?_⟩
  · exact ⟨rfl, rfl, fun _ => ⟨rfl, rfl⟩, fun _ => rfl⟩
  · have hwrite : vddOplWriteRegister state oplRegisterRhythm value =
        oplWriteStored (oplStore state oplRegisterRhythm value) 0 oplRegisterRhythm
          (state.registers oplRegisterRhythm) value := rfl
    rw [hwrite, oplWriteStored_rhythm]
    exact ⟨rfl, rfl, fun _ => ⟨rfl, rfl⟩, fun _ => rfl⟩

theorem vddOplWriteRegister_rhythm_obeys {state : OplState} (htracked : Tracked state)
    (value : BitVec 8) : Obeys state (vddOplWriteRegister state oplRegisterRhythm value) := by
  obtain ⟨counted, hcounted, hwritten⟩ := vddOplWriteRegister_rhythm state value
  have hkeyBit : ∀ channel, keyBit (oplStore state oplRegisterRhythm value) channel =
      keyBit state channel :=
    store_keyBit_other fun channel => (oplKeyRegister_facts channel).2.2.2.1
  have hrole : ∀ channel, oplFourOperatorRole (oplStore state oplRegisterRhythm value) channel =
      oplFourOperatorRole state channel :=
    @role_congr state (oplStore state oplRegisterRhythm value) rfl rfl rfl
  have hmoved := oplRhythmRekey_onlyOperatorsMove (state.registers oplRegisterRhythm)
    (oplRhythmChannelKeys state) value (oplRhythmChannelKeys state) counted
  have hregisters := hwritten.registers.trans (hmoved.registers.trans hcounted.registers)
  have hopl3 := hwritten.isOpl3.trans (hmoved.isOpl3.trans hcounted.isOpl3)
  have hkeys : ∀ channel, ((vddOplWriteRegister state oplRegisterRhythm value).channels
      channel).isKeyOn = (state.channels channel).isKeyOn := by
    intro channel
    rw [hwritten.keys, hmoved.channels]
    exact hcounted.keys channel
  refine htracked.obeys hopl3 (fun channel => ?_) (fun channel hown => ?_)
    (fun channel _ => hkeys channel) (fun _ register hregister => ?_) (fun index => ?_)
  · exact (role_congr hopl3 (by rw [hregisters]) (by rw [hregisters]) channel).trans
      (hrole channel)
  · rw [hkeys, htracked.latched channel hown, ← hkeyBit]
    unfold keyBit
    rw [hregisters]
  · have hne : register ≠ oplRegisterRhythm := by
      have hrhythm : oplRegisterRhythm = 0xBD := rfl
      have hbase : oplArray1Base = 0x100 := rfl
      omega
    rw [hregisters]
    exact Function.update_of_ne hne _ _
  · rw [held_congr hregisters hopl3]
    obtain ⟨hdrums, hothers⟩ := oplRhythmRekey_operators (state.registers oplRegisterRhythm)
      (oplRhythmChannelKeys state) value (oplRhythmChannelKeys state) counted index
    have hvoice := hwritten.voices index
    by_cases hdrum : isDrum index = true
    · have hbefore := held_drum hdrum (rhythmKeys_eq htracked)
      have hnow := @held_drum (oplStore state oplRegisterRhythm value) index hdrum
        (oplRhythmChannelKeys state) fun channel => by
          rw [hkeyBit]
          exact rhythmKeys_eq htracked channel
      have hstored : (oplStore state oplRegisterRhythm value).registers oplRegisterRhythm =
          value := by
        simp [oplStore]
      have hfollows := hdrums hdrum
      rw [hstored] at hnow
      rw [hbefore, hnow] at hfollows
      exact (hfollows.of_same (hcounted.voices index)).to_same hvoice
    · rw [not_eq_true] at hdrum
      rw [hothers hdrum] at hvoice
      refine follows ?_ ⟨hvoice.1.trans (hcounted.voices index).1,
        hvoice.2.trans (hcounted.voices index).2⟩
      unfold held
      rw [hkeyBit, governor_congr hrole]
      simp [drumBit, hdrum]

end Ntvdmex.Vdd.Opl
