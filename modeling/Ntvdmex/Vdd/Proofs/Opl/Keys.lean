import Ntvdmex.Vdd.Opl

/-!
# Operators follow their keys

Which key bits hold an operator is read off the registers.  Every write but one that changes
the pairing of channels moves an operator exactly as its hold moves: it restarts when the
hold rises and is released when the hold falls.
-/

namespace Ntvdmex.Vdd.Opl

open List

local instance neZeroKey18 : NeZero 18 := ⟨by decide⟩

variable {state : OplState} {index other : Fin 36} {channel : Fin 18}

def OplEnvelope.sounds : OplEnvelope → Bool
  | .attack | .decay | .sustain => true
  | .off | .release => false

variable (operatorIndex : Fin 36) (operators : List (Fin 36))

def channelOf : Fin 18 :=
  Fin.ofNat 18 (operatorIndex.val / 18 * 9 + operatorIndex.val % 18 / 6 * 3 +
    operatorIndex.val % 3)

def keyBit (state : OplState) (channel : Fin 18) : Bool :=
  (state.registers (oplKeyRegister channel)).getLsbD 5

/-- The channel whose key a channel sounds by: its leader's while it is paired. -/
def governor (state : OplState) (channel : Fin 18) : Fin 18 :=
  if oplFourOperatorRole state channel = .second then channel - 3 else channel

def isDrum : Bool :=
  12 ≤ operatorIndex.val ∧ operatorIndex.val ≤ 17

def drumBit (state : OplState) (operatorIndex : Fin 36) : Bool :=
  isDrum operatorIndex && ((state.registers oplRegisterRhythm).getLsbD 5 &&
    (state.registers oplRegisterRhythm).getLsbD (oplRhythmBit operatorIndex))

def held (state : OplState) (operatorIndex : Fin 36) : Bool :=
  keyBit state (governor state (channelOf operatorIndex)) || drumBit state operatorIndex

/-! ## What the two relations say of one operator -/

def SameVoice (before after : OplOperator) : Prop :=
  after.envelopeState = before.envelopeState ∧ after.phase = before.phase

def Restarted (after : OplOperator) : Prop :=
  after.envelopeState = .attack ∧ after.phase = 0

def Released (before after : OplOperator) : Prop :=
  after.envelopeState.sounds = false ∧ after.phase = before.phase

/-- The operator restarts when its hold rises and is released when it falls. -/
structure Follows (heldBefore heldAfter : Bool) (before after : OplOperator) : Prop where
  steady : heldBefore = heldAfter → SameVoice before after
  rising : heldBefore = false → heldAfter = true → Restarted after
  falling : heldBefore = true → heldAfter = false → Released before after

theorem SameVoice.follows {heldBefore heldAfter : Bool} {before after : OplOperator}
    (hheld : heldBefore = heldAfter) (hsame : SameVoice before after) :
    Follows heldBefore heldAfter before after := by
  subst hheld
  refine ⟨fun _ => hsame, fun hlow hhigh => ?_, fun hhigh hlow => ?_⟩
  · rw [hlow] at hhigh
    exact absurd hhigh (by decide)
  · rw [hhigh] at hlow
    exact absurd hlow (by decide)

/-- Nothing a key source depends on, and no envelope or phase, differs. -/
structure SameKeys (before after : OplState) : Prop where
  registers : after.registers = before.registers
  isOpl3 : after.isOpl3 = before.isOpl3
  voices : ∀ index, SameVoice (before.operators index) (after.operators index)
  keys : ∀ channel, (after.channels channel).isKeyOn = (before.channels channel).isKeyOn

theorem SameKeys.refl (state : OplState) : SameKeys state state :=
  ⟨rfl, rfl, fun _ => ⟨rfl, rfl⟩, fun _ => rfl⟩

theorem sameKeys_setOperator {operator : OplOperator}
    (hsame : SameVoice (state.operators index) operator) :
    SameKeys state (setOperator state index operator) := by
  refine ⟨rfl, rfl, fun other => ?_, fun _ => rfl⟩
  by_cases hindex : other = index
  · subst hindex
    simpa [setOperator] using hsame
  · simp [setOperator, hindex, SameVoice]

theorem sameKeys_setChannel {contents : OplChannel}
    (hkey : contents.isKeyOn = (state.channels channel).isKeyOn) :
    SameKeys state (setChannel state channel contents) := by
  refine ⟨rfl, rfl, fun _ => ⟨rfl, rfl⟩, fun other => ?_⟩
  by_cases hchannel : other = channel
  · subst hchannel
    simpa [setChannel] using hkey
  · simp [setChannel, hchannel]

/-- The role of a channel depends on the two pairing registers only. -/
theorem role_congr {before after : OplState} (hopl3 : after.isOpl3 = before.isOpl3)
    (hfour : after.registers oplRegisterFourOperator = before.registers oplRegisterFourOperator)
    (hnew : after.registers oplRegisterNew = before.registers oplRegisterNew)
    (channel : Fin 18) : oplFourOperatorRole after channel = oplFourOperatorRole before channel := by
  unfold oplFourOperatorRole vddOplIsNewMode
  rw [hopl3, hfour, hnew]

theorem role_second_iff (state : OplState) (channel : Fin 18) :
    oplFourOperatorRole state channel = .second ↔
      3 ≤ channel.val % 9 ∧ channel.val % 9 < 6 ∧
        oplFourOperatorRole state (channel - 3) = .first := by
  unfold oplFourOperatorRole
  cases vddOplIsNewMode state
  · simp
  · generalize state.registers oplRegisterFourOperator = pairing
    revert channel pairing
    decide +kernel

theorem role_first_iff (state : OplState) (channel : Fin 18) :
    oplFourOperatorRole state channel = .first ↔
      channel.val % 9 < 3 ∧ oplFourOperatorRole state (channel + 3) = .second := by
  unfold oplFourOperatorRole
  cases vddOplIsNewMode state
  · simp
  · generalize state.registers oplRegisterFourOperator = pairing
    revert channel pairing
    decide

theorem mem_keyedChannels_iff (hrole : oplFourOperatorRole state channel ≠ .second) (other : Fin 18) :
    other ∈ oplKeyedChannels state channel ↔ governor state other = channel := by
  have hsub : ∀ first second : Fin 18, second - 3 = first ↔ second = first + 3 := by decide
  unfold oplKeyedChannels governor
  by_cases hother : oplFourOperatorRole state other = .second
  · have hfirst := ((role_second_iff state other).mp hother).2.2
    rw [if_pos hother, hsub]
    by_cases hpair : other = channel + 3
    · have hchannel : oplFourOperatorRole state channel = .first := by
        rwa [(hsub channel other).mpr hpair] at hfirst
      rw [if_pos hchannel]
      simp [hpair]
    · have hne : other ≠ channel := by
        rintro rfl
        exact hrole hother
      refine iff_of_false ?_ hpair
      split <;> simp [hne, hpair]
  · rw [if_neg hother]
    by_cases hchannel : oplFourOperatorRole state channel = .first
    · have hsecond := ((role_first_iff state channel).mp hchannel).2
      rw [if_pos hchannel]
      have hne : other ≠ channel + 3 := by
        rintro rfl
        exact hother hsecond
      simp [hne]
    · rw [if_neg hchannel]
      simp

theorem mem_operatorsOf_iff (channels : List (Fin 18)) (index : Fin 36) :
    index ∈ oplOperatorsOf channels ↔ channelOf index ∈ channels := by
  have hone : ∀ (channel : Fin 18) (index : Fin 36),
      index = vddOplOperatorIndex channel false ∨ index = vddOplOperatorIndex channel true ↔
        channelOf index = channel := by decide
  simp only [oplOperatorsOf, mem_flatMap, mem_cons, not_mem_nil, or_false, hone]
  constructor
  · rintro ⟨channel, hmem, rfl⟩
    exact hmem
  · intro hmem
    exact ⟨_, hmem, rfl⟩

/-! ## Restarting and releasing several operators -/

theorem foldl_restart_operators (state : OplState) (index : Fin 36) :
    (operators.foldl oplRestart state).operators index =
      if index ∈ operators then
        { state.operators index with envelopeState := .attack, phase := 0 }
      else state.operators index := by
  induction operators generalizing state with
  | nil => rfl
  | cons operator operators ih =>
    rw [foldl_cons, ih]
    by_cases hindex : index = operator
    · subst hindex
      simp [oplRestart, setOperator]
    · simp [oplRestart, setOperator, hindex]

theorem foldl_release_operators (state : OplState) (index : Fin 36) :
    (operators.foldl oplRelease state).operators index =
      if index ∈ operators then { state.operators index with envelopeState := .release }
      else state.operators index := by
  induction operators generalizing state with
  | nil => rfl
  | cons operator operators ih =>
    rw [foldl_cons, ih]
    by_cases hindex : index = operator
    · subst hindex
      simp [oplRelease, setOperator]
    · simp [oplRelease, setOperator, hindex]

/-- Only the operators differ. -/
structure OnlyOperatorsMove (before after : OplState) : Prop where
  registers : after.registers = before.registers
  isOpl3 : after.isOpl3 = before.isOpl3
  channels : after.channels = before.channels

theorem OnlyOperatorsMove.refl (state : OplState) : OnlyOperatorsMove state state :=
  ⟨rfl, rfl, rfl⟩

theorem OnlyOperatorsMove.trans {first second third : OplState}
    (hfirst : OnlyOperatorsMove first second) (hsecond : OnlyOperatorsMove second third) :
    OnlyOperatorsMove first third :=
  ⟨hsecond.registers.trans hfirst.registers, hsecond.isOpl3.trans hfirst.isOpl3,
    hsecond.channels.trans hfirst.channels⟩

theorem foldl_onlyOperatorsMove {α : Type*} {move : OplState → α → OplState}
    (hmove : ∀ state item, OnlyOperatorsMove state (move state item)) (items : List α)
    (state : OplState) : OnlyOperatorsMove state (items.foldl move state) := by
  induction items generalizing state with
  | nil => exact .refl state
  | cons item items ih => exact (hmove state item).trans (ih _)

theorem oplRestart_onlyOperatorsMove (state : OplState) (index : Fin 36) :
    OnlyOperatorsMove state (oplRestart state index) := ⟨rfl, rfl, rfl⟩

theorem oplRelease_onlyOperatorsMove (state : OplState) (index : Fin 36) :
    OnlyOperatorsMove state (oplRelease state index) := ⟨rfl, rfl, rfl⟩

/-- The operators a key bit governs follow it; the key is latched. -/
structure Keys (channel : Fin 18) (isKeyOn : Bool) (operators : List (Fin 36))
    (before after : OplState) : Prop where
  registers : after.registers = before.registers
  isOpl3 : after.isOpl3 = before.isOpl3
  moved : ∀ index ∈ operators, Follows (before.channels channel).isKeyOn isKeyOn
    (before.operators index) (after.operators index)
  others : ∀ index, index ∉ operators → SameVoice (before.operators index) (after.operators index)
  keys : ∀ other, (after.channels other).isKeyOn =
    if other = channel then isKeyOn else (before.channels other).isKeyOn

theorem setChannel_keys {moved : OplState} {isKeyOn : Bool}
    (hmoved : moved.channels = state.channels) (other : Fin 18) :
    ((setChannel moved channel { moved.channels channel with isKeyOn }).channels
      other).isKeyOn = if other = channel then isKeyOn else (state.channels other).isKeyOn := by
  by_cases hother : other = channel
  · subst hother
    simp [setChannel]
  · simp [setChannel, hother, hmoved]

theorem oplKeyChannel_keys (state : OplState) (channel : Fin 18) (isKeyOn : Bool) :
    Keys channel isKeyOn (oplOperatorsOf (oplKeyedChannels state channel)) state
      (oplKeyChannel state channel isKeyOn) := by
  unfold oplKeyChannel
  dsimp only
  have hrestart := foldl_onlyOperatorsMove oplRestart_onlyOperatorsMove
    (oplOperatorsOf (oplKeyedChannels state channel)) state
  have hrelease := foldl_onlyOperatorsMove oplRelease_onlyOperatorsMove
    (oplOperatorsOf (oplKeyedChannels state channel)) state
  by_cases hrising : isKeyOn = true ∧ (state.channels channel).isKeyOn = false
  · rw [if_pos hrising]
    refine ⟨hrestart.registers, hrestart.isOpl3, ?_, ?_, setChannel_keys hrestart.channels⟩
    · intro index hindex
      rw [hrising.1, hrising.2]
      refine ⟨fun heq => absurd heq (by decide), fun _ _ => ?_, fun heq => absurd heq (by decide)⟩
      simp [setChannel, foldl_restart_operators, hindex, Restarted]
    · intro index hindex
      simp [setChannel, foldl_restart_operators, hindex, SameVoice]
  rw [if_neg hrising]
  by_cases hfalling : isKeyOn = false ∧ (state.channels channel).isKeyOn = true
  · rw [if_pos hfalling]
    refine ⟨hrelease.registers, hrelease.isOpl3, ?_, ?_, setChannel_keys hrelease.channels⟩
    · intro index hindex
      rw [hfalling.1, hfalling.2]
      refine ⟨fun heq => absurd heq (by decide), fun heq => absurd heq (by decide), fun _ _ => ?_⟩
      simp [setChannel, foldl_release_operators, hindex, Released, OplEnvelope.sounds]
    · intro index hindex
      simp [setChannel, foldl_release_operators, hindex, SameVoice]
  · rw [if_neg hfalling]
    refine ⟨rfl, rfl, fun index _ => ?_, fun index _ => ⟨rfl, rfl⟩, setChannel_keys rfl⟩
    refine SameVoice.follows ?_ ⟨rfl, rfl⟩
    revert hrising hfalling
    cases isKeyOn <;> cases (state.channels channel).isKeyOn <;> simp

/-! ## Keying the drums -/

theorem oplKeyOperator_onlyOperatorsMove (state : OplState) (index : Fin 36) (isOn : Bool) :
    OnlyOperatorsMove state (oplKeyOperator state index isOn) := by
  unfold oplKeyOperator
  split
  · exact oplRestart_onlyOperatorsMove _ _
  · split
    · exact oplRelease_onlyOperatorsMove _ _
    · exact .refl _

theorem oplKeyOperator_others (isOn : Bool) (hother : other ≠ index) :
    (oplKeyOperator state index isOn).operators other = state.operators other := by
  unfold oplKeyOperator
  split
  · simp [oplRestart, setOperator, hother]
  · split
    · simp [oplRelease, setOperator, hother]
    · rfl

theorem oplKeyOperator_on (state : OplState) (index : Fin 36) :
    Restarted ((oplKeyOperator state index true).operators index) := by
  simp [oplKeyOperator, oplRestart, setOperator, Restarted]

theorem oplKeyOperator_off (state : OplState) (index : Fin 36) :
    Released (state.operators index) ((oplKeyOperator state index false).operators index) := by
  unfold oplKeyOperator
  rw [if_neg Bool.false_ne_true]
  by_cases hoff : (state.operators index).envelopeState = .off
  · rw [if_neg (not_not.mpr hoff)]
    exact ⟨by rw [hoff]; rfl, rfl⟩
  · rw [if_pos hoff]
    simp [oplRelease, setOperator, Released, OplEnvelope.sounds]

section Rekey

variable (bdBefore : BitVec 8) (channelKeysBefore : Fin 3 → Bool) (bdAfter : BitVec 8)
  (channelKeysAfter : Fin 3 → Bool)

/-- What a re-keying of one drum operator leaves. -/
theorem oplRhythmRekeyOperator_cases (state : OplState) (index : Fin 36) :
    OnlyOperatorsMove state
        (oplRhythmRekeyOperator bdBefore channelKeysBefore bdAfter channelKeysAfter state index) ∧
      (oplRhythmRekeyOperator bdBefore channelKeysBefore bdAfter channelKeysAfter state
        index).operators =
      if oplRhythmHeld index bdBefore channelKeysBefore =
          oplRhythmHeld index bdAfter channelKeysAfter then state.operators
      else
        (oplKeyOperator state index (oplRhythmHeld index bdAfter channelKeysAfter)).operators := by
  unfold oplRhythmRekeyOperator
  dsimp only
  have hkeyed := oplKeyOperator_onlyOperatorsMove state index
    (oplRhythmHeld index bdAfter channelKeysAfter)
  split
  · exact ⟨.refl _, rfl⟩
  · split
    · exact ⟨⟨hkeyed.registers, hkeyed.isOpl3, hkeyed.channels⟩, rfl⟩
    · exact ⟨hkeyed, rfl⟩

theorem oplRhythmRekeyOperator_follows (state : OplState) (index : Fin 36) :
    Follows (oplRhythmHeld index bdBefore channelKeysBefore)
      (oplRhythmHeld index bdAfter channelKeysAfter) (state.operators index)
      ((oplRhythmRekeyOperator bdBefore channelKeysBefore bdAfter channelKeysAfter state
        index).operators index) := by
  rw [(oplRhythmRekeyOperator_cases _ _ _ _ state index).2]
  by_cases hheld : oplRhythmHeld index bdBefore channelKeysBefore =
      oplRhythmHeld index bdAfter channelKeysAfter
  · rw [if_pos hheld]
    exact SameVoice.follows hheld ⟨rfl, rfl⟩
  · rw [if_neg hheld]
    refine ⟨fun heq => absurd heq hheld, fun _ hon => ?_, fun _ hoff => ?_⟩
    · rw [hon]
      exact oplKeyOperator_on state index
    · rw [hoff]
      exact oplKeyOperator_off state index

theorem oplRhythmRekeyOperator_others (hother : other ≠ index) :
    (oplRhythmRekeyOperator bdBefore channelKeysBefore bdAfter channelKeysAfter state
      index).operators other = state.operators other := by
  rw [(oplRhythmRekeyOperator_cases _ _ _ _ state index).2]
  split
  · rfl
  · exact oplKeyOperator_others _ hother

theorem foldl_rekey_operators {operators : List (Fin 36)} (hnodup : operators.Nodup)
    (state : OplState) (index : Fin 36) :
    (index ∈ operators →
      Follows (oplRhythmHeld index bdBefore channelKeysBefore)
        (oplRhythmHeld index bdAfter channelKeysAfter) (state.operators index)
        ((operators.foldl (oplRhythmRekeyOperator bdBefore channelKeysBefore bdAfter
          channelKeysAfter) state).operators index)) ∧
    (index ∉ operators →
      (operators.foldl (oplRhythmRekeyOperator bdBefore channelKeysBefore bdAfter
        channelKeysAfter) state).operators index = state.operators index) := by
  induction operators generalizing state with
  | nil => exact ⟨fun hmem => absurd hmem not_mem_nil, fun _ => rfl⟩
  | cons operator operators ih =>
    obtain ⟨hfresh, hrest⟩ := nodup_cons.mp hnodup
    rw [foldl_cons]
    have hcons := ih hrest (oplRhythmRekeyOperator bdBefore channelKeysBefore bdAfter
      channelKeysAfter state operator)
    constructor
    · intro hmem
      rcases mem_cons.mp hmem with rfl | hlater
      · rw [hcons.2 hfresh]
        exact oplRhythmRekeyOperator_follows _ _ _ _ state index
      · have hne : index ≠ operator := by
          rintro rfl
          exact hfresh hlater
        have hfollows := hcons.1 hlater
        rwa [oplRhythmRekeyOperator_others _ _ _ _ hne] at hfollows
    · intro hmem
      obtain ⟨hne, hlater⟩ := not_or.mp (mt mem_cons.mpr hmem)
      rw [hcons.2 hlater, oplRhythmRekeyOperator_others _ _ _ _ hne]

theorem oplRhythmRekey_onlyOperatorsMove (state : OplState) :
    OnlyOperatorsMove state
      (oplRhythmRekey state bdBefore channelKeysBefore bdAfter channelKeysAfter) :=
  foldl_onlyOperatorsMove
    (fun state index => (oplRhythmRekeyOperator_cases _ _ _ _ state index).1) _ _

theorem mem_rhythmOperators_iff (index : Fin 36) :
    index ∈ oplRhythmOperators ↔ isDrum index = true := by
  revert index
  decide

theorem oplRhythmRekey_operators (state : OplState) (index : Fin 36) :
    (isDrum index = true →
      Follows (oplRhythmHeld index bdBefore channelKeysBefore)
        (oplRhythmHeld index bdAfter channelKeysAfter) (state.operators index)
        ((oplRhythmRekey state bdBefore channelKeysBefore bdAfter
          channelKeysAfter).operators index)) ∧
    (isDrum index = false →
      (oplRhythmRekey state bdBefore channelKeysBefore bdAfter
        channelKeysAfter).operators index = state.operators index) := by
  have hnodup : oplRhythmOperators.Nodup := by decide
  obtain ⟨hin, hout⟩ := foldl_rekey_operators bdBefore channelKeysBefore bdAfter
    channelKeysAfter hnodup state index
  refine ⟨fun hdrum => hin ((mem_rhythmOperators_iff index).mpr hdrum), fun hdrum => hout ?_⟩
  rw [mem_rhythmOperators_iff, hdrum]
  exact Bool.false_ne_true

end Rekey

end Ntvdmex.Vdd.Opl
