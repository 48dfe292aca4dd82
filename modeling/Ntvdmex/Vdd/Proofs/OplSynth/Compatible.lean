import Ntvdmex.Vdd.Proofs.Opl.Notes
import Ntvdmex.Vdd.Proofs.OplSynth.Alike

/-!
# An OPL3 that is never switched to OPL3 mode

A write to array 0 moves an OPL3 and an OPL2 alike, and a write to array 1 leaves alone what an
OPL2 has.  So two chips given the same calls, the OPL2 without those to array 1, sound the same.
-/

namespace Ntvdmex.Vdd.Opl

open List Function Prod Alike

variable {condition : Prop} {then3 else3 : OplState} {registerNumber arrayRegister : Nat}

/-! ## Array 0 -/

section Array0

variable {opl3 opl2 : OplState} {channel : Fin 18} {index : Fin 36}

theorem Alike.unselected {selected : Bool} (h : Alike selected opl3 opl2) :
    Alike false opl3 opl2 :=
  { h with selects := fun hselected => absurd hselected Bool.false_ne_true }

theorem Alike.selected (h : Alike false opl3 opl2)
    (hselects : (opl2.registers oplRegisterTest).getLsbD 5 = true) : Alike true opl3 opl2 :=
  { h with selects := fun _ => hselects }

/-- The same branch on both sides. -/
theorem alike_ite [Decidable condition] {then2 else2 : OplState}
    (hthen : condition → Alike false then3 then2) (helse : ¬condition → Alike false else3 else2) :
    Alike false (if condition then then3 else else3) (if condition then then2 else else2) := by
  by_cases hcondition : condition
  · rw [if_pos hcondition, if_pos hcondition]
    exact hthen hcondition
  · rw [if_neg hcondition, if_neg hcondition]
    exact helse hcondition

theorem Alike.store (h : Alike false opl3 opl2) (hregister : registerNumber < oplArray1Base)
    (value : BitVec 8) :
    Alike false (oplStore opl3 registerNumber value) (oplStore opl2 registerNumber value) := by
  have hnew : oplRegisterNew ≠ registerNumber := by
    have hbase : oplArray1Base ≤ oplRegisterNew := by decide
    omega
  refine { h with newClear := ?_, selects := fun hselected => absurd hselected Bool.false_ne_true,
                  registers := fun register hlow => ?_ }
  · simpa [oplStore, update_of_ne hnew] using h.newClear
  · by_cases heq : register = registerNumber
    · simp [oplStore, heq]
    · simp [oplStore, update_of_ne heq, h.registers register hlow]

section

variable (h : Alike false opl3 opl2) (hindex : index.val < 18)

include h hindex

theorem Alike.restart :
    Alike false (oplRestart opl3 index) (oplRestart opl2 index) := by
  unfold oplRestart
  rw [h.operators index hindex]
  exact h.setOperator index _

theorem Alike.release :
    Alike false (oplRelease opl3 index) (oplRelease opl2 index) := by
  unfold oplRelease
  rw [h.operators index hindex]
  exact h.setOperator index _

theorem Alike.keyOperator (isOn : Bool) :
    Alike false (oplKeyOperator opl3 index isOn) (oplKeyOperator opl2 index isOn) := by
  unfold oplKeyOperator
  rw [h.operators index hindex]
  cases isOn with
  | true => exact h.restart hindex
  | false =>
    refine iteInduction (fun hon => absurd hon Bool.false_ne_true) fun _ => ?_
    rw [if_neg Bool.false_ne_true]
    refine iteInduction (fun hsounds => ?_) fun hoff => ?_
    · rw [if_pos hsounds]
      exact h.release hindex
    · rw [if_neg hoff]
      exact h

end

theorem Alike.foldl {α : Type} {move : OplState → α → OplState} {items : List α}
    (hmove : ∀ item ∈ items, ∀ first second, Alike false first second →
      Alike false (move first item) (move second item)) (h : Alike false opl3 opl2) :
    Alike false (items.foldl move opl3) (items.foldl move opl2) := by
  induction items generalizing opl3 opl2 with
  | nil => exact h
  | cons item items ih =>
    exact ih (fun other hother => hmove other (mem_cons_of_mem _ hother))
      (hmove item mem_cons_self _ _ h)

variable (h : Alike false opl3 opl2)

include h

theorem Alike.rekeyOperator (hindex : index.val < 18) (bdBefore bdAfter : BitVec 8)
    (keysBefore keysAfter : Fin 3 → Bool) :
    Alike false (oplRhythmRekeyOperator bdBefore keysBefore bdAfter keysAfter opl3 index)
      (oplRhythmRekeyOperator bdBefore keysBefore bdAfter keysAfter opl2 index) := by
  unfold oplRhythmRekeyOperator
  dsimp only
  generalize oplRhythmHeld index bdBefore keysBefore = wasHeld
  generalize oplRhythmHeld index bdAfter keysAfter = isHeldNow
  have hkeyed := h.keyOperator hindex isHeldNow
  generalize oplKeyOperator opl3 index isHeldNow = keyed3 at *
  generalize oplKeyOperator opl2 index isHeldNow = keyed2 at *
  have hcount := hkeyed.lfoCount
  refine iteInduction (fun hsame => ?_) fun hmoves => ?_
  · rw [if_pos hsame]
    exact h
  · rw [if_neg hmoves]
    refine iteInduction (fun hrestarts => ?_) fun hkeeps => ?_
    · rw [← hcount] at hrestarts
      rw [if_pos hrestarts]
      exact { hkeyed with
        clocks := congrArg (fun clocks => { clocks with
          rhythmRestart := clocks.rhythmRestart ||| if index = 13 then 1 else 2 }) hkeyed.clocks }
    · rw [← hcount] at hkeeps
      rw [if_neg hkeeps]
      exact hkeyed

theorem Alike.rekey (bdBefore bdAfter : BitVec 8) (keysBefore keysAfter : Fin 3 → Bool) :
    Alike false (oplRhythmRekey opl3 bdBefore keysBefore bdAfter keysAfter)
      (oplRhythmRekey opl2 bdBefore keysBefore bdAfter keysAfter) := by
  have hdrums : ∀ index ∈ oplRhythmOperators, index.val < 18 := by decide
  exact foldl (fun index hindex _ _ halike =>
    halike.rekeyOperator (hdrums index hindex) _ _ _ _) h

theorem Alike.channelKeys : oplRhythmChannelKeys opl3 = oplRhythmChannelKeys opl2 := by
  have hdrums : ∀ channel : Fin 3, (Fin.ofNat 18 (6 + channel.val)).val < 9 := by decide
  funext channel
  unfold oplRhythmChannelKeys
  rw [h.channels _ (hdrums channel)]

theorem Alike.rhythmWrite (oldValue value : BitVec 8) :
    Alike false (oplRhythmWrite opl3 oldValue value) (oplRhythmWrite opl2 oldValue value) := by
  have hcounted : Alike false (oplCountRhythmHits opl3 oldValue value)
      (oplCountRhythmHits opl2 oldValue value) := { h with }
  unfold oplRhythmWrite
  rw [h.channelKeys]
  exact hcounted.rekey _ _ _ _

omit h

theorem operatorIndex_lt (hchannel : channel.val < 9) (isCarrier : Bool) :
    (vddOplOperatorIndex channel isCarrier).val < 18 := by
  unfold vddOplOperatorIndex
  cases isCarrier <;> simp [Fin.ofNat] <;> omega

theorem mem_operatorsOf_lt (hchannel : channel.val < 9) :
    ∀ index ∈ oplOperatorsOf [channel], index.val < 18 := by
  intro index hindex
  simp only [oplOperatorsOf, flatMap_cons, flatMap_nil, append_nil, mem_cons,
    not_mem_nil, or_false] at hindex
  rcases hindex with rfl | rfl
  · exact operatorIndex_lt hchannel false
  · exact operatorIndex_lt hchannel true

section

variable (h : Alike false opl3 opl2) (hchannel : channel.val < 9)

include h hchannel

theorem Alike.keyChannel (isKeyOn : Bool) :
    Alike false (oplKeyChannel opl3 channel isKeyOn) (oplKeyChannel opl2 channel isKeyOn) := by
  have hindexes := mem_operatorsOf_lt hchannel
  have hrestarted : Alike false ((oplOperatorsOf [channel]).foldl oplRestart opl3)
      ((oplOperatorsOf [channel]).foldl oplRestart opl2) := foldl (fun index hindex _ _ halike =>
    halike.restart (hindexes index hindex)) h
  have hreleased : Alike false ((oplOperatorsOf [channel]).foldl oplRelease opl3)
      ((oplOperatorsOf [channel]).foldl oplRelease opl2) := foldl (fun index hindex _ _ halike =>
    halike.release (hindexes index hindex)) h
  have hlatch : ∀ first second, Alike false first second →
      Alike false (Opl.setChannel first channel { first.channels channel with isKeyOn })
        (Opl.setChannel second channel { second.channels channel with isKeyOn }) := by
    intro first second hsame
    rw [hsame.channels channel hchannel]
    exact hsame.setChannel channel _
  unfold oplKeyChannel oplKeyedChannels
  rw [(h.role channel).1, (h.role channel).2]
  refine hlatch _ _ ?_
  rw [h.channels channel hchannel]
  refine iteInduction (fun hon => ?_) fun hnotOn => ?_
  · rw [if_pos hon]
    exact { hrestarted with }
  · rw [if_neg hnotOn]
    refine iteInduction (fun hoff => ?_) fun hstays => ?_
    · rw [if_pos hoff]
      exact hreleased
    · rw [if_neg hstays]
      exact h

theorem Alike.tune (value : BitVec 8) :
    Alike false (oplTune opl3 channel value) (oplTune opl2 channel value) := by
  unfold oplTune
  rw [h.channels channel hchannel]
  exact h.setChannel channel _

theorem Alike.writeKeyBlock (value : BitVec 8) :
    Alike false (oplWriteKeyBlock opl3 channel value) (oplWriteKeyBlock opl2 channel value) := by
  have htuned := h.tune hchannel value
  unfold oplWriteKeyBlock
  dsimp only
  generalize oplTune opl3 channel value = tuned3 at *
  generalize oplTune opl2 channel value = tuned2 at *
  rw [h.rhythm, (htuned.role channel).1, (htuned.role channel).2]
  refine iteInduction (fun hdrum => ?_) fun hmelodic => ?_
  · have hkeyed : Alike false
        (Opl.setChannel tuned3 channel { tuned3.channels channel with isKeyOn := value.getLsbD 5 })
        (Opl.setChannel tuned2 channel { tuned2.channels channel with isKeyOn := value.getLsbD 5 }) := by
      rw [htuned.channels channel hchannel]
      exact htuned.setChannel channel _
    rw [if_pos hdrum, htuned.channelKeys, hkeyed.channelKeys]
    exact hkeyed.rekey _ _ _ _
  · rw [if_neg hmelodic, if_neg (by decide), if_neg (by decide)]
    exact htuned.keyChannel hchannel _

end

theorem Alike.writeOperator {write : OplState → Nat → Fin 36 → OplState} (h : Alike false opl3 opl2)
    (hwrite : ∀ slot index, index.val < 18 → Alike false (write opl3 slot index) (write opl2 slot
      index)) :
    Alike false (oplWriteOperator opl3 0 arrayRegister write)
      (oplWriteOperator opl2 0 arrayRegister write) := by
  unfold oplWriteOperator
  cases hslot : oplOffsetToOperator arrayRegister with
  | none => exact h
  | some slot =>
    refine hwrite slot _ ?_
    unfold oplOffsetToOperator at hslot
    dsimp only at hslot
    split at hslot
    · cases hslot
    · cases hslot
      simp only [Fin.ofNat]
      omega

section

variable (h : Alike false opl3 opl2) (value : BitVec 8)

include h value

theorem Alike.writeTimer1 :
    Alike false (oplWriteTimer1 opl3 value) (oplWriteTimer1 opl2 value) := by
  have hclocks := h.clocks
  simp only [oplClocks, OplClocks.mk.injEq, mk.injEq] at hclocks
  refine { h with clocks := ?_ }
  simp only [oplClocks, oplWriteTimer1, hclocks]

theorem Alike.writeTimer2 :
    Alike false (oplWriteTimer2 opl3 value) (oplWriteTimer2 opl2 value) := by
  have hclocks := h.clocks
  simp only [oplClocks, OplClocks.mk.injEq, mk.injEq] at hclocks
  refine { h with clocks := ?_ }
  simp only [oplClocks, oplWriteTimer2, hclocks]

theorem Alike.writeTimerControl :
    Alike false (oplWriteTimerControl opl3 value) (oplWriteTimerControl opl2 value) := by
  have hclocks := h.clocks
  simp only [oplClocks, OplClocks.mk.injEq, mk.injEq] at hclocks
  refine alike_ite (fun _ => { h with clocks := ?_ }) fun _ => { h with clocks := ?_ }
  · simp only [oplClocks, hclocks]
  · simp only [oplClocks, hclocks]

end

theorem Alike.writeStored (h : Alike false opl3 opl2) (arrayRegister : Nat)
    (oldValue value : BitVec 8) :
    Alike false (oplWriteStored opl3 0 arrayRegister oldValue value)
      (oplWriteStored opl2 0 arrayRegister oldValue value) := by
  have hset : ∀ (index : Fin 36) (move : OplOperator → OplOperator), index.val < 18 →
      Alike false (Opl.setOperator opl3 index (move (opl3.operators index)))
        (Opl.setOperator opl2 index (move (opl2.operators index))) := by
    intro index move hindex
    rw [h.operators index hindex]
    exact h.setOperator index _
  have hlow : ∀ base, arrayRegister ≤ base + 8 →
      (Fin.ofNat 18 (arrayRegister - base + 0 * 9)).val < 9 := by
    intro base hle
    simp only [Fin.ofNat]
    omega
  refine alike_ite (fun harray1 => absurd rfl harray1.1) fun _ => ?_
  refine alike_ite (fun _ => h.writeTimer1 value) fun _ => ?_
  refine alike_ite (fun _ => h.writeTimer2 value) fun _ => ?_
  refine alike_ite (fun _ => h.writeTimerControl value) fun _ => ?_
  refine alike_ite (fun _ => h.writeOperator fun slot index hindex => ?_) fun _ => ?_
  · exact { hset index (fun operator => { operator with
      amplitudeModulation := value.getLsbD 7
      vibrato := value.getLsbD 6
      envelopeType := value.getLsbD 5
      keyScaleRate := value.getLsbD 4
      multiplier := value &&& 0x0F }) hindex with }
  refine alike_ite (fun _ => h.writeOperator fun slot index hindex => ?_) fun _ => ?_
  · exact hset index (fun operator => { operator with
      keyScaleLevel := value >>> 6, totalLevel := value &&& 0x3F }) hindex
  refine alike_ite (fun _ => h.writeOperator fun slot index hindex => ?_) fun _ => ?_
  · exact hset index (fun operator => { operator with
      attackRate := value >>> 4, decayRate := value &&& 0x0F }) hindex
  refine alike_ite (fun _ => h.writeOperator fun slot index hindex => ?_) fun _ => ?_
  · exact hset index (fun operator => { operator with
      sustainLevel := value >>> 4, releaseRate := value &&& 0x0F }) hindex
  refine alike_ite (fun _ => h.writeOperator fun slot index hindex => ?_) fun _ => ?_
  · exact { hset index (fun operator => { operator with waveform := value &&& 7 }) hindex with }
  refine alike_ite (fun hrange => ?_) fun _ => ?_
  · unfold oplWriteFNumberLow
    rw [h.channels _ (hlow 0xA0 hrange.2)]
    exact h.setChannel _ _
  refine alike_ite (fun hrange => h.writeKeyBlock (hlow 0xB0 hrange.2) value) fun _ => ?_
  refine alike_ite (fun hrange => ?_) fun _ => ?_
  · unfold oplWriteFeedback
    rw [h.channels _ (hlow 0xC0 hrange.2)]
    exact h.setChannel _ _
  refine alike_ite (fun harray1 => absurd rfl harray1) fun _ => ?_
  refine alike_ite (fun _ => { h.rhythmWrite oldValue value with }) fun _ => ?_
  exact alike_ite (fun _ => { h with }) fun _ => h

end Array0

/-! ## Array 1 -/

section Array1

variable {opl3 opl2 : OplState} {channel : Fin 18} {index : Fin 36}

theorem alike_ite_left [Decidable condition] (hthen : condition → Alike false then3 opl2)
    (helse : ¬condition → Alike false else3 opl2) :
    Alike false (if condition then then3 else else3) opl2 := by
  by_cases hcondition : condition
  · rw [if_pos hcondition]
    exact hthen hcondition
  · rw [if_neg hcondition]
    exact helse hcondition

theorem Alike.store_left (h : Alike false opl3 opl2) {value : BitVec 8}
    (hregister : oplArray1Base ≤ registerNumber)
    (hnew : registerNumber = oplRegisterNew → value.getLsbD 0 = false) :
    Alike false (oplStore opl3 registerNumber value) opl2 := by
  refine { h with newClear := ?_, registers := fun register hlow => ?_ }
  · by_cases heq : oplRegisterNew = registerNumber
    · subst heq
      simpa [oplStore] using hnew rfl
    · simpa [oplStore, update_of_ne heq] using h.newClear
  · have hne : register ≠ registerNumber := by omega
    simp [oplStore, update_of_ne hne, h.registers register hlow]

theorem operatorIndex_ge (hchannel : 9 ≤ channel.val) (isCarrier : Bool) :
    18 ≤ (vddOplOperatorIndex channel isCarrier).val := by
  unfold vddOplOperatorIndex
  cases isCarrier <;> simp [Fin.ofNat] <;> omega

theorem Alike.foldl_left {move : OplState → Fin 36 → OplState} {items : List (Fin 36)}
    (hmove : ∀ item ∈ items, ∀ first, Alike false first opl2 → Alike false (move first item) opl2)
    (h : Alike false opl3 opl2) : Alike false (items.foldl move opl3) opl2 := by
  induction items generalizing opl3 with
  | nil => exact h
  | cons item items ih =>
    exact ih (fun other hother => hmove other (mem_cons_of_mem _ hother))
      (hmove item mem_cons_self _ h)

variable (h : Alike false opl3 opl2)

include h

theorem Alike.keyChannel_left (hchannel : 9 ≤ channel.val) (isKeyOn : Bool) :
    Alike false (oplKeyChannel opl3 channel isKeyOn) opl2 := by
  have hindexes : ∀ index ∈ oplOperatorsOf [channel], 18 ≤ index.val := by
    intro index hindex
    simp only [oplOperatorsOf, flatMap_cons, flatMap_nil, append_nil,
      mem_cons, not_mem_nil, or_false] at hindex
    rcases hindex with rfl | rfl
    · exact operatorIndex_ge hchannel false
    · exact operatorIndex_ge hchannel true
  have hrestarted : Alike false ((oplOperatorsOf [channel]).foldl oplRestart opl3) opl2 :=
    h.foldl_left fun index hindex _ halike => halike.setOperator_left (hindexes index hindex) _
  have hreleased : Alike false ((oplOperatorsOf [channel]).foldl oplRelease opl3) opl2 :=
    h.foldl_left fun index hindex _ halike => halike.setOperator_left (hindexes index hindex) _
  unfold oplKeyChannel oplKeyedChannels
  rw [(h.role channel).1]
  refine setChannel_left ?_ hchannel _
  refine alike_ite_left (fun _ => { hrestarted with }) fun _ => ?_
  exact alike_ite_left (fun _ => hreleased) fun _ => h

theorem Alike.writeKeyBlock_left (hchannel : 9 ≤ channel.val) (value : BitVec 8) :
    Alike false (oplWriteKeyBlock opl3 channel value) opl2 := by
  have htuned : Alike false (oplTune opl3 channel value) opl2 := h.setChannel_left hchannel _
  unfold oplWriteKeyBlock
  dsimp only
  generalize oplTune opl3 channel value = tuned3 at *
  rw [(htuned.role channel).1]
  refine alike_ite_left (fun hdrum => absurd hdrum.2.1 (by omega)) fun _ => ?_
  rw [if_neg (by decide)]
  exact htuned.keyChannel_left hchannel _

theorem Alike.writeOperator_left {write : OplState → Nat → Fin 36 → OplState}
    (hwrite : ∀ slot index, 18 ≤ index.val → Alike false (write opl3 slot index) opl2) :
    Alike false (oplWriteOperator opl3 1 arrayRegister write) opl2 := by
  unfold oplWriteOperator
  cases hslot : oplOffsetToOperator arrayRegister with
  | none => exact h
  | some slot =>
    refine hwrite slot _ ?_
    unfold oplOffsetToOperator at hslot
    dsimp only at hslot
    split at hslot
    · cases hslot
    · cases hslot
      simp only [Fin.ofNat]
      omega

theorem Alike.writeStored_left (arrayRegister : Nat) (oldValue value : BitVec 8) :
    Alike false (oplWriteStored opl3 1 arrayRegister oldValue value) opl2 := by
  have hhigh : ∀ base, base ≤ arrayRegister → arrayRegister ≤ base + 8 →
      9 ≤ (Fin.ofNat 18 (arrayRegister - base + 1 * 9)).val := by
    intro base hge hle
    simp only [Fin.ofNat]
    omega
  refine alike_ite_left (fun _ => h) fun hdecoded => ?_
  have hregister : 0x20 ≤ arrayRegister := by
    by_contra hlow
    exact hdecoded ⟨by decide, by omega⟩
  iterate 3 refine alike_ite_left (fun heq => absurd heq (by omega)) fun _ => ?_
  refine alike_ite_left (fun _ => h.writeOperator_left fun slot index hindex => ?_) fun _ => ?_
  · have hprofiled : Alike false { opl3 with
        profileAmOperators :=
          if value.getLsbD 7 then opl3.profileAmOperators ||| 1 <<< slot
          else opl3.profileAmOperators
        profileVibratoOperators :=
          if value.getLsbD 6 then opl3.profileVibratoOperators ||| 1 <<< slot
          else opl3.profileVibratoOperators } opl2 := { h with }
    exact hprofiled.setOperator_left hindex _
  iterate 3
    refine alike_ite_left (fun _ => h.writeOperator_left fun _ index hindex =>
      h.setOperator_left hindex _) fun _ => ?_
  refine alike_ite_left (fun _ => h.writeOperator_left fun _ index hindex => ?_) fun _ => ?_
  · have hprofiled : Alike false
        { opl3 with profileWaveMask := opl3.profileWaveMask ||| 1 <<< (value &&& 7).toNat }
        opl2 := { h with }
    exact hprofiled.setOperator_left hindex _
  refine alike_ite_left (fun hrange => h.setChannel_left (hhigh 0xA0 hrange.1 hrange.2) _)
    fun _ => ?_
  refine alike_ite_left (fun hrange => h.writeKeyBlock_left (hhigh 0xB0 hrange.1 hrange.2) value)
    fun _ => ?_
  refine alike_ite_left (fun hrange => h.setChannel_left (hhigh 0xC0 hrange.1 hrange.2) _)
    fun _ => ?_
  exact alike_ite_left (fun _ => h) fun harray => absurd (by decide) harray

end Array1

section Writes

variable {opl3 opl2 : OplState}

theorem Alike.writeRegister (h : Alike false opl3 opl2)
    (hregister : registerNumber < oplArray1Base ∨ 0x200 ≤ registerNumber) (value : BitVec 8) :
    Alike false (vddOplWriteRegister opl3 registerNumber value)
      (vddOplWriteRegister opl2 registerNumber value) := by
  refine alike_ite (fun _ => h) fun hdecoded => ?_
  have hlow : registerNumber < oplArray1Base := hregister.resolve_right hdecoded
  have harray : registerNumber / 256 = 0 := Nat.div_eq_of_lt hlow
  rw [harray, if_neg (fun h => h.1 rfl), if_neg (fun h => h.1 rfl), h.registers registerNumber hlow]
  exact (h.store hlow value).writeStored _ _ _

theorem Alike.writeRegister_left (h : Alike false opl3 opl2) {value : BitVec 8}
    (hlow : oplArray1Base ≤ registerNumber) (hhigh : registerNumber < 0x200)
    (hnew : registerNumber = oplRegisterNew → value.getLsbD 0 = false) :
    Alike false (vddOplWriteRegister opl3 registerNumber value) opl2 := by
  have harray : registerNumber / 256 = 1 := by
    unfold oplArray1Base at hlow
    lia
  unfold vddOplWriteRegister
  rw [if_neg (by lia), harray, h.fitted3, if_neg (by simp)]
  exact (h.store_left hlow hnew).writeStored_left _ _ _

end Writes

section Time

variable {opl3 opl2 : OplState}

theorem Alike.runTimer1 (h : Alike false opl3 opl2) (microseconds : BitVec 32) :
    Alike false (oplRunTimer1 opl3 microseconds) (oplRunTimer1 opl2 microseconds) := by
  have hclocks := h.clocks
  simp only [oplClocks, OplClocks.mk.injEq, mk.injEq] at hclocks
  unfold oplRunTimer1
  rw [hclocks.1.2.2.1]
  refine alike_ite (fun _ => { h with clocks := ?_ }) fun _ => h
  simp only [oplClocks, hclocks]

theorem Alike.runTimer2 (h : Alike false opl3 opl2) (microseconds : BitVec 32) :
    Alike false (oplRunTimer2 opl3 microseconds) (oplRunTimer2 opl2 microseconds) := by
  have hclocks := h.clocks
  simp only [oplClocks, OplClocks.mk.injEq, mk.injEq] at hclocks
  unfold oplRunTimer2
  rw [hclocks.1.2.2.2.1]
  refine alike_ite (fun _ => { h with clocks := ?_ }) fun _ => h
  simp only [oplClocks, hclocks]

theorem Alike.status {selected : Bool} (h : Alike selected opl3 opl2) :
    opl3.status = opl2.status := by
  have hclocks := h.clocks
  simp only [oplClocks, OplClocks.mk.injEq, mk.injEq] at hclocks
  exact hclocks.1.2.2.2.2.2.2.2.2

end Time

/-! ## Runs -/

inductive OplCall
  | write (registerNumber : Nat) (value : BitVec 8)
  | render (frames : Nat)
  | renderStereo (frames : Nat)
  | addMicroseconds (microseconds : BitVec 32)
  | readStatus (isAbsent : Bool)
deriving DecidableEq

inductive OplOutput
  | samples (values : List Int)
  | status (value : BitVec 8)
deriving DecidableEq

def oplCall (synth : OplSynth) : OplCall → OplSynth × List OplOutput
  | .write registerNumber value =>
    ({ synth with chip := vddOplWriteRegister synth.chip registerNumber value }, [])
  | .render frames =>
    let (played, samples) := vddOplPlay synth frames
    (played, [.samples samples])
  | .renderStereo frames =>
    let (played, samples) := vddOplPlayStereo synth frames
    (played, [.samples samples])
  | .addMicroseconds microseconds =>
    ({ synth with chip := vddOplAddMicroseconds synth.chip microseconds }, [])
  | .readStatus isAbsent => (synth, [.status (vddOplReadStatus isAbsent synth.chip)])

def oplOutputs (synth : OplSynth) : List OplCall → List OplOutput
  | [] => []
  | call :: calls => (oplCall synth call).2 ++ oplOutputs (oplCall synth call).1 calls

def OplCall.isArray1 : OplCall → Bool
  | .write registerNumber _ => decide (oplArray1Base ≤ registerNumber ∧ registerNumber < 0x200)
  | _ => false

def OplCall.isRender : OplCall → Bool
  | .render _ => true
  | .renderStereo _ => true
  | _ => false

def OplCall.selects (isSelected : Bool) : OplCall → Bool
  | .write registerNumber value =>
    if registerNumber = oplRegisterTest then value.getLsbD 5 else isSelected
  | _ => isSelected

def RendersSelected (isSelected : Bool) : List OplCall → Prop
  | [] => True
  | call :: calls =>
    (call.isRender = true → isSelected = true) ∧ RendersSelected (call.selects isSelected) calls

instance decidableRendersSelected (isSelected : Bool) :
    (calls : List OplCall) → Decidable (RendersSelected isSelected calls)
  | [] => inferInstanceAs (Decidable True)
  | call :: calls =>
    have := decidableRendersSelected (call.selects isSelected) calls
    inferInstanceAs (Decidable (_ ∧ _))

/-- Bit 0 of register 105h is never set. -/
def KeepsOpl2Mode (calls : List OplCall) : Prop :=
  ∀ value, .write oplRegisterNew value ∈ calls → value.getLsbD 0 = false

/-- The same samples, or status bytes that differ in bits 1 and 2 only. -/
inductive SameOutput : OplOutput → OplOutput → Prop
  | samples (values : List Int) : SameOutput (.samples values) (.samples values)
  | status {value3 value2 : BitVec 8} (h : value3 &&& ~~~0x06 = value2 &&& ~~~0x06) :
      SameOutput (.status value3) (.status value2)

section Runs

variable {opl3 opl2 : OplSynth}

/-- Between calls: chips alike, and the same last samples. -/
structure AlikeBetween (isSelected : Bool) (opl3 opl2 : OplSynth) : Prop where
  chip : Alike false opl3.chip opl2.chip
  selected : (opl2.chip.registers oplRegisterTest).getLsbD 5 = isSelected
  output1 : ∀ index : Fin 36, index.val < 18 → opl3.output1 index = opl2.output1 index
  output2 : ∀ index : Fin 36, index.val < 18 → opl3.output2 index = opl2.output2 index

theorem AlikeBetween.sounds (h : AlikeBetween true opl3 opl2) : SoundsAlike opl3 opl2 :=
  ⟨h.chip.selected h.selected, h.output1, h.output2⟩

theorem SoundsAlike.between (h : SoundsAlike opl3 opl2) : AlikeBetween true opl3 opl2 :=
  ⟨h.chip.unselected, h.chip.selects rfl, h.output1, h.output2⟩

theorem oplWriteStored_registers (state : OplState) (arrayIndex arrayRegister : Nat)
    (oldValue value : BitVec 8) :
    (oplWriteStored state arrayIndex arrayRegister oldValue value).registers = state.registers := by
  by_cases hkey : 0xB0 ≤ arrayRegister ∧ arrayRegister ≤ 0xB8
  · rw [oplWriteStored_key state oldValue value hkey]
    exact (oplWriteKeyBlock_registers state _ value).1
  · by_cases hrhythm : arrayIndex = 0 ∧ arrayRegister = oplRegisterRhythm
    · obtain ⟨rfl, rfl⟩ := hrhythm
      rw [oplWriteStored_rhythm]
      exact (oplRhythmRekey_onlyOperatorsMove _ _ _ _ (oplCountRhythmHits state oldValue value)).registers
    · exact (sameKeys_writeStored state oldValue value hkey hrhythm).registers

/-- Only a write to register 01h moves the waveform select. -/
theorem vddOplWriteRegister_select (state : OplState) (registerNumber : Nat) (value : BitVec 8) :
    ((vddOplWriteRegister state registerNumber value).registers oplRegisterTest).getLsbD 5 =
      if registerNumber = oplRegisterTest then value.getLsbD 5
      else (state.registers oplRegisterTest).getLsbD 5 := by
  by_cases htest : registerNumber = oplRegisterTest
  · subst htest
    rw [if_pos rfl, vddOplWriteRegister, if_neg (by decide), if_neg (fun h => h.1 (by decide)),
      oplWriteStored_registers]
    simp [oplStore]
  · have hstore : (oplStore state registerNumber value).registers oplRegisterTest =
        state.registers oplRegisterTest := update_of_ne (Ne.symm htest) _ _
    rw [if_neg htest]
    unfold vddOplWriteRegister
    split
    · rfl
    · split
      · rfl
      · rw [oplWriteStored_registers, hstore]

theorem identification_masked (status : BitVec 8) :
    (status ||| 0) &&& ~~~0x06 = (status ||| 0x06) &&& ~~~0x06 := by
  apply BitVec.eq_of_getLsbD_eq
  intro bit hbit
  interval_cases bit <;> simp

section

variable {isSelected : Bool} (h : AlikeBetween isSelected opl3 opl2)

include h

theorem AlikeBetween.call {call : OplCall} (harray : call.isArray1 = false)
    (hrender : call.isRender = true → isSelected = true) :
    AlikeBetween (call.selects isSelected) (oplCall opl3 call).1 (oplCall opl2 call).1 ∧
      List.Forall₂ SameOutput (oplCall opl3 call).2 (oplCall opl2 call).2 := by
  cases call with
  | write registerNumber value =>
    have hregister : registerNumber < oplArray1Base ∨ 0x200 ≤ registerNumber := by
      have hnot := of_decide_eq_false harray
      omega
    refine ⟨⟨h.chip.writeRegister hregister value, ?_, h.output1, h.output2⟩, .nil⟩
    dsimp only [oplCall, OplCall.selects]
    rw [vddOplWriteRegister_select, h.selected]
  | render frames =>
    have hselected := hrender rfl
    subst hselected
    obtain ⟨hplayed, hsamples⟩ := h.sounds.play frames
    refine ⟨hplayed.between, .cons ?_ .nil⟩
    rw [hsamples]
    exact .samples _
  | renderStereo frames =>
    have hselected := hrender rfl
    subst hselected
    obtain ⟨hplayed, hsamples⟩ := h.sounds.playBoth frames
    refine ⟨hplayed.between, .cons ?_ .nil⟩
    rw [hsamples]
    exact .samples _
  | addMicroseconds microseconds =>
    have hchip := (h.chip.runTimer1 microseconds).runTimer2 microseconds
    have hregisters : (vddOplAddMicroseconds opl2.chip microseconds).registers =
        opl2.chip.registers := by
      unfold vddOplAddMicroseconds oplRunTimer2 oplRunTimer1
      split <;> split <;> rfl
    refine ⟨⟨hchip, ?_, h.output1, h.output2⟩, .nil⟩
    dsimp only [oplCall]
    rw [hregisters]
    exact h.selected
  | readStatus isAbsent =>
    refine ⟨h, .cons (.status ?_) .nil⟩
    unfold vddOplReadStatus
    rw [h.chip.status, h.chip.fitted3, h.chip.fitted2]
    cases isAbsent with
    | true => rfl
    | false => exact identification_masked _

theorem AlikeBetween.call_left {call : OplCall} (harray : call.isArray1 = true)
    (hnew : ∀ value, call = .write oplRegisterNew value → value.getLsbD 0 = false) :
    AlikeBetween (call.selects isSelected) (oplCall opl3 call).1 opl2 ∧
      (oplCall opl3 call).2 = [] := by
  cases call with
  | write registerNumber value =>
    obtain ⟨hlow, hhigh⟩ := of_decide_eq_true harray
    have hchip := h.chip.writeRegister_left hlow hhigh fun heq => hnew value (by rw [heq])
    refine ⟨⟨hchip, ?_, h.output1, h.output2⟩, rfl⟩
    have htest : registerNumber ≠ oplRegisterTest := by
      rintro rfl
      exact absurd hlow (by decide)
    dsimp only [OplCall.selects]
    rw [if_neg htest]
    exact h.selected
  | render _ => cases harray
  | renderStereo _ => cases harray
  | addMicroseconds _ => cases harray
  | readStatus _ => cases harray

theorem AlikeBetween.outputs {calls : List OplCall} (hnew : KeepsOpl2Mode calls)
    (hselected : RendersSelected isSelected calls) :
    List.Forall₂ SameOutput (oplOutputs opl3 calls)
      (oplOutputs opl2 (calls.filter fun call => !call.isArray1)) := by
  induction calls generalizing opl3 opl2 isSelected with
  | nil => exact .nil
  | cons call calls ih =>
    have hnewHead : ∀ value, call = .write oplRegisterNew value → value.getLsbD 0 = false :=
      fun value heq => hnew value (by rw [heq]; exact mem_cons_self)
    have hnewTail : KeepsOpl2Mode calls :=
      fun value hmem => hnew value (mem_cons_of_mem _ hmem)
    cases harray : call.isArray1 with
    | true =>
      obtain ⟨hnext, hnothing⟩ := h.call_left harray hnewHead
      rw [filter_cons_of_neg (by simp [harray]), oplOutputs, hnothing, nil_append]
      exact ih hnext hnewTail hselected.2
    | false =>
      obtain ⟨hnext, hsame⟩ := h.call harray hselected.1
      rw [filter_cons_of_pos (by simp [harray]), oplOutputs, oplOutputs]
      exact rel_append hsame (ih hnext hnewTail hselected.2)

end

end Runs

theorem vddOplSynthReset_alike :
    AlikeBetween false (vddOplSynthReset true) (vddOplSynthReset false) where
  chip :=
    { fitted3 := rfl
      fitted2 := rfl
      newClear := rfl
      selects := fun hselected => absurd hselected Bool.false_ne_true
      registers := fun _ _ => rfl
      operators := fun _ _ => rfl
      channels := fun _ _ => rfl
      clocks := rfl }
  selected := rfl
  output1 := fun _ _ => rfl
  output2 := fun _ _ => rfl

/-- Whatever is written to both arrays with NEW never set and the waveform select on at every
render, an OPL3 gives the samples of an OPL2 that is not sent the writes to array 1, and status
bytes that differ in the identification bits only. -/
theorem opl3_in_opl2_mode_is_opl2 (calls : List OplCall) (hnew : KeepsOpl2Mode calls)
    (hselected : RendersSelected false calls) :
    List.Forall₂ SameOutput (oplOutputs (vddOplSynthReset true) calls)
      (oplOutputs (vddOplSynthReset false) (calls.filter fun call => !call.isArray1)) :=
  vddOplSynthReset_alike.outputs hnew hselected

/-- A note with waveform 2 on channel 0, and one on channel 9 that is not heard. -/
def noteOnBothArrays : List OplCall :=
  [.write 0x01 0x20, .write 0x23 0x01, .write 0x63 0xF0, .write 0xE3 0x06, .write 0xA0 0x41,
    .write 0x163 0xF0, .write 0x104 0x01, .write 0x1B0 0x32, .write 0xB0 0x32,
    .addMicroseconds 80, .render 2, .readStatus false]

theorem opl3_note_on_both_arrays :
    KeepsOpl2Mode noteOnBothArrays ∧
      List.Forall₂ SameOutput (oplOutputs (vddOplSynthReset true) noteOnBothArrays)
        (oplOutputs (vddOplSynthReset false)
          (noteOnBothArrays.filter fun call => !call.isArray1)) := by
  have hnew : KeepsOpl2Mode noteOnBothArrays := by
    intro value hmem
    simp [noteOnBothArrays, oplRegisterNew] at hmem
  exact ⟨hnew, opl3_in_opl2_mode_is_opl2 noteOnBothArrays hnew (by decide)⟩

end Ntvdmex.Vdd.Opl
