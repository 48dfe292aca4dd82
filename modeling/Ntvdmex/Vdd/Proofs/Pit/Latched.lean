import Ntvdmex.Foundation.Runs
import Ntvdmex.Vdd.Proofs.Pit.Ports

/-!
# A latched count is what is read

While a latched count is unread, nothing but a second Counter Latch Command changes the bytes
that the reads of its counter are to return.
-/

namespace Ntvdmex.Vdd.Pit

open Foundation ReadSide List

variable {state : PitState} {counterIndex : Fin 3}

/-! ## The bytes of a latched count -/

variable (side : ReadSide)

def ReadSide.bytesOf (count : Nat) : List UInt8 :=
  let bytes := pitCountBytes side.isBcd count
  if accessInForce side.access = pitAccessLow then [lowByte bytes]
  else if accessInForce side.access = pitAccessHigh then [highByte bytes]
  else [lowByte bytes, highByte bytes]

def ReadSide.unread : List UInt8 :=
  if side.isLatched = false then []
  else if accessInForce side.access ≠ pitAccessLow ∧ accessInForce side.access ≠ pitAccessHigh ∧
      side.isReadHighNext = true then
    [highByte (pitCountBytes side.isBcd side.latch.toNat)]
  else side.bytesOf side.latch.toNat

theorem unread_of_not_latched {side : ReadSide} (h : side.isLatched = false) : side.unread = [] :=
  if_pos h

theorem unread_read {side : ReadSide} (h : side.isLatched = true) (count : Nat) :
    (side.read (side.value count)).1 :: (side.read (side.value count)).2.unread = side.unread := by
  have hvalue : side.value count = pitCountBytes side.isBcd side.latch.toNat := by
    unfold value
    rw [if_pos h]
  have hnot : ¬side.isLatched = false := by
    rw [h]
    decide
  have hne : pitAccessHigh ≠ pitAccessLow := by decide
  rw [hvalue]
  unfold ReadSide.read ReadSide.unread ReadSide.bytesOf
  by_cases hlow : accessInForce side.access = pitAccessLow
  · simp [hlow, hnot]
  · by_cases hhigh : accessInForce side.access = pitAccessHigh
    · simp [hhigh, hne, hnot]
    · by_cases hflip : side.isReadHighNext = true
      · simp [hlow, hhigh, hflip, hnot]
      · simp [hlow, hhigh, hflip, h]

theorem pitWrap_pos (isBcd : Bool) : 0 < pitWrap isBcd ∧ pitWrap isBcd ≤ 65536 := by
  cases isBcd <;> decide

theorem pitCountLaw_lt (mode reload elapsed : Nat) (isBcd : Bool) :
    pitCountLaw mode reload elapsed (pitWrap isBcd) < 65536 := by
  obtain ⟨hpos, hle⟩ := pitWrap_pos isBcd
  unfold pitCountLaw
  split_ifs <;> exact lt_of_lt_of_le (Nat.mod_lt _ hpos) hle

theorem count_lt (state : PitState) (counterIndex : Fin 3) : state.count counterIndex < 65536 := by
  unfold PitState.count
  split_ifs
  · exact pitCountLaw_lt _ _ _ _
  · exact pitCountLaw_lt _ _ _ _

theorem unread_latchCount {count : Nat} (hcount : count < 65536) :
    (side.latchCount count).unread = side.bytesOf count := by
  have htoNat : (UInt16.ofNat count).toNat = count := UInt16.toNat_ofNat_of_lt' hcount
  unfold unread latchCount bytesOf
  simp [htoNat]

/-! ## One access -/

/-- The counter is neither reprogrammed nor given a new count. -/
def Between (counterIndex : Fin 3) : PitAccess → Prop
  | .portOut port byteValue =>
    (port = pitControlPort → controlCounter byteValue = counterIndex.val →
      controlAccess byteValue = pitAccessLatch) ∧ port ≠ counterPort counterIndex
  | _ => True

def LatchesAgain (counterIndex : Fin 3) (state : PitState) : PitAccess → Prop
  | .portOut port byteValue =>
    port = pitControlPort → controlCounter byteValue = counterIndex.val →
      controlAccess byteValue = pitAccessLatch →
        (state.readSide counterIndex).bytesOf (state.count counterIndex) =
          (state.readSide counterIndex).unread
  | _ => True

variable (event : PitAccess)

instance : Decidable (Between counterIndex event) := by
  unfold Between
  split <;> infer_instance

instance : Decidable (LatchesAgain counterIndex state event) := by
  unfold LatchesAgain
  split <;> infer_instance

def ReadsCount (counterIndex : Fin 3) (state : PitState) (event : PitAccess) : Prop :=
  event = .portIn (counterPort counterIndex) ∧ state.statusLatched counterIndex = false
deriving Decidable

theorem readsCount_unread {event : PitAccess}
    (hlatched : (state.readSide counterIndex).isLatched = true)
    (hreads : ReadsCount counterIndex state event) :
    (pitPortIn state (counterPort counterIndex)).1 ::
        ((pitAccess state event).readSide counterIndex).unread =
      (state.readSide counterIndex).unread := by
  obtain ⟨rfl, hstatus⟩ := hreads
  have hread := pitCountRead_readSide state counterIndex
  unfold pitAccess
  dsimp only
  rw [pitPortIn_count state hstatus, hread.1, hread.2]
  exact unread_read hlatched _

theorem not_readsCount_unread {event : PitAccess}
    (hlatched : (state.readSide counterIndex).isLatched = true)
    (hbetween : Between counterIndex event) (hagain : LatchesAgain counterIndex state event)
    (hreads : ¬ReadsCount counterIndex state event) :
    ((pitAccess state event).readSide counterIndex).unread =
      (state.readSide counterIndex).unread := by
  cases event with
  | addClocks clocks => rw [(pitAccess_addClocks_sides state clocks counterIndex).1]
  | counter2Gate isHigh => rw [(pitAccess_counter2Gate_sides state isHigh counterIndex).1]
  | portIn port =>
    unfold pitAccess
    dsimp only
    by_cases hport : port = counterPort counterIndex
    · subst hport
      have hstatus : state.statusLatched counterIndex = true := by
        by_contra h
        exact hreads ⟨rfl, Bool.eq_false_iff.mpr h⟩
      rw [pitPortIn_status state hstatus]
      rfl
    · rw [pitPortIn_other state hport]
  | portOut port byteValue =>
    unfold pitAccess
    dsimp only
    by_cases hport : port = pitControlPort
    · have hwrite : pitPortOut state port byteValue = pitControlWrite state byteValue := if_pos hport
      rw [hwrite, pitControlWrite_readSide]
      by_cases hcounter : controlCounter byteValue = counterIndex.val
      · have haccess := hbetween.1 hport hcounter
        rw [if_pos hcounter, if_pos haccess, unread_latchCount _ (count_lt state counterIndex)]
        exact hagain hport hcounter haccess
      · rw [if_neg hcounter]
        unfold latchFirst
        rw [if_pos hlatched, ite_self]
    · have hkeeps : (pitPortOut state port byteValue).readSide counterIndex =
          state.readSide counterIndex := by
        apply pitPortOut_readSide hport
        rintro rfl hport2
        exact absurd hport2 hbetween.2
      rw [hkeeps]

/-! ## Runs -/

/-- The bytes of the count that a run reads, status bytes left out. -/
def countReads (counterIndex : Fin 3) : PitState → List PitAccess → List UInt8
  | _, [] => []
  | state, event :: rest =>
    (if ReadsCount counterIndex state event then
        [(pitPortIn state (counterPort counterIndex)).1]
      else []) ++
      countReads counterIndex (pitAccess state event) rest

def LeavesLatch (counterIndex : Fin 3) (state : PitState) (event : PitAccess) : Prop :=
  (state.readSide counterIndex).isLatched = true →
    Between counterIndex event ∧ LatchesAgain counterIndex state event
deriving Decidable

theorem countReads_unread {events : List PitAccess}
    (h : Throughout pitAccess state (LeavesLatch counterIndex) events) :
    (countReads counterIndex state events).take (state.readSide counterIndex).unread.length <+:
      (state.readSide counterIndex).unread := by
  induction events generalizing state with
  | nil =>
    unfold countReads
    rw [take_nil]
    exact nil_prefix
  | cons event rest ih =>
    by_cases hlatched : (state.readSide counterIndex).isLatched = true
    · obtain ⟨hbetween, hagain⟩ := h.head hlatched
      have hrest := ih h.tail
      unfold countReads
      by_cases hreads : ReadsCount counterIndex state event
      · rw [if_pos hreads, ← readsCount_unread hlatched hreads, length_cons,
          singleton_append, take_succ_cons]
        exact prefix_cons_inj _ |>.mpr hrest
      · rw [if_neg hreads, nil_append]
        rw [not_readsCount_unread hlatched hbetween hagain hreads] at hrest
        exact hrest
    · rw [unread_of_not_latched (Bool.eq_false_iff.mpr hlatched)]
      exact nil_prefix

def LatchCommand (counterIndex : Fin 3) (command : UInt8) : Prop :=
  (controlCounter command = counterIndex.val ∧ controlAccess command = pitAccessLatch) ∨
    (controlCounter command = pitSelectReadBack ∧ LatchesCount command counterIndex)
deriving Decidable

theorem latchCommand_unread {command : UInt8}
    (hnone : (state.readSide counterIndex).isLatched = false)
    (hlatch : LatchCommand counterIndex command) :
    ((pitPortOut state pitControlPort command).readSide counterIndex).unread =
      (state.readSide counterIndex).bytesOf (state.count counterIndex) := by
  have hwrite : pitPortOut state pitControlPort command = pitControlWrite state command := if_pos rfl
  rw [hwrite, pitControlWrite_readSide]
  rcases hlatch with ⟨hcounter, haccess⟩ | ⟨hcounter, hlatches⟩
  · rw [if_pos hcounter, if_pos haccess]
    exact unread_latchCount _ (count_lt state counterIndex)
  · have hne : ¬controlCounter command = counterIndex.val := by
      have hselect : pitSelectReadBack = 3 := rfl
      omega
    rw [if_neg hne, if_pos ⟨hcounter, hlatches⟩]
    unfold latchFirst
    rw [if_neg (by rw [hnone]; decide)]
    exact unread_latchCount _ (count_lt state counterIndex)

/-- After a count latch with nothing latched before it, the reads of the count return the bytes of
the count at that instant, a latched status byte before them, as long as no Counter Latch Command
latches other bytes than those that are still unread. -/
theorem latched_count_is_read (state : PitState) (counterIndex : Fin 3) (command : UInt8)
    (hnone : (state.readSide counterIndex).isLatched = false)
    (hlatch : LatchCommand counterIndex command) (events : List PitAccess)
    (h : Throughout pitAccess (pitPortOut state pitControlPort command)
      (LeavesLatch counterIndex) events) :
    (countReads counterIndex (pitPortOut state pitControlPort command) events).take
        ((state.readSide counterIndex).bytesOf (state.count counterIndex)).length <+:
      (state.readSide counterIndex).bytesOf (state.count counterIndex) ∧
    ∀ before later, events = before ++ later →
      let reached := before.foldl pitAccess (pitPortOut state pitControlPort command)
      reached.statusLatched counterIndex = true →
        (pitPortIn reached (counterPort counterIndex)).1 = reached.statusLatch counterIndex ∧
        (pitPortIn reached (counterPort counterIndex)).2.readSide counterIndex =
          reached.readSide counterIndex := by
  constructor
  · rw [← latchCommand_unread hnone hlatch]
    exact countReads_unread h
  · intro before later _ reached hstatus
    rw [pitPortIn_status reached hstatus]
    exact ⟨rfl, rfl⟩

theorem latched_count_is_read_counter0 :
    (countReads 0 (pitPortOut vddPitReset pitControlPort 0x00)
        [.addClocks 100, .portOut pitControlPort 0xC2, .portIn 0x40, .portIn 0x40, .portIn 0x40,
          .portOut pitControlPort 0x00, .portIn 0x40]).take
        ((vddPitReset.readSide 0).bytesOf (vddPitReset.count 0)).length <+:
      (vddPitReset.readSide 0).bytesOf (vddPitReset.count 0) :=
  (latched_count_is_read vddPitReset 0 0x00 (by decide) (by decide)
    [.addClocks 100, .portOut pitControlPort 0xC2, .portIn 0x40, .portIn 0x40, .portIn 0x40,
      .portOut pitControlPort 0x00, .portIn 0x40]
    (throughout_of_checkRun (by decide))).1

theorem counterLatch_replaces_latched :
    ¬∀ (state : PitState) (counterIndex : Fin 3) (command : UInt8) (events : List PitAccess),
      (state.readSide counterIndex).isLatched = false → LatchCommand counterIndex command →
      (∀ event ∈ events, Between counterIndex event) →
      (countReads counterIndex (pitPortOut state pitControlPort command) events).take
          ((state.readSide counterIndex).bytesOf (state.count counterIndex)).length <+:
        (state.readSide counterIndex).bytesOf (state.count counterIndex) := by
  intro h
  have hread := h vddPitReset 0 0x00
    [.addClocks 100, .portOut pitControlPort 0x00, .portIn 0x40] (by decide) (by decide)
    (by decide)
  revert hread
  decide

end Ntvdmex.Vdd.Pit
