import Mathlib

/-!
# A stack of words in a segment

A 32-bit linear memory, a segment addressed by 16-bit offsets, and words pushed downwards in
it.  A word is stored at its offset and at the linear address after it, so a word pushed at
offset `FFFFh` leaves the segment.
-/

namespace Ntvdmex.Foundation.WordStack

open Function Nat

variable (base : BitVec 32) (offset : BitVec 16) (bytes : Nat → BitVec 8) (memory : LinearMemory)

abbrev LinearMemory := BitVec 32 → BitVec 8

def segmentAddress (base : BitVec 32) (offset : BitVec 16) : BitVec 32 := base + offset.setWidth 32

theorem segmentAddress_inj {base : BitVec 32} {left right : BitVec 16} :
    segmentAddress base left = segmentAddress base right ↔ left = right := by
  constructor
  · intro heq
    have hnarrow := congrArg (BitVec.setWidth 16) (add_left_cancel heq)
    simpa using hnarrow
  · intro heq
    rw [heq]

theorem segmentAddress_succ {base : BitVec 32} {offset : BitVec 16} (hlast : offset ≠ 0xFFFF) :
    segmentAddress base offset + 1 = segmentAddress base (offset + 1) := by
  have hlt : offset.toNat + 1 < 2 ^ 16 :=
    Nat.lt_of_le_of_ne offset.isLt fun h => hlast (BitVec.eq_of_toNat_eq (succ.inj h))
  unfold segmentAddress
  rw [add_assoc, ← BitVec.ofNat_toNat, ← BitVec.ofNat_toNat, BitVec.toNat_add_of_lt hlt,
    BitVec.ofNat_add]
  rfl

/-- The offset is one of the `count` below the pointer. -/
def isBelow (pointer : BitVec 16) (count : Nat) (offset : BitVec 16) : Prop :=
  (pointer - 1 - offset).toNat < count

variable {offsets : BitVec 16 → Prop} {pointer : BitVec 16} {before : LinearMemory} {count : Nat}
  {after : LinearMemory}

theorem isBelow_mono {offset : BitVec 16} {few many : Nat} (hle : few ≤ many)
    (hbelow : isBelow pointer few offset) : isBelow pointer many offset :=
  Nat.lt_of_lt_of_le hbelow hle

theorem sub_one_sub_eq (pointer offset : BitVec 16) (gap : Nat) :
    pointer - 1 - offset =
      pointer - BitVec.ofNat 16 gap - 1 - offset + BitVec.ofNat 16 gap := by
  ring

theorem isBelow_shift {offset : BitVec 16} {gap : Nat}
    (hbelow : isBelow (pointer - BitVec.ofNat 16 gap) count offset) :
    isBelow pointer (gap + count) offset := by
  unfold isBelow at hbelow ⊢
  rw [sub_one_sub_eq pointer offset gap, BitVec.toNat_add, BitVec.toNat_ofNat]
  lia

theorem not_isBelow_shift {offset : BitVec 16} {gap : Nat} (hcount : gap + count ≤ 65536)
    (hbelow : isBelow pointer gap offset) :
    ¬isBelow (pointer - BitVec.ofNat 16 gap) count offset := by
  unfold isBelow at hbelow ⊢
  rw [sub_one_sub_eq pointer offset gap, BitVec.toNat_add, BitVec.toNat_ofNat] at hbelow
  omega

theorem isBelow_pushed (pointer : BitVec 16) :
    isBelow pointer 2 (pointer - 2) ∧ isBelow pointer 2 (pointer - 2 + 1) := by
  have hlow : pointer - 1 - (pointer - 2) = 1 := by ring
  have hhigh : pointer - 1 - (pointer - 2 + 1) = 0 := by ring
  unfold isBelow
  rw [hlow, hhigh]
  decide

def ChangesOnly (base : BitVec 32) (offsets : BitVec 16 → Prop) (before after : LinearMemory) :
    Prop :=
  ∀ address, (∀ offset, offsets offset → address ≠ segmentAddress base offset) →
    after address = before address

theorem ChangesOnly.refl (offsets : BitVec 16 → Prop) (memory : LinearMemory) :
    ChangesOnly base offsets memory memory := fun _ _ => rfl

theorem ChangesOnly.trans {base : BitVec 32} {first second third : LinearMemory}
    (hfirst : ChangesOnly base offsets first second)
    (hsecond : ChangesOnly base offsets second third) : ChangesOnly base offsets first third :=
  fun address hout => (hsecond address hout).trans (hfirst address hout)

theorem ChangesOnly.mono {base : BitVec 32} {few many : BitVec 16 → Prop}
    (hchanges : ChangesOnly base few before after) (hsub : ∀ offset, few offset → many offset) :
    ChangesOnly base many before after :=
  fun address hout => hchanges address fun offset hoffset => hout offset (hsub offset hoffset)

theorem ChangesOnly.byte {base : BitVec 32} (hchanges : ChangesOnly base offsets before after)
    {offset : BitVec 16} (hout : ¬offsets offset) :
    after (segmentAddress base offset) = before (segmentAddress base offset) :=
  hchanges _ fun _ hother heq => hout (segmentAddress_inj.mp heq ▸ hother)

def wordAt (memory : LinearMemory) (base : BitVec 32) (offset : BitVec 16) : BitVec 16 :=
  memory (segmentAddress base (offset + 1)) ++ memory (segmentAddress base offset)

theorem ChangesOnly.word {base : BitVec 32} (hchanges : ChangesOnly base offsets before after)
    {offset : BitVec 16} (hlow : ¬offsets offset) (hhigh : ¬offsets (offset + 1)) :
    wordAt after base offset = wordAt before base offset := by
  unfold wordAt
  rw [hchanges.byte hlow, hchanges.byte hhigh]

def wordsAt (memory : LinearMemory) (base : BitVec 32) (offset : BitVec 16) :
    Nat → List (BitVec 16)
  | 0 => []
  | count + 1 => wordAt memory base offset :: wordsAt memory base (offset + 2) count

theorem wordsAt_succ_last (base : BitVec 32) (count : Nat) :
    ∀ offset : BitVec 16, wordsAt memory base offset (count + 1) =
      wordsAt memory base offset count ++
        [wordAt memory base (offset + BitVec.ofNat 16 (2 * count))] := by
  induction count with
  | zero =>
    intro offset
    simp [wordsAt]
  | succ count ih =>
    intro offset
    have hnext : offset + 2 + BitVec.ofNat 16 (2 * count) =
        offset + BitVec.ofNat 16 (2 * (count + 1)) := by
      rw [mul_succ, BitVec.ofNat_add, add_assoc, add_comm 2]
      rfl
    rw [wordsAt, ih (offset + 2), hnext]
    rfl

/-! ## Pushes -/

def pushWord (base : BitVec 32) (stack : LinearMemory × BitVec 16) (value : BitVec 16) :
    LinearMemory × BitVec 16 :=
  let pointer := stack.2 - 2
  let address := segmentAddress base pointer
  (Function.update (Function.update stack.1 address (value.setWidth 8)) (address + 1)
    ((value >>> 8).setWidth 8), pointer)

def pushWords (base : BitVec 32) (stack : LinearMemory × BitVec 16) (values : List (BitVec 16)) :
    LinearMemory × BitVec 16 := values.foldl (pushWord base) stack

/-- No word of that many pushes is stored at offset `FFFFh`. -/
def clearsTop (pointer : BitVec 16) (count : Nat) : Prop :=
  pointer.toNat % 2 = 0 ∨ 2 * count ≤ pointer.toNat
deriving Decidable

theorem clearsTop_first (hclear : clearsTop pointer (count + 1)) : pointer - 2 ≠ 0xFFFF := by
  intro hsub
  rw [sub_eq_iff_eq_add.mp hsub] at hclear
  rcases hclear with heven | hbelow
  · exact absurd heven (by decide)
  · have hone : 2 * (count + 1) ≤ 1 := hbelow
    omega

theorem clearsTop_rest (hclear : clearsTop pointer (count + 1)) :
    clearsTop (pointer - 2) count := by
  unfold clearsTop at hclear ⊢
  by_cases hle : 2 ≤ pointer.toNat
  · have hsub : (pointer - 2).toNat = pointer.toNat - 2 := BitVec.toNat_sub_of_le hle
    rw [hsub]
    lia
  · obtain rfl : pointer = 0 := BitVec.eq_of_toNat_eq (show pointer.toNat = 0 by lia)
    exact .inl rfl

section

variable {base : BitVec 32} {stack : LinearMemory × BitVec 16} (value : BitVec 16)
    (hlast : stack.2 - 2 ≠ 0xFFFF)

include value hlast

theorem pushWord_changes :
    ChangesOnly base (isBelow stack.2 2) stack.1 (pushWord base stack value).1 := by
  intro address hout
  have hlow := hout (stack.2 - 2) (isBelow_pushed _).1
  have hhigh := hout (stack.2 - 2 + 1) (isBelow_pushed _).2
  unfold pushWord
  dsimp only
  rw [segmentAddress_succ hlast, update_of_ne hhigh, update_of_ne hlow]

theorem pushWord_word :
    wordAt (pushWord base stack value).1 base (stack.2 - 2) = value := by
  have hne : segmentAddress base (stack.2 - 2) ≠ segmentAddress base (stack.2 - 2 + 1) := by
    rw [Ne, segmentAddress_inj, left_eq_add]
    decide
  unfold wordAt pushWord
  dsimp only
  rw [segmentAddress_succ hlast, update_self, update_of_ne hne,
    update_self]
  ext i hi
  simp only [BitVec.getElem_append, BitVec.getElem_setWidth, BitVec.getLsbD_ushiftRight]
  split
  · exact (BitVec.getLsbD_eq_getElem hi).trans rfl
  · rw [Nat.add_sub_cancel' (by omega), BitVec.getLsbD_eq_getElem hi]

end

theorem pushWords_spec (values : List (BitVec 16)) :
    ∀ stack : LinearMemory × BitVec 16, clearsTop stack.2 values.length →
      2 * values.length ≤ 65536 →
      (pushWords base stack values).2 = stack.2 - BitVec.ofNat 16 (2 * values.length) ∧
      ChangesOnly base (isBelow stack.2 (2 * values.length)) stack.1
        (pushWords base stack values).1 ∧
      wordsAt (pushWords base stack values).1 base (pushWords base stack values).2 values.length =
        values.reverse := by
  induction values with
  | nil =>
    intro stack _ _
    exact ⟨by simp [pushWords], ChangesOnly.refl _ _ _, rfl⟩
  | cons value values ih =>
    intro stack hclear hlength
    rw [List.length_cons] at hclear hlength ⊢
    have hlast := clearsTop_first hclear
    obtain ⟨hpointer, hchanges, hwords⟩ :=
      ih (pushWord base stack value) (clearsTop_rest hclear) (by lia)
    have hpushed : pushWords base stack (value :: values) =
        pushWords base (pushWord base stack value) values := rfl
    have hbelow : (pushWord base stack value).2 = stack.2 - BitVec.ofNat 16 2 := rfl
    rw [hbelow] at hpointer hchanges
    rw [hpushed]
    refine ⟨?_, ?_, ?_⟩
    · rw [hpointer, sub_sub, ← BitVec.ofNat_add, mul_succ, Nat.add_comm]
    · refine ChangesOnly.trans ((pushWord_changes value hlast).mono fun offset hoffset =>
        isBelow_mono (by lia) hoffset) (hchanges.mono fun offset hoffset => ?_)
      exact isBelow_mono (by lia) (isBelow_shift hoffset)
    · have htop : (pushWords base (pushWord base stack value) values).2 +
          BitVec.ofNat 16 (2 * values.length) = stack.2 - 2 := by
        rw [hpointer, sub_add_cancel]
        rfl
      have hkept : wordAt (pushWords base (pushWord base stack value) values).1 base
          (stack.2 - 2) = wordAt (pushWord base stack value).1 base (stack.2 - 2) :=
        hchanges.word (not_isBelow_shift (by lia) (isBelow_pushed _).1)
          (not_isBelow_shift (by lia) (isBelow_pushed _).2)
      rw [wordsAt_succ_last, hwords, htop, hkept, pushWord_word value hlast, List.reverse_cons]

def storeBytes (base : BitVec 32) (offset : BitVec 16) (bytes : Nat → BitVec 8)
    (memory : LinearMemory) : Nat → LinearMemory
  | 0 => memory
  | count + 1 =>
    Function.update (storeBytes base offset bytes memory count)
      (segmentAddress base (offset + BitVec.ofNat 16 count)) (bytes count)

theorem storeBytes_changes (count : Nat) :
    ChangesOnly base (fun other => (other - offset).toNat < count) memory
      (storeBytes base offset bytes memory count) := by
  induction count with
  | zero => exact ChangesOnly.refl _ _ _
  | succ count ih =>
    intro address hout
    have hhere : address ≠ segmentAddress base (offset + BitVec.ofNat 16 count) := by
      refine hout _ ?_
      have hmod : (offset + BitVec.ofNat 16 count - offset).toNat = count % 65536 := by
        rw [BitVec.add_comm, BitVec.add_sub_cancel, BitVec.toNat_ofNat]
      dsimp only
      rw [hmod]
      exact lt_succ_of_le (mod_le _ _)
    rw [storeBytes, update_of_ne hhere]
    exact ih address fun other hother => hout other (lt_succ_of_lt hother)

theorem storeBytes_byte (hcount : count ≤ 65536) {i : Nat} (hi : i < count) :
    storeBytes base offset bytes memory count
      (segmentAddress base (offset + BitVec.ofNat 16 i)) = bytes i := by
  induction count with
  | zero => lia
  | succ count ih =>
    rw [storeBytes]
    by_cases hlast : i = count
    · rw [hlast, update_self]
    · have hne : segmentAddress base (offset + BitVec.ofNat 16 i) ≠
          segmentAddress base (offset + BitVec.ofNat 16 count) := by
        rw [Ne, segmentAddress_inj, add_right_inj, ← BitVec.toNat_inj, BitVec.toNat_ofNat,
          BitVec.toNat_ofNat]
        lia
      rw [update_of_ne hne]
      exact ih (by lia) (by lia)

end Ntvdmex.Foundation.WordStack
