import Ntvdmex.Host.Proofs.Arithmetic.Sums

/-!
# Shifts and rotates, and what the 16-bit interpreter makes of them

The shift and rotate operations of group 2 on bit vectors, one bit at a time and by a count.
-/

namespace Ntvdmex.Host

open Foundation BitVec Option Nat

/-- What `ROL`, `ROR`, `SHL`, `SHR` and `SAR` do to the bits of an operand. -/
inductive ShiftKind where
  | rotateLeft
  | rotateRight
  | left
  | right
  | arithmetic
deriving DecidableEq

namespace ShiftKind

variable {n : Nat}

def apply (kind : ShiftKind) (count : Nat) (x : BitVec n) : BitVec n :=
  match kind with
  | rotateLeft => x.rotateLeft count
  | rotateRight => x.rotateRight count
  | left => x <<< count
  | right => x >>> count
  | arithmetic => x.sshiftRight count

/-- The bit that the next step moves out of the operand. -/
def out (kind : ShiftKind) (x : BitVec n) : Bool :=
  match kind with
  | rotateLeft | left => x.msb
  | rotateRight | right | arithmetic => x.getLsbD 0

def isRotate : ShiftKind → Bool
  | rotateLeft | rotateRight => true
  | left | right | arithmetic => false

def overflow (kind : ShiftKind) (x : BitVec n) : Bool :=
  match kind with
  | rotateLeft | left => (kind.apply 1 x).msb ^^ x.msb
  | rotateRight => (x.rotateRight 1).msb ^^ (x.rotateRight 1).getLsbD (n - 2)
  | right => x.msb
  | arithmetic => false

def carry (kind : ShiftKind) (count : Nat) (x : BitVec n) : Bool :=
  kind.out (kind.apply (count - 1) x)

end ShiftKind

def shiftKind (operation : Nat) : Option ShiftKind :=
  if operation = x86ShiftRol then some .rotateLeft
  else if operation = x86ShiftRor then some .rotateRight
  else if operation = x86ShiftShl ∨ operation = x86ShiftSal then some .left
  else if operation = x86ShiftShr then some .right
  else if operation = x86ShiftSar then some .arithmetic
  else none

/-! ## Bits of rotated operands -/

section Rotates

variable {n : Nat}

theorem rotated_index (bit count : Nat) (hpos : 0 < n) :
    (((bit + (n - count % n)) % n : Nat) : Int) = ((bit : Int) - count) % n := by
  have hmod : count % n < n := mod_lt _ hpos
  have hdiv : (n : Int) * (count / n : Nat) + (count % n : Nat) = count := by
    exact_mod_cast div_add_mod count n
  rw [Int.natCast_mod, cast_add, cast_sub hmod.le]
  apply Int.emod_emod_of_dvd _ (dvd_refl _) |>.symm.trans
  rw [Int.emod_emod_of_dvd _ (dvd_refl _)]
  apply Int.ModEq.eq
  apply (Int.modEq_iff_dvd.mpr ?_).symm
  refine ⟨1 + (count / n : Nat), ?_⟩
  linarith

theorem getLsbD_rotateLeft_eq (x : BitVec n) (count : Nat) {bit : Nat} (hbit : bit < n) :
    (x.rotateLeft count).getLsbD bit = x.getLsbD ((bit + (n - count % n)) % n) := by
  rw [getLsbD_rotateLeft]
  by_cases hlt : bit < count % n
  · have hindex : (bit + (n - count % n)) % n = n - count % n + bit := by
      rw [mod_eq_of_lt (a := bit + (n - count % n)) (by lia), Nat.add_comm]
    rw [decide_eq_true hlt, cond_true, hindex]
  · have hindex : (bit + (n - count % n)) % n = bit - count % n := by
      rw [mod_eq_sub_mod (a := bit + (n - count % n)) (by lia),
        mod_eq_of_lt (a := bit + (n - count % n) - n) (by lia)]
      lia
    rw [decide_eq_false hlt, cond_false, decide_eq_true hbit, Bool.true_and, hindex]

theorem getLsbD_rotateRight_eq (x : BitVec n) (count : Nat) {bit : Nat} (hbit : bit < n) :
    (x.rotateRight count).getLsbD bit = x.getLsbD ((bit + count) % n) := by
  have hmod : count % n < n := mod_lt _ (by lia)
  rw [getLsbD_rotateRight, ← add_mod_mod]
  by_cases hlt : bit < n - count % n
  · have hindex : (bit + count % n) % n = count % n + bit := by
      rw [mod_eq_of_lt (a := bit + count % n) (by lia), Nat.add_comm]
    rw [decide_eq_true hlt, cond_true, hindex]
  · have hindex : (bit + count % n) % n = bit - (n - count % n) := by
      rw [mod_eq_sub_mod (a := bit + count % n) (by lia),
        mod_eq_of_lt (a := bit + count % n - n) (by lia)]
      lia
    rw [decide_eq_false hlt, cond_false, decide_eq_true hbit, Bool.true_and, hindex]

theorem rotateLeft_succ (x : BitVec n) (count : Nat) :
    x.rotateLeft (1 + count) = (x.rotateLeft 1).rotateLeft count := by
  apply eq_of_getLsbD_eq
  intro bit hbit
  have hpos : 0 < n := by omega
  rw [getLsbD_rotateLeft_eq x _ hbit, getLsbD_rotateLeft_eq _ _ hbit,
    getLsbD_rotateLeft_eq _ _ (mod_lt _ hpos)]
  apply congrArg x.getLsbD
  apply Int.ofNat.inj
  have hboth := rotated_index bit (1 + count) hpos
  have hcount := rotated_index bit count hpos
  have hone := rotated_index ((bit + (n - count % n)) % n) 1 hpos
  rw [hcount] at hone
  refine (hboth.trans ?_).trans hone.symm
  rw [Int.emod_sub_emod]
  apply congrArg (· % (n : Int))
  push_cast
  ring

theorem rotateRight_succ (x : BitVec n) (count : Nat) :
    x.rotateRight (1 + count) = (x.rotateRight 1).rotateRight count := by
  apply eq_of_getLsbD_eq
  intro bit hbit
  have hpos : 0 < n := by omega
  rw [getLsbD_rotateRight_eq x _ hbit, getLsbD_rotateRight_eq _ _ hbit,
    getLsbD_rotateRight_eq _ _ (mod_lt _ hpos), mod_add_mod]
  exact congrArg (fun index => x.getLsbD (index % n)) (by omega)

end Rotates

namespace ShiftKind

variable {n : Nat} (kind : ShiftKind) (x : BitVec n)

/-- One step, and then the rest of them. -/
theorem apply_succ (count : Nat) : kind.apply (1 + count) x = kind.apply count (kind.apply 1 x) := by
  cases kind with
  | rotateLeft => exact rotateLeft_succ x count
  | rotateRight => exact rotateRight_succ x count
  | left => exact shiftLeft_add x 1 count
  | right => exact shiftRight_add x 1 count
  | arithmetic => exact sshiftRight_add

theorem apply_zero : kind.apply 0 x = x := by
  cases kind with
  | rotateLeft =>
    apply eq_of_getLsbD_eq
    intro bit hbit
    refine (getLsbD_rotateLeft_eq x 0 hbit).trans ?_
    rw [zero_mod, Nat.sub_zero, add_mod_right, mod_eq_of_lt hbit]
  | rotateRight =>
    apply eq_of_getLsbD_eq
    intro bit hbit
    refine (getLsbD_rotateRight_eq x 0 hbit).trans ?_
    rw [Nat.add_zero, mod_eq_of_lt hbit]
  | left => exact shiftLeft_zero x
  | right => exact ushiftRight_zero x
  | arithmetic => exact sshiftRight_zero

end ShiftKind

/-!
## Shifts of the 16-bit interpreter

A bit at a time, with the carry handed on.
-/

open V86

/-! ## Operands in a word of 32 bits -/

def lowBits (width : Width) (value : Dword) : BitVec width.bits := value.setWidth width.bits

theorem bits_le (width : Width) : width.bits ≤ 32 := by cases width <;> decide

theorem getLsbD_embed {width : Width} (x : BitVec width.bits) (bit : Nat) :
    (x.setWidth 32).getLsbD bit = x.getLsbD bit := by
  have hle := bits_le width
  rw [getLsbD_setWidth]
  by_cases hbit : bit < 32
  · rw [decide_eq_true hbit, Bool.true_and]
  · rw [decide_eq_false hbit, Bool.false_and, getLsbD_of_ge x bit (by omega)]

theorem getLsbD_widthMask (width : Width) (bit : Nat) :
    (widthMask width).getLsbD bit = decide (bit < width.bits) := by
  have hle := bits_le width
  by_cases hbit : bit < 32
  · cases width <;> simp only [Width.bits, Width.bytes] <;> interval_cases bit <;> rfl
  · rw [getLsbD_of_ge _ _ (by omega), decide_eq_false (by omega)]

theorem and_widthMask_eq (value : Dword) (width : Width) :
    value &&& widthMask width = (lowBits width value).setWidth 32 := by
  apply eq_of_getLsbD_eq
  intro bit hbit
  rw [getLsbD_embed, getLsbD_and, getLsbD_widthMask, lowBits, getLsbD_setWidth,
    Bool.and_comm]

theorem hasFlag_embed {width : Width} (x : BitVec width.bits) :
    hasFlag (x.setWidth 32) (widthSignBit width) = x.msb := by
  rw [hasFlag_widthSignBit, getLsbD_embed, msb_eq_getLsbD_last]
  rfl

theorem getLsbD_widthSignBit (width : Width) (bit : Nat) :
    (widthSignBit width).getLsbD bit = decide (bit = width.bits - 1) := by
  have hle := bits_le width
  by_cases hbit : bit < 32
  · cases width <;> simp only [Width.bits, Width.bytes] <;> interval_cases bit <;> rfl
  · rw [getLsbD_of_ge _ _ (by omega), decide_eq_false (by omega)]

theorem getLsbD_one (bit : Nat) : (1 : Dword).getLsbD bit = decide (bit = 0) := by
  by_cases hbit : bit < 32
  · interval_cases bit <;> rfl
  · rw [getLsbD_of_ge _ _ (by omega), decide_eq_false (by omega)]

section OneStep

variable {width : Width} (x : BitVec width.bits)

theorem shiftLeft_step (low : Bool) (y : BitVec width.bits)
    (hbits : ∀ bit < width.bits, y.getLsbD bit = if bit = 0 then low else x.getLsbD (bit - 1)) :
    (x.setWidth 32 <<< 1 ||| flagIf low 1) &&& widthMask width = y.setWidth 32 := by
  apply eq_of_getLsbD_eq
  intro bit hbit
  rw [getLsbD_embed, getLsbD_and, getLsbD_widthMask, getLsbD_or,
    getLsbD_shiftLeft, getLsbD_flagIf, getLsbD_one, getLsbD_embed, decide_eq_true hbit,
    Bool.true_and]
  by_cases hlt : bit < width.bits
  · rw [hbits bit hlt, decide_eq_true hlt, Bool.and_true]
    by_cases hzero : bit = 0
    · subst hzero
      simp
    · rw [if_neg hzero, decide_eq_false hzero, decide_eq_false (by lia)]
      simp
  · rw [decide_eq_false hlt, Bool.and_false, getLsbD_of_ge y bit (by lia)]

theorem shiftRight_step (high : Bool) (y : BitVec width.bits)
    (hbits : ∀ bit < width.bits,
      y.getLsbD bit = if bit = width.bits - 1 then high else x.getLsbD (bit + 1)) :
    (x.setWidth 32 >>> 1 ||| flagIf high (widthSignBit width)) &&& widthMask width =
      y.setWidth 32 := by
  apply eq_of_getLsbD_eq
  intro bit hbit
  rw [getLsbD_embed, getLsbD_and, getLsbD_widthMask, getLsbD_or,
    getLsbD_ushiftRight, getLsbD_flagIf, getLsbD_widthSignBit, getLsbD_embed]
  by_cases hlt : bit < width.bits
  · rw [hbits bit hlt, decide_eq_true hlt, Bool.and_true]
    by_cases hlast : bit = width.bits - 1
    · rw [if_pos hlast, decide_eq_true hlast, getLsbD_of_ge x (1 + bit) (by lia)]
      simp
    · rw [if_neg hlast, decide_eq_false hlast, Nat.add_comm]
      simp
  · rw [decide_eq_false hlt, Bool.and_false, getLsbD_of_ge y bit (by lia)]

theorem v86ShiftOne_eq {operation : Nat} {kind : ShiftKind}
    (hkind : shiftKind operation = some kind) (carry : Bool) :
    v86ShiftOne operation width (x.setWidth 32) carry =
      ((kind.apply 1 x).setWidth 32, kind.out x) := by
  have hpos : 0 < width.bits := by cases width <;> decide
  have hlow : (x.setWidth 32).getLsbD 0 = x.getLsbD 0 := getLsbD_embed x 0
  have hhigh : hasFlag (x.setWidth 32) (widthSignBit width) = x.msb := hasFlag_embed x
  have hmsb : x.msb = x.getLsbD (width.bits - 1) := msb_eq_getLsbD_last x
  have hone : 1 % width.bits = 1 := by cases width <;> rfl
  unfold shiftKind at hkind
  unfold v86ShiftOne
  dsimp only
  rw [hlow, hhigh]
  by_cases hrol : operation = x86ShiftRol
  · rw [if_pos hrol] at hkind
    obtain rfl := some.inj hkind
    rw [if_pos hrol]
    refine Prod.ext (shiftLeft_step x x.msb _ fun bit hbit => ?_) rfl
    refine (getLsbD_rotateLeft_eq x 1 hbit).trans ?_
    rw [hone]
    by_cases hzero : bit = 0
    · rw [if_pos hzero, hzero, Nat.zero_add, mod_eq_of_lt (by lia), hmsb]
    · rw [if_neg hzero, mod_eq_sub_mod (by lia), mod_eq_of_lt (by lia)]
      exact congrArg x.getLsbD (by lia)
  rw [if_neg hrol] at hkind
  rw [if_neg hrol]
  by_cases hror : operation = x86ShiftRor
  · rw [if_pos hror] at hkind
    obtain rfl := some.inj hkind
    rw [if_pos hror]
    refine Prod.ext (shiftRight_step x (x.getLsbD 0) _ fun bit hbit => ?_) rfl
    refine (getLsbD_rotateRight_eq x 1 hbit).trans ?_
    by_cases hlast : bit = width.bits - 1
    · rw [if_pos hlast, hlast, Nat.sub_add_cancel hpos, mod_self]
    · rw [if_neg hlast, mod_eq_of_lt (by lia)]
  rw [if_neg hror] at hkind
  rw [if_neg hror]
  by_cases hshl : operation = x86ShiftShl ∨ operation = x86ShiftSal
  · rw [if_pos hshl] at hkind
    obtain rfl := some.inj hkind
    have hrcl : ¬operation = x86ShiftRcl := by
      rcases hshl with h | h <;> rw [h] <;> decide
    have hrcr : ¬operation = x86ShiftRcr := by
      rcases hshl with h | h <;> rw [h] <;> decide
    rw [if_neg hrcl, if_neg hrcr, if_pos hshl]
    have hstep := shiftLeft_step x false (x <<< 1) fun bit hbit => by
      rw [getLsbD_shiftLeft, decide_eq_true hbit, Bool.true_and]
      by_cases hzero : bit = 0
      · simp [hzero]
      · rw [if_neg hzero, decide_eq_false (by lia), Bool.not_false, Bool.true_and]
    refine Prod.ext (Eq.trans ?_ hstep) rfl
    simp [flagIf]
  rw [if_neg hshl] at hkind
  by_cases hshr : operation = x86ShiftShr
  · rw [if_pos hshr] at hkind
    obtain rfl := some.inj hkind
    have hrcl : ¬operation = x86ShiftRcl := by rw [hshr]; decide
    have hrcr : ¬operation = x86ShiftRcr := by rw [hshr]; decide
    rw [if_neg hrcl, if_neg hrcr, if_neg hshl, if_pos hshr]
    have hstep := shiftRight_step x false (x >>> 1) fun bit hbit => by
      rw [getLsbD_ushiftRight]
      by_cases hlast : bit = width.bits - 1
      · rw [if_pos hlast, getLsbD_of_ge x _ (by lia)]
      · rw [if_neg hlast, Nat.add_comm]
    refine Prod.ext (Eq.trans ?_ hstep) rfl
    simp [flagIf]
  rw [if_neg hshr] at hkind
  by_cases hsar : operation = x86ShiftSar
  · rw [if_pos hsar] at hkind
    obtain rfl := some.inj hkind
    have hrcl : ¬operation = x86ShiftRcl := by rw [hsar]; decide
    have hrcr : ¬operation = x86ShiftRcr := by rw [hsar]; decide
    rw [if_neg hrcl, if_neg hrcr, if_neg hshl, if_neg hshr]
    have hstep := shiftRight_step x x.msb (x.sshiftRight 1) fun bit hbit => by
      rw [getLsbD_sshiftRight, decide_eq_false (by lia), Bool.not_false, Bool.true_and]
      by_cases hlast : bit = width.bits - 1
      · rw [if_pos hlast, if_neg (by lia)]
      · rw [if_neg hlast, if_pos (by lia), Nat.add_comm]
    have hsign : x.setWidth 32 &&& widthSignBit width = flagIf x.msb (widthSignBit width) := by
      apply eq_of_getLsbD_eq
      intro bit hbit
      rw [getLsbD_and, getLsbD_flagIf, getLsbD_widthSignBit, getLsbD_embed, hmsb]
      by_cases hlast : bit = width.bits - 1
      · rw [hlast]
      · rw [decide_eq_false hlast, Bool.and_false, Bool.and_false]
    rw [hsign]
    exact Prod.ext hstep rfl
  · rw [if_neg hsar] at hkind
    cases hkind

end OneStep

section Loop

variable {width : Width} {operation : Nat} {kind : ShiftKind}
  (hkind : shiftKind operation = some kind)
include hkind

/-- The loop's invariant: the value and the carry after so many turns. -/
theorem v86ShiftTimes_eq (count : Nat) (x : BitVec width.bits) (carry : Bool) :
    v86ShiftTimes operation width count (x.setWidth 32, carry) =
      ((kind.apply count x).setWidth 32, if count = 0 then carry else kind.carry count x) := by
  induction count generalizing x carry with
  | zero => rw [ShiftKind.apply_zero, if_pos rfl, v86ShiftTimes]
  | succ count ih =>
    rw [v86ShiftTimes, v86ShiftOne_eq x hkind, ih, if_neg (succ_ne_zero count),
      ← ShiftKind.apply_succ, Nat.add_comm 1 count]
    refine Prod.ext rfl ?_
    unfold ShiftKind.carry
    rw [Nat.add_sub_cancel]
    cases count with
    | zero => rw [if_pos rfl, ShiftKind.apply_zero]
    | succ rest =>
      rw [if_neg (succ_ne_zero rest), Nat.add_sub_cancel, ← ShiftKind.apply_succ,
        Nat.add_comm 1 rest]

end Loop

/-!
## What a shift is to do

The result, the carry and the flags of a shift or rotate by a count that is not 0, and that both
shift units meet it.
-/

open Pm32

/-- A shift or rotate by a count that is not 0. -/
structure IsShift (kind : ShiftKind) (count : Nat) (width : Width) (x : BitVec width.bits)
    (flags result flags' : Dword) : Prop where
  value : result = (kind.apply count x).setWidth 32
  carry : hasFlag flags' eflagsCf = kind.carry count x
  zero : hasFlag flags' eflagsZf =
    if kind.isRotate then hasFlag flags eflagsZf else decide (kind.apply count x = 0)
  sign : hasFlag flags' eflagsSf =
    if kind.isRotate then hasFlag flags eflagsSf else (kind.apply count x).msb
  parity : hasFlag flags' eflagsPf =
    if kind.isRotate then hasFlag flags eflagsPf else decide (IsEvenByte result)
  overflow : count = 1 → hasFlag flags' eflagsOf = kind.overflow x

/-! ## Flags as bits -/

theorem hasFlag_cf (flags : Dword) : hasFlag flags eflagsCf = flags.getLsbD 0 :=
  hasFlag_bit flags _ 0 rfl (by decide)

theorem hasFlag_pf (flags : Dword) : hasFlag flags eflagsPf = flags.getLsbD 2 :=
  hasFlag_bit flags _ 2 rfl (by decide)

theorem hasFlag_zf (flags : Dword) : hasFlag flags eflagsZf = flags.getLsbD 6 :=
  hasFlag_bit flags _ 6 rfl (by decide)

theorem hasFlag_sf (flags : Dword) : hasFlag flags eflagsSf = flags.getLsbD 7 :=
  hasFlag_bit flags _ 7 rfl (by decide)

theorem hasFlag_of (flags : Dword) : hasFlag flags eflagsOf = flags.getLsbD 11 :=
  hasFlag_bit flags _ 11 rfl (by decide)

theorem eq_zero_of_embed {width : Width} (x : BitVec width.bits) :
    decide (x.setWidth 32 = 0) = decide (x = 0) := by
  apply decide_eq_decide.mpr
  constructor
  · intro h
    apply eq_of_getLsbD_eq
    intro bit hbit
    rw [← getLsbD_embed x bit, h]
    simp
  · rintro rfl
    simp

/-- ZF, SF and PF of a result are bits 6, 7 and 2. -/
theorem getLsbD_resultFlags {width : Width} (x : BitVec width.bits) (bit : Nat) :
    (resultFlags (x.setWidth 32) width).getLsbD bit =
      (decide (x = 0) && eflagsZf.getLsbD bit || x.msb && eflagsSf.getLsbD bit ||
        decide (IsEvenByte (x.setWidth 32)) && eflagsPf.getLsbD bit) := by
  unfold resultFlags
  rw [getLsbD_or, getLsbD_or, getLsbD_flagIf, getLsbD_flagIf, getLsbD_flagIf,
    eq_zero_of_embed, hasFlag_embed, v86Parity_eq]

theorem pm32SzpFlags_eq {width : Width} (x : BitVec width.bits) :
    pm32SzpFlags (x.setWidth 32) width = resultFlags (x.setWidth 32) width := by
  have hmask : x.setWidth 32 &&& widthMask width = x.setWidth 32 := by
    rw [and_widthMask_eq]
    apply congrArg (setWidth 32)
    apply eq_of_getLsbD_eq
    intro bit hbit
    rw [lowBits, getLsbD_setWidth, decide_eq_true hbit, Bool.true_and, getLsbD_embed]
  unfold pm32SzpFlags resultFlags
  dsimp only
  rw [hmask, pm32Parity_eq, v86Parity_eq]

/-! ## The 16-bit interpreter -/

section V86

variable {width : Width} {operation count : Nat} {kind : ShiftKind} (x : BitVec width.bits)

theorem hasFlag_embed_second (y : BitVec width.bits) :
    hasFlag (y.setWidth 32) (widthSignBit width >>> 1) = y.getLsbD (width.bits - 2) := by
  rw [← getLsbD_embed y]
  cases width with
  | byte => exact hasFlag_bit _ _ 6 rfl (by decide)
  | word => exact hasFlag_bit _ _ 14 rfl (by decide)
  | dword => exact hasFlag_bit _ _ 30 rfl (by decide)

theorem carry_one (kind : ShiftKind) : kind.carry 1 x = kind.out x := by
  unfold ShiftKind.carry
  rw [Nat.sub_self, ShiftKind.apply_zero]

theorem v86ShiftOverflow_eq (hkind : shiftKind operation = some kind) :
    v86ShiftOverflow operation width (x.setWidth 32) ((kind.apply 1 x).setWidth 32)
      (kind.carry 1 x) = kind.overflow x := by
  unfold shiftKind at hkind
  unfold v86ShiftOverflow
  dsimp only
  rw [hasFlag_embed, hasFlag_embed, hasFlag_embed_second, carry_one]
  by_cases hrol : operation = x86ShiftRol
  · rw [if_pos hrol] at hkind
    obtain rfl := some.inj hkind
    rw [hrol]
    rfl
  rw [if_neg hrol] at hkind
  by_cases hror : operation = x86ShiftRor
  · rw [if_pos hror] at hkind
    obtain rfl := some.inj hkind
    rw [hror]
    rfl
  rw [if_neg hror] at hkind
  by_cases hshl : operation = x86ShiftShl ∨ operation = x86ShiftSal
  · rw [if_pos hshl] at hkind
    obtain rfl := some.inj hkind
    rcases hshl with h | h <;> rw [h] <;> rfl
  rw [if_neg hshl] at hkind
  by_cases hshr : operation = x86ShiftShr
  · rw [if_pos hshr] at hkind
    obtain rfl := some.inj hkind
    rw [hshr]
    rfl
  rw [if_neg hshr] at hkind
  by_cases hsar : operation = x86ShiftSar
  · rw [if_pos hsar] at hkind
    obtain rfl := some.inj hkind
    rw [hsar]
    rfl
  · rw [if_neg hsar] at hkind
    cases hkind

theorem isRotate_iff (hkind : shiftKind operation = some kind) :
    kind.isRotate = decide (¬x86ShiftShl ≤ operation) := by
  unfold shiftKind at hkind
  split_ifs at hkind with hrol hror hshl hshr hsar
  · obtain rfl := some.inj hkind
    rw [hrol]
    rfl
  · obtain rfl := some.inj hkind
    rw [hror]
    rfl
  · obtain rfl := some.inj hkind
    rcases hshl with h | h <;> rw [h] <;> rfl
  · obtain rfl := some.inj hkind
    rw [hshr]
    rfl
  · obtain rfl := some.inj hkind
    rw [hsar]
    rfl

section Flags

variable (operation count) (flags original : Dword) (carry : Bool)

theorem v86ShiftFlags_carry :
    hasFlag (v86ShiftFlags flags operation count width original (x.setWidth 32) carry) eflagsCf =
      carry := by
  unfold v86ShiftFlags
  rw [hasFlag_cf]
  split_ifs <;>
    simp only [getLsbD_or, getLsbD_and, getLsbD_not, getLsbD_flagIf,
      getLsbD_resultFlags] <;>
    simp [eflagsCf, eflagsPf, eflagsZf, eflagsSf, eflagsOf]

theorem v86ShiftFlags_result (hshift : x86ShiftShl ≤ operation) :
    let flags' := v86ShiftFlags flags operation count width original (x.setWidth 32) carry
    hasFlag flags' eflagsZf = decide (x = 0) ∧ hasFlag flags' eflagsSf = x.msb ∧
      hasFlag flags' eflagsPf = decide (IsEvenByte (x.setWidth 32)) := by
  intro flags'
  have hflags' : flags' = v86ShiftFlags flags operation count width original (x.setWidth 32) carry :=
    rfl
  unfold v86ShiftFlags at hflags'
  rw [if_pos hshift] at hflags'
  rw [hasFlag_zf, hasFlag_sf, hasFlag_pf, hflags']
  refine ⟨?_, ?_, ?_⟩ <;>
    simp only [getLsbD_or, getLsbD_and, getLsbD_not, getLsbD_resultFlags] <;>
    simp [eflagsPf, eflagsZf, eflagsSf]

theorem v86ShiftFlags_kept (width : Width) (hrotate : ¬x86ShiftShl ≤ operation) (value : Dword) :
    let flags' := v86ShiftFlags flags operation count width original value carry
    hasFlag flags' eflagsZf = hasFlag flags eflagsZf ∧
      hasFlag flags' eflagsSf = hasFlag flags eflagsSf ∧
      hasFlag flags' eflagsPf = hasFlag flags eflagsPf := by
  intro flags'
  have hflags' : flags' = v86ShiftFlags flags operation count width original value carry := rfl
  unfold v86ShiftFlags at hflags'
  rw [if_neg hrotate] at hflags'
  simp only [hasFlag_zf, hasFlag_sf, hasFlag_pf]
  rw [hflags']
  refine ⟨?_, ?_, ?_⟩ <;> split_ifs <;>
    simp only [getLsbD_or, getLsbD_and, getLsbD_not, getLsbD_flagIf] <;>
    simp [eflagsCf, eflagsOf]

theorem v86ShiftFlags_overflow :
    hasFlag (v86ShiftFlags flags operation 1 width original (x.setWidth 32) carry) eflagsOf =
      v86ShiftOverflow operation width original (x.setWidth 32) carry := by
  unfold v86ShiftFlags
  dsimp only
  rw [if_pos rfl, hasFlag_of]
  split_ifs <;>
    simp only [getLsbD_or, getLsbD_and, getLsbD_not, getLsbD_flagIf,
      getLsbD_resultFlags] <;>
    simp [eflagsCf, eflagsPf, eflagsZf, eflagsSf, eflagsOf]

end Flags

theorem v86ShiftFlags_isShift (hkind : shiftKind operation = some kind) (flags : Dword) :
    IsShift kind count width x flags ((kind.apply count x).setWidth 32)
      (v86ShiftFlags flags operation count width (x.setWidth 32)
        ((kind.apply count x).setWidth 32) (kind.carry count x)) := by
  have hrotate := isRotate_iff hkind
  have hoverflow : count = 1 → hasFlag (v86ShiftFlags flags operation count width (x.setWidth 32)
      ((kind.apply count x).setWidth 32) (kind.carry count x)) eflagsOf = kind.overflow x := by
    rintro rfl
    rw [v86ShiftFlags_overflow, v86ShiftOverflow_eq x hkind]
  have hcarry := v86ShiftFlags_carry operation count (kind.apply count x) flags (x.setWidth 32)
    (kind.carry count x)
  by_cases hshift : x86ShiftShl ≤ operation
  · obtain ⟨hzero, hsign, hparity⟩ := v86ShiftFlags_result operation count
      (kind.apply count x) flags (x.setWidth 32) (kind.carry count x) hshift
    have hfalse : kind.isRotate = false := hrotate.trans (decide_eq_false (not_not.mpr hshift))
    refine ⟨rfl, hcarry, ?_, ?_, ?_, hoverflow⟩
    · rw [hfalse]
      exact hzero
    · rw [hfalse]
      exact hsign
    · rw [hfalse]
      exact hparity
  · obtain ⟨hzero, hsign, hparity⟩ := v86ShiftFlags_kept operation count flags (x.setWidth 32)
      (kind.carry count x) width hshift ((kind.apply count x).setWidth 32)
    have htrue : kind.isRotate = true := hrotate.trans (decide_eq_true hshift)
    refine ⟨rfl, hcarry, ?_, ?_, ?_, hoverflow⟩
    · rw [htrue]
      exact hzero
    · rw [htrue]
      exact hsign
    · rw [htrue]
      exact hparity

theorem v86ShiftRotate_isShift (cpu : V86Cpu) (value : Dword)
    (hkind : shiftKind operation = some kind) (hcount : count % 32 ≠ 0) :
    let shifted := v86ShiftRotate cpu operation value count width
    IsShift kind (count % 32) width (lowBits width value) cpu.flags shifted.1 shifted.2.flags := by
  intro shifted
  have hshifted : shifted =
      ((kind.apply (count % 32) (lowBits width value)).setWidth 32,
        { cpu with
          flags := v86ShiftFlags cpu.flags operation (count % 32) width
            ((lowBits width value).setWidth 32)
            ((kind.apply (count % 32) (lowBits width value)).setWidth 32)
            (kind.carry (count % 32) (lowBits width value)) }) := by
    have htimes := v86ShiftTimes_eq hkind (count % 32) (lowBits width value)
      (hasFlag cpu.flags eflagsCf)
    rw [if_neg hcount] at htimes
    change v86ShiftRotate cpu operation value count width = _
    unfold v86ShiftRotate
    rw [if_neg hcount, and_widthMask_eq, htimes]
  rw [hshifted]
  exact v86ShiftFlags_isShift _ hkind cpu.flags

end V86

end Ntvdmex.Host
