import Ntvdmex.Host.Proofs.Shifts.V86

/-!
# Shifts of the 32-bit interpreter

Closed forms with the host's shifts, and a carry of its own for each of them.
-/

namespace Ntvdmex.Host

open Foundation V86 Pm32 BitVec ShiftKind Option

section Pm32

variable {width : Width} (x : BitVec width.bits) (flags : Dword)

theorem bits_pos (width : Width) : 0 < width.bits := by cases width <;> decide

theorem embed_ext (value : Dword) (y : BitVec width.bits)
    (hbits : ∀ bit < 32, value.getLsbD bit = (decide (bit < width.bits) && y.getLsbD bit)) :
    value = y.setWidth 32 := by
  apply eq_of_getLsbD_eq
  intro bit hbit
  rw [hbits bit hbit, getLsbD_embed]
  by_cases hlt : bit < width.bits
  · rw [decide_eq_true hlt, Bool.true_and]
  · rw [decide_eq_false hlt, Bool.false_and, getLsbD_of_ge y bit (by omega)]

/-! ## Rotates -/

variable {count : Nat} {kind : ShiftKind}

theorem rotateLeft_carry (hcount : count ≠ 0) :
    (x.rotateLeft count).getLsbD 0 = rotateLeft.carry count x := by
  have hpos := bits_pos width
  have hlast : width.bits - 1 < width.bits := by lia
  unfold ShiftKind.carry out apply
  rw [msb_eq_getLsbD_last, getLsbD_rotateLeft_eq x _ hpos, getLsbD_rotateLeft_eq x _ hlast]
  apply congrArg x.getLsbD
  apply Int.ofNat.inj
  have hlow := rotated_index 0 count hpos
  have hhigh := rotated_index (width.bits - 1) (count - 1) hpos
  refine (hlow.trans ?_).trans hhigh.symm
  rw [← Int.add_emod_right]
  apply congrArg (· % (width.bits : Int))
  lia

theorem rotateRight_carry (hcount : count ≠ 0) :
    (x.rotateRight count).msb = rotateRight.carry count x := by
  have hpos := bits_pos width
  have hlast : width.bits - 1 < width.bits := by lia
  unfold ShiftKind.carry out apply
  rw [msb_eq_getLsbD_last, getLsbD_rotateRight_eq x _ hpos,
    getLsbD_rotateRight_eq x _ hlast]
  apply congrArg x.getLsbD
  have hindex : width.bits - 1 + count = count - 1 + width.bits := by lia
  rw [hindex, Nat.add_mod_right, Nat.zero_add]

/-- The two parts of a rotate, in the host's 32 bits. -/
theorem rotated_embed (left right : Nat) :
    (x.setWidth 32 <<< left ||| x.setWidth 32 >>> right) &&& widthMask width =
      (x <<< left ||| x >>> right).setWidth 32 := by
  apply embed_ext
  intro bit hbit
  simp only [getLsbD_and, getLsbD_widthMask, getLsbD_or, getLsbD_shiftLeft, getLsbD_ushiftRight,
    getLsbD_embed, decide_eq_true hbit, Bool.true_and]
  by_cases hlt : bit < width.bits
  · simp [hlt]
  · simp [hlt]

theorem pm32RotateLeft_value (count : Nat) :
    (if count % width.bits ≠ 0 then
        (x.setWidth 32 <<< (count % width.bits) |||
          x.setWidth 32 >>> (width.bits - count % width.bits)) &&& widthMask width
      else x.setWidth 32) = (x.rotateLeft count).setWidth 32 := by
  by_cases hzero : count % width.bits = 0
  · rw [if_neg (not_not.mpr hzero), ← rotateLeft_mod_eq_rotateLeft, hzero]
    exact congrArg (setWidth 32) (apply_zero .rotateLeft x).symm
  · rw [if_pos hzero, rotated_embed, rotateLeft_def]

theorem pm32RotateRight_value (count : Nat) :
    (if count % width.bits ≠ 0 then
        (x.setWidth 32 >>> (count % width.bits) |||
          x.setWidth 32 <<< (width.bits - count % width.bits)) &&& widthMask width
      else x.setWidth 32) = (x.rotateRight count).setWidth 32 := by
  by_cases hzero : count % width.bits = 0
  · rw [if_neg (not_not.mpr hzero), ← rotateRight_mod_eq_rotateRight, hzero]
    exact congrArg (setWidth 32) (apply_zero .rotateRight x).symm
  · rw [if_pos hzero, BitVec.or_comm, rotated_embed, BitVec.or_comm, rotateRight_def]

theorem rotateFlags_isShift {carry overflow : Bool} (hrotate : kind.isRotate = true)
    (hcarry : carry = kind.carry count x) (hoverflow : count = 1 → overflow = kind.overflow x) :
    IsShift kind count width x flags ((kind.apply count x).setWidth 32)
      (flags &&& ~~~(eflagsCf ||| eflagsOf) ||| flagIf carry eflagsCf |||
        flagIf overflow eflagsOf) := by
  refine ⟨rfl, ?_, ?_, ?_, ?_, fun hone => ?_⟩
  · rw [hasFlag_cf, ← hcarry]
    simp only [getLsbD_or, getLsbD_and, getLsbD_not, getLsbD_flagIf]
    simp [eflagsCf, eflagsOf]
  · rw [hrotate, hasFlag_zf, hasFlag_zf]
    simp only [getLsbD_or, getLsbD_and, getLsbD_not, getLsbD_flagIf]
    simp [eflagsCf, eflagsOf]
  · rw [hrotate, hasFlag_sf, hasFlag_sf]
    simp only [getLsbD_or, getLsbD_and, getLsbD_not, getLsbD_flagIf]
    simp [eflagsCf, eflagsOf]
  · rw [hrotate, hasFlag_pf, hasFlag_pf]
    simp only [getLsbD_or, getLsbD_and, getLsbD_not, getLsbD_flagIf]
    simp [eflagsCf, eflagsOf]
  · rw [hasFlag_of, ← hoverflow hone]
    simp only [getLsbD_or, getLsbD_and, getLsbD_not, getLsbD_flagIf]
    simp [eflagsCf, eflagsOf]

theorem pm32RotateLeft_isShift (hcount : count ≠ 0) :
    let rotated := pm32Rotate flags true (x.setWidth 32) count width
    IsShift .rotateLeft count width x flags rotated.value rotated.flags := by
  have hvalue := pm32RotateLeft_value x count
  have hcarry := rotateLeft_carry x hcount
  intro rotated
  have hrotated : rotated =
      { value := (x.rotateLeft count).setWidth 32
        flags := flags &&& ~~~(eflagsCf ||| eflagsOf) |||
          flagIf ((x.rotateLeft count).getLsbD 0) eflagsCf |||
          flagIf ((x.rotateLeft count).msb != (x.rotateLeft count).getLsbD 0) eflagsOf } := by
    change pm32Rotate flags true (x.setWidth 32) count width = _
    unfold pm32Rotate
    simp only [if_true]
    rw [hvalue, getLsbD_embed, hasFlag_embed]
  rw [hrotated]
  apply rotateFlags_isShift x flags rfl hcarry
  rintro rfl
  rw [hcarry, carry_one]
  rfl

theorem pm32RotateRight_isShift (hcount : count ≠ 0) :
    let rotated := pm32Rotate flags false (x.setWidth 32) count width
    IsShift .rotateRight count width x flags rotated.value rotated.flags := by
  have hvalue := pm32RotateRight_value x count
  have hcarry := rotateRight_carry x hcount
  intro rotated
  have hrotated : rotated =
      { value := (x.rotateRight count).setWidth 32
        flags := flags &&& ~~~(eflagsCf ||| eflagsOf) |||
          flagIf (x.rotateRight count).msb eflagsCf |||
          flagIf ((x.rotateRight count).msb !=
            (x.rotateRight count).getLsbD (width.bits - 2)) eflagsOf } := by
    change pm32Rotate flags false (x.setWidth 32) count width = _
    unfold pm32Rotate
    simp only [Bool.false_eq_true, if_false]
    rw [hvalue, hasFlag_embed, hasFlag_embed_second]
  rw [hrotated]
  apply rotateFlags_isShift x flags rfl hcarry
  rintro rfl
  rfl

/-! ## Shifts -/

theorem hasFlag_pm32ShiftFlags (y : BitVec width.bits) (carry overflow : Bool) :
    let flags' := pm32ShiftFlags flags (y.setWidth 32) carry overflow width
    hasFlag flags' eflagsCf = carry ∧ hasFlag flags' eflagsZf = decide (y = 0) ∧
      hasFlag flags' eflagsSf = y.msb ∧
      hasFlag flags' eflagsPf = decide (IsEvenByte (y.setWidth 32)) ∧
      hasFlag flags' eflagsOf = overflow := by
  intro flags'
  have hflags' : flags' = flags &&& ~~~arithmeticFlags ||| resultFlags (y.setWidth 32) width |||
      flagIf carry eflagsCf ||| flagIf overflow eflagsOf := by
    change pm32ShiftFlags flags (y.setWidth 32) carry overflow width = _
    unfold pm32ShiftFlags
    rw [pm32SzpFlags_eq]
  rw [hasFlag_cf, hasFlag_zf, hasFlag_sf, hasFlag_pf, hasFlag_of, hflags']
  refine ⟨?_, ?_, ?_, ?_, ?_⟩ <;>
    simp only [getLsbD_or, getLsbD_and, getLsbD_not, getLsbD_flagIf,
      getLsbD_resultFlags] <;>
    simp [arithmeticFlags, eflagsCf, eflagsPf, eflagsAf, eflagsZf, eflagsSf, eflagsOf]

theorem pm32ShiftFlags_isShift {carry overflow : Bool} (hrotate : kind.isRotate = false)
    (hcarry : carry = kind.carry count x) (hoverflow : count = 1 → overflow = kind.overflow x) :
    IsShift kind count width x flags ((kind.apply count x).setWidth 32)
      (pm32ShiftFlags flags ((kind.apply count x).setWidth 32) carry overflow width) := by
  obtain ⟨hcf, hzf, hsf, hpf, hof⟩ :=
    hasFlag_pm32ShiftFlags flags (kind.apply count x) carry overflow
  refine ⟨rfl, hcf.trans hcarry, ?_, ?_, ?_, fun hone => hof.trans (hoverflow hone)⟩
  · rw [hrotate]
    exact hzf
  · rw [hrotate]
    exact hsf
  · rw [hrotate]
    exact hpf

theorem pm32ShiftLeft_isShift (hcount : count ≠ 0) :
    let shifted := pm32ShiftLeft flags (x.setWidth 32) count width
    IsShift .left count width x flags shifted.value shifted.flags := by
  have hpos := bits_pos width
  have hvalue : x.setWidth 32 <<< count &&& widthMask width = (x <<< count).setWidth 32 := by
    apply embed_ext
    intro bit hbit
    rw [getLsbD_and, getLsbD_widthMask, getLsbD_shiftLeft, getLsbD_embed,
      getLsbD_shiftLeft, decide_eq_true hbit, Bool.true_and, Bool.and_comm]
    by_cases hlt : bit < width.bits
    · rw [decide_eq_true hlt, Bool.true_and, Bool.true_and, Bool.true_and]
    · rw [decide_eq_false hlt, Bool.false_and, Bool.false_and]
  have hcarry : (decide (count ≤ width.bits) &&
      (x.setWidth 32 >>> (width.bits - count)).getLsbD 0) = left.carry count x := by
    unfold ShiftKind.carry out apply
    rw [msb_eq_getLsbD_last, getLsbD_shiftLeft, getLsbD_ushiftRight,
      getLsbD_embed, decide_eq_true (by lia : width.bits - 1 < width.bits), Bool.true_and,
      Nat.add_zero]
    by_cases hle : count ≤ width.bits
    · have hindex : width.bits - 1 - (count - 1) = width.bits - count := by lia
      rw [decide_eq_true hle, decide_eq_false (by lia), hindex]
      rfl
    · rw [decide_eq_false hle, decide_eq_true (by lia)]
      rfl
  intro shifted
  have hshifted : shifted =
      { value := (x <<< count).setWidth 32
        flags := pm32ShiftFlags flags ((x <<< count).setWidth 32)
          (left.carry count x)
          ((x <<< count).msb != left.carry count x) width } := by
    change pm32ShiftLeft flags (x.setWidth 32) count width = _
    unfold pm32ShiftLeft
    dsimp only
    rw [hvalue, hcarry, hasFlag_embed]
  rw [hshifted]
  apply pm32ShiftFlags_isShift x flags rfl rfl
  rintro rfl
  rw [carry_one]
  rfl

theorem pm32ShiftRight_isShift (count : Nat) :
    let shifted := pm32ShiftRight flags (x.setWidth 32) count width
    IsShift .right count width x flags shifted.value shifted.flags := by
  have hvalue : ∀ places : Nat, x.setWidth 32 >>> places = (x >>> places).setWidth 32 := by
    intro places
    apply embed_ext
    intro bit hbit
    rw [getLsbD_ushiftRight, getLsbD_embed, getLsbD_ushiftRight]
    by_cases hlt : bit < width.bits
    · rw [decide_eq_true hlt, Bool.true_and]
    · rw [decide_eq_false hlt, Bool.false_and, getLsbD_of_ge x (places + bit) (by omega)]
  have hcarry : (x.setWidth 32 >>> (count - 1)).getLsbD 0 = right.carry count x := by
    rw [hvalue, getLsbD_embed]
    rfl
  intro shifted
  have hshifted : shifted =
      { value := (x >>> count).setWidth 32
        flags := pm32ShiftFlags flags ((x >>> count).setWidth 32)
          (right.carry count x) x.msb width } := by
    change pm32ShiftRight flags (x.setWidth 32) count width = _
    unfold pm32ShiftRight
    rw [hcarry, hvalue, hasFlag_embed]
  rw [hshifted]
  exact pm32ShiftFlags_isShift x flags rfl rfl fun _ => rfl

theorem getLsbD_signExtendFrom (bit : Nat) (hbit : bit < 32) :
    (signExtendFrom width (x.setWidth 32)).getLsbD bit =
      if bit < width.bits then x.getLsbD bit else x.msb := by
  have hself : ∀ (n : Nat) (y : BitVec n), n ≤ 32 → (y.setWidth 32).setWidth n = y := by
    intro n y hn
    apply eq_of_getLsbD_eq
    intro i hi
    rw [getLsbD_setWidth, getLsbD_setWidth, decide_eq_true hi,
      decide_eq_true (by omega : i < 32), Bool.true_and, Bool.true_and]
  cases width with
  | byte =>
    have hbyte : signExtendFrom .byte (x.setWidth 32) = x.signExtend 32 :=
      congrArg (signExtend 32) (hself 8 x (by decide))
    rw [hbyte, getLsbD_signExtend, decide_eq_true hbit, Bool.true_and]
  | word =>
    have hword : signExtendFrom .word (x.setWidth 32) = x.signExtend 32 :=
      congrArg (signExtend 32) (hself 16 x (by decide))
    rw [hword, getLsbD_signExtend, decide_eq_true hbit, Bool.true_and]
  | dword =>
    have hin : bit < Width.dword.bits := hbit
    rw [if_pos hin]
    exact getLsbD_embed x bit

theorem pm32ShiftArithmetic_isShift (count : Nat) :
    let shifted := pm32ShiftArithmetic flags (x.setWidth 32) count width
    IsShift .arithmetic count width x flags shifted.value shifted.flags := by
  have hle := bits_le width
  have hpos := bits_pos width
  have hmsb : (signExtendFrom width (x.setWidth 32)).msb = x.msb := by
    rw [msb_eq_getLsbD_last, getLsbD_signExtendFrom x 31 (by decide)]
    by_cases hlast : 31 < width.bits
    · rw [if_pos hlast, msb_eq_getLsbD_last]
      exact congrArg x.getLsbD (by lia)
    · rw [if_neg hlast]
  have hbits : ∀ places bit, bit < width.bits →
      ((signExtendFrom width (x.setWidth 32)).sshiftRight places).getLsbD bit =
        (x.sshiftRight places).getLsbD bit := by
    intro places bit hbit
    rw [getLsbD_sshiftRight, getLsbD_sshiftRight, hmsb,
      decide_eq_false (by lia : ¬32 ≤ bit), decide_eq_false (by lia : ¬width.bits ≤ bit)]
    by_cases hin : places + bit < 32
    · rw [if_pos hin, getLsbD_signExtendFrom x _ hin]
    · rw [if_neg hin, if_neg (by lia)]
  have hvalue : (signExtendFrom width (x.setWidth 32)).sshiftRight count &&& widthMask width =
      (x.sshiftRight count).setWidth 32 := by
    apply embed_ext
    intro bit hbit
    rw [getLsbD_and, getLsbD_widthMask, Bool.and_comm]
    by_cases hin : bit < width.bits
    · rw [decide_eq_true hin, hbits count bit hin]
    · rw [decide_eq_false hin, Bool.false_and, Bool.false_and]
  have hcarry : ((signExtendFrom width (x.setWidth 32)).sshiftRight (count - 1)).getLsbD 0 =
      arithmetic.carry count x := hbits (count - 1) 0 hpos
  intro shifted
  have hshifted : shifted =
      { value := (x.sshiftRight count).setWidth 32
        flags := pm32ShiftFlags flags ((x.sshiftRight count).setWidth 32)
          (arithmetic.carry count x) false width } := by
    change pm32ShiftArithmetic flags (x.setWidth 32) count width = _
    unfold pm32ShiftArithmetic
    dsimp only
    rw [hvalue, hcarry]
  rw [hshifted]
  exact pm32ShiftFlags_isShift x flags rfl rfl fun _ => rfl

theorem pm32Shift_isShift {operation : Nat} {value : Dword} {result : Pm32Result}
    (hcount : count % 32 ≠ 0)
    (hshift : pm32Shift flags operation value count width = some result)
    (hkind : shiftKind operation = some kind) :
    IsShift kind (count % 32) width (lowBits width value) flags result.value result.flags := by
  unfold pm32Shift at hshift
  unfold shiftKind at hkind
  rw [if_neg hcount, and_widthMask_eq] at hshift
  by_cases hrol : operation = x86ShiftRol
  · rw [if_pos hrol] at hkind
    rw [if_pos (Or.inl hrol), decide_eq_true hrol] at hshift
    obtain rfl := some.inj hkind
    obtain rfl := some.inj hshift
    exact pm32RotateLeft_isShift _ flags hcount
  rw [if_neg hrol] at hkind
  by_cases hror : operation = x86ShiftRor
  · rw [if_pos hror] at hkind
    rw [if_pos (Or.inr hror), decide_eq_false hrol] at hshift
    obtain rfl := some.inj hkind
    obtain rfl := some.inj hshift
    exact pm32RotateRight_isShift _ flags hcount
  rw [if_neg hror] at hkind
  rw [if_neg fun h => h.elim hrol hror] at hshift
  by_cases hcarry : operation = x86ShiftRcl ∨ operation = x86ShiftRcr
  · rw [if_pos hcarry] at hshift
    cases hshift
  rw [if_neg hcarry] at hshift
  by_cases hshl : operation = x86ShiftShl ∨ operation = x86ShiftSal
  · rw [if_pos hshl] at hkind hshift
    obtain rfl := some.inj hkind
    obtain rfl := some.inj hshift
    exact pm32ShiftLeft_isShift _ flags hcount
  rw [if_neg hshl] at hkind hshift
  by_cases hshr : operation = x86ShiftShr
  · rw [if_pos hshr] at hkind hshift
    obtain rfl := some.inj hkind
    obtain rfl := some.inj hshift
    exact pm32ShiftRight_isShift _ flags _
  rw [if_neg hshr] at hkind hshift
  by_cases hsar : operation = x86ShiftSar
  · rw [if_pos hsar] at hkind
    obtain rfl := some.inj hkind
    obtain rfl := some.inj hshift
    exact pm32ShiftArithmetic_isShift _ flags _
  · rw [if_neg hsar] at hkind
    cases hkind

end Pm32

end Ntvdmex.Host
