import Ntvdmex.Foundation.Execution
import Ntvdmex.Host.Proofs.Division.Exact
import Ntvdmex.Host.Proofs.Pm32.Exact
import Ntvdmex.Host.Proofs.V86.Exact

/-!
# `DIV` and `IDIV` of the two interpreters

The quotient of a signed word or dword is computed in the C type of its dividend, which does
not hold the quotient of the minimum and -1.
-/

namespace Ntvdmex.Host

open Foundation Interp BitVec Or Division Width Leaves

section Steps

variable {γ : Type} {registersOf : γ → Nat → Dword} {division : Division} {m machine : Machine γ}

theorem divides_of_stores {unfit : Prop} [Decidable unfit] {store : Unit → Interp γ Unit}
    {low high : Dword} (hdivisor : division.divisor ≠ 0)
    (hfits : division.Fits (division.quotient (registersOf m.cpu)) ↔ ¬unfit)
    (hstores : ∃ m', store () m = .ok () m' ∧
      HoldsPair (registersOf m'.cpu) division.width low high)
    (hlow : division.Fits (division.quotient (registersOf m.cpu)) →
      division.value low = division.quotient (registersOf m.cpu))
    (hhigh : division.value high =
      (division.dividend (registersOf m.cpu)).tmod division.divisor) :
    DividesOrDeclines division registersOf m ((declineIf unfit >>= store) m) := by
  by_cases hfit : division.Fits (division.quotient (registersOf m.cpu))
  · obtain ⟨m', hstored, hholds⟩ := hstores
    rw [declineIf_bind_of_not (hfits.mp hfit), hstored]
    exact dividesOrDeclines_done hdivisor hfit
      (done_of_holdsPair hdivisor hholds (hlow hfit) hhigh)
  · rw [declineIf_bind_of (not_not.mp fun h => hfit (hfits.mpr h))]
    exact dividesOrDeclines_declined (inr hfit) (refl_of OnlyReads m)

/-- A null divisor declines, and the two divisions do as they promise. -/
theorem group3_divides_iff {overflows isNull : Prop} [Decidable isNull] {register : Nat}
    {divide signedDivide : Interp γ Unit} {next : Unit → Interp γ Unit}
    (hreads : OnlyReads machine m) (hoperand : division.operand.toNat < 2 ^ division.width.bits)
    (hregister : register = x86Group3Div ∨ register = x86Group3Idiv)
    (hsigned : division.isSigned = decide (register = x86Group3Idiv))
    (hnull : isNull ↔ division.operand = 0)
    (hoverflows : overflows → division.IsMinimumByMinusOne (registersOf m.cpu))
    (hdivide : division.isSigned = false → division.divisor ≠ 0 →
      DividesOrDeclines division registersOf m ((divide >>= next) m))
    (hsignedDivide : division.isSigned = true → division.divisor ≠ 0 →
      (DividesOrDeclines division registersOf machine ((signedDivide >>= next) m) ↔
        ¬overflows)) :
    DividesOrDeclines division registersOf machine
        (((do
          declineIf isNull
          if register = x86Group3Div then divide else signedDivide) >>= next) m) ↔
      ¬overflows := by
  have hzero := divisor_eq_zero_iff hoperand
  rw [bind_assoc]
  by_cases hisNull : isNull
  · have hdivisor := hzero.mpr (hnull.mp hisNull)
    rw [declineIf_bind_of hisNull]
    refine iff_of_true (dividesOrDeclines_declined (inl hdivisor) hreads) fun h => ?_
    have hminusOne := (hoverflows h).2.2
    rw [hdivisor] at hminusOne
    exact absurd hminusOne (by decide)
  · rw [declineIf_bind_of_not hisNull]
    have hdivisor : division.divisor ≠ 0 := fun h => hisNull (hnull.mpr (hzero.mp h))
    rcases hregister with rfl | rfl
    · refine iff_of_true (.of_onlyReads hreads (hdivide hsigned hdivisor)) fun h => ?_
      have hminimum := (hoverflows h).1
      rw [hsigned] at hminimum
      exact absurd hminimum (by decide)
    · exact hsignedDivide hsigned hdivisor

end Steps

end Ntvdmex.Host

namespace Ntvdmex.Host.V86

open Foundation Interp BitVec Or Division Width Leaves

variable {host : V86Host}

theorem toNat_lt_of_v86ReadRm {modrm : V86Modrm} {width : Width} {operand : Dword}
    {m m' : Machine V86Cpu} (h : v86ReadRm host modrm width m = .ok operand m') :
    operand.toNat < 2 ^ width.bits := by
  unfold v86ReadRm at h
  by_cases hmemory : modrm.isMemory = true
  · rw [if_pos hmemory] at h
    exact toNat_lt_of_readMemory h
  · rw [if_neg hmemory] at h
    cases h
    exact v86GetRegister_lt m.cpu modrm.registerMemory width

theorem v86Dividend_eq (cpu : V86Cpu) (width : Width) :
    v86Dividend cpu width = accumulatorPair cpu.registers width := by
  cases width <;> rfl

theorem setAccumulatorPair_holds (width : Width) (low high : Dword) (length : Nat)
    (m : Machine V86Cpu) :
    ∃ m', (setAccumulatorPair width low high >>= fun _ => advance length) m = .ok () m' ∧
      HoldsPair m'.cpu.registers width low high := by
  cases width with
  | byte =>
    refine ⟨_, rfl, holdsPair_byte ?_⟩
    exact setWidth_storeWord (m.cpu.registers x86RegAx) _
  | word =>
    refine ⟨_, rfl, ?_, ?_⟩
    · exact setWidth_storeWord (m.cpu.registers x86RegAx) _
    · exact setWidth_storeWord (m.cpu.registers x86RegDx) _
  | dword => exact ⟨_, rfl, rfl, rfl⟩

section Divisions

variable {division : Division} {m : Machine V86Cpu}

theorem v86Divide_divides (hsigned : division.isSigned = false)
    (hdivisor : division.divisor ≠ 0) (length : Nat) :
    DividesOrDeclines division V86Cpu.registers m
      ((v86Divide division.width division.operand >>= fun _ => advance length) m) := by
  have hmask : ((division.operand &&& widthMask division.width).setWidth 64).toNat =
      (division.operand.setWidth division.width.bits).toNat := by
    rw [toNat_setWidth_of_le (by decide)]
    exact toNat_and_widthMask division.operand division.width
  unfold v86Divide
  rw [bind_assoc, getCpu_bind]
  rw [v86Dividend_eq, bind_assoc]
  exact divides_of_stores hdivisor (fits_unsigned_iff m.cpu.registers hsigned hmask)
    (setAccumulatorPair_holds _ _ _ length m)
    (value_quotient_unsigned hsigned hmask)
    (value_remainder_unsigned hsigned hmask hdivisor)

/-- The quotient is past its C type. -/
def V86Overflows (division : Division) (registers : Nat → Dword) : Prop :=
  division.width ≠ .byte ∧ division.IsMinimumByMinusOne registers

theorem v86HostQuotientFits_iff (hsigned : division.isSigned = true)
    (hdivisor : division.divisor ≠ 0) (registers : Nat → Dword) :
    ¬v86HostQuotientFits division.width (division.quotient registers) ↔
      V86Overflows division registers := by
  unfold V86Overflows
  rw [isMinimumByMinusOne_iff hsigned hdivisor]
  have hrange := quotient_range registers hsigned
  revert hrange
  cases division.width with
  | byte =>
    intro hrange
    simp [v86HostQuotientFits, bits, bytes] at hrange ⊢
    omega
  | word => simp [v86HostQuotientFits, bits, bytes]
  | dword => simp [v86HostQuotientFits, bits, bytes]

theorem v86SignedDivide_divides_iff {machine : Machine V86Cpu} (hreads : OnlyReads machine m)
    (hsigned : division.isSigned = true) (hdivisor : division.divisor ≠ 0) (length : Nat) :
    DividesOrDeclines division V86Cpu.registers machine
        ((v86SignedDivide division.width division.operand >>= fun _ => advance length) m) ↔
      ¬V86Overflows division m.cpu.registers := by
  have hhost := v86HostQuotientFits_iff hsigned hdivisor m.cpu.registers
  unfold v86SignedDivide
  rw [bind_assoc, getCpu_bind]
  dsimp only
  have hdividend : v86SignedDividend division.width (v86Dividend m.cpu division.width) =
      division.dividend m.cpu.registers := by
    rw [dividend_signed hsigned, v86Dividend_eq]
    cases division.width <;> rfl
  rw [hdividend, ← divisor_signed hsigned]
  have hquotient : (division.dividend m.cpu.registers).tdiv division.divisor =
      division.quotient m.cpu.registers := rfl
  rw [hquotient, bind_assoc]
  by_cases hoverflows : V86Overflows division m.cpu.registers
  · rw [trapIf_bind_of (hhost.mpr hoverflows)]
    exact iff_of_false not_dividesOrDeclines_trapped (not_not.mpr hoverflows)
  · refine iff_of_true (.of_onlyReads hreads ?_) hoverflows
    rw [trapIf_bind_of_not fun htrap => hoverflows (hhost.mp htrap), bind_assoc]
    exact divides_of_stores hdivisor (fits_signed_iff hsigned _)
      (setAccumulatorPair_holds _ _ _ length m)
      (value_quotient_signed m.cpu.registers hsigned)
      (value_remainder_signed m.cpu.registers hsigned hdivisor)

end Divisions

def V86Fetched.group3Width (fetched : V86Fetched) : Width :=
  if fetched.opcode = x86OpGroup3Byte then .byte else fetched.instruction.operandSize

/-- The step decodes a `DIV` or an `IDIV`, and has read its operand. -/
def V86Divides (host : V86Host) (machine : Machine V86Cpu) (division : Division) : Prop :=
  ∃ fetched atModrm modrm atOperand allowed ready,
    v86Fetch host machine = .ok fetched atModrm ∧
      (fetched.opcode = x86OpGroup3Byte ∨ fetched.opcode = x86OpGroup3) ∧
      v86DecodeModrm host fetched.instruction fetched.offset atModrm = .ok modrm atOperand ∧
      modrm.declineBeyondGuest atOperand = .ok () allowed ∧
      (modrm.register = x86Group3Div ∨ modrm.register = x86Group3Idiv) ∧
      v86ReadRm host modrm fetched.group3Width allowed = .ok division.operand ready ∧
      division.width = fetched.group3Width ∧
      division.isSigned = decide (modrm.register = x86Group3Idiv)

theorem v86Execute_group3 {fetched : V86Fetched}
    (hopcode : fetched.opcode = x86OpGroup3Byte ∨ fetched.opcode = x86OpGroup3) :
    v86Execute host fetched =
      v86Group3 host fetched.instruction fetched.opcode fetched.offset := by
  unfold v86Execute
  rcases hopcode with hbyte | hwide
  · rw [hbyte]
    rfl
  · rw [hwide]
    rfl

variable {division : Division} {m machine : Machine V86Cpu} {modrm : V86Modrm}

theorem v86Group3Operation_divides_iff (hreads : OnlyReads machine m)
    (hoperand : division.operand.toNat < 2 ^ division.width.bits)
    (hregister : modrm.register = x86Group3Div ∨ modrm.register = x86Group3Idiv)
    (hsigned : division.isSigned = decide (modrm.register = x86Group3Idiv)) (length : Nat) :
    DividesOrDeclines division V86Cpu.registers machine
        ((v86Group3Operation modrm division.width division.operand >>=
          fun _ => advance length) m) ↔
      ¬V86Overflows division m.cpu.registers := by
  have hoperation : v86Group3Operation modrm division.width division.operand =
      (do
        declineIf (division.operand = 0)
        if modrm.register = x86Group3Div then v86Divide division.width division.operand
        else v86SignedDivide division.width division.operand) := by
    unfold v86Group3Operation
    rcases hregister with hdiv | hidiv
    · rw [hdiv]
      rfl
    · rw [hidiv]
      rfl
  rw [hoperation]
  exact group3_divides_iff hreads hoperand hregister hsigned Iff.rfl (fun h => h.2)
    (v86Divide_divides · · length) (v86SignedDivide_divides_iff hreads · · length)

theorem v86Step_divides_iff (hdivides : V86Divides host machine division) :
    DividesOrDeclines division V86Cpu.registers machine (v86Step host machine) ↔
      ¬V86Overflows division machine.cpu.registers := by
  obtain ⟨fetched, atModrm, modrm, atOperand, allowed, ready, hfetch, hopcode, hmodrm, hallowed,
    hregister, hread, hwidth, hsigned⟩ := hdivides
  have hmachine : OnlyReads machine ready :=
    trans_of OnlyReads (trans_of OnlyReads (onlyReads_of_fetch hfetch) (of_ok hmodrm))
      (trans_of OnlyReads (of_ok hallowed) (of_ok hread))
  have hoperand : division.operand.toNat < 2 ^ division.width.bits := by
    rw [hwidth]
    exact toNat_lt_of_v86ReadRm hread
  have hstep : v86Step host machine =
      (v86Group3Operation modrm division.width division.operand >>=
        fun _ => advance (fetched.offset + modrm.length)) ready := by
    rw [v86Step_of_fetch hfetch, v86Execute_group3 hopcode]
    unfold v86Group3
    have hpast : ¬(modrm.register = 0 ∨ modrm.register = 1) := by
      rcases hregister with h | h
      · rw [h]
        decide
      · rw [h]
        decide
    rw [bind_of_ok hmodrm, bind_of_ok hallowed, if_neg hpast]
    rw [hwidth]
    exact bind_of_ok hread
  rw [hstep, ← hmachine.1]
  exact v86Group3Operation_divides_iff hmachine hoperand hregister hsigned _

end Ntvdmex.Host.V86

/-!
## `DIV` and `IDIV` of the 32-bit interpreter

The quotient of the dword minimum and -1 is declined before it is computed; that of the word
minimum is computed in `INT32`, which does not hold it.
-/

namespace Ntvdmex.Host.Pm32

open Foundation Interp BitVec Or Division Width Leaves

variable {host : Pm32Host}

theorem toNat_pm32GetRegister_lt (cpu : Pm32Cpu) (index : Nat) (width : Width) :
    (pm32GetRegister cpu index width).toNat < 2 ^ width.bits := by
  unfold pm32GetRegister
  by_cases hbyte : width = .byte
  · rw [if_pos hbyte, hbyte]
    have hmasked (value : Dword) : (value &&& 0xFF).toNat < 2 ^ byte.bits := by
      have hmask := toNat_and_widthMask value .byte
      rw [show (0xFF : Dword) = widthMask .byte from rfl, hmask]
      exact isLt _
    split
    · exact hmasked _
    · exact hmasked _
  · rw [if_neg hbyte, toNat_and_widthMask]
    exact isLt _

theorem toNat_lt_of_pm32ReadRm {modrm : Pm32Modrm} {width : Width} {operand : Dword}
    {m m' : Machine Pm32Cpu} (h : pm32ReadRm host modrm width m = .ok operand m') :
    operand.toNat < 2 ^ width.bits := by
  unfold pm32ReadRm at h
  by_cases hmemory : modrm.isMemory = true
  · rw [if_pos hmemory] at h
    exact toNat_lt_of_readMemory h
  · rw [if_neg hmemory] at h
    cases h
    exact toNat_pm32GetRegister_lt m.cpu modrm.registerMemory width

theorem pm32Dividend_eq (cpu : Pm32Cpu) (width : Width) :
    pm32Dividend cpu width = accumulatorPair cpu.registers width := by
  cases width <;> rfl

theorem setAccumulatorPair_holds (width : Width) (low high : Dword) (length : Nat)
    (m : Machine Pm32Cpu) :
    ∃ m', (setAccumulatorPair width low high >>= fun _ => advance length) m = .ok () m' ∧
      HoldsPair m'.cpu.registers width low high := by
  cases width with
  | byte =>
    refine ⟨_, rfl, holdsPair_byte ?_⟩
    exact setWidth_storeMasked (m.cpu.registers x86RegAx) _
  | word =>
    refine ⟨_, rfl, ?_, ?_⟩
    · exact setWidth_storeMasked (m.cpu.registers x86RegAx) _
    · exact setWidth_storeMasked (m.cpu.registers x86RegDx) _
  | dword => exact ⟨_, rfl, rfl, rfl⟩

section Divisions

variable {division : Division} {m : Machine Pm32Cpu}

theorem pm32Divide_divides (hoperand : division.operand.toNat < 2 ^ division.width.bits)
    (hsigned : division.isSigned = false) (hdivisor : division.divisor ≠ 0) (length : Nat) :
    DividesOrDeclines division Pm32Cpu.registers m
      ((pm32Divide division.width division.operand >>= fun _ => advance length) m) := by
  have hwide : (division.operand.setWidth 64).toNat =
      (division.operand.setWidth division.width.bits).toNat := by
    rw [toNat_setWidth_of_le (by decide), toNat_setWidth,
      Nat.mod_eq_of_lt hoperand]
  unfold pm32Divide
  rw [bind_assoc, getCpu_bind]
  rw [pm32Dividend_eq, bind_assoc]
  exact divides_of_stores hdivisor (fits_unsigned_iff m.cpu.registers hsigned hwide)
    (setAccumulatorPair_holds _ _ _ length m)
    (value_quotient_unsigned hsigned hwide)
    (value_remainder_unsigned hsigned hwide hdivisor)

/-- The quotient is past its C type, and no check came first. -/
def Pm32Overflows (division : Division) (registers : Nat → Dword) : Prop :=
  division.width = .word ∧ division.IsMinimumByMinusOne registers

theorem pm32SignedDivide_divides_iff {machine : Machine Pm32Cpu} (hreads : OnlyReads machine m)
    (hsigned : division.isSigned = true) (hdivisor : division.divisor ≠ 0) (length : Nat) :
    DividesOrDeclines division Pm32Cpu.registers machine
        ((pm32SignedDivide division.width division.operand >>= fun _ => advance length) m) ↔
      ¬Pm32Overflows division m.cpu.registers := by
  unfold pm32SignedDivide
  rw [bind_assoc, getCpu_bind]
  dsimp only
  have hdividend : pm32SignedDividend division.width (pm32Dividend m.cpu division.width) =
      division.dividend m.cpu.registers := by
    rw [dividend_signed hsigned, pm32Dividend_eq]
    cases division.width <;> rfl
  rw [hdividend, ← divisor_signed hsigned]
  have hquotient : (division.dividend m.cpu.registers).tdiv division.divisor =
      division.quotient m.cpu.registers := rfl
  rw [hquotient, bind_assoc]
  have hguard : (division.width = .dword ∧ division.divisor = -1 ∧
      division.dividend m.cpu.registers = -2 ^ 63) ↔
      division.width = .dword ∧ division.IsMinimumByMinusOne m.cpu.registers := by
    apply and_congr_right
    intro hwidth
    rw [isMinimumByMinusOne_signed hsigned, hwidth]
    rfl
  have htrap : (division.width = .word ∧ division.divisor = -1 ∧
      division.dividend m.cpu.registers = -2 ^ 31) ↔ Pm32Overflows division m.cpu.registers := by
    apply and_congr_right
    intro hwidth
    rw [isMinimumByMinusOne_signed hsigned, hwidth]
    rfl
  by_cases hdword : division.width = .dword ∧ division.IsMinimumByMinusOne m.cpu.registers
  · rw [declineIf_bind_of (hguard.mpr hdword)]
    have hunfit := not_fits_of_isMinimumByMinusOne hsigned hdword.2
    refine iff_of_true (.of_onlyReads hreads
      (dividesOrDeclines_declined (inr hunfit) (refl_of OnlyReads m))) ?_
    rintro ⟨hword, -⟩
    rw [hdword.1] at hword
    exact absurd hword (by decide)
  · rw [declineIf_bind_of_not fun h => hdword (hguard.mp h), bind_assoc]
    by_cases hoverflows : Pm32Overflows division m.cpu.registers
    · rw [trapIf_bind_of (htrap.mpr hoverflows)]
      exact iff_of_false not_dividesOrDeclines_trapped (not_not.mpr hoverflows)
    · refine iff_of_true (.of_onlyReads hreads ?_) hoverflows
      rw [trapIf_bind_of_not fun h => hoverflows (htrap.mp h), bind_assoc]
      exact divides_of_stores hdivisor (fits_signed_iff hsigned _)
        (setAccumulatorPair_holds _ _ _ length m)
        (value_quotient_signed m.cpu.registers hsigned)
        (value_remainder_signed m.cpu.registers hsigned hdivisor)

end Divisions

def Pm32Prefixed.group3Width (prefixed : Pm32Prefixed) : Width :=
  if prefixed.opcode = x86OpGroup3Byte then .byte else prefixed.instruction.operandSize

/-- The step decodes a `DIV` or an `IDIV`, and has read its operand. -/
def Pm32Divides (host : Pm32Host) (machine : Machine Pm32Cpu) (division : Division) : Prop :=
  ∃ prefixed atModrm modrm atOperand allowed ready,
    pm32TakePrefixes host (x86PrefixesMax + 1) (pm32Bare machine.cpu) 0 machine =
        .ok prefixed atModrm ∧
      (prefixed.opcode = x86OpGroup3Byte ∨ prefixed.opcode = x86OpGroup3) ∧
      pm32Decode host prefixed.instruction prefixed.offset atModrm = .ok modrm atOperand ∧
      pm32ProbeRm host modrm prefixed.group3Width false atOperand = .ok () allowed ∧
      (modrm.register = x86Group3Div ∨ modrm.register = x86Group3Idiv) ∧
      pm32ReadRm host modrm prefixed.group3Width allowed = .ok division.operand ready ∧
      division.width = prefixed.group3Width ∧
      division.isSigned = decide (modrm.register = x86Group3Idiv)

theorem pm32OneByte_group3 {prefixed : Pm32Prefixed}
    (hopcode : prefixed.opcode = x86OpGroup3Byte ∨ prefixed.opcode = x86OpGroup3) :
    pm32OneByte host prefixed.instruction prefixed.opcode prefixed.offset =
      pm32Group3 host prefixed.instruction prefixed.opcode prefixed.offset := by
  rcases hopcode with hbyte | hwide
  · rw [hbyte]
    rfl
  · rw [hwide]
    rfl

variable {division : Division} {m machine : Machine Pm32Cpu} {modrm : Pm32Modrm}

theorem pm32Group3Operation_divides_iff (hreads : OnlyReads machine m)
    (hoperand : division.operand.toNat < 2 ^ division.width.bits)
    (hregister : modrm.register = x86Group3Div ∨ modrm.register = x86Group3Idiv)
    (hsigned : division.isSigned = decide (modrm.register = x86Group3Idiv)) (length : Nat) :
    DividesOrDeclines division Pm32Cpu.registers machine
        ((pm32Group3Operation modrm division.width division.operand >>=
          fun _ => advance length) m) ↔
      ¬Pm32Overflows division m.cpu.registers := by
  have hmasked : division.operand &&& widthMask division.width = division.operand := by
    apply eq_of_toNat_eq
    rw [toNat_and_widthMask, toNat_setWidth, Nat.mod_eq_of_lt hoperand]
  have hoperation : pm32Group3Operation modrm division.width division.operand =
      (do
        declineIf (division.operand &&& widthMask division.width = 0)
        if modrm.register = x86Group3Div then pm32Divide division.width division.operand
        else pm32SignedDivide division.width division.operand) := by
    unfold pm32Group3Operation
    rcases hregister with hdiv | hidiv
    · rw [hdiv]
      rfl
    · rw [hidiv]
      rfl
  rw [hoperation]
  exact group3_divides_iff hreads hoperand hregister hsigned (by rw [hmasked]) (fun h => h.2)
    (pm32Divide_divides hoperand · · length) (pm32SignedDivide_divides_iff hreads · · length)

theorem pm32Step_divides_iff (hdivides : Pm32Divides host machine division) :
    DividesOrDeclines division Pm32Cpu.registers machine (pm32Step host machine) ↔
      ¬Pm32Overflows division machine.cpu.registers := by
  obtain ⟨prefixed, atModrm, modrm, atOperand, allowed, ready, hfetch, hopcode, hmodrm, hallowed,
    hregister, hread, hwidth, hsigned⟩ := hdivides
  have hmachine : OnlyReads machine ready :=
    trans_of OnlyReads (trans_of OnlyReads (of_ok hfetch) (of_ok hmodrm))
      (trans_of OnlyReads (of_ok hallowed) (of_ok hread))
  have hoperand : division.operand.toNat < 2 ^ division.width.bits := by
    rw [hwidth]
    exact toNat_lt_of_pm32ReadRm hread
  have hstep : pm32Step host machine =
      (pm32Group3Operation modrm division.width division.operand >>=
        fun _ => advance (prefixed.offset + modrm.length)) ready := by
    unfold pm32Step
    rw [getCpu_bind, bind_of_ok hfetch, pm32OneByte_group3 hopcode]
    unfold pm32Group3
    have hpast : ¬(modrm.register = 0 ∨ modrm.register = 1) := by
      rcases hregister with h | h
      · rw [h]
        decide
      · rw [h]
        decide
    have hprobe : decide (modrm.register = x86Group3Not ∨ modrm.register = x86Group3Neg) =
        false := by
      rcases hregister with h | h
      · rw [h]
        rfl
      · rw [h]
        rfl
    have hfold : (if prefixed.opcode = x86OpGroup3Byte then byte
        else prefixed.instruction.operandSize) = prefixed.group3Width := rfl
    rw [bind_of_ok hmodrm, hprobe, hfold, bind_of_ok hallowed, bind_of_ok hread, if_neg hpast]
    unfold pm32Group3Unary
    rw [hwidth]
  rw [hstep, ← hmachine.1]
  exact pm32Group3Operation_divides_iff hmachine hoperand hregister hsigned _

end Ntvdmex.Host.Pm32

/-!
## The interpreters divide exactly or decline

All but the quotients that trap the host: the minimum divided by -1, of a word in both
interpreters and of a dword in the 16-bit one.
-/

namespace Ntvdmex.Host

open Foundation Interp V86 Pm32 BitVec Or Division Width Leaves

/-- A step of either interpreter that divides does so exactly, or declines with nothing
changed, unless the C type of its quotient does not hold the quotient. -/
theorem steps_divide_exactly_iff (host : V86Host) (machine : Machine V86Cpu) (division : Division)
    (hdivides : V86Divides host machine division) (host' : Pm32Host)
    (machine' : Machine Pm32Cpu) (division' : Division)
    (hdivides' : Pm32Divides host' machine' division') :
    (DividesOrDeclines division V86Cpu.registers machine (v86Step host machine) ↔
        ¬V86Overflows division machine.cpu.registers) ∧
      (DividesOrDeclines division' Pm32Cpu.registers machine' (pm32Step host' machine') ↔
        ¬Pm32Overflows division' machine'.cpu.registers) :=
  ⟨v86Step_divides_iff hdivides, pm32Step_divides_iff hdivides'⟩

/-! ## `IDIV CX` -/

def codeBytes (bytes : List Byte) (linear : Dword) : Byte := bytes.getD linear.toNat 0

def idivHost : V86Host where
  read8 _ := codeBytes [0xF7, 0xF9]
  portIn _ _ _ := 0
  segmentToLinear := none
  selectorDescriptor := none

def idivHost32 : Pm32Host where
  read8 _ := codeBytes [0x66, 0xF7, 0xF9]
  portIn _ _ _ := 0
  canAccess _ _ _ := true

variable (isMinimum : Bool)

/-- `CX` is -1, and `DX:AX` is the minimum or 7. -/
def idivRegisters : Nat → Dword
  | 0 => if isMinimum then 0 else 7
  | 1 => 0xFFFF
  | 2 => if isMinimum then 0x8000 else 0
  | _ => 0

def idivMachine : Machine V86Cpu where
  cpu := { clearedCpu with registers := idivRegisters isMinimum }
  calls := []

def idivMachine32 : Machine Pm32Cpu where
  cpu :=
    { registers := idivRegisters isMinimum, eip := 0, flags := 0, segmentBases := fun _ => 0 }
  calls := []

def wordDivision (divisor : Dword) : Division where
  isSigned := true
  width := .word
  operand := divisor

theorem idivMachine_divides :
    V86Divides idivHost (idivMachine isMinimum) (wordDivision 0xFFFF) := by
  cases isMinimum with
  | false =>
    exact ⟨_, _, v86RegisterOperand 0xF9, _, _, _, rfl, inr rfl, rfl, rfl, inr rfl, rfl, rfl,
      rfl⟩
  | true =>
    exact ⟨_, _, v86RegisterOperand 0xF9, _, _, _, rfl, inr rfl, rfl, rfl, inr rfl, rfl, rfl,
      rfl⟩

theorem idivMachine32_divides :
    Pm32Divides idivHost32 (idivMachine32 isMinimum) (wordDivision 0xFFFF) := by
  cases isMinimum with
  | false =>
    exact ⟨_, _, pm32RegisterOperand 0xF9, _, _, _, rfl, inr rfl, rfl, rfl, inr rfl, rfl, rfl,
      rfl⟩
  | true =>
    exact ⟨_, _, pm32RegisterOperand 0xF9, _, _, _, rfl, inr rfl, rfl, rfl, inr rfl, rfl, rfl,
      rfl⟩

theorem steps_divide_seven :
    (DividesOrDeclines (wordDivision 0xFFFF) V86Cpu.registers (idivMachine false)
          (v86Step idivHost (idivMachine false)) ↔
        ¬V86Overflows (wordDivision 0xFFFF) (idivRegisters false)) ∧
      (DividesOrDeclines (wordDivision 0xFFFF) Pm32Cpu.registers (idivMachine32 false)
          (pm32Step idivHost32 (idivMachine32 false)) ↔
        ¬Pm32Overflows (wordDivision 0xFFFF) (idivRegisters false)) :=
  steps_divide_exactly_iff _ _ _ (idivMachine_divides false) _ _ _ (idivMachine32_divides false)

theorem idivRegisters_isMinimumByMinusOne :
    (wordDivision 0xFFFF).IsMinimumByMinusOne (idivRegisters true) :=
  ⟨rfl, by decide, by decide⟩

/-- `IDIV CX` with `DX:AX` at its minimum and `CX` at -1 traps the host in both interpreters. -/
theorem steps_trap_at_wordMinimum :
    (V86Divides idivHost (idivMachine true) (wordDivision 0xFFFF) ∧
        ¬DividesOrDeclines (wordDivision 0xFFFF) V86Cpu.registers (idivMachine true)
          (v86Step idivHost (idivMachine true))) ∧
      Pm32Divides idivHost32 (idivMachine32 true) (wordDivision 0xFFFF) ∧
        ¬DividesOrDeclines (wordDivision 0xFFFF) Pm32Cpu.registers (idivMachine32 true)
          (pm32Step idivHost32 (idivMachine32 true)) := by
  have hminimum := idivRegisters_isMinimumByMinusOne
  refine ⟨⟨idivMachine_divides true, fun hexact => ?_⟩, idivMachine32_divides true,
    fun hexact => ?_⟩
  · exact (v86Step_divides_iff (idivMachine_divides true)).mp hexact ⟨by decide, hminimum⟩
  · exact (pm32Step_divides_iff (idivMachine32_divides true)).mp hexact ⟨rfl, hminimum⟩

end Ntvdmex.Host
