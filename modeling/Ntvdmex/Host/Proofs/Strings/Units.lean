import Ntvdmex.Foundation.InstructionPointer
import Ntvdmex.Host.Proofs.Arithmetic.Sums
import Ntvdmex.Host.Proofs.Strings.Elements
import Ntvdmex.Host.Proofs.V86.Effects

/-!
# The string instructions of the 16-bit interpreter

`STOS`, `MOVS`, `LODS`, `CMPS` and `SCAS` as units, and a prefix as their repetition.
-/

namespace Ntvdmex.Host.V86

open Foundation Interp StringUnit StringUse Function BitVec

/-- What a string instruction reads before its loop. -/
structure StringParameters where
  sourceBase : Dword
  extraBase : Dword
  direction : Word
  accumulator : Dword

section Units

variable (host : V86Host) (instruction : V86Instruction) (width : Width)

/-- The bases and the direction. -/
def stringParameters (accumulator : Dword) (cpu : V86Cpu) : StringParameters where
  sourceBase := v86SegmentBase host (cpu.segments (instruction.segmentOr x86SregDs))
  extraBase := v86SegmentBase host (cpu.segments x86SregEs)
  direction := v86Direction cpu width
  accumulator

def stosUnit : StringUnit StringParameters where
  uses := { source := false, destination := true }
  parameters cpu := stringParameters host instruction width (cpu.registers x86RegAx) cpu
  element parameters indices := do
    v86WriteElement parameters.extraBase indices.destination width parameters.accumulator
    return { indices with destination := indices.destination + parameters.direction }
  ends _ _ := false

def movsUnit : StringUnit StringParameters where
  uses := { source := true, destination := true }
  parameters cpu := stringParameters host instruction width 0 cpu
  element parameters indices := do
    v86MoveElement host parameters.sourceBase parameters.extraBase indices width
    return { source := indices.source + parameters.direction
             destination := indices.destination + parameters.direction }
  ends _ _ := false

def lodsUnit : StringUnit StringParameters where
  uses := { source := true, destination := false }
  parameters cpu := stringParameters host instruction width 0 cpu
  element parameters indices := do
    let value ← v86ReadElement host parameters.sourceBase indices.source width.bytes
    setRegister x86RegAx width value
    return { indices with source := indices.source + parameters.direction }
  ends _ _ := false

/-- `CMPS` and `SCAS`. -/
def compareUnit (isScas : Bool) : StringUnit StringParameters where
  uses := { source := !isScas, destination := true }
  parameters cpu := stringParameters host instruction width 0 cpu
  element parameters indices := do
    let second ← v86ReadElement host parameters.extraBase indices.destination width.bytes
    let first ← v86CompareFirst host isScas parameters.sourceBase indices width
    let _ ← subtract first second false width
    return {
      source := if isScas then indices.source else indices.source + parameters.direction
      destination := indices.destination + parameters.direction }
  ends := v86CompareEnds

end Units

/-! ## The instructions are the units -/

section Loops

variable (host : V86Host) (instruction : V86Instruction) (opcode : Byte) (offset : Nat)
  (parameters : StringParameters) (width : Width)
variable (count : Nat) (indices : V86Indices)

theorem stosUnit_loop :
    (stosUnit host instruction width).loop instruction parameters count indices =
      (v86StosLoop parameters.extraBase parameters.accumulator width parameters.direction count
          indices.destination >>= fun index =>
        pure { indices := { indices with destination := index }, count := 0 }) := by
  induction count generalizing indices with
  | zero => rfl
  | succ count ih =>
    rw [loop_succ]
    unfold v86StosLoop
    simp only [stosUnit, bind_assoc, pure_bind]
    apply congrArg
    funext _
    exact ih { indices with destination := indices.destination + parameters.direction }

theorem v86Stos_eq_run :
    v86Stos host instruction opcode offset =
      (stosUnit host instruction (instruction.widthOf opcode)).run instruction offset := by
  unfold v86Stos run
  simp only [stosUnit_loop, bind_assoc, pure_bind]
  rfl

theorem movsUnit_loop :
    (movsUnit host instruction width).loop instruction parameters count indices =
      (v86MovsLoop host parameters.sourceBase parameters.extraBase width parameters.direction
          count indices >>= fun done => pure { indices := done, count := 0 }) := by
  induction count generalizing indices with
  | zero => rfl
  | succ count ih =>
    rw [loop_succ]
    unfold v86MovsLoop
    simp only [movsUnit, bind_assoc, pure_bind]
    apply congrArg
    funext _
    exact ih _

theorem v86Movs_eq_run :
    v86Movs host instruction opcode offset =
      (movsUnit host instruction (instruction.widthOf opcode)).run instruction offset := by
  unfold v86Movs run
  simp only [movsUnit_loop, bind_assoc, pure_bind]
  rfl

theorem lodsUnit_loop :
    (lodsUnit host instruction width).loop instruction parameters count indices =
      (v86LodsLoop host parameters.sourceBase width parameters.direction count
          indices.source >>= fun index =>
        pure { indices := { indices with source := index }, count := 0 }) := by
  induction count generalizing indices with
  | zero => rfl
  | succ count ih =>
    rw [loop_succ]
    unfold v86LodsLoop
    simp only [lodsUnit, bind_assoc, pure_bind]
    apply congrArg
    funext value
    apply congrArg
    funext _
    exact ih { indices with source := indices.source + parameters.direction }

theorem v86Lods_eq_run :
    v86Lods host instruction opcode offset =
      (lodsUnit host instruction (instruction.widthOf opcode)).run instruction offset := by
  unfold v86Lods run
  simp only [lodsUnit_loop, bind_assoc, pure_bind]
  rfl

theorem compareUnit_loop (isScas : Bool) (count : Nat) (indices : V86Indices) :
    (compareUnit host instruction width isScas).loop instruction parameters count indices =
      v86CompareLoop host instruction isScas parameters.sourceBase parameters.extraBase width
        parameters.direction count indices := by
  induction count generalizing indices with
  | zero => rfl
  | succ count ih =>
    rw [loop_succ]
    unfold v86CompareLoop
    simp only [← ih]
    simp only [compareUnit, bind_assoc, pure_bind]
    rfl

theorem v86Compare_eq_run :
    v86Compare host instruction opcode offset =
      (compareUnit host instruction (instruction.widthOf opcode) (x86OpScasb ≤ opcode)).run
        instruction offset := by
  have hstore (isScas : Bool) (indices : V86Indices) (after : V86Action Unit) :
      (onlyIf (isScas = false) (set16 x86RegSi indices.source) >>= fun _ =>
        set16 x86RegDi indices.destination >>= fun _ => after) =
      (modifyCpu (storeIndices { source := !isScas, destination := true } indices) >>=
        fun _ => after) := by
    cases isScas <;> rfl
  unfold v86Compare run
  simp only [compareUnit_loop, hstore]
  rfl

end Loops

section Lawful

variable {host : V86Host} {instruction : V86Instruction} {width : Width}

section

variable {index : Nat} (h : index = x86RegSi ∨ index = x86RegDi ∨ index = x86RegCx) (cpu : V86Cpu)
    (value : Word)

include h cpu value

theorem accumulator_set16 :
    (v86Set16 cpu index value).registers x86RegAx = cpu.registers x86RegAx := by
  apply registers_v86Set16_of_ne
  rcases h with rfl | rfl | rfl <;> decide

theorem v86SetRegister_set16 (loaded : Dword) :
    v86SetRegister (v86Set16 cpu index value) x86RegAx loaded width =
      v86Set16 (v86SetRegister cpu x86RegAx loaded width) index value := by
  have hne : index % 8 ≠ 0 := by rcases h with rfl | rfl | rfl <;> decide
  have hzero : x86RegAx % 8 = 0 := rfl
  have hax : x86RegAx = 0 := rfl
  have hassign (stored : Dword) : (v86Set16 cpu index value).assign 0 stored =
      v86Set16 (cpu.assign 0 stored) index value := by
    unfold v86Set16 V86Cpu.assign
    dsimp only
    rw [update_of_ne hne, update_comm hne]
  have hregister : (v86Set16 cpu index value).registers 0 = cpu.registers 0 :=
    registers_v86Set16_of_ne _ _ hne.symm
  cases width with
  | byte =>
    have hbyte : (0 : Nat) < x86ByteRegisters := by decide
    unfold v86SetRegister v86Set8
    rw [hax, if_pos hbyte, if_pos hbyte, hregister, hassign]
  | word =>
    unfold v86SetRegister
    exact (v86Set16_comm _ _ _ (hzero.symm ▸ hne.symm)).symm ▸ rfl
  | dword =>
    unfold v86SetRegister
    rw [hzero, hassign]

end

variable {change : V86Cpu → V86Cpu}

deriving instance Commutes change for v86WriteElement

instance commutes_readElement (base : Dword) (index : Word) (bytes : Nat) :
    Commutes change (v86ReadElement host base index bytes) := by
  induction bytes with
  | zero => exact commutes_pure _
  | succ position ih =>
    unfold v86ReadElement
    infer_instance

deriving instance Commutes change for v86MoveElement

section Keeps

variable {δ : Type} {f : V86Cpu → δ}

deriving instance Leaves (SameCpu f) for v86WriteElement, v86MoveElement, v86CompareFirst

end Keeps

theorem direction_subtract (cpu : V86Cpu) (first second : Dword) :
    v86Direction (v86Subtract cpu first second false width).2 width = v86Direction cpu width := by
  have hdf : hasFlag (v86Subtract cpu first second false width).2.flags eflagsDf =
      hasFlag cpu.flags eflagsDf := by
    unfold v86Subtract
    rw [hasFlag_bit _ eflagsDf 10 rfl (by decide), hasFlag_bit _ eflagsDf 10 rfl (by decide)]
    unfold resultFlags
    simp only [getLsbD_or, getLsbD_and, getLsbD_not, getLsbD_flagIf]
    simp [arithmeticFlags, eflagsCf, eflagsPf, eflagsAf, eflagsZf, eflagsSf, eflagsOf]
  unfold v86Direction
  rw [hdf]

theorem stringParameters_place (uses : StringUse) (accumulator : V86Cpu → Dword)
    (haccumulator : ∀ cpu index value,
      index = x86RegSi ∨ index = x86RegDi ∨ index = x86RegCx →
        accumulator (v86Set16 cpu index value) = accumulator cpu)
    (next : V86Indices) (count : Nat) (cpu : V86Cpu) :
    stringParameters host instruction width (accumulator (uses.place next count cpu))
        (uses.place next count cpu) =
      stringParameters host instruction width (accumulator cpu) cpu :=
  place_keeps
    (f := fun cpu => stringParameters host instruction width (accumulator cpu) cpu)
    (fun cpu index value hindex => by
      rw [haccumulator cpu index value hindex]
      rfl)
    next count cpu

/-! ### The units -/

theorem stosUnit_lawful : (stosUnit host instruction width).Lawful instruction where
  parameters_place := stringParameters_place _ (fun cpu => cpu.registers x86RegAx)
    fun cpu _ value hindex => accumulator_set16 hindex cpu value
  ends_place _ _ _ := rfl
  keeps parameters indices := by
    unfold stosUnit
    infer_instance
  keepsIndices parameters indices := by
    unfold stosUnit
    infer_instance
  completes parameters indices := by
    unfold stosUnit
    infer_instance
  source := by
    intro parameters indices next m m' hnext _
    obtain ⟨_, between, -, hreturn⟩ := bind_ok hnext
    cases hreturn
    rfl
  destination _ _ _ _ _ _ huses := by cases huses
  commutes parameters indices next count := by
    unfold stosUnit
    infer_instance

theorem movsUnit_lawful : (movsUnit host instruction width).Lawful instruction where
  parameters_place := stringParameters_place _ (fun _ => 0) fun _ _ _ _ => rfl
  ends_place _ _ _ := rfl
  keeps parameters indices := by
    unfold movsUnit
    infer_instance
  keepsIndices parameters indices := by
    unfold movsUnit
    infer_instance
  completes parameters indices := by
    unfold movsUnit
    infer_instance
  source _ _ _ _ _ _ huses := by cases huses
  destination _ _ _ _ _ _ huses := by cases huses
  commutes parameters indices next count := by
    unfold movsUnit
    infer_instance

theorem setRegister_keeps (host : V86Host) (instruction : V86Instruction) (width : Width)
    (value : Dword) :
    Leaves (SameCpu (stringParameters host instruction width 0))
        (setRegister x86RegAx width value) ∧
      Leaves (SameCpu fun cpu => (v86Get16 cpu x86RegSi, v86Get16 cpu x86RegDi))
        (setRegister x86RegAx width value) := by
  have hregister (cpu : V86Cpu) (index : Nat) (hindex : index ≠ 0) :
      (v86SetRegister cpu x86RegAx value width).registers index = cpu.registers index := by
    cases width with
    | byte => exact update_of_ne hindex _ _
    | word => exact update_of_ne hindex _ _
    | dword => exact update_of_ne hindex _ _
  constructor
  · apply sameCpu_modifyCpu
    intro cpu
    cases width <;> rfl
  · apply sameCpu_modifyCpu
    intro cpu
    unfold v86Get16
    rw [hregister cpu _ (by decide), hregister cpu _ (by decide)]

theorem lodsUnit_lawful : (lodsUnit host instruction width).Lawful instruction where
  parameters_place := stringParameters_place _ (fun _ => 0) fun _ _ _ _ => rfl
  ends_place _ _ _ := rfl
  keeps parameters indices := by
    have hset (value : Dword) := (setRegister_keeps host instruction width value).1
    unfold lodsUnit
    infer_instance
  keepsIndices parameters indices := by
    have hset (value : Dword) := (setRegister_keeps host instruction width value).2
    unfold lodsUnit
    infer_instance
  completes parameters indices := by
    unfold lodsUnit
    infer_instance
  source _ _ _ _ _ _ huses := by cases huses
  destination := by
    intro parameters indices next m m' hnext _
    obtain ⟨_, between, -, hset⟩ := bind_ok hnext
    obtain ⟨_, between, -, hreturn⟩ := bind_ok hset
    cases hreturn
    rfl
  commutes parameters indices next count := by
    have hset (value : Dword) : Commutes (place { source := true, destination := false }
        next count) (setRegister x86RegAx width value) :=
      commutes_modifyCpu
        (place_comm (fun cpu => v86SetRegister cpu x86RegAx value width)
          fun cpu _ stored hindex => v86SetRegister_set16 hindex cpu stored value)
    unfold lodsUnit
    infer_instance

theorem commutes_compareFirst (host : V86Host) (width : Width) (isScas : Bool) (uses : StringUse)
    (next : V86Indices) (count : Nat)
    (sourceBase : Dword) (indices : V86Indices) :
    Commutes (uses.place next count)
      (v86CompareFirst host isScas sourceBase indices width) := by
  have hregister (cpu : V86Cpu) :
      v86GetRegister (uses.place next count cpu) x86RegAx width =
        v86GetRegister cpu x86RegAx width := by
    apply place_keeps (f := fun cpu => v86GetRegister cpu x86RegAx width)
    intro cpu index value hindex
    have haccumulator := accumulator_set16 hindex cpu value
    cases width with
    | byte => exact congrArg (fun register : Dword => (register.setWidth 8).setWidth 32) haccumulator
    | word => exact congrArg (fun register : Dword => (register.setWidth 16).setWidth 32) haccumulator
    | dword => exact haccumulator
  cases isScas with
  | true =>
    apply commutes_getCpu_bind
    intro cpu
    rw [hregister]
  | false => exact commutes_readElement _ _ _

theorem compareUnit_lawful (isScas : Bool) :
    (compareUnit host instruction width isScas).Lawful instruction where
  parameters_place := stringParameters_place _ (fun _ => 0) fun _ _ _ _ => rfl
  ends_place := place_keeps fun _ _ _ _ => rfl
  keeps parameters indices := by
    have hsubtract (first second : Dword) :
        Leaves (SameCpu (stringParameters host instruction width 0))
          (subtract first second false width) := by
      apply sameCpu_updateCpu
      intro cpu
      unfold stringParameters
      rw [direction_subtract]
      rfl
    unfold compareUnit
    infer_instance
  keepsIndices parameters indices := by
    have hsubtract (first second : Dword) :
        Leaves (SameCpu fun cpu => (v86Get16 cpu x86RegSi, v86Get16 cpu x86RegDi))
          (subtract first second false width) :=
      sameCpu_updateCpu fun _ => rfl
    unfold compareUnit
    infer_instance
  completes parameters indices := by
    unfold compareUnit
    infer_instance
  source := by
    intro parameters indices next m m' hnext huses
    obtain ⟨second, atFirst, -, hfirst⟩ := bind_ok hnext
    obtain ⟨first, atSubtract, -, hsubtract⟩ := bind_ok hfirst
    obtain ⟨_, between, -, hreturn⟩ := bind_ok hsubtract
    cases hreturn
    cases isScas with
    | true => rfl
    | false => cases huses
  destination _ _ _ _ _ _ huses := by cases huses
  commutes parameters indices next count := by
    have hfirst := commutes_compareFirst host width isScas
      { source := !isScas, destination := true } next count parameters.sourceBase indices
    have hsubtract (first second : Dword) :
        Commutes (place { source := !isScas, destination := true } next count)
          (subtract first second false width) :=
      commutes_updateCpu (fun _ => rfl)
        (place_comm (fun cpu => (v86Subtract cpu first second false width).2)
          fun _ _ _ _ => rfl)
    unfold compareUnit
    infer_instance

end Lawful

/-!
## A prefixed string instruction is the unprefixed one repeated

On any host: the processor, and every read and write in its order, are the same.
-/

def IsStos (opcode : Byte) : Prop := opcode = x86OpStosb ∨ opcode = x86OpStos
deriving Decidable

def IsMovs (opcode : Byte) : Prop := opcode = x86OpMovsb ∨ opcode = x86OpMovs
deriving Decidable

def IsLods (opcode : Byte) : Prop := opcode = x86OpLodsb ∨ opcode = x86OpLods
deriving Decidable

def IsCompare (opcode : Byte) : Prop :=
  opcode = x86OpCmpsb ∨ opcode = x86OpCmps ∨ opcode = x86OpScasb ∨ opcode = x86OpScas
deriving Decidable

/-- `STOS`, `MOVS`, `LODS`, `CMPS` and `SCAS`. -/
def IsString (opcode : Byte) : Prop :=
  IsStos opcode ∨ IsMovs opcode ∨ IsLods opcode ∨ IsCompare opcode

/-- The unprefixed instruction executed, and the count decremented, until it is 0.  `REPE` and
`REPNE` of a comparison end on ZF. -/
def v86RepeatString (host : V86Host) (instruction : V86Instruction) (opcode : Byte) :
    Nat → V86Action Unit
  | 0 => return ()
  | count + 1 => do
    v86OneByte host { instruction with repeated := 0 } opcode 0
    set16 x86RegCx (BitVec.ofNat 16 count)
    let cpu ← getCpu
    if IsCompare opcode ∧ v86CompareEnds instruction cpu = true then return ()
    else v86RepeatString host instruction opcode count

theorem v86RepeatString_succ (host : V86Host) (instruction : V86Instruction) (opcode : Byte)
    (count : Nat) :
    v86RepeatString host instruction opcode (count + 1) =
      (do
        v86OneByte host { instruction with repeated := 0 } opcode 0
        set16 x86RegCx (BitVec.ofNat 16 count)
        let cpu ← getCpu
        if IsCompare opcode ∧ v86CompareEnds instruction cpu = true then return ()
        else v86RepeatString host instruction opcode count) := rfl

/-! ## The unit of an opcode -/

section UnitOf

variable (host : V86Host) (instruction : V86Instruction) (opcode : Byte)

def stringUnitOf : StringUnit StringParameters :=
  if IsStos opcode then stosUnit host instruction (instruction.widthOf opcode)
  else if IsMovs opcode then movsUnit host instruction (instruction.widthOf opcode)
  else if IsLods opcode then lodsUnit host instruction (instruction.widthOf opcode)
  else compareUnit host instruction (instruction.widthOf opcode) (x86OpScasb ≤ opcode)

theorem stringUnitOf_lawful : (stringUnitOf host instruction opcode).Lawful instruction := by
  unfold stringUnitOf
  split_ifs
  · exact stosUnit_lawful
  · exact movsUnit_lawful
  · exact lodsUnit_lawful
  · exact compareUnit_lawful _

variable {host instruction opcode}

theorem v86OneByte_eq_run (hopcode : IsString opcode) (offset : Nat) :
    v86OneByte host instruction opcode offset =
      (stringUnitOf host instruction opcode).run instruction offset := by
  rcases hopcode with (h | h) | (h | h) | (h | h) | (h | h | h | h)
  · rw [h]
    exact v86Stos_eq_run host instruction x86OpStosb offset
  · rw [h]
    exact v86Stos_eq_run host instruction x86OpStos offset
  · rw [h]
    exact v86Movs_eq_run host instruction x86OpMovsb offset
  · rw [h]
    exact v86Movs_eq_run host instruction x86OpMovs offset
  · rw [h]
    exact v86Lods_eq_run host instruction x86OpLodsb offset
  · rw [h]
    exact v86Lods_eq_run host instruction x86OpLods offset
  · rw [h]
    exact v86Compare_eq_run host instruction x86OpCmpsb offset
  · rw [h]
    exact v86Compare_eq_run host instruction x86OpCmps offset
  · rw [h]
    exact v86Compare_eq_run host instruction x86OpScasb offset
  · rw [h]
    exact v86Compare_eq_run host instruction x86OpScas offset

theorem stringUnitOf_ends (hopcode : IsString opcode) (cpu : V86Cpu) :
    (stringUnitOf host instruction opcode).ends instruction cpu = true ↔
      IsCompare opcode ∧ v86CompareEnds instruction cpu = true := by
  unfold stringUnitOf
  rcases hopcode with (h | h) | (h | h) | (h | h) | h
  iterate 6
    · rw [h]
      exact iff_of_false Bool.false_ne_true fun hends => absurd hends.1 (by decide)
  · have hothers : ¬IsStos opcode ∧ ¬IsMovs opcode ∧ ¬IsLods opcode := by
      rcases h with h | h | h | h <;> rw [h] <;> decide
    rw [if_neg hothers.1, if_neg hothers.2.1, if_neg hothers.2.2]
    exact (and_iff_right h).symm

theorem repeats_eq_repeatString (hopcode : IsString opcode) (count : Nat) :
    (stringUnitOf host instruction opcode).repeats instruction count =
      v86RepeatString host instruction opcode count := by
  induction count with
  | zero => rfl
  | succ count ih =>
    have hunit : stringUnitOf host { instruction with repeated := 0 } opcode =
        stringUnitOf host instruction opcode := rfl
    rw [repeats_succ, ih, v86RepeatString_succ, v86OneByte_eq_run hopcode, hunit]
    simp only [stringUnitOf_ends hopcode]

end UnitOf

variable {host : V86Host} {machine between : Machine V86Cpu} {fetched : V86Fetched}

theorem v86Execute_string (hopcode : IsString fetched.opcode) :
    v86Execute host fetched =
      v86OneByte host fetched.instruction fetched.opcode fetched.offset := by
  unfold v86Execute
  rw [if_neg]
  rcases hopcode with (h | h) | (h | h) | (h | h) | (h | h | h | h) <;> rw [h] <;> decide

theorem v86Step_eq_repeatString (hfetch : v86Fetch host machine = .ok fetched between)
    (hopcode : IsString fetched.opcode) (hrepeated : fetched.instruction.repeated ≠ 0) :
    v86Step host machine =
      (v86RepeatString host fetched.instruction fetched.opcode
          (v86Get16 machine.cpu x86RegCx).toNat >>= fun _ => advance fetched.offset) between := by
  rw [v86Step_of_fetch hfetch, v86Execute_string hopcode, v86OneByte_eq_run hopcode,
    run_eq_repeats (stringUnitOf_lawful _ _ _) hrepeated, repeats_eq_repeatString hopcode,
    (onlyReads_of_fetch hfetch).1]

end Ntvdmex.Host.V86
