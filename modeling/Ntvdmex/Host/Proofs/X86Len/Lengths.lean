import Ntvdmex.Host.X86Len

/-!
# The length of an instruction

What the prefixes, the opcode and the ModRM byte of an instruction say of its length, over an
unbounded stream of bytes.  `X86InstructionLength` answers that length for every array that
holds the whole instruction.
-/

namespace Ntvdmex.Host.X86Len

open Foundation BitVec Option

variable (code : Nat → Byte)

/-! ## Lengths -/

def modeBytes (mode : Nat) (isAddress32 : Bool) : Nat :=
  if mode = 1 then 1 else if mode = 2 then (if isAddress32 then 4 else 2) else 0

/-- The bytes of the ModRM byte at `position` with what follows it. -/
def modrmBytes (position : Nat) (isAddress32 : Bool) : Nat :=
  let modrm := code position
  if modrmMode modrm = 3 then 1
  else if isAddress32 then
    if modrmRegisterMemory modrm = 4 then
      2 + (if modrmMode modrm = 0 ∧ modrmRegisterMemory (code (position + 1)) = 5 then 4 else 0) +
        modeBytes (modrmMode modrm) true
    else
      1 + (if modrmMode modrm = 0 ∧ modrmRegisterMemory modrm = 5 then 4 else 0) +
        modeBytes (modrmMode modrm) true
  else
    1 + (if modrmMode modrm = 0 ∧ modrmRegisterMemory modrm = 6 then 2 else 0) +
      modeBytes (modrmMode modrm) false

def operandBytes (isOperand32 : Bool) : Nat := if isOperand32 then 4 else 2

def immediateBytes (kind : Nat) (isOperand32 isAddress32 isTest : Bool) : Nat :=
  if kind = xlNone then 0
  else if kind = xlIb then 1
  else if kind = xlIz then operandBytes isOperand32
  else if kind = xlIw then 2
  else if kind = xlMoff then operandBytes isAddress32
  else if kind = xlEnter then 3
  else if kind = xlFar then operandBytes isOperand32 + 2
  else if kind = xlG3b then (if isTest then 1 else 0)
  else (if isTest then operandBytes isOperand32 else 0)

/-- The reg field at `position` is one of group 3's two `TEST`s. -/
def isTestForm (position : Nat) : Bool := modrmRegister (code position) < 2

/-- The bytes after an opcode whose entry is `entry`. -/
def entryBytes (position entry : Nat) (isOperand32 isAddress32 : Bool) : Nat :=
  if entry / 16 = 1 then
    modrmBytes code position isAddress32 +
      immediateBytes (entry % 16) isOperand32 isAddress32 (isTestForm code position)
  else immediateBytes (entry % 16) isOperand32 isAddress32 false

def escapedBytes (position : Nat) (isOperand32 isAddress32 : Bool) : Nat :=
  if code position = x86Escape38 ∨ code position = x86Escape3a then
    1 + (1 + modrmBytes code (position + 1 + 1) isAddress32 +
      (if code position = x86Escape3a then 1 else 0))
  else
    1 + entryBytes code (position + 1) (x86TwoByteEntry (code position)) isOperand32 isAddress32

def opcodeBytes (position : Nat) (isOperand32 isAddress32 : Bool) : Nat :=
  if code position = x86Escape then 1 + escapedBytes code (position + 1) isOperand32 isAddress32
  else
    1 + entryBytes code (position + 1) (x86OneByteEntry (code position)) isOperand32 isAddress32

/-- The prefixes of the instruction are its first `count` bytes. -/
structure HasPrefixes (count : Nat) : Prop where
  prefixes : ∀ position < count, x86IsPrefix (code position) = true
  opcode : x86IsPrefix (code count) = false

variable (sizeOverride : Byte) (isDefault32 : Bool) (count : Nat)

/-- A size after the first `count` bytes: the default, or the other under `sizeOverride`. -/
def sizeAfter : Bool :=
  if ∃ position < count, code position = sizeOverride then !isDefault32 else isDefault32

theorem sizeAfter_zero : sizeAfter code sizeOverride isDefault32 0 = isDefault32 := by
  unfold sizeAfter
  rw [if_neg]
  rintro ⟨position, hposition, -⟩
  exact absurd hposition (Nat.not_lt_zero position)

theorem sizeAfter_succ : sizeAfter code sizeOverride isDefault32 (count + 1) =
      if code count = sizeOverride then !isDefault32
      else sizeAfter code sizeOverride isDefault32 count := by
  unfold sizeAfter
  by_cases hlast : code count = sizeOverride
  · rw [if_pos hlast, if_pos ⟨count, Nat.lt_succ_self count, hlast⟩]
  · rw [if_neg hlast]
    have hiff : (∃ position < count + 1, code position = sizeOverride) ↔
        ∃ position < count, code position = sizeOverride := by
      constructor
      · rintro ⟨position, hposition, hcode⟩
        have hne : position ≠ count := fun h => hlast (h ▸ hcode)
        exact ⟨position, by omega, hcode⟩
      · rintro ⟨position, hposition, hcode⟩
        exact ⟨position, by omega, hcode⟩
    rw [if_congr hiff rfl rfl]

/-- The bytes of the whole instruction after `count` prefixes. -/
def instructionBytes (isDefault32 : Bool) : Nat :=
  count + opcodeBytes code count (sizeAfter code x86PrefixOperandSize isDefault32 count)
    (sizeAfter code x86PrefixAddressSize isDefault32 count)

/-! ## The decoder on an array that holds the instruction -/

/-- The array holds the stream from `start` on, up to `length`. -/
structure Holds (bytes : List Byte) (start length : Dword) : Prop where
  sees : ∀ position, start.toNat + position < length.toNat →
    bytes[start.toNat + position]? = some (code position)

variable {code} {bytes : List Byte} {start length : Dword}
variable {position : Nat}

theorem toNat_at (h : start.toNat + position ≤ length.toNat) :
    (start + BitVec.ofNat 32 position).toNat = start.toNat + position := by
  have hlength := length.isLt
  rw [toNat_add, toNat_ofNat]
  lia

theorem not_le_at (h : start.toNat + position < length.toNat) :
    ¬length ≤ start + BitVec.ofNat 32 position := by
  rw [le_def, toNat_at (Nat.le_of_lt h)]
  omega

theorem Holds.at (hholds : Holds code bytes start length) {position : Nat}
    (h : start.toNat + position < length.toNat) :
    bytes[(start + BitVec.ofNat 32 position).toNat]? = some (code position) := by
  rw [toNat_at (Nat.le_of_lt h)]
  exact hholds.sees position h

theorem add_ofNat_ofNat (position more : Nat) :
    start + BitVec.ofNat 32 position + BitVec.ofNat 32 more =
      start + BitVec.ofNat 32 (position + more) := by
  rw [BitVec.add_assoc, BitVec.ofNat_add]

theorem x86ModeDisplacement_eq (mode : Nat) (isAddress32 : Bool) :
    x86ModeDisplacement mode isAddress32 = BitVec.ofNat 32 (modeBytes mode isAddress32) := by
  have hdisp8 : x86ModeDisp8 = 1 := rfl
  have hfull : x86ModeDispFull = 2 := rfl
  unfold x86ModeDisplacement modeBytes
  rw [hdisp8, hfull]
  split
  · rfl
  · split
    · cases isAddress32 <;> rfl
    · rfl

/-- The ModRM byte has a SIB byte after it. -/
def HasSib (code : Nat → Byte) (position : Nat) (isAddress32 : Bool) : Prop :=
  modrmMode (code position) ≠ 3 ∧ isAddress32 = true ∧ modrmRegisterMemory (code position) = 4

theorem x86ModrmLength_of_tested (hholds : Holds code bytes start length) {isAddress32 : Bool}
    (hposition : start.toNat + position < length.toNat)
    (hsib : HasSib code position isAddress32 → start.toNat + (position + 1) < length.toNat) :
    x86ModrmLength bytes (start + BitVec.ofNat 32 position) length isAddress32 =
      some (BitVec.ofNat 32 (modrmBytes code position isAddress32)) := by
  have hregister : x86ModeRegister = 3 := rfl
  unfold x86ModrmLength
  rw [if_neg (not_le_at hposition), hholds.at hposition, bind_eq_bind, bind_some,
    hregister]
  unfold modrmBytes
  by_cases hmode : modrmMode (code position) = 3
  · rw [if_pos hmode, if_pos hmode]
    rfl
  rw [if_neg hmode, if_neg hmode]
  cases isAddress32 with
  | false =>
    rw [if_neg Bool.false_ne_true, if_neg Bool.false_ne_true]
    unfold x86ModrmLength16
    rw [x86ModeDisplacement_eq, ofNat_add, ofNat_add]
    have hrm : x86Rm16Disp16 = 6 := rfl
    rw [hrm]
    split <;> rfl
  | true =>
    rw [if_pos rfl, if_pos rfl]
    have hsibField : x86RmSib = 4 := rfl
    have hdisp32 : x86RmDisp32 = 5 := rfl
    unfold x86ModrmLength32
    rw [hsibField, hdisp32, x86ModeDisplacement_eq]
    by_cases hrm : modrmRegisterMemory (code position) = 4
    · rw [if_pos hrm, if_pos hrm]
      have hinside := hsib ⟨hmode, rfl, hrm⟩
      have hone : start + BitVec.ofNat 32 position + 1 =
          start + BitVec.ofNat 32 (position + 1) := add_ofNat_ofNat position 1
      rw [hone, if_neg (not_le_at hinside)]
      unfold x86SibDisplacement
      rw [hholds.at hinside]
      by_cases hzero : modrmMode (code position) = 0
      · rw [if_pos hzero]
        by_cases hbase : modrmRegisterMemory (code (position + 1)) = 5
        · rw [if_pos ⟨hzero, hbase⟩, hzero]
          simp only [bind_eq_bind, bind_some, hdisp32, if_pos hbase]
          rfl
        · rw [if_neg fun h => hbase h.2, hzero]
          simp only [bind_eq_bind, bind_some, hdisp32, if_neg hbase]
          rfl
      · rw [if_neg hzero, if_neg fun h => hzero h.1, Nat.add_zero, ofNat_add]
        rfl
    · rw [if_neg hrm, if_neg hrm, ofNat_add, ofNat_add]
      split <;> rfl

theorem modrmBytes_of_sib {isAddress32 : Bool} (h : HasSib code position isAddress32) :
    modrmBytes code position isAddress32 =
      2 + (if modrmMode (code position) = 0 ∧
          modrmRegisterMemory (code (position + 1)) = 5 then 4 else 0) +
        modeBytes (modrmMode (code position)) true := by
  obtain ⟨hmode, rfl, hrm⟩ := h
  unfold modrmBytes
  rw [if_neg hmode, if_pos rfl, if_pos hrm]

theorem modrmBytes_pos (code : Nat → Byte) (position : Nat) (isAddress32 : Bool) :
    0 < modrmBytes code position isAddress32 := by
  unfold modrmBytes
  split_ifs <;> lia

theorem x86ModrmLength_eq (hholds : Holds code bytes start length) {isAddress32 : Bool}
    (hend : start.toNat + position + modrmBytes code position isAddress32 ≤ length.toNat) :
    x86ModrmLength bytes (start + BitVec.ofNat 32 position) length isAddress32 =
      some (BitVec.ofNat 32 (modrmBytes code position isAddress32)) := by
  have hpos := modrmBytes_pos code position isAddress32
  refine x86ModrmLength_of_tested hholds (by lia) fun hsib => ?_
  rw [modrmBytes_of_sib hsib] at hend
  lia

theorem modrmBytes_le (code : Nat → Byte) (position : Nat) (isAddress32 : Bool) :
    modrmBytes code position isAddress32 ≤ 10 := by
  have hmode : ∀ mode wide, modeBytes mode wide ≤ 4 := by
    intro mode wide
    unfold modeBytes
    split_ifs <;> lia
  have hwide := hmode (modrmMode (code position)) true
  have hnarrow := hmode (modrmMode (code position)) false
  unfold modrmBytes
  split_ifs <;> lia

theorem modrmBytes_ne_zero (code : Nat → Byte) (position : Nat) (isAddress32 : Bool) :
    BitVec.ofNat 32 (modrmBytes code position isAddress32) ≠ 0 := by
  have hpos := modrmBytes_pos code position isAddress32
  have hle := modrmBytes_le code position isAddress32
  intro hzero
  have htoNat := congrArg BitVec.toNat hzero
  rw [toNat_ofNat, Nat.mod_eq_of_lt (by omega)] at htoNat
  exact absurd htoNat (Nat.ne_of_gt hpos)

theorem x86ImmediateSize_eq {kind : Nat} (hkind : kind ≤ 8) (prefixed : X86Prefixed)
    (registerField : Option Nat) :
    x86ImmediateSize kind prefixed registerField =
      some (BitVec.ofNat 32 (immediateBytes kind prefixed.isOperand32 prefixed.isAddress32
        (registerField.any fun field => field < 2))) := by
  unfold x86ImmediateSize
  have hforms : x86Group3ImmediateForms = 2 := rfl
  rw [hforms]
  cases registerField.any fun field => decide (field < 2) <;>
    cases prefixed.isOperand32 <;> cases prefixed.isAddress32 <;> interval_cases kind <;> rfl

theorem x86LengthFrom_eq {count : Nat} (hend : start.toNat + count ≤ length.toNat) :
    x86LengthFrom start length (start + BitVec.ofNat 32 count) = BitVec.ofNat 32 count := by
  have hle : start + BitVec.ofNat 32 count ≤ length := by
    rw [le_def, toNat_at hend]
    exact hend
  unfold x86LengthFrom
  rw [if_pos hle, BitVec.add_comm, BitVec.add_sub_cancel]

theorem x86FinishLength_eq {kind : Nat} (hkind : kind ≤ 8) (prefixed : X86Prefixed)
    (registerField : Option Nat)
    (hend : start.toNat + position + immediateBytes kind prefixed.isOperand32 prefixed.isAddress32
      (registerField.any fun field => field < 2) ≤ length.toNat) :
    x86FinishLength start length prefixed (start + BitVec.ofNat 32 position) kind registerField =
      BitVec.ofNat 32 (position + immediateBytes kind prefixed.isOperand32 prefixed.isAddress32
        (registerField.any fun field => field < 2)) := by
  unfold x86FinishLength
  rw [x86ImmediateSize_eq hkind]
  dsimp only
  rw [add_ofNat_ofNat, x86LengthFrom_eq (by omega)]

/-- What follows an opcode, where it ends by the end of the array. -/
theorem x86EntryLength_eq (hholds : Holds code bytes start length) {entry : Nat}
    (hkind : entry % 16 ≤ 8) (prefixed : X86Prefixed)
    (hend : start.toNat + position + entryBytes code position entry prefixed.isOperand32
      prefixed.isAddress32 ≤ length.toNat) :
    x86EntryLength bytes start length prefixed (start + BitVec.ofNat 32 position) entry =
      some (BitVec.ofNat 32 (position +
        entryBytes code position entry prefixed.isOperand32 prefixed.isAddress32)) := by
  unfold x86EntryLength
  unfold entryBytes at hend ⊢
  by_cases hmodrm : entry / 16 = 1
  · rw [if_pos hmodrm] at hend
    rw [if_pos hmodrm, if_pos hmodrm]
    have hpos := modrmBytes_pos code position prefixed.isAddress32
    rw [if_neg (not_le_at (by lia)), hholds.at (by lia), x86ModrmLength_eq hholds (by lia)]
    simp only [bind_eq_bind, bind_some]
    rw [if_neg (modrmBytes_ne_zero code position prefixed.isAddress32), add_ofNat_ofNat,
      x86FinishLength_eq hkind prefixed _ ?_]
    · rw [Nat.add_assoc]
      rfl
    · change start.toNat + (position + modrmBytes code position prefixed.isAddress32) +
        immediateBytes (entry % 16) prefixed.isOperand32 prefixed.isAddress32
          (isTestForm code position) ≤ length.toNat
      lia
  · rw [if_neg hmodrm] at hend
    rw [if_neg hmodrm, if_neg hmodrm, x86FinishLength_eq hkind prefixed none hend]
    rfl

theorem x86OneByteEntry_kind : ∀ opcode : Byte, x86OneByteEntry opcode % 16 ≤ 8 := by
  decide +kernel

theorem x86TwoByteEntry_kind (opcode : Byte) : x86TwoByteEntry opcode % 16 ≤ 8 := by
  unfold x86TwoByteEntry
  split_ifs <;> decide

theorem x86ThreeByteLength_eq (hholds : Holds code bytes start length) (prefixed : X86Prefixed)
    (opcode2 : Byte)
    (hend : start.toNat + position + (1 + modrmBytes code (position + 1) prefixed.isAddress32 +
      (if opcode2 = x86Escape3a then 1 else 0)) ≤ length.toNat) :
    x86ThreeByteLength bytes start length prefixed (start + BitVec.ofNat 32 position) opcode2 =
      some (BitVec.ofNat 32 (position + (1 + modrmBytes code (position + 1) prefixed.isAddress32 +
        (if opcode2 = x86Escape3a then 1 else 0)))) := by
  have hnext : start + BitVec.ofNat 32 position + 1 = start + BitVec.ofNat 32 (position + 1) :=
    add_ofNat_ofNat position 1
  have hextra : (if opcode2 = x86Escape3a then 1 else 0 : Dword) =
      BitVec.ofNat 32 (if opcode2 = x86Escape3a then 1 else 0) := by
    split <;> rfl
  unfold x86ThreeByteLength
  rw [if_neg (not_le_at (by lia)), hnext, x86ModrmLength_eq hholds (by lia),
    bind_eq_bind, bind_some, if_neg (modrmBytes_ne_zero code _ _), hextra,
    add_ofNat_ofNat, add_ofNat_ofNat, x86LengthFrom_eq (by lia)]
  congr 2
  lia

theorem x86OpcodeLength_eq (hholds : Holds code bytes start length) {prefixed : X86Prefixed}
    (hoffset : prefixed.offset = start + BitVec.ofNat 32 position)
    (hend : start.toNat + (position + opcodeBytes code position prefixed.isOperand32
      prefixed.isAddress32) ≤ length.toNat) :
    x86OpcodeLength bytes start length prefixed =
      some (BitVec.ofNat 32 (position +
        opcodeBytes code position prefixed.isOperand32 prefixed.isAddress32)) := by
  have hnext : ∀ next : Nat, start + BitVec.ofNat 32 next + 1 = start + BitVec.ofNat 32 (next + 1) :=
    fun next => add_ofNat_ofNat next 1
  unfold opcodeBytes at hend ⊢
  unfold x86OpcodeLength
  rw [hoffset]
  by_cases hescape : code position = x86Escape
  · rw [if_pos hescape] at hend
    rw [if_pos hescape, if_neg (not_le_at (by lia)), hholds.at (by lia), bind_eq_bind,
      bind_some, if_pos hescape, hnext]
    unfold escapedBytes at hend ⊢
    unfold x86EscapedLength
    by_cases hthree : code (position + 1) = x86Escape38 ∨ code (position + 1) = x86Escape3a
    · rw [if_pos hthree] at hend
      rw [if_pos hthree, if_neg (not_le_at (by lia)), hholds.at (by lia), bind_eq_bind,
        bind_some, if_pos hthree, hnext]
      rw [x86ThreeByteLength_eq hholds prefixed _ (by lia)]
      congr 2
      lia
    · rw [if_neg hthree] at hend
      rw [if_neg hthree, if_neg (not_le_at (by lia)), hholds.at (by lia), bind_eq_bind,
        bind_some, if_neg hthree, hnext,
        x86EntryLength_eq hholds (x86TwoByteEntry_kind _) prefixed (by lia)]
      congr 2
      lia
  · rw [if_neg hescape] at hend
    rw [if_neg hescape, if_neg (not_le_at (by lia)), hholds.at (by lia), bind_eq_bind,
      bind_some, if_neg hescape, hnext,
      x86EntryLength_eq hholds (x86OneByteEntry_kind _) prefixed (by lia)]
    congr 2
    lia

/-- The state of the prefix loop after the first `position` bytes. -/
def prefixedAt (code : Nat → Byte) (start : Dword) (isDefault32 : Bool) (position : Nat) :
    X86Prefixed where
  isOperand32 := sizeAfter code x86PrefixOperandSize isDefault32 position
  isAddress32 := sizeAfter code x86PrefixAddressSize isDefault32 position
  offset := start + BitVec.ofNat 32 position

theorem prefixedAt_succ (code : Nat → Byte) (start : Dword) (isDefault32 : Bool) (position : Nat) :
    (prefixedAt code start isDefault32 position).take isDefault32 (code position) =
      prefixedAt code start isDefault32 (position + 1) := by
  unfold prefixedAt X86Prefixed.take
  rw [sizeAfter_succ, sizeAfter_succ]
  congr 1
  exact add_ofNat_ofNat position 1

theorem x86SkipPrefixes_eq (hholds : Holds code bytes start length) {count : Nat}
    (hprefixes : HasPrefixes code count) (isDefault32 : Bool)
    (hend : start.toNat + count < length.toNat) {rounds position : Nat}
    (hposition : position ≤ count) (hrounds : count < position + rounds) :
    x86SkipPrefixes bytes length isDefault32 rounds (prefixedAt code start isDefault32 position) =
      some (some (prefixedAt code start isDefault32 count)) := by
  induction rounds generalizing position with
  | zero => lia
  | succ rounds ih =>
    unfold x86SkipPrefixes
    have hread := @Holds.at _ _ _ _ hholds position (by lia)
    have hinside : ¬length ≤ (prefixedAt code start isDefault32 position).offset :=
      not_le_at (by lia)
    change bytes[(prefixedAt code start isDefault32 position).offset.toNat]? = _ at hread
    rw [if_neg hinside, hread, bind_eq_bind, bind_some]
    rcases Nat.lt_or_eq_of_le hposition with hlt | rfl
    · rw [if_pos (hprefixes.prefixes position hlt), prefixedAt_succ]
      exact ih hlt (by lia)
    · rw [if_neg (by rw [hprefixes.opcode]; exact Bool.false_ne_true), pure_def]

/-- `X86InstructionLength` of an array that holds the whole instruction is its length. -/
theorem x86InstructionLength_eq (hholds : Holds code bytes start length) {count : Nat}
    (hprefixes : HasPrefixes code count) (hcount : count ≤ 8) (isDefault32 : Bool)
    (hend : start.toNat + instructionBytes code count isDefault32 ≤ length.toNat) :
    x86InstructionLength bytes start length isDefault32 =
      some (BitVec.ofNat 32 (instructionBytes code count isDefault32)) := by
  have hopcode : 0 < opcodeBytes code count
      (sizeAfter code x86PrefixOperandSize isDefault32 count)
      (sizeAfter code x86PrefixAddressSize isDefault32 count) := by
    unfold opcodeBytes
    split <;> lia
  have hmax : x86MaxPrefixes = 8 := rfl
  have hstart : ({ isOperand32 := isDefault32, isAddress32 := isDefault32, offset := start } :
      X86Prefixed) = prefixedAt code start isDefault32 0 := by
    unfold prefixedAt
    rw [sizeAfter_zero, sizeAfter_zero, BitVec.add_zero]
  unfold instructionBytes at hend ⊢
  unfold x86InstructionLength
  rw [hstart, x86SkipPrefixes_eq hholds hprefixes isDefault32 (by lia) (Nat.zero_le count)
    (by lia), bind_eq_bind, bind_some]
  exact x86OpcodeLength_eq hholds rfl hend

end Ntvdmex.Host.X86Len
