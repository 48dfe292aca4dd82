import Ntvdmex.Host.Proofs.X86Len.Lengths

/-!
# The decoder on any array

An array that does not hold the whole instruction is answered 0.  The decoder's position runs at
most 8 bytes past the last byte that it has tested, so it stays a `UINT` where the array ends 8
bytes before the last `UINT`.
-/

namespace Ntvdmex.Host.X86Len

open Foundation Option BitVec Or

variable {code : Nat → Byte} {bytes : List Byte} {start length : Dword}

variable {position total entry : Nat} {isDefault32 isAddress32 isOperand32 : Bool}

def Settles (start length : Dword) (total : Nat) (answer : Option Dword) : Prop :=
  (start.toNat + total ≤ length.toNat ∧ answer = some (BitVec.ofNat 32 total)) ∨ answer = some 0

theorem toNat_before (h : start.toNat + position < 2 ^ 32) :
    (start + BitVec.ofNat 32 position).toNat = start.toNat + position := by
  rw [toNat_add, toNat_ofNat]
  lia

/-- What an end that is still a `UINT` is answered. -/
theorem x86LengthFrom_settles (h : start.toNat + total < 2 ^ 32) :
    Settles start length total
      (some (x86LengthFrom start length (start + BitVec.ofNat 32 total))) := by
  by_cases hend : start.toNat + total ≤ length.toNat
  · exact inl ⟨hend, congrArg some (x86LengthFrom_eq hend)⟩
  · right
    unfold x86LengthFrom
    rw [if_neg]
    rw [le_def, toNat_before h]
    exact hend

theorem le_at (h : start.toNat + position < 2 ^ 32) (hend : length.toNat ≤ start.toNat + position)
    : length ≤ start + BitVec.ofNat 32 position := by
  rw [le_def, toNat_before h]
  exact hend

theorem modeBytes_le (mode : Nat) (isAddress32 : Bool) : modeBytes mode isAddress32 ≤ 4 := by
  unfold modeBytes
  split_ifs <;> omega

theorem displacement_le (mode : Nat) (isAddress32 : Bool) {c : Prop} [Decidable c] {size : Nat}
    (hsize : size ≤ 4) :
    (if mode = 0 ∧ c then size else 0) + modeBytes mode isAddress32 ≤ 4 := by
  have hmode := modeBytes_le mode isAddress32
  by_cases hzero : mode = 0 ∧ c
  · have hnone : modeBytes mode isAddress32 = 0 := by
      rw [hzero.1]
      rfl
    rw [if_pos hzero, hnone]
    exact hsize
  · rw [if_neg hzero]
    omega

theorem modrmBytes_le_tested (code : Nat → Byte) (position : Nat) (isAddress32 : Bool) :
    (HasSib code position isAddress32 → modrmBytes code position isAddress32 ≤ 6) ∧
      (¬HasSib code position isAddress32 → modrmBytes code position isAddress32 ≤ 5) := by
  constructor
  · intro hsib
    have hle := displacement_le (modrmMode (code position)) true
      (c := modrmRegisterMemory (code (position + 1)) = 5) (by decide : 4 ≤ 4)
    rw [modrmBytes_of_sib hsib]
    lia
  · intro hsib
    have hle32 := displacement_le (modrmMode (code position)) true
      (c := modrmRegisterMemory (code position) = 5) (by decide : 4 ≤ 4)
    have hle16 := displacement_le (modrmMode (code position)) false
      (c := modrmRegisterMemory (code position) = 6) (by decide : 2 ≤ 4)
    unfold modrmBytes
    by_cases hmode : modrmMode (code position) = 3
    · rw [if_pos hmode]
      lia
    rw [if_neg hmode]
    by_cases hwide : isAddress32 = true
    · rw [if_pos hwide, if_neg fun hrm => hsib ⟨hmode, hwide, hrm⟩]
      lia
    · rw [if_neg hwide]
      lia

/-- A ModRM byte in the array: its length, with at most 4 bytes after the last that was tested,
or 0 without its SIB byte. -/
theorem x86ModrmLength_cases (hholds : Holds code bytes start length) (isAddress32 : Bool)
    (hposition : start.toNat + position < length.toNat) (hlength : length.toNat + 9 ≤ 2 ^ 32) :
    (x86ModrmLength bytes (start + BitVec.ofNat 32 position) length isAddress32 =
        some (BitVec.ofNat 32 (modrmBytes code position isAddress32)) ∧
      start.toNat + position + modrmBytes code position isAddress32 ≤ length.toNat + 4) ∨
    x86ModrmLength bytes (start + BitVec.ofNat 32 position) length isAddress32 = some 0 := by
  obtain ⟨hwithSib, hwithout⟩ := modrmBytes_le_tested code position isAddress32
  by_cases hsib : HasSib code position isAddress32
  · by_cases hinside : start.toNat + (position + 1) < length.toNat
    · exact inl ⟨x86ModrmLength_of_tested hholds hposition fun _ => hinside, by lia⟩
    · right
      obtain ⟨hmode, rfl, hrm⟩ := hsib
      have hregister : x86ModeRegister = 3 := rfl
      have hsibField : x86RmSib = 4 := rfl
      have hnext : start + BitVec.ofNat 32 position + 1 =
          start + BitVec.ofNat 32 (position + 1) := add_ofNat_ofNat position 1
      unfold x86ModrmLength
      rw [if_neg (not_le_at hposition), hholds.at hposition, bind_eq_bind,
        bind_some, hregister, if_neg hmode, if_pos rfl]
      unfold x86ModrmLength32
      rw [hsibField, if_pos hrm, hnext, if_pos (le_at (by lia) (by lia))]
  · exact inl ⟨x86ModrmLength_of_tested hholds hposition fun h => absurd h hsib, by lia⟩

/-! ## Opcodes -/

theorem immediateBytes_le (kind : Nat) (isOperand32 isAddress32 isTest : Bool) :
    immediateBytes kind isOperand32 isAddress32 isTest ≤ if kind = 6 then 6 else 4 := by
  have hfar : xlFar = 6 := rfl
  have hoperand (wide : Bool) : operandBytes wide ≤ 4 := by cases wide <;> decide
  have hoperand32 := hoperand isOperand32
  have haddress32 := hoperand isAddress32
  by_cases hkind : kind = 6
  · rw [if_pos hkind, hkind]
    change operandBytes isOperand32 + 2 ≤ 6
    lia
  · rw [if_neg hkind]
    unfold immediateBytes
    rw [hfar, if_neg hkind]
    split_ifs <;> lia

theorem x86FinishLength_settles {kind : Nat} (length : Dword) (hkind : kind ≤ 8)
    (prefixed : X86Prefixed) (registerField : Option Nat)
    (hend : start.toNat + position + immediateBytes kind prefixed.isOperand32 prefixed.isAddress32
      (registerField.any fun field => field < 2) < 2 ^ 32) :
    Settles start length
      (position + immediateBytes kind prefixed.isOperand32 prefixed.isAddress32
        (registerField.any fun field => field < 2))
      (some (x86FinishLength start length prefixed (start + BitVec.ofNat 32 position) kind
        registerField)) := by
  unfold x86FinishLength
  rw [x86ImmediateSize_eq hkind]
  dsimp only
  rw [add_ofNat_ofNat]
  exact x86LengthFrom_settles (by omega)

/-- An entry that is not far after a ModRM byte. -/
structure IsEntry (entry : Nat) : Prop where
  kind : entry % 16 ≤ 8
  modrm : entry / 16 = 1 → entry % 16 ≠ 6

theorem x86OneByteEntry_isEntry (opcode : Byte) : IsEntry (x86OneByteEntry opcode) := by
  have hmodrm : ∀ opcode : Byte, x86OneByteEntry opcode / 16 = 1 →
      x86OneByteEntry opcode % 16 ≠ 6 := by
    decide +kernel
  exact ⟨x86OneByteEntry_kind opcode, hmodrm opcode⟩

theorem x86TwoByteEntry_isEntry (opcode : Byte) : IsEntry (x86TwoByteEntry opcode) := by
  refine ⟨x86TwoByteEntry_kind opcode, ?_⟩
  unfold x86TwoByteEntry
  split_ifs <;> decide

section

variable (hholds : Holds code bytes start length) (hlength : length.toNat + 9 ≤ 2 ^ 32)

include hholds hlength

theorem x86EntryLength_settles (hentry : IsEntry entry) (prefixed : X86Prefixed)
    (hposition : start.toNat + position ≤ length.toNat) :
    Settles start length
      (position + entryBytes code position entry prefixed.isOperand32 prefixed.isAddress32)
      (x86EntryLength bytes start length prefixed (start + BitVec.ofNat 32 position) entry) := by
  unfold x86EntryLength entryBytes
  by_cases hmodrm : entry / 16 = 1
  · rw [if_pos hmodrm, if_pos hmodrm]
    by_cases hinside : start.toNat + position < length.toNat
    · rw [if_neg (not_le_at hinside), hholds.at hinside, bind_eq_bind, bind_some]
      rcases x86ModrmLength_cases hholds prefixed.isAddress32 hinside hlength with
        ⟨hmodrmLength, htested⟩ | hmodrmLength
      · have himmediate := immediateBytes_le (entry % 16) prefixed.isOperand32
          prefixed.isAddress32 (isTestForm code position)
        rw [if_neg (hentry.modrm hmodrm)] at himmediate
        have hfits : start.toNat + (position + modrmBytes code position prefixed.isAddress32) +
            immediateBytes (entry % 16) prefixed.isOperand32 prefixed.isAddress32
              (isTestForm code position) < 2 ^ 32 := by
          lia
        have hfinish := x86FinishLength_settles length hentry.kind prefixed
          (some (modrmRegister (code position))) hfits
        rw [hmodrmLength, bind_eq_bind, bind_some,
          if_neg (modrmBytes_ne_zero code position prefixed.isAddress32), add_ofNat_ofNat,
          ← Nat.add_assoc]
        exact hfinish
      · right
        rw [hmodrmLength]
        rfl
    · right
      rw [if_pos (le_at (by lia) (by lia))]
  · rw [if_neg hmodrm, if_neg hmodrm]
    have himmediate : immediateBytes (entry % 16) prefixed.isOperand32 prefixed.isAddress32
        false ≤ 6 :=
      (immediateBytes_le _ _ _ _).trans (by split <;> lia)
    have hfits : start.toNat + position + immediateBytes (entry % 16) prefixed.isOperand32
        prefixed.isAddress32 false < 2 ^ 32 := by
      lia
    exact x86FinishLength_settles length hentry.kind prefixed none hfits

variable (prefixed : X86Prefixed)

theorem x86ThreeByteLength_settles (opcode2 : Byte)
    (hposition : start.toNat + position ≤ length.toNat) : Settles start length
      (position + (1 + modrmBytes code (position + 1) prefixed.isAddress32 +
        (if opcode2 = x86Escape3a then 1 else 0)))
      (x86ThreeByteLength bytes start length prefixed (start + BitVec.ofNat 32 position)
        opcode2) := by
  have hnext : start + BitVec.ofNat 32 position + 1 = start + BitVec.ofNat 32 (position + 1) :=
    add_ofNat_ofNat position 1
  have hextra : (if opcode2 = x86Escape3a then 1 else 0 : Dword) =
      BitVec.ofNat 32 (if opcode2 = x86Escape3a then 1 else 0) := by
    split <;> rfl
  have hone : (if opcode2 = x86Escape3a then 1 else 0 : Nat) ≤ 1 := by
    split <;> lia
  unfold x86ThreeByteLength
  by_cases hinside : start.toNat + position < length.toNat
  · rw [if_neg (not_le_at hinside), hnext]
    by_cases hmodrm : start.toNat + (position + 1) < length.toNat
    · rcases x86ModrmLength_cases hholds prefixed.isAddress32 hmodrm hlength with
        ⟨hmodrmLength, htested⟩ | hmodrmLength
      · rw [hmodrmLength, bind_eq_bind, bind_some,
          if_neg (modrmBytes_ne_zero code _ _), hextra, add_ofNat_ofNat, add_ofNat_ofNat,
          Nat.add_assoc position 1, ← Nat.add_assoc 1]
        exact x86LengthFrom_settles (by lia)
      · right
        rw [hmodrmLength]
        rfl
    · right
      have hend : x86ModrmLength bytes (start + BitVec.ofNat 32 (position + 1)) length
          prefixed.isAddress32 = some 0 := by
        unfold x86ModrmLength
        rw [if_pos (le_at (by lia) (by lia))]
      rw [hend]
      rfl
  · right
    rw [if_pos (le_at (by lia) (by lia))]

theorem x86OpcodeLength_settles (hoffset : prefixed.offset = start + BitVec.ofNat 32 position)
    (hposition : start.toNat + position ≤ length.toNat) : Settles start length
      (position + opcodeBytes code position prefixed.isOperand32 prefixed.isAddress32)
      (x86OpcodeLength bytes start length prefixed) := by
  have hnext : ∀ next : Nat, start + BitVec.ofNat 32 next + 1 = start + BitVec.ofNat 32 (next + 1) :=
    fun next => add_ofNat_ofNat next 1
  unfold x86OpcodeLength
  rw [hoffset]
  by_cases hinside : start.toNat + position < length.toNat
  · rw [if_neg (not_le_at hinside), hholds.at hinside, bind_eq_bind, bind_some]
    unfold opcodeBytes
    by_cases hescape : code position = x86Escape
    · rw [if_pos hescape, if_pos hescape, hnext, ← Nat.add_assoc]
      unfold x86EscapedLength
      by_cases hsecond : start.toNat + (position + 1) < length.toNat
      · rw [if_neg (not_le_at hsecond), hholds.at hsecond, bind_eq_bind, bind_some]
        unfold escapedBytes
        by_cases hthree : code (position + 1) = x86Escape38 ∨ code (position + 1) = x86Escape3a
        · rw [if_pos hthree, if_pos hthree, hnext, ← Nat.add_assoc]
          exact x86ThreeByteLength_settles hholds hlength prefixed _ (by lia)
        · rw [if_neg hthree, if_neg hthree, hnext, ← Nat.add_assoc]
          exact x86EntryLength_settles hholds hlength (x86TwoByteEntry_isEntry _) prefixed
            (by lia)
      · right
        rw [if_pos (le_at (by lia) (by lia))]
    · rw [if_neg hescape, if_neg hescape, hnext, ← Nat.add_assoc]
      exact x86EntryLength_settles hholds hlength (x86OneByteEntry_isEntry _) prefixed (by lia)
  · right
    rw [if_pos (le_at (by lia) (by lia))]

end

/-- The prefix loop gives up, comes to the end of the array, or comes to the opcode. -/
theorem x86SkipPrefixes_cases (hholds : Holds code bytes start length)
    (hlength : length.toNat + 9 ≤ 2 ^ 32) (isDefault32 : Bool) (rounds : Nat)
    (hposition : start.toNat + position ≤ length.toNat)
    (hprefixes : ∀ earlier < position, x86IsPrefix (code earlier) = true) :
    x86SkipPrefixes bytes length isDefault32 rounds (prefixedAt code start isDefault32 position) =
        some none ∨
      ∃ count, count < position + rounds ∧ start.toNat + count ≤ length.toNat ∧
        x86SkipPrefixes bytes length isDefault32 rounds
            (prefixedAt code start isDefault32 position) =
          some (some (prefixedAt code start isDefault32 count)) ∧
        (start.toNat + count < length.toNat → HasPrefixes code count) := by
  induction rounds generalizing position with
  | zero => exact inl rfl
  | succ rounds ih =>
    unfold x86SkipPrefixes
    by_cases hinside : start.toNat + position < length.toNat
    · have hread := hholds.at hinside
      have hnot : ¬length ≤ (prefixedAt code start isDefault32 position).offset :=
        not_le_at hinside
      change bytes[(prefixedAt code start isDefault32 position).offset.toNat]? = _ at hread
      rw [if_neg hnot, hread, bind_eq_bind, bind_some]
      by_cases hprefix : x86IsPrefix (code position) = true
      · rw [if_pos hprefix, prefixedAt_succ]
        have hnext : ∀ earlier < position + 1, x86IsPrefix (code earlier) = true := by
          intro earlier hearlier
          rcases Nat.lt_succ_iff_lt_or_eq.mp hearlier with hlt | rfl
          · exact hprefixes earlier hlt
          · exact hprefix
        rcases ih (by lia) hnext with hnone | ⟨count, hcount, hend, hskipped, hfound⟩
        · exact inl hnone
        · exact inr ⟨count, by lia, hend, hskipped, hfound⟩
      · rw [if_neg hprefix]
        exact inr ⟨position, by lia, hposition, rfl,
          fun _ => ⟨hprefixes, Bool.eq_false_of_not_eq_true hprefix⟩⟩
    · have hend : length ≤ (prefixedAt code start isDefault32 position).offset :=
        le_at (by lia) (by lia)
      rw [if_pos hend]
      exact inr ⟨position, by lia, hposition, rfl, fun h => absurd h hinside⟩

/-- An instruction whose bytes the array holds, up to `length`. -/
structure Decodes (code : Nat → Byte) (start length : Dword) (isDefault32 : Bool) (total : Nat) :
    Prop where
  fits : start.toNat + total ≤ length.toNat
  instruction : ∃ count ≤ 8, HasPrefixes code count ∧ total = instructionBytes code count isDefault32

theorem prefixedAt_zero (code : Nat → Byte) (start : Dword) (isDefault32 : Bool) :
    prefixedAt code start isDefault32 0 =
      { isOperand32 := isDefault32, isAddress32 := isDefault32, offset := start } := by
  unfold prefixedAt
  rw [sizeAfter_zero, sizeAfter_zero]
  congr 1
  exact BitVec.add_zero _

/-- The decoder answers the length of an instruction that the array holds, or 0. -/
theorem x86InstructionLength_cases (hholds : Holds code bytes start length)
    (hlength : length.toNat + 9 ≤ 2 ^ 32) (isDefault32 : Bool) :
    (∃ total, Decodes code start length isDefault32 total ∧
      x86InstructionLength bytes start length isDefault32 = some (BitVec.ofNat 32 total)) ∨
    x86InstructionLength bytes start length isDefault32 = some 0 := by
  have hmax : x86MaxPrefixes = 8 := rfl
  unfold x86InstructionLength
  rw [← prefixedAt_zero code start isDefault32, hmax]
  by_cases hstart : start.toNat ≤ length.toNat
  · have hnone : ∀ earlier < 0, x86IsPrefix (code earlier) = true :=
      fun earlier h => absurd h (Nat.not_lt_zero earlier)
    rcases x86SkipPrefixes_cases hholds hlength isDefault32 (8 + 1) hstart hnone with
      hskipped | ⟨count, hcount, hend, hskipped, hfound⟩
    · right
      rw [hskipped]
      rfl
    · rw [hskipped, bind_eq_bind, bind_some]
      dsimp only
      by_cases hinside : start.toNat + count < length.toNat
      · rcases x86OpcodeLength_settles hholds hlength (prefixedAt code start isDefault32 count) rfl
          hend with ⟨hfits, hanswer⟩ | hanswer
        · exact inl ⟨_, ⟨hfits, count, by lia, hfound hinside, rfl⟩, hanswer⟩
        · exact inr hanswer
      · right
        have hpast : length ≤ (prefixedAt code start isDefault32 count).offset :=
          le_at (by lia) (by lia)
        unfold x86OpcodeLength
        rw [if_pos hpast]
  · right
    have hpast : length ≤ (prefixedAt code start isDefault32 0).offset := by
      rw [prefixedAt_zero]
      exact le_def.mpr (Nat.le_of_not_le hstart)
    have hskipped : x86SkipPrefixes bytes length isDefault32 (8 + 1)
        (prefixedAt code start isDefault32 0) =
        some (some (prefixedAt code start isDefault32 0)) := by
      unfold x86SkipPrefixes
      rw [if_pos hpast]
    rw [hskipped, bind_eq_bind, bind_some]
    dsimp only
    unfold x86OpcodeLength
    rw [if_pos hpast]

theorem Decodes.answer (hholds : Holds code bytes start length)
    (hdecodes : Decodes code start length isDefault32 total) :
    x86InstructionLength bytes start length isDefault32 = some (BitVec.ofNat 32 total) := by
  obtain ⟨hfits, count, hcount, hprefixes, rfl⟩ := hdecodes
  exact x86InstructionLength_eq hholds hprefixes hcount isDefault32 hfits

/-! ## Bytes outside the instruction -/

section Local

variable {code' : Nat → Byte}

theorem modrmBytes_local
    (h : ∀ i < position + modrmBytes code position isAddress32, code' i = code i) :
    modrmBytes code' position isAddress32 = modrmBytes code position isAddress32 := by
  have hpos := modrmBytes_pos code position isAddress32
  have hfirst := h position (by lia)
  by_cases hsib : HasSib code position isAddress32
  · have hbytes := modrmBytes_of_sib hsib
    have hsib' : HasSib code' position isAddress32 := by
      unfold HasSib
      rw [hfirst]
      exact hsib
    rw [hbytes, modrmBytes_of_sib hsib', hfirst, h (position + 1) (by lia)]
  · unfold modrmBytes
    rw [hfirst]
    by_cases hmode : modrmMode (code position) = 3
    · rw [if_pos hmode, if_pos hmode]
    rw [if_neg hmode, if_neg hmode]
    by_cases hwide : isAddress32 = true
    · have hrm : ¬modrmRegisterMemory (code position) = 4 := fun hrm => hsib ⟨hmode, hwide, hrm⟩
      rw [if_pos hwide, if_pos hwide, if_neg hrm, if_neg hrm]
    · rw [if_neg hwide, if_neg hwide]

theorem entryBytes_local
    (h : ∀ i < position + entryBytes code position entry isOperand32 isAddress32, code' i = code i) :
    entryBytes code' position entry isOperand32 isAddress32 =
      entryBytes code position entry isOperand32 isAddress32 := by
  unfold entryBytes at h ⊢
  by_cases hmodrm : entry / 16 = 1
  · rw [if_pos hmodrm] at h
    rw [if_pos hmodrm, if_pos hmodrm]
    have hpos := modrmBytes_pos code position isAddress32
    have hbytes : modrmBytes code' position isAddress32 = modrmBytes code position isAddress32 :=
      modrmBytes_local fun i hi => h i (by lia)
    have htest : isTestForm code' position = isTestForm code position := by
      unfold isTestForm
      rw [h position (by lia)]
    rw [hbytes, htest]
  · rw [if_neg hmodrm, if_neg hmodrm]

theorem opcodeBytes_local
    (h : ∀ i < position + opcodeBytes code position isOperand32 isAddress32, code' i = code i) :
    opcodeBytes code' position isOperand32 isAddress32 =
      opcodeBytes code position isOperand32 isAddress32 := by
  unfold opcodeBytes at h ⊢
  have hfirst : code' position = code position := by
    apply h
    split <;> lia
  rw [hfirst]
  by_cases hescape : code position = x86Escape
  · rw [if_pos hescape] at h
    rw [if_pos hescape, if_pos hescape]
    unfold escapedBytes at h ⊢
    have hsecond : code' (position + 1) = code (position + 1) := by
      apply h
      split <;> lia
    rw [hsecond]
    by_cases hthree : code (position + 1) = x86Escape38 ∨ code (position + 1) = x86Escape3a
    · rw [if_pos hthree] at h
      rw [if_pos hthree, if_pos hthree, modrmBytes_local fun i hi => h i (by lia)]
    · rw [if_neg hthree] at h
      rw [if_neg hthree, if_neg hthree, entryBytes_local fun i hi => h i (by lia)]
  · rw [if_neg hescape] at h
    rw [if_neg hescape, if_neg hescape, entryBytes_local fun i hi => h i (by lia)]

theorem sizeAfter_local {count : Nat} (h : ∀ i < count, code' i = code i) (sizeOverride : Byte)
    (isDefault32 : Bool) :
    sizeAfter code' sizeOverride isDefault32 count =
      sizeAfter code sizeOverride isDefault32 count := by
  unfold sizeAfter
  have hiff : (∃ position < count, code' position = sizeOverride) ↔
      ∃ position < count, code position = sizeOverride := by
    apply exists_congr
    intro position
    apply and_congr_right
    intro hposition
    rw [h position hposition]
  rw [if_congr hiff rfl rfl]

theorem opcodeBytes_pos (code : Nat → Byte) (position : Nat) (isOperand32 isAddress32 : Bool) :
    0 < opcodeBytes code position isOperand32 isAddress32 := by
  unfold opcodeBytes
  split <;> omega

theorem Decodes.congr {length' : Dword} (hdecodes : Decodes code start length isDefault32 total)
    (hcode : ∀ i < total, code' i = code i) (hlength : length.toNat ≤ length'.toNat) :
    Decodes code' start length' isDefault32 total := by
  obtain ⟨hfits, count, hcount, ⟨hprefixes, hopcode⟩, rfl⟩ := hdecodes
  have hpos := opcodeBytes_pos code count (sizeAfter code x86PrefixOperandSize isDefault32 count)
    (sizeAfter code x86PrefixAddressSize isDefault32 count)
  unfold instructionBytes at hcode hfits
  refine ⟨?_, count, hcount, ⟨?_, ?_⟩, ?_⟩
  · unfold instructionBytes
    lia
  · intro position hposition
    rw [hcode position (by lia)]
    exact hprefixes position hposition
  · rw [hcode count (by lia)]
    exact hopcode
  · unfold instructionBytes
    rw [sizeAfter_local fun i hi => hcode i (by lia),
      sizeAfter_local fun i hi => hcode i (by lia), opcodeBytes_local hcode]

theorem Decodes.pos (hdecodes : Decodes code start length isDefault32 total) : 0 < total := by
  obtain ⟨-, count, -, -, rfl⟩ := hdecodes
  have hpos := opcodeBytes_pos code count (sizeAfter code x86PrefixOperandSize isDefault32 count)
    (sizeAfter code x86PrefixAddressSize isDefault32 count)
  unfold instructionBytes
  omega

end Local

end Ntvdmex.Host.X86Len
