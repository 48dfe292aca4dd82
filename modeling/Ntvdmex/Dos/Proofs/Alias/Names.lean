import Ntvdmex.Dos.Alias

/-!
# Alias names

Every alias is a legal 8.3 name in upper case, and two numbers never give one
long name the same alias: the suffix starts at the last tilde in front of the
extension, and the digits behind it determine the number.
-/

namespace Ntvdmex.Dos.Alias

open Foundation List

variable (first second : List UInt8)

/-- The two names are the same when ASCII case is not looked at. -/
def SameName : Prop :=
  first.map dosAliasUpper = second.map dosAliasUpper
deriving Decidable

theorem SameName.symm {first second : List UInt8} (h : SameName first second) :
    SameName second first :=
  Eq.symm h

theorem SameName.trans {first second third : List UInt8} (h : SameName first second)
    (h' : SameName second third) : SameName first third :=
  Eq.trans h h'

theorem dosAliasSameText_iff :
    dosAliasSameText first second none = true ↔ SameName first second := by
  unfold SameName
  induction first generalizing second with
  | nil => cases second <;> simp [dosAliasSameText]
  | cons character first ih =>
    cases second with
    | nil => simp [dosAliasSameText]
    | cons other second => simp [dosAliasSameText, ih]

theorem dosAliasSameText_length {length : Nat} (hlength : first.length ≤ length) :
    dosAliasSameText first second (some length) = dosAliasSameText first second none := by
  induction first generalizing second length with
  | nil => simp [dosAliasSameText]
  | cons character first ih =>
    rw [length_cons] at hlength
    have hpos : some length ≠ some 0 := by
      intro heq
      rw [Option.some.inj heq] at hlength
      omega
    have hrest : first.length ≤ length - 1 := by omega
    cases second with
    | nil => simp [dosAliasSameText, hpos]
    | cons other second => simp [dosAliasSameText, hpos, ih second hrest]

/-! ## Characters -/

def IsAliasCharacter (c : UInt8) : Prop :=
  dosAliasUpper c = c ∧ dosAliasIsBadCharacter c = false ∧ c ≠ asciiDot
deriving Decidable

theorem isAliasCharacter_of_not_blank (c : UInt8) :
    isBlank c = false → IsAliasCharacter (dosAliasCharacter c) :=
  forall_byte (p := fun c => isBlank c = false → IsAliasCharacter (dosAliasCharacter c))
    (by decide) c

theorem dosAliasUpper_idem (c : UInt8) : dosAliasUpper (dosAliasUpper c) = dosAliasUpper c :=
  forall_byte (p := fun c => dosAliasUpper (dosAliasUpper c) = dosAliasUpper c)
    (by decide) c

variable {text : List UInt8} {c : UInt8}

theorem isAliasCharacter_digit (hc : IsDigit c) : IsAliasCharacter c ∧ c ≠ asciiTilde := by
  have hall : ∀ digit < 10, IsAliasCharacter (UInt8.ofNat (0x30 + digit)) ∧
      UInt8.ofNat (0x30 + digit) ≠ asciiTilde := by decide
  obtain ⟨digit, hdigit, rfl⟩ := hc
  exact hall digit hdigit

theorem isAliasCharacter_tilde : IsAliasCharacter asciiTilde := by decide

theorem isAliasCharacter_substitute : IsAliasCharacter dosAliasSubstitute := by decide

/-! ## The parts of an alias -/

theorem isAliasCharacter_of_mem_aliasText {limit : Nat} (hc : c ∈ aliasText text limit) :
    IsAliasCharacter c := by
  obtain ⟨source, hsource, rfl⟩ := mem_map.mp hc
  have hkept := of_mem_filter (mem_of_mem_take hsource)
  exact isAliasCharacter_of_not_blank source (by simpa using hkept)

theorem length_aliasText_le (text : List UInt8) (limit : Nat) :
    (aliasText text limit).length ≤ limit := by
  rw [aliasText, length_map]
  exact length_take_le _ _

theorem isAliasCharacter_of_mem_aliasBase {longName : List UInt8} (hc : c ∈ aliasBase longName) :
    IsAliasCharacter c := by
  unfold aliasBase at hc
  dsimp only at hc
  split_ifs at hc with hempty
  · rw [mem_singleton.mp hc]
    exact isAliasCharacter_substitute
  · exact isAliasCharacter_of_mem_aliasText hc

theorem isAliasCharacter_of_mem_aliasExtension {longName : List UInt8}
    (hc : c ∈ aliasExtension longName) : IsAliasCharacter c := by
  unfold aliasExtension at hc
  dsimp only at hc
  cases hdot : lastDot (longName.dropWhile isBlank) with
  | none => rw [hdot] at hc; cases hc
  | some dot => rw [hdot] at hc; exact isAliasCharacter_of_mem_aliasText hc

theorem length_aliasExtension_le (longName : List UInt8) :
    (aliasExtension longName).length ≤ dosAliasExtensionLength := by
  unfold aliasExtension
  dsimp only
  cases lastDot (longName.dropWhile isBlank) with
  | none => exact Nat.zero_le _
  | some dot => exact length_aliasText_le _ _

theorem isAliasCharacter_of_mem_aliasSuffix {number : Nat} (hc : c ∈ aliasSuffix number) :
    IsAliasCharacter c := by
  rcases mem_cons.mp hc with rfl | hdigit
  · exact isAliasCharacter_tilde
  · exact (isAliasCharacter_digit (isDigit_of_mem_decimalText hdigit)).1

theorem length_aliasSuffix_le (number : Nat) : (aliasSuffix number).length ≤ 8 := by
  have hdigits : (decimalText dosAliasDecimalDigits
      (if dosAliasMaxNumber < number then dosAliasMaxNumber else number)).length ≤
      dosAliasDecimalDigits := length_decimalText_le (by decide) _
  rw [aliasSuffix, length_cons]
  exact Nat.succ_le_succ hdigits

/-- The stem and the suffix: what stands in front of the dot. -/
def aliasHead (longName : List UInt8) (number : Nat) : List UInt8 :=
  (aliasBase longName).take (dosAliasBaseLength - (aliasSuffix number).length)
    ++ aliasSuffix number

def aliasTail (longName : List UInt8) : List UInt8 :=
  if aliasExtension longName = [] then [] else asciiDot :: aliasExtension longName

theorem dosAliasMake_eq (longName : List UInt8) (number : Nat) :
    dosAliasMake longName number = aliasHead longName number ++ aliasTail longName := rfl

theorem isAliasCharacter_of_mem_aliasHead {longName : List UInt8} {number : Nat}
    (hc : c ∈ aliasHead longName number) : IsAliasCharacter c := by
  rcases mem_append.mp hc with hstem | hsuffix
  · exact isAliasCharacter_of_mem_aliasBase (mem_of_mem_take hstem)
  · exact isAliasCharacter_of_mem_aliasSuffix hsuffix

section

variable (longName : List UInt8) (number : Nat)

include longName number

theorem length_aliasHead_le :
    (aliasHead longName number).length ≤ dosAliasBaseLength := by
  have hsuffix := length_aliasSuffix_le number
  have hstem : ((aliasBase longName).take
      (dosAliasBaseLength - (aliasSuffix number).length)).length ≤
      dosAliasBaseLength - (aliasSuffix number).length := length_take_le _ _
  unfold dosAliasBaseLength at hstem ⊢
  rw [aliasHead, dosAliasBaseLength, length_append]
  omega

theorem aliasHead_ne_nil :
    aliasHead longName number ≠ [] := by
  unfold aliasHead aliasSuffix
  simp

theorem dosAliasMake_ne_nil :
    dosAliasMake longName number ≠ [] := by
  rw [dosAliasMake_eq]
  exact append_ne_nil_of_left_ne_nil (aliasHead_ne_nil longName number) _

theorem map_upper_dosAliasMake :
    (dosAliasMake longName number).map dosAliasUpper = dosAliasMake longName number := by
  have hdot : dosAliasUpper asciiDot = asciiDot := by decide
  have hupper : ∀ c ∈ dosAliasMake longName number, dosAliasUpper c = id c := by
    intro c hc
    rw [dosAliasMake_eq, mem_append] at hc
    rcases hc with hhead | htail
    · exact (isAliasCharacter_of_mem_aliasHead hhead).1
    · unfold aliasTail at htail
      split_ifs at htail
      · cases htail
      · rcases mem_cons.mp htail with rfl | hextension
        · exact hdot
        · exact (isAliasCharacter_of_mem_aliasExtension hextension).1
  rw [map_congr_left hupper, map_id]

end

theorem shortNameRest_base (htext : ∀ c ∈ text, IsAliasCharacter c) {baseLength : Nat}
    (hlength : baseLength + text.length ≤ dosAliasBaseLength) (rest : List UInt8) :
    shortNameRest baseLength none (text ++ rest) =
      shortNameRest (baseLength + text.length) none rest := by
  induction text generalizing baseLength with
  | nil => rfl
  | cons c text ih =>
    obtain ⟨-, hgood, hdot⟩ := htext c mem_cons_self
    rw [length_cons] at hlength ⊢
    have hfits : ¬ dosAliasBaseLength < baseLength + 1 := by lia
    rw [cons_append, shortNameRest, if_neg hdot, hgood]
    simp only [Bool.false_eq_true, if_false, if_neg hfits]
    rw [ih (fun other hother => htext other (mem_cons_of_mem c hother)) (by lia)]
    congr 1
    lia

theorem shortNameRest_extension (htext : ∀ c ∈ text, IsAliasCharacter c)
    {baseLength extensionLength : Nat} (hbase : 0 < baseLength)
    (hlength : extensionLength + text.length ≤ dosAliasExtensionLength) :
    shortNameRest baseLength (some extensionLength) text = true := by
  induction text generalizing extensionLength with
  | nil => simpa [shortNameRest] using hbase
  | cons c text ih =>
    obtain ⟨-, hgood, hdot⟩ := htext c mem_cons_self
    rw [length_cons] at hlength
    have hfits : ¬ dosAliasExtensionLength < extensionLength + 1 := by lia
    rw [shortNameRest, if_neg hdot, hgood]
    simp only [Bool.false_eq_true, if_false, if_neg hfits]
    exact ih (fun other hother => htext other (mem_cons_of_mem c hother)) (by lia)

theorem dosAliasIsShortName_make (longName : List UInt8) (number : Nat) :
    dosAliasIsShortName (dosAliasMake longName number) = true := by
  have hhead : ∀ c ∈ aliasHead longName number, IsAliasCharacter c :=
    fun c hc => isAliasCharacter_of_mem_aliasHead hc
  have hlength := length_aliasHead_le longName number
  have hpos := length_pos_of_ne_nil (aliasHead_ne_nil longName number)
  have hrest : shortNameRest 0 none (aliasHead longName number ++ aliasTail longName) = true := by
    rw [shortNameRest_base hhead (by omega), Nat.zero_add]
    unfold aliasTail
    split_ifs with hextension
    · simpa [shortNameRest] using hpos
    · rw [shortNameRest, if_pos rfl]
      refine shortNameRest_extension (fun c hc => isAliasCharacter_of_mem_aliasExtension hc) hpos ?_
      rw [Nat.zero_add]
      exact length_aliasExtension_le longName
  rw [dosAliasMake_eq]
  cases hcase : aliasHead longName number with
  | nil => exact absurd hcase (aliasHead_ne_nil longName number)
  | cons c head =>
    have hdot : c ≠ asciiDot := (hhead c (hcase ▸ mem_cons_self)).2.2
    rw [hcase] at hrest
    rw [cons_append] at hrest ⊢
    unfold dosAliasIsShortName
    dsimp only
    rw [if_neg hdot]
    exact hrest

theorem eq_of_append_mark {α : Type*} {mark : α} {before before' text text' : List α}
    (htext : mark ∉ text) (htext' : mark ∉ text')
    (heq : before ++ mark :: text = before' ++ mark :: text') : text = text' := by
  induction text using reverseRecOn generalizing text' with
  | nil =>
    cases text' using reverseRecOn with
    | nil => rfl
    | append_singleton text' c' =>
      rw [← cons_append, ← append_assoc] at heq
      have hlast := (append_inj' heq rfl).2
      rw [singleton_inj] at hlast
      exact absurd (by simp [hlast]) htext'
  | append_singleton text c ih =>
    cases text' using reverseRecOn with
    | nil =>
      rw [← cons_append, ← append_assoc] at heq
      have hlast := (append_inj' heq rfl).2
      rw [singleton_inj] at hlast
      exact absurd (by simp [hlast]) htext
    | append_singleton text' c' =>
      rw [← cons_append, ← append_assoc, ← cons_append, ← append_assoc] at heq
      obtain ⟨hrest, hlast⟩ := append_inj' heq rfl
      have hinit := ih (fun hmem => htext (mem_append_left _ hmem))
        (fun hmem => htext' (mem_append_left _ hmem)) hrest
      rw [hinit, hlast]

theorem takeWhile_dosAliasMake (longName : List UInt8) (number : Nat) :
    (dosAliasMake longName number).takeWhile (fun c => c != asciiDot) =
      aliasHead longName number := by
  have hhead : ∀ c ∈ aliasHead longName number, (c != asciiDot) = true :=
    fun c hc => bne_iff_ne.mpr (isAliasCharacter_of_mem_aliasHead hc).2.2
  rw [dosAliasMake_eq, takeWhile_append_of_pos hhead, aliasTail]
  split_ifs <;> simp

theorem dosAliasMake_number {longName other : List UInt8} {m n : Nat} (hm : 0 < m)
    (hm' : m ≤ dosAliasMaxNumber) (hn : 0 < n) (hn' : n ≤ dosAliasMaxNumber)
    (heq : dosAliasMake longName m = dosAliasMake other n) : m = n := by
  have hlimit : dosAliasMaxNumber < 10 ^ dosAliasDecimalDigits := by decide
  have hdigits : ∀ number, asciiTilde ∉ decimalText dosAliasDecimalDigits number :=
    fun number hmem => (isAliasCharacter_digit (isDigit_of_mem_decimalText hmem)).2 rfl
  have hheads : aliasHead longName m = aliasHead other n := by
    rw [← takeWhile_dosAliasMake, ← takeWhile_dosAliasMake, heq]
  unfold aliasHead aliasSuffix at hheads
  rw [if_neg (Nat.not_lt_of_le hm'), if_neg (Nat.not_lt_of_le hn')] at hheads
  have htexts := eq_of_append_mark (hdigits m) (hdigits n) hheads
  exact decimalText_injective (Nat.lt_of_le_of_lt hm' hlimit) (Nat.lt_of_le_of_lt hn' hlimit)
    hm hn htexts

theorem dosAliasMake_injective (longName : List UInt8) {m n : Nat} (hm : 0 < m)
    (hm' : m ≤ dosAliasMaxNumber) (hn : 0 < n) (hn' : n ≤ dosAliasMaxNumber)
    (heq : dosAliasMake longName m = dosAliasMake longName n) : m = n :=
  dosAliasMake_number hm hm' hn hn' heq

end Ntvdmex.Dos.Alias
