import Mathlib

/-!
# Terminated and separated strings

Strings over any alphabet laid out one after another, each closed by a
terminator, and the list of them closed by an empty string.  Reading such a
layout back gives the strings exactly when none of them is empty or holds the
terminator.  The second half is about lines: splitting a text at its separators
and dropping the empty lines is what skipping a run of separators at a time does.
-/

namespace Ntvdmex.Foundation

open List

/-- The characters of `text` as bytes. -/
def ascii (text : String) : List UInt8 :=
  text.toList.map fun character => UInt8.ofNat character.toNat

theorem forall_byte {p : UInt8 → Prop}
    (h : ∀ high < 16, ∀ low < 16, p (UInt8.ofNat (16 * high + low))) (c : UInt8) : p c := by
  have hhigh : c.toNat / 16 < 16 := Nat.div_lt_of_lt_mul c.toNat_lt
  have hc := h (c.toNat / 16) hhigh (c.toNat % 16) (Nat.mod_lt _ (by decide))
  rwa [Nat.div_add_mod, UInt8.ofNat_toNat] at hc

/-- A NUL-terminated string: its bytes in front of the NUL. -/
structure CString where
  bytes : List UInt8
  noNul : 0 ∉ bytes
  deriving DecidableEq

section Layout

variable {α : Type*} (nul : α)

/-- Each string followed by the terminator. -/
def terminate (strings : List (List α)) : List α :=
  strings.flatMap (· ++ [nul])

@[simp] theorem terminate_nil : terminate nul [] = [] := rfl

@[simp] theorem terminate_cons (text : List α) (strings : List (List α)) :
    terminate nul (text :: strings) = text ++ nul :: terminate nul strings := by
  simp [terminate]

@[simp] theorem terminate_append (strings others : List (List α)) :
    terminate nul (strings ++ others) = terminate nul strings ++ terminate nul others := by
  simp [terminate]

end Layout

section Reading

variable {α : Type*} [DecidableEq α] (nul : α)

/-- The string up to the first terminator, and what follows it. -/
def readString : List α → Option (List α × List α)
  | [] => none
  | c :: rest =>
    if c = nul then some ([], rest)
    else (readString rest).map fun read => (c :: read.1, read.2)

/-- The strings up to the first empty one, and what follows it.  `current` is what has
been read of the string at hand. -/
def readStrings (current : List α) : List α → Option (List (List α) × List α)
  | [] => none
  | c :: rest =>
    if c = nul then
      if current = [] then some ([], rest)
      else (readStrings [] rest).map fun read => (current :: read.1, read.2)
    else readStrings (current ++ [c]) rest

theorem readString_append {text : List α} (htext : nul ∉ text) (rest : List α) :
    readString nul (text ++ nul :: rest) = some (text, rest) := by
  induction text with
  | nil => simp [readString]
  | cons c text ih =>
    have hc : c ≠ nul := by
      intro heq
      exact htext (by simp [heq])
    have hread := ih fun hmem => htext (mem_cons_of_mem c hmem)
    rw [cons_append, readString, if_neg hc, hread]
    rfl

theorem readStrings_append (current : List α) {text : List α} (htext : nul ∉ text)
    (rest : List α) :
    readStrings nul current (text ++ nul :: rest) =
      readStrings nul (current ++ text) (nul :: rest) := by
  induction text generalizing current with
  | nil => simp
  | cons c text ih =>
    have hc : c ≠ nul := by
      intro heq
      exact htext (by simp [heq])
    rw [cons_append, readStrings, if_neg hc,
      ih (current ++ [c]) fun hmem => htext (mem_cons_of_mem c hmem)]
    simp

theorem readStrings_terminate {strings : List (List α)}
    (hstrings : ∀ text ∈ strings, text ≠ [] ∧ nul ∉ text) (rest : List α) :
    readStrings nul [] (terminate nul strings ++ nul :: rest) = some (strings, rest) := by
  induction strings with
  | nil => simp [readStrings]
  | cons text strings ih =>
    obtain ⟨hne, hnul⟩ := hstrings text (by simp)
    have hread := ih fun other hother => hstrings other (mem_cons_of_mem text hother)
    rw [terminate_cons, append_assoc, cons_append,
      readStrings_append nul [] hnul, nil_append, readStrings, if_pos rfl, if_neg hne,
      hread]
    rfl

end Reading

section Separated

variable {α : Type*} (isSeparator : α → Bool)

/-- The lines of a text that are not empty. -/
noncomputable def linesOf (text : List α) : List (List α) :=
  (text.splitOnP isSeparator).filter fun line => !line.isEmpty

@[simp] theorem linesOf_nil : linesOf isSeparator [] = [] := by
  simp [linesOf]

theorem linesOf_separator {c : α} (hc : isSeparator c = true) (text : List α) :
    linesOf isSeparator (c :: text) = linesOf isSeparator text := by
  simp [linesOf, splitOnP_cons_eq_if_modifyHead, hc]

theorem linesOf_dropWhile (text : List α) :
    linesOf isSeparator (text.dropWhile isSeparator) = linesOf isSeparator text := by
  induction text with
  | nil => rfl
  | cons c text ih =>
    by_cases hc : isSeparator c = true
    · rw [dropWhile_cons_of_pos hc, ih, linesOf_separator isSeparator hc]
    · rw [dropWhile_cons_of_neg hc]

theorem of_mem_splitOnP {text line : List α} (hline : line ∈ text.splitOnP isSeparator) :
    ∀ c ∈ line, c ∈ text ∧ isSeparator c = false := by
  induction text generalizing line with
  | nil =>
    rw [splitOnP_nil, mem_singleton] at hline
    simp [hline]
  | cons first text ih =>
    have hlater : ∀ later ∈ text.splitOnP isSeparator, ∀ c ∈ later,
        c ∈ first :: text ∧ isSeparator c = false :=
      fun later hlater c hc =>
        ⟨mem_cons_of_mem first (ih hlater c hc).1, (ih hlater c hc).2⟩
    rw [splitOnP_cons_eq_if_modifyHead] at hline
    by_cases hfirst : isSeparator first = true
    · rw [if_pos hfirst, mem_cons] at hline
      rcases hline with rfl | hline
      · simp
      · exact hlater line hline
    · rw [if_neg hfirst] at hline
      cases hsplit : text.splitOnP isSeparator with
      | nil => exact absurd hsplit (splitOnP_ne_nil isSeparator text)
      | cons head lines =>
        rw [hsplit, modifyHead_cons, mem_cons] at hline
        rw [hsplit] at hlater
        rcases hline with rfl | hline
        · intro c hc
          rcases mem_cons.mp hc with rfl | hc
          · exact ⟨mem_cons_self, by simpa using hfirst⟩
          · exact hlater head mem_cons_self c hc
        · exact hlater line (mem_cons_of_mem head hline)

theorem mem_of_mem_linesOf {text line : List α} (hline : line ∈ linesOf isSeparator text)
    {c : α} (hc : c ∈ line) : c ∈ text :=
  (of_mem_splitOnP isSeparator (mem_of_mem_filter hline) c hc).1

/-- A line is not empty and holds no separator. -/
theorem plain_of_mem_linesOf {text line : List α} (hline : line ∈ linesOf isSeparator text) :
    line ≠ [] ∧ ∀ c ∈ line, isSeparator c = false := by
  obtain ⟨hsplit, hne⟩ := mem_filter.mp hline
  refine ⟨?_, fun c hc => (of_mem_splitOnP isSeparator hsplit c hc).2⟩
  rintro rfl
  simp at hne

theorem linesOf_append_separator {c : α} (hc : isSeparator c = true) (text rest : List α) :
    linesOf isSeparator (text ++ c :: rest) =
      linesOf isSeparator text ++ linesOf isSeparator rest := by
  simp [linesOf, splitOnP_append_cons text rest hc]

theorem linesOf_separators {separators : List α} (hall : ∀ c ∈ separators, isSeparator c = true)
    (text : List α) : linesOf isSeparator (separators ++ text) = linesOf isSeparator text := by
  induction separators with
  | nil => rfl
  | cons c separators ih =>
    rw [cons_append, linesOf_separator isSeparator (hall c mem_cons_self)]
    exact ih fun d hd => hall d (mem_cons_of_mem c hd)

theorem linesOf_append {line rest : List α} (hline : ∀ c ∈ line, isSeparator c = false)
    (hne : line ≠ []) (hrest : ∀ c ∈ rest.head?, isSeparator c = true) :
    linesOf isSeparator (line ++ rest) = line :: linesOf isSeparator rest := by
  cases rest with
  | nil => simp [linesOf, splitOnP_eq_singleton hline, hne]
  | cons c rest =>
    have hc : isSeparator c = true := hrest c (by simp)
    rw [linesOf_separator isSeparator hc]
    simp [linesOf, splitOnP_append_cons_of_forall_mem hline c hc, hne]

end Separated

end Ntvdmex.Foundation
