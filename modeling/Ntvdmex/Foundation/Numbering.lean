import Mathlib

/-!
# Numbers handed out in order

Entries come one after the other, and each is given the first number whose candidate is neither
taken beforehand nor given to an entry before it.  A candidate names its number, so the number an
entry is given can be told one number at a time: an entry goes on behind a number that is taken,
or that an entry before it came to with the same candidate.
-/

namespace Ntvdmex.Foundation.Numbering

open Nat List

variable {α β : Type*} (candidate : α → Nat → β) (taken : β → Prop)

/-- The numbers `1` to `number` are gone when `entry` comes behind `before`. -/
def UsedUp : Nat → List α → α → Prop
  | 0, _, _ => True
  | number + 1, before, entry =>
    UsedUp number before entry ∧
      (taken (candidate entry (number + 1)) ∨
        ∃ pre other post, before = pre ++ other :: post ∧ UsedUp number pre other ∧
          candidate other (number + 1) = candidate entry (number + 1))

/-- `number` is the first one that is not gone. -/
def ComesTo (number : Nat) (before : List α) (entry : α) : Prop :=
  UsedUp candidate taken (number - 1) before entry ∧ ¬UsedUp candidate taken number before entry

def Unavailable (given : List α → α → Nat) (before : List α) (entry : α) (number : Nat) : Prop :=
  taken (candidate entry number) ∨
    ∃ pre other post, before = pre ++ other :: post ∧
      candidate other (given pre other) = candidate entry number

/-- Every entry of `entries` is given the first number that is not unavailable. -/
structure HandedOut (given : List α → α → Nat) (limit : Nat) (entries : List α) : Prop where
  positive : ∀ {before entry after}, entries = before ++ entry :: after → 1 ≤ given before entry
  limited : ∀ {before entry after}, entries = before ++ entry :: after →
    given before entry ≤ limit
  lower : ∀ {before entry after}, entries = before ++ entry :: after → ∀ number, 1 ≤ number →
    number < given before entry → Unavailable candidate taken given before entry number
  available : ∀ {before entry after}, entries = before ++ entry :: after →
    ¬Unavailable candidate taken given before entry (given before entry)

variable {candidate taken} {given : List α → α → Nat} {limit : Nat} {entries : List α}

section

variable (h : HandedOut candidate taken given limit entries)
    (hnumber : ∀ {x y : α} {m n : Nat}, 1 ≤ m → m ≤ limit → 1 ≤ n → n ≤ limit →
      candidate x m = candidate y n → m = n)
    {before : List α} {entry : α} {after : List α} (hentries : entries = before ++ entry :: after)
    {number : Nat}

include h hnumber hentries

theorem HandedOut.usedUp_iff (hlimit : number ≤ limit) :
    UsedUp candidate taken number before entry ↔ number < given before entry := by
  induction number generalizing before entry after with
  | zero => exact iff_of_true trivial (h.positive hentries)
  | succ number ih =>
    have hinside : ∀ {pre other post}, before = pre ++ other :: post →
        entries = pre ++ other :: (post ++ entry :: after) := by
      intro pre other post hbefore
      rw [hentries, hbefore, append_assoc, cons_append]
    constructor
    · rintro ⟨hused, hgone⟩
      have hmore := (ih hentries (le_of_succ_le hlimit)).mp hused
      refine lt_of_le_of_ne hmore fun heq => h.available hentries ?_
      rw [← heq]
      rcases hgone with htaken | ⟨pre, other, post, hbefore, hother, hsame⟩
      · exact .inl htaken
      · have hlater := (ih (hinside hbefore) (le_of_succ_le hlimit)).mp hother
        by_cases hgiven : given pre other = number + 1
        · exact .inr ⟨pre, other, post, hbefore, by rw [hgiven, hsame]⟩
        · have hlow := h.lower (hinside hbefore) (number + 1) (succ_pos number) (by lia)
          rcases hlow with htaken | ⟨first, holder, rest, hpre, hholder⟩
          · rw [hsame] at htaken
            exact .inl htaken
          · refine .inr ⟨first, holder, rest ++ other :: post, ?_, hholder.trans hsame⟩
            rw [hbefore, hpre, append_assoc, cons_append]
    · intro hmore
      refine ⟨(ih hentries (le_of_succ_le hlimit)).mpr (by lia), ?_⟩
      have hlow := h.lower hentries (number + 1) (succ_pos number) hmore
      rcases hlow with htaken | ⟨pre, other, post, hbefore, hholder⟩
      · exact .inl htaken
      · have hgiven := hnumber (h.positive (hinside hbefore)) (h.limited (hinside hbefore))
          (succ_pos number) hlimit hholder
        rw [hgiven] at hholder
        refine .inr ⟨pre, other, post, hbefore, ?_, hholder⟩
        exact (ih (hinside hbefore) (le_of_succ_le hlimit)).mpr (by lia)

/-- The number an entry is given, told one number at a time. -/
theorem HandedOut.comesTo_iff (hpositive : 1 ≤ number) (hlimit : number ≤ limit) :
    ComesTo candidate taken number before entry ↔ given before entry = number := by
  rw [ComesTo, h.usedUp_iff hnumber hentries hlimit,
    h.usedUp_iff hnumber hentries ((sub_le number 1).trans hlimit)]
  lia

end

end Ntvdmex.Foundation.Numbering
