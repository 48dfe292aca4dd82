import Mathlib

/-!
# Edits of separate places

An edit changes the values at some places, by what stands there.  A run of edits of
separate places, in whatever order, leaves each place as its own edit of the first values.
-/

namespace Ntvdmex.Foundation

structure Edit (ι β : Type) where
  place : Set ι
  edit : (ι → β) → ι → β
  keeps : ∀ {values i}, i ∉ place → edit values i = values i
  congr : ∀ {values other}, (∀ i ∈ place, values i = other i) →
    ∀ i ∈ place, edit values i = edit other i

namespace Edit

variable {ι β : Type}

def Apart (first second : Edit ι β) : Prop := ∀ i ∈ first.place, i ∉ second.place

def run (edits : List (Edit ι β)) (values : ι → β) : ι → β :=
  edits.foldl (fun values edit => edit.edit values) values

variable {edits : List (Edit ι β)} {values : ι → β} {i : ι}

theorem run_append (more : List (Edit ι β)) :
    run (edits ++ more) values = run more (run edits values) :=
  List.foldl_append

theorem run_keeps (hi : ∀ edit ∈ edits, i ∉ edit.place) : run edits values i = values i := by
  induction edits generalizing values with
  | nil => rfl
  | cons edit edits ih =>
    rw [List.forall_mem_cons] at hi
    exact (ih hi.2).trans (edit.keeps hi.1)

theorem run_edits (hapart : edits.Pairwise Apart) {edit : Edit ι β} (hedit : edit ∈ edits)
    (hi : i ∈ edit.place) : run edits values i = edit.edit values i := by
  induction edits generalizing values with
  | nil => cases hedit
  | cons first edits ih =>
    obtain ⟨hfirst, hrest⟩ := List.pairwise_cons.mp hapart
    rcases List.mem_cons.mp hedit with rfl | hedit
    · exact run_keeps fun other hother => hfirst other hother i hi
    · refine (ih hrest hedit).trans (edit.congr (fun j hj => ?_) i hi)
      exact first.keeps fun hfirst' => hfirst edit hedit j hfirst' hj

end Edit

end Ntvdmex.Foundation
