import Mathlib

/-!
# Queues with filtered removal

A queue in posting order from which a reader takes the first entry it wants.  Some entries
are markers: they answer nobody, and a reader that passes one takes it out of the queue.
-/

namespace Ntvdmex.Foundation.FilteredQueue

open List Bool

variable {α : Type*} (isMarker wants : α → Bool)

/-- The entries a reader passes before its answer, or all of them when nothing answers. -/
def passed (entries : List α) : List α :=
  entries.takeWhile fun entry => isMarker entry || !wants entry

/-- The answer and what lies behind it. -/
def reached (entries : List α) : List α :=
  entries.dropWhile fun entry => isMarker entry || !wants entry

def answer (entries : List α) : Option α :=
  (entries.filter fun entry => !isMarker entry).find? wants

/-- The markers a reader takes out on its way. -/
def markers (entries : List α) : List α :=
  (passed isMarker wants entries).filter isMarker

/-- The queue after a reader that removes its answer, or leaves it. -/
def remaining (isRemove : Bool) (entries : List α) : List α :=
  (passed isMarker wants entries).filter (fun entry => !isMarker entry) ++
    (if isRemove then (reached isMarker wants entries).tail
      else reached isMarker wants entries)

variable {isMarker wants}

/-! ## One entry at the front -/

section

variable {entry : α} (entries : List α)

include entries

theorem answer_marker (hmarker : isMarker entry = true) :
    answer isMarker wants (entry :: entries) = answer isMarker wants entries := by
  simp [answer, hmarker]

theorem answer_skipped (hwants : wants entry = false) :
    answer isMarker wants (entry :: entries) = answer isMarker wants entries := by
  unfold answer
  by_cases hmarker : isMarker entry = true
  · simp [hmarker]
  · simp [hmarker, hwants]

theorem answer_wanted (hmarker : isMarker entry = false)
    (hwants : wants entry = true) : answer isMarker wants (entry :: entries) = some entry := by
  simp [answer, hmarker, hwants]

theorem markers_marker (hmarker : isMarker entry = true) :
    markers isMarker wants (entry :: entries) = entry :: markers isMarker wants entries := by
  simp [markers, passed, hmarker]

theorem markers_skipped (hmarker : isMarker entry = false)
    (hwants : wants entry = false) :
    markers isMarker wants (entry :: entries) = markers isMarker wants entries := by
  simp [markers, passed, hmarker, hwants]

theorem markers_wanted (hmarker : isMarker entry = false)
    (hwants : wants entry = true) : markers isMarker wants (entry :: entries) = [] := by
  simp [markers, passed, hmarker, hwants]

end

section

variable {entry : α} (isRemove : Bool) (entries : List α)

include isRemove entries

theorem remaining_marker (hmarker : isMarker entry = true) :
    remaining isMarker wants isRemove (entry :: entries) =
      remaining isMarker wants isRemove entries := by
  simp [remaining, passed, reached, hmarker]

theorem remaining_skipped (hmarker : isMarker entry = false) (hwants : wants entry = false) :
    remaining isMarker wants isRemove (entry :: entries) =
      entry :: remaining isMarker wants isRemove entries := by
  simp [remaining, passed, reached, hmarker, hwants]

theorem remaining_wanted (hmarker : isMarker entry = false) (hwants : wants entry = true) :
    remaining isMarker wants isRemove (entry :: entries) =
      if isRemove then entries else entry :: entries := by
  simp [remaining, passed, reached, hmarker, hwants]

end

/-- What is left stands in posting order. -/
theorem remaining_sublist (isRemove : Bool) (entries : List α) :
    (remaining isMarker wants isRemove entries).Sublist entries := by
  induction entries with
  | nil => cases isRemove <;> exact List.Sublist.refl _
  | cons entry entries ih =>
    by_cases hmarker : isMarker entry = true
    · rw [remaining_marker _ _ hmarker]
      exact ih.cons _
    rw [not_eq_true] at hmarker
    by_cases hwants : wants entry = true
    · rw [remaining_wanted _ _ hmarker hwants]
      split
      · exact sublist_cons_self _ _
      · exact List.Sublist.refl _
    · rw [not_eq_true] at hwants
      rw [remaining_skipped _ _ hmarker hwants]
      exact ih.cons_cons _

/-- Nothing is lost and nothing doubled: an entry is left, was a marker taken out, or is the
answer of a reader that removes it. -/
theorem remaining_perm (isRemove : Bool) (entries : List α) :
    (remaining isMarker wants isRemove entries ++ markers isMarker wants entries ++
      (if isRemove then (answer isMarker wants entries).toList else [])).Perm entries := by
  induction entries with
  | nil => cases isRemove <;> exact List.Perm.refl _
  | cons entry entries ih =>
    by_cases hmarker : isMarker entry = true
    · rw [remaining_marker _ _ hmarker, markers_marker _ hmarker, answer_marker _ hmarker,
        append_assoc, cons_append]
      refine perm_middle.trans (List.Perm.cons _ ?_)
      rwa [← append_assoc]
    rw [not_eq_true] at hmarker
    by_cases hwants : wants entry = true
    · rw [remaining_wanted _ _ hmarker hwants, markers_wanted _ hmarker hwants,
        answer_wanted _ hmarker hwants, append_nil]
      cases isRemove
      · simp
      · exact perm_append_singleton _ _
    · rw [not_eq_true] at hwants
      rw [remaining_skipped _ _ hmarker hwants, markers_skipped _ hmarker hwants,
        answer_skipped _ hwants]
      exact ih.cons _

theorem answer_wants {entries : List α} {entry : α}
    (hanswer : answer isMarker wants entries = some entry) : wants entry = true :=
  find?_some hanswer

end Ntvdmex.Foundation.FilteredQueue
