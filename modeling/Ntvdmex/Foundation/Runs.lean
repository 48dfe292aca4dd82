import Mathlib

/-!
# Runs

Runs of a labelled step relation with their induction rule, runs of a step function with the
condition under which a property holds throughout, and what it means for a loop with a step budget
to return.
-/

namespace Ntvdmex.Foundation

open List

section Run

variable {σ ε : Type*} (step : σ → ε → σ → Prop)

/-- `Run step s es t`: the events `es`, each taken as a step, lead from `s` to `t`. -/
inductive Run : σ → List ε → σ → Prop
  | nil (s : σ) : Run s [] s
  | snoc {s t u : σ} {es : List ε} {e : ε} :
      Run s es t → step t e u → Run s (es ++ [e]) u

variable {step}

/-- A property every step keeps holds after every run. -/
theorem Run.invariant {s t : σ} {es : List ε} (h : Run step s es t) (I : σ → Prop)
    (hstep : ∀ s e t, I s → step s e t → I t) (hs : I s) : I t := by
  induction h with
  | nil => exact hs
  | snoc _ hlast ih => exact hstep _ _ _ ih hlast

theorem Run.single {s t : σ} {e : ε} (h : step s e t) : Run step s [e] t :=
  .snoc (.nil s) h

end Run

section Fold

variable {σ ε : Type*} (next : σ → ε → σ) (start : σ)

/-- Every event of a run meets a condition at the state it happens in. -/
def Throughout (condition : σ → ε → Prop) (events : List ε) : Prop :=
  ∀ before event later, events = before ++ event :: later →
    condition (before.foldl next start) event

variable {next start} {condition : σ → ε → Prop}

theorem throughout_nil (condition : σ → ε → Prop) : Throughout next start condition [] := by
  intro before event later hevents
  simp at hevents

variable (invariant : σ → Prop) {events : List ε} {event : ε}

theorem Throughout.initial {later : List ε}
    (h : Throughout next start condition (events ++ later)) :
    Throughout next start condition events := by
  intro before event rest hevents
  refine h before event (rest ++ later) ?_
  rw [hevents, append_assoc, cons_append]

theorem Throughout.last (h : Throughout next start condition (events ++ [event])) :
    condition (events.foldl next start) event :=
  h events event [] rfl

theorem Throughout.head {rest : List ε} (h : Throughout next start condition (event :: rest)) :
    condition start event :=
  h [] event rest rfl

theorem Throughout.tail {rest : List ε} (h : Throughout next start condition (event :: rest)) :
    Throughout next (next start event) condition rest := by
  intro before other later hevents
  exact h (event :: before) other later (by rw [hevents, cons_append])

theorem Throughout.concat (h : Throughout next start condition events)
    (hevent : condition (events.foldl next start) event) :
    Throughout next start condition (events ++ [event]) := by
  intro before other later hevents
  rcases eq_nil_or_concat later with rfl | ⟨rest, final, rfl⟩
  · obtain ⟨rfl, hlast⟩ := append_inj' hevents rfl
    obtain rfl := singleton_inj.mp hlast
    exact hevent
  · refine h before other rest ?_
    rw [concat_eq_append, ← cons_append, ← append_assoc] at hevents
    exact (append_inj' hevents rfl).1

theorem Throughout.and {other : σ → ε → Prop} (h : Throughout next start condition events)
    (hother : Throughout next start other events) :
    Throughout next start (fun s event => condition s event ∧ other s event) events :=
  fun before event later hevents =>
    ⟨h before event later hevents, hother before event later hevents⟩

theorem Throughout.holds (hstart : invariant start)
    (hstep : ∀ s e, invariant s → condition s e → invariant (next s e))
    (h : Throughout next start condition events) : invariant (events.foldl next start) := by
  induction events using reverseRecOn with
  | nil => exact hstart
  | append_singleton events event ih =>
    rw [foldl_append, foldl_cons, foldl_nil]
    exact hstep _ event (ih h.initial) h.last

/-- The same as `Throughout`, one event at a time. -/
def checkRun (next : σ → ε → σ) (condition : σ → ε → Prop) [∀ s e, Decidable (condition s e)] :
    σ → List ε → Bool
  | _, [] => true
  | s, event :: rest => decide (condition s event) && checkRun next condition (next s event) rest

theorem throughout_of_checkRun [∀ s e, Decidable (condition s e)]
    (h : checkRun next condition start events = true) : Throughout next start condition events := by
  intro before event later hevents
  subst hevents
  induction before generalizing start with
  | nil =>
    rw [nil_append, checkRun, Bool.and_eq_true] at h
    exact of_decide_eq_true h.1
  | cons first before ih =>
    rw [cons_append, checkRun, Bool.and_eq_true] at h
    exact ih h.2

/-- A property with an invariant behind it holds throughout exactly the runs whose every event
is careful. -/
theorem holds_throughout_iff {legal careful : σ → ε → Prop} {property : σ → Prop}
    (hstart : invariant start) (hproperty : ∀ s, invariant s → property s)
    (hstep : ∀ s e, invariant s → legal s e → careful s e → invariant (next s e))
    (hback : ∀ s e, invariant s → legal s e → property (next s e) → careful s e)
    (hlegal : Throughout next start legal events) :
    (∀ before later, events = before ++ later → property (before.foldl next start)) ↔
      Throughout next start careful events := by
  have hinvariant : ∀ {events : List ε}, Throughout next start legal events →
      Throughout next start careful events → invariant (events.foldl next start) := by
    intro events hlegal hcareful
    exact (hlegal.and hcareful).holds invariant hstart fun s e hs he => hstep s e hs he.1 he.2
  constructor
  · intro hall
    induction events using reverseRecOn with
    | nil =>
      intro before event later hevents
      simp at hevents
    | append_singleton events event ih =>
      have hbefore := ih hlegal.initial fun before later hevents =>
        hall before (later ++ [event]) (by rw [hevents, append_assoc])
      refine hbefore.concat (hback _ event (hinvariant hlegal.initial hbefore) hlegal.last ?_)
      have hlast := hall _ [] (append_nil _).symm
      rwa [foldl_append, foldl_cons, foldl_nil] at hlast
  · intro hcareful before later hevents
    subst hevents
    exact hproperty _ (hinvariant hlegal.initial hcareful.initial)

theorem foldl_invariant {next : σ → ε → σ} {start : σ} (invariant : List ε → σ → Prop)
    (hstart : invariant [] start)
    (hstep : ∀ before event later s, events = before ++ event :: later → invariant before s →
      invariant (before ++ [event]) (next s event)) :
    invariant events (events.foldl next start) := by
  induction events using reverseRecOn with
  | nil => exact hstart
  | append_singleton events event ih =>
    rw [foldl_append, foldl_cons, foldl_nil]
    refine hstep events event [] _ rfl (ih fun before other later s hevents => ?_)
    refine hstep before other (later ++ [event]) s ?_
    rw [hevents, append_assoc, cons_append]

end Fold

section Returns

variable {α : Type*}

/-- A budgeted computation returns `result` at every large enough budget. -/
def Returns (f : Nat → Option α) (result : α) : Prop :=
  ∃ least, ∀ fuel, least ≤ fuel → f fuel = some result

theorem Returns.unique {f : Nat → Option α} {a b : α} (ha : Returns f a)
    (hb : Returns f b) : a = b := by
  obtain ⟨leastA, ha⟩ := ha
  obtain ⟨leastB, hb⟩ := hb
  have h₁ := ha (max leastA leastB) (le_max_left _ _)
  have h₂ := hb (max leastA leastB) (le_max_right _ _)
  exact Option.some.inj (h₁.symm.trans h₂)

end Returns

end Ntvdmex.Foundation
