import Ntvdmex.Vdd.BiosTick

/-!
# Which stores the tick watch sees

The detector is described by the history alone: the count the BIOS last wrote or
took over, the tick at which a foreign count was first found, and what was counted
from there.
-/

namespace Ntvdmex.Vdd.BiosTick

open List TickEvent

variable (start : UInt32) (history : List TickEvent) (state : TickState)

/-! ## Histories without the detector -/

def biosCount (start : UInt32) : List TickEvent → UInt32
  | [] => start
  | .guestStore _ :: earlier => biosCount start earlier
  | event :: earlier => (stateAfter start (event :: earlier)).tickCount

def LeftForeign (start : UInt32) (history : List TickEvent) : Prop :=
  (stateAfter start history).tickCount ≠ biosCount start history

def TickEvent.KeepsWatch : TickEvent → Prop
  | .biosTick => True
  | .guestStore _ => True
  | .biosStore _ => False
  | .take => False

def StoreNoticed (start : UInt32) (history : List TickEvent) : Prop :=
  ∃ later earlier, history = later ++ .biosTick :: earlier ∧
    (∀ event ∈ later, event.KeepsWatch) ∧ LeftForeign start earlier

def TickEvent.IsTick (event : TickEvent) : Prop := event = .biosTick
deriving Decidable

def biosTicks (events : List TickEvent) : Nat := events.countP fun event => event.IsTick

/-- The ticks of `events`, made after `earlier`, at which the count goes past midnight. -/
def rollovers (start : UInt32) (earlier : List TickEvent) : List TickEvent → Nat
  | [] => 0
  | event :: rest =>
    (if event.IsTick ∧ (stateAfter start (rest ++ earlier)).tickCount + 1 ≥ pitTicksPerDay
      then 1 else 0) + rollovers start earlier rest

/-! ## The services -/

theorem noticeStore_isTickForeign :
    (noticeStore state).isTickForeign = true ↔
      state.isTickForeign = true ∨ state.tickCount ≠ state.tickWitness := by
  unfold noticeStore
  by_cases hcount : state.tickCount = state.tickWitness <;>
    cases hforeign : state.isTickForeign <;> simp [hcount, hforeign]

theorem vddPitBiosTick_isTickForeign :
    (vddPitBiosTick state).isTickForeign = true ↔
      state.isTickForeign = true ∨ state.tickCount ≠ state.tickWitness := by
  rw [← noticeStore_isTickForeign]
  unfold vddPitBiosTick
  dsimp only
  split <;> rfl

theorem vddPitBiosTick_first {state : TickState} (hforeign : state.isTickForeign = false)
    (hcount : state.tickCount ≠ state.tickWitness) :
    (vddPitBiosTick state).tickSince = 1 ∧
      (vddPitBiosTick state).tickWraps =
        if state.tickCount + 1 ≥ pitTicksPerDay then 1 else 0 := by
  unfold vddPitBiosTick noticeStore
  rw [if_pos ⟨hcount, hforeign⟩]
  dsimp only
  split <;> exact ⟨rfl, rfl⟩

theorem vddPitBiosTick_watching {state : TickState} (hforeign : state.isTickForeign = true) :
    (vddPitBiosTick state).tickSince = state.tickSince + 1 ∧
      (vddPitBiosTick state).tickWraps =
        if state.tickCount + 1 ≥ pitTicksPerDay then state.tickWraps + 1
        else state.tickWraps := by
  unfold vddPitBiosTick noticeStore
  rw [if_neg (by simp [hforeign])]
  dsimp only
  rw [hforeign]
  split <;> exact ⟨rfl, rfl⟩

theorem vddPitTickTake_isSome (count : UInt32) :
    (vddPitTickTake state count).1.isSome = true ↔
      state.isTickForeign = true ∨ count ≠ state.tickWitness := by
  unfold vddPitTickTake
  by_cases hcount : count = state.tickWitness <;> cases hforeign : state.isTickForeign <;>
    simp [hcount]

theorem vddPitTickTake_some {state : TickState} {count : UInt32} {taken : TakenTicks}
    (htaken : (vddPitTickTake state count).1 = some taken) :
    taken.ticks = count ∧
      taken.wraps = (if state.isTickForeign then state.tickWraps else 0) ∧
      taken.since = (if state.isTickForeign then state.tickSince else 0) := by
  unfold vddPitTickTake at htaken
  split at htaken
  · simp at htaken
  · cases hforeign : state.isTickForeign <;> simp [hforeign] at htaken <;>
      simp [← htaken]

theorem vddPitTickTake_state :
    (vddPitTickTake state state.tickCount).2.tickCount = state.tickCount ∧
      (vddPitTickTake state state.tickCount).2.tickWitness = state.tickCount ∧
      (vddPitTickTake state state.tickCount).2.isTickForeign = false := by
  unfold vddPitTickTake
  split
  · rename_i hown
    exact ⟨rfl, hown.2.symm, hown.1⟩
  · cases state.isTickForeign <;> exact ⟨rfl, rfl, rfl⟩

theorem storeNoticed_cons (event : TickEvent) (earlier : List TickEvent) :
    StoreNoticed start (event :: earlier) ↔
      event = .biosTick ∧ LeftForeign start earlier ∨
        event.KeepsWatch ∧ StoreNoticed start earlier := by
  constructor
  · rintro ⟨later, before, hhistory, hkeeps, hforeign⟩
    cases later with
    | nil =>
      obtain ⟨rfl, rfl⟩ := List.cons.inj hhistory
      exact Or.inl ⟨rfl, hforeign⟩
    | cons first later =>
      obtain ⟨rfl, rfl⟩ := List.cons.inj hhistory
      have hfirst := hkeeps event mem_cons_self
      exact Or.inr ⟨hfirst, later, before, rfl,
        fun other hother => hkeeps other (mem_cons_of_mem _ hother), hforeign⟩
  · rintro (⟨rfl, hforeign⟩ | ⟨hfirst, later, before, rfl, hkeeps, hforeign⟩)
    · exact ⟨[], earlier, rfl, by simp, hforeign⟩
    · refine ⟨event :: later, before, rfl, ?_, hforeign⟩
      intro other hother
      rcases mem_cons.mp hother with rfl | hother
      · exact hfirst
      · exact hkeeps other hother

theorem stateAfter_tickWitness :
    (stateAfter start history).tickWitness = biosCount start history := by
  induction history with
  | nil => rfl
  | cons event earlier ih =>
    cases event with
    | biosTick => rfl
    | guestStore count => exact ih
    | biosStore count => rfl
    | take =>
      have htake := vddPitTickTake_state (stateAfter start earlier)
      change (vddPitTickTake (stateAfter start earlier) _).2.tickWitness =
        (vddPitTickTake (stateAfter start earlier) _).2.tickCount
      rw [htake.1, htake.2.1]

theorem stateAfter_isTickForeign :
    (stateAfter start history).isTickForeign = true ↔ StoreNoticed start history := by
  induction history with
  | nil =>
    constructor
    · intro h
      exact absurd h (by simp [stateAfter, seeded])
    · rintro ⟨later, earlier, hhistory, -⟩
      simp at hhistory
  | cons event earlier ih =>
    rw [storeNoticed_cons]
    cases event with
    | biosTick =>
      change (vddPitBiosTick (stateAfter start earlier)).isTickForeign = true ↔ _
      rw [vddPitBiosTick_isTickForeign, ih, stateAfter_tickWitness]
      simp [TickEvent.KeepsWatch, LeftForeign, or_comm]
    | guestStore count =>
      change (stateAfter start earlier).isTickForeign = true ↔ _
      rw [ih]
      simp [TickEvent.KeepsWatch]
    | biosStore count =>
      simp [stateAfter, apply, vddPitTickOwned, TickEvent.KeepsWatch]
    | take =>
      have htake := vddPitTickTake_state (stateAfter start earlier)
      change (vddPitTickTake (stateAfter start earlier) _).2.isTickForeign = true ↔ _
      rw [htake.2.2]
      simp [TickEvent.KeepsWatch]

theorem stateAfter_counters {start : UInt32} {earlier : List TickEvent}
    (hforeign : LeftForeign start earlier) (hfirst : ¬ StoreNoticed start earlier)
    (later : List TickEvent) (hkeeps : ∀ event ∈ later, event.KeepsWatch) :
    let events := later ++ [.biosTick]
    (stateAfter start (later ++ .biosTick :: earlier)).isTickForeign = true ∧
      (stateAfter start (later ++ .biosTick :: earlier)).tickSince =
        UInt32.ofNat (biosTicks events) ∧
      (stateAfter start (later ++ .biosTick :: earlier)).tickWraps =
        UInt32.ofNat (rollovers start earlier events) := by
  have hisForeign : (stateAfter start (later ++ .biosTick :: earlier)).isTickForeign = true :=
    (stateAfter_isTickForeign start _).mpr ⟨later, earlier, rfl, hkeeps, hforeign⟩
  refine ⟨hisForeign, ?_⟩
  induction later with
  | nil =>
    have hnot : (stateAfter start earlier).isTickForeign = false := by
      cases h : (stateAfter start earlier).isTickForeign with
      | false => rfl
      | true => exact absurd ((stateAfter_isTickForeign start earlier).mp h) hfirst
    have hcount : (stateAfter start earlier).tickCount ≠
        (stateAfter start earlier).tickWitness := by
      rw [stateAfter_tickWitness]
      exact hforeign
    obtain ⟨hsince, hwraps⟩ := vddPitBiosTick_first hnot hcount
    refine ⟨hsince, ?_⟩
    change (vddPitBiosTick (stateAfter start earlier)).tickWraps = _
    rw [hwraps]
    by_cases hroll : (stateAfter start earlier).tickCount + 1 ≥ pitTicksPerDay <;>
      simp [rollovers, TickEvent.IsTick, hroll]
  | cons event later ih =>
    have hrest : ∀ other ∈ later, other.KeepsWatch :=
      fun other hother => hkeeps other (mem_cons_of_mem _ hother)
    have hwatching : (stateAfter start (later ++ .biosTick :: earlier)).isTickForeign = true :=
      (stateAfter_isTickForeign start _).mpr ⟨later, earlier, rfl, hrest, hforeign⟩
    obtain ⟨hsince, hwraps⟩ := ih hrest hwatching
    have happend : (later ++ [biosTick]) ++ earlier = later ++ .biosTick :: earlier := by
      simp
    cases event with
    | biosTick =>
      obtain ⟨hsince', hwraps'⟩ := vddPitBiosTick_watching hwatching
      change (vddPitBiosTick (stateAfter start (later ++ .biosTick :: earlier))).tickSince = _ ∧
        (vddPitBiosTick (stateAfter start (later ++ .biosTick :: earlier))).tickWraps = _
      rw [hsince', hwraps', hsince, hwraps]
      constructor
      · simp [biosTicks, TickEvent.IsTick]
      · rw [cons_append, rollovers, happend]
        by_cases hroll : (stateAfter start (later ++ .biosTick :: earlier)).tickCount + 1
            ≥ pitTicksPerDay <;>
          simp [TickEvent.IsTick, hroll, Nat.add_comm 1]
    | guestStore count =>
      change (stateAfter start (later ++ .biosTick :: earlier)).tickSince = _ ∧
        (stateAfter start (later ++ .biosTick :: earlier)).tickWraps = _
      rw [hsince, hwraps]
      constructor
      · simp [biosTicks, TickEvent.IsTick]
      · rw [cons_append, rollovers]
        simp [TickEvent.IsTick]
    | biosStore count => exact (hkeeps _ mem_cons_self).elim
    | take => exact (hkeeps _ mem_cons_self).elim

/-- `history` is `later`, the tick that first found a foreign count, and `earlier`. -/
structure FirstNoticed (start : UInt32) (history later earlier : List TickEvent) : Prop where
  history_eq : history = later ++ .biosTick :: earlier
  keeps : ∀ event ∈ later, event.KeepsWatch
  foreign : LeftForeign start earlier
  first : ¬ StoreNoticed start earlier

theorem StoreNoticed.exists_first {start : UInt32} {history : List TickEvent}
    (hnoticed : StoreNoticed start history) :
    ∃ later earlier, FirstNoticed start history later earlier := by
  induction history with
  | nil =>
    obtain ⟨later, earlier, hhistory, -⟩ := hnoticed
    simp at hhistory
  | cons event before ih =>
    by_cases hbefore : StoreNoticed start before
    · rcases (storeNoticed_cons start event before).mp hnoticed with
        ⟨rfl, -⟩ | ⟨hkeeps, -⟩
      · obtain ⟨later, earlier, h⟩ := ih hbefore
        refine ⟨.biosTick :: later, earlier, by rw [h.history_eq]; rfl, ?_, h.foreign, h.first⟩
        intro other hother
        rcases mem_cons.mp hother with rfl | hother
        · exact trivial
        · exact h.keeps other hother
      · obtain ⟨later, earlier, h⟩ := ih hbefore
        refine ⟨event :: later, earlier, by rw [h.history_eq]; rfl, ?_, h.foreign, h.first⟩
        intro other hother
        rcases mem_cons.mp hother with rfl | hother
        · exact hkeeps
        · exact h.keeps other hother
    · rcases (storeNoticed_cons start event before).mp hnoticed with
        ⟨rfl, hforeign⟩ | ⟨-, hbefore'⟩
      · exact ⟨[], before, rfl, by simp, hforeign, hbefore⟩
      · exact absurd hbefore' hbefore

theorem tickCount_eq_biosCount {start : UInt32} {history : List TickEvent}
    (hstores : ∀ count, guestStore count ∉ history) :
    (stateAfter start history).tickCount = biosCount start history := by
  cases history with
  | nil => rfl
  | cons event earlier =>
    cases event with
    | guestStore count => exact absurd mem_cons_self (hstores count)
    | biosTick => rfl
    | biosStore count => rfl
    | take => rfl

theorem tick_take_follows_the_guest (start : UInt32) (history : List TickEvent) :
    let state := stateAfter start history
    let take := (vddPitTickTake state state.tickCount).1
    (take.isSome = true ↔ StoreNoticed start history ∨ LeftForeign start history) ∧
      (StoreNoticed start history →
        ∃ later earlier, FirstNoticed start history later earlier) ∧
      (∀ taken, take = some taken →
        taken.ticks = state.tickCount ∧
        (¬ StoreNoticed start history → taken.wraps = 0 ∧ taken.since = 0) ∧
        ∀ later earlier, FirstNoticed start history later earlier →
          taken.wraps.toNat = rollovers start earlier (later ++ [.biosTick]) % 2 ^ 32 ∧
          taken.since.toNat = biosTicks (later ++ [.biosTick]) % 2 ^ 32) ∧
      ((∀ count, TickEvent.guestStore count ∉ history) → take = none) := by
  have hisSome : (vddPitTickTake (stateAfter start history)
      (stateAfter start history).tickCount).1.isSome = true ↔
      StoreNoticed start history ∨ LeftForeign start history := by
    rw [vddPitTickTake_isSome, stateAfter_isTickForeign, stateAfter_tickWitness]
    exact Iff.rfl
  refine ⟨hisSome, StoreNoticed.exists_first, ?_, ?_⟩
  · intro taken htaken
    obtain ⟨hticks, hwraps, hsince⟩ := vddPitTickTake_some htaken
    refine ⟨hticks, ?_, ?_⟩
    · intro hnot
      have hforeign : ¬ (stateAfter start history).isTickForeign = true :=
        fun h => hnot ((stateAfter_isTickForeign start history).mp h)
      rw [if_neg hforeign] at hwraps hsince
      exact ⟨hwraps, hsince⟩
    · intro later earlier hfirst
      obtain ⟨hforeign, hsinceState, hwrapsState⟩ :=
        stateAfter_counters hfirst.foreign hfirst.first later hfirst.keeps
      rw [← hfirst.history_eq] at hforeign hsinceState hwrapsState
      rw [if_pos hforeign] at hwraps hsince
      rw [hwraps, hsince, hwrapsState, hsinceState]
      exact ⟨UInt32.toNat_ofNat', UInt32.toNat_ofNat'⟩
  · intro hstores
    have hnone : ¬ (StoreNoticed start history ∨ LeftForeign start history) := by
      rintro (⟨later, earlier, rfl, -, hforeign⟩ | hforeign)
      · refine hforeign (tickCount_eq_biosCount fun count hmem => hstores count ?_)
        exact mem_append_right _ (mem_cons_of_mem _ hmem)
      · exact hforeign (tickCount_eq_biosCount hstores)
    rw [← hisSome] at hnone
    exact Option.not_isSome_iff_eq_none.mp hnone

/-- The count the BIOS last wrote at a tick or a store of its own. -/
def lastBiosWrite (start : UInt32) : List TickEvent → UInt32
  | [] => start
  | .guestStore _ :: earlier => lastBiosWrite start earlier
  | .take :: earlier => lastBiosWrite start earlier
  | event :: earlier => (stateAfter start (event :: earlier)).tickCount

/-- The count a take took over is not foreign when the guest stores it again, and the
counters of the watch come round at 2^32. -/
theorem tick_take_not_every_store :
    ((stateAfter 0 [.guestStore 7, .take, .guestStore 7]).tickCount ≠
        lastBiosWrite 0 [.guestStore 7, .take, .guestStore 7] ∧
      (vddPitTickTake (stateAfter 0 [.guestStore 7, .take, .guestStore 7]) 7).1 = none) ∧
    ∃ ticks taken, biosTicks (List.replicate ticks .biosTick ++ [.guestStore 7]) = ticks ∧
      (vddPitTickTake (stateAfter 0 (List.replicate ticks .biosTick ++ [.guestStore 7]))
        (stateAfter 0 (List.replicate ticks .biosTick ++ [.guestStore 7])).tickCount).1 =
          some taken ∧
      taken.since.toNat ≠ ticks := by
  refine ⟨⟨by decide, by decide⟩, ?_⟩
  have hforeign : LeftForeign 0 [.guestStore 7] := by
    unfold LeftForeign
    decide
  have hfirst : ¬ StoreNoticed 0 [.guestStore 7] := by
    rw [← stateAfter_isTickForeign]
    decide
  have hrun : ∀ ticks : Nat, 0 < ticks → ∃ taken,
      biosTicks (List.replicate ticks .biosTick ++ [.guestStore 7]) = ticks ∧
      (vddPitTickTake (stateAfter 0 (List.replicate ticks .biosTick ++ [.guestStore 7]))
        (stateAfter 0 (List.replicate ticks .biosTick ++ [.guestStore 7])).tickCount).1 =
          some taken ∧
      taken.since.toNat = ticks % 2 ^ 32 := by
    intro ticks hticks
    obtain ⟨more, rfl⟩ : ∃ more, ticks = more + 1 := ⟨ticks - 1, by omega⟩
    have hhistory : List.replicate (more + 1) TickEvent.biosTick ++ [.guestStore 7] =
        List.replicate more .biosTick ++ .biosTick :: [.guestStore 7] := by
      rw [replicate_succ', append_assoc]
      rfl
    have hkeeps : ∀ event ∈ List.replicate more TickEvent.biosTick, event.KeepsWatch := by
      intro event hevent
      rw [eq_of_mem_replicate hevent]
      exact trivial
    obtain ⟨hisForeign, hsince, -⟩ := stateAfter_counters hforeign hfirst _ hkeeps
    rw [← hhistory] at hisForeign hsince
    have htake := (vddPitTickTake_isSome _ (stateAfter 0 (List.replicate (more + 1) .biosTick
      ++ [.guestStore 7])).tickCount).mpr (Or.inl hisForeign)
    obtain ⟨taken, htaken⟩ := Option.isSome_iff_exists.mp htake
    have hticksCount : biosTicks (List.replicate more .biosTick ++ [.biosTick]) = more + 1 := by
      simp [biosTicks, TickEvent.IsTick, countP_replicate]
    refine ⟨taken, by simp [biosTicks, TickEvent.IsTick, countP_replicate], htaken, ?_⟩
    rw [(vddPitTickTake_some htaken).2.2, if_pos hisForeign, hsince, hticksCount]
    exact UInt32.toNat_ofNat'
  obtain ⟨taken, hticks, htaken, hsince⟩ := hrun 4294967296 (by norm_num)
  exact ⟨4294967296, taken, hticks, htaken, by rw [hsince]; decide⟩

end Ntvdmex.Vdd.BiosTick
