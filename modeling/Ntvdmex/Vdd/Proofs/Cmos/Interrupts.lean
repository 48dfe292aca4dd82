import Ntvdmex.Foundation.Runs
import Ntvdmex.Foundation.Strings
import Ntvdmex.Vdd.Proofs.Cmos.Clocks

/-!
# One interrupt for each acknowledgement

How often IRQ 8 is raised between two reads of Status C, and what Status C holds meanwhile.
-/

namespace Ntvdmex.Vdd.Cmos

open Foundation (Throughout forall_byte holds_throughout_iff throughout_of_checkRun)

/-- What happens to the chip: clocks pass, a port is accessed, the host's clock changes. -/
inductive CmosEvent (σ : Type) where
  | addClocks (clocks : UInt32)
  | portOut (port : Nat) (value : UInt8)
  | portIn (port : Nat)
  | host (change : σ → σ)

/-- The event reads Status C. -/
def CmosEvent.acknowledges {σ : Type} (state : CmosState) : CmosEvent σ → Prop
  | .portIn port => port ≠ cmosIndexPort ∧ state.index = cmosStatusC
  | _ => False

instance {σ : Type} (state : CmosState) (event : CmosEvent σ) :
    Decidable (event.acknowledges state) :=
  match event with
  | .portIn _ => inferInstanceAs (Decidable (_ ∧ _))
  | .addClocks _ | .portOut _ _ | .host _ => inferInstanceAs (Decidable False)

/-- The interrupts raised and the causes that have occurred since Status C was last read. -/
structure Since where
  raised : Nat
  causes : UInt8

structure CmosRun (σ : Type) where
  state : CmosState
  host : σ
  since : Since

section Host

variable {σ : Type} (hooks : RtcHooks σ)

/-- The chip and the host after an event. -/
def cmosEvent (state : CmosState) (host : σ) : CmosEvent σ → CmosState × σ
  | .addClocks clocks => (vddCmosAddClocks hooks host state clocks, host)
  | .portOut port value => cmosPortOut hooks host state port value
  | .portIn port => ((cmosPortIn hooks host state port).1, host)
  | .host change => (state, change host)

def CmosEvent.causes (state : CmosState) (host : σ) : CmosEvent σ → UInt8
  | .addClocks clocks => causesDue hooks host state clocks
  | _ => 0

def runStep (run : CmosRun σ) (event : CmosEvent σ) : CmosRun σ :=
  let after := cmosEvent hooks run.state run.host event
  { state := after.1
    host := after.2
    since :=
      if event.acknowledges run.state then ⟨0, 0⟩
      else
        ⟨run.since.raised + (after.1.irqs - run.state.irqs),
          run.since.causes ||| event.causes hooks run.state run.host⟩ }

/-- Whatever has been raised is still to be seen in Status C. -/
def IsLatched (run : CmosRun σ) : Prop :=
  0 < run.since.raised →
    run.state.statusC &&& cmosCIrqf ≠ 0 ∧
      run.state.statusC &&& run.since.causes = run.since.causes
deriving Decidable

/-- At most one interrupt since Status C was last read. -/
def RaisedOnce (run : CmosRun σ) : Prop := run.since.raised ≤ 1

/-- A call has no interrupt due while one is pending, and no more than one otherwise. -/
def DueSingly (run : CmosRun σ) (event : CmosEvent σ) : Prop :=
  match event with
  | .addClocks clocks =>
    interruptsDue hooks run.host run.state clocks ≤
      if run.state.statusC &&& cmosCIrqf = 0 then 1 else 0
  | _ => True

variable (run : CmosRun σ) (event : CmosEvent σ)

/-- What no port write touches. -/
structure KeepsFlags (before after : CmosState) : Prop where
  isOnBus : after.isOnBus = before.isOnBus
  irqs : after.irqs = before.irqs
  statusC : after.statusC = before.statusC

section

variable (state : CmosState) (host : σ)

include state host

theorem cmosWriteStatusB_keepsFlags (value : UInt8) :
    KeepsFlags state (cmosWriteStatusB hooks host state value).1 := by
  unfold cmosWriteStatusB
  by_cases hset : value &&& cmosBSet ≠ 0 ∧ state.isSetHeld = false
  · rw [if_pos hset]
    cases cmosReading hooks host state <;> dsimp only <;> split_ifs <;> exact ⟨rfl, rfl, rfl⟩
  · rw [if_neg hset]
    by_cases hrelease : value &&& cmosBSet = 0 ∧ state.isSetHeld = true
    · rw [if_pos hrelease]
      dsimp only
      split_ifs <;> exact ⟨rfl, rfl, rfl⟩
    · rw [if_neg hrelease]
      dsimp only
      split_ifs <;> exact ⟨rfl, rfl, rfl⟩

theorem cmosWriteClock_keepsFlags (value : UInt8) :
    KeepsFlags state (cmosWriteClock hooks host state value).1 := by
  unfold cmosWriteClock
  cases hooks.rtcSet with
  | none => exact ⟨rfl, rfl, rfl⟩
  | some rtcSet =>
    cases cmosReading hooks host state with
    | none => exact ⟨rfl, rfl, rfl⟩
    | some reading =>
      split_ifs <;> exact ⟨rfl, rfl, rfl⟩

theorem cmosPortOut_keepsFlags (port : Nat) (value : UInt8) :
    KeepsFlags state (cmosPortOut hooks host state port value).1 := by
  unfold cmosPortOut
  by_cases hport : port = cmosIndexPort
  · rw [if_pos hport]
    exact ⟨rfl, rfl, rfl⟩
  rw [if_neg hport]
  by_cases hA : state.index = cmosStatusA
  · rw [if_pos hA]
    exact ⟨rfl, rfl, rfl⟩
  rw [if_neg hA]
  by_cases hB : state.index = cmosStatusB
  · rw [if_pos hB]
    exact cmosWriteStatusB_keepsFlags hooks state host value
  rw [if_neg hB]
  by_cases halarm : state.index = cmosSecondsAlarm ∨ state.index = cmosMinutesAlarm ∨
      state.index = cmosHoursAlarm
  · rw [if_pos halarm]
    exact ⟨rfl, rfl, rfl⟩
  rw [if_neg halarm]
  by_cases hclock : isClockRegister state.index = true
  · rw [if_pos hclock]
    exact cmosWriteClock_keepsFlags hooks state host value
  rw [if_neg hclock]
  split_ifs <;> exact ⟨rfl, rfl, rfl⟩

theorem cmosClockRegister_statusC :
    cmosClockRegister hooks host state cmosStatusC = none := by
  unfold cmosClockRegister
  cases cmosReading hooks host state with
  | none => rfl
  | some reading => rfl

/-- A read clears the flags of Status C and touches nothing else. -/
theorem cmosPortIn_statusC (port : Nat) :
    let after := (cmosPortIn hooks host state port).1
    after.isOnBus = state.isOnBus ∧ after.irqs = state.irqs ∧
      after.statusC =
        if (CmosEvent.portIn port : CmosEvent σ).acknowledges state then 0 else state.statusC := by
  by_cases hacknowledges : (CmosEvent.portIn port : CmosEvent σ).acknowledges state
  · obtain ⟨hport, hstatusC⟩ := hacknowledges
    rw [if_pos ⟨hport, hstatusC⟩]
    unfold cmosPortIn cmosRead
    rw [if_neg hport, hstatusC, cmosClockRegister_statusC]
    exact ⟨rfl, rfl, rfl⟩
  · rw [if_neg hacknowledges]
    unfold cmosPortIn
    by_cases hport : port = cmosIndexPort
    · rw [if_pos hport]
      exact ⟨rfl, rfl, rfl⟩
    · have hstatusC : ¬state.index = cmosStatusC := fun h => hacknowledges ⟨hport, h⟩
      rw [if_neg hport]
      unfold cmosRead
      cases cmosClockRegister hooks host state state.index with
      | some value => exact ⟨rfl, rfl, rfl⟩
      | none =>
        rw [if_neg hstatusC]
        split_ifs <;> exact ⟨rfl, rfl, rfl⟩

end

/-! ## Runs -/

/-- On the bus, IRQF tells whether an interrupt has been raised, and all causes are held. -/
structure Tracks (run : CmosRun σ) : Prop where
  isOnBus : run.state.isOnBus = true
  irqf : run.state.statusC &&& cmosCIrqf ≠ 0 ↔ 0 < run.since.raised
  causes : run.state.statusC &&& run.since.causes = run.since.causes

theorem Tracks.isLatched {run : CmosRun σ} (h : Tracks run) : IsLatched run :=
  fun hraised => ⟨h.irqf.mpr hraised, h.causes⟩

theorem runStep_addClocks (clocks : UInt32) (honBus : run.state.isOnBus = true) :
    (runStep hooks run (.addClocks clocks)).since.raised =
      run.since.raised + interruptsDue hooks run.host run.state clocks := by
  have hirqs := (vddCmosAddClocks_added hooks run.host run.state clocks).irqs
  rw [if_pos honBus] at hirqs
  change run.since.raised +
    ((vddCmosAddClocks hooks run.host run.state clocks).irqs - run.state.irqs) = _
  rw [hirqs]
  omega

theorem held_or {flags causes : UInt8} (added irqf : UInt8) (h : flags &&& causes = causes) :
    (flags ||| added ||| irqf) &&& (causes ||| added) = causes ||| added := by
  have hbits : flags.toBitVec &&& causes.toBitVec = causes.toBitVec :=
    congrArg UInt8.toBitVec h
  apply UInt8.toBitVec_inj.mp
  simp only [UInt8.toBitVec_and, UInt8.toBitVec_or]
  ext i hi
  have hbit := congrArg (fun bits => bits[i]) hbits
  grind

theorem or_and (a b mask : UInt8) : (a ||| b) &&& mask = (a &&& mask) ||| (b &&& mask) :=
  UInt8.toBitVec_inj.mp BitVec.and_or_distrib_right

theorem or_irqf (flags : UInt8) {causes : UInt8} (hcauses : causes &&& cmosCIrqf = 0)
    (isDue : Prop) [Decidable isDue] :
    (flags ||| causes ||| if isDue then cmosCIrqf else 0) &&& cmosCIrqf ≠ 0 ↔
      flags &&& cmosCIrqf ≠ 0 ∨ isDue := by
  rw [or_and, or_and, hcauses, UInt8.or_zero]
  by_cases hdue : isDue
  · rw [if_pos hdue]
    refine iff_of_true ?_ (.inr hdue)
    revert flags
    exact forall_byte (by decide)
  · rw [if_neg hdue, UInt8.zero_and, UInt8.or_zero, or_iff_left hdue]

theorem causesDue_irqf (state : CmosState) (host : σ) (clocks : UInt32) :
    causesDue hooks host state clocks &&& cmosCIrqf = 0 := by
  unfold causesDue
  split_ifs <;> decide

theorem runStep_tracks {run : CmosRun σ} (h : Tracks run) : Tracks (runStep hooks run event) := by
  have hquiet : ∀ after : CmosRun σ, KeepsFlags run.state after.state →
      after.since.raised = run.since.raised + (after.state.irqs - run.state.irqs) →
      after.since.causes = run.since.causes ||| 0 → Tracks after := by
    intro after hkeeps hraised hcauses
    rw [hkeeps.irqs, Nat.sub_self, Nat.add_zero] at hraised
    rw [UInt8.or_zero] at hcauses
    refine ⟨hkeeps.isOnBus.trans h.isOnBus, ?_, ?_⟩
    · rw [hkeeps.statusC, hraised]
      exact h.irqf
    · rw [hkeeps.statusC, hcauses]
      exact h.causes
  cases event with
  | addClocks clocks =>
    have hadded := vddCmosAddClocks_added hooks run.host run.state clocks
    have hraised := runStep_addClocks hooks run clocks h.isOnBus
    refine ⟨hadded.isOnBus.trans h.isOnBus, ?_, ?_⟩
    · rw [hraised]
      change (vddCmosAddClocks hooks run.host run.state clocks).statusC &&& cmosCIrqf ≠ 0 ↔ _
      rw [hadded.statusC, or_irqf _ (causesDue_irqf hooks run.state run.host clocks), h.irqf]
      lia
    · change (vddCmosAddClocks hooks run.host run.state clocks).statusC &&&
        (run.since.causes ||| causesDue hooks run.host run.state clocks) = _
      rw [hadded.statusC]
      exact held_or _ _ h.causes
  | portOut port value =>
    exact hquiet _ (cmosPortOut_keepsFlags hooks run.state run.host port value) rfl rfl
  | portIn port =>
    obtain ⟨honBus, hirqs, hstatusC⟩ := cmosPortIn_statusC hooks run.state run.host port
    by_cases hacknowledges : (CmosEvent.portIn port : CmosEvent σ).acknowledges run.state
    · have hsince : (runStep hooks run (.portIn port)).since = ⟨0, 0⟩ := if_pos hacknowledges
      rw [if_pos hacknowledges] at hstatusC
      refine ⟨honBus.trans h.isOnBus, ?_, ?_⟩
      · rw [hsince]
        change (cmosPortIn hooks run.host run.state port).1.statusC &&& cmosCIrqf ≠ 0 ↔ _
        rw [hstatusC]
        decide
      · rw [hsince]
        exact UInt8.and_zero
    · have hsince : (runStep hooks run (.portIn port)).since =
          ⟨run.since.raised + ((cmosPortIn hooks run.host run.state port).1.irqs -
            run.state.irqs), run.since.causes ||| 0⟩ := if_neg hacknowledges
      rw [if_neg hacknowledges] at hstatusC
      exact hquiet _ ⟨honBus, hirqs, hstatusC⟩ (congrArg Since.raised hsince)
        (congrArg Since.causes hsince)
  | host change => exact hquiet _ ⟨rfl, rfl, rfl⟩ rfl rfl

variable (baseKb : UInt16)

/-- The chip as the host starts it, on the bus. -/
def cmosStart (host : σ) : CmosRun σ :=
  ⟨vddCmosReset true baseKb, host, ⟨0, 0⟩⟩

theorem cmosStart_tracks (host : σ) : Tracks (cmosStart baseKb host) :=
  ⟨rfl, iff_of_false (fun h => h UInt8.zero_and) (Nat.lt_irrefl 0), UInt8.and_self⟩

theorem runStep_raised (hevent : ∀ clocks, event ≠ .addClocks clocks) :
    (runStep hooks run event).since.raised ≤ run.since.raised := by
  have hsame : (cmosEvent hooks run.state run.host event).1.irqs = run.state.irqs := by
    cases event with
    | addClocks clocks => exact absurd rfl (hevent clocks)
    | portOut port value => exact (cmosPortOut_keepsFlags hooks run.state run.host port value).irqs
    | portIn port => exact (cmosPortIn_statusC hooks run.state run.host port).2.1
    | host change => rfl
  unfold runStep
  dsimp only
  rw [hsame, Nat.sub_self]
  split_ifs
  · exact Nat.zero_le _
  · exact le_rfl

theorem raisedOnce_iff {run : CmosRun σ} (h : Tracks run) (honce : RaisedOnce run) :
    RaisedOnce (runStep hooks run event) ↔ DueSingly hooks run event := by
  cases event with
  | addClocks clocks =>
    unfold RaisedOnce at honce ⊢
    unfold DueSingly
    rw [runStep_addClocks hooks run clocks h.isOnBus]
    by_cases hirqf : run.state.statusC &&& cmosCIrqf = 0
    · have hnone : ¬0 < run.since.raised := fun hraised => h.irqf.mpr hraised hirqf
      rw [if_pos hirqf]
      lia
    · have hone := h.irqf.mp hirqf
      rw [if_neg hirqf]
      lia
  | portOut port value =>
    exact iff_of_true ((runStep_raised hooks run _ fun _ h => by cases h).trans honce) trivial
  | portIn port =>
    exact iff_of_true ((runStep_raised hooks run _ fun _ h => by cases h).trans honce) trivial
  | host change =>
    exact iff_of_true ((runStep_raised hooks run _ fun _ h => by cases h).trans honce) trivial

theorem run_tracks (host : σ) (events : List (CmosEvent σ)) :
    Tracks (events.foldl (runStep hooks) (cmosStart baseKb host)) := by
  induction events using List.reverseRecOn with
  | nil => exact cmosStart_tracks baseKb host
  | append_singleton events event ih =>
    rw [List.foldl_append, List.foldl_cons, List.foldl_nil]
    exact runStep_tracks hooks event ih

/-- After any run Status C holds IRQF and every cause that has occurred since it was read, if an
interrupt has been raised since; and there is at most one such interrupt throughout exactly the
runs in which no call has a second one due. -/
theorem one_interrupt_per_acknowledgement (baseKb : UInt16) (host : σ)
    (events : List (CmosEvent σ)) :
    IsLatched (events.foldl (runStep hooks) (cmosStart baseKb host)) ∧
    ((∀ before later, events = before ++ later →
        let run := before.foldl (runStep hooks) (cmosStart baseKb host)
        RaisedOnce run ∧ IsLatched run) ↔
      Throughout (runStep hooks) (cmosStart baseKb host) (DueSingly hooks) events) := by
  refine ⟨(run_tracks hooks baseKb host events).isLatched, ?_⟩
  have hstep : ∀ run event, Tracks run ∧ RaisedOnce run → True → DueSingly hooks run event →
      Tracks (runStep hooks run event) ∧ RaisedOnce (runStep hooks run event) :=
    fun run event h _ hsingly =>
      ⟨runStep_tracks hooks event h.1, (raisedOnce_iff hooks event h.1 h.2).mpr hsingly⟩
  have hback : ∀ run event, Tracks run ∧ RaisedOnce run → True →
      RaisedOnce (runStep hooks run event) ∧ IsLatched (runStep hooks run event) →
      DueSingly hooks run event :=
    fun run event h _ honce => (raisedOnce_iff hooks event h.1 h.2).mp honce.1
  exact @holds_throughout_iff _ _ _ _ (fun run => Tracks run ∧ RaisedOnce run) events _ _
    (fun run => RaisedOnce run ∧ IsLatched run) ⟨cmosStart_tracks baseKb host, Nat.zero_le 1⟩
    (fun run h => ⟨h.2, h.1.isLatched⟩) hstep hback fun _ _ _ _ => trivial

end Host

def noClock : RtcHooks Unit := ⟨none, none⟩

def twoTicks : List (CmosEvent Unit) :=
  [.portOut cmosIndexPort 0x0B, .portOut cmosDataPort 0x42, .addClocks 2330]

theorem two_ticks_raise_twice :
    ¬∀ (hooks : RtcHooks Unit) (baseKb : UInt16) (events : List (CmosEvent Unit)),
      let run := events.foldl (runStep hooks) (cmosStart baseKb ())
      RaisedOnce run ∧ IsLatched run := by
  intro h
  have honce : (twoTicks.foldl (runStep noClock) (cmosStart 0 ())).since.raised ≤ 1 :=
    (h noClock 0 twoTicks).1
  revert honce
  decide

end Ntvdmex.Vdd.Cmos
