import Ntvdmex.Foundation.SampledEdges
import Ntvdmex.Vdd.Proofs.Cmos.Clocks
import Ntvdmex.Vdd.Proofs.Cmos.Setting

/-!
# The alarm

How often the alarm flag is raised over a schedule of calls, each made at the end of its own
interval, against the seconds of the clock that match the alarm.
-/

namespace Ntvdmex.Vdd.Cmos

open Finset Nat
open Foundation (forall_byte SamePace samePace_of_phases sampled sampled_succ
  sampled_append EachOnce Steady SameTime)

variable {register : Fin 128} {state : CmosState}

/-! ## Alarm settings -/

/-- The time of an alarm; a field that is `none` matches any. -/
structure AlarmTime where
  hour : Option Nat
  minute : Option Nat
  second : Option Nat

def AlarmTime.IsValid (alarm : AlarmTime) : Prop :=
  (∀ hour ∈ alarm.hour, hour < 24) ∧ (∀ minute ∈ alarm.minute, minute < 60) ∧
    ∀ second ∈ alarm.second, second < 60

/-- The alarm is due in a second, counted from a midnight. -/
def AlarmTime.Matches (alarm : AlarmTime) (second : Nat) : Prop :=
  (∀ value ∈ alarm.second, second % 60 = value) ∧
    (∀ value ∈ alarm.minute, second / 60 % 60 = value) ∧
    ∀ value ∈ alarm.hour, second / 3600 % 24 = value
deriving Decidable

def IsAlarmByte (state : CmosState) (register : Fin 128) (field : Option Nat) (byte : UInt8) :
    Prop :=
  match field with
  | none => byte &&& cmosAlarmDontCare = cmosAlarmDontCare
  | some value => byte = fieldValue state register value

structure IsAlarmSet (state : CmosState) (alarm : AlarmTime) : Prop where
  second : IsAlarmByte state cmosSeconds alarm.second (state.ram cmosSecondsAlarm)
  minute : IsAlarmByte state cmosMinutes alarm.minute (state.ram cmosMinutesAlarm)
  hour : IsAlarmByte state cmosHours alarm.hour (state.ram cmosHoursAlarm)

def IsTimeValue (register : Fin 128) (value : Nat) : Prop :=
  if register = cmosHours then value < 24 else value < 60

theorem timeValue_roundTrip (state : CmosState) {value : Nat} (h : IsTimeValue register value) :
    fieldDecode state register (fieldValue state register value) = value := by
  unfold fieldDecode fieldValue
  unfold IsTimeValue at h
  by_cases hhours : register = cmosHours
  · rw [if_pos hhours] at h
    rw [if_pos hhours, if_pos hhours, hours_roundTrip state h]
  · rw [if_neg hhours] at h
    rw [if_neg hhours, if_neg hhours, clock_roundTrip state (by omega)]

theorem timeValue_cares (state : CmosState) {value : Nat} (h : IsTimeValue register value) :
    fieldValue state register value &&& cmosAlarmDontCare ≠ cmosAlarmDontCare := by
  have hclock : ∀ binary : Bool, ∀ value : Fin 60,
      (if binary then UInt8.ofNat value.val else cmosToBcd value.val) &&& cmosAlarmDontCare ≠
        cmosAlarmDontCare := by decide
  unfold fieldValue
  unfold IsTimeValue at h
  by_cases hhours : register = cmosHours
  · rw [if_pos hhours] at h ⊢
    unfold cmosHoursValue
    by_cases h24Hour : state.hasB cmosB24Hour = true
    · rw [if_pos h24Hour]
      exact hclock (state.hasB cmosBBinary) ⟨value, by omega⟩
    · rw [if_neg h24Hour]
      unfold cmosClockValue
      cases state.hasB cmosBBinary <;> revert h <;> revert value <;> decide
  · rw [if_neg hhours] at h ⊢
    exact hclock (state.hasB cmosBBinary) ⟨value, h⟩

theorem alarmFieldMatches_iff {field : Option Nat} {byte : UInt8}
    (hbyte : IsAlarmByte state register field byte)
    (hfield : ∀ value ∈ field, IsTimeValue register value) {current : Nat}
    (hcurrent : IsTimeValue register current) :
    cmosAlarmFieldMatches byte (fieldValue state register current) = true ↔
      ∀ value ∈ field, current = value := by
  unfold cmosAlarmFieldMatches
  rw [Bool.or_eq_true, decide_eq_true_iff, decide_eq_true_iff]
  cases field with
  | none =>
    have hdontCare : byte &&& cmosAlarmDontCare = cmosAlarmDontCare := hbyte
    simp [hdontCare]
  | some programmed =>
    have hvalue := hfield programmed rfl
    have hcares := timeValue_cares state hvalue
    have hequal : byte = fieldValue state register programmed := hbyte
    rw [hequal, or_iff_right hcares]
    constructor
    · rintro hsame value ⟨⟩
      rw [← timeValue_roundTrip state hcurrent, ← hsame, timeValue_roundTrip state hvalue]
    · intro hsame
      rw [hsame programmed rfl]

section Schedule

variable {σ : Type} (hooks : RtcHooks σ) (hostAt : Nat → σ) (start phase : Nat)

/-! ## The clock while a schedule runs -/

/-- `RtcNow` shows a clock that runs with the timer's clocks: after `elapsed` of them it stands
in second `start + (phase + elapsed) / pitInputHz`, counted from a midnight. -/
def ShowsTime : Prop :=
  ∃ rtcNow, hooks.rtcNow = some rtcNow ∧ ∀ elapsed preset,
    let reading := rtcNow (hostAt elapsed) preset
    let second := start + (phase + elapsed) / pitInputHz
    reading.hour = second / 3600 % 24 ∧ reading.minute = second / 60 % 60 ∧
      reading.second = second % 60

/-- The clocks of the first `k` calls. -/
def elapsed (schedule : Nat → UInt32) (k : Nat) : Nat := ∑ i ∈ range k, (schedule i).toNat

/-- The first `k` calls, each made at the end of its interval. -/
def callsMade (schedule : Nat → UInt32) (state : CmosState) : Nat → CmosState
  | 0 => state
  | k + 1 =>
    vddCmosAddClocks hooks (hostAt (elapsed schedule (k + 1)))
      (callsMade schedule state k) (schedule k)

/-- The second the clock stands in after `k` calls, from the one it stood in before them. -/
def clockSecond (schedule : Nat → UInt32) (k : Nat) : Nat :=
  (phase + elapsed schedule k) / pitInputHz

/-- The second edges of the first `k` calls. -/
def secondEdges (state : CmosState) (schedule : Nat → UInt32) (k : Nat) : Nat :=
  (state.secondAccumulator.toNat + elapsed schedule k) / pitInputHz

/-- In every stretch of the calls the alarm flag is raised for each matching second that begins
and ends within it, and for no more than the matching seconds it touches. -/
def AlarmEachOnce (schedule : Nat → UInt32) (alarm : AlarmTime) (state : CmosState) : Prop :=
  ∀ i k, i ≤ k →
    let raised := (callsMade hooks hostAt schedule state k).alarmRaised -
      (callsMade hooks hostAt schedule state i).alarmRaised
    let first := clockSecond phase schedule i
    let last := clockSecond phase schedule k;
    #{second ∈ Ioo first last | alarm.Matches (start + second)} ≤ raised ∧
      raised ≤ #{second ∈ Icc first last | alarm.Matches (start + second)}

variable {hooks hostAt start phase}

theorem hasAlarm_iff (hshows : ShowsTime hooks hostAt start phase)
    (haie : state.hasB cmosBAie = true) (hclear : state.isSetHeld = false) {alarm : AlarmTime}
    (hvalid : alarm.IsValid) (halarm : IsAlarmSet state alarm) (passed : Nat) :
    hasAlarm hooks (hostAt passed) state = true ↔
      alarm.Matches (start + (phase + passed) / pitInputHz) := by
  obtain ⟨rtcNow, hnow, hreading⟩ := hshows
  obtain ⟨hhour, hminute, hsecond⟩ := hreading passed cmosDefaultReading
  have hshown : cmosReading hooks (hostAt passed) state =
      some (rtcNow (hostAt passed) cmosDefaultReading) := by
    unfold cmosReading
    rw [hclear, hnow]
    rfl
  have hmatches : hasAlarm hooks (hostAt passed) state =
      (cmosAlarmFieldMatches (state.ram cmosSecondsAlarm) (fieldValue state cmosSeconds
          (rtcNow (hostAt passed) cmosDefaultReading).second) &&
        cmosAlarmFieldMatches (state.ram cmosMinutesAlarm) (fieldValue state cmosMinutes
          (rtcNow (hostAt passed) cmosDefaultReading).minute) &&
        cmosAlarmFieldMatches (state.ram cmosHoursAlarm) (fieldValue state cmosHours
          (rtcNow (hostAt passed) cmosDefaultReading).hour)) := by
    unfold hasAlarm cmosAlarmMatches cmosClockRegister
    rw [hclear, haie, hshown]
    rfl
  rw [hmatches, Bool.and_eq_true, Bool.and_eq_true,
    alarmFieldMatches_iff halarm.second hvalid.2.2
      (show IsTimeValue cmosSeconds _ from hsecond ▸ mod_lt _ (by decide)),
    alarmFieldMatches_iff halarm.minute hvalid.2.1
      (show IsTimeValue cmosMinutes _ from hminute ▸ mod_lt _ (by decide)),
    alarmFieldMatches_iff halarm.hour hvalid.1
      (show IsTimeValue cmosHours _ from hhour ▸ mod_lt _ (by decide)),
    hsecond, hminute, hhour, and_assoc]
  rfl

/-! ## The calls -/

theorem elapsed_succ (schedule : Nat → UInt32) (k : Nat) :
    elapsed schedule (k + 1) = elapsed schedule k + (schedule k).toNat :=
  sum_range_succ _ k

theorem elapsed_mono (schedule : Nat → UInt32) : Monotone (elapsed schedule) :=
  monotone_nat_of_le_succ fun k => by rw [elapsed_succ]; exact Nat.le_add_right _ _

theorem secondEdges_samePace (haccumulator : state.secondAccumulator.toNat < pitInputHz)
    (hphase : phase < pitInputHz) (schedule : Nat → UInt32) :
    SamePace (secondEdges state schedule) (clockSecond phase schedule) :=
  samePace_of_phases haccumulator hphase (elapsed_mono schedule) rfl

theorem secondsDue_eq (hbits : state.hasB cmosBUieOrAie = true) {clocks : UInt32}
    (hguard : clocks.toNat ≤ cmosSecondEdgeGuard * pitInputHz)
    (haccumulator : state.secondAccumulator.toNat < pitInputHz) :
    (state.secondAccumulator + clocks.toUInt64).toNat =
        state.secondAccumulator.toNat + clocks.toNat ∧
      secondsDue state clocks =
        (state.secondAccumulator.toNat + clocks.toNat) / pitInputHz := by
  have hhz : pitInputHz = 1193182 := rfl
  have hrounds : cmosSecondEdgeGuard = 1000 := rfl
  rw [hhz, hrounds] at hguard
  have hsum : (state.secondAccumulator + clocks.toUInt64).toNat =
      state.secondAccumulator.toNat + clocks.toNat := by
    rw [UInt64.toNat_add, UInt32.toNat_toUInt64]
    exact mod_eq_of_lt (by lia)
  refine ⟨hsum, ?_⟩
  unfold secondsDue
  rw [if_pos hbits, hsum, hrounds, hhz]
  lia

/-- What the calls leave: the settings, a part of a second, and the alarms raised. -/
structure CallsMade (phase start : Nat) (schedule : Nat → UInt32) (alarm : AlarmTime)
    (state : CmosState) (k : Nat) (after : CmosState) : Prop where
  statusB : after.statusB = state.statusB
  isSetHeld : after.isSetHeld = state.isSetHeld
  ram : after.ram = state.ram
  shadow : after.shadow = state.shadow
  secondAccumulator : after.secondAccumulator.toNat =
    (state.secondAccumulator.toNat + elapsed schedule k) % pitInputHz
  alarmRaised : after.alarmRaised = state.alarmRaised +
    sampled (secondEdges state schedule) (clockSecond phase schedule)
      (fun second => alarm.Matches (start + second)) 0 k

section

variable (hshows : ShowsTime hooks hostAt start phase) {schedule : Nat → UInt32}
    (hguard : ∀ i, (schedule i).toNat ≤ cmosSecondEdgeGuard * pitInputHz) {state : CmosState}
    (haie : state.hasB cmosBAie = true) (hclear : state.isSetHeld = false)
    (haccumulator : state.secondAccumulator.toNat < pitInputHz) {alarm : AlarmTime}
    (hvalid : alarm.IsValid) (halarm : IsAlarmSet state alarm)

include hshows hguard haie hclear haccumulator hvalid halarm

theorem callsMade_spec (k : Nat) :
    CallsMade phase start schedule alarm state k (callsMade hooks hostAt schedule state k) := by
  have hbits : ∀ statusB : UInt8, statusB &&& cmosBAie ≠ 0 → statusB &&& cmosBUieOrAie ≠ 0 :=
    forall_byte (by decide)
  induction k with
  | zero =>
    refine ⟨rfl, rfl, rfl, rfl, (mod_eq_of_lt haccumulator).symm, ?_⟩
    unfold sampled
    rw [Ico_self, sum_empty]
    rfl
  | succ k ih =>
    have hadded := vddCmosAddClocks_added hooks (hostAt (elapsed schedule (k + 1)))
      (callsMade hooks hostAt schedule state k) (schedule k)
    have hhz : 0 < pitInputHz := by decide
    have hpart : (callsMade hooks hostAt schedule state k).secondAccumulator.toNat <
        pitInputHz := ih.secondAccumulator ▸ mod_lt _ hhz
    have hcounts : (callsMade hooks hostAt schedule state k).hasB cmosBUieOrAie = true := by
      unfold CmosState.hasB
      rw [ih.statusB]
      exact decide_eq_true (hbits _ (of_decide_eq_true haie))
    obtain ⟨hsum, hdue⟩ := secondsDue_eq hcounts (hguard k) hpart
    have halarmed : hasAlarm hooks (hostAt (elapsed schedule (k + 1)))
        (callsMade hooks hostAt schedule state k) = true ↔
          alarm.Matches (start + clockSecond phase schedule (k + 1)) := by
      rw [hasAlarm_congr hooks _ ih.ram ih.statusB ih.isSetHeld ih.shadow]
      exact hasAlarm_iff hshows haie hclear hvalid halarm _
    have hwhole : state.secondAccumulator.toNat + elapsed schedule (k + 1) =
        (callsMade hooks hostAt schedule state k).secondAccumulator.toNat +
          (schedule k).toNat + secondEdges state schedule k * pitInputHz := by
      have hdiv := div_add_mod' (state.secondAccumulator.toNat + elapsed schedule k) pitInputHz
      rw [elapsed_succ, ih.secondAccumulator]
      unfold secondEdges
      lia
    have hedges : secondEdges state schedule (k + 1) - secondEdges state schedule k =
        secondsDue (callsMade hooks hostAt schedule state k) (schedule k) := by
      rw [hdue, secondEdges, hwhole, add_mul_div_right _ _ hhz, Nat.add_sub_cancel]
    refine ⟨hadded.statusB.trans ih.statusB, hadded.isSetHeld.trans ih.isSetHeld,
      hadded.ram.trans ih.ram, hadded.shadow.trans ih.shadow, ?_, ?_⟩
    · change (vddCmosAddClocks hooks (hostAt (elapsed schedule (k + 1)))
        (callsMade hooks hostAt schedule state k) (schedule k)).secondAccumulator.toNat = _
      have hle : secondsDue (callsMade hooks hostAt schedule state k) (schedule k) * pitInputHz ≤
          ((callsMade hooks hostAt schedule state k).secondAccumulator +
            (schedule k).toUInt64).toNat := by
        rw [hsum, hdue]
        exact div_mul_le_self _ _
      rw [hadded.secondAccumulator, if_pos hcounts, toNat_sub_mul _ hle, hsum, hdue, hwhole,
        add_mul_mod_self_right, ← mod_eq_sub_div_mul]
    · change (vddCmosAddClocks hooks (hostAt (elapsed schedule (k + 1)))
        (callsMade hooks hostAt schedule state k) (schedule k)).alarmRaised = _
      rw [hadded.alarmRaised, ih.alarmRaised, sampled_succ _ (Nat.zero_le k), hedges,
        Nat.add_assoc, if_congr halarmed rfl rfl]

theorem alarmEachOnce_iff :
    AlarmEachOnce hooks hostAt start phase schedule alarm state ↔
      EachOnce (secondEdges state schedule) (clockSecond phase schedule)
        fun second => alarm.Matches (start + second) := by
  have hraised := fun k =>
    (callsMade_spec hshows hguard haie hclear haccumulator hvalid halarm k).alarmRaised
  refine forall_congr' fun i => forall_congr' fun k => forall_congr' fun hik => ?_
  have hstretch : (callsMade hooks hostAt schedule state k).alarmRaised -
      (callsMade hooks hostAt schedule state i).alarmRaised =
        sampled (secondEdges state schedule) (clockSecond phase schedule)
          (fun second => alarm.Matches (start + second)) i k := by
    rw [hraised, hraised, sampled_append _ (Nat.zero_le i) hik, ← Nat.add_assoc,
      Nat.add_sub_cancel_left]
  rw [hstretch]

end

/-- The alarm of one second of the day. -/
def alarmAt (second : Nat) : AlarmTime :=
  ⟨some (second / 3600 % 24), some (second / 60 % 60), some (second % 60)⟩

theorem alarmAt_isValid (second : Nat) : (alarmAt second).IsValid := by
  refine ⟨?_, ?_, ?_⟩ <;> rintro value ⟨⟩
  · exact mod_lt _ (by decide)
  · exact mod_lt _ (by decide)
  · exact mod_lt _ (by decide)

theorem alarmAt_matches (start second other : Nat) :
    (alarmAt (start + second)).Matches (start + other) ↔ SameTime 86400 second other := by
  unfold alarmAt AlarmTime.Matches SameTime
  simp only [Option.mem_some_iff, forall_eq']
  omega

def alarmRam (state : CmosState) (second : Nat) : Fin 128 → UInt8 :=
  Function.update (Function.update (Function.update state.ram
    cmosSecondsAlarm (fieldValue state cmosSeconds (second % 60)))
    cmosMinutesAlarm (fieldValue state cmosMinutes (second / 60 % 60)))
    cmosHoursAlarm (fieldValue state cmosHours (second / 3600 % 24))

theorem alarmRam_isAlarmSet (state : CmosState) (second : Nat) :
    IsAlarmSet { state with ram := alarmRam state second } (alarmAt second) :=
  ⟨rfl, rfl, rfl⟩

/-- Every alarm is raised once in each of its seconds exactly when no call has more than one
edge, and each edge is handled in its own second, or each in the one before. -/
theorem alarm_each_once (hshows : ShowsTime hooks hostAt start phase)
    (hphase : phase < pitInputHz) (schedule : Nat → UInt32)
    (hguard : ∀ i, (schedule i).toNat ≤ cmosSecondEdgeGuard * pitInputHz) (state : CmosState)
    (haie : state.hasB cmosBAie = true) (hclear : state.isSetHeld = false)
    (haccumulator : state.secondAccumulator.toNat < pitInputHz) :
    (∀ (alarm : AlarmTime) (ram : Fin 128 → UInt8), alarm.IsValid →
      IsAlarmSet { state with ram } alarm →
        AlarmEachOnce hooks hostAt start phase schedule alarm { state with ram }) ↔
      Steady (secondEdges state schedule) (clockSecond phase schedule) := by
  have hpace := secondEdges_samePace haccumulator hphase schedule
  have hiff : ∀ (alarm : AlarmTime) (ram : Fin 128 → UInt8), alarm.IsValid →
      IsAlarmSet { state with ram } alarm →
        (AlarmEachOnce hooks hostAt start phase schedule alarm { state with ram } ↔
          EachOnce (secondEdges state schedule) (clockSecond phase schedule)
            fun second => alarm.Matches (start + second)) := by
    intro alarm ram hvalid halarm
    have haie' : ({ state with ram } : CmosState).hasB cmosBAie = true := haie
    have hclear' : ({ state with ram } : CmosState).isSetHeld = false := hclear
    exact alarmEachOnce_iff hshows hguard haie' hclear' haccumulator hvalid halarm
  constructor
  · intro hall
    refine hpace.steady_of_eachOnce (show 3 < 86400 by decide) (fun i => ?_) fun second => ?_
    · have hhz : pitInputHz = 1193182 := rfl
      have hrounds : cmosSecondEdgeGuard = 1000 := rfl
      have hcall := hguard i
      rw [hhz, hrounds] at hcall
      unfold clockSecond
      rw [elapsed_succ, hhz]
      lia
    · have halarm := alarmRam_isAlarmSet state (start + second)
      have honce := hall (alarmAt (start + second)) (alarmRam state (start + second))
        (alarmAt_isValid _) halarm
      rw [hiff _ _ (alarmAt_isValid _) halarm] at honce
      exact honce.congr (alarmAt_matches start second)
  · intro hsteady alarm ram hvalid halarm
    rw [hiff _ _ hvalid halarm]
    exact hpace.eachOnce_of_steady hsteady _

end Schedule

/-- A clock of the host that started at midnight and runs with the timer's clocks. -/
def runningClock : RtcHooks Nat where
  rtcNow := some fun passed preset =>
    { preset with
      hour := passed / pitInputHz / 3600 % 24
      minute := passed / pitInputHz / 60 % 60
      second := passed / pitInputHz % 60 }
  rtcSet := none

theorem runningClock_showsTime : ShowsTime runningClock id 0 0 := by
  refine ⟨_, rfl, fun passed preset => ?_⟩
  rw [Nat.zero_add, Nat.zero_add]
  exact ⟨rfl, rfl, rfl⟩

def alarmEnabled : CmosState := { vddCmosReset true 640 with statusB := 0x22 }

theorem alarm_each_once_second_calls :
    AlarmEachOnce runningClock id 0 0 (fun _ => UInt32.ofNat pitInputHz) (alarmAt 2)
      { alarmEnabled with ram := alarmRam alarmEnabled 2 } := by
  refine (alarm_each_once runningClock_showsTime (by decide) (fun _ => UInt32.ofNat pitInputHz)
    (fun _ => by decide) alarmEnabled (by decide) rfl (by decide)).mpr
      ⟨0, Nat.zero_le 1, fun i _ => ?_⟩ (alarmAt 2) (alarmRam alarmEnabled 2)
      (alarmAt_isValid 2) (alarmRam_isAlarmSet alarmEnabled 2)
  have hcount : ∀ k, (0 + elapsed (fun _ => UInt32.ofNat pitInputHz) k) / pitInputHz = k := by
    intro k
    unfold elapsed
    rw [sum_const, card_range, smul_eq_mul, Nat.zero_add]
    exact Nat.mul_div_cancel k (by decide)
  have hedges : ∀ k, secondEdges alarmEnabled (fun _ => UInt32.ofNat pitInputHz) k = k := hcount
  have hseconds : ∀ k, clockSecond 0 (fun _ => UInt32.ofNat pitInputHz) k = k := hcount
  rw [hedges, hedges, hseconds]
  exact ⟨rfl, rfl⟩

theorem two_second_call_raises_twice :
    ShowsTime runningClock id 0 0 ∧ (alarmAt 2).IsValid ∧
    IsAlarmSet { alarmEnabled with ram := alarmRam alarmEnabled 2 } (alarmAt 2) ∧
    ¬AlarmEachOnce runningClock id 0 0 (fun _ => UInt32.ofNat (2 * pitInputHz)) (alarmAt 2)
      { alarmEnabled with ram := alarmRam alarmEnabled 2 } := by
  refine ⟨runningClock_showsTime, alarmAt_isValid 2, alarmRam_isAlarmSet alarmEnabled 2,
    fun honce => ?_⟩
  have htwice := (honce 0 1 (Nat.zero_le 1)).2
  revert htwice
  decide

end Ntvdmex.Vdd.Cmos
