import Ntvdmex.Dos.Clock
import Ntvdmex.Foundation.Strings
import Ntvdmex.Vdd.Cmos

/-!
# Setting the clock

What the seven clock registers read back after they have been written in some order, with the
SET bit held around the writes and without it.
-/

namespace Ntvdmex.Vdd.Cmos

open Dos.Clock (DosClockIsRealDate DosClockIsTimeValid)
open List UInt8
open Foundation (forall_byte)

/-! ## Fields of a reading -/

def clockRegisters : List (Fin 128) :=
  [cmosSeconds, cmosMinutes, cmosHours, cmosDayOfMonth, cmosMonth, cmosYear, cmosCentury]

def RtcReading.field (reading : RtcReading) (register : Fin 128) : Nat :=
  if register = cmosSeconds then reading.second
  else if register = cmosMinutes then reading.minute
  else if register = cmosHours then reading.hour
  else if register = cmosDayOfMonth then reading.day
  else if register = cmosMonth then reading.month
  else if register = cmosYear then reading.year
  else reading.century

def RtcReading.put (reading : RtcReading) (register : Fin 128) (value : Nat) : RtcReading :=
  if register = cmosSeconds then { reading with second := value }
  else if register = cmosMinutes then { reading with minute := value }
  else if register = cmosHours then { reading with hour := value }
  else if register = cmosDayOfMonth then { reading with day := value }
  else if register = cmosMonth then { reading with month := value }
  else if register = cmosYear then { reading with year := value }
  else { reading with century := value }

def fieldValue (state : CmosState) (register : Fin 128) (value : Nat) : UInt8 :=
  if register = cmosHours then cmosHoursValue state value else cmosClockValue state value

def fieldDecode (state : CmosState) (register : Fin 128) (value : UInt8) : Nat :=
  if register = cmosHours then cmosHoursDecode state value else cmosClockDecode state value

theorem clockRegister_cases {register : Fin 128} (h : register ∈ clockRegisters) :
    register = cmosSeconds ∨ register = cmosMinutes ∨ register = cmosHours ∨
      register = cmosDayOfMonth ∨ register = cmosMonth ∨ register = cmosYear ∨
      register = cmosCentury := by
  simpa [clockRegisters] using h

theorem put_field (reading : RtcReading) {register other : Fin 128}
    (hregister : register ∈ clockRegisters) (hother : other ∈ clockRegisters) (value : Nat) :
    (reading.put register value).field other =
      if other = register then value else reading.field other := by
  rcases clockRegister_cases hregister with rfl | rfl | rfl | rfl | rfl | rfl | rfl <;>
    rcases clockRegister_cases hother with rfl | rfl | rfl | rfl | rfl | rfl | rfl <;> rfl

theorem write_eq_put (reading : RtcReading) (state : CmosState) {register : Fin 128}
    (hregister : register ∈ clockRegisters) (value : UInt8) :
    reading.write state register value =
      reading.put register (fieldDecode state register value) := by
  rcases clockRegister_cases hregister with rfl | rfl | rfl | rfl | rfl | rfl | rfl <;> rfl

/-! ## Encodings -/

def encodingBits : UInt8 := 0x06

theorem hasB_congr {state state' : CmosState} {bits : UInt8} (hbits : encodingBits &&& bits = bits)
    (h : state'.statusB &&& encodingBits = state.statusB &&& encodingBits) :
    state'.hasB bits = state.hasB bits := by
  unfold CmosState.hasB
  rw [← hbits, ← UInt8.and_assoc, ← UInt8.and_assoc, h]

section

variable {state state' : CmosState}
    (h : state'.statusB &&& encodingBits = state.statusB &&& encodingBits) (register : Fin 128)

include h register

theorem fieldDecode_congr
    (value : UInt8) : fieldDecode state' register value = fieldDecode state register value := by
  have hbinary : state'.hasB cmosBBinary = state.hasB cmosBBinary := hasB_congr (by decide) h
  have h24Hour : state'.hasB cmosB24Hour = state.hasB cmosB24Hour := hasB_congr (by decide) h
  unfold fieldDecode cmosHoursDecode cmosClockDecode
  rw [hbinary, h24Hour]

theorem fieldValue_congr
    (value : Nat) : fieldValue state' register value = fieldValue state register value := by
  have hbinary : state'.hasB cmosBBinary = state.hasB cmosBBinary := hasB_congr (by decide) h
  have h24Hour : state'.hasB cmosB24Hour = state.hasB cmosB24Hour := hasB_congr (by decide) h
  unfold fieldValue cmosHoursValue cmosClockValue
  rw [hbinary, h24Hour]

end

theorem binary_roundTrip {value : Nat} (h : value < 100) : (ofNat value).toNat = value :=
  toNat_ofNat_of_lt' (show value < UInt8.size by have : UInt8.size = 256 := rfl; omega)

theorem bcd_roundTrip {value : Nat} (h : value < 100) :
    (cmosToBcd value >>> 4).toNat * 10 + (cmosToBcd value &&& 0x0F).toNat = value := by
  have hall : ∀ value : Fin 100, (cmosToBcd value >>> 4).toNat * 10 +
      (cmosToBcd value &&& 0x0F).toNat = value := by decide
  exact hall ⟨value, h⟩

theorem clock_roundTrip (state : CmosState) {value : Nat} (h : value < 100) :
    cmosClockDecode state (cmosClockValue state value) = value := by
  unfold cmosClockDecode cmosClockValue
  by_cases hbinary : state.hasB cmosBBinary = true
  · rw [if_pos hbinary, if_pos hbinary, binary_roundTrip h]
  · rw [if_neg hbinary, if_neg hbinary, bcd_roundTrip h]

theorem hours_roundTrip (state : CmosState) {hour : Nat} (h : hour < 24) :
    cmosHoursDecode state (cmosHoursValue state hour) = hour := by
  unfold cmosHoursDecode cmosHoursValue
  by_cases h24Hour : state.hasB cmosB24Hour = true
  · rw [if_pos h24Hour, if_pos h24Hour]
    exact clock_roundTrip state (by omega)
  · rw [if_neg h24Hour, if_neg h24Hour]
    unfold cmosClockDecode cmosClockValue
    cases state.hasB cmosBBinary <;> revert h <;> revert hour <;> decide

def InRange (reading : RtcReading) : Prop :=
  reading.hour < 24 ∧ ∀ register ∈ clockRegisters, reading.field register < 100

theorem field_roundTrip (state : CmosState) {reading : RtcReading} (h : InRange reading)
    {register : Fin 128} (hregister : register ∈ clockRegisters) :
    fieldDecode state register (fieldValue state register (reading.field register)) =
      reading.field register := by
  unfold fieldDecode fieldValue
  by_cases hhours : register = cmosHours
  · rw [if_pos hhours, if_pos hhours, hhours]
    exact hours_roundTrip state h.1
  · rw [if_neg hhours, if_neg hhours]
    exact clock_roundTrip state (h.2 register hregister)

/-! ## The host's clock -/

def IsValidDate (reading : RtcReading) : Prop :=
  DosClockIsRealDate (reading.century * 100 + reading.year) reading.month reading.day
deriving Decidable

def IsValidTime (reading : RtcReading) : Prop :=
  DosClockIsTimeValid reading.hour reading.minute reading.second 0
deriving Decidable

/-- A calendar date, its year in two digits, and a time of day. -/
structure IsValid (reading : RtcReading) : Prop where
  date : IsValidDate reading
  time : IsValidTime reading
  year : reading.year < 100

/-- The registers that are committed as a date. -/
def IsDateRegister (register : Fin 128) : Prop := cmosDayOfMonth ≤ register
deriving Decidable

/-- The host's clock: `RtcNow` shows it, and `RtcSet` stores exactly the valid date or time of
day it is given and refuses any other. -/
structure StoresClock {σ : Type} (hooks : RtcHooks σ) (clock : σ → RtcReading) : Prop where
  shows : ∃ rtcNow, hooks.rtcNow = some rtcNow ∧ ∀ host preset, ∀ register ∈ clockRegisters,
    (rtcNow host preset).field register = (clock host).field register
  stores : ∃ rtcSet, hooks.rtcSet = some rtcSet ∧
    (∀ host reading, IsValidDate reading → ∀ register ∈ clockRegisters,
      (clock (rtcSet host reading true)).field register =
        if IsDateRegister register then reading.field register else (clock host).field register) ∧
    (∀ host reading, IsValidTime reading → ∀ register ∈ clockRegisters,
      (clock (rtcSet host reading false)).field register =
        if IsDateRegister register then (clock host).field register else reading.field register) ∧
    (∀ host reading, ¬IsValidDate reading → rtcSet host reading true = host) ∧
    ∀ host reading, ¬IsValidTime reading → rtcSet host reading false = host

theorem IsValid.inRange {reading : RtcReading} (h : IsValid reading) : InRange reading := by
  obtain ⟨hlow, hhigh, hmonth, hmonth', hday, hday'⟩ := h.date
  obtain ⟨hhour, hminute, hsecond, -⟩ := h.time
  have hyear := h.year
  have hlast : Ntvdmex.Dos.Clock.dosClockLastYear = 9999 := rfl
  have hlength : Ntvdmex.Dos.Clock.dosClockDaysInMonth
      (reading.century * 100 + reading.year) reading.month ≤ 31 := by
    unfold Ntvdmex.Dos.Clock.dosClockDaysInMonth
    interval_cases reading.month <;> split_ifs <;> decide
  refine ⟨hhour, fun register hregister => ?_⟩
  rcases clockRegister_cases hregister with rfl | rfl | rfl | rfl | rfl | rfl | rfl
  · exact hsecond.trans (by decide)
  · exact hminute.trans (by decide)
  · exact hhour.trans (by decide)
  · exact Nat.lt_of_le_of_lt (hday'.trans hlength) (by decide)
  · exact Nat.lt_of_le_of_lt hmonth' (by decide)
  · exact hyear
  · change reading.century < 100
    lia

/-- Two readings show the same date and time. -/
def SameFields (first second : RtcReading) : Prop :=
  ∀ register ∈ clockRegisters, first.field register = second.field register

section

variable {first second : RtcReading} (h : SameFields first second)

include h

theorem SameFields.isValidDate_iff :
    IsValidDate first ↔ IsValidDate second := by
  have hday : first.day = second.day := h cmosDayOfMonth (by decide)
  have hmonth : first.month = second.month := h cmosMonth (by decide)
  have hyear : first.year = second.year := h cmosYear (by decide)
  have hcentury : first.century = second.century := h cmosCentury (by decide)
  unfold IsValidDate
  rw [hday, hmonth, hyear, hcentury]

theorem SameFields.isValidTime_iff :
    IsValidTime first ↔ IsValidTime second := by
  have hsecond : first.second = second.second := h cmosSeconds (by decide)
  have hminute : first.minute = second.minute := h cmosMinutes (by decide)
  have hhour : first.hour = second.hour := h cmosHours (by decide)
  unfold IsValidTime
  rw [hsecond, hminute, hhour]

theorem SameFields.put {register : Fin 128} (hregister : register ∈ clockRegisters) (value : Nat) :
    SameFields (first.put register value) (second.put register value) := by
  intro other hother
  rw [put_field _ hregister hother, put_field _ hregister hother, h other hother]

end

/-! ## One register written -/

section Host

variable {σ : Type} (hooks : RtcHooks σ)

def writeRegister (board : CmosState × σ) (register : Fin 128) (value : UInt8) : CmosState × σ :=
  let selected := cmosPortOut hooks board.2 board.1 cmosIndexPort (UInt8.ofNat register.val)
  cmosPortOut hooks selected.2 selected.1 cmosDataPort value

def readRegister (board : CmosState × σ) (register : Fin 128) : UInt8 :=
  let selected := cmosPortOut hooks board.2 board.1 cmosIndexPort (UInt8.ofNat register.val)
  (cmosPortIn hooks selected.2 selected.1 cmosDataPort).2

def CmosState.selected (state : CmosState) (register : Fin 128) : CmosState :=
  { state with index := register, isNmiDisabled := false }

theorem cmosPortOut_index (state : CmosState) (host : σ) (register : Fin 128) :
    cmosPortOut hooks host state cmosIndexPort (ofNat register.val) =
      (state.selected register, host) := by
  have hmask : ∀ register : Fin 128, ofNat register.val &&& cmosNmiMaskBit = 0 := by
    decide
  have hindex : ∀ register : Fin 128,
      Fin.ofNat 128 (ofNat register.val).toNat = register := by
    decide
  unfold cmosPortOut CmosState.selected
  rw [if_pos rfl]
  rw [hindex, hmask]
  rfl

theorem readRegister_eq (board : CmosState × σ) {register : Fin 128}
    (hregister : register ∈ clockRegisters) {reading : RtcReading}
    (hreading : cmosReading hooks board.2 board.1 = some reading) :
    readRegister hooks board register =
      fieldValue board.1 register (reading.field register) := by
  have hclock : cmosClockRegister hooks board.2 (board.1.selected register) register =
      some (fieldValue board.1 register (reading.field register)) := by
    have hselected : cmosReading hooks board.2 (board.1.selected register) = some reading :=
      hreading
    unfold cmosClockRegister
    rw [hselected]
    rcases clockRegister_cases hregister with rfl | rfl | rfl | rfl | rfl | rfl | rfl <;> rfl
  unfold readRegister
  rw [cmosPortOut_index]
  unfold cmosPortIn cmosRead
  dsimp only
  rw [if_neg (by decide), show (board.1.selected register).index = register from rfl, hclock]

theorem writeRegister_clock (board : CmosState × σ) {register : Fin 128}
    (hregister : register ∈ clockRegisters) (value : UInt8) :
    writeRegister hooks board register value =
      cmosWriteClock hooks board.2 (board.1.selected register) value := by
  unfold writeRegister
  rw [cmosPortOut_index]
  rcases clockRegister_cases hregister with rfl | rfl | rfl | rfl | rfl | rfl | rfl <;> rfl

variable {hooks} {clock : σ → RtcReading}

theorem StoresClock.reading (h : StoresClock hooks clock) {board : CmosState × σ}
    (hlive : board.1.isSetHeld = false) :
    ∃ reading, cmosReading hooks board.2 board.1 = some reading ∧
      SameFields reading (clock board.2) := by
  obtain ⟨rtcNow, hnow, hshows⟩ := h.shows
  refine ⟨rtcNow board.2 cmosDefaultReading, ?_, fun register hregister =>
    hshows board.2 cmosDefaultReading register hregister⟩
  unfold cmosReading
  rw [hlive, hnow]
  rfl

theorem StoresClock.read (h : StoresClock hooks clock) {board : CmosState × σ}
    (hlive : board.1.isSetHeld = false) {register : Fin 128}
    (hregister : register ∈ clockRegisters) :
    readRegister hooks board register =
      fieldValue board.1 register ((clock board.2).field register) := by
  obtain ⟨reading, hreading, hsame⟩ := h.reading hlive
  rw [readRegister_eq hooks board hregister hreading, hsame register hregister]

/-- The clock takes what is written to a register. -/
def IsAccepted (reading : RtcReading) (register : Fin 128) (value : Nat) : Prop :=
  if IsDateRegister register then IsValidDate (reading.put register value)
  else IsValidTime (reading.put register value)
deriving Decidable

theorem StoresClock.write_live (h : StoresClock hooks clock) {board : CmosState × σ}
    (hlive : board.1.isSetHeld = false) {register : Fin 128}
    (hregister : register ∈ clockRegisters) (value : UInt8) :
    let written := writeRegister hooks board register value
    written.1 = board.1.selected register ∧ ∀ other ∈ clockRegisters,
      (clock written.2).field other =
        if other = register ∧
            IsAccepted (clock board.2) register (fieldDecode board.1 register value) then
          fieldDecode board.1 register value
        else (clock board.2).field other := by
  obtain ⟨reading, hreading, hsame⟩ := h.reading hlive
  obtain ⟨rtcSet, hset, hdate, htime, hnoDate, hnoTime⟩ := h.stores
  set decoded := fieldDecode board.1 register value with hdecoded
  have hselected : cmosReading hooks board.2 (board.1.selected register) = some reading := hreading
  have hwritten : writeRegister hooks board register value =
      (board.1.selected register,
        rtcSet board.2 (reading.put register decoded) (decide (IsDateRegister register))) := by
    rw [writeRegister_clock hooks board hregister]
    unfold cmosWriteClock
    rw [hset, hselected]
    dsimp only
    have hnotHeld : ¬(board.1.selected register).isSetHeld = true :=
      Bool.eq_false_iff.mp hlive
    rw [if_neg hnotHeld, show (board.1.selected register).index = register from rfl,
      write_eq_put _ _ hregister]
    rfl
  have hput := hsame.put hregister decoded
  refine ⟨congrArg Prod.fst hwritten, fun other hother => ?_⟩
  rw [congrArg Prod.snd hwritten]
  by_cases hisDate : IsDateRegister register
  · have haccepted : IsAccepted (clock board.2) register decoded ↔
        IsValidDate ((clock board.2).put register decoded) := by
      unfold IsAccepted
      rw [if_pos hisDate]
    rw [decide_eq_true hisDate]
    by_cases hvalid : IsValidDate ((clock board.2).put register decoded)
    · rw [hdate board.2 _ (hput.isValidDate_iff.mpr hvalid) other hother,
        put_field _ hregister hother]
      by_cases hself : other = register
      · rw [hself, if_pos hisDate, if_pos rfl, if_pos ⟨rfl, haccepted.mpr hvalid⟩]
      · rw [if_neg hself, hsame other hother, ite_self, if_neg fun hboth => hself hboth.1]
    · have hrefused : ¬IsValidDate (reading.put register decoded) := fun hv =>
        hvalid (hput.isValidDate_iff.mp hv)
      rw [hnoDate board.2 _ hrefused, if_neg fun hboth => hvalid (haccepted.mp hboth.2)]
  · have haccepted : IsAccepted (clock board.2) register decoded ↔
        IsValidTime ((clock board.2).put register decoded) := by
      unfold IsAccepted
      rw [if_neg hisDate]
    rw [decide_eq_false hisDate]
    by_cases hvalid : IsValidTime ((clock board.2).put register decoded)
    · rw [htime board.2 _ (hput.isValidTime_iff.mpr hvalid) other hother,
        put_field _ hregister hother]
      by_cases hself : other = register
      · rw [hself, if_neg hisDate, if_pos rfl, if_pos ⟨rfl, haccepted.mpr hvalid⟩]
      · rw [if_neg hself, hsame other hother, ite_self, if_neg fun hboth => hself hboth.1]
    · have hrefused : ¬IsValidTime (reading.put register decoded) := fun hv =>
        hvalid (hput.isValidTime_iff.mp hv)
      rw [hnoTime board.2 _ hrefused, if_neg fun hboth => hvalid (haccepted.mp hboth.2)]

theorem StoresClock.write_held (h : StoresClock hooks clock) {board : CmosState × σ}
    (hheld : board.1.isSetHeld = true) {register : Fin 128}
    (hregister : register ∈ clockRegisters) (value : UInt8) :
    writeRegister hooks board register value =
      ({ board.1.selected register with
        shadow := board.1.shadow.put register (fieldDecode board.1 register value) }, board.2) := by
  obtain ⟨rtcSet, hset, -⟩ := h.stores
  have hreading : cmosReading hooks board.2 (board.1.selected register) =
      some board.1.shadow := if_pos hheld
  rw [writeRegister_clock hooks board hregister]
  unfold cmosWriteClock
  rw [hset, hreading]
  dsimp only
  rw [if_pos (show (board.1.selected register).isSetHeld = true from hheld),
    show (board.1.selected register).index = register from rfl, write_eq_put _ _ hregister]
  rfl

/-! ## All registers written -/

def writeAll (hooks : RtcHooks σ) (bytes : Fin 128 → UInt8) (order : List (Fin 128))
    (board : CmosState × σ) : CmosState × σ :=
  order.foldl (fun board register => writeRegister hooks board register (bytes register)) board

/-- A reading with some registers already those of another. -/
def mixed (current target : RtcReading) (written : List (Fin 128)) : RtcReading :=
  written.foldl (fun reading register => reading.put register (target.field register)) current

theorem mixed_snoc (current target : RtcReading) (written : List (Fin 128)) (register : Fin 128) :
    mixed current target (written ++ [register]) =
      (mixed current target written).put register (target.field register) :=
  foldl_append

variable {written : List (Fin 128)}

theorem mixed_field (current target : RtcReading)
    (hwritten : written ⊆ clockRegisters) {other : Fin 128}
    (hother : other ∈ clockRegisters) : (mixed current target written).field other =
      if other ∈ written then target.field other else current.field other := by
  induction written using reverseRecOn with
  | nil => rfl
  | append_singleton written register ih =>
    have hbefore := ih (append_subset.mp hwritten).1
    rw [mixed_snoc, put_field _ (hwritten mem_concat_self) hother, hbefore]
    by_cases hself : other = register
    · rw [if_pos hself, if_pos (mem_append_right _ (mem_singleton.mpr hself)), hself]
    · have hmem : other ∈ written ++ [register] ↔ other ∈ written := by
        rw [mem_append, mem_singleton, or_iff_left hself]
      rw [if_neg hself, if_congr hmem rfl rfl]

theorem writeAll_snoc (bytes : Fin 128 → UInt8) (order : List (Fin 128)) (register : Fin 128)
    (board : CmosState × σ) :
    writeAll hooks bytes (order ++ [register]) board =
      writeRegister hooks (writeAll hooks bytes order board) register (bytes register) :=
  foldl_append

theorem mixed_validTime {current target : RtcReading} (hcurrent : IsValidTime current)
    (htarget : IsValidTime target) (hwritten : written ⊆ clockRegisters) :
    IsValidTime (mixed current target written) := by
  have hfield : ∀ register ∈ clockRegisters, ∀ bound, current.field register < bound →
      target.field register < bound → (mixed current target written).field register < bound := by
    intro register hregister bound hfirst hsecond
    rw [mixed_field _ _ hwritten hregister]
    split_ifs <;> assumption
  exact ⟨hfield cmosHours (by decide) 24 hcurrent.1 htarget.1,
    hfield cmosMinutes (by decide) 60 hcurrent.2.1 htarget.2.1,
    hfield cmosSeconds (by decide) 60 hcurrent.2.2.1 htarget.2.2.1, by decide⟩

section Live

variable {board : CmosState × σ} {target : RtcReading} {bytes : Fin 128 → UInt8}
variable {order : List (Fin 128)}

theorem StoresClock.writeAll_live (h : StoresClock hooks clock) (bytes : Fin 128 → UInt8)
    (hlive : board.1.isSetHeld = false) (horder : order ⊆ clockRegisters) :
    (writeAll hooks bytes order board).1.isSetHeld = false ∧
      (writeAll hooks bytes order board).1.statusB = board.1.statusB := by
  induction order using reverseRecOn with
  | nil => exact ⟨hlive, rfl⟩
  | append_singleton order register ih =>
    obtain ⟨hstill, hstatusB⟩ := ih (append_subset.mp horder).1
    have hwritten := (h.write_live hstill (horder mem_concat_self) (bytes register)).1
    rw [writeAll_snoc, hwritten]
    exact ⟨hstill, hstatusB⟩

theorem StoresClock.writeAll_other (h : StoresClock hooks clock)
    (hlive : board.1.isSetHeld = false) (horder : order ⊆ clockRegisters)
    {other : Fin 128} (hother : other ∈ clockRegisters) (hnot : other ∉ order) :
    (clock (writeAll hooks bytes order board).2).field other = (clock board.2).field other := by
  induction order using reverseRecOn with
  | nil => rfl
  | append_singleton order register ih =>
    have hearlier : order ⊆ clockRegisters :=
      (append_subset.mp horder).1
    have hstill := (h.writeAll_live bytes hlive hearlier).1
    have hwritten := (h.write_live hstill (horder mem_concat_self) (bytes register)).2 other hother
    rw [mem_append, mem_singleton, not_or] at hnot
    rw [writeAll_snoc, hwritten, if_neg fun hboth => hnot.2 hboth.1, ih hearlier hnot.1]

theorem StoresClock.writeAll_decoded (h : StoresClock hooks clock)
    (hlive : board.1.isSetHeld = false) (htarget : IsValid target)
    (hbytes : ∀ register, bytes register = fieldValue board.1 register (target.field register))
    (horder : order ⊆ clockRegisters) {register : Fin 128}
    (hregister : register ∈ clockRegisters) :
    fieldDecode (writeAll hooks bytes order board).1 register (bytes register) =
      target.field register := by
  obtain ⟨-, hstatusB⟩ := h.writeAll_live bytes hlive horder
  have hcongr : fieldDecode (writeAll hooks bytes order board).1 register (bytes register) =
      fieldDecode board.1 register (bytes register) :=
    fieldDecode_congr (by rw [hstatusB]) register _
  rw [hcongr, hbytes]
  exact field_roundTrip board.1 htarget.inRange hregister

section

variable (h : StoresClock hooks clock) (hlive : board.1.isSetHeld = false)
    (htarget : IsValid target) (hcurrent : IsValid (clock board.2))
    (hbytes : ∀ register, bytes register = fieldValue board.1 register (target.field register))

include h hlive htarget hcurrent hbytes

variable {order later : List (Fin 128)}

theorem StoresClock.writeAll_next (horder : order ⊆ clockRegisters)
    (hsame : SameFields (clock (writeAll hooks bytes order board).2) (mixed (clock board.2) target
      order))
    {register : Fin 128} (hregister : register ∈ clockRegisters) :
    let after := (writeAll hooks bytes (order ++ [register]) board).2
    (IsValidDate (mixed (clock board.2) target (order ++ [register])) →
        SameFields (clock after) (mixed (clock board.2) target (order ++ [register]))) ∧
      (¬IsValidDate (mixed (clock board.2) target (order ++ [register])) →
        ¬IsValidDate (mixed (clock board.2) target order) ∨
          SameFields (clock after) (clock (writeAll hooks bytes order board).2)) := by
  obtain ⟨hstill, hstatusB⟩ := h.writeAll_live bytes hlive horder
  have hdecoded := h.writeAll_decoded hlive htarget hbytes horder hregister
  have hwritten := (h.write_live hstill hregister (bytes register)).2
  rw [hdecoded] at hwritten
  have hput : SameFields ((clock (writeAll hooks bytes order board).2).put register
      (target.field register)) (mixed (clock board.2) target (order ++ [register])) := by
    rw [mixed_snoc]
    exact hsame.put hregister _
  have hwhole : order ++ [register] ⊆ clockRegisters :=
    append_subset.mpr ⟨horder, cons_subset.mpr ⟨hregister, nil_subset _⟩⟩
  rw [writeAll_snoc]
  constructor
  · intro hvalid other hother
    have haccepted : IsAccepted (clock (writeAll hooks bytes order board).2) register
        (target.field register) := by
      unfold IsAccepted
      split_ifs
      · exact hput.isValidDate_iff.mpr hvalid
      · exact hput.isValidTime_iff.mpr (mixed_validTime hcurrent.time htarget.time hwhole)
    rw [hwritten other hother, mixed_snoc, put_field _ hregister hother]
    by_cases hself : other = register
    · rw [if_pos ⟨hself, haccepted⟩, if_pos hself]
    · rw [if_neg fun hboth => hself hboth.1, if_neg hself, hsame other hother]
  · intro hinvalid
    by_cases hisDate : IsDateRegister register
    · refine .inr fun other hother => ?_
      have hrefused : ¬IsAccepted (clock (writeAll hooks bytes order board).2) register
          (target.field register) := by
        unfold IsAccepted
        rw [if_pos hisDate]
        exact fun hvalid => hinvalid (hput.isValidDate_iff.mp hvalid)
      rw [hwritten other hother, if_neg fun hboth => hrefused hboth.2]
    · refine .inl fun hvalid => hinvalid ?_
      have hdate : ∀ other ∈ clockRegisters, IsDateRegister other → other ≠ register := by
        rintro other - hother rfl
        exact hisDate hother
      have hkept : ∀ other ∈ clockRegisters, IsDateRegister other →
          (mixed (clock board.2) target (order ++ [register])).field other =
            (mixed (clock board.2) target order).field other := by
        intro other hother hdateOther
        rw [mixed_snoc, put_field _ hregister hother, if_neg (hdate other hother hdateOther)]
      have hday := hkept cmosDayOfMonth (by decide) (by decide)
      have hmonth := hkept cmosMonth (by decide) (by decide)
      have hyear := hkept cmosYear (by decide) (by decide)
      have hcentury := hkept cmosCentury (by decide) (by decide)
      change DosClockIsRealDate
        ((mixed (clock board.2) target (order ++ [register])).field cmosCentury * 100 +
          (mixed (clock board.2) target (order ++ [register])).field cmosYear)
        ((mixed (clock board.2) target (order ++ [register])).field cmosMonth)
        ((mixed (clock board.2) target (order ++ [register])).field cmosDayOfMonth)
      rw [hday, hmonth, hyear, hcentury]
      exact hvalid

theorem StoresClock.writeAll_taken (horder : order ⊆ clockRegisters)
    (hvalid : ∀ done later, order = done ++ later → IsValidDate (mixed (clock board.2) target done)) :
    SameFields (clock (writeAll hooks bytes order board).2)
      (mixed (clock board.2) target order) := by
  induction order using reverseRecOn with
  | nil => exact fun register _ => rfl
  | append_singleton order register ih =>
    have hearlier : order ⊆ clockRegisters :=
      (append_subset.mp horder).1
    have hsame := ih hearlier fun done later hsplit =>
      hvalid done (later ++ [register]) (by rw [hsplit, append_assoc])
    exact (h.writeAll_next hlive htarget hcurrent hbytes hearlier hsame (horder mem_concat_self)).1
        (hvalid (order ++ [register]) [] (append_nil _).symm)

theorem StoresClock.writeAll_refused {done : List (Fin 128)} {register : Fin 128}
    (horder : done ++ [register] ++ later ⊆ clockRegisters)
    (hnodup : (done ++ [register] ++ later).Nodup)
    (hvalid : ∀ first second, done = first ++ second →
      IsValidDate (mixed (clock board.2) target first))
    (hinvalid : ¬IsValidDate (mixed (clock board.2) target (done ++ [register]))) :
    (clock (writeAll hooks bytes (done ++ [register] ++ later) board).2).field register =
      (clock board.2).field register := by
  have hmem : register ∈ done ++ [register] :=
    mem_concat_self
  have hregister := horder (mem_append_left _ hmem)
  have hdone : done ⊆ clockRegisters := (append_subset.mp (append_subset.mp horder).1).1
  have hnotLater : register ∉ later :=
    fun hlater => disjoint_of_nodup_append hnodup hmem hlater
  have hnotDone : register ∉ done := fun hearlier => disjoint_of_nodup_append
    (nodup_append.mp hnodup).1 hearlier (mem_singleton_self _)
  have hsame := h.writeAll_taken hlive htarget hcurrent hbytes hdone hvalid
  have hkept : SameFields (clock (writeAll hooks bytes (done ++ [register]) board).2)
      (clock (writeAll hooks bytes done board).2) :=
    ((h.writeAll_next hlive htarget hcurrent hbytes hdone hsame hregister).2 hinvalid).resolve_left
      fun hnot => hnot (hvalid done [] (append_nil _).symm)
  have hlive' : (writeAll hooks bytes (done ++ [register]) board).1.isSetHeld = false :=
    (h.writeAll_live bytes hlive
      (append_subset.mp horder).1).1
  have hlater : (clock (writeAll hooks bytes later
      (writeAll hooks bytes (done ++ [register]) board)).2).field register =
        (clock (writeAll hooks bytes (done ++ [register]) board).2).field register :=
    h.writeAll_other hlive'
      ((append_subset.mp horder).2)
      hregister hnotLater
  have hfold : writeAll hooks bytes (done ++ [register] ++ later) board =
      writeAll hooks bytes later (writeAll hooks bytes (done ++ [register]) board) :=
    foldl_append
  rw [hfold, hlater, hkept register hregister, hsame register hregister,
    mixed_field _ _ hdone hregister, if_neg hnotDone]

theorem StoresClock.next_valid {done : List (Fin 128)} {register : Fin 128}
    (hsplit : order = done ++ [register] ++ later)
    (horder : order ⊆ clockRegisters) (hnodup : order.Nodup)
    (hvalid : ∀ first second, done = first ++ second →
      IsValidDate (mixed (clock board.2) target first))
    (hfinal : SameFields (clock (writeAll hooks bytes order board).2) target) :
    IsValidDate (mixed (clock board.2) target (done ++ [register])) := by
  subst hsplit
  by_contra hinvalid
  have hdone : done ⊆ clockRegisters := (append_subset.mp (append_subset.mp horder).1).1
  have hmem : register ∈ done ++ [register] :=
    mem_concat_self
  have hregister := horder (mem_append_left _ hmem)
  have hnotDone : register ∉ done := fun hearlier => disjoint_of_nodup_append
    (nodup_append.mp hnodup).1 hearlier (mem_singleton_self _)
  -- The field the clock kept is the target's already, so the write changes nothing.
  have hcurrentField : (clock board.2).field register = target.field register := by
    rw [← hfinal register hregister]
    exact (h.writeAll_refused hlive htarget hcurrent hbytes horder hnodup hvalid hinvalid).symm
  have hunchanged : SameFields (mixed (clock board.2) target (done ++ [register]))
      (mixed (clock board.2) target done) := by
    intro other hother
    rw [mixed_snoc, put_field _ hregister hother]
    by_cases hself : other = register
    · rw [if_pos hself, hself, mixed_field _ _ hdone hregister, if_neg hnotDone, hcurrentField]
    · rw [if_neg hself]
  exact hinvalid (hunchanged.isValidDate_iff.mpr (hvalid done [] (append_nil _).symm))

theorem StoresClock.writeAll_iff (hperm : order.Perm clockRegisters) :
    SameFields (clock (writeAll hooks bytes order board).2) target ↔
      ∀ done later, order = done ++ later →
        IsValidDate (mixed (clock board.2) target done) := by
  have horder : order ⊆ clockRegisters :=
    hperm.subset
  have hnodup : order.Nodup := hperm.nodup_iff.mpr (by decide)
  constructor
  · intro hfinal
    have hprefixes : ∀ done later, order = done ++ later → ∀ first second,
        done = first ++ second → IsValidDate (mixed (clock board.2) target first) := by
      intro done
      induction done using reverseRecOn with
      | nil =>
        intro later _ first second hsplit
        rw [(append_eq_nil_iff.mp hsplit.symm).1]
        exact hcurrent.date
      | append_singleton done register ih =>
        intro later hsplit first second hfirst
        have hvalid := ih (register :: later) (by rw [hsplit, append_assoc]; rfl)
        rcases append_eq_append_iff.mp hfirst with ⟨rest, hrest, hlast⟩ | ⟨rest, hrest, -⟩
        · rcases singleton_eq_append_iff.mp hlast with ⟨hnil, -⟩ | ⟨hone, -⟩
          · exact hvalid first [] (by rw [hrest, hnil, append_nil, append_nil])
          · rw [hrest, hone]
            exact h.next_valid hlive htarget hcurrent hbytes hsplit horder hnodup hvalid hfinal
        · exact hvalid first rest hrest
    exact fun done later hsplit => hprefixes done later hsplit done [] (append_nil _).symm
  · intro hvalid register hregister
    rw [h.writeAll_taken hlive htarget hcurrent hbytes horder hvalid register hregister,
      mixed_field _ _ horder hregister, if_pos (hperm.mem_iff.mpr hregister)]

end

theorem StoresClock.writeAll_field (h : StoresClock hooks clock) (bytes : Fin 128 → UInt8)
    (hlive : board.1.isSetHeld = false) (htarget : IsValid target)
    (hbytes : ∀ register, bytes register = fieldValue board.1 register (target.field register))
    (horder : order ⊆ clockRegisters) {other : Fin 128}
    (hother : other ∈ clockRegisters) :
    (clock (writeAll hooks bytes order board).2).field other = target.field other ∨
      (clock (writeAll hooks bytes order board).2).field other =
        (clock board.2).field other := by
  induction order using reverseRecOn with
  | nil => exact .inr rfl
  | append_singleton order register ih =>
    have hearlier : order ⊆ clockRegisters :=
      (append_subset.mp horder).1
    have hregister := horder mem_concat_self
    obtain ⟨hstill, -⟩ := h.writeAll_live bytes hlive hearlier
    have hdecoded := h.writeAll_decoded hlive htarget hbytes hearlier hregister
    have hwritten := (h.write_live hstill hregister (bytes register)).2 other hother
    rw [hdecoded] at hwritten
    rw [writeAll_snoc, hwritten]
    split_ifs with htaken
    · exact .inl (by rw [htaken.1])
    · exact ih hearlier

end Live

theorem writeRegister_statusB (hooks : RtcHooks σ) (board : CmosState × σ) (value : UInt8) :
    writeRegister hooks board cmosStatusB value =
      cmosWriteStatusB hooks board.2 (board.1.selected cmosStatusB) value := by
  unfold writeRegister
  rw [cmosPortOut_index]
  rfl

/-- The registers written with SET raised before them and lowered behind them. -/
def writeAllSet (hooks : RtcHooks σ) (statusB : UInt8) (bytes : Fin 128 → UInt8)
    (order : List (Fin 128)) (board : CmosState × σ) : CmosState × σ :=
  let held := writeRegister hooks board cmosStatusB (statusB ||| cmosBSet)
  writeRegister hooks (writeAll hooks bytes order held) cmosStatusB statusB

section

variable (h : StoresClock hooks clock) {board : CmosState × σ}

include h

theorem StoresClock.raiseSet (hlive : board.1.isSetHeld = false) (statusB : UInt8) :
    let held := writeRegister hooks board cmosStatusB (statusB ||| cmosBSet)
    held.1.isSetHeld = true ∧ held.2 = board.2 ∧
      held.1.statusB &&& encodingBits = statusB &&& encodingBits ∧
      SameFields held.1.shadow (clock board.2) := by
  obtain ⟨reading, hreading, hsame⟩ := h.reading hlive
  have hselected : cmosReading hooks board.2 (board.1.selected cmosStatusB) = some reading :=
    hreading
  have hraised : (statusB ||| cmosBSet) &&& cmosBSet ≠ 0 := by
    revert statusB
    exact forall_byte (by decide)
  have hbits : (statusB ||| cmosBSet) &&& ~~~cmosBUie &&& encodingBits =
      statusB &&& encodingBits := by
    revert statusB
    exact forall_byte (by decide)
  rw [writeRegister_statusB]
  unfold cmosWriteStatusB
  rw [if_pos ⟨hraised, show (board.1.selected cmosStatusB).isSetHeld = false from hlive⟩,
    hselected]
  dsimp only
  split_ifs
  all_goals exact ⟨rfl, rfl, hbits, hsame⟩

theorem StoresClock.writeAll_held
    {target : RtcReading} (bytes : Fin 128 → UInt8) (hheld : board.1.isSetHeld = true)
    (htarget : IsValid target)
    (hbytes : ∀ register, bytes register =
      fieldValue board.1 register (target.field register)) {order : List (Fin 128)}
    (horder : order ⊆ clockRegisters) :
    let written := writeAll hooks bytes order board
    written.1.isSetHeld = true ∧ written.2 = board.2 ∧ written.1.statusB = board.1.statusB ∧
      written.1.shadow = mixed board.1.shadow target order := by
  induction order using reverseRecOn with
  | nil => exact ⟨hheld, rfl, rfl, rfl⟩
  | append_singleton order register ih =>
    obtain ⟨hstill, hhost, hstatusB, hshadow⟩ :=
      ih (append_subset.mp horder).1
    have hregister := horder mem_concat_self
    have hcongr : fieldDecode (writeAll hooks bytes order board).1 register (bytes register) =
        fieldDecode board.1 register (bytes register) :=
      fieldDecode_congr (by rw [hstatusB]) register _
    have hdecoded : fieldDecode (writeAll hooks bytes order board).1 register
        (bytes register) = target.field register := by
      rw [hcongr, hbytes]
      exact field_roundTrip board.1 htarget.inRange hregister
    rw [writeAll_snoc, h.write_held hstill hregister, hdecoded, hshadow, mixed_snoc]
    exact ⟨hstill, hhost, hstatusB, rfl⟩

theorem StoresClock.lowerSet
    (hheld : board.1.isSetHeld = true) {statusB : UInt8} (hclear : statusB &&& cmosBSet = 0)
    (hdate : IsValidDate board.1.shadow) (htime : IsValidTime board.1.shadow) :
    let released := writeRegister hooks board cmosStatusB statusB
    released.1.isSetHeld = false ∧ released.1.statusB = statusB ∧
      SameFields (clock released.2) board.1.shadow := by
  obtain ⟨rtcSet, hset, hstoreDate, hstoreTime, -⟩ := h.stores
  have hstored : SameFields (clock (hooks.set (hooks.set board.2 board.1.shadow true)
      board.1.shadow false)) board.1.shadow := by
    intro register hregister
    unfold RtcHooks.set
    rw [hset]
    rw [hstoreTime _ _ htime register hregister, hstoreDate _ _ hdate register hregister]
    by_cases hisDate : IsDateRegister register
    · rw [if_pos hisDate, if_pos hisDate]
    · rw [if_neg hisDate]
  rw [writeRegister_statusB]
  unfold cmosWriteStatusB
  rw [if_neg fun hraised => hraised.1 hclear,
    if_pos ⟨hclear, show (board.1.selected cmosStatusB).isSetHeld = true from hheld⟩]
  dsimp only
  split_ifs
  all_goals exact ⟨rfl, rfl, hstored⟩

end

/-- A date and time as the registers show it. -/
def encoded (state : CmosState) (target : RtcReading) (register : Fin 128) : UInt8 :=
  fieldValue state register (target.field register)

section

variable (h : StoresClock hooks clock) {board : CmosState × σ} (hlive : board.1.isSetHeld = false)
    {target : RtcReading}

include h hlive

theorem StoresClock.writeAllSet_reads (htarget : IsValid target)
    {order : List (Fin 128)} (hperm : order.Perm clockRegisters) {statusB : UInt8}
    (hclear : statusB &&& cmosBSet = 0) {register : Fin 128}
    (hregister : register ∈ clockRegisters) :
    let bytes := encoded { board.1 with statusB } target
    readRegister hooks (writeAllSet hooks statusB bytes order board) register =
      bytes register := by
  intro bytes
  have horder : order ⊆ clockRegisters :=
    hperm.subset
  obtain ⟨hheld, hhost, hbits, hshadow⟩ := h.raiseSet hlive statusB
  obtain ⟨hstill, -, -, hwritten⟩ := h.writeAll_held bytes hheld htarget
    (fun other => fieldValue_congr hbits.symm other _) horder
  have hsame : SameFields (writeAll hooks bytes order
      (writeRegister hooks board cmosStatusB (statusB ||| cmosBSet))).1.shadow target := by
    intro other hother
    rw [hwritten, mixed_field _ _ horder hother, if_pos (hperm.mem_iff.mpr hother)]
  obtain ⟨hreleased, hstatusB, hstored⟩ := h.lowerSet hstill hclear
    (hsame.isValidDate_iff.mpr htarget.date) (hsame.isValidTime_iff.mpr htarget.time)
  have hread := h.read hreleased hregister
  unfold writeAllSet
  rw [hread, hstored register hregister, hsame register hregister]
  exact fieldValue_congr (by rw [hstatusB]) register _

theorem StoresClock.writeAll_reads (hcurrent : IsValid (clock board.2)) (htarget : IsValid target)
    {order : List (Fin 128)} (horder : order ⊆ clockRegisters) :
    let bytes := encoded board.1 target
    (∀ register ∈ clockRegisters,
      readRegister hooks (writeAll hooks bytes order board) register = bytes register) ↔
      SameFields (clock (writeAll hooks bytes order board).2) target := by
  intro bytes
  obtain ⟨hstill, hstatusB⟩ := h.writeAll_live bytes hlive horder
  have hshown : ∀ register ∈ clockRegisters,
      readRegister hooks (writeAll hooks bytes order board) register =
        fieldValue board.1 register
          ((clock (writeAll hooks bytes order board).2).field register) := by
    intro register hregister
    rw [h.read hstill hregister]
    exact fieldValue_congr (by rw [hstatusB]) register _
  have hfield : ∀ register ∈ clockRegisters,
      (clock (writeAll hooks bytes order board).2).field register = target.field register ∨
        (clock (writeAll hooks bytes order board).2).field register =
          (clock board.2).field register :=
    fun register => h.writeAll_field bytes hlive htarget (fun _ => rfl) horder
  have hrange : InRange (clock (writeAll hooks bytes order board).2) := by
    refine ⟨?_, fun register hregister => ?_⟩
    · rcases hfield cmosHours (by decide) with hhour | hhour
      · exact lt_of_eq_of_lt hhour htarget.inRange.1
      · exact lt_of_eq_of_lt hhour hcurrent.inRange.1
    · rcases hfield register hregister with hvalue | hvalue
      · exact lt_of_eq_of_lt hvalue (htarget.inRange.2 register hregister)
      · exact lt_of_eq_of_lt hvalue (hcurrent.inRange.2 register hregister)
  constructor
  · intro hreads register hregister
    have hequal := (hshown register hregister).symm.trans (hreads register hregister)
    calc (clock (writeAll hooks bytes order board).2).field register
        = fieldDecode board.1 register (fieldValue board.1 register
            ((clock (writeAll hooks bytes order board).2).field register)) :=
          (field_roundTrip board.1 hrange hregister).symm
      _ = fieldDecode board.1 register (fieldValue board.1 register (target.field register)) := by
          rw [hequal]; rfl
      _ = target.field register := field_roundTrip board.1 htarget.inRange hregister
  · intro hsame register hregister
    rw [hshown register hregister, hsame register hregister]
    rfl

end

/-- With SET held around the writes every order gives the target.  Without it each write is
committed alone, and the target is what reads back exactly when the dates on the way, the
fields already written and the old ones, are all dates. -/
theorem set_clock_reads_back (h : StoresClock hooks clock) (board : CmosState × σ)
    (hlive : board.1.isSetHeld = false) (target : RtcReading)
    (hcurrent : IsValid (clock board.2)) (htarget : IsValid target)
    (order : List (Fin 128)) (hperm : order.Perm clockRegisters) :
    (∀ statusB : UInt8, statusB &&& cmosBSet = 0 → ∀ register ∈ clockRegisters,
      let bytes := encoded { board.1 with statusB } target
      readRegister hooks (writeAllSet hooks statusB bytes order board) register =
        bytes register) ∧
    ((∀ register ∈ clockRegisters,
      let bytes := encoded board.1 target
      readRegister hooks (writeAll hooks bytes order board) register = bytes register) ↔
      ∀ done later, order = done ++ later →
        IsValidDate (mixed (clock board.2) target done)) := by
  have horder : order ⊆ clockRegisters :=
    hperm.subset
  constructor
  · intro statusB hclear register hregister
    exact h.writeAllSet_reads hlive htarget hperm hclear hregister
  · exact (h.writeAll_reads hlive hcurrent htarget horder).trans
      (h.writeAll_iff hlive htarget hcurrent (fun _ => rfl) hperm)

end Host

/-! ## A host that keeps its clock -/

/-- The host's clock as an offset hook keeps it: a date or a time of day is taken when it is
valid. -/
def keptClock : RtcHooks RtcReading where
  rtcNow := some fun host preset => { host with dayOfWeek := preset.dayOfWeek }
  rtcSet := some fun host reading isDate =>
    if isDate then
      if IsValidDate reading then
        { host with
          century := reading.century
          year := reading.year
          month := reading.month
          day := reading.day }
      else host
    else if IsValidTime reading then
      { host with hour := reading.hour, minute := reading.minute, second := reading.second }
    else host

theorem keptClock_storesClock : StoresClock keptClock id where
  shows := by
    refine ⟨_, rfl, fun host preset register hregister => ?_⟩
    rcases clockRegister_cases hregister with rfl | rfl | rfl | rfl | rfl | rfl | rfl <;> rfl
  stores := by
    refine ⟨_, rfl, ?_, ?_, ?_, ?_⟩
    · intro host reading hdate register hregister
      rw [if_pos rfl, if_pos hdate]
      rcases clockRegister_cases hregister with rfl | rfl | rfl | rfl | rfl | rfl | rfl <;> rfl
    · intro host reading htime register hregister
      rw [if_neg Bool.false_ne_true, if_pos htime]
      rcases clockRegister_cases hregister with rfl | rfl | rfl | rfl | rfl | rfl | rfl <;> rfl
    · intro host reading hdate
      rw [if_pos rfl, if_neg hdate]
    · intro host reading htime
      rw [if_neg Bool.false_ne_true, if_neg htime]

def lateJanuary : RtcReading := ⟨20, 24, 1, 31, 23, 59, 59, 4⟩

def midFebruary : RtcReading := ⟨20, 25, 2, 15, 8, 30, 0, 7⟩

theorem lateJanuary_isValid : IsValid lateJanuary :=
  ⟨by decide, by decide, by decide⟩

theorem midFebruary_isValid : IsValid midFebruary :=
  ⟨by decide, by decide, by decide⟩

theorem set_clock_reads_back_midFebruary :
    (∀ statusB : UInt8, statusB &&& cmosBSet = 0 → ∀ register ∈ clockRegisters,
      let bytes := encoded { vddCmosReset true 640 with statusB } midFebruary
      readRegister keptClock (writeAllSet keptClock statusB bytes clockRegisters
        (vddCmosReset true 640, lateJanuary)) register = bytes register) ∧
    ((∀ register ∈ clockRegisters,
      let bytes := encoded (vddCmosReset true 640) midFebruary
      readRegister keptClock (writeAll keptClock bytes clockRegisters
        (vddCmosReset true 640, lateJanuary)) register = bytes register) ↔
      ∀ done later, clockRegisters = done ++ later →
        IsValidDate (mixed (id lateJanuary) midFebruary done)) :=
  set_clock_reads_back keptClock_storesClock (vddCmosReset true 640, lateJanuary) rfl midFebruary
    lateJanuary_isValid midFebruary_isValid clockRegisters (List.Perm.refl _)

theorem month_before_day_is_refused :
    StoresClock keptClock id ∧ IsValid lateJanuary ∧ IsValid midFebruary ∧
    clockRegisters.reverse.Perm clockRegisters ∧
    ¬∀ register ∈ clockRegisters,
      readRegister keptClock (writeAll keptClock (encoded (vddCmosReset true 640) midFebruary)
        clockRegisters.reverse (vddCmosReset true 640, lateJanuary)) register =
        encoded (vddCmosReset true 640) midFebruary register := by
  refine ⟨keptClock_storesClock, lateJanuary_isValid, midFebruary_isValid,
    reverse_perm _, fun hreads => ?_⟩
  have hmonth := hreads cmosMonth (by decide)
  revert hmonth
  decide

end Ntvdmex.Vdd.Cmos
