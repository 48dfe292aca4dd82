import Ntvdmex.Vdd.Proofs.FdcPorts.Place

/-!
# A driver that obeys the main status register

The driver writes the FIFO only when RQM is set and DIO clear, and reads it only when both
are set.  It keeps the bytes of the command it is sending, by the documented lengths.
-/

namespace Ntvdmex.Vdd.FdcPorts

open Vdd.Fdc List FdcState
open Foundation (Run)

variable {chip before : FdcChip} {driver : Driver} {event : FdcEvent σ}

/-- The bytes of a command, from the parameter column of the command table. -/
def documentedBytes (opcode : UInt8) : Nat :=
  1 + match opcode.toNat % 32 with
    | 0x02 => 8
    | 0x03 => 2
    | 0x04 => 1
    | 0x05 => 8
    | 0x06 => 8
    | 0x07 => 1
    | 0x08 => 0
    | 0x09 => 8
    | 0x0A => 1
    | 0x0C => 8
    | 0x0D => 5
    | 0x0E => 0
    | 0x0F => 2
    | 0x10 => 0
    | 0x12 => 1
    | 0x13 => 3
    | 0x14 => 0
    | _ => 0

theorem fdcCommandLength_documented (opcode : UInt8) :
    fdcCommandLength opcode = documentedBytes opcode := by
  have hlt : opcode.toNat % 32 < 32 := Nat.mod_lt _ (by omega)
  unfold fdcCommandLength documentedBytes
  generalize opcode.toNat % 32 = low at hlt ⊢
  interval_cases low <;> rfl

section Boards

variable {σ : Type} {callbacks : FdcCallbacks σ}

/-! ## The status it reads -/

def isReadyToTake (chip : FdcChip) : Prop :=
  vddFdcMainStatus chip &&& (fdcMsrRqm ||| fdcMsrDio) = fdcMsrRqm

def isReadyToGive (chip : FdcChip) : Prop :=
  vddFdcMainStatus chip &&& (fdcMsrRqm ||| fdcMsrDio) = fdcMsrRqm ||| fdcMsrDio

def isBusy (chip : FdcChip) : Prop := vddFdcMainStatus chip &&& fdcMsrCb ≠ 0

/-- No execution phase of a non-DMA command is under way. -/
def isNotMoving (chip : FdcChip) : Prop := vddFdcMainStatus chip &&& fdcMsrNdma = 0
deriving Decidable

section

variable {chip : FdcChip}

theorem mainStatus_inReset (hreset : chip.isInReset = true) :
    vddFdcMainStatus chip = 0 := by
  unfold vddFdcMainStatus
  rw [if_pos hreset]

theorem not_inReset_of_take (htake : isReadyToTake chip) :
    chip.isInReset = false := by
  refine Bool.eq_false_of_not_eq_true fun hreset => ?_
  unfold isReadyToTake at htake
  rw [mainStatus_inReset hreset] at htake
  exact absurd htake (by decide)

theorem not_inReset_of_give (hgive : isReadyToGive chip) :
    chip.isInReset = false := by
  refine Bool.eq_false_of_not_eq_true fun hreset => ?_
  unfold isReadyToGive at hgive
  rw [mainStatus_inReset hreset] at hgive
  exact absurd hgive (by decide)

theorem mainStatus_command (hreset : chip.isInReset = false)
    (hphase : chip.fdc.phase = .command) :
    vddFdcMainStatus chip =
      if chip.fdc.commandLength ≠ 0 then fdcMsrRqm ||| fdcMsrCb else fdcMsrRqm := by
  unfold vddFdcMainStatus
  rw [if_neg (by rw [hreset]; exact Bool.false_ne_true), hphase]

theorem mainStatus_result (hreset : chip.isInReset = false)
    (hphase : chip.fdc.phase = .result) :
    vddFdcMainStatus chip = fdcMsrRqm ||| fdcMsrDio ||| fdcMsrCb := by
  unfold vddFdcMainStatus
  rw [if_neg (by rw [hreset]; exact Bool.false_ne_true), hphase]

theorem mainStatus_execution (hreset : chip.isInReset = false)
    (hphase : chip.fdc.phase = .execution) :
    vddFdcMainStatus chip = fdcMsrRqm ||| fdcMsrNdma ||| fdcMsrCb |||
      if fdcIsReadCommand chip.fdc.execOpcode then fdcMsrDio else 0 := by
  unfold vddFdcMainStatus
  rw [if_neg (by rw [hreset]; exact Bool.false_ne_true), hphase]

theorem not_take_of_result (htake : isReadyToTake chip) :
    chip.fdc.phase ≠ .result := by
  intro hphase
  unfold isReadyToTake at htake
  have hreset := not_inReset_of_take htake
  rw [mainStatus_result hreset hphase] at htake
  exact absurd htake (by decide)

theorem not_give_of_command (hgive : isReadyToGive chip) :
    chip.fdc.phase ≠ .command := by
  intro hphase
  unfold isReadyToGive at hgive
  have hreset := not_inReset_of_give hgive
  rw [mainStatus_command hreset hphase] at hgive
  split at hgive <;> exact absurd hgive (by decide)

theorem isNotMoving_iff (hreset : chip.isInReset = false) :
    isNotMoving chip ↔ chip.fdc.phase ≠ .execution := by
  unfold isNotMoving
  cases hphase : chip.fdc.phase with
  | command =>
    rw [mainStatus_command hreset hphase]
    split <;> decide
  | result =>
    rw [mainStatus_result hreset hphase]
    decide
  | execution =>
    rw [mainStatus_execution hreset hphase]
    split <;> decide

end

theorem isBusy_iff (chip : FdcChip) :
    isBusy chip ↔ chip.isInReset = false ∧
      (chip.fdc.phase ≠ .command ∨ chip.fdc.commandLength ≠ 0) := by
  unfold isBusy
  cases hreset : chip.isInReset with
  | true =>
    rw [mainStatus_inReset hreset]
    exact iff_of_false (by decide) (by simp)
  | false =>
    cases hphase : chip.fdc.phase with
    | command =>
      rw [mainStatus_command hreset hphase]
      by_cases hzero : chip.fdc.commandLength = 0
      · rw [if_neg (not_not_intro hzero)]
        exact iff_of_false (by decide) (by simp [hzero])
      · rw [if_pos hzero]
        exact iff_of_true (by decide) ⟨rfl, .inr hzero⟩
    | result =>
      rw [mainStatus_result hreset hphase]
      exact iff_of_true (by decide) ⟨rfl, .inl (by decide)⟩
    | execution =>
      rw [mainStatus_execution hreset hphase]
      refine iff_of_true ?_ ⟨rfl, .inl (by decide)⟩
      split <;> decide

/-! ## What it sends -/

/-- The command bytes sent so far and the commands sent whole. -/
structure Driver where
  sent : List UInt8
  commands : List (List UInt8)

def Driver.idle : Driver := ⟨[], []⟩

def Driver.send (driver : Driver) (value : UInt8) : Driver :=
  let frame := driver.sent ++ [value]
  if frame.length = documentedBytes (frame.headD 0) then
    ⟨[], driver.commands ++ [frame]⟩
  else { driver with sent := frame }

instance (chip : FdcChip) (event : FdcEvent σ) : Decidable (event.isReset chip) :=
  match event with
  | .write _ _ => inferInstanceAs (Decidable (_ ∨ _))
  | .read _ => inferInstanceAs (Decidable False)
  | .host _ => inferInstanceAs (Decidable False)

/-- A byte of the FIFO outside an execution phase is a command byte; a reset forgets them. -/
def Driver.follow (driver : Driver) (before : FdcChip) (event : FdcEvent σ) : Driver :=
  if event.isReset before then { driver with sent := [] }
  else
    match event with
    | .write port value =>
      if port = fdcFifo ∧ isNotMoving before then driver.send value else driver
    | _ => driver

/-- The access is one the status allows. -/
def FdcEvent.obeys (chip : FdcChip) : FdcEvent σ → Prop
  | .write port _ => port = fdcFifo → isReadyToTake chip
  | .read port => port = fdcFifo → isReadyToGive chip
  | .host _ => True

def ObedientStep (callbacks : FdcCallbacks σ) (before : FdcBoard σ × Driver) (event : FdcEvent σ)
    (after : FdcBoard σ × Driver) : Prop :=
  event.obeys before.1.chip ∧ FdcStep callbacks before.1 event after.1 ∧
    after.2 = before.2.follow before.1.chip event

def FdcState.holds (fdc : FdcState) (frame : List UInt8) : Prop :=
  ∀ (i : Fin 16) (byte : UInt8), frame[i.val]? = some byte → fdc.command i = byte

/-- The chip and the driver agree on where the command bytes end. -/
structure Framed (chip : FdcChip) (driver : Driver) : Prop where
  inReset : chip.isInReset = true → driver.sent = []
  command : chip.isInReset = false → chip.fdc.phase = .command →
    chip.fdc.commandLength = driver.sent.length ∧ FdcState.holds chip.fdc driver.sent
  elsewhere : chip.isInReset = false → chip.fdc.phase ≠ .command → driver.sent = []
  whole : ∀ frame ∈ driver.commands, ∃ opcode parameters, frame = opcode :: parameters ∧
    frame.length = documentedBytes opcode
  counted : chip.commands = driver.commands.length

theorem vddFdcReset_framed (isDmaPresent : Bool) :
    Framed (vddFdcReset isDmaPresent) Driver.idle where
  inReset _ := rfl
  command _ _ := ⟨rfl, fun _ _ h => by cases h⟩
  elsewhere _ _ := rfl
  whole _ h := by cases h
  counted := rfl

theorem holds_append {fdc : FdcState} {command : Fin 16 → UInt8} {sent : List UInt8}
    {value : UInt8} (hheld : holds fdc sent) (hlt : sent.length < 16)
    (hcommand : command = Function.update fdc.command ⟨sent.length, hlt⟩ value) :
    ∀ (i : Fin 16) (byte : UInt8), (sent ++ [value])[i.val]? = some byte → command i = byte := by
  intro i byte hbyte
  rw [hcommand]
  rcases Nat.lt_trichotomy i.val sent.length with hbefore | hat | hbeyond
  · rw [getElem?_append_left hbefore] at hbyte
    rw [Function.update_of_ne (fun heq => by rw [heq] at hbefore; exact Nat.lt_irrefl _ hbefore)]
    exact hheld i byte hbyte
  · have hindex : i = ⟨sent.length, hlt⟩ := Fin.ext hat
    rw [hat, getElem?_concat_length] at hbyte
    rw [hindex, Function.update_self]
    exact Option.some.inj hbyte
  · rw [getElem?_eq_none (by rw [length_append]; exact hbeyond)] at hbyte
    cases hbyte

/-- The chip and the driver expect the same number of bytes. -/
theorem wantedWith_documented (hplace : InPlace chip) (hframed : Framed chip driver)
    (hreset : chip.isInReset = false) (hphase : chip.fdc.phase = .command) (value : UInt8) :
    chip.wantedWith value = documentedBytes ((driver.sent ++ [value]).headD 0) := by
  obtain ⟨hlength, hheld⟩ := hframed.command hreset hphase
  unfold FdcChip.wantedWith
  cases hsent : driver.sent with
  | nil =>
    rw [hsent] at hlength
    rw [if_pos (show chip.fdc.commandLength = 0 from hlength)]
    exact fdcCommandLength_documented value
  | cons opcode parameters =>
    rw [hsent] at hlength
    have hpositive : chip.fdc.commandLength ≠ 0 := by
      rw [hlength]
      exact Nat.succ_ne_zero _
    have hopcode : chip.fdc.command 0 = opcode := by
      refine hheld 0 opcode ?_
      rw [hsent]
      rfl
    rw [if_neg hpositive, ((hplace.command hphase).resolve_left hpositive).2, hopcode]
    exact fdcCommandLength_documented opcode

/-- A complete frame has exactly its documented bytes: none was taken too many. -/
theorem wantedWith_exact {value : UInt8} (hplace : InPlace chip)
    (hphase : chip.fdc.phase = .command)
    (hlast : chip.wantedWith value ≤ chip.fdc.commandLength + 1) :
    chip.fdc.commandLength + 1 = chip.wantedWith value := by
  unfold FdcChip.wantedWith at hlast ⊢
  by_cases hzero : chip.fdc.commandLength = 0
  · rw [if_pos hzero] at hlast ⊢
    have hpositive := fdcCommandLength_pos value
    lia
  · rw [if_neg hzero] at hlast ⊢
    have hlt := ((hplace.command hphase).resolve_left hzero).1
    lia

theorem Framed.congr {after : FdcChip} (hframed : Framed before driver)
    (hsame : SamePlace before after) (hreset : after.isInReset = before.isInReset) :
    Framed after driver where
  inReset h := hframed.inReset (hreset ▸ h)
  command h hphase := by
    have hcommand := hframed.command (hreset ▸ h) (hsame.phase ▸ hphase)
    rw [hsame.commandLength]
    refine ⟨hcommand.1, fun i byte hbyte => ?_⟩
    rw [hsame.command]
    exact hcommand.2 i byte hbyte
  elsewhere h hphase := hframed.elsewhere (hreset ▸ h) (hsame.phase ▸ hphase)
  whole := hframed.whole
  counted := hsame.commands.trans hframed.counted

theorem framed_between {after : FdcChip} (hframed : Framed before driver)
    (hcommands : after.commands = before.commands)
    (hlength : after.fdc.phase = .command → after.fdc.commandLength = 0) :
    Framed after { driver with sent := [] } where
  inReset _ := rfl
  command _ hphase := ⟨hlength hphase, fun _ _ h => by cases h⟩
  elsewhere _ _ := rfl
  whole := hframed.whole
  counted := hcommands.trans hframed.counted

/-! ## How it follows -/

theorem not_isReset_of_fifo (hfifo : event.isFifo) : ¬event.isReset chip := by
  cases event with
  | write port value =>
    rintro (⟨hport, -⟩ | ⟨hport, -⟩) <;>
      exact absurd (hport.symm.trans hfifo) (by decide)
  | read port => exact id
  | host change => exact id

theorem follow_reset (driver : Driver) (hreset : event.isReset chip)
    : driver.follow chip event = { driver with sent := [] } := by
  unfold Driver.follow
  rw [if_pos hreset]

theorem follow_elsewhere (driver : Driver) (hnot : ¬event.isFifo) (hreset : ¬event.isReset chip) :
    driver.follow chip event = driver := by
  unfold Driver.follow
  rw [if_neg hreset]
  cases event with
  | write port value => exact if_neg fun h => hnot h.1
  | read port => rfl
  | host change => rfl

theorem follow_read (driver : Driver) (chip : FdcChip) (port : Nat) :
    driver.follow chip (.read port : FdcEvent σ) = driver := rfl

theorem follow_moving (driver : Driver) (hfifo : event.isFifo) (hmoving : ¬isNotMoving chip)
    : driver.follow chip event = driver := by
  unfold Driver.follow
  rw [if_neg (not_isReset_of_fifo hfifo)]
  cases event with
  | write port value => exact if_neg fun h => hmoving h.2
  | read port => rfl
  | host change => rfl

theorem follow_send (driver : Driver) (value : UInt8) (hstill : isNotMoving chip) :
    driver.follow chip (.write fdcFifo value : FdcEvent σ) = driver.send value := by
  unfold Driver.follow
  rw [if_neg (@not_isReset_of_fifo σ chip (.write fdcFifo value) rfl)]
  exact if_pos ⟨rfl, hstill⟩

theorem obeys_not_inReset (hobeys : event.obeys chip) (hfifo : event.isFifo)
    : chip.isInReset = false := by
  cases event with
  | write port value => exact not_inReset_of_take (hobeys hfifo)
  | read port => exact not_inReset_of_give (hobeys hfifo)
  | host change => exact hfifo.elim

variable {before after : FdcChip} {event : FdcEvent σ} {value : Nat} {driver : Driver}

theorem Answered.not_execution (hanswered : Answered chip) : chip.fdc.phase ≠ .execution := by
  rw [hanswered.phase]
  split <;> decide

theorem Proceeds.not_command (hproceeds : Proceeds before after) :
    after.fdc.phase ≠ .command := by
  rcases hproceeds.outcome with hconcluded | htransferring
  · rw [hconcluded.phase]
    decide
  · rw [htransferring.phase]
    decide

section

variable {byte : UInt8} (hplace : InPlace before) (hframed : Framed before driver)
    (hreset : before.isInReset = false) (hphase : before.fdc.phase = .command)
    (hstores : StoresByte before after byte)

include hplace hframed hreset hphase hstores

theorem framed_part (hmore : before.fdc.commandLength + 1 < before.wantedWith byte)
    (hafter : after.fdc.phase = .command)
    (hlength : after.fdc.commandLength = before.fdc.commandLength + 1)
    (hcommands : after.commands = before.commands) : Framed after (driver.send byte) := by
  obtain ⟨hsent, hheld⟩ := hframed.command hreset hphase
  have hcount : (driver.sent ++ [byte]).length = before.fdc.commandLength + 1 := by
    rw [length_append, hsent, length_singleton]
  have hwanted := wantedWith_documented hplace hframed hreset hphase byte
  have hsend : driver.send byte = { driver with sent := driver.sent ++ [byte] } := by
    exact if_neg (by rw [hcount, ← hwanted]; lia)
  rw [hsend]
  have hindex : (⟨before.fdc.commandLength, hstores.position_lt⟩ : Fin 16) =
      ⟨driver.sent.length, hsent ▸ hstores.position_lt⟩ := Fin.ext hsent
  refine ⟨fun h => ?_, fun _ _ => ⟨?_, ?_⟩, fun _ h => absurd hafter h, hframed.whole,
    hcommands.trans hframed.counted⟩
  · rw [hstores.isInReset, hreset] at h
    cases h
  · exact hlength.trans hcount.symm
  · exact holds_append hheld _ (hindex ▸ hstores.command)

theorem framed_whole (hlast : before.wantedWith byte ≤ before.fdc.commandLength + 1)
    (hcommands : after.commands = before.commands + 1)
    (houtcome : Answered after ∨ Transferring after) :
    Framed after (driver.send byte) ∧
      (driver.send byte).commands = driver.commands ++ [driver.sent ++ [byte]] ∧
      holds after.fdc (driver.sent ++ [byte]) := by
  obtain ⟨hsent, hheld⟩ := hframed.command hreset hphase
  have hcount : (driver.sent ++ [byte]).length = before.fdc.commandLength + 1 := by
    rw [length_append, hsent, length_singleton]
  have hwanted := wantedWith_documented hplace hframed hreset hphase byte
  have hexact := wantedWith_exact hplace hphase hlast
  have hframe : (driver.sent ++ [byte]).length =
      documentedBytes ((driver.sent ++ [byte]).headD 0) := by
    rw [hcount, ← hwanted, hexact]
  have hsend : driver.send byte = ⟨[], driver.commands ++ [driver.sent ++ [byte]]⟩ := by
    exact if_pos hframe
  have hindex : (⟨before.fdc.commandLength, hstores.position_lt⟩ : Fin 16) =
      ⟨driver.sent.length, hsent ▸ hstores.position_lt⟩ := Fin.ext hsent
  rw [hsend]
  refine ⟨⟨fun _ => rfl, fun _ hidle => ⟨?_, fun _ _ h => by cases h⟩, fun _ _ => rfl, ?_, ?_⟩,
    rfl, holds_append hheld _ (hindex ▸ hstores.command)⟩
  · rcases houtcome with hanswered | htransferring
    · exact hanswered.commandLength
    · rw [htransferring.phase] at hidle
      cases hidle
  · intro frame hmem
    rcases mem_append.mp hmem with hold | hnew
    · exact hframed.whole frame hold
    · rw [mem_singleton.mp hnew]
      cases hhead : driver.sent ++ [byte] with
      | nil => exact absurd hhead (by simp)
      | cons opcode parameters =>
        refine ⟨opcode, parameters, rfl, ?_⟩
        rw [hhead] at hframe
        exact hframe
  · rw [hcommands, hframed.counted, length_append, length_singleton]

end

theorem Access.framed (haccess : Access before after event value) (hplace : InPlace before)
    (hframed : Framed before driver) (hobeys : event.obeys before) :
    Framed after (driver.follow before event) := by
  cases haccess with
  | elsewhere hnot hreset hsame hisInReset =>
    rw [follow_elsewhere driver hnot hreset]
    exact hframed.congr hsame hisInReset
  | held hnot hreset hsame hisInReset =>
    rw [follow_reset driver hreset]
    refine ⟨fun _ => rfl, fun h => ?_, fun h => ?_, hframed.whole,
      hsame.commands.trans hframed.counted⟩
    · rw [hisInReset] at h
      cases h
    · rw [hisInReset] at h
      cases h
  | reset hnot hreset hphase hlength hcommands hisInReset =>
    rw [follow_reset driver hreset]
    exact framed_between hframed hcommands fun _ => hlength
  | transfer hfifo hphase hproceeds =>
    have hreset := obeys_not_inReset hobeys hfifo
    have hmoving : ¬isNotMoving before := by
      rw [isNotMoving_iff hreset]
      exact not_not_intro hphase
    rw [follow_moving driver hfifo hmoving]
    have hsent := hframed.elsewhere hreset (by rw [hphase]; decide)
    have hframed' := framed_between hframed hproceeds.keeps.commands
      fun hidle => absurd hidle hproceeds.not_command
    rwa [← hsent] at hframed'
  | part hphase hstores hmore hafter hlength hwanted hcommands =>
    have hreset := obeys_not_inReset hobeys rfl
    rw [follow_send driver _ ((isNotMoving_iff hreset).mpr (by rw [hphase]; decide))]
    exact framed_part hplace hframed hreset hphase hstores hmore hafter hlength hcommands
  | whole hphase hstores hlast hcommands houtcome =>
    have hreset := obeys_not_inReset hobeys rfl
    rw [follow_send driver _ ((isNotMoving_iff hreset).mpr (by rw [hphase]; decide))]
    exact (framed_whole hplace hframed hreset hphase hstores hlast hcommands houtcome).1
  | deaf hphase heq => exact absurd hphase (not_take_of_result (hobeys rfl))
  | mute hphase heq => exact absurd hphase (not_give_of_command (hobeys rfl))
  | more hphase hvalue hrest hafter hresult hposition hkeeps hlength =>
    rw [follow_read]
    have hreset := obeys_not_inReset hobeys rfl
    have hsent := hframed.elsewhere hreset (by rw [hphase]; decide)
    have hframed' := framed_between hframed hkeeps.commands
      fun _ => hlength.trans (hplace.result hphase).1
    rwa [← hsent] at hframed'
  | last hphase hvalue heq =>
    rw [follow_read]
    have hreset := obeys_not_inReset hobeys rfl
    have hsent := hframed.elsewhere hreset (by rw [hphase]; decide)
    have hcommands : after.commands = before.commands := by rw [heq]; rfl
    have hlength : after.fdc.commandLength = 0 := by
      rw [heq]
      exact (hplace.result hphase).1
    have hframed' := framed_between hframed hcommands fun _ => hlength
    rwa [← hsent] at hframed'

theorem obedientRun_framed {host : σ} {events : List (FdcEvent σ)} {reached : FdcBoard σ × Driver}
    (hrun : Run (ObedientStep callbacks)
      (⟨vddFdcReset callbacks.isDmaPresent, host⟩, Driver.idle) events reached) :
    InPlace reached.1.chip ∧ Framed reached.1.chip reached.2 := by
  refine hrun.invariant (fun reached => InPlace reached.1.chip ∧ Framed reached.1.chip reached.2)
    ?_ ⟨vddFdcReset_inPlace _, vddFdcReset_framed _⟩
  rintro ⟨board, driver⟩ event ⟨after, driver'⟩ ⟨hplace, hframed⟩ ⟨hobeys, ⟨value, hstep⟩, hdriver⟩
  obtain ⟨other, _, hother, haccess⟩ := fdcAccess_access callbacks event hplace
  obtain ⟨rfl, rfl⟩ := Prod.mk.inj (Option.some.inj (hother.symm.trans hstep))
  refine ⟨haccess.inPlace hplace, ?_⟩
  rw [hdriver]
  exact haccess.framed hplace hframed hobeys

/-- One obedient access as the driver sees it: a command is executed with the bytes it sent, the
result comes out byte by byte, and busy falls only with a command's last byte. -/
structure Served (before after : FdcChip) (driver : Driver) (event : FdcEvent σ) (value : Nat) :
    Prop where
  frame : ∀ byte, event = .write fdcFifo byte → before.fdc.phase = .command →
    after.commands = before.commands ∨
      after.commands = before.commands + 1 ∧
        (driver.follow before event).commands = driver.commands ++ [driver.sent ++ [byte]] ∧
        FdcState.holds after.fdc (driver.sent ++ [byte])
  result : event = .read fdcFifo → before.fdc.phase = .result →
    ∃ rest, before.fdc.result.drop before.fdc.resultPosition = value :: rest ∧
      (rest ≠ [] → after.fdc.phase = .result ∧
        after.fdc.result.drop after.fdc.resultPosition = rest) ∧
      (rest = [] → after.fdc.phase = .command ∧ after.fdc.commandLength = 0 ∧
        vddFdcMainStatus after = fdcMsrRqm)
  busy : ¬event.isReset before → isBusy before → ¬isBusy after →
    event = .read fdcFifo ∧ before.fdc.phase = .result ∧
        before.fdc.result.drop before.fdc.resultPosition = [value] ∨
      ∃ byte, event = .write fdcFifo byte ∧ before.fdc.phase = .command ∧
        after.commands = before.commands + 1 ∧ after.fdc.result = []

variable (haccess : Access before after event value)

include haccess

theorem Access.served_frame (hplace : InPlace before) (hframed : Framed before driver)
    (hobeys : event.obeys before) (byte : UInt8) (hevent : event = .write fdcFifo byte)
    (hphase : before.fdc.phase = .command) : after.commands = before.commands ∨
      after.commands = before.commands + 1 ∧
        (driver.follow before event).commands = driver.commands ++ [driver.sent ++ [byte]] ∧
        holds after.fdc (driver.sent ++ [byte]) := by
  have hfifo : event.isFifo := by rw [hevent]; rfl
  cases haccess with
  | elsewhere hnot _ _ _ => exact absurd hfifo hnot
  | held hnot _ _ _ => exact absurd hfifo hnot
  | reset hnot _ _ _ _ _ => exact absurd hfifo hnot
  | transfer _ hexecution _ =>
    rw [hphase] at hexecution
    cases hexecution
  | part _ _ _ _ _ _ hcommands => exact .inl hcommands
  | whole _ hstores hlast hcommands houtcome =>
    cases hevent
    have hreset := obeys_not_inReset hobeys rfl
    rw [follow_send driver _ ((isNotMoving_iff hreset).mpr (by rw [hphase]; decide))]
    obtain ⟨-, hsent, hheld⟩ :=
      framed_whole hplace hframed hreset hphase hstores hlast hcommands houtcome
    exact .inr ⟨hcommands, hsent, hheld⟩
  | deaf _ heq => exact .inl (heq ▸ rfl)
  | mute _ _ => cases hevent
  | more _ _ _ _ _ _ _ _ => cases hevent
  | last _ _ _ => cases hevent

theorem Access.served_result (hplace : InPlace before) (hobeys : event.obeys before)
    (hevent : event = .read fdcFifo) (hphase : before.fdc.phase = .result) :
    ∃ rest, before.fdc.result.drop before.fdc.resultPosition = value :: rest ∧
      (rest ≠ [] → after.fdc.phase = .result ∧
        after.fdc.result.drop after.fdc.resultPosition = rest) ∧
      (rest = [] → after.fdc.phase = .command ∧ after.fdc.commandLength = 0 ∧
        vddFdcMainStatus after = fdcMsrRqm) := by
  have hfifo : event.isFifo := by rw [hevent]; rfl
  have hreset := obeys_not_inReset hobeys hfifo
  cases haccess with
  | elsewhere hnot _ _ _ => exact absurd hfifo hnot
  | held hnot _ _ _ => exact absurd hfifo hnot
  | reset hnot _ _ _ _ _ => exact absurd hfifo hnot
  | transfer _ hexecution _ =>
    rw [hphase] at hexecution
    cases hexecution
  | part _ _ _ _ _ _ _ => cases hevent
  | whole _ _ _ _ _ => cases hevent
  | deaf _ _ => cases hevent
  | mute hcommand _ =>
    rw [hphase] at hcommand
    cases hcommand
  | @more _ rest _ hvalue hrest hafter hresult hposition _ _ =>
    refine ⟨rest, hvalue, fun _ => ⟨hafter, ?_⟩, fun hnil => absurd hnil hrest⟩
    rw [hresult, hposition, ← drop_drop, hvalue, drop_one, tail_cons]
  | last _ hvalue heq =>
    have hidle : after.fdc.phase = .command := by rw [heq]; rfl
    have hlength : after.fdc.commandLength = 0 := by
      rw [heq]
      exact (hplace.result hphase).1
    refine ⟨[], hvalue, fun h => absurd rfl h, fun _ => ⟨hidle, hlength, ?_⟩⟩
    rw [mainStatus_command (by rw [heq]; exact hreset) hidle, if_neg (not_not_intro hlength)]

theorem Access.served_busy (hobeys : event.obeys before) (hnotReset : ¬event.isReset before)
    (hbusy : isBusy before) (hidle : ¬isBusy after) :
    event = .read fdcFifo ∧ before.fdc.phase = .result ∧
        before.fdc.result.drop before.fdc.resultPosition = [value] ∨
      ∃ byte, event = .write fdcFifo byte ∧ before.fdc.phase = .command ∧
        after.commands = before.commands + 1 ∧ after.fdc.result = [] := by
  obtain ⟨hreset, hwhere⟩ := (isBusy_iff before).mp hbusy
  rw [isBusy_iff] at hidle
  cases haccess with
  | elsewhere _ _ hsame hisInReset =>
    refine absurd ⟨hisInReset.trans hreset, ?_⟩ hidle
    rw [hsame.phase, hsame.commandLength]
    exact hwhere
  | held _ hisReset _ _ => exact absurd hisReset hnotReset
  | reset _ hisReset _ _ _ _ => exact absurd hisReset hnotReset
  | transfer _ _ hproceeds =>
    exact absurd ⟨hproceeds.keeps.isInReset.trans hreset, .inl hproceeds.not_command⟩ hidle
  | part _ hstores _ _ hlength _ _ =>
    refine absurd ⟨hstores.isInReset.trans hreset, .inr ?_⟩ hidle
    rw [hlength]
    exact Nat.succ_ne_zero _
  | @whole byte hphase hstores _ hcommands houtcome =>
    have hcommand : after.fdc.phase = .command := by
      by_contra hphase'
      exact hidle ⟨hstores.isInReset.trans hreset, .inl hphase'⟩
    refine .inr ⟨byte, rfl, hphase, hcommands, ?_⟩
    rcases houtcome with hanswered | htransferring
    · by_contra hresult
      rw [hanswered.phase, if_neg hresult] at hcommand
      cases hcommand
    · rw [htransferring.phase] at hcommand
      cases hcommand
  | deaf hphase _ => exact absurd hphase (not_take_of_result (hobeys rfl))
  | mute hphase _ => exact absurd hphase (not_give_of_command (hobeys rfl))
  | more _ _ _ hafter _ _ hkeeps _ =>
    exact absurd ⟨hkeeps.isInReset.trans hreset, .inl (by rw [hafter]; decide)⟩ hidle
  | last hphase hvalue _ => exact .inl ⟨rfl, hphase, hvalue⟩

omit haccess

/-- The FIFO protocol keeps its place under every access, and a driver that obeys the status
has every command taken whole. -/
theorem fdc_fifo_keeps_its_place (callbacks : FdcCallbacks σ) (host : σ) :
    (∀ events board,
      Run (FdcStep callbacks) ⟨vddFdcReset callbacks.isDmaPresent, host⟩ events board →
      InPlace board.chip ∧ (board.chip.fdc.phase = .command → board.chip.fdc.commandLength ≤ 9) ∧
      ∀ event, ∃ after value, fdcAccess callbacks board event = some (after, value) ∧
        (board.chip.fdc.phase ≠ .command → after.chip.fdc.phase ≠ board.chip.fdc.phase →
          after.chip.fdc.commandLength = 0)) ∧
    ∀ events board driver,
      Run (ObedientStep callbacks)
        (⟨vddFdcReset callbacks.isDmaPresent, host⟩, Driver.idle) events (board, driver) →
      Framed board.chip driver ∧
      (isBusy board.chip ↔ board.chip.isInReset = false ∧
        (board.chip.fdc.phase ≠ .command ∨ driver.sent ≠ [])) ∧
      ∀ event after value, event.obeys board.chip →
        fdcAccess callbacks board event = some (after, value) →
        Served board.chip after.chip driver event value := by
  refine ⟨fun events board hrun => ?_, fun events board driver hrun => ?_⟩
  · have hplace := fdcRun_inPlace callbacks hrun
    refine ⟨hplace, fun hphase => Nat.le_of_lt (hplace.commandLength_le hphase), fun event => ?_⟩
    obtain ⟨after, value, hafter, haccess⟩ := fdcAccess_access callbacks event hplace
    exact ⟨after, value, hafter, haccess.phase_ends hplace⟩
  · obtain ⟨hplace, hframed⟩ := obedientRun_framed hrun
    refine ⟨hframed, ?_, fun event after value hobeys hafter => ?_⟩
    · rw [isBusy_iff]
      refine and_congr_right fun hreset => ?_
      by_cases hphase : board.chip.fdc.phase = .command
      · have hlength : board.chip.fdc.commandLength = driver.sent.length :=
          (hframed.command hreset hphase).1
        rw [hlength]
        exact or_congr_right (not_congr List.length_eq_zero_iff)
      · exact iff_of_true (.inl hphase) (.inl hphase)
    · obtain ⟨other, _, hother, haccess⟩ := fdcAccess_access callbacks event hplace
      obtain ⟨rfl, rfl⟩ := Prod.mk.inj (Option.some.inj (hother.symm.trans hafter))
      exact ⟨haccess.served_frame hplace hframed hobeys, haccess.served_result hplace hobeys,
        haccess.served_busy hobeys⟩

end Boards

end Ntvdmex.Vdd.FdcPorts
