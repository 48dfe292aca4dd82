import Ntvdmex.Foundation.Runs
import Ntvdmex.Foundation.Strings
import Ntvdmex.Vdd.Comm
import Ntvdmex.Vdd.Pic

/-!
# Received bytes

A port that receives with its FIFO off, an interrupt controller that holds one request for the
line, a handler that takes one byte for each interrupt, and a program that polls through
INT 14h: where every accepted byte is.
-/

namespace Ntvdmex.Vdd.Comm

open Foundation Nat Function UInt16 List
open Vdd.Pic

/-! ## One line of the controller -/

/-- A request latched, and one being served. -/
structure RequestLine where
  isPending : Bool
  isInService : Bool
  deriving DecidableEq

def RequestLine.raise (line : RequestLine) : RequestLine := { line with isPending := true }

def RequestLine.acknowledge (_line : RequestLine) : RequestLine := ⟨false, true⟩

def RequestLine.endOfInterrupt (line : RequestLine) : RequestLine :=
  { line with isInService := false }

/-- Neither pending nor in service. -/
def RequestLine.IsQuiet (line : RequestLine) : Prop :=
  line.isPending = false ∧ line.isInService = false
deriving Decidable

def lineOf (pic : PicState) (irq : Nat) : RequestLine :=
  ⟨(pic.chip (chipOf irq)).irr.getLsbD (irq % 8), (pic.chip (chipOf irq)).isr.getLsbD (irq % 8)⟩

theorem slave_line {irq : Nat} (h : ¬irq < picLinesPerChip) (hirq : irq < picLines) :
    irq - picLinesPerChip < 8 ∧ irq % 8 = irq - picLinesPerChip := by
  have hchip : picLinesPerChip = 8 := rfl
  have hboth : picLines = 16 := rfl
  lia

section

variable (pic : PicState) {irq : Nat}

include pic

theorem lineOf_master (h : irq < picLinesPerChip) :
    lineOf pic irq = ⟨pic.master.irr.getLsbD irq, pic.master.isr.getLsbD irq⟩ := by
  have hmod : irq % 8 = irq := mod_eq_of_lt h
  unfold lineOf chipOf
  rw [if_pos h, hmod]
  rfl

theorem lineOf_slave (h : ¬irq < picLinesPerChip)
    (hirq : irq < picLines) :
    lineOf pic irq =
      ⟨pic.slave.irr.getLsbD (irq - picLinesPerChip),
        pic.slave.isr.getLsbD (irq - picLinesPerChip)⟩ := by
  unfold lineOf chipOf
  rw [if_neg h, (slave_line h hirq).2]
  rfl

theorem lineOf_raise (hirq : irq < picLines) :
    lineOf (vddPicRaise pic irq) irq = (lineOf pic irq).raise := by
  unfold vddPicRaise
  by_cases hmaster : irq < picLinesPerChip
  · have hwidth : irq < 8 := hmaster
    rw [if_pos hmaster, lineOf_master _ hmaster, lineOf_master _ hmaster]
    simp [RequestLine.raise, getLsbD_lineBit, hwidth]
  · have hwidth := (slave_line hmaster hirq).1
    rw [if_neg hmaster, if_pos hirq, lineOf_slave _ hmaster hirq, lineOf_slave _ hmaster hirq]
    simp [RequestLine.raise, getLsbD_lineBit, hwidth]

theorem lineOf_acknowledge (hirq : irq < picLines)
    (hmanual : (pic.chip (chipOf irq)).isAutoEoi = false) :
    lineOf (vddPicAcknowledge pic irq) irq = (lineOf pic irq).acknowledge := by
  have hserved : ∀ (chip : PicChip) (line : Nat), chip.isAutoEoi = false →
      picInterruptAcknowledge (chip.irrClear line) line = (chip.irrClear line).isrSet line :=
    fun _ _ h => if_pos h
  unfold vddPicAcknowledge
  rw [if_neg (Nat.not_le.mpr hirq)]
  by_cases hmaster : irq < picLinesPerChip
  · have hwidth : irq < 8 := hmaster
    have hmod : irq % 8 = irq := mod_eq_of_lt hmaster
    have hchip : chipOf irq = .master := if_pos hmaster
    rw [hchip] at hmanual ⊢
    rw [if_neg (Nat.not_le.mpr hmaster), hserved _ _ hmanual, lineOf_master _ hmaster, hmod]
    simp [RequestLine.acknowledge, PicState.setChip, PicState.chip, PicChip.isrSet,
      PicChip.irrClear, getLsbD_lineBit, hwidth]
  · obtain ⟨hwidth, hmod⟩ := slave_line hmaster hirq
    have hchip : chipOf irq = .slave := if_neg hmaster
    rw [hchip] at hmanual ⊢
    rw [if_pos (Nat.not_lt.mp hmaster), hserved _ _ hmanual, lineOf_slave _ hmaster hirq, hmod]
    simp [RequestLine.acknowledge, PicState.setChip, PicState.chip, PicChip.isrSet,
      PicChip.irrClear, getLsbD_lineBit, hwidth]

theorem lineOf_endOfInterrupt (hirq : irq < picLines) :
    lineOf (vddPicEndOfInterrupt pic irq) irq = (lineOf pic irq).endOfInterrupt := by
  unfold vddPicEndOfInterrupt
  rw [if_neg (Nat.not_le.mpr hirq)]
  by_cases hmaster : irq < picLinesPerChip
  · have hwidth : irq < 8 := hmaster
    rw [if_pos hmaster, lineOf_master _ hmaster, lineOf_master _ hmaster]
    simp [RequestLine.endOfInterrupt, PicChip.isrClear, getLsbD_lineBit, hwidth]
  · have hwidth := (slave_line hmaster hirq).1
    rw [if_neg hmaster, lineOf_slave _ hmaster hirq, lineOf_slave _ hmaster hirq]
    simp [RequestLine.endOfInterrupt, PicChip.isrClear, getLsbD_lineBit, hwidth]

end

/-! ## Runs -/

/-- How far the interrupt handler is. -/
inductive HandlerStep where
  | idle
  | entered
  | identified (identification : UInt8)
  | taken
  deriving DecidableEq

inductive ReceiveEvent where
  | receive (byte : UInt8)
  | int14
  | handle
  deriving DecidableEq

/-- The ports with the line of the one in question, its handler, and the bytes accepted from
the host and taken by the guest so far. -/
structure ReceiveRun where
  state : CommState RequestLine
  handler : HandlerStep
  accepted : List UInt8
  taken : List UInt8

section Run

variable (index : Fin commMaxPorts)

def ReceiveRun.uart (run : ReceiveRun) : CommPort := run.state.ports index

def ReceiveRun.line (run : ReceiveRun) : RequestLine :=
  run.state.bus.getD ⟨false, false⟩

/-- The handler takes its next step: the interrupt is acknowledged, IIR is read, RBR is read
when IIR says received data, the interrupt is ended. -/
def handleStep (run : ReceiveRun) : ReceiveRun :=
  match run.handler with
  | .idle =>
    if run.line.isPending ∧ run.line.isInService = false then
      { run with
        state := { run.state with bus := some run.line.acknowledge }
        handler := .entered }
    else run
  | .entered =>
    let read := commPortIn run.state ((run.uart index).basePort + commIir)
    { run with state := read.1, handler := .identified read.2 }
  | .identified identification =>
    if identification = commIirReceivedData then
      let read := commPortIn run.state ((run.uart index).basePort + commRbr)
      { run with state := read.1, handler := .taken, taken := run.taken ++ [read.2] }
    else { run with handler := .taken }
  | .taken =>
    { run with
      state := { run.state with bus := some run.line.endOfInterrupt }
      handler := .idle }

def receiveStep (run : ReceiveRun) : ReceiveEvent → ReceiveRun
  | .receive byte =>
    let received := vddCommReceive (fun line _ => line.raise) run.state index.val byte
    { run with
      state := received.1
      accepted := if received.2 then run.accepted ++ [byte] else run.accepted }
  | .int14 =>
    let answered := commInt14 (fun line _ => line.raise) run.state 0x0200
      (UInt16.ofNat index.val)
    { run with
      state := answered.1
      taken :=
        if answered.2 &&& commInt14Timeout = 0 then run.taken ++ [answered.2.toUInt8]
        else run.taken }
  | .handle => handleStep index run

def receiveStart (state : CommState RequestLine) : ReceiveRun := ⟨state, .idle, [], []⟩

/-- A port set up to receive by interrupt, its registers found at its base: FIFO off, received
data enabled, OUT2 set, loopback and the divisor latch off. -/
structure IsReceiving (state : CommState RequestLine) : Prop where
  onBus : ∃ line, state.bus = some line
  isFitted : (state.ports index).isFitted = true
  finds : ∀ register ∈ [commRbr, commIir],
    commFind state ((state.ports index).basePort + register) = some (index, register)
  fcr : (state.ports index).fcr &&& commFcrEnable = 0
  ier : (state.ports index).ier &&& commIerReceivedData ≠ 0
  out2 : (state.ports index).mcr &&& commMcrOut2 ≠ 0
  loop : (state.ports index).mcr &&& commMcrLoop = 0
  dlab : (state.ports index).lcr &&& commLcrDlab = 0

/-- Before the first byte: an empty ring and a quiet line. -/
structure IsStart (state : CommState RequestLine) : Prop where
  receiving : IsReceiving index state
  line : state.bus = some ⟨false, false⟩
  ring : (state.ports index).receiveLength = 0
  dataReady : (state.ports index).lsr &&& commLsrDataReady = 0

/-- No INT 14h comes between a handler's IIR and its RBR. -/
def IsOrderly (run : ReceiveRun) (event : ReceiveEvent) : Prop :=
  event = .int14 → run.handler ≠ .identified commIirReceivedData
deriving Decidable

/-- The bytes the handler under way is still to take. -/
def HandlerStep.due : HandlerStep → Nat
  | .entered => 1
  | .identified identification => if identification = commIirReceivedData then 1 else 0
  | .idle | .taken => 0

/-- A byte arrives when the ring holds nothing but what the handler under way will take, and a
handler finds no line status interrupt before its byte. -/
def IsAnnounced (run : ReceiveRun) (event : ReceiveEvent) : Prop :=
  match event with
  | .receive _ => (run.uart index).receiveLength ≤ run.handler.due
  | .int14 => True
  | .handle =>
    run.handler = .entered →
      ¬((run.uart index).ier &&& commIerLineStatus ≠ 0 ∧
        (run.uart index).lsr &&& commLsrErrors ≠ 0)

instance (run : ReceiveRun) (event : ReceiveEvent) : Decidable (IsAnnounced index run event) :=
  match event with
  | .receive _ => inferInstanceAs (Decidable (_ ≤ _))
  | .int14 => inferInstanceAs (Decidable True)
  | .handle => inferInstanceAs (Decidable (_ → _))

variable {index}

theorem commFind_congr {β : Type} {state after : CommState β}
    (h : ∀ other, (after.ports other).isFitted = (state.ports other).isFitted ∧
      (after.ports other).basePort = (state.ports other).basePort) (port : UInt16) :
    commFind after port = commFind state port := by
  unfold commFind
  refine congrArg₂ _ (funext fun other => ?_) rfl
  dsimp only
  rw [(h other).1, (h other).2]

def SameSettings (uart after : CommPort) : Prop :=
  after.isFitted = uart.isFitted ∧ after.basePort = uart.basePort ∧ after.fcr = uart.fcr ∧
    after.ier = uart.ier ∧ after.mcr = uart.mcr ∧ after.lcr = uart.lcr

theorem IsReceiving.setPort {state : CommState RequestLine} (h : IsReceiving index state)
    {uart : CommPort} (hsame : SameSettings (state.ports index) uart) (line : RequestLine) :
    IsReceiving index { state.setPort index uart with bus := some line } := by
  obtain ⟨hfitted, hbase, hfcr, hier, hmcr, hlcr⟩ := hsame
  have hports : ({ state.setPort index uart with bus := some line } :
      CommState RequestLine).ports index = uart := update_self ..
  refine ⟨⟨line, rfl⟩, ?_, fun register hregister => ?_, ?_, ?_, ?_, ?_, ?_⟩
  · rw [hports, hfitted, h.isFitted]
  · rw [hports, hbase, commFind_congr, h.finds register hregister]
    intro other
    by_cases hother : other = index
    · rw [hother, hports]
      exact ⟨hfitted, hbase⟩
    · have hkept : ({ state.setPort index uart with bus := some line } :
          CommState RequestLine).ports other = state.ports other :=
        update_of_ne hother ..
      rw [hkept]
      exact ⟨rfl, rfl⟩
  · rw [hports, hfcr, h.fcr]
  · rw [hports, hier]
    exact h.ier
  · rw [hports, hmcr]
    exact h.out2
  · rw [hports, hmcr, h.loop]
  · rw [hports, hlcr, h.dlab]

/-! ## The ring -/

def CommPort.ring (uart : CommPort) : List UInt8 :=
  Ring.contents uart.receive uart.receiveHead uart.receiveLength

/-- The ring is within its size, and LSR says whether it holds a byte. -/
structure IsRing (uart : CommPort) : Prop where
  length_le : uart.receiveLength ≤ commReceiveRingSize
  dataReady : uart.lsr &&& commLsrDataReady ≠ 0 ↔ uart.receiveLength ≠ 0

section

variable {uart : CommPort}

theorem commPushReceive_ring (hroom : uart.receiveLength < commReceiveRingSize)
    (byte : UInt8) : (commPushReceive uart byte).ring = uart.ring ++ [byte] := by
  unfold commPushReceive CommPort.ring
  rw [if_neg (Nat.not_le.mpr hroom)]
  exact Ring.contents_append byte hroom

theorem commPushReceive_isRing (hroom : uart.receiveLength < commReceiveRingSize) (byte : UInt8) :
    IsRing (commPushReceive uart byte) ∧
      (commPushReceive uart byte).receiveLength = uart.receiveLength + 1 ∧
      SameSettings uart (commPushReceive uart byte) := by
  have hset : ∀ lsr : UInt8, (lsr ||| commLsrDataReady) &&& commLsrDataReady ≠ 0 :=
    forall_byte (by decide)
  unfold commPushReceive
  rw [if_neg (Nat.not_le.mpr hroom)]
  exact ⟨⟨hroom, iff_of_true (hset _) (succ_ne_zero _)⟩, rfl, rfl, rfl, rfl, rfl, rfl, rfl⟩

theorem commPopReceive_ring (hbytes : uart.receiveLength ≠ 0) :
    uart.ring = (commPopReceive uart).2 :: (commPopReceive uart).1.ring := by
  obtain ⟨length, hlength⟩ := exists_eq_succ_of_ne_zero hbytes
  unfold commPopReceive CommPort.ring
  rw [if_neg hbytes]
  rw [hlength, succ_sub_one, Ring.contents_mod, succ_eq_add_one, Ring.contents_cons]

theorem commPopReceive_isRing (h : IsRing uart)
    (hbytes : uart.receiveLength ≠ 0) :
    IsRing (commPopReceive uart).1 ∧
      (commPopReceive uart).1.receiveLength = uart.receiveLength - 1 ∧
      SameSettings uart (commPopReceive uart).1 := by
  have hclear : ∀ lsr : UInt8, lsr &&& ~~~commLsrDataReady &&& commLsrDataReady = 0 :=
    forall_byte (by decide)
  unfold commPopReceive
  rw [if_neg hbytes]
  refine ⟨⟨(sub_le _ _).trans h.length_le, ?_⟩, rfl, rfl, rfl, rfl, rfl, rfl, rfl⟩
  by_cases hlast : uart.receiveLength - 1 = 0
  · rw [if_pos hlast]
    exact iff_of_false (fun hset => hset (hclear _)) fun hmore => hmore hlast
  · rw [if_neg hlast]
    exact iff_of_true (h.dataReady.mpr hbytes) hlast

theorem identification_of_ready (hier : uart.ier &&& commIerReceivedData ≠ 0)
    (hfcr : uart.fcr &&& commFcrEnable = 0) (hready : uart.lsr &&& commLsrDataReady ≠ 0) :
    commInterruptIdentification uart =
      if uart.ier &&& commIerLineStatus ≠ 0 ∧ uart.lsr &&& commLsrErrors ≠ 0 then
        commIirLineStatus
      else commIirReceivedData := by
  have hboth : uart.ier &&& commIerReceivedData ≠ 0 ∧ uart.lsr &&& commLsrDataReady ≠ 0 :=
    ⟨hier, hready⟩
  have hfifo : uart.fcr &&& commFcrEnable = 0 ∨
      commReceiveTrigger uart ≤ min uart.receiveLength commFifoDepth := .inl hfcr
  unfold commInterruptIdentification
  rw [if_pos hboth]
  rw [if_pos hfifo]

theorem identification_of_empty (hempty : uart.lsr &&& commLsrDataReady = 0) :
    commInterruptIdentification uart ≠ commIirReceivedData := by
  unfold commInterruptIdentification
  rw [if_neg (show ¬(uart.ier &&& commIerReceivedData ≠ 0 ∧
    uart.lsr &&& commLsrDataReady ≠ 0) from fun h => h.2 hempty)]
  split_ifs <;> decide

end

theorem commUpdateIrq_ready {state : CommState RequestLine} (h : IsReceiving index state)
    {line : RequestLine} (hline : state.bus = some line)
    (hready : (state.ports index).lsr &&& commLsrDataReady ≠ 0) :
    commUpdateIrq (fun line _ => line.raise) state index =
      { state with bus := some line.raise } := by
  have hopen : isGateOpen (state.ports index) = true := by
    unfold isGateOpen
    rw [decide_eq_true h.out2, decide_eq_true h.loop]
    rfl
  have hidentified : commInterruptIdentification (state.ports index) &&& commIirNoInterrupt =
      0 := by
    rw [identification_of_ready h.ier h.fcr hready]
    split_ifs <;> decide
  unfold commUpdateIrq
  rw [hline]
  dsimp only
  rw [if_neg (by rw [h.isFitted]; decide), if_neg (by rw [hopen]; decide),
    if_neg fun hnone => hnone hidentified]

/-! ## Each event -/

theorem vddCommReceive_of_room {state : CommState RequestLine} (h : IsReceiving index state)
    {line : RequestLine} (hline : state.bus = some line)
    (hroom : (state.ports index).receiveLength < commReceiveRingSize) (byte : UInt8) :
    vddCommReceive (fun line _ => line.raise) state index.val byte =
      ({ state.setPort index (commPushReceive (state.ports index) byte) with
        bus := some line.raise }, true) := by
  have hindex : (0 : Int) ≤ index.val ∧ (index.val : Int).toNat < commMaxPorts :=
    ⟨Int.natCast_nonneg _, index.isLt⟩
  obtain ⟨hring, hlength, hsame⟩ := commPushReceive_isRing hroom byte
  have hpushed : IsReceiving index (state.setPort index
      (commPushReceive (state.ports index) byte)) := by
    have hset := h.setPort hsame line
    rw [← hline] at hset
    exact hset
  have hself : (state.setPort index (commPushReceive (state.ports index) byte)).ports index =
      commPushReceive (state.ports index) byte := update_self ..
  unfold vddCommReceive
  rw [dif_pos hindex]
  rw [show (⟨(index.val : Int).toNat, hindex.2⟩ : Fin commMaxPorts) = index from rfl,
    if_neg (by rw [h.isFitted]; decide), if_neg (Nat.not_le.mpr hroom),
    commUpdateIrq_ready hpushed hline]
  rw [hself]
  exact hring.dataReady.mpr (by omega)

theorem vddCommReceive_of_full {state : CommState RequestLine} (h : IsReceiving index state)
    (hfull : commReceiveRingSize ≤ (state.ports index).receiveLength) (byte : UInt8) :
    ∃ uart, vddCommReceive (fun line _ => line.raise) state index.val byte =
        (state.setPort index uart, false) ∧
      SameSettings (state.ports index) uart ∧ uart.ring = (state.ports index).ring ∧
      uart.receiveLength = (state.ports index).receiveLength ∧
      uart.lsr &&& commLsrDataReady = (state.ports index).lsr &&& commLsrDataReady := by
  have hindex : (0 : Int) ≤ index.val ∧ (index.val : Int).toNat < commMaxPorts :=
    ⟨Int.natCast_nonneg _, index.isLt⟩
  have hkept : ∀ lsr : UInt8, (lsr ||| commLsrOverrun) &&& commLsrDataReady =
      lsr &&& commLsrDataReady := forall_byte (by decide)
  refine ⟨{ state.ports index with
    lsr := (state.ports index).lsr ||| commLsrOverrun
    overruns := (state.ports index).overruns + 1 }, ?_,
      ⟨rfl, rfl, rfl, rfl, rfl, rfl⟩, rfl, rfl, hkept _⟩
  unfold vddCommReceive
  rw [dif_pos hindex]
  rw [show (⟨(index.val : Int).toNat, hindex.2⟩ : Fin commMaxPorts) = index from rfl,
    if_neg (by rw [h.isFitted]; decide), if_pos hfull]

theorem lineStatusAnd_bits (uart : CommPort) (low : UInt8) :
    lineStatusAnd uart low &&& commInt14Timeout = 0 ∧ (lineStatusAnd uart low).toUInt8 = low := by
  have hdistrib : ∀ a b c : UInt16, (a ||| b) &&& c = (a &&& c) ||| (b &&& c) :=
    fun a b c => UInt16.toBitVec_inj.mp (BitVec.and_or_distrib_right ..)
  have hstatus : ∀ lsr : UInt8,
      (lsr &&& commInt14LineStatusBits).toUInt16 <<< 8 &&& commInt14Timeout = 0 ∧
        ((lsr &&& commInt14LineStatusBits).toUInt16 <<< 8).toUInt8 = 0 :=
    forall_byte (by decide)
  have hlow : ∀ low : UInt8, low.toUInt16 &&& commInt14Timeout = 0 :=
    forall_byte (by decide)
  unfold lineStatusAnd commLineStatus
  constructor
  · rw [hdistrib, (hstatus _).1, hlow, UInt16.or_self]
  · rw [toUInt8_or, (hstatus _).2, UInt8.toUInt8_toUInt16, UInt8.zero_or]

section

variable {state : CommState RequestLine} (h : IsReceiving index state)

include h

theorem commInt14_receive :
    commInt14 (fun line _ => line.raise) state 0x0200 (ofNat index.val) =
      if (state.ports index).receiveLength = 0 then (state, commInt14Timeout)
      else
        (state.setPort index (commPopReceive (state.ports index)).1,
          lineStatusAnd (commPopReceive (state.ports index)).1
            (commPopReceive (state.ports index)).2) := by
  have hport : ∀ index : Fin commMaxPorts, (ofNat index.val).toNat = index.val := by
    decide
  have hindex : (ofNat index.val).toNat < commMaxPorts := by
    rw [hport]
    exact index.isLt
  have hsame : (⟨(ofNat index.val).toNat, hindex⟩ : Fin commMaxPorts) = index :=
    Fin.ext (hport index)
  unfold commInt14
  rw [dif_pos hindex]
  rw [hsame, if_neg (by rw [h.isFitted]; decide)]
  rfl

theorem IsReceiving.setPort_same {uart : CommPort} (hsame : SameSettings (state.ports index) uart) :
    IsReceiving index (state.setPort index uart) := by
  obtain ⟨line, hline⟩ := h.onBus
  have hset := h.setPort hsame line
  rw [← hline] at hset
  exact hset

theorem IsReceiving.setBus
    (line : RequestLine) : IsReceiving index { state with bus := some line } :=
  ⟨⟨line, rfl⟩, h.isFitted, h.finds, h.fcr, h.ier, h.out2, h.loop, h.dlab⟩

theorem commPortIn_rbr :
    commPortIn state ((state.ports index).basePort + commRbr) =
      (state.setPort index (commPopReceive (state.ports index)).1,
        (commPopReceive (state.ports index)).2) := by
  unfold commPortIn
  rw [h.finds commRbr (by decide)]
  dsimp only
  unfold commRegisterIn
  rw [if_pos rfl, if_neg fun hdlab => hdlab h.dlab]

theorem commPortIn_iir :
    ∃ uart, commPortIn state ((state.ports index).basePort + commIir) =
        (state.setPort index uart, commInterruptIdentification (state.ports index)) ∧
      SameSettings (state.ports index) uart ∧ uart.ring = (state.ports index).ring ∧
      uart.receiveLength = (state.ports index).receiveLength ∧
      uart.lsr = (state.ports index).lsr := by
  unfold commPortIn
  rw [h.finds commIir (by decide)]
  dsimp only
  unfold commRegisterIn
  rw [if_neg (by decide), if_neg (by decide), if_pos rfl]
  dsimp only
  have hfcr : ¬(state.ports index).fcr &&& commFcrEnable ≠ 0 := fun hset => hset h.fcr
  rw [if_neg hfcr]
  by_cases hthr : commInterruptIdentification (state.ports index) = commIirThrEmpty
  · rw [if_pos hthr]
    exact ⟨_, rfl, ⟨rfl, rfl, rfl, rfl, rfl, rfl⟩, rfl, rfl, rfl⟩
  · rw [if_neg hthr]
    exact ⟨_, rfl, ⟨rfl, rfl, rfl, rfl, rfl, rfl⟩, rfl, rfl, rfl⟩

end

/-- What holds of every run: the bytes taken and those in the ring are the bytes accepted. -/
structure KeepsBytes (index : Fin commMaxPorts) (run : ReceiveRun) : Prop where
  receiving : IsReceiving index run.state
  isRing : IsRing (run.uart index)
  accepted : run.accepted = run.taken ++ (run.uart index).ring
  identified : run.handler = .identified commIirReceivedData →
    (run.uart index).receiveLength ≠ 0

theorem setPort_ports (state : CommState RequestLine) (uart : CommPort) :
    (state.setPort index uart).ports index = uart := update_self ..

theorem raised_ports (state : CommState RequestLine) (uart : CommPort) (line : RequestLine) :
    { state.setPort index uart with bus := some line.raise }.ports index = uart :=
  setPort_ports ..

section

variable {run : ReceiveRun} (h : KeepsBytes index run)

include h

theorem KeepsBytes.receive (byte : UInt8) :
    KeepsBytes index (receiveStep index run (.receive byte)) := by
  obtain ⟨line, hline⟩ := h.receiving.onBus
  by_cases hroom : (run.state.ports index).receiveLength < commReceiveRingSize
  · obtain ⟨hring, hlength, hsame⟩ := commPushReceive_isRing hroom byte
    unfold receiveStep
    dsimp only
    rw [vddCommReceive_of_room h.receiving hline hroom]
    refine ⟨h.receiving.setPort hsame _, ?_, ?_, fun _ => ?_⟩
    · unfold ReceiveRun.uart
      rw [raised_ports]
      exact hring
    · unfold ReceiveRun.uart
      rw [raised_ports, if_pos rfl, commPushReceive_ring hroom, h.accepted, append_assoc]
      rfl
    · unfold ReceiveRun.uart
      rw [raised_ports]
      exact hlength ▸ succ_ne_zero _
  · obtain ⟨uart, hreceived, hsame, hring, hlength, hready⟩ :=
      vddCommReceive_of_full h.receiving (Nat.not_lt.mp hroom) byte
    unfold receiveStep
    dsimp only
    rw [hreceived]
    refine ⟨h.receiving.setPort_same hsame, ?_, ?_, fun hidentified => ?_⟩
    · unfold ReceiveRun.uart
      rw [setPort_ports]
      exact ⟨hlength ▸ h.isRing.length_le, by rw [hready, hlength]; exact h.isRing.dataReady⟩
    · unfold ReceiveRun.uart
      rw [setPort_ports, hring, if_neg Bool.false_ne_true]
      exact h.accepted
    · unfold ReceiveRun.uart
      rw [setPort_ports, hlength]
      exact h.identified hidentified

theorem KeepsBytes.int14 (horderly : run.handler ≠ .identified commIirReceivedData) :
    KeepsBytes index (receiveStep index run .int14) := by
  unfold receiveStep
  rw [commInt14_receive h.receiving]
  by_cases hempty : (run.state.ports index).receiveLength = 0
  · rw [if_pos hempty]
    dsimp only
    rw [if_neg (show ¬commInt14Timeout &&& commInt14Timeout = 0 by decide)]
    exact ⟨h.receiving, h.isRing, h.accepted, h.identified⟩
  · obtain ⟨hring, hlength, hsame⟩ := commPopReceive_isRing h.isRing hempty
    obtain ⟨htimeout, hlow⟩ := lineStatusAnd_bits (commPopReceive (run.state.ports index)).1
      (commPopReceive (run.state.ports index)).2
    rw [if_neg hempty]
    dsimp only
    rw [if_pos htimeout, hlow]
    refine ⟨h.receiving.setPort_same hsame, ?_, ?_, fun hidentified =>
      absurd hidentified horderly⟩
    · unfold ReceiveRun.uart
      rw [setPort_ports]
      exact hring
    · unfold ReceiveRun.uart
      rw [setPort_ports, h.accepted]
      unfold ReceiveRun.uart
      rw [commPopReceive_ring hempty, append_assoc]
      rfl

theorem KeepsBytes.handle :
    KeepsBytes index (receiveStep index run .handle) := by
  change KeepsBytes index (handleStep index run)
  cases hhandler : run.handler with
  | idle =>
    unfold handleStep
    rw [hhandler]
    split_ifs
    · exact ⟨h.receiving.setBus _, h.isRing, h.accepted, fun hidentified => by cases hidentified⟩
    · exact h
  | entered =>
    obtain ⟨uart, hread, hsame, hring, hlength, hlsr⟩ := commPortIn_iir h.receiving
    unfold handleStep
    rw [hhandler]
    rw [show (run.uart index).basePort = (run.state.ports index).basePort from rfl, hread]
    refine ⟨h.receiving.setPort_same hsame, ?_, ?_, fun hidentified => ?_⟩
    · unfold ReceiveRun.uart
      rw [setPort_ports]
      exact ⟨hlength ▸ h.isRing.length_le, by rw [hlsr, hlength]; exact h.isRing.dataReady⟩
    · unfold ReceiveRun.uart
      rw [setPort_ports, hring]
      exact h.accepted
    · unfold ReceiveRun.uart
      rw [setPort_ports, hlength]
      refine h.isRing.dataReady.mp fun hempty => identification_of_empty hempty ?_
      injection hidentified
  | identified identification =>
    unfold handleStep
    rw [hhandler]
    dsimp only
    by_cases hdata : identification = commIirReceivedData
    · have hbytes := h.identified (by rw [hhandler, hdata])
      obtain ⟨hring, hlength, hsame⟩ := commPopReceive_isRing h.isRing hbytes
      rw [if_pos hdata, show (run.uart index).basePort = (run.state.ports index).basePort from rfl,
        commPortIn_rbr h.receiving]
      refine ⟨h.receiving.setPort_same hsame, ?_, ?_, fun hidentified => by cases hidentified⟩
      · unfold ReceiveRun.uart
        rw [setPort_ports]
        exact hring
      · unfold ReceiveRun.uart
        rw [setPort_ports, h.accepted, commPopReceive_ring hbytes, append_assoc]
        rfl
    · rw [if_neg hdata]
      exact ⟨h.receiving, h.isRing, h.accepted, fun hidentified => by cases hidentified⟩
  | taken =>
    unfold handleStep
    rw [hhandler]
    exact ⟨h.receiving.setBus _, h.isRing, h.accepted, fun hidentified => by cases hidentified⟩

theorem KeepsBytes.step {event : ReceiveEvent}
    (horderly : IsOrderly run event) : KeepsBytes index (receiveStep index run event) := by
  cases event with
  | receive byte => exact h.receive byte
  | int14 => exact h.int14 (horderly rfl)
  | handle => exact h.handle

end

/-! ## Every byte is announced -/

/-- The ring holds no more than what the request pending and the handler under way will take. -/
structure AnnouncesBytes (index : Fin commMaxPorts) (run : ReceiveRun) : Prop where
  handler : run.line.isInService = false ↔ run.handler = .idle
  due : (run.uart index).receiveLength ≤
    (if run.line.isPending then 1 else 0) + run.handler.due

theorem HandlerStep.due_le (handler : HandlerStep) : handler.due ≤ 1 := by
  unfold HandlerStep.due
  split
  · exact le_rfl
  · split_ifs <;> decide
  · exact Nat.zero_le 1
  · exact Nat.zero_le 1

section

variable {run : ReceiveRun} (h : AnnouncesBytes index run) (hkeeps : KeepsBytes index run)

include h hkeeps

theorem AnnouncesBytes.receive (byte : UInt8)
    (hannounced : (run.uart index).receiveLength ≤ run.handler.due) :
    AnnouncesBytes index (receiveStep index run (.receive byte)) := by
  obtain ⟨line, hline⟩ := hkeeps.receiving.onBus
  have hroom : (run.state.ports index).receiveLength < commReceiveRingSize :=
    Nat.lt_of_le_of_lt (hannounced.trans run.handler.due_le) (by decide)
  obtain ⟨-, hlength, -⟩ := commPushReceive_isRing hroom byte
  have hrun : run.line = line := by
    unfold ReceiveRun.line
    rw [hline]
    rfl
  unfold receiveStep
  dsimp only
  rw [vddCommReceive_of_room hkeeps.receiving hline hroom]
  refine ⟨?_, ?_⟩
  · rw [← hrun]
    exact h.handler
  · unfold ReceiveRun.uart
    rw [raised_ports, hlength]
    change (run.uart index).receiveLength + 1 ≤ 1 + run.handler.due
    omega

theorem AnnouncesBytes.int14 : AnnouncesBytes index (receiveStep index run .int14) := by
  unfold receiveStep
  rw [commInt14_receive hkeeps.receiving]
  by_cases hempty : (run.state.ports index).receiveLength = 0
  · rw [if_pos hempty]
    exact ⟨h.handler, h.due⟩
  · obtain ⟨-, hlength, -⟩ := commPopReceive_isRing hkeeps.isRing hempty
    rw [if_neg hempty]
    refine ⟨h.handler, ?_⟩
    unfold ReceiveRun.uart
    rw [setPort_ports]
    exact (hlength.trans_le (sub_le _ _)).trans h.due

theorem AnnouncesBytes.handle
    (hannounced : run.handler = .entered → ¬((run.uart index).ier &&& commIerLineStatus ≠ 0 ∧
      (run.uart index).lsr &&& commLsrErrors ≠ 0)) :
    AnnouncesBytes index (receiveStep index run .handle) := by
  change AnnouncesBytes index (handleStep index run)
  have hdue := h.due
  cases hhandler : run.handler with
  | idle =>
    rw [hhandler] at hdue
    unfold handleStep
    rw [hhandler]
    by_cases hready : run.line.isPending = true ∧ run.line.isInService = false
    · rw [if_pos hready]
      refine ⟨iff_of_false (fun hfree => Bool.noConfusion (show true = false from hfree))
        (fun hidle => HandlerStep.noConfusion hidle), ?_⟩
      rw [if_pos hready.1] at hdue
      exact hdue
    · rw [if_neg hready]
      exact h
  | entered =>
    rw [hhandler] at hdue
    obtain ⟨uart, hread, -, -, hlength, -⟩ := commPortIn_iir hkeeps.receiving
    unfold handleStep
    rw [hhandler]
    rw [show (run.uart index).basePort = (run.state.ports index).basePort from rfl, hread]
    refine ⟨h.handler.trans (by rw [hhandler]; simp), ?_⟩
    unfold ReceiveRun.uart
    rw [setPort_ports, hlength]
    by_cases hempty : (run.state.ports index).receiveLength = 0
    · rw [hempty]
      exact Nat.zero_le _
    · have hidentified : commInterruptIdentification (run.state.ports index) =
          commIirReceivedData := by
        rw [identification_of_ready hkeeps.receiving.ier hkeeps.receiving.fcr
          (hkeeps.isRing.dataReady.mpr hempty)]
        exact if_neg (hannounced hhandler)
      rw [hidentified]
      exact hdue
  | identified identification =>
    rw [hhandler] at hdue
    unfold handleStep
    rw [hhandler]
    dsimp only
    by_cases hdata : identification = commIirReceivedData
    · have hbytes := hkeeps.identified (by rw [hhandler, hdata])
      obtain ⟨-, hlength, -⟩ := commPopReceive_isRing hkeeps.isRing hbytes
      rw [if_pos hdata, show (run.uart index).basePort = (run.state.ports index).basePort from rfl,
        commPortIn_rbr hkeeps.receiving]
      refine ⟨h.handler.trans (by rw [hhandler]; simp), ?_⟩
      have hone : (HandlerStep.identified identification).due = 1 := if_pos hdata
      rw [hone] at hdue
      unfold ReceiveRun.uart
      rw [setPort_ports]
      change _ ≤ (if run.line.isPending = true then 1 else 0) + 0
      have hpopped : (commPopReceive (run.state.ports index)).1.receiveLength =
          (run.uart index).receiveLength - 1 := hlength
      lia
    · rw [if_neg hdata]
      have hnone : (HandlerStep.identified identification).due = 0 := if_neg hdata
      rw [hnone] at hdue
      exact ⟨h.handler.trans (by rw [hhandler]; simp), hdue⟩
  | taken =>
    rw [hhandler] at hdue
    unfold handleStep
    rw [hhandler]
    exact ⟨⟨fun _ => rfl, fun _ => rfl⟩, hdue⟩

theorem AnnouncesBytes.step {event : ReceiveEvent}
    (hannounced : IsAnnounced index run event) :
    AnnouncesBytes index (receiveStep index run event) := by
  cases event with
  | receive byte => exact h.receive hkeeps byte hannounced
  | int14 => exact h.int14 hkeeps
  | handle => exact h.handle hkeeps hannounced

end

theorem IsStart.keepsBytes {state : CommState RequestLine} (h : IsStart index state) :
    KeepsBytes index (receiveStart state) := by
  refine ⟨h.receiving, ⟨?_, ?_⟩, ?_, fun hidentified => by cases hidentified⟩
  · change (state.ports index).receiveLength ≤ _
    rw [h.ring]
    exact Nat.zero_le _
  · exact iff_of_false (fun hready => hready h.dataReady) fun hbytes => hbytes h.ring
  · change [] = [] ++ (state.ports index).ring
    unfold CommPort.ring
    rw [h.ring]
    rfl

theorem IsStart.announcesBytes {state : CommState RequestLine} (h : IsStart index state) :
    AnnouncesBytes index (receiveStart state) := by
  refine ⟨iff_of_true ?_ rfl, ?_⟩
  · change (state.bus.getD ⟨false, false⟩).isInService = false
    rw [h.line]
    rfl
  · change (state.ports index).receiveLength ≤ _
    rw [h.ring]
    exact Nat.zero_le _

/-- The bytes taken and the bytes in the ring are those accepted, in their order; and the ring
is empty whenever the line is quiet, if every byte comes to a ring that holds only what the
handler under way will take and no line status interrupt comes before it. -/
theorem no_byte_is_stranded {state : CommState RequestLine} (h : IsStart index state)
    (events : List ReceiveEvent)
    (horderly : Throughout (receiveStep index) (receiveStart state) IsOrderly events) :
    let run := events.foldl (receiveStep index) (receiveStart state)
    (run.accepted = run.taken ++ (run.uart index).ring ∧
      ((run.uart index).lsr &&& commLsrDataReady ≠ 0 ↔ (run.uart index).ring ≠ [])) ∧
    (Throughout (receiveStep index) (receiveStart state) (IsAnnounced index) events →
      run.line.IsQuiet → (run.uart index).ring = []) := by
  have hkeeps := horderly.holds (KeepsBytes index) h.keepsBytes
    fun run event hrun hevent => hrun.step hevent
  have hring : ((events.foldl (receiveStep index) (receiveStart state)).uart index).ring = [] ↔
      ((events.foldl (receiveStep index) (receiveStart state)).uart index).receiveLength = 0 := by
    rw [← List.length_eq_zero_iff]
    unfold CommPort.ring
    rw [Ring.contents_length]
  refine ⟨⟨hkeeps.accepted, hkeeps.isRing.dataReady.trans (not_congr hring.symm)⟩, ?_⟩
  intro hannounced hquiet
  have hboth := (horderly.and hannounced).holds
    (fun run => KeepsBytes index run ∧ AnnouncesBytes index run)
    ⟨h.keepsBytes, h.announcesBytes⟩
    fun run event hrun hevent => ⟨hrun.1.step hevent.1, hrun.2.step hrun.1 hevent.2⟩
  have hidle := hboth.2.handler.mp hquiet.2
  have hdue := hboth.2.due
  rw [hquiet.1, hidle] at hdue
  exact hring.mpr (Nat.le_zero.mp hdue)

end Run

/-! ## COM1 -/

def com1Fitted : CommState RequestLine where
  bus := some ⟨false, false⟩
  ports := fun index =>
    { basePort := if index = 0 then 0x03F8 else 0
      irq := 4
      isFitted := index = 0
      ier := 0, lcr := 0, mcr := 0, scr := 0, fcr := 0, lsr := 0, msr := 0
      divisorLow := 0, divisorHigh := 0, rbr := 0
      isThrePending := false
      receive := Vector.replicate _ 0
      receiveHead := 0
      receiveLength := 0
      transmitCount := 0, receiveCount := 0, overruns := 0, breaks := 0 }
  hasSink := false
  sent := []

/-- COM1 out of reset, then MCR written with DTR, RTS and OUT2 and IER with received data. -/
def com1 : CommState RequestLine :=
  commPortOut (fun line _ => line.raise)
    (commPortOut (fun line _ => line.raise) (vddCommReset com1Fitted) 0x03FC 0x0B) 0x03F9 0x01

theorem com1_isStart : IsStart 0 com1 where
  receiving :=
    { onBus := ⟨⟨false, false⟩, rfl⟩
      isFitted := rfl
      finds := by
        intro register hregister
        simp only [mem_cons, not_mem_nil, or_false] at hregister
        rcases hregister with rfl | rfl <;> decide
      fcr := by decide
      ier := by decide
      out2 := by decide
      loop := by decide
      dlab := by decide }
  line := rfl
  ring := rfl
  dataReady := by decide

def oneByte : List ReceiveEvent := [.receive 0x41, .handle, .handle, .handle, .handle]

/-- Two bytes, and the handler for the one request they raise. -/
def twoByteBurst : List ReceiveEvent :=
  [.receive 0x41, .receive 0x42, .handle, .handle, .handle, .handle]

theorem no_byte_is_stranded_com1 :
    ((oneByte.foldl (receiveStep 0) (receiveStart com1)).accepted =
        (oneByte.foldl (receiveStep 0) (receiveStart com1)).taken ++
          ((oneByte.foldl (receiveStep 0) (receiveStart com1)).uart 0).ring ∧
      (((oneByte.foldl (receiveStep 0) (receiveStart com1)).uart 0).lsr &&&
          commLsrDataReady ≠ 0 ↔
        ((oneByte.foldl (receiveStep 0) (receiveStart com1)).uart 0).ring ≠ [])) ∧
    ((oneByte.foldl (receiveStep 0) (receiveStart com1)).line.IsQuiet →
      ((oneByte.foldl (receiveStep 0) (receiveStart com1)).uart 0).ring = []) := by
  have h := no_byte_is_stranded com1_isStart oneByte (throughout_of_checkRun (by decide))
  exact ⟨h.1, h.2 (throughout_of_checkRun (by decide))⟩

theorem burst_strands_a_byte :
    IsStart 0 com1 ∧
    Throughout (receiveStep 0) (receiveStart com1) IsOrderly twoByteBurst ∧
    (twoByteBurst.foldl (receiveStep 0) (receiveStart com1)).line.IsQuiet ∧
    ((twoByteBurst.foldl (receiveStep 0) (receiveStart com1)).uart 0).ring ≠ [] :=
  ⟨com1_isStart, throughout_of_checkRun (by decide), by decide, by decide⟩

end Ntvdmex.Vdd.Comm
