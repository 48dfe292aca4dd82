import Ntvdmex.Vdd.Mpu

/-!
# The messages of a MIDI stream

The stream is read as MIDI 1.0 has it: a system message or a SysEx ends the running status.  The
assembler keeps its status byte across them, so that a data byte after one finds it.
-/

namespace Ntvdmex.Vdd.Mpu

open List

/-! ## MIDI 1.0 -/

def messageBytes (status : UInt8) : Nat :=
  if status < 0xC0 then 2
  else if status < 0xE0 then 1
  else if status < 0xF0 ∨ status = 0xF2 then 2
  else if status = 0xF1 ∨ status = 0xF3 then 1
  else 0

def shortMessage (status first second : UInt8) : MpuCall :=
  .sink (status.toUInt32 ||| first.toUInt32 <<< 8 ||| second.toUInt32 <<< 16)

/-- A stream read so far: the status in force and the data bytes after it, or the SysEx message
that is open, and the SysEx messages dropped. -/
structure Reading where
  status : Option UInt8
  data : List UInt8
  sysEx : Option (List UInt8)
  dropped : Nat

namespace Reading

def unread : Reading := ⟨none, [], none, 0⟩

/-- An open SysEx message is dropped. -/
def interrupt (reading : Reading) : Reading :=
  { reading with sysEx := none, dropped := reading.dropped + if reading.sysEx.isSome then 1 else 0 }

/-- A data byte of a short message: a channel status stays in force after its message. -/
def dataByte (reading : Reading) (status value : UInt8) : Reading × List MpuCall :=
  let data := reading.data ++ [value]
  if data.length = messageBytes status then
    ({ reading with status := if status < 0xF0 then some status else none, data := [] },
      [shortMessage status (data.getD 0 0) (data.getD 1 0)])
  else ({ reading with data }, [])

/-- The byte after a SysEx message that is at most as long as the buffer ends it whole. -/
def endSysEx (reading : Reading) (message : List UInt8) : Reading × List MpuCall :=
  if message.length ≤ mpuSysExMax then ({ reading with sysEx := none }, [.sysExSink message])
  else (reading.interrupt, [])

def read (reading : Reading) (value : UInt8) : Reading × List MpuCall :=
  if value ≥ mpuRealtimeFirst then (reading, [shortMessage value 0 0])
  else if value = mpuSysExStart then
    ({ reading.interrupt with status := none, data := [], sysEx := some [value] }, [])
  else if value = mpuSysExEnd then
    match reading.sysEx with
    | some message => endSysEx { reading with status := none, data := [] } (message ++ [value])
    | none => ({ reading with status := none, data := [] }, [])
  else if value ≥ 0x80 then
    ({ reading.interrupt with
        status := if messageBytes value = 0 then none else some value, data := [] },
      if messageBytes value = 0 then [shortMessage value 0 0] else [])
  else
    match reading.sysEx, reading.status with
    | some message, _ => ({ reading with sysEx := some (message ++ [value]) }, [])
    | none, some status => reading.dataByte status value
    | none, none => (reading, [])

def readAll (reading : Reading) : List UInt8 → Reading × List MpuCall
  | [] => (reading, [])
  | value :: rest =>
    let next := reading.read value
    ((next.1.readAll rest).1, next.2 ++ (next.1.readAll rest).2)

end Reading

def vddMpuFeedAll (state : MpuState) : List UInt8 → MpuState × List MpuCall
  | [] => (state, [])
  | value :: rest =>
    let next := vddMpuFeed state value
    ((vddMpuFeedAll next.1 rest).1, next.2 ++ (vddMpuFeedAll next.1 rest).2)

/-- No SysEx message begins inside another, and no data byte comes with no status in force once
the assembler has a status byte. -/
def Orderly (state : MpuState) (reading : Reading) : List UInt8 → Prop
  | [] => True
  | value :: rest =>
    (value = mpuSysExStart → reading.sysEx = none) ∧
      (value < 0x80 → reading.sysEx = none → reading.status = none → state.status = 0) ∧
        Orderly (vddMpuFeed state value).1 (reading.read value).1 rest

instance decidableOrderly : ∀ (state : MpuState) (reading : Reading) (bytes : List UInt8),
    Decidable (Orderly state reading bytes)
  | _, _, [] => isTrue trivial
  | state, reading, value :: rest =>
    have := decidableOrderly (vddMpuFeed state value).1 (reading.read value).1 rest
    inferInstanceAs (Decidable (_ ∧ _ ∧ _))

/-! ## What the assembler holds of the stream -/

def Buffers (state : MpuState) (message : List UInt8) : Prop :=
  if message.length ≤ mpuSysExMax then state.isSysExOverflow = false ∧ state.sysEx = message
  else state.isSysExOverflow = true

/-- The data bytes after a status byte. -/
structure Collects (state : MpuState) (status : UInt8) (data : List UInt8) : Prop where
  status_eq : state.status = status
  isStatus : 0x80 ≤ status
  wanted : state.dataWanted = messageBytes status
  count : state.dataCount = data.length
  unfinished : data.length < messageBytes status
  held : ∀ index < data.length, state.data index = data.getD index 0

structure Tracks (state : MpuState) (reading : Reading) : Prop where
  hasSink : state.hasSink = true
  hasSysExSink : state.hasSysExSink = true
  idle : reading.sysEx = none → state.isInSysEx = false
  inSysEx : ∀ message, reading.sysEx = some message →
    state.isInSysEx = true ∧ Buffers state message
  inForce : ∀ status, reading.status = some status → Collects state status reading.data
  dropped : state.sysExDropped = UInt32.ofNat reading.dropped

theorem vddMpuReset_tracks {state : MpuState} (hsink : state.hasSink = true)
    (hsysExSink : state.hasSysExSink = true) : Tracks (vddMpuReset state) .unread :=
  ⟨hsink, hsysExSink, fun _ => rfl, fun _ h => (nomatch h), fun _ h => (nomatch h), rfl⟩

theorem isStatus_iff (value : UInt8) : value &&& mpuStatusBit ≠ 0 ↔ 0x80 ≤ value := by
  obtain ⟨value⟩ := value
  revert value
  decide

theorem mpuDataLength_eq (status : UInt8) (h : 0x80 ≤ status) :
    mpuDataLength status = messageBytes status := by
  obtain ⟨status⟩ := status
  revert status
  decide

theorem messageBytes_le (status : UInt8) : messageBytes status ≤ 2 := by
  unfold messageBytes
  split_ifs <;> decide

variable {state : MpuState} {reading : Reading} {value : UInt8}

theorem mpuEmit_of_sink (hsink : state.hasSink = true) :
    mpuEmit state = [shortMessage state.status (state.data 0) (state.data 1)] :=
  if_pos hsink

variable {message : List UInt8} {status : UInt8} {collected : List UInt8}

theorem Buffers.put (h : Buffers state message) (hsink : state.hasSysExSink = true)
    (value : UInt8) : Buffers (mpuSysExPut state value) (message ++ [value]) := by
  unfold Buffers at *
  unfold mpuSysExPut
  rw [length_append, length_singleton]
  split_ifs at h with hfits
  · rw [h.1, h.2, hsink]
    split_ifs <;> simp_all
    omega
  · rw [if_neg (by omega), h]
    simp [h]

theorem mpuSysExPut_fields (state : MpuState) (value : UInt8) :
    ∃ sysEx isSysExOverflow, mpuSysExPut state value =
      { state with sysEx, isSysExOverflow } := by
  unfold mpuSysExPut
  split_ifs <;> exact ⟨_, _, rfl⟩

/-! ## One byte -/

theorem Tracks.messageStatus (h : Tracks state reading) (hvalue : 0x80 ≤ value) :
    Tracks (mpuMessageByte state value).1
        { reading with status := if messageBytes value = 0 then none else some value, data := [] } ∧
      (mpuMessageByte state value).2 =
        if messageBytes value = 0 then [shortMessage value 0 0] else [] := by
  unfold mpuMessageByte
  rw [if_pos ((isStatus_iff value).mpr hvalue)]
  dsimp only
  rw [mpuDataLength_eq value hvalue]
  split_ifs with hnone
  · refine ⟨⟨h.hasSink, h.hasSysExSink, h.idle, h.inSysEx, fun _ hstatus => (nomatch hstatus),
      h.dropped⟩, ?_⟩
    exact mpuEmit_of_sink h.hasSink
  · refine ⟨⟨h.hasSink, h.hasSysExSink, h.idle, h.inSysEx, ?_, h.dropped⟩, rfl⟩
    rintro _ ⟨⟩
    exact ⟨rfl, hvalue, rfl, rfl, Nat.pos_of_ne_zero hnone, fun _ hindex => (nomatch hindex)⟩

theorem Collects.next (h : Collects state status collected) (data : Nat → UInt8) :
    Collects { state with data, dataCount := 0 } status [] :=
  ⟨h.status_eq, h.isStatus, h.wanted, rfl, (Nat.zero_le _).trans_lt h.unfinished,
    fun _ hindex => (nomatch hindex)⟩

theorem Tracks.whole (h : Tracks state reading) (hstatus : reading.status = some status)
    (data : Nat → UInt8) : Tracks { state with data, dataCount := 0 }
      { reading with status := if status < 0xF0 then some status else none, data := [] } := by
  refine ⟨h.hasSink, h.hasSysExSink, h.idle, h.inSysEx, fun other hother => ?_, h.dropped⟩
  dsimp only at hother
  split_ifs at hother
  cases hother
  exact (h.inForce status hstatus).next data

theorem Collects.stored (h : Collects state status collected) (value : UInt8) {index : Nat}
    (hindex : index < collected.length + 1) :
    Function.update state.data state.dataCount value index =
      (collected ++ [value]).getD index 0 := by
  rw [h.count]
  by_cases hlast : index = collected.length
  · rw [hlast, Function.update_self, getD_eq_getElem?_getD, getElem?_concat_length]
    rfl
  · have hlt : index < collected.length := by omega
    rw [Function.update_of_ne hlast, h.held index hlt, getD_eq_getElem?_getD,
      getD_eq_getElem?_getD, getElem?_append_left hlt]

theorem Tracks.messageData (h : Tracks state reading) (hstatus : reading.status = some status)
    (hvalue : value < 0x80) :
    Tracks (mpuMessageByte state value).1 (reading.dataByte status value).1 ∧
      (mpuMessageByte state value).2 = (reading.dataByte status value).2 := by
  have hcollects := h.inForce status hstatus
  have hstored := fun index => @Collects.stored _ _ _ hcollects value index
  obtain ⟨hstate, hisStatus, hwanted, hcount, hunfinished, -⟩ := hcollects
  have hnonzero : state.status ≠ 0 := by
    intro hzero
    rw [← hstate, hzero] at hisStatus
    exact absurd hisStatus (by decide)
  have hdata : ¬value &&& mpuStatusBit ≠ 0 := fun hbit =>
    absurd ((isStatus_iff value).mp hbit) (UInt8.not_le.mpr hvalue)
  have hbytes := messageBytes_le status
  have hroom : state.dataCount < mpuMidiDataBytes := by
    rw [hcount, mpuMidiDataBytes]
    omega
  have hlength : (reading.data ++ [value]).length = reading.data.length + 1 :=
    length_append
  unfold mpuMessageByte Reading.dataByte
  rw [if_neg hdata, if_neg hnonzero, if_pos hroom]
  dsimp only
  by_cases hlast : reading.data.length + 1 = messageBytes status
  · rw [if_pos (by omega), if_pos (hlength.trans hlast)]
    refine ⟨h.whole hstatus _, ?_⟩
    dsimp only
    rw [mpuEmit_of_sink (by exact h.hasSink), ← hstored 0 (Nat.succ_pos _), hstate]
    unfold mpuMidiDataBytes at *
    split_ifs with hone
    · rw [getD_eq_getElem?_getD, getElem?_eq_none (by omega)]
      rfl
    · rw [← hstored 1 (by omega)]
  · rw [if_neg (by omega), if_neg (hlength ▸ hlast)]
    refine ⟨⟨h.hasSink, h.hasSysExSink, h.idle, h.inSysEx, ?_, h.dropped⟩, rfl⟩
    rintro other hother
    cases hstatus.symm.trans hother
    exact ⟨hstate, hisStatus, hwanted, by rw [hlength, ← hcount],
      hlength ▸ (Nat.lt_of_le_of_ne hunfinished hlast),
        fun index hindex => hstored index (hlength ▸ hindex)⟩

/-! ## A stream -/

theorem Tracks.interrupt (h : Tracks state reading) (isOpen : reading.sysEx.isSome = true) :
    Tracks { state with isInSysEx := false, sysExDropped := state.sysExDropped + 1 }
      reading.interrupt := by
  refine ⟨h.hasSink, h.hasSysExSink, fun _ => rfl, fun _ hmessage => (nomatch hmessage),
    fun status hstatus => ?_, ?_⟩
  · obtain ⟨hstate, hisStatus, hwanted, hcount, hunfinished, hheld⟩ := h.inForce status hstatus
    exact ⟨hstate, hisStatus, hwanted, hcount, hunfinished, hheld⟩
  unfold Reading.interrupt
  rw [if_pos isOpen, h.dropped]
  exact (UInt32.ofNat_add _ _).symm

theorem interrupt_of_none (h : reading.sysEx = none) : reading.interrupt = reading := by
  obtain ⟨status, data, sysEx, dropped⟩ := reading
  cases h
  rfl

variable (h : Tracks state reading)

include h

/-- A byte of an open SysEx message. -/
theorem Tracks.put (hmessage : reading.sysEx = some message) (value : UInt8) :
    Tracks (mpuSysExPut state value) { reading with sysEx := some (message ++ [value]) } ∧
      Buffers (mpuSysExPut state value) (message ++ [value]) := by
  obtain ⟨hinSysEx, hbuffers⟩ := h.inSysEx message hmessage
  have hput := hbuffers.put h.hasSysExSink value
  obtain ⟨sysEx, isSysExOverflow, hfields⟩ := mpuSysExPut_fields state value
  rw [hfields] at hput ⊢
  refine ⟨⟨h.hasSink, h.hasSysExSink, fun hnone => (nomatch hnone), ?_, fun status hstatus => ?_,
    h.dropped⟩, hput⟩
  · rintro _ ⟨⟩
    exact ⟨hinSysEx, hput⟩
  · obtain ⟨hstate, hisStatus, hwanted, hcount, hunfinished, hheld⟩ := h.inForce status hstatus
    exact ⟨hstate, hisStatus, hwanted, hcount, hunfinished, hheld⟩

theorem Tracks.begin : Tracks (mpuSysExBegin { state with isInSysEx := true })
      { reading with status := none, data := [], sysEx := some [mpuSysExStart] } := by
  have hempty : Tracks { state with isInSysEx := true, sysEx := [], isSysExOverflow := false }
      { reading with status := none, data := [], sysEx := some [] } := by
    refine ⟨h.hasSink, h.hasSysExSink, fun hnone => (nomatch hnone), ?_,
      fun _ hstatus => (nomatch hstatus), h.dropped⟩
    rintro _ ⟨⟩
    exact ⟨rfl, rfl, rfl⟩
  exact (hempty.put rfl mpuSysExStart).1

theorem Tracks.finish (hmessage : reading.sysEx = some message) :
    Tracks { (mpuSysExFinish state).1 with isInSysEx := false }
        (Reading.endSysEx { reading with status := none, data := [] }
          (message ++ [mpuSysExEnd])).1 ∧
      (mpuSysExFinish state).2 =
        (Reading.endSysEx { reading with status := none, data := [] }
          (message ++ [mpuSysExEnd])).2 := by
  obtain ⟨hput, hbuffers⟩ := h.put hmessage mpuSysExEnd
  unfold mpuSysExFinish Reading.endSysEx
  rw [if_neg (by rw [h.hasSysExSink]; decide)]
  dsimp only
  generalize mpuSysExPut state mpuSysExEnd = ended at *
  unfold Buffers at hbuffers
  by_cases hfits : (message ++ [mpuSysExEnd]).length ≤ mpuSysExMax
  · rw [if_pos hfits] at hbuffers ⊢
    rw [hbuffers.1]
    exact ⟨⟨hput.hasSink, hput.hasSysExSink, fun _ => rfl, fun _ hsysEx => (nomatch hsysEx),
      fun _ hstatus => (nomatch hstatus), hput.dropped⟩, by rw [← hbuffers.2]; rfl⟩
  · rw [if_neg hfits] at hbuffers ⊢
    rw [if_pos hbuffers]
    refine ⟨⟨hput.hasSink, hput.hasSysExSink, fun _ => rfl, fun _ hsysEx => (nomatch hsysEx),
      fun _ hstatus => (nomatch hstatus), ?_⟩, rfl⟩
    unfold Reading.interrupt
    rw [if_pos (by rw [hmessage]; rfl), hput.dropped]
    exact (UInt32.ofNat_add _ _).symm

theorem Tracks.ignore (hstate : state.status = 0) (hvalue : value < 0x80) :
    Tracks (mpuMessageByte state value).1 reading ∧ (mpuMessageByte state value).2 = [] := by
  have hdata : ¬value &&& mpuStatusBit ≠ 0 := fun hbit =>
    absurd ((isStatus_iff value).mp hbit) (UInt8.not_le.mpr hvalue)
  unfold mpuMessageByte
  rw [if_neg hdata, if_pos hstate]
  exact ⟨h, rfl⟩

/-- The assembler keeps holding what has been read, and calls the sinks for it. -/
theorem Tracks.step (hstart : value = mpuSysExStart → reading.sysEx = none)
    (hstray : value < 0x80 → reading.sysEx = none → reading.status = none → state.status = 0) :
    Tracks (mpuMidiByte state value).1 (reading.read value).1 ∧
      (mpuMidiByte state value).2 = (reading.read value).2 := by
  unfold mpuMidiByte Reading.read
  by_cases hrealtime : value ≥ mpuRealtimeFirst
  · rw [if_pos hrealtime, if_pos hrealtime]
    exact ⟨h, mpuEmit_of_sink h.hasSink⟩
  rw [if_neg hrealtime, if_neg hrealtime]
  by_cases hbegin : value = mpuSysExStart
  · rw [if_pos hbegin, if_pos hbegin, interrupt_of_none (hstart hbegin), hbegin]
    exact ⟨h.begin, rfl⟩
  rw [if_neg hbegin, if_neg hbegin]
  by_cases hend : value = mpuSysExEnd
  · rw [if_pos hend, if_pos hend, hend]
    cases hsysEx : reading.sysEx with
    | some message =>
      have hfinish := h.finish hsysEx
      rw [hsysEx] at hfinish
      rw [if_pos (h.inSysEx message hsysEx).1]
      exact hfinish
    | none =>
      rw [if_neg (by rw [h.idle hsysEx]; decide)]
      exact ⟨⟨h.hasSink, h.hasSysExSink, fun _ => rfl, fun _ hmessage => (nomatch hmessage),
        fun _ hstatus => (nomatch hstatus), h.dropped⟩, rfl⟩
  rw [if_neg hend, if_neg hend]
  cases hsysEx : reading.sysEx with
  | none =>
    rw [if_neg (by rw [h.idle hsysEx]; decide), interrupt_of_none hsysEx]
    by_cases hstatus : value ≥ 0x80
    · rw [if_pos hstatus]
      exact h.messageStatus hstatus
    · rw [if_neg hstatus]
      have hvalue := UInt8.not_le.mp hstatus
      cases hnone : reading.status with
      | some status => exact h.messageData hnone hvalue
      | none => exact h.ignore (hstray hvalue hsysEx hnone) hvalue
  | some message =>
    rw [if_pos (h.inSysEx message hsysEx).1, if_neg (by rw [h.hasSysExSink]; decide)]
    by_cases hstatus : value ≥ 0x80
    · rw [if_pos hstatus, if_neg ((isStatus_iff value).mpr hstatus)]
      exact (h.interrupt (by rw [hsysEx]; rfl)).messageStatus hstatus
    · rw [if_neg hstatus, if_pos (not_not.mp fun hbit => hstatus ((isStatus_iff value).mp hbit))]
      exact ⟨(h.put hsysEx value).1, rfl⟩

omit h

theorem Tracks.run (bytes : List UInt8) : ∀ {state : MpuState} {reading : Reading},
    Tracks state reading → Orderly state reading bytes →
      Tracks (vddMpuFeedAll state bytes).1 (reading.readAll bytes).1 ∧
        (vddMpuFeedAll state bytes).2 = (reading.readAll bytes).2 := by
  induction bytes with
  | nil => exact fun h _ => ⟨h, rfl⟩
  | cons value rest ih =>
    rintro state reading h ⟨hstart, hstray, hrest⟩
    obtain ⟨hnext, hcalls⟩ := h.step hstart hstray
    obtain ⟨hafter, hmore⟩ := ih hnext hrest
    exact ⟨hafter, congrArg₂ (· ++ ·) hcalls hmore⟩

/-- The assembler calls its sinks for the messages of an orderly stream, and counts the SysEx
messages it drops. -/
theorem vddMpuFeedAll_reads {state : MpuState} (hsink : state.hasSink = true)
    (hsysExSink : state.hasSysExSink = true) (bytes : List UInt8)
    (horderly : Orderly (vddMpuReset state) .unread bytes) :
    (vddMpuFeedAll (vddMpuReset state) bytes).2 = (Reading.unread.readAll bytes).2 ∧
      (vddMpuFeedAll (vddMpuReset state) bytes).1.sysExDropped =
        UInt32.ofNat (Reading.unread.readAll bytes).1.dropped := by
  obtain ⟨htracks, hcalls⟩ := (vddMpuReset_tracks hsink hsysExSink).run bytes horderly
  exact ⟨hcalls, htracks.dropped⟩

/-- An assembler with both its sinks. -/
def attached : MpuState := ⟨0, fun _ => 0, 0, 0, false, true, true, [], false, 0⟩

/-- Two notes under one status with a clock between them, and a SysEx message. -/
def notesAndSysEx : List UInt8 :=
  [0x90, 0x40, 0x7F, 0xF8, 0x41, 0xF8, 0x7F, 0xF0, 0x41, 0xF7, 0xC0, 0x05]

theorem notesAndSysEx_read :
    (vddMpuFeedAll (vddMpuReset attached) notesAndSysEx).2 =
        (Reading.unread.readAll notesAndSysEx).2 ∧
      (vddMpuFeedAll (vddMpuReset attached) notesAndSysEx).1.sysExDropped =
        UInt32.ofNat (Reading.unread.readAll notesAndSysEx).1.dropped :=
  vddMpuFeedAll_reads rfl rfl notesAndSysEx (by decide)

/-- A data byte after a tune request is sent as another one. -/
theorem tuneRequest_repeated :
    (vddMpuFeedAll (vddMpuReset attached) [0xF6, 0x40]).2 ≠
      (Reading.unread.readAll [0xF6, 0x40]).2 := by
  decide

end Ntvdmex.Vdd.Mpu
