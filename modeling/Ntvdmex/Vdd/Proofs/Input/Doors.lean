import Ntvdmex.Vdd.Proofs.Input.OutputBuffer

/-!
# Every door moves the one buffer

Each function of the controller is a sequence of buffer steps: whichever of the predicates of
availability let a byte through, the step it takes is one that the buffer allows.
-/

namespace Ntvdmex.Vdd.Input

open Foundation Nat BufferStep Ring
open Vdd.PointingDevice

/-! ## The pointing device -/

def mouseBytes (device : AuxDevice) : List UInt8 :=
  Ring.between device.queue device.head device.tail

/-- The indices of the device's queue are inside it. -/
structure AuxIndexed (device : AuxDevice) : Prop where
  head_lt : device.head < auxQueueSize
  tail_lt : device.tail < auxQueueSize

/-- The device keeps what it has queued and may queue more. -/
def AuxQueues (before after : AuxDevice) : Prop :=
  AuxIndexed before → AuxIndexed after ∧ ∃ bytes, mouseBytes after = mouseBytes before ++ bytes

theorem auxQueues_of_same {before after : AuxDevice} (hqueue : after.queue = before.queue)
    (hhead : after.head = before.head) (htail : after.tail = before.tail) :
    AuxQueues before after := by
  rintro ⟨hhead_lt, htail_lt⟩
  refine ⟨⟨hhead ▸ hhead_lt, htail ▸ htail_lt⟩, [], ?_⟩
  rw [List.append_nil, mouseBytes, hqueue, hhead, htail, mouseBytes]

theorem AuxQueues.trans {first second third : AuxDevice} (hfirst : AuxQueues first second)
    (hsecond : AuxQueues second third) : AuxQueues first third := by
  intro hindexed
  obtain ⟨hmiddle, bytes, hbytes⟩ := hfirst hindexed
  obtain ⟨hlast, more, hmore⟩ := hsecond hmiddle
  exact ⟨hlast, bytes ++ more, by rw [hmore, hbytes, List.append_assoc]⟩

variable (device : AuxDevice) (value : UInt8)

theorem auxPush_queues : AuxQueues device (auxPush device value) := by
  unfold auxPush
  by_cases hfull : auxNext device.head = device.tail
  · rw [if_pos hfull]
    exact auxQueues_of_same rfl rfl rfl
  · rw [if_neg hfull]
    rintro ⟨hhead, htail⟩
    exact ⟨⟨mod_lt _ (by decide), htail⟩, [value], between_push value hhead htail hfull⟩

theorem AuxQueues.after {device changed result : AuxDevice} (h : AuxQueues changed result)
    (hqueue : changed.queue = device.queue) (hhead : changed.head = device.head)
    (htail : changed.tail = device.tail) : AuxQueues device result :=
  (auxQueues_of_same hqueue hhead htail).trans h

theorem AuxQueues.before {device changed result : AuxDevice} (h : AuxQueues device changed)
    (hqueue : result.queue = changed.queue) (hhead : result.head = changed.head)
    (htail : result.tail = changed.tail) : AuxQueues device result :=
  h.trans (auxQueues_of_same hqueue hhead htail)

theorem auxReply_queues : AuxQueues device (auxReply device value) := by
  exact (auxPush_queues _ _).after rfl rfl rfl

theorem foldl_queues {queue : AuxDevice → UInt8 → AuxDevice}
    (hqueue : ∀ device value, AuxQueues device (queue device value)) (values : List UInt8) :
    ∀ device, AuxQueues device (values.foldl queue device) := by
  induction values with
  | nil => exact fun device => auxQueues_of_same rfl rfl rfl
  | cons value values ih => exact fun device => (hqueue device value).trans (ih _)

theorem auxQueuePacket_queues (dx dy : Int32) : AuxQueues device (auxQueuePacket device dx dy) := by
  unfold auxQueuePacket
  exact (foldl_queues auxPush_queues _ device).before rfl rfl rfl

theorem auxCommand_queues : AuxQueues device (auxCommand device value) := by
  refine iteInduction (fun _ => ?reset) fun _ => ?_
  case reset => exact (foldl_queues auxReply_queues _ _).after rfl rfl rfl
  refine iteInduction (fun _ => auxPush_queues _ _) fun _ => ?_
  iterate 4 refine iteInduction (fun _ => (auxReply_queues _ _).after rfl rfl rfl) fun _ => ?_
  refine iteInduction (fun _ => foldl_queues auxReply_queues _ _) fun _ => ?_
  iterate 3 refine iteInduction (fun _ => (auxReply_queues _ _).after rfl rfl rfl) fun _ => ?_
  refine iteInduction (fun _ => ?readData) fun _ => ?_
  case readData =>
    have hpacket := (auxReply_queues device auxReplyAck).trans
      (auxQueuePacket_queues (auxReply device auxReplyAck) device.remoteDx device.remoteDy)
    refine hpacket.before ?_ ?_ ?_ <;> dsimp only
  refine iteInduction (fun _ => (auxReply_queues _ _).after rfl rfl rfl) fun _ => ?_
  refine iteInduction (fun _ => foldl_queues auxReply_queues _ _) fun _ => ?_
  refine iteInduction (fun _ => (auxReply_queues _ _).after rfl rfl rfl) fun _ => ?_
  refine iteInduction (fun _ => (auxReply_queues _ _).after rfl rfl rfl) fun _ => ?_
  exact auxReply_queues _ _

theorem auxParameter_queues : AuxQueues device (auxParameter device value) := by
  unfold auxParameter
  refine (auxReply_queues _ _).after ?_ ?_ ?_ <;> dsimp only <;> split_ifs <;> rfl

theorem auxDeviceWrite_queues : AuxQueues device (auxDeviceWrite device value) := by
  unfold auxDeviceWrite
  refine iteInduction (fun _ => (auxPush_queues _ _).after rfl rfl rfl) fun _ => ?_
  refine iteInduction (fun _ => ?parameter) fun _ => ?command
  case parameter => exact (auxParameter_queues _ _).after rfl rfl rfl
  case command => exact (auxCommand_queues _ _).after rfl rfl rfl

theorem auxDeviceMove_queues (dx dy : Int32) (buttons : UInt8) :
    AuxQueues device (auxDeviceMove device dx dy buttons).2 := by
  unfold auxDeviceMove
  by_cases hremote : device.isRemote = true
  · rw [if_pos hremote]
    exact auxQueues_of_same rfl rfl rfl
  · rw [if_neg hremote]
    refine iteInduction (motive := fun moved : Bool × AuxDevice => AuxQueues device moved.2)
      (fun _ => auxQueues_of_same rfl rfl rfl) fun _ => ?_
    exact (auxQueuePacket_queues _ _ _).after rfl rfl rfl

/-! ## The buffer behind the state -/

def scanCodes (state : InputState) : List UInt8 :=
  Ring.between state.scanCodeQueue state.scanCodeHead state.scanCodeTail

/-- The fields that the output buffer is made of. -/
structure Door where
  isBusAttached : Bool
  scanCodeQueue : Vector UInt8 inputScanCodeQueueSize
  scanCodeHead : Nat
  scanCodeTail : Nat
  scanCodesDropped : UInt32
  isScanCodeIrqUp : Bool
  aux : AuxDevice
  isAuxPresented : Bool
  trace : List InputEvent

def door (state : InputState) : Door where
  isBusAttached := state.isBusAttached
  scanCodeQueue := state.scanCodeQueue
  scanCodeHead := state.scanCodeHead
  scanCodeTail := state.scanCodeTail
  scanCodesDropped := state.scanCodesDropped
  isScanCodeIrqUp := state.isScanCodeIrqUp
  aux := state.aux
  isAuxPresented := state.isAuxPresented
  trace := state.trace

def Door.buffer (door : Door) : OutputBuffer where
  isBusAttached := door.isBusAttached
  scanCodes := Ring.between door.scanCodeQueue door.scanCodeHead door.scanCodeTail
  mouseBytes := mouseBytes door.aux
  isScanCodeIrqUp := door.isScanCodeIrqUp
  isAuxPresented := door.isAuxPresented
  scanCodesDropped := door.scanCodesDropped
  trace := door.trace

/-- The indices of both queues are inside them. -/
structure Door.Indexed (door : Door) : Prop where
  head_lt : door.scanCodeHead < inputScanCodeQueueSize
  tail_lt : door.scanCodeTail < inputScanCodeQueueSize
  aux : AuxIndexed door.aux

/-- One state leads to the other by steps of the buffer. -/
def Moves (before after : InputState) : Prop :=
  (door before).Indexed → (door after).Indexed ∧
    Relation.ReflTransGen BufferStep (door before).buffer (door after).buffer

theorem Moves.quiet {before after : InputState} (h : door after = door before) :
    Moves before after := by
  intro hindexed
  rw [h]
  exact ⟨hindexed, .refl⟩

theorem Moves.trans {first second third : InputState} (hfirst : Moves first second)
    (hsecond : Moves second third) : Moves first third := by
  intro hindexed
  obtain ⟨hmiddle, hsteps⟩ := hfirst hindexed
  obtain ⟨hlast, hmore⟩ := hsecond hmiddle
  exact ⟨hlast, hsteps.trans hmore⟩

/-- A change that the buffer does not see comes first. -/
theorem Moves.after {before changed after : InputState} (h : Moves changed after)
    (hdoor : door changed = door before) : Moves before after :=
  (Moves.quiet hdoor).trans h

theorem Moves.single {before after : InputState}
    (hindexed : (door before).Indexed → (door after).Indexed)
    (hstep : (door before).Indexed → BufferStep (door before).buffer (door after).buffer) :
    Moves before after :=
  fun h => ⟨hindexed h, .single (hstep h)⟩

/-! ## What availability tells -/

theorem inputScanCodeIsFree_iff (state : InputState) :
    inputScanCodeIsFree state = true ↔ state.scanCodeHead ≠ state.scanCodeTail ∧
      (state.isScanCodeIrqUp = false →
        state.isKeyboardDisabled = false ∧ state.isAuxPresented = false) := by
  unfold inputScanCodeIsFree
  by_cases hempty : state.scanCodeHead = state.scanCodeTail
  · simp [hempty]
  · cases hup : state.isScanCodeIrqUp <;> cases hdisabled : state.isKeyboardDisabled <;>
      cases hpresented : state.isAuxPresented <;> simp [hempty]

theorem inputScanCodeAvailable_free {state : InputState}
    (h : (inputScanCodeAvailable state).1 = true) : inputScanCodeIsFree state = true := by
  unfold inputScanCodeAvailable at h
  by_cases hfree : inputScanCodeIsFree state = true
  · exact hfree
  · rw [if_neg hfree] at h
    exact absurd h Bool.false_ne_true

theorem inputScanCodeAvailable_snd (state : InputState) :
    (inputScanCodeAvailable state).2 = state ∨
      (inputScanCodeAvailable state).2 = state.clockRead := by
  unfold inputScanCodeAvailable
  by_cases hfree : inputScanCodeIsFree state = true
  · exact .inr (by rw [if_pos hfree])
  · exact .inl (by rw [if_neg hfree])

theorem inputScanCodeAvailable_door (state : InputState) :
    door (inputScanCodeAvailable state).2 = door state := by
  rcases inputScanCodeAvailable_snd state with h | h <;> rw [h]
  rfl

theorem available_door {state next : InputState} {available : Bool}
    (hresult : inputScanCodeAvailable state = (available, next)) : door next = door state := by
  have hdoor := inputScanCodeAvailable_door state
  rwa [hresult] at hdoor

theorem available_queued {state next : InputState}
    (hresult : inputScanCodeAvailable state = (true, next)) :
    next.scanCodeHead ≠ next.scanCodeTail := by
  have hdoor := available_door hresult
  rw [show next.scanCodeHead = _ from congrArg Door.scanCodeHead hdoor,
    show next.scanCodeTail = _ from congrArg Door.scanCodeTail hdoor]
  exact ((inputScanCodeIsFree_iff state).mp (inputScanCodeAvailable_free (by rw [hresult]))).1

theorem inputAuxAvailable_snd (state : InputState) :
    (inputAuxAvailable state).2 = state ∨ (inputAuxAvailable state).2 = state.clockRead := by
  unfold inputAuxAvailable
  split_ifs
  · exact .inl rfl
  · exact .inl rfl
  · exact .inl rfl
  · exact .inl rfl
  · exact inputScanCodeAvailable_snd state

theorem inputAuxAvailable_door (state : InputState) :
    door (inputAuxAvailable state).2 = door state := by
  rcases inputAuxAvailable_snd state with h | h <;> rw [h]
  rfl

theorem inputAuxAvailable_free {state : InputState} (h : (inputAuxAvailable state).1 = true) :
    auxDeviceQueued state.aux ≠ 0 ∧
      (state.isAuxPresented = false → state.isScanCodeIrqUp = false) := by
  unfold inputAuxAvailable at h
  split_ifs at h with hqueued hpresented hdisabled hup
  · exact ⟨hqueued, fun hfalse => absurd (hfalse.symm.trans hpresented) Bool.false_ne_true⟩
  · exact ⟨hqueued, fun _ => Bool.eq_false_of_not_eq_true hup⟩

/-! ## Taking and presenting -/

theorem inputScanCodePop_moves {state : InputState}
    (hne : state.scanCodeHead ≠ state.scanCodeTail) :
    Moves state (inputScanCodePop state).2 := by
  have hdoor : door (inputScanCodePop state).2 =
      { door state with
        scanCodeTail := inputNextIndex state.scanCodeTail
        isScanCodeIrqUp := false
        trace := state.trace ++
          [.scanCodeTaken (slot state.scanCodeQueue state.scanCodeTail)] } := by
    unfold inputScanCodePop
    dsimp only
    split <;> rfl
  refine .single (fun h => ?_) fun h => ?_
  · rw [hdoor]
    exact ⟨h.head_lt, mod_lt _ (by decide), h.aux⟩
  · rw [hdoor]
    exact takeScanCode (between_pop _ h.head_lt h.tail_lt hne)

theorem inputAuxPresent_moves {state : InputState} (hdown : state.isScanCodeIrqUp = false)
    (hfree : state.isAuxPresented = false) : Moves state (inputAuxPresent state) := by
  refine .single (fun h => ?_) fun h => ?_
  · unfold inputAuxPresent
    dsimp only
    split <;> exact ⟨h.head_lt, h.tail_lt, h.aux⟩
  · unfold inputAuxPresent
    dsimp only
    split
    · exact @present (door state).buffer true hdown hfree
    · exact @present (door state).buffer false hdown hfree

theorem inputAuxPoll_moves (state : InputState) : Moves state (inputAuxPoll state) := by
  unfold inputAuxPoll
  by_cases hpresented : state.isAuxPresented = true
  · rw [if_pos hpresented]
    exact .quiet rfl
  · rw [if_neg hpresented]
    have hfree : state.isAuxPresented = false := Bool.eq_false_of_not_eq_true hpresented
    have hdoor := inputAuxAvailable_door state
    rcases hresult : inputAuxAvailable state with ⟨available, next⟩
    rw [hresult] at hdoor
    cases available with
    | false => exact .quiet hdoor
    | true =>
      have hdown := (inputAuxAvailable_free (by rw [hresult])).2 hfree
      refine Moves.after (inputAuxPresent_moves ?_ ?_) hdoor
      · exact (congrArg Door.isScanCodeIrqUp hdoor).trans hdown
      · exact (congrArg Door.isAuxPresented hdoor).trans hfree

theorem inputScanCodePresent_moves {state : InputState} (hdown : state.isScanCodeIrqUp = false)
    (hfree : state.isAuxPresented = false) : Moves state (inputScanCodePresent state) := by
  have hdoor : door (inputScanCodePresent state) =
      { door state with
        isScanCodeIrqUp := true
        trace := if state.isBusAttached then state.trace ++ [.irq inputKeyboardIrq]
          else state.trace } := by
    unfold inputScanCodePresent
    by_cases hbus : state.isBusAttached = true
    · rw [if_pos hbus, if_pos hbus]
      rfl
    · rw [if_neg hbus, if_neg hbus]
      rfl
  refine .single (fun h => ?_) fun _ => ?_
  · rw [hdoor]
    exact ⟨h.head_lt, h.tail_lt, h.aux⟩
  · rw [hdoor]
    exact @announce (door state).buffer hdown hfree

theorem inputKeyboardPoll_moves (state : InputState) :
    Moves state (inputKeyboardPoll state) := by
  unfold inputKeyboardPoll
  by_cases hup : state.isScanCodeIrqUp = true
  · rw [if_pos hup]
    exact .quiet rfl
  · rw [if_neg hup]
    have hdown : state.isScanCodeIrqUp = false := Bool.eq_false_of_not_eq_true hup
    rcases hresult : inputScanCodeAvailable state with ⟨available, next⟩
    have hdoor := available_door hresult
    cases available with
    | false => exact .quiet hdoor
    | true =>
      have hfree := ((inputScanCodeIsFree_iff state).mp
        (inputScanCodeAvailable_free (by rw [hresult]))).2 hdown
      refine Moves.after (inputScanCodePresent_moves ?_ ?_) hdoor
      · exact (congrArg Door.isScanCodeIrqUp hdoor).trans hdown
      · exact (congrArg Door.isAuxPresented hdoor).trans hfree.2

theorem vddInputPoll_moves (state : InputState) : Moves state (vddInputPoll state) :=
  (inputKeyboardPoll_moves state).trans (inputAuxPoll_moves _)

theorem auxQueues_moves {state : InputState} {device : AuxDevice}
    (h : AuxQueues state.aux device) : Moves state { state with aux := device } := by
  intro hindexed
  obtain ⟨haux, bytes, hbytes⟩ := h hindexed.aux
  refine ⟨⟨hindexed.head_lt, hindexed.tail_lt, haux⟩, .single ?_⟩
  have hqueued : (door { state with aux := device }).buffer =
      { (door state).buffer with
        mouseBytes := (door state).buffer.mouseBytes ++ bytes } := by
    unfold Door.buffer
    congr 1
  rw [hqueued]
  exact queueMouse bytes

/-! ## Pushing -/

theorem inputDropOldest_moves {state : InputState}
    (hne : state.scanCodeHead ≠ state.scanCodeTail) : Moves state (inputDropOldest state) := by
  refine .single (fun h => ⟨h.head_lt, mod_lt _ (by decide), h.aux⟩) fun h => ?_
  exact @drop (door state).buffer _ _
    (between_pop _ h.head_lt h.tail_lt hne)

theorem inputStoreScanCode_moves {state : InputState} (scanCode : UInt8)
    (hfree : inputNextIndex state.scanCodeHead ≠ state.scanCodeTail) :
    Moves state (inputStoreScanCode state scanCode) := by
  refine .single (fun h => ⟨mod_lt _ (by decide), h.tail_lt, h.aux⟩) fun h => ?_
  have hstored : (door (inputStoreScanCode state scanCode)).buffer =
      { (door state).buffer with
        scanCodes := (door state).buffer.scanCodes ++ [scanCode]
        trace := (door state).buffer.trace ++ [.pushed scanCode] } := by
    have hpush := @between_push _ _ _ _ scanCode state.scanCodeQueue _ h.head_lt h.tail_lt
      hfree
    unfold Door.buffer
    congr 1
  rw [hstored]
  exact push scanCode

theorem inputNextIndex_ne {index : Nat} (hindex : index < inputScanCodeQueueSize) :
    inputNextIndex index ≠ index := by
  unfold inputNextIndex
  rw [next_of_lt hindex]
  have hsize : inputScanCodeQueueSize = 32 := rfl
  split_ifs <;> omega

theorem inputMakeRoom_moves (state : InputState) (scanCode : UInt8) :
    Moves state (inputStoreScanCode (inputMakeRoom state) scanCode) := by
  intro hindexed
  have hhead : state.scanCodeHead < inputScanCodeQueueSize := hindexed.head_lt
  have htail : state.scanCodeTail < inputScanCodeQueueSize := hindexed.tail_lt
  unfold inputMakeRoom
  by_cases hfull : inputNextIndex state.scanCodeHead = state.scanCodeTail
  · rw [if_pos hfull]
    have hne : state.scanCodeHead ≠ state.scanCodeTail := by
      rw [← hfull]
      exact (inputNextIndex_ne hhead).symm
    have hroom : inputNextIndex state.scanCodeHead ≠ inputNextIndex state.scanCodeTail := by
      rw [hfull]
      exact (inputNextIndex_ne htail).symm
    exact (inputDropOldest_moves hne).trans
      (inputStoreScanCode_moves scanCode hroom) hindexed
  · rw [if_neg hfull]
    exact inputStoreScanCode_moves scanCode hfull hindexed

theorem inputWatchDepth_moves (state : InputState) : Moves state (inputWatchDepth state) :=
  .quiet rfl

theorem inputQueueScanCode_moves (state : InputState) (scanCode : UInt8) :
    Moves state (inputQueueScanCode state scanCode) := by
  refine Moves.trans ?_ (inputWatchDepth_moves _)
  exact (inputMakeRoom_moves _ scanCode).after rfl

theorem vddInputPushScanCode_moves (state : InputState) (scanCode : UInt8) :
    Moves state (vddInputPushScanCode state scanCode) := by
  unfold vddInputPushScanCode
  by_cases hempty : state.scanCodeHead = state.scanCodeTail
  · rw [if_pos hempty]
    exact (inputQueueScanCode_moves state scanCode).trans (vddInputPoll_moves _)
  · rw [if_neg hempty]
    exact inputQueueScanCode_moves state scanCode

theorem inputKeyboardReply_moves (state : InputState) (reply : UInt8) :
    Moves state (inputKeyboardReply state reply) := by
  exact (vddInputPushScanCode_moves _ _).after rfl

/-! ## The doors -/

theorem vddInputAuxMove_moves (state : InputState) (dx dy : Int32) (buttons : UInt8) :
    Moves state (vddInputAuxMove state dx dy buttons).2 := by
  exact (auxQueues_moves (auxDeviceMove_queues state.aux dx dy buttons)).trans
    (inputAuxPoll_moves _)

theorem vddInputBiosFetch_moves (state : InputState) :
    Moves state (vddInputBiosFetch state).2 := by
  unfold vddInputBiosFetch
  by_cases howed : state.biosScanCodesOwed = true
  · rw [if_pos howed]
    exact .quiet rfl
  · rw [if_neg howed]
    rcases hresult : inputScanCodeAvailable state with ⟨available, next⟩
    have hdoor := available_door hresult
    cases available with
    | false => exact .quiet hdoor
    | true =>
      have hne := available_queued hresult
      exact ((inputScanCodePop_moves hne).trans (vddInputPoll_moves _)).after hdoor

theorem auxDeviceQueued_self {device : AuxDevice} (h : device.head = device.tail) :
    auxDeviceQueued device = 0 := by
  unfold auxDeviceQueued
  rw [h, if_neg (Nat.lt_irrefl _), Nat.sub_self]

/-- The mouse's byte as the port hands it out. -/
theorem auxDevicePop_of_queued {device : AuxDevice} (hqueued : auxDeviceQueued device ≠ 0) :
    auxDevicePop device =
      (slot device.queue device.tail, { device with tail := auxNext device.tail }) := by
  unfold auxDevicePop
  rw [if_neg fun hempty => hqueued (auxDeviceQueued_self hempty)]

theorem mouseBytes_of_queued {device : AuxDevice} (hindexed : AuxIndexed device)
    (hqueued : auxDeviceQueued device ≠ 0) :
    mouseBytes device = (auxDevicePop device).1 :: mouseBytes (auxDevicePop device).2 := by
  rw [auxDevicePop_of_queued hqueued]
  exact between_pop _ hindexed.head_lt hindexed.tail_lt
    fun hempty => hqueued (auxDeviceQueued_self hempty)

theorem auxDevicePop_indexed {device : AuxDevice} (hindexed : AuxIndexed device) :
    AuxIndexed (auxDevicePop device).2 := by
  unfold auxDevicePop
  split
  · exact hindexed
  · exact ⟨hindexed.head_lt, mod_lt _ (by decide)⟩

theorem inputMouseIn_moves {state : InputState} (hqueued : auxDeviceQueued state.aux ≠ 0) :
    Moves state (inputMouseIn state).2 := by
  refine Moves.trans ?_ (vddInputPoll_moves _)
  refine .single (fun h => ?_) fun h => ?_
  · exact ⟨h.head_lt, h.tail_lt, auxDevicePop_indexed h.aux⟩
  · exact @takeMouse (door state).buffer _ _ (mouseBytes_of_queued h.aux hqueued)

theorem inputKeyboardIn_moves (state : InputState) : Moves state (inputKeyboardIn state).2 := by
  unfold inputKeyboardIn
  rcases hresult : inputScanCodeAvailable state with ⟨available, next⟩
  have hdoor := available_door hresult
  cases available with
  | false =>
    refine @Moves.after _ next _ ?_ hdoor
    exact iteInduction (motive := fun held : InputState => Moves next held)
      (fun _ => .quiet rfl) fun _ => .quiet rfl
  | true =>
    have hne := available_queued hresult
    refine @Moves.after _ next _ ?_ hdoor
    exact (inputScanCodePop_moves hne).trans ((vddInputPoll_moves _).after rfl)

theorem inputSources_door (state : InputState) : door (inputSources state).2.2 = door state := by
  unfold inputSources
  rcases hresult : inputScanCodeAvailable state with ⟨available, next⟩
  have hdoor := available_door hresult
  cases available with
  | true => exact hdoor
  | false => exact (inputAuxAvailable_door next).trans hdoor

theorem inputStatusIn_moves (state : InputState) : Moves state (inputStatusIn state).2 := by
  unfold inputStatusIn
  by_cases hreply : state.isControllerReplyReady = true
  · rw [if_pos hreply]
    exact .quiet rfl
  · rw [if_neg hreply]
    exact .quiet (inputSources_door state)

theorem inputSources_aux {state : InputState} (h : (inputSources state).2.1 = true) :
    auxDeviceQueued state.aux ≠ 0 := by
  unfold inputSources at h
  rcases hresult : inputScanCodeAvailable state with ⟨available, next⟩
  rw [hresult] at h
  have hdoor := available_door hresult
  cases available with
  | true => exact absurd h Bool.false_ne_true
  | false =>
    have haux : next.aux = state.aux := congrArg Door.aux hdoor
    rw [← haux]
    exact (inputAuxAvailable_free h).1

section

variable (state : InputState)

include state

theorem inputDataIn_moves : Moves state (inputDataIn state).2 := by
  unfold inputDataIn
  by_cases hreply : state.isControllerReplyReady = true
  · rw [if_pos hreply]
    refine .single (fun h => ⟨h.head_lt, h.tail_lt, h.aux⟩) fun _ => ?_
    exact @takeReply (door state).buffer state.controllerReply
  · rw [if_neg hreply]
    refine @Moves.after _ (inputCountRead state) _ ?_ rfl
    generalize inputCountRead state = state
    have hdoor := inputSources_door state
    rcases hresult : inputSources state with ⟨isFull, isAux, next⟩
    rw [hresult] at hdoor
    refine @Moves.after _ next _ ?_ hdoor
    cases isAux with
    | false => exact inputKeyboardIn_moves next
    | true =>
      have hqueued : auxDeviceQueued state.aux ≠ 0 := inputSources_aux (by rw [hresult])
      rw [← show next.aux = state.aux from congrArg Door.aux hdoor] at hqueued
      exact inputMouseIn_moves hqueued

theorem inputKeyboardPortIn_moves (port : UInt16) :
    Moves state (inputKeyboardPortIn state port).2 := by
  exact iteInduction (motive := fun result : UInt32 × InputState => Moves state result.2)
    (fun _ => inputStatusIn_moves state) fun _ => inputDataIn_moves state

variable (value : UInt8)

theorem inputControllerOut_moves : Moves state (inputControllerOut state value) := by
  unfold inputControllerOut
  iterate 6 refine iteInduction (fun _ => .quiet rfl) fun _ => ?_
  refine iteInduction (fun _ => (vddInputPoll_moves _).after rfl) fun _ => ?_
  iterate 3 refine iteInduction (fun _ => .quiet rfl) fun _ => ?_
  refine iteInduction (fun _ => (inputAuxPoll_moves _).after rfl) fun _ => ?_
  exact iteInduction (fun _ => .quiet rfl) fun _ => .quiet rfl

theorem inputKeyboardCommand_moves : Moves state (inputKeyboardCommand state value) := by
  unfold inputKeyboardCommand
  refine iteInduction (fun _ => inputKeyboardReply_moves _ _) fun _ => ?_
  refine iteInduction (fun _ => ?identify) fun _ => ?_
  case identify =>
    exact ((inputKeyboardReply_moves state _).trans (inputKeyboardReply_moves _ _)).trans
      (inputKeyboardReply_moves _ _)
  iterate 3 refine iteInduction (fun _ => (inputKeyboardReply_moves _ _).after rfl) fun _ => ?_
  refine iteInduction (fun _ => inputKeyboardReply_moves _ _) fun _ => ?_
  refine iteInduction (fun _ => ?reset) fun _ => inputKeyboardReply_moves _ _
  case reset =>
    refine Moves.trans ?_ (inputKeyboardReply_moves _ _)
    exact (inputKeyboardReply_moves _ _).after rfl

theorem inputKeyboardOut_moves : Moves state (inputKeyboardOut state value) := by
  unfold inputKeyboardOut
  iterate 3 refine iteInduction (fun _ => (inputKeyboardReply_moves _ _).after rfl) fun _ => ?_
  exact (inputKeyboardCommand_moves _ _).after rfl

theorem inputDataOut_moves : Moves state (inputDataOut state value) := by
  refine iteInduction (fun _ => ?commandByte) fun _ => ?_
  case commandByte =>
    refine Moves.trans ?_ (inputAuxPoll_moves _)
    exact (vddInputPoll_moves _).after rfl
  refine iteInduction (fun _ => ?mouse) fun _ => ?_
  case mouse =>
    exact ((auxQueues_moves (auxDeviceWrite_queues state.aux value)).trans
      ((inputAuxPoll_moves _).after rfl))
  refine iteInduction (fun _ => (vddInputPushScanCode_moves _ _).after rfl) fun _ => ?_
  exact iteInduction (fun _ => .quiet rfl) fun _ => inputKeyboardOut_moves state value

theorem inputKeyboardPortOut_moves (port : UInt16) (value : UInt32) :
    Moves state (inputKeyboardPortOut state port value) := by
  unfold inputKeyboardPortOut
  refine iteInduction (fun _ => ?command) fun _ => ?data
  case command => exact (inputControllerOut_moves _ _).after rfl
  case data => exact (inputDataOut_moves _ _).after rfl

theorem inputOperate_moves (operation : InputOperation) :
    Moves state (inputOperate state operation) := by
  cases operation with
  | pushScanCode scanCode => exact vddInputPushScanCode_moves state scanCode
  | auxMove dx dy buttons => exact vddInputAuxMove_moves state dx dy buttons
  | poll => exact vddInputPoll_moves state
  | biosFetch => exact vddInputBiosFetch_moves state
  | portIn port => exact inputKeyboardPortIn_moves state port
  | portOut port value => exact inputKeyboardPortOut_moves state port value

end

end Ntvdmex.Vdd.Input
