import Ntvdmex.Vdd.Proofs.Dma.Stream

/-!
# Blocks and copies

What a transfer that the controllers carry out leaves: of its channels, of the request
registers and of memory.
-/

namespace Ntvdmex.Vdd.Dma

open Function DmaState DmaChannel List

local instance neZeroBlock2 : NeZero 2 := ⟨by decide⟩
local instance neZeroBlock8 : NeZero 8 := ⟨by decide⟩

variable (count : UInt16) (rounds : Nat) (state : DmaState) (memory : LinearMemory)

/-! ## Which requests are served -/

def IsCopying (state : DmaState) : Prop := state.command 0 &&& dmaCommandMemoryToMemory ≠ 0
deriving Decidable

def IsConnected (state : DmaState) (controller : Fin 2) : Prop :=
  state.command controller &&& dmaCommandDisable = 0 ∧
    (controller = 0 → dmaIsCascadeUp state = true)
deriving Decidable

def DmaState.isRequested (state : DmaState) (n : Fin 8) : Prop :=
  state.request (controllerOf n) &&& lineBit n ≠ 0
deriving Decidable

/-- The channel has a request that its controller serves: the channel is neither the cascade
nor in cascade mode, and not channel 1 while that belongs to the copy. -/
def IsServable (state : DmaState) (n : Fin 8) : Prop :=
  state.isRequested n ∧ IsConnected state (controllerOf n) ∧ n ≠ dmaCascadeChannel ∧
    (state.channels n).mode &&& dmaModeSelect ≠ dmaModeSelect ∧ ¬(n = 1 ∧ IsCopying state)
deriving Decidable

/-- The request on channel 0 starts a copy. -/
def CopyServed (state : DmaState) : Prop := IsServable state 0 ∧ IsCopying state
deriving Decidable

/-! ## One channel served -/

@[simp] theorem DmaState.setChannel_request (n : Fin 8) (channel : DmaChannel) :
    (state.setChannel n channel).request = state.request := rfl

@[simp] theorem DmaState.setRequest_self (controller : Fin 2) (value : UInt8) :
    (state.setRequest controller value).request controller = value :=
  update_self ..

@[simp] theorem DmaState.setRequest_of_ne {controller other : Fin 2} (h : other ≠ controller)
    (value : UInt8) : (state.setRequest controller value).request other = state.request other :=
  update_of_ne h ..

variable {n : Fin 8}

def afterBlock (state : DmaState) (n : Fin 8) : DmaState :=
  (state.setChannel n
      ((state.channels n).walk ((state.channels n).currentCount.toNat + 1))).setRequest
    (controllerOf n) (state.request (controllerOf n) &&& ~~~ lineBit n)

theorem dmaWalk_of_le {units : Nat} (h : units ≤ (state.channels n).currentCount.toNat) :
    dmaWalk n units state = state.setChannel n ((state.channels n).walk units) := by
  induction units with
  | zero =>
    exact (congrArg (fun channels => { state with channels })
      (update_eq_self n state.channels)).symm
  | succ units ih =>
    have hcount := ((state.channels n).walk_of_le (by lia : units ≤ _)).2
    have hpos :
        ((state.setChannel n ((state.channels n).walk units)).channels n).currentCount ≠ 0 := by
      rw [setChannel_self]
      intro hzero
      rw [hzero, UInt16.toNat_zero] at hcount
      lia
    have hsucc : dmaWalk n (units + 1) state = (dmaAdvance (dmaWalk n units state) n).1 :=
      iterate_succ_apply' _ _ _
    rw [hsucc, ih (by lia)]
    unfold dmaAdvance
    rw [if_neg hpos, setChannel_self, walk_succ']
    unfold setChannel
    rw [update_idem]

theorem dmaWalk_block :
    dmaWalk n ((state.channels n).currentCount.toNat + 1) state = afterBlock state n := by
  have hsucc : dmaWalk n ((state.channels n).currentCount.toNat + 1) state =
      (dmaAdvance (dmaWalk n (state.channels n).currentCount.toNat state) n).1 :=
    iterate_succ_apply' _ _ _
  have hcount := ((state.channels n).walk_of_le le_rfl).2
  have hzero : ((state.channels n).walk (state.channels n).currentCount.toNat).currentCount = 0 :=
    UInt16.toNat_inj.mp (by rw [hcount, Nat.sub_self, UInt16.toNat_zero])
  rw [hsucc, dmaWalk_of_le state le_rfl]
  unfold dmaAdvance afterBlock
  rw [setChannel_self, if_pos hzero, walk_succ']
  unfold setChannel
  rw [update_idem]

/-- Channel 0 after a copy of `units` bytes. -/
def copiedChannel0 (state : DmaState) (units : Nat) : DmaChannel :=
  let moved :=
    if state.command 0 &&& dmaCommandAddressHold = 0 then (state.channels 0).moved units
    else state.channels 0
  if moved.hasMode dmaModeAutoinit then
    { moved with currentAddress := moved.baseAddress, currentCount := moved.baseCount }
  else { moved with isMasked := true }

/-- What a copy leaves of the registers it does not walk. -/
structure SameButCopy (state state' : DmaState) : Prop where
  command : state'.command = state.command
  flipFlop : state'.flipFlop = state.flipFlop
  sparePage : state'.sparePage = state.sparePage
  request : state'.request = state.request
  channels : ∀ m : Fin 8, m ≠ 0 → m ≠ 1 → state'.channels m = state.channels m

theorem SameButCopy.trans {first second third : DmaState} (h : SameButCopy first second)
    (h' : SameButCopy second third) : SameButCopy first third where
  command := h'.command.trans h.command
  flipFlop := h'.flipFlop.trans h.flipFlop
  sparePage := h'.sparePage.trans h.sparePage
  request := h'.request.trans h.request
  channels m h0 h1 := (h'.channels m h0 h1).trans (h.channels m h0 h1)

theorem sameButCopy_setChannel {m : Fin 8} (hm : m = 0 ∨ m = 1) (channel : DmaChannel)
    : SameButCopy state (state.setChannel m channel) where
  command := rfl
  flipFlop := rfl
  sparePage := rfl
  request := rfl
  channels other h0 h1 :=
    setChannel_of_ne state (by rcases hm with rfl | rfl <;> assumption) channel

theorem dmaCopyStep_same (value : UInt8) : SameButCopy state (dmaCopyStep state value) := by
  have htemporary : ∀ s : DmaState, SameButCopy s
      { s with temporary := update state.temporary 0 value } :=
    fun s => ⟨rfl, rfl, rfl, rfl, fun _ _ _ => rfl⟩
  unfold dmaCopyStep
  refine SameButCopy.trans ?_ (htemporary _)
  split
  · exact (sameButCopy_setChannel state (Or.inl rfl) _).trans
      (sameButCopy_setChannel _ (Or.inr rfl) _)
  · exact sameButCopy_setChannel state (Or.inr rfl) _

theorem dmaCopyLoop_same : SameButCopy state (dmaCopyLoop rounds state memory).1 := by
  induction rounds generalizing state memory with
  | zero => exact ⟨rfl, rfl, rfl, rfl, fun _ _ _ => rfl⟩
  | succ rounds ih =>
    unfold dmaCopyLoop
    dsimp only
    split
    · exact dmaCopyStep_same state _
    · exact ((dmaCopyStep_same state _).trans (sameButCopy_setChannel _ (Or.inr rfl) _)).trans
        (ih _ _)

theorem currentCount_lt_max : count.toNat < dmaMaxTransfers := by
  have hcount := count.toNat_lt
  unfold dmaMaxTransfers
  omega

/-- The registers after a copy. -/
theorem dmaMemoryToMemory_registers (state : DmaState) (memory : LinearMemory) :
    let served := (dmaMemoryToMemory state memory).1
    let units := (state.channels 1).currentCount.toNat + 1
    served.command = state.command ∧ served.flipFlop = state.flipFlop ∧
      served.sparePage = state.sparePage ∧ served.request 1 = state.request 1 ∧
      served.request 0 = state.request 0 &&& ~~~ 0x03 ∧
      served.channels 0 = copiedChannel0 state units ∧
      served.channels 1 = (state.channels 1).walk units ∧
      ∀ m : Fin 8, m ≠ 0 → m ≠ 1 → served.channels m = state.channels m := by
  obtain ⟨h1, h0⟩ := dmaCopyLoop_walk dmaMaxTransfers state memory (currentCount_lt_max _)
  have hsame := dmaCopyLoop_same dmaMaxTransfers state memory
  unfold dmaMemoryToMemory dmaCopyEnd
  refine ⟨hsame.command, hsame.flipFlop, hsame.sparePage, ?_, ?_, ?_, ?_, ?_⟩
  · rw [setChannel_request, setChannel_request,
      setRequest_of_ne _ (by decide), hsame.request]
  · rw [setChannel_request, setChannel_request, setRequest_self,
      hsame.request]
  · rw [setChannel_of_ne _ (by decide), setChannel_self]
    exact congrArg (fun moved : DmaChannel =>
      if moved.hasMode dmaModeAutoinit then
        { moved with currentAddress := moved.baseAddress, currentCount := moved.baseCount }
      else { moved with isMasked := true }) h0
  · rw [setChannel_self, h1]
    by_cases hauto : (state.channels 1).hasMode dmaModeAutoinit = true
    · rw [walk_reload _ hauto]
      exact if_pos hauto
    · rw [walk_single _ hauto]
      exact if_neg hauto
  · intro m hm0 hm1
    rw [setChannel_of_ne _ hm1, setChannel_of_ne _ hm0]
    exact hsame.channels m hm0 hm1

/-! ## Memory -/

/-- Where the `k`-th unit from the current address on lies. -/
def currentUnit (state : DmaState) (n : Fin 8) (k : Nat) : Nat :=
  let channel := state.channels n
  let address := (channel.stepBy channel.currentAddress k).toNat
  if IsByteChannel n then channel.page.toNat * 65536 + address
  else channel.page.toNat / 2 * 131072 + address * 2

theorem currentUnit_zero : vddDmaCurrentPhysical state n = currentUnit state n 0 := by
  unfold vddDmaCurrentPhysical currentUnit
  dsimp only
  rw [bytePhysical_eq, wordPhysical_eq, stepBy_zero]

theorem currentUnit_congr {state state' : DmaState} (h : state'.channels n = state.channels n)
    (k : Nat) : currentUnit state' n k = currentUnit state n k := by
  unfold currentUnit
  rw [h]

theorem currentUnit_moved {state state' : DmaState}
    (h : state'.channels n = ((state.channels n).moved 1).withCount count) (k : Nat) :
    currentUnit state' n k = currentUnit state n (k + 1) := by
  have haddress : (state'.channels n).stepBy (state'.channels n).currentAddress k =
      (state.channels n).stepBy (state.channels n).currentAddress (k + 1) := by
    rw [h, moved_one, stepBy_succ]
    rfl
  have hpage : (state'.channels n).page = (state.channels n).page := by
    rw [h]
    rfl
  unfold currentUnit
  dsimp only
  rw [haddress, hpage]

/-- A cycle that memory sees only inside the VDM. -/
def limitedLoad (bytes : Nat → UInt8) (linear : Nat) : UInt8 :=
  if linear < dmaPhysicalLimit then bytes linear else dmaFloatingByte

def limitedStore (bytes : Nat → UInt8) (linear : Nat) (value : UInt8) : Nat → UInt8 :=
  if linear < dmaPhysicalLimit then Function.update bytes linear value else bytes

def floatUnit (n : Fin 8) (bytes : Nat → UInt8) (linear : Nat) : Nat → UInt8 :=
  if linear < dmaPhysicalLimit then
    storeUnit bytes linear (fun _ => dmaFloatingByte) (unitBytes n)
  else bytes

def blockBytes (state : DmaState) (bytes : Nat → UInt8) (n : Fin 8) : Nat → UInt8 :=
  if (state.channels n).mode &&& dmaModeTransfer = dmaModeTransferWrite then
    (List.range ((state.channels n).currentCount.toNat + 1)).foldl
      (fun bytes k => floatUnit n bytes (currentUnit state n k)) bytes
  else bytes

/-- Where byte `i` of a copy is read: along channel 0, or always at its address. -/
def copySource (state : DmaState) (i : Nat) : Nat :=
  currentUnit state 0 (if state.command 0 &&& dmaCommandAddressHold = 0 then i else 0)

/-- Memory after a copy: byte `i` of channel 0 to byte `i` of channel 1, one after another. -/
def copyBytes (state : DmaState) (bytes : Nat → UInt8) : Nat → UInt8 :=
  (List.range ((state.channels 1).currentCount.toNat + 1)).foldl
    (fun bytes i =>
      limitedStore bytes (currentUnit state 1 i) (limitedLoad bytes (copySource state i))) bytes

theorem dmaMemory_eq (physical : Nat) :
    dmaMemory physical = if physical < dmaPhysicalLimit then some physical else none := by
  unfold dmaMemory
  by_cases h : physical < dmaPhysicalLimit
  · rw [if_pos h, if_neg (by omega)]
  · rw [if_neg h, if_pos (by omega)]

theorem floatUnit_eq (linear : Nat) :
    (match dmaMemory linear with
      | some linear => storeBytes memory linear (fun _ => dmaFloatingByte) (unitBytes n)
      | none => memory).bytes = floatUnit n memory.bytes linear := by
  unfold floatUnit
  rw [dmaMemory_eq]
  by_cases h : linear < dmaPhysicalLimit
  · rw [if_pos h, if_pos h]
    exact storeBytes_bytes ..
  · rw [if_neg h, if_neg h]

theorem dmaSoftwareBlock_bytes (hrounds : (state.channels n).currentCount.toNat < rounds) :
    (dmaSoftwareBlock n rounds state memory).2.bytes = blockBytes state memory.bytes n := by
  induction rounds generalizing state memory with
  | zero => exact absurd hrounds (Nat.not_lt_zero _)
  | succ rounds ih =>
    have hfloat := floatUnit_eq (n := n) memory (vddDmaCurrentPhysical state n)
    rw [currentUnit_zero] at hfloat
    have hmode : ((dmaAdvance state n).1.channels n).mode = (state.channels n).mode := by
      rw [dmaAdvance_channel, advance_mode]
    unfold dmaSoftwareBlock blockBytes
    rw [currentUnit_zero]
    by_cases hzero : (state.channels n).currentCount = 0
    · rw [if_pos ((dmaAdvance_terminal state n).mpr hzero), hzero]
      by_cases hwrite : (state.channels n).mode &&& dmaModeTransfer = dmaModeTransferWrite
      · rw [if_pos hwrite, if_pos hwrite]
        exact hfloat
      · rw [if_neg hwrite, if_neg hwrite]
    · have hpos := toNat_ne_zero hzero
      have hadvanced : (dmaAdvance state n).1.channels n =
          ((state.channels n).moved 1).withCount ((state.channels n).currentCount - 1) := by
        rw [dmaAdvance_channel, advance_of_pos hzero, moved_one]
        rfl
      have hcount : ((dmaAdvance state n).1.channels n).currentCount.toNat + 1 =
          (state.channels n).currentCount.toNat := by
        rw [dmaAdvance_channel, advance_currentCount hzero]
        lia
      have hrest := ih (dmaAdvance state n).1
      rw [if_neg fun h => hzero ((dmaAdvance_terminal state n).mp h), hrest _ (by lia)]
      unfold blockBytes
      rw [hmode, hcount]
      by_cases hwrite : (state.channels n).mode &&& dmaModeTransfer = dmaModeTransferWrite
      · simp only [if_pos hwrite, range_succ_eq_map, foldl_cons, foldl_map]
        refine (congrArg (fun bytes => (range (state.channels n).currentCount.toNat).foldl
          (fun bytes k => floatUnit n bytes (currentUnit (dmaAdvance state n).1 n k)) bytes)
          hfloat).trans ?_
        simp only [currentUnit_moved _ hadvanced, Nat.succ_eq_add_one]
      · simp only [if_neg hwrite]

theorem dmaCopyByte_bytes :
    (dmaCopyByte state memory).2.bytes =
      limitedStore memory.bytes (currentUnit state 1 0)
        (limitedLoad memory.bytes (currentUnit state 0 0)) := by
  unfold dmaCopyByte limitedStore limitedLoad
  rw [dmaMemory_eq, dmaMemory_eq, currentUnit_zero, currentUnit_zero]
  by_cases hsource : currentUnit state 0 0 < dmaPhysicalLimit
  · by_cases htarget : currentUnit state 1 0 < dmaPhysicalLimit
    · rw [if_pos hsource, if_pos htarget, if_pos hsource, if_pos htarget]
      rfl
    · rw [if_pos hsource, if_neg htarget, if_neg htarget]
      rfl
  · by_cases htarget : currentUnit state 1 0 < dmaPhysicalLimit
    · rw [if_neg hsource, if_pos htarget, if_neg hsource, if_pos htarget]
      rfl
    · rw [if_neg hsource, if_neg htarget, if_neg htarget]

theorem dmaCopyLoop_bytes (hrounds : (state.channels 1).currentCount.toNat < rounds) :
    (dmaCopyLoop rounds state memory).2.bytes = copyBytes state memory.bytes := by
  induction rounds generalizing state memory with
  | zero => exact absurd hrounds (Nat.not_lt_zero _)
  | succ rounds ih =>
    have hcopied := dmaCopyByte_bytes state memory
    have hfirst : copySource state 0 = currentUnit state 0 0 := by
      unfold copySource
      rw [ite_self]
    unfold dmaCopyLoop copyBytes
    dsimp only
    rw [dmaCopyStep_channel1, show ((state.channels 1).moved 1).currentCount =
      (state.channels 1).currentCount from rfl]
    generalize hvalue : (dmaCopyByte state memory).1 = value
    by_cases hzero : (state.channels 1).currentCount = 0
    · rw [if_pos hzero, hzero, hcopied, UInt16.toNat_zero, range_one, foldl_cons,
        foldl_nil, hfirst]
    · have hpos := toNat_ne_zero hzero
      rw [if_neg hzero]
      set next := (dmaCopyStep state value).setChannel 1
        (((state.channels 1).moved 1).withCount ((state.channels 1).currentCount - 1)) with hnext
      have hchannel1 : next.channels 1 =
          ((state.channels 1).moved 1).withCount ((state.channels 1).currentCount - 1) :=
        setChannel_self ..
      have hchannel0 : next.channels 0 = (dmaCopyStep state value).channels 0 :=
        setChannel_of_ne _ (by decide) _
      have hcount : (next.channels 1).currentCount.toNat + 1 =
          (state.channels 1).currentCount.toNat := by
        rw [hchannel1]
        change ((state.channels 1).currentCount - 1).toNat + 1 = _
        rw [toNat_sub_one hzero]
        lia
      have hcommand : next.command = state.command := dmaCopyStep_command state value
      have hsource : ∀ i, copySource next i = copySource state (i + 1) := by
        intro i
        unfold copySource
        rw [hcommand]
        rw [dmaCopyStep_channel0] at hchannel0
        by_cases hheld : state.command 0 &&& dmaCommandAddressHold = 0
        · rw [if_pos hheld, if_pos hheld]
          rw [if_pos hheld] at hchannel0
          exact currentUnit_moved (state.channels 0).currentCount hchannel0 i
        · rw [if_neg hheld, if_neg hheld]
          rw [if_neg hheld] at hchannel0
          exact currentUnit_congr hchannel0 0
      have hrest := ih next (dmaCopyByte state memory).2 (by lia)
      change (dmaCopyLoop rounds next (dmaCopyByte state memory).2).2.bytes = _
      rw [hrest, hcopied]
      unfold copyBytes
      rw [hcount]
      simp only [range_succ_eq_map, foldl_cons, foldl_map, hsource,
        currentUnit_moved _ hchannel1, Nat.succ_eq_add_one, hfirst]

theorem limitedLoad_store {bytes : Nat → UInt8} {source linear : Nat} {value : UInt8}
    (hvalue : limitedLoad bytes source = value) :
    limitedLoad (limitedStore bytes linear value) source = value := by
  unfold limitedLoad limitedStore at *
  split_ifs at hvalue ⊢ with hsource htarget
  · by_cases hsame : source = linear
    · rw [hsame, update_self]
    · rw [update_of_ne hsame, hvalue]
  · exact hvalue
  · exact hvalue

/-- From one source byte, each round stores the same value: none of them changes it. -/
theorem foldl_store_fixed {bytes : Nat → UInt8} {source : Nat} (target : Nat → Nat)
    (rounds : List Nat) {written : Nat → UInt8}
    (hwritten : limitedLoad written source = limitedLoad bytes source) :
    rounds.foldl (fun written i => limitedStore written (target i)
        (limitedLoad written source)) written =
      rounds.foldl (fun written i => limitedStore written (target i)
        (limitedLoad bytes source)) written := by
  induction rounds generalizing written with
  | nil => rfl
  | cons i rounds ih =>
    rw [foldl_cons, foldl_cons, hwritten]
    exact ih (limitedLoad_store hwritten)

theorem copyBytes_held {state : DmaState}
    (hheld : ¬state.command 0 &&& dmaCommandAddressHold = 0) (bytes : Nat → UInt8) :
    copyBytes state bytes =
      (range ((state.channels 1).currentCount.toNat + 1)).foldl
        (fun written i => limitedStore written (currentUnit state 1 i)
          (limitedLoad bytes (currentUnit state 0 0))) bytes := by
  unfold copyBytes copySource
  simp only [if_neg hheld]
  exact foldl_store_fixed _ _ rfl

end Ntvdmex.Vdd.Dma
