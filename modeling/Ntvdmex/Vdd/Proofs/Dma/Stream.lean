import Ntvdmex.Vdd.Proofs.Dma.Limit

/-!
# A channel as a stream

Where each unit of a block lies, what terminal count does to the channel, and that a transfer
may be cut into calls anywhere.
-/

namespace Ntvdmex.Vdd.Dma

open DmaChannel List Nat Or Function DmaProgress

variable {units first k byteCount : Nat} {state : DmaState} {progress : DmaProgress}
variable (channel : DmaChannel) (source : Option (Nat → UInt8))

theorem DmaChannel.walk_single (hauto : ¬channel.hasMode dmaModeAutoinit = true) :
    channel.walk (channel.currentCount.toNat + 1) =
      { channel with
        isTerminalCount := true
        currentAddress := channel.stepBy channel.currentAddress (channel.currentCount.toNat + 1)
        currentCount := dmaCountExpired
        isMasked := true } := by
  generalize hcount : channel.currentCount.toNat = count
  induction count generalizing channel with
  | zero =>
    have hzero : channel.currentCount = 0 :=
      UInt16.toNat_inj.mp (hcount.trans UInt16.toNat_zero.symm)
    have hauto' : ¬{ channel with currentAddress := channel.stepAddress }.hasMode
        dmaModeAutoinit = true := hauto
    rw [walk_succ, advance_of_zero hzero, stepBy_succ, stepBy_zero]
    unfold expire
    rw [if_neg hauto']
    rfl
  | succ count ih =>
    have hpos : channel.currentCount ≠ 0 := by
      intro hzero
      rw [hzero] at hcount
      simp at hcount
    have hleft := toNat_sub_one hpos
    rw [walk_succ, advance_of_pos hpos]
    rw [ih { channel with
      currentAddress := channel.stepAddress
      currentCount := channel.currentCount - 1 } hauto (by dsimp only; lia)]
    rw [stepBy_succ channel channel.currentAddress]
    rfl

theorem DmaChannel.walk_isMasked
    (h : channel.hasMode dmaModeAutoinit = true ∨ units ≤ channel.currentCount.toNat) :
    (channel.walk units).isMasked = channel.isMasked := by
  induction units with
  | zero => rfl
  | succ units ih =>
    rw [walk_succ', ← ih (h.imp_right fun hle => by lia)]
    unfold advance
    split
    · next hzero =>
      rcases h with hauto | hle
      · have hmode : { channel.walk units with
            currentAddress := (channel.walk units).stepAddress }.hasMode dmaModeAutoinit = true :=
          (hasMode_eq (walk_mode channel units) _).trans hauto
        unfold expire
        rw [if_pos hmode]
      · have hcount := (channel.walk_of_le (by lia : units ≤ _)).2
        rw [hzero, UInt16.toNat_zero] at hcount
        lia
    · rfl

variable {n : Fin 8}

theorem vddDmaGrants_of_isMasked {state' : DmaState} (hcascade : n ≠ dmaCascadeChannel)
    (hstate : state' = dmaWalk n units state)
    (hmasked : (state'.channels n).isMasked = (state.channels n).isMasked) :
    vddDmaGrants state' n = vddDmaGrants state n := by
  unfold vddDmaGrants dmaControllerGrants dmaIsCascadeUp
  rw [hmasked, hstate, dmaWalk_channel_ne hcascade.symm, dmaWalk_command]

theorem vddDmaGrants_masked (h : (state.channels n).isMasked = true) :
    vddDmaGrants state n = false := by
  unfold vddDmaGrants dmaControllerGrants
  rw [h]
  rfl

/-! ## Cutting a transfer into calls -/

/-- The units of a transfer of two calls' bytes: those of the first call, and what the second
then moves. -/
theorem unitsMoved_add (hcascade : n ≠ dmaCascadeChannel) (hgrants : vddDmaGrants state n = true)
    {second : Nat} (hfirst : unitBytes n ∣ first) (hsecond : unitBytes n ∣ second) :
    unitsMoved state n (first + second) =
      unitsMoved state n first +
        unitsMoved (dmaWalk n (unitsMoved state n first) state) n second := by
  obtain ⟨a, rfl⟩ := hfirst
  obtain ⟨b, rfl⟩ := hsecond
  have hunit := unitBytes_pos n
  have hmode : ∀ units, ((dmaWalk n units state).channels n).hasMode dmaModeAutoinit =
      (state.channels n).hasMode dmaModeAutoinit := by
    intro units
    rw [dmaWalk_channel]
    exact hasMode_eq (walk_mode _ _) _
  unfold unitsMoved unitsWithin
  rw [if_pos hgrants, if_pos hgrants, ← Nat.mul_add, Nat.mul_div_cancel_left _ hunit,
    Nat.mul_div_cancel_left _ hunit, Nat.mul_div_cancel_left _ hunit, hmode]
  by_cases hauto : (state.channels n).hasMode dmaModeAutoinit = true
  · simp only [if_pos hauto]
    have hkept : vddDmaGrants (dmaWalk n a state) n = true :=
      (vddDmaGrants_of_isMasked hcascade rfl (by
        rw [dmaWalk_channel]
        exact walk_isMasked _ (inl hauto))).trans hgrants
    rw [if_pos hkept]
  · simp only [if_neg hauto]
    by_cases hinside : a ≤ (state.channels n).currentCount.toNat
    · have hmin : min a ((state.channels n).currentCount.toNat + 1) = a := by lia
      have hkept : vddDmaGrants (dmaWalk n a state) n = true :=
        (vddDmaGrants_of_isMasked hcascade rfl (by
          rw [dmaWalk_channel]
          exact walk_isMasked _ (inr hinside))).trans hgrants
      rw [hmin, if_pos hkept, dmaWalk_channel, ((state.channels n).walk_of_le hinside).2]
      lia
    · have hmin : min a ((state.channels n).currentCount.toNat + 1) =
          (state.channels n).currentCount.toNat + 1 := by lia
      have hlost : ¬vddDmaGrants
          (dmaWalk n ((state.channels n).currentCount.toNat + 1) state) n = true := by
        rw [vddDmaGrants_masked]
        · decide
        · rw [dmaWalk_channel, walk_single _ hauto]
      rw [hmin, if_neg hlost]
      lia

/-- What two calls, one after the other, moved. -/
def DmaProgress.followedBy (first second : DmaProgress) : DmaProgress :=
  { second with
    destination := first.destination ++ second.destination
    transferred := first.transferred + second.transferred
    isTerminalCount := first.isTerminalCount || second.isTerminalCount }

def DmaProgress.andThen (first : DmaProgress)
    (call : DmaState → LinearMemory → DmaProgress) : DmaProgress :=
  first.followedBy (call first.state first.memory)

/-- A source from `offset` on. -/
def sourceFrom (source : Option (Nat → UInt8)) (offset : Nat) : Option (Nat → UInt8) :=
  source.map fun bytes i => bytes (offset + i)

theorem dmaStep_followedBy (first second : DmaProgress) :
    (dmaStep n source (first.followedBy second)).1 =
      first.followedBy (dmaStep n (sourceFrom source first.transferred) second).1 := by
  cases source with
  | none =>
    unfold dmaStep followedBy sourceFrom
    simp only [Option.map_none, append_assoc, Nat.add_assoc, Bool.or_assoc]
  | some bytes =>
    unfold dmaStep followedBy sourceFrom
    simp only [Option.map_some, Nat.add_assoc, Bool.or_assoc]

theorem dmaUnits_followedBy (units : Nat) (first : DmaProgress) : dmaUnits n source units first =
      first.followedBy (dmaUnits n (sourceFrom source first.transferred) units
        (transferStart first.state first.memory)) := by
  induction units with
  | zero =>
    unfold followedBy transferStart
    simp [dmaUnits]
  | succ units ih => rw [dmaUnits_succ', ih, dmaStep_followedBy, dmaUnits_succ']

theorem dmaUnits_add (first second : Nat) (progress : DmaProgress) :
    dmaUnits n source (first + second) progress =
      dmaUnits n source second (dmaUnits n source first progress) := by
  unfold dmaUnits
  rw [Nat.add_comm, iterate_add_apply]

/-- A call of `first + second` bytes is a call of `first` and then one of `second`. -/
theorem dmaTransfer_add (hcascade : n ≠ dmaCascadeChannel) (hgrants : vddDmaGrants state n = true)
    (memory : LinearMemory) (source : Option (Nat → UInt8)) {second : Nat}
    (hfirst : unitBytes n ∣ first) (hsecond : unitBytes n ∣ second) :
    dmaTransfer state memory n source (first + second) =
      let moved := dmaTransfer state memory n source first
      moved.followedBy
        (dmaTransfer moved.state moved.memory n (sourceFrom source first) second) := by
  have hmoved : (dmaTransfer state memory n source first).state =
      dmaWalk n (unitsMoved state n first) state := by
    rw [dmaTransfer_eq, dmaUnits_state]
    rfl
  dsimp only
  rw [dmaTransfer_eq state memory n source (first + second),
    unitsMoved_add hcascade hgrants hfirst hsecond, dmaUnits_add, ← dmaTransfer_eq,
    dmaUnits_followedBy, dmaTransfer_eq _ _ n _ second, hmoved]
  -- The second call gets the buffer from `first` on; where the first moved less, it moves none.
  by_cases hall : unitsMoved state n first * unitBytes n = first
  · have htransferred : (dmaTransfer state memory n source first).transferred = first := by
      rw [dmaTransfer_eq, dmaUnits_transferred]
      exact (Nat.zero_add _).trans hall
    rw [htransferred]
  · have hnone : unitsMoved (dmaWalk n (unitsMoved state n first) state) n second = 0 := by
      obtain ⟨a, rfl⟩ := hfirst
      have hunit := unitBytes_pos n
      unfold unitsMoved unitsWithin at hall ⊢
      rw [if_pos hgrants, Nat.mul_div_cancel_left _ hunit] at hall
      by_cases hauto : (state.channels n).hasMode dmaModeAutoinit = true
      · rw [if_pos hauto] at hall
        exact absurd (Nat.mul_comm _ _) hall
      · have hpast : ¬a ≤ (state.channels n).currentCount.toNat + 1 := by
          intro hle
          rw [if_neg hauto, Nat.min_eq_left hle] at hall
          exact hall (Nat.mul_comm _ _)
        have hunits : (if vddDmaGrants state n = true then
            if (state.channels n).hasMode dmaModeAutoinit = true then
              unitBytes n * a / unitBytes n
            else min (unitBytes n * a / unitBytes n) ((state.channels n).currentCount.toNat + 1)
            else 0) = (state.channels n).currentCount.toNat + 1 := by
          rw [if_pos hgrants, if_neg hauto, Nat.mul_div_cancel_left _ hunit]
          omega
        rw [hunits]
        apply if_neg
        rw [vddDmaGrants_masked]
        · decide
        · rw [dmaWalk_channel, walk_single _ hauto]
    rw [hnone]
    rfl

/-! ## Where the units lie -/

def DmaChannel.IsProgrammed (channel : DmaChannel) : Prop :=
  channel.currentAddress = channel.baseAddress ∧ channel.currentCount = channel.baseCount
deriving Decidable

/-- The address register of the `k`-th unit of a block, round the 65536 units of the page; a
ring comes back to its base after `baseCount + 1` units. -/
def DmaChannel.blockUnit (channel : DmaChannel) (k : Nat) : Nat :=
  let round : Int := (k % (channel.baseCount.toNat + 1) : Nat)
  let address : Int := channel.baseAddress.toNat
  ((if channel.hasMode dmaModeDecrement then address - round else address + round) % 65536).toNat

/-- The linear address of the `k`-th unit of a block: a byte in a page of 64K, or a word in a
page of 128K. -/
def blockAddress (state : DmaState) (n : Fin 8) (k : Nat) : Nat :=
  let channel := state.channels n
  if IsByteChannel n then channel.page.toNat * 65536 + channel.blockUnit k
  else channel.page.toNat / 2 * 131072 + channel.blockUnit k * 2

theorem DmaChannel.stepBy_toNat (address : UInt16) (h : units < 65536) :
    (channel.stepBy address units).toNat =
      ((if channel.hasMode dmaModeDecrement then (address.toNat : Int) - units
        else address.toNat + units) % 65536).toNat := by
  unfold stepBy
  split
  · rw [UInt16.toNat_sub, UInt16.toNat_ofNat_of_lt' h]
    lia
  · rw [UInt16.toNat_add, UInt16.toNat_ofNat_of_lt' h]
    lia

theorem DmaChannel.walkAddress_programmed {channel : DmaChannel} (h : channel.IsProgrammed)
    (k : Nat) :
    channel.walkAddress k =
      channel.stepBy channel.baseAddress (k % (channel.baseCount.toNat + 1)) := by
  unfold walkAddress
  rw [h.1, h.2]
  by_cases hle : k ≤ channel.baseCount.toNat
  · rw [if_pos hle, mod_eq_of_lt (by omega)]
  · rw [if_neg hle, Nat.sub_sub, ← mod_eq_sub_mod (by omega)]

theorem physical_block (h : (state.channels n).IsProgrammed)
    (hk : (state.channels n).hasMode dmaModeAutoinit = true ∨
      k ≤ (state.channels n).currentCount.toNat) :
    vddDmaCurrentPhysical (dmaWalk n k state) n = blockAddress state n k := by
  have hround : k % ((state.channels n).baseCount.toNat + 1) < 65536 := by
    have hcount := (state.channels n).baseCount.toNat_lt
    have hmod := mod_lt k (by omega : 0 < (state.channels n).baseCount.toNat + 1)
    omega
  have haddress : ((state.channels n).walk k).currentAddress.toNat =
      (state.channels n).blockUnit k := by
    rw [walk_currentAddress _ hk, walkAddress_programmed h,
      stepBy_toNat _ _ hround]
    rfl
  unfold vddDmaCurrentPhysical blockAddress
  dsimp only
  rw [dmaWalk_channel, walk_page, bytePhysical_eq, wordPhysical_eq, haddress]

/-! ## The bytes of a transfer -/

variable (bytes : Nat → UInt8)

/-- The bytes from `linear` on replaced by those of `source`. -/
def storeUnit (linear : Nat) (source : Nat → UInt8) (count : Nat) : Nat → UInt8 :=
  fun address =>
    if linear ≤ address ∧ address < linear + count then source (address - linear)
    else bytes address

theorem loadBytes_eq (memory : LinearMemory) (linear count : Nat) :
    (loadBytes memory linear count).1 =
        (range count).map (fun i => memory.bytes (linear + i)) ∧
      (loadBytes memory linear count).2.bytes = memory.bytes := by
  induction count generalizing memory linear with
  | zero => exact ⟨rfl, rfl⟩
  | succ count ih =>
    obtain ⟨hvalues, hbytes⟩ := ih (memory.load linear).2 (linear + 1)
    refine ⟨?_, hbytes⟩
    have hshift : (fun i => memory.bytes (linear + i)) ∘ succ =
        fun i => memory.bytes (linear + 1 + i) := by
      funext i
      exact congrArg memory.bytes (by omega)
    rw [loadBytes, range_succ_eq_map, map_cons, map_map, hshift]
    rw [hvalues]
    rfl

theorem storeBytes_bytes (memory : LinearMemory) (linear : Nat) (source : Nat → UInt8)
    (count : Nat) :
    (storeBytes memory linear source count).bytes =
      storeUnit memory.bytes linear source count := by
  induction count generalizing memory linear source with
  | zero =>
    funext address
    unfold storeUnit
    rw [if_neg (by lia)]
    rfl
  | succ count ih =>
    rw [storeBytes, ih]
    funext address
    unfold storeUnit
    by_cases hfirst : address = linear
    · rw [if_neg (by lia), if_pos (by lia), hfirst, Nat.sub_self]
      exact update_self ..
    · by_cases hrest : linear + 1 ≤ address ∧ address < linear + 1 + count
      · rw [if_pos hrest, if_pos (by lia)]
        exact congrArg source (by lia)
      · rw [if_neg hrest, if_neg (by lia)]
        exact update_of_ne hfirst ..

/-- The bytes of the first `units` units, in order. -/
def unitBytesRead (n : Fin 8) (bytes : Nat → UInt8) (place : Nat → Nat) (units : Nat) :
    List UInt8 :=
  (List.range units).flatMap fun k =>
    (List.range (unitBytes n)).map fun i => bytes (place k + i)

/-- Memory after the first `units` units of `source` were stored, in order. -/
def unitBytesWritten (n : Fin 8) (bytes : Nat → UInt8) (place : Nat → Nat)
    (source : Nat → UInt8) (units : Nat) : Nat → UInt8 :=
  (List.range units).foldl
    (fun bytes k => storeUnit bytes (place k) (fun i => source (k * unitBytes n + i)) (unitBytes n))
    bytes

theorem unitBytesRead_succ (place : Nat → Nat) (units : Nat) :
    unitBytesRead n bytes place (units + 1) =
      unitBytesRead n bytes place units ++
        (range (unitBytes n)).map fun i => bytes (place units + i) := by
  unfold unitBytesRead
  rw [range_succ, flatMap_append, flatMap_singleton]

theorem unitBytesWritten_succ (place : Nat → Nat) (source : Nat → UInt8) (units : Nat) :
    unitBytesWritten n bytes place source (units + 1) =
      storeUnit (unitBytesWritten n bytes place source units) (place units)
        (fun i => source (units * unitBytes n + i)) (unitBytes n) := by
  unfold unitBytesWritten
  rw [range_succ, foldl_append]
  rfl

theorem unitBytesRead_congr {bytes : Nat → UInt8} {place place' : Nat → Nat}
    (h : ∀ k < units, place k = place' k) :
    unitBytesRead n bytes place units = unitBytesRead n bytes place' units := by
  induction units with
  | zero => rfl
  | succ units ih =>
    rw [unitBytesRead_succ, unitBytesRead_succ, ih fun k hk => h k (by omega), h units (by omega)]

theorem unitBytesWritten_congr {bytes : Nat → UInt8} {place place' : Nat → Nat}
    {source : Nat → UInt8} (h : ∀ k < units, place k = place' k) :
    unitBytesWritten n bytes place source units =
      unitBytesWritten n bytes place' source units := by
  induction units with
  | zero => rfl
  | succ units ih =>
    rw [unitBytesWritten_succ, unitBytesWritten_succ, ih fun k hk => h k (by omega),
      h units (by omega)]

theorem dmaUnits_read (units : Nat) (state : DmaState) (memory : LinearMemory) :
    (dmaUnits n none units (transferStart state memory)).destination =
        unitBytesRead n memory.bytes
          (fun k => vddDmaCurrentPhysical (dmaWalk n k state) n) units ∧
      (dmaUnits n none units (transferStart state memory)).memory.bytes = memory.bytes := by
  induction units with
  | zero => exact ⟨rfl, rfl⟩
  | succ units ih =>
    obtain ⟨hdestination, hbytes⟩ := ih
    have hstate : (dmaUnits n none units (transferStart state memory)).state =
        dmaWalk n units state := dmaUnits_state ..
    obtain ⟨hvalues, hkept⟩ := loadBytes_eq
      (dmaUnits n none units (transferStart state memory)).memory
      (vddDmaCurrentPhysical (dmaUnits n none units (transferStart state memory)).state n)
      (unitBytes n)
    rw [dmaUnits_succ']
    refine ⟨?_, hkept.trans hbytes⟩
    change (dmaUnits n none units (transferStart state memory)).destination ++
      (loadBytes _ _ _).1 = _
    rw [hvalues, hdestination, hbytes, hstate, unitBytesRead_succ]

theorem dmaUnits_write (source : Nat → UInt8) (units : Nat) (state : DmaState)
    (memory : LinearMemory) :
    (dmaUnits n (some source) units (transferStart state memory)).memory.bytes =
      unitBytesWritten n memory.bytes
        (fun k => vddDmaCurrentPhysical (dmaWalk n k state) n) source units := by
  induction units with
  | zero => rfl
  | succ units ih =>
    have hstate : (dmaUnits n (some source) units (transferStart state memory)).state =
        dmaWalk n units state := dmaUnits_state ..
    have htransferred : (dmaUnits n (some source) units
        (transferStart state memory)).transferred = units * unitBytes n := by
      rw [dmaUnits_transferred]
      exact Nat.zero_add _
    rw [dmaUnits_succ', unitBytesWritten_succ]
    change (storeBytes _ _ _ (unitBytes n)).bytes = _
    rw [storeBytes_bytes, ih, hstate, htransferred]

/-- The counter cannot overflow from here: the call's bytes leave room for a unit, or the
channel stops at its terminal count. -/
def CounterFits (n : Fin 8) (byteCount : Nat) (progress : DmaProgress) : Prop :=
  progress.transferred ≤ byteCount ∧ byteCount + unitBytes n < 2 ^ 32 ∨
    ¬(progress.state.channels n).hasMode dmaModeAutoinit = true ∧
      progress.transferred +
        ((progress.state.channels n).currentCount.toNat + 1) * unitBytes n < 2 ^ 32

theorem CounterFits.lt (h : CounterFits n byteCount progress)
    : progress.transferred + unitBytes n < 2 ^ 32 := by
  rcases h with ⟨hle, hroom⟩ | ⟨-, hroom⟩
  · omega
  · rw [succ_mul] at hroom
    omega

theorem CounterFits.step (h : CounterFits n byteCount progress) (source : Option (Nat → UInt8))
    (hfits : progress.transferred + unitBytes n ≤ byteCount)
    (hcontinue : (progress.state.channels n).currentCount ≠ 0 ∨
      (progress.state.channels n).hasMode dmaModeAutoinit = true) :
    CounterFits n byteCount (dmaStep n source progress).1 := by
  have hmode : ((dmaStep n source progress).1.state.channels n).hasMode dmaModeAutoinit =
      (progress.state.channels n).hasMode dmaModeAutoinit := by
    rw [dmaStep_state, dmaAdvance_channel]
    exact hasMode_eq (advance_mode _) _
  rcases h with ⟨-, hroom⟩ | ⟨hauto, hroom⟩
  · exact inl ⟨hfits, hroom⟩
  · have hpos := hcontinue.resolve_right hauto
    have hnat := toNat_ne_zero hpos
    refine inr ⟨by rwa [hmode], ?_⟩
    rw [dmaStep_transferred, dmaStep_state, dmaAdvance_channel,
      advance_currentCount hpos, Nat.sub_add_cancel (by lia)]
    rw [succ_mul] at hroom
    lia

theorem dmaTransferLoop32_eq {byteCount : UInt32} {rounds : Nat}
    (hfits : CounterFits n byteCount.toNat progress)
    (hrounds : byteCount.toNat < progress.transferred + (rounds + 1) * unitBytes n) :
    dmaTransferLoop32 n source byteCount (rounds + 1) progress =
      some (dmaTransferLoop n source byteCount.toNat rounds progress) := by
  induction rounds generalizing progress with
  | zero =>
    rw [dmaTransferLoop32, mod_eq_of_lt hfits.lt, if_neg (by omega)]
    rfl
  | succ rounds ih =>
    rw [dmaTransferLoop32, dmaTransferLoop, mod_eq_of_lt hfits.lt]
    by_cases hmore : progress.transferred + unitBytes n ≤ byteCount.toNat
    · have hcounted : { (dmaStep n source progress).1 with
          transferred := (dmaStep n source progress).1.transferred % 2 ^ 32 } =
          (dmaStep n source progress).1 := by
        rw [dmaStep_transferred, mod_eq_of_lt hfits.lt, ← dmaStep_transferred n source]
      rw [if_pos hmore, if_pos hmore]
      dsimp only
      rw [hcounted]
      by_cases hcontinue : (progress.state.channels n).currentCount ≠ 0 ∨
          (progress.state.channels n).hasMode dmaModeAutoinit = true
      · have hcontinues := (dmaStep_continues n source progress).mpr hcontinue
        rw [if_pos hcontinues, if_pos hcontinues]
        refine ih (hfits.step source hmore hcontinue) ?_
        rw [dmaStep_transferred]
        rw [succ_mul] at hrounds
        omega
      · have hstops : ¬(dmaStep n source progress).2 = true :=
          fun h => hcontinue ((dmaStep_continues n source progress).mp h)
        rw [if_neg hstops, if_neg hstops]
    · rw [if_neg hmore, if_neg hmore]

/-- A call of `DmaTransfer` ends with this progress. -/
def TransferReturns (state : DmaState) (memory : LinearMemory) (n : Fin 8)
    (source : Option (Nat → UInt8)) (byteCount : UInt32) (progress : DmaProgress) : Prop :=
  ∃ rounds, dmaTransfer32 rounds state memory n source byteCount = some progress

theorem transferReturns (state : DmaState) (memory : LinearMemory)
    (source : Option (Nat → UInt8)) {byteCount : UInt32}
    (h : byteCount.toNat + unitBytes n < 2 ^ 32 ∨
      ¬(state.channels n).hasMode dmaModeAutoinit = true) :
    TransferReturns state memory n source byteCount
      (dmaTransfer state memory n source byteCount.toNat) := by
  have hunit := unitBytes_pos n
  have hfits : CounterFits n byteCount.toNat (transferStart state memory) := by
    refine h.imp (fun hroom => ⟨Nat.zero_le _, hroom⟩) fun hauto => ⟨hauto, ?_⟩
    have hcount := (state.channels n).currentCount.toNat_lt
    have htwo : unitBytes n ≤ 2 := by
      unfold unitBytes
      split <;> lia
    have hmul := Nat.mul_le_mul (by lia : (state.channels n).currentCount.toNat + 1 ≤ 65536) htwo
    change 0 + ((state.channels n).currentCount.toNat + 1) * unitBytes n < 2 ^ 32
    lia
  refine ⟨byteCount.toNat + 1, ?_⟩
  unfold dmaTransfer32 dmaTransfer
  by_cases hgrants : vddDmaGrants state n = true
  · rw [if_pos hgrants, if_pos hgrants]
    refine dmaTransferLoop32_eq source hfits ?_
    have hmul := Nat.mul_le_mul_left (byteCount.toNat + 1) (succ_le_of_lt hunit)
    lia
  · rw [if_neg hgrants, if_neg hgrants]

/-! ## The stream -/

theorem unitsMoved_le (hauto : ¬(state.channels n).hasMode dmaModeAutoinit = true) (byteCount : Nat) :
    unitsMoved state n byteCount ≤ (state.channels n).currentCount.toNat + 1 := by
  unfold unitsMoved unitsWithin
  rw [if_neg hauto]
  split
  · exact Nat.min_le_right _ _
  · exact Nat.zero_le _

section

variable {state : DmaState} (h : (state.channels n).IsProgrammed)

include h

theorem physical_of_moved (hk : k < unitsMoved state n byteCount) :
    vddDmaCurrentPhysical (dmaWalk n k state) n = blockAddress state n k := by
  refine physical_block h ?_
  by_cases hauto : (state.channels n).hasMode dmaModeAutoinit = true
  · exact inl hauto
  · have hle := unitsMoved_le hauto byteCount
    exact inr (by omega)

theorem vddDmaRead_block (memory : LinearMemory) (byteCount : Nat) :
    (vddDmaRead state memory n byteCount).destination =
        unitBytesRead n memory.bytes (blockAddress state n) (unitsMoved state n byteCount) ∧
      (vddDmaRead state memory n byteCount).memory.bytes = memory.bytes := by
  unfold vddDmaRead
  rw [dmaTransfer_eq]
  obtain ⟨hdestination, hbytes⟩ := dmaUnits_read (n := n) (unitsMoved state n byteCount) state memory
  exact ⟨hdestination.trans (unitBytesRead_congr fun k hk => physical_of_moved h hk), hbytes⟩

theorem vddDmaWrite_block (memory : LinearMemory) (source : Nat → UInt8) (byteCount : Nat) :
    (vddDmaWrite state memory n source byteCount).memory.bytes =
      unitBytesWritten n memory.bytes (blockAddress state n) source
        (unitsMoved state n byteCount) := by
  unfold vddDmaWrite
  rw [dmaTransfer_eq, dmaUnits_write]
  exact unitBytesWritten_congr fun k hk => physical_of_moved h hk

end

theorem dmaTransfer_expires (hgrants : vddDmaGrants state n = true)
    (hauto : ¬(state.channels n).hasMode dmaModeAutoinit = true) (memory : LinearMemory)
    (source : Option (Nat → UInt8))
    (hcount : (state.channels n).currentCount.toNat < byteCount / unitBytes n) :
    unitsMoved state n byteCount = (state.channels n).currentCount.toNat + 1 ∧
      ((dmaTransfer state memory n source byteCount).state.channels n).isTerminalCount = true ∧
      ((dmaTransfer state memory n source byteCount).state.channels n).isMasked = true ∧
      ((dmaTransfer state memory n source byteCount).state.channels n).currentCount =
        dmaCountExpired := by
  have hunits : unitsMoved state n byteCount = (state.channels n).currentCount.toNat + 1 := by
    unfold unitsMoved unitsWithin
    rw [if_pos hgrants, if_neg hauto]
    omega
  have hchannel : (dmaTransfer state memory n source byteCount).state.channels n =
      (state.channels n).walk ((state.channels n).currentCount.toNat + 1) := by
    rw [dmaTransfer_eq, dmaUnits_state, dmaWalk_channel, hunits]
    rfl
  rw [hchannel, walk_single _ hauto]
  exact ⟨hunits, rfl, rfl, rfl⟩

theorem dmaTransfer_counts (state : DmaState) (memory : LinearMemory)
    (source : Option (Nat → UInt8)) (byteCount : Nat) :
    (dmaTransfer state memory n source byteCount).transferred =
        unitsMoved state n byteCount * unitBytes n ∧
      ((dmaTransfer state memory n source byteCount).isTerminalCount = true ↔
        (state.channels n).currentCount.toNat < unitsMoved state n byteCount) := by
  rw [dmaTransfer_eq, dmaUnits_transferred, dmaUnits_isTerminalCount]
  exact ⟨Nat.zero_add _, or_iff_right (by simp [transferStart])⟩

/-- A granted channel is an exact stream: each call returns, the `k`-th unit of the programmed
block is moved at its place, terminal count ends a single-cycle block and repeats a ring, and
a call may be cut in two anywhere. -/
theorem dma_channel_is_an_exact_stream (hcascade : n ≠ dmaCascadeChannel) (state : DmaState)
    (memory : LinearMemory) (hgrants : vddDmaGrants state n = true) :
    (∀ source (byteCount : UInt32),
      byteCount.toNat + unitBytes n < 2 ^ 32 ∨
        ¬(state.channels n).hasMode dmaModeAutoinit = true →
      TransferReturns state memory n source byteCount
        (dmaTransfer state memory n source byteCount.toNat)) ∧
    ((state.channels n).IsProgrammed → ∀ byteCount,
      (vddDmaRead state memory n byteCount).destination =
          unitBytesRead n memory.bytes (blockAddress state n) (unitsMoved state n byteCount) ∧
        (vddDmaRead state memory n byteCount).memory.bytes = memory.bytes ∧
        ∀ source, (vddDmaWrite state memory n source byteCount).memory.bytes =
          unitBytesWritten n memory.bytes (blockAddress state n) source
            (unitsMoved state n byteCount)) ∧
    (∀ source byteCount,
      (dmaTransfer state memory n source byteCount).transferred =
          unitsMoved state n byteCount * unitBytes n ∧
        ((dmaTransfer state memory n source byteCount).isTerminalCount = true ↔
          (state.channels n).currentCount.toNat < unitsMoved state n byteCount)) ∧
    (¬(state.channels n).hasMode dmaModeAutoinit = true → ∀ source byteCount,
      unitsMoved state n byteCount =
          min (byteCount / unitBytes n) ((state.channels n).currentCount.toNat + 1) ∧
        ((state.channels n).currentCount.toNat < byteCount / unitBytes n →
          let ended := (dmaTransfer state memory n source byteCount).state
          (ended.channels n).isTerminalCount = true ∧ (ended.channels n).isMasked = true ∧
            (ended.channels n).currentCount = dmaCountExpired)) ∧
    ((state.channels n).hasMode dmaModeAutoinit = true → ∀ byteCount,
      unitsMoved state n byteCount = byteCount / unitBytes n) ∧
    (∀ masked : DmaState, (masked.channels n).isMasked = true → ∀ memory source byteCount,
      dmaTransfer masked memory n source byteCount = transferStart masked memory) ∧
    ∀ first second, unitBytes n ∣ first → unitBytes n ∣ second →
      vddDmaRead state memory n (first + second) =
          (vddDmaRead state memory n first).andThen
            (fun state memory => vddDmaRead state memory n second) ∧
        ∀ source, vddDmaWrite state memory n source (first + second) =
          (vddDmaWrite state memory n source first).andThen
            (fun state memory => vddDmaWrite state memory n (fun i => source (first + i)) second) := by
  refine ⟨fun source byteCount h => transferReturns state memory source h,
    fun h byteCount => ?_, fun source byteCount => dmaTransfer_counts state memory source byteCount,
    fun hauto source byteCount => ⟨?_, fun hcount => ?_⟩, fun hauto byteCount => ?_,
    fun masked hmasked memory source byteCount => ?_, fun first second hfirst hsecond => ⟨?_, ?_⟩⟩
  · obtain ⟨hdestination, hbytes⟩ := vddDmaRead_block h memory byteCount
    exact ⟨hdestination, hbytes, fun source => vddDmaWrite_block h memory source byteCount⟩
  · unfold unitsMoved unitsWithin
    rw [if_pos hgrants, if_neg hauto]
  · exact (dmaTransfer_expires hgrants hauto memory source hcount).2
  · unfold unitsMoved unitsWithin
    rw [if_pos hgrants, if_pos hauto]
  · unfold dmaTransfer
    rw [vddDmaGrants_masked hmasked]
    rfl
  · exact dmaTransfer_add hcascade hgrants memory none hfirst hsecond
  · exact fun source => dmaTransfer_add hcascade hgrants memory (some source) hfirst hsecond

/-- Channel 1 unmasked, a ring of four bytes from 3FFFEh on: page 3, base FFFEh. -/
def smallRing : DmaState :=
  [(0x0B, 0x55), (0x02, 0xFE), (0x02, 0xFF), (0x03, 0x03), (0x03, 0x00), (0x83, 0x03),
      (0x0A, 0x01)].foldl
    (fun state write => (dmaPortOut state (untouched fun _ => 0) write.1 write.2).1) vddDmaReset

theorem dma_channel_is_an_exact_stream_ring :
    (vddDmaRead smallRing (untouched fun linear => UInt8.ofNat (linear % 251)) 1 6).destination =
      unitBytesRead 1 (fun linear => UInt8.ofNat (linear % 251)) (blockAddress smallRing 1) 6 ∧
    (List.range 6).map (blockAddress smallRing 1) =
      [0x3FFFE, 0x3FFFF, 0x30000, 0x30001, 0x3FFFE, 0x3FFFF] := by
  have hunits : unitsMoved smallRing 1 6 = 6 := by decide
  have hstream := (dma_channel_is_an_exact_stream (n := 1) (by decide) smallRing
    (untouched fun linear => UInt8.ofNat (linear % 251)) (by decide)).2.1
    (by decide) 6
  rw [hunits] at hstream
  exact ⟨hstream.1, by decide⟩

/-- On a ring the counter of a call for FFFFFFFFh bytes goes back to 0 and never passes it. -/
theorem dmaTransferLoop32_runs_on (rounds : Nat)
    (hauto : (progress.state.channels n).hasMode dmaModeAutoinit = true) :
    dmaTransferLoop32 n source 0xFFFFFFFF rounds progress = none := by
  induction rounds generalizing progress with
  | zero => rfl
  | succ rounds ih =>
    have hmore : (progress.transferred + unitBytes n) % 2 ^ 32 ≤
        (0xFFFFFFFF : UInt32).toNat := by
      change _ ≤ 4294967295
      omega
    have hmode : ((dmaStep n source progress).1.state.channels n).hasMode dmaModeAutoinit = true := by
      rw [dmaStep_state, dmaAdvance_channel]
      exact (hasMode_eq (advance_mode _) _).trans hauto
    rw [dmaTransferLoop32, if_pos hmore]
    rw [if_pos ((dmaStep_continues n source progress).mpr (inr hauto))]
    exact ih hmode

theorem dma_call_does_not_end :
    ¬∀ (n : Fin 8) (state : DmaState) (memory : LinearMemory) (byteCount : UInt32),
      n ≠ dmaCascadeChannel → vddDmaGrants state n = true → unitBytes n ∣ byteCount.toNat →
      ∃ progress, TransferReturns state memory n none byteCount progress := by
  intro h
  obtain ⟨progress, rounds, hreturns⟩ := h 1 smallRing (untouched fun _ => 0) 0xFFFFFFFF (by decide)
    (by decide) (one_dvd _)
  unfold dmaTransfer32 at hreturns
  rw [if_pos (by decide : vddDmaGrants smallRing 1 = true),
    dmaTransferLoop32_runs_on none rounds (by decide)] at hreturns
  cases hreturns

end Ntvdmex.Vdd.Dma
