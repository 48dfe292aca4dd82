import Ntvdmex.Vdd.Proofs.Dma.Transfer

/-!
# Which transfers stay inside the VDM

The controllers' own cycles ask `DmaMemory`, and stay below the limit.  A transfer a
device pulls does not, and stays there exactly when the page register keeps it there.
-/

namespace Ntvdmex.Vdd.Dma

open DmaChannel Or Nat DmaState

variable (channel : DmaChannel) (n : Fin 8) (rounds : Nat) (state : DmaState) (page value : UInt8)
    (address : UInt16) (memory : LinearMemory)

def untouched (bytes : Nat → UInt8) : LinearMemory where
  bytes
  touched := []

def InsideVdm (memory : LinearMemory) : Prop :=
  ∀ linear ∈ memory.touched, linear < dmaPhysicalLimit

theorem bytePhysical_eq :
    (page.toNat <<< 16) ||| address.toNat = page.toNat * 65536 + address.toNat := by
  rw [← shiftLeft_add_eq_or_of_lt address.toNat_lt, shiftLeft_eq]

theorem even_page : (page &&& 0xFE).toNat = 2 * (page.toNat / 2) := by
  have hall : ∀ value < 256, value &&& 0xFE = 2 * (value / 2) := by decide +kernel
  rw [UInt8.toNat_and]
  exact hall page.toNat page.toNat_lt

theorem wordPhysical_eq :
    ((page &&& 0xFE).toNat <<< 16) ||| (address.toNat <<< 1) =
      page.toNat / 2 * 131072 + address.toNat * 2 := by
  have haddress := address.toNat_lt
  have hlt : address.toNat <<< 1 < 2 ^ 17 := by
    rw [shiftLeft_eq]
    omega
  have hshift : (page &&& 0xFE).toNat <<< 16 = (page.toNat / 2) <<< 17 := by
    rw [even_page, shiftLeft_eq, shiftLeft_eq]
    omega
  rw [hshift, ← shiftLeft_add_eq_or_of_lt hlt, shiftLeft_eq, shiftLeft_eq]

theorem physical_unit_lt {state : DmaState} {n : Fin 8}
    (h : vddDmaCurrentPhysical state n < dmaPhysicalLimit) :
    vddDmaCurrentPhysical state n + unitBytes n ≤ dmaPhysicalLimit := by
  unfold vddDmaCurrentPhysical unitBytes dmaPhysicalLimit at *
  dsimp only at *
  by_cases hbyte : IsByteChannel n
  · rw [if_pos hbyte] at h ⊢
    rw [if_pos hbyte]
    omega
  · rw [if_neg hbyte] at h ⊢
    rw [if_neg hbyte]
    rw [wordPhysical_eq] at h ⊢
    omega

/-- The page keeps the transfer inside the VDM: it is below the last page, or it is the last
page and the channel does not leave it, or nothing moves. -/
def StaysInside (state : DmaState) (n : Fin 8) (byteCount : Nat) : Prop :=
  let channel := state.channels n
  channel.page.toNat < 0x10 ∨
    IsByteChannel n ∧ channel.page.toNat = 0x10 ∨
    ¬ IsByteChannel n ∧ channel.page.toNat / 2 = 8 ∧
      (∀ i < unitsMoved state n byteCount, (channel.walkAddress i).toNat < 0x8000) ∨
    unitsMoved state n byteCount = 0

section

variable {state : DmaState} {n : Fin 8} {byteCount i : Nat} (hi : i < unitsMoved state n byteCount)

include hi

theorem walkAddress_of_moved :
    ((dmaWalk n i state).channels n).currentAddress = (state.channels n).walkAddress i := by
  rw [dmaWalk_channel]
  refine walk_currentAddress _ ?_
  unfold unitsMoved at hi
  split at hi
  · unfold unitsWithin at hi
    split at hi
    · exact inl ‹_›
    · right
      omega
  · omega

theorem physical_moved :
    vddDmaCurrentPhysical (dmaWalk n i state) n =
      if IsByteChannel n then
        (state.channels n).page.toNat * 65536 + ((state.channels n).walkAddress i).toNat
      else
        (state.channels n).page.toNat / 2 * 131072
          + ((state.channels n).walkAddress i).toNat * 2 := by
  have hpage : ((dmaWalk n i state).channels n).page = (state.channels n).page := by
    rw [dmaWalk_channel, walk_page]
  unfold vddDmaCurrentPhysical
  dsimp only
  rw [walkAddress_of_moved hi, hpage, bytePhysical_eq, wordPhysical_eq]

end

theorem staysInside_iff (n : Fin 8) (byteCount : Nat) :
    StaysInside state n byteCount ↔ ∀ i < unitsMoved state n byteCount,
      vddDmaCurrentPhysical (dmaWalk n i state) n < dmaPhysicalLimit := by
  unfold StaysInside dmaPhysicalLimit
  constructor
  · intro hstays i hi
    rw [physical_moved hi]
    have haddress := ((state.channels n).walkAddress i).toNat_lt
    rcases hstays with hpage | ⟨hbyte, hpage⟩ | ⟨hword, hpage, hlow⟩ | hnone
    · split <;> lia
    · rw [if_pos hbyte]
      lia
    · have hi' := hlow i hi
      rw [if_neg hword]
      lia
    · lia
  · intro hinside
    by_cases hnone : unitsMoved state n byteCount = 0
    · exact inr (inr (inr hnone))
    have hfirst := hinside 0 (Nat.pos_of_ne_zero hnone)
    rw [physical_moved (Nat.pos_of_ne_zero hnone)] at hfirst
    by_cases hbyte : IsByteChannel n
    · rw [if_pos hbyte] at hfirst
      by_cases hpage : (state.channels n).page.toNat < 0x10
      · exact inl hpage
      · exact inr (inl ⟨hbyte, by lia⟩)
    · rw [if_neg hbyte] at hfirst
      by_cases hpage : (state.channels n).page.toNat < 0x10
      · exact inl hpage
      · refine inr (inr (inl ⟨hbyte, by lia, fun i hi => ?_⟩))
        have hi' := hinside i hi
        rw [physical_moved hi, if_neg hbyte] at hi'
        lia

variable (bytes : Nat → UInt8)

theorem dmaTransfer_touched (n : Fin 8) (source : Option (Nat → UInt8)) (byteCount address : Nat) :
    address ∈ (dmaTransfer state (untouched bytes) n source byteCount).memory.touched ↔
      ∃ i < unitsMoved state n byteCount,
        vddDmaCurrentPhysical (dmaWalk n i state) n ≤ address ∧
          address < vddDmaCurrentPhysical (dmaWalk n i state) n + unitBytes n := by
  rw [dmaTransfer_eq, dmaUnits_touched]
  constructor
  · rintro (hold | hnew)
    · exact absurd hold (by simp [transferStart, untouched])
    · exact hnew
  · exact inr

theorem dmaTransfer_inside_iff (n : Fin 8) (source : Option (Nat → UInt8)) (byteCount : Nat) :
    InsideVdm (dmaTransfer state (untouched bytes) n source byteCount).memory ↔
      StaysInside state n byteCount := by
  rw [staysInside_iff]
  constructor
  · intro hinside i hi
    have hunit := unitBytes_pos n
    exact hinside _ ((dmaTransfer_touched ..).mpr ⟨i, hi, Nat.le_refl _, by omega⟩)
  · intro hunits linear hlinear
    obtain ⟨i, hi, hlow, hhigh⟩ := (dmaTransfer_touched ..).mp hlinear
    have hunit := physical_unit_lt (hunits i hi)
    omega

/-! ## Transfers the controllers carry out -/

def KeepsInside (before after : LinearMemory) : Prop :=
  ∀ linear ∈ after.touched, linear ∈ before.touched ∨ linear < dmaPhysicalLimit

theorem KeepsInside.refl : KeepsInside memory memory :=
  fun _ h => inl h

theorem KeepsInside.trans {first second third : LinearMemory} (h : KeepsInside first second)
    (h' : KeepsInside second third) : KeepsInside first third := by
  intro linear hlinear
  rcases h' linear hlinear with hsecond | hlt
  · exact h linear hsecond
  · exact inr hlt

theorem dmaMemory_some {physical linear : Nat} (h : dmaMemory physical = some linear) :
    linear = physical ∧ physical < dmaPhysicalLimit := by
  unfold dmaMemory at h
  split at h
  · exact absurd h (by simp)
  · exact ⟨(Option.some.inj h).symm, by omega⟩

theorem floating_inside : KeepsInside memory
    (if (state.channels n).mode &&& dmaModeTransfer = dmaModeTransferWrite then
      match dmaMemory (vddDmaCurrentPhysical state n) with
      | some linear => storeBytes memory linear (fun _ => dmaFloatingByte) (unitBytes n)
      | none => memory
    else memory) := by
  split
  · cases hmemory : dmaMemory (vddDmaCurrentPhysical state n) with
    | none => exact .refl memory
    | some linear =>
      obtain ⟨rfl, hlt⟩ := dmaMemory_some hmemory
      have hunit := physical_unit_lt hlt
      intro address haddress
      rcases (storeBytes_touched ..).mp haddress with hold | hnew
      · exact inl hold
      · exact inr (by omega)
  · exact .refl memory

theorem dmaSoftwareBlock_inside
    : KeepsInside memory (dmaSoftwareBlock n rounds state memory).2 := by
  induction rounds generalizing state memory with
  | zero => exact .refl memory
  | succ rounds ih =>
    unfold dmaSoftwareBlock
    dsimp only
    have hwritten := @floating_inside n state memory
    split
    · exact hwritten
    · exact hwritten.trans (ih _ _)

theorem dmaCopyByte_inside : KeepsInside memory (dmaCopyByte state memory).2 := by
  have htouch : ∀ (memory : LinearMemory) (linear : Nat), linear < dmaPhysicalLimit →
      ∀ address ∈ linear :: memory.touched,
        address ∈ memory.touched ∨ address < dmaPhysicalLimit := by
    intro memory linear hlt address haddress
    rcases List.mem_cons.mp haddress with rfl | hold
    · exact inr hlt
    · exact inl hold
  unfold dmaCopyByte
  cases hsource : dmaMemory (vddDmaCurrentPhysical state 0) with
  | none =>
    cases htarget : dmaMemory (vddDmaCurrentPhysical state 1) with
    | none => exact .refl memory
    | some linear => exact htouch memory linear ((dmaMemory_some htarget).1 ▸ (dmaMemory_some htarget).2)
  | some first =>
    have hfirst : first < dmaPhysicalLimit :=
      (dmaMemory_some hsource).1 ▸ (dmaMemory_some hsource).2
    have hload : KeepsInside memory (memory.load first).2 := htouch memory first hfirst
    cases htarget : dmaMemory (vddDmaCurrentPhysical state 1) with
    | none => exact hload
    | some linear =>
      exact hload.trans
        (htouch _ linear ((dmaMemory_some htarget).1 ▸ (dmaMemory_some htarget).2))

theorem dmaCopyLoop_inside : KeepsInside memory (dmaCopyLoop rounds state memory).2 := by
  induction rounds generalizing state memory with
  | zero => exact .refl memory
  | succ rounds ih =>
    unfold dmaCopyLoop
    dsimp only
    split
    · exact dmaCopyByte_inside state memory
    · exact (dmaCopyByte_inside state memory).trans (ih _ _)

theorem dmaServiceLine_inside : KeepsInside memory (dmaServiceLine n state memory).2 := by
  unfold dmaServiceLine
  split
  · exact .refl memory
  split
  · exact .refl memory
  split
  · exact .refl memory
  split
  · split
    · exact dmaCopyLoop_inside _ state memory
    · exact .refl memory
  · exact dmaSoftwareBlock_inside n _ state memory

theorem dmaServiceController_inside (controller : Fin 2) (state : DmaState)
    (memory : LinearMemory) :
    KeepsInside memory (dmaServiceController controller state memory).2 := by
  have hlines : ∀ (lines : List Nat) (served : DmaState × LinearMemory),
      KeepsInside served.2 (lines.foldl
        (fun served line =>
          dmaServiceLine ⟨(controller.val * 4 + line) % 8, mod_lt _ (by decide)⟩
            served.1 served.2) served).2 := by
    intro lines
    induction lines with
    | nil => exact fun served => .refl served.2
    | cons line lines ih =>
      exact fun served => (dmaServiceLine_inside _ served.1 served.2).trans (ih _)
  unfold dmaServiceController
  split
  · exact .refl memory
  split
  · exact .refl memory
  split
  · exact .refl memory
  · exact hlines _ (state, memory)

theorem dmaPortOut_inside (port : Nat) (value : UInt8)
    : KeepsInside memory (dmaPortOut state memory port value).2 := by
  unfold dmaPortOut
  split
  · split <;> exact .refl memory
  dsimp only
  generalize (if port ≥ 0xC0 then (1 : Fin 2) else 0) = controller
  generalize (if port ≥ 0xC0 then (port - 0xC0) / 2 else port) = registerIndex
  split
  · exact .refl memory
  split
  · exact (dmaServiceController_inside 0 _ memory).trans (dmaServiceController_inside 1 _ _)
  · exact .refl memory

/-! ## Cycles beyond the limit still walk -/

theorem dmaSoftwareBlock_walk (hrounds : (state.channels n).currentCount.toNat < rounds) :
    (dmaSoftwareBlock n rounds state memory).1 =
      dmaWalk n ((state.channels n).currentCount.toNat + 1) state := by
  induction rounds generalizing state memory with
  | zero => exact absurd hrounds (Nat.not_lt_zero _)
  | succ rounds ih =>
    unfold dmaSoftwareBlock
    by_cases hzero : (state.channels n).currentCount = 0
    · rw [if_pos ((dmaAdvance_terminal state n).mpr hzero), hzero]
      rfl
    · have hpos := toNat_ne_zero hzero
      have hcount : ((dmaAdvance state n).1.channels n).currentCount.toNat =
          (state.channels n).currentCount.toNat - 1 := by
        rw [dmaAdvance_channel, advance_currentCount hzero]
      rw [if_neg fun h => hzero ((dmaAdvance_terminal state n).mp h),
        ih _ _ (by rw [hcount]; lia), hcount, Nat.sub_add_cancel (by lia), ← dmaWalk_succ]

/-- The channel with its address `units` steps on. -/
def DmaChannel.moved (channel : DmaChannel) (units : Nat) : DmaChannel :=
  { channel with currentAddress := channel.stepBy channel.currentAddress units }

def DmaChannel.withCount (channel : DmaChannel) (count : UInt16) : DmaChannel :=
  { channel with currentCount := count }

theorem DmaChannel.moved_one :
    channel.moved 1 = { channel with currentAddress := channel.stepAddress } := by
  unfold moved
  rw [stepBy_succ, stepBy_zero]
  rfl

theorem DmaChannel.moved_one_moved (units : Nat) :
    (channel.moved 1).moved units = channel.moved (units + 1) := by
  rw [moved_one]
  unfold moved
  rw [stepBy_succ]
  rfl

theorem dmaCopyStep_channel1 :
    (dmaCopyStep state value).channels 1 = (state.channels 1).moved 1 := by
  rw [moved_one]
  unfold dmaCopyStep
  rw [setChannel_self]

theorem dmaCopyStep_channel0 :
    (dmaCopyStep state value).channels 0 =
      if state.command 0 &&& dmaCommandAddressHold = 0 then (state.channels 0).moved 1
      else state.channels 0 := by
  have hne : (0 : Fin 8) ≠ 1 := by decide
  rw [moved_one]
  unfold dmaCopyStep
  rw [setChannel_of_ne _ hne]
  split
  · exact setChannel_self state 0 _
  · rfl

theorem dmaCopyStep_command : (dmaCopyStep state value).command = state.command := by
  unfold dmaCopyStep
  split <;> rfl

/-- The two channels of a copy when it ends: channel 1 has walked its count, and channel 0
with it unless its address is held. -/
theorem dmaCopyLoop_walk (hrounds : (state.channels 1).currentCount.toNat < rounds) :
    (dmaCopyLoop rounds state memory).1.channels 1 =
        ((state.channels 1).moved ((state.channels 1).currentCount.toNat + 1)).withCount 0 ∧
      (dmaCopyLoop rounds state memory).1.channels 0 =
        if state.command 0 &&& dmaCommandAddressHold = 0 then
          (state.channels 0).moved ((state.channels 1).currentCount.toNat + 1)
        else state.channels 0 := by
  induction rounds generalizing state memory with
  | zero => exact absurd hrounds (Nat.not_lt_zero _)
  | succ rounds ih =>
    unfold dmaCopyLoop
    dsimp only
    generalize (dmaCopyByte state memory).1 = value
    generalize (dmaCopyByte state memory).2 = copied
    rw [dmaCopyStep_channel1, show ((state.channels 1).moved 1).currentCount =
      (state.channels 1).currentCount from rfl]
    by_cases hzero : (state.channels 1).currentCount = 0
    · rw [if_pos hzero, dmaCopyStep_channel1, dmaCopyStep_channel0, hzero]
      have hsame : ((state.channels 1).moved 1).withCount 0 = (state.channels 1).moved 1 := by
        rw [← hzero]
        rfl
      exact ⟨hsame.symm, rfl⟩
    · have hleft := toNat_sub_one hzero
      have hpos := toNat_ne_zero hzero
      have hsucc : (state.channels 1).currentCount.toNat - 1 + 1 =
          (state.channels 1).currentCount.toNat := by lia
      rw [if_neg hzero]
      set next := (dmaCopyStep state value).setChannel 1
        (((state.channels 1).moved 1).withCount ((state.channels 1).currentCount - 1)) with hnext
      have hnext1 : next.channels 1 =
          ((state.channels 1).moved 1).withCount ((state.channels 1).currentCount - 1) :=
        setChannel_self ..
      have hcount : (next.channels 1).currentCount = (state.channels 1).currentCount - 1 := by
        rw [hnext1]
        rfl
      have hne : (0 : Fin 8) ≠ 1 := by decide
      have hnext0 : next.channels 0 = (dmaCopyStep state value).channels 0 :=
        setChannel_of_ne _ hne _
      have hcommand : next.command = state.command := dmaCopyStep_command state value
      obtain ⟨h1, h0⟩ := ih next copied (by rw [hcount]; lia)
      rw [hcount, hleft, hsucc] at h1 h0
      refine ⟨h1.trans ?_, h0.trans ?_⟩
      · rw [hnext1]
        exact congrArg (fun channel => channel.withCount 0) (moved_one_moved
          (state.channels 1) (state.channels 1).currentCount.toNat)
      · rw [hcommand, hnext0, dmaCopyStep_channel0]
        split
        · exact moved_one_moved ..
        · rfl

def RequestStaysInside (state : DmaState) (channelNumber : Nat)
    (buffer : Option (Nat → UInt8)) (length : Nat) : Prop :=
  ∀ n : Fin 8, n.val = channelNumber → n ≠ dmaCascadeChannel → buffer.isSome = true →
    length ≠ 0 →
    ((state.channels n).mode &&& dmaModeTransfer = dmaModeTransferRead ∨
      (state.channels n).mode &&& dmaModeTransfer = dmaModeTransferWrite) →
    StaysInside state n length

theorem vddDmaRequest_inside_iff (channelNumber : Nat) (buffer : Option (Nat → UInt8))
    (length : Nat) :
    (∀ progress, (vddDmaRequest state (untouched bytes) channelNumber buffer length).2 =
      some progress → InsideVdm progress.memory) ↔
      RequestStaysInside state channelNumber buffer length := by
  unfold vddDmaRequest RequestStaysInside
  by_cases hchannel : channelNumber < 8
  swap
  · rw [dif_neg hchannel]
    refine iff_of_true (fun progress h => absurd h (by simp)) fun n hn => ?_
    exact absurd n.isLt (by omega)
  rw [dif_pos hchannel]
  by_cases hcascade : (⟨channelNumber, hchannel⟩ : Fin 8) = dmaCascadeChannel
  · rw [if_pos hcascade]
    refine iff_of_true (fun progress h => absurd h (by simp)) fun n hn hne => ?_
    exact absurd ((Fin.ext hn : n = ⟨channelNumber, hchannel⟩).trans hcascade) hne
  rw [if_neg hcascade]
  cases buffer with
  | none => exact iff_of_true (fun progress h => absurd h (by simp)) (by simp)
  | some source =>
    dsimp only
    by_cases hlength : length = 0
    · rw [if_pos hlength]
      exact iff_of_true (fun progress h => absurd h (by simp)) fun _ _ _ _ hne => absurd hlength hne
    rw [if_neg hlength]
    set n : Fin 8 := ⟨channelNumber, hchannel⟩ with hn
    have hall : ∀ progress : DmaProgress,
        (InsideVdm progress.memory ↔ StaysInside state n length) →
        ((∀ other, some progress = some other → InsideVdm other.memory) ↔
          StaysInside state n length) := by
      intro progress hprogress
      rw [← hprogress]
      exact ⟨fun h => h progress rfl, fun h other hother => Option.some.inj hother ▸ h⟩
    by_cases hread : (state.channels n).mode &&& dmaModeTransfer = dmaModeTransferRead
    · rw [if_pos hread]
      refine (hall _ (dmaTransfer_inside_iff ..)).trans ⟨fun h other hother _ _ _ _ => ?_, fun h => ?_⟩
      · rwa [Fin.ext (hother.trans rfl : other.val = n.val)]
      · exact h n rfl hcascade rfl hlength (inl hread)
    rw [if_neg hread]
    by_cases hwrite : (state.channels n).mode &&& dmaModeTransfer = dmaModeTransferWrite
    · rw [if_pos hwrite]
      refine (hall _ (dmaTransfer_inside_iff ..)).trans ⟨fun h other hother _ _ _ _ => ?_, fun h => ?_⟩
      · rwa [Fin.ext (hother.trans rfl : other.val = n.val)]
      · exact h n rfl hcascade rfl hlength (inr hwrite)
    · rw [if_neg hwrite]
      refine iff_of_true (fun progress h => absurd h (by simp)) fun other hother _ _ _ hmode => ?_
      rw [Fin.ext (hother.trans rfl : other.val = n.val)] at hmode
      exact absurd hmode (not_or.mpr ⟨hread, hwrite⟩)

theorem dma_stays_inside_iff (state : DmaState) (bytes : Nat → UInt8) :
    (∀ n byteCount, InsideVdm (vddDmaRead state (untouched bytes) n byteCount).memory ↔
      StaysInside state n byteCount) ∧
    (∀ n source byteCount,
      InsideVdm (vddDmaWrite state (untouched bytes) n source byteCount).memory ↔
        StaysInside state n byteCount) ∧
    (∀ channelNumber buffer length,
      (∀ progress, (vddDmaRequest state (untouched bytes) channelNumber buffer length).2 =
        some progress → InsideVdm progress.memory) ↔
        RequestStaysInside state channelNumber buffer length) ∧
    (∀ port value, InsideVdm (dmaPortOut state (untouched bytes) port value).2) ∧
    (∀ n source byteCount, (dmaTransfer state (untouched bytes) n source byteCount).state =
      dmaWalk n (unitsMoved state n byteCount) state) ∧
    (∀ n memory, (dmaSoftwareBlock n dmaMaxTransfers state memory).1 =
      dmaWalk n ((state.channels n).currentCount.toNat + 1) state) ∧
    (∀ memory,
      (dmaCopyLoop dmaMaxTransfers state memory).1.channels 1 =
        ((state.channels 1).moved ((state.channels 1).currentCount.toNat + 1)).withCount 0 ∧
      (dmaCopyLoop dmaMaxTransfers state memory).1.channels 0 =
        if state.command 0 &&& dmaCommandAddressHold = 0 then
          (state.channels 0).moved ((state.channels 1).currentCount.toNat + 1)
        else state.channels 0) := by
  have hmax : ∀ count : UInt16, count.toNat < dmaMaxTransfers := by
    intro count
    have hcount := count.toNat_lt
    unfold dmaMaxTransfers
    omega
  refine ⟨fun n byteCount => dmaTransfer_inside_iff .., fun n source byteCount =>
    dmaTransfer_inside_iff .., fun channelNumber buffer length =>
    vddDmaRequest_inside_iff .., ?_, ?_, ?_, ?_⟩
  · intro port value linear hlinear
    rcases dmaPortOut_inside state (untouched bytes) port value linear hlinear with hold | hlt
    · exact absurd hold (by simp [untouched])
    · exact hlt
  · intro n source byteCount
    rw [dmaTransfer_eq, dmaUnits_state]
    rfl
  · exact fun n memory => dmaSoftwareBlock_walk n _ state memory (hmax _)
  · exact fun memory => dmaCopyLoop_walk _ state memory (hmax _)

def pageBeyond : DmaState :=
  (dmaPortOut (dmaPortOut vddDmaReset (untouched fun _ => 0) 0x83 0x11).1 (untouched fun _ => 0)
    0x0A 0x01).1

theorem dma_leaves_the_vdm :
    ¬ InsideVdm (vddDmaRead pageBeyond (untouched fun _ => 0) 1 1).memory := by
  intro hinside
  have htouched : 0x110000 ∈ (vddDmaRead pageBeyond (untouched fun _ => 0) 1 1).memory.touched := by
    decide
  exact absurd (hinside _ htouched) (by decide)

end Ntvdmex.Vdd.Dma
