import Ntvdmex.Dos.Xms

/-!
# XMS moves: their bounds and what they copy

The check on an EMB compares against the bytes left in the block and cannot
wrap.  The check on a conventional endpoint adds the length to the linear
address in 32 bits: it wraps for a length close to 4 GB and then accepts the
endpoint.  A move stays inside what it names exactly when neither endpoint of an
accepted move is accepted that way.
-/

namespace Ntvdmex.Dos.Xms

open Foundation UInt32 List Nat

/-- `address` is a byte of the memory an endpoint names. -/
def InEndpoint (pool : DosXmsState) (conventionalBase : Nat) (handle : UInt16)
    (address : Nat) : Prop :=
  if handle = dosXmsConventionalHandle then
    ∃ linear < dosXmsConventionalLimit.toNat, address = conventionalBase + linear
  else
    ∃ slot, dosXmsGetHandle pool handle = some slot ∧
      ∃ offset < blockBytes (pool.handles slot).sizeKb,
        address = (pool.handles slot).memory + offset

/-- A successful move reads and writes only what it names, and a refused one leaves
every byte as it was. -/
def MoveStaysInside (machine : XmsMachine) (conventionalBase : Nat)
    (move : DosXmsMoveStructure) : Prop :=
  ((dosXmsMove machine conventionalBase move).result = .ok () →
    ∀ access ∈ (dosXmsMove machine conventionalBase move).accesses,
      InEndpoint machine.pool conventionalBase move.sourceHandle access.1 ∧
      InEndpoint machine.pool conventionalBase move.destinationHandle access.2) ∧
  ∀ error, (dosXmsMove machine conventionalBase move).result = .error error →
    (dosXmsMove machine conventionalBase move).heap = machine.heap

/-- The endpoint's bytes, counted without wrapping, lie inside what it names. -/
def EndpointFits (pool : DosXmsState) (handle : UInt16) (offset length : UInt32) : Prop :=
  if handle = dosXmsConventionalHandle then
    (farLinear offset).toNat + length.toNat ≤ dosXmsConventionalLimit.toNat
  else
    ∃ slot, dosXmsGetHandle pool handle = some slot ∧
      offset.toNat + length.toNat ≤ blockBytes (pool.handles slot).sizeKb

def EndpointWraps (handle : UInt16) (offset length : UInt32) : Prop :=
  handle = dosXmsConventionalHandle ∧ 2 ^ 32 ≤ (farLinear offset).toNat + length.toNat

/-- The move is empty, has an odd length, is refused for an endpoint that neither fits
nor wraps, or has no endpoint that wraps. -/
def MoveAvoidsWrap (pool : DosXmsState) (move : DosXmsMoveStructure) : Prop :=
  move.length = 0 ∨ move.length &&& dosXmsOddLengthMask ≠ 0 ∨
  ¬ (EndpointFits pool move.sourceHandle move.sourceOffset move.length ∨
      EndpointWraps move.sourceHandle move.sourceOffset move.length) ∨
  ¬ (EndpointFits pool move.destinationHandle move.destinationOffset move.length ∨
      EndpointWraps move.destinationHandle move.destinationOffset move.length) ∨
  ¬ (EndpointWraps move.sourceHandle move.sourceOffset move.length ∨
      EndpointWraps move.destinationHandle move.destinationOffset move.length)

/-! ## The endpoint check -/

theorem farLinear_toNat (farPointer : UInt32) :
    (farLinear farPointer).toNat =
      farPointer.toNat / 65536 * 16 + farPointer.toNat % 65536 := by
  have hbound := farPointer.toNat_lt
  have hmask : ∀ n : Nat, n &&& 65535 = n % 65536 :=
    fun n => and_two_pow_sub_one_eq_mod n 16
  have hshift : dosXmsFarSegmentShift.toNat = 16 := rfl
  have hpara : paragraphShift.toNat = 4 := rfl
  have hword : wordMask.toNat = 65535 := rfl
  have hsegment : farPointer.toNat / 65536 < 65536 := by lia
  have hhigh : 2 ^ (16 % 32) = 65536 := rfl
  have hlow : 2 ^ (4 % 32) = 16 := rfl
  rw [farLinear, UInt32.toNat_add, UInt32.toNat_shiftLeft, UInt32.toNat_and,
    UInt32.toNat_shiftRight, UInt32.toNat_and, hshift, hpara, hword, hmask, hmask,
    shiftRight_eq_div_pow, shiftLeft_eq, hhigh, hlow, mod_eq_of_lt hsegment]
  lia

theorem farLinear_lt (farPointer : UInt32) :
    (farLinear farPointer).toNat < dosXmsConventionalLimit.toNat := by
  have hbound := farPointer.toNat_lt
  have hlimit : dosXmsConventionalLimit.toNat = 0x10FFF0 := rfl
  rw [farLinear_toNat, hlimit]
  omega

theorem conventional_accepted_iff (offset length : UInt32) :
    ¬ dosXmsConventionalLimit < farLinear offset + length ↔
      (farLinear offset).toNat + length.toNat ≤ dosXmsConventionalLimit.toNat ∨
        2 ^ 32 ≤ (farLinear offset).toNat + length.toNat := by
  have hlinear := farLinear_lt offset
  have hlength := length.toNat_lt
  rw [UInt32.not_lt, le_iff_toNat_le, UInt32.toNat_add]
  omega

theorem blockBytes_toNat {sizeKb : UInt32} (h : sizeKb.toNat < 2 ^ 22) :
    (sizeKb * dosXmsBytesPerKb).toNat = blockBytes sizeKb := by
  have hunit : dosXmsBytesPerKb.toNat = 1024 := rfl
  rw [UInt32.toNat_mul, hunit]
  exact mod_eq_of_lt (by omega)

/-- The check on an EMB is the unwrapped one. -/
theorem block_accepted_iff {sizeKb : UInt32} (h : sizeKb.toNat < 2 ^ 22)
    (offset length : UInt32) :
    ¬ (sizeKb * dosXmsBytesPerKb < offset ∨
        sizeKb * dosXmsBytesPerKb - offset < length) ↔
      offset.toNat + length.toNat ≤ blockBytes sizeKb := by
  have hbytes := blockBytes_toNat h
  rw [not_or, UInt32.not_lt, UInt32.not_lt, le_iff_toNat_le, le_iff_toNat_le]
  constructor
  · rintro ⟨hoffset, hlength⟩
    rw [UInt32.toNat_sub_of_le _ _ (le_iff_toNat_le.2 hoffset)] at hlength
    lia
  · intro hfits
    have hoffset : offset.toNat ≤ (sizeKb * dosXmsBytesPerKb).toNat := by lia
    rw [UInt32.toNat_sub_of_le _ _ (le_iff_toNat_le.2 hoffset)]
    lia

section Endpoint

variable {pool : DosXmsState} {conventionalBase address : Nat} {handle : UInt16}
  {offset length : UInt32}

def IsEndpointStart (pool : DosXmsState) (conventionalBase : Nat) (handle : UInt16)
    (offset : UInt32) (address : Nat) : Prop :=
  if handle = dosXmsConventionalHandle then
    address = conventionalBase + (farLinear offset).toNat
  else
    ∃ slot, dosXmsGetHandle pool handle = some slot ∧
      address = (pool.handles slot).memory + offset.toNat

theorem dosXmsMoveEndpoint_cases (hsizes : ∀ slot, (pool.handles slot).sizeKb.toNat < 2 ^ 22)
    (conventionalBase : Nat) (handle : UInt16) (offset length : UInt32)
    (handleError offsetError : DosXmsError) :
    ((∃ error, dosXmsMoveEndpoint pool conventionalBase handle offset length handleError
        offsetError = .error error) ∧
      ¬ (EndpointFits pool handle offset length ∨ EndpointWraps handle offset length)) ∨
    ∃ address, dosXmsMoveEndpoint pool conventionalBase handle offset length handleError
        offsetError = .ok address ∧
      (EndpointFits pool handle offset length ∨ EndpointWraps handle offset length) ∧
      IsEndpointStart pool conventionalBase handle offset address := by
  unfold dosXmsMoveEndpoint EndpointFits EndpointWraps IsEndpointStart
  by_cases hconventional : handle = dosXmsConventionalHandle
  · simp only [if_pos hconventional]
    have haccepted := conventional_accepted_iff offset length
    by_cases hcheck : dosXmsConventionalLimit < farLinear offset + length
    · rw [if_pos hcheck]
      refine .inl ⟨⟨_, rfl⟩, fun hreach => absurd hcheck (haccepted.2 ?_)⟩
      exact hreach.imp_right fun hwraps => hwraps.2
    · rw [if_neg hcheck]
      refine .inr ⟨_, rfl, ?_, rfl⟩
      exact (haccepted.1 hcheck).imp_right fun hwraps => ⟨hconventional, hwraps⟩
  · simp only [if_neg hconventional]
    cases hslot : dosXmsGetHandle pool handle with
    | none =>
      refine .inl ⟨⟨_, rfl⟩, ?_⟩
      rintro (⟨slot, hother, -⟩ | ⟨hother, -⟩)
      · cases hother
      · exact hconventional hother
    | some slot =>
      dsimp only
      have haccepted := block_accepted_iff (hsizes slot) offset length
      by_cases hcheck : (pool.handles slot).sizeKb * dosXmsBytesPerKb < offset ∨
          (pool.handles slot).sizeKb * dosXmsBytesPerKb - offset < length
      · rw [if_pos hcheck]
        refine .inl ⟨⟨_, rfl⟩, ?_⟩
        rintro (⟨slot', hother, hfits⟩ | ⟨hother, -⟩)
        · cases hother
          exact haccepted.2 hfits hcheck
        · exact hconventional hother
      · rw [if_neg hcheck]
        exact .inr ⟨_, rfl, .inl ⟨slot, rfl, haccepted.1 hcheck⟩, slot, rfl, rfl⟩

theorem IsEndpointStart.inside
    (hstart : IsEndpointStart pool conventionalBase handle offset address)
    (hfits : EndpointFits pool handle offset length) {i : Nat} (hi : i < length.toNat) :
    InEndpoint pool conventionalBase handle (address + i) := by
  unfold IsEndpointStart at hstart
  unfold EndpointFits at hfits
  unfold InEndpoint
  by_cases hconventional : handle = dosXmsConventionalHandle
  · rw [if_pos hconventional] at hstart hfits ⊢
    exact ⟨(farLinear offset).toNat + i, by lia, by lia⟩
  · rw [if_neg hconventional] at hstart hfits ⊢
    obtain ⟨slot, hslot, haddress⟩ := hstart
    obtain ⟨slot', hslot', hend⟩ := hfits
    cases hslot.symm.trans hslot'
    exact ⟨slot, hslot, offset.toNat + i, by lia, by lia⟩

theorem IsEndpointStart.outside
    (hstart : IsEndpointStart pool conventionalBase handle offset address)
    (hwraps : EndpointWraps handle offset length) :
    ¬ InEndpoint pool conventionalBase handle (address + (length.toNat - 1)) := by
  unfold IsEndpointStart at hstart
  unfold InEndpoint
  rw [if_pos hwraps.1] at hstart ⊢
  rintro ⟨linear, hlinear, haddress⟩
  have hlimit : dosXmsConventionalLimit.toNat = 0x10FFF0 := rfl
  have hend := hwraps.2
  lia

end Endpoint

/-! ## The move -/

theorem mem_moveAccesses {source destination length : Nat} {access : Nat × Nat} :
    access ∈ moveAccesses source destination length ↔
      ∃ i < length, access = (source + i, destination + i) := by
  have hup : access ∈ (range length).map (fun i => (source + i, destination + i)) ↔
      ∃ i < length, access = (source + i, destination + i) := by
    simp only [mem_map, mem_range]
    constructor
    · rintro ⟨i, hi, rfl⟩
      exact ⟨i, hi, rfl⟩
    · rintro ⟨i, hi, rfl⟩
      exact ⟨i, hi, rfl⟩
  unfold moveAccesses
  by_cases hle : destination ≤ source
  · rw [if_pos hle]
    exact hup
  · rw [if_neg hle, mem_reverse]
    exact hup

/-- A move is an empty one, is refused and touches nothing, or resolves both endpoints
and copies. -/
theorem dosXmsMove_cases {machine : XmsMachine}
    (hsizes : ∀ slot, (machine.pool.handles slot).sizeKb.toNat < 2 ^ 22)
    (conventionalBase : Nat) (move : DosXmsMoveStructure) :
    (move.length = 0 ∧
      dosXmsMove machine conventionalBase move = ⟨machine.heap, [], .ok ()⟩) ∨
    (∃ error, MoveAvoidsWrap machine.pool move ∧
      dosXmsMove machine conventionalBase move = ⟨machine.heap, [], .error error⟩) ∨
    ∃ source destination heap,
      move.length ≠ 0 ∧ ¬ move.length &&& dosXmsOddLengthMask ≠ 0 ∧
      (EndpointFits machine.pool move.sourceHandle move.sourceOffset move.length ∨
        EndpointWraps move.sourceHandle move.sourceOffset move.length) ∧
      (EndpointFits machine.pool move.destinationHandle move.destinationOffset move.length ∨
        EndpointWraps move.destinationHandle move.destinationOffset move.length) ∧
      IsEndpointStart machine.pool conventionalBase move.sourceHandle move.sourceOffset
        source ∧
      IsEndpointStart machine.pool conventionalBase move.destinationHandle
        move.destinationOffset destination ∧
      dosXmsMove machine conventionalBase move =
        ⟨heap, moveAccesses source destination move.length.toNat, .ok ()⟩ := by
  unfold dosXmsMove
  by_cases hempty : move.length = 0
  · rw [if_pos hempty]
    exact .inl ⟨hempty, rfl⟩
  rw [if_neg hempty]
  by_cases hodd : move.length &&& dosXmsOddLengthMask ≠ 0
  · rw [if_pos hodd]
    exact .inr (.inl ⟨_, .inr (.inl hodd), rfl⟩)
  rw [if_neg hodd]
  obtain ⟨⟨error, hrefused⟩, hreach⟩ | ⟨source, hresolved, hsource, hsourceStart⟩ :=
    dosXmsMoveEndpoint_cases hsizes conventionalBase move.sourceHandle move.sourceOffset
      move.length .invalidSourceHandle .invalidSourceOffset
  · rw [hrefused]
    exact .inr (.inl ⟨_, .inr (.inr (.inl hreach)), rfl⟩)
  rw [hresolved]
  obtain ⟨⟨error, hrefused⟩, hreach⟩ | ⟨destination, hresolved', hdest, hdestStart⟩ :=
    dosXmsMoveEndpoint_cases hsizes conventionalBase move.destinationHandle
      move.destinationOffset move.length .invalidDestinationHandle .invalidDestinationOffset
  · rw [hrefused]
    exact .inr (.inl ⟨_, .inr (.inr (.inr (.inl hreach))), rfl⟩)
  rw [hresolved']
  exact .inr (.inr ⟨source, destination, _, hempty, hodd, hsource, hdest, hsourceStart,
    hdestStart, rfl⟩)

section Inside

variable {machine : XmsMachine} {conventionalBase : Nat} {move : DosXmsMoveStructure}

theorem MoveStaysInside.avoidsWrap
    (hsizes : ∀ slot, (machine.pool.handles slot).sizeKb.toNat < 2 ^ 22)
    (h : MoveStaysInside machine conventionalBase move) :
    MoveAvoidsWrap machine.pool move := by
  obtain ⟨hempty, -⟩ | ⟨error, havoid, -⟩ |
      ⟨source, destination, heap, hlength, -, -, -, hsourceStart, hdestStart, hmove⟩ :=
    dosXmsMove_cases hsizes conventionalBase move
  · exact .inl hempty
  · exact havoid
  · have hpos : 0 < move.length.toNat :=
      Nat.pos_of_ne_zero fun hzero => hlength (UInt32.toNat_inj.1 hzero)
    have hinside := h.1
    rw [hmove] at hinside
    have hlast := hinside rfl
      (source + (move.length.toNat - 1), destination + (move.length.toNat - 1))
      (mem_moveAccesses.2 ⟨_, by omega, rfl⟩)
    refine .inr (.inr (.inr (.inr ?_)))
    rintro (hwraps | hwraps)
    · exact hsourceStart.outside hwraps hlast.1
    · exact hdestStart.outside hwraps hlast.2

theorem MoveAvoidsWrap.staysInside
    (hsizes : ∀ slot, (machine.pool.handles slot).sizeKb.toNat < 2 ^ 22)
    (h : MoveAvoidsWrap machine.pool move) : MoveStaysInside machine conventionalBase move := by
  unfold MoveStaysInside
  obtain ⟨hempty, hmove⟩ | ⟨error, havoid, hmove⟩ |
      ⟨source, destination, heap, hlength, hodd, hsource, hdest, hsourceStart, hdestStart,
        hmove⟩ :=
    dosXmsMove_cases hsizes conventionalBase move
  · rw [hmove]
    refine ⟨fun _ access hmem => absurd hmem not_mem_nil, fun error herror => ?_⟩
    cases herror
  · rw [hmove]
    refine ⟨fun hok => ?_, fun _ _ => rfl⟩
    cases hok
  · rw [hmove]
    have hnone : ¬ (EndpointWraps move.sourceHandle move.sourceOffset move.length ∨
        EndpointWraps move.destinationHandle move.destinationOffset move.length) := by
      rcases h with hempty | hisOdd | hnot | hnot | hnot
      · exact absurd hempty hlength
      · exact absurd hisOdd hodd
      · exact absurd hsource hnot
      · exact absurd hdest hnot
      · exact hnot
    refine ⟨fun _ access hmem => ?_, fun error herror => by cases herror⟩
    obtain ⟨i, hi, rfl⟩ := mem_moveAccesses.1 hmem
    have hsourceFits := hsource.resolve_right fun hwraps => hnone (.inl hwraps)
    have hdestFits := hdest.resolve_right fun hwraps => hnone (.inr hwraps)
    exact ⟨hsourceStart.inside hsourceFits hi, hdestStart.inside hdestFits hi⟩

end Inside

/-- A move stays inside the memory it names if and only if no endpoint of the move that is
carried out ends past 2^32. -/
theorem xms_move_stays_inside_iff {machine : XmsMachine}
    (hsizes : ∀ slot, (machine.pool.handles slot).sizeKb.toNat < 2 ^ 22)
    (conventionalBase : Nat) (move : DosXmsMoveStructure) :
    MoveStaysInside machine conventionalBase move ↔ MoveAvoidsWrap machine.pool move :=
  ⟨fun h => h.avoidsWrap hsizes, fun h => h.staysInside hsizes⟩

theorem dosXmsInitialize_sizes (totalKb : UInt32) (hasAllocate hasFree : Bool)
    (slot : Fin dosXmsMaxHandles) :
    ((dosXmsInitialize totalKb hasAllocate hasFree).handles slot).sizeKb.toNat < 2 ^ 22 := by
  rw [dosXmsInitialize, unusedHandle, UInt32.toNat_zero]
  exact Nat.two_pow_pos 22

/-- Sixteen bytes from 1000:0010 to 2000:0000. -/
theorem xms_move_stays_inside_conventional :
    MoveStaysInside ⟨dosXmsInitialize 16 true true, fun _ => 0⟩ 0
      ⟨16, 0, 0x10000010, 0, 0x20000000⟩ := by
  refine (xms_move_stays_inside_iff (dosXmsInitialize_sizes 16 true true) _ _).2 (.inr (.inr (.inr (.inr ?_))))
  unfold EndpointWraps
  decide

theorem xms_move_leaves_memory :
    ¬ MoveStaysInside ⟨dosXmsInitialize 16 true true, fun _ => 0⟩ 0
      ⟨0xFFFFFFFE, 0, 0x00010000, 0, 0x00010000⟩ := by
  intro hinside
  have havoid := hinside.avoidsWrap (dosXmsInitialize_sizes 16 true true)
  unfold MoveAvoidsWrap EndpointFits EndpointWraps at havoid
  revert havoid
  decide

/-!
## An XMS move as a simultaneous copy

The loops run up when the destination does not lie above the source and down when it does.  Either
way a byte is read before the loop has written it, so the destination gets what the source held
when the move began.
-/

variable (memory : ByteMemory)

/-- The memory after the loop that `DosXmsMove` chooses. -/
def moveCopy (destination source length : Nat) : ByteMemory :=
  if destination ≤ source then memory.copyUp destination source length
  else memory.copyDown destination source length

theorem moveCopy_apply {destination source length i : Nat} (hi : i < length) :
    moveCopy memory destination source length (destination + i) = memory (source + i) := by
  unfold moveCopy
  split
  · rename_i hle
    exact ByteMemory.copyUp_apply memory (.inl hle) hi
  · rename_i hgt
    exact ByteMemory.copyDown_apply memory (by omega) hi

theorem moveCopy_other {destination source length address : Nat}
    (h : address < destination ∨ destination + length ≤ address) :
    moveCopy memory destination source length address = memory address := by
  unfold moveCopy
  split
  · exact ByteMemory.copyUp_other memory h
  · exact ByteMemory.copyDown_other memory h

variable {pool : DosXmsState} {conventionalBase : Nat}

theorem dosXmsMoveEndpoint_start {handle : UInt16} {offset length : UInt32}
    {handleError offsetError : DosXmsError} {resolved address : Nat}
    (hresolved : dosXmsMoveEndpoint pool conventionalBase handle offset length handleError
      offsetError = .ok resolved)
    (hstart : IsEndpointStart pool conventionalBase handle offset address) :
    resolved = address := by
  unfold dosXmsMoveEndpoint at hresolved
  unfold IsEndpointStart at hstart
  by_cases hconventional : handle = dosXmsConventionalHandle
  · rw [if_pos hconventional] at hresolved hstart
    split at hresolved
    · cases hresolved
    · cases hresolved
      exact hstart.symm
  · rw [if_neg hconventional] at hresolved hstart
    obtain ⟨slot, hslot, haddress⟩ := hstart
    rw [hslot] at hresolved
    dsimp only at hresolved
    split at hresolved
    · cases hresolved
    · cases hresolved
      exact haddress.symm

/-- An endpoint of a move: where it starts, and that all of it lies inside what it names. -/
structure EndpointAt (pool : DosXmsState) (conventionalBase : Nat) (handle : UInt16)
    (offset length : UInt32) (address : Nat) : Prop where
  start : IsEndpointStart pool conventionalBase handle offset address
  inside : EndpointFits pool handle offset length

/-- An accepted move between ranges inside the named blocks copies the bytes the source held
before it to the destination, however the two overlap, and changes no other byte. -/
theorem xms_move_is_simultaneous (machine : XmsMachine) (conventionalBase : Nat)
    (move : DosXmsMoveStructure) {source destination : Nat}
    (haccepted : (dosXmsMove machine conventionalBase move).result = .ok ())
    (hsource : EndpointAt machine.pool conventionalBase move.sourceHandle move.sourceOffset
      move.length source)
    (hdestination : EndpointAt machine.pool conventionalBase move.destinationHandle
      move.destinationOffset move.length destination) :
    (∀ i < move.length.toNat,
      (dosXmsMove machine conventionalBase move).heap (destination + i) =
        machine.heap (source + i)) ∧
    ∀ address, address < destination ∨ destination + move.length.toNat ≤ address →
      (dosXmsMove machine conventionalBase move).heap address = machine.heap address := by
  have hheap : (dosXmsMove machine conventionalBase move).heap =
      moveCopy machine.heap destination source move.length.toNat := by
    unfold dosXmsMove at haccepted ⊢
    by_cases hempty : move.length = 0
    · rw [if_pos hempty, hempty]
      unfold moveCopy
      split <;> rfl
    · rw [if_neg hempty] at haccepted ⊢
      by_cases hodd : move.length &&& dosXmsOddLengthMask ≠ 0
      · rw [if_pos hodd] at haccepted
        cases haccepted
      · rw [if_neg hodd] at haccepted ⊢
        split at haccepted
        · cases haccepted
        · rename_i resolved hresolved
          split at haccepted
          · cases haccepted
          · rename_i resolved' hresolved'
            rw [dosXmsMoveEndpoint_start hresolved hsource.start,
              dosXmsMoveEndpoint_start hresolved' hdestination.start]
            rfl
  rw [hheap]
  exact ⟨fun i hi => moveCopy_apply machine.heap hi,
    fun address haddress => moveCopy_other machine.heap haddress⟩

/-- Conventional memory that holds its own low address bytes. -/
def countingMachine : XmsMachine :=
  ⟨dosXmsInitialize 16 true true, fun address => UInt8.ofNat address⟩

/-- Six bytes from 0000:0010 two bytes up, the source given as 0001:0000. -/
def slidingMove : DosXmsMoveStructure := ⟨6, 0, 0x00010000, 0, 0x00000012⟩

theorem xms_move_is_simultaneous_sliding :
    (∀ i < 6, (dosXmsMove countingMachine 0 slidingMove).heap (0x12 + i) =
      countingMachine.heap (0x10 + i)) ∧
    ∀ address, address < 0x12 ∨ 0x12 + 6 ≤ address →
      (dosXmsMove countingMachine 0 slidingMove).heap address = countingMachine.heap address := by
  refine xms_move_is_simultaneous countingMachine 0 slidingMove ?_ ⟨?_, ?_⟩ ⟨?_, ?_⟩
  · decide
  · exact (by decide : 0x10 = 0 + (farLinear 0x00010000).toNat)
  · exact (by decide : (farLinear 0x00010000).toNat + 6 ≤ dosXmsConventionalLimit.toNat)
  · exact (by decide : 0x12 = 0 + (farLinear 0x00000012).toNat)
  · exact (by decide : (farLinear 0x00000012).toNat + 6 ≤ dosXmsConventionalLimit.toNat)

end Ntvdmex.Dos.Xms
