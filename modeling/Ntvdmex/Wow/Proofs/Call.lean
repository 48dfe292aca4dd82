import Ntvdmex.Foundation.FrameStack
import Ntvdmex.Foundation.Runs
import Ntvdmex.Wow.Call

/-!
# Calls and the registers of the TIB

What is written to a register is read back, other registers are untouched, and a saved
block comes back byte for byte.
-/

namespace Ntvdmex.Wow.Call

open Foundation.WordStack BitVec Function WowCall

/-! ## The bytes of a register -/

variable (bytes : TibBytes) (low : BitVec 8) {other : Nat} (offset : Nat) (second : BitVec 8)
  (value : BitVec 32) (third : BitVec 8)

theorem byte_zero (high : BitVec 8) : (high ++ third ++ second ++ low).setWidth 8 = low := by
  ext i hi
  simp only [getElem_setWidth, getLsbD_append]
  rw [if_pos (by omega), getLsbD_eq_getElem hi]

theorem byte_one (high : BitVec 8) :
    ((high ++ third ++ second ++ low) >>> 8).setWidth 8 = second := by
  ext i hi
  simp only [getElem_setWidth, getLsbD_ushiftRight, getLsbD_append]
  rw [if_neg (by omega), if_pos (by omega), Nat.add_sub_cancel_left, getLsbD_eq_getElem hi]

theorem byte_two (high : BitVec 8) :
    ((high ++ third ++ second ++ low) >>> 16).setWidth 8 = third := by
  ext i hi
  simp only [getElem_setWidth, getLsbD_ushiftRight, getLsbD_append]
  rw [if_neg (by lia), if_neg (by lia), if_pos (by lia),
    show 16 + i - 8 - 8 = i by lia, getLsbD_eq_getElem hi]

theorem byte_three (high : BitVec 8) :
    ((high ++ third ++ second ++ low) >>> 24).setWidth 8 = high := by
  ext i hi
  simp only [getElem_setWidth, getLsbD_ushiftRight, getLsbD_append]
  rw [if_neg (by lia), if_neg (by lia), if_neg (by lia),
    show 24 + i - 8 - 8 - 8 = i by lia, getLsbD_eq_getElem hi]

theorem bytes_join :
    (value >>> 24).setWidth 8 ++ (value >>> 16).setWidth 8 ++ (value >>> 8).setWidth 8 ++
      value.setWidth 8 = value := by
  ext i hi
  simp only [getElem_append, getElem_setWidth, getLsbD_ushiftRight]
  split
  · exact getLsbD_eq_getElem hi
  · split
    · rw [show 8 + (i - 8) = i by omega, getLsbD_eq_getElem hi]
    · split
      · rw [show 16 + (i - 8 - 8) = i by omega, getLsbD_eq_getElem hi]
      · rw [show 24 + (i - 8 - 8 - 8) = i by omega, getLsbD_eq_getElem hi]

theorem vdmSet_vdmReg : vdmSet bytes offset (vdmReg bytes offset) = bytes := by
  funext i
  unfold vdmSet vdmReg
  split
  · rename_i hi
    rw [byte_zero, hi]
  · split
    · rename_i hi
      rw [byte_one, hi]
    · split
      · rename_i hi
        rw [byte_two, hi]
      · split
        · rename_i hi
          rw [byte_three, hi]
        · rfl

@[simp] theorem vdmReg_vdmSet_same : vdmReg (vdmSet bytes offset value) offset = value := by
  unfold vdmReg vdmSet
  rw [if_neg (by lia), if_neg (by lia), if_neg (by lia), if_pos rfl, if_neg (by lia),
    if_neg (by lia), if_pos rfl, if_neg (by lia), if_pos rfl, if_pos rfl]
  exact bytes_join value

theorem vdmReg_vdmSet_other {bytes : TibBytes} {offset : Nat}
    (hapart : other + 3 < offset ∨ offset + 3 < other) :
    vdmReg (vdmSet bytes offset value) other = vdmReg bytes other := by
  have hbyte : ∀ i, i < offset ∨ offset + 3 < i → vdmSet bytes offset value i = bytes i := by
    intro i hi
    unfold vdmSet
    rw [if_neg (by lia), if_neg (by lia), if_neg (by lia), if_neg (by lia)]
  unfold vdmReg
  rw [hbyte _ (by lia), hbyte _ (by lia), hbyte _ (by lia), hbyte _ (by lia)]

@[simp] theorem vdmReg16_vdmSet16_same (value : BitVec 16) :
    vdmReg16 (vdmSet16 bytes offset value) offset = value := by
  unfold vdmReg16 vdmSet16
  rw [vdmReg_vdmSet_same]
  generalize vdmReg bytes offset = old
  ext i hi
  have hmask : (0xFFFF0000 : BitVec 32).getLsbD i = false := by
    interval_cases i <;> rfl
  simp only [getElem_setWidth, getLsbD_or, getLsbD_and, hmask, Bool.and_false,
    Bool.false_or, getLsbD_setWidth]
  rw [decide_eq_true (by omega), Bool.true_and, getLsbD_eq_getElem hi]

theorem vdmReg16_vdmSet16_other {bytes : TibBytes} {offset : Nat} (value : BitVec 16)
    (hapart : other + 3 < offset ∨ offset + 3 < other) :
    vdmReg16 (vdmSet16 bytes offset value) other = vdmReg16 bytes other := by
  unfold vdmReg16 vdmSet16
  rw [vdmReg_vdmSet_other _ hapart]

theorem vdmReg16_vdmSet_other {bytes : TibBytes} {offset : Nat}
    (hapart : other + 3 < offset ∨ offset + 3 < other) :
    vdmReg16 (vdmSet bytes offset value) other = vdmReg16 bytes other := by
  unfold vdmReg16
  rw [vdmReg_vdmSet_other _ hapart]

theorem registers_stackPointer (call : WowCall) (tib : TibBytes) (stackPointer : BitVec 16) :
    vdmReg16 (call.registers tib stackPointer) vtibEsp = stackPointer := by
  have heip : vtibEsp + 3 < vtibEip ∨ vtibEip + 3 < vtibEsp := by decide
  have hcs : vtibEsp + 3 < vtibCs ∨ vtibCs + 3 < vtibEsp := by decide
  have hds : vtibEsp + 3 < vtibDs ∨ vtibDs + 3 < vtibEsp := by decide
  have heax : vtibEsp + 3 < vtibEax ∨ vtibEax + 3 < vtibEsp := by decide
  unfold registers
  split <;>
    rw [vdmReg16_vdmSet_other _ heip, vdmReg16_vdmSet16_other _ hcs,
      vdmReg16_vdmSet16_other _ hds, vdmReg16_vdmSet16_other _ heax, vdmReg16_vdmSet16_same]

theorem wowSchedSave_context (currentBase : Int) (tib : TibBytes) (modeLinear : BitVec 32)
    (task : BitVec 16) {i : Nat} (hi : i < wowSchedCtxLen) :
    (wowSchedSave currentBase tib modeLinear task 0).context i = tib (wowSchedCtxLo + i) := by
  have hadd : ∀ eip : BitVec 32, eip + 0 = eip := add_zero
  unfold wowSchedSave
  dsimp only
  rw [hadd, vdmSet_vdmReg, if_pos hi]

theorem wowSchedRestore_block (slot : WowSchedSlot) (tib : TibBytes) {i : Nat}
    (hi : i < wowSchedCtxLen) : wowSchedRestore slot tib (wowSchedCtxLo + i) = slot.context i := by
  unfold wowSchedRestore
  rw [if_pos ⟨Nat.le_add_right _ _, Nat.add_lt_add_left hi _⟩, Nat.add_sub_cancel_left]

/-!
## Calls nest and leave no trace

An accepted call writes only the stack below the pointer it found, and lays it out as the
procedure expects.  Calls in flight form a stack of contexts, and a return puts the last one
back whatever the guest did in between.
-/

open Foundation.WordStack
open Foundation (Run Stacked)

/-- The argument word belongs to a far pointer into the structure. -/
def WowCall.namesBlob (call : WowCall) (calls : WowCalls) (i : Nat) : Prop :=
  call.hasBlob = true ∧
    (i = call.blobArgument.toNat ∨ i = call.blobArgument.toNat + 1 ∨
      call.hasBlob2 calls = true ∧
        (i = calls.blob2Argument.toNat ∨ i = calls.blob2Argument.toNat + 1))

def WowCall.stackBytes (call : WowCall) : Nat :=
  (if call.hasBlob then call.blobBytes else 0) + 2 * call.argumentWordCount.toNat + 4 +
    if call.isAbsent then 4 else 0

/-- The stack as the procedure finds it. -/
structure LaysOut (call : WowCall) (before after : WowCalls) (arguments : List (BitVec 16))
    (blobOffset : BitVec 16) : Prop where
  count : arguments.length = call.argumentWordCount.toNat
  words : wordsAt after.memory call.stackBase (vdmReg16 after.tib vtibEsp)
      ((if call.isAbsent then 2 else 0) + 2 + arguments.length) =
    (if call.isAbsent then [call.procedureOffset, call.procedureSelector] else []) ++
      [0, call.returnSelector] ++ arguments.reverse
  given : ∀ i < arguments.length, ¬call.namesBlob before i →
    arguments[i]? = some (call.argumentWords i)
  pair : call.hasBlob = true →
    arguments[call.blobArgument.toNat]? = some (vdmReg16 before.tib vtibSs) ∧
      arguments[call.blobArgument.toNat + 1]? = some blobOffset
  pair2 : call.hasBlob = true → call.hasBlob2 before = true →
    arguments[before.blob2Argument.toNat]? = some (vdmReg16 before.tib vtibSs) ∧
      arguments[before.blob2Argument.toNat + 1]? =
        some (blobOffset + BitVec.ofInt 16 before.blob2Offset)
  blob : call.hasBlob = true → ∀ bytes, call.blob = some bytes →
    ∀ i < call.blobLength.toNat,
      after.memory (segmentAddress call.stackBase (blobOffset + BitVec.ofNat 16 i)) = bytes i

/-- An accepted call: only bytes just below the stack pointer change, and they are laid out. -/
structure Enters (call : WowCall) (before after : WowCalls) : Prop where
  writes : ChangesOnly call.stackBase (isBelow (vdmReg16 before.tib vtibEsp) call.stackBytes)
    before.memory after.memory
  stackPointer : vdmReg16 after.tib vtibEsp =
    vdmReg16 before.tib vtibEsp - BitVec.ofNat 16 call.stackBytes
  layout : ∃ arguments blobOffset, LaysOut call before after arguments blobOffset

/-- No word is pushed at offset `FFFFh`, and a second pointer names words of its own. -/
structure WowCall.IsClear (call : WowCall) (calls : WowCalls) : Prop where
  top : clearsTop (call.argumentPointer calls) (call.pushes calls).length
  pairs : call.hasBlob = true → call.hasBlob2 calls = true →
    call.blobArgument + 1 < calls.blob2Argument ∨ calls.blob2Argument + 1 < call.blobArgument

/-! ## The accepted ranges -/

structure WowCall.Ranges (call : WowCall) : Prop where
  count_nonneg : 0 ≤ call.argumentWordCount
  count_le : call.argumentWordCount ≤ 32
  blob_nonneg : 0 ≤ call.blobLength
  blob_le : call.blobLength ≤ 1024

theorem ranges_of_accepted {call : WowCall} {calls : WowCalls}
    (haccepted : call.isRefused calls = false) : call.Ranges := by
  have hnot := of_decide_eq_false haccepted
  have hcount : wowCallMaxArgw = 32 := rfl
  have hblob : wowCallMaxBlob = 1024 := rfl
  refine ⟨?_, ?_, ?_, ?_⟩ <;> omega

theorem depth_of_accepted {call : WowCall} {calls : WowCalls}
    (haccepted : call.isRefused calls = false) : calls.depth < 8 := by
  have hnot := of_decide_eq_false haccepted
  have hdepth : wowCallMaxDepth = 8 := rfl
  omega

theorem blobRange {call : WowCall} (hblob : call.hasBlob = true) :
    0 ≤ call.blobArgument ∧ call.blobArgument + 1 < call.argumentWordCount := by
  have h := of_decide_eq_true hblob
  exact ⟨h.2.2.1, h.2.2.2⟩

theorem blob2Range {call : WowCall} {calls : WowCalls} (hblob : call.hasBlob2 calls = true) :
    0 ≤ calls.blob2Argument ∧ calls.blob2Argument + 1 < call.argumentWordCount := by
  have h := of_decide_eq_true hblob
  exact ⟨h.1, h.2.1⟩

theorem blobBytes_le {call : WowCall} (hranges : call.Ranges) : call.blobBytes ≤ 1024 := by
  have hle := hranges.blob_le
  unfold blobBytes
  omega

theorem blobLength_le (call : WowCall) : call.blobLength.toNat ≤ call.blobBytes := by
  unfold blobBytes
  omega

theorem pushes_length (call : WowCall) (calls : WowCalls) :
    (call.pushes calls).length =
      call.argumentWordCount.toNat + 2 + if call.isAbsent then 2 else 0 := by
  unfold pushes
  cases call.isAbsent <;> simp

/-- The arguments are pushed from just below the structure. -/
theorem argumentPointer_eq (call : WowCall) (calls : WowCalls) :
    call.argumentPointer calls = vdmReg16 calls.tib vtibEsp -
      BitVec.ofNat 16 (if call.hasBlob then call.blobBytes else 0) := by
  unfold argumentPointer blobPointer
  split
  · rfl
  · exact (sub_zero _).symm

/-! ## The argument words -/

variable (arguments : Nat → BitVec 16) {contexts : List TibBytes}

theorem setPair_first (index : Int) (selector offset : BitVec 16) :
    setPair arguments index selector offset index.toNat = selector := by
  unfold setPair
  rw [update_of_ne (by omega), update_self]

theorem setPair_second (index : Int) (selector offset : BitVec 16) :
    setPair arguments index selector offset (index.toNat + 1) = offset := by
  unfold setPair
  rw [update_self]

theorem setPair_other {arguments : Nat → BitVec 16} {index : Int} {selector offset : BitVec 16}
    {i : Nat} (hfirst : i ≠ index.toNat) (hsecond : i ≠ index.toNat + 1) :
    setPair arguments index selector offset i = arguments i := by
  unfold setPair
  rw [update_of_ne hsecond, update_of_ne hfirst]

theorem arguments_given {call : WowCall} {calls : WowCalls} {i : Nat}
    (hnot : ¬call.namesBlob calls i) : call.arguments calls i = call.argumentWords i := by
  unfold arguments
  split
  · rename_i hblob
    split
    · rename_i hblob2
      rw [setPair_other (fun h => hnot ⟨hblob, .inr (.inr ⟨hblob2, .inl h⟩)⟩)
          (fun h => hnot ⟨hblob, .inr (.inr ⟨hblob2, .inr h⟩)⟩),
        setPair_other (fun h => hnot ⟨hblob, .inl h⟩) (fun h => hnot ⟨hblob, .inr (.inl h)⟩)]
    · exact setPair_other (fun h => hnot ⟨hblob, .inl h⟩) (fun h => hnot ⟨hblob, .inr (.inl h)⟩)
  · rfl

theorem arguments_pair {call : WowCall} {calls : WowCalls} (hclear : call.IsClear calls)
    (hblob : call.hasBlob = true) :
    call.arguments calls call.blobArgument.toNat = vdmReg16 calls.tib vtibSs ∧
      call.arguments calls (call.blobArgument.toNat + 1) = call.blobPointer calls := by
  obtain ⟨hlow, -⟩ := blobRange hblob
  unfold arguments
  rw [if_pos hblob]
  split
  · rename_i hblob2
    have hapart := hclear.pairs hblob hblob2
    obtain ⟨hlow2, -⟩ := blob2Range hblob2
    exact ⟨(setPair_other (by lia) (by lia)).trans (setPair_first _ _ _ _),
      (setPair_other (by lia) (by lia)).trans (setPair_second _ _ _ _)⟩
  · exact ⟨setPair_first _ _ _ _, setPair_second _ _ _ _⟩

theorem arguments_pair2 {call : WowCall} {calls : WowCalls} (hblob : call.hasBlob = true)
    (hblob2 : call.hasBlob2 calls = true) :
    call.arguments calls calls.blob2Argument.toNat = vdmReg16 calls.tib vtibSs ∧
      call.arguments calls (calls.blob2Argument.toNat + 1) =
        call.blobPointer calls + BitVec.ofInt 16 calls.blob2Offset := by
  unfold arguments
  rw [if_pos hblob, if_pos hblob2]
  exact ⟨setPair_first _ _ _ _, setPair_second _ _ _ _⟩

def WowCall.argumentList (call : WowCall) (calls : WowCalls) : List (BitVec 16) :=
  (List.range call.argumentWordCount.toNat).map (call.arguments calls)

theorem argumentList_length (call : WowCall) (calls : WowCalls) :
    (call.argumentList calls).length = call.argumentWordCount.toNat := by
  simp [argumentList]

theorem argumentList_get {call : WowCall} {calls : WowCalls} {i : Nat}
    (hi : i < call.argumentWordCount.toNat) :
    (call.argumentList calls)[i]? = some (call.arguments calls i) := by
  simp [argumentList, hi]

theorem pushes_reverse (call : WowCall) (calls : WowCalls) :
    (call.pushes calls).reverse =
      (if call.isAbsent then [call.procedureOffset, call.procedureSelector] else []) ++
        [0, call.returnSelector] ++ (call.argumentList calls).reverse := by
  unfold pushes argumentList
  cases call.isAbsent <;> simp

section

variable {call : WowCall} {calls : WowCalls}

theorem blobMemory_changes (hranges : call.Ranges) :
    ChangesOnly call.stackBase
      (isBelow (vdmReg16 calls.tib vtibEsp) (if call.hasBlob then call.blobBytes else 0))
      calls.memory (call.blobMemory calls) := by
  have hle := blobBytes_le hranges
  have hlength := blobLength_le call
  unfold blobMemory
  cases call.hasBlob with
  | false => exact ChangesOnly.refl _ _ _
  | true =>
    cases call.blob with
    | none => exact ChangesOnly.refl _ _ _
    | some bytes =>
      refine (storeBytes_changes _ _ _ _ _).mono fun offset hoffset => ?_
      rw [if_pos rfl]
      unfold blobPointer at hoffset
      unfold isBelow
      bv_omega

theorem blobMemory_byte (hranges : call.Ranges)
    (hblob : call.hasBlob = true) {bytes : Nat → BitVec 8} (hbytes : call.blob = some bytes)
    {i : Nat} (hi : i < call.blobLength.toNat) :
    call.blobMemory calls
      (segmentAddress call.stackBase (call.blobPointer calls + BitVec.ofNat 16 i)) = bytes i := by
  have hle := hranges.blob_le
  unfold blobMemory
  rw [hblob, hbytes]
  exact storeBytes_byte _ _ _ _ (by omega) hi

theorem wowCallEnter_refused
    (hrefused : (wowCallEnter call calls).2 = false) : (wowCallEnter call calls).1 = calls := by
  unfold wowCallEnter at hrefused ⊢
  split at hrefused
  · rename_i hcheck
    rw [if_pos hcheck]
  · cases hrefused

theorem accepted_of_entered
    (hentered : (wowCallEnter call calls).2 = true) : call.isRefused calls = false := by
  refine Bool.eq_false_of_not_eq_true fun hrefused => ?_
  unfold wowCallEnter at hentered
  rw [if_pos hrefused] at hentered
  cases hentered

theorem wowCallEnter_enters
    (hentered : (wowCallEnter call calls).2 = true) (hclear : call.IsClear calls) :
    Enters call calls (wowCallEnter call calls).1 := by
  have haccepted := accepted_of_entered hentered
  have hranges := ranges_of_accepted haccepted
  have hcount := hranges.count_le
  have hbytes := blobBytes_le hranges
  have hlength := pushes_length call calls
  have hfew : (call.pushes calls).length ≤ 36 := by
    rw [hlength]
    split <;> lia
  obtain ⟨hpointer, hchanges, hwords⟩ :=
    pushWords_spec call.stackBase (call.pushes calls)
      (call.blobMemory calls, call.argumentPointer calls) hclear.top (by lia)
  unfold wowCallEnter
  rw [if_neg (by rw [haccepted]; exact Bool.false_ne_true)]
  generalize hpushed : pushWords call.stackBase
    (call.blobMemory calls, call.argumentPointer calls) (call.pushes calls) = pushed
    at hpointer hchanges hwords ⊢
  obtain ⟨memory, stackPointer⟩ := pushed
  dsimp only at hpointer hchanges hwords ⊢
  have hbelow := argumentPointer_eq call calls
  have htotal : call.stackBytes = (if call.hasBlob then call.blobBytes else 0) +
      2 * (call.pushes calls).length := by
    rw [hlength]
    unfold stackBytes
    cases call.isAbsent <;> simp <;> lia
  have hblobBytes : (if call.hasBlob then call.blobBytes else 0) ≤ 1024 := by
    split <;> lia
  rw [hbelow] at hpointer hchanges
  refine ⟨?_, ?_, call.argumentList calls, call.blobPointer calls, ?_⟩
  · rw [htotal]
    refine ChangesOnly.trans ((blobMemory_changes hranges).mono fun offset hoffset =>
      isBelow_mono (by lia) hoffset) (hchanges.mono fun offset hoffset =>
        isBelow_shift hoffset)
  · rw [registers_stackPointer, hpointer, htotal]
    bv_omega
  · refine ⟨argumentList_length call calls, ?_, ?_, ?_, ?_, ?_⟩
    · rw [registers_stackPointer, ← pushes_reverse, ← hwords, argumentList_length, hlength]
      congr 1
      lia
    · intro i hi hnot
      rw [argumentList_length] at hi
      rw [argumentList_get hi, arguments_given hnot]
    · intro hblob
      obtain ⟨hlow, hhigh⟩ := blobRange hblob
      obtain ⟨hfirst, hsecond⟩ := arguments_pair hclear hblob
      rw [argumentList_get (by lia), argumentList_get (by lia), hfirst, hsecond]
      exact ⟨rfl, rfl⟩
    · intro hblob hblob2
      obtain ⟨hlow, hhigh⟩ := blob2Range hblob2
      obtain ⟨hfirst, hsecond⟩ := @arguments_pair2 _ calls hblob hblob2
      rw [argumentList_get (by lia), argumentList_get (by lia), hfirst, hsecond]
      exact ⟨rfl, rfl⟩
    · intro hblob bytes hsome i hi
      have hle := blobLength_le call
      have hkept : memory (segmentAddress call.stackBase
          (call.blobPointer calls + BitVec.ofNat 16 i)) =
          call.blobMemory calls (segmentAddress call.stackBase
            (call.blobPointer calls + BitVec.ofNat 16 i)) := by
        refine hchanges.byte ?_
        rw [if_pos hblob]
        show ¬isBelow (call.blobPointer calls) _ _
        unfold isBelow
        generalize call.blobPointer calls = pointer
        bv_omega
      dsimp only
      rw [hkept]
      exact blobMemory_byte hranges hblob hsome hi

end

/-! ## Runs -/

/-- A call or a return; the host arming a second pointer, naming what a frame is for or moving
the scheduler's base; the guest changing any register and any memory. -/
inductive WowCallEvent where
  | enter (call : WowCall)
  | leave (result : BitVec 32)
  | arm (argument offset : Int)
  | mark (action : Int) (argument : BitVec 16)
  | rebase (base : Int)
  | guest (tib : TibBytes) (memory : LinearMemory)

def WowCalls.mark (calls : WowCalls) (action : Int) (argument : BitVec 16) : WowCalls :=
  match calls.depth with
  | 0 => calls
  | depth + 1 =>
    let marked := { calls.frames depth with action, actionArgument := argument }
    { calls with frames := Function.update calls.frames depth marked }

def wowCallStep (calls : WowCalls) : WowCallEvent → WowCalls
  | .enter call => (wowCallEnter call calls).1
  | .leave result =>
    match wowCallLeave calls result with
    | some (after, _) => after
    | none => calls
  | .arm argument offset => { calls with blob2Argument := argument, blob2Offset := offset }
  | .mark action argument => calls.mark action argument
  | .rebase base => { calls with currentBase := base }
  | .guest tib memory => { calls with tib, memory }

/-- The context block of the TIB. -/
def contextBlock (tib : TibBytes) : TibBytes := fun i => tib (wowSchedCtxLo + i)

def inFlight (calls : WowCalls) (contexts : List TibBytes) : WowCallEvent → List TibBytes
  | .enter call =>
    if (wowCallEnter call calls).2 then contextBlock calls.tib :: contexts else contexts
  | .leave _ => contexts.tail
  | _ => contexts

def WowStep (before : WowCalls × List TibBytes) (event : WowCallEvent)
    (after : WowCalls × List TibBytes) : Prop :=
  after = (wowCallStep before.1 event, inFlight before.1 before.2 event)

def holdsContext (frame : WowCallFrame) (context : TibBytes) : Prop :=
  ∀ i < wowSchedCtxLen, frame.saved.context i = context i

/-- What every run keeps. -/
structure Nested (calls : WowCalls) (contexts : List TibBytes) : Prop where
  depth : calls.depth = contexts.length
  depth_le : calls.depth ≤ 8
  parked : Stacked holdsContext calls.frames contexts

theorem nested_enter {calls : WowCalls} (hnested : Nested calls contexts) (call : WowCall) :
    Nested (wowCallStep calls (.enter call)) (inFlight calls contexts (.enter call)) := by
  unfold wowCallStep inFlight
  dsimp only
  cases hentered : (wowCallEnter call calls).2 with
  | false =>
    rw [wowCallEnter_refused hentered, if_neg Bool.false_ne_true]
    exact hnested
  | true =>
    have haccepted := accepted_of_entered hentered
    have hdepth := depth_of_accepted haccepted
    rw [if_pos rfl]
    unfold wowCallEnter
    rw [if_neg (by rw [haccepted]; exact Bool.false_ne_true)]
    refine ⟨congrArg (· + 1) hnested.depth, hdepth, ?_⟩
    rw [hnested.depth]
    exact hnested.parked.push fun i hi => wowSchedSave_context _ _ _ _ hi

/-- A return puts back the context the last call found, and releases its frame. -/
theorem wowCallLeave_restores {calls : WowCalls} {context : TibBytes}
    (hnested : Nested calls (context :: contexts)) (result : BitVec 32) :
    ∃ after frame, wowCallLeave calls result = some (after, frame) ∧
      (∀ i < wowSchedCtxLen, contextBlock after.tib i = context i) ∧ Nested after contexts := by
  have hdepth : calls.depth = contexts.length + 1 := hnested.depth
  have hle : contexts.length ≤ 8 := by
    have hdeep := hnested.depth_le
    omega
  obtain ⟨htop, hparked⟩ := hnested.parked
  have hcontext : ∀ i < wowSchedCtxLen,
      contextBlock (wowSchedRestore (calls.frames contexts.length).saved calls.tib) i =
        context i := fun i hi => (wowSchedRestore_block _ _ hi).trans (htop i hi)
  have hframes : ∀ frame : WowCallFrame, Stacked holdsContext
      (Function.update calls.frames contexts.length frame) contexts :=
    fun frame => Stacked.update_above hparked (Nat.le_refl _) frame
  unfold wowCallLeave
  rw [hdepth]
  dsimp only
  split
  · exact ⟨_, _, rfl, hcontext, rfl, hle, hframes _⟩
  · exact ⟨_, _, rfl, hcontext, rfl, hle, hframes _⟩

theorem nested_leave {calls : WowCalls} (hnested : Nested calls contexts) (result : BitVec 32) :
    Nested (wowCallStep calls (.leave result)) (inFlight calls contexts (.leave result)) := by
  unfold wowCallStep inFlight
  dsimp only
  cases contexts with
  | nil =>
    have hnone : wowCallLeave calls result = none := by
      unfold wowCallLeave
      rw [show calls.depth = 0 from hnested.depth]
    rw [hnone]
    exact hnested
  | cons context contexts =>
    obtain ⟨after, frame, hafter, -, hrest⟩ := wowCallLeave_restores hnested result
    rw [hafter]
    exact hrest

theorem nested_mark {calls : WowCalls} (hnested : Nested calls contexts) (action : Int)
    (argument : BitVec 16) : Nested (calls.mark action argument) contexts := by
  unfold WowCalls.mark
  split
  · exact hnested
  · rename_i depth _
    refine ⟨hnested.depth, hnested.depth_le, hnested.parked.congr fun other _ frame hholds => ?_⟩
    dsimp only
    by_cases heq : other = depth
    · rw [heq] at hholds ⊢
      rw [update_self]
      exact hholds
    · rw [update_of_ne heq]
      exact hholds

def WowCalls.initial (frames : Nat → WowCallFrame) (sinks : Nat → BitVec 16) (tib : TibBytes)
    (memory : LinearMemory) : WowCalls where
  depth := 0
  frames
  blob2Argument := -1
  blob2Offset := 0
  blobLinear := 0
  lastResult := 0
  count := 0
  currentBase := 0
  sinks
  tib
  memory

section Run

variable {frames : Nat → WowCallFrame} {sinks : Nat → BitVec 16} {tib : TibBytes}
  {memory : LinearMemory} {events : List WowCallEvent} {reached : WowCalls × List TibBytes}

theorem wowRun_nested
    (hrun : Run WowStep (WowCalls.initial frames sinks tib memory, []) events reached) :
    Nested reached.1 reached.2 := by
  refine hrun.invariant (fun reached => Nested reached.1 reached.2) ?_
    ⟨rfl, Nat.zero_le _, trivial⟩
  rintro ⟨calls, contexts⟩ event after hnested rfl
  cases event with
  | enter call => exact nested_enter hnested call
  | leave result => exact nested_leave hnested result
  | arm argument offset => exact ⟨hnested.depth, hnested.depth_le, hnested.parked⟩
  | mark action argument => exact nested_mark hnested action argument
  | rebase base => exact ⟨hnested.depth, hnested.depth_le, hnested.parked⟩
  | guest tib memory => exact ⟨hnested.depth, hnested.depth_le, hnested.parked⟩

/-- In every run: calls are at most eight deep, a return restores the context of its own call, a
refused call changes nothing, and a call clear of the segment's top writes its layout only. -/
theorem wowCall_nests
    (hrun : Run WowStep (WowCalls.initial frames sinks tib memory, []) events reached) :
    (reached.1.depth = reached.2.length ∧ reached.1.depth ≤ wowCallMaxDepth) ∧
    (∀ result context contexts, reached.2 = context :: contexts →
      ∃ after frame, wowCallLeave reached.1 result = some (after, frame) ∧
        ∀ i < wowSchedCtxLen, contextBlock after.tib i = context i) ∧
    (∀ call, (wowCallEnter call reached.1).2 = false →
      (wowCallEnter call reached.1).1 = reached.1) ∧
    ∀ call, (wowCallEnter call reached.1).2 = true → call.IsClear reached.1 →
      Enters call reached.1 (wowCallEnter call reached.1).1 := by
  have hnested := wowRun_nested hrun
  refine ⟨⟨hnested.depth, hnested.depth_le⟩, fun result context contexts hcontexts => ?_,
    fun call hrefused => wowCallEnter_refused hrefused,
    fun call hentered hclear => wowCallEnter_enters hentered hclear⟩
  rw [hcontexts] at hnested
  obtain ⟨after, frame, hafter, hblock, -⟩ := wowCallLeave_restores hnested result
  exact ⟨after, frame, hafter, hblock⟩

end Run

/-- A call of one word on a stack in low memory, at the stack pointer `tib` holds. -/
def oneWordCall : WowCall where
  stackBase := 0x20000
  returnSelector := 0x1234
  procedure := 0x05670010
  dataSelector := 0x0200
  argumentWords := fun _ => 0xCDAB
  argumentWordCount := 1
  returnLinear := 0
  returnMode := wowCallRetKeep
  sink := none
  window := 0
  message := 0
  blob := none
  blobLength := 0
  blobArgument := -1
  isAbsent := false
  currentTask := 0

/-- A guest whose stack pointer is `low`, with nothing in flight. -/
def guestAt (low : BitVec 8) : WowCalls :=
  WowCalls.initial
    (fun _ =>
      { saved := wowSchedSave 0 (fun _ => 0) 0 0 0, returnLinear := 0, procedure := 0, window := 0,
        message := 0, returnMode := 0, sink := none, written := 0, action := 0,
        actionArgument := 0, enteredTask := 0, previousTask := 0 })
    (fun _ => 0) (fun i => if i = vtibEsp then low else 0) (fun _ => 0)

theorem wowCall_nests_once :
    Enters oneWordCall (guestAt 0x80) (wowCallEnter oneWordCall (guestAt 0x80)).1 ∧
      ∃ after frame, wowCallLeave (wowCallEnter oneWordCall (guestAt 0x80)).1 7 =
          some (after, frame) ∧
        ∀ i < wowSchedCtxLen, contextBlock after.tib i = contextBlock (guestAt 0x80).tib i := by
  have hentered : (wowCallEnter oneWordCall (guestAt 0x80)).2 = true := by decide
  have hclear : oneWordCall.IsClear (guestAt 0x80) :=
    ⟨by decide, fun hblob => absurd hblob (by decide)⟩
  refine ⟨(wowCall_nests (Run.nil _)).2.2.2 oneWordCall hentered hclear, ?_⟩
  exact (wowCall_nests (Run.single (show WowStep (guestAt 0x80, []) (.enter oneWordCall)
    (_, contextBlock (guestAt 0x80).tib :: []) from rfl))).2.1 7 _ _ rfl

/-- From an odd stack pointer near zero a pushed word leaves the segment: its high byte goes to
the linear address after offset `FFFFh`. -/
theorem push_leaves_segment :
    (wowCallEnter oneWordCall (guestAt 0x01)).2 = true ∧
      ¬ChangesOnly oneWordCall.stackBase
        (isBelow (vdmReg16 (guestAt 0x01).tib vtibEsp) oneWordCall.stackBytes)
        (guestAt 0x01).memory (wowCallEnter oneWordCall (guestAt 0x01)).1.memory := by
  refine ⟨by decide, fun hchanges => ?_⟩
  have hkept := hchanges 0x30000 fun offset _ => by
    show (0x30000 : BitVec 32) ≠ segmentAddress 0x20000 offset
    unfold segmentAddress
    bv_omega
  exact absurd hkept (by decide)

end Ntvdmex.Wow.Call
