import Ntvdmex.Foundation.ByteMemory

/-!
# The BIOS key ring (`vdd_input.c`)

The ring of keys in segment 40h, whose pointers and bounds the guest may store, and the functions
of INT 16h that use it.  A memory is the segment, which the state's `BiosData` points to.
-/

namespace Ntvdmex.Vdd.BiosKeyRing

open Foundation

def biosBdaKeyboardHead : Nat := 0x1A
def biosBdaKeyboardTail : Nat := 0x1C
def biosBdaKeyboardBuffer : Nat := 0x1E
def biosBdaKeyboardBufferEnd : Nat := 0x3E
def biosBdaKeyboardStartPointer : Nat := 0x80
def biosBdaKeyboardEndPointer : Nat := 0x82

def inputRingMinimumSize : Nat := 4

/-- The effective start and end of the ring. -/
structure Bounds where
  bufferStart : Nat
  bufferEnd : Nat

variable (data : ByteMemory)

/-- A pair of pointers that describes no ring is replaced by POST's. -/
def inputKeyboardBounds : Bounds :=
  let startPointer := data.readWord biosBdaKeyboardStartPointer
  let endPointer := data.readWord biosBdaKeyboardEndPointer
  if startPointer % 2 = 1 ∨ endPointer % 2 = 1 ∨ endPointer ≤ startPointer ∨
      endPointer - startPointer < inputRingMinimumSize then
    ⟨biosBdaKeyboardBuffer, biosBdaKeyboardBufferEnd⟩
  else ⟨startPointer, endPointer⟩

def inputBdaNext (pointer : Nat) (bounds : Bounds) : Nat :=
  let pointer := (pointer + 2) % 65536
  if bounds.bufferEnd ≤ pointer then bounds.bufferStart else pointer

/-- The test that a pointer is an entry of the ring. -/
def Bounds.Holds (bounds : Bounds) (pointer : Nat) : Prop :=
  bounds.bufferStart ≤ pointer ∧ pointer < bounds.bufferEnd ∧
    (pointer - bounds.bufferStart) % 2 = 0
deriving Decidable

def vddInputPush (key : UInt16) : Bool × ByteMemory :=
  let bounds := inputKeyboardBounds data
  let head := data.readWord biosBdaKeyboardHead
  let tail := data.readWord biosBdaKeyboardTail
  let isValid := bounds.Holds head ∧ bounds.Holds tail
  let data := if isValid then data else data.writeWord biosBdaKeyboardHead bounds.bufferStart
  let head := if isValid then head else bounds.bufferStart
  let tail := if isValid then tail else bounds.bufferStart
  let nextTail := inputBdaNext tail bounds
  if nextTail = head then (false, data)
  else (true, (data.writeWord tail key.toNat).writeWord biosBdaKeyboardTail nextTail)

def vddInputPeek : Option Nat :=
  let head := data.readWord biosBdaKeyboardHead
  if head = data.readWord biosBdaKeyboardTail then none
  else if (inputKeyboardBounds data).Holds head then some (data.readWord head)
  else none

def vddInputPop : Option Nat × ByteMemory :=
  let bounds := inputKeyboardBounds data
  let head := data.readWord biosBdaKeyboardHead
  if head = data.readWord biosBdaKeyboardTail then (none, data)
  else if bounds.Holds head then
    (some (data.readWord head), data.writeWord biosBdaKeyboardHead (inputBdaNext head bounds))
  else (none, data)

def inputKeyCompatible (key : Nat) : Option Nat :=
  let scanCode := key / 256
  let character := key % 256
  if scanCode = 0xE0 then
    some ((if character = 0x0D ∨ character = 0x0A then 0x1C00 else 0x3500) + character)
  else if 0x84 < scanCode then none
  else if character = 0xF0 then if scanCode = 0 then some key else none
  else if character = 0xE0 ∧ scanCode ≠ 0 then some (scanCode * 256)
  else some key

/-- AH=00h, whose loop discards: none when the budget is spent. -/
def inputInt16Read : Nat → ByteMemory → Option (Option Nat × ByteMemory)
  | 0, _ => none
  | fuel + 1, data =>
    match vddInputPop data with
    | (none, data) => some (none, data)
    | (some key, data) =>
      match inputKeyCompatible key with
      | some key => some (some key, data)
      | none => inputInt16Read fuel data

/-- AH=01h. -/
def inputInt16Status : Nat → ByteMemory → Option (Option Nat × ByteMemory)
  | 0, _ => none
  | fuel + 1, data =>
    match vddInputPeek data with
    | none => some (none, data)
    | some key =>
      match inputKeyCompatible key with
      | some key => some (some key, data)
      | none => inputInt16Status fuel (vddInputPop data).2

def inputInt16PushKey (key : UInt16) : Bool × ByteMemory :=
  vddInputPush data key

/-- AH=10h. -/
def inputInt16ReadEnhanced : Option Nat × ByteMemory :=
  vddInputPop data

end Ntvdmex.Vdd.BiosKeyRing
