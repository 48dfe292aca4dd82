import Ntvdmex.Dos.Xms

/-!
# Where an `INT 15h/87h` address points (`dos_extmem.h`)

A range of linear addresses is the guest's own memory, part of an extended memory block, or
part of the raw buffer.  Host addresses are numbers, 0 being `NULL`.
-/

namespace Ntvdmex.Dos.ExtMem

open Ntvdmex.Dos.Xms

def dosExtMemDirectEnd : UInt32 := 0x10FFF0
def dosExtMemRawBase : UInt32 := 0x100000
def dosExtMemRawEnd : UInt32 := 0x1000000
def dosExtMemRawLength : UInt32 := dosExtMemRawEnd - dosExtMemRawBase

inductive DosExtMemRegion
  | none
  | direct
  | emb
  | raw
  deriving DecidableEq

/-- The check `DosExtMemClassify` makes of one handle. -/
def blockHolds (entry : DosXmsHandle) (linearAddress rangeEnd : UInt32) : Bool :=
  let blockBase := UInt32.ofNat entry.memory
  let blockEnd := blockBase + entry.sizeKb * dosXmsBytesPerKb
  entry.inUse = true ∧ entry.memory ≠ 0 ∧ entry.sizeKb ≠ 0 ∧ linearAddress ≥ blockBase ∧
    rangeEnd ≤ blockEnd ∧ blockEnd > blockBase

variable (xmsState : Option DosXmsState)

def dosExtMemClassify (linearAddress length : UInt32) : DosExtMemRegion :=
  let rangeEnd := linearAddress + length
  if length = 0 ∨ rangeEnd < linearAddress then .none
  else if rangeEnd ≤ dosExtMemDirectEnd then .direct
  else if xmsState.any fun xms => (List.finRange dosXmsMaxHandles).any fun handleIndex =>
      blockHolds (xms.handles handleIndex) linearAddress rangeEnd then .emb
  else if linearAddress ≥ dosExtMemDirectEnd ∧ rangeEnd ≤ dosExtMemRawEnd then .raw
  else .none

def dosExtMemResolve (conventionalBase rawBuffer : Nat) (linearAddress length : UInt32) : Nat :=
  match dosExtMemClassify xmsState linearAddress length with
  | .direct => conventionalBase + linearAddress.toNat
  | .emb => linearAddress.toNat
  | .raw =>
    if rawBuffer ≠ 0 then rawBuffer + (linearAddress - dosExtMemRawBase).toNat else 0
  | .none => 0

end Ntvdmex.Dos.ExtMem
