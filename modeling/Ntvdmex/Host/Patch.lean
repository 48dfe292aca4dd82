import Ntvdmex.Foundation.Probing

/-!
# Patched INT sites (`host_core.c`, `host_dpmi.c`)

The map from the address of a patched `CD vec` to its vector, the write of a site's `C4 C4`, and
the passes that put the guest's bytes back before real-mode code runs and the BOPs before
protected mode goes on.  Every address is mapped.
-/

namespace Ntvdmex.Host.Patch

open Foundation.Probing

def dpmiPmapSlots : Nat := 65536
def patchMapHashShift : Nat := 8
def patchMapHeadroom : Nat := 16
def knuthHashMultiplier : BitVec 32 := 2654435761
def dpmiBpVec : BitVec 8 := 0xEE
def vdmBop0 : BitVec 8 := 0xC4
def vdmBop1 : BitVec 8 := 0xC4
def x86OpInt : BitVec 8 := 0xCD

instance : NeZero dpmiPmapSlots := ⟨by decide⟩

/-- `g_PatchMapLinear`, `g_PatchMapVector` and `g_PatchMapCount`; address 0 is an empty slot. -/
structure PatchMap where
  linear : Fin dpmiPmapSlots → BitVec 32
  vector : Fin dpmiPmapSlots → BitVec 8
  count : Nat

def patchMapHash (linear : BitVec 32) : Fin dpmiPmapSlots :=
  Fin.ofNat dpmiPmapSlots ((linear * knuthHashMultiplier) >>> patchMapHashShift).toNat

/-- The loop the three functions share: the first slot that is empty or has the address. -/
def patchMapProbe (map : PatchMap) (linear : BitVec 32) : Option (Fin dpmiPmapSlots) :=
  probe (fun slot => map.linear slot = 0 ∨ map.linear slot = linear) dpmiPmapSlots
    (patchMapHash linear)

def patchMapGet (map : PatchMap) (linear : BitVec 32) : BitVec 8 :=
  if linear = 0 then 0
  else
    match patchMapProbe map linear with
    | none => 0
    | some slot => if map.linear slot = 0 then 0 else map.vector slot

def patchMapSet (map : PatchMap) (linear : BitVec 32) (vector : BitVec 8) : PatchMap :=
  if linear = 0 ∨ dpmiPmapSlots - patchMapHeadroom ≤ map.count then map
  else
    match patchMapProbe map linear with
    | none => map
    | some slot =>
      if map.linear slot = 0 then
        { linear := Function.update map.linear slot linear
          vector := Function.update map.vector slot vector
          count := map.count + 1 }
      else { map with vector := Function.update map.vector slot vector }

/-- The address stays with vector 0. -/
def patchMapClear (map : PatchMap) (linear : BitVec 32) : PatchMap :=
  match patchMapProbe map linear with
  | none => map
  | some slot =>
    if map.linear slot = 0 then map
    else { map with vector := Function.update map.vector slot 0 }

def patchMapEmpty : PatchMap := ⟨fun _ => 0, fun _ => 0, 0⟩

/-! ## The sites -/

abbrev Memory := BitVec 32 → BitVec 8

structure PatchState where
  map : PatchMap
  memory : Memory

def Memory.isBop (memory : Memory) (linear : BitVec 32) : Prop :=
  memory linear = vdmBop0 ∧ memory (linear + 1) = vdmBop1
deriving Decidable

def Memory.isInt (memory : Memory) (linear : BitVec 32) (vector : BitVec 8) : Prop :=
  memory linear = x86OpInt ∧ memory (linear + 1) = vector
deriving Decidable

def Memory.put (memory : Memory) (linear : BitVec 32) (first second : BitVec 8) : Memory :=
  Function.update (Function.update memory linear first) (linear + 1) second

variable (state : PatchState)

/-- The write site of `DpmiPatchCodeRegion`. -/
def dpmiPatchSite (linear : BitVec 32) : PatchState where
  map := patchMapSet state.map linear (state.memory (linear + 1))
  memory := state.memory.put linear vdmBop0 vdmBop1

def PatchMap.isSite (map : PatchMap) (slot : Fin dpmiPmapSlots) : Prop :=
  map.linear slot ≠ 0 ∧ map.vector slot ≠ 0 ∧ map.vector slot ≠ dpmiBpVec
deriving Decidable

def PatchMap.drop (map : PatchMap) (slot : Fin dpmiPmapSlots) : PatchMap :=
  { map with vector := Function.update map.vector slot 0 }

/-- One slot of a pass over the map: a site whose two bytes pass the test is written, any other is
dropped. -/
def dpmiPassSlot (test : Memory → BitVec 32 → BitVec 8 → Bool)
    (write : BitVec 8 → BitVec 8 × BitVec 8) (state : PatchState) (slot : Fin dpmiPmapSlots) :
    PatchState :=
  let address := state.map.linear slot
  let vector := state.map.vector slot
  if state.map.isSite slot then
    if test state.memory address vector then
      { state with memory := state.memory.put address (write vector).1 (write vector).2 }
    else { state with map := state.map.drop slot }
  else state

def dpmiUnpatchSlot : PatchState → Fin dpmiPmapSlots → PatchState :=
  dpmiPassSlot (fun memory address _ => memory.isBop address) fun vector => (x86OpInt, vector)

def dpmiUnpatch : PatchState :=
  (List.finRange dpmiPmapSlots).foldl dpmiUnpatchSlot state

def dpmiRepatchSlot : PatchState → Fin dpmiPmapSlots → PatchState :=
  dpmiPassSlot (fun memory address vector => memory.isInt address vector) fun _ =>
    (vdmBop0, vdmBop1)

def dpmiRepatch : PatchState :=
  (List.finRange dpmiPmapSlots).foldl dpmiRepatchSlot state

/-- One slot of the restore in `DpmiClientTeardown`, where every site is mapped and writable. -/
def dpmiTeardownSlot (map : PatchMap) (memory : Memory) (slot : Fin dpmiPmapSlots) : Memory :=
  let address := map.linear slot
  if map.isSite slot ∧ memory.isBop address then memory.put address x86OpInt (map.vector slot)
  else memory

def dpmiTeardownRestore : PatchState where
  map := patchMapEmpty
  memory := (List.finRange dpmiPmapSlots).foldl (dpmiTeardownSlot state.map) state.memory

end Ntvdmex.Host.Patch
