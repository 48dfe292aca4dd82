import Ntvdmex.Foundation.ByteMemory

/-!
# File handles and EXEC (`dos_int21.c`, `dos_fh.h`)

The handle table of the running program, the tables of the programs that wait for it, and the
job file table a program keeps in its PSP.  A host handle is a number, 0 for none; `CloseHandle`
calls are listed in the order they are made.
-/

namespace Ntvdmex.Dos.Handles

open Foundation

def dosMaxFiles : Nat := 128
def dosDevSlots : Nat := 32
def dosHandleStackDepth : Nat := 8
def dosPspJftHandles : Nat := 20
def dosPspJftSize : Nat := 0x32
def dosPspJftPointer : Nat := 0x34
def dosPspJftClosed : UInt8 := 0xFF
def dosPspJftPrnEntry : UInt8 := 2
def dosInt21SftFirstHost : Nat := 3
def dosInt21SftLast : Nat := 255
def dosDeviceAux : UInt8 := 0
def dosDeviceCon : UInt8 := 1
def dosDevicePrn : UInt8 := 2

/-- One handle table: `FileHandles`, `StdOpen`, `DeviceKind` and `JftKnown`. -/
structure DosHandleFrame where
  fileHandles : Fin 128 → Nat
  stdOpen : BitVec 32
  deviceKind : Fin 32 → UInt8
  jftKnown : Fin 20 → UInt8

/-- The part of the machine the handle services use. -/
structure DosHandles where
  table : DosHandleFrame
  handleStack : Nat → DosHandleFrame
  handleDepth : Nat
  sftHost : Nat → Nat
  pspSegment : Nat
  memory : ByteMemory

/-! ## The table (`dos_fh.h`) -/

def dosHandleIsFile (table : DosHandleFrame) (handle : Nat) : Bool :=
  if h : handle < 128 then table.fileHandles ⟨handle, h⟩ ≠ 0 else false

def dosHandleIsDevice (table : DosHandleFrame) (handle : Nat) : Bool :=
  handle < dosDevSlots ∧ dosHandleIsFile table handle = false ∧ table.stdOpen.getLsbD handle

def dosDeviceDefault (handle : Nat) : UInt8 :=
  if handle = 3 then dosDeviceAux else if handle = 4 then dosDevicePrn else dosDeviceCon

def dosDeviceOf (table : DosHandleFrame) (handle : Nat) : UInt8 :=
  if h : handle < 32 then table.deviceKind ⟨handle, h⟩ else dosDeviceCon

/-- `none` past the device slots. -/
def dosHandleSetDevice (table : DosHandleFrame) (handle : Nat) (isDevice : Bool) :
    Option DosHandleFrame :=
  if dosDevSlots ≤ handle then none
  else
    let bit : BitVec 32 := 1 <<< handle
    some { table with
      stdOpen := if isDevice then table.stdOpen ||| bit else table.stdOpen &&& ~~~bit }

/-- The lowest free slot; `none` when the table is full. -/
def dosHandleAllocate (table : DosHandleFrame) : Option (Fin 128) :=
  (List.finRange 128).find? fun slot =>
    table.fileHandles slot = 0 ∧ dosHandleIsDevice table slot.val = false

def DosHandleFrame.bind (table : DosHandleFrame) (slot : Fin 128) (handle : Nat) :
    DosHandleFrame :=
  { table with fileHandles := Function.update table.fileHandles slot handle }

variable (machine : DosHandles)

def DosHandles.bind (slot : Fin 128) (handle : Nat) : DosHandles :=
  { machine with table := machine.table.bind slot handle }

def DosHandleFrame.has (table : DosHandleFrame) (handle : Nat) : Bool :=
  (List.finRange 128).any fun slot => table.fileHandles slot = handle

def dosHandleIsHeldByParent (handle : Nat) : Bool :=
  handle ≠ 0 ∧
    (List.range (min machine.handleDepth dosHandleStackDepth)).any fun depth =>
      (machine.handleStack depth).has handle

def dosHandleRelease (slot : Nat) : DosHandles × List Nat :=
  if h : slot < 128 then
    let handle := machine.table.fileHandles ⟨slot, h⟩
    if handle = 0 then (machine, [])
    else
      (machine.bind ⟨slot, h⟩ 0, if dosHandleIsHeldByParent machine handle then [] else [handle])
  else (machine, [])

def dosJftOf (psp : Nat) : Option (Nat × Nat) :=
  let pspBytes := psp * 16
  let jftSize := machine.memory.readWord (pspBytes + dosPspJftSize)
  let jftOffset := machine.memory.readWord (pspBytes + dosPspJftPointer)
  let jftSegment := machine.memory.readWord (pspBytes + dosPspJftPointer + 2)
  if psp = 0 ∨ jftSegment = 0 ∨ jftSize = 0 then none
  else some (jftSegment * 16 + jftOffset, min jftSize dosPspJftHandles)

def sftIndexes : List Nat := List.range' dosInt21SftFirstHost (dosInt21SftLast - dosInt21SftFirstHost)

def dosSftValue (handle : Nat) : DosHandles × UInt8 :=
  if h : handle < 128 ∧ machine.table.fileHandles (Fin.ofNat 128 handle) ≠ 0 then
    let host := machine.table.fileHandles ⟨handle, h.1⟩
    match sftIndexes.find? fun value => machine.sftHost value = host with
    | some value => (machine, UInt8.ofNat value)
    | none =>
      match sftIndexes.find? fun value => machine.sftHost value = 0 with
      | some value =>
        ({ machine with sftHost := Function.update machine.sftHost value host }, UInt8.ofNat value)
      | none =>
        let forgotten := fun value => if value ∈ sftIndexes then 0 else machine.sftHost value
        ({ machine with sftHost := Function.update forgotten dosInt21SftFirstHost host },
          UInt8.ofNat dosInt21SftFirstHost)
  else if handle < 32 ∧ machine.table.stdOpen.getLsbD handle then
    (machine, dosDeviceOf machine.table handle)
  else (machine, dosPspJftClosed)

def dosJftPut (handle : Nat) (value : UInt8) : DosHandles :=
  match dosJftOf machine machine.pspSegment with
  | none => machine
  | some (jft, count) =>
    if h : handle < count ∧ handle < 20 then
      { machine with
        memory := machine.memory.store (jft + handle) value
        table :=
          { machine.table with
            jftKnown := Function.update machine.table.jftKnown ⟨handle, h.2⟩ value } }
    else machine

def dosHandlesPush : DosHandles :=
  if dosHandleStackDepth ≤ machine.handleDepth then
    { machine with handleDepth := machine.handleDepth + 1 }
  else
    { machine with
      handleStack := Function.update machine.handleStack machine.handleDepth machine.table
      handleDepth := machine.handleDepth + 1 }

/-- A standard handle whose JFT byte the program changed. -/
def dosJftApply (sftHost : Nat → Nat) (value : UInt8) (table : DosHandleFrame) (handle : Fin 5) :
    DosHandleFrame :=
  let slot : Fin 128 := handle.castLE (by decide)
  if value = table.jftKnown (handle.castLE (by decide)) then table
  else if value = dosPspJftClosed then
    { table.bind slot 0 with stdOpen := table.stdOpen &&& ~~~(1 <<< handle.val : BitVec 32) }
  else if value ≤ dosPspJftPrnEntry then
    { table.bind slot 0 with
      stdOpen := table.stdOpen ||| (1 <<< handle.val : BitVec 32)
      deviceKind := Function.update table.deviceKind (handle.castLE (by decide)) value }
  else if sftHost value.toNat ≠ 0 then table.bind slot (sftHost value.toNat)
  else table

def dosJftStandard (jft count : Nat) : DosHandleFrame :=
  (List.finRange 5).foldl
    (fun table handle =>
      if handle.val < count then
        dosJftApply machine.sftHost (machine.memory (jft + handle.val)) table handle
      else table)
    machine.table

def dosJftExec (childPsp : Nat) : DosHandles :=
  match dosJftOf machine machine.pspSegment with
  | none => machine
  | some (jft, count) =>
    let table := dosJftStandard machine jft count
    match dosJftOf machine childPsp with
    | none =>
      { machine with table := { table with jftKnown := fun _ => dosPspJftClosed } }
    | some (childJft, childCount) =>
      let memory := machine.memory.copyUp childJft jft (min count childCount)
      { machine with
        memory
        table :=
          { table with
            jftKnown := fun handle =>
              if handle.val < childCount then memory (childJft + handle.val)
              else dosPspJftClosed } }

/-- The handles closed when a program ends: those it alone has, each once. -/
def dosHandlesLeft (parent : DosHandleFrame) : List Nat :=
  ((List.finRange 128).filter fun index =>
      let handle := machine.table.fileHandles index
      handle ≠ 0 ∧ dosHandleIsHeldByParent machine handle = false ∧ parent.has handle = false ∧
        ¬∃ earlier, earlier < index ∧ machine.table.fileHandles earlier = handle).map
    machine.table.fileHandles

def dosHandlesPop (isTsr : Bool) : DosHandles × List Nat :=
  match machine.handleDepth with
  | 0 => (machine, [])
  | depth + 1 =>
    let popped := { machine with handleDepth := depth }
    if dosHandleStackDepth ≤ depth then (popped, [])
    else
      let parent := machine.handleStack depth
      ({ popped with table := parent }, if isTsr then [] else dosHandlesLeft popped parent)

/-! ## The services of INT 21h -/

/-- What a successful service writes into the JFT; a protected-mode client's is not kept. -/
def DosHandles.tell (isTold : Bool) (handle source : Nat) : DosHandles :=
  if isTold then
    let (noted, value) := dosSftValue machine source
    dosJftPut noted handle value
  else machine

/-- The end of every open and create, `file` being what the host opened. -/
def int21Open (file : Nat) (isTold : Bool) : DosHandles × List Nat :=
  match dosHandleAllocate machine.table with
  | none => (machine, [file])
  | some slot => ((machine.bind slot file).tell isTold slot.val slot.val, [])

/-- An open from protected mode: the lowest unbound slot from 5. -/
def dpmiInt21Open (file : Nat) : DosHandles × List Nat :=
  match (List.finRange 128).find? fun slot => 5 ≤ slot.val ∧ machine.table.fileHandles slot = 0 with
  | none => (machine, [file])
  | some slot => (machine.bind slot file, [])

/-- AH=3Eh. -/
def int21Close (handle : Nat) (isTold : Bool) : DosHandles × List Nat :=
  let (released, closes) :=
    if dosHandleIsFile machine.table handle then dosHandleRelease machine handle
    else
      ({ machine with
        table := (dosHandleSetDevice machine.table handle false).getD machine.table }, [])
  (if isTold then dosJftPut released handle dosPspJftClosed else released, closes)

/-- The close of an FCB, and of a protected-mode handle. -/
def int21Release (slot : Nat) : DosHandles × List Nat :=
  dosHandleRelease machine slot

/-- AH=45h; `duplicate` is the host's duplicate of a file. -/
def int21Dup (source duplicate : Nat) (isTold : Bool) : DosHandles × List Nat :=
  if dosHandleIsDevice machine.table source then
    match dosHandleAllocate machine.table with
    | none => (machine, [])
    | some target =>
      match dosHandleSetDevice machine.table target.val true with
      | none => (machine, [])
      | some table =>
        let bound := table.bind target 0
        ({ machine with
            table :=
              if h : target.val < 32 then
                { bound with
                  deviceKind :=
                    Function.update bound.deviceKind ⟨target.val, h⟩ (dosDeviceOf table source) }
              else bound }.tell isTold target.val source, [])
  else if dosHandleIsFile machine.table source then
    match dosHandleAllocate machine.table with
    | none => (machine, [duplicate])
    | some target => ((machine.bind target duplicate).tell isTold target.val source, [])
  else (machine, [])

/-- AH=46h. -/
def int21Dup2 (source target duplicate : Nat) (isTold : Bool) : DosHandles × List Nat :=
  if dosHandleIsDevice machine.table source then
    if h : target < 128 then
      match dosHandleSetDevice machine.table target true with
      | none => (machine, [])
      | some table =>
        let (released, closes) := dosHandleRelease { machine with table } target
        let bound := released.bind ⟨target, h⟩ 0
        ({ bound with
            table :=
              if h' : target < 32 then
                { bound.table with
                  deviceKind :=
                    Function.update bound.table.deviceKind ⟨target, h'⟩
                      (dosDeviceOf bound.table source) }
              else bound.table }.tell isTold target source, closes)
    else (machine, [])
  else if dosHandleIsFile machine.table source then
    if h : target < 128 then
      let (released, closes) := dosHandleRelease machine target
      let bound := released.bind ⟨target, h⟩ duplicate
      ({ bound with
          table := (dosHandleSetDevice bound.table target false).getD bound.table }.tell
        isTold target source, closes)
    else (machine, [duplicate])
  else (machine, [])

def int21Exec (childPsp : Nat) : DosHandles :=
  { dosJftExec (dosHandlesPush machine) childPsp with pspSegment := childPsp }

/-- A program that does not stay resident ends, and its parent's PSP is current again. -/
def int21Terminate (parentPsp : Nat) : DosHandles × List Nat :=
  let (popped, closes) := dosHandlesPop machine false
  ({ popped with pspSegment := parentPsp }, closes)

end Ntvdmex.Dos.Handles
