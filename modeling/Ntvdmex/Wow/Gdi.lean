import Mathlib

/-!
# GDI object tokens (`wowgdi.c`)

The map from 16-bit tokens to Win32 GDI objects, the calls of `WowGdiCall` that make, select and
destroy objects, and Win32 GDI as these calls see it: handles that are distinct while their
objects live and may be issued again afterwards, stock objects that are never destroyed, and one
selected object of each class in every device context.  A handle is a number, 0 for `NULL`.
-/

namespace Ntvdmex.Wow.Gdi

def wowGdiBase : Nat := 0x2000
def wowGdiStep : Nat := 0x0008
def wowGdiMax : Nat := 256
def wowGdiStockObjectLast : Nat := 16
def wowGdiWordBits : Nat := 16

/-- `WOWGDI_KIND_OBJ`, `_DC`, `_WINDC` and `_STOCK`. -/
inductive WowGdiKind where
  | obj
  | dc
  | windc
  | stock
deriving DecidableEq, Repr

structure WowGdiObject where
  handle16 : Nat
  object : Nat
  kind : WowGdiKind
deriving DecidableEq, Repr

/-- The first `g_WowGdiObjectCount` entries of `g_WowGdiObjects`. -/
abbrev WowGdiMap := List WowGdiObject

/-! ## The map -/

/-- The first loop of `WowGdiH16`: the token of the object if it is held under this kind; an entry
of the object under another kind is retired on the way. -/
def wowGdiHeld (object : Nat) (kind : WowGdiKind) : WowGdiMap → Option Nat × WowGdiMap
  | [] => (none, [])
  | entry :: rest =>
    if entry.object = object then
      if entry.kind = kind then (some entry.handle16, entry :: rest)
      else
        ((wowGdiHeld object kind rest).1,
          { entry with object := 0, handle16 := 0 } :: (wowGdiHeld object kind rest).2)
    else ((wowGdiHeld object kind rest).1, entry :: (wowGdiHeld object kind rest).2)

def wowGdiToken (index : Nat) : Nat := (wowGdiBase + index * wowGdiStep) % 0x10000

def wowGdiFreeSlot (map : WowGdiMap) : Nat :=
  map.findIdx fun entry => entry.handle16 = 0 ∧ entry.object = 0

def wowGdiMint (object : Nat) (kind : WowGdiKind) (map : WowGdiMap) : Nat × WowGdiMap :=
  let index := wowGdiFreeSlot map
  let entry : WowGdiObject := ⟨wowGdiToken index, object, kind⟩
  if index = map.length then
    if wowGdiMax ≤ map.length then (0, map) else (entry.handle16, map ++ [entry])
  else (entry.handle16, map.set index entry)

def wowGdiH16 (map : WowGdiMap) (object : Nat) (kind : WowGdiKind) : Nat × WowGdiMap :=
  if object = 0 then (0, map)
  else
    match wowGdiHeld object kind map with
    | (some handle16, held) => (handle16, held)
    | (none, retired) => wowGdiMint object kind retired

/-- The object of a token and its kind; `NULL` and no kind for a token the map does not hold. -/
def wowGdiH32 (map : WowGdiMap) (handle16 : Nat) : Nat × Option WowGdiKind :=
  if handle16 = 0 then (0, none)
  else
    match map.find? fun entry => entry.handle16 = handle16 with
    | some entry => (entry.object, some entry.kind)
    | none => (0, none)

def wowGdiForget (map : WowGdiMap) (handle16 : Nat) : WowGdiMap :=
  match map with
  | [] => []
  | entry :: rest =>
    if entry.handle16 = handle16 then { entry with object := 0, handle16 := 0 } :: rest
    else entry :: wowGdiForget rest handle16

/-! ## Win32 GDI -/

/-- The classes of objects a device context has one selected object of. -/
inductive GdiClass where
  | pen
  | brush
  | font
  | palette
  | bitmap
deriving DecidableEq, Repr

instance : Fintype GdiClass where
  elems := {.pen, .brush, .font, .palette, .bitmap}
  complete cls := by cases cls <;> decide

/-- The objects that belong to the system, the default bitmap of a memory DC among them, and
what `GetStockObject` answers. -/
structure StockObjects where
  classOf : Nat → Option GdiClass
  byIndex : Nat → Nat
  null : classOf 0 = none
  byIndex_stock : ∀ index, byIndex index ≠ 0 → (classOf (byIndex index)).isSome

/-- The live device contexts, the live objects that were created, and what is selected. -/
structure Win32Gdi where
  dcs : List Nat
  objects : Nat → Option GdiClass
  selected : Nat → GdiClass → Nat

/-- What Win32 decides in a call: the handle it issues, 0 to refuse, what a new device context has
selected, and whether it does the selection or deletion it is asked for. -/
structure Win32Answer where
  issued : Nat
  initial : GdiClass → Nat
  accepts : Bool

namespace Win32Gdi

variable (stock : StockObjects)

def classOf (win : Win32Gdi) (object : Nat) : Option GdiClass :=
  (win.objects object).or (stock.classOf object)

/-- A handle that names something now. -/
def Alive (win : Win32Gdi) (object : Nat) : Prop :=
  object ∈ win.dcs ∨ (win.objects object).isSome ∨ (stock.classOf object).isSome
deriving Decidable

/-- A handle can be issued if it is refused or names nothing, and no device context still has it
selected; a new device context starts with stock objects. -/
def MayAnswer (win : Win32Gdi) (answer : Win32Answer) : Prop :=
  (answer.issued = 0 ∨
    ¬Alive stock win answer.issued ∧
      ∀ dc ∈ win.dcs, ∀ cls, win.selected dc cls ≠ answer.issued) ∧
  ∀ cls, stock.classOf (answer.initial cls) = some cls
deriving Decidable

def createDc (win : Win32Gdi) (answer : Win32Answer) : Win32Gdi :=
  if answer.issued = 0 then win
  else
    { win with
      dcs := answer.issued :: win.dcs
      selected := Function.update win.selected answer.issued answer.initial }

def createObject (win : Win32Gdi) (cls : GdiClass) (answer : Win32Answer) : Win32Gdi :=
  if answer.issued = 0 then win
  else { win with objects := Function.update win.objects answer.issued (some cls) }

/-- The object that was selected before; `NULL` for a refusal. -/
def selectObject (win : Win32Gdi) (dc object : Nat) (answer : Win32Answer) : Nat × Win32Gdi :=
  match win.classOf stock object with
  | some cls =>
    if answer.accepts = true ∧ dc ∈ win.dcs then
      (win.selected dc cls,
        { win with
          selected := Function.update win.selected dc
            (Function.update (win.selected dc) cls object) })
    else (0, win)
  | none => (0, win)

def deleteDc (win : Win32Gdi) (dc : Nat) (answer : Win32Answer) : Bool × Win32Gdi :=
  if answer.accepts = true ∧ dc ∈ win.dcs then
    (true, { win with dcs := win.dcs.filter (· ≠ dc) })
  else (false, win)

def deleteObject (win : Win32Gdi) (object : Nat) (answer : Win32Answer) : Bool × Win32Gdi :=
  if (stock.classOf object).isSome then (answer.accepts, win)
  else if answer.accepts = true ∧ (win.objects object).isSome then
    (true, { win with objects := Function.update win.objects object none })
  else (false, win)

end Win32Gdi

/-! ## `WowGdiCall` -/

/-- The map, Win32, and the handles that have reached Win32's `DeleteObject`. -/
structure GdiState where
  map : WowGdiMap
  win : Win32Gdi
  deletes : List Nat

/-- What a call answers and, where it asks `WowGdiH16` for the answer, the object and kind it asks
for. -/
structure GdiReply where
  answer : Nat
  named : Option (Nat × WowGdiKind)
deriving DecidableEq, Repr

def refused : GdiReply := ⟨0, none⟩

def isDcKind (kind : Option WowGdiKind) : Bool := kind = some .dc ∨ kind = some .windc

variable (stock : StockObjects) (state : GdiState)

/-- A new drawing object gets a token, or is freed again if the map is full. -/
def wowGdiIssueObject (cls : GdiClass) (answer : Win32Answer) : GdiReply × GdiState :=
  let object := answer.issued
  let win := state.win.createObject cls answer
  if object = 0 then (refused, { state with win })
  else
    let (token, map) := wowGdiH16 state.map object .obj
    if token = 0 then
      (refused, ⟨map, (win.deleteObject stock object answer).2, state.deletes ++ [object]⟩)
    else (⟨token, some (object, .obj)⟩, { state with map, win })

def wowGdiGetStockObject (itemIndex : Nat) : GdiReply × GdiState :=
  if wowGdiStockObjectLast < itemIndex then (refused, state)
  else if stock.byIndex itemIndex = 0 then (refused, state)
  else
    let (token, map) := wowGdiH16 state.map (stock.byIndex itemIndex) .stock
    (⟨token, some (stock.byIndex itemIndex, .stock)⟩, { state with map })

def wowGdiCreateCompatibleDc (sourceDc16 : Nat) (answer : Win32Answer) : GdiReply × GdiState :=
  let (object, kind) := wowGdiH32 state.map sourceDc16
  if sourceDc16 ≠ 0 ∧ (object = 0 ∨ isDcKind kind = false) then (refused, state)
  else
    let dc := answer.issued
    let win := state.win.createDc answer
    if dc = 0 then (refused, { state with win })
    else
      let (token, map) := wowGdiH16 state.map dc .dc
      if token = 0 then (refused, { state with map, win := (win.deleteDc dc answer).2 })
      else (⟨token, some (dc, .dc)⟩, { state with map, win })

/-- Positive dimensions and formats only, and with bits no more of them than a 64K segment holds,
in 32-bit arithmetic. -/
def wowGdiBitmapRefused (width height : Int) (planes bitsPerPixel : Nat) (hasBits : Bool) : Bool :=
  width ≤ 0 ∨ height ≤ 0 ∨ planes = 0 ∨ bitsPerPixel = 0 ∨
    hasBits = true ∧
      let bits := (width.toNat * planes * bitsPerPixel + (wowGdiWordBits - 1)) % 2 ^ 32
      let stride := bits / wowGdiWordBits * 2 % 2 ^ 32
      0x10000 < stride * height.toNat % 2 ^ 32

def wowGdiCreateBitmap (width height : Int) (planes bitsPerPixel : Nat) (hasBits : Bool)
    (answer : Win32Answer) : GdiReply × GdiState :=
  if wowGdiBitmapRefused width height planes bitsPerPixel hasBits then (refused, state)
  else wowGdiIssueObject stock state .bitmap answer

def wowGdiCreateCompatibleBitmap (dc16 : Nat) (width height : Int) (answer : Win32Answer) :
    GdiReply × GdiState :=
  let (object, kind) := wowGdiH32 state.map dc16
  if object = 0 ∨ isDcKind kind = false then (refused, state)
  else if width ≤ 0 ∨ height ≤ 0 then (refused, state)
  else wowGdiIssueObject stock state .bitmap answer

def wowGdiCreateSolidBrush (answer : Win32Answer) : GdiReply × GdiState :=
  wowGdiIssueObject stock state .brush answer

def wowGdiSelectObject (dc16 object16 : Nat) (answer : Win32Answer) : GdiReply × GdiState :=
  let (dcObject, dcKind) := wowGdiH32 state.map dc16
  let (object, objectKind) := wowGdiH32 state.map object16
  if dcObject = 0 ∨ isDcKind dcKind = false then (refused, state)
  else if object = 0 then (refused, state)
  else if isDcKind objectKind then (refused, state)
  else
    let (previous, win) := state.win.selectObject stock dcObject object answer
    if previous = 0 then (refused, { state with win })
    else
      let (token, map) := wowGdiH16 state.map previous .obj
      (⟨token, some (previous, .obj)⟩, { state with map, win })

def wowGdiDeleteDc (handle16 : Nat) (answer : Win32Answer) : GdiReply × GdiState :=
  let (object, kind) := wowGdiH32 state.map handle16
  if object = 0 then (refused, state)
  else if kind = some .stock then (⟨1, none⟩, state)
  else if kind ≠ some .dc then (refused, state)
  else
    match state.win.deleteDc object answer with
    | (true, win) => (⟨1, none⟩, { state with map := wowGdiForget state.map handle16, win })
    | (false, win) => (refused, { state with win })

def wowGdiDeleteObject (handle16 : Nat) (answer : Win32Answer) : GdiReply × GdiState :=
  let (object, kind) := wowGdiH32 state.map handle16
  if object = 0 then (refused, state)
  else if kind = some .stock then (⟨1, none⟩, state)
  else if kind ≠ some .obj then (refused, state)
  else
    let deletes := state.deletes ++ [object]
    match state.win.deleteObject stock object answer with
    | (true, win) => (⟨1, none⟩, ⟨wowGdiForget state.map handle16, win, deletes⟩)
    | (false, win) => (refused, ⟨state.map, win, deletes⟩)

/-- The calls, with the arguments the guest pushed. -/
inductive WowGdiCall where
  | getStockObject (itemIndex : Nat)
  | createCompatibleDc (sourceDc16 : Nat)
  | createBitmap (width height : Int) (planes bitsPerPixel : Nat) (hasBits : Bool)
  | createCompatibleBitmap (dc16 : Nat) (width height : Int)
  | createSolidBrush
  | selectObject (dc16 object16 : Nat)
  | deleteDc (handle16 : Nat)
  | deleteObject (handle16 : Nat)
deriving DecidableEq, Repr

def wowGdiCall (call : WowGdiCall) (answer : Win32Answer) : GdiReply × GdiState :=
  match call with
  | .getStockObject itemIndex => wowGdiGetStockObject stock state itemIndex
  | .createCompatibleDc sourceDc16 => wowGdiCreateCompatibleDc state sourceDc16 answer
  | .createBitmap width height planes bitsPerPixel hasBits =>
    wowGdiCreateBitmap stock state width height planes bitsPerPixel hasBits answer
  | .createCompatibleBitmap dc16 width height =>
    wowGdiCreateCompatibleBitmap stock state dc16 width height answer
  | .createSolidBrush => wowGdiCreateSolidBrush stock state answer
  | .selectObject dc16 object16 => wowGdiSelectObject stock state dc16 object16 answer
  | .deleteDc handle16 => wowGdiDeleteDc state handle16 answer
  | .deleteObject handle16 => wowGdiDeleteObject stock state handle16 answer

end Ntvdmex.Wow.Gdi
