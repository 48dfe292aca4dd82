import Ntvdmex.Wow.Call

/-!
# Calling a guest's callback once per item (`wowenum.c`, `wowgdi.c`)

The fonts, pens and brushes Win32 enumerates are collected up front as Win16 structures, and each
step of the enumeration hands one of them to the guest's callback.  The list, its count and the
cursor are globals; `holes` are the return holes of the guest's calls by their linear address.
-/

namespace Ntvdmex.Wow.Enum

open Ntvdmex.Wow.Call

def wowEnumElf16 : Nat := 146
def wowEnumNtm16 : Nat := 41
def wowEnumMaxFont : Nat := 256
def wowEnumFontArgMetrics : Int := 2
def wowEnumFontArguments : Int := 7
def wowEnumPairArguments : Int := 4
def wowEnumLogPen16Size : Nat := 10
def wowEnumLogBrush16Size : Nat := 8
def wowEnumLineMaxSteps : Int := 4096
def wowGdiObjectBlobClear : Nat := 16
def wowGdiLf16FaceSize : Nat := 32
def wowGdiElf16FullNameSize : Nat := 64
def wowGdiElf16StyleSize : Nat := 32
def trueTypeFontType : BitVec 32 := 0x0004
def objPen : BitVec 16 := 1
def objBrush : BitVec 16 := 2

/-! ## The items -/

/-- The fields of `LOGFONTA`, and of `ENUMLOGFONTA` behind it. -/
structure LogFont where
  height : BitVec 32
  width : BitVec 32
  escapement : BitVec 32
  orientation : BitVec 32
  weight : BitVec 32
  italic : BitVec 8
  underline : BitVec 8
  strikeOut : BitVec 8
  charSet : BitVec 8
  outPrecision : BitVec 8
  clipPrecision : BitVec 8
  quality : BitVec 8
  pitchAndFamily : BitVec 8
  faceName : List (BitVec 8)
  fullName : List (BitVec 8)
  style : List (BitVec 8)

/-- The fields of `TEXTMETRICA`, and of `NEWTEXTMETRICA` behind it. -/
structure TextMetric where
  height : BitVec 32
  ascent : BitVec 32
  descent : BitVec 32
  internalLeading : BitVec 32
  externalLeading : BitVec 32
  aveCharWidth : BitVec 32
  maxCharWidth : BitVec 32
  weight : BitVec 32
  italic : BitVec 8
  underlined : BitVec 8
  struckOut : BitVec 8
  firstChar : BitVec 8
  lastChar : BitVec 8
  defaultChar : BitVec 8
  breakChar : BitVec 8
  pitchAndFamily : BitVec 8
  charSet : BitVec 8
  overhang : BitVec 32
  digitizedAspectX : BitVec 32
  digitizedAspectY : BitVec 32
  flags : BitVec 32
  sizeEm : BitVec 32
  cellHeight : BitVec 32
  avgWidth : BitVec 32

structure Win32Font where
  logFont : LogFont
  textMetric : TextMetric
  type : BitVec 32

/-- A `LOGPEN` or a `LOGBRUSH`. -/
inductive LogObject where
  | pen (style widthX widthY color : BitVec 32)
  | brush (style color hatch : BitVec 32)

structure WowEnumFont where
  blob : List (BitVec 8)
  fontType : BitVec 16
deriving DecidableEq, Repr

/-- `g_WowEnumFonts` and `g_WowEnumFontCount`. -/
structure WowEnumFonts where
  entries : Nat → WowEnumFont
  count : Nat

variable (isPlain : Bool) (offset : Nat) (state : EnumState) (frame : EnumFrame)

def wowGdiPut8 (value : BitVec 8) (bytes : List (BitVec 8)) : List (BitVec 8) :=
  bytes.set offset value

def wowGdiPut16 (value : BitVec 32) (bytes : List (BitVec 8)) : List (BitVec 8) :=
  (bytes.set offset (value.setWidth 8)).set (offset + 1) ((value >>> 8).setWidth 8)

/-- The text up to its terminator, and no more than leaves room for one. -/
def wowGdiPutText (size : Nat) (text bytes : List (BitVec 8)) : List (BitVec 8) :=
  let stored := (text.take (size - 1)).takeWhile (· ≠ 0)
  bytes.mapIdx fun index byte =>
    if offset ≤ index then stored.getD (index - offset) byte else byte

def logFont16 (logFont : LogFont) (blob : List (BitVec 8)) : List (BitVec 8) :=
  let numbers := blob
    |> wowGdiPut16 0 logFont.height
    |> wowGdiPut16 2 logFont.width
    |> wowGdiPut16 4 logFont.escapement
    |> wowGdiPut16 6 logFont.orientation
    |> wowGdiPut16 8 logFont.weight
    |> wowGdiPut8 10 logFont.italic
    |> wowGdiPut8 11 logFont.underline
    |> wowGdiPut8 12 logFont.strikeOut
    |> wowGdiPut8 13 logFont.charSet
    |> wowGdiPut8 14 logFont.outPrecision
    |> wowGdiPut8 15 logFont.clipPrecision
    |> wowGdiPut8 16 logFont.quality
    |> wowGdiPut8 17 logFont.pitchAndFamily
  let named := wowGdiPutText 18 wowGdiLf16FaceSize logFont.faceName numbers
  if isPlain then named
  else
    named
      |> wowGdiPutText 50 wowGdiElf16FullNameSize logFont.fullName
      |> wowGdiPutText 114 wowGdiElf16StyleSize logFont.style

def newTextMetric16 (isNew : Bool) (textMetric : TextMetric) (blob : List (BitVec 8)) :
    List (BitVec 8) :=
  let metrics := wowEnumElf16
  let old := blob
    |> wowGdiPut16 metrics textMetric.height
    |> wowGdiPut16 (metrics + 2) textMetric.ascent
    |> wowGdiPut16 (metrics + 4) textMetric.descent
    |> wowGdiPut16 (metrics + 6) textMetric.internalLeading
    |> wowGdiPut16 (metrics + 8) textMetric.externalLeading
    |> wowGdiPut16 (metrics + 10) textMetric.aveCharWidth
    |> wowGdiPut16 (metrics + 12) textMetric.maxCharWidth
    |> wowGdiPut16 (metrics + 14) textMetric.weight
    |> wowGdiPut8 (metrics + 16) textMetric.italic
    |> wowGdiPut8 (metrics + 17) textMetric.underlined
    |> wowGdiPut8 (metrics + 18) textMetric.struckOut
    |> wowGdiPut8 (metrics + 19) textMetric.firstChar
    |> wowGdiPut8 (metrics + 20) textMetric.lastChar
    |> wowGdiPut8 (metrics + 21) textMetric.defaultChar
    |> wowGdiPut8 (metrics + 22) textMetric.breakChar
    |> wowGdiPut8 (metrics + 23) textMetric.pitchAndFamily
    |> wowGdiPut8 (metrics + 24) textMetric.charSet
    |> wowGdiPut16 (metrics + 25) textMetric.overhang
    |> wowGdiPut16 (metrics + 27) textMetric.digitizedAspectX
    |> wowGdiPut16 (metrics + 29) textMetric.digitizedAspectY
  if isNew then
    old
      |> wowGdiPut16 (metrics + 31) textMetric.flags
      |> wowGdiPut16 (metrics + 33) (textMetric.flags >>> 16)
      |> wowGdiPut16 (metrics + 35) textMetric.sizeEm
      |> wowGdiPut16 (metrics + 37) textMetric.cellHeight
      |> wowGdiPut16 (metrics + 39) textMetric.avgWidth
  else old

/-- `none` where the callback answers 0 because the list is full. -/
def wowGdiFontCollect (fonts : WowEnumFonts) (font : Win32Font) : Option WowEnumFonts :=
  if wowEnumMaxFont ≤ fonts.count then none
  else
    let isNew : Bool := font.type &&& trueTypeFontType ≠ 0 ∧ isPlain = false
    let blob := newTextMetric16 isNew font.textMetric
      (logFont16 isPlain font.logFont (List.replicate (wowEnumElf16 + wowEnumNtm16) 0))
    some
      { entries := Function.update fonts.entries fonts.count ⟨blob, font.type.setWidth 16⟩
        count := fonts.count + 1 }

/-- Only the front of the entry is cleared. -/
def wowGdiObjectCollect (type : BitVec 16) (fonts : WowEnumFonts) (object : LogObject) :
    Option WowEnumFonts :=
  if wowEnumMaxFont ≤ fonts.count then none
  else
    let cleared := (fonts.entries fonts.count).blob.mapIdx fun index byte =>
      if index < wowGdiObjectBlobClear then 0 else byte
    let blob :=
      match object with
      | .pen style widthX widthY color =>
        cleared
          |> wowGdiPut16 0 style
          |> wowGdiPut16 2 widthX
          |> wowGdiPut16 4 widthY
          |> wowGdiPut16 6 (color &&& 0xFFFF)
          |> wowGdiPut16 8 (color >>> 16)
      | .brush style color hatch =>
        cleared
          |> wowGdiPut16 0 style
          |> wowGdiPut16 2 (color &&& 0xFFFF)
          |> wowGdiPut16 4 (color >>> 16)
          |> wowGdiPut16 6 hatch
    some
      { entries := Function.update fonts.entries fonts.count ⟨blob, type⟩
        count := fonts.count + 1 }

def win32Enumerate {item : Type} (collect : WowEnumFonts → item → Option WowEnumFonts) :
    WowEnumFonts → List item → WowEnumFonts
  | fonts, [] => fonts
  | fonts, first :: rest =>
    match collect fonts first with
    | none => fonts
    | some collected => win32Enumerate collect collected rest

/-- The list starts over; without a device context nothing is collected. -/
def recollect {item : Type} (collect : WowEnumFonts → item → Option WowEnumFonts)
    (fonts : WowEnumFonts) (items : Option (List item)) : WowEnumFonts :=
  match items with
  | none => { fonts with count := 0 }
  | some list => win32Enumerate collect { fonts with count := 0 } list

/-! ## The cursor -/

inductive WowEnumKind where
  | none
  | line
  | fonts
  | objects
deriving DecidableEq, Repr

/-- `g_WowEnum`. -/
structure WowEnum where
  kind : WowEnumKind
  procedure : BitVec 32
  dataSelector : BitVec 16
  lParam : BitVec 32
  returnLinear : BitVec 32
  index : Nat
  startX : Int
  startY : Int
  endX : Int
  endY : Int
  steps : Int
deriving DecidableEq, Repr

structure EnumState where
  enum : WowEnum
  fonts : WowEnumFonts
  blob2Argument : Int
  blob2Offset : Int
  holes : BitVec 32 → BitVec 32

def wowEnumBusy : Bool := state.enum.kind ≠ .none

/-- `none` if one is running, or for a procedure without a selector. -/
def wowEnumBegin (enum : WowEnum) (kind : WowEnumKind) (procedure : BitVec 32)
    (dataSelector : BitVec 16) (lParam returnLinear : BitVec 32) : Option WowEnum :=
  if enum.kind ≠ .none then .none
  else if procedure = 0 ∨ procedure >>> 16 = 0 then .none
  else
    some
      { enum with
        kind, procedure, dataSelector, lParam, returnLinear
        index := 0 }

def wowEnumLine (enum : WowEnum) (startX startY endX endY : Int) : WowEnum :=
  { enum with
    startX, startY, endX, endY
    steps := min (max |endX - startX| |endY - startY|) wowEnumLineMaxSteps }

def wowEnumEnd : EnumState :=
  { state with enum := { state.enum with kind := .none, procedure := 0 } }

/-- The caller's TRUE becomes FALSE, if it has a return hole. -/
def wowEnumStopped : EnumState :=
  if state.enum.returnLinear = 0 then state
  else { state with holes := Function.update state.holes state.enum.returnLinear 0 }

/-- What a step hands to `WowCallEnter`. -/
structure EnumCall where
  procedure : BitVec 32
  dataSelector : BitVec 16
  arguments : List (BitVec 16)
  blob : Option (List (BitVec 8))
  blobArgument : Int
  blob2 : Option (Int × Int)
deriving DecidableEq, Repr

/-- The second far pointer the globals ask for. -/
def EnumState.blob2 : Option (Int × Int) :=
  if 0 ≤ state.blob2Argument then some (state.blob2Argument, state.blob2Offset) else none

/-- The parameters of `WowCallEnter` for a call. -/
def EnumCall.wowCall (call : EnumCall) (stackBase : BitVec 32) (returnSelector : BitVec 16)
    (isAbsent : Bool) (currentTask : BitVec 16) : WowCall where
  stackBase
  returnSelector
  procedure := call.procedure
  dataSelector := call.dataSelector
  argumentWords index := call.arguments.getD index 0
  argumentWordCount := call.arguments.length
  returnLinear := 0
  returnMode := wowCallRetKeep
  sink := none
  window := 0
  message := 0
  blob := call.blob.map fun bytes index => bytes.getD index 0
  blobLength := (call.blob.getD []).length
  blobArgument := call.blobArgument
  isAbsent
  currentTask

/-- What the host brings to a step: the callback selector, the base of the guest's stack, and
whether `WowCallEnter` takes the call. -/
structure EnumHost where
  returnSelector : BitVec 16
  stackBase : BitVec 32
  enters : Bool

inductive StepOutcome where
  | idle
  | called (call : EnumCall)
  | complete
  | stopped
  | refused
deriving DecidableEq, Repr

def lParamWords (lParam : BitVec 32) : List (BitVec 16) :=
  [(lParam >>> 16).setWidth 16, lParam.setWidth 16]

/-- The call for an entry of the list. -/
def wowEnumEntryCall (enum : WowEnum) (entry : WowEnumFont) : EnumCall :=
  match enum.kind with
  | .objects =>
    { procedure := enum.procedure
      dataSelector := enum.dataSelector
      arguments := [0, 0] ++ lParamWords enum.lParam
      blob := some (entry.blob.take
        (if entry.fontType = objPen then wowEnumLogPen16Size else wowEnumLogBrush16Size))
      blobArgument := 0
      blob2 := none }
  | _ =>
    { procedure := enum.procedure
      dataSelector := enum.dataSelector
      arguments := [0, 0, 0, 0, entry.fontType] ++ lParamWords enum.lParam
      blob := some entry.blob
      blobArgument := 0
      blob2 := some (wowEnumFontArgMetrics, wowEnumElf16) }

/-- Win32's `MulDiv`: rounded to the nearest, halves away from zero. -/
def mulDiv (number numerator denominator : Int) : Int :=
  if denominator = 0 then -1
  else
    let product := number * numerator
    let magnitude := (product.natAbs + denominator.natAbs / 2) / denominator.natAbs
    if product < 0 ↔ denominator < 0 then magnitude else -magnitude

def wowEnumLineCall (enum : WowEnum) (blob2 : Option (Int × Int)) : EnumCall :=
  let pointX := enum.startX + mulDiv (enum.endX - enum.startX) enum.index enum.steps
  let pointY := enum.startY + mulDiv (enum.endY - enum.startY) enum.index enum.steps
  { procedure := enum.procedure
    dataSelector := enum.dataSelector
    arguments := [BitVec.ofInt 16 pointX, BitVec.ofInt 16 pointY] ++ lParamWords enum.lParam
    blob := none
    blobArgument := -1
    blob2 }

def wowEnumEnter (host : EnumHost) (call : EnumCall) : EnumState × StepOutcome :=
  let moved := { state with enum := { state.enum with index := state.enum.index + 1 } }
  if host.returnSelector = 0 ∨ host.stackBase = 0 ∨ host.enters = false then
    (wowEnumEnd moved, .refused)
  else ({ moved with blob2Argument := -1, blob2Offset := 0 }, .called call)

/-- The globals for the second pointer are set for the fonts' call, and put back if it is
refused. -/
def wowEnumFontsStep (host : EnumHost) : EnumState × StepOutcome :=
  if state.fonts.count ≤ state.enum.index then (wowEnumEnd state, .complete)
  else
    let entry := state.fonts.entries state.enum.index
    let prepared := { state with
      blob2Argument := wowEnumFontArgMetrics
      blob2Offset := (wowEnumElf16 : Int) }
    let call := { wowEnumEntryCall state.enum entry with blob2 := prepared.blob2 }
    match wowEnumEnter prepared host call with
    | (next, .refused) => ({ next with blob2Argument := -1 }, .refused)
    | (next, outcome) => (next, outcome)

def wowEnumObjectsStep (host : EnumHost) : EnumState × StepOutcome :=
  if state.fonts.count ≤ state.enum.index then (wowEnumEnd state, .complete)
  else
    let entry := state.fonts.entries state.enum.index
    wowEnumEnter state host { wowEnumEntryCall state.enum entry with blob2 := state.blob2 }

def wowEnumLineStep (host : EnumHost) : EnumState × StepOutcome :=
  if state.enum.steps ≤ state.enum.index then (wowEnumEnd state, .complete)
  else
    wowEnumEnter state host (wowEnumLineCall state.enum state.blob2)

/-- The first step, or the next one after the callback answered `result`. -/
def wowEnumStep (host : EnumHost) (isFirst : Bool) (result : BitVec 32) : EnumState × StepOutcome :=
  if state.enum.kind = .none then (state, .idle)
  else if isFirst = false ∧ state.enum.kind ≠ .line ∧ result.setWidth 16 = (0 : BitVec 16) then
    (wowEnumEnd (wowEnumStopped state), .stopped)
  else
    match state.enum.kind with
    | .none => (state, .idle)
    | .fonts => wowEnumFontsStep state host
    | .objects => wowEnumObjectsStep state host
    | .line => wowEnumLineStep state host

/-! ## The calls -/

/-- The arguments and the frame of a call: `hole` is the linear address of its return hole. -/
structure EnumFrame where
  procedure : BitVec 32
  lParam : BitVec 32
  guestDataSelector : BitVec 16
  isCallbackAllowed : Bool
  hole : BitVec 32

def wow32SetReturn (value : BitVec 32) : EnumState :=
  { state with holes := Function.update state.holes frame.hole value }

/-- The state, and whether the enumeration is to make its first step. -/
def wowGdiEnumFonts (items : Option (List Win32Font)) : EnumState × Bool :=
  let answered := wow32SetReturn state frame 1
  let collected := { answered with
    fonts := recollect (wowGdiFontCollect isPlain) state.fonts items }
  if collected.fonts.count = 0 ∨ frame.isCallbackAllowed = false then (collected, false)
  else if wowEnumBusy collected then (collected, false)
  else
    match wowEnumBegin collected.enum .fonts frame.procedure frame.guestDataSelector frame.lParam
      frame.hole with
    | none => (collected, false)
    | some enum => ({ collected with enum }, true)

def wowGdiEnumObjects (objectType : BitVec 16) (state : EnumState) (frame : EnumFrame)
    (items : Option (List LogObject)) : EnumState × Bool :=
  if objectType ≠ objPen ∧ objectType ≠ objBrush then (wow32SetReturn state frame 0, false)
  else
    let answered := wow32SetReturn state frame 1
    let collected := { answered with
      fonts := recollect (wowGdiObjectCollect objectType) state.fonts items }
    if collected.fonts.count = 0 ∨ frame.isCallbackAllowed = false then
      (if collected.fonts.count = 0 then wow32SetReturn collected frame 0 else collected, false)
    else if wowEnumBusy collected then (wow32SetReturn collected frame 0, false)
    else
      match wowEnumBegin collected.enum .objects frame.procedure frame.guestDataSelector
        frame.lParam frame.hole with
      | none => (wow32SetReturn collected frame 0, false)
      | some enum => ({ collected with enum }, true)

def wowGdiLineDda (startX startY endX endY : Int) : EnumState × Bool :=
  let answered := wow32SetReturn state frame 0
  if frame.isCallbackAllowed = false then (answered, false)
  else if wowEnumBusy answered then (answered, false)
  else
    match wowEnumBegin answered.enum .line frame.procedure frame.guestDataSelector frame.lParam
      0 with
    | none => (answered, false)
    | some enum => ({ answered with enum := wowEnumLine enum startX startY endX endY }, true)

/-- What the guest asks for, with what Win32 enumerates. -/
inductive GdiEnumCall where
  | enumFonts (isPlain : Bool) (items : Option (List Win32Font))
  | enumObjects (objectType : BitVec 16) (items : Option (List LogObject))
  | lineDda (startX startY endX endY : Int)

def wowGdiEnumCall (call : GdiEnumCall) : EnumState × Bool :=
  match call with
  | .enumFonts isPlain items => wowGdiEnumFonts isPlain state frame items
  | .enumObjects objectType items => wowGdiEnumObjects objectType state frame items
  | .lineDda startX startY endX endY => wowGdiLineDda state frame startX startY endX endY

end Ntvdmex.Wow.Enum
