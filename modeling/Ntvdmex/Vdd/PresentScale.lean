import Ntvdmex.Foundation.Filling

/-!
# The display's scaling and aspect arithmetic, and the effect pass (`present_scale.c`)

Sizes are natural numbers: an `INT` that is not positive is treated as 0.  A product of 32-bit
`INT` or `long` is `none` where it overflows.  The choice of an effect's scale, the window's size
and the tints are left out.
-/

namespace Ntvdmex.Vdd.PresentScale

open Foundation.Filling

/-- A 32-bit signed result. -/
def long (n : Nat) : Option Nat := if n < 2 ^ 31 then some n else none

/-! ## The layout -/

def presentDefaultRatioWidth : Nat := 9
def presentDefaultRatioHeight : Nat := 5

inductive PresentAspect where
  | native
  | ratio4To3
  | ratio16To9
  | ratio16To10
  | stretch
  deriving DecidableEq

inductive PresentFitting where
  | whole
  | fill
  deriving DecidableEq

structure PresentPicture where
  left : Int
  top : Int
  width : Nat
  height : Nat
  deriving DecidableEq

def presentAspectRatio : PresentAspect → Nat × Nat
  | .ratio4To3 => (4, 3)
  | .ratio16To9 => (16, 9)
  | .ratio16To10 => (16, 10)
  | .native | .stretch => (0, 0)

def presentTargetRatio (aspect : PresentAspect) (sourceWidth sourceHeight : Nat) : Nat × Nat :=
  let (ratioWidth, ratioHeight) := presentAspectRatio aspect
  if ratioWidth = 0 ∨ ratioHeight = 0 then
    (if 0 < sourceWidth then sourceWidth else presentDefaultRatioWidth,
      if 0 < sourceHeight then sourceHeight else presentDefaultRatioHeight)
  else (ratioWidth, ratioHeight)

def presentIsNative (aspect : PresentAspect) : Prop := aspect = .native ∨ aspect = .stretch
deriving Decidable

def atLeastOne (size : Nat) : Nat := if size < 1 then 1 else size

/-- The picture of this size in the middle of the destination. -/
def presentCentre (destinationWidth destinationHeight width height : Nat) : PresentPicture :=
  { left := ((destinationWidth : Int) - width).tdiv 2
    top := ((destinationHeight : Int) - height).tdiv 2
    width, height }

def presentFitRatio (destinationWidth destinationHeight ratioWidth ratioHeight : Nat) :
    Option PresentPicture := do
  let destinationWidth := atLeastOne destinationWidth
  let destinationHeight := atLeastOne destinationHeight
  if ratioWidth < 1 ∨ ratioHeight < 1 then return ⟨0, 0, destinationWidth, destinationHeight⟩
  let fitHeight := (← long (destinationWidth * ratioHeight)) / ratioWidth
  if destinationHeight < fitHeight then
    let fitWidth := (← long (destinationHeight * ratioWidth)) / ratioHeight
    return presentCentre destinationWidth destinationHeight (atLeastOne fitWidth)
      (atLeastOne destinationHeight)
  return presentCentre destinationWidth destinationHeight (atLeastOne destinationWidth)
    (atLeastOne fitHeight)

/-- The best pair of whole scales so far; no area before the first. -/
structure PresentBest where
  area : Nat := 0
  scaleX : Nat := 0
  scaleY : Nat := 0

section

variable (destinationWidth destinationHeight sourceWidth sourceHeight ratioWidth ratioHeight : Nat)

/-- One turn of the search, at a width that fits. -/
def presentTryScale (scaleX : Nat) (best : PresentBest) : Option PresentBest := do
  let numerator ← long ((← long (sourceWidth * scaleX)) * ratioHeight)
  let denominator ← long (sourceHeight * ratioWidth)
  let scaleY := numerator / denominator
  if numerator % denominator ≠ 0 then return best
  if destinationHeight < (← long (sourceHeight * scaleY)) ∨ scaleY < 1 then return best
  let area ← long ((← long (sourceWidth * scaleX * sourceHeight)) * scaleY)
  return if best.area < area then ⟨area, scaleX, scaleY⟩ else best

/-- The search from `scaleX` on, of so many turns at most. -/
def presentWholeScales : Nat → Nat → PresentBest → Option PresentBest
  | 0, _, _ => none
  | turns + 1, scaleX, best => do
    if destinationWidth < (← long (sourceWidth * scaleX)) then return best
    presentWholeScales turns (scaleX + 1) (← presentTryScale destinationHeight sourceWidth
      sourceHeight ratioWidth ratioHeight scaleX best)

end

def presentLayout (aspect : PresentAspect) (fit : PresentFitting) (isScreen : Bool)
    (destinationWidth destinationHeight sourceWidth sourceHeight : Nat) :
    Option PresentPicture := do
  let destinationWidth := atLeastOne destinationWidth
  let destinationHeight := atLeastOne destinationHeight
  if aspect = .stretch ∧ isScreen then return ⟨0, 0, destinationWidth, destinationHeight⟩
  let (ratioWidth, ratioHeight) := presentTargetRatio aspect sourceWidth sourceHeight
  if 0 < sourceWidth ∧ 0 < sourceHeight ∧ fit = .whole then
    if presentIsNative aspect then
      let scaleX := destinationWidth / sourceWidth
      let scaleY := destinationHeight / sourceHeight
      let scale := if scaleX < scaleY then scaleX else scaleY
      if 1 ≤ scale then
        return presentCentre destinationWidth destinationHeight (← long (sourceWidth * scale))
          (← long (sourceHeight * scale))
    else
      let best ← presentWholeScales destinationWidth destinationHeight sourceWidth sourceHeight
        ratioWidth ratioHeight (destinationWidth + 1) 1 {}
      if best.area ≠ 0 then
        return presentCentre destinationWidth destinationHeight
          (← long (sourceWidth * best.scaleX)) (← long (sourceHeight * best.scaleY))
  presentFitRatio destinationWidth destinationHeight ratioWidth ratioHeight

/-! ## Scale2x and Scale3x -/

inductive PresentScaler where
  | none
  | scale2x
  | scale3x
  | scanlines
  | crt
  deriving DecidableEq

def presentScale2xFactor : Nat := 2
def presentScale3xFactor : Nat := 3

def presentScalerFactor : PresentScaler → Nat
  | .scale2x => presentScale2xFactor
  | .scale3x => presentScale3xFactor
  | _ => 1

def presentScalerHasScanlines (scaler : PresentScaler) : Bool :=
  scaler = .scanlines || scaler = .crt

/-- The 3x3 neighbourhood of a pixel, `A B C`, `D E F`, `G H I`. -/
structure PresentNeighbours where
  aboveLeft : UInt32
  above : UInt32
  aboveRight : UInt32
  left : UInt32
  centre : UInt32
  right : UInt32
  belowLeft : UInt32
  below : UInt32
  belowRight : UInt32

section

variable (neighbours : PresentNeighbours)

/-- The block's pixel at `index`, row by row. -/
def presentEpx2 (index : Nat) : UInt32 :=
  let ⟨_, above, _, left, centre, right, _, below, _⟩ := neighbours
  if above = below ∨ left = right then centre
  else match index with
    | 0 => if left = above then left else centre
    | 1 => if above = right then right else centre
    | 2 => if left = below then left else centre
    | 3 => if below = right then right else centre
    | _ => centre

def presentEpx3 (index : Nat) : UInt32 :=
  let ⟨aboveLeft, above, aboveRight, left, centre, right, belowLeft, below, belowRight⟩ :=
    neighbours
  if above = below ∨ left = right then centre
  else match index with
    | 0 => if left = above then left else centre
    | 1 =>
      if left = above ∧ centre ≠ aboveRight ∨ above = right ∧ centre ≠ aboveLeft then above
      else centre
    | 2 => if above = right then right else centre
    | 3 =>
      if left = above ∧ centre ≠ belowLeft ∨ left = below ∧ centre ≠ aboveLeft then left
      else centre
    | 5 =>
      if above = right ∧ centre ≠ belowRight ∨ below = right ∧ centre ≠ aboveRight then right
      else centre
    | 6 => if left = below then left else centre
    | 7 =>
      if left = below ∧ centre ≠ belowRight ∨ below = right ∧ centre ≠ belowLeft then below
      else centre
    | 8 => if below = right then right else centre
    | _ => centre

end

/-- Pixels by their offset; `none` is one that may not be read, or is not yet written. -/
abbrev PresentPixels := Nat → Option UInt32

/-- A write outside the `size` pixels, or a second one to a pixel, fails. -/
def writePixel (size : Nat) (pixels : PresentPixels) (offset : Nat) (pixel : UInt32) :
    Option PresentPixels :=
  store (· = none) size pixels offset (some pixel)

section

variable (source : PresentPixels)

def readNeighbours (rowAbove sourceRow rowBelow columnLeft column columnRight : Nat) :
    Option PresentNeighbours := do
  let aboveLeft ← source (rowAbove + columnLeft)
  let above ← source (rowAbove + column)
  let aboveRight ← source (rowAbove + columnRight)
  let left ← source (sourceRow + columnLeft)
  let centre ← source (sourceRow + column)
  let right ← source (sourceRow + columnRight)
  let belowLeft ← source (rowBelow + columnLeft)
  let below ← source (rowBelow + column)
  let belowRight ← source (rowBelow + columnRight)
  return { aboveLeft, above, aboveRight, left, centre, right, belowLeft, below, belowRight }

def presentEpx (factor : Nat) (neighbours : PresentNeighbours) : Nat → UInt32 :=
  if factor = presentScale3xFactor then presentEpx3 neighbours else presentEpx2 neighbours

/-- The block of one source pixel. -/
def writeBlock (size destinationStride factor output : Nat) (block : Nat → UInt32) :
    PresentPixels → Option PresentPixels :=
  countUp (fun subRow => countUp (fun subColumn destination =>
    writePixel size destination (output + subRow * destinationStride + subColumn)
      (block (subRow * factor + subColumn))) factor) factor

def presentScaleEpx (sourceWidth sourceHeight sourceStride factor : Nat)
    (destination : PresentPixels) : Option PresentPixels := do
  let destinationStride ← long (sourceWidth * factor)
  let size := sourceHeight * factor * destinationStride
  countUp (fun row destination => do
    let rowAbove := (if 0 < row then row - 1 else 0) * sourceStride
    let sourceRow := row * sourceStride
    let rowBelow := (if row < sourceHeight - 1 then row + 1 else row) * sourceStride
    let outputRow := row * factor * destinationStride
    countUp (fun column destination => do
      let columnLeft := if 0 < column then column - 1 else 0
      let columnRight := if column < sourceWidth - 1 then column + 1 else column
      let neighbours ←
        readNeighbours source rowAbove sourceRow rowBelow columnLeft column columnRight
      writeBlock size destinationStride factor (outputRow + (← long (column * factor)))
        (presentEpx factor neighbours) destination) sourceWidth destination)
    sourceHeight destination

end

/-! ## The effect pass -/

def percent : Nat := 100
def presentScanlinesDarkPercent : Nat := 50
def presentCrtScanlinePercent : Nat := 60
def presentCrtMaskPercent : Nat := 70
def presentCrtLiftPercent : Nat := 125
def presentCrtMaskPhases : Nat := 3

def presentLevel (value share : Nat) : Nat := min (value * share / percent) 255

/-- The level of a channel of this value, in a dark or a bright row, lit or not. -/
def presentEffectLevels (scaler : PresentScaler) (isDark isLit : Bool) (value : Nat) : Nat :=
  let darkPercent :=
    if scaler = .crt then presentCrtScanlinePercent else presentScanlinesDarkPercent
  let liftPercent := if scaler = .crt then presentCrtLiftPercent else percent
  let unlitPercent := if scaler = .crt then presentCrtMaskPercent else percent
  let brightRow := value * liftPercent / percent
  let darkRow := brightRow * darkPercent / percent
  presentLevel (if isDark then darkRow else brightRow) (if isLit then percent else unlitPercent)

def presentEffectShade (pixel : UInt32) (rowLevels : Bool → Nat → Nat) (phase : Nat) : UInt32 :=
  let red := rowLevels (phase = 0) ((pixel >>> 16) &&& 0xFF).toNat
  let green := rowLevels (phase = 1) ((pixel >>> 8) &&& 0xFF).toNat
  let blue := rowLevels (phase = 2) (pixel &&& 0xFF).toNat
  UInt32.ofNat red <<< 16 ||| UInt32.ofNat green <<< 8 ||| UInt32.ofNat blue

/-- Where the column loop is: its output row, and the image's column with the accumulator. -/
structure PresentScan where
  pixels : PresentPixels
  imageColumn : Nat
  step : Nat

/-- One turn of the column loop; `shade` is the effect at a column. -/
def renderColumn (image : PresentPixels) (size imageRow outputRow factor scale : Nat)
    (shade : Nat → UInt32 → UInt32) (column : Nat) (scan : PresentScan) : Option PresentScan := do
  let pixel ← image (imageRow + scan.imageColumn)
  let pixels ← writePixel size scan.pixels (outputRow + column) (shade column pixel)
  let step ← long (scan.step + factor)
  return if scale ≤ step then ⟨pixels, scan.imageColumn + 1, step - scale⟩
    else ⟨pixels, scan.imageColumn, step⟩

/-- The effect of a scaler on a pixel of an output row and column. -/
def presentShade (scaler : PresentScaler) (scale row column : Nat) (pixel : UInt32) : UInt32 :=
  let isShaded := presentScalerHasScanlines scaler
  let firstDarkRow := scale - scale / 2
  let isDark := isShaded && decide (firstDarkRow ≤ row % scale)
  if isShaded then
    presentEffectShade pixel (presentEffectLevels scaler isDark) (column % presentCrtMaskPhases)
  else pixel

def renderRow (image : PresentPixels) (imageStride outputWidth outputHeight factor scale : Nat)
    (scaler : PresentScaler) (row : Nat) (destination : PresentPixels) : Option PresentPixels := do
  let imageRow := (← long (row * factor)) / scale * imageStride
  let scan ← countUp (renderColumn image (outputHeight * outputWidth) imageRow
    (row * outputWidth) factor scale (presentShade scaler scale row))
    outputWidth ⟨destination, 0, 0⟩
  return scan.pixels

/-- The scratch image has room for `factor` times the frame each way; both buffers are new. -/
def presentEffectRender (source : PresentPixels) (sourceWidth sourceHeight sourceStride : Nat)
    (scaler : PresentScaler) (scale : Nat) : Option PresentPixels := do
  let outputWidth ← long (sourceWidth * scale)
  let outputHeight ← long (sourceHeight * scale)
  if scale < 1 ∨ sourceWidth < 1 ∨ sourceHeight < 1 then return (fun _ => none)
  let factor := presentScalerFactor scaler
  let factor := if scale < factor then scale else factor
  let image ← if 1 < factor then
      presentScaleEpx source sourceWidth sourceHeight sourceStride factor fun _ => none
    else pure source
  let imageStride ← if 1 < factor then long (sourceWidth * factor) else pure sourceStride
  countUp (renderRow image imageStride outputWidth outputHeight factor scale scaler) outputHeight
    fun _ => none

end Ntvdmex.Vdd.PresentScale
