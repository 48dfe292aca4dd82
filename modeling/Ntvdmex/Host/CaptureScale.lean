import Ntvdmex.Foundation.Filling

/-!
# Video capture's fixed output size (`capture_scale.c`)

Where a frame lands in the output picture, and the copy that puts it there.  The choice of the
output size is left out.
-/

namespace Ntvdmex.Host.CaptureScale

open Foundation.Filling

def captureScaleRgbBytes : Nat := 3
def captureScaleRowAlign : Nat := 3

/-- A `DWORD` result. -/
def dword (n : Nat) : Nat := n % 2 ^ 32

structure CaptureScalePlacement where
  width : Nat
  height : Nat
  left : Nat
  top : Nat
  factor : Nat
  deriving DecidableEq

def captureScalePlace (sourceWidth sourceHeight outputWidth outputHeight : Nat) :
    CaptureScalePlacement :=
  if sourceWidth = 0 ∨ sourceHeight = 0 then ⟨0, 0, 0, 0, 0⟩
  else
    let factor := outputWidth / sourceWidth
    let factor :=
      if outputHeight / sourceHeight < factor then outputHeight / sourceHeight else factor
    let (width, height) :=
      if factor ≠ 0 then (dword (sourceWidth * factor), dword (sourceHeight * factor))
      else if sourceHeight * outputWidth ≤ sourceWidth * outputHeight then
        (outputWidth, dword (sourceHeight * outputWidth / sourceWidth))
      else (dword (sourceWidth * outputHeight / sourceHeight), outputHeight)
    let width := if width = 0 then 1 else width
    let height := if height = 0 then 1 else height
    let left := dword (2 ^ 32 + outputWidth - width) / 2
    let top := dword (2 ^ 32 + outputHeight - height) / 2
    { width, height, left, top, factor }

def captureScaleStride (width : Nat) : Nat :=
  dword (width * captureScaleRgbBytes + captureScaleRowAlign) / 4 * 4

variable (source : Nat → Option UInt8)

/-- One column of a row of the frame, to `line` of the target. -/
def captureScaleColumn (size line sourceLine sourceWidth : Nat) (placement : CaptureScalePlacement)
    (column : Nat) : (Nat → UInt8) → Option (Nat → UInt8) :=
  let sourceColumn := dword (column * sourceWidth / placement.width)
  let toPixel := line + dword (placement.left + column) * captureScaleRgbBytes
  let pixel := sourceLine + sourceColumn * captureScaleRgbBytes
  countUp (fun channel target => do
    store (fun _ => True) size target (toPixel + channel) (← source (pixel + channel)))
    captureScaleRgbBytes

/-- One row of the target, the first one at its end. -/
def captureScaleRow (size targetStride sourceWidth sourceHeight sourceStride outputHeight : Nat)
    (placement : CaptureScalePlacement) (row : Nat) (target : Nat → UInt8) :
    Option (Nat → UInt8) := do
  let line := (outputHeight - 1 - row) * targetStride
  let target ← countUp (fun column target => store (fun _ => True) size target (line + column) 0)
    targetStride target
  if row < placement.top ∨ dword (placement.top + placement.height) ≤ row then return target
  let sourceRow := dword ((row - placement.top) * sourceHeight / placement.height)
  countUp (captureScaleColumn source size line (sourceRow * sourceStride) sourceWidth placement)
    placement.width target

/-- `target` holds `outputHeight` rows; a byte of `source` outside the frame reads as `none`. -/
def captureScaleBlit (sourceWidth sourceHeight sourceStride : Nat) (target : Nat → UInt8)
    (outputWidth outputHeight : Nat) (placement : CaptureScalePlacement) :
    Option (Nat → UInt8) :=
  let targetStride := captureScaleStride outputWidth
  countUp (captureScaleRow source (outputHeight * targetStride) targetStride sourceWidth
    sourceHeight sourceStride outputHeight placement) outputHeight target

end Ntvdmex.Host.CaptureScale
