import Ntvdmex.Vdd.Proofs.PresentScale.Layout

/-!
# The effect pass as a scaler
-/

namespace Ntvdmex.Vdd.PresentScale

open Option Foundation.Filling Nat Function PresentNeighbours

/-- The pixels of a frame at their places; what lies between its rows may not be readable. -/
def Holds (pixels : PresentPixels) (stride width height : Nat) (frame : Nat → Nat → UInt32) :
    Prop :=
  ∀ y < height, ∀ x < width, pixels (y * stride + x) = some (frame x y)

/-- A new buffer of these lines, each of its pixels written once, and nothing beyond. -/
def Draws (lines stride : Nat) (image : Nat → Nat → UInt32) (outcome : Option PresentPixels) :
    Prop :=
  ∃ pixels, outcome = some pixels ∧ Holds pixels stride stride lines image ∧
    ∀ offset, lines * stride ≤ offset → pixels offset = none

/-- The image Scale2x or Scale3x makes of a frame. -/
def Scales (source : PresentPixels) (stride width height factor : Nat)
    (image : Nat → Nat → UInt32) : Prop :=
  Draws (height * factor) (width * factor) image
    (presentScaleEpx source width height stride factor fun _ => none)

section

variable {lines stride : Nat} {image other : Nat → Nat → UInt32}

theorem Draws.congr {outcome : Option PresentPixels} (h : Draws lines stride image outcome)
    (hother : ∀ x < stride, ∀ y < lines, image x y = other x y) :
    Draws lines stride other outcome := by
  obtain ⟨pixels, hpixels, hholds, hrest⟩ := h
  exact ⟨pixels, hpixels, fun y hy x hx => hother x hx y hy ▸ hholds y hy x hx, hrest⟩

theorem draws_of_fills {step : PresentPixels → Option PresentPixels}
    (h : Fills (· = none) (· < lines * stride)
      (fun offset => some (image (offset % stride) (offset / stride))) step) :
    Draws lines stride image (step fun _ => none) := by
  obtain ⟨pixels, hpixels, hinside, houtside⟩ := h (fun _ => none) fun _ _ => rfl
  refine ⟨pixels, hpixels, fun y hy x hx => ?_,
    fun offset hoffset => houtside offset (Nat.not_lt.mpr hoffset)⟩
  have hat := line_position y hx
  have hpixel := hinside _ (line_position_lt hy hx)
  dsimp only at hpixel
  rwa [hat.1, hat.2] at hpixel

end

variable {width height factor scale : Nat} {frame : Nat → Nat → UInt32}

/-! ## Scale2x and Scale3x -/

section

variable (frame : Nat → Nat → UInt32) (width height x y : Nat)

/-- The neighbourhood, an edge repeated beyond it. -/
def neighboursAt : PresentNeighbours :=
  let left := if 0 < x then x - 1 else 0
  let right := if x < width - 1 then x + 1 else x
  let above := if 0 < y then y - 1 else 0
  let below := if y < height - 1 then y + 1 else y
  ⟨frame left above, frame x above, frame right above, frame left y, frame x y, frame right y,
    frame left below, frame x below, frame right below⟩

def epxImage (factor : Nat) : UInt32 :=
  presentEpx factor (neighboursAt frame width height (x / factor) (y / factor))
    (y % factor * factor + x % factor)

end

section

variable (n : PresentNeighbours)

def PresentNeighbours.mirror : PresentNeighbours :=
  ⟨n.aboveRight, n.above, n.aboveLeft, n.right, n.centre, n.left, n.belowRight, n.below,
    n.belowLeft⟩

def PresentNeighbours.transpose : PresentNeighbours :=
  ⟨n.aboveLeft, n.left, n.belowLeft, n.above, n.centre, n.below, n.aboveRight, n.right,
    n.belowRight⟩

variable (h : factor = 2 ∨ factor = 3) {subRow subColumn : Nat}

include h

theorem presentEpx_mirror (hrow : subRow < factor) (hcolumn : subColumn < factor) :
    presentEpx factor n.mirror (subRow * factor + subColumn) =
      presentEpx factor n (subRow * factor + (factor - 1 - subColumn)) := by
  unfold presentEpx mirror presentScale3xFactor
  rcases h with rfl | rfl
  · interval_cases subRow <;> interval_cases subColumn <;> simp [presentEpx2] <;> grind
  · interval_cases subRow <;> interval_cases subColumn <;> simp [presentEpx3] <;> grind

theorem presentEpx_transpose (hrow : subRow < factor) (hcolumn : subColumn < factor) :
    presentEpx factor n.transpose (subRow * factor + subColumn) =
      presentEpx factor n (subColumn * factor + subRow) := by
  unfold presentEpx transpose presentScale3xFactor
  rcases h with rfl | rfl
  · interval_cases subRow <;> interval_cases subColumn <;> simp [presentEpx2] <;> grind
  · interval_cases subRow <;> interval_cases subColumn <;> simp [presentEpx3] <;> grind

omit h in
theorem presentEpx_mem (factor index : Nat) :
    presentEpx factor n index ∈ [n.above, n.left, n.centre, n.right, n.below] := by
  have hcentre : n.centre ∈ [n.above, n.left, n.centre, n.right, n.below] := by simp
  unfold presentEpx presentEpx3 presentEpx2
  split <;> refine iteInduction (fun _ => hcentre) fun _ => ?_ <;> split
  all_goals first
  | exact hcentre
  | exact iteInduction (fun _ => by simp) fun _ => hcentre

end

/-- The place of a pixel of the image seen from the other edge. -/
theorem mirrored_position {x size : Nat} (hfactor : 0 < factor) (hx : x < size * factor) :
    (size * factor - 1 - x) / factor = size - 1 - x / factor ∧
      (size * factor - 1 - x) % factor = factor - 1 - x % factor := by
  obtain ⟨line, hline, hplace⟩ := (lines_iff hfactor).mp hx
  obtain ⟨position, hposition, rfl⟩ := (line_iff hfactor).mp hplace
  obtain ⟨rest, rfl⟩ := Nat.exists_eq_add_of_lt hline
  have hback : (line + rest + 1) * factor - 1 - (line * factor + position) =
      rest * factor + (factor - 1 - position) := by
    rw [Nat.add_mul, Nat.add_mul, one_mul]
    omega
  rw [hplace, (line_position line hposition).2, hback]
  exact ⟨(line_position rest (by omega)).1.trans (by omega), (line_position rest (by omega)).2⟩

theorem neighboursAt_mirror {x : Nat} (y : Nat) (hx : x < width) :
    neighboursAt (fun x y => frame (width - 1 - x) y) width height x y =
      (neighboursAt frame width height (width - 1 - x) y).mirror := by
  have hleft : width - 1 - (if 0 < x then x - 1 else 0) =
      if width - 1 - x < width - 1 then width - 1 - x + 1 else width - 1 - x := by
    split <;> split <;> omega
  have hright : width - 1 - (if x < width - 1 then x + 1 else x) =
      if 0 < width - 1 - x then width - 1 - x - 1 else 0 := by
    split <;> split <;> omega
  simp only [neighboursAt, mirror, hleft, hright]

section

variable (h : factor = 2 ∨ factor = 3) {x y : Nat}

include h

theorem epxImage_mirror (y : Nat) (hx : x < width * factor) :
    epxImage (fun x y => frame (width - 1 - x) y) width height x y factor =
      epxImage frame width height (width * factor - 1 - x) y factor := by
  have hfactor : 0 < factor := by omega
  have hplace := mirrored_position hfactor hx
  unfold epxImage
  rw [hplace.1, hplace.2, neighboursAt_mirror _ ((Nat.div_lt_iff_lt_mul hfactor).mpr hx)]
  exact presentEpx_mirror _ h (mod_lt _ hfactor) (mod_lt _ hfactor)

theorem epxImage_transpose (x y : Nat) :
    epxImage (fun x y => frame y x) height width x y factor =
      epxImage frame width height y x factor := by
  have hfactor : 0 < factor := by omega
  exact presentEpx_transpose (neighboursAt frame width height (y / factor) (x / factor)) h
    (mod_lt y hfactor) (mod_lt x hfactor)

theorem epxImage_flip (x : Nat) (hy : y < height * factor) :
    epxImage (fun x y => frame x (height - 1 - y)) width height x y factor =
      epxImage frame width height x (height * factor - 1 - y) factor := by
  rw [← epxImage_transpose h, @epxImage_mirror height width factor (fun x y => frame y x) h _ x hy,
    epxImage_transpose h]

end

/-- A column or row next to another, or the same. -/
def Near (n other : Nat) : Prop := other ≤ n + 1 ∧ n ≤ other + 1

theorem epxImage_mem {x y : Nat} (hx : x < width * factor) (hy : y < height * factor) :
    ∃ x' < width, ∃ y' < height, Near (x / factor) x' ∧ Near (y / factor) y' ∧
      epxImage frame width height x y factor = frame x' y' := by
  have hfactor : 0 < factor := Nat.pos_of_mul_pos_left (zero_lt_of_lt hx)
  have hx := (Nat.div_lt_iff_lt_mul hfactor).mpr hx
  have hy := (Nat.div_lt_iff_lt_mul hfactor).mpr hy
  have hmem := presentEpx_mem (neighboursAt frame width height (x / factor) (y / factor)) factor
    (y % factor * factor + x % factor)
  unfold epxImage Near
  generalize x / factor = column at hx hmem ⊢
  generalize y / factor = row at hy hmem ⊢
  generalize presentEpx factor _ _ = pixel at hmem ⊢
  simp only [neighboursAt, List.mem_cons, List.not_mem_nil, or_false] at hmem
  rcases hmem with rfl | rfl | rfl | rfl | rfl
  · exact ⟨column, hx, _, by split <;> omega, by omega, by split <;> omega, rfl⟩
  · exact ⟨_, by split <;> omega, row, hy, by split <;> omega, by omega, rfl⟩
  · exact ⟨column, hx, row, hy, by omega, by omega, rfl⟩
  · exact ⟨_, by split <;> omega, row, hy, by split <;> omega, by omega, rfl⟩
  · exact ⟨column, hx, _, by split <;> omega, by omega, by split <;> omega, rfl⟩

theorem writeBlock_fills {lines stride row column : Nat} {block : Nat → UInt32}
    {value : Nat → Option UInt32} (hfactor : 0 < factor)
    (hline : ∀ subRow < factor, row * factor + subRow < lines)
    (hplace : ∀ subColumn < factor, column * factor + subColumn < stride)
    (hvalue : ∀ subRow < factor, ∀ subColumn < factor, some (block (subRow * factor + subColumn)) =
      value ((row * factor + subRow) * stride + (column * factor + subColumn))) :
    Fills (· = none)
      (fun offset => offset % stride / factor = column ∧ offset / stride / factor = row) value
      (writeBlock (lines * stride) stride factor (row * factor * stride + column * factor)
        block) := by
  refine Fills.countUp (fun subRow offset => offset % stride / factor = column ∧
      offset / stride = row * factor + subRow) (fun subRow hsubRow => ?_)
    (fun m n hm hn offset hfirst hsecond => by omega) fun offset => ?_
  · refine Fills.countUp (fun subColumn offset =>
        offset = (row * factor + subRow) * stride + (column * factor + subColumn))
      (fun subColumn hsubColumn => ?_) (fun m n hm hn offset hfirst hsecond => by omega)
      fun offset => ?_
    · have hoffset : row * factor * stride + column * factor + subRow * stride + subColumn =
          (row * factor + subRow) * stride + (column * factor + subColumn) := by
        rw [Nat.add_mul]
        omega
      unfold writePixel
      rw [hoffset]
      exact fills_store (line_position_lt (hline subRow hsubRow) (hplace subColumn hsubColumn))
        (hvalue subRow hsubRow subColumn hsubColumn)
    · rw [line_iff hfactor]
      constructor
      · rintro ⟨⟨subColumn, hsub, hcolumn⟩, hrow⟩
        exact ⟨subColumn, hsub, (eq_line_position_iff (hplace _ hsub)).mpr ⟨hrow, hcolumn⟩⟩
      · rintro ⟨subColumn, hsub, hoffset⟩
        have hat := (eq_line_position_iff (hplace _ hsub)).mp hoffset
        exact ⟨⟨subColumn, hsub, hat.2⟩, hat.1⟩
  · rw [@line_iff factor row (offset / stride) hfactor]
    exact ⟨fun ⟨hcolumn, subRow, hsub, hrow⟩ => ⟨subRow, hsub, hcolumn, hrow⟩,
      fun ⟨subRow, hsub, hcolumn, hrow⟩ => ⟨hcolumn, subRow, hsub, hrow⟩⟩

section

variable {source : PresentPixels} {stride : Nat} (hframe : Holds source stride width height frame)
  (hwidth : 0 < width)

include hframe

theorem readNeighbours_eq {x y : Nat} (hx : x < width) (hy : y < height) :
    readNeighbours source ((if 0 < y then y - 1 else 0) * stride) (y * stride)
        ((if y < height - 1 then y + 1 else y) * stride) (if 0 < x then x - 1 else 0) x
        (if x < width - 1 then x + 1 else x) =
      some (neighboursAt frame width height x y) := by
  have hleft : (if 0 < x then x - 1 else 0) < width := by split <;> omega
  have hright : (if x < width - 1 then x + 1 else x) < width := by split <;> omega
  have habove : (if 0 < y then y - 1 else 0) < height := by split <;> omega
  have hbelow : (if y < height - 1 then y + 1 else y) < height := by split <;> omega
  simp only [readNeighbours, hframe _ habove, hframe _ hy, hframe _ hbelow, hleft, hx, hright,
    bind_eq_bind, bind_some]
  rfl

include hwidth

theorem presentScaleEpx_scales (hfactor : 0 < factor) (hlong : width * factor < 2 ^ 31) :
    Scales source stride width height factor
      fun x y => epxImage frame width height x y factor := by
  have hstride := Nat.mul_pos hwidth hfactor
  refine draws_of_fills ?_
  unfold presentScaleEpx
  rw [long_eq hlong]
  simp only [bind_eq_bind, bind_some]
  refine Fills.countUp (fun row offset => offset / (width * factor) / factor = row)
    (fun row hrow => ?_) (fun m n hm hn offset hfirst hsecond => by omega) fun offset => ?_
  · refine Fills.countUp (fun column offset => offset % (width * factor) / factor = column ∧
        offset / (width * factor) / factor = row) (fun column hcolumn => ?_)
      (fun m n hm hn offset hfirst hsecond => by omega) fun offset => ?_
    · have hshort := (Nat.mul_le_mul_right factor hcolumn.le).trans_lt hlong
      simp only [readNeighbours_eq hframe hcolumn hrow, long_eq hshort, bind_some]
      refine writeBlock_fills hfactor (fun _ => line_position_lt hrow)
        (fun _ => line_position_lt hcolumn) fun subRow hsubRow subColumn hsubColumn => ?_
      have hat := line_position (row * factor + subRow) (line_position_lt hcolumn hsubColumn)
      rw [hat.1, hat.2, epxImage, (line_position row hsubRow).1, (line_position row hsubRow).2,
        (line_position column hsubColumn).1, (line_position column hsubColumn).2]
    · exact ⟨fun hline => ⟨_, (Nat.div_lt_iff_lt_mul hfactor).mpr (mod_lt offset hstride), rfl,
        hline⟩, fun ⟨_, _, _, hline⟩ => hline⟩
  · rw [← Nat.div_lt_iff_lt_mul hstride, lines_iff hfactor]

end

/-! ## The effect pass -/

/-- The accumulator against the division. -/
theorem accumulate (hfactor : factor ≤ scale) (hscale : 0 < scale) (n : Nat) :
    if scale ≤ n % scale + factor then
      (n + factor) / scale = n / scale + 1 ∧ (n + factor) % scale = n % scale + factor - scale
    else (n + factor) / scale = n / scale ∧ (n + factor) % scale = n % scale + factor := by
  have hn := div_add_mod n scale
  have hless := mod_lt n hscale
  split
  · rw [Nat.div_mod_unique hscale, mul_succ]
    omega
  · rw [Nat.div_mod_unique hscale]
    omega

section

variable {lines stride imageStride row : Nat} {image : PresentPixels}
  {sample : Nat → Nat → UInt32} (shade : Nat → UInt32 → UInt32) (cells : PresentPixels)

variable (factor scale stride row sample) in
/-- The column loop after `count` turns. -/
structure Scanned (count : Nat) (scan : PresentScan) : Prop where
  imageColumn : scan.imageColumn = count * factor / scale
  step : scan.step = count * factor % scale
  inside : ∀ column < count,
    scan.pixels (row * stride + column) = some (shade column (sample column row))
  outside : ∀ offset, (∀ column < count, offset ≠ row * stride + column) →
    scan.pixels offset = cells offset

variable (hfactor : factor ≤ scale) (hscale : 0 < scale) (hsum : scale + factor ≤ 2 ^ 31)
  (hsample : ∀ column < stride,
    image (row * factor / scale * imageStride + column * factor / scale) =
      some (sample column row))
  (hrow : row < lines)

include hfactor hscale hsum hsample hrow

theorem renderColumn_scanned {count : Nat} {scan : PresentScan} (hcount : count < stride)
    (hnone : cells (row * stride + count) = none)
    (h : Scanned factor scale stride row sample shade cells count scan) :
    ∃ next, renderColumn image (lines * stride) (row * factor / scale * imageStride)
        (row * stride) factor scale shade count scan = some next ∧
      Scanned factor scale stride row sample shade cells (count + 1) next := by
  have hfree := (h.outside _ fun column hcolumn => by omega).trans hnone
  have hstep := mod_lt (count * factor) hscale
  have hacc := accumulate hfactor hscale (count * factor)
  rw [← succ_mul] at hacc
  have hkept : ∀ imageColumn step, (count + 1) * factor / scale = imageColumn ∧
      (count + 1) * factor % scale = step →
      Scanned factor scale stride row sample shade cells (count + 1)
        ⟨Function.update scan.pixels (row * stride + count)
          (some (shade count (sample count row))), imageColumn, step⟩ := by
    rintro _ _ ⟨rfl, rfl⟩
    refine ⟨rfl, rfl, fun column hcolumn => ?_, fun offset hoffset => ?_⟩
    all_goals dsimp only
    · by_cases hlast : column = count
      · rw [hlast, update_self]
      · rw [update_of_ne (by omega)]
        exact h.inside column (by omega)
    · rw [update_of_ne (hoffset count count.lt_succ_self)]
      exact h.outside offset fun column hcolumn => hoffset column (by omega)
  unfold renderColumn writePixel store
  rw [h.imageColumn, hsample count hcount, bind_eq_bind, bind_some,
    if_pos ⟨line_position_lt hrow hcount, hfree⟩, bind_eq_bind, bind_some, h.step,
    long_eq (by omega), bind_eq_bind, bind_some]
  split at hacc
  · next hwrap =>
    rw [if_pos hwrap]
    exact ⟨_, rfl, hkept _ _ hacc⟩
  · next hwrap =>
    rw [if_neg hwrap]
    exact ⟨_, rfl, hkept _ _ hacc⟩

omit cells shade in
theorem renderRow_fills (scaler : PresentScaler) (hstride : 0 < stride)
    (hlong : row * factor < 2 ^ 31) :
    Fills (· = none) (fun offset => offset / stride = row)
      (fun offset => some (presentShade scaler scale (offset / stride) (offset % stride)
        (sample (offset % stride) (offset / stride))))
      (renderRow image imageStride stride lines factor scale scaler row) := by
  intro cells hfree
  obtain ⟨last, hlast, hscanned⟩ := countUp_spec
    (Scanned factor scale stride row sample (presentShade scaler scale row) cells) stride
    ⟨(by simp : (⟨cells, 0, 0⟩ : PresentScan).imageColumn = _), by simp, by simp, fun _ _ => rfl⟩
    fun count hcount scan h => renderColumn_scanned _ cells hfactor hscale hsum hsample hrow hcount
      (hfree _ (line_position row hcount).1) h
  refine ⟨last.pixels, ?_, fun offset hoffset => ?_, fun offset hoffset => ?_⟩
  · unfold renderRow
    rw [long_eq hlong]
    exact congrArg (· >>= fun scan => some scan.pixels) hlast
  · dsimp only at hoffset ⊢
    have hcolumn := mod_lt offset hstride
    have hpixel := hscanned.inside _ hcolumn
    rwa [← (eq_line_position_iff hcolumn).mpr ⟨hoffset, rfl⟩, ← hoffset] at hpixel
  · refine hscanned.outside offset fun column hcolumn heq => hoffset ?_
    exact (congrArg (· / stride) heq).trans (line_position row hcolumn).1

end

/-- The image a scaler shows: the frame itself, where it does not enlarge. -/
def effectImage (frame : Nat → Nat → UInt32) (width height factor x y : Nat) : UInt32 :=
  if 1 < factor then epxImage frame width height x y factor else frame x y

section

variable {source : PresentPixels} {stride : Nat} (hframe : Holds source stride width height frame)
  (hwidth : 0 < width) (hheight : 0 < height)

include hframe hwidth hheight

theorem presentEffectRender_draws (scaler : PresentScaler) (hscale : 0 < scale)
    (hfactor : factor = min scale (presentScalerFactor scaler))
    (hlongWidth : width * scale < 2 ^ 31) (hlongHeight : height * scale * factor < 2 ^ 31) :
    Draws (height * scale) (width * scale)
      (fun x y => presentShade scaler scale y x
        (effectImage frame width height factor (x * factor / scale) (y * factor / scale)))
      (presentEffectRender source width height stride scaler scale) := by
  have hrange : 0 < presentScalerFactor scaler := by cases scaler <;> decide
  have hpos : 0 < factor := by omega
  have hle : factor ≤ scale := hfactor ▸ min_le_left _ _
  have hlines : 0 < width * scale := Nat.mul_pos hwidth hscale
  have hlong : width * factor < 2 ^ 31 := (Nat.mul_le_mul_left width hle).trans_lt hlongWidth
  have hlongScale : height * scale < 2 ^ 31 :=
    (Nat.le_mul_of_pos_right _ hpos).trans_lt hlongHeight
  have hsum : scale + factor ≤ 2 ^ 31 := by
    have hless : scale ≤ height * scale := Nat.le_mul_of_pos_left scale hheight
    by_cases hmore : 1 < factor
    · have htwice := Nat.mul_le_mul hless hmore
      omega
    · omega
  have hscaled : ∀ {n size : Nat}, n < size * scale → n * factor / scale < size * factor := by
    intro n size hn
    rw [Nat.div_lt_iff_lt_mul hscale, mul_right_comm]
    exact Nat.mul_lt_mul_of_pos_right hn hpos
  have hrows : ∀ image imageStride picture,
      Holds image imageStride (width * factor) (height * factor) picture →
      Draws (height * scale) (width * scale) (fun x y => presentShade scaler scale y x
          (picture (x * factor / scale) (y * factor / scale)))
        (countUp (renderRow image imageStride (width * scale) (height * scale) factor scale scaler)
          (height * scale) fun _ => none) := by
    intro image imageStride picture himage
    refine draws_of_fills (Fills.countUp (fun row offset => offset / (width * scale) = row)
      (fun row hrow => ?_) (fun m n hm hn offset hfirst hsecond => by omega)
      fun offset => lines_iff hlines)
    exact @renderRow_fills factor scale _ _ imageStride row image
      (fun column row => picture (column * factor / scale) (row * factor / scale)) hle hscale hsum
      (fun column hcolumn => himage _ (hscaled hrow) _ (hscaled hcolumn)) hrow scaler hlines
      ((Nat.mul_le_mul_right factor hrow.le).trans_lt hlongHeight)
  unfold presentEffectRender effectImage
  rw [long_eq hlongWidth, bind_eq_bind, bind_some, long_eq hlongScale, bind_some,
    if_neg (by omega : ¬(scale < 1 ∨ width < 1 ∨ height < 1))]
  dsimp only
  rw [← min_def_lt, ← hfactor]
  by_cases hmore : 1 < factor
  · obtain ⟨pixels, hpixels, hholds, -⟩ := presentScaleEpx_scales hframe hwidth hpos hlong
    simp only [if_pos hmore]
    rw [hpixels, bind_eq_bind, bind_some, long_eq hlong, bind_some]
    exact hrows pixels _ (fun x y => epxImage frame width height x y factor) hholds
  · obtain rfl : factor = 1 := by omega
    simp only [if_neg hmore]
    exact hrows source stride frame (by rwa [mul_one, mul_one])

/-- Both passes read the frame alone and write each pixel of their picture once, the scaled image
takes its pixels from the source pixel's neighbourhood, and it turns with the frame. -/
theorem effect_pass_scales :
    (∀ factor, factor = 2 ∨ factor = 3 → width * factor < 2 ^ 31 → ∃ image : Nat → Nat → UInt32,
      Scales source stride width height factor image ∧
      (∀ x < width * factor, ∀ y < height * factor,
        (∃ x' < width, ∃ y' < height,
          Near (x / factor) x' ∧ Near (y / factor) y' ∧ image x y = frame x' y') ∧
        ∀ colour, (∀ x' < width, ∀ y' < height, Near (x / factor) x' → Near (y / factor) y' →
          frame x' y' = colour) → image x y = colour) ∧
      (∀ turned stride', Holds turned stride' width height (fun x y => frame (width - 1 - x) y) →
        Scales turned stride' width height factor fun x y => image (width * factor - 1 - x) y) ∧
      (∀ turned stride', Holds turned stride' width height (fun x y => frame x (height - 1 - y)) →
        Scales turned stride' width height factor fun x y => image x (height * factor - 1 - y)) ∧
      ∀ turned stride', height * factor < 2 ^ 31 →
        Holds turned stride' height width (fun x y => frame y x) →
        Scales turned stride' height width factor fun x y => image y x) ∧
    ∀ scaler scale, 0 < scale →
      let factor := min scale (presentScalerFactor scaler)
      width * scale < 2 ^ 31 → height * scale * factor < 2 ^ 31 →
      ∃ image : Nat → Nat → UInt32,
        (if 1 < factor then Scales source stride width height factor image else image = frame) ∧
        Draws (height * scale) (width * scale)
          (fun x y => presentShade scaler scale y x (image (x * factor / scale) (y * factor / scale)))
          (presentEffectRender source width height stride scaler scale) := by
  refine ⟨fun factor hfactor hlong => ?_, fun scaler scale hscale => ?_⟩
  · have hpos : 0 < factor := by omega
    refine ⟨fun x y => epxImage frame width height x y factor,
      presentScaleEpx_scales hframe hwidth hpos hlong, fun x hx y hy => ?_,
      fun turned stride' hturned => ?_, fun turned stride' hturned => ?_,
      fun turned stride' hlong' hturned => ?_⟩
    · obtain ⟨x', hx', y', hy', hnearX, hnearY, hpixel⟩ := epxImage_mem hx hy
      exact ⟨⟨x', hx', y', hy', hnearX, hnearY, hpixel⟩,
        fun colour hflat => hpixel.trans (hflat x' hx' y' hy' hnearX hnearY)⟩
    · exact (presentScaleEpx_scales hturned hwidth hpos hlong).congr fun x hx y _ =>
        epxImage_mirror hfactor y hx
    · exact (presentScaleEpx_scales hturned hwidth hpos hlong).congr fun x _ y hy =>
        epxImage_flip hfactor x hy
    · exact (presentScaleEpx_scales hturned hheight hpos hlong').congr fun x _ y _ =>
        epxImage_transpose hfactor x y
  · intro factor hlongWidth hlongHeight
    refine ⟨effectImage frame width height factor, ?_,
      presentEffectRender_draws hframe hwidth hheight scaler hscale rfl hlongWidth hlongHeight⟩
    have hle : factor ≤ scale := min_le_left _ _
    split
    · next hmore =>
      refine (presentScaleEpx_scales hframe hwidth (Nat.zero_lt_of_lt hmore)
        ((Nat.mul_le_mul_left width hle).trans_lt hlongWidth)).congr fun x hx y hy => ?_
      exact (if_pos hmore).symm
    · next hmore =>
      funext x y
      exact if_neg hmore

end

theorem effect_pass_twoPixels :
    ∃ pixels, presentEffectRender (fun offset => some (UInt32.ofNat offset)) 2 1 2 .none 2 =
      some pixels ∧ pixels 0 = some 0 ∧ pixels 3 = some 1 := by
  obtain ⟨image, himage, pixels, hpixels, hholds, -⟩ :=
    (@effect_pass_scales 2 1 (fun x _ => UInt32.ofNat x) (fun offset => some (UInt32.ofNat offset))
      2 (fun y hy x _ => by rw [Nat.lt_one_iff.mp hy, Nat.zero_mul, Nat.zero_add]) (by decide)
      (by decide)).2 .none 2 (by decide) (by decide) (by decide)
  obtain rfl : image = fun x _ => UInt32.ofNat x := himage
  exact ⟨pixels, hpixels, hholds 0 (by decide) 0 (by decide), hholds 0 (by decide) 3 (by decide)⟩

end Ntvdmex.Vdd.PresentScale
