import Ntvdmex.Host.CaptureScale
import Ntvdmex.Vdd.Proofs.PresentScale.Layout

/-!
# A frame in the output picture
-/

namespace Ntvdmex.Host.CaptureScale

open Option Foundation.Filling Vdd.PresentScale Nat

variable {p : Placing}

/-- The placement as a picture. -/
def CaptureScalePlacement.picture (placement : CaptureScalePlacement) : PresentPicture :=
  ⟨placement.left, placement.top, placement.width, placement.height⟩

theorem dword_eq {n : Nat} (h : n < 2 ^ 32) : dword n = n := mod_eq_of_lt h

theorem placed_of_sizes {shape : Nat → Nat → Prop} {width height : Nat} (factor : Nat)
    (h : p.IsBounded) (hwidth : 0 < width ∧ width ≤ p.width)
    (hheight : 0 < height ∧ height ≤ p.height) (hshape : shape width height) :
    Placed p shape (CaptureScalePlacement.mk width height (dword (2 ^ 32 + p.width - width) / 2)
      (dword (2 ^ 32 + p.height - height) / 2) factor).picture := by
  have hmargin : ∀ {size destination : Nat}, IsSide destination → 0 < size ∧ size ≤ destination →
      Centred ((dword (2 ^ 32 + destination - size) / 2 : Nat) : Int) size destination := by
    intro size destination hside hsize
    unfold IsSide at hside
    unfold Centred dword
    omega
  exact ⟨hmargin h.width hwidth, hmargin h.height hheight, hshape⟩

theorem one_if_zero (size : Nat) : (if size = 0 then 1 else size) = max 1 size := by
  split <;> omega

/-- The largest whole multiple of the frame, or else the frame's own ratio. -/
theorem captureScalePlace_placed (h : p.IsBounded) :
    Placed p (Shaped p (· = ·) (p.sourceWidth, p.sourceHeight))
      (captureScalePlace p.sourceWidth p.sourceHeight p.width p.height).picture := by
  have hfits := fun x => fitsAt_equal h x
  have hsource : ¬(p.sourceWidth = 0 ∨ p.sourceHeight = 0) :=
    not_or.mpr ⟨Nat.ne_of_gt h.sourceWidth.1, Nat.ne_of_gt h.sourceHeight.1⟩
  have hsmall : ∀ {size destination}, IsSide destination → size ≤ destination →
      dword size = size := fun hside hsize => dword_eq ((hsize.trans hside.2).trans_lt (by norm_num))
  rw [min_comm, min_def_lt] at hfits
  unfold captureScalePlace
  rw [if_neg hsource]
  dsimp only
  generalize (if p.height / p.sourceHeight < p.width / p.sourceWidth then
    p.height / p.sourceHeight else p.width / p.sourceWidth) = factor at hfits ⊢
  by_cases hfactor : factor ≠ 0
  · have hlargest := (hfits factor).mpr ⟨Nat.pos_of_ne_zero hfactor, le_rfl⟩
    have hwidth := Nat.mul_pos h.sourceWidth.1 hlargest.scaleX_pos
    have hheight := Nat.mul_pos h.sourceHeight.1 hlargest.scaleX_pos
    rw [if_pos hfactor]
    dsimp only
    rw [hsmall h.width hlargest.width, hsmall h.height hlargest.height,
      if_neg (Nat.ne_of_gt hwidth), if_neg (Nat.ne_of_gt hheight)]
    refine placed_of_sizes factor h ⟨hwidth, hlargest.width⟩ ⟨hheight, hlargest.height⟩
      (Or.inl ⟨factor, factor, hlargest, fun x y hother => ?_, rfl, rfl⟩)
    obtain rfl := hother.allowed
    exact ⟨((hfits x).mp hother).2, ((hfits x).mp hother).2⟩
  have hnone : ∀ x y, ¬FitsAt p (· = ·) x y := fun x y hother => by
    obtain rfl := hother.allowed
    have hle := (hfits x).mp hother
    omega
  have hposWidth := h.width.1
  have hposHeight := h.height.1
  rw [if_neg hfactor]
  split
  all_goals dsimp only
  · next hwide =>
    have hless := div_fits hposHeight (by linarith : p.width * p.sourceHeight ≤ p.height * p.sourceWidth)
    rw [mul_comm p.sourceHeight, hsmall h.height ((le_max_right 1 _).trans hless),
      if_neg (Nat.ne_of_gt hposWidth), one_if_zero]
    exact placed_of_sizes factor h ⟨hposWidth, le_rfl⟩ ⟨by simp, hless⟩
      (Or.inr ⟨hnone, Or.inl ⟨rfl, rfl⟩⟩)
  · next hwide =>
    have hless := div_fits hposWidth
      (by linarith : p.height * p.sourceWidth ≤ p.width * p.sourceHeight)
    rw [mul_comm p.sourceWidth, hsmall h.width ((le_max_right 1 _).trans hless),
      if_neg (Nat.ne_of_gt hposHeight), one_if_zero]
    exact placed_of_sizes factor h ⟨by simp, hless⟩ ⟨hposHeight, le_rfl⟩
      (Or.inr ⟨hnone, Or.inr ⟨rfl, rfl⟩⟩)

/-! ## The copy -/

/-- A placement inside an output picture. -/
structure CaptureScalePlacement.Inside (placement : CaptureScalePlacement)
    (outputWidth outputHeight : Nat) : Prop where
  width : 0 < placement.width
  height : 0 < placement.height
  right : placement.left + placement.width ≤ outputWidth
  bottom : placement.top + placement.height ≤ outputHeight

/-- The byte of the output picture at a place of a row from the top: of the nearest pixel below
inside the placement, and black outside. -/
def shown (source : Nat → Option UInt8) (sourceWidth sourceHeight sourceStride : Nat)
    (placement : CaptureScalePlacement) (row position : Nat) : Option UInt8 :=
  if placement.top ≤ row ∧ row < placement.top + placement.height ∧
      placement.left ≤ position / 3 ∧ position / 3 < placement.left + placement.width then
    source ((row - placement.top) * sourceHeight / placement.height * sourceStride +
      ((position / 3 - placement.left) * sourceWidth / placement.width * 3 + position % 3))
  else some 0

/-- Every byte of the frame's pixels may be read. -/
def HoldsFrame (source : Nat → Option UInt8) (sourceWidth sourceHeight sourceStride : Nat) : Prop :=
  ∀ row < sourceHeight, ∀ position < sourceWidth * 3,
    (source (row * sourceStride + position)).isSome

theorem nearest_lt {n size sourceSize : Nat} (h : n < size) (hpos : 0 < sourceSize) :
    n * sourceSize / size < sourceSize :=
  Nat.div_lt_of_lt_mul (Nat.mul_lt_mul_of_pos_right h hpos)

/-- An enlarged side shows every pixel of the source's. -/
theorem nearest_onto {m size sourceSize : Nat} (hlarger : sourceSize ≤ size)
    (hm : m < sourceSize) : ∃ n < size, n * sourceSize / size = m := by
  have hrounded := div_add_mod' (m * size + sourceSize - 1) sourceSize
  have hless := mod_lt (m * size + sourceSize - 1) (zero_lt_of_lt hm)
  have hnext : (m + 1) * size ≤ size * sourceSize := by
    rw [mul_comm size]
    exact Nat.mul_le_mul_right size hm
  generalize (m * size + sourceSize - 1) / sourceSize = n at hrounded
  rw [succ_mul] at hnext
  refine ⟨n, Nat.lt_of_mul_lt_mul_right (a := sourceSize) (by omega), ?_⟩
  refine Nat.div_eq_of_lt_le (by omega) ?_
  rw [succ_mul]
  omega

/-- The map from a side of the output to the source's side. -/
def NearestBelow (sourceSize size : Nat) : Prop :=
  Monotone (fun n => n * sourceSize / size) ∧ (∀ n < size, n * sourceSize / size < sourceSize) ∧
    (sourceSize ≤ size → ∀ m < sourceSize, ∃ n < size, n * sourceSize / size = m)

theorem nearestBelow (size : Nat) {sourceSize : Nat} (h : IsSide sourceSize) :
    NearestBelow sourceSize size :=
  ⟨fun _ _ hle => Nat.div_le_div_right (Nat.mul_le_mul_right _ hle),
    fun _ hn => nearest_lt hn h.1, fun hlarger _ => nearest_onto hlarger⟩

theorem captureScaleStride_eq {width : Nat} (h : width ≤ 32767) :
    captureScaleStride width = (width * 3 + 3) / 4 * 4 := by
  unfold captureScaleStride
  rw [dword_eq (by unfold captureScaleRgbBytes captureScaleRowAlign; omega)]
  rfl

section

variable {source : Nat → Option UInt8} {sourceStride stride : Nat}
  {placement : CaptureScalePlacement} (h : p.IsBounded)
  (hinside : placement.Inside p.width p.height)
  (hframe : HoldsFrame source p.sourceWidth p.sourceHeight sourceStride)
  (hstride : p.width * 3 ≤ stride)

variable (p source sourceStride stride placement) in
/-- The output picture, bottom-up. -/
def picture (offset : Nat) : UInt8 :=
  (shown source p.sourceWidth p.sourceHeight sourceStride placement
    (p.height - 1 - offset / stride) (offset % stride)).getD 0

theorem picture_black {row offset : Nat} (hrow : row < p.height)
    (hline : offset / stride = p.height - 1 - row)
    (hout : ¬(placement.top ≤ row ∧ row < placement.top + placement.height ∧
      placement.left ≤ offset % stride / 3 ∧
      offset % stride / 3 < placement.left + placement.width)) :
    0 = picture p source sourceStride stride placement offset := by
  have hback : p.height - 1 - (p.height - 1 - row) = row := by omega
  unfold picture shown
  rw [hline, hback, if_neg hout]
  rfl

include h hinside hframe hstride

theorem captureScaleColumn_fills {row column : Nat} (hrow : row < p.height)
    (hcolumn : column < placement.width)
    (hshown : placement.top ≤ row ∧ row < placement.top + placement.height) :
    Fills (fun _ => True) (fun offset => offset / stride = p.height - 1 - row ∧
        offset % stride / 3 = placement.left + column)
      (picture p source sourceStride stride placement)
      (captureScaleColumn source (p.height * stride) ((p.height - 1 - row) * stride)
        (dword ((row - placement.top) * p.sourceHeight / placement.height) * sourceStride)
        p.sourceWidth placement column) := by
  have hright := hinside.right
  have hwidth := h.width.2
  have hplace : ∀ channel < 3, (placement.left + column) * 3 + channel < stride := by omega
  have hsourceRow : (row - placement.top) * p.sourceHeight / placement.height < p.sourceHeight :=
    nearest_lt (by omega) h.sourceHeight.1
  have hsourceColumn : column * p.sourceWidth / placement.width < p.sourceWidth :=
    nearest_lt hcolumn h.sourceWidth.1
  unfold captureScaleColumn captureScaleRgbBytes
  rw [dword_eq (hsourceRow.trans (h.sourceHeight.2.trans_lt (by norm_num))),
    dword_eq (hsourceColumn.trans (h.sourceWidth.2.trans_lt (by norm_num))),
    dword_eq (by omega : placement.left + column < 2 ^ 32)]
  refine Fills.countUp (fun channel offset => offset =
      (p.height - 1 - row) * stride + ((placement.left + column) * 3 + channel))
    (fun channel hchannel => ?_) (fun m n hm _ offset hfirst hsecond => by omega) fun offset => ?_
  · obtain ⟨byte, hbyte⟩ := isSome_iff_exists.mp (hframe _ hsourceRow
      (column * p.sourceWidth / placement.width * 3 + channel) (by omega))
    have hat := line_position (p.height - 1 - row) (hplace channel hchannel)
    have hback : p.height - 1 - (p.height - 1 - row) = row := by omega
    simp only [add_assoc, hbyte, bind_eq_bind, bind_some]
    refine fills_store (line_position_lt (by omega) (hplace channel hchannel)) ?_
    unfold picture shown
    rw [hat.1, hat.2, hback, (line_position _ hchannel).1, (line_position _ hchannel).2,
      if_pos ⟨hshown.1, hshown.2, by omega, by omega⟩, Nat.add_sub_cancel_left, hbyte]
    rfl
  · rw [line_iff (by decide : 0 < 3)]
    constructor
    · rintro ⟨hline, channel, hchannel, hposition⟩
      exact ⟨channel, hchannel, (eq_line_position_iff (hplace channel hchannel)).mpr
        ⟨hline, hposition⟩⟩
    · rintro ⟨channel, hchannel, hoffset⟩
      have hat := (eq_line_position_iff (hplace channel hchannel)).mp hoffset
      exact ⟨hat.1, channel, hchannel, hat.2⟩

theorem captureScaleRow_fills {row : Nat} (hrow : row < p.height) :
    Fills (fun _ => True) (fun offset => offset / stride = p.height - 1 - row)
      (picture p source sourceStride stride placement)
      (captureScaleRow source (p.height * stride) stride p.sourceWidth p.sourceHeight sourceStride
        p.height placement row) := by
  have hbottom := hinside.bottom
  have hheight := h.height.2
  have hpos : 0 < stride := by
    have hwidth := h.width.1
    omega
  have hzero : Fills (fun _ => True) (fun offset => offset / stride = p.height - 1 - row)
      (fun _ => (0 : UInt8)) (countUp (fun column target => store (fun _ => True)
        (p.height * stride) target ((p.height - 1 - row) * stride + column) 0) stride) :=
    Fills.countUp _ (fun column hcolumn => fills_store (line_position_lt (by omega) hcolumn) rfl)
      (fun m n hm _ offset hfirst hsecond => by omega) fun offset => line_iff hpos
  unfold captureScaleRow
  rw [dword_eq (by omega : placement.top + placement.height < 2 ^ 32)]
  by_cases hshown : placement.top ≤ row ∧ row < placement.top + placement.height
  · simp only [if_neg (by omega :
      ¬(row < placement.top ∨ placement.top + placement.height ≤ row))]
    refine hzero.andThen _ (Fills.countUp _ (fun column hcolumn => captureScaleColumn_fills h hinside
      hframe hstride hrow hcolumn hshown) (fun m n hm _ offset hfirst hsecond => by omega)
      fun _ => Iff.rfl) (fun offset ⟨_, _, hinner⟩ => hinner.1)
      fun offset hline hout => picture_black hrow hline fun hinner => hout
        ⟨offset % stride / 3 - placement.left, by omega, hline, by omega⟩
  · simp only [if_pos (by omega : row < placement.top ∨ placement.top + placement.height ≤ row)]
    refine hzero.andThen (fun _ => False) (fun cells _ => ⟨cells, rfl, fun _ => False.elim,
      fun _ _ => rfl⟩) (fun _ => False.elim) fun offset hline _ => picture_black hrow hline ?_
    exact fun hinner => hshown ⟨hinner.1, hinner.2.1⟩

end

/-! ## Both layouts -/

/-- Both layouts place any source in any destination as they promise, and the copy at capture's
placement shows the frame there. -/
theorem picture_placement_keeps_shape (h : p.IsBounded) :
    (∀ aspect fit isScreen, if aspect = .stretch ∧ isScreen = true then
      presentLayout aspect fit isScreen p.width p.height p.sourceWidth p.sourceHeight =
        some ⟨0, 0, p.width, p.height⟩
    else Lays p (Shaped p (Wanted p aspect fit)
        (presentTargetRatio aspect p.sourceWidth p.sourceHeight))
      (presentLayout aspect fit isScreen p.width p.height p.sourceWidth p.sourceHeight)) ∧
    let placement := captureScalePlace p.sourceWidth p.sourceHeight p.width p.height
    let stride := captureScaleStride p.width
    Placed p (Shaped p (· = ·) (p.sourceWidth, p.sourceHeight)) placement.picture ∧
    NearestBelow p.sourceWidth placement.width ∧ NearestBelow p.sourceHeight placement.height ∧
    ∀ source sourceStride target, HoldsFrame source p.sourceWidth p.sourceHeight sourceStride →
      ∃ filled, captureScaleBlit source p.sourceWidth p.sourceHeight sourceStride target p.width
          p.height placement = some filled ∧
        (∀ row < p.height, ∀ position < stride,
          some (filled ((p.height - 1 - row) * stride + position)) =
            shown source p.sourceWidth p.sourceHeight sourceStride placement row position) ∧
        ∀ offset, p.height * stride ≤ offset → filled offset = target offset := by
  have hplaced := captureScalePlace_placed h
  refine ⟨fun aspect fit isScreen => ?_, hplaced, nearestBelow _ h.sourceWidth,
    nearestBelow _ h.sourceHeight, fun source sourceStride target hframe => ?_⟩
  · split
    · next hstretch =>
      unfold presentLayout
      simp only [atLeastOne_eq, max_eq_right h.width.1, max_eq_right h.height.1, if_pos hstretch]
      rfl
    · next hstretch => exact presentLayout_placed h aspect fit isScreen hstretch
  generalize captureScalePlace p.sourceWidth p.sourceHeight p.width p.height = placement at hplaced
  obtain ⟨⟨hwidth, -, hright, -⟩, ⟨hheight, -, hbottom, -⟩, -⟩ := hplaced
  have hinside : placement.Inside p.width p.height :=
    ⟨hwidth, hheight, Int.ofNat_le.mp hright, Int.ofNat_le.mp hbottom⟩
  have hstride : p.width * 3 ≤ captureScaleStride p.width := by
    rw [captureScaleStride_eq h.width.2]
    omega
  have hpos := Nat.lt_of_lt_of_le (Nat.mul_pos h.width.1 (by decide)) hstride
  unfold captureScaleBlit
  generalize captureScaleStride p.width = stride at hstride hpos
  have hfills : Fills (fun _ => True) (· < p.height * stride)
      (picture p source sourceStride stride placement)
      (countUp (captureScaleRow source (p.height * stride) stride p.sourceWidth p.sourceHeight
        sourceStride p.height placement) p.height) := by
    refine Fills.countUp (fun row offset => offset / stride = p.height - 1 - row)
      (fun row hrow => captureScaleRow_fills h hinside hframe hstride hrow)
      (fun m n hm hn offset hfirst hsecond => by omega) fun offset => ?_
    rw [← Nat.div_lt_iff_lt_mul hpos]
    generalize offset / stride = line
    exact ⟨fun hline => ⟨p.height - 1 - line, by omega, by omega⟩, fun ⟨_, _, _⟩ => by omega⟩
  obtain ⟨filled, hfilled, hshown, hrest⟩ := hfills target fun _ _ => trivial
  refine ⟨filled, hfilled, fun row hrow position hposition => ?_,
    fun offset hoffset => hrest offset (Nat.not_lt.mpr hoffset)⟩
  have hback : p.height - 1 - (p.height - 1 - row) = row := by omega
  have hat := line_position (p.height - 1 - row) hposition
  rw [hshown _ (line_position_lt (by omega) hposition), picture, hat.1, hat.2, hback]
  refine getD_of_ne_none (isSome_iff_ne_none.mp ?_) 0
  unfold shown
  split
  · next hin =>
    refine hframe _ (nearest_lt (by omega) h.sourceHeight.1) _ ?_
    have hcolumn := @nearest_lt (position / 3 - placement.left) placement.width _ (by omega)
      h.sourceWidth.1
    omega
  · rfl

theorem picture_placement_twoByTwo :
    ∃ filled, captureScaleBlit (fun offset => some (UInt8.ofNat offset)) 2 2 6 (fun _ => 0xFF) 6 4
      (captureScalePlace 2 2 6 4) = some filled ∧ filled 0 = 0 ∧ filled 3 = 6 := by
  obtain ⟨filled, hfilled, hshown, -⟩ := (@picture_placement_keeps_shape ⟨6, 4, 2, 2⟩
    ⟨by decide, by decide, by decide, by decide⟩).2.2.2.2 (fun offset => some (UInt8.ofNat offset))
      6 (fun _ => 0xFF) fun _ _ _ _ => rfl
  exact ⟨filled, hfilled, Option.some.inj (hshown 3 (by decide) 0 (by decide)),
    Option.some.inj (hshown 3 (by decide) 3 (by decide))⟩

end Ntvdmex.Host.CaptureScale
