import Ntvdmex.Vdd.PresentScale

/-!
# Where a picture is laid out
-/

namespace Ntvdmex.Vdd.PresentScale

open Option Nat Or

/-- A source to be placed in a destination of this width and height. -/
structure Placing where
  width : Nat
  height : Nat
  sourceWidth : Nat
  sourceHeight : Nat

def IsSide (size : Nat) : Prop := 1 ≤ size ∧ size ≤ 32767
deriving Decidable

structure Placing.IsBounded (p : Placing) : Prop where
  width : IsSide p.width
  height : IsSide p.height
  sourceWidth : IsSide p.sourceWidth
  sourceHeight : IsSide p.sourceHeight

/-- Not empty, inside the destination and centred in it to within one pixel. -/
def Centred (left : Int) (size destination : Nat) : Prop :=
  0 < size ∧ 0 ≤ left ∧ left + size ≤ destination ∧
    2 * left + size ≤ destination ∧ destination ≤ 2 * left + size + 1

/-- One side is the destination's, the other the largest from 1 on within the exact ratio. -/
def FillsRatio (p : Placing) (ratio : Nat × Nat) (width height : Nat) : Prop :=
  width = p.width ∧ height = max 1 (p.width * ratio.2 / ratio.1) ∨
    height = p.height ∧ width = max 1 (p.height * ratio.1 / ratio.2)

/-- The source at an allowed pair of whole scales lies in the destination. -/
structure FitsAt (p : Placing) (allowed : Nat → Nat → Prop) (scaleX scaleY : Nat) : Prop where
  allowed : allowed scaleX scaleY
  scaleX_pos : 0 < scaleX
  scaleY_pos : 0 < scaleY
  width : p.sourceWidth * scaleX ≤ p.width
  height : p.sourceHeight * scaleY ≤ p.height

/-- The largest allowed pair of whole scales that fits, or else the ratio. -/
def Shaped (p : Placing) (allowed : Nat → Nat → Prop) (ratio : Nat × Nat) (width height : Nat) :
    Prop :=
  (∃ x y, FitsAt p allowed x y ∧ (∀ x' y', FitsAt p allowed x' y' → x' ≤ x ∧ y' ≤ y) ∧
    width = p.sourceWidth * x ∧ height = p.sourceHeight * y) ∨
  (∀ x y, ¬FitsAt p allowed x y) ∧ FillsRatio p ratio width height

/-- A picture in the middle of the destination, of this shape. -/
def Placed (p : Placing) (shape : Nat → Nat → Prop) (picture : PresentPicture) : Prop :=
  Centred picture.left picture.width p.width ∧ Centred picture.top picture.height p.height ∧
    shape picture.width picture.height

/-- The arithmetic ends, with such a picture. -/
def Lays (p : Placing) (shape : Nat → Nat → Prop) (outcome : Option PresentPicture) : Prop :=
  ∃ picture, outcome = some picture ∧ Placed p shape picture

variable {p : Placing} {allowed shape : Nat → Nat → Prop} {ratio : Nat × Nat} {width height : Nat}

theorem long_eq {n : Nat} (h : n < 2 ^ 31) : long n = some n := if_pos h

theorem atLeastOne_eq (size : Nat) : atLeastOne size = max 1 size := by
  unfold atLeastOne
  split <;> omega

theorem centred_half {size destination : Nat} (h : 0 < size ∧ size ≤ destination) :
    Centred (((destination : Int) - size).tdiv 2) size destination := by
  unfold Centred
  rw [Int.tdiv_eq_ediv_of_nonneg (by omega)]
  omega

theorem presentCentre_placed (hwidth : 0 < width ∧ width ≤ p.width)
    (hheight : 0 < height ∧ height ≤ p.height) (hshape : shape width height) :
    Placed p shape (presentCentre p.width p.height width height) :=
  ⟨centred_half hwidth, centred_half hheight, hshape⟩

/-- The largest pair fits. -/
theorem presentCentre_scaled {x y : Nat} (h : p.IsBounded) (hfits : FitsAt p allowed x y)
    (hlargest : ∀ x' y', FitsAt p allowed x' y' → x' ≤ x ∧ y' ≤ y) :
    Placed p (Shaped p allowed ratio)
      (presentCentre p.width p.height (p.sourceWidth * x) (p.sourceHeight * y)) :=
  presentCentre_placed ⟨Nat.mul_pos h.sourceWidth.1 hfits.scaleX_pos, hfits.width⟩
    ⟨Nat.mul_pos h.sourceHeight.1 hfits.scaleY_pos, hfits.height⟩
    (inl ⟨x, y, hfits, hlargest, rfl, rfl⟩)

/-- The side that the ratio leaves for the other one. -/
theorem div_fits {side first second destination : Nat} (hpos : 0 < destination)
    (h : side * first ≤ destination * second) : max 1 (side * first / second) ≤ destination :=
  max_le hpos (Nat.div_le_of_le_mul (by rwa [mul_comm second]))

theorem mul_lt_of_sides {m n : Nat} (hm : m ≤ 32767) (hn : n ≤ 32767) : m * n < 2 ^ 31 :=
  (Nat.mul_le_mul hm hn).trans_lt (by norm_num)

theorem presentFitRatio_placed (h : p.IsBounded) (hratio : IsSide ratio.1 ∧ IsSide ratio.2) :
    Lays p (FillsRatio p ratio) (presentFitRatio p.width p.height ratio.1 ratio.2) := by
  have hpos : ¬(ratio.1 < 1 ∨ ratio.2 < 1) :=
    not_or.mpr ⟨Nat.not_lt.mpr hratio.1.1, Nat.not_lt.mpr hratio.2.1⟩
  unfold presentFitRatio
  simp only [atLeastOne_eq, max_eq_right h.width.1, max_eq_right h.height.1, if_neg hpos,
    long_eq (mul_lt_of_sides h.width.2 hratio.2.2), long_eq (mul_lt_of_sides h.height.2 hratio.1.2),
    bind_eq_bind, bind_some]
  by_cases htall : p.height < p.width * ratio.2 / ratio.1
  · have hless := (Nat.le_div_iff_mul_le hratio.1.1).mp htall.le
    rw [if_pos htall]
    exact ⟨_, rfl, presentCentre_placed ⟨by simp, div_fits h.width.1 hless⟩
      ⟨h.height.1, le_rfl⟩ (inr ⟨rfl, rfl⟩)⟩
  · rw [if_neg htall]
    exact ⟨_, rfl, presentCentre_placed ⟨h.width.1, le_rfl⟩
      ⟨by simp, max_le h.height.1 (Nat.not_lt.mp htall)⟩ (inl ⟨rfl, rfl⟩)⟩

/-! ## The search over whole scales -/

/-- A pair of scales of exactly this ratio. -/
def HasRatio (p : Placing) (ratio : Nat × Nat) (x y : Nat) : Prop :=
  p.sourceWidth * x * ratio.2 = p.sourceHeight * y * ratio.1

/-- The best pair of those before a scale. -/
structure IsBest (p : Placing) (ratio : Nat × Nat) (next : Nat) (best : PresentBest) : Prop where
  largest : ∀ x y, FitsAt p (HasRatio p ratio) x y → x < next → x ≤ best.scaleX
  area : best.area = p.sourceWidth * best.scaleX * p.sourceHeight * best.scaleY
  fits : best.scaleX = 0 ∨ best.scaleX < next ∧ FitsAt p (HasRatio p ratio) best.scaleX best.scaleY

section

variable {x y scaleX scaleY : Nat} {best : PresentBest} (h : p.IsBounded)
  (hratio : (1 ≤ ratio.1 ∧ ratio.1 ≤ 16) ∧ 1 ≤ ratio.2 ∧ ratio.2 ≤ 16)

theorem IsBest.skip (hbest : IsBest p ratio scaleX best)
    (hnone : ∀ y, ¬FitsAt p (HasRatio p ratio) scaleX y) : IsBest p ratio (scaleX + 1) best := by
  refine ⟨fun x y hfits hx => hbest.largest x y hfits ?_, hbest.area, hbest.fits.imp_right ?_⟩
  · have hne : x ≠ scaleX := fun heq => hnone y (heq ▸ hfits)
    omega
  · exact fun hbefore => ⟨lt_succ_of_lt hbefore.1, hbefore.2⟩

include h hratio

/-- The other scale of a pair is the quotient of the search. -/
theorem hasRatio_iff :
    HasRatio p ratio x y ↔ p.sourceWidth * x * ratio.2 % (p.sourceHeight * ratio.1) = 0 ∧
      y = p.sourceWidth * x * ratio.2 / (p.sourceHeight * ratio.1) := by
  have hpos : 0 < p.sourceHeight * ratio.1 := Nat.mul_pos h.sourceHeight.1 hratio.1.1
  unfold HasRatio
  rw [mul_right_comm p.sourceHeight]
  constructor
  · intro heq
    rw [heq, mul_mod_right, Nat.mul_div_cancel_left _ hpos]
    exact ⟨rfl, rfl⟩
  · rintro ⟨hmod, rfl⟩
    exact (Nat.mul_div_cancel' (dvd_of_mod_eq_zero hmod)).symm

/-- Of two pairs of one ratio the wider one is the higher one. -/
theorem HasRatio.scaleY_le (hpair : HasRatio p ratio x y) (hother : HasRatio p ratio scaleX scaleY)
    (hle : x ≤ scaleX) : y ≤ scaleY := by
  rw [((hasRatio_iff h hratio).mp hpair).2, ((hasRatio_iff h hratio).mp hother).2]
  exact Nat.div_le_div_right (Nat.mul_le_mul_right _ (Nat.mul_le_mul_left _ hle))

theorem IsBest.take (hbest : IsBest p ratio scaleX best)
    (hfits : FitsAt p (HasRatio p ratio) scaleX scaleY) :
    best.area < p.sourceWidth * scaleX * p.sourceHeight * scaleY ∧
      IsBest p ratio (scaleX + 1)
        ⟨p.sourceWidth * scaleX * p.sourceHeight * scaleY, scaleX, scaleY⟩ := by
  refine ⟨?_, fun x y _ hx => le_of_lt_succ hx, rfl, inr ⟨scaleX.lt_succ_self, hfits⟩⟩
  have hwidth := h.sourceWidth.1
  have hheight := h.sourceHeight.1
  rw [hbest.area]
  rcases hbest.fits with hzero | ⟨hless, hbefore⟩
  · rw [hzero, mul_zero, zero_mul, zero_mul]
    exact Nat.mul_pos (Nat.mul_pos (Nat.mul_pos hwidth hfits.scaleX_pos) hheight) hfits.scaleY_pos
  · have hscaleY := hbefore.allowed.scaleY_le h hratio hfits.allowed hless.le
    exact Nat.mul_lt_mul_of_lt_of_le (Nat.mul_lt_mul_of_pos_right
      (Nat.mul_lt_mul_of_pos_left hless hwidth) hheight) hscaleY hfits.scaleY_pos

theorem presentTryScale_best (hpos : 0 < scaleX) (hwidth : p.sourceWidth * scaleX ≤ p.width)
    (hbest : IsBest p ratio scaleX best) :
    ∃ next, presentTryScale p.height p.sourceWidth p.sourceHeight ratio.1 ratio.2 scaleX best =
        some next ∧ IsBest p ratio (scaleX + 1) next := by
  have hside := hwidth.trans h.width.2
  have hnumerator : p.sourceWidth * scaleX * ratio.2 ≤ 32767 * 16 :=
    Nat.mul_le_mul hside hratio.2.2
  have hdenominator : p.sourceHeight * ratio.1 < 2 ^ 31 :=
    mul_lt_of_sides h.sourceHeight.2 (hratio.1.2.trans (by norm_num))
  have hunique := fun y => hasRatio_iff h hratio (x := scaleX) (y := y)
  generalize hquotient :
    p.sourceWidth * scaleX * ratio.2 / (p.sourceHeight * ratio.1) = scaleY at hunique
  have hproduct : p.sourceHeight * scaleY ≤ p.sourceWidth * scaleX * ratio.2 := by
    rw [← hquotient]
    exact (Nat.mul_le_mul_right _ (Nat.le_mul_of_pos_right _ hratio.1.1)).trans
      (mul_div_le _ _)
  unfold presentTryScale
  rw [long_eq (hside.trans_lt (by norm_num)), bind_eq_bind, bind_some,
    long_eq (hnumerator.trans_lt (by norm_num)), bind_some, long_eq hdenominator, bind_some]
  dsimp only
  rw [hquotient]
  by_cases hmod : p.sourceWidth * scaleX * ratio.2 % (p.sourceHeight * ratio.1) = 0
  · rw [if_neg (not_not.mpr hmod), long_eq ((hproduct.trans hnumerator).trans_lt (by norm_num)),
      bind_some]
    by_cases hout : p.height < p.sourceHeight * scaleY ∨ scaleY < 1
    · rw [if_pos hout]
      refine ⟨best, rfl, hbest.skip fun y hfits => ?_⟩
      obtain rfl := ((hunique y).mp hfits.allowed).2
      have := hfits.scaleY_pos
      have := hfits.height
      omega
    · have hfits : FitsAt p (HasRatio p ratio) scaleX scaleY :=
        ⟨(hunique scaleY).mpr ⟨hmod, rfl⟩, hpos, by omega, hwidth, by omega⟩
      have harea : p.sourceWidth * scaleX * p.sourceHeight * scaleY < 2 ^ 31 := by
        rw [mul_assoc (p.sourceWidth * scaleX)]
        exact mul_lt_of_sides hside (hfits.height.trans h.height.2)
      have htake := hbest.take h hratio hfits
      rw [if_neg hout, long_eq (mul_lt_of_sides hside h.sourceHeight.2), bind_some,
        long_eq harea, bind_some, if_pos htake.1]
      exact ⟨_, rfl, htake.2⟩
  · rw [if_pos hmod]
    exact ⟨best, rfl, hbest.skip fun y hfits => hmod ((hunique y).mp hfits.allowed).1⟩

theorem presentWholeScales_best (turns : Nat) (hpos : 0 < scaleX)
    (hturns : p.width < scaleX + turns) (hbefore : scaleX ≤ p.width + 1)
    (hbest : IsBest p ratio scaleX best) :
    ∃ next last, presentWholeScales p.width p.height p.sourceWidth p.sourceHeight ratio.1 ratio.2
        (turns + 1) scaleX best = some last ∧
      p.width < p.sourceWidth * next ∧ IsBest p ratio next last := by
  have hlong : ∀ n ≤ p.width + 1, long (p.sourceWidth * n) = some (p.sourceWidth * n) :=
    fun n hn => long_eq ((Nat.mul_le_mul h.sourceWidth.2
      (hn.trans (succ_le_succ h.width.2))).trans_lt (by norm_num))
  have hless : ∀ n, n ≤ p.sourceWidth * n := fun n => Nat.le_mul_of_pos_left n h.sourceWidth.1
  induction turns generalizing scaleX best with
  | zero =>
    have hpast : p.width < p.sourceWidth * scaleX := Nat.lt_of_lt_of_le hturns (hless scaleX)
    unfold presentWholeScales
    rw [hlong scaleX hbefore, bind_eq_bind, bind_some, if_pos hpast]
    exact ⟨scaleX, best, rfl, hpast, hbest⟩
  | succ turns ih =>
    unfold presentWholeScales
    rw [hlong scaleX hbefore, bind_eq_bind, bind_some]
    by_cases hpast : p.width < p.sourceWidth * scaleX
    · rw [if_pos hpast]
      exact ⟨scaleX, best, rfl, hpast, hbest⟩
    · have hwidth := Nat.not_lt.mp hpast
      obtain ⟨next, hnext, hkept⟩ := presentTryScale_best h hratio hpos hwidth hbest
      rw [if_neg hpast, hnext]
      exact ih scaleX.succ_pos (by omega) (succ_le_succ ((hless scaleX).trans hwidth)) hkept

end

/-! ## The layout -/

/-- The pairs of whole scales an aspect takes, where whole multiples are wanted. -/
def Wanted (p : Placing) (aspect : PresentAspect) (fit : PresentFitting) (x y : Nat) : Prop :=
  fit = .whole ∧
    if presentIsNative aspect then x = y else HasRatio p (presentAspectRatio aspect) x y

/-- The largest common scale of both sides. -/
theorem fitsAt_equal (h : p.IsBounded) (x : Nat) :
    FitsAt p (· = ·) x x ↔ 0 < x ∧ x ≤ min (p.width / p.sourceWidth) (p.height / p.sourceHeight) := by
  rw [le_min_iff, Nat.le_div_iff_mul_le h.sourceWidth.1, Nat.le_div_iff_mul_le h.sourceHeight.1,
    mul_comm x, mul_comm x]
  exact ⟨fun hfits => ⟨hfits.scaleX_pos, hfits.width, hfits.height⟩,
    fun hle => ⟨rfl, hle.1, hle.1, hle.2.1, hle.2.2⟩⟩

theorem presentTargetRatio_eq (h : p.IsBounded) (aspect : PresentAspect) :
    presentTargetRatio aspect p.sourceWidth p.sourceHeight =
      if presentIsNative aspect then (p.sourceWidth, p.sourceHeight)
      else presentAspectRatio aspect := by
  have hwidth := h.sourceWidth.1
  have hheight := h.sourceHeight.1
  cases aspect <;> simp [presentTargetRatio, presentAspectRatio, presentIsNative]
  all_goals omega

theorem presentAspectRatio_le {aspect : PresentAspect} (h : ¬presentIsNative aspect) :
    (1 ≤ (presentAspectRatio aspect).1 ∧ (presentAspectRatio aspect).1 ≤ 16) ∧
      1 ≤ (presentAspectRatio aspect).2 ∧ (presentAspectRatio aspect).2 ≤ 16 := by
  revert h
  cases aspect <;> decide

theorem isSide_targetRatio (h : p.IsBounded) (aspect : PresentAspect) :
    IsSide (presentTargetRatio aspect p.sourceWidth p.sourceHeight).1 ∧
      IsSide (presentTargetRatio aspect p.sourceWidth p.sourceHeight).2 := by
  rw [presentTargetRatio_eq h]
  split
  · exact ⟨h.sourceWidth, h.sourceHeight⟩
  next hnative =>
    have hle := presentAspectRatio_le hnative
    exact ⟨⟨hle.1.1, by omega⟩, hle.2.1, by omega⟩

theorem presentLayout_placed (h : p.IsBounded) (aspect : PresentAspect) (fit : PresentFitting)
    (isScreen : Bool) (hstretch : ¬(aspect = .stretch ∧ isScreen)) :
    Lays p (Shaped p (Wanted p aspect fit)
        (presentTargetRatio aspect p.sourceWidth p.sourceHeight))
      (presentLayout aspect fit isScreen p.width p.height p.sourceWidth p.sourceHeight) := by
  have hratio := presentTargetRatio_eq h aspect
  have hfill := presentFitRatio_placed h (isSide_targetRatio h aspect)
  unfold presentLayout
  simp only [atLeastOne_eq, max_eq_right h.width.1, max_eq_right h.height.1, if_neg hstretch]
  generalize presentTargetRatio aspect p.sourceWidth p.sourceHeight = ratio at hratio hfill ⊢
  have hfallback : (∀ x y, ¬FitsAt p (Wanted p aspect fit) x y) →
      Lays p (Shaped p (Wanted p aspect fit) ratio)
        (presentFitRatio p.width p.height ratio.1 ratio.2) := by
    obtain ⟨picture, hpicture, hleft, htop, hshape⟩ := hfill
    exact fun hnone => ⟨picture, hpicture, hleft, htop, inr ⟨hnone, hshape⟩⟩
  by_cases hfit : fit = .whole
  · subst hfit
    rw [if_pos ⟨h.sourceWidth.1, h.sourceHeight.1, rfl⟩]
    by_cases hnative : presentIsNative aspect
    · have hwanted : Wanted p aspect .whole = (· = ·) := by
        funext x y
        simp [Wanted, hnative]
      have hfits := fun x => fitsAt_equal h x
      rw [min_def_lt] at hfits
      rw [if_pos hnative, hwanted]
      rw [hwanted] at hfallback
      generalize (if p.width / p.sourceWidth < p.height / p.sourceHeight then
        p.width / p.sourceWidth else p.height / p.sourceHeight) = scale at hfits ⊢
      by_cases hscale : 1 ≤ scale
      · have hlargest := (hfits scale).mpr ⟨hscale, le_rfl⟩
        rw [if_pos hscale, long_eq (hlargest.width.trans_lt (h.width.2.trans_lt (by norm_num))),
          long_eq (hlargest.height.trans_lt (h.height.2.trans_lt (by norm_num)))]
        refine ⟨_, rfl, presentCentre_scaled h hlargest fun x y hother => ?_⟩
        obtain rfl := hother.allowed
        exact ⟨((hfits x).mp hother).2, ((hfits x).mp hother).2⟩
      · rw [if_neg hscale]
        refine hfallback fun x y hother => ?_
        obtain rfl := hother.allowed
        have hle := (hfits x).mp hother
        omega
    · have hwanted : Wanted p aspect .whole = HasRatio p ratio := by
        funext x y
        simp [Wanted, hnative, hratio]
      rw [if_neg hnative] at hratio
      have hsmall := hratio ▸ presentAspectRatio_le hnative
      rw [hwanted] at hfallback
      rw [if_neg hnative, hwanted]
      have hstart : IsBest p ratio 1 {} :=
        ⟨fun x _ hfits hx => by have := hfits.scaleX_pos; omega, by simp, inl rfl⟩
      obtain ⟨next, best, hbest, hpast, hlast⟩ := presentWholeScales_best h hsmall p.width
        Nat.one_pos (by omega) (by omega) hstart
      have hall : ∀ x y, FitsAt p (HasRatio p ratio) x y → x ≤ best.scaleX := fun x y hfits =>
        hlast.largest x y hfits (Nat.lt_of_mul_lt_mul_left (hfits.width.trans_lt hpast))
      rw [hbest]
      show Lays _ _ (ite _ _ _)
      rcases hlast.fits with hzero | ⟨-, hfits⟩
      · rw [if_neg (not_not.mpr (by rw [hlast.area, hzero, mul_zero, zero_mul, zero_mul]))]
        refine hfallback fun x y hfits => ?_
        have := hall x y hfits
        have := hfits.scaleX_pos
        omega
      · have harea : best.area ≠ 0 := by
          rw [hlast.area]
          have := h.sourceWidth.1
          have := h.sourceHeight.1
          have := hfits.scaleX_pos
          have := hfits.scaleY_pos
          positivity
        rw [if_pos harea, long_eq (hfits.width.trans_lt (h.width.2.trans_lt (by norm_num))),
          long_eq (hfits.height.trans_lt (h.height.2.trans_lt (by norm_num)))]
        exact ⟨_, rfl, presentCentre_scaled h hfits fun x y hother => ⟨hall x y hother,
          hother.allowed.scaleY_le h hsmall hfits.allowed (hall x y hother)⟩⟩
  · rw [if_neg fun hall => hfit hall.2.2]
    exact hfallback fun x y hfits => hfit hfits.allowed.1

end Ntvdmex.Vdd.PresentScale
