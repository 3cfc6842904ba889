/-
# Media.Watermark -- where a watermark goes

`plan_watermark` scales a watermark down to what a preset allows and anchors it.  All numbers
are unsigned and of fixed width: `planWatermark` keeps every unchecked difference and product
of the source as a step that could panic.

`planWatermark_placed`: none of them does, and a placement that is returned lies inside the
image with the margin on every side, is no larger than the watermark or the preset allows, and
keeps the proportion to within a pixel.  `planWatermark_drawable` and `planWatermark_refused` say
which requests are placed and which are refused.
-/
import MediaBooster.Media.Format
import MediaBooster.Store.Schema
import Mathlib.Algebra.Order.Field.Rat
import Mathlib.Tactic.FieldSimp
import Mathlib.Tactic.Linarith
import Mathlib.Tactic.Positivity

namespace MediaBooster.Media

set_option autoImplicit false

open MediaBooster.Domain
open MediaBooster.Store (WatermarkPosition)

/-! ## The plan -/

/-- `WatermarkSpec`, without the path of the asset. -/
structure WatermarkSpec where
  position : WatermarkPosition
  marginPx : UInt32
  maxWidthPercent : UInt8
  opacityPercent : UInt8

/-- `WatermarkPlacement`. -/
@[ext] structure WatermarkPlacement where
  x : Nat
  y : Nat
  width : Nat
  height : Nat
deriving DecidableEq

/-- The sizes of an image and of the watermark that goes on it. -/
structure Sizes where
  baseWidth : UInt32
  baseHeight : UInt32
  watermarkWidth : UInt32
  watermarkHeight : UInt32

/-- `u32::checked_mul`. -/
def u32CheckedMul (a b : Nat) : Option Nat := if a * b < 2 ^ 32 then some (a * b) else none

/-- `checked_sub`, without the value zero. -/
def positiveDifference (a b : Nat) : Option Nat := if b < a then some (a - b) else none

/-- A refusal with its message. -/
def orRefuse {α : Type} (message : String) : Option α → Except Stop α :=
  orFail (.invalidRequest message)

/-- The first check of `plan_watermark`. -/
def validWatermark (sizes : Sizes) (spec : WatermarkSpec) : Bool :=
  sizes.baseWidth != 0 && sizes.baseHeight != 0 && sizes.watermarkWidth != 0 &&
    sizes.watermarkHeight != 0 &&
    decide (1 ≤ spec.maxWidthPercent ∧ spec.maxWidthPercent ≤ 50) &&
    decide (1 ≤ spec.opacityPercent ∧ spec.opacityPercent ≤ 100) &&
    decide (spec.marginPx ≤ 1024)

/-- The corner of a placement, by its anchor. -/
def anchored (baseWidth baseHeight margin width height right bottom : Nat) :
    WatermarkPosition → Except Stop (Nat × Nat)
  | .center => do
      let horizontal ← minus baseWidth width
      let vertical ← minus baseHeight height
      return (horizontal / 2, vertical / 2)
  | .topLeft => return (margin, margin)
  | .topRight => return (right, margin)
  | .bottomLeft => return (margin, bottom)
  | .bottomRight => return (right, bottom)

/-- `plan_watermark`. -/
def planWatermark (sizes : Sizes) (spec : WatermarkSpec) : Except Stop WatermarkPlacement := do
  let baseWidth := sizes.baseWidth.toNat
  let baseHeight := sizes.baseHeight.toNat
  let watermarkWidth := sizes.watermarkWidth.toNat
  let watermarkHeight := sizes.watermarkHeight.toNat
  let margin := spec.marginPx.toNat
  orRefuse "watermark dimensions or preset limits are invalid"
    (if validWatermark sizes spec then some () else none)
  let doubledMargin ← orRefuse "watermark margin overflow" (u32CheckedMul margin 2)
  let availableWidth ← orRefuse "watermark margin leaves no drawable area"
    (positiveDifference baseWidth doubledMargin)
  let availableHeight ← orRefuse "watermark margin leaves no drawable area"
    (positiveDifference baseHeight doubledMargin)
  let percentProduct ← times baseWidth spec.maxWidthPercent.toNat
  let percentCap := max (percentProduct / 100) 1
  let heightProduct ← times watermarkWidth availableHeight
  let heightCap ← quotient heightProduct watermarkHeight
  let smallest := min (min (min watermarkWidth availableWidth) percentCap) heightCap
  let width ← orRefuse "watermark cannot fit the derivative"
    (if 0 < smallest then u32TryFrom smallest else none)
  let widthProduct ← times watermarkHeight width
  let scaledHeight ← quotient widthProduct watermarkWidth
  let height ← orRefuse "watermark height overflow" (u32TryFrom (max scaledHeight 1 : Nat))
  orRefuse "watermark cannot fit the derivative"
    (if availableHeight < height then none else some ())
  let besideWidth ← minus baseWidth width
  let right ← minus besideWidth margin
  let belowHeight ← minus baseHeight height
  let bottom ← minus belowHeight margin
  let (x, y) ← anchored baseWidth baseHeight margin width height right bottom spec.position
  return { x, y, width, height }

/-! ## What a request leads to -/

section Plan

variable (sizes : Sizes) (spec : WatermarkSpec)

/-- The width the code chooses. -/
def plannedWidth : Nat :=
  min (min (min sizes.watermarkWidth.toNat (sizes.baseWidth.toNat - spec.marginPx.toNat * 2))
    (max (sizes.baseWidth.toNat * spec.maxWidthPercent.toNat / 100) 1))
    (sizes.watermarkWidth.toNat * (sizes.baseHeight.toNat - spec.marginPx.toNat * 2) /
      sizes.watermarkHeight.toNat)

/-- The height that goes with it. -/
def plannedHeight : Nat :=
  max (sizes.watermarkHeight.toNat * plannedWidth sizes spec / sizes.watermarkWidth.toNat) 1

/-- The corner that goes with both. -/
def plannedCorner : Nat × Nat :=
  let right := sizes.baseWidth.toNat - plannedWidth sizes spec - spec.marginPx.toNat
  let bottom := sizes.baseHeight.toNat - plannedHeight sizes spec - spec.marginPx.toNat
  match spec.position with
  | .center => ((sizes.baseWidth.toNat - plannedWidth sizes spec) / 2,
      (sizes.baseHeight.toNat - plannedHeight sizes spec) / 2)
  | .topLeft => (spec.marginPx.toNat, spec.marginPx.toNat)
  | .topRight => (right, spec.marginPx.toNat)
  | .bottomLeft => (spec.marginPx.toNat, bottom)
  | .bottomRight => (right, bottom)

/-- The requests that are not refused. -/
structure Drawable : Prop where
  valid : validWatermark sizes spec
  room : spec.marginPx.toNat * 2 < sizes.baseWidth.toNat
  roomBelow : spec.marginPx.toNat * 2 < sizes.baseHeight.toNat
  /-- A watermark of the available height is a pixel wide at least. -/
  wide : sizes.watermarkHeight.toNat ≤
    sizes.watermarkWidth.toNat * (sizes.baseHeight.toNat - spec.marginPx.toNat * 2)

end Plan

section Valid

variable {sizes : Sizes} {spec : WatermarkSpec}

/-- The limits of a valid preset, as numbers. -/
theorem valid_bounds (valid : validWatermark sizes spec = true) :
    0 < sizes.baseWidth.toNat ∧ 0 < sizes.baseHeight.toNat ∧ 0 < sizes.watermarkWidth.toNat ∧
      0 < sizes.watermarkHeight.toNat ∧ spec.marginPx.toNat ≤ 1024 := by
  simp only [validWatermark, Bool.and_eq_true, bne_iff_ne, decide_eq_true_eq] at valid
  obtain ⟨⟨⟨⟨⟨⟨baseWidth, baseHeight⟩, watermarkWidth⟩, watermarkHeight⟩, -⟩, -⟩, margin⟩ := valid
  have positive : ∀ n : UInt32, n ≠ 0 → 0 < n.toNat := by
    intro n nonzero
    refine Nat.pos_of_ne_zero fun zero => nonzero ?_
    exact UInt32.toNat_inj.1 zero
  exact ⟨positive _ baseWidth, positive _ baseHeight, positive _ watermarkWidth,
    positive _ watermarkHeight, UInt32.le_iff_toNat_le.1 margin⟩

theorem plannedWidth_pos (drawable : Drawable sizes spec) : 0 < plannedWidth sizes spec := by
  obtain ⟨-, -, watermarkWidth, watermarkHeight, -⟩ := valid_bounds drawable.valid
  have room := drawable.room
  have tall : 1 ≤ sizes.watermarkWidth.toNat *
      (sizes.baseHeight.toNat - spec.marginPx.toNat * 2) / sizes.watermarkHeight.toNat := by
    rw [Nat.le_div_iff_mul_le watermarkHeight, Nat.one_mul]
    exact drawable.wide
  unfold plannedWidth
  omega

/-- The caps of the width. -/
theorem plannedWidth_le :
    plannedWidth sizes spec ≤ sizes.watermarkWidth.toNat ∧
      plannedWidth sizes spec ≤ sizes.baseWidth.toNat - spec.marginPx.toNat * 2 ∧
      plannedWidth sizes spec ≤ max (sizes.baseWidth.toNat * spec.maxWidthPercent.toNat / 100) 1 ∧
      plannedWidth sizes spec ≤ sizes.watermarkWidth.toNat *
        (sizes.baseHeight.toNat - spec.marginPx.toNat * 2) / sizes.watermarkHeight.toNat := by
  unfold plannedWidth
  omega

/-- The height stays below the available one: the width was capped for that. -/
theorem plannedHeight_le (drawable : Drawable sizes spec) :
    plannedHeight sizes spec ≤ sizes.baseHeight.toNat - spec.marginPx.toNat * 2 ∧
      plannedHeight sizes spec ≤ sizes.watermarkHeight.toNat := by
  obtain ⟨-, -, watermarkWidth, watermarkHeight, -⟩ := valid_bounds drawable.valid
  obtain ⟨narrow, -, -, low⟩ := @plannedWidth_le sizes spec
  have room := drawable.roomBelow
  have available : sizes.watermarkHeight.toNat * plannedWidth sizes spec /
      sizes.watermarkWidth.toNat ≤ sizes.baseHeight.toNat - spec.marginPx.toNat * 2 := by
    refine Nat.div_le_of_le_mul ?_
    rw [Nat.le_div_iff_mul_le watermarkHeight] at low
    rw [Nat.mul_comm]
    exact low
  have own : sizes.watermarkHeight.toNat * plannedWidth sizes spec / sizes.watermarkWidth.toNat ≤
      sizes.watermarkHeight.toNat := by
    refine Nat.div_le_of_le_mul ?_
    rw [Nat.mul_comm]
    exact Nat.mul_le_mul_right _ narrow
  unfold plannedHeight
  omega

theorem u32TryFrom_natCast {n : Nat} (fits : n < 2 ^ 32) : u32TryFrom (n : Int) = some n :=
  u32TryFrom_eq_some.2 ⟨rfl, fits⟩

theorem mul_lt_two_pow {a b : Nat} (first : a < 2 ^ 32) (second : b < 2 ^ 32) : a * b < 2 ^ 64 :=
  calc a * b < 2 ^ 32 * 2 ^ 32 := Nat.mul_lt_mul'' first second
    _ = 2 ^ 64 := by norm_num

/-- **What a drawable request gets**: no step of the code panics on the way. -/
theorem planWatermark_drawable (drawable : Drawable sizes spec) :
    planWatermark sizes spec = .ok {
      x := (plannedCorner sizes spec).1
      y := (plannedCorner sizes spec).2
      width := plannedWidth sizes spec
      height := plannedHeight sizes spec } := by
  obtain ⟨-, -, someWidth, someHeight, margin⟩ := valid_bounds drawable.valid
  obtain ⟨narrow, fitsWidth, -, -⟩ := @plannedWidth_le sizes spec
  obtain ⟨fitsHeight, low⟩ := plannedHeight_le drawable
  have positive := plannedWidth_pos drawable
  have room := drawable.room
  have roomBelow := drawable.roomBelow
  have baseWidth := sizes.baseWidth.toNat_lt
  have baseHeight := sizes.baseHeight.toNat_lt
  have watermarkWidth := sizes.watermarkWidth.toNat_lt
  have watermarkHeight := sizes.watermarkHeight.toNat_lt
  have percent : spec.maxWidthPercent.toNat < 2 ^ 32 :=
    lt_trans spec.maxWidthPercent.toNat_lt (by norm_num)
  have doubled : u32CheckedMul spec.marginPx.toNat 2 = some (spec.marginPx.toNat * 2) :=
    if_pos (by omega)
  have across : positiveDifference sizes.baseWidth.toNat (spec.marginPx.toNat * 2) =
      some (sizes.baseWidth.toNat - spec.marginPx.toNat * 2) := if_pos room
  have down : positiveDifference sizes.baseHeight.toNat (spec.marginPx.toNat * 2) =
      some (sizes.baseHeight.toNat - spec.marginPx.toNat * 2) := if_pos roomBelow
  have percentProduct : times sizes.baseWidth.toNat spec.maxWidthPercent.toNat =
      .ok (sizes.baseWidth.toNat * spec.maxWidthPercent.toNat) :=
    if_pos (mul_lt_two_pow baseWidth percent)
  have heightProduct : times sizes.watermarkWidth.toNat
      (sizes.baseHeight.toNat - spec.marginPx.toNat * 2) =
      .ok (sizes.watermarkWidth.toNat * (sizes.baseHeight.toNat - spec.marginPx.toNat * 2)) :=
    if_pos (mul_lt_two_pow watermarkWidth (by omega))
  have heightCap : ∀ n, quotient n sizes.watermarkHeight.toNat =
      .ok (n / sizes.watermarkHeight.toNat) := fun n => if_neg (by omega)
  have smallest : min (min (min sizes.watermarkWidth.toNat
      (sizes.baseWidth.toNat - spec.marginPx.toNat * 2))
      (max (sizes.baseWidth.toNat * spec.maxWidthPercent.toNat / 100) 1))
      (sizes.watermarkWidth.toNat * (sizes.baseHeight.toNat - spec.marginPx.toNat * 2) /
        sizes.watermarkHeight.toNat) = plannedWidth sizes spec := rfl
  have widthFits : u32TryFrom (plannedWidth sizes spec : Int) = some (plannedWidth sizes spec) :=
    u32TryFrom_natCast (by omega)
  have widthProduct : times sizes.watermarkHeight.toNat (plannedWidth sizes spec) =
      .ok (sizes.watermarkHeight.toNat * plannedWidth sizes spec) :=
    if_pos (mul_lt_two_pow watermarkHeight (by omega))
  have scaled : ∀ n, quotient n sizes.watermarkWidth.toNat =
      .ok (n / sizes.watermarkWidth.toNat) := fun n => if_neg (by omega)
  have tallest : max (sizes.watermarkHeight.toNat * plannedWidth sizes spec /
      sizes.watermarkWidth.toNat) 1 = plannedHeight sizes spec := rfl
  have heightFits : u32TryFrom (plannedHeight sizes spec : Int) = some (plannedHeight sizes spec) :=
    u32TryFrom_natCast (by omega)
  have notOver : ¬ sizes.baseHeight.toNat - spec.marginPx.toNat * 2 < plannedHeight sizes spec := by
    omega
  have beside : minus sizes.baseWidth.toNat (plannedWidth sizes spec) =
      .ok (sizes.baseWidth.toNat - plannedWidth sizes spec) := if_pos (by omega)
  have right : minus (sizes.baseWidth.toNat - plannedWidth sizes spec) spec.marginPx.toNat =
      .ok (sizes.baseWidth.toNat - plannedWidth sizes spec - spec.marginPx.toNat) :=
    if_pos (by omega)
  have below : minus sizes.baseHeight.toNat (plannedHeight sizes spec) =
      .ok (sizes.baseHeight.toNat - plannedHeight sizes spec) := if_pos (by omega)
  have bottom : minus (sizes.baseHeight.toNat - plannedHeight sizes spec) spec.marginPx.toNat =
      .ok (sizes.baseHeight.toNat - plannedHeight sizes spec - spec.marginPx.toNat) :=
    if_pos (by omega)
  unfold planWatermark orRefuse
  dsimp only
  rw [if_pos drawable.valid, orFail_some, ok_bind, doubled, orFail_some, ok_bind, across,
    orFail_some, ok_bind, down, orFail_some, ok_bind, percentProduct, ok_bind, heightProduct, ok_bind,
    heightCap, ok_bind, smallest, if_pos positive, widthFits, orFail_some, ok_bind, widthProduct,
    ok_bind, scaled, ok_bind, tallest, heightFits, orFail_some, ok_bind, if_neg notOver, orFail_some,
    ok_bind, beside, ok_bind, right, ok_bind, below, ok_bind, bottom, ok_bind]
  unfold anchored plannedCorner
  cases spec.position with
  | center =>
      rw [beside, below]
      rfl
  | topLeft | topRight | bottomLeft | bottomRight => rfl

/-- **The other requests are refused.** -/
theorem planWatermark_refused (refused : ¬ Drawable sizes spec) :
    ∃ message, planWatermark sizes spec = .error (.failed (.invalidRequest message)) := by
  unfold planWatermark orRefuse
  dsimp only
  by_cases valid : validWatermark sizes spec = true
  swap
  · rw [if_neg valid, orFail_none, error_bind]
    exact ⟨_, rfl⟩
  obtain ⟨-, -, someWidth, someHeight, margin⟩ := valid_bounds valid
  have doubled : u32CheckedMul spec.marginPx.toNat 2 = some (spec.marginPx.toNat * 2) :=
    if_pos (by omega)
  rw [if_pos valid, orFail_some, ok_bind, doubled, orFail_some, ok_bind]
  by_cases room : spec.marginPx.toNat * 2 < sizes.baseWidth.toNat
  swap
  · have none : positiveDifference sizes.baseWidth.toNat (spec.marginPx.toNat * 2) = none :=
      if_neg room
    rw [none, orFail_none, error_bind]
    exact ⟨_, rfl⟩
  have across : positiveDifference sizes.baseWidth.toNat (spec.marginPx.toNat * 2) =
      some (sizes.baseWidth.toNat - spec.marginPx.toNat * 2) := if_pos room
  by_cases roomBelow : spec.marginPx.toNat * 2 < sizes.baseHeight.toNat
  swap
  · have none : positiveDifference sizes.baseHeight.toNat (spec.marginPx.toNat * 2) = none :=
      if_neg roomBelow
    rw [across, orFail_some, ok_bind, none, orFail_none, error_bind]
    exact ⟨_, rfl⟩
  have down : positiveDifference sizes.baseHeight.toNat (spec.marginPx.toNat * 2) =
      some (sizes.baseHeight.toNat - spec.marginPx.toNat * 2) := if_pos roomBelow
  have narrow : ¬ sizes.watermarkHeight.toNat ≤
      sizes.watermarkWidth.toNat * (sizes.baseHeight.toNat - spec.marginPx.toNat * 2) :=
    fun wide => refused ⟨valid, room, roomBelow, wide⟩
  have baseHeight := sizes.baseHeight.toNat_lt
  have percent : spec.maxWidthPercent.toNat < 2 ^ 32 :=
    lt_trans spec.maxWidthPercent.toNat_lt (by norm_num)
  have percentProduct : times sizes.baseWidth.toNat spec.maxWidthPercent.toNat =
      .ok (sizes.baseWidth.toNat * spec.maxWidthPercent.toNat) :=
    if_pos (mul_lt_two_pow sizes.baseWidth.toNat_lt percent)
  have heightProduct : times sizes.watermarkWidth.toNat
      (sizes.baseHeight.toNat - spec.marginPx.toNat * 2) =
      .ok (sizes.watermarkWidth.toNat * (sizes.baseHeight.toNat - spec.marginPx.toNat * 2)) :=
    if_pos (mul_lt_two_pow sizes.watermarkWidth.toNat_lt (by omega))
  have noHeight : sizes.watermarkWidth.toNat *
      (sizes.baseHeight.toNat - spec.marginPx.toNat * 2) / sizes.watermarkHeight.toNat = 0 :=
    Nat.div_eq_of_lt (by omega)
  have heightCap : quotient (sizes.watermarkWidth.toNat *
      (sizes.baseHeight.toNat - spec.marginPx.toNat * 2)) sizes.watermarkHeight.toNat = .ok 0 := by
    rw [← noHeight]
    exact if_neg (by omega)
  rw [across, orFail_some, ok_bind, down, orFail_some, ok_bind, percentProduct, ok_bind,
    heightProduct, ok_bind, heightCap, ok_bind, Nat.min_zero, if_neg (Nat.lt_irrefl 0), orFail_none,
    error_bind]
  exact ⟨_, rfl⟩

end Valid

/-! ## Placements -/

/-- A placement does what the preset asks for. -/
structure Placed (sizes : Sizes) (spec : WatermarkSpec) (placement : WatermarkPlacement) : Prop where
  left : spec.marginPx.toNat ≤ placement.x
  top : spec.marginPx.toNat ≤ placement.y
  right : placement.x + placement.width + spec.marginPx.toNat ≤ sizes.baseWidth.toNat
  bottom : placement.y + placement.height + spec.marginPx.toNat ≤ sizes.baseHeight.toNat
  nonempty : 0 < placement.width ∧ 0 < placement.height
  notEnlarged : placement.width ≤ sizes.watermarkWidth.toNat ∧
    placement.height ≤ sizes.watermarkHeight.toNat
  capped : placement.width ≤ max 1 (sizes.baseWidth.toNat * spec.maxWidthPercent.toNat / 100)
  /-- The height is within a pixel of the proportion. -/
  proportional : |(placement.height : ℚ) -
    sizes.watermarkHeight.toNat * placement.width / sizes.watermarkWidth.toNat| < 1

/-- A quotient rounded down, but not below one, is within one of the exact quotient. -/
theorem abs_max_div_sub_lt {a b : Nat} (some : 0 < a) (positive : 0 < b) :
    |((max (a / b) 1 : Nat) : ℚ) - a / b| < 1 := by
  have divisor : (0 : ℚ) < b := by exact_mod_cast positive
  have exact_ : (a : ℚ) / b = (a / b : Nat) + (a % b : Nat) / b := by
    have parts : (a : ℚ) = b * (a / b : Nat) + (a % b : Nat) := by
      exact_mod_cast (Nat.div_add_mod a b).symm
    field_simp
    exact parts
  have below : ((a % b : Nat) : ℚ) / b < 1 := by
    rw [div_lt_one divisor]
    exact_mod_cast Nat.mod_lt a positive
  have nonneg : (0 : ℚ) ≤ (a % b : Nat) / b := by positivity
  by_cases zero : a / b = 0
  · have positiveQuotient : (0 : ℚ) < a / b := by
      have numerator : (0 : ℚ) < a := by exact_mod_cast some
      positivity
    rw [zero] at exact_
    have one : max 0 1 = 1 := rfl
    rw [zero, one, abs_lt]
    push_cast at exact_ ⊢
    constructor <;> linarith
  · have itself : max (a / b) 1 = a / b := Nat.max_eq_left (Nat.pos_of_ne_zero zero)
    rw [itself, exact_, abs_lt]
    constructor <;> linarith

/-- **Placement of a watermark.**  No step leaves its integer type; a request is refused with a
message or gets a placement inside the image and its margins, not empty, not enlarged, within
the cap and in proportion. -/
theorem planWatermark_placed (sizes : Sizes) (spec : WatermarkSpec) :
    (∃ message, planWatermark sizes spec = .error (.failed (.invalidRequest message))) ∨
    ∃ placement, planWatermark sizes spec = .ok placement ∧ Placed sizes spec placement := by
  by_cases drawable : Drawable sizes spec
  · refine Or.inr ⟨_, planWatermark_drawable drawable, ?_⟩
    obtain ⟨-, -, someWidth, someHeight, -⟩ := valid_bounds drawable.valid
    obtain ⟨narrow, fitsWidth, capped, -⟩ := @plannedWidth_le sizes spec
    obtain ⟨fitsHeight, low⟩ := plannedHeight_le drawable
    have positive := plannedWidth_pos drawable
    have tall : 0 < plannedHeight sizes spec := by
      unfold plannedHeight
      omega
    have room := drawable.room
    have roomBelow := drawable.roomBelow
    have corner : spec.marginPx.toNat ≤ (plannedCorner sizes spec).1 ∧
        spec.marginPx.toNat ≤ (plannedCorner sizes spec).2 ∧
        (plannedCorner sizes spec).1 + plannedWidth sizes spec + spec.marginPx.toNat ≤
          sizes.baseWidth.toNat ∧
        (plannedCorner sizes spec).2 + plannedHeight sizes spec + spec.marginPx.toNat ≤
          sizes.baseHeight.toNat := by
      unfold plannedCorner
      cases spec.position <;> dsimp only <;> omega
    refine ⟨corner.1, corner.2.1, corner.2.2.1, corner.2.2.2, ⟨positive, tall⟩, ⟨narrow, low⟩, ?_, ?_⟩
    · rw [max_comm]
      exact capped
    · have near := abs_max_div_sub_lt (Nat.mul_pos someHeight positive) someWidth
      push_cast at near
      show |((plannedHeight sizes spec : Nat) : ℚ) - _| < 1
      unfold plannedHeight
      push_cast
      exact near
  · exact Or.inl (planWatermark_refused drawable)

end MediaBooster.Media
