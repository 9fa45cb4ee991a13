import Mathlib.Algebra.Order.Floor.Semifield
import Mathlib.Data.Rat.Floor
import Phomemo.Imaging

/-!
# Fitting an image to the print width

`prepareImage` resizes, pads and dithers an image of any mode.  Pillow enters as a parameter whose
fields carry what its documentation says of the sizes.
-/

namespace Phomemo

/-- Image dithering algorithm for 1-bit conversion. -/
inductive DitherMode where
  | floydSteinberg
  | threshold
  deriving DecidableEq, Repr

/-- Strategy for fitting an image to the print area. -/
inductive ImageFit where
  | fitWidth
  | fitHeight
  | fitPage
  | stretch
  | original
  deriving DecidableEq, Repr

/-- Pillow's operations on pictures of any mode. -/
structure Pillow (Picture : Type) where
  width : Picture → Nat
  height : Picture → Nat
  /-- `resize(size, LANCZOS)`. -/
  resize : Picture → Nat → Nat → Except PyExc Picture
  /-- `Image.new("RGB", size, white)` with the picture pasted at that offset from the left. -/
  pasteOnWhite : Picture → Nat → Nat → Nat → Picture
  /-- `convert("L")`. -/
  convertGray : Picture → Image
  /-- `convert("1")` of a gray image, with error diffusion. -/
  diffuse : Image → Nat → Nat → UInt8
  resize_empty : ∀ picture newWidth newHeight, newWidth = 0 ∨ newHeight = 0 →
    resize picture newWidth newHeight = .error (.valueError "height and width must be > 0")
  resize_size : ∀ picture newWidth newHeight, 0 < newWidth → 0 < newHeight →
    ∃ resized, resize picture newWidth newHeight = .ok resized ∧ width resized = newWidth ∧
      height resized = newHeight
  pasteOnWhite_width : ∀ picture newWidth newHeight offset,
    width (pasteOnWhite picture newWidth newHeight offset) = newWidth
  pasteOnWhite_height : ∀ picture newWidth newHeight offset,
    height (pasteOnWhite picture newWidth newHeight offset) = newHeight
  convertGray_width : ∀ picture, (convertGray picture).width = width picture
  convertGray_height : ∀ picture, (convertGray picture).height = height picture

/-- `first / second` on sizes. -/
def divide (first second : Nat) : Except PyExc ℚ :=
  if second = 0 then .error (.zeroDivisionError "division by zero") else .ok (first / second)

/-- The size an image is resized to; `int` drops the fraction. -/
def newSize (w h targetWidth : Nat) (fit : ImageFit) (targetHeight maxHeight : Option Nat) :
    Except PyExc (Nat × Nat) :=
  match fit with
  | .fitWidth => do
      let scale ← divide targetWidth w
      return (targetWidth, ⌊h * scale⌋₊)
  | .fitHeight =>
      match targetHeight with
      | none => .error (.valueError "target_height required for FIT_HEIGHT")
      | some targetHeight => do
          let scale ← divide targetHeight h
          return (⌊w * scale⌋₊, targetHeight)
  | .fitPage =>
      match maxHeight with
      | none => .error (.valueError "max_height required for FIT_PAGE")
      | some maxHeight => do
          let across ← divide targetWidth w
          let along ← divide maxHeight h
          let scale := min across along
          return (max 8 (⌊w * scale⌋₊ / 8 * 8), ⌊h * scale⌋₊)
  | .stretch =>
      match targetHeight with
      | none => .error (.valueError "target_height required for STRETCH")
      | some targetHeight => .ok (targetWidth, targetHeight)
  | .original => .ok (w, h)

/-- The 1-bit image of a gray one. -/
def ditherGray (diffuse : Image → Nat → Nat → UInt8) (img : Image) (dither : DitherMode) :
    Image :=
  { img with
    mode := .bilevel
    pixel :=
      match dither with
      | .floydSteinberg => diffuse img
      | .threshold => fun x y => whiteWhere (128 ≤ (img.pixel x y).toNat) }

/-- Resize and dither an image for thermal printing. -/
def prepareImage {Picture : Type} (pillow : Pillow Picture) (img : Picture) (targetWidth : Nat)
    (fit : ImageFit) (dither : DitherMode) (targetHeight maxHeight : Option Nat) :
    Except PyExc Image := do
  let targetWidth := targetWidth / 8 * 8
  let size ← newSize (pillow.width img) (pillow.height img) targetWidth fit targetHeight maxHeight
  let img ← pillow.resize img size.1 size.2
  let img :=
    if pillow.width img ≠ targetWidth then
      pillow.pasteOnWhite img targetWidth (pillow.height img) ((targetWidth - pillow.width img) / 2)
    else img
  return ditherGray pillow.diffuse (pillow.convertGray img) dither

/-- The height the fit mode requires, if any, is given and at least one row. -/
def ImageFit.Given (fit : ImageFit) (targetHeight maxHeight : Option Nat) : Prop :=
  match fit with
  | .fitWidth => True
  | .fitHeight => ∃ rows, targetHeight = some rows ∧ 1 ≤ rows
  | .fitPage => ∃ rows, maxHeight = some rows ∧ 1 ≤ rows
  | .stretch => ∃ rows, targetHeight = some rows ∧ 1 ≤ rows
  | .original => True

/-- Scaling keeps at least one pixel of the side that is computed from the other one. -/
def ImageFit.KeepsPixel (fit : ImageFit) (w h targetWidth : Nat) (targetHeight : Option Nat) :
    Prop :=
  match fit with
  | .fitWidth => w ≤ h * targetWidth
  | .fitHeight => ∀ rows ∈ targetHeight, h ≤ w * rows
  | .fitPage => w ≤ h * targetWidth
  | .stretch => True
  | .original => True

/-- The page is as wide as the head, and `image_to_bitmap` packs it for it. -/
structure FitsHead (page : Image) (targetWidth : Nat) : Prop where
  width : page.width = targetWidth / 8 * 8
  rows : 1 ≤ page.height
  packs : ∃ bitmap, imageToBitmap page = .ok bitmap ∧
    bitmap.length = targetWidth / 8 * page.height

section Sizes

theorem divide_pos {first second : Nat} (positive : 0 < second) :
    divide first second = .ok ((first : ℚ) / second) :=
  if_neg positive.ne'

/-- A side scaled by a quotient. -/
theorem floor_scaled (side first second : Nat) :
    ⌊(side : ℚ) * (first / second)⌋₊ = side * first / second := by
  rw [← mul_div_assoc, ← Nat.cast_mul, Nat.floor_div_eq_div]

/-- Rounding down a side scaled by the smaller of two quotients. -/
theorem floor_scaled_min (side : Nat) (first second : ℚ) :
    ⌊(side : ℚ) * min first second⌋₊ = min ⌊side * first⌋₊ ⌊side * second⌋₊ := by
  rw [mul_min_of_nonneg _ _ (Nat.cast_nonneg side)]
  exact Nat.floor_mono.map_min

theorem one_le_scaled_iff {side first second : Nat} (positive : 0 < second) :
    0 < side * first / second ↔ second ≤ side * first :=
  Nat.div_pos_iff.trans (and_iff_right positive)

/-- The size an image is resized to, and when neither side of it is empty. -/
theorem newSize_spec {w h targetWidth : Nat} {fit : ImageFit} {targetHeight maxHeight : Option Nat}
    (w_pos : 0 < w) (h_pos : 0 < h) (wide : 0 < targetWidth)
    (given : fit.Given targetHeight maxHeight) :
    ∃ newWidth newHeight,
      newSize w h targetWidth fit targetHeight maxHeight = .ok (newWidth, newHeight) ∧
        (0 < newWidth ∧ 0 < newHeight ↔ fit.KeepsPixel w h targetWidth targetHeight) ∧
        (fit = .fitPage → ∀ rows ∈ maxHeight, newHeight ≤ rows) := by
  cases fit with
  | fitWidth =>
      refine ⟨targetWidth, ⌊(h : ℚ) * (targetWidth / w)⌋₊, ?_, ?_, nofun⟩
      · simp only [newSize, divide_pos w_pos]
        rfl
      · rw [floor_scaled, one_le_scaled_iff w_pos]
        exact and_iff_right wide
  | fitHeight =>
      obtain ⟨rows, rfl, rows_pos⟩ := given
      refine ⟨⌊(w : ℚ) * (rows / h)⌋₊, rows, ?_, ?_, nofun⟩
      · simp only [newSize, divide_pos h_pos]
        rfl
      · rw [floor_scaled, one_le_scaled_iff h_pos]
        simp only [ImageFit.KeepsPixel, Option.mem_some_iff, forall_eq']
        exact and_iff_left rows_pos
  | fitPage =>
      obtain ⟨rows, rfl, rows_pos⟩ := given
      have height : ⌊(h : ℚ) * min ((targetWidth : ℚ) / w) (rows / h)⌋₊ =
          min (h * targetWidth / w) rows := by
        rw [floor_scaled_min, floor_scaled, floor_scaled, Nat.mul_div_cancel_left _ h_pos]
      refine ⟨max 8 (⌊(w : ℚ) * min ((targetWidth : ℚ) / w) (rows / h)⌋₊ / 8 * 8),
        ⌊(h : ℚ) * min ((targetWidth : ℚ) / w) (rows / h)⌋₊, ?_, ?_, ?_⟩
      · simp only [newSize, divide_pos w_pos, divide_pos h_pos]
        rfl
      · rw [height, lt_min_iff, one_le_scaled_iff w_pos]
        have guarded : 0 < max 8 (⌊(w : ℚ) * min ((targetWidth : ℚ) / w) (rows / h)⌋₊ / 8 * 8) :=
          lt_max_of_lt_left (by decide)
        exact ⟨fun both => both.2.1, fun keeps => ⟨guarded, keeps, rows_pos⟩⟩
      · rintro - _ same
        obtain rfl := Option.mem_some_iff.mp same
        rw [height]
        exact min_le_right _ _
  | stretch =>
      obtain ⟨rows, rfl, rows_pos⟩ := given
      exact ⟨targetWidth, rows, rfl, ⟨fun _ => trivial, fun _ => ⟨wide, rows_pos⟩⟩, nofun⟩
  | original =>
      exact ⟨w, h, rfl, ⟨fun _ => trivial, fun _ => ⟨w_pos, h_pos⟩⟩, nofun⟩

end Sizes

section Pages

variable {Picture : Type} {pillow : Pillow Picture} {img : Picture} {targetWidth : Nat}
  {fit : ImageFit} {targetHeight maxHeight : Option Nat} {newWidth newHeight : Nat}

/-- An empty size is refused. -/
theorem prepareImage_empty (dither : DitherMode)
    (sized : newSize (pillow.width img) (pillow.height img) (targetWidth / 8 * 8) fit targetHeight
      maxHeight = .ok (newWidth, newHeight)) (empty : ¬(0 < newWidth ∧ 0 < newHeight)) :
    prepareImage pillow img targetWidth fit dither targetHeight maxHeight =
      .error (.valueError "height and width must be > 0") := by
  have refused := pillow.resize_empty img newWidth newHeight (by omega)
  simp only [prepareImage, sized, bind, Except.bind, refused]

/-- Any other size is resized to and padded or cropped to the target width. -/
theorem prepareImage_sized (dither : DitherMode)
    (sized : newSize (pillow.width img) (pillow.height img) (targetWidth / 8 * 8) fit targetHeight
      maxHeight = .ok (newWidth, newHeight)) (width_pos : 0 < newWidth)
    (height_pos : 0 < newHeight) :
    ∃ page, prepareImage pillow img targetWidth fit dither targetHeight maxHeight = .ok page ∧
      page.mode = .bilevel ∧ page.width = targetWidth / 8 * 8 ∧ page.height = newHeight := by
  obtain ⟨resized, accepted, width, height⟩ :=
    pillow.resize_size img newWidth newHeight width_pos height_pos
  simp only [prepareImage, sized, bind, Except.bind, accepted, pure, Except.pure]
  refine ⟨_, rfl, rfl, ?_, ?_⟩
  · unfold ditherGray
    dsimp only
    rw [pillow.convertGray_width]
    split_ifs with padded
    · exact pillow.pasteOnWhite_width _ _ _ _
    · exact not_not.mp padded
  · unfold ditherGray
    dsimp only
    rw [pillow.convertGray_height]
    split_ifs
    · rw [pillow.pasteOnWhite_height, height]
    · exact height

/-- A bilevel page of that width is packed. -/
theorem fitsHead_of_shape {page : Image} (mode : page.mode = .bilevel)
    (width : page.width = targetWidth / 8 * 8) (rows : 1 ≤ page.height) :
    FitsHead page targetWidth := by
  have aligned : page.width % 8 = 0 := by
    rw [width]
    exact Nat.mul_mod_left _ _
  obtain ⟨bitmap, packed⟩ : ∃ bitmap, imageToBitmap page = .ok bitmap := by
    unfold imageToBitmap
    rw [if_neg (not_not.mpr mode), if_neg (not_not.mpr aligned)]
    exact ⟨_, rfl⟩
  refine ⟨width, rows, bitmap, packed, ?_⟩
  rw [imageToBitmap_length packed, width, Nat.mul_div_cancel _ (by decide)]

end Pages

/-- An image is prepared for the head exactly when scaling leaves a pixel of each of its sides. -/
theorem prepareImage_fits_iff {Picture : Type} (pillow : Pillow Picture) (img : Picture)
    (targetWidth : Nat) (fit : ImageFit) (dither : DitherMode)
    (targetHeight maxHeight : Option Nat) (width_pos : 1 ≤ pillow.width img)
    (height_pos : 1 ≤ pillow.height img) (wide : 8 ≤ targetWidth)
    (given : fit.Given targetHeight maxHeight) :
    (∃ page, prepareImage pillow img targetWidth fit dither targetHeight maxHeight = .ok page ∧
        FitsHead page targetWidth ∧ (fit = .fitPage → ∀ rows ∈ maxHeight, page.height ≤ rows)) ↔
      fit.KeepsPixel (pillow.width img) (pillow.height img) (targetWidth / 8 * 8)
        targetHeight := by
  obtain ⟨newWidth, newHeight, sized, keeps, bounded⟩ :=
    newSize_spec width_pos height_pos (show 0 < targetWidth / 8 * 8 by omega) given
  rw [← keeps]
  constructor
  · rintro ⟨page, prepared, -⟩
    by_contra empty
    rw [prepareImage_empty dither sized empty] at prepared
    cases prepared
  · rintro ⟨positive, rows⟩
    obtain ⟨page, prepared, mode, width, height⟩ :=
      prepareImage_sized dither sized positive rows
    refine ⟨page, prepared, fitsHead_of_shape mode width (height ▸ rows), ?_⟩
    rw [height]
    exact bounded

/-- Pillow's operations on gray images, with the nearest pixel in place of the filter. -/
def nearestPillow : Pillow Image where
  width := Image.width
  height := Image.height
  resize img newWidth newHeight :=
    if newWidth = 0 ∨ newHeight = 0 then .error (.valueError "height and width must be > 0")
    else .ok
      { img with
        width := newWidth
        height := newHeight
        pixel := fun x y => img.pixel (x * img.width / newWidth) (y * img.height / newHeight) }
  pasteOnWhite img newWidth newHeight offset :=
    { img with
      width := newWidth
      height := newHeight
      pixel := fun x y =>
        if offset ≤ x ∧ x < offset + img.width then img.pixel (x - offset) y else 255 }
  convertGray img := { img with mode := .gray }
  diffuse img := fun x y => whiteWhere (128 ≤ (img.pixel x y).toNat)
  resize_empty _ _ _ empty := if_pos empty
  resize_size _ _ _ width_pos height_pos :=
    ⟨_, if_neg (not_or.mpr ⟨width_pos.ne', height_pos.ne'⟩), rfl, rfl⟩
  pasteOnWhite_width _ _ _ _ := rfl
  pasteOnWhite_height _ _ _ _ := rfl
  convertGray_width _ := rfl
  convertGray_height _ := rfl

/-- A white page twice as wide as the head. -/
theorem prepareImage_fits_blank :
    ∃ page, prepareImage nearestPillow (blankRaster 3360 100) 1680 .fitWidth .floydSteinberg none
        none = .ok page ∧
      FitsHead page 1680 ∧ (ImageFit.fitWidth = .fitPage → ∀ rows ∈ none, page.height ≤ rows) :=
  (prepareImage_fits_iff nearestPillow (blankRaster 3360 100) 1680 .fitWidth .floydSteinberg none
    none (by decide) (by decide) (by decide) trivial).mpr
      (show 3360 ≤ 100 * (1680 / 8 * 8) by decide)

/-- A line of 4000 pixels scales to a page without rows. -/
theorem prepareImage_refuses_line :
    1 ≤ nearestPillow.width (blankRaster 4000 1) ∧ 1 ≤ nearestPillow.height (blankRaster 4000 1) ∧
      ImageFit.fitWidth.Given none none ∧
      prepareImage nearestPillow (blankRaster 4000 1) 1680 .fitWidth .floydSteinberg none none =
        .error (.valueError "height and width must be > 0") := by
  have sized : newSize 4000 1 (1680 / 8 * 8) .fitWidth none none = .ok (1680, 0) := by
    decide +kernel
  exact ⟨by decide, by decide, trivial, prepareImage_empty _ sized (by decide)⟩

end Phomemo
