import Phomemo.Imaging

/-!
# The orientation of a page

`page_begin` carries two answers about the medium: whether the page is turned and how long the
sheet is along the feed.  Only the first one looks at the raster, and only at media that lie with
their length across the head.
-/

namespace Phomemo

/-- The parts of `pappl_pr_options_t` both answers read: the medium in hundredths of a millimetre
and the raster in pixels. -/
structure PrintOptions where
  sizeWidth : Int
  sizeLength : Int
  cupsWidth : Nat
  cupsHeight : Nat
  deriving DecidableEq, Repr

namespace PrintOptions

/-- `width_across`: the dimension closest to the head width lies across the head. -/
def widthAcross (options : PrintOptions) (headWidth : Int) : Bool :=
  |options.sizeWidth - headWidth| ≤ |options.sizeLength - headWidth|

/-- `phomemo_should_rotate`. -/
def phomemoShouldRotate (options : PrintOptions) (headWidth : Int) : Bool :=
  !options.widthAcross headWidth && decide (options.cupsWidth < options.cupsHeight)

/-- `phomemo_media_length_mm`, before the quotient is rounded to a double. -/
def phomemoMediaLengthMm (options : PrintOptions) (headWidth : Int) : ℚ :=
  (if options.widthAcross headWidth then options.sizeLength else options.sizeWidth) / 100

/-- The side of the medium that lies across the head. -/
def sideAcross (options : PrintOptions) (headWidth : Int) : Int :=
  if options.widthAcross headWidth then options.sizeWidth else options.sizeLength

/-- The raster as `prepare_page` lays it on the sheet. -/
def turned (options : PrintOptions) (headWidth : Int) (raster : Image) : Image :=
  if options.phomemoShouldRotate headWidth then rotate90 raster else raster

/-- The raster shows the medium, upright or on its side, with that many pixels for a hundredth of
a millimetre. -/
structure Shows (options : PrintOptions) (scale : ℚ) (raster : Image) : Prop where
  scale_pos : 0 < scale
  width : raster.width = options.cupsWidth
  height : raster.height = options.cupsHeight
  sides :
    (raster.width = scale * options.sizeWidth ∧ raster.height = scale * options.sizeLength) ∨
      (raster.width = scale * options.sizeLength ∧ raster.height = scale * options.sizeWidth)

/-- A page that covers the side across the head with its width and the reported feed length with
its height. -/
def Matches (options : PrintOptions) (headWidth : Int) (scale : ℚ) (page : Image) : Prop :=
  page.width = scale * options.sideAcross headWidth ∧
    page.height = scale * (100 * options.phomemoMediaLengthMm headWidth)

/-- A page that is neither wider than the side across the head nor longer than the reported feed
length. -/
def Within (options : PrintOptions) (headWidth : Int) (scale : ℚ) (page : Image) : Prop :=
  page.width ≤ scale * options.sideAcross headWidth ∧
    page.height ≤ scale * (100 * options.phomemoMediaLengthMm headWidth)

/-- The media and rasters the two answers agree on: with the width of the medium across the head
the raster has to be in the medium's own order, and with the length across the medium has to be
portrait. -/
def Agree (options : PrintOptions) (headWidth : Int) : Prop :=
  if options.widthAcross headWidth then
    (options.cupsWidth < options.cupsHeight ↔ options.sizeWidth < options.sizeLength)
  else options.sizeWidth < options.sizeLength

instance (options : PrintOptions) (headWidth : Int) : Decidable (options.Agree headWidth) :=
  inferInstanceAs (Decidable (ite _ _ _))

variable {options : PrintOptions} {headWidth : Int} {scale : ℚ} {raster : Image}

/-- The side along the feed. -/
theorem length_eq_side (options : PrintOptions) (headWidth : Int) :
    100 * options.phomemoMediaLengthMm headWidth =
      ((if options.widthAcross headWidth then options.sizeLength
        else options.sizeWidth : Int) : ℚ) := by
  unfold phomemoMediaLengthMm
  split <;> ring

/-- Scaling keeps the order of two sides. -/
theorem scaled_lt_iff {first second : Int} (positive : 0 < scale) :
    scale * (first : ℚ) < scale * second ↔ first < second := by
  rw [mul_lt_mul_iff_right₀ positive]
  exact Int.cast_lt

/-- A raster is portrait when the side that runs down it is the longer one. -/
theorem Shows.portrait_iff (shows : options.Shows scale raster) {first second : Int}
    (width : raster.width = scale * first) (height : raster.height = scale * second) :
    options.cupsWidth < options.cupsHeight ↔ first < second := by
  rw [← shows.width, ← shows.height, ← scaled_lt_iff shows.scale_pos, ← width, ← height]
  exact Nat.cast_lt.symm

/-- The page lies on the sheet as the medium does, or on its side, according to `Agree`. -/
theorem Shows.turned_sides (shows : options.Shows scale raster) (headWidth : Int)
    (different : options.sizeWidth ≠ options.sizeLength) :
    (options.Matches headWidth scale (options.turned headWidth raster) ∧ options.Agree headWidth) ∨
      (((options.turned headWidth raster).width : ℚ) =
          scale * (100 * options.phomemoMediaLengthMm headWidth) ∧
        (options.turned headWidth raster).height = scale * options.sideAcross headWidth ∧
        ¬options.Agree headWidth) := by
  unfold Matches turned phomemoShouldRotate
  rw [length_eq_side]
  unfold sideAcross Agree
  cases across : options.widthAcross headWidth with
  | true =>
      obtain ⟨width, height⟩ | ⟨width, height⟩ := shows.sides
      · exact Or.inl ⟨⟨width, height⟩, shows.portrait_iff width height⟩
      · refine Or.inr ⟨width, height, fun agree => ?_⟩
        have portrait := shows.portrait_iff width height
        rw [if_pos rfl] at agree
        omega
  | false =>
      obtain ⟨width, height⟩ | ⟨width, height⟩ := shows.sides
      · have portrait := shows.portrait_iff width height
        by_cases longer : options.sizeWidth < options.sizeLength
        · rw [if_pos (by simpa using portrait.mpr longer)]
          exact Or.inl ⟨⟨height, width⟩, longer⟩
        · rw [if_neg (by simpa using fun above => longer (portrait.mp above))]
          exact Or.inr ⟨width, height, longer⟩
      · have portrait := shows.portrait_iff width height
        by_cases longer : options.sizeWidth < options.sizeLength
        · rw [if_neg (by simpa using fun above => lt_asymm longer (portrait.mp above))]
          exact Or.inl ⟨⟨width, height⟩, longer⟩
        · have shorter : options.sizeLength < options.sizeWidth := by omega
          rw [if_pos (by simpa using portrait.mpr shorter)]
          exact Or.inr ⟨height, width, longer⟩

/-- A page that shows two sides the other way round stays within them only when they are equal. -/
theorem eq_of_swapped {first second : Int} (positive : 0 < scale)
    (width : scale * (second : ℚ) ≤ scale * first)
    (height : scale * (first : ℚ) ≤ scale * second) : first = second :=
  le_antisymm (Int.cast_le.mp (le_of_mul_le_mul_left height positive))
    (Int.cast_le.mp (le_of_mul_le_mul_left width positive))

/-- The two sides of the medium are the one across the head and the one along the feed. -/
theorem side_ne_length (different : options.sizeWidth ≠ options.sizeLength) :
    options.sideAcross headWidth ≠
      if options.widthAcross headWidth then options.sizeLength else options.sizeWidth := by
  unfold sideAcross
  split
  · exact different
  · exact different.symm

/-- The turned page matches the sheet, and equally stays within it, exactly when the two answers
agree about it. -/
theorem turned_matches_iff (shows : options.Shows scale raster) (headWidth : Int)
    (different : options.sizeWidth ≠ options.sizeLength) :
    (options.Matches headWidth scale (options.turned headWidth raster) ↔
        options.Agree headWidth) ∧
      (options.Within headWidth scale (options.turned headWidth raster) ↔
        options.Agree headWidth) := by
  obtain ⟨covers, agree⟩ | ⟨width, height, disagree⟩ :=
    shows.turned_sides headWidth different
  · exact ⟨⟨fun _ => agree, fun _ => covers⟩,
      ⟨fun _ => agree, fun _ => ⟨covers.1.le, covers.2.le⟩⟩⟩
  · have outside : ¬options.Within headWidth scale (options.turned headWidth raster) := by
      rintro ⟨narrow, short⟩
      rw [width, length_eq_side] at narrow
      rw [height, length_eq_side] at short
      exact side_ne_length different (eq_of_swapped shows.scale_pos narrow short)
    refine ⟨⟨fun covers => ?_, fun agree => absurd agree disagree⟩,
      ⟨fun within => absurd within outside, fun agree => absurd agree disagree⟩⟩
    exact absurd ⟨covers.1.le, covers.2.le⟩ outside

/-- An A5 page in portrait: 210 mm lie across the head of the M08F. -/
def a5Portrait : PrintOptions where
  sizeWidth := 14800
  sizeLength := 21000
  cupsWidth := 1480
  cupsHeight := 2100

theorem a5Portrait_shows : a5Portrait.Shows (1 / 10) (blankRaster 1480 2100) where
  scale_pos := by norm_num
  width := rfl
  height := rfl
  sides := Or.inl ⟨by norm_num [blankRaster, a5Portrait], by norm_num [blankRaster, a5Portrait]⟩

theorem turned_matches_a5 :
    a5Portrait.Matches 21020 (1 / 10) (a5Portrait.turned 21020 (blankRaster 1480 2100)) ∧
      a5Portrait.Within 21020 (1 / 10) (a5Portrait.turned 21020 (blankRaster 1480 2100)) :=
  have both := turned_matches_iff a5Portrait_shows 21020 (by decide)
  ⟨both.1.mpr (by decide), both.2.mpr (by decide)⟩

/-- An A4 page rendered in landscape. -/
def a4Landscape : PrintOptions where
  sizeWidth := 21000
  sizeLength := 29700
  cupsWidth := 2970
  cupsHeight := 2100

/-- It is printed as it is, 297 mm wide. -/
theorem a4Landscape_wide :
    a4Landscape.Shows (1 / 10) (blankRaster 2970 2100) ∧
      a4Landscape.sizeWidth ≠ a4Landscape.sizeLength ∧
      ¬a4Landscape.Matches 21020 (1 / 10) (a4Landscape.turned 21020 (blankRaster 2970 2100)) ∧
      ¬a4Landscape.Within 21020 (1 / 10) (a4Landscape.turned 21020 (blankRaster 2970 2100)) := by
  have shows : a4Landscape.Shows (1 / 10) (blankRaster 2970 2100) :=
    { scale_pos := by norm_num
      width := rfl
      height := rfl
      sides := Or.inr
        ⟨by norm_num [blankRaster, a4Landscape], by norm_num [blankRaster, a4Landscape]⟩ }
  have upright : a4Landscape.turned 21020 (blankRaster 2970 2100) = blankRaster 2970 2100 := by
    unfold turned
    rw [if_neg (by decide)]
  have across : a4Landscape.sideAcross 21020 = 21000 := by decide
  refine ⟨shows, by decide, ?_, ?_⟩
  · rintro ⟨width, -⟩
    rw [upright, across] at width
    norm_num [blankRaster] at width
  · rintro ⟨width, -⟩
    rw [upright, across] at width
    norm_num [blankRaster] at width

end PrintOptions

end Phomemo
