import Mathlib.Data.List.GetD
import Phomemo.PageBuffer

/-!
# From the client's page to the bitmap

What is printed where: the page is turned, centred on the head or cropped, stripped of the lead,
clipped to the sheet, converted and packed.  The bitmap is followed bit by bit back to the pixels
the client sent.
-/

namespace Phomemo

/-! ## Packing -/

/-- Eight pixels in a byte, the first one in the high bit. -/
theorem foldl_bit :
    ∀ b₀ b₁ b₂ b₃ b₄ b₅ b₆ b₇ : Bool, ∀ k < 8,
      ([b₀, b₁, b₂, b₃, b₄, b₅, b₆, b₇].foldl
            (fun (byte : UInt8) black => byte * 2 + if black then 1 else 0) 0).toNat /
          2 ^ (7 - k) % 2 = 1 ↔
        [b₀, b₁, b₂, b₃, b₄, b₅, b₆, b₇].getD k false = true := by
  decide +kernel

theorem packByte_bit (img : Image) (x y : Nat) {k : Nat} (small : k < 8) :
    (packByte img x y).toNat / 2 ^ (7 - k) % 2 = 1 ↔ img.pixel (x + k) y = 0 := by
  have packed : packByte img x y =
      ((List.range 8).map fun bit => decide (img.pixel (x + bit) y = 0)).foldl
        (fun (byte : UInt8) black => byte * 2 + if black then 1 else 0) 0 := by
    simp [packByte, List.foldl_map]
  rw [packed]
  refine (foldl_bit _ _ _ _ _ _ _ _ k small).trans ?_
  change ((List.range 8).map fun bit => decide (img.pixel (x + bit) y = 0)).getD k false = true ↔ _
  rw [List.getD_eq_getElem _ _ (by simpa using small)]
  simp

/-- Rows of equal length one after another. -/
theorem flatMap_range_getD {α : Type} {row : Nat → List α} {width : Nat}
    (even : ∀ y, (row y).length = width) (fallback : α) {height x y : Nat} (inRow : x < width)
    (inPage : y < height) :
    ((List.range height).flatMap row).getD (y * width + x) fallback = (row y).getD x fallback := by
  induction height with
  | zero => omega
  | succ height ih =>
      have before : ((List.range height).flatMap row).length = height * width := by
        simp [List.length_flatMap, even]
      rw [List.range_succ, List.flatMap_append, List.flatMap_singleton]
      by_cases last : y = height
      · subst last
        rw [List.getD_append_right _ _ _ _ (by omega), before, Nat.add_sub_cancel_left]
      · have fits : y * width + x < height * width := by
          calc
            y * width + x < (y + 1) * width := by rw [Nat.succ_mul]; omega
            _ ≤ height * width := Nat.mul_le_mul_right _ (by omega)
        rw [List.getD_append _ _ _ _ (by omega)]
        exact ih (by omega)

/-- The bit of a pixel is set exactly if the pixel is black. -/
theorem imageToBitmap_bit {img : Image} {bitmap : Bytes} (packed : imageToBitmap img = .ok bitmap)
    {x y : Nat} (inRow : x < img.width) (inPage : y < img.height) :
    (bitmap.getD (y * img.width / 8 + x / 8) 0).toNat / 2 ^ (7 - x % 8) % 2 = 1 ↔
      img.pixel x y = 0 := by
  unfold imageToBitmap at packed
  split_ifs at packed with mode aligned
  obtain rfl := Except.ok.inj packed
  have place : y * img.width / 8 = y * (img.width / 8) := Nat.mul_div_assoc _ (by omega)
  have column : x / 8 < img.width / 8 := by omega
  rw [place, flatMap_range_getD (by simp) 0 column inPage]
  rw [List.getD_eq_getElem _ _ (by simpa using column)]
  simp only [List.getElem_map, List.getElem_range]
  rw [packByte_bit _ _ _ (Nat.mod_lt _ (by decide)), Nat.div_add_mod]

/-! ## The way of a pixel -/

/-- The image, turned a quarter counter-clockwise if asked for. -/
def turn (rotate : Bool) (img : Image) : Image := if rotate then rotate90 img else img

/-- Where a pixel of the client's page lands when the page is turned. -/
def landing (rotate : Bool) (width px py : Nat) : Nat × Nat :=
  if rotate then (py, width - 1 - px) else (px, py)

/-- The row below the last one that is printed. -/
def pageBottom (height : Nat) (lead : Int) : Option Int → Int
  | none => height
  | some rows => min height (lead + rows)

/-- A value becomes black at a place of the output.  Error diffusion does not decide pixel by
pixel. -/
def Blackens (mode : ImageMode) (tone : ToneMode) (x y : Nat) (value : UInt8) : Prop :=
  match mode, tone with
  | .bilevel, _ => value = 0
  | .gray, .threshold => value.toNat < 128
  | .gray, .ordered => value.toNat ≤ 4 * bayerRank x y + 2
  | .gray, .diffusion => False

/-- The tone decides pixel by pixel. -/
def Pointwise (mode : ImageMode) (tone : ToneMode) : Prop := mode = .gray → tone ≠ .diffusion

theorem bayerRank_lt : ∀ x y : Nat, bayerRank x y < 64 := by
  have cells : ∀ x < 8, ∀ y < 8, (bayer8.getD y []).getD x 0 < 64 := by decide
  intro x y
  exact cells _ (Nat.mod_lt _ (by decide)) _ (Nat.mod_lt _ (by decide))

theorem blackens_zero {mode : ImageMode} {tone : ToneMode} (pointwise : Pointwise mode tone)
    (x y : Nat) : Blackens mode tone x y 0 := by
  cases mode with
  | bilevel => rfl
  | gray =>
      cases tone with
      | threshold => exact (by decide : 0 < 128)
      | ordered => exact Nat.zero_le _
      | diffusion => exact absurd rfl (pointwise rfl)

theorem not_blackens_white (mode : ImageMode) (tone : ToneMode) (x y : Nat) :
    ¬Blackens mode tone x y 255 := by
  have rank := bayerRank_lt x y
  cases mode with
  | bilevel => exact (by decide : (255 : UInt8) ≠ 0)
  | gray =>
      cases tone with
      | threshold => exact (by decide : ¬255 < 128)
      | ordered =>
          change ¬255 ≤ 4 * bayerRank x y + 2
          omega
      | diffusion => exact id

theorem whiteWhere_eq_zero (condition : Bool) : whiteWhere condition = 0 ↔ condition = false := by
  cases condition <;> decide

/-- The conversion to one bit a pixel. -/
theorem toBilevel_black {diffuse : Image → Nat → Nat → UInt8} {img : Image} {tone : ToneMode}
    (pointwise : Pointwise img.mode tone) (x y : Nat) :
    (toBilevel diffuse img tone).pixel x y = 0 ↔ Blackens img.mode tone x y (img.pixel x y) := by
  cases mode : img.mode with
  | bilevel => simp [toBilevel, mode, Blackens]
  | gray =>
      cases tone with
      | threshold => simp [toBilevel, mode, applyTone, whiteWhere_eq_zero, Blackens]
      | ordered =>
          simp only [toBilevel, mode, applyTone, whiteWhere_eq_zero]
          exact decide_eq_false_iff_not.trans Nat.not_lt
      | diffusion => exact absurd rfl (pointwise mode)

theorem toBilevel_height (diffuse : Image → Nat → Nat → UInt8) (img : Image) (tone : ToneMode) :
    (toBilevel diffuse img tone).height = img.height := by
  unfold toBilevel
  split <;> rfl

/-- A pixel on the head shows the page if the page reaches there. -/
theorem fitWidth_pixel {img : Image} {width x : Nat} (onHead : x < width) (y : Nat) :
    (fitWidth img width).pixel x y =
      if (width - img.width) / 2 ≤ x ∧ x - (width - img.width) / 2 < img.width then
        img.pixel (x - (width - img.width) / 2) y
      else 255 := by
  unfold fitWidth
  by_cases same : img.width = width
  · simp [same, onHead]
  · have reached : ((width - img.width) / 2 ≤ x ∧
        x < (width - img.width) / 2 + min img.width width) ↔
        (width - img.width) / 2 ≤ x ∧ x - (width - img.width) / 2 < img.width := by omega
    simp only [same, if_false, reached]

theorem fitWidth_height (img : Image) (width : Nat) :
    (fitWidth img width).height = img.height := by
  unfold fitWidth
  split <;> rfl

theorem fitWidth_mode (img : Image) (width : Nat) : (fitWidth img width).mode = img.mode := by
  unfold fitWidth
  split <;> rfl

/-- What `prepare_page` does when it does not raise. -/
theorem preparePage_ok {diffuse : Image → Nat → Nat → UInt8} {img page : Image}
    {profile : PrinterProfile} {lengthMm : Option ℚ} {tone : ToneMode} {rotate : Bool}
    (prepared : preparePage diffuse img profile lengthMm tone rotate = .ok page) :
    0 ≤ profile.printWidthPx ∧
      ∃ top maxRows, profile.leadRows = .ok top ∧ profile.rowsFor lengthMm = .ok maxRows ∧
        top ≤ pageBottom (turn rotate img).height top maxRows ∧
        page =
          toBilevel diffuse
            (cropRows (fitWidth (turn rotate img) profile.printWidthPx.toNat) top
              (pageBottom (turn rotate img).height top maxRows))
            tone := by
  cases lead : profile.leadRows with
  | error exc =>
      simp only [preparePage, lead, bind, Except.bind, throw, throwThe,
        MonadExceptOf.throw] at prepared
      split_ifs at prepared
  | ok top =>
  cases clipped : profile.rowsFor lengthMm with
  | error exc =>
      simp only [preparePage, lead, clipped, bind, Except.bind, throw, throwThe,
        MonadExceptOf.throw] at prepared
      split_ifs at prepared
  | ok maxRows =>
      have same : (turn rotate img).height =
          (fitWidth (turn rotate img) profile.printWidthPx.toNat).height :=
        (fitWidth_height _ _).symm
      rw [same]
      cases rotate <;> cases maxRows <;>
        simp only [preparePage, lead, clipped, bind, Except.bind, pure, Except.pure, throw,
          throwThe, MonadExceptOf.throw, if_true, if_false, reduceCtorEq] at prepared <;>
        split_ifs at prepared with negative short low
      all_goals
        exact ⟨by omega, _, _, rfl, rfl, not_lt.mp low, (Except.ok.inj prepared).symm⟩

/-- A pixel of the turned image is the one that landed there. -/
theorem landing_exists_iff (rotate : Bool) (img : Image) (column row : Nat)
    (holds : UInt8 → Prop) :
    (∃ px < img.width, ∃ py < img.height,
        landing rotate img.width px py = (column, row) ∧ holds (img.pixel px py)) ↔
      column < (turn rotate img).width ∧ row < (turn rotate img).height ∧
        holds ((turn rotate img).pixel column row) := by
  cases rotate with
  | false =>
      simp only [landing, turn, Bool.false_eq_true, if_false, Prod.mk.injEq]
      constructor
      · rintro ⟨px, inRow, py, inPage, ⟨rfl, rfl⟩, held⟩
        exact ⟨inRow, inPage, held⟩
      · rintro ⟨inRow, inPage, held⟩
        exact ⟨column, inRow, row, inPage, ⟨rfl, rfl⟩, held⟩
  | true =>
      simp only [landing, turn, if_true, Prod.mk.injEq]
      constructor
      · rintro ⟨px, inRow, py, inPage, ⟨rfl, rfl⟩, held⟩
        refine ⟨inPage, ?_, ?_⟩
        · change img.width - 1 - px < img.width
          omega
        · change holds (img.pixel (img.width - 1 - (img.width - 1 - px)) py)
          rwa [Nat.sub_sub_self (by omega)]
      · rintro ⟨inPage, inRow, held⟩
        change row < img.width at inRow
        refine ⟨img.width - 1 - row, by omega, column, inPage, ⟨rfl, by omega⟩, held⟩

/-- A row above the turned image is black, every other pixel of a prepared page shows the turned
image or is white. -/
theorem prepared_black {img : Image} {width : Nat} {lead bottom : Int} {x y : Nat}
    {holds : UInt8 → Prop} (zero : holds 0) (white : ¬holds 255) (onHead : x < width)
    (below : (y : Int) + lead < img.height) :
    holds ((cropRows (fitWidth img width) lead bottom).pixel x y) ↔
      (y : Int) + lead < 0 ∨
        ∃ column row : Nat, column + (width - img.width) / 2 = x ∧ (row : Int) = y + lead ∧
          column < img.width ∧ row < img.height ∧ holds (img.pixel column row) := by
  simp only [cropRows, fitWidth_height]
  by_cases above : (y : Int) + lead < 0
  · have outside : ¬(0 ≤ (y : Int) + lead ∧ (y : Int) + lead < img.height) := by omega
    simp only [outside, if_false, above, zero, true_or]
  · have inside : 0 ≤ (y : Int) + lead ∧ (y : Int) + lead < img.height := by omega
    simp only [inside, and_self, if_true, above, false_or, fitWidth_pixel onHead]
    have row : (((y : Int) + lead).toNat : Int) = y + lead := Int.toNat_of_nonneg inside.1
    by_cases reached : (width - img.width) / 2 ≤ x ∧ x - (width - img.width) / 2 < img.width
    · simp only [reached, and_self, if_true]
      constructor
      · intro held
        exact ⟨_, _, Nat.sub_add_cancel reached.1, row, reached.2, by omega, held⟩
      · rintro ⟨column, row', rfl, same, inRow, inPage, held⟩
        have same' : ((y : Int) + lead).toNat = row' := by omega
        rwa [Nat.add_sub_cancel, same']
    · simp only [reached, if_false, white, false_iff]
      rintro ⟨column, row', rfl, same, inRow, inPage, held⟩
      omega

/-! ## What is printed -/

namespace PageBuffer

/-- A pixel of the client becomes black at a place of the output. -/
def Inks (page : PageBuffer) (tone : ToneMode) (px py x y : Nat) : Prop :=
  match page.bits with
  | .one => (page.data.getD (py * page.rowBytes + px / 8) 0).toNat / 2 ^ (7 - px % 8) % 2 = 1
  | .eight =>
      match tone with
      | .threshold => (page.data.getD (py * page.rowBytes + px) 0).toNat < 128
      | .ordered => (page.data.getD (py * page.rowBytes + px) 0).toNat ≤ 4 * bayerRank x y + 2
      | .diffusion => False

/-- The width of the turned page. -/
def turnedWidth (page : PageBuffer) (rotate : Bool) : Nat :=
  if rotate then page.rows else page.width

/-- Its height. -/
def turnedHeight (page : PageBuffer) (rotate : Bool) : Nat :=
  if rotate then page.width else page.rows

/-- The client's pixel for a place of the output exists and becomes black there. -/
def PrintsAt (page : PageBuffer) (rotate : Bool) (tone : ToneMode) (width : Nat) (lead : Int)
    (x y : Nat) : Prop :=
  ∃ px < page.width, ∃ py < page.rows,
    (landing rotate page.width px py).1 + (width - page.turnedWidth rotate) / 2 = x ∧
      ((landing rotate page.width px py).2 : Int) = y + lead ∧ page.Inks tone px py x y

theorem inks_iff (page : PageBuffer) (tone : ToneMode) (px py x y : Nat) :
    page.Inks tone px py x y ↔ Blackens page.image.mode tone x y (page.image.pixel px py) := by
  cases bits : page.bits with
  | one => simp [Inks, Blackens, image, bits]
  | eight => cases tone <;> simp [Inks, Blackens, image, bits]

theorem turn_width (page : PageBuffer) (rotate : Bool) :
    (turn rotate page.image).width = page.turnedWidth rotate := by
  cases rotate <;> rfl

theorem turn_height (page : PageBuffer) (rotate : Bool) :
    (turn rotate page.image).height = page.turnedHeight rotate := by
  cases rotate <;> rfl

theorem turn_mode (page : PageBuffer) (rotate : Bool) :
    (turn rotate page.image).mode = page.image.mode := by
  cases rotate <;> rfl

theorem printsAt_iff (page : PageBuffer) (rotate : Bool) (tone : ToneMode) (width : Nat)
    (lead : Int) (x y : Nat) :
    page.PrintsAt rotate tone width lead x y ↔
      ∃ column row : Nat, column + (width - (turn rotate page.image).width) / 2 = x ∧
        (row : Int) = y + lead ∧ column < (turn rotate page.image).width ∧
          row < (turn rotate page.image).height ∧
            Blackens page.image.mode tone x y ((turn rotate page.image).pixel column row) := by
  rw [turn_width]
  constructor
  · rintro ⟨px, inRow, py, inPage, placed, level, inked⟩
    have landed := (landing_exists_iff rotate page.image _ _ _).mp
      ⟨px, inRow, py, inPage, rfl, (page.inks_iff tone px py x y).mp inked⟩
    rw [turn_width] at landed
    exact ⟨_, _, placed, level, landed⟩
  · rintro ⟨column, row, placed, level, shown⟩
    rw [← turn_width] at shown
    obtain ⟨px, inRow, py, inPage, landed, black⟩ :=
      (landing_exists_iff rotate page.image column row _).mpr shown
    have landed : landing rotate page.width px py = (column, row) := landed
    refine ⟨px, inRow, py, inPage, ?_, ?_, (page.inks_iff tone px py x y).mpr black⟩
    · rw [landed]
      exact placed
    · rw [landed]
      exact level

/-- The bit of the bitmap for a pixel of the prepared page. -/
def bitAt (width : Nat) (bitmap : Bytes) (x y : Nat) : Nat :=
  (bitmap.getD (y * width / 8 + x / 8) 0).toNat / 2 ^ (7 - x % 8) % 2

/-- A prepared page is as wide as the head and ends with the page or the sheet.  A bit of its
bitmap is set exactly if the client's pixel that belongs there exists and becomes black, or if the
lead is negative and the row lies above the page. -/
theorem preparePage_prints (diffuse : Image → Nat → Nat → UInt8) (buffer : PageBuffer)
    (profile : PrinterProfile) (lengthMm : Option ℚ) (tone : ToneMode) (rotate : Bool)
    (pointwise : buffer.bits = .eight → tone ≠ .diffusion) {page : Image}
    (prepared : preparePage diffuse buffer.image profile lengthMm tone rotate = .ok page) :
    (page.width : Int) = profile.printWidthPx ∧
      ∃ lead maxRows, profile.leadRows = .ok lead ∧ profile.rowsFor lengthMm = .ok maxRows ∧
        ((page.height : Int) =
          match maxRows with
          | none => buffer.turnedHeight rotate - lead
          | some rows => min (buffer.turnedHeight rotate : Int) (lead + rows) - lead) ∧
        ∃ bitmap, imageToBitmap page = .ok bitmap ∧
          ∀ x < page.width, ∀ y < page.height,
            bitAt page.width bitmap x y = 1 ↔
              (y : Int) + lead < 0 ∨ buffer.PrintsAt rotate tone page.width lead x y := by
  have shape := preparePage_shape prepared
  have tones : Pointwise buffer.image.mode tone := by
    intro gray
    cases bits : buffer.bits with
    | one => simp [image, bits] at gray
    | eight => exact pointwise bits
  obtain ⟨nonneg, lead, maxRows, led, clipped, notLow, made⟩ := preparePage_ok prepared
  have width : (page.width : Int) = profile.printWidthPx := by
    rw [shape.2, Int.toNat_of_nonneg nonneg]
  have height : (page.height : Int) =
      pageBottom (turn rotate buffer.image).height lead maxRows - lead := by
    rw [made, toBilevel_height]
    change ((_ - lead).toNat : Int) = _
    rw [Int.toNat_of_nonneg (by omega)]
  have above : pageBottom (turn rotate buffer.image).height lead maxRows ≤
      (turn rotate buffer.image).height := by
    cases maxRows with
    | none => exact le_rfl
    | some rows => exact min_le_left _ _
  refine ⟨width, lead, maxRows, led, clipped, ?_, ?_⟩
  · rw [height, turn_height]
    cases maxRows <;> rfl
  · have aligned : page.width % 8 = 0 := by
      have := profile.width_aligned
      omega
    obtain ⟨bitmap, packed⟩ : ∃ bitmap, imageToBitmap page = .ok bitmap := by
      simp [imageToBitmap, shape.1, aligned]
    refine ⟨bitmap, packed, fun x inRow y inPage => ?_⟩
    refine (imageToBitmap_bit packed inRow inPage).trans ?_
    have below : (y : Int) + lead < (turn rotate buffer.image).height := by omega
    have onHead : x < profile.printWidthPx.toNat := by omega
    have mode : (cropRows (fitWidth (turn rotate buffer.image) profile.printWidthPx.toNat)
        lead (pageBottom (turn rotate buffer.image).height lead maxRows)).mode =
          buffer.image.mode := (fitWidth_mode _ _).trans (turn_mode _ _)
    rw [printsAt_iff, shape.2]
    conv_lhs => rw [made]
    rw [toBilevel_black (by rwa [mode]), mode]
    exact prepared_black (blackens_zero tones x y) (not_blackens_white _ _ x y) onHead below

/-- A gray page of two columns. -/
def columns : PageBuffer where
  width := 2
  lengthRows := 8
  bits := .eight
  tone := .ordered
  density := .medium
  mediaLengthMm := none
  rotate := true
  rows := 8
  data := [0, 255, 40, 200, 80, 160, 120, 120, 160, 80, 200, 40, 240, 20, 255, 0]
  width_pos := by decide
  lengthRows_pos := by decide
  width_aligned := by decide
  rows_le := by decide
  data_length := by decide

/-- A white page of one row. -/
def whiteRow : PageBuffer where
  width := 8
  lengthRows := 1
  bits := .one
  tone := .threshold
  density := .medium
  mediaLengthMm := none
  rotate := false
  rows := 1
  data := [0]
  width_pos := by decide
  lengthRows_pos := by decide
  width_aligned := by decide
  rows_le := by decide
  data_length := by decide

/-- The columns turned and printed with the ordered pattern. -/
theorem preparePage_prints_columns :
    ∃ page lead bitmap,
      preparePage (fun _ _ _ => 0) columns.image strip none .ordered true = .ok page ∧
        strip.leadRows = .ok lead ∧ (page.height : Int) = 2 - lead ∧
        imageToBitmap page = .ok bitmap ∧
          ∀ x < page.width, ∀ y < page.height,
            bitAt page.width bitmap x y = 1 ↔
              (y : Int) + lead < 0 ∨ columns.PrintsAt true .ordered page.width lead x y := by
  cases prepared : preparePage (fun _ _ _ => 0) columns.image strip none .ordered true with
  | error exc =>
      have succeeds :
          (preparePage (fun _ _ _ => 0) columns.image strip none .ordered true).toBool := by
        decide +kernel
      rw [prepared] at succeeds
      cases succeeds
  | ok page =>
      obtain ⟨-, lead, maxRows, led, clipped, height, bitmap, packed, bits⟩ :=
        preparePage_prints _ columns strip none .ordered true (by decide) prepared
      obtain rfl : none = maxRows := Except.ok.inj clipped
      exact ⟨page, lead, bitmap, rfl, led, height, packed, bits⟩

/-- The strip with a negative top margin. -/
def raisedStrip : PrinterProfile :=
  { strip with
    topMarginMm := -1
    sheet_printable := by simp [strip] }

/-- With a top margin of minus one millimetre a white page gets black rows at its start. -/
theorem preparePage_blackens_margin :
    ¬∀ page lead bitmap,
      preparePage (fun _ _ _ => 0) whiteRow.image raisedStrip none .threshold false = .ok page →
        raisedStrip.leadRows = .ok lead → imageToBitmap page = .ok bitmap →
          ∀ x < page.width, ∀ y < page.height,
            bitAt page.width bitmap x y = 1 ↔
              whiteRow.PrintsAt false .threshold page.width lead x y := by
  intro printed
  have size : (preparePage (fun _ _ _ => 0) whiteRow.image raisedStrip none .threshold false).map
      (fun page => (page.width, page.height)) = .ok (8, 9) := by
    decide +kernel
  have bits : (preparePage (fun _ _ _ => 0) whiteRow.image raisedStrip none .threshold false).bind
      imageToBitmap = .ok (List.replicate 8 255 ++ [0]) := by
    decide +kernel
  cases prepared :
    preparePage (fun _ _ _ => 0) whiteRow.image raisedStrip none .threshold false with
  | error exc =>
      rw [prepared] at size
      cases size
  | ok page =>
      rw [prepared] at size bits
      obtain ⟨width, height⟩ := Prod.mk.inj (Except.ok.inj size)
      have lead : raisedStrip.leadRows = .ok (-8) := by decide +kernel
      have first := (printed page _ _ prepared lead bits 0 (by omega) 0 (by omega)).mp
        (by rw [width]; decide)
      obtain ⟨px, -, py, -, -, level, -⟩ := first
      omega

end PageBuffer

end Phomemo
