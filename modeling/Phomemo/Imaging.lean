import Mathlib.Data.List.Basic
import Phomemo.Registry

/-!
# Page preparation

`preparePage` maps a client raster onto the printable area and `imageToBitmap` packs it for the
head.  Error diffusion is Pillow's and enters as a parameter.
-/

namespace Phomemo

/-- Pixel formats: 8-bit gray, or one bit a pixel. -/
inductive ImageMode where
  | gray
  | bilevel
  deriving DecidableEq, Repr

/-- An image; pixels outside its size carry no meaning.  A bilevel pixel is 0 or 255. -/
structure Image where
  mode : ImageMode
  width : Nat
  height : Nat
  pixel : Nat → Nat → UInt8

/-- A white page of that size. -/
def blankRaster (width height : Nat) : Image where
  mode := .gray
  width
  height
  pixel := fun _ _ => 255

/-- How 8-bit gray becomes the head's 1-bit output. -/
inductive ToneMode where
  | threshold
  | ordered
  | diffusion
  deriving DecidableEq, Repr

/-- The threshold ranks of the 8x8 tile. -/
def bayer8 : List (List Nat) :=
  [[0, 32, 8, 40, 2, 34, 10, 42],
    [48, 16, 56, 24, 50, 18, 58, 26],
    [12, 44, 4, 36, 14, 46, 6, 38],
    [60, 28, 52, 20, 62, 30, 54, 22],
    [3, 35, 11, 43, 1, 33, 9, 41],
    [51, 19, 59, 27, 49, 17, 57, 25],
    [15, 47, 7, 39, 13, 45, 5, 37],
    [63, 31, 55, 23, 61, 29, 53, 21]]

/-- The rank of the tile cell under a pixel. -/
def bayerRank (x y : Nat) : Nat :=
  ((bayer8.getD (y % 8) []).getD (x % 8) 0)

/-- `int((rank + 0.5) * 4)`. -/
def bayerLevel (x y : Nat) : Nat := 4 * bayerRank x y + 2

/-- White where the condition holds, black elsewhere. -/
def whiteWhere (condition : Bool) : UInt8 := if condition then 255 else 0

/-- Convert a gray image to one bit a pixel; `diffuse` is Pillow's Floyd-Steinberg conversion. -/
def applyTone (diffuse : Image → Nat → Nat → UInt8) (img : Image) (tone : ToneMode) : Image :=
  { img with
    mode := .bilevel
    pixel :=
      match tone with
      | .threshold => fun x y => whiteWhere (128 ≤ (img.pixel x y).toNat)
      | .ordered => fun x y => whiteWhere (bayerLevel x y < (img.pixel x y).toNat)
      | .diffusion => diffuse img }

/-- `transpose(ROTATE_90)`: a quarter turn counter-clockwise. -/
def rotate90 (img : Image) : Image where
  mode := img.mode
  width := img.height
  height := img.width
  pixel := fun x y => img.pixel (img.width - 1 - y) x

/-- Centre a narrower image on the head width, crop a wider one. -/
def fitWidth (img : Image) (width : Nat) : Image :=
  if img.width = width then img
  else
    let shift := (width - img.width) / 2
    { img with
      width := width
      pixel := fun x y =>
        if shift ≤ x ∧ x < shift + min img.width width then img.pixel (x - shift) y else 255 }

/-- `crop((0, top, width, bottom))`; rows outside the image are filled with zero. -/
def cropRows (img : Image) (top bottom : Int) : Image :=
  { img with
    height := (bottom - top).toNat
    pixel := fun x y =>
      let row := y + top
      if 0 ≤ row ∧ row < img.height then img.pixel x row.toNat else 0 }

/-- Gray pages are converted with the tone, bilevel pages keep their pixels. -/
def toBilevel (diffuse : Image → Nat → Nat → UInt8) (img : Image) (tone : ToneMode) : Image :=
  match img.mode with
  | .gray => applyTone diffuse img tone
  | .bilevel => img

/-- Map a client page raster onto the printable area of a sheet. -/
def preparePage (diffuse : Image → Nat → Nat → UInt8) (img : Image) (profile : PrinterProfile)
    (lengthMm : Option ℚ) (tone : ToneMode) (rotate : Bool) : Except PyExc Image := do
  let img := if rotate then rotate90 img else img
  if profile.printWidthPx < 0 then
    throw (.valueError "Width and height must be >= 0")
  let img := fitWidth img profile.printWidthPx.toNat
  let top ← profile.leadRows
  if img.height ≤ top then
    throw (.valueError s!"page of {img.height} rows lies inside the {top}-row unprintable lead")
  let maxRows ← profile.rowsFor lengthMm
  let bottom : Int := match maxRows with
    | none => img.height
    | some rows => min img.height (top + rows)
  if bottom < top then
    throw (.valueError "Coordinate 'lower' is less than 'upper'")
  return toBilevel diffuse (cropRows img top bottom) tone

/-- Pack eight pixels from `x` on into a byte, black as one, leftmost pixel in the high bit. -/
def packByte (img : Image) (x y : Nat) : UInt8 :=
  (List.range 8).foldl
    (fun byte bit => byte * 2 + if img.pixel (x + bit) y = 0 then 1 else 0) 0

/-- Convert a bilevel image to packed bitmap bytes, row by row. -/
def imageToBitmap (img : Image) : Except PyExc Bytes :=
  if img.mode ≠ .bilevel then
    .error (.valueError "Expected mode '1', got 'L'")
  else if img.width % 8 ≠ 0 then
    .error (.valueError s!"Image width must be a multiple of 8, got {img.width}")
  else
    .ok ((List.range img.height).flatMap fun y =>
      (List.range (img.width / 8)).map fun column => packByte img (8 * column) y)

theorem fitWidth_width (img : Image) (width : Nat) : (fitWidth img width).width = width := by
  unfold fitWidth
  split
  · assumption
  · rfl

theorem toBilevel_shape (diffuse : Image → Nat → Nat → UInt8) (img : Image) (tone : ToneMode) :
    (toBilevel diffuse img tone).mode = .bilevel ∧
      (toBilevel diffuse img tone).width = img.width := by
  unfold toBilevel
  split
  · exact ⟨rfl, rfl⟩
  · exact ⟨‹_›, rfl⟩

/-- A prepared page is bilevel and as wide as the head. -/
theorem preparePage_shape {diffuse : Image → Nat → Nat → UInt8} {img page : Image}
    {profile : PrinterProfile} {lengthMm : Option ℚ} {tone : ToneMode} {rotate : Bool}
    (prepared : preparePage diffuse img profile lengthMm tone rotate = .ok page) :
    page.mode = .bilevel ∧ page.width = profile.printWidthPx.toNat := by
  have cropped : ∀ (turned : Image) (top bottom : Int), page =
      toBilevel diffuse (cropRows (fitWidth turned profile.printWidthPx.toNat) top bottom) tone →
      page.mode = .bilevel ∧ page.width = profile.printWidthPx.toNat := by
    rintro turned top bottom rfl
    refine ⟨(toBilevel_shape _ _ _).1, ?_⟩
    rw [(toBilevel_shape _ _ _).2]
    exact fitWidth_width turned _
  simp only [preparePage, bind, Except.bind, pure, Except.pure, throw, throwThe,
    MonadExceptOf.throw] at prepared
  repeat' split at prepared
  all_goals first
    | cases prepared; done
    | exact cropped _ _ _ (Except.ok.inj prepared).symm

/-- Packing gives one byte for eight pixels. -/
theorem imageToBitmap_length {img : Image} {bitmap : Bytes}
    (packed : imageToBitmap img = .ok bitmap) :
    bitmap.length = img.width / 8 * img.height := by
  unfold imageToBitmap at packed
  split at packed
  · simp at packed
  · split at packed
    · simp at packed
    · obtain rfl := Except.ok.inj packed
      simp [List.length_flatMap, Nat.mul_comm]

end Phomemo
