import Phomemo.Imaging

/-!
# The page in progress

Raster lines received so far.  The proofs in `PageBuffer` are what `page_begin` checks and what
`lines` keeps, so a buffer always fills the image it is read as.
-/

namespace Phomemo

/-- The depths `page_begin` accepts. -/
inductive PageBits where
  | one
  | eight
  deriving DecidableEq, Repr

/-- The number of bits. -/
def PageBits.toNat : PageBits → Nat
  | .one => 1
  | .eight => 8

/-- Raster lines received for the page in progress. -/
structure PageBuffer where
  width : Nat
  lengthRows : Nat
  bits : PageBits
  tone : ToneMode
  density : Density
  mediaLengthMm : Option ℚ
  rotate : Bool
  rows : Nat := 0
  data : Bytes := []
  width_pos : 0 < width
  lengthRows_pos : 0 < lengthRows
  width_aligned : bits = .one → width % 8 = 0
  rows_le : rows ≤ lengthRows
  data_length : data.length = rows * (width * bits.toNat / 8)

namespace PageBuffer

/-- Bytes of one row. -/
def rowBytes (page : PageBuffer) : Nat := page.width * page.bits.toNat / 8

/-- Whether every declared row has been received. -/
def Complete (page : PageBuffer) : Prop := page.rows = page.lengthRows

instance : DecidablePred Complete := fun _ => inferInstanceAs (Decidable (_ = _))

/-- Append rows. -/
def addLines (page : PageBuffer) (count : Nat) (payload : Bytes)
    (sized : payload.length = count * page.rowBytes)
    (fits : page.rows + count ≤ page.lengthRows) : PageBuffer :=
  { page with
    rows := page.rows + count
    data := page.data ++ payload
    rows_le := fits
    data_length := by
      rw [List.length_append, page.data_length, sized, rowBytes, ← Nat.add_mul] }

/-- The received rows as an image, 0 = black in both depths. -/
def image (page : PageBuffer) : Image where
  mode := match page.bits with | .one => .bilevel | .eight => .gray
  width := page.width
  height := page.rows
  pixel := fun x y =>
    match page.bits with
    | .eight => page.data.getD (y * page.rowBytes + x) 0
    | .one =>
        let byte := page.data.getD (y * page.rowBytes + x / 8) 0
        if byte.toNat / 2 ^ (7 - x % 8) % 2 = 1 then 0 else 255

end PageBuffer

end Phomemo
