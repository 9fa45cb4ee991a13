import Phomemo.Tiling
import Phomemo.Wire.Paper

/-!
# Gray on paper

The ordered tone compares gray with the thresholds of a tile.  Wherever a gray area of a page lies
on the sheet, its dots are as many as its gray asks for, to within one threshold of the tile.
-/

namespace Phomemo

open Async Tiling

theorem bayerTile_ranks : (window (0, 0) 8 8).image (fun cell => bayerRank cell.1 cell.2) =
    Finset.range (8 * 8) := by
  decide +kernel

/-- The tile of the ordered tone. -/
def bayerTile : ThresholdTile where
  width := 8
  height := 8
  rank := fun cell => bayerRank cell.1 cell.2
  across := fun x y => by simp only [bayerRank, Nat.add_mod_right]
  down := fun x y => by simp only [bayerRank, Nat.add_mod_right]
  ranks := bayerTile_ranks

/-- How many of the 64 cells of a tile a gray value leaves white. -/
def whiteCells (value : Nat) : Nat := (value + 1) / 4

theorem bayerLevel_lt_iff (x y value : Nat) :
    4 * bayerRank x y + 2 < value ↔ bayerTile.rank (x, y) < whiteCells value := by
  change _ ↔ bayerRank x y < (value + 1) / 4
  omega

namespace PageBuffer

/-- A place of the output belongs to a client's pixel of this value. -/
def GrayAt (page : PageBuffer) (rotate : Bool) (width : Nat) (lead : Int) (x y value : Nat) :
    Prop :=
  ∃ px < page.width, ∃ py < page.rows,
    (landing rotate page.width px py).1 + (width - page.turnedWidth rotate) / 2 = x ∧
      ((landing rotate page.width px py).2 : Int) = y + lead ∧
        (page.data.getD (py * page.rowBytes + px) 0).toNat = value

variable {page : PageBuffer} {rotate : Bool} {width x y : Nat} {lead : Int}

/-- The ordered tone blackens the cells whose threshold the gray does not exceed. -/
theorem printsAt_ordered (gray : page.bits = .eight) :
    page.PrintsAt rotate .ordered width lead x y ↔
      ∃ value, page.GrayAt rotate width lead x y value ∧
        whiteCells value ≤ bayerTile.rank (x, y) := by
  have dark : ∀ px py, page.Inks .ordered px py x y ↔
      whiteCells (page.data.getD (py * page.rowBytes + px) 0).toNat ≤ bayerTile.rank (x, y) := by
    intro px py
    rw [← not_lt, ← bayerLevel_lt_iff, not_lt]
    simp only [Inks, gray]
  constructor
  · rintro ⟨px, inRow, py, inPage, placed, level, inked⟩
    exact ⟨_, ⟨px, inRow, py, inPage, placed, level, rfl⟩, (dark px py).mp inked⟩
  · rintro ⟨_, ⟨px, inRow, py, inPage, placed, level, rfl⟩, high⟩
    exact ⟨px, inRow, py, inPage, placed, level, (dark px py).mpr high⟩

end PageBuffer

/-- The cells with a dot. -/
def dots (sheet : Paper) (cells : Finset (Nat × Nat)) : Finset (Nat × Nat) :=
  cells.filter fun cell => Dot sheet cell.1 cell.2

/-- These places of a sheet show pixels of the page, none darker than `low` or lighter than
`high`. -/
def GrayArea (page : PageBuffer) (width : Nat) (lead : Int) (cells : Finset (Nat × Nat))
    (low high : Nat) : Prop :=
  ∀ cell ∈ cells, (∃ value, page.GrayAt page.rotate width lead cell.1 cell.2 value) ∧
    ∀ value, page.GrayAt page.rotate width lead cell.1 cell.2 value → low ≤ value ∧ value ≤ high

/-- The dots of a gray area of whole tiles are as many as its gray asks for. -/
theorem grayArea_card {page : PageBuffer} {width : Nat} {lead : Int} {sheet : Paper}
    {corner : Nat × Nat} {columns rows low high : Nat} (gray : page.bits = .eight)
    (prints : ∀ cell ∈ window corner (columns * 8) (rows * 8),
      Dot sheet cell.1 cell.2 ↔ (cell.2 : Int) + lead < 0 ∨
        page.PrintsAt page.rotate .ordered width lead cell.1 cell.2)
    (area : GrayArea page width lead (window corner (columns * 8) (rows * 8)) low high)
    (ordered : low ≤ high) (byte : high ≤ 255) :
    columns * (rows * (64 - whiteCells high)) ≤
        (dots sheet (window corner (columns * 8) (rows * 8))).card ∧
      (dots sheet (window corner (columns * 8) (rows * 8))).card ≤
        columns * (rows * (64 - whiteCells low)) := by
  set cells := window corner (columns * 8) (rows * 8)
  have dark : ∀ cell ∈ cells, Dot sheet cell.1 cell.2 ↔
      ∃ value, page.GrayAt page.rotate width lead cell.1 cell.2 value ∧
        whiteCells value ≤ bayerTile.rank cell := by
    intro cell member
    obtain ⟨value, px, -, py, -, -, level, -⟩ := (area cell member).1
    have onPage : ¬(cell.2 : Int) + lead < 0 := by
      rw [← level]
      exact not_lt.mpr (Int.natCast_nonneg _)
    rw [prints cell member, PageBuffer.printsAt_ordered gray]
    simp only [onPage, false_or]
  have counted := @ThresholdTile.card_light bayerTile corner columns rows (whiteCells low)
    (whiteCells high) (cells.filter fun cell => ¬Dot sheet cell.1 cell.2)
    (Finset.filter_subset _ _) ?_ ?_ ?_ ?_
  · have total : (dots sheet cells).card +
        (cells.filter fun cell => ¬Dot sheet cell.1 cell.2).card = columns * (rows * 64) := by
      rw [dots, Finset.card_filter_add_card_filter_not, ThresholdTile.card_window]
      ring
    rw [Nat.mul_sub, Nat.mul_sub, Nat.mul_sub, Nat.mul_sub]
    omega
  · intro cell member floor
    refine Finset.mem_filter.mpr ⟨member, fun dot => ?_⟩
    obtain ⟨value, shown, high⟩ := (dark cell member).mp dot
    have bounds := (area cell member).2 value shown
    unfold whiteCells at floor high
    omega
  · intro cell member
    obtain ⟨inside, light⟩ := Finset.mem_filter.mp member
    obtain ⟨value, shown⟩ := (area cell inside).1
    have bounds := (area cell inside).2 value shown
    have below : ¬whiteCells value ≤ bayerTile.rank cell :=
      fun high => light ((dark cell inside).mpr ⟨value, shown, high⟩)
    unfold whiteCells at below ⊢
    omega
  · unfold whiteCells
    omega
  · change whiteCells high ≤ 64
    unfold whiteCells
    omega

/-- The sheet that a successful `page_end` puts on the paper keeps the tone of the client's page:
in every window of whole 8x8 tiles, wherever it lies on the sheet, whose pixels are between two
gray values, the dots are between those that the values ask for. -/
theorem pageEnd_tones (env : Env) (usable : env.Usable) (w : World)
    (fresh : ∀ p, (w.printers p).Usable) (moves : List Session.Move) (script later : List Tick)
    (past trace : List TraceEvent) (final after : World) (unread unused : List Tick)
    (result : Result)
    (ran : Session.runMoves env moves w script = ⟨past, .returned () final unread⟩)
    (ended : Session.runCommand env .pageEnd final later =
      ⟨trace, .returned (.ok result) after unused⟩)
    (orderly : ∀ event ∈ past ++ trace, Orderly event) :
    ∃ page p image inputs earlier sheet blank,
      final.session.page = some page ∧ final.bridge.printer = some p ∧
      preparePage env.diffuse page.image (final.printers p).profile page.mediaLengthMm page.tone
        page.rotate = .ok image ∧
      PrinterInput.parse (lineTo p (past ++ trace)).bytes = some inputs ∧
      paperOf inputs = earlier ++ sheet ++ blank ∧ Shows image sheet ∧ Blank blank ∧
      ∃ lead, (final.printers p).profile.leadRows = .ok lead ∧
      (page.bits = .eight → page.tone = .ordered →
        ∀ corner columns rows low high, low ≤ high → high ≤ 255 →
          corner.1 + columns * 8 ≤ image.width → corner.2 + rows * 8 ≤ image.height →
          GrayArea page image.width lead (window corner (columns * 8) (rows * 8)) low high →
          columns * (rows * (64 - whiteCells high)) ≤
              (dots sheet (window corner (columns * 8) (rows * 8))).card ∧
            (dots sheet (window corner (columns * 8) (rows * 8))).card ≤
              columns * (rows * (64 - whiteCells low))) := by
  obtain ⟨page, p, image, inputs, before, sheet, blank, inProgress, held, prepared, parsed, paper,
    shows, blanks⟩ := pageEnd_shows usable fresh ran ended orderly
  obtain ⟨-, lead, -, led, -⟩ := preparePage_ok prepared
  refine ⟨page, p, image, inputs, before, sheet, blank, inProgress, held, prepared, parsed, paper,
    shows, blanks, lead, led, fun gray tone corner columns rows low high ordered byte wide tall
      area => ?_⟩
  apply grayArea_card gray _ area ordered byte
  intro cell member
  obtain ⟨across, down⟩ := Finset.mem_product.mp member
  have inRow := (Finset.mem_Ico.mp across).2.trans_le wide
  have inPage := (Finset.mem_Ico.mp down).2.trans_le tall
  have pointwise : page.bits = .eight → page.tone ≠ .diffusion := by
    intro _
    rw [tone]
    decide
  rw [← tone]
  exact shows.prints pointwise prepared led cell.1 inRow cell.2 inPage

theorem grayTile_aligned : PageBits.eight = .one → 8 % 8 = 0 := fun _ => rfl

theorem grayTile_fits : 0 ≤ 8 := Nat.zero_le 8

theorem grayTile_length : ([] : Bytes).length = 0 * (8 * PageBits.eight.toNat / 8) := rfl

/-- A gray page of one tile, of which nothing has come yet. -/
def grayTile : PageBuffer where
  width := 8
  lengthRows := 8
  bits := .eight
  tone := .ordered
  density := .medium
  mediaLengthMm := none
  rotate := false
  width_pos := eightDots_pos
  lengthRows_pos := eightDots_pos
  width_aligned := grayTile_aligned
  rows_le := grayTile_fits
  data_length := grayTile_length

/-- A session opens the bridge and sends the page, which is of one gray. -/
def graySent : Run PyExc World Tick TraceEvent Unit :=
  Session.runMoves stripEnv
    [.begins, .command (.open none none), .command (.pageBegin (.ok grayTile)),
      .command (.lines (.ok 8) (List.replicate 64 128))] freshWorld sendingAnswers

/-- The `page_end` after it. -/
def grayPrinted : Run PyExc World Tick TraceEvent Reply :=
  Session.runCommand stripEnv .pageEnd graySent.ending.state printingAnswers

/-- The page that was sent, and the printer that is linked. -/
theorem graySent_state :
    graySent.ending.state.session.page.map (fun page => (page.width, page.rows, page.data)) =
      some (8, 8, List.replicate (8 * 8) 128) ∧
    graySent.ending.state.session.page.map (fun page => (page.bits, page.tone, page.rotate)) =
      some (.eight, .ordered, false) ∧
    graySent.ending.state.session.page.map PageBuffer.mediaLengthMm = some none ∧
    graySent.ending.state.bridge.printer = some 0 ∧
    (graySent.ending.state.printers 0).profile.printWidthPx = 8 ∧
    (graySent.ending.state.printers 0).profile.leadRows = .ok 0 := by
  decide +kernel

/-- A page of one gray leaves the places of its dots gray all over. -/
theorem grayArea_uniform {page : PageBuffer} {value : UInt8} {columns rows : Nat}
    (gray : page.bits = .eight) (upright : page.rotate = false)
    (filled : page.data = List.replicate (page.rows * page.width) value)
    (wide : columns * 8 = page.width) (tall : rows * 8 ≤ page.rows) :
    GrayArea page page.width 0 (window (0, 0) (columns * 8) (rows * 8)) value.toNat
      value.toNat := by
  have width : page.rowBytes = page.width := by
    rw [PageBuffer.rowBytes, gray]
    exact Nat.mul_div_cancel _ (by decide)
  have shade : ∀ px < page.width, ∀ py < page.rows,
      page.data.getD (py * page.rowBytes + px) 0 = value := by
    intro px inRow py inPage
    have inside : py * page.width + px < page.rows * page.width :=
      calc py * page.width + px < py * page.width + page.width := Nat.add_lt_add_left inRow _
        _ = (py + 1) * page.width := (Nat.succ_mul _ _).symm
        _ ≤ page.rows * page.width := Nat.mul_le_mul_right _ inPage
    rw [width, filled, List.getD_eq_getElem _ _ (by rwa [List.length_replicate]),
      List.getElem_replicate]
  rintro ⟨x, y⟩ member
  obtain ⟨across, down⟩ := Finset.mem_product.mp member
  have inRow : x < 0 + columns * 8 := (Finset.mem_Ico.mp across).2
  have inPage : y < 0 + rows * 8 := (Finset.mem_Ico.mp down).2
  constructor
  · refine ⟨_, x, by omega, y, by omega, ?_, ?_, rfl⟩
    · simp [upright, landing, PageBuffer.turnedWidth]
    · simp [upright, landing]
  · rintro _ ⟨px, inRow, py, inPage, -, -, rfl⟩
    rw [shade px inRow py inPage]
    exact ⟨le_rfl, le_rfl⟩

theorem pageEnd_tones_grayTile :
    ∃ p inputs earlier sheet blank,
      PrinterInput.parse (lineTo p (graySent.trace ++ grayPrinted.trace)).bytes = some inputs ∧
      paperOf inputs = earlier ++ sheet ++ blank ∧
      (dots sheet (window (0, 0) 8 8)).card = 32 := by
  have orderly : ∀ event ∈ graySent.trace ++ grayPrinted.trace, Orderly event := by
    decide +kernel
  obtain ⟨sent, asked, media, linked, head, lead⟩ := graySent_state
  obtain ⟨past, value, final, unread, ran⟩ :=
    @Run.exists_of_hasReturned _ _ _ _ _ graySent (by decide +kernel)
  obtain ⟨trace, result, after, unused, ended⟩ :=
    @exists_of_isAnswered grayPrinted (by decide +kernel)
  have printed : Session.runCommand stripEnv .pageEnd final printingAnswers =
      ⟨trace, .returned (.ok result) after unused⟩ := by
    rw [← ended, grayPrinted, ran]
    rfl
  have reached : graySent.ending.state = final := by
    rw [ran]
    rfl
  rw [reached] at sent asked media linked head lead
  rw [ran, ended] at orderly ⊢
  obtain ⟨page, p, image, inputs, earlier, sheet, blank, inProgress, holds, prepared, parsed, paper,
      -, -, top, led, tones⟩ :=
    pageEnd_tones stripEnv stripEnv_usable freshWorld freshWorld_usable _ sendingAnswers
      printingAnswers past trace final after unread unused result ran printed orderly
  obtain rfl : p = 0 := Option.some.inj (holds.symm.trans linked)
  obtain rfl : 0 = top := Except.ok.inj (lead.symm.trans led)
  rw [inProgress] at sent asked media
  simp only [Option.map_some, Option.some.injEq, Prod.mk.injEq] at sent asked media
  obtain ⟨width, rows, data⟩ := sent
  obtain ⟨gray, tone, upright⟩ := asked
  have pointwise : page.bits = .eight → page.tone ≠ .diffusion := by
    intro _
    rw [tone]
    decide
  obtain ⟨wide, top, maxRows, led', clipped, tall, -⟩ :=
    PageBuffer.preparePage_prints stripEnv.diffuse page _ _ _ _ pointwise prepared
  rw [media] at clipped
  obtain rfl : none = maxRows := Except.ok.inj clipped
  obtain rfl : 0 = top := Except.ok.inj (led.symm.trans led')
  rw [head] at wide
  have height : (image.height : Int) = 8 := by
    rw [tall, PageBuffer.turnedHeight, upright, rows]
    rfl
  have area := @grayArea_uniform page 128 1 1 gray upright (by rw [data, rows, width]) width.symm
    rows.ge
  have columns : image.width = page.width := by omega
  have counted := tones gray tone (0, 0) 1 1 128 128 le_rfl (by decide)
    (by change 0 + 8 ≤ image.width; omega) (by change 0 + 8 ≤ image.height; omega)
    (by rw [columns]; exact area)
  exact ⟨0, inputs, earlier, sheet, blank, parsed, paper, le_antisymm counted.2 counted.1⟩

end Phomemo
