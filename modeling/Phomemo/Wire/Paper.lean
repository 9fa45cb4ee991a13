import Phomemo.PageBitmap
import Phomemo.Wire.Runs

/-!
# Dots on paper

A printer lays the rows of a raster command on the paper one below the other, and a fed line is a
row without dots.  When `page_end` has printed a page, what the printer has read since it was dialed
leaves on the paper a sheet that shows the prepared page dot by dot, and after it only blank rows.
-/

namespace Phomemo

open Async Coroutine

/-! ## Paper -/

/-- Paper that has passed the print head: for each row the bytes that were laid down, or none. -/
abbrev Paper := List Bytes

/-- The rows of raster data. -/
def rasterRows (width : Nat) : Nat → Bytes → Paper
  | 0, _ => []
  | rows + 1, data => data.take width :: rasterRows width rows (data.drop width)

/-- The rows a command takes on the paper. -/
def PrinterCommand.rows : PrinterCommand → Paper
  | .raster _ width rows data => rasterRows width rows data
  | .feed lines => List.replicate lines.toNat []
  | _ => []

def PrinterInput.rows : PrinterInput → Paper
  | .command sent => sent.rows
  | _ => []

/-- The paper of a printer that has read these. -/
def paperOf (inputs : List PrinterInput) : Paper := inputs.flatMap PrinterInput.rows

/-- Row `y` has a dot in column `x`. -/
def Dot (paper : Paper) (x y : Nat) : Prop :=
  ((paper.getD y []).getD (x / 8) 0).toNat / 2 ^ (7 - x % 8) % 2 = 1

instance (paper : Paper) (x y : Nat) : Decidable (Dot paper x y) := Nat.decEq _ _

/-- Rows without dots. -/
def Blank (paper : Paper) : Prop := ∀ row ∈ paper, row = []

theorem blank_nil : Blank [] := fun _ member => absurd member List.not_mem_nil

theorem Blank.append {first second : Paper} (earlier : Blank first) (later : Blank second) :
    Blank (first ++ second) := fun row member => (List.mem_append.mp member).elim (earlier row)
  (later row)

theorem blank_flatMap {α : Type} {rows : α → Paper} {parts : List α}
    (blank : ∀ part ∈ parts, Blank (rows part)) : Blank (parts.flatMap rows) := by
  intro row member
  obtain ⟨part, present, within⟩ := List.mem_flatMap.mp member
  exact blank part present row within

theorem rasterRows_length (width rows : Nat) (data : Bytes) :
    (rasterRows width rows data).length = rows := by
  induction rows generalizing data with
  | zero => rfl
  | succ rows ih => rw [rasterRows, List.length_cons, ih]

/-- Blocks of rows are laid down as the rows of all of them. -/
theorem rasterRows_append {width rows : Nat} {data : Bytes} (size : data.length = width * rows)
    (more : Nat) (rest : Bytes) :
    rasterRows width (rows + more) (data ++ rest) =
      rasterRows width rows data ++ rasterRows width more rest := by
  induction rows generalizing data with
  | zero =>
      obtain rfl := List.eq_nil_of_length_eq_zero size
      rw [Nat.zero_add]
      rfl
  | succ rows ih =>
      have enough : width ≤ data.length := by
        rw [size]
        exact Nat.le_mul_of_pos_right width rows.succ_pos
      have left : (data.drop width).length = width * rows := by
        rw [List.length_drop, size, Nat.mul_succ, Nat.add_sub_cancel]
      rw [Nat.succ_add, rasterRows, rasterRows, List.take_append_of_le_length enough,
        List.drop_append_of_le_length enough, ih left]
      rfl

theorem rasterRows_getD {width rows y : Nat} (inside : y < rows) (data : Bytes) :
    (rasterRows width rows data).getD y [] = (data.drop (y * width)).take width := by
  induction rows generalizing data y with
  | zero => exact absurd inside (Nat.not_lt_zero y)
  | succ rows ih =>
      cases y with
      | zero =>
          rw [Nat.zero_mul]
          rfl
      | succ y =>
          rw [rasterRows, List.getD_cons_succ, ih (Nat.succ_lt_succ_iff.mp inside),
            List.drop_drop, Nat.succ_mul, Nat.add_comm]

/-- The blocks of a page cover its bitmap row by row. -/
theorem flatMap_block_rows {width : Nat} (mode : ScaleMode) {blocks : List Block}
    (sized : ∀ block ∈ blocks, block.Sized width) :
    (blocks.map (Block.command width mode)).flatMap PrinterCommand.rows =
      rasterRows width (blocks.map Block.rows).sum (blocks.flatMap Block.data) := by
  induction blocks with
  | nil => rfl
  | cons block blocks ih =>
      obtain ⟨first, others⟩ := List.forall_mem_cons.mp sized
      rw [List.map_cons, List.flatMap_cons, ih others, List.map_cons, List.sum_cons,
        List.flatMap_cons, rasterRows_append first]
      rfl

theorem PrinterInput.Brief.blank {input : PrinterInput} (brief : input.Brief) :
    Blank input.rows := by
  cases input with
  | command sent =>
      cases sent with
      | reset => exact blank_nil
      | feed lines => exact fun row member => (List.mem_replicate.mp member).2
      | density value => cases brief
      | raster mode widthBytes rows data => cases brief
  | query asked => exact blank_nil
  | autoOff value => exact blank_nil

/-! ## A page on the paper -/

theorem densityCommands_rows (profile : PrinterProfile) (density : Option Density) :
    (densityCommands profile density).flatMap PrinterCommand.rows = [] := by
  unfold densityCommands
  rw [List.flatMap_map]
  exact List.flatMap_eq_nil_iff.mpr fun _ _ => rfl

theorem feedCommands_blank (feedLines : Int) :
    Blank ((feedCommands feedLines).flatMap PrinterCommand.rows) := by
  unfold feedCommands
  split
  · exact blank_flatMap fun command member =>
      List.mem_singleton.mp member ▸ fun row fed => (List.mem_replicate.mp fed).2
  · exact blank_nil

theorem Cut.size {profile : PrinterProfile} {rows : Nat} {bitmap : Bytes} {blocks : List Block}
    (cut : Cut profile rows bitmap blocks) :
    bitmap.length = profile.widthBytes.toNat * rows := by
  obtain ⟨-, -, sized, rfl, rfl⟩ := cut
  induction blocks with
  | nil => rfl
  | cons block blocks ih =>
      obtain ⟨first, others⟩ := List.forall_mem_cons.mp sized
      rw [List.flatMap_cons, List.length_append, ih others, first, List.map_cons, List.sum_cons,
        Nat.mul_add]

/-- A whole page is laid down as the rows of its bitmap, and after them blank ones. -/
theorem WholePage.rows {call : PrintCall} {page : List PrinterCommand}
    (whole : WholePage call page) :
    call.bitmap.length = call.widthBytes.toNat * call.height ∧
      ∃ blank, Blank blank ∧ page.flatMap PrinterCommand.rows =
        rasterRows call.widthBytes.toNat call.height call.bitmap ++ blank := by
  obtain @⟨profile, level, blocks, width, cut⟩ := whole
  rw [← width]
  refine ⟨cut.size, _, feedCommands_blank 20, ?_⟩
  rw [List.flatMap_append, List.cons_append, List.flatMap_cons, List.flatMap_append,
    densityCommands_rows, flatMap_block_rows .normal cut.sized, cut.rows_sum, cut.data_eq]
  rfl

theorem imageToBitmap_aligned {image : Image} {bitmap : Bytes}
    (packed : imageToBitmap image = .ok bitmap) : image.width % 8 = 0 := by
  unfold imageToBitmap at packed
  split_ifs at packed with mode aligned
  omega

/-- The rows of a bitmap show its image dot by dot. -/
theorem dot_rasterRows {image : Image} {bitmap : Bytes} (packed : imageToBitmap image = .ok bitmap)
    {x y : Nat} (inRow : x < image.width) (inPage : y < image.height) :
    Dot (rasterRows (image.width / 8) image.height bitmap) x y ↔ image.pixel x y = 0 := by
  have aligned := imageToBitmap_aligned packed
  have column : x / 8 < image.width / 8 := by omega
  have place : y * image.width / 8 = y * (image.width / 8) := Nat.mul_div_assoc _ (by omega)
  rw [← imageToBitmap_bit packed inRow inPage, Dot, rasterRows_getD inPage, place]
  simp only [List.getD_eq_getElem?_getD, List.getElem?_take_of_lt column, List.getElem?_drop]

/-- A sheet shows an image. -/
structure Shows (image : Image) (sheet : Paper) : Prop where
  height : sheet.length = image.height
  dots : ∀ x < image.width, ∀ y < image.height, Dot sheet x y ↔ image.pixel x y = 0

/-- A delivered page is the last thing on the paper but blank rows. -/
theorem DeliveredPage.onPaper {p : PrinterId} {bitmap : Bytes} {image : Image} {w : World}
    {past : List TraceEvent} (packed : imageToBitmap image = .ok bitmap)
    (delivered : DeliveredPage p bitmap image.height w past) :
    ∃ inputs earlier sheet blank, PrinterInput.parse (lineTo p past).bytes = some inputs ∧
      paperOf inputs = earlier ++ sheet ++ blank ∧ Shows image sheet ∧ Blank blank := by
  obtain ⟨call, rfl, height, calls, before, page, later, -, conversation, whole, legal, briefs,
    bytes⟩ := delivered.delivers
  obtain ⟨size, fed, fedBlank, rows⟩ := whole.rows
  have laterBlank : Blank (paperOf later) := blank_flatMap fun input member =>
    (briefs input member).blank
  refine ⟨before ++ page.map .command ++ later, paperOf before,
    rasterRows call.widthBytes.toNat call.height call.bitmap, fed ++ paperOf later, ?_, ?_, ?_,
    fedBlank.append laterBlank⟩
  · rw [bytes]
    apply PrinterInput.parse_flatMap_bytes
    intro input member
    rcases List.mem_append.mp member with earlier | last
    · rcases List.mem_append.mp earlier with first | paged
      · exact conversation.legal input first
      · obtain ⟨command, present, rfl⟩ := List.mem_map.mp paged
        exact legal command present
    · exact (briefs input last).legal
  · have commands : paperOf (page.map .command) = page.flatMap PrinterCommand.rows := by
      rw [paperOf, List.flatMap_map]
      rfl
    have parts : ∀ first second, paperOf (first ++ second) = paperOf first ++ paperOf second :=
      fun first second => List.flatMap_append
    rw [parts, parts, commands, rows]
    simp
  · refine ⟨(rasterRows_length _ _ _).trans height, fun x inRow y inPage => ?_⟩
    have packed_length := imageToBitmap_length packed
    have width : call.widthBytes.toNat = image.width / 8 :=
      Nat.eq_of_mul_eq_mul_right (Nat.zero_lt_of_lt inPage)
        ((height ▸ size).symm.trans packed_length)
    rw [width, height]
    exact dot_rasterRows packed inRow inPage

/-! ## Printed pages -/

/-- A `page_end` that is answered with success has put the page, as it was prepared, on paper. -/
theorem pageEnd_shows {env : Env} (usable : env.Usable) {w : World}
    (fresh : ∀ p, (w.printers p).Usable) {moves : List Session.Move} {script later : List Tick}
    {past trace : List TraceEvent} {final after : World} {unread unused : List Tick}
    {result : Result}
    (ran : Session.runMoves env moves w script = ⟨past, .returned () final unread⟩)
    (ended : Session.runCommand env .pageEnd final later =
      ⟨trace, .returned (.ok result) after unused⟩)
    (orderly : ∀ event ∈ past ++ trace, Orderly event) :
    ∃ page p image inputs earlier sheet blank,
      final.session.page = some page ∧ final.bridge.printer = some p ∧
      preparePage env.diffuse page.image (final.printers p).profile page.mediaLengthMm page.tone
        page.rotate = .ok image ∧
      PrinterInput.parse (lineTo p (past ++ trace)).bytes = some inputs ∧
      paperOf inputs = earlier ++ sheet ++ blank ∧ Shows image sheet ∧ Blank blank := by
  have fleet := inSync_fleet usable
  have start : InSync w [] := ⟨fresh, fun _ _ => PrinterLine.whole_nil⟩
  have earlier : ∀ event ∈ (Session.runMoves env moves w script).trace, Orderly event := by
    rw [ran]
    exact fun event member => orderly event (List.mem_append_left _ member)
  have rested := (inSync_runs fleet).returned moves start earlier (by rw [ran]; rfl)
  rw [ran] at rested
  have resting : InSync final past := rested
  have meets := ensures_pageEnd_delivers fleet resting later
    (by rw [ended]; exact fun event member => orderly event (List.mem_append_right _ member))
  rw [ended] at meets
  obtain ⟨-, page, p, printable, image, bitmap, prepared, packed, delivered⟩ := meets result rfl
  obtain ⟨inputs, before, sheet, blank, parsed, paper, shows, blanks⟩ :=
    delivered.onPaper packed
  exact ⟨page, p, image, inputs, before, sheet, blank, printable.inProgress, printable.held,
    prepared, parsed, paper, shows, blanks⟩

/-- The dots of a sheet that shows a page are the client's pixels that become black. -/
theorem Shows.prints {diffuse : Image → Nat → Nat → UInt8} {page : PageBuffer}
    {profile : PrinterProfile} {image : Image} {sheet : Paper} (shows : Shows image sheet)
    (pointwise : page.bits = .eight → page.tone ≠ .diffusion)
    (prepared : preparePage diffuse page.image profile page.mediaLengthMm page.tone page.rotate =
      .ok image) {lead : Int} (led : profile.leadRows = .ok lead) :
    ∀ x < image.width, ∀ y < image.height,
      Dot sheet x y ↔ (y : Int) + lead < 0 ∨
        page.PrintsAt page.rotate page.tone image.width lead x y := by
  intro x inRow y inPage
  obtain ⟨-, lead', -, led', -, -, bitmap, packed, prints⟩ :=
    PageBuffer.preparePage_prints diffuse page _ _ _ _ pointwise prepared
  obtain rfl : lead = lead' := Except.ok.inj (led.symm.trans led')
  rw [shows.dots x inRow y inPage, ← imageToBitmap_bit packed inRow inPage]
  exact prints x inRow y inPage

/-- A `page_end` that is answered with success has put the page of the session on the paper of the
bridge's printer. -/
theorem pageEnd_dots (env : Env) (usable : env.Usable) (w : World)
    (fresh : ∀ p, (w.printers p).Usable) (moves : List Session.Move) (script later : List Tick)
    (past trace : List TraceEvent) (final after : World) (unread unused : List Tick)
    (result : Result)
    (ran : Session.runMoves env moves w script = ⟨past, .returned () final unread⟩)
    (ended : Session.runCommand env .pageEnd final later =
      ⟨trace, .returned (.ok result) after unused⟩)
    (orderly : ∀ event ∈ past ++ trace, Orderly event) :
    ∃ page p image inputs earlier sheet blank,
      final.session.page = some page ∧ final.bridge.printer = some p ∧
      preparePage env.diffuse page.image (final.printers p).profile page.mediaLengthMm page.tone
        page.rotate = .ok image ∧
      PrinterInput.parse (lineTo p (past ++ trace)).bytes = some inputs ∧
      paperOf inputs = earlier ++ sheet ++ blank ∧ Shows image sheet ∧ Blank blank ∧
      ∃ lead, (final.printers p).profile.leadRows = .ok lead ∧
      ((page.bits = .eight → page.tone ≠ .diffusion) →
        ∀ x < image.width, ∀ y < image.height,
          Dot sheet x y ↔ (y : Int) + lead < 0 ∨
            page.PrintsAt page.rotate page.tone image.width lead x y) := by
  obtain ⟨page, p, image, inputs, before, sheet, blank, inProgress, held, prepared, parsed, paper,
    shows, blanks⟩ := pageEnd_shows usable fresh ran ended orderly
  obtain ⟨-, lead, -, led, -⟩ := preparePage_ok prepared
  exact ⟨page, p, image, inputs, before, sheet, blank, inProgress, held, prepared, parsed, paper,
    shows, blanks, lead, led, fun pointwise => shows.prints pointwise prepared led⟩

/-- The session with the page sent. -/
def openedStrip : Run PyExc World Tick TraceEvent Unit :=
  Session.runMoves stripEnv sentPage freshWorld sendingAnswers

/-- The `page_end` after it. -/
def printedStrip : Run PyExc World Tick TraceEvent Reply :=
  Session.runCommand stripEnv .pageEnd openedStrip.ending.state printingAnswers

theorem pageEnd_dots_strip :
    ∃ p image inputs earlier sheet blank,
      PrinterInput.parse (lineTo p (openedStrip.trace ++ printedStrip.trace)).bytes =
        some inputs ∧
      paperOf inputs = earlier ++ sheet ++ blank ∧ Shows image sheet ∧ Blank blank := by
  have orderly : ∀ event ∈ openedStrip.trace ++ printedStrip.trace, Orderly event := by
    decide +kernel
  obtain ⟨past, value, final, unread, ran⟩ :=
    @Run.exists_of_hasReturned _ _ _ _ _ openedStrip (by decide +kernel)
  obtain ⟨trace, result, after, unused, ended⟩ :=
    @exists_of_isAnswered printedStrip (by decide +kernel)
  rw [ran, ended] at orderly ⊢
  have printed : Session.runCommand stripEnv .pageEnd final printingAnswers =
      ⟨trace, .returned (.ok result) after unused⟩ := by
    rw [← ended, printedStrip, ran]
    rfl
  obtain ⟨-, p, image, inputs, earlier, sheet, blank, -, -, -, parsed, paper, shows, blanks, -⟩ :=
    pageEnd_dots stripEnv stripEnv_usable freshWorld freshWorld_usable sentPage sendingAnswers
      printingAnswers past trace final after unread unused result ran printed orderly
  exact ⟨p, image, inputs, earlier, sheet, blank, parsed, paper, shows, blanks⟩

end Phomemo
