import Phomemo.Printer

/-!
# The rows of a stream

`_rows_before` counts rows from byte offsets.  In a stream that was built from a bitmap it is the
number of rows that lie before the offset, so it only grows and is the height from the end of the
last band on.
-/

namespace Phomemo

/-! ## Streams that were built -/

theorem toBytes2_built {value : Int} {bytes : Bytes} (encoded : toBytes2 value = .ok bytes) :
    0 ≤ value ∧ bytes = Codec.pair value.toNat := by
  unfold toBytes2 at encoded
  split at encoded
  · cases encoded
  · split at encoded
    · cases encoded
    · exact ⟨by omega, (Except.ok.inj encoded).symm⟩

theorem encodeRasterHeader_built {widthBytes rows : Int} {mode : ScaleMode} {header : Bytes}
    (encoded : encodeRasterHeader widthBytes rows mode = .ok header) (data : Bytes) :
    0 ≤ rows ∧ header = Block.header widthBytes.toNat mode ⟨rows.toNat, data⟩ := by
  obtain ⟨width, widthEncoded, encoded⟩ := except_bind_eq_ok.mp encoded
  obtain ⟨height, heightEncoded, encoded⟩ := except_bind_eq_ok.mp encoded
  obtain ⟨-, rfl⟩ := toBytes2_built widthEncoded
  obtain ⟨nonneg, rfl⟩ := toBytes2_built heightEncoded
  exact ⟨nonneg, (Except.ok.inj encoded).symm⟩

/-- The data of a block holds no more than its rows. -/
def Block.Within (width : Nat) (block : Block) : Prop := block.data.length ≤ width * block.rows

/-- A loop without rows in a band never ends. -/
theorem bandHeight_pos_of_bandLoop {widthBytes bandHeight : Int} {mode : ScaleMode} {bitmap : Bytes}
    {height fuel row offset : Nat} {job : Bytes × List Band} (more : row < height)
    (looped : bandLoop widthBytes bandHeight mode bitmap height fuel row offset = some (.ok job)) :
    1 ≤ bandHeight := by
  induction fuel generalizing offset job with
  | zero => cases looped
  | succ fuel ih =>
      rw [bandLoop, if_pos more] at looped
      dsimp only at looped
      split at looped
      · cases looped
      · rename_i header encoded
        obtain ⟨rows_nonneg, -⟩ := encodeRasterHeader_built encoded []
        by_contra none
        have rows_zero : (min bandHeight (height - row : Nat)).toNat = 0 := by omega
        -- The round starts again at the same row.
        rw [rows_zero, Nat.add_zero] at looped
        split at looped
        · rename_i rest
          exact none (ih rest)
        · rename_i other
          exact other _ _ looped

/-- A loop that ended has cut the rest of the page into bands, all of it when the bitmap has the
size of the page. -/
theorem bandLoop_built {profile : PrinterProfile} {mode : ScaleMode} {bitmap : Bytes}
    {height fuel row offset : Nat} {raster : Bytes} {bands : List Band} (row_le : row ≤ height)
    (looped : bandLoop profile.widthBytes profile.bandHeight mode bitmap height fuel row offset =
      some (.ok (raster, bands))) :
    ∃ blocks,
      (∀ block ∈ blocks, block.Within profile.widthBytes.toNat) ∧
      (blocks.map Block.rows).sum = height - row ∧
      raster = blocks.flatMap (Block.bytes profile.widthBytes.toNat mode) ∧
      bands = bandMap offset blocks ∧
      (bitmap.length = profile.widthBytes.toNat * height →
        Cut profile (height - row) (bitmap.drop (row * profile.widthBytes.toNat)) blocks) := by
  set width := profile.widthBytes.toNat with width_eq
  induction fuel generalizing row offset raster bands with
  | zero => cases looped
  | succ fuel ih =>
      have bandHeight_pos : row < height → 1 ≤ profile.bandHeight :=
        fun more => bandHeight_pos_of_bandLoop more looped
      rw [bandLoop] at looped
      dsimp only at looped
      split at looped
      · rename_i more
        have bandHeight_pos := bandHeight_pos more
        split at looped
        · cases looped
        · rename_i header encoded
          set rows := (min profile.bandHeight (height - row : Nat)).toNat with rows_eq
          set data := (bitmap.drop (row * width)).take (rows * width) with data_eq
          obtain ⟨rows_nonneg, rfl⟩ := encodeRasterHeader_built encoded data
          split at looped
          · rename_i later others rest
            obtain ⟨rfl, rfl⟩ := Prod.mk.inj (Except.ok.inj (Option.some.inj looped))
            obtain ⟨blocks, within, total, rfl, rfl, cut⟩ := ih (by omega) rest
            refine ⟨⟨rows, data⟩ :: blocks, ?_, ?_, rfl, rfl, fun size =>
              (cut size).cons_rows size (by omega) (by omega) (by omega)⟩
            · intro block member
              obtain rfl | later := List.mem_cons.mp member
              · change data.length ≤ width * rows
                rw [data_eq, Nat.mul_comm width]
                exact List.length_take_le _ _
              · exact within block later
            · rw [List.map_cons, List.sum_cons, total]
              dsimp only
              omega
          · rename_i other
            exact absurd looped (other _ _)
      · rename_i done
        obtain ⟨rfl, rfl⟩ := Prod.mk.inj (Except.ok.inj (Option.some.inj looped))
        refine ⟨[], by simp, ?_, rfl, rfl, fun size => Cut.end size (by omega)⟩
        simp only [List.map_nil, List.sum_nil]
        omega

/-- A stream that was built and its bands, made of the blocks of the page. -/
structure LaidOut (width height : Nat) (mode : ScaleMode) (stream : Bytes) (bands : List Band)
    (blocks : List Block) : Prop where
  within : ∀ block ∈ blocks, block.Within width
  rows_sum : (blocks.map Block.rows).sum = height
  layout : ∃ start feed, 0 < start.length ∧ bands = bandMap start.length blocks ∧
    stream = start ++ blocks.flatMap (Block.bytes width mode) ++ feed

theorem buildRasterStream_built {profile : PrinterProfile} {bitmap : Bytes} {height : Nat}
    {density : Option Density} {mode : ScaleMode} {feedLines : Int} {stream : Bytes}
    {bands : List Band}
    (built : buildRasterStream profile bitmap height density mode feedLines =
      some (.ok (stream, bands))) :
    ∃ blocks, LaidOut profile.widthBytes.toNat height mode stream bands blocks ∧
      (bitmap.length = profile.widthBytes.toNat * height → Cut profile height bitmap blocks) := by
  unfold buildRasterStream at built
  split at built
  · cases built
  · rename_i start begun
    split at built
    · cases built
    · cases built
    · rename_i raster others looped
      split at built
      · cases built
      · rename_i feed _
        obtain ⟨rfl, rfl⟩ := Prod.mk.inj (Except.ok.inj (Option.some.inj built))
        obtain ⟨blocks, within, total, rfl, rfl, cut⟩ :=
          bandLoop_built (Nat.zero_le height) looped
        rw [Nat.zero_mul, List.drop_zero, Nat.sub_zero] at cut
        rw [Nat.sub_zero] at total
        exact ⟨blocks, ⟨within, total, start, feed, prologue_pos begun, rfl, rfl⟩, cut⟩

/-! ## Counting rows -/

/-- Where the rows of a band end in the stream. -/
def Band.rowEnds (width : Nat) (band : Band) : List Nat :=
  (List.range band.rows).map fun row => min (band.dataStart + (row + 1) * width) band.dataEnd

/-- Where the rows of a band map end in the stream. -/
def rowEnds (width : Nat) (bands : List Band) : List Nat := bands.flatMap (Band.rowEnds width)

/-- The number of rows all of whose bytes lie before an offset. -/
def rowsWithin (width : Nat) (bands : List Band) (offset : Nat) : Nat :=
  (rowEnds width bands).countP fun stop => stop ≤ offset

/-- The rows of one band before an offset. -/
def bandRowsBefore (width offset : Nat) (band : Band) : Nat :=
  if band.dataEnd ≤ offset then band.rows
  else if band.dataStart < offset then (offset - band.dataStart) / width
  else 0

theorem rowsBefore_eq_sum (offset : Nat) (bands : List Band) (width : Nat) :
    Printer.rowsBefore offset bands width = (bands.map (bandRowsBefore width offset)).sum := by
  have counted : ∀ rows, bands.foldl (fun rows band =>
      if band.dataEnd ≤ offset then rows + band.rows
      else if band.dataStart < offset then rows + (offset - band.dataStart) / width
      else rows) rows = rows + (bands.map (bandRowsBefore width offset)).sum := by
    induction bands with
    | nil => exact fun rows => rfl
    | cons band bands ih =>
        intro rows
        rw [List.foldl_cons, ih, List.map_cons, List.sum_cons, ← Nat.add_assoc]
        congr 1
        unfold bandRowsBefore
        split_ifs <;> rfl
  rw [Printer.rowsBefore, counted, Nat.zero_add]

/-- How many of the first rows of that width fit into so many bytes. -/
theorem countP_rows {width : Nat} (width_pos : 0 < width) (start rows offset : Nat)
    (after : start ≤ offset) :
    ((List.range rows).map fun row => start + (row + 1) * width).countP
        (fun stop => stop ≤ offset) =
      min rows ((offset - start) / width) := by
  induction rows with
  | zero => simp
  | succ rows ih =>
      rw [List.range_succ, List.map_append, List.countP_append, ih, List.map_singleton,
        List.countP_singleton]
      have fits : start + (rows + 1) * width ≤ offset ↔ rows + 1 ≤ (offset - start) / width := by
        rw [Nat.le_div_iff_mul_le width_pos]
        omega
      simp only [fits, decide_eq_true_eq]
      split <;> omega

/-- The rows of one band are those that end before the offset. -/
theorem bandRowsBefore_eq_count {width : Nat} {block : Block} (within : block.Within width)
    (start offset : Nat) :
    bandRowsBefore width offset ⟨start, start + 8, start + 8 + block.data.length, block.rows⟩ =
      (Band.rowEnds width ⟨start, start + 8, start + 8 + block.data.length, block.rows⟩).countP
        (fun stop => stop ≤ offset) := by
  unfold bandRowsBefore Band.rowEnds
  dsimp only
  rw [List.countP_map]
  by_cases ended : start + 8 + block.data.length ≤ offset
  · rw [if_pos ended]
    refine ((List.countP_eq_length.mpr fun row _ => ?_).trans List.length_range).symm
    rw [Function.comp_apply, decide_eq_true_iff]
    exact (Nat.min_le_right _ _).trans ended
  · rw [if_neg ended]
    -- Inside the band the end of its data does not decide.
    have counted : ∀ row, decide (min (start + 8 + (row + 1) * width)
        (start + 8 + block.data.length) ≤ offset) =
          decide (start + 8 + (row + 1) * width ≤ offset) := by
      intro row
      rw [decide_eq_decide, min_le_iff]
      exact or_iff_left ended
    have swap : (List.range block.rows).countP ((fun stop => decide (stop ≤ offset)) ∘ fun row =>
        min (start + 8 + (row + 1) * width) (start + 8 + block.data.length)) =
          ((List.range block.rows).map fun row => start + 8 + (row + 1) * width).countP
            (fun stop => stop ≤ offset) := by
      rw [List.countP_map]
      exact congrArg (fun test => (List.range block.rows).countP test) (funext counted)
    rw [swap]
    unfold Block.Within at within
    by_cases started : start + 8 ≤ offset
    · have width_pos : 0 < width := by
        by_contra none
        rw [Nat.eq_zero_of_not_pos none, Nat.zero_mul] at within
        omega
      rw [countP_rows width_pos _ _ _ started]
      have part : (offset - (start + 8)) / width < block.rows := by
        rw [Nat.div_lt_iff_lt_mul width_pos, Nat.mul_comm]
        omega
      split
      · omega
      · rw [show offset - (start + 8) = 0 by omega, Nat.zero_div]
        omega
    · rw [if_neg (by omega)]
      refine (List.countP_eq_zero.mpr fun stop member => ?_).symm
      obtain ⟨row, -, rfl⟩ := List.mem_map.mp member
      simp only [decide_eq_true_eq]
      omega

/-- In the map of blocks the count from offsets is the number of rows before the offset. -/
theorem rowsBefore_bandMap {width : Nat} {blocks : List Block}
    (within : ∀ block ∈ blocks, block.Within width) (start offset : Nat) :
    Printer.rowsBefore offset (bandMap start blocks) width =
      rowsWithin width (bandMap start blocks) offset := by
  rw [rowsBefore_eq_sum]
  induction blocks generalizing start with
  | nil => rfl
  | cons block blocks ih =>
      have first := bandRowsBefore_eq_count (within block List.mem_cons_self) start offset
      have rest := ih (fun other member => within other (List.mem_cons_of_mem block member))
        (start + 8 + block.data.length)
      rw [bandMap, List.map_cons, List.sum_cons, rest, first]
      unfold rowsWithin rowEnds
      rw [List.flatMap_cons, List.countP_append]

theorem rowEnds_length (width start : Nat) (blocks : List Block) :
    (rowEnds width (bandMap start blocks)).length = (blocks.map Block.rows).sum := by
  induction blocks generalizing start with
  | nil => rfl
  | cons block blocks ih =>
      have rest := ih (start + 8 + block.data.length)
      unfold rowEnds at rest ⊢
      rw [bandMap, List.flatMap_cons, List.length_append, rest]
      simp [Band.rowEnds]

/-- The rows end behind the start and before the end of the last block. -/
theorem rowEnds_bounds {width start : Nat} (mode : ScaleMode) (blocks : List Block) :
    ∀ stop ∈ rowEnds width (bandMap start blocks),
      start + 8 ≤ stop ∧ stop ≤ start + (blocks.flatMap (Block.bytes width mode)).length := by
  induction blocks generalizing start with
  | nil => simp [rowEnds, bandMap]
  | cons block blocks ih =>
      intro stop member
      rw [rowEnds, bandMap, List.flatMap_cons, List.mem_append] at member
      rw [List.flatMap_cons, List.length_append, Block.bytes_length]
      obtain here | later := member
      · obtain ⟨row, -, rfl⟩ := List.mem_map.mp here
        dsimp only
        omega
      · have bounds := ih stop later
        omega

theorem rowsWithin_mono {width : Nat} {bands : List Band} {first second : Nat}
    (le : first ≤ second) : rowsWithin width bands first ≤ rowsWithin width bands second := by
  refine List.countP_mono_left fun stop _ before => ?_
  rw [decide_eq_true_iff] at before ⊢
  exact before.trans le

/-- The last block ends where the last band of its map does. -/
theorem bandMap_tail {start : Nat} {blocks : List Block} (some : blocks ≠ []) (stream : Bytes)
    (width : Nat) (mode : ScaleMode) :
    Printer.tailStart stream (bandMap start blocks) =
      start + (blocks.flatMap (Block.bytes width mode)).length := by
  obtain ⟨block, rest, rfl⟩ := List.exists_cons_of_ne_nil some
  obtain ⟨last, found, ends⟩ := bandMap_getLast start block rest width mode
  rw [Printer.tailStart, found]
  exact ends

/-- The end of a band is the end of its last row. -/
theorem dataEnd_mem_rowEnds {width : Nat} {bands : List Band} {band : Band} (member : band ∈ bands)
    (rows_pos : 1 ≤ band.rows) (full : band.dataEnd ≤ band.dataStart + band.rows * width) :
    band.dataEnd ∈ rowEnds width bands := by
  refine List.mem_flatMap.mpr ⟨band, member, List.mem_map.mpr ⟨band.rows - 1, ?_, ?_⟩⟩
  · exact List.mem_range.mpr (Nat.sub_one_lt_of_lt rows_pos)
  · rw [Nat.sub_add_cancel rows_pos]
    exact Nat.min_eq_right full

namespace LaidOut

variable {width height : Nat} {mode : ScaleMode} {stream : Bytes} {bands : List Band}
  {blocks : List Block}

/-- `_rows_before` counts the rows before an offset. -/
theorem rowsBefore_eq (built : LaidOut width height mode stream bands blocks) (offset : Nat) :
    Printer.rowsBefore offset bands width = rowsWithin width bands offset := by
  obtain ⟨within, -, start, feed, -, rfl, -⟩ := built
  exact rowsBefore_bandMap within start.length offset

theorem rowEnds_length (built : LaidOut width height mode stream bands blocks) :
    (rowEnds width bands).length = height := by
  obtain ⟨-, total, start, feed, -, rfl, -⟩ := built
  rw [Phomemo.rowEnds_length, total]

theorem rowsWithin_le (built : LaidOut width height mode stream bands blocks) (offset : Nat) :
    rowsWithin width bands offset ≤ height :=
  List.countP_le_length.trans built.rowEnds_length.le

/-- No row lies before the start of the stream. -/
theorem rowsWithin_zero (built : LaidOut width height mode stream bands blocks) :
    rowsWithin width bands 0 = 0 := by
  obtain ⟨-, -, start, feed, -, rfl, -⟩ := built
  refine List.countP_eq_zero.mpr fun stop member => ?_
  have bounds := rowEnds_bounds mode blocks stop member
  rw [decide_eq_true_iff]
  omega

/-- From the end of the last band on all rows have been sent. -/
theorem rowsWithin_tail (built : LaidOut width height mode stream bands blocks) {offset : Nat}
    (behind : Printer.tailStart stream bands ≤ offset) :
    rowsWithin width bands offset = height := by
  have length := built.rowEnds_length
  obtain ⟨-, -, start, feed, -, rfl, -⟩ := built
  refine (List.countP_eq_length.mpr fun stop member => ?_).trans length
  have bounds := rowEnds_bounds mode blocks stop member
  have some : blocks ≠ [] := by
    rintro rfl
    simp [rowEnds, bandMap] at member
  rw [bandMap_tail some _ width mode] at behind
  rw [decide_eq_true_iff]
  omega

/-- The trailing feed is all that stands behind the last band. -/
theorem tailStart_le (built : LaidOut width height mode stream bands blocks) :
    Printer.tailStart stream bands ≤ stream.length := by
  obtain ⟨-, -, start, feed, -, rfl, rfl⟩ := built
  by_cases some : blocks = []
  · rw [some]
    exact le_rfl
  · rw [bandMap_tail some _ width mode]
    simp only [List.length_append]
    omega

theorem tailStart_pos (built : LaidOut width height mode stream bands blocks) :
    0 < Printer.tailStart stream bands := by
  obtain ⟨-, -, start, feed, start_pos, rfl, rfl⟩ := built
  by_cases some : blocks = []
  · rw [some]
    simp only [Printer.tailStart, bandMap, List.getLast?_nil, List.length_append]
    omega
  · rw [bandMap_tail some _ width mode]
    omega

theorem stream_pos (built : LaidOut width height mode stream bands blocks) :
    0 < stream.length :=
  built.tailStart_pos.trans_le built.tailStart_le

end LaidOut

/-! ## The bytes of the page -/

/-- Where the bytes of the page stand in the stream, in the order of the bitmap. -/
def bytePlaces (bands : List Band) : List Nat :=
  bands.flatMap fun band => List.range' band.dataStart (band.dataEnd - band.dataStart)

/-- All bytes of a row of the page lie before an offset in the stream. -/
def rowBefore (width : Nat) (bands : List Band) (offset row : Nat) : Bool :=
  (((bytePlaces bands).drop (row * width)).take width).all fun place => place < offset

theorem bytePlaces_bandMap_cons (start : Nat) (block : Block) (blocks : List Block) :
    bytePlaces (bandMap start (block :: blocks)) =
      List.range' (start + 8) block.data.length ++
        bytePlaces (bandMap (start + 8 + block.data.length) blocks) := by
  rw [bandMap, bytePlaces, List.flatMap_cons, Nat.add_sub_cancel_left]
  rfl

theorem le_of_mem_bytePlaces {start : Nat} {blocks : List Block} :
    ∀ place ∈ bytePlaces (bandMap start blocks), start ≤ place := by
  induction blocks generalizing start with
  | nil => simp [bytePlaces, bandMap]
  | cons block blocks ih =>
      intro place member
      rw [bytePlaces_bandMap_cons, List.mem_append, List.mem_range'_1] at member
      obtain ⟨here, -⟩ | later := member
      · omega
      · have behind := ih place later
        omega

/-- The page stands in the stream in its own order. -/
theorem bytePlaces_pairwise (start : Nat) (blocks : List Block) :
    (bytePlaces (bandMap start blocks)).Pairwise (· < ·) := by
  induction blocks generalizing start with
  | nil => exact List.Pairwise.nil
  | cons block blocks ih =>
      rw [bytePlaces_bandMap_cons]
      refine List.pairwise_append.mpr ⟨List.pairwise_lt_range', ih _, ?_⟩
      intro place here other later
      have behind := le_of_mem_bytePlaces other later
      rw [List.mem_range'_1] at here
      omega

theorem map_getElem?_middle (before middle after : Bytes) :
    (List.range' before.length middle.length).map
        (fun place => (before ++ middle ++ after)[place]?) = middle.map some := by
  apply List.ext_getElem?
  intro index
  rw [List.getElem?_map, List.getElem?_map]
  by_cases inside : index < middle.length
  · rw [List.getElem?_range' inside, Nat.one_mul, List.append_assoc]
    have shifted : (before ++ (middle ++ after))[before.length + index]? = middle[index]? := by
      rw [List.getElem?_append_right (Nat.le_add_right _ _), Nat.add_sub_cancel_left,
        List.getElem?_append_left inside]
    rw [Option.map_some, shifted, List.getElem?_eq_getElem inside]
    rfl
  · rw [List.getElem?_eq_none (by rw [List.length_range']; omega),
      List.getElem?_eq_none (by omega)]
    rfl

/-- The bytes at these places are those of the blocks. -/
theorem bytePlaces_read (width : Nat) (mode : ScaleMode) (before after : Bytes)
    (blocks : List Block) :
    (bytePlaces (bandMap before.length blocks)).map
        (fun place => (before ++ blocks.flatMap (Block.bytes width mode) ++ after)[place]?) =
      (blocks.flatMap Block.data).map some := by
  induction blocks generalizing before with
  | nil => rfl
  | cons block blocks ih =>
      have data := map_getElem?_middle (before ++ block.header width mode) block.data
        (blocks.flatMap (Block.bytes width mode) ++ after)
      have rest := ih (before ++ block.bytes width mode)
      simp only [List.length_append, Block.header_length, Block.bytes_length, ← Nat.add_assoc]
        at data rest
      simp only [Block.bytes, List.append_assoc] at data rest
      simp only [bytePlaces_bandMap_cons, List.flatMap_cons, List.map_append, Block.bytes,
        List.append_assoc, data, rest]

/-- The bytes of a row in the first block. -/
theorem rowPlaces_head {width start row : Nat} {block : Block} (sized : block.Sized width)
    (inside : row < block.rows) (blocks : List Block) :
    ((bytePlaces (bandMap start (block :: blocks))).drop (row * width)).take width =
      List.range' (start + 8 + row * width) width := by
  have room : row * width + width ≤ block.data.length := by
    rw [sized, Nat.mul_comm width, ← Nat.succ_mul]
    exact Nat.mul_le_mul_right width inside
  rw [bytePlaces_bandMap_cons,
    List.drop_append_of_le_length (by rw [List.length_range']; omega), List.drop_range',
    Nat.mul_one, List.take_append_of_le_length (by rw [List.length_range']; omega),
    List.take_range'_of_length_ge (by omega)]

/-- The bytes of a row behind the first block. -/
theorem rowPlaces_tail {width start : Nat} {block : Block} (sized : block.Sized width)
    (row : Nat) (blocks : List Block) :
    (bytePlaces (bandMap start (block :: blocks))).drop ((block.rows + row) * width) =
      (bytePlaces (bandMap (start + 8 + block.data.length) blocks)).drop (row * width) := by
  have skipped : (block.rows + row) * width =
      (List.range' (start + 8) block.data.length).length + row * width := by
    rw [List.length_range', sized, Nat.add_mul, Nat.mul_comm width]
  rw [bytePlaces_bandMap_cons, skipped, List.drop_length_add_append]

theorem all_range'_lt {width : Nat} (width_pos : 0 < width) (start offset : Nat) :
    ((List.range' start width).all fun place => place < offset) =
      decide (start + width ≤ offset) := by
  rw [Bool.eq_iff_iff, List.all_eq_true, decide_eq_true_iff]
  constructor
  · intro before
    have last := before (start + (width - 1)) (List.mem_range'_1.mpr (by omega))
    rw [decide_eq_true_iff] at last
    omega
  · intro behind place member
    rw [List.mem_range'_1] at member
    rw [decide_eq_true_iff]
    omega

/-- A row lies before an offset when its end does, whichever band it is in. -/
theorem rowBefore_eq_rowEnds {width : Nat} (width_pos : 0 < width) {blocks : List Block}
    (sized : ∀ block ∈ blocks, block.Sized width) (start offset : Nat) :
    (List.range (blocks.map Block.rows).sum).map (rowBefore width (bandMap start blocks) offset) =
      (rowEnds width (bandMap start blocks)).map fun stop => decide (stop ≤ offset) := by
  induction blocks generalizing start with
  | nil => rfl
  | cons block blocks ih =>
      have block_sized := sized block List.mem_cons_self
      have rest := ih (fun other member => sized other (List.mem_cons_of_mem block member))
        (start + 8 + block.data.length)
      rw [List.map_cons, List.sum_cons, List.range_add, List.map_append, List.map_map, rowEnds,
        bandMap, List.flatMap_cons, List.map_append, ← bandMap]
      congr 1
      · rw [Band.rowEnds, List.map_map]
        refine List.map_congr_left fun row member => ?_
        have inside := List.mem_range.mp member
        have within : (row + 1) * width ≤ block.data.length := by
          rw [block_sized, Nat.mul_comm width]
          exact Nat.mul_le_mul_right width inside
        rw [Nat.succ_mul] at within
        rw [rowBefore, rowPlaces_head block_sized inside, all_range'_lt width_pos]
        simp only [Function.comp_apply, Nat.succ_mul, decide_eq_decide]
        omega
      · refine Eq.trans (List.map_congr_left fun row _ => ?_) rest
        rw [Function.comp_apply, rowBefore, rowPlaces_tail block_sized]
        rfl

/-- What `_rows_before` says of a page in its stream: where the bytes of the page stand, and that
it counts the rows whose bytes all lie before the offset. -/
structure CountsRows (width height : Nat) (bitmap stream : Bytes) (bands : List Band) : Prop where
  /-- The page is read back from its places. -/
  read : (bytePlaces bands).map (fun place => stream[place]?) = bitmap.map some
  /-- The places are in the order of the page. -/
  ordered : (bytePlaces bands).Pairwise (· < ·)
  /-- The count of whole rows before an offset. -/
  counts : ∀ offset, Printer.rowsBefore offset bands width =
    (List.range height).countP (rowBefore width bands offset)
  mono : ∀ first second, first ≤ second →
    Printer.rowsBefore first bands width ≤ Printer.rowsBefore second bands width
  le_height : ∀ offset, Printer.rowsBefore offset bands width ≤ height
  /-- All rows are counted from the end of the last band on. -/
  whole : 1 ≤ height → ∃ last, bands.getLast? = some last ∧
    ∀ offset, Printer.rowsBefore offset bands width = height ↔ last.dataEnd ≤ offset

namespace Cut

variable {profile : PrinterProfile} {height : Nat} {bitmap : Bytes} {blocks : List Block}

theorem rowsWithin_eq (cut : Cut profile height bitmap blocks)
    (width_pos : 0 < profile.widthBytes.toNat) (start offset : Nat) :
    rowsWithin profile.widthBytes.toNat (bandMap start blocks) offset =
      (List.range height).countP
        (rowBefore profile.widthBytes.toNat (bandMap start blocks) offset) := by
  have same := rowBefore_eq_rowEnds width_pos cut.sized start offset
  have counted := congrArg (List.countP id) same
  rw [List.countP_map, List.countP_map, cut.rows_sum] at counted
  exact counted.symm

/-- All rows are counted exactly from the end of the last band on. -/
theorem rowsWithin_eq_height {mode : ScaleMode} {stream : Bytes} {bands : List Band}
    (cut : Cut profile height bitmap blocks)
    (laid : LaidOut profile.widthBytes.toNat height mode stream bands blocks)
    (height_pos : 1 ≤ height) :
    ∃ last, bands.getLast? = some last ∧ ∀ offset,
      rowsWithin profile.widthBytes.toNat bands offset = height ↔ last.dataEnd ≤ offset := by
  have length := laid.rowEnds_length
  have tail := @LaidOut.rowsWithin_tail _ _ _ _ _ _ laid
  obtain ⟨-, rows_sum, start, feed, -, rfl, -⟩ := laid
  cases blocks with
  | nil =>
      rw [List.map_nil, List.sum_nil] at rows_sum
      omega
  | cons block rest =>
      obtain ⟨last, found, -⟩ :=
        bandMap_getLast start.length block rest profile.widthBytes.toNat mode
      refine ⟨last, found, fun offset => ⟨fun all => ?_, fun behind => tail ?_⟩⟩
      · have member := List.mem_of_getLast? found
        obtain ⟨of, present, place, rfl⟩ := exists_of_mem_bandMap member
        have full : place + 8 + of.data.length ≤
            place + 8 + of.rows * profile.widthBytes.toNat := by
          rw [cut.sized of present, Nat.mul_comm]
        have stop := dataEnd_mem_rowEnds member (cut.rows_pos of present) full
        have counted := List.countP_eq_length.mp (all.trans length.symm) _ stop
        exact of_decide_eq_true counted
      · rw [Printer.tailStart, found]
        exact behind

end Cut

/-- In a stream that was built from a page `_rows_before` counts the rows of the page all of whose
bytes lie before the offset: it grows with the offset, never exceeds the height, and is the height
exactly from the end of the last band on. -/
theorem rowsBefore_counts (profile : PrinterProfile) (bitmap : Bytes) (height : Nat)
    (density : Option Density) (mode : ScaleMode) (feedLines : Int) (stream : Bytes)
    (bands : List Band) (width_pos : 1 ≤ profile.widthBytes)
    (size : bitmap.length = profile.widthBytes.toNat * height)
    (built : buildRasterStream profile bitmap height density mode feedLines =
      some (.ok (stream, bands))) :
    CountsRows profile.widthBytes.toNat height bitmap stream bands := by
  obtain ⟨blocks, laid, cut⟩ := buildRasterStream_built built
  have cut := cut size
  have counted : ∀ offset, Printer.rowsBefore offset bands profile.widthBytes.toNat =
      rowsWithin profile.widthBytes.toNat bands offset := laid.rowsBefore_eq
  have whole := cut.rowsWithin_eq_height laid
  have le_height := laid.rowsWithin_le
  obtain ⟨-, -, start, feed, -, rfl, rfl⟩ := laid
  constructor
  · rw [bytePlaces_read, cut.data_eq]
  · exact bytePlaces_pairwise start.length blocks
  · intro offset
    rw [counted]
    exact cut.rowsWithin_eq (by omega) start.length offset
  · intro first second le
    rw [counted, counted]
    exact rowsWithin_mono le
  · intro offset
    rw [counted]
    exact le_height offset
  · intro height_pos
    obtain ⟨last, found, exact_from⟩ := whole height_pos
    exact ⟨last, found, fun offset => (counted offset).symm ▸ exact_from offset⟩

/-- Three rows of one byte, printed in bands of two rows. -/
theorem rowsBefore_counts_two_bands :
    CountsRows 1 3 [0x18, 0x3c, 0x7e]
      [0x1b, 0x40, 0x1d, 0x76, 0x30, 0, 1, 0, 2, 0, 0x18, 0x3c,
        0x1d, 0x76, 0x30, 0, 1, 0, 1, 0, 0x7e, 0x1b, 0x64, 20]
      [⟨2, 10, 12, 2⟩, ⟨12, 20, 21, 1⟩] :=
  rowsBefore_counts { strip with bandHeight := 2 } [0x18, 0x3c, 0x7e] 3 none .normal 20
    [0x1b, 0x40, 0x1d, 0x76, 0x30, 0, 1, 0, 2, 0, 0x18, 0x3c,
      0x1d, 0x76, 0x30, 0, 1, 0, 1, 0, 0x7e, 0x1b, 0x64, 20]
    [⟨2, 10, 12, 2⟩, ⟨12, 20, 21, 1⟩] (by decide) rfl rfl

end Phomemo
