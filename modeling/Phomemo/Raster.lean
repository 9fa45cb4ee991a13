import Mathlib.Algebra.BigOperators.Group.List.Basic
import Phomemo.Registry

/-!
# The raster stream

`buildRasterStream` assembles a print job and a map of its raster bands.  The stream is read back
by the reference parser as the bands it was made of, whatever bytes the bitmap holds.
-/

namespace Phomemo

/-- One entry of the band map: offsets of a band within the stream, and its rows. -/
structure Band where
  headerStart : Nat
  dataStart : Nat
  dataEnd : Nat
  rows : Nat
  deriving DecidableEq, Repr

/-- The band loop: the stream from `row` on and its map, starting at `offset`.  A round that adds
no row changes nothing, so a loop that outlasts its fuel of one round per row never ends. -/
def bandLoop (widthBytes bandHeight : Int) (mode : ScaleMode) (bitmap : Bytes) (height : Nat) :
    Nat → Nat → Nat → Option (Except PyExc (Bytes × List Band))
  | 0, _, _ => none
  | fuel + 1, row, offset =>
      if row < height then
        let bandRows := min bandHeight (height - row : Nat)
        match encodeRasterHeader widthBytes bandRows mode with
        | .error exc => some (.error exc)
        | .ok header =>
            let width := widthBytes.toNat
            let rows := bandRows.toNat
            let data := (bitmap.drop (row * width)).take (rows * width)
            let dataStart := offset + header.length
            let dataEnd := dataStart + data.length
            match bandLoop widthBytes bandHeight mode bitmap height fuel (row + rows) dataEnd with
            | some (.ok (stream, bands)) =>
                some (.ok (header ++ data ++ stream, ⟨offset, dataStart, dataEnd, rows⟩ :: bands))
            | other => other
      else
        some (.ok ([], []))

/-- The commands before the first band. -/
def prologue (profile : PrinterProfile) (density : Option Density) : Except PyExc Bytes :=
  match density.bind profile.densityValue with
  | none => .ok encodeInit
  | some value => do
      let command ← encodeDensity value
      return encodeInit ++ command

/-- The trailing feed. -/
def trailer (feedLines : Int) : Except PyExc Bytes :=
  if 0 < feedLines then encodeFeedLines (min feedLines 255) else .ok []

/-- Assemble the print job and the map of its raster bands; `none` when the loop never ends. -/
def buildRasterStream (profile : PrinterProfile) (bitmap : Bytes) (height : Nat)
    (density : Option Density) (mode : ScaleMode) (feedLines : Int) :
    Option (Except PyExc (Bytes × List Band)) :=
  match prologue profile density with
  | .error exc => some (.error exc)
  | .ok start =>
      match bandLoop profile.widthBytes profile.bandHeight mode bitmap height (height + 1) 0
          start.length with
      | none => none
      | some (.error exc) => some (.error exc)
      | some (.ok (raster, bands)) =>
          match trailer feedLines with
          | .error exc => some (.error exc)
          | .ok feed => some (.ok (start ++ raster ++ feed, bands))

/-! ## What fits its field -/

namespace PrinterProfile

/-- The bands of a page of that height fit the fields of their headers. -/
def BandsFit (profile : PrinterProfile) (height : Nat) : Prop :=
  height = 0 ∨ 0 ≤ profile.widthBytes ∧ profile.widthBytes < 65536 ∧ 1 ≤ profile.bandHeight ∧
    min profile.bandHeight height < 65536

/-- The concentration value of that density, if there is one, is a byte. -/
def DensityFits (profile : PrinterProfile) (density : Option Density) : Prop :=
  ∀ value ∈ density.bind profile.densityValue, 0 ≤ value ∧ value < 256

theorem Fits.bandsFit {profile : PrinterProfile} (fits : profile.Fits) (height : Nat) :
    profile.BandsFit height := by
  obtain ⟨bandHeight_pos, bandHeight_lt, width_pos, width_lt, -, -⟩ := fits
  right
  omega

theorem Fits.densityFits {profile : PrinterProfile} (fits : profile.Fits)
    (density : Option Density) : profile.DensityFits density := by
  intro value valued
  obtain ⟨level, -, valued⟩ := Option.bind_eq_some_iff.mp valued
  exact ⟨fits.density_nonneg level value valued, fits.density_lt level value valued⟩

end PrinterProfile

/-! ## Bands as commands -/

/-- The rows of one band and their bytes. -/
structure Block where
  rows : Nat
  data : Bytes
  deriving DecidableEq, Repr

namespace Block

/-- The raster command of a block. -/
def command (width : Nat) (mode : ScaleMode) (block : Block) : PrinterCommand :=
  .raster mode.byte width block.rows block.data

/-- The header of the raster command. -/
def header (width : Nat) (mode : ScaleMode) (block : Block) : Bytes :=
  [0x1d, 0x76, 0x30, mode.byte] ++ Codec.pair width ++ Codec.pair block.rows

/-- A block as it stands in the stream. -/
def bytes (width : Nat) (mode : ScaleMode) (block : Block) : Bytes :=
  block.header width mode ++ block.data

/-- The data is as long as the rows say. -/
def Sized (width : Nat) (block : Block) : Prop := block.data.length = width * block.rows

@[simp]
theorem header_length (width : Nat) (mode : ScaleMode) (block : Block) :
    (block.header width mode).length = 8 := rfl

theorem bytes_length (width : Nat) (mode : ScaleMode) (block : Block) :
    (block.bytes width mode).length = 8 + block.data.length := by
  simp [bytes]

theorem flatMap_command_bytes (width : Nat) (mode : ScaleMode) (blocks : List Block) :
    (blocks.map (command width mode)).flatMap PrinterCommand.bytes =
      blocks.flatMap (bytes width mode) := by
  rw [List.flatMap_map]
  rfl

theorem command_legal {width : Nat} {mode : ScaleMode} {block : Block} (widthFits : width < 65536)
    (rowsFit : block.rows < 65536) (sized : block.Sized width) :
    (block.command width mode).Legal :=
  ⟨widthFits, rowsFit, sized⟩

end Block

/-- The part of a byte string between two offsets. -/
def slice (stream : Bytes) (start stop : Nat) : Bytes :=
  (stream.drop start).take (stop - start)

/-- A stream up to an offset and the piece that follows there. -/
theorem take_append_piece (stream : Bytes) (offset size : Nat) :
    stream.take offset ++ (stream.drop offset).take size =
      stream.take (offset + ((stream.drop offset).take size).length) := by
  rw [List.take_add, List.length_take, ← List.take_eq_take_min]

/-- The band map names, from `offset` on, where the header and the data of each block stand in
the stream, one block right after the other. -/
def Maps (stream : Bytes) (width : Nat) (mode : ScaleMode) :
    Nat → List Band → List Block → Prop
  | _, [], [] => True
  | offset, band :: bands, block :: blocks =>
      band.headerStart = offset ∧
      band.dataStart = band.headerStart + 8 ∧
      band.dataEnd = band.dataStart + block.data.length ∧
      band.dataEnd ≤ stream.length ∧
      band.rows = block.rows ∧
      slice stream band.headerStart band.dataStart = block.header width mode ∧
      slice stream band.dataStart band.dataEnd = block.data ∧
      Maps stream width mode band.dataEnd bands blocks
  | _, _, _ => False

/-- The map of blocks laid out from `offset` on. -/
def bandMap : Nat → List Block → List Band
  | _, [] => []
  | offset, block :: blocks =>
      ⟨offset, offset + 8, offset + 8 + block.data.length, block.rows⟩ ::
        bandMap (offset + 8 + block.data.length) blocks

theorem slice_middle (before middle after : Bytes) :
    slice (before ++ middle ++ after) before.length (before.length + middle.length) = middle := by
  simp [slice, List.append_assoc]

theorem maps_bandMap (width : Nat) (mode : ScaleMode) (before after : Bytes)
    (blocks : List Block) :
    Maps (before ++ blocks.flatMap (Block.bytes width mode) ++ after) width mode before.length
      (bandMap before.length blocks) blocks := by
  induction blocks generalizing before with
  | nil => trivial
  | cons block blocks ih =>
      have header := slice_middle before (block.header width mode)
        (block.data ++ blocks.flatMap (Block.bytes width mode) ++ after)
      have data := slice_middle (before ++ block.header width mode) block.data
        (blocks.flatMap (Block.bytes width mode) ++ after)
      have rest := ih (before ++ block.bytes width mode)
      simp only [List.length_append, Block.header_length, Block.bytes_length] at header data rest
      simp only [Block.bytes, List.append_assoc, ← Nat.add_assoc] at header data rest
      simp only [bandMap, Maps, List.flatMap_cons, Block.bytes, List.append_assoc,
        List.length_append, Block.header_length, true_and]
      refine ⟨?_, header, data, rest⟩
      omega

theorem bandMap_getLast (start : Nat) (block : Block) (blocks : List Block) (width : Nat)
    (mode : ScaleMode) :
    ∃ band, (bandMap start (block :: blocks)).getLast? = some band ∧
      band.dataEnd = start + ((block :: blocks).flatMap (Block.bytes width mode)).length := by
  induction blocks generalizing start block with
  | nil =>
      refine ⟨⟨start, start + 8, start + 8 + block.data.length, block.rows⟩, rfl, ?_⟩
      simp [Block.bytes_length, Nat.add_assoc]
  | cons next blocks ih =>
      obtain ⟨band, last, ends⟩ := ih (start + 8 + block.data.length) next
      refine ⟨band, ?_, ?_⟩
      · rw [bandMap, bandMap, List.getLast?_cons_cons]
        exact last
      · rw [ends, List.flatMap_cons, List.flatMap_cons, List.flatMap_cons, List.length_append,
          List.length_append, List.length_append, Block.bytes_length, Block.bytes_length]
        omega

/-- Each entry of the map stands for one of the blocks. -/
theorem exists_of_mem_bandMap {start : Nat} {blocks : List Block} {band : Band}
    (member : band ∈ bandMap start blocks) : ∃ block ∈ blocks, ∃ offset,
      band = ⟨offset, offset + 8, offset + 8 + block.data.length, block.rows⟩ := by
  induction blocks generalizing start with
  | nil => cases member
  | cons block blocks ih =>
      obtain rfl | later := List.mem_cons.mp member
      · exact ⟨block, List.mem_cons_self, start, rfl⟩
      · obtain ⟨other, present, offset, rfl⟩ := ih later
        exact ⟨other, List.mem_cons_of_mem block present, offset, rfl⟩

/-! ## The loop -/

theorem toBytes2_of_fits {value : Int} (nonneg : 0 ≤ value) (fits : value < 65536) :
    toBytes2 value = .ok (Codec.pair value.toNat) := by
  unfold toBytes2
  rw [if_neg (by omega), if_neg (by omega)]

theorem encodeRasterHeader_of_fits {widthBytes rows : Int} {mode : ScaleMode}
    (width_nonneg : 0 ≤ widthBytes) (width_lt : widthBytes < 65536)
    (rows_nonneg : 0 ≤ rows) (rows_lt : rows < 65536) (data : Bytes) :
    encodeRasterHeader widthBytes rows mode =
      .ok (Block.header widthBytes.toNat mode ⟨rows.toNat, data⟩) := by
  unfold encodeRasterHeader
  rw [toBytes2_of_fits width_nonneg width_lt, toBytes2_of_fits rows_nonneg rows_lt]
  rfl

/-- The blocks of a bitmap: what the band loop cuts it into. -/
structure Cut (profile : PrinterProfile) (rows : Nat) (bitmap : Bytes) (blocks : List Block) :
    Prop where
  rows_pos : ∀ block ∈ blocks, 1 ≤ block.rows
  rows_le : ∀ block ∈ blocks, (block.rows : Int) ≤ profile.bandHeight
  sized : ∀ block ∈ blocks, block.Sized profile.widthBytes.toNat
  rows_sum : (blocks.map Block.rows).sum = rows
  data_eq : blocks.flatMap Block.data = bitmap

theorem Cut.nil (profile : PrinterProfile) : Cut profile 0 [] [] := by
  constructor <;> simp

theorem Cut.cons {profile : PrinterProfile} {block : Block} {blocks : List Block} {rows : Nat}
    {bitmap : Bytes} (pos : 1 ≤ block.rows) (le : (block.rows : Int) ≤ profile.bandHeight)
    (sized : block.Sized profile.widthBytes.toNat) (rest : Cut profile rows bitmap blocks) :
    Cut profile (block.rows + rows) (block.data ++ bitmap) (block :: blocks) where
  rows_pos := by
    intro other member
    rcases List.mem_cons.mp member with rfl | later
    · exact pos
    · exact rest.rows_pos other later
  rows_le := by
    intro other member
    rcases List.mem_cons.mp member with rfl | later
    · exact le
    · exact rest.rows_le other later
  sized := by
    intro other member
    rcases List.mem_cons.mp member with rfl | later
    · exact sized
    · exact rest.sized other later
  rows_sum := by simp [rest.rows_sum]
  data_eq := by simp [rest.data_eq]

/-- The next rows of a bitmap of the right size are a block of its cut. -/
theorem Cut.cons_rows {profile : PrinterProfile} {bitmap : Bytes} {height row rows : Nat}
    {blocks : List Block} (size : bitmap.length = profile.widthBytes.toNat * height)
    (rows_pos : 1 ≤ rows) (rows_fit : (rows : Int) ≤ profile.bandHeight)
    (rows_le : row + rows ≤ height)
    (rest : Cut profile (height - (row + rows))
      (bitmap.drop ((row + rows) * profile.widthBytes.toNat)) blocks) :
    Cut profile (height - row) (bitmap.drop (row * profile.widthBytes.toNat))
      (⟨rows, (bitmap.drop (row * profile.widthBytes.toNat)).take
        (rows * profile.widthBytes.toNat)⟩ :: blocks) := by
  set width := profile.widthBytes.toNat with width_eq
  have spare : (row + rows) * width ≤ bitmap.length := by
    rw [size, Nat.mul_comm]
    exact Nat.mul_le_mul_left width rows_le
  set data := (bitmap.drop (row * width)).take (rows * width) with data_eq
  have data_length : data.length = width * rows := by
    rw [data_eq, List.length_take, List.length_drop, Nat.mul_comm width]
    rw [Nat.add_mul] at spare
    omega
  have split : bitmap.drop (row * width) = data ++ bitmap.drop ((row + rows) * width) := by
    rw [Nat.add_mul, ← List.drop_drop, List.take_append_drop]
  rw [split, show height - row = rows + (height - (row + rows)) by omega]
  exact @Cut.cons profile ⟨rows, data⟩ _ _ _ rows_pos rows_fit data_length rest

/-- No row of the bitmap is left at the end of the page. -/
theorem Cut.end {profile : PrinterProfile} {bitmap : Bytes} {height row : Nat}
    (size : bitmap.length = profile.widthBytes.toNat * height) (ended : height ≤ row) :
    Cut profile (height - row) (bitmap.drop (row * profile.widthBytes.toNat)) [] := by
  have past : bitmap.length ≤ row * profile.widthBytes.toNat := by
    rw [size, Nat.mul_comm]
    exact Nat.mul_le_mul_right _ ended
  rw [Nat.sub_eq_zero_of_le ended, List.drop_eq_nil_of_le past]
  exact Cut.nil profile

/-- One fuel unit a row is enough, and the loop cuts the rest of the bitmap into bands. -/
theorem bandLoop_cuts {profile : PrinterProfile} {height : Nat}
    (fits : profile.BandsFit height) (mode : ScaleMode)
    {bitmap : Bytes} (size : bitmap.length = profile.widthBytes.toNat * height)
    (fuel row offset : Nat) (row_le : row ≤ height) (enough : height < row + fuel) :
    ∃ blocks, Cut profile (height - row) (bitmap.drop (row * profile.widthBytes.toNat)) blocks ∧
      bandLoop profile.widthBytes profile.bandHeight mode bitmap height fuel row offset =
        some (.ok (blocks.flatMap (Block.bytes profile.widthBytes.toNat mode),
          bandMap offset blocks)) := by
  set width := profile.widthBytes.toNat with width_eq
  induction fuel generalizing row offset with
  | zero => omega
  | succ fuel ih =>
      by_cases more : row < height
      · obtain ⟨width_nonneg, width_lt, bandHeight_pos, rows_lt⟩ :=
          fits.resolve_left (Nat.ne_zero_of_lt more)
        let rows := (min profile.bandHeight (height - row : Nat)).toNat
        have rows_pos : 1 ≤ rows := by omega
        have rows_fit : (rows : Int) ≤ profile.bandHeight := by omega
        have rows_le : row + rows ≤ height := by omega
        let data := (bitmap.drop (row * width)).take (rows * width)
        obtain ⟨blocks, cut, looped⟩ :=
          ih (row + rows) (offset + 8 + data.length) rows_le (by omega)
        refine ⟨⟨rows, data⟩ :: blocks, cut.cons_rows size rows_pos rows_fit rows_le, ?_⟩
        rw [bandLoop, if_pos more]
        simp only
        rw [encodeRasterHeader_of_fits width_nonneg width_lt (by omega) (by omega) data]
        simp only [Block.header_length]
        rw [looped]
        rfl
      · rw [bandLoop, if_neg more]
        exact ⟨[], Cut.end size (by omega), rfl⟩

/-- The bands lie behind the offset the loop starts at. -/
theorem bandLoop_ends {widthBytes bandHeight : Int} {mode : ScaleMode} {bitmap : Bytes}
    {height fuel row offset : Nat} {stream : Bytes} {bands : List Band}
    (looped : bandLoop widthBytes bandHeight mode bitmap height fuel row offset =
      some (.ok (stream, bands))) : ∀ band ∈ bands, offset ≤ band.dataEnd := by
  induction fuel generalizing row offset stream bands with
  | zero => cases looped
  | succ fuel ih =>
      rw [bandLoop] at looped
      dsimp only at looped
      split at looped
      · split at looped
        · cases looped
        · split at looped
          · rename_i later others rest
            obtain ⟨rfl, rfl⟩ := Prod.mk.inj (Except.ok.inj (Option.some.inj looped))
            intro band member
            rcases List.mem_cons.mp member with rfl | later
            · dsimp only
              omega
            · have behind := ih rest band later
              omega
          · rename_i other
            exact absurd looped (other _ _)
      · obtain ⟨rfl, rfl⟩ := Prod.mk.inj (Except.ok.inj (Option.some.inj looped))
        simp

theorem toBytes2_eq_ok_iff {value : Int} :
    (∃ bytes, toBytes2 value = .ok bytes) ↔ 0 ≤ value ∧ value < 65536 := by
  unfold toBytes2
  split_ifs with negative large
  · simp [not_le.mpr negative]
  · simp [not_lt.mpr large]
  · simp [not_lt.mp negative, not_le.mp large]

theorem encodeRasterHeader_eq_ok_iff {widthBytes rows : Int} {mode : ScaleMode} :
    (∃ header, encodeRasterHeader widthBytes rows mode = .ok header) ↔
      (0 ≤ widthBytes ∧ widthBytes < 65536) ∧ 0 ≤ rows ∧ rows < 65536 := by
  rw [← toBytes2_eq_ok_iff, ← toBytes2_eq_ok_iff]
  unfold encodeRasterHeader
  constructor
  · rintro ⟨header, encoded⟩
    obtain ⟨width, widthEncoded, encoded⟩ := except_bind_eq_ok.mp encoded
    obtain ⟨height, heightEncoded, -⟩ := except_bind_eq_ok.mp encoded
    exact ⟨⟨width, widthEncoded⟩, height, heightEncoded⟩
  · rintro ⟨⟨width, widthEncoded⟩, height, heightEncoded⟩
    rw [widthEncoded, heightEncoded]
    exact ⟨_, rfl⟩

/-- A round that adds no row leaves the loop where it was, until its fuel is used up. -/
theorem bandLoop_stuck {widthBytes bandHeight : Int} (nonpos : bandHeight ≤ 0) {mode : ScaleMode}
    {bitmap : Bytes} {height row : Nat} (inside : row < height) (fuel offset : Nat) :
    ∀ result, bandLoop widthBytes bandHeight mode bitmap height fuel row offset ≠
      some (.ok result) := by
  induction fuel generalizing offset with
  | zero => simp [bandLoop]
  | succ fuel ih =>
      intro result looped
      have none : (min bandHeight (height - row : Nat)).toNat = 0 := by omega
      rw [bandLoop] at looped
      simp only [inside, if_true, none, Nat.add_zero] at looped
      split at looped
      · cases looped
      · split at looped
        · exact ih _ _ ‹_›
        · exact ih _ _ looped

/-- The loop ends exactly when the bands that are left fit their headers. -/
theorem bandLoop_eq_ok_iff {widthBytes bandHeight : Int} {mode : ScaleMode} {bitmap : Bytes}
    {height fuel row : Nat} (below : row ≤ height) (enough : height < row + fuel) (offset : Nat) :
    (∃ result, bandLoop widthBytes bandHeight mode bitmap height fuel row offset =
        some (.ok result)) ↔
      height ≤ row ∨ 0 ≤ widthBytes ∧ widthBytes < 65536 ∧ 1 ≤ bandHeight ∧
        min bandHeight (height - row : Nat) < 65536 := by
  induction fuel generalizing row offset with
  | zero => omega
  | succ fuel ih =>
      by_cases inside : row < height
      · have unfinished : ¬height ≤ row := not_le.mpr inside
        simp only [unfinished, false_or]
        by_cases progress : 1 ≤ bandHeight
        · have rows_pos : 1 ≤ (min bandHeight (height - row : Nat)).toNat := by omega
          have rows_le : row + (min bandHeight (height - row : Nat)).toNat ≤ height := by omega
          rw [bandLoop]
          simp only [inside, if_true]
          cases encoded :
            encodeRasterHeader widthBytes (min bandHeight (height - row : Nat)) mode with
          | error exc =>
              have unfit : ¬∃ header, encodeRasterHeader widthBytes
                  (min bandHeight (height - row : Nat)) mode = .ok header := by simp [encoded]
              rw [encodeRasterHeader_eq_ok_iff] at unfit
              simp only [Option.some.injEq, reduceCtorEq, exists_false, false_iff]
              omega
          | ok header =>
              have fit := encodeRasterHeader_eq_ok_iff.mp ⟨header, encoded⟩
              dsimp only
              constructor
              · rintro ⟨result, looped⟩
                exact ⟨fit.1.1, fit.1.2, progress, fit.2.2⟩
              · rintro ⟨wide, narrow, -, -⟩
                obtain ⟨⟨stream, bands⟩, rest⟩ := (ih rows_le (by omega)
                  (offset + header.length +
                    ((bitmap.drop (row * widthBytes.toNat)).take
                      ((min bandHeight (height - row : Nat)).toNat * widthBytes.toNat)).length)).mpr
                  (by omega)
                rw [rest]
                exact ⟨_, rfl⟩
        · constructor
          · rintro ⟨result, looped⟩
            exact absurd looped (bandLoop_stuck (by omega) inside _ _ _)
          · rintro ⟨-, -, positive, -⟩
            exact absurd positive progress
      · have finished : height ≤ row := not_lt.mp inside
        rw [bandLoop]
        simp [inside, finished]

/-! ## The whole stream -/

/-- The density command of a job: sent when a density is given and the profile has levels. -/
def densityCommands (profile : PrinterProfile) (density : Option Density) :
    List PrinterCommand :=
  (density.bind profile.densityValue).toList.map fun value =>
    .density (UInt8.ofNat value.toNat)

/-- The trailing feed of a job. -/
def feedCommands (feedLines : Int) : List PrinterCommand :=
  if 0 < feedLines then [.feed (UInt8.ofNat (min feedLines 255).toNat)] else []

theorem densityCommands_length (profile : PrinterProfile) (density : Option Density) :
    (densityCommands profile density).length =
      if density.isSome ∧ profile.densityLevels.isSome then 1 else 0 := by
  cases density with
  | none => rfl
  | some level =>
      cases levels : profile.densityLevels with
      | none => simp [densityCommands, PrinterProfile.densityValue, levels]
      | some values => cases level <;> simp [densityCommands, PrinterProfile.densityValue, levels]

theorem prologue_of_fits {profile : PrinterProfile} {density : Option Density}
    (fits : profile.DensityFits density) :
    prologue profile density =
      .ok ((PrinterCommand.reset :: densityCommands profile density).flatMap
        PrinterCommand.bytes) := by
  unfold prologue densityCommands
  cases value : density.bind profile.densityValue with
  | none => rfl
  | some number =>
      have byte : byteOf number = .ok [UInt8.ofNat number.toNat] := if_pos (fits number value)
      simp only [encodeDensity, byte]
      rfl

theorem prologue_eq_ok_iff {profile : PrinterProfile} {density : Option Density} :
    (∃ start, prologue profile density = .ok start) ↔ profile.DensityFits density := by
  unfold prologue PrinterProfile.DensityFits
  cases density.bind profile.densityValue with
  | none => simp
  | some value =>
      by_cases fits : 0 ≤ value ∧ value < 256
      · simp [encodeDensity, byteOf, fits, bind, Except.bind, pure, Except.pure]
      · simp [encodeDensity, byteOf, fits, bind, Except.bind]

theorem prologue_pos {profile : PrinterProfile} {density : Option Density} {start : Bytes}
    (begun : prologue profile density = .ok start) : 0 < start.length := by
  unfold prologue at begun
  split at begun
  · obtain rfl := Except.ok.inj begun
    decide
  · rename_i value _
    cases encoded : encodeDensity value with
    | error exc =>
        rw [encoded] at begun
        cases begun
    | ok command =>
        rw [encoded] at begun
        obtain rfl : encodeInit ++ command = start := Except.ok.inj begun
        simp [encodeInit]

/-- A stream starts with its prologue, so no band of it ends where it starts. -/
theorem buildRasterStream_begins {profile : PrinterProfile} {bitmap : Bytes} {height : Nat}
    {density : Option Density} {mode : ScaleMode} {feedLines : Int} {stream : Bytes}
    {bands : List Band}
    (built : buildRasterStream profile bitmap height density mode feedLines =
      some (.ok (stream, bands))) : 0 < stream.length ∧ ∀ band ∈ bands, 0 < band.dataEnd := by
  unfold buildRasterStream at built
  split at built
  · cases built
  · rename_i start begun
    have pos := prologue_pos begun
    split at built
    · cases built
    · cases built
    · rename_i raster others looped
      split at built
      · cases built
      · obtain ⟨rfl, rfl⟩ := Prod.mk.inj (Except.ok.inj (Option.some.inj built))
        constructor
        · simp only [List.length_append]
          omega
        · exact fun band member => Nat.lt_of_lt_of_le pos (bandLoop_ends looped band member)

theorem trailer_eq (feedLines : Int) :
    trailer feedLines = .ok ((feedCommands feedLines).flatMap PrinterCommand.bytes) := by
  unfold trailer feedCommands
  split
  · have inRange : 1 ≤ min feedLines 255 ∧ min feedLines 255 ≤ 255 := by omega
    rw [encodeFeedLines, if_pos inRange]
    rfl
  · rfl

/-- The prologue of a profile that fits, as bytes. -/
def prologueBytes (profile : PrinterProfile) (density : Option Density) : Bytes :=
  (PrinterCommand.reset :: densityCommands profile density).flatMap PrinterCommand.bytes

/-- The stream is the prologue, the blocks of the bitmap and the trailing feed. -/
theorem buildRasterStream_eq {profile : PrinterProfile} {density : Option Density} {height : Nat}
    (byte : profile.DensityFits density) (fits : profile.BandsFit height) {bitmap : Bytes}
    (size : bitmap.length = profile.widthBytes.toNat * height) (mode : ScaleMode)
    (feedLines : Int) :
    ∃ blocks, Cut profile height bitmap blocks ∧
      buildRasterStream profile bitmap height density mode feedLines =
        some (.ok (prologueBytes profile density ++
            blocks.flatMap (Block.bytes profile.widthBytes.toNat mode) ++
            (feedCommands feedLines).flatMap PrinterCommand.bytes,
          bandMap (prologueBytes profile density).length blocks)) := by
  obtain ⟨blocks, cut, looped⟩ :=
    bandLoop_cuts fits mode size (height + 1) 0 (prologueBytes profile density).length
      (Nat.zero_le height) (by omega)
  refine ⟨blocks, by simpa using cut, ?_⟩
  unfold buildRasterStream
  rw [prologue_of_fits byte]
  simp only
  rw [show (PrinterCommand.reset :: densityCommands profile density).flatMap
    PrinterCommand.bytes = prologueBytes profile density from rfl, looped]
  simp only
  rw [trailer_eq]

/-- The stream ends without an exception exactly when density and bands fit their fields. -/
theorem buildRasterStream_eq_ok_iff {profile : PrinterProfile} {bitmap : Bytes} {height : Nat}
    {density : Option Density} {mode : ScaleMode} {feedLines : Int} :
    (∃ stream bands, buildRasterStream profile bitmap height density mode feedLines =
        some (.ok (stream, bands))) ↔
      profile.DensityFits density ∧ profile.BandsFit height := by
  rw [← @prologue_eq_ok_iff profile density]
  unfold buildRasterStream
  cases begun : prologue profile density with
  | error exc => simp
  | ok start =>
      have loop := @bandLoop_eq_ok_iff profile.widthBytes profile.bandHeight mode bitmap height
        (height + 1) 0 (Nat.zero_le _) (by omega) start.length
      have fed := trailer_eq feedLines
      have fits : profile.BandsFit height ↔ ∃ result, bandLoop profile.widthBytes
          profile.bandHeight mode bitmap height (height + 1) 0 start.length =
            some (.ok result) := by
        rw [loop, Nat.le_zero_eq, Nat.sub_zero]
        rfl
      rw [fits]
      dsimp only
      cases ended : bandLoop profile.widthBytes profile.bandHeight mode bitmap height (height + 1) 0
          start.length with
      | none => simp
      | some outcome =>
          cases outcome with
          | error exc => simp
          | ok result => simp [fed]

/-- A profile that fits always has a stream, whatever the bitmap holds. -/
theorem buildRasterStream_ok {profile : PrinterProfile} (fits : profile.Fits) (bitmap : Bytes)
    (height : Nat) (density : Option Density) (mode : ScaleMode) (feedLines : Int) :
    ∃ job, buildRasterStream profile bitmap height density mode feedLines = some (.ok job) := by
  obtain ⟨stream, bands, built⟩ := buildRasterStream_eq_ok_iff.mpr
    ⟨fits.densityFits density, fits.bandsFit height⟩
  exact ⟨(stream, bands), built⟩

/-- The rows of a block fit the field of its header. -/
theorem Cut.rows_lt {profile : PrinterProfile} {rows : Nat} {bitmap : Bytes} {blocks : List Block}
    (fits : profile.BandsFit rows) (cut : Cut profile rows bitmap blocks) {block : Block}
    (present : block ∈ blocks) : profile.widthBytes < 65536 ∧ block.rows < 65536 := by
  have pos := cut.rows_pos block present
  have le := cut.rows_le block present
  have below : block.rows ≤ rows := by
    rw [← cut.rows_sum]
    exact List.single_le_sum (fun _ _ => Nat.zero_le _) _ (List.mem_map_of_mem present)
  obtain ⟨-, width_lt, -, rows_lt⟩ := fits.resolve_left (by omega)
  omega

theorem Cut.commands_legal {profile : PrinterProfile} {rows : Nat} (fits : profile.BandsFit rows)
    {bitmap : Bytes} {blocks : List Block} (cut : Cut profile rows bitmap blocks)
    (mode : ScaleMode) :
    ∀ command ∈ blocks.map (Block.command profile.widthBytes.toNat mode), command.Legal := by
  intro command member
  obtain ⟨block, present, rfl⟩ := List.mem_map.mp member
  obtain ⟨width_lt, rows_lt⟩ := cut.rows_lt fits present
  exact Block.command_legal (by omega) rows_lt (cut.sized block present)

theorem densityCommands_legal (profile : PrinterProfile) (density : Option Density) :
    ∀ command ∈ PrinterCommand.reset :: densityCommands profile density, command.Legal := by
  intro command member
  rcases List.mem_cons.mp member with rfl | later
  · trivial
  · obtain ⟨value, -, rfl⟩ := List.mem_map.mp later
    trivial

theorem feedCommands_legal (feedLines : Int) :
    ∀ command ∈ feedCommands feedLines, command.Legal := by
  intro command member
  unfold feedCommands at member
  split at member
  · obtain rfl := List.mem_singleton.mp member
    trivial
  · simp at member

/-- An assembled stream is read as the commands it was made of. -/
theorem parse_assembled {profile : PrinterProfile} {rows : Nat} (fits : profile.BandsFit rows)
    {bitmap : Bytes} {blocks : List Block} (cut : Cut profile rows bitmap blocks)
    (density : Option Density) (mode : ScaleMode) (feedLines : Int) :
    PrinterCommand.parse (prologueBytes profile density ++
        blocks.flatMap (Block.bytes profile.widthBytes.toNat mode) ++
        (feedCommands feedLines).flatMap PrinterCommand.bytes) =
      some (.reset :: densityCommands profile density ++
        blocks.map (Block.command profile.widthBytes.toNat mode) ++ feedCommands feedLines) := by
  rw [prologueBytes, ← Block.flatMap_command_bytes, ← List.flatMap_append,
    ← List.flatMap_append]
  apply PrinterCommand.parse_flatMap_bytes
  intro command member
  rcases List.mem_append.mp member with before | feed
  · rcases List.mem_append.mp before with start | raster
    · exact densityCommands_legal profile density command start
    · exact cut.commands_legal fits mode command raster
  · exact feedCommands_legal feedLines command feed

/-- The stream of a print job decodes to its commands: the reset, the density when there is one,
the bands of the bitmap and the feed, and the band map names where each band stands. -/
theorem buildRasterStream_decodes (profile : PrinterProfile) (fits : profile.Fits)
    (bitmap : Bytes) (height : Nat)
    (size : bitmap.length = profile.widthBytes.toNat * height)
    (density : Option Density) (mode : ScaleMode) (feedLines : Int) :
    ∃ stream bands blocks densityPart feedPart,
      buildRasterStream profile bitmap height density mode feedLines =
        some (.ok (stream, bands)) ∧
      PrinterCommand.parse stream =
        some (.reset :: densityPart ++
          blocks.map (Block.command profile.widthBytes.toNat mode) ++ feedPart) ∧
      (∀ value, density.bind profile.densityValue = some value →
        densityPart = [.density (UInt8.ofNat value.toNat)]) ∧
      (density = none ∨ profile.densityLevels = none → densityPart = []) ∧
      feedPart =
        (if 0 < feedLines then [.feed (UInt8.ofNat (min feedLines 255).toNat)] else []) ∧
      (∀ block ∈ blocks, 1 ≤ block.rows ∧ (block.rows : Int) ≤ profile.bandHeight) ∧
      (blocks.map Block.rows).sum = height ∧
      blocks.flatMap Block.data = bitmap ∧
      Maps stream profile.widthBytes.toNat mode (prologueBytes profile density).length
        bands blocks := by
  have bands := fits.bandsFit height
  obtain ⟨blocks, cut, built⟩ :=
    buildRasterStream_eq (fits.densityFits density) bands size mode feedLines
  refine ⟨_, _, blocks, densityCommands profile density, feedCommands feedLines, built,
    ?_, ?_, ?_, rfl, ?_, cut.rows_sum, cut.data_eq, ?_⟩
  · exact parse_assembled bands cut density mode feedLines
  · intro value valued
    simp [densityCommands, valued]
  · rintro absent
    apply List.eq_nil_of_length_eq_zero
    rw [densityCommands_length]
    rcases absent with rfl | absent
    · simp
    · simp [absent]
  · exact fun block present => ⟨cut.rows_pos block present, cut.rows_le block present⟩
  · exact maps_bandMap _ _ _ _ _

/-- A page of three black rows for the M08F. -/
theorem buildRasterStream_decodes_m08f :
    ∃ stream bands blocks densityPart feedPart,
      buildRasterStream m08f (List.replicate 630 0xff) 3 (some .high) .normal 20 =
        some (.ok (stream, bands)) ∧
      PrinterCommand.parse stream =
        some (.reset :: densityPart ++
          blocks.map (Block.command m08f.widthBytes.toNat .normal) ++ feedPart) ∧
      (∀ value, (some Density.high).bind m08f.densityValue = some value →
        densityPart = [.density (UInt8.ofNat value.toNat)]) ∧
      (some Density.high = none ∨ m08f.densityLevels = none → densityPart = []) ∧
      feedPart = (if (0 : Int) < 20 then [.feed (UInt8.ofNat (min (20 : Int) 255).toNat)] else []) ∧
      (∀ block ∈ blocks, 1 ≤ block.rows ∧ (block.rows : Int) ≤ m08f.bandHeight) ∧
      (blocks.map Block.rows).sum = 3 ∧
      blocks.flatMap Block.data = List.replicate 630 0xff ∧
      Maps stream m08f.widthBytes.toNat .normal (prologueBytes m08f (some .high)).length
        bands blocks :=
  buildRasterStream_decodes m08f m08f_fits (List.replicate 630 0xff) 3
    (by rw [List.length_replicate]; rfl) (some .high) .normal 20

end Phomemo
