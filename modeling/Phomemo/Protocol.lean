import Phomemo.Codec
import Phomemo.Python

/-!
# Printer commands

The encoders of `protocol.py` and a reference parser of the commands a print job is made of.
-/

namespace Phomemo

/-- Print density levels. -/
inductive Density where
  | low
  | medium
  | high
  deriving DecidableEq, Repr

/-- GS v 0 raster scaling modes. -/
inductive ScaleMode where
  | normal
  | doubleWidth
  | doubleHeight
  | quadruple
  deriving DecidableEq, Repr

/-- `int(mode)`. -/
def ScaleMode.byte : ScaleMode → UInt8
  | .normal => 0x00
  | .doubleWidth => 0x01
  | .doubleHeight => 0x02
  | .quadruple => 0x03

/-- `bytes([value])`. -/
def byteOf (value : Int) : Except PyExc Bytes :=
  if 0 ≤ value ∧ value < 256 then
    .ok [UInt8.ofNat value.toNat]
  else
    .error (.valueError "bytes must be in range(0, 256)")

/-- `value.to_bytes(2, "little")`. -/
def toBytes2 (value : Int) : Except PyExc Bytes :=
  if value < 0 then
    .error (.overflowError "can't convert negative int to unsigned")
  else if 65536 ≤ value then
    .error (.overflowError "int too big to convert")
  else
    .ok (Codec.pair value.toNat)

/-- `ESC @`: initialize printer state. -/
def encodeInit : Bytes := [0x1b, 0x40]

/-- `ESC N 04 <n>`: set print concentration. -/
def encodeDensity (value : Int) : Except PyExc Bytes := do
  let byte ← byteOf value
  return [0x1b, 0x4e, 0x04] ++ byte

/-- `GS v 0`: raster bit image header. -/
def encodeRasterHeader (widthBytes height : Int) (mode : ScaleMode) : Except PyExc Bytes := do
  let width ← toBytes2 widthBytes
  let rows ← toBytes2 height
  return [0x1d, 0x76, 0x30] ++ [mode.byte] ++ width ++ rows

/-- `ESC d <n>`: feed n lines. -/
def encodeFeedLines (lines : Int) : Except PyExc Bytes :=
  if 1 ≤ lines ∧ lines ≤ 255 then
    .ok ([0x1b, 0x64] ++ [UInt8.ofNat lines.toNat])
  else
    .error (.valueError s!"Feed lines must be 1-255, got {lines}")

/-- `ESC N 07 <value>`: set auto-off timer. -/
def encodeAutoOffTimer (value : Int) : Except PyExc Bytes :=
  if 0 ≤ value ∧ value ≤ 255 then
    .ok ([0x1b, 0x4e, 0x07] ++ [UInt8.ofNat value.toNat])
  else
    .error (.valueError s!"Timer value must be 0-255, got {value}")

/-- Device queries (`1f 11 XX`) the driver sends. -/
inductive QueryCommand where
  | battery
  | firmware
  | serialAscii
  | paperState
  | lidState
  | deviceTimer
  deriving DecidableEq, Repr

/-- The bytes of a query. -/
def QueryCommand.bytes : QueryCommand → Bytes
  | .battery => [0x1f, 0x11, 0x08]
  | .firmware => [0x1f, 0x11, 0x07]
  | .serialAscii => [0x1f, 0x11, 0x09]
  | .paperState => [0x1f, 0x11, 0x11]
  | .lidState => [0x1f, 0x11, 0x12]
  | .deviceTimer => [0x1f, 0x11, 0x0e]

/-! ## The reference parser -/

/-- A command of a print job as the printer reads it. -/
inductive PrinterCommand where
  /-- `ESC @`. -/
  | reset
  /-- `ESC N 04 value`. -/
  | density (value : UInt8)
  /-- `GS v 0 mode`, width in bytes, rows, and the raster data. -/
  | raster (mode : UInt8) (widthBytes rows : Nat) (data : Bytes)
  /-- `ESC d lines`. -/
  | feed (lines : UInt8)
  deriving DecidableEq, Repr

namespace PrinterCommand

/-- Read one command off the front of the input. -/
def read : Bytes → Option (PrinterCommand × Bytes)
  | 0x1b :: 0x40 :: rest => some (reset, rest)
  | 0x1b :: 0x4e :: 0x04 :: value :: rest => some (density value, rest)
  | 0x1b :: 0x64 :: lines :: rest => some (feed lines, rest)
  | 0x1d :: 0x76 :: 0x30 :: mode :: widthLow :: widthHigh :: rowsLow :: rowsHigh :: rest =>
      let widthBytes := Codec.ofPair widthLow widthHigh
      let rows := Codec.ofPair rowsLow rowsHigh
      if widthBytes * rows ≤ rest.length then
        some (raster mode widthBytes rows (rest.take (widthBytes * rows)),
          rest.drop (widthBytes * rows))
      else
        none
  | _ => none

/-- Read a whole byte string as commands, with nothing left over. -/
def parse (input : Bytes) : Option (List PrinterCommand) :=
  Codec.decodeAll read input

/-- The bytes of a command. -/
def bytes : PrinterCommand → Bytes
  | reset => [0x1b, 0x40]
  | density value => [0x1b, 0x4e, 0x04, value]
  | raster mode widthBytes rows data =>
      [0x1d, 0x76, 0x30, mode] ++ Codec.pair widthBytes ++ Codec.pair rows ++ data
  | feed lines => [0x1b, 0x64, lines]

/-- A raster command whose size fields fit and whose data has the size they state. -/
def Legal : PrinterCommand → Prop
  | raster _ widthBytes rows data =>
      widthBytes < 65536 ∧ rows < 65536 ∧ data.length = widthBytes * rows
  | _ => True

theorem read_inverts : Codec.Inverts read bytes Legal := by
  intro command legal rest
  cases command with
  | reset => rfl
  | density value => rfl
  | feed lines => rfl
  | raster mode widthBytes rows data =>
      obtain ⟨widthFits, rowsFit, size⟩ := legal
      simp only [bytes, Codec.pair, List.cons_append, List.nil_append, read,
        Codec.ofPair_pair widthFits, Codec.ofPair_pair rowsFit, List.length_append, size]
      rw [if_pos (Nat.le_add_right _ _), ← size, List.take_left, List.drop_left]

theorem bytes_ne_nil (command : PrinterCommand) : command.bytes ≠ [] := by
  cases command <;> simp [bytes]

/-- Legal commands sent one after the other are read back as they were. -/
theorem parse_flatMap_bytes {commands : List PrinterCommand}
    (legal : ∀ command ∈ commands, command.Legal) :
    parse (commands.flatMap bytes) = some commands :=
  Codec.decodeAll_flatMap read_inverts (fun command _ => bytes_ne_nil command) legal

end PrinterCommand

end Phomemo
