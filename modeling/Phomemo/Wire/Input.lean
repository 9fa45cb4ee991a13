import Phomemo.Transfer
import Phomemo.Upkeep.Wire

/-!
# What a printer reads

The bytes the bridge writes to a printer are commands of print jobs, queries and the setting of the
auto-off timer.  Each delimits itself, so a printer that hears all of them from the start of the
connection tells them apart.
-/

namespace Phomemo

/-- The query of a code byte. -/
def QueryCommand.ofCode (code : UInt8) : Option QueryCommand :=
  if code = 0x08 then some .battery
  else if code = 0x07 then some .firmware
  else if code = 0x09 then some .serialAscii
  else if code = 0x11 then some .paperState
  else if code = 0x12 then some .lidState
  else if code = 0x0e then some .deviceTimer
  else none

/-- A command as the printer reads it. -/
inductive PrinterInput where
  | command (command : PrinterCommand)
  | query (query : QueryCommand)
  /-- `ESC N 07 value`. -/
  | autoOff (value : UInt8)
  deriving DecidableEq, Repr

namespace PrinterInput

/-- Read one command off the front of the input. -/
def read : Bytes → Option (PrinterInput × Bytes)
  | 0x1f :: 0x11 :: code :: rest => (QueryCommand.ofCode code).map fun asked => (query asked, rest)
  | 0x1b :: 0x4e :: 0x07 :: value :: rest => some (autoOff value, rest)
  | input => (PrinterCommand.read input).map fun (read, rest) => (command read, rest)

/-- Read a whole byte string as commands, with nothing left over. -/
def parse (input : Bytes) : Option (List PrinterInput) :=
  Codec.decodeAll read input

/-- The bytes of a command. -/
def bytes : PrinterInput → Bytes
  | command sent => sent.bytes
  | query asked => asked.bytes
  | autoOff value => [0x1b, 0x4e, 0x07, value]

/-- A command whose raster, if it has one, is of the size it states. -/
def Legal : PrinterInput → Prop
  | command sent => sent.Legal
  | _ => True

theorem read_inverts : Codec.Inverts read bytes Legal := by
  intro input legal rest
  cases input with
  | query asked => cases asked <;> rfl
  | autoOff value => rfl
  | command sent =>
      have inverted := PrinterCommand.read_inverts sent legal rest
      have whole : (PrinterCommand.read (sent.bytes ++ rest)).map
          (fun (read, rest) => (command read, rest)) = some (command sent, rest) := by
        rw [inverted]
        rfl
      cases sent <;> exact whole

theorem bytes_ne_nil (input : PrinterInput) : input.bytes ≠ [] := by
  cases input with
  | command sent => exact sent.bytes_ne_nil
  | query asked => cases asked <;> simp [bytes, QueryCommand.bytes]
  | autoOff value => simp [bytes]

/-- Legal commands sent one after the other are read back as they were. -/
theorem parse_flatMap_bytes {inputs : List PrinterInput}
    (legal : ∀ input ∈ inputs, input.Legal) : parse (inputs.flatMap bytes) = some inputs :=
  Codec.decodeAll_flatMap read_inverts (fun input _ => bytes_ne_nil input) legal

theorem flatMap_command_bytes (commands : List PrinterCommand) :
    (commands.map command).flatMap bytes = commands.flatMap PrinterCommand.bytes := by
  rw [List.flatMap_map]
  rfl

/-- The commands that are sent outside of pages. -/
def Brief : PrinterInput → Prop
  | command .reset => True
  | command (.feed _) => True
  | command _ => False
  | query _ => True
  | autoOff _ => True

theorem Brief.legal {input : PrinterInput} (brief : input.Brief) : input.Legal := by
  cases input with
  | command sent =>
      cases sent with
      | reset => trivial
      | feed lines => trivial
      | density value => cases brief
      | raster mode widthBytes rows data => cases brief
  | query asked => trivial
  | autoOff value => trivial

end PrinterInput

/-- What is written outside of pages is one command of its own. -/
theorem Commanded.brief {data : Bytes} (commanded : Commanded data) :
    ∃ input : PrinterInput, input.Brief ∧ input.bytes = data := by
  cases commanded with
  | query asked => exact ⟨.query asked, trivial, rfl⟩
  | init => exact ⟨.command .reset, trivial, rfl⟩
  | @feed lines _ encoded =>
      unfold encodeFeedLines at encoded
      split at encoded
      · cases encoded
        exact ⟨.command (.feed (UInt8.ofNat lines.toNat)), trivial, rfl⟩
      · cases encoded
  | @autoOff value _ encoded =>
      unfold encodeAutoOffTimer at encoded
      split at encoded
      · cases encoded
        exact ⟨.autoOff (UInt8.ofNat value.toNat), trivial, rfl⟩
      · cases encoded

end Phomemo
