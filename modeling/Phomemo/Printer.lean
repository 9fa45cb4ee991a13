import Mathlib.Data.List.Sort
import Phomemo.Raster
import Phomemo.Transport

/-!
# The printer client

The coroutines of `Printer`: queries and their waiters, readiness, connection, paper transport
and raster printing.
-/

namespace Phomemo

open Async Coroutine

/-- Static surroundings of the process: the models, the configuration and the library functions
that are taken as they are. -/
structure Env where
  registry : Registry
  /-- `str.upper`. -/
  upper : String → String
  /-- `repr` of a JSON value. -/
  repr : Json → String
  /-- Pillow's Floyd-Steinberg conversion of a gray image. -/
  diffuse : Image → Nat → Nat → UInt8
  /-- `config.idle_disconnect_minutes > 0`. -/
  holdEnabled : Bool := true
  /-- `config.auto_off_minutes`. -/
  autoOffMinutes : Option Int := none
  /-- `config.settle_seconds`. -/
  settleSeconds : ℚ := 3

/-- Scan for devices, keeping those in whose name the pattern is found, sorted by name. -/
def scanDevices (compiled : Except String (String → Bool)) : Py (List Device) := do
  let answer ← tick
  match answer.bleakError with
  | some text =>
      raise (.connectionError s!"Bluetooth scan failed, is the adapter powered on? {text}")
  | none =>
      match compiled with
      | .error text => raise (.patternError text)
      | .ok search =>
          let matching := answer.devices.filter fun device =>
            match device.name with
            | some name => name ≠ "" ∧ search name
            | none => false
          return matching.insertionSort fun left right =>
            left.name.getD "" ≤ right.name.getD ""

/-- The addresses of devices, sorted, for a message. -/
def addressList (devices : List Device) : String :=
  ", ".intercalate ((devices.map Device.address).insertionSort fun left right => left ≤ right)

namespace Printer

/-! ## Queries -/

/-- Wait for the next event of a class; `none` on timeout. -/
def waitFor (p : PrinterId) (eventType : EventClass) : Py (Option DeviceEvent) := do
  let w ← read
  let entry := (w.printers p).listeners.waiters.length
  modify fun w => w.setListeners p fun listeners =>
    { listeners with waiters := listeners.waiters ++ [{ eventType := eventType }] }
  pause
  let w ← read
  let result := (w.printers p).listeners.waiters[entry]?.bind Waiter.result
  modify fun w => w.setListeners p fun listeners =>
    { listeners with waiters := listeners.waiters.eraseIdx entry }
  return result

/-- Send a query and wait for the matching response. -/
def query (p : PrinterId) (command : QueryCommand) (eventType : EventClass) :
    Py (Option DeviceEvent) := do
  BleTransport.write p command.bytes
  waitFor p eventType

/-- The battery percentage. -/
def queryBattery (p : PrinterId) : Py (Option Nat) := do
  let event ← query p .battery .batteryEvent
  return event.bind fun event =>
    match event.data with | .battery percent => some percent | _ => none

/-- The firmware version. -/
def queryFirmware (p : PrinterId) : Py (Option String) := do
  let event ← query p .firmware .firmwareEvent
  return event.bind fun event =>
    match event.data with
    | .firmware major minor patch => some s!"{major}.{minor}.{patch}"
    | _ => none

/-- The serial number. -/
def querySerial (p : PrinterId) : Py (Option String) := do
  let event ← query p .serialAscii .serialEvent
  return event.bind fun event => match event.data with | .serial value => some value | _ => none

/-- The lid state. -/
def queryLid (p : PrinterId) : Py (Option LidState) := do
  let event ← query p .lidState .lidEvent
  return event.bind fun event => match event.data with | .lid state => some state | _ => none

/-- The paper sensor. -/
def queryPaper (p : PrinterId) : Py (Option PaperState) := do
  let event ← query p .paperState .paperEvent
  let answer := event.bind fun event =>
    match event.data with | .paper state => some state | _ => none
  emit (.paperRead answer)
  return answer

/-- The auto-off timer in minutes. -/
def queryAutoOff (p : PrinterId) : Py (Option Int) := do
  let event ← query p .deviceTimer .timerEvent
  return event.bind fun event =>
    match event.data with | .timer value => some (value * 5) | _ => none

/-- Snapshot of device state from query responses. -/
structure DeviceInfo where
  battery : Option Nat
  lid : Option LidState
  paper : Option PaperState
  firmware : Option String
  serial : Option String
  autoOffMinutes : Option Int

/-- Query all device information; the paper only with the lid closed. -/
def queryDeviceInfo (p : PrinterId) : Py DeviceInfo := do
  let battery ← queryBattery p
  let firmware ← queryFirmware p
  let serial ← querySerial p
  let lid ← queryLid p
  let paper ← if lid = some .closed then queryPaper p else pure none
  let autoOffMinutes ← queryAutoOff p
  return { battery, lid, paper, firmware, serial, autoOffMinutes }

/-! ## Connection -/

/-- Keep the address and name of a device a name scan found. -/
def learn (p : PrinterId) (device : Device) : Py Unit :=
  modify fun w => w.setPrinter p fun printer =>
    { printer with address := some (.text device.address), advertisedName := device.name }

/-- Take over the name of the device an address scan found, if it has one. -/
def rename (p : PrinterId) (device : Device) : Py Unit :=
  modify fun w => w.setPrinter p fun printer =>
    { printer with
      advertisedName :=
        match device.name with
        | some name => if name = "" then printer.advertisedName else some name
        | none => printer.advertisedName }

/-- Find the device of a printer whose address is not known, by its model's name pattern. -/
def connectByName (env : Env) (p : PrinterId) : Py Unit := do
  let w ← read
  let profile := (w.printers p).profile
  let devices ← scanDevices (.ok (env.registry.search profile.bleNamePattern))
  match devices with
  | [] =>
      let name := profile.name
      let pattern := profile.bleNamePattern
      raise (.connectionError
        s!"No device found matching profile '{name}' (pattern '{pattern}') within 5.0s")
  | [device] =>
      learn p device
      BleTransport.connect p device
  | _ =>
      raise (.connectionError
        s!"Several printers in range ({addressList devices}); choose one by address")

/-- Find the device at an address by a targeted scan. -/
def connectByAddress (p : PrinterId) (address : String) : Py Unit := do
  let answer ← tick
  match answer.bleakError with
  | some text => raise (.connectionError s!"Scan for {address} failed: {text}")
  | none =>
      match answer.found with
      | none => raise (.connectionError s!"Device {address} not found within 5.0s")
      | some device =>
          emit (.resolved address device)
          rename p device
          BleTransport.connect p device

/-- Connect to the printer. -/
def connect (env : Env) (p : PrinterId) : Py Unit := do
  let w ← read
  match (w.printers p).address with
  | none => connectByName env p
  | some (.text address) => connectByAddress p address
  | some (.device device) => BleTransport.connect p device

/-- Disconnect from the printer. -/
def disconnect (p : PrinterId) : Py Unit := BleTransport.disconnect p

/-- Drop and re-establish the connection to the same device. -/
def reconnect (env : Env) (p : PrinterId) : Py Unit := do
  disconnect p
  connect env p

/-- Switch to another profile, keeping the connection. -/
def useProfile (p : PrinterId) (profile : PrinterProfile) : Py Unit := do
  let w ← read
  let old := (w.printers p).profile
  if w.isConnected p ∧ profile.bleSettings ≠ old.bleSettings then
    let new := profile.name
    let current := old.name
    raise (.valueError
      s!"profile '{new}' has other BLE parameters than '{current}'; reconnect to use it")
  else
    modify fun w => w.setPrinter p fun printer =>
      { printer with
        profile := profile
        transport := { printer.transport with profile := profile } }
    emit (.usedProfile p old profile)

/-! ## Commands and paper transport -/

/-- Send `ESC @`. -/
def sendInit (p : PrinterId) : Py Unit := BleTransport.write p encodeInit

/-- Feed paper by a number of lines. -/
def feed (p : PrinterId) (lines : Int) : Py Unit := do
  let command ← ofExcept (encodeFeedLines lines)
  BleTransport.write p command

/-- The largest auto-off timer: one byte counting 5-minute steps. -/
def autoOffMaxMinutes : Int := 1275

/-- Set the auto-off timer. -/
def setAutoOffTimer (p : PrinterId) (minutes : Int) : Py Unit := do
  if ¬(0 ≤ minutes ∧ minutes ≤ autoOffMaxMinutes) ∨ minutes % 5 ≠ 0 then
    raise (.valueError
      s!"Timer must be a multiple of 5 between 0 and {autoOffMaxMinutes}, got {minutes}")
  else
    sendInit p
    let command ← ofExcept (encodeAutoOffTimer (minutes / 5))
    BleTransport.write p command

/-- Register a `watch_paper` callback; its place in the callback list is returned. -/
def addWatch (p : PrinterId) (watch : Watch) : Py Nat := do
  let w ← read
  modify fun w => w.setListeners p fun listeners =>
    { listeners with callbacks := listeners.callbacks ++ [watch] }
  return (w.printers p).listeners.callbacks.length

/-- Remove a callback. -/
def removeWatch (p : PrinterId) (slot : Nat) : Py Unit :=
  modify fun w => w.setListeners p fun listeners =>
    { listeners with callbacks := listeners.callbacks.eraseIdx slot }

/-- `absent.is_set()`. -/
def absentSet (w : World) (p : PrinterId) (slot : Nat) : Bool :=
  match (w.printers p).listeners.callbacks[slot]? with
  | some (.print absent _) => absent
  | some (.eject absent) => absent
  | none => false

/-- `lid_open.is_set()`. -/
def lidOpenSet (w : World) (p : PrinterId) (slot : Nat) : Bool :=
  match (w.printers p).listeners.callbacks[slot]? with
  | some (.print _ lidOpen) => lidOpen
  | _ => false

/-- Wait for the paper-absent event; `false` on timeout.  A flag that is set is not waited for. -/
def waitAbsent (p : PrinterId) (slot : Nat) : Py Bool := do
  let w ← read
  if absentSet w p slot then
    return true
  else
    pause
    let w ← read
    return absentSet w p slot

/-- Keep feeds queued until the sensor is clear; how many have been sent is carried along. -/
def ejectLoop (p : PrinterId) (slot maxFeeds : Nat) (stepRows clearRows : Int) (sent : Nat) :
    Py Bool :=
  iterate (fun sent => do
    if ← waitAbsent p slot then
      feed p clearRows
      return .inr true
    else if maxFeeds ≤ sent then
      return .inr false
    else
      feed p stepRows
      return .inl (sent + 1)) sent

/-- Feed the sheet out until the sensor reports it gone, then clear the rollers. -/
def ejectPaper (p : PrinterId) (maxFeeds : Nat := 64) (stepRows : Int := 120) (ahead : Nat := 2)
    (clearRows : Int := 160) : Py Bool := do
  let slot ← addWatch p (.eject false)
  andFinally
    (do
      let paper ← queryPaper p
      if paper = some .present then
        times (min ahead maxFeeds) (feed p stepRows)
        let gone ← ejectLoop p slot maxFeeds stepRows clearRows (min ahead maxFeeds)
        emit (.ejected gone)
        return gone
      else
        times 3 (feed p clearRows)
        emit (.ejected true)
        return true)
    (removeWatch p slot)

/-! ## Readiness -/

/-- What `check_ready` tells, as an enumeration of its reasons. -/
inductive Readiness where
  | ready
  | lidUnknown
  | lidOpen
  | paperUnknown
  | noPaper
  deriving DecidableEq, Repr

/-- The reason text. -/
def Readiness.reason : Readiness → String
  | ready => "ready"
  | lidUnknown => "Could not query lid state"
  | lidOpen => "Lid is open"
  | paperUnknown => "Could not query paper state"
  | noPaper => "No paper loaded"

/-- `reason.startswith("Could not query")`. -/
def Readiness.couldNotQuery : Readiness → Bool
  | lidUnknown => true
  | paperUnknown => true
  | _ => false

/-- Check whether the printer is ready to print. -/
def checkReady (p : PrinterId) : Py Readiness := do
  let lid ← queryLid p
  match lid with
  | none => return .lidUnknown
  | some .opened => return .lidOpen
  | some .closed =>
      let paper ← queryPaper p
      match paper with
      | none => return .paperUnknown
      | some .absent => return .noPaper
      | some .present => return .ready

/-- Poll until a sheet is loaded; carried along are the query timeouts in a row and whether the
connection was already re-established. -/
def pollReady (env : Env) (p : PrinterId) (deadline muteThreshold : Nat) : Py Unit :=
  iterate (fun (timeouts, reconnected) => do
    let readiness ← checkReady p
    if readiness = .ready then
      return .inr ()
    else
      let timeouts := if readiness.couldNotQuery then timeouts + 1 else 0
      if muteThreshold ≤ timeouts ∧ reconnected = false then
        reconnect env p
        return .inl (0, true)
      else
        let w ← read
        if deadline ≤ w.clock then
          raise (.timeoutError readiness.reason)
        else
          pause
          return .inl (timeouts, reconnected)) (0, false)

/-- Block until a sheet is loaded and seated at the print head; `timeout` in milliseconds. -/
def waitForReady (env : Env) (p : PrinterId) (timeout : Nat) (settle : ℚ)
    (muteThreshold : Nat := 3) : Py Unit := do
  let w ← read
  pollReady env p (w.clock + timeout) muteThreshold
  if 0 < settle then
    let _ ← waitFor p .paperEvent

/-! ## Raster printing -/

/-- Rows whose bytes lie entirely before an offset in the stream. -/
def rowsBefore (offset : Nat) (bands : List Band) (widthBytes : Nat) : Nat :=
  bands.foldl (fun rows band =>
    if band.dataEnd ≤ offset then rows + band.rows
    else if band.dataStart < offset then rows + (offset - band.dataStart) / widthBytes
    else rows) 0

/-- The bytes that complete the band in progress at an offset: the rest of its header, then
white. -/
def filler (stream : Bytes) (offset : Nat) (bands : List Band) : Bytes :=
  match bands.find? fun band => band.headerStart < offset ∧ offset < band.dataEnd with
  | none => []
  | some band =>
      slice stream offset band.dataStart ++
        List.replicate (band.dataEnd - max offset band.dataStart) 0

/-- Write bytes in pieces of at most `chunk`. -/
def writePieces (p : PrinterId) (chunk : Nat) : Nat → Bytes → Py Unit
  | 0, _ => pure ()
  | _ + 1, [] => pure ()
  | fuel + 1, data => do
      BleTransport.write p (data.take chunk)
      writePieces p chunk fuel (data.drop chunk)

/-- Complete the band in progress with white rows. -/
def padBand (p : PrinterId) (stream : Bytes) (offset : Nat) (bands : List Band) : Py Unit := do
  let w ← read
  let chunk := (w.printers p).transport.effectiveChunkBytes
  let rest := filler stream offset bands
  writePieces p chunk.toNat rest.length rest

/-- Where the last band ends: past it only the trailing feed remains. -/
def tailStart (stream : Bytes) (bands : List Band) : Nat :=
  match bands.getLast? with
  | some band => band.dataEnd
  | none => stream.length

/-- What a transfer works on. -/
structure Job where
  stream : Bytes
  bands : List Band
  height : Nat

/-- Send the stream in connection-sized chunks; `abort` reads the abort event and `slot` is the
place of the callback that sets the other two. -/
def transfer (p : PrinterId) (job : Job) (abort : World → Bool) (slot : Nat)
    (shortSheetFraction : ℚ) (onProgress : Nat → Nat → Py Unit) : Py Unit := do
  let w ← read
  let chunk := (w.printers p).transport.effectiveChunkBytes
  let widthBytes := (w.printers p).profile.widthBytes.toNat
  if chunk = 0 then
    raise (.zeroDivisionError "integer division or modulo by zero")
  else
    let total := (-(-(job.stream.length : Int) / chunk)).toNat
    let tail := tailStart job.stream job.bands
    iterate (fun (offset, sent) => do
      if offset < job.stream.length then
        let w ← read
        let unsent : ℚ := job.height - (w.printers p).rowsSent
        if abort w ∧ offset < tail then
          padBand p job.stream offset job.bands
          raise (.printAborted .cancelled)
        else if lidOpenSet w p slot ∧ offset < tail then
          padBand p job.stream offset job.bands
          raise (.printAborted .lidOpened)
        else if absentSet w p slot ∧ job.height ≠ 0 ∧
            shortSheetFraction < unsent / job.height then
          raise (.sheetRanOut "paper ran out")
        else
          let piece := (job.stream.drop offset).take chunk.toNat
          BleTransport.write p piece
          let offset := offset + piece.length
          let sent := sent + 1
          modify fun w => w.setRowsSent p (rowsBefore offset job.bands widthBytes)
          -- A failing progress callback is logged and ignored.
          handle (onProgress sent total) fun _ => pure ()
          return .inl (offset, sent)
      else
        return .inr ()) (0, 0)

/-- Wait for the motor to stop, then ask for the lid. -/
def awaitCompletion (p : PrinterId) (entry : Nat) : Py Unit := do
  let stopped := fun (w : World) =>
    ((w.printers p).listeners.waiters[entry]?.bind Waiter.result).isSome
  let w ← read
  -- A future that is done is not waited for.
  if stopped w then pure () else pause
  let w ← read
  if stopped w then
    let lid ← queryLid p
    match lid with
    | none => raise (.sheetRanOut "paper ran out before the page ended")
    | some .opened => raise (.printAborted .lidOpened)
    | some .closed => pure ()
  else
    raise (.timeoutError "Timed out waiting for print completion signal")

/-- The listeners of a print job: the motor-stop waiter and the `watch_paper` callback, with
their places. -/
def armJob (p : PrinterId) : Py (Nat × Nat) := do
  let w ← read
  modify fun w => w.setListeners p fun listeners =>
    { listeners with waiters := listeners.waiters ++ [{ eventType := .motorStopEvent }] }
  let slot ← addWatch p (.print false false)
  modify fun w => w.setRowsSent p 0
  return ((w.printers p).listeners.waiters.length, slot)

/-- Remove the listeners of a print job. -/
def disarmJob (p : PrinterId) (entry slot : Nat) : Py Unit := do
  modify fun w => w.setListeners p fun listeners =>
    { listeners with waiters := listeners.waiters.eraseIdx entry }
  removeWatch p slot
  modify fun w => w.setRowsSent p 0

/-- Send a pre-rendered bitmap as one continuous stream and wait for the motor stop. -/
def printBitmap (p : PrinterId) (bitmap : Bytes) (height : Nat) (density : Option Density)
    (abort : World → Bool) (onProgress : Nat → Nat → Py Unit) (mode : ScaleMode := .normal)
    (feedLines : Int := 20) (shortSheetFraction : ℚ := 1 / 4) : Py Unit := do
  let w ← read
  emit (.printCalled
    { printer := p, bitmap, height, held := w.bridge.printer,
      widthBytes := (w.printers p).profile.widthBytes, linked := w.isConnected p })
  if w.isConnected p then
    match buildRasterStream (w.printers p).profile bitmap height density mode feedLines with
    | none => diverge
    | some (.error exc) => raise exc
    | some (.ok (stream, bands)) =>
        let (entry, slot) ← armJob p
        andFinally
          (do
            transfer p ⟨stream, bands, height⟩ abort slot shortSheetFraction onProgress
            awaitCompletion p entry)
          (disarmJob p entry slot)
        emit .printReturned
  else
    raise (.runtimeError "Not connected")

end Printer

end Phomemo
