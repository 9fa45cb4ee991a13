import Mathlib.Logic.Function.Basic
import Phomemo.Async.Logic
import Phomemo.Events
import Phomemo.PageBuffer
import Phomemo.Registry

/-!
# The state of the bridge process

Printer objects live in a heap, since a command may keep using an object the bridge has replaced.
Every await of the source is a `tick`: the environment answers the awaited call and, meanwhile,
other callbacks and tasks of the event loop may run.
-/

namespace Phomemo

open Async

/-- A scanned Bluetooth device. -/
structure Device where
  address : String
  name : Option String
  deriving DecidableEq, Repr

/-- `str(device)`. -/
def Device.text (device : Device) : String :=
  let name := device.name.getD "None"
  s!"{device.address}: {name}"

/-- What a printer object was given to find its device with. -/
inductive PrinterAddress where
  | text (address : String)
  | device (device : Device)
  deriving DecidableEq, Repr

/-- The address as a string. -/
def PrinterAddress.toText : PrinterAddress → String
  | text address => address
  | device found => found.address

/-- A `BleakClient`: its identity and the address of its device. -/
structure Client where
  id : Nat
  address : String
  deriving DecidableEq, Repr

/-- The fields of a `BleTransport`. -/
structure Transport where
  profile : PrinterProfile
  client : Option Client := none
  connected : Bool := false
  effectiveChunkBytes : Int

/-- A new transport. -/
def Transport.new (profile : PrinterProfile) : Transport where
  profile := profile
  effectiveChunkBytes := profile.maxChunkBytes

/-- Whether the connection is active. -/
def Transport.isConnected (transport : Transport) : Bool :=
  transport.connected && transport.client.isSome

/-- The fields of a `Printer`. -/
structure Printer where
  profile : PrinterProfile
  address : Option PrinterAddress
  advertisedName : Option String
  transport : Transport
  listeners : Listeners := {}
  rowsSent : Nat := 0

/-- A new printer object. -/
def Printer.new (profile : PrinterProfile) (address : Option PrinterAddress) : Printer where
  profile := profile
  address := address
  advertisedName := match address with
    | some (.device device) => device.name
    | _ => none
  transport := Transport.new profile

/-- The printer's address, once known. -/
def Printer.addressText (printer : Printer) : Option String :=
  printer.address.map PrinterAddress.toText

/-- The position of a printer object in the heap. -/
abbrev PrinterId : Type := Nat

/-- The commands a session dispatches. -/
inductive CommandName where
  | discover
  | open
  | close
  | disconnect
  | status
  | info
  | autoOff
  | identify
  | testPage
  | waitReady
  | pageBegin
  | lines
  | pageEnd
  | eject
  deriving DecidableEq, Repr

/-- State shared by all sessions. -/
structure Bridge where
  /-- The printer connected or used last. -/
  printer : Option PrinterId := none
  /-- Whether that printer's model was named by the client. -/
  modelExplicit : Bool := false
  sessionActive : Bool := false
  /-- Values last read, by printer address. -/
  seen : List (String × List (String × Json)) := []
  /-- A hold timer is running. -/
  holdArmed : Bool := false
  /-- Disconnect tasks an expired hold created that have not started. -/
  holdScheduled : Nat := 0
  /-- Printers whose client a started disconnect task is still awaiting. -/
  holdInFlight : List PrinterId := []

/-- The fields of the active `Session`, and the `last` cell of its progress callback. -/
structure Session where
  pendingCmd : Option CommandName := none
  abort : Bool := false
  page : Option PageBuffer := none
  usedLink : Bool := false
  lastPercent : Int := -1

/-- The whole process. -/
structure World where
  printers : PrinterId → Printer
  nextPrinter : PrinterId := 0
  nextClient : Nat := 0
  bridge : Bridge := {}
  session : Session := {}
  /-- The loop's clock, in milliseconds. -/
  clock : Nat := 0

/-- What may run on the event loop while a command awaits. -/
inductive Incident where
  /-- The read loop takes an `abort` command. -/
  | abort
  /-- The peer drops the connection of a printer. -/
  | dropped (printer : PrinterId)
  /-- A notification arrives. -/
  | notified (printer : PrinterId) (events : List DeviceEvent)
  /-- The hold timer expires. -/
  | holdExpires
  /-- A scheduled disconnect task starts and runs to its first await. -/
  | holdStarts
  /-- The client a disconnect task awaits has disconnected. -/
  | holdEnds (printer : PrinterId)
  deriving DecidableEq, Repr

/-- One await: what ran meanwhile and how the awaited call was answered.  Each call reads the
fields it needs. -/
structure Tick where
  incidents : List Incident := []
  /-- The awaited call into bleak failed with this text. -/
  bleakError : Option String := none
  /-- The awaited worker thread raised. -/
  threadError : Option PyExc := none
  /-- The MTU, when one could be read. -/
  mtu : Option Int := none
  /-- The device an address scan found. -/
  found : Option Device := none
  /-- The devices a scan found. -/
  devices : List Device := []
  /-- Milliseconds that passed. -/
  elapsed : Nat := 0
  deriving DecidableEq

/-- Why the bridge is waiting. -/
inductive WaitingReason where
  | connecting
  | printerOff
  | adapterOff
  | lidOpen
  | noSheet
  | shortSheet
  deriving DecidableEq, Repr

/-- Events pushed to the client. -/
inductive PushedEvent where
  | progress (percent : Int)
  | waiting (reason : WaitingReason)
  deriving DecidableEq, Repr

/-- What a call of `print_bitmap` was made with, next to what the bridge held at that moment. -/
structure PrintCall where
  printer : PrinterId
  bitmap : Bytes
  height : Nat
  /-- `bridge.printer`. -/
  held : Option PrinterId
  /-- `printer.profile.width_bytes`. -/
  widthBytes : Int
  /-- `printer.is_connected`. -/
  linked : Bool
  deriving DecidableEq, Repr

/-- The printer a `connect` finds: its address, its model and whether a client named that. -/
structure Target where
  address : Option String
  model : String
  explicit : Bool
  deriving DecidableEq, Repr

/-- The reply to a command. -/
inductive Reply where
  | ok (result : List (String × Json))
  | error (text : String)

/-- What a run records: awaits, calls across the module boundaries and the logged outcomes. -/
inductive TraceEvent where
  | tick (tick : Tick)
  | peerDropped (printer : PrinterId)
  /-- The hold timer expired while this command was pending. -/
  | holdExpired (pending : Option CommandName)
  /-- A hold's disconnect took down a live connection while this command was pending. -/
  | holdDropped (pending : Option CommandName)
  /-- A client was created for a device; whether a hold's disconnect still awaits an old one. -/
  | dialed (printer : PrinterId) (address : String) (overlapped : Bool)
  /-- Bytes were handed to the client of a device. -/
  | wrote (printer : PrinterId) (address : String) (data : Bytes)
  | writeFailed (printer : PrinterId)
  /-- The disconnect of a client raised. -/
  | disconnectFailed (printer : PrinterId)
  /-- An address scan answered. -/
  | resolved (asked : String) (found : Device)
  | pushed (event : PushedEvent)
  | paperRead (answer : Option PaperState)
  | ejected (gone : Bool)
  | printCalled (call : PrintCall)
  | printReturned
  /-- A print attempt was interrupted. -/
  | interrupted
  /-- The reconnect of `_recover_link` failed. -/
  | recoveryFailed
  /-- The paper query right after the lid closed. -/
  | sheetChecked (answer : Option PaperState)
  /-- The eject of the sheet that check found. -/
  | oldSheetEjected (gone : Bool)
  | oldSheetStuck (error : PyExc)
  /-- The eject after the page is printed raised. -/
  | finalEjectFailed (error : PyExc)
  | connectCalled (address model : Option String) (current : Option Target)
  /-- `_new_printer` scanned for a printer; whether it found the one to take. -/
  | lookedFor (address : Option String) (found : Bool)
  | usedProfile (printer : PrinterId) (old new : PrinterProfile)
  | replacedPrinter (old new : PrinterId)
  | connectReturned (usable : Bool)
  | connectRaised (error : PyExc)
  /-- A session accepted a command; whether a hold's disconnect was yet to start. -/
  | commandBegan (name : CommandName) (holdScheduled : Bool)
  /-- The handler of a command has ended and its reply is written. -/
  | replied (name : CommandName) (reply : Reply)
  /-- An `open` is answered. -/
  | openAnswered (address model : Option String) (connected : Bool)
  | closeAnswered
  | sessionEnded

/-- A coroutine of the bridge process. -/
abbrev Py (α : Type) : Type := Coroutine PyExc World Tick TraceEvent α

namespace World

variable (w : World)

/-- Change one printer object. -/
def setPrinter (p : PrinterId) (change : Printer → Printer) : World :=
  { w with printers := Function.update w.printers p (change (w.printers p)) }

/-- Change the transport of one printer object. -/
def setTransport (p : PrinterId) (change : Transport → Transport) : World :=
  w.setPrinter p fun printer => { printer with transport := change printer.transport }

def setConnected (p : PrinterId) (connected : Bool) : World :=
  w.setTransport p fun transport => { transport with connected := connected }

def setClient (p : PrinterId) (client : Option Client) : World :=
  w.setTransport p fun transport => { transport with client := client }

def setChunkBytes (p : PrinterId) (chunkBytes : Int) : World :=
  w.setTransport p fun transport => { transport with effectiveChunkBytes := chunkBytes }

def setListeners (p : PrinterId) (change : Listeners → Listeners) : World :=
  w.setPrinter p fun printer => { printer with listeners := change printer.listeners }

def setRowsSent (p : PrinterId) (rows : Nat) : World :=
  w.setPrinter p fun printer => { printer with rowsSent := rows }

def setBridge (change : Bridge → Bridge) : World := { w with bridge := change w.bridge }

def setSession (change : Session → Session) : World := { w with session := change w.session }

/-- `printer.is_connected`. -/
def isConnected (p : PrinterId) : Bool := (w.printers p).transport.isConnected

/-- `bridge.connected`: a live Bluetooth connection exists. -/
def bridgeConnected : Bool :=
  match w.bridge.printer with
  | none => false
  | some p => w.isConnected p

/-- Cancel the hold timer. -/
def cancelHold : World := w.setBridge fun bridge => { bridge with holdArmed := false }

/-- What the cleanup of `BleTransport.disconnect` leaves. -/
def hangUp (p : PrinterId) : World :=
  w.setTransport p fun transport =>
    { transport with
      client := none
      connected := false
      effectiveChunkBytes := transport.profile.maxChunkBytes }

/-- The first step of a hold's disconnect task, `Bridge.disconnect` up to its await. -/
def startHoldTask : World × List TraceEvent :=
  let w := w.cancelHold
  match w.bridge.printer with
  | none => (w, [])
  | some p =>
      if w.isConnected p then
        ((w.setConnected p false).setBridge fun bridge =>
            { bridge with holdInFlight := p :: bridge.holdInFlight },
          [.holdDropped w.session.pendingCmd])
      else
        (w, [])

/-- One incident on the event loop. -/
def happen : Incident → World × List TraceEvent
  | .abort => (w.setSession fun session => { session with abort := true }, [])
  | .dropped p => (w.setConnected p false, [.peerDropped p])
  | .notified p events => (w.setListeners p fun listeners => listeners.notify events, [])
  | .holdExpires =>
      if w.bridge.holdArmed then
        (w.setBridge fun bridge =>
            { bridge with holdArmed := false, holdScheduled := bridge.holdScheduled + 1 },
          [.holdExpired w.session.pendingCmd])
      else
        (w, [])
  | .holdStarts =>
      match w.bridge.holdScheduled with
      | 0 => (w, [])
      | count + 1 =>
          (w.setBridge fun bridge => { bridge with holdScheduled := count }).startHoldTask
  | .holdEnds p =>
      if p ∈ w.bridge.holdInFlight then
        ((w.hangUp p).setBridge fun bridge =>
            { bridge with holdInFlight := bridge.holdInFlight.erase p },
          if w.isConnected p then [.holdDropped w.session.pendingCmd] else [])
      else
        (w, [])

/-- Several incidents, in order. -/
def happenAll : World → List Incident → World × List TraceEvent
  | w, [] => (w, [])
  | w, incident :: incidents =>
      let (next, events) := w.happen incident
      let (final, later) := happenAll next incidents
      (final, events ++ later)

end World

/-- An await. -/
def tick : Py Tick := do
  let answer ← Coroutine.suspend
  let w ← Coroutine.read
  let (next, events) := w.happenAll answer.incidents
  Coroutine.modify fun _ => { next with clock := next.clock + answer.elapsed }
  Coroutine.emitAll (.tick answer :: events)
  return answer

/-- Await without using the answer. -/
def pause : Py Unit := do
  let _ ← tick

/-- Run a pure computation that may raise. -/
def ofExcept {α : Type} : Except PyExc α → Py α
  | .ok value => pure value
  | .error exc => Coroutine.raise exc

/-- `try: ... except <kinds>`: `none` when an exception of these kinds was caught. -/
def excepting {α : Type} (kinds : PyExc → Bool) (body : Py α) : Py (Option α) :=
  Coroutine.handle (body >>= fun value => pure (some value)) fun exc =>
    if kinds exc then pure none else Coroutine.raise exc

end Phomemo
