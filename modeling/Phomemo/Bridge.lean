import Phomemo.Printer

/-!
# The bridge service

The state shared by all sessions: the printer connection, how its printer and model are chosen,
and the idle timer.
-/

namespace Phomemo

open Async Coroutine

/-- A printer a scan turned up, with the model it was taken for. -/
structure Found where
  device : Device
  profile : PrinterProfile
  serial : Option String := none
  resolved : Option Bool := none

namespace Bridge

/-! ## What was read -/

/-- Record values read from a printer; `null` values keep what was known. -/
def remember (address : Option String) (values : List (String × Json)) : Py Unit :=
  match address with
  | none => pure ()
  | some address =>
      modify fun w => w.setBridge fun bridge =>
        let entry := (assocGet address bridge.seen).getD []
        let known := values.filter fun value => !value.2.isNull
        let updated := known.foldl (fun entry value => assocSet value.1 value.2 entry) entry
        { bridge with
          seen := assocSet address (assocSet "at" (.int w.clock) updated) bridge.seen }

/-- The values last read from the printer at an address. -/
def lastSeen (w : World) (address : Option String) : Option (List (String × Json)) :=
  match address.bind fun address => assocGet address w.bridge.seen with
  | some [] => none
  | found => found

/-- The address of the printer the bridge is or was last connected to. -/
def linkedAddress (w : World) : Option String :=
  w.bridge.printer.bind fun p => (w.printers p).addressText

/-! ## Printer objects -/

/-- `self._factory(profile, address)`. -/
def factory (profile : PrinterProfile) (address : Option PrinterAddress) : Py PrinterId := do
  let w ← read
  modify fun w =>
    { w.setPrinter w.nextPrinter fun _ => Printer.new profile address with
      nextPrinter := w.nextPrinter + 1 }
  return w.nextPrinter

/-- `self._factory(profile_for_name(name), device)`. -/
def factoryForName (env : Env) (device : Device) : Py PrinterId :=
  match env.registry.profileForName device.name none with
  | some profile => factory profile (some (.device device))
  | none => raise (.attributeError "'NoneType' object has no attribute 'max_chunk_bytes'")

/-- Scan for printers of every known model. -/
def scan (env : Env) : Py (List Device) := do
  let devices ← scanDevices (env.registry.compile env.registry.joinedPattern)
  return devices.filter fun device => !(env.registry.profilesForName device.name).isEmpty

/-! ## Serials -/

/-- The serial of a printer, whatever goes wrong reading it. -/
def querySerial (p : PrinterId) : Py (Option String) :=
  handle (Printer.querySerial p) fun _ => pure none

/-- The serial of a scanned printer, over the held connection or a brief one. -/
def readSerial (env : Env) (device : Device) : Py (Option String) := do
  let w ← read
  let held := w.bridge.printer.filter fun p =>
    w.isConnected p ∧
      env.upper ((w.printers p).addressText.getD "") = env.upper device.address
  match held with
  | some p => querySerial p
  | none =>
      let probe ← factoryForName env device
      let linked ← excepting (fun exc => exc.IsConnectionError) (Printer.connect env probe)
      match linked with
      | none => return none
      | some () =>
          andFinally (querySerial probe)
            (handle (Printer.disconnect probe) fun _ => pure ())

/-- Tell the model of each scanned device, reading the serial where the name leaves it open. -/
def identifyAll (env : Env) : List Device → Py (List Found)
  | [] => pure []
  | device :: devices => do
      let found ← match env.registry.profilesForName device.name with
        | [candidate] => pure { device, profile := candidate : Found }
        | _ => do
            let serial ← readSerial env device
            match env.registry.profileForName device.name serial with
            | none => raise (.assertionError "")
            | some profile =>
                remember (some device.address)
                  [("serial", .ofString serial), ("model", .str profile.name)]
                pure { device, profile, serial, resolved := some serial.isSome }
      let others ← identifyAll env devices
      return found :: others

/-- Scan for printers of every known model and tell their models apart. -/
def discover (env : Env) : Py (List Found) := do
  let devices ← scan env
  identifyAll env devices

/-! ## The idle timer -/

/-- Cancel a pending hold expiry. -/
def cancelHold : Py Unit := modify World.cancelHold

/-- Drop the Bluetooth connection. -/
def disconnect : Py Unit := do
  cancelHold
  let w ← read
  match w.bridge.printer with
  | some p => if w.isConnected p then Printer.disconnect p
  | none => pure ()

/-- Keep the connection for a while, then drop it. -/
def startHold (env : Env) : Py Unit := do
  cancelHold
  let w ← read
  if w.bridgeConnected ∧ env.holdEnabled then
    modify fun w => w.setBridge fun bridge => { bridge with holdArmed := true }

/-! ## Connecting -/

/-- Take the printer a scan finds, by address when one is given. -/
def pickDevice (env : Env) (address : Option String) (found : List Device) :
    Except PyExc Device :=
  match address with
  | some address =>
      match found.filter fun device => env.upper device.address = env.upper address with
      | [] => .error (.connectionError s!"no printer of a known model at {address}")
      | device :: _ => .ok device
  | none =>
      match found with
      | [] => .error (.connectionError "no printer of a known model in range")
      | [device] => .ok device
      | _ =>
          .error (.connectionError
            s!"several printers in range ({addressList found}); choose one by address")

/-- The printer object for a named model, or for the printer a scan finds. -/
def newPrinter (env : Env) (address model : Option String) : Py PrinterId :=
  match model with
  | some name =>
      match env.registry.getProfile name with
      | some profile => factory profile (address.map .text)
      | none => raise (.keyError s!"Unknown profile '{name}'")
  | none => do
      let found ← handle (scan env) fun exc => do
        emit (.lookedFor address false)
        raise exc
      match pickDevice env address found with
      | .error exc =>
          emit (.lookedFor address false)
          raise exc
      | .ok device =>
          emit (.lookedFor address true)
          factoryForName env device

/-- What `_refine_model` does once a serial is read. -/
def applySerial (env : Env) (p : PrinterId) (name : Option String) (serial : String) :
    Py Unit := do
  let w ← read
  remember (w.printers p).addressText [("serial", .str serial)]
  match env.registry.profileForName name (some serial) with
  | none => pure ()
  | some resolved =>
      let w ← read
      let printer := w.printers p
      -- A model named by the client stays, whatever the serial points to.
      if resolved = printer.profile ∨ w.bridge.modelExplicit then
        pure ()
      else if resolved.bleSettings = printer.profile.bleSettings then
        Printer.useProfile p resolved
      else
        Printer.disconnect p
        let w ← read
        let q ← factory resolved ((w.printers p).addressText.map .text)
        modify fun w => w.setBridge fun bridge => { bridge with printer := some q }
        emit (.replacedPrinter p q)
        Printer.connect env q

/-- Settle the connected printer's model by its serial. -/
def refineModel (env : Env) (p : PrinterId) : Py Unit := do
  let w ← read
  let name := (w.printers p).advertisedName
  if 2 ≤ (env.registry.profilesForName name).length then
    let serial ← querySerial p
    match serial with
    | none => pure ()
    | some serial => applySerial env p name serial

/-- Set the configured auto-off timer unless the printer already has it. -/
def applyAutoOff (env : Env) (p : PrinterId) : Py Unit :=
  match env.autoOffMinutes with
  | none => pure ()
  | some wanted =>
      handle
        (do
          let current ← Printer.queryAutoOff p
          if current ≠ some wanted then
            Printer.setAutoOffTimer p wanted
          let w ← read
          remember (w.printers p).addressText [("auto_off_minutes", .int wanted)])
        fun _ => pure ()

/-- The printer `connect` finds. -/
def currentTarget (w : World) : Option Target :=
  w.bridge.printer.map fun p =>
    { address := (w.printers p).addressText
      model := (w.printers p).profile.name
      explicit := w.bridge.modelExplicit }

/-- Whether the named address or model is another than the printer's. -/
def retargets (address model : Option String) (printer : Printer) : Bool :=
  (address.isSome && address ≠ printer.addressText) ||
    (model.isSome && model ≠ some printer.profile.name)

/-- Connect the printer the bridge now holds. -/
def connectHeld (env : Env) : Py Unit := do
  let w ← read
  match w.bridge.printer with
  | none => raise (.attributeError "'NoneType' object has no attribute 'connect'")
  | some p =>
      Printer.connect env p
      refineModel env p
      let w ← read
      applyAutoOff env (w.bridge.printer.getD p)

/-- Let go of a printer whose address or model is not the named one. -/
def release (address model : Option String) : Py Unit := do
  let w ← read
  match w.bridge.printer with
  | none => pure ()
  | some p =>
      if retargets address model (w.printers p) then
        disconnect
        modify fun w => w.setBridge fun bridge => { bridge with printer := none }

/-- Make sure there is a printer object. -/
def acquire (env : Env) (address model : Option String) : Py Unit := do
  let w ← read
  if w.bridge.printer.isNone then
    let p ← newPrinter env address model
    modify fun w => w.setBridge fun bridge =>
      { bridge with printer := some p, modelExplicit := model.isSome }

/-- Establish the Bluetooth connection, reusing a held one. -/
def establish (env : Env) (address model : Option String) : Py Unit := do
  cancelHold
  match model with
  | some name =>
      if name ∉ env.registry.listProfiles then
        raise (.connectionError s!"unknown printer model '{name}'")
  | none => pure ()
  release address model
  let w ← read
  if w.bridgeConnected then
    pure ()
  else
    acquire env address model
    connectHeld env

/-- `Bridge.connect`, recording the call and how it ended. -/
def connect (env : Env) (address model : Option String) : Py Unit := do
  let w ← read
  emit (.connectCalled address model (currentTarget w))
  handle (establish env address model) fun exc => do
    emit (.connectRaised exc)
    raise exc
  let w ← read
  emit (.connectReturned w.bridgeConnected)

end Bridge

end Phomemo
