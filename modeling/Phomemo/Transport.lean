import Phomemo.World

/-!
# The BLE transport

The coroutines of `BleTransport`, each for the transport of one printer object.
-/

namespace Phomemo

open Async Coroutine

namespace BleTransport

/-- Disconnect from the printer; safe when not connected. -/
def disconnect (p : PrinterId) : Py Unit := do
  let w ← read
  if (w.printers p).transport.client.isSome then
    -- Cleared first so the disconnect callback stays silent.
    modify fun w => w.setConnected p false
    let answer ← tick
    modify fun w => w.hangUp p
    match answer.bleakError with
    | some text =>
        emit (.disconnectFailed p)
        raise (.bleakError text)
    | none => pure ()

/-- Create the client of a device. -/
def dial (p : PrinterId) (device : Device) : Py Unit := do
  let w ← read
  modify fun w =>
    { w.setClient p (some ⟨w.nextClient, device.address⟩) with nextClient := w.nextClient + 1 }
  emit (.dialed p device.address (p ∈ w.bridge.holdInFlight))

/-- Read the MTU where the backend gives one and derive the chunk size. -/
def negotiate (p : PrinterId) : Py Unit := do
  let w ← read
  -- A client another task has cleared meanwhile has no backend to ask.
  if (w.printers p).transport.profile.negotiateMtu ∧ (w.printers p).transport.client.isSome then
    let answer ← tick
    match answer.mtu with
    | some mtu =>
        if 3 < mtu then
          modify fun w => w.setChunkBytes p (mtu - 3)
    | none => pure ()

/-- Subscribe to the event channel; a failure takes the connection down again. -/
def subscribe (p : PrinterId) (device : Device) : Py Unit := do
  let w ← read
  if (w.printers p).transport.client.isSome then
    let answer ← tick
    match answer.bleakError with
    | some text =>
        disconnect p
        raise (.connectionError
          s!"Connected to {device.text} but failed to subscribe to notifications: {text}")
    | none => pure ()
  else
    raise (.attributeError "'NoneType' object has no attribute 'start_notify'")

/-- Establish a connection and subscribe to the event channel. -/
def connect (p : PrinterId) (device : Device) : Py Unit := do
  let w ← read
  if w.isConnected p then
    raise (.runtimeError "Already connected")
  else
    dial p device
    let answer ← tick
    match answer.bleakError with
    | some text =>
        modify fun w => w.setClient p none
        raise (.connectionError s!"Failed to connect to {device.text}: {text}")
    | none =>
        modify fun w => w.setConnected p true
        negotiate p
        subscribe p device

/-- Write raw bytes to the command channel. -/
def write (p : PrinterId) (data : Bytes) : Py Unit := do
  let w ← read
  let transport := (w.printers p).transport
  match transport.client with
  | none => raise (.runtimeError "Not connected")
  | some client =>
      if !transport.connected then
        raise (.connectionError "Printer connection lost")
      else if transport.effectiveChunkBytes < data.length then
        let size := data.length
        let maxSize := transport.effectiveChunkBytes
        raise (.valueError s!"Write size {size} exceeds max {maxSize} bytes")
      else
        emit (.wrote p client.address data)
        let answer ← tick
        match answer.bleakError with
        | some text =>
            modify fun w => w.setConnected p false
            emit (.writeFailed p)
            raise (.connectionError s!"BLE write failed: {text}")
        | none => pure ()

end BleTransport

end Phomemo
