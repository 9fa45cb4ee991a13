import Phomemo.Python

/-!
# Device events

The typed events of the notification channel, the class test waiters select them by, and the
delivery of one event to callbacks and waiters.
-/

namespace Phomemo

/-- Physical lid position. -/
inductive LidState where
  | closed
  | opened
  deriving DecidableEq, Repr

/-- Paper presence as the sensor reports it. -/
inductive PaperState where
  | present
  | absent
  deriving DecidableEq, Repr

/-- What an event carries beside its sub-type byte and raw bytes. -/
inductive EventData where
  | plain
  | lid (state : LidState)
  | paper (state : PaperState)
  | battery (percent : Nat)
  | firmware (major minor patch : Nat)
  | serial (value : String)
  | timer (value : Nat)
  | motorStop
  deriving DecidableEq, Repr

/-- A parsed device event. -/
structure DeviceEvent where
  /-- The sub-type byte. -/
  kind : Nat
  /-- The bytes the event was parsed from. -/
  raw : Bytes
  data : EventData
  deriving DecidableEq, Repr

/-- The classes of events; `deviceEvent` is the base class. -/
inductive EventClass where
  | deviceEvent
  | lidEvent
  | paperEvent
  | batteryEvent
  | firmwareEvent
  | serialEvent
  | timerEvent
  | motorStopEvent
  deriving DecidableEq, Repr

/-- `isinstance(event, event_type)`. -/
def DeviceEvent.isInstance (event : DeviceEvent) : EventClass → Bool
  | .deviceEvent => true
  | .lidEvent => match event.data with | .lid _ => true | _ => false
  | .paperEvent => match event.data with | .paper _ => true | _ => false
  | .batteryEvent => match event.data with | .battery _ => true | _ => false
  | .firmwareEvent => match event.data with | .firmware _ _ _ => true | _ => false
  | .serialEvent => match event.data with | .serial _ => true | _ => false
  | .timerEvent => match event.data with | .timer _ => true | _ => false
  | .motorStopEvent => match event.data with | .motorStop => true | _ => false

/-- A registered waiter: the class it waits for, and its event once it is resolved. -/
structure Waiter where
  eventType : EventClass
  result : Option DeviceEvent := none
  deriving DecidableEq, Repr

/-- A registered callback: the `watch_paper` of a print or of an eject, with the flags it sets. -/
inductive Watch where
  | print (absent lidOpen : Bool)
  | eject (absent : Bool)
  deriving DecidableEq, Repr

/-- One call of a `watch_paper` callback. -/
def Watch.call (event : DeviceEvent) : Watch → Watch
  | .print absent lidOpen =>
      .print (absent || event.data = .paper .absent) (lidOpen || event.data = .lid .opened)
  | .eject absent => .eject (absent || event.data = .paper .absent)

/-- Resolve the first pending waiter whose class the event belongs to. -/
def resolveFirst (event : DeviceEvent) : List Waiter → List Waiter
  | [] => []
  | waiter :: waiters =>
      if waiter.result.isNone ∧ event.isInstance waiter.eventType then
        { waiter with result := some event } :: waiters
      else
        waiter :: resolveFirst event waiters

/-- What listens on a printer: callbacks and waiters, each in registration order. -/
structure Listeners where
  callbacks : List Watch := []
  waiters : List Waiter := []
  deriving DecidableEq, Repr

/-- `_dispatch_event`: every callback sees the event, at most one waiter takes it. -/
def Listeners.dispatch (listeners : Listeners) (event : DeviceEvent) : Listeners where
  callbacks := listeners.callbacks.map (Watch.call event)
  waiters := resolveFirst event listeners.waiters

/-- `_on_notification`: the events of one notification, in order. -/
def Listeners.notify (listeners : Listeners) (events : List DeviceEvent) : Listeners :=
  events.foldl Listeners.dispatch listeners

end Phomemo
