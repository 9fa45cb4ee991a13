import Phomemo.Queries

/-!
# What a watching callback has seen

A callback sees every event of its printer's notifications while it is registered, whichever
waiter takes it.  Its flags say whether an event of the kind was among them.
-/

namespace Phomemo

open Async

/-- The sheet has left the sensor. -/
def DeviceEvent.sheetGone (event : DeviceEvent) : Bool := event.data = .paper .absent

/-- The lid has been opened. -/
def DeviceEvent.lidOpens (event : DeviceEvent) : Bool := event.data = .lid .opened

/-- A callback after these events. -/
def Watch.calls (watch : Watch) (events : List DeviceEvent) : Watch :=
  events.foldl (fun watch event => watch.call event) watch

namespace Watch

theorem calls_eject (absent : Bool) (events : List DeviceEvent) :
    (eject absent).calls events = eject (absent || events.any DeviceEvent.sheetGone) := by
  induction events generalizing absent with
  | nil => simp [calls]
  | cons event events ih =>
      change (eject (absent || event.sheetGone)).calls events = _
      rw [ih, List.any_cons, Bool.or_assoc]

theorem calls_print (absent lidOpen : Bool) (events : List DeviceEvent) :
    (print absent lidOpen).calls events =
      print (absent || events.any DeviceEvent.sheetGone)
        (lidOpen || events.any DeviceEvent.lidOpens) := by
  induction events generalizing absent lidOpen with
  | nil => simp [calls]
  | cons event events ih =>
      change (print (absent || event.sheetGone) (lidOpen || event.lidOpens)).calls events = _
      rw [ih, List.any_cons, List.any_cons, Bool.or_assoc, Bool.or_assoc]

end Watch

theorem notify_callbacks (listeners : Listeners) (events : List DeviceEvent) :
    (listeners.notify events).callbacks =
      listeners.callbacks.map fun watch => watch.calls events := by
  induction events generalizing listeners with
  | nil => simp [Listeners.notify, Watch.calls]
  | cons event events ih =>
      change ((listeners.dispatch event).notify events).callbacks = _
      rw [ih, Listeners.dispatch, List.map_map]
      rfl

/-! ## Events of a history -/

/-- The events a printer's listeners were notified of. -/
def TraceEvent.arrivals (p : PrinterId) : TraceEvent → List DeviceEvent
  | .tick answer => answer.arrivals p
  | _ => []

/-- The events of a printer's notifications so far, in order. -/
def arrivals (p : PrinterId) (past : List TraceEvent) : List DeviceEvent :=
  past.flatMap (TraceEvent.arrivals p)

theorem arrivals_append (p : PrinterId) (past later : List TraceEvent) :
    arrivals p (past ++ later) = arrivals p past ++ arrivals p later :=
  List.flatMap_append

theorem arrivals_awakening (p : PrinterId) (w : World) (answer : Tick) :
    arrivals p (w.awakening answer) = answer.arrivals p := by
  have silent : arrivals p (w.happenAll answer.incidents).2 = [] := by
    refine List.flatMap_eq_nil_iff.mpr fun event member => ?_
    cases World.happenAll_events answer.incidents event member <;> rfl
  change answer.arrivals p ++ arrivals p (w.happenAll answer.incidents).2 = _
  rw [silent, List.append_nil]

/-! ## Registered callbacks -/

/-- A callback is registered at this place. -/
def Listens (p : PrinterId) (slot : Nat) (watch : Watch) (w : World) : Prop :=
  (w.printers p).listeners.callbacks[slot]? = some watch

namespace Listens

variable {p : PrinterId} {slot : Nat} {watch : Watch} {w : World}

theorem awaken (listens : Listens p slot watch w) (answer : Tick) :
    Listens p slot (watch.calls (answer.arrivals p)) (w.awaken answer) := by
  unfold Listens at listens ⊢
  rw [awaken_listeners, notify_callbacks, List.getElem?_map, listens]
  rfl

/-- The waiters do not matter. -/
theorem setWaiters (listens : Listens p slot watch w) {change : Listeners → Listeners}
    (callbacks : ∀ listeners, (change listeners).callbacks = listeners.callbacks) :
    Listens p slot watch (w.setListeners p change) := by
  unfold Listens at listens ⊢
  rw [World.setListeners, World.setPrinter_printers, if_pos rfl]
  change (change (w.printers p).listeners).callbacks[slot]? = _
  rw [callbacks]
  exact listens

/-- A new callback is the last one. -/
theorem added (w : World) (p : PrinterId) (watch : Watch) :
    Listens p (w.printers p).listeners.callbacks.length watch
      (w.setListeners p fun listeners =>
        { listeners with callbacks := listeners.callbacks ++ [watch] }) := by
  unfold Listens World.setListeners
  rw [World.setPrinter_printers, if_pos rfl]
  exact List.getElem?_concat_length

end Listens

end Phomemo
