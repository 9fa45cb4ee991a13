import Phomemo.Async.Effect
import Phomemo.Async.Loop
import Phomemo.Watches

/-!
# What programs leave behind

A printer's waiters and callbacks are registered by the program that needs them and taken down by
it, whichever way it ends.  This is stated as an effect, together with what a program may record,
and holds of every program of the transport and of the printer.
-/

namespace Phomemo

open Async Coroutine

/-! ## What listens -/

/-- No event is of both classes. -/
def EventClass.Apart (first second : EventClass) : Prop :=
  ∀ event : DeviceEvent, ¬(event.isInstance first = true ∧ event.isInstance second = true)

/-- A motor stop answers no query. -/
theorem EventClass.motorStop_apart {eventType : EventClass} (special : eventType ≠ .deviceEvent)
    (query : eventType ≠ .motorStopEvent) : EventClass.motorStopEvent.Apart eventType := by
  rintro ⟨kind, raw, data⟩ ⟨stopped, answers⟩
  cases eventType <;> cases data <;> simp_all [DeviceEvent.isInstance]

/-- What listens on a printer: the classes its waiters ask for, in the order of registration, and
the number of its callbacks. -/
@[ext]
structure Desk where
  asked : List EventClass := []
  watching : Nat := 0
  deriving DecidableEq, Repr

namespace Desk

/-- The desk with more listeners. -/
def add (desk extra : Desk) : Desk := ⟨desk.asked ++ extra.asked, desk.watching + extra.watching⟩

/-- The desk is left as it was, or its printer object is new. -/
def Keeps (before after : Desk) : Prop := after = before ∨ after = {}

/-- At most one query, which a motor stop does not answer, and no callback. -/
structure Light (desk : Desk) : Prop where
  asked : desk.asked.length ≤ 1
  apart : ∀ eventType ∈ desk.asked, EventClass.motorStopEvent.Apart eventType
  watching : desk.watching = 0

/-- At most two waiters, whose classes no event shares, and at most one callback. -/
structure Busy (desk : Desk) : Prop where
  asked : desk.asked.length ≤ 2
  apart : desk.asked.Pairwise EventClass.Apart
  watching : desk.watching ≤ 1

@[simp]
theorem add_empty (desk : Desk) : desk.add {} = desk := by
  ext1
  · exact List.append_nil _
  · exact Nat.add_zero _

theorem empty_add (desk : Desk) : add {} desk = desk := by
  ext1
  · exact List.nil_append _
  · exact Nat.zero_add _

theorem add_assoc (desk first second : Desk) :
    (desk.add first).add second = desk.add (first.add second) := by
  ext1
  · exact List.append_assoc _ _ _
  · exact Nat.add_assoc _ _ _

@[refl]
theorem Keeps.refl (desk : Desk) : desk.Keeps desk := .inl rfl

theorem Keeps.trans {before middle after : Desk} (first : before.Keeps middle)
    (second : middle.Keeps after) : before.Keeps after := by
  rcases second with rfl | rfl
  · exact first
  · exact .inr rfl

/-- A waiter that was registered on top is taken down from its place. -/
theorem Keeps.forget {before after : Desk} {eventType : EventClass} {watching : Nat}
    (keeps : (before.add ⟨[eventType], watching⟩).Keeps after) :
    (before.add ⟨[], watching⟩).Keeps
      ⟨after.asked.eraseIdx before.asked.length, after.watching⟩ := by
  rcases keeps with rfl | rfl
  · left
    ext1
    · change (before.asked ++ [eventType]).eraseIdx before.asked.length = before.asked ++ []
      rw [List.eraseIdx_append_of_length_le le_rfl, Nat.sub_self]
      rfl
    · rfl
  · exact .inr rfl

/-- A callback that was registered on top is taken down from its place. -/
theorem Keeps.unwatch {before after : Desk} (keeps : (before.add ⟨[], 1⟩).Keeps after) :
    before.Keeps ⟨after.asked,
      if before.watching < after.watching then after.watching - 1 else after.watching⟩ := by
  rcases keeps with rfl | rfl
  · left
    ext1
    · exact List.append_nil _
    · change (if before.watching < before.watching + 1 then _ else _) = before.watching
      rw [if_pos (Nat.lt_succ_self _)]
      rfl
  · right
    rw [if_neg (Nat.not_lt_zero _)]

theorem light_empty : Light {} := ⟨Nat.zero_le 1, List.forall_mem_nil _, rfl⟩

/-- A query on top of the waiter and the callback of a print. -/
theorem Light.printing {desk : Desk} (light : desk.Light) :
    (Desk.add ⟨[.motorStopEvent], 1⟩ desk).Busy where
  asked := Nat.succ_le_succ light.asked
  apart := by
    refine List.pairwise_cons.mpr ⟨light.apart, ?_⟩
    obtain ⟨_ | ⟨one, _ | ⟨two, others⟩⟩, watching⟩ := desk
    · exact List.Pairwise.nil
    · exact List.pairwise_singleton _ _
    · exact absurd light.asked (by simp)
  watching := by
    change 1 + desk.watching ≤ 1
    rw [light.watching]

theorem Light.busy {desk : Desk} (light : desk.Light) : desk.Busy where
  asked := light.asked.trans (Nat.le_succ 1)
  apart := (List.pairwise_cons.mp light.printing.apart).2
  watching := light.watching.trans_le (Nat.zero_le 1)

/-- A query on top of the callback of an eject. -/
theorem Light.ejecting {desk : Desk} (light : desk.Light) : (Desk.add ⟨[], 1⟩ desk).Busy :=
  ⟨light.busy.asked, light.busy.apart, light.printing.watching⟩

end Desk

namespace World

/-- What listens on a printer. -/
def desk (w : World) (p : PrinterId) : Desk where
  asked := (w.printers p).listeners.waiters.map Waiter.eventType
  watching := (w.printers p).listeners.callbacks.length

variable {w : World}

theorem desk_congr {v : World} {p : PrinterId}
    (same : (v.printers p).listeners = (w.printers p).listeners) : v.desk p = w.desk p := by
  unfold desk
  rw [same]

theorem desk_setPrinter (q : PrinterId) {change : Printer → Printer}
    (same : ∀ printer, (change printer).listeners = printer.listeners) (p : PrinterId) :
    (w.setPrinter q change).desk p = w.desk p := by
  apply desk_congr
  rw [setPrinter_printers]
  split
  · rename_i here
    rw [same, here]
  · rfl

theorem desk_setTransport (q : PrinterId) (change : Transport → Transport) (p : PrinterId) :
    (w.setTransport q change).desk p = w.desk p :=
  desk_congr (setTransport_listeners q p change)

theorem setListeners_self (p : PrinterId) (change : Listeners → Listeners) :
    ((w.setListeners p change).printers p).listeners = change (w.printers p).listeners := by
  rw [setListeners, setPrinter_printers, if_pos rfl]

theorem desk_elsewhere {q p : PrinterId} (elsewhere : p ≠ q) (change : Listeners → Listeners) :
    (w.setListeners q change).desk p = w.desk p := by
  apply desk_congr
  rw [setListeners, setPrinter_printers, if_neg elsewhere]

/-- A waiter is taken down. -/
theorem desk_forget (p : PrinterId) (entry : Nat) :
    (w.setListeners p fun listeners =>
      { listeners with waiters := listeners.waiters.eraseIdx entry }).desk p =
      ⟨(w.desk p).asked.eraseIdx entry, (w.desk p).watching⟩ := by
  unfold desk
  rw [setListeners_self]
  exact congrArg₂ Desk.mk (List.eraseIdx_map _ _ _).symm rfl

/-- A callback is taken down. -/
theorem desk_unwatch (p : PrinterId) (slot : Nat) :
    (w.setListeners p fun listeners =>
      { listeners with callbacks := listeners.callbacks.eraseIdx slot }).desk p =
      ⟨(w.desk p).asked,
        if slot < (w.desk p).watching then (w.desk p).watching - 1 else (w.desk p).watching⟩ := by
  unfold desk
  rw [setListeners_self]
  exact congrArg₂ Desk.mk rfl List.length_eraseIdx

end World

/-- A waiter that gets its event still asks for its class. -/
theorem resolveAll_asked (events : List DeviceEvent) (waiters : List Waiter) :
    (resolveAll waiters events).map Waiter.eventType = waiters.map Waiter.eventType := by
  have first : ∀ (event : DeviceEvent) (waiters : List Waiter),
      (resolveFirst event waiters).map Waiter.eventType = waiters.map Waiter.eventType := by
    intro event waiters
    induction waiters with
    | nil => rfl
    | cons waiter waiters ih =>
        rw [resolveFirst]
        split
        · rfl
        · rw [List.map_cons, List.map_cons, ih]
  induction events generalizing waiters with
  | nil => rfl
  | cons event events ih => exact (ih (resolveFirst event waiters)).trans (first event waiters)

/-- Notifications leave the listeners in their places. -/
theorem desk_awaken (w : World) (answer : Tick) (p : PrinterId) :
    (w.awaken answer).desk p = w.desk p := by
  have heard := awaken_listeners w answer p
  ext1
  · change ((w.awaken answer).printers p).listeners.waiters.map Waiter.eventType = _
    rw [heard, World.notify_waiters, resolveAll_asked]
    rfl
  · change ((w.awaken answer).printers p).listeners.callbacks.length = _
    rw [heard, notify_callbacks, List.length_map]
    rfl

/-! ## The conduct of a program -/

/-- The events that a client is sent. -/
inductive TraceEvent.ToClient : TraceEvent → Prop where
  | pushed (event : PushedEvent) : ToClient (.pushed event)
  | replied (name : CommandName) (reply : Reply) : ToClient (.replied name reply)

/-- What a program may record, and what may listen on a printer on top of what was there, while it
waits. -/
structure Conduct where
  records : TraceEvent → Prop
  load : Desk → Prop
  plain : ∀ event, ¬event.ToClient → records event
  light : ∀ desk, desk.Light → load desk

namespace Conduct

variable (conduct : Conduct)

/-- The program records only what it may; its own listeners are gone when it ends. -/
def effect : Effect World TraceEvent where
  ended before trace after :=
    (∀ event ∈ trace, conduct.records event) ∧ ∀ p, (before.desk p).Keeps (after.desk p)
  waits before trace after :=
    (∀ event ∈ trace, conduct.records event) ∧ ∀ p, ∃ base extra,
      (before.desk p).Keeps base ∧ conduct.load extra ∧ after.desk p = base.add extra
  refl state := ⟨List.forall_mem_nil _, fun p => .refl _⟩
  idle state := ⟨List.forall_mem_nil _, fun p =>
    ⟨state.desk p, {}, .refl _, conduct.light _ Desk.light_empty, (Desk.add_empty _).symm⟩⟩
  trans first later :=
    ⟨List.forall_mem_append.mpr ⟨first.1, later.1⟩, fun p => (first.2 p).trans (later.2 p)⟩
  during first later := by
    refine ⟨List.forall_mem_append.mpr ⟨first.1, later.1⟩, fun p => ?_⟩
    obtain ⟨base, extra, keeps, loads, adds⟩ := later.2 p
    exact ⟨base, extra, (first.2 p).trans keeps, loads, adds⟩

/-- Programs that tell nothing to the client and wait for one answer at a time. -/
def silent : Conduct where
  records event := ¬event.ToClient
  load := Desk.Light
  plain _ := id
  light _ := id

/-- Programs that also speak to the client, print and eject. -/
def serving : Conduct where
  records _ := True
  load := Desk.Busy
  plain _ _ := trivial
  light _ := Desk.Light.busy

/-- A conduct's programs that wait for one answer at a time. -/
def querying : Conduct where
  records := conduct.records
  load := Desk.Light
  plain := conduct.plain
  light _ := id

variable {conduct}

/-- The program keeps to the conduct. -/
abbrev Has {α : Type} (conduct : Conduct) (program : Py α) : Prop := conduct.effect.Has program

theorem modify {change : World → World} (keeps : ∀ w p, (change w).desk p = w.desk p) :
    conduct.Has (Coroutine.modify change) :=
  Effect.Has.modify fun w => ⟨List.forall_mem_nil _, fun p => .inl (keeps w p)⟩

theorem record {event : TraceEvent} (records : conduct.records event) :
    conduct.Has (Coroutine.emit event) :=
  Effect.Has.emit fun _ => ⟨List.forall_mem_singleton.mpr records, fun _ => .refl _⟩

theorem emit {event : TraceEvent} (plain : ¬event.ToClient) :
    conduct.Has (Coroutine.emit event) := record (conduct.plain event plain)

theorem records_awakening (w : World) (answer : Tick) :
    ∀ event ∈ w.awakening answer, conduct.records event := by
  intro event member
  apply conduct.plain
  intro told
  cases World.awakening_events answer event member <;> cases told

theorem tick : conduct.Has Phomemo.tick := by
  intro w script
  cases script with
  | nil => exact conduct.effect.idle w
  | cons answer script =>
      rw [tick_cons]
      exact ⟨records_awakening w answer, fun p => .inl (desk_awaken w answer p)⟩

theorem pause : conduct.Has Phomemo.pause := Effect.Has.bind tick fun _ => Effect.Has.pure ()

theorem ofExcept {α : Type} (outcome : Except PyExc α) :
    conduct.Has (Phomemo.ofExcept outcome) := by
  cases outcome with
  | ok value => exact Effect.Has.pure value
  | error exc => exact Effect.Has.raise exc

theorem excepting {α : Type} {kinds : PyExc → Bool} {body : Py α} (has : conduct.Has body) :
    conduct.Has (Phomemo.excepting kinds body) :=
  Effect.Has.handle (Effect.Has.bind has fun _ => Effect.Has.pure _) fun _ =>
    Effect.Has.ite (Effect.Has.pure none) (Effect.Has.raise _)

/-- Listeners that a program registers on a printer come on top of what its body registers, and
are taken down after it. -/
theorem has_listening {α β : Type} {p : PrinterId} {own : Desk} {arm : Py β} {body : β → Py α}
    {disarm : β → Py Unit} (set : World → World) (place : World → β) (reset : β → World → World)
    (arms : ∀ w script, arm w script = ⟨[], .returned (place w) (set w) script⟩)
    (disarms : ∀ place w script, disarm place w script = ⟨[], .returned () (reset place w) script⟩)
    (here : ∀ w : World, (set w).desk p = (w.desk p).add own)
    (elsewhere : ∀ (w : World) q, q ≠ p → (set w).desk q = w.desk q)
    (resets : ∀ w v : World, ((w.desk p).add own).Keeps (v.desk p) →
      (w.desk p).Keeps ((reset (place w) v).desk p))
    (others : ∀ (w v : World) q, q ≠ p → (reset (place w) v).desk q = v.desk q)
    (loads : ∀ extra : Desk, extra.Light → conduct.load (own.add extra))
    (has : ∀ place, conduct.querying.Has (body place)) :
    conduct.Has (arm >>= fun place => andFinally (body place) (disarm place)) := by
  refine Effect.has_bracket set place reset arms disarms ?_ ?_ has
  · rintro w trace final ⟨recorded, waits⟩
    refine ⟨recorded, fun q => ?_⟩
    obtain ⟨base, extra, keeps, light, adds⟩ := waits q
    by_cases same : q = p
    · subst same
      rw [here] at keeps
      rcases keeps with rfl | rfl
      · exact ⟨w.desk q, own.add extra, .refl _, loads extra light,
          adds.trans (Desk.add_assoc _ _ _)⟩
      · exact ⟨{}, extra, .inr rfl, conduct.light extra light, adds⟩
    · rw [elsewhere w q same] at keeps
      exact ⟨base, extra, keeps, conduct.light extra light, adds⟩
  · rintro w trace final ⟨recorded, keeps⟩
    refine ⟨recorded, fun q => ?_⟩
    by_cases same : q = p
    · subst same
      apply resets
      rw [← here]
      exact keeps q
    · rw [others w final q same, ← elsewhere w q same]
      exact keeps q

end Conduct

open Effect

variable {conduct : Conduct}

/-! ## The transport -/

namespace BleTransport

theorem has_setConnected (p : PrinterId) (connected : Bool) :
    conduct.Has (Coroutine.modify fun w => w.setConnected p connected) :=
  Conduct.modify fun _ => World.desk_setTransport p _

theorem has_disconnect (p : PrinterId) : conduct.Has (disconnect p) := by
  apply Has.bind Has.read
  intro w
  apply Has.ite _ (Has.pure ())
  apply Has.bind (has_setConnected p false)
  intro _
  apply Has.bind Conduct.tick
  intro answer
  apply Has.bind (Conduct.modify fun _ => World.desk_setTransport p _)
  intro _
  cases answer.bleakError with
  | none => exact Has.pure ()
  | some text => exact Has.bind (Conduct.emit (by rintro ⟨⟩)) fun _ => Has.raise _

theorem has_dial (p : PrinterId) (device : Device) : conduct.Has (dial p device) := by
  apply Has.bind Has.read
  intro w
  refine Has.bind (Conduct.modify fun v q => ?_) fun _ => Conduct.emit (by rintro ⟨⟩)
  exact World.desk_congr (World.setTransport_listeners p q fun transport =>
    { transport with client := some ⟨v.nextClient, device.address⟩ })

theorem has_negotiate (p : PrinterId) : conduct.Has (negotiate p) := by
  apply Has.bind Has.read
  intro w
  apply Has.ite _ (Has.pure ())
  apply Has.bind Conduct.tick
  intro answer
  cases answer.mtu with
  | none => exact Has.pure ()
  | some mtu => exact Has.ite (Conduct.modify fun _ => World.desk_setTransport p _) (Has.pure ())

theorem has_subscribe (p : PrinterId) (device : Device) : conduct.Has (subscribe p device) := by
  apply Has.bind Has.read
  intro w
  apply Has.ite _ (Has.raise _)
  apply Has.bind Conduct.tick
  intro answer
  cases answer.bleakError with
  | none => exact Has.pure ()
  | some text => exact Has.bind (has_disconnect p) fun _ => Has.raise _

theorem has_connect (p : PrinterId) (device : Device) : conduct.Has (connect p device) := by
  apply Has.bind Has.read
  intro w
  apply Has.ite (Has.raise _)
  apply Has.bind (has_dial p device)
  intro _
  apply Has.bind Conduct.tick
  intro answer
  cases answer.bleakError with
  | some text =>
      exact Has.bind (Conduct.modify fun _ => World.desk_setTransport p _) fun _ => Has.raise _
  | none =>
      apply Has.bind (has_setConnected p true)
      exact fun _ => Has.bind (has_negotiate p) fun _ => has_subscribe p device

theorem has_write (p : PrinterId) (data : Bytes) : conduct.Has (write p data) := by
  apply Has.bind Has.read
  intro w
  dsimp only
  cases (w.printers p).transport.client with
  | none => exact Has.raise _
  | some client =>
      apply Has.ite (Has.raise _)
      apply Has.ite (Has.raise _)
      apply Has.bind (Conduct.emit (by rintro ⟨⟩))
      intro _
      apply Has.bind Conduct.tick
      intro answer
      cases answer.bleakError with
      | none => exact Has.pure ()
      | some text =>
          apply Has.bind (has_setConnected p false)
          exact fun _ => Has.bind (Conduct.emit (by rintro ⟨⟩)) fun _ => Has.raise _

end BleTransport

/-! ## Queries -/

namespace Printer

/-- A wait has a waiter as long as it lasts. -/
theorem has_waitFor (p : PrinterId) {eventType : EventClass}
    (apart : EventClass.motorStopEvent.Apart eventType) : conduct.Has (waitFor p eventType) := by
  have registered : ∀ w : World,
      (armed w p eventType).desk p = (w.desk p).add ⟨[eventType], 0⟩ := by
    intro w
    unfold World.desk armed
    rw [World.setListeners_self, List.map_append]
    rfl
  have query : Desk.Light ⟨[eventType], 0⟩ := ⟨le_rfl, List.forall_mem_singleton.mpr apart, rfl⟩
  intro w script
  cases script with
  | nil =>
      refine ⟨List.forall_mem_nil _, fun q => ?_⟩
      by_cases here : q = p
      · subst here
        exact ⟨w.desk q, ⟨[eventType], 0⟩, .refl _, conduct.light _ query, registered w⟩
      · exact ⟨w.desk q, {}, .refl _, conduct.light _ Desk.light_empty,
          (World.desk_elsewhere here _).trans (Desk.add_empty _).symm⟩
  | cons answer script =>
      have ran : waitFor p eventType w (answer :: script) =
          ⟨(armed w p eventType).awakening answer,
            .returned ((((armed w p eventType).awaken answer).waiters p)[(w.waiters p).length]?.bind
              Waiter.result)
            (((armed w p eventType).awaken answer).setListeners p fun listeners =>
              { listeners with waiters := listeners.waiters.eraseIdx (w.waiters p).length })
            script⟩ := by
        simp [waitFor, bind, Coroutine.bind, Coroutine.read, Coroutine.modify, Phomemo.pause,
          Run.after, tick_cons, pure, Coroutine.pure, armed, World.waiters]
      rw [ran]
      refine ⟨Conduct.records_awakening _ answer, fun q => ?_⟩
      by_cases here : q = p
      · subst here
        rw [World.desk_forget, desk_awaken, registered]
        have kept := Desk.Keeps.forget (.refl ((w.desk q).add ⟨[eventType], 0⟩))
        rw [World.waiters, ← List.length_map Waiter.eventType]
        rwa [Desk.add_empty] at kept
      · left
        rw [World.desk_elsewhere here, desk_awaken, armed, World.desk_elsewhere here]

theorem has_query (p : PrinterId) (command : QueryCommand) {eventType : EventClass}
    (apart : EventClass.motorStopEvent.Apart eventType) :
    conduct.Has (query p command eventType) :=
  Has.bind (BleTransport.has_write p _) fun _ => has_waitFor p apart

theorem has_queryLid (p : PrinterId) : conduct.Has (queryLid p) :=
  Has.bind (has_query p .lidState (EventClass.motorStop_apart (by decide) (by decide))) fun _ =>
    Has.pure _

theorem has_queryPaper (p : PrinterId) : conduct.Has (queryPaper p) := by
  apply Has.bind (has_query p .paperState (EventClass.motorStop_apart (by decide) (by decide)))
  exact fun _ => Has.bind (Conduct.emit (by rintro ⟨⟩)) fun _ => Has.pure _

theorem has_queryBattery (p : PrinterId) : conduct.Has (queryBattery p) :=
  Has.bind (has_query p .battery (EventClass.motorStop_apart (by decide) (by decide))) fun _ =>
    Has.pure _

theorem has_queryFirmware (p : PrinterId) : conduct.Has (queryFirmware p) :=
  Has.bind (has_query p .firmware (EventClass.motorStop_apart (by decide) (by decide))) fun _ =>
    Has.pure _

theorem has_querySerial (p : PrinterId) : conduct.Has (querySerial p) :=
  Has.bind (has_query p .serialAscii (EventClass.motorStop_apart (by decide) (by decide)))
    fun _ => Has.pure _

theorem has_queryAutoOff (p : PrinterId) : conduct.Has (queryAutoOff p) :=
  Has.bind (has_query p .deviceTimer (EventClass.motorStop_apart (by decide) (by decide)))
    fun _ => Has.pure _

theorem has_queryDeviceInfo (p : PrinterId) : conduct.Has (queryDeviceInfo p) := by
  apply Has.bind (has_queryBattery p)
  intro battery
  apply Has.bind (has_queryFirmware p)
  intro firmware
  apply Has.bind (has_querySerial p)
  intro serial
  apply Has.bind (has_queryLid p)
  intro lid
  apply Has.ite
  · apply Has.bind (has_queryPaper p)
    exact fun _ => Has.bind (has_queryAutoOff p) fun _ => Has.pure _
  · apply Has.bind (Has.pure none)
    exact fun _ => Has.bind (has_queryAutoOff p) fun _ => Has.pure _

/-! ## Connection -/

theorem has_scanDevices (compiled : Except String (String → Bool)) :
    conduct.Has (scanDevices compiled) := by
  apply Has.bind Conduct.tick
  intro answer
  cases answer.bleakError with
  | none =>
      cases compiled with
      | ok search => exact Has.pure _
      | error text => exact Has.raise _
  | some text => exact Has.raise _

theorem has_connectByName (env : Env) (p : PrinterId) : conduct.Has (connectByName env p) := by
  apply Has.bind Has.read
  intro w
  dsimp only
  apply Has.bind (has_scanDevices _)
  rintro (_ | ⟨device, _ | ⟨second, others⟩⟩)
  · exact Has.raise _
  · have learns : conduct.Has (learn p device) :=
      Conduct.modify fun _ => World.desk_setPrinter p fun _ => rfl
    exact Has.bind learns fun _ => BleTransport.has_connect p device
  · exact Has.raise _

theorem has_connectByAddress (p : PrinterId) (address : String) :
    conduct.Has (connectByAddress p address) := by
  apply Has.bind Conduct.tick
  intro answer
  cases answer.bleakError with
  | some text => exact Has.raise _
  | none =>
      cases answer.found with
      | none => exact Has.raise _
      | some device =>
          have renames : conduct.Has (rename p device) :=
            Conduct.modify fun _ => World.desk_setPrinter p fun _ => rfl
          apply Has.bind (Conduct.emit (by rintro ⟨⟩))
          exact fun _ => Has.bind renames fun _ => BleTransport.has_connect p device

theorem has_connect (env : Env) (p : PrinterId) : conduct.Has (connect env p) := by
  apply Has.bind Has.read
  intro w
  rcases (w.printers p).address with _ | address | device
  · exact has_connectByName env p
  · exact has_connectByAddress p address
  · exact BleTransport.has_connect p device

theorem has_reconnect (env : Env) (p : PrinterId) : conduct.Has (reconnect env p) :=
  Has.bind (BleTransport.has_disconnect p) fun _ => has_connect env p

theorem has_useProfile (p : PrinterId) (profile : PrinterProfile) :
    conduct.Has (useProfile p profile) := by
  apply Has.bind Has.read
  intro w
  apply Has.ite (Has.raise _)
  refine Has.bind (Conduct.modify fun _ => World.desk_setPrinter p ?_) fun _ => ?_
  · exact fun _ => rfl
  · exact Conduct.emit (by rintro ⟨⟩)

/-! ## Paper transport -/

theorem has_feed (p : PrinterId) (lines : Int) : conduct.Has (feed p lines) :=
  Has.bind (Conduct.ofExcept _) fun command => BleTransport.has_write p command

theorem has_setAutoOffTimer (p : PrinterId) (minutes : Int) :
    conduct.Has (setAutoOffTimer p minutes) := by
  apply Has.ite (Has.raise _)
  apply Has.bind (BleTransport.has_write p _)
  exact fun _ => Has.bind (Conduct.ofExcept _) fun command => BleTransport.has_write p command

theorem has_ejectLoop (p : PrinterId) (slot maxFeeds : Nat) (stepRows clearRows : Int)
    (sent : Nat) : conduct.Has (ejectLoop p slot maxFeeds stepRows clearRows sent) := by
  apply Has.iterate
  intro sent
  have waits : conduct.Has (waitAbsent p slot) := by
    apply Has.bind Has.read
    intro w
    apply Has.ite (Has.pure true)
    exact Has.bind Conduct.pause fun _ => Has.bind Has.read fun _ => Has.pure _
  apply Has.bind waits
  intro gone
  apply Has.ite
  · exact Has.bind (has_feed p clearRows) fun _ => Has.pure _
  · apply Has.ite (Has.pure _)
    exact Has.bind (has_feed p stepRows) fun _ => Has.pure _

/-- An eject has a callback as long as it lasts. -/
theorem has_ejectPaper (busy : ∀ desk : Desk, desk.Busy → conduct.load desk) (p : PrinterId)
    (maxFeeds : Nat) (stepRows : Int) (ahead : Nat) (clearRows : Int) :
    conduct.Has (ejectPaper p maxFeeds stepRows ahead clearRows) := by
  refine @Conduct.has_listening conduct _ _ p ⟨[], 1⟩ _ _ _
    (fun w => w.setListeners p fun listeners =>
      { listeners with callbacks := listeners.callbacks ++ [.eject false] })
    (fun w => (w.printers p).listeners.callbacks.length)
    (fun slot w => w.setListeners p fun listeners =>
      { listeners with callbacks := listeners.callbacks.eraseIdx slot })
    (fun _ _ => rfl) (fun _ _ _ => rfl) ?_ ?_ ?_ ?_ ?_ ?_
  · intro w
    unfold World.desk
    rw [World.setListeners_self, List.length_append]
    exact congrArg₂ Desk.mk (List.append_nil _).symm rfl
  · exact fun w q elsewhere => World.desk_elsewhere elsewhere _
  · intro w v keeps
    rw [World.desk_unwatch]
    exact keeps.unwatch
  · exact fun w v q elsewhere => World.desk_elsewhere elsewhere _
  · exact fun extra light => busy _ light.ejecting
  · intro slot
    apply Has.bind (has_queryPaper p)
    intro paper
    apply Has.ite
    · apply Has.bind (Has.times (has_feed p stepRows) _)
      intro _
      apply Has.bind (has_ejectLoop p slot maxFeeds stepRows clearRows _)
      exact fun gone => Has.bind (Conduct.emit (by rintro ⟨⟩)) fun _ => Has.pure gone
    · apply Has.bind (Has.times (has_feed p clearRows) _)
      exact fun _ => Has.bind (Conduct.emit (by rintro ⟨⟩)) fun _ => Has.pure true

/-! ## Readiness -/

theorem has_checkReady (p : PrinterId) : conduct.Has (checkReady p) := by
  apply Has.bind (has_queryLid p)
  rintro (_ | _ | _)
  · exact Has.pure _
  · apply Has.bind (has_queryPaper p)
    rintro (_ | _ | _)
    · exact Has.pure _
    · exact Has.pure _
    · exact Has.pure _
  · exact Has.pure _

theorem has_pollReady (env : Env) (p : PrinterId) (deadline muteThreshold : Nat) :
    conduct.Has (pollReady env p deadline muteThreshold) := by
  apply Has.iterate
  rintro ⟨timeouts, reconnected⟩
  apply Has.bind (has_checkReady p)
  intro readiness
  apply Has.ite (Has.pure _)
  apply Has.ite
  · exact Has.bind (has_reconnect env p) fun _ => Has.pure _
  · apply Has.bind Has.read
    intro w
    apply Has.ite (Has.raise _)
    exact Has.bind Conduct.pause fun _ => Has.pure _

theorem has_waitForReady (env : Env) (p : PrinterId) (timeout : Nat) (settle : ℚ) :
    conduct.Has (waitForReady env p timeout settle) := by
  apply Has.bind Has.read
  intro w
  apply Has.bind (has_pollReady env p _ _)
  intro _
  apply Has.ite _ (Has.pure ())
  exact Has.bind (has_waitFor p (EventClass.motorStop_apart (by decide) (by decide))) fun _ =>
    Has.pure ()

/-! ## Raster printing -/

theorem has_writePieces (p : PrinterId) (chunk fuel : Nat) (data : Bytes) :
    conduct.Has (writePieces p chunk fuel data) := by
  induction fuel generalizing data with
  | zero => exact Has.pure ()
  | succ fuel ih =>
      cases data with
      | nil => exact Has.pure ()
      | cons byte data => exact Has.bind (BleTransport.has_write p _) fun _ => ih _

theorem has_padBand (p : PrinterId) (stream : Bytes) (offset : Nat) (bands : List Band) :
    conduct.Has (padBand p stream offset bands) :=
  Has.bind Has.read fun _ => has_writePieces p _ _ _

theorem has_setRowsSent (p : PrinterId) (rows : Nat) :
    conduct.Has (Coroutine.modify fun w => w.setRowsSent p rows) :=
  Conduct.modify fun _ => World.desk_setPrinter p fun _ => rfl

theorem has_transfer (p : PrinterId) (job : Job) (abort : World → Bool) (slot : Nat)
    (shortSheetFraction : ℚ) {onProgress : Nat → Nat → Py Unit}
    (reports : ∀ sent total, conduct.Has (onProgress sent total)) :
    conduct.Has (transfer p job abort slot shortSheetFraction onProgress) := by
  apply Has.bind Has.read
  intro w
  apply Has.ite (Has.raise _)
  apply Has.iterate
  rintro ⟨offset, sent⟩
  apply Has.ite _ (Has.pure _)
  apply Has.bind Has.read
  intro w
  apply Has.ite (Has.bind (has_padBand p _ _ _) fun _ => Has.raise _)
  apply Has.ite (Has.bind (has_padBand p _ _ _) fun _ => Has.raise _)
  apply Has.ite (Has.raise _)
  apply Has.bind (BleTransport.has_write p _)
  intro _
  apply Has.bind (has_setRowsSent p _)
  intro _
  apply Has.bind (Has.handle (reports _ _) fun _ => Has.pure ())
  exact fun _ => Has.pure _

theorem has_awaitCompletion (p : PrinterId) (entry : Nat) :
    conduct.Has (awaitCompletion p entry) := by
  apply Has.bind Has.read
  intro w
  refine Has.ite ?_ (Has.bind Conduct.pause fun _ => ?_)
  all_goals
    apply Has.bind Has.read
    intro w
    apply Has.ite _ (Has.raise _)
    apply Has.bind (has_queryLid p)
    rintro (_ | _ | _)
    · exact Has.raise _
    · exact Has.pure ()
    · exact Has.raise _

/-- A print has a waiter and a callback from the start of its transfer to its end. -/
theorem has_job {α : Type} (busy : ∀ desk : Desk, desk.Busy → conduct.load desk) (p : PrinterId)
    {body : Nat × Nat → Py α} (has : ∀ place, conduct.querying.Has (body place)) :
    conduct.Has (armJob p >>= fun place =>
      andFinally (body place) (disarmJob p place.1 place.2)) := by
  have rows : ∀ (w : World) q, (w.setRowsSent p 0).desk q = w.desk q := by
    intro w q
    apply World.desk_setPrinter
    exact fun _ => rfl
  refine @Conduct.has_listening conduct _ _ p ⟨[.motorStopEvent], 1⟩ _ _ _
    (fun w => ((armed w p .motorStopEvent).setListeners p fun listeners =>
      { listeners with callbacks := listeners.callbacks ++ [.print false false] }).setRowsSent p 0)
    (fun w => ((w.printers p).listeners.waiters.length,
      ((armed w p .motorStopEvent).printers p).listeners.callbacks.length))
    (fun place w => ((w.setListeners p fun listeners =>
        { listeners with waiters := listeners.waiters.eraseIdx place.1 }).setListeners p
      fun listeners =>
        { listeners with callbacks := listeners.callbacks.eraseIdx place.2 }).setRowsSent p 0)
    (fun _ _ => rfl) (fun _ _ _ => rfl) ?_ ?_ ?_ ?_ ?_ has
  · intro w
    rw [rows]
    unfold World.desk armed
    rw [World.setListeners_self, World.setListeners_self, List.map_append, List.length_append]
    rfl
  · intro w q elsewhere
    rw [rows, World.desk_elsewhere elsewhere, armed, World.desk_elsewhere elsewhere]
  · intro w v keeps
    have entry : (w.printers p).listeners.waiters.length = (w.desk p).asked.length :=
      List.length_map _ |>.symm
    have slot : ((armed w p .motorStopEvent).printers p).listeners.callbacks.length =
        (w.desk p).watching := by
      rw [armed, World.setListeners_self]
      rfl
    rw [rows, World.desk_unwatch, World.desk_forget, entry, slot]
    exact keeps.forget.unwatch
  · intro w v q elsewhere
    rw [rows, World.desk_elsewhere elsewhere, World.desk_elsewhere elsewhere]
  · exact fun extra light => busy _ light.printing

theorem has_printBitmap (busy : ∀ desk : Desk, desk.Busy → conduct.load desk) (p : PrinterId)
    (bitmap : Bytes) (height : Nat) (density : Option Density) (abort : World → Bool)
    {onProgress : Nat → Nat → Py Unit}
    (reports : ∀ sent total, conduct.querying.Has (onProgress sent total)) (mode : ScaleMode)
    (feedLines : Int) (shortSheetFraction : ℚ) :
    conduct.Has (printBitmap p bitmap height density abort onProgress mode feedLines
      shortSheetFraction) := by
  apply Has.bind Has.read
  intro w
  apply Has.bind (Conduct.emit (by rintro ⟨⟩))
  intro _
  apply Has.ite _ (Has.raise _)
  rcases buildRasterStream (w.printers p).profile bitmap height density mode feedLines with
    _ | exc | ⟨stream, bands⟩
  · exact Has.diverge
  · exact Has.raise exc
  · have prints : conduct.Has (armJob p >>= fun place => andFinally
        (transfer p ⟨stream, bands, height⟩ abort place.2 shortSheetFraction onProgress >>= fun _ =>
          awaitCompletion p place.1)
        (disarmJob p place.1 place.2)) :=
      has_job busy p fun place =>
        Has.bind (has_transfer p _ abort place.2 shortSheetFraction reports) fun _ =>
          has_awaitCompletion p place.1
    have returns : conduct.Has (Coroutine.emit .printReturned) := Conduct.emit (by rintro ⟨⟩)
    have finishes := Has.bind prints fun _ => returns
    rw [Coroutine.bind_assoc] at finishes
    exact finishes

end Printer

end Phomemo
