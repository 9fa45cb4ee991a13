import Phomemo.Upkeep.Establish

/-!
# Invariants of all printer objects

An invariant that speaks of printer objects alike, whichever the bridge holds: of their links, of
what was dialed and written, and of the pages that were called.  A link that goes down keeps it, and
what the bridge and its session note down does not touch it.  Where a link comes up it may rest on
the printer having just been dialed.
-/

namespace Phomemo

open Async Coroutine

/-- An event that dials no printer, writes to none and calls for no page. -/
def TraceEvent.Silent : TraceEvent → Prop
  | .dialed _ _ _ => False
  | .wrote _ _ _ => False
  | .printCalled _ => False
  | _ => True

namespace TraceEvent

theorem silent_await {event : TraceEvent} (await : event.OfAwait) : event.Silent := by
  cases await <;> trivial

theorem silent_wire {event : TraceEvent} (wire : event.OfWire) : event.Silent := by
  cases wire <;> trivial

theorem silent_waits {event : TraceEvent} (waits : event.OfWaits) : event.Silent := by
  cases waits <;> trivial

end TraceEvent

/-! ## Links that go down -/

/-- A transport whose link at most went down; without its client it may have been reset. -/
structure Transport.Lowered (before after : Transport) : Prop where
  profile : after.profile = before.profile
  client : after.client = before.client ∨ after.client = none
  connected : after.connected = true → before.connected = true
  chunk : after.effectiveChunkBytes = before.effectiveChunkBytes ∨
    after.client = none ∧ after.effectiveChunkBytes = after.profile.maxChunkBytes

theorem Transport.Lowered.refl (transport : Transport) : transport.Lowered transport :=
  ⟨rfl, .inl rfl, id, .inl rfl⟩

theorem Transport.Lowered.trans {first second third : Transport} (earlier : first.Lowered second)
    (later : second.Lowered third) : first.Lowered third where
  profile := later.profile.trans earlier.profile
  client := by
    rcases later.client with same | gone
    · rw [same]
      exact earlier.client
    · exact .inr gone
  connected := fun connected => earlier.connected (later.connected connected)
  chunk := by
    rcases later.chunk with same | reset
    · rcases earlier.chunk with same' | ⟨gone, reset⟩
      · exact .inl (same.trans same')
      · right
        rw [same, later.profile]
        refine ⟨?_, reset⟩
        rcases later.client with client | gone'
        · exact client.trans gone
        · exact gone'
    · exact .inr reset

/-- Printer objects of the same models, whose links at most went down. -/
structure World.Lowered (before after : World) : Prop where
  profile : ∀ p, (after.printers p).profile = (before.printers p).profile
  transport : ∀ p, (before.printers p).transport.Lowered (after.printers p).transport

namespace World

variable {w after : World}

theorem Lowered.refl (w : World) : w.Lowered w := ⟨fun _ => rfl, fun _ => .refl _⟩

theorem Lowered.trans {third : World} (earlier : w.Lowered after) (later : after.Lowered third) :
    w.Lowered third :=
  ⟨fun p => (later.profile p).trans (earlier.profile p),
    fun p => (earlier.transport p).trans (later.transport p)⟩

theorem Lowered.isConnected (lowered : w.Lowered after) {p : PrinterId}
    (connected : after.isConnected p = true) : w.isConnected p = true := by
  simp only [World.isConnected, Transport.isConnected, Bool.and_eq_true] at connected ⊢
  have transport := lowered.transport p
  refine ⟨transport.connected connected.1, ?_⟩
  rcases transport.client with same | gone
  · rw [← same]
    exact connected.2
  · rw [gone] at connected
    exact absurd connected.2 Bool.false_ne_true

/-- Nothing but printer objects counts. -/
theorem lowered_of_printers (same : after.printers = w.printers) : w.Lowered after := by
  refine ⟨fun p => by rw [same], fun p => ?_⟩
  rw [same]
  exact .refl _

theorem Quiet.lowered (quiet : w.Quiet after) : w.Lowered after where
  profile := quiet.profile
  transport := fun p =>
    ⟨quiet.transportProfile p, .inl (quiet.client p),
      fun connected => (quiet.connected p).symm.trans connected, .inl (quiet.chunk p)⟩

theorem lowered_setPrinter (p : PrinterId) {change : Printer → Printer}
    (profile : (change (w.printers p)).profile = (w.printers p).profile)
    (transport : (w.printers p).transport.Lowered (change (w.printers p)).transport) :
    w.Lowered (w.setPrinter p change) := by
  constructor <;> intro q <;> rw [setPrinter_printers] <;> split
  · next same => rw [same, profile]
  · rfl
  · next same =>
      subst same
      exact transport
  · exact .refl _

/-- A change of what a printer object knows beside its link. -/
theorem lowered_setPrinter_of_same (p : PrinterId) {change : Printer → Printer}
    (profile : (change (w.printers p)).profile = (w.printers p).profile)
    (transport : (change (w.printers p)).transport = (w.printers p).transport) :
    w.Lowered (w.setPrinter p change) := by
  apply lowered_setPrinter p profile
  rw [transport]
  exact .refl _

theorem lowered_setConnected (p : PrinterId) : w.Lowered (w.setConnected p false) := by
  unfold setConnected setTransport
  apply lowered_setPrinter
  · rfl
  · exact ⟨rfl, .inl rfl, fun up => absurd up Bool.false_ne_true, .inl rfl⟩

theorem lowered_unset (p : PrinterId) : w.Lowered (w.setClient p none) := by
  unfold setClient setTransport
  apply lowered_setPrinter
  · rfl
  · exact ⟨rfl, .inr rfl, id, .inl rfl⟩

theorem lowered_hangUp (p : PrinterId) : w.Lowered (w.hangUp p) := by
  unfold hangUp setTransport
  apply lowered_setPrinter
  · rfl
  · exact ⟨rfl, .inr rfl, fun up => absurd up Bool.false_ne_true, .inr ⟨rfl, rfl⟩⟩

/-- The bridge and its session note something down. -/
theorem Lowered.aside {third : World} (lowered : w.Lowered after)
    (same : third.printers = after.printers) : w.Lowered third :=
  lowered.trans (lowered_of_printers same)

theorem lowered_startHoldTask : w.Lowered w.startHoldTask.1 := by
  unfold startHoldTask
  dsimp only
  split
  · exact lowered_of_printers rfl
  · split
    · exact (lowered_setConnected _).aside rfl
    · exact lowered_of_printers rfl

theorem lowered_happen (incident : Incident) : w.Lowered (w.happen incident).1 := by
  cases incident with
  | abort => exact lowered_of_printers rfl
  | dropped p => exact lowered_setConnected p
  | notified p events =>
      dsimp only [happen, setListeners]
      apply lowered_setPrinter
      · rfl
      · exact .refl _
  | holdExpires =>
      dsimp only [happen]
      split
      · exact lowered_of_printers rfl
      · exact .refl w
  | holdStarts =>
      dsimp only [happen]
      split
      · exact .refl w
      · apply Lowered.trans _ lowered_startHoldTask
        exact lowered_of_printers rfl
  | holdEnds p =>
      dsimp only [happen]
      split
      · exact (lowered_hangUp p).aside rfl
      · exact .refl w

theorem lowered_happenAll (incidents : List Incident) : w.Lowered (w.happenAll incidents).1 := by
  induction incidents generalizing w with
  | nil => exact .refl w
  | cons incident incidents ih => exact (lowered_happen incident).trans ih

theorem lowered_awaken (answer : Tick) : w.Lowered (w.awaken answer) :=
  (lowered_happenAll answer.incidents).trans (lowered_of_printers rfl)

end World

/-- An invariant that links going down keep, and events that say nothing of printers. -/
structure LowerStable (inv : World → List TraceEvent → Prop) : Prop where
  lowered : ∀ w after past, w.Lowered after → inv w past → inv after past
  silent : ∀ w past event, event.Silent → inv w past → inv w (past ++ [event])

namespace LowerStable

variable {rely : TraceEvent → Prop} {inv : World → List TraceEvent → Prop} {w after : World}
  {past later : List TraceEvent}

theorem append (stable : LowerStable inv) (silent : ∀ event ∈ later, event.Silent)
    (holds : inv w past) : inv w (past ++ later) := by
  induction later generalizing past with
  | nil => rwa [List.append_nil]
  | cons event later ih =>
      obtain ⟨first, others⟩ := List.forall_mem_cons.mp silent
      rw [List.append_cons]
      exact ih others (stable.silent w past event first holds)

theorem awaken (stable : LowerStable inv) (answer : Tick) (holds : inv w past) :
    inv (w.awaken answer) (past ++ w.awakening answer) := by
  apply stable.append
  · exact fun event member => TraceEvent.silent_await (World.awakening_events answer event member)
  · exact stable.lowered w _ past (World.lowered_awaken answer) holds

/-- The bridge and its session note something down. -/
theorem aside (stable : LowerStable inv) (holds : inv w past)
    (same : after.printers = w.printers) : inv after past :=
  stable.lowered w after past (World.lowered_of_printers same) holds

theorem idle (stable : LowerStable inv) : IdleStable rely inv where
  awaken := fun _ _ answer holds _ => stable.awaken answer holds
  quiet := fun w after past quiet => stable.lowered w after past quiet.lowered
  event := fun w past event wire holds _ =>
    stable.silent w past event (TraceEvent.silent_wire wire) holds

theorem emit (stable : LowerStable inv) {event : TraceEvent} (silent : event.Silent) :
    Keeps rely inv (Coroutine.emit event : Py Unit) :=
  Upholds.emit fun w past holds _ => stable.silent w past event silent holds

theorem note (stable : LowerStable inv) {change : World → World}
    (same : ∀ w, (change w).printers = w.printers) :
    Keeps rely inv (Coroutine.modify change : Py Unit) :=
  Upholds.modify fun w _ holds => stable.aside holds (same w)

theorem disconnect (stable : LowerStable inv) (p : PrinterId) :
    Keeps rely inv (BleTransport.disconnect p) := by
  intro w past holds
  have disconnects := @ensures_disconnect rely inv p stable.idle
    (fun w past => stable.lowered w _ past (World.lowered_setConnected p))
    (fun w past => stable.lowered w _ past (World.lowered_hangUp p)) w past holds
  apply disconnects.mono
  · exact fun _ _ _ => And.left
  · exact fun _ _ _ failed => ⟨failed.1, trivial⟩
  · exact fun _ _ => id

end LowerStable

/-- An invariant of all printer objects; `dialed p` is what holds beside it from the moment printer
`p` is dialed on. -/
structure FleetStable (env : Env) (rely : TraceEvent → Prop)
    (inv : World → List TraceEvent → Prop)
    (dialed : PrinterId → World → List TraceEvent → Prop) : Prop extends LowerStable inv where
  wrote : ∀ p w past client data, inv w past → Writable w p client → Commanded data →
    inv w (past ++ [.wrote p client.address data])
  created : ∀ w past profile address, profile ∈ env.registry.profiles → inv w past →
    inv (w.withPrinter profile address) past
  usedProfile : ∀ p w past profile, profile ∈ env.registry.profiles → inv w past →
    inv (w.useProfile p profile) past
  dials : ∀ p w past (device : Device) overlapped, inv w past →
    dialed p
      { w.setClient p (some ⟨w.nextClient, device.address⟩) with nextClient := w.nextClient + 1 }
      (past ++ [.dialed p device.address overlapped])
  fresh : ∀ p, LowerStable (dialed p)
  up : ∀ p w past, dialed p w past → dialed p (w.setConnected p true) past
  negotiated : ∀ p w past answer mtu, rely (.tick answer) → answer.mtu = some mtu → 3 < mtu →
    dialed p w past → dialed p (w.setChunkBytes p (mtu - 3)) past
  forget : ∀ p w past, dialed p w past → inv w past

namespace FleetStable

variable {env : Env} {rely : TraceEvent → Prop} {inv : World → List TraceEvent → Prop}
  {dialed : PrinterId → World → List TraceEvent → Prop} {p : PrinterId}

/-! ## One printer -/

theorem wire (stable : FleetStable env rely inv dialed) (p : PrinterId) :
    WireStable rely inv p where
  toIdleStable := stable.idle
  wrote := fun w past client data holds writable _ command =>
    stable.wrote p w past client data holds writable command
  lost := fun w past holds _ => stable.silent _ _ (.writeFailed p) trivial
    (stable.lowered w _ past (World.lowered_setConnected p) holds)

/-- A printer that has been dialed stays so until the connect ends. -/
theorem negotiate (stable : FleetStable env rely inv dialed) :
    Keeps rely (dialed p) (BleTransport.negotiate p) := by
  apply Upholds.read_bind
  intro w past holds
  apply Ensures.ite
  · intro _
    apply ensures_tick_bind holds
    intro answer relied
    have awake := (stable.fresh p).awaken answer holds
    cases negotiated : answer.mtu with
    | none => exact Ensures.pure awake
    | some mtu =>
        apply Ensures.ite
        · intro usable
          apply Ensures.modify
          exact stable.negotiated p _ _ answer mtu (relied _ List.mem_cons_self) negotiated usable
            awake
        · exact fun _ => Ensures.pure awake
  · exact fun _ => Ensures.pure holds

theorem subscribe (stable : FleetStable env rely inv dialed) (device : Device) :
    Keeps rely (dialed p) (BleTransport.subscribe p device) := by
  apply Upholds.bind Upholds.read
  intro w
  apply Upholds.ite
  · intro _
    apply Upholds.bind (stable.fresh p).idle.tick
    intro answer
    cases answer.bleakError with
    | none => exact Upholds.pure _
    | some text => exact Upholds.bind ((stable.fresh p).disconnect p) fun _ => Upholds.raise trivial
  · exact fun _ => Upholds.raise trivial

theorem connectDevice (stable : FleetStable env rely inv dialed) (device : Device) :
    Keeps rely inv (BleTransport.connect p device) := by
  have fresh := stable.fresh p
  apply Upholds.read_bind
  intro w past holds
  apply Ensures.ite
  · exact fun _ => Ensures.raise ⟨holds, trivial⟩
  · intro _
    apply Ensures.bind
    apply Ensures.read_bind
    apply Ensures.modify_bind
    apply Ensures.emit
    intro _
    refine (show Keeps rely (dialed p) _ from ?_).ensures (stable.dials p w past device _ holds)
      (fun _ => stable.forget p) ?_ (stable.forget p)
    · apply Upholds.bind fresh.idle.tick
      intro answer
      cases answer.bleakError with
      | some text =>
          apply Upholds.bind
          · exact Upholds.modify fun w past => fresh.lowered w _ past (World.lowered_unset p)
          · exact fun _ => Upholds.raise trivial
      | none =>
          apply Upholds.bind (Upholds.modify (stable.up p))
          intro _
          exact Upholds.bind stable.negotiate fun _ => stable.subscribe device
    · exact fun _ w past holds _ => ⟨stable.forget p w past holds, trivial⟩

theorem device (stable : FleetStable env rely inv dialed) (p : PrinterId) :
    DeviceStable env rely inv p where
  toWireStable := stable.wire p
  disconnect := stable.toLowerStable.disconnect p
  connect := by
    intro w past holds
    apply ensures_connect stable.idle
    · intro w past change same holds
      apply stable.lowered w _ past _ holds
      exact World.lowered_setPrinter_of_same p (same _).2 (same _).1
    · exact fun w past asked found holds _ => stable.silent w past _ trivial holds
    · exact fun _ _ _ holds => ⟨holds, trivial⟩
    · exact fun _ _ => id
    · exact fun w past device holds => stable.connectDevice device w past holds
    · exact holds

theorem bridgeSerial (stable : FleetStable env rely inv dialed) (p : PrinterId) :
    Keeps rely inv (Bridge.querySerial p) :=
  (stable.wire p).bridgeSerial

/-! ## The bridge's printer -/

theorem useProfile (stable : FleetStable env rely inv dialed) (p : PrinterId)
    {profile : PrinterProfile} (registered : profile ∈ env.registry.profiles) :
    Keeps rely inv (Printer.useProfile p profile) := by
  apply Upholds.bind Upholds.read
  intro w
  apply Upholds.ite
  · exact fun _ => Upholds.raise trivial
  · intro _
    apply Upholds.bind
    · exact Upholds.modify fun w past => stable.usedProfile p w past profile registered
    · exact fun _ => stable.emit trivial

theorem factory (stable : FleetStable env rely inv dialed) {profile : PrinterProfile}
    (registered : profile ∈ env.registry.profiles) (address : Option PrinterAddress) :
    Keeps rely inv (Bridge.factory profile address) := by
  apply Upholds.bind Upholds.read
  intro _
  apply Upholds.bind
  · exact Upholds.modify fun w past => stable.created w past profile address registered
  · exact fun _ => Upholds.pure _

theorem replacePrinter (stable : FleetStable env rely inv dialed) (p : PrinterId)
    {profile : PrinterProfile} (registered : profile ∈ env.registry.profiles) :
    Keeps rely inv (do
      Printer.disconnect p
      let w ← Coroutine.read
      let q ← Bridge.factory profile ((w.printers p).addressText.map .text)
      Coroutine.modify fun w => w.setBridge fun bridge => { bridge with printer := some q }
      Coroutine.emit (.replacedPrinter p q)
      Printer.connect env q) := by
  have hangsUp : Keeps rely inv (Printer.disconnect p) := (stable.device p).disconnect
  apply Upholds.bind hangsUp
  intro _
  apply Upholds.bind Upholds.read
  intro w
  apply Upholds.bind (stable.factory registered _)
  intro q
  apply Upholds.bind
  · apply stable.note
    exact fun _ => rfl
  · intro _
    exact Upholds.bind (stable.emit trivial) fun _ => (stable.device q).connect

theorem refineModel (stable : FleetStable env rely inv dialed) (p : PrinterId) :
    Keeps rely inv (Bridge.refineModel env p) := by
  have settles : ∀ name serial, Keeps rely inv (Bridge.applySerial env p name serial) := by
    intro name serial
    have notes : ∀ address values, Keeps rely inv (Bridge.remember address values) :=
      fun address values => stable.idle.remember address values
    apply Upholds.bind Upholds.read
    intro w
    apply Upholds.bind (notes _ _)
    intro _
    cases chosen : env.registry.profileForName name (some serial) with
    | none => exact Upholds.pure _
    | some profile =>
        have registered := env.registry.profilesForName_subset name profile
          (env.registry.profileForName_mem chosen)
        apply Upholds.bind Upholds.read
        intro w
        apply Upholds.ite
        · exact fun _ => Upholds.pure _
        · intro _
          apply Upholds.ite
          · exact fun _ => stable.useProfile p registered
          · exact fun _ => stable.replacePrinter p registered
  apply Upholds.bind Upholds.read
  intro w
  apply Upholds.ite
  · intro _
    apply Upholds.bind (stable.bridgeSerial p)
    rintro (_ | serial)
    · exact Upholds.pure _
    · exact settles _ serial
  · exact fun _ => Upholds.pure _

theorem connectHeld (stable : FleetStable env rely inv dialed) :
    Keeps rely inv (Bridge.connectHeld env) := by
  apply Upholds.bind Upholds.read
  intro w
  cases w.bridge.printer with
  | none => exact Upholds.raise trivial
  | some p =>
      apply Upholds.bind (stable.device p).connect
      intro _
      apply Upholds.bind (stable.refineModel p)
      intro _
      apply Upholds.bind Upholds.read
      exact fun w => (stable.wire _).applyAutoOff env

theorem establishes (stable : FleetStable env rely inv dialed) :
    EstablishStable env rely inv ⟨fun _ => inv, fun _ => inv, inv⟩ where
  idle := stable.idle
  cancelHold := fun _ _ holds => stable.aside holds rfl
  disconnect := by
    intro p w past holds _
    apply (stable.toLowerStable.disconnect p).ensures holds
    · exact fun _ _ _ => id
    · exact fun _ _ _ holds _ => holds
    · exact fun _ _ => id
  dropped := fun _ _ holds => stable.aside holds rfl
  looked := fun w past _ _ => stable.silent w past _ trivial
  adopted := fun w past profile address _ registered holds =>
    stable.aside (stable.created w past profile address registered holds) rfl
  refused := fun _ _ _ _ => id
  online := fun _ _ holds _ => holds
  waiting := fun _ _ => id
  connects := by
    intro p w past holds _ _
    apply stable.connectHeld.ensures holds
    · exact fun _ _ _ => id
    · exact fun _ _ _ holds _ => holds
    · exact fun _ _ => id

theorem connect (stable : FleetStable env rely inv dialed) (address model : Option String) :
    Keeps rely inv (Bridge.connect env address model) := by
  have establishes : Keeps rely inv (Bridge.establish env address model) := by
    intro w past holds
    apply (stable.establishes.establish (stable.aside holds rfl) address model).mono
    · exact fun _ _ _ => id
    · exact fun _ _ _ holds => ⟨holds, trivial⟩
    · exact fun _ _ => id
  apply Upholds.bind Upholds.read
  intro w
  apply Upholds.bind
  · apply stable.emit
    trivial
  intro _
  have records : ∀ exc, Keeps rely inv (Coroutine.emit (.connectRaised exc) : Py Unit) :=
    fun _ => stable.emit trivial
  apply Upholds.bind
  · apply Upholds.handle establishes
    exact fun exc _ => Upholds.bind (records exc) fun _ => Upholds.raise trivial
  · intro _
    exact Upholds.bind Upholds.read fun _ => stable.emit trivial

/-! ## Commands -/

theorem waits (stable : FleetStable env rely inv dialed) : WaitStable env rely fun _ => inv where
  idle := fun _ => stable.idle
  hold := fun _ _ _ _ holds _ => holds
  letGo := fun _ _ _ _ => id
  marked := fun _ _ _ holds => stable.aside holds rfl
  event := fun _ w past event waits holds _ =>
    stable.silent w past event (TraceEvent.silent_waits waits) holds
  device := fun _ p _ => stable.device p
  connect := fun _ => stable.connect none none

theorem probes (stable : FleetStable env rely inv dialed) :
    ProbeStable env rely (fun _ => inv) fun _ => inv where
  toHandStable := stable.waits.toHandStable
  wire := stable.wire
  probed := fun w past _ profile holds chosen =>
    stable.created w past profile _ (env.registry.profilesForName_subset _ _
      (env.registry.profileForName_mem chosen)) holds
  probe := stable.device
  left := fun _ _ _ => id

theorem cmdOpen (stable : FleetStable env rely inv dialed) (address model : Option String) :
    Keeps rely inv (Session.cmdOpen env address model) := by
  have connects : Keeps rely inv (do
      Bridge.connect env address model
      return none : Py (Option PyExc)) :=
    Upholds.bind (stable.connect address model) fun _ => Upholds.pure _
  have uses : Keeps rely inv Session.useLink := by
    apply stable.note
    exact fun _ => rfl
  apply Upholds.bind uses
  intro _
  apply Upholds.bind
  · apply Upholds.handle connects
    intro exc _
    apply Upholds.ite
    · exact fun _ => Upholds.pure _
    · exact fun _ => Upholds.raise trivial
  · rintro (_ | exc)
    · apply Upholds.bind Upholds.read
      intro w
      cases w.bridge.printer with
      | some p => exact Upholds.bind (stable.emit trivial) fun _ => Upholds.pure _
      | none => exact Upholds.raise trivial
    · exact Upholds.bind (stable.emit trivial) fun _ => Upholds.pure _

/-- Every command keeps the invariant, given what `page_end` does with it. -/
theorem runs (stable : FleetStable env rely inv dialed) {waiting : World → List TraceEvent → Prop}
    (waits : ∀ w past, inv w past → waiting w past)
    (pageEnds : ∀ w past, inv w past →
      Ensures rely (Session.cmdPageEnd env) ⟨fun _ => inv, fun _ => inv, waiting⟩ w past) :
    RunStable env rely inv (fun _ => inv) inv waiting where
  idle := stable.idle
  begins := by
    apply Upholds.modify
    intro w past holds
    split
    · exact holds
    · exact stable.aside holds rfl
  finishes := by
    have timer : KeptByTimer inv := fun _ _ _ holds => stable.aside holds rfl
    apply timer.finish
    · exact fun _ _ holds => stable.aside holds rfl
    · exact fun w past holds _ => stable.silent w past _ trivial holds
  accepted := fun w past _ holds _ => stable.silent _ past _ trivial (stable.aside holds rfl)
  handled := by
    intro command w past holds
    have timer : KeptByTimer inv := fun _ _ _ holds => stable.aside holds rfl
    apply stable.waits.handler waits
    · intro address model _
      apply (stable.cmdOpen address model).ensures holds
      · exact fun _ _ _ => id
      · exact fun _ _ _ holds _ => holds
      · exact waits
    · exact fun _ => timer.cmdClose env fun w past holds _ => stable.silent w past _ trivial holds
    · exact fun _ => @WaitStable.cmdDisconnect _ _ _ [] stable.waits
        (fun _ _ holds => stable.aside holds rfl) fun _ _ holds => stable.aside holds rfl
    · exact fun timeout _ => stable.probes.cmdDiscover timeout
    · exact fun _ => pageEnds w past holds
    · exact holds
  replied := fun w past _ _ holds _ => stable.silent w past _ trivial holds
  answers := stable.idle
  cleared := fun _ _ holds => stable.aside holds rfl
  resting := waits
  finishing := waits

end FleetStable

end Phomemo
