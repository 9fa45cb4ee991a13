import Phomemo.Upkeep.Wire

/-!
# Invariants of connecting one printer

What connecting, reconnecting and disconnecting a printer can do beyond the work on its wire.
The devices a printer may be connected to enter as a predicate, so that an invariant can speak
about addresses.
-/

namespace Phomemo

open Async Coroutine

namespace World

/-- A printer object takes over the address and name of a device. -/
def learn (w : World) (p : PrinterId) (device : Device) : World :=
  w.setPrinter p fun printer =>
    { printer with address := some (.text device.address), advertisedName := device.name }

/-- A printer object takes over the name of a device, if it has one. -/
def rename (w : World) (p : PrinterId) (device : Device) : World :=
  w.setPrinter p fun printer =>
    { printer with
      advertisedName :=
        match device.name with
        | some name => if name = "" then printer.advertisedName else some name
        | none => printer.advertisedName }

theorem quiet_rename (w : World) (p : PrinterId) (device : Device) :
    w.Quiet (w.rename p device) := by
  apply quiet_setPrinter <;> rfl

theorem learn_address (w : World) (p : PrinterId) (device : Device) :
    ((w.learn p device).printers p).address = some (.text device.address) := by
  unfold learn
  rw [setPrinter_printers, if_pos rfl]

theorem learn_profile (w : World) (p q : PrinterId) (device : Device) :
    ((w.learn p device).printers q).profile = (w.printers q).profile := by
  unfold learn
  rw [setPrinter_printers]
  split
  · subst q
    rfl
  · rfl

end World

/-- The devices a printer of an address may be connected to. -/
abbrev Near : Type := Option PrinterAddress → Device → Prop

/-- An invariant that connecting printer `p` keeps. -/
structure LinkStable (rely : TraceEvent → Prop) (inv : World → List TraceEvent → Prop)
    (p : PrinterId) (near : Near) : Prop extends WireStable rely inv p where
  downed : ∀ w past, inv w past → inv (w.setConnected p false) past
  hungUp : ∀ w past, inv w past → inv (w.hangUp p) past
  unset : ∀ w past, inv w past → inv (w.setClient p none) past
  dialed : ∀ w past device, inv w past → near (w.printers p).address device →
    rely (.dialed p device.address (p ∈ w.bridge.holdInFlight)) →
    inv { w.setClient p (some ⟨w.nextClient, device.address⟩) with nextClient := w.nextClient + 1 }
      (past ++ [.dialed p device.address (p ∈ w.bridge.holdInFlight)])
  up : ∀ w past, inv w past → inv (w.setConnected p true) past
  negotiated : ∀ w past chunk, 0 < chunk → inv w past → inv (w.setChunkBytes p chunk) past
  /-- A printer without an address takes that of the device found by name. -/
  named : ∀ w past device, inv w past → (w.printers p).address = none →
    inv (w.learn p device) past
  learned : ∀ device, near (some (.text device.address)) device
  sought : ∀ asked found, rely (.resolved asked found) → near (some (.text asked)) found
  handed : ∀ device, near (some (.device device)) device
  resolved : ∀ w past asked found, inv w past → rely (.resolved asked found) →
    inv w (past ++ [.resolved asked found])

/-- An invariant together with the address of a printer. -/
abbrev HasAddress (inv : World → List TraceEvent → Prop) (p : PrinterId)
    (address : Option PrinterAddress) (w : World) (past : List TraceEvent) : Prop :=
  inv w past ∧ (w.printers p).address = address

/-- Awaits change no address. -/
theorem IdleStable.withAddress {rely : TraceEvent → Prop}
    {inv : World → List TraceEvent → Prop} (stable : IdleStable rely inv) (p : PrinterId)
    (address : Option PrinterAddress) : IdleStable rely (HasAddress inv p address) where
  awaken := fun w past answer holds relied =>
    ⟨stable.awaken w past answer holds.1 relied,
      ((World.awaited_awaken answer).address p).trans holds.2⟩
  quiet := fun w after past quiet holds =>
    ⟨stable.quiet w after past quiet holds.1, (quiet.address p).trans holds.2⟩
  event := fun w past event wire holds relied =>
    ⟨stable.event w past event wire holds.1 relied, holds.2⟩

namespace LinkStable

variable {rely : TraceEvent → Prop} {inv : World → List TraceEvent → Prop} {p : PrinterId}
  {near : Near}

/-- A disconnect fails with what bleak raises only. -/
theorem disconnect (stable : LinkStable rely inv p near) {fails : PyExc → Prop}
    (failing : ∀ text, fails (.bleakError text)) :
    Upholds rely inv fails (BleTransport.disconnect p) := by
  apply Upholds.bind Upholds.read
  intro w
  apply Upholds.ite
  · intro _
    apply Upholds.bind (Upholds.modify stable.downed)
    intro _
    apply Upholds.bind stable.tick
    intro answer
    apply Upholds.bind (Upholds.modify stable.hungUp)
    intro _
    cases answer.bleakError with
    | none => exact Upholds.pure _
    | some text =>
        apply Upholds.bind (stable.emit (.disconnectFailed p))
        exact fun _ => Upholds.raise (failing text)
  · exact fun _ => Upholds.pure _

theorem dial (stable : LinkStable rely inv p near) {device : Device} {w : World}
    {past : List TraceEvent} (holds : inv w past) (found : near (w.printers p).address device) :
    Ensures rely (BleTransport.dial p device)
      ⟨fun _ => inv, fun _ w past => inv w past ∧ True, inv⟩ w past := by
  apply Ensures.read_bind
  apply Ensures.modify_bind
  apply Ensures.emit
  exact fun relied => stable.dialed w past device holds found relied

theorem negotiate (stable : LinkStable rely inv p near) :
    Keeps rely inv (BleTransport.negotiate p) := by
  apply Upholds.bind Upholds.read
  intro w
  apply Upholds.ite
  · intro _
    apply Upholds.bind stable.tick
    intro answer
    cases answer.mtu with
    | none => exact Upholds.pure _
    | some mtu =>
        apply Upholds.ite
        · intro usable
          exact Upholds.modify fun w past => stable.negotiated w past _ (by omega)
        · exact fun _ => Upholds.pure _
  · exact fun _ => Upholds.pure _

theorem subscribe (stable : LinkStable rely inv p near) (device : Device) :
    Keeps rely inv (BleTransport.subscribe p device) := by
  apply Upholds.bind Upholds.read
  intro w
  apply Upholds.ite
  · intro _
    apply Upholds.bind stable.tick
    intro answer
    cases answer.bleakError with
    | none => exact Upholds.pure _
    | some text =>
        have disconnects : Keeps rely inv (BleTransport.disconnect p) :=
          stable.disconnect fun _ => trivial
        exact Upholds.bind disconnects fun _ => Upholds.raise trivial
  · exact fun _ => Upholds.raise trivial

theorem connectDevice (stable : LinkStable rely inv p near) {device : Device} {w : World}
    {past : List TraceEvent} (holds : inv w past) (found : near (w.printers p).address device) :
    Ensures rely (BleTransport.connect p device)
      ⟨fun _ => inv, fun _ w past => inv w past ∧ True, inv⟩ w past := by
  apply Ensures.read_bind
  apply Ensures.ite
  · exact fun _ => Ensures.raise ⟨holds, trivial⟩
  · intro _
    apply Ensures.seq (stable.dial holds found)
    · intro _
      apply Upholds.bind stable.tick
      intro answer
      cases answer.bleakError with
      | some text =>
          exact Upholds.bind (Upholds.modify stable.unset) fun _ => Upholds.raise trivial
      | none =>
          apply Upholds.bind (Upholds.modify stable.up)
          intro _
          exact Upholds.bind stable.negotiate fun _ => stable.subscribe device
    · exact fun _ _ _ => id
    · exact fun _ _ => id

theorem connectByName (stable : LinkStable rely inv p near) (env : Env) {w : World}
    {past : List TraceEvent} (holds : inv w past) (unknown : (w.printers p).address = none) :
    Ensures rely (Printer.connectByName env p)
      ⟨fun _ => inv, fun _ w past => inv w past ∧ True, inv⟩ w past := by
  have scans : ∀ search, Keeps rely (HasAddress inv p none) (scanDevices (.ok search)) :=
    fun search => (stable.toIdleStable.withAddress p none).scanByName (fun _ => trivial) search
  apply Ensures.read_bind
  apply Upholds.seq (scans _) ⟨holds, unknown⟩
  · rintro (_ | ⟨device, _ | ⟨_, _⟩⟩) w past ⟨holds, unknown⟩
    · exact Ensures.raise ⟨holds, trivial⟩
    · apply Ensures.modify_bind
      apply stable.connectDevice (stable.named w past device holds unknown)
      rw [World.learn_address]
      exact stable.learned device
    · exact Ensures.raise ⟨holds, trivial⟩
  · exact fun _ _ _ both _ => ⟨both.1, trivial⟩
  · exact fun _ _ both => both.1

theorem connectByAddress (stable : LinkStable rely inv p near) {address : String} {w : World}
    {past : List TraceEvent} (holds : inv w past)
    (known : (w.printers p).address = some (.text address)) :
    Ensures rely (Printer.connectByAddress p address)
      ⟨fun _ => inv, fun _ w past => inv w past ∧ True, inv⟩ w past := by
  have waits : Keeps rely (HasAddress inv p (some (.text address))) Phomemo.tick :=
    (stable.toIdleStable.withAddress p _).tick
  apply Upholds.seq waits ⟨holds, known⟩
  · rintro answer w past ⟨holds, known⟩
    cases answer.bleakError with
    | some text => exact Ensures.raise ⟨holds, trivial⟩
    | none =>
        cases answer.found with
        | none => exact Ensures.raise ⟨holds, trivial⟩
        | some device =>
            apply Ensures.emit_bind
            intro relied
            have found := stable.resolved w past address device holds relied
            have renamed : w.Quiet (w.rename p device) := w.quiet_rename p device
            apply Ensures.modify_bind
            apply stable.connectDevice (stable.quiet w _ _ renamed found)
            rw [renamed.address p, known]
            exact stable.sought address device relied
  · exact fun _ _ _ both _ => ⟨both.1, trivial⟩
  · exact fun _ _ both => both.1

theorem connect (stable : LinkStable rely inv p near) (env : Env) :
    Keeps rely inv (Printer.connect env p) := by
  apply Upholds.read_bind
  intro w past holds
  cases address : (w.printers p).address with
  | none => exact stable.connectByName env holds address
  | some known =>
      cases known with
      | text asked => exact stable.connectByAddress holds address
      | device device =>
          apply stable.connectDevice holds
          rw [address]
          exact stable.handed device

end LinkStable

/-- Connecting a printer keeps what all changes of the printer object keep. -/
theorem LinkStable.elsewhere {rely : TraceEvent → Prop} {inv : World → List TraceEvent → Prop}
    {p : PrinterId} (stable : WireStable rely inv p)
    (setPrinter : ∀ w past change, inv w past → inv (w.setPrinter p change) past)
    (nextClient : ∀ (w : World) past next, inv w past → inv { w with nextClient := next } past)
    (dialed : ∀ w past address overlapped, inv w past →
      rely (.dialed p address overlapped) → inv w (past ++ [.dialed p address overlapped]))
    (resolved : ∀ w past asked found, inv w past → rely (.resolved asked found) →
      inv w (past ++ [.resolved asked found])) : LinkStable rely inv p fun _ _ => True := by
  have setTransport : ∀ (change : Transport → Transport) w past, inv w past →
      inv (w.setTransport p change) past :=
    fun change w past => setPrinter w past fun printer =>
      { printer with transport := change printer.transport }
  exact {
    toWireStable := stable
    downed := setTransport fun transport => { transport with connected := false }
    hungUp := setTransport fun transport =>
      { transport with
        client := none
        connected := false
        effectiveChunkBytes := transport.profile.maxChunkBytes }
    unset := setTransport fun transport => { transport with client := none }
    dialed := by
      intro w past device holds _ relied
      have handed := setTransport (fun transport =>
        { transport with client := some ⟨w.nextClient, device.address⟩ }) w past holds
      exact dialed _ _ _ _ (nextClient _ _ _ handed) relied
    up := setTransport fun transport => { transport with connected := true }
    negotiated := fun w past chunk _ =>
      setTransport (fun transport => { transport with effectiveChunkBytes := chunk }) w past
    named := fun w past device holds _ => setPrinter w past
      (fun printer =>
        { printer with address := some (.text device.address), advertisedName := device.name })
      holds
    learned := fun _ => trivial
    sought := fun _ _ _ => trivial
    handed := fun _ => trivial
    resolved := resolved }

/-- An invariant that all work on printer `p` keeps, connecting it included. -/
structure DeviceStable (env : Env) (rely : TraceEvent → Prop)
    (inv : World → List TraceEvent → Prop) (p : PrinterId) : Prop
    extends WireStable rely inv p where
  disconnect : Keeps rely inv (Printer.disconnect p)
  connect : Keeps rely inv (Printer.connect env p)

theorem LinkStable.device {rely : TraceEvent → Prop} {inv : World → List TraceEvent → Prop}
    {p : PrinterId} {near : Near} (stable : LinkStable rely inv p near) (env : Env) :
    DeviceStable env rely inv p where
  toWireStable := stable.toWireStable
  disconnect := stable.disconnect fun _ => trivial
  connect := stable.connect env

namespace DeviceStable

variable {env : Env} {rely : TraceEvent → Prop} {inv : World → List TraceEvent → Prop}
  {p : PrinterId}

theorem reconnect (stable : DeviceStable env rely inv p) :
    Keeps rely inv (Printer.reconnect env p) :=
  Upholds.bind stable.disconnect fun _ => stable.connect

theorem pollReady (stable : DeviceStable env rely inv p) (deadline muteThreshold : Nat) :
    Keeps rely inv (Printer.pollReady env p deadline muteThreshold) := by
  apply Upholds.iterate
  rintro ⟨timeouts, reconnected⟩
  apply Upholds.bind (stable.checkReady .any)
  intro readiness
  apply Upholds.ite
  · exact fun _ => Upholds.pure _
  · intro _
    apply Upholds.ite
    · intro _
      exact Upholds.bind stable.reconnect fun _ => Upholds.pure _
    · intro _
      apply Upholds.bind Upholds.read
      intro w
      apply Upholds.ite
      · exact fun _ => Upholds.raise trivial
      · intro _
        exact Upholds.bind stable.pause fun _ => Upholds.pure _

theorem waitForReady (stable : DeviceStable env rely inv p) (timeout : Nat) (settle : ℚ) :
    Keeps rely inv (Printer.waitForReady env p timeout settle) := by
  apply Upholds.bind Upholds.read
  intro w
  apply Upholds.bind (stable.pollReady _ _)
  intro _
  apply Upholds.ite
  · exact fun _ => Upholds.bind (stable.waitFor _) fun _ => Upholds.pure _
  · exact fun _ => Upholds.pure _

end DeviceStable

end Phomemo
