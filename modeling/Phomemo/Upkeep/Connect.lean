import Phomemo.Upkeep.Link

/-!
# Invariants of connecting the bridge

Connecting the bridge's printer may switch that printer's model or put another object in its
place.  An invariant may name the printers a command has in hand, since those objects stay in use
after they are replaced.
-/

namespace Phomemo

open Async Coroutine

/-- The events of a connect without an address or a model. -/
inductive TraceEvent.OfConnect : TraceEvent → Prop where
  | connectCalled (current : Option Target) : OfConnect (.connectCalled none none current)
  | lookedFor (found : Bool) : OfConnect (.lookedFor none found)
  | connectReturned (usable : Bool) : OfConnect (.connectReturned usable)
  | connectRaised (error : PyExc) : OfConnect (.connectRaised error)

/-- The events of the waits beside those of connects and of the work on one printer. -/
inductive TraceEvent.OfWaits : TraceEvent → Prop where
  | recoveryFailed : OfWaits .recoveryFailed
  | sheetChecked (answer : Option PaperState) : OfWaits (.sheetChecked answer)
  | oldSheetEjected (gone : Bool) : OfWaits (.oldSheetEjected gone)
  | oldSheetStuck (error : PyExc) : OfWaits (.oldSheetStuck error)

namespace World

/-- A new printer object that nothing uses yet. -/
def withPrinter (w : World) (profile : PrinterProfile) (address : Option PrinterAddress) : World :=
  { w.setPrinter w.nextPrinter fun _ => Printer.new profile address with
    nextPrinter := w.nextPrinter + 1 }

/-- The bridge takes over a printer object. -/
def adopt (w : World) (p : PrinterId) (explicit : Bool) : World :=
  w.setBridge fun bridge => { bridge with printer := some p, modelExplicit := explicit }

theorem withPrinter_new (w : World) (profile : PrinterProfile) (address : Option PrinterAddress) :
    (w.withPrinter profile address).printers w.nextPrinter = Printer.new profile address := by
  change (w.setPrinter w.nextPrinter fun _ => Printer.new profile address).printers _ = _
  rw [setPrinter_printers, if_pos rfl]

theorem withPrinter_other {w : World} {p : PrinterId} (other : p ≠ w.nextPrinter)
    (profile : PrinterProfile) (address : Option PrinterAddress) :
    (w.withPrinter profile address).printers p = w.printers p := by
  change (w.setPrinter w.nextPrinter fun _ => Printer.new profile address).printers _ = _
  rw [setPrinter_printers, if_neg other]

theorem adopt_printers (w : World) (p : PrinterId) (explicit : Bool) :
    (w.adopt p explicit).printers = w.printers := rfl

/-- A printer object with another profile. -/
def useProfile (w : World) (p : PrinterId) (profile : PrinterProfile) : World :=
  w.setPrinter p fun printer =>
    { printer with profile := profile, transport := { printer.transport with profile := profile } }

/-- The bridge puts a new object in place of its printer. -/
def replace (w : World) (profile : PrinterProfile) (address : Option PrinterAddress) : World :=
  (w.withPrinter profile address).setBridge fun bridge =>
    { bridge with printer := some w.nextPrinter }

theorem replace_printers (w : World) (profile : PrinterProfile)
    (address : Option PrinterAddress) :
    (w.replace profile address).printers = (w.withPrinter profile address).printers := rfl

end World

/-- An invariant of the bridge; `mine` are the printers a command has in hand. -/
structure HandStable (rely : TraceEvent → Prop)
    (inv : List PrinterId → World → List TraceEvent → Prop) : Prop where
  idle : ∀ mine, IdleStable rely (inv mine)
  hold : ∀ mine w past p, inv mine w past → w.bridge.printer = some p → inv (p :: mine) w past
  letGo : ∀ mine w past p, inv (p :: mine) w past → inv mine w past
  /-- The session notes that it uses the connection. -/
  marked : ∀ mine w past, inv mine w past →
    inv mine (w.setSession fun session => { session with usedLink := true }) past
  event : ∀ mine w past event, event.OfWaits → inv mine w past → rely event →
    inv mine w (past ++ [event])

/-- An invariant that connecting the bridge keeps. -/
structure BridgeStable (env : Env) (rely : TraceEvent → Prop)
    (inv : List PrinterId → World → List TraceEvent → Prop) (near : Near) : Prop
    extends HandStable rely inv where
  link : ∀ mine p, p ∈ mine → LinkStable rely (inv mine) p near
  cancelHold : ∀ mine w past, inv mine w past → inv mine w.cancelHold past
  connecting : ∀ mine w past event, event.OfConnect → inv mine w past → rely event →
    inv mine w (past ++ [event])
  /-- The printer a scan without an address turned up. -/
  adopted : ∀ mine w past device profile, inv mine w past → w.bridge.printer = none →
    env.registry.profileForName device.name none = some profile → rely (.lookedFor none true) →
    inv mine ((w.withPrinter profile (some (.device device))).adopt w.nextPrinter false)
      (past ++ [.lookedFor none true])
  usedProfile : ∀ mine w past p profile, inv mine w past → w.bridge.printer = some p →
    w.bridge.modelExplicit = false → profile ∈ env.registry.profiles →
    rely (.usedProfile p (w.printers p).profile profile) →
    inv mine (w.useProfile p profile) (past ++ [.usedProfile p (w.printers p).profile profile])
  replaced : ∀ mine w past p profile, inv mine w past → w.bridge.printer = some p →
    w.bridge.modelExplicit = false → profile ∈ env.registry.profiles →
    rely (.replacedPrinter p w.nextPrinter) →
    inv mine (w.replace profile ((w.printers p).addressText.map .text))
      (past ++ [.replacedPrinter p w.nextPrinter])

/-- An invariant together with the printer the bridge holds and how its model was chosen. -/
abbrev HoldsBridge (inv : World → List TraceEvent → Prop) (held : Option PrinterId)
    (explicit : Bool) (w : World) (past : List TraceEvent) : Prop :=
  inv w past ∧ w.bridge.printer = held ∧ w.bridge.modelExplicit = explicit

/-- Awaits change neither which printer the bridge holds nor how it was chosen. -/
theorem IdleStable.withBridge {rely : TraceEvent → Prop}
    {inv : World → List TraceEvent → Prop} (stable : IdleStable rely inv)
    (held : Option PrinterId) (explicit : Bool) :
    IdleStable rely (HoldsBridge inv held explicit) where
  awaken := fun w past answer holds relied =>
    have awaited := World.awaited_awaken (w := w) answer
    ⟨stable.awaken w past answer holds.1 relied, awaited.printer.trans holds.2.1,
      awaited.modelExplicit.trans holds.2.2⟩
  quiet := fun w after past quiet holds =>
    ⟨stable.quiet w after past quiet holds.1, quiet.printer.trans holds.2.1,
      quiet.modelExplicit.trans holds.2.2⟩
  event := fun w past event wire holds relied =>
    ⟨stable.event w past event wire holds.1 relied, holds.2⟩

/-- Nor does connecting a printer. -/
theorem LinkStable.withBridge {rely : TraceEvent → Prop}
    {inv : World → List TraceEvent → Prop} {p : PrinterId} {near : Near}
    (stable : LinkStable rely inv p near) (held : Option PrinterId) (explicit : Bool) :
    LinkStable rely (HoldsBridge inv held explicit) p near where
  toIdleStable := stable.toIdleStable.withBridge held explicit
  wrote := fun w past client data holds writable relied command =>
    ⟨stable.wrote w past client data holds.1 writable relied command, holds.2⟩
  lost := fun w past holds relied => ⟨stable.lost w past holds.1 relied, holds.2⟩
  downed := fun w past holds => ⟨stable.downed w past holds.1, holds.2⟩
  hungUp := fun w past holds => ⟨stable.hungUp w past holds.1, holds.2⟩
  unset := fun w past holds => ⟨stable.unset w past holds.1, holds.2⟩
  dialed := fun w past device holds found relied =>
    ⟨stable.dialed w past device holds.1 found relied, holds.2⟩
  up := fun w past holds => ⟨stable.up w past holds.1, holds.2⟩
  negotiated := fun w past chunk positive holds =>
    ⟨stable.negotiated w past chunk positive holds.1, holds.2⟩
  named := fun w past device holds address =>
    ⟨stable.named w past device holds.1 address, holds.2⟩
  learned := stable.learned
  sought := stable.sought
  handed := stable.handed
  resolved := fun w past asked found holds relied =>
    ⟨stable.resolved w past asked found holds.1 relied, holds.2⟩

/-- Without an address or a model there is nothing to let go of. -/
theorem keeps_release {rely : TraceEvent → Prop} {inv : World → List TraceEvent → Prop}
    {fails : PyExc → Prop} : Upholds rely inv fails (Bridge.release none none) := by
  apply Upholds.bind Upholds.read
  intro w
  cases w.bridge.printer with
  | none => exact Upholds.pure _
  | some p => exact Upholds.ite nofun fun _ => Upholds.pure _

namespace HandStable

variable {rely : TraceEvent → Prop} {inv : List PrinterId → World → List TraceEvent → Prop}
  {mine : List PrinterId} {p : PrinterId}

theorem emit (stable : HandStable rely inv) {event : TraceEvent} (waits : event.OfWaits) :
    Keeps rely (inv mine) (Coroutine.emit event : Py Unit) :=
  Upholds.emit fun w past holds relied => stable.event mine w past event waits holds relied

/-- Work with the bridge's printer in hand. -/
theorem holding {α : Type} (stable : HandStable rely inv) {program : Py α}
    (keeps : Keeps rely (inv (p :: mine)) program) {w : World} {past : List TraceEvent}
    (holds : inv mine w past) (held : w.bridge.printer = some p) :
    Ensures rely program
      ⟨fun _ => inv mine, fun _ w past => inv mine w past ∧ True, inv mine⟩ w past :=
  keeps.ensures (stable.hold mine w past p holds held)
    (fun _ w past holds => stable.letGo mine w past p holds)
    (fun _ w past holds _ => ⟨stable.letGo mine w past p holds, trivial⟩)
    (fun w past holds => stable.letGo mine w past p holds)

/-- Take a printer in hand, then go on with it. -/
theorem bind_printer {α : Type} (stable : HandStable rely inv) {first : Py PrinterId}
    {next : PrinterId → Py α}
    (taken : ∀ w past, inv mine w past → Ensures rely first
      ⟨fun p => inv (p :: mine), fun _ => inv mine, inv mine⟩ w past)
    (rest : ∀ p, Keeps rely (inv (p :: mine)) (next p)) :
    Keeps rely (inv mine) (first >>= next) := by
  intro w past holds
  apply Ensures.seq (taken w past holds)
  · intro p w past holds
    exact (rest p).ensures holds
      (fun _ w past holds => stable.letGo mine w past p holds)
      (fun _ w past holds _ => ⟨stable.letGo mine w past p holds, trivial⟩)
      (fun w past holds => stable.letGo mine w past p holds)
  · exact fun _ _ _ holds => ⟨holds, trivial⟩
  · exact fun _ _ => id

end HandStable

namespace BridgeStable

variable {env : Env} {rely : TraceEvent → Prop}
  {inv : List PrinterId → World → List TraceEvent → Prop} {near : Near}
  {mine : List PrinterId} {p : PrinterId}

/-! ## Connecting the bridge's printer -/

theorem useProfile (stable : BridgeStable env rely inv near) {profile : PrinterProfile}
    (registered : profile ∈ env.registry.profiles) {w : World} {past : List TraceEvent}
    (holds : inv mine w past) (held : w.bridge.printer = some p)
    (inferred : w.bridge.modelExplicit = false) :
    Ensures rely (Printer.useProfile p profile)
      ⟨fun _ => inv mine, fun _ w past => inv mine w past ∧ True, inv mine⟩ w past := by
  apply Ensures.read_bind
  apply Ensures.ite
  · exact fun _ => Ensures.raise ⟨holds, trivial⟩
  · intro _
    apply Ensures.modify_bind
    apply Ensures.emit
    exact fun relied => stable.usedProfile mine w past p profile holds held inferred registered
      relied

/-- The printer is disconnected and a new object for its address connected in its place. -/
theorem replacePrinter (stable : BridgeStable env rely inv near) (inHand : p ∈ mine)
    {profile : PrinterProfile} (registered : profile ∈ env.registry.profiles) {w : World}
    {past : List TraceEvent} (holds : inv mine w past) (held : w.bridge.printer = some p)
    (inferred : w.bridge.modelExplicit = false) :
    Ensures rely (do
        Printer.disconnect p
        let w ← Coroutine.read
        let q ← Bridge.factory profile ((w.printers p).addressText.map .text)
        Coroutine.modify fun w => w.setBridge fun bridge => { bridge with printer := some q }
        Coroutine.emit (.replacedPrinter p q)
        Printer.connect env q)
      ⟨fun _ => inv mine, fun _ w past => inv mine w past ∧ True, inv mine⟩ w past := by
  have known := (stable.link mine p inHand).withBridge (some p) false
  have disconnects : Keeps rely (HoldsBridge (inv mine) (some p) false) (Printer.disconnect p) :=
    known.disconnect fun _ => trivial
  apply Upholds.seq disconnects ⟨holds, held, inferred⟩
  · rintro _ w past ⟨holds, held, inferred⟩
    apply Ensures.read_bind
    apply Ensures.bind
    apply Ensures.read_bind
    apply Ensures.modify_bind
    apply Ensures.pure
    apply Ensures.modify_bind
    apply Ensures.emit_bind
    intro relied
    have replaced := stable.replaced mine w past p profile holds held inferred registered relied
    apply stable.holding _ replaced rfl
    exact (stable.link _ _ List.mem_cons_self).connect env
  · exact fun _ w past holds _ => ⟨holds.1, trivial⟩
  · exact fun _ _ => And.left

theorem applySerial (stable : BridgeStable env rely inv near) (inHand : p ∈ mine)
    (name : Option String) (serial : String) {w : World} {past : List TraceEvent}
    (holds : inv mine w past) (held : w.bridge.printer = some p) :
    Ensures rely (Bridge.applySerial env p name serial)
      ⟨fun _ => inv mine, fun _ w past => inv mine w past ∧ True, inv mine⟩ w past := by
  have known := (stable.link mine p inHand).withBridge (some p) w.bridge.modelExplicit
  have notes : ∀ address values,
      Keeps rely (HoldsBridge (inv mine) (some p) w.bridge.modelExplicit)
        (Bridge.remember address values) :=
    fun _ _ => known.remember _ _
  apply Ensures.read_bind
  apply Upholds.seq (notes _ _) ⟨holds, held, rfl⟩
  · rintro _ now past ⟨holds, held, explicit⟩
    cases chosen : env.registry.profileForName name (some serial) with
    | none => exact Ensures.pure holds
    | some profile =>
        have registered := env.registry.profilesForName_subset name profile
          (env.registry.profileForName_mem chosen)
        apply Ensures.read_bind
        apply Ensures.ite
        · exact fun _ => Ensures.pure holds
        · intro settled
          have inferred : now.bridge.modelExplicit = false := by
            simp only [not_or, Bool.not_eq_true] at settled
            exact settled.2
          apply Ensures.ite
          · exact fun _ => stable.useProfile registered holds held inferred
          · exact fun _ => stable.replacePrinter inHand registered holds held inferred
  · exact fun _ w past holds _ => ⟨holds.1, trivial⟩
  · exact fun _ _ => And.left

theorem refineModel (stable : BridgeStable env rely inv near) (inHand : p ∈ mine) {w : World}
    {past : List TraceEvent} (holds : inv mine w past) (held : w.bridge.printer = some p) :
    Ensures rely (Bridge.refineModel env p)
      ⟨fun _ => inv mine, fun _ w past => inv mine w past ∧ True, inv mine⟩ w past := by
  have known := (stable.link mine p inHand).withBridge (some p) w.bridge.modelExplicit
  have asks : Keeps rely (HoldsBridge (inv mine) (some p) w.bridge.modelExplicit)
      (Bridge.querySerial p) := known.bridgeSerial
  apply Ensures.read_bind
  apply Ensures.ite
  · intro _
    apply Upholds.seq asks ⟨holds, held, rfl⟩
    · rintro (_ | serial) now past ⟨holds, held, -⟩
      · exact Ensures.pure holds
      · exact stable.applySerial inHand _ serial holds held
    · exact fun _ w past holds _ => ⟨holds.1, trivial⟩
    · exact fun _ _ => And.left
  · exact fun _ => Ensures.pure holds

theorem connectHeld (stable : BridgeStable env rely inv near) :
    Keeps rely (inv mine) (Bridge.connectHeld env) := by
  apply Upholds.read_bind
  intro w past holds
  cases held : w.bridge.printer with
  | none => exact Ensures.raise ⟨holds, trivial⟩
  | some p =>
      have inHand : p ∈ p :: mine := List.mem_cons_self
      have known := (stable.link (p :: mine) p inHand).withBridge (some p) w.bridge.modelExplicit
      have letsGo : ∀ w past, inv (p :: mine) w past → inv mine w past :=
        fun w past => stable.letGo mine w past p
      apply Upholds.seq (known.connect env) ⟨stable.hold mine w past p holds held, held, rfl⟩
      · rintro _ w past ⟨holds, held, -⟩
        apply Ensures.seq (stable.refineModel inHand holds held)
        · intro _ w past holds
          have sets : Keeps rely (inv (p :: mine)) (Bridge.applyAutoOff env p) :=
            (stable.link _ p inHand).applyAutoOff env
          apply Ensures.read_bind
          cases now : w.bridge.printer with
          | none =>
              apply sets.ensures holds
              · exact fun _ => letsGo
              · exact fun _ w past holds _ => ⟨letsGo w past holds, trivial⟩
              · exact letsGo
          | some q =>
              exact stable.holding ((stable.link _ q List.mem_cons_self).applyAutoOff env)
                (letsGo w past holds) now
        · exact fun _ w past holds => ⟨letsGo w past holds.1, trivial⟩
        · exact letsGo
      · exact fun _ w past holds _ => ⟨letsGo w past holds.1, trivial⟩
      · exact fun w past holds => letsGo w past holds.1

/-! ## `Bridge.connect` without an address or a model -/

theorem newPrinter (stable : BridgeStable env rely inv near) {w : World} {past : List TraceEvent}
    (holds : inv mine w past) (absent : w.bridge.printer = none) :
    Ensures rely (do
        let p ← Bridge.newPrinter env none none
        Coroutine.modify fun w => w.setBridge fun bridge =>
          { bridge with printer := some p, modelExplicit := false })
      ⟨fun _ => inv mine, fun _ w past => inv mine w past ∧ True, inv mine⟩ w past := by
  have known := (stable.idle mine).withBridge none w.bridge.modelExplicit
  have looks : ∀ found, Keeps rely (HoldsBridge (inv mine) none w.bridge.modelExplicit)
      (Coroutine.emit (.lookedFor none found) : Py Unit) :=
    fun found => Upholds.emit fun w past holds relied =>
      ⟨stable.connecting mine w past _ (.lookedFor found) holds.1 relied, holds.2⟩
  have scans : Keeps rely (HoldsBridge (inv mine) none w.bridge.modelExplicit)
      (handle (Bridge.scan env) fun exc => do
      Coroutine.emit (.lookedFor none false)
      raise exc) := by
    have devices : ∀ compiled, Keeps rely (HoldsBridge (inv mine) none w.bridge.modelExplicit)
        (scanDevices compiled) :=
      fun compiled => known.scanDevices (fun _ => trivial) compiled fun _ _ => trivial
    apply Upholds.handle
    · exact Upholds.bind (devices _) fun _ => Upholds.pure _
    · exact fun exc _ => Upholds.bind (looks false) fun _ => Upholds.raise trivial
  apply Ensures.bind
  apply Upholds.seq scans ⟨holds, absent, rfl⟩
  · intro found w past known
    cases Bridge.pickDevice env none found with
    | error exc =>
        apply Upholds.seq (looks false) known
        · exact fun _ _ _ known => Ensures.raise ⟨known.1, trivial⟩
        · exact fun _ _ _ known _ => ⟨known.1, trivial⟩
        · exact fun _ _ known => known.1
    | ok device =>
        obtain ⟨holds, absent, -⟩ := known
        apply Ensures.emit_bind
        intro relied
        unfold Bridge.factoryForName
        cases chosen : env.registry.profileForName device.name none with
        | none =>
            exact Ensures.raise
              ⟨stable.connecting mine w past _ (.lookedFor true) holds relied, trivial⟩
        | some profile =>
            apply Ensures.read_bind
            apply Ensures.modify_bind
            apply Ensures.pure
            apply Ensures.modify
            exact stable.adopted mine w past device profile holds absent chosen relied
  · exact fun _ _ _ known _ => ⟨known.1, trivial⟩
  · exact fun _ _ known => known.1

theorem acquire (stable : BridgeStable env rely inv near) :
    Keeps rely (inv mine) (Bridge.acquire env none none) := by
  apply Upholds.read_bind
  intro w past holds
  apply Ensures.ite
  · intro absent
    exact stable.newPrinter holds (by simpa using absent)
  · exact fun _ => Ensures.pure holds

theorem establish (stable : BridgeStable env rely inv near) :
    Keeps rely (inv mine) (Bridge.establish env none none) := by
  apply Upholds.bind (Upholds.modify fun w past => stable.cancelHold mine w past)
  intro _
  apply Upholds.bind keeps_release
  intro _
  apply Upholds.bind Upholds.read
  intro w
  apply Upholds.ite
  · exact fun _ => Upholds.pure _
  · exact fun _ => Upholds.bind stable.acquire fun _ => stable.connectHeld

theorem connect (stable : BridgeStable env rely inv near) :
    Keeps rely (inv mine) (Bridge.connect env none none) := by
  have records : ∀ {event : TraceEvent}, event.OfConnect →
      Keeps rely (inv mine) (Coroutine.emit event : Py Unit) := fun kind =>
    Upholds.emit fun w past holds relied => stable.connecting mine w past _ kind holds relied
  apply Upholds.bind Upholds.read
  intro w
  apply Upholds.bind (records (.connectCalled _))
  intro _
  apply Upholds.bind
  · apply Upholds.handle stable.establish
    exact fun exc _ => Upholds.bind (records (.connectRaised exc)) fun _ =>
      Upholds.raise trivial
  · intro _
    apply Upholds.bind Upholds.read
    exact fun _ => records (.connectReturned _)

end BridgeStable

/-- An invariant that the waits keep. -/
structure WaitStable (env : Env) (rely : TraceEvent → Prop)
    (inv : List PrinterId → World → List TraceEvent → Prop) : Prop
    extends HandStable rely inv where
  device : ∀ mine p, p ∈ mine → DeviceStable env rely (inv mine) p
  connect : ∀ mine, Keeps rely (inv mine) (Bridge.connect env none none)

theorem BridgeStable.waits {env : Env} {rely : TraceEvent → Prop}
    {inv : List PrinterId → World → List TraceEvent → Prop} {near : Near}
    (stable : BridgeStable env rely inv near) : WaitStable env rely inv where
  toHandStable := stable.toHandStable
  device := fun mine p inHand => (stable.link mine p inHand).device env
  connect := fun _ => stable.connect

end Phomemo
