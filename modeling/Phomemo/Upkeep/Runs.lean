import Phomemo.Upkeep.Commands
import Phomemo.Upkeep.Open

/-!
# Invariants of runs

Every command handler keeps an invariant that the waits keep, given what the four handlers that
change the bridge do with it.  From the handlers it goes to commands with their replies, and on to
runs of sessions.
-/

namespace Phomemo

open Async Coroutine

/-- The events of a page beside those of the waits. -/
inductive TraceEvent.OfPage : TraceEvent → Prop where
  | printCalled (call : PrintCall) : OfPage (.printCalled call)
  | printReturned : OfPage .printReturned
  | interrupted : OfPage .interrupted
  | finalEjectFailed (error : PyExc) : OfPage (.finalEjectFailed error)

/-- An invariant that the handlers keep, those of `open`, `close`, `disconnect` and `discover`
apart. -/
structure HandlerStable (env : Env) (rely : TraceEvent → Prop)
    (inv : List PrinterId → World → List TraceEvent → Prop) : Prop
    extends WaitStable env rely inv where
  page : ∀ mine w past event, event.OfPage → inv mine w past → rely event →
    inv mine w (past ++ [event])
  streamed : ∀ mine p, p ∈ mine → ∀ w past client data, inv mine w past → Writable w p client →
    rely (.wrote p client.address data) → inv mine w (past ++ [.wrote p client.address data])

theorem keeps_ofExcept {α : Type} {rely : TraceEvent → Prop}
    {inv : World → List TraceEvent → Prop} (value : Except PyExc α) :
    Keeps rely inv (ofExcept value) := by
  cases value with
  | ok value => exact Upholds.pure _
  | error exc => exact Upholds.raise trivial

/-! ## Queries -/

namespace WaitStable

variable {env : Env} {rely : TraceEvent → Prop}
  {inv : List PrinterId → World → List TraceEvent → Prop}
  {mine : List PrinterId} {p : PrinterId}

theorem remember (stable : WaitStable env rely inv) (address : Option String)
    (values : List (String × Json)) : Keeps rely (inv mine) (Bridge.remember address values) :=
  (stable.idle mine).remember address values

theorem cmdInfo (stable : WaitStable env rely inv) :
    Keeps rely (inv mine) (Session.cmdInfo env) := by
  apply stable.bind_answeringPrinter
  intro p
  apply Upholds.bind ((stable.device _ p List.mem_cons_self).queryDeviceInfo .any)
  intro info
  apply Upholds.bind Upholds.read
  intro w
  exact Upholds.bind (stable.remember _ _) fun _ => Upholds.pure _

theorem cmdAutoOff (stable : WaitStable env rely inv) (minutes : Json) :
    Keeps rely (inv mine) (Session.cmdAutoOff env minutes) := by
  apply stable.bind_answeringPrinter
  intro p
  have link := stable.device (p :: mine) p List.mem_cons_self
  have reads : Keeps rely (inv (p :: mine)) (do
      let current ← Printer.queryAutoOff p
      let w ← read
      Bridge.remember (w.printers p).addressText [("auto_off_minutes", Json.ofInt current)]
      return [("auto_off_minutes", Json.ofInt current)] : Py Result) := by
    apply Upholds.bind (link.queryAutoOff .any)
    intro current
    apply Upholds.bind Upholds.read
    intro w
    exact Upholds.bind (stable.remember _ _) fun _ => Upholds.pure _
  cases minutes with
  | null => exact reads
  | int minutes =>
      have sets : Keeps rely (inv (p :: mine)) (Printer.setAutoOffTimer p minutes) :=
        link.setAutoOffTimer minutes
      refine Upholds.bind (Upholds.handle sets fun exc _ => ?_) fun _ => reads
      cases exc <;> exact Upholds.raise trivial
  | bool value => exact Upholds.raise trivial
  | float text => exact Upholds.raise trivial
  | str value => exact Upholds.raise trivial
  | arr items => exact Upholds.raise trivial
  | obj fields => exact Upholds.raise trivial

theorem cmdStatus (stable : WaitStable env rely inv) (address : Option String) :
    Keeps rely (inv mine) (Session.cmdStatus env address) := by
  have live : Keeps rely (inv mine) (Session.liveStatus env) := by
    apply stable.bind_answeringPrinter
    intro p
    have link := stable.device (p :: mine) p List.mem_cons_self
    apply Upholds.bind (link.queryLid .any)
    intro lid
    apply Upholds.bind (link.queryPaper .any)
    intro paper
    apply Upholds.bind (link.queryBattery .any)
    intro battery
    apply Upholds.bind Upholds.read
    intro w
    exact Upholds.bind (stable.remember _ _) fun _ => Upholds.pure _
  apply Upholds.bind Upholds.read
  intro w
  apply Upholds.ite
  · exact fun _ => live
  · exact fun _ => Upholds.pure _

theorem cmdWaitReady (stable : WaitStable env rely inv)
    (settle : Option (Except PyExc ℚ)) :
    Keeps rely (inv mine) (Session.cmdWaitReady env settle) := by
  apply Upholds.bind (keeps_ofExcept _)
  intro settle
  exact Upholds.bind (stable.waitReady _ _) fun _ => Upholds.pure _

theorem disconnect (stable : WaitStable env rely inv)
    (cancelled : ∀ w past, inv mine w past → inv mine w.cancelHold past) :
    Keeps rely (inv mine) Bridge.disconnect := by
  apply Upholds.bind (Upholds.modify cancelled)
  intro _
  apply Upholds.read_bind
  intro w past holds
  cases held : w.bridge.printer with
  | none => exact Ensures.pure holds
  | some p =>
      apply Ensures.ite
      · intro _
        have disconnects : Keeps rely (inv (p :: mine)) (Printer.disconnect p) :=
          (stable.device _ p List.mem_cons_self).disconnect
        exact stable.holding disconnects holds held
      · exact fun _ => Ensures.pure holds

theorem cmdDisconnect (stable : WaitStable env rely inv)
    (cancelled : ∀ w past, inv mine w past → inv mine w.cancelHold past)
    (unmarked : ∀ w past, inv mine w past →
      inv mine (w.setSession fun session => { session with usedLink := false }) past) :
    Keeps rely (inv mine) Session.cmdDisconnect := by
  apply Upholds.bind (Upholds.modify unmarked)
  exact fun _ => Upholds.bind (stable.disconnect cancelled) fun _ => Upholds.pure _

end WaitStable

/-! ## Pages -/

namespace IdleStable

variable {rely : TraceEvent → Prop} {inv : World → List TraceEvent → Prop}

theorem setPage (stable : IdleStable rely inv) (page : Option PageBuffer) :
    Keeps rely inv (Coroutine.modify fun w : World =>
      w.setSession fun session => { session with page := page }) :=
  stable.modify fun _ => World.quiet_setSession rfl rfl rfl

theorem cmdPageBegin (stable : IdleStable rely inv) (page : Except PyExc PageBuffer) :
    Keeps rely inv (Session.cmdPageBegin page) := by
  apply Upholds.bind (keeps_ofExcept _)
  intro page
  exact Upholds.bind (stable.setPage _) fun _ => Upholds.pure _

theorem cmdLines (stable : IdleStable rely inv) (count : Except PyExc Int)
    (payload : Bytes) : Keeps rely inv (Session.cmdLines count payload) := by
  apply Upholds.bind Upholds.read
  intro w
  cases w.session.page with
  | none => exact Upholds.raise trivial
  | some page =>
      apply Upholds.bind (keeps_ofExcept _)
      intro count
      dsimp only
      split
      · split
        · exact Upholds.bind (stable.setPage _) fun _ => Upholds.pure _
        · exact Upholds.raise trivial
      · exact Upholds.raise trivial

end IdleStable

namespace WaitStable

variable {env : Env} {rely : TraceEvent → Prop}
  {inv : List PrinterId → World → List TraceEvent → Prop}
  {mine : List PrinterId} {p : PrinterId}

theorem useLink (stable : WaitStable env rely inv) :
    Keeps rely (inv mine) Session.useLink :=
  Upholds.modify fun w past => stable.marked mine w past

theorem connectFor (stable : WaitStable env rely inv) :
    Keeps rely (inv mine) (Session.connectFor env) := by
  apply Upholds.bind Upholds.read
  intro w
  apply Upholds.ite
  · exact fun _ => keeps_orNotReachable (stable.connect mine)
  · exact fun _ => Upholds.pure _

theorem cmdIdentify (stable : WaitStable env rely inv) :
    Keeps rely (inv mine) (Session.cmdIdentify env) := by
  apply Upholds.bind stable.useLink
  intro _
  apply Upholds.bind stable.connectFor
  intro _
  apply stable.bind_answeringPrinter
  intro p
  have link := stable.device (p :: mine) p List.mem_cons_self
  have reads : Keeps rely (inv (p :: mine)) (Printer.queryPaper p) := link.queryPaper .any
  have ejects : Keeps rely (inv (p :: mine)) (Printer.ejectPaper p) := link.ejectPaper .any
  have feeds : Keeps rely (inv (p :: mine)) (Printer.feed p 40) := link.feed .any (by decide)
  have pulses : Keeps rely (inv (p :: mine)) (times 3 (do
      Printer.feed p 40
      let _ ← Printer.queryPaper p
      pause)) := by
    apply Upholds.times
    apply Upholds.bind feeds
    intro _
    exact Upholds.bind reads fun _ => link.pause
  have pulsing : Keeps rely (inv (p :: mine)) (do
      times 3 (do
        Printer.feed p 40
        let _ ← Printer.queryPaper p
        pause)
      return [] : Py Result) := Upholds.bind pulses fun _ => Upholds.pure _
  apply Upholds.bind reads
  intro paper
  apply Upholds.ite
  · intro _
    apply Upholds.bind ejects
    intro _
    exact Upholds.bind link.pause fun _ => pulsing
  · exact fun _ => pulsing

theorem cmdTestPage (stable : WaitStable env rely inv) :
    Keeps rely (inv mine) (Session.cmdTestPage env) := by
  have threads : ∀ q, Keeps rely (inv (q :: mine)) Session.runThread := by
    intro q
    apply Upholds.bind (stable.idle _).tick
    intro answer
    cases answer.threadError with
    | none => exact Upholds.pure _
    | some exc => exact Upholds.raise trivial
  apply Upholds.bind stable.useLink
  intro _
  apply Upholds.bind stable.connectFor
  intro _
  apply stable.bind_answeringPrinter
  intro p
  apply Upholds.bind ((stable.device _ p List.mem_cons_self).queryDeviceInfo .any)
  intro info
  apply Upholds.bind (threads p)
  intro _
  exact Upholds.bind (threads p) fun _ => Upholds.pure _

/-! ## Paper and pages -/

theorem cmdEject (stable : WaitStable env rely inv) :
    Keeps rely (inv mine) Session.cmdEject := by
  apply Upholds.bind stable.useLink
  intro _
  apply stable.bind_requirePrinter
  intro p
  have ejects : Keeps rely (inv (p :: mine)) (Printer.ejectPaper p) :=
    (stable.device _ p List.mem_cons_self).ejectPaper .any
  exact Upholds.bind ejects fun _ => Upholds.pure _

/-- Every handler keeps the invariant, given that those of `open`, `close`, `disconnect`, `discover`
and `page_end` do. -/
theorem handler (stable : WaitStable env rely inv) {command : Command}
    {waits : World → List TraceEvent → Prop} {w : World} {past : List TraceEvent}
    (waiting : ∀ w past, inv [] w past → waits w past)
    (opens : ∀ address model, command = .open address model →
      Ensures rely (Session.cmdOpen env address model)
        ⟨fun _ => inv [], fun _ => inv [], waits⟩ w past)
    (closes : command = .close → Keeps rely (inv []) (Session.cmdClose env))
    (disconnects : command = .disconnect → Keeps rely (inv []) Session.cmdDisconnect)
    (discovers : ∀ timeout, command = .discover timeout →
      Keeps rely (inv []) (Session.cmdDiscover env timeout))
    (pageEnds : command = .pageEnd →
      Ensures rely (Session.cmdPageEnd env) ⟨fun _ => inv [], fun _ => inv [], waits⟩ w past)
    (holds : inv [] w past) :
    Ensures rely (Session.handler env command)
      ⟨fun _ => inv [], fun _ => inv [], waits⟩ w past := by
  have keeps : ∀ {program : Py Result}, Keeps rely (inv []) program →
      Ensures rely program ⟨fun _ => inv [], fun _ => inv [], waits⟩ w past :=
    fun keeps => keeps.ensures holds (fun _ _ _ => id) (fun _ _ _ holds _ => holds) waiting
  cases command with
  | discover timeout => exact keeps (discovers timeout rfl)
  | «open» address model => exact opens address model rfl
  | close => exact keeps (closes rfl)
  | disconnect => exact keeps (disconnects rfl)
  | status address => exact keeps (stable.cmdStatus address)
  | info => exact keeps stable.cmdInfo
  | autoOff minutes => exact keeps (stable.cmdAutoOff minutes)
  | identify => exact keeps stable.cmdIdentify
  | testPage => exact keeps stable.cmdTestPage
  | waitReady settle => exact keeps (stable.cmdWaitReady settle)
  | pageBegin page => exact keeps ((stable.idle []).cmdPageBegin page)
  | lines count payload => exact keeps ((stable.idle []).cmdLines count payload)
  | pageEnd => exact pageEnds rfl
  | eject => exact keeps stable.cmdEject

end WaitStable

/-! ## Printing -/

namespace HandlerStable

variable {env : Env} {rely : TraceEvent → Prop}
  {inv : List PrinterId → World → List TraceEvent → Prop}
  {mine : List PrinterId} {p : PrinterId}

theorem printPage (stable : HandlerStable env rely inv) (inHand : p ∈ mine) (bitmap : Bytes)
    (height : Nat) (density : Density) :
    Keeps rely (inv mine) (Session.printPage p bitmap height density) := by
  have idle := stable.idle mine
  intro w past holds
  apply Ensures.modify_bind
  have started := idle.quiet w (w.setSession fun session => { session with lastPercent := -1 }) past
    (World.quiet_setSession rfl rfl rfl) holds
  apply Ensures.bind
  have streams : StreamStable rely (inv mine) p :=
    { (stable.device mine p inHand).toWireStable with streamed := stable.streamed mine p inHand }
  apply streams.ensures_printBitmap WireStable.transferFails_any
    (fun _ _ => idle.onProgress p height)
  · exact fun call _ _ _ _ _ _ relied => stable.page mine _ _ _ (.printCalled call) started relied
  · exact fun _ _ _ _ holds => ⟨holds, trivial⟩
  · exact fun _ _ _ holds => ⟨holds, trivial⟩
  · intro w past holds relied
    have printed := stable.page mine w past _ .printReturned holds relied
    apply Ensures.read_bind
    apply Ensures.ite
    · exact fun _ => idle.sendEvent (.progress 100) _ _ printed
    · exact fun _ => Ensures.pure printed
  · exact fun _ _ _ holds _ => ⟨holds, trivial⟩
  · exact fun _ _ => id

theorem printAttempts (stable : HandlerStable env rely inv) (inHand : p ∈ mine)
    (bitmap : Bytes) (height : Nat) (density : Density) :
    Keeps rely (inv mine) (Session.printAttempts env p bitmap height density) := by
  apply Upholds.forever
  apply Upholds.handle
  · exact Upholds.bind (stable.printPage inHand bitmap height density) fun _ => Upholds.pure _
  · intro exc _
    apply Upholds.bind (stable.recover inHand _ exc)
    · exact fun _ => Upholds.pure _
    · exact fun w past holds relied => stable.page mine w past _ .interrupted holds relied

theorem printComplete (stable : HandlerStable env rely inv) (inHand : p ∈ mine)
    (page : PageBuffer) : Keeps rely (inv mine) (Session.printComplete env p page) := by
  have ejects : Keeps rely (inv mine) (Printer.ejectPaper p) :=
    (stable.device mine p inHand).ejectPaper .any
  apply Upholds.bind ((stable.idle mine).preparedPage env p page)
  rintro ⟨bitmap, height⟩
  apply Upholds.bind (stable.printAttempts inHand bitmap height page.density)
  intro _
  apply Upholds.bind
  · apply Upholds.handle (Upholds.bind ejects fun _ => Upholds.pure _)
    intro exc _
    apply Upholds.bind
    · exact Upholds.emit fun w past holds relied =>
        stable.page mine w past _ (.finalEjectFailed exc) holds relied
    · exact fun _ => Upholds.raise trivial
  · exact fun _ => Upholds.pure _

theorem cmdPageEnd (stable : HandlerStable env rely inv) :
    Keeps rely (inv mine) (Session.cmdPageEnd env) := by
  intro w past holds
  apply ensures_cmdPageEnd
  · exact fun _ _ => ⟨holds, trivial⟩
  · intro page p printable
    have idle := stable.idle mine
    have started := stable.marked mine w past holds
    have cleared : ∀ w past, inv mine w past →
        inv mine (w.setSession fun session => { session with page := none }) past :=
      fun w past holds => idle.quiet w _ past (World.quiet_setSession rfl rfl rfl) holds
    apply (stable.holding (stable.printComplete List.mem_cons_self page) started
      printable.held).mono
    · exact fun _ w past holds => cleared w past holds
    · exact fun _ w past failed => ⟨cleared w past failed.1, trivial⟩
    · exact fun _ _ => id

/-- Every handler keeps the invariant, given that those of `open`, `close`, `disconnect` and
`discover` do. -/
theorem handler (stable : HandlerStable env rely inv) {command : Command}
    {waits : World → List TraceEvent → Prop} {w : World} {past : List TraceEvent}
    (waiting : ∀ w past, inv [] w past → waits w past)
    (opens : ∀ address model, command = .open address model →
      Ensures rely (Session.cmdOpen env address model)
        ⟨fun _ => inv [], fun _ => inv [], waits⟩ w past)
    (closes : command = .close → Keeps rely (inv []) (Session.cmdClose env))
    (disconnects : command = .disconnect → Keeps rely (inv []) Session.cmdDisconnect)
    (discovers : ∀ timeout, command = .discover timeout →
      Keeps rely (inv []) (Session.cmdDiscover env timeout))
    (holds : inv [] w past) :
    Ensures rely (Session.handler env command)
      ⟨fun _ => inv [], fun _ => inv [], waits⟩ w past := by
  apply stable.toWaitStable.handler waiting opens closes disconnects discovers _ holds
  intro _
  apply stable.cmdPageEnd.ensures holds
  · exact fun _ _ _ => id
  · exact fun _ _ _ holds _ => holds
  · exact waiting

end HandlerStable

/-! ## Scans for printers -/

/-- An invariant that `discover` keeps; `probing` holds while a brief connection is up. -/
structure ProbeStable (env : Env) (rely : TraceEvent → Prop)
    (inv : List PrinterId → World → List TraceEvent → Prop)
    (probing : PrinterId → World → List TraceEvent → Prop) : Prop
    extends HandStable rely inv where
  wire : ∀ p, WireStable rely (inv [p]) p
  probed : ∀ w past device profile, inv [] w past →
    env.registry.profileForName device.name none = some profile →
    probing w.nextPrinter (w.withPrinter profile (some (.device device))) past
  probe : ∀ q, DeviceStable env rely (probing q) q
  left : ∀ q w past, probing q w past → inv [] w past

namespace ProbeStable

variable {env : Env} {rely : TraceEvent → Prop}
  {inv : List PrinterId → World → List TraceEvent → Prop}
  {probing : PrinterId → World → List TraceEvent → Prop}

theorem readSerial (stable : ProbeStable env rely inv probing) (device : Device) :
    Keeps rely (inv []) (Bridge.readSerial env device) := by
  apply Upholds.read_bind
  intro w past holds
  dsimp only
  split
  · next p found =>
      have held := (Option.filter_eq_some_iff.mp found).1
      exact stable.holding (stable.wire p).bridgeSerial holds held
  · unfold Bridge.factoryForName
    cases chosen : env.registry.profileForName device.name none with
    | none => exact Ensures.raise ⟨holds, trivial⟩
    | some profile =>
        apply Ensures.bind
        apply Ensures.read_bind
        apply Ensures.modify_bind
        apply Ensures.pure
        have link := stable.probe w.nextPrinter
        have linked := stable.probed w past device profile holds chosen
        have asks : Keeps rely (probing w.nextPrinter) (Bridge.querySerial w.nextPrinter) :=
          link.bridgeSerial
        have hangsUp : Keeps rely (probing w.nextPrinter)
            (handle (Printer.disconnect w.nextPrinter) fun _ => pure ()) := by
          have disconnects : Keeps rely (probing w.nextPrinter)
              (Printer.disconnect w.nextPrinter) := link.disconnect
          exact Upholds.handle disconnects fun _ _ => Upholds.pure _
        refine Upholds.ensures (Upholds.bind (keeps_excepting link.connect) ?_) linked ?_ ?_ ?_
        · rintro (_ | ⟨⟩)
          · exact Upholds.pure _
          · exact Upholds.andFinally asks hangsUp
        · exact fun _ => stable.left _
        · exact fun _ w past probing _ => ⟨stable.left _ w past probing, trivial⟩
        · exact stable.left _

theorem identifyAll (stable : ProbeStable env rely inv probing)
    (devices : List Device) : Keeps rely (inv []) (Bridge.identifyAll env devices) := by
  have notes : ∀ address values, Keeps rely (inv []) (Bridge.remember address values) :=
    fun address values => (stable.idle []).remember address values
  induction devices with
  | nil => exact Upholds.pure _
  | cons device devices ih =>
      have others : ∀ found : Found, Keeps rely (inv []) (do
          let others ← Bridge.identifyAll env devices
          return found :: others) := fun _ => Upholds.bind ih fun _ => Upholds.pure _
      unfold Bridge.identifyAll
      split
      · exact Upholds.bind (Upholds.pure _) fun _ => others _
      · apply Upholds.bind (stable.readSerial device)
        intro serial
        cases env.registry.profileForName device.name serial with
        | none => exact Upholds.raise trivial
        | some profile => exact Upholds.bind (notes _ _) fun _ => others _

theorem cmdDiscover (stable : ProbeStable env rely inv probing)
    (timeout : Except PyExc ℚ) : Keeps rely (inv []) (Session.cmdDiscover env timeout) := by
  have scans : Keeps rely (inv []) (Bridge.scan env) := by
    have devices : ∀ compiled, Keeps rely (inv []) (scanDevices compiled) :=
      fun compiled => (stable.idle []).scanDevices (fun _ => trivial) compiled fun _ _ => trivial
    exact Upholds.bind (devices _) fun _ => Upholds.pure _
  apply Upholds.bind (keeps_ofExcept timeout)
  intro _
  apply Upholds.bind
  · exact Upholds.bind scans fun devices => stable.identifyAll devices
  · exact fun _ => Upholds.pure _

end ProbeStable

/-! ## The idle timer -/

/-- An invariant that arming the idle timer keeps. -/
def KeptByTimer (inv : World → List TraceEvent → Prop) : Prop :=
  ∀ w past armed, inv w past →
    inv (w.setBridge fun bridge => { bridge with holdArmed := armed }) past

theorem KeptByTimer.startHold {rely : TraceEvent → Prop} {inv : World → List TraceEvent → Prop}
    (kept : KeptByTimer inv) (env : Env) : Keeps rely inv (Bridge.startHold env) := by
  apply Upholds.bind (Upholds.modify fun w past => kept w past false)
  intro _
  apply Upholds.bind Upholds.read
  intro w
  apply Upholds.ite
  · exact fun _ => Upholds.modify fun w past => kept w past true
  · exact fun _ => Upholds.pure _

theorem KeptByTimer.cmdClose {rely : TraceEvent → Prop} {inv : World → List TraceEvent → Prop}
    (kept : KeptByTimer inv) (env : Env)
    (closed : ∀ w past, inv w past → rely .closeAnswered → inv w (past ++ [.closeAnswered])) :
    Keeps rely inv (Session.cmdClose env) := by
  apply Upholds.bind (kept.startHold env)
  intro _
  exact Upholds.bind (Upholds.emit closed) fun _ => Upholds.pure _

theorem KeptByTimer.finish {rely : TraceEvent → Prop} {inv : World → List TraceEvent → Prop}
    (kept : KeptByTimer inv) (env : Env)
    (inactive : ∀ w past, inv w past →
      inv (w.setBridge fun bridge => { bridge with sessionActive := false }) past)
    (ended : ∀ w past, inv w past → rely .sessionEnded → inv w (past ++ [.sessionEnded])) :
    Keeps rely inv (Session.finish env) := by
  apply Upholds.bind Upholds.read
  intro w
  apply Upholds.ite
  · intro _
    apply Upholds.bind (Upholds.modify inactive)
    intro _
    apply Upholds.bind (Upholds.emit ended)
    intro _
    apply Upholds.ite
    · exact fun _ => kept.startHold env
    · exact fun _ => Upholds.pure _
  · exact fun _ => Upholds.pure _

/-! ## Runs -/

/-- What every move keeps, every run keeps between its moves. -/
theorem ensures_runMoves {env : Env} {rely : TraceEvent → Prop}
    {rest waits : World → List TraceEvent → Prop}
    (each : ∀ w past move, rest w past →
      Ensures rely (Session.move env move) ⟨fun _ => rest, fun _ => rest, waits⟩ w past)
    (moves : List Session.Move) {w : World} {past : List TraceEvent} (holds : rest w past) :
    Ensures rely (Session.runMoves env moves) ⟨fun _ => rest, fun _ => rest, waits⟩ w past := by
  induction moves generalizing w past with
  | nil => exact Ensures.pure holds
  | cons move moves ih =>
      apply Ensures.seq (each w past move holds)
      · exact fun _ _ _ holds => ih holds
      · exact fun _ _ _ => id
      · exact fun _ _ => id

/-- What all states of the moves of a run have in common, all states of the run have. -/
theorem runMoves_always {env : Env} {rely : TraceEvent → Prop}
    {rest waits : World → List TraceEvent → Prop}
    (each : ∀ w past move, rest w past →
      Ensures rely (Session.move env move) ⟨fun _ => rest, fun _ => rest, waits⟩ w past)
    (resting : ∀ w past, rest w past → waits w past) (moves : List Session.Move) {w : World}
    (holds : rest w []) {script : List Tick}
    (relied : ∀ event ∈ (Session.runMoves env moves w script).trace, rely event) :
    waits (Session.runMoves env moves w script).ending.state
      (Session.runMoves env moves w script).trace := by
  have meets := ensures_runMoves each moves holds script relied
  generalize Session.runMoves env moves w script = outcome at meets
  obtain ⟨trace, ⟨value, final, unused⟩ | ⟨error, final, unused⟩ | ⟨final⟩⟩ := outcome
  · exact resting _ _ meets
  · exact resting _ _ meets
  · exact meets

/-- Invariants of the states between commands, in a command, and while its reply is written;
`waits` is what all of them have in common. -/
structure RunStable (env : Env) (rely : TraceEvent → Prop)
    (rest : World → List TraceEvent → Prop) (busy : Command → World → List TraceEvent → Prop)
    (answering waits : World → List TraceEvent → Prop) : Prop where
  idle : IdleStable rely rest
  begins : Keeps rely rest Session.begin
  finishes : Keeps rely rest (Session.finish env)
  accepted : ∀ w past command, rest w past → rely (commandStart w command) →
    busy command (w.accept command) (past ++ [commandStart w command])
  handled : ∀ command w past, busy command w past →
    Ensures rely (Session.handler env command)
      ⟨fun _ => busy command, fun _ => busy command, waits⟩ w past
  replied : ∀ w past command reply, busy command w past → rely (.replied command.name reply) →
    answering w (past ++ [.replied command.name reply])
  answers : IdleStable rely answering
  cleared : ∀ w past, answering w past →
    rest (w.setSession fun session => { session with pendingCmd := none }) past
  resting : ∀ w past, rest w past → waits w past
  finishing : ∀ w past, answering w past → waits w past

namespace RunStable

variable {env : Env} {rely : TraceEvent → Prop} {rest : World → List TraceEvent → Prop}
  {busy : Command → World → List TraceEvent → Prop}
  {answering waits : World → List TraceEvent → Prop} {w : World} {past : List TraceEvent}

theorem answer (stable : RunStable env rely rest busy answering waits) {command : Command}
    (reply : Reply) (holds : busy command w past) :
    Ensures rely (answer command reply) ⟨fun _ => rest, fun _ _ _ => False, waits⟩ w past := by
  apply Ensures.emit_bind
  intro relied
  apply Upholds.seq stable.answers.pause (stable.replied w past command reply holds relied)
  · intro _ w past answering
    apply Ensures.modify_bind
    exact Ensures.pure (stable.cleared w past answering)
  · exact fun _ _ _ _ => False.elim
  · exact stable.finishing

theorem runCommand (stable : RunStable env rely rest busy answering waits) (command : Command)
    (holds : rest w past) :
    Ensures rely (Session.runCommand env command)
      ⟨fun _ => rest, fun _ _ _ => False, waits⟩ w past := by
  apply ensures_runCommand
  intro relied
  apply (stable.handled command _ _ (stable.accepted w past command holds relied)).mono
  · exact fun _ _ _ holds => stable.answer _ holds
  · exact fun _ _ _ holds => stable.answer _ holds
  · exact fun _ _ => id

theorem move (stable : RunStable env rely rest busy answering waits) (move : Session.Move)
    (holds : rest w past) :
    Ensures rely (Session.move env move) ⟨fun _ => rest, fun _ => rest, waits⟩ w past := by
  have keeps : ∀ {program : Py Unit}, Keeps rely rest program →
      Ensures rely program ⟨fun _ => rest, fun _ => rest, waits⟩ w past :=
    fun keeps => keeps.ensures holds (fun _ _ _ => id) (fun _ _ _ holds _ => holds) stable.resting
  cases move with
  | begins => exact keeps stable.begins
  | ends => exact keeps stable.finishes
  | idle => exact keeps stable.idle.pause
  | command command =>
      apply Ensures.read_bind
      apply Ensures.ite
      · intro _
        apply Ensures.seq (stable.runCommand command holds)
        · exact fun _ _ _ holds => Ensures.pure holds
        · exact fun _ _ _ => False.elim
        · exact fun _ _ => id
      · exact fun _ => Ensures.pure holds

/-- What all states of a run have in common. -/
theorem always (stable : RunStable env rely rest busy answering waits)
    (moves : List Session.Move) (holds : rest w []) {script : List Tick}
    (relied : ∀ event ∈ (Session.runMoves env moves w script).trace, rely event) :
    waits (Session.runMoves env moves w script).ending.state
      (Session.runMoves env moves w script).trace :=
  runMoves_always (fun _ _ move holds => stable.move move holds) stable.resting moves holds relied

/-- Between the moves the invariant holds. -/
theorem returned (stable : RunStable env rely rest busy answering waits)
    (moves : List Session.Move) (holds : rest w []) {script : List Tick}
    (relied : ∀ event ∈ (Session.runMoves env moves w script).trace, rely event)
    (returned : (Session.runMoves env moves w script).hasReturned = true) :
    rest (Session.runMoves env moves w script).ending.state
      (Session.runMoves env moves w script).trace := by
  have meets := ensures_runMoves (fun _ _ move holds => stable.move move holds) moves holds script
    relied
  obtain ⟨trace, value, final, unused, ran⟩ := Run.exists_of_hasReturned returned
  rw [ran] at meets ⊢
  exact meets

end RunStable

end Phomemo
