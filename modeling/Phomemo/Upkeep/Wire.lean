import Phomemo.Session
import Phomemo.Transfer

/-!
# Invariants of the work on one printer

What queries, feeds, ejects and transfers can do to the state and the trace, said once: an
invariant with the few closure properties of `WireStable` is kept by all of them.  The exceptions
are bounded alongside.
-/

namespace Phomemo

open Async Coroutine

/-- A change of bookkeeping: listeners, what was sent and what was read. -/
structure World.Quiet (before after : World) : Prop where
  bridge : after.bridge = { before.bridge with seen := after.bridge.seen }
  pendingCmd : after.session.pendingCmd = before.session.pendingCmd
  abort : after.session.abort = before.session.abort
  usedLink : after.session.usedLink = before.session.usedLink
  nextPrinter : after.nextPrinter = before.nextPrinter
  nextClient : after.nextClient = before.nextClient
  profile : ∀ p, (after.printers p).profile = (before.printers p).profile
  address : ∀ p, (after.printers p).address = (before.printers p).address
  transportProfile : ∀ p,
    (after.printers p).transport.profile = (before.printers p).transport.profile
  client : ∀ p, (after.printers p).transport.client = (before.printers p).transport.client
  chunk : ∀ p, (after.printers p).transport.effectiveChunkBytes =
    (before.printers p).transport.effectiveChunkBytes
  connected : ∀ p, (after.printers p).transport.connected = (before.printers p).transport.connected

namespace World

variable {w : World}

theorem Quiet.printer {after : World} (quiet : w.Quiet after) :
    after.bridge.printer = w.bridge.printer := by
  rw [quiet.bridge]

theorem Quiet.modelExplicit {after : World} (quiet : w.Quiet after) :
    after.bridge.modelExplicit = w.bridge.modelExplicit := by
  rw [quiet.bridge]

theorem quiet_setPrinter (p : PrinterId) {change : Printer → Printer}
    (profile : (change (w.printers p)).profile = (w.printers p).profile)
    (address : (change (w.printers p)).address = (w.printers p).address)
    (transportProfile : (change (w.printers p)).transport.profile =
      (w.printers p).transport.profile)
    (client : (change (w.printers p)).transport.client = (w.printers p).transport.client)
    (chunk : (change (w.printers p)).transport.effectiveChunkBytes =
      (w.printers p).transport.effectiveChunkBytes)
    (connected : (change (w.printers p)).transport.connected =
      (w.printers p).transport.connected) :
    w.Quiet (w.setPrinter p change) := by
  refine ⟨rfl, rfl, rfl, rfl, rfl, rfl, ?_, ?_, ?_, ?_, ?_, ?_⟩ <;> intro q <;>
    rw [setPrinter_printers] <;> split
  all_goals first
    | exact (‹q = p› ▸ profile)
    | exact (‹q = p› ▸ address)
    | exact (‹q = p› ▸ transportProfile)
    | exact (‹q = p› ▸ client)
    | exact (‹q = p› ▸ chunk)
    | exact (‹q = p› ▸ connected)
    | rfl

theorem quiet_setListeners (p : PrinterId) (change : Listeners → Listeners) :
    w.Quiet (w.setListeners p change) := by
  apply quiet_setPrinter <;> rfl

theorem quiet_setRowsSent (p : PrinterId) (rows : Nat) : w.Quiet (w.setRowsSent p rows) := by
  apply quiet_setPrinter <;> rfl

theorem quiet_setSession {change : Session → Session}
    (pendingCmd : (change w.session).pendingCmd = w.session.pendingCmd)
    (abort : (change w.session).abort = w.session.abort)
    (usedLink : (change w.session).usedLink = w.session.usedLink) : w.Quiet (w.setSession change) :=
  ⟨rfl, pendingCmd, abort, usedLink, rfl, rfl, fun _ => rfl, fun _ => rfl, fun _ => rfl,
    fun _ => rfl, fun _ => rfl, fun _ => rfl⟩

end World

/-- The events of the work on one printer that say no more than their outcome. -/
inductive TraceEvent.OfWire : TraceEvent → Prop where
  | disconnectFailed (p : PrinterId) : OfWire (.disconnectFailed p)
  | paperRead (answer : Option PaperState) : OfWire (.paperRead answer)
  | ejected (gone : Bool) : OfWire (.ejected gone)
  | pushed (event : PushedEvent) : OfWire (.pushed event)

/-- An invariant that awaits and bookkeeping keep. -/
structure IdleStable (rely : TraceEvent → Prop) (inv : World → List TraceEvent → Prop) :
    Prop where
  awaken : ∀ w past answer, inv w past → (∀ event ∈ w.awakening answer, rely event) →
    inv (w.awaken answer) (past ++ w.awakening answer)
  quiet : ∀ w after past, w.Quiet after → inv w past → inv after past
  event : ∀ w past event, event.OfWire → inv w past → rely event → inv w (past ++ [event])

/-- What is written outside of pages: queries, feeds and the settings of the printer. -/
inductive Commanded : Bytes → Prop where
  | query (command : QueryCommand) : Commanded command.bytes
  | feed {lines : Int} {bytes : Bytes} (encoded : encodeFeedLines lines = .ok bytes) :
      Commanded bytes
  | init : Commanded encodeInit
  | autoOff {value : Int} {bytes : Bytes} (encoded : encodeAutoOffTimer value = .ok bytes) :
      Commanded bytes

/-- An invariant that the work on printer `p` outside of pages keeps. -/
structure WireStable (rely : TraceEvent → Prop) (inv : World → List TraceEvent → Prop)
    (p : PrinterId) : Prop extends IdleStable rely inv where
  wrote : ∀ w past client data, inv w past → Writable w p client →
    rely (.wrote p client.address data) → Commanded data →
    inv w (past ++ [.wrote p client.address data])
  /-- A write fails, which takes the link down. -/
  lost : ∀ w past, inv w past → rely (.writeFailed p) →
    inv (w.setConnected p false) (past ++ [.writeFailed p])

/-- An invariant that printing on printer `p` keeps: the bytes of a page may be any. -/
structure StreamStable (rely : TraceEvent → Prop) (inv : World → List TraceEvent → Prop)
    (p : PrinterId) : Prop extends WireStable rely inv p where
  streamed : ∀ w past client data, inv w past → Writable w p client →
    rely (.wrote p client.address data) → inv w (past ++ [.wrote p client.address data])

/-- The exceptions the work on printer `p` may end with, in states the invariant allows. -/
structure WireFails (inv : World → List TraceEvent → Prop) (p : PrinterId)
    (fails : PyExc → Prop) : Prop where
  connection : ∀ text, fails (.connectionError text)
  unconnected : ∀ w past, inv w past → (w.printers p).transport.client = none →
    fails (.runtimeError "Not connected")
  oversize : ∀ size : Nat,
    (size ≤ 20 ∨ ∃ w past, inv w past ∧
      (size : Int) ≤ (w.printers p).transport.effectiveChunkBytes) →
    ∀ w past, inv w past → (w.printers p).transport.effectiveChunkBytes < size →
    ∀ text, fails (.valueError text)

/-- Any exception. -/
theorem WireFails.any {inv : World → List TraceEvent → Prop} {p : PrinterId} :
    WireFails inv p (fun _ => True) :=
  ⟨fun _ => trivial, fun _ _ _ _ => trivial, fun _ _ _ _ _ _ _ => trivial⟩

/-- The invariant is kept, whatever the program ends with. -/
abbrev Keeps {α : Type} (rely : TraceEvent → Prop) (inv : World → List TraceEvent → Prop)
    (program : Py α) : Prop :=
  Upholds rely inv (fun _ => True) program

namespace IdleStable

variable {rely : TraceEvent → Prop} {inv : World → List TraceEvent → Prop}
  {fails : PyExc → Prop}

theorem modify (stable : IdleStable rely inv) {change : World → World}
    (quiet : ∀ w, World.Quiet w (change w)) :
    Upholds rely inv fails (Coroutine.modify change : Py Unit) :=
  Upholds.modify fun w past holds => stable.quiet w _ past (quiet w) holds

theorem emit (stable : IdleStable rely inv) {event : TraceEvent} (wire : event.OfWire) :
    Upholds rely inv fails (Coroutine.emit event : Py Unit) :=
  Upholds.emit fun w past holds relied => stable.event w past event wire holds relied

theorem tick (stable : IdleStable rely inv) : Upholds rely inv fails tick :=
  fun w past holds => ensures_tick holds fun answer relied =>
    stable.awaken w past answer holds relied

theorem pause (stable : IdleStable rely inv) : Upholds rely inv fails pause :=
  Upholds.bind stable.tick fun _ => Upholds.pure ()

theorem scanDevices (stable : IdleStable rely inv) (failing : ∀ text, fails (.connectionError text))
    (compiled : Except String (String → Bool))
    (malformed : ∀ text, compiled = .error text → fails (.patternError text)) :
    Upholds rely inv fails (scanDevices compiled) := by
  apply Upholds.bind stable.tick
  intro answer
  cases answer.bleakError with
  | none =>
      cases compiled with
      | ok search => exact Upholds.pure _
      | error text => exact Upholds.raise (malformed text rfl)
  | some text => exact Upholds.raise (failing _)

theorem scanByName (stable : IdleStable rely inv) (failing : ∀ text, fails (.connectionError text))
    (search : String → Bool) : Upholds rely inv fails (Phomemo.scanDevices (.ok search)) :=
  stable.scanDevices failing _ fun _ wrong => by cases wrong

theorem remember (stable : IdleStable rely inv) (address : Option String)
    (values : List (String × Json)) : Upholds rely inv fails (Bridge.remember address values) := by
  cases address with
  | none => exact Upholds.pure _
  | some address =>
      apply stable.modify
      exact fun w => ⟨rfl, rfl, rfl, rfl, rfl, rfl, fun _ => rfl, fun _ => rfl, fun _ => rfl,
        fun _ => rfl, fun _ => rfl, fun _ => rfl⟩

end IdleStable

/-! ## Listeners -/

section Listeners

variable {rely : TraceEvent → Prop} {inv : World → List TraceEvent → Prop}
  {fails : PyExc → Prop} {p : PrinterId}

theorem keeps_addWatch (quiet : ∀ w after past, World.Quiet w after → inv w past → inv after past)
    (watch : Watch) : Upholds rely inv fails (Printer.addWatch p watch) := by
  apply Upholds.bind Upholds.read
  intro _
  apply Upholds.bind
  · exact Upholds.modify fun w past => quiet w _ past (World.quiet_setListeners p _)
  · exact fun _ => Upholds.pure _

theorem keeps_removeWatch
    (quiet : ∀ w after past, World.Quiet w after → inv w past → inv after past) (slot : Nat) :
    Upholds rely inv fails (Printer.removeWatch p slot) :=
  Upholds.modify fun w past => quiet w _ past (World.quiet_setListeners p _)

theorem keeps_armJob (quiet : ∀ w after past, World.Quiet w after → inv w past → inv after past) :
    Upholds rely inv fails (Printer.armJob p) := by
  apply Upholds.bind Upholds.read
  intro _
  apply Upholds.bind
  · exact Upholds.modify fun w past => quiet w _ past (World.quiet_setListeners p _)
  · intro _
    apply Upholds.bind (keeps_addWatch quiet _)
    intro _
    apply Upholds.bind
    · exact Upholds.modify fun w past => quiet w _ past (World.quiet_setRowsSent p _)
    · exact fun _ => Upholds.pure _

theorem keeps_disarmJob
    (quiet : ∀ w after past, World.Quiet w after → inv w past → inv after past)
    (entry slot : Nat) : Upholds rely inv fails (Printer.disarmJob p entry slot) := by
  apply Upholds.bind
  · exact Upholds.modify fun w past => quiet w _ past (World.quiet_setListeners p _)
  · intro _
    apply Upholds.bind (keeps_removeWatch quiet slot)
    exact fun _ => Upholds.modify fun w past => quiet w _ past (World.quiet_setRowsSent p _)

/-! ### The end of a job -/

/-- What follows the wait for the motor stop. -/
def Printer.completion (p : PrinterId) (entry : Nat) : Py Unit := do
  let w ← Coroutine.read
  if ((w.printers p).listeners.waiters[entry]?.bind Waiter.result).isSome then
    let lid ← Printer.queryLid p
    match lid with
    | none => raise (.sheetRanOut "paper ran out before the page ended")
    | some .opened => raise (.printAborted .lidOpened)
    | some .closed => pure ()
  else
    raise (.timeoutError "Timed out waiting for print completion signal")

/-- The wait for the end of a job: a pause, a query for the lid, and what they tell. -/
theorem upholds_awaitCompletion (pauses : Upholds rely inv fails pause)
    (queries : Upholds rely inv fails (Printer.queryLid p))
    (sheetRanOut : ∀ text, fails (.sheetRanOut text)) (lidOpened : fails (.printAborted .lidOpened))
    (silent : fails (.timeoutError "Timed out waiting for print completion signal"))
    (entry : Nat) : Upholds rely inv fails (Printer.awaitCompletion p entry) := by
  have rest : Upholds rely inv fails (Printer.completion p entry) := by
    apply Upholds.bind Upholds.read
    intro w
    apply Upholds.ite
    · intro _
      apply Upholds.bind queries
      rintro (_ | _ | _)
      · exact Upholds.raise (sheetRanOut _)
      · exact Upholds.pure _
      · exact Upholds.raise lidOpened
    · exact fun _ => Upholds.raise silent
  apply Upholds.bind Upholds.read
  intro w
  apply Upholds.ite
  · exact fun _ => rest
  · exact fun _ => Upholds.bind pauses fun _ => rest

end Listeners

/-! ## Queries and feeds -/

namespace WireStable

variable {rely : TraceEvent → Prop} {inv : World → List TraceEvent → Prop} {p : PrinterId}
  {fails : PyExc → Prop}

/-- A write that the invariant allows. -/
theorem writes (stable : WireStable rely inv p) (failing : WireFails inv p fails) {data : Bytes}
    (size : data.length ≤ 20 ∨ ∃ w past, inv w past ∧
      (data.length : Int) ≤ (w.printers p).transport.effectiveChunkBytes)
    (wrote : ∀ w past client, inv w past → Writable w p client →
      rely (.wrote p client.address data) → inv w (past ++ [.wrote p client.address data])) :
    Upholds rely inv fails (BleTransport.write p data) := by
  intro w past holds
  apply BleTransport.ensures_write
  · exact fun unconnected => ⟨holds, failing.unconnected w past holds unconnected⟩
  · exact fun _ _ text => ⟨holds, failing.connection text⟩
  · exact fun tooLong text => ⟨holds, failing.oversize _ size w past holds tooLong text⟩
  · intro client writable _ relied
    have sent := wrote w past client holds writable relied
    refine ⟨sent, fun answer relied => ?_⟩
    have awake := stable.awaken w _ answer sent relied
    refine ⟨awake, fun reliedFailure text => ⟨?_, failing.connection text⟩⟩
    exact stable.lost _ _ awake reliedFailure

theorem write (stable : WireStable rely inv p) (failing : WireFails inv p fails) {data : Bytes}
    (small : data.length ≤ 20) (command : Commanded data) :
    Upholds rely inv fails (BleTransport.write p data) :=
  stable.writes failing (.inl small) fun w past client holds writable relied =>
    stable.wrote w past client data holds writable relied command

theorem waitFor (stable : WireStable rely inv p) (eventType : EventClass) :
    Upholds rely inv fails (Printer.waitFor p eventType) := by
  apply Upholds.bind Upholds.read
  intro w
  apply Upholds.bind (stable.modify fun w => World.quiet_setListeners p _)
  intro _
  apply Upholds.bind stable.pause
  intro _
  apply Upholds.bind Upholds.read
  intro w
  apply Upholds.bind (stable.modify fun w => World.quiet_setListeners p _)
  exact fun _ => Upholds.pure _

theorem query (stable : WireStable rely inv p) (failing : WireFails inv p fails)
    (command : QueryCommand) (eventType : EventClass) :
    Upholds rely inv fails (Printer.query p command eventType) := by
  apply Upholds.bind (stable.write failing _ (.query command))
  · exact fun _ => stable.waitFor eventType
  · cases command <;> decide

/-- The paper query reports last what it returns. -/
theorem ensures_queryPaper (stable : WireStable rely inv p) (failing : WireFails inv p fails)
    {w : World} {past : List TraceEvent} (holds : inv w past) :
    Ensures rely (Printer.queryPaper p)
      ⟨fun answer w past => inv w past ∧ past.getLast? = some (.paperRead answer),
        fun error w past => inv w past ∧ fails error, inv⟩ w past := by
  apply Upholds.seq (stable.query failing _ _) holds
  · intro event w past holds
    apply Ensures.emit_bind
    intro relied
    exact Ensures.pure ⟨stable.event w past _ (.paperRead _) holds relied, List.getLast?_concat⟩
  · exact fun _ _ _ holds failed => ⟨holds, failed⟩
  · exact fun _ _ => id

theorem queryPaper (stable : WireStable rely inv p) (failing : WireFails inv p fails) :
    Upholds rely inv fails (Printer.queryPaper p) :=
  fun _ _ holds => (stable.ensures_queryPaper failing holds).mono (fun _ _ _ => And.left)
    (fun _ _ _ => id) (fun _ _ => id)

theorem queryLid (stable : WireStable rely inv p) (failing : WireFails inv p fails) :
    Upholds rely inv fails (Printer.queryLid p) :=
  Upholds.bind (stable.query failing _ _) fun _ => Upholds.pure _

theorem queryBattery (stable : WireStable rely inv p) (failing : WireFails inv p fails) :
    Upholds rely inv fails (Printer.queryBattery p) :=
  Upholds.bind (stable.query failing _ _) fun _ => Upholds.pure _

theorem queryFirmware (stable : WireStable rely inv p) (failing : WireFails inv p fails) :
    Upholds rely inv fails (Printer.queryFirmware p) :=
  Upholds.bind (stable.query failing _ _) fun _ => Upholds.pure _

theorem querySerial (stable : WireStable rely inv p) (failing : WireFails inv p fails) :
    Upholds rely inv fails (Printer.querySerial p) :=
  Upholds.bind (stable.query failing _ _) fun _ => Upholds.pure _

theorem queryAutoOff (stable : WireStable rely inv p) (failing : WireFails inv p fails) :
    Upholds rely inv fails (Printer.queryAutoOff p) :=
  Upholds.bind (stable.query failing _ _) fun _ => Upholds.pure _

theorem queryDeviceInfo (stable : WireStable rely inv p) (failing : WireFails inv p fails) :
    Upholds rely inv fails (Printer.queryDeviceInfo p) := by
  apply Upholds.bind (stable.queryBattery failing)
  intro _
  apply Upholds.bind (stable.queryFirmware failing)
  intro _
  apply Upholds.bind (stable.querySerial failing)
  intro _
  apply Upholds.bind (stable.queryLid failing)
  intro _
  have rest : ∀ (info : Option Int → Printer.DeviceInfo), Upholds rely inv fails
      (Printer.queryAutoOff p >>= fun minutes => pure (info minutes)) :=
    fun _ => Upholds.bind (stable.queryAutoOff failing) fun _ => Upholds.pure _
  apply Upholds.ite
  · intro _
    apply Upholds.bind (stable.queryPaper failing)
    exact fun _ => rest _
  · intro _
    apply Upholds.bind (Upholds.pure _)
    exact fun _ => rest _

theorem feed (stable : WireStable rely inv p) (failing : WireFails inv p fails) {lines : Int}
    (fits : 1 ≤ lines ∧ lines ≤ 255) : Upholds rely inv fails (Printer.feed p lines) := by
  have encoded : encodeFeedLines lines = .ok ([0x1b, 0x64] ++ [UInt8.ofNat lines.toNat]) := by
    rw [encodeFeedLines, if_pos fits]
  unfold Printer.feed
  rw [encoded, ofExcept, pure_bind]
  exact stable.write failing (by simp) (.feed encoded)

theorem setAutoOffTimer (stable : WireStable rely inv p) (minutes : Int) :
    Keeps rely inv (Printer.setAutoOffTimer p minutes) := by
  apply Upholds.ite
  · exact fun _ => Upholds.raise trivial
  · intro _
    apply Upholds.bind (stable.write .any (by decide) .init)
    intro _
    cases encoded : encodeAutoOffTimer (minutes / 5) with
    | ok bytes =>
        have small : bytes.length ≤ 20 := by
          unfold encodeAutoOffTimer at encoded
          split at encoded
          · obtain rfl := Except.ok.inj encoded
            simp
          · cases encoded
        exact stable.write .any small (.autoOff encoded)
    | error exc => exact Upholds.raise trivial

/-! ## Paper transport -/

theorem addWatch (stable : WireStable rely inv p) (watch : Watch) :
    Upholds rely inv fails (Printer.addWatch p watch) :=
  keeps_addWatch stable.quiet watch

theorem removeWatch (stable : WireStable rely inv p) (slot : Nat) :
    Upholds rely inv fails (Printer.removeWatch p slot) :=
  keeps_removeWatch stable.quiet slot

theorem waitAbsent (stable : WireStable rely inv p) (slot : Nat) :
    Upholds rely inv fails (Printer.waitAbsent p slot) := by
  apply Upholds.bind Upholds.read
  intro w
  apply Upholds.ite
  · exact fun _ => Upholds.pure _
  · intro _
    apply Upholds.bind stable.pause
    intro _
    apply Upholds.bind Upholds.read
    exact fun _ => Upholds.pure _

theorem ejectLoop (stable : WireStable rely inv p) (failing : WireFails inv p fails)
    (slot maxFeeds : Nat) {stepRows clearRows : Int} (step : 1 ≤ stepRows ∧ stepRows ≤ 255)
    (clear : 1 ≤ clearRows ∧ clearRows ≤ 255) (sent : Nat) :
    Upholds rely inv fails (Printer.ejectLoop p slot maxFeeds stepRows clearRows sent) := by
  apply Upholds.iterate
  intro sent
  apply Upholds.bind (stable.waitAbsent slot)
  intro gone
  apply Upholds.ite
  · intro _
    exact Upholds.bind (stable.feed failing clear) fun _ => Upholds.pure _
  · intro _
    apply Upholds.ite
    · exact fun _ => Upholds.pure _
    · intro _
      exact Upholds.bind (stable.feed failing step) fun _ => Upholds.pure _

/-- The eject reports last what it returns. -/
theorem ensures_ejectPaper (stable : WireStable rely inv p) (failing : WireFails inv p fails)
    {w : World} {past : List TraceEvent} (holds : inv w past) :
    Ensures rely (Printer.ejectPaper p)
      ⟨fun gone w past => inv w past ∧ past.getLast? = some (.ejected gone),
        fun error w past => inv w past ∧ fails error, inv⟩ w past := by
  have removes : ∀ (slot : Nat) (w : World) (past : List TraceEvent), inv w past →
      inv (w.setListeners p fun listeners =>
        { listeners with callbacks := listeners.callbacks.eraseIdx slot }) past :=
    fun slot w past holds => stable.quiet w _ past (World.quiet_setListeners p _) holds
  have reports : ∀ (slot : Nat) (gone : Bool) (w : World) (past : List TraceEvent),
      inv w past →
      Ensures rely (do Coroutine.emit (.ejected gone); return gone : Py Bool)
        ⟨fun gone w past => Ensures rely (Printer.removeWatch p slot)
            ⟨fun _ w past => inv w past ∧ past.getLast? = some (.ejected gone),
              fun error w past => inv w past ∧ fails error, inv⟩ w past,
          fun error w past => Ensures rely (Printer.removeWatch p slot)
            ⟨fun _ w past => inv w past ∧ fails error,
              fun error w past => inv w past ∧ fails error, inv⟩ w past,
          inv⟩ w past := by
    intro slot gone w past holds
    apply Ensures.emit_bind
    intro relied
    apply Ensures.pure
    apply Ensures.modify
    exact ⟨removes slot w _ (stable.event w past _ (.ejected gone) holds relied),
      List.getLast?_concat⟩
  have cleans : ∀ (slot : Nat) (error : PyExc) (w : World) (past : List TraceEvent),
      inv w past → fails error → Ensures rely (Printer.removeWatch p slot)
        ⟨fun _ w past => inv w past ∧ fails error,
          fun error w past => inv w past ∧ fails error, inv⟩ w past :=
    fun slot error w past holds failed => Ensures.modify ⟨removes slot w past holds, failed⟩
  apply Upholds.seq (stable.addWatch (.eject false)) holds
  · intro slot w past holds
    apply Ensures.andFinally
    apply Upholds.seq (stable.queryPaper failing) holds
    · intro paper w past holds
      apply Ensures.ite
      · intro _
        apply Upholds.seq (Upholds.times (stable.feed failing (by decide)) _) holds
        · intro _ w past holds
          apply Upholds.seq (stable.ejectLoop failing slot _ (by decide) (by decide) _) holds
          · exact fun gone w past holds => reports slot gone w past holds
          · exact fun error w past holds failed => cleans slot error w past holds failed
          · exact fun _ _ => id
        · exact fun error w past holds failed => cleans slot error w past holds failed
        · exact fun _ _ => id
      · intro _
        apply Upholds.seq (Upholds.times (stable.feed failing (by decide)) _) holds
        · exact fun _ w past holds => reports slot true w past holds
        · exact fun error w past holds failed => cleans slot error w past holds failed
        · exact fun _ _ => id
    · exact fun error w past holds failed => cleans slot error w past holds failed
    · exact fun _ _ => id
  · exact fun _ _ _ holds failed => ⟨holds, failed⟩
  · exact fun _ _ => id

theorem ejectPaper (stable : WireStable rely inv p) (failing : WireFails inv p fails) :
    Upholds rely inv fails (Printer.ejectPaper p) :=
  fun _ _ holds => (stable.ensures_ejectPaper failing holds).mono (fun _ _ _ => And.left)
    (fun _ _ _ => id) (fun _ _ => id)

theorem checkReady (stable : WireStable rely inv p) (failing : WireFails inv p fails) :
    Upholds rely inv fails (Printer.checkReady p) := by
  apply Upholds.bind (stable.queryLid failing)
  rintro (_ | _ | _)
  · exact Upholds.pure _
  · apply Upholds.bind (stable.queryPaper failing)
    rintro (_ | _ | _) <;> exact Upholds.pure _
  · exact Upholds.pure _

/-! ## Printing -/

/-- The exceptions a transfer may end with beside those of its writes. -/
structure TransferFails (inv : World → List TraceEvent → Prop) (p : PrinterId)
    (fails : PyExc → Prop) (abort : World → Bool) : Prop extends WireFails inv p fails where
  chunkless : ∀ w past, inv w past → (w.printers p).transport.effectiveChunkBytes = 0 →
    ∀ text, fails (.zeroDivisionError text)
  cancelled : ∀ w past, inv w past → abort w = true → fails (.printAborted .cancelled)
  lidOpened : fails (.printAborted .lidOpened)
  sheetRanOut : ∀ text, fails (.sheetRanOut text)
  silent : fails (.timeoutError "Timed out waiting for print completion signal")

/-- Any exception. -/
theorem transferFails_any {abort : World → Bool} :
    TransferFails inv p (fun _ => True) abort where
  toWireFails := .any
  chunkless := fun _ _ _ _ _ => trivial
  cancelled := fun _ _ _ _ => trivial
  lidOpened := trivial
  sheetRanOut := fun _ => trivial
  silent := trivial

theorem awaitCompletion (stable : WireStable rely inv p) {abort : World → Bool}
    (failing : TransferFails inv p fails abort) (entry : Nat) :
    Upholds rely inv fails (Printer.awaitCompletion p entry) :=
  upholds_awaitCompletion stable.pause (stable.queryLid failing.toWireFails) failing.sheetRanOut
    failing.lidOpened failing.silent entry

theorem armJob (stable : WireStable rely inv p) :
    Upholds rely inv fails (Printer.armJob p) :=
  keeps_armJob stable.quiet

theorem disarmJob (stable : WireStable rely inv p) (entry slot : Nat) :
    Upholds rely inv fails (Printer.disarmJob p entry slot) :=
  keeps_disarmJob stable.quiet entry slot

end WireStable

namespace StreamStable

variable {rely : TraceEvent → Prop} {inv : World → List TraceEvent → Prop} {p : PrinterId}
  {fails : PyExc → Prop}

/-- A piece of a page. -/
theorem stream (stable : StreamStable rely inv p) (failing : WireFails inv p fails) {data : Bytes}
    (size : data.length ≤ 20 ∨ ∃ w past, inv w past ∧
      (data.length : Int) ≤ (w.printers p).transport.effectiveChunkBytes) :
    Upholds rely inv fails (BleTransport.write p data) :=
  stable.writes failing size fun w past client => stable.streamed w past client data

theorem writePieces (stable : StreamStable rely inv p) (failing : WireFails inv p fails)
    {size : Nat} (sized : size ≤ 20 ∨ ∃ w past, inv w past ∧
      (size : Int) ≤ (w.printers p).transport.effectiveChunkBytes) (fuel : Nat) (data : Bytes) :
    Upholds rely inv fails (Printer.writePieces p size fuel data) := by
  induction fuel generalizing data with
  | zero => exact Upholds.pure _
  | succ fuel ih =>
      cases data with
      | nil => exact Upholds.pure _
      | cons byte rest =>
          apply Upholds.bind
          · apply stable.stream failing
            rw [List.length_take]
            rcases sized with small | ⟨w, past, holds, fits⟩
            · exact .inl (by omega)
            · exact .inr ⟨w, past, holds, by omega⟩
          · exact fun _ => ih _

theorem padBand (stable : StreamStable rely inv p) (failing : WireFails inv p fails)
    (stream : Bytes) (offset : Nat) (bands : List Band) :
    Upholds rely inv fails (Printer.padBand p stream offset bands) := by
  apply Upholds.read_bind
  intro w past holds
  apply stable.writePieces failing _ _ _ w past holds
  by_cases nonneg : 0 ≤ (w.printers p).transport.effectiveChunkBytes
  · exact .inr ⟨w, past, holds, by omega⟩
  · exact .inl (by omega)

theorem transfer (stable : StreamStable rely inv p) {abort : World → Bool}
    (failing : WireStable.TransferFails inv p fails abort) (job : Printer.Job) (slot : Nat)
    (fraction : ℚ) {onProgress : Nat → Nat → Py Unit}
    (reports : ∀ sent total, Upholds rely inv (fun _ => True) (onProgress sent total)) :
    Upholds rely inv fails (Printer.transfer p job abort slot fraction onProgress) := by
  have wire := failing.toWireFails
  apply Upholds.read_bind
  intro w past holds
  apply Ensures.ite
  · intro zero
    exact Ensures.raise ⟨holds, failing.chunkless w past holds zero _⟩
  · intro _
    refine Upholds.iterate ?_ (0, 0) w past holds
    rintro ⟨offset, sent⟩
    apply Upholds.ite
    · intro _
      apply Upholds.read_bind
      intro now past holdsNow
      have stops : ∀ reason, fails (.printAborted reason) → Upholds rely inv fails
          (Printer.padBand p job.stream offset job.bands >>= fun _ =>
            (raise (.printAborted reason) : Py ((Nat × Nat) ⊕ Unit))) :=
        fun reason allowed => Upholds.bind (stable.padBand wire _ _ _) fun _ =>
          Upholds.raise allowed
      apply Ensures.ite
      · rintro ⟨aborted, -⟩
        exact stops .cancelled (failing.cancelled now past holdsNow aborted) now past holdsNow
      · intro _
        apply Ensures.ite
        · intro _
          exact stops .lidOpened failing.lidOpened now past holdsNow
        · intro _
          apply Ensures.ite
          · intro _
            exact Ensures.raise ⟨holdsNow, failing.sheetRanOut _⟩
          · intro _
            refine Upholds.bind (stable.stream wire ?_) (fun _ => ?_) now past holdsNow
            · rw [List.length_take]
              by_cases nonneg : 0 ≤ (w.printers p).transport.effectiveChunkBytes
              · exact .inr ⟨w, _, holds, by omega⟩
              · exact .inl (by omega)
            · apply Upholds.bind (stable.modify fun w => World.quiet_setRowsSent p _)
              intro _
              apply Upholds.bind
                (Upholds.handle (reports _ _) fun _ _ => Upholds.pure _)
              exact fun _ => Upholds.pure _
    · exact fun _ => Upholds.pure _

/-- A print on a live link: the job runs under the invariant, and a return is recorded last. -/
theorem ensures_printBitmap (stable : StreamStable rely inv p) {abort : World → Bool}
    (failing : WireStable.TransferFails inv p fails abort)
    {onProgress : Nat → Nat → Py Unit}
    (reports : ∀ sent total, Upholds rely inv (fun _ => True) (onProgress sent total))
    {post : Post PyExc World TraceEvent Unit} {w : World} {past : List TraceEvent}
    {bitmap : Bytes} {height : Nat} {density : Option Density}
    (called : ∀ call : PrintCall, call.printer = p → call.bitmap = bitmap →
      call.height = height → call.held = w.bridge.printer →
      call.widthBytes = (w.printers p).profile.widthBytes → call.linked = w.isConnected p →
      rely (.printCalled call) → inv w (past ++ [.printCalled call]))
    (unlinked : ∀ call : PrintCall, call.linked = false → rely (.printCalled call) →
      ∀ past, inv w past → post.raised (.runtimeError "Not connected") w past)
    (unbuilt : ∀ exc, buildRasterStream (w.printers p).profile bitmap height density .normal 20 =
      some (.error exc) → ∀ past, inv w past → post.raised exc w past)
    (returned : ∀ w past, inv w past → rely .printReturned →
      post.returned () w (past ++ [.printReturned]))
    (raised : ∀ error w past, inv w past → fails error → post.raised error w past)
    (waiting : ∀ w past, inv w past → post.waiting w past) :
    Ensures rely (Printer.printBitmap p bitmap height density abort onProgress) post w past := by
  apply Ensures.read_bind
  apply Ensures.emit_bind
  intro relied
  have begun := called _ rfl rfl rfl rfl rfl rfl relied
  apply Ensures.ite
  · intro _
    cases built : buildRasterStream (w.printers p).profile bitmap height density .normal 20 with
    | none => exact Ensures.diverge (waiting _ _ begun)
    | some outcome =>
        cases outcome with
        | error exc => exact Ensures.raise (unbuilt exc built _ begun)
        | ok job =>
            obtain ⟨stream, bands⟩ := job
            apply Upholds.seq stable.armJob begun
            · rintro ⟨entry, slot⟩ w past holds
              apply Upholds.seq (Upholds.andFinally
                (Upholds.bind (stable.transfer failing _ _ _ reports) fun _ =>
                  stable.awaitCompletion failing _)
                (stable.disarmJob _ _)) holds
              · exact fun _ w past holds => Ensures.emit (returned w past holds)
              · exact raised
              · exact waiting
            · exact raised
            · exact waiting
  · intro notLinked
    exact Ensures.raise (unlinked _ (Bool.eq_false_of_not_eq_true notLinked) relied _ begun)

end StreamStable

/-! ## What the bridge asks of a printer -/

namespace WireStable

variable {rely : TraceEvent → Prop} {inv : World → List TraceEvent → Prop} {p : PrinterId}
  {fails : PyExc → Prop}

theorem bridgeSerial (stable : WireStable rely inv p) :
    Upholds rely inv fails (Bridge.querySerial p) :=
  Upholds.handle (stable.querySerial .any) fun _ _ => Upholds.pure _

theorem applyAutoOff (stable : WireStable rely inv p) (env : Env) :
    Upholds rely inv fails (Bridge.applyAutoOff env p) := by
  unfold Bridge.applyAutoOff
  cases env.autoOffMinutes with
  | none => exact Upholds.pure _
  | some wanted =>
      have notes : Keeps rely inv (do
          let w ← Coroutine.read
          Bridge.remember (w.printers p).addressText [("auto_off_minutes", .int wanted)]) :=
        Upholds.bind Upholds.read fun _ => stable.remember _ _
      have sets : Keeps rely inv (do
          let current ← Printer.queryAutoOff p
          if current ≠ some wanted then
            Printer.setAutoOffTimer p wanted
          let w ← Coroutine.read
          Bridge.remember (w.printers p).addressText [("auto_off_minutes", .int wanted)]) := by
        apply Upholds.bind (stable.queryAutoOff .any)
        intro current
        apply Upholds.ite
        · exact fun _ => Upholds.bind (stable.setAutoOffTimer wanted) fun _ => notes
        · exact fun _ => notes
      exact Upholds.handle sets fun _ _ => Upholds.pure _

end WireStable

end Phomemo
